/-
# Outbound.Proofs.Settings.Resolved — resolved settings are valid, and resolved already

Resolving brings every setting to its type, so it fails for one reason only: an infinite
double was given for the timeout (`exists_resolved_iff`).  What comes out is `Normal`,
with a method in upper case and a timeout that is not negative; such settings are
accepted when they are read again as named data (`Config.ofEntries_entries`), and give
themselves when they are brought to their types again (`Settings.ofData_datum`).

All of them are set then, so a second resolution takes them from the configuration and
not from the environment.  Only a redirect policy of none is looked up again, in vain:
had there been a variable, the first resolution would have taken it
(`unset_of_resolved`).
-/
import Outbound.Proofs.Settings.Sources
import Outbound.Proofs.Text.Case

namespace Outbound

set_option autoImplicit false

/-! ## Data that can be resolved -/

theorem exists_integer?_iff {d : Datum} :
    (∃ n, integer? d = .ok n) ↔ ∀ x, d = .double x → x.magnitude ≠ .infinite := by
  cases d with
  | double x =>
      rw [integer?]
      cases kind : x.magnitude <;> simp [kind]
  | _ => exact ⟨fun _ => nofun, fun _ => ⟨_, rfl⟩⟩

@[simp] theorem truth?_eq_none_iff {d : Datum} : truth? d = none ↔ d = .absent := by
  cases d <;> simp [truth?]

/-- Neither the environment nor a default gives a double. -/
theorem Configuration.explicit_of_datum_eq_double {configuration : Configuration}
    {env : Environment} {name : SettingName} {x : Binary64}
    (isDouble : configuration.datum env name = .double x) :
    configuration.explicit name = .double x := by
  by_cases absent : configuration.explicit name = .absent
  · rw [datum_of_absent absent] at isDouble
    cases found : env.get? name.variable with
    | some value =>
        rw [found] at isDouble
        cases isDouble
    | none =>
        rw [found] at isDouble
        cases name <;> cases isDouble
  · rw [datum_of_explicit absent] at isDouble
    exact isDouble

/-- A configuration can be resolved unless its timeout is an infinite double. -/
theorem exists_resolved_iff {env : Environment} {configuration : Configuration} :
    (∃ settings, resolveConfig env configuration = .ok settings) ↔
      ∀ x, configuration.explicit .timeoutMs = .double x → x.magnitude ≠ .infinite := by
  have readable : (∃ settings, resolveConfig env configuration = .ok settings) ↔
      ∃ n, integer? (configuration.datum env .timeoutMs) = .ok n := by
    rw [resolveConfig_eq, Settings.ofData]
    cases integer? (configuration.datum env .timeoutMs) with
    | ok n => exact ⟨fun _ => ⟨n, rfl⟩, fun _ => ⟨_, rfl⟩⟩
    | error fault =>
        refine ⟨fun read => ?_, fun read => ?_⟩ <;> obtain ⟨_, read⟩ := read <;> cases read
  rw [readable, exists_integer?_iff]
  constructor
  · intro finite x given
    have present : configuration.explicit .timeoutMs ≠ .absent := by simp [given]
    refine finite x ?_
    rw [Configuration.datum_of_explicit present, given]
  · intro finite x isDouble
    exact finite x (Configuration.explicit_of_datum_eq_double isDouble)

/-! ## Normal settings -/

namespace Settings

variable {settings : Settings}

/-- The method is in upper case, and the timeout is not negative. -/
structure Normal (settings : Settings) : Prop where
  method : Text.upper settings.method = settings.method
  timeoutMs : 0 ≤ settings.timeoutMs

theorem normal_of_ofData {data : SettingName → Datum} (made : ofData data = .ok settings) :
    settings.Normal := by
  obtain ⟨timeout, -, rfl⟩ := map_eq_ok_iff.1 made
  exact ⟨Text.upper_upper _, Int.le_max_right _ _⟩

/-- Normal settings give themselves. -/
theorem ofData_datum (normal : settings.Normal) : ofData settings.datum = .ok settings := by
  obtain ⟨method, nonneg⟩ := normal
  obtain ⟨_, _, timeoutMs, followRedirects⟩ := settings
  refine congrArg Except.ok (Settings.mk.injEq .. ▸ ⟨method, rfl, Int.max_eq_left nonneg, ?_⟩)
  cases followRedirects <;> rfl

def entries (settings : Settings) : Check.Entries :=
  [SettingName.method, .useRawUrl, .timeoutMs, .followRedirects].map fun name =>
    (name.field, settings.datum name)

def config (settings : Settings) : Config where
  settings := settings
  isSet _ := true

@[simp] theorem given?_entries (settings : Settings) (name : SettingName) :
    Check.given? settings.entries name.field = some (settings.datum name) := by
  cases name <;> rfl

end Settings

theorem Check.defaulted_of_given {α : Type} {entries : Check.Entries} {name : String} {d : Datum}
    (given : Check.given? entries name = some d) {check : Datum → Check α} {a : α}
    (accepted : check d = .ok a) (default : α) :
    Check.defaulted entries name default check = .ok a := by
  simp only [defaulted, given, accepted]
  rfl

/-- Settings with a timeout that is not negative are accepted as they are. -/
theorem Config.ofEntries_entries {settings : Settings} (nonneg : 0 ≤ settings.timeoutMs) :
    Config.ofEntries settings.entries = .ok settings.config := by
  have given := settings.given?_entries
  have method : Check.text (settings.datum .method) = .ok settings.method := rfl
  have useRawUrl : Check.bool (settings.datum .useRawUrl) = .ok settings.useRawUrl := rfl
  have timeoutMs : Check.natural (settings.datum .timeoutMs) = .ok settings.timeoutMs := by
    show (if settings.timeoutMs < 0 then _ else _) = _
    rw [if_neg (Int.not_lt.2 nonneg)]
    rfl
  have followRedirects : Check.optional Check.bool (settings.datum .followRedirects) =
      .ok settings.followRedirects := by
    rw [Settings.datum]
    cases settings.followRedirects <;> rfl
  rw [Config.ofEntries, Settings.ofEntries, Check.defaulted_of_given (given _) method,
    Check.defaulted_of_given (given _) useRawUrl, Check.defaulted_of_given (given _) timeoutMs,
    Check.defaulted_of_given (given _) followRedirects]
  simp only [given]
  rfl

/-! ## Resolving again -/

section

variable {env : Environment} {configuration : Configuration} {settings : Settings}

/-- Where no redirect policy came out, the environment has none. -/
theorem unset_of_resolved (resolved : resolveConfig env configuration = .ok settings)
    (none : settings.followRedirects = none) :
    env.get? SettingName.followRedirects.variable = .none := by
  rw [resolveConfig_eq] at resolved
  obtain ⟨timeout, -, rfl⟩ := map_eq_ok_iff.1 resolved
  have absent := truth?_eq_none_iff.1 none
  by_cases left : configuration.explicit .followRedirects = .absent
  · rw [Configuration.datum_of_absent left] at absent
    cases found : env.get? SettingName.followRedirects.variable with
    | none => rfl
    | some value =>
        rw [found] at absent
        cases absent
  · rw [Configuration.datum_of_explicit left] at absent
    exact absurd absent left

/-- All settings are taken from the configuration that sets them. -/
theorem datum_config
    (unset : settings.followRedirects = none →
      env.get? SettingName.followRedirects.variable = none) :
    (Configuration.checked settings.config).datum env = settings.datum := by
  funext name
  have explicit : (Configuration.checked settings.config).explicit name = settings.datum name := rfl
  by_cases absent : settings.datum name = .absent
  · rw [Configuration.datum_of_absent (explicit.trans absent), absent]
    cases name with
    | followRedirects =>
        have none : settings.followRedirects = none := by
          rw [Settings.datum] at absent
          cases policy : settings.followRedirects with
          | none => rfl
          | some follow =>
              rw [policy] at absent
              cases absent
        rw [unset none]
        rfl
    | _ => cases absent
  · rw [Configuration.datum_of_explicit (explicit ▸ absent), explicit]

theorem resolveConfig_config (resolved : resolveConfig env configuration = .ok settings) :
    resolveConfig env (.checked settings.config) = .ok settings := by
  rw [resolveConfig_eq, datum_config (unset_of_resolved resolved)]
  rw [resolveConfig_eq] at resolved
  exact Settings.ofData_datum (Settings.normal_of_ofData resolved)

end

/-- The setting may be given the datum: none or a text, and all but the method a truth value or an
integer. -/
def SettingName.takes : SettingName → Datum → Bool
  | _, .absent | _, .text _ => true
  | .method, _ => false
  | _, .bool _ | _, .int _ => true
  | _, _ => false

/-- What is given loosely is given to settings that may be given it. -/
def Configuration.Plain (configuration : Configuration) : Prop :=
  ∀ entries, configuration = .loose entries → ∀ name d,
    Check.given? entries (SettingName.field name) = some d → name.takes d = true

/-- **Resolving always gives settings, which are accepted as a configuration and resolved
already**, whatever the environment. -/
theorem resolved_and_stable (env : Environment) {configuration : Configuration}
    (plain : configuration.Plain) :
    ∃ settings config, resolveConfig env configuration = .ok settings ∧ 0 ≤ settings.timeoutMs ∧
      Config.ofEntries settings.entries = .ok config ∧ config.settings = settings ∧
      resolveConfig env (.checked config) = .ok settings := by
  have finite : ∀ x, configuration.explicit .timeoutMs = .double x → x.magnitude ≠ .infinite := by
    intro x given
    cases configuration with
    | unset => cases given
    | checked config =>
        change config.explicit .timeoutMs = _ at given
        rw [Config.explicit] at given
        split at given <;> cases given
    | loose entries =>
        change (Check.given? entries SettingName.timeoutMs.field).getD .absent = _ at given
        cases found : Check.given? entries SettingName.timeoutMs.field with
        | none =>
            rw [found] at given
            cases given
        | some d =>
            have takes := plain entries rfl .timeoutMs d found
            rw [found] at given
            obtain rfl : d = .double x := given
            cases takes
  obtain ⟨settings, resolved⟩ := exists_resolved_iff.2 finite
  have normal := Settings.normal_of_ofData ((resolveConfig_eq env configuration).symm.trans resolved)
  exact ⟨settings, settings.config, resolved, normal.timeoutMs,
    Config.ofEntries_entries normal.timeoutMs, rfl, resolveConfig_config resolved⟩

/-- A negative timeout in digits and an integer for a truth value are given, and the redirect policy
is left to its variable. -/
theorem resolved_and_stable_loose :
    let configuration : Configuration := .loose [("method", .text "straße"),
      ("request_timeout_in_ms", .text " -5"), ("use_raw_url", .int 2), ("follow_redirects", .absent)]
    let env : Environment := [("FETCH_REQUEST_FOLLOW_REDIRECTS", "Yes"),
      ("FETCH_REQUEST_METHOD", "put")]
    let settings : Settings := ⟨"STRASSE", true, 0, some true⟩
    configuration.Plain ∧ resolveConfig env configuration = .ok settings ∧
      0 ≤ settings.timeoutMs ∧ ∃ config, Config.ofEntries settings.entries = .ok config ∧
        config.settings = settings ∧ resolveConfig env (.checked config) = .ok settings := by
  intro configuration env settings
  have resolved : resolveConfig env configuration = .ok settings := by
    have method : Text.upper "straße" = "STRASSE" := by decide +kernel
    have timeout : Text.Numeral.read? " -5".toList = some (-5) := by decide +kernel
    show (Except.ok (Text.Numeral.read? " -5".toList)).map (fun timeout => Settings.mk
      (Text.upper "straße") true (max (timeout.getD 0) 0) (truth? (.text "Yes"))) = _
    rw [method, timeout]
    rfl
  have plain : configuration.Plain := by
    intro entries same name d found
    obtain rfl := Configuration.loose.inj same
    cases name <;> cases found <;> rfl
  obtain ⟨settings', config, resolved', nonneg, accepted, same, again⟩ := resolved_and_stable env plain
  obtain rfl := Except.ok.inj (resolved.symm.trans resolved')
  exact ⟨plain, resolved, nonneg, config, accepted, same, again⟩

end Outbound
