/-
# Outbound.Proofs.Settings.Sources — what the environment decides of the settings

Settings are resolved in two stages: each is given a datum, by the configuration, its
variable or its default (`Configuration.datum`), and the four data are brought to their
types (`Settings.ofData`).  The environment comes in at the first stage only, and only
where the configuration gives nothing (`Configuration.datum_congr`).

A setting that was set is given by the configuration whatever its value, with one
exception: a redirect policy that was set to none cannot be told from one that was not
set, and gives way to its variable (`Config.explicit_eq_absent_iff`).  So two
environments that agree on what was left open resolve a configuration alike unless they
differ in the redirect policy of such a configuration (`Config.resolved_alike_iff`).
-/
import Outbound.Proofs.Fallible
import Outbound.Settings.Resolve

namespace Outbound

set_option autoImplicit false

/-! ## The two stages -/

/-- The datum of a setting that neither the configuration nor the environment gives. -/
def SettingName.default : SettingName → Datum
  | .method => .text "GET"
  | .useRawUrl => .bool false
  | .timeoutMs => .int 0
  | .followRedirects => .absent

/-- The datum that a setting is resolved from. -/
def Configuration.datum (configuration : Configuration) (env : Environment) (name : SettingName) :
    Datum :=
  resolve env (configuration.explicit name) [name.variable] name.default

/-- The settings of data, each brought to its type. -/
def Settings.ofData (data : SettingName → Datum) : Except ResolveFault Settings :=
  (integer? (data .timeoutMs)).map fun timeout =>
    { method := Text.upper (data .method).written
      useRawUrl := (truth? (data .useRawUrl)).getD false
      timeoutMs := max (timeout.getD 0) 0
      followRedirects := truth? (data .followRedirects) }

theorem resolveConfig_eq (env : Environment) (configuration : Configuration) :
    resolveConfig env configuration = Settings.ofData (configuration.datum env) := by
  show (integer? (configuration.datum env .timeoutMs) >>= fun timeout => _) = _
  rw [Settings.ofData]
  cases integer? (configuration.datum env .timeoutMs) <;> rfl

/-- Data that differ in the redirect policy only make the same settings when they make the same
policy. -/
theorem Settings.ofData_eq_iff {data data' : SettingName → Datum}
    (same : ∀ name, name ≠ .followRedirects → data name = data' name)
    (readable : ∃ n, integer? (data .timeoutMs) = .ok n) :
    ofData data = ofData data' ↔ truth? (data .followRedirects) = truth? (data' .followRedirects) := by
  obtain ⟨n, isInteger⟩ := readable
  have isInteger' : integer? (data' .timeoutMs) = .ok n := same .timeoutMs nofun ▸ isInteger
  rw [ofData, ofData, isInteger, isInteger', same .method nofun, same .useRawUrl nofun]
  constructor
  · intro equal
    exact congrArg Settings.followRedirects (Except.ok.inj equal)
  · intro equal
    rw [equal]

/-! ## Sources -/

theorem resolve_of_present {env : Environment} {arg : Datum} (present : arg ≠ .absent)
    (keys : List String) (default : Datum) : resolve env arg keys default = arg := by
  cases arg with
  | absent => exact absurd rfl present
  | _ => rfl

@[simp] theorem resolve_absent (env : Environment) (key : String) (default : Datum) :
    resolve env .absent [key] default = ((env.get? key).map Datum.text).getD default := by
  rw [resolve, List.findSome?_singleton]
  cases env.get? key <;> rfl

section

variable {configuration : Configuration} {env env' : Environment} {name : SettingName}

theorem Configuration.datum_of_explicit (given : configuration.explicit name ≠ .absent) :
    configuration.datum env name = configuration.explicit name :=
  resolve_of_present given _ _

theorem Configuration.datum_of_absent (left : configuration.explicit name = .absent) :
    configuration.datum env name =
      ((env.get? name.variable).map Datum.text).getD name.default := by
  rw [datum, left, resolve_absent]

/-- The environment is looked at where the configuration gives nothing. -/
theorem Configuration.datum_congr
    (same : configuration.explicit name = .absent →
      env.get? name.variable = env'.get? name.variable) :
    configuration.datum env name = configuration.datum env' name := by
  by_cases absent : configuration.explicit name = .absent
  · rw [datum_of_absent absent, datum_of_absent absent, same absent]
  · rw [datum_of_explicit absent, datum_of_explicit absent]

end

def Environment.redirects? (env : Environment) : Option Bool :=
  (env.get? SettingName.followRedirects.variable).map fun word =>
    affirmations.contains (Text.lower word)

namespace Config

variable {config : Config} {env env' : Environment}

/-- The redirect policy was set, to none. -/
def DefersRedirects (config : Config) : Prop :=
  config.isSet .followRedirects = true ∧ config.settings.followRedirects = none

/-- The timeout of a configuration is an integer, or the text of a variable. -/
theorem exists_integer?_timeout (config : Config) (env : Environment) :
    ∃ n, integer? ((Configuration.checked config).datum env .timeoutMs) = .ok n := by
  show ∃ n, integer? (resolve env (config.explicit .timeoutMs) _ _) = .ok n
  rw [explicit]
  by_cases isSet : config.isSet .timeoutMs = true
  · rw [if_pos isSet]
    exact ⟨_, rfl⟩
  · rw [if_neg isSet, resolve_absent]
    cases env.get? SettingName.timeoutMs.variable <;> exact ⟨_, rfl⟩

/-- A setting that was set is given, but for a redirect policy of none. -/
theorem explicit_eq_absent_iff {name : SettingName} : config.explicit name = .absent ↔
    config.isSet name = false ∨ (name = .followRedirects ∧ config.DefersRedirects) := by
  rw [explicit]
  by_cases isSet : config.isSet name = true
  · rw [if_pos isSet]
    cases name with
    | followRedirects =>
        rw [Settings.datum, DefersRedirects, isSet]
        cases config.settings.followRedirects <;> simp
    | _ => simp [Settings.datum, isSet]
  · simp [isSet]

/-! ## Two environments -/

/-- The environments have the same variables of the settings that were not set. -/
def Agree (config : Config) (env env' : Environment) : Prop :=
  ∀ name, config.isSet name = false → env.get? name.variable = env'.get? name.variable

/-- What was set to something else than no redirect policy is not looked up. -/
theorem datum_congr (agree : config.Agree env env') {name : SettingName}
    (decided : name ≠ .followRedirects ∨ ¬ config.DefersRedirects) :
    (Configuration.checked config).datum env name = (Configuration.checked config).datum env' name := by
  refine Configuration.datum_congr fun absent => agree name ?_
  rcases explicit_eq_absent_iff.1 absent with unset | ⟨isRedirects, defers⟩
  · exact unset
  · rcases decided with other | decides
    · exact absurd isRedirects other
    · exact absurd defers decides

/-- A redirect policy that was set to none is that of the environment. -/
theorem truth?_of_defers (defers : config.DefersRedirects) :
    truth? ((Configuration.checked config).datum env .followRedirects) = env.redirects? := by
  have absent : (Configuration.checked config).explicit .followRedirects = .absent :=
    explicit_eq_absent_iff.2 (.inr ⟨rfl, defers⟩)
  rw [Configuration.datum_of_absent absent, Environment.redirects?]
  cases env.get? SettingName.followRedirects.variable <;> rfl

/-- **What was set is independent of the environment**, but for a redirect policy that was set to
none: between environments with the same variables of the other settings, the configuration is
resolved alike exactly when it has no such policy or they state the same one. -/
theorem resolved_alike_iff (agree : config.Agree env env') :
    resolveConfig env (.checked config) = resolveConfig env' (.checked config) ↔
      (config.DefersRedirects → env.redirects? = env'.redirects?) := by
  have same : ∀ name, name ≠ .followRedirects → (Configuration.checked config).datum env name =
      (Configuration.checked config).datum env' name :=
    fun name other => config.datum_congr agree (.inl other)
  rw [resolveConfig_eq, resolveConfig_eq,
    Settings.ofData_eq_iff same (exists_integer?_timeout config env)]
  by_cases defers : config.DefersRedirects
  · rw [truth?_of_defers defers, truth?_of_defers defers]
    exact ⟨fun stated _ => stated, fun stated => stated defers⟩
  · rw [config.datum_congr agree (.inr defers)]
    exact ⟨fun _ holds => absurd holds defers, fun _ => rfl⟩

/-- The method and the redirect policy are set, in environments that differ in both and agree on the
timeout. -/
theorem resolved_alike_of_redirects_set :
    let config : Config :=
      { settings := { method := "put", followRedirects := some false }
        isSet := fun name => name = .method || name = .followRedirects }
    let env : Environment := [("FETCH_REQUEST_METHOD", "post"), ("FETCH_REQUEST_TIMEOUT_MS", "7")]
    let env' : Environment :=
      [("FETCH_REQUEST_TIMEOUT_MS", "7"), ("FETCH_REQUEST_FOLLOW_REDIRECTS", "yes")]
    resolveConfig env (.checked config) = resolveConfig env' (.checked config) ∧
      resolveConfig env (.checked config) =
        .ok { method := "PUT", timeoutMs := 7, followRedirects := some false } := by
  intro config env env'
  have agree : config.Agree env env' := by
    intro name unset
    cases name with
    | useRawUrl => rfl
    | timeoutMs => rfl
    | _ => cases unset
  have resolved : resolveConfig env (.checked config) =
      .ok { method := "PUT", timeoutMs := 7, followRedirects := some false } := by
    have method : Text.upper "put" = "PUT" := by decide +kernel
    rw [← method]
    rfl
  refine ⟨(resolved_alike_iff agree).2 fun defers => ?_, resolved⟩
  cases defers.2

/-- A redirect policy that was set to none is another one in another environment. -/
theorem redirects_of_environment :
    let env : Environment := [("FETCH_REQUEST_FOLLOW_REDIRECTS", "true")]
    ∃ config, Config.ofEntries [("follow_redirects", .absent)] = .ok config ∧
      config.isSet .followRedirects = true ∧ config.Agree [] env ∧
      resolveConfig [] (.checked config) = .ok { followRedirects := none } ∧
      resolveConfig env (.checked config) = .ok { followRedirects := some true } := by
  refine ⟨_, rfl, rfl, ?_, by rfl, by rfl⟩
  intro name unset
  cases name with
  | followRedirects => cases unset
  | _ => rfl

end Config

end Outbound
