/-
# Outbound.Proofs.Auth.Masking — what a log tells of a key

Two texts have one mask when they have the same length and, where a mask shows
anything, the same first characters (`mask_eq_iff`).  A log line that shows a key
only by its mask is therefore the same for two keys of one mask.

A bearer also logs the mask of its header value, in which `Bearer ` stands in front
of the key.  It is longer than the key, so three characters of a key are shown that
its own mask hides (`mask_bearer_eq_iff`).  This is all that a log tells besides
masks: two runs whose keys have the same masks log the same, unless they are those
of a bearer whose keys have more than three characters and differ in the first
three (`log_eq_iff`).
-/
import Mathlib.Data.List.Basic
import Outbound.Proofs.Auth.Header

namespace Outbound

set_option autoImplicit false

/-! ## Masks -/

namespace Record

theorem toList_mask_short {s : String} (nonempty : s ≠ "") (short : s.length ≤ shownPrefix) :
    (mask (some s)).toList = List.replicate s.length '*' := by
  have chars : s.toList ≠ [] := by simpa using nonempty
  simp only [mask, if_neg chars, String.length_toList, if_pos short, String.toList_ofList]

theorem toList_mask_long {s : String} (long : shownPrefix < s.length) :
    (mask (some s)).toList =
      s.toList.take shownPrefix ++ List.replicate (s.length - shownPrefix) '*' := by
  have chars : s.toList ≠ [] := by
    intro none
    rw [← String.length_toList, none] at long
    exact absurd long (Nat.not_lt_zero _)
  simp only [mask, if_neg chars, String.length_toList, if_neg (Nat.not_le_of_lt long),
    String.toList_ofList]

/-- A mask is as long as what it masks. -/
@[simp] theorem length_mask {s : String} (nonempty : s ≠ "") :
    (mask (some s)).length = s.length := by
  rw [← String.length_toList]
  by_cases short : s.length ≤ shownPrefix
  · rw [toList_mask_short nonempty short, List.length_replicate]
  · have long : shownPrefix < s.length := by omega
    rw [toList_mask_long long, List.length_append, List.length_take, List.length_replicate,
      String.length_toList]
    omega

/-- What is masked is not taken for nothing. -/
theorem mask_ne_mask_none {s : String} (nonempty : s ≠ "") : mask (some s) ≠ mask none := by
  intro same
  have length : s.length = 7 := by
    rw [← length_mask nonempty, same]
    rfl
  have short : s.length ≤ shownPrefix := by
    rw [length]
    decide
  have chars := toList_mask_short nonempty short
  rw [same, length] at chars
  revert chars
  decide

/-- Two texts have one mask when they are equally long and begin alike as far as a mask shows. -/
theorem mask_eq_iff {s t : String} (some_s : s ≠ "") (some_t : t ≠ "") :
    mask (some s) = mask (some t) ↔ s.length = t.length ∧
      (shownPrefix < s.length → s.toList.take shownPrefix = t.toList.take shownPrefix) := by
  constructor
  · intro same
    have length : s.length = t.length := by
      rw [← length_mask some_s, same, length_mask some_t]
    refine ⟨length, ?_⟩
    intro long
    have chars : (mask (some s)).toList = (mask (some t)).toList := congrArg _ same
    rw [toList_mask_long long, toList_mask_long (length ▸ long), length] at chars
    exact List.append_cancel_right chars
  · rintro ⟨length, shown⟩
    rw [← String.toList_inj]
    by_cases short : s.length ≤ shownPrefix
    · rw [toList_mask_short some_s short, toList_mask_short some_t (length ▸ short), length]
    · have long : shownPrefix < s.length := by omega
      rw [toList_mask_long long, toList_mask_long (length ▸ long), shown long, length]

/-- The mask of a bearer's header shows three characters of the key. -/
theorem mask_bearer_eq_iff {s t : String} (length : s.length = t.length) :
    mask (some ("Bearer " ++ s)) = mask (some ("Bearer " ++ t)) ↔
      s.length ≤ 3 ∨ s.toList.take 3 = t.toList.take 3 := by
  have opened : ∀ u : String, "Bearer " ++ u ≠ "" := by simp
  have shows : ∀ u : String, ("Bearer " ++ u).toList.take shownPrefix =
      "Bearer ".toList ++ u.toList.take 3 := by
    intro u
    rw [String.toList_append, List.take_append]
    rfl
  have lengths : ∀ u : String, ("Bearer " ++ u).length = 7 + u.length := by
    intro u
    rw [String.length_append]
    rfl
  rw [mask_eq_iff (opened s) (opened t), lengths, lengths, length, shows, shows,
    List.append_cancel_left_eq]
  simp only [shownPrefix, true_and]
  constructor
  · intro shown
    by_cases short : t.length ≤ 3
    · exact .inl short
    · exact .inr (shown (by omega))
  · rintro (short | shown) long
    · omega
    · exact shown

end Record

/-! ## Logs -/

/-- A key that is found is not empty. -/
theorem KeySource.ne_empty_of_key? {source : KeySource} {context : SigningContext} {key : String}
    (found : source.key? context = .ok (some key)) : key ≠ "" := by
  have filled : ∀ text : Option String, nonempty text = some key → key ≠ "" := by
    intro text isKey
    simpa using (Option.filter_eq_some_iff.1 isKey).2
  obtain ⟨own, resolver⟩ := source
  cases resolver with
  | none => exact filled own (Except.ok.inj found)
  | some resolver =>
      obtain ⟨answer, -, isKey⟩ := map_eq_ok_iff.1 found
      rcases Option.or_eq_some_iff.1 isKey with answered | ⟨-, static⟩
      · exact filled answer answered
      · exact filled own static

def Event.record? : Event → Option Record
  | .logged record => some record
  | _ => none

/-- What is told by a computation that starts with nothing told, whether or not it fails. -/
def Traced.told {ε α : Type} (action : Traced ε α) : List Event :=
  match action [] with
  | .ok _ events => events
  | .error _ events => events

namespace AuthHandler

/-- What is logged when the handler of a configuration is made and asked for a header. -/
def log (config : AuthConfig) (resolver : Option KeyResolver) (context : SigningContext) :
    List Record :=
  creationLog config ++
    (Traced.told ((ofConfig config resolver).header? context)).filterMap Event.record?

/-- Besides the making of a handler, what is logged is the header for the key that is found. -/
theorem log_eq {config : AuthConfig} {resolver : Option KeyResolver} {context : SigningContext}
    {key : Option String} (found : (ofConfig config resolver).source.key? context = .ok key) :
    log config resolver context =
      creationLog config ++ (key.map (ofConfig config resolver).record).toList := by
  have unheard : ((ofConfig config resolver).source.asked context).filterMap Event.record? = [] := by
    rw [KeySource.asked]
    cases (ofConfig config resolver).source.resolver <;> rfl
  rw [log, Traced.told, header?_eq, found]
  cases key with
  | none => simp [unheard]
  | some key => simp [unheard, Event.record?]

theorem record_ofConfig (config : AuthConfig) (raw : Option String)
    (resolver other : Option KeyResolver) :
    (ofConfig { config with rawApiKey := raw } other).record = (ofConfig config resolver).record := by
  funext key
  simp only [ofConfig]
  cases config.kind <;> rfl

/-- A handler logs the same for two keys of one mask, unless it is a bearer whose headers have
different masks. -/
theorem record_eq_iff {config : AuthConfig} {resolver : Option KeyResolver} {s t : String}
    (known : ∀ name, config.kind ≠ .unknown name)
    (masks : Record.mask (some s) = Record.mask (some t)) :
    (ofConfig config resolver).record s = (ofConfig config resolver).record t ↔
      (config.kind = .bearer →
        Record.mask (some ("Bearer " ++ s)) = Record.mask (some ("Bearer " ++ t))) := by
  rw [ofConfig]
  cases kind : config.kind with
  | bearer =>
      simp only [record, masks, forall_const, Record.mk.injEq, true_and]
      constructor
      · intro same
        have chars := congrArg String.toList same
        simp only [String.toList_append, List.append_cancel_left_eq] at chars
        exact String.toList_inj.1 chars
      · intro same
        rw [same]
  | basic => simp [record, masks]
  | xApiKey => simp [record, masks]
  | custom => simp [record, masks]
  | unknown name => exact absurd kind (known name)

/-- **Two runs that differ in the key only, the keys having one mask, log the same unless they are
those of a bearer** whose keys have more than three characters and differ in the first three. -/
theorem log_eq_iff {config : AuthConfig} {raw : Option String} {resolver other : Option KeyResolver}
    {context : SigningContext} {key otherKey : Option String}
    (known : ∀ name, config.kind ≠ .unknown name)
    (raws : Record.mask config.rawApiKey = Record.mask raw)
    (found : (ofConfig config resolver).source.key? context = .ok key)
    (otherFound :
      (ofConfig { config with rawApiKey := raw } other).source.key? context = .ok otherKey)
    (masks : Record.mask key = Record.mask otherKey) :
    log config resolver context = log { config with rawApiKey := raw } other context ↔
      (config.kind = .bearer → ∀ s ∈ key, ∀ t ∈ otherKey,
        s.length ≤ 3 ∨ s.toList.take 3 = t.toList.take 3) := by
  have made : creationLog { config with rawApiKey := raw } = creationLog config := by
    simp only [creationLog, raws]
  rw [log_eq found, log_eq otherFound, made, List.append_cancel_left_eq,
    record_ofConfig config raw resolver other]
  cases key with
  | none =>
      cases otherKey with
      | none => simp
      | some t =>
          have some_t := KeySource.ne_empty_of_key? otherFound
          exact absurd masks.symm (Record.mask_ne_mask_none some_t)
  | some s =>
      have some_s := KeySource.ne_empty_of_key? found
      cases otherKey with
      | none => exact absurd masks (Record.mask_ne_mask_none some_s)
      | some t =>
          have some_t := KeySource.ne_empty_of_key? otherFound
          have length := ((Record.mask_eq_iff some_s some_t).1 masks).1
          simp only [Option.map_some, Option.toList_some, List.cons.injEq, and_true,
            Option.mem_some_iff, forall_eq']
          rw [record_eq_iff known masks, Record.mask_bearer_eq_iff length]

/-- Two answers of a resolver that have one mask, and the same first three characters. -/
theorem log_eq_of_resolved_keys :
    let config : AuthConfig := { kind := .bearer, rawApiKey := some "a static key" }
    log config (some fun _ => .ok (some "abcdef")) {} =
      log config (some fun _ => .ok (some "abcxyz")) {} := by
  intro config
  have known : ∀ name, config.kind ≠ .unknown name := by
    intro name isUnknown
    cases isUnknown
  have found : (ofConfig config (some fun _ => .ok (some "abcdef"))).source.key? {} =
      .ok (some "abcdef") := rfl
  have otherFound : (ofConfig { config with rawApiKey := some "a static key" }
      (some fun _ => .ok (some "abcxyz"))).source.key? {} = .ok (some "abcxyz") := rfl
  have masks : Record.mask (some "abcdef") = Record.mask (some "abcxyz") := by decide +kernel
  apply (log_eq_iff known rfl found otherFound masks).2
  intro isBearer s isKey t isKey'
  obtain rfl := Option.some.inj isKey
  obtain rfl := Option.some.inj isKey'
  right
  decide +kernel

/-- A key of six characters is hidden by its mask, but a bearer logs its first three. -/
theorem log_of_hidden_key :
    let config (key : String) : AuthConfig := { kind := .bearer, rawApiKey := some key }
    Record.mask (some "abcdef") = "******" ∧ Record.mask (some "***def") = "******" ∧
      log (config "abcdef") none {} ≠ log (config "***def") none {} := by
  decide +kernel

end AuthHandler

end Outbound
