/-
# Outbound.Proofs.Content — which lengths and charsets the content headers state

What a header value states is said without the way it is read.  A length is an
integer in ASCII digits, with an optional sign and with blanks around it (`States`);
the reader finds it, and fails exactly when the digits are too many, also where they
are zeros (`length?_of_states`, `length?_of_silent`).

A charset is the value of the first parameter of that name, in whatever case
(`IsCharset`), without the blanks around it and without quotes.  An empty value is no
charset, and the parameters after it do not count (`charset?_eq_some_iff`).
-/
import Mathlib.Tactic.IntervalCases
import Outbound.Content
import Outbound.Proofs.Text.Cut
import Outbound.Proofs.Text.Numeral
import Outbound.Proofs.Text.Trimmed

namespace Outbound.Content

set_option autoImplicit false

open Text (Trims isAsciiDigit)

/-! ## Lengths -/

/-- One or more ASCII digits. -/
def IsNumeral (s : List Char) : Prop := s ≠ [] ∧ ∀ c ∈ s, isAsciiDigit c = true

/-- A text that is an integer, written in so many digits after an optional sign. -/
inductive Spells : List Char → Int → Nat → Prop where
  | unsigned {s : List Char} (numeral : IsNumeral s) :
      Spells s (Nat.ofDigitChars 10 s 0) s.length
  | plus {s : List Char} (numeral : IsNumeral s) :
      Spells ('+' :: s) (Nat.ofDigitChars 10 s 0) s.length
  | minus {s : List Char} (numeral : IsNumeral s) :
      Spells ('-' :: s) (-Nat.ofDigitChars 10 s 0) s.length

/-- The value of a header states an integer in so many digits; blanks around them do not count. -/
def States (value : String) (n : Int) (digits : Nat) : Prop :=
  ∃ t, Trims value.toList t ∧ Spells t n digits

theorem asciiDigits?_of_numeral {s : List Char} (numeral : IsNumeral s) :
    Text.Numeral.asciiDigits? s = some (s.map Text.asciiValue) :=
  if_pos ⟨numeral.1, List.all_eq_true.2 numeral.2⟩

theorem numeral_of_asciiDigits? {s : List Char} {digits : List Nat}
    (read : Text.Numeral.asciiDigits? s = some digits) :
    IsNumeral s ∧ digits = s.map Text.asciiValue := by
  rw [Text.Numeral.asciiDigits?] at read
  split at read
  · rename_i numeral
    exact ⟨⟨numeral.1, List.all_eq_true.1 numeral.2⟩, (Option.some.inj read).symm⟩
  · cases read

theorem ofDigits_map_asciiValue (s : List Char) :
    Text.ofDigits (s.map Text.asciiValue) = Nat.ofDigitChars 10 s 0 := by
  rw [Text.ofDigits, List.foldl_map]
  rfl

/-- A numeral does not begin with a sign. -/
theorem sign_of_numeral {s : List Char} (numeral : IsNumeral s) :
    Text.Numeral.sign s = (false, s) := by
  cases s with
  | nil => exact absurd rfl numeral.1
  | cons c more =>
      have digit := numeral.2 c List.mem_cons_self
      have notMinus : c ≠ '-' := by
        rintro rfl
        exact absurd digit (by decide)
      have notPlus : c ≠ '+' := by
        rintro rfl
        exact absurd digit (by decide)
      simp [Text.Numeral.sign, notMinus, notPlus]

theorem spells_iff {t : List Char} {n : Int} {digits : Nat} : Spells t n digits ↔
    IsNumeral (Text.Numeral.sign t).2 ∧ digits = (Text.Numeral.sign t).2.length ∧
      n = Text.Numeral.signed (Text.Numeral.sign t).1
        (Nat.ofDigitChars 10 (Text.Numeral.sign t).2 0) := by
  constructor
  · intro spells
    cases spells with
    | unsigned numeral =>
        rw [sign_of_numeral numeral]
        exact ⟨numeral, rfl, rfl⟩
    | plus numeral => exact ⟨numeral, rfl, rfl⟩
    | minus numeral => exact ⟨numeral, rfl, rfl⟩
  · rintro ⟨numeral, rfl, rfl⟩
    revert numeral
    unfold Text.Numeral.sign
    split
    · exact .minus
    · exact .plus
    · exact .unsigned

/-- Digits alone state their number. -/
theorem states_of_numeral {s : List Char} (numeral : IsNumeral s) :
    States (String.ofList s) (Nat.ofDigitChars 10 s 0) s.length := by
  have notBlank : ∀ c ∈ s, Text.isBlank c = false := by
    intro c mem
    have bounds : 48 ≤ c.toNat ∧ c.toNat ≤ 57 := by
      simpa [isAsciiDigit, Char.le_def, UInt32.le_iff_toNat_le] using numeral.2 c mem
    rw [Text.isBlank]
    generalize c.toNat = n at bounds
    obtain ⟨low, high⟩ := bounds
    interval_cases n <;> rfl
  refine ⟨s, ?_, .unsigned numeral⟩
  rw [String.toList_ofList]
  exact ⟨⟨[], [], by simp, List.forall_mem_nil _, List.forall_mem_nil _⟩,
    fun c first => notBlank c (List.mem_of_mem_head? first),
    fun c last => notBlank c (List.mem_of_mem_getLast? last)⟩

/-- What is read of a value that states an integer. -/
theorem length?_of_states {value : String} {n : Int} {digits : Nat}
    (states : States value n digits) : length? value =
      if Text.Numeral.maxDigits < digits then .error ⟨digits⟩ else .ok (some n) := by
  obtain ⟨t, trims, spells⟩ := states
  obtain ⟨numeral, rfl, rfl⟩ := spells_iff.1 spells
  rw [length?, Text.trim_eq_iff.2 trims]
  simp only [asciiDigits?_of_numeral numeral, Text.Numeral.ofDigits?, List.length_map,
    ofDigits_map_asciiValue]
  split <;> rfl

/-- A value that states no integer is read as none. -/
theorem length?_of_silent {value : String} (silent : ∀ n digits, ¬ States value n digits) :
    length? value = .ok none := by
  rw [length?]
  cases read : Text.Numeral.asciiDigits? (Text.Numeral.sign (Text.trim value.toList)).2 with
  | none =>
      simp only
      rw [read]
  | some digits =>
      have numeral := (numeral_of_asciiDigits? read).1
      exact absurd ⟨_, Text.trims_trim _, spells_iff.2 ⟨numeral, rfl, rfl⟩⟩ (silent _ _)

/-- A value states at most one integer. -/
theorem States.unique {value : String} {n n' : Int} {digits digits' : Nat}
    (states : States value n digits) (states' : States value n' digits') :
    n = n' ∧ digits = digits' := by
  obtain ⟨t, trims, spells⟩ := states
  obtain ⟨t', trims', spells'⟩ := states'
  obtain rfl : t = t' := (Text.trim_eq_iff.2 trims).symm.trans (Text.trim_eq_iff.2 trims')
  obtain ⟨-, isDigits, isNumber⟩ := spells_iff.1 spells
  obtain ⟨-, isDigits', isNumber'⟩ := spells_iff.1 spells'
  exact ⟨isNumber.trans isNumber'.symm, isDigits.trans isDigits'.symm⟩

/-! ## Charsets -/

/-- A parameter whose name is `charset` but for blanks and case, and its value without blanks and
quotes. -/
def IsCharset (parameter value : List Char) : Prop :=
  ∃ name rest bare spelled, parameter = name ++ '=' :: rest ∧ '=' ∉ name ∧
    Trims name bare ∧ Text.lower (String.ofList bare) = "charset" ∧
    Trims rest spelled ∧ value = spelled.filter (· ∉ ['"', '\''])

/-- The first parameter for the charset has this value, which is not empty. -/
def Names (contentType charset : String) : Prop :=
  ∃ before parameter after, contentType.toList.splitOn ';' = before ++ parameter :: after ∧
    (∀ p ∈ before, ∀ value, ¬ IsCharset p value) ∧
    IsCharset parameter charset.toList ∧ charset ≠ ""

theorem charsetParameter?_eq_some_iff {parameter value : List Char} :
    charsetParameter? parameter = some value ↔ IsCharset parameter value := by
  have unquoted : ∀ s : List Char, (s.filter fun c => c != '"' && c != '\'') =
      s.filter (· ∉ ['"', '\'']) := by
    intro s
    congr 1
    funext c
    by_cases double : c = '"' <;> by_cases single : c = '\'' <;> simp [double, single]
  rw [charsetParameter?]
  constructor
  · intro found
    split at found
    · rename_i rest cut
      split at found
      · rename_i named
        refine ⟨_, rest, _, _, Text.eq_before_append_of_after? cut, Text.not_mem_before '=' parameter,
          Text.trims_trim _, named, Text.trims_trim _, ?_⟩
        rw [← unquoted]
        exact (Option.some.inj found).symm
      · cases found
    · cases found
  · rintro ⟨name, rest, bare, spelled, rfl, free, isBare, named, isSpelled, rfl⟩
    simp [free, Text.trim_eq_iff.2 isBare, Text.trim_eq_iff.2 isSpelled, named, unquoted]

/-- **The charset of a content type is the one that it names.** -/
theorem charset?_eq_some_iff {contentType charset : String} :
    charset? contentType = some charset ↔ Names contentType charset := by
  have found : ∀ value, (contentType.toList.splitOn ';').findSome? charsetParameter? = some value ↔
      ∃ before parameter after, contentType.toList.splitOn ';' = before ++ parameter :: after ∧
        (∀ p ∈ before, ∀ value, ¬ IsCharset p value) ∧ IsCharset parameter value := by
    intro value
    rw [List.findSome?_eq_some_iff]
    simp only [charsetParameter?_eq_some_iff, Option.eq_none_iff_forall_ne_some, ne_eq]
    constructor
    · rintro ⟨before, parameter, after, cut, isCharset, first⟩
      exact ⟨before, parameter, after, cut, first, isCharset⟩
    · rintro ⟨before, parameter, after, cut, first, isCharset⟩
      exact ⟨before, parameter, after, cut, isCharset, first⟩
  rw [charset?, Text.split_eq_splitOn]
  constructor
  · intro read
    split at read
    · rename_i value isValue
      split at read
      · cases read
      · rename_i filled
        obtain rfl := Option.some.inj read
        obtain ⟨before, parameter, after, cut, first, isCharset⟩ := (found value).1 isValue
        refine ⟨before, parameter, after, cut, first, ?_, by simpa using filled⟩
        rwa [String.toList_ofList]
    · cases read
  · rintro ⟨before, parameter, after, cut, first, isCharset, filled⟩
    rw [(found charset.toList).2 ⟨before, parameter, after, cut, first, isCharset⟩]
    have some_char : charset.toList ≠ [] := by simpa using filled
    simp only [some_char, if_false, String.ofList_toList]

end Outbound.Content
