/-
# Outbound.Proofs.Query.Reading — reading a query, and reading what was written

`pieces` are the segments of a query, `stated` is the rule by which a segment
states a parameter, and both are what the reader does (`segments_eq_pieces`,
`readSegment_eq_stated`).  A second rule is the one of forms (`formParameters`):
there every name and every value is coded, also a name without a value and one
that is empty.

An encoded query has only literal characters, escapes, `=` and `&` (`mem_write`).
An encoded segment has no `&`, and its name no `=`, so that an encoded query has
the segments it was written from, less the empty ones at its end
(`pieces_write`).  By the rule of forms these state the parameters that were
written (`formParameters_write`); by the reader's own rule a name without a value
stays coded, and a value without a name is taken for a name (`stated_segment`).
-/
import Mathlib.Data.List.DropRight
import Outbound.Proofs.Fallible
import Outbound.Proofs.Text.Cut
import Outbound.Proofs.Text.Percent
import Outbound.Query

namespace Outbound.Query

set_option autoImplicit false

open Text.Percent (encodeChars isLiteral)

/-! ## The rules -/

/-- The segments of a query: what stands between `&`, less the empty ones at its end. -/
def pieces (query : String) : List (List Char) :=
  (query.toList.splitOn '&').rdropWhile List.isEmpty

/-- The parameter that a segment states: its two sides of the first `=`, or all of it as a name
without a value when one of the sides is missing. -/
def stated (form : QueryForm) (s : List Char) : Except Text.Percent.Fault Parameter :=
  match s.takeWhile (· ≠ '='), s.dropWhile (· ≠ '=') with
  | first :: more, _ :: value => do
    let name ← readComponent form (first :: more)
    let value ← readComponent form value
    return (name, some value)
  | _, _ => .ok (String.ofList s, none)

/-- The parameter that a segment stands for in a form: both sides of its first `=` decoded, and
no value when there is none. -/
def formParameter (s : List Char) : Except Text.Percent.Fault Parameter := do
  let name ← readComponent .encoded (s.takeWhile (· ≠ '='))
  match s.dropWhile (· ≠ '=') with
  | [] => return (name, none)
  | _ :: value => return (name, some (← readComponent .encoded value))

def formParameters (query : String) : Except Text.Percent.Fault (List Parameter) :=
  (pieces query).mapM formParameter

theorem segments_eq_pieces (query : String) : segments query = pieces query := by
  rw [segments, Text.split_eq_splitOn]
  rfl

theorem readSegment_eq_stated (form : QueryForm) (s : List Char) :
    readSegment form s = stated form s := by
  rw [readSegment, stated, Text.before_eq_takeWhile, Text.after?_eq_dropWhile]
  cases takeWhile : s.takeWhile (· ≠ '=') <;> cases s.dropWhile (· ≠ '=') <;> rfl

/-! ## The three shapes of a segment -/

theorem cut_whole {s : List Char} (free : '=' ∉ s) :
    s.takeWhile (· ≠ '=') = s ∧ s.dropWhile (· ≠ '=') = [] := by
  have passes : ∀ c ∈ s, decide (c ≠ '=') = true := by
    intro c mem
    refine decide_eq_true ?_
    rintro rfl
    exact free mem
  exact ⟨List.takeWhile_eq_self_iff.2 passes, List.dropWhile_eq_nil_iff.2 passes⟩

theorem cut_at {name : List Char} (free : '=' ∉ name) (value : List Char) :
    (name ++ '=' :: value).takeWhile (· ≠ '=') = name ∧
      (name ++ '=' :: value).dropWhile (· ≠ '=') = '=' :: value := by
  rw [List.takeWhile_append, List.dropWhile_append, (cut_whole free).1, (cut_whole free).2]
  simp

/-- A segment without an equals sign is a name, as it stands. -/
theorem stated_valueless (form : QueryForm) {s : List Char} (free : '=' ∉ s) :
    stated form s = .ok (String.ofList s, none) := by
  rw [stated, (cut_whole free).1, (cut_whole free).2]
  cases s <;> rfl

/-- So is a segment with nothing in front of its equals sign. -/
theorem stated_nameless (form : QueryForm) (value : List Char) :
    stated form ('=' :: value) = .ok (String.ofList ('=' :: value), none) := by
  have cut := cut_at List.not_mem_nil value
  rw [List.nil_append] at cut
  rw [stated, cut.1, cut.2]

theorem stated_named (form : QueryForm) {name : List Char} (free : '=' ∉ name)
    (filled : name ≠ []) (value : List Char) :
    stated form (name ++ '=' :: value) = do
      let name ← readComponent form name
      let value ← readComponent form value
      return (name, some value) := by
  rw [stated, (cut_at free value).1, (cut_at free value).2]
  cases name with
  | nil => exact absurd rfl filled
  | cons first more => rfl

theorem formParameter_valueless {s : List Char} (free : '=' ∉ s) :
    formParameter s = (readComponent .encoded s).map (·, none) := by
  rw [formParameter, (cut_whole free).1, (cut_whole free).2]
  rfl

theorem formParameter_valued {name : List Char} (free : '=' ∉ name) (value : List Char) :
    formParameter (name ++ '=' :: value) = do
      let name ← readComponent .encoded name
      let value ← readComponent .encoded value
      return (name, some value) := by
  rw [formParameter, (cut_at free value).1, (cut_at free value).2]

/-! ## Encoded segments -/

@[simp] theorem readComponent_encodeChars (text : String) :
    readComponent .encoded (encodeChars text.toList) = .ok text := by
  simp [readComponent, Except.map]

@[simp] theorem encodeChars_eq_nil_iff {text : String} :
    encodeChars text.toList = [] ↔ text = "" := by
  constructor
  · intro h
    have := readComponent_encodeChars text
    rw [h] at this
    exact (Except.ok.inj this).symm
  · rintro rfl
    rfl

theorem mem_segment {p : Parameter} {c : Char} (mem : c ∈ segment .encoded p) :
    isLiteral c = true ∨ c = '%' ∨ c = '=' := by
  obtain ⟨name, value⟩ := p
  rw [segment, List.mem_append] at mem
  rcases mem with mem | mem
  · exact (Text.Percent.mem_encodeChars mem).imp_right .inl
  · cases value with
    | none => cases mem
    | some value =>
        rcases List.mem_cons.1 mem with rfl | mem
        · exact .inr (.inr rfl)
        · exact (Text.Percent.mem_encodeChars mem).imp_right .inl

@[simp] theorem amp_not_mem_segment (p : Parameter) : '&' ∉ segment .encoded p := by
  obtain ⟨name, value⟩ := p
  have free := Text.Percent.not_mem_encodeChars (c := '&') (by decide) (by decide)
  cases value <;> simp [segment, component, free]

@[simp] theorem segment_eq_nil_iff {p : Parameter} : segment .encoded p = [] ↔ p = ("", none) := by
  obtain ⟨name, value⟩ := p
  cases value <;> simp [segment, component]

@[simp] theorem equals_not_mem_encodeChars (s : List Char) : '=' ∉ encodeChars s :=
  Text.Percent.not_mem_encodeChars (by decide) (by decide) s

@[simp] theorem formParameter_segment (p : Parameter) :
    formParameter (segment .encoded p) = .ok p := by
  obtain ⟨name, value⟩ := p
  cases value with
  | none => simp [segment, component, formParameter_valueless, Except.map]
  | some value =>
      simp only [segment, component]
      rw [formParameter_valued (by simp)]
      simp [bind, Except.bind, pure, Except.pure]

/-- What the reader takes an encoded parameter for: a name without a value stays coded, and a
value whose name is empty becomes a name. -/
def readBack : Parameter → Parameter
  | (name, none) => (String.ofList (encodeChars name.toList), none)
  | (name, some value) =>
    if name = "" then (String.ofList ('=' :: encodeChars value.toList), none)
    else (name, some value)

@[simp] theorem stated_segment (p : Parameter) :
    stated .encoded (segment .encoded p) = .ok (readBack p) := by
  obtain ⟨name, value⟩ := p
  cases value with
  | none => simp [segment, component, stated_valueless, readBack]
  | some value =>
      simp only [segment, component]
      by_cases empty : name = ""
      · subst empty
        exact stated_nameless .encoded _
      · have filled : encodeChars name.toList ≠ [] := fun h => empty (encodeChars_eq_nil_iff.1 h)
        rw [stated_named .encoded (by simp) filled]
        simp [readBack, empty, bind, Except.bind, pure, Except.pure]

theorem mapM_formParameter_segments (parameters : List Parameter) :
    (parameters.map (segment .encoded)).mapM formParameter = .ok parameters := by
  have back : ∀ p ∈ parameters, (formParameter ∘ segment .encoded) p = .ok (id p) := by simp
  rw [List.mapM_map, mapM_eq_ok back, List.map_id]

theorem mapM_stated_segments (parameters : List Parameter) :
    (parameters.map (segment .encoded)).mapM (stated .encoded) =
      .ok (parameters.map readBack) := by
  have back : ∀ p ∈ parameters, (stated .encoded ∘ segment .encoded) p = .ok (readBack p) := by simp
  rw [List.mapM_map, mapM_eq_ok back]

/-! ## Encoded queries -/

/-- An encoded query has only literal characters, escapes, and its own delimiters. -/
theorem mem_write {parameters : List Parameter} {c : Char}
    (mem : c ∈ (write .encoded parameters).toList) :
    isLiteral c = true ∨ c = '%' ∨ c = '=' ∨ c = '&' := by
  rw [write, String.toList_ofList] at mem
  rcases Text.mem_join mem with rfl | ⟨piece, isPiece, mem⟩
  · exact .inr (.inr (.inr rfl))
  · obtain ⟨p, -, rfl⟩ := List.mem_map.1 isPiece
    rcases mem_segment mem with literal | percent | equals
    · exact .inl literal
    · exact .inr (.inl percent)
    · exact .inr (.inr (.inl equals))

theorem rdropWhile_map {α β : Type} (f : α → β) (p : β → Bool) (l : List α) :
    (l.map f).rdropWhile p = (l.rdropWhile (p ∘ f)).map f := by
  simp only [List.rdropWhile, ← List.map_reverse, List.dropWhile_map]

/-- Dropping elements that are at the end drops none, if as many are left. -/
theorem rdropWhile_eq_self_of_length {α : Type} {p : α → Bool} {l : List α}
    (same : (l.rdropWhile p).length = l.length) : l.rdropWhile p = l :=
  (List.rdropWhile_prefix p l).eq_of_length same

theorem rdropWhile_eq_self_iff_getLast? {α : Type} [DecidableEq α] {a : α} {l : List α} :
    l.rdropWhile (· = a) = l ↔ l.getLast? ≠ some a := by
  rw [List.rdropWhile_eq_self_iff]
  cases l using List.reverseRecOn with
  | nil => simp
  | append_singleton l b => simp

/-- An encoded query splits into the segments that it was written from. -/
theorem splitOn_write {parameters : List Parameter} (some_parameter : parameters ≠ []) :
    (write .encoded parameters).toList.splitOn '&' = parameters.map (segment .encoded) := by
  have free : ∀ piece ∈ parameters.map (segment .encoded), '&' ∉ piece :=
    List.forall_mem_map.2 fun p _ => amp_not_mem_segment p
  rw [write, String.toList_ofList, ← Text.split_eq_splitOn]
  exact Text.split_join (by simpa using some_parameter) free

/-- A query has the segments that it was written from, less the empty ones at its end. -/
@[simp] theorem pieces_write (parameters : List Parameter) :
    pieces (write .encoded parameters) =
      (parameters.rdropWhile (· = ("", none))).map (segment .encoded) := by
  have trailing : (List.isEmpty ∘ segment .encoded : Parameter → Bool) =
      fun p => decide (p = ("", none)) := by
    funext p
    rw [Function.comp, Bool.eq_iff_iff]
    simp
  cases parameters with
  | nil => rfl
  | cons p parameters =>
      rw [pieces, splitOn_write (List.cons_ne_nil p parameters), rdropWhile_map, trailing]

/-- **Read as a form, an encoded query gives the parameters that it was written from**, less the
empty ones at its end. -/
@[simp] theorem formParameters_write (parameters : List Parameter) :
    formParameters (write .encoded parameters) =
      .ok (parameters.rdropWhile (· = ("", none))) := by
  rw [formParameters, pieces_write, mapM_formParameter_segments]

/-- What the reader takes an encoded query for. -/
theorem mapM_stated_write (parameters : List Parameter) :
    (pieces (write .encoded parameters)).mapM (stated .encoded) =
      .ok ((parameters.rdropWhile (· = ("", none))).map readBack) := by
  rw [pieces_write, mapM_stated_segments]

end Outbound.Query
