/-
# Outbound.Proofs.Uri.Reading — a URI that was read has pieces

What is read from a text has only characters of the text, and each part lacks the
characters that end it.  So the text that it is written to has pieces
(`pieces_of_parse`), and is read again part by part.  If it is read as the same
URI, then so is every text with the same scheme and authority, but for its path
and query (`parse_exchanged`).
-/
import Outbound.Proofs.Uri.Cuts

namespace Outbound.Uri

set_option autoImplicit false

/-! ## The characters of the parts -/

theorem isKept_of_mem_clean {c : Char} {s : List Char} (mem : c ∈ clean s) : isKept c = true :=
  (List.mem_filter.1 mem).2

theorem mem_of_cutScheme {c : Char} {s scheme after : List Char}
    (cut : cutScheme s = (some scheme, after)) (mem : c ∈ after) : c ∈ s := by
  rw [cutScheme] at cut
  split at cut
  · rename_i first more rest _ found
    split at cut
    · cases cut
      exact Text.mem_of_mem_after? found mem
    · cases cut
  · cases cut

theorem mem_of_mem_hostText {c : Char} {authority : List Char} (mem : c ∈ hostText authority) :
    c ∈ authority := by
  apply Text.mem_of_mem_afterLast
  change c ∈ hostPort authority
  rw [hostText] at mem
  split at mem
  · rename_i rest place
    rw [place]
    split at mem <;> grind
  · grind

/-- An authority without faults is one: two slashes precede it, and it ends where it must. -/
theorem cutAuthority_of_sound {s : List Char} {port : Option Int}
    (sound : Sound (cutAuthority s).1 port) :
    (∀ c ∈ (cutAuthority s).1, c ∈ s ∧ endsAuthority c = false) ∧
      (∀ c ∈ (cutAuthority s).2, c ∈ s) ∧
      ∀ c, (cutAuthority s).2.head? = some c → endsAuthority c = true := by
  unfold cutAuthority at sound ⊢
  split at sound
  · rename_i rest
    refine ⟨fun c mem => ⟨?_, ?_⟩, fun c mem => ?_, fun c first => ?_⟩
    · exact List.mem_cons_of_mem _ (List.mem_cons_of_mem _ (List.takeWhile_subset _ mem))
    · simpa using List.mem_takeWhile_imp mem
    · exact List.mem_cons_of_mem _ (List.mem_cons_of_mem _ (List.dropWhile_subset _ mem))
    · have stops := List.head?_dropWhile_not (!endsAuthority ·) rest
      rw [first] at stops
      simpa using stops
  · exact absurd rfl sound.host

/-- There is no port without a text, and the port of a text is the number of its digits. -/
theorem eq_of_readPort {s : List Char} {port : Option Int} (read : readPort s = .ok port) :
    (s = [] ∧ port = none) ∨ (s ≠ [] ∧ ∃ digits, Text.Numeral.asciiDigits? s = some digits ∧
      port = some ((Text.ofDigits digits : Nat) : Int)) := by
  rw [readPort] at read
  split at read
  · rename_i empty
    exact .inl ⟨empty, (Except.ok.inj read).symm⟩
  · rename_i filled
    split at read
    · cases read
    · rename_i digits areDigits
      refine .inr ⟨filled, digits, areDigits, ?_⟩
      rw [Text.Numeral.ofDigits?] at read
      split at read
      · rename_i n isNumber
        split at isNumber
        · cases isNumber
        · rw [Except.ok.inj isNumber]
          split at read
          · exact (Except.ok.inj read).symm
          · cases read
      · cases read

theorem eq_of_nonempty? {s : List Char} {text : String} (given : nonempty? s = some text) :
    s = text.toList := by
  rw [nonempty?] at given
  split at given
  · cases given
  · rw [← Option.some.inj given, String.toList_ofList]

theorem bind_nonempty? (found : Option (List Char)) :
    found.bind nonempty? = (found.filter (· ≠ [])).map String.ofList := by
  cases found with
  | none => rfl
  | some s =>
      rw [Option.bind_some, nonempty?]
      by_cases empty : s = [] <;> simp [empty, Option.filter]

/-- What was kept of a part is not empty. -/
theorem bind_nonempty?_ne_empty (found : Option (List Char)) :
    found.bind nonempty? ≠ some "" := by
  intro empty
  rw [bind_nonempty?] at empty
  obtain ⟨s, kept, isEmpty⟩ := Option.map_eq_some_iff.1 empty
  obtain ⟨-, filled⟩ := Option.filter_eq_some_iff.1 kept
  obtain rfl := String.ofList_injective isEmpty
  simp at filled

/-- A part that is not empty is kept as it is. -/
theorem bind_nonempty?_of_ne_empty {part : Option (List Char)}
    (filled : part.map String.ofList ≠ some "") :
    part.bind nonempty? = part.map String.ofList := by
  cases part with
  | none => rfl
  | some s =>
      have some_char : s ≠ [] := by
        rintro rfl
        exact filled rfl
      simp [nonempty?, some_char]

/-! ## The authority as it is written -/

/-- The text of a number is in digits, which neither end an authority nor are dropped. -/
theorem kept_of_mem_repr {c : Char} {n : Nat} (mem : c ∈ n.repr.toList) :
    isKept c = true ∧ endsAuthority c = false := by
  rw [Nat.toList_repr] at mem
  have digit := Nat.isDigit_of_mem_toDigits (by decide) (by decide) mem
  constructor
  · simp only [isKept, Bool.not_eq_true', Bool.or_eq_false_iff, decide_eq_false_iff_not]
    refine ⟨⟨?_, ?_⟩, ?_⟩ <;> rintro rfl <;> exact absurd digit (by decide)
  · simp only [endsAuthority, Bool.or_eq_false_iff, decide_eq_false_iff_not]
    refine ⟨⟨?_, ?_⟩, ?_⟩ <;> rintro rfl <;> exact absurd digit (by decide)

/-- Nothing ends an authority early, and nothing of it is dropped, when this holds of the user
information and the host and the port is no negative number. -/
theorem authority_kept {u : Uri} {host : String}
    (isUserInfo : ∀ info, u.userInfo = some info →
      ∀ c ∈ info.toList, isKept c = true ∧ endsAuthority c = false)
    (isHost : ∀ c ∈ host.toList, isKept c = true ∧ endsAuthority c = false)
    (isPort : ∀ port, u.port = some port → 0 ≤ port) :
    ∀ c ∈ (u.authority host).toList, isKept c = true ∧ endsAuthority c = false := by
  have login : ∀ c ∈ u.login.toList, isKept c = true ∧ endsAuthority c = false := by
    intro c mem
    rw [login] at mem
    split at mem
    · rename_i info given
      split at mem
      · cases mem
      · rw [String.toList_append, List.mem_append] at mem
        rcases mem with mem | mem
        · exact isUserInfo info given c mem
        · obtain rfl := List.mem_singleton.1 mem
          decide
    · cases mem
  intro c mem
  rw [authority, String.toList_append, String.toList_append, List.mem_append, List.mem_append]
    at mem
  rcases mem with (mem | mem) | mem
  · exact login c mem
  · exact isHost c mem
  · cases given : u.port with
    | none =>
        rw [given] at mem
        cases mem
    | some port =>
        obtain ⟨n, rfl⟩ := Int.eq_ofNat_of_zero_le (isPort port given)
        rw [given] at mem
        change c ∈ (":" ++ n.repr).toList at mem
        rw [String.toList_append, List.mem_append] at mem
        rcases mem with mem | mem
        · obtain rfl := List.mem_singleton.1 mem
          decide
        · exact kept_of_mem_repr mem

/-! ## The pieces of a URI that was read -/

/-- The pieces of a URI's text are its scheme, its authority as it is written, its path and its
query. -/
structure Pieces.Spells (p : Pieces) (u : Uri) (host : String) : Prop where
  isScheme : u.scheme = some p.scheme
  isHost : u.host = some host
  isAuthority : p.authority = (u.authority host).toList
  isPath : u.path = some (String.ofList p.path)
  isQuery : u.query = p.query.map String.ofList

/-- The text of a URI that was read has pieces. -/
theorem pieces_of_parse {text : String} {u : Uri} (read : parse text = .ok u) :
    ∃ (p : Pieces) (host : String), p.Spells u host := by
  obtain ⟨scheme, after, port, cut, supported, sound, rfl⟩ := parse_eq_ok_iff.1 read
  have kept : ∀ c ∈ after, isKept c = true := fun c mem =>
    isKept_of_mem_clean (mem_of_cutScheme cut mem)
  obtain ⟨inAuthority, inRest, restEnds⟩ := cutAuthority_of_sound sound
  generalize (cutAuthority after).1 = authority at sound inAuthority
  generalize (cutAuthority after).2 = rest at inRest restEnds
  have authorityKept : ∀ c ∈ authority, isKept c = true ∧ endsAuthority c = false := fun c mem =>
    ⟨kept c (inAuthority c mem).1, (inAuthority c mem).2⟩
  have pathQueryKept : ∀ c ∈ Text.before '#' rest, isKept c = true ∧ c ≠ '#' := by
    intro c mem
    refine ⟨kept c (inRest c (Text.mem_of_mem_before mem)), ?_⟩
    rintro rfl
    exact Text.not_mem_before '#' rest mem
  let p : Pieces := {
    scheme := String.ofList scheme
    authority := ((ofCuts scheme authority (Text.before '#' rest) port).authority
      (String.ofList (hostText authority))).toList
    path := Text.before '?' (Text.before '#' rest)
    query := (Text.after? '?' (Text.before '#' rest)).filter (· ≠ [])
    supported
    authority_kept := by
      refine authority_kept ?_ ?_ ?_
      · intro info given c mem
        obtain ⟨before, found, filled⟩ := Option.bind_eq_some_iff.1 given
        rw [← eq_of_nonempty? filled] at mem
        exact authorityKept c (Text.mem_of_mem_beforeLast? found mem)
      · intro c mem
        rw [String.toList_ofList] at mem
        exact authorityKept c (mem_of_mem_hostText mem)
      · intro number given
        rcases eq_of_readPort sound.port with ⟨-, none⟩ | ⟨-, digits, -, isNumber⟩
        · exact absurd (none.symm.trans given) (by simp)
        · obtain rfl := Option.some.inj (isNumber.symm.trans given)
          exact Int.natCast_nonneg _
    path_kept := by
      intro c mem
      obtain ⟨ck, hash⟩ := pathQueryKept c (Text.mem_of_mem_before mem)
      refine ⟨ck, ?_, hash⟩
      rintro rfl
      exact Text.not_mem_before '?' _ mem
    rooted := by
      intro c first
      have ends := restEnds c (Text.head?_of_head?_before (Text.head?_of_head?_before first))
      have mem := List.mem_of_mem_head? first
      simp only [endsAuthority, Bool.or_eq_true, decide_eq_true_eq] at ends
      rcases ends with (slash | rfl) | rfl
      · exact slash
      · grind
      · grind
    query_kept := by
      intro s given c mem
      obtain ⟨found, -⟩ := Option.filter_eq_some_iff.1 given
      exact pathQueryKept c (Text.mem_of_mem_after? found mem) }
  refine ⟨p, String.ofList (hostText authority), rfl, rfl, rfl, rfl, ?_⟩
  exact bind_nonempty? _

/-- The text of a URI in pieces. -/
theorem renderWith_eq_text {u : Uri} {p : Pieces} {host : String}
    (authority : p.authority = (u.authority host).toList)
    (path : u.path = some (String.ofList p.path)) (query : u.query = p.query.map String.ofList) :
    renderWith p.scheme host u = String.ofList p.text := by
  rw [← String.toList_inj, String.toList_ofList, renderWith, target, path, query, Pieces.text,
    Pieces.pathQuery, authority]
  cases p.query <;> simp [queryTail]

namespace Pieces.Spells

variable {p : Pieces} {u : Uri} {host : String} (spells : p.Spells u host)

include spells

/-- The user information is in the authority, so nothing in it ends that early or is dropped. -/
theorem userInfo_kept {info : String} (given : u.userInfo = some info) :
    ∀ c ∈ info.toList, isKept c = true ∧ endsAuthority c = false := by
  intro c mem
  have some_char : info ≠ "" := by
    rintro rfl
    cases mem
  refine p.authority_kept c ?_
  rw [spells.isAuthority, Uri.authority, login, given]
  simp [some_char, mem]

theorem host_kept : ∀ c ∈ host.toList, isKept c = true ∧ endsAuthority c = false := by
  intro c mem
  refine p.authority_kept c ?_
  rw [spells.isAuthority, Uri.authority]
  simp [mem]

theorem render_eq : u.render = .ok (String.ofList p.text) := by
  rw [render, spells.isScheme, spells.isHost]
  exact congrArg Except.ok
    (renderWith_eq_text spells.isAuthority spells.isPath spells.isQuery)

end Pieces.Spells

end Outbound.Uri
