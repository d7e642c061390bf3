/-
# Outbound.Proofs.Uri.WellFormed — what can be read is well formed

Whatever the text, no part of the URI that is read from it could be taken for
another part when it is written, and no part has a tab or a line end
(`WellFormed`).  The host is where this is delicate: it may have colons, but only
between brackets, the last of which is the only one that closes (`HostForm`).

A well-formed URI has a text, which breaks no line (`WellFormed.exists_render`).
Beyond this nothing is asked of a URI but of its authority: that brackets enclose
an address, and that no character stands for a delimiter.  With these two checks
it is read back from its own text, so the URIs that can be read are exactly the
well-formed ones that pass them (`accepted_iff`).
-/
import Outbound.Proofs.Uri.Origin

namespace Outbound.Uri

set_option autoImplicit false

/-! ## Well-formed URIs -/

/-- A text without tabs and line ends. -/
def Unbroken (s : String) : Prop := '\t' ∉ s.toList ∧ '\r' ∉ s.toList ∧ '\n' ∉ s.toList

instance : DecidablePred Unbroken := fun _ => inferInstanceAs (Decidable (_ ∧ _ ∧ _))

/-- A host: no delimiter of another part is in it, and a colon or an opening bracket only where it
starts with a bracket and ends with the only one that closes. -/
@[mk_iff]
structure HostForm (host : String) : Prop where
  filled : host ≠ ""
  undelimited : '/' ∉ host.toList ∧ '?' ∉ host.toList ∧ '#' ∉ host.toList ∧ '@' ∉ host.toList
  enclosed : ':' ∈ host.toList ∨ '[' ∈ host.toList →
    host.toList.head? = some '[' ∧ host.toList.getLast? = some ']' ∧ host.toList.count ']' = 1

instance : DecidablePred HostForm := fun _ => decidable_of_iff' _ (hostForm_iff _)

def texts (u : Uri) : List String :=
  [u.scheme, u.userInfo, u.host, u.path, u.query].filterMap id

/-- A URI none of whose parts could be taken for another one. -/
@[mk_iff]
structure WellFormed (u : Uri) : Prop where
  scheme : ∃ scheme ∈ u.scheme, scheme ∈ supportedSchemes ∧ Text.lower scheme = scheme
  userInfo : ∀ info ∈ u.userInfo,
    info ≠ "" ∧ '/' ∉ info.toList ∧ '?' ∉ info.toList ∧ '#' ∉ info.toList
  host : ∃ host ∈ u.host, HostForm host
  port : ∀ port ∈ u.port, 0 ≤ port ∧ port ≤ 65535
  path : ∃ path ∈ u.path, (path = "" ∨ path.toList.head? = some '/') ∧
    '?' ∉ path.toList ∧ '#' ∉ path.toList
  query : ∀ query ∈ u.query, query ≠ "" ∧ '#' ∉ query.toList
  unbroken : ∀ text ∈ u.texts, Unbroken text

instance : DecidablePred WellFormed := fun _ => decidable_of_iff' _ (wellFormed_iff _)

theorem unbroken_iff {s : String} : Unbroken s ↔ ∀ c ∈ s.toList, isKept c = true := by
  simp only [Unbroken, isKept, Bool.not_eq_true', Bool.or_eq_false_iff, decide_eq_false_iff_not,
    imp_and, forall_and, List.forall_mem_ne', and_assoc]

theorem mem_texts_iff {u : Uri} {text : String} : text ∈ u.texts ↔
    u.scheme = some text ∨ u.userInfo = some text ∨ u.host = some text ∨ u.path = some text ∨
      u.query = some text := by
  simp [texts, eq_comm]

/-- A host has its form in an authority when brackets enclose it as far as they must. -/
theorem exists_isHost_iff {s : List Char} : (∃ checked, IsHost s checked) ↔
    (':' ∈ s ∨ '[' ∈ s → s.head? = some '[' ∧ s.getLast? = some ']' ∧ s.count ']' = 1) := by
  constructor
  · rintro ⟨checked, isHost⟩ special
    cases isHost with
    | bracketed closed =>
        refine ⟨rfl, ?_, ?_⟩
        · rw [← List.cons_append, List.getLast?_concat]
        · rw [List.count_cons_of_ne (by decide), List.count_append, List.count_eq_zero.2 closed]
          rfl
    | plain noBracket noColon =>
        rcases special with colon | bracket
        · exact absurd colon noColon
        · exact absurd bracket noBracket
  · intro enclosed
    by_cases special : ':' ∈ s ∨ '[' ∈ s
    · -- The last character is the one that closes, so nothing closes before it.
      obtain ⟨first, last, once⟩ := enclosed special
      obtain ⟨front, rfl⟩ := List.getLast?_eq_some_iff.1 last
      cases front with
      | nil => simp at first
      | cons c inside =>
          obtain rfl : c = '[' := by simpa using first
          refine ⟨inside, .bracketed ?_⟩
          rw [List.count_append, List.count_singleton_self, Nat.add_eq_right,
            List.count_eq_zero, List.mem_cons, not_or] at once
          exact once.2
    · rw [not_or] at special
      exact ⟨s, .plain special.2 special.1⟩

/-! ## What is read -/

namespace Pieces.Spells

variable {p : Pieces} {u : Uri} {host : String} (spells : p.Spells u host)

include spells

theorem unbroken_texts : ∀ text ∈ u.texts, Unbroken text := by
  have scheme : ∀ scheme ∈ supportedSchemes, Unbroken scheme := by decide
  intro text mem
  rcases mem_texts_iff.1 mem with given | given | given | given | given
  · obtain rfl := Option.some.inj (given.symm.trans spells.isScheme)
    exact scheme _ p.supported
  · exact unbroken_iff.2 fun c mem => (spells.userInfo_kept given c mem).1
  · obtain rfl := Option.some.inj (given.symm.trans spells.isHost)
    exact unbroken_iff.2 fun c mem => (spells.host_kept c mem).1
  · obtain rfl := Option.some.inj (given.symm.trans spells.isPath)
    rw [unbroken_iff, String.toList_ofList]
    exact fun c mem => (p.path_kept c mem).1
  · obtain ⟨query, isPiece, rfl⟩ := Option.map_eq_some_iff.1 (spells.isQuery.symm.trans given)
    rw [unbroken_iff, String.toList_ofList]
    exact fun c mem => (p.query_kept query isPiece c mem).1

/-- A URI whose text has pieces is well formed when its host and its port are, and nothing that is
given in it is empty. -/
theorem wellFormed (form : HostForm host) (range : InRange u.port)
    (someInfo : u.userInfo ≠ some "") (someQuery : u.query ≠ some "") : u.WellFormed := by
  have lower : ∀ scheme ∈ supportedSchemes, Text.lower scheme = scheme := by decide +kernel
  refine ⟨⟨_, spells.isScheme, p.supported, lower _ p.supported⟩, ?_, ⟨_, spells.isHost, form⟩,
    range, ⟨_, spells.isPath, ?_⟩, ?_, spells.unbroken_texts⟩
  · intro info given
    refine ⟨?_, undelimited_iff.1 fun c mem => (spells.userInfo_kept given c mem).2⟩
    rintro rfl
    exact someInfo given
  · rw [String.toList_ofList, String.ofList_eq_empty_iff]
    refine ⟨?_, fun mem => (p.path_kept _ mem).2.1 rfl, fun mem => (p.path_kept _ mem).2.2 rfl⟩
    cases path : p.path with
    | nil => exact .inl rfl
    | cons c rest => exact .inr (congrArg some (p.rooted c (path ▸ rfl)))
  · intro query given
    constructor
    · rintro rfl
      exact someQuery given
    · obtain ⟨s, isPiece, rfl⟩ := Option.map_eq_some_iff.1 (spells.isQuery.symm.trans given)
      rw [String.toList_ofList]
      exact fun mem => (p.query_kept s isPiece _ mem).2 rfl

end Pieces.Spells

/-- The host of an authority without faults has its form when nothing in it ends the authority. -/
theorem hostForm_of_sound {authority : List Char} {port : Option Int}
    (sound : Sound authority port) (whole : ∀ c ∈ hostText authority, endsAuthority c = false) :
    HostForm (String.ofList (hostText authority)) := by
  obtain ⟨checked, placed⟩ := placed_of_sound sound
  obtain ⟨slash, query, fragment⟩ := undelimited_iff.1 whole
  refine ⟨?_, ?_, ?_⟩
  · rw [ne_eq, String.ofList_eq_empty_iff]
    exact sound.host
  · rw [String.toList_ofList]
    exact ⟨slash, query, fragment, at_not_mem_hostText sound⟩
  · rw [String.toList_ofList]
    exact exists_isHost_iff.1 ⟨checked, placed.isHost⟩

/-- Each part of a URI that was read is a piece of its text, but for the host, which is found in the
authority, and the port. -/
theorem Accepted.wellFormed {u : Uri} (accepted : u.Accepted) : u.WellFormed := by
  obtain ⟨text, read⟩ := accepted
  obtain ⟨p, host, spells⟩ := pieces_of_parse read
  obtain ⟨scheme, after, port, -, -, sound, rfl⟩ := parse_eq_ok_iff.1 read
  obtain rfl : String.ofList (hostText (cutAuthority after).1) = host :=
    Option.some.inj spells.isHost
  have whole := spells.host_kept
  rw [String.toList_ofList] at whole
  exact spells.wellFormed (hostForm_of_sound sound fun c mem => (whole c mem).2)
    (inRange_of_readPort sound.port) (bind_nonempty?_ne_empty _) (bind_nonempty?_ne_empty _)

/-! ## What is written -/

namespace WellFormed

variable {u : Uri} (wellFormed : u.WellFormed)

include wellFormed

/-- No part of a well-formed URI has a character that cleaning drops. -/
theorem kept {text : String} (isText : u.scheme = some text ∨ u.userInfo = some text ∨
    u.host = some text ∨ u.path = some text ∨ u.query = some text) :
    ∀ c ∈ text.toList, isKept c = true :=
  unbroken_iff.1 (wellFormed.unbroken text (mem_texts_iff.2 isText))

/-- The text of a well-formed URI has pieces. -/
theorem exists_pieces : ∃ (p : Pieces) (host : String), p.Spells u host ∧ HostForm host := by
  obtain ⟨scheme, isScheme, supported, -⟩ := wellFormed.scheme
  obtain ⟨host, isHost, form⟩ := wellFormed.host
  obtain ⟨path, isPath, rooted, noQuery, noFragment⟩ := wellFormed.path
  let p : Pieces := {
    scheme
    authority := (u.authority host).toList
    path := path.toList
    query := u.query.map String.toList
    supported
    authority_kept := by
      obtain ⟨slash, query, fragment, -⟩ := form.undelimited
      refine authority_kept ?_ ?_ fun port given => (wellFormed.port port given).1
      · intro info given c mem
        obtain ⟨-, undelimited⟩ := wellFormed.userInfo info given
        exact ⟨wellFormed.kept (.inr (.inl given)) c mem, undelimited_iff.2 undelimited c mem⟩
      · intro c mem
        exact ⟨wellFormed.kept (.inr (.inr (.inl isHost))) c mem,
          undelimited_iff.2 ⟨slash, query, fragment⟩ c mem⟩
    path_kept := by
      intro c mem
      exact ⟨wellFormed.kept (.inr (.inr (.inr (.inl isPath)))) c mem,
        ne_of_mem_of_not_mem mem noQuery, ne_of_mem_of_not_mem mem noFragment⟩
    rooted := by
      intro c first
      rcases rooted with rfl | slash
      · cases first
      · exact Option.some.inj (first.symm.trans slash)
    query_kept := by
      intro s given c mem
      obtain ⟨query, isQuery, rfl⟩ := Option.map_eq_some_iff.1 given
      exact ⟨wellFormed.kept (.inr (.inr (.inr (.inr isQuery)))) c mem,
        ne_of_mem_of_not_mem mem (wellFormed.query query isQuery).2⟩ }
  refine ⟨p, host, ⟨isScheme, isHost, rfl, ?_, ?_⟩, form⟩
  · rw [String.ofList_toList]
    exact isPath
  · cases given : u.query <;> simp [p, given]

/-- A well-formed URI can be written, and its text breaks no line. -/
theorem exists_render : ∃ written, u.render = .ok written ∧ Unbroken written := by
  obtain ⟨p, host, spells, -⟩ := wellFormed.exists_pieces
  refine ⟨String.ofList p.text, spells.render_eq, ?_⟩
  rw [unbroken_iff, String.toList_ofList]
  exact (clean_eq_self_iff.1 p.clean_text).2

theorem placed {host : String} (form : HostForm host) :
    ∃ checked, Placed (u.authority host).toList host.toList checked (portTail u.port) := by
  obtain ⟨checked, isHost⟩ := exists_isHost_iff.2 form.enclosed
  exact ⟨checked, placed_authority form.undelimited.2.2.2 wellFormed.port
    (fun empty => (wellFormed.userInfo _ empty).1 rfl) isHost⟩

/-- The authority of a well-formed URI is without faults when it passes the two checks that do not
look at one part alone. -/
theorem sound_authority {host : String} (form : HostForm host)
    (brackets : checkBrackets (u.authority host).toList = .ok ())
    (disguise : checkDisguise (u.authority host).toList = .ok ()) :
    Sound (u.authority host).toList u.port := by
  obtain ⟨checked, placed⟩ := wellFormed.placed form
  refine ⟨brackets, disguise, ?_, ?_⟩
  · rw [placed.portText_eq]
    exact InRange.readPort_portTail wellFormed.port
  · rw [placed.hostText_eq, ne_eq, String.toList_eq_nil_iff]
    exact form.filled

/-- The parts of a well-formed URI are what its text is cut into. -/
theorem ofCuts_eq {p : Pieces} {host : String} (spells : p.Spells u host) (form : HostForm host) :
    ofCuts p.scheme.toList p.authority p.pathQuery u.port = u := by
  obtain ⟨checked, placed⟩ := wellFormed.placed form
  obtain ⟨-, isUserInfo⟩ := hostPort_authority form.undelimited.2.2.2 wellFormed.port
    (fun empty => (wellFormed.userInfo _ empty).1 rfl)
  have isQuery : p.query.bind nonempty? = u.query := by
    have someQuery : u.query ≠ some "" := fun empty => (wellFormed.query _ empty).1 rfl
    rw [spells.isQuery] at someQuery ⊢
    exact bind_nonempty?_of_ne_empty someQuery
  obtain ⟨path, query⟩ := p.ofCuts_pathQuery u.port
  rw [isQuery] at query
  rw [← spells.isPath] at path
  cases u with
  | mk scheme host' userInfo port path' query' =>
      have isScheme := spells.isScheme
      have isHost := spells.isHost
      have isAuthority := spells.isAuthority
      simp only [ofCuts, Uri.mk.injEq] at path query isScheme isHost isUserInfo ⊢
      rw [isAuthority, placed.hostText_eq, String.ofList_toList, String.ofList_toList]
      exact ⟨isScheme.symm, isHost.symm, isUserInfo, trivial, path, query⟩

end WellFormed

/-- **The URIs that can be read are the well-formed ones** in whose authority brackets enclose an
address and no character stands for a delimiter. -/
theorem accepted_iff {u : Uri} : u.Accepted ↔ u.WellFormed ∧ ∃ host ∈ u.host,
    checkBrackets (u.authority host).toList = .ok () ∧
    checkDisguise (u.authority host).toList = .ok () := by
  constructor
  · intro accepted
    refine ⟨accepted.wellFormed, ?_⟩
    obtain ⟨text, read⟩ := accepted
    obtain ⟨scheme, after, port, -, -, sound, rfl⟩ := parse_eq_ok_iff.1 read
    refine ⟨_, rfl, ?_⟩
    -- What is checked is the authority as it is written, not as it was read.
    rw [toList_authority_ofCuts]
    exact ⟨(sound_rewritten sound).brackets, (sound_rewritten sound).disguise⟩
  · rintro ⟨wellFormed, host', isHost, brackets, disguise⟩
    obtain ⟨p, host, spells, form⟩ := wellFormed.exists_pieces
    obtain rfl : host = host' := Option.some.inj (spells.isHost.symm.trans isHost)
    refine ⟨String.ofList p.text, p.parse_eq_ok_iff.2 ⟨u.port, ?_, ?_⟩⟩
    · rw [spells.isAuthority]
      exact wellFormed.sound_authority form brackets disguise
    · exact (wellFormed.ofCuts_eq spells form).symm

/-- Brackets that make a host well formed may enclose what is no address. -/
example : WellFormed { scheme := some "http", host := some "[a:b]" } ∧
    checkBrackets "[a:b]".toList ≠ .ok () := by
  decide +kernel

/-! ## The reader -/

/-- **Whatever is read is well formed**, and when it is written it breaks no line. -/
theorem wellFormed_of_parse {text : String} {u : Uri} (read : parse text = .ok u) :
    u.WellFormed ∧ ∃ written, u.render = .ok written ∧ Unbroken written := by
  have wellFormed := Accepted.wellFormed ⟨text, read⟩
  exact ⟨wellFormed, wellFormed.exists_render⟩

/-- Control characters in front and line ends within, capitals in the scheme, a second `@`, a bracket
between brackets, a second question mark, and a fragment with delimiters. -/
theorem wellFormed_of_untidy :
    ∃ u, parse "\x00 hT\ntPs://a@b@[::1%[eth0]:0443/\r/b?c?/d\t#?@" = .ok u ∧
      u.host = some "[::1%[eth0]" ∧ u.WellFormed ∧
      ∃ written, u.render = .ok written ∧ Unbroken written := by
  have read : parse "\x00 hT\ntPs://a@b@[::1%[eth0]:0443/\r/b?c?/d\t#?@" = .ok {
      scheme := some "https", host := some "[::1%[eth0]", userInfo := some "a@b"
      port := some 443, path := some "//b", query := some "c?/d" } := by
    decide +kernel
  exact ⟨_, read, rfl, wellFormed_of_parse read⟩

end Outbound.Uri
