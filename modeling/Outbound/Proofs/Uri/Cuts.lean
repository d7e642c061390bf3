/-
# Outbound.Proofs.Uri.Cuts — how the text of a URI is cut

The reader cuts a text into scheme, authority, and path with query, and looks at
nothing else (`parse_eq_ok_iff`).  What it checks it checks of the authority alone
(`Sound`).

A text that is put together from pieces, none of which has a delimiter that ends
it, is cut into the same pieces (`Pieces.cuts`).  So whether it is read as a URI
depends on its authority only, and path and query can be exchanged
(`parse_pieces_iff`).
-/
import Mathlib.Data.List.TakeWhile
import Outbound.Proofs.Fallible
import Outbound.Proofs.Text.Cut
import Outbound.Uri.Parser

namespace Outbound.Uri

set_option autoImplicit false

/-! ## What the reader looks at -/

/-- An authority without faults, and its port. -/
structure Sound (authority : List Char) (port : Option Int) : Prop where
  brackets : checkBrackets authority = .ok ()
  disguise : checkDisguise authority = .ok ()
  port : readPort (portText authority) = .ok port
  host : hostText authority ≠ []

/-- The URI of a scheme, an authority with its port, and a path with a query. -/
def ofCuts (scheme authority pathQuery : List Char) (port : Option Int) : Uri where
  scheme := some (String.ofList scheme)
  host := some (String.ofList (hostText authority))
  userInfo := (Text.beforeLast? '@' authority).bind nonempty?
  port := port
  path := some (String.ofList (Text.before '?' pathQuery))
  query := (Text.after? '?' pathQuery).bind nonempty?

theorem parse_eq_ok_iff {text : String} {u : Uri} :
    parse text = .ok u ↔ ∃ scheme after port,
      cutScheme (clean text.toList) = (some scheme, after) ∧
      String.ofList scheme ∈ supportedSchemes ∧
      Sound (cutAuthority after).1 port ∧
      u = ofCuts scheme (cutAuthority after).1 (Text.before '#' (cutAuthority after).2) port := by
  rw [parse]
  cases cut : cutScheme (clean text.toList) with
  | mk scheme? after =>
      simp only
      constructor
      · intro read
        obtain ⟨port, checked, read⟩ := bind_eq_ok_iff.1 read
        obtain ⟨_, brackets, checked⟩ := bind_eq_ok_iff.1 (mapError_eq_ok_iff.1 checked)
        obtain ⟨_, disguise, isPort⟩ := bind_eq_ok_iff.1 checked
        cases scheme? with
        | none => cases read
        | some scheme =>
            simp only at read
            split at read
            · rename_i supported
              split at read
              · cases read
              · rename_i host
                refine ⟨scheme, after, port, rfl, supported, ⟨brackets, disguise, isPort, host⟩, ?_⟩
                exact (Except.ok.inj read).symm
            · cases read
      · rintro ⟨scheme, after', port, same, supported, sound, rfl⟩
        cases same
        simp only [sound.brackets, sound.disguise, sound.port, supported, sound.host]
        rfl

/-! ## Texts in pieces -/

/-- A character that cleaning leaves where it is. -/
def isKept (c : Char) : Bool := !(c = '\t' || c = '\r' || c = '\n')

/-- What has none of the three characters that end an authority. -/
theorem undelimited_iff {s : List Char} :
    (∀ c ∈ s, endsAuthority c = false) ↔ '/' ∉ s ∧ '?' ∉ s ∧ '#' ∉ s := by
  simp only [endsAuthority, Bool.or_eq_false_iff, decide_eq_false_iff_not, imp_and, forall_and,
    List.forall_mem_ne', and_assoc]

def queryTail : Option (List Char) → List Char
  | some query => '?' :: query
  | none => []

/-- The pieces of a text, none of which has a character that ends it. -/
structure Pieces where
  scheme : String
  authority : List Char
  path : List Char
  query : Option (List Char)
  supported : scheme ∈ supportedSchemes
  authority_kept : ∀ c ∈ authority, isKept c = true ∧ endsAuthority c = false
  path_kept : ∀ c ∈ path, isKept c = true ∧ c ≠ '?' ∧ c ≠ '#'
  rooted : ∀ c, path.head? = some c → c = '/'
  query_kept : ∀ s, query = some s → ∀ c ∈ s, isKept c = true ∧ c ≠ '#'

namespace Pieces

/-- What follows the authority. -/
def pathQuery (p : Pieces) : List Char := p.path ++ queryTail p.query

def text (p : Pieces) : List Char :=
  p.scheme.toList ++ ':' :: '/' :: '/' :: (p.authority ++ p.pathQuery)

theorem pathQuery_kept (p : Pieces) : ∀ c ∈ p.pathQuery, isKept c = true ∧ c ≠ '#' := by
  intro c mem
  rcases List.mem_append.1 mem with path | tail
  · obtain ⟨kept, -, hash⟩ := p.path_kept c path
    exact ⟨kept, hash⟩
  · have question : isKept '?' = true := by decide
    cases query : p.query with
    | none => simp [query, queryTail] at tail
    | some s => grind [queryTail, p.query_kept s query]

theorem endsAuthority_head_pathQuery (p : Pieces) :
    ∀ c, p.pathQuery.head? = some c → endsAuthority c = true := by
  intro c first
  have rooted := p.rooted
  cases path : p.path with
  | nil =>
      cases query : p.query with
      | none => simp [pathQuery, path, query, queryTail] at first
      | some s =>
          simp only [pathQuery, path, query, queryTail, List.nil_append, List.head?_cons,
            Option.some.injEq] at first
          subst first
          rfl
  | cons d rest =>
      simp only [pathQuery, path, List.cons_append, List.head?_cons, Option.some.injEq] at first
      rw [path] at rooted
      rw [← first, rooted d rfl]
      rfl

@[simp] theorem clean_text (p : Pieces) : clean p.text = p.text := by
  have tail : ∀ c ∈ ':' :: '/' :: '/' :: (p.authority ++ p.pathQuery), isKept c = true := by
    simp only [List.forall_mem_cons, List.forall_mem_append]
    exact ⟨by decide, by decide, by decide, fun c mem => (p.authority_kept c mem).1,
      fun c mem => (p.pathQuery_kept c mem).1⟩
  have scheme : ∀ c ∈ p.scheme.toList, isKept c = true ∧ ¬ c.toNat ≤ 0x20 := by
    have all : ∀ scheme ∈ supportedSchemes,
        (scheme.toList.all fun c => isKept c ∧ ¬ c.toNat ≤ 0x20) = true := by
      decide
    intro c mem
    exact of_decide_eq_true (List.all_eq_true.1 (all p.scheme p.supported) c mem)
  have front : p.text.dropWhile (·.toNat ≤ 0x20) = p.text := by
    have filled : ∀ scheme ∈ supportedSchemes, scheme.toList ≠ [] := by decide
    rw [text]
    cases chars : p.scheme.toList with
    | nil => exact absurd chars (filled p.scheme p.supported)
    | cons c rest =>
        have visible := (scheme c (by rw [chars]; exact List.mem_cons_self)).2
        rw [List.cons_append, List.dropWhile_cons_of_neg (by simpa using visible)]
  rw [clean, front, List.filter_eq_self]
  intro c mem
  rcases List.mem_append.1 mem with mem | mem
  · exact (scheme c mem).1
  · exact tail c mem

@[simp] theorem cutScheme_text (p : Pieces) :
    cutScheme p.text = (some p.scheme.toList, '/' :: '/' :: (p.authority ++ p.pathQuery)) := by
  have all : ∀ scheme ∈ supportedSchemes, ∀ rest,
      cutScheme (scheme.toList ++ ':' :: rest) = (some scheme.toList, rest) := by
    simp only [supportedSchemes, List.forall_mem_cons]
    exact ⟨fun _ => rfl, fun _ => rfl, fun _ => rfl, fun _ => rfl, fun _ mem => by cases mem⟩
  exact all p.scheme p.supported _

@[simp] theorem cutAuthority_text (p : Pieces) :
    cutAuthority ('/' :: '/' :: (p.authority ++ p.pathQuery)) = (p.authority, p.pathQuery) := by
  have passes : ∀ c ∈ p.authority, (!endsAuthority c) = true := by
    intro c mem
    rw [(p.authority_kept c mem).2]
    rfl
  have ends := p.endsAuthority_head_pathQuery
  rw [cutAuthority, List.takeWhile_append_of_pos passes, List.dropWhile_append_of_pos passes]
  cases rest : p.pathQuery with
  | nil => simp
  | cons c more =>
      rw [rest] at ends
      simp [ends c rfl]

/-- **The pieces of a text are what the reader cuts it into**; the text is accepted when the
authority is. -/
theorem parse_eq_ok_iff (p : Pieces) {u : Uri} :
    parse (String.ofList p.text) = .ok u ↔
      ∃ port, Sound p.authority port ∧
        u = ofCuts p.scheme.toList p.authority p.pathQuery port := by
  have whole : Text.before '#' p.pathQuery = p.pathQuery :=
    Text.before_of_not_mem fun mem => (p.pathQuery_kept _ mem).2 rfl
  rw [Uri.parse_eq_ok_iff, String.toList_ofList, clean_text, cutScheme_text]
  constructor
  · rintro ⟨scheme, after, port, same, -, sound, rfl⟩
    cases same
    exact ⟨port, by simpa using sound, by simp [whole]⟩
  · rintro ⟨port, sound, rfl⟩
    exact ⟨_, _, port, rfl, by simpa using p.supported, by simpa using sound, by simp [whole]⟩

/-- The path and the query of the URI that is cut out. -/
theorem ofCuts_pathQuery (p : Pieces) (port : Option Int) :
    (ofCuts p.scheme.toList p.authority p.pathQuery port).path = some (String.ofList p.path) ∧
      (ofCuts p.scheme.toList p.authority p.pathQuery port).query = p.query.bind nonempty? := by
  have free : '?' ∉ p.path := fun mem => (p.path_kept _ mem).2.1 rfl
  cases isQuery : p.query <;> simp [ofCuts, pathQuery, queryTail, free, isQuery]

/-! ## What precedes the query -/

/-- What precedes the query. -/
def front (p : Pieces) : List Char := p.scheme.toList ++ ':' :: '/' :: '/' :: (p.authority ++ p.path)

theorem text_eq_front_append (p : Pieces) : p.text = p.front ++ queryTail p.query := by
  simp [text, pathQuery, front]

/-- Neither a query nor a fragment starts in front of the query. -/
theorem not_mem_front (p : Pieces) : '?' ∉ p.front ∧ '#' ∉ p.front := by
  have scheme : ∀ scheme ∈ supportedSchemes, '?' ∉ scheme.toList ∧ '#' ∉ scheme.toList := by decide
  obtain ⟨-, query, fragment⟩ := undelimited_iff.1 fun c mem => (p.authority_kept c mem).2
  have path : '?' ∉ p.path ∧ '#' ∉ p.path :=
    ⟨fun mem => (p.path_kept _ mem).2.1 rfl, fun mem => (p.path_kept _ mem).2.2 rfl⟩
  simp [front, scheme p.scheme p.supported, query, fragment, path]

@[simp] theorem before_text (p : Pieces) : Text.before '?' p.text = p.front := by
  rw [text_eq_front_append]
  cases p.query <;> simp [queryTail, p.not_mem_front]

@[simp] theorem after?_text (p : Pieces) : Text.after? '?' p.text = p.query := by
  rw [text_eq_front_append]
  cases p.query <;> simp [queryTail, p.not_mem_front]

@[simp] theorem clean_front (p : Pieces) : clean p.front = p.front := by
  have isText : { p with query := none, query_kept := nofun }.text = p.front := by
    rw [text_eq_front_append]
    exact List.append_nil _
  rw [← isText]
  exact clean_text _

end Pieces

end Outbound.Uri
