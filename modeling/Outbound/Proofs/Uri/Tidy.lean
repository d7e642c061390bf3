/-
# Outbound.Proofs.Uri.Tidy — texts that are written again as they stand

A URI is written from its parts.  What the parts do not keep of the text that they
were read from is gone: the characters that were dropped, capitals in the scheme,
an `@` or a colon with nothing beside it, zeros in front of a port, the fragment.
All else comes back, so a text without these (`Tidy`) is as its URI is written, up
to the query, and no other text is (`before_query_eq_iff`).

An authority is cut into what precedes its host, the host and what follows it
(`loginPrefix_append`, `portSuffix_of_sound`), each of which is written from one
part.  The query is left out: an empty one is not kept either.
-/
import Outbound.Proofs.Text.Numeral
import Outbound.Proofs.Uri.Reading

namespace Outbound.Uri

set_option autoImplicit false

/-! ## The parts of an authority -/

/-- What follows the host: nothing, or a colon and the text of the port. -/
def portSuffix (authority : List Char) : List Char :=
  (hostPort authority).drop (hostText authority).length

/-- A bracket that was checked opens the place of the host, and at most a port follows where it is
closed. -/
theorem eq_cons_of_brackets {authority bracketed : List Char}
    (brackets : checkBrackets authority = .ok ())
    (opened : Text.after? '[' (hostPort authority) = some bracketed) :
    hostPort authority = '[' :: bracketed ∧
      (Text.after ']' bracketed = [] ∨ (Text.after ']' bracketed).head? = some ':') := by
  have whole := Text.eq_before_append_of_after? opened
  have mem : '[' ∈ authority := by
    apply Text.mem_of_mem_afterLast
    change '[' ∈ hostPort authority
    rw [whole]
    simp
  rw [checkBrackets] at brackets
  split at brackets
  · rename_i none
    exact absurd mem none.1
  split at brackets
  · cases brackets
  simp only [opened] at brackets
  split at brackets
  · cases brackets
  · rename_i fits
    rw [not_or, not_not, not_and, not_not] at fits
    rw [fits.1, List.nil_append] at whole
    refine ⟨whole, ?_⟩
    by_cases empty : Text.after ']' bracketed = []
    · exact .inl empty
    · exact .inr (fits.2 empty)

theorem exists_suffix_of_brackets {authority : List Char}
    (brackets : checkBrackets authority = .ok ()) (host : hostText authority ≠ []) :
    ∃ suffix, hostPort authority = hostText authority ++ suffix ∧
      (suffix = [] ∧ portText authority = [] ∨ suffix = ':' :: portText authority) := by
  rw [portText]
  cases opened : Text.after? '[' (hostPort authority) with
  | none =>
      -- Without a bracket the host ends at the first colon.
      have unbracketed : hostText authority = Text.before ':' (hostPort authority) := by
        rw [hostText]
        split
        · rename_i rest place
          rw [place, Text.after?_cons_self] at opened
          cases opened
        · rfl
      rw [unbracketed]
      exact Text.exists_eq_before_append ':' (hostPort authority)
  | some bracketed =>
      obtain ⟨place, follows⟩ := eq_cons_of_brackets brackets opened
      rw [hostText, place] at host ⊢
      simp only [Text.after] at follows ⊢
      cases closed : Text.after? ']' bracketed with
      | none =>
          simp only [closed] at host
          exact absurd rfl host
      | some tail =>
          simp only [closed, Option.getD_some] at follows ⊢
          refine ⟨tail, ?_, ?_⟩
          · conv_lhs => rw [Text.eq_before_append_of_after? closed]
            simp
          · cases tail with
            | nil => exact .inl ⟨rfl, rfl⟩
            | cons c port =>
                obtain rfl : c = ':' := by simpa using follows
                simp

theorem portSuffix_of_sound {authority : List Char} {port : Option Int}
    (sound : Sound authority port) :
    hostPort authority = hostText authority ++ portSuffix authority ∧
      (portSuffix authority = [] ∧ portText authority = [] ∨
        portSuffix authority = ':' :: portText authority) := by
  obtain ⟨suffix, whole, shape⟩ := exists_suffix_of_brackets sound.brackets sound.host
  have isSuffix : portSuffix authority = suffix := by
    rw [portSuffix, whole, List.drop_left]
  rw [isSuffix]
  exact ⟨whole, shape⟩

/-- What precedes the host: nothing, or user information with its `@`. -/
def loginPrefix (authority : List Char) : List Char :=
  match Text.beforeLast? '@' authority with
  | some info => info ++ ['@']
  | none => []

theorem loginPrefix_append (authority : List Char) :
    authority = loginPrefix authority ++ hostPort authority := by
  have mirrored := congrArg List.reverse (Text.before_append_after? '@' authority.reverse)
  rw [List.reverse_reverse, List.reverse_append] at mirrored
  rw [loginPrefix, Text.beforeLast?, hostPort, Text.afterLast]
  cases found : Text.after? '@' authority.reverse with
  | none =>
      rw [found] at mirrored
      exact mirrored
  | some info =>
      rw [found] at mirrored
      simpa using mirrored

/-! ## The authority as it is written -/

def portTail (port : Option Int) : List Char :=
  match port with
  | some port => ':' :: (toString port).toList
  | none => []

/-- The port is written as it was unless it was empty after a colon or had zeros in front. -/
theorem portTail_eq_iff {authority : List Char} {port : Option Int} (sound : Sound authority port) :
    portTail port = portSuffix authority ↔ portSuffix authority ≠ [':'] ∧
      ([':', '0'] <+: portSuffix authority → portSuffix authority = [':', '0']) := by
  obtain ⟨-, shape⟩ := portSuffix_of_sound sound
  rcases eq_of_readPort sound.port with ⟨empty, rfl⟩ | ⟨filled, digits, areDigits, rfl⟩
  · rcases shape with ⟨none, -⟩ | colon
    · simp [none, portTail]
    · simp [colon, empty, portTail]
  · have colon := shape.resolve_left fun none => filled none.2
    have written : portTail (some ((Text.ofDigits digits : Nat) : Int)) =
        ':' :: Nat.toDigits 10 (Text.ofDigits digits) := by
      rw [portTail, ← Nat.toList_repr]
      rfl
    rw [colon, written, List.cons.injEq, Text.toDigits_ofDigits_iff areDigits]
    cases text : portText authority with
    | nil => exact absurd text filled
    | cons c more => simp [List.cons_prefix_cons, eq_comm]

section

variable {scheme authority pathQuery : List Char} {port : Option Int}

theorem login_ofCuts : (ofCuts scheme authority pathQuery port).login.toList =
    if Text.beforeLast? '@' authority = some [] then [] else loginPrefix authority := by
  rw [login, ofCuts, loginPrefix]
  cases Text.beforeLast? '@' authority with
  | none => rfl
  | some info =>
      cases info with
      | nil => rfl
      | cons c more => simp [nonempty?]

theorem toList_authority (u : Uri) (host : String) :
    (u.authority host).toList = u.login.toList ++ (host.toList ++ portTail u.port) := by
  rw [Uri.authority, String.toList_append, String.toList_append, List.append_assoc]
  cases u.port with
  | none => rfl
  | some port =>
      show _ ++ (_ ++ (":" ++ toString port).toList) = _
      rw [String.toList_append]
      rfl

theorem toList_authority_ofCuts : ((ofCuts scheme authority pathQuery port).authority
    (String.ofList (hostText authority))).toList =
      (if Text.beforeLast? '@' authority = some [] then [] else loginPrefix authority) ++
        (hostText authority ++ portTail port) := by
  rw [toList_authority, login_ofCuts, String.toList_ofList]
  rfl

theorem at_not_mem_hostText (sound : Sound authority port) : '@' ∉ hostText authority := by
  intro mem
  have inPlace : '@' ∈ hostPort authority :=
    (portSuffix_of_sound sound).1 ▸ List.mem_append_left _ mem
  exact Text.not_mem_before '@' _ (List.mem_reverse.1 inPlace)

/-- The authority is written as it was unless its user information was empty or its port was
not in plain notation. -/
theorem authority_ofCuts_eq_iff (sound : Sound authority port) :
    ((ofCuts scheme authority pathQuery port).authority
        (String.ofList (hostText authority))).toList = authority ↔
      Text.beforeLast? '@' authority ≠ some [] ∧ portSuffix authority ≠ [':'] ∧
        ([':', '0'] <+: portSuffix authority → portSuffix authority = [':', '0']) := by
  have whole := loginPrefix_append authority
  rw [(portSuffix_of_sound sound).1] at whole
  rw [toList_authority_ofCuts, ← portTail_eq_iff sound]
  by_cases empty : Text.beforeLast? '@' authority = some []
  · -- The `@` alone stands in front of the host, in which there is none.
    have opened : loginPrefix authority = ['@'] := by
      rw [loginPrefix, empty]
      rfl
    have free := at_not_mem_hostText sound
    rw [if_pos empty, List.nil_append]
    constructor
    · intro same
      have split := same.trans whole
      rw [opened] at split
      cases host : hostText authority with
      | nil => exact absurd host sound.host
      | cons c more =>
          rw [host] at free split
          rw [(List.cons.inj split).1] at free
          exact absurd List.mem_cons_self free
    · rintro ⟨filled, -⟩
      exact absurd empty filled
  · rw [if_neg empty]
    constructor
    · intro same
      have split := List.append_cancel_left (same.trans whole)
      exact ⟨empty, List.append_cancel_left split⟩
    · rintro ⟨-, same⟩
      rw [same]
      exact whole.symm

end

/-! ## What precedes the query -/

theorem clean_eq_self_iff {s : List Char} :
    clean s = s ↔ (∀ c, s.head? = some c → 0x20 < c.toNat) ∧ ∀ c ∈ s, isKept c = true := by
  cases s with
  | nil => simp [clean]
  | cons c rest =>
      by_cases blank : c.toNat ≤ 0x20
      · constructor
        · intro same
          have shorter : (clean (c :: rest)).length ≤ rest.length := by
            rw [clean, List.dropWhile_cons_of_pos (by simpa using blank)]
            exact (List.length_filter_le _ _).trans (List.dropWhile_suffix _).length_le
          rw [same, List.length_cons] at shorter
          omega
        · rintro ⟨visible, -⟩
          have above := visible c rfl
          omega
      · rw [clean, List.dropWhile_cons_of_neg (by simpa using blank), List.filter_eq_self]
        constructor
        · intro kept
          refine ⟨?_, kept⟩
          intro d first
          obtain rfl := Option.some.inj first
          omega
        · intro both
          exact both.2

/-- What follows a clean text and a question mark is cleaned by itself. -/
theorem clean_append_queryTail {front : List Char} (cleaned : clean front = front)
    (query : Option (List Char)) : ∃ kept, clean (front ++ queryTail query) = front ++ queryTail kept := by
  obtain ⟨visible, kept⟩ := clean_eq_self_iff.1 cleaned
  have filtered : front.filter isKept = front := List.filter_eq_self.2 kept
  have tails : ∃ kept, (queryTail query).filter isKept = queryTail kept := by
    cases query with
    | none => exact ⟨none, rfl⟩
    | some s => exact ⟨some (s.filter isKept), rfl⟩
  obtain ⟨rest, isRest⟩ := tails
  have stays : (front ++ queryTail query).dropWhile (·.toNat ≤ 0x20) = front ++ queryTail query := by
    cases front with
    | nil => cases query <;> rfl
    | cons c more =>
        have above := visible c rfl
        rw [List.cons_append, List.dropWhile_cons_of_neg]
        simpa using above
  refine ⟨rest, ?_⟩
  rw [clean, stays]
  show (front ++ queryTail query).filter isKept = _
  rw [List.filter_append, filtered, isRest]

/-- The scheme is cut off at the first colon, and nothing in it ends a URI's path. -/
theorem eq_of_cutScheme {s scheme after : List Char} (cut : cutScheme s = (some scheme, after)) :
    ∃ spelled, s = spelled ++ ':' :: after ∧ scheme = spelled.map Char.toLower ∧
      ∀ c ∈ spelled, c ≠ ':' ∧ c ≠ '?' ∧ c ≠ '#' := by
  rw [cutScheme] at cut
  split at cut
  · rename_i first more rest isBefore found
    split at cut
    · rename_i proper
      cases cut
      have whole := Text.eq_before_append_of_after? found
      rw [isBefore] at whole
      refine ⟨first :: more, whole, rfl, ?_⟩
      intro c mem
      refine ⟨?_, ?_⟩
      · rintro rfl
        have inside : ':' ∈ Text.before ':' s := isBefore ▸ mem
        exact Text.not_mem_before ':' s inside
      · have allowed : isSchemeChar c = true := by
          rw [Bool.and_eq_true] at proper
          rcases List.mem_cons.1 mem with rfl | mem
          · simp [isSchemeChar, Char.isAlphanum, proper.1]
          · exact List.all_eq_true.1 proper.2 c mem
        constructor <;> rintro rfl <;> exact absurd allowed (by decide)
    · cases cut
  · cases cut

/-- A text is cut into authority and path alike with and without its query. -/
theorem span_before (s : List Char) :
    (Text.before '?' s).takeWhile (!endsAuthority ·) = s.takeWhile (!endsAuthority ·) ∧
      (Text.before '?' s).dropWhile (!endsAuthority ·) =
        Text.before '?' (s.dropWhile (!endsAuthority ·)) := by
  induction s with
  | nil => exact ⟨rfl, rfl⟩
  | cons c s ih =>
      by_cases query : c = '?'
      · subst query
        exact ⟨rfl, rfl⟩
      · by_cases ends : endsAuthority c = true
        · simp [Text.before, query, ends]
        · simp [Text.before, query, ends, ih]

def authorityOf (text : List Char) : List Char := (cutAuthority (Text.after ':' text)).1

/-- The parts of a clean text without a fragment that was read, as far as its query. -/
theorem cuts_of_parse {text : String} {u : Uri} (read : parse text = .ok u)
    (cleaned : clean (Text.before '?' text.toList) = Text.before '?' text.toList)
    (whole : '#' ∉ Text.before '?' text.toList) :
    ∃ spelled authority pathQuery port,
      Text.before '?' text.toList = spelled ++ ':' :: '/' :: '/' ::
        (authority ++ Text.before '?' pathQuery) ∧
      Text.before ':' (Text.before '?' text.toList) = spelled ∧
      authorityOf (Text.before '?' text.toList) = authority ∧
      Sound authority port ∧ u = ofCuts (spelled.map Char.toLower) authority pathQuery port := by
  obtain ⟨scheme, after, port, cut, supported, sound, rfl⟩ := parse_eq_ok_iff.1 read
  have isWhole : text.toList = Text.before '?' text.toList ++
      queryTail (Text.after? '?' text.toList) := by
    conv_lhs => rw [Text.before_append_after? '?' text.toList]
    cases Text.after? '?' text.toList <;> rfl
  obtain ⟨query, isClean⟩ := clean_append_queryTail cleaned (Text.after? '?' text.toList)
  rw [← isWhole] at isClean
  have noQuery := Text.not_mem_before '?' text.toList
  generalize Text.before '?' text.toList = front at cleaned whole isClean noQuery
  obtain ⟨spelled, isText, rfl, free⟩ := eq_of_cutScheme cut
  -- Cut at the question mark, the text has the scheme in front, and two slashes after its colon.
  have isFront : front = spelled ++ ':' :: Text.before '?' after := by
    have cutOff := congrArg (Text.before '?') (isClean.symm.trans isText)
    have noQuery' : '?' ∉ spelled := fun mem => (free _ mem).2.1 rfl
    cases query <;> simpa [queryTail, Text.before, noQuery, noQuery'] using cutOff
  have slashes : ∃ rest, after = '/' :: '/' :: rest := by
    unfold cutAuthority at sound
    split at sound
    · exact ⟨_, rfl⟩
    · exact absurd rfl sound.host
  obtain ⟨rest, rfl⟩ := slashes
  obtain ⟨authority, path⟩ := span_before rest
  have after' : Text.before '?' ('/' :: '/' :: rest) = '/' :: '/' :: Text.before '?' rest := by
    simp [Text.before]
  have split : Text.before '?' rest = (cutAuthority ('/' :: '/' :: rest)).1 ++
      Text.before '?' (cutAuthority ('/' :: '/' :: rest)).2 := by
    have joined := @List.takeWhile_append_dropWhile _ (!endsAuthority ·) (Text.before '?' rest)
    rw [authority, path] at joined
    exact joined.symm
  rw [after'] at isFront
  have noColon : ':' ∉ spelled := fun mem => (free _ mem).1 rfl
  refine ⟨spelled, _, _, port, ?_, ?_, ?_, sound, rfl⟩
  · rw [isFront, split, Text.before_before]
    intro mem
    apply whole
    rw [isFront, split]
    simp [mem]
  · simp [isFront, noColon]
  · rw [authorityOf, isFront, Text.after, Text.after?_append noColon, Text.after?_cons_self]
    exact authority

/-! ## Tidy texts -/

/-- The text of a URI as far as its query is spelled as the URI is written. -/
structure Tidy (text : List Char) : Prop where
  /-- No character is dropped from it. -/
  cleaned : clean text = text
  /-- Its scheme is in lower case. -/
  scheme : (Text.before ':' text).map Char.toLower = Text.before ':' text
  /-- No empty user information precedes its host. -/
  userInfo : Text.beforeLast? '@' (authorityOf text) ≠ some []
  /-- A port follows the colon after its host. -/
  port : portSuffix (authorityOf text) ≠ [':']
  /-- Its port has no zeros in front. -/
  zeros : [':', '0'] <+: portSuffix (authorityOf text) → portSuffix (authorityOf text) = [':', '0']
  /-- It has no fragment. -/
  whole : '#' ∉ text

theorem tidy_iff {text : List Char} : Tidy text ↔ clean text = text ∧
    (Text.before ':' text).map Char.toLower = Text.before ':' text ∧
    Text.beforeLast? '@' (authorityOf text) ≠ some [] ∧ portSuffix (authorityOf text) ≠ [':'] ∧
    ([':', '0'] <+: portSuffix (authorityOf text) →
      portSuffix (authorityOf text) = [':', '0']) ∧ '#' ∉ text := by
  constructor
  · rintro ⟨cleaned, scheme, userInfo, port, zeros, whole⟩
    exact ⟨cleaned, scheme, userInfo, port, zeros, whole⟩
  · rintro ⟨cleaned, scheme, userInfo, port, zeros, whole⟩
    exact ⟨cleaned, scheme, userInfo, port, zeros, whole⟩

instance : DecidablePred Tidy := fun _ => decidable_of_iff' _ tidy_iff

/-- A clean text without a fragment that was read is as its URI is written when it is tidy. -/
theorem before_query_eq_front_iff {text host : String} {u : Uri} {p : Pieces}
    (read : parse text = .ok u) (spells : p.Spells u host)
    (cleaned : clean (Text.before '?' text.toList) = Text.before '?' text.toList)
    (whole : '#' ∉ Text.before '?' text.toList) :
    Text.before '?' text.toList = p.front ↔ Tidy (Text.before '?' text.toList) := by
  obtain ⟨spelled, authority, pathQuery, port, isFront, isSpelled, isCut, sound, rfl⟩ :=
    cuts_of_parse read cleaned whole
  obtain rfl : String.ofList (hostText authority) = host := Option.some.inj spells.isHost
  have scheme : p.scheme.toList = spelled.map Char.toLower := by
    rw [← Option.some.inj spells.isScheme, String.toList_ofList]
  have path : p.path = Text.before '?' pathQuery :=
    (String.ofList_injective (Option.some.inj spells.isPath)).symm
  have parts : Text.before '?' text.toList = p.front ↔
      spelled.map Char.toLower = spelled ∧ p.authority = authority := by
    rw [isFront, Pieces.front, scheme, path]
    constructor
    · intro same
      obtain ⟨spelling, rest⟩ := List.append_inj same (by simp)
      have rest := (List.cons.inj (List.cons.inj (List.cons.inj rest).2).2).2
      exact ⟨spelling.symm, (List.append_cancel_right rest).symm⟩
    · rintro ⟨spelling, same⟩
      rw [spelling, same]
  rw [parts, spells.isAuthority, authority_ofCuts_eq_iff sound, tidy_iff, isSpelled, isCut]
  simp only [cleaned, whole, not_false_eq_true, and_true, true_and]

/-- **A text and the URI that is read from it are the same up to the query exactly when the text is
tidy.** -/
theorem before_query_eq_iff {text written : String} {u : Uri} (read : parse text = .ok u)
    (isWritten : u.render = .ok written) :
    Text.before '?' text.toList = Text.before '?' written.toList ↔
      Tidy (Text.before '?' text.toList) := by
  obtain ⟨p, host, spells⟩ := pieces_of_parse read
  have isText : written = String.ofList p.text :=
    Except.ok.inj (isWritten.symm.trans spells.render_eq)
  have exactly := before_query_eq_front_iff read spells
  rw [isText, String.toList_ofList, p.before_text]
  constructor
  · -- What is written is clean and has no fragment.
    intro same
    refine (exactly ?_ ?_).1 same
    · rw [same]
      exact p.clean_front
    · rw [same]
      exact p.not_mem_front.2
  · intro tidy
    exact (exactly tidy.cleaned tidy.whole).2 tidy

example : Tidy "https://me:pw@[::1]:8080/a".toList := by decide +kernel
example : ¬ Tidy "http://h:080/".toList := by decide +kernel

end Outbound.Uri
