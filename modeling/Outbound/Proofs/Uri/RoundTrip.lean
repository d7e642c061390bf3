/-
# Outbound.Proofs.Uri.RoundTrip — a URI is read back from its own text

A URI is written from its parts, and the authority that is written is the one that
was read but for an empty user information, a colon without a port and zeros in
front of the port (`rewritten`).  The host is found in it by one rule, the port by
another, and the brackets are checked by a third.  The three agree: what they find
depends on the host and on what follows it only, if the host is between brackets or
has neither a bracket nor a colon (`IsHost`), as every host has that was read
(`placed_of_sound`).

So the rewritten authority is without faults and has the same parts
(`sound_rewritten`, `hostPort_rewritten`), and the whole text is read as the same
URI (`parse_render_of_parse`), whatever characters its authority has.
-/
import Mathlib.Data.Nat.Digits.Defs
import Outbound.Proofs.Uri.Tidy

namespace Outbound.Uri

set_option autoImplicit false

/-! ## Ports -/

theorem le_of_readPort {s : List Char} {port : Int} (read : readPort s = .ok (some port)) :
    ∃ n : Nat, port = n ∧ n ≤ 65535 := by
  rw [readPort] at read
  split at read
  · cases read
  split at read
  · cases read
  split at read
  · rename_i n _
    split at read
    · rename_i small
      exact ⟨n, (Option.some.inj (Except.ok.inj read)).symm, small⟩
    · cases read
  · cases read

/-- A port is read from the digits that it is written with. -/
theorem readPort_toDigits {n : Nat} (small : n ≤ 65535) :
    readPort (Nat.toDigits 10 n) = .ok (some (n : Int)) := by
  obtain ⟨digits, areDigits, isNumber⟩ := Text.asciiDigits?_toDigits n
  have length : digits.length ≤ 5 := by
    have short := Nat.toDigits_length 10 n 5 (by decide) (by omega)
    rw [Text.Numeral.asciiDigits?] at areDigits
    split at areDigits
    · rw [← Option.some.inj areDigits, List.length_map]
      exact short
    · cases areDigits
  have notTooLong : Text.Numeral.ofDigits? digits = .ok n := by
    rw [Text.Numeral.ofDigits?, if_neg, isNumber]
    simp only [Text.Numeral.maxDigits]
    omega
  rw [readPort, if_neg Nat.toDigits_ne_nil]
  simp only [areDigits, notTooLong, small, if_true]

/-- A port in range, if there is one. -/
def InRange (port : Option Int) : Prop := ∀ number, port = some number → 0 ≤ number ∧ number ≤ 65535

theorem inRange_of_readPort {s : List Char} {port : Option Int} (read : readPort s = .ok port) :
    InRange port := by
  rintro number rfl
  obtain ⟨n, rfl, small⟩ := le_of_readPort read
  exact ⟨Int.natCast_nonneg n, Int.ofNat_le.2 small⟩

/-- The text of a port with its colon is empty, or a colon and digits. -/
theorem InRange.portTail_eq {port : Option Int} (range : InRange port) :
    (portTail port = [] ∧ port = none) ∨
      ∃ n : Nat, portTail port = ':' :: Nat.toDigits 10 n ∧ port = some (n : Int) ∧ n ≤ 65535 := by
  cases port with
  | none => exact .inl ⟨rfl, rfl⟩
  | some number =>
      obtain ⟨low, high⟩ := range number rfl
      obtain ⟨n, rfl⟩ := Int.eq_ofNat_of_zero_le low
      refine .inr ⟨n, ?_, rfl, Int.ofNat_le.1 high⟩
      rw [portTail, ← Nat.toList_repr]
      rfl

theorem InRange.head?_portTail {port : Option Int} (range : InRange port) :
    portTail port = [] ∨ (portTail port).head? = some ':' := by
  rcases range.portTail_eq with ⟨none, -⟩ | ⟨n, written, -⟩
  · exact .inl none
  · rw [written]
    exact .inr rfl

/-- Neither a delimiter of an authority nor a character in disguise is in a port. -/
theorem InRange.not_mem_portTail {port : Option Int} (range : InRange port) {c : Char}
    (notColon : c ≠ ':') (notDigit : c.isDigit = false) : c ∉ portTail port := by
  intro mem
  rcases range.portTail_eq with ⟨none, -⟩ | ⟨n, written, -⟩
  · rw [none] at mem
    cases mem
  · rw [written] at mem
    rcases List.mem_cons.1 mem with colon | digit
    · exact notColon colon
    · rw [Nat.isDigit_of_mem_toDigits (by decide) (by decide) digit] at notDigit
      cases notDigit

/-- A port is read from what is written behind its colon. -/
theorem InRange.readPort_portTail {port : Option Int} (range : InRange port) :
    readPort (Text.after ':' (portTail port)) = .ok port := by
  rcases range.portTail_eq with ⟨empty, rfl⟩ | ⟨n, written, rfl, small⟩
  · rw [empty]
    rfl
  · rw [written, Text.after, Text.after?_cons_self, Option.getD_some]
    exact readPort_toDigits small

/-! ## The place of the host -/

/-- A host as it stands in an authority, and what is checked of it: what is between its brackets, or
all of it, in which there is neither a bracket nor a colon. -/
inductive IsHost : List Char → List Char → Prop where
  | bracketed {inside : List Char} (closed : ']' ∉ inside) :
    IsHost ('[' :: (inside ++ [']'])) inside
  | plain {host : List Char} (noBracket : '[' ∉ host) (noColon : ':' ∉ host) : IsHost host host

/-- The host has its place in an authority, and at most a colon and more follow it. -/
structure Placed (authority host checked suffix : List Char) : Prop where
  isHost : IsHost host checked
  place : hostPort authority = host ++ suffix
  ends : suffix = [] ∨ suffix.head? = some ':'
  free : '[' ∉ suffix

theorem before_colon_append {host suffix : List Char} (noColon : ':' ∉ host)
    (ends : suffix = [] ∨ suffix.head? = some ':') : Text.before ':' (host ++ suffix) = host := by
  cases suffix with
  | nil => simp [noColon]
  | cons c more =>
      obtain rfl : c = ':' := by simpa using ends
      simp [noColon]

namespace Placed

variable {authority host checked suffix : List Char}
  (placed : Placed authority host checked suffix)

include placed

theorem hostText_eq : hostText authority = host := by
  obtain ⟨isHost, place, ends, -⟩ := placed
  rw [hostText, place]
  cases isHost with
  | bracketed closed => simp [closed]
  | plain noBracket noColon =>
      split
      · rename_i rest opened
        -- Without a bracket in the host there is one in front only where the host is empty.
        cases host with
        | nil =>
            rw [List.nil_append] at opened
            rw [opened] at ends
            simp at ends
        | cons c more =>
            obtain rfl : c = '[' := (List.cons.inj opened).1
            exact absurd List.mem_cons_self noBracket
      · exact before_colon_append noColon ends

theorem portText_eq : portText authority = Text.after ':' suffix := by
  obtain ⟨isHost, place, -, free⟩ := placed
  rw [portText, place]
  cases isHost with
  | bracketed closed => simp [Text.after, closed]
  | plain noBracket noColon =>
      have none : Text.after? '[' (host ++ suffix) = none := by simp [noBracket, free]
      rw [none]
      simp [Text.after, noColon]

/-- The brackets of an authority are checked by looking at the host. -/
theorem checkBrackets_eq : checkBrackets authority =
    if '[' ∉ authority ∧ ']' ∉ authority then .ok ()
    else if '[' ∉ authority ∨ ']' ∉ authority then .error .strayBracket
    else checkBracketed checked := by
  obtain ⟨isHost, place, ends, free⟩ := placed
  rw [checkBrackets, place]
  cases isHost with
  | bracketed closed =>
      have tail : Text.after ']' (checked ++ ']' :: suffix) = suffix := by simp [Text.after, closed]
      have within : Text.before ']' (checked ++ ']' :: suffix) = checked := by simp [closed]
      have fits : ¬ (([] : List Char) ≠ [] ∨ (suffix ≠ [] ∧ suffix.head? ≠ some ':')) := by
        rintro (some | ⟨some, other⟩)
        · exact some rfl
        · exact other (ends.resolve_left some)
      simp only [List.cons_append, List.append_assoc, List.nil_append, Text.after?_cons_self,
        Text.before_cons_self, tail, within, if_neg fits]
  | plain noBracket noColon =>
      have none : Text.after? '[' (host ++ suffix) = none := by simp [noBracket, free]
      simp only [none, before_colon_append noColon ends]

end Placed

/-- What follows the host of an authority without faults has digits only, behind a colon. -/
theorem digit_of_mem_portSuffix {authority : List Char} {port : Option Int}
    (sound : Sound authority port) {c : Char} (mem : c ∈ portSuffix authority) :
    c = ':' ∨ Text.isAsciiDigit c = true := by
  rcases (portSuffix_of_sound sound).2 with ⟨none, -⟩ | colon
  · rw [none] at mem
    cases mem
  rw [colon] at mem
  refine (List.mem_cons.1 mem).imp_right fun mem => ?_
  rcases eq_of_readPort sound.port with ⟨empty, -⟩ | ⟨-, digits, areDigits, -⟩
  · rw [empty] at mem
    cases mem
  rw [Text.Numeral.asciiDigits?] at areDigits
  split at areDigits
  · rename_i numeral
    exact List.all_eq_true.1 numeral.2 c mem
  · cases areDigits

theorem placed_of_sound {authority : List Char} {port : Option Int} (sound : Sound authority port) :
    ∃ checked, Placed authority (hostText authority) checked (portSuffix authority) := by
  obtain ⟨place, shape⟩ := portSuffix_of_sound sound
  have ends : portSuffix authority = [] ∨ (portSuffix authority).head? = some ':' := by
    rcases shape with ⟨none, -⟩ | colon
    · exact .inl none
    · rw [colon]
      exact .inr rfl
  have free : '[' ∉ portSuffix authority := by
    intro mem
    have allowed := digit_of_mem_portSuffix sound mem
    exact absurd allowed (by decide)
  have isHost : ∃ checked, IsHost (hostText authority) checked := by
    cases opened : Text.after? '[' (hostPort authority) with
    | none =>
        have noBracket := Text.after?_eq_none_iff.1 opened
        have unbracketed : hostText authority = Text.before ':' (hostPort authority) := by
          rw [hostText]
          split
          · rename_i rest bracketed
            rw [bracketed] at noBracket
            exact absurd List.mem_cons_self noBracket
          · rfl
        refine ⟨_, .plain (fun mem => ?_) ?_⟩
        · rw [place] at noBracket
          exact noBracket (List.mem_append_left _ mem)
        · rw [unbracketed]
          exact Text.not_mem_before ':' _
    | some rest =>
        have filled := sound.host
        rw [hostText, (eq_cons_of_brackets sound.brackets opened).1] at filled ⊢
        simp only at filled ⊢
        split at filled
        · exact ⟨_, .bracketed (Text.not_mem_before ']' rest)⟩
        · exact absurd rfl filled
  obtain ⟨checked, isHost⟩ := isHost
  exact ⟨checked, isHost, place, ends, free⟩

/-! ## Delimiters in disguise -/

theorem checkDisguise_eq_ok_iff {authority : List Char} : checkDisguise authority = .ok () ↔
    ∀ c ∈ authority, disguisedDelimiters.contains c.toNat = false := by
  rw [checkDisguise]
  split
  · rename_i found
    obtain ⟨c, mem, disguised⟩ := List.any_eq_true.1 found
    refine ⟨nofun, fun none => ?_⟩
    rw [none c mem] at disguised
    cases disguised
  · rename_i none
    refine ⟨fun _ c mem => ?_, fun _ => rfl⟩
    by_contra found
    exact none (List.any_eq_true.2 ⟨c, mem, by simpa using found⟩)

/-- A delimiter in disguise is beyond ASCII. -/
theorem ne_of_disguised {c : Char} (disguised : disguisedDelimiters.contains c.toNat = true) :
    c ≠ '@' ∧ c ≠ ':' ∧ c.isDigit = false := by
  have beyond : ∀ n ∈ disguisedDelimiters, 0x80 ≤ n := by decide
  have point := beyond c.toNat (by simpa using disguised)
  refine ⟨?_, ?_, ?_⟩
  · rintro rfl
    exact absurd point (by decide)
  · rintro rfl
    exact absurd point (by decide)
  · by_contra digit
    have low : c.toNat ≤ 57 := by
      simp only [Char.isDigit, Bool.not_eq_false, Bool.and_eq_true, decide_eq_true_eq] at digit
      exact UInt32.le_iff_toNat_le.1 digit.2
    omega

/-! ## The authority that is written -/

section

variable {u : Uri} {host : String} (free : '@' ∉ host.toList) (range : InRange u.port)

include free range

/-- The user information is cut off an authority at the `@` that it was written with. -/
theorem hostPort_authority (filled : u.userInfo ≠ some "") :
    hostPort (u.authority host).toList = host.toList ++ portTail u.port ∧
      (Text.beforeLast? '@' (u.authority host).toList).bind nonempty? = u.userInfo := by
  have place : '@' ∉ host.toList ++ portTail u.port := by
    rw [List.mem_append, not_or]
    exact ⟨free, range.not_mem_portTail (by decide) (by decide)⟩
  rw [toList_authority, login]
  cases given : u.userInfo with
  | none =>
      change Text.afterLast '@' (host.toList ++ portTail u.port) = _ ∧
        (Text.beforeLast? '@' (host.toList ++ portTail u.port)).bind nonempty? = none
      simp [place]
  | some info =>
      have some_char : info ≠ "" := by
        rintro rfl
        exact filled given
      simp only [some_char, if_false, String.toList_append, List.append_assoc]
      change Text.afterLast '@' (info.toList ++ '@' :: (host.toList ++ portTail u.port)) = _ ∧
        (Text.beforeLast? '@' (info.toList ++ '@' :: (host.toList ++ portTail u.port))).bind
          nonempty? = some info
      simp [place, nonempty?, some_char]

theorem placed_authority (filled : u.userInfo ≠ some "") {checked : List Char}
    (isHost : IsHost host.toList checked) :
    Placed (u.authority host).toList host.toList checked (portTail u.port) where
  isHost := isHost
  place := (hostPort_authority free range filled).1
  ends := range.head?_portTail
  free := range.not_mem_portTail (by decide) (by decide)

end

/-- An authority as it is written again: without an empty user information, and with its port in
plain notation. -/
def rewritten (authority : List Char) (port : Option Int) : List Char :=
  (if Text.beforeLast? '@' authority = some [] then [] else loginPrefix authority) ++
    (hostText authority ++ portTail port)

section

variable {authority : List Char} {port : Option Int} (sound : Sound authority port)

include sound

/-- The user information of an authority that is written again, and the place of its host. -/
theorem hostPort_rewritten :
    hostPort (rewritten authority port) = hostText authority ++ portTail port ∧
      (Text.beforeLast? '@' (rewritten authority port)).bind nonempty? =
        (Text.beforeLast? '@' authority).bind nonempty? := by
  have free : '@' ∉ (String.ofList (hostText authority)).toList := by
    rw [String.toList_ofList]
    exact at_not_mem_hostText sound
  have again := hostPort_authority (u := ofCuts [] authority [] port) free
    (inRange_of_readPort sound.port) (bind_nonempty?_ne_empty _)
  rwa [toList_authority_ofCuts, String.toList_ofList] at again

theorem placed_rewritten {checked : List Char}
    (placed : Placed authority (hostText authority) checked (portSuffix authority)) :
    Placed (rewritten authority port) (hostText authority) checked (portTail port) where
  isHost := placed.isHost
  place := (hostPort_rewritten sound).1
  ends := (inRange_of_readPort sound.port).head?_portTail
  free := (inRange_of_readPort sound.port).not_mem_portTail (by decide) (by decide)

/-- Beside the delimiters and the digits of the port, an authority that is written again has the
characters that it had. -/
theorem mem_rewritten_iff {c : Char} (notAt : c ≠ '@') (notColon : c ≠ ':')
    (notDigit : c.isDigit = false) : c ∈ rewritten authority port ↔ c ∈ authority := by
  have noTail := (inRange_of_readPort sound.port).not_mem_portTail notColon notDigit
  have noSuffix : c ∉ portSuffix authority := by
    intro mem
    have digit := (digit_of_mem_portSuffix sound mem).resolve_left notColon
    have isDigit : c.isDigit = true := by
      simpa [Text.isAsciiDigit, Char.isDigit, Char.le_def] using digit
    rw [isDigit] at notDigit
    cases notDigit
  have whole := loginPrefix_append authority
  rw [(portSuffix_of_sound sound).1] at whole
  conv_rhs => rw [whole]
  rw [rewritten]
  split
  · rename_i empty
    have opened : loginPrefix authority = ['@'] := by
      rw [loginPrefix, empty]
      rfl
    simp [opened, notAt, noTail, noSuffix]
  · simp [noTail, noSuffix]

@[simp] theorem hostText_rewritten : hostText (rewritten authority port) = hostText authority := by
  obtain ⟨checked, placed⟩ := placed_of_sound sound
  exact (placed_rewritten sound placed).hostText_eq

/-- **An authority without faults is written as one**, and its port is the same. -/
theorem sound_rewritten : Sound (rewritten authority port) port := by
  obtain ⟨checked, placed⟩ := placed_of_sound sound
  have again := placed_rewritten sound placed
  have disguised := sound.disguise
  refine ⟨?_, ?_, ?_, ?_⟩
  · have opening := mem_rewritten_iff sound (c := '[') (by decide) (by decide) (by decide)
    have closing := mem_rewritten_iff sound (c := ']') (by decide) (by decide) (by decide)
    rw [← sound.brackets, again.checkBrackets_eq, placed.checkBrackets_eq]
    simp only [opening, closing]
  · rw [checkDisguise_eq_ok_iff] at disguised ⊢
    intro c mem
    by_contra found
    obtain ⟨notAt, notColon, notDigit⟩ := ne_of_disguised (by simpa using found)
    exact found (disguised c ((mem_rewritten_iff sound notAt notColon notDigit).1 mem))
  · rw [again.portText_eq]
    exact (inRange_of_readPort sound.port).readPort_portTail
  · rw [hostText_rewritten sound]
    exact sound.host

end

/-! ## The round trip -/

/-- What was kept of a part, unless it was empty, is not empty. -/
theorem bind_nonempty?_of_map {found kept : Option (List Char)}
    (same : kept.map String.ofList = found.bind nonempty?) :
    kept.bind nonempty? = found.bind nonempty? := by
  rw [← same]
  exact bind_nonempty?_of_ne_empty (same ▸ bind_nonempty?_ne_empty found)

/-- **A URI is read back from its own text**, part by part, from whatever text it was read. -/
theorem parse_render_of_parse {text : String} {u : Uri} (read : parse text = .ok u) :
    ∃ written, u.render = .ok written ∧ parse written = .ok u := by
  obtain ⟨scheme, after, port, -, -, sound, isUri⟩ := parse_eq_ok_iff.1 read
  obtain ⟨p, host, isScheme, isHost, isAuthority, isPath, isQuery⟩ := pieces_of_parse read
  generalize (cutAuthority after).1 = authority at sound isUri
  generalize Text.before '#' (cutAuthority after).2 = pathQuery at isUri
  refine ⟨String.ofList p.text, ?_, p.parse_eq_ok_iff.2 ⟨port, ?_⟩⟩
  · rw [render, isScheme, isHost]
    exact congrArg Except.ok (renderWith_eq_text isAuthority isPath isQuery)
  have sameHost : host = String.ofList (hostText authority) := by
    rw [isUri] at isHost
    exact (Option.some.inj isHost).symm
  rw [isUri, sameHost, toList_authority_ofCuts] at isAuthority
  have isRewritten : p.authority = rewritten authority port := isAuthority
  obtain ⟨path, query⟩ := p.ofCuts_pathQuery port
  have filled : p.query.bind nonempty? = u.query := by
    rw [isUri] at isQuery ⊢
    exact bind_nonempty?_of_map isQuery.symm
  refine ⟨isRewritten ▸ sound_rewritten sound, ?_⟩
  cases u with
  | mk scheme' host' userInfo' port' path' query' =>
      simp only at isScheme isPath filled
      rw [filled] at query
      simp only [ofCuts, Uri.mk.injEq] at isUri path query ⊢
      obtain ⟨-, ofHost, ofUserInfo, ofPort, -, -⟩ := isUri
      rw [isRewritten, hostText_rewritten sound, (hostPort_rewritten sound).2,
        String.ofList_toList]
      exact ⟨isScheme, ofHost, ofUserInfo, ofPort, isPath.trans path.symm, query.symm⟩

/-- Capitals in the scheme, a second `@`, brackets, zeros in front of the port, an empty query and
a fragment. -/
theorem parse_render_of_untidy : ∃ u, parse "\tHtTpS://a:b@@[::1]:0443?#x" = .ok u ∧
    u.userInfo = some "a:b@" ∧ u.port = some 443 ∧
    ∃ written, u.render = .ok written ∧ parse written = .ok u := by
  have read : parse "\tHtTpS://a:b@@[::1]:0443?#x" = .ok {
      scheme := some "https", host := some "[::1]", userInfo := some "a:b@"
      port := some 443 } := by
    decide +kernel
  exact ⟨_, read, rfl, rfl, parse_render_of_parse read⟩

end Outbound.Uri
