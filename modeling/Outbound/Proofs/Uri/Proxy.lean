/-
# Outbound.Proofs.Uri.Proxy — where the URL of a proxy leads

The URL of a proxy has its user information in front of its host, as it is and
without any escape.  The host is plain, so the authority as it is meant is its user
information, the host, and the port; and if nothing in the user information ends it
early or is dropped by the reader, it is what the reader cuts out.

What the reader checks of it depends on the user information in one place only.
Brackets are allowed in pairs, and then the host is taken for the one they enclose,
of which only an address of some future version has no colon
(`checkBracketed_eq_ok_iff`).

So the URL is read as the proxy that it was made from unless a delimiter, a dropped
character or a bracket is in the principal or the password (`parse_url_iff`).  With
a slash in either it leads to another host (`url_leads_astray`).
-/
import Mathlib.Data.List.Basic
import Outbound.Proofs.Uri.RoundTrip
import Outbound.Proxy

namespace Outbound

set_option autoImplicit false

/-! ## Brackets around a host without a colon -/

namespace Uri

theorem split_of_not_mem {s : List Char} (noColon : ':' ∉ s) : Text.split ':' s = [s] := by
  have free : ∀ piece ∈ [s], ':' ∉ piece := by simpa using noColon
  have pieces := Text.split_join (List.cons_ne_nil s []) free
  rwa [Text.join, List.intersperse_singleton, List.flatten_singleton] at pieces

/-- Without a colon there is one group, or two that stand for a dotted address. -/
theorem areGroups_of_not_mem {s : List Char} {parts : List (List Char)} (noColon : ':' ∉ s)
    (isParts : groups? s = some parts) : areGroups parts = false := by
  simp only [groups?, split_of_not_mem noColon, List.getLast?_singleton] at isParts
  split at isParts
  · obtain rfl := Option.some.inj isParts
    simp [areGroups]
  split at isParts
  · obtain rfl := Option.some.inj isParts
    rfl
  · cases isParts

theorem isVersion6_of_not_mem {s : List Char} (noColon : ':' ∉ s) : isVersion6 s = false := by
  have free : ':' ∉ Text.before '%' s := by grind
  rw [isVersion6]
  cases isParts : groups? (Text.before '%' s) with
  | none => exact Bool.and_false _
  | some parts =>
      simp only [areGroups_of_not_mem free isParts]
      exact Bool.and_false _

/-- Without a colon only an address of some future version may be in brackets. -/
theorem checkBracketed_eq_ok_iff {host : List Char} (noColon : ':' ∉ host) :
    checkBracketed host = .ok () ↔ isFutureAddress host = true := by
  rw [checkBracketed, isVersion6_of_not_mem noColon]
  by_cases marked : host.head? = some 'v'
  · by_cases future : isFutureAddress host = true <;> simp [marked, future]
  · have other : isFutureAddress host = false := by
      cases host with
      | nil => rfl
      | cons c rest =>
          have first : c ≠ 'v' := by simpa using marked
          simp [isFutureAddress, first]
    by_cases version4 : isVersion4 host = true <;> simp [marked, other, version4]

end Uri

/-! ## The parts of the URL -/

namespace ProxyServer

def userInfo (proxy : ProxyServer) (principal : String) : String :=
  principal ++ ":" ++ proxy.password.getD ""

/-- What the URL of a proxy is meant to say. -/
def meant (proxy : ProxyServer) (principal : String) : Uri where
  scheme := some proxy.protocol.name
  host := some proxy.host
  userInfo := some (proxy.userInfo principal)
  port := some proxy.port

/-- The host is a plain name, the port is one, and the credentials of the principal are in ASCII. -/
structure Plain (proxy : ProxyServer) (principal : String) : Prop where
  isPrincipal : proxy.principal = some principal
  someone : principal ≠ ""
  someHost : proxy.host ≠ ""
  host : ∀ c ∈ proxy.host.toList, 0x20 < c.toNat ∧ c.toNat < 0x7F ∧ c ∉ "/?#@:[]".toList
  port : 0 ≤ proxy.port ∧ proxy.port ≤ 65535
  ascii : ∀ c ∈ (proxy.userInfo principal).toList, c.toNat < 0x80

/-- The user information has no brackets, or has both in front of a host that they may enclose. -/
def BracketsFit (proxy : ProxyServer) (principal : String) : Prop :=
  ('[' ∉ (proxy.userInfo principal).toList ∧ ']' ∉ (proxy.userInfo principal).toList) ∨
    ('[' ∈ (proxy.userInfo principal).toList ∧ ']' ∈ (proxy.userInfo principal).toList ∧
      Uri.isFutureAddress proxy.host.toList = true)

def authority (proxy : ProxyServer) (principal : String) : List Char :=
  (proxy.userInfo principal).toList ++ '@' :: (proxy.host.toList ++ Uri.portTail (some proxy.port))

theorem supported_protocol (protocol : ProxyProtocol) :
    protocol.name ∈ Uri.supportedSchemes := by
  cases protocol <;> decide

namespace Plain

variable {proxy : ProxyServer} {principal : String} (plain : proxy.Plain principal)

include plain

theorem toList_url : proxy.url.toList =
    proxy.protocol.name.toList ++ ':' :: '/' :: '/' :: proxy.authority principal := by
  have isLogin : proxy.login = proxy.userInfo principal ++ "@" := by
    simp only [login, plain.isPrincipal, if_neg plain.someone, userInfo]
  simp [url, isLogin, authority, Uri.portTail, String.toList_append]

theorem inRange : Uri.InRange (some proxy.port) := by
  rintro number same
  obtain rfl := Option.some.inj same
  exact plain.port

theorem not_mem_host {c : Char} (delimiter : c ∈ "/?#@:[]".toList) : c ∉ proxy.host.toList :=
  fun mem => (plain.host c mem).2.2 delimiter

/-- Behind the user information all is visible, in ASCII and, but for the colon, no delimiter. -/
theorem place_plain {c : Char} (mem : c ∈ proxy.host.toList ++ Uri.portTail (some proxy.port)) :
    0x20 < c.toNat ∧ c.toNat < 0x7F ∧ c ∉ "/?#@[]".toList := by
  obtain ⟨n, written, -⟩ := plain.inRange.portTail_eq.resolve_left (by simp)
  rw [written, List.mem_append, List.mem_cons] at mem
  rcases mem with mem | rfl | mem
  · obtain ⟨low, high, free⟩ := plain.host c mem
    refine ⟨low, high, ?_⟩
    intro delimiter
    have fewer : ∀ d ∈ "/?#@[]".toList, d ∈ "/?#@:[]".toList :=
      List.forall_iff_forall_mem.1 (by decide)
    exact free (fewer c delimiter)
  · decide
  · have digit := Nat.isDigit_of_mem_toDigits (by decide) (by decide) mem
    have bounds : 48 ≤ c.toNat ∧ c.toNat ≤ 57 := by
      simpa [Char.isDigit, UInt32.le_iff_toNat_le] using digit
    refine ⟨by omega, by omega, ?_⟩
    intro delimiter
    have other : ∀ d ∈ "/?#@[]".toList, d.isDigit = false :=
      List.forall_iff_forall_mem.1 (by decide)
    rw [other c delimiter] at digit
    cases digit

theorem not_mem_place {c : Char} (delimiter : c ∈ "/?#@[]".toList) :
    c ∉ proxy.host.toList ++ Uri.portTail (some proxy.port) :=
  fun mem => (plain.place_plain mem).2.2 delimiter

/-- Nothing behind the user information is dropped or ends the authority. -/
theorem kept_place {c : Char} (mem : c ∈ proxy.host.toList ++ Uri.portTail (some proxy.port)) :
    Uri.isKept c = true ∧ Uri.endsAuthority c = false := by
  obtain ⟨visible, -, free⟩ := plain.place_plain mem
  constructor
  · simp only [Uri.isKept, Bool.not_eq_true', Bool.or_eq_false_iff, decide_eq_false_iff_not]
    refine ⟨⟨?_, ?_⟩, ?_⟩ <;> rintro rfl <;> exact absurd visible (by decide)
  · simp only [Uri.endsAuthority, Bool.or_eq_false_iff, decide_eq_false_iff_not]
    refine ⟨⟨?_, ?_⟩, ?_⟩ <;> rintro rfl <;> exact absurd free (by decide)

/-! ## Reading the URL -/

/-- The pieces of the URL, when nothing in the user information cuts it short. -/
def pieces (kept : ∀ c ∈ (proxy.userInfo principal).toList,
    Uri.isKept c = true ∧ Uri.endsAuthority c = false) : Uri.Pieces where
  scheme := proxy.protocol.name
  authority := proxy.authority principal
  path := []
  query := none
  supported := supported_protocol proxy.protocol
  authority_kept := by
    intro c mem
    rw [authority, List.mem_append, List.mem_cons] at mem
    rcases mem with mem | rfl | mem
    · exact kept c mem
    · decide
    · exact plain.kept_place mem
  path_kept := by simp
  rooted := by simp
  query_kept := by simp

theorem hostPort_authority : Uri.hostPort (proxy.authority principal) =
      proxy.host.toList ++ Uri.portTail (some proxy.port) ∧
    Text.beforeLast? '@' (proxy.authority principal) = some (proxy.userInfo principal).toList := by
  have free := plain.not_mem_place (c := '@') (by decide)
  exact ⟨by simp only [Uri.hostPort, authority, Text.afterLast_append free],
    by simp only [authority, Text.beforeLast?_append free]⟩

theorem placed : Uri.Placed (proxy.authority principal) proxy.host.toList proxy.host.toList
    (Uri.portTail (some proxy.port)) where
  isHost := .plain (plain.not_mem_host (by decide)) (plain.not_mem_host (by decide))
  place := plain.hostPort_authority.1
  ends := .inr rfl
  free := fun mem => plain.not_mem_place (by decide) (List.mem_append_right _ mem)

/-- Brackets are in the authority where they are in the user information. -/
theorem mem_authority_iff {c : Char} (bracket : c ∈ "[]".toList) :
    c ∈ proxy.authority principal ↔ c ∈ (proxy.userInfo principal).toList := by
  have free := plain.not_mem_place (List.mem_append_right "/?#@".toList bracket)
  have notAt : c ≠ '@' := by
    rintro rfl
    exact absurd bracket (by decide)
  rw [authority, List.mem_append, List.mem_cons]
  simp only [notAt, free, or_self, or_false]

theorem checkBrackets_eq_ok_iff :
    Uri.checkBrackets (proxy.authority principal) = .ok () ↔ proxy.BracketsFit principal := by
  have bracketed := Uri.checkBracketed_eq_ok_iff (plain.not_mem_host (c := ':') (by decide))
  rw [plain.placed.checkBrackets_eq, BracketsFit]
  simp only [plain.mem_authority_iff (c := '[') (by decide),
    plain.mem_authority_iff (c := ']') (by decide)]
  by_cases opened : '[' ∈ (proxy.userInfo principal).toList <;>
    by_cases closed : ']' ∈ (proxy.userInfo principal).toList <;>
      simp [opened, closed, bracketed]

theorem checkDisguise_authority : Uri.checkDisguise (proxy.authority principal) = .ok () := by
  rw [Uri.checkDisguise_eq_ok_iff]
  intro c mem
  rw [Bool.eq_false_iff, ne_eq, List.contains_iff_mem]
  intro disguised
  have beyond : ∀ n ∈ Uri.disguisedDelimiters, 0x80 ≤ n := by decide
  have high := beyond _ disguised
  rw [authority, List.mem_append, List.mem_cons] at mem
  rcases mem with mem | rfl | mem
  · have ascii := plain.ascii c mem
    omega
  · exact absurd high (by decide)
  · have ascii := (plain.place_plain mem).2.1
    omega

/-- The authority that is meant is without faults as far as its brackets are. -/
theorem sound_iff {port : Option Int} : Uri.Sound (proxy.authority principal) port ↔
    proxy.BracketsFit principal ∧ port = some proxy.port := by
  have isPort : Uri.readPort (Uri.portText (proxy.authority principal)) = .ok (some proxy.port) := by
    rw [plain.placed.portText_eq]
    exact plain.inRange.readPort_portTail
  constructor
  · intro sound
    refine ⟨plain.checkBrackets_eq_ok_iff.1 sound.brackets, ?_⟩
    exact (Except.ok.inj (isPort.symm.trans sound.port)).symm
  · rintro ⟨bracketed, rfl⟩
    refine ⟨plain.checkBrackets_eq_ok_iff.2 bracketed, plain.checkDisguise_authority, isPort, ?_⟩
    rw [plain.placed.hostText_eq]
    simpa using plain.someHost

theorem ofCuts_eq : Uri.ofCuts proxy.protocol.name.toList (proxy.authority principal) []
    (some proxy.port) = proxy.meant principal := by
  have filled : (proxy.userInfo principal).toList ≠ [] := by
    simp [userInfo]
  simp [Uri.ofCuts, plain.placed.hostText_eq, plain.hostPort_authority.2, Uri.nonempty?, filled,
    meant, Text.before, Text.after?]

end Plain

/-- The user information is read with the URL that it stands in, so it is not cut. -/
theorem kept_of_parse {proxy : ProxyServer} {principal text : String}
    (read : Uri.parse text = .ok (proxy.meant principal)) :
    ∀ c ∈ (proxy.userInfo principal).toList, Uri.isKept c = true ∧ Uri.endsAuthority c = false := by
  obtain ⟨p, host, spells⟩ := Uri.pieces_of_parse read
  exact spells.userInfo_kept rfl

/-- **The URL of a proxy is read as the proxy that it was made from** if and only if nothing in its
user information ends the authority, is dropped or is a bracket out of place. -/
theorem parse_url_iff {proxy : ProxyServer} {principal : String} (plain : proxy.Plain principal) :
    Uri.parse proxy.url = .ok (proxy.meant principal) ↔
      (∀ c ∈ (proxy.userInfo principal).toList, c ∉ "/?#\t\r\n".toList) ∧
        proxy.BracketsFit principal := by
  have spelled : ∀ c, (Uri.isKept c = true ∧ Uri.endsAuthority c = false) ↔
      c ∉ "/?#\t\r\n".toList := by
    intro c
    simp only [Uri.isKept, Uri.endsAuthority, Bool.not_eq_true', Bool.or_eq_false_iff,
      decide_eq_false_iff_not]
    show _ ↔ c ∉ ['/', '?', '#', '\t', '\r', '\n']
    simp only [List.mem_cons, List.not_mem_nil, not_or]
    tauto
  have isUrl : ∀ kept, proxy.url = String.ofList (plain.pieces kept).text := by
    intro kept
    rw [← String.toList_inj, String.toList_ofList, plain.toList_url]
    simp [Uri.Pieces.text, Plain.pieces, Uri.Pieces.pathQuery, Uri.queryTail]
  simp only [← spelled]
  constructor
  · intro read
    have kept := kept_of_parse read
    rw [isUrl kept, (plain.pieces kept).parse_eq_ok_iff] at read
    obtain ⟨port, sound, -⟩ := read
    exact ⟨kept, (plain.sound_iff.1 sound).1⟩
  · rintro ⟨kept, bracketed⟩
    rw [isUrl kept, (plain.pieces kept).parse_eq_ok_iff]
    exact ⟨some proxy.port, plain.sound_iff.2 ⟨bracketed, rfl⟩, plain.ofCuts_eq.symm⟩

/-- Credentials with an `@`, colons and brackets, in front of a host that brackets may enclose. -/
theorem parse_url_of_brackets :
    Plain ⟨"v1.proxy", 8080, .https, some "a@[b", some "]:%2F@", []⟩ "a@[b" ∧
    Uri.parse (url ⟨"v1.proxy", 8080, .https, some "a@[b", some "]:%2F@", []⟩) = .ok {
      scheme := some "https", host := some "v1.proxy", userInfo := some "a@[b:]:%2F@"
      port := some 8080 } := by
  have plain : Plain ⟨"v1.proxy", 8080, .https, some "a@[b", some "]:%2F@", []⟩ "a@[b" :=
    ⟨rfl, by decide, by decide, List.forall_iff_forall_mem.1 (by decide), by decide,
      List.forall_iff_forall_mem.1 (by decide)⟩
  have kept : ∀ c ∈ (userInfo ⟨"v1.proxy", 8080, .https, some "a@[b", some "]:%2F@", []⟩
      "a@[b").toList, c ∉ "/?#\t\r\n".toList := List.forall_iff_forall_mem.1 (by decide)
  exact ⟨plain, (parse_url_iff plain).2 ⟨kept, .inr ⟨by decide, by decide, by decide⟩⟩⟩

/-- With a slash in the principal the URL leads to a host that the principal names. -/
theorem url_leads_astray :
    Plain ⟨"proxy", 8080, .http, some "a/b", some "p", []⟩ "a/b" ∧
    Uri.parse (url ⟨"proxy", 8080, .http, some "a/b", some "p", []⟩) = .ok {
      scheme := some "http", host := some "a", path := some "/b:p@proxy:8080" } := by
  refine ⟨⟨rfl, by decide, by decide, List.forall_iff_forall_mem.1 (by decide), by decide,
    List.forall_iff_forall_mem.1 (by decide)⟩, ?_⟩
  decide +kernel

end ProxyServer

end Outbound
