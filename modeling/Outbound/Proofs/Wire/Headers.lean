/-
# Outbound.Proofs.Wire.Headers — the headers that are handed over

A header is handed over for each value that is present in an entry of the headers.
Behind them are the headers that a request implies: its cookies, its virtual host
and its range.  One that is implied is asked for in the map, not in what is handed
over: it is left out if the map has an entry of its name (`Request.Conveys`), so no
name comes from both.  From neither comes a name that has an entry without a value
that is present, which is how a header is kept from being sent
(`headers_of_request`).
-/
import Outbound.Proofs.FieldMap.Lookup
import Outbound.Proofs.Session.History

namespace Outbound

set_option autoImplicit false

/-! ## Names of headers -/

/-- What the name of a header is known by, in whatever case it is spelled. -/
def headerKey (name : Name) : Key := Keying.folded.key name

/-- The headers of a name. -/
def headersNamed (name : Name) (headers : List (Name × Datum)) : List (Name × Datum) :=
  headers.filter fun h => headerKey h.1 = headerKey name

theorem headersNamed_congr {a b : Name} (same : headerKey a = headerKey b)
    (headers : List (Name × Datum)) : headersNamed a headers = headersNamed b headers := by
  rw [headersNamed, same, headersNamed]

@[simp] theorem headersNamed_append (name : Name) (front back : List (Name × Datum)) :
    headersNamed name (front ++ back) = headersNamed name front ++ headersNamed name back :=
  List.filter_append front back

section

variable {α β κ : Type} [DecidableEq κ] {key : α → κ} {label : β → κ} {g : α → List β} {l : List α}

theorem filter_flatMap_eq_nil (labelled : ∀ a ∈ l, ∀ b ∈ g a, label b = key a) {k : κ}
    (unknown : k ∉ l.map key) : (l.flatMap g).filter (label · = k) = [] := by
  rw [List.filter_eq_nil_iff]
  intro b mem isKey
  obtain ⟨a, isElement, made⟩ := List.mem_flatMap.1 mem
  apply unknown
  rw [← of_decide_eq_true isKey, labelled a isElement b made]
  exact List.mem_map_of_mem isElement

/-- Of what elements with different keys make, that of one key is made by one element. -/
theorem filter_flatMap_of_mem (labelled : ∀ a ∈ l, ∀ b ∈ g a, label b = key a)
    (distinct : (l.map key).Nodup) {a : α} (mem : a ∈ l) :
    (l.flatMap g).filter (label · = key a) = g a := by
  induction l with
  | nil => cases mem
  | cons c l ih =>
      obtain ⟨first, others⟩ := List.forall_mem_cons.1 labelled
      obtain ⟨unknown, distinct⟩ := List.nodup_cons.1 distinct
      rw [List.flatMap_cons, List.filter_append]
      rcases List.mem_cons.1 mem with rfl | mem
      · rw [filter_flatMap_eq_nil others unknown, List.append_nil, List.filter_eq_self]
        exact fun b made => decide_eq_true (first b made)
      · have none : (g c).filter (label · = key a) = [] := by
          rw [List.filter_eq_nil_iff]
          intro b made isKey
          apply unknown
          rw [← first b made, of_decide_eq_true isKey]
          exact List.mem_map_of_mem mem
        rw [ih others distinct mem, none, List.nil_append]

end

/-! ## What a request conveys -/

/-- The headers of an entry: its name with each value that is present. -/
def Field.headers (f : Field Datum) : List (Name × Datum) :=
  (f.values.filter Datum.isPresent).map fun value => (f.name, value)

namespace Request

/-- A header that follows from what else the request holds. -/
inductive Implies (request : Request) : String → Datum → Prop where
  | cookies (some : request.cookies ≠ []) :
    Implies request "Cookie" (.text (Cookie.header request.cookies))
  | virtualHost (filled : request.virtualHost.isTrue) : Implies request "Host" request.virtualHost
  | range (positive : request.rangeOffset.isPositive = .ok true) :
    Implies request "Range" (.text ("bytes=" ++ request.rangeOffset.written ++ "-"))

/-- Headers that say what a request holds. -/
structure Conveys (request : Request) (headers : List (Name × Datum)) : Prop where
  /-- The headers of all entries come first, in their order. -/
  explicit : request.headers.fields.flatMap Field.headers <+: headers
  /-- Of the name of an entry there are those of the entry and no others. -/
  entry : ∀ f ∈ request.headers.fields, headersNamed f.name headers = f.headers
  /-- Of the name of an implied header there are those of the entry, or else the implied one. -/
  implied : ∀ name value, request.Implies name value → headersNamed (.text name) headers =
    match request.headers.find? (.text name) with
    | some f => f.headers
    | none => [(.text name, value)]
  /-- There is nothing else. -/
  only : ∀ h ∈ headers, (∃ f ∈ request.headers.fields, h ∈ f.headers) ∨
    ∃ name value, request.Implies name value ∧ h = (.text name, value)

/-- What may be implied, with the value of the header if it is. -/
def impliedValues (request : Request) (positive : Bool) : List (String × Option Datum) :=
  [("Cookie", request.cookieValue?), ("Host", request.hostValue?),
    ("Range",
      if positive then some (.text ("bytes=" ++ request.rangeOffset.written ++ "-")) else none)]

def impliedHeaders (request : Request) (positive : Bool) : List (Name × Datum) :=
  (request.impliedValues positive).flatMap fun p => request.implied p.1 p.2

variable {request : Request} {positive : Bool}

theorem wireHeaders_eq (numeric : request.rangeOffset.isPositive = .ok positive) :
    request.wireHeaders = .ok (request.explicitHeaders ++ request.impliedHeaders positive) := by
  rw [wireHeaders, rangeValue?, numeric]
  simp only [Except.map, impliedHeaders, impliedValues, List.flatMap_cons, List.flatMap_nil,
    List.append_nil, List.append_assoc]

theorem implies_iff (numeric : request.rangeOffset.isPositive = .ok positive) {name : String}
    {value : Datum} :
    request.Implies name value ↔ (name, some value) ∈ request.impliedValues positive := by
  simp only [impliedValues, List.mem_cons, List.not_mem_nil, or_false, Prod.mk.injEq]
  constructor
  · rintro (some | filled | isPositive)
    · refine .inl ⟨rfl, ?_⟩
      rw [cookieValue?, if_neg (by simpa using some)]
    · refine .inr (.inl ⟨rfl, ?_⟩)
      rw [hostValue?, if_pos filled]
    · obtain rfl := Except.ok.inj (numeric.symm.trans isPositive)
      exact .inr (.inr ⟨rfl, rfl⟩)
  · rintro (⟨rfl, isValue⟩ | ⟨rfl, isValue⟩ | ⟨rfl, isValue⟩)
    · rw [cookieValue?] at isValue
      split at isValue
      · cases isValue
      · rename_i some
        obtain rfl := Option.some.inj isValue
        exact .cookies (by simpa using some)
    · rw [hostValue?] at isValue
      split at isValue
      · rename_i filled
        obtain rfl := Option.some.inj isValue
        exact .virtualHost filled
      · cases isValue
    · split at isValue
      · rename_i isPositive
        obtain rfl := Option.some.inj isValue
        exact .range (isPositive ▸ numeric)
      · cases isValue

theorem mem_implied {name : String} {value? : Option Datum} {h : Name × Datum}
    (mem : h ∈ request.implied name value?) :
    ∃ value, value? = some value ∧ h = (.text name, value) ∧
      request.headers.contains (.text name) = false := by
  cases value? with
  | none => cases mem
  | some value =>
      cases known : request.headers.contains (.text name) with
      | true =>
          rw [implied, if_pos known] at mem
          cases mem
      | false =>
          rw [implied, if_neg (by rw [known]; nofun)] at mem
          exact ⟨value, rfl, List.mem_singleton.1 mem, rfl⟩

/-! ## The headers of one name -/

@[simp] theorem headers_eq_nil_iff {f : Field Datum} :
    f.headers = [] ↔ ∀ v ∈ f.values, v = .absent := by
  rw [Field.headers, List.map_eq_nil_iff, List.filter_eq_nil_iff]
  refine forall₂_congr fun v _ => ?_
  cases v <;> simp [Datum.isPresent]

theorem headerKey_of_mem {f : Field Datum} {h : Name × Datum} (mem : h ∈ f.headers) :
    headerKey h.1 = headerKey f.name := by
  obtain ⟨value, -, rfl⟩ := List.mem_map.1 mem
  rfl

theorem headerKey_of_mem_implied {name : String} {value? : Option Datum} {h : Name × Datum}
    (mem : h ∈ request.implied name value?) : headerKey h.1 = headerKey (.text name) := by
  obtain ⟨value, -, rfl, -⟩ := mem_implied mem
  rfl

theorem headersNamed_implied (numeric : request.rangeOffset.isPositive = .ok positive)
    {name : String} {value : Datum} (isImplied : request.Implies name value)
    (unknown : request.headers.contains (.text name) = false) :
    headersNamed (.text name) (request.impliedHeaders positive) = [(.text name, value)] := by
  have distinct : ((request.impliedValues positive).map fun p => headerKey (.text p.1)).Nodup := by
    show [headerKey (.text "Cookie"), headerKey (.text "Host"), headerKey (.text "Range")].Nodup
    decide +kernel
  have labelled : ∀ p ∈ request.impliedValues positive, ∀ h ∈ request.implied p.1 p.2,
      headerKey h.1 = headerKey (.text p.1) := fun _ _ _ mem => headerKey_of_mem_implied mem
  have made := filter_flatMap_of_mem labelled distinct ((implies_iff numeric).1 isImplied)
  rw [implied, if_neg (by rw [unknown]; nofun)] at made
  exact made

section

variable (folded : request.headers.keying = .folded)

include folded

theorem contains_eq_false_iff {name : Name} : request.headers.contains name = false ↔
    headerKey name ∉ request.headers.fields.map (headerKey ·.name) := by
  rw [FieldMap.contains, FieldMap.find?, folded, Option.isSome_eq_false_iff,
    Option.isNone_iff_eq_none, List.find?_eq_none, List.mem_map, not_exists]
  simp only [decide_eq_true_eq, not_and]
  rfl

theorem headersNamed_explicit {f : Field Datum} (mem : f ∈ request.headers.fields) :
    headersNamed f.name request.explicitHeaders = f.headers := by
  have distinct := request.headers.distinct
  rw [folded] at distinct
  exact filter_flatMap_of_mem (fun _ _ _ mem => headerKey_of_mem mem) distinct mem

theorem headersNamed_explicit_of_unknown {name : Name}
    (unknown : request.headers.contains name = false) :
    headersNamed name request.explicitHeaders = [] :=
  filter_flatMap_eq_nil (fun _ _ _ mem => headerKey_of_mem mem)
    ((contains_eq_false_iff folded).1 unknown)

/-- Nothing is implied under the name of an entry. -/
theorem headersNamed_implied_of_mem {f : Field Datum} (mem : f ∈ request.headers.fields) :
    headersNamed f.name (request.impliedHeaders positive) = [] := by
  rw [headersNamed, List.filter_eq_nil_iff]
  intro h made isName
  obtain ⟨p, -, made⟩ := List.mem_flatMap.1 made
  obtain ⟨value, -, rfl, unknown⟩ := mem_implied made
  apply (contains_eq_false_iff folded).1 unknown
  rw [of_decide_eq_true isName]
  exact List.mem_map_of_mem mem

theorem conveys_wireHeaders (numeric : request.rangeOffset.isPositive = .ok positive) :
    request.Conveys (request.explicitHeaders ++ request.impliedHeaders positive) := by
  have entry : ∀ f ∈ request.headers.fields, headersNamed f.name
      (request.explicitHeaders ++ request.impliedHeaders positive) = f.headers := by
    intro f mem
    simp [headersNamed_explicit folded mem, headersNamed_implied_of_mem folded mem]
  refine ⟨List.prefix_append _ _, entry, fun name value isImplied => ?_, fun h mem => ?_⟩
  · cases found : request.headers.find? (.text name) with
    | some f =>
        obtain ⟨mem, same⟩ := FieldMap.find?_eq_some_iff.1 found
        rw [folded] at same
        rw [← headersNamed_congr same]
        exact entry f mem
    | none =>
        have unknown : request.headers.contains (.text name) = false := by
          rw [FieldMap.contains, found]
          rfl
        simp [headersNamed_explicit_of_unknown folded unknown,
          headersNamed_implied numeric isImplied unknown]
  · rcases List.mem_append.1 mem with mem | mem
    · exact .inl (List.mem_flatMap.1 mem)
    · obtain ⟨p, isElement, made⟩ := List.mem_flatMap.1 mem
      obtain ⟨value, isValue, rfl, -⟩ := mem_implied made
      refine .inr ⟨p.1, value, (implies_iff numeric).2 ?_, rfl⟩
      rw [← isValue]
      exact isElement

/-- A name that is implied has no header exactly when it has an entry without a value. -/
theorem Conveys.headersNamed_eq_nil_iff {headers : List (Name × Datum)}
    (conveys : request.Conveys headers) {name : String} {value : Datum}
    (isImplied : request.Implies name value) : headersNamed (.text name) headers = [] ↔
      ∃ f ∈ request.headers.fields, headerKey f.name = headerKey (.text name) ∧
        ∀ v ∈ f.values, v = .absent := by
  constructor
  · intro none
    rw [conveys.implied name value isImplied] at none
    cases found : request.headers.find? (.text name) with
    | none =>
        rw [found] at none
        cases none
    | some f =>
        obtain ⟨mem, same⟩ := FieldMap.find?_eq_some_iff.1 found
        rw [folded] at same
        rw [found] at none
        exact ⟨f, mem, same, headers_eq_nil_iff.1 none⟩
  · rintro ⟨f, mem, same, absent⟩
    rw [← headersNamed_congr same, conveys.entry f mem]
    exact headers_eq_nil_iff.2 absent

end

end Request

/-! ## Handing over -/

theorem Act.wireHeaders_of_handOver {world : World} {session next : Session} {wired : WireRequest}
    (handed : handOver world session = .ok wired next) :
    session.builder.request.wireHeaders = .ok wired.headers := by
  obtain ⟨timeout, -, rest⟩ := lift_bind_answered handed
  obtain ⟨url, read, -, rest⟩ := bind_answered_iff.1 rest
  obtain ⟨headers, isHeaders, rest⟩ := lift_bind_answered rest
  obtain ⟨brought, -, rest⟩ := lift_bind_answered rest
  cases rest
  exact isHeaders

/-- **The headers that are handed over say what the request holds**: each value that is present in
an entry, once and in order, and each header that is implied, once, if it has no entry.  A name that
is implied comes from neither exactly when it has an entry in which no value is present. -/
theorem headers_of_request {request : Request} {positive : Bool}
    (folded : request.headers.keying = .folded)
    (numeric : request.rangeOffset.isPositive = .ok positive) :
    ∃ headers, request.wireHeaders = .ok headers ∧ request.Conveys headers ∧
      (∀ name value, request.Implies name value → (headersNamed (.text name) headers = [] ↔
        ∃ f ∈ request.headers.fields, headerKey f.name = headerKey (.text name) ∧
          ∀ v ∈ f.values, v = .absent)) ∧
      ∀ world session next wired, session.builder.request = request →
        Act.step world .handOver session = .ok (.wire wired) next → wired.headers = headers := by
  have conveys := Request.conveys_wireHeaders folded numeric
  refine ⟨_, Request.wireHeaders_eq numeric, conveys, fun name value isImplied =>
    conveys.headersNamed_eq_nil_iff folded isImplied, ?_⟩
  rintro world session next wired rfl handed
  obtain ⟨wired', next', isWired, done⟩ := Act.bind_answered_iff.1 handed
  cases done
  have same := Act.wireHeaders_of_handOver isWired
  rw [Request.wireHeaders_eq numeric] at same
  exact (Except.ok.inj same).symm

/-- The virtual host and the cookies have entries, one with a value and one without; the range has
none. -/
theorem headers_of_request_mixed :
    let session := Session.run {} { builder := Builder.ofSettings {} .absent .absent }
      [.call (.addHeader (.text "host") (.text "a")), .call (.setHeader (.text "COOKIE") .absent),
        .call (.addCookie (.record "Cookie" true [("name", .text "n"), ("value", .text "v")])),
        .call (.setVirtualHost (.text "b")), .call (.setRangeOffset (.int 5))]
    ∃ wired next, Act.step {} .handOver session = .ok (.wire wired) next ∧
      session.builder.request.Conveys wired.headers ∧
      wired.headers = [(.text "host", .text "a"), (.text "Range", .text "bytes=5-")] := by
  intro session
  obtain ⟨wired, next, handed⟩ : ∃ wired next,
      Act.step {} .handOver session = .ok (.wire wired) next := ⟨_, _, rfl⟩
  have numeric : session.builder.request.rangeOffset.isPositive = .ok true := rfl
  obtain ⟨headers, areHeaders, conveys, -, same⟩ := headers_of_request rfl numeric
  rw [← same {} session next wired rfl handed] at conveys areHeaders
  exact ⟨wired, next, handed, conveys, (Except.ok.inj areHeaders).symm⟩

/-- A header that is set to nothing is not sent, although there are cookies. -/
theorem not_headersNamed_cookie :
    let session := Session.run {} { builder := Builder.ofSettings {} .absent .absent }
      [.call (.addCookie (.record "Cookie" true [("name", .text "a"), ("value", .text "1")])),
        .call (.setHeader (.text "Cookie") .absent)]
    session.builder.request.cookies ≠ [] ∧
      ∃ wired next, Act.step {} .handOver session = .ok (.wire wired) next ∧
        headersNamed (.text "Cookie") wired.headers = [] := by
  intro session
  exact ⟨nofun, _, _, rfl, rfl⟩

end Outbound
