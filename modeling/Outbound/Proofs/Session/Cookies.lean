/-
# Outbound.Proofs.Session.Cookies — cookies that others were put among

Putting a cookie looks for the first one of its name.  After any number of puts the
cookies are those of before, in which the first of each name was renewed by the
last one put under it (`Cookie.renewed`), and behind them one for each name that
they did not have, in the order in which these names were first put, each the last
put under it (`Cookie.fresh`).

The puts of one name do not see those of another.  So the first cookie of a list
can be dealt with alone, with the puts of its name, and the rest of the list with
the other puts (`foldl_put_cons`); the whole list is by induction (`foldl_put`).
-/
import Outbound.Proofs.FieldMap.History
import Outbound.Proofs.Session.History

namespace Outbound

set_option autoImplicit false

theorem Datum.same_text_iff {s t : String} : same (.text s) (.text t) = true ↔ s = t := by
  simp [same, isNan, key?, name?, Name.key]

namespace Cookie

/-! ## Names -/

/-- The text that a cookie is named by. -/
def title? (cookie : Cookie) : Option String := cookie.name.asText?

/-- The cookies are named by texts. -/
def Titled (cookies : List Cookie) : Prop := ∀ cookie ∈ cookies, cookie.title?.isSome

theorem same_iff {a b : Cookie} (titled : a.title?.isSome) (titled' : b.title?.isSome) :
    a.name.same b.name = true ↔ a.title? = b.title? := by
  obtain ⟨s, isText⟩ := Datum.exists_text_of_asText? titled
  obtain ⟨t, isText'⟩ := Datum.exists_text_of_asText? titled'
  rw [title?, title?, isText, isText', Datum.same_text_iff]
  exact Option.some_inj.symm

/-- How many cookies have a name. -/
def number (name : Option String) (cookies : List Cookie) : Nat := cookies.countP (·.title? = name)

/-! ## What is put -/

/-- The last of the cookies that are put under a name. -/
def last? (puts : List Cookie) (name : Option String) : Option Cookie :=
  puts.reverse.find? (·.title? = name)

/-- The cookies, in which the first of each name gives way to the last that is put under it. -/
def renewed (puts cookies : List Cookie) : List Cookie :=
  cookies.mapIdx fun i cookie =>
    if cookie.title? ∈ (cookies.take i).map title? then cookie
    else (last? puts cookie.title?).getD cookie

/-- The last cookie that is put under each name that is not among the cookies, in the order in
which the names are first put. -/
def fresh (puts cookies : List Cookie) : List Cookie :=
  ((puts.map title?).filter (· ∉ cookies.map title?)).eraseDups.filterMap (last? puts)

/-- What is put under other names. -/
def others (puts : List Cookie) (name : Option String) : List Cookie :=
  puts.filter (·.title? ≠ name)

section

variable {puts : List Cookie} {name other : Option String}

@[simp] theorem last?_cons (p : Cookie) : last? (p :: puts) name =
    (last? puts name).or (if p.title? = name then some p else none) := by
  rw [last?, List.reverse_cons, List.find?_append]
  by_cases same : p.title? = name <;> simp [last?, same]

@[simp] theorem others_cons_of_eq {p : Cookie} (same : p.title? = name) :
    others (p :: puts) name = others puts name := by
  simp [others, same]

@[simp] theorem others_cons_of_ne {p : Cookie} (differ : p.title? ≠ name) :
    others (p :: puts) name = p :: others puts name := by
  simp [others, differ]

@[simp] theorem last?_others_self : last? (others puts name) name = none := by
  simp [last?, others]

@[simp] theorem last?_others (differ : other ≠ name) :
    last? (others puts name) other = last? puts other := by
  induction puts with
  | nil => rfl
  | cons p puts ih =>
      by_cases same : p.title? = name
      · simp [same, ih, differ.symm]
      · simp [same, ih]

@[simp] theorem map_title?_others :
    (others puts name).map title? = (puts.map title?).filter (· ≠ name) := by
  rw [List.filter_map]
  rfl

end

/-! ## One name at a time -/

section

variable {c : Cookie} {cookies puts : List Cookie}

theorem renewed_cons : renewed puts (c :: cookies) =
    (last? puts c.title?).getD c :: renewed (others puts c.title?) cookies := by
  rw [renewed, List.mapIdx_cons, renewed]
  refine congrArg (_ :: List.mapIdx · cookies) ?_
  funext i cookie
  rw [List.take_succ_cons, List.map_cons]
  by_cases before : cookie.title? ∈ (cookies.take i).map title?
  · rw [if_pos (List.mem_cons_of_mem _ before), if_pos before]
  by_cases first : cookie.title? = c.title?
  · rw [if_neg before, first, if_pos List.mem_cons_self, last?_others_self]
    rfl
  · have neither : cookie.title? ∉ c.title? :: (cookies.take i).map title? :=
      fun mem => (List.mem_cons.1 mem).elim first before
    rw [if_neg before, if_neg neither, last?_others first]

theorem filterMap_last?_others {names : List (Option String)} {name : Option String}
    (free : name ∉ names) :
    names.filterMap (last? (others puts name)) = names.filterMap (last? puts) := by
  apply List.filterMap_congr
  intro other mem
  apply last?_others
  rintro rfl
  exact free mem

theorem fresh_cons : fresh puts (c :: cookies) = fresh (others puts c.title?) cookies := by
  have names : (puts.map title?).filter (· ∉ (c :: cookies).map title?) =
      ((others puts c.title?).map title?).filter (· ∉ cookies.map title?) := by
    rw [map_title?_others, List.filter_filter]
    refine List.filter_congr fun name _ => ?_
    by_cases first : name = c.title? <;> simp [first]
  rw [fresh, fresh, ← names, filterMap_last?_others]
  simp [List.mem_eraseDups]

/-- The first name that is put is the first among the fresh ones. -/
theorem fresh_nil_cons (p : Cookie) :
    fresh (p :: puts) [] = (last? puts p.title?).getD p :: fresh (others puts p.title?) [] := by
  have all : ∀ puts : List Cookie,
      fresh puts [] = (puts.map title?).eraseDups.filterMap (last? puts) := by
    intro puts
    simp [fresh]
  have newest : last? (p :: puts) p.title? = some ((last? puts p.title?).getD p) := by
    rw [last?_cons, if_pos rfl]
    cases last? puts p.title? <;> rfl
  have rest : (puts.map title?).filter (fun name => !name == p.title?) =
      (others puts p.title?).map title? := by
    rw [map_title?_others]
    refine List.filter_congr fun name _ => ?_
    by_cases same : name = p.title? <;> simp [same]
  have free : p.title? ∉ ((others puts p.title?).map title?).eraseDups := by
    simp [List.mem_eraseDups]
  rw [all, all, List.map_cons, List.eraseDups_cons, List.filterMap_cons, newest, rest]
  rw [← others_cons_of_eq (p := p) rfl] at free ⊢
  rw [filterMap_last?_others free]

/-- The first cookie of a list is renewed by what is put under its name, and the rest of the list
sees what is put under other names. -/
theorem foldl_put_cons (titled : c.title?.isSome) (titledPuts : Titled puts) :
    puts.foldl (fun cookies p => p.put cookies) (c :: cookies) =
      (last? puts c.title?).getD c ::
        (others puts c.title?).foldl (fun cookies p => p.put cookies) cookies := by
  induction puts generalizing c cookies with
  | nil => rfl
  | cons p puts ih =>
      obtain ⟨first, rest⟩ := List.forall_mem_cons.1 titledPuts
      rw [List.foldl_cons, Cookie.put, last?_cons]
      by_cases same : p.title? = c.title?
      · rw [if_pos ((same_iff titled first).2 same.symm), ih first rest, others_cons_of_eq same,
          same, if_pos rfl]
        cases last? puts c.title? <;> rfl
      · rw [if_neg (fun found => same ((same_iff titled first).1 found).symm), ih titled rest,
          others_cons_of_ne same, if_neg same, Option.or_none, List.foldl_cons]

end

theorem titled_others {puts : List Cookie} (titled : Titled puts) (name : Option String) :
    Titled (others puts name) :=
  fun p mem => titled p (List.mem_of_mem_filter mem)

/-- **Cookies that others were put among are renewed, and followed by fresh ones.** -/
theorem foldl_put {cookies puts : List Cookie} (titled : Titled cookies)
    (titledPuts : Titled puts) :
    puts.foldl (fun cookies p => p.put cookies) cookies =
      renewed puts cookies ++ fresh puts cookies := by
  induction cookies generalizing puts with
  | nil =>
      induction n : puts.length using Nat.strong_induction_on generalizing puts with
      | _ size ih =>
          cases puts with
          | nil => rfl
          | cons p puts =>
              have fewer : (others puts p.title?).length < size := by
                rw [← n, List.length_cons]
                exact Nat.lt_succ_of_le (List.length_filter_le _ _)
              obtain ⟨first, rest⟩ := List.forall_mem_cons.1 titledPuts
              have behind := ih _ fewer (titled_others rest p.title?) rfl
              rw [List.foldl_cons, Cookie.put, foldl_put_cons first rest, behind]
              exact (fresh_nil_cons p).symm
  | cons c cookies ih =>
      obtain ⟨first, rest⟩ := List.forall_mem_cons.1 titled
      rw [foldl_put_cons first titledPuts, ih rest (titled_others titledPuts _), renewed_cons,
        fresh_cons, List.cons_append]

/-! ## How many there are -/

theorem titled_put {p : Cookie} {cookies : List Cookie} (titled : p.title?.isSome)
    (others : Titled cookies) : Titled (p.put cookies) := by
  induction cookies with
  | nil => exact List.forall_mem_singleton.2 titled
  | cons c cookies ih =>
      obtain ⟨first, rest⟩ := List.forall_mem_cons.1 others
      rw [put]
      split
      · exact List.forall_mem_cons.2 ⟨titled, rest⟩
      · exact List.forall_mem_cons.2 ⟨first, ih rest⟩

/-- A put adds a cookie of its name only if there was none. -/
theorem number_put {p : Cookie} {cookies : List Cookie} (titled : p.title?.isSome)
    (others : Titled cookies) (name : Option String) : number name (p.put cookies) =
      if p.title? = name then max (number name cookies) 1 else number name cookies := by
  induction cookies with
  | nil => simp [put, number, List.countP_cons]
  | cons c cookies ih =>
      obtain ⟨first, rest⟩ := List.forall_mem_cons.1 others
      have ih := ih rest
      rw [put]
      simp only [same_iff first titled]
      unfold number at ih ⊢
      by_cases same : c.title? = p.title?
      · rw [if_pos same, List.countP_cons, List.countP_cons, same]
        by_cases isName : p.title? = name <;> simp [isName]
      · rw [if_neg same, List.countP_cons, List.countP_cons, ih]
        by_cases isName : p.title? = name
        · simp [isName, isName ▸ same]
        · simp [isName]

theorem number_foldl_put {cookies puts : List Cookie} (titled : Titled cookies)
    (titledPuts : Titled puts) (name : Option String) :
    number name (puts.foldl (fun cookies p => p.put cookies) cookies) =
      if name ∈ puts.map title? then max (number name cookies) 1 else number name cookies := by
  induction puts generalizing cookies with
  | nil => rfl
  | cons p puts ih =>
      obtain ⟨first, rest⟩ := List.forall_mem_cons.1 titledPuts
      rw [List.foldl_cons, ih (titled_put first titled) rest, number_put first titled]
      by_cases isName : p.title? = name
      · simp [isName]
      · simp [isName, Ne.symm isName]

end Cookie

/-! ## Calls that put cookies -/

namespace Session

def cookies (session : Session) : List Cookie := session.builder.request.cookies

def withCookies (session : Session) (cookies : List Cookie) : Session :=
  { session with builder := { session.builder with
      request := { session.builder.request with cookies } } }

end Session

def Step.puts (data : List Datum) : List Step := data.map fun d => .call (.putCookie d)

/-- The datum describes a cookie that is named by a text. -/
def Datum.IsCookie (d : Datum) : Prop := ∃ p, Cookie.ofDatum? d = some p ∧ p.title?.isSome

theorem Act.step_putCookie (world : World) (session : Session) {d : Datum} {p : Cookie}
    (isCookie : Cookie.ofDatum? d = some p) :
    Act.step world (.call (.putCookie d)) session =
      .ok .done (session.withCookies (p.put session.cookies)) := by
  have performed : session.builder.perform (.putCookie d) =
      ((session.withCookies (p.put session.cookies)).builder, .ok ()) := by
    rw [Builder.perform, Request.perform, Request.putCookie, isCookie]
    rfl
  have unlogged : Act.log (Call.putCookie d).log session = .ok () session := by
    show EStateM.Result.ok () { session with events := session.events ++ [] } = _
    rw [List.append_nil]
  rw [Act.step, Act.stepWith, Act.bind_eq, unlogged]
  show ((Act.change _ >>= fun _ => pure Reply.done : Act Reply) session) = _
  simp only [Act.bind_eq, Act.change_eq, Act.pure_eq, performed]
  rfl

theorem Cookie.titled_filterMap {data : List Datum} (areCookies : ∀ d ∈ data, d.IsCookie) :
    Titled (data.filterMap Cookie.ofDatum?) := by
  intro p mem
  obtain ⟨d, isDatum, isCookie⟩ := List.mem_filterMap.1 mem
  obtain ⟨q, isCookie', titled⟩ := areCookies d isDatum
  rw [isCookie] at isCookie'
  obtain rfl := Option.some.inj isCookie'
  exact titled

theorem run_puts (world : World) (session : Session) {data : List Datum}
    (areCookies : ∀ d ∈ data, d.IsCookie) :
    session.Returns world (Step.puts data) ∧ session.run world (Step.puts data) =
      session.withCookies ((data.filterMap Cookie.ofDatum?).foldl (fun cookies p => p.put cookies)
        session.cookies) := by
  induction data generalizing session with
  | nil => exact ⟨trivial, rfl⟩
  | cons d data ih =>
      obtain ⟨⟨p, isCookie, -⟩, rest⟩ := List.forall_mem_cons.1 areCookies
      have made := Act.step_putCookie world session isCookie
      have left : Act.left (Act.step world (.call (.putCookie d))) session =
          session.withCookies (p.put session.cookies) := by
        rw [Act.left, made]
      obtain ⟨returns, after⟩ := ih (session.withCookies (p.put session.cookies)) rest
      have notBuild : Step.call (.putCookie d) ≠ .build := by
        intro isBuild
        cases isBuild
      refine ⟨⟨.inr ⟨_, _, made⟩, fun isBuild => absurd isBuild notBuild, left ▸ returns⟩, ?_⟩
      rw [List.filterMap_cons, isCookie]
      show Session.run world (Act.left _ session) (Step.puts data) = _
      rw [left, after]
      rfl

/-- **After calls that put cookies the cookies are renewed and followed by fresh ones, and nothing
else has changed.**  Of a name that was put there are as many cookies as before, or one if there
was none, and no more of them after any further puts. -/
theorem cookies_of_puts (world : World) {session : Session} {data : List Datum}
    (titled : Cookie.Titled session.cookies) (areCookies : ∀ d ∈ data, d.IsCookie) :
    let puts := data.filterMap Cookie.ofDatum?
    session.Returns world (Step.puts data) ∧
      session.run world (Step.puts data) = session.withCookies
        (Cookie.renewed puts session.cookies ++ Cookie.fresh puts session.cookies) ∧
      ∀ name ∈ puts.map Cookie.title?, ∀ more : List Datum, (∀ d ∈ more, d.IsCookie) →
        Cookie.number name (session.run world (Step.puts (data ++ more))).cookies =
          max (Cookie.number name session.cookies) 1 := by
  intro puts
  have titledPuts := Cookie.titled_filterMap areCookies
  obtain ⟨returns, after⟩ := run_puts world session areCookies
  refine ⟨returns, ?_, ?_⟩
  · rw [after, Cookie.foldl_put titled titledPuts]
  · intro name isPut more areMore
    have all := List.forall_mem_append.2 ⟨areCookies, areMore⟩
    rw [(run_puts world session all).2]
    show Cookie.number name (List.foldl _ session.cookies _) = _
    rw [Cookie.number_foldl_put titled (Cookie.titled_filterMap all), if_pos]
    rw [List.filterMap_append, List.map_append]
    exact List.mem_append_left _ isPut

/-- Of two cookies of a name the first is renewed twice, and the last put of a new name is found
where that name was first put. -/
theorem cookies_of_puts_repeated :
    let cookie (name value : String) : Cookie := { name := .text name, value := .text value }
    let datum (name value : String) : Datum :=
      .record "Cookie" true [("name", .text name), ("value", .text value), ("max_age", .int (-1)),
        ("secure", .bool false), ("http_only", .bool false)]
    let session : Session :=
      { builder := { request := { cookies := [cookie "a" "1", cookie "b" "2", cookie "a" "3"] } } }
    let data := [datum "a" "4", datum "c" "5", datum "d" "6", datum "a" "7", datum "c" "8"]
    let after := session.run {} (Step.puts data)
    after.cookies =
        [cookie "a" "7", cookie "b" "2", cookie "a" "3", cookie "c" "8", cookie "d" "6"] ∧
      Cookie.number (some "a") after.cookies = 2 ∧ Cookie.number (some "c") after.cookies = 1 := by
  intro cookie datum session data after
  have titled : Cookie.Titled session.cookies := by
    simp only [Cookie.Titled, session, Session.cookies, List.forall_mem_cons]
    exact ⟨rfl, rfl, rfl, nofun⟩
  have isCookie : ∀ name value, (datum name value).IsCookie := fun name value =>
    ⟨cookie name value, rfl, rfl⟩
  have areCookies : ∀ d ∈ data, d.IsCookie := by
    simp only [data, List.forall_mem_cons]
    exact ⟨isCookie _ _, isCookie _ _, isCookie _ _, isCookie _ _, isCookie _ _, nofun⟩
  obtain ⟨-, run, number⟩ := cookies_of_puts {} titled areCookies
  refine ⟨?_, number (some "a") (by decide) [] nofun, number (some "c") (by decide) [] nofun⟩
  show Session.cookies (session.run _ _) = _
  rw [run]
  rfl

end Outbound
