/-
# Outbound.Proofs.Session.Verbatim — a query that is taken as it stands

Where queries are taken as they stand, a URI is set without a look at what its
query says.  A segment becomes a parameter and is written again from it.  The way
back is exact for every segment (`segment_verbatim`): one with something in front
of its first `=` is the two sides of it, any other is a name without a value, and
nothing is decoded on the way in or coded on the way out.

What changes is the order.  Parameters of one name stand together, so the segments
do (`regrouped`), each where the first one of its name stood and among themselves
in the order in which they came.  None is lost or written twice
(`regrouped_perm`).  Hence the target of a new builder, after a URI was set, has
these segments for its query (`verbatim_query_of_set`).
-/
import Outbound.Proofs.Session.Current

namespace Outbound

set_option autoImplicit false

open Query (gather pieces stated)

namespace Query

/-! ## Segments as they stand -/

/-- The segment has something in front of its first `=`. -/
def Valued (s : List Char) : Prop := '=' ∈ s ∧ s.head? ≠ some '='

instance : DecidablePred Valued := fun _ => inferInstanceAs (Decidable (_ ∧ _))

/-- The name of a segment: what precedes its first `=`, or all of it when nothing does. -/
def segmentName (s : List Char) : String :=
  String.ofList (if Valued s then s.takeWhile (· ≠ '=') else s)

/-- The parameter that a segment is as it stands. -/
def verbatim (s : List Char) : Parameter :=
  (segmentName s, if Valued s then some (String.ofList (s.dropWhile (· ≠ '=')).tail) else none)

/-- Taken as it stands, every segment states a parameter. -/
@[simp] theorem stated_raw (s : List Char) : stated .raw s = .ok (verbatim s) := by
  by_cases mem : '=' ∈ s
  · obtain ⟨name, value, rfl, free⟩ := List.eq_append_cons_of_mem mem
    cases name with
    | nil =>
        have nameless : ¬ Valued ('=' :: value) := fun valued => valued.2 rfl
        rw [List.nil_append, stated_nameless, verbatim, segmentName, if_neg nameless,
          if_neg nameless]
    | cons c more =>
        have valued : Valued (c :: more ++ '=' :: value) := by
          refine ⟨mem, ?_⟩
          rintro ⟨rfl⟩
          exact free List.mem_cons_self
        have cut := cut_at free value
        rw [stated_named .raw free (List.cons_ne_nil c more), verbatim, segmentName, if_pos valued,
          if_pos valued, cut.1, cut.2]
        rfl
  · have valueless : ¬ Valued s := fun valued => mem valued.1
    rw [stated_valueless .raw mem, verbatim, segmentName, if_neg valueless, if_neg valueless]

/-- A segment is written again from its parameter. -/
@[simp] theorem segment_verbatim (s : List Char) : segment .raw (verbatim s) = s := by
  rw [verbatim, segmentName]
  by_cases valued : Valued s
  · obtain ⟨name, value, rfl, free⟩ := List.eq_append_cons_of_mem valued.1
    have cut := cut_at free value
    rw [if_pos valued, if_pos valued, cut.1, cut.2]
    simp [segment, component]
  · simp [segment, component, valued]

@[simp] theorem map_segment_verbatim (ss : List (List Char)) :
    ss.map (segment .raw ∘ verbatim) = ss := by
  apply (List.map_congr_left ?_).trans (List.map_id ss)
  intro s _
  exact segment_verbatim s

/-! ## Segments by their names -/

/-- Segments with those of one name together, in the order in which they came. -/
def regrouped (ss : List (List Char)) : List (List Char) :=
  (ss.map segmentName).eraseDups.flatMap fun name => ss.filter (segmentName · = name)

/-- Segments that are gathered as parameters are regrouped and otherwise as they were. -/
theorem map_segment_gather (ss : List (List Char)) :
    (gather (ss.map verbatim)).map (segment .raw) = regrouped ss := by
  have names : (ss.map verbatim).map Prod.fst = ss.map segmentName := by
    rw [List.map_map]
    rfl
  have same : ∀ name, ((ss.map verbatim).filter (·.1 = name)).map (segment .raw) =
      ss.filter (segmentName · = name) := by
    intro name
    rw [List.filter_map, List.map_map]
    exact map_segment_verbatim _
  rw [gather_eq_flatMap, names, List.map_flatMap, regrouped]
  simp only [same]

/-- Regrouping neither loses nor adds a segment. -/
theorem regrouped_perm (ss : List (List Char)) : (regrouped ss).Perm ss := by
  have perm := (gather_perm (ss.map verbatim)).map (segment .raw)
  rwa [map_segment_gather, List.map_map, map_segment_verbatim] at perm

/-- A query of segments that are gathered as parameters. -/
theorem write_raw_gather (ss : List (List Char)) :
    write .raw (gather (ss.map verbatim)) = String.ofList (['&'].intercalate (regrouped ss)) := by
  rw [write, map_segment_gather]
  rfl

end Query

/-! ## The target -/

/-- **Where queries are taken as they stand, a URI can be set on a new builder whatever its query
is, and the query of the target is its segments**, those of one name together, each unchanged. -/
theorem verbatim_query_of_set (world : World) {settings : Settings} {method isRaw : Datum}
    {session : Session} (fresh : session.builder = .ofSettings settings method isRaw)
    (raw : session.builder.queryForm = .raw) {uri : Uri} (path : uri.path.isSome)
    (supported : uri.isSupported) {step : Step} (sets : step.Sets uri) :
    let ss := pieces (uri.query.getD "")
    ∃ left target, Act.step world step session = .ok .done left ∧
      Act.answer (Act.step world (.read (.target .raw))) left = .ok (.target target) ∧
      target.query = (if ss = [] then none
        else some (String.ofList (['&'].intercalate (Query.regrouped ss)))) ∧
      (Query.regrouped ss).Perm ss := by
  intro ss
  have readable : ss.mapM (stated .raw) = .ok (ss.map Query.verbatim) := by
    apply mapM_eq_ok
    intro s _
    exact Query.stated_raw s
  have blank : session.builder.request.paramsOrEmpty.Lists [] := by
    rw [fresh]
    exact FieldMap.lists_empty
  obtain ⟨request, set, located, lists⟩ := Request.setUri_of_stated path supported readable blank
  rw [← Query.grouped_eq_foldl] at lists
  rw [← raw] at set
  obtain ⟨urlText, made⟩ := Act.step_of_sets set sets world
  -- Nothing is remembered after a URI was set, so the target is composed from what lists.
  have coherent : request.Coherent := by
    apply Request.coherent_of_underived
    rw [located]
    rfl
  have supported : request.base.isSupported := by
    rw [located]
    exact supported
  let left : Session := { session with builder := { session.builder with request, urlText } }
  have coherent : left.builder.request.Coherent := coherent
  have read := Act.answer_target coherent world .raw
  rw [Request.compose_of_lists supported lists .raw] at read
  refine ⟨_, _, made, read, ?_, Query.regrouped_perm ss⟩
  rw [← Query.write_raw_gather]
  simp only [Uri.withTarget, Query.grouped_eq_nil_iff, List.map_eq_nil_iff]
  rfl

/-- Segments that are empty, that have no name, that cannot be decoded, and one name with an empty
value and without any. -/
theorem verbatim_query_of_odd_segments :
    let uri : Uri := { scheme := some "http", host := some "h", query := some "&a&&a=%zz&=b&a=&&" }
    let session : Session := { builder := .ofSettings {} .absent (.bool true) }
    ∃ left target, Act.step {} (.setUri (.uri uri)) session = .ok .done left ∧
      Act.answer (Act.step {} (.read (.target .raw))) left = .ok (.target target) ∧
      target.query = some "&&a&a=%zz&a=&=b" := by
  intro uri session
  have fresh : session.builder = .ofSettings {} .absent (.bool true) := rfl
  have path : uri.path.isSome := rfl
  obtain ⟨left, target, made, read, query, -⟩ := verbatim_query_of_set {} fresh rfl path rfl .given
  have shown : String.ofList (['&'].intercalate (Query.regrouped
      (pieces (uri.query.getD "")))) = "&&a&a=%zz&a=&=b" := by
    decide +kernel
  have some_segment : pieces (uri.query.getD "") ≠ [] := by decide +kernel
  rw [if_neg some_segment, shown] at query
  exact ⟨left, target, made, read, query⟩

end Outbound
