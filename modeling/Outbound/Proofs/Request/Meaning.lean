/-
# Outbound.Proofs.Request.Meaning — what a query means before and after

The query of a URL, read as a form, means a list of parameters.  So does the query
of the target that a request composes after the URL was set.  Up to the grouping
of parameters by their names the two lists are the same unless the URL has a
segment that is not read as it is meant (`Plain`), or grouping brings an empty
segment to the end, where it says nothing (`meaning_kept_iff`).
-/
import Outbound.Proofs.Query.Plain
import Outbound.Proofs.Request.Derived
import Outbound.Proofs.Request.Entering

namespace Outbound

set_option autoImplicit false

namespace Query

/-- Reading segments, gathering their parameters and losing those without a name and a value at
the end keeps what they mean only if the segments are plain and nothing is lost. -/
theorem gather_taken_iff {ss : List (List Char)} {taken meant : List Parameter}
    (took : ss.mapM (stated .encoded) = .ok taken) (means : ss.mapM formParameter = .ok meant) :
    gather ((gather taken).rdropWhile (· = ("", none))) = gather meant ↔
      (∀ s ∈ ss, Plain s) ∧ (gather meant).getLast? ≠ some ("", none) := by
  constructor
  · intro kept
    have perm := (gather_perm ((gather taken).rdropWhile (· = ("", none)))).symm
    rw [kept] at perm
    have count : taken.length = meant.length :=
      (length_of_mapM took).trans (length_of_mapM means).symm
    have whole : (gather taken).rdropWhile (· = ("", none)) = gather taken := by
      apply rdropWhile_eq_self_of_length
      rw [perm.length_eq, (gather_perm meant).length_eq, (gather_perm taken).length_eq, count]
    rw [whole] at perm
    have plain := (perm_iff_plain took means).1
      (((gather_perm taken).symm.trans perm).trans (gather_perm meant)).symm
    refine ⟨plain, ?_⟩
    rw [← (compare_segments took means).2.2 plain]
    exact rdropWhile_eq_self_iff_getLast?.1 whole
  · rintro ⟨plain, last⟩
    obtain rfl := (compare_segments took means).2.2 plain
    rw [rdropWhile_eq_self_iff_getLast?.2 last, gather_gather]

end Query

namespace Builder

open Query (Parameter gather pieces stated formParameters Plain)

/-- The query that a new builder composes after its URL was set is written from what the query of
the URL states, name by name. -/
theorem readTarget_of_setUrl {settings : Settings} {method isRaw : Datum}
    (encoded : (ofSettings settings method isRaw).queryForm = .encoded) {text : String}
    {left : Builder} (set : (ofSettings settings method isRaw).setUrl (.text text) = (left, .ok ()))
    {uri : Uri} (parsed : Uri.parse text = .ok uri) :
    ∃ taken target, (pieces (uri.query.getD "")).mapM (stated .encoded) = .ok taken ∧
      (left.request.readTarget .encoded).2 = .ok target ∧
      target.query.getD "" = Query.write .encoded (gather taken) := by
  obtain ⟨text', uri', isText, parsed', isUrl⟩ := eq_of_setUrl (congrArg Prod.snd set)
  obtain rfl := Datum.text.inj isText
  obtain rfl := Except.ok.inj (parsed.symm.trans parsed')
  rw [isUrl] at set
  obtain ⟨request, entered, isLeft⟩ := request_of_setUri (congrArg Prod.snd set)
  obtain rfl := congrArg Prod.fst (set.symm.trans isLeft)
  rw [encoded] at entered
  obtain ⟨path, supported, taken, took⟩ := Request.stated_of_setUri entered
  have fresh : (ofSettings settings method isRaw).request.paramsOrEmpty.Lists [] :=
    FieldMap.lists_empty
  obtain ⟨request', entered', located, lists⟩ :=
    Request.setUri_of_stated path supported took fresh
  obtain rfl : request = request' := congrArg Prod.fst (entered.symm.trans entered')
  rw [← Query.grouped_eq_foldl] at lists
  have coherent : request.Coherent := by
    apply Request.coherent_of_underived
    rw [located]
    rfl
  have base : request.base = uri := by
    rw [located]
    rfl
  have composed := Request.compose_of_lists (by rw [base]; exact supported) lists .encoded
  rw [← Request.readTarget_of_coherent coherent] at composed
  refine ⟨taken, _, took, composed, ?_⟩
  rw [gather]
  split
  · rename_i none
    rw [none]
    rfl
  · rfl

/-- **What the query of a URL means is kept, up to grouping by names, exactly when all its segments
are plain and its parameters, grouped, do not end with an empty one.**  In any case it becomes what
its segments state, grouped, less the empty parameters at the end. -/
theorem meaning_kept_iff {settings : Settings} {method isRaw : Datum}
    (encoded : (ofSettings settings method isRaw).queryForm = .encoded) {text : String}
    {left : Builder} (set : (ofSettings settings method isRaw).setUrl (.text text) = (left, .ok ()))
    {uri : Uri} (parsed : Uri.parse text = .ok uri) {meant : List Parameter}
    (means : formParameters (uri.query.getD "") = .ok meant) :
    ∃ taken target result, (pieces (uri.query.getD "")).mapM (stated .encoded) = .ok taken ∧
      (left.request.readTarget .encoded).2 = .ok target ∧
      formParameters (target.query.getD "") = .ok result ∧
      result = (gather taken).rdropWhile (· = ("", none)) ∧
      (gather result = gather meant ↔
        (∀ s ∈ pieces (uri.query.getD ""), Plain s) ∧
          (gather meant).getLast? ≠ some ("", none)) := by
  obtain ⟨taken, target, took, read, written⟩ := readTarget_of_setUrl encoded set parsed
  refine ⟨taken, target, _, took, read, ?_, rfl, Query.gather_taken_iff took means⟩
  rw [written, Query.formParameters_write]

/-- A coded value, an empty segment between others, a plus sign, and a name that comes back. -/
theorem meaning_kept_mixed :
    ∃ left target result,
      (ofSettings {} .absent .absent).setUrl (.text "http://h/?b=%31&&a+c=2&b&") =
        (left, .ok ()) ∧
      (left.request.readTarget .encoded).2 = .ok target ∧
      formParameters (target.query.getD "") = .ok result ∧
      gather result = [("b", some "1"), ("b", none), ("", none), ("a c", some "2")] := by
  have encoded : (ofSettings {} .absent .absent).queryForm = .encoded := by decide
  have set : (ofSettings {} .absent .absent).setUrl (.text "http://h/?b=%31&&a+c=2&b&") =
      (((ofSettings {} .absent .absent).setUrl (.text "http://h/?b=%31&&a+c=2&b&")).1,
        .ok ()) := rfl
  have parsed : Uri.parse "http://h/?b=%31&&a+c=2&b&" =
      .ok ⟨some "http", some "h", none, none, some "/", some "b=%31&&a+c=2&b&"⟩ := rfl
  have means : formParameters "b=%31&&a+c=2&b&" =
      .ok [("b", some "1"), ("", none), ("a c", some "2"), ("b", none)] := rfl
  obtain ⟨taken, target, result, -, read, written, -, kept⟩ :=
    meaning_kept_iff encoded set parsed means
  refine ⟨_, target, result, set, read, written, ?_⟩
  rw [kept.2 ⟨by decide, by decide⟩]
  decide

/-- What the query of a URL means in a form is what the query of the target then composed means,
up to grouping by names. -/
def MeaningKept (text : String) : Prop :=
  ∀ (settings : Settings) (method isRaw : Datum) (left : Builder) (uri target : Uri)
    (meant : List Parameter),
    (ofSettings settings method isRaw).queryForm = .encoded →
    (ofSettings settings method isRaw).setUrl (.text text) = (left, .ok ()) →
    Uri.parse text = .ok uri → formParameters (uri.query.getD "") = .ok meant →
    (left.request.readTarget .encoded).2 = .ok target →
    ∃ result, formParameters (target.query.getD "") = .ok result ∧ gather result = gather meant

/-- An escape in a name without a value is escaped once more. -/
theorem not_meaningKept_escaped : ¬ MeaningKept "http://h/?a%20b" := by
  intro kept
  have uri : Uri.parse "http://h/?a%20b" =
      .ok ⟨some "http", some "h", none, none, some "/", some "a%20b"⟩ := by rfl
  have means : formParameters "a%20b" = .ok [("a b", none)] := by rfl
  obtain ⟨result, read, same⟩ := kept {} .absent .absent _ _
    ⟨some "http", some "h", none, none, some "/", some "a%2520b"⟩ _ (by decide) (by rfl) uri means
    (by rfl)
  obtain rfl : [("a%20b", none)] = result := Except.ok.inj read
  exact absurd same (by decide)

end Builder

end Outbound
