/-
# Outbound.Proofs.Request.RoundTrip — which parameters survive their own query

A query is written from parameters and read by a new builder.  Reading never
fails, but it does not always give the parameters back: a name without values
leaves no trace, a name without a value is never decoded, a value without a name
is taken for a name, and an empty segment at the end says nothing.  These are all
the ways in which parameters are lost (`Faithful`).

That the condition is necessary is seen from the parameters as a multiset, since
grouping only reorders them: as many must come back as were written, so nothing
was lost at the end, and then they all must be read as they are meant
(`perm_iff_plain`).
-/
import Outbound.Builder.Step
import Outbound.Proofs.Query.Plain
import Outbound.Proofs.Request.Entering

namespace Outbound

set_option autoImplicit false

namespace Query

open Text.Percent (isLiteral)

/-- Distinct names with their values are read back from their encoded query. -/
structure Faithful (entries : List Contribution) : Prop where
  /-- Every name has a value. -/
  valued : ∀ e ∈ entries, e.2 ≠ []
  /-- A name that lacks a value somewhere is written as it is. -/
  literal : ∀ e ∈ entries, none ∈ e.2 → ∀ c ∈ e.1.toList, isLiteral c = true
  /-- The empty name has no texts as values. -/
  nameless : ∀ e ∈ entries, e.1 = "" → ∀ value ∈ e.2, value = none
  /-- The empty name is not the last one. -/
  named : ∀ e, entries.getLast? = some e → e.1 ≠ ""

/-! ## Parameters and entries -/

/-- The parameters of names with values end with those of the last name. -/
theorem getLast?_spread (entries : List Contribution) {e : Contribution} (valued : e.2 ≠ []) :
    (spread (entries ++ [e])).getLast? = some (e.1, e.2.getLast valued) := by
  simp [List.getLast?_append, List.getLast?_map, List.getLast?_eq_some_getLast valued]

/-- All that is written stays when the last name is not empty. -/
theorem rdropWhile_spread {entries : List Contribution} (valued : ∀ e ∈ entries, e.2 ≠ [])
    (named : ∀ e, entries.getLast? = some e → e.1 ≠ "") :
    (spread entries).rdropWhile (· = ("", none)) = spread entries := by
  rw [rdropWhile_eq_self_iff_getLast?]
  cases entries using List.reverseRecOn with
  | nil => exact nofun
  | append_singleton entries e =>
      rw [getLast?_spread entries
        (valued e (List.mem_append_right _ (List.mem_singleton_self e)))]
      intro last
      exact named e List.getLast?_concat (congrArg Prod.fst (Option.some.inj last))

/-! ## What is read back -/

def reread (parameters : List Parameter) : List Contribution :=
  grouped (((parameters.rdropWhile (· = ("", none))).map readBack).map single)

theorem reread_of_faithful {entries : List Contribution}
    (distinct : (entries.map Prod.fst).Nodup) (faithful : Faithful entries) :
    reread (spread entries) = entries := by
  have plain : ∀ p ∈ spread entries, Plain (segment .encoded p) := by
    intro p isParameter
    obtain ⟨e, isEntry, name, value⟩ := mem_spread.1 isParameter
    refine (plain_segment_iff p).2 ⟨fun none => ?_, fun empty => ?_⟩
    · rw [← name]
      exact faithful.literal e isEntry (none ▸ value)
    · exact faithful.nameless e isEntry (name.trans empty) p.2 value
  rw [reread, rdropWhile_spread faithful.valued faithful.named, map_readBack_of_plain plain]
  exact grouped_spread distinct faithful.valued

theorem faithful_of_reread {entries : List Contribution}
    (back : reread (spread entries) = entries) : Faithful entries := by
  have valued : ∀ e ∈ entries, e.2 ≠ [] := by
    intro e mem
    rw [← back] at mem
    exact ne_nil_of_mem_grouped mem
  -- Every parameter that comes back was one that was written, and none was lost at the end.
  have perm := spread_grouped_perm
    ((((spread entries).rdropWhile (· = ("", none))).map readBack).map single)
  rw [spread_map_single] at perm
  change (spread (reread (spread entries))).Perm _ at perm
  rw [back] at perm
  have whole : (spread entries).rdropWhile (· = ("", none)) = spread entries := by
    have same := perm.length_eq
    rw [List.length_map] at same
    exact rdropWhile_eq_self_of_length same.symm
  rw [whole] at perm
  have plain := perm_map_readBack_iff.1 perm
  have plainEntry : ∀ e ∈ entries, ∀ value ∈ e.2,
      (value = none → ∀ c ∈ e.1.toList, isLiteral c = true) ∧ (e.1 = "" → value = none) := by
    intro e isEntry value isValue
    exact (plain_segment_iff (e.1, value)).1 (plain _ (mem_spread.2 ⟨e, isEntry, rfl, isValue⟩))
  have nameless : ∀ e ∈ entries, e.1 = "" → ∀ value ∈ e.2, value = none :=
    fun e isEntry empty value isValue => (plainEntry e isEntry value isValue).2 empty
  refine ⟨valued, fun e isEntry none => (plainEntry e isEntry _ none).1 rfl, nameless, ?_⟩
  intro e last empty
  obtain ⟨others, rfl⟩ := List.getLast?_eq_some_iff.1 last
  have isEntry : e ∈ others ++ [e] := List.mem_append_right _ (List.mem_singleton_self e)
  rw [rdropWhile_eq_self_iff_getLast?, getLast?_spread others (valued e isEntry), empty,
    nameless e isEntry empty _ (List.getLast_mem _)] at whole
  exact whole rfl

/-- **The entries that come back are those that were written exactly when they are faithful.** -/
theorem reread_eq_iff {entries : List Contribution} (distinct : (entries.map Prod.fst).Nodup) :
    reread (spread entries) = entries ↔ Faithful entries :=
  ⟨faithful_of_reread, reread_of_faithful distinct⟩

end Query

namespace Builder

open Query (Contribution Faithful reread spread write)

/-- A new builder whose URI is set has the parameters that the query of the URI states. -/
theorem setUriDatum_ofSettings_of_write (settings : Settings) (method isRaw : Datum)
    (encoded : (ofSettings settings method isRaw).queryForm = .encoded) {uri : Uri}
    (path : uri.path.isSome) (supported : uri.isSupported) {parameters : List Query.Parameter}
    (query : uri.query.getD "" = write .encoded parameters) :
    ∃ left, (ofSettings settings method isRaw).setUriDatum (.uri uri) = (left, .ok ()) ∧
      left.request.paramsOrEmpty.Lists (reread parameters) := by
  have readable := Query.mapM_stated_write parameters
  rw [← query] at readable
  have fresh : (ofSettings settings method isRaw).request.paramsOrEmpty.Lists [] :=
    FieldMap.lists_empty
  obtain ⟨left, set, -, lists⟩ := Request.setUri_of_stated path supported readable fresh
  rw [← Query.grouped_eq_foldl] at lists
  refine ⟨{ ofSettings settings method isRaw with request := left, urlText := none }, ?_, lists⟩
  rw [← encoded] at set
  exact setUri_of_request set none

/-- **A map of parameters comes back from the query that it was composed to exactly when it is
faithful**; reading the query never fails. -/
theorem params_reread_iff {params : Fields} {entries : List Contribution}
    (lists : params.Lists entries) {source : Request} (isParams : source.params = some params)
    {target : Uri} (composed : source.compose .encoded = .ok target) {uri : Uri}
    (path : uri.path.isSome) (supported : uri.isSupported) (query : uri.query = target.query)
    (settings : Settings) (method isRaw : Datum)
    (encoded : (ofSettings settings method isRaw).queryForm = .encoded) :
    ∃ left, (ofSettings settings method isRaw).setUriDatum (.uri uri) = (left, .ok ()) ∧
      (left.request.paramsOrEmpty = params ↔ Faithful entries) := by
  have written : uri.query.getD "" = write .encoded (spread entries) := by
    have listed : source.paramsOrEmpty.Lists entries := by
      rw [Request.paramsOrEmpty, isParams]
      exact lists
    rw [Request.compose_of_lists (Request.supported_of_compose composed) listed] at composed
    rw [query, ← Except.ok.inj composed]
    by_cases none : entries = []
    · subst none
      rfl
    · rw [if_neg none]
      rfl
  obtain ⟨left, set, back⟩ :=
    setUriDatum_ofSettings_of_write settings method isRaw encoded path supported written
  refine ⟨left, set, ?_⟩
  rw [back.eq_iff lists, Query.reread_eq_iff lists.distinct]

/-- Parameters that come back: a coded name, an empty value, the empty name between others, and a
name that has a value only the second time. -/
theorem params_reread_mixed :
    ∃ left, (ofSettings {} .absent .absent).setUriDatum
        (.uri ⟨some "http", some "h", none, none, some "/", some "a%20b=1%262&a%20b=&&c&c=d"⟩) =
          (left, .ok ()) ∧
      left.request.paramsOrEmpty = FieldMap.ofFields .exact
        [⟨.text "a b", [.text "1&2", .text ""]⟩, ⟨.text "", [.absent]⟩,
          ⟨.text "c", [.absent, .text "d"]⟩] := by
  let entries : List Contribution :=
    [("a b", [some "1&2", some ""]), ("", [none]), ("c", [none, some "d"])]
  let params : Fields := FieldMap.ofFields .exact (entries.map Query.field)
  have lists : params.Lists entries := FieldMap.lists_ofFields (by decide)
  have composed : ({ uri := some { scheme := "http", host := "h" }, params } : Request).compose
      .encoded = .ok ⟨some "http", some "h", none, none, some "/",
        some "a%20b=1%262&a%20b=&&c&c=d"⟩ := rfl
  obtain ⟨left, set, back⟩ := params_reread_iff lists rfl composed rfl
    (by decide +kernel) rfl {} .absent .absent (by decide +kernel)
  have literal : ∀ e ∈ entries, none ∈ e.2 →
      e.1.toList.all Text.Percent.isLiteral = true := by
    decide
  refine ⟨left, set, back.2 ⟨by decide, fun e mem none => ?_, by decide, ?_⟩⟩
  · exact List.all_eq_true.1 (literal e mem none)
  · intro e last
    obtain rfl := Option.some.inj last
    decide

end Builder

end Outbound
