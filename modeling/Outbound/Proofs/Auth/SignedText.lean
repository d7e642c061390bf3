/-
# Outbound.Proofs.Auth.SignedText — the text that is signed says what is signed

The text that is signed has three parts, a line break between any two: the method
in upper case, the URL, and the parameters sorted by their names and encoded
(`stringToSign_of_lists`).

The method has no line break, in upper case neither, and no encoded query has one;
so the first and the last line break of the text are where its parts meet, whatever
the URL is (`signedText_inj`).  An encoded query tells its parameters, as long as
names are not empty and have values (`write_spread_inj`), and sorting forgets only
the order of the names.  Together: two requests have the same text to sign exactly
when they agree in method, URL, and the values of every name
(`stringToSign_eq_iff`).
-/
import Outbound.Auth.Signature
import Outbound.Proofs.FieldMap.Lookup
import Outbound.Proofs.Query.Sorted
import Outbound.Proofs.Request.RoundTrip
import Outbound.Proofs.Text.Case

namespace Outbound

set_option autoImplicit false

open Query (Contribution Parameter sorted spread write)

/-! ## Encoded parameters -/

namespace Query

/-- The entries have names, and values for each. -/
def Named (entries : List Contribution) : Prop := ∀ e ∈ entries, e.1 ≠ "" ∧ e.2 ≠ []

instance (entries : List Contribution) : Decidable (Named entries) :=
  inferInstanceAs (Decidable (∀ e ∈ entries, e.1 ≠ "" ∧ e.2 ≠ []))

theorem Named.sorted {entries : List Contribution} (named : Named entries) :
    Named (sorted entries) := by
  intro e mem
  exact named e ((sorted_perm entries).mem_iff.1 mem)

/-- What is read from a query that was written from entries with names and values. -/
theorem formParameters_write_spread {entries : List Contribution} (named : Named entries) :
    formParameters (write .encoded (spread entries)) = .ok (spread entries) := by
  have valued : ∀ e ∈ entries, e.2 ≠ [] := fun e mem => (named e mem).2
  have filled : ∀ e, entries.getLast? = some e → e.1 ≠ "" := fun e last =>
    (named e (List.mem_of_getLast? last)).1
  rw [formParameters_write, rdropWhile_spread valued filled]

/-- Distinct names with values are determined by their encoded query. -/
theorem write_spread_inj {entries others : List Contribution}
    (distinct : (entries.map Prod.fst).Nodup) (distinct' : (others.map Prod.fst).Nodup)
    (named : Named entries) (named' : Named others) :
    write .encoded (spread entries) = write .encoded (spread others) ↔ entries = others := by
  constructor
  · intro same
    have read := formParameters_write_spread named
    rw [same, formParameters_write_spread named'] at read
    have spreads := Except.ok.inj read
    rw [← grouped_spread distinct fun e mem => (named e mem).2, ← spreads]
    exact grouped_spread distinct' fun e mem => (named' e mem).2
  · rintro rfl
    rfl

theorem nodup_sorted {entries : List Contribution} (distinct : (entries.map Prod.fst).Nodup) :
    ((sorted entries).map Prod.fst).Nodup :=
  ((sorted_perm entries).map Prod.fst).nodup_iff.2 distinct

/-- The encoded query of sorted names tells the names and their values, but not their order. -/
theorem write_spread_sorted_eq_iff {entries others : List Contribution}
    (distinct : (entries.map Prod.fst).Nodup) (distinct' : (others.map Prod.fst).Nodup)
    (named : Named entries) (named' : Named others) :
    write .encoded (spread (sorted entries)) = write .encoded (spread (sorted others)) ↔
      entries.Perm others := by
  rw [write_spread_inj (nodup_sorted distinct) (nodup_sorted distinct') named.sorted named'.sorted,
    sorted_eq_iff_perm distinct]

theorem newline_not_mem_write (parameters : List Parameter) :
    '\n' ∉ (write .encoded parameters).toList := fun mem => absurd (mem_write mem) (by decide)

end Query

namespace HmacSigner

/-! ## The canonical query -/

@[simp] theorem orderMisuse?_texts (names : List String) :
    orderMisuse? (names.map Name.text) = none := by
  induction names with
  | nil => rfl
  | cons name names ih =>
      cases names with
      | nil => rfl
      | cons next rest => exact ih

/-- Entries of texts are put in the order of their names. -/
theorem mergeSort_precedes (entries : List Contribution) :
    (entries.map Query.field).mergeSort precedes = (sorted entries).map Query.field :=
  (List.map_mergeSort (f := Query.field) fun _ _ _ _ => rfl).symm

theorem canonicalQuery_of_lists {params : Fields} {entries : List Contribution}
    (lists : params.Lists entries) :
    canonicalQuery (some params) = .ok (write .encoded (spread (sorted entries))) := by
  have texts : params.names = (entries.map Prod.fst).map Name.text := by
    rw [FieldMap.names, lists.fields, List.map_map, List.map_map]
    rfl
  rw [canonicalQuery, texts, orderMisuse?_texts, lists.fields, mergeSort_precedes]
  simp only [Query.writePairs, FieldMap.mapM_parameter?_pairs]

/-- No parameters are signed like an empty map of them. -/
theorem canonicalQuery_paramsOrEmpty (request : Request) :
    canonicalQuery request.params = canonicalQuery (some request.paramsOrEmpty) := by
  rw [Request.paramsOrEmpty]
  cases request.params with
  | none =>
      rw [Option.getD_none, canonicalQuery_of_lists FieldMap.lists_empty, Query.sorted_nil]
      rfl
  | some params => rfl

/-! ## The text -/

/-- What is signed of a method, a URL and a canonical query. -/
def signedText (method url query : String) : String :=
  Text.upper method ++ "\n" ++ url ++ "\n" ++ query

/-- The method of a request as it is signed, empty when there is none. -/
theorem upperMethod_ofText? (method : Option String) :
    upperMethod (.ofText? method) = .ok (.text (Text.upper (method.getD ""))) := by
  cases method with
  | none => rfl
  | some s =>
      by_cases empty : s = ""
      · subst empty
        rfl
      · have isTrue : (Datum.text s).isTrue = true := by simpa [Datum.isTrue] using empty
        rw [Datum.ofText?, upperMethod, Datum.orElse, if_pos isTrue]
        rfl

/-- The text to sign of a request whose parameters are texts. -/
theorem stringToSign_of_lists {request : Request} {entries : List Contribution}
    (lists : request.paramsOrEmpty.Lists entries) {method : Option String}
    (isMethod : request.method = .ofText? method) (url : String) :
    stringToSign request (.text url) =
      .ok (signedText (method.getD "") url (write .encoded (spread (sorted entries)))) := by
  rw [stringToSign, isMethod, upperMethod_ofText?, canonicalQuery_paramsOrEmpty,
    canonicalQuery_of_lists lists]
  rfl

/-- The method of a request that can be signed is a text. -/
theorem eq_signedText_of_stringToSign {request : Request} {entries : List Contribution}
    (lists : request.paramsOrEmpty.Lists entries) {url text : String}
    (signed : stringToSign request (.text url) = .ok text) :
    ∃ method, request.method.orElse (.text "") = .text method ∧
      text = signedText method url (write .encoded (spread (sorted entries))) := by
  rw [stringToSign, canonicalQuery_paramsOrEmpty, canonicalQuery_of_lists lists] at signed
  obtain ⟨upper, isUpper, joined⟩ := bind_eq_ok_iff.1 signed
  rw [upperMethod] at isUpper
  split at isUpper
  · rename_i method isText
    obtain rfl := Except.ok.inj isUpper
    exact ⟨method, isText, (Except.ok.inj joined).symm⟩
  · cases isUpper
  · obtain rfl := Except.ok.inj isUpper
    cases joined
  · cases isUpper

theorem newline_not_mem_upper {s : String} (free : '\n' ∉ s.toList) :
    '\n' ∉ (Text.upper s).toList := fun mem =>
  free (Text.mem_of_mem_upper (by decide) (by decide) mem)

@[simp] theorem toList_signedText (method url query : String) :
    (signedText method url query).toList =
      (Text.upper method).toList ++ '\n' :: (url.toList ++ '\n' :: query.toList) := by
  simp [signedText]

/-- The text that is signed determines its parts when method and query have no line break. -/
theorem signedText_inj {method method' url url' query query' : String}
    (free : '\n' ∉ method.toList) (free' : '\n' ∉ method'.toList)
    (one_line : '\n' ∉ query.toList) (one_line' : '\n' ∉ query'.toList) :
    signedText method url query = signedText method' url' query' ↔
      Text.upper method = Text.upper method' ∧ url = url' ∧ query = query' := by
  -- The URL may have line breaks, so its ends are the first and the last one of the text.
  rw [← String.toList_inj, toList_signedText, toList_signedText,
    Text.append_cons_inj (newline_not_mem_upper free) (newline_not_mem_upper free'),
    Text.append_cons_inj_last one_line one_line']
  simp only [String.toList_inj]

/-- **Two requests have the same text to sign exactly when they have the same method in upper case,
the same URL, and the same values under every name**, in whatever order the names were entered. -/
theorem stringToSign_eq_iff {request other : Request} {entries others : List Contribution}
    (lists : request.paramsOrEmpty.Lists entries) (lists' : other.paramsOrEmpty.Lists others)
    (named : Query.Named entries) (named' : Query.Named others) {method method' : Option String}
    (isMethod : request.method = .ofText? method) (isMethod' : other.method = .ofText? method')
    (free : '\n' ∉ (method.getD "").toList) (free' : '\n' ∉ (method'.getD "").toList)
    (url url' : String) :
    ∃ text text', stringToSign request (.text url) = .ok text ∧
      stringToSign other (.text url') = .ok text' ∧
      (text = text' ↔ Text.upper (method.getD "") = Text.upper (method'.getD "") ∧ url = url' ∧
        ∀ name, request.paramsOrEmpty.get? name = other.paramsOrEmpty.get? name) := by
  refine ⟨_, _, stringToSign_of_lists lists isMethod url,
    stringToSign_of_lists lists' isMethod' url', ?_⟩
  rw [signedText_inj free free' (Query.newline_not_mem_write _) (Query.newline_not_mem_write _),
    Query.write_spread_sorted_eq_iff lists.distinct lists'.distinct named named',
    lists.perm_iff_get? lists']

def asked (method : String) (entries : List Contribution) : Request :=
  { method := .text method, params := some (FieldMap.ofFields .exact (entries.map Query.field)) }

/-- Names in another order and a method in lower case have the same text to sign; an empty value in
the place of a missing one has another. -/
theorem stringToSign_reordered :
    ∃ text other, stringToSign (asked "PUT" [("a b", [some ""]), ("é", [some "&", none])])
        (.text "http://h/\n") = .ok text ∧
      stringToSign (asked "put" [("é", [some "&", none]), ("a b", [some ""])])
        (.text "http://h/\n") = .ok text ∧
      stringToSign (asked "put" [("é", [some "&", some ""]), ("a b", [some ""])])
        (.text "http://h/\n") = .ok other ∧ text ≠ other := by
  let entries : List Contribution := [("a b", [some ""]), ("é", [some "&", none])]
  let reordered : List Contribution := [("é", [some "&", none]), ("a b", [some ""])]
  let changed : List Contribution := [("é", [some "&", some ""]), ("a b", [some ""])]
  have lists : (asked "PUT" entries).paramsOrEmpty.Lists entries :=
    FieldMap.lists_ofFields (by decide)
  have lists' : (asked "put" reordered).paramsOrEmpty.Lists reordered :=
    FieldMap.lists_ofFields (by decide)
  have lists'' : (asked "put" changed).paramsOrEmpty.Lists changed :=
    FieldMap.lists_ofFields (by decide)
  have named : Query.Named entries := by decide
  have named' : Query.Named reordered := by decide
  have named'' : Query.Named changed := by decide
  have upper : Text.upper "PUT" = Text.upper "put" := by decide +kernel
  have isMethod : (asked "PUT" entries).method = .ofText? (some "PUT") := rfl
  have isMethod' : (asked "put" reordered).method = .ofText? (some "put") := rfl
  have isMethod'' : (asked "put" changed).method = .ofText? (some "put") := rfl
  obtain ⟨text, text', isText, isText', same⟩ := stringToSign_eq_iff lists lists' named named'
    isMethod isMethod' (by decide) (by decide) "http://h/\n" "http://h/\n"
  obtain ⟨first, other, isFirst, isOther, differ⟩ := stringToSign_eq_iff lists lists'' named named''
    isMethod isMethod'' (by decide) (by decide) "http://h/\n" "http://h/\n"
  obtain rfl : text = first := Except.ok.inj (isText.symm.trans isFirst)
  obtain rfl : text = text' :=
    same.2 ⟨upper, rfl, (lists.perm_iff_get? lists').1 (by decide)⟩
  refine ⟨text, other, isText, isText', isOther, fun equal => ?_⟩
  have perm : entries.Perm changed := (lists.perm_iff_get? lists'').2 (differ.1 equal).2.2
  exact absurd perm (by decide)

end HmacSigner

end Outbound
