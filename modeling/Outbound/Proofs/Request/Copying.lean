/-
# Outbound.Proofs.Request.Copying — a copy of a request is the request

Copying a request makes its maps anew, with headers whose case is ignored and
parameters whose case is not.  A request is `Regular` when its maps are of these
kinds and each name in them is found again when it is given as a datum; then the
copy is the request itself, less what it remembers (`copy_of_regular`).  Every call
leaves a regular request regular, whether or not it fails (`Regular.perform`), and so
does every URI that is set.
-/
import Outbound.Proofs.FieldMap.Source
import Outbound.Proofs.Request.Entering
import Outbound.Proofs.Request.Derived

namespace Outbound.Request

set_option autoImplicit false

/-- The maps of the request are regular, its headers ignoring case and the others not. -/
structure Regular (request : Request) : Prop where
  headers : request.headers.Regular .folded
  params : ∀ m, request.params = some m → m.Regular .exact
  form : ∀ m, request.body.form = some m → m.Regular .exact

/-! ## Copies -/

theorem mapM_recast {k : Keying} {map : Option Fields}
    (regular : ∀ m, map = some m → m.Regular k) : map.mapM (FieldMap.recast k) = .ok map := by
  cases map with
  | none => rfl
  | some m =>
      show (FieldMap.recast k m).map some = _
      rw [FieldMap.recast_of_regular (regular m rfl)]
      rfl

/-- **The copy of a regular request is the request, which remembers nothing.** -/
theorem copy_of_regular {request : Request} (regular : request.Regular) :
    request.copy = .ok request.invalidate := by
  rw [copy, FieldMap.recast_of_regular regular.headers, mapM_recast regular.params,
    mapM_recast regular.form]
  rfl

/-! ## Calls -/

/-- Where there is no map, there is none to be regular. -/
theorem regular_of_none {map : Option Fields} {k : Keying} (none : map = none) :
    ∀ m, map = some m → m.Regular k := by
  rintro m rfl
  cases none

namespace Regular

variable {request : Request} (regular : request.Regular)

include regular

/-- The parameters there are, or none yet, are regular. -/
theorem paramsOrEmpty : request.paramsOrEmpty.Regular .exact := by
  rw [Request.paramsOrEmpty]
  cases given : request.params with
  | none => exact FieldMap.regular_empty
  | some m => exact regular.params m given

theorem formOrEmpty : (request.body.form.getD (.empty .exact)).Regular .exact := by
  cases given : request.body.form with
  | none => exact FieldMap.regular_empty
  | some m => exact regular.form m given

theorem withParams {params : Fields} (made : params.Regular .exact) :
    (request.withParams (some params)).Regular where
  headers := regular.headers
  params _ given := Option.some.inj given ▸ made
  form := regular.form

theorem setForm {form : Fields} (made : form.Regular .exact) :
    (request.withBody (·.setForm (some form))).Regular where
  headers := regular.headers
  params := regular.params
  form _ given := Option.some.inj given ▸ made

end Regular

theorem Regular.setBody {request : Request} (regular : request.Regular) (value length : Datum) :
    (request.setBody value length).1.Regular := by
  cases value with
  | octets holder bytes => exact ⟨regular.headers, regular.params, regular_of_none rfl⟩
  | text s => exact ⟨regular.headers, regular.params, regular_of_none rfl⟩
  | payload object =>
      rw [Request.setBody, setPayload]
      split_ifs
      · exact ⟨regular.headers, regular.params, regular.form⟩
      · exact ⟨regular.headers, regular.params, regular_of_none rfl⟩
      · exact ⟨regular.headers, regular.params, regular.form⟩
      · exact ⟨regular.headers, regular.params, regular_of_none rfl⟩
      · exact regular
  | _ => exact ⟨regular.headers, regular.params, regular.form⟩

/-- **Every call leaves a regular request regular**, whether or not it fails. -/
theorem Regular.perform {request : Request} (regular : request.Regular) (call : Call) :
    (request.perform call).1.Regular := by
  cases call with
  | setHeader name value =>
      exact of_doneWith (P := Regular) regular fun headers replaced =>
        ⟨regular.headers.replaceDatum _ replaced, regular.params, regular.form⟩
  | addHeader name value =>
      exact of_doneWith (P := Regular) regular fun headers added =>
        ⟨regular.headers.addDatum _ added, regular.params, regular.form⟩
  | setHeaders source =>
      exact of_doneWith (P := Regular) regular fun headers made =>
        ⟨FieldMap.regular_ofDatum made, regular.params, regular.form⟩
  | setCookies cookies =>
      exact of_doneWith (P := Regular) regular fun _ _ =>
        ⟨regular.headers, regular.params, regular.form⟩
  | putCookie cookie =>
      rw [Request.perform, putCookie]
      split
      · exact ⟨regular.headers, regular.params, regular.form⟩
      · split <;> exact regular
  | addQueryParam name value =>
      have emptied : ({ request with params := some request.paramsOrEmpty } : Request).Regular :=
        ⟨regular.headers, fun m given => Option.some.inj given ▸ regular.paramsOrEmpty,
          regular.form⟩
      exact of_doneWith (P := Regular) emptied fun params added =>
        regular.withParams (regular.paramsOrEmpty.addDatum _ added)
  | setQueryParams source =>
      by_cases absent : source = .absent
      · subst absent
        exact ⟨regular.headers, regular_of_none rfl, regular.form⟩
      · rw [perform_setQueryParams absent]
        exact of_doneWith (P := Regular) regular fun params made =>
          regular.withParams (FieldMap.regular_ofDatum made)
  | resetQueryParams => exact ⟨regular.headers, regular_of_none rfl, regular.form⟩
  | addFormParam name value =>
      exact of_doneWith (P := Regular) (regular.setForm regular.formOrEmpty) fun form added =>
        regular.setForm (regular.formOrEmpty.addDatum _ added)
  | setFormParams source =>
      have kept : (request.withBody Body.keepForm).Regular :=
        ⟨regular.headers, regular.params, regular.form⟩
      exact of_doneWith (P := Regular) kept fun form made =>
        regular.setForm (FieldMap.regular_ofDatum made)
  | setBodyOctets octets =>
      rw [Request.perform, setBodyOctets]
      split <;> exact ⟨regular.headers, regular.params, regular_of_none rfl⟩
  | setBody value length => exact regular.setBody value length
  | resetFormParams => exact ⟨regular.headers, regular.params, regular_of_none rfl⟩
  | setBodyText text => exact ⟨regular.headers, regular.params, regular_of_none rfl⟩
  | setBodyStream stream => exact ⟨regular.headers, regular.params, regular_of_none rfl⟩
  | setBodyWriter writer length => exact ⟨regular.headers, regular.params, regular_of_none rfl⟩
  | addBodyPart part => exact ⟨regular.headers, regular.params, regular_of_none rfl⟩
  | _ => exact ⟨regular.headers, regular.params, regular.form⟩

/-! ## The URI -/

theorem Regular.addParams {request : Request} (regular : request.Regular)
    (parameters : List Query.Parameter) : (request.addParams parameters).Regular := by
  induction parameters generalizing request with
  | nil => exact regular
  | cons p parameters ih =>
      have named : Keying.exact.name? (Name.text p.1).toDatum = .ok (some (.text p.1)) := rfl
      exact ih (regular.withParams (regular.paramsOrEmpty.add named _))

/-- Setting a URI leaves a regular request regular. -/
theorem Regular.of_sets {request : Request} (regular : request.Regular) {form : QueryForm}
    {uri : Uri} {left : Outcome Request} (sets : request.Sets form uri left) : left.1.Regular := by
  have located : ({ request with uri := some uri } : Request).Regular :=
    ⟨regular.headers, regular.params, regular.form⟩
  cases sets with
  | pathless none => exact regular
  | unsupported refused => exact regular
  | readable path supported all =>
      have added := located.addParams
      exact ⟨(added _).headers, (added _).params, (added _).form⟩
  | unreadable path supported cut readable failed => exact located.addParams _

end Outbound.Request
