/-
# Outbound.Proofs.Request.Entering — parameters from a query into a target

Setting the URI of a request enters the parameters that the segments of its query
state, one by one, and succeeds exactly when the URI has a path and a supported
scheme and every segment can be read (`setUri_of_stated`, `stated_of_setUri`).
The parameters are then those there were with the stated ones entered
(`lists_addParams`); nothing else of the request changes but its URI, and what was
derived is forgotten (`invalidate_addParams`).

The target that is composed from parameters that are texts has the query that is
written from them, and none when there are none (`compose_of_lists`).
-/
import Mathlib.Data.List.Induction
import Outbound.Builder.Step
import Outbound.Proofs.FieldMap.Texts
import Outbound.Proofs.Query.Reading
import Outbound.Request.Target

namespace Outbound

set_option autoImplicit false

open Query (Contribution Parameter pieces stated single enter spread)

@[simp] theorem Uri.checkScheme_eq_ok_iff (uri : Uri) :
    uri.checkScheme = .ok () ↔ uri.isSupported := by
  rw [Uri.checkScheme]
  cases uri.isSupported with
  | true => simp
  | false => cases uri.render <;> simp [Except.bind]

namespace Request

/-! ## Entering the parameters of a query -/

def addParams (request : Request) (parameters : List Parameter) : Request :=
  parameters.foldl (fun request p => request.addParam p.1 p.2) request

theorem enterSegments_of_stated {form : QueryForm} {segments : List (List Char)}
    {parameters : List Parameter} (readable : segments.mapM (stated form) = .ok parameters)
    (request : Request) :
    enterSegments form request segments = (request.addParams parameters, .ok ()) := by
  induction segments generalizing request parameters with
  | nil =>
      obtain rfl := Except.ok.inj readable
      rfl
  | cons s rest ih =>
      obtain ⟨p, more, first, others, rfl⟩ := mapM_cons_eq_ok_iff.1 readable
      rw [enterSegments, Query.readSegment_eq_stated, first]
      exact ih others _

/-- Entering stops at the first segment that cannot be read. -/
theorem enterSegments_of_unreadable {form : QueryForm} {before after : List (List Char)}
    {s : List Char} {parameters : List Parameter} {cause : Text.Percent.Fault}
    (readable : before.mapM (stated form) = .ok parameters) (unreadable : stated form s = .error cause)
    (request : Request) :
    enterSegments form request (before ++ s :: after) =
      (request.addParams parameters, .error (.undecodable (String.ofList s) cause)) := by
  induction before generalizing request parameters with
  | nil =>
      obtain rfl := Except.ok.inj readable
      rw [List.nil_append, enterSegments, Query.readSegment_eq_stated, unreadable]
      rfl
  | cons first rest ih =>
      obtain ⟨p, more, first, others, rfl⟩ := mapM_cons_eq_ok_iff.1 readable
      rw [List.cons_append, enterSegments, Query.readSegment_eq_stated, first]
      exact ih others _

/-- Segments that have all been entered could all be read. -/
theorem stated_of_enterSegments {form : QueryForm} {segments : List (List Char)}
    {request left : Request} (entered : enterSegments form request segments = (left, .ok ())) :
    ∃ parameters, segments.mapM (stated form) = .ok parameters := by
  induction segments generalizing request with
  | nil => exact ⟨[], rfl⟩
  | cons s rest ih =>
      rw [enterSegments, Query.readSegment_eq_stated] at entered
      cases first : stated form s with
      | error cause =>
          rw [first] at entered
          cases entered
      | ok p =>
          rw [first] at entered
          obtain ⟨more, others⟩ := ih entered
          exact ⟨p :: more, mapM_cons_eq_ok_iff.2 ⟨p, more, first, others, rfl⟩⟩

/-- Adding parameters changes the parameters, and makes void what was derived. -/
theorem invalidate_addParams (request : Request) (parameters : List Parameter) :
    (request.addParams parameters).invalidate =
      request.withParams (request.addParams parameters).params := by
  induction parameters generalizing request with
  | nil => rfl
  | cons p parameters ih =>
      have tail := ih (request.addParam p.1 p.2)
      rw [addParams, List.foldl_cons]
      exact tail.trans rfl

/-- Adding parameters changes the parameters and what is remembered, and nothing else. -/
theorem addParams_eq (request : Request) (parameters : List Parameter) :
    request.addParams parameters =
      { request with
        params := (request.addParams parameters).params
        derived := (request.addParams parameters).derived } := by
  induction parameters generalizing request with
  | nil => rfl
  | cons p parameters ih =>
      have tail := ih (request.addParam p.1 p.2)
      rw [addParams, List.foldl_cons]
      exact tail.trans rfl

/-- The parameters that are added to do not depend on the rest of the request. -/
theorem params_addParams_congr {request other : Request} (same : request.params = other.params)
    (parameters : List Parameter) :
    (request.addParams parameters).params = (other.addParams parameters).params := by
  induction parameters generalizing request other with
  | nil => exact same
  | cons p parameters ih =>
      have first : (request.addParam p.1 p.2).params = (other.addParam p.1 p.2).params := by
        show some _ = some _
        rw [paramsOrEmpty, paramsOrEmpty, same]
      exact ih first

theorem derived_addParams {request : Request} {parameters : List Parameter}
    (filled : parameters ≠ []) : (request.addParams parameters).derived = {} := by
  cases parameters using List.reverseRecOn with
  | nil => exact absurd rfl filled
  | append_singleton parameters p =>
      rw [addParams, List.foldl_append]
      rfl

theorem lists_addParams {request : Request} {entries : List Contribution}
    (lists : request.paramsOrEmpty.Lists entries) (parameters : List Parameter) :
    (request.addParams parameters).paramsOrEmpty.Lists
      ((parameters.map single).foldl (fun entries c => enter c entries) entries) := by
  induction parameters generalizing request entries with
  | nil => exact lists
  | cons p parameters ih =>
      have added : (request.addParam p.1 p.2).paramsOrEmpty.Lists (enter (single p) entries) :=
        lists.add (single p)
      exact ih added

/-! ## Setting the URI -/

/-- Setting a URI whose query can be read adds what it states, and forgets what was derived. -/
theorem setUri_of_readable {request : Request} {form : QueryForm} {uri : Uri}
    {parameters : List Parameter} (path : uri.path.isSome) (supported : uri.isSupported)
    (readable : (pieces (uri.query.getD "")).mapM (stated form) = .ok parameters) :
    request.setUri form uri =
      (({ request with uri := some uri }.addParams parameters).invalidate, .ok ()) := by
  have pathless : uri.path.isNone = false := by
    rw [← Option.not_isSome, path]
    rfl
  have entered := enterSegments_of_stated readable { request with uri := some uri }
  rw [setUri, pathless, (Uri.checkScheme_eq_ok_iff uri).2 supported, Query.segments_eq_pieces]
  simp only [entered]
  rfl

theorem setUri_of_stated {request : Request} {form : QueryForm} {uri : Uri}
    {parameters : List Parameter} {entries : List Contribution}
    (path : uri.path.isSome) (supported : uri.isSupported)
    (readable : (pieces (uri.query.getD "")).mapM (stated form) = .ok parameters)
    (lists : request.paramsOrEmpty.Lists entries) :
    ∃ left, request.setUri form uri = (left, .ok ()) ∧
      left = { request with uri := some uri }.withParams left.params ∧
      left.paramsOrEmpty.Lists
        ((parameters.map single).foldl (fun entries c => enter c entries) entries) := by
  have located : ({ request with uri := some uri } : Request).paramsOrEmpty.Lists entries := lists
  exact ⟨_, setUri_of_readable path supported readable, invalidate_addParams _ parameters,
    lists_addParams located parameters⟩

/-- What comes of setting the URI of a request: the request left behind and the outcome. -/
inductive Sets (request : Request) (form : QueryForm) (uri : Uri) : Outcome Request → Prop where
  | pathless (none : uri.path = none) : Sets request form uri (request, .error .missingPath)
  | unsupported {fault : Uri.Fault} (refused : uri.checkScheme = .error fault) :
      Sets request form uri (request, .error (.uri fault))
  | readable {parameters : List Parameter} (path : uri.path.isSome) (supported : uri.isSupported)
      (all : (pieces (uri.query.getD "")).mapM (stated form) = .ok parameters) :
      Sets request form uri
        (({ request with uri := some uri }.addParams parameters).invalidate, .ok ())
  /-- The parameters before a segment that cannot be read are there. -/
  | unreadable {before after : List (List Char)} {s : List Char} {parameters : List Parameter}
      {cause : Text.Percent.Fault} (path : uri.path.isSome) (supported : uri.isSupported)
      (cut : pieces (uri.query.getD "") = before ++ s :: after)
      (readable : before.mapM (stated form) = .ok parameters)
      (failed : stated form s = .error cause) :
      Sets request form uri ({ request with uri := some uri }.addParams parameters,
        .error (.undecodable (String.ofList s) cause))

theorem sets_setUri (request : Request) (form : QueryForm) (uri : Uri) :
    Sets request form uri (request.setUri form uri) := by
  rw [setUri, Query.segments_eq_pieces]
  cases path : uri.path with
  | none => exact .pathless path
  | some given =>
      cases scheme : uri.checkScheme with
      | error fault => exact .unsupported scheme
      | ok u =>
          have isSome : uri.path.isSome := by rw [path, Option.isSome_some]
          have supported := (Uri.checkScheme_eq_ok_iff uri).1 scheme
          simp only [Option.isNone_some, Bool.false_eq_true, if_false]
          cases read : (pieces (uri.query.getD "")).mapM (stated form) with
          | ok parameters =>
              rw [enterSegments_of_stated read]
              exact .readable isSome supported read
          | error cause =>
              obtain ⟨before, s, after, parameters, cut, readable, failed⟩ :=
                cut_of_mapM_eq_error read
              rw [cut, enterSegments_of_unreadable readable failed]
              exact .unreadable isSome supported cut readable failed

/-- A URI that could be set has a path, a supported scheme and a query that can be read. -/
theorem stated_of_setUri {request left : Request} {form : QueryForm} {uri : Uri}
    (set : request.setUri form uri = (left, .ok ())) :
    uri.path.isSome ∧ uri.isSupported ∧
      ∃ parameters, (pieces (uri.query.getD "")).mapM (stated form) = .ok parameters := by
  rw [setUri, Query.segments_eq_pieces] at set
  cases path : uri.path with
  | none =>
      rw [path] at set
      cases set
  | some path' =>
      cases scheme : uri.checkScheme with
      | error fault =>
          rw [path, scheme] at set
          cases set
      | ok u =>
          refine ⟨rfl, (Uri.checkScheme_eq_ok_iff uri).1 scheme, ?_⟩
          cases entered : enterSegments form { request with uri := some uri }
              (pieces (uri.query.getD "")) with
          | mk entered' outcome =>
              rw [path, scheme, entered] at set
              cases outcome with
              | error fault => cases set
              | ok u => exact stated_of_enterSegments entered

theorem uri_of_setUri {request left : Request} {form : QueryForm} {uri : Uri}
    (set : request.setUri form uri = (left, .ok ())) : left.uri = some uri := by
  obtain ⟨path, supported, parameters, readable⟩ := stated_of_setUri set
  rw [setUri_of_readable path supported readable, invalidate_addParams] at set
  rw [← (Prod.mk.inj set).1]
  rfl

end Request

namespace Builder

variable {builder : Builder}

/-- Setting the URI of a builder does to its request what setting the URI of the request does. -/
@[simp] theorem request_setUri (builder : Builder) (uri : Uri) (urlText : Option String) :
    (builder.setUri uri urlText).1.request =
      (builder.request.setUri builder.queryForm uri).1 := by
  rw [setUri]
  cases builder.request.setUri builder.queryForm uri with
  | mk request outcome => cases outcome <;> rfl

/-- A builder whose URI could be set has set that of its request. -/
theorem request_of_setUri {uri : Uri} {urlText : Option String}
    (set : (builder.setUri uri urlText).2 = .ok ()) :
    ∃ request, builder.request.setUri builder.queryForm uri = (request, .ok ()) ∧
      builder.setUri uri urlText = ({ builder with request, urlText }, .ok ()) := by
  rw [setUri] at set ⊢
  cases entered : builder.request.setUri builder.queryForm uri with
  | mk request outcome =>
      rw [entered] at set
      cases outcome with
      | error fault => cases set
      | ok u => exact ⟨request, rfl, rfl⟩

/-- A builder whose URI could not be set has what is left of its request. -/
theorem request_of_failed {uri : Uri} {urlText : Option String} {fault : Fault}
    (failed : (builder.setUri uri urlText).2 = .error fault) :
    ∃ request, builder.request.setUri builder.queryForm uri = (request, .error fault) ∧
      builder.setUri uri urlText = ({ builder with request }, .error fault) := by
  rw [setUri] at failed ⊢
  cases entered : builder.request.setUri builder.queryForm uri with
  | mk request outcome =>
      rw [entered] at failed
      cases outcome with
      | ok u => cases failed
      | error fault' =>
          obtain rfl := Except.error.inj failed
          exact ⟨request, rfl, rfl⟩

theorem setUri_of_request {uri : Uri} {request : Request}
    (entered : builder.request.setUri builder.queryForm uri = (request, .ok ()))
    (urlText : Option String) :
    builder.setUri uri urlText = ({ builder with request, urlText }, .ok ()) := by
  rw [setUri, entered]

/-- A URL that could be set is a text that is read as a URI. -/
theorem eq_of_setUrl {url : Datum} (set : (builder.setUrl url).2 = .ok ()) :
    ∃ text uri, url = .text text ∧ Uri.parse text = .ok uri ∧
      builder.setUrl url = builder.setUri uri (some text) := by
  cases url with
  | text text =>
      rw [setUrl, Datum.readUri] at set ⊢
      cases parsed : Uri.parse text with
      | error fault =>
          rw [parsed] at set
          cases set
      | ok uri => exact ⟨text, uri, rfl, parsed, rfl⟩
  | _ => cases set

theorem eq_of_setUriDatum {datum : Datum} (set : (builder.setUriDatum datum).2 = .ok ()) :
    ∃ uri, datum = .uri uri := by
  cases datum with
  | uri uri => exact ⟨uri, rfl⟩
  | _ => cases set

end Builder

namespace Request

/-! ## Composing a target -/

theorem ofParams?_paramsOrEmpty (request : Request) (form : QueryForm) :
    Query.ofParams? form request.params = Query.ofParams? form (some request.paramsOrEmpty) := by
  rw [paramsOrEmpty]
  cases request.params <;> rfl

theorem supported_of_compose {request : Request} {form : QueryForm} {target : Uri}
    (composed : request.compose form = .ok target) : request.base.isSupported := by
  obtain ⟨u, check, -⟩ := bind_eq_ok_iff.1 composed
  exact (Uri.checkScheme_eq_ok_iff _).1 (mapError_eq_ok_iff.1 check)

theorem compose_of_lists {request : Request} {entries : List Contribution}
    (supported : request.base.isSupported) (lists : request.paramsOrEmpty.Lists entries)
    (form : QueryForm) :
    request.compose form = .ok (request.base.withTarget (some (pathOrRoot request.base.path))
      (if entries = [] then none else some (Query.write form (spread entries)))) := by
  rw [compose, (Uri.checkScheme_eq_ok_iff _).2 supported, ofParams?_paramsOrEmpty,
    lists.ofParams? form]
  rfl

end Request

end Outbound
