/-
# Outbound.Proofs.Session.Current — when a remembered target is out of date

Reading a target should give what composing it from the present URI and parameters
would give.  It does as long as what is remembered is coherent with the request,
and every change of parameters forgets what is remembered.  Setting a URI forgets
it last: when the first segment of its query cannot be read, the URI is another one
already and nothing was forgotten, so the target of the URI before is read from
then on (`stale_target`).

That is the only way.  A URI whose query starts with a segment that can be read
leaves a coherent request, also when a later segment fails (`coherent_of_sets`), and
so does every call.  Hence after any run in which no URI is set that stumbles at
its first segment, whatever failed in it, a target that is read is the one that
would be composed (`answer_target_of_run`), and builders that are reached by such
runs stay coherent when requests are copied on the way (`coherent_of_reached`).
-/
import Outbound.Proofs.Request.Twin
import Outbound.Proofs.Session.Throughout

namespace Outbound

set_option autoImplicit false

open Query (Parameter pieces stated)

/-- The URI can be set up to the first segment of its query, which cannot be read. -/
def Uri.Stumbles (form : QueryForm) (uri : Uri) : Prop :=
  uri.path.isSome ∧ uri.isSupported ∧ ∃ s rest cause,
    pieces (uri.query.getD "") = s :: rest ∧ stated form s = .error cause

/-- The step does not go past the builder, and sets no URI that stumbles. -/
def Step.IsSteady (form : QueryForm) : Step → Prop
  | .setUrl url => ∀ uri, url.readUri = .ok uri → ¬ uri.Stumbles form
  | .setUri (.uri uri) => ¬ uri.Stumbles form
  | .edit _ => False
  | _ => True

theorem Step.IsSteady.of_sets {form : QueryForm} {step : Step} (steady : step.IsSteady form)
    {uri : Uri} (sets : step.Sets uri) : ¬ uri.Stumbles form := by
  cases sets with
  | given => exact steady
  | read parsed => exact steady uri (mapError_eq_ok_iff.2 parsed)

/-! ## One change -/

namespace Request

variable {request : Request}

/-- Setting a URI that does not stumble leaves no target that is out of date. -/
theorem coherent_of_sets (coherent : request.Coherent) {form : QueryForm} {uri : Uri}
    (steady : ¬ uri.Stumbles form) {left : Outcome Request} (sets : request.Sets form uri left) :
    left.1.Coherent := by
  cases sets with
  | pathless none => exact coherent
  | unsupported refused => exact coherent
  | readable path supported all => exact coherent_of_underived rfl
  | unreadable path supported cut readable failed =>
      rename_i before after s parameters cause
      -- What was remembered is forgotten with the first parameter, if there is one.
      cases before with
      | nil => exact absurd ⟨path, supported, s, after, cause, cut, failed⟩ steady
      | cons first rest =>
          obtain ⟨p, more, -, -, rfl⟩ := mapM_cons_eq_ok_iff.1 readable
          exact coherent_of_underived (derived_addParams (List.cons_ne_nil p more))

end Request

/-! ## Builders -/

namespace Builder

/-- What the builder remembers is not out of date, and it takes queries in a form. -/
def Current (form : QueryForm) (builder : Builder) : Prop :=
  builder.request.Coherent ∧ builder.queryForm = form

theorem coherent_setUri {builder : Builder} (coherent : builder.request.Coherent) {uri : Uri}
    (steady : ¬ uri.Stumbles builder.queryForm) (urlText : Option String) :
    (builder.setUri uri urlText).1.request.Coherent := by
  rw [request_setUri]
  exact Request.coherent_of_sets coherent steady (builder.request.sets_setUri builder.queryForm uri)

/-- What steady steps do to a builder keeps it current. -/
theorem kept_current (form : QueryForm) : Act.Kept (Current form) (Step.IsSteady form) where
  settled := {
    headers := fun _ _ _ _ _ current => ⟨current.1.congr ⟨rfl, rfl, rfl⟩, current.2⟩
    charset := fun b charset current => ⟨current.1.congr ⟨rfl, rfl, rfl⟩, current.2⟩
    length := fun b length current => ⟨current.1.congr ⟨rfl, rfl, rfl⟩, current.2⟩
    target := fun b form current => ⟨Request.coherent_readTarget current.1 form, current.2⟩ }
  calculator _ _ current := current
  change step f b steady isChange current := by
    obtain ⟨coherent, rfl⟩ := current
    refine ⟨?_, congrArg (fun isRaw : Datum => if isRaw.isTrue then QueryForm.raw else .encoded)
      (frame_of_change isChange b).2⟩
    refine of_change (P := (·.request.Coherent)) isChange coherent ?_ ?_ ?_
    · exact fun uri urlText sets => coherent_setUri coherent (steady.of_sets sets) urlText
    · exact fun call _ => Request.coherent_perform coherent call
    · rintro made rfl
      exact steady.elim

end Builder

/-! ## Runs -/

/-- What an action answers. -/
def Act.answer {α : Type} (act : Act α) (session : Session) : Except Fault α :=
  match act session with
  | .ok a _ => .ok a
  | .error fault _ => .error fault

theorem Act.answer_target {session : Session} (coherent : session.builder.request.Coherent)
    (world : World) (form : QueryForm) :
    answer (step world (.read (.target form))) session =
      (session.builder.request.compose form).map .target := by
  have read := Request.readTarget_of_coherent coherent form
  show answer (target form >>= fun uri => pure (Reply.target uri)) session = _
  rw [answer, bind_eq, target_eq, read]
  cases session.builder.request.compose form <;> rfl

/-- **After a run in which no URI stumbles, a target that is read is the one that the present URI
and parameters make**, also when calls failed in the run, and whatever was read in it before. -/
theorem answer_target_of_run (world : World) {session : Session} (new : session.builder.New)
    {steps : List Step}
    (steady : ∀ step ∈ steps, step.Throughout (Step.IsSteady session.builder.queryForm))
    (form : QueryForm) :
    Act.answer (Act.step world (.read (.target form))) (session.run world steps) =
      ((session.run world steps).builder.request.compose form).map .target := by
  have start : session.builder.Current session.builder.queryForm :=
    ⟨Request.coherent_of_underived new.blank.1, rfl⟩
  have kept := Builder.kept_current session.builder.queryForm
  have current := Act.keeps_run kept world start new.takes steady
  exact Act.answer_target current.1 world form

/-- A URI fails at its second segment after a target was remembered. -/
theorem answer_target_of_failed_run :
    Act.answer (Act.step {} (.read (.target .encoded)))
        (Session.run {} { builder := Builder.ofSettings {} .absent .absent }
          [.setUrl (.text "http://a/"), .read (.target .encoded),
            .setUrl (.text "http://b/?a=1&b=%zz")]) =
      .ok (.target ⟨some "http", some "b", none, none, some "/", some "a=1"⟩) := by
  let session : Session := { builder := Builder.ofSettings {} .absent .absent }
  have steady : ∀ step ∈ [Step.setUrl (.text "http://a/"), .read (.target .encoded),
      .setUrl (.text "http://b/?a=1&b=%zz")],
      step.Throughout (Step.IsSteady session.builder.queryForm) := by
    simp only [List.forall_mem_cons]
    refine ⟨.intro ?_ nofun, .intro trivial nofun, .intro ?_ nofun, nofun⟩
    · intro uri read
      obtain rfl := Except.ok.inj read
      rintro ⟨-, -, s, rest, cause, cut, -⟩
      have none : pieces "" = [] := by decide +kernel
      exact List.cons_ne_nil s rest (cut.symm.trans none)
    · intro uri read
      obtain rfl := Except.ok.inj read
      rintro ⟨-, -, s, rest, cause, cut, failed⟩
      have two : pieces "a=1&b=%zz" = ["a=1".toList, "b=%zz".toList] := by decide +kernel
      obtain ⟨rfl, -⟩ := List.cons.inj (two.symm.trans cut)
      cases failed
  rw [answer_target_of_run {} (.fresh {} .absent .absent) steady]
  rfl

/-- A URI that fails at its first segment is set, and the target of the one before is read. -/
theorem stale_target :
    let session := Session.run {} { builder := Builder.ofSettings {} .absent .absent }
      [.setUrl (.text "http://a/"), .read (.target .encoded), .setUrl (.text "http://b/?a=%zz")]
    Act.answer (Act.step {} (.read (.target .encoded))) session =
        .ok (.target ⟨some "http", some "a", none, none, some "/", none⟩) ∧
      session.builder.request.compose .encoded =
        .ok ⟨some "http", some "b", none, none, some "/", none⟩ :=
  ⟨rfl, rfl⟩

end Outbound
