/-
# Outbound.Proofs.Builder.Prototype — a copy of a request does what its owner does

A builder is `Proper` when its request is sound and regular, and both agree on whether
queries are taken as they stand.  New builders are proper, and every step that answers
and keeps to the builder leaves it so (`Proper.marked`): a call that fails does no harm
either, but a URI that fails half-way may leave a target that is out of date, which is
why the runs here answer.

The copy of a proper request is the request, less what it remembers, and the builder
that starts from it is a twin of the owner (`twins_of_prototype`).  Whatever is done
with both then, they cannot be told apart (`indistinct_of_prototype`).
-/
import Outbound.Proofs.Request.Copying
import Outbound.Proofs.Session.Twins

namespace Outbound

set_option autoImplicit false

/-! ## Proper builders -/

/-- The request of the builder is sound and regular, and is sent as the builder takes it. -/
structure Builder.Proper (builder : Builder) : Prop where
  sound : builder.request.Sound
  regular : builder.request.Regular
  isRaw : builder.isRaw = builder.request.isRaw

namespace Builder.Proper

variable {builder : Builder}

theorem settled : Act.Settled Proper where
  headers b name value headers replaced proper :=
    { sound := proper.sound.congr ⟨rfl, rfl, rfl⟩
      regular := ⟨proper.regular.headers.replaceDatum _ replaced, proper.regular.params,
        proper.regular.form⟩
      isRaw := proper.isRaw }
  charset b charset proper :=
    { sound := proper.sound.congr ⟨rfl, rfl, rfl⟩
      regular := ⟨proper.regular.headers, proper.regular.params, proper.regular.form⟩
      isRaw := proper.isRaw }
  length b length proper :=
    { sound := proper.sound.congr ⟨rfl, rfl, rfl⟩
      regular := ⟨proper.regular.headers, proper.regular.params, proper.regular.form⟩
      isRaw := proper.isRaw }
  target b form proper := by
    refine ⟨proper.sound.readTarget form, ?_, ?_⟩
    · show (b.request.readTarget form).1.Regular
      rw [Request.readTarget_eq]
      exact ⟨proper.regular.headers, proper.regular.params, proper.regular.form⟩
    · show b.isRaw = (b.request.readTarget form).1.isRaw
      rw [Request.readTarget_eq]
      exact proper.isRaw

/-- A call leaves a proper builder proper, also when it fails. -/
theorem perform (proper : builder.Proper) (call : Call) : (builder.perform call).1.Proper where
  sound := proper.sound.perform call
  regular := proper.regular.perform call
  isRaw := proper.isRaw.trans (builder.request.frame_perform call).isRaw.symm

/-- A URI that could be set leaves a proper builder proper. -/
theorem setUri (proper : builder.Proper) {uri : Uri} {urlText : Option String}
    (set : (builder.setUri uri urlText).2 = .ok ()) : (builder.setUri uri urlText).1.Proper := by
  obtain ⟨request, entered, isSet⟩ := Builder.request_of_setUri set
  obtain ⟨path, supported, parameters, readable⟩ := Request.stated_of_setUri entered
  have regular := proper.regular.of_sets (builder.request.sets_setUri builder.queryForm uri)
  rw [entered] at regular
  rw [Request.setUri_of_readable path supported readable] at entered
  obtain rfl := congrArg Prod.fst entered
  rw [isSet]
  refine ⟨Request.sound_of_underived rfl, regular, ?_⟩
  rw [Request.addParams_eq]
  exact proper.isRaw

/-- A change that is made without a fault leaves a proper builder proper. -/
theorem change (proper : builder.Proper) {step : Step} {f : Builder → Outcome Builder}
    (telling : step.goesPast = false) (isChange : step.change? = some f)
    (made : (f builder).2 = .ok ()) : (f builder).1.Proper := by
  cases step with
  | setUrl url =>
      obtain rfl := Option.some.inj isChange
      obtain ⟨text, uri, -, -, isUrl⟩ := Builder.eq_of_setUrl made
      simp only [isUrl] at made ⊢
      exact proper.setUri made
  | setUri datum =>
      obtain rfl := Option.some.inj isChange
      obtain ⟨uri, rfl⟩ := Builder.eq_of_setUriDatum made
      exact proper.setUri made
  | call told =>
      obtain rfl := Option.some.inj isChange
      exact proper.perform told
  | edit made => cases telling
  | _ => cases isChange

/-- **Steps that answer leave a proper builder proper**, those of calculators included. -/
theorem marked : Act.Marked (fun _ : Unit => Proper) (fun _ _ => ()) (·.goesPast = false) where
  settled _ := settled
  reads _ _ := rfl
  direct := by
    intro world build mark session next step reply proper throughout other answered
    obtain ⟨telling, -⟩ := throughout
    cases isChange : step.change? with
    | some f =>
        have made := (Act.makes_stepWith isChange session).of_ok answered
        have changed := proper.change telling isChange (congrArg Prod.snd made)
        rw [made] at changed
        exact changed
    | none =>
        have kept : Act.Keeps Proper (Act.stepWith world build step) :=
          Act.keeps_stepWith_of settled world (fun builds => absurd builds other)
            (fun f isSome => by cases isChange.symm.trans isSome)
            (fun _ _ b proper => ⟨proper.sound, proper.regular, proper.isRaw⟩)
        exact kept.of_answered proper answered

end Builder.Proper

/-! ## Copies -/

/-- Nothing that is read of the sessions, and nothing that they hand over, tells them apart: their
requests are the same but for what they remember. -/
structure Session.Indistinct (world : World) (session other : Session) : Prop where
  request : session.builder.request.invalidate = other.builder.request.invalidate
  read : ∀ reading, Act.answer (Act.step world (.read reading)) session =
    Act.answer (Act.step world (.read reading)) other
  handedOver : Act.answer (Act.step world .handOver) session =
    Act.answer (Act.step world .handOver) other

theorem Twins.indistinct {session other : Session} (twins : Twins session other)
    (world : World) : session.Indistinct world other where
  request := twins.request.same
  read reading := (Act.agree_read reading session other twins).answer
  handedOver :=
    ((Act.agree_handOver world).bind (fun _ => Act.agree_pure _) session other twins).answer

namespace Builder

/-- The builder that starts from the request of a proper one has the same request, which remembers
nothing. -/
theorem ofPrototype_of_proper {builder : Builder} (proper : builder.Proper) :
    ofPrototype builder.request =
      .ok { request := builder.request.invalidate, isRaw := builder.isRaw } := by
  rw [ofPrototype, Request.copy_of_regular proper.regular, proper.isRaw]
  rfl

/-- It is a twin of the owner, when that signs nothing and the same streams have been read. -/
theorem twins_of_prototype {session other : Session} (proper : session.builder.Proper)
    (made : ofPrototype session.builder.request = .ok other.builder)
    (unsigned : session.builder.calculator = none) (drained : session.drained = other.drained) :
    Twins session other := by
  have isCopy := Except.ok.inj ((ofPrototype_of_proper proper).symm.trans made)
  refine ⟨?_, ?_, unsigned, ?_, drained⟩
  · rw [← isCopy]
    exact Request.Twin.of_sound proper.sound
  · rw [← isCopy]
  · rw [← isCopy]

/-- The builders that are reached by runs that answer and keep to the builder are proper, whatever
was copied on the way. -/
theorem proper_of_reached {builder : Builder}
    (reached : builder.Reached fun world session steps =>
      (∀ step ∈ steps, step.Throughout (·.goesPast = false)) ∧ session.Answered world steps) :
    builder.Proper := by
  suffices both : builder.Proper ∧ builder.Takes (·.goesPast = false) from both.1
  induction reached with
  | fresh settings method isRaw =>
      have regular : (ofSettings settings method isRaw).request.Regular :=
        ⟨FieldMap.regular_empty, nofun, nofun⟩
      exact ⟨⟨Request.sound_of_underived rfl, regular, rfl⟩,
        (Builder.New.fresh settings method isRaw).takes⟩
  | run start runs ih => exact Proper.marked.of_run () ih runs.1 runs.2
  | copied prototype made ih =>
      have isCopy := (ofPrototype_of_proper ih.1).symm.trans made
      refine ⟨?_, (Builder.New.copied made).takes⟩
      obtain rfl := Except.ok.inj isCopy
      exact ⟨Request.sound_of_underived rfl,
        ⟨ih.1.regular.headers, ih.1.regular.params, ih.1.regular.form⟩, ih.1.isRaw⟩

/-- **A builder that starts from the request of another cannot be told from it.**  The other was
reached by any run that answered and signs nothing; whatever steps then answer on it, calls, readings
and builds, answer on the copy, and leave builders that are alike in all that is read of them and
handed over. -/
theorem indistinct_of_prototype {builder : Builder}
    (reached : builder.Reached fun world session steps =>
      (∀ step ∈ steps, step.Throughout (·.goesPast = false)) ∧ session.Answered world steps)
    (unsigned : builder.calculator = none) :
    ∃ copy, ofPrototype builder.request = .ok copy ∧
      ∀ (world : World) (session other : Session) (steps : List Step),
        session.builder = builder → other.builder = copy → session.drained = other.drained →
        (∀ step ∈ steps, step.goesPast = false) →
        (∀ step ∈ steps, ∀ calculator, step.registers? ≠ some (some calculator)) →
        session.Answered world steps →
          other.Answered world steps ∧
            (session.run world steps).Indistinct world (other.run world steps) := by
  have proper := proper_of_reached reached
  have made := ofPrototype_of_proper proper
  refine ⟨_, made, ?_⟩
  rintro world session other steps rfl isCopy drained telling unregistered answered
  rw [← isCopy] at made
  have twins := twins_of_prototype proper made unsigned drained
  obtain ⟨others, left⟩ := twins.run telling unregistered answered
  exact ⟨others, left.indistinct world⟩

/-- A header without a value and a parameter without one are copied, after a target was remembered;
then parameters are added to both. -/
theorem indistinct_of_prototype_valueless :
    let before : List Step := [.setUrl (.text "http://h/p?a=1&b"), .read (.target .encoded),
      .call (.setHeaders (.dict [(.text "X-A", .list [])])),
      .call (.addHeader (.text "Accept") .absent)]
    let after : List Step := [.call (.addQueryParam (.text "A") (.text "2")),
      .call (.addQueryParam (.text "a") (.text "3")), .build]
    let session : Session :=
      Session.run {} { builder := Builder.ofSettings {} .absent .absent } before
    ∃ copy, ofPrototype session.builder.request = .ok copy ∧
      (session.run {} after).Indistinct {} (Session.run {} { builder := copy } after) ∧
      Act.answer (Act.step {} (.read (.target .encoded)))
          (Session.run {} { builder := copy } after) =
        .ok (.target ⟨some "http", some "h", none, none, some "/p", some "a=1&a=3&b&A=2"⟩) := by
  intro before after session
  have telling : ∀ step ∈ before, step.Throughout (·.goesPast = false) := by
    simp only [before, List.forall_mem_cons]
    exact ⟨.intro rfl nofun, .intro rfl nofun, .intro rfl nofun, .intro rfl nofun, nofun⟩
  have answered : Session.Answered {} { builder := Builder.ofSettings {} .absent .absent } before :=
    ⟨.inr ⟨_, _, rfl⟩, .inl rfl, .inr ⟨_, _, rfl⟩, .inr ⟨_, _, rfl⟩, trivial⟩
  have reached : session.builder.Reached fun world session steps =>
      (∀ step ∈ steps, step.Throughout (·.goesPast = false)) ∧ session.Answered world steps :=
    .run (.fresh {} .absent .absent) ⟨telling, answered⟩
  obtain ⟨copy, made, alike⟩ := indistinct_of_prototype reached rfl
  have answers : session.Answered {} after :=
    ⟨.inr ⟨_, _, rfl⟩, .inr ⟨_, _, rfl⟩, .inr ⟨_, _, rfl⟩, trivial⟩
  have indistinct : (session.run {} after).Indistinct {}
      (Session.run {} { builder := copy } after) := by
    refine (alike {} session { builder := copy } after rfl rfl rfl ?_ ?_ answers).2
    · simp only [after, List.forall_mem_cons]
      exact ⟨rfl, rfl, rfl, nofun⟩
    · simp only [after, List.forall_mem_cons]
      exact ⟨nofun, nofun, nofun, nofun⟩
  exact ⟨copy, made, indistinct, (indistinct.read (.target .encoded)).symm⟩

end Builder

end Outbound
