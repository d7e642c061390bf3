/-
# Outbound.Proofs.Body.Sent — the body that was set last is the one that is sent

Setting a body clears what was held in the other forms, and adapting a request to
an engine looks at the forms in an order of its own, some of them for being there
and some for not being empty.  The two agree: what a call made the body (`Call.Makes`)
is what is handed over, after any further steps that do not name a body
(`sent_of_called`), files and generators among them, whatever was set before.

What is handed over of one body is `Sole.Sent`: the octets of a text are those that a
reader of the charset has it from, those of a stream what is left of it, and so on, in
the terms of `Proofs.Wire.Body`.
-/
import Outbound.Proofs.Body.Exclusive
import Outbound.Proofs.FieldMap.Source
import Outbound.Proofs.Session.Trail
import Outbound.Proofs.Wire.Body

namespace Outbound

set_option autoImplicit false

/-! ## The one body -/

/-- What is held in one of the forms that exclude each other. -/
inductive Sole where
  | octets (bytes : Octets)
  | text (data : Datum)
  | stream (object : Datum)
  | writer (object : Datum)
  | form (map : Fields)
  | parts (all : List Part)

namespace Sole

def body : Sole → Body
  | .octets bytes => { octets := some bytes }
  | .text data => { text := data }
  | .stream object => { stream := object }
  | .writer object => { writer := object }
  | .form map => { form := some map }
  | .parts all => { parts := some all }

/-- There is something to send. -/
def Filled : Sole → Prop
  | .octets _ => True
  | .text data => data.isPresent
  | .stream object => object.isPresent
  | .writer object => object.isPresent
  | .form map => map.fields ≠ []
  | .parts all => all ≠ []

/-- What is to be sent, and the streams that have been read then: the octets, the text in a charset,
what is left of the stream, the chunks that the writer writes, the form with empty texts for absent
values, or all parts. -/
inductive Sent (world : World) (charset : Datum) (drained : Drained) :
    Sole → WireBody → Drained → Prop where
  | octets (bytes : Octets) : Sent world charset drained (.octets bytes) (.content bytes) drained
  | text {s : String} {bytes : Octets} (spells : charset.Spells world.codecs s bytes) :
      Sent world charset drained (.text (.text s)) (.content bytes) drained
  | constant {object : Payload} {bytes : Octets} (reads : object.reads = some (.constant bytes)) :
      Sent world charset drained (.stream (.payload object)) (.content bytes) drained
  | stream {object : Payload} {handle : Nat} {bytes : Octets}
      (reads : object.reads = some (.stream handle bytes)) (fresh : handle ∉ drained) :
      Sent world charset drained (.stream (.payload object)) (.content bytes) (handle :: drained)
  | drained {object : Payload} {handle : Nat} {bytes : Octets}
      (reads : object.reads = some (.stream handle bytes)) (known : handle ∈ drained) :
      Sent world charset drained (.stream (.payload object)) (.content []) drained
  | writer {object : Payload} {chunks : List Octets} (writes : object.writes = some chunks) :
      Sent world charset drained (.writer (.payload object)) (.content chunks.flatten) drained
  | form (map : Fields) :
      Sent world charset drained (.form map)
        (.form (map.fields.map fun f => { f with
          values := f.values.map fun
            | .absent => .text ""
            | value => value }))
        drained
  | parts {all : List Part} {wired : List WirePart}
      (each : List.Forall₂ (Part.Conveys world) all wired) :
      Sent world charset drained (.parts all) (.parts wired) drained

end Sole

/-! ## Bringing it to hand -/

section

variable {world : World} {charset : Datum} {drained left : Drained} {sent : WireBody}

theorem Datum.sent_of_read {object : Datum} {bytes : Octets}
    (read : object.read drained = .ok (bytes, left)) :
    Sole.Sent world charset drained (.stream object) (.content bytes) left := by
  cases object with
  | payload object =>
      cases reads : object.reads with
      | none => simp [Datum.read, payload?, reads] at read
      | some readable =>
          simp only [Datum.read, payload?, reads, Option.bind_some, Except.ok.injEq] at read
          cases readable with
          | constant bytes =>
              cases read
              exact .constant reads
          | stream handle bytes =>
              rw [Readable.read] at read
              split at read
              · rename_i known
                cases read
                exact .drained reads (List.contains_iff_mem.1 known)
              · rename_i fresh
                cases read
                exact .stream reads fun mem => fresh (List.contains_iff_mem.2 mem)
  | _ => cases read

theorem Datum.sent_of_writes {object : Datum} {bytes : Octets} (wrote : object.writes = .ok bytes) :
    Sole.Sent world charset drained (.writer object) (.content bytes) drained := by
  cases object with
  | payload object =>
      cases writes : object.writes with
      | none => simp [Datum.writes, payload?, writes] at wrote
      | some chunks =>
          simp only [Datum.writes, payload?, writes, Option.bind_some, Except.ok.injEq] at wrote
          subst wrote
          exact .writer writes
  | _ => cases wrote

theorem Sole.sent_wireForm (map : Fields) :
    Sole.Sent world charset drained (.form map) (.form (Body.wireForm map)) drained := by
  have same : (fun value : Datum => value.orEmpty) = fun
      | .absent => .text ""
      | value => value := by
    funext value
    cases value <;> rfl
  rw [Body.wireForm, show Datum.orEmpty = fun value : Datum => value.orEmpty from rfl, same]
  exact .form map

/-- A body that holds one thing that is not empty is sent as this. -/
theorem Body.sent_of_wire {body : Body} {sole : Sole} (filled : sole.Filled)
    (core : body.core = sole.body) (wired : body.wire world charset drained = .ok (sent, left)) :
    sole.Sent world charset drained sent left := by
  obtain ⟨octets, text, stream, writer, generator, form, parts, file, length⟩ := body
  cases sole with
  | octets bytes =>
      cases core
      cases wired
      exact .octets bytes
  | text data =>
      cases core
      have present : text.isPresent := filled
      simp only [wire, present, if_true] at wired
      obtain ⟨bytes, encoded, made⟩ := map_eq_ok_iff.1 wired
      obtain ⟨s, rfl, spells⟩ := Datum.spells_of_encodeIn encoded
      cases made
      exact .text spells
  | stream object =>
      cases core
      have present : stream.isPresent := filled
      simp only [wire, present, if_true] at wired
      obtain ⟨⟨bytes, after⟩, read, made⟩ := map_eq_ok_iff.1 wired
      cases made
      exact Datum.sent_of_read (mapError_eq_ok_iff.1 read)
  | writer object =>
      cases core
      have present : writer.isPresent := filled
      obtain ⟨structured, isNone, wired⟩ := bind_eq_ok_iff.1 wired
      cases isNone
      obtain ⟨produced, isProduced, made⟩ := bind_eq_ok_iff.1 wired
      cases made
      rw [Body.produced, if_pos present] at isProduced
      obtain ⟨bytes, wrote, rfl⟩ := map_eq_ok_iff.1 isProduced
      exact Datum.sent_of_writes (mapError_eq_ok_iff.1 wrote)
  | form map =>
      cases core
      have filled : map.fields ≠ [] := filled
      have named : (!map.isEmpty) = true := by simpa [FieldMap.isEmpty] using filled
      simp only [wire, structured?, Option.filter_some, named, if_true] at wired
      cases wired
      exact Sole.sent_wireForm map
  | parts all =>
      cases core
      cases all with
      | nil => exact absurd rfl filled
      | cons part more =>
          obtain ⟨structured, brought, wired⟩ := bind_eq_ok_iff.1 wired
          obtain ⟨parts, each, rfl⟩ := map_eq_ok_iff.1 brought
          cases wired
          exact .parts (Part.conveys_of_mapM each)

end

/-! ## What a call makes the body -/

namespace FieldMap

variable {m left : Fields}

theorem fields_add_ne_nil (m : Fields) (name : Name) (values : List Datum) :
    (m.add name values).fields ≠ [] := by
  show upsertFields _ _ _ _ m.fields ≠ []
  cases m.fields with
  | nil => exact List.cons_ne_nil _ _
  | cons f rest =>
      rw [upsertFields]
      split <;> exact List.cons_ne_nil _ _

/-- What is entered under a datum that is there makes an entry. -/
theorem fields_addDatum_ne_nil {name : Datum} {values : List Datum}
    (filled : m.fields ≠ [] ∨ name.isPresent) (entered : m.addDatum name values = .ok left) :
    left.fields ≠ [] := by
  rcases entering_eq_ok entered with ⟨rfl, rfl⟩ | ⟨found, -, rfl⟩
  · exact filled.resolve_right nofun
  · exact fields_add_ne_nil m found values

theorem fields_merge_ne_nil {entries : List (Datum × Datum)}
    (filled : m.fields ≠ [] ∨ ∃ entry ∈ entries, entry.1.isPresent)
    (merged : merge addDatum m entries = (left, .ok ())) : left.fields ≠ [] := by
  induction entries generalizing m with
  | nil =>
      obtain rfl := congrArg Prod.fst merged
      exact filled.resolve_right nofun
  | cons entry rest ih =>
      obtain ⟨entered, first, merged⟩ := merge_cons_eq_ok merged
      obtain ⟨values, -, first⟩ := enterEntry_eq_ok first
      refine ih ?_ merged
      rcases filled with filled | ⟨named, mem, present⟩
      · exact .inl (fields_addDatum_ne_nil (.inl filled) first)
      · rcases List.mem_cons.1 mem with rfl | mem
        · exact .inl (fields_addDatum_ne_nil (.inr present) first)
        · exact .inr ⟨named, mem, present⟩

end FieldMap

/-- The call makes something the body, given the body before it: octets, a text, a stream or a writer
that are there, a form from a source with some name, or one parameter or part more than there were. -/
inductive Call.Makes (body : Body) : Call → Sole → Prop where
  | octets {data : Datum} {bytes : Octets} (gives : data.Gives bytes) :
      Makes body (.setBodyOctets data) (.octets bytes)
  | text {data : Datum} (present : data.isPresent) : Makes body (.setBodyText data) (.text data)
  | stream {object : Datum} (present : object.isPresent) :
      Makes body (.setBodyStream object) (.stream object)
  | writer {object length : Datum} (present : object.isPresent) :
      Makes body (.setBodyWriter object length) (.writer object)
  | form {source : Datum} {entries : List (Datum × Datum)} {map : Fields}
      (listed : source.entries? = .ok entries) (named : ∃ entry ∈ entries, entry.1.isPresent)
      (made : FieldMap.ofDatum .exact source = .ok map) :
      Makes body (.setFormParams source) (.form map)
  | formParam {name value : Datum} {map : Fields} (named : name.isPresent)
      (added : (body.form.getD (.empty .exact)).addDatum name [value] = .ok map) :
      Makes body (.addFormParam name value) (.form map)
  | part {part : Datum} :
      Makes body (.addBodyPart part) (.parts (body.parts.getD [] ++ [Part.ofDatum part]))

namespace Call.Makes

variable {call : Call} {sole : Sole}

theorem filled {body : Body} (makes : call.Makes body sole) : sole.Filled := by
  cases makes with
  | octets gives => trivial
  | text present => exact present
  | stream present => exact present
  | writer present => exact present
  | form listed named made =>
      rename_i source entries map
      have present : source ≠ .absent := by
        rintro rfl
        cases listed
      obtain ⟨entries', listed', merged⟩ := FieldMap.merge_of_ofDatum made present
      obtain rfl := Except.ok.inj (listed.symm.trans listed')
      exact FieldMap.fields_merge_ne_nil (.inr named) merged
  | formParam named added => exact FieldMap.fields_addDatum_ne_nil (.inr named) added
  | part => exact List.append_ne_nil_of_right_ne_nil _ (List.cons_ne_nil _ _)

/-- After the call, if it returned, the body holds what it makes and nothing else. -/
theorem core_perform {request : Request} (makes : call.Makes request.body sole)
    (returned : (request.perform call).2 = .ok ()) :
    (request.perform call).1.body.core = sole.body := by
  cases makes with
  | @octets data bytes gives =>
      rw [Request.perform, Request.setBodyOctets] at returned ⊢
      cases isMade : data.toOctets with
      | error fault =>
          rw [isMade] at returned
          cases returned
      | ok made =>
          obtain rfl := (Datum.gives_iff isMade).1 gives
          rfl
  | form listed named made =>
      rw [Request.perform, Request.setFormParams, made]
      rfl
  | formParam named added =>
      rw [Request.perform, Request.addFormParam, added]
      rfl
  | _ => rfl

end Call.Makes

/-! ## Handing over -/

namespace Act

variable {session next : Session}

theorem drained_target {form : QueryForm} {uri : Uri} (read : target form session = .ok uri next) :
    next.drained = session.drained := by
  rw [target_eq] at read
  obtain ⟨-, rfl⟩ := lift_answered read
  rfl

/-- The body that is handed over is the one of the request, brought to hand. -/
theorem wire_of_handOver {world : World} {wired : WireRequest}
    (handed : handOver world session = .ok wired next) :
    session.builder.request.body.wire world session.builder.request.charset session.drained =
      .ok (wired.body, next.drained) := by
  obtain ⟨timeout, -, rest⟩ := lift_bind_answered handed
  obtain ⟨url, read, isUrl, rest⟩ := bind_answered_iff.1 rest
  obtain ⟨uri, target, isTarget, lifted⟩ := bind_answered_iff.1 isUrl
  obtain ⟨-, rfl⟩ := lift_answered lifted
  obtain ⟨headers, -, rest⟩ := lift_bind_answered rest
  obtain ⟨brought, isBrought, rest⟩ := lift_bind_answered rest
  rw [← drained_target isTarget]
  cases rest
  exact isBrought

end Act

/-- **The body that a call made is the one that is handed over**, after any steps, builds among them,
of which none names another body; what was held before has no part in it. -/
theorem sent_of_called {world : World} {session called sent : Session} {call : Call} {sole : Sole}
    {reply : Reply} {steps : List Step} {wired : WireRequest}
    (makes : call.Makes session.builder.request.body sole)
    (isCalled : Act.step world (.call call) session = .ok reply called)
    (others : ∀ step ∈ called.trail world steps, step.namesBody = false)
    (handed : Act.step world .handOver (called.run world steps) = .ok (.wire wired) sent) :
    sole.Sent world (called.run world steps).builder.request.charset
      (called.run world steps).drained wired.body sent.drained := by
  have made : session.builder.perform call = (called.builder, .ok ()) :=
    (Act.makes_stepWith rfl session).of_ok isCalled
  have core : called.builder.request.body.core = sole.body := by
    have isLeft : (session.builder.perform call).1 = called.builder := congrArg Prod.fst made
    rw [← makes.core_perform (congrArg Prod.snd made), ← isLeft]
    rfl
  have kept := Act.holds_run (Builder.kept_core (· = sole.body)) core others
  obtain ⟨wired', next, isWired, done⟩ := Act.bind_answered_iff.1 handed
  cases done
  exact Body.sent_of_wire makes.filled kept (Act.wire_of_handOver isWired)

/-- A text whose charset is named later, a parameter added to a form that had taken the place of a
text, and a part in UTF-8 before one of a file; files and generators set before and after are not
sent. -/
theorem sent_of_called_each :
    let world : World := { places := [(["d", "f"], .file [7])] }
    let start : Session := { builder := Builder.ofSettings {} .absent .absent }
    let text : Datum := .record "StringPart" false [("name", .text "a"), ("value", .text "é")]
    let file : Datum := .record "FilePart" false [("name", .text "b"), ("file", .text "d/f")]
    let form : Fields :=
      ((FieldMap.empty .exact).add (.text "a") [.absent]).add (.text "b") [.text "2"]
    let isSent (before : List Step) (call : Call) (after : List Step) (charset : Datum) (sole : Sole)
        (body : WireBody) : Prop := ∃ called wired sent,
      Act.step world (.call call) (start.run world before) = .ok .done called ∧
      Act.step world .handOver (called.run world after) = .ok (.wire wired) sent ∧
      wired.body = body ∧ sole.Sent world charset [] wired.body sent.drained
    isSent [.call (.setBodyFile (.text "f"))] (.setBodyText (.text "é€"))
        [.call (.setCharset (.text "UTF-16BE")), .call (.setBodyGenerator (.text "h")), .build]
        (.text "UTF-16BE") (.text (.text "é€")) (.content [0x00, 0xE9, 0x20, 0xAC]) ∧
      isSent [.call (.setBodyText (.text "x")), .call (.addFormParam (.text "a") .absent)]
        (.addFormParam (.text "b") (.text "2")) [.call (.setBodyFile (.text "g"))] .absent
        (.form form) (.form [⟨.text "a", [.text ""]⟩, ⟨.text "b", [.text "2"]⟩]) ∧
      isSent [.call (.addBodyPart text)] (.addBodyPart file) [.build] .absent
        (.parts [Part.ofDatum text, Part.ofDatum file])
        (.parts [⟨.text "a", .absent, .octets .fixed [0xC3, 0xA9], .absent⟩,
          ⟨.text "b", .text "f", .octets .fixed [7], .absent⟩]) := by
  intro world start text file form isSent
  have each : ∀ {before after : List Step} {call : Call} {charset : Datum} {sole : Sole}
      {body : WireBody} {called sent : Session} {wired : WireRequest},
      call.Makes (start.run world before).builder.request.body sole →
      Act.step world (.call call) (start.run world before) = .ok .done called →
      (∀ step ∈ called.trail world after, step.namesBody = false) →
      Act.step world .handOver (called.run world after) = .ok (.wire wired) sent →
      (called.run world after).builder.request.charset = charset →
      (called.run world after).drained = [] → wired.body = body →
      isSent before call after charset sole body := by
    intro before after call charset sole body called sent wired makes isCalled others handed
      isCharset isDrained isBody
    have sends := sent_of_called makes isCalled others handed
    rw [isCharset, isDrained] at sends
    exact ⟨called, wired, sent, isCalled, handed, isBody, sends⟩
  refine ⟨each (.text rfl) rfl ?_ rfl rfl rfl rfl, each (.formParam rfl rfl) rfl ?_ rfl rfl rfl rfl,
    each .part rfl ?_ rfl rfl rfl rfl⟩
  all_goals decide

end Outbound
