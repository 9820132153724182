import ShaderGuard.Proofs.NullHandles
import ShaderGuard.Violation

/-!
# Whom a report is about

An instrumented shader reports a violation by its identifier and a few numbers. Whatever else the
text of a report says is read off the entry that the registry has under the identifier: who owns the
shader, which module it came from, and the code that positions refer to. Two texts stand in for what
cannot be read off. Without an entry, or without code in it, that is all a report says
(`Violation.message_eq_noRecord_iff`); and with neither a module nor a shader object in the entry
the owner is not told (`Violation.objectsText_eq_unlocated_iff`).

Entries are made of stages with a module, of stages with the code in them, of stages of libraries
and of shader objects, at once or when a deferred operation is complete. An entry of a stage names a
module and a pipeline, and its code has passed the gate of instrumentation
(`Session.hasMagic_of_registered`). An entry of a shader object names nothing else, and its code is
what the tools have answered with. So no run leaves an entry behind for which a report falls back to
one of the two texts, unless the application links a null library or the tools answer with no words
for a shader object (`Session.reports_attributed`).
-/

set_option autoImplicit false

namespace ShaderGuard

open Bytecode (ShaderId hasMagic sourceMessage fingerprint)

variable {P : Platform}

/-- What a report asks of the entry that it is about: that exactly one of pipeline and shader object
is there, that the module is missing exactly where the owner is a shader object, and that there is
code, which is a shader's where the owner is a pipeline. -/
structure InstrumentedShader.Attributable (shader : InstrumentedShader) : Prop where
  owner : Xor (shader.pipeline ≠ .null) (shader.object ≠ .null)
  module : shader.module = .null ↔ shader.object ≠ .null
  code : shader.code ≠ []
  magic : shader.pipeline ≠ .null → hasMagic shader.code = true

/-! ### The texts of a report -/

/-- A text starts as its first part does. -/
theorem head?_append_of_head? {first : String} {c : Char} (rest : String)
    (h : first.toList.head? = some c) : (first ++ rest).toList.head? = some c := by
  rw [String.toList_append, List.head?_append, h]
  rfl

namespace Violation

/-- What a report says if it finds no code. -/
def noRecord : String := "[Internal Error] - Can't get instructions from shader_map\n"

/-- What a report says in the place of the shader's owner if it finds none. -/
def unlocated (violation : Violation) (names : ObjectNames) : String :=
  "[Internal Error] - Unable to locate shader/pipeline handles used in command buffer " ++
    s!"{objectText names violation.commandBuffer}\n"

/-- The command and the shader's owner in words. -/
def located (violation : Violation) (shader : InstrumentedShader) (names : ObjectNames) : String :=
  s!"Command buffer {objectText names violation.commandBuffer}\n" ++
    s!"\t{violation.bindPoint.operationName} Index {violation.operation.toNat}\n" ++
    violation.ownerText shader names

/-- What a report says of a shader: the stage, the command and the owner, and the source. -/
def fullText (violation : Violation) (shader : InstrumentedShader) (names : ObjectNames)
    (printfOnly : Bool) : String :=
  (stageMessage violation.stage violation.first violation.second violation.third
      shader.code).value ++
    violation.located shader names ++ sourceMessage shader.code violation.position printfOnly

theorem located_ne_unlocated (violation : Violation) (shader : InstrumentedShader)
    (names : ObjectNames) : violation.located shader names ≠ violation.unlocated names := by
  intro hsame
  have hlocated : (violation.located shader names).toList.head? = some 'C' := by
    unfold located
    iterate 4 apply head?_append_of_head?
    rfl
  have hunlocated : (violation.unlocated names).toList.head? = some '[' := by
    unfold unlocated
    apply head?_append_of_head?
    rfl
  rw [hsame, hunlocated] at hlocated
  cases hlocated

/-- A report says that it finds no owner exactly if there is neither a module nor a shader
object. -/
theorem objectsText_eq_unlocated_iff (violation : Violation) (shader : InstrumentedShader)
    (names : ObjectNames) :
    violation.objectsText shader names = violation.unlocated names ↔
      shader.module = .null ∧ shader.object = .null := by
  have hgone : (shader.module.isNull && shader.object.isNull) = true ↔
      shader.module = .null ∧ shader.object = .null := by
    rw [Bool.and_eq_true, Handle.isNull_iff, Handle.isNull_iff]
  rw [← hgone]
  constructor
  · intro hsame
    by_contra hthere
    unfold objectsText at hsame
    rw [if_neg hthere] at hsame
    exact violation.located_ne_unlocated shader names hsame
  · intro hnone
    unfold objectsText
    rw [if_pos hnone]
    rfl

/-- What is said of the stage ends its line. -/
theorem newline_mem_stageMessage (stage first second third : UInt32) (code : Code) :
    '\n' ∈ (stageMessage stage first second third code).value.toList := by
  unfold stageMessage
  cases stageText? stage first second third code with
  | none =>
    rw [String.toList_append]
    exact List.mem_append_right _ (by decide)
  | some text =>
    rw [String.toList_append]
    exact List.mem_append_right _ (by decide)

/-- What is said of the objects ends its first line. -/
theorem newline_mem_objectsText (violation : Violation) (shader : InstrumentedShader)
    (names : ObjectNames) : '\n' ∈ (violation.objectsText shader names).toList := by
  unfold objectsText
  split
  · simp only [String.toList_append]
    exact List.mem_append_right _ (List.mem_append_right _ (by decide))
  · simp only [String.toList_append]
    exact List.mem_append_left _ (List.mem_append_left _ (List.mem_append_right _ (by decide)))

/-- A report that finds code has a line for the stage and one for the objects. -/
theorem two_le_count_message (violation : Violation) {shader : InstrumentedShader}
    (hcode : shader.code.isEmpty = false) (names : ObjectNames) (printfOnly : Bool) :
    2 ≤ (violation.message (some shader) names printfOnly).value.toList.count '\n' := by
  have hstage := List.count_pos_iff.mpr (newline_mem_stageMessage violation.stage violation.first
    violation.second violation.third shader.code)
  have hobjects := List.count_pos_iff.mpr (newline_mem_objectsText violation shader names)
  simp only [message, Option.filter_some, hcode, Bool.not_false, if_true, String.toList_append,
    List.count_append]
  omega

/-- A report says that it finds no code exactly if there is no entry with code. -/
theorem message_eq_noRecord_iff (violation : Violation) (entry : Option InstrumentedShader)
    (names : ObjectNames) (printfOnly : Bool) :
    (violation.message entry names printfOnly).value = noRecord ↔
      ∀ shader, entry = some shader → shader.code = [] := by
  constructor
  · rintro hsame shader rfl
    by_contra hcode
    have hlines := violation.two_le_count_message (List.isEmpty_eq_false_iff.mpr hcode) names
      printfOnly
    have honce : noRecord.toList.count '\n' = 1 := by decide
    rw [hsame, honce] at hlines
    omega
  · intro hnone
    have hfilter : (entry.filter fun shader ↦ !shader.code.isEmpty) = none := by
      rw [Option.filter_eq_none_iff]
      intro shader hshader
      rw [hnone shader hshader]
      exact Bool.false_ne_true
    unfold message
    rw [hfilter]
    rfl

/-- The report of a shader with what it asks for is told in full. -/
theorem message_of_attributable {shader : InstrumentedShader} (h : shader.Attributable)
    (violation : Violation) (names : ObjectNames) (printfOnly : Bool) :
    (violation.message (some shader) names printfOnly).value =
      violation.fullText shader names printfOnly := by
  have hcode : shader.code.isEmpty = false := List.isEmpty_eq_false_iff.mpr h.code
  have hthere : ¬ (shader.module.isNull && shader.object.isNull) = true := by
    rw [Bool.and_eq_true, Handle.isNull_iff, Handle.isNull_iff]
    rintro ⟨hmodule, hobject⟩
    exact h.module.mp hmodule hobject
  simp only [message, Option.filter_some, hcode, Bool.not_false, if_true, objectsText,
    if_neg hthere]
  rfl

end Violation

/-! ### The code of registered shaders -/

/-- The registration of a stage names no shader object. -/
theorem Registration.object_of_isStage {registration : Registration}
    (h : registration.isStage = true) : registration.shader.object = .null := by
  cases registration with
  | stage id owner module code => rfl
  | object id object code => cases h

/-- What is registered for a record is a stage. -/
theorem StageRecord.isStage_of_registration? {record : StageRecord} {pipeline : PipelineHandle}
    {registration : Registration} (h : record.registration? pipeline = some registration) :
    registration.isStage = true := by
  unfold registration? at h
  split at h
  · obtain rfl := Option.some.inj h
    rfl
  · cases h

namespace Instrumentor

/-- Instrumentation is attempted for code that is a shader's alone. -/
theorem rewrites_hasMagic :
    Rewrites (P := P) fun _ attempts _ ↦ ∀ attempt ∈ attempts, hasMagic attempt.code = true where
  refl _ _ hmem := absurd hmem List.not_mem_nil
  trans hfirst hsecond := List.forall_mem_append.mpr ⟨hfirst, hsecond⟩
  record _ _ _ hmem := absurd hmem List.not_mem_nil
  internalError _ _ _ _ hmem := absurd hmem List.not_mem_nil
  createModule _ _ _ hmem := absurd hmem List.not_mem_nil
  createLibrary _ _ _ hmem := absurd hmem List.not_mem_nil
  instrumentCode s code bindless location attempt hmem := by
    unfold codeAttempts at hmem
    split at hmem
    · next hgate =>
      obtain rfl := List.mem_singleton.mp hmem
      exact (Bool.and_eq_true_iff.mp hgate).2
    · exact absurd hmem List.not_mem_nil

end Instrumentor

namespace Session

open Instrumentor

theorem hasMagic_of_mem_attempts {t : Session P} {hooks : List Hook} {attempt : Attempt}
    (h : attempt ∈ collect attempts t hooks) : hasMagic attempt.code = true := by
  obtain ⟨older, hook, newer, rfl, hmem⟩ := mem_collect_iff.mp h
  cases hook with
  | preparePipelines infos location =>
    exact rewrites_hasMagic.preparePipelines _ infos location attempt hmem
  | prepareShaderObjects infos call =>
    exact rewrites_hasMagic.prepareShaderObjects _ infos call attempt hmem
  | _ => exact absurd hmem List.not_mem_nil

/-- The code that is registered for a stage is a shader's. -/
theorem hasMagic_of_registered {t : Session P} (hnow : t.drafts = []) {hooks : List Hook}
    {registration : Registration}
    (h : .registered registration ∈ collect registryEvents t hooks)
    (hstage : registration.isStage = true) : hasMagic registration.shader.code = true := by
  obtain ⟨attempt, hattempt, -, hcode⟩ := exists_attempt_of_registered hnow h hstage
  rw [← hcode]
  exact hasMagic_of_mem_attempts hattempt

/-- That the tools have answered with words whenever they have instrumented a shader object. -/
def AnswersObjects (t : Session P) (hooks : List Hook) : Prop :=
  ∀ draft ∈ collect preparedObjects t hooks, ∀ made ∈ draft.made, made.code ≠ []

/-- Assumes: a run that links no null library, and in which the tools answer with words for shader
objects. Whatever is registered in it can be told of. -/
theorem attributable_of_mem_history {t : Session P} (hnow : t.drafts = [])
    (hobjects : t.shaderObjects = []) {hooks : List Hook} (hlinks : ¬ LinksNull hooks)
    (hanswers : AnswersObjects t hooks) {registration : Registration}
    (h : .registered registration ∈ collect registryEvents t hooks) :
    registration.shader.Attributable := by
  have howned := ownedIn_of_mem_history hnow h
  rcases origin_of_mem_history h with
    ⟨draft, -, record, -, pipeline, -, hregistration⟩ | ⟨draft, hdraft, made, object, hmade, -, rfl⟩
  · have hstage := StageRecord.isStage_of_registration? hregistration
    have hmagic := hasMagic_of_registered hnow h hstage
    cases howned with
    | stage hobject hmodule hpipeline =>
      have howner : registration.shader.pipeline ≠ .null := fun hnull ↦ hlinks (hpipeline hnull)
      refine ⟨Or.inl ⟨howner, fun hgiven ↦ hgiven hobject⟩, ?_, ?_, fun _ ↦ hmagic⟩
      · exact iff_of_false hmodule fun hgiven ↦ hgiven hobject
      · intro hempty
        rw [hempty] at hmagic
        cases hmagic
    | object hobject _ _ =>
      exact absurd (Registration.object_of_isStage hstage) hobject
  · have hwords := forall_handedOverObjects hobjects hanswers draft hdraft made hmade
    cases howned with
    | stage _ hmodule _ => exact absurd rfl hmodule
    | object hobject hmodule hpipeline =>
      exact ⟨Or.inr ⟨hobject, fun hgiven ↦ hgiven hpipeline⟩, iff_of_true hmodule hobject, hwords,
        fun hgiven ↦ absurd hpipeline hgiven⟩

/-- Assumes: a run in which the application links no null library and the tools answer with words
for shader objects. Every entry of the registry behind it names exactly one owner, a pipeline or a
shader object, and a module exactly if it is a pipeline, and it has code, which is a shader's if the
owner is a pipeline. So every report of a shader in the registry is told in full: neither is its
record said to be missing, nor its owner. -/
theorem reports_attributed (settings : Settings) (device : P.DeviceState) (tools : P.ToolState)
    (storage : P.StorageState) (hooks : List Hook) (hlinks : ¬ LinksNull hooks)
    (hanswers : AnswersObjects (start settings device tools storage : Session P) hooks) :
    let registry := ((start settings device tools storage : Session P).run hooks).state.registry
    ∀ id shader, registry.get? id = some shader → shader.Attributable ∧
      ∀ (violation : Violation) names printfOnly, violation.shaderId = id →
        let text := (violation.message (registry.get? violation.shaderId) names printfOnly).value
        text = violation.fullText shader names printfOnly ∧ text ≠ Violation.noRecord ∧
          violation.objectsText shader names ≠ violation.unlocated names := by
  intro registry id shader hfound
  have hregistry : registry = replay .empty _ := registry_run _ hooks
  have hreplayed := hfound
  rw [hregistry] at hreplayed
  obtain ⟨registration, hstands, -, rfl⟩ := (get?_replay_eq_some_iff _ id shader).mp hreplayed
  have hshader : registration.shader.Attributable :=
    attributable_of_mem_history rfl rfl hlinks hanswers hstands.mem
  refine ⟨hshader, ?_⟩
  rintro violation names printfOnly rfl text
  have htext : text = violation.fullText registration.shader names printfOnly := by
    show (violation.message (registry.get? violation.shaderId) names printfOnly).value = _
    rw [hfound]
    exact Violation.message_of_attributable hshader violation names printfOnly
  refine ⟨htext, fun hnone ↦ ?_, fun hgone ↦ ?_⟩
  · have hcodeless := (violation.message_eq_noRecord_iff _ names printfOnly).mp hnone
    exact hshader.code (hcodeless _ hfound)
  · obtain ⟨hmodule, hobject⟩ := (violation.objectsText_eq_unlocated_iff _ names).mp hgone
    exact hshader.module.mp hmodule hobject

/-- A compute pipeline and a shader object are created on a device that is set up. -/
def guardedPipelineAndObject : List Hook :=
  [.setUpDevice {}, .preparePipelines [guardedCompute] "vkCreateComputePipelines",
    .pipelinesCreated 0 [⟨7⟩], .prepareShaderObjects [guardedObject] "vkCreateShadersEXT",
    .shaderObjectsCreated 0 [⟨40⟩]]

/-- A dispatch of the compute pipeline runs into a check, and one of the shader object does. Each
report tells whom it is about. -/
theorem reports_attributed_of_two_owners :
    let first : Session (Simulation.platform false {}) := start {} {} [] []
    let registry := (first.run guardedPipelineAndObject).state.registry
    let report (id : ShaderId) : Violation := ⟨⟨3⟩, id, 5, 0, 0, 0, 0, .compute, 2⟩
    let text (id : ShaderId) : String :=
      ((report id).message (registry.get? id) (fun _ ↦ none) false).value
    let stage := fingerprint guardedAccess
    let object := fingerprint guardedObject.code
    ¬ LinksNull guardedPipelineAndObject ∧ AnswersObjects first guardedPipelineAndObject ∧
      (∃ shader, registry.get? stage = some shader ∧ shader.pipeline = ⟨7⟩ ∧
        shader.Attributable ∧ text stage = (report stage).fullText shader (fun _ ↦ none) false ∧
        text stage ≠ Violation.noRecord) ∧
      ∃ shader, registry.get? object = some shader ∧ shader.object = ⟨40⟩ ∧
        shader.Attributable ∧ text object = (report object).fullText shader (fun _ ↦ none) false ∧
        text object ≠ Violation.noRecord := by
  intro first registry report text stage object
  have hlinks : ¬ LinksNull guardedPipelineAndObject := by
    rintro ⟨infos, location, hhook, info, hinfo, library, hlibrary, -⟩
    obtain ⟨rfl, -⟩ : infos = [guardedCompute] ∧ location = "vkCreateComputePipelines" := by
      simpa [guardedPipelineAndObject] using hhook
    obtain rfl := List.mem_singleton.mp hinfo
    exact absurd hlibrary List.not_mem_nil
  have hanswers : AnswersObjects first guardedPipelineAndObject := by
    unfold AnswersObjects
    decide +kernel
  have hattributed := reports_attributed (P := Simulation.platform false {}) {} {} [] []
    guardedPipelineAndObject hlinks hanswers
  have hstage : registry.get? stage = some ⟨⟨7⟩, .inlinedStage, .null, guardedAccess⟩ := by
    decide +kernel
  have hobject : ∃ code, registry.get? object = some ⟨.null, .null, ⟨40⟩, code⟩ := by
    refine ⟨((registry.get? object).map InstrumentedShader.code).getD [], ?_⟩
    decide +kernel
  obtain ⟨code, hobject⟩ := hobject
  refine ⟨hlinks, hanswers, ⟨_, hstage, rfl, ?_⟩, ⟨_, hobject, rfl, ?_⟩⟩
  · obtain ⟨hshader, htexts⟩ := hattributed stage _ hstage
    obtain ⟨hfull, hrecord, -⟩ := htexts (report stage) (fun _ ↦ none) false rfl
    exact ⟨hshader, hfull, hrecord⟩
  · obtain ⟨hshader, htexts⟩ := hattributed object _ hobject
    obtain ⟨hfull, hrecord, -⟩ := htexts (report object) (fun _ ↦ none) false rfl
    exact ⟨hshader, hfull, hrecord⟩

end Session

end ShaderGuard
