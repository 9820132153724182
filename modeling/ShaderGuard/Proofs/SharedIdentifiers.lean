import ShaderGuard.Proofs.RegistryHistory
import ShaderGuard.Proofs.Stages
import ShaderGuard.Simulation.Platform

/-!
# Identifiers that several objects share

Where instrumented code is kept for use again, an identifier is the fingerprint of the original
code, and all pipelines and shader objects that use the same code share it. The registry has one
entry under it, that of the object which was registered last, and a destruction of this object
removes the entry although the others are alive. A stage of a recorded pipeline is found with its
original code exactly if the last registration under its identifier stands, and is that of a stage
or has the same code (`Session.found_iff_last_registration_stands`).
-/

set_option autoImplicit false

namespace ShaderGuard

open Bytecode (ShaderId fingerprint)

variable {P : Platform}

/-! ### Identifiers are fingerprints -/

namespace Instrumentor

/-- Between two states with the same settings that keep instrumented code, that all attempts are
made under fingerprints. -/
def AttemptsByFingerprint (settings : Settings) (s : Instrumentor P) (attempts : List Attempt)
    (t : Instrumentor P) : Prop :=
  s.settings = settings →
    t.settings = settings ∧ ∀ attempt ∈ attempts, attempt.id = fingerprint attempt.code

theorem attemptsByFingerprint_of_sameHoldings {settings : Settings} {s t : Instrumentor P}
    (hsame : SameHoldings s t) : AttemptsByFingerprint settings s [] t :=
  fun hs ↦ ⟨hsame.settings.trans hs, fun _ hmem ↦ absurd hmem List.not_mem_nil⟩

/-- Assumes: settings that keep instrumented code. -/
theorem attemptsByFingerprint_of_rewrites {settings : Settings}
    (hkeeps : settings.cacheInstrumentedShaders = true) :
    Rewrites (P := P) (AttemptsByFingerprint settings) where
  refl s := attemptsByFingerprint_of_sameHoldings (.refl s)
  trans := by
    intro s t u first second hst htu hs
    obtain ⟨ht, hfirst⟩ := hst hs
    obtain ⟨hu, hsecond⟩ := htu ht
    refine ⟨hu, fun attempt hmem ↦ ?_⟩
    rcases List.mem_append.mp hmem with h | h
    · exact hfirst attempt h
    · exact hsecond attempt h
  record s entry := attemptsByFingerprint_of_sameHoldings ⟨rfl, rfl, rfl, rfl, rfl⟩
  internalError s location message :=
    attemptsByFingerprint_of_sameHoldings ⟨rfl, rfl, rfl, rfl, rfl⟩
  createModule s code := attemptsByFingerprint_of_sameHoldings ⟨rfl, rfl, rfl, rfl, rfl⟩
  createLibrary s info := attemptsByFingerprint_of_sameHoldings ⟨rfl, rfl, rfl, rfl, rfl⟩
  instrumentCode s code bindless location hs := by
    refine ⟨(SameHoldings.instrumentCode s code bindless location).settings.trans hs, ?_⟩
    intro attempt hmem
    unfold codeAttempts at hmem
    split at hmem
    · obtain rfl := List.mem_singleton.mp hmem
      rw [← hs] at hkeeps
      rw [identify_of_keeps hkeeps]
    · exact absurd hmem List.not_mem_nil

end Instrumentor

namespace Session

open Instrumentor

/-- Assumes: settings that keep instrumented code. Every attempt of a run is made under the
fingerprint of its code. -/
theorem id_of_mem_attempts {t : Session P}
    (hkeeps : t.state.settings.cacheInstrumentedShaders = true) {hooks : List Hook}
    {attempt : Attempt} (h : attempt ∈ collect attempts t hooks) :
    attempt.id = fingerprint attempt.code := by
  obtain ⟨older, hook, newer, rfl, hmem⟩ := mem_collect_iff.mp h
  have hrewrites := attemptsByFingerprint_of_rewrites (P := P) hkeeps
  cases hook with
  | preparePipelines infos location =>
    exact (hrewrites.preparePipelines _ infos location (settings_run t older)).2 attempt hmem
  | prepareShaderObjects infos call =>
    exact (hrewrites.prepareShaderObjects _ infos call (settings_run t older)).2 attempt hmem
  | _ => exact absurd hmem List.not_mem_nil

/-! ### Records come of attempts -/

/-- That the identifiers in a draft come of attempts on the code recorded with them. -/
def Attempted (attempts : List Attempt) (draft : PipelineDraft) : Prop :=
  ∀ record ∈ draft.records, ∀ id, record.shaderId = some id →
    ∃ attempt ∈ attempts, attempt.id = id ∧ record.code = some attempt.code

theorem attempted_of_draftFate {made : Instrumentor P → Code → ModuleHandle → Prop}
    {attempts : List Attempt} {t : Instrumentor P} {info : PipelineInfo} {draft : PipelineDraft}
    (h : DraftFate made attempts t info draft) : Attempted attempts draft := by
  intro record hrecord id hid
  rcases h with rfl | ⟨done, hrecords, -, hfate⟩
  · exact absurd hrecord List.not_mem_nil
  · rw [hrecords] at hrecord
    obtain ⟨one, hone, rfl⟩ := List.mem_map.mp hrecord
    obtain ⟨owned, -, hstage⟩ := exists_mem_of_forall₂ hfate hone
    obtain ⟨attempt, hmem, -, hsame, hcode, -⟩ := hstage.instrumented id hid
    exact ⟨attempt, hmem, hsame, hstage.code.trans hcode⟩

/-- A draft that is prepared in a run is one for a pipeline of the application. -/
theorem exists_fate_of_mem_prepared {t : Session P} {hooks : List Hook} {draft : PipelineDraft}
    (h : draft ∈ collect prepared t hooks) : ∃ older infos location newer,
      hooks = older ++ .preparePipelines infos location :: newer ∧ ∃ info ∈ infos,
        DraftFate (fun _ _ _ ↦ True) ((t.run older).state.pipelinesAttempts infos location)
          ((t.run older).state.preparePipelines infos location).2 info draft := by
  obtain ⟨older, hook, newer, rfl, hmem⟩ := mem_collect_iff.mp h
  cases hook with
  | preparePipelines infos location =>
    exact ⟨older, infos, location, newer, rfl, exists_mem_of_forall₂
      (forall₂_preparePipelines knowsModules_any (t.run older).state infos location) hmem⟩
  | _ => exact absurd hmem List.not_mem_nil

/-- The identifiers in a draft that a run prepares come of attempts of the run. -/
theorem attempted_of_mem_prepared {t : Session P} {hooks : List Hook} {draft : PipelineDraft}
    (h : draft ∈ collect prepared t hooks) : Attempted (collect attempts t hooks) draft := by
  obtain ⟨older, infos, location, newer, rfl, info, -, hfate⟩ := exists_fate_of_mem_prepared h
  intro record hrecord id hid
  obtain ⟨attempt, hmem, hsame⟩ := attempted_of_draftFate hfate record hrecord id hid
  have hattempt : attempt ∈ (t.run older).attempts (.preparePipelines infos location) := hmem
  exact ⟨attempt, mem_collect_iff.mpr ⟨older, _, newer, rfl, hattempt⟩, hsame⟩

/-- The registration of a stage comes of an attempt on its code. -/
theorem exists_attempt_of_registered {t : Session P} (hnow : t.drafts = []) {hooks : List Hook}
    {registration : Registration}
    (h : .registered registration ∈ collect registryEvents t hooks)
    (hstage : registration.isStage = true) :
    ∃ attempt ∈ collect attempts t hooks, attempt.id = registration.id ∧
      attempt.code = registration.shader.code := by
  obtain ⟨draft, hdraft, record, hrecord, pipeline, hregistration⟩ :=
    exists_record_of_mem_history h hstage
  have hattempted := (forall_drafts_run (Q := Attempted (collect attempts t hooks))
    (by rw [hnow]; exact fun draft hmem ↦ absurd hmem List.not_mem_nil)
    fun draft hmem ↦ attempted_of_mem_prepared hmem).1 draft hdraft
  unfold StageRecord.registration? at hregistration
  cases hid : record.shaderId with
  | none =>
    rw [hid] at hregistration
    cases hregistration
  | some id =>
    obtain ⟨attempt, hmem, hsame, hcode⟩ := hattempted record hrecord id hid
    rw [hid, hcode] at hregistration
    obtain rfl := Option.some.inj hregistration
    exact ⟨attempt, hmem, hsame, rfl⟩

/-- Assumes: settings that keep instrumented code, and that the fingerprint tells the code which the
run instruments apart. A stage of a pipeline that was recorded in the run, while shaders were being
rewritten, is found under its identifier with its original code exactly if the last registration
under the identifier stands, and is that of a stage or has the same code. In particular it is found
as it was registered if its own registration stands. -/
theorem found_iff_last_registration_stands (settings : Settings)
    (hkeeps : settings.cacheInstrumentedShaders = true) (device : P.DeviceState)
    (tools : P.ToolState) (storage : P.StorageState) (hooks : List Hook) :
    let first : Session P := start settings device tools storage
    let history := collect registryEvents first hooks
    let registry := (first.run hooks).state.registry
    FingerprintsDiffer (collect attempts first hooks) →
    ∀ id owner module code, .registered (.stage id owner module code) ∈ history →
      ((registry.get? id).map InstrumentedShader.code = some code ↔
        ∃ last, Stands history last ∧ last.id = id ∧
          (last.isStage = true ∨ last.shader.code = code)) ∧
      (Stands history (.stage id owner module code) →
        registry.get? id = some (Registration.stage id owner module code).shader) := by
  intro first history registry hdiffer id owner module code hregistered
  have hregistry : registry = replay .empty history := registry_run first hooks
  have hfirst : first.drafts = [] := rfl
  have hcached : first.state.settings.cacheInstrumentedShaders = true := hkeeps
  -- Stages under one identifier were made of code with one fingerprint, so of the same code.
  have hsame : ∀ last : Registration, .registered last ∈ history → last.id = id →
      last.isStage = true → last.shader.code = code := by
    intro last hlast hid hstage
    obtain ⟨use, huse, huseId, huseCode⟩ := exists_attempt_of_registered hfirst hlast hstage
    obtain ⟨own, hown, hownId, hownCode⟩ := exists_attempt_of_registered hfirst hregistered rfl
    have hids : use.id = own.id := huseId.trans (hid.trans hownId.symm)
    rw [id_of_mem_attempts hcached huse, id_of_mem_attempts hcached hown] at hids
    exact huseCode.symm.trans ((hdiffer use huse own hown hids).trans hownCode)
  have hfound : ∀ shader, registry.get? id = some shader ↔
      ∃ last, Stands history last ∧ last.id = id ∧ last.shader = shader := by
    intro shader
    rw [hregistry]
    exact get?_replay_eq_some_iff history id shader
  refine ⟨⟨fun h ↦ ?_, ?_⟩, fun hstands ↦ (hfound _).mpr ⟨_, hstands, rfl, rfl⟩⟩
  · obtain ⟨shader, hget, hcode⟩ := Option.map_eq_some_iff.mp h
    obtain ⟨last, hstands, hid, rfl⟩ := (hfound shader).mp hget
    exact ⟨last, hstands, hid, Or.inr hcode⟩
  · rintro ⟨last, hstands, hid, hright⟩
    have hcode : last.shader.code = code := by
      rcases hright with hstage | hcode
      · exact hsame last hstands.mem hid hstage
      · exact hcode
    rw [(hfound last.shader).mpr ⟨last, hstands, hid, rfl⟩, Option.map_some, hcode]

end Session

/-! ### Two pipelines with one shader -/

/-- A header and an access to a descriptor array, which a check guards. -/
def guardedAccess : Code := [0x07230203, 0x10300, 0, 16, 0, Simulation.arrayAccess]

/-- A compute pipeline with this code. -/
def guardedCompute : PipelineInfo :=
  .compute
    { flags := .empty
      stage := ⟨.empty, .null, some guardedAccess, some ⟨guardedAccess, false⟩, "main"⟩
      layout := none
      activeSlots := .empty }

/-- Two pipelines with this code are created, on a device that is set up. -/
def twoGuardedPipelines : List Hook :=
  [.setUpDevice {}, .preparePipelines [guardedCompute] "vkCreateComputePipelines",
    .pipelinesCreated 0 [⟨7⟩], .preparePipelines [guardedCompute] "vkCreateComputePipelines",
    .pipelinesCreated 0 [⟨8⟩]]

namespace Session

/-- The stage of the first pipeline is found through the registration of the second one. -/
theorem found_through_other_pipeline :
    let first : Session (Simulation.platform false {}) := start {} {} [] []
    let history := collect registryEvents first twoGuardedPipelines
    let id := fingerprint guardedAccess
    FingerprintsDiffer (collect attempts first twoGuardedPipelines) ∧
      .registered (.stage id ⟨7⟩ none guardedAccess) ∈ history ∧
      Stands history (.stage id ⟨8⟩ none guardedAccess) ∧
      ((first.run twoGuardedPipelines).state.registry.get? id).map InstrumentedShader.code =
        some guardedAccess := by
  intro first history id
  have hdiffer : FingerprintsDiffer (collect attempts first twoGuardedPipelines) := by
    unfold FingerprintsDiffer
    decide +kernel
  have hregistered : .registered (.stage id ⟨7⟩ none guardedAccess) ∈ history := by
    decide +kernel
  have hhistory : history = [.registered (.stage id ⟨7⟩ none guardedAccess),
      .registered (.stage id ⟨8⟩ none guardedAccess)] := by
    decide +kernel
  have hstands : Stands history (.stage id ⟨8⟩ none guardedAccess) :=
    ⟨[.registered (.stage id ⟨7⟩ none guardedAccess)], [], hhistory,
      fun event hmem ↦ absurd hmem List.not_mem_nil⟩
  have hfound := (found_iff_last_registration_stands (P := Simulation.platform false {}) {} rfl {}
    [] [] twoGuardedPipelines hdiffer id ⟨7⟩ none guardedAccess hregistered).1
  exact ⟨hdiffer, hregistered, hstands,
    hfound.mpr ⟨.stage id ⟨8⟩ none guardedAccess, hstands, rfl, Or.inl rfl⟩⟩

/-- A pipeline is recorded, but the identifier of its stage is lost when another pipeline with the
same code is destroyed. -/
theorem lost_with_other_pipeline :
    let first : Session (Simulation.platform false {}) := start {} {} [] []
    let hooks := twoGuardedPipelines ++ [.pipelineDestroyed ⟨8⟩]
    let id := fingerprint guardedAccess
    .registered (.stage id ⟨7⟩ none guardedAccess) ∈ collect registryEvents first hooks ∧
      (first.run hooks).state.pipelines.contains ⟨7⟩ = true ∧
      (first.run hooks).state.registry.get? id = none := by
  decide +kernel

end Session

end ShaderGuard
