import ShaderGuard.Proofs.Forwarding
import ShaderGuard.Proofs.OfferedCode

/-!
# Attempts in their places

The attempts of a call are told one after another. Here each is put into the place that it is made
for: the stages of a call take turns, pipeline by pipeline and with the stages of libraries first,
and in its turn a stage either is passed over, or has one attempt made on the code that is sought in
it (`Instrumentor.StageTurn`). It is the attempt of its own turn whose identifier the record of a
stage has. `exists_turns_preparePipelines` and `exists_turns_prepareShaderObjects` say so of whole
calls, of which no attempt is left out.

What is sought in a stage or a shader object is the same throughout a call, so it is told by the
state in which the call is made.
-/

set_option autoImplicit false

namespace ShaderGuard

open Bytecode (ShaderId hasMagic)

variable {P : Platform}

namespace Instrumentor

/-- Where all elements may be passed over, they are, with nothing noted. -/
theorem exists_turns_passed {α β τ : Type} {Q : α → β × List τ → Prop} {given : α → β}
    (h : ∀ a, Q a (given a, [])) (xs : List α) :
    ∃ turns : List (β × List τ), List.Forall₂ Q xs turns ∧ turns.map Prod.fst = xs.map given ∧
      turns.flatMap Prod.snd = [] := by
  refine ⟨xs.map fun a ↦ (given a, []), ?_, ?_, ?_⟩
  · rw [List.forall₂_map_right_iff, List.forall₂_same]
    exact fun a _ ↦ h a
  · rw [List.map_map]
    rfl
  · rw [List.flatMap_map]
    exact List.flatMap_eq_nil_iff.mpr fun _ _ ↦ rfl

/-! ### Stages -/

/-- Code is left alone, or one attempt is made on it, and what comes of the code comes of the
attempt. -/
theorem codeAttempts_cases (s : Instrumentor P) (code : Code) (bindless : Bool)
    (location : String) :
    s.codeAttempts code bindless location = [] ∧
        s.instrumentCode code bindless location = (none, s) ∨
      (s.resources.isSome && s.isInstrumenting && hasMagic code) = true ∧ ∃ attempt,
        s.codeAttempts code bindless location = [attempt] ∧ attempt.code = code ∧
          attempt.bindless = bindless ∧ (s.instrumentCode code bindless location).1 =
            attempt.made.map fun words ↦ ⟨attempt.id, words⟩ := by
  by_cases hgate : (s.resources.isSome && s.isInstrumenting && hasMagic code) = true
  · refine Or.inr ⟨hgate, ?_⟩
    cases hmade : (s.instrumentCode code bindless location).1 with
    | none =>
      refine ⟨⟨(s.identify code).1, code, bindless, none⟩, ?_, rfl, rfl, rfl⟩
      unfold codeAttempts
      rw [if_pos hgate, hmade]
      rfl
    | some made => exact ⟨_, codeAttempts_of_made hmade, rfl, rfl, rfl⟩
  · exact Or.inl ⟨if_neg hgate, instrumentCode_of_spared (Bool.eq_false_iff.mpr hgate) _ _⟩

/-- What may happen in the turn of a stage: its record, and the attempts that are made. -/
inductive StageTurn (s : Instrumentor P) (bindless : Bool) (stage : ShaderStage) :
    StageRecord → List Attempt → Prop where
  /-- Nothing is attempted, and the stage gets no identifier. -/
  | passed {record : StageRecord} (hnone : record.shaderId = none) :
      StageTurn s bindless stage record []
  /-- An attempt is made on the code that is sought. If the stage gets an identifier it is that of
  the attempt, and the attempt has succeeded. -/
  | attempted {record : StageRecord} {attempt : Attempt}
      (hsought : s.candidate? stage = some attempt.code) (hbindless : attempt.bindless = bindless)
      (hid : ∀ id, record.shaderId = some id → id = attempt.id ∧ attempt.made.isSome = true) :
      StageTurn s bindless stage record [attempt]

/-- Where the same is sought the same may happen. -/
theorem StageTurn.of_sameChoice {s t : Instrumentor P} (hsame : SameChoice s t) {bindless : Bool}
    {stage : ShaderStage} {record : StageRecord} {attempts : List Attempt}
    (h : StageTurn t bindless stage record attempts) :
    StageTurn s bindless stage record attempts := by
  cases h with
  | passed hnone => exact .passed hnone
  | attempted hsought hbindless hid =>
    exact .attempted (hsame.candidate?_eq ▸ hsought) hbindless hid

/-- If a stage gets an identifier for some words it is that of the words. -/
theorem eq_of_shaderId_placeCode {site : StageSite} {s : Instrumentor P} {stage : ShaderStage}
    {index : Nat} {made : InstrumentedCode} {id : ShaderId}
    (h : (placeCode site s stage index made).1.record.shaderId = some id) : id = made.id := by
  simp only [placeCode] at h
  split at h
  · split at h
    · exact (Option.some.inj h).symm
    · cases h
  · split at h
    · exact (Option.some.inj h).symm
    · cases h

theorem stageTurn_instrumentStage (site : StageSite) (s : Instrumentor P)
    (indexed : ShaderStage × Nat) :
    StageTurn s site.bindless indexed.1 (instrumentStage site s indexed).1.record
      (stageAttempts site s indexed) := by
  simp only [instrumentStage, stageAttempts]
  cases hcode : indexed.1.code with
  | none => exact .passed rfl
  | some code =>
    by_cases hselected : s.isSelected indexed.1 = true
    · simp only [if_pos hselected]
      rcases s.codeAttempts_cases code site.bindless site.location with
        ⟨hnone, hleft⟩ | ⟨hgate, attempt, hattempt, hon, hbindless, hmade⟩
      · rw [hnone, hleft]
        exact .passed rfl
      · have hsought : s.candidate? indexed.1 = some attempt.code := by
          simp only [Bool.and_eq_true] at hgate
          simp [candidate?, hgate.1.1, hselected, hcode, hgate.2, hon]
        rw [hattempt, hmade]
        cases hwords : attempt.made with
        | none =>
          exact .attempted hsought hbindless fun id hid ↦ absurd hid (Option.some_ne_none id).symm
        | some words =>
          refine .attempted hsought hbindless fun id hid ↦ ⟨eq_of_shaderId_placeCode hid, ?_⟩
          rw [hwords]
          rfl
    · simp only [if_neg hselected]
      exact .passed rfl

/-- That stages take turns, with a record each, and that the attempts are those of their turns. -/
def StageTurns (s : Instrumentor P) (bindless : Bool) (stages : List ShaderStage)
    (records : List StageRecord) (attempts : List Attempt) : Prop :=
  ∃ turns : List (StageRecord × List Attempt), turns.map Prod.fst = records ∧
    turns.flatMap Prod.snd = attempts ∧
    List.Forall₂ (fun stage turn ↦ StageTurn s bindless stage turn.1 turn.2) stages turns

namespace StageTurns

variable {s : Instrumentor P} {bindless : Bool}

theorem nil : StageTurns s bindless [] [] [] := ⟨[], rfl, rfl, List.Forall₂.nil⟩

theorem append {stages stages' : List ShaderStage} {records records' : List StageRecord}
    {attempts attempts' : List Attempt} (h : StageTurns s bindless stages records attempts)
    (h' : StageTurns s bindless stages' records' attempts') :
    StageTurns s bindless (stages ++ stages') (records ++ records') (attempts ++ attempts') := by
  obtain ⟨turns, rfl, rfl, hturns⟩ := h
  obtain ⟨turns', rfl, rfl, hturns'⟩ := h'
  exact ⟨turns ++ turns', List.map_append, List.flatMap_append, List.rel_append hturns hturns'⟩

/-- Where the same is sought the same turns may be taken. -/
theorem of_sameChoice {t : Instrumentor P} (hsame : SameChoice s t) {stages : List ShaderStage}
    {records : List StageRecord} {attempts : List Attempt}
    (h : StageTurns t bindless stages records attempts) :
    StageTurns s bindless stages records attempts := by
  obtain ⟨turns, hrecords, hattempts, hturns⟩ := h
  exact ⟨turns, hrecords, hattempts, hturns.imp fun _ _ hturn ↦ hturn.of_sameChoice hsame⟩

end StageTurns

/-- Stages are instrumented in turns. -/
theorem stageTurns_instrumentStages (site : StageSite) (s : Instrumentor P)
    (stages : List ShaderStage) :
    StageTurns s site.bindless stages
      ((instrumentStages site s stages).1.map StageOutcome.record)
      (stagesAttempts site s stages) := by
  obtain ⟨sheets, hsheets, hresults, hnotes⟩ := exists_noted_thread_of_keeps (SameChoice s)
    (fun (indexed : ShaderStage × Nat) (sheet : StageOutcome × List Attempt) ↦
      StageTurn s site.bindless indexed.1 sheet.1.record sheet.2)
    (stageAttempts site) (instrumentStage site) (fun t indexed hsame ↦
      ⟨hsame.trans (SameChoice.rewrites.instrumentStage site t indexed),
        (stageTurn_instrumentStage site t indexed).of_sameChoice hsame⟩) (.refl s) stages.zipIdx
  refine ⟨sheets.map fun sheet ↦ (sheet.1.record, sheet.2), ?_, ?_, ?_⟩
  · rw [instrumentStages, ← hresults, List.map_map, List.map_map]
    rfl
  · rw [stagesAttempts, ← hnotes, List.flatMap_map]
  · rw [List.forall₂_map_right_iff]
    exact forall₂_of_zipIdx hsheets

/-! ### Libraries and pipelines -/

theorem stageTurns_relinkLibrary (site : StageSite) (link : LinkState P)
    (library : GraphicsLibrary) :
    StageTurns link.state site.bindless library.info.stages
      (relinkLibrary site link library).1.records (libraryAttempts site link library) := by
  simp only [relinkLibrary, libraryAttempts]
  by_cases hempty : library.info.stages.isEmpty = true
  · rw [if_pos hempty, if_pos hempty, List.isEmpty_iff.mp hempty]
    exact .nil
  · rw [if_neg hempty, if_neg hempty]
    have hturns := stageTurns_instrumentStages { site with library := some library.handle }
      link.state library.info.stages
    split <;> exact hturns

theorem stageTurns_relinkLibraries (site : StageSite) (link : LinkState P)
    (libraries : List GraphicsLibrary) :
    StageTurns link.state site.bindless (libraries.flatMap fun library ↦ library.info.stages)
      ((thread (relinkLibrary site) link libraries).1.flatMap LibraryOutcome.records)
      (librariesAttempts site link libraries) := by
  induction libraries generalizing link with
  | nil => exact .nil
  | cons library rest ih =>
    have hsame := SameChoice.rewrites.relinkLibrary site link library
    exact (stageTurns_relinkLibrary site link library).append ((ih _).of_sameChoice hsame)

/-- The stages of a pipeline that is to be instrumented take turns. -/
theorem stageTurns_preparePipeline (slot : UInt32) (location : String) (s : Instrumentor P)
    (indexed : PipelineInfo × Nat) (heligible : isEligible indexed.1 slot = true) :
    StageTurns s indexed.1.isBindless (indexed.1.allStages.map Prod.snd)
      (preparePipeline slot location s indexed).1.records
      (pipelineAttempts slot location s indexed) := by
  simp only [preparePipeline, pipelineAttempts, if_pos heligible, instrumentPipeline]
  rw [PipelineInfo.map_snd_allStages]
  let site : StageSite := ⟨none, indexed.1.isBindless, elementOf location indexed.2⟩
  have hlinked := stageTurns_relinkLibraries site ⟨{}, s⟩ indexed.1.libraries
  have hsame := SameChoice.rewrites.quietly.relinkLibraries site ⟨{}, s⟩ indexed.1.libraries
  exact hlinked.append ((stageTurns_instrumentStages site _ indexed.1.stages).of_sameChoice hsame)

/-! ### Whole calls -/

/-- What may happen in the turn of a pipeline: its draft, and the attempts that are made. -/
inductive PipelineTurn (s : Instrumentor P) (info : PipelineInfo) :
    PipelineDraft × List Attempt → Prop where
  /-- The pipeline is forwarded as it is, with nothing attempted. -/
  | passed (hnot : ¬ s.Processes info) : PipelineTurn s info ({ info }, [])
  /-- Its stages take turns, and one without an identifier is forwarded as it is. -/
  | processed {draft : PipelineDraft} {attempts : List Attempt} (hprocesses : s.Processes info)
      (hforwarded : info.Forwarded draft.info) (hrepeats : draft.Repeats info)
      (hturns : StageTurns s info.isBindless (info.allStages.map Prod.snd) draft.records attempts) :
      PipelineTurn s info (draft, attempts)

/-- The pipelines of a call take turns, and all attempts of the call are made in them. -/
theorem exists_turns_preparePipelines (s : Instrumentor P) (infos : List PipelineInfo)
    (location : String) :
    ∃ turns : List (PipelineDraft × List Attempt), List.Forall₂ s.PipelineTurn infos turns ∧
      turns.map Prod.fst = (s.preparePipelines infos location).1 ∧
      turns.flatMap Prod.snd = s.pipelinesAttempts infos location := by
  rcases s.preparePipelines_cases infos location with
    ⟨hkept, hnone, hunprocessed⟩ | ⟨slot, hprepared, hattempts, hprocesses⟩
  · rw [hkept, hnone]
    exact exists_turns_passed (fun info ↦ .passed (hunprocessed info)) infos
  · have hone (t : Instrumentor P) (indexed : PipelineInfo × Nat) (hsame : SameChoice s t) :
        SameChoice s (preparePipeline slot location t indexed).2 ∧
          s.PipelineTurn indexed.1 ((preparePipeline slot location t indexed).1,
            pipelineAttempts slot location t indexed) := by
      refine ⟨hsame.trans (SameChoice.rewrites.preparePipeline slot location t indexed), ?_⟩
      by_cases heligible : isEligible indexed.1 slot = true
      · exact .processed ((hprocesses indexed.1).mpr heligible)
          (forwarded_preparePipeline slot location t indexed)
          (repeats_preparePipeline slot location t indexed heligible)
          ((stageTurns_preparePipeline slot location t indexed heligible).of_sameChoice hsame)
      · unfold preparePipeline pipelineAttempts
        rw [if_neg heligible, if_neg heligible]
        exact .passed fun hprocess ↦ heligible ((hprocesses indexed.1).mp hprocess)
    obtain ⟨turns, hturns, hrest⟩ := exists_noted_thread_of_keeps (SameChoice s)
      (fun (indexed : PipelineInfo × Nat) turn ↦ s.PipelineTurn indexed.1 turn)
      (pipelineAttempts slot location) (preparePipeline slot location) hone (.refl s) infos.zipIdx
    rw [hprepared, hattempts]
    exact ⟨turns, forall₂_of_zipIdx hturns, hrest⟩

/-! ### Shader objects -/

/-- What may happen in the turn of a shader object: its draft, and the attempts that are made. -/
inductive ObjectTurn (s : Instrumentor P) (info : ShaderObjectInfo) :
    ShaderObjectDraft × List Attempt → Prop where
  /-- Nothing is attempted, and the code stays as it is. -/
  | passed {draft : ShaderObjectDraft} (hmade : draft.made = none)
      (hcode : draft.info.code = info.code) : ObjectTurn s info (draft, [])
  /-- An attempt is made on the code that is sought. If words come of it they stand in place of the
  code, with the identifier of the attempt. -/
  | attempted {draft : ShaderObjectDraft} {attempt : Attempt} {reservation : Reservation}
      (hready : s.reservation = some reservation)
      (hsought : soughtObject reservation s info = [offer attempt])
      (hmade : draft.made = attempt.made.map fun words ↦ ⟨attempt.id, words⟩)
      (hcode : draft.info.code = attempt.made.getD info.code) :
      ObjectTurn s info (draft, [attempt])

theorem SameChoice.reservation_eq {s t : Instrumentor P} (h : SameChoice s t) :
    t.reservation = s.reservation := by
  unfold reservation
  rw [h.resources]

/-- Where the same is sought the same may happen. -/
theorem ObjectTurn.of_sameChoice {s t : Instrumentor P} (hsame : SameChoice s t)
    {info : ShaderObjectInfo} {turn : ShaderObjectDraft × List Attempt}
    (h : t.ObjectTurn info turn) : s.ObjectTurn info turn := by
  cases h with
  | passed hmade hcode => exact .passed hmade hcode
  | attempted hready hsought hmade hcode =>
    rw [hsame.reservation_eq] at hready
    rw [hsame.soughtObject_eq] at hsought
    exact .attempted hready hsought hmade hcode

theorem objectTurn_prepareShaderObject {reservation : Reservation} {s : Instrumentor P}
    (hready : s.reservation = some reservation) (call : String)
    (indexed : ShaderObjectInfo × Nat) :
    s.ObjectTurn indexed.1 ((prepareShaderObject reservation call s indexed).1,
      objectAttempts reservation call s indexed) := by
  have hoffered := map_offer_objectAttempts reservation call s indexed
  simp only [prepareShaderObject, objectAttempts] at hoffered ⊢
  cases hpatch : reservation.patch (indexed.1.setLayouts.map SetLayout.handle) with
  | conflict count => exact .passed rfl rfl
  | patched layouts =>
    simp only [hpatch, instrumentObject] at hoffered ⊢
    by_cases hskipped : (s.settings.selectInstrumentedShaders && !indexed.1.selected) = true
    · have hpatched : (s.settings.selectInstrumentedShaders &&
          !(indexed.1.patched reservation).selected) = true := hskipped
      rw [if_pos hskipped, if_pos hpatched]
      exact .passed rfl rfl
    · have hpatched : ¬ (s.settings.selectInstrumentedShaders &&
          !(indexed.1.patched reservation).selected) = true := hskipped
      have hcode : (indexed.1.patched reservation).code = indexed.1.code := rfl
      rw [if_neg hskipped] at hoffered ⊢
      rw [if_neg hpatched, hcode]
      rcases s.codeAttempts_cases indexed.1.code indexed.1.isBindless (elementOf call indexed.2)
        with ⟨hnone, hleft⟩ | ⟨hgate, attempt, hattempt, hon, hbindless, hmade⟩
      · rw [hnone, hleft]
        exact .passed rfl rfl
      · simp only [Bool.and_eq_true] at hgate
        rw [hattempt, hgate.1.2, if_pos rfl] at hoffered
        rw [hattempt, hmade]
        cases hwords : attempt.made with
        | none =>
          refine .attempted hready hoffered.symm ?_ ?_ <;> rw [hwords]
          · rfl
          · rfl
        | some words =>
          refine .attempted hready hoffered.symm ?_ ?_ <;> rw [hwords]
          · rfl
          · rfl

/-- The shader objects of a call take turns, and all attempts of the call are made in them. -/
theorem exists_turns_prepareShaderObjects (s : Instrumentor P) (infos : List ShaderObjectInfo)
    (call : String) :
    ∃ turns : List (ShaderObjectDraft × List Attempt), List.Forall₂ s.ObjectTurn infos turns ∧
      turns.map Prod.fst = (s.prepareShaderObjects infos call).1 ∧
      turns.flatMap Prod.snd = s.objectsAttempts infos call := by
  have hpassed := exists_turns_passed
    (fun info ↦ (.passed rfl rfl : s.ObjectTurn info ({ info }, []))) infos
  unfold prepareShaderObjects objectsAttempts
  cases hready : s.reservation with
  | none => exact hpassed
  | some reservation =>
    by_cases hactive : s.isInstrumenting = true
    · simp only [if_pos hactive]
      obtain ⟨turns, hturns, hrest⟩ := exists_noted_thread_of_keeps (SameChoice s)
        (fun (indexed : ShaderObjectInfo × Nat) turn ↦ s.ObjectTurn indexed.1 turn)
        (objectAttempts reservation call) (prepareShaderObject reservation call)
        (fun t indexed hsame ↦
          ⟨hsame.trans (SameChoice.rewrites.prepareShaderObject reservation call t indexed),
            (objectTurn_prepareShaderObject
              (hsame.reservation_eq.trans hready) call indexed).of_sameChoice hsame⟩)
        (.refl s) infos.zipIdx
      exact ⟨turns, forall₂_of_zipIdx hturns, hrest⟩
    · simp only [if_neg hactive]
      exact hpassed

end Instrumentor

/-! ### Single hooks -/

namespace Session

open Instrumentor

/-- That the attempts of a hook are made in turns. -/
def InTurns (t : Session P) : Hook → Prop
  | .preparePipelines infos location =>
    ∃ turns : List (PipelineDraft × List Attempt), List.Forall₂ t.state.PipelineTurn infos turns ∧
      turns.map Prod.fst = (t.state.preparePipelines infos location).1 ∧
      turns.flatMap Prod.snd = t.attempts (.preparePipelines infos location)
  | .prepareShaderObjects infos call =>
    ∃ turns : List (ShaderObjectDraft × List Attempt), List.Forall₂ t.state.ObjectTurn infos turns ∧
      turns.map Prod.fst = (t.state.prepareShaderObjects infos call).1 ∧
      turns.flatMap Prod.snd = t.attempts (.prepareShaderObjects infos call)
  | hook => t.attempts hook = []

theorem inTurns_step (t : Session P) (hook : Hook) : t.InTurns hook := by
  cases hook with
  | preparePipelines infos location =>
    exact exists_turns_preparePipelines t.state infos location
  | prepareShaderObjects infos call =>
    exact exists_turns_prepareShaderObjects t.state infos call
  | _ => rfl

end Session

end ShaderGuard
