import ShaderGuard.Proofs.OfferedCode
import ShaderGuard.Proofs.Untouched

/-!
# Libraries of libraries

A library may be linked from libraries again, so the stages of a pipeline are those of a whole tree
(`PipelineInfo.treeStages`). The top of the tree is looked through: a pipeline has a record for each
stage of its libraries and each of its own, in the order of the tree, and these stages are offered
to instrumentation. The libraries of a library are not looked at. The records and the attempts are
those of the whole tree exactly if there are no stages so deep
(`Instrumentor.looksThrough_tree_iff`); `Instrumentor.deep_stage_passed_over` has one.
-/

set_option autoImplicit false

namespace ShaderGuard

/-! ### The tree of libraries -/

mutual

/-- The stages of a pipeline and of all libraries that it is linked from, at any depth, each after
those of its own libraries. -/
def GraphicsInfo.treeStages : GraphicsInfo → List ShaderStage
  | ⟨_, stages, _, _, libraries⟩ => librariesStages libraries ++ stages

/-- The stages of the trees of some libraries. -/
def librariesStages : List GraphicsLibrary → List ShaderStage
  | [] => []
  | library :: rest => libraryStages library ++ librariesStages rest

/-- The stages of the tree of a library. -/
def libraryStages : GraphicsLibrary → List ShaderStage
  | ⟨_, info⟩ => info.treeStages

end

theorem librariesStages_eq (libraries : List GraphicsLibrary) :
    librariesStages libraries = libraries.flatMap fun library ↦ library.info.treeStages := by
  induction libraries with
  | nil => rfl
  | cons library rest ih =>
    rw [librariesStages, ih, List.flatMap_cons]
    cases library
    rfl

theorem GraphicsInfo.treeStages_eq (info : GraphicsInfo) :
    info.treeStages = librariesStages info.libraries ++ info.stages := by
  cases info
  rfl

namespace PipelineInfo

/-- The stages of a pipeline and of all libraries that it is linked from, at any depth. -/
def treeStages (info : PipelineInfo) : List ShaderStage :=
  librariesStages info.libraries ++ info.stages

/-- The stages of the tree below the libraries that are linked into the pipeline itself. -/
def deepStages (info : PipelineInfo) : List ShaderStage :=
  info.libraries.flatMap fun library ↦ librariesStages library.info.libraries

/-- For a graphics pipeline this is the tree of what it is created from. -/
theorem treeStages_graphics (info : GraphicsInfo) :
    (PipelineInfo.graphics info).treeStages = info.treeStages := info.treeStages_eq.symm

/-- The tree has its top and what lies below. -/
theorem length_treeStages (info : PipelineInfo) :
    info.treeStages.length = info.allStages.length + info.deepStages.length := by
  have htop := congrArg List.length info.map_snd_allStages
  have hlibraries : (librariesStages info.libraries).length =
      (info.libraries.flatMap fun library ↦ library.info.stages).length +
        info.deepStages.length := by
    unfold deepStages
    rw [librariesStages_eq]
    induction info.libraries with
    | nil => rfl
    | cons library rest ih =>
      simp only [List.flatMap_cons, List.length_append, ih, library.info.treeStages_eq]
      omega
  rw [List.length_map, List.length_append] at htop
  unfold treeStages
  rw [List.length_append, hlibraries, htop]
  omega

/-- The top of a tree stands in the tree in its order. -/
theorem allStages_sublist_treeStages (info : PipelineInfo) :
    (info.allStages.map Prod.snd).Sublist info.treeStages := by
  rw [map_snd_allStages]
  refine List.Sublist.append ?_ (List.Sublist.refl _)
  rw [librariesStages_eq]
  induction info.libraries with
  | nil => exact List.Sublist.refl []
  | cons library rest ih =>
    rw [List.flatMap_cons, List.flatMap_cons, library.info.treeStages_eq]
    exact (List.sublist_append_right _ _).append ih

/-- A tree without stages below its top is no more than the top. -/
theorem treeStages_eq_iff (info : PipelineInfo) :
    info.treeStages = info.allStages.map Prod.snd ↔ info.deepStages = [] := by
  have hlength := info.length_treeStages
  constructor
  · intro hsame
    rw [hsame, List.length_map] at hlength
    exact List.eq_nil_of_length_eq_zero (by omega)
  · intro hnone
    rw [hnone, List.length_nil, Nat.add_zero] at hlength
    refine (info.allStages_sublist_treeStages.eq_of_length ?_).symm
    rw [List.length_map, hlength]

end PipelineInfo

/-! ### What is looked through -/

/-- That a record tells of a stage. -/
def StageRecord.Tells (record : StageRecord) (stage : ShaderStage) : Prop :=
  record.module = stage.module ∧ record.code = stage.code

namespace Instrumentor

variable {P : Platform}

/-- That a pipeline is looked through for some stages, from a state to another: its draft has one
record for each of them, in order, and they are offered to instrumentation. -/
structure LookedThrough (s t : Instrumentor P) (info : PipelineInfo) (draft : PipelineDraft)
    (attempts : List Attempt) (stages : List ShaderStage) : Prop where
  records : List.Forall₂ StageRecord.Tells draft.records stages
  offers : s.Offers (s.sought info.isBindless stages) attempts t

/-- A draft tells of the stages that it repeats. -/
theorem tells_of_repeats {info : PipelineInfo} {draft : PipelineDraft} (h : draft.Repeats info) :
    List.Forall₂ StageRecord.Tells draft.records (info.allStages.map Prod.snd) := by
  obtain ⟨done, hrecords, -, hrepeated⟩ := h
  rw [hrecords, List.forall₂_map_left_iff, List.forall₂_map_right_iff]
  exact hrepeated.flip.imp fun _ _ hone ↦ ⟨hone.module, hone.code⟩

theorem lookedThrough_preparePipeline (slot : UInt32) (location : String) (s : Instrumentor P)
    (indexed : PipelineInfo × Nat)
    (hlibrary : indexed.1.flags.contains CreationFlags.library = false)
    (hfree : indexed.1.claims slot = false) :
    LookedThrough s (preparePipeline slot location s indexed).2 indexed.1
      (preparePipeline slot location s indexed).1 (pipelineAttempts slot location s indexed)
      (indexed.1.allStages.map Prod.snd) := by
  refine ⟨?_, offers_preparePipeline slot location s indexed hlibrary hfree⟩
  by_cases hsome : indexed.1.allStages = []
  · have hnot : ¬ isEligible indexed.1 slot = true :=
      fun heligible ↦ ((isEligible_iff indexed.1 slot).mp heligible).1 hsome
    rw [preparePipeline, if_neg hnot, hsome]
    exact List.Forall₂.nil
  · have heligible := (isEligible_iff indexed.1 slot).mpr ⟨hsome, hlibrary, hfree⟩
    exact tells_of_repeats (repeats_preparePipeline slot location s indexed heligible)

/-- Assumes: that a pipeline is looked through. Wherever it stands in a call, it is looked through
for the stages at the top of its tree, and for those of the whole tree exactly if there are none
below the top. -/
theorem looksThrough_tree_iff (s : Instrumentor P) (older newer : List PipelineInfo)
    (info : PipelineInfo) (location : String) (h : s.looksThrough info = true) :
    let before := (s.preparePipelines older location).2
    let after := (s.preparePipelines (older ++ [info]) location).2
    ∃ draft attempts, s.Turn location older info newer draft attempts ∧
      LookedThrough before after info draft attempts (info.allStages.map Prod.snd) ∧
      (LookedThrough before after info draft attempts info.treeStages ↔ info.deepStages = []) := by
  intro before after
  simp only [looksThrough, Bool.and_eq_true, Bool.not_eq_true', Option.any_eq_true] at h
  obtain ⟨⟨hactive, hlibrary⟩, slot, hslot, hfree⟩ := h
  obtain ⟨hturn, hafter⟩ := turn_preparePipeline hslot hactive older newer info location
  let prepared := preparePipeline slot location before (info, older.length)
  let attempts := pipelineAttempts slot location before (info, older.length)
  have htop : LookedThrough before after info prepared.1 attempts
      (info.allStages.map Prod.snd) := by
    rw [show after = prepared.2 from hafter]
    exact lookedThrough_preparePipeline slot location before (info, older.length) hlibrary hfree
  refine ⟨prepared.1, attempts, hturn, htop, ?_⟩
  constructor
  · intro htree
    have hrecords := htree.records.length_eq.symm.trans htop.records.length_eq
    rw [info.length_treeStages, List.length_map] at hrecords
    exact List.eq_nil_of_length_eq_zero (by omega)
  · intro hnone
    rwa [info.treeStages_eq_iff.mpr hnone]

/-- A pipeline with a stage of its own, linked from a library with a stage, has two records. -/
theorem looksThrough_tree_iff_one_library :
    let first : Session (Simulation.platform false {}) := .start {} {} [] []
    let s := (first.step (.setUpDevice {})).state
    let code : Code := [0x07230203, 0x10300, 0, 16, 0, Simulation.arrayAccess]
    let info := PipelineInfo.graphics
      (plainInfo [stageOf ⟨20⟩ code] [⟨⟨30⟩, plainInfo [stageOf ⟨21⟩ code] []⟩])
    s.looksThrough info = true ∧ info.deepStages = [] ∧
      ∃ draft attempts, s.Turn "vkCreateGraphicsPipelines" [] info [] draft attempts ∧
        draft.records.length = 2 := by
  intro first s code info
  have hlooks : s.looksThrough info = true := by decide +kernel
  have hnone : info.deepStages = [] := by decide
  obtain ⟨draft, attempts, hturn, -, htree⟩ :=
    looksThrough_tree_iff s [] [] info "vkCreateGraphicsPipelines" hlooks
  refine ⟨hlooks, hnone, draft, attempts, hturn, ?_⟩
  rw [(htree.mpr hnone).records.length_eq]
  rfl

/-- A library that is linked into a library that is linked into a pipeline, each of the libraries
with a stage. The stage of the inner library has no record, and no attempt is made on it. -/
theorem deep_stage_passed_over :
    let first : Session (Simulation.platform false {}) := .start {} {} [] []
    let s := (first.step (.setUpDevice {})).state
    let code : Code := [0x07230203, 0x10300, 0, 16, 0, Simulation.arrayAccess]
    let inner : GraphicsLibrary := ⟨⟨31⟩, plainInfo [stageOf ⟨22⟩ code] []⟩
    let info := PipelineInfo.graphics
      (plainInfo [] [⟨⟨30⟩, plainInfo [stageOf ⟨21⟩ code] [inner]⟩])
    let call := "vkCreateGraphicsPipelines"
    s.looksThrough info = true ∧ info.treeStages.map ShaderStage.module = [⟨22⟩, ⟨21⟩] ∧
      (s.preparePipelines [info] call).1.map (fun draft ↦ draft.records.map StageRecord.module) =
        [[⟨21⟩]] ∧
      (s.pipelinesAttempts [info] call).length = 1 := by
  decide +kernel

end Instrumentor

end ShaderGuard
