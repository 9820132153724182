import Mathlib.Data.List.Nodup
import ShaderGuard.Proofs.IdentifierFlow
import ShaderGuard.Proofs.SharedIdentifiers

/-!
# Identifiers that are counted

Where instrumented code is not kept, every attempt gets the next number for an identifier, and as
long as there are fewer than `2 ^ 32` attempts no number comes twice (`Session.nodup_eventIds`). No
registration takes the place of another then, and the registry holds exactly what was registered
and not ended by a destruction since (`Session.registry_perm_survivors`).
-/

set_option autoImplicit false

namespace ShaderGuard

open Bytecode (ShaderId hasMagic)

variable {P : Platform}

/-! ### The counter -/

/-- The numbers that are counted from one on. -/
def countedFrom (next : ShaderId) (count : Nat) : List ShaderId :=
  (List.range count).map fun index ↦ next + UInt32.ofNat index

theorem countedFrom_add (next : ShaderId) (first second : Nat) :
    countedFrom next (first + second) =
      countedFrom next first ++ countedFrom (next + UInt32.ofNat first) second := by
  unfold countedFrom
  rw [List.range_add, List.map_append, List.map_map]
  congr 1
  refine List.map_congr_left fun index _ ↦ ?_
  show next + UInt32.ofNat (first + index) = next + UInt32.ofNat first + UInt32.ofNat index
  rw [UInt32.ofNat_add, UInt32.add_assoc]

/-- Up to `2 ^ 32` numbers in a row differ. -/
theorem nodup_countedFrom (next : ShaderId) {count : Nat} (h : count ≤ UInt32.size) :
    (countedFrom next count).Nodup := by
  refine List.Nodup.map_on ?_ List.nodup_range
  intro first hfirst second hsecond heq
  rw [List.mem_range] at hfirst hsecond
  have hsame : UInt32.ofNat first = UInt32.ofNat second := by
    have hsub := congrArg (· - next) heq
    simpa using hsub
  have hnat := congrArg UInt32.toNat hsame
  rwa [UInt32.toNat_ofNat_of_lt' (Nat.lt_of_lt_of_le hfirst h),
    UInt32.toNat_ofNat_of_lt' (Nat.lt_of_lt_of_le hsecond h)] at hnat

namespace Instrumentor

/-- Between two states with the same settings that do not keep instrumented code, that the attempts
count on. -/
def CountsOn (settings : Settings) (s : Instrumentor P) (attempts : List Attempt)
    (t : Instrumentor P) : Prop :=
  s.settings = settings → t.settings = settings ∧
    attempts.map Attempt.id = countedFrom s.nextId attempts.length ∧
    t.nextId = s.nextId + UInt32.ofNat attempts.length

theorem countsOn_of_nextId {settings : Settings} {s t : Instrumentor P}
    (hsettings : t.settings = s.settings) (hnext : t.nextId = s.nextId) :
    CountsOn settings s [] t := by
  intro hs
  refine ⟨hsettings.trans hs, rfl, ?_⟩
  rw [hnext]
  simp

/-- The counter moves where a piece of code is given an identifier, and nowhere else. -/
theorem nextId_instrumentCode (s : Instrumentor P) (code : Code) (bindless : Bool)
    (location : String) :
    (s.instrumentCode code bindless location).2.nextId =
      if s.resources.isSome && s.isInstrumenting && hasMagic code then (s.identify code).2.nextId
      else s.nextId := by
  unfold instrumentCode
  cases s.resources with
  | none => rfl
  | some resources =>
    simp only [Option.isSome_some, Bool.true_and]
    by_cases hgate : (s.isInstrumenting && hasMagic code) = true
    · rw [if_pos hgate, if_pos hgate]
      simp only [runPasses]
      split
      · rfl
      · split
        · unfold keep
          split <;> rfl
        all_goals rfl
    · rw [if_neg hgate, if_neg hgate]

/-- Assumes: settings that do not keep instrumented code. -/
theorem countsOn_of_rewrites {settings : Settings}
    (hcounts : settings.cacheInstrumentedShaders = false) :
    Rewrites (P := P) (CountsOn settings) where
  refl s := countsOn_of_nextId rfl rfl
  trans := by
    intro s t u first second hst htu hs
    obtain ⟨ht, hfirst, hnext⟩ := hst hs
    obtain ⟨hu, hsecond, hlast⟩ := htu ht
    refine ⟨hu, ?_, ?_⟩
    · rw [List.map_append, List.length_append, countedFrom_add, hfirst, hsecond, hnext]
    · rw [hlast, hnext, List.length_append, UInt32.ofNat_add, UInt32.add_assoc]
  record s entry := countsOn_of_nextId rfl rfl
  internalError s location message := countsOn_of_nextId rfl rfl
  createModule s code := countsOn_of_nextId rfl rfl
  createLibrary s info := countsOn_of_nextId rfl rfl
  instrumentCode s code bindless location hs := by
    have hoff : s.settings.cacheInstrumentedShaders = false := by
      rw [hs]
      exact hcounts
    have hsettings := (SameHoldings.instrumentCode s code bindless location).settings
    refine ⟨hsettings.trans hs, ?_⟩
    rw [nextId_instrumentCode]
    unfold codeAttempts
    rw [identify_of_counts hoff]
    by_cases hgate : (s.resources.isSome && s.isInstrumenting && hasMagic code) = true
    · rw [if_pos hgate, if_pos hgate]
      simp [countedFrom]
    · rw [if_neg hgate, if_neg hgate]
      simp [countedFrom]

/-- Settings that keep instrumented code leave the counter where it is. -/
def NeverCounts (s t : Instrumentor P) : Prop :=
  s.settings.cacheInstrumentedShaders = true → t.settings = s.settings ∧ t.nextId = s.nextId

theorem neverCounts_of_rewrites : Rewrites (P := P) fun s _ t ↦ s.NeverCounts t where
  refl _ _ := ⟨rfl, rfl⟩
  trans hst htu hs := by
    obtain ⟨hsettings, hnext⟩ := hst hs
    rw [← hsettings] at hs
    obtain ⟨hlast, hlastId⟩ := htu hs
    exact ⟨hlast.trans hsettings, hlastId.trans hnext⟩
  record _ _ _ := ⟨rfl, rfl⟩
  internalError _ _ _ _ := ⟨rfl, rfl⟩
  createModule _ _ _ := ⟨rfl, rfl⟩
  createLibrary _ _ _ := ⟨rfl, rfl⟩
  instrumentCode s code bindless location hkeeps := by
    refine ⟨(SameHoldings.instrumentCode s code bindless location).settings, ?_⟩
    rw [nextId_instrumentCode]
    rw [identify_of_keeps hkeeps]
    exact ite_self s.nextId

end Instrumentor

namespace Session

open Instrumentor

/-- Assumes: a relation that the hooks before creations keep, and that holds between states with the
same settings and the same counter. Every hook keeps it. -/
theorem step_of_rewrites {R : Instrumentor P → List Attempt → Instrumentor P → Prop}
    (h : Rewrites R)
    (hsame : ∀ {s t : Instrumentor P}, t.settings = s.settings → t.nextId = s.nextId → R s [] t)
    (t : Session P) (hook : Hook) : R t.state (t.attempts hook) (t.step hook).state := by
  have hquiet (hnext : (t.step hook).state.nextId = t.state.nextId) :
      R t.state [] (t.step hook).state := hsame (settings_step t hook) hnext
  by_cases hsupplies : hook.leavesSupplies = true
  · have hnone : t.attempts hook = [] := by
      cases hook <;> first | rfl | cases hsupplies
    rw [hnone]
    exact hquiet (sameSupplies_step t hsupplies).nextId
  · cases hook with
    | preparePipelines infos location => exact h.preparePipelines t.state infos location
    | prepareShaderObjects infos call => exact h.prepareShaderObjects t.state infos call
    | setUpDevice capabilities =>
      obtain ⟨log, device, subsystem, resources, hafter, -⟩ :=
        OnlyDevice.setUpDevice t.state capabilities
      exact hquiet (by simp only [step, become, hafter])
    | tearDownDevice =>
      obtain ⟨log, device, hafter⟩ := exists_tearDownDevice_eq t.state
      exact hquiet (by simp only [step, become, hafter])
    | _ => exact absurd rfl hsupplies

/-- What every hook keeps in this way a run keeps. -/
theorem run_of_rewrites {R : Instrumentor P → List Attempt → Instrumentor P → Prop}
    (h : Rewrites R)
    (hsame : ∀ {s t : Instrumentor P}, t.settings = s.settings → t.nextId = s.nextId → R s [] t)
    (t : Session P) (hooks : List Hook) :
    R t.state (collect attempts t hooks) (t.run hooks).state :=
  chains_run (R := fun t attempts u ↦ R t.state attempts u.state)
    ⟨fun t ↦ h.refl t.state, h.trans⟩ (fun t hook (_ : True) ↦ t.step_of_rewrites h hsame hook) t
    hooks (fun _ _ ↦ trivial)

/-- Assumes: settings that do not keep instrumented code. The attempts of a run count on. -/
theorem countsOn_run {settings : Settings} (hcounts : settings.cacheInstrumentedShaders = false)
    (t : Session P) (hooks : List Hook) :
    CountsOn settings t.state (collect attempts t hooks) (t.run hooks).state :=
  run_of_rewrites (countsOn_of_rewrites hcounts) countsOn_of_nextId t hooks

/-- Assumes: settings that do not keep instrumented code, and fewer than `2 ^ 32` attempts. No
identifier is registered twice. -/
theorem nodup_eventIds {settings : Settings} (hcounts : settings.cacheInstrumentedShaders = false)
    {t : Session P} (hsettings : t.state.settings = settings) (hdrafts : t.draftIds = [])
    {hooks : List Hook} (hfew : (collect attempts t hooks).length < UInt32.size) :
    (eventIds (collect registryEvents t hooks)).Nodup := by
  obtain ⟨-, hids, -⟩ := countsOn_run hcounts t hooks hsettings
  rw [List.nodup_iff_count_le_one]
  intro id
  have hcount := t.count_ids_run hooks id
  have hnodup := List.nodup_iff_count_le_one.mp
    (nodup_countedFrom t.state.nextId (Nat.le_of_lt hfew)) id
  rw [hids, hdrafts, List.count_nil] at hcount
  omega

end Session

/-! ### Survivors -/

namespace Registration

/-- Whether an event ends a registration: what owns the stage is destroyed, or its module, or the
shader object itself. -/
def isEndedBy : Registration → RegistryEvent → Bool
  | .stage _ owner _ _, .pipelineDestroyed pipeline => owner = pipeline
  | .stage _ _ module _, .moduleDestroyed destroyed => module = some destroyed
  | .object _ handle _, .shaderObjectDestroyed destroyed => handle = destroyed
  | _, _ => false

end Registration

/-- The registrations of a history that nothing later in it ends, in their order. -/
def survivors : List RegistryEvent → List Registration
  | [] => []
  | .registered registration :: newer =>
    if newer.any registration.isEndedBy then survivors newer else registration :: survivors newer
  | _ :: newer => survivors newer

theorem survivors_sublist (events : List RegistryEvent) :
    (survivors events).Sublist (registered events) := by
  induction events with
  | nil => exact List.Sublist.refl _
  | cons event newer ih =>
    cases event with
    | registered registration =>
      show List.Sublist (if _ then _ else _) (registration :: registered newer)
      split
      · exact ih.cons registration
      · exact ih.cons_cons registration
    | _ => exact ih

theorem mem_survivors_iff {events : List RegistryEvent} {registration : Registration} :
    registration ∈ survivors events ↔ ∃ older newer,
      events = older ++ .registered registration :: newer ∧
        ∀ event ∈ newer, registration.isEndedBy event = false := by
  constructor
  · intro h
    induction events with
    | nil => exact absurd h List.not_mem_nil
    | cons event rest ih =>
      have hlater (hrest : registration ∈ survivors rest) : ∃ older newer,
          event :: rest = older ++ .registered registration :: newer ∧
            ∀ event ∈ newer, registration.isEndedBy event = false := by
        obtain ⟨older, newer, rfl, hended⟩ := ih hrest
        exact ⟨event :: older, newer, rfl, hended⟩
      cases event with
      | registered first =>
        unfold survivors at h
        split at h
        · exact hlater h
        · next hlives =>
          rcases List.mem_cons.mp h with rfl | hrest
          · refine ⟨[], rest, rfl, ?_⟩
            simpa using hlives
          · exact hlater hrest
      | _ => exact hlater h
  · rintro ⟨older, newer, rfl, hended⟩
    induction older with
    | nil =>
      have hlives : ¬ newer.any registration.isEndedBy = true := by
        simpa using hended
      show registration ∈ if _ then _ else _
      rw [if_neg hlives]
      exact List.mem_cons_self
    | cons event older ih =>
      cases event with
      | registered first =>
        show registration ∈ if _ then _ else _
        split
        · exact ih
        · exact List.mem_cons_of_mem _ ih
      | _ => exact ih

/-- Whether what an event destroys is an object of the application. -/
def RegistryEvent.namesObject : RegistryEvent → Bool
  | .registered _ => true
  | .pipelineDestroyed pipeline => !pipeline.isNull
  | .moduleDestroyed module => !module.isNull && module != Handle.inlinedStage
  | .shaderObjectDestroyed object => !object.isNull

theorem null_ne_of_isNull {kind : ObjectKind} {handle : Handle kind} (h : (!handle.isNull) = true) :
    Handle.null ≠ handle := by
  intro hnull
  rw [← hnull] at h
  cases h

/-- Assumes: a destruction of an object. It spares a registration exactly if it does not end it. -/
theorem spares_eq_not_isEndedBy {event : RegistryEvent} (hobject : event.namesObject = true)
    (hdestruction : ∀ other, event ≠ .registered other) (registration : Registration) :
    event.spares registration = !registration.isEndedBy event := by
  cases event with
  | registered other => exact absurd rfl (hdestruction other)
  | pipelineDestroyed pipeline =>
    have hnull := null_ne_of_isNull hobject
    cases registration with
    | stage id owner module code =>
      simp [RegistryEvent.spares, Registration.isEndedBy, Registration.shader, bne, beq_eq_decide]
    | object id handle code =>
      simp [RegistryEvent.spares, Registration.isEndedBy, Registration.shader, hnull]
  | moduleDestroyed destroyed =>
    obtain ⟨hgiven, hnotInlined⟩ := Bool.and_eq_true_iff.mp hobject
    have hnull := null_ne_of_isNull hgiven
    have hinlined : Handle.inlinedStage ≠ destroyed := (bne_iff_ne.mp hnotInlined).symm
    cases registration with
    | stage id owner module code =>
      cases module with
      | none => simp [RegistryEvent.spares, Registration.isEndedBy, Registration.shader, hinlined]
      | some module =>
        simp [RegistryEvent.spares, Registration.isEndedBy, Registration.shader, bne,
          beq_eq_decide]
    | object id handle code =>
      simp [RegistryEvent.spares, Registration.isEndedBy, Registration.shader, hnull]
  | shaderObjectDestroyed object =>
    have hnull := null_ne_of_isNull hobject
    cases registration with
    | stage id owner module code =>
      simp [RegistryEvent.spares, Registration.isEndedBy, Registration.shader, hnull]
    | object id handle code =>
      simp [RegistryEvent.spares, Registration.isEndedBy, Registration.shader, bne, beq_eq_decide]

/-- Assumes: destructions of objects, and no identifier registered twice. What stands at the end of
a history is what nothing has ended. -/
theorem stands_iff_mem_survivors {events : List RegistryEvent}
    (hobjects : ∀ event ∈ events, event.namesObject = true) (hnodup : (eventIds events).Nodup)
    (registration : Registration) :
    Stands events registration ↔ registration ∈ survivors events := by
  rw [mem_survivors_iff]
  constructor
  · rintro ⟨older, newer, rfl, hspared⟩
    refine ⟨older, newer, rfl, fun event hevent ↦ ?_⟩
    cases event with
    | registered other => cases registration <;> rfl
    | _ =>
      have hspares := spares_eq_not_isEndedBy
        (hobjects _ (List.mem_append_right _ (List.mem_cons_of_mem _ hevent)))
        (fun other h ↦ nomatch h) registration
      rw [hspared _ hevent] at hspares
      simpa using hspares
  · rintro ⟨older, newer, rfl, hended⟩
    refine ⟨older, newer, rfl, fun event hevent ↦ ?_⟩
    cases event with
    | registered other =>
      -- The identifier would be registered a second time.
      rw [eventIds_append, List.nodup_append'] at hnodup
      have hfresh : registration.id ∉ eventIds newer := (List.nodup_cons.mp hnodup.2.1).1
      have hother : other.id ∈ eventIds newer :=
        List.mem_map_of_mem (List.mem_filterMap.mpr ⟨_, hevent, rfl⟩)
      have hne : other.id ≠ registration.id := fun h ↦ hfresh (h ▸ hother)
      simpa [RegistryEvent.spares] using hne
    | _ =>
      rw [spares_eq_not_isEndedBy
        (hobjects _ (List.mem_append_right _ (List.mem_cons_of_mem _ hevent)))
        (fun other h ↦ nomatch h) registration, hended _ hevent]
      rfl

/-- Assumes: destructions of objects, and no identifier registered twice. The registry holds the
entries of the survivors, once each. -/
theorem perm_entries_replay {events : List RegistryEvent}
    (hobjects : ∀ event ∈ events, event.namesObject = true) (hnodup : (eventIds events).Nodup) :
    (replay .empty events).entries.Perm ((survivors events).map Registration.entry) := by
  have hids : ((survivors events).map Registration.entry |>.map Prod.fst).Nodup := by
    rw [List.map_map]
    exact hnodup.sublist ((survivors_sublist events).map Registration.id)
  refine (List.perm_ext_iff_of_nodup (Table.nodup_entries _) hids.of_map).mpr ?_
  rintro ⟨id, shader⟩
  rw [← Table.get?_eq_some_iff, get?_replay_eq_some_iff, List.mem_map]
  constructor
  · rintro ⟨registration, hstands, rfl, rfl⟩
    exact ⟨registration, (stands_iff_mem_survivors hobjects hnodup registration).mp hstands, rfl⟩
  · rintro ⟨registration, hsurvives, hentry⟩
    obtain ⟨rfl, rfl⟩ := Prod.mk.inj hentry
    exact ⟨registration, (stands_iff_mem_survivors hobjects hnodup registration).mpr hsurvives,
      rfl, rfl⟩

/-! ### What registrations say -/

open Instrumentor

/-- That the record of a stage, if it is instrumented, leads to a registration with the owner of the
stage, its module unless the code stands in the stage, and its original code. -/
def StageRecord.RegistersStage (owned : Option PipelineHandle × ShaderStage)
    (record : StageRecord) : Prop :=
  ∀ id, record.shaderId = some id → ∃ code, owned.2.code = some code ∧
    ∀ pipeline, record.registration? pipeline = some (.stage id (owned.1.getD pipeline)
      (if owned.2.module.isNull then none else some owned.2.module) code)

theorem registersStage_of_stageFate {made : Instrumentor P → Code → ModuleHandle → Prop}
    {bindless : Bool} {attempts : List Attempt} {t : Instrumentor P}
    {owned : Option PipelineHandle × ShaderStage} {done : StageRecord × ShaderStage}
    (h : StageFate made bindless attempts t owned done) : done.1.RegistersStage owned := by
  intro id hid
  obtain ⟨attempt, -, -, -, hcode, -⟩ := h.instrumented id hid
  refine ⟨attempt.code, hcode, fun pipeline ↦ ?_⟩
  have hinlined : (done.1.module.isNull && done.1.inlined) = owned.2.module.isNull := by
    rw [h.module]
    cases hnull : owned.2.module.isNull with
    | false => rfl
    | true => exact h.inlined.mpr ⟨by rw [hid]; rfl, hnull⟩
  unfold StageRecord.registration?
  rw [hid, h.code, hcode, hinlined, h.library, h.module]

/-- That the records of a draft are those of the stages of a pipeline, in order, unless nothing was
done for the pipeline: then the draft is the pipeline as it was given, without records. -/
def PipelineDraft.Describes (draft : PipelineDraft) (info : PipelineInfo) : Prop :=
  draft = { info } ∨
    List.Forall₂ (fun owned record ↦ StageRecord.RegistersStage owned record) info.allStages
      draft.records

theorem describes_of_draftFate {made : Instrumentor P → Code → ModuleHandle → Prop}
    {attempts : List Attempt} {t : Instrumentor P} {info : PipelineInfo} {draft : PipelineDraft}
    (h : DraftFate made attempts t info draft) : draft.Describes info := by
  rcases h with rfl | ⟨done, hrecords, -, hfate⟩
  · exact Or.inl rfl
  · right
    rw [hrecords, List.forall₂_map_right_iff]
    exact hfate.imp fun _ _ ↦ registersStage_of_stageFate

/-- Whether what a hook precedes the destruction of is an object of the application. -/
def Hook.namesObject : Hook → Bool
  | .pipelineDestroyed pipeline => !pipeline.isNull
  | .moduleDestroyed module => !module.isNull && module != Handle.inlinedStage
  | .shaderObjectDestroyed object => !object.isNull
  | _ => true

theorem namesObject_registeredIf {registering : Bool} {entries : List Registration}
    {event : RegistryEvent} (h : event ∈ registeredIf registering entries) :
    event.namesObject = true := by
  unfold registeredIf at h
  split at h
  · obtain ⟨registration, -, rfl⟩ := List.mem_map.mp h
    rfl
  · exact absurd h List.not_mem_nil

namespace Session

theorem namesObject_registryEvents {t : Session P} {hook : Hook} (hhook : hook.namesObject = true)
    {event : RegistryEvent} (h : event ∈ t.registryEvents hook) : event.namesObject = true := by
  cases hook with
  | pipelineDestroyed pipeline => rwa [List.mem_singleton.mp h]
  | moduleDestroyed module => rwa [List.mem_singleton.mp h]
  | shaderObjectDestroyed object => rwa [List.mem_singleton.mp h]
  | pipelinesCreated creation pipelines => exact namesObject_registeredIf h
  | rayTracingPipelinesCreated creation operation result pipelines =>
    simp only [registryEvents] at h
    split at h
    · exact namesObject_registeredIf h
    · exact absurd h List.not_mem_nil
  | completeDeferred operation pipelines =>
    obtain ⟨recording, -, hrecording⟩ := List.mem_flatMap.mp h
    exact namesObject_registeredIf hrecording
  | shaderObjectsCreated creation objects => exact namesObject_registeredIf h
  | _ => exact absurd h List.not_mem_nil

/-- Every draft that a run takes out of the session was prepared in it, for a pipeline of the
application. -/
theorem exists_describes_of_mem_handedOver {t : Session P} (hnow : t.drafts = [])
    {hooks : List Hook} {draft : PipelineDraft} (h : draft ∈ collect handedOver t hooks) :
    ∃ infos location, .preparePipelines infos location ∈ hooks ∧
      ∃ info ∈ infos, draft.Describes info := by
  have hdrafts : ∀ draft ∈ t.drafts, ∃ infos location, .preparePipelines infos location ∈ hooks ∧
      ∃ info ∈ infos, draft.Describes info := by
    rw [hnow]
    exact fun draft hmem ↦ absurd hmem List.not_mem_nil
  refine (forall_drafts_run hdrafts fun draft hmem ↦ ?_).1 draft h
  obtain ⟨older, infos, location, newer, rfl, info, hinfo, hfate⟩ :=
    exists_fate_of_mem_prepared hmem
  exact ⟨infos, location, List.mem_append_right _ List.mem_cons_self, info, hinfo,
    describes_of_draftFate hfate⟩

/-- Assumes: settings that do not keep instrumented code, destructions of objects, and fewer than
`2 ^ 32` attempts. The registry holds one entry for each registration that nothing has ended since,
and no other. The registrations of a pipeline are those of its instrumented stages, each with its
owner, its module and its original code. A pipeline whose creation was deferred is registered if
shaders were being rewritten when it was posted. -/
theorem registry_perm_survivors (settings : Settings)
    (hcounts : settings.cacheInstrumentedShaders = false) (device : P.DeviceState)
    (tools : P.ToolState) (storage : P.StorageState) (hooks : List Hook)
    (hobjects : ∀ hook ∈ hooks, hook.namesObject = true) :
    let first : Session P := start settings device tools storage
    let history := collect registryEvents first hooks
    (collect attempts first hooks).length < UInt32.size →
    (first.run hooks).state.registry.entries.Perm ((survivors history).map Registration.entry) ∧
      (∀ draft ∈ collect handedOver first hooks, ∃ infos location,
        .preparePipelines infos location ∈ hooks ∧ ∃ info ∈ infos, draft.Describes info) ∧
      (∀ older infos location, List.Forall₂ (fun info draft ↦ draft.Describes info) infos
        ((first.run older).state.preparePipelines infos location).1) ∧
      ∀ operation, ∀ recording ∈ (first.run hooks).recordings operation,
        ∃ older creation result pipelines newer,
          hooks = older ++
              .rayTracingPipelinesCreated creation operation result pipelines :: newer ∧
            (first.run older).pipelines[creation]? = some recording.drafts ∧
            recording.register = (first.run older).state.isInstrumenting := by
  intro first history hfew
  have hregistry : (first.run hooks).state.registry = replay .empty history :=
    registry_run first hooks
  have hevents : ∀ event ∈ history, event.namesObject = true := by
    intro event hevent
    obtain ⟨older, hook, newer, rfl, hmem⟩ := mem_collect_iff.mp hevent
    have hhook := hobjects hook (List.mem_append_right _ List.mem_cons_self)
    exact namesObject_registryEvents hhook hmem
  have hnodup : (eventIds history).Nodup := nodup_eventIds hcounts rfl rfl hfew
  refine ⟨?_, ?_, ?_, ?_⟩
  · rw [hregistry]
    exact perm_entries_replay hevents hnodup
  · intro draft hdraft
    exact exists_describes_of_mem_handedOver rfl hdraft
  · intro older infos location
    exact (forall₂_preparePipelines knowsModules_any (first.run older).state infos location).imp
      fun _ _ ↦ describes_of_draftFate
  · intro operation recording hrecording
    exact exists_post_of_mem_recordings List.not_mem_nil hrecording

/-- One of two pipelines with the same code is destroyed, and the other one is found. -/
theorem registry_perm_survivors_one_destroyed :
    let settings : Settings := { cacheInstrumentedShaders := false }
    let first : Session (Simulation.platform false {}) := start settings {} [] []
    let hooks := twoGuardedPipelines ++ [.pipelineDestroyed ⟨8⟩]
    (∀ hook ∈ hooks, hook.namesObject = true) ∧
      (collect attempts first hooks).length < UInt32.size ∧
      (first.run hooks).state.registry.entries.Perm
        [(Registration.stage 1 ⟨7⟩ none guardedAccess).entry] := by
  intro settings first hooks
  have hobjects : ∀ hook ∈ hooks, hook.namesObject = true := by decide
  have hfew : (collect attempts first hooks).length < UInt32.size := by decide +kernel
  have hsurvivors : survivors (collect registryEvents first hooks) =
      [Registration.stage 1 ⟨7⟩ none guardedAccess] := by decide +kernel
  have hfirst : (start settings {} [] [] : Session (Simulation.platform false {})) = first := rfl
  have hall := registry_perm_survivors (P := Simulation.platform false {}) settings rfl {} [] []
    hooks hobjects
  rw [hfirst] at hall
  obtain ⟨hperm, -⟩ := hall hfew
  rw [hsurvivors, List.map_singleton] at hperm
  exact ⟨hobjects, hfew, hperm⟩

end Session

end ShaderGuard
