import ShaderGuard.Proofs.CachedCode
import ShaderGuard.Proofs.ToolCalls

/-!
# Instrumented code lasts

Where instrumented code is kept for use again, what was made of a piece of code is what every later
attempt on it gets, as long as the device is not torn down. The toolchain has no say in this: it may
answer otherwise when it is asked again, but it is not asked
(`Instrumentor.instrumentCode_of_kept`). No entry of the cache is replaced, because words are put
there only where none were found; code with the same fingerprint gets what is there.

Each attempt is told with the calls to the tools that it makes (`AttemptWork`), and all calls of a
run are told in this way (`Session.attemptsCall_step`). The relation that is followed along a run is
that the attempts go together with the cache (`Instrumentor.GoesWithCache`): what the cache has from
the start serves an attempt, and what an attempt makes is in the cache from then on.
`Session.kept_code_lasts` is the result for whole runs.
-/

set_option autoImplicit false

namespace ShaderGuard

open Bytecode (ShaderId hasMagic fingerprint)

/-! ### Attempts and their calls -/

/-- An attempt, with the calls to the tools that it makes. -/
structure AttemptWork (Module : Type) where
  attempt : Attempt
  calls : List (ToolCall Module)

namespace AttemptWork

variable {Module : Type}

/-- That the calls of an attempt are those of one run of the passes on its code, if there are
any. -/
def RunsOnce (work : AttemptWork Module) : Prop :=
  work.calls = [] ∨ ∃ plan outcome, PassPlan.Ran Module plan work.attempt.code work.attempt.id
    work.attempt.bindless work.calls outcome

/-- That what one attempt has made serves a later one on the same code: it is the same words under
the same identifier, and no tool is called. -/
def Serves (first later : AttemptWork Module) : Prop :=
  ∀ words, first.attempt.made = some words → later.attempt.code = first.attempt.code →
    later.attempt.id = first.attempt.id ∧ later.attempt.made = some words ∧ later.calls = []

end AttemptWork

variable {P : Platform}

namespace Instrumentor

/-! ### Code that was kept -/

/-- What is logged of code whose instrumented words are found in the cache. -/
def foundEntry (id : ShaderId) : Entry :=
  .plain .debug source s!"Shader {id.toNat} found in instrumentation cache"

/-- Assumes: settings that keep instrumented code, on a device that is set up while shaders are
being rewritten. Code whose words were kept is served with them, and no more is done than to log
it. -/
theorem instrumentCode_of_kept {s : Instrumentor P}
    (hkeeps : s.settings.cacheInstrumentedShaders = true) (hready : s.resources.isSome = true)
    (hactive : s.isInstrumenting = true) {code words : Code} (hmagic : hasMagic code = true)
    (hkept : s.cache.get? (fingerprint code) = some words) (bindless : Bool) (location : String) :
    s.instrumentCode code bindless location =
      (some ⟨fingerprint code, words⟩, s.record (foundEntry (fingerprint code))) := by
  obtain ⟨resources, hresources⟩ := Option.isSome_iff_exists.mp hready
  have hcached : s.cached? (fingerprint code) = some words :=
    (cached?_of_keeps hkeeps _).trans hkept
  unfold instrumentCode
  simp only [hresources, hactive, hmagic, Bool.and_self, if_true, identify_of_keeps hkeeps,
    hcached]
  rfl

/-- That no entry of the cache is changed or removed between two states, and that a device that is
set up stays so. -/
structure CacheLasts (s t : Instrumentor P) : Prop where
  settings : t.settings = s.settings
  ready : s.resources.isSome = true → t.resources.isSome = true
  entries : ∀ id words, s.cache.get? id = some words → t.cache.get? id = some words

namespace CacheLasts

theorem of_cache_eq {s t : Instrumentor P} (hsettings : t.settings = s.settings)
    (hready : s.resources.isSome = true → t.resources.isSome = true) (hcache : t.cache = s.cache) :
    CacheLasts s t := by
  refine ⟨hsettings, hready, fun id words hkept ↦ ?_⟩
  rw [hcache]
  exact hkept

theorem of_sameSupplies {s t : Instrumentor P} (h : SameSupplies s t) : CacheLasts s t := by
  refine .of_cache_eq h.settings (fun hready ↦ ?_) h.cache
  rw [h.resources]
  exact hready

theorem refl (s : Instrumentor P) : CacheLasts s s := .of_sameSupplies (.refl s)

theorem trans {s t u : Instrumentor P} (hst : CacheLasts s t) (htu : CacheLasts t u) :
    CacheLasts s u :=
  ⟨htu.settings.trans hst.settings, fun hready ↦ htu.ready (hst.ready hready),
    fun id words hkept ↦ htu.entries id words (hst.entries id words hkept)⟩

/-- Words that are kept where none were found take the place of none. -/
theorem of_insert {s t : Instrumentor P} (hsettings : t.settings = s.settings)
    (hresources : t.resources = s.resources) {id : ShaderId} {words : Code}
    (hnew : s.cache.get? id = none) (hcache : t.cache = s.cache.insert id words) :
    CacheLasts s t := by
  refine ⟨hsettings, fun hready ↦ by rwa [hresources], fun other kept hkept ↦ ?_⟩
  have hne : id ≠ other := by
    rintro rfl
    rw [hnew] at hkept
    cases hkept
  rw [hcache, Table.get?_insert_of_ne _ _ hne]
  exact hkept

theorem reserves : Reserves (P := P) CacheLasts where
  refl := refl
  trans := trans
  destroySetLayout _ _ := .of_sameSupplies ⟨rfl, rfl, rfl, rfl⟩
  destroyPipelineLayout _ _ := .of_sameSupplies ⟨rfl, rfl, rfl, rfl⟩
  createSetLayout _ _ := .of_sameSupplies ⟨rfl, rfl, rfl, rfl⟩
  createPipelineLayout _ _ := .of_sameSupplies ⟨rfl, rfl, rfl, rfl⟩
  internalError _ _ _ := .of_sameSupplies ⟨rfl, rfl, rfl, rfl⟩

/-- A setup replaces what is set up on the device, or leaves it as it is. -/
theorem setUpDevice (s : Instrumentor P) (capabilities : Capabilities) :
    CacheLasts s (s.setUpDevice capabilities).2 :=
  reserves.setUpDevice (fun _ _ _ _ ↦ .of_cache_eq rfl (fun _ ↦ rfl) rfl) s capabilities

end CacheLasts

/-! ### Attempts go together with the cache -/

/-- That the attempts between two states, with all calls to the tools between them, go together with
the cache. -/
structure GoesWithCache (s : Instrumentor P.observed) (works : List (AttemptWork P.tools.Module))
    (t : Instrumentor P.observed) : Prop extends CacheLasts s t where
  uses : s.Uses (works.flatMap AttemptWork.calls) t.toWorkbench
  runsOnce : ∀ work ∈ works, work.RunsOnce
  fingerprints : ∀ work ∈ works, work.attempt.id = fingerprint work.attempt.code
  /-- What the cache has from the start serves an attempt. -/
  found : ∀ work ∈ works, ∀ words, s.cache.get? work.attempt.id = some words →
    work.attempt.made = some words ∧ work.calls = []
  /-- What an attempt makes is in the cache from then on. -/
  kept : ∀ work ∈ works, ∀ words, work.attempt.made = some words →
    t.cache.get? work.attempt.id = some words
  /-- Attempts that make words find a device that is set up, and code that is a shader's. -/
  sound : ∀ work ∈ works, t.resources.isSome = true ∧ hasMagic work.attempt.code = true
  serves : works.Pairwise AttemptWork.Serves

namespace GoesWithCache

variable {s t u : Instrumentor P.observed} {first second : List (AttemptWork P.tools.Module)}

/-- Where nothing is attempted and no tool is called. -/
theorem of_tools_eq (hlasts : CacheLasts s t) (htools : t.tools = s.tools) :
    GoesWithCache s [] t where
  toCacheLasts := hlasts
  uses := Workbench.uses_of_tools_eq htools
  runsOnce _ hwork := absurd hwork List.not_mem_nil
  fingerprints _ hwork := absurd hwork List.not_mem_nil
  found _ hwork := absurd hwork List.not_mem_nil
  kept _ hwork := absurd hwork List.not_mem_nil
  sound _ hwork := absurd hwork List.not_mem_nil
  serves := List.Pairwise.nil

theorem trans (hst : GoesWithCache s first t) (htu : GoesWithCache t second u) :
    GoesWithCache s (first ++ second) u where
  toCacheLasts := hst.toCacheLasts.trans htu.toCacheLasts
  uses := by
    rw [List.flatMap_append]
    exact Workbench.chains_uses.trans hst.uses htu.uses
  runsOnce := List.forall_mem_append.mpr ⟨hst.runsOnce, htu.runsOnce⟩
  fingerprints := List.forall_mem_append.mpr ⟨hst.fingerprints, htu.fingerprints⟩
  found := by
    refine List.forall_mem_append.mpr ⟨hst.found, fun work hwork words hkept ↦ ?_⟩
    exact htu.found work hwork words (hst.entries _ words hkept)
  kept := by
    refine List.forall_mem_append.mpr ⟨fun work hwork words hmade ↦ ?_, htu.kept⟩
    exact htu.entries _ words (hst.kept work hwork words hmade)
  sound := by
    refine List.forall_mem_append.mpr ⟨fun work hwork ↦ ?_, htu.sound⟩
    exact ⟨htu.ready (hst.sound work hwork).1, (hst.sound work hwork).2⟩
  serves := by
    refine List.pairwise_append.mpr ⟨hst.serves, htu.serves, ?_⟩
    -- What was made in the first part is in the cache when the second part begins.
    intro earlier hearlier later hlater words hmade hcode
    have hid : later.attempt.id = earlier.attempt.id := by
      rw [htu.fingerprints later hlater, hcode, hst.fingerprints earlier hearlier]
    have hkept := hst.kept earlier hearlier words hmade
    rw [← hid] at hkept
    exact ⟨hid, htu.found later hlater words hkept⟩

/-- A single attempt. -/
theorem single {work : AttemptWork P.tools.Module} (hlasts : CacheLasts s t)
    (huses : s.Uses work.calls t.toWorkbench) (hruns : work.RunsOnce)
    (hid : work.attempt.id = fingerprint work.attempt.code)
    (hfound : ∀ words, s.cache.get? work.attempt.id = some words →
      work.attempt.made = some words ∧ work.calls = [])
    (hkept : ∀ words, work.attempt.made = some words →
      t.cache.get? work.attempt.id = some words)
    (hsound : t.resources.isSome = true ∧ hasMagic work.attempt.code = true) :
    GoesWithCache s [work] t where
  toCacheLasts := hlasts
  uses := by rwa [List.flatMap_singleton]
  runsOnce := by rwa [List.forall_mem_singleton]
  fingerprints := by rwa [List.forall_mem_singleton]
  found := by rwa [List.forall_mem_singleton]
  kept := by rwa [List.forall_mem_singleton]
  sound := by rwa [List.forall_mem_singleton]
  serves := List.pairwise_singleton _ _

end GoesWithCache

/-- The calls of an attempt are those of one run of the passes, or there are none. -/
theorem CodeWork.ran {s t : Instrumentor P.observed} {code : Code} {bindless : Bool}
    {calls : List (ToolCall P.tools.Module)} {result : Option InstrumentedCode}
    (h : CodeWork s code bindless calls result t) :
    calls = [] ∨ ∃ plan outcome,
      PassPlan.Ran P.tools.Module plan code (s.identify code).1 bindless calls outcome := by
  cases h with
  | spared => exact Or.inl rfl
  | found _ _ _ => exact Or.inl rfl
  | made _ _ hran _ _ => exact Or.inr ⟨_, _, hran⟩
  | unmodified _ _ hran _ _ => exact Or.inr ⟨_, _, hran⟩
  | failed _ _ hran _ _ => exact Or.inr ⟨_, _, hran⟩

/-- That attempts are told with the calls to the tools that are made between two states: no call is
left out, and those of an attempt are those of one run of the passes, if there are any. -/
def AttemptsCall (s : Instrumentor P.observed) (attempts : List Attempt)
    (t : Instrumentor P.observed) : Prop :=
  ∃ works : List (AttemptWork P.tools.Module), works.map AttemptWork.attempt = attempts ∧
    s.Uses (works.flatMap AttemptWork.calls) t.toWorkbench ∧ ∀ work ∈ works, work.RunsOnce

namespace AttemptsCall

theorem of_tools_eq {s t : Instrumentor P.observed} (htools : t.tools = s.tools) :
    AttemptsCall s [] t :=
  ⟨[], rfl, Workbench.uses_of_tools_eq htools, fun _ hwork ↦ absurd hwork List.not_mem_nil⟩

theorem trans {s t u : Instrumentor P.observed} {first second : List Attempt}
    (hst : AttemptsCall s first t) (htu : AttemptsCall t second u) :
    AttemptsCall s (first ++ second) u := by
  obtain ⟨works, rfl, hused, hruns⟩ := hst
  obtain ⟨more, rfl, hfurther, hothers⟩ := htu
  refine ⟨works ++ more, List.map_append, ?_, List.forall_mem_append.mpr ⟨hruns, hothers⟩⟩
  rw [List.flatMap_append]
  exact Workbench.chains_uses.trans hused hfurther

theorem instrumentCode (s : Instrumentor P.observed) (code : Code) (bindless : Bool)
    (location : String) :
    AttemptsCall s (s.codeAttempts code bindless location)
      (s.instrumentCode code bindless location).2 := by
  unfold codeAttempts
  by_cases hgate : (s.resources.isSome && s.isInstrumenting && hasMagic code) = true
  · obtain ⟨calls, hwork, hused⟩ := exists_codeWork s code bindless location
    rw [if_pos hgate]
    refine ⟨[⟨_, calls⟩], rfl, ?_, List.forall_mem_singleton.mpr hwork.ran⟩
    rwa [List.flatMap_singleton]
  · rw [if_neg hgate, instrumentCode_of_spared (Bool.eq_false_iff.mpr hgate)]
    exact .of_tools_eq rfl

theorem rewrites : Rewrites (P := P.observed) AttemptsCall where
  refl _ := .of_tools_eq rfl
  trans := AttemptsCall.trans
  record _ _ := .of_tools_eq rfl
  internalError _ _ _ := .of_tools_eq rfl
  createModule _ _ := .of_tools_eq rfl
  createLibrary _ _ := .of_tools_eq rfl
  instrumentCode := AttemptsCall.instrumentCode

end AttemptsCall

/-- Between two states that keep instrumented code, that the attempts go together with the cache if
they are told with their calls. -/
def AttemptsGoWithCache (s : Instrumentor P.observed) (attempts : List Attempt)
    (t : Instrumentor P.observed) : Prop :=
  s.settings.cacheInstrumentedShaders = true →
    ∃ works, works.map AttemptWork.attempt = attempts ∧ GoesWithCache s works t

namespace AttemptsGoWithCache

theorem of_tools_eq {s t : Instrumentor P.observed} (hlasts : CacheLasts s t)
    (htools : t.tools = s.tools) : AttemptsGoWithCache s [] t :=
  fun _ ↦ ⟨[], rfl, .of_tools_eq hlasts htools⟩

theorem trans {s t u : Instrumentor P.observed} {first second : List Attempt}
    (hst : AttemptsGoWithCache s first t) (htu : AttemptsGoWithCache t second u) :
    AttemptsGoWithCache s (first ++ second) u := by
  intro hkeeps
  obtain ⟨works, rfl, hfirst⟩ := hst hkeeps
  rw [← hfirst.settings] at hkeeps
  obtain ⟨more, rfl, hsecond⟩ := htu hkeeps
  exact ⟨works ++ more, List.map_append, hfirst.trans hsecond⟩

theorem instrumentCode (s : Instrumentor P.observed) (code : Code) (bindless : Bool)
    (location : String) :
    AttemptsGoWithCache s (s.codeAttempts code bindless location)
      (s.instrumentCode code bindless location).2 := by
  intro hkeeps
  have hidentify : (s.identify code).1 = fingerprint code :=
    congrArg Prod.fst (identify_of_keeps hkeeps code)
  by_cases hgate : (s.resources.isSome && s.isInstrumenting && hasMagic code) = true
  · obtain ⟨hdevice, hmagic⟩ := Bool.and_eq_true_iff.mp hgate
    obtain ⟨hready, hactive⟩ := Bool.and_eq_true_iff.mp hdevice
    obtain ⟨resources, hresources⟩ := Option.isSome_iff_exists.mp hready
    obtain ⟨calls, hwork, hused⟩ := exists_codeWork s code bindless location
    have hran := hwork.ran
    have hthere : (s.instrumentCode code bindless location).2.resources.isSome = true := by
      rw [resources_instrumentCode]
      exact hready
    unfold codeAttempts
    rw [if_pos hgate, hidentify]
    rw [hidentify] at hran
    cases hfound : s.cache.get? (fingerprint code) with
    | some words =>
      rw [instrumentCode_of_kept hkeeps hready hactive hmagic hfound]
      refine ⟨[⟨_, []⟩], rfl, .single (.of_sameSupplies ⟨rfl, rfl, rfl, rfl⟩) rfl (Or.inl rfl) rfl
        (fun kept hkept ↦ ⟨?_, rfl⟩) (fun made hmade ↦ ?_) ⟨hready, hmagic⟩⟩
      · exact (hfound.symm.trans hkept)
      · exact hfound.trans hmade
    | none =>
      refine ⟨[⟨_, calls⟩], rfl, ?_⟩
      have hnone : ∀ words, s.cache.get? (fingerprint code) ≠ some words := by
        intro words hkept
        rw [hfound] at hkept
        cases hkept
      have hattempt := keptAttempt_instrumentCode hresources hkeeps
        (Bool.and_eq_true_iff.mpr ⟨hactive, hmagic⟩) bindless location
      generalize s.instrumentCode code bindless location = result at hattempt hused hthere ⊢
      cases hattempt with
      | found words t hkept hsame => exact absurd hkept (hnone words)
      | made words t hnew hpasses hsame hsettings hcache =>
        refine .single (.of_insert hsettings hsame hnew hcache) hused hran rfl
          (fun kept hkept ↦ absurd hkept (hnone kept)) (fun kept hmade ↦ ?_) ⟨hthere, hmagic⟩
        show t.cache.get? (fingerprint code) = some kept
        rw [hcache, Table.get?_insert_self]
        exact hmade
      | refused t hsame =>
        exact .single (.of_sameSupplies hsame) hused hran rfl
          (fun kept hkept ↦ absurd hkept (hnone kept)) (fun kept hmade ↦ nomatch hmade)
          ⟨hthere, hmagic⟩
  · unfold codeAttempts
    rw [if_neg hgate, instrumentCode_of_spared (Bool.eq_false_iff.mpr hgate)]
    exact ⟨[], rfl, .of_tools_eq (.refl s) rfl⟩

theorem rewrites : Rewrites (P := P.observed) AttemptsGoWithCache where
  refl s := .of_tools_eq (.refl s) rfl
  trans := AttemptsGoWithCache.trans
  record _ _ := .of_tools_eq (.of_sameSupplies ⟨rfl, rfl, rfl, rfl⟩) rfl
  internalError _ _ _ := .of_tools_eq (.of_sameSupplies ⟨rfl, rfl, rfl, rfl⟩) rfl
  createModule _ _ := .of_tools_eq (.of_sameSupplies ⟨rfl, rfl, rfl, rfl⟩) rfl
  createLibrary _ _ := .of_tools_eq (.of_sameSupplies ⟨rfl, rfl, rfl, rfl⟩) rfl
  instrumentCode := AttemptsGoWithCache.instrumentCode

end AttemptsGoWithCache

end Instrumentor

namespace Session

open Instrumentor

/-- All calls of a hook to the tools are made for its attempts. -/
theorem attemptsCall_step (t : Session P.observed) (hook : Hook) :
    AttemptsCall t.state (t.attempts hook) (t.step hook).state := by
  cases hook with
  | preparePipelines infos location =>
    exact AttemptsCall.rewrites.preparePipelines t.state infos location
  | prepareShaderObjects infos call =>
    exact AttemptsCall.rewrites.prepareShaderObjects t.state infos call
  | _ => exact .of_tools_eq (tools_step t rfl)

/-- Hooks other than a teardown attempt to instrument code as the cache has it. -/
theorem attemptsGoWithCache_step (t : Session P.observed) {hook : Hook}
    (hdevice : hook ≠ .tearDownDevice) :
    AttemptsGoWithCache t.state (t.attempts hook) (t.step hook).state := by
  by_cases hsupplies : hook.leavesSupplies = true
  · have hprepares : hook.preparesShaders = false := by
      cases hook <;> first | rfl | cases hsupplies
    have hnone : t.attempts hook = [] := by
      cases hook <;> first | rfl | cases hsupplies
    rw [hnone]
    exact .of_tools_eq (.of_sameSupplies (sameSupplies_step t hsupplies)) (tools_step t hprepares)
  · cases hook with
    | preparePipelines infos location =>
      exact AttemptsGoWithCache.rewrites.preparePipelines t.state infos location
    | prepareShaderObjects infos call =>
      exact AttemptsGoWithCache.rewrites.prepareShaderObjects t.state infos call
    | setUpDevice capabilities =>
      have htools : (t.step (.setUpDevice capabilities)).state.tools = t.state.tools :=
        tools_step t rfl
      exact .of_tools_eq (.setUpDevice t.state capabilities) htools
    | tearDownDevice => exact absurd rfl hdevice
    | _ => exact absurd rfl hsupplies

/-- Assumes: settings that keep instrumented code, and a run in which the device is not torn down,
from any state and with a toolchain that need not answer twice in the same way.

No entry of the cache is changed or removed. All calls to the tools are those of the attempts, each
of which runs the passes once at most; and where an attempt has made words of some code, every later
attempt on this code gets the same words under the same identifier, without a call. Behind the run,
as long as shaders are being rewritten, every further attempt on the code does. -/
theorem kept_code_lasts (t : Session P.observed)
    (hkeeps : t.state.settings.cacheInstrumentedShaders = true) (hooks : List Hook)
    (hdevice : .tearDownDevice ∉ hooks) :
    let s := (t.run hooks).state
    (∀ id words, t.state.cache.get? id = some words → s.cache.get? id = some words) ∧
      (∃ works : List (AttemptWork P.tools.Module),
        works.map AttemptWork.attempt = collect attempts t hooks ∧
        t.state.Uses (works.flatMap AttemptWork.calls) s.toWorkbench ∧
        (∀ work ∈ works, work.RunsOnce) ∧ works.Pairwise AttemptWork.Serves) ∧
      ∀ attempt ∈ collect attempts t hooks, ∀ words, attempt.made = some words →
        s.isInstrumenting = true → ∀ bindless location,
          s.instrumentCode attempt.code bindless location =
            (some ⟨attempt.id, words⟩, s.record (foundEntry attempt.id)) := by
  intro s
  have hchains : Chains fun (t : Session P.observed) attempts u ↦
      AttemptsGoWithCache t.state attempts u.state :=
    ⟨fun t ↦ AttemptsGoWithCache.rewrites.refl t.state, AttemptsGoWithCache.trans⟩
  have hstep : ∀ (t : Session P.observed) (hook : Hook), hook ≠ .tearDownDevice →
      AttemptsGoWithCache t.state (t.attempts hook) (t.step hook).state :=
    fun t _ hother ↦ attemptsGoWithCache_step t hother
  have hothers : ∀ hook ∈ hooks, hook ≠ .tearDownDevice := by
    rintro hook hmem rfl
    exact hdevice hmem
  obtain ⟨works, hattempts, hgoes⟩ := chains_run hchains hstep t hooks hothers hkeeps
  refine ⟨hgoes.entries, ⟨works, hattempts, hgoes.uses, hgoes.runsOnce, hgoes.serves⟩, ?_⟩
  intro attempt hattempt words hmade hactive bindless location
  rw [← hattempts] at hattempt
  obtain ⟨work, hwork, rfl⟩ := List.mem_map.mp hattempt
  obtain ⟨hready, hmagic⟩ := hgoes.sound work hwork
  have hkept := hgoes.kept work hwork words hmade
  have hsettings : s.settings.cacheInstrumentedShaders = true := by
    rw [hgoes.settings]
    exact hkeeps
  rw [hgoes.fingerprints work hwork] at hkept ⊢
  exact instrumentCode_of_kept hsettings hready hactive hmagic hkept bindless location

/-- A toolchain that never writes the same twice: it puts the number of its writings behind the
code. -/
def waveringWriter : Toolchain UInt32 where
  Module := Code
  load code _ written := (.ok code, written)
  run _ module written := (true, module, written)
  linkFunctions module written := (module, written)
  postProcess module written := (module, written)
  serialize module written := (module ++ [written], written + 1)
  validate _ _ _ written := (.ok (), written)
  eliminateDeadCode code _ written := (.ok code, [], written)

/-- A platform in memory with this toolchain, and with files that are thrown away. -/
abbrev wavering : Platform :=
  { DeviceState := Simulation.World
    device := Simulation.World.device
    ToolState := UInt32
    tools := waveringWriter
    StorageState := Unit
    storage := ⟨fun _ _ _ ↦ (.ok (), ())⟩ }

/-- Two pipelines have the same code. The second gets the words of the first, and so does whatever
comes behind them, though the toolchain would write others by then. -/
theorem kept_code_lasts_wavering :
    let t : Session wavering.observed := setUp {} ({}, []) (0, []) () {}
    let hooks : List Hook :=
      [.preparePipelines [magicCompute false] "vkCreateComputePipelines",
        .preparePipelines [magicCompute true] "vkCreateComputePipelines"]
    let s := (t.run hooks).state
    let id := fingerprint [0x07230203]
    .tearDownDevice ∉ hooks ∧ s.tools.1 = 1 ∧
      collect attempts t hooks =
        [⟨id, [0x07230203], false, some [0x07230203, 0]⟩,
          ⟨id, [0x07230203], true, some [0x07230203, 0]⟩] ∧
      s.instrumentCode [0x07230203] true "vkCreateComputePipelines" =
        (some ⟨id, [0x07230203, 0]⟩, s.record (foundEntry id)) := by
  intro t hooks s id
  have hdevice : .tearDownDevice ∉ hooks := by simp [hooks]
  have hactive : s.isInstrumenting = true := by decide +kernel
  have hattempts : collect attempts t hooks =
      [⟨id, [0x07230203], false, some [0x07230203, 0]⟩,
        ⟨id, [0x07230203], true, some [0x07230203, 0]⟩] := by decide +kernel
  obtain ⟨-, -, hbehind⟩ := kept_code_lasts (P := wavering) t rfl hooks hdevice
  rw [hattempts] at hbehind
  exact ⟨hdevice, by decide +kernel, hattempts,
    hbehind _ List.mem_cons_self [0x07230203, 0] rfl hactive true "vkCreateComputePipelines"⟩

end Session

end ShaderGuard
