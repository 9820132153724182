import ShaderGuard.Proofs.CounterIdentifiers
import ShaderGuard.Proofs.LastingCode
import ShaderGuard.Proofs.StageTurns

/-!
# Attempts are numbered in their order

Where instrumented code is not kept for use again, the identifier of an attempt is its number among
all attempts since the start, counted from one and up to the wrap of a word, whatever comes of it.
Which attempts there are is told hook by hook: they are made on what is sought in the shaders of a
call, in order (`Session.OffersSought`), each in the turn of its stage or shader object
(`Session.InTurns`), and the tools are called for nothing else
(`Instrumentor.AttemptsCall`). Nothing but an attempt moves the counter, and where instrumented code
is kept it never moves (`Session.attempts_numbered`).
-/

set_option autoImplicit false

namespace ShaderGuard

open Bytecode (ShaderId hasMagic)

/-! ### Numbers of a word -/

theorem length_countedFrom (next : ShaderId) (count : Nat) :
    (countedFrom next count).length = count := by
  unfold countedFrom
  rw [List.length_map, List.length_range]

/-- The number at a place in a count from one is the place, up to the wrap of a word. -/
theorem toNat_countedFrom_one {count index : Nat} {id : ShaderId}
    (h : (countedFrom 1 count)[index]? = some id) : id.toNat = (index + 1) % 2 ^ 32 := by
  unfold countedFrom at h
  rw [List.getElem?_map] at h
  obtain ⟨place, hplace, rfl⟩ := Option.map_eq_some_iff.mp h
  obtain ⟨_, rfl⟩ := List.getElem?_eq_some_iff.mp hplace
  rw [List.getElem_range, UInt32.toNat_add, UInt32.toNat_ofNat']
  show (1 + index % 2 ^ 32) % 2 ^ 32 = _
  omega

/-- A window on numbers that are counted is counted. -/
theorem exists_countedFrom_of_infix {next : ShaderId} {count : Nat} {window : List ShaderId}
    (h : window <:+: countedFrom next count) :
    ∃ first, window = countedFrom first window.length := by
  obtain ⟨older, newer, hsplit⟩ := h
  have hcount : count = older.length + window.length + newer.length := by
    have hlength := congrArg List.length hsplit
    simp only [List.length_append, length_countedFrom] at hlength
    exact hlength.symm
  rw [hcount, countedFrom_add, countedFrom_add] at hsplit
  obtain ⟨hfirst, -⟩ := List.append_inj hsplit (by
    rw [List.length_append, List.length_append, length_countedFrom, length_countedFrom])
  obtain ⟨-, hwindow⟩ := List.append_inj hfirst (by rw [length_countedFrom])
  exact ⟨_, hwindow⟩

variable {P : Platform}

namespace Instrumentor

/-- How a piece of code goes with the counter, where instrumented code is not kept: on a device that
is set up, while shaders are rewritten, code that a shader begins with consumes a number, whatever
comes of it, and its words have this number. Any other code is left alone. -/
def CountsCode (s : Instrumentor P) (code : Code) : Prop :=
  ∀ bindless location,
    let attempt := s.instrumentCode code bindless location
    if s.resources.isSome && s.isInstrumenting && hasMagic code then
      attempt.2.nextId = s.nextId + 1 ∧ ∀ made, attempt.1 = some made → made.id = s.nextId
    else attempt = (none, s)

theorem countsCode {s : Instrumentor P} (hcounts : s.settings.cacheInstrumentedShaders = false)
    (code : Code) : s.CountsCode code := by
  intro bindless location attempt
  split
  · next hgate =>
    refine ⟨?_, fun made hmade ↦ ?_⟩
    · show (s.instrumentCode code bindless location).2.nextId = s.nextId + 1
      rw [nextId_instrumentCode, if_pos hgate, identify_of_counts hcounts]
    · have hattempt := codeAttempts_of_made hmade
      unfold codeAttempts at hattempt
      rw [if_pos hgate, identify_of_counts hcounts] at hattempt
      exact (congrArg Attempt.id (List.cons.inj hattempt).1).symm
  · next hgate => exact instrumentCode_of_spared (Bool.eq_false_iff.mpr hgate) bindless location

end Instrumentor

namespace Session

open Instrumentor

/-- The attempts of a hook, and how the hook moves the counter. -/
structure CountsAttempts (t : Session P.observed) (hook : Hook) : Prop where
  sought : t.OffersSought hook
  turns : t.InTurns hook
  calls : AttemptsCall t.state (t.attempts hook) (t.step hook).state
  counter : (t.step hook).state.nextId =
    if t.state.settings.cacheInstrumentedShaders then t.state.nextId
    else t.state.nextId + UInt32.ofNat (t.attempts hook).length

theorem countsAttempts_step (t : Session P.observed) (hook : Hook) : t.CountsAttempts hook := by
  refine ⟨t.offersSought_step hook, t.inTurns_step hook, t.attemptsCall_step hook, ?_⟩
  cases hkeeps : t.state.settings.cacheInstrumentedShaders with
  | true => exact (t.step_of_rewrites neverCounts_of_rewrites (fun hsettings hnext _ ↦
      ⟨hsettings, hnext⟩) hook hkeeps).2
  | false =>
    exact (t.step_of_rewrites (countsOn_of_rewrites hkeeps) countsOn_of_nextId hook rfl).2.2

/-- In every run from the start, on a platform that is observed, with whatever settings:

Where instrumented code is not kept for use again, the identifier of the `i`-th attempt, counted
from one, is `i` up to the wrap of a word, and the attempts in any window of `2 ^ 32` have different
identifiers. Where it is kept the counter never moves. In every state that is reached, each hook
makes its attempts on what is sought in its shaders and moves the counter by their number; and in
every state whatever, a piece of code consumes a number if and only if it is attempted on. -/
theorem attempts_numbered (settings : Settings) (device : P.observed.DeviceState)
    (tools : P.observed.ToolState) (storage : P.observed.StorageState) (hooks : List Hook) :
    let first : Session P.observed := start settings device tools storage
    let noted := collect attempts first hooks
    let t := first.run hooks
    (settings.cacheInstrumentedShaders = false →
      (∀ index attempt, noted[index]? = some attempt →
        attempt.id.toNat = (index + 1) % 2 ^ 32) ∧
      t.state.nextId.toNat = (noted.length + 1) % 2 ^ 32 ∧
      ∀ window, window <:+: noted → window.length ≤ 2 ^ 32 → (window.map Attempt.id).Nodup) ∧
    (settings.cacheInstrumentedShaders = true → t.state.nextId = first.state.nextId) ∧
    (∀ hook, t.CountsAttempts hook) ∧
    ∀ s : Instrumentor P.observed, s.settings.cacheInstrumentedShaders = false →
      ∀ code, s.CountsCode code := by
  intro first noted t
  refine ⟨fun hcounts ↦ ?_, fun hkeeps ↦ ?_, t.countsAttempts_step, fun s ↦ countsCode⟩
  · obtain ⟨-, hids, hnext⟩ := countsOn_run hcounts first hooks rfl
    change noted.map Attempt.id = countedFrom 1 noted.length at hids
    change t.state.nextId = 1 + UInt32.ofNat noted.length at hnext
    refine ⟨fun index attempt hattempt ↦ ?_, ?_, fun window hwindow hfew ↦ ?_⟩
    · have hplace : (countedFrom 1 noted.length)[index]? = some attempt.id := by
        rw [← hids, List.getElem?_map, hattempt]
        rfl
      exact toNat_countedFrom_one hplace
    · rw [hnext, UInt32.toNat_add, UInt32.toNat_ofNat']
      show (1 + noted.length % 2 ^ 32) % 2 ^ 32 = _
      omega
    · have hinfix : window.map Attempt.id <:+: countedFrom 1 noted.length := by
        rw [← hids]
        exact hwindow.map Attempt.id
      obtain ⟨next, hcounted⟩ := exists_countedFrom_of_infix hinfix
      rw [hcounted, List.length_map]
      exact nodup_countedFrom next hfew
  · exact (run_of_rewrites neverCounts_of_rewrites (fun hsettings hnext _ ↦
      ⟨hsettings, hnext⟩) first hooks hkeeps).2

/-- A compute pipeline with some code in its stage. -/
def computeOf (code : Code) : PipelineInfo :=
  .compute
    { flags := .empty
      stage := ⟨.empty, .null, some code, some ⟨code, false⟩, "main"⟩
      layout := none
      activeSlots := .empty }

/-- Of three pipelines the first one has no shader's code, and the passes find nothing to do in that
of the second one. The number that the second one consumes is not given again. -/
theorem attempts_numbered_one_fruitless :
    let settings : Settings := { cacheInstrumentedShaders := false }
    let first : Session (Simulation.platform false {}).observed :=
      start settings ({}, []) ([], []) []
    let hooks : List Hook :=
      [.setUpDevice {},
        .preparePipelines [computeOf [0x10300], computeOf [0x07230203, 0x10300, 0, 16, 0],
          computeOf guardedAccess] "vkCreateComputePipelines",
        .prepareShaderObjects [⟨.empty, guardedAccess, [], false, "main"⟩] "vkCreateShadersEXT"]
    let noted := collect attempts first hooks
    settings.cacheInstrumentedShaders = false ∧
      noted.map (fun attempt ↦ (attempt.id, attempt.made.isSome)) =
        [(1, false), (2, true), (3, true)] ∧
      (first.run hooks).state.nextId.toNat = 4 ∧ (noted.map Attempt.id).Nodup := by
  intro settings first hooks noted
  have hnoted : noted.map (fun attempt ↦ (attempt.id, attempt.made.isSome)) =
      [(1, false), (2, true), (3, true)] := by decide +kernel
  have hcount : (collect attempts first hooks).length = 3 := by
    have hlength := congrArg List.length hnoted
    rwa [List.length_map] at hlength
  have hfirst : (start settings ({}, []) ([], []) [] :
      Session (Simulation.platform false {}).observed) = first := rfl
  have hall := attempts_numbered (P := Simulation.platform false {}) settings ({}, []) ([], []) []
    hooks
  rw [hfirst] at hall
  obtain ⟨-, hnext, hwindows⟩ := hall.1 rfl
  have hfew : (collect attempts first hooks).length ≤ 2 ^ 32 := by omega
  exact ⟨rfl, hnoted, hnext.trans (by omega), hwindows _ List.infix_rfl hfew⟩

end Session

end ShaderGuard
