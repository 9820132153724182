import ShaderGuard.Proofs.Audit
import ShaderGuard.Proofs.Determinism
import ShaderGuard.Proofs.Frame
import ShaderGuard.Simulation.World

/-!
# Instrumented code from the cache

Where instrumented code is kept for use again, it is kept under the fingerprint of the code that the
application gave, and under nothing else. The passes are told more than that: whether the layout has
a bindless set. Code that is used with layouts of both kinds is therefore instrumented for the kind
it was used with first (`served_by_first_use`), which is right for a later use exactly if the passes
make the same of it for both kinds.

The proof follows the cache along a run (`CacheFollows`): it knows exactly the code on which an
attempt has succeeded, and holds what the first such attempt made.
-/

set_option autoImplicit false

namespace ShaderGuard

open Bytecode (ShaderId hasMagic fingerprint)

/-! ### First uses -/

/-- For which kind of layout a piece of code was instrumented first, if at all. -/
def firstBindless (attempts : List Attempt) (code : Code) : Option Bool :=
  (attempts.find? fun attempt ↦ attempt.code = code && attempt.made.isSome).map Attempt.bindless

theorem firstBindless_append (first second : List Attempt) (code : Code) :
    firstBindless (first ++ second) code =
      (firstBindless first code).or (firstBindless second code) := by
  unfold firstBindless
  rw [List.find?_append, Option.map_or]

/-- Later attempts do not change what the first one was. -/
theorem firstBindless_append_of_some {first : List Attempt} {code : Code} {bindless : Bool}
    (h : firstBindless first code = some bindless) (second : List Attempt) :
    firstBindless (first ++ second) code = some bindless := by
  rw [firstBindless_append, h, Option.some_or]

/-- An attempt counts for its own code, and only if it succeeds. -/
theorem firstBindless_singleton (attempt : Attempt) (code : Code) :
    firstBindless [attempt] code =
      if attempt.code = code ∧ attempt.made.isSome = true then some attempt.bindless else none := by
  unfold firstBindless
  by_cases h : attempt.code = code ∧ attempt.made.isSome = true
  · rw [if_pos h, List.find?_cons_of_pos (by simpa using h)]
    rfl
  · rw [if_neg h, List.find?_cons_of_neg (by simpa using h)]
    rfl

theorem firstBindless_concat_of_ne (attempts : List Attempt) {attempt : Attempt} {code : Code}
    (h : attempt.code ≠ code) :
    firstBindless (attempts ++ [attempt]) code = firstBindless attempts code := by
  rw [firstBindless_append, firstBindless_singleton, if_neg fun hsame ↦ h hsame.1,
    Option.or_none]

/-- The first attempt on its code that succeeds. -/
theorem firstBindless_concat_self {attempts : List Attempt} {attempt : Attempt}
    (hfirst : firstBindless attempts attempt.code = none) (hmade : attempt.made.isSome = true) :
    firstBindless (attempts ++ [attempt]) attempt.code = some attempt.bindless := by
  rw [firstBindless_append, hfirst, Option.none_or, firstBindless_singleton, if_pos ⟨rfl, hmade⟩]

/-- An attempt changes no first use if its code was used before, or if it fails. -/
theorem firstBindless_concat_of_known (attempts : List Attempt) (attempt : Attempt)
    (h : (firstBindless attempts attempt.code).isSome = true ∨ attempt.made = none)
    (code : Code) :
    firstBindless (attempts ++ [attempt]) code = firstBindless attempts code := by
  by_cases hcode : attempt.code = code
  · subst hcode
    rcases h with hknown | hfailed
    · obtain ⟨first, hfirst⟩ := Option.isSome_iff_exists.mp hknown
      rw [firstBindless_append_of_some hfirst, hfirst]
    · rw [firstBindless_append, firstBindless_singleton, if_neg fun hmade ↦ by
        rw [hfailed] at hmade
        exact Bool.false_ne_true hmade.2, Option.or_none]
  · exact firstBindless_concat_of_ne attempts hcode

variable {P : Platform}

/-- Whether some words are what the passes make of a piece of code. -/
def PassPlan.Makes (P : Platform) (plan : PassPlan) (code : Code) (id : ShaderId)
    (bindless : Bool) (words : Code) : Prop :=
  ∀ bench : Workbench P, (plan.run bench code id bindless).1 = .ok (.instrumented words)

/-! ### The cache along a run -/

namespace Instrumentor

/-- On a device that is set up and where instrumented code is kept, what the cache holds behind some
attempts, as far as code from `codes` is concerned. -/
structure CacheFollows (resources : DeviceResources) (settings : Settings) (codes : Code → Prop)
    (attempts : List Attempt) (s : Instrumentor P) : Prop where
  ready : s.resources = some resources
  same : s.settings = settings
  keeps : settings.cacheInstrumentedShaders = true
  unknown : ∀ code, codes code → firstBindless attempts code = none →
    s.cache.get? (fingerprint code) = none
  known : ∀ code bindless, codes code → firstBindless attempts code = some bindless →
    ∃ words, s.cache.get? (fingerprint code) = some words ∧
      (s.passPlan resources).Makes P code (fingerprint code) bindless words

/-- Whether an attempt was served with what the first use of its code was served with. -/
def ServedByFirst (P : Platform) (plan : PassPlan) (attempts : List Attempt) (attempt : Attempt) :
    Prop :=
  attempt.id = fingerprint attempt.code ∧ ∀ words, attempt.made = some words →
    ∃ bindless, firstBindless attempts attempt.code = some bindless ∧
      plan.Makes P attempt.code attempt.id bindless words

theorem ServedByFirst.append {plan : PassPlan} {first : List Attempt} {attempt : Attempt}
    (h : ServedByFirst P plan first attempt) (second : List Attempt) :
    ServedByFirst P plan (first ++ second) attempt := by
  refine ⟨h.1, fun words hwords ↦ ?_⟩
  obtain ⟨bindless, hfirst, hmakes⟩ := h.2 words hwords
  exact ⟨bindless, firstBindless_append_of_some hfirst second, hmakes⟩

section

variable {resources : DeviceResources} {settings : Settings} {codes : Code → Prop}

theorem CacheFollows.of_sameSupplies {attempts : List Attempt} {s t : Instrumentor P}
    (h : s.CacheFollows resources settings codes attempts) (hsame : SameSupplies s t) :
    t.CacheFollows resources settings codes attempts where
  ready := hsame.resources.trans h.ready
  same := hsame.settings.trans h.same
  keeps := h.keeps
  unknown code hcode hfirst := by
    rw [hsame.cache]
    exact h.unknown code hcode hfirst
  known code bindless hcode hfirst := by
    have hplan : t.passPlan resources = s.passPlan resources := by
      unfold passPlan
      rw [hsame.settings]
    rw [hsame.cache, hplan]
    exact h.known code bindless hcode hfirst

/-- Attempts that leave the first uses as they are need no other cache. -/
theorem CacheFollows.of_firstBindless {attempts more : List Attempt} {s : Instrumentor P}
    (h : s.CacheFollows resources settings codes attempts)
    (hfirst : ∀ code, firstBindless more code = firstBindless attempts code) :
    s.CacheFollows resources settings codes more where
  ready := h.ready
  same := h.same
  keeps := h.keeps
  unknown code hcode hmore := h.unknown code hcode ((hfirst code).symm.trans hmore)
  known code bindless hcode hmore := h.known code bindless hcode ((hfirst code).symm.trans hmore)

/-- Code is in the cache exactly if it has been used. -/
theorem CacheFollows.get?_eq_none_iff {attempts : List Attempt} {s : Instrumentor P}
    (h : s.CacheFollows resources settings codes attempts) {code : Code} (hcode : codes code) :
    s.cache.get? (fingerprint code) = none ↔ firstBindless attempts code = none := by
  refine ⟨fun hnone ↦ ?_, h.unknown code hcode⟩
  cases hfirst : firstBindless attempts code with
  | none => rfl
  | some first =>
    obtain ⟨known, hknown, -⟩ := h.known code first hcode hfirst
    rw [hnone] at hknown
    cases hknown

/-- What an attempt does on a device that is set up and where instrumented code is kept: it uses
what the cache has, or the passes are run and what they make is kept, or nothing comes of it. -/
inductive KeptAttempt (resources : DeviceResources) (s : Instrumentor P) (code : Code)
    (bindless : Bool) : Option InstrumentedCode × Instrumentor P → Prop where
  | found (words : Code) (t : Instrumentor P)
      (hfound : s.cache.get? (fingerprint code) = some words) (hsame : SameSupplies s t) :
      KeptAttempt resources s code bindless (some ⟨fingerprint code, words⟩, t)
  | made (words : Code) (t : Instrumentor P) (hnew : s.cache.get? (fingerprint code) = none)
      (hran : ((s.passPlan resources).run s.toWorkbench code (fingerprint code) bindless).1 =
        .ok (.instrumented words))
      (hready : t.resources = s.resources) (hsettings : t.settings = s.settings)
      (hcache : t.cache = s.cache.insert (fingerprint code) words) :
      KeptAttempt resources s code bindless (some ⟨fingerprint code, words⟩, t)
  | refused (t : Instrumentor P) (hsame : SameSupplies s t) :
      KeptAttempt resources s code bindless (none, t)

theorem keptAttempt_instrumentCode {s : Instrumentor P} (hready : s.resources = some resources)
    (hkeeps : s.settings.cacheInstrumentedShaders = true) {code : Code}
    (hgate : (s.isInstrumenting && hasMagic code) = true) (bindless : Bool) (location : String) :
    KeptAttempt resources s code bindless (s.instrumentCode code bindless location) := by
  unfold instrumentCode
  rw [hready]
  simp only [if_pos hgate, identify_of_keeps hkeeps, cached?_of_keeps hkeeps]
  cases hfound : s.cache.get? (fingerprint code) with
  | some words => exact .found words _ hfound ⟨rfl, rfl, rfl, rfl⟩
  | none =>
    simp only [runPasses]
    split
    · next words hran =>
      rw [keep_of_keeps]
      · exact .made words _ hfound hran rfl rfl rfl
      · exact hkeeps
    all_goals exact .refused _ ⟨rfl, rfl, rfl, rfl⟩

/-- Assumes: that the fingerprint tells the code from `codes` apart. Code that is instrumented for
the first time may be kept with what the passes make of it. -/
theorem CacheFollows.keep {attempts : List Attempt} {s t : Instrumentor P}
    (h : s.CacheFollows resources settings codes attempts)
    (hdistinct : ∀ first second, codes first → codes second →
      fingerprint first = fingerprint second → first = second)
    {code words : Code} {bindless : Bool} (hcode : codes code)
    (hfirst : firstBindless attempts code = none)
    (hmakes : (s.passPlan resources).Makes P code (fingerprint code) bindless words)
    (hready : t.resources = s.resources) (hsettings : t.settings = s.settings)
    (hcache : t.cache = s.cache.insert (fingerprint code) words) :
    t.CacheFollows resources settings codes
      (attempts ++ [⟨fingerprint code, code, bindless, some words⟩]) := by
  have hplan : t.passPlan resources = s.passPlan resources := by
    unfold passPlan
    rw [hsettings]
  have hself : firstBindless (attempts ++ [⟨fingerprint code, code, bindless, some words⟩]) code =
      some bindless := firstBindless_concat_self hfirst rfl
  have hothers : ∀ other, code ≠ other →
      firstBindless (attempts ++ [⟨fingerprint code, code, bindless, some words⟩]) other =
        firstBindless attempts other :=
    fun other hother ↦ firstBindless_concat_of_ne attempts hother
  have hkept : ∀ other, codes other → code ≠ other →
      t.cache.get? (fingerprint other) = s.cache.get? (fingerprint other) := by
    intro other hmem hother
    rw [hcache, Table.get?_insert_of_ne]
    exact fun hsame ↦ hother (hdistinct code other hcode hmem hsame)
  refine ⟨hready.trans h.ready, hsettings.trans h.same, h.keeps, ?_, ?_⟩
  · intro other hmem hnone
    by_cases hother : code = other
    · subst other
      rw [hself] at hnone
      cases hnone
    · rw [hkept other hmem hother]
      exact h.unknown other hmem ((hothers other hother).symm.trans hnone)
  · intro other first hmem hsome
    by_cases hother : code = other
    · subst other
      obtain rfl : bindless = first := Option.some.inj (hself.symm.trans hsome)
      rw [hcache, Table.get?_insert_self, hplan]
      exact ⟨words, rfl, hmakes⟩
    · rw [hkept other hmem hother, hplan]
      exact h.known other first hmem ((hothers other hother).symm.trans hsome)

/-- Code that is found in the cache is served as its first use was. -/
theorem CacheFollows.found {attempts : List Attempt} {s : Instrumentor P}
    (h : s.CacheFollows resources settings codes attempts) {code words : Code}
    (hcode : codes code) (hfound : s.cache.get? (fingerprint code) = some words)
    (bindless : Bool) :
    let attempt : Attempt := ⟨fingerprint code, code, bindless, some words⟩
    s.CacheFollows resources settings codes (attempts ++ [attempt]) ∧
      ServedByFirst P (s.passPlan resources) (attempts ++ [attempt]) attempt := by
  intro attempt
  obtain ⟨first, hfirst⟩ : ∃ first, firstBindless attempts code = some first := by
    refine Option.ne_none_iff_exists'.mp fun hnone ↦ ?_
    rw [(h.get?_eq_none_iff hcode).mpr hnone] at hfound
    cases hfound
  have hknown : (firstBindless attempts code).isSome = true := by
    rw [hfirst]
    rfl
  have hmore := firstBindless_concat_of_known attempts attempt (Or.inl hknown)
  refine ⟨h.of_firstBindless hmore, rfl, fun words' hwords ↦ ?_⟩
  obtain ⟨known, hcached, hmakes⟩ := h.known code first hcode hfirst
  obtain rfl : words = words' := Option.some.inj hwords
  obtain rfl : words = known := Option.some.inj (hfound.symm.trans hcached)
  exact ⟨first, (hmore code).trans hfirst, hmakes⟩

/-- Assumes: a deterministic toolchain, and that the fingerprint tells the code from `codes` apart.
An attempt leaves a cache that follows the attempts up to it, and is served as the first use of its
code was. -/
theorem CacheFollows.instrumentCode (htools : P.tools.IsDeterministic)
    (hdistinct : ∀ first second, codes first → codes second →
      fingerprint first = fingerprint second → first = second)
    {attempts : List Attempt} {s : Instrumentor P}
    (h : s.CacheFollows resources settings codes attempts) {code : Code} (hcode : codes code)
    (hgate : (s.isInstrumenting && hasMagic code) = true) (bindless : Bool) (location : String) :
    let attempt : Attempt :=
      { id := fingerprint code
        code
        bindless
        made := (s.instrumentCode code bindless location).1.map InstrumentedCode.code }
    (s.instrumentCode code bindless location).2.CacheFollows resources settings codes
        (attempts ++ [attempt]) ∧
      ServedByFirst P (s.passPlan resources) (attempts ++ [attempt]) attempt := by
  have hkeeps : s.settings.cacheInstrumentedShaders = true := by
    rw [h.same]
    exact h.keeps
  generalize hresult : s.instrumentCode code bindless location = result
  have hattempt := keptAttempt_instrumentCode h.ready hkeeps hgate bindless location
  rw [hresult] at hattempt
  cases hattempt with
  | found words t hfound hsame =>
    obtain ⟨hfollows, hserved⟩ := h.found hcode hfound bindless
    exact ⟨hfollows.of_sameSupplies hsame, hserved⟩
  | made words t hnew hran hready hsettings hcache =>
    have hmakes : (s.passPlan resources).Makes P code (fingerprint code) bindless words := by
      intro bench
      rw [PassPlan.run_eq_of_isDeterministic htools _ bench s.toWorkbench]
      exact hran
    have hfirst := (h.get?_eq_none_iff hcode).mp hnew
    refine ⟨h.keep hdistinct hcode hfirst hmakes hready hsettings hcache, rfl,
      fun words' hwords ↦ ?_⟩
    obtain rfl : words = words' := Option.some.inj hwords
    exact ⟨bindless, firstBindless_concat_self hfirst rfl, hmakes⟩
  | refused t hsame =>
    have hmore := firstBindless_concat_of_known attempts
      ⟨fingerprint code, code, bindless, none⟩ (Or.inr rfl)
    refine ⟨(h.of_sameSupplies hsame).of_firstBindless hmore, rfl, fun words hwords ↦ ?_⟩
    cases hwords

/-- Between two states, that a cache that follows the attempts before them follows those between
them as well, each of which is served as the first use of its code. -/
def KeepsFollowing (resources : DeviceResources) (settings : Settings) (codes : Code → Prop)
    (s : Instrumentor P) (between : List Attempt) (t : Instrumentor P) : Prop :=
  ∀ before, s.CacheFollows resources settings codes before →
    (∀ attempt ∈ between, codes attempt.code) →
    t.CacheFollows resources settings codes (before ++ between) ∧
      ∀ attempt ∈ between,
        ServedByFirst P (s.passPlan resources) (before ++ between) attempt

theorem KeepsFollowing.of_sameSupplies {s t : Instrumentor P} (hsame : SameSupplies s t) :
    KeepsFollowing resources settings codes s [] t := by
  intro before hbefore _
  rw [List.append_nil]
  exact ⟨hbefore.of_sameSupplies hsame, fun _ hmem ↦ absurd hmem List.not_mem_nil⟩

theorem CacheFollows.passPlan_eq {before after : List Attempt} {s t : Instrumentor P}
    (hs : s.CacheFollows resources settings codes before)
    (ht : t.CacheFollows resources settings codes after) :
    t.passPlan resources = s.passPlan resources := by
  unfold passPlan
  rw [ht.same, hs.same]

/-- Assumes: a deterministic toolchain, and that the fingerprint tells the code from `codes` apart.
The cache follows the attempts through whole hooks. -/
theorem keepsFollowing_of_rewrites (htools : P.tools.IsDeterministic)
    (hdistinct : ∀ first second, codes first → codes second →
      fingerprint first = fingerprint second → first = second) :
    Rewrites (P := P) (KeepsFollowing resources settings codes) where
  refl s := .of_sameSupplies (.refl s)
  trans := by
    intro s t u first second hst htu before hbefore hcodes
    have hfirst := hst before hbefore fun attempt hmem ↦
      hcodes attempt (List.mem_append_left _ hmem)
    have hsecond := htu (before ++ first) hfirst.1
      fun attempt hmem ↦ hcodes attempt (List.mem_append_right _ hmem)
    rw [List.append_assoc] at hsecond
    refine ⟨hsecond.1, fun attempt hmem ↦ ?_⟩
    rcases List.mem_append.mp hmem with hmem | hmem
    · rw [← List.append_assoc]
      exact (hfirst.2 attempt hmem).append second
    · rw [← hbefore.passPlan_eq hfirst.1]
      exact hsecond.2 attempt hmem
  record s entry := .of_sameSupplies ⟨rfl, rfl, rfl, rfl⟩
  internalError s location message := .of_sameSupplies ⟨rfl, rfl, rfl, rfl⟩
  createModule s code := .of_sameSupplies ⟨rfl, rfl, rfl, rfl⟩
  createLibrary s info := .of_sameSupplies ⟨rfl, rfl, rfl, rfl⟩
  instrumentCode := by
    intro s code bindless location before hbefore hcodes
    have hkeeps : s.settings.cacheInstrumentedShaders = true := by
      rw [hbefore.same]
      exact hbefore.keeps
    unfold codeAttempts at hcodes ⊢
    rw [hbefore.ready] at hcodes ⊢
    by_cases hgate : (s.isInstrumenting && hasMagic code) = true
    · simp only [Option.isSome_some, Bool.true_and, hgate, if_true,
        identify_of_keeps hkeeps] at hcodes ⊢
      have hcode : codes code := hcodes _ List.mem_cons_self
      have hfollows := hbefore.instrumentCode htools hdistinct hcode hgate bindless location
      refine ⟨hfollows.1, fun attempt hmem ↦ ?_⟩
      obtain rfl := List.mem_singleton.mp hmem
      exact hfollows.2
    · have hnone : (s.resources.isSome && s.isInstrumenting && hasMagic code) = false := by
        rw [hbefore.ready, Option.isSome_some, Bool.true_and]
        exact Bool.eq_false_iff.mpr hgate
      rw [instrumentCode_of_spared hnone, ← hbefore.ready, hnone, if_neg Bool.false_ne_true]
      exact KeepsFollowing.of_sameSupplies (.refl s) before hbefore
        fun _ hmem ↦ absurd hmem List.not_mem_nil

end

end Instrumentor

/-! ### Runs on a device that is set up -/

/-- Whether a hook sets the device up or tears it down. -/
def Hook.concernsDevice : Hook → Bool
  | .setUpDevice _ | .tearDownDevice => true
  | _ => false

namespace Session

open Instrumentor

variable {resources : DeviceResources} {settings : Settings} {codes : Code → Prop}

/-- Assumes: a deterministic toolchain, and that the fingerprint tells the code from `codes` apart.
The cache follows the attempts of a hook. -/
theorem keepsFollowing_step (htools : P.tools.IsDeterministic)
    (hdistinct : ∀ first second, codes first → codes second →
      fingerprint first = fingerprint second → first = second)
    (t : Session P) {hook : Hook} (hdevice : hook.concernsDevice = false) :
    KeepsFollowing resources settings codes t.state (t.attempts hook) (t.step hook).state := by
  have hrewrites : Rewrites (P := P) (KeepsFollowing resources settings codes) :=
    keepsFollowing_of_rewrites htools hdistinct
  by_cases hsupplies : hook.leavesSupplies = true
  · have hnone : t.attempts hook = [] := by
      cases hook <;> first | rfl | cases hsupplies
    rw [hnone]
    exact .of_sameSupplies (sameSupplies_step t hsupplies)
  · cases hook with
    | preparePipelines infos location => exact hrewrites.preparePipelines t.state infos location
    | prepareShaderObjects infos call => exact hrewrites.prepareShaderObjects t.state infos call
    | setUpDevice capabilities => cases hdevice
    | tearDownDevice => cases hdevice
    | _ => exact absurd rfl hsupplies

/-- Assumes: a deterministic toolchain, and that the fingerprint tells the code from `codes` apart.
The cache follows the attempts of a run. -/
theorem keepsFollowing_run (htools : P.tools.IsDeterministic)
    (hdistinct : ∀ first second, codes first → codes second →
      fingerprint first = fingerprint second → first = second)
    (t : Session P) {hooks : List Hook}
    (hdevice : ∀ hook ∈ hooks, hook.concernsDevice = false) :
    KeepsFollowing resources settings codes t.state (collect attempts t hooks)
      (t.run hooks).state := by
  have hrewrites : Rewrites (P := P) (KeepsFollowing resources settings codes) :=
    keepsFollowing_of_rewrites htools hdistinct
  exact chains_run (R := fun t attempts u ↦
      KeepsFollowing resources settings codes t.state attempts u.state)
    ⟨fun t ↦ hrewrites.refl t.state, hrewrites.trans⟩
    (fun t _ h ↦ keepsFollowing_step htools hdistinct t h) t hooks hdevice

/-- Assumes: a setup that succeeds. The device is set up then, and the cache is as it was. -/
theorem ready_of_setUpDevice {s : Instrumentor P} {capabilities : Capabilities}
    (h : (s.setUpDevice capabilities).1 = .ok ()) :
    ∃ resources, (s.setUpDevice capabilities).2.resources = some resources ∧
      (s.setUpDevice capabilities).2.cache = s.cache := by
  obtain ⟨slot, reservation, layout, entry, -, -, hafter⟩ := exists_reserve_of_setUpDevice h
  obtain ⟨log, device, subsystem, resources, hreserved, -⟩ := OnlyDevice.reserves.reserve s slot
  rw [hafter, hreserved]
  exact ⟨_, rfl, rfl⟩

/-- The session behind a setup of the device. -/
def setUp (settings : Settings) (device : P.DeviceState) (tools : P.ToolState)
    (storage : P.StorageState) (capabilities : Capabilities) : Session P :=
  (start settings device tools storage).step (.setUpDevice capabilities)

/-- Assumes: a setup that succeeds. The device is set up then, with nothing in the cache. -/
theorem cacheFollows_setUp {device : P.DeviceState} {tools : P.ToolState}
    {storage : P.StorageState} {capabilities : Capabilities}
    (hsetup : ((start settings device tools storage : Session P).state.setUpDevice
      capabilities).1 = .ok ())
    (hkeeps : settings.cacheInstrumentedShaders = true) :
    ∃ resources, ∀ codes,
      (setUp settings device tools storage capabilities : Session P).state.CacheFollows resources
        settings codes [] := by
  obtain ⟨resources, hresources, hcache⟩ := ready_of_setUpDevice hsetup
  refine ⟨resources, fun codes ↦ ⟨hresources, ?_, hkeeps, ?_, ?_⟩⟩
  · exact (OnlyDevice.setUpDevice _ capabilities).sameHoldings.settings
  · intro code _ _
    show ((start settings device tools storage : Session P).state.setUpDevice
      capabilities).2.cache.get? _ = none
    rw [hcache]
    exact Table.get?_empty _
  · intro code bindless _ hfirst
    cases hfirst

/-! ### What stages and shader objects are served with -/

/-- That a piece of code, used for a layout with or without a bindless set, gets the words that the
passes make of it for the first of its uses. These are right for the layout exactly if the passes
make the same of the code for both. -/
def Served (P : Platform) (plan : PassPlan) (uses : List Attempt) (code : Code) (id : ShaderId)
    (bindless : Bool) (words : Code) : Prop :=
  id = fingerprint code ∧ ∃ first, firstBindless uses code = some first ∧
    plan.Makes P code id first words ∧
    (plan.Makes P code id bindless words ↔
      ∀ bench : Workbench P,
        (plan.run bench code id bindless).1 = (plan.run bench code id first).1)

/-- That a stage which is instrumented is served by the first use of its code, and that the driver
gets it with these words, unless it belongs to a library that could not be created anew. -/
def StageServed (plan : PassPlan) (uses : List Attempt) (t : Instrumentor P.audited)
    (bindless : Bool) (owned : Option PipelineHandle × ShaderStage)
    (done : StageRecord × ShaderStage) : Prop :=
  ∀ id, done.1.shaderId = some id → ∃ code words, owned.2.code = some code ∧
    Served P.audited plan uses code id bindless words ∧
    (Carries t.createdFrom owned.2 words done.2 ∨
      done.2 = owned.2 ∧ owned.1.isSome = true ∧ t.isInstrumenting = false)

/-- That the stages of a pipeline are served by the first uses of their code, whether or not its
layout has a bindless set. -/
def PipelineServed (plan : PassPlan) (uses : List Attempt) (t : Instrumentor P.audited)
    (info : PipelineInfo) (draft : PipelineDraft) : Prop :=
  draft = { info } ∨ ∃ (bindless : Bool) (done : List (StageRecord × ShaderStage)),
    (bindless = true ↔
      ∃ layout, info.layout = some layout ∧ ∃ set ∈ layout.setLayouts, set.bindless = true) ∧
    draft.records = done.map Prod.fst ∧ draft.info.allStages.map Prod.snd = done.map Prod.snd ∧
      List.Forall₂ (StageServed plan uses t bindless) info.allStages done

/-- That a shader object is served by the first use of its code, whether or not one of its set
layouts is bindless. -/
def ObjectServed (P : Platform) (plan : PassPlan) (uses : List Attempt) (info : ShaderObjectInfo)
    (draft : ShaderObjectDraft) : Prop :=
  ∀ made, draft.made = some made → draft.info.code = made.code ∧
    ∃ bindless : Bool, (bindless = true ↔ ∃ set ∈ info.setLayouts, set.bindless = true) ∧
      Served P plan uses info.code made.id bindless made.code

theorem served_of_servedByFirst {plan : PassPlan} {uses : List Attempt} {attempt : Attempt}
    (h : ServedByFirst P plan uses attempt) {words : Code} (hwords : attempt.made = some words) :
    Served P plan uses attempt.code attempt.id attempt.bindless words := by
  obtain ⟨first, hfirst, hmakes⟩ := h.2 words hwords
  refine ⟨h.1, first, hfirst, hmakes, fun hright bench ↦ ?_, fun hsame bench ↦ ?_⟩
  · rw [hright bench, hmakes bench]
  · rw [hsame bench, hmakes bench]

theorem pipelineServed_of_draftFate {plan : PassPlan} {uses attempts : List Attempt}
    {t : Instrumentor P.audited}
    (hserved : ∀ attempt ∈ attempts, ServedByFirst P.audited plan uses attempt)
    {info : PipelineInfo} {draft : PipelineDraft}
    (h : DraftFate createdFrom attempts t info draft) : PipelineServed plan uses t info draft := by
  rcases h with hkept | ⟨done, hrecords, hforwarded, hfate⟩
  · exact Or.inl hkept
  · refine Or.inr ⟨info.isBindless, done, info.isBindless_iff, hrecords, hforwarded,
      hfate.imp fun owned one hone id hid ↦ ?_⟩
    obtain ⟨attempt, hmem, words, rfl, hcode, hbindless, hwords, hplace⟩ := hone.instrumented id hid
    have hwhole := served_of_servedByFirst (hserved attempt hmem) hwords
    rw [hbindless] at hwhole
    exact ⟨attempt.code, words, hcode, hwhole, hplace⟩

/-- Assumes: a deterministic toolchain, a device that is set up with nothing in the cache, and that
the fingerprint tells the code of a run and of some attempts behind it apart. These attempts are
served by first uses if they keep the cache following. -/
theorem servedByFirst_behind_run (htools : P.tools.IsDeterministic) {ready : Session P}
    (hready : ∀ codes, ready.state.CacheFollows resources settings codes []) {hooks : List Hook}
    (hdevice : ∀ hook ∈ hooks, hook.concernsDevice = false) {between : List Attempt}
    {t : Instrumentor P} (hdiffer : FingerprintsDiffer (collect attempts ready hooks ++ between))
    (hbetween : ∀ codes, Rewrites (P := P) (KeepsFollowing resources settings codes) →
      KeepsFollowing resources settings codes (ready.run hooks).state between t) :
    ∀ attempt ∈ between, ServedByFirst P (ready.state.passPlan resources)
      (collect attempts ready hooks ++ between) attempt := by
  let codes (code : Code) : Prop :=
    ∃ use ∈ collect attempts ready hooks ++ between, use.code = code
  have hdistinct : ∀ first second, codes first → codes second →
      fingerprint first = fingerprint second → first = second := by
    rintro _ _ ⟨use, huse, rfl⟩ ⟨other, hother, rfl⟩ hsame
    exact hdiffer use huse other hother hsame
  have hrun := keepsFollowing_run htools hdistinct ready hdevice [] (hready codes)
    fun attempt hmem ↦ ⟨attempt, List.mem_append_left _ hmem, rfl⟩
  rw [List.nil_append] at hrun
  have hcall := hbetween codes (keepsFollowing_of_rewrites htools hdistinct) _ hrun.1
    fun attempt hmem ↦ ⟨attempt, List.mem_append_right _ hmem, rfl⟩
  rw [← (hready codes).passPlan_eq hrun.1]
  exact hcall.2

/-- Assumes: a deterministic toolchain, a setup that succeeds, settings that keep instrumented code,
a run `hooks` in which the device stays as it is, and for each call behind it that the fingerprint
tells the code used so far apart. Every instrumented stage and shader object of the call is served
by the first use of its code, and is right exactly if the passes make the same of the code for its
own layout and for that of the first use. -/
theorem served_by_first_use (htools : P.tools.IsDeterministic) (settings : Settings)
    (hkeeps : settings.cacheInstrumentedShaders = true) (device : P.audited.DeviceState)
    (tools : P.ToolState) (storage : P.StorageState) (capabilities : Capabilities)
    (hsetup : ((start settings device tools storage : Session P.audited).state.setUpDevice
      capabilities).1 = .ok ())
    (hooks : List Hook) (hdevice : ∀ hook ∈ hooks, hook.concernsDevice = false) :
    let ready : Session P.audited := setUp settings device tools storage capabilities
    let s := (ready.run hooks).state
    let earlier := collect attempts ready hooks
    ∃ resources, ready.state.resources = some resources ∧
      (∀ infos location, FingerprintsDiffer (earlier ++ s.pipelinesAttempts infos location) →
        List.Forall₂
          (PipelineServed (ready.state.passPlan resources)
            (earlier ++ s.pipelinesAttempts infos location) (s.preparePipelines infos location).2)
          infos (s.preparePipelines infos location).1) ∧
      (∀ infos call, FingerprintsDiffer (earlier ++ s.objectsAttempts infos call) →
        List.Forall₂
          (ObjectServed P.audited (ready.state.passPlan resources)
            (earlier ++ s.objectsAttempts infos call))
          infos (s.prepareShaderObjects infos call).1) := by
  intro ready s earlier
  have htools' : P.audited.tools.IsDeterministic := htools
  obtain ⟨resources, hready⟩ := cacheFollows_setUp hsetup hkeeps
  refine ⟨resources, (hready fun _ ↦ True).ready, fun infos location hdiffer ↦ ?_,
    fun infos call hdiffer ↦ ?_⟩
  · have hserved := servedByFirst_behind_run htools' hready hdevice hdiffer
      fun codes hrewrites ↦ hrewrites.preparePipelines s infos location
    exact (forall₂_preparePipelines .audited s infos location).imp
      fun info draft hfate ↦ pipelineServed_of_draftFate hserved hfate
  · have hserved := servedByFirst_behind_run htools' hready hdevice hdiffer
      fun codes hrewrites ↦ hrewrites.prepareShaderObjects s infos call
    refine (forall₂_prepareShaderObjects s infos call).imp fun info draft hfate made hmade ↦ ?_
    obtain ⟨hcode, hmem⟩ := hfate made hmade
    exact ⟨hcode, info.isBindless, info.isBindless_iff,
      served_of_servedByFirst (hserved _ hmem) rfl⟩

end Session

/-! ### Layouts of both kinds -/

/-- A toolchain that marks what it makes by the kind of layout: with a one behind code for a layout
with a bindless set, and otherwise with a zero. -/
def layoutMarker : Toolchain Unit where
  Module := Code × Bool
  load code settings _ := (.ok (code, settings.bindless), ())
  run _ module _ := (true, module, ())
  linkFunctions module _ := (module, ())
  postProcess module _ := (module, ())
  serialize module _ := (module.1 ++ [if module.2 then 1 else 0], ())
  validate _ _ _ _ := (.ok (), ())
  eliminateDeadCode code _ _ := (.ok code, [], ())

theorem isDeterministic_layoutMarker : layoutMarker.IsDeterministic where
  load _ _ _ _ := rfl
  changes _ _ _ _ := rfl
  run _ _ _ _ := rfl
  linkFunctions _ _ _ := rfl
  postProcess _ _ _ := rfl
  serialize _ _ _ := rfl
  validate _ _ _ _ _ := rfl
  eliminateDeadCode _ _ _ _ := rfl

/-- A platform in memory with this toolchain, and with files that are thrown away. -/
abbrev layoutMarking : Platform :=
  { DeviceState := Simulation.World
    device := Simulation.World.device
    ToolState := Unit
    tools := layoutMarker
    StorageState := Unit
    storage := ⟨fun _ _ _ ↦ (.ok (), ())⟩ }

/-- A compute pipeline whose code is the magic number alone, with or without a bindless set. -/
def magicCompute (bindless : Bool) : PipelineInfo :=
  .compute
    { flags := .empty
      stage := ⟨.empty, .null, some [0x07230203], some ⟨[0x07230203], false⟩, "main"⟩
      layout := some ⟨⟨1⟩, [⟨⟨2⟩, bindless⟩]⟩
      activeSlots := .empty }

namespace Session

open Instrumentor

/-- Code that was used with a layout without a bindless set before is served as it was then, also
for a layout with one. -/
theorem served_by_first_use_both_layouts :
    let ready : Session layoutMarking.audited := setUp {} ({}, []) () () {}
    let hooks : List Hook := [.preparePipelines [magicCompute false] "vkCreateComputePipelines"]
    let s := (ready.run hooks).state
    let uses := collect attempts ready hooks ++
      s.pipelinesAttempts [magicCompute true] "vkCreateComputePipelines"
    layoutMarking.tools.IsDeterministic ∧
      ((start {} ({}, []) () () : Session layoutMarking.audited).state.setUpDevice {}).1 = .ok () ∧
      FingerprintsDiffer uses ∧ uses.map Attempt.bindless = [false, true] ∧
      ∃ resources, ready.state.resources = some resources ∧
        List.Forall₂
          (PipelineServed (ready.state.passPlan resources) uses
            (s.preparePipelines [magicCompute true] "vkCreateComputePipelines").2)
          [magicCompute true]
          (s.preparePipelines [magicCompute true] "vkCreateComputePipelines").1 := by
  intro ready hooks s uses
  have hsetup : ((start {} ({}, []) () () : Session layoutMarking.audited).state.setUpDevice
      {}).1 = .ok () := rfl
  have hdiffer : FingerprintsDiffer uses := by
    unfold FingerprintsDiffer
    decide +kernel
  have huses : uses.map Attempt.bindless = [false, true] := by decide +kernel
  obtain ⟨resources, hresources, hpipelines, -⟩ :=
    served_by_first_use (P := layoutMarking) isDeterministic_layoutMarker {} rfl ({}, []) () () {}
      hsetup hooks (by decide)
  exact ⟨isDeterministic_layoutMarker, hsetup, hdiffer, huses, resources, hresources,
    hpipelines [magicCompute true] "vkCreateComputePipelines" hdiffer⟩

/-- What was made of code for a layout without a bindless set is used again for a layout with one,
although the passes make something else of it then. -/
theorem stale_for_other_layout :
    let ready : Session layoutMarking := setUp {} {} () () {}
    let s := (ready.run
      [.preparePipelines [magicCompute false] "vkCreateComputePipelines"]).state
    let drafts := (s.preparePipelines [magicCompute true] "vkCreateComputePipelines").1
    drafts.map (fun draft ↦ draft.records.map StageRecord.shaderId) =
        [[some (fingerprint [0x07230203])]] ∧
      drafts.map (fun draft ↦ draft.info.stages.map fun stage ↦
        stage.inlined.map InlineCode.code) = [[some [0x07230203, 0]]] ∧
      s.resources.map (fun resources ↦ ((s.passPlan resources).run s.toWorkbench [0x07230203]
        (fingerprint [0x07230203]) true).1) = some (.ok (.instrumented [0x07230203, 1])) := by
  decide +kernel

end Session

end ShaderGuard
