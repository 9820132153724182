import Mathlib.Data.List.Induction
import ShaderGuard.Proofs.Tables
import ShaderGuard.Registry
import ShaderGuard.Sequence

/-!
# The registry as a store

The registry is changed in four ways: an entry is put under an identifier, the entry of an
identifier is removed, all entries that name a destroyed object are removed, and the registry is
cleared. Identifiers are used again, an entry names up to three objects, and one destruction may
take many entries; still what is found is decided by the operations alone. An entry is found under
an identifier exactly if it was the last one put there and nothing since has removed it
(`Registry.get?_after_eq_some_iff`).

A destruction first looks for the entries that name the object and then removes them one by one.
Nothing goes amiss between the two: each of them is there when its turn comes, and what is left is
the registry without them (`Registry.takeWhere_eq_eraseEach`).
-/

set_option autoImplicit false

namespace ShaderGuard

open Bytecode (ShaderId)

namespace Registry

/-! ### Removal of what a test accepts -/

/-- The entries that a test accepts are those that are found and accepted. -/
theorem mem_select_iff (registry : Registry) (test : InstrumentedShader → Bool) (id : ShaderId)
    (shader : InstrumentedShader) :
    (id, shader) ∈ registry.select test ↔ registry.get? id = some shader ∧ test shader = true := by
  rw [select, List.mem_filter, Table.get?_eq_some_iff]

/-- The number of entries that a test accepts is that of the identifiers under which they are
found. -/
theorem length_select_eq_ncard (registry : Registry) (test : InstrumentedShader → Bool) :
    (registry.select test).length =
      {id | ∃ shader, registry.get? id = some shader ∧ test shader = true}.ncard := by
  have hkept := Table.size_eq_ncard (registry.filter fun _ shader ↦ test shader)
  simp only [Table.get?_filter, Option.filter_eq_some_iff] at hkept
  exact hkept

/-- Among what is left a test accepts what it accepted before, without what was removed. -/
theorem select_eraseWhere_eq (registry : Registry) (taken test : InstrumentedShader → Bool) :
    (registry.eraseWhere taken).select test =
      (registry.select test).filter fun entry ↦ !taken entry.2 := by
  simp only [select, eraseWhere, Table.filter, List.filter_filter]
  congr 1
  funext entry
  exact Bool.and_comm _ _

/-! ### Removal one by one -/

/-- Remove the entries of some identifiers one after the other, and count those that were there. -/
def eraseEach (registry : Registry) : List ShaderId → Nat × Registry
  | [] => (0, registry)
  | id :: rest =>
    let later := eraseEach (registry.erase id) rest
    (if registry.contains id then later.1 + 1 else later.1, later.2)

theorem get?_eraseEach (registry : Registry) (ids : List ShaderId) (id : ShaderId) :
    (registry.eraseEach ids).2.get? id = if id ∈ ids then none else registry.get? id := by
  induction ids generalizing registry with
  | nil => rfl
  | cons first rest ih =>
    show (eraseEach (registry.erase first) rest).2.get? id = _
    rw [ih]
    by_cases hrest : id ∈ rest
    · rw [if_pos hrest, if_pos (List.mem_cons_of_mem _ hrest)]
    · rw [if_neg hrest]
      by_cases hfirst : first = id
      · subst hfirst
        rw [Table.get?_erase_self, if_pos List.mem_cons_self]
      · rw [Table.get?_erase_of_ne _ hfirst,
          if_neg fun hmem ↦ (List.mem_cons.mp hmem).elim (fun h ↦ hfirst h.symm) hrest]

/-- Identifiers that are there, each once, are all counted: removing one leaves the others. -/
theorem count_eraseEach {registry : Registry} {ids : List ShaderId} (hnodup : ids.Nodup)
    (hthere : ∀ id ∈ ids, registry.contains id = true) :
    (registry.eraseEach ids).1 = ids.length := by
  induction ids generalizing registry with
  | nil => rfl
  | cons first rest ih =>
    obtain ⟨hfirst, hrest⟩ := List.nodup_cons.mp hnodup
    have hlater : ∀ id ∈ rest, (registry.erase first).contains id = true := by
      intro id hid
      have hne : first ≠ id := fun heq ↦ hfirst (heq ▸ hid)
      rw [Table.contains, Table.get?_erase_of_ne _ hne]
      exact hthere id (List.mem_cons_of_mem _ hid)
    rw [eraseEach, if_pos (hthere first List.mem_cons_self), ih hrest hlater, List.length_cons]

/-- To remove what a test accepts is to look for it first and then to remove it one by one. -/
theorem takeWhere_eq_eraseEach (registry : Registry) (test : InstrumentedShader → Bool) :
    registry.takeWhere test = registry.eraseEach ((registry.select test).map Prod.fst) := by
  have hmem (id : ShaderId) : id ∈ (registry.select test).map Prod.fst ↔
      ∃ shader, registry.get? id = some shader ∧ test shader = true := by
    simp only [List.mem_map, Prod.exists, exists_and_right, exists_eq_right, mem_select_iff]
  have hnodup : ((registry.select test).map Prod.fst).Nodup :=
    (registry.filter fun _ shader ↦ test shader).nodup_keys
  have hcount : (registry.eraseEach ((registry.select test).map Prod.fst)).1 =
      (registry.select test).length := by
    rw [count_eraseEach hnodup, List.length_map]
    intro id hid
    obtain ⟨shader, hfound, -⟩ := (hmem id).mp hid
    rw [Table.contains, hfound]
    rfl
  have hleft : (registry.eraseEach ((registry.select test).map Prod.fst)).2 =
      registry.eraseWhere test := by
    refine Table.ext_get? fun id ↦ ?_
    rw [get?_eraseEach, get?_eraseWhere]
    cases hfound : registry.get? id with
    | none => simp
    | some shader =>
      have hid : id ∈ (registry.select test).map Prod.fst ↔ test shader = true := by
        rw [hmem, hfound]
        simp
      by_cases htest : test shader = true
      · rw [if_pos (hid.mpr htest), Option.filter_some, htest]
        rfl
      · rw [if_neg fun h ↦ htest (hid.mp h), Option.filter_some, Bool.eq_false_iff.mpr htest]
        rfl
  exact Prod.ext hcount.symm hleft.symm

end Registry

/-! ### Operations -/

/-- An object whose destruction makes entries go. -/
inductive NamedObject where
  | pipeline (pipeline : PipelineHandle)
  | module (module : ModuleHandle)
  | shaderObject (object : ShaderObjectHandle)
  deriving DecidableEq

/-- Whether an entry has an object in the field for objects of its kind. -/
def InstrumentedShader.refersTo (shader : InstrumentedShader) : NamedObject → Bool
  | .pipeline pipeline => shader.pipeline = pipeline
  | .module module => shader.module = module
  | .shaderObject object => shader.object = object

/-- Remove the entries that name an object, and count them. -/
def Registry.eraseNamed (registry : Registry) : NamedObject → Nat × Registry
  | .pipeline pipeline => registry.erasePipeline pipeline
  | .module module => registry.eraseModule module
  | .shaderObject object => registry.eraseObject object

theorem Registry.eraseNamed_eq_takeWhere (registry : Registry) (object : NamedObject) :
    registry.eraseNamed object = registry.takeWhere fun shader ↦ shader.refersTo object := by
  cases object <;> rfl

/-- What is done to a registry. -/
inductive RegistryOperation where
  | insert (id : ShaderId) (shader : InstrumentedShader)
  | erase (id : ShaderId)
  | eraseNamed (object : NamedObject)
  | clear
  deriving DecidableEq

namespace RegistryOperation

/-- What an operation makes of a registry. -/
def apply (registry : Registry) : RegistryOperation → Registry
  | .insert id shader => registry.insert id shader
  | .erase id => registry.erase id
  | .eraseNamed object => (registry.eraseNamed object).2
  | .clear => .empty

/-- Whether an operation leaves an entry where it is: it puts no other in its place, and it removes
neither the identifier nor an object that the entry names, nor all there is. -/
def Spares (id : ShaderId) (shader : InstrumentedShader) : RegistryOperation → Prop
  | .insert other _ => other ≠ id
  | .erase other => other ≠ id
  | .eraseNamed object => shader.refersTo object = false
  | .clear => False

end RegistryOperation

namespace Registry

/-- The registry behind some operations, from an empty one. -/
def after (operations : List RegistryOperation) : Registry :=
  operations.foldl RegistryOperation.apply .empty

/-- A further operation either puts an entry where it is looked for, or finds it there and spares
it. -/
theorem get?_apply_eq_some_iff (registry : Registry) (operation : RegistryOperation)
    (id : ShaderId) (shader : InstrumentedShader) :
    (operation.apply registry).get? id = some shader ↔
      operation = .insert id shader ∨
        registry.get? id = some shader ∧ operation.Spares id shader := by
  cases operation with
  | insert other put =>
    show (registry.insert other put).get? id = some shader ↔ _
    by_cases hid : other = id
    · subst hid
      simp [RegistryOperation.Spares]
    · rw [Table.get?_insert_of_ne _ _ hid]
      simp [RegistryOperation.Spares, hid]
  | erase other =>
    show (registry.erase other).get? id = some shader ↔ _
    by_cases hid : other = id
    · subst hid
      simp [RegistryOperation.Spares]
    · rw [Table.get?_erase_of_ne _ hid]
      simp [RegistryOperation.Spares, hid]
  | eraseNamed object =>
    show (registry.eraseNamed object).2.get? id = some shader ↔ _
    rw [eraseNamed_eq_takeWhere, takeWhere, get?_eraseWhere, Option.filter_eq_some_iff]
    simp [RegistryOperation.Spares]
  | clear =>
    show (Table.empty : Registry).get? id = some shader ↔ _
    simp [RegistryOperation.Spares]

/-- An entry is found exactly if it was put there and nothing since has put another in its place or
removed it. -/
theorem get?_after_eq_some_iff (operations : List RegistryOperation) (id : ShaderId)
    (shader : InstrumentedShader) :
    (after operations).get? id = some shader ↔
      LastsIn (fun _ operation ↦ operation = .insert id shader)
        (RegistryOperation.Spares id shader) operations := by
  induction operations using List.reverseRecOn with
  | nil => exact iff_of_false (by simp [after]) (not_lastsIn_nil _ _)
  | append_singleton operations operation ih =>
    rw [lastsIn_concat_iff, ← ih, ← get?_apply_eq_some_iff, after, after, List.foldl_concat]

/-- The registry behind any operations. What is found under an identifier is the entry of the last
insertion under it, if nothing behind that insertion has removed it, and looking the entries through
finds what is found one by one; there are as many entries as identifiers under which one is found.
The removal of what names a destroyed object, which looks for the entries first and then removes
them one by one, counts the entries that have its handle in the field for objects of its kind. It
leaves none of them, and every other entry as it was: under its identifier, and for whoever looks
the entries through. -/
theorem store_follows_operations (operations : List RegistryOperation) :
    let registry := after operations
    (∀ id shader, registry.get? id = some shader ↔
      ∃ older newer, operations = older ++ .insert id shader :: newer ∧
        ∀ operation ∈ newer, operation.Spares id shader) ∧
    (∀ test id shader, (id, shader) ∈ registry.select test ↔
      registry.get? id = some shader ∧ test shader = true) ∧
    registry.size = {id | ∃ shader, registry.get? id = some shader}.ncard ∧
    ∀ object : NamedObject,
      let taken := registry.eraseNamed object
      taken = registry.eraseEach
        ((registry.select fun shader ↦ shader.refersTo object).map Prod.fst) ∧
      taken.1 = {id | ∃ shader, registry.get? id = some shader ∧
        shader.refersTo object = true}.ncard ∧
      (taken.2.select fun shader ↦ shader.refersTo object) = [] ∧
      (∀ id, taken.2.get? id =
        (registry.get? id).filter fun shader ↦ !shader.refersTo object) ∧
      ∀ test, taken.2.select test =
        (registry.select test).filter fun entry ↦ !entry.2.refersTo object := by
  refine ⟨fun id shader ↦ ?_, mem_select_iff _, Table.size_eq_ncard _, fun object ↦ ?_⟩
  · rw [get?_after_eq_some_iff]
    constructor
    · rintro ⟨older, _, newer, hsplit, rfl, hspared⟩
      exact ⟨older, newer, hsplit, hspared⟩
    · rintro ⟨older, newer, hsplit, hspared⟩
      exact ⟨older, _, newer, hsplit, rfl, hspared⟩
  · rw [eraseNamed_eq_takeWhere]
    refine ⟨takeWhere_eq_eraseEach _ _, length_select_eq_ncard _ _, ?_, ?_, ?_⟩
    · exact select_eraseWhere (after operations) fun shader ↦ shader.refersTo object
    · exact get?_eraseWhere (after operations) _
    · exact select_eraseWhere_eq (after operations) _

end Registry

end ShaderGuard
