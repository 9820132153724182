import Mathlib.Data.List.Perm.Basic
import Mathlib.Data.Set.Card
import ShaderGuard.Table

/-!
# Entries of tables

A table has each key once (`Table.nodup_keys`), so its size is the number of keys under which
something is found (`Table.size_eq_ncard`). What its entries are in all, in whatever order, is
followed through insertions and removals: an entry takes the place of the one with its key
(`perm_entries_insert`), and a key that is there has its one entry (`perm_entries_of_get?`). Changes
under different keys may be made in any order.
-/

set_option autoImplicit false

namespace ShaderGuard.Table

open TableKey (rank)

variable {κ ν : Type} [TableKey κ]

/-! ### Keys -/

theorem nodup_keys (table : Table κ ν) : table.keys.Nodup := by
  refine List.pairwise_map.mpr (table.ascending.imp fun {first second} hlt heq ↦ ?_)
  rw [heq] at hlt
  exact Nat.lt_irrefl _ hlt

theorem mem_keys_iff (table : Table κ ν) (key : κ) :
    key ∈ table.keys ↔ ∃ value, table.get? key = some value := by
  simp only [keys, List.mem_map, get?_eq_some_iff]
  constructor
  · rintro ⟨⟨k, value⟩, hmem, rfl⟩
    exact ⟨value, hmem⟩
  · rintro ⟨value, hmem⟩
    exact ⟨(key, value), hmem, rfl⟩

/-- The size is the number of keys that are found. -/
theorem size_eq_ncard (table : Table κ ν) :
    table.size = {key | ∃ value, table.get? key = some value}.ncard := by
  classical
  have hset : {key | ∃ value, table.get? key = some value} = ↑table.keys.toFinset := by
    ext key
    simp [mem_keys_iff]
  rw [hset, Set.ncard_coe_finset, List.toFinset_card_of_nodup table.nodup_keys, keys,
    List.length_map, size]

/-! ### Entries -/

theorem nodup_entries (table : Table κ ν) : table.entries.Nodup := table.nodup_keys.of_map

theorem not_mem_entries_erase (table : Table κ ν) (key : κ) (value : ν) :
    (key, value) ∉ (table.erase key).entries := by
  rw [← get?_eq_some_iff, get?_erase_self]
  exact fun h ↦ nomatch h

/-- Assumes: that `entries` gives the same look-ups as the table under every key but one, where it
has one entry. -/
private theorem perm_cons_erase {table other : Table κ ν} {key : κ} {value : ν}
    (hself : table.get? key = some value)
    (hother : ∀ k, key ≠ k → table.get? k = other.get? k) :
    table.entries.Perm ((key, value) :: (other.erase key).entries) := by
  have hnodup : ((key, value) :: (other.erase key).entries).Nodup :=
    List.nodup_cons.mpr ⟨not_mem_entries_erase other key value, nodup_entries _⟩
  refine (List.perm_ext_iff_of_nodup (nodup_entries table) hnodup).mpr ?_
  rintro ⟨k, v⟩
  rw [List.mem_cons, ← get?_eq_some_iff, ← get?_eq_some_iff]
  by_cases hk : key = k
  · subst k
    rw [hself, get?_erase_self]
    simp [eq_comm]
  · rw [hother k hk, get?_erase_of_ne other hk]
    simp [Ne.symm hk]

/-- An entry takes the place of the one with its key. -/
theorem perm_entries_insert (table : Table κ ν) (key : κ) (value : ν) :
    (table.insert key value).entries.Perm ((key, value) :: (table.erase key).entries) :=
  perm_cons_erase (get?_insert_self table key value) fun _ hk ↦ get?_insert_of_ne table value hk

/-- A key that is there has its one entry. -/
theorem perm_entries_of_get? {table : Table κ ν} {key : κ} {value : ν}
    (h : table.get? key = some value) :
    table.entries.Perm ((key, value) :: (table.erase key).entries) :=
  perm_cons_erase h fun _ _ ↦ rfl

/-- A key that is not there has no entry to be removed. -/
theorem erase_of_get?_eq_none {table : Table κ ν} {key : κ} (h : table.get? key = none) :
    table.erase key = table := by
  refine ext_get? fun k ↦ ?_
  by_cases hk : key = k
  · subst k
    rw [get?_erase_self, h]
  · exact get?_erase_of_ne table hk

/-- A key that is not there gets its one entry. -/
theorem perm_entries_insert_of_get?_eq_none {table : Table κ ν} {key : κ}
    (h : table.get? key = none) (value : ν) :
    (table.insert key value).entries.Perm ((key, value) :: table.entries) := by
  have hinsert := perm_entries_insert table key value
  rwa [erase_of_get?_eq_none h] at hinsert

/-- A look-up after an insertion that a condition decides about. -/
theorem get?_ite_insert [DecidableEq κ] (table : Table κ ν) (key other : κ) (value : ν)
    (condition : Prop) [Decidable condition] :
    (if condition then table.insert key value else table).get? other =
      if condition ∧ key = other then some value else table.get? other := by
  by_cases hcondition : condition
  · rw [if_pos hcondition]
    by_cases hkey : key = other
    · rw [if_pos ⟨hcondition, hkey⟩, hkey, get?_insert_self]
    · rw [if_neg fun h ↦ hkey h.2, get?_insert_of_ne _ _ hkey]
  · rw [if_neg hcondition, if_neg fun h ↦ hcondition h.1]

/-! ### Two changes -/

/-- Values under different keys are put there in any order. -/
theorem insert_comm (table : Table κ ν) {key other : κ} (h : key ≠ other) (value more : ν) :
    (table.insert key value).insert other more = (table.insert other more).insert key value := by
  refine ext_get? fun k ↦ ?_
  by_cases hk : other = k
  · subst k
    rw [get?_insert_self, get?_insert_of_ne _ _ h, get?_insert_self]
  · rw [get?_insert_of_ne _ _ hk]
    by_cases hkey : key = k
    · subst k
      rw [get?_insert_self, get?_insert_self]
    · rw [get?_insert_of_ne _ _ hkey, get?_insert_of_ne _ _ hkey, get?_insert_of_ne _ _ hk]

theorem insert_insert (table : Table κ ν) (key : κ) (value more : ν) :
    (table.insert key value).insert key more = table.insert key more := by
  refine ext_get? fun k ↦ ?_
  by_cases hk : key = k
  · subst k
    rw [get?_insert_self, get?_insert_self]
  · rw [get?_insert_of_ne _ _ hk, get?_insert_of_ne _ _ hk, get?_insert_of_ne _ _ hk]

/-- A value is put under one key and that under another is removed in any order. -/
theorem erase_insert_of_ne (table : Table κ ν) {key other : κ} (h : key ≠ other) (value : ν) :
    (table.insert key value).erase other = (table.erase other).insert key value := by
  refine ext_get? fun k ↦ ?_
  by_cases hk : other = k
  · subst k
    rw [get?_erase_self, get?_insert_of_ne _ _ h, get?_erase_self]
  · rw [get?_erase_of_ne _ hk]
    by_cases hkey : key = k
    · subst k
      rw [get?_insert_self, get?_insert_self]
    · rw [get?_insert_of_ne _ _ hkey, get?_insert_of_ne _ _ hkey, get?_erase_of_ne _ hk]

/-- A value that is put where it stands changes nothing. -/
theorem insert_of_get? {table : Table κ ν} {key : κ} {value : ν}
    (h : table.get? key = some value) : table.insert key value = table := by
  refine ext_get? fun k ↦ ?_
  by_cases hk : key = k
  · subst k
    rw [get?_insert_self, h]
  · exact get?_insert_of_ne table value hk

end ShaderGuard.Table
