import ShaderGuard.Handle

/-!
Tables with at most one entry per key.

The entries stand in ascending order of their keys, and the type says so: two tables that answer
every look-up alike are the same table (`Table.ext_get?`), whatever order they were filled in. The
other lemmas give the look-up after each operation.
-/

set_option autoImplicit false

namespace ShaderGuard

/-- Keys are compared by a number that tells them apart. -/
class TableKey (κ : Type) where
  /-- The number of a key. -/
  rank : κ → Nat
  rank_injective : ∀ a b : κ, rank a = rank b → a = b

instance : TableKey UInt32 := ⟨UInt32.toNat, fun _ _ h ↦ UInt32.toNat_inj.mp h⟩

instance : TableKey UInt64 := ⟨UInt64.toNat, fun _ _ h ↦ UInt64.toNat_inj.mp h⟩

instance (kind : ObjectKind) : TableKey (Handle kind) :=
  ⟨fun handle ↦ handle.raw.toNat, fun _ _ h ↦ Handle.raw_injective (UInt64.toNat_inj.mp h)⟩

open TableKey (rank)

variable {κ ν : Type} [TableKey κ]

/-- Whether entries stand in ascending order of their keys. -/
def Ascending (entries : List (κ × ν)) : Prop :=
  entries.Pairwise fun a b ↦ rank a.1 < rank b.1

/-- A table: its entries in ascending order of their keys. -/
@[ext] structure Table (κ ν : Type) [TableKey κ] where
  entries : List (κ × ν)
  ascending : Ascending entries

namespace Table

/-- The table without entries. -/
def empty : Table κ ν := ⟨[], List.Pairwise.nil⟩

instance : Inhabited (Table κ ν) := ⟨empty⟩

/-- The number of entries. -/
def size (table : Table κ ν) : Nat := table.entries.length

/-- Whether there are no entries. -/
def isEmpty (table : Table κ ν) : Bool := table.entries.isEmpty

/-- The keys in ascending order. -/
def keys (table : Table κ ν) : List κ := table.entries.map Prod.fst

/-- Look-up in a list of entries. -/
def find (key : κ) : List (κ × ν) → Option ν
  | [] => none
  | (k, v) :: rest => if rank k = rank key then some v else find key rest

/-- The value under a key. -/
def get? (table : Table κ ν) (key : κ) : Option ν := find key table.entries

/-- Whether a key has an entry. -/
def contains (table : Table κ ν) (key : κ) : Bool := (table.get? key).isSome

/-- Place an entry among ascending entries, in place of an entry with the same key. -/
def place (key : κ) (value : ν) : List (κ × ν) → List (κ × ν)
  | [] => [(key, value)]
  | (k, v) :: rest =>
    if rank key < rank k then (key, value) :: (k, v) :: rest
    else if rank key = rank k then (key, value) :: rest
    else (k, v) :: place key value rest

theorem mem_place {key : κ} {value : ν} {entries : List (κ × ν)} {entry : κ × ν}
    (h : entry ∈ place key value entries) : entry = (key, value) ∨ entry ∈ entries := by
  induction entries with
  | nil => simpa [place] using h
  | cons head rest ih =>
    obtain ⟨k, v⟩ := head
    simp only [place] at h
    split at h
    · simpa using h
    · split at h
      · rcases List.mem_cons.mp h with h | h
        · exact Or.inl h
        · exact Or.inr (List.mem_cons_of_mem _ h)
      · rcases List.mem_cons.mp h with h | h
        · exact Or.inr (h ▸ List.mem_cons_self)
        · exact (ih h).imp_right (List.mem_cons_of_mem _)

theorem ascending_place (key : κ) (value : ν) {entries : List (κ × ν)} (h : Ascending entries) :
    Ascending (place key value entries) := by
  induction entries with
  | nil => simp [Ascending, place]
  | cons head rest ih =>
    obtain ⟨k, v⟩ := head
    obtain ⟨hhead, hrest⟩ := List.pairwise_cons.mp h
    simp only [place]
    split
    · next hlt =>
      refine List.pairwise_cons.mpr ⟨fun entry hentry ↦ ?_, h⟩
      rcases List.mem_cons.mp hentry with rfl | hentry
      · exact hlt
      · exact Nat.lt_trans hlt (hhead entry hentry)
    · split
      · next heq =>
        exact List.pairwise_cons.mpr ⟨fun entry hentry ↦ heq ▸ hhead entry hentry, hrest⟩
      · next hlt hne =>
        refine List.pairwise_cons.mpr ⟨fun entry hentry ↦ ?_, ih hrest⟩
        rcases mem_place hentry with rfl | hentry
        · show rank k < rank key
          omega
        · exact hhead entry hentry

/-- Put a value under a key, in place of what stood there. -/
def insert (table : Table κ ν) (key : κ) (value : ν) : Table κ ν :=
  ⟨place key value table.entries, ascending_place key value table.ascending⟩

/-- Keep the entries that a test accepts. -/
def filter (table : Table κ ν) (keep : κ → ν → Bool) : Table κ ν :=
  ⟨table.entries.filter fun entry ↦ keep entry.1 entry.2, table.ascending.filter _⟩

/-- Remove the entry of a key. -/
def erase (table : Table κ ν) (key : κ) : Table κ ν :=
  table.filter fun k _ ↦ rank k != rank key

/-- The table of a list of entries, of which the last with a key counts. -/
def ofList (entries : List (κ × ν)) : Table κ ν :=
  entries.foldl (fun table entry ↦ table.insert entry.1 entry.2) empty

@[simp] theorem get?_empty (key : κ) : (empty : Table κ ν).get? key = none := rfl

theorem find_place (key other : κ) (value : ν) (entries : List (κ × ν)) :
    find other (place key value entries) =
      if rank key = rank other then some value else find other entries := by
  induction entries with
  | nil => rfl
  | cons head rest ih =>
    obtain ⟨k, v⟩ := head
    simp only [place]
    split
    · rfl
    · split
      · simp only [find]
        split
        · rfl
        · rw [if_neg (by omega)]
      · simp only [find, ih]
        split
        · rw [if_neg (by omega)]
        · rfl

theorem get?_insert (table : Table κ ν) (key other : κ) (value : ν) :
    (table.insert key value).get? other =
      if rank key = rank other then some value else table.get? other :=
  find_place key other value table.entries

@[simp] theorem get?_insert_self (table : Table κ ν) (key : κ) (value : ν) :
    (table.insert key value).get? key = some value := by
  simp [get?_insert]

theorem get?_insert_of_ne (table : Table κ ν) {key other : κ} (value : ν) (h : key ≠ other) :
    (table.insert key value).get? other = table.get? other := by
  rw [get?_insert, if_neg fun hrank ↦ h (TableKey.rank_injective _ _ hrank)]

theorem find_eq_none_of_lt {key : κ} {entries : List (κ × ν)}
    (h : ∀ entry ∈ entries, rank key < rank entry.1) : find key entries = none := by
  induction entries with
  | nil => rfl
  | cons head rest ih =>
    have hhead := h head List.mem_cons_self
    simp only [find]
    rw [if_neg (by omega)]
    exact ih fun entry hentry ↦ h entry (List.mem_cons_of_mem _ hentry)

/-- A look-up answers `v` exactly when the entry is there. -/
theorem get?_eq_some_iff (table : Table κ ν) (key : κ) (value : ν) :
    table.get? key = some value ↔ (key, value) ∈ table.entries := by
  obtain ⟨entries, hasc⟩ := table
  show find key entries = some value ↔ (key, value) ∈ entries
  induction entries with
  | nil => simp [find]
  | cons head rest ih =>
    obtain ⟨k, v⟩ := head
    obtain ⟨hhead, hrest⟩ := List.pairwise_cons.mp hasc
    simp only [find]
    split
    · next heq =>
      obtain rfl := TableKey.rank_injective _ _ heq
      constructor
      · intro h
        cases h
        exact List.mem_cons_self
      · intro h
        rcases List.mem_cons.mp h with h | h
        · cases h; rfl
        · exact absurd (hhead _ h) (Nat.lt_irrefl _)
    · next hne =>
      rw [ih hrest]
      constructor
      · exact List.mem_cons_of_mem _
      · intro h
        rcases List.mem_cons.mp h with h | h
        · cases h; exact absurd rfl hne
        · exact h

theorem get?_filter (table : Table κ ν) (keep : κ → ν → Bool) (key : κ) :
    (table.filter keep).get? key = (table.get? key).filter (keep key) := by
  apply Option.ext
  intro value
  rw [get?_eq_some_iff, Option.filter_eq_some_iff, get?_eq_some_iff]
  simp [filter]

theorem get?_erase (table : Table κ ν) (key other : κ) :
    (table.erase key).get? other = if rank key = rank other then none else table.get? other := by
  rw [erase, get?_filter]
  split
  · next h => cases table.get? other <;> simp [Option.filter, h]
  · next h =>
    have hne : rank other ≠ rank key := fun hrank ↦ h hrank.symm
    cases table.get? other <;> simp [Option.filter, hne]

@[simp] theorem get?_erase_self (table : Table κ ν) (key : κ) :
    (table.erase key).get? key = none := by
  simp [get?_erase]

theorem get?_erase_of_ne (table : Table κ ν) {key other : κ} (h : key ≠ other) :
    (table.erase key).get? other = table.get? other := by
  rw [get?_erase, if_neg fun hrank ↦ h (TableKey.rank_injective _ _ hrank)]

private theorem entries_eq_of_mem_iff {first second : List (κ × ν)} (hfirst : Ascending first)
    (hsecond : Ascending second) (h : ∀ entry, entry ∈ first ↔ entry ∈ second) :
    first = second := by
  induction first generalizing second with
  | nil =>
    cases second with
    | nil => rfl
    | cons b rest => exact absurd ((h b).mpr List.mem_cons_self) (List.not_mem_nil)
  | cons a rest ih =>
    cases second with
    | nil => exact absurd ((h a).mp List.mem_cons_self) (List.not_mem_nil)
    | cons b more =>
      obtain ⟨ha, hrest⟩ := List.pairwise_cons.mp hfirst
      obtain ⟨hb, hmore⟩ := List.pairwise_cons.mp hsecond
      have hab : a = b := by
        rcases List.mem_cons.mp ((h a).mp List.mem_cons_self) with hmem | hmem
        · exact hmem
        · rcases List.mem_cons.mp ((h b).mpr List.mem_cons_self) with hmem' | hmem'
          · exact hmem'.symm
          · exact absurd (Nat.lt_trans (hb a hmem) (ha b hmem')) (Nat.lt_irrefl _)
      subst hab
      congr 1
      refine ih hrest hmore fun entry ↦ ⟨fun hentry ↦ ?_, fun hentry ↦ ?_⟩
      · rcases List.mem_cons.mp ((h entry).mp (List.mem_cons_of_mem _ hentry)) with rfl | hmem
        · exact absurd (ha entry hentry) (Nat.lt_irrefl _)
        · exact hmem
      · rcases List.mem_cons.mp ((h entry).mpr (List.mem_cons_of_mem _ hentry)) with rfl | hmem
        · exact absurd (hb entry hentry) (Nat.lt_irrefl _)
        · exact hmem

/-- Tables that answer every look-up alike are equal. -/
theorem ext_get? {first second : Table κ ν} (h : ∀ key, first.get? key = second.get? key) :
    first = second := by
  apply Table.ext
  refine entries_eq_of_mem_iff first.ascending second.ascending fun entry ↦ ?_
  obtain ⟨key, value⟩ := entry
  rw [← get?_eq_some_iff, ← get?_eq_some_iff, h]

end Table

/-- A set of keys: a table that says nothing about them. -/
abbrev KeySet (κ : Type) [TableKey κ] := Table κ Unit

namespace KeySet

/-- Put a key into a set. -/
def add (set : KeySet κ) (key : κ) : KeySet κ := set.insert key ()

/-- The set of the members of a list. -/
def ofList (members : List κ) : KeySet κ := members.foldl add Table.empty

/-- The members of both sets. -/
def union (first second : KeySet κ) : KeySet κ := second.keys.foldl add first

end KeySet

end ShaderGuard
