import ShaderGuard.Fault
import ShaderGuard.Table

/-!
Work that waits for deferred operations.

A driver may finish the creation of pipelines later, on an operation that the application waits for.
Whoever tracks such an operation seeds a list for it; work is appended to that list and taken out
when the operation is complete. The lemmas say what each step does to the list of one operation and
that it leaves all other lists alone.
-/

set_option autoImplicit false

namespace ShaderGuard

/-- The work that waits, by operation. -/
abbrev DeferredQueue (α : Type) := Table DeferredHandle (List α)

namespace DeferredQueue

variable {α : Type}

/-- Whether an operation is tracked. -/
def isPending (queue : DeferredQueue α) (operation : DeferredHandle) : Bool :=
  queue.contains operation

/-- Track an operation with an empty list, and forget any list it had. -/
def seed (queue : DeferredQueue α) (operation : DeferredHandle) : DeferredQueue α :=
  queue.insert operation []

/-- Put work behind what already waits for an operation. It has to be tracked. -/
def append (queue : DeferredQueue α) (operation : DeferredHandle) (work : α) :
    Except Fault (DeferredQueue α) :=
  match queue.get? operation with
  | none => .error (.deferredOperationNotTracked operation)
  | some waiting => .ok (queue.insert operation (waiting ++ [work]))

/-- Take the list of an operation out of the queue: the list, if the operation is tracked, and the
queue without it. -/
def pop (queue : DeferredQueue α) (operation : DeferredHandle) :
    Option (List α) × DeferredQueue α :=
  (queue.get? operation, queue.erase operation)

theorem append_eq_error_iff (queue : DeferredQueue α) (operation : DeferredHandle) (work : α) :
    queue.append operation work = .error (.deferredOperationNotTracked operation) ↔
      queue.isPending operation = false := by
  simp only [append, isPending, Table.contains]
  cases queue.get? operation <;> simp

theorem isPending_of_append_ok {queue after : DeferredQueue α} {operation : DeferredHandle}
    {work : α} (h : queue.append operation work = .ok after) : queue.isPending operation = true := by
  unfold append at h
  unfold isPending Table.contains
  cases hwaiting : queue.get? operation with
  | none =>
    rw [hwaiting] at h
    cases h
  | some waiting => rfl

/-- Work is turned away only from operations that are not tracked. -/
theorem eq_of_append_error {queue : DeferredQueue α} {operation : DeferredHandle} {work : α}
    {fault : Fault} (h : queue.append operation work = .error fault) :
    queue.isPending operation = false ∧ fault = .deferredOperationNotTracked operation := by
  unfold append at h
  unfold isPending Table.contains
  cases hwaiting : queue.get? operation with
  | none =>
    rw [hwaiting] at h
    cases h
    exact ⟨rfl, rfl⟩
  | some waiting =>
    rw [hwaiting] at h
    cases h

theorem get?_of_append {queue after : DeferredQueue α} {operation : DeferredHandle} {work : α}
    (h : queue.append operation work = .ok after) :
    ∃ waiting, queue.get? operation = some waiting ∧
      after.get? operation = some (waiting ++ [work]) := by
  simp only [append] at h
  split at h
  · cases h
  · next waiting hwaiting =>
    cases h
    exact ⟨waiting, hwaiting, Table.get?_insert_self _ _ _⟩

theorem get?_of_append_of_ne {queue after : DeferredQueue α} {operation other : DeferredHandle}
    {work : α} (h : queue.append operation work = .ok after) (hne : operation ≠ other) :
    after.get? other = queue.get? other := by
  simp only [append] at h
  split at h
  · cases h
  · cases h
    exact Table.get?_insert_of_ne _ _ hne

@[simp] theorem get?_seed (queue : DeferredQueue α) (operation : DeferredHandle) :
    (queue.seed operation).get? operation = some [] := Table.get?_insert_self _ _ _

theorem get?_pop_of_ne (queue : DeferredQueue α) {operation other : DeferredHandle}
    (h : operation ≠ other) : (queue.pop operation).2.get? other = queue.get? other :=
  Table.get?_erase_of_ne queue h

end DeferredQueue

end ShaderGuard
