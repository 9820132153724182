/-!
Working through a list from left to right while a state is handed along.

Every creation call of the library takes a list of objects and treats them in order, and what is
done to one may depend on all that came before. `thread` is that loop. The lemmas say that it gives
one result per element (`length_thread`), that a list may be cut anywhere (`thread_append`), and
that what each step keeps the whole run keeps (`thread_invariant`).

What is in force at the end of such a list is often due to one element of it, and to all behind that
element having left it alone. `LastsIn` says so, looking back from the end, and `lastsIn_concat_iff`
is what a further element changes.
-/

set_option autoImplicit false

namespace ShaderGuard

variable {σ α β : Type}

/-- Apply `step` to each element in order; the state after one element is the state before the
next. -/
def thread (step : σ → α → β × σ) : σ → List α → List β × σ
  | s, [] => ([], s)
  | s, a :: rest =>
    let head := step s a
    let tail := thread step head.2 rest
    (head.1 :: tail.1, tail.2)

@[simp] theorem thread_nil (step : σ → α → β × σ) (s : σ) : thread step s [] = ([], s) := rfl

@[simp] theorem thread_cons (step : σ → α → β × σ) (s : σ) (a : α) (rest : List α) :
    thread step s (a :: rest) =
      ((step s a).1 :: (thread step (step s a).2 rest).1, (thread step (step s a).2 rest).2) := rfl

@[simp] theorem length_thread (step : σ → α → β × σ) (s : σ) (xs : List α) :
    (thread step s xs).1.length = xs.length := by
  induction xs generalizing s with
  | nil => rfl
  | cons a rest ih => simp [ih]

/-- A list that is cut in two is worked through in two runs, the second from where the first
ended. -/
theorem thread_append (step : σ → α → β × σ) (s : σ) (xs ys : List α) :
    thread step s (xs ++ ys) =
      ((thread step s xs).1 ++ (thread step (thread step s xs).2 ys).1,
        (thread step (thread step s xs).2 ys).2) := by
  induction xs generalizing s with
  | nil => rfl
  | cons a rest ih => simp [ih]

/-- What every single step keeps, the run keeps. -/
theorem thread_invariant (step : σ → α → β × σ) (keeps : σ → Prop)
    (hstep : ∀ s a, keeps s → keeps (step s a).2) (s : σ) (xs : List α) (hs : keeps s) :
    keeps (thread step s xs).2 := by
  induction xs generalizing s with
  | nil => exact hs
  | cons a rest ih => exact ih _ (hstep s a hs)

/-! ### What lasts -/

/-- That what some element brings, with what stands before it, lasts to the end of a list: everything
behind the element spares it. -/
def LastsIn (brings : List α → α → Prop) (spares : α → Prop) (xs : List α) : Prop :=
  ∃ older x newer, xs = older ++ x :: newer ∧ brings older x ∧ ∀ y ∈ newer, spares y

theorem not_lastsIn_nil (brings : List α → α → Prop) (spares : α → Prop) :
    ¬ LastsIn brings spares [] := by
  rintro ⟨older, x, newer, hsplit, -⟩
  simp at hsplit

/-- One more element either brings it, or has to spare it. -/
theorem lastsIn_concat_iff (brings : List α → α → Prop) (spares : α → Prop) (xs : List α) (x : α) :
    LastsIn brings spares (xs ++ [x]) ↔
      brings xs x ∨ LastsIn brings spares xs ∧ spares x := by
  constructor
  · rintro ⟨older, y, newer, hsplit, hbrings, hspares⟩
    rcases List.eq_nil_or_concat newer with rfl | ⟨newer, last, rfl⟩
    · obtain ⟨rfl, hlast⟩ := List.append_inj' hsplit rfl
      cases hlast
      exact Or.inl hbrings
    · rw [List.concat_eq_append] at hsplit hspares
      rw [← List.cons_append, ← List.append_assoc] at hsplit
      obtain ⟨hinit, hlast⟩ := List.append_inj' hsplit rfl
      cases hlast
      exact Or.inr ⟨⟨older, y, newer, hinit, hbrings, fun z hz ↦
        hspares z (List.mem_append_left _ hz)⟩,
        hspares _ (List.mem_append_right _ List.mem_cons_self)⟩
  · rintro (hbrings | ⟨⟨older, y, newer, rfl, hbrings, hspares⟩, hspared⟩)
    · exact ⟨xs, x, [], rfl, hbrings, fun y hy ↦ absurd hy List.not_mem_nil⟩
    · refine ⟨older, y, newer ++ [x], by simp, hbrings, fun z hz ↦ ?_⟩
      rcases List.mem_append.mp hz with hz | hz
      · exact hspares z hz
      · rwa [List.mem_singleton.mp hz]

end ShaderGuard
