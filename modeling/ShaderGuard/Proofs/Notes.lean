import Mathlib.Data.List.Forall2
import ShaderGuard.Sequence

/-!
# Notes taken along a list

`thread` works through a list while a state is handed along. What each step has to say of itself is
noted down by `threadNotes`, in the order of the steps. A relation between states and the notes
taken between them is kept by the whole work if each step keeps it (`Chains.thread`). Results that
each come with the notes of their step stand to the list, one by one, as they stand to all notes and
to the last state (`forall₂_thread`, and `forall₂_thread_of_step` where neither counts), and in sum
they are a part of what was noted (`flatMap_thread_sublist`). Where each step can be told on a
sheet, the work can, with all that was noted split among the sheets (`exists_sheets_thread`).
-/

set_option autoImplicit false

namespace ShaderGuard

variable {σ α β τ : Type}

/-- What is noted while a list is worked through, in order. -/
def threadNotes (note : σ → α → List τ) (step : σ → α → β × σ) : σ → List α → List τ
  | _, [] => []
  | s, a :: rest => note s a ++ threadNotes note step (step s a).2 rest

/-- The notes of a list that is cut in two are those of the two runs. -/
theorem threadNotes_append (note : σ → α → List τ) (step : σ → α → β × σ) (s : σ)
    (xs ys : List α) :
    threadNotes note step s (xs ++ ys) =
      threadNotes note step s xs ++ threadNotes note step (thread step s xs).2 ys := by
  induction xs generalizing s with
  | nil => rfl
  | cons a rest ih =>
    simp only [List.cons_append, threadNotes, thread_cons, List.append_assoc]
    rw [ih]

/-- A relation between two states and what is noted between them that may be followed along a
run. -/
structure Chains (R : σ → List τ → σ → Prop) : Prop where
  refl : ∀ s, R s [] s
  trans : ∀ {s t u : σ} {first second : List τ}, R s first t → R t second u →
    R s (first ++ second) u

/-- Assumes: a relation that each step keeps. Working through a list keeps it. -/
theorem Chains.thread {R : σ → List τ → σ → Prop} (h : Chains R) {note : σ → α → List τ}
    {step : σ → α → β × σ} (hstep : ∀ s a, R s (note s a) (step s a).2) (s : σ) (xs : List α) :
    R s (threadNotes note step s xs) (thread step s xs).2 := by
  induction xs generalizing s with
  | nil => exact h.refl s
  | cons a rest ih => exact h.trans (hstep s a) (ih _)

/-- Assumes: what each result contributes is part of what its step notes. What all results
contribute is part of all notes, in order. -/
theorem flatMap_thread_sublist {κ : Type} {note : σ → α → List τ} {step : σ → α → β × σ}
    {share : β → List κ} {view : τ → κ}
    (hstep : ∀ s a, (share (step s a).1).Sublist ((note s a).map view)) (s : σ) (xs : List α) :
    ((thread step s xs).1.flatMap share).Sublist ((threadNotes note step s xs).map view) := by
  induction xs generalizing s with
  | nil => exact List.Sublist.refl []
  | cons a rest ih =>
    simp only [thread_cons, threadNotes, List.flatMap_cons, List.map_append]
    exact (hstep s a).append (ih _)

/-- Assumes: states grow from step to step, and a result stands to its element as the notes of its
step and the state behind it say, and still does when there are more notes and the state has grown.
Then all results stand to the list as all notes and the last state say. -/
theorem forall₂_thread (Q : List τ → σ → α → β → Prop) {grows : σ → σ → Prop}
    (hrefl : ∀ s, grows s s) (htrans : ∀ {s t u}, grows s t → grows t u → grows s u)
    {note : σ → α → List τ} {step : σ → α → β × σ} (hnext : ∀ s a, grows s (step s a).2)
    (hmono : ∀ {notes more : List τ} {s t : σ} {a b}, notes ⊆ more → grows s t →
      Q notes s a b → Q more t a b)
    (hstep : ∀ s a, Q (note s a) (step s a).2 a (step s a).1) (s : σ) (xs : List α) :
    List.Forall₂ (Q (threadNotes note step s xs) (thread step s xs).2) xs
      (thread step s xs).1 := by
  induction xs generalizing s with
  | nil => exact List.Forall₂.nil
  | cons a rest ih =>
    have hrest : grows (step s a).2 (thread step (step s a).2 rest).2 :=
      thread_invariant step (grows (step s a).2) (fun t b h ↦ htrans h (hnext t b)) _ rest (hrefl _)
    refine List.Forall₂.cons ?_ ?_
    · exact hmono (List.subset_append_left _ _) hrest (hstep s a)
    · exact (ih _).imp fun _ _ h ↦ hmono (List.subset_append_right _ _) (hrefl _) h

/-- Assumes: that the result of each step stands to its element, whatever the state. Then all
results stand to the list, one by one. -/
theorem forall₂_thread_of_step {Q : α → β → Prop} {step : σ → α → β × σ}
    (hstep : ∀ s a, Q a (step s a).1) (s : σ) (xs : List α) :
    List.Forall₂ Q xs (thread step s xs).1 := by
  induction xs generalizing s with
  | nil => exact List.Forall₂.nil
  | cons a rest ih => exact List.Forall₂.cons (hstep s a) (ih _)

/-- Assumes: that each step keeps a property of states, and that where it holds the result of the
step stands to its element. If it holds at first, it holds throughout, and all results stand to the
list, one by one. -/
theorem forall₂_thread_of_keeps (keeps : σ → Prop) (Q : α → β → Prop) (step : σ → α → β × σ)
    (hstep : ∀ s a, keeps s → keeps (step s a).2 ∧ Q a (step s a).1) {s : σ} (hs : keeps s)
    (xs : List α) : keeps (thread step s xs).2 ∧ List.Forall₂ Q xs (thread step s xs).1 := by
  induction xs generalizing s with
  | nil => exact ⟨hs, List.Forall₂.nil⟩
  | cons a rest ih =>
    obtain ⟨hnext, hone⟩ := hstep s a hs
    obtain ⟨hlast, hrest⟩ := ih hnext
    exact ⟨hlast, List.Forall₂.cons hone hrest⟩

/-- Assumes: that each step keeps a property of states, and that where it holds the step can be told
by a sheet, with its result, with what the step notes, and with further notes that lead from its
state to the next. If it holds at first, the whole work can be told by sheets, one for each
element. -/
theorem exists_sheets_thread_of_keeps {ω κ : Type} (keeps : σ → Prop)
    {R : σ → List κ → σ → Prop} (h : Chains R) {Q : α → ω → Prop} {result : ω → β}
    {noted : ω → List τ} {further : ω → List κ} {note : σ → α → List τ} {step : σ → α → β × σ}
    (hstep : ∀ s a, keeps s → keeps (step s a).2 ∧ ∃ sheet, Q a sheet ∧
      result sheet = (step s a).1 ∧ noted sheet = note s a ∧ R s (further sheet) (step s a).2)
    {s : σ} (hs : keeps s) (xs : List α) :
    ∃ sheets, List.Forall₂ Q xs sheets ∧ sheets.map result = (thread step s xs).1 ∧
      sheets.flatMap noted = threadNotes note step s xs ∧
      R s (sheets.flatMap further) (thread step s xs).2 := by
  induction xs generalizing s with
  | nil => exact ⟨[], List.Forall₂.nil, rfl, rfl, h.refl s⟩
  | cons a rest ih =>
    obtain ⟨hnext, sheet, hsheet, hresult, hnoted, hfurther⟩ := hstep s a hs
    obtain ⟨sheets, hsheets, hresults, hnotes, hleads⟩ := ih hnext
    refine ⟨sheet :: sheets, List.Forall₂.cons hsheet hsheets, ?_, ?_, h.trans hfurther hleads⟩
    · rw [List.map_cons, hresult, hresults, thread_cons]
    · rw [List.flatMap_cons, hnoted, hnotes, threadNotes]

/-- Assumes: whatever the state, a step can be told by a sheet. Then the whole work can be told by
sheets, one for each element. -/
theorem exists_sheets_thread {ω κ : Type} {R : σ → List κ → σ → Prop} (h : Chains R)
    {Q : α → ω → Prop} {result : ω → β} {noted : ω → List τ} {further : ω → List κ}
    {note : σ → α → List τ} {step : σ → α → β × σ}
    (hstep : ∀ s a, ∃ sheet, Q a sheet ∧ result sheet = (step s a).1 ∧ noted sheet = note s a ∧
      R s (further sheet) (step s a).2) (s : σ) (xs : List α) :
    ∃ sheets, List.Forall₂ Q xs sheets ∧ sheets.map result = (thread step s xs).1 ∧
      sheets.flatMap noted = threadNotes note step s xs ∧
      R s (sheets.flatMap further) (thread step s xs).2 :=
  exists_sheets_thread_of_keeps (fun _ ↦ True) h (fun s a _ ↦ ⟨trivial, hstep s a⟩) trivial xs

/-- Assumes: that each step keeps a property of states, and that where it holds the result of the
step, with what it notes, stands to its element. If it holds at first, all results stand to the list
one by one, with all that was noted split among them. -/
theorem exists_noted_thread_of_keeps (keeps : σ → Prop) (Q : α → β × List τ → Prop)
    (note : σ → α → List τ) (step : σ → α → β × σ)
    (hstep : ∀ s a, keeps s → keeps (step s a).2 ∧ Q a ((step s a).1, note s a)) {s : σ}
    (hs : keeps s) (xs : List α) :
    ∃ sheets : List (β × List τ), List.Forall₂ Q xs sheets ∧
      sheets.map Prod.fst = (thread step s xs).1 ∧
      sheets.flatMap Prod.snd = threadNotes note step s xs := by
  induction xs generalizing s with
  | nil => exact ⟨[], List.Forall₂.nil, rfl, rfl⟩
  | cons a rest ih =>
    obtain ⟨hnext, hone⟩ := hstep s a hs
    obtain ⟨sheets, hsheets, hresults, hnotes⟩ := ih hnext
    refine ⟨((step s a).1, note s a) :: sheets, List.Forall₂.cons hone hsheets, ?_, ?_⟩
    · rw [List.map_cons, hresults, thread_cons]
    · rw [List.flatMap_cons, hnotes, threadNotes]

/-- Elements may be numbered to be worked through, and their numbers forgotten afterwards. -/
theorem forall₂_of_zipIdx {R : α → β → Prop} {xs : List α} {ys : List β} {first : Nat}
    (h : List.Forall₂ (fun (indexed : α × Nat) y ↦ R indexed.1 y) (xs.zipIdx first) ys) :
    List.Forall₂ R xs ys := by
  have hmap := List.forall₂_map_left_iff.mpr h
  rwa [List.zipIdx_map_fst] at hmap

/-- Each result stands to some element. -/
theorem exists_mem_of_forall₂ {R : α → β → Prop} {xs : List α} {ys : List β}
    (h : List.Forall₂ R xs ys) {y : β} (hy : y ∈ ys) : ∃ x ∈ xs, R x y := by
  induction h with
  | nil => exact absurd hy List.not_mem_nil
  | @cons x y' xs ys hone _ ih =>
    rcases List.mem_cons.mp hy with rfl | hy
    · exact ⟨x, List.mem_cons_self, hone⟩
    · obtain ⟨other, hother, hstands⟩ := ih hy
      exact ⟨other, List.mem_cons_of_mem _ hother, hstands⟩

/-- To each element some result stands in its place. -/
theorem exists_zip_of_forall₂ {R : α → β → Prop} {xs : List α} {ys : List β}
    (h : List.Forall₂ R xs ys) {x : α} (hx : x ∈ xs) : ∃ y, (x, y) ∈ xs.zip ys ∧ R x y := by
  induction h with
  | nil => exact absurd hx List.not_mem_nil
  | @cons x' y xs ys hone _ ih =>
    rw [List.zip_cons_cons]
    rcases List.mem_cons.mp hx with rfl | hx
    · exact ⟨y, List.mem_cons_self, hone⟩
    · obtain ⟨other, hother, hstands⟩ := ih hx
      exact ⟨other, List.mem_cons_of_mem _ hother, hstands⟩

/-- What is known of each result may be added to how it stands to its element. -/
theorem forall₂_and_of_mem {R : α → β → Prop} {Q : β → Prop} {xs : List α} {ys : List β}
    (h : List.Forall₂ R xs ys) (hq : ∀ y ∈ ys, Q y) :
    List.Forall₂ (fun x y ↦ R x y ∧ Q y) xs ys := by
  induction h with
  | nil => exact List.Forall₂.nil
  | cons hone _ ih =>
    exact List.Forall₂.cons ⟨hone, hq _ List.mem_cons_self⟩
      (ih fun y hy ↦ hq y (List.mem_cons_of_mem _ hy))

/-- Lists that stand to each other are the two sides of one list of pairs. -/
theorem exists_pairs_of_forall₂ {R : α → β → Prop} {xs : List α} {ys : List β}
    (h : List.Forall₂ R xs ys) :
    ∃ pairs : List (α × β), pairs.map Prod.fst = xs ∧ pairs.map Prod.snd = ys ∧
      ∀ pair ∈ pairs, R pair.1 pair.2 := by
  obtain ⟨hlength, hpairs⟩ := List.forall₂_iff_zip.mp h
  refine ⟨xs.zip ys, List.map_fst_zip (Nat.le_of_eq hlength),
    List.map_snd_zip (Nat.le_of_eq hlength.symm), ?_⟩
  exact fun pair hpair ↦ hpairs hpair

/-- Two lists of results that begin alike, one by one, may be told as one. -/
theorem exists_joined_of_forall₂ {γ δ : Type} {R : α → β × γ → Prop} {S : α → β × δ → Prop}
    {xs : List α} {ys : List (β × γ)} {zs : List (β × δ)} (h : List.Forall₂ R xs ys)
    (h' : List.Forall₂ S xs zs) (hsame : ys.map Prod.fst = zs.map Prod.fst) :
    ∃ joined : List (β × γ × δ), joined.map (fun all ↦ (all.1, all.2.1)) = ys ∧
      joined.map (fun all ↦ (all.1, all.2.2)) = zs ∧
      List.Forall₂ (fun x all ↦ R x (all.1, all.2.1) ∧ S x (all.1, all.2.2)) xs joined := by
  induction h generalizing zs with
  | nil =>
    cases h'
    exact ⟨[], rfl, rfl, List.Forall₂.nil⟩
  | @cons x y xs ys hone _ ih =>
    cases h' with
    | @cons _ z _ zs hother hrest =>
      obtain ⟨hfirst, hothers⟩ := List.cons.inj hsame
      obtain ⟨joined, rfl, rfl, hjoined⟩ := ih hrest hothers
      obtain ⟨first, second⟩ := y
      obtain ⟨_, third⟩ := z
      cases hfirst
      exact ⟨(first, second, third) :: joined, rfl, rfl, List.Forall₂.cons ⟨hone, hother⟩ hjoined⟩

end ShaderGuard
