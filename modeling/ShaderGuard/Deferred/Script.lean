import ShaderGuard.Deferred.Queue

/-!
Work that uses the queue it waits in.

A script is a piece of work that, when it runs, takes steps on the queue: it may track operations,
append further scripts, take lists out and complete operations, its own included. Completing an
operation takes its list out first and runs it then, so that what a script appends to the operation
that is being completed is refused, unless the operation has been tracked anew.

Running is a machine with a list of tasks. A step moves scripts from the task list into the queue or
from the queue into the task list, and loses some weight; what tasks and queue weigh together falls
with every task, so the machine stops.
-/

set_option autoImplicit false

namespace ShaderGuard.Deferred

/-- Work with a tag by which it is told apart, and the steps it takes when it runs. -/
structure Script (Step : Type) where
  tag : String
  steps : List Step

/-- A step on the queue. -/
inductive Step where
  | seed (operation : DeferredHandle)
  | insert (operation : DeferredHandle) (scripts : List (Script Step))
  | append (operation : DeferredHandle) (script : Script Step)
  | pop (operation : DeferredHandle)
  | isPending (operation : DeferredHandle)
  | complete (operation : DeferredHandle) (pipelines : List PipelineHandle)

/-- The name of a step. -/
def Step.name : Step → String
  | .seed _ => "seed"
  | .insert _ _ => "insert"
  | .append _ _ => "append"
  | .pop _ => "pop"
  | .isPending _ => "is_pending"
  | .complete _ _ => "complete"

/-- A queue of scripts. -/
abbrev Queue := DeferredQueue (Script Step)

/-- The answer to a step. -/
inductive Answer where
  | done
  /-- Whether appending was accepted. -/
  | appended (result : Except Fault Unit)
  /-- How long the list was that was taken out, if there was one. -/
  | taken (length : Option Nat)
  | pending (answer : Bool)
  /-- How many scripts were run. -/
  | completed (count : Nat)

/-- What can be seen of a run. -/
inductive Event where
  /-- A script begins to run, with the pipelines of the operation. -/
  | ran (tag : String) (pipelines : List PipelineHandle)
  /-- A running script has taken a step. -/
  | stepped (tag : String) (step : Step) (answer : Answer)

/-- What is still to be done in a run. -/
inductive Task where
  | run (script : Script Step) (pipelines : List PipelineHandle)
  /-- Take a step of the script with this tag. -/
  | take (tag : String) (step : Step)
  /-- Say what a step has answered. -/
  | report (tag : String) (step : Step) (answer : Answer)

/-- The effect of a step: its answer, the queue behind it, and what is to be run at once. -/
structure Effect where
  answer : Answer
  queue : Queue
  tasks : List Task

/-- Take a step. -/
def Step.effect (queue : Queue) : Step → Effect
  | .seed operation => ⟨.done, queue.seed operation, []⟩
  | .insert operation scripts => ⟨.done, Table.insert queue operation scripts, []⟩
  | .append operation script =>
    match queue.append operation script with
    | .ok after => ⟨.appended (.ok ()), after, []⟩
    | .error fault => ⟨.appended (.error fault), queue, []⟩
  | .pop operation =>
    let taken := queue.pop operation
    ⟨.taken (taken.1.map List.length), taken.2, []⟩
  | .isPending operation => ⟨.pending (queue.isPending operation), queue, []⟩
  | .complete operation pipelines =>
    let taken := queue.pop operation
    let scripts := taken.1.getD []
    ⟨.completed scripts.length, taken.2, scripts.map fun script ↦ .run script pipelines⟩

mutual
/-- The weight of a step: two, and the weight of the scripts in it. -/
def stepWeight : Step → Nat
  | .insert _ scripts => 2 + scriptsWeight scripts
  | .append _ script => 2 + scriptWeight script
  | _ => 2

/-- The weight of a script: one, and the weight of its steps. -/
def scriptWeight : Script Step → Nat
  | ⟨_, steps⟩ => 1 + stepsWeight steps

/-- The weight of a list of steps. -/
def stepsWeight : List Step → Nat
  | [] => 0
  | step :: rest => stepWeight step + stepsWeight rest

/-- The weight of a list of scripts. -/
def scriptsWeight : List (Script Step) → Nat
  | [] => 0
  | script :: rest => scriptWeight script + scriptsWeight rest
end

/-- The steps of a script as tasks. -/
def Script.tasks (script : Script Step) : List Task :=
  script.steps.map fun step ↦ .take script.tag step

/-- The weight of a task. -/
def Task.weight : Task → Nat
  | .run script _ => scriptWeight script
  | .take _ step => stepWeight step
  | .report _ _ _ => 1

/-- The weight of a list of tasks. -/
def tasksWeight : List Task → Nat
  | [] => 0
  | task :: rest => task.weight + tasksWeight rest

/-- The weight of the entries of a queue. -/
def entriesWeight : List (DeferredHandle × List (Script Step)) → Nat
  | [] => 0
  | entry :: rest => scriptsWeight entry.2 + entriesWeight rest

/-- The weight of all scripts in a queue. -/
def queueWeight (queue : Queue) : Nat := entriesWeight queue.entries

theorem scriptWeight_pos (script : Script Step) : 0 < scriptWeight script := by
  cases script
  simp only [scriptWeight]
  omega

theorem scriptsWeight_append (first second : List (Script Step)) :
    scriptsWeight (first ++ second) = scriptsWeight first + scriptsWeight second := by
  induction first with
  | nil => simp [scriptsWeight]
  | cons script rest ih => simp only [List.cons_append, scriptsWeight, ih]; omega

theorem tasksWeight_append (first second : List Task) :
    tasksWeight (first ++ second) = tasksWeight first + tasksWeight second := by
  induction first with
  | nil => simp [tasksWeight]
  | cons task rest ih => simp only [List.cons_append, tasksWeight, ih]; omega

theorem tasksWeight_runs (scripts : List (Script Step)) (pipelines : List PipelineHandle) :
    tasksWeight (scripts.map fun script ↦ .run script pipelines) = scriptsWeight scripts := by
  induction scripts with
  | nil => rfl
  | cons script rest ih =>
    simp only [tasksWeight, List.map_cons, ih, scriptsWeight, Task.weight]

private theorem tasksWeight_takes (tag : String) (steps : List Step) :
    tasksWeight (steps.map fun step ↦ .take tag step) = stepsWeight steps := by
  induction steps with
  | nil => rfl
  | cons step rest ih =>
    simp only [tasksWeight, List.map_cons, ih, stepsWeight, Task.weight]

theorem tasksWeight_tasks_lt (script : Script Step) :
    tasksWeight script.tasks < scriptWeight script := by
  cases script
  simp only [Script.tasks, tasksWeight_takes, scriptWeight]
  omega

/-- A list in place of another changes the weight by the difference. -/
theorem entriesWeight_place (operation : DeferredHandle) (scripts : List (Script Step))
    {entries : List (DeferredHandle × List (Script Step))} (h : Ascending entries) :
    entriesWeight (Table.place operation scripts entries) +
        scriptsWeight ((Table.find operation entries).getD []) =
      entriesWeight entries + scriptsWeight scripts := by
  induction entries with
  | nil => simp [Table.place, Table.find, entriesWeight, scriptsWeight]
  | cons head rest ih =>
    obtain ⟨key, waiting⟩ := head
    obtain ⟨hhead, hrest⟩ := List.pairwise_cons.mp h
    have ih := ih hrest
    simp only [Table.place, Table.find, entriesWeight]
    split
    · next hlt =>
      have hnone : Table.find operation rest = none :=
        Table.find_eq_none_of_lt fun entry hentry ↦ Nat.lt_trans hlt (hhead entry hentry)
      rw [if_neg (by omega), hnone]
      simp only [entriesWeight, Option.getD_none, scriptsWeight]
      omega
    · split
      · next heq =>
        rw [if_pos heq.symm]
        simp only [entriesWeight, Option.getD_some]
        omega
      · next hne =>
        rw [if_neg fun heq ↦ hne heq.symm]
        simp only [entriesWeight]
        omega

theorem queueWeight_insert (queue : Queue) (operation : DeferredHandle)
    (scripts : List (Script Step)) :
    queueWeight (Table.insert queue operation scripts) +
        scriptsWeight ((queue.get? operation).getD []) =
      queueWeight queue + scriptsWeight scripts :=
  entriesWeight_place operation scripts queue.ascending

private theorem entriesWeight_filter_of_ne (operation : DeferredHandle)
    {entries : List (DeferredHandle × List (Script Step))} :
    entriesWeight (entries.filter fun entry ↦ TableKey.rank entry.1 != TableKey.rank operation) +
        scriptsWeight ((Table.find operation entries).getD []) ≤ entriesWeight entries := by
  induction entries with
  | nil => simp [Table.find, entriesWeight, scriptsWeight]
  | cons head rest ih =>
    obtain ⟨key, waiting⟩ := head
    simp only [Table.find, entriesWeight]
    split
    · next heq =>
      simp only [heq, bne_self_eq_false, Bool.false_eq_true, not_false_eq_true,
        List.filter_cons_of_neg, Option.getD_some]
      omega
    · next hne =>
      simp only [bne_iff_ne, ne_eq, hne, not_false_eq_true, List.filter_cons_of_pos,
        entriesWeight]
      omega

/-- A list that is taken out takes its weight with it. -/
theorem queueWeight_pop (queue : Queue) (operation : DeferredHandle) :
    queueWeight (queue.pop operation).2 + scriptsWeight ((queue.get? operation).getD []) ≤
      queueWeight queue :=
  entriesWeight_filter_of_ne operation

/-- What a step puts into the queue and into the task list weighs less than the step, together with
what the queue held before. -/
theorem weight_effect_lt (queue : Queue) (step : Step) :
    tasksWeight (step.effect queue).tasks + queueWeight (step.effect queue).queue + 1 <
      stepWeight step + queueWeight queue := by
  cases step with
  | seed operation =>
    have h := queueWeight_insert queue operation []
    simp only [Step.effect, DeferredQueue.seed, tasksWeight, stepWeight,
      scriptsWeight] at h ⊢
    omega
  | insert operation scripts =>
    have h := queueWeight_insert queue operation scripts
    simp only [Step.effect, tasksWeight, stepWeight] at h ⊢
    omega
  | append operation script =>
    simp only [Step.effect, stepWeight]
    split
    · next after happend =>
      simp only [DeferredQueue.append] at happend
      split at happend
      · cases happend
      · next waiting hwaiting =>
        cases happend
        have h := queueWeight_insert queue operation (waiting ++ [script])
        simp only [hwaiting, Option.getD_some, scriptsWeight_append, scriptsWeight] at h
        simp only [tasksWeight]
        omega
    · have := scriptWeight_pos script
      simp only [tasksWeight]
      omega
  | pop operation =>
    have h := queueWeight_pop queue operation
    simp only [Step.effect, tasksWeight, stepWeight]
    omega
  | isPending operation =>
    simp only [Step.effect, tasksWeight, stepWeight]
    omega
  | complete operation pipelines =>
    have h := queueWeight_pop queue operation
    have hpop : (queue.pop operation).1 = queue.get? operation := rfl
    simp only [Step.effect, tasksWeight_runs, stepWeight, hpop]
    omega

/-- What can be seen of a run and the queue behind it. -/
structure Outcome where
  events : List Event
  queue : Queue

/-- Do tasks one after the other; what a task leads to is done before the next. -/
def perform : List Task → Queue → Outcome
  | [], queue => ⟨[], queue⟩
  | .run script pipelines :: rest, queue =>
    let after := perform (script.tasks ++ rest) queue
    ⟨.ran script.tag pipelines :: after.events, after.queue⟩
  | .take tag step :: rest, queue =>
    perform ((step.effect queue).tasks ++ .report tag step (step.effect queue).answer :: rest)
      (step.effect queue).queue
  | .report tag step answer :: rest, queue =>
    let after := perform rest queue
    ⟨.stepped tag step answer :: after.events, after.queue⟩
termination_by tasks queue => tasksWeight tasks + queueWeight queue
decreasing_by
  · have := tasksWeight_tasks_lt script
    rw [tasksWeight_append]
    simp only [tasksWeight, Task.weight] at this ⊢
    omega
  · have := weight_effect_lt queue step
    rw [tasksWeight_append]
    simp only [tasksWeight, Task.weight] at this ⊢
    omega
  · simp only [tasksWeight, Task.weight]
    omega

/-- Take a step and do all it leads to: the answer to it, and the run. -/
def Step.execute (queue : Queue) (step : Step) : Answer × Outcome :=
  ((step.effect queue).answer, perform (step.effect queue).tasks (step.effect queue).queue)

end ShaderGuard.Deferred
