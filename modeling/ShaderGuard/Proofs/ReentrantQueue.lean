import ShaderGuard.Deferred.Script
import ShaderGuard.Proofs.Tables

/-!
# Scripts that use the queue they wait in

A script that runs may track operations, append further scripts and complete operations, its own
included, and what it completes runs before it goes on. Such calls are told as a relation here
(`Runs`): what a task leads to is done before the next, at any depth. The machine with its list of
tasks does the same, and it stops (`exists_runs`). Every task that has been done is a moment of the
run, with the queue that it met. Of every moment it is known what stood in the queue, which is what
the steps before it have left there, and what the task led to (`Runs.at_moment`).
-/

set_option autoImplicit false

namespace ShaderGuard.Deferred

/-! ### One task -/

/-- What a task leads to: the tasks that are done before the next one, and the queue they meet. -/
def Task.next (queue : Queue) : Task → List Task × Queue
  | .run script _ => (script.tasks, queue)
  | .take tag step =>
    ((step.effect queue).tasks ++ [.report tag step (step.effect queue).answer],
      (step.effect queue).queue)
  | .report _ _ _ => ([], queue)

/-- What can be seen of a task. -/
def Task.event? : Task → Option Event
  | .run script pipelines => some (.ran script.tag pipelines)
  | .take _ _ => none
  | .report tag step answer => some (.stepped tag step answer)

/-- The step that a task takes. -/
def Task.step? : Task → Option Step
  | .take _ step => some step
  | _ => none

/-- What a task leads to weighs less. -/
theorem weight_next_lt (task : Task) (queue : Queue) :
    tasksWeight (task.next queue).1 + queueWeight (task.next queue).2 <
      task.weight + queueWeight queue := by
  cases task with
  | run script pipelines =>
    have := tasksWeight_tasks_lt script
    simp only [Task.next, Task.weight]
    omega
  | take tag step =>
    have := weight_effect_lt queue step
    simp only [Task.next, Task.weight, tasksWeight_append, tasksWeight]
    omega
  | report tag step answer =>
    simp only [Task.next, Task.weight, tasksWeight]
    omega

theorem perform_cons (task : Task) (rest : List Task) (queue : Queue) :
    perform (task :: rest) queue =
      ⟨task.event?.toList ++ (perform ((task.next queue).1 ++ rest) (task.next queue).2).events,
        (perform ((task.next queue).1 ++ rest) (task.next queue).2).queue⟩ := by
  cases task with
  | run script pipelines => rw [perform]; rfl
  | take tag step =>
    rw [perform, Task.next, List.append_assoc]
    rfl
  | report tag step answer => rw [perform]; rfl

/-- Induction on a run, from what a task leads to and the tasks behind it to the task. -/
theorem perform_induction {motive : List Task → Queue → Prop} (nil : ∀ queue, motive [] queue)
    (cons : ∀ task rest queue, motive ((task.next queue).1 ++ rest) (task.next queue).2 →
      motive (task :: rest) queue) : ∀ tasks queue, motive tasks queue
  | [], queue => nil queue
  | task :: rest, queue =>
    cons task rest queue
      (perform_induction nil cons ((task.next queue).1 ++ rest) (task.next queue).2)
termination_by tasks queue => tasksWeight tasks + queueWeight queue
decreasing_by
  have := weight_next_lt task queue
  simp only [tasksWeight_append, tasksWeight]
  omega

/-- Tasks are done one after the other. -/
theorem perform_append (first second : List Task) (queue : Queue) :
    perform (first ++ second) queue =
      ⟨(perform first queue).events ++ (perform second (perform first queue).queue).events,
        (perform second (perform first queue).queue).queue⟩ := by
  induction first, queue using perform_induction with
  | nil queue => rw [perform]; rfl
  | cons task rest queue ih =>
    rw [List.cons_append, perform_cons, perform_cons task rest, ← List.append_assoc, ih,
      List.append_assoc]

/-! ### Calls -/

/-- A task that has been done, with the queue that it met. -/
structure Moment where
  task : Task
  queue : Queue

/-- Tasks that are done as calls are: what a task leads to has been done before the next task. The
moments stand in the order in which they come. -/
inductive Runs : List Task → Queue → List Moment → Queue → Prop
  | nil (queue : Queue) : Runs [] queue [] queue
  | cons {task : Task} {rest : List Task} {queue between after : Queue}
      {inner later : List Moment} :
    Runs (task.next queue).1 (task.next queue).2 inner between → Runs rest between later after →
      Runs (task :: rest) queue (⟨task, queue⟩ :: (inner ++ later)) after

namespace Runs

variable {tasks : List Task} {queue after : Queue} {moments : List Moment}

/-- There is one run. -/
theorem unique (h : Runs tasks queue moments after) {others : List Moment} {other : Queue}
    (hother : Runs tasks queue others other) : others = moments ∧ other = after := by
  induction h generalizing others other with
  | nil queue =>
    cases hother
    exact ⟨rfl, rfl⟩
  | cons hinner hlater ihinner ihlater =>
    cases hother with
    | cons hinner' hlater' =>
      obtain ⟨rfl, rfl⟩ := ihinner hinner'
      obtain ⟨rfl, rfl⟩ := ihlater hlater'
      exact ⟨rfl, rfl⟩

theorem exists_of_append {first second : List Task}
    (h : Runs (first ++ second) queue moments after) :
    ∃ inner between later, moments = inner ++ later ∧ Runs first queue inner between ∧
      Runs second between later after := by
  induction first generalizing queue moments with
  | nil => exact ⟨[], queue, moments, rfl, .nil queue, h⟩
  | cons task rest ih =>
    cases h with
    | cons hinner hrest =>
      obtain ⟨inner, between, later, rfl, hfirst, hsecond⟩ := ih hrest
      exact ⟨_, between, later, by rw [List.cons_append, List.append_assoc], .cons hinner hfirst,
        hsecond⟩

end Runs

/-- The machine does what the calls do, and a run has no more moments than what it begins with
weighs, less what it leaves behind. -/
theorem exists_runs (tasks : List Task) (queue : Queue) :
    ∃ moments, Runs tasks queue moments (perform tasks queue).queue ∧
      (perform tasks queue).events = moments.filterMap (fun moment ↦ moment.task.event?) ∧
      moments.length + queueWeight (perform tasks queue).queue ≤
        tasksWeight tasks + queueWeight queue := by
  induction tasks, queue using perform_induction with
  | nil queue =>
    rw [perform]
    exact ⟨[], .nil queue, rfl, by simp [tasksWeight]⟩
  | cons task rest queue ih =>
    obtain ⟨moments, hruns, hevents, hlength⟩ := ih
    obtain ⟨inner, between, later, rfl, hinner, hlater⟩ := hruns.exists_of_append
    rw [perform_cons]
    refine ⟨_, .cons hinner hlater, ?_, ?_⟩
    · rw [hevents]
      cases hevent : task.event? <;> simp [hevent]
    · have := weight_next_lt task queue
      simp only [tasksWeight_append, List.length_cons, tasksWeight] at hlength ⊢
      omega

/-! ### What stands for an operation -/

/-- The operation that a step names. -/
def Step.operation : Step → DeferredHandle
  | .seed operation | .insert operation _ | .append operation _ | .pop operation
  | .isPending operation | .complete operation _ => operation

/-- The list with which a step tracks an operation, if it does so. -/
def Step.tracked? (operation : DeferredHandle) : Step → Option (List (Script Step))
  | .seed other => if other = operation then some [] else none
  | .insert other scripts => if other = operation then some scripts else none
  | _ => none

/-- The script that a step appends for an operation. -/
def Step.appended? (operation : DeferredHandle) : Step → Option (Script Step)
  | .append other script => if other = operation then some script else none
  | _ => none

/-- Whether a step takes the list of an operation out. -/
def Step.takesOut (operation : DeferredHandle) : Step → Bool
  | .pop other | .complete other _ => other == operation
  | _ => false

/-- What stands for an operation behind a step, by what stood there before. -/
def Step.leaves (operation : DeferredHandle) (stored : Option (List (Script Step))) (step : Step) :
    Option (List (Script Step)) :=
  match step.tracked? operation with
  | some scripts => some scripts
  | none =>
    if step.takesOut operation then none
    else stored.map (· ++ (step.appended? operation).toList)

/-- What steps leave for an operation. -/
def replay (operation : DeferredHandle) (stored : Option (List (Script Step)))
    (steps : List Step) : Option (List (Script Step)) :=
  steps.foldl (Step.leaves operation) stored

/-- A step leaves the lists of the operations that it does not name alone. -/
theorem Step.leaves_of_ne {step : Step} {operation : DeferredHandle}
    (h : step.operation ≠ operation) (stored : Option (List (Script Step))) :
    step.leaves operation stored = stored := by
  cases step <;> simp_all [Step.operation, leaves, tracked?, takesOut, appended?]

private theorem Step.get?_effect_of_ne {step : Step} {operation : DeferredHandle}
    (h : step.operation ≠ operation) (queue : Queue) :
    (step.effect queue).queue.get? operation = queue.get? operation := by
  cases step with
  | seed other => exact Table.get?_insert_of_ne queue [] h
  | insert other scripts => exact Table.get?_insert_of_ne queue scripts h
  | append other script =>
    simp only [Step.effect]
    split
    · next after happend => exact DeferredQueue.get?_of_append_of_ne happend h
    · rfl
  | pop other => exact Table.get?_erase_of_ne queue h
  | isPending other => rfl
  | complete other pipelines => exact Table.get?_erase_of_ne queue h

theorem Step.get?_effect (step : Step) (queue : Queue) (operation : DeferredHandle) :
    (step.effect queue).queue.get? operation = step.leaves operation (queue.get? operation) := by
  by_cases h : step.operation = operation
  · subst h
    cases step with
    | seed other => simp [Step.effect, Step.operation, leaves, tracked?]
    | insert other scripts => simp [Step.effect, Step.operation, leaves, tracked?]
    | append other script =>
      simp only [Step.effect, Step.operation, leaves, tracked?, takesOut, appended?]
      cases hwaiting : queue.get? other with
      | none => simp [DeferredQueue.append, hwaiting]
      | some waiting => simp [DeferredQueue.append, hwaiting]
    | pop other =>
      simp [Step.effect, Step.operation, leaves, tracked?, takesOut, DeferredQueue.pop]
    | isPending other =>
      simp [Step.effect, Step.operation, leaves, tracked?, takesOut, appended?]
    | complete other pipelines =>
      simp [Step.effect, Step.operation, leaves, tracked?, takesOut, DeferredQueue.pop]
  · rw [get?_effect_of_ne h, leaves_of_ne h]

theorem replay_append (operation : DeferredHandle) (stored : Option (List (Script Step)))
    (first second : List Step) :
    replay operation stored (first ++ second) =
      replay operation (replay operation stored first) second :=
  List.foldl_append

/-- Steps that do not name an operation leave its list alone. -/
theorem replay_of_ne {operation : DeferredHandle} {steps : List Step}
    (h : ∀ step ∈ steps, step.operation ≠ operation) (stored : Option (List (Script Step))) :
    replay operation stored steps = stored := by
  induction steps with
  | nil => rfl
  | cons step rest ih =>
    obtain ⟨hstep, hrest⟩ := List.forall_mem_cons.mp h
    rw [replay, List.foldl_cons, Step.leaves_of_ne hstep]
    exact ih hrest

/-- An operation that is not tracked stays so as long as no step tracks it. -/
theorem replay_none {operation : DeferredHandle} {steps : List Step}
    (h : ∀ step ∈ steps, step.tracked? operation = none) : replay operation none steps = none := by
  induction steps with
  | nil => rfl
  | cons step rest ih =>
    obtain ⟨hstep, hrest⟩ := List.forall_mem_cons.mp h
    have hleaves : step.leaves operation none = none := by
      simp [Step.leaves, hstep]
    rw [replay, List.foldl_cons, hleaves]
    exact ih hrest

/-- What stands for an operation since a step has tracked it: the list of that step, and behind it
what has been appended, in order. -/
theorem replay_since_tracked {operation : DeferredHandle} {scripts : List (Script Step)}
    {steps : List Step}
    (h : ∀ step ∈ steps, step.tracked? operation = none ∧ step.takesOut operation = false) :
    replay operation (some scripts) steps =
      some (scripts ++ steps.filterMap (Step.appended? operation)) := by
  induction steps generalizing scripts with
  | nil => simp [replay]
  | cons step rest ih =>
    obtain ⟨⟨htracked, htaken⟩, hrest⟩ := List.forall_mem_cons.mp h
    have hleaves : step.leaves operation (some scripts) =
        some (scripts ++ (step.appended? operation).toList) := by
      simp [Step.leaves, htracked, htaken]
    rw [replay, List.foldl_cons, hleaves]
    refine (ih hrest).trans ?_
    cases hscript : step.appended? operation <;> simp [hscript]

/-! ### The moments of a run -/

/-- A moment of a list that has been put together is in the first part or in the second. -/
theorem exists_of_append_eq_append_cons {α : Type} {first second older newer : List α} {a : α}
    (h : first ++ second = older ++ a :: newer) :
    (∃ behind, first = older ++ a :: behind ∧ newer = behind ++ second) ∨
      ∃ before, older = first ++ before ∧ second = before ++ a :: newer := by
  rcases List.append_eq_append_iff.mp h with ⟨before, holder, hsecond⟩ | ⟨behind, hfirst, hnewer⟩
  · exact Or.inr ⟨before, holder, hsecond⟩
  · cases behind with
    | nil =>
      rw [List.append_nil] at hfirst
      exact Or.inr ⟨[], by rw [hfirst, List.append_nil], hnewer.symm⟩
    | cons head behind =>
      rw [List.cons_append] at hnewer
      obtain ⟨rfl, hbehind⟩ := List.cons.inj hnewer
      exact Or.inl ⟨behind, hfirst, hbehind⟩

/-- The steps that are taken in some moments. -/
def stepsTaken (moments : List Moment) : List Step :=
  moments.filterMap fun moment ↦ moment.task.step?

theorem stepsTaken_append (first second : List Moment) :
    stepsTaken (first ++ second) = stepsTaken first ++ stepsTaken second :=
  List.filterMap_append

theorem get?_next (task : Task) (queue : Queue) (operation : DeferredHandle) :
    (task.next queue).2.get? operation =
      replay operation (queue.get? operation) task.step?.toList := by
  cases task with
  | run script pipelines => rfl
  | take tag step => exact step.get?_effect queue operation
  | report tag step answer => rfl

theorem stepsTaken_cons (task : Task) (queue : Queue) (moments : List Moment) :
    stepsTaken (⟨task, queue⟩ :: moments) = task.step?.toList ++ stepsTaken moments := by
  unfold stepsTaken
  cases h : task.step? <;> simp [h]

namespace Runs

variable {tasks : List Task} {queue after : Queue} {moments : List Moment}

/-- What stands for an operation behind a run is what its steps have left there. -/
theorem get?_eq_replay (h : Runs tasks queue moments after) (operation : DeferredHandle) :
    after.get? operation = replay operation (queue.get? operation) (stepsTaken moments) := by
  induction h with
  | nil queue => rfl
  | cons _ _ ihinner ihlater =>
    rw [ihlater, ihinner, get?_next, stepsTaken_cons, stepsTaken_append, replay_append,
      replay_append]

/-- Of each moment of a run it is known what stands in the queue, by the steps before it, and that
what the task leads to comes next. -/
theorem at_moment (h : Runs tasks queue moments after) {older newer : List Moment}
    {moment : Moment} (hsplit : moments = older ++ moment :: newer) :
    (∀ operation, moment.queue.get? operation =
        replay operation (queue.get? operation) (stepsTaken older)) ∧
      ∃ inner between later, newer = inner ++ later ∧
        Runs [moment.task] moment.queue (moment :: inner) between := by
  induction h generalizing older newer with
  | nil queue => simp at hsplit
  | @cons task rest queue between after inner later hinner hlater ihinner ihlater =>
    match older, hsplit with
    | [], hsplit =>
      obtain ⟨rfl, rfl⟩ := List.cons.inj hsplit
      have hself : Runs [task] queue (⟨task, queue⟩ :: (inner ++ [])) between :=
        .cons hinner (.nil between)
      rw [List.append_nil] at hself
      exact ⟨fun _ ↦ rfl, inner, between, later, rfl, hself⟩
    | head :: older, hsplit =>
      obtain ⟨rfl, hrest⟩ := List.cons.inj hsplit
      -- the moment is one of those that the task leads to, or of those behind them
      rcases exists_of_append_eq_append_cons hrest with ⟨behind, hin, rfl⟩ | ⟨before, rfl, hin⟩
      · obtain ⟨hstored, led, back, others, rfl, hleads⟩ := ihinner hin
        refine ⟨fun operation ↦ ?_, led, back, others ++ later, List.append_assoc .., hleads⟩
        rw [hstored, get?_next, stepsTaken_cons, replay_append]
      · obtain ⟨hstored, hleads⟩ := ihlater hin
        refine ⟨fun operation ↦ ?_, hleads⟩
        rw [hstored, hinner.get?_eq_replay, get?_next, stepsTaken_cons, stepsTaken_append,
          replay_append, replay_append]

/-- A step is taken, what it has to run at once is run, and its answer is reported. -/
theorem of_take {tag : String} {step : Step} (h : Runs [.take tag step] queue moments after) :
    ∃ ran, moments = ⟨.take tag step, queue⟩ ::
        (ran ++ [⟨.report tag step (step.effect queue).answer, after⟩]) ∧
      Runs (step.effect queue).tasks (step.effect queue).queue ran after := by
  cases h with
  | cons hinner hnil =>
    cases hnil
    obtain ⟨ran, between, reported, rfl, hran, hreported⟩ := hinner.exists_of_append
    cases hreported with
    | cons hquiet hlast =>
      cases hlast
      cases hquiet
      exact ⟨ran, by rw [List.append_nil]; rfl, hran⟩

/-- Behind a completion the scripts that were stored run in order, with the pipelines, and then
their number is reported. -/
theorem of_complete {tag : String} {operation : DeferredHandle} {pipelines : List PipelineHandle}
    (h : Runs [.take tag (.complete operation pipelines)] queue moments after) :
    ∃ ran, moments = ⟨.take tag (.complete operation pipelines), queue⟩ :: (ran ++
        [⟨.report tag (.complete operation pipelines)
          (.completed ((queue.get? operation).getD []).length), after⟩]) ∧
      Runs (((queue.get? operation).getD []).map fun script ↦ .run script pipelines)
        (queue.erase operation) ran after :=
  h.of_take

/-- Behind an appending it is reported whether the operation was tracked. If it was, the script
waits behind the others. -/
theorem of_append {tag : String} {operation : DeferredHandle} {script : Script Step}
    (h : Runs [.take tag (.append operation script)] queue moments after) :
    ∃ result, moments = [⟨.take tag (.append operation script), queue⟩,
        ⟨.report tag (.append operation script) (.appended result), after⟩] ∧
      match queue.get? operation with
      | none => result = .error (.deferredOperationNotTracked operation) ∧ after = queue
      | some waiting => result = .ok () ∧ after = queue.insert operation (waiting ++ [script]) := by
  obtain ⟨ran, rfl, hran⟩ := h.of_take
  cases hwaiting : queue.get? operation with
  | none =>
    have heffect : (Step.append operation script).effect queue =
        ⟨.appended (.error (.deferredOperationNotTracked operation)), queue, []⟩ := by
      simp [Step.effect, DeferredQueue.append, hwaiting]
    rw [heffect] at hran ⊢
    cases hran
    exact ⟨_, rfl, rfl, rfl⟩
  | some waiting =>
    have heffect : (Step.append operation script).effect queue =
        ⟨.appended (.ok ()), queue.insert operation (waiting ++ [script]), []⟩ := by
      simp [Step.effect, DeferredQueue.append, hwaiting]
    rw [heffect] at hran ⊢
    cases hran
    exact ⟨_, rfl, rfl, rfl⟩

end Runs

/-! ### Scripts run once -/

mutual
/-- The tags of the scripts in a step, at any depth. -/
def stepTags : Step → List String
  | .insert _ scripts => scriptsTags scripts
  | .append _ script => scriptTags script
  | _ => []

/-- The tag of a script, and those of the scripts in it. -/
def scriptTags : Script Step → List String
  | ⟨tag, steps⟩ => tag :: stepsTags steps

/-- The tags of the scripts in a list of steps. -/
def stepsTags : List Step → List String
  | [] => []
  | step :: rest => stepTags step ++ stepsTags rest

/-- The tags of a list of scripts, and those of the scripts in them. -/
def scriptsTags : List (Script Step) → List String
  | [] => []
  | script :: rest => scriptTags script ++ scriptsTags rest
end

/-- The tags of the scripts that a task runs or leads to. -/
def Task.tags : Task → List String
  | .run script _ => scriptTags script
  | .take _ step => stepTags step
  | .report _ _ _ => []

/-- The tags of the scripts that tasks run or lead to. -/
def tasksTags (tasks : List Task) : List String := tasks.flatMap Task.tags

/-- The tags of the scripts that wait in a queue, and those of the scripts in them. -/
def waitingTags (queue : Queue) : List String :=
  queue.entries.flatMap fun entry ↦ scriptsTags entry.2

/-- The tags of the scripts that have run. -/
def ranTags (events : List Event) : List String :=
  events.filterMap fun
    | .ran tag _ => some tag
    | .stepped _ _ _ => none

theorem tasksTags_append (first second : List Task) :
    tasksTags (first ++ second) = tasksTags first ++ tasksTags second :=
  List.flatMap_append

theorem tasksTags_takes (tag : String) (steps : List Step) :
    tasksTags (steps.map (.take tag)) = stepsTags steps := by
  induction steps with
  | nil => rfl
  | cons step rest ih =>
    rw [List.map_cons, stepsTags, ← ih]
    rfl

theorem tasksTags_runs (scripts : List (Script Step)) (pipelines : List PipelineHandle) :
    tasksTags (scripts.map fun script ↦ .run script pipelines) = scriptsTags scripts := by
  induction scripts with
  | nil => rfl
  | cons script rest ih =>
    rw [List.map_cons, scriptsTags, ← ih]
    rfl

theorem scriptsTags_append (first second : List (Script Step)) :
    scriptsTags (first ++ second) = scriptsTags first ++ scriptsTags second := by
  induction first with
  | nil => rfl
  | cons script rest ih =>
    rw [List.cons_append, scriptsTags, scriptsTags, ih, List.append_assoc]

theorem perm_waitingTags_erase (queue : Queue) (operation : DeferredHandle) :
    (waitingTags queue).Perm (scriptsTags ((queue.get? operation).getD []) ++
      waitingTags (queue.erase operation)) := by
  cases h : queue.get? operation with
  | none =>
    rw [Table.erase_of_get?_eq_none h]
    exact List.Perm.refl _
  | some scripts => exact (Table.perm_entries_of_get? h).flatMap_right _

theorem perm_waitingTags_insert (queue : Queue) (operation : DeferredHandle)
    (scripts : List (Script Step)) :
    (waitingTags (queue.insert operation scripts)).Perm
      (scriptsTags scripts ++ waitingTags (queue.erase operation)) :=
  (Table.perm_entries_insert queue operation scripts).flatMap_right _

/-- A step moves scripts about and makes none. -/
theorem count_effect_le (tag : String) (step : Step) (queue : Queue) :
    (tasksTags (step.effect queue).tasks).count tag +
        (waitingTags (step.effect queue).queue).count tag ≤
      (stepTags step).count tag + (waitingTags queue).count tag := by
  have herased (operation : DeferredHandle) :=
    (perm_waitingTags_erase queue operation).count_eq tag
  have hinserted (operation : DeferredHandle) (scripts : List (Script Step)) :=
    (perm_waitingTags_insert queue operation scripts).count_eq tag
  simp only [List.count_append] at herased hinserted
  cases step with
  | seed operation =>
    have := herased operation
    have := hinserted operation []
    simp only [Step.effect, DeferredQueue.seed, tasksTags, List.flatMap_nil, scriptsTags,
      List.count_nil] at this ⊢
    omega
  | insert operation scripts =>
    have := herased operation
    have := hinserted operation scripts
    simp only [Step.effect, stepTags, tasksTags, List.flatMap_nil, List.count_nil]
    omega
  | append operation script =>
    have := herased operation
    simp only [Step.effect, DeferredQueue.append, stepTags]
    cases hwaiting : queue.get? operation with
    | none => simp [tasksTags]
    | some waiting =>
      have := hinserted operation (waiting ++ [script])
      simp only [hwaiting, Option.getD_some, scriptsTags_append, scriptsTags, List.append_nil,
        List.count_append, tasksTags, List.flatMap_nil, List.count_nil] at *
      omega
  | pop operation =>
    have := herased operation
    simp only [Step.effect, DeferredQueue.pop, tasksTags, List.flatMap_nil, List.count_nil]
    omega
  | isPending operation => simp [Step.effect, tasksTags]
  | complete operation pipelines =>
    have := herased operation
    simp only [Step.effect, DeferredQueue.pop, tasksTags_runs]
    omega

/-- What a task leads to has the scripts that the task has, but for the one that it runs. -/
theorem count_next_le (tag : String) (task : Task) (queue : Queue) :
    (ranTags task.event?.toList).count tag + (tasksTags (task.next queue).1).count tag +
        (waitingTags (task.next queue).2).count tag ≤
      task.tags.count tag + (waitingTags queue).count tag := by
  cases task with
  | run script pipelines =>
    have htasks : script.tag :: tasksTags script.tasks = scriptTags script := by
      obtain ⟨name, steps⟩ := script
      exact congrArg (name :: ·) (tasksTags_takes name steps)
    have hcount := congrArg (List.count tag) htasks
    have hran : ranTags (Task.run script pipelines).event?.toList = [script.tag] := rfl
    rw [List.count_cons] at hcount
    simp only [hran, Task.next, Task.tags, List.count_singleton]
    omega
  | take name step =>
    have heffect := count_effect_le tag step queue
    have hquiet : ranTags (Task.take name step).event?.toList = [] := rfl
    simp only [hquiet, Task.next, Task.tags, tasksTags_append, List.count_append, List.count_nil]
    have hreport : tasksTags [.report name step (step.effect queue).answer] = [] := rfl
    rw [hreport, List.count_nil]
    omega
  | report name step answer => simp [ranTags, Task.event?, Task.next, tasksTags]

/-- A script runs or waits no more often than it is in the tasks or has waited. -/
theorem count_perform_le (tag : String) (tasks : List Task) (queue : Queue) :
    (ranTags (perform tasks queue).events).count tag +
        (waitingTags (perform tasks queue).queue).count tag ≤
      (tasksTags tasks).count tag + (waitingTags queue).count tag := by
  induction tasks, queue using perform_induction with
  | nil queue =>
    rw [perform]
    simp [ranTags]
  | cons task rest queue ih =>
    have hnext := count_next_le tag task queue
    have hsplit : ranTags (task.event?.toList ++
        (perform ((task.next queue).1 ++ rest) (task.next queue).2).events) =
          ranTags task.event?.toList ++ ranTags
            (perform ((task.next queue).1 ++ rest) (task.next queue).2).events :=
      List.filterMap_append
    have htasks : tasksTags (task :: rest) = task.tags ++ tasksTags rest := rfl
    rw [perform_cons, htasks]
    simp only [hsplit, tasksTags_append, List.count_append] at ih ⊢
    omega

/-! ### A host -/

/-- A host takes steps one after the other. Each does all it leads to before the next. -/
def executeAll (tag : String) (queue : Queue) : List Step → Outcome
  | [] => ⟨[], queue⟩
  | step :: rest =>
    let taken := step.execute queue
    let later := executeAll tag taken.2.queue rest
    ⟨taken.2.events ++ .stepped tag step taken.1 :: later.events, later.queue⟩

/-- The steps of a host are done as those of a script are. -/
theorem perform_takes (tag : String) (steps : List Step) (queue : Queue) :
    perform (steps.map (.take tag)) queue = executeAll tag queue steps := by
  induction steps generalizing queue with
  | nil => rw [List.map_nil, perform, executeAll]
  | cons step rest ih =>
    rw [List.map_cons, perform_cons, executeAll]
    simp only [Task.next, List.append_assoc, perform_append (step.effect queue).tasks,
      List.singleton_append, perform_cons (.report _ _ _), List.nil_append, ih, Step.execute]
    simp [Task.event?]

/-! ### Runs -/

/-- That an appending is reported next: refused, and the queue is left alone, if the operation is
not tracked; otherwise the script waits behind the others. -/
def Appends (queue : Queue) (tag : String) (operation : DeferredHandle) (script : Script Step)
    (newer : List Moment) : Prop :=
  ∃ result after later,
    newer = ⟨.report tag (.append operation script) (.appended result), after⟩ :: later ∧
      match queue.get? operation with
      | none => result = .error (.deferredOperationNotTracked operation) ∧ after = queue
      | some waiting => result = .ok () ∧ after = queue.insert operation (waiting ++ [script])

/-- That a completion comes next: the scripts that are stored run in order, with the pipelines, and
in a queue without their list; then their number is reported. While they run, what is appended to
the operation itself meets what they have left there, which is nothing unless they have tracked it
anew. -/
def Completes (queue : Queue) (tag : String) (operation : DeferredHandle)
    (pipelines : List PipelineHandle) (newer : List Moment) : Prop :=
  let stored := (queue.get? operation).getD []
  ∃ ran after later,
    newer = ran ++
        ⟨.report tag (.complete operation pipelines) (.completed stored.length), after⟩ :: later ∧
      Runs (stored.map fun script ↦ .run script pipelines) (queue.erase operation) ran after ∧
      ∀ earlier other script met rest,
        ran = earlier ++ ⟨.take other (.append operation script), met⟩ :: rest →
        Appends met other operation script rest ∧
          met.get? operation = replay operation none (stepsTaken earlier) ∧
          ((∀ step ∈ stepsTaken earlier, step.tracked? operation = none) →
            met.get? operation = none)

/-- What is known of a moment of a run, by the queue that the run begins with and by the moments
before it and behind it. -/
structure Moment.Sound (queue : Queue) (older : List Moment) (moment : Moment)
    (newer : List Moment) : Prop where
  /-- What stands for an operation is what the steps before have left there. -/
  stored : ∀ operation, moment.queue.get? operation =
    replay operation (queue.get? operation) (stepsTaken older)
  /-- It is the list with which the operation was tracked last, and behind it what was appended
  since, in order. -/
  ordered : ∀ operation earlier step since scripts,
    stepsTaken older = earlier ++ step :: since → step.tracked? operation = some scripts →
    (∀ other ∈ since, other.tracked? operation = none ∧ other.takesOut operation = false) →
    moment.queue.get? operation = some (scripts ++ since.filterMap (Step.appended? operation))
  /-- A task with all it leads to leaves the lists alone of operations that it does not name. -/
  unnamed : ∃ inner after later, newer = inner ++ later ∧
    Runs [moment.task] moment.queue (moment :: inner) after ∧
    ∀ operation, (∀ step ∈ stepsTaken (moment :: inner), step.operation ≠ operation) →
      after.get? operation = moment.queue.get? operation
  appends : ∀ tag operation script, moment.task = .take tag (.append operation script) →
    Appends moment.queue tag operation script newer
  completes : ∀ tag operation pipelines,
    moment.task = .take tag (.complete operation pipelines) →
    Completes moment.queue tag operation pipelines newer

namespace Runs

variable {tasks : List Task} {queue after : Queue} {older newer : List Moment}

theorem appends {tag : String} {operation : DeferredHandle} {script : Script Step} {met : Queue}
    (h : Runs tasks queue (older ++ ⟨.take tag (.append operation script), met⟩ :: newer) after) :
    Appends met tag operation script newer := by
  obtain ⟨-, inner, between, later, rfl, hself⟩ := h.at_moment rfl
  obtain ⟨result, hinner, hresult⟩ := hself.of_append
  obtain ⟨-, rfl⟩ := List.cons.inj hinner
  exact ⟨result, between, later, rfl, hresult⟩

theorem completes {tag : String} {operation : DeferredHandle} {pipelines : List PipelineHandle}
    {met : Queue}
    (h : Runs tasks queue (older ++ ⟨.take tag (.complete operation pipelines), met⟩ :: newer)
      after) : Completes met tag operation pipelines newer := by
  obtain ⟨-, inner, between, later, rfl, hself⟩ := h.at_moment rfl
  obtain ⟨ran, hinner, hran⟩ := hself.of_complete
  obtain ⟨-, rfl⟩ := List.cons.inj hinner
  refine ⟨ran, between, later, by simp, hran, ?_⟩
  rintro earlier other script meets rest rfl
  obtain ⟨hstored, -⟩ := hran.at_moment rfl
  have hreplay := hstored operation
  rw [Table.get?_erase_self] at hreplay
  exact ⟨hran.appends, hreplay, fun hnone ↦ hreplay.trans (replay_none hnone)⟩

theorem sound {moment : Moment} (h : Runs tasks queue (older ++ moment :: newer) after) :
    moment.Sound queue older newer := by
  obtain ⟨hstored, inner, between, later, rfl, hself⟩ := h.at_moment rfl
  refine ⟨hstored, ?_, ⟨inner, between, later, rfl, hself, ?_⟩, ?_, ?_⟩
  · intro operation earlier step since scripts hsteps htracked hsince
    have hleaves (before : Option (List (Script Step))) :
        step.leaves operation before = some scripts := by
      simp [Step.leaves, htracked]
    rw [hstored, hsteps, replay_append, replay, List.foldl_cons, hleaves]
    exact replay_since_tracked hsince
  · intro operation hnames
    rw [hself.get?_eq_replay, replay_of_ne hnames]
  · intro tag operation script htask
    obtain ⟨task, met⟩ := moment
    subst htask
    exact h.appends
  · intro tag operation pipelines htask
    obtain ⟨task, met⟩ := moment
    subst htask
    exact h.completes

end Runs

/-- Let a host take steps, and every script in them take its own when it runs. However the scripts
are nested, there is one run, it is finite, and the machine shows what can be seen of it. Scripts
run, or are left waiting, no more often than they are in the steps or have waited. Every moment of
the run, at any depth, is sound: it is known what stands in the queue and in which order, which
lists are left alone, and what appending and completing lead to. -/
theorem reentrant_run (tag : String) (steps : List Step) (queue : Queue) :
    let tasks := steps.map (Task.take tag)
    let outcome := executeAll tag queue steps
    ∃ moments, Runs tasks queue moments outcome.queue ∧
      (∀ others other, Runs tasks queue others other →
        others = moments ∧ other = outcome.queue) ∧
      outcome.events = moments.filterMap (fun moment ↦ moment.task.event?) ∧
      moments.length + queueWeight outcome.queue ≤ tasksWeight tasks + queueWeight queue ∧
      (∀ name, (ranTags outcome.events).count name + (waitingTags outcome.queue).count name ≤
        (stepsTags steps).count name + (waitingTags queue).count name) ∧
      ∀ older moment newer, moments = older ++ moment :: newer →
        moment.Sound queue older newer := by
  intro tasks outcome
  have houtcome : perform tasks queue = outcome := perform_takes tag steps queue
  obtain ⟨moments, hruns, hevents, hlength⟩ := exists_runs tasks queue
  rw [houtcome] at hruns hevents hlength
  refine ⟨moments, hruns, fun others other ↦ hruns.unique, hevents, hlength, ?_, ?_⟩
  · intro name
    have hcount := count_perform_le name tasks queue
    rwa [houtcome, tasksTags_takes] at hcount
  · rintro older moment newer rfl
    exact hruns.sound

end ShaderGuard.Deferred
