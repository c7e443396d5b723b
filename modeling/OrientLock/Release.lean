import OrientLock.Steps

set_option autoImplicit false

/- `is_running` and `release_dead_tasks_locks` over the whole system. Every task is alive in
one of the `UserState`s (the wait loop's `TASK_RUNNING` and `TASK_INTERRUPTIBLE` among them) or
is a zombie; on such tasks `is_running` fails for a missing or exited task, and also for a
stopped, traced or killable one, since `TASK_STOPPED`, `TASK_TRACED` and `TASK_KILLABLE` carry
`TASK_WAKEKILL`. `release_dead_tasks_locks` keeps, in order, the entries whose pid passes, and
`kfree`s nothing. -/
namespace OrientLock

/-- The `state` and `exit_state` a task can have: alive in a `UserState`, or a zombie after
`do_exit`. -/
def Task.Shaped (task : Task) : Prop :=
  (task.exitState = 0 ∧ ∃ state : UserState, task.state = state.bits) ∨
    (task.exitState = exitZombie ∧ task.state = taskDead)

/-- Every task of the state is `Shaped`. -/
def Kernel.Shaped (s : Kernel) : Prop := ∀ pid task, s.tasks pid = some task → task.Shaped

theorem UserState.bits_and_taskDead (state : UserState) : state.bits &&& taskDead = 0 := by
  cases state <;> decide

theorem UserState.bits_and_taskWakekill (state : UserState) :
    state.bits &&& taskWakekill = 0 ↔ state ≠ .killable ∧ state ≠ .stopped ∧ state ≠ .traced := by
  cases state <;> decide

theorem isRunning_eq_true_iff (tasks : Pid → Option Task) (pid : Pid) :
    isRunning tasks pid = true ↔ ∃ task, tasks pid = some task ∧
      task.state &&& taskDead = 0 ∧ task.state &&& taskWakekill = 0 ∧
        task.exitState &&& exitZombie = 0 ∧ task.exitState &&& exitDead = 0 := by
  unfold isRunning
  cases tasks pid with
  | none => simp
  | some task => simp [and_assoc]

theorem isRunning_of_shaped {tasks : Pid → Option Task} {pid : Pid} {task : Task}
    (own : tasks pid = some task) (shaped : task.Shaped) :
    isRunning tasks pid = true ↔ task.exitState = 0 ∧ ∃ state : UserState,
      task.state = state.bits ∧ state ≠ .killable ∧ state ≠ .stopped ∧ state ≠ .traced := by
  rw [isRunning_eq_true_iff]
  constructor
  · rintro ⟨found, same, -, notWakekill, notZombie, -⟩
    rw [own, Option.some.injEq] at same
    subst same
    rcases shaped with ⟨alive, state, bits⟩ | ⟨zombie, -⟩
    · rw [bits, UserState.bits_and_taskWakekill] at notWakekill
      exact ⟨alive, state, bits, notWakekill⟩
    · rw [zombie] at notZombie
      exact absurd notZombie (by decide)
  · rintro ⟨alive, state, bits, notWakekill⟩
    refine ⟨task, own, ?_, ?_, ?_, ?_⟩
    · rw [bits]
      exact UserState.bits_and_taskDead state
    · rw [bits, UserState.bits_and_taskWakekill]
      exact notWakekill
    · rw [alive]
      rfl
    · rw [alive]
      rfl

section Shaped

@[simp] theorem Task.wake_exitState (task : Task) : task.wake.exitState = task.exitState := by
  unfold Task.wake
  split <;> rfl

theorem Task.Shaped.congr {task task' : Task} (shaped : task.Shaped)
    (state : task'.state = task.state) (exit : task'.exitState = task.exitState) : task'.Shaped := by
  unfold Task.Shaped
  rw [state, exit]
  exact shaped

theorem Task.Shaped.wake {task : Task} (shaped : task.Shaped) : task.wake.Shaped := by
  unfold Task.wake
  split
  · next woken =>
    rcases shaped with ⟨alive, -⟩ | ⟨-, dead⟩
    · exact .inl ⟨alive, .running, rfl⟩
    · simp only [dead, Bool.and_eq_true, bne_iff_ne, ne_eq] at woken
      exact absurd woken.2 (by decide)
  · exact shaped

theorem taskStep_actor_state {s t : Kernel} {pid : Pid} {task task' : Task} {alloc : Alloc}
    (own : s.tasks pid = some task) (stepped : taskStep s pid task.pc alloc = some t)
    (after : t.tasks pid = some task') :
    task'.exitState = task.exitState ∧
      (task'.state = task.state ∨ task'.state = taskRunning ∨ task'.state = taskInterruptible) := by
  cases pc : task.pc with
  | setLoop rest =>
    rw [pc] at stepped
    cases rest <;> cases stepped <;>
      simp only [Kernel.goto_eq, Kernel.updateTask_tasks, ite_true, own, Option.map_some,
        Option.some.injEq] at after <;> subst after <;> simp
  | setWakeUp rest =>
    rw [pc] at stepped
    cases stepped
    simp [Kernel.updateTask_tasks, own, wakeUp] at after
    subst after
    refine ⟨by simp, ?_⟩
    dsimp only
    unfold Task.wake
    split
    · exact .inr (.inl rfl)
    · exact .inl rfl
  | unlock type orient =>
    rw [pc] at stepped
    cases stepped
    simp only [Kernel.updateTask_tasks, ite_true, Option.map_eq_some_iff] at after
    obtain ⟨before, was, after⟩ := after
    have same : (orientunlock type s pid orient).2.tasks pid = s.tasks pid := by
      rcases orientunlock_cases type s pid orient with same | ⟨entry, unlinked⟩ <;> simp [*]
    rw [same, own, Option.some.injEq] at was
    subst was after
    split <;> simp [Task.release]
  | _ =>
    rw [pc] at stepped
    revert stepped
    simp only [taskStep]
    repeat' split
    all_goals
      intro stepped
      cases stepped <;> simp [Kernel.updateTask_tasks, own] at after <;> subst after <;> simp

theorem Kernel.Shaped.update {s : Kernel} (shaped : s.Shaped) {pid : Pid} {new : Option Task}
    (next : ∀ task, new = some task → task.Shaped) :
    { s with tasks := Function.update s.tasks pid new }.Shaped := by
  intro other task' after
  by_cases same : other = pid
  · subst same
    simp only [Function.update_self] at after
    exact next task' after
  · simp only [Function.update_of_ne same] at after
    exact shaped other task' after

theorem Kernel.Shaped.updateTask {s : Kernel} (shaped : s.Shaped) {pid : Pid} {task : Task}
    (own : s.tasks pid = some task) (f : Task → Task) (next : (f task).Shaped) :
    (s.updateTask pid f).Shaped :=
  shaped.update fun task' after => by
    rw [own, Option.map_some, Option.some.injEq] at after
    exact after ▸ next

variable {s t : Kernel}

theorem Kernel.Shaped.taskStep {pid : Pid} {task : Task} {alloc : Alloc} (shaped : s.Shaped)
    (own : s.tasks pid = some task) (alive : task.exitState = 0)
    (stepped : taskStep s pid task.pc alloc = some t) : t.Shaped := by
  intro other task' after
  by_cases actor : other = pid
  · subst actor
    obtain ⟨exit, state⟩ := taskStep_actor_state own stepped after
    rcases state with same | running | interruptible
    · exact (shaped _ _ own).congr same exit
    · exact .inl ⟨exit.trans alive, .running, running⟩
    · exact .inl ⟨exit.trans alive, .interruptible, interruptible⟩
  · rcases taskStep_other_task stepped actor with same | ⟨-, woken⟩
    · exact shaped other task' (same ▸ after)
    · rw [woken] at after
      obtain ⟨before, was, rfl⟩ := Option.map_eq_some_iff.mp after
      exact (shaped other before was).wake

theorem Kernel.Shaped.step {a : Action} (shaped : s.Shaped) (stepped : step s a = some t) :
    t.Shaped := by
  cases a with
  | run | reuse =>
    obtain ⟨task, own, runnable, -, stepped⟩ := step_task stepped rfl
    exact shaped.taskStep own runnable.1 stepped
  | call pid call =>
    obtain ⟨task, own, -, -, rfl⟩ := step_call stepped
    exact shaped.updateTask own _ ((shaped pid task own).congr rfl rfl)
  | setState pid state =>
    obtain ⟨task, own, inUser, rfl⟩ := step_setState stepped
    exact shaped.updateTask own _ (.inl ⟨inUser.2, state, rfl⟩)
  | exit pid =>
    obtain ⟨task, own, -, rfl⟩ := step_exit stepped
    exact shaped.updateTask own _ (.inr ⟨rfl, rfl⟩)
  | reap pid =>
    obtain ⟨-, -, -, rfl⟩ := step_reap stepped
    exact shaped.update fun _ none => by cases none
  | spawn pid =>
    obtain ⟨-, rfl⟩ := step_spawn stepped
    exact shaped.update fun _ fresh => by
      cases fresh
      exact .inl ⟨rfl, .running, rfl⟩

theorem Kernel.Shaped.of_reachable (reachable : Reachable s) : s.Shaped := by
  have start : Kernel.init.Shaped := fun _ _ none => by cases none
  have stable : machine.Stable Kernel.Shaped := fun _ _ _ shaped stepped => shaped.step stepped
  exact Transition.Machine.invariant_of_stable start stable s reachable

end Shaped

/-- In every reachable state `release_dead_tasks_locks` keeps an entry of `granted_list`
exactly when its pid names a task that has not exited and is neither stopped, traced nor in a
killable sleep. -/
theorem releaseDeadTasksLocks_reachable {s : Kernel} (reachable : Reachable s) :
    ∀ entry ∈ s.grantedList, (entry ∈ (releaseDeadTasksLocks s).grantedList ↔
      ∃ task, s.tasks (s.entries entry).pid = some task ∧ task.exitState = 0 ∧
        ∃ state : UserState, task.state = state.bits ∧
          state ≠ .killable ∧ state ≠ .stopped ∧ state ≠ .traced) := by
  intro entry inside
  rw [releaseDeadTasksLocks_grantedList, List.mem_filter, and_iff_right inside]
  cases own : s.tasks (s.entries entry).pid with
  | none => simp [isRunning, own]
  | some task =>
    rw [isRunning_of_shaped own (Kernel.Shaped.of_reachable reachable _ _ own)]
    simp

/-- Task 2's `set_orientation` grants task 1's read lock of `wholeRange`. -/
def grantedOnceTrace : List Action :=
  [.spawn 1, .spawn 2, .call 1 (.orientlockRead (.mapped wholeRange))] ++ runs 1 4 ++
    [.call 2 (.setOrientation (.mapped default))] ++ runs 2 11

def grantedOnce : Kernel := (machine.run machine.init grantedOnceTrace).getD Kernel.init

theorem releaseDeadTasksLocks_reachable_grantedOnce :
    2 ∈ grantedOnce.grantedList ∧ (2 ∈ (releaseDeadTasksLocks grantedOnce).grantedList ↔
      ∃ task, grantedOnce.tasks (grantedOnce.entries 2).pid = some task ∧ task.exitState = 0 ∧
        ∃ state : UserState, task.state = state.bits ∧
          state ≠ .killable ∧ state ≠ .stopped ∧ state ≠ .traced) := by
  have linked : 2 ∈ grantedOnce.grantedList := by decide +kernel
  exact ⟨linked, releaseDeadTasksLocks_reachable (Transition.Machine.Reachable.of_run_getD (by decide +kernel))
    2 linked⟩

/-- Task 1 write-locks `wholeRange` and is granted; it is then stopped, and task 4 enters
`set_orientation` up to `release_dead_tasks_locks`. -/
def stoppedOwnerTrace : List Action :=
  [.spawn 1, .spawn 4, .call 1 (.orientlockWrite (.mapped wholeRange))] ++ runs 1 4 ++
    [.call 4 (.setOrientation (.mapped default))] ++ runs 4 12 ++ runs 1 1 ++
    [.setState 1 .stopped, .call 4 (.setOrientation (.mapped default))] ++ runs 4 3

/-- As `stoppedOwnerTrace`, but task 1 exits and is reaped, and a new task takes pid 1. -/
def reusedPidTrace : List Action :=
  [.spawn 1, .spawn 4, .call 1 (.orientlockWrite (.mapped wholeRange))] ++ runs 1 4 ++
    [.call 4 (.setOrientation (.mapped default))] ++ runs 4 12 ++ runs 1 1 ++
    [.exit 1, .reap 1, .spawn 1, .call 4 (.setOrientation (.mapped default))] ++ runs 4 3

/-- `release_dead_tasks_locks` unlinks the entry of a stopped owner that still holds its
lock, and leaves the entry and its range allocated with nothing pointing to them; it keeps
the entry of an owner that has exited once a new task has its pid. -/
theorem releaseDeadTasksLocks_misjudges_owners :
    (∃ s, machine.run machine.init stoppedOwnerTrace = some s ∧
      (s.tasks 4).map Task.pc = some .setRelease ∧
      (s.tasks 1).map (fun task => (task.state, task.exitState)) = some (taskStopped, 0) ∧
      s.Holds 1 ⟨.writer, wholeRange⟩ ∧ 2 ∈ s.grantedList ∧ (s.entries 2).pid = 1 ∧
      ∃ t, step s (.run 4 false) = some t ∧ 2 ∉ t.grantedList ∧ 2 ∉ t.waitersList ∧
        t.live 2 = true ∧ t.live (t.entries 2).range = true) ∧
    (∃ s, machine.run machine.init reusedPidTrace = some s ∧
      (s.tasks 4).map Task.pc = some .setRelease ∧ s.tasks 1 = some Task.new ∧
      2 ∈ s.grantedList ∧ (s.entries 2).pid = 1 ∧
      ∃ t, step s (.run 4 false) = some t ∧ 2 ∈ t.grantedList) := by
  constructor
  · obtain ⟨s, ran, passed⟩ := Transition.Machine.run_of_test
      (show (machine.run machine.init stoppedOwnerTrace).map (fun s =>
        decide ((s.tasks 4).map Task.pc = some .setRelease ∧
          (s.tasks 1).map (fun task => (task.state, task.exitState)) = some (taskStopped, 0) ∧
          s.Holds 1 ⟨.writer, wholeRange⟩ ∧ 2 ∈ s.grantedList ∧ (s.entries 2).pid = 1) &&
        (step s (.run 4 false)).any fun t => decide (2 ∉ t.grantedList ∧ 2 ∉ t.waitersList ∧
          t.live 2 = true ∧ t.live (t.entries 2).range = true)) = some true by decide +kernel)
    rw [Bool.and_eq_true, decide_eq_true_eq, Option.any_eq_true] at passed
    obtain ⟨⟨pc, stopped, holds, granted, owner⟩, t, stepped, released⟩ := passed
    exact ⟨s, ran, pc, stopped, holds, granted, owner, t, stepped, of_decide_eq_true released⟩
  · obtain ⟨s, ran, passed⟩ := Transition.Machine.run_of_test
      (show (machine.run machine.init reusedPidTrace).map (fun s =>
        decide ((s.tasks 4).map Task.pc = some .setRelease ∧ s.tasks 1 = some Task.new ∧
          2 ∈ s.grantedList ∧ (s.entries 2).pid = 1) &&
        (step s (.run 4 false)).any fun t => decide (2 ∈ t.grantedList)) = some true by
          decide +kernel)
    rw [Bool.and_eq_true, decide_eq_true_eq, Option.any_eq_true] at passed
    obtain ⟨⟨pc, fresh, granted, owner⟩, t, stepped, kept⟩ := passed
    exact ⟨s, ran, pc, fresh, granted, owner, t, stepped, of_decide_eq_true kept⟩

end OrientLock
