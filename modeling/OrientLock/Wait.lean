import OrientLock.Steps

set_option autoImplicit false

/- The wait loop of `orientlock_read` and `orientlock_write` against the `wake_up(&sleepers)` of
`grant_lock`. The loop tests `entry->granted` before `prepare_to_wait` and not after it, so a
grant and wake-up between the test and `prepare_to_wait` find the task `TASK_RUNNING`; the
task then sleeps with its lock granted until some later `wake_up`. -/
namespace OrientLock

/-- Task `pid` sleeps in `schedule()` of the wait loop on `entry`: off the run queue, in
`TASK_INTERRUPTIBLE`, not exited. -/
def Kernel.Asleep (s : Kernel) (pid : Pid) (entry : Ptr) : Prop :=
  ∃ task ∈ s.tasks pid,
    task.pc = .lockTest entry ∧ task.onRq = false ∧ task.state = taskInterruptible ∧ task.exitState = 0

instance (s : Kernel) (pid : Pid) (entry : Ptr) : Decidable (s.Asleep pid entry) :=
  decidable_of_iff ((s.tasks pid).any fun task => decide (task.pc = .lockTest entry ∧
      task.onRq = false ∧ task.state = taskInterruptible ∧ task.exitState = 0))
    ((Option.any_eq_true _ _).trans (exists_congr fun _ => and_congr Iff.rfl decide_eq_true_iff))

def Pc.wakesSleepers : Pc → Bool
  | .setWakeUp _ => true
  | _ => false

/-- The step is a `wake_up(&sleepers)`. -/
def wakesUp (s : Kernel) : Action → Bool
  | .run pid _ => (s.tasks pid).any fun task => task.pc.wakesSleepers
  | _ => false

/-- The machine without `wake_up` steps. -/
def quietMachine : Transition.Machine Kernel Action := machine.restrict fun s a => wakesUp s a = false

theorem wakesSleepers_of_quiet {s : Kernel} {a : Action} {q : Pid} {alloc : Alloc} {task : Task}
    (acting : a.taskAlloc? = some (q, alloc)) (own : s.tasks q = some task)
    (clear : alloc.Clear s task.pc) (quiet : wakesUp s a = false) : task.pc.wakesSleepers = false := by
  rcases Action.run_or_allocates acting clear with ⟨nomem, rfl⟩ | allocating
  · simpa [wakesUp, own] using quiet
  · cases pc : task.pc <;> simp_all [Pc.allocates, Pc.wakesSleepers]

theorem asleep_step {s t : Kernel} {pid : Pid} {entry : Ptr} (asleep : s.Asleep pid entry)
    (granted : (s.entries entry).granted = true) (bounded : Bounded s) (owned : s.WaitOwned)
    {a : Action} (quiet : wakesUp s a = false) (stepped : step s a = some t) :
    t.Asleep pid entry ∧ (t.entries entry).granted = true := by
  obtain ⟨task, own, pc, dequeued, interruptible, alive⟩ := asleep
  rw [Option.mem_def] at own
  rcases acting : a.taskAlloc? with _ | ⟨q, alloc⟩
  · have other : a.pid ≠ pid := by
      rintro actor
      rw [← actor] at own
      rw [step_env_busy acting own (by simp [pc]) alive] at stepped
      cases stepped
    obtain ⟨tasks, rfl, others, _⟩ := step_env acting stepped
    have same : tasks pid = s.tasks pid := others pid (Ne.symm other)
    exact ⟨⟨task, by rw [Option.mem_def, ← own, ← same], pc, dequeued, interruptible, alive⟩,
      granted⟩
  · obtain ⟨taskQ, ownQ, runnable, clear, stepped⟩ := step_task stepped acting
    have different : pid ≠ q := by
      rintro rfl
      rw [own, Option.some.injEq] at ownQ
      subst ownQ
      simp [Task.Runnable, dequeued] at runnable
    have same : t.tasks pid = s.tasks pid := by
      rcases taskStep_other_task stepped different with same | ⟨⟨rest, waking⟩, _⟩
      · exact same
      · simpa [waking, Pc.wakesSleepers] using wakesSleepers_of_quiet acting ownQ clear quiet
    exact ⟨⟨task, by rw [Option.mem_def, same, own], pc, dequeued, interruptible, alive⟩,
      taskStep_granted stepped (owned.keeps bounded clear own (by simp [pc, Pc.waitEntry])) granted⟩

theorem asleep_quietMachine {s t : Kernel} {pid : Pid} {entry : Ptr} (asleep : s.Asleep pid entry)
    (granted : (s.entries entry).granted = true) (bounded : Bounded s) (owned : s.WaitOwned)
    (reached : quietMachine.ReachableFrom s t) :
    t.Asleep pid entry ∧ (t.entries entry).granted = true := by
  have stable : quietMachine.Stable fun t =>
      t.Asleep pid entry ∧ (t.entries entry).granted = true ∧ Bounded t ∧ t.WaitOwned := by
    intro s a t ⟨asleep, granted, bounded, owned⟩ stepped
    obtain ⟨quiet, stepped⟩ := Transition.Machine.restrict_step stepped
    obtain ⟨asleep', granted'⟩ := asleep_step asleep granted bounded owned quiet stepped
    exact ⟨asleep', granted', bounded_step bounded stepped, owned.step bounded stepped⟩
  obtain ⟨asleep, granted, -⟩ :=
    Transition.Machine.ReachableFrom.stable stable ⟨asleep, granted, bounded, owned⟩ reached
  exact ⟨asleep, granted⟩

/-- Task 1 write-locks `wholeRange` and runs its loop up to the test, which finds the flag
clear. Task 2's `set_orientation` then grants the lock and wakes the sleepers while task 1 is
still `TASK_RUNNING`. Task 1 goes on with `prepare_to_wait` and `schedule()`. -/
def lostWakeupTrace : List Action :=
  [.spawn 1, .spawn 2, .call 1 (.orientlockWrite (.mapped wholeRange))] ++ runs 1 5 ++
    [.call 2 (.setOrientation (.mapped default))] ++ runs 2 12 ++ runs 1 2

/-- Task 1 sleeps with its entry (address 2) granted, and stays asleep in every run that has
no further `wake_up`. -/
theorem lockTest_lost_wakeup :
    ∃ s, machine.run machine.init lostWakeupTrace = some s ∧ s.Asleep 1 2 ∧
      (s.entries 2).granted = true ∧
      ∀ t, quietMachine.ReachableFrom s t → t.Asleep 1 2 ∧ (t.entries 2).granted = true := by
  obtain ⟨s, ran, passed⟩ := Transition.Machine.run_of_test
    (show (machine.run machine.init lostWakeupTrace).map
      (fun s => decide (s.Asleep 1 2 ∧ (s.entries 2).granted = true)) = some true by decide +kernel)
  obtain ⟨asleep, granted⟩ := of_decide_eq_true passed
  have reachable := Transition.Machine.Reachable.of_run ran
  exact ⟨s, ran, asleep, granted, fun t reached => asleep_quietMachine asleep granted
    (bounded_of_reachable reachable) (waitOwned_of_reachable reachable) reached⟩

end OrientLock
