import OrientLock.Refinement
import OrientLock.Release

set_option autoImplicit false

/- Progress inside `set_orientation`'s critical sections. A task between `spin_lock(&SET_LOCK)`
and its unlock never leaves the run queue, and from anywhere under `WAITERS_LOCK` its own steps
take it back to user space with both locks released. So a task spinning on either lock waits
for a task that the scheduler can always run and that needs no other task's step to finish. -/
namespace OrientLock

section Runnable

variable {s t : Kernel}

theorem Syscall.entry_holdsSetLock (call : Syscall) : call.entry.holdsSetLock = false := by
  cases call <;> rfl

theorem Task.wake_onRq {task : Task} (onRq : task.onRq = true) : task.wake.onRq = true := by
  unfold Task.wake
  split
  · rfl
  · exact onRq

theorem taskStep_actor_onRq {pid : Pid} {task task' : Task} {alloc : Alloc} (own : s.tasks pid = some task)
    (stepped : taskStep s pid task.pc alloc = some t) (after : t.tasks pid = some task')
    (onRq : task.onRq = true) (notSchedule : ∀ entry, task.pc ≠ .lockSchedule entry) :
    task'.onRq = true := by
  cases pc : task.pc with
  | lockSchedule entry => exact absurd pc (notSchedule entry)
  | setWakeUp rest =>
    rw [pc] at stepped
    cases stepped
    simp [Kernel.updateTask_tasks, own, wakeUp] at after
    subst after
    exact Task.wake_onRq onRq
  | setLoop rest =>
    rw [pc] at stepped
    cases rest <;> cases stepped <;>
      simp only [Kernel.goto_eq, Kernel.updateTask_tasks, ite_true, own, Option.map_some,
        Option.some.injEq] at after <;> subst after <;> exact onRq
  | unlock type orient =>
    rw [pc] at stepped
    cases stepped
    simp only [Kernel.updateTask_tasks, ite_true, Option.map_eq_some_iff] at after
    obtain ⟨before, was, after⟩ := after
    have same : (orientunlock type s pid orient).2.tasks pid = s.tasks pid := by
      rcases orientunlock_cases type s pid orient with same | ⟨entry, unlinked⟩ <;> simp [*]
    rw [same, own, Option.some.injEq] at was
    subst was after
    split <;> simpa [Task.release] using onRq
  | _ =>
    rw [pc] at stepped
    revert stepped
    simp only [taskStep]
    repeat' split
    all_goals
      intro stepped
      cases stepped <;> simp [Kernel.updateTask_tasks, own] at after <;> subst after <;> simpa using onRq

/-- The tasks inside `set_orientation`'s critical sections are alive and on the run queue. -/
def Kernel.HoldersRunnable (s : Kernel) : Prop :=
  ∀ pid task, s.tasks pid = some task → task.pc.holdsSetLock = true → task.Runnable

theorem Kernel.HoldersRunnable.taskStep (holders : s.HoldersRunnable) {pid : Pid} {task : Task}
    {alloc : Alloc} (own : s.tasks pid = some task) (runnable : task.Runnable)
    (stepped : OrientLock.taskStep s pid task.pc alloc = some t) : t.HoldersRunnable := by
  intro other task' after inside
  by_cases actor : other = pid
  · subst actor
    have notSchedule : ∀ entry, task.pc ≠ .lockSchedule entry := by
      intro entry scheduling
      have flow := taskStep_flow own stepped after
      rw [scheduling] at flow
      generalize task'.pc = next at flow inside
      cases flow
      simp [Pc.holdsSetLock] at inside
    exact ⟨(taskStep_actor_state own stepped after).1.trans runnable.1,
      taskStep_actor_onRq own stepped after runnable.2 notSchedule⟩
  · rcases taskStep_other_task stepped actor with same | ⟨-, woken⟩
    · exact holders other task' (same ▸ after) inside
    · rw [woken] at after
      obtain ⟨before, was, rfl⟩ := Option.map_eq_some_iff.mp after
      rw [Task.wake_pc] at inside
      have held := holders other before was inside
      exact ⟨by rw [Task.wake_exitState]; exact held.1, Task.wake_onRq held.2⟩

theorem Kernel.HoldersRunnable.step_env (holders : s.HoldersRunnable) {a : Action}
    (notRun : a.taskAlloc? = none) (stepped : step s a = some t) : t.HoldersRunnable := by
  obtain ⟨tasks, rfl, others, entered⟩ := OrientLock.step_env notRun stepped
  intro q task after inside
  by_cases acting : q = a.pid
  · subst acting
    rcases entered task after with idle | ⟨call, entry⟩
    · simp [idle, Pc.holdsSetLock] at inside
    · rw [entry, Syscall.entry_holdsSetLock] at inside
      cases inside
  · exact holders q task ((others q acting).symm.trans after) inside

theorem Kernel.HoldersRunnable.step (holders : s.HoldersRunnable) {a : Action}
    (stepped : step s a = some t) : t.HoldersRunnable := by
  rcases acting : a.taskAlloc? with _ | ⟨pid, alloc⟩
  · exact holders.step_env acting stepped
  · obtain ⟨task, own, runnable, -, stepped⟩ := step_task stepped acting
    exact holders.taskStep own runnable stepped

theorem Kernel.HoldersRunnable.of_reachable (reachable : Reachable s) : s.HoldersRunnable := by
  have start : Kernel.init.HoldersRunnable := fun _ _ none_ => by simp [Kernel.init] at none_
  have stable : machine.Stable Kernel.HoldersRunnable := fun _ _ _ holders stepped => holders.step stepped
  exact Transition.Machine.invariant_of_stable start stable s reachable

end Runnable

/-- Nothing under `WAITERS_LOCK` spins or sleeps: in every reachable state, a task anywhere in
that critical section of `set_orientation`, scheduled alone, gets back to user space with
`WAITERS_LOCK` and `SET_LOCK` both released. -/
theorem waitersLock_holder_returns {s : Kernel} (reachable : Reachable s) (pid : Pid) (task : Task)
    (own : s.tasks pid = some task) (inside : task.pc.holdsWaitersLock = true) :
    ∃ t task', (soloMachine pid).ReachableFrom s t ∧ t.tasks pid = some task' ∧ task'.pc = .idle ∧
      t.waitersLock = none ∧ t.setLock = none := by
  have runnable := Kernel.HoldersRunnable.of_reachable reachable pid task own
    (Pc.holdsSetLock_of_holdsWaitersLock inside)
  have can : s.CanRun pid := ⟨task, own, runnable⟩
  rw [← Kernel.goto_self s pid task.pc own rfl]
  obtain ⟨w, rest, canW, toLoop⟩ := toLoop_solo can inside
  have looped := foldl_processWaiter_solo rest w canW
  have canEnd := canW.foldl_processWaiter rest
  have finished : (soloMachine pid).ReachableFrom ((rest.foldl processWaiter w).goto pid (.setLoop []))
      ({ rest.foldl processWaiter w with waitersLock := none, setLock := none }.goto pid .idle) :=
    solo_goto canEnd false (by simp only [taskStep, Kernel.goto_withLocksFreed, Kernel.goto_goto])
  obtain ⟨final, ownFinal, -⟩ := canEnd
  refine ⟨_, { final with pc := .idle }, toLoop.trans (looped.trans finished), ?_, rfl, rfl, rfl⟩
  simp [Kernel.updateTask_tasks, ownFinal]

theorem waitersLock_holder_returns_lockedPass :
    ∃ task, lockedPass.tasks 1 = some task ∧ task.pc.holdsWaitersLock = true ∧
      ∃ t task', (soloMachine 1).ReachableFrom lockedPass t ∧ t.tasks 1 = some task' ∧
        task'.pc = .idle ∧ t.waitersLock = none ∧ t.setLock = none := by
  obtain ⟨task, own⟩ := Option.isSome_iff_exists.mp
    (show (lockedPass.tasks 1).isSome = true by decide +kernel)
  have inside : task.pc.holdsWaitersLock = true := by
    have checked : (lockedPass.tasks 1).map (fun task => task.pc.holdsWaitersLock) = some true := by
      decide +kernel
    simpa [own] using checked
  exact ⟨task, own, inside,
    waitersLock_holder_returns (Transition.Machine.Reachable.of_run_getD (by decide +kernel)) 1 task own inside⟩

end OrientLock
