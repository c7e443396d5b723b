import OrientLock.Steps

set_option autoImplicit false

/- `SET_LOCK` and `WAITERS_LOCK`, the two spin locks that `set_orientation` holds across steps.
Both are instances of one argument: a task at a statement inside the critical section is the
lock's recorded holder. `GRANTED_LOCK` is never held across a step, so the atomicity of the
steps stands for it. -/
namespace OrientLock

/-- The statements of `set_orientation` after `spin_lock(&SET_LOCK)` and before its unlock. -/
def Pc.holdsSetLock : Pc → Bool
  | .setCopy _ | .setLockWaiters | .setRelease | .setLoop _ | .setNoWriter _ _ | .setNoReader _ _
  | .setGranted _ _ | .setAddGranted _ _ | .setDelWaiter _ _ | .setWakeUp _ => true
  | _ => false

/-- The statements after `spin_lock(&WAITERS_LOCK)` and before its unlock. -/
def Pc.holdsWaitersLock : Pc → Bool
  | .setRelease | .setLoop _ | .setNoWriter _ _ | .setNoReader _ _
  | .setGranted _ _ | .setAddGranted _ _ | .setDelWaiter _ _ | .setWakeUp _ => true
  | _ => false

theorem Pc.holdsSetLock_of_holdsWaitersLock {pc : Pc} (inside : pc.holdsWaitersLock = true) :
    pc.holdsSetLock = true := by
  cases pc <;> simp_all [Pc.holdsWaitersLock, Pc.holdsSetLock]

/-- A spin lock as the steps see it: the field that records its holder, the statements inside
its critical section, and the statements that take and drop it. -/
structure SpinLock where
  holder : Kernel → Option Pid
  holds : Pc → Bool
  acquires : Pc → Bool
  releases : Pc → Bool

def setLockSpin : SpinLock where
  holder := Kernel.setLock
  holds := Pc.holdsSetLock
  acquires := fun | .setLockSet _ => true | _ => false
  releases := fun | .setLoop [] => true | _ => false

def waitersLockSpin : SpinLock where
  holder := Kernel.waitersLock
  holds := Pc.holdsWaitersLock
  acquires := fun | .setLockWaiters => true | _ => false
  releases := fun | .setLoop [] => true | _ => false

/-- What the code does with a lock: it is taken only when free, the holder drops it on leaving
the critical section, and nothing else writes it. -/
structure SpinLock.Sound (lock : SpinLock) : Prop where
  enters : ∀ {p q : Pc}, Pc.Flow p q → lock.holds q = true →
    lock.holds p = true ∨ lock.acquires p = true
  leaves : ∀ {p q : Pc}, Pc.Flow p q → lock.releases p = true → lock.holds q = false
  releaser : ∀ {p : Pc}, lock.releases p = true → lock.holds p = true
  idle : lock.holds .idle = false
  entry : ∀ call : Syscall, lock.holds call.entry = false
  acquire : ∀ {s t : Kernel} {pid : Pid} {pc : Pc} {alloc : Alloc},
    taskStep s pid pc alloc = some t → lock.acquires pc = true →
      lock.holder s = none ∧ lock.holder t = some pid
  release : ∀ {s t : Kernel} {pid : Pid} {pc : Pc} {alloc : Alloc},
    taskStep s pid pc alloc = some t → lock.releases pc = true → lock.holder t = none
  keep : ∀ {s t : Kernel} {pid : Pid} {pc : Pc} {alloc : Alloc},
    taskStep s pid pc alloc = some t → lock.acquires pc = false → lock.releases pc = false →
      lock.holder t = lock.holder s
  env : ∀ (s : Kernel) (tasks : Pid → Option Task), lock.holder { s with tasks := tasks } = lock.holder s

namespace SpinLock

variable (lock : SpinLock)

/-- Every task inside the critical section is the recorded holder. -/
def Owned (s : Kernel) : Prop :=
  ∀ pid task, s.tasks pid = some task → lock.holds task.pc = true → lock.holder s = some pid

/-- Held by `owner`, with no task inside the critical section to drop it. -/
def Abandoned (owner : Pid) (s : Kernel) : Prop :=
  lock.holder s = some owner ∧ ∀ pid task, s.tasks pid = some task → lock.holds task.pc = false

variable {lock} {s t : Kernel}

theorem owned_init : lock.Owned Kernel.init := by
  intro pid task none_
  simp [Kernel.init] at none_

section Sound

variable (sound : lock.Sound)
include sound

theorem Sound.owned_taskStep (owned : lock.Owned s) {pid : Pid} {task : Task} {alloc : Alloc}
    (own : s.tasks pid = some task) (stepped : taskStep s pid task.pc alloc = some t) :
    lock.Owned t := by
  intro other task' after holds
  by_cases actor : other = pid
  · subst actor
    have flow := taskStep_flow own stepped after
    rcases sound.enters flow holds with inside | taking
    · have held := owned other task own inside
      cases releasing : lock.releases task.pc
      · cases taken : lock.acquires task.pc
        · rw [sound.keep stepped taken releasing, held]
        · simp [(sound.acquire stepped taken).1] at held
      · simp [sound.leaves flow releasing] at holds
    · exact (sound.acquire stepped taking).2
  · obtain ⟨before, was, same⟩ := taskStep_other stepped actor after
    have held := owned other before was (same ▸ holds)
    cases releasing : lock.releases task.pc
    · cases taken : lock.acquires task.pc
      · rw [sound.keep stepped taken releasing, held]
      · simp [(sound.acquire stepped taken).1] at held
    · have mine := owned pid task own (sound.releaser releasing)
      rw [held, Option.some.injEq] at mine
      exact absurd mine actor

theorem Sound.owned_step (owned : lock.Owned s) {a : Action} (stepped : step s a = some t) :
    lock.Owned t := by
  rcases acting : a.taskAlloc? with _ | ⟨pid, alloc⟩
  · obtain ⟨tasks, rfl, others, actor⟩ := step_env acting stepped
    intro pid task' after holds
    rw [sound.env]
    by_cases same : pid = a.pid
    · subst same
      rcases actor task' after with idle | ⟨call, entered⟩
      · simp [idle, sound.idle] at holds
      · simp [entered, sound.entry] at holds
    · exact owned pid task' (others pid same ▸ after) holds
  · obtain ⟨task, own, _, -, stepped⟩ := step_task stepped acting
    exact sound.owned_taskStep owned own stepped

theorem Sound.owned_of_reachable (reachable : Reachable s) : lock.Owned s := by
  have stable : machine.Stable lock.Owned := fun _ _ _ owned stepped => sound.owned_step owned stepped
  exact Transition.Machine.invariant_of_stable owned_init stable s reachable

theorem Sound.holder_unique (reachable : Reachable s) {p q : Pid} {taskP taskQ : Task}
    (ownP : s.tasks p = some taskP) (ownQ : s.tasks q = some taskQ)
    (insideP : lock.holds taskP.pc = true) (insideQ : lock.holds taskQ.pc = true) : p = q := by
  have owned := sound.owned_of_reachable reachable
  have heldP := owned p taskP ownP insideP
  rw [owned q taskQ ownQ insideQ, Option.some.injEq] at heldP
  exact heldP.symm

theorem Sound.abandoned_step {owner : Pid} (abandoned : lock.Abandoned owner s) {a : Action}
    (stepped : step s a = some t) : lock.Abandoned owner t := by
  obtain ⟨held, outside⟩ := abandoned
  rcases acting : a.taskAlloc? with _ | ⟨pid, alloc⟩
  · obtain ⟨tasks, rfl, others, actor⟩ := step_env acting stepped
    refine ⟨by rw [sound.env, held], ?_⟩
    intro pid task' after
    by_cases same : pid = a.pid
    · subst same
      rcases actor task' after with idle | ⟨call, entered⟩
      · simp [idle, sound.idle]
      · simp [entered, sound.entry]
    · exact outside pid task' (others pid same ▸ after)
  · obtain ⟨task, own, _, -, stepped⟩ := step_task stepped acting
    have notIn := outside pid task own
    have notReleasing : lock.releases task.pc = false := by
      cases releasing : lock.releases task.pc
      · rfl
      · simp [sound.releaser releasing] at notIn
    have notTaking : lock.acquires task.pc = false := by
      cases taking : lock.acquires task.pc
      · rfl
      · simp [(sound.acquire stepped taking).1] at held
    refine ⟨by rw [sound.keep stepped notTaking notReleasing, held], ?_⟩
    intro other task' after
    by_cases actor : other = pid
    · subst actor
      cases inside : lock.holds task'.pc
      · rfl
      · rcases sound.enters (taskStep_flow own stepped after) inside with was | taking
        · simp [was] at notIn
        · simp [taking] at notTaking
    · obtain ⟨before, was, same⟩ := taskStep_other stepped actor after
      exact same ▸ outside other before was

theorem Sound.abandoned_reachableFrom {owner : Pid} (abandoned : lock.Abandoned owner s)
    (reached : machine.ReachableFrom s t) : lock.Abandoned owner t := by
  have stable : machine.Stable (lock.Abandoned owner) := fun _ _ _ held stepped =>
    sound.abandoned_step held stepped
  exact Transition.Machine.ReachableFrom.stable stable abandoned reached

end Sound

end SpinLock

theorem setLockSpin_sound : setLockSpin.Sound where
  enters := by
    intro p q flow
    cases flow <;> simp [setLockSpin, Pc.holdsSetLock]
  leaves := by
    intro p q flow
    cases flow <;> simp [setLockSpin, Pc.holdsSetLock]
  releaser := by
    intro p
    cases p <;> simp [setLockSpin, Pc.holdsSetLock]
  idle := rfl
  entry := by
    intro call
    cases call <;> rfl
  acquire := by
    intro s t pid pc alloc stepped taking
    cases pc <;> simp only [setLockSpin, reduceCtorEq] at taking
    simp only [taskStep] at stepped
    split at stepped
    · cases stepped
    · next free =>
      cases stepped
      simp only [Option.isSome_iff_ne_none, ne_eq, Decidable.not_not] at free
      exact ⟨free, by simp [setLockSpin]⟩
  release := by
    intro s t pid pc alloc stepped releasing
    cases pc with
    | setLoop rest =>
      cases rest
      · cases stepped
        simp [setLockSpin]
      · simp [setLockSpin] at releasing
    | _ => simp [setLockSpin] at releasing
  keep := by
    intro s t pid pc alloc stepped taking releasing
    cases pc with
    | setLockSet orient => simp [setLockSpin] at taking
    | setLoop rest =>
      cases rest
      · simp [setLockSpin] at releasing
      · cases stepped
        simp [setLockSpin]
    | unlock type orient =>
      cases stepped
      rcases orientunlock_cases type s pid orient with same | ⟨entry, unlinked⟩ <;>
        simp [setLockSpin, *]
    | _ =>
      revert stepped
      simp only [taskStep]
      repeat' split
      all_goals
        intro stepped
        cases stepped <;> simp [setLockSpin]
  env _ _ := rfl

/-- Task 1 calls `set_orientation` with a bad pointer and runs to its return. -/
def faultTrace : List Action :=
  [.spawn 1, .call 1 (.setOrientation .unmapped), .run 1 false, .run 1 false]

/-- `set_orientation` returns `-EFAULT` with `SET_LOCK` still held. No later step releases it,
and every task that then enters `set_orientation` spins at `spin_lock(&SET_LOCK)` forever. -/
theorem setOrientation_fault_keeps_setLock :
    ∃ s, Reachable s ∧ (s.tasks 1).map Task.pc = some .idle ∧ s.setLock = some 1 ∧
      ∀ t, machine.ReachableFrom s t → t.setLock = some 1 ∧
        ∀ pid task orient nomem, t.tasks pid = some task → task.pc = .setLockSet orient →
          step t (.run pid nomem) = none := by
  have ran : (machine.run machine.init faultTrace).map
      (fun s => (s.tasks 1).map Task.pc == some .idle && s.setLock == some 1) = some true := by
    decide +kernel
  obtain ⟨s, reachable, passes⟩ := Transition.Machine.Reachable.of_run_test ran
  simp only [Bool.and_eq_true, beq_iff_eq] at passes
  obtain ⟨returned, held⟩ := passes
  have abandoned : setLockSpin.Abandoned 1 s := by
    refine ⟨held, fun pid task own => ?_⟩
    cases inside : setLockSpin.holds task.pc
    · rfl
    · have owner := setLockSpin_sound.owned_of_reachable reachable pid task own inside
      simp only [setLockSpin, held, Option.some.injEq] at owner
      subst owner
      simp [own] at returned
      simp [setLockSpin, returned, Pc.holdsSetLock] at inside
  refine ⟨s, reachable, returned, held, fun t reached => ?_⟩
  have stillHeld := (setLockSpin_sound.abandoned_reachableFrom abandoned reached).1
  refine ⟨stillHeld, fun pid task orient nomem own pc => ?_⟩
  simp only [setLockSpin] at stillHeld
  simp [step, own, pc, taskStep, stillHeld]

theorem waitersLockSpin_sound : waitersLockSpin.Sound where
  enters := by
    intro p q flow
    cases flow <;> simp [waitersLockSpin, Pc.holdsWaitersLock]
  leaves := by
    intro p q flow
    cases flow <;> simp [waitersLockSpin, Pc.holdsWaitersLock]
  releaser := by
    intro p
    cases p <;> simp [waitersLockSpin, Pc.holdsWaitersLock]
  idle := rfl
  entry := by
    intro call
    cases call <;> rfl
  acquire := by
    intro s t pid pc alloc stepped taking
    cases pc <;> simp only [waitersLockSpin, reduceCtorEq] at taking
    simp only [taskStep] at stepped
    split at stepped
    · cases stepped
    · next free =>
      cases stepped
      simp only [Option.isSome_iff_ne_none, ne_eq, Decidable.not_not] at free
      exact ⟨free, by simp [waitersLockSpin]⟩
  release := by
    intro s t pid pc alloc stepped releasing
    cases pc with
    | setLoop rest =>
      cases rest
      · cases stepped
        simp [waitersLockSpin]
      · simp [waitersLockSpin] at releasing
    | _ => simp [waitersLockSpin] at releasing
  keep := by
    intro s t pid pc alloc stepped taking releasing
    cases pc with
    | setLockWaiters => simp [waitersLockSpin] at taking
    | setLoop rest =>
      cases rest
      · simp [waitersLockSpin] at releasing
      · cases stepped
        simp [waitersLockSpin]
    | unlock type orient =>
      cases stepped
      rcases orientunlock_cases type s pid orient with same | ⟨entry, unlinked⟩ <;>
        simp [waitersLockSpin, *]
    | _ =>
      revert stepped
      simp only [taskStep]
      repeat' split
      all_goals
        intro stepped
        cases stepped <;> simp [waitersLockSpin]
  env _ _ := rfl

/-- `set_orientation`'s critical sections exclude each other: in every reachable state at most
one task runs between `spin_lock(&SET_LOCK)` and its unlock, and at most one holds
`WAITERS_LOCK`. -/
theorem setOrientation_exclusive {s : Kernel} (reachable : Reachable s) :
    ∀ p q taskP taskQ, s.tasks p = some taskP → s.tasks q = some taskQ →
      (taskP.pc.holdsSetLock = true → taskQ.pc.holdsSetLock = true → p = q) ∧
      (taskP.pc.holdsWaitersLock = true → taskQ.pc.holdsWaitersLock = true → p = q) := by
  intro p q taskP taskQ ownP ownQ
  exact ⟨setLockSpin_sound.holder_unique reachable ownP ownQ,
    waitersLockSpin_sound.holder_unique reachable ownP ownQ⟩

/-- Task 1 enters `set_orientation` and takes both locks. -/
def lockedPassTrace : List Action :=
  [.spawn 1, .call 1 (.setOrientation (.mapped default))] ++ runs 1 3

def lockedPass : Kernel := (machine.run machine.init lockedPassTrace).getD Kernel.init

theorem setOrientation_exclusive_lockedPass :
    ∃ taskP, lockedPass.tasks 1 = some taskP ∧ taskP.pc.holdsSetLock = true ∧
      taskP.pc.holdsWaitersLock = true ∧ ∀ q taskQ, lockedPass.tasks q = some taskQ →
        (taskP.pc.holdsSetLock = true → taskQ.pc.holdsSetLock = true → 1 = q) ∧
        (taskP.pc.holdsWaitersLock = true → taskQ.pc.holdsWaitersLock = true → 1 = q) := by
  obtain ⟨taskP, own⟩ := Option.isSome_iff_exists.mp
    (show (lockedPass.tasks 1).isSome = true by decide +kernel)
  have inside : taskP.pc.holdsSetLock = true ∧ taskP.pc.holdsWaitersLock = true := by
    have held : (lockedPass.tasks 1).map (fun task => task.pc.holdsSetLock && task.pc.holdsWaitersLock) =
        some true := by decide +kernel
    simpa [own] using held
  exact ⟨taskP, own, inside.1, inside.2, fun q taskQ ownQ =>
    setOrientation_exclusive (Transition.Machine.Reachable.of_run_getD (by decide +kernel)) 1 q taskP taskQ
      own ownQ⟩

end OrientLock
