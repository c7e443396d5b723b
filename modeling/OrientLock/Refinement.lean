import OrientLock.Locks

set_option autoImplicit false

/- A syscall that runs with no step of another task or of the environment in between computes
what the sequential model computes: `set_orientation` returns in the state `setOrientation`
gives, and `orientlock_*` reaches its wait loop in the state `orientlock` gives. So the
properties `Pass`, `Unlock` and `Errors` prove of the sequential functions hold of these runs
of the step machine. The simulation carries the task's program point, which the sequential
state does not have; every statement of the syscalls commutes with `goto`. -/
namespace OrientLock

/-- The step is one of task `pid`. -/
def Action.byTask (pid : Pid) : Action → Bool
  | .run q _ => q == pid
  | _ => false

/-- The machine in which task `pid` alone steps. -/
def soloMachine (pid : Pid) : Transition.Machine Kernel Action :=
  machine.restrict fun _ a => a.byTask pid = true

/-- Task `pid` exists and the scheduler may run it. -/
def Kernel.CanRun (s : Kernel) (pid : Pid) : Prop :=
  ∃ task, s.tasks pid = some task ∧ task.Runnable

section Goto

variable (s : Kernel) (pid : Pid) (pc : Pc)

@[simp] theorem Kernel.goto_goto (next : Pc) : (s.goto pid pc).goto pid next = s.goto pid next := by
  cases s
  simp only [Kernel.goto_eq, Kernel.updateTask, Function.update_idem, Function.update_self,
    Option.map_map]
  rfl

theorem Kernel.goto_self {task : Task} (own : s.tasks pid = some task) (entered : task.pc = pc) :
    s.goto pid pc = s := by
  have unchanged : Function.update s.tasks pid (some { task with pc := pc }) = s.tasks := by
    rw [← entered]
    exact Function.update_eq_self_iff.mpr own.symm
  simp only [Kernel.goto_eq, Kernel.updateTask, own, Option.map_some, unchanged]

theorem Kernel.goto_withSetLock (holder : Option Pid) :
    { s.goto pid pc with setLock := holder } = { s with setLock := holder }.goto pid pc := rfl

theorem Kernel.goto_withWaitersLock (holder : Option Pid) :
    { s.goto pid pc with waitersLock := holder } = { s with waitersLock := holder }.goto pid pc :=
  rfl

theorem Kernel.goto_withCurrentOrient (orient : DevOrientation) :
    { s.goto pid pc with currentOrient := orient } =
      { s with currentOrient := orient }.goto pid pc :=
  rfl

theorem Kernel.goto_withLocksFreed :
    { s.goto pid pc with waitersLock := none, setLock := none } =
      { s with waitersLock := none, setLock := none }.goto pid pc := rfl

theorem setGranted_goto (entry : Ptr) :
    setGranted (s.goto pid pc) entry = (setGranted s entry).goto pid pc :=
  rfl

theorem addGranted_goto (entry : Ptr) :
    addGranted (s.goto pid pc) entry = (addGranted s entry).goto pid pc :=
  rfl

theorem delWaiter_goto (entry : Ptr) :
    delWaiter (s.goto pid pc) entry = (delWaiter s entry).goto pid pc :=
  rfl

theorem enqueue_goto (entry : Ptr) :
    enqueue (s.goto pid pc) entry = (enqueue s entry).goto pid pc := rfl

theorem Task.wake_withPc (task : Task) :
    { task with pc := pc }.wake = { task.wake with pc := pc } := by
  unfold Task.wake
  split <;> rfl

theorem wakeUp_goto : wakeUp (s.goto pid pc) = (wakeUp s).goto pid pc := by
  simp only [wakeUp, Kernel.goto_eq, Kernel.updateTask, Kernel.mk.injEq, true_and]
  funext q
  by_cases same : q = pid
  · subst same
    cases s.tasks q <;> simp [Task.wake_withPc]
  · simp [Function.update_of_ne same]

theorem isRunning_goto : isRunning (s.goto pid pc).tasks = isRunning s.tasks := by
  funext q
  by_cases same : q = pid
  · subst same
    cases own : s.tasks q <;> simp [isRunning, Kernel.updateTask_tasks, own]
  · simp [isRunning, Kernel.updateTask_tasks, same]

theorem releaseDeadTasksLocks_goto :
    releaseDeadTasksLocks (s.goto pid pc) = (releaseDeadTasksLocks s).goto pid pc := by
  unfold releaseDeadTasksLocks
  rw [isRunning_goto]
  rfl

theorem kmalloc_goto (alloc : Alloc) :
    (s.goto pid pc).kmalloc alloc = (s.kmalloc alloc).map fun (object, t) => (object, t.goto pid pc) := by
  cases alloc with
  | null => rfl
  | fresh => rfl
  | reuse object =>
    simp only [Kernel.kmalloc, apply_ite (Option.map _), Option.map_some]
    rfl

theorem allocRange_goto (orient : UserPtr OrientationRange) (alloc : Alloc) :
    allocRange (s.goto pid pc) orient alloc =
      ((allocRange s orient alloc).1, (allocRange s orient alloc).2.goto pid pc) := by
  unfold allocRange
  rw [kmalloc_goto]
  cases s.kmalloc alloc with
  | none => rfl
  | some allocated => dsimp only [Option.map_some]; split <;> rfl

theorem allocEntry_goto (type : EntryType) (caller : Pid) (korient : Ptr) (alloc : Alloc) :
    allocEntry (s.goto pid pc) type caller korient alloc =
      ((allocEntry s type caller korient alloc).1,
        (allocEntry s type caller korient alloc).2.goto pid pc) := by
  unfold allocEntry
  rw [kmalloc_goto]
  cases s.kmalloc alloc <;> rfl

end Goto

section CanRun

variable {s : Kernel} {pid : Pid}

theorem Task.wake_runnable {task : Task} (runnable : task.Runnable) : task.wake.Runnable := by
  unfold Task.wake
  split
  · exact ⟨runnable.1, rfl⟩
  · exact runnable

theorem Kernel.CanRun.wakeUp (can : s.CanRun pid) : (wakeUp s).CanRun pid := by
  obtain ⟨task, own, runnable⟩ := can
  exact ⟨task.wake, by simp [OrientLock.wakeUp, own], Task.wake_runnable runnable⟩

theorem Kernel.CanRun.processWaiter (can : s.CanRun pid) (current : Ptr) :
    (processWaiter s current).CanRun pid := by
  have granted : (grantLock s current).CanRun pid := Kernel.CanRun.wakeUp can
  dsimp only [OrientLock.processWaiter]
  repeat' split
  all_goals first | exact can | exact granted

theorem Kernel.CanRun.of_tasks {t : Kernel} (can : s.CanRun pid) (same : t.tasks = s.tasks) :
    t.CanRun pid := by
  obtain ⟨task, own, runnable⟩ := can
  exact ⟨task, by rw [same, own], runnable⟩

theorem Kernel.CanRun.foldl_processWaiter (waiters : List Ptr) :
    ∀ {s : Kernel}, s.CanRun pid → (waiters.foldl OrientLock.processWaiter s).CanRun pid := by
  induction waiters with
  | nil => exact fun can => can
  | cons current rest ih => exact fun can => ih (can.processWaiter current)

end CanRun

section Solo

variable {v t : Kernel} {pid : Pid}

theorem step_goto (can : v.CanRun pid) (pc : Pc) (nomem : Bool) :
    step (v.goto pid pc) (.run pid nomem) = taskStep (v.goto pid pc) pid pc (.ofNomem nomem) := by
  obtain ⟨task, own, exited, onRq⟩ := can
  have runnable : ({ task with pc := pc } : Task).Runnable := ⟨exited, onRq⟩
  simp only [step, Kernel.goto_eq, Kernel.updateTask_tasks, own, ite_true, Option.map_some,
    if_pos runnable]

theorem solo_goto (can : v.CanRun pid) (nomem : Bool) {pc : Pc}
    (stepped : taskStep (v.goto pid pc) pid pc (.ofNomem nomem) = some t) :
    (soloMachine pid).ReachableFrom (v.goto pid pc) t :=
  .single (.run pid nomem) (Transition.Machine.step_restrict (by simp [Action.byTask])
    ((step_goto can pc nomem).trans stepped))

theorem loopHead_solo (can : v.CanRun pid) (current : Ptr) (rest : List Ptr) :
    (soloMachine pid).ReachableFrom (v.goto pid (.setLoop (current :: rest)))
      (v.goto pid (if inRange (v.rangeOf current) v.currentOrient then .setNoWriter current rest
        else .setLoop rest)) :=
  solo_goto can false (by simp only [taskStep, Kernel.goto_goto]; rfl)

theorem noWriter_solo (can : v.CanRun pid) (current : Ptr) (rest : List Ptr) :
    (soloMachine pid).ReachableFrom (v.goto pid (.setNoWriter current rest))
      (v.goto pid (if noWriterGrabbed v (v.rangeOf current) then
        match (v.entries current).type with
        | .reader => .setGranted current rest
        | .writer => .setNoReader current rest
      else .setLoop rest)) :=
  solo_goto can false (by simp only [taskStep, Kernel.goto_goto]; rfl)

theorem noReader_solo (can : v.CanRun pid) (current : Ptr) (rest : List Ptr) :
    (soloMachine pid).ReachableFrom (v.goto pid (.setNoReader current rest))
      (v.goto pid (if noReaderGrabbed v (v.rangeOf current) then .setGranted current rest
        else .setLoop rest)) :=
  solo_goto can false (by simp only [taskStep, Kernel.goto_goto]; rfl)

theorem release_solo (can : v.CanRun pid) :
    (soloMachine pid).ReachableFrom (v.goto pid .setRelease)
      ((releaseDeadTasksLocks v).goto pid (.setLoop v.waitersList)) :=
  solo_goto can false (by simp only [taskStep, releaseDeadTasksLocks_goto, Kernel.goto_goto]; rfl)

theorem setGranted_solo (can : v.CanRun pid) (current : Ptr) (rest : List Ptr) :
    (soloMachine pid).ReachableFrom (v.goto pid (.setGranted current rest))
      ((setGranted v current).goto pid (.setAddGranted current rest)) :=
  solo_goto can false (by simp only [taskStep, setGranted_goto, Kernel.goto_goto])

theorem addGranted_solo (can : v.CanRun pid) (current : Ptr) (rest : List Ptr) :
    (soloMachine pid).ReachableFrom (v.goto pid (.setAddGranted current rest))
      ((addGranted v current).goto pid (.setDelWaiter current rest)) :=
  solo_goto can false (by simp only [taskStep, addGranted_goto, Kernel.goto_goto])

theorem delWaiter_solo (can : v.CanRun pid) (current : Ptr) (rest : List Ptr) :
    (soloMachine pid).ReachableFrom (v.goto pid (.setDelWaiter current rest))
      ((delWaiter v current).goto pid (.setWakeUp rest)) :=
  solo_goto can false (by simp only [taskStep, delWaiter_goto, Kernel.goto_goto])

theorem wakeUp_solo (can : v.CanRun pid) (rest : List Ptr) :
    (soloMachine pid).ReachableFrom (v.goto pid (.setWakeUp rest)) ((wakeUp v).goto pid (.setLoop rest)) :=
  solo_goto can false (by simp only [taskStep, wakeUp_goto, Kernel.goto_goto])

theorem grantLock_solo (can : v.CanRun pid) (current : Ptr) (rest : List Ptr) :
    (soloMachine pid).ReachableFrom (v.goto pid (.setGranted current rest))
      ((grantLock v current).goto pid (.setLoop rest)) :=
  (setGranted_solo can current rest).trans <| (addGranted_solo (v := setGranted v current) can current rest).trans <|
    (delWaiter_solo (v := addGranted (setGranted v current) current) can current rest).trans <|
      wakeUp_solo (v := delWaiter (addGranted (setGranted v current) current) current) can rest

theorem noWriter_grant_solo (can : v.CanRun pid) (current : Ptr) (rest : List Ptr) :
    (soloMachine pid).ReachableFrom (v.goto pid (.setNoWriter current rest))
      ((match (v.entries current).type with
        | .reader => if noWriterGrabbed v (v.rangeOf current) then grantLock v current else v
        | .writer =>
          if noWriterGrabbed v (v.rangeOf current) && noReaderGrabbed v (v.rangeOf current) then
            grantLock v current
          else v).goto pid (.setLoop rest)) := by
  have noWriter := noWriter_solo can current rest
  have noReader := noReader_solo can current rest
  have grant := grantLock_solo can current rest
  by_cases writerFree : noWriterGrabbed v (v.rangeOf current) = true
  · rw [if_pos writerFree] at noWriter
    cases type : (v.entries current).type with
    | reader =>
      simp only [type] at noWriter
      simp only [writerFree, if_true]
      exact noWriter.trans grant
    | writer =>
      simp only [type] at noWriter
      by_cases readerFree : noReaderGrabbed v (v.rangeOf current) = true
      · rw [if_pos readerFree] at noReader
        simp only [writerFree, readerFree, Bool.and_self, if_true]
        exact noWriter.trans (noReader.trans grant)
      · rw [if_neg readerFree] at noReader
        simp only [writerFree, readerFree, Bool.true_and]
        exact noWriter.trans noReader
  · rw [if_neg writerFree] at noWriter
    cases (v.entries current).type <;> simp only [writerFree, Bool.false_and] <;>
      exact noWriter

theorem processWaiter_solo (can : v.CanRun pid) (current : Ptr) (rest : List Ptr) :
    (soloMachine pid).ReachableFrom (v.goto pid (.setLoop (current :: rest)))
      ((processWaiter v current).goto pid (.setLoop rest)) := by
  have head := loopHead_solo can current rest
  by_cases inside : inRange (v.rangeOf current) v.currentOrient = true
  · rw [if_pos inside] at head
    simp only [processWaiter, inside, if_true]
    exact head.trans (noWriter_grant_solo can current rest)
  · rw [if_neg inside] at head
    simp only [processWaiter, inside]
    exact head

theorem foldl_processWaiter_solo (waiters : List Ptr) :
    ∀ v : Kernel, v.CanRun pid →
      (soloMachine pid).ReachableFrom (v.goto pid (.setLoop waiters))
        ((waiters.foldl processWaiter v).goto pid (.setLoop [])) := by
  induction waiters with
  | nil => exact fun _ _ => .refl
  | cons current rest ih =>
    intro v can
    exact (processWaiter_solo can current rest).trans (ih _ (can.processWaiter current))

theorem toLoop_solo (can : v.CanRun pid) {pc : Pc} (inside : pc.holdsWaitersLock = true) :
    ∃ (w : Kernel) (rest : List Ptr), w.CanRun pid ∧
      (soloMachine pid).ReachableFrom (v.goto pid pc) (w.goto pid (.setLoop rest)) := by
  have granted : ∀ current, (grantLock v current).CanRun pid := fun _ => Kernel.CanRun.wakeUp can
  cases pc with
  | setRelease => exact ⟨releaseDeadTasksLocks v, v.waitersList, can.of_tasks rfl, release_solo can⟩
  | setLoop rest => exact ⟨v, rest, can, .refl⟩
  | setNoWriter current rest =>
    refine ⟨_, rest, ?_, noWriter_grant_solo can current rest⟩
    split <;> split
    all_goals first | exact granted current | exact can
  | setNoReader current rest =>
    have noReader := noReader_solo can current rest
    by_cases readerFree : noReaderGrabbed v (v.rangeOf current) = true
    · rw [if_pos readerFree] at noReader
      exact ⟨_, rest, granted current, noReader.trans (grantLock_solo can current rest)⟩
    · rw [if_neg readerFree] at noReader
      exact ⟨v, rest, can, noReader⟩
  | setGranted current rest => exact ⟨_, rest, granted current, grantLock_solo can current rest⟩
  | setAddGranted current rest =>
    exact ⟨_, rest, Kernel.CanRun.wakeUp (s := delWaiter (addGranted v current) current) can,
      (addGranted_solo can current rest).trans
        ((delWaiter_solo (v := addGranted v current) can current rest).trans
          (wakeUp_solo (v := delWaiter (addGranted v current) current) can rest))⟩
  | setDelWaiter current rest =>
    exact ⟨_, rest, Kernel.CanRun.wakeUp (s := delWaiter v current) can,
      (delWaiter_solo can current rest).trans (wakeUp_solo (v := delWaiter v current) can rest)⟩
  | setWakeUp rest => exact ⟨_, rest, can.wakeUp, wakeUp_solo can rest⟩
  | _ => simp [Pc.holdsWaitersLock] at inside

/-- `sys_set_orientation`, run by task `pid` with no other step in between, ends with the task
back in user space and the state `setOrientation` returns. -/
theorem soloMachine_reaches_setOrientation (s : Kernel) (pid : Pid)
    (orient : UserPtr DevOrientation) (task : Task) (own : s.tasks pid = some task)
    (runnable : task.Runnable) (entered : task.pc = .setLockSet orient) {result : Int} {t : Kernel}
    (returned : setOrientation s pid orient = some (result, t)) :
    (soloMachine pid).ReachableFrom s (t.goto pid .idle) := by
  have can : s.CanRun pid := ⟨task, own, runnable⟩
  rw [← Kernel.goto_self s pid _ own entered]
  unfold setOrientation at returned
  split at returned
  · cases returned
  · next setHeld =>
    have locked : (soloMachine pid).ReachableFrom (s.goto pid (.setLockSet orient))
        ({ s with setLock := some pid }.goto pid (.setCopy orient)) :=
      solo_goto can false (by
        simp only [taskStep, Kernel.goto_withSetLock, Kernel.goto_goto]
        exact if_neg setHeld)
    have copied : (soloMachine pid).ReachableFrom
        ({ s with setLock := some pid }.goto pid (.setCopy orient))
        ({ s with setLock := some pid, currentOrient := (copyFromUser orient).1 }.goto pid
          (if (copyFromUser orient).2 then .idle else .setLockWaiters)) :=
      @solo_goto { s with setLock := some pid } _ pid can false _
        (by simp only [taskStep, Kernel.goto_withCurrentOrient, Kernel.goto_goto])
    dsimp only at returned
    split at returned
    · next faulted =>
      cases returned
      rw [if_pos faulted] at copied
      exact locked.trans copied
    · next copiedOk =>
      rw [if_neg copiedOk] at copied
      split at returned
      · cases returned
      · next waitersHeld =>
        cases returned
        let w : Kernel :=
          { s with setLock := some pid, currentOrient := (copyFromUser orient).1,
                   waitersLock := some pid }
        have waiting : (soloMachine pid).ReachableFrom
            ({ s with setLock := some pid, currentOrient := (copyFromUser orient).1 }.goto pid
              .setLockWaiters) (w.goto pid .setRelease) :=
          @solo_goto { s with setLock := some pid, currentOrient := (copyFromUser orient).1 } _ pid
            can false _
            (by
              simp only [taskStep, Kernel.goto_withWaitersLock, Kernel.goto_goto]
              exact if_neg waitersHeld)
        have released := release_solo (v := w) can
        have looped := foldl_processWaiter_solo w.waitersList (releaseDeadTasksLocks w) can
        have finished : (soloMachine pid).ReachableFrom ((passUnderLocks w).goto pid (.setLoop []))
            ({ passUnderLocks w with waitersLock := none, setLock := none }.goto pid .idle) :=
          @solo_goto (passUnderLocks w) _ pid (Kernel.CanRun.foldl_processWaiter _ can) false _
            (by simp only [taskStep, Kernel.goto_withLocksFreed, Kernel.goto_goto])
        exact locked.trans (copied.trans (waiting.trans (released.trans (looped.trans finished))))

/-- Boot, with task 1 at the first statement of `set_orientation`. -/
def setOrientationEntered : Kernel :=
  { Kernel.init with
    tasks := Function.update Kernel.init.tasks 1 (some { Task.new with pc := .setLockSet (.mapped default) }) }

theorem soloMachine_reaches_setOrientation_entered :
    ∃ t, setOrientation setOrientationEntered 1 (.mapped default) = some (0, t) ∧
      (soloMachine 1).ReachableFrom setOrientationEntered (t.goto 1 .idle) :=
  ⟨_, rfl, soloMachine_reaches_setOrientation setOrientationEntered 1 (.mapped default) _ rfl ⟨rfl, rfl⟩
    rfl rfl⟩

/-- `sys_orientlock_read` and `sys_orientlock_write`, run by task `pid` alone up to their wait
loop: an early return ends in user space, and a queued entry leaves the task at
`add_wait_queue`, each in the state `orientlock` returns. -/
theorem soloMachine_reaches_orientlock (type : EntryType) (s : Kernel) (pid : Pid)
    (orient : UserPtr OrientationRange) (task : Task) (own : s.tasks pid = some task)
    (runnable : task.Runnable) (entered : task.pc = .lockRange type orient)
    (rangeNomem entryNomem : Bool) {result : Except Int Ptr} {t : Kernel}
    (returned : orientlock type s pid orient rangeNomem entryNomem = some (result, t)) :
    (∀ rc, result = .error rc → (soloMachine pid).ReachableFrom s (t.goto pid .idle)) ∧
      (∀ entry, result = .ok entry →
        (soloMachine pid).ReachableFrom s (t.goto pid (.lockAddWait entry))) := by
  have can : s.CanRun pid := ⟨task, own, runnable⟩
  rw [← Kernel.goto_self s pid _ own entered]
  unfold orientlock at returned
  rcases ranged : allocRange s orient (.ofNomem rangeNomem) with ⟨rc | korient, s1⟩ <;>
    rw [ranged] at returned
  · cases returned
    have failed : (soloMachine pid).ReachableFrom (s.goto pid (.lockRange type orient))
        (t.goto pid .idle) :=
      solo_goto can rangeNomem (by simp only [taskStep, allocRange_goto, ranged, Kernel.goto_goto])
    exact ⟨fun _ _ => failed, fun _ impossible => by cases impossible⟩
  · have can1 : s1.CanRun pid := can.of_tasks (by
      rw [show s1 = (allocRange s orient (.ofNomem rangeNomem)).2 by rw [ranged]]
      exact allocRange_tasks s orient (.ofNomem rangeNomem))
    have copied : (soloMachine pid).ReachableFrom (s.goto pid (.lockRange type orient))
        (s1.goto pid (.lockEntry type korient)) :=
      solo_goto can rangeNomem (by simp only [taskStep, allocRange_goto, ranged, Kernel.goto_goto])
    dsimp only at returned
    rcases allocated : allocEntry s1 type pid korient (.ofNomem entryNomem) with ⟨rc | entry, s2⟩ <;>
      rw [allocated] at returned
    · cases returned
      have failed : (soloMachine pid).ReachableFrom (s1.goto pid (.lockEntry type korient))
          (t.goto pid .idle) :=
        solo_goto can1 entryNomem
          (by simp only [taskStep, allocEntry_goto, allocated, Kernel.goto_goto])
      exact ⟨fun _ _ => copied.trans failed, fun _ impossible => by cases impossible⟩
    · have can2 : s2.CanRun pid := can1.of_tasks (by
        rw [show s2 = (allocEntry s1 type pid korient (.ofNomem entryNomem)).2 by rw [allocated]]
        exact allocEntry_tasks s1 type pid korient (.ofNomem entryNomem))
      have initialised : (soloMachine pid).ReachableFrom (s1.goto pid (.lockEntry type korient))
          (s2.goto pid (.lockEnqueue entry)) :=
        solo_goto can1 entryNomem
          (by simp only [taskStep, allocEntry_goto, allocated, Kernel.goto_goto])
      dsimp only at returned
      split at returned
      · cases returned
      · next waitersHeld =>
        cases returned
        have queued : (soloMachine pid).ReachableFrom (s2.goto pid (.lockEnqueue entry))
            ((enqueue s2 entry).goto pid (.lockAddWait entry)) :=
          solo_goto can2 false (by
            simp only [taskStep, enqueue_goto, Kernel.goto_goto]
            exact if_neg waitersHeld)
        constructor
        · rintro _ ⟨⟩
        · rintro _ ⟨⟩
          exact copied.trans (initialised.trans queued)

end Solo

/-- Boot, with task 1 at the first statement of `orientlock_read`. -/
def orientlockEntered : Kernel :=
  { Kernel.init with
    tasks := Function.update Kernel.init.tasks 1
      (some { Task.new with pc := .lockRange .reader (.mapped wholeRange) }) }

theorem soloMachine_reaches_orientlock_entered :
    ∃ result t, orientlock .reader orientlockEntered 1 (.mapped wholeRange) false false = some (result, t) ∧
      (∀ rc, result = .error rc → (soloMachine 1).ReachableFrom orientlockEntered (t.goto 1 .idle)) ∧
      (∀ entry, result = .ok entry →
        (soloMachine 1).ReachableFrom orientlockEntered (t.goto 1 (.lockAddWait entry))) :=
  ⟨_, _, rfl, soloMachine_reaches_orientlock .reader orientlockEntered 1 (.mapped wholeRange) _ rfl
    ⟨rfl, rfl⟩ rfl false false rfl⟩

end OrientLock
