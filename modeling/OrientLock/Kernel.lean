import Mathlib.Logic.Function.Basic
import OrientLock.Orientation

set_option autoImplicit false

/- The globals of `include/linux/orientation.h`, the heap objects that `kernel/orientation.c`
allocates, the tasks that call it, and the functions of `orientation.c` as they compute when
they run without interleaving. `OrientLock.System` splits the syscalls into their atomic
steps; its steps call the functions defined here. -/
namespace OrientLock

/-- A pid: `int pid` of `struct lock_entry`, `current->pid`. -/
abbrev Pid := Nat

/-- The address of a `kmalloc`'d object. -/
abbrev Ptr := Nat

/-! ### Task state bits (`include/linux/sched.h`) -/

def taskRunning : Nat := 0
def taskInterruptible : Nat := 1
def taskUninterruptible : Nat := 2
/-- `__TASK_STOPPED`. -/
def taskStoppedBit : Nat := 4
/-- `__TASK_TRACED`. -/
def taskTracedBit : Nat := 8
def exitZombie : Nat := 16
def exitDead : Nat := 32
def taskDead : Nat := 64
def taskWakekill : Nat := 128
def taskKillable : Nat := taskWakekill ||| taskUninterruptible
def taskStopped : Nat := taskWakekill ||| taskStoppedBit
def taskTraced : Nat := taskWakekill ||| taskTracedBit
def taskNormal : Nat := taskInterruptible ||| taskUninterruptible

/-- `EFAULT` and `ENOMEM` of `include/asm-generic/errno-base.h`. -/
def efault : Int := 14
def enomem : Int := 12

/-- `READER_ENTRY` (0) and `WRITER_ENTRY` (1). -/
inductive EntryType where
  | reader
  | writer
  deriving DecidableEq, Repr, Inhabited

/-- `struct lock_entry`. Its `list` and `granted_list` heads are its membership in
`waiters_list` and `granted_list`. -/
structure LockEntry where
  range : Ptr
  granted : Bool
  type : EntryType
  pid : Pid
  deriving DecidableEq, Repr, Inhabited

/-- A user-space pointer to one object: mapped with its contents, or not. -/
inductive UserPtr (α : Type) where
  | mapped (value : α)
  | unmapped
  deriving DecidableEq, Repr

/-- `copy_from_user` of one object (`arch/arm/include/asm/uaccess.h`): the destination's new
contents, zero-filled when the pointer is bad, and whether bytes were left uncopied. -/
def copyFromUser {α : Type} [Inhabited α] : UserPtr α → α × Bool
  | .mapped value => (value, false)
  | .unmapped => (default, true)

/-- What a task does outside the orientation syscalls, as its `state` bits show it. -/
inductive UserState where
  | running
  | interruptible
  | uninterruptible
  | killable
  | stopped
  | traced
  deriving DecidableEq, Repr

def UserState.bits : UserState → Nat
  | .running => taskRunning
  | .interruptible => taskInterruptible
  | .uninterruptible => taskUninterruptible
  | .killable => taskKillable
  | .stopped => taskStopped
  | .traced => taskTraced

/-- Where a task is in the orientation syscalls, with the local variables it has set. Each
constructor names the statement the task executes next. -/
inductive Pc where
  | idle
  /-- `set_orientation`: `spin_lock(&SET_LOCK)`. -/
  | setLockSet (orient : UserPtr DevOrientation)
  /-- `copy_from_user(&current_orient, orient, ...)`. -/
  | setCopy (orient : UserPtr DevOrientation)
  /-- `spin_lock(&WAITERS_LOCK)`. -/
  | setLockWaiters
  /-- `release_dead_tasks_locks()`. -/
  | setRelease
  /-- `list_for_each_safe` over `rest`; at its head `process_waiter` calls `in_range`. -/
  | setLoop (rest : List Ptr)
  /-- `process_waiter`: `no_writer_grabbed(target)`. -/
  | setNoWriter (current : Ptr) (rest : List Ptr)
  /-- `process_waiter` for a writer: `no_reader_grabbed(target)`. -/
  | setNoReader (current : Ptr) (rest : List Ptr)
  /-- `grant_lock`: `atomic_set(&entry->granted, 1)`. -/
  | setGranted (current : Ptr) (rest : List Ptr)
  /-- `grant_lock`: `list_add_tail(&entry->granted_list, &granted_list)`. -/
  | setAddGranted (current : Ptr) (rest : List Ptr)
  /-- `grant_lock`: `list_del(&entry->list)`. -/
  | setDelWaiter (current : Ptr) (rest : List Ptr)
  /-- `grant_lock`: `wake_up(&sleepers)`. -/
  | setWakeUp (rest : List Ptr)
  /-- `orientlock_*`: `korient = kmalloc(...)` and `copy_from_user(korient, orient, ...)`. -/
  | lockRange (type : EntryType) (orient : UserPtr OrientationRange)
  /-- `entry = kmalloc(...)` and the initialisation of its fields. -/
  | lockEntry (type : EntryType) (korient : Ptr)
  /-- `list_add_tail(&entry->list, &waiters_list)` under `WAITERS_LOCK`. -/
  | lockEnqueue (entry : Ptr)
  /-- `add_wait_queue(&sleepers, &wait)`. -/
  | lockAddWait (entry : Ptr)
  /-- `while (!atomic_read(&entry->granted))`, and `finish_wait` once it is set. -/
  | lockTest (entry : Ptr)
  /-- `prepare_to_wait(&sleepers, &wait, TASK_INTERRUPTIBLE)`. -/
  | lockPrepare (entry : Ptr)
  /-- `schedule()`. -/
  | lockSchedule (entry : Ptr)
  /-- `orientunlock_read` or `orientunlock_write`. -/
  | unlock (type : EntryType) (orient : UserPtr OrientationRange)
  deriving DecidableEq, Repr

/-- An acquisition: a lock a task obtained from `orientlock_*` and has not released. -/
structure Acquisition where
  type : EntryType
  range : OrientationRange
  deriving DecidableEq, Repr

/-- A task. `held` is bookkeeping of the model: the acquisitions the task holds. -/
structure Task where
  pc : Pc
  state : Nat
  exitState : Nat
  /-- `p->on_rq`: the scheduler may run the task. -/
  onRq : Bool
  /-- The task's `wait` entry is linked in `sleepers`. -/
  queued : Bool
  held : List Acquisition
  deriving DecidableEq, Repr

/-- A task just created: in user space, running, holding nothing. -/
def Task.new : Task :=
  { pc := .idle, state := taskRunning, exitState := 0, onRq := true, queued := false, held := [] }

/-- `try_to_wake_up(p, TASK_NORMAL, 0)` through `autoremove_wake_function`: a queued task is
woken and dequeued only if its state has a `TASK_NORMAL` bit. -/
def Task.wake (task : Task) : Task :=
  if task.queued && task.state &&& taskNormal != 0 then
    { task with state := taskRunning, onRq := true, queued := false }
  else task

/-- What `kmalloc` does in a step: return `NULL`, an object never handed out, or the freed
object `object` again. -/
inductive Alloc where
  | null
  | fresh
  | reuse (object : Ptr)
  deriving DecidableEq, Repr

/-- A `kmalloc` that fails when `nomem` and otherwise takes a new object. -/
def Alloc.ofNomem (nomem : Bool) : Alloc := if nomem then .null else .fresh

/-- The orientation globals, the heap, and the tasks by pid. -/
structure Kernel where
  currentOrient : DevOrientation
  waitersList : List Ptr
  grantedList : List Ptr
  /-- Contents of the `lock_entry` objects. -/
  entries : Ptr → LockEntry
  /-- Contents of the `orientation_range` objects. -/
  ranges : Ptr → OrientationRange
  /-- `kmalloc`'d and not yet `kfree`'d. -/
  live : Ptr → Bool
  /-- The next object that `kmalloc` has never handed out. -/
  brk : Ptr
  setLock : Option Pid
  waitersLock : Option Pid
  tasks : Pid → Option Task

namespace Kernel

/-- Boot: `current_orient` and both lists empty, no object and no task. -/
def init : Kernel where
  currentOrient := default
  waitersList := []
  grantedList := []
  entries := fun _ => default
  ranges := fun _ => default
  live := fun _ => false
  brk := 1
  setLock := none
  waitersLock := none
  tasks := fun _ => none

variable (s : Kernel)

/-- `entry->range` dereferenced. -/
def rangeOf (entry : Ptr) : OrientationRange := s.ranges (s.entries entry).range

def updateTask (pid : Pid) (f : Task → Task) : Kernel :=
  { s with tasks := Function.update s.tasks pid ((s.tasks pid).map f) }

/-- `kmalloc`, `none` for `NULL`. A `reuse` of an object that is not a freed one takes a new
object instead. -/
def kmalloc : Alloc → Option (Ptr × Kernel)
  | .null => none
  | .fresh => some (s.brk, { s with brk := s.brk + 1, live := Function.update s.live s.brk true })
  | .reuse object =>
    if object < s.brk ∧ s.live object = false then
      some (object, { s with live := Function.update s.live object true })
    else some (s.brk, { s with brk := s.brk + 1, live := Function.update s.live s.brk true })

def kfree (object : Ptr) : Kernel := { s with live := Function.update s.live object false }

/-- `object` is what `kmalloc` answered with `alloc` returns: the next new object, or the freed
object that `alloc` names. -/
def Hands (alloc : Alloc) (object : Ptr) : Prop :=
  object = s.brk ∨ alloc = .reuse object ∧ object < s.brk ∧ s.live object = false

/-- `kmalloc` answered with `alloc` does not return `object`. -/
def Keeps (alloc : Alloc) (object : Ptr) : Prop := object < s.brk ∧ alloc ≠ .reuse object

theorem kmalloc_eq_some {alloc : Alloc} {object : Ptr} {t : Kernel}
    (allocated : s.kmalloc alloc = some (object, t)) :
    s.Hands alloc object ∧ ∃ brk, s.brk ≤ brk ∧ object < brk ∧
      t = { s with brk := brk, live := Function.update s.live object true } := by
  cases alloc with
  | null => cases allocated
  | fresh =>
    cases allocated
    exact ⟨.inl rfl, _, Nat.le_succ _, Nat.lt_succ_self _, rfl⟩
  | reuse freed =>
    simp only [kmalloc] at allocated
    split at allocated
    · next free =>
      cases allocated
      exact ⟨.inr ⟨rfl, free⟩, _, Nat.le_refl _, free.1, rfl⟩
    · cases allocated
      exact ⟨.inl rfl, _, Nat.le_succ _, Nat.lt_succ_self _, rfl⟩

variable {s} in
theorem Hands.ne {alloc : Alloc} {object kept : Ptr} (hands : s.Hands alloc object)
    (keeps : s.Keeps alloc kept) : kept ≠ object := by
  rcases hands with rfl | ⟨rfl, -⟩
  · exact Nat.ne_of_lt keeps.1
  · exact fun same => keeps.2 (same ▸ rfl)

section UpdateTask

variable (pid : Pid) (f : Task → Task)

@[simp] theorem updateTask_grantedList : (s.updateTask pid f).grantedList = s.grantedList := rfl
@[simp] theorem updateTask_waitersList : (s.updateTask pid f).waitersList = s.waitersList := rfl
@[simp] theorem updateTask_entries : (s.updateTask pid f).entries = s.entries := rfl
@[simp] theorem updateTask_ranges : (s.updateTask pid f).ranges = s.ranges := rfl
@[simp] theorem updateTask_live : (s.updateTask pid f).live = s.live := rfl
@[simp] theorem updateTask_brk : (s.updateTask pid f).brk = s.brk := rfl
@[simp] theorem updateTask_setLock : (s.updateTask pid f).setLock = s.setLock := rfl
@[simp] theorem updateTask_waitersLock : (s.updateTask pid f).waitersLock = s.waitersLock := rfl
@[simp] theorem updateTask_currentOrient : (s.updateTask pid f).currentOrient = s.currentOrient :=
  rfl
@[simp] theorem updateTask_rangeOf (entry : Ptr) : (s.updateTask pid f).rangeOf entry = s.rangeOf entry :=
  rfl

theorem updateTask_tasks (other : Pid) :
    (s.updateTask pid f).tasks other = if other = pid then (s.tasks pid).map f else s.tasks other := by
  simp only [updateTask, Function.update_apply]

end UpdateTask

end Kernel

/-- `is_running`: the task with this pid exists, and none of `TASK_DEAD`, `TASK_WAKEKILL`,
`EXIT_ZOMBIE` and `EXIT_DEAD` is set. -/
def isRunning (tasks : Pid → Option Task) (pid : Pid) : Bool :=
  match tasks pid with
  | none => false
  | some task =>
    let isDead := task.state &&& taskDead != 0
    let isWakekill := task.state &&& taskWakekill != 0
    let isZombie := task.exitState &&& exitZombie != 0
    let isExitDead := task.exitState &&& exitDead != 0
    !(isDead || isWakekill || isZombie || isExitDead)

/-- `generic_search_list`: `true` (1) when no entry of `list` has type `type` and a range
equal to `target`. -/
def genericSearchList (s : Kernel) (target : OrientationRange) (list : List Ptr)
    (type : EntryType) : Bool :=
  !list.any fun entry => (s.entries entry).type == type && rangeEquals (s.rangeOf entry) target

def noWriterGrabbed (s : Kernel) (target : OrientationRange) : Bool :=
  genericSearchList s target s.grantedList .writer

def noReaderGrabbed (s : Kernel) (target : OrientationRange) : Bool :=
  genericSearchList s target s.grantedList .reader

/-- `atomic_set(&entry->granted, 1)`. -/
def setGranted (s : Kernel) (entry : Ptr) : Kernel :=
  { s with entries := Function.update s.entries entry { s.entries entry with granted := true } }

/-- `list_add_tail(&entry->granted_list, &granted_list)`. -/
def addGranted (s : Kernel) (entry : Ptr) : Kernel :=
  { s with grantedList := s.grantedList ++ [entry] }

/-- `list_del(&entry->list)`. -/
def delWaiter (s : Kernel) (entry : Ptr) : Kernel :=
  { s with waitersList := s.waitersList.erase entry }

/-- `wake_up(&sleepers)`: every queued task goes through `Task.wake`. -/
def wakeUp (s : Kernel) : Kernel :=
  { s with tasks := fun pid => (s.tasks pid).map Task.wake }

def grantLock (s : Kernel) (entry : Ptr) : Kernel :=
  wakeUp (delWaiter (addGranted (setGranted s entry) entry) entry)

section Grant

variable (s : Kernel) (entry : Ptr)

@[simp] theorem setGranted_grantedList : (setGranted s entry).grantedList = s.grantedList := rfl
@[simp] theorem setGranted_waitersList : (setGranted s entry).waitersList = s.waitersList := rfl
@[simp] theorem setGranted_currentOrient : (setGranted s entry).currentOrient = s.currentOrient :=
  rfl
@[simp] theorem setGranted_ranges : (setGranted s entry).ranges = s.ranges := rfl

@[simp] theorem setGranted_type (p : Ptr) : ((setGranted s entry).entries p).type = (s.entries p).type := by
  by_cases same : p = entry
  · subst same
    simp [setGranted]
  · simp [setGranted, Function.update_of_ne same]

@[simp] theorem setGranted_range (p : Ptr) :
    ((setGranted s entry).entries p).range = (s.entries p).range := by
  by_cases same : p = entry
  · subst same
    simp [setGranted]
  · simp [setGranted, Function.update_of_ne same]

@[simp] theorem setGranted_pid (p : Ptr) : ((setGranted s entry).entries p).pid = (s.entries p).pid := by
  by_cases same : p = entry
  · subst same
    simp [setGranted]
  · simp [setGranted, Function.update_of_ne same]

@[simp] theorem setGranted_rangeOf (p : Ptr) : (setGranted s entry).rangeOf p = s.rangeOf p := by
  simp [Kernel.rangeOf]

@[simp] theorem addGranted_grantedList : (addGranted s entry).grantedList = s.grantedList ++ [entry] :=
  rfl
@[simp] theorem addGranted_waitersList : (addGranted s entry).waitersList = s.waitersList := rfl
@[simp] theorem addGranted_entries : (addGranted s entry).entries = s.entries := rfl
@[simp] theorem addGranted_ranges : (addGranted s entry).ranges = s.ranges := rfl
@[simp] theorem addGranted_currentOrient : (addGranted s entry).currentOrient = s.currentOrient :=
  rfl

@[simp] theorem delWaiter_grantedList : (delWaiter s entry).grantedList = s.grantedList := rfl
@[simp] theorem delWaiter_waitersList : (delWaiter s entry).waitersList = s.waitersList.erase entry :=
  rfl
@[simp] theorem delWaiter_entries : (delWaiter s entry).entries = s.entries := rfl
@[simp] theorem delWaiter_ranges : (delWaiter s entry).ranges = s.ranges := rfl
@[simp] theorem delWaiter_currentOrient : (delWaiter s entry).currentOrient = s.currentOrient :=
  rfl

@[simp] theorem wakeUp_grantedList : (wakeUp s).grantedList = s.grantedList := rfl
@[simp] theorem wakeUp_waitersList : (wakeUp s).waitersList = s.waitersList := rfl
@[simp] theorem wakeUp_entries : (wakeUp s).entries = s.entries := rfl
@[simp] theorem wakeUp_ranges : (wakeUp s).ranges = s.ranges := rfl
@[simp] theorem wakeUp_currentOrient : (wakeUp s).currentOrient = s.currentOrient := rfl

@[simp] theorem rangeOf_entries_ranges {s t : Kernel} (entries : t.entries = s.entries)
    (ranges : t.ranges = s.ranges) (p : Ptr) : t.rangeOf p = s.rangeOf p := by
  simp [Kernel.rangeOf, entries, ranges]

@[simp] theorem grantLock_grantedList : (grantLock s entry).grantedList = s.grantedList ++ [entry] :=
  rfl
@[simp] theorem grantLock_waitersList : (grantLock s entry).waitersList = s.waitersList.erase entry :=
  rfl
@[simp] theorem grantLock_currentOrient : (grantLock s entry).currentOrient = s.currentOrient :=
  rfl
@[simp] theorem grantLock_type (p : Ptr) :
    ((grantLock s entry).entries p).type = (s.entries p).type := by
  simp [grantLock]
@[simp] theorem grantLock_rangeOf (p : Ptr) : (grantLock s entry).rangeOf p = s.rangeOf p := by
  simp [grantLock, Kernel.rangeOf]

@[simp] theorem setGranted_brk : (setGranted s entry).brk = s.brk := rfl
@[simp] theorem setGranted_tasks : (setGranted s entry).tasks = s.tasks := rfl
@[simp] theorem setGranted_setLock : (setGranted s entry).setLock = s.setLock := rfl
@[simp] theorem setGranted_waitersLock : (setGranted s entry).waitersLock = s.waitersLock := rfl
@[simp] theorem addGranted_brk : (addGranted s entry).brk = s.brk := rfl
@[simp] theorem addGranted_tasks : (addGranted s entry).tasks = s.tasks := rfl
@[simp] theorem addGranted_setLock : (addGranted s entry).setLock = s.setLock := rfl
@[simp] theorem addGranted_waitersLock : (addGranted s entry).waitersLock = s.waitersLock := rfl
@[simp] theorem delWaiter_brk : (delWaiter s entry).brk = s.brk := rfl
@[simp] theorem delWaiter_tasks : (delWaiter s entry).tasks = s.tasks := rfl
@[simp] theorem delWaiter_setLock : (delWaiter s entry).setLock = s.setLock := rfl
@[simp] theorem delWaiter_waitersLock : (delWaiter s entry).waitersLock = s.waitersLock := rfl
@[simp] theorem setGranted_live : (setGranted s entry).live = s.live := rfl
@[simp] theorem addGranted_live : (addGranted s entry).live = s.live := rfl
@[simp] theorem delWaiter_live : (delWaiter s entry).live = s.live := rfl
@[simp] theorem wakeUp_live : (wakeUp s).live = s.live := rfl

end Grant

/-- `release_dead_tasks_locks`: unlinks, and does not free, the entries whose pid is not
`is_running`. -/
def releaseDeadTasksLocks (s : Kernel) : Kernel :=
  { s with grantedList := s.grantedList.filter fun entry => isRunning s.tasks (s.entries entry).pid }

section Release

variable (s : Kernel)

@[simp] theorem releaseDeadTasksLocks_grantedList :
    (releaseDeadTasksLocks s).grantedList =
      s.grantedList.filter fun entry => isRunning s.tasks (s.entries entry).pid := rfl
@[simp] theorem releaseDeadTasksLocks_waitersList :
    (releaseDeadTasksLocks s).waitersList = s.waitersList := rfl
@[simp] theorem releaseDeadTasksLocks_entries : (releaseDeadTasksLocks s).entries = s.entries := rfl
@[simp] theorem releaseDeadTasksLocks_ranges : (releaseDeadTasksLocks s).ranges = s.ranges := rfl
@[simp] theorem releaseDeadTasksLocks_live : (releaseDeadTasksLocks s).live = s.live := rfl
@[simp] theorem releaseDeadTasksLocks_currentOrient :
    (releaseDeadTasksLocks s).currentOrient = s.currentOrient := rfl

@[simp] theorem releaseDeadTasksLocks_brk : (releaseDeadTasksLocks s).brk = s.brk := rfl
@[simp] theorem releaseDeadTasksLocks_tasks : (releaseDeadTasksLocks s).tasks = s.tasks := rfl
@[simp] theorem releaseDeadTasksLocks_setLock : (releaseDeadTasksLocks s).setLock = s.setLock := rfl
@[simp] theorem releaseDeadTasksLocks_waitersLock :
    (releaseDeadTasksLocks s).waitersLock = s.waitersLock := rfl

end Release

def processWaiter (s : Kernel) (current : Ptr) : Kernel :=
  let entry := s.entries current
  let target := s.rangeOf current
  if inRange target s.currentOrient then
    match entry.type with
    | .reader => if noWriterGrabbed s target then grantLock s current else s
    | .writer =>
      if noWriterGrabbed s target && noReaderGrabbed s target then grantLock s current else s
  else s

/-- What `set_orientation` does between `spin_lock(&WAITERS_LOCK)` and its unlocks:
`release_dead_tasks_locks` and the waiter loop. `list_for_each_safe` visits the list as it was
when the loop began, since `process_waiter` unlinks only the node it visits. -/
def passUnderLocks (s : Kernel) : Kernel :=
  let s := releaseDeadTasksLocks s
  s.waitersList.foldl processWaiter s

/-- `sys_set_orientation` run by `caller` with no other step in between; `none` when it spins
forever on a held lock. On `-EFAULT` it returns with `SET_LOCK` held. -/
def setOrientation (s : Kernel) (caller : Pid) (orient : UserPtr DevOrientation) :
    Option (Int × Kernel) :=
  if s.setLock.isSome then none
  else
    let copied := copyFromUser orient
    let s := { s with setLock := some caller, currentOrient := copied.1 }
    if copied.2 then some (-efault, s)
    else if s.waitersLock.isSome then none
    else
      some (0, { passUnderLocks { s with waitersLock := some caller } with
                   waitersLock := none, setLock := none })

/-- `korient = kmalloc(...)` and `copy_from_user(korient, orient, ...)` of `orientlock_*`. A
failed copy returns without freeing `korient`. -/
def allocRange (s : Kernel) (orient : UserPtr OrientationRange) (alloc : Alloc) :
    Except Int Ptr × Kernel :=
  match s.kmalloc alloc with
  | none => (.error (-enomem), s)
  | some (korient, s) =>
    let copied := copyFromUser orient
    let s := { s with ranges := Function.update s.ranges korient copied.1 }
    if copied.2 then (.error (-efault), s) else (.ok korient, s)

@[simp] theorem Alloc.ofNomem_true : Alloc.ofNomem true = .null := rfl
@[simp] theorem Alloc.ofNomem_false : Alloc.ofNomem false = .fresh := rfl

section AllocRange

variable (s : Kernel) (orient : UserPtr OrientationRange) (alloc : Alloc)

@[simp] theorem allocRange_null : allocRange s orient .null = (.error (-enomem), s) := rfl

theorem allocRange_fresh :
    allocRange s orient .fresh =
      ((if (copyFromUser orient).2 then .error (-efault) else .ok s.brk),
        { s with brk := s.brk + 1, live := Function.update s.live s.brk true,
                 ranges := Function.update s.ranges s.brk (copyFromUser orient).1 }) := by
  simp only [allocRange, Kernel.kmalloc]
  split <;> rfl

theorem allocRange_frame :
    (allocRange s orient alloc).2 = s ∨ ∃ korient brk, s.Hands alloc korient ∧
      (allocRange s orient alloc).2 =
        { s with
          brk := brk
          live := Function.update s.live korient true
          ranges := Function.update s.ranges korient (copyFromUser orient).1 } := by
  unfold allocRange
  split
  · exact .inl rfl
  · next korient t allocated =>
    obtain ⟨hands, brk, -, -, rfl⟩ := s.kmalloc_eq_some allocated
    right
    refine ⟨korient, brk, hands, ?_⟩
    dsimp only
    split <;> rfl

@[simp] theorem allocRange_grantedList : (allocRange s orient alloc).2.grantedList = s.grantedList := by
  rcases allocRange_frame s orient alloc with same | ⟨_, _, -, same⟩ <;> rw [same]
@[simp] theorem allocRange_waitersList : (allocRange s orient alloc).2.waitersList = s.waitersList := by
  rcases allocRange_frame s orient alloc with same | ⟨_, _, -, same⟩ <;> rw [same]
@[simp] theorem allocRange_entries : (allocRange s orient alloc).2.entries = s.entries := by
  rcases allocRange_frame s orient alloc with same | ⟨_, _, -, same⟩ <;> rw [same]
@[simp] theorem allocRange_tasks : (allocRange s orient alloc).2.tasks = s.tasks := by
  rcases allocRange_frame s orient alloc with same | ⟨_, _, -, same⟩ <;> rw [same]
@[simp] theorem allocRange_setLock : (allocRange s orient alloc).2.setLock = s.setLock := by
  rcases allocRange_frame s orient alloc with same | ⟨_, _, -, same⟩ <;> rw [same]
@[simp] theorem allocRange_waitersLock : (allocRange s orient alloc).2.waitersLock = s.waitersLock := by
  rcases allocRange_frame s orient alloc with same | ⟨_, _, -, same⟩ <;> rw [same]
@[simp] theorem allocRange_currentOrient :
    (allocRange s orient alloc).2.currentOrient = s.currentOrient := by
  rcases allocRange_frame s orient alloc with same | ⟨_, _, -, same⟩ <;> rw [same]

theorem allocRange_ranges_of_keeps {object : Ptr} (keeps : s.Keeps alloc object) :
    (allocRange s orient alloc).2.ranges object = s.ranges object := by
  rcases allocRange_frame s orient alloc with same | ⟨korient, _, hands, after⟩
  · rw [same]
  · rw [after]
    exact Function.update_of_ne (hands.ne keeps) _ _

theorem allocRange_live_of_live {object : Ptr} (alive : s.live object = true) :
    (allocRange s orient alloc).2.live object = true := by
  rcases allocRange_frame s orient alloc with same | ⟨korient, _, -, after⟩
  · rwa [same]
  · rw [after]
    by_cases fresh : object = korient
    · simp [fresh]
    · simp [Function.update_of_ne fresh, alive]

theorem allocRange_brk_ge : s.brk ≤ (allocRange s orient alloc).2.brk := by
  unfold allocRange
  split
  · exact Nat.le_refl _
  · next korient t allocated =>
    obtain ⟨-, _, grows, -, rfl⟩ := s.kmalloc_eq_some allocated
    dsimp only
    split <;> exact grows

theorem allocRange_of_ok {korient : Ptr} (ok : (allocRange s orient alloc).1 = .ok korient) :
    s.Hands alloc korient ∧ korient < (allocRange s orient alloc).2.brk ∧
      (allocRange s orient alloc).2.live korient = true := by
  unfold allocRange at ok ⊢
  split at ok
  · cases ok
  · next object t allocated =>
    obtain ⟨hands, _, -, below, rfl⟩ := s.kmalloc_eq_some allocated
    dsimp only at ok ⊢
    split at ok
    · cases ok
    · cases ok
      split
      · next faulted => contradiction
      · exact ⟨hands, below, by simp⟩

end AllocRange

/-- `entry = kmalloc(...)` and its initialisation; a failure returns without freeing
`korient`. -/
def allocEntry (s : Kernel) (type : EntryType) (caller : Pid) (korient : Ptr) (alloc : Alloc) :
    Except Int Ptr × Kernel :=
  match s.kmalloc alloc with
  | none => (.error (-enomem), s)
  | some (entry, s) =>
    (.ok entry, { s with entries := Function.update s.entries entry ⟨korient, false, type, caller⟩ })

section AllocEntry

variable (s : Kernel) (type : EntryType) (caller : Pid) (korient : Ptr) (alloc : Alloc)

@[simp] theorem allocEntry_null : allocEntry s type caller korient .null = (.error (-enomem), s) :=
  rfl

theorem allocEntry_fresh :
    allocEntry s type caller korient .fresh =
      (.ok s.brk,
        { s with brk := s.brk + 1, live := Function.update s.live s.brk true,
                 entries := Function.update s.entries s.brk ⟨korient, false, type, caller⟩ }) := rfl

theorem allocEntry_frame :
    (allocEntry s type caller korient alloc).2 = s ∨ ∃ entry brk, s.Hands alloc entry ∧
      (allocEntry s type caller korient alloc).1 = .ok entry ∧
      (allocEntry s type caller korient alloc).2 =
        { s with
          brk := brk
          live := Function.update s.live entry true
          entries := Function.update s.entries entry ⟨korient, false, type, caller⟩ } := by
  unfold allocEntry
  split
  · exact .inl rfl
  · next entry t allocated =>
    obtain ⟨hands, brk, -, -, rfl⟩ := s.kmalloc_eq_some allocated
    exact .inr ⟨entry, brk, hands, rfl, rfl⟩

@[simp] theorem allocEntry_grantedList :
    (allocEntry s type caller korient alloc).2.grantedList = s.grantedList := by
  rcases allocEntry_frame s type caller korient alloc with same | ⟨_, _, -, -, same⟩ <;> rw [same]
@[simp] theorem allocEntry_waitersList :
    (allocEntry s type caller korient alloc).2.waitersList = s.waitersList := by
  rcases allocEntry_frame s type caller korient alloc with same | ⟨_, _, -, -, same⟩ <;> rw [same]
@[simp] theorem allocEntry_ranges : (allocEntry s type caller korient alloc).2.ranges = s.ranges := by
  rcases allocEntry_frame s type caller korient alloc with same | ⟨_, _, -, -, same⟩ <;> rw [same]
@[simp] theorem allocEntry_tasks : (allocEntry s type caller korient alloc).2.tasks = s.tasks := by
  rcases allocEntry_frame s type caller korient alloc with same | ⟨_, _, -, -, same⟩ <;> rw [same]
@[simp] theorem allocEntry_setLock :
    (allocEntry s type caller korient alloc).2.setLock = s.setLock := by
  rcases allocEntry_frame s type caller korient alloc with same | ⟨_, _, -, -, same⟩ <;> rw [same]
@[simp] theorem allocEntry_waitersLock :
    (allocEntry s type caller korient alloc).2.waitersLock = s.waitersLock := by
  rcases allocEntry_frame s type caller korient alloc with same | ⟨_, _, -, -, same⟩ <;> rw [same]
@[simp] theorem allocEntry_currentOrient :
    (allocEntry s type caller korient alloc).2.currentOrient = s.currentOrient := by
  rcases allocEntry_frame s type caller korient alloc with same | ⟨_, _, -, -, same⟩ <;> rw [same]

theorem allocEntry_entries_of_keeps {entry : Ptr} (keeps : s.Keeps alloc entry) :
    (allocEntry s type caller korient alloc).2.entries entry = s.entries entry := by
  rcases allocEntry_frame s type caller korient alloc with same | ⟨object, _, hands, -, after⟩
  · rw [same]
  · rw [after]
    exact Function.update_of_ne (hands.ne keeps) _ _

theorem allocEntry_live_of_live {object : Ptr} (alive : s.live object = true) :
    (allocEntry s type caller korient alloc).2.live object = true := by
  rcases allocEntry_frame s type caller korient alloc with same | ⟨entry, _, -, -, after⟩
  · rwa [same]
  · rw [after]
    by_cases fresh : object = entry
    · simp [fresh]
    · simp [Function.update_of_ne fresh, alive]

theorem allocEntry_brk_ge : s.brk ≤ (allocEntry s type caller korient alloc).2.brk := by
  unfold allocEntry
  split
  · exact Nat.le_refl _
  · next entry t allocated =>
    obtain ⟨-, _, grows, -, rfl⟩ := s.kmalloc_eq_some allocated
    exact grows

theorem allocEntry_of_ok {entry : Ptr} (ok : (allocEntry s type caller korient alloc).1 = .ok entry) :
    s.Hands alloc entry ∧ entry < (allocEntry s type caller korient alloc).2.brk ∧
      (allocEntry s type caller korient alloc).2.entries entry = ⟨korient, false, type, caller⟩ ∧
      (allocEntry s type caller korient alloc).2.live entry = true := by
  unfold allocEntry at ok ⊢
  split at ok
  · cases ok
  · next object t allocated =>
    obtain ⟨hands, _, -, below, rfl⟩ := s.kmalloc_eq_some allocated
    cases ok
    exact ⟨hands, below, by simp, by simp⟩

end AllocEntry

/-- `list_add_tail(&entry->list, &waiters_list)`. -/
def enqueue (s : Kernel) (entry : Ptr) : Kernel :=
  { s with waitersList := s.waitersList ++ [entry] }

section Enqueue

variable (s : Kernel) (entry : Ptr)

@[simp] theorem enqueue_waitersList : (enqueue s entry).waitersList = s.waitersList ++ [entry] := rfl
@[simp] theorem enqueue_grantedList : (enqueue s entry).grantedList = s.grantedList := rfl
@[simp] theorem enqueue_entries : (enqueue s entry).entries = s.entries := rfl
@[simp] theorem enqueue_ranges : (enqueue s entry).ranges = s.ranges := rfl
@[simp] theorem enqueue_brk : (enqueue s entry).brk = s.brk := rfl
@[simp] theorem enqueue_tasks : (enqueue s entry).tasks = s.tasks := rfl
@[simp] theorem enqueue_setLock : (enqueue s entry).setLock = s.setLock := rfl
@[simp] theorem enqueue_waitersLock : (enqueue s entry).waitersLock = s.waitersLock := rfl
@[simp] theorem enqueue_currentOrient : (enqueue s entry).currentOrient = s.currentOrient := rfl
@[simp] theorem enqueue_live : (enqueue s entry).live = s.live := rfl

end Enqueue

/-- `sys_orientlock_read` and `sys_orientlock_write` up to their wait loop, run alone:
an early return with its error, or the entry now queued. `none` when it spins on
`WAITERS_LOCK`. -/
def orientlock (type : EntryType) (s : Kernel) (caller : Pid) (orient : UserPtr OrientationRange)
    (rangeNomem entryNomem : Bool) : Option (Except Int Ptr × Kernel) :=
  match allocRange s orient (.ofNomem rangeNomem) with
  | (.error rc, s) => some (.error rc, s)
  | (.ok korient, s) =>
    match allocEntry s type caller korient (.ofNomem entryNomem) with
    | (.error rc, s) => some (.error rc, s)
    | (.ok entry, s) => if s.waitersLock.isSome then none else some (.ok entry, enqueue s entry)

def orientlockRead : Kernel → Pid → UserPtr OrientationRange → Bool → Bool →
    Option (Except Int Ptr × Kernel) :=
  orientlock .reader

def orientlockWrite : Kernel → Pid → UserPtr OrientationRange → Bool → Bool →
    Option (Except Int Ptr × Kernel) :=
  orientlock .writer

/-- `list_del(current_item); kfree(entry->range); kfree(entry);` in the unlocks. -/
def unlinkGranted (s : Kernel) (entry : Ptr) : Kernel :=
  let s' := { s with grantedList := s.grantedList.erase entry }
  (s'.kfree (s.entries entry).range).kfree entry

/-- The test both unlock loops make: `range_equals(&korient, entry->range) &&
entry->type == type`. -/
def unlockMatches (s : Kernel) (korient : OrientationRange) (type : EntryType) (entry : Ptr) :
    Bool :=
  rangeEquals korient (s.rangeOf entry) && (s.entries entry).type == type

/-- `sys_orientunlock_read` by `caller`: the loop skips entries of other pids and unlinks the
first reader entry of `caller` with an equal range; `-1` when there is none. -/
def orientunlockRead (s : Kernel) (caller : Pid) (orient : UserPtr OrientationRange) :
    Int × Kernel :=
  let copied := copyFromUser orient
  if copied.2 then (-efault, s)
  else
    match s.grantedList.find? fun entry =>
        unlockMatches s copied.1 .reader entry && caller == (s.entries entry).pid with
    | some entry => (0, unlinkGranted s entry)
    | none => (-1, s)

/-- `sys_orientunlock_write`: it reads no pid, and returns 0 also when nothing matched
(after `printk("Undefined error")`). -/
def orientunlockWrite (s : Kernel) (orient : UserPtr OrientationRange) : Int × Kernel :=
  let copied := copyFromUser orient
  if copied.2 then (-efault, s)
  else
    match s.grantedList.find? (unlockMatches s copied.1 .writer) with
    | some entry => (0, unlinkGranted s entry)
    | none => (0, s)

section Unlink

variable (s : Kernel) (entry : Ptr)

@[simp] theorem unlinkGranted_grantedList :
    (unlinkGranted s entry).grantedList = s.grantedList.erase entry := rfl
@[simp] theorem unlinkGranted_waitersList : (unlinkGranted s entry).waitersList = s.waitersList := rfl
@[simp] theorem unlinkGranted_entries : (unlinkGranted s entry).entries = s.entries := rfl
@[simp] theorem unlinkGranted_ranges : (unlinkGranted s entry).ranges = s.ranges := rfl
@[simp] theorem unlinkGranted_brk : (unlinkGranted s entry).brk = s.brk := rfl
@[simp] theorem unlinkGranted_tasks : (unlinkGranted s entry).tasks = s.tasks := rfl
@[simp] theorem unlinkGranted_setLock : (unlinkGranted s entry).setLock = s.setLock := rfl
@[simp] theorem unlinkGranted_waitersLock : (unlinkGranted s entry).waitersLock = s.waitersLock := rfl
@[simp] theorem unlinkGranted_currentOrient :
    (unlinkGranted s entry).currentOrient = s.currentOrient := rfl

end Unlink

theorem orientunlockRead_cases (s : Kernel) (caller : Pid) (orient : UserPtr OrientationRange) :
    (orientunlockRead s caller orient).2 = s ∨
      ∃ entry, (orientunlockRead s caller orient).2 = unlinkGranted s entry := by
  unfold orientunlockRead
  dsimp only
  split
  · exact .inl rfl
  · split
    · next entry _ => exact .inr ⟨entry, rfl⟩
    · exact .inl rfl

theorem orientunlockWrite_cases (s : Kernel) (orient : UserPtr OrientationRange) :
    (orientunlockWrite s orient).2 = s ∨ ∃ entry, (orientunlockWrite s orient).2 = unlinkGranted s entry := by
  unfold orientunlockWrite
  dsimp only
  split
  · exact .inl rfl
  · split
    · next entry _ => exact .inr ⟨entry, rfl⟩
    · exact .inl rfl

end OrientLock
