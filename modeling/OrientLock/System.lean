import OrientLock.Lib.Machine
import OrientLock.Kernel

set_option autoImplicit false

/- The orientation subsystem on several CPUs. A step is one atomic piece of a syscall:
a `GRANTED_LOCK` critical section, a `WAITERS_LOCK` critical section of `orientlock_*`, one
statement of `set_orientation` between its `no_*_grabbed` calls, or one statement of the wait
loop. `SET_LOCK` and `WAITERS_LOCK` are held across steps by `set_orientation` and are
explicit; a task spinning on a held lock takes no step. The environment stops, continues
and kills tasks outside the syscalls, reaps them, and reuses their pids. -/
namespace OrientLock

/-- A call of one of the five syscalls, with its user pointer. -/
inductive Syscall where
  | setOrientation (orient : UserPtr DevOrientation)
  | orientlockRead (orient : UserPtr OrientationRange)
  | orientlockWrite (orient : UserPtr OrientationRange)
  | orientunlockRead (orient : UserPtr OrientationRange)
  | orientunlockWrite (orient : UserPtr OrientationRange)
  deriving DecidableEq, Repr

def Syscall.entry : Syscall → Pc
  | .setOrientation orient => .setLockSet orient
  | .orientlockRead orient => .lockRange .reader orient
  | .orientlockWrite orient => .lockRange .writer orient
  | .orientunlockRead orient => .unlock .reader orient
  | .orientunlockWrite orient => .unlock .writer orient

/-- What the scheduler or the environment does next. `run pid nomem` lets the task take its
next step; `nomem` decides a `kmalloc` in that step. `reuse pid object` is the step of a task at
a `kmalloc` that hands back the freed `object`. -/
inductive Action where
  | call (pid : Pid) (syscall : Syscall)
  | run (pid : Pid) (nomem : Bool)
  | reuse (pid : Pid) (object : Ptr)
  | setState (pid : Pid) (state : UserState)
  | exit (pid : Pid)
  | reap (pid : Pid)
  | spawn (pid : Pid)
  deriving DecidableEq, Repr

/-- The task drops one acquisition of this type and range, if it has one. -/
def Task.release (task : Task) (type : EntryType) (range : OrientationRange) : Task :=
  { task with held := task.held.erase ⟨type, range⟩ }

namespace Kernel

def goto (s : Kernel) (pid : Pid) (pc : Pc) : Kernel :=
  s.updateTask pid fun task => { task with pc := pc }

end Kernel

/-- The unlock syscall of each type, by `caller`. -/
def orientunlock (type : EntryType) (s : Kernel) (caller : Pid)
    (orient : UserPtr OrientationRange) : Int × Kernel :=
  match type with
  | .reader => orientunlockRead s caller orient
  | .writer => orientunlockWrite s orient

/-- The next atomic step of task `pid`, which is at `pc`. `set_orientation`'s `-EFAULT` return
leaves `SET_LOCK` held. `lockTest` with the flag set is `finish_wait` and the return of `0`,
from which the task holds the lock. No signal is ever pending, so `schedule()` dequeues a
task that no wake-up has set back to `TASK_RUNNING`. -/
def taskStep (s : Kernel) (pid : Pid) (pc : Pc) (alloc : Alloc) : Option Kernel :=
  match pc with
  | .idle => none
  | .setLockSet orient =>
    if s.setLock.isSome then none else some ({ s with setLock := some pid }.goto pid (.setCopy orient))
  | .setCopy orient =>
    let copied := copyFromUser orient
    some ({ s with currentOrient := copied.1 }.goto pid (if copied.2 then .idle else .setLockWaiters))
  | .setLockWaiters =>
    if s.waitersLock.isSome then none else some ({ s with waitersLock := some pid }.goto pid .setRelease)
  | .setRelease =>
    some ((releaseDeadTasksLocks s).goto pid (.setLoop s.waitersList))
  | .setLoop [] => some ({ s with waitersLock := none, setLock := none }.goto pid .idle)
  | .setLoop (current :: rest) =>
    some (s.goto pid
      (if inRange (s.rangeOf current) s.currentOrient then .setNoWriter current rest else .setLoop rest))
  | .setNoWriter current rest =>
    some (s.goto pid
      (if noWriterGrabbed s (s.rangeOf current) then
        match (s.entries current).type with
        | .reader => .setGranted current rest
        | .writer => .setNoReader current rest
      else .setLoop rest))
  | .setNoReader current rest =>
    some (s.goto pid
      (if noReaderGrabbed s (s.rangeOf current) then .setGranted current rest else .setLoop rest))
  | .setGranted current rest => some ((setGranted s current).goto pid (.setAddGranted current rest))
  | .setAddGranted current rest =>
    some ((addGranted s current).goto pid (.setDelWaiter current rest))
  | .setDelWaiter current rest => some ((delWaiter s current).goto pid (.setWakeUp rest))
  | .setWakeUp rest => some ((wakeUp s).goto pid (.setLoop rest))
  | .lockRange type orient =>
    let allocated := allocRange s orient alloc
    some (allocated.2.goto pid
      (match allocated.1 with
       | .error _ => .idle
       | .ok korient => .lockEntry type korient))
  | .lockEntry type korient =>
    let allocated := allocEntry s type pid korient alloc
    some (allocated.2.goto pid
      (match allocated.1 with
       | .error _ => .idle
       | .ok entry => .lockEnqueue entry))
  | .lockEnqueue entry =>
    if s.waitersLock.isSome then none else some ((enqueue s entry).goto pid (.lockAddWait entry))
  | .lockAddWait entry =>
    some (s.updateTask pid fun task => { task with queued := true, pc := .lockTest entry })
  | .lockTest entry =>
    if (s.entries entry).granted then
      some (s.updateTask pid fun task =>
        { task with state := taskRunning, queued := false, pc := .idle,
                    held := task.held ++ [⟨(s.entries entry).type, s.rangeOf entry⟩] })
    else some (s.goto pid (.lockPrepare entry))
  | .lockPrepare entry =>
    some (s.updateTask pid fun task =>
      { task with queued := true, state := taskInterruptible, pc := .lockSchedule entry })
  | .lockSchedule entry =>
    some (s.updateTask pid fun task =>
      { task with onRq := task.state == taskRunning, pc := .lockTest entry })
  | .unlock type orient =>
    let result := orientunlock type s pid orient
    some (result.2.updateTask pid fun task =>
      { (if result.1 == 0 then task.release type (copyFromUser orient).1 else task) with
          pc := .idle })

/-- The statements that call `kmalloc`. -/
def Pc.allocates : Pc → Bool
  | .lockRange _ _ | .lockEntry _ _ => true
  | _ => false

/-- The entry a task waits on in `orientlock_*`, from its `list_add_tail` to the test of
`entry->granted` that ends the loop. -/
def Pc.waitEntry : Pc → Option Ptr
  | .lockEnqueue entry | .lockAddWait entry | .lockTest entry | .lockPrepare entry
  | .lockSchedule entry => some entry
  | _ => none

/-- The task whose pid `object` carries, as an entry, is waiting on it. -/
def Kernel.WaitedOn (s : Kernel) (object : Ptr) : Prop :=
  ∃ task ∈ s.tasks (s.entries object).pid, task.pc.waitEntry = some object

instance (s : Kernel) (object : Ptr) : Decidable (s.WaitedOn object) :=
  decidable_of_iff ((s.tasks (s.entries object).pid).any fun task => task.pc.waitEntry == some object)
    ((Option.any_eq_true _ _).trans (exists_congr fun _ => and_congr Iff.rfl beq_iff_eq))

/-- A freed object that `kmalloc` can hand back without a use after free: neither list links
it, no listed entry has it as its range, and the task it was an entry of no longer waits on it.
A freed entry still in `waiters_list`, which `grant_lock` leaves there until its `list_del`, is
not one; `OrientLock.Memory` follows what handing it out does. -/
def Kernel.Reusable (s : Kernel) (object : Ptr) : Prop :=
  object < s.brk ∧ s.live object = false ∧ object ∉ s.waitersList ∧ object ∉ s.grantedList ∧
    (∀ entry ∈ s.waitersList ++ s.grantedList, (s.entries entry).range ≠ object) ∧ ¬ s.WaitedOn object

instance (s : Kernel) (object : Ptr) : Decidable (s.Reusable object) :=
  inferInstanceAs (Decidable (_ ∧ _ ∧ _ ∧ _ ∧ _ ∧ _))

/-- A live task that the scheduler may run. -/
def Task.Runnable (task : Task) : Prop := task.exitState = 0 ∧ task.onRq = true

instance (task : Task) : Decidable task.Runnable := inferInstanceAs (Decidable (_ ∧ _))

/-- A live task in user space, outside the orientation syscalls. -/
def Task.InUser (task : Task) : Prop := task.pc = .idle ∧ task.exitState = 0

instance (task : Task) : Decidable task.InUser := inferInstanceAs (Decidable (_ ∧ _))

def step (s : Kernel) : Action → Option Kernel
  | .call pid syscall =>
    match s.tasks pid with
    | some task => if task.InUser ∧ task.onRq = true then some (s.goto pid syscall.entry) else none
    | none => none
  | .run pid nomem =>
    match s.tasks pid with
    | some task => if task.Runnable then taskStep s pid task.pc (.ofNomem nomem) else none
    | none => none
  | .reuse pid object =>
    match s.tasks pid with
    | some task =>
      if task.Runnable ∧ task.pc.allocates = true ∧ s.Reusable object then
        taskStep s pid task.pc (.reuse object)
      else none
    | none => none
  | .setState pid state =>
    match s.tasks pid with
    | some task =>
      if task.InUser then
        some (s.updateTask pid fun task =>
          { task with state := state.bits, onRq := state == .running })
      else none
    | none => none
  | .exit pid =>
    match s.tasks pid with
    | some task =>
      if task.InUser then
        some (s.updateTask pid fun task =>
          { task with exitState := exitZombie, state := taskDead, onRq := false, held := [] })
      else none
    | none => none
  | .reap pid =>
    match s.tasks pid with
    | some task =>
      if task.exitState ≠ 0 then some { s with tasks := Function.update s.tasks pid none } else none
    | none => none
  | .spawn pid =>
    match s.tasks pid with
    | some _ => none
    | none => some { s with tasks := Function.update s.tasks pid (some Task.new) }

def machine : Transition.Machine Kernel Action := ⟨Kernel.init, step⟩

/-- Task `pid` holds the acquisition `acquired`. -/
def Kernel.Holds (s : Kernel) (pid : Pid) (acquired : Acquisition) : Prop :=
  ∃ task ∈ s.tasks pid, acquired ∈ task.held

instance (s : Kernel) (pid : Pid) (acquired : Acquisition) : Decidable (s.Holds pid acquired) :=
  decidable_of_iff ((s.tasks pid).any fun task => decide (acquired ∈ task.held))
    ((Option.any_eq_true _ _).trans (exists_congr fun _ => and_congr Iff.rfl decide_eq_true_iff))

/-- `count` steps of task `pid`. -/
def runs (pid : Pid) (count : Nat) : List Action := List.replicate count (.run pid false)

/-- The range the traces of the later modules lock: widths 0, so `in_range` accepts every
orientation. -/
def wholeRange : OrientationRange := default

/-- A state that some interleaving of syscalls and environment steps reaches from boot. -/
def Reachable (s : Kernel) : Prop := machine.Reachable s

end OrientLock
