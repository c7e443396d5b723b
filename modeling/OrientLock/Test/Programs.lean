import OrientLock.Clients
import OrientLock.Test.Input

set_option autoImplicit false

/- The test programs of `src/test` over the syscalls. `selector` writes its counter to the file
`integer` under the write lock of `faceDown`; `trial` and `pollard` read it back in
`read_integer` under the read lock of the same range. Every lock and unlock goes through a
wrapper of `orient_lock.c`, which calls its syscall until it returns 0, and each call is a
syscall of the kernel machine: any other task may run between two calls, and inside each. A
world is the kernel, the file, and where each task is in its test program; the tasks that run
none are the kernel machine's environment, and call what they like. -/
namespace OrientLock

/-- The four wrappers of `test/orient_lock.c`. -/
inductive Wrapper where
  | readLock
  | readUnlock
  | writeLock
  | writeUnlock
  deriving DecidableEq, Repr

/-- The syscall a wrapper calls on `lock`, again until it returns 0. -/
def Wrapper.syscall (lock : UserPtr OrientationRange) : Wrapper → Syscall
  | .readLock => .orientlockRead lock
  | .readUnlock => .orientunlockRead lock
  | .writeLock => .orientlockWrite lock
  | .writeUnlock => .orientunlockWrite lock

/-- The `orientation_range` both programs lock: the device lying face down, with an
`azimuth_range` of 180 and a `pitch_range` and `roll_range` of 10. -/
def faceDown : OrientationRange :=
  { orient := { azimuth := 180, pitch := 180, roll := 0 }, azimuthRange := 180, pitchRange := 10,
    rollRange := 10 }

/-- Where a task is in the loop of `selector`, or in that of `trial` or `pollard`, which call
`read_integer` alike; `integer` is the value of their `mpz_t`, `none` where GMP leaves it
unspecified. `find_factors` and `factor` touch nothing another task reads. -/
inductive Prog where
  /-- `orient_write_lock(&write_lock)`. -/
  | selectorLock (counter : Nat)
  /-- `fopen(filename, "w")`. -/
  | selectorOpen (counter : Nat)
  /-- `fprintf(integer_file, "%s", buf)` and `fclose`, which writes the buffered digits. -/
  | selectorClose (counter : Nat)
  /-- `orient_write_unlock(&write_lock)`, then `mpz_add`. -/
  | selectorUnlock (counter : Nat)
  /-- `orient_read_lock(&read_lock)`. -/
  | readerLock (integer : Option Nat)
  /-- `fopen(filename, "r")`, `read_line`, `mpz_init_set_str` and `fclose`. -/
  | readerRead (integer : Option Nat)
  /-- `orient_read_unlock(&read_lock)`, and the return of `ret_code`. -/
  | readerUnlock (ret : Int) (integer : Option Nat)
  deriving DecidableEq, Repr

/-- The wrapper a program calls at this point. -/
def Prog.wrapper? : Prog → Option Wrapper
  | .selectorLock _ => some .writeLock
  | .selectorUnlock _ => some .writeUnlock
  | .readerLock _ => some .readLock
  | .readerUnlock _ _ => some .readUnlock
  | _ => none

/-- Where a program goes once its wrapper's syscall has returned 0. -/
def Prog.next : Prog → Prog
  | .selectorLock counter => .selectorOpen counter
  | .selectorUnlock counter => .selectorLock (counter + 1)
  | .readerLock integer => .readerRead integer
  | .readerUnlock _ integer => .readerLock integer
  | prog => prog

/-- A program's step on the file `integer`, `none` while the file does not exist: `fopen` with
`"w"` empties it, `fclose` writes what `fprintf` buffered, and `read_integer` reads it. -/
def Prog.fileStep (file : Option (List Char)) : Prog → Option (Prog × Option (List Char))
  | .selectorOpen counter => some (.selectorClose counter, some [])
  | .selectorClose counter => some (.selectorUnlock counter, some (mpzGetStr counter))
  | .readerRead integer =>
    some (.readerUnlock (readInteger file integer).1 (readInteger file integer).2, file)
  | _ => none

/-- The first point of each loop, where a program starts: `selector` with the counter
`selectorStart` parsed, `trial` with `integer` 2020, `pollard` with it unset. -/
def Prog.starts : Prog → Bool
  | .selectorLock _ | .readerLock _ => true
  | _ => false

/-- The value the step of a task at `pc` returns to user space, for the steps that return:
`set_orientation`'s `-EFAULT` and 0, the errors of `orientlock_*` and the 0 at the end of their
wait loop, and what `orientunlock_*` returns. -/
def syscallReturn (s : Kernel) (pid : Pid) (alloc : Alloc) : Pc → Option Int
  | .setCopy orient => if (copyFromUser orient).2 then some (-efault) else none
  | .setLoop [] => some 0
  | .lockRange _ orient =>
    match (allocRange s orient alloc).1 with
    | .error rc => some rc
    | .ok _ => none
  | .lockEntry type korient =>
    match (allocEntry s type pid korient alloc).1 with
    | .error rc => some rc
    | .ok _ => none
  | .lockTest entry => if (s.entries entry).granted then some 0 else none
  | .unlock type orient => some (orientunlock type s pid orient).1
  | _ => none

section Returns

variable {s t : Kernel} {pid : Pid} {task : Task} {alloc : Alloc}

theorem taskStep_idle_iff (own : s.tasks pid = some task)
    (stepped : taskStep s pid task.pc alloc = some t) {task' : Task} (now : t.tasks pid = some task') :
    task'.pc = .idle ↔ (syscallReturn s pid alloc task.pc).isSome := by
  cases pc : task.pc with
  | setCopy orient =>
    rw [pc] at stepped
    cases stepped
    rw [Kernel.goto_pc now]
    by_cases fault : (copyFromUser orient).2 <;> simp [syscallReturn, fault]
  | setLoop rest =>
    rw [pc] at stepped
    cases rest <;> cases stepped <;> rw [Kernel.goto_pc now]
    · simp [syscallReturn]
    · split <;> simp [syscallReturn]
  | lockRange type orient =>
    rw [pc] at stepped
    cases stepped
    rw [Kernel.goto_pc now]
    rcases allocated : (allocRange s orient alloc).1 with rc | korient <;> simp [syscallReturn, allocated]
  | lockEntry type korient =>
    rw [pc] at stepped
    cases stepped
    rw [Kernel.goto_pc now]
    rcases allocated : (allocEntry s type pid korient alloc).1 with rc | entry <;>
      simp [syscallReturn, allocated]
  | lockTest entry =>
    rw [pc] at stepped
    simp only [taskStep] at stepped
    split at stepped
    · next granted =>
      cases stepped
      simp only [Kernel.updateTask_tasks, ite_true, own, Option.map_some, Option.some.injEq] at now
      subst now
      simp [syscallReturn, granted]
    · next unflagged =>
      cases stepped
      rw [Kernel.goto_pc now]
      simp [syscallReturn, unflagged]
  | unlock type orient =>
    rw [pc] at stepped
    cases stepped
    simp only [Kernel.updateTask_tasks, ite_true, Option.map_eq_some_iff] at now
    obtain ⟨_, _, rfl⟩ := now
    simp [syscallReturn]
  | _ =>
    rw [pc] at stepped
    revert stepped
    simp only [taskStep]
    repeat' split
    all_goals
      intro stepped
      cases stepped <;> simp [Kernel.updateTask_tasks, own, wakeUp] at now <;> subst now <;>
        simp [syscallReturn]

theorem taskStep_actor_exists (own : s.tasks pid = some task)
    (stepped : taskStep s pid task.pc alloc = some t) : ∃ task', t.tasks pid = some task' := by
  cases pc : task.pc with
  | setLoop rest =>
    rw [pc] at stepped
    cases rest <;> cases stepped <;> simp [Kernel.updateTask_tasks, own]
  | unlock type orient =>
    rw [pc] at stepped
    cases stepped
    have sameTasks : (orientunlock type s pid orient).2.tasks = s.tasks := by
      rcases orientunlock_cases type s pid orient with same | ⟨entry, unlinked⟩ <;> simp [*]
    simp [Kernel.updateTask_tasks, own, sameTasks]
  | _ =>
    rw [pc] at stepped
    revert stepped
    simp only [taskStep]
    repeat' split
    all_goals
      intro stepped
      cases stepped <;> simp [Kernel.updateTask_tasks, own, wakeUp]

theorem allocRange_error_ne_zero {orient : UserPtr OrientationRange} {rc : Int}
    (failed : (allocRange s orient alloc).1 = .error rc) : rc ≠ 0 := by
  unfold allocRange at failed
  split at failed
  · cases failed
    decide
  · dsimp only at failed
    split at failed
    · cases failed
      decide
    · cases failed

theorem allocEntry_error_ne_zero {type : EntryType} {korient : Ptr} {rc : Int}
    (failed : (allocEntry s type pid korient alloc).1 = .error rc) : rc ≠ 0 := by
  unfold allocEntry at failed
  split at failed
  · cases failed
    decide
  · cases failed

theorem allocRange_ranges_of_ok {orient : UserPtr OrientationRange} {korient : Ptr}
    (ok : (allocRange s orient alloc).1 = .ok korient) :
    (allocRange s orient alloc).2.ranges korient = (copyFromUser orient).1 := by
  unfold allocRange at ok ⊢
  split at ok
  · cases ok
  · next object t allocated =>
    dsimp only at ok ⊢
    split at ok
    · cases ok
    · cases ok
      split <;> simp

end Returns

/-- The kernel, the file `integer`, and the test program each task runs. -/
structure World where
  kernel : Kernel
  file : Option (List Char)
  progs : Pid → Option Prog

/-- What happens next: a step of the kernel machine, a step of a test program in user space,
or a task that starts one. -/
inductive Event where
  | kernel (a : Action)
  | user (pid : Pid)
  | exec (pid : Pid) (prog : Prog)
  deriving DecidableEq, Repr

namespace World

/-- Boot: no file, no program. -/
def init : World := ⟨Kernel.init, none, fun _ => none⟩

/-- The programs after task `pid` steps with `alloc`: when its syscall returns 0 the wrapper
moves on, and with any other value it is back at its loop test. -/
def returned (w : World) (pid : Pid) (alloc : Alloc) : Pid → Option Prog :=
  match w.kernel.tasks pid with
  | some task =>
    Function.update w.progs pid ((w.progs pid).map fun prog =>
      if syscallReturn w.kernel pid alloc task.pc = some 0 then prog.next else prog)
  | none => w.progs

/-- The programs after the kernel action `a`; an exit ends the task's program. -/
def react (w : World) : Action → Pid → Option Prog
  | .run pid nomem => w.returned pid (.ofNomem nomem)
  | .reuse pid object => w.returned pid (.reuse object)
  | .exit pid => Function.update w.progs pid none
  | _ => w.progs

/-- The kernel actions of the environment: a `call` only by a task that runs no test program. -/
def free (w : World) : Action → Bool
  | .call pid _ => (w.progs pid).isNone
  | _ => true

/-- A test program's step in user space: a wrapper's call of its syscall, which the kernel
machine enters, or a step on the file, by a task in user space on the run queue. -/
def userStep (w : World) (pid : Pid) : Option World :=
  match w.progs pid with
  | none => none
  | some prog =>
    match prog.wrapper? with
    | some wrapper =>
      (OrientLock.step w.kernel (.call pid (wrapper.syscall (.mapped faceDown)))).map
        fun kernel => { w with kernel }
    | none =>
      match w.kernel.tasks pid, prog.fileStep w.file with
      | some task, some (prog', file) =>
        if task.InUser ∧ task.onRq = true then
          some { w with file, progs := Function.update w.progs pid (some prog') }
        else none
      | _, _ => none

/-- A task in user space that runs no test program starts one at its first point. -/
def exec (w : World) (pid : Pid) (prog : Prog) : Option World :=
  match w.kernel.tasks pid with
  | some task =>
    if task.InUser ∧ (w.progs pid).isNone = true ∧ prog.starts = true then
      some { w with progs := Function.update w.progs pid (some prog) }
    else none
  | none => none

def step (w : World) : Event → Option World
  | .kernel a =>
    if w.free a then
      (OrientLock.step w.kernel a).map fun kernel => { w with kernel, progs := w.react a }
    else none
  | .user pid => w.userStep pid
  | .exec pid prog => w.exec pid prog

end World

def world : Transition.Machine World Event := ⟨World.init, World.step⟩

/-- The environment's kernel actions are disciplined; the programs' own calls are whatever
their code makes them. -/
def Event.Disciplined (w : World) : Event → Bool
  | .kernel a => a.Disciplined w.kernel
  | _ => true

def disciplinedWorld : Transition.Machine World Event :=
  world.restrict fun w e => e.Disciplined w = true

section Inversion

variable {w w' : World} {pid : Pid}

theorem World.step_kernel {a : Action} (stepped : w.step (.kernel a) = some w') :
    w.free a = true ∧ ∃ kernel, OrientLock.step w.kernel a = some kernel ∧
      w' = { w with kernel, progs := w.react a } := by
  simp only [World.step] at stepped
  split at stepped
  · next admitted =>
    obtain ⟨kernel, moved, rfl⟩ := Option.map_eq_some_iff.mp stepped
    exact ⟨admitted, kernel, moved, rfl⟩
  · cases stepped

theorem World.step_user (stepped : w.step (.user pid) = some w') :
    ∃ prog, w.progs pid = some prog ∧
      ((∃ wrapper, prog.wrapper? = some wrapper ∧ ∃ kernel,
          OrientLock.step w.kernel (.call pid (wrapper.syscall (.mapped faceDown))) = some kernel ∧
          w' = { w with kernel }) ∨
        prog.wrapper? = none ∧ ∃ task prog' file, w.kernel.tasks pid = some task ∧ task.InUser ∧
          task.onRq = true ∧ prog.fileStep w.file = some (prog', file) ∧
          w' = { w with file, progs := Function.update w.progs pid (some prog') }) := by
  simp only [World.step, World.userStep] at stepped
  split at stepped
  · cases stepped
  · next prog running =>
    refine ⟨prog, running, ?_⟩
    split at stepped
    · next wrapper calls =>
      obtain ⟨kernel, entered, rfl⟩ := Option.map_eq_some_iff.mp stepped
      exact .inl ⟨wrapper, calls, kernel, entered, rfl⟩
    · next none =>
      split at stepped
      · next task prog' file own touched =>
        split at stepped
        · next ready =>
          cases stepped
          exact .inr ⟨none, task, prog', file, own, ready.1, ready.2, touched, rfl⟩
        · cases stepped
      · cases stepped

theorem World.step_exec {prog : Prog} (stepped : w.step (.exec pid prog) = some w') :
    ∃ task, w.kernel.tasks pid = some task ∧ task.InUser ∧ w.progs pid = none ∧
      prog.starts = true ∧ w' = { w with progs := Function.update w.progs pid (some prog) } := by
  simp only [World.step, World.exec] at stepped
  split at stepped
  · next task own =>
    split at stepped
    · next admitted =>
      cases stepped
      exact ⟨task, own, admitted.1, Option.isNone_iff_eq_none.mp admitted.2.1, admitted.2.2, rfl⟩
    · cases stepped
  · cases stepped

end Inversion

theorem World.returned_other (w : World) {pid other : Pid} (alloc : Alloc) (different : other ≠ pid) :
    w.returned pid alloc other = w.progs other := by
  unfold World.returned
  cases w.kernel.tasks pid with
  | some task => exact Function.update_of_ne different _ _
  | none => rfl

theorem World.react_of_taskAlloc? (w : World) {a : Action} {pid : Pid} {alloc : Alloc}
    (acting : a.taskAlloc? = some (pid, alloc)) : w.react a = w.returned pid alloc := by
  cases a with
  | run actor nomem | reuse actor object =>
    simp only [Action.taskAlloc?, Option.some.injEq, Prod.mk.injEq] at acting
    obtain ⟨rfl, rfl⟩ := acting
    rfl
  | _ => simp [Action.taskAlloc?] at acting

theorem World.react_other (w : World) {a : Action} {other : Pid} (different : other ≠ a.pid) :
    w.react a other = w.progs other := by
  cases a with
  | run pid nomem => exact w.returned_other _ different
  | reuse pid object => exact w.returned_other _ different
  | exit pid => exact Function.update_of_ne different _ _
  | _ => rfl

theorem World.returned_self (w : World) {pid : Pid} {task : Task} (alloc : Alloc)
    (own : w.kernel.tasks pid = some task) :
    w.returned pid alloc pid = (w.progs pid).map fun prog =>
      if syscallReturn w.kernel pid alloc task.pc = some 0 then prog.next else prog := by
  simp [World.returned, own]

end OrientLock
