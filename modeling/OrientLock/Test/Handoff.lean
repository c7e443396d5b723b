import OrientLock.Test.Programs
import OrientLock.Unlock
import OrientLock.Waiters

set_option autoImplicit false

/- What the locks give the test programs. From the return of its lock call to the return of its
unlock call a program holds the acquisition of `faceDown`, so with disciplined clients the
kernel's exclusion keeps `read_integer` out of every turn of `selector`. The wrappers' retries
are calls of the kernel machine like any other: `orient_write_unlock` never retries, and
`orient_read_unlock` retries only while `grant_lock` has flagged the reader's entry and not
yet linked it. -/
namespace OrientLock

/-- The lock type of a wrapper. -/
def Wrapper.type : Wrapper → EntryType
  | .readLock | .readUnlock => .reader
  | .writeLock | .writeUnlock => .writer

/-- The lock wrappers, as against the unlock wrappers. -/
def Wrapper.locks : Wrapper → Bool
  | .readLock | .writeLock => true
  | .readUnlock | .writeUnlock => false

/-- Where a task is inside `orientlock_*` of `type` on `range`: at its first `kmalloc`, at the
second with `korient` holding the range, or waiting on an entry of that type and range. -/
def Kernel.Locking (s : Kernel) (type : EntryType) (range : OrientationRange) (pc : Pc) : Prop :=
  pc = .lockRange type (.mapped range) ∨
    (∃ korient, pc = .lockEntry type korient ∧ s.ranges korient = range) ∨
    ∃ entry, pc.waitEntry = some entry ∧ s.item entry = ⟨type, range⟩

/-- Where a task is inside the syscall a wrapper makes on `faceDown`. -/
def Wrapper.Inside (s : Kernel) (pc : Pc) (wrapper : Wrapper) : Prop :=
  if wrapper.locks then s.Locking wrapper.type faceDown pc
  else pc = .unlock wrapper.type (.mapped faceDown)

/-- The lock a program holds at this point: from the return of its lock call to that of its
unlock call. -/
def Prog.holds : Prog → Option EntryType
  | .selectorOpen _ | .selectorClose _ | .selectorUnlock _ => some .writer
  | .readerRead _ | .readerUnlock _ _ => some .reader
  | _ => none

/-- How a program's task stands in the kernel: alive, in user space or inside the syscall of
its wrapper, and holding the acquisition of `faceDown` that its program point holds. -/
structure Prog.Stands (s : Kernel) (prog : Prog) (task : Task) : Prop where
  alive : task.exitState = 0
  place : task.pc = .idle ∨ ∃ wrapper, prog.wrapper? = some wrapper ∧ wrapper.Inside s task.pc
  holding : ∀ type ∈ prog.holds, ⟨type, faceDown⟩ ∈ task.held

/-- The invariant of the world: every program stands, and the file is absent, empty, or holds
the digits of a counter. -/
structure World.Sound (w : World) : Prop where
  stands : ∀ pid prog, w.progs pid = some prog →
    ∃ task, w.kernel.tasks pid = some task ∧ prog.Stands w.kernel task
  file : w.file = none ∨ w.file = some [] ∨ ∃ counter, w.file = some (mpzGetStr counter)

section Programs

theorem Wrapper.syscall_entry (wrapper : Wrapper) (lock : UserPtr OrientationRange) :
    (wrapper.syscall lock).entry =
      if wrapper.locks then .lockRange wrapper.type lock else .unlock wrapper.type lock := by
  cases wrapper <;> rfl

theorem Wrapper.disciplined (wrapper : Wrapper) (s : Kernel) (pid : Pid) (range : OrientationRange) :
    (Action.call pid (wrapper.syscall (.mapped range))).Disciplined s =
      (wrapper.locks || decide (s.Holds pid ⟨wrapper.type, range⟩)) := by
  cases wrapper <;> rfl

theorem Prog.holds_next {prog : Prog} {wrapper : Wrapper} (calls : prog.wrapper? = some wrapper) :
    prog.next.holds = if wrapper.locks then some wrapper.type else none := by
  cases prog <;> simp only [Prog.wrapper?, Option.some.injEq, reduceCtorEq] at calls <;> subst calls <;> rfl

theorem Prog.holds_unlock {prog : Prog} {wrapper : Wrapper} (calls : prog.wrapper? = some wrapper)
    (unlocks : wrapper.locks = false) : prog.holds = some wrapper.type := by
  cases prog <;> simp only [Prog.wrapper?, Option.some.injEq, reduceCtorEq] at calls <;> subst calls <;>
    simp_all [Prog.holds, Wrapper.locks, Wrapper.type]

theorem Prog.holds_fileStep {prog prog' : Prog} {file file' : Option (List Char)}
    (touched : prog.fileStep file = some (prog', file')) : prog'.holds = prog.holds := by
  cases prog <;> simp only [Prog.fileStep, Option.some.injEq, Prod.mk.injEq, reduceCtorEq] at touched <;>
    obtain ⟨rfl, -⟩ := touched <;> rfl

theorem Prog.file_fileStep {prog prog' : Prog} {file file' : Option (List Char)}
    (touched : prog.fileStep file = some (prog', file')) :
    file' = file ∨ file' = some [] ∨ ∃ counter, file' = some (mpzGetStr counter) := by
  cases prog <;> simp only [Prog.fileStep, Option.some.injEq, Prod.mk.injEq, reduceCtorEq] at touched <;>
    obtain ⟨-, rfl⟩ := touched
  · exact .inr (.inl rfl)
  · exact .inr (.inr ⟨_, rfl⟩)
  · exact .inl rfl

theorem Prog.holds_of_starts {prog : Prog} (starting : prog.starts = true) : prog.holds = none := by
  cases prog <;> simp_all [Prog.starts, Prog.holds]

end Programs

section Locking

variable {s t : Kernel} {pid : Pid} {task : Task} {alloc : Alloc}

theorem Kernel.Locking.taskStep (heap : s.HeapSound) (bounded : Bounded s) (linked : s.WaitsLinked)
    {pc : Pc} (clear : alloc.Clear s pc) (stepped : OrientLock.taskStep s pid pc alloc = some t)
    {other : Pid} {holder : Task} (was : s.tasks other = some holder) {type : EntryType}
    {range : OrientationRange} (locking : s.Locking type range holder.pc) :
    t.Locking type range holder.pc := by
  rcases locking with first | ⟨korient, storing, ranged⟩ | ⟨entry, waiting, item⟩
  · exact .inl first
  · exact .inr (.inl ⟨korient, storing,
      (taskStep_ranges_of_keeps stepped (heap.keeps_korient bounded clear was storing)).trans ranged⟩)
  · exact .inr (.inr ⟨entry, waiting,
      (Kernel.item_taskStep stepped (linked.keeps heap bounded clear was waiting)).trans item⟩)

theorem Kernel.Locking.taskStep_self (heap : s.HeapSound) (bounded : Bounded s)
    (linked : s.WaitsLinked) (own : s.tasks pid = some task) (clear : alloc.Clear s task.pc)
    (stepped : OrientLock.taskStep s pid task.pc alloc = some t) {task' : Task}
    (now : t.tasks pid = some task') {type : EntryType} {range : OrientationRange}
    (locking : s.Locking type range task.pc) :
    t.Locking type range task'.pc ∧ task'.held = task.held ∧ syscallReturn s pid alloc task.pc = none ∨
      task'.pc = .idle ∧ task'.held = task.held ∧ (∃ rc, rc ≠ 0 ∧ syscallReturn s pid alloc task.pc = some rc) ∨
      task'.pc = .idle ∧ task'.held = task.held ++ [⟨type, range⟩] ∧
        syscallReturn s pid alloc task.pc = some 0 := by
  have notUnlock : ∀ type orient, task.pc ≠ .unlock type orient := by
    intro type' orient pc
    rcases locking with first | ⟨korient, storing, -⟩ | ⟨entry, waiting, -⟩
    · rw [pc] at first
      cases first
    · rw [pc] at storing
      cases storing
    · rw [pc] at waiting
      cases waiting
  have sameHeld : (∀ entry, task.pc ≠ .lockTest entry) → task'.held = task.held := by
    intro notTesting
    rcases taskStep_actor_held own stepped now notUnlock with same | ⟨waited, pc, -, -, -⟩
    · exact same
    · exact absurd pc (notTesting waited)
  rcases locking with first | ⟨korient, storing, ranged⟩ | ⟨entry, waiting, item⟩
  · have held := sameHeld fun entry testing => by rw [first] at testing; cases testing
    rw [first] at stepped ⊢
    cases stepped
    rcases allocated : (allocRange s (.mapped range) alloc).1 with rc | korient
    · have idle : task'.pc = .idle := by rw [Kernel.goto_pc now, allocated]
      exact .inr (.inl ⟨idle, held, rc, allocRange_error_ne_zero allocated, by simp [syscallReturn, allocated]⟩)
    · have entering : task'.pc = .lockEntry type korient := by rw [Kernel.goto_pc now, allocated]
      refine .inl ⟨.inr (.inl ⟨korient, entering, ?_⟩), held, by simp [syscallReturn, allocated]⟩
      simpa [copyFromUser] using allocRange_ranges_of_ok allocated
  · have held := sameHeld fun entry testing => by rw [storing] at testing; cases testing
    rw [storing] at stepped ⊢
    cases stepped
    rcases allocated : (allocEntry s type pid korient alloc).1 with rc | entry
    · have idle : task'.pc = .idle := by rw [Kernel.goto_pc now, allocated]
      exact .inr (.inl ⟨idle, held, rc, allocEntry_error_ne_zero allocated, by simp [syscallReturn, allocated]⟩)
    · have queuing : task'.pc = .lockEnqueue entry := by rw [Kernel.goto_pc now, allocated]
      have written := (allocEntry_of_ok _ _ _ _ _ allocated).2.2.1
      refine .inl ⟨.inr (.inr ⟨entry, by rw [queuing]; rfl, ?_⟩), held, by simp [syscallReturn, allocated]⟩
      simp [Kernel.item, Kernel.rangeOf, written, ranged]
  · rcases taskStep_actor_waiting own stepped waiting with ⟨task'', now', stillWaiting⟩ | ⟨testing, flag⟩
    · rw [now, Option.some.injEq] at now'
      subst now'
      have busy : task'.pc ≠ .idle := fun idle => by simp [idle, Pc.waitEntry] at stillWaiting
      have held : task'.held = task.held := by
        rcases taskStep_actor_held own stepped now notUnlock with same | ⟨-, -, -, -, idle⟩
        · exact same
        · exact absurd idle busy
      refine .inl ⟨.inr (.inr ⟨entry, stillWaiting, ?_⟩), held, ?_⟩
      · exact (Kernel.item_taskStep stepped (linked.keeps heap bounded clear own waiting)).trans item
      · exact Option.not_isSome_iff_eq_none.mp fun returns => busy ((taskStep_idle_iff own stepped now).mpr returns)
    · -- `finish_wait`: the flagged entry grants its type and range
      rw [testing] at stepped
      simp only [OrientLock.taskStep, if_pos flag] at stepped
      cases stepped
      simp only [Kernel.updateTask_tasks, ite_true, own, Option.map_some, Option.some.injEq] at now
      subst now
      refine .inr (.inr ⟨rfl, ?_, by simp [syscallReturn, testing, flag]⟩)
      show task.held ++ [s.item entry] = _
      rw [item]

theorem taskStep_unlock_returns (own : s.tasks pid = some task) {type : EntryType}
    {orient : UserPtr OrientationRange} (pc : task.pc = .unlock type orient)
    (stepped : OrientLock.taskStep s pid task.pc alloc = some t) {task' : Task}
    (now : t.tasks pid = some task') :
    task'.pc = .idle ∧ task'.exitState = task.exitState ∧
      syscallReturn s pid alloc task.pc = some (orientunlock type s pid orient).1 ∧
      task'.held = if (orientunlock type s pid orient).1 = 0 then
        task.held.erase ⟨type, (copyFromUser orient).1⟩ else task.held := by
  rw [pc] at stepped ⊢
  cases stepped
  have sameTasks : (orientunlock type s pid orient).2.tasks = s.tasks := by
    rcases orientunlock_cases type s pid orient with same | ⟨entry, unlinked⟩ <;> simp [*]
  simp only [Kernel.updateTask_tasks, ite_true, sameTasks, own, Option.map_some, Option.some.injEq] at now
  subst now
  by_cases zero : (orientunlock type s pid orient).1 = 0 <;> simp [zero, Task.release, syscallReturn]

end Locking

section Stands

variable {s t : Kernel} {pid : Pid} {task : Task} {alloc : Alloc} {prog : Prog}

theorem Prog.Stands.retask (stands : prog.Stands s task) {tasks : Pid → Option Task} {task' : Task}
    (pc : task'.pc = task.pc) (held : task'.held = task.held) (exit : task'.exitState = task.exitState) :
    prog.Stands { s with tasks } task' := by
  refine ⟨exit.trans stands.alive, ?_, fun type holds => held ▸ stands.holding type holds⟩
  rw [pc]
  exact stands.place

theorem Prog.Stands.taskStep_other (heap : s.HeapSound) (bounded : Bounded s) (linked : s.WaitsLinked)
    {pc : Pc} (clear : alloc.Clear s pc) (stepped : OrientLock.taskStep s pid pc alloc = some t)
    {other : Pid} (different : other ≠ pid) {before : Task} (was : s.tasks other = some before)
    (stands : prog.Stands s before) : ∃ after, t.tasks other = some after ∧ prog.Stands t after := by
  obtain ⟨after, now, samePc, sameHeld, sameExit⟩ : ∃ after, t.tasks other = some after ∧
      after.pc = before.pc ∧ after.held = before.held ∧ after.exitState = before.exitState := by
    rcases taskStep_other_task stepped different with same | ⟨-, woken⟩
    · exact ⟨before, same.trans was, rfl, rfl, rfl⟩
    · exact ⟨before.wake, by rw [woken, was]; rfl, by simp, by simp, by simp⟩
  refine ⟨after, now, sameExit.trans stands.alive, ?_, fun type holds => sameHeld ▸ stands.holding type holds⟩
  rw [samePc]
  rcases stands.place with idle | ⟨wrapper, calls, inside⟩
  · exact .inl idle
  · refine .inr ⟨wrapper, calls, ?_⟩
    unfold Wrapper.Inside at inside ⊢
    split
    · next locks =>
      rw [if_pos locks] at inside
      exact Kernel.Locking.taskStep heap bounded linked clear stepped was inside
    · next unlocks =>
      rwa [if_neg unlocks] at inside

theorem Prog.Stands.taskStep_self (heap : s.HeapSound) (bounded : Bounded s) (linked : s.WaitsLinked)
    (own : s.tasks pid = some task) (clear : alloc.Clear s task.pc)
    (stepped : OrientLock.taskStep s pid task.pc alloc = some t) (stands : prog.Stands s task)
    {task' : Task} (now : t.tasks pid = some task') :
    (if syscallReturn s pid alloc task.pc = some 0 then prog.next else prog).Stands t task' := by
  have alive : task'.exitState = 0 := (taskStep_actor_state own stepped now).1.trans stands.alive
  rcases stands.place with idle | ⟨wrapper, calls, inside⟩
  · rw [idle] at stepped
    cases stepped
  unfold Wrapper.Inside at inside
  split at inside
  · next locks =>
    rcases Kernel.Locking.taskStep_self heap bounded linked own clear stepped now inside with
      ⟨locking, held, none⟩ | ⟨idle, held, rc, nonzero, returned⟩ | ⟨idle, held, returned⟩
    · rw [none, if_neg (by simp)]
      refine ⟨alive, .inr ⟨wrapper, calls, ?_⟩, fun type holds => held ▸ stands.holding type holds⟩
      simpa [Wrapper.Inside, locks] using locking
    · rw [returned, if_neg (by simpa using nonzero)]
      exact ⟨alive, .inl idle, fun type holds => held ▸ stands.holding type holds⟩
    · rw [returned, if_pos rfl]
      refine ⟨alive, .inl idle, fun type holds => ?_⟩
      rw [Prog.holds_next calls, if_pos locks, Option.mem_some_iff] at holds
      rw [held, ← holds]
      exact List.mem_append_right _ (List.mem_singleton_self _)
  · next unlocks =>
    obtain ⟨idle, -, returned, held⟩ := taskStep_unlock_returns own inside stepped now
    rw [returned]
    by_cases zero : (orientunlock wrapper.type s pid (.mapped faceDown)).1 = 0
    · rw [if_pos (by rw [zero])]
      refine ⟨alive, .inl idle, fun type holds => ?_⟩
      rw [Prog.holds_next calls, if_neg unlocks] at holds
      cases holds
    · rw [if_neg (by simpa using zero)]
      refine ⟨alive, .inl idle, fun type holds => ?_⟩
      rw [held, if_neg zero]
      exact stands.holding type holds

end Stands

section Preservation

variable {w w' : World} {pid : Pid}

theorem World.Sound.env (sound : w.Sound) {a : Action} (acting : a.taskAlloc? = none)
    (free : w.free a = true) {kernel : Kernel} (moved : OrientLock.step w.kernel a = some kernel) :
    ∀ pid prog, w.react a pid = some prog → ∃ task, kernel.tasks pid = some task ∧ prog.Stands kernel task := by
  obtain ⟨tasks, rfl, others, -⟩ := step_env acting moved
  intro pid prog running
  by_cases acted : pid = a.pid
  · subst acted
    cases a with
    | run | reuse => simp [Action.taskAlloc?] at acting
    | call pid call =>
      simp only [World.free, Option.isNone_iff_eq_none] at free
      simp [World.react, Action.pid, free] at running
    | setState pid state =>
      dsimp only [Action.pid, World.react] at running ⊢
      obtain ⟨task, own, -, updated⟩ := step_setState moved
      obtain ⟨before, was, stands⟩ := sound.stands pid prog running
      rw [own, Option.some.injEq] at was
      subst was
      refine ⟨{ task with state := state.bits, onRq := state == .running }, ?_, stands.retask rfl rfl rfl⟩
      have same := congrArg Kernel.tasks updated
      dsimp only at same
      rw [same]
      simp [Kernel.updateTask_tasks, own]
    | exit pid => simp [World.react, Action.pid] at running
    | reap pid =>
      dsimp only [Action.pid, World.react] at running
      obtain ⟨task, own, exited, -⟩ := step_reap moved
      obtain ⟨before, was, stands⟩ := sound.stands pid prog running
      rw [own, Option.some.injEq] at was
      subst was
      exact absurd stands.alive exited
    | spawn pid =>
      dsimp only [Action.pid, World.react] at running
      obtain ⟨absent, -⟩ := step_spawn moved
      obtain ⟨before, was, -⟩ := sound.stands pid prog running
      rw [absent] at was
      cases was
  · rw [w.react_other acted] at running
    obtain ⟨before, was, stands⟩ := sound.stands pid prog running
    exact ⟨before, (others pid acted).trans was, stands.retask rfl rfl rfl⟩

theorem World.Sound.step_kernel (sound : w.Sound) (reachable : disciplinedMachine.Reachable w.kernel)
    {a : Action} (admitted : a.Disciplined w.kernel = true) (stepped : w.step (.kernel a) = some w') :
    w'.Sound ∧ disciplinedMachine.step w.kernel a = some w'.kernel := by
  obtain ⟨free, kernel, moved, rfl⟩ := World.step_kernel stepped
  refine ⟨⟨?_, sound.file⟩, Transition.Machine.step_restrict admitted moved⟩
  have base := Transition.Machine.ReachableFrom.of_restrict reachable
  have heap := Kernel.HeapSound.of_reachable base
  have bounded := bounded_of_reachable base
  have linked := Kernel.WaitsLinked.of_disciplined reachable
  rcases acting : a.taskAlloc? with _ | ⟨pid, alloc⟩
  · exact sound.env acting free moved
  · obtain ⟨task, own, -, clear, stepped⟩ := step_task moved acting
    rw [w.react_of_taskAlloc? acting]
    intro other prog running
    change w.returned pid alloc other = some prog at running
    by_cases actor : other = pid
    · subst actor
      rw [w.returned_self alloc own] at running
      obtain ⟨before, was, rfl⟩ := Option.map_eq_some_iff.mp running
      obtain ⟨task₀, own₀, stands⟩ := sound.stands other before was
      rw [own, Option.some.injEq] at own₀
      subst own₀
      obtain ⟨task', now⟩ := taskStep_actor_exists own stepped
      exact ⟨task', now, stands.taskStep_self heap bounded linked own clear stepped now⟩
    · rw [w.returned_other alloc actor] at running
      obtain ⟨before, was, stands⟩ := sound.stands other prog running
      exact stands.taskStep_other heap bounded linked clear stepped actor was

theorem World.Sound.step_user (sound : w.Sound) (stepped : w.step (.user pid) = some w') :
    w'.Sound ∧ (w'.kernel = w.kernel ∨ ∃ syscall : Syscall,
      OrientLock.step w.kernel (.call pid syscall) = some w'.kernel ∧
        (Action.call pid syscall).Disciplined w.kernel = true) := by
  obtain ⟨prog, running, ⟨wrapper, calls, kernel, entered, rfl⟩ |
    ⟨-, task, prog', file, own, inUser, -, touched, rfl⟩⟩ := World.step_user stepped
  · obtain ⟨task, own, inUser, -, updated⟩ := step_call entered
    obtain ⟨before, was, stands⟩ := sound.stands pid prog running
    rw [own, Option.some.injEq] at was
    subst was
    refine ⟨⟨fun other prog' running' => ?_, sound.file⟩, .inr ⟨_, entered, ?_⟩⟩
    · rw [updated]
      by_cases actor : other = pid
      · subst actor
        rw [running, Option.some.injEq] at running'
        subst running'
        refine ⟨{ task with pc := (wrapper.syscall (.mapped faceDown)).entry },
          by simp [Kernel.updateTask_tasks, own], stands.alive, .inr ⟨wrapper, calls, ?_⟩,
          stands.holding⟩
        unfold Wrapper.Inside
        rw [Wrapper.syscall_entry]
        split
        · exact .inl rfl
        · rfl
      · obtain ⟨task', was, stands'⟩ := sound.stands other prog' running'
        exact ⟨task', by rw [Kernel.goto_eq, Kernel.updateTask_other _ actor]; exact was,
          stands'.retask rfl rfl rfl⟩
    · rw [Wrapper.disciplined]
      cases unlocks : wrapper.locks
      · have holds := stands.holding wrapper.type (Prog.holds_unlock calls unlocks)
        simpa using ⟨task, own, holds⟩
      · rfl
  · refine ⟨⟨fun other prog'' running' => ?_, ?_⟩, .inl rfl⟩
    · dsimp only at running' ⊢
      by_cases actor : other = pid
      · subst actor
        simp only [Function.update_self, Option.some.injEq] at running'
        subst running'
        obtain ⟨before, was, stands⟩ := sound.stands other prog running
        rw [own, Option.some.injEq] at was
        subst was
        exact ⟨task, own, inUser.2, .inl inUser.1,
          fun type holds => stands.holding type (Prog.holds_fileStep touched ▸ holds)⟩
      · rw [Function.update_of_ne actor] at running'
        exact sound.stands other prog'' running'
    · rcases Prog.file_fileStep touched with same | written
      · exact same ▸ sound.file
      · exact .inr written

theorem World.Sound.step_exec {prog : Prog} (sound : w.Sound) (stepped : w.step (.exec pid prog) = some w') :
    w'.Sound ∧ w'.kernel = w.kernel := by
  obtain ⟨task, own, inUser, -, starting, rfl⟩ := World.step_exec stepped
  refine ⟨⟨fun other prog' running => ?_, sound.file⟩, rfl⟩
  dsimp only at running ⊢
  by_cases actor : other = pid
  · subst actor
    simp only [Function.update_self, Option.some.injEq] at running
    subst running
    exact ⟨task, own, inUser.2, .inl inUser.1, fun type holds => by
      rw [Prog.holds_of_starts starting] at holds
      cases holds⟩
  · rw [Function.update_of_ne actor] at running
    exact sound.stands other prog' running

/-- In every reachable world with disciplined clients every program stands, and the kernel is a
reachable state of the disciplined kernel machine: the programs' calls are disciplined ones. -/
theorem World.Sound.of_reachable {w : World} (reachable : disciplinedWorld.Reachable w) :
    w.Sound ∧ disciplinedMachine.Reachable w.kernel := by
  refine Transition.Machine.Reachable.view (P := World.Sound) World.kernel
    ⟨fun _ _ none_ => (by cases none_), .inl rfl⟩ rfl ?_ reachable
  intro w e w' sound kernelReachable stepped
  obtain ⟨admitted, stepped⟩ := Transition.Machine.restrict_step stepped
  cases e with
  | kernel a =>
    obtain ⟨sound', moved⟩ := sound.step_kernel kernelReachable admitted stepped
    exact ⟨sound', .inr ⟨a, moved⟩⟩
  | user pid =>
    obtain ⟨sound', same | ⟨syscall, moved, disciplined⟩⟩ := sound.step_user stepped
    · exact ⟨sound', .inl same⟩
    · exact ⟨sound', .inr ⟨.call pid syscall, Transition.Machine.step_restrict disciplined moved⟩⟩
  | exec pid prog =>
    obtain ⟨sound', same⟩ := sound.step_exec stepped
    exact ⟨sound', .inl same⟩

end Preservation

/-- The kernel events of `count` steps of task `pid`. -/
def kernelRuns (pid : Pid) (count : Nat) : List Event := (runs pid count).map .kernel

/-- `selector` (task 1) makes one turn, with counter 0, under a write lock that task 3's
`set_orientation` grants; then `trial` (task 2) takes its read lock from a second pass. -/
def turnTrace : List Event :=
  [.kernel (.spawn 1), .kernel (.spawn 2), .kernel (.spawn 3), .exec 1 (.selectorLock 0), .user 1] ++
    kernelRuns 1 4 ++ [.kernel (.call 3 (.setOrientation (.mapped ⟨180, 180, 0⟩)))] ++ kernelRuns 3 12 ++
    kernelRuns 1 1 ++ [.user 1, .user 1, .user 1] ++ kernelRuns 1 1 ++
    [.exec 2 (.readerLock none), .user 2] ++ kernelRuns 2 4 ++
    [.kernel (.call 3 (.setOrientation (.mapped ⟨180, 180, 0⟩)))] ++ kernelRuns 3 11 ++ kernelRuns 2 1

def afterTurn : World := (disciplinedWorld.run disciplinedWorld.init turnTrace).getD World.init

/-- `orient_write_unlock` returns after its first call, and a call of `orient_read_unlock` fails
only while the reader's entry waits at a pass's `list_add_tail` in `grant_lock`'s window. -/
theorem unlock_retries_in_grant_window {w : World} (reachable : disciplinedWorld.Reachable w) {pid : Pid}
    {task : Task} (own : w.kernel.tasks pid = some task) :
    (∀ counter, w.progs pid = some (.selectorUnlock counter) → task.pc = .unlock .writer (.mapped faceDown) →
      ∀ nomem w', disciplinedWorld.step w (.kernel (.run pid nomem)) = some w' →
        w'.progs pid = some (.selectorLock (counter + 1))) ∧
    (∀ ret integer, w.progs pid = some (.readerUnlock ret integer) →
      task.pc = .unlock .reader (.mapped faceDown) → (orientunlockRead w.kernel pid (.mapped faceDown)).1 ≠ 0 →
      ∃ entry, (w.kernel.entries entry).pid = pid ∧ w.kernel.item entry = ⟨.reader, faceDown⟩ ∧
        entry ∉ w.kernel.grantedList ∧
        ∃ other holder rest, w.kernel.tasks other = some holder ∧ holder.pc = .setAddGranted entry rest) := by
  refine ⟨fun counter running unlocking nomem w' stepped => ?_, fun ret integer running unlocking failing => ?_⟩
  · obtain ⟨-, stepped⟩ := Transition.Machine.restrict_step stepped
    have stepped : w.step (.kernel (.run pid nomem)) = some w' := stepped
    obtain ⟨-, kernel, -, rfl⟩ := World.step_kernel stepped
    show w.returned pid (.ofNomem nomem) pid = _
    rw [w.returned_self _ own, running, unlocking]
    simp [syscallReturn, orientunlock, orientunlockWrite_mapped_zero, Prog.next]
  · obtain ⟨sound, kernelReachable⟩ := World.Sound.of_reachable reachable
    have backed := Kernel.Backed.of_disciplined kernelReachable
    obtain ⟨task₀, own₀, stands⟩ := sound.stands pid _ running
    rw [own, Option.some.injEq] at own₀
    subst own₀
    obtain ⟨entry, item, owner, granted⟩ := backed.backing own (stands.holding .reader rfl)
    have unlinked : entry ∉ w.kernel.grantedList := by
      intro linked
      have fields : (w.kernel.entries entry).type = .reader ∧ w.kernel.rangeOf entry = faceDown := by
        simpa [Kernel.item] using item
      exact failing ((orientunlockRead_releasesOwn w.kernel pid faceDown).1.mpr
        ⟨entry, linked, by simp [unlockMatches, fields, owner]⟩)
    rcases granted with linked | ⟨other, holder, rest, was, adding⟩
    · exact absurd linked unlinked
    · exact ⟨entry, owner, item, unlinked, other, holder, rest, was, adding⟩

/-- `trial` (task 2) read-locks `faceDown`; task 3's pass stops before `list_add_tail`, task 2
returns from its wait, reads, and calls `orientunlock_read`. -/
def handoffTrace : List Event :=
  [.kernel (.spawn 2), .kernel (.spawn 3), .exec 2 (.readerLock none), .user 2] ++ kernelRuns 2 4 ++
    [.kernel (.call 3 (.setOrientation (.mapped ⟨180, 180, 0⟩)))] ++ kernelRuns 3 7 ++ kernelRuns 2 1 ++
    [.user 2, .user 2]

def handoff : World := (disciplinedWorld.run disciplinedWorld.init handoffTrace).getD World.init

theorem unlock_retries_in_grant_window_handoff :
    ∃ entry, (handoff.kernel.entries entry).pid = 2 ∧ handoff.kernel.item entry = ⟨.reader, faceDown⟩ ∧
      entry ∉ handoff.kernel.grantedList ∧ ∃ other holder rest, handoff.kernel.tasks other = some holder ∧
        holder.pc = .setAddGranted entry rest := by
  obtain ⟨task, own⟩ := Option.isSome_iff_exists.mp
    (show (handoff.kernel.tasks 2).isSome = true by decide +kernel)
  have unlocking : (handoff.kernel.tasks 2).map Task.pc = some (.unlock .reader (.mapped faceDown)) := by
    decide +kernel
  rw [own, Option.map_some, Option.some.injEq] at unlocking
  exact (unlock_retries_in_grant_window (Transition.Machine.Reachable.of_run_getD (by decide +kernel)) own).2
    0 none (by decide +kernel) unlocking (by decide +kernel)

end OrientLock
