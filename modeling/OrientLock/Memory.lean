import OrientLock.System
import OrientLock.Lib.Links

set_option autoImplicit false

/- `kernel/orientation.c` at the level of the words it reads and writes. A `lock_entry` is
32 bytes (`range`, `granted`, the `list` and `granted_list` heads, `type`, `pid`), an
`orientation_range` 24, and `orientlock_write` asks for `sizeof(entry)`, 4: all three come from
`size-32`, whose per-CPU array cache hands back the object freed last. The lists are the
`list_head` words themselves, walked as `list_for_each` walks them. The steps are those of
`OrientLock.taskStep`, except that the waiter loop holds the cursor `pos` and the lookahead `n`
of `list_for_each_safe` rather than the list, and the return values are not kept. -/
namespace OrientLock

namespace Memory

open Links

def rangeField : UInt32 := 0
def grantedField : UInt32 := 4
def listField : UInt32 := 8
def grantedListField : UInt32 := 16
def typeField : UInt32 := 24
def pidField : UInt32 := 28

def sizeofOrientationRange : Nat := 24
def sizeofLockEntry : Nat := 32
/-- `sizeof(entry)` in `orientlock_write`: the size of a pointer. -/
def sizeofEntryPointer : Nat := 4

def waitersListHead : UInt32 := 0x100
def grantedListHead : UInt32 := 0x108
def currentOrientAddr : UInt32 := 0x110
/-- The first object `size-32` hands out. -/
def heapStart : UInt32 := 0x1000

/-- `READER_ENTRY` and `WRITER_ENTRY`. -/
def typeWord : EntryType → UInt32
  | .reader => 0
  | .writer => 1

def orientAt (mem : Mem) (addr : UInt32) : DevOrientation :=
  ⟨(mem addr).toInt32, (mem (addr + 4)).toInt32, (mem (addr + 8)).toInt32⟩

def rangeAt (mem : Mem) (addr : UInt32) : OrientationRange :=
  ⟨orientAt mem addr, mem (addr + 12), mem (addr + 16), mem (addr + 20)⟩

def storeOrient (mem : Mem) (addr : UInt32) (orient : DevOrientation) : Mem :=
  let mem := Function.update mem addr orient.azimuth.toUInt32
  let mem := Function.update mem (addr + 4) orient.pitch.toUInt32
  Function.update mem (addr + 8) orient.roll.toUInt32

def storeRange (mem : Mem) (addr : UInt32) (range : OrientationRange) : Mem :=
  let mem := storeOrient mem addr range.orient
  let mem := Function.update mem (addr + 12) range.azimuthRange
  let mem := Function.update mem (addr + 16) range.pitchRange
  Function.update mem (addr + 20) range.rollRange

/-- The fields `orientlock_*` sets in a new entry, in the order of the source. -/
def initEntry (mem : Mem) (entry korient : UInt32) (pid : Pid) (type : EntryType) : Mem :=
  let mem := Function.update mem (entry + rangeField) korient
  let mem := Function.update mem (entry + pidField) (UInt32.ofNat pid)
  let mem := Function.update mem (entry + grantedField) 0
  let mem := initListHead mem (entry + listField)
  let mem := initListHead mem (entry + grantedListField)
  Function.update mem (entry + typeField) (typeWord type)

/-- The `size-32` cache of `mm/slab.c` on one CPU: `____cache_alloc` pops the array cache
(`ac->entry[--ac->avail]`), `__cache_free` pushes onto it (`ac->entry[ac->avail++] = objp`),
and objects never handed out come from `grow`. -/
structure Slab where
  avail : List UInt32
  grow : UInt32

/-- `kmalloc(size, GFP_KERNEL)`, `NULL` when `nomem`. `kmalloc_sizes.h` starts at `CACHE(32)`,
so the requests of `orientation.c`, none above 32 bytes, are all served by `size-32`. -/
def Slab.kmalloc (slab : Slab) (size : Nat) (nomem : Bool) : Option (UInt32 × Slab) :=
  if nomem || 32 < size then none
  else
    match slab.avail with
    | object :: rest => some (object, { slab with avail := rest })
    | [] => some (slab.grow, { slab with grow := slab.grow + 32 })

/-- `kfree`, which ignores `NULL`. -/
def Slab.kfree (slab : Slab) (object : UInt32) : Slab :=
  if object = 0 then slab else { slab with avail := object :: slab.avail }

/-- A task's place in the syscalls, as `OrientLock.Pc`. The waiter loop keeps the node `pos` of
the waiter it visits and `n`, read ahead from `pos->next`; `process_waiter` keeps the pointer
`target` it read from `entry->range`, and whether `entry->type` was `READER_ENTRY`. -/
inductive Pc where
  | idle
  | setLockSet (orient : UserPtr DevOrientation)
  | setCopy (orient : UserPtr DevOrientation)
  | setLockWaiters
  | setRelease
  | setLoop (pos n : UInt32)
  | setNoWriter (pos n target : UInt32) (reader : Bool)
  | setNoReader (pos n target : UInt32)
  | setGranted (pos n : UInt32)
  | setAddGranted (pos n : UInt32)
  | setDelWaiter (pos n : UInt32)
  | setWakeUp (n : UInt32)
  | lockRange (type : EntryType) (orient : UserPtr OrientationRange)
  | lockEntry (type : EntryType) (korient : UInt32)
  | lockEnqueue (entry : UInt32)
  | lockAddWait (entry : UInt32)
  | lockTest (entry : UInt32)
  | lockPrepare (entry : UInt32)
  | lockSchedule (entry : UInt32)
  | unlock (type : EntryType) (orient : UserPtr OrientationRange)
  deriving DecidableEq, Repr

/-- The first statement of each syscall. -/
def entryPc : Syscall → Pc
  | .setOrientation orient => .setLockSet orient
  | .orientlockRead orient => .lockRange .reader orient
  | .orientlockWrite orient => .lockRange .writer orient
  | .orientunlockRead orient => .unlock .reader orient
  | .orientunlockWrite orient => .unlock .writer orient

structure Task where
  pc : Pc
  state : Nat
  exitState : Nat
  onRq : Bool
  queued : Bool

def Task.new : Task := ⟨.idle, taskRunning, 0, true, false⟩

/-- The fields of the task that `is_running` and `try_to_wake_up` read. -/
def Task.sched (task : Task) : OrientLock.Task :=
  { pc := .idle, state := task.state, exitState := task.exitState, onRq := task.onRq,
    queued := task.queued, held := [] }

def Task.wake (task : Task) : Task :=
  let woken := task.sched.wake
  { task with state := woken.state, onRq := woken.onRq, queued := woken.queued }

structure State where
  mem : Mem
  slab : Slab
  setLock : Option Pid
  waitersLock : Option Pid
  tasks : Pid → Option Task

/-- Boot: `LIST_HEAD(waiters_list)`, `LIST_HEAD(granted_list)`, everything else zero. -/
def init : State where
  mem := initListHead (initListHead (fun _ => 0) waitersListHead) grantedListHead
  slab := ⟨[], heapStart⟩
  setLock := none
  waitersLock := none
  tasks := fun _ => none

namespace State

variable (s : State)

/-- A bound on the links a walk follows: a list of distinct objects has fewer nodes. -/
def fuel : Nat := s.slab.grow.toNat

def isRunning (pid : Pid) : Bool := OrientLock.isRunning (fun pid => (s.tasks pid).map Task.sched) pid

def updateTask (pid : Pid) (f : Task → Task) : State :=
  { s with tasks := Function.update s.tasks pid ((s.tasks pid).map f) }

def goto (pid : Pid) (pc : Pc) : State := s.updateTask pid fun task => { task with pc := pc }

/-- `*entry->range`. -/
def entryRange (entry : UInt32) : OrientationRange := rangeAt s.mem (s.mem (entry + rangeField))

/-- The entries of `granted_list`, by `list_entry(node, struct lock_entry, granted_list)`. -/
def grantedEntries : Option (List UInt32) :=
  (nodes s.mem grantedListHead s.fuel).map (List.map (· - grantedListField))

end State

/-- `generic_search_list(target, &granted_list, type)` from `node` on: `true` (1) when no entry of
type `type` has a range equal to `target`. -/
def genericSearchList (mem : Mem) (target : OrientationRange) (type : UInt32) :
    Nat → UInt32 → Option Bool
  | 0, _ => none
  | fuel + 1, node =>
    if node = grantedListHead then some true
    else
      let entry := node - grantedListField
      if mem (entry + typeField) = type ∧ rangeEquals (rangeAt mem (mem (entry + rangeField))) target
      then some false
      else genericSearchList mem target type fuel (next mem node)

/-- The `list_for_each_safe` loop of `release_dead_tasks_locks`, at `pos` with `n` read ahead. -/
def releaseLoop (running : Pid → Bool) : Nat → Mem → UInt32 → UInt32 → Option Mem
  | 0, _, _, _ => none
  | fuel + 1, mem, pos, n =>
    if pos = grantedListHead then some mem
    else
      let entry := pos - grantedListField
      let mem := if running (mem (entry + pidField)).toNat then mem else listDel mem pos
      releaseLoop running fuel mem n (next mem n)

/-- The `list_for_each_safe` loop of `orientunlock_read` and `orientunlock_write`: the first
entry with a range equal to `korient`, type `type` and a pid `owner` accepts is unlinked, and
its range and then itself are `kfree`'d. -/
def unlockLoop (korient : OrientationRange) (type : UInt32) (owner : UInt32 → Bool) :
    Nat → Mem → Slab → UInt32 → UInt32 → Option (Mem × Slab)
  | 0, _, _, _, _ => none
  | fuel + 1, mem, slab, pos, n =>
    if pos = grantedListHead then some (mem, slab)
    else
      let entry := pos - grantedListField
      if rangeEquals korient (rangeAt mem (mem (entry + rangeField))) ∧ mem (entry + typeField) = type ∧
          owner (mem (entry + pidField))
      then
        let mem := listDel mem pos
        some (mem, (slab.kfree (mem (entry + rangeField))).kfree entry)
      else unlockLoop korient type owner fuel mem slab n (next mem n)

/-- The next atomic step of task `pid` at `pc`; `nomem` decides a `kmalloc` in it. -/
def taskStep (s : State) (pid : Pid) (pc : Pc) (nomem : Bool) : Option State :=
  match pc with
  | .idle => none
  | .setLockSet orient =>
    if s.setLock.isSome then none else some ({ s with setLock := some pid }.goto pid (.setCopy orient))
  | .setCopy orient =>
    let copied := copyFromUser orient
    some ({ s with mem := storeOrient s.mem currentOrientAddr copied.1 }.goto pid
      (if copied.2 then .idle else .setLockWaiters))
  | .setLockWaiters =>
    if s.waitersLock.isSome then none else some ({ s with waitersLock := some pid }.goto pid .setRelease)
  | .setRelease =>
    let first := next s.mem grantedListHead
    (releaseLoop s.isRunning s.fuel s.mem first (next s.mem first)).map fun mem =>
      let pos := next mem waitersListHead
      { s with mem := mem }.goto pid (.setLoop pos (next mem pos))
  | .setLoop pos n =>
    if pos = waitersListHead then some ({ s with waitersLock := none, setLock := none }.goto pid .idle)
    else
      let entry := pos - listField
      some (s.goto pid
        (if inRange (s.entryRange entry) (orientAt s.mem currentOrientAddr) then
          .setNoWriter pos n (s.mem (entry + rangeField)) (s.mem (entry + typeField) = typeWord .reader)
        else .setLoop n (next s.mem n)))
  | .setNoWriter pos n target reader =>
    (genericSearchList s.mem (rangeAt s.mem target) (typeWord .writer) s.fuel
        (next s.mem grantedListHead)).map fun free =>
      s.goto pid
        (if free then (if reader then .setGranted pos n else .setNoReader pos n target)
        else .setLoop n (next s.mem n))
  | .setNoReader pos n target =>
    (genericSearchList s.mem (rangeAt s.mem target) (typeWord .reader) s.fuel
        (next s.mem grantedListHead)).map fun free =>
      s.goto pid (if free then .setGranted pos n else .setLoop n (next s.mem n))
  | .setGranted pos n =>
    some ({ s with mem := Function.update s.mem (pos - listField + grantedField) 1 }.goto pid
      (.setAddGranted pos n))
  | .setAddGranted pos n =>
    some ({ s with mem := listAddTail s.mem (pos - listField + grantedListField) grantedListHead }.goto
      pid (.setDelWaiter pos n))
  | .setDelWaiter pos n => some ({ s with mem := listDel s.mem pos }.goto pid (.setWakeUp n))
  | .setWakeUp n =>
    some ({ s with tasks := fun pid => (s.tasks pid).map Task.wake }.goto pid (.setLoop n (next s.mem n)))
  | .lockRange type orient =>
    match s.slab.kmalloc sizeofOrientationRange nomem with
    | none => some (s.goto pid .idle)
    | some (korient, slab) =>
      let copied := copyFromUser orient
      some ({ s with slab := slab, mem := storeRange s.mem korient copied.1 }.goto pid
        (if copied.2 then .idle else .lockEntry type korient))
  | .lockEntry type korient =>
    let size := match type with
      | .reader => sizeofLockEntry
      | .writer => sizeofEntryPointer
    match s.slab.kmalloc size nomem with
    | none => some (s.goto pid .idle)
    | some (entry, slab) =>
      some ({ s with slab := slab, mem := initEntry s.mem entry korient pid type }.goto pid
        (.lockEnqueue entry))
  | .lockEnqueue entry =>
    if s.waitersLock.isSome then none
    else
      some ({ s with mem := listAddTail s.mem (entry + listField) waitersListHead }.goto pid
        (.lockAddWait entry))
  | .lockAddWait entry =>
    some (s.updateTask pid fun task => { task with queued := true, pc := .lockTest entry })
  | .lockTest entry =>
    if s.mem (entry + grantedField) ≠ 0 then
      some (s.updateTask pid fun task => { task with state := taskRunning, queued := false, pc := .idle })
    else some (s.goto pid (.lockPrepare entry))
  | .lockPrepare entry =>
    some (s.updateTask pid fun task =>
      { task with queued := true, state := taskInterruptible, pc := .lockSchedule entry })
  | .lockSchedule entry =>
    some (s.updateTask pid fun task =>
      { task with onRq := task.state == taskRunning, pc := .lockTest entry })
  | .unlock type orient =>
    let copied := copyFromUser orient
    if copied.2 then some (s.goto pid .idle)
    else
      -- `orientunlock_read` skips the entries of other pids; `orientunlock_write` reads no pid
      let owner : UInt32 → Bool := match type with
        | .reader => fun entryPid => entryPid = UInt32.ofNat pid
        | .writer => fun _ => true
      let first := next s.mem grantedListHead
      (unlockLoop copied.1 (typeWord type) owner s.fuel s.mem s.slab first (next s.mem first)).map
        fun freed => { s with mem := freed.1, slab := freed.2 }.goto pid .idle

/-- The machine's steps. `Slab.kmalloc` decides what each `kmalloc` returns, so the abstract
machine's `reuse` is no step here. -/
def step (s : State) : Action → Option State
  | .call pid syscall =>
    match s.tasks pid with
    | some task =>
      if task.pc = .idle ∧ task.exitState = 0 ∧ task.onRq = true then
        some (s.goto pid (entryPc syscall))
      else none
    | none => none
  | .run pid nomem =>
    match s.tasks pid with
    | some task => if task.exitState = 0 ∧ task.onRq = true then taskStep s pid task.pc nomem else none
    | none => none
  | .reuse _ _ => none
  | .setState pid state =>
    match s.tasks pid with
    | some task =>
      if task.pc = .idle ∧ task.exitState = 0 then
        some (s.updateTask pid fun task => { task with state := state.bits, onRq := state == .running })
      else none
    | none => none
  | .exit pid =>
    match s.tasks pid with
    | some task =>
      if task.pc = .idle ∧ task.exitState = 0 then
        some (s.updateTask pid fun task =>
          { task with exitState := exitZombie, state := taskDead, onRq := false })
      else none
    | none => none
  | .reap pid =>
    match s.tasks pid with
    | some task =>
      if task.exitState ≠ 0 then some { s with tasks := Function.update s.tasks pid none } else none
    | none => none
  | .spawn pid =>
    match s.tasks pid with
    | some _ => none
    | none => some { s with tasks := Function.update s.tasks pid (some Task.new) }

def machine : Transition.Machine State Action := ⟨init, step⟩

/-- A range that `in_range` accepts at orientation 0 and that differs from `wholeRange`. -/
def rangeY : OrientationRange := ⟨default, 0, 0, 5⟩

/-- What task 2 copies over its freed entry at `heapStart + 0x60`: the `range` word points at
task 1's range object, `list.next` at the entry's own `granted_list` node, `list.prev` at
`granted_list`, and `granted_list.next` at task 1's entry. -/
def forgedRange : OrientationRange :=
  ⟨⟨heapStart.toInt32, 1, (heapStart + 0x60 + grantedListField).toInt32⟩, grantedListHead,
    heapStart + 0x20 + grantedListField, grantedListHead⟩

/-- Task 1 read-locks `wholeRange` and task 3's pass grants it. Task 2 write-locks `rangeY`;
task 3's next pass grants it and stops before `list_del(&entry->list)`. Task 2 sees the flag,
unlocks, freeing its range and then its entry, and calls `orientlock_read(&forgedRange)`, whose
`korient` is that entry. The pass then runs `list_del` on the words task 2 wrote. -/
def forgeTrace : List Action :=
  [.spawn 1, .spawn 2, .spawn 3, .call 1 (.orientlockRead (.mapped wholeRange))] ++ runs 1 4 ++
    [.call 3 (.setOrientation (.mapped default))] ++ runs 3 11 ++ runs 1 1 ++
    [.call 2 (.orientlockWrite (.mapped rangeY))] ++ runs 2 4 ++
    [.call 3 (.setOrientation (.mapped default))] ++ runs 3 9 ++ runs 2 1 ++
    [.call 2 (.orientunlockWrite (.mapped rangeY)), .run 2 false,
      .call 2 (.orientlockRead (.mapped forgedRange)), .run 2 false] ++ runs 3 3

def forged : State := (machine.run init forgeTrace).getD init

theorem reused_entry_forges_conflict :
    ∃ s, machine.Reachable s ∧ ∃ writer reader, s.grantedEntries = some [writer, reader] ∧
      s.mem (writer + typeField) = typeWord .writer ∧ s.mem (reader + typeField) = typeWord .reader ∧
      rangeEquals (s.entryRange writer) (s.entryRange reader) = true :=
  ⟨forged, Transition.Machine.Reachable.of_run_getD (by decide +kernel), heapStart + 0x60,
    heapStart + 0x20, by decide +kernel⟩

end Memory

end OrientLock
