import OrientLock.Heap
import OrientLock.Pass

set_option autoImplicit false

/- Mutual exclusion of the granted locks over every interleaving of the syscalls. Entries only
enter `granted_list` at `grant_lock`'s `list_add_tail`, after the waiter loop has checked the
list; between the checks and the append the list only shrinks, and `WAITERS_LOCK` keeps a
second pass out. `SET_LOCK` likewise keeps `current_orient` as the loop's `in_range` test saw
it until the grant. -/
namespace OrientLock

/-- Two acquisitions that may not be held at once: equal ranges, one of them a write lock. -/
def Acquisition.Conflict (a b : Acquisition) : Prop :=
  (a.type = .writer ∨ b.type = .writer) ∧ a.range = b.range

instance (a b : Acquisition) : Decidable (a.Conflict b) := inferInstanceAs (Decidable (_ ∧ _))

/-- Acquisitions no two of which conflict. -/
def Compatible (acquired : List Acquisition) : Prop := acquired.Pairwise fun a b => ¬ a.Conflict b

/-- What the waiter loop has checked about `current` and relies on until the append: after
`no_writer_grabbed` no granted writer has its range, after both checks nothing granted
conflicts with it. -/
def Checked (s : Kernel) : Pc → Prop
  | .setNoReader current _ =>
    ∀ g ∈ s.grantedList, (s.item g).type = .writer → (s.item g).range ≠ (s.item current).range
  | .setGranted current _ | .setAddGranted current _ =>
    ∀ g ∈ s.grantedList, ¬ (s.item g).Conflict (s.item current)
  | _ => True

structure Safe (s : Kernel) : Prop where
  bounded : Bounded s
  owned : waitersLockSpin.Owned s
  compatible : Compatible s.view
  checked : ∀ pid task, s.tasks pid = some task → Checked s task.pc

@[simp] theorem checked_updateTask (s : Kernel) (pid : Pid) (f : Task → Task) (pc : Pc) :
    Checked (s.updateTask pid f) pc ↔ Checked s pc := Iff.rfl

@[simp] theorem setGranted_item (s : Kernel) (entry p : Ptr) : (setGranted s entry).item p = s.item p := by
  simp [Kernel.item]

theorem checked_of_outside {s : Kernel} {pc : Pc} (outside : pc.holdsWaitersLock = false) :
    Checked s pc := by
  cases pc <;> simp_all [Pc.holdsWaitersLock, Checked]

theorem Checked.transport {s t : Kernel} {pc : Pc} (checked : Checked s pc)
    (fewer : ∀ g ∈ t.grantedList, g ∈ s.grantedList)
    (items : ∀ g ∈ s.grantedList, t.item g = s.item g)
    (locals : ∀ entry ∈ pc.entryPtrs, t.item entry = s.item entry) : Checked t pc := by
  cases pc with
  | setNoReader current rest =>
    intro g inside
    have old := fewer g inside
    rw [items g old, locals current (by simp [Pc.entryPtrs])]
    exact checked g old
  | setGranted current rest =>
    intro g inside
    have old := fewer g inside
    rw [items g old, locals current (by simp [Pc.entryPtrs])]
    exact checked g old
  | setAddGranted current rest =>
    intro g inside
    have old := fewer g inside
    rw [items g old, locals current (by simp [Pc.entryPtrs])]
    exact checked g old
  | _ => trivial

theorem view_sublist {s t : Kernel} (fewer : t.grantedList.Sublist s.grantedList)
    (items : ∀ g ∈ s.grantedList, t.item g = s.item g) : t.view.Sublist s.view := by
  have same : t.grantedList.map t.item = t.grantedList.map s.item :=
    List.map_congr_left fun g inside => items g (fewer.subset inside)
  simp only [Kernel.view, same]
  exact fewer.map s.item

section Steps

variable {s t : Kernel} {pid : Pid} {task : Task} {alloc : Alloc}

theorem Kernel.item_taskStep {pc : Pc} (stepped : taskStep s pid pc alloc = some t) {entry : Ptr}
    (keeps : s.Keeps alloc entry ∧ s.Keeps alloc (s.entries entry).range) : t.item entry = s.item entry := by
  obtain ⟨sameType, sameRange, -⟩ := taskStep_entries_of_keeps stepped keeps.1
  simp only [Kernel.item, Kernel.rangeOf, sameType, sameRange, taskStep_ranges_of_keeps stepped keeps.2]

theorem taskStep_grantedList_sublist (stepped : taskStep s pid task.pc alloc = some t)
    (notAdding : ∀ current rest, task.pc ≠ .setAddGranted current rest) :
    t.grantedList.Sublist s.grantedList := by
  rcases taskStep_grantedList stepped with same | ⟨_, released⟩ | ⟨current, rest, adding, _⟩ |
    ⟨_, _, entry, _, erased⟩
  · exact same ▸ List.Sublist.refl s.grantedList
  · rw [released, releaseDeadTasksLocks_grantedList]
    exact List.filter_sublist
  · exact absurd adding (notAdding current rest)
  · rw [erased]
    exact List.erase_sublist

theorem compatible_taskStep (safe : Safe s) (heap : s.HeapSound) (own : s.tasks pid = some task)
    (clear : alloc.Clear s task.pc) (stepped : taskStep s pid task.pc alloc = some t) :
    Compatible t.view := by
  have items : ∀ g ∈ s.grantedList, t.item g = s.item g := fun g inside =>
    Kernel.item_taskStep stepped (heap.keeps_tracked safe.bounded clear (.inl inside))
  by_cases adding : ∃ current rest, task.pc = .setAddGranted current rest
  · obtain ⟨current, rest, pc⟩ := adding
    have checked := safe.checked pid task own
    rw [pc] at checked stepped
    cases stepped
    simp only [Compatible, Kernel.view, Kernel.goto_eq, Kernel.updateTask_grantedList,
      addGranted_grantedList, List.map_append, List.map_singleton, List.pairwise_append,
      List.pairwise_singleton, List.mem_singleton, forall_eq, true_and]
    have sameItem : ∀ g, (Kernel.updateTask (addGranted s current) pid
        fun task => { task with pc := .setDelWaiter current rest }).item g = s.item g := fun _ => rfl
    simp only [sameItem, List.mem_map]
    refine ⟨safe.compatible, ?_⟩
    rintro _ ⟨g, inside, rfl⟩
    exact checked g inside
  · simp only [not_exists] at adding
    exact safe.compatible.sublist (view_sublist (taskStep_grantedList_sublist stepped adding) items)

theorem noWriter_of_grabbed {s : Kernel} {current : Ptr}
    (free : noWriterGrabbed s (s.rangeOf current) = true) :
    ∀ g ∈ s.grantedList, (s.item g).type = .writer → (s.item g).range ≠ (s.item current).range := by
  intro g inside writer equal
  have found : noWriterGrabbed s (s.rangeOf current) = false := by
    rw [noWriterGrabbed, genericSearchList_eq_false_iff]
    exact ⟨g, inside, writer, (rangeEquals_iff _ _).mpr equal⟩
  simp [found] at free

theorem noReader_of_grabbed {s : Kernel} {current : Ptr}
    (free : noReaderGrabbed s (s.rangeOf current) = true) :
    ∀ g ∈ s.grantedList, (s.item g).type = .reader → (s.item g).range ≠ (s.item current).range := by
  intro g inside reader equal
  have found : noReaderGrabbed s (s.rangeOf current) = false := by
    rw [noReaderGrabbed, genericSearchList_eq_false_iff]
    exact ⟨g, inside, reader, (rangeEquals_iff _ _).mpr equal⟩
  simp [found] at free

theorem checked_taskStep_actor (safe : Safe s) (own : s.tasks pid = some task)
    (stepped : taskStep s pid task.pc alloc = some t) {task' : Task} (after : t.tasks pid = some task') :
    Checked t task'.pc := by
  have carried := safe.checked pid task own
  cases pc : task.pc with
  | setNoWriter current rest =>
    rw [pc] at stepped
    cases stepped
    rw [Kernel.goto_pc after]
    simp only [Kernel.goto_eq, checked_updateTask]
    split
    · next free =>
      have noWriter := noWriter_of_grabbed free
      split
      · next reader =>
        rintro g inside ⟨writer, equal⟩
        have notWriter : (s.item current).type ≠ .writer := by simp [Kernel.item, reader]
        exact noWriter g inside (writer.resolve_right notWriter) equal
      · exact noWriter
    · trivial
  | setNoReader current rest =>
    rw [pc] at stepped carried
    cases stepped
    rw [Kernel.goto_pc after]
    simp only [Kernel.goto_eq, checked_updateTask]
    split
    · next free =>
      rintro g inside ⟨-, equal⟩
      cases type : (s.item g).type with
      | reader => exact noReader_of_grabbed free g inside type equal
      | writer => exact carried g inside type equal
    · trivial
  | setGranted current rest =>
    rw [pc] at stepped carried
    cases stepped
    rw [Kernel.goto_pc after]
    simp only [Kernel.goto_eq, checked_updateTask]
    intro g inside
    rw [setGranted_item, setGranted_item]
    exact carried g inside
  | _ =>
    have flow := taskStep_flow own stepped after
    rw [pc] at flow
    generalize task'.pc = next at flow
    cases flow <;> trivial

theorem checked_taskStep_other (safe : Safe s) (heap : s.HeapSound) (own : s.tasks pid = some task)
    (clear : alloc.Clear s task.pc) (stepped : taskStep s pid task.pc alloc = some t) {other : Pid}
    (different : other ≠ pid)
    {task' : Task} (after : t.tasks other = some task') : Checked t task'.pc := by
  obtain ⟨before, was, samePc⟩ := taskStep_other stepped different after
  rw [← samePc]
  cases inside : before.pc.holdsWaitersLock
  · exact checked_of_outside inside
  · have notAdding : ∀ current rest, task.pc ≠ .setAddGranted current rest := by
      intro current rest adding
      have mine := safe.owned pid task own (by simp [waitersLockSpin, adding, Pc.holdsWaitersLock])
      rw [safe.owned other before was inside, Option.some.injEq] at mine
      exact different mine
    have fewer := taskStep_grantedList_sublist stepped notAdding
    refine (safe.checked other before was).transport (fun g inside => fewer.subset inside) ?_ ?_
    · exact fun g inside => Kernel.item_taskStep stepped (heap.keeps_tracked safe.bounded clear (.inl inside))
    · exact fun entry local_ => Kernel.item_taskStep stepped
        (heap.keeps_queued safe.bounded clear was inside local_)

theorem safe_taskStep (safe : Safe s) (heap : s.HeapSound) (own : s.tasks pid = some task)
    (clear : alloc.Clear s task.pc) (stepped : taskStep s pid task.pc alloc = some t) : Safe t := by
  refine ⟨bounded_taskStep safe.bounded own stepped,
    waitersLockSpin_sound.owned_taskStep safe.owned own stepped,
    compatible_taskStep safe heap own clear stepped, ?_⟩
  intro other task' after
  by_cases actor : other = pid
  · subst actor
    exact checked_taskStep_actor safe own stepped after
  · exact checked_taskStep_other safe heap own clear stepped actor after

end Steps

theorem safe_step {s t : Kernel} {a : Action} (safe : Safe s) (heap : s.HeapSound)
    (stepped : step s a = some t) : Safe t := by
  rcases acting : a.taskAlloc? with _ | ⟨pid, alloc⟩
  · have bounded := bounded_step safe.bounded stepped
    have owned := waitersLockSpin_sound.owned_step safe.owned stepped
    obtain ⟨tasks, rfl, others, actor⟩ := step_env acting stepped
    refine ⟨bounded, owned, safe.compatible, ?_⟩
    intro pid task' after
    by_cases same : pid = a.pid
    · subst same
      apply checked_of_outside
      rcases actor task' after with idle | ⟨call, entered⟩
      · rw [idle]
        exact waitersLockSpin_sound.idle
      · rw [entered]
        exact waitersLockSpin_sound.entry call
    · exact safe.checked pid task' (others pid same ▸ after)
  · obtain ⟨task, own, -, clear, stepped⟩ := step_task stepped acting
    exact safe_taskStep safe heap own clear stepped

theorem safe_init : Safe Kernel.init where
  bounded := bounded_init
  owned := SpinLock.owned_init
  compatible := List.Pairwise.nil
  checked := by
    intro pid task none_
    simp [Kernel.init] at none_

theorem Safe.stable : machine.Stable fun s => Safe s ∧ s.HeapSound := by
  rintro _ _ _ ⟨safe, heap⟩ stepped
  exact ⟨safe_step safe heap stepped, heap.step safe.bounded safe.owned stepped⟩

theorem safe_of_reachable {s : Kernel} (reachable : Reachable s) : Safe s :=
  (Transition.Machine.invariant_of_stable ⟨safe_init, Kernel.HeapSound.init⟩ Safe.stable s reachable).1

/-- No writer entry of `granted_list` shares its range with another entry, in every state that
an interleaving of the five syscalls, the waiter loops and the environment reaches. -/
theorem grantedList_exclusive (s : Kernel) (reachable : Reachable s) :
    s.grantedList.Pairwise fun a b =>
      ((s.entries a).type = .writer ∨ (s.entries b).type = .writer) →
        rangeEquals (s.rangeOf a) (s.rangeOf b) = false := by
  have compatible := (safe_of_reachable reachable).compatible
  simp only [Compatible, Kernel.view, List.pairwise_map] at compatible
  refine compatible.imp ?_
  intro a b noConflict writer
  cases equal : rangeEquals (s.rangeOf a) (s.rangeOf b)
  · rfl
  · exact (noConflict ⟨writer, (rangeEquals_iff _ _).mp equal⟩).elim

/-- Tasks 1 and 2 call `orientlock_read(&wholeRange)` and wait; task 3's `set_orientation`
grants both. -/
def twoReadersTrace : List Action :=
  [.spawn 1, .spawn 2, .spawn 3, .call 1 (.orientlockRead (.mapped wholeRange))] ++ runs 1 4 ++
    [.call 2 (.orientlockRead (.mapped wholeRange))] ++ runs 2 4 ++
    [.call 3 (.setOrientation (.mapped default))] ++ runs 3 17

def twoReaders : Kernel := (machine.run machine.init twoReadersTrace).getD Kernel.init

theorem grantedList_exclusive_twoReaders :
    twoReaders.grantedList.length = 2 ∧
      twoReaders.grantedList.Pairwise fun a b =>
        ((twoReaders.entries a).type = .writer ∨ (twoReaders.entries b).type = .writer) →
          rangeEquals (twoReaders.rangeOf a) (twoReaders.rangeOf b) = false :=
  ⟨by decide +kernel,
    grantedList_exclusive twoReaders (Transition.Machine.Reachable.of_run_getD (by decide +kernel))⟩

/-- The entry a task of the waiter loop has found in range and is deciding on, from
`no_writer_grabbed` to `atomic_set`. -/
def Pc.deciding : Pc → Option Ptr
  | .setNoWriter current _ | .setNoReader current _ | .setGranted current _ => some current
  | _ => none

theorem Pc.holdsSetLock_of_deciding {pc : Pc} {current : Ptr} (deciding : pc.deciding = some current) :
    pc.holdsSetLock = true := by
  cases pc <;> simp_all [Pc.deciding, Pc.holdsSetLock]

theorem Pc.holdsWaitersLock_of_deciding {pc : Pc} {current : Ptr} (deciding : pc.deciding = some current) :
    pc.holdsWaitersLock = true := by
  cases pc <;> simp_all [Pc.deciding, Pc.holdsWaitersLock]

theorem Pc.deciding_mem_entryPtrs {pc : Pc} {current : Ptr} (deciding : pc.deciding = some current) :
    current ∈ pc.entryPtrs := by
  cases pc <;> simp_all [Pc.deciding, Pc.entryPtrs]

/-- `process_waiter`'s `in_range` test still holds for the entry each task is deciding on. The
waiter loop runs under `SET_LOCK`, under which alone `current_orient` is written, and an
allocated entry keeps its range. -/
structure Decided (s : Kernel) : Prop where
  bounded : Bounded s
  owned : setLockSpin.Owned s
  tested : ∀ pid task current, s.tasks pid = some task → task.pc.deciding = some current →
    inRange (s.rangeOf current) s.currentOrient = true

section Steps

variable {s t : Kernel} {pid : Pid} {task : Task} {alloc : Alloc}

theorem Decided.taskStep_actor (decided : Decided s) (own : s.tasks pid = some task)
    (stepped : taskStep s pid task.pc alloc = some t) {task' : Task} (after : t.tasks pid = some task')
    {current : Ptr} (deciding : task'.pc.deciding = some current) :
    inRange (t.rangeOf current) t.currentOrient = true := by
  have carried := fun current => decided.tested pid task current own
  cases pc : task.pc with
  | setLoop rest =>
    rw [pc] at stepped
    cases rest with
    | nil =>
      cases stepped
      rw [Kernel.goto_pc after] at deciding
      cases deciding
    | cons next rest =>
      cases stepped
      rw [Kernel.goto_pc after] at deciding
      simp only [Kernel.goto_eq, Kernel.updateTask_rangeOf, Kernel.updateTask_currentOrient]
      split at deciding
      · next tested =>
        cases deciding
        exact tested
      · cases deciding
  | setNoWriter next rest =>
    rw [pc] at stepped carried
    cases stepped
    rw [Kernel.goto_pc after] at deciding
    simp only [Kernel.goto_eq, Kernel.updateTask_rangeOf, Kernel.updateTask_currentOrient]
    have same : current = next := by
      split at deciding
      · split at deciding <;> simpa [Pc.deciding] using deciding.symm
      · cases deciding
    subst same
    exact carried current rfl
  | setNoReader next rest =>
    rw [pc] at stepped carried
    cases stepped
    rw [Kernel.goto_pc after] at deciding
    simp only [Kernel.goto_eq, Kernel.updateTask_rangeOf, Kernel.updateTask_currentOrient]
    have same : current = next := by
      split at deciding
      · simpa [Pc.deciding] using deciding.symm
      · cases deciding
    subst same
    exact carried current rfl
  | _ =>
    have flow := taskStep_flow own stepped after
    rw [pc] at flow
    generalize task'.pc = next at flow deciding
    cases flow <;> cases deciding

theorem Decided.taskStep_other (decided : Decided s) (heap : s.HeapSound) (own : s.tasks pid = some task)
    (clear : alloc.Clear s task.pc) (stepped : taskStep s pid task.pc alloc = some t) {other : Pid}
    (different : other ≠ pid)
    {task' : Task} (after : t.tasks other = some task') {current : Ptr}
    (deciding : task'.pc.deciding = some current) :
    inRange (t.rangeOf current) t.currentOrient = true := by
  obtain ⟨before, was, samePc⟩ := OrientLock.taskStep_other stepped different after
  rw [← samePc] at deciding
  have holds := Pc.holdsSetLock_of_deciding deciding
  have orient : t.currentOrient = s.currentOrient := by
    rcases taskStep_currentOrient stepped with same | ⟨orient, copying⟩
    · exact same
    · have mine := decided.owned pid task own (by simp [setLockSpin, copying, Pc.holdsSetLock])
      rw [decided.owned other before was holds, Option.some.injEq] at mine
      exact absurd mine different
  have range : t.rangeOf current = s.rangeOf current :=
    congrArg Acquisition.range (Kernel.item_taskStep stepped (heap.keeps_queued decided.bounded clear was
      (Pc.holdsWaitersLock_of_deciding deciding) (Pc.deciding_mem_entryPtrs deciding)))
  rw [orient, range]
  exact decided.tested other before current was deciding

theorem Decided.taskStep (decided : Decided s) (heap : s.HeapSound) (own : s.tasks pid = some task)
    (clear : alloc.Clear s task.pc) (stepped : OrientLock.taskStep s pid task.pc alloc = some t) :
    Decided t := by
  refine ⟨bounded_taskStep decided.bounded own stepped,
    setLockSpin_sound.owned_taskStep decided.owned own stepped, ?_⟩
  intro other task' current after deciding
  by_cases actor : other = pid
  · subst actor
    exact decided.taskStep_actor own stepped after deciding
  · exact decided.taskStep_other heap own clear stepped actor after deciding

end Steps

theorem Decided.step {s t : Kernel} {a : Action} (decided : Decided s) (heap : s.HeapSound)
    (stepped : step s a = some t) : Decided t := by
  rcases acting : a.taskAlloc? with _ | ⟨pid, alloc⟩
  · have bounded := bounded_step decided.bounded stepped
    have owned := setLockSpin_sound.owned_step decided.owned stepped
    obtain ⟨tasks, rfl, others, entered⟩ := step_env acting stepped
    refine ⟨bounded, owned, ?_⟩
    intro pid task current after deciding
    by_cases same : pid = a.pid
    · subst same
      rcases entered task after with idle | ⟨call, entry⟩
      · rw [idle] at deciding
        cases deciding
      · rw [entry] at deciding
        cases call <;> cases deciding
    · exact decided.tested pid task current (others pid same ▸ after) deciding
  · obtain ⟨task, own, -, clear, stepped⟩ := step_task stepped acting
    exact decided.taskStep heap own clear stepped

theorem Decided.init : Decided Kernel.init where
  bounded := bounded_init
  owned := SpinLock.owned_init
  tested := by
    intro pid task current none_
    simp [Kernel.init] at none_

/-- No decision of the waiter loop is made on a stale orientation: in every state of every
interleaving, a task of `set_orientation` anywhere from `no_writer_grabbed` to `grant_lock`'s
`atomic_set` on an entry has `current_orient` in that entry's range, as `in_range` found it. -/
theorem granting_in_range {s : Kernel} (reachable : Reachable s) {pid : Pid} {task : Task}
    {current : Ptr} {rest : List Ptr} (own : s.tasks pid = some task)
    (deciding : task.pc = .setNoWriter current rest ∨ task.pc = .setNoReader current rest ∨
      task.pc = .setGranted current rest) :
    inRange (s.rangeOf current) s.currentOrient = true := by
  have stable : machine.Stable fun s => Decided s ∧ Safe s ∧ s.HeapSound := by
    rintro _ _ _ ⟨decided, sound⟩ stepped
    exact ⟨decided.step sound.2 stepped, Safe.stable _ _ _ sound stepped⟩
  have decided := (Transition.Machine.invariant_of_stable
    ⟨Decided.init, safe_init, Kernel.HeapSound.init⟩ stable s reachable).1
  refine decided.tested pid task current own ?_
  rcases deciding with pc | pc | pc <;> rw [pc] <;> rfl

/-- Task 1 waits in `orientlock_read(&wholeRange)`; task 3's pass has found its entry in range. -/
def decidingTrace : List Action :=
  ([.spawn 1, .spawn 3, .call 1 (.orientlockRead (.mapped wholeRange))] : List Action) ++ runs 1 4 ++
    ([.call 3 (.setOrientation (.mapped default))] : List Action) ++ runs 3 5

def decidingPass : Kernel := (machine.run machine.init decidingTrace).getD Kernel.init

theorem granting_in_range_decidingPass :
    ∃ task current rest, decidingPass.tasks 3 = some task ∧ task.pc = .setNoWriter current rest ∧
      inRange (decidingPass.rangeOf current) decidingPass.currentOrient = true := by
  obtain ⟨task, own⟩ := Option.isSome_iff_exists.mp
    (show (decidingPass.tasks 3).isSome = true by decide +kernel)
  obtain ⟨current, rest, pc⟩ : ∃ current rest, task.pc = .setNoWriter current rest := by
    have checked : (decidingPass.tasks 3).map (fun task => task.pc) = some (.setNoWriter 2 []) := by
      decide +kernel
    exact ⟨2, [], by simpa [own] using checked⟩
  exact ⟨task, current, rest, own, pc,
    granting_in_range (Transition.Machine.Reachable.of_run_getD (by decide +kernel)) own (.inl pc)⟩

/-- Task 1 write-locks `wholeRange`. Task 2, which holds nothing, calls `orientunlock_write` on
the same range; it removes task 1's entry and returns 0. Task 3 then write-locks the range and
is granted, while task 1 has not unlocked. -/
def stealTrace : List Action :=
  [.spawn 1, .spawn 2, .spawn 3, .spawn 4, .call 1 (.orientlockWrite (.mapped wholeRange))] ++
    runs 1 4 ++ [.call 4 (.setOrientation (.mapped default))] ++ runs 4 12 ++ runs 1 1 ++
    [.call 2 (.orientunlockWrite (.mapped wholeRange))] ++ runs 2 1 ++
    [.call 3 (.orientlockWrite (.mapped wholeRange))] ++ runs 3 4 ++
    [.call 4 (.setOrientation (.mapped default))] ++ runs 4 12 ++ runs 3 1

/-- Task 1 write-locks `wholeRange` and is stopped (`TASK_STOPPED` has `TASK_WAKEKILL`). The next
`set_orientation` drops its entry in `release_dead_tasks_locks` and grants task 3's write lock;
task 1 is then continued, still holding its lock. -/
def stopTrace : List Action :=
  [.spawn 1, .spawn 3, .spawn 4, .call 1 (.orientlockWrite (.mapped wholeRange))] ++
    runs 1 4 ++ [.call 4 (.setOrientation (.mapped default))] ++ runs 4 12 ++ runs 1 1 ++
    [.setState 1 .stopped, .call 3 (.orientlockWrite (.mapped wholeRange))] ++ runs 3 4 ++
    [.call 4 (.setOrientation (.mapped default))] ++ runs 4 12 ++ runs 3 1 ++
    [.setState 1 .running]

/-- Two tasks hold write locks of one range at once, reached through either defect. -/
theorem writeLock_held_twice :
    (∃ s, machine.run machine.init stealTrace = some s ∧
      s.Holds 1 ⟨.writer, wholeRange⟩ ∧ s.Holds 3 ⟨.writer, wholeRange⟩) ∧
    (∃ s, machine.run machine.init stopTrace = some s ∧
      s.Holds 1 ⟨.writer, wholeRange⟩ ∧ s.Holds 3 ⟨.writer, wholeRange⟩) := by
  constructor
  · obtain ⟨s, ran, both⟩ := Transition.Machine.run_of_test
      (show (machine.run machine.init stealTrace).map
        (fun s => decide (s.Holds 1 ⟨.writer, wholeRange⟩ ∧ s.Holds 3 ⟨.writer, wholeRange⟩)) =
          some true by decide +kernel)
    exact ⟨s, ran, of_decide_eq_true both⟩
  · obtain ⟨s, ran, both⟩ := Transition.Machine.run_of_test
      (show (machine.run machine.init stopTrace).map
        (fun s => decide (s.Holds 1 ⟨.writer, wholeRange⟩ ∧ s.Holds 3 ⟨.writer, wholeRange⟩)) =
          some true by decide +kernel)
    exact ⟨s, ran, of_decide_eq_true both⟩

end OrientLock
