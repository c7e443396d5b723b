import OrientLock.Locks
import OrientLock.Lifecycle
import OrientLock.Release

set_option autoImplicit false

/- The heap under the two lists. `kmalloc` makes an object live, a new one or one an unlock has
freed, and only the unlocks `kfree` objects: the entry they unlink from `granted_list`, and its
range. A `lock_entry` has a node for each list (`list` and `granted_list`), so it may sit in
both; `grant_lock` links it into `granted_list` before it unlinks it from `waiters_list`, and an
unlock in between frees it while it is still a waiter. That is the only freed entry either list
ever holds, and no node is ever linked twice. Every object a list or a task still uses is live
or linked, so the machine's `kmalloc` never hands it out again. -/
namespace OrientLock

/-- The pass at `list_del(&entry->list)` in `grant_lock`. -/
def Kernel.Delisting (s : Kernel) (entry : Ptr) : Prop :=
  ∃ pid task rest, s.tasks pid = some task ∧ task.pc = .setDelWaiter entry rest

/-- A task at `list_add_tail(&entry->list, &waiters_list)` in `orientlock_*`. -/
def Kernel.Enqueuing (s : Kernel) (entry : Ptr) : Prop :=
  ∃ pid task, s.tasks pid = some task ∧ task.pc = .lockEnqueue entry

/-- The entries an unlock may free or a list may gain: those linked in a list, and those about
to be queued. -/
def Kernel.Tracked (s : Kernel) (entry : Ptr) : Prop :=
  entry ∈ s.grantedList ∨ entry ∈ s.waitersList ∨ s.Enqueuing entry

/-- The pass's hold on `waiters_list`: the waiter it is at and those it has still to visit are
the list's tail. -/
def Queued (waiters : List Ptr) : Pc → Prop
  | .setLoop rest | .setWakeUp rest => ∃ left, waiters = left ++ rest
  | .setNoWriter current rest | .setNoReader current rest | .setGranted current rest
  | .setAddGranted current rest | .setDelWaiter current rest =>
    ∃ left, waiters = left ++ current :: rest
  | _ => True

/-- What the heap keeps under the lists. Both lists are free of repeats; a linked entry is live,
except a waiter at the pass's `list_del`; an entry about to be queued is live, in neither list,
its task's, and its range is live. No range object of a tracked entry is itself a tracked entry
and no two tracked entries share one, so freeing a range frees nothing else tracked. A range a
task is about to store in a new entry is live, that task's alone, and neither a tracked entry nor
a tracked entry's range. -/
structure Kernel.HeapSound (s : Kernel) : Prop where
  exited : ∀ pid task, s.tasks pid = some task → task.exitState ≠ 0 → task.pc = .idle
  waitersNodup : s.waitersList.Nodup
  grantedNodup : s.grantedList.Nodup
  granted : ∀ entry ∈ s.grantedList, s.live entry = true
  waiting : ∀ entry ∈ s.waitersList,
    (s.live entry = true ∧ entry ∉ s.grantedList) ∨ s.Delisting entry
  fresh : ∀ pid task entry, s.tasks pid = some task → task.pc = .lockEnqueue entry →
    entry ∉ s.waitersList ∧ entry ∉ s.grantedList ∧ s.live entry = true ∧ (s.entries entry).pid = pid ∧
      s.live (s.entries entry).range = true
  queued : ∀ pid task, s.tasks pid = some task → Queued s.waitersList task.pc
  rangeApart : ∀ entry other, s.Tracked entry → s.Tracked other → (s.entries entry).range ≠ other
  rangesApart : ∀ entry other, s.Tracked entry → s.Tracked other → entry ≠ other →
    (s.entries entry).range ≠ (s.entries other).range
  korientApart : ∀ pid task type korient, s.tasks pid = some task → task.pc = .lockEntry type korient →
    ∀ other, s.Tracked other → korient ≠ other ∧ korient ≠ (s.entries other).range
  korientLive : ∀ pid task type korient, s.tasks pid = some task → task.pc = .lockEntry type korient →
    s.live korient = true
  korientOwned : ∀ pid other holder holder' type type' korient, s.tasks pid = some holder →
    s.tasks other = some holder' → holder.pc = .lockEntry type korient →
    holder'.pc = .lockEntry type' korient → pid = other

theorem queued_of_outside {waiters : List Ptr} {pc : Pc} (outside : pc.holdsWaitersLock = false) :
    Queued waiters pc := by
  cases pc <;> simp_all [Pc.holdsWaitersLock, Queued]

theorem queued_entry (waiters : List Ptr) (call : Syscall) : Queued waiters call.entry := by
  cases call <;> trivial

theorem orientunlock_unlinks (type : EntryType) (s : Kernel) (caller : Pid)
    (orient : UserPtr OrientationRange) :
    (orientunlock type s caller orient).2 = s ∨
      ∃ entry ∈ s.grantedList, (orientunlock type s caller orient).2 = unlinkGranted s entry := by
  cases orient with
  | unmapped => exact .inl (by rw [orientunlock_unmapped])
  | mapped range =>
    rcases orientunlock_mapped type s caller range with same | ⟨entry, inside, -, -, found⟩
    · exact .inl same
    · exact .inr ⟨entry, inside, by rw [found]⟩

section Frame

variable {s t : Kernel} {pid : Pid} {pc : Pc} {alloc : Alloc}

theorem taskStep_live (stepped : taskStep s pid pc alloc = some t) {object : Ptr}
    (alive : s.live object = true) :
    t.live object = true ∨ ∃ type orient entry, pc = .unlock type orient ∧ entry ∈ s.grantedList ∧
      t.grantedList = s.grantedList.erase entry ∧ (object = entry ∨ object = (s.entries entry).range) := by
  cases pc with
  | lockRange type orient =>
    cases stepped
    exact .inl (by simpa using allocRange_live_of_live s orient alloc alive)
  | lockEntry type korient =>
    cases stepped
    exact .inl (by simpa using allocEntry_live_of_live s type pid korient alloc alive)
  | unlock type orient =>
    cases stepped
    rcases orientunlock_unlinks type s pid orient with same | ⟨entry, inside, unlinked⟩
    · exact .inl (by simp [same, alive])
    · by_cases freed : object = entry ∨ object = (s.entries entry).range
      · exact .inr ⟨type, orient, entry, rfl, inside, by simp [unlinked], freed⟩
      · left
        simp only [not_or] at freed
        simp [unlinked, unlinkGranted, Kernel.kfree, freed.1, freed.2, alive]
  | setLoop rest =>
    left
    cases rest <;> cases stepped <;> simp [alive]
  | _ =>
    left
    revert stepped
    simp only [taskStep]
    repeat' split
    all_goals
      intro stepped
      cases stepped
      try simp [alive]

end Frame

section Steps

variable {s t : Kernel} {pid : Pid} {task : Task} {alloc : Alloc}

theorem Kernel.Tracked.allocated (bounded : Bounded s) {entry : Ptr} (tracked : s.Tracked entry) :
    s.Allocated entry := by
  rcases tracked with inGranted | inWaiters | ⟨pid, task, own, pc⟩
  · exact bounded.granted entry inGranted
  · exact bounded.waiters entry inWaiters
  · exact bounded.entryLocals pid task own entry (by simp [pc, Pc.entryPtrs])

theorem Kernel.HeapSound.keeps_tracked (heap : s.HeapSound) (bounded : Bounded s) {pc : Pc}
    (clear : alloc.Clear s pc) {entry : Ptr} (tracked : s.Tracked entry) :
    s.Keeps alloc entry ∧ s.Keeps alloc (s.entries entry).range := by
  have allocated := tracked.allocated bounded
  rcases tracked with inGranted | inWaiters | ⟨other, holder, own, pc⟩
  · exact ⟨clear.keeps allocated.1 (Kernel.not_reusable_of_granted inGranted),
      clear.keeps allocated.2 (Kernel.not_reusable_range (.inr inGranted))⟩
  · exact ⟨clear.keeps allocated.1 (Kernel.not_reusable_of_waiting inWaiters),
      clear.keeps allocated.2 (Kernel.not_reusable_range (.inl inWaiters))⟩
  · obtain ⟨-, -, alive, -, rangeAlive⟩ := heap.fresh other holder entry own pc
    exact ⟨clear.keeps allocated.1 (Kernel.not_reusable_of_live alive),
      clear.keeps allocated.2 (Kernel.not_reusable_of_live rangeAlive)⟩

theorem Kernel.HeapSound.keeps_korient (heap : s.HeapSound) (bounded : Bounded s) {pc : Pc}
    (clear : alloc.Clear s pc) {other : Pid} {holder : Task} {type : EntryType} {korient : Ptr}
    (was : s.tasks other = some holder) (storing : holder.pc = .lockEntry type korient) :
    s.Keeps alloc korient :=
  clear.keeps (bounded.rangeLocals other holder was korient (by simp [storing, Pc.rangePtrs]))
    (Kernel.not_reusable_of_live (heap.korientLive other holder type korient was storing))

theorem Kernel.Delisting.holder (owned : waitersLockSpin.Owned s) {entry : Ptr}
    (delisting : s.Delisting entry) (own : s.tasks pid = some task)
    (inside : task.pc.holdsWaitersLock = true) : ∃ rest, task.pc = .setDelWaiter entry rest := by
  obtain ⟨other, before, rest, was, pc⟩ := delisting
  have held := owned other before was (by simp [waitersLockSpin, pc, Pc.holdsWaitersLock])
  rw [owned pid task own inside, Option.some.injEq] at held
  subst held
  rw [own, Option.some.injEq] at was
  subst was
  exact ⟨rest, pc⟩

theorem Kernel.Delisting.taskStep {pc : Pc} (stepped : taskStep s pid pc alloc = some t) {entry : Ptr}
    (delisting : s.Delisting entry) :
    t.Delisting entry ∨ ∃ rest task, s.tasks pid = some task ∧ task.pc = .setDelWaiter entry rest := by
  obtain ⟨other, before, rest, was, pc⟩ := delisting
  by_cases actor : other = pid
  · subst actor
    exact .inr ⟨rest, before, was, pc⟩
  · rcases taskStep_other_task stepped actor with same | ⟨-, woken⟩
    · exact .inl ⟨other, before, rest, same ▸ was, pc⟩
    · exact .inl ⟨other, before.wake, rest, by rw [woken, was]; rfl, by rw [Task.wake_pc, pc]⟩

theorem Kernel.HeapSound.adding_queued (heap : s.HeapSound) (own : s.tasks pid = some task)
    {current : Ptr} {rest : List Ptr} (pc : task.pc = .setAddGranted current rest) :
    current ∈ s.waitersList := by
  have queued := heap.queued pid task own
  rw [pc] at queued
  obtain ⟨left, split⟩ := queued
  simp [split]

theorem Kernel.HeapSound.queued_entryPtrs (heap : s.HeapSound) (own : s.tasks pid = some task)
    (holding : task.pc.holdsWaitersLock = true) {entry : Ptr} (inside : entry ∈ task.pc.entryPtrs) :
    entry ∈ s.waitersList := by
  have queued := heap.queued pid task own
  cases pc : task.pc <;> rw [pc] at holding inside queued <;>
    simp only [Pc.holdsWaitersLock, Pc.entryPtrs, Queued, Bool.false_eq_true, List.not_mem_nil]
      at holding inside queued
  all_goals
    obtain ⟨left, split⟩ := queued
    simp [split, inside]

theorem Kernel.HeapSound.keeps_queued (heap : s.HeapSound) (bounded : Bounded s) {pc : Pc}
    (clear : alloc.Clear s pc) {other : Pid} {holder : Task} (was : s.tasks other = some holder)
    (holding : holder.pc.holdsWaitersLock = true) {entry : Ptr} (inside : entry ∈ holder.pc.entryPtrs) :
    s.Keeps alloc entry ∧ s.Keeps alloc (s.entries entry).range :=
  heap.keeps_tracked bounded clear (.inr (.inl (heap.queued_entryPtrs was holding inside)))

theorem Kernel.HeapSound.adding (heap : s.HeapSound) (owned : waitersLockSpin.Owned s)
    (own : s.tasks pid = some task) {current : Ptr} {rest : List Ptr}
    (pc : task.pc = .setAddGranted current rest) : s.live current = true ∧ current ∉ s.grantedList := by
  rcases heap.waiting current (heap.adding_queued own pc) with ready | delisting
  · exact ready
  · obtain ⟨_, deleting⟩ := delisting.holder owned own (by simp [pc, Pc.holdsWaitersLock])
    rw [pc] at deleting
    cases deleting

theorem taskStep_setAddGranted_delisting (own : s.tasks pid = some task) {entry : Ptr}
    {rest : List Ptr} (pc : task.pc = .setAddGranted entry rest)
    (stepped : taskStep s pid task.pc alloc = some t) : t.Delisting entry := by
  rw [pc] at stepped
  cases stepped
  exact ⟨pid, { task with pc := .setDelWaiter entry rest }, rest,
    by simp [Kernel.updateTask_tasks, own], rfl⟩

theorem Kernel.HeapSound.delWaiter_gone (heap : s.HeapSound) {entry : Ptr} {rest : List Ptr}
    (pc : task.pc = .setDelWaiter entry rest) (stepped : taskStep s pid task.pc alloc = some t) :
    entry ∉ t.waitersList := by
  rw [pc] at stepped
  cases stepped
  simpa using heap.waitersNodup.not_mem_erase

theorem Kernel.Tracked.of_taskStep (heap : s.HeapSound) (own : s.tasks pid = some task)
    (stepped : taskStep s pid task.pc alloc = some t) {entry : Ptr} (tracked : t.Tracked entry) :
    s.Tracked entry ∨ ∃ type korient task', task.pc = .lockEntry type korient ∧ s.Hands alloc entry ∧
      (t.entries entry).range = korient ∧ t.tasks pid = some task' ∧ task'.pc = .lockEnqueue entry := by
  rcases tracked with inGranted | inWaiters | ⟨other, task', after, enqueuing⟩
  · rcases taskStep_grantedList stepped with same | ⟨-, released⟩ | ⟨current, rest, pc, appended⟩ |
      ⟨_, _, removed, _, erased⟩
    · exact .inl (.inl (same ▸ inGranted))
    · rw [released, releaseDeadTasksLocks_grantedList, List.mem_filter] at inGranted
      exact .inl (.inl inGranted.1)
    · rw [appended, List.mem_append, List.mem_singleton] at inGranted
      rcases inGranted with old | rfl
      · exact .inl (.inl old)
      · exact .inl (.inr (.inl (heap.adding_queued own pc)))
    · exact .inl (.inl (List.mem_of_mem_erase (erased ▸ inGranted)))
  · rcases taskStep_waitersList stepped with same | ⟨current, rest, -, erased⟩ |
      ⟨added, pc, -, appended⟩
    · exact .inl (.inr (.inl (same ▸ inWaiters)))
    · exact .inl (.inr (.inl (List.mem_of_mem_erase (erased ▸ inWaiters))))
    · rw [appended, List.mem_append, List.mem_singleton] at inWaiters
      rcases inWaiters with old | rfl
      · exact .inl (.inr (.inl old))
      · exact .inl (.inr (.inr ⟨pid, task, own, pc⟩))
  · by_cases actor : other = pid
    · subst actor
      obtain ⟨type, korient, pc, hands, -, written, -⟩ := taskStep_actor_enqueuing own stepped after enqueuing
      exact .inr ⟨type, korient, task', pc, hands, by simp [written], after, enqueuing⟩
    · obtain ⟨before, was, samePc⟩ := taskStep_other stepped actor after
      exact .inl (.inr (.inr ⟨other, before, was, samePc.trans enqueuing⟩))

theorem Kernel.HeapSound.tracked_taskStep (heap : s.HeapSound) (bounded : Bounded s)
    (own : s.tasks pid = some task) (clear : alloc.Clear s task.pc)
    (stepped : taskStep s pid task.pc alloc = some t) {entry : Ptr} (tracked : t.Tracked entry) :
    (s.Tracked entry ∧ (t.entries entry).range = (s.entries entry).range ∧
        (t.entries entry).pid = (s.entries entry).pid) ∨
      ∃ type korient task', task.pc = .lockEntry type korient ∧ s.Hands alloc entry ∧
        (t.entries entry).range = korient ∧ t.tasks pid = some task' ∧ task'.pc = .lockEnqueue entry := by
  refine (tracked.of_taskStep heap own stepped).imp_left fun old => ⟨old, ?_⟩
  exact (taskStep_entries_of_keeps stepped (heap.keeps_tracked bounded clear old).1).2

theorem storing_taskStep (own : s.tasks pid = some task) (stepped : taskStep s pid task.pc alloc = some t)
    {other : Pid} {holder : Task} {type : EntryType} {korient : Ptr} (after : t.tasks other = some holder)
    (storing : holder.pc = .lockEntry type korient) :
    (other = pid ∧ s.Hands alloc korient ∧ t.live korient = true) ∨
      ∃ before, other ≠ pid ∧ s.tasks other = some before ∧ before.pc = .lockEntry type korient := by
  by_cases actor : other = pid
  · subst actor
    obtain ⟨hands, -, alive⟩ :=
      taskStep_actor_rangePtrs own stepped after (show korient ∈ holder.pc.rangePtrs by simp [storing, Pc.rangePtrs])
    exact .inl ⟨rfl, hands, alive⟩
  · obtain ⟨before, was, samePc⟩ := taskStep_other stepped actor after
    exact .inr ⟨before, actor, was, samePc.trans storing⟩

theorem Kernel.HeapSound.ready_taskStep (heap : s.HeapSound) (stepped : taskStep s pid task.pc alloc = some t)
    {entry : Ptr} (alive : s.live entry = true) (notLinked : entry ∉ s.grantedList)
    (tracked : s.Tracked entry) :
    (t.live entry = true ∧ entry ∉ t.grantedList) ∨ ∃ rest, task.pc = .setAddGranted entry rest := by
  have live : t.live entry = true := by
    rcases taskStep_live stepped alive with kept | ⟨_, _, removed, _, inside, _, freed⟩
    · exact kept
    · rcases freed with rfl | range
      · exact absurd inside notLinked
      · exact absurd range.symm (heap.rangeApart removed entry (.inl inside) tracked)
  rcases taskStep_grantedList stepped with same | ⟨-, released⟩ | ⟨current, rest, pc, appended⟩ |
    ⟨_, _, removed, _, erased⟩
  · exact .inl ⟨live, same ▸ notLinked⟩
  · refine .inl ⟨live, ?_⟩
    rw [released, releaseDeadTasksLocks_grantedList, List.mem_filter]
    exact fun kept => notLinked kept.1
  · by_cases same : entry = current
    · subst same
      exact .inr ⟨rest, pc⟩
    · refine .inl ⟨live, ?_⟩
      rw [appended, List.mem_append, List.mem_singleton]
      rintro (old | added)
      · exact notLinked old
      · exact same added
  · exact .inl ⟨live, fun kept => notLinked (List.mem_of_mem_erase (erased ▸ kept))⟩

theorem Kernel.HeapSound.exited_taskStep (heap : s.HeapSound) (own : s.tasks pid = some task)
    (alive : task.exitState = 0) (stepped : taskStep s pid task.pc alloc = some t) :
    ∀ other task', t.tasks other = some task' → task'.exitState ≠ 0 → task'.pc = .idle := by
  intro other task' after exited
  by_cases actor : other = pid
  · subst actor
    exact absurd ((taskStep_actor_state own stepped after).1.trans alive) exited
  · rcases taskStep_other_task stepped actor with same | ⟨-, woken⟩
    · exact heap.exited other task' (same ▸ after) exited
    · rw [woken] at after
      obtain ⟨before, was, rfl⟩ := Option.map_eq_some_iff.mp after
      rw [Task.wake_pc]
      exact heap.exited other before was (by simpa using exited)

theorem Kernel.HeapSound.waitersNodup_taskStep (heap : s.HeapSound) (own : s.tasks pid = some task)
    (stepped : taskStep s pid task.pc alloc = some t) : t.waitersList.Nodup := by
  rcases taskStep_waitersList stepped with same | ⟨current, -, -, erased⟩ | ⟨entry, enqueuing, -, appended⟩
  · rw [same]
    exact heap.waitersNodup
  · rw [erased]
    exact heap.waitersNodup.erase current
  · rw [appended, ← List.concat_eq_append]
    exact heap.waitersNodup.concat (heap.fresh pid task entry own enqueuing).1

theorem Kernel.HeapSound.granted_taskStep (heap : s.HeapSound) (owned : waitersLockSpin.Owned s)
    (own : s.tasks pid = some task)
    (stepped : taskStep s pid task.pc alloc = some t) :
    t.grantedList.Nodup ∧ ∀ entry ∈ t.grantedList, t.live entry = true := by
  have stays : ∀ entry ∈ s.grantedList, entry ∈ t.grantedList → t.live entry = true := by
    intro entry old now
    rcases taskStep_live stepped (heap.granted entry old) with alive |
      ⟨_, _, removed, _, inside, erased, freed⟩
    · exact alive
    · rw [erased] at now
      rcases freed with rfl | range
      · exact absurd now heap.grantedNodup.not_mem_erase
      · exact absurd range.symm (heap.rangeApart removed entry (.inl inside) (.inl old))
  rcases taskStep_grantedList stepped with same | ⟨-, released⟩ | ⟨current, rest, pc, appended⟩ |
    ⟨_, _, removed, _, erased⟩
  · exact ⟨same ▸ heap.grantedNodup, fun entry now => stays entry (same ▸ now) now⟩
  · have sub : t.grantedList.Sublist s.grantedList := by
      rw [released, releaseDeadTasksLocks_grantedList]
      exact List.filter_sublist
    exact ⟨heap.grantedNodup.sublist sub, fun entry now => stays entry (sub.subset now) now⟩
  · obtain ⟨ready, notLinked⟩ := heap.adding owned own pc
    refine ⟨by rw [appended, ← List.concat_eq_append]; exact heap.grantedNodup.concat notLinked, ?_⟩
    intro entry now
    have split := now
    rw [appended, List.mem_append, List.mem_singleton] at split
    rcases split with old | rfl
    · exact stays entry old now
    · rcases taskStep_live stepped ready with alive | ⟨_, _, _, unlocking, -⟩
      · exact alive
      · rw [pc] at unlocking
        cases unlocking
  · have sub : t.grantedList.Sublist s.grantedList := by
      rw [erased]
      exact List.erase_sublist
    exact ⟨heap.grantedNodup.sublist sub, fun entry now => stays entry (sub.subset now) now⟩

theorem Kernel.HeapSound.waiting_taskStep (heap : s.HeapSound) (own : s.tasks pid = some task)
    (stepped : taskStep s pid task.pc alloc = some t) :
    ∀ entry ∈ t.waitersList, (t.live entry = true ∧ entry ∉ t.grantedList) ∨ t.Delisting entry := by
  intro entry now
  have ready : s.live entry = true → entry ∉ s.grantedList → s.Tracked entry →
      (t.live entry = true ∧ entry ∉ t.grantedList) ∨ t.Delisting entry := fun alive notLinked tracked =>
    (heap.ready_taskStep stepped alive notLinked tracked).imp_right fun ⟨_, pc⟩ =>
      taskStep_setAddGranted_delisting own pc stepped
  have old : entry ∈ s.waitersList →
      (t.live entry = true ∧ entry ∉ t.grantedList) ∨ t.Delisting entry := by
    intro inWaiters
    rcases heap.waiting entry inWaiters with ⟨alive, notLinked⟩ | delisting
    · exact ready alive notLinked (.inr (.inl inWaiters))
    · rcases delisting.taskStep stepped with kept | ⟨rest, before, was, pc⟩
      · exact .inr kept
      · rw [own, Option.some.injEq] at was
        subst was
        exact absurd now (heap.delWaiter_gone pc stepped)
  rcases taskStep_waitersList stepped with same | ⟨_, _, _, erased⟩ | ⟨added, pc, -, appended⟩
  · exact old (same ▸ now)
  · exact old (List.mem_of_mem_erase (erased ▸ now))
  · rw [appended, List.mem_append, List.mem_singleton] at now
    rcases now with inWaiters | rfl
    · exact old inWaiters
    · obtain ⟨-, notLinked, alive, -⟩ := heap.fresh pid task entry own pc
      exact ready alive notLinked (.inr (.inr ⟨pid, task, own, pc⟩))

theorem taskStep_waitersList_of_holder (owned : waitersLockSpin.Owned s) (own : s.tasks pid = some task)
    (stepped : taskStep s pid task.pc alloc = some t) {other : Pid} {holder : Task}
    (different : other ≠ pid) (was : s.tasks other = some holder)
    (inside : holder.pc.holdsWaitersLock = true) : t.waitersList = s.waitersList := by
  have held : s.waitersLock = some other := owned other holder was inside
  rcases taskStep_waitersList stepped with same | ⟨_, _, deleting, -⟩ | ⟨_, -, free, -⟩
  · exact same
  · have owner : s.waitersLock = some pid :=
      owned pid task own (by simp [waitersLockSpin, deleting, Pc.holdsWaitersLock])
    rw [held, Option.some.injEq] at owner
    exact absurd owner different
  · simp [held] at free

theorem Kernel.HeapSound.queued_taskStep_actor (heap : s.HeapSound) (own : s.tasks pid = some task)
    (stepped : taskStep s pid task.pc alloc = some t) {task' : Task} (after : t.tasks pid = some task') :
    Queued t.waitersList task'.pc := by
  have carried := heap.queued pid task own
  cases pc : task.pc with
  | setRelease =>
    rw [pc] at stepped
    cases stepped
    rw [Kernel.goto_pc after]
    exact ⟨[], rfl⟩
  | setLoop rest =>
    rw [pc] at stepped carried
    cases rest with
    | nil =>
      cases stepped
      rw [Kernel.goto_pc after]
      trivial
    | cons current rest =>
      obtain ⟨left, split⟩ := carried
      cases stepped
      rw [Kernel.goto_pc after]
      simp only [Kernel.goto_eq, Kernel.updateTask_waitersList]
      split
      · exact ⟨left, split⟩
      · exact ⟨left ++ [current], by simp [split]⟩
  | setNoWriter current rest =>
    rw [pc] at stepped carried
    obtain ⟨left, split⟩ := carried
    cases stepped
    rw [Kernel.goto_pc after]
    simp only [Kernel.goto_eq, Kernel.updateTask_waitersList]
    split
    · split <;> exact ⟨left, split⟩
    · exact ⟨left ++ [current], by simp [split]⟩
  | setNoReader current rest =>
    rw [pc] at stepped carried
    obtain ⟨left, split⟩ := carried
    cases stepped
    rw [Kernel.goto_pc after]
    simp only [Kernel.goto_eq, Kernel.updateTask_waitersList]
    split
    · exact ⟨left, split⟩
    · exact ⟨left ++ [current], by simp [split]⟩
  | setGranted current rest =>
    rw [pc] at stepped carried
    cases stepped
    rw [Kernel.goto_pc after]
    exact carried
  | setAddGranted current rest =>
    rw [pc] at stepped carried
    cases stepped
    rw [Kernel.goto_pc after]
    exact carried
  | setDelWaiter current rest =>
    rw [pc] at stepped carried
    obtain ⟨left, split⟩ := carried
    cases stepped
    rw [Kernel.goto_pc after]
    simp only [Kernel.goto_eq, Kernel.updateTask_waitersList, delWaiter_waitersList]
    have nodup := heap.waitersNodup
    rw [split] at nodup
    have notLeft : current ∉ left := fun inside =>
      (List.nodup_append.mp nodup).2.2 current inside current List.mem_cons_self rfl
    exact ⟨left, by rw [split, List.erase_append_right _ notLeft, List.erase_cons_head]⟩
  | setWakeUp rest =>
    rw [pc] at stepped carried
    cases stepped
    rw [Kernel.goto_pc after]
    exact carried
  | _ =>
    have flow := taskStep_flow own stepped after
    rw [pc] at flow
    generalize task'.pc = next at flow
    cases flow <;> trivial

theorem Kernel.HeapSound.queued_taskStep (heap : s.HeapSound) (owned : waitersLockSpin.Owned s)
    (own : s.tasks pid = some task)
    (stepped : taskStep s pid task.pc alloc = some t) :
    ∀ other task', t.tasks other = some task' → Queued t.waitersList task'.pc := by
  intro other task' after
  by_cases actor : other = pid
  · subst actor
    exact heap.queued_taskStep_actor own stepped after
  · obtain ⟨before, was, samePc⟩ := taskStep_other stepped actor after
    rw [← samePc]
    cases inside : before.pc.holdsWaitersLock
    · exact queued_of_outside inside
    · rw [taskStep_waitersList_of_holder owned own stepped actor was inside]
      exact heap.queued other before was

theorem Kernel.HeapSound.fresh_taskStep (heap : s.HeapSound) (bounded : Bounded s)
    (own : s.tasks pid = some task) (clear : alloc.Clear s task.pc)
    (stepped : taskStep s pid task.pc alloc = some t) :
    ∀ other task' entry, t.tasks other = some task' → task'.pc = .lockEnqueue entry →
      entry ∉ t.waitersList ∧ entry ∉ t.grantedList ∧ t.live entry = true ∧ (t.entries entry).pid = other ∧
        t.live (t.entries entry).range = true := by
  intro other task' entry after enqueuing
  by_cases actor : other = pid
  · subst actor
    obtain ⟨type, korient, allocating, hands, -, written, alive⟩ :=
      taskStep_actor_enqueuing own stepped after enqueuing
    have waiters : t.waitersList = s.waitersList := by
      rcases taskStep_waitersList stepped with same | ⟨_, _, deleting, -⟩ | ⟨_, enqueued, -, -⟩
      · exact same
      · simp [allocating] at deleting
      · simp [allocating] at enqueued
    have granted : t.grantedList = s.grantedList := by
      rcases taskStep_grantedList stepped with same | ⟨releasing, -⟩ | ⟨_, _, adding, -⟩ |
        ⟨_, _, _, unlocking, -⟩
      · exact same
      · simp [allocating] at releasing
      · simp [allocating] at adding
      · simp [allocating] at unlocking
    refine ⟨?_, ?_, alive, by simp [written], ?_⟩
    · rw [waiters]
      exact fun queued => hands.ne (clear.keeps (bounded.waiters entry queued).1
        (Kernel.not_reusable_of_waiting queued)) rfl
    · rw [granted]
      exact fun inside => hands.ne (clear.keeps (bounded.granted entry inside).1
        (Kernel.not_reusable_of_granted inside)) rfl
    · rw [written]
      rcases taskStep_live stepped (heap.korientLive other task type korient own allocating) with
        kept | ⟨_, _, _, unlocking, -⟩
      · exact kept
      · rw [allocating] at unlocking
        cases unlocking
  · obtain ⟨before, was, samePc⟩ := taskStep_other stepped actor after
    obtain ⟨notQueued, notLinked, alive, owner, rangeAlive⟩ :=
      heap.fresh other before entry was (samePc.trans enqueuing)
    have tracked : s.Tracked entry := .inr (.inr ⟨other, before, was, samePc.trans enqueuing⟩)
    obtain ⟨-, sameRange, samePid⟩ :=
      taskStep_entries_of_keeps stepped (heap.keeps_tracked bounded clear tracked).1
    have kept : t.live entry = true ∧ entry ∉ t.grantedList := by
      rcases heap.ready_taskStep stepped alive notLinked tracked with kept | ⟨_, adding⟩
      · exact kept
      · exact absurd (heap.adding_queued own adding) notQueued
    refine ⟨?_, kept.2, kept.1, by rw [samePid, owner], ?_⟩
    · rcases taskStep_waitersList stepped with same | ⟨current, _, _, erased⟩ |
        ⟨added, addedPc, _, appended⟩
      · rwa [same]
      · rw [erased]
        exact fun queued => notQueued (List.mem_of_mem_erase queued)
      · rw [appended, List.mem_append, List.mem_singleton]
        rintro (queued | rfl)
        · exact notQueued queued
        · have theirs := (heap.fresh pid task entry own addedPc).2.2.2.1
          rw [owner] at theirs
          exact actor theirs
    · rw [sameRange]
      rcases taskStep_live stepped rangeAlive with kept | ⟨_, _, removed, _, inside, -, freed⟩
      · exact kept
      · rcases freed with same | same
        · exact absurd same (heap.rangeApart entry removed tracked (.inl inside))
        · exact absurd same (heap.rangesApart entry removed tracked (.inl inside)
            fun equal => notLinked (equal ▸ inside))

theorem Kernel.HeapSound.rangeApart_taskStep (heap : s.HeapSound) (bounded : Bounded s)
    (own : s.tasks pid = some task) (clear : alloc.Clear s task.pc)
    (stepped : taskStep s pid task.pc alloc = some t) :
    ∀ entry other, t.Tracked entry → t.Tracked other → (t.entries entry).range ≠ other := by
  intro entry other trackedEntry trackedOther
  rcases heap.tracked_taskStep bounded own clear stepped trackedEntry with ⟨oldEntry, range, -⟩ |
    ⟨type, korient, -, pc, -, range, -⟩
  · rw [range]
    rcases trackedOther.of_taskStep heap own stepped with oldOther | ⟨-, -, -, -, hands, -⟩
    · exact heap.rangeApart entry other oldEntry oldOther
    · exact hands.ne (heap.keeps_tracked bounded clear oldEntry).2
  · rw [range]
    rcases trackedOther.of_taskStep heap own stepped with oldOther | ⟨-, -, -, -, hands, -⟩
    · exact (heap.korientApart pid task type korient own pc other oldOther).1
    · exact hands.ne (heap.keeps_korient bounded clear own pc)

theorem Kernel.HeapSound.rangesApart_taskStep (heap : s.HeapSound) (bounded : Bounded s)
    (own : s.tasks pid = some task) (clear : alloc.Clear s task.pc)
    (stepped : taskStep s pid task.pc alloc = some t) :
    ∀ entry other, t.Tracked entry → t.Tracked other → entry ≠ other →
      (t.entries entry).range ≠ (t.entries other).range := by
  intro entry other trackedEntry trackedOther different
  rcases heap.tracked_taskStep bounded own clear stepped trackedEntry with ⟨oldEntry, rangeEntry, -⟩ |
    ⟨type, korient, task', pc, -, rangeEntry, after, enqueuing⟩ <;>
  rcases heap.tracked_taskStep bounded own clear stepped trackedOther with ⟨oldOther, rangeOther, -⟩ |
    ⟨type', korient', task'', pc', -, rangeOther, after', enqueuing'⟩ <;>
  rw [rangeEntry, rangeOther]
  · exact heap.rangesApart entry other oldEntry oldOther different
  · exact (heap.korientApart pid task type' korient' own pc' entry oldEntry).2.symm
  · exact (heap.korientApart pid task type korient own pc other oldOther).2
  · rw [after, Option.some.injEq] at after'
    subst after'
    rw [enqueuing, Pc.lockEnqueue.injEq] at enqueuing'
    exact absurd enqueuing' different

theorem Kernel.HeapSound.korientApart_taskStep (heap : s.HeapSound) (bounded : Bounded s)
    (own : s.tasks pid = some task) (clear : alloc.Clear s task.pc)
    (stepped : taskStep s pid task.pc alloc = some t) :
    ∀ q task' type korient, t.tasks q = some task' → task'.pc = .lockEntry type korient →
      ∀ other, t.Tracked other → korient ≠ other ∧ korient ≠ (t.entries other).range := by
  intro q task' type korient after storing other tracked
  rcases storing_taskStep own stepped after storing with ⟨rfl, hands, -⟩ | ⟨before, actor, was, pc⟩
  · rcases heap.tracked_taskStep bounded own clear stepped tracked with ⟨old, range, -⟩ |
      ⟨_, _, _, allocating, -⟩
    · have keeps := heap.keeps_tracked bounded clear old
      rw [range]
      exact ⟨(hands.ne keeps.1).symm, (hands.ne keeps.2).symm⟩
    · have flow := taskStep_flow own stepped after
      rw [allocating, storing] at flow
      cases flow
  · rcases heap.tracked_taskStep bounded own clear stepped tracked with ⟨old, range, -⟩ |
      ⟨type', korient', -, allocating, hands, range, -⟩ <;> rw [range]
    · exact heap.korientApart q before type korient was pc other old
    · refine ⟨hands.ne (heap.keeps_korient bounded clear was pc), fun same => actor ?_⟩
      subst same
      exact heap.korientOwned q pid before task type type' korient was own pc allocating

theorem Kernel.HeapSound.korientLive_taskStep (heap : s.HeapSound) (own : s.tasks pid = some task)
    (stepped : taskStep s pid task.pc alloc = some t) :
    ∀ q task' type korient, t.tasks q = some task' → task'.pc = .lockEntry type korient →
      t.live korient = true := by
  intro q task' type korient after storing
  rcases storing_taskStep own stepped after storing with ⟨-, -, alive⟩ | ⟨before, -, was, pc⟩
  · exact alive
  · rcases taskStep_live stepped (heap.korientLive q before type korient was pc) with alive |
      ⟨_, _, removed, _, inside, -, freed⟩
    · exact alive
    · have apart := heap.korientApart q before type korient was pc removed (.inl inside)
      rcases freed with same | same
      · exact absurd same apart.1
      · exact absurd same apart.2

theorem Kernel.HeapSound.korientOwned_taskStep (heap : s.HeapSound) (bounded : Bounded s)
    (own : s.tasks pid = some task) (clear : alloc.Clear s task.pc)
    (stepped : taskStep s pid task.pc alloc = some t) :
    ∀ p q holder holder' type type' korient, t.tasks p = some holder → t.tasks q = some holder' →
      holder.pc = .lockEntry type korient → holder'.pc = .lockEntry type' korient → p = q := by
  intro p q holder holder' type type' korient after after' storing storing'
  rcases storing_taskStep own stepped after storing with ⟨rfl, hands, -⟩ | ⟨before, -, was, pc⟩ <;>
  rcases storing_taskStep own stepped after' storing' with ⟨rfl, hands', -⟩ | ⟨before', -, was', pc'⟩
  · rfl
  · exact absurd rfl (hands.ne (heap.keeps_korient bounded clear was' pc'))
  · exact absurd rfl (hands'.ne (heap.keeps_korient bounded clear was pc))
  · exact heap.korientOwned p q before before' type type' korient was was' pc pc'

theorem Kernel.HeapSound.taskStep (heap : s.HeapSound) (bounded : Bounded s)
    (owned : waitersLockSpin.Owned s) (own : s.tasks pid = some task) (alive : task.exitState = 0)
    (clear : alloc.Clear s task.pc) (stepped : taskStep s pid task.pc alloc = some t) : t.HeapSound where
  exited := heap.exited_taskStep own alive stepped
  waitersNodup := heap.waitersNodup_taskStep own stepped
  grantedNodup := (heap.granted_taskStep owned own stepped).1
  granted := (heap.granted_taskStep owned own stepped).2
  waiting := heap.waiting_taskStep own stepped
  fresh := heap.fresh_taskStep bounded own clear stepped
  queued := heap.queued_taskStep owned own stepped
  rangeApart := heap.rangeApart_taskStep bounded own clear stepped
  rangesApart := heap.rangesApart_taskStep bounded own clear stepped
  korientApart := heap.korientApart_taskStep bounded own clear stepped
  korientLive := heap.korientLive_taskStep own stepped
  korientOwned := heap.korientOwned_taskStep bounded own clear stepped

end Steps

section Env

variable {s t : Kernel} {tasks : Pid → Option Task} {acted : Pid}

theorem env_task_iff (others : ∀ other ≠ acted, tasks other = s.tasks other)
    (idle : ∀ task, s.tasks acted = some task → task.pc = .idle)
    (entered : ∀ task, tasks acted = some task → task.pc = .idle ∨ ∃ call : Syscall, task.pc = call.entry)
    {pid : Pid} {task : Task} (busy : task.pc ≠ .idle) (inside : ∀ call : Syscall, task.pc ≠ call.entry) :
    tasks pid = some task ↔ s.tasks pid = some task := by
  by_cases same : pid = acted
  · subst same
    constructor
    · intro now
      rcases entered task now with stillIdle | ⟨call, entry⟩
      · exact absurd stillIdle busy
      · exact absurd entry (inside call)
    · intro was
      exact absurd (idle task was) busy
  · rw [others pid same]

theorem Kernel.HeapSound.env_idle (heap : s.HeapSound) {a : Action}
    (notRun : a.taskAlloc? = none) (stepped : step s a = some t) :
    ∀ task, s.tasks a.pid = some task → task.pc = .idle := by
  intro task own
  by_contra busy
  by_cases alive : task.exitState = 0
  · rw [step_env_busy notRun own busy alive] at stepped
    cases stepped
  · exact busy (heap.exited _ task own alive)

theorem Kernel.HeapSound.exited_step_env (heap : s.HeapSound) {a : Action}
    (notRun : a.taskAlloc? = none) (stepped : step s a = some t) :
    ∀ pid task, t.tasks pid = some task → task.exitState ≠ 0 → task.pc = .idle := by
  have frame : ∀ (pid : Pid) (task : Task) (f : Task → Task), s.tasks pid = some task →
      ((f task).exitState ≠ 0 → (f task).pc = .idle) →
      ∀ other task', (s.updateTask pid f).tasks other = some task' → task'.exitState ≠ 0 →
        task'.pc = .idle := by
    intro pid task f own acting other task' after exited
    by_cases same : other = pid
    · subst same
      simp only [Kernel.updateTask_tasks, ite_true, own, Option.map_some, Option.some.injEq] at after
      subst after
      exact acting exited
    · rw [Kernel.updateTask_other s same] at after
      exact heap.exited other task' after exited
  cases a with
  | run | reuse => simp [Action.taskAlloc?] at notRun
  | call pid call =>
    obtain ⟨task, own, inUser, -, rfl⟩ := step_call stepped
    exact frame pid task _ own fun exited => absurd inUser.2 exited
  | setState pid state =>
    obtain ⟨task, own, inUser, rfl⟩ := step_setState stepped
    exact frame pid task _ own fun _ => inUser.1
  | exit pid =>
    obtain ⟨task, own, inUser, rfl⟩ := step_exit stepped
    exact frame pid task _ own fun _ => inUser.1
  | reap pid =>
    obtain ⟨-, -, -, rfl⟩ := step_reap stepped
    intro other task' after exited
    by_cases same : other = pid
    · subst same
      simp at after
    · exact heap.exited other task' (by simpa [Function.update_of_ne same] using after) exited
  | spawn pid =>
    obtain ⟨-, rfl⟩ := step_spawn stepped
    intro other task' after exited
    by_cases same : other = pid
    · subst same
      simp only [Function.update_self, Option.some.injEq] at after
      subst after
      rfl
    · exact heap.exited other task' (by simpa [Function.update_of_ne same] using after) exited

theorem Pc.setDelWaiter_ne_entry (entry : Ptr) (rest : List Ptr) (call : Syscall) :
    Pc.setDelWaiter entry rest ≠ call.entry := by
  cases call <;> simp [Syscall.entry]

theorem Pc.lockEnqueue_ne_entry (entry : Ptr) (call : Syscall) : Pc.lockEnqueue entry ≠ call.entry := by
  cases call <;> simp [Syscall.entry]

theorem Pc.lockEntry_ne_entry (type : EntryType) (korient : Ptr) (call : Syscall) :
    Pc.lockEntry type korient ≠ call.entry := by
  cases call <;> simp [Syscall.entry]

theorem Kernel.HeapSound.env (heap : s.HeapSound) (others : ∀ other ≠ acted, tasks other = s.tasks other)
    (idle : ∀ task, s.tasks acted = some task → task.pc = .idle)
    (entered : ∀ task, tasks acted = some task → task.pc = .idle ∨ ∃ call : Syscall, task.pc = call.entry)
    (exited : ∀ pid task, tasks pid = some task → task.exitState ≠ 0 → task.pc = .idle) :
    ({ s with tasks } : Kernel).HeapSound := by
  have delisting : ∀ entry, s.Delisting entry → ({ s with tasks } : Kernel).Delisting entry := by
    rintro entry ⟨pid, task, rest, own, pc⟩
    refine ⟨pid, task, rest, ?_, pc⟩
    exact (env_task_iff others idle entered (by simp [pc]) (pc ▸ Pc.setDelWaiter_ne_entry entry rest)).mpr own
  have tracked : ∀ entry, ({ s with tasks } : Kernel).Tracked entry → s.Tracked entry := by
    rintro entry (inGranted | inWaiters | ⟨pid, task, after, pc⟩)
    · exact .inl inGranted
    · exact .inr (.inl inWaiters)
    · refine .inr (.inr ⟨pid, task, ?_, pc⟩)
      exact (env_task_iff others idle entered (by simp [pc]) (pc ▸ Pc.lockEnqueue_ne_entry entry)).mp after
  have storing : ∀ pid task type korient, tasks pid = some task → task.pc = .lockEntry type korient →
      s.tasks pid = some task := fun pid task type korient after pc =>
    (env_task_iff others idle entered (by simp [pc]) (pc ▸ Pc.lockEntry_ne_entry type korient)).mp after
  refine ⟨exited, heap.waitersNodup, heap.grantedNodup, heap.granted, ?_, ?_, ?_, ?_, ?_, ?_, ?_, ?_⟩
  · intro entry inWaiters
    exact (heap.waiting entry inWaiters).imp_right (delisting entry)
  · intro pid task entry after pc
    exact heap.fresh pid task entry
      ((env_task_iff others idle entered (by simp [pc]) (pc ▸ Pc.lockEnqueue_ne_entry entry)).mp after) pc
  · intro pid task after
    by_cases start : task.pc = .idle ∨ ∃ call : Syscall, task.pc = call.entry
    · rcases start with stillIdle | ⟨call, entry⟩
      · rw [stillIdle]
        trivial
      · rw [entry]
        exact queued_entry _ call
    · simp only [not_or, not_exists] at start
      exact heap.queued pid task ((env_task_iff others idle entered start.1 start.2).mp after)
  · intro entry other trackedEntry trackedOther
    exact heap.rangeApart entry other (tracked entry trackedEntry) (tracked other trackedOther)
  · intro entry other trackedEntry trackedOther
    exact heap.rangesApart entry other (tracked entry trackedEntry) (tracked other trackedOther)
  · intro pid task type korient after pc other trackedOther
    exact heap.korientApart pid task type korient (storing pid task type korient after pc) pc other
      (tracked other trackedOther)
  · intro pid task type korient after pc
    exact heap.korientLive pid task type korient (storing pid task type korient after pc) pc
  · intro pid other holder holder' type type' korient after after' pc pc'
    exact heap.korientOwned pid other holder holder' type type' korient
      (storing pid holder type korient after pc) (storing other holder' type' korient after' pc') pc pc'

theorem Kernel.HeapSound.step_env (heap : s.HeapSound) {a : Action}
    (notRun : a.taskAlloc? = none) (stepped : step s a = some t) : t.HeapSound := by
  have idle := heap.env_idle notRun stepped
  have exited := heap.exited_step_env notRun stepped
  obtain ⟨tasks, rfl, others, entered⟩ := OrientLock.step_env notRun stepped
  exact heap.env others idle entered exited

end Env

theorem Kernel.HeapSound.step {s t : Kernel} (heap : s.HeapSound) (bounded : Bounded s)
    (owned : waitersLockSpin.Owned s) {a : Action} (stepped : step s a = some t) : t.HeapSound := by
  rcases acting : a.taskAlloc? with _ | ⟨pid, alloc⟩
  · exact heap.step_env acting stepped
  · obtain ⟨task, own, runnable, clear, stepped⟩ := step_task stepped acting
    exact heap.taskStep bounded owned own runnable.1 clear stepped

theorem Kernel.HeapSound.init : Kernel.init.HeapSound where
  exited := fun _ _ none_ => by simp [Kernel.init] at none_
  waitersNodup := List.nodup_nil
  grantedNodup := List.nodup_nil
  granted := fun _ inside => by simp [Kernel.init] at inside
  waiting := fun _ inside => by simp [Kernel.init] at inside
  fresh := fun _ _ _ none_ => by simp [Kernel.init] at none_
  queued := fun _ _ none_ => by simp [Kernel.init] at none_
  rangeApart := fun _ _ tracked => by
    rcases tracked with inside | inside | ⟨_, _, none_, _⟩ <;> simp [Kernel.init] at *
  rangesApart := fun _ _ tracked => by
    rcases tracked with inside | inside | ⟨_, _, none_, _⟩ <;> simp [Kernel.init] at *
  korientApart := fun _ _ _ _ none_ => by simp [Kernel.init] at none_
  korientLive := fun _ _ _ _ none_ => by simp [Kernel.init] at none_
  korientOwned := fun _ _ _ _ _ _ _ none_ => by simp [Kernel.init] at none_

/-- The heap's invariant with the two facts its steps rely on: every pointer was allocated, and
only the holder of `WAITERS_LOCK` is inside it. -/
theorem Kernel.HeapSound.stable :
    machine.Stable fun s => Bounded s ∧ waitersLockSpin.Owned s ∧ s.HeapSound := by
  rintro _ _ _ ⟨bounded, owned, heap⟩ stepped
  exact ⟨bounded_step bounded stepped, waitersLockSpin_sound.owned_step owned stepped,
    heap.step bounded owned stepped⟩

theorem Kernel.HeapSound.of_reachable {s : Kernel} (reachable : Reachable s) : s.HeapSound :=
  (Transition.Machine.invariant_of_stable ⟨bounded_init, SpinLock.owned_init, Kernel.HeapSound.init⟩
    Kernel.HeapSound.stable s reachable).2.2

/-- In every state of every interleaving neither list links a node twice, `granted_list` holds
no freed entry, and `waiters_list` holds a freed entry only while the pass that linked it into
`granted_list` is at its `list_del`, the window in which an unlock can free it. -/
theorem lists_never_dangle {s : Kernel} (reachable : Reachable s) :
    s.waitersList.Nodup ∧ s.grantedList.Nodup ∧ (∀ entry ∈ s.grantedList, s.live entry = true) ∧
      ∀ entry ∈ s.waitersList, s.live entry = false →
        ∃ pid task rest, s.tasks pid = some task ∧ task.pc = .setDelWaiter entry rest := by
  have heap := Kernel.HeapSound.of_reachable reachable
  refine ⟨heap.waitersNodup, heap.grantedNodup, heap.granted, ?_⟩
  intro entry inWaiters freed
  rcases heap.waiting entry inWaiters with ⟨alive, -⟩ | delisting
  · rw [alive] at freed
    cases freed
  · exact delisting

/-- The state of `entry_freed_while_waiting`: task 1's entry, at address 2, is freed while
still in `waiters_list`, and task 2 is at its `list_del`. -/
def freedWaiter : Kernel :=
  (machine.run machine.init (earlyReturnTrace ++ unlockInWindowTrace)).getD Kernel.init

theorem lists_never_dangle_freedWaiter :
    freedWaiter.waitersList.Nodup ∧ freedWaiter.grantedList.Nodup ∧
      (∀ entry ∈ freedWaiter.grantedList, freedWaiter.live entry = true) ∧
      ∀ entry ∈ freedWaiter.waitersList, freedWaiter.live entry = false →
        ∃ pid task rest, freedWaiter.tasks pid = some task ∧ task.pc = .setDelWaiter entry rest :=
  lists_never_dangle (Transition.Machine.Reachable.of_run_getD (by decide +kernel))

/-- `grant_lock` has set the waiter's flag and not yet unlinked it: the pass is at its
`list_add_tail` or its `list_del`. -/
def Kernel.Granting (s : Kernel) (entry : Ptr) : Prop :=
  ∃ pid task rest, s.tasks pid = some task ∧
    (task.pc = .setAddGranted entry rest ∨ task.pc = .setDelWaiter entry rest)

/-- The flags of the entries `grant_lock` has not taken: a flagged waiter is inside
`grant_lock`, and an entry about to be queued is not flagged. -/
structure Kernel.FlagsClear (s : Kernel) : Prop where
  waiting : ∀ entry ∈ s.waitersList, (s.entries entry).granted = true → s.Granting entry
  fresh : ∀ pid task entry, s.tasks pid = some task → task.pc = .lockEnqueue entry →
    (s.entries entry).granted = false

section Flags

variable {s t : Kernel} {pid : Pid} {task : Task} {alloc : Alloc}

theorem Kernel.HeapSound.setting_queued (heap : s.HeapSound) (own : s.tasks pid = some task)
    {current : Ptr} {rest : List Ptr} (pc : task.pc = .setGranted current rest) :
    current ∈ s.waitersList := by
  have queued := heap.queued pid task own
  rw [pc] at queued
  obtain ⟨left, split⟩ := queued
  simp [split]

theorem Kernel.Granting.taskStep {pc : Pc} (stepped : taskStep s pid pc alloc = some t) {entry : Ptr}
    (granting : s.Granting entry) :
    t.Granting entry ∨ ∃ rest task, s.tasks pid = some task ∧
      (task.pc = .setAddGranted entry rest ∨ task.pc = .setDelWaiter entry rest) := by
  obtain ⟨other, before, rest, was, pc⟩ := granting
  by_cases actor : other = pid
  · subst actor
    exact .inr ⟨rest, before, was, pc⟩
  · rcases taskStep_other_task stepped actor with same | ⟨-, woken⟩
    · exact .inl ⟨other, before, rest, same ▸ was, pc⟩
    · exact .inl ⟨other, before.wake, rest, by rw [woken, was]; rfl, by rw [Task.wake_pc]; exact pc⟩

theorem taskStep_setGranted_granting (own : s.tasks pid = some task) {entry : Ptr} {rest : List Ptr}
    (pc : task.pc = .setGranted entry rest) (stepped : taskStep s pid task.pc alloc = some t) :
    t.Granting entry := by
  rw [pc] at stepped
  cases stepped
  exact ⟨pid, { task with pc := .setAddGranted entry rest }, rest,
    by simp [Kernel.updateTask_tasks, own], .inl rfl⟩

theorem Kernel.Granting.env {tasks : Pid → Option Task} {acted : Pid}
    (others : ∀ other ≠ acted, tasks other = s.tasks other)
    (idle : ∀ task, s.tasks acted = some task → task.pc = .idle)
    (entered : ∀ task, tasks acted = some task → task.pc = .idle ∨ ∃ call : Syscall, task.pc = call.entry)
    {entry : Ptr} (granting : s.Granting entry) : ({ s with tasks } : Kernel).Granting entry := by
  obtain ⟨pid, task, rest, own, pc⟩ := granting
  have busy : task.pc ≠ .idle := by rcases pc with pc | pc <;> simp [pc]
  have inside : ∀ call : Syscall, task.pc ≠ call.entry := by
    rcases pc with pc | pc <;> intro call <;> rw [pc] <;> cases call <;> simp [Syscall.entry]
  exact ⟨pid, task, rest, (env_task_iff others idle entered busy inside).mpr own, pc⟩

theorem Kernel.Delisting.granting {entry : Ptr} (delisting : s.Delisting entry) : s.Granting entry := by
  obtain ⟨pid, task, rest, own, pc⟩ := delisting
  exact ⟨pid, task, rest, own, .inr pc⟩

theorem Kernel.FlagsClear.waiting_taskStep (heap : s.HeapSound) (bounded : Bounded s)
    (flags : s.FlagsClear) (own : s.tasks pid = some task) (clear : alloc.Clear s task.pc)
    (stepped : taskStep s pid task.pc alloc = some t) :
    ∀ entry ∈ t.waitersList, (t.entries entry).granted = true → t.Granting entry := by
  intro entry now flagged
  have old : entry ∈ s.waitersList → t.Granting entry := by
    intro inWaiters
    rcases taskStep_granted_set stepped (heap.keeps_tracked bounded clear (.inr (.inl inWaiters))).1
      flagged with wasFlagged | ⟨rest, setting⟩
    · rcases (flags.waiting entry inWaiters wasFlagged).taskStep stepped with kept |
        ⟨rest, before, was, adding | deleting⟩
      · exact kept
      · rw [own, Option.some.injEq] at was
        subst was
        exact (taskStep_setAddGranted_delisting own adding stepped).granting
      · rw [own, Option.some.injEq] at was
        subst was
        exact absurd now (heap.delWaiter_gone deleting stepped)
    · exact taskStep_setGranted_granting own setting stepped
  rcases taskStep_waitersList stepped with same | ⟨_, _, _, erased⟩ | ⟨added, pc, -, appended⟩
  · exact old (same ▸ now)
  · exact old (List.mem_of_mem_erase (erased ▸ now))
  · rw [appended, List.mem_append, List.mem_singleton] at now
    rcases now with inWaiters | rfl
    · exact old inWaiters
    · have keeps := (heap.keeps_tracked bounded clear (.inr (.inr ⟨pid, task, own, pc⟩))).1
      rcases taskStep_granted_set stepped keeps flagged with wasFlagged | ⟨_, setting⟩
      · rw [flags.fresh pid task entry own pc] at wasFlagged
        cases wasFlagged
      · rw [pc] at setting
        cases setting

theorem Kernel.FlagsClear.fresh_taskStep (heap : s.HeapSound) (bounded : Bounded s)
    (flags : s.FlagsClear) (own : s.tasks pid = some task) (clear : alloc.Clear s task.pc)
    (stepped : taskStep s pid task.pc alloc = some t) :
    ∀ other task' entry, t.tasks other = some task' → task'.pc = .lockEnqueue entry →
      (t.entries entry).granted = false := by
  intro other task' entry after enqueuing
  by_cases actor : other = pid
  · subst actor
    obtain ⟨_, _, -, -, -, written, -⟩ := taskStep_actor_enqueuing own stepped after enqueuing
    simp [written]
  · obtain ⟨before, was, samePc⟩ := taskStep_other stepped actor after
    have enqueuing' := samePc.trans enqueuing
    have keeps := (heap.keeps_tracked bounded clear (.inr (.inr ⟨other, before, was, enqueuing'⟩))).1
    cases flag : (t.entries entry).granted with
    | false => rfl
    | true =>
      rcases taskStep_granted_set stepped keeps flag with wasFlagged | ⟨_, setting⟩
      · rw [flags.fresh other before entry was enqueuing'] at wasFlagged
        cases wasFlagged
      · exact absurd (heap.setting_queued own setting) (heap.fresh other before entry was enqueuing').1

theorem Kernel.FlagsClear.taskStep (heap : s.HeapSound) (bounded : Bounded s) (flags : s.FlagsClear)
    (own : s.tasks pid = some task) (clear : alloc.Clear s task.pc)
    (stepped : taskStep s pid task.pc alloc = some t) : t.FlagsClear where
  waiting := flags.waiting_taskStep heap bounded own clear stepped
  fresh := flags.fresh_taskStep heap bounded own clear stepped

theorem Kernel.FlagsClear.step (heap : s.HeapSound) (bounded : Bounded s) (flags : s.FlagsClear)
    {a : Action} (stepped : step s a = some t) : t.FlagsClear := by
  rcases acting : a.taskAlloc? with _ | ⟨pid, alloc⟩
  · have idle := heap.env_idle acting stepped
    obtain ⟨tasks, rfl, others, entered⟩ := OrientLock.step_env acting stepped
    constructor
    · intro entry inWaiters flagged
      exact (flags.waiting entry inWaiters flagged).env others idle entered
    · intro pid task entry after pc
      exact flags.fresh pid task entry
        ((env_task_iff others idle entered (by simp [pc]) (pc ▸ Pc.lockEnqueue_ne_entry entry)).mp after) pc
  · obtain ⟨task, own, -, clear, stepped⟩ := step_task stepped acting
    exact flags.taskStep heap bounded own clear stepped

end Flags

/-- In every state of every interleaving an entry of `waiters_list` has `granted = 0`, except
the one `grant_lock` is moving, from its `atomic_set` until its `list_del`: a waiter leaves its
wait loop only once `grant_lock` has taken its entry. -/
theorem waiters_unflagged {s : Kernel} (reachable : Reachable s) :
    ∀ entry ∈ s.waitersList, (s.entries entry).granted = true →
      ∃ pid task rest, s.tasks pid = some task ∧
        (task.pc = .setAddGranted entry rest ∨ task.pc = .setDelWaiter entry rest) := by
  have start : (Bounded Kernel.init ∧ waitersLockSpin.Owned Kernel.init ∧ Kernel.init.HeapSound) ∧
      Kernel.init.FlagsClear :=
    ⟨⟨bounded_init, SpinLock.owned_init, Kernel.HeapSound.init⟩,
      ⟨fun _ inside => by simp [Kernel.init] at inside, fun _ _ _ none_ => by simp [Kernel.init] at none_⟩⟩
  have stable : machine.Stable fun s =>
      (Bounded s ∧ waitersLockSpin.Owned s ∧ s.HeapSound) ∧ s.FlagsClear := by
    rintro _ _ _ ⟨sound, flags⟩ stepped
    exact ⟨Kernel.HeapSound.stable _ _ _ sound stepped, flags.step sound.2.2 sound.1 stepped⟩
  exact (Transition.Machine.invariant_of_stable start stable s reachable).2.waiting

theorem waiters_unflagged_freedWaiter :
    2 ∈ freedWaiter.waitersList ∧ (freedWaiter.entries 2).granted = true ∧
      ∃ pid task rest, freedWaiter.tasks pid = some task ∧
        (task.pc = .setAddGranted 2 rest ∨ task.pc = .setDelWaiter 2 rest) := by
  have waiting : 2 ∈ freedWaiter.waitersList := by decide +kernel
  have flagged : (freedWaiter.entries 2).granted = true := by decide +kernel
  exact ⟨waiting, flagged,
    waiters_unflagged (Transition.Machine.Reachable.of_run_getD (by decide +kernel)) 2 waiting flagged⟩

end OrientLock
