import OrientLock.Lib.ListOrder
import OrientLock.Exclusion
import OrientLock.Release

set_option autoImplicit false

/- The locks as the clients of `test/orient_lock.c` are meant to use them: a task unlocks only
an acquisition it holds, and no task is stopped, traced or put in a killable sleep while it
holds one. Both rules are broken by the runs of `writeLock_held_twice`; under them the held
acquisitions of all tasks never conflict, in every interleaving. Each acquisition is backed by
a lock entry of its task that `grant_lock` has granted: linked in `granted_list`, or flagged
and about to be linked. -/
namespace OrientLock

/-- `grant_lock` has taken the entry: it is linked in `granted_list`, or the task in
`grant_lock` has set its flag and is about to link it. -/
def Kernel.Granted (s : Kernel) (entry : Ptr) : Prop :=
  entry ∈ s.grantedList ∨ ∃ pid task rest, s.tasks pid = some task ∧ task.pc = .setAddGranted entry rest

theorem Acquisition.Conflict.symm {a b : Acquisition} (conflict : a.Conflict b) : b.Conflict a :=
  ⟨conflict.1.symm, conflict.2.symm⟩

section Granted

variable {s t : Kernel}

theorem Safe.granted_allocated (safe : Safe s) {entry : Ptr} (granted : s.Granted entry) :
    s.Allocated entry := by
  rcases granted with linked | ⟨pid, task, rest, own, pc⟩
  · exact safe.bounded.granted entry linked
  · exact safe.bounded.entryLocals pid task own entry (by simp [pc, Pc.entryPtrs])

theorem Kernel.HeapSound.keeps_granted (heap : s.HeapSound) (bounded : Bounded s) {pc : Pc}
    {alloc : Alloc} (clear : alloc.Clear s pc) {entry : Ptr} (granted : s.Granted entry) :
    s.Keeps alloc entry ∧ s.Keeps alloc (s.entries entry).range := by
  rcases granted with linked | ⟨pid, task, rest, own, pc⟩
  · exact heap.keeps_tracked bounded clear (.inl linked)
  · exact heap.keeps_tracked bounded clear (.inr (.inl (heap.adding_queued own pc)))

theorem Safe.granted_compatible (safe : Safe s) {first second : Ptr} (grantedFirst : s.Granted first)
    (grantedSecond : s.Granted second) (different : first ≠ second) :
    ¬ (s.item first).Conflict (s.item second) := by
  have linked : ∀ {a b : Ptr}, a ∈ s.grantedList → s.Granted b → a ≠ b →
      ¬ (s.item a).Conflict (s.item b) := by
    intro a b inside granted different
    rcases granted with linkedB | ⟨pid, task, rest, own, pc⟩
    · have : Std.Symm fun a b => ¬ (s.item a).Conflict (s.item b) :=
        ⟨fun _ _ free conflict => free conflict.symm⟩
      exact (List.pairwise_map.mp safe.compatible).forall inside linkedB different
    · have checked := safe.checked pid task own
      rw [pc] at checked
      exact checked a inside
  rcases grantedFirst with inFirst | ⟨p, taskP, restP, ownP, pcP⟩
  · exact linked inFirst grantedSecond different
  · rcases grantedSecond with inSecond | ⟨q, taskQ, restQ, ownQ, pcQ⟩
    · exact fun conflict =>
        linked inSecond (.inr ⟨p, taskP, restP, ownP, pcP⟩) different.symm conflict.symm
    · have heldP := safe.owned p taskP ownP (by simp [waitersLockSpin, pcP, Pc.holdsWaitersLock])
      have heldQ := safe.owned q taskQ ownQ (by simp [waitersLockSpin, pcQ, Pc.holdsWaitersLock])
      rw [heldQ, Option.some.injEq] at heldP
      subst heldP
      rw [ownP, Option.some.injEq] at ownQ
      subst ownQ
      rw [pcP, Pc.setAddGranted.injEq] at pcQ
      exact absurd pcQ.1 different

theorem Kernel.Granted.keep {entry : Ptr} (granted : s.Granted entry)
    (linked : entry ∈ s.grantedList → entry ∈ t.grantedList)
    (linking : ∀ pid task rest, s.tasks pid = some task → task.pc = .setAddGranted entry rest →
      ∃ task', t.tasks pid = some task' ∧ task'.pc = task.pc) : t.Granted entry := by
  rcases granted with inside | ⟨pid, task, rest, own, pc⟩
  · exact .inl (linked inside)
  · obtain ⟨task', after, samePc⟩ := linking pid task rest own pc
    exact .inr ⟨pid, task', rest, after, samePc.trans pc⟩

end Granted

/-- The steps a disciplined client and environment take: an unlock of an acquisition the
caller holds, and a stop, trace or killable sleep only of a task that holds nothing. -/
def Action.Disciplined (s : Kernel) : Action → Bool
  | .call pid (.orientunlockRead (.mapped range)) => decide (s.Holds pid ⟨.reader, range⟩)
  | .call pid (.orientunlockWrite (.mapped range)) => decide (s.Holds pid ⟨.writer, range⟩)
  | .setState pid state =>
    state.bits &&& taskWakekill == 0 || (s.tasks pid).all fun task => task.held.isEmpty
  | _ => true

def disciplinedMachine : Transition.Machine Kernel Action :=
  machine.restrict fun s a => a.Disciplined s = true

/-- A task that the orientation code may still act for: queued to run, inside a syscall, or
holding an acquisition. -/
def Task.Busy (task : Task) : Prop := task.onRq = true ∨ task.pc ≠ .idle ∨ task.held ≠ []

/-- A task that `is_running` accepts, given its shape: not exited, and neither stopped, traced
nor in a killable sleep. -/
def Task.Awake (task : Task) : Prop := task.exitState = 0 ∧ task.state &&& taskWakekill = 0

@[simp] theorem Task.wake_held (task : Task) : task.wake.held = task.held := by
  unfold Task.wake
  split <;> rfl

theorem Task.Awake.isRunning {tasks : Pid → Option Task} {pid : Pid} {task : Task}
    (own : tasks pid = some task) (shaped : task.Shaped) (awake : task.Awake) :
    isRunning tasks pid = true := by
  obtain ⟨alive, notWakekill⟩ := awake
  have notDead : task.state &&& taskDead = 0 := by
    rcases shaped with ⟨-, state, bits⟩ | ⟨zombie, -⟩
    · rw [bits]
      exact UserState.bits_and_taskDead state
    · rw [alive] at zombie
      exact absurd zombie (by decide)
  rw [isRunning_eq_true_iff]
  exact ⟨task, own, notDead, notWakekill, by rw [alive]; rfl, by rw [alive]; rfl⟩

theorem Task.wake_awake {task : Task} (shaped : task.Shaped) (awake : task.Busy → task.Awake) :
    task.wake.Busy → task.wake.Awake := by
  unfold Task.wake
  split
  · next woken =>
    rintro -
    rcases shaped with ⟨alive, -⟩ | ⟨-, dead⟩
    · exact ⟨alive, Nat.zero_and taskWakekill⟩
    · simp only [dead, Bool.and_eq_true, bne_iff_ne, ne_eq] at woken
      exact absurd woken.2 (by decide)
  · exact awake

section Steps

variable {s t : Kernel} {pid : Pid} {task : Task} {alloc : Alloc}

theorem Kernel.Granted.taskStep (own : s.tasks pid = some task)
    (stepped : taskStep s pid task.pc alloc = some t)
    (notUnlock : ∀ type orient, task.pc ≠ .unlock type orient) {entry : Ptr} (granted : s.Granted entry) :
    t.Granted entry ∨ task.pc = .setRelease ∧ isRunning s.tasks (s.entries entry).pid = false := by
  by_cases linking : ∃ rest, task.pc = .setAddGranted entry rest
  · obtain ⟨rest, pc⟩ := linking
    rw [pc] at stepped
    cases stepped
    exact .inl (.inl (by simp))
  · have windows : ∀ other before rest, s.tasks other = some before →
        before.pc = .setAddGranted entry rest → ∃ task', t.tasks other = some task' ∧ task'.pc = before.pc := by
      intro other before rest was pc
      have different : other ≠ pid := by
        rintro rfl
        rw [own, Option.some.injEq] at was
        subst was
        exact linking ⟨rest, pc⟩
      have samePc := taskStep_other_pc stepped different
      rw [was, Option.map_some] at samePc
      exact Option.map_eq_some_iff.mp samePc
    rcases taskStep_grantedList stepped with same | ⟨pc, released⟩ | ⟨current, rest, -, appended⟩ |
      ⟨type, orient, -, pc, -⟩
    · exact .inl (granted.keep (fun inside => same ▸ inside) windows)
    · by_cases running : isRunning s.tasks (s.entries entry).pid = true
      · refine .inl (granted.keep (fun inside => ?_) windows)
        rw [released, releaseDeadTasksLocks_grantedList, List.mem_filter]
        exact ⟨inside, running⟩
      · exact .inr ⟨pc, by simpa using running⟩
    · refine .inl (granted.keep (fun inside => ?_) windows)
      rw [appended]
      exact List.mem_append_left _ inside
    · exact absurd pc (notUnlock type orient)

theorem taskStep_actor_held (own : s.tasks pid = some task)
    (stepped : taskStep s pid task.pc alloc = some t) {task' : Task} (after : t.tasks pid = some task')
    (notUnlock : ∀ type orient, task.pc ≠ .unlock type orient) :
    task'.held = task.held ∨ ∃ entry, task.pc = .lockTest entry ∧ (s.entries entry).granted = true ∧
      task'.held = task.held ++ [s.item entry] ∧ task'.pc = .idle := by
  cases pc : task.pc with
  | lockTest entry =>
    rw [pc] at stepped
    simp only [taskStep] at stepped
    split at stepped
    · next granted =>
      cases stepped
      simp only [Kernel.updateTask_tasks, ite_true, own, Option.map_some, Option.some.injEq] at after
      subst after
      exact .inr ⟨entry, rfl, granted, rfl, rfl⟩
    · cases stepped
      simp only [Kernel.goto_eq, Kernel.updateTask_tasks, ite_true, own, Option.map_some,
        Option.some.injEq] at after
      subst after
      exact .inl rfl
  | unlock type orient => exact absurd pc (notUnlock type orient)
  | setLoop rest =>
    left
    rw [pc] at stepped
    cases rest <;> cases stepped <;>
      simp only [Kernel.goto_eq, Kernel.updateTask_tasks, ite_true, own, Option.map_some,
        Option.some.injEq] at after <;> subst after <;> rfl
  | _ =>
    left
    rw [pc] at stepped
    revert stepped
    simp only [taskStep]
    repeat' split
    all_goals
      intro stepped
      cases stepped <;> simp [Kernel.updateTask_tasks, own, wakeUp] at after <;> subst after <;> rfl

theorem taskStep_actor_waitEntry (own : s.tasks pid = some task)
    (stepped : taskStep s pid task.pc alloc = some t) {task' : Task} (after : t.tasks pid = some task')
    {entry : Ptr} (waiting : task'.pc.waitEntry = some entry) :
    task.pc.waitEntry = some entry ∨
      s.Hands alloc entry ∧ (t.entries entry).pid = pid ∧ (t.entries entry).granted = false := by
  rcases (taskStep_flow own stepped after).waitEntry waiting with old | ⟨type, korient, pc⟩
  · exact .inl old
  · rcases taskStep_actor_entryPtrs own stepped after (Pc.waitEntry_mem_entryPtrs waiting) with
      inside | ⟨release, -⟩ | ⟨type', korient', -, hands, -, written, -⟩
    · simp [pc, Pc.entryPtrs] at inside
    · rw [pc] at release
      cases release
    · exact .inr ⟨hands, by simp [written], by simp [written]⟩

theorem Pc.Flow.into_setAddGranted {p : Pc} {entry : Ptr} {rest : List Ptr}
    (flow : Pc.Flow p (.setAddGranted entry rest)) : p = .setGranted entry rest := by
  cases flow
  rfl

theorem granted_of_taskStep (own : s.tasks pid = some task)
    (stepped : taskStep s pid task.pc alloc = some t) {entry : Ptr} (granted : t.Granted entry) :
    s.Granted entry ∨ ∃ rest, task.pc = .setGranted entry rest := by
  rcases granted with linked | ⟨other, task', rest, after, linking⟩
  · rcases taskStep_grantedList stepped with same | ⟨-, released⟩ | ⟨current, rest, pc, appended⟩ |
      ⟨type, orient, removed, -, erased⟩
    · exact .inl (.inl (same ▸ linked))
    · rw [released, releaseDeadTasksLocks_grantedList, List.mem_filter] at linked
      exact .inl (.inl linked.1)
    · rw [appended, List.mem_append, List.mem_singleton] at linked
      rcases linked with old | rfl
      · exact .inl (.inl old)
      · exact .inl (.inr ⟨pid, task, rest, own, pc⟩)
    · exact .inl (.inl (List.mem_of_mem_erase (erased ▸ linked)))
  · by_cases actor : other = pid
    · subst actor
      have flow := taskStep_flow own stepped after
      rw [linking] at flow
      exact .inr ⟨rest, flow.into_setAddGranted⟩
    · obtain ⟨before, was, samePc⟩ := taskStep_other stepped actor after
      exact .inl (.inr ⟨other, before, rest, was, samePc.trans linking⟩)

end Steps

section Unlock

variable {s t : Kernel} {pid : Pid} {task : Task} {alloc : Alloc}

theorem taskStep_unlock_cases {type : EntryType} {orient : UserPtr OrientationRange}
    (own : s.tasks pid = some task) (pc : task.pc = .unlock type orient)
    (stepped : taskStep s pid task.pc alloc = some t) :
    t.entries = s.entries ∧ t.ranges = s.ranges ∧ (∀ other ≠ pid, t.tasks other = s.tasks other) ∧
      ∃ task', t.tasks pid = some task' ∧ task'.pc = .idle ∧
        ((t.grantedList = s.grantedList ∧ (task'.held = task.held ∨
            ∃ range, orient = .mapped range ∧ task'.held = task.held.erase ⟨type, range⟩)) ∨
          ∃ range entry, orient = .mapped range ∧ entry ∈ s.grantedList ∧ s.item entry = ⟨type, range⟩ ∧
            (type = .reader → (s.entries entry).pid = pid) ∧
            t.grantedList = s.grantedList.erase entry ∧ task'.held = task.held.erase ⟨type, range⟩) := by
  rw [pc] at stepped
  cases stepped
  have unchanged : (orientunlock type s pid orient).2.tasks = s.tasks ∧
      (orientunlock type s pid orient).2.entries = s.entries ∧
      (orientunlock type s pid orient).2.ranges = s.ranges := by
    rcases orientunlock_cases type s pid orient with same | ⟨removed, unlinked⟩ <;> simp [*]
  refine ⟨by simp [unchanged], by simp [unchanged],
    fun other different => by simp [Kernel.updateTask_other _ different, unchanged], ?_⟩
  refine ⟨{ (if (orientunlock type s pid orient).1 == 0 then task.release type (copyFromUser orient).1
      else task) with pc := .idle }, by simp [Kernel.updateTask_tasks, unchanged.1, own], rfl, ?_⟩
  cases orient with
  | unmapped =>
    left
    simp [orientunlock_unmapped, efault]
  | mapped range =>
    rcases orientunlock_mapped type s pid range with same | ⟨entry, inside, item, owner, found⟩
    · left
      refine ⟨by simp [same], ?_⟩
      by_cases zero : (orientunlock type s pid (.mapped range)).1 = 0
      · exact .inr ⟨range, rfl, by simp [zero, Task.release, copyFromUser]⟩
      · exact .inl (by simp [zero])
    · right
      exact ⟨range, entry, rfl, inside, item, owner, by simp [found],
        by simp [found, Task.release, copyFromUser]⟩

end Unlock

/-- What the invariant asks of task `pid`: it is awake while the orientation code acts for it;
an unlock it runs is of an acquisition it holds; the entry it waits on is its own, and granted
once flagged; and its acquisitions are backed by distinct granted entries of its pid, none of
them the entry it waits on. -/
structure Kernel.TaskBacked (s : Kernel) (pid : Pid) (task : Task) : Prop where
  awake : task.Busy → task.Awake
  unlocking : ∀ type range, task.pc = .unlock type (.mapped range) → ⟨type, range⟩ ∈ task.held
  waiting : ∀ entry ∈ task.pc.waitEntry, (s.entries entry).pid = pid ∧
    ((s.entries entry).granted = true → s.Granted entry)
  backed : ∃ backing : List Ptr, backing.Nodup ∧ (backing.map s.item).Perm task.held ∧
    ∀ entry ∈ backing, (s.entries entry).pid = pid ∧ s.Granted entry ∧
      ∀ waited ∈ task.pc.waitEntry, entry ≠ waited

/-- Every task satisfies `TaskBacked`. -/
def Kernel.Backed (s : Kernel) : Prop := ∀ pid task, s.tasks pid = some task → s.TaskBacked pid task

section Backed

variable {s t : Kernel} {pid : Pid} {task : Task} {alloc : Alloc}

theorem held_ne_nil_of_backing {backing : List Ptr} {f : Ptr → Acquisition} {held : List Acquisition}
    (perm : (backing.map f).Perm held) {entry : Ptr} (mem : entry ∈ backing) : held ≠ [] := by
  rintro rfl
  rw [List.map_eq_nil_iff.mp perm.eq_nil] at mem
  cases mem

theorem Task.Awake.taskStep (awake : task.Awake) (own : s.tasks pid = some task)
    (stepped : taskStep s pid task.pc alloc = some t) {task' : Task} (after : t.tasks pid = some task') :
    task'.Awake := by
  obtain ⟨exit, state⟩ := taskStep_actor_state own stepped after
  refine ⟨exit.trans awake.1, ?_⟩
  rcases state with same | running | interruptible
  · rw [same]
    exact awake.2
  · rw [running]
    exact Nat.zero_and taskWakekill
  · rw [interruptible]
    decide

theorem Kernel.TaskBacked.transfer (backed : s.TaskBacked pid task) (entries : t.entries = s.entries)
    (ranges : t.ranges = s.ranges)
    (keep : ∀ entry, (s.entries entry).pid = pid → s.Granted entry → t.Granted entry) :
    t.TaskBacked pid task := by
  have items : t.item = s.item := by
    funext entry
    simp [Kernel.item, Kernel.rangeOf, entries, ranges]
  obtain ⟨backing, nodup, perm, backs⟩ := backed.backed
  refine ⟨backed.awake, backed.unlocking, ?_, backing, nodup, by rw [items]; exact perm, ?_⟩
  · intro entry waiting
    obtain ⟨owner, flagged⟩ := backed.waiting entry waiting
    rw [entries]
    exact ⟨owner, fun flag => keep entry owner (flagged flag)⟩
  · intro entry mem
    obtain ⟨owner, granted, below⟩ := backs entry mem
    rw [entries]
    exact ⟨owner, keep entry owner granted, below⟩

theorem Kernel.TaskBacked.retask {task' : Task} (backed : s.TaskBacked pid task)
    (held : task'.held = task.held) (noWait : task'.pc.waitEntry = none)
    (unlocking : ∀ type range, task'.pc = .unlock type (.mapped range) → ⟨type, range⟩ ∈ task'.held)
    (awake : task'.Busy → task'.Awake) : s.TaskBacked pid task' := by
  obtain ⟨backing, nodup, perm, backs⟩ := backed.backed
  refine ⟨awake, unlocking, by simp [noWait], backing, nodup, by rw [held]; exact perm, ?_⟩
  intro entry mem
  obtain ⟨owner, granted, -⟩ := backs entry mem
  exact ⟨owner, granted, by simp [noWait]⟩

theorem Kernel.TaskBacked.of_empty (idle : task.pc = .idle) (empty : task.held = [])
    (awake : task.Busy → task.Awake) : s.TaskBacked pid task :=
  ⟨awake, by simp [idle], by simp [idle, Pc.waitEntry], [], List.nodup_nil, by simp [empty],
    by simp⟩

theorem Kernel.Granted.env {acted : Pid} (list : t.grantedList = s.grantedList)
    (others : ∀ other ≠ acted, t.tasks other = s.tasks other)
    (idle : ∀ task, s.tasks acted = some task → task.pc = .idle) {entry : Ptr}
    (granted : s.Granted entry) : t.Granted entry := by
  refine granted.keep (fun inside => list ▸ inside) ?_
  intro other before rest was pc
  have different : other ≠ acted := by
    rintro rfl
    rw [idle before was] at pc
    cases pc
  exact ⟨before, (others other different).trans was, rfl⟩

theorem Kernel.TaskBacked.unlinks_own (safe : Safe s) (backed : s.TaskBacked pid task)
    {type : EntryType} {range : OrientationRange} (holds : ⟨type, range⟩ ∈ task.held) {entry : Ptr}
    (inside : entry ∈ s.grantedList) (item : s.item entry = ⟨type, range⟩)
    (owner : type = .reader → (s.entries entry).pid = pid) : (s.entries entry).pid = pid := by
  cases type with
  | reader => exact owner rfl
  | writer =>
    obtain ⟨backing, -, perm, backs⟩ := backed.backed
    obtain ⟨mine, mem, mineItem⟩ := List.mem_map.mp (perm.mem_iff.mpr holds)
    obtain ⟨minePid, mineGranted, -⟩ := backs mine mem
    by_cases same : entry = mine
    · rw [same]
      exact minePid
    · refine absurd ?_ (safe.granted_compatible (.inl inside) mineGranted same)
      rw [item, mineItem]
      exact ⟨.inl rfl, rfl⟩

theorem backing_erase {held : List Acquisition} {backing : List Ptr} (nodup : backing.Nodup)
    (perm : (backing.map s.item).Perm held)
    (backs : ∀ entry ∈ backing, (s.entries entry).pid = pid ∧ s.Granted entry)
    (items : t.item = s.item) (entries : t.entries = s.entries) {acquired : Acquisition}
    (holds : acquired ∈ held) {unlinked : Ptr} (item : s.item unlinked = acquired)
    (keep : ∀ entry, s.Granted entry → entry ≠ unlinked → t.Granted entry) :
    ∃ backing' : List Ptr, backing'.Nodup ∧ (backing'.map t.item).Perm (held.erase acquired) ∧
      ∀ entry ∈ backing', (t.entries entry).pid = pid ∧ t.Granted entry := by
  obtain ⟨victim, mem, victimItem, spared⟩ : ∃ victim ∈ backing, s.item victim = acquired ∧
      ∀ entry ∈ backing.erase victim, entry ≠ unlinked := by
    by_cases inBacking : unlinked ∈ backing
    · exact ⟨unlinked, inBacking, item, fun entry kept => (nodup.mem_erase_iff.mp kept).1⟩
    · obtain ⟨victim, mem, victimItem⟩ := List.mem_map.mp (perm.mem_iff.mpr holds)
      exact ⟨victim, mem, victimItem, fun entry kept same =>
        inBacking (same ▸ List.mem_of_mem_erase kept)⟩
  refine ⟨backing.erase victim, nodup.erase victim, ?_, fun entry kept => ?_⟩
  · rw [items, ← victimItem]
    exact (ListOrder.map_erase_perm s.item mem).trans (perm.erase _)
  · obtain ⟨owner, granted⟩ := backs entry (List.mem_of_mem_erase kept)
    exact ⟨entries ▸ owner, keep entry granted (spared entry kept)⟩

end Backed

section Preservation

variable {s t : Kernel} {pid : Pid} {task : Task} {alloc : Alloc}

theorem Kernel.Granted.taskStep_awake (shaped : s.Shaped) (own : s.tasks pid = some task)
    (stepped : OrientLock.taskStep s pid task.pc alloc = some t)
    (notUnlock : ∀ type orient, task.pc ≠ .unlock type orient) {owner : Pid} {holder : Task}
    (was : s.tasks owner = some holder) (awake : holder.Awake) {entry : Ptr}
    (theirs : (s.entries entry).pid = owner) (granted : s.Granted entry) : t.Granted entry := by
  rcases granted.taskStep own stepped notUnlock with kept | ⟨-, dropped⟩
  · exact kept
  · rw [theirs, awake.isRunning was (shaped owner holder was)] at dropped
    cases dropped

theorem Kernel.TaskBacked.taskStep_other (safe : Safe s) (heap : s.HeapSound) (shaped : s.Shaped)
    (own : s.tasks pid = some task) (clear : alloc.Clear s task.pc)
    (stepped : taskStep s pid task.pc alloc = some t)
    (notUnlock : ∀ type orient, task.pc ≠ .unlock type orient) {other : Pid} (different : other ≠ pid)
    {before : Task} (was : s.tasks other = some before) (backed : s.TaskBacked other before)
    {after : Task} (now : t.tasks other = some after) : t.TaskBacked other after := by
  have moved : after = before ∨ after = before.wake := by
    rcases taskStep_other_task stepped different with same | ⟨-, woken⟩
    · rw [same, was, Option.some.injEq] at now
      exact .inl now.symm
    · rw [woken, was, Option.map_some, Option.some.injEq] at now
      exact .inr now.symm
  have samePc : after.pc = before.pc := by rcases moved with rfl | rfl <;> simp
  have sameHeld : after.held = before.held := by rcases moved with rfl | rfl <;> simp
  have items : ∀ entry, s.Granted entry →
      t.item entry = s.item entry ∧ (t.entries entry).pid = (s.entries entry).pid := fun entry granted =>
    have keeps := heap.keeps_granted safe.bounded clear granted
    ⟨Kernel.item_taskStep stepped keeps, (taskStep_entries_of_keeps stepped keeps.1).2.2⟩
  have keep : before.Busy → ∀ entry, (s.entries entry).pid = other → s.Granted entry → t.Granted entry :=
    fun busy _ owner => Kernel.Granted.taskStep_awake shaped own stepped notUnlock was (backed.awake busy) owner
  obtain ⟨backing, nodup, perm, backs⟩ := backed.backed
  refine ⟨?_, ?_, ?_, backing, nodup, ?_, ?_⟩
  · rcases moved with rfl | rfl
    · exact backed.awake
    · exact Task.wake_awake (shaped other before was) backed.awake
  · rw [samePc, sameHeld]
    exact backed.unlocking
  · intro entry waiting
    rw [samePc] at waiting
    obtain ⟨owner, flagged⟩ := backed.waiting entry waiting
    have keeps := clear.keeps_waited safe.bounded was waiting owner
    have busy : before.Busy := .inr (.inl fun idle => by simp [idle, Pc.waitEntry] at waiting)
    refine ⟨(taskStep_entries_of_keeps stepped keeps).2.2.trans owner, fun flag => ?_⟩
    rcases taskStep_granted_set stepped keeps flag with flagS | ⟨rest, setting⟩
    · exact keep busy entry owner (flagged flagS)
    · rw [setting] at stepped
      cases stepped
      exact .inr ⟨pid, { task with pc := .setAddGranted entry rest }, rest,
        by simp [Kernel.updateTask_tasks, own], rfl⟩
  · have same : backing.map t.item = backing.map s.item :=
      List.map_congr_left fun entry mem => (items entry (backs entry mem).2.1).1
    rw [same, sameHeld]
    exact perm
  · intro entry mem
    obtain ⟨owner, granted, apart⟩ := backs entry mem
    have busy : before.Busy := .inr (.inr (held_ne_nil_of_backing perm mem))
    refine ⟨(items entry granted).2.trans owner, keep busy entry owner granted, ?_⟩
    rw [samePc]
    exact apart

theorem Kernel.TaskBacked.taskStep_actor (safe : Safe s) (heap : s.HeapSound) (shaped : s.Shaped)
    (own : s.tasks pid = some task) (runnable : task.Runnable) (clear : alloc.Clear s task.pc)
    (stepped : taskStep s pid task.pc alloc = some t)
    (notUnlock : ∀ type orient, task.pc ≠ .unlock type orient) (backed : s.TaskBacked pid task)
    {task' : Task} (after : t.tasks pid = some task') : t.TaskBacked pid task' := by
  have awake := backed.awake (.inl runnable.2)
  have items : ∀ entry, s.Granted entry →
      t.item entry = s.item entry ∧ (t.entries entry).pid = (s.entries entry).pid := fun entry granted =>
    have keeps := heap.keeps_granted safe.bounded clear granted
    ⟨Kernel.item_taskStep stepped keeps, (taskStep_entries_of_keeps stepped keeps.1).2.2⟩
  have keep : ∀ entry, (s.entries entry).pid = pid → s.Granted entry → t.Granted entry :=
    fun _ owner => Kernel.Granted.taskStep_awake shaped own stepped notUnlock own awake owner
  obtain ⟨backing, nodup, perm, backs⟩ := backed.backed
  have apart : ∀ entry ∈ backing, ∀ waited ∈ task'.pc.waitEntry, entry ≠ waited := by
    intro entry mem waited waiting
    rcases taskStep_actor_waitEntry own stepped after waiting with old | ⟨hands, -, -⟩
    · exact (backs entry mem).2.2 waited old
    · exact hands.ne (heap.keeps_granted safe.bounded clear (backs entry mem).2.1).1
  have sameItems : backing.map t.item = backing.map s.item :=
    List.map_congr_left fun entry mem => (items entry (backs entry mem).2.1).1
  have kept : ∀ entry ∈ backing, (t.entries entry).pid = pid ∧ t.Granted entry ∧
      ∀ waited ∈ task'.pc.waitEntry, entry ≠ waited := by
    intro entry mem
    obtain ⟨owner, granted, -⟩ := backs entry mem
    exact ⟨(items entry granted).2.trans owner, keep entry owner granted, apart entry mem⟩
  refine ⟨fun _ => awake.taskStep own stepped after, ?_, ?_, ?_⟩
  · intro type range pc
    have flow := taskStep_flow own stepped after
    rw [pc] at flow
    generalize task.pc = previous at flow
    cases flow
  · intro entry waiting
    rcases taskStep_actor_waitEntry own stepped after waiting with old | ⟨-, owner, unflagged⟩
    · obtain ⟨owner, flagged⟩ := backed.waiting entry old
      have keeps := clear.keeps_waited safe.bounded own old owner
      refine ⟨(taskStep_entries_of_keeps stepped keeps).2.2.trans owner, fun flag => ?_⟩
      rcases taskStep_granted_set stepped keeps flag with flagS | ⟨rest, setting⟩
      · exact keep entry owner (flagged flagS)
      · rw [setting] at old
        cases old
    · exact ⟨owner, fun flag => by rw [unflagged] at flag; cases flag⟩
  · rcases taskStep_actor_held own stepped after notUnlock with sameHeld |
      ⟨waited, pc, flag, appended, idle⟩
    · exact ⟨backing, nodup, by rw [sameItems, sameHeld]; exact perm, kept⟩
    · have waiting : task.pc.waitEntry = some waited := by rw [pc]; rfl
      obtain ⟨ownerW, flagged⟩ := backed.waiting waited waiting
      have grantedW := flagged flag
      have fresh : waited ∉ backing := fun mem => (backs waited mem).2.2 waited waiting rfl
      refine ⟨backing ++ [waited], ?_, ?_, ?_⟩
      · refine List.nodup_append.mpr ⟨nodup, List.nodup_singleton waited, ?_⟩
        intro entry mem other single same
        rw [List.mem_singleton.mp single] at same
        exact fresh (same ▸ mem)
      · rw [List.map_append, sameItems, appended, List.map_singleton, (items waited grantedW).1]
        exact perm.append_right _
      · intro entry mem
        rcases List.mem_append.mp mem with old | single
        · exact kept entry old
        · rw [List.mem_singleton.mp single]
          refine ⟨(items waited grantedW).2.trans ownerW, keep waited ownerW grantedW, ?_⟩
          simp [idle, Pc.waitEntry]

theorem Kernel.Backed.taskStep_unlock (safe : Safe s) (backed : s.Backed)
    (own : s.tasks pid = some task) (runnable : task.Runnable) {type : EntryType}
    {orient : UserPtr OrientationRange} (pc : task.pc = .unlock type orient)
    (stepped : taskStep s pid task.pc alloc = some t) : t.Backed := by
  obtain ⟨entries, ranges, others, task', after, idle, outcome⟩ := taskStep_unlock_cases own pc stepped
  have mine := backed pid task own
  have items : t.item = s.item := by
    funext entry
    simp [Kernel.item, Kernel.rangeOf, entries, ranges]
  have windows : ∀ entry other before rest, s.tasks other = some before →
      before.pc = .setAddGranted entry rest → ∃ task', t.tasks other = some task' ∧ task'.pc = before.pc := by
    intro entry other before rest was linking
    have different : other ≠ pid := by
      rintro rfl
      rw [own, Option.some.injEq] at was
      subst was
      rw [pc] at linking
      cases linking
    exact ⟨before, (others other different).trans was, rfl⟩
  obtain ⟨keep, backing, nodup, perm, backs⟩ :
      (∀ entry, s.Granted entry → (s.entries entry).pid ≠ pid → t.Granted entry) ∧
      ∃ backing : List Ptr, backing.Nodup ∧ (backing.map t.item).Perm task'.held ∧
        ∀ entry ∈ backing, (t.entries entry).pid = pid ∧ t.Granted entry := by
    obtain ⟨backing, nodup, perm, backs⟩ := mine.backed
    have backs' : ∀ entry ∈ backing, (s.entries entry).pid = pid ∧ s.Granted entry :=
      fun entry mem => ⟨(backs entry mem).1, (backs entry mem).2.1⟩
    rcases outcome with ⟨list, same | ⟨range, mapped, erased⟩⟩ |
      ⟨range, removed, mapped, inside, item, owner, list, erased⟩
    · have keepAll : ∀ entry, s.Granted entry → t.Granted entry := fun entry granted =>
        granted.keep (fun inside => list ▸ inside) (windows entry)
      refine ⟨fun entry granted _ => keepAll entry granted, backing, nodup,
        by rw [items, same]; exact perm, fun entry mem => ?_⟩
      exact ⟨entries ▸ (backs' entry mem).1, keepAll entry (backs' entry mem).2⟩
    · -- `orientunlock_write` found no entry and returned 0
      have keepAll : ∀ entry, s.Granted entry → t.Granted entry := fun entry granted =>
        granted.keep (fun inside => list ▸ inside) (windows entry)
      have holds := mine.unlocking type range (mapped ▸ pc)
      obtain ⟨victim, -, victimItem⟩ := List.mem_map.mp (perm.mem_iff.mpr holds)
      rw [erased]
      exact ⟨fun entry granted _ => keepAll entry granted, backing_erase nodup perm backs' items
        entries holds victimItem fun entry granted _ => keepAll entry granted⟩
    · have holds := mine.unlocking type range (mapped ▸ pc)
      have ownRemoved := mine.unlinks_own safe holds inside item owner
      have keepOthers : ∀ entry, s.Granted entry → entry ≠ removed → t.Granted entry :=
        fun entry granted different => granted.keep
          (fun inside => by rw [list]; exact (List.mem_erase_of_ne different).mpr inside) (windows entry)
      rw [erased]
      exact ⟨fun entry granted foreign => keepOthers entry granted fun same => foreign (same ▸ ownRemoved),
        backing_erase nodup perm backs' items entries holds item keepOthers⟩
  intro other after' now
  by_cases actor : other = pid
  · subst actor
    rw [after, Option.some.injEq] at now
    subst now
    refine ⟨fun _ => (mine.awake (.inl runnable.2)).taskStep own stepped after, by simp [idle],
      by simp [idle, Pc.waitEntry], backing, nodup, perm, fun entry mem => ?_⟩
    exact ⟨(backs entry mem).1, (backs entry mem).2, by simp [idle, Pc.waitEntry]⟩
  · have was := (others other actor).symm.trans now
    exact (backed other after' was).transfer entries ranges fun entry owner granted =>
      keep entry granted fun same => actor (owner.symm.trans same)

theorem Kernel.Backed.taskStep (safe : Safe s) (heap : s.HeapSound) (shaped : s.Shaped)
    (backed : s.Backed) (own : s.tasks pid = some task) (runnable : task.Runnable)
    (clear : alloc.Clear s task.pc) (stepped : taskStep s pid task.pc alloc = some t) : t.Backed := by
  by_cases unlocking : ∃ type orient, task.pc = .unlock type orient
  · obtain ⟨type, orient, pc⟩ := unlocking
    exact backed.taskStep_unlock safe own runnable pc stepped
  · have notUnlock : ∀ type orient, task.pc ≠ .unlock type orient :=
      fun type orient pc => unlocking ⟨type, orient, pc⟩
    intro other after now
    by_cases actor : other = pid
    · subst actor
      exact (backed other task own).taskStep_actor safe heap shaped own runnable clear stepped notUnlock now
    · obtain ⟨before, was⟩ : ∃ before, s.tasks other = some before := by
        rcases taskStep_other_task stepped actor with same | ⟨-, woken⟩
        · exact ⟨after, same.symm.trans now⟩
        · rw [woken] at now
          obtain ⟨before, was, -⟩ := Option.map_eq_some_iff.mp now
          exact ⟨before, was⟩
      exact Kernel.TaskBacked.taskStep_other safe heap shaped own clear stepped notUnlock actor was
        (backed other before was) now

theorem Kernel.Backed.env {acted : Pid} (backed : s.Backed) (entries : t.entries = s.entries)
    (ranges : t.ranges = s.ranges) (list : t.grantedList = s.grantedList)
    (others : ∀ other ≠ acted, t.tasks other = s.tasks other)
    (idle : ∀ task, s.tasks acted = some task → task.pc = .idle)
    (acting : ∀ task', t.tasks acted = some task' → s.TaskBacked acted task') : t.Backed := by
  intro other task' now
  have keep : ∀ entry, s.Granted entry → t.Granted entry := fun _ granted =>
    granted.env list others idle
  by_cases same : other = acted
  · subst same
    exact (acting task' now).transfer entries ranges fun entry _ => keep entry
  · exact (backed other task' ((others other same).symm.trans now)).transfer entries ranges
      fun entry _ => keep entry

theorem Kernel.Backed.updateTask (backed : s.Backed) {f : Task → Task} (own : s.tasks pid = some task)
    (idle : task.pc = .idle) (acting : s.TaskBacked pid (f task)) : (s.updateTask pid f).Backed := by
  refine backed.env rfl rfl rfl (fun other different => Kernel.updateTask_other s different f) ?_ ?_
  · intro before was
    rw [own, Option.some.injEq] at was
    exact was ▸ idle
  · intro task' now
    simp only [Kernel.updateTask_tasks, ite_true, own, Option.map_some, Option.some.injEq] at now
    exact now ▸ acting

theorem Kernel.Backed.step_env (backed : s.Backed) {a : Action} (admitted : a.Disciplined s = true)
    (notRun : a.taskAlloc? = none) (stepped : step s a = some t) : t.Backed := by
  cases a with
  | run | reuse => simp [Action.taskAlloc?] at notRun
  | call pid call =>
    obtain ⟨task, own, inUser, onRq, rfl⟩ := step_call stepped
    rw [Kernel.goto_eq]
    refine backed.updateTask own inUser.1 ?_
    refine (backed pid task own).retask rfl (by simp) ?_ fun _ => (backed pid task own).awake (.inl onRq)
    intro type range entered
    -- the client unlocks only what it holds
    cases call with
    | orientunlockRead orient | orientunlockWrite orient =>
      simp only [Syscall.entry, Pc.unlock.injEq] at entered
      obtain ⟨rfl, rfl⟩ := entered
      simp only [Action.Disciplined, decide_eq_true_eq] at admitted
      obtain ⟨holder, found, holds⟩ := admitted
      rw [own, Option.mem_def, Option.some.injEq] at found
      exact found ▸ holds
    | _ => simp [Syscall.entry] at entered
  | setState pid state =>
    obtain ⟨task, own, inUser, rfl⟩ := step_setState stepped
    refine backed.updateTask own inUser.1 ?_
    refine (backed pid task own).retask rfl (by simp [inUser.1, Pc.waitEntry])
      (fun type range entered => by simp [inUser.1] at entered) ?_
    rintro (running | busy | holding)
    · simp only [beq_iff_eq] at running
      subst running
      exact ⟨inUser.2, Nat.zero_and taskWakekill⟩
    · exact absurd inUser.1 busy
    · -- the environment stops only a task that holds nothing
      simp only [Action.Disciplined, own, Option.all_some, Bool.or_eq_true, beq_iff_eq,
        List.isEmpty_iff] at admitted
      rcases admitted with notWakekill | empty
      · exact ⟨inUser.2, notWakekill⟩
      · exact absurd empty holding
  | exit pid =>
    obtain ⟨task, own, inUser, rfl⟩ := step_exit stepped
    refine backed.updateTask own inUser.1 (Kernel.TaskBacked.of_empty inUser.1 rfl ?_)
    rintro (queued | busy | holding)
    · cases queued
    · exact absurd inUser.1 busy
    · exact absurd rfl holding
  | reap pid =>
    obtain ⟨task, own, exited, rfl⟩ := step_reap stepped
    refine backed.env rfl rfl rfl (fun other different => Function.update_of_ne different _ _) ?_ ?_
    · intro before was
      rw [own, Option.some.injEq] at was
      subst was
      by_contra busy
      exact exited ((backed pid task own).awake (.inr (.inl busy))).1
    · intro task' now
      simp at now
  | spawn pid =>
    obtain ⟨free, rfl⟩ := step_spawn stepped
    refine backed.env rfl rfl rfl (fun other different => Function.update_of_ne different _ _) ?_ ?_
    · intro before was
      rw [free] at was
      cases was
    · intro task' now
      simp only [Function.update_self, Option.some.injEq] at now
      subst now
      exact Kernel.TaskBacked.of_empty rfl rfl fun _ => ⟨rfl, Nat.zero_and taskWakekill⟩

theorem Kernel.Backed.step (reachable : Reachable s) (backed : s.Backed) {a : Action}
    (admitted : a.Disciplined s = true) (stepped : step s a = some t) : t.Backed := by
  rcases acting : a.taskAlloc? with _ | ⟨pid, alloc⟩
  · exact backed.step_env admitted acting stepped
  · obtain ⟨task, own, runnable, clear, stepped⟩ := step_task stepped acting
    exact backed.taskStep (safe_of_reachable reachable) (Kernel.HeapSound.of_reachable reachable)
      (Kernel.Shaped.of_reachable reachable) own runnable clear stepped

theorem Kernel.Backed.of_disciplined (reachable : disciplinedMachine.Reachable s) : s.Backed :=
  Transition.Machine.restrict_invariant (fun _ _ none_ => by simp [machine, Kernel.init] at none_)
    (fun _ _ _ reachable backed admitted stepped => backed.step reachable admitted stepped) s reachable

theorem Kernel.Backed.backing (backed : s.Backed) (own : s.tasks pid = some task) {acquired : Acquisition}
    (holds : acquired ∈ task.held) :
    ∃ entry, s.item entry = acquired ∧ (s.entries entry).pid = pid ∧ s.Granted entry := by
  obtain ⟨backing, -, perm, backs⟩ := (backed pid task own).backed
  obtain ⟨entry, mem, item⟩ := List.mem_map.mp (perm.mem_iff.mpr holds)
  exact ⟨entry, item, (backs entry mem).1, (backs entry mem).2.1⟩

theorem Kernel.Backed.held_apart (backed : s.Backed) (safe : Safe s) {p q : Pid} {taskP taskQ : Task}
    (different : p ≠ q) (ownP : s.tasks p = some taskP) (ownQ : s.tasks q = some taskQ)
    {a b : Acquisition} (heldA : a ∈ taskP.held) (heldB : b ∈ taskQ.held) : ¬ a.Conflict b := by
  obtain ⟨entryA, itemA, pidA, grantedA⟩ := backed.backing ownP heldA
  obtain ⟨entryB, itemB, pidB, grantedB⟩ := backed.backing ownQ heldB
  have distinct : entryA ≠ entryB := fun same => different (pidA.symm.trans (by rw [same]; exact pidB))
  rw [← itemA, ← itemB]
  exact safe.granted_compatible grantedA grantedB distinct

theorem Kernel.Backed.unlinks_own_taskStep (safe : Safe s) (backed : s.Backed)
    (own : s.tasks pid = some task) (stepped : OrientLock.taskStep s pid task.pc alloc = some t) {entry : Ptr}
    (linked : entry ∈ s.grantedList) (unlinked : entry ∉ t.grantedList) :
    (∃ type orient, task.pc = .unlock type orient) ∧ (s.entries entry).pid = pid ∨
      task.pc = .setRelease ∧ isRunning s.tasks (s.entries entry).pid = false := by
  by_cases unlocking : ∃ type orient, task.pc = .unlock type orient
  · obtain ⟨type, orient, pc⟩ := unlocking
    obtain ⟨-, -, -, task', -, -, outcome⟩ := taskStep_unlock_cases own pc stepped
    rcases outcome with ⟨list, -⟩ | ⟨range, removed, mapped, inside, item, owner, list, -⟩
    · exact absurd (list ▸ linked) unlinked
    · have same : entry = removed := by
        by_contra different
        exact unlinked (by rw [list]; exact (List.mem_erase_of_ne different).mpr linked)
      subst same
      have holds := (backed pid task own).unlocking type range (mapped ▸ pc)
      exact .inl ⟨⟨type, orient, pc⟩, (backed pid task own).unlinks_own safe holds inside item owner⟩
  · rcases taskStep_grantedList stepped with same | ⟨pc, released⟩ | ⟨current, rest, -, appended⟩ |
      ⟨type, orient, -, pc, -⟩
    · exact absurd (same ▸ linked) unlinked
    · right
      rw [released, releaseDeadTasksLocks_grantedList, List.mem_filter] at unlinked
      exact ⟨pc, by simpa [linked] using unlinked⟩
    · exact absurd (by rw [appended]; exact List.mem_append_left _ linked) unlinked
    · exact absurd ⟨type, orient, pc⟩ unlocking

end Preservation

/-- With disciplined clients no two held acquisitions conflict, in every interleaving: two
tasks never hold conflicting locks, and no task holds two conflicting locks. -/
theorem disciplined_held_compatible {s : Kernel} (reachable : disciplinedMachine.Reachable s) :
    (∀ p q taskP taskQ, p ≠ q → s.tasks p = some taskP → s.tasks q = some taskQ →
      ∀ a ∈ taskP.held, ∀ b ∈ taskQ.held, ¬ a.Conflict b) ∧
    ∀ pid task, s.tasks pid = some task → Compatible task.held := by
  have backed := Kernel.Backed.of_disciplined reachable
  have safe := safe_of_reachable (Transition.Machine.ReachableFrom.of_restrict reachable)
  refine ⟨fun p q taskP taskQ different ownP ownQ a heldA b heldB =>
    backed.held_apart safe different ownP ownQ heldA heldB, ?_⟩
  intro pid task own
  obtain ⟨backing, nodup, perm, backs⟩ := (backed pid task own).backed
  have pairwise : backing.Pairwise fun a b => ¬ (s.item a).Conflict (s.item b) :=
    nodup.pairwise_of_forall_ne fun a memA b memB different =>
      safe.granted_compatible (backs a memA).2.1 (backs b memB).2.1 different
  exact (perm.pairwise_iff fun free conflict => free conflict.symm).mp
    (List.pairwise_map.mpr pairwise)

/-- Tasks 1 and 2 read-lock `wholeRange`, task 3's `set_orientation` grants both, both return,
and task 1 enters `orientunlock_read`. -/
def readersUnlockingTrace : List Action :=
  twoReadersTrace ++ runs 1 1 ++ runs 2 1 ++ [.call 1 (.orientunlockRead (.mapped wholeRange))]

def readersUnlocking : Kernel :=
  (disciplinedMachine.run disciplinedMachine.init readersUnlockingTrace).getD Kernel.init

/-- Then task 1's unlock runs. -/
def readersUnlocked : Kernel :=
  (disciplinedMachine.run disciplinedMachine.init (readersUnlockingTrace ++ runs 1 1)).getD Kernel.init

theorem disciplined_held_compatible_readersUnlocked :
    (∀ p q taskP taskQ, p ≠ q → readersUnlocked.tasks p = some taskP →
      readersUnlocked.tasks q = some taskQ → ∀ a ∈ taskP.held, ∀ b ∈ taskQ.held, ¬ a.Conflict b) ∧
    ∀ pid task, readersUnlocked.tasks pid = some task → Compatible task.held :=
  disciplined_held_compatible (Transition.Machine.Reachable.of_run_getD (by decide +kernel))

/-- With disciplined clients the acquisitions of each task are, as a multiset, the types and
ranges of distinct lock entries of its pid that `grant_lock` has granted. -/
theorem disciplined_held_backed {s : Kernel} (reachable : disciplinedMachine.Reachable s) :
    ∀ pid task, s.tasks pid = some task → ∃ backing : List Ptr, backing.Nodup ∧
      (backing.map s.item).Perm task.held ∧ ∀ entry ∈ backing, (s.entries entry).pid = pid ∧ s.Granted entry := by
  intro pid task own
  obtain ⟨backing, nodup, perm, backs⟩ := (Kernel.Backed.of_disciplined reachable pid task own).backed
  exact ⟨backing, nodup, perm, fun entry mem => ⟨(backs entry mem).1, (backs entry mem).2.1⟩⟩

theorem disciplined_held_backed_readersUnlocked :
    ∃ task, readersUnlocked.tasks 2 = some task ∧ ∃ backing : List Ptr, backing.Nodup ∧
      (backing.map readersUnlocked.item).Perm task.held ∧
        ∀ entry ∈ backing, (readersUnlocked.entries entry).pid = 2 ∧ readersUnlocked.Granted entry := by
  obtain ⟨task, own⟩ := Option.isSome_iff_exists.mp
    (show (readersUnlocked.tasks 2).isSome = true by decide +kernel)
  exact ⟨task, own,
    disciplined_held_backed (Transition.Machine.Reachable.of_run_getD (by decide +kernel)) 2 task own⟩

section Flagged

variable {s t : Kernel}

/-- Every entry that `grant_lock` has taken has its `granted` flag set. -/
def Kernel.Flagged (s : Kernel) : Prop := ∀ entry, s.Granted entry → (s.entries entry).granted = true

theorem Kernel.Granted.of_env {acted : Pid} (list : t.grantedList = s.grantedList)
    (others : ∀ other ≠ acted, t.tasks other = s.tasks other)
    (entered : ∀ task, t.tasks acted = some task → task.pc = .idle ∨ ∃ call : Syscall, task.pc = call.entry)
    {entry : Ptr} (granted : t.Granted entry) : s.Granted entry := by
  rcases granted with linked | ⟨pid, task, rest, own, pc⟩
  · exact .inl (list ▸ linked)
  · have different : pid ≠ acted := by
      rintro rfl
      rcases entered task own with idle | ⟨call, entry⟩
      · rw [idle] at pc
        cases pc
      · rw [entry] at pc
        cases call <;> cases pc
    exact .inr ⟨pid, task, rest, (others pid different).symm.trans own, pc⟩

theorem Kernel.Flagged.step (safe : Safe s) (heap : s.HeapSound) (flagged : s.Flagged) {a : Action}
    (stepped : step s a = some t) : t.Flagged := by
  intro entry granted
  rcases acting : a.taskAlloc? with _ | ⟨pid, alloc⟩
  · obtain ⟨tasks, rfl, others, entered⟩ := step_env acting stepped
    exact flagged entry (Kernel.Granted.of_env (s := s) (t := { s with tasks }) rfl others entered granted)
  · obtain ⟨task, own, -, clear, stepped⟩ := step_task stepped acting
    rcases granted_of_taskStep own stepped granted with old | ⟨rest, setting⟩
    · exact taskStep_granted stepped (heap.keeps_granted safe.bounded clear old).1 (flagged entry old)
    · rw [setting] at stepped
      cases stepped
      simp [setGranted]

end Flagged

/-- In every state of every interleaving the entries of `granted_list` have their `granted` flag
set: `grant_lock` links only an entry whose flag it has set, and no step clears a flag. -/
theorem granted_flagged {s : Kernel} (reachable : Reachable s) :
    ∀ entry ∈ s.grantedList, (s.entries entry).granted = true := by
  have start : (Safe Kernel.init ∧ Kernel.init.HeapSound) ∧ Kernel.init.Flagged := by
    refine ⟨⟨safe_init, Kernel.HeapSound.init⟩, fun entry granted => ?_⟩
    rcases granted with linked | ⟨pid, task, rest, own, -⟩
    · simp [Kernel.init] at linked
    · simp [Kernel.init] at own
  have stable : machine.Stable fun s => (Safe s ∧ s.HeapSound) ∧ s.Flagged := by
    rintro _ _ _ ⟨sound, flagged⟩ stepped
    exact ⟨Safe.stable _ _ _ sound stepped, flagged.step sound.1 sound.2 stepped⟩
  intro entry linked
  exact (Transition.Machine.invariant_of_stable start stable s reachable).2 entry (.inl linked)

theorem granted_flagged_grantedOnce :
    2 ∈ grantedOnce.grantedList ∧ (grantedOnce.entries 2).granted = true := by
  have linked : 2 ∈ grantedOnce.grantedList := by decide +kernel
  exact ⟨linked, granted_flagged (Transition.Machine.Reachable.of_run_getD (by decide +kernel)) 2 linked⟩

section Waits

variable {s t : Kernel} {pid : Pid} {task : Task} {alloc : Alloc}

/-- Where an entry a task waits on is: linked in `granted_list`, or queued in `waiters_list`
with no pass yet at its `list_del`. -/
def Kernel.Linked (s : Kernel) (entry : Ptr) : Prop :=
  entry ∈ s.grantedList ∨ entry ∈ s.waitersList ∧ ¬ s.Delisting entry

/-- The entry a task waits on stays linked from its `list_add_tail` to the loop test that ends
the wait, so neither it nor its range is freed meanwhile. -/
def Kernel.WaitsLinked (s : Kernel) : Prop :=
  ∀ pid task entry, s.tasks pid = some task → task.pc.waitEntry = some entry →
    task.pc = .lockEnqueue entry ∨ s.Linked entry

theorem Kernel.WaitsLinked.keeps (linked : s.WaitsLinked) (heap : s.HeapSound) (bounded : Bounded s)
    {pc : Pc} (clear : alloc.Clear s pc) (own : s.tasks pid = some task) {entry : Ptr}
    (waiting : task.pc.waitEntry = some entry) :
    s.Keeps alloc entry ∧ s.Keeps alloc (s.entries entry).range := by
  refine heap.keeps_tracked bounded clear ?_
  rcases linked pid task entry own waiting with enqueuing | inGranted | ⟨inWaiters, -⟩
  · exact .inr (.inr ⟨pid, task, own, enqueuing⟩)
  · exact .inl inGranted
  · exact .inr (.inl inWaiters)

theorem Pc.Flow.into_setDelWaiter {p : Pc} {entry : Ptr} {rest : List Ptr}
    (flow : Pc.Flow p (.setDelWaiter entry rest)) : p = .setAddGranted entry rest := by
  cases flow
  rfl

theorem Pc.Flow.of_lockEntry {type : EntryType} {korient : Ptr} {next : Pc}
    (flow : Pc.Flow (.lockEntry type korient) next) : next = .idle ∨ ∃ entry, next = .lockEnqueue entry := by
  cases flow
  · exact .inl rfl
  · exact .inr ⟨_, rfl⟩

theorem Kernel.Delisting.of_taskStep (own : s.tasks pid = some task)
    (stepped : OrientLock.taskStep s pid task.pc alloc = some t) {entry : Ptr} (delisting : t.Delisting entry) :
    s.Delisting entry ∨ ∃ rest, task.pc = .setAddGranted entry rest := by
  obtain ⟨other, after, rest, now, pc⟩ := delisting
  by_cases actor : other = pid
  · subst actor
    have flow := taskStep_flow own stepped now
    rw [pc] at flow
    exact .inr ⟨rest, flow.into_setDelWaiter⟩
  · obtain ⟨before, was, samePc⟩ := taskStep_other stepped actor now
    exact .inl ⟨other, before, rest, was, samePc.trans pc⟩

theorem Kernel.Delisting.of_env {tasks : Pid → Option Task} {acted : Pid}
    (others : ∀ other ≠ acted, tasks other = s.tasks other)
    (idle : ∀ task, s.tasks acted = some task → task.pc = .idle)
    (entered : ∀ task, tasks acted = some task → task.pc = .idle ∨ ∃ call : Syscall, task.pc = call.entry)
    {entry : Ptr} (delisting : ({ s with tasks } : Kernel).Delisting entry) : s.Delisting entry := by
  obtain ⟨pid, task, rest, own, pc⟩ := delisting
  have busy : task.pc ≠ .idle := by simp [pc]
  have inside : ∀ call : Syscall, task.pc ≠ call.entry := by
    intro call
    rw [pc]
    cases call <;> simp [Syscall.entry]
  exact ⟨pid, task, rest, (env_task_iff others idle entered busy inside).mp own, pc⟩

theorem Kernel.Linked.taskStep (own : s.tasks pid = some task)
    (stepped : OrientLock.taskStep s pid task.pc alloc = some t) {entry : Ptr} (linked : s.Linked entry)
    (kept : entry ∈ s.grantedList → entry ∈ t.grantedList) : t.Linked entry := by
  rcases linked with inGranted | ⟨inWaiters, notDelisting⟩
  · exact .inl (kept inGranted)
  · by_cases adding : ∃ rest, task.pc = .setAddGranted entry rest
    · obtain ⟨rest, pc⟩ := adding
      rw [pc] at stepped
      cases stepped
      exact .inl (by simp)
    · refine .inr ⟨?_, fun delisting => ?_⟩
      · rcases taskStep_waitersList stepped with same | ⟨current, rest, pc, erased⟩ |
          ⟨added, -, -, appended⟩
        · exact same ▸ inWaiters
        · have different : entry ≠ current := by
            rintro rfl
            exact notDelisting ⟨pid, task, rest, own, pc⟩
          rw [erased]
          exact (List.mem_erase_of_ne different).mpr inWaiters
        · rw [appended]
          exact List.mem_append_left _ inWaiters
      · rcases delisting.of_taskStep own stepped with was | moved
        · exact notDelisting was
        · exact adding moved

theorem Kernel.WaitsLinked.taskStep_actor (linked : s.WaitsLinked) (heap : s.HeapSound)
    (own : s.tasks pid = some task) (stepped : OrientLock.taskStep s pid task.pc alloc = some t)
    {task' : Task} (now : t.tasks pid = some task') {entry : Ptr} (waiting : task'.pc.waitEntry = some entry) :
    task'.pc = .lockEnqueue entry ∨ t.Linked entry := by
  have flow := taskStep_flow own stepped now
  rcases flow.waitEntry waiting with old | ⟨type, korient, pc⟩
  · by_cases enqueuing : task.pc = .lockEnqueue entry
    · obtain ⟨notWaiting, -, -, -, -⟩ := heap.fresh pid task entry own enqueuing
      refine .inr (.inr ⟨?_, fun delisting => ?_⟩)
      · rcases taskStep_waitersList stepped with same | ⟨current, rest, pc, -⟩ | ⟨added, pc, -, appended⟩
        · rw [enqueuing] at stepped
          simp only [taskStep] at stepped
          split at stepped
          · cases stepped
          · cases stepped
            simp at same
        · rw [enqueuing] at pc
          cases pc
        · rw [enqueuing, Pc.lockEnqueue.injEq] at pc
          rw [appended, ← pc]
          exact List.mem_append_right _ (List.mem_singleton_self _)
      · rcases delisting.of_taskStep own stepped with ⟨other, holder, rest, was, pc⟩ | ⟨rest, pc⟩
        · exact notWaiting (heap.queued_entryPtrs was (by simp [pc, Pc.holdsWaitersLock])
            (by simp [pc, Pc.entryPtrs]))
        · rw [enqueuing] at pc
          cases pc
    · rcases linked pid task entry own old with queued | linkedS
      · exact absurd queued enqueuing
      · have sameList : t.grantedList = s.grantedList := by
          rcases taskStep_grantedList stepped with same | ⟨pc, -⟩ | ⟨_, _, pc, -⟩ | ⟨_, _, _, pc, -⟩
          · exact same
          all_goals simp [pc, Pc.waitEntry] at old
        exact .inr (linkedS.taskStep own stepped fun inside => sameList ▸ inside)
  · rw [pc] at flow
    rcases flow.of_lockEntry with idle | ⟨queued, entered⟩
    · simp [idle, Pc.waitEntry] at waiting
    · rw [entered] at waiting ⊢
      simp only [Pc.waitEntry, Option.some.injEq] at waiting
      exact .inl (waiting ▸ rfl)

theorem Kernel.WaitsLinked.taskStep (linked : s.WaitsLinked) (safe : Safe s) (heap : s.HeapSound)
    (shaped : s.Shaped) (backed : s.Backed) (owned : s.WaitOwned) (own : s.tasks pid = some task)
    (stepped : OrientLock.taskStep s pid task.pc alloc = some t) : t.WaitsLinked := by
  intro other after entry now waiting
  by_cases actor : other = pid
  · subst actor
    exact linked.taskStep_actor heap own stepped now waiting
  · obtain ⟨before, was, samePc⟩ := taskStep_other stepped actor now
    rw [← samePc] at waiting ⊢
    rcases linked other before entry was waiting with queued | linkedS
    · exact .inl queued
    · refine .inr (linkedS.taskStep own stepped fun inside => ?_)
      by_contra unlinked
      have owner := owned other before was entry waiting
      have busy : before.Busy := .inr (.inl fun idle => by simp [idle, Pc.waitEntry] at waiting)
      rcases backed.unlinks_own_taskStep safe own stepped inside unlinked with ⟨-, mine⟩ | ⟨-, dropped⟩
      · exact actor (owner.symm.trans mine)
      · rw [owner, ((backed other before was).awake busy).isRunning was (shaped other before was)] at dropped
        cases dropped

theorem Kernel.WaitsLinked.step (reachable : Reachable s) (backed : s.Backed) (linked : s.WaitsLinked)
    {a : Action} (stepped : step s a = some t) : t.WaitsLinked := by
  have heap := Kernel.HeapSound.of_reachable reachable
  rcases acting : a.taskAlloc? with _ | ⟨pid, alloc⟩
  · have idle := heap.env_idle acting stepped
    obtain ⟨tasks, rfl, others, actor⟩ := step_env acting stepped
    intro pid task' entry now waiting
    by_cases same : pid = a.pid
    · subst same
      rcases actor task' now with idle | ⟨call, entered⟩
      · simp [idle, Pc.waitEntry] at waiting
      · simp [entered] at waiting
    · rcases linked pid task' entry ((others pid same).symm.trans now) waiting with queued | inGranted |
        ⟨inWaiters, notDelisting⟩
      · exact .inl queued
      · exact .inr (.inl inGranted)
      · exact .inr (.inr ⟨inWaiters, fun delisting => notDelisting (delisting.of_env others idle actor)⟩)
  · obtain ⟨task, own, -, -, stepped⟩ := step_task stepped acting
    exact linked.taskStep (safe_of_reachable reachable) heap (Kernel.Shaped.of_reachable reachable)
      backed (waitOwned_of_reachable reachable) own stepped

/-- With disciplined clients the entry a task waits on stays linked. -/
theorem Kernel.WaitsLinked.of_disciplined (reachable : disciplinedMachine.Reachable s) : s.WaitsLinked := by
  have start : Kernel.init.Backed ∧ Kernel.init.WaitsLinked :=
    ⟨fun _ _ none_ => by simp [Kernel.init] at none_, fun _ _ _ none_ => by simp [Kernel.init] at none_⟩
  have stable : ∀ s a t, Reachable s → s.Backed ∧ s.WaitsLinked → a.Disciplined s = true →
      OrientLock.step s a = some t → t.Backed ∧ t.WaitsLinked := by
    rintro s a t reachable ⟨backed, linked⟩ admitted stepped
    exact ⟨backed.step reachable admitted stepped, linked.step reachable backed stepped⟩
  exact (Transition.Machine.restrict_invariant start stable s reachable).2

end Waits

end OrientLock
