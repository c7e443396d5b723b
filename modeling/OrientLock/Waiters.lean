import OrientLock.Heap

set_option autoImplicit false

/- The life of an entry in `waiters_list`. The task that allocated it queues it once and then
waits on it; it leaves the list only through `grant_lock`, and no later run queues or grants it
again. While it is queued, its task is still in the wait loop on it, or `grant_lock` is moving
it, so no grant is spent on a task that has left. -/
namespace OrientLock

section Awaited

variable {s t : Kernel} {pid : Pid} {task : Task} {alloc : Alloc}

theorem taskStep_actor_waiting (own : s.tasks pid = some task)
    (stepped : taskStep s pid task.pc alloc = some t) {entry : Ptr} (waiting : task.pc.waitEntry = some entry) :
    (∃ task', t.tasks pid = some task' ∧ task'.pc.waitEntry = some entry) ∨
      task.pc = .lockTest entry ∧ (s.entries entry).granted = true := by
  have moved : ∀ {pc : Pc} {f : Task → Task}, (f task).pc = pc → pc.waitEntry = some entry →
      ∃ task', (s.updateTask pid f).tasks pid = some task' ∧ task'.pc.waitEntry = some entry :=
    fun {_ _} next kept => ⟨_, by simp [Kernel.updateTask_tasks, own], next ▸ kept⟩
  cases pc : task.pc with
  | lockEnqueue current =>
    rw [pc] at stepped waiting
    cases waiting
    simp only [taskStep] at stepped
    split at stepped
    · cases stepped
    · cases stepped
      exact .inl (moved rfl rfl)
  | lockAddWait current =>
    rw [pc] at stepped waiting
    cases waiting
    cases stepped
    exact .inl (moved rfl rfl)
  | lockTest current =>
    rw [pc] at stepped waiting
    cases waiting
    by_cases flag : (s.entries entry).granted = true
    · exact .inr ⟨rfl, flag⟩
    · simp only [taskStep, if_neg flag] at stepped
      cases stepped
      exact .inl (moved rfl rfl)
  | lockPrepare current =>
    rw [pc] at stepped waiting
    cases waiting
    cases stepped
    exact .inl (moved rfl rfl)
  | lockSchedule current =>
    rw [pc] at stepped waiting
    cases waiting
    cases stepped
    exact .inl (moved rfl rfl)
  | _ =>
    rw [pc] at waiting
    cases waiting

/-- An entry its task waits on, or one `grant_lock` is moving. -/
def Kernel.Awaited (s : Kernel) (entry : Ptr) : Prop :=
  (∃ pid task, s.tasks pid = some task ∧ task.pc.waitEntry = some entry) ∨ s.Granting entry

/-- Every entry of `waiters_list` is awaited. -/
def Kernel.WaitersAwaited (s : Kernel) : Prop := ∀ entry ∈ s.waitersList, s.Awaited entry

theorem Kernel.Awaited.taskStep (heap : s.HeapSound) (clear : s.FlagsClear) (own : s.tasks pid = some task)
    (stepped : OrientLock.taskStep s pid task.pc alloc = some t) {entry : Ptr} (inWaiters : entry ∈ s.waitersList)
    (now : entry ∈ t.waitersList) (awaited : s.Awaited entry) : t.Awaited entry := by
  have granting : s.Granting entry → t.Awaited entry := by
    intro granting
    rcases granting.taskStep stepped with kept | ⟨rest, before, was, adding | deleting⟩
    · exact .inr kept
    · rw [own, Option.some.injEq] at was
      subst was
      exact .inr (taskStep_setAddGranted_delisting own adding stepped).granting
    · rw [own, Option.some.injEq] at was
      subst was
      exact absurd now (heap.delWaiter_gone deleting stepped)
  rcases awaited with ⟨q, waiter, was, waiting⟩ | moving
  · by_cases actor : q = pid
    · subst actor
      rw [own, Option.some.injEq] at was
      subst was
      rcases taskStep_actor_waiting own stepped waiting with still | ⟨-, flagged⟩
      · exact .inl ⟨q, still⟩
      · exact granting (clear.waiting entry inWaiters flagged)
    · rcases taskStep_other_task stepped actor with same | ⟨-, woken⟩
      · exact .inl ⟨q, waiter, same.trans was, waiting⟩
      · exact .inl ⟨q, waiter.wake, by rw [woken, was]; rfl, by rw [Task.wake_pc]; exact waiting⟩
  · exact granting moving

theorem Kernel.WaitersAwaited.taskStep (heap : s.HeapSound) (clear : s.FlagsClear)
    (awaited : s.WaitersAwaited) (own : s.tasks pid = some task)
    (stepped : OrientLock.taskStep s pid task.pc alloc = some t) : t.WaitersAwaited := by
  intro entry now
  have old : entry ∈ s.waitersList → t.Awaited entry := fun inWaiters =>
    (awaited entry inWaiters).taskStep heap clear own stepped inWaiters now
  rcases taskStep_waitersList stepped with same | ⟨_, _, _, erased⟩ | ⟨added, enqueuing, -, appended⟩
  · exact old (same ▸ now)
  · exact old (List.mem_of_mem_erase (erased ▸ now))
  · rw [appended, List.mem_append, List.mem_singleton] at now
    rcases now with inWaiters | rfl
    · exact old inWaiters
    · rcases taskStep_actor_waiting own stepped (by rw [enqueuing]; rfl) with waiting | ⟨testing, -⟩
      · exact .inl ⟨pid, waiting⟩
      · rw [enqueuing] at testing
        cases testing

theorem Kernel.WaitersAwaited.step_env (heap : s.HeapSound) (awaited : s.WaitersAwaited) {a : Action}
    (notRun : a.taskAlloc? = none) (stepped : step s a = some t) : t.WaitersAwaited := by
  have idle := heap.env_idle notRun stepped
  obtain ⟨tasks, rfl, others, entered⟩ := OrientLock.step_env notRun stepped
  intro entry inWaiters
  rcases awaited entry inWaiters with ⟨q, waiter, was, waiting⟩ | granting
  · have busy : waiter.pc ≠ .idle := fun stillIdle => by simp [stillIdle, Pc.waitEntry] at waiting
    have inside : ∀ call : Syscall, waiter.pc ≠ call.entry := fun call entry => by
      simp [entry] at waiting
    exact .inl ⟨q, waiter, (env_task_iff others idle entered busy inside).mpr was, waiting⟩
  · exact .inr (granting.env others idle entered)

theorem Kernel.WaitersAwaited.step (heap : s.HeapSound) (clear : s.FlagsClear)
    (awaited : s.WaitersAwaited) {a : Action} (stepped : step s a = some t) : t.WaitersAwaited := by
  rcases acting : a.taskAlloc? with _ | ⟨pid, alloc⟩
  · exact awaited.step_env heap acting stepped
  · obtain ⟨task, own, -, -, stepped⟩ := step_task stepped acting
    exact awaited.taskStep heap clear own stepped

end Awaited

/-- No waiter is orphaned: in every state of every interleaving, each entry of `waiters_list`
is the entry its task is waiting on in the loop of `orientlock_*`, or the one `grant_lock` is
moving from its `atomic_set` to its `list_del`. -/
theorem waiters_awaited {s : Kernel} (reachable : Reachable s) :
    ∀ entry ∈ s.waitersList, (∃ pid task, s.tasks pid = some task ∧ task.pc.waitEntry = some entry) ∨
      ∃ pid task rest, s.tasks pid = some task ∧
        (task.pc = .setAddGranted entry rest ∨ task.pc = .setDelWaiter entry rest) := by
  have start : (Bounded Kernel.init ∧ waitersLockSpin.Owned Kernel.init ∧ Kernel.init.HeapSound) ∧
      Kernel.init.FlagsClear ∧ Kernel.init.WaitersAwaited :=
    ⟨⟨bounded_init, SpinLock.owned_init, Kernel.HeapSound.init⟩,
      ⟨fun _ inside => by simp [Kernel.init] at inside, fun _ _ _ none_ => by simp [Kernel.init] at none_⟩,
      fun _ inside => by simp [Kernel.init] at inside⟩
  have stable : machine.Stable fun s =>
      (Bounded s ∧ waitersLockSpin.Owned s ∧ s.HeapSound) ∧ s.FlagsClear ∧ s.WaitersAwaited := by
    rintro _ _ _ ⟨sound, flags, awaited⟩ stepped
    exact ⟨Kernel.HeapSound.stable _ _ _ sound stepped, flags.step sound.2.2 sound.1 stepped,
      awaited.step sound.2.2 flags stepped⟩
  exact (Transition.Machine.invariant_of_stable start stable s reachable).2.2

/-- Task 1 queued a read lock of `wholeRange` and is at its wait loop's test. -/
def queuedReader : Kernel :=
  (machine.run machine.init
    ([.spawn 1, .call 1 (.orientlockRead (.mapped wholeRange))] ++ runs 1 4)).getD Kernel.init

theorem waiters_awaited_queuedReader :
    2 ∈ queuedReader.waitersList ∧ ∀ entry ∈ queuedReader.waitersList,
      (∃ pid task, queuedReader.tasks pid = some task ∧ task.pc.waitEntry = some entry) ∨
        ∃ pid task rest, queuedReader.tasks pid = some task ∧
          (task.pc = .setAddGranted entry rest ∨ task.pc = .setDelWaiter entry rest) :=
  ⟨by decide +kernel, waiters_awaited (Transition.Machine.Reachable.of_run_getD (by decide +kernel))⟩

section Dequeued

variable {s t : Kernel} {entry : Ptr}

/-- The runs in which `kmalloc` does not hand `object` out again. -/
def keepingMachine (object : Ptr) : Transition.Machine Kernel Action :=
  machine.restrict fun _ a => a.reuses object = false

/-- What keeps an entry out of `waiters_list` while `kmalloc` does not hand it out again: it is
not there, no task is at the `list_add_tail` of it, and it was allocated. -/
structure Kernel.Dequeued (s : Kernel) (entry : Ptr) : Prop where
  unqueued : entry ∉ s.waitersList
  notEnqueuing : ¬ s.Enqueuing entry
  allocated : entry < s.brk

theorem Kernel.Dequeued.taskStep {pid : Pid} {task : Task} {alloc : Alloc} (dequeued : s.Dequeued entry)
    (own : s.tasks pid = some task) (kept : alloc ≠ .reuse entry)
    (stepped : OrientLock.taskStep s pid task.pc alloc = some t) : t.Dequeued entry where
  unqueued := by
    rcases taskStep_waitersList stepped with same | ⟨_, _, _, erased⟩ | ⟨added, enqueuing, -, appended⟩
    · rw [same]
      exact dequeued.unqueued
    · rw [erased]
      exact fun inside => dequeued.unqueued (List.mem_of_mem_erase inside)
    · rw [appended, List.mem_append, List.mem_singleton]
      rintro (old | rfl)
      · exact dequeued.unqueued old
      · exact dequeued.notEnqueuing ⟨pid, task, own, enqueuing⟩
  notEnqueuing := by
    rintro ⟨other, task', after, enqueuing⟩
    by_cases actor : other = pid
    · subst actor
      obtain ⟨_, _, -, hands, -, -, -⟩ := taskStep_actor_enqueuing own stepped after enqueuing
      exact hands.ne ⟨dequeued.allocated, kept⟩ rfl
    · obtain ⟨before, was, samePc⟩ := taskStep_other stepped actor after
      exact dequeued.notEnqueuing ⟨other, before, was, samePc.trans enqueuing⟩
  allocated := Nat.lt_of_lt_of_le dequeued.allocated (taskStep_brk stepped)

theorem Kernel.Dequeued.step_env (dequeued : s.Dequeued entry) {a : Action}
    (notRun : a.taskAlloc? = none) (stepped : step s a = some t) : t.Dequeued entry := by
  obtain ⟨tasks, rfl, others, entered⟩ := OrientLock.step_env notRun stepped
  refine ⟨dequeued.unqueued, ?_, dequeued.allocated⟩
  rintro ⟨q, task, after, enqueuing⟩
  by_cases acting : q = a.pid
  · subst acting
    rcases entered task after with idle | ⟨call, entry⟩
    · rw [idle] at enqueuing
      cases enqueuing
    · exact Pc.lockEnqueue_ne_entry _ call (enqueuing.symm.trans entry)
  · exact dequeued.notEnqueuing ⟨q, task, (others q acting).symm.trans after, enqueuing⟩

theorem Kernel.Dequeued.step (dequeued : s.Dequeued entry) {a : Action}
    (stepped : (keepingMachine entry).step s a = some t) : t.Dequeued entry := by
  obtain ⟨fresh, stepped⟩ := Transition.Machine.restrict_step stepped
  rcases acting : a.taskAlloc? with _ | ⟨pid, alloc⟩
  · exact dequeued.step_env acting stepped
  · obtain ⟨task, own, -, -, stepped⟩ := step_task stepped acting
    exact dequeued.taskStep own (Action.taskAlloc?_ne_reuse acting fresh) stepped

end Dequeued

/-- A request is granted at most once: once `grant_lock` has moved an entry from
`waiters_list` to `granted_list`, no later state of a run in which `kmalloc` does not hand the
entry out again has it queued again, and no pass there reaches the `atomic_set` of it again. -/
theorem granted_at_most_once {s : Kernel} (reachable : Reachable s) {entry : Ptr}
    (granted : entry ∈ s.grantedList) (unqueued : entry ∉ s.waitersList) {t : Kernel}
    (later : (keepingMachine entry).ReachableFrom s t) :
    entry ∉ t.waitersList ∧ ∀ pid task rest, t.tasks pid = some task → task.pc ≠ .setGranted entry rest := by
  have heap := Kernel.HeapSound.of_reachable reachable
  have notEnqueuing : ¬ s.Enqueuing entry := by
    rintro ⟨pid, task, own, enqueuing⟩
    exact (heap.fresh pid task entry own enqueuing).2.1 granted
  have start : s.Dequeued entry :=
    ⟨unqueued, notEnqueuing, ((bounded_of_reachable reachable).granted entry granted).1⟩
  have stable : (keepingMachine entry).Stable fun u => u.Dequeued entry :=
    fun _ _ _ kept stepped => kept.step stepped
  have dequeued : t.Dequeued entry := Transition.Machine.ReachableFrom.stable stable start later
  refine ⟨dequeued.unqueued, fun pid task rest own setting => ?_⟩
  have heapLater := Kernel.HeapSound.of_reachable
    (Transition.Machine.ReachableFrom.trans reachable (Transition.Machine.ReachableFrom.of_restrict later))
  exact dequeued.unqueued (heapLater.setting_queued own setting)

theorem granted_at_most_once_secondPass :
    ∃ t, (keepingMachine 2).run grantedOnce ([.call 2 (.setOrientation (.mapped default))] ++ runs 2 5) =
        some t ∧
      2 ∉ t.waitersList ∧ ∀ pid task rest, t.tasks pid = some task → task.pc ≠ .setGranted 2 rest := by
  obtain ⟨t, ran⟩ := Option.isSome_iff_exists.mp
    (show ((keepingMachine 2).run grantedOnce
      ([.call 2 (.setOrientation (.mapped default))] ++ runs 2 5)).isSome = true by decide +kernel)
  exact ⟨t, ran, granted_at_most_once (Transition.Machine.Reachable.of_run_getD (by decide +kernel))
    (by decide +kernel) (by decide +kernel) (Transition.Machine.ReachableFrom.of_run ran)⟩

end OrientLock
