import OrientLock.System

set_option autoImplicit false

/- What one step can change, field by field, and the invariant that every address the lists
and the tasks' locals hold was allocated. The safety invariants of the later modules are
derived from these lemmas rather than from `taskStep` itself. -/
namespace OrientLock

@[simp] theorem Kernel.goto_eq (s : Kernel) (pid : Pid) (pc : Pc) :
    s.goto pid pc = s.updateTask pid fun task => { task with pc := pc } := rfl

theorem Kernel.goto_pc {s : Kernel} {pid : Pid} {pc : Pc} {task : Task}
    (after : (s.goto pid pc).tasks pid = some task) : task.pc = pc := by
  simp only [Kernel.goto_eq, Kernel.updateTask_tasks, ite_true, Option.map_eq_some_iff] at after
  obtain ⟨_, -, rfl⟩ := after
  rfl

theorem Kernel.updateTask_other (s : Kernel) {pid other : Pid} (different : other ≠ pid)
    (f : Task → Task) : (s.updateTask pid f).tasks other = s.tasks other := by
  simp [Kernel.updateTask_tasks, different]

@[simp] theorem Task.wake_pc (task : Task) : task.wake.pc = task.pc := by
  unfold Task.wake
  split <;> rfl

@[simp] theorem wakeUp_brk (s : Kernel) : (wakeUp s).brk = s.brk := rfl
@[simp] theorem wakeUp_setLock (s : Kernel) : (wakeUp s).setLock = s.setLock := rfl
@[simp] theorem wakeUp_waitersLock (s : Kernel) : (wakeUp s).waitersLock = s.waitersLock := rfl

theorem orientunlock_cases (type : EntryType) (s : Kernel) (caller : Pid)
    (orient : UserPtr OrientationRange) :
    (orientunlock type s caller orient).2 = s ∨
      ∃ entry, (orientunlock type s caller orient).2 = unlinkGranted s entry := by
  cases type
  · exact orientunlockRead_cases s caller orient
  · exact orientunlockWrite_cases s orient

/-- An entry of `granted_list` as the exclusion argument sees it: its type and range. -/
def Kernel.item (s : Kernel) (entry : Ptr) : Acquisition := ⟨(s.entries entry).type, s.rangeOf entry⟩

def Kernel.view (s : Kernel) : List Acquisition := s.grantedList.map s.item

section TaskStep

variable {s t : Kernel} {pid : Pid} {pc : Pc} {alloc : Alloc}

theorem taskStep_grantedList (stepped : taskStep s pid pc alloc = some t) :
    t.grantedList = s.grantedList ∨
      (pc = .setRelease ∧ t.grantedList = (releaseDeadTasksLocks s).grantedList) ∨
      (∃ current rest, pc = .setAddGranted current rest ∧
        t.grantedList = s.grantedList ++ [current]) ∨
      (∃ type orient entry, pc = .unlock type orient ∧ t.grantedList = s.grantedList.erase entry) := by
  cases pc with
  | setRelease =>
    cases stepped
    exact .inr (.inl ⟨rfl, by simp⟩)
  | setAddGranted current rest =>
    cases stepped
    exact .inr (.inr (.inl ⟨current, rest, rfl, by simp⟩))
  | unlock type orient =>
    cases stepped
    rcases orientunlock_cases type s pid orient with same | ⟨entry, unlinked⟩
    · exact .inl (by simp [same])
    · exact .inr (.inr (.inr ⟨type, orient, entry, rfl, by simp [unlinked]⟩))
  | setLoop rest =>
    left
    cases rest <;> cases stepped <;> simp
  | _ =>
    left
    revert stepped
    simp only [taskStep]
    repeat' split
    all_goals
      intro stepped
      cases stepped
      try simp

theorem taskStep_waitersList (stepped : taskStep s pid pc alloc = some t) :
    t.waitersList = s.waitersList ∨
      (∃ current rest, pc = .setDelWaiter current rest ∧
        t.waitersList = s.waitersList.erase current) ∨
      (∃ entry, pc = .lockEnqueue entry ∧ s.waitersLock = none ∧
        t.waitersList = s.waitersList ++ [entry]) := by
  cases pc with
  | setDelWaiter current rest =>
    cases stepped
    exact .inr (.inl ⟨current, rest, rfl, by simp⟩)
  | lockEnqueue entry =>
    simp only [taskStep] at stepped
    split at stepped
    · cases stepped
    · next free =>
      cases stepped
      simp only [Option.isSome_iff_ne_none, ne_eq, Decidable.not_not] at free
      exact .inr (.inr ⟨entry, rfl, free, by simp⟩)
  | unlock type orient =>
    cases stepped
    rcases orientunlock_cases type s pid orient with same | ⟨entry, unlinked⟩
    · exact .inl (by simp [same])
    · exact .inl (by simp [unlinked])
  | setLoop rest =>
    left
    cases rest <;> cases stepped <;> simp
  | _ =>
    left
    revert stepped
    simp only [taskStep]
    repeat' split
    all_goals
      intro stepped
      cases stepped
      try simp

theorem taskStep_brk (stepped : taskStep s pid pc alloc = some t) : s.brk ≤ t.brk := by
  cases pc with
  | lockRange type orient =>
    cases stepped
    simpa using allocRange_brk_ge s orient alloc
  | lockEntry type korient =>
    cases stepped
    simpa using allocEntry_brk_ge s type pid korient alloc
  | unlock type orient =>
    cases stepped
    rcases orientunlock_cases type s pid orient with same | ⟨entry, unlinked⟩ <;>
      simp [*]
  | setLoop rest =>
    cases rest <;> cases stepped <;> simp
  | _ =>
    revert stepped
    simp only [taskStep]
    repeat' split
    all_goals
      intro stepped
      cases stepped
      try simp

theorem taskStep_entries (stepped : taskStep s pid pc alloc = some t) (entry : Ptr) :
    ((t.entries entry).type = (s.entries entry).type ∧
        (t.entries entry).range = (s.entries entry).range ∧ (t.entries entry).pid = (s.entries entry).pid) ∨
      ∃ type korient, pc = .lockEntry type korient ∧ s.Hands alloc entry ∧
        t.entries entry = ⟨korient, false, type, pid⟩ := by
  cases pc with
  | setGranted current rest =>
    cases stepped
    simp
  | lockEntry type korient =>
    cases stepped
    rcases allocEntry_frame s type pid korient alloc with same | ⟨object, _, hands, -, after⟩
    · left
      simp [same]
    · by_cases handed : entry = object
      · subst handed
        exact .inr ⟨type, korient, rfl, hands, by simp [after]⟩
      · left
        simp [after, Function.update_of_ne handed]
  | unlock type orient =>
    left
    cases stepped
    rcases orientunlock_cases type s pid orient with same | ⟨entry, unlinked⟩ <;>
      simp [*]
  | setLoop rest =>
    left
    cases rest <;> cases stepped <;> simp
  | _ =>
    left
    revert stepped
    simp only [taskStep]
    repeat' split
    all_goals
      intro stepped
      cases stepped
      try simp

theorem taskStep_entries_of_keeps (stepped : taskStep s pid pc alloc = some t) {entry : Ptr}
    (keeps : s.Keeps alloc entry) :
    (t.entries entry).type = (s.entries entry).type ∧ (t.entries entry).range = (s.entries entry).range ∧
      (t.entries entry).pid = (s.entries entry).pid :=
  (taskStep_entries stepped entry).resolve_right fun ⟨_, _, _, hands, _⟩ => hands.ne keeps rfl

theorem taskStep_ranges (stepped : taskStep s pid pc alloc = some t) (object : Ptr) :
    t.ranges object = s.ranges object ∨
      ∃ type orient, pc = .lockRange type orient ∧ s.Hands alloc object := by
  cases pc with
  | lockRange type orient =>
    cases stepped
    rcases allocRange_frame s orient alloc with same | ⟨korient, _, hands, after⟩
    · left
      simp [same]
    · by_cases handed : object = korient
      · subst handed
        exact .inr ⟨type, orient, rfl, hands⟩
      · left
        simp [after, Function.update_of_ne handed]
  | unlock type orient =>
    left
    cases stepped
    rcases orientunlock_cases type s pid orient with same | ⟨entry, unlinked⟩ <;>
      simp [*]
  | setLoop rest =>
    left
    cases rest <;> cases stepped <;> simp
  | _ =>
    left
    revert stepped
    simp only [taskStep]
    repeat' split
    all_goals
      intro stepped
      cases stepped
      try simp

theorem taskStep_ranges_of_keeps (stepped : taskStep s pid pc alloc = some t) {object : Ptr}
    (keeps : s.Keeps alloc object) : t.ranges object = s.ranges object :=
  (taskStep_ranges stepped object).resolve_right fun ⟨_, _, _, hands⟩ => hands.ne keeps rfl

theorem taskStep_currentOrient (stepped : taskStep s pid pc alloc = some t) :
    t.currentOrient = s.currentOrient ∨ ∃ orient, pc = .setCopy orient := by
  cases pc with
  | setCopy orient => exact .inr ⟨orient, rfl⟩
  | unlock type orient =>
    left
    cases stepped
    rcases orientunlock_cases type s pid orient with same | ⟨entry, unlinked⟩ <;>
      simp [*]
  | setLoop rest =>
    left
    cases rest <;> cases stepped <;> simp
  | _ =>
    left
    revert stepped
    simp only [taskStep]
    repeat' split
    all_goals
      intro stepped
      cases stepped
      try simp

theorem taskStep_other_task (stepped : taskStep s pid pc alloc = some t) {other : Pid}
    (different : other ≠ pid) :
    t.tasks other = s.tasks other ∨
      ((∃ rest, pc = .setWakeUp rest) ∧ t.tasks other = (s.tasks other).map Task.wake) := by
  cases pc with
  | setWakeUp rest =>
    cases stepped
    exact .inr ⟨⟨rest, rfl⟩, by simp [Kernel.updateTask_other _ different, wakeUp]⟩
  | unlock type orient =>
    left
    cases stepped
    rcases orientunlock_cases type s pid orient with same | ⟨entry, unlinked⟩ <;>
      simp [*, Kernel.updateTask_other _ different]
  | setLoop rest =>
    left
    cases rest <;> cases stepped <;> simp [Kernel.updateTask_other _ different]
  | _ =>
    left
    revert stepped
    simp only [taskStep]
    repeat' split
    all_goals
      intro stepped
      cases stepped
      try simp [Kernel.updateTask_other _ different]

theorem taskStep_other_pc (stepped : taskStep s pid pc alloc = some t) {other : Pid}
    (different : other ≠ pid) : (t.tasks other).map Task.pc = (s.tasks other).map Task.pc := by
  rcases taskStep_other_task stepped different with same | ⟨_, woken⟩
  · rw [same]
  · rw [woken, Option.map_map]
    cases s.tasks other <;> simp

theorem taskStep_granted (stepped : taskStep s pid pc alloc = some t) {entry : Ptr}
    (keeps : s.Keeps alloc entry) (granted : (s.entries entry).granted = true) :
    (t.entries entry).granted = true := by
  cases pc with
  | setGranted current rest =>
    cases stepped
    by_cases same : entry = current
    · subst same
      simp [setGranted]
    · simp [setGranted, Function.update_of_ne same, granted]
  | lockEntry type korient =>
    cases stepped
    simp [allocEntry_entries_of_keeps s type pid korient alloc keeps, granted]
  | unlock type orient =>
    cases stepped
    rcases orientunlock_cases type s pid orient with same | ⟨entry, unlinked⟩ <;>
      simp [*]
  | setLoop rest =>
    cases rest <;> cases stepped <;> simp [granted]
  | _ =>
    revert stepped
    simp only [taskStep]
    repeat' split
    all_goals
      intro stepped
      cases stepped
      try simp [granted]

theorem taskStep_granted_set {pc : Pc} (stepped : taskStep s pid pc alloc = some t) {entry : Ptr}
    (keeps : s.Keeps alloc entry) (granted : (t.entries entry).granted = true) :
    (s.entries entry).granted = true ∨ ∃ rest, pc = .setGranted entry rest := by
  cases pc with
  | setGranted current rest =>
    cases stepped
    by_cases same : entry = current
    · subst same
      exact .inr ⟨rest, rfl⟩
    · left
      simpa [setGranted, Function.update_of_ne same] using granted
  | lockEntry type korient =>
    cases stepped
    left
    simpa [allocEntry_entries_of_keeps s type pid korient alloc keeps] using granted
  | unlock type orient =>
    cases stepped
    left
    rcases orientunlock_cases type s pid orient with same | ⟨removed, unlinked⟩
    · simpa [same] using granted
    · simpa [unlinked] using granted
  | setLoop rest =>
    left
    cases rest <;> cases stepped <;> simpa using granted
  | _ =>
    left
    revert stepped
    simp only [taskStep]
    repeat' split
    all_goals
      intro stepped
      cases stepped
      try simpa using granted

end TaskStep

theorem orientunlock_mapped (type : EntryType) (s : Kernel) (caller : Pid) (range : OrientationRange) :
    (orientunlock type s caller (.mapped range)).2 = s ∨
      ∃ entry ∈ s.grantedList, s.item entry = ⟨type, range⟩ ∧
        (type = .reader → (s.entries entry).pid = caller) ∧
        orientunlock type s caller (.mapped range) = (0, unlinkGranted s entry) := by
  cases type with
  | reader =>
    simp only [orientunlock, orientunlockRead, copyFromUser, Bool.false_eq_true, ↓reduceIte]
    split
    · next entry found =>
      have matched := List.find?_some found
      simp only [unlockMatches, Bool.and_eq_true, rangeEquals_iff, beq_iff_eq] at matched
      obtain ⟨⟨sameRange, reader⟩, caller⟩ := matched
      exact .inr ⟨entry, List.mem_of_find?_eq_some found, by simp [Kernel.item, reader, sameRange],
        fun _ => caller.symm, rfl⟩
    · exact .inl rfl
  | writer =>
    simp only [orientunlock, orientunlockWrite, copyFromUser, Bool.false_eq_true, ↓reduceIte]
    split
    · next entry found =>
      have matched := List.find?_some found
      simp only [unlockMatches, Bool.and_eq_true, rangeEquals_iff, beq_iff_eq] at matched
      obtain ⟨sameRange, writer⟩ := matched
      exact .inr ⟨entry, List.mem_of_find?_eq_some found, by simp [Kernel.item, writer, sameRange],
        by simp, rfl⟩
    · exact .inl rfl

theorem orientunlock_unmapped (type : EntryType) (s : Kernel) (caller : Pid) :
    orientunlock type s caller .unmapped = (-efault, s) := by
  cases type <;> rfl

/-- The task an action is about. -/
def Action.pid : Action → Pid
  | .call pid _ | .run pid _ | .reuse pid _ | .setState pid _ | .exit pid | .reap pid | .spawn pid => pid

/-- The task that takes a step of its syscall in this action, with what `kmalloc` does in it. -/
def Action.taskAlloc? : Action → Option (Pid × Alloc)
  | .run pid nomem => some (pid, .ofNomem nomem)
  | .reuse pid object => some (pid, .reuse object)
  | _ => none

theorem Action.pid_of_taskAlloc? {a : Action} {pid : Pid} {alloc : Alloc}
    (acting : a.taskAlloc? = some (pid, alloc)) : a.pid = pid := by
  cases a <;> simp_all [Action.taskAlloc?, Action.pid]

/-- The step hands `object` out again: a `reuse` of it. -/
def Action.reuses (object : Ptr) : Action → Bool
  | .reuse _ freed => freed == object
  | _ => false

theorem Action.taskAlloc?_ne_reuse {a : Action} {pid : Pid} {alloc : Alloc} {object : Ptr}
    (acting : a.taskAlloc? = some (pid, alloc)) (fresh : a.reuses object = false) :
    alloc ≠ .reuse object := by
  rintro rfl
  cases a with
  | run actor nomem => cases nomem <;> simp [Action.taskAlloc?] at acting
  | reuse actor freed =>
    simp only [Action.taskAlloc?, Option.some.injEq, Prod.mk.injEq, Alloc.reuse.injEq] at acting
    simp [Action.reuses, acting.2] at fresh
  | _ => simp [Action.taskAlloc?] at acting

/-- What the machine lets `kmalloc` return in a task's step at `pc`: a `reuse` only at a
`kmalloc` and only of a reusable object. -/
def Alloc.Clear (s : Kernel) (pc : Pc) : Alloc → Prop
  | .reuse object => pc.allocates = true ∧ s.Reusable object
  | _ => True

theorem Action.run_or_allocates {s : Kernel} {pc : Pc} {a : Action} {pid : Pid} {alloc : Alloc}
    (acting : a.taskAlloc? = some (pid, alloc)) (clear : alloc.Clear s pc) :
    (∃ nomem, a = .run pid nomem) ∨ pc.allocates = true := by
  cases a with
  | run actor nomem =>
    obtain ⟨rfl, -⟩ := Prod.mk.inj (Option.some.inj acting)
    exact .inl ⟨nomem, rfl⟩
  | reuse actor object =>
    obtain ⟨rfl, rfl⟩ := Prod.mk.inj (Option.some.inj acting)
    exact .inr clear.1
  | _ => simp [Action.taskAlloc?] at acting

theorem Alloc.Clear.keeps {s : Kernel} {pc : Pc} {alloc : Alloc} (clear : alloc.Clear s pc)
    {object : Ptr} (below : object < s.brk) (used : ¬ s.Reusable object) : s.Keeps alloc object := by
  refine ⟨below, ?_⟩
  rintro rfl
  exact used clear.2

theorem Kernel.not_reusable_of_live {s : Kernel} {object : Ptr} (alive : s.live object = true) :
    ¬ s.Reusable object := fun reusable => by simp [reusable.2.1] at alive

theorem Kernel.not_reusable_of_waiting {s : Kernel} {object : Ptr} (inside : object ∈ s.waitersList) :
    ¬ s.Reusable object := fun reusable => reusable.2.2.1 inside

theorem Kernel.not_reusable_of_granted {s : Kernel} {object : Ptr} (inside : object ∈ s.grantedList) :
    ¬ s.Reusable object := fun reusable => reusable.2.2.2.1 inside

theorem Kernel.not_reusable_range {s : Kernel} {entry : Ptr}
    (listed : entry ∈ s.waitersList ∨ entry ∈ s.grantedList) : ¬ s.Reusable (s.entries entry).range :=
  fun reusable => reusable.2.2.2.2.1 entry (List.mem_append.mpr listed) rfl

theorem step_task {s t : Kernel} {a : Action} {pid : Pid} {alloc : Alloc}
    (stepped : step s a = some t) (acting : a.taskAlloc? = some (pid, alloc)) :
    ∃ task, s.tasks pid = some task ∧ task.Runnable ∧ alloc.Clear s task.pc ∧
      taskStep s pid task.pc alloc = some t := by
  cases a with
  | run actor nomem =>
    simp only [Action.taskAlloc?, Option.some.injEq, Prod.mk.injEq] at acting
    obtain ⟨rfl, rfl⟩ := acting
    simp only [step] at stepped
    split at stepped
    · next task own =>
      split at stepped
      · exact ⟨task, own, by assumption, by cases nomem <;> trivial, stepped⟩
      · cases stepped
    · cases stepped
  | reuse actor object =>
    simp only [Action.taskAlloc?, Option.some.injEq, Prod.mk.injEq] at acting
    obtain ⟨rfl, rfl⟩ := acting
    simp only [step] at stepped
    split at stepped
    · next task own =>
      split at stepped
      · next admitted => exact ⟨task, own, admitted.1, admitted.2, stepped⟩
      · cases stepped
    · cases stepped
  | _ => simp [Action.taskAlloc?] at acting

theorem step_env_busy {s : Kernel} {a : Action} (notRun : a.taskAlloc? = none)
    {task : Task} (own : s.tasks a.pid = some task) (busy : task.pc ≠ .idle) (alive : task.exitState = 0) :
    step s a = none := by
  cases a with
  | run | reuse => simp [Action.taskAlloc?] at notRun
  | _ => simp_all [Action.pid, step, Task.InUser]

theorem Kernel.updateTask_env (s : Kernel) {pid : Pid} {task : Task} (own : s.tasks pid = some task)
    (f : Task → Task) (next : (f task).pc = .idle ∨ ∃ call : Syscall, (f task).pc = call.entry) :
    ∃ tasks, s.updateTask pid f = { s with tasks := tasks } ∧
      (∀ other ≠ pid, tasks other = s.tasks other) ∧
      ∀ task, tasks pid = some task → task.pc = .idle ∨ ∃ call : Syscall, task.pc = call.entry := by
  refine ⟨_, rfl, fun other different => Kernel.updateTask_other s different f, ?_⟩
  intro task' after
  simp only [Function.update_self, own, Option.map_some, Option.some.injEq] at after
  exact after ▸ next

section Inversion

variable {s t : Kernel} {pid : Pid}

theorem step_call {call : Syscall} (stepped : step s (.call pid call) = some t) :
    ∃ task, s.tasks pid = some task ∧ task.InUser ∧ task.onRq = true ∧ t = s.goto pid call.entry := by
  simp only [step] at stepped
  split at stepped
  · next task own =>
    split at stepped
    · next ready =>
      cases stepped
      exact ⟨task, own, ready.1, ready.2, rfl⟩
    · cases stepped
  · cases stepped

theorem step_setState {state : UserState} (stepped : step s (.setState pid state) = some t) :
    ∃ task, s.tasks pid = some task ∧ task.InUser ∧
      t = s.updateTask pid fun task => { task with state := state.bits, onRq := state == .running } := by
  simp only [step] at stepped
  split at stepped
  · next task own =>
    split at stepped
    · next inUser =>
      cases stepped
      exact ⟨task, own, inUser, rfl⟩
    · cases stepped
  · cases stepped

theorem step_exit (stepped : step s (.exit pid) = some t) :
    ∃ task, s.tasks pid = some task ∧ task.InUser ∧
      t = s.updateTask pid fun task =>
        { task with exitState := exitZombie, state := taskDead, onRq := false, held := [] } := by
  simp only [step] at stepped
  split at stepped
  · next task own =>
    split at stepped
    · next inUser =>
      cases stepped
      exact ⟨task, own, inUser, rfl⟩
    · cases stepped
  · cases stepped

theorem step_reap (stepped : step s (.reap pid) = some t) :
    ∃ task, s.tasks pid = some task ∧ task.exitState ≠ 0 ∧
      t = { s with tasks := Function.update s.tasks pid none } := by
  simp only [step] at stepped
  split at stepped
  · next task own =>
    split at stepped
    · next exited =>
      cases stepped
      exact ⟨task, own, exited, rfl⟩
    · cases stepped
  · cases stepped

theorem step_spawn (stepped : step s (.spawn pid) = some t) :
    s.tasks pid = none ∧ t = { s with tasks := Function.update s.tasks pid (some Task.new) } := by
  simp only [step] at stepped
  split at stepped
  · cases stepped
  · next free =>
    cases stepped
    exact ⟨free, rfl⟩

end Inversion

theorem step_env {s t : Kernel} {a : Action} (notRun : a.taskAlloc? = none)
    (stepped : step s a = some t) :
    ∃ tasks, t = { s with tasks := tasks } ∧ (∀ other ≠ a.pid, tasks other = s.tasks other) ∧
      ∀ task, tasks a.pid = some task → task.pc = .idle ∨ ∃ call : Syscall, task.pc = call.entry := by
  cases a with
  | run | reuse => simp [Action.taskAlloc?] at notRun
  | call pid call =>
    obtain ⟨task, own, -, -, rfl⟩ := step_call stepped
    exact s.updateTask_env own _ (.inr ⟨call, rfl⟩)
  | setState pid state =>
    obtain ⟨task, own, inUser, rfl⟩ := step_setState stepped
    exact s.updateTask_env own _ (.inl inUser.1)
  | exit pid =>
    obtain ⟨task, own, inUser, rfl⟩ := step_exit stepped
    exact s.updateTask_env own _ (.inl inUser.1)
  | reap pid =>
    obtain ⟨-, -, -, rfl⟩ := step_reap stepped
    refine ⟨_, rfl, fun other different => Function.update_of_ne different _ _, ?_⟩
    intro task' after
    simp [Action.pid] at after
  | spawn pid =>
    obtain ⟨-, rfl⟩ := step_spawn stepped
    refine ⟨_, rfl, fun other different => Function.update_of_ne different _ _, ?_⟩
    intro task' after
    simp only [Action.pid, Function.update_self, Option.some.injEq] at after
    subst after
    exact .inl rfl

/-- The lock entries a task at `pc` holds in its locals (`entry`, `current`, and the nodes the
waiter loop has still to visit). -/
def Pc.entryPtrs : Pc → List Ptr
  | .setLoop rest | .setWakeUp rest => rest
  | .setNoWriter current rest | .setNoReader current rest | .setGranted current rest
  | .setAddGranted current rest | .setDelWaiter current rest => current :: rest
  | .lockEnqueue entry | .lockAddWait entry | .lockTest entry | .lockPrepare entry
  | .lockSchedule entry => [entry]
  | _ => []

/-- The range objects a task at `pc` holds in its locals. -/
def Pc.rangePtrs : Pc → List Ptr
  | .lockEntry _ korient => [korient]
  | _ => []

@[simp] theorem Syscall.entry_entryPtrs (call : Syscall) : call.entry.entryPtrs = [] := by
  cases call <;> rfl

@[simp] theorem Syscall.entry_waitEntry (call : Syscall) : call.entry.waitEntry = none := by
  cases call <;> rfl

@[simp] theorem Syscall.entry_rangePtrs (call : Syscall) : call.entry.rangePtrs = [] := by
  cases call <;> rfl

/-- `kmalloc` has handed out the entry and its range object. -/
def Kernel.Allocated (s : Kernel) (entry : Ptr) : Prop := entry < s.brk ∧ (s.entries entry).range < s.brk

/-- Every address in the two lists and in the tasks' locals was allocated. -/
structure Bounded (s : Kernel) : Prop where
  waiters : ∀ entry ∈ s.waitersList, s.Allocated entry
  granted : ∀ entry ∈ s.grantedList, s.Allocated entry
  entryLocals : ∀ pid task, s.tasks pid = some task → ∀ entry ∈ task.pc.entryPtrs, s.Allocated entry
  rangeLocals : ∀ pid task, s.tasks pid = some task → ∀ korient ∈ task.pc.rangePtrs, korient < s.brk

/-- The control flow of the syscalls: the statement a task can execute after the one at `pc`. -/
inductive Pc.Flow : Pc → Pc → Prop
  | setLockSet (orient : UserPtr DevOrientation) : Pc.Flow (.setLockSet orient) (.setCopy orient)
  | setCopyFault (orient : UserPtr DevOrientation) : Pc.Flow (.setCopy orient) .idle
  | setCopy (orient : UserPtr DevOrientation) : Pc.Flow (.setCopy orient) .setLockWaiters
  | setLockWaiters : Pc.Flow .setLockWaiters .setRelease
  | setRelease (rest : List Ptr) : Pc.Flow .setRelease (.setLoop rest)
  | setLoopDone : Pc.Flow (.setLoop []) .idle
  | setLoopInRange (current : Ptr) (rest : List Ptr) :
      Pc.Flow (.setLoop (current :: rest)) (.setNoWriter current rest)
  | setLoopSkip (current : Ptr) (rest : List Ptr) : Pc.Flow (.setLoop (current :: rest)) (.setLoop rest)
  | setNoWriterReader (current : Ptr) (rest : List Ptr) :
      Pc.Flow (.setNoWriter current rest) (.setGranted current rest)
  | setNoWriterWriter (current : Ptr) (rest : List Ptr) :
      Pc.Flow (.setNoWriter current rest) (.setNoReader current rest)
  | setNoWriterSkip (current : Ptr) (rest : List Ptr) :
      Pc.Flow (.setNoWriter current rest) (.setLoop rest)
  | setNoReader (current : Ptr) (rest : List Ptr) :
      Pc.Flow (.setNoReader current rest) (.setGranted current rest)
  | setNoReaderSkip (current : Ptr) (rest : List Ptr) :
      Pc.Flow (.setNoReader current rest) (.setLoop rest)
  | setGranted (current : Ptr) (rest : List Ptr) :
      Pc.Flow (.setGranted current rest) (.setAddGranted current rest)
  | setAddGranted (current : Ptr) (rest : List Ptr) :
      Pc.Flow (.setAddGranted current rest) (.setDelWaiter current rest)
  | setDelWaiter (current : Ptr) (rest : List Ptr) : Pc.Flow (.setDelWaiter current rest) (.setWakeUp rest)
  | setWakeUp (rest : List Ptr) : Pc.Flow (.setWakeUp rest) (.setLoop rest)
  | lockRangeFail (type : EntryType) (orient : UserPtr OrientationRange) :
      Pc.Flow (.lockRange type orient) .idle
  | lockRange (type : EntryType) (orient : UserPtr OrientationRange) (korient : Ptr) :
      Pc.Flow (.lockRange type orient) (.lockEntry type korient)
  | lockEntryFail (type : EntryType) (korient : Ptr) : Pc.Flow (.lockEntry type korient) .idle
  | lockEntry (type : EntryType) (korient entry : Ptr) :
      Pc.Flow (.lockEntry type korient) (.lockEnqueue entry)
  | lockEnqueue (entry : Ptr) : Pc.Flow (.lockEnqueue entry) (.lockAddWait entry)
  | lockAddWait (entry : Ptr) : Pc.Flow (.lockAddWait entry) (.lockTest entry)
  | lockTestGranted (entry : Ptr) : Pc.Flow (.lockTest entry) .idle
  | lockTest (entry : Ptr) : Pc.Flow (.lockTest entry) (.lockPrepare entry)
  | lockPrepare (entry : Ptr) : Pc.Flow (.lockPrepare entry) (.lockSchedule entry)
  | lockSchedule (entry : Ptr) : Pc.Flow (.lockSchedule entry) (.lockTest entry)
  | unlock (type : EntryType) (orient : UserPtr OrientationRange) : Pc.Flow (.unlock type orient) .idle

theorem taskStep_flow {s t : Kernel} {pid : Pid} {task task' : Task} {alloc : Alloc}
    (own : s.tasks pid = some task) (stepped : taskStep s pid task.pc alloc = some t)
    (after : t.tasks pid = some task') : Pc.Flow task.pc task'.pc := by
  cases pc : task.pc with
  | setLoop rest =>
    rw [pc] at stepped
    cases rest <;> cases stepped <;> rw [Kernel.goto_pc after]
    · exact .setLoopDone
    · split
      · exact .setLoopInRange _ _
      · exact .setLoopSkip _ _
  | unlock type orient =>
    rw [pc] at stepped
    cases stepped
    simp only [Kernel.updateTask_tasks, ite_true, Option.map_eq_some_iff] at after
    obtain ⟨_, _, after⟩ := after
    subst after
    exact .unlock type orient
  | _ =>
    rw [pc] at stepped
    revert stepped
    simp only [taskStep]
    repeat' split
    all_goals
      intro stepped
      cases stepped <;> simp [Kernel.updateTask_tasks, own, wakeUp] at after <;> subst after <;>
        constructor

section Bounded

variable {s t : Kernel} {pid : Pid} {task : Task} {alloc : Alloc}

theorem Kernel.Allocated.taskStep {pc : Pc} (stepped : taskStep s pid pc alloc = some t)
    (ranged : ∀ korient ∈ pc.rangePtrs, korient < s.brk) {entry : Ptr} (allocated : s.Allocated entry) :
    t.Allocated entry := by
  obtain ⟨fresh, range⟩ := allocated
  have grows := taskStep_brk stepped
  refine ⟨Nat.lt_of_lt_of_le fresh grows, ?_⟩
  rcases taskStep_entries stepped entry with ⟨-, same, -⟩ | ⟨type, korient, rfl, -, written⟩
  · rw [same]
    exact Nat.lt_of_lt_of_le range grows
  · rw [written]
    exact Nat.lt_of_lt_of_le (ranged korient (by simp [Pc.rangePtrs])) grows

theorem taskStep_other {pc : Pc} (stepped : taskStep s pid pc alloc = some t) {other : Pid}
    (different : other ≠ pid) {task' : Task} (after : t.tasks other = some task') :
    ∃ task, s.tasks other = some task ∧ task.pc = task'.pc := by
  have same := taskStep_other_pc stepped different
  rw [after] at same
  cases before : s.tasks other with
  | none => simp [before] at same
  | some task =>
    simp only [before, Option.map_some, Option.some.injEq] at same
    exact ⟨task, rfl, same.symm⟩

theorem taskStep_actor_entryPtrs (own : s.tasks pid = some task)
    (stepped : taskStep s pid task.pc alloc = some t) {task' : Task} (after : t.tasks pid = some task')
    {entry : Ptr} (mem : entry ∈ task'.pc.entryPtrs) :
    entry ∈ task.pc.entryPtrs ∨ (task.pc = .setRelease ∧ entry ∈ s.waitersList) ∨
      ∃ type korient, task.pc = .lockEntry type korient ∧ s.Hands alloc entry ∧ entry < t.brk ∧
        t.entries entry = ⟨korient, false, type, pid⟩ ∧ t.live entry = true := by
  cases pc : task.pc with
  | lockEntry type korient =>
    rw [pc] at stepped
    cases stepped
    rw [Kernel.goto_pc after] at mem
    revert mem
    split
    · simp [Pc.entryPtrs]
    · next allocated ok =>
      intro mem
      simp only [Pc.entryPtrs, List.mem_singleton] at mem
      subst mem
      obtain ⟨hands, below, written, alive⟩ := allocEntry_of_ok s type pid korient alloc ok
      exact .inr (.inr ⟨type, korient, rfl, hands, by simpa using below, by simpa using written,
        by simpa using alive⟩)
  | setRelease =>
    rw [pc] at stepped
    cases stepped
    rw [Kernel.goto_pc after] at mem
    exact .inr (.inl ⟨rfl, mem⟩)
  | setLoop rest =>
    left
    rw [pc] at stepped
    cases rest with
    | nil =>
      cases stepped
      rw [Kernel.goto_pc after] at mem
      simp [Pc.entryPtrs] at mem
    | cons current rest =>
      cases stepped
      rw [Kernel.goto_pc after] at mem
      split at mem <;> simp_all [Pc.entryPtrs]
  | unlock type orient =>
    rw [pc] at stepped
    cases stepped
    simp only [Kernel.updateTask_tasks, ite_true, Option.map_eq_some_iff] at after
    obtain ⟨_, _, after⟩ := after
    subst after
    simp [Pc.entryPtrs] at mem
  | _ =>
    left
    rw [pc] at stepped
    revert stepped
    simp only [taskStep]
    repeat' split
    all_goals
      intro stepped
      cases stepped <;> simp [Kernel.updateTask_tasks, own, wakeUp] at after <;> subst after <;>
        simp only [Pc.entryPtrs, List.mem_cons, List.not_mem_nil, or_false] at mem ⊢ <;> tauto

theorem taskStep_actor_enqueuing (own : s.tasks pid = some task)
    (stepped : taskStep s pid task.pc alloc = some t) {task' : Task} (after : t.tasks pid = some task')
    {entry : Ptr} (enqueuing : task'.pc = .lockEnqueue entry) :
    ∃ type korient, task.pc = .lockEntry type korient ∧ s.Hands alloc entry ∧ entry < t.brk ∧
      t.entries entry = ⟨korient, false, type, pid⟩ ∧ t.live entry = true := by
  have flow := taskStep_flow own stepped after
  rcases taskStep_actor_entryPtrs own stepped after
      (show entry ∈ task'.pc.entryPtrs by simp [enqueuing, Pc.entryPtrs]) with
    old | ⟨release, -⟩ | allocated
  · rw [enqueuing] at flow
    generalize task.pc = previous at flow old
    cases flow
    simp [Pc.entryPtrs] at old
  · rw [enqueuing, release] at flow
    cases flow
  · exact allocated

theorem taskStep_actor_rangePtrs (own : s.tasks pid = some task)
    (stepped : taskStep s pid task.pc alloc = some t) {task' : Task} (after : t.tasks pid = some task')
    {korient : Ptr} (mem : korient ∈ task'.pc.rangePtrs) :
    s.Hands alloc korient ∧ korient < t.brk ∧ t.live korient = true := by
  cases pc : task.pc with
  | lockRange type orient =>
    rw [pc] at stepped
    cases stepped
    rw [Kernel.goto_pc after] at mem
    revert mem
    split
    · simp [Pc.rangePtrs]
    · next allocated ok =>
      intro mem
      simp only [Pc.rangePtrs, List.mem_singleton] at mem
      subst mem
      obtain ⟨hands, below, alive⟩ := allocRange_of_ok s orient alloc ok
      exact ⟨hands, by simpa using below, by simpa using alive⟩
  | setLoop rest =>
    rw [pc] at stepped
    cases rest <;> cases stepped <;> rw [Kernel.goto_pc after] at mem
    · simp [Pc.rangePtrs] at mem
    · split at mem <;> simp [Pc.rangePtrs] at mem
  | unlock type orient =>
    rw [pc] at stepped
    cases stepped
    simp only [Kernel.updateTask_tasks, ite_true, Option.map_eq_some_iff] at after
    obtain ⟨_, _, after⟩ := after
    subst after
    simp [Pc.rangePtrs] at mem
  | _ =>
    rw [pc] at stepped
    revert stepped
    simp only [taskStep]
    repeat' split
    all_goals
      intro stepped
      cases stepped <;> simp [Kernel.updateTask_tasks, own, wakeUp] at after <;> subst after <;>
        simp [Pc.rangePtrs] at mem

theorem bounded_taskStep (bounded : Bounded s) (own : s.tasks pid = some task)
    (stepped : taskStep s pid task.pc alloc = some t) : Bounded t := by
  have keep : ∀ {entry}, s.Allocated entry → t.Allocated entry := fun allocated =>
    allocated.taskStep stepped (bounded.rangeLocals pid task own)
  have mine := bounded.entryLocals pid task own
  constructor
  · intro entry inside
    rcases taskStep_waitersList stepped with same | ⟨current, rest, _, erased⟩ | ⟨added, pc, _, appended⟩
    · exact keep (bounded.waiters entry (same ▸ inside))
    · exact keep (bounded.waiters entry (List.mem_of_mem_erase (erased ▸ inside)))
    · rw [appended, List.mem_append, List.mem_singleton] at inside
      rcases inside with old | rfl
      · exact keep (bounded.waiters entry old)
      · exact keep (mine entry (by simp [pc, Pc.entryPtrs]))
  · intro entry inside
    rcases taskStep_grantedList stepped with same | ⟨_, released⟩ | ⟨current, rest, pc, appended⟩ |
      ⟨_, _, removed, _, erased⟩
    · exact keep (bounded.granted entry (same ▸ inside))
    · rw [released, releaseDeadTasksLocks_grantedList, List.mem_filter] at inside
      exact keep (bounded.granted entry inside.1)
    · rw [appended, List.mem_append, List.mem_singleton] at inside
      rcases inside with old | rfl
      · exact keep (bounded.granted entry old)
      · exact keep (mine entry (by simp [pc, Pc.entryPtrs]))
    · exact keep (bounded.granted entry (List.mem_of_mem_erase (erased ▸ inside)))
  · intro other task' after entry inside
    by_cases actor : other = pid
    · subst actor
      rcases taskStep_actor_entryPtrs own stepped after inside with old | ⟨_, waiting⟩ |
        ⟨type, korient, pc, -, below, written, -⟩
      · exact keep (mine entry old)
      · exact keep (bounded.waiters entry waiting)
      · have local_ := bounded.rangeLocals other task own korient (by simp [pc, Pc.rangePtrs])
        refine ⟨below, ?_⟩
        rw [written]
        exact Nat.lt_of_lt_of_le local_ (taskStep_brk stepped)
    · obtain ⟨before, was, same⟩ := taskStep_other stepped actor after
      exact keep (bounded.entryLocals other before was entry (same ▸ inside))
  · intro other task' after korient inside
    by_cases actor : other = pid
    · subst actor
      exact (taskStep_actor_rangePtrs own stepped after inside).2.1
    · obtain ⟨before, was, same⟩ := taskStep_other stepped actor after
      exact Nat.lt_of_lt_of_le (bounded.rangeLocals other before was korient (same ▸ inside))
        (taskStep_brk stepped)

theorem bounded_init : Bounded Kernel.init := by
  constructor <;> simp [Kernel.init]

theorem bounded_step {a : Action} (bounded : Bounded s) (stepped : step s a = some t) : Bounded t := by
  rcases acting : a.taskAlloc? with _ | ⟨pid, alloc⟩
  · obtain ⟨tasks, rfl, others, actor⟩ := step_env acting stepped
    constructor
    · exact bounded.waiters
    · exact bounded.granted
    · intro pid task' after entry inside
      by_cases same : pid = a.pid
      · subst same
        rcases actor task' after with idle | ⟨call, entered⟩
        · simp [idle, Pc.entryPtrs] at inside
        · simp [entered] at inside
      · exact bounded.entryLocals pid task' (others pid same ▸ after) entry inside
    · intro pid task' after korient inside
      by_cases same : pid = a.pid
      · subst same
        rcases actor task' after with idle | ⟨call, entered⟩
        · simp [idle, Pc.rangePtrs] at inside
        · simp [entered] at inside
      · exact bounded.rangeLocals pid task' (others pid same ▸ after) korient inside
  · obtain ⟨task, own, -, -, stepped⟩ := step_task stepped acting
    exact bounded_taskStep bounded own stepped

theorem bounded_of_reachable (reachable : Reachable s) : Bounded s := by
  have stable : machine.Stable Bounded := fun _ _ _ bounded stepped => bounded_step bounded stepped
  exact Transition.Machine.invariant_of_stable bounded_init stable s reachable

/-- A task that waits on an entry is the task the entry names, so no clear `kmalloc` hands the
entry out again while it waits. -/
def Kernel.WaitOwned (s : Kernel) : Prop :=
  ∀ pid task, s.tasks pid = some task → ∀ entry, task.pc.waitEntry = some entry →
    (s.entries entry).pid = pid

theorem Pc.waitEntry_mem_entryPtrs {pc : Pc} {entry : Ptr} (waiting : pc.waitEntry = some entry) :
    entry ∈ pc.entryPtrs := by
  cases pc <;> simp_all [Pc.waitEntry, Pc.entryPtrs]

theorem Pc.Flow.waitEntry {pc pc' : Pc} (flow : Pc.Flow pc pc') {entry : Ptr}
    (waiting : pc'.waitEntry = some entry) :
    pc.waitEntry = some entry ∨ ∃ type korient, pc = .lockEntry type korient := by
  cases flow <;> simp_all [Pc.waitEntry]

theorem Kernel.WaitOwned.waitedOn (owned : s.WaitOwned) (own : s.tasks pid = some task) {entry : Ptr}
    (waiting : task.pc.waitEntry = some entry) : s.WaitedOn entry :=
  ⟨task, by rw [owned pid task own entry waiting]; exact own, waiting⟩

theorem Alloc.Clear.keeps_waited {pc : Pc} (clear : alloc.Clear s pc) (bounded : Bounded s)
    (own : s.tasks pid = some task) {entry : Ptr} (waiting : task.pc.waitEntry = some entry)
    (owner : (s.entries entry).pid = pid) : s.Keeps alloc entry :=
  clear.keeps (bounded.entryLocals pid task own entry (Pc.waitEntry_mem_entryPtrs waiting)).1
    fun reusable => reusable.2.2.2.2.2 ⟨task, by rw [owner]; exact own, waiting⟩

theorem Kernel.WaitOwned.keeps (owned : s.WaitOwned) (bounded : Bounded s) {pc : Pc}
    (clear : alloc.Clear s pc) (own : s.tasks pid = some task) {entry : Ptr}
    (waiting : task.pc.waitEntry = some entry) : s.Keeps alloc entry :=
  clear.keeps_waited bounded own waiting (owned pid task own entry waiting)

theorem Kernel.WaitOwned.taskStep (owned : s.WaitOwned) (bounded : Bounded s)
    (own : s.tasks pid = some task) (clear : alloc.Clear s task.pc)
    (stepped : OrientLock.taskStep s pid task.pc alloc = some t) : t.WaitOwned := by
  intro other task' after entry waiting
  have mem := Pc.waitEntry_mem_entryPtrs waiting
  by_cases actor : other = pid
  · subst actor
    have flow := taskStep_flow own stepped after
    rcases taskStep_actor_entryPtrs own stepped after mem with old | ⟨release, -⟩ |
      ⟨type, korient, -, -, -, written, -⟩
    · rcases flow.waitEntry waiting with was | ⟨type, korient, pc⟩
      · rcases taskStep_entries stepped entry with ⟨-, -, same⟩ | ⟨type, korient, allocating, -⟩
        · rw [same]
          exact owned other task own entry was
        · simp [allocating, Pc.waitEntry] at was
      · simp [pc, Pc.entryPtrs] at old
    · rcases flow.waitEntry waiting with was | ⟨type, korient, pc⟩ <;>
        simp [release, Pc.waitEntry] at *
    · rw [written]
  · obtain ⟨before, was, samePc⟩ := taskStep_other stepped actor after
    rw [← samePc] at waiting
    rcases taskStep_entries stepped entry with ⟨-, -, same⟩ | ⟨-, -, -, hands, -⟩
    · rw [same]
      exact owned other before was entry waiting
    · exact absurd rfl (hands.ne (owned.keeps bounded clear was waiting))

theorem Kernel.WaitOwned.step {a : Action} (owned : s.WaitOwned) (bounded : Bounded s)
    (stepped : step s a = some t) : t.WaitOwned := by
  rcases acting : a.taskAlloc? with _ | ⟨pid, alloc⟩
  · obtain ⟨tasks, rfl, others, actor⟩ := step_env acting stepped
    intro pid task' after entry waiting
    by_cases same : pid = a.pid
    · subst same
      rcases actor task' after with idle | ⟨call, entered⟩
      · simp [idle, Pc.waitEntry] at waiting
      · cases call <;> simp [entered, Syscall.entry, Pc.waitEntry] at waiting
    · exact owned pid task' (others pid same ▸ after) entry waiting
  · obtain ⟨task, own, -, clear, stepped⟩ := step_task stepped acting
    exact owned.taskStep bounded own clear stepped

theorem waitOwned_of_reachable (reachable : Reachable s) : s.WaitOwned := by
  have stable : machine.Stable fun s => Bounded s ∧ s.WaitOwned := by
    rintro _ _ _ ⟨bounded, owned⟩ stepped
    exact ⟨bounded_step bounded stepped, owned.step bounded stepped⟩
  have start : Bounded machine.init ∧ machine.init.WaitOwned := by
    refine ⟨bounded_init, ?_⟩
    intro pid task own
    simp [machine, Kernel.init] at own
  exact (Transition.Machine.invariant_of_stable start stable s reachable).2

end Bounded

end OrientLock
