import OrientLock.Exclusion
import OrientLock.Lib.ListOrder

set_option autoImplicit false

/- The order in which waiters of one type and range are granted. A pass visits
`waiters_list` from its head; a waiter it leaves behind stays blocked for the rest of the pass
as long as `granted_list` only grows, and then no later waiter of its type and range can be
granted. An unlock, which takes `GRANTED_LOCK` but not `WAITERS_LOCK`, can shrink
`granted_list` in the middle of a pass. -/
namespace OrientLock

open ListOrder

/-- The waiters a pass has visited and left in `waiters_list` are each blocked. -/
def Kernel.Passed (s : Kernel) (left : List Ptr) : Prop := ∀ entry ∈ left, Blocked s s.currentOrient entry

/-- What a pass knows about `waiters_list`: the waiters it visited and left (`left`), then the
waiter it is processing and those still to visit. -/
def Visited (s : Kernel) : Pc → Prop
  | .setLoop rest | .setWakeUp rest => ∃ left, s.waitersList = left ++ rest ∧ s.Passed left
  | .setNoWriter current rest | .setGranted current rest | .setAddGranted current rest =>
    ∃ left, s.waitersList = left ++ current :: rest ∧ s.Passed left ∧
      inRange (s.rangeOf current) s.currentOrient = true
  | .setNoReader current rest =>
    ∃ left, s.waitersList = left ++ current :: rest ∧ s.Passed left ∧
      inRange (s.rangeOf current) s.currentOrient = true ∧ (s.entries current).type = .writer
  | .setDelWaiter current rest => ∃ left, s.waitersList = left ++ current :: rest ∧ s.Passed left
  | _ => True

/-- The invariant of the runs without an unlock inside a pass. -/
structure Serial (s : Kernel) : Prop where
  safe : Safe s
  heap : s.HeapSound
  setOwned : setLockSpin.Owned s
  visited : ∀ pid task, s.tasks pid = some task → Visited s task.pc

def Pc.unlocks : Pc → Bool
  | .unlock _ _ => true
  | _ => false

/-- The step runs an unlock syscall while a pass holds `WAITERS_LOCK`. -/
def unlocksInPass (s : Kernel) : Action → Bool
  | .run pid _ => s.waitersLock.isSome && (s.tasks pid).any fun task => task.pc.unlocks
  | _ => false

/-- The machine whose runs have no unlock inside a pass. -/
def serialMachine : Transition.Machine Kernel Action :=
  machine.restrict fun s a => unlocksInPass s a = false

theorem unlocks_of_quiet {s : Kernel} {a : Action} {pid : Pid} {alloc : Alloc} {task : Task}
    (acting : a.taskAlloc? = some (pid, alloc)) (own : s.tasks pid = some task)
    (clear : alloc.Clear s task.pc) (quiet : unlocksInPass s a = false)
    (busy : s.waitersLock.isSome = true) : task.pc.unlocks = false := by
  rcases Action.run_or_allocates acting clear with ⟨nomem, rfl⟩ | allocating
  · simpa [unlocksInPass, busy, own] using quiet
  · cases pc : task.pc <;> simp_all [Pc.allocates, Pc.unlocks]

section Transport

variable {s t : Kernel}

@[simp] theorem visited_updateTask (pid : Pid) (f : Task → Task) (pc : Pc) :
    Visited (s.updateTask pid f) pc ↔ Visited s pc := Iff.rfl

@[simp] theorem passed_updateTask (pid : Pid) (f : Task → Task) (left : List Ptr) :
    (s.updateTask pid f).Passed left ↔ s.Passed left := Iff.rfl

theorem Kernel.item_eq_iff {p : Ptr} :
    t.item p = s.item p ↔ (t.entries p).type = (s.entries p).type ∧ t.rangeOf p = s.rangeOf p := by
  simp [Kernel.item]

theorem Blocked.transport {orient : DevOrientation} {entry : Ptr} (blocked : Blocked s orient entry)
    (more : ∀ g ∈ s.grantedList, g ∈ t.grantedList)
    (items : ∀ p, p = entry ∨ p ∈ s.grantedList → t.item p = s.item p) : Blocked t orient entry := by
  obtain ⟨sameType, sameRange⟩ := Kernel.item_eq_iff.mp (items entry (.inl rfl))
  have holder : ∀ g ∈ s.grantedList,
      (t.entries g).type = (s.entries g).type ∧ t.rangeOf g = s.rangeOf g := fun g inside =>
    Kernel.item_eq_iff.mp (items g (.inr inside))
  unfold Blocked at blocked ⊢
  rw [sameType, sameRange]
  rcases blocked with outside | ⟨reader, g, inside, writer, equal⟩ | ⟨writer, g, inside, equal⟩
  · exact .inl outside
  · refine .inr (.inl ⟨reader, g, more g inside, ?_, ?_⟩)
    · rw [(holder g inside).1, writer]
    · rw [(holder g inside).2, equal]
  · refine .inr (.inr ⟨writer, g, more g inside, ?_⟩)
    rw [(holder g inside).2, equal]

theorem Kernel.Passed.transport {left : List Ptr} (passed : s.Passed left)
    (orient : t.currentOrient = s.currentOrient) (more : ∀ g ∈ s.grantedList, g ∈ t.grantedList)
    (items : ∀ p, p ∈ left ∨ p ∈ s.grantedList → t.item p = s.item p) : t.Passed left := by
  intro entry inside
  rw [orient]
  refine (passed entry inside).transport more fun p which => items p ?_
  rcases which with rfl | granted
  · exact .inl inside
  · exact .inr granted

theorem Visited.transport {pc : Pc} (visited : Visited s pc) (waiters : t.waitersList = s.waitersList)
    (granted : t.grantedList = s.grantedList) (orient : t.currentOrient = s.currentOrient)
    (items : ∀ p, p ∈ s.waitersList ∨ p ∈ s.grantedList → t.item p = s.item p) : Visited t pc := by
  have more : ∀ g ∈ s.grantedList, g ∈ t.grantedList := fun g inside => granted ▸ inside
  have passedOf : ∀ {left : List Ptr} {tail : List Ptr}, s.waitersList = left ++ tail →
      s.Passed left → t.Passed left := by
    intro left tail split passed
    refine passed.transport orient more fun p which => items p ?_
    rcases which with queued | held
    · exact .inl (split ▸ List.mem_append_left tail queued)
    · exact .inr held
  have rangeOf : ∀ {current : Ptr}, current ∈ s.waitersList → t.rangeOf current = s.rangeOf current :=
    fun queued => (Kernel.item_eq_iff.mp (items _ (.inl queued))).2
  have typeOf : ∀ {current : Ptr}, current ∈ s.waitersList →
      (t.entries current).type = (s.entries current).type :=
    fun queued => (Kernel.item_eq_iff.mp (items _ (.inl queued))).1
  cases pc with
  | setLoop rest =>
    obtain ⟨left, split, passed⟩ := visited
    exact ⟨left, waiters ▸ split, passedOf split passed⟩
  | setWakeUp rest =>
    obtain ⟨left, split, passed⟩ := visited
    exact ⟨left, waiters ▸ split, passedOf split passed⟩
  | setNoWriter current rest =>
    obtain ⟨left, split, passed, inside⟩ := visited
    have queued : current ∈ s.waitersList := by simp [split]
    exact ⟨left, waiters ▸ split, passedOf split passed, by rw [rangeOf queued, orient, inside]⟩
  | setGranted current rest =>
    obtain ⟨left, split, passed, inside⟩ := visited
    have queued : current ∈ s.waitersList := by simp [split]
    exact ⟨left, waiters ▸ split, passedOf split passed, by rw [rangeOf queued, orient, inside]⟩
  | setAddGranted current rest =>
    obtain ⟨left, split, passed, inside⟩ := visited
    have queued : current ∈ s.waitersList := by simp [split]
    exact ⟨left, waiters ▸ split, passedOf split passed, by rw [rangeOf queued, orient, inside]⟩
  | setNoReader current rest =>
    obtain ⟨left, split, passed, inside, writer⟩ := visited
    have queued : current ∈ s.waitersList := by simp [split]
    exact ⟨left, waiters ▸ split, passedOf split passed, by rw [rangeOf queued, orient, inside],
      by rw [typeOf queued, writer]⟩
  | setDelWaiter current rest =>
    obtain ⟨left, split, passed⟩ := visited
    exact ⟨left, waiters ▸ split, passedOf split passed⟩
  | _ => trivial

theorem visited_of_outside {pc : Pc} (outside : pc.holdsWaitersLock = false) : Visited s pc := by
  cases pc <;> simp_all [Pc.holdsWaitersLock, Visited]

end Transport

section Steps

variable {s t : Kernel} {pid : Pid} {task : Task} {alloc : Alloc}

theorem Kernel.Passed.snoc {left : List Ptr} {current : Ptr} (passed : s.Passed left)
    (blocked : Blocked s s.currentOrient current) : s.Passed (left ++ [current]) := by
  intro entry inside
  rw [List.mem_append, List.mem_singleton] at inside
  rcases inside with old | rfl
  · exact passed entry old
  · exact blocked

theorem blocked_of_grabbed {current : Ptr} (type : EntryType)
    (found : genericSearchList s (s.rangeOf current) s.grantedList type = false)
    (conflicting : type = .writer ∨ (s.entries current).type = .writer) :
    Blocked s s.currentOrient current := by
  obtain ⟨holder, held, holderType, equal⟩ := (genericSearchList_eq_false_iff _ _ _ _).mp found
  cases mine : (s.entries current).type with
  | reader =>
    have writer : type = .writer := by simpa [mine] using conflicting
    exact .inr (.inl ⟨mine, holder, held, holderType.trans writer, equal⟩)
  | writer => exact .inr (.inr ⟨mine, holder, held, equal⟩)

theorem visited_taskStep_actor (serial : Serial s) (own : s.tasks pid = some task)
    (stepped : taskStep s pid task.pc alloc = some t) {task' : Task} (after : t.tasks pid = some task') :
    Visited t task'.pc := by
  have carried := serial.visited pid task own
  cases pc : task.pc with
  | setRelease =>
    rw [pc] at stepped
    cases stepped
    rw [Kernel.goto_pc after]
    simp only [Kernel.goto_eq, visited_updateTask]
    exact ⟨[], by simp, fun entry inside => absurd inside List.not_mem_nil⟩
  | setLoop rest =>
    rw [pc] at stepped carried
    cases rest with
    | nil =>
      cases stepped
      rw [Kernel.goto_pc after]
      trivial
    | cons current rest =>
      obtain ⟨left, split, passed⟩ := carried
      cases stepped
      rw [Kernel.goto_pc after]
      simp only [Kernel.goto_eq, visited_updateTask]
      split
      · next inside => exact ⟨left, split, passed, inside⟩
      · next outside =>
        refine ⟨left ++ [current], by simp [split], passed.snoc (.inl ?_)⟩
        simpa using outside
  | setNoWriter current rest =>
    rw [pc] at stepped carried
    obtain ⟨left, split, passed, inside⟩ := carried
    cases stepped
    rw [Kernel.goto_pc after]
    simp only [Kernel.goto_eq, visited_updateTask]
    split
    · split
      · exact ⟨left, split, passed, inside⟩
      · next writer => exact ⟨left, split, passed, inside, writer⟩
    · next found =>
      have blocked := blocked_of_grabbed .writer (by simpa [noWriterGrabbed] using found)
        (.inl rfl)
      exact ⟨left ++ [current], by simp [split], passed.snoc blocked⟩
  | setNoReader current rest =>
    rw [pc] at stepped carried
    obtain ⟨left, split, passed, inside, writer⟩ := carried
    cases stepped
    rw [Kernel.goto_pc after]
    simp only [Kernel.goto_eq, visited_updateTask]
    split
    · exact ⟨left, split, passed, inside⟩
    · next found =>
      have blocked := blocked_of_grabbed .reader (by simpa [noReaderGrabbed] using found)
        (.inr writer)
      exact ⟨left ++ [current], by simp [split], passed.snoc blocked⟩
  | setGranted current rest =>
    rw [pc] at stepped carried
    cases stepped
    rw [Kernel.goto_pc after]
    simp only [Kernel.goto_eq, visited_updateTask]
    have moved : Visited s (.setAddGranted current rest) := carried
    exact moved.transport rfl rfl rfl fun p _ => setGranted_item s current p
  | setAddGranted current rest =>
    rw [pc] at stepped carried
    obtain ⟨left, split, passed, -⟩ := carried
    cases stepped
    rw [Kernel.goto_pc after]
    simp only [Kernel.goto_eq, visited_updateTask]
    refine ⟨left, split, passed.transport rfl ?_ fun p _ => rfl⟩
    intro g inside
    simp [inside]
  | setDelWaiter current rest =>
    rw [pc] at stepped carried
    obtain ⟨left, split, passed⟩ := carried
    cases stepped
    rw [Kernel.goto_pc after]
    simp only [Kernel.goto_eq, visited_updateTask]
    have nodup := serial.heap.waitersNodup
    rw [split] at nodup
    have notLeft : current ∉ left := fun inside =>
      (List.nodup_append.mp nodup).2.2 current inside current List.mem_cons_self rfl
    refine ⟨left, ?_, passed⟩
    rw [delWaiter_waitersList, split, List.erase_append_right _ notLeft, List.erase_cons_head]
  | setWakeUp rest =>
    rw [pc] at stepped carried
    cases stepped
    rw [Kernel.goto_pc after]
    exact carried
  | _ =>
    have flow := taskStep_flow own stepped after
    rw [pc] at flow
    generalize task'.pc = next at flow
    cases flow <;> trivial

theorem visited_taskStep_other (serial : Serial s) (own : s.tasks pid = some task)
    (clear : alloc.Clear s task.pc) (stepped : taskStep s pid task.pc alloc = some t)
    (quiet : s.waitersLock.isSome = true → task.pc.unlocks = false)
    {other : Pid} (different : other ≠ pid) {task' : Task} (after : t.tasks other = some task') :
    Visited t task'.pc := by
  obtain ⟨before, was, samePc⟩ := taskStep_other stepped different after
  rw [← samePc]
  cases inside : before.pc.holdsWaitersLock
  · exact visited_of_outside inside
  · have held : s.waitersLock = some other := serial.safe.owned other before was inside
    have actorOutside : task.pc.holdsWaitersLock = false := by
      cases mine : task.pc.holdsWaitersLock
      · rfl
      · have owner : s.waitersLock = some pid := serial.safe.owned pid task own mine
        rw [held, Option.some.injEq] at owner
        exact absurd owner different
    have notUnlock : task.pc.unlocks = false := quiet (by simp [held])
    have granted : t.grantedList = s.grantedList := by
      rcases taskStep_grantedList stepped with same | ⟨releasing, -⟩ | ⟨_, _, adding, -⟩ |
        ⟨_, _, _, unlocking, -⟩
      · exact same
      · simp [releasing, Pc.holdsWaitersLock] at actorOutside
      · simp [adding, Pc.holdsWaitersLock] at actorOutside
      · simp [unlocking, Pc.unlocks] at notUnlock
    have waiters : t.waitersList = s.waitersList := by
      rcases taskStep_waitersList stepped with same | ⟨_, _, deleting, -⟩ | ⟨_, -, free, -⟩
      · exact same
      · simp [deleting, Pc.holdsWaitersLock] at actorOutside
      · simp [held] at free
    have orient : t.currentOrient = s.currentOrient := by
      rcases taskStep_currentOrient stepped with same | ⟨_, copying⟩
      · exact same
      · have mine := serial.setOwned pid task own (by simp [setLockSpin, copying, Pc.holdsSetLock])
        have theirs := serial.setOwned other before was (Pc.holdsSetLock_of_holdsWaitersLock inside)
        rw [mine, Option.some.injEq] at theirs
        exact absurd theirs.symm different
    refine (serial.visited other before was).transport waiters granted orient fun p which => ?_
    rcases which with queued | holding
    · exact Kernel.item_taskStep stepped (serial.heap.keeps_tracked serial.safe.bounded clear (.inr (.inl queued)))
    · exact Kernel.item_taskStep stepped (serial.heap.keeps_tracked serial.safe.bounded clear (.inl holding))

theorem serial_taskStep (serial : Serial s) (own : s.tasks pid = some task) (alive : task.exitState = 0)
    (clear : alloc.Clear s task.pc) (stepped : taskStep s pid task.pc alloc = some t)
    (quiet : s.waitersLock.isSome = true → task.pc.unlocks = false) : Serial t where
  safe := safe_taskStep serial.safe serial.heap own clear stepped
  heap := serial.heap.taskStep serial.safe.bounded serial.safe.owned own alive clear stepped
  setOwned := setLockSpin_sound.owned_taskStep serial.setOwned own stepped
  visited := by
    intro other task' after
    by_cases actor : other = pid
    · subst actor
      exact visited_taskStep_actor serial own stepped after
    · exact visited_taskStep_other serial own clear stepped quiet actor after

end Steps

theorem serial_step {s t : Kernel} {a : Action} (serial : Serial s)
    (stepped : serialMachine.step s a = some t) : Serial t := by
  obtain ⟨quiet, stepped⟩ := Transition.Machine.restrict_step stepped
  rcases acting : a.taskAlloc? with _ | ⟨pid, alloc⟩
  · have safe := safe_step serial.safe serial.heap stepped
    have heap := serial.heap.step serial.safe.bounded serial.safe.owned stepped
    have setOwned := setLockSpin_sound.owned_step serial.setOwned stepped
    obtain ⟨tasks, rfl, others, actor⟩ := step_env acting stepped
    refine ⟨safe, heap, setOwned, ?_⟩
    intro pid task' after
    by_cases same : pid = a.pid
    · subst same
      apply visited_of_outside
      rcases actor task' after with idle | ⟨call, entered⟩
      · rw [idle]
        exact waitersLockSpin_sound.idle
      · rw [entered]
        exact waitersLockSpin_sound.entry call
    · exact serial.visited pid task' (others pid same ▸ after)
  · obtain ⟨task, own, runnable, clear, stepped⟩ := step_task stepped acting
    exact serial_taskStep serial own runnable.1 clear stepped (unlocks_of_quiet acting own clear quiet)

theorem serial_init : Serial Kernel.init where
  safe := safe_init
  heap := Kernel.HeapSound.init
  setOwned := SpinLock.owned_init
  visited := by
    intro pid task none_
    simp [Kernel.init] at none_

theorem serial_of_reachable {s : Kernel} (reachable : serialMachine.Reachable s) : Serial s := by
  have stable : serialMachine.Stable Serial := fun _ _ _ serial stepped => serial_step serial stepped
  exact Transition.Machine.invariant_of_stable serial_init stable s reachable

/-- Task 1 write-locks `wholeRange` and is granted. Tasks 2 and 3 then queue write locks on the
same range (entries 4 and 6). Task 5's pass visits entry 4, which task 1's lock blocks; task 1
unlocks; the pass goes on to entry 6 and grants it. -/
def overtakeTrace : List Action :=
  [.spawn 1, .spawn 2, .spawn 3, .spawn 5, .call 1 (.orientlockWrite (.mapped wholeRange))] ++
    runs 1 4 ++ [.call 5 (.setOrientation (.mapped default))] ++ runs 5 12 ++ runs 1 1 ++
    [.call 2 (.orientlockWrite (.mapped wholeRange))] ++ runs 2 4 ++
    [.call 3 (.orientlockWrite (.mapped wholeRange))] ++ runs 3 4 ++
    [.call 5 (.setOrientation (.mapped default))] ++ runs 5 6 ++
    [.call 1 (.orientunlockWrite (.mapped wholeRange))] ++ runs 1 1 ++ runs 5 4

/-- The next step of task 5 moves entry 6 to `granted_list` while entry 4, queued before it with
the same type and range, still waits. -/
theorem unlock_in_pass_overtakes :
    ∃ s t, machine.run machine.init overtakeTrace = some s ∧ step s (.run 5 false) = some t ∧
      6 ∈ t.grantedList ∧ 6 ∉ s.grantedList ∧ Precedes s.waitersList 4 6 ∧
      (s.entries 4).type = (s.entries 6).type ∧ rangeEquals (s.rangeOf 4) (s.rangeOf 6) = true := by
  obtain ⟨s, ran, passed⟩ := Transition.Machine.run_of_test
    (show (machine.run machine.init overtakeTrace).map
      (fun s => ((step s (.run 5 false)).map fun t => decide (6 ∈ t.grantedList)) == some true &&
        decide (6 ∉ s.grantedList ∧ Precedes s.waitersList 4 6 ∧
          (s.entries 4).type = (s.entries 6).type ∧ rangeEquals (s.rangeOf 4) (s.rangeOf 6) = true)) =
        some true by decide +kernel)
  simp only [Bool.and_eq_true, beq_iff_eq] at passed
  obtain ⟨moving, facts⟩ := passed
  obtain ⟨t, stepped, moved⟩ := Option.map_eq_some_iff.mp moving
  exact ⟨s, t, ran, stepped, of_decide_eq_true moved, of_decide_eq_true facts⟩

/-- In runs where no unlock runs inside a pass, a step that moves a waiter to `granted_list`
leaves no waiter of its type and range queued before it. -/
theorem grant_keeps_fifo (s t : Kernel) (a : Action) (reachable : serialMachine.Reachable s)
    (stepped : step s a = some t) (later : Ptr) (moved : later ∈ t.grantedList)
    (notYet : later ∉ s.grantedList) (earlier : Ptr) (queued : Precedes s.waitersList earlier later)
    (sameType : (s.entries earlier).type = (s.entries later).type) :
    rangeEquals (s.rangeOf earlier) (s.rangeOf later) = false := by
  have serial := serial_of_reachable reachable
  rcases acting : a.taskAlloc? with _ | ⟨pid, alloc⟩
  · obtain ⟨tasks, rfl, -, -⟩ := step_env acting stepped
    exact absurd moved notYet
  obtain ⟨task, own, -, -, stepped⟩ := step_task stepped acting
  rcases taskStep_grantedList stepped with same | ⟨_, released⟩ | ⟨current, rest, adding, appended⟩ |
    ⟨_, _, removed, _, erased⟩
  · exact absurd (same ▸ moved) notYet
  · rw [released, releaseDeadTasksLocks_grantedList, List.mem_filter] at moved
    exact absurd moved.1 notYet
  · rw [appended, List.mem_append, List.mem_singleton] at moved
    rcases moved with old | rfl
    · exact absurd old notYet
    have visited := serial.visited pid task own
    have checked := serial.safe.checked pid task own
    rw [adding] at visited checked
    obtain ⟨left, split, passed, inside⟩ := visited
    have nodup := serial.heap.waitersNodup
    rw [split] at nodup
    have notRest : later ∉ rest := fun behind =>
      (List.nodup_cons.mp (List.nodup_append.mp nodup).2.1).1 behind
    have blocked := passed earlier (Precedes.mem_front notRest (split ▸ queued))
    cases equal : rangeEquals (s.rangeOf earlier) (s.rangeOf later)
    · rfl
    · have sameRange := (rangeEquals_iff _ _).mp equal
      rcases blocked with outside | ⟨reader, g, held, writer, gEqual⟩ | ⟨writer, g, held, gEqual⟩
      · rw [sameRange, inside] at outside
        cases outside
      · refine absurd ⟨.inl writer, ?_⟩ (checked g held)
        exact ((rangeEquals_iff _ _).mp gEqual).trans sameRange
      · refine absurd ⟨.inr (sameType.symm.trans writer), ?_⟩ (checked g held)
        exact ((rangeEquals_iff _ _).mp gEqual).trans sameRange
  · rw [erased] at moved
    exact absurd (List.mem_of_mem_erase moved) notYet

/-- A range whose azimuth window, 99 to 101, excludes the orientation 0. -/
def farRange : OrientationRange := ⟨⟨100, 0, 0⟩, 1, 0, 0⟩

/-- Task 1 write-locks `farRange` and task 2 then `wholeRange`; task 3's pass skips entry 2,
which is out of range, and reaches the `list_add_tail` that grants entry 4. -/
def skipTrace : List Action :=
  [.spawn 1, .spawn 2, .spawn 3, .call 1 (.orientlockWrite (.mapped farRange))] ++ runs 1 4 ++
    [.call 2 (.orientlockWrite (.mapped wholeRange))] ++ runs 2 4 ++
    [.call 3 (.setOrientation (.mapped default))] ++ runs 3 9

theorem grant_keeps_fifo_skipTrace :
    ∃ s t, serialMachine.Reachable s ∧ step s (.run 3 false) = some t ∧ 4 ∈ t.grantedList ∧
      4 ∉ s.grantedList ∧ Precedes s.waitersList 2 4 ∧ (s.entries 2).type = (s.entries 4).type ∧
      rangeEquals (s.rangeOf 2) (s.rangeOf 4) = false := by
  obtain ⟨s, ran, passed⟩ := Transition.Machine.run_of_test
    (show (serialMachine.run serialMachine.init skipTrace).map
      (fun s => ((step s (.run 3 false)).map fun t => decide (4 ∈ t.grantedList)) == some true &&
        decide (4 ∉ s.grantedList ∧ Precedes s.waitersList 2 4 ∧
          (s.entries 2).type = (s.entries 4).type)) = some true by decide +kernel)
  simp only [Bool.and_eq_true, beq_iff_eq] at passed
  obtain ⟨moving, facts⟩ := passed
  obtain ⟨t, stepped, moved⟩ := Option.map_eq_some_iff.mp moving
  obtain ⟨notYet, queued, sameType⟩ := of_decide_eq_true facts
  have reachable := Transition.Machine.Reachable.of_run ran
  exact ⟨s, t, reachable, stepped, of_decide_eq_true moved, notYet, queued, sameType,
    grant_keeps_fifo s t _ reachable stepped 4 (of_decide_eq_true moved) notYet 2 queued sameType⟩

end OrientLock
