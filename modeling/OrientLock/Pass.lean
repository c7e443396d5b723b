import OrientLock.Kernel

set_option autoImplicit false

/- One `set_orientation` pass run without interleaving: the waiter loop of `process_waiter`
calls over `waiters_list`, with `grant_lock` appending to `granted_list` as it goes. -/
namespace OrientLock

theorem genericSearchList_eq_false_iff (s : Kernel) (target : OrientationRange) (list : List Ptr)
    (type : EntryType) :
    genericSearchList s target list type = false ↔
      ∃ holder ∈ list, (s.entries holder).type = type ∧ rangeEquals (s.rangeOf holder) target = true := by
  simp [genericSearchList, List.any_eq_true]

/-- Why a waiter stays in `waiters_list` after a pass at `orient`: `in_range` fails, or
`granted_list` holds an entry of equal range that conflicts with the waiter's type. -/
def Blocked (s : Kernel) (orient : DevOrientation) (entry : Ptr) : Prop :=
  inRange (s.rangeOf entry) orient = false ∨
    ((s.entries entry).type = .reader ∧ ∃ holder ∈ s.grantedList,
      (s.entries holder).type = .writer ∧ rangeEquals (s.rangeOf holder) (s.rangeOf entry) = true) ∨
    ((s.entries entry).type = .writer ∧ ∃ holder ∈ s.grantedList,
      rangeEquals (s.rangeOf holder) (s.rangeOf entry) = true)

theorem Blocked.grantLock {s : Kernel} {orient : DevOrientation} {waiter : Ptr}
    (blocked : Blocked s orient waiter) (granted : Ptr) :
    Blocked (grantLock s granted) orient waiter := by
  unfold Blocked at blocked ⊢
  simp only [grantLock_rangeOf, grantLock_type, grantLock_grantedList, List.mem_append]
  rcases blocked with outside | ⟨reader, holder, held, writer, equal⟩ | ⟨writer, holder, held, equal⟩
  · exact .inl outside
  · exact .inr (.inl ⟨reader, holder, .inl held, writer, equal⟩)
  · exact .inr (.inr ⟨writer, holder, .inl held, equal⟩)

theorem processWaiter_cases (s : Kernel) (current : Ptr) :
    (processWaiter s current = s ∧ Blocked s s.currentOrient current) ∨
      (processWaiter s current = grantLock s current ∧
        inRange (s.rangeOf current) s.currentOrient = true) := by
  by_cases inside : inRange (s.rangeOf current) s.currentOrient = true
  · cases type : (s.entries current).type with
    | reader =>
      by_cases free : noWriterGrabbed s (s.rangeOf current) = true
      · refine .inr ⟨?_, inside⟩
        simp only [processWaiter, inside, type, free, ↓reduceIte]
      · refine .inl ⟨?_, .inr (.inl ⟨type, ?_⟩)⟩
        · simp only [processWaiter, inside, type, free, Bool.false_eq_true, ↓reduceIte]
        · rwa [Bool.not_eq_true, noWriterGrabbed, genericSearchList_eq_false_iff] at free
    | writer =>
      by_cases free :
          (noWriterGrabbed s (s.rangeOf current) && noReaderGrabbed s (s.rangeOf current)) = true
      · refine .inr ⟨?_, inside⟩
        simp only [processWaiter, inside, type, free, ↓reduceIte]
      · refine .inl ⟨?_, .inr (.inr ⟨type, ?_⟩)⟩
        · simp only [processWaiter, inside, type, free, Bool.false_eq_true, ↓reduceIte]
        · rw [Bool.not_eq_true, Bool.and_eq_false_iff, noWriterGrabbed, noReaderGrabbed,
            genericSearchList_eq_false_iff, genericSearchList_eq_false_iff] at free
          rcases free with ⟨holder, held, -, equal⟩ | ⟨holder, held, -, equal⟩ <;>
            exact ⟨holder, held, equal⟩
  · rw [Bool.not_eq_true] at inside
    exact .inl ⟨by simp [processWaiter, inside], .inl inside⟩

/-- `process_waiter` grants a waiter not yet granted exactly when `in_range` holds and every
granted entry of an equal range is compatible with it, both being readers. -/
theorem processWaiter_grants_iff (s : Kernel) (current : Ptr) (fresh : current ∉ s.grantedList) :
    current ∈ (processWaiter s current).grantedList ↔
      inRange (s.rangeOf current) s.currentOrient = true ∧
        ∀ holder ∈ s.grantedList, rangeEquals (s.rangeOf holder) (s.rangeOf current) = true →
          (s.entries current).type = .reader ∧ (s.entries holder).type = .reader := by
  have free : ∀ type, genericSearchList s (s.rangeOf current) s.grantedList type = true ↔
      ∀ holder ∈ s.grantedList, rangeEquals (s.rangeOf holder) (s.rangeOf current) = true →
        (s.entries holder).type ≠ type := by
    intro type
    simp only [genericSearchList, Bool.not_eq_true', List.any_eq_false, Bool.and_eq_true, beq_iff_eq,
      not_and]
    exact forall₂_congr fun _ _ => imp_not_comm
  have unchanged : current ∈ s.grantedList ↔ False := iff_false_intro fresh
  have granted : current ∈ (grantLock s current).grantedList := by simp
  by_cases inside : inRange (s.rangeOf current) s.currentOrient = true
  · cases type : (s.entries current).type with
    | reader =>
      by_cases noWriter : noWriterGrabbed s (s.rangeOf current) = true
      · simp only [processWaiter, inside, type, noWriter, if_true, granted, true_iff, true_and]
        intro holder held equal
        have notWriter := (free .writer).mp noWriter holder held equal
        cases holderType : (s.entries holder).type
        · rfl
        · exact absurd holderType notWriter
      · simp only [processWaiter, inside, type, noWriter, Bool.false_eq_true, if_true, if_false,
          unchanged, false_iff, true_and]
        intro compatible
        refine noWriter ((free .writer).mpr fun holder held equal writer => ?_)
        have reader := compatible holder held equal
        rw [writer] at reader
        cases reader
    | writer =>
      by_cases bothFree :
          (noWriterGrabbed s (s.rangeOf current) && noReaderGrabbed s (s.rangeOf current)) = true
      · simp only [processWaiter, inside, type, bothFree, if_true, granted, true_iff, true_and,
          reduceCtorEq, false_and]
        rw [Bool.and_eq_true] at bothFree
        intro holder held equal
        cases holderType : (s.entries holder).type
        · exact (free .reader).mp bothFree.2 holder held equal holderType
        · exact (free .writer).mp bothFree.1 holder held equal holderType
      · simp only [processWaiter, inside, type, bothFree, Bool.false_eq_true, if_true, if_false,
          unchanged, false_iff, true_and, reduceCtorEq, false_and]
        intro compatible
        refine bothFree (Bool.and_eq_true _ _ ▸ ⟨(free .writer).mpr ?_, (free .reader).mpr ?_⟩) <;>
          exact fun holder held equal _ => compatible holder held equal
  · simp only [processWaiter, inside, Bool.false_eq_true, if_false, unchanged, false_and]

theorem foldl_processWaiter_blocked (orient : DevOrientation) :
    ∀ (rest : List Ptr) (s : Kernel), s.currentOrient = orient → s.waitersList.Nodup →
      (∀ waiter ∈ s.waitersList, waiter ∉ rest → Blocked s orient waiter) →
      ∀ waiter ∈ (rest.foldl processWaiter s).waitersList,
        Blocked (rest.foldl processWaiter s) orient waiter
  | [], s, _, _, passed => fun waiter inside => passed waiter inside List.not_mem_nil
  | current :: rest, s, fixed, linked, passed => by
    rcases processWaiter_cases s current with ⟨same, blocked⟩ | ⟨granted, -⟩
    · rw [List.foldl_cons, same]
      refine foldl_processWaiter_blocked orient rest s fixed linked ?_
      intro waiter inside later
      by_cases visited : waiter = current
      · subst visited
        rw [← fixed]
        exact blocked
      · exact passed waiter inside (by simp [visited, later])
    · rw [List.foldl_cons, granted]
      refine foldl_processWaiter_blocked orient rest _ (by simpa using fixed)
        (by simpa using linked.erase current) ?_
      intro waiter inside later
      rw [grantLock_waitersList, linked.mem_erase_iff] at inside
      exact (passed waiter inside.2 (by simp [inside.1, later])).grantLock current

theorem foldl_processWaiter_added :
    ∀ (rest : List Ptr) (s : Kernel), ∃ added,
      (rest.foldl processWaiter s).grantedList = s.grantedList ++ added ∧
        ∀ granted ∈ added, granted ∈ rest ∧ inRange (s.rangeOf granted) s.currentOrient = true
  | [], s => ⟨[], by simp, by simp⟩
  | current :: rest, s => by
    rcases processWaiter_cases s current with ⟨same, -⟩ | ⟨granted, inRange⟩
    · obtain ⟨added, appended, inside⟩ := foldl_processWaiter_added rest s
      rw [List.foldl_cons, same]
      exact ⟨added, appended, fun g member => ⟨.tail _ (inside g member).1, (inside g member).2⟩⟩
    · obtain ⟨added, appended, inside⟩ := foldl_processWaiter_added rest (grantLock s current)
      rw [List.foldl_cons, granted]
      refine ⟨current :: added, by simp [appended], ?_⟩
      rintro g (_ | ⟨_, member⟩)
      · exact ⟨.head _, inRange⟩
      · have later := inside g member
        rw [grantLock_rangeOf, grantLock_currentOrient] at later
        exact ⟨.tail _ later.1, later.2⟩

theorem foldl_processWaiter_mem_grantedList {current : Ptr} {rest : List Ptr} (later : current ∉ rest)
    (s : Kernel) : current ∈ (rest.foldl processWaiter s).grantedList ↔ current ∈ s.grantedList := by
  obtain ⟨added, appended, inside⟩ := foldl_processWaiter_added rest s
  rw [appended, List.mem_append]
  constructor
  · rintro (old | new)
    · exact old
    · exact absurd (inside current new).1 later
  · exact .inl

/-- The waiter loop neither loses nor repeats a waiter: each waiter it visits stays queued or
moves to the end of `granted_list`, in the order of the visit. Induction on the waiters still
to visit, all of which are still queued. -/
theorem foldl_processWaiter_perm :
    ∀ (rest : List Ptr) (s : Kernel), rest.Nodup → s.waitersList.Nodup →
      (∀ waiter ∈ rest, waiter ∈ s.waitersList) →
      ∃ added, (rest.foldl processWaiter s).grantedList = s.grantedList ++ added ∧ added.Sublist rest ∧
        (rest.foldl processWaiter s).waitersList.Sublist s.waitersList ∧
        ((rest.foldl processWaiter s).waitersList ++ added).Perm s.waitersList
  | [], s, _, _, _ => ⟨[], by simp, .slnil, .refl _, by simp⟩
  | current :: rest, s, distinct, linked, queued => by
    have later := List.nodup_cons.mp distinct
    rcases processWaiter_cases s current with ⟨same, -⟩ | ⟨granted, -⟩
    · obtain ⟨added, appended, sub, kept, perm⟩ := foldl_processWaiter_perm rest s later.2 linked
        fun waiter inside => queued waiter (.tail _ inside)
      rw [List.foldl_cons, same]
      exact ⟨added, appended, sub.cons current, kept, perm⟩
    · have stillQueued : ∀ waiter ∈ rest, waiter ∈ (grantLock s current).waitersList := by
        intro waiter inside
        rw [grantLock_waitersList, linked.mem_erase_iff]
        exact ⟨fun same => later.1 (same ▸ inside), queued waiter (.tail _ inside)⟩
      obtain ⟨added, appended, sub, kept, perm⟩ := foldl_processWaiter_perm rest (grantLock s current)
        later.2 (by simpa using linked.erase current) stillQueued
      rw [grantLock_waitersList] at kept perm
      rw [List.foldl_cons, granted]
      refine ⟨current :: added, by simp [appended], sub.cons_cons current, kept.trans List.erase_sublist, ?_⟩
      calc List.Perm (_ ++ current :: added) (current :: (_ ++ added)) := List.perm_middle
        List.Perm _ (current :: s.waitersList.erase current) := perm.cons current
        List.Perm _ s.waitersList := (List.perm_cons_erase (queued current List.mem_cons_self)).symm

theorem setOrientation_of_returned {s : Kernel} {caller : Pid} {orient : DevOrientation}
    {rc : Int} {s' : Kernel} (returned : setOrientation s caller (.mapped orient) = some (rc, s')) :
    rc = 0 ∧ s.setLock = none ∧ s.waitersLock = none ∧
      s' = { passUnderLocks { s with setLock := some caller, currentOrient := orient,
                                     waitersLock := some caller } with
             waitersLock := none, setLock := none } := by
  simp only [setOrientation, copyFromUser, Bool.false_eq_true, ↓reduceIte] at returned
  split at returned
  · cases returned
  · next unlocked =>
    split at returned
    · cases returned
    · next free =>
      cases returned
      simp only [Option.isSome_iff_ne_none, ne_eq, Decidable.not_not] at unlocked free
      exact ⟨rfl, unlocked, free, rfl⟩

theorem setOrientation_of_free {s : Kernel} (caller : Pid) (orient : DevOrientation)
    (unlocked : s.setLock = none) (free : s.waitersLock = none) :
    setOrientation s caller (.mapped orient) =
      some (0, { passUnderLocks { s with setLock := some caller, currentOrient := orient,
                                         waitersLock := some caller } with
                 waitersLock := none, setLock := none }) := by
  simp [setOrientation, copyFromUser, unlocked, free]

theorem foldl_processWaiter_currentOrient :
    ∀ (rest : List Ptr) (s : Kernel), (rest.foldl processWaiter s).currentOrient = s.currentOrient
  | [], _ => rfl
  | current :: rest, s => by
    rw [List.foldl_cons, foldl_processWaiter_currentOrient rest]
    rcases processWaiter_cases s current with ⟨same, -⟩ | ⟨granted, -⟩
    · rw [same]
    · rw [granted, grantLock_currentOrient]

theorem setOrientation_returned_state {s : Kernel} {caller : Pid} {orient : DevOrientation}
    {rc : Int} {s' : Kernel} (returned : setOrientation s caller (.mapped orient) = some (rc, s')) :
    s'.currentOrient = orient ∧ s'.setLock = none ∧ s'.waitersLock = none := by
  obtain ⟨-, -, -, final⟩ := setOrientation_of_returned returned
  subst final
  exact ⟨foldl_processWaiter_currentOrient _ _, rfl, rfl⟩

/-- After a pass that returns `0`, no waiter is left that could be granted at `orient` given
the final `granted_list`. -/
theorem setOrientation_leaves_blocked (s : Kernel) (caller : Pid) (orient : DevOrientation)
    (s' : Kernel) (linked : s.waitersList.Nodup)
    (returned : setOrientation s caller (.mapped orient) = some (0, s')) :
    ∀ entry ∈ s'.waitersList, Blocked s' orient entry := by
  obtain ⟨-, -, -, final⟩ := setOrientation_of_returned returned
  subst final
  exact foldl_processWaiter_blocked orient _ _ rfl linked
    (fun waiter inside later => absurd inside later)

/-- Three waiters (readers at 2 and 6, a writer at 4) of one range, nothing granted. -/
def threeWaiters : Kernel :=
  { Kernel.init with
    waitersList := [2, 4, 6]
    entries := fun entry => ⟨1, false, if entry = 4 then .writer else .reader, entry⟩
    ranges := fun _ => ⟨⟨0, 0, 0⟩, 10, 10, 10⟩
    brk := 7 }

/-- The state the pass of task 9 at orientation `0, 0, 0` leaves. -/
def threeWaitersAfter : Kernel :=
  { passUnderLocks
      { threeWaiters with setLock := some 9, currentOrient := ⟨0, 0, 0⟩, waitersLock := some 9 } with
    waitersLock := none, setLock := none }

theorem setOrientation_leaves_blocked_threeWaiters :
    threeWaiters.waitersList.Nodup ∧
      setOrientation threeWaiters 9 (.mapped ⟨0, 0, 0⟩) = some (0, threeWaitersAfter) ∧
      ∀ entry ∈ threeWaitersAfter.waitersList, Blocked threeWaitersAfter ⟨0, 0, 0⟩ entry := by
  have linked : threeWaiters.waitersList.Nodup := by decide
  have returned : setOrientation threeWaiters 9 (.mapped ⟨0, 0, 0⟩) = some (0, threeWaitersAfter) :=
    setOrientation_of_free 9 ⟨0, 0, 0⟩ rfl rfl
  exact ⟨linked, returned,
    setOrientation_leaves_blocked threeWaiters 9 ⟨0, 0, 0⟩ threeWaitersAfter linked returned⟩

/-- A width meant to cover every azimuth: `(int) 0xFFFFFFFF` is `-1`. -/
def everyAzimuth : OrientationRange := ⟨⟨0, 0, 0⟩, 4294967295, 0, 0⟩

/-- A pass that returns `0` partitions `waiters_list`: each waiter either stays queued, in its
place, or is appended to `granted_list` after the entries `release_dead_tasks_locks` keeps, once
and in queue order. -/
theorem setOrientation_partitions_waiters (s : Kernel) (caller : Pid) (orient : DevOrientation)
    (s' : Kernel) (linked : s.waitersList.Nodup)
    (returned : setOrientation s caller (.mapped orient) = some (0, s')) :
    ∃ added, s'.grantedList = (releaseDeadTasksLocks s).grantedList ++ added ∧
      added.Sublist s.waitersList ∧ s'.waitersList.Sublist s.waitersList ∧
      (s'.waitersList ++ added).Perm s.waitersList := by
  obtain ⟨-, -, -, final⟩ := setOrientation_of_returned returned
  subst final
  exact foldl_processWaiter_perm _ _ linked linked fun _ inside => inside

theorem setOrientation_partitions_waiters_threeWaiters :
    threeWaiters.waitersList.Nodup ∧
      setOrientation threeWaiters 9 (.mapped ⟨0, 0, 0⟩) = some (0, threeWaitersAfter) ∧
      ∃ added, threeWaitersAfter.grantedList = (releaseDeadTasksLocks threeWaiters).grantedList ++ added ∧
        added.Sublist threeWaiters.waitersList ∧ threeWaitersAfter.waitersList.Sublist threeWaiters.waitersList ∧
        (threeWaitersAfter.waitersList ++ added).Perm threeWaiters.waitersList := by
  have linked : threeWaiters.waitersList.Nodup := by decide
  have returned : setOrientation threeWaiters 9 (.mapped ⟨0, 0, 0⟩) = some (0, threeWaitersAfter) :=
    setOrientation_of_free 9 ⟨0, 0, 0⟩ rfl rfl
  exact ⟨linked, returned,
    setOrientation_partitions_waiters threeWaiters 9 ⟨0, 0, 0⟩ threeWaitersAfter linked returned⟩

/-- What a pass decides for the waiter at the head of `waiters_list`: it is granted exactly when
the new orientation is in its range and every entry of an equal range held by a task that
`is_running` is compatible with it. Entries of tasks that have exited no longer block it. -/
theorem setOrientation_grants_head_iff (s : Kernel) (caller : Pid) (orient : DevOrientation) (s' : Kernel)
    {head : Ptr} {rest : List Ptr} (queue : s.waitersList = head :: rest) (linked : s.waitersList.Nodup)
    (fresh : head ∉ s.grantedList) (returned : setOrientation s caller (.mapped orient) = some (0, s')) :
    head ∈ s'.grantedList ↔ inRange (s.rangeOf head) orient = true ∧
      ∀ holder ∈ s.grantedList, isRunning s.tasks (s.entries holder).pid = true →
        rangeEquals (s.rangeOf holder) (s.rangeOf head) = true →
        (s.entries head).type = .reader ∧ (s.entries holder).type = .reader := by
  obtain ⟨-, -, -, final⟩ := setOrientation_of_returned returned
  subst final
  have later : head ∉ rest := (List.nodup_cons.mp (queue ▸ linked)).1
  let entered : Kernel :=
    { s with setLock := some caller, currentOrient := orient, waitersLock := some caller }
  have notReleased : head ∉ (releaseDeadTasksLocks entered).grantedList :=
    fun inside => fresh (List.mem_of_mem_filter inside)
  -- the pass's first turn is at the head, and the later turns leave its fate alone
  have pass : (passUnderLocks entered).grantedList =
      (rest.foldl processWaiter (processWaiter (releaseDeadTasksLocks entered) head)).grantedList := by
    simp only [passUnderLocks, releaseDeadTasksLocks_waitersList, entered, queue, List.foldl_cons]
  show head ∈ (passUnderLocks entered).grantedList ↔ _
  rw [pass, foldl_processWaiter_mem_grantedList later, processWaiter_grants_iff _ head notReleased]
  simp only [entered, Kernel.rangeOf, releaseDeadTasksLocks_entries, releaseDeadTasksLocks_ranges,
    releaseDeadTasksLocks_currentOrient, releaseDeadTasksLocks_grantedList, List.mem_filter, and_imp]

theorem setOrientation_grants_head_iff_threeWaiters :
    threeWaiters.waitersList = 2 :: [4, 6] ∧ threeWaiters.waitersList.Nodup ∧ 2 ∉ threeWaiters.grantedList ∧
      setOrientation threeWaiters 9 (.mapped ⟨0, 0, 0⟩) = some (0, threeWaitersAfter) ∧
      (2 ∈ threeWaitersAfter.grantedList ↔ inRange (threeWaiters.rangeOf 2) ⟨0, 0, 0⟩ = true ∧
        ∀ holder ∈ threeWaiters.grantedList,
          isRunning threeWaiters.tasks (threeWaiters.entries holder).pid = true →
          rangeEquals (threeWaiters.rangeOf holder) (threeWaiters.rangeOf 2) = true →
          (threeWaiters.entries 2).type = .reader ∧ (threeWaiters.entries holder).type = .reader) := by
  have linked : threeWaiters.waitersList.Nodup := by decide
  have fresh : 2 ∉ threeWaiters.grantedList := by decide
  have returned : setOrientation threeWaiters 9 (.mapped ⟨0, 0, 0⟩) = some (0, threeWaitersAfter) :=
    setOrientation_of_free 9 ⟨0, 0, 0⟩ rfl rfl
  exact ⟨rfl, linked, fresh, returned,
    setOrientation_grants_head_iff threeWaiters 9 ⟨0, 0, 0⟩ threeWaitersAfter rfl linked fresh returned⟩

end OrientLock
