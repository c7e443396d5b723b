import OrientLock.Kernel

set_option autoImplicit false

namespace OrientLock

/-- What the unlock wrappers `orient_read_unlock` and `orient_write_unlock` (`test/orient_lock.c`)
rely on: `0` exactly when `caller` holds an entry of `type` with range `korient` in
`granted_list`; then the first such entry is unlinked, it and its range are freed, and the
other entries stay in order; a nonzero result changes nothing. -/
def ReleasesOwn (type : EntryType) (caller : Pid) (korient : OrientationRange) (s : Kernel)
    (result : Int × Kernel) : Prop :=
  let own := fun entry => unlockMatches s korient type entry && caller == (s.entries entry).pid
  (result.1 = 0 ↔ ∃ entry ∈ s.grantedList, own entry = true) ∧
  (result.1 = 0 → ∃ before entry after, s.grantedList = before ++ entry :: after ∧
    (∀ other ∈ before, own other = false) ∧ own entry = true ∧
    result.2 = { s with grantedList := before ++ after,
                        live := Function.update (Function.update s.live (s.entries entry).range false)
                          entry false }) ∧
  (result.1 ≠ 0 → result.2 = s)

theorem unlinkGranted_eq (s : Kernel) (entry : Ptr) :
    unlinkGranted s entry =
      { s with grantedList := s.grantedList.erase entry,
               live := Function.update (Function.update s.live (s.entries entry).range false)
                 entry false } := rfl

theorem unlinkGranted_of_find? {s : Kernel} {test : Ptr → Bool} {entry : Ptr}
    (found : s.grantedList.find? test = some entry) :
    ∃ before after, s.grantedList = before ++ entry :: after ∧
      (∀ other ∈ before, test other = false) ∧ test entry = true ∧
      (unlinkGranted s entry).grantedList = before ++ after := by
  obtain ⟨hit, before, after, split, missed⟩ := List.find?_eq_some_iff_append.mp found
  have absent : entry ∉ before := by
    intro inside
    simpa [hit] using missed entry inside
  refine ⟨before, after, split, fun other inside => by simpa using missed other inside, hit, ?_⟩
  rw [unlinkGranted_eq, split, List.erase_append_right _ absent, List.erase_cons_head]

/-- `orientunlock_read` releases only the caller's own lock, and fails without effect. -/
theorem orientunlockRead_releasesOwn (s : Kernel) (caller : Pid) (korient : OrientationRange) :
    ReleasesOwn .reader caller korient s (orientunlockRead s caller (.mapped korient)) := by
  simp only [ReleasesOwn, orientunlockRead, copyFromUser, Bool.false_eq_true, ↓reduceIte]
  split
  · next entry found =>
    obtain ⟨before, after, split, missed, hit, unlinked⟩ := unlinkGranted_of_find? found
    refine ⟨?_, fun _ => ⟨before, entry, after, split, missed, hit, ?_⟩, by simp⟩
    · simp only [true_iff]
      exact ⟨entry, List.mem_of_find?_eq_some found, hit⟩
    · rw [← unlinked, unlinkGranted_eq]
  · next none =>
    rw [List.find?_eq_none] at none
    refine ⟨?_, by simp, fun _ => rfl⟩
    simp only [Int.reduceNeg, Int.reduceEq, false_iff, not_exists, not_and]
    intro entry inside
    simpa using none entry inside

theorem orientunlockWrite_mapped_zero (s : Kernel) (korient : OrientationRange) :
    (orientunlockWrite s (.mapped korient)).1 = 0 := by
  simp only [orientunlockWrite, copyFromUser, Bool.false_eq_true, ↓reduceIte]
  split <;> rfl

theorem orientunlockWrite_of_find? {s : Kernel} {korient : OrientationRange} {entry : Ptr}
    (found : s.grantedList.find? (unlockMatches s korient .writer) = some entry) :
    orientunlockWrite s (.mapped korient) = (0, unlinkGranted s entry) := by
  simp only [orientunlockWrite, copyFromUser, found, Bool.false_eq_true, ↓reduceIte]

/-- One writer entry (address 2, range object at 1) that task 2 holds. -/
def heldByTwo (korient : OrientationRange) : Kernel :=
  { Kernel.init with
    grantedList := [2]
    entries := fun _ => ⟨1, true, .writer, 2⟩
    ranges := fun _ => korient
    live := fun object => object == 1 || object == 2
    brk := 3 }

/-- Task 1 calls `orientunlock_write` on the range task 2 holds: it returns `0` and frees
task 2's entry, where the wrappers' contract says `-1` and no change. -/
theorem orientunlockWrite_releases_foreign (korient : OrientationRange) :
    orientunlockWrite (heldByTwo korient) (.mapped korient) =
        (0, unlinkGranted (heldByTwo korient) 2) ∧
      (unlinkGranted (heldByTwo korient) 2).grantedList = [] ∧
      ¬ ReleasesOwn .writer 1 korient (heldByTwo korient)
        (orientunlockWrite (heldByTwo korient) (.mapped korient)) := by
  have found : (heldByTwo korient).grantedList.find?
      (unlockMatches (heldByTwo korient) korient .writer) = some 2 := by
    simp [heldByTwo, unlockMatches, Kernel.rangeOf]
  rw [orientunlockWrite_of_find? found]
  refine ⟨rfl, rfl, ?_⟩
  intro releases
  obtain ⟨entry, inside, own⟩ := releases.1.mp rfl
  simp only [heldByTwo, List.mem_cons, List.not_mem_nil, or_false] at inside
  subst inside
  simp [heldByTwo] at own

end OrientLock
