import OrientLock.Unlock
import OrientLock.System

set_option autoImplicit false

/- The early returns of the five syscalls, each run alone. The unlocks return their errors
before they touch anything; `set_orientation` copies straight into `current_orient`, and
`orientlock_*` returns after `korient` has been allocated without freeing it. -/
namespace OrientLock

/-- What an error return should leave as it was: `current_orient`, the two lists and the set
of live objects. -/
structure Observed where
  currentOrient : DevOrientation
  waitersList : List Ptr
  grantedList : List Ptr
  live : Ptr → Bool

def Kernel.observed (s : Kernel) : Observed := ⟨s.currentOrient, s.waitersList, s.grantedList, s.live⟩

section ErrorReturns

variable (s : Kernel) (caller : Pid)

theorem setOrientation_unmapped (free : s.setLock = none) :
    setOrientation s caller .unmapped =
      some (-efault, { s with setLock := some caller, currentOrient := default }) := by
  simp [setOrientation, free, copyFromUser]

theorem orientlock_range_nomem (type : EntryType) (orient : UserPtr OrientationRange)
    (entryNomem : Bool) :
    orientlock type s caller orient true entryNomem = some (.error (-enomem), s) := by
  simp [orientlock]

theorem orientlock_unmapped (type : EntryType) (entryNomem : Bool) :
    orientlock type s caller .unmapped false entryNomem =
      some (.error (-efault), { s with brk := s.brk + 1, live := Function.update s.live s.brk true,
                                       ranges := Function.update s.ranges s.brk default }) := by
  simp [orientlock, allocRange_fresh, copyFromUser]

theorem orientlock_entry_nomem (type : EntryType) (korient : OrientationRange) :
    orientlock type s caller (.mapped korient) false true =
      some (.error (-enomem), { s with brk := s.brk + 1, live := Function.update s.live s.brk true,
                                       ranges := Function.update s.ranges s.brk korient }) := by
  simp [orientlock, allocRange_fresh, copyFromUser]

theorem orientunlock_error_unchanged (type : EntryType) (orient : UserPtr OrientationRange)
    (failed : (orientunlock type s caller orient).1 ≠ 0) : (orientunlock type s caller orient).2 = s := by
  cases orient with
  | unmapped => cases type <;> rfl
  | mapped korient =>
    cases type with
    | reader => exact (orientunlockRead_releasesOwn s caller korient).2.2 failed
    | writer => exact absurd (orientunlockWrite_mapped_zero s korient) failed

theorem error_returns_change_observed (moved : s.currentOrient ≠ default)
    (free : s.setLock = none) (fresh : s.live s.brk = false) :
    (∃ t, setOrientation s caller .unmapped = some (-efault, t) ∧ t.observed ≠ s.observed) ∧
    (∀ type entryNomem, ∃ t, orientlock type s caller .unmapped false entryNomem =
      some (.error (-efault), t) ∧ t.observed ≠ s.observed) ∧
    (∀ type korient, ∃ t, orientlock type s caller (.mapped korient) false true =
      some (.error (-enomem), t) ∧ t.observed ≠ s.observed) := by
  have leaked : ∀ t : Kernel, t.live s.brk = true → t.observed ≠ s.observed := by
    intro t allocated same
    have live := congrArg (fun observed => observed.live s.brk) same
    simp only [Kernel.observed, allocated, fresh] at live
    exact Bool.noConfusion live
  refine ⟨⟨_, setOrientation_unmapped s caller free, ?_⟩, ?_, ?_⟩
  · intro same
    have orient := congrArg Observed.currentOrient same
    exact moved orient.symm
  · intro type entryNomem
    exact ⟨_, orientlock_unmapped s caller type entryNomem, leaked _ (by simp)⟩
  · intro type korient
    exact ⟨_, orientlock_entry_nomem s caller type korient, leaked _ (by simp)⟩

end ErrorReturns

/-- Boot, with a nonzero orientation. -/
def tiltedInit : Kernel := { Kernel.init with currentOrient := ⟨1, 0, 0⟩ }

/-- From `tiltedInit`, a bad pointer to `set_orientation` zeroes `current_orient`, and a bad
pointer or a failed entry allocation in `orientlock_read`/`orientlock_write` leaks
`korient`; all three return an error. -/
theorem error_returns_change_state :
    (∃ t, setOrientation tiltedInit 1 .unmapped = some (-efault, t) ∧ t.observed ≠ tiltedInit.observed) ∧
    (∀ type entryNomem, ∃ t, orientlock type tiltedInit 1 .unmapped false entryNomem =
      some (.error (-efault), t) ∧ t.observed ≠ tiltedInit.observed) ∧
    (∀ type korient, ∃ t, orientlock type tiltedInit 1 (.mapped korient) false true =
      some (.error (-enomem), t) ∧ t.observed ≠ tiltedInit.observed) :=
  error_returns_change_observed tiltedInit 1 (by decide) rfl rfl

section LockRetry

/-- The retry loop of the lock wrappers of `test/orient_lock.c` run alone, with the `kmalloc`
outcomes of its calls as `outcomes`: the entry of the call that queued one, or none once the
outcomes run out; `none` when a call spins on `WAITERS_LOCK`. -/
def lockRetry (type : EntryType) (caller : Pid) (orient : UserPtr OrientationRange) :
    List (Bool × Bool) → Kernel → Option (Option Ptr × Kernel)
  | [], s => some (none, s)
  | (rangeNomem, entryNomem) :: rest, s =>
    match orientlock type s caller orient rangeNomem entryNomem with
    | none => none
    | some (.error _, s) => lockRetry type caller orient rest s
    | some (.ok entry, s) => some (some entry, s)

/-- `orient_read_lock(lock)`, run by `caller`. -/
def orientReadLock (caller : Pid) (lock : UserPtr OrientationRange) :
    List (Bool × Bool) → Kernel → Option (Option Ptr × Kernel) :=
  lockRetry .reader caller lock

/-- `orient_write_lock(lock)`, run by `caller`. -/
def orientWriteLock (caller : Pid) (lock : UserPtr OrientationRange) :
    List (Bool × Bool) → Kernel → Option (Option Ptr × Kernel) :=
  lockRetry .writer caller lock

end LockRetry

end OrientLock
