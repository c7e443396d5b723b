import OrientLock.Steps

set_option autoImplicit false

/- The life of a `lock_entry`: queued by `orientlock_*`, moved to `granted_list` by
`grant_lock`, unlinked and freed by the unlock syscalls. `grant_lock` publishes `granted = 1`
before it links the entry into `granted_list` and before it unlinks it from `waiters_list`; its
owner may return from the wait loop, and unlock, inside that window. -/
namespace OrientLock

/-- The three states an entry should pass through, in this order. -/
inductive Phase where
  | waiting
  | held
  | released
  deriving DecidableEq, Repr

def Kernel.InPhase (s : Kernel) (entry : Ptr) : Phase → Prop
  | .waiting => entry ∈ s.waitersList ∧ entry ∉ s.grantedList ∧ (s.entries entry).granted = false
  | .held => entry ∈ s.grantedList ∧ entry ∉ s.waitersList ∧ (s.entries entry).granted = true
  | .released =>
    entry ∉ s.waitersList ∧ entry ∉ s.grantedList ∧ s.live entry = false ∧
      s.live (s.entries entry).range = false

theorem not_inPhase_of_granted_waiting {s : Kernel} {entry : Ptr} (waiting : entry ∈ s.waitersList)
    (granted : (s.entries entry).granted = true) (phase : Phase) : ¬ s.InPhase entry phase := by
  cases phase with
  | waiting =>
    rintro ⟨-, -, clear⟩
    simp [granted] at clear
  | held =>
    rintro ⟨-, unlinked, -⟩
    exact unlinked waiting
  | released =>
    rintro ⟨unlinked, -⟩
    exact unlinked waiting

/-- Task 1 read-locks `wholeRange` and waits on its entry (address 2, range object 1). Task 2's
`set_orientation` runs up to `atomic_set(&entry->granted, 1)`; task 1 sees the flag and returns
from `orientlock_read`. -/
def earlyReturnTrace : List Action :=
  [.spawn 1, .spawn 2, .call 1 (.orientlockRead (.mapped wholeRange))] ++ runs 1 4 ++
    [.call 2 (.setOrientation (.mapped default))] ++ runs 2 7 ++ runs 1 1

/-- Task 2 links the entry into `granted_list`; task 1 calls `orientunlock_read` before task 2's
`list_del(&entry->list)`. -/
def unlockInWindowTrace : List Action :=
  runs 2 1 ++ [.call 1 (.orientunlockRead (.mapped wholeRange))] ++ runs 1 1

/-- Task 1 holds its read lock while its entry is not in `granted_list`; after its unlock the
entry and its range are freed while the entry is still linked in `waiters_list`, in none of the
three states. -/
theorem entry_freed_while_waiting :
    (∃ s, machine.run machine.init earlyReturnTrace = some s ∧ s.Holds 1 ⟨.reader, wholeRange⟩ ∧
      (s.entries 2).granted = true ∧ 2 ∉ s.grantedList) ∧
    (∃ s, machine.run machine.init (earlyReturnTrace ++ unlockInWindowTrace) = some s ∧
      2 ∈ s.waitersList ∧ s.live 2 = false ∧ s.live 1 = false ∧ ∀ phase, ¬ s.InPhase 2 phase) := by
  constructor
  · obtain ⟨s, ran, passed⟩ := Transition.Machine.run_of_test
      (show (machine.run machine.init earlyReturnTrace).map
        (fun s => decide (s.Holds 1 ⟨.reader, wholeRange⟩ ∧ (s.entries 2).granted = true ∧
          2 ∉ s.grantedList)) = some true by decide +kernel)
    exact ⟨s, ran, of_decide_eq_true passed⟩
  · obtain ⟨s, ran, passed⟩ := Transition.Machine.run_of_test
      (show (machine.run machine.init (earlyReturnTrace ++ unlockInWindowTrace)).map
        (fun s => decide (2 ∈ s.waitersList ∧ s.live 2 = false ∧ s.live 1 = false ∧
          (s.entries 2).granted = true)) = some true by decide +kernel)
    obtain ⟨waiting, freed, rangeFreed, granted⟩ := of_decide_eq_true passed
    exact ⟨s, ran, waiting, freed, rangeFreed, not_inPhase_of_granted_waiting waiting granted⟩

end OrientLock
