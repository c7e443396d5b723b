import Mathlib.Data.List.Basic

set_option autoImplicit false

/- The order of the elements of a queue kept as a list, and what erasing an element does to
the list of their images. -/
namespace ListOrder

variable {α : Type}

/-- `a` is queued before `b` in `l`. -/
def Precedes (l : List α) (a b : α) : Prop := [a, b].Sublist l

instance [DecidableEq α] (l : List α) (a b : α) : Decidable (Precedes l a b) :=
  inferInstanceAs (Decidable ([a, b].Sublist l))

theorem Precedes.mem_front {a b : α} : ∀ {front back : List α}, b ∉ back →
    Precedes (front ++ b :: back) a b → a ∈ front
  | [], back, notBack, order => by
    unfold Precedes at order
    rw [List.nil_append, List.sublist_cons_iff] at order
    rcases order with order | ⟨rest, same, order⟩
    · exact absurd (order.subset (by simp)) notBack
    · simp only [List.cons.injEq] at same
      rw [← same.2] at order
      exact absurd (order.subset (by simp)) notBack
  | x :: front, back, notBack, order => by
    unfold Precedes at order
    rw [List.cons_append, List.sublist_cons_iff] at order
    rcases order with order | ⟨rest, same, -⟩
    · exact List.mem_cons_of_mem x (Precedes.mem_front notBack order)
    · simp only [List.cons.injEq] at same
      simp [same.1]

theorem map_erase_perm [BEq α] [LawfulBEq α] {β : Type} [BEq β] [LawfulBEq β] (f : α → β) {l : List α} {x : α}
    (mem : x ∈ l) : ((l.erase x).map f).Perm ((l.map f).erase (f x)) := by
  have split := (List.perm_cons_erase mem).map f
  rw [List.map_cons] at split
  have erased := split.erase (f x)
  rw [List.erase_cons_head] at erased
  exact erased.symm

end ListOrder
