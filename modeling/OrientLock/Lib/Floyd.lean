import Mathlib

set_option autoImplicit false

/- Floyd's cycle detection. The iterates of a map of a finite set into itself repeat within as
many steps as the set has elements, and from then on they are periodic; so some iterate `i`,
with `1 ≤ i` and `i` at most the size of the set, equals the iterate `2 * i`: the tortoise
and the hare meet. -/
namespace Floyd

variable {α : Type} (f : α → α) {S : Finset α}

theorem iterate_mem (maps : ∀ x ∈ S, f x ∈ S) {x : α} (inside : x ∈ S) (k : Nat) :
    f^[k] x ∈ S := by
  induction k with
  | zero => exact inside
  | succ k ih =>
    rw [Function.iterate_succ_apply']
    exact maps _ ih

theorem exists_iterate_eq (maps : ∀ x ∈ S, f x ∈ S) {x : α} (inside : x ∈ S) :
    ∃ a b, a < b ∧ b ≤ S.card ∧ f^[a] x = f^[b] x := by
  have fewer : S.card < (Finset.range (S.card + 1)).card := by simp
  obtain ⟨a, aBelow, b, bBelow, different, same⟩ :=
    Finset.exists_ne_map_eq_of_card_lt_of_maps_to fewer
      (f := fun k => f^[k] x) fun k _ => iterate_mem f maps inside k
  rw [Finset.mem_range] at aBelow bBelow
  rcases Nat.lt_or_gt_of_ne different with less | greater
  · exact ⟨a, b, less, by omega, same⟩
  · exact ⟨b, a, greater, by omega, same.symm⟩

theorem iterate_add_mul_period {x : α} {a p : Nat} (repeats : f^[a] x = f^[a + p] x) {t : Nat}
    (late : a ≤ t) (m : Nat) : f^[t + m * p] x = f^[t] x := by
  have shifted : f^[t + p] x = f^[t] x := by
    obtain ⟨k, rfl⟩ := Nat.exists_eq_add_of_le late
    calc f^[a + k + p] x = f^[k] (f^[a + p] x) := by
          rw [← Function.iterate_add_apply]; congr 1; omega
      _ = f^[k] (f^[a] x) := by rw [repeats]
      _ = f^[a + k] x := by rw [← Function.iterate_add_apply]; congr 1; omega
  induction m with
  | zero => simp
  | succ m ih =>
    calc f^[t + (m + 1) * p] x = f^[p] (f^[t + m * p] x) := by
          rw [← Function.iterate_add_apply]; congr 1; ring
      _ = f^[p] (f^[t] x) := by rw [ih]
      _ = f^[t] x := by rw [← Function.iterate_add_apply, Nat.add_comm, shifted]

/-- The tortoise `f^[i] x` and the hare `f^[2 * i] x` meet at some `1 ≤ i ≤ S.card`. -/
theorem exists_iterate_eq_iterate_two_mul (maps : ∀ x ∈ S, f x ∈ S) {x : α} (inside : x ∈ S) :
    ∃ i, 1 ≤ i ∧ i ≤ S.card ∧ f^[i] x = f^[2 * i] x := by
  obtain ⟨a, b, less, bounded, same⟩ := exists_iterate_eq f maps inside
  set p := b - a
  have repeats : f^[a] x = f^[a + p] x := by rw [same]; congr 1; omega
  have positive : 0 < p := by omega
  have above : a < p * (a / p + 1) := by
    have := Nat.lt_mul_div_succ a positive
    omega
  have within : p * (a / p + 1) ≤ a + p := by
    have := Nat.mul_div_le a p
    rw [Nat.mul_add, Nat.mul_one]
    omega
  refine ⟨p * (a / p + 1), by omega, by omega, ?_⟩
  have meet := iterate_add_mul_period f repeats above.le (a / p + 1)
  rw [← meet]
  congr 1
  ring

end Floyd
