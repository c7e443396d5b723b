import Mathlib

set_option autoImplicit false

/- `verify_is_prime` of `src/test/prime.h`, over exact integer arithmetic. The GMP primitives
that `trial` and `pollard` call besides, `mpz_probab_prime_p` and `mpz_nextprime`, come with
`src/tools/gmp` as a binary only: those programs take them as parameters, and each theorem
names what it assumes of them. -/
namespace OrientLock

/-- The do-while of `verify_is_prime` from `i`: return 0 when `i` divides `num`, else go on
with `i + 1` while it is at most `sqrt`. -/
def verifyLoop (num sqrt i : Nat) : Bool :=
  if i ∣ num then false
  else if i + 1 ≤ sqrt then verifyLoop num sqrt (i + 1)
  else true
termination_by sqrt + 1 - i

/-- `verify_is_prime(num)`, with `sqrt = mpz_sqrt(num)` the floor of the square root. -/
def verifyIsPrime (num : Nat) : Bool :=
  let sqrt := Nat.sqrt num
  if num = 1 then false
  else if num = 2 then true
  else verifyLoop num sqrt 2

theorem verifyLoop_eq_true_iff (num sqrt i : Nat) :
    verifyLoop num sqrt i = true ↔ ∀ m, i ≤ m → (m = i ∨ m ≤ sqrt) → ¬ m ∣ num := by
  fun_induction verifyLoop num sqrt i with
  | case1 i divides =>
    simp only [Bool.false_eq_true, false_iff, not_forall, not_not]
    exact ⟨i, le_refl i, .inl rfl, divides⟩
  | case2 i coprime within ih =>
    rw [ih]
    constructor
    · intro later m atLeast tested
      rcases Nat.eq_or_lt_of_le atLeast with same | above
      · exact same ▸ coprime
      · exact later m above (.inr (tested.resolve_left above.ne'))
    · intro all m atLeast tested
      exact all m (Nat.le_of_succ_le atLeast) (.inr (tested.elim (· ▸ within) id))
  | case3 i coprime beyond =>
    simp only [true_iff]
    intro m atLeast tested
    have same : m = i := tested.elim id fun below => by omega
    exact same ▸ coprime

theorem verifyIsPrime_eq_true_iff_checks (num : Nat) :
    verifyIsPrime num = true ↔
      num ≠ 1 ∧ (num = 2 ∨ ∀ m, 2 ≤ m → (m = 2 ∨ m ≤ Nat.sqrt num) → ¬ m ∣ num) := by
  unfold verifyIsPrime
  by_cases one : num = 1
  · simp [one]
  · by_cases two : num = 2
    · simp [two]
    · simp only [one, two, if_false, verifyLoop_eq_true_iff, ne_eq, not_false_eq_true,
        false_or, true_and]

theorem verifyIsPrime_of_prime {num : Nat} (prime : num.Prime) : verifyIsPrime num = true := by
  rw [verifyIsPrime_eq_true_iff_checks]
  refine ⟨prime.ne_one, ?_⟩
  by_cases two : num = 2
  · exact .inl two
  · right
    intro m atLeast tested divides
    -- a divisor from 2 of a prime is the prime itself, which is neither 2 nor below its root
    have self : m = num := (prime.eq_one_or_self_of_dvd m divides).resolve_left (by omega)
    rcases tested with isTwo | below
    · exact two (self ▸ isTwo)
    · have root := Nat.sqrt_lt_self prime.one_lt
      omega

theorem prime_of_verifyIsPrime {num : Nat} (accepted : verifyIsPrime num = true) : num.Prime := by
  obtain ⟨one, two | checks⟩ := (verifyIsPrime_eq_true_iff_checks num).mp accepted
  · exact two ▸ Nat.prime_two
  · have nonzero : num ≠ 0 := by
      rintro rfl
      exact checks 2 (le_refl 2) (.inl rfl) (dvd_zero 2)
    refine Nat.prime_def_le_sqrt.mpr ⟨by omega, fun m atLeast below => ?_⟩
    exact checks m atLeast (.inr below)

/-- `verify_is_prime` returns 1 exactly for primes, `n = 0`, `n = 3` and the squares of primes
included. -/
theorem verifyIsPrime_iff_prime (n : Nat) : verifyIsPrime n = true ↔ n.Prime :=
  ⟨prime_of_verifyIsPrime, verifyIsPrime_of_prime⟩

end OrientLock
