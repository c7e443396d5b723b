import OrientLock.Test.Prime
import OrientLock.Lib.Floyd

set_option autoImplicit false

/- `rho` and `factor` of `src/test/pollard.c`. `rho` draws `c` and `x` by `mpz_urandomm`,
answers 2 for an even `N`, and otherwise moves the tortoise `x` one step and the hare `xx` two
steps of `y ↦ (y * y mod N + c) mod N` until `gcd(|x - xx|, N)` is not 1. `factor` prints a
prime, and otherwise recurses on that divisor and on its cofactor. -/
namespace OrientLock

/-- One update of `x` in `rho`: `mpz_mul`, `mpz_mod`, `mpz_add`, `mpz_mod`. -/
def rhoStep (N c y : Nat) : Nat := (y * y % N + c) % N

/-- The do-while of `rho` with at most `fuel` turns: advance `x` once and `xx` twice, and
leave with `gcd(|x - xx|, N)` unless it is 1. -/
def rhoLoop (N c : Nat) : Nat → Nat → Nat → Option Nat
  | 0, _, _ => none
  | fuel + 1, x, xx =>
    let x := rhoStep N c x
    let xx := rhoStep N c (rhoStep N c xx)
    let divisor := Nat.gcd ((x : Int) - xx).natAbs N
    if divisor = 1 then rhoLoop N c fuel x xx else some divisor

/-- `rho(R, N)` once `mpz_urandomm` has drawn `c` and `x`, with at most `fuel` turns of its
loop: the value it sets `R` to. -/
def rho (N c x fuel : Nat) : Option Nat :=
  if 2 ∣ N then some 2 else rhoLoop N c fuel x x

/-- The terminating runs of `factor(N)` and the numbers each prints, for every value the
`mpz_urandomm` calls of its `rho`s may return, with `mpz_probab_prime_p(N, 10) != 0` as
`mpzProbabPrimeP`. -/
inductive FactorRun (mpzProbabPrimeP : Nat → Bool) : Nat → List Nat → Prop
  | one : FactorRun mpzProbabPrimeP 1 []
  | prime {N : Nat} (notOne : N ≠ 1) (isPrime : mpzProbabPrimeP N = true) : FactorRun mpzProbabPrimeP N [N]
  | split {N c x fuel d : Nat} {first second : List Nat} (notOne : N ≠ 1)
      (composite : mpzProbabPrimeP N = false) (cBelow : c < N) (xBelow : x < N)
      (ran : rho N c x fuel = some d) (left : FactorRun mpzProbabPrimeP d first)
      (right : FactorRun mpzProbabPrimeP (N / d) second) : FactorRun mpzProbabPrimeP N (first ++ second)

section Rho

variable {N c : Nat}

theorem rhoLoop_divisor {fuel x xx d : Nat} (ran : rhoLoop N c fuel x xx = some d) :
    d ∣ N ∧ d ≠ 1 := by
  induction fuel generalizing x xx with
  | zero => cases ran
  | succ fuel ih =>
    simp only [rhoLoop] at ran
    split at ran
    · exact ih ran
    · next notOne =>
      cases ran
      exact ⟨Nat.gcd_dvd_right _ _, notOne⟩

theorem rhoLoop_add {fuel x xx d : Nat} (ran : rhoLoop N c fuel x xx = some d) (extra : Nat) :
    rhoLoop N c (fuel + extra) x xx = some d := by
  induction fuel generalizing x xx with
  | zero => cases ran
  | succ fuel ih =>
    rw [Nat.add_right_comm]
    simp only [rhoLoop] at ran ⊢
    split at ran
    · next one =>
      rw [if_pos one]
      exact ih ran
    · next notOne =>
      rw [if_neg notOne]
      exact ran

theorem rhoLoop_isSome_of_meet (two_le : 2 ≤ N) (x fuel : Nat) :
    ∀ k, (∃ i, k < i ∧ i ≤ k + fuel ∧ (rhoStep N c)^[i] x = (rhoStep N c)^[2 * i] x) →
      (rhoLoop N c fuel ((rhoStep N c)^[k] x) ((rhoStep N c)^[2 * k] x)).isSome := by
  induction fuel with
  | zero =>
    rintro k ⟨i, above, within, -⟩
    omega
  | succ fuel ih =>
    rintro k ⟨i, above, within, meet⟩
    have tortoise : rhoStep N c ((rhoStep N c)^[k] x) = (rhoStep N c)^[k + 1] x :=
      (Function.iterate_succ_apply' _ _ _).symm
    have hare : rhoStep N c (rhoStep N c ((rhoStep N c)^[2 * k] x)) =
        (rhoStep N c)^[2 * (k + 1)] x := by
      rw [show 2 * (k + 1) = 2 * k + 1 + 1 by ring, Function.iterate_succ_apply',
        Function.iterate_succ_apply']
    simp only [rhoLoop, tortoise, hare]
    split
    · next one =>
      refine ih (k + 1) ⟨i, ?_, by omega, meet⟩
      rcases Nat.eq_or_lt_of_le above with first | later
      · subst first
        rw [meet, sub_self, Int.natAbs_zero, Nat.gcd_zero_left] at one
        omega
      · exact later
    · rfl

theorem rho_divisor {x fuel d : Nat} (positive : 0 < N) (ran : rho N c x fuel = some d) :
    d ∣ N ∧ 1 < d := by
  unfold rho at ran
  split at ran
  · next even =>
    cases ran
    exact ⟨even, by norm_num⟩
  · obtain ⟨divides, notOne⟩ := rhoLoop_divisor ran
    have := Nat.pos_of_dvd_of_pos divides positive
    exact ⟨divides, by omega⟩

end Rho

/-- For `N ≥ 2`, any `c` and a start `x < N`, the tortoise and the hare meet at some turn
`1 ≤ i ≤ N`, so the loop of `rho` leaves within `N` turns and more turns change nothing; `rho`
sets `R` to a divisor `d > 1` of `N`, and to 2 when `N` is even. -/
theorem rho_finds_divisor (N c x : Nat) (two_le : 2 ≤ N) (xBelow : x < N) :
    (∃ i, 1 ≤ i ∧ i ≤ N ∧ (rhoStep N c)^[i] x = (rhoStep N c)^[2 * i] x) ∧
      ∃ d, (∀ fuel, N ≤ fuel → rho N c x fuel = some d) ∧ d ∣ N ∧ 1 < d ∧ (2 ∣ N → d = 2) := by
  -- Floyd: the residues stay in `[0, N)`, so tortoise and hare meet within `N` turns
  have maps : ∀ y ∈ Finset.range N, rhoStep N c y ∈ Finset.range N :=
    fun y _ => Finset.mem_range.mpr (Nat.mod_lt _ (by omega))
  obtain ⟨i, positive, bounded, meet⟩ :=
    Floyd.exists_iterate_eq_iterate_two_mul (rhoStep N c) maps (Finset.mem_range.mpr xBelow)
  rw [Finset.card_range] at bounded
  refine ⟨⟨i, positive, bounded, meet⟩, ?_⟩
  by_cases even : 2 ∣ N
  · exact ⟨2, fun _ _ => by simp [rho, even], even, by norm_num, fun _ => rfl⟩
  · have left := rhoLoop_isSome_of_meet two_le x N 0 ⟨i, positive, by omega, meet⟩
    simp only [Function.iterate_zero, id_eq, mul_zero] at left
    obtain ⟨d, found⟩ := Option.isSome_iff_exists.mp left
    have answered : ∀ fuel, N ≤ fuel → rho N c x fuel = some d := by
      intro fuel enough
      obtain ⟨extra, rfl⟩ := Nat.exists_eq_add_of_le enough
      simp only [rho, if_neg even]
      exact rhoLoop_add found extra
    obtain ⟨divides, above⟩ := rho_divisor (by omega) (answered N le_rfl)
    exact ⟨d, answered, divides, above, fun two => absurd two even⟩

theorem rho_finds_divisor_fifteen :
    (∃ i, 1 ≤ i ∧ i ≤ 15 ∧ (rhoStep 15 1)^[i] 2 = (rhoStep 15 1)^[2 * i] 2) ∧
      ∃ d, (∀ fuel, 15 ≤ fuel → rho 15 1 2 fuel = some d) ∧ d ∣ 15 ∧ 1 < d ∧ (2 ∣ 15 → d = 2) :=
  rho_finds_divisor 15 1 2 (by decide) (by decide)

section Factor

variable {mpzProbabPrimeP : Nat → Bool}

theorem FactorRun.primes_prod (sound : ∀ n, mpzProbabPrimeP n = true → n.Prime) {N : Nat}
    {printed : List Nat} (run : FactorRun mpzProbabPrimeP N printed) :
    (∀ p ∈ printed, p.Prime) ∧ printed.prod = N := by
  induction run with
  | one => simp
  | prime notOne isPrime =>
    exact ⟨by simpa using sound _ isPrime, by simp⟩
  | split notOne composite cBelow xBelow ran left right leftIH rightIH =>
    obtain ⟨divides, -⟩ := rho_divisor (by omega) ran
    refine ⟨List.forall_mem_append.mpr ⟨leftIH.1, rightIH.1⟩, ?_⟩
    rw [List.prod_append, leftIH.2, rightIH.2, Nat.mul_div_cancel' divides]

/-- When `mpz_probab_prime_p` accepts only primes, every terminating run of `factor(N)` prints
primes whose product is `N`, and as a multiset they are the prime factorization of `N`. -/
theorem factor_prints_factorization (sound : ∀ n, mpzProbabPrimeP n = true → n.Prime) {N : Nat}
    {printed : List Nat} (run : FactorRun mpzProbabPrimeP N printed) :
    (∀ p ∈ printed, p.Prime) ∧ printed.prod = N ∧ printed.Perm N.primeFactorsList := by
  obtain ⟨primes, product⟩ := run.primes_prod sound
  exact ⟨primes, product, Nat.primeFactorsList_unique product primes⟩

end Factor

theorem factor_prints_factorization_twelve :
    (∀ p ∈ [2, 2, 3], p.Prime) ∧ [2, 2, 3].prod = 12 ∧ [2, 2, 3].Perm (Nat.primeFactorsList 12) :=
  @factor_prints_factorization (fun n => decide n.Prime) (fun _ accepted => of_decide_eq_true accepted) 12
    [2, 2, 3] (@FactorRun.split _ 12 0 0 0 2 [2] [2, 3] (by decide) (by decide) (by decide) (by decide)
      (by decide) (.prime (by decide) (by decide))
      (@FactorRun.split _ 6 0 0 0 2 [2] [3] (by decide) (by decide) (by decide) (by decide)
        (by decide) (.prime (by decide) (by decide)) (.prime (by decide) (by decide))))

end OrientLock
