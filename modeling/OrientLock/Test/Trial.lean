import OrientLock.Test.Prime

set_option autoImplicit false

/- `find_factors` of `src/test/trial.c`. For a composite `base` the do-while visits 2 and then
every prime up to `half = ceil(base / 2)` by `mpz_nextprime`, and prints those that divide
`base`; every prime factor of a composite is at most `base / 2`. -/
namespace OrientLock

/-- What `find_factors` prints: `"%s is a prime number"`, or `"Prime factors for %s are:"`
followed by the numbers it prints. -/
inductive Report where
  | prime
  | factors (printed : List Nat)
  deriving DecidableEq, Repr

/-- `mpz_cdiv_q(q, n, d)` for `d > 0`: the quotient rounded up. -/
def mpzCdivQ (n d : Nat) : Nat := (n + d - 1) / d

/-- `mpz_nextprime`, as `find_factors` needs it to leave its loop: it returns a number above
its argument. -/
structure Nextprime where
  next : Nat → Nat
  lt_next : ∀ i, i < next i

/-- The least prime above `i`: the `mpz_nextprime` that `find_factors` assumes. -/
def leastPrimeAbove : Nextprime where
  next i := Nat.find (Nat.exists_infinite_primes (i + 1))
  lt_next i := (Nat.find_spec (Nat.exists_infinite_primes (i + 1))).1

theorem leastPrimeAbove_le {i q : Nat} (above : i < q) (prime : q.Prime) : leastPrimeAbove.next i ≤ q :=
  Nat.find_min' _ ⟨above, prime⟩

section FindFactors

variable (mpzProbabPrimeP : Nat → Bool) (mpzNextprime : Nextprime)

/-- The do-while of `find_factors` from `i`: print `i` when it divides `base` and
`verify_is_prime` accepts it, step to the next prime, and go on while that is at most
`half`. -/
def findLoop (base half i : Nat) : List Nat :=
  let printed := if i ∣ base ∧ verifyIsPrime i = true then [i] else []
  let next := mpzNextprime.next i
  printed ++ if next ≤ half then findLoop base half next else []
termination_by half + 1 - i
decreasing_by
  have := mpzNextprime.lt_next i
  omega

/-- `find_factors(base)`, with `mpz_probab_prime_p(base, 10) != 0` as `mpzProbabPrimeP`. -/
def findFactors (base : Nat) : Report :=
  let half := mpzCdivQ base 2
  if mpzProbabPrimeP base then .prime else .factors (findLoop mpzNextprime base half 2)

variable {mpzNextprime}

theorem mem_printed {base i q : Nat}
    (here : q ∈ if i ∣ base ∧ verifyIsPrime i = true then [i] else []) :
    q = i ∧ i ∣ base ∧ verifyIsPrime i = true := by
  split at here
  · next tested => exact ⟨List.mem_singleton.mp here, tested⟩
  · cases here

theorem of_mem_findLoop {base half i q : Nat} (printed : q ∈ findLoop mpzNextprime base half i) :
    q.Prime ∧ q ∣ base ∧ i ≤ q ∧ (q = i ∨ q ≤ half) := by
  fun_induction findLoop mpzNextprime base half i with
  | case1 i printed next ih =>
    have advanced : i < next := mpzNextprime.lt_next i
    rcases List.mem_append.mp printed with here | later
    · obtain ⟨rfl, divides, tested⟩ := mem_printed here
      exact ⟨prime_of_verifyIsPrime tested, divides, le_refl q, .inl rfl⟩
    · split at later
      · next within =>
        obtain ⟨prime, divides, atLeast, tested⟩ := ih within later
        exact ⟨prime, divides, by omega, .inr (tested.elim (· ▸ within) id)⟩
      · cases later

theorem mem_findLoop_of (least : ∀ i q, i < q → q.Prime → mpzNextprime.next i ≤ q) {base half i q : Nat}
    (prime : q.Prime) (divides : q ∣ base) (atLeast : i ≤ q) (tested : q = i ∨ q ≤ half) :
    q ∈ findLoop mpzNextprime base half i := by
  fun_induction findLoop mpzNextprime base half i with
  | case1 i printed next ih =>
    rw [List.mem_append]
    rcases Nat.eq_or_lt_of_le atLeast with rfl | above
    · left
      simp [printed, divides, verifyIsPrime_of_prime prime]
    · right
      have below : q ≤ half := tested.resolve_left above.ne'
      have reached : next ≤ q := least i q above prime
      rw [if_pos (reached.trans below)]
      exact ih (reached.trans below) reached (.inr below)

theorem findLoop_pairwise (base half i : Nat) :
    (findLoop mpzNextprime base half i).Pairwise (· < ·) := by
  fun_induction findLoop mpzNextprime base half i with
  | case1 i printed next ih =>
    have advanced : i < next := mpzNextprime.lt_next i
    refine List.pairwise_append.mpr ⟨?_, ?_, ?_⟩
    · simp only [printed]
      split <;> simp
    · split
      · next within => exact ih within
      · exact List.Pairwise.nil
    · intro a here b later
      have first : a = i := (mem_printed here).1
      split at later
      · have reached := (of_mem_findLoop later).2.2.1
        omega
      · cases later

theorem le_mpzCdivQ_of_dvd {base q : Nat} (positive : 1 ≤ base) (composite : ¬ base.Prime)
    (prime : q.Prime) (divides : q ∣ base) : q ≤ mpzCdivQ base 2 := by
  obtain ⟨m, rfl⟩ := divides
  have two_le : 2 ≤ m := by
    rcases m with _ | _ | m
    · omega
    · exact absurd (by simpa using prime) composite
    · omega
  have doubled : q * 2 ≤ q * m := Nat.mul_le_mul_left q two_le
  unfold mpzCdivQ
  omega

/-- With `mpz_probab_prime_p` exact and `mpz_nextprime` skipping no prime, `find_factors`
reports a prime base as prime, and otherwise prints exactly the primes that divide it, in
increasing order. -/
theorem findFactors_reports (exact : ∀ n, mpzProbabPrimeP n = true ↔ n.Prime)
    (least : ∀ i q, i < q → q.Prime → mpzNextprime.next i ≤ q) (base : Nat) (positive : 1 ≤ base) :
    (base.Prime → findFactors mpzProbabPrimeP mpzNextprime base = .prime) ∧
      (¬ base.Prime → ∃ printed, findFactors mpzProbabPrimeP mpzNextprime base = .factors printed ∧
        printed.Pairwise (· < ·) ∧ ∀ q, q ∈ printed ↔ q.Prime ∧ q ∣ base) := by
  constructor
  · intro prime
    simp [findFactors, (exact base).mpr prime]
  · intro composite
    have rejected : mpzProbabPrimeP base = false := by
      rw [← Bool.not_eq_true, exact]
      exact composite
    refine ⟨findLoop mpzNextprime base (mpzCdivQ base 2) 2, by simp [findFactors, rejected],
      findLoop_pairwise base _ 2, fun q => ?_⟩
    constructor
    · intro printed
      obtain ⟨prime, divides, -⟩ := of_mem_findLoop printed
      exact ⟨prime, divides⟩
    · rintro ⟨prime, divides⟩
      exact mem_findLoop_of least prime divides prime.two_le
        (.inr (le_mpzCdivQ_of_dvd positive composite prime divides))

end FindFactors

theorem findFactors_reports_twelve :
    (Nat.Prime 12 → findFactors (fun n => decide n.Prime) leastPrimeAbove 12 = .prime) ∧
      (¬ Nat.Prime 12 → ∃ printed, findFactors (fun n => decide n.Prime) leastPrimeAbove 12 = .factors printed ∧
        printed.Pairwise (· < ·) ∧ ∀ q, q ∈ printed ↔ q.Prime ∧ q ∣ 12) :=
  findFactors_reports (fun n => decide n.Prime) (fun n => decide_eq_true_iff)
    (fun _ _ above prime => leastPrimeAbove_le above prime) 12 (by decide)

end OrientLock
