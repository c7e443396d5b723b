import Mathlib.Logic.Function.Basic

set_option autoImplicit false

/- Labelled transition systems whose steps are a partial function of the state and a
label: a label that is not enabled yields `none`. A scheduler that interleaves several
agents picks the label, so every interleaving is a list of labels. -/
namespace Transition

/-- An initial state and a partial step function. -/
structure Machine (σ α : Type) where
  init : σ
  step : σ → α → Option σ

namespace Machine

variable {σ α : Type} (m : Machine σ α)

/-- Run the labels in order; `none` once a label is not enabled. -/
def run : σ → List α → Option σ
  | s, [] => some s
  | s, a :: rest => (m.step s a).bind fun t => run t rest

/-- The states some run from `source` visits. -/
inductive ReachableFrom (source : σ) : σ → Prop where
  | refl : ReachableFrom source source
  | step {s t : σ} (a : α) : ReachableFrom source s → m.step s a = some t → ReachableFrom source t

/-- The states some run from the initial state visits. -/
def Reachable (s : σ) : Prop := m.ReachableFrom m.init s

/-- A predicate that every enabled step keeps. -/
def Stable (P : σ → Prop) : Prop :=
  ∀ s a t, P s → m.step s a = some t → P t

/-- A predicate that holds in every reachable state. -/
def Invariant (P : σ → Prop) : Prop := ∀ s, m.Reachable s → P s

variable {m}

@[simp] theorem run_nil (s : σ) : m.run s [] = some s := rfl

@[simp] theorem run_cons (s : σ) (a : α) (rest : List α) :
    m.run s (a :: rest) = (m.step s a).bind fun t => m.run t rest := rfl

theorem ReachableFrom.trans {source middle target : σ} (first : m.ReachableFrom source middle)
    (second : m.ReachableFrom middle target) : m.ReachableFrom source target := by
  induction second with
  | refl => exact first
  | step a _ stepped ih => exact .step a ih stepped

theorem ReachableFrom.single {s t : σ} (a : α) (stepped : m.step s a = some t) :
    m.ReachableFrom s t :=
  .step a .refl stepped

theorem ReachableFrom.of_run {source target : σ} {labels : List α}
    (ran : m.run source labels = some target) : m.ReachableFrom source target := by
  induction labels generalizing source with
  | nil =>
    cases ran
    exact .refl
  | cons a rest ih =>
    simp only [run_cons] at ran
    cases stepped : m.step source a with
    | none => simp [stepped] at ran
    | some middle =>
      rw [stepped, Option.bind_some] at ran
      exact (ReachableFrom.single a stepped).trans (ih ran)

theorem Reachable.of_run {target : σ} {labels : List α}
    (ran : m.run m.init labels = some target) : m.Reachable target :=
  ReachableFrom.of_run ran

theorem run_of_test {source : σ} {labels : List α} {test : σ → Bool}
    (passes : (m.run source labels).map test = some true) :
    ∃ target, m.run source labels = some target ∧ test target = true := by
  cases ran : m.run source labels with
  | none => simp [ran] at passes
  | some target =>
    rw [ran, Option.map_some, Option.some.injEq] at passes
    exact ⟨target, rfl, passes⟩

theorem Reachable.of_run_test {labels : List α} {test : σ → Bool}
    (passes : (m.run m.init labels).map test = some true) : ∃ s, m.Reachable s ∧ test s = true := by
  obtain ⟨s, ran, passed⟩ := run_of_test passes
  exact ⟨s, Reachable.of_run ran, passed⟩

theorem Reachable.of_run_getD {labels : List α} (ran : (m.run m.init labels).isSome = true) :
    m.Reachable ((m.run m.init labels).getD m.init) := by
  obtain ⟨s, same⟩ := Option.isSome_iff_exists.mp ran
  rw [same, Option.getD_some]
  exact Reachable.of_run same

/-- The induction rule for runs: a stable predicate that holds at the source holds along
every run from it. -/
theorem ReachableFrom.stable {P : σ → Prop} (stable : m.Stable P) {source target : σ}
    (start : P source) (reached : m.ReachableFrom source target) : P target := by
  induction reached with
  | refl => exact start
  | step a _ stepped ih => exact stable _ a _ ih stepped

theorem invariant_of_stable {P : σ → Prop} (start : P m.init) (stable : m.Stable P) :
    m.Invariant P :=
  fun _ reached => ReachableFrom.stable stable start reached

/-- A stuttering simulation: when every step of `m` from a state where `P` holds keeps `P` and is,
through `view`, a step of `n` or no step at all, every reachable state of `m` satisfies `P` and
is seen as a reachable state of `n`. The step case may use that the view is reachable. -/
theorem Reachable.view {τ β : Type} {n : Machine τ β} {P : σ → Prop} (view : σ → τ)
    (start : P m.init) (initial : view m.init = n.init)
    (simulates : ∀ s a t, P s → n.Reachable (view s) → m.step s a = some t →
      P t ∧ (view t = view s ∨ ∃ b, n.step (view s) b = some (view t)))
    {s : σ} (reached : m.Reachable s) : P s ∧ n.Reachable (view s) := by
  induction reached with
  | refl => exact ⟨start, initial ▸ .refl⟩
  | step a _ stepped ih =>
    obtain ⟨kept, moved⟩ := simulates _ a _ ih.1 ih.2 stepped
    refine ⟨kept, ?_⟩
    rcases moved with same | ⟨b, matched⟩
    · exact same ▸ ih.2
    · exact .step b ih.2 matched

/-- The machine whose steps are those of `m` that `allowed` admits. -/
def restrict (m : Machine σ α) (allowed : σ → α → Prop) [∀ s a, Decidable (allowed s a)] :
    Machine σ α where
  init := m.init
  step s a := if allowed s a then m.step s a else none

theorem restrict_step {allowed : σ → α → Prop} [∀ s a, Decidable (allowed s a)] {s t : σ}
    {a : α} (stepped : (m.restrict allowed).step s a = some t) :
    allowed s a ∧ m.step s a = some t := by
  simp only [restrict] at stepped
  split at stepped
  · exact ⟨by assumption, stepped⟩
  · cases stepped

theorem step_restrict {allowed : σ → α → Prop} [∀ s a, Decidable (allowed s a)] {s t : σ}
    {a : α} (admitted : allowed s a) (stepped : m.step s a = some t) :
    (m.restrict allowed).step s a = some t := by
  simp only [restrict, if_pos admitted, stepped]

theorem ReachableFrom.of_restrict {allowed : σ → α → Prop} [∀ s a, Decidable (allowed s a)]
    {source target : σ} (reached : (m.restrict allowed).ReachableFrom source target) :
    m.ReachableFrom source target := by
  induction reached with
  | refl => exact .refl
  | step a _ stepped ih => exact .step a ih (restrict_step stepped).2

/-- The invariant rule of a restricted machine: the step case may use every invariant of `m`
(through `m.Reachable`) and that the step was admitted. -/
theorem restrict_invariant {allowed : σ → α → Prop} [∀ s a, Decidable (allowed s a)]
    {P : σ → Prop} (start : P m.init)
    (stable : ∀ s a t, m.Reachable s → P s → allowed s a → m.step s a = some t → P t) :
    (m.restrict allowed).Invariant P := by
  intro s reached
  suffices m.Reachable s ∧ P s from this.2
  induction reached with
  | refl => exact ⟨.refl, start⟩
  | step a _ stepped ih =>
    obtain ⟨admitted, base⟩ := restrict_step stepped
    exact ⟨.step a ih.1 base, stable _ a _ ih.1 ih.2 admitted base⟩

end Machine

end Transition
