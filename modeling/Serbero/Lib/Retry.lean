import Mathlib.Data.List.Basic
import Mathlib.Tactic.Common

/-! # Trying again

An attempt that fails for a passing reason is made again, a bounded number of times. -/

namespace Retry

variable {ε α : Type*}

/-- The attempts from `index` on, `left` of which may be made again: the failures that were passed
over, and how the last attempt ended. -/
def run (again : ε → Bool) (attempt : Nat → Except ε α) : Nat → Nat → List ε × Except ε α
  | 0, index => ([], attempt index)
  | left + 1, index =>
    match attempt index with
    | .ok value => ([], .ok value)
    | .error failure =>
      if again failure then
        let later := run again attempt left (index + 1)
        (failure :: later.1, later.2)
      else ([], .error failure)

/-- What makes a run of attempts: those that were passed over failed for a passing reason, and the
last one did not, unless nothing was left. -/
structure Made (again : ε → Bool) (attempt : Nat → Except ε α) (left index : Nat)
    (passed : List ε) (outcome : Except ε α) : Prop where
  bounded : passed.length ≤ left
  passing : ∀ i failure, passed[i]? = some failure →
    attempt (index + i) = .error failure ∧ again failure = true
  last : attempt (index + passed.length) = outcome
  final : ∀ failure, outcome = .error failure → again failure = true → passed.length = left

variable {again : ε → Bool} {attempt : Nat → Except ε α}

/-- An attempt that is passed over, before a run. -/
theorem Made.cons {left index : Nat} {passed : List ε} {outcome : Except ε α} {failure : ε}
    (h : Made again attempt left (index + 1) passed outcome)
    (hattempt : attempt index = .error failure) (hagain : again failure = true) :
    Made again attempt (left + 1) index (failure :: passed) outcome where
  bounded := Nat.succ_le_succ h.bounded
  passing i found hfound := by
    cases i with
    | zero =>
      cases hfound
      exact ⟨hattempt, hagain⟩
    | succ i =>
      have harith : index + (i + 1) = index + 1 + i := by omega
      rw [harith]
      exact h.passing i found hfound
  last := by
    have harith : index + (failure :: passed).length = index + 1 + passed.length := by
      rw [List.length_cons]
      omega
    rw [harith]
    exact h.last
  final found heq hpassing := by rw [List.length_cons, h.final found heq hpassing]

/-- **The rule of trying again.** -/
theorem run_made (again : ε → Bool) (attempt : Nat → Except ε α) (left index : Nat) :
    Made again attempt left index (run again attempt left index).1
      (run again attempt left index).2 := by
  induction left generalizing index with
  | zero =>
    exact ⟨Nat.le_refl 0, fun i failure hfailure => by simp [run] at hfailure, rfl,
      fun _ _ _ => rfl⟩
  | succ left ih =>
    unfold run
    cases hattempt : attempt index with
    | ok value =>
      exact ⟨Nat.zero_le _, fun i failure hfailure => by simp at hfailure, hattempt,
        fun _ heq => by cases heq⟩
    | error failure =>
      simp only []
      split
      · next hagain => exact (ih (index + 1)).cons hattempt hagain
      · next hagain =>
        refine ⟨Nat.zero_le _, fun i found hfound => by simp at hfound, hattempt,
          fun found heq hpassing => ?_⟩
        cases heq
        exact absurd hpassing hagain

/-- **It succeeds** when an attempt does, after failures that may pass, before retries run out. -/
theorem run_eq_ok_iff {left index : Nat} {value : α} :
    (run again attempt left index).2 = .ok value ↔
      ∃ tries ≤ left, attempt (index + tries) = .ok value ∧
        ∀ i < tries, ∃ failure, attempt (index + i) = .error failure ∧ again failure = true := by
  constructor
  · intro h
    have hmade := run_made again attempt left index
    refine ⟨_, hmade.bounded, hmade.last.trans h, fun i hi => ?_⟩
    exact ⟨_, hmade.passing i _ (List.getElem?_eq_getElem hi)⟩
  · rintro ⟨tries, hle, hvalue, hpassed⟩
    induction left generalizing index tries with
    | zero =>
      obtain rfl : tries = 0 := Nat.le_zero.mp hle
      exact hvalue
    | succ left ih =>
      rw [run]
      cases tries with
      | zero => rw [show attempt index = .ok value from hvalue]
      | succ tries =>
        obtain ⟨failure, hfailure, hagain⟩ := hpassed 0 (Nat.succ_pos tries)
        have hfirst : attempt index = .error failure := hfailure
        simp only [hfirst, hagain, if_true]
        have hshift : ∀ i, index + 1 + i = index + (i + 1) := fun i => by omega
        apply ih tries
        · exact Nat.le_of_succ_le_succ hle
        · rw [hshift]
          exact hvalue
        · intro i hi
          rw [hshift]
          exact hpassed (i + 1) (Nat.succ_lt_succ hi)

end Retry
