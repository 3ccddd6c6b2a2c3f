import Mathlib.Data.List.Basic
import Mathlib.Tactic.Common

/-! # Steps that happen as a whole or not at all

A program takes a list of steps in order, from where it stands, and stops at the first that fails,
which leaves no trace. What each step carries from its rung to the next is carried to wherever the
program stops. -/

namespace Ladder

variable {σ State ε : Type*}

/-- The steps from `rung` on, to the first that fails: why it failed, and the state before it. -/
def climb (take : Nat → σ → State → Except ε State) :
    Nat → List σ → State → Option ε × State
  | _, [], state => (none, state)
  | rung, step :: rest, state =>
    match take rung step state with
    | .error failure => (some failure, state)
    | .ok later => climb take (rung + 1) rest later

variable {take : Nat → σ → State → Except ε State} {holds : Nat → State → Prop}

/-- **The rule of a climb.** What every step carries one rung up holds at the rung that was reached,
and a climb without a failure reaches the last one. -/
theorem climb_rule {rung : Nat} {steps : List σ} {state : State}
    (hstep : ∀ i step before after, steps[i]? = some step → holds (rung + i) before →
      take (rung + i) step before = .ok after → holds (rung + i + 1) after)
    (hstart : holds rung state) :
    ∃ reached ≤ steps.length, holds (rung + reached) (climb take rung steps state).2 ∧
      ((climb take rung steps state).1 = none → reached = steps.length) := by
  induction steps generalizing rung state with
  | nil => exact ⟨0, Nat.le_refl _, hstart, fun _ => rfl⟩
  | cons step rest ih =>
    unfold climb
    cases htake : take rung step state with
    | error failure => exact ⟨0, Nat.zero_le _, hstart, fun heq => by cases heq⟩
    | ok later =>
      have hrest : ∀ i next before after, rest[i]? = some next → holds (rung + 1 + i) before →
          take (rung + 1 + i) next before = .ok after → holds (rung + 1 + i + 1) after := by
        intro i next before after hnext hbefore hafter
        have harith : rung + 1 + i = rung + (i + 1) := by omega
        rw [harith] at hbefore hafter ⊢
        exact hstep (i + 1) next before after hnext hbefore hafter
      obtain ⟨reached, hle, hholds, hnone⟩ := ih hrest (hstep 0 step state later rfl hstart htake)
      refine ⟨reached + 1, Nat.succ_le_succ hle, ?_, fun heq => ?_⟩
      · have harith : rung + 1 + reached = rung + (reached + 1) := by omega
        rw [← harith]
        exact hholds
      · rw [hnone heq, List.length_cons]

end Ladder
