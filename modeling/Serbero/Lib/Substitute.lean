import Mathlib.Data.List.Infix

/-! # Replacing a pattern in a text

The occurrences of a pattern in a text, from the left and without overlaps, each replaced. A text is a
list over any alphabet. What matters of a replacement is how long the result can get and what it can
contain, whatever the text is. -/

namespace Substitute

variable {α : Type*} [DecidableEq α]

/-- The text with each occurrence of the pattern replaced; `skip` symbols are still part of the last
occurrence found. -/
def substituteFrom (pattern replacement : List α) : Nat → List α → List α
  | _, [] => []
  | skip + 1, _ :: rest => substituteFrom pattern replacement skip rest
  | 0, symbol :: rest =>
    if pattern <+: symbol :: rest then
      replacement ++ substituteFrom pattern replacement (pattern.length - 1) rest
    else symbol :: substituteFrom pattern replacement 0 rest

/-- The text with each occurrence of the pattern replaced. -/
def substitute (pattern replacement text : List α) : List α :=
  substituteFrom pattern replacement 0 text

variable {pattern replacement other text : List α}

/-- A shorter replacement makes no longer text. -/
theorem length_substituteFrom_le (h : replacement.length ≤ other.length) (skip : Nat) :
    (substituteFrom pattern replacement skip text).length ≤
      (substituteFrom pattern other skip text).length := by
  induction text generalizing skip with
  | nil => simp [substituteFrom]
  | cons symbol rest ih =>
    cases skip with
    | succ skip => exact ih skip
    | zero =>
      by_cases hhere : pattern <+: symbol :: rest
      · have := ih (pattern.length - 1)
        simp only [substituteFrom, if_pos hhere, List.length_append]
        omega
      · have := ih 0
        simp only [substituteFrom, if_neg hhere, List.length_cons]
        omega

/-- A longer replacement never makes the text shorter. -/
theorem length_substitute_le (h : replacement.length ≤ other.length) :
    (substitute pattern replacement text).length ≤ (substitute pattern other text).length :=
  length_substituteFrom_le h 0

/-- A symbol of the result is kept, or of the replacement. -/
theorem mem_substituteFrom {symbol : α} {skip : Nat}
    (h : symbol ∈ substituteFrom pattern replacement skip text) :
    symbol ∈ substituteFrom pattern [] skip text ∨ symbol ∈ replacement := by
  induction text generalizing skip with
  | nil => simp [substituteFrom] at h
  | cons first rest ih =>
    cases skip with
    | succ skip => exact ih h
    | zero =>
      by_cases hhere : pattern <+: first :: rest
      · simp only [substituteFrom, if_pos hhere, List.mem_append, List.nil_append] at h ⊢
        rcases h with h | h
        · exact .inr h
        · exact ih h
      · simp only [substituteFrom, if_neg hhere, List.mem_cons] at h ⊢
        rcases h with h | h
        · exact .inl (.inl h)
        · exact (ih h).imp .inr id

/-- A symbol of the result was replaced into it, or is left when the pattern is taken out. -/
theorem mem_substitute {symbol : α} (h : symbol ∈ substitute pattern replacement text) :
    symbol ∈ substitute pattern [] text ∨ symbol ∈ replacement :=
  mem_substituteFrom h

/-- A text without the pattern stays as it is. -/
theorem substitute_eq_self (h : ¬ pattern <:+: text) :
    substitute pattern replacement text = text := by
  unfold substitute
  induction text with
  | nil => rfl
  | cons symbol rest ih =>
    have hhere : ¬ pattern <+: symbol :: rest := fun hhere => h hhere.isInfix
    have hrest : ¬ pattern <:+: rest := fun hrest => h (hrest.trans (List.suffix_cons ..).isInfix)
    rw [substituteFrom, if_neg hhere, ih hrest]

end Substitute
