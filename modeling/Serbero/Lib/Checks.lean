import Mathlib.Data.List.Nodup
import Mathlib.Tactic.Common

/-! # Checks in a row

Checks that are made one after the other, each only if the ones before it passed. Together they pass
when each does; otherwise the first that fails says why. -/

namespace Checks

variable {ε α : Type*}

/-- Makes the checks in order, up to the first that fails. -/
def run : List (Except ε Unit) → Except ε Unit
  | [] => .ok ()
  | .ok () :: rest => run rest
  | .error why :: _ => .error why

/-- A condition, and what to say where it does not hold. -/
def ensure (condition : Prop) [Decidable condition] (why : ε) : Except ε Unit :=
  if condition then .ok () else .error why

variable {checks more : List (Except ε Unit)} {why : ε}

/-- A check passes when its condition holds. -/
@[simp] theorem ensure_eq_ok {condition : Prop} [Decidable condition] :
    ensure condition why = .ok () ↔ condition := by
  unfold ensure
  split
  · next h => simp [h]
  · next h => simp [h]

/-- A check that fails tells why. -/
@[simp] theorem ensure_eq_error {condition : Prop} [Decidable condition] {found : ε} :
    ensure condition why = .error found ↔ ¬condition ∧ why = found := by
  unfold ensure
  split
  · next h => simp [h]
  · next h => simp [h]

/-- A check that failed, of those in a row. -/
theorem of_error_eq_ensure {condition : Prop} [Decidable condition] {found : ε}
    (h : .error found = ensure condition why) : ¬condition ∧ found = why := by
  obtain ⟨hnot, rfl⟩ := ensure_eq_error.mp h.symm
  exact ⟨hnot, rfl⟩

/-- **All checks pass** when each does. -/
theorem run_eq_ok : run checks = .ok () ↔ ∀ check ∈ checks, check = .ok () := by
  induction checks with
  | nil => simp [run]
  | cons check rest ih =>
    cases check with
    | ok _ => simp [run, ih]
    | error why => simp [run]

/-- **The first check that fails** says why. -/
theorem run_eq_error :
    run checks = .error why ↔
      ∃ before after, checks = before ++ .error why :: after ∧ ∀ check ∈ before, check = .ok () := by
  induction checks with
  | nil => simp [run]
  | cons check rest ih =>
    cases check with
    -- A check that passes stands before the one that fails.
    | ok passed =>
      rw [run, ih]
      constructor
      · rintro ⟨before, after, rfl, hbefore⟩
        refine ⟨.ok passed :: before, after, rfl, fun check hcheck => ?_⟩
        rcases List.mem_cons.mp hcheck with rfl | hmem
        · rfl
        · exact hbefore check hmem
      · rintro ⟨before, after, hsplit, hbefore⟩
        cases before with
        | nil => simp at hsplit
        | cons first before =>
          rw [List.cons_append, List.cons.injEq] at hsplit
          exact ⟨before, after, hsplit.2, fun check hcheck =>
            hbefore check (List.mem_cons_of_mem _ hcheck)⟩
    | error found =>
      rw [run]
      constructor
      · rintro h
        cases h
        exact ⟨[], rest, rfl, fun check hcheck => absurd hcheck List.not_mem_nil⟩
      · rintro ⟨before, after, hsplit, hbefore⟩
        cases before with
        | nil =>
          rw [List.nil_append, List.cons.injEq] at hsplit
          exact hsplit.1
        | cons first before =>
          rw [List.cons_append, List.cons.injEq] at hsplit
          have hfirst := hbefore first List.mem_cons_self
          rw [← hsplit.1] at hfirst
          cases hfirst

/-- What fails is one of the checks. -/
theorem mem_of_run (h : run checks = .error why) : .error why ∈ checks := by
  obtain ⟨before, after, rfl, -⟩ := run_eq_error.mp h
  exact List.mem_append_right _ List.mem_cons_self

/-! ## Lists of values -/

variable {β : Type*}

/-- What holds of each entry of a numbered list. -/
theorem forall_mem_mapIdx {items : List α} {f : Nat → α → β} {p : β → Prop} :
    (∀ made ∈ items.mapIdx f, p made) ↔ ∀ i, ∀ h : i < items.length, p (f i items[i]) := by
  constructor
  · intro hall i h
    exact hall _ (List.mem_mapIdx.mpr ⟨i, h, rfl⟩)
  · rintro hall made hmade
    obtain ⟨i, h, rfl⟩ := List.mem_mapIdx.mp hmade
    exact hall i h

/-- Checked in order, a list has no value twice when none is among those before it. -/
theorem nodup_map_iff_take (items : List α) (f : α → β) :
    (items.map f).Nodup ↔
      ∀ i, ∀ h : i < items.length, ∀ earlier ∈ items.take i, f earlier ≠ f items[i] := by
  rw [List.Nodup, List.pairwise_map, List.pairwise_iff_getElem]
  constructor
  · intro hpairs i h earlier hearlier
    obtain ⟨j, hj, rfl⟩ := List.mem_take_iff_getElem.mp hearlier
    exact hpairs j i (by omega) h (by omega)
  · intro hall j i hj hi hlt
    exact hall i hi _ (List.mem_take_iff_getElem.mpr ⟨j, by omega, rfl⟩)

end Checks
