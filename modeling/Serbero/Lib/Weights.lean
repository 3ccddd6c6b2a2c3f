import Mathlib.Algebra.BigOperators.Ring.List
import Mathlib.Algebra.Order.BigOperators.Group.List
import Mathlib.Algebra.Order.Field.Basic
import Mathlib.Tactic.Linarith

/-! # Weights

Finitely many nonnegative weights whose total is positive, over any ordered field. A weight's share
is what it is of the total, and the concentration tells how far the largest share is from a flat
distribution, from 0 to 1. -/

namespace Weights

variable {K : Type*}

/-! ## The largest weight -/

/-- What a running maximum comes to: an upper bound, and one of the values it went through. -/
theorem foldl_max_spec [LinearOrder K] (weights : List K) (start : K) :
    start ≤ weights.foldl max start ∧ (∀ w ∈ weights, w ≤ weights.foldl max start) ∧
      (weights.foldl max start = start ∨ weights.foldl max start ∈ weights) := by
  induction weights generalizing start with
  | nil => exact ⟨le_rfl, fun w hw => absurd hw List.not_mem_nil, Or.inl rfl⟩
  | cons first rest ih =>
    obtain ⟨hstart, hrest, hmem⟩ := ih (max start first)
    rw [List.foldl_cons]
    refine ⟨(le_max_left start first).trans hstart, fun w hw => ?_, ?_⟩
    · rcases List.mem_cons.mp hw with rfl | hold
      · exact (le_max_right start w).trans hstart
      · exact hrest w hold
    · rcases hmem with heq | hmem
      · rw [heq]
        rcases max_choice start first with hleft | hright
        · exact Or.inl hleft
        · rw [hright]
          exact Or.inr List.mem_cons_self
      · exact Or.inr (List.mem_cons_of_mem first hmem)

variable [Field K] [LinearOrder K]

/-- The largest weight, 0 if there is none. -/
def peak (weights : List K) : K := weights.foldl max 0

/-- No weight is above the peak. -/
theorem le_peak {weights : List K} {w : K} (hw : w ∈ weights) : w ≤ peak weights :=
  (foldl_max_spec weights 0).2.1 w hw

/-- Nonnegative weights, if there are some, have their peak among them. -/
theorem peak_mem {weights : List K} (hnonneg : ∀ w ∈ weights, 0 ≤ w) (hne : weights ≠ []) :
    peak weights ∈ weights := by
  rcases (foldl_max_spec weights 0).2.2 with hzero | hmem
  · obtain ⟨w, hw⟩ := List.exists_mem_of_ne_nil weights hne
    have heq : peak weights = 0 := hzero
    have hle : w ≤ 0 := heq ▸ le_peak hw
    rw [heq, ← le_antisymm hle (hnonneg w hw)]
    exact hw
  · exact hmem

/-- How concentrated the weights are, from 0 (flat) to 1 (all of it on one of them), when there are
at least two. -/
def concentration (weights : List K) : K :=
  ((weights.length : K) * peak weights / weights.sum - 1) / ((weights.length : K) - 1)

/-- The shares add up to 1. -/
theorem sum_shares {weights : List K} (htotal : 0 < weights.sum) :
    (weights.map (· / weights.sum)).sum = 1 := by
  simp only [div_eq_mul_inv]
  rw [List.sum_map_mul_right, List.map_id', mul_inv_cancel₀ htotal.ne']

variable [IsStrictOrderedRing K]

/-- Scaling the weights scales the peak. -/
theorem peak_map_mul {factor : K} (hfactor : 0 ≤ factor) (weights : List K) :
    peak (weights.map (factor * ·)) = factor * peak weights := by
  have key : ∀ start : K, (weights.map (factor * ·)).foldl max (factor * start) =
      factor * weights.foldl max start := by
    intro start
    induction weights generalizing start with
    | nil => rfl
    | cons first rest ih =>
      rw [List.map_cons, List.foldl_cons, List.foldl_cons, ← mul_max_of_nonneg _ _ hfactor, ih]
  have hzero := key 0
  rw [mul_zero] at hzero
  exact hzero

/-! ## Parts of a total -/

/-- A sum of parts, each at most the weight it is of. -/
theorem sum_parts_mem {β : Type*} {entries : List β} {weight part : β → K}
    (h : ∀ entry ∈ entries, 0 ≤ part entry ∧ part entry ≤ weight entry) :
    0 ≤ (entries.map part).sum ∧ (entries.map part).sum ≤ (entries.map weight).sum := by
  constructor
  · refine List.sum_nonneg fun w hw => ?_
    obtain ⟨entry, hentry, rfl⟩ := List.mem_map.mp hw
    exact (h entry hentry).1
  · exact List.sum_le_sum fun entry hentry => (h entry hentry).2

variable {weights : List K}

/-- No weight is above the total. -/
theorem le_total (hnonneg : ∀ w ∈ weights, 0 ≤ w) {w : K} (hw : w ∈ weights) : w ≤ weights.sum :=
  List.single_le_sum hnonneg w hw

/-- Two different parts are no more than the total. -/
theorem add_le_sum_map {β : Type*} {entries : List β} {part : β → K}
    (hnonneg : ∀ entry ∈ entries, 0 ≤ part entry) {a b : β} (ha : a ∈ entries) (hb : b ∈ entries)
    (hne : a ≠ b) : part a + part b ≤ (entries.map part).sum := by
  classical
  have hb' : b ∈ entries.erase a := (List.mem_erase_of_ne hne.symm).mpr hb
  have hperm : entries.Perm (a :: b :: (entries.erase a).erase b) :=
    (List.perm_cons_erase ha).trans ((List.perm_cons_erase hb').cons a)
  have hrest : 0 ≤ (((entries.erase a).erase b).map part).sum := by
    refine List.sum_nonneg fun w hw => ?_
    obtain ⟨entry, hentry, rfl⟩ := List.mem_map.mp hw
    exact hnonneg entry (List.mem_of_mem_erase (List.mem_of_mem_erase hentry))
  rw [(hperm.map part).sum_eq, List.map_cons, List.map_cons, List.sum_cons, List.sum_cons]
  linarith

/-! ## The concentration -/

/-- Nor is the peak. -/
theorem peak_le_total (hnonneg : ∀ w ∈ weights, 0 ≤ w) (htotal : 0 < weights.sum) :
    peak weights ≤ weights.sum := by
  have hne : weights ≠ [] := by
    rintro rfl
    exact lt_irrefl (0 : K) htotal
  exact le_total hnonneg (peak_mem hnonneg hne)

/-- Each weight leaves a gap to the peak in the total. -/
theorem sum_add_gap_le {top : K} (htop : ∀ w ∈ weights, w ≤ top) {w : K} (hw : w ∈ weights) :
    weights.sum + (top - w) ≤ (weights.length : K) * top := by
  induction weights with
  | nil => exact absurd hw List.not_mem_nil
  | cons first rest ih =>
    have hfirst := htop first List.mem_cons_self
    have hrest : ∀ v ∈ rest, v ≤ top := fun v hv => htop v (List.mem_cons_of_mem first hv)
    have hsum : rest.sum ≤ (rest.length : K) * top := by
      rw [← nsmul_eq_mul]
      exact List.sum_le_card_nsmul rest top hrest
    rw [List.sum_cons, List.length_cons, Nat.cast_succ]
    rcases List.mem_cons.mp hw with rfl | hold
    · linarith
    · have := ih hrest hold
      linarith

/-- The total is at most as many peaks as there are weights. -/
theorem total_le_length_mul_peak (weights : List K) :
    weights.sum ≤ (weights.length : K) * peak weights := by
  rw [← nsmul_eq_mul]
  exact List.sum_le_card_nsmul weights (peak weights) fun w hw => le_peak hw

/-- Two weights or more leave something to divide by. -/
theorem length_sub_one_pos (hmany : 2 ≤ weights.length) : (0 : K) < (weights.length : K) - 1 := by
  have hcast : (2 : K) ≤ (weights.length : K) := by exact_mod_cast hmany
  linarith

/-- The concentration is not negative: the peak is at least the mean. -/
theorem concentration_nonneg (htotal : 0 < weights.sum) (hmany : 2 ≤ weights.length) :
    0 ≤ concentration weights := by
  refine div_nonneg ?_ (length_sub_one_pos hmany).le
  rw [sub_nonneg, le_div_iff₀ htotal, one_mul]
  exact total_le_length_mul_peak weights

/-- The concentration is one at most: the peak is at most the total. -/
theorem concentration_le_one (hnonneg : ∀ w ∈ weights, 0 ≤ w) (htotal : 0 < weights.sum)
    (hmany : 2 ≤ weights.length) : concentration weights ≤ 1 := by
  have hpos : (0 : K) < (weights.length : K) - 1 := length_sub_one_pos hmany
  have hlength : (0 : K) ≤ (weights.length : K) := by linarith
  rw [concentration, div_le_one hpos]
  refine sub_le_sub_right ?_ 1
  rw [div_le_iff₀ htotal]
  exact mul_le_mul_of_nonneg_left (peak_le_total hnonneg htotal) hlength

/-- Full concentration: one weight is the whole total. -/
theorem concentration_eq_one_iff (hnonneg : ∀ w ∈ weights, 0 ≤ w) (htotal : 0 < weights.sum)
    (hmany : 2 ≤ weights.length) :
    concentration weights = 1 ↔ ∃ w ∈ weights, w = weights.sum := by
  have hpos : (0 : K) < (weights.length : K) - 1 := length_sub_one_pos hmany
  have hlength : (weights.length : K) ≠ 0 := by linarith
  have hne : weights ≠ [] := by
    rintro rfl
    exact lt_irrefl (0 : K) htotal
  have hpeak : concentration weights = 1 ↔ peak weights = weights.sum := by
    rw [concentration, div_eq_one_iff_eq hpos.ne', sub_left_inj, div_eq_iff htotal.ne']
    constructor
    · exact fun heq => mul_left_cancel₀ hlength heq
    · intro heq
      rw [heq]
  rw [hpeak]
  constructor
  · exact fun heq => ⟨peak weights, peak_mem hnonneg hne, heq⟩
  · rintro ⟨w, hw, heq⟩
    refine le_antisymm (peak_le_total hnonneg htotal) ?_
    rw [← heq]
    exact le_peak hw

/-- No concentration: the weights are all the same. -/
theorem concentration_eq_zero_iff (htotal : 0 < weights.sum) (hmany : 2 ≤ weights.length) :
    concentration weights = 0 ↔ ∀ a ∈ weights, ∀ b ∈ weights, a = b := by
  have hpos : (0 : K) < (weights.length : K) - 1 := length_sub_one_pos hmany
  have hflat : concentration weights = 0 ↔ (weights.length : K) * peak weights = weights.sum := by
    rw [concentration, div_eq_zero_iff, or_iff_left hpos.ne', sub_eq_zero,
      div_eq_one_iff_eq htotal.ne']
  rw [hflat]
  constructor
  · intro heq a ha b hb
    have top : ∀ w ∈ weights, w = peak weights := by
      intro w hw
      have hgap := sum_add_gap_le (fun v hv => le_peak hv) hw
      have hle : w ≤ peak weights := le_peak hw
      linarith
    rw [top a ha, top b hb]
  · intro hsame
    refine le_antisymm ?_ (total_le_length_mul_peak weights)
    rcases (foldl_max_spec weights 0).2.2 with hzero | hmem
    · have hpeak : peak weights = 0 := hzero
      rw [hpeak, mul_zero]
      exact htotal.le
    · have hsum := List.sum_eq_card_nsmul weights (peak weights)
        fun w hw => hsame w hw (peak weights) hmem
      rw [hsum, nsmul_eq_mul]

/-- The concentration does not depend on the scale of the weights. -/
theorem concentration_map_mul {factor : K} (hfactor : 0 < factor) (weights : List K) :
    concentration (weights.map (factor * ·)) = concentration weights := by
  have hsum : (weights.map (factor * ·)).sum = factor * weights.sum := by
    rw [List.sum_map_mul_left, List.map_id']
  rw [concentration, concentration, peak_map_mul hfactor.le, hsum, List.length_map,
    mul_left_comm, mul_div_mul_left _ _ hfactor.ne']

end Weights
