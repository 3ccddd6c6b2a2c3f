import Mathlib.Algebra.BigOperators.Field
import Mathlib.Data.Rat.Floor
import Serbero.Eval.Metrics
import Serbero.Judge.Facts
import Serbero.Lib.Bins

/-! # Calibration

The targets that validate a language, the thresholds recommended from a run, and the expected
calibration error. -/

namespace Serbero

namespace Scored

variable (item : Scored)

/-- The judge's own pick: the winning option, or yes from one half. -/
def predicted : Label :=
  match item.answer with
  | .noul pYes => .yes (decide (1 / 2 ≤ pYes))
  | answer => .option (answer.winner.getD "")

def correct : Bool := item.predicted == item.label

/-- The probability of the judge's own pick. -/
def confidence : ℚ := item.p item.predicted

end Scored

/-- Of the items whose pick reaches the threshold, the share that is right. -/
def accuracyAbove (items : List Scored) (base : String) (threshold : ℚ) : Option (ℚ × Nat) :=
  let above := (scoredOf items base).filter fun item => decide (threshold ≤ item.confidence)
  rate (above.countP Scored.correct) above.length

/-- The share of items whose pick reaches the threshold. -/
def coverage (items : List Scored) (base : String) (threshold : ℚ) : Option (ℚ × Nat) :=
  let all := scoredOf items base
  rate (all.countP fun item => decide (threshold ≤ item.confidence)) all.length

/-- The share of items whose pick is right. -/
def accuracy (items : List Scored) (base : String) : Option (ℚ × Nat) :=
  let all := scoredOf items base
  rate (all.countP Scored.correct) all.length

/-! ## Targets -/

/-- How a target is measured. -/
inductive Metric
  | precisionAt (positive : Label) (threshold : ℚ)
  | recallAt (positive : Label) (threshold : ℚ)
  | accuracyAbove (threshold : ℚ)
  | coverage (threshold : ℚ)
  | accuracy
  deriving DecidableEq, Repr

/-- One row of the targets table. -/
structure Target where
  base : String
  metric : Metric
  target : ℚ
  deriving DecidableEq, Repr

namespace Target

variable (row : Target) (items : List Scored)

def measure : Option (ℚ × Nat) :=
  match row.metric with
  | .precisionAt positive threshold => precisionAt items row.base positive threshold
  | .recallAt positive threshold => recallAt items row.base positive threshold
  | .accuracyAbove threshold => accuracyAbove items row.base threshold
  | .coverage threshold => coverage items row.base threshold
  | .accuracy => accuracy items row.base

/-- A target without items is not met. -/
def met : Bool := onTarget row.target (row.measure items)

end Target

/-- The questions what the parties say of the payment is read from. -/
def paymentBases : List String := ["buyer_payment", "seller_receipt"]

def wantsHumanBase : String := "<party>_wants_human"

def fraudBase : String := "fraud_signal"

/-- The targets of the `fact` threshold. -/
def factTargets (threshold : ℚ) : List Target :=
  paymentBases.flatMap fun base =>
    [⟨base, .accuracyAbove threshold, 95 / 100⟩, ⟨base, .coverage threshold, 70 / 100⟩]

/-- The target of the `human_request` threshold. -/
def humanRequestTarget (threshold : ℚ) : Target :=
  ⟨wantsHumanBase, .recallAt (.yes true) threshold, 90 / 100⟩

/-- The target of the `fraud` threshold. -/
def fraudTarget (threshold : ℚ) : Target := ⟨fraudBase, .recallAt (.yes true) threshold, 85 / 100⟩

/-- The targets that validate a language. -/
def targets (thresholds : Thresholds) : List Target :=
  [⟨"seller_receipt", .precisionAt (.option "says_received") thresholds.guide, 98 / 100⟩,
    ⟨"buyer_payment", .precisionAt (.option "says_not_sent") thresholds.guide, 98 / 100⟩] ++
  factTargets thresholds.fact ++
  [humanRequestTarget thresholds.humanRequest, fraudTarget thresholds.fraud,
    ⟨"<party>_language", .accuracy, 95 / 100⟩, ⟨"<party>_message_kind", .accuracy, 85 / 100⟩]

/-- Whether both payment questions meet the accuracy and coverage targets. -/
def meetsFact (items : List Scored) (threshold : ℚ) : Bool :=
  paymentBases.all fun base =>
    onTarget (95 / 100) (accuracyAbove items base threshold) &&
      onTarget (70 / 100) (coverage items base threshold)

/-- The lowest swept `fact` value at which both payment questions meet their targets. -/
def recommendedFact (items : List Scored) : Option ℚ := sweepValues.find? (meetsFact items)

/-- The `human_request` value recommended from a run. -/
def recommendedHumanRequest (items : List Scored) : Option ℚ :=
  recommendedThreshold items wantsHumanBase (.yes true) .recall (90 / 100)

/-- The `fraud` value recommended from a run. -/
def recommendedFraud (items : List Scored) : Option ℚ :=
  recommendedThreshold items fraudBase (.yes true) .recall (85 / 100)

section targets

variable {items : List Scored}

/-- The targets of `fact` are met together. -/
theorem meetsFact_iff {threshold : ℚ} :
    meetsFact items threshold = true ↔ ∀ row ∈ factTargets threshold, row.met items = true := by
  simp [meetsFact, factTargets, paymentBases, Target.met, Target.measure, and_assoc]

/-- A rate on target stays so with no fewer hits. -/
theorem onTarget_rate_mono {target : ℚ} {hits more total : Nat} (hle : hits ≤ more)
    (h : onTarget target (rate hits total) = true) : onTarget target (rate more total) = true := by
  unfold rate at h ⊢
  by_cases hpos : 0 < total
  · rw [if_pos hpos] at h ⊢
    have htarget : target ≤ (hits : ℚ) / total := of_decide_eq_true h
    have hmore : (hits : ℚ) ≤ more := by exact_mod_cast hle
    exact decide_eq_true (htarget.trans (div_le_div_of_nonneg_right hmore (Nat.cast_nonneg total)))
  · rw [if_neg hpos] at h
    cases h

/-- Recall falls as the threshold rises. -/
theorem onTarget_recallAt_mono {base : String} {positive : Label} {target lower threshold : ℚ}
    (hle : lower ≤ threshold)
    (h : onTarget target (recallAt items base positive threshold) = true) :
    onTarget target (recallAt items base positive lower) = true := by
  refine onTarget_rate_mono (List.countP_mono_left fun item _ hreaches => ?_) h
  exact decide_eq_true (hle.trans (of_decide_eq_true hreaches))

/-- The last entry of an ordered list that passes a test is the greatest that does. -/
theorem getLast?_filter_eq_some {entries : List ℚ} {p : ℚ → Bool}
    (hordered : entries.Pairwise (· < ·)) {entry : ℚ}
    (h : (entries.filter p).getLast? = some entry) :
    entry ∈ entries ∧ p entry = true ∧ ∀ higher ∈ entries, p higher = true → higher ≤ entry := by
  have hmem := List.mem_filter.mp (List.mem_of_getLast? h)
  refine ⟨hmem.1, hmem.2, fun higher hhigher hp => ?_⟩
  obtain ⟨before, hsplit⟩ := List.getLast?_eq_some_iff.mp h
  have hin : higher ∈ before ++ [entry] := hsplit ▸ List.mem_filter.mpr ⟨hhigher, hp⟩
  have hsorted : (before ++ [entry]).Pairwise (· < ·) := hsplit ▸ hordered.filter p
  rcases List.mem_append.mp hin with hbefore | hlast
  · exact ((List.pairwise_append.mp hsorted).2.2 higher hbefore entry List.mem_cons_self).le
  · rw [List.mem_singleton.mp hlast]

/-- What is recommended for a recall is where the swept values that keep it end. -/
theorem recallAt_recommended {base : String} {positive : Label} {target threshold : ℚ}
    (h : recommendedThreshold items base positive .recall target = some threshold) :
    threshold ∈ sweepValues ∧ ∀ value ∈ sweepValues,
      (onTarget target (recallAt items base positive value) = true ↔ value ≤ threshold) := by
  obtain ⟨hmem, hmeets, hgreatest⟩ := getLast?_filter_eq_some pairwise_sweepValues h
  refine ⟨hmem, fun value hvalue => ⟨fun hon => hgreatest value hvalue hon, fun hle => ?_⟩⟩
  exact onTarget_recallAt_mono hle hmeets

/-- **Recommended thresholds meet their targets.** With `fact`, `human_request` and `fraud` as a run
recommends them, their targets are met on that run. No lower swept `fact` would meet its targets,
and `human_request` and `fraud` are met at the swept values up to the recommended ones and at no
others. -/
theorem recommended_targets_met {thresholds : Thresholds}
    (hfact : recommendedFact items = some thresholds.fact)
    (hhuman : recommendedHumanRequest items = some thresholds.humanRequest)
    (hfraud : recommendedFraud items = some thresholds.fraud) :
    (∀ row ∈ targets thresholds,
      row.metric ∈ [.accuracyAbove thresholds.fact, .coverage thresholds.fact,
          .recallAt (.yes true) thresholds.humanRequest, .recallAt (.yes true) thresholds.fraud] →
        row.met items = true) ∧
    (∀ value ∈ sweepValues, (∀ row ∈ factTargets value, row.met items = true) →
      thresholds.fact ≤ value) ∧
    (∀ value ∈ sweepValues,
      ((humanRequestTarget value).met items = true ↔ value ≤ thresholds.humanRequest)) ∧
    ∀ value ∈ sweepValues, ((fraudTarget value).met items = true ↔ value ≤ thresholds.fraud) := by
  obtain ⟨hswept, hmeets, hleast⟩ := (find?_eq_some_iff_least pairwise_sweepValues).mp hfact
  obtain ⟨hhumanSwept, hhumanMet⟩ := recallAt_recommended hhuman
  obtain ⟨hfraudSwept, hfraudMet⟩ := recallAt_recommended hfraud
  refine ⟨fun row hrow hmetric => ?_, fun value hvalue hrows => ?_, hhumanMet, hfraudMet⟩
  · simp only [targets, List.mem_append, List.mem_cons, List.not_mem_nil, or_false] at hrow
    rcases hrow with ((rfl | rfl) | hrow) | rfl | rfl | rfl | rfl
    · simp at hmetric
    · simp at hmetric
    · exact meetsFact_iff.mp hmeets row hrow
    · exact (hhumanMet _ hhumanSwept).mpr le_rfl
    · exact (hfraudMet _ hfraudSwept).mpr le_rfl
    · simp at hmetric
    · simp at hmetric
  · by_contra hlt
    exact hleast value hvalue (not_le.mp hlt) (meetsFact_iff.mpr hrows)

/-- Four items, each labelled as the judge picked. -/
def rightItems : List Scored :=
  [⟨"buyer_payment", .option "says_sent", picks "says_sent" (9 / 10)⟩,
    ⟨"seller_receipt", .option "says_received", picks "says_received" (9 / 10)⟩,
    ⟨wantsHumanBase, .yes true, .noul (9 / 10)⟩, ⟨fraudBase, .yes true, .noul (8 / 10)⟩]

/-- The thresholds recommended from them. -/
def rightThresholds : Thresholds :=
  { guide := 8 / 10
    fact := 5 / 10
    humanRequest := 9 / 10
    fraud := 8 / 10
    conflict := 9 / 10
    outsideScope := 9 / 10
    validatedLanguages := [] }

/-- The four items meet the targets at the thresholds recommended from them. -/
theorem recommended_targets_met_right :
    (∀ row ∈ targets rightThresholds,
      row.metric ∈ [.accuracyAbove rightThresholds.fact, .coverage rightThresholds.fact,
          .recallAt (.yes true) rightThresholds.humanRequest,
          .recallAt (.yes true) rightThresholds.fraud] →
        row.met rightItems = true) ∧
    (∀ value ∈ sweepValues, (∀ row ∈ factTargets value, row.met rightItems = true) →
      rightThresholds.fact ≤ value) ∧
    (∀ value ∈ sweepValues,
      ((humanRequestTarget value).met rightItems = true ↔ value ≤ rightThresholds.humanRequest)) ∧
    ∀ value ∈ sweepValues,
      ((fraudTarget value).met rightItems = true ↔ value ≤ rightThresholds.fraud) :=
  recommended_targets_met (by decide +kernel) (by decide +kernel) (by decide +kernel)

end targets

/-! ## Expected calibration error -/

/-- Bins for the expected calibration error. -/
def eceBins : Nat := 10

/-- The confidence that counts. -/
def Scored.clamped (item : Scored) : ℚ := max 0 (min 1 item.confidence)

/-- The bin of an item. -/
def Scored.bin (item : Scored) : Nat := min ⌊item.clamped * eceBins⌋₊ (eceBins - 1)

/-- What one bin adds up to. -/
structure EceBin where
  count : Nat
  confidence : ℚ
  correct : Nat
  deriving DecidableEq, Repr

def EceBin.add (bin : EceBin) (item : Scored) : EceBin :=
  ⟨bin.count + 1, bin.confidence + item.clamped, bin.correct + if item.correct then 1 else 0⟩

/-- The size-weighted gap between a bin's confidence and its accuracy. -/
def EceBin.gap (total : ℚ) (bin : EceBin) : ℚ :=
  bin.count / total * |bin.correct / bin.count - bin.confidence / bin.count|

/-- Expected calibration error over every item. -/
def ece (items : List Scored) : Option ℚ :=
  if items.isEmpty then none
  else
    let bins := Bins.fill Scored.bin EceBin.add (List.replicate eceBins ⟨0, 0, 0⟩) items
    some (((bins.filter fun bin => 0 < bin.count).map (EceBin.gap items.length)).sum)

/-- How far an item's confidence is below its correctness. -/
def Scored.excess (item : Scored) : ℚ := (if item.correct then 1 else 0) - item.clamped

section ece

variable {items : List Scored}

/-- A clamped confidence is a probability. -/
theorem Scored.clamped_mem (item : Scored) : 0 ≤ item.clamped ∧ item.clamped ≤ 1 :=
  ⟨le_max_left _ _, max_le zero_le_one (min_le_left _ _)⟩

/-- So its bin is one of them. -/
theorem Scored.bin_lt (item : Scored) : item.bin < eceBins :=
  lt_of_le_of_lt (min_le_right _ _) (by decide)

/-- No item is off by more than one. -/
theorem Scored.abs_excess_le (item : Scored) : |item.excess| ≤ 1 := by
  obtain ⟨hnonneg, hle⟩ := item.clamped_mem
  unfold excess
  rw [abs_le]
  split <;> constructor <;> linarith

/-- What the items of a bin add to it. -/
theorem foldl_add (entries : List Scored) (start : EceBin) :
    entries.foldl EceBin.add start =
      ⟨start.count + entries.length, start.confidence + (entries.map Scored.clamped).sum,
        start.correct + entries.countP Scored.correct⟩ := by
  induction entries generalizing start with
  | nil => simp
  | cons entry rest ih =>
    rw [List.foldl_cons, ih, EceBin.add, List.length_cons, List.map_cons, List.sum_cons,
      List.countP_cons]
    simp only [EceBin.mk.injEq]
    refine ⟨by omega, by ring, by omega⟩

/-- Right items less confidence, summed up. -/
theorem sum_excess (entries : List Scored) :
    (entries.map Scored.excess).sum =
      entries.countP Scored.correct - (entries.map Scored.clamped).sum := by
  induction entries with
  | nil => simp
  | cons entry rest ih =>
    rw [List.map_cons, List.sum_cons, List.map_cons, List.sum_cons, List.countP_cons, ih,
      Scored.excess]
    split <;> push_cast <;> ring

/-- The gap of a bin with items. -/
theorem gap_foldl {entries : List Scored} {total : ℚ} (htotal : 0 < total) (hne : entries ≠ []) :
    (entries.foldl EceBin.add ⟨0, 0, 0⟩).gap total = |(entries.map Scored.excess).sum| / total := by
  have hpos : (0 : ℚ) < entries.length := by exact_mod_cast List.length_pos_iff.mpr hne
  rw [foldl_add, EceBin.gap, sum_excess]
  simp only [zero_add]
  rw [← sub_div, abs_div, abs_of_pos hpos]
  field_simp

/-- **The error, bin by bin**: what the items of each bin are off by together. -/
theorem ece_eq (hne : items ≠ []) :
    ece items = some ((∑ index ∈ Finset.range eceBins,
      |((Bins.inBin Scored.bin items index).map Scored.excess).sum|) / items.length) := by
  have htotal : (0 : ℚ) < items.length := by exact_mod_cast List.length_pos_iff.mpr hne
  rw [ece, if_neg (by simpa using hne), Bins.fill_replicate]
  simp only [Option.some.injEq]
  rw [Finset.sum_div]
  change _ = ((List.range eceBins).map fun index =>
    |((Bins.inBin Scored.bin items index).map Scored.excess).sum| / (items.length : ℚ)).sum
  induction List.range eceBins with
  | nil => rfl
  | cons index rest ih =>
    rw [List.map_cons, List.map_cons, List.sum_cons, ← ih]
    by_cases hempty : Bins.inBin Scored.bin items index = []
    · rw [hempty]
      simp
    · have hcount : 0 < ((Bins.inBin Scored.bin items index).foldl EceBin.add ⟨0, 0, 0⟩).count := by
        rw [foldl_add, Nat.zero_add]
        exact List.length_pos_iff.mpr hempty
      rw [List.filter_cons, if_pos (decide_eq_true hcount), List.map_cons, List.sum_cons,
        gap_foldl htotal hempty]

/-- **The expected calibration error.** It is defined unless there are no items, and does not depend
on their order. It lies between how far the whole run's accuracy is from its mean confidence and how
far a single item's is on average, so it is at most 1; and it is 0 exactly when every bin is
calibrated. -/
theorem ece_bounds (items : List Scored) :
    (ece items = none ↔ items = []) ∧ (∀ other : List Scored, other.Perm items → ece other = ece items) ∧
    ∀ error, ece items = some error →
      |(items.countP Scored.correct - (items.map Scored.clamped).sum) / items.length| ≤ error ∧
      error ≤ ((items.map fun item => |item.excess|).sum) / items.length ∧ error ≤ 1 ∧
      (error = 0 ↔ ∀ index < eceBins,
        ((Bins.inBin Scored.bin items index).countP Scored.correct : ℚ) =
          ((Bins.inBin Scored.bin items index).map Scored.clamped).sum) := by
  refine ⟨?_, fun other hperm => ?_, fun error herror => ?_⟩
  · by_cases hne : items = []
    · simp [hne, ece]
    · simp [ece_eq hne, hne]
  · by_cases hne : items = []
    · rw [hne] at hperm ⊢
      rw [hperm.eq_nil]
    · have hother : other ≠ [] := fun heq => hne (heq ▸ hperm).symm.eq_nil
      rw [ece_eq hne, ece_eq hother, hperm.length_eq]
      congr 2
      apply Finset.sum_congr rfl
      -- A bin of the permuted list is a permutation of the bin.
      intro index _
      have hbin : (Bins.inBin Scored.bin other index).Perm (Bins.inBin Scored.bin items index) :=
        hperm.filter _
      rw [(hbin.map Scored.excess).sum_eq]
  · have hne : items ≠ [] := by
      rintro rfl
      cases herror
    have htotal : (0 : ℚ) < items.length := by exact_mod_cast List.length_pos_iff.mpr hne
    rw [ece_eq hne, Option.some.injEq] at herror
    -- The sum over all lies between what the bins give together and what each item gives.
    obtain ⟨hlow, hhigh⟩ := Bins.abs_sum_le_bins Scored.excess
      (fun item (_ : item ∈ items) => item.bin_lt)
    rw [← herror]
    refine ⟨?_, ?_, ?_, ?_⟩
    · rw [← sum_excess, abs_div, abs_of_pos htotal]
      gcongr
    · gcongr
    · rw [div_le_one htotal]
      refine hhigh.trans ?_
      have hcard := List.sum_le_card_nsmul (items.map fun item => |item.excess|) 1 (by
        intro value hvalue
        obtain ⟨item, -, rfl⟩ := List.mem_map.mp hvalue
        exact item.abs_excess_le)
      rwa [List.length_map, nsmul_eq_mul, mul_one] at hcard
    · rw [div_eq_zero_iff, or_iff_left htotal.ne', Finset.sum_eq_zero_iff_of_nonneg
        fun index _ => abs_nonneg _]
      simp only [Finset.mem_range, abs_eq_zero, sum_excess, sub_eq_zero]

end ece

end Serbero
