import Mathlib.Algebra.Order.Field.Basic
import Mathlib.Tactic.Linarith
import Mathlib.Tactic.NormNum
import Serbero.Judge.Answer

/-! # Scoring a judge against labels

Precision and recall of one label of one question over scored items, the thresholds recommended
from a sweep, and the one `guide` value recommended for both self-resolution paths. Only what these
read of an item is kept. -/

namespace Serbero

/-- What a labelled question is labelled with. -/
inductive Label
  | option (name : String)
  | yes (value : Bool)
  deriving DecidableEq, Repr

/-- One labelled question of one case, with the judge's answer. -/
structure Scored where
  /-- The question id, with the party replaced by `<party>` for per-party questions. -/
  base : String
  label : Label
  answer : Answer

/-- The probability the judge gives to a label: an option's share, or that of yes or no. -/
def Scored.p (item : Scored) (label : Label) : ℚ :=
  match item.answer, label with
  | .noul pYes, .yes yes => if yes then pYes else 1 - pYes
  | answer, .option option => answer.share option
  | _, _ => 0

/-- The items of one question. -/
def scoredOf (items : List Scored) (base : String) : List Scored :=
  items.filter fun item => item.base == base

/-- A rate and how many items it is computed over; nothing without items. -/
def rate (hits total : Nat) : Option (ℚ × Nat) :=
  if 0 < total then some ((hits : ℚ) / total, total) else none

/-- Of the items where a label reaches the threshold, the share labelled so. -/
def precisionAt (items : List Scored) (base : String) (positive : Label) (threshold : ℚ) :
    Option (ℚ × Nat) :=
  let fired := (scoredOf items base).filter fun item => decide (threshold ≤ item.p positive)
  rate (fired.countP fun item => item.label == positive) fired.length

/-- Of the items labelled so, the share where the label reaches the threshold. -/
def recallAt (items : List Scored) (base : String) (positive : Label) (threshold : ℚ) :
    Option (ℚ × Nat) :=
  let labelled := (scoredOf items base).filter fun item => item.label == positive
  rate (labelled.countP fun item => decide (threshold ≤ item.p positive)) labelled.length

/-- Threshold values the sweep tries: 0.50 to 0.95 in steps of 0.05. -/
def sweepValues : List ℚ := (List.range' 10 10).map fun step => (step : ℚ) * (1 / 20)

/-- Which rate a threshold is chosen for. -/
inductive Goal
  | precision
  | recall
  deriving DecidableEq, Repr

/-- The rate a threshold is chosen for, at one threshold. -/
def Goal.measure (goal : Goal) (items : List Scored) (base : String) (positive : Label)
    (threshold : ℚ) : Option (ℚ × Nat) :=
  match goal with
  | .precision => precisionAt items base positive threshold
  | .recall => recallAt items base positive threshold

/-- Whether a rate is defined and on target. -/
def onTarget (target : ℚ) (measured : Option (ℚ × Nat)) : Bool :=
  measured.any fun rate => decide (target ≤ rate.1)

/-- The threshold recommended from the sweep: the lowest value that meets a precision target, the
highest that still meets a recall target; nothing when no swept value meets it. -/
def recommendedThreshold (items : List Scored) (base : String) (positive : Label) (goal : Goal)
    (target : ℚ) : Option ℚ :=
  let meets := fun threshold => onTarget target (goal.measure items base positive threshold)
  match goal with
  | .precision => sweepValues.find? meets
  | .recall => (sweepValues.filter meets).getLast?

/-- The precision both self-resolution paths must have. -/
def guideTarget : ℚ := 98 / 100

/-- The single `guide` value recommended for both self-resolution paths: the stricter of the two
cutoffs. -/
def recommendedGuide (items : List Scored) : Option ℚ :=
  (recommendedThreshold items "seller_receipt" (.option "says_received") .precision
      guideTarget).bind fun seller =>
    (recommendedThreshold items "buyer_payment" (.option "says_not_sent") .precision
      guideTarget).map fun buyer => max seller buyer

/-! ## One path -/

/-- A self-resolution path: the question and the label that enable it. -/
structure GuidePath where
  base : String
  positive : Label
  deriving DecidableEq, Repr

/-- The path on which the payment arrived. -/
def arrivedPath : GuidePath := ⟨"seller_receipt", .option "says_received"⟩

/-- The path on which the payment was not sent. -/
def notSentPath : GuidePath := ⟨"buyer_payment", .option "says_not_sent"⟩

namespace GuidePath

/-- Whether an item enables the path at a threshold. -/
def fires (path : GuidePath) (threshold : ℚ) (item : Scored) : Bool :=
  item.base == path.base && decide (threshold ≤ item.p path.positive)

/-- Whether a path meets its target at a threshold: some item enables it, and of a hundred that do
no more than two are labelled otherwise. -/
def Meets (path : GuidePath) (items : List Scored) (threshold : ℚ) : Prop :=
  0 < items.countP (path.fires threshold) ∧
    98 * items.countP (path.fires threshold) ≤
      100 * items.countP fun item => path.fires threshold item && item.label == path.positive

instance (path : GuidePath) (items : List Scored) (threshold : ℚ) :
    Decidable (path.Meets items threshold) := inferInstanceAs (Decidable (_ ∧ _))

/-- Whether the precision of a path's label at a threshold is defined and on target. -/
def Validated (path : GuidePath) (items : List Scored) (threshold : ℚ) : Prop :=
  ∃ value total, precisionAt items path.base path.positive threshold = some (value, total) ∧
    guideTarget ≤ value

variable {path : GuidePath} {items : List Scored} {threshold : ℚ}

/-- The precision of a path's label, in counts of items. -/
theorem precisionAt_eq :
    precisionAt items path.base path.positive threshold =
      rate (items.countP fun item => path.fires threshold item && item.label == path.positive)
        (items.countP (path.fires threshold)) := by
  simp only [precisionAt, scoredOf, List.filter_filter, List.countP_filter,
    ← List.countP_eq_length_filter]
  congr 1
  · apply List.countP_congr
    intro item _
    simp only [fires, Bool.and_eq_true, and_comm, and_left_comm]
  · apply List.countP_congr
    intro item _
    simp only [fires, Bool.and_eq_true, and_comm]

/-- On target means that enough of the items that enable the path are labelled so. -/
theorem validated_iff : path.Validated items threshold ↔ path.Meets items threshold := by
  rw [Validated, Meets, precisionAt_eq, rate]
  generalize items.countP (path.fires threshold) = fired
  generalize (items.countP fun item => path.fires threshold item && item.label == path.positive) =
    right
  by_cases hpos : 0 < fired
  · have hpos' : (0 : ℚ) < (fired : ℚ) := by exact_mod_cast hpos
    have hcount : guideTarget ≤ (right : ℚ) / fired ↔ 98 * fired ≤ 100 * right := by
      rw [le_div_iff₀ hpos', guideTarget, div_mul_eq_mul_div, div_le_iff₀ (by norm_num),
        mul_comm (right : ℚ)]
      exact_mod_cast Iff.rfl
    rw [if_pos hpos, and_iff_right hpos, ← hcount]
    constructor
    · rintro ⟨value, total, h, htarget⟩
      rw [Option.some.injEq, Prod.mk.injEq] at h
      rwa [h.1]
    · exact fun htarget => ⟨_, _, rfl, htarget⟩
  · rw [if_neg hpos]
    refine iff_of_false ?_ fun h => hpos h.1
    rintro ⟨value, total, h, -⟩
    cases h

/-- The recommendation for a path asks whether it meets its target. -/
theorem onTarget_precisionAt :
    onTarget guideTarget (precisionAt items path.base path.positive threshold) = true ↔
      path.Meets items threshold := by
  rw [← validated_iff, Validated, onTarget, Option.any_eq_true]
  simp only [decide_eq_true_eq, Prod.exists]

/-- A swept value is the first at which a path meets its target. -/
def First (path : GuidePath) (items : List Scored) (threshold : ℚ) : Prop :=
  threshold ∈ sweepValues ∧ path.Meets items threshold ∧
    ∀ lower ∈ sweepValues, lower < threshold → ¬path.Meets items lower

end GuidePath

/-- The first entry of an ordered list that passes a test is the least that does. -/
theorem find?_eq_some_iff_least {α : Type*} [LinearOrder α] {entries : List α} {p : α → Bool}
    (hordered : entries.Pairwise (· < ·)) {entry : α} :
    entries.find? p = some entry ↔
      entry ∈ entries ∧ p entry = true ∧ ∀ lower ∈ entries, lower < entry → p lower ≠ true := by
  rw [List.find?_eq_some_iff_append]
  constructor
  · rintro ⟨hp, before, after, rfl, hbefore⟩
    refine ⟨by simp, hp, fun lower hlower hlt => ?_⟩
    rw [List.pairwise_append, List.pairwise_cons] at hordered
    rcases List.mem_append.mp hlower with hmem | hmem
    · simpa using hbefore lower hmem
    · rcases List.mem_cons.mp hmem with rfl | hmem
      · exact absurd hlt (lt_irrefl _)
      · exact absurd hlt (hordered.2.1.1 lower hmem).asymm
  · rintro ⟨hmem, hp, hleast⟩
    obtain ⟨before, after, rfl⟩ := List.append_of_mem hmem
    refine ⟨hp, before, after, rfl, fun lower hlower => ?_⟩
    rw [List.pairwise_append] at hordered
    have hlt := hordered.2.2 lower hlower entry List.mem_cons_self
    simpa using hleast lower (List.mem_append_left _ hlower) hlt

/-- The sweep goes up. -/
theorem pairwise_sweepValues : sweepValues.Pairwise (· < ·) := by
  decide +kernel

/-- What is recommended for a path's precision is the first swept value that meets the target. -/
theorem GuidePath.recommendedThreshold_eq_some_iff {path : GuidePath} {items : List Scored}
    {threshold : ℚ} :
    recommendedThreshold items path.base path.positive .precision guideTarget = some threshold ↔
      path.First items threshold := by
  rw [recommendedThreshold, find?_eq_some_iff_least pairwise_sweepValues, GuidePath.First]
  simp only [Goal.measure, ne_eq, GuidePath.onTarget_precisionAt]

/-- A path that meets its target at some swept value has a first one, no higher. -/
theorem GuidePath.exists_first {path : GuidePath} {items : List Scored} {threshold : ℚ}
    (hmem : threshold ∈ sweepValues) (hmeets : path.Meets items threshold) :
    ∃ first, path.First items first ∧ first ≤ threshold := by
  cases hfound : recommendedThreshold items path.base path.positive .precision guideTarget with
  | none =>
    rw [recommendedThreshold, List.find?_eq_none] at hfound
    exact absurd (GuidePath.onTarget_precisionAt.mpr hmeets) (hfound threshold hmem)
  | some first =>
    have hfirst := GuidePath.recommendedThreshold_eq_some_iff.mp hfound
    exact ⟨first, hfirst, not_lt.mp fun hlt => hfirst.2.2 threshold hmem hlt hmeets⟩

/-! ## Both paths -/

/-- What is recommended as `guide` is the higher of the two first values. -/
theorem recommendedGuide_eq_some_iff {items : List Scored} {guide : ℚ} :
    recommendedGuide items = some guide ↔
      ∃ seller buyer, arrivedPath.First items seller ∧ notSentPath.First items buyer ∧
        max seller buyer = guide := by
  rw [recommendedGuide, Option.bind_eq_some_iff]
  refine exists_congr fun seller => ?_
  rw [← GuidePath.recommendedThreshold_eq_some_iff, Option.map_eq_some_iff]
  simp only [← GuidePath.recommendedThreshold_eq_some_iff, arrivedPath, notSentPath]
  constructor
  · rintro ⟨hseller, buyer, hbuyer, rfl⟩
    exact ⟨buyer, hseller, hbuyer, rfl⟩
  · rintro ⟨buyer, hseller, hbuyer, rfl⟩
    exact ⟨hseller, buyer, hbuyer, rfl⟩

/-- **The recommended guide meets its targets.** -/
def GuideMeetsTargets (items : List Scored) : Prop :=
  ∀ guide, recommendedGuide items = some guide →
    ∀ path ∈ [arrivedPath, notSentPath], path.Validated items guide

/-- No path loses its target again: where it meets it at a swept value below the first at which the
other path does, it still meets it there. -/
def Steady (items : List Scored) : Prop :=
  ∀ path ∈ [arrivedPath, notSentPath], ∀ other ∈ [arrivedPath, notSentPath],
    ∀ lower ∈ sweepValues, ∀ first, other.First items first → lower < first →
      path.Meets items lower → path.Meets items first

/-- **When the recommended guide meets its targets.** Exactly when neither path loses its target
between a swept value that meets it and the first that meets the other's. -/
theorem guide_meets_targets_iff (items : List Scored) :
    GuideMeetsTargets items ↔ Steady items := by
  constructor
  · intro h path hpath other hother lower hlower first hfirst hlt hmeets
    -- A path that meets its target at a cutoff has a first cutoff no later.
    by_cases heq : path = other
    · exact absurd hmeets (heq ▸ hfirst.2.2 lower hlower hlt)
    · obtain ⟨own, hown, hle⟩ := GuidePath.exists_first hlower hmeets
      have hmax := max_eq_right (hle.trans hlt.le)
      have hguide : recommendedGuide items = some first := by
        simp only [List.mem_cons, List.not_mem_nil, or_false] at hpath hother
        rcases hpath with rfl | rfl <;> rcases hother with rfl | rfl
        · exact absurd rfl heq
        · exact recommendedGuide_eq_some_iff.mpr ⟨own, first, hown, hfirst, hmax⟩
        · exact recommendedGuide_eq_some_iff.mpr ⟨first, own, hfirst, hown, by rwa [max_comm]⟩
        · exact absurd rfl heq
      exact GuidePath.validated_iff.mp (h first hguide path hpath)
  · intro h guide hguide path hpath
    obtain ⟨seller, buyer, hseller, hbuyer, rfl⟩ := recommendedGuide_eq_some_iff.mp hguide
    rw [GuidePath.validated_iff]
    simp only [List.mem_cons, List.not_mem_nil, or_false] at hpath
    -- The larger cutoff is one path's own; the other path is the one that must stay steady.
    rcases le_total seller buyer with hle | hle
    · rw [max_eq_right hle]
      rcases hpath with rfl | rfl
      · rcases hle.eq_or_lt with rfl | hlt
        · exact hseller.2.1
        · exact h arrivedPath (by simp) notSentPath (by simp) seller hseller.1 buyer hbuyer hlt
            hseller.2.1
      · exact hbuyer.2.1
    · rw [max_eq_left hle]
      rcases hpath with rfl | rfl
      · exact hseller.2.1
      · rcases hle.eq_or_lt with rfl | hlt
        · exact hbuyer.2.1
        · exact h notSentPath (by simp) arrivedPath (by simp) buyer hbuyer.1 seller hseller hlt
            hbuyer.2.1

/-- A choice between one label and the rest. -/
def picks (option : String) (share : ℚ) : Answer :=
  .choice (.ofList [(option, share), ("not_stated", 1 - share)])

/-- Forty-nine sellers who say they received, read with 0.60; one who did not, read with 0.97; and a
buyer's question that is right only from 0.95. -/
def confidentlyWrongItems : List Scored :=
  List.replicate 49
      ⟨"seller_receipt", .option "says_received", picks "says_received" (60 / 100)⟩ ++
    [⟨"seller_receipt", .option "not_stated", picks "says_received" (97 / 100)⟩,
      ⟨"buyer_payment", .option "says_not_sent", picks "says_not_sent" (96 / 100)⟩,
      ⟨"buyer_payment", .option "not_stated", picks "says_not_sent" (91 / 100)⟩]

/-- One confident wrong item above the buyer's cutoff: the recommended value enables the seller's
path on nothing but a wrong reading. -/
theorem guide_misses_target :
    recommendedGuide confidentlyWrongItems = some (95 / 100) ∧
      precisionAt confidentlyWrongItems "seller_receipt" (.option "says_received") (95 / 100) =
        some (0, 1) ∧
      ¬GuideMeetsTargets confidentlyWrongItems := by
  have hguide : recommendedGuide confidentlyWrongItems = some (95 / 100) := by decide +kernel
  refine ⟨hguide, by decide +kernel, fun h => ?_⟩
  have hmeets := GuidePath.validated_iff.mp (h _ hguide arrivedPath (by simp))
  exact absurd hmeets (by decide +kernel)

end Serbero
