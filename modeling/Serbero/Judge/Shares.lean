import Serbero.Judge.Answer
import Serbero.Lib.Weights

/-! # What is made of a distribution

An accepted distribution need not sum to 1 exactly. Shares, the value of a score and the confidence
are each taken of the total, which is positive, so none of them depends on the scale of the
probabilities and no clamp is ever needed. -/

namespace Serbero

/-! ## Accepted distributions -/

/-- An accepted list of probabilities: nonnegative, with a positive total. -/
structure Accepted (probabilities : List ℚ) : Prop where
  nonneg : ∀ p ∈ probabilities, 0 ≤ p
  total : 0 < probabilities.sum

/-- What the check of a distribution went through. -/
theorem unit_of_checkDistributionFrom {sum : ℚ} {probabilities : List ℚ}
    (h : checkDistributionFrom sum probabilities = .ok ()) :
    (∀ p ∈ probabilities, 0 ≤ p ∧ p ≤ 1) ∧ |sum + probabilities.sum - 1| ≤ sumTolerance := by
  induction probabilities generalizing sum with
  | nil =>
    rw [checkDistributionFrom] at h
    split at h
    · cases h
    · next hclose =>
      refine ⟨fun p hp => absurd hp List.not_mem_nil, ?_⟩
      rw [List.sum_nil, add_zero]
      exact not_lt.mp hclose
  | cons first rest ih =>
    rw [checkDistributionFrom, checkUnit] at h
    split at h
    · cases h
    · next hunit =>
      split at hunit
      · next hfirst =>
        obtain ⟨hrest, hclose⟩ := ih h
        refine ⟨fun p hp => ?_, ?_⟩
        · rcases List.mem_cons.mp hp with rfl | hold
          · exact hfirst
          · exact hrest p hold
        · rw [List.sum_cons, ← add_assoc]
          exact hclose
      · cases hunit

/-- The check accepts what the laws below assume. -/
theorem accepted_of_checkDistribution {probabilities : List ℚ}
    (h : checkDistribution probabilities = .ok ()) : Accepted probabilities := by
  obtain ⟨hunit, hclose⟩ := unit_of_checkDistributionFrom h
  refine ⟨fun p hp => (hunit p hp).1, ?_⟩
  rw [zero_add] at hclose
  have hlow := (abs_le.mp hclose).1
  unfold sumTolerance at hlow
  linarith

/-- An answer that fits a choice has an accepted distribution. -/
theorem Answer.accepted_of_choice {probabilities : Std.TreeMap String ℚ} {options : List String}
    (h : (Answer.choice probabilities).check (.choice options) = .ok ()) :
    Accepted probabilities.values := by
  simp only [Answer.check] at h
  split at h
  · cases h
  · exact accepted_of_checkDistribution h

/-- An answer that fits a score has an accepted distribution. -/
theorem Answer.accepted_of_score {probabilities : List ℚ} {levels : List String}
    (h : (Answer.score probabilities).check (.score levels) = .ok ()) :
    Accepted probabilities := by
  simp only [Answer.check] at h
  split at h
  · cases h
  · exact accepted_of_checkDistribution h

namespace Accepted

variable {probabilities : List ℚ}

/-- What sums to about one has an entry. -/
theorem ne_nil (h : Accepted probabilities) : probabilities ≠ [] := by
  rintro rfl
  exact lt_irrefl (0 : ℚ) h.total

/-- So its length divides. -/
theorem length_pos (h : Accepted probabilities) : 1 ≤ probabilities.length :=
  List.length_pos_iff.mpr h.ne_nil

/-! ## Confidence -/

/-- With one option or level there is nothing to be unsure about. -/
theorem concentration_one (hone : probabilities.length < 2) : concentration probabilities = 1 := by
  simp only [concentration, if_pos hone]

/-- With more the clamp does nothing. -/
theorem concentration_eq (h : Accepted probabilities) (hmany : 2 ≤ probabilities.length) :
    concentration probabilities = Weights.concentration probabilities := by
  have hlow := Weights.concentration_nonneg h.total hmany
  have hhigh := Weights.concentration_le_one h.nonneg h.total hmany
  have hraw : concentration probabilities =
      max 0 (min 1 (Weights.concentration probabilities)) := by
    simp only [concentration, if_neg (not_lt.mpr hmany), if_neg (not_le.mpr h.total)]
    rfl
  rw [hraw, min_eq_right hhigh, max_eq_right hlow]

/-- The concentration is a probability. -/
theorem concentration_mem (h : Accepted probabilities) :
    0 ≤ concentration probabilities ∧ concentration probabilities ≤ 1 := by
  rcases Nat.lt_or_ge probabilities.length 2 with hone | hmany
  · rw [concentration_one hone]
    exact ⟨zero_le_one, le_rfl⟩
  · rw [h.concentration_eq hmany]
    exact ⟨Weights.concentration_nonneg h.total hmany,
      Weights.concentration_le_one h.nonneg h.total hmany⟩

/-- Full confidence: one probability is the whole total. -/
theorem concentration_eq_one_iff (h : Accepted probabilities) :
    concentration probabilities = 1 ↔ ∃ p ∈ probabilities, p / probabilities.sum = 1 := by
  have hwhole : ∀ p : ℚ, p / probabilities.sum = 1 ↔ p = probabilities.sum :=
    fun p => div_eq_one_iff_eq h.total.ne'
  simp only [hwhole]
  rcases Nat.lt_or_ge probabilities.length 2 with hone | hmany
  · have hlength : probabilities.length = 1 := by
      have := h.length_pos
      omega
    obtain ⟨p, rfl⟩ := List.length_eq_one_iff.mp hlength
    refine ⟨fun _ => ⟨p, List.mem_singleton_self p, ?_⟩, fun _ => concentration_one hone⟩
    rw [List.sum_singleton]
  · rw [h.concentration_eq hmany]
    exact Weights.concentration_eq_one_iff h.nonneg h.total hmany

/-- No confidence: two or more options or levels, all alike. -/
theorem concentration_eq_zero_iff (h : Accepted probabilities) :
    concentration probabilities = 0 ↔
      2 ≤ probabilities.length ∧ ∀ a ∈ probabilities, ∀ b ∈ probabilities, a = b := by
  rcases Nat.lt_or_ge probabilities.length 2 with hone | hmany
  · rw [concentration_one hone]
    constructor
    · intro heq
      exact absurd heq one_ne_zero
    · rintro ⟨hmany, -⟩
      omega
  · rw [h.concentration_eq hmany, Weights.concentration_eq_zero_iff h.total hmany]
    exact ⟨fun hflat => ⟨hmany, hflat⟩, fun hboth => hboth.2⟩

/-- Scaling every probability leaves the concentration. -/
theorem concentration_map_mul {factor : ℚ} (hfactor : 0 < factor) (h : Accepted probabilities)
    (h' : Accepted (probabilities.map (factor * ·))) :
    concentration (probabilities.map (factor * ·)) = concentration probabilities := by
  rcases Nat.lt_or_ge probabilities.length 2 with hone | hmany
  · rw [concentration_one hone, concentration_one (by rwa [List.length_map])]
  · rw [h.concentration_eq hmany, h'.concentration_eq (by rwa [List.length_map]),
      Weights.concentration_map_mul hfactor]

end Accepted

/-! ## Choices -/

/-- The values of a map, in the order of its keys. -/
theorem values_eq_map (probabilities : Std.TreeMap String ℚ) :
    probabilities.values = probabilities.toList.map Prod.snd := by
  have hfold : probabilities.values = probabilities.foldr (fun _ p l => p :: l) [] := rfl
  rw [hfold, Std.TreeMap.foldr_eq_foldr_toList]
  induction probabilities.toList with
  | nil => rfl
  | cons entry rest ih =>
    rw [List.foldr_cons, ih]
    rfl

namespace Answer

variable {probabilities : Std.TreeMap String ℚ}

/-- The total of a choice. -/
def total (probabilities : Std.TreeMap String ℚ) : ℚ := probabilities.values.sum

/-- A probability that is read is one of the values. -/
theorem mem_values {option : String} {p : ℚ} (h : probabilities[option]? = some p) :
    p ∈ probabilities.values := by
  rw [values_eq_map]
  exact List.mem_map_of_mem (f := Prod.snd) (Std.TreeMap.mem_toList_iff_getElem?_eq_some.mpr h)

/-- The share of an option is its part of the total. -/
theorem share_eq (h : Accepted probabilities.values) (option : String) :
    (Answer.choice probabilities).share option =
      (Answer.choice probabilities).probability option / total probabilities := by
  simp only [share, if_neg (not_le.mpr h.total)]
  rfl

/-- An entry's share. -/
theorem share_of_mem (h : Accepted probabilities.values) {entry : String × ℚ}
    (hentry : entry ∈ probabilities.toList) :
    (Answer.choice probabilities).share entry.1 = entry.2 / total probabilities := by
  have hp : probabilities[entry.1]? = some entry.2 :=
    Std.TreeMap.mem_toList_iff_getElem?_eq_some.mp hentry
  rw [share_eq h, probability, hp, Option.getD_some]

/-- A share is a probability. -/
theorem share_mem (h : Accepted probabilities.values) (option : String) :
    0 ≤ (Answer.choice probabilities).share option ∧
      (Answer.choice probabilities).share option ≤ 1 := by
  rw [share_eq h, probability]
  cases hp : probabilities[option]? with
  | none =>
    rw [Option.getD_none, zero_div]
    exact ⟨le_rfl, zero_le_one⟩
  | some p =>
    have hmem := mem_values hp
    rw [Option.getD_some]
    exact ⟨div_nonneg (h.nonneg p hmem) h.total.le,
      (div_le_one h.total).mpr (Weights.le_total h.nonneg hmem)⟩

/-- The shares of the options, in their order. -/
theorem map_share (h : Accepted probabilities.values) :
    probabilities.keys.map (Answer.choice probabilities).share =
      probabilities.values.map (· / total probabilities) := by
  rw [← Std.TreeMap.map_fst_toList_eq_keys, values_eq_map, List.map_map, List.map_map]
  exact List.map_congr_left fun entry hentry => share_of_mem h hentry

/-- The shares of all options make up the whole. -/
theorem sum_share (h : Accepted probabilities.values) :
    (probabilities.keys.map (Answer.choice probabilities).share).sum = 1 := by
  rw [map_share h]
  exact Weights.sum_shares h.total

/-- What is not an option has no share. -/
theorem mem_keys_of_share (h : Accepted probabilities.values) {option : String}
    (hshare : (Answer.choice probabilities).share option ≠ 0) : option ∈ probabilities.keys := by
  rw [Std.TreeMap.mem_keys, Std.TreeMap.mem_iff_isSome_getElem?]
  by_contra hnone
  rw [Option.not_isSome_iff_eq_none] at hnone
  refine hshare ?_
  rw [share_eq h, probability, hnone, Option.getD_none, zero_div]

/-- With a threshold above one half at most one option reaches it. -/
theorem eq_of_share (h : Accepted probabilities.values) {threshold : ℚ} (hhalf : 1 / 2 < threshold)
    {a b : String} (ha : threshold ≤ (Answer.choice probabilities).share a)
    (hb : threshold ≤ (Answer.choice probabilities).share b) : a = b := by
  by_contra hne
  have reached : ∀ option, threshold ≤ (Answer.choice probabilities).share option →
      option ∈ probabilities.keys := by
    intro option hreached
    refine mem_keys_of_share h fun hzero => ?_
    linarith
  have hsum := Weights.add_le_sum_map (fun option _ => (share_mem h option).1)
    (reached a ha) (reached b hb) hne
  rw [sum_share h] at hsum
  linarith

/-! ## The winner -/

/-- The best entry of a list: none is better, and those before it are worse. -/
def Best (entries : List (String × ℚ)) (best : String × ℚ) : Prop :=
  ∃ before after, entries = before ++ best :: after ∧ (∀ entry ∈ before, entry.2 < best.2) ∧
    ∀ entry ∈ after, entry.2 ≤ best.2

/-- One step of the walk: an entry replaces the best one so far if it is better. -/
def better (best : Option (String × ℚ)) (entry : String × ℚ) : Option (String × ℚ) :=
  match best with
  | none => some entry
  | some (_, top) => if top < entry.2 then some entry else best

/-- The best entry after one more: the walk keeps the first of those that tie. -/
theorem Best.concat {entries : List (String × ℚ)} {best : String × ℚ} (h : Best entries best)
    (entry : String × ℚ) :
    ∃ next, better (some best) entry = some next ∧ Best (entries ++ [entry]) next := by
  obtain ⟨before, after, rfl, hbefore, hafter⟩ := h
  simp only [better]
  by_cases hworse : best.2 < entry.2
  · rw [if_pos hworse]
    refine ⟨entry, rfl, before ++ best :: after, [], rfl, fun found hfound => ?_,
      fun found hfound => absurd hfound List.not_mem_nil⟩
    rcases List.mem_append.mp hfound with hold | hrest
    · exact (hbefore found hold).trans hworse
    · rcases List.mem_cons.mp hrest with rfl | hlate
      · exact hworse
      · exact (hafter found hlate).trans_lt hworse
  · rw [if_neg hworse]
    refine ⟨best, rfl, before, after ++ [entry], by simp, hbefore, fun found hfound => ?_⟩
    rcases List.mem_append.mp hfound with hold | hnew
    · exact hafter found hold
    · rw [List.mem_singleton.mp hnew]
      exact not_lt.mp hworse

/-- The best entry after the rest of the walk, by induction on it. -/
theorem best_of_foldl {seen entries : List (String × ℚ)} {best : String × ℚ}
    (h : Best seen best) :
    ∃ next, entries.foldl better (some best) = some next ∧ Best (seen ++ entries) next := by
  induction entries generalizing seen best with
  | nil => exact ⟨best, rfl, by rwa [List.append_nil]⟩
  | cons entry rest ih =>
    obtain ⟨next, hnext, hbest⟩ := h.concat entry
    obtain ⟨last, hlast, hfinal⟩ := ih hbest
    refine ⟨last, ?_, ?_⟩
    · rw [List.foldl_cons, hnext]
      exact hlast
    · rw [List.append_cons]
      exact hfinal

/-- Some entry of a choice is its best one, and the winner is its name. -/
theorem winner_best (h : Accepted probabilities.values) :
    ∃ best, (Answer.choice probabilities).winner = some best.1 ∧
      Best probabilities.toList best := by
  have hwinner : (Answer.choice probabilities).winner =
      (probabilities.toList.foldl better none).map Prod.fst := rfl
  cases hlist : probabilities.toList with
  | nil =>
    have hnil := h.ne_nil
    rw [values_eq_map, hlist] at hnil
    exact absurd rfl hnil
  | cons first rest =>
    have hfirst : Best [first] first :=
      ⟨[], [], rfl, fun entry hentry => absurd hentry List.not_mem_nil,
        fun entry hentry => absurd hentry List.not_mem_nil⟩
    obtain ⟨best, hfold, hbest⟩ := best_of_foldl hfirst
    refine ⟨best, ?_, hbest⟩
    rw [hwinner, hlist, List.foldl_cons]
    exact congrArg (Option.map Prod.fst) hfold

/-- Names before the best one belong to worse entries, so the best one has the least name of those
as good. -/
theorem Best.least {entries : List (String × ℚ)} {best : String × ℚ} (h : Best entries best)
    (hordered : entries.Pairwise fun a b => compare a.1 b.1 = .lt) {entry : String × ℚ}
    (hentry : entry ∈ entries) :
    entry.2 ≤ best.2 ∧ (entry.2 = best.2 → best.1 ≤ entry.1) := by
  obtain ⟨before, after, rfl, hbefore, hafter⟩ := h
  rcases List.mem_append.mp hentry with hold | hrest
  · have hlt := hbefore entry hold
    exact ⟨hlt.le, fun heq => absurd heq hlt.ne⟩
  · rcases List.mem_cons.mp hrest with rfl | hlate
    · exact ⟨le_rfl, fun _ => String.le_refl _⟩
    · refine ⟨hafter entry hlate, fun _ => ?_⟩
      have hlt := (List.pairwise_cons.mp (List.pairwise_append.mp hordered).2.1).1 entry hlate
      exact Std.le_of_lt (compareOfLessAndEq_eq_lt.mp hlt)

/-! ## Scaled answers -/

/-- The answer with every weight multiplied. -/
def scale (factor : ℚ) : Answer → Answer
  | noul pYes => noul pYes
  | choice probabilities => choice (probabilities.map fun _ p => factor * p)
  | score probabilities => score (probabilities.map (factor * ·))

/-- Scaling a map scales its values in their order. -/
theorem values_map (factor : ℚ) (probabilities : Std.TreeMap String ℚ) :
    (probabilities.map fun _ p => factor * p).values = probabilities.values.map (factor * ·) := by
  rw [values_eq_map, values_eq_map, Std.TreeMap.toList_map, List.map_map, List.map_map]
  rfl

/-- Scaling every probability leaves the shares. -/
theorem share_scale {factor : ℚ} (hfactor : 0 < factor) (h : Accepted probabilities.values)
    (h' : Accepted (probabilities.map fun _ p => factor * p).values) (option : String) :
    (scale factor (.choice probabilities)).share option =
      (Answer.choice probabilities).share option := by
  have htotal : total (probabilities.map fun _ p => factor * p) = factor * total probabilities := by
    rw [total, values_map, List.sum_map_mul_left, List.map_id']
    rfl
  have hprobability : (scale factor (.choice probabilities)).probability option =
      factor * (Answer.choice probabilities).probability option := by
    simp only [scale, probability, Std.TreeMap.getElem?_map]
    cases probabilities[option]? with
    | none => simp
    | some p => rfl
  rw [scale, share_eq h', share_eq h, ← scale, hprobability, htotal,
    mul_div_mul_left _ _ hfactor.ne']

/-! ## The value of a score -/

/-- The level a score gives, out of the top level, before any clamp. -/
def meanLevel (probabilities : List ℚ) : ℚ :=
  (probabilities.zipIdx.map fun entry =>
    entry.1 * (entry.2 : ℚ) / ((probabilities.length - 1 : Nat) : ℚ)).sum / probabilities.sum

/-- The mean level is between the lowest and the highest. -/
theorem meanLevel_mem {probabilities : List ℚ} (h : Accepted probabilities) :
    0 ≤ meanLevel probabilities ∧ meanLevel probabilities ≤ 1 := by
  have hparts : ∀ entry ∈ probabilities.zipIdx,
      0 ≤ entry.1 * (entry.2 : ℚ) / ((probabilities.length - 1 : Nat) : ℚ) ∧
        entry.1 * (entry.2 : ℚ) / ((probabilities.length - 1 : Nat) : ℚ) ≤ entry.1 := by
    intro entry hentry
    have hlt := List.snd_lt_of_mem_zipIdx hentry
    have hnonneg := h.nonneg _ (List.fst_mem_of_mem_zipIdx hentry)
    have hlevel : (entry.2 : ℚ) ≤ ((probabilities.length - 1 : Nat) : ℚ) := by
      exact_mod_cast (by omega : entry.2 ≤ probabilities.length - 1)
    have htop : (0 : ℚ) ≤ ((probabilities.length - 1 : Nat) : ℚ) := Nat.cast_nonneg _
    refine ⟨div_nonneg (mul_nonneg hnonneg (Nat.cast_nonneg _)) htop, ?_⟩
    rw [mul_div_assoc]
    exact mul_le_of_le_one_right hnonneg (div_le_one_of_le₀ hlevel htop)
  obtain ⟨hlow, hhigh⟩ := Weights.sum_parts_mem hparts
  have hweights : (probabilities.zipIdx.map Prod.fst).sum = probabilities.sum := by
    rw [List.zipIdx_map_fst]
  rw [hweights] at hhigh
  exact ⟨div_nonneg hlow h.total.le, (div_le_one h.total).mpr hhigh⟩

/-- With two levels or more a score has its mean level as its value: the clamp does nothing. -/
theorem scoreValue_eq {probabilities : List ℚ} (h : Accepted probabilities)
    (hmany : 2 ≤ probabilities.length) :
    (Answer.score probabilities).scoreValue = some (meanLevel probabilities) := by
  obtain ⟨hlow, hhigh⟩ := meanLevel_mem h
  have htop : probabilities.length - 1 ≠ 0 := by omega
  simp only [scoreValue, if_neg htop, if_neg (not_le.mpr h.total)]
  refine congrArg some (?_ : max 0 (min 1 (meanLevel probabilities)) = meanLevel probabilities)
  rw [min_eq_right hhigh, max_eq_right hlow]

/-- Scaling every probability leaves the mean level. -/
theorem meanLevel_map_mul {factor : ℚ} (hfactor : 0 < factor) (probabilities : List ℚ) :
    meanLevel (probabilities.map (factor * ·)) = meanLevel probabilities := by
  have hentries : ((probabilities.map (factor * ·)).zipIdx.map fun entry =>
      entry.1 * (entry.2 : ℚ) / ((probabilities.length - 1 : Nat) : ℚ)) =
        (probabilities.zipIdx.map fun entry =>
          entry.1 * (entry.2 : ℚ) / ((probabilities.length - 1 : Nat) : ℚ)).map (factor * ·) := by
    rw [List.zipIdx_map, List.map_map, List.map_map]
    refine List.map_congr_left fun entry _ => ?_
    simp only [Function.comp_apply, Prod.map_fst, Prod.map_snd, id]
    rw [mul_assoc, mul_div_assoc]
  rw [meanLevel, List.length_map, hentries, List.sum_map_mul_left, List.sum_map_mul_left,
    List.map_id', List.map_id', mul_div_mul_left _ _ hfactor.ne', meanLevel]

end Answer

/-! ## The laws -/

/-- What is made of an accepted choice. -/
structure ChoiceLaw (probabilities : Std.TreeMap String ℚ) (options : List String) : Prop where
  /-- A share is divided by a positive total, and the guard against none is never used. -/
  total : 0 < probabilities.values.sum
  share : ∀ option, (Answer.choice probabilities).share option =
    (Answer.choice probabilities).probability option / probabilities.values.sum
  shares : ∀ option, 0 ≤ (Answer.choice probabilities).share option ∧
    (Answer.choice probabilities).share option ≤ 1
  sum : (probabilities.keys.map (Answer.choice probabilities).share).sum = 1
  /-- With two options or more the confidence is divided by a positive number too, and is not
  clamped. -/
  confidence : ∃ c, (Answer.choice probabilities).confidence = some c ∧ 0 ≤ c ∧ c ≤ 1 ∧
    (2 ≤ probabilities.keys.length → 0 < (probabilities.keys.length : ℚ) - 1 ∧
      c = Weights.concentration probabilities.values) ∧
    (c = 1 ↔ ∃ option ∈ probabilities.keys, (Answer.choice probabilities).share option = 1) ∧
    (c = 0 ↔ 2 ≤ probabilities.keys.length ∧ ∀ a ∈ probabilities.keys, ∀ b ∈ probabilities.keys,
      (Answer.choice probabilities).share a = (Answer.choice probabilities).share b)
  winner : ∃ best ∈ probabilities.keys, (Answer.choice probabilities).winner = some best ∧
    ∀ option ∈ probabilities.keys,
      (Answer.choice probabilities).share option ≤ (Answer.choice probabilities).share best ∧
        ((Answer.choice probabilities).share option = (Answer.choice probabilities).share best →
          best ≤ option)
  once : ∀ threshold : ℚ, 1 / 2 < threshold → ∀ a b,
    threshold ≤ (Answer.choice probabilities).share a →
      threshold ≤ (Answer.choice probabilities).share b → a = b
  scaled : ∀ factor : ℚ, 0 < factor →
    ((Answer.choice probabilities).scale factor).check (.choice options) = .ok () →
      (∀ option, ((Answer.choice probabilities).scale factor).share option =
        (Answer.choice probabilities).share option) ∧
      ((Answer.choice probabilities).scale factor).confidence =
        (Answer.choice probabilities).confidence

/-- What is made of an accepted score. -/
structure ScoreLaw (probabilities : List ℚ) (levels : List String) : Prop where
  /-- Both quotients of a score are by positive numbers. -/
  total : 0 < probabilities.sum
  /-- A single level has no value; with more the value is the mean level, and is not clamped. -/
  single : probabilities.length = 1 → (Answer.score probabilities).scoreValue = none
  value : 2 ≤ probabilities.length → 0 < ((probabilities.length - 1 : Nat) : ℚ) ∧
    (Answer.score probabilities).scoreValue = some (Answer.meanLevel probabilities) ∧
      0 ≤ Answer.meanLevel probabilities ∧ Answer.meanLevel probabilities ≤ 1
  confidence : ∃ c, (Answer.score probabilities).confidence = some c ∧ 0 ≤ c ∧ c ≤ 1 ∧
    (2 ≤ probabilities.length → 0 < (probabilities.length : ℚ) - 1 ∧
      c = Weights.concentration probabilities) ∧
    (c = 1 ↔ ∃ p ∈ probabilities, p / probabilities.sum = 1) ∧
    (c = 0 ↔ 2 ≤ probabilities.length ∧ ∀ a ∈ probabilities, ∀ b ∈ probabilities, a = b)
  scaled : ∀ factor : ℚ, 0 < factor →
    ((Answer.score probabilities).scale factor).check (.score levels) = .ok () →
      ((Answer.score probabilities).scale factor).scoreValue =
        (Answer.score probabilities).scoreValue ∧
      ((Answer.score probabilities).scale factor).confidence =
        (Answer.score probabilities).confidence

/-- An accepted choice obeys the laws. -/
theorem choiceLaw_of_check {probabilities : Std.TreeMap String ℚ} {options : List String}
    (hcheck : (Answer.choice probabilities).check (.choice options) = .ok ()) :
    ChoiceLaw probabilities options := by
  have h := Answer.accepted_of_choice hcheck
  have hlength : probabilities.keys.length = probabilities.values.length := by
    rw [values_eq_map, ← Std.TreeMap.map_fst_toList_eq_keys, List.length_map, List.length_map]
  -- A weight is an option's, and an option has a weight.
  have weight : ∀ option ∈ probabilities.keys, ∃ p ∈ probabilities.values,
      (Answer.choice probabilities).share option = p / probabilities.values.sum := by
    intro option hoption
    rw [← Std.TreeMap.map_fst_toList_eq_keys] at hoption
    obtain ⟨entry, hentry, rfl⟩ := List.mem_map.mp hoption
    refine ⟨entry.2, ?_, Answer.share_of_mem h hentry⟩
    rw [values_eq_map]
    exact List.mem_map_of_mem hentry
  have named : ∀ p ∈ probabilities.values, ∃ option ∈ probabilities.keys,
      (Answer.choice probabilities).share option = p / probabilities.values.sum := by
    intro p hp
    rw [values_eq_map] at hp
    obtain ⟨entry, hentry, rfl⟩ := List.mem_map.mp hp
    refine ⟨entry.1, ?_, Answer.share_of_mem h hentry⟩
    rw [← Std.TreeMap.map_fst_toList_eq_keys]
    exact List.mem_map_of_mem hentry
  refine
    { total := h.total
      share := Answer.share_eq h
      shares := Answer.share_mem h
      sum := Answer.sum_share h
      confidence := ?_
      winner := ?_
      once := fun threshold hhalf a b ha hb => Answer.eq_of_share h hhalf ha hb
      scaled := ?_ }
  · refine ⟨concentration probabilities.values, rfl, h.concentration_mem.1, h.concentration_mem.2,
      fun hmany => ?_, ?_, ?_⟩
    · rw [hlength] at hmany ⊢
      exact ⟨Weights.length_sub_one_pos hmany, h.concentration_eq hmany⟩
    · rw [h.concentration_eq_one_iff]
      constructor
      · rintro ⟨p, hp, hwhole⟩
        obtain ⟨option, hoption, hshare⟩ := named p hp
        exact ⟨option, hoption, hshare.trans hwhole⟩
      · rintro ⟨option, hoption, hwhole⟩
        obtain ⟨p, hp, hshare⟩ := weight option hoption
        exact ⟨p, hp, hshare ▸ hwhole⟩
    · rw [h.concentration_eq_zero_iff, hlength]
      refine and_congr_right fun _ => ⟨fun hflat a ha b hb => ?_, fun hflat a ha b hb => ?_⟩
      · obtain ⟨p, hp, hshare⟩ := weight a ha
        obtain ⟨q, hq, hshare'⟩ := weight b hb
        rw [hshare, hshare', hflat p hp q hq]
      · obtain ⟨option, hoption, hshare⟩ := named a ha
        obtain ⟨other, hother, hshare'⟩ := named b hb
        have heq := hflat option hoption other hother
        rw [hshare, hshare', div_left_inj' h.total.ne'] at heq
        exact heq
  · obtain ⟨best, hwinner, hbest⟩ := Answer.winner_best h
    have hmem : best ∈ probabilities.toList := by
      obtain ⟨before, after, hlist, -, -⟩ := hbest
      rw [hlist]
      exact List.mem_append_right before List.mem_cons_self
    refine ⟨best.1, ?_, hwinner, fun option hoption => ?_⟩
    · rw [← Std.TreeMap.map_fst_toList_eq_keys]
      exact List.mem_map_of_mem hmem
    rw [← Std.TreeMap.map_fst_toList_eq_keys] at hoption
    obtain ⟨entry, hentry, rfl⟩ := List.mem_map.mp hoption
    obtain ⟨hle, hleast⟩ := hbest.least Std.TreeMap.ordered_keys_toList hentry
    rw [Answer.share_of_mem h hentry, Answer.share_of_mem h hmem]
    refine ⟨div_le_div_of_nonneg_right hle h.total.le, fun heq => hleast ?_⟩
    exact (div_left_inj' h.total.ne').mp heq
  · intro factor hfactor hscaled
    have h' := Answer.accepted_of_choice hscaled
    refine ⟨Answer.share_scale hfactor h h', congrArg some ?_⟩
    rw [Answer.values_map] at h' ⊢
    exact h.concentration_map_mul hfactor h'

/-- An accepted score obeys the laws. -/
theorem scoreLaw_of_check {probabilities : List ℚ} {levels : List String}
    (hcheck : (Answer.score probabilities).check (.score levels) = .ok ()) :
    ScoreLaw probabilities levels := by
  have h := Answer.accepted_of_score hcheck
  have single : ∀ scores : List ℚ, scores.length = 1 → (Answer.score scores).scoreValue = none := by
    intro scores hone
    have htop : scores.length - 1 = 0 := by omega
    simp only [Answer.scoreValue, if_pos htop]
  refine
    { total := h.total
      single := single probabilities
      value := fun hmany => ⟨?_, Answer.scoreValue_eq h hmany, Answer.meanLevel_mem h⟩
      confidence := ?_
      scaled := ?_ }
  · exact_mod_cast (by omega : 0 < probabilities.length - 1)
  · exact ⟨concentration probabilities, rfl, h.concentration_mem.1, h.concentration_mem.2,
      fun hmany => ⟨Weights.length_sub_one_pos hmany, h.concentration_eq hmany⟩,
      h.concentration_eq_one_iff, h.concentration_eq_zero_iff⟩
  · intro factor hfactor hscaled
    have h' := Answer.accepted_of_score hscaled
    refine ⟨?_, congrArg some (h.concentration_map_mul hfactor h')⟩
    rw [Answer.scale]
    rcases Nat.lt_or_ge probabilities.length 2 with hone | hmany
    · have hlength : probabilities.length = 1 := by
        have := h.length_pos
        omega
      rw [single probabilities hlength, single _ (by rwa [List.length_map])]
    · rw [Answer.scoreValue_eq h hmany, Answer.scoreValue_eq h' (by rwa [List.length_map]),
        Answer.meanLevel_map_mul hfactor]

/-- **What is made of an accepted distribution.** -/
theorem accepted_distributions :
    (∀ (probabilities : Std.TreeMap String ℚ) (options : List String),
      (Answer.choice probabilities).check (.choice options) = .ok () →
        ChoiceLaw probabilities options) ∧
    ∀ (probabilities : List ℚ) (levels : List String),
      (Answer.score probabilities).check (.score levels) = .ok () → ScoreLaw probabilities levels :=
  ⟨fun _ _ hcheck => choiceLaw_of_check hcheck, fun _ _ hcheck => scoreLaw_of_check hcheck⟩

/-- A choice that sums to a little more than 1, and a score that sums to a little less. -/
theorem accepted_distributions_tolerated :
    ChoiceLaw (.ofList [("a", (1 / 2 : ℚ)), ("b", 101 / 200)]) ["b", "a"] ∧
      ScoreLaw [1 / 2, 0, 99 / 200] ["low", "middle", "high"] :=
  ⟨accepted_distributions.1 _ _ (by decide +kernel), accepted_distributions.2 _ _ (by decide +kernel)⟩

end Serbero
