import Mathlib.Data.List.MinMax
import Mathlib.Data.List.Sort

/-! # The last element of a list with a property

Three ways a program picks "the last one": the last element of a list for which a partial function
is defined, the element with the greatest key, and the last position. In a list sorted strictly by
a relation the first is the greatest element for that relation, and under distinct keys the second
does not depend on the order of the list. -/

namespace LastOf

variable {α : Type*} {β : Type*} {κ : Type*}

/-! ## The last value of a partial function -/

/-- The last value of a partial function over a list. -/
def lastSome (f : α → Option β) (l : List α) : Option β := (l.filterMap f).getLast?

/-- Nothing is last in an empty list. -/
@[simp] theorem lastSome_nil (f : α → Option β) : lastSome f [] = none := rfl

/-- Appending an element replaces the last value when the function is defined there. -/
theorem lastSome_append_singleton (f : α → Option β) (l : List α) (a : α) :
    lastSome f (l ++ [a]) = (f a).or (lastSome f l) := by
  cases h : f a with
  | none => simp [lastSome, h]
  | some b => simp [lastSome, h]

/-- There is a last value exactly when the function is defined somewhere. -/
theorem lastSome_isSome (f : α → Option β) (l : List α) :
    (lastSome f l).isSome ↔ ∃ a ∈ l, (f a).isSome := by
  rw [lastSome, List.getLast?_isSome, Ne, List.filterMap_eq_nil_iff]
  push Not
  simp only [Option.isSome_iff_ne_none]

/-- **The last value in a sorted list.** In a list sorted by `r`, the last value is the one taken
at the `r`-greatest element where the function is defined. -/
theorem lastSome_eq_some_iff {r : α → α → Prop} {f : α → Option β} {l : List α}
    (asymm : ∀ a ∈ l, ∀ b ∈ l, r a b → ¬ r b a) (sorted : l.Pairwise r) (b : β) :
    lastSome f l = some b ↔
      ∃ a ∈ l, f a = some b ∧ ∀ a' ∈ l, (f a').isSome → a' = a ∨ r a' a := by
  induction l using List.reverseRecOn with
  | nil => simp
  | append_singleton l x ih =>
    have below : ∀ a ∈ l, r a x := by
      intro a ha
      exact (List.pairwise_append.mp sorted).2.2 a ha x (by simp)
    have ih := ih (fun a ha b hb => asymm a (by simp [ha]) b (by simp [hb]))
      (List.pairwise_append.mp sorted).1
    rw [lastSome_append_singleton]
    cases hx : f x with
    -- The last entry has a value, and every other is below it.
    | some c =>
      rw [Option.some_or]
      constructor
      · intro h
        refine ⟨x, by simp, by rw [hx, h], ?_⟩
        intro a' ha' _
        rcases List.mem_append.mp ha' with ha' | ha'
        · exact Or.inr (below a' ha')
        · exact Or.inl (List.mem_singleton.mp ha')
      · rintro ⟨a, ha, hfa, top⟩
        rcases top x (by simp) (by simp [hx]) with rfl | hxa
        · rw [← hx, hfa]
        · rcases List.mem_append.mp ha with ha' | ha'
          · exact absurd (below a ha') (asymm x (by simp) a ha hxa)
          · rw [List.mem_singleton.mp ha', hx] at hfa
            exact hfa
    -- The last entry has none, so it neither counts nor competes.
    | none =>
      rw [Option.none_or, ih]
      constructor
      · rintro ⟨a, ha, hfa, top⟩
        refine ⟨a, by simp [ha], hfa, ?_⟩
        intro a' ha' hsome
        rcases List.mem_append.mp ha' with ha' | ha'
        · exact top a' ha' hsome
        · rw [List.mem_singleton.mp ha', hx] at hsome
          exact absurd hsome (by simp)
      · rintro ⟨a, ha, hfa, top⟩
        rcases List.mem_append.mp ha with ha' | ha'
        · exact ⟨a, ha', hfa, fun a' h => top a' (by simp [h])⟩
        · rw [List.mem_singleton.mp ha', hx] at hfa
          exact absurd hfa (by simp)

/-! ## The greatest key -/

/-- The last element with the greatest key. -/
def maxByKey [LinearOrder κ] (key : α → κ) (l : List α) : Option α := l.reverse.argmax key

variable [LinearOrder κ] {key : α → κ}

/-- Nothing is the largest in an empty list. -/
@[simp] theorem maxByKey_nil : maxByKey key [] = none := rfl

/-- The greatest element is an element. -/
theorem mem_of_maxByKey {l : List α} {a : α} (h : maxByKey key l = some a) : a ∈ l := by
  have := List.argmax_mem (Option.mem_def.mpr h)
  simpa using this

/-- No element has a greater key than the greatest one. -/
theorem le_of_maxByKey {l : List α} {a b : α} (h : maxByKey key l = some a) (hb : b ∈ l) :
    key b ≤ key a :=
  List.le_of_mem_argmax (List.mem_reverse.mpr hb) (Option.mem_def.mpr h)

/-- Only the empty list has no greatest element. -/
theorem maxByKey_eq_none {l : List α} : maxByKey key l = none ↔ l = [] := by
  simp [maxByKey]

/-- Every nonempty list has a greatest element. -/
theorem maxByKey_isSome {l : List α} : (maxByKey key l).isSome ↔ l ≠ [] := by
  rw [Option.isSome_iff_ne_none, Ne, maxByKey_eq_none]

/-- **The greatest element under distinct keys** does not depend on the order of the list. -/
theorem maxByKey_eq_some_iff {l : List α} (inj : ∀ a ∈ l, ∀ b ∈ l, key a = key b → a = b)
    (a : α) : maxByKey key l = some a ↔ a ∈ l ∧ ∀ b ∈ l, key b ≤ key a := by
  constructor
  · intro h
    exact ⟨mem_of_maxByKey h, fun b hb => le_of_maxByKey h hb⟩
  · rintro ⟨ha, top⟩
    cases h : maxByKey key l with
    | none => exact absurd ha (by rw [maxByKey_eq_none.mp h]; simp)
    | some b =>
      have hb := mem_of_maxByKey h
      have : key a = key b := le_antisymm (le_of_maxByKey h ha) (top b hb)
      rw [inj a ha b hb this]

/-- The first of the elements with the greatest key is the first element with its key. -/
theorem find?_eq_of_argmax {l : List α} {a : α} (h : l.argmax key = some a) :
    (l.find? fun b => decide (key b = key a)) = some a := by
  induction l using List.reverseRecOn generalizing a with
  | nil => simp at h
  | append_singleton l x ih =>
    rw [List.argmax_concat] at h
    rw [List.find?_append]
    cases hl : l.argmax key with
    | none =>
      rw [hl, Option.some.injEq] at h
      rw [List.argmax_eq_none.mp hl, h]
      simp
    | some c =>
      rw [hl] at h
      simp only at h
      split at h
      · next hlt =>
        -- The last element is greater than all before it.
        rw [Option.some.injEq] at h
        subst h
        have hnone : (l.find? fun b => decide (key b = key x)) = none := by
          rw [List.find?_eq_none]
          intro b hb heq
          have hle := List.le_of_mem_argmax hb (Option.mem_def.mpr hl)
          rw [of_decide_eq_true heq] at hle
          exact absurd hlt hle.not_gt
        rw [hnone]
        simp
      · rw [Option.some.injEq] at h
        subst h
        rw [ih hl]
        rfl

/-! ## Positions -/

/-- In a sorted list with its positions, the relation and the positions agree. -/
theorem pairwise_zipIdx {r : α → α → Prop} {l : List α} (sorted : l.Pairwise r) (n : Nat) :
    (l.zipIdx n).Pairwise fun x y => r x.1 y.1 ∧ x.2 < y.2 := by
  induction l generalizing n with
  | nil => simp
  | cons a l ih =>
    rw [List.zipIdx_cons, List.pairwise_cons]
    refine ⟨?_, ih (List.pairwise_cons.mp sorted).2 (n + 1)⟩
    rintro ⟨b, i⟩ hb
    have hmem := List.mem_zipIdx hb
    exact ⟨(List.pairwise_cons.mp sorted).1 b (by rw [hmem.2.2]; exact List.getElem_mem _),
      by simp only; omega⟩

/-- **The last position.** A partial function of elements and their positions takes its last value
at the greatest position where it is defined. -/
theorem lastSome_zipIdx_eq_some_iff (f : α × ℕ → Option β) (l : List α) (b : β) :
    lastSome f l.zipIdx = some b ↔
      ∃ i a, l[i]? = some a ∧ f (a, i) = some b ∧
        ∀ j a', l[j]? = some a' → (f (a', j)).isSome → j ≤ i := by
  have sorted : l.zipIdx.Pairwise fun x y => x.2 < y.2 := by
    have := pairwise_zipIdx (r := fun _ _ => True) (l := l)
      (List.pairwise_of_forall fun _ _ => trivial) 0
    exact this.imp fun h => h.2
  rw [lastSome_eq_some_iff (r := fun x y => x.2 < y.2) (fun _ _ _ _ h h' => by omega) sorted]
  constructor
  · rintro ⟨⟨a, i⟩, ha, hf, top⟩
    refine ⟨i, a, List.mem_zipIdx_iff_getElem?.mp ha, hf, ?_⟩
    intro j a' ha' hsome
    rcases top (a', j) (List.mem_zipIdx_iff_getElem?.mpr ha') hsome with h | h
    · exact le_of_eq (Prod.mk.inj h).2
    · exact le_of_lt h
  · rintro ⟨i, a, ha, hf, top⟩
    refine ⟨(a, i), List.mem_zipIdx_iff_getElem?.mpr ha, hf, ?_⟩
    rintro ⟨a', j⟩ ha' hsome
    have ha' := List.mem_zipIdx_iff_getElem?.mp ha'
    rcases Nat.lt_or_eq_of_le (top j a' ha' hsome) with h | h
    · exact Or.inr h
    · subst h
      rw [ha] at ha'
      exact Or.inl (by rw [Option.some.inj ha'])

/-- In a list sorted strictly by `r`, an element comes before another exactly when it is
`r`-smaller. -/
theorem lt_position_iff {r : α → α → Prop} {l : List α}
    (asymm : ∀ a ∈ l, ∀ b ∈ l, r a b → ¬ r b a) (sorted : l.Pairwise r) {i j : ℕ} {a b : α}
    (ha : l[i]? = some a) (hb : l[j]? = some b) : i < j ↔ r a b := by
  obtain ⟨hi, rfl⟩ := List.getElem?_eq_some_iff.mp ha
  obtain ⟨hj, rfl⟩ := List.getElem?_eq_some_iff.mp hb
  have below := List.pairwise_iff_getElem.mp sorted
  constructor
  · exact below i j hi hj
  · intro h
    rcases Nat.lt_trichotomy i j with hij | hij | hij
    · exact hij
    · subst hij
      exact absurd h (asymm _ (List.getElem_mem hi) _ (List.getElem_mem hi) h)
    · exact absurd (below j i hj hi hij)
        (asymm _ (List.getElem_mem hi) _ (List.getElem_mem hj) h)

/-- In a list sorted strictly by `r`, the position of an element is the number of elements
`r`-below it. -/
theorem countP_of_position {r : α → α → Prop} [DecidableRel r] {l : List α}
    (asymm : ∀ a ∈ l, ∀ b ∈ l, r a b → ¬ r b a) (sorted : l.Pairwise r) {i : ℕ} {a : α}
    (ha : l[i]? = some a) : l.countP (fun b => decide (r b a)) = i := by
  induction l generalizing i with
  | nil => exact absurd ha (by simp)
  | cons b l ih =>
    obtain ⟨hb, hl⟩ := List.pairwise_cons.mp sorted
    cases i with
    | zero =>
      obtain rfl : b = a := by simpa using ha
      rw [List.countP_eq_zero]
      intro c hc
      rcases List.mem_cons.mp hc with rfl | hc
      · simpa using fun h => asymm c (by simp) c (by simp) h h
      · simpa using asymm b (by simp) c (by simp [hc]) (hb c hc)
    | succ i =>
      have ha : l[i]? = some a := by simpa using ha
      have hba : r b a := hb a (List.mem_of_getElem? ha)
      rw [List.countP_cons_of_pos (by simpa using hba),
        ih (fun x hx y hy => asymm x (by simp [hx]) y (by simp [hy])) hl ha]

/-- An initial part has as many elements with a property exactly when no element beyond it has it. -/
theorem countP_eq_iff_of_initial {l l' : List α} (h : l <+: l') (nodup : l'.Nodup)
    (p : α → Bool) :
    l.countP p = l'.countP p ↔ ∀ a, (a ∈ l ↔ a ∉ l') → p a = false := by
  obtain ⟨rest, rfl⟩ := h
  have disjoint : ∀ a ∈ rest, a ∉ l := fun a ha hl =>
    (List.nodup_append.mp nodup).2.2 a hl a ha rfl
  rw [List.countP_append, Nat.left_eq_add, List.countP_eq_zero]
  constructor
  · intro hrest a hdiff
    by_cases hl : a ∈ l
    · exact absurd (List.mem_append_left _ hl) (hdiff.mp hl)
    · have hmem : a ∈ l ++ rest := by
        by_contra hnot
        exact hl (hdiff.mpr hnot)
      exact Bool.not_eq_true _ ▸ hrest a ((List.mem_append.mp hmem).resolve_left hl)
  · intro hdiff a ha
    have := hdiff a (iff_of_false (disjoint a ha) (by simp [ha]))
    simp [this]

end LastOf
