import Mathlib.Algebra.BigOperators.Group.Finset.Basic
import Mathlib.Algebra.BigOperators.Group.Finset.Piecewise
import Mathlib.Algebra.Order.BigOperators.Group.List
import Mathlib.Algebra.Order.BigOperators.Group.Finset
import Mathlib.Tactic.Abel

/-! # Sorting entries into bins

Entries are added to the bin each belongs in, one after the other. A bin ends with what its own
entries add up to, and the bins together hold every entry once. -/

namespace Bins

variable {α β M : Type*}

/-- Each entry is added to its bin. -/
def fill (bin : α → Nat) (add : β → α → β) (bins : List β) (entries : List α) : List β :=
  entries.foldl (fun bins entry => bins.modify (bin entry) (add · entry)) bins

/-- The entries of one bin. -/
def inBin (bin : α → Nat) (entries : List α) (index : Nat) : List α :=
  entries.filter fun entry => bin entry == index

variable {bin : α → Nat} {add : β → α → β}

/-- **What a bin ends with** is what its own entries add to it. -/
theorem getElem?_fill (bins : List β) (entries : List α) (index : Nat) :
    (fill bin add bins entries)[index]? =
      bins[index]?.map fun start => (inBin bin entries index).foldl add start := by
  induction entries generalizing bins with
  | nil => simp [fill, inBin]
  | cons entry rest ih =>
    have hfill : fill bin add bins (entry :: rest) =
        fill bin add (bins.modify (bin entry) (add · entry)) rest := rfl
    rw [hfill, ih, List.getElem?_modify, Option.map_eq_map, Option.map_map]
    congr 1
    funext start
    by_cases hbin : bin entry = index
    · simp [inBin, hbin]
    · simp [inBin, hbin]

/-- Bins that start alike end with what each one's entries add up to. -/
theorem fill_replicate (count : Nat) (start : β) (entries : List α) :
    fill bin add (List.replicate count start) entries =
      (List.range count).map fun index => (inBin bin entries index).foldl add start := by
  apply List.ext_getElem?
  intro index
  rw [getElem?_fill, List.getElem?_map, List.getElem?_replicate]
  by_cases hindex : index < count
  · rw [if_pos hindex, List.getElem?_range hindex]
    rfl
  · rw [if_neg hindex, List.getElem?_eq_none (by rw [List.length_range]; omega)]
    rfl

/-- **The bins hold every entry once**: what is summed up bin by bin is summed up over all. -/
theorem sum_inBin [AddCommMonoid M] {count : Nat} (f : α → M) {entries : List α}
    (hbins : ∀ entry ∈ entries, bin entry < count) :
    ∑ index ∈ Finset.range count, ((inBin bin entries index).map f).sum = (entries.map f).sum := by
  induction entries with
  | nil => simp [inBin]
  | cons entry rest ih =>
    have hcons : ∀ index, ((inBin bin (entry :: rest) index).map f).sum =
        (if bin entry = index then f entry else 0) + ((inBin bin rest index).map f).sum := by
      intro index
      by_cases hbin : bin entry = index
      · simp [inBin, hbin]
      · simp [inBin, hbin]
    have hentry : bin entry ∈ Finset.range count :=
      Finset.mem_range.mpr (hbins entry List.mem_cons_self)
    rw [Finset.sum_congr rfl fun index _ => hcons index, Finset.sum_add_distrib,
      ih fun later hlater => hbins later (List.mem_cons_of_mem _ hlater), Finset.sum_ite_eq,
      if_pos hentry, List.map_cons, List.sum_cons]

/-- A list's sum is no further from zero than its entries together. -/
theorem abs_sum_le [AddCommGroup M] [LinearOrder M] [IsOrderedAddMonoid M] (f : α → M)
    (entries : List α) : |(entries.map f).sum| ≤ (entries.map fun entry => |f entry|).sum := by
  induction entries with
  | nil => simp
  | cons entry rest ih =>
    rw [List.map_cons, List.sum_cons, List.map_cons, List.sum_cons]
    exact (abs_add_le _ _).trans (add_le_add_right ih _)

/-- Sums of bins lie between the sum of everything and the sum of every entry's distance. -/
theorem abs_sum_le_bins [AddCommGroup M] [LinearOrder M] [IsOrderedAddMonoid M] {count : Nat}
    (f : α → M) {entries : List α} (hbins : ∀ entry ∈ entries, bin entry < count) :
    |(entries.map f).sum| ≤
        ∑ index ∈ Finset.range count, |((inBin bin entries index).map f).sum| ∧
      ∑ index ∈ Finset.range count, |((inBin bin entries index).map f).sum| ≤
        (entries.map fun entry => |f entry|).sum := by
  constructor
  · rw [← sum_inBin f hbins]
    exact Finset.abs_sum_le_sum_abs _ _
  · rw [← sum_inBin (fun entry => |f entry|) hbins]
    exact Finset.sum_le_sum fun index _ => abs_sum_le f _

end Bins
