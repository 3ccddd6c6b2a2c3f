import Mathlib.Data.List.TakeWhile
import Mathlib.Tactic.Ring
import Serbero.Catalog.Render
import Serbero.Lib.Decimal

/-! # Durations in the configuration

`"20s"`, `"15m"`, `"2h"`, `"1d"`: a whole number and a unit, in whole seconds of 64 bits. -/

namespace Serbero

/-- A text without the white space around it. -/
def trim (text : List Char) : List Char :=
  ((text.dropWhile isWhiteSpace).reverse.dropWhile isWhiteSpace).reverse

/-- Only white space is trimmed to nothing. -/
theorem trim_eq_nil_iff {text : List Char} : trim text = [] ↔ ∀ c ∈ text, isWhiteSpace c = true := by
  rw [trim, List.reverse_eq_nil_iff, List.dropWhile_eq_nil_iff]
  constructor
  · intro h c hc
    by_contra hnot
    -- The first character that is no white space would be left.
    have hleft : text.dropWhile isWhiteSpace ≠ [] := fun hnil =>
      hnot (List.dropWhile_eq_nil_iff.mp hnil c hc)
    have hhead := List.head_dropWhile_not isWhiteSpace hleft
    have hblank := h _ (List.mem_reverse.mpr (List.head_mem hleft))
    rw [hhead] at hblank
    cases hblank
  · intro h c hc
    exact h c (List.dropWhile_sublist _ |>.mem (List.mem_reverse.mp hc))

/-- Why a duration is refused. -/
inductive DurationError
  | noUnit
  | notWhole
  | unknownUnit (unit : String)
  | tooLarge
  deriving DecidableEq, Repr

/-- How many values 64 bits have. -/
def u64Count : Nat := 18446744073709551616

/-- The seconds of a unit. -/
def unitSecs : List Char → Option Nat
  | ['s'] => some 1
  | ['m'] => some 60
  | ['h'] => some 3600
  | ['d'] => some 86400
  | _ => none

/-- Reads a duration, in seconds. -/
def parseDuration (text : String) : Except DurationError Nat :=
  let value := trim text.toList
  let number := value.takeWhile Char.isDigit
  let unit := value.dropWhile Char.isDigit
  if unit = [] then .error .noUnit
  else
    match Decimal.parseNat u64Count number with
    | none => .error .notWhole
    | some number =>
      match unitSecs unit with
      | none => .error (.unknownUnit (String.ofList unit))
      | some secs => if number * secs < u64Count then .ok (number * secs) else .error .tooLarge

/-- The units. -/
def durationUnits : List (Char × Nat) := [('s', 1), ('m', 60), ('h', 3600), ('d', 86400)]

/-- A unit is one of the letters of the table. -/
theorem unitSecs_eq_some_iff {unit : List Char} {secs : Nat} :
    unitSecs unit = some secs ↔ ∃ entry ∈ durationUnits, unit = [entry.1] ∧ secs = entry.2 := by
  unfold unitSecs
  constructor
  · intro h
    split at h <;> simp_all [durationUnits]
  · rintro ⟨entry, hentry, rfl, rfl⟩
    simp only [durationUnits, List.mem_cons, List.not_mem_nil, or_false] at hentry
    rcases hentry with rfl | rfl | rfl | rfl <;> rfl

/-- A numeral and a unit are read as what they come to, where it fits. -/
theorem parseDuration_of_numeral {text : String} {digits : List Char} {entry : Char × Nat}
    (hdigits : Decimal.Numeral digits) (hentry : entry ∈ durationUnits)
    (htext : trim text.toList = digits ++ [entry.1])
    (hfits : Decimal.value digits * entry.2 < u64Count) :
    parseDuration text = .ok (Decimal.value digits * entry.2) := by
  have hunits : ∀ entry ∈ durationUnits, entry.1.isDigit = false ∧ 1 ≤ entry.2 := by decide
  obtain ⟨hnot, hsecs⟩ := hunits entry hentry
  have hnumber : (trim text.toList).takeWhile Char.isDigit = digits := by
    rw [htext, List.takeWhile_append_of_pos hdigits.all, List.takeWhile_cons_of_neg (by simp [hnot]),
      List.append_nil]
  have hunit : (trim text.toList).dropWhile Char.isDigit = [entry.1] := by
    rw [htext, List.dropWhile_append_of_pos hdigits.all, List.dropWhile_cons_of_neg (by simp [hnot])]
  have hvalue : Decimal.value digits < u64Count :=
    lt_of_le_of_lt (Nat.le_mul_of_pos_right _ hsecs) hfits
  have hparse : Decimal.parseNat u64Count digits = some (Decimal.value digits) :=
    Decimal.parseNat_eq_some_iff.mpr ⟨hvalue, digits, hdigits, rfl, Or.inl rfl⟩
  have hfound : unitSecs [entry.1] = some entry.2 :=
    unitSecs_eq_some_iff.mpr ⟨entry, hentry, rfl, rfl⟩
  unfold parseDuration
  simp only [hnumber, hunit, hparse, hfound, if_pos hfits]
  rfl

/-- **What is read as a duration**: between white space, a numeral and a unit, where what they come to
fits 64 bits. -/
theorem parseDuration_eq_ok_iff {text : String} {secs : Nat} :
    parseDuration text = .ok secs ↔
      secs < u64Count ∧ ∃ digits, Decimal.Numeral digits ∧ ∃ entry ∈ durationUnits,
        trim text.toList = digits ++ [entry.1] ∧ secs = Decimal.value digits * entry.2 := by
  constructor
  · intro h
    unfold parseDuration at h
    simp only [] at h
    split at h
    · cases h
    next hunit =>
    split at h
    · cases h
    next number hnumber =>
    split at h
    · cases h
    next unit hsecs =>
    split at h
    next hfits =>
      cases h
      obtain ⟨entry, hentry, hrest, rfl⟩ := unitSecs_eq_some_iff.mp hsecs
      obtain ⟨-, digits, hdigits, rfl, hsame | hsame⟩ := Decimal.parseNat_eq_some_iff.mp hnumber
      · refine ⟨hfits, digits, hdigits, entry, hentry, ?_, rfl⟩
        rw [← hsame, ← hrest, List.takeWhile_append_dropWhile]
      · -- The digits before the unit have no plus sign.
        have hplus : '+' ∈ (trim text.toList).takeWhile Char.isDigit := by
          rw [hsame]
          exact List.mem_cons_self
        exact absurd (List.mem_takeWhile_imp hplus) (by decide)
    · cases h
  · rintro ⟨hfits, digits, hdigits, entry, hentry, htext, rfl⟩
    exact parseDuration_of_numeral hdigits hentry htext hfits

/-- White space around a text that begins and ends with none is all that is trimmed. -/
theorem trim_padded {before after text : List Char} (hbefore : ∀ c ∈ before, isWhiteSpace c = true)
    (hafter : ∀ c ∈ after, isWhiteSpace c = true) (hfirst : ∀ c ∈ text.head?, isWhiteSpace c = false)
    (hlast : ∀ c ∈ text.getLast?, isWhiteSpace c = false) (hne : text ≠ []) :
    trim (before ++ text ++ after) = text := by
  have hdropped : (before ++ text ++ after).dropWhile isWhiteSpace = text ++ after := by
    rw [List.append_assoc, List.dropWhile_append_of_pos hbefore]
    cases text with
    | nil => exact absurd rfl hne
    | cons first rest =>
      rw [List.cons_append, List.dropWhile_cons_of_neg (by simp [hfirst first rfl])]
  have hreversed : (text ++ after).reverse.dropWhile isWhiteSpace = text.reverse := by
    rw [List.reverse_append,
      List.dropWhile_append_of_pos fun c hc => hafter c (List.mem_reverse.mp hc)]
    cases hrev : text.reverse with
    | nil => rfl
    | cons final rest =>
      have hfinal : text.getLast? = some final := by
        rw [← List.head?_reverse, hrev, List.head?_cons]
      rw [List.dropWhile_cons_of_neg (by simp [hlast final hfinal])]
  rw [trim, hdropped, hreversed, List.reverse_reverse]

/-- **Durations are read back**: a number of seconds, minutes, hours or days that fits, written with
any white space around it, is read as what it comes to. -/
theorem parseDuration_written {number : Nat} {entry : Char × Nat} (hentry : entry ∈ durationUnits)
    (hfits : number * entry.2 < u64Count) {before after : List Char}
    (hbefore : ∀ c ∈ before, isWhiteSpace c = true) (hafter : ∀ c ∈ after, isWhiteSpace c = true) :
    parseDuration (String.ofList (before ++ (number.repr.toList ++ [entry.1]) ++ after)) =
      .ok (number * entry.2) := by
  have hunits : ∀ entry ∈ durationUnits, isWhiteSpace entry.1 = false := by decide
  have hnumeral := Decimal.numeral_repr number
  have htrim : trim (before ++ (number.repr.toList ++ [entry.1]) ++ after) =
      number.repr.toList ++ [entry.1] := by
    apply trim_padded hbefore hafter
    · intro c hc
      obtain ⟨first, rest, heq⟩ := List.exists_cons_of_ne_nil hnumeral.nonempty
      rw [heq, List.cons_append, List.head?_cons] at hc
      cases hc
      exact isWhiteSpace_of_isDigit (hnumeral.all c (heq ▸ List.mem_cons_self))
    · intro c hc
      rw [List.getLast?_append, List.getLast?_singleton, Option.some_or] at hc
      cases hc
      exact hunits entry hentry
    · simp
  have hvalue := Decimal.value_repr number
  rw [← hvalue] at hfits
  have hread := parseDuration_of_numeral hnumeral hentry
    ((congrArg trim String.toList_ofList).trans htrim) hfits
  rw [hvalue] at hread
  exact hread

end Serbero
