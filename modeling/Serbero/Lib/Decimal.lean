import Mathlib.Data.List.Basic
import Mathlib.Tactic.Common

/-! # Decimal numerals

Reading a bounded integer from text: an optional sign, at least one digit, and no value out of
range. What a number is written as is read back, and nothing else is read as it but the same number
with a plus sign or leading zeros. -/

namespace Decimal

/-- Some digits, and nothing else. -/
structure Numeral (digits : List Char) : Prop where
  nonempty : digits ≠ []
  all : ∀ c ∈ digits, c.isDigit = true

instance (digits : List Char) : Decidable (Numeral digits) :=
  decidable_of_iff (digits ≠ [] ∧ digits.all Char.isDigit = true)
    ⟨fun h => ⟨h.1, List.all_eq_true.mp h.2⟩, fun h => ⟨h.nonempty, List.all_eq_true.mpr h.all⟩⟩

/-- The number that digits stand for. -/
def value (digits : List Char) : Nat := Nat.ofDigitChars 10 digits 0

/-- The number of a numeral. -/
def read (digits : List Char) : Option Nat :=
  if Numeral digits then some (value digits) else none

/-- A natural number below a bound; a plus sign may come first. -/
def parseNat (bound : Nat) (text : List Char) : Option Nat :=
  let digits := match text with
    | '+' :: digits => digits
    | digits => digits
  (read digits).filter fun n => decide (n < bound)

/-- An integer between two bounds; a sign may come first. -/
def parseInt (low high : Int) (text : List Char) : Option Int :=
  let found := match text with
    | '-' :: digits => (read digits).map fun n : Nat => -(n : Int)
    | '+' :: digits => (read digits).map Int.ofNat
    | digits => (read digits).map Int.ofNat
  found.filter fun n => decide (low ≤ n ∧ n ≤ high)

variable {digits text : List Char} {n bound : Nat}

/-- What is read is a numeral's value. -/
theorem read_eq_some_iff : read digits = some n ↔ Numeral digits ∧ value digits = n := by
  rw [read]
  split
  · next h => simp [h]
  · next h => simp [h]

/-- A digit is no sign. -/
theorem Numeral.head_ne (h : Numeral digits) {sign : Char} {rest : List Char}
    (hsign : sign.isDigit = false) : digits ≠ sign :: rest := by
  rintro rfl
  rw [h.all sign List.mem_cons_self] at hsign
  cases hsign

/-- What a number is written as. -/
theorem numeral_repr (n : Nat) : Numeral n.repr.toList := by
  rw [Nat.toList_repr]
  exact ⟨Nat.toDigits_ne_nil, fun c hc => Nat.isDigit_of_mem_toDigits (by decide) (by decide) hc⟩

/-- The decimal digits of a number have its value. -/
theorem value_repr (n : Nat) : value n.repr.toList = n := by
  rw [value, Nat.toList_repr]
  exact Nat.ofDigitChars_ten_toDigits

/-- **What is read as a natural number**: a numeral for it, or one after a plus sign. -/
theorem parseNat_eq_some_iff :
    parseNat bound text = some n ↔
      n < bound ∧ ∃ digits, Numeral digits ∧ value digits = n ∧
        (text = digits ∨ text = '+' :: digits) := by
  unfold parseNat
  rw [Option.filter_eq_some_iff, decide_eq_true_iff, and_comm]
  refine and_congr_right fun _ => ?_
  split
  · next digits =>
    rw [read_eq_some_iff]
    constructor
    · rintro ⟨hdigits, hvalue⟩
      exact ⟨digits, hdigits, hvalue, Or.inr rfl⟩
    · rintro ⟨found, hfound, hvalue, hsame | hsame⟩
      · exact absurd hsame.symm (hfound.head_ne (by decide))
      · rw [List.cons.injEq] at hsame
        rw [hsame.2]
        exact ⟨hfound, hvalue⟩
  · next hplus =>
    rw [read_eq_some_iff]
    constructor
    · rintro ⟨hdigits, hvalue⟩
      exact ⟨text, hdigits, hvalue, Or.inl rfl⟩
    · rintro ⟨found, hfound, hvalue, hsame | hsame⟩
      · rw [hsame]
        exact ⟨hfound, hvalue⟩
      · exact absurd hsame (hplus found)

/-- A number that is written out is read back. -/
theorem parseNat_repr (h : n < bound) : parseNat bound n.repr.toList = some n :=
  parseNat_eq_some_iff.mpr ⟨h, _, numeral_repr n, value_repr n, Or.inl rfl⟩

/-- An integer that is written out is read back. -/
theorem parseInt_toString {low high n : Int} (hlow : low ≤ n) (hhigh : n ≤ high) :
    parseInt low high (toString n).toList = some n := by
  have hfound : ∀ m : Nat, read m.repr.toList = some m := fun m =>
    read_eq_some_iff.mpr ⟨numeral_repr m, value_repr m⟩
  rw [Int.toString_eq_repr, Int.repr_eq_if]
  unfold parseInt
  rw [Option.filter_eq_some_iff]
  refine ⟨?_, decide_eq_true ⟨hlow, hhigh⟩⟩
  by_cases hsign : 0 ≤ n
  · rw [if_pos hsign]
    split
    · next heq => exact absurd heq ((numeral_repr _).head_ne (by decide))
    · next heq => exact absurd heq ((numeral_repr _).head_ne (by decide))
    · rw [hfound, Option.map_some, Int.ofNat_eq_natCast, Int.toNat_of_nonneg hsign]
  · rw [if_neg hsign, String.toList_append]
    have hminus : "-".toList = ['-'] := rfl
    rw [hminus, List.singleton_append]
    simp only [hfound, Option.map_some]
    congr 1
    omega

end Decimal
