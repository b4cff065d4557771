/-
  `FixedDecimal` of lib.rs: a coefficient and a scale of at most 18 digits, always in canonical
  form. The coefficient stays within the range in which two decimals are compared without overflow,
  so the arithmetic of the comparison is that of the integers (`aligned_safe`).
-/

import LobReplay.Common
import Mathlib.Tactic.Ring
import Mathlib.Tactic.Linarith
import Mathlib.Algebra.Order.Ring.Int

namespace LobReplay.Book

open Foundation
open Std (TransCmp LawfulEqCmp OrientedCmp)

/-- `i128::MAX`. -/
def i128Max : Nat := 2 ^ 127 - 1

def maxSafeCoefficient : Nat := i128Max / 10 ^ 18

/-- `FixedDecimal`, in canonical form: a positive scale only where the last digit is not 0. -/
structure FixedDecimal where
  coefficient : Int
  scale : Nat
  scale_le : scale ≤ 18
  safe : coefficient.natAbs ≤ maxSafeCoefficient
  canonical_form : scale = 0 ∨ coefficient % 10 ≠ 0
  deriving DecidableEq

namespace FixedDecimal

/-! ## Construction -/

theorem natAbs_div_ten_le (c : Int) : (c / 10).natAbs ≤ c.natAbs := by
  omega

/-- `canonical`: trailing zeros go. -/
def canonical (coefficient : Int) : (scale : Nat) → scale ≤ 18 →
    coefficient.natAbs ≤ maxSafeCoefficient → FixedDecimal
  | 0, hscale, hsafe => ⟨coefficient, 0, hscale, hsafe, Or.inl rfl⟩
  | scale + 1, hscale, hsafe =>
    if h : coefficient % 10 = 0 then
      canonical (coefficient / 10) scale (Nat.le_of_succ_le hscale)
        (Nat.le_trans (natAbs_div_ten_le coefficient) hsafe)
    else ⟨coefficient, scale + 1, hscale, hsafe, Or.inr h⟩

/-- `u8::is_ascii_digit`. -/
def isAsciiDigit (c : Char) : Bool := 48 ≤ c.toNat && c.toNat ≤ 57

/-- The number a string of digits denotes. -/
def digitsValue (digits : List Char) : Nat :=
  digits.foldl (fun value c => 10 * value + (c.toNat - 48)) 0

/-- The end of `parse`: the digits and the scale are read. -/
def ofDigits (negative : Bool) (digits : List Char) (scale : Nat) (hscale : scale ≤ 18) :
    Result FixedDecimal :=
  let coefficient := digitsValue digits
  if i128Max < coefficient then
    err "decimal coefficient overflow: number too large to fit in target type"
  else if hsafe : maxSafeCoefficient < coefficient then err "decimal outside comparison-safe range"
  else
    .ok (canonical (if negative then -(coefficient : Int) else coefficient) scale hscale (by
      split <;> omega))

/-- `parse`. `debug` is the text `{text:?}` writes. -/
def parse (debug : String → String) (text : String) : Result FixedDecimal :=
  let quoted := debug text
  let chars := text.toList
  if chars = [] ∨ chars.head? = some '+' ∨ 'e' ∈ chars ∨ 'E' ∈ chars then
    err s!"invalid plain decimal: {quoted}"
  else
    let negative := chars.head? = some '-'
    let unsigned := if negative then chars.tail else chars
    match unsigned.splitOn '.' with
    | [] => err "missing whole part"
    | whole :: rest =>
      if 1 < rest.length ∨ whole = [] ∨ ¬ whole.all isAsciiDigit ∨
          (1 < whole.length ∧ whole.head? = some '0') then
        err s!"invalid plain decimal: {quoted}"
      else
        let fraction := rest.head?.getD []
        if hscale : 18 < fraction.length then err s!"invalid decimal scale: {quoted}"
        else if ('.' ∈ chars ∧ fraction = []) ∨ ¬ fraction.all isAsciiDigit then
          err s!"invalid decimal scale: {quoted}"
        else ofDigits negative (whole ++ fraction) fraction.length (Nat.le_of_not_lt hscale)

def isZero (d : FixedDecimal) : Bool := d.coefficient = 0

def isNegative (d : FixedDecimal) : Bool := d.coefficient < 0

/-- The decimal is more than 0. -/
def Positive (d : FixedDecimal) : Prop := 0 < d.coefficient

instance (d : FixedDecimal) : Decidable d.Positive := inferInstanceAs (Decidable (0 < _))

theorem positive_of_not {d : FixedDecimal} (hzero : d.isZero = false)
    (hnegative : d.isNegative = false) : d.Positive := by
  simp only [isZero, isNegative, decide_eq_false_iff_not] at hzero hnegative
  show 0 < d.coefficient
  omega

def display (d : FixedDecimal) : String :=
  let sign := if d.coefficient < 0 then "-" else ""
  let digits := (toString d.coefficient.natAbs).toList
  if d.scale = 0 then sign ++ String.ofList digits
  else
    let minimum := d.scale + 1
    let digits := List.replicate (minimum - digits.length) '0' ++ digits
    let split := digits.length - d.scale
    sign ++ String.ofList (digits.take split) ++ "." ++ String.ofList (digits.drop split)

/-! ## Order -/

/-- `aligned`: both coefficients at the larger scale. -/
def aligned (a b : FixedDecimal) : Int × Int :=
  let scale := max a.scale b.scale
  (a.coefficient * 10 ^ (scale - a.scale), b.coefficient * 10 ^ (scale - b.scale))

/-- `Ord::cmp`. -/
def cmp (a b : FixedDecimal) : Ordering := compare (aligned a b).1 (aligned a b).2

variable {scale : Nat} {a b : FixedDecimal}

/-- **The comparison cannot overflow**: an aligned coefficient is an `i128`. -/
theorem aligned_safe (d : FixedDecimal) (hscale : scale ≤ 18) :
    (d.coefficient * 10 ^ (scale - d.scale)).natAbs ≤ i128Max := by
  have hpow : 10 ^ (scale - d.scale) ≤ 10 ^ 18 := Nat.pow_le_pow_right (by decide) (by omega)
  have hmax : maxSafeCoefficient * 10 ^ 18 ≤ i128Max := Nat.div_mul_le_self _ _
  rw [Int.natAbs_mul, Int.natAbs_pow]
  exact Nat.le_trans (Nat.mul_le_mul d.safe hpow) hmax

/-- The value of a decimal in units of `10⁻¹⁸`. -/
def units (d : FixedDecimal) : Int := d.coefficient * 10 ^ (18 - d.scale)

theorem units_eq_aligned (d : FixedDecimal) (hle : d.scale ≤ scale) (hscale : scale ≤ 18) :
    d.units = d.coefficient * 10 ^ (scale - d.scale) * 10 ^ (18 - scale) := by
  have hexp : 18 - d.scale = (scale - d.scale) + (18 - scale) := by omega
  rw [units, hexp, Int.pow_add, Int.mul_assoc]

theorem compare_mul_right {x y k : Int} (hk : 0 < k) : compare (x * k) (y * k) = compare x y := by
  rcases Int.lt_trichotomy x y with h | rfl | h
  · rw [compare_lt_iff_lt.mpr h, compare_lt_iff_lt.mpr (Int.mul_lt_mul_of_pos_right h hk)]
  · rw [compare_eq_iff_eq.mpr rfl, compare_eq_iff_eq.mpr rfl]
  · rw [compare_gt_iff_gt.mpr h, compare_gt_iff_gt.mpr (Int.mul_lt_mul_of_pos_right h hk)]

theorem cmp_eq (a b : FixedDecimal) : cmp a b = compare a.units b.units := by
  have hscale : max a.scale b.scale ≤ 18 := max_le a.scale_le b.scale_le
  have hpos : (0 : Int) < 10 ^ (18 - max a.scale b.scale) := by positivity
  rw [units_eq_aligned a (le_max_left _ _) hscale, units_eq_aligned b (le_max_right _ _) hscale,
    compare_mul_right hpos]
  rfl

theorem scale_le_of_units_eq (h : a.units = b.units) : b.scale ≤ a.scale := by
  by_contra hlt
  rw [units_eq_aligned a (show a.scale ≤ b.scale by omega) b.scale_le, units] at h
  have hpos : (10 : Int) ^ (18 - b.scale) ≠ 0 := by positivity
  have hcoefficient := Int.eq_of_mul_eq_mul_right hpos h
  -- the coefficient of the larger scale ends in 0
  have hexp : b.scale - a.scale = (b.scale - a.scale - 1) + 1 := by omega
  rw [hexp, Int.pow_succ, ← Int.mul_assoc] at hcoefficient
  rcases b.canonical_form with hzero | hdigit
  · omega
  · rw [← hcoefficient, Int.mul_emod_left] at hdigit
    exact hdigit rfl

/-- Equal values are equal decimals. -/
theorem units_injective (h : a.units = b.units) : a = b := by
  have hscale : a.scale = b.scale :=
    Nat.le_antisymm (scale_le_of_units_eq h.symm) (scale_le_of_units_eq h)
  have hpos : (10 : Int) ^ (18 - b.scale) ≠ 0 := by positivity
  have hcoefficient : a.coefficient = b.coefficient := by
    rw [units, units, hscale] at h
    exact Int.eq_of_mul_eq_mul_right hpos h
  cases a
  cases b
  simp_all

instance : TransCmp cmp where
  eq_swap {a b} := by
    rw [cmp_eq, cmp_eq]
    exact OrientedCmp.eq_swap
  isLE_trans {a b c} hab hbc := by
    rw [cmp_eq] at *
    exact TransCmp.isLE_trans hab hbc

instance : LawfulEqCmp cmp where
  eq_of_compare {a b} h := by
    rw [cmp_eq, compare_eq_iff_eq] at h
    exact units_injective h

/-- `a < b`. -/
def lt (a b : FixedDecimal) : Bool := cmp a b == .lt

end FixedDecimal

end LobReplay.Book
