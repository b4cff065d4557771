/-
  The decimal arithmetic of lib.rs: `checked_add`, `checked_sub`, `sum_decimals`, `ratio_ppm` and
  `imbalance_ppm`.

  A sum leaves the range `parse` guarantees, so an `Amount` is a decimal whose coefficient is any
  `i128`. Additions and subtractions of aligned coefficients are checked by the code and refused
  with an error; the multiplications that align them are plain ones and abort when they overflow.
-/

import LobReplay.Book.Plain

namespace LobReplay.Book

open Foundation

/-! ## `i128` -/

/-- The value is an `i128`. -/
def InI128 (n : Int) : Prop := -2 ^ 127 ≤ n ∧ n ≤ 2 ^ 127 - 1

instance (n : Int) : Decidable (InI128 n) := inferInstanceAs (Decidable (_ ∧ _))

/-- `a * b` of two `i128`. -/
def mulI128 (a b : Int) : Result Int := if InI128 (a * b) then .ok (a * b) else .error .abort

/-- `10_i128.pow(exponent)`. -/
def powI128 (exponent : Nat) : Result Int :=
  if InI128 (10 ^ exponent) then .ok (10 ^ exponent) else .error .abort

/-- `a.checked_mul(b)`. -/
def checkedMul (a b : Int) : Option Int := if InI128 (a * b) then some (a * b) else none

/-- `i64::try_from(n)`. -/
def i64TryFrom (n : Int) : Option Int := if -2 ^ 63 ≤ n ∧ n ≤ 2 ^ 63 - 1 then some n else none

def ppmScale : Int := 1000000

/-! ## Amounts -/

/-- A `FixedDecimal` as its arithmetic leaves it: its coefficient is some `i128`. -/
structure Amount where
  coefficient : Int
  scale : Nat
  scale_le : scale ≤ 18
  range : InI128 coefficient

instance : DecidableEq Amount := fun a b =>
  decidable_of_iff (a.coefficient = b.coefficient ∧ a.scale = b.scale) (by cases a; cases b; simp)

namespace Amount

def ofDecimal (d : FixedDecimal) : Amount where
  coefficient := d.coefficient
  scale := d.scale
  scale_le := d.scale_le
  range := by
    have hsafe := d.safe
    have hmax : maxSafeCoefficient ≤ 2 ^ 127 - 1 := Nat.div_le_self _ _
    constructor <;> omega

/-- `FixedDecimal { coefficient: 0, scale: 0 }`. -/
def zero : Amount := ⟨0, 0, Nat.zero_le _, by decide⟩

theorem inI128_div_ten {c : Int} (h : InI128 c) : InI128 (c / 10) := by
  obtain ⟨hlow, hhigh⟩ := h
  constructor <;> omega

theorem scale_le_of_succ {scale : Nat} (h : scale + 1 ≤ 18) : scale ≤ 18 := Nat.le_of_succ_le h

def canonical (coefficient : Int) : (scale : Nat) → scale ≤ 18 → InI128 coefficient → Amount
  | 0, hscale, hrange => ⟨coefficient, 0, hscale, hrange⟩
  | scale + 1, hscale, hrange =>
    if coefficient % 10 = 0 then
      canonical (coefficient / 10) scale (scale_le_of_succ hscale) (inI128_div_ten hrange)
    else ⟨coefficient, scale + 1, hscale, hrange⟩

def aligned (a b : Amount) : Result (Int × Int) := do
  let scale := max a.scale b.scale
  let leftPower ← powI128 (scale - a.scale)
  let left ← mulI128 a.coefficient leftPower
  let rightPower ← powI128 (scale - b.scale)
  let right ← mulI128 b.coefficient rightPower
  .ok (left, right)

/-- The end of `checked_add` and `checked_sub`. -/
def checkedOf (coefficient : Int) (scale : Nat) (hscale : scale ≤ 18) (message : String) :
    Result Amount :=
  if hrange : InI128 coefficient then .ok (canonical coefficient scale hscale hrange)
  else err message

def checkedSub (a b : Amount) : Result Amount := do
  let (left, right) ← a.aligned b
  checkedOf (left - right) (max a.scale b.scale) (max_le a.scale_le b.scale_le)
    "decimal subtraction overflow"

def checkedAdd (a b : Amount) : Result Amount := do
  let (left, right) ← a.aligned b
  checkedOf (left + right) (max a.scale b.scale) (max_le a.scale_le b.scale_le)
    "decimal addition overflow"

end Amount

def sumDecimals (values : List FixedDecimal) : Result Amount :=
  values.foldlM (fun total value => total.checkedAdd (.ofDecimal value)) Amount.zero

def ratioPpm (numerator denominator : Amount) : Result Int :=
  if denominator.coefficient ≤ 0 then err "ratio denominator must be positive"
  else do
    let scale := max numerator.scale denominator.scale
    let numeratorPower ← powI128 (scale - numerator.scale)
    let dividend ← okOr
      ((checkedMul numerator.coefficient numeratorPower).bind fun value => checkedMul value ppmScale)
      "ppm numerator overflow"
    let denominatorPower ← powI128 (scale - denominator.scale)
    let divisor ← mulI128 denominator.coefficient denominatorPower
    -- the divisor is positive, and `/` truncates towards zero
    okOr (i64TryFrom (dividend.tdiv divisor)) "ppm result outside i64"

def imbalancePpm (left right : Amount) : Result Int := do
  let difference ← left.checkedSub right
  let total ← left.checkedAdd right
  ratioPpm difference total

end LobReplay.Book
