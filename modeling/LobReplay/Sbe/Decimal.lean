/-
  The text of a decimal, `Decimal::to_string` of cpp/sbe/src/binance_sbe.cpp, and the number it
  denotes. The digits of the mantissa are those of its absolute value, and the one mantissa without
  an absolute value in 64 bits, the least, is printed with two signs.

  In C++ the negation of the least `int64_t` is undefined; here it is what two's complement makes of
  it, itself.
-/

import LobReplay.Foundation.Text
import LobReplay.Sbe.Decode
import Mathlib.Algebra.Order.Field.Rat
import Mathlib.Tactic.FieldSimp
import Mathlib.Tactic.Positivity
import Mathlib.Tactic.Ring

namespace LobReplay.Sbe

open Foundation

/-! ## Texts -/

/-- `std::to_string` of an `int64_t`. -/
def intText (n : Int64) : Bytes :=
  if n < 0 then 45 :: decimal n.toInt.natAbs else decimal n.toInt.natAbs

/-- The two branches of `Decimal::to_string`: zeros behind the digits, or a point among them. -/
def placePoint (digits : Bytes) (exp : Int) : Bytes :=
  if 0 ≤ exp then digits ++ List.replicate exp.toNat 48
  else
    let scale := (-exp).toNat
    if scale < digits.length then
      digits.take (digits.length - scale) ++ 46 :: digits.drop (digits.length - scale)
    else [48] ++ 46 :: (List.replicate (scale - digits.length) 48 ++ digits)

/-- `Decimal::to_string`. -/
def Decimal.toString (d : Decimal) : Bytes :=
  let neg := decide (d.mantissa < 0)
  let digits := intText (if neg then -d.mantissa else d.mantissa)
  let result := placePoint digits d.exponent.toInt
  if neg then 45 :: result else result

/-- The number a decimal stands for. -/
def Decimal.value (d : Decimal) : ℚ := d.mantissa.toInt * 10 ^ d.exponent.toInt

/-! ## What a text denotes -/

section

variable {whole fraction digits : Bytes}

theorem digitsValue_append (a b : Bytes) :
    digitsValue (a ++ b) = digitsValue a * 10 ^ b.length + digitsValue b := by
  induction b using List.reverseRecOn with
  | nil => simp [digitsValue]
  | append_singleton b x ih =>
    have hlast : ∀ front : Bytes, digitsValue (front ++ [x])
        = 10 * digitsValue front + (x.toNat - 48) := by
      intro front
      simp [digitsValue]
    rw [← List.append_assoc, hlast, hlast, ih, List.length_append, List.length_singleton, pow_succ]
    ring

end

/-! ## The text of a decimal -/

variable {d : Decimal}

end LobReplay.Sbe
