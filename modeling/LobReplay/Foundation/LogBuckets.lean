/-
  Logarithmic buckets: a value is kept with its leading `h + 1` bits, in units of at least `2 ^ u`.
  `exponent` is the power of two its last bit stands for, `index` numbers the pairs of an exponent
  and a mantissa, and `start` is the smallest value with an index.

  The buckets are a partition of the naturals into intervals, in order.
-/

import Mathlib.Data.Nat.Bitwise

namespace LobReplay.Foundation

namespace LogBuckets

variable {h u v w : Nat} {b : Nat}

/-! ## Exponents -/

/-- The power of two the last bit of a value stands for. -/
def exponent (h u v : Nat) : Nat := max v.log2 (u + h) - h

/-- The smallest value of the bucket of a value. -/
def low (h u v : Nat) : Nat := v / 2 ^ exponent h u v * 2 ^ exponent h u v

theorem le_exponent (h u v : Nat) : u ≤ exponent h u v := by
  unfold exponent
  omega

theorem lt_two_pow (h u v : Nat) : v < 2 ^ (exponent h u v + h + 1) := by
  have hlog : v.log2 + 1 ≤ exponent h u v + h + 1 := by
    unfold exponent
    omega
  exact Nat.lt_of_lt_of_le Nat.lt_log2_self (Nat.pow_le_pow_right (by decide) hlog)

theorem two_pow_le (hlt : u < exponent h u v) : 2 ^ (exponent h u v + h) ≤ v := by
  have hlog : exponent h u v + h = v.log2 := by
    unfold exponent at hlt ⊢
    omega
  have hzero : v ≠ 0 := by
    rintro rfl
    rw [Nat.log2_zero] at hlog
    omega
  rw [hlog]
  exact Nat.log2_self_le hzero

theorem exponent_eq {e : Nat} (hu : u ≤ e) (hlt : v < 2 ^ (e + h + 1))
    (hle : u < e → 2 ^ (e + h) ≤ v) : exponent h u v = e := by
  rcases Nat.lt_or_ge e (exponent h u v) with hgt | hge
  · -- the value would be too large
    have hbelow := two_pow_le (Nat.lt_of_le_of_lt hu hgt)
    have hpow : 2 ^ (e + h + 1) ≤ 2 ^ (exponent h u v + h) :=
      Nat.pow_le_pow_right (by decide) (by omega)
    omega
  rcases Nat.eq_or_lt_of_le hge with heq | hlt'
  · exact heq
  · -- the value would be too small
    have hbelow := hle (Nat.lt_of_le_of_lt (le_exponent h u v) hlt')
    have habove := lt_two_pow h u v
    have hpow : 2 ^ (exponent h u v + h + 1) ≤ 2 ^ (e + h) :=
      Nat.pow_le_pow_right (by decide) (by omega)
    omega

theorem exponent_mono (hle : v ≤ w) : exponent h u v ≤ exponent h u w := by
  by_contra hlt
  have hlow := two_pow_le (Nat.lt_of_le_of_lt (le_exponent h u w) (Nat.not_le.mp hlt))
  have hhigh := lt_two_pow h u w
  have hpow : 2 ^ (exponent h u w + h + 1) ≤ 2 ^ (exponent h u v + h) :=
    Nat.pow_le_pow_right (by decide) (by omega)
  omega

/-- The leading bit of a union is the higher one. -/
theorem log2_or {m n : Nat} (hm : m ≠ 0) : (n ||| m).log2 = max n.log2 m.log2 := by
  have hor : n ||| m ≠ 0 := by
    have := Nat.right_le_or (n := n) (m := m)
    omega
  rw [Nat.log2_eq_iff hor]
  constructor
  · rcases Nat.le_total n.log2 m.log2 with hle | hle
    · rw [Nat.max_eq_right hle]
      exact Nat.le_trans (Nat.log2_self_le hm) Nat.right_le_or
    · rw [Nat.max_eq_left hle]
      rcases Nat.eq_zero_or_pos n with rfl | hpos
      · rw [Nat.zero_or, Nat.log2_zero]
        omega
      · exact Nat.le_trans (Nat.log2_self_le (by omega)) Nat.left_le_or
  · apply Nat.or_lt_two_pow
    · exact Nat.lt_of_lt_of_le Nat.lt_log2_self (Nat.pow_le_pow_right (by decide) (by omega))
    · exact Nat.lt_of_lt_of_le Nat.lt_log2_self (Nat.pow_le_pow_right (by decide) (by omega))

/-! ## Mantissas -/

theorem mantissa_lt (h u v : Nat) : v / 2 ^ exponent h u v < 2 * 2 ^ h := by
  rw [Nat.div_lt_iff_lt_mul (Nat.two_pow_pos _), Nat.mul_comm 2, ← Nat.pow_succ, ← Nat.pow_add]
  have hlt := lt_two_pow h u v
  rwa [show h + 1 + exponent h u v = exponent h u v + h + 1 by omega]

theorem le_mantissa (hlt : u < exponent h u v) : 2 ^ h ≤ v / 2 ^ exponent h u v := by
  rw [Nat.le_div_iff_mul_le (Nat.two_pow_pos _), ← Nat.pow_add, Nat.add_comm]
  exact two_pow_le hlt

theorem low_le (h u v : Nat) : low h u v ≤ v := Nat.div_mul_le_self _ _

theorem lt_low_add (h u v : Nat) : v < low h u v + 2 ^ exponent h u v := by
  have hmod := Nat.mod_lt v (Nat.two_pow_pos (exponent h u v))
  have hsplit := Nat.div_add_mod' v (2 ^ exponent h u v)
  unfold low
  omega

/-- The start of a bucket is in it. -/
theorem exponent_low (h u v : Nat) : exponent h u (low h u v) = exponent h u v := by
  refine exponent_eq (le_exponent h u v) (Nat.lt_of_le_of_lt (low_le h u v) (lt_two_pow h u v)) ?_
  intro hlt
  rw [Nat.add_comm, Nat.pow_add]
  exact Nat.mul_le_mul_right _ (le_mantissa hlt)

/-- **Width.** A bucket is no wider than the unit, or than the value by as much as the leading bits
    tell apart. -/
theorem two_pow_exponent_le {precision : Nat} (hprecision : precision ≤ 2 ^ h)
    (hpos : 0 < precision) : 2 ^ exponent h u v ≤ max (2 ^ u) (v / precision) := by
  rcases Nat.eq_or_lt_of_le (le_exponent h u v) with heq | hlt
  · rw [← heq]
    exact Nat.le_max_left _ _
  · refine Nat.le_trans ?_ (Nat.le_max_right _ _)
    rw [Nat.le_div_iff_mul_le hpos]
    calc 2 ^ exponent h u v * precision
        ≤ 2 ^ exponent h u v * 2 ^ h := Nat.mul_le_mul_left _ hprecision
      _ = 2 ^ (exponent h u v + h) := (Nat.pow_add _ _ _).symm
      _ ≤ v := two_pow_le hlt

/-! ## Indexes -/

/-- The number of a bucket. -/
def index (h u v : Nat) : Nat := (exponent h u v - u) * 2 ^ h + v / 2 ^ exponent h u v

/-- The smallest value with an index. -/
def start (h u i : Nat) : Nat :=
  if i < 2 ^ h then i * 2 ^ u else (i % 2 ^ h + 2 ^ h) * 2 ^ (i / 2 ^ h - 1 + u)

theorem index_low (h u v : Nat) : index h u (low h u v) = index h u v := by
  unfold index
  rw [exponent_low]
  congr 1
  exact Nat.mul_div_cancel _ (Nat.two_pow_pos _)

/-- **Round trip.** -/
theorem start_index (h u v : Nat) : start h u (index h u v) = low h u v := by
  have hpos := Nat.two_pow_pos h
  have hmantissa := mantissa_lt h u v
  unfold start low
  rcases Nat.eq_or_lt_of_le (le_exponent h u v) with heq | hlt
  · have hindex : index h u v = v / 2 ^ exponent h u v := by
      unfold index
      rw [← heq, Nat.sub_self, Nat.zero_mul, Nat.zero_add]
    rw [hindex]
    split
    · rw [← heq]
    · next hhalf =>
      -- the upper half of the first bucket comes behind its lower half
      have hdiv : v / 2 ^ exponent h u v / 2 ^ h = 1 := by
        rw [Nat.div_eq_iff hpos]
        omega
      have hmod := Nat.div_add_mod' (v / 2 ^ exponent h u v) (2 ^ h)
      rw [hdiv, Nat.one_mul] at hmod
      rw [hdiv, Nat.sub_self, Nat.zero_add, Nat.add_comm (_ % _), hmod, ← heq]
  · have hhalf := le_mantissa hlt
    have hindex : index h u v
        = (v / 2 ^ exponent h u v - 2 ^ h) + 2 ^ h * (exponent h u v - u + 1) := by
      unfold index
      rw [Nat.mul_succ, Nat.mul_comm]
      omega
    have hsmall : v / 2 ^ exponent h u v - 2 ^ h < 2 ^ h := by omega
    have hlarge : ¬ index h u v < 2 ^ h := by
      unfold index
      omega
    rw [if_neg hlarge, hindex, Nat.add_mul_mod_self_left, Nat.mod_eq_of_lt hsmall,
      Nat.add_mul_div_left _ _ hpos, Nat.div_eq_of_lt hsmall, Nat.sub_add_cancel hhalf,
      show 0 + (exponent h u v - u + 1) - 1 + u = exponent h u v by omega]

theorem index_mono (hle : v ≤ w) : index h u v ≤ index h u w := by
  rcases Nat.eq_or_lt_of_le (exponent_mono (h := h) (u := u) hle) with heq | hlt
  · unfold index
    rw [heq]
    exact Nat.add_le_add_left (Nat.div_le_div_right hle) _
  · -- the mantissa of the larger value makes up for the smaller one's
    have hmantissa := mantissa_lt h u v
    have hhalf := le_mantissa (Nat.lt_of_le_of_lt (le_exponent h u v) hlt)
    have hbucket : (exponent h u v - u + 1) * 2 ^ h ≤ (exponent h u w - u) * 2 ^ h :=
      Nat.mul_le_mul_right _ (by have := le_exponent h u v; omega)
    rw [Nat.succ_mul] at hbucket
    unfold index
    omega

/-- **Partition.** Values share a bucket iff they share its start. -/
theorem index_eq_iff : index h u v = index h u w ↔ low h u v = low h u w := by
  constructor
  · intro heq
    rw [← start_index, ← start_index, heq]
  · intro heq
    rw [← index_low, heq, index_low]

/-- The values below a power of two have few exponents. -/
theorem exponent_le (hlt : v < 2 ^ (u + h + 1 + b)) : exponent h u v ≤ u + b := by
  by_contra hgt
  have hlow := two_pow_le (show u < exponent h u v by omega)
  have hpow : 2 ^ (u + h + 1 + b) ≤ 2 ^ (exponent h u v + h) :=
    Nat.pow_le_pow_right (by decide) (by omega)
  omega

theorem index_lt (hlt : v < 2 ^ (u + h + 1 + b)) : index h u v < (b + 2) * 2 ^ h := by
  have hexponent : exponent h u v - u ≤ b := by
    have := exponent_le hlt
    omega
  have hmantissa := mantissa_lt h u v
  have hbucket : (exponent h u v - u) * 2 ^ h ≤ b * 2 ^ h := Nat.mul_le_mul_right _ hexponent
  rw [Nat.add_mul]
  unfold index
  omega

theorem start_lt {i : Nat} (hlt : i < (b + 2) * 2 ^ h) : start h u i < 2 ^ (u + h + 1 + b) := by
  have hpos := Nat.two_pow_pos h
  unfold start
  split
  · next hfirst =>
    calc i * 2 ^ u < 2 ^ h * 2 ^ u := Nat.mul_lt_mul_of_pos_right hfirst (Nat.two_pow_pos u)
      _ = 2 ^ (h + u) := (Nat.pow_add _ _ _).symm
      _ ≤ 2 ^ (u + h + 1 + b) := Nat.pow_le_pow_right (by decide) (by omega)
  · have hbucket : i / 2 ^ h < b + 2 := (Nat.div_lt_iff_lt_mul hpos).mpr hlt
    have hmantissa : i % 2 ^ h + 2 ^ h < 2 ^ (h + 1) := by
      have := Nat.mod_lt i hpos
      rw [Nat.pow_succ]
      omega
    calc (i % 2 ^ h + 2 ^ h) * 2 ^ (i / 2 ^ h - 1 + u)
        < 2 ^ (h + 1) * 2 ^ (i / 2 ^ h - 1 + u) :=
          Nat.mul_lt_mul_of_pos_right hmantissa (Nat.two_pow_pos _)
      _ = 2 ^ (h + 1 + (i / 2 ^ h - 1 + u)) := (Nat.pow_add _ _ _).symm
      _ ≤ 2 ^ (u + h + 1 + b) := Nat.pow_le_pow_right (by decide) (by omega)

end LogBuckets

end LobReplay.Foundation
