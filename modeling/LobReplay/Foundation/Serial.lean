/-
  32-bit sequence numbers that wrap around. Two numbers are compared by the sign of their distance
  as an `int32_t`, which is an order inside any window of fewer than `2 ^ 31` consecutive numbers:
  `offset base` counts from the start of the window, and `seqAfter_iff` turns a comparison into one
  of offsets.

  `Between` is the range of numbers from `first` up to `last`, counted upwards with wraparound.
-/

import Mathlib.Algebra.Group.Nat.Defs
import Mathlib.Data.Nat.Basic

namespace LobReplay.Foundation

/-- `(int32_t)(a - b)`. -/
def seqDistance (a b : UInt32) : Int := (a - b).toBitVec.toInt

/-- `a` comes after `b`. -/
def seqAfter (a b : UInt32) : Prop := 0 < seqDistance a b

instance (a b : UInt32) : Decidable (seqAfter a b) := inferInstanceAs (Decidable (0 < _))

/-- The place of a number in the window that starts at `base`. -/
def offset (base s : UInt32) : Nat := (s - base).toNat

/-- The numbers from `first` up to `last`, with wraparound. -/
def Between (first last s : UInt32) : Prop := (s - first).toNat ≤ (last - first).toNat

instance (first last s : UInt32) : Decidable (Between first last s) :=
  inferInstanceAs (Decidable (_ ≤ _))

section

variable {base a b s first last : UInt32}

theorem toNat_sub_cases (a b : UInt32) :
    (a - b).toNat = a.toNat - b.toNat ∧ b.toNat ≤ a.toNat ∨
      (a - b).toNat = a.toNat + 2 ^ 32 - b.toNat ∧ a.toNat < b.toNat := by
  have ha := a.toNat_lt
  have hb := b.toNat_lt
  rw [UInt32.toNat_sub]
  omega

theorem offset_lt (base s : UInt32) : offset base s < 2 ^ 32 := (s - base).toNat_lt

theorem offset_injective (h : offset base a = offset base b) : a = b := by
  have ha := a.toNat_lt
  have hb := b.toNat_lt
  have hbase := base.toNat_lt
  rw [offset, offset] at h
  apply UInt32.toNat_inj.mp
  rcases toNat_sub_cases a base with h₁ | h₁ <;> rcases toNat_sub_cases b base with h₂ | h₂ <;> omega

/-- Counting on from a number stays in the window as long as the offsets do. -/
theorem offset_add {i : Nat} (h : offset base s + i < 2 ^ 32) :
    offset base (s + UInt32.ofNat i) = offset base s + i := by
  have hs := s.toNat_lt
  have hbase := base.toNat_lt
  have hsum : (s + UInt32.ofNat i).toNat = (s.toNat + i) % 2 ^ 32 := by
    rw [UInt32.toNat_add, UInt32.toNat_ofNat']
    omega
  rw [offset] at h ⊢
  rw [offset]
  rcases toNat_sub_cases (s + UInt32.ofNat i) base with h₁ | h₁ <;>
    rcases toNat_sub_cases s base with h₂ | h₂ <;> omega

theorem offset_succ (h : offset base s + 1 < 2 ^ 32) :
    offset base (s + 1) = offset base s + 1 := offset_add h

theorem offset_pred (h : 0 < offset base s) : offset base (s - 1) + 1 = offset base s := by
  have hlt := offset_lt base s
  have hsub : s - 1 + 1 = s := UInt32.sub_add_cancel s 1
  have hback : offset base (s - 1 + 1) = offset base s := by rw [hsub]
  by_cases hwrap : offset base (s - 1) + 1 < 2 ^ 32
  · rw [← offset_succ hwrap, hback]
  · -- the number before the first one of the window would be the last one
    have hlast : offset base (s - 1) = 2 ^ 32 - 1 := by
      have := offset_lt base (s - 1)
      omega
    rw [offset] at hlast h
    have hs := s.toNat_lt
    have hbase := base.toNat_lt
    have hpred := UInt32.toNat_sub s 1
    have hone : (1 : UInt32).toNat = 1 := rfl
    rw [hone] at hpred
    rcases toNat_sub_cases (s - 1) base with h₁ | h₁ <;>
      rcases toNat_sub_cases s base with h₂ | h₂ <;> omega

/-- **The comparison inside a window.** -/
theorem seqAfter_iff (base : UInt32) (ha : offset base a < 2 ^ 31) (hb : offset base b < 2 ^ 31) :
    seqAfter a b ↔ offset base b < offset base a := by
  have hcond := BitVec.toInt_eq_toNat_cond (a - b).toBitVec
  have hnat : (a - b).toBitVec.toNat = (a - b).toNat := rfl
  have hta := a.toNat_lt
  have htb := b.toNat_lt
  have hbase := base.toNat_lt
  rw [seqAfter, seqDistance, hcond, hnat]
  rw [offset] at ha hb
  rw [offset, offset]
  rcases toNat_sub_cases a base with h₁ | h₁ <;> rcases toNat_sub_cases b base with h₂ | h₂ <;>
    rcases toNat_sub_cases a b with h₃ | h₃ <;> split <;> omega

/-- A range inside a window is a range of offsets. -/
theorem between_iff (h : offset base first ≤ offset base last) :
    Between first last s ↔ offset base first ≤ offset base s ∧ offset base s ≤ offset base last := by
  have hs := s.toNat_lt
  have hfirst := first.toNat_lt
  have hlast := last.toNat_lt
  have hbase := base.toNat_lt
  rw [offset, offset] at h
  rw [Between, offset, offset, offset]
  rcases toNat_sub_cases s first with h₁ | h₁ <;> rcases toNat_sub_cases last first with h₂ | h₂ <;>
    rcases toNat_sub_cases s base with h₃ | h₃ <;> rcases toNat_sub_cases first base with h₄ | h₄ <;>
    rcases toNat_sub_cases last base with h₅ | h₅ <;> omega

/-- A range that ends before a number does not hold it, unless it starts there. -/
theorem not_between_pred (h : s ≠ first) : ¬ Between first (s - 1) s := by
  have hoffset : 0 < offset first s := by
    rw [Nat.pos_iff_ne_zero]
    intro hzero
    apply h
    refine @offset_injective first s first ?_
    rw [hzero, offset, UInt32.sub_self]
    rfl
  have hpred := offset_pred hoffset
  rw [offset, offset] at hpred
  rw [Between]
  omega

/-- Without wraparound the range is the one of the numbers themselves. -/
theorem between_iff_le (h : first ≤ last) : Between first last s ↔ first ≤ s ∧ s ≤ last := by
  have hs := s.toNat_lt
  have hfirst := first.toNat_lt
  have hlast := last.toNat_lt
  rw [UInt32.le_iff_toNat_le] at h
  rw [UInt32.le_iff_toNat_le, UInt32.le_iff_toNat_le, Between]
  rcases toNat_sub_cases s first with h₁ | h₁ <;> rcases toNat_sub_cases last first with h₂ | h₂ <;>
    omega

end

end LobReplay.Foundation
