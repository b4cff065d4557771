/-
  Big-endian machine words in byte strings. `wrN` writes a word of N bits, `rdN` reads one at the
  front of a byte string, and each pair is inverse both ways: what was written is read back whatever
  follows, and what was read is written as it stood.
-/

import LobReplay.Foundation.Bytes

namespace LobReplay.Foundation

/-- Byte `i` of what a pointer points at; the readers below are only used in bounds. -/
def byteAt (p : Bytes) (i : Nat) : UInt8 := p.getD i 0

def wr16 (v : UInt16) : Bytes := [(v >>> 8).toUInt8, (v &&& 0xFF).toUInt8]

def rd16 (p : Bytes) : UInt16 := (byteAt p 0).toUInt16 <<< 8 ||| (byteAt p 1).toUInt16

def wr32 (v : UInt32) : Bytes :=
  [(v >>> 24).toUInt8, ((v >>> 16) &&& 0xFF).toUInt8, ((v >>> 8) &&& 0xFF).toUInt8,
    (v &&& 0xFF).toUInt8]

def rd32 (p : Bytes) : UInt32 :=
  (byteAt p 0).toUInt32 <<< 24 ||| (byteAt p 1).toUInt32 <<< 16 |||
    (byteAt p 2).toUInt32 <<< 8 ||| (byteAt p 3).toUInt32

def wr64 (v : UInt64) : Bytes := wr32 (v >>> 32).toUInt32 ++ wr32 (v &&& 0xFFFFFFFF).toUInt32

def rd64 (p : Bytes) : UInt64 := (rd32 p).toUInt64 <<< 32 ||| (rd32 (p.drop 4)).toUInt64

/-- The six bytes of a 48-bit word held in 64 bits. -/
def wr48 (v : UInt64) : Bytes := wr16 (v >>> 32).toUInt16 ++ wr32 (v &&& 0xFFFFFFFF).toUInt32

def rd48 (p : Bytes) : UInt64 :=
  (byteAt p 0).toUInt64 <<< 40 ||| (byteAt p 1).toUInt64 <<< 32 |||
    (byteAt p 2).toUInt64 <<< 24 ||| (byteAt p 3).toUInt64 <<< 16 |||
    (byteAt p 4).toUInt64 <<< 8 ||| (byteAt p 5).toUInt64

@[simp] theorem wr16_length (v : UInt16) : (wr16 v).length = 2 := rfl

@[simp] theorem wr32_length (v : UInt32) : (wr32 v).length = 4 := rfl

@[simp] theorem wr64_length (v : UInt64) : (wr64 v).length = 8 := rfl

/-! ## Round trips

A word is compared with its parts as a natural number: the bits of a shifted part
and those below it do not overlap, so `|||` is a sum. -/

/-- Joining a multiple of `2 ^ k` with a part below `2 ^ k`. -/
theorem or_eq_add {a b k : Nat} (ha : 2 ^ k ∣ a) (hb : b < 2 ^ k) : a ||| b = a + b := by
  obtain ⟨c, rfl⟩ := ha
  rw [Nat.two_pow_add_eq_or_of_lt hb]

theorem rd16_wr16 (v : UInt16) (rest : Bytes) : rd16 (wr16 v ++ rest) = v := by
  apply UInt16.toNat_inj.mp
  have hv := v.toNat_lt
  show ((v >>> 8).toUInt8.toUInt16 <<< 8 ||| (v &&& 0xFF).toUInt8.toUInt16).toNat = v.toNat
  simp only [UInt16.toNat_or, UInt16.toNat_shiftLeft, UInt8.toNat_toUInt16, UInt16.toNat_toUInt8,
    UInt16.toNat_shiftRight, UInt16.toNat_and, UInt16.reduceToNat, Nat.shiftRight_eq_div_pow,
    Nat.shiftLeft_eq, Nat.and_two_pow_sub_one_eq_mod _ 8, Nat.reduceMod]
  rw [@or_eq_add _ _ 8 (by omega) (by omega)]
  omega

/-- The four bytes of a word, most significant first. -/
theorem or_bytes {a b c d : Nat} (ha : a < 256) (hb : b < 256) (hc : c < 256) (hd : d < 256) :
    a * 2 ^ 24 % 2 ^ 32 ||| b * 2 ^ 16 % 2 ^ 32 ||| c * 2 ^ 8 % 2 ^ 32 ||| d
      = a * 2 ^ 24 + b * 2 ^ 16 + c * 2 ^ 8 + d := by
  rw [Nat.mod_eq_of_lt (by omega : a * 2 ^ 24 < 2 ^ 32),
    Nat.mod_eq_of_lt (by omega : b * 2 ^ 16 < 2 ^ 32),
    Nat.mod_eq_of_lt (by omega : c * 2 ^ 8 < 2 ^ 32)]
  rw [@or_eq_add (a * 2 ^ 24) (b * 2 ^ 16) 24 (by omega) (by omega)]
  rw [@or_eq_add (a * 2 ^ 24 + b * 2 ^ 16) (c * 2 ^ 8) 16 (by omega) (by omega)]
  exact @or_eq_add _ d 8 (by omega) (by omega)

theorem rd32_wr32 (v : UInt32) (rest : Bytes) : rd32 (wr32 v ++ rest) = v := by
  apply UInt32.toNat_inj.mp
  have hv := v.toNat_lt
  show ((v >>> 24).toUInt8.toUInt32 <<< 24 ||| ((v >>> 16) &&& 0xFF).toUInt8.toUInt32 <<< 16 |||
    ((v >>> 8) &&& 0xFF).toUInt8.toUInt32 <<< 8 ||| (v &&& 0xFF).toUInt8.toUInt32).toNat = v.toNat
  simp only [UInt32.toNat_or, UInt32.toNat_shiftLeft, UInt8.toNat_toUInt32, UInt32.toNat_toUInt8,
    UInt32.toNat_shiftRight, UInt32.toNat_and, UInt32.reduceToNat, Nat.shiftRight_eq_div_pow,
    Nat.shiftLeft_eq, Nat.and_two_pow_sub_one_eq_mod _ 8, Nat.reduceMod]
  rw [or_bytes (by omega) (by omega) (by omega) (by omega)]
  omega

theorem rd64_wr64 (v : UInt64) (rest : Bytes) : rd64 (wr64 v ++ rest) = v := by
  have hdrop : (wr64 v ++ rest).drop 4 = wr32 (v &&& 0xFFFFFFFF).toUInt32 ++ rest := rfl
  rw [rd64, hdrop, wr64, List.append_assoc, rd32_wr32, rd32_wr32]
  apply UInt64.toNat_inj.mp
  have hv := v.toNat_lt
  simp only [UInt64.toNat_or, UInt64.toNat_shiftLeft, UInt32.toNat_toUInt64, UInt64.toNat_toUInt32,
    UInt64.toNat_shiftRight, UInt64.toNat_and, UInt64.reduceToNat, Nat.shiftRight_eq_div_pow,
    Nat.shiftLeft_eq, Nat.and_two_pow_sub_one_eq_mod _ 32, Nat.reduceMod]
  rw [@or_eq_add _ _ 32 (by omega) (by omega)]
  omega

/-! ## Reading, then writing

The words of a byte string determine the bytes they were read from. -/

theorem rd16_toNat (p : Bytes) :
    (rd16 p).toNat = (byteAt p 0).toNat * 2 ^ 8 + (byteAt p 1).toNat := by
  have h0 := (byteAt p 0).toNat_lt
  have h1 := (byteAt p 1).toNat_lt
  simp only [rd16, UInt16.toNat_or, UInt16.toNat_shiftLeft, UInt8.toNat_toUInt16,
    UInt16.reduceToNat, Nat.shiftLeft_eq, Nat.reduceMod]
  rw [@or_eq_add _ _ 8 (by omega) (by omega)]
  omega

theorem rd32_toNat (p : Bytes) :
    (rd32 p).toNat = (byteAt p 0).toNat * 2 ^ 24 + (byteAt p 1).toNat * 2 ^ 16
      + (byteAt p 2).toNat * 2 ^ 8 + (byteAt p 3).toNat := by
  simp only [rd32, UInt32.toNat_or, UInt32.toNat_shiftLeft, UInt8.toNat_toUInt32,
    UInt32.reduceToNat, Nat.shiftLeft_eq, Nat.reduceMod]
  exact or_bytes (byteAt p 0).toNat_lt (byteAt p 1).toNat_lt (byteAt p 2).toNat_lt
    (byteAt p 3).toNat_lt

theorem rd64_toNat (p : Bytes) :
    (rd64 p).toNat = (rd32 p).toNat * 2 ^ 32 + (rd32 (p.drop 4)).toNat := by
  have h0 := (rd32 p).toNat_lt
  have h1 := (rd32 (p.drop 4)).toNat_lt
  simp only [rd64, UInt64.toNat_or, UInt64.toNat_shiftLeft, UInt32.toNat_toUInt64,
    UInt64.reduceToNat, Nat.shiftLeft_eq, Nat.reduceMod]
  rw [@or_eq_add _ _ 32 (by omega) (by omega)]
  omega

theorem byteAt_drop (p : Bytes) (k i : Nat) : byteAt (p.drop k) i = byteAt p (k + i) := by
  simp only [byteAt, List.getD_eq_getElem?_getD, List.getElem?_drop]

theorem rd48_toNat (p : Bytes) :
    (rd48 p).toNat = (rd16 p).toNat * 2 ^ 32 + (rd32 (p.drop 2)).toNat := by
  rw [rd16_toNat, rd32_toNat]
  simp only [byteAt_drop, Nat.reduceAdd]
  have h0 := (byteAt p 0).toNat_lt
  have h1 := (byteAt p 1).toNat_lt
  have h2 := (byteAt p 2).toNat_lt
  have h3 := (byteAt p 3).toNat_lt
  have h4 := (byteAt p 4).toNat_lt
  have h5 := (byteAt p 5).toNat_lt
  simp only [rd48, UInt64.toNat_or, UInt64.toNat_shiftLeft, UInt8.toNat_toUInt64,
    UInt64.reduceToNat, Nat.shiftLeft_eq, Nat.reduceMod]
  rw [@or_eq_add _ (_ * 2 ^ 32 % _) 40 (by omega) (by omega)]
  rw [@or_eq_add _ (_ * 2 ^ 24 % _) 32 (by omega) (by omega)]
  rw [@or_eq_add _ (_ * 2 ^ 16 % _) 24 (by omega) (by omega)]
  rw [@or_eq_add _ (_ * 2 ^ 8 % _) 16 (by omega) (by omega)]
  rw [@or_eq_add _ _ 8 (by omega) (by omega)]
  omega

variable {p : Bytes}

/-- A byte string at least `n` long is its first byte and one at least `n - 1` long. -/
theorem take_succ_of_le {n : Nat} (h : n + 1 ≤ p.length) :
    p.take (n + 1) = byteAt p 0 :: (p.drop 1).take n := by
  cases p with
  | nil => cases h
  | cons b rest => rfl

theorem wr16_rd16 (h : 2 ≤ p.length) : wr16 (rd16 p) = p.take 2 := by
  rw [take_succ_of_le h, take_succ_of_le (by rw [List.length_drop]; omega), List.take_zero, wr16]
  simp only [byteAt_drop, Nat.reduceAdd]
  have h0 := (byteAt p 0).toNat_lt
  have h1 := (byteAt p 1).toNat_lt
  congr 2
  · apply UInt8.toNat_inj.mp
    simp only [UInt16.toNat_toUInt8, UInt16.toNat_shiftRight, UInt16.reduceToNat, Nat.reduceMod,
      Nat.shiftRight_eq_div_pow, rd16_toNat]
    omega
  · apply UInt8.toNat_inj.mp
    simp only [UInt16.toNat_toUInt8, UInt16.toNat_and, UInt16.reduceToNat,
      Nat.and_two_pow_sub_one_eq_mod _ 8, rd16_toNat]
    omega

theorem wr32_rd32 (h : 4 ≤ p.length) : wr32 (rd32 p) = p.take 4 := by
  rw [take_succ_of_le h, take_succ_of_le (by rw [List.length_drop]; omega), List.drop_drop,
    take_succ_of_le (by rw [List.length_drop]; omega), List.drop_drop,
    take_succ_of_le (by rw [List.length_drop]; omega), List.take_zero, wr32]
  simp only [byteAt_drop, Nat.reduceAdd]
  have h0 := (byteAt p 0).toNat_lt
  have h1 := (byteAt p 1).toNat_lt
  have h2 := (byteAt p 2).toNat_lt
  have h3 := (byteAt p 3).toNat_lt
  congr 4 <;> apply UInt8.toNat_inj.mp <;>
    simp only [UInt32.toNat_toUInt8, UInt32.toNat_shiftRight, UInt32.reduceToNat, Nat.reduceMod,
      UInt32.toNat_and, Nat.and_two_pow_sub_one_eq_mod _ 8, Nat.shiftRight_eq_div_pow, rd32_toNat] <;>
    omega

/-- The low half of a word. -/
theorem low_toUInt32 (v : UInt64) : (v &&& 0xFFFFFFFF).toUInt32.toNat = v.toNat % 2 ^ 32 := by
  simp only [UInt64.toNat_toUInt32, UInt64.toNat_and, UInt64.reduceToNat,
    Nat.and_two_pow_sub_one_eq_mod _ 32, Nat.mod_mod]

theorem wr64_rd64 (h : 8 ≤ p.length) : wr64 (rd64 p) = p.take 8 := by
  have h0 := (rd32 p).toNat_lt
  have h1 := (rd32 (p.drop 4)).toNat_lt
  have hhigh : (rd64 p >>> 32).toUInt32 = rd32 p := by
    apply UInt32.toNat_inj.mp
    simp only [UInt64.toNat_toUInt32, UInt64.toNat_shiftRight, UInt64.reduceToNat, Nat.reduceMod,
      Nat.shiftRight_eq_div_pow, rd64_toNat]
    omega
  have hlow : (rd64 p &&& 0xFFFFFFFF).toUInt32 = rd32 (p.drop 4) := by
    apply UInt32.toNat_inj.mp
    rw [low_toUInt32, rd64_toNat]
    omega
  rw [wr64, hhigh, hlow, wr32_rd32 (by omega), wr32_rd32 (by rw [List.length_drop]; omega),
    ← List.take_add]

theorem wr48_rd48 (h : 6 ≤ p.length) : wr48 (rd48 p) = p.take 6 := by
  have h0 := (rd16 p).toNat_lt
  have h1 := (rd32 (p.drop 2)).toNat_lt
  have hhigh : (rd48 p >>> 32).toUInt16 = rd16 p := by
    apply UInt16.toNat_inj.mp
    simp only [UInt64.toNat_toUInt16, UInt64.toNat_shiftRight, UInt64.reduceToNat, Nat.reduceMod,
      Nat.shiftRight_eq_div_pow, rd48_toNat]
    omega
  have hlow : (rd48 p &&& 0xFFFFFFFF).toUInt32 = rd32 (p.drop 2) := by
    apply UInt32.toNat_inj.mp
    rw [low_toUInt32, rd48_toNat]
    omega
  rw [wr48, hhigh, hlow, wr16_rd16 (by omega), wr32_rd32 (by rw [List.length_drop]; omega),
    ← List.take_add]

/-! ## Layouts -/

/-- The offset after a field of length `n`. -/
theorem drop_next {data field rest : Bytes} {k n : Nat} (h : data.drop k = field ++ rest)
    (hn : field.length = n) : data.drop (k + n) = rest := by
  rw [← List.drop_drop, h, List.drop_left' hn]

theorem byteAt_of_drop {data rest : Bytes} {k : Nat} {b : UInt8} (h : data.drop k = b :: rest) :
    byteAt data k = b := by
  rw [byteAt, List.getD_eq_getElem?_getD, ← List.head?_drop, h]
  rfl

end LobReplay.Foundation
