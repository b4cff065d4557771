/-
  Little-endian machine words in byte strings: the big-endian words of `LobReplay.Foundation.Words`
  with their bytes the other way round, and inverse whatever follows.
-/

import LobReplay.Foundation.Words

namespace LobReplay.Foundation.LittleEndian

def wr16 (v : UInt16) : Bytes := (Foundation.wr16 v).reverse

def rd16 (p : Bytes) : UInt16 := (byteAt p 0).toUInt16 ||| (byteAt p 1).toUInt16 <<< 8

def wr32 (v : UInt32) : Bytes := (Foundation.wr32 v).reverse

def rd32 (p : Bytes) : UInt32 :=
  (byteAt p 0).toUInt32 ||| (byteAt p 1).toUInt32 <<< 8 ||| (byteAt p 2).toUInt32 <<< 16 |||
    (byteAt p 3).toUInt32 <<< 24

def wr64 (v : UInt64) : Bytes := (Foundation.wr64 v).reverse

def rd64 (p : Bytes) : UInt64 := (rd32 p).toUInt64 ||| (rd32 (p.drop 4)).toUInt64 <<< 32

@[simp] theorem wr16_length (v : UInt16) : (wr16 v).length = 2 := rfl

@[simp] theorem wr32_length (v : UInt32) : (wr32 v).length = 4 := rfl

/-- A word is the big-endian word of its bytes in reverse. -/
theorem rd16_eq (p : Bytes) : rd16 p = Foundation.rd16 [byteAt p 1, byteAt p 0] :=
  UInt16.or_comm _ _

theorem rd32_eq (p : Bytes) :
    rd32 p = Foundation.rd32 [byteAt p 3, byteAt p 2, byteAt p 1, byteAt p 0] := by
  show _ = (byteAt p 3).toUInt32 <<< 24 ||| (byteAt p 2).toUInt32 <<< 16 |||
    (byteAt p 1).toUInt32 <<< 8 ||| (byteAt p 0).toUInt32
  rw [rd32]
  generalize (byteAt p 3).toUInt32 <<< 24 = d
  generalize (byteAt p 2).toUInt32 <<< 16 = c
  generalize (byteAt p 1).toUInt32 <<< 8 = b
  generalize (byteAt p 0).toUInt32 = a
  rw [UInt32.or_comm _ d, UInt32.or_comm _ c, UInt32.or_comm a b, ← UInt32.or_assoc,
    ← UInt32.or_assoc]

theorem rd16_wr16 (v : UInt16) (rest : Bytes) : rd16 (wr16 v ++ rest) = v := by
  rw [rd16_eq]
  exact Foundation.rd16_wr16 v []

theorem rd32_wr32 (v : UInt32) (rest : Bytes) : rd32 (wr32 v ++ rest) = v := by
  rw [rd32_eq]
  exact Foundation.rd32_wr32 v []

theorem rd64_wr64 (v : UInt64) (rest : Bytes) : rd64 (wr64 v ++ rest) = v := by
  -- the low half comes first
  have hbytes : wr64 v = wr32 (v &&& 0xFFFFFFFF).toUInt32 ++ wr32 (v >>> 32).toUInt32 := rfl
  have hdrop : (wr64 v ++ rest).drop 4 = wr32 (v >>> 32).toUInt32 ++ rest := rfl
  rw [rd64, hdrop, hbytes, List.append_assoc, rd32_wr32, rd32_wr32, UInt64.or_comm]
  have hbig := Foundation.rd64_wr64 v []
  have hbigDrop : (Foundation.wr64 v ++ []).drop 4
      = Foundation.wr32 (v &&& 0xFFFFFFFF).toUInt32 ++ [] := rfl
  rw [Foundation.rd64, hbigDrop, Foundation.wr64, List.append_assoc, Foundation.rd32_wr32,
    Foundation.rd32_wr32] at hbig
  exact hbig

end LobReplay.Foundation.LittleEndian
