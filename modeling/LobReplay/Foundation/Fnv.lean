/-
  The 32-bit FNV-1a hash of a byte string. Every round is injective, in the hash before it and in
  the byte it takes: the prime is odd, so it has an inverse modulo 2^32.

  Two byte strings that differ in one byte have different hashes (`fnv1a32_ne_of_byte_ne`).
-/

import LobReplay.Foundation.Bytes

namespace LobReplay.Foundation

/-- The round of the loop: `h ^= byte; h *= 16777619`. -/
def fnvRound (h : UInt32) (byte : UInt8) : UInt32 := (h ^^^ byte.toUInt32) * 16777619

def fnv1a32 (bytes : Bytes) : UInt32 := bytes.foldl fnvRound 2166136261

variable {x y h h' : UInt32} {byte byte' : UInt8}

theorem eq_of_mul_prime_eq (h : x * 16777619 = y * 16777619) : x = y := by
  have hone : (16777619 : UInt32) * 899433627 = 1 := by decide
  calc x = x * (16777619 * 899433627) := by rw [hone, UInt32.mul_one]
    _ = y * (16777619 * 899433627) := by rw [← UInt32.mul_assoc, h, UInt32.mul_assoc]
    _ = y := by rw [hone, UInt32.mul_one]

theorem eq_of_xor_eq {z : UInt32} (h : x ^^^ y = x ^^^ z) : y = z := by
  calc y = x ^^^ (x ^^^ y) := by rw [← UInt32.xor_assoc, UInt32.xor_self, UInt32.zero_xor]
    _ = x ^^^ (x ^^^ z) := by rw [h]
    _ = z := by rw [← UInt32.xor_assoc, UInt32.xor_self, UInt32.zero_xor]

theorem fnvRound_injective_hash (byte : UInt8) (heq : fnvRound h byte = fnvRound h' byte) :
    h = h' := by
  have hxor := eq_of_mul_prime_eq heq
  rw [UInt32.xor_comm h, UInt32.xor_comm h'] at hxor
  exact eq_of_xor_eq hxor

theorem fnvRound_injective_byte (h : UInt32) (heq : fnvRound h byte = fnvRound h byte') :
    byte = byte' :=
  UInt8.toUInt32_inj.mp (eq_of_xor_eq (eq_of_mul_prime_eq heq))

theorem foldl_fnvRound_injective (bytes : Bytes)
    (heq : bytes.foldl fnvRound h = bytes.foldl fnvRound h') : h = h' := by
  induction bytes generalizing h h' with
  | nil => exact heq
  | cons byte bytes ih => exact fnvRound_injective_hash byte (ih heq)

/-- One byte makes a difference. -/
theorem fnv1a32_ne_of_byte_ne (before after : Bytes) (hne : byte ≠ byte') :
    fnv1a32 (before ++ byte :: after) ≠ fnv1a32 (before ++ byte' :: after) := by
  intro heq
  unfold fnv1a32 at heq
  rw [List.foldl_append, List.foldl_append, List.foldl_cons, List.foldl_cons] at heq
  exact hne (fnvRound_injective_byte _ (foldl_fnvRound_injective after heq))

end LobReplay.Foundation
