/-
  The bytes of hex texts. A lowercase hex text of 32 bytes is what `hex` writes of the bytes it
  denotes, and what `hex` writes is a lowercase hex text: the identity log stores digests as bytes
  and the raw log checks them as texts.
-/

import LobReplay.Common

namespace LobReplay

open Foundation

/-- A text is determined by its bytes. -/
theorem asBytes_injective {a b : String} (h : asBytes a = asBytes b) : a = b := by
  apply String.toByteArray_inj.mp
  apply ByteArray.ext
  exact Array.toList_inj.mp h

theorem asBytes_ofList (cs : List Char) :
    asBytes (String.ofList cs) = cs.flatMap String.utf8EncodeChar := by
  simp [asBytes, String.toUTF8, List.utf8Encode]

def hexByte (n : Nat) : UInt8 := if n < 10 then UInt8.ofNat (48 + n) else UInt8.ofNat (87 + n)

theorem utf8EncodeChar_hexDigit {n : Nat} (h : n < 16) :
    String.utf8EncodeChar (hexDigit n) = [hexByte n] := by
  interval_cases n <;> rfl

def hexPair (b : UInt8) : Bytes := [hexByte (b.toNat / 16), hexByte (b.toNat % 16)]

theorem asBytes_hex (bs : Bytes) : asBytes (hex bs) = bs.flatMap hexPair := by
  rw [hex, asBytes_ofList]
  induction bs with
  | nil => rfl
  | cons b rest ih =>
    have hb : b.toNat < 256 := b.toNat_lt
    rw [hexChars, List.flatMap_cons, List.flatMap_cons, List.flatMap_cons, ih,
      utf8EncodeChar_hexDigit (by omega), utf8EncodeChar_hexDigit (by omega)]
    rfl

theorem asBytes_hex_length (bs : Bytes) : (asBytes (hex bs)).length = 2 * bs.length := by
  rw [asBytes_hex]
  induction bs with
  | nil => rfl
  | cons b rest ih =>
    rw [List.flatMap_cons, List.length_append, ih, List.length_cons]
    show 2 + _ = _
    omega

/-- `u8::is_ascii_digit` or `a` to `f`. -/
def isLowerHexdigit (b : UInt8) : Bool := (48 ≤ b && b ≤ 57) || (97 ≤ b && b ≤ 102)

theorem isLowerHexdigit_hexByte {n : Nat} (h : n < 16) : isLowerHexdigit (hexByte n) = true := by
  interval_cases n <;> rfl

/-- What `hex` writes is a lowercase hex text. -/
theorem asBytes_hex_all (bs : Bytes) : (asBytes (hex bs)).all isLowerHexdigit = true := by
  rw [asBytes_hex, List.all_flatMap, List.all_eq_true]
  intro b _
  have hb : b.toNat < 256 := b.toNat_lt
  have hhigh := isLowerHexdigit_hexByte (show b.toNat / 16 < 16 by omega)
  have hlow := isLowerHexdigit_hexByte (show b.toNat % 16 < 16 by omega)
  simp [hexPair, hhigh, hlow]

theorem isLowerHex64_hex (digest : FixedBytes 32) : isLowerHex64 (hex digest.bytes) = true := by
  have hall := asBytes_hex_all digest.bytes
  have hlength := asBytes_hex_length digest.bytes
  rw [digest.length_eq] at hlength
  unfold isLowerHex64
  rw [hlength]
  exact hall

end LobReplay
