/-
  Standard base64 with canonical padding: three bytes become four digits, and the decoder accepts
  exactly one text for each byte string.
-/

import LobReplay.Foundation.Bytes

namespace LobReplay.Foundation.Base64

/-- The digit of a value below 64. -/
def digit (n : Nat) : Char :=
  if n < 26 then Char.ofNat (65 + n)
  else if n < 52 then Char.ofNat (71 + n)
  else if n < 62 then Char.ofNat (n - 4)
  else if n = 62 then '+'
  else '/'

def value (c : Char) : Option Nat :=
  if 65 ≤ c.toNat ∧ c.toNat ≤ 90 then some (c.toNat - 65)
  else if 97 ≤ c.toNat ∧ c.toNat ≤ 122 then some (c.toNat - 71)
  else if 48 ≤ c.toNat ∧ c.toNat ≤ 57 then some (c.toNat + 4)
  else if c = '+' then some 62
  else if c = '/' then some 63
  else none

/-- The digits of a byte string. -/
def encodeChars : Bytes → List Char
  | [] => []
  | [a] => [digit (a.toNat / 4), digit (a.toNat % 4 * 16), '=', '=']
  | [a, b] =>
    [digit (a.toNat / 4), digit (a.toNat % 4 * 16 + b.toNat / 16), digit (b.toNat % 16 * 4), '=']
  | a :: b :: c :: rest =>
    digit (a.toNat / 4) :: digit (a.toNat % 4 * 16 + b.toNat / 16) ::
      digit (b.toNat % 16 * 4 + c.toNat / 64) :: digit (c.toNat % 64) :: encodeChars rest

/-- The byte string of a list of digits. Padding stands at the end only, and the bits it leaves
    over are zero. -/
def decodeChars : List Char → Option Bytes
  | [] => some []
  | p :: q :: r :: s :: rest => do
    let p ← value p
    let q ← value q
    if r = '=' ∧ s = '=' ∧ rest = [] then
      if q % 16 ≠ 0 then none else some [UInt8.ofNat (p * 4 + q / 16)]
    else do
      let r ← value r
      if s = '=' ∧ rest = [] then
        if r % 4 ≠ 0 then none
        else some [UInt8.ofNat (p * 4 + q / 16), UInt8.ofNat (q % 16 * 16 + r / 4)]
      else do
        let s ← value s
        let bytes ← decodeChars rest
        some (UInt8.ofNat (p * 4 + q / 16) :: UInt8.ofNat (q % 16 * 16 + r / 4) ::
          UInt8.ofNat (r % 4 * 64 + s) :: bytes)
  | _ => none

/-- The text of a byte string. -/
def encode (bytes : Bytes) : String := String.ofList (encodeChars bytes)

def decode (text : String) : Except String Bytes :=
  match decodeChars text.toList with
  | some bytes => .ok bytes
  | none => .error "Invalid base64"

theorem digit_spec : ∀ n : Fin 64, value (digit n) = some n.val ∧ digit n ≠ '=' := by
  decide +kernel

variable {n : Nat}

theorem value_digit (h : n < 64) : value (digit n) = some n := (digit_spec ⟨n, h⟩).1

theorem digit_ne_pad (h : n < 64) : digit n ≠ '=' := (digit_spec ⟨n, h⟩).2

/-- A byte put together from its bits. -/
theorem ofNat_eq {a : UInt8} (h : n = a.toNat) : UInt8.ofNat n = a := by
  rw [h, UInt8.ofNat_toNat]

theorem decodeChars_encodeChars (bytes : Bytes) : decodeChars (encodeChars bytes) = some bytes := by
  induction bytes using encodeChars.induct with
  | case1 => rfl
  | case2 a =>
    have ha : a.toNat < 256 := a.toNat_lt
    simp only [encodeChars, decodeChars, value_digit (n := a.toNat / 4) (by omega),
      value_digit (n := a.toNat % 4 * 16) (by omega), Option.bind_eq_bind, Option.bind_some]
    rw [if_pos ⟨trivial, trivial, trivial⟩, if_neg (by omega), ofNat_eq (a := a) (by omega)]
  | case3 a b =>
    have ha : a.toNat < 256 := a.toNat_lt
    have hb : b.toNat < 256 := b.toNat_lt
    have hpad := digit_ne_pad (n := b.toNat % 16 * 4) (by omega)
    simp only [encodeChars, decodeChars, value_digit (n := a.toNat / 4) (by omega),
      value_digit (n := a.toNat % 4 * 16 + b.toNat / 16) (by omega),
      value_digit (n := b.toNat % 16 * 4) (by omega), Option.bind_eq_bind, Option.bind_some]
    rw [if_neg (fun h => hpad h.1), if_pos ⟨trivial, trivial⟩, if_neg (by omega),
      ofNat_eq (a := a) (by omega), ofNat_eq (a := b) (by omega)]
  | case4 a b c rest ih =>
    have ha : a.toNat < 256 := a.toNat_lt
    have hb : b.toNat < 256 := b.toNat_lt
    have hc : c.toNat < 256 := c.toNat_lt
    have hpad := digit_ne_pad (n := b.toNat % 16 * 4 + c.toNat / 64) (by omega)
    have hpad' := digit_ne_pad (n := c.toNat % 64) (by omega)
    simp only [encodeChars, decodeChars, value_digit (n := a.toNat / 4) (by omega),
      value_digit (n := a.toNat % 4 * 16 + b.toNat / 16) (by omega),
      value_digit (n := b.toNat % 16 * 4 + c.toNat / 64) (by omega),
      value_digit (n := c.toNat % 64) (by omega), ih, Option.bind_eq_bind, Option.bind_some]
    rw [if_neg (fun h => hpad h.1), if_neg (fun h => hpad' h.1), ofNat_eq (a := a) (by omega),
      ofNat_eq (a := b) (by omega), ofNat_eq (a := c) (by omega)]

theorem decode_encode (bytes : Bytes) : decode (encode bytes) = .ok bytes := by
  rw [decode, encode, String.toList_ofList, decodeChars_encodeChars]

end LobReplay.Foundation.Base64
