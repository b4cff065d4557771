/-
  Byte strings: fixed-width little- and big-endian integers, lowercase hex, and fixed-size byte
  arrays. Each encoder comes with its length and with the two round trips its readers rely on.
-/

import Mathlib.Data.List.Basic
import Mathlib.Tactic.IntervalCases

namespace LobReplay.Foundation

/-- A byte string. -/
abbrev Bytes := List UInt8

instance : LawfulBEq Bytes := inferInstance

/-- `[u8; n]`: a byte string of exactly `n` bytes. -/
structure FixedBytes (n : Nat) where
  bytes : Bytes
  length_eq : bytes.length = n
  deriving DecidableEq

variable {n : Nat} {a b : Bytes}

@[ext] theorem FixedBytes.ext {a b : FixedBytes n} (h : a.bytes = b.bytes) : a = b := by
  cases a
  cases b
  simp_all

/-! ## Fixed-width integers -/

/-- The `n` low-order bytes of `v`, least significant first. -/
def leBytes : Nat → Nat → Bytes
  | 0, _ => []
  | n + 1, v => UInt8.ofNat (v % 256) :: leBytes n (v / 256)

/-- The integer a byte string denotes, least significant byte first. -/
def leValue : Bytes → Nat
  | [] => 0
  | b :: rest => b.toNat + 256 * leValue rest

@[simp] theorem leBytes_length (n v : Nat) : (leBytes n v).length = n := by
  induction n generalizing v with
  | zero => rfl
  | succ n ih => simp [leBytes, ih]

theorem leValue_lt (bs : Bytes) : leValue bs < 256 ^ bs.length := by
  induction bs with
  | nil => simp [leValue]
  | cons b rest ih =>
    have hb : b.toNat < 256 := b.toNat_lt
    rw [leValue, List.length_cons, Nat.pow_succ]
    omega

/-- Reading back the bytes of an integer that fits. -/
theorem leValue_leBytes (n v : Nat) (h : v < 256 ^ n) : leValue (leBytes n v) = v := by
  induction n generalizing v with
  | zero =>
    have hv : v = 0 := by simpa using h
    simp [leBytes, leValue, hv]
  | succ n ih =>
    have hq : v / 256 < 256 ^ n := by
      rw [Nat.pow_succ] at h
      omega
    rw [leBytes, leValue, ih _ hq]
    have hbyte : (UInt8.ofNat (v % 256)).toNat = v % 256 := by
      simp
    rw [hbyte]
    omega

/-- A byte string is the encoding of the integer it denotes. -/
theorem leBytes_leValue (bs : Bytes) : leBytes bs.length (leValue bs) = bs := by
  induction bs with
  | nil => rfl
  | cons b rest ih =>
    have hb : b.toNat < 256 := b.toNat_lt
    have hmod : (b.toNat + 256 * leValue rest) % 256 = b.toNat := by omega
    have hdiv : (b.toNat + 256 * leValue rest) / 256 = leValue rest := by omega
    rw [List.length_cons, leBytes, leValue, hmod, hdiv, ih]
    simp

/-- The `n` low-order bytes of `v`, most significant first. -/
def beBytes (n v : Nat) : Bytes := (leBytes n v).reverse

/-- The integer a byte string denotes, most significant byte first. -/
def beValue (bs : Bytes) : Nat := leValue bs.reverse

@[simp] theorem beBytes_length (n v : Nat) : (beBytes n v).length = n := by
  simp [beBytes]

theorem beValue_beBytes (n v : Nat) (h : v < 256 ^ n) : beValue (beBytes n v) = v := by
  rw [beValue, beBytes, List.reverse_reverse, leValue_leBytes n v h]

theorem beBytes_beValue (bs : Bytes) : beBytes bs.length (beValue bs) = bs := by
  have h := leBytes_leValue bs.reverse
  rw [List.length_reverse] at h
  rw [beBytes, beValue, h, List.reverse_reverse]

/-! ## Lowercase hex -/

def hexDigit (n : Nat) : Char :=
  if n < 10 then Char.ofNat (48 + n) else Char.ofNat (87 + n)

/-- `{byte:02x}` for each byte. -/
def hexChars : Bytes → List Char
  | [] => []
  | b :: rest => hexDigit (b.toNat / 16) :: hexDigit (b.toNat % 16) :: hexChars rest

/-- Lowercase hex text of a byte string. -/
def hex (bs : Bytes) : String := String.ofList (hexChars bs)

theorem hexDigit_injective {m : Nat} (hm : m < 16) (hn : n < 16) (h : hexDigit m = hexDigit n) :
    m = n := by
  interval_cases m <;> interval_cases n <;> first | rfl | exact absurd h (by decide)

theorem hexChars_injective (h : hexChars a = hexChars b) : a = b := by
  induction a generalizing b with
  | nil =>
    cases b with
    | nil => rfl
    | cons y ys => simp [hexChars] at h
  | cons x xs ih =>
    cases b with
    | nil => simp [hexChars] at h
    | cons y ys =>
      simp only [hexChars, List.cons.injEq] at h
      obtain ⟨hhigh, hlow, hrest⟩ := h
      have hx : x.toNat < 256 := x.toNat_lt
      have hy : y.toNat < 256 := y.toNat_lt
      have h1 := hexDigit_injective (by omega) (by omega) hhigh
      have h2 := hexDigit_injective (by omega) (by omega) hlow
      have hxy : x = y := UInt8.toNat_inj.mp (by omega)
      rw [hxy, ih hrest]

/-- Distinct byte strings have distinct hex texts. -/
theorem hex_injective (h : hex a = hex b) : a = b :=
  hexChars_injective (String.ofList_injective h)

end LobReplay.Foundation
