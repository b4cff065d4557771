/-
  What every module of the crate shares: the `Result` of a fallible call, the `u64` arithmetic the
  code writes out, the two capture lanes and the materialized observation
  ({lib,boundary,hot_redundancy}.rs; all Rust files are named from rust/lob-replay/src).

  The release profile sets `overflow-checks = true` and `panic = "abort"`, so a plain `+` that
  overflows ends the process: it is a `Failure` of its own, which no caller can turn into a value.
-/

import LobReplay.Foundation.Bytes
import LobReplay.Foundation.Outcome
import Mathlib.Data.Option.Basic

namespace LobReplay

open Foundation

/-! ## Results -/

/-- How a call ends when it returns no value: `Err(message)`, or the abort of the
    process by a checked operation. -/
inductive Failure where
  | err (message : String)
  | abort
  deriving DecidableEq

/-- `crate::Result<T>`. -/
abbrev Result (α : Type) := Except Failure α

/-- `Err(message)`. -/
def err {α : Type} (message : String) : Result α := .error (.err message)

/-- `option.ok_or_else(|| message)`. -/
def okOr {α : Type} (o : Option α) (message : String) : Result α :=
  match o with
  | some a => .ok a
  | none => err message

variable {message : String}

@[simp] theorem err_ne_ok {α : Type} {a : α} : (err message : Result α) ≠ .ok a := by
  intro h
  cases h

@[simp] theorem okOr_eq_ok {α : Type} {o : Option α} {a : α} :
    okOr o message = .ok a ↔ o = some a := by
  cases o <;> simp [okOr]

theorem isOk_eq_true {α : Type} {x : Result α} : x.isOk = true ↔ ∃ a, x = .ok a := by
  cases x <;> simp [Except.isOk, Except.toBool]

/-- A guarded `return Err(..)` that was not taken. -/
theorem ite_err_eq_ok {α : Type} {c : Prop} [Decidable c] {x : Result α} {a : α} :
    (if c then err message else x) = .ok a ↔ ¬ c ∧ x = .ok a := by
  by_cases hc : c <;> simp [hc]

/-- The `?` operator: a chain returns a value only when its first part does. -/
theorem bind_eq_ok {α β : Type} {x : Result α} {f : α → Result β} {b : β} :
    (x >>= f) = .ok b ↔ ∃ a, x = .ok a ∧ f a = .ok b := bind_ok_iff

theorem map_eq_ok {α β : Type} {x : Result α} {f : α → β} {b : β} :
    x.map f = .ok b ↔ ∃ a, x = .ok a ∧ f a = b := by
  cases x <;> simp [Except.map]

/-- `option.is_some_and(|a| p(a))`. -/
theorem any_decide_eq_true {α : Type} {o : Option α} {p : α → Prop} [DecidablePred p] :
    o.any (fun a => decide (p a)) = true ↔ ∃ a, o = some a ∧ p a := by
  cases o <;> simp

/-! ## `u64` -/

/-- `u64::MAX`. -/
def u64Max : Nat := 2 ^ 64 - 1

/-- `u64::MAX` as a machine value. -/
def maxU64 : UInt64 := 18446744073709551615

@[simp] theorem maxU64_toNat : maxU64.toNat = u64Max := rfl

/-- `a.saturating_add(b)`. -/
def saturatingAdd (a b : UInt64) : UInt64 :=
  if a.toNat + b.toNat ≤ u64Max then a + b else maxU64

theorem saturatingAdd_toNat (a b : UInt64) :
    (saturatingAdd a b).toNat = min (a.toNat + b.toNat) u64Max := by
  unfold saturatingAdd
  split
  · next h =>
    rw [UInt64.toNat_add]
    have : a.toNat + b.toNat < 2 ^ 64 := by
      simp only [u64Max] at h
      omega
    omega
  · next h =>
    rw [maxU64_toNat]
    omega

theorem toNat_le_u64Max (a : UInt64) : a.toNat ≤ u64Max := by
  have := a.toNat_lt
  simp only [u64Max]
  omega

theorem toNat_add_one {n : UInt64} (h : n ≠ maxU64) : (n + 1).toNat = n.toNat + 1 := by
  have hne : n.toNat ≠ 2 ^ 64 - 1 := fun heq => h (UInt64.toNat_inj.mp heq)
  have hlt := n.toNat_lt
  rw [UInt64.toNat_add]
  show (n.toNat + 1) % 2 ^ 64 = _
  omega

/-- `n += 1` on a `u64`: overflow aborts. -/
def increment (n : Nat) : Result Nat := if n < u64Max then .ok (n + 1) else .error .abort

/-- `a.checked_add(b)` on `u64`. -/
def checkedAdd (a b : Nat) : Option Nat := if a + b ≤ u64Max then some (a + b) else none

theorem increment_eq {n : Nat} (h : n < u64Max) : increment n = .ok (n + 1) := if_pos h

theorem checkedAdd_eq {a b : Nat} (h : a + b ≤ u64Max) : checkedAdd a b = some (a + b) := if_pos h

theorem checkedAdd_eq_some {a b c : Nat} (h : checkedAdd a b = some c) : c = a + b := by
  unfold checkedAdd at h
  split at h
  · exact (Option.some.inj h).symm
  · cases h

/-! ## Lanes and observations -/

/-- `hot_redundancy::CaptureLane`. -/
inductive CaptureLane where
  | primary
  | shadow
  deriving DecidableEq

/-- `CaptureLane::ALL`, the order in which a map keyed by lane is walked. -/
def CaptureLane.all : List CaptureLane := [.primary, .shadow]

/-- `boundary::BoundaryStreamKind`. -/
inductive BoundaryStreamKind where
  | depth
  | trade
  deriving DecidableEq

/-- `boundary::CanonicalObservationV1`. -/
structure CanonicalObservationV1 where
  symbol : String
  streamKind : BoundaryStreamKind
  stream : String
  connectionEpoch : String
  frameIndex : UInt64
  firstSequence : UInt64
  finalSequence : UInt64
  recordSha256 : String
  observationSha256 : String
  deriving DecidableEq

/-! ## Texts -/

/-- Whether `text.trim()` is empty: every character is Unicode white space. -/
def isBlank (text : String) : Bool :=
  text.toList.all fun c =>
    (9 ≤ c.toNat && c.toNat ≤ 13) || c.toNat ∈ [0x20, 0x85, 0xa0, 0x1680, 0x2028, 0x2029, 0x202f,
      0x205f, 0x3000] || (0x2000 ≤ c.toNat && c.toNat ≤ 0x200a)

/-- `text.as_bytes()`. -/
def asBytes (text : String) : Bytes := text.toUTF8.data.toList

/-- `u8::is_ascii_hexdigit`. -/
def isAsciiHexdigit (b : UInt8) : Bool :=
  (48 ≤ b && b ≤ 57) || (97 ≤ b && b ≤ 102) || (65 ≤ b && b ≤ 70)

/-- Whether a text is a hex SHA-256. -/
def isHex64 (value : String) : Bool :=
  (asBytes value).length == 64 && (asBytes value).all isAsciiHexdigit

/-- Whether a text is a hex SHA-256 in lowercase. -/
def isLowerHex64 (value : String) : Bool :=
  (asBytes value).length == 64 &&
    (asBytes value).all fun b => (48 ≤ b && b ≤ 57) || (97 ≤ b && b ≤ 102)

/-- `ZERO_DIGEST`: the root of every record hash chain. -/
def zeroDigest : String :=
  "0000000000000000000000000000000000000000000000000000000000000000"

/-- A 256-bit number as a digest. -/
def digestOfNat (n : Nat) : FixedBytes 32 := ⟨beBytes 32 n, by simp⟩

end LobReplay
