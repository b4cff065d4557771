/-
  `text.parse::<SocketAddr>()` of the Rust standard library: an IPv4 address or a bracketed IPv6
  address, with a port. A reader returns what it read and the text behind it.
-/

import Mathlib.Algebra.Group.Nat.Defs
import Mathlib.Data.Option.Basic

namespace LobReplay.Foundation

/-- `IpAddr`: the octets of an IPv4 address, the groups of an IPv6 address. -/
inductive IpAddr where
  | v4 (octets : List Nat)
  | v6 (groups : List Nat)
  deriving DecidableEq

/-- `IpAddr::is_unspecified`. -/
def IpAddr.isUnspecified : IpAddr → Bool
  | v4 octets => octets.all (· == 0)
  | v6 groups => groups.all (· == 0)

structure SocketAddr where
  ip : IpAddr
  port : Nat
  deriving DecidableEq

namespace SocketAddr

/-- A reader at the front of a text. -/
abbrev Reader (α : Type) := List Char → Option (α × List Char)

def readGivenChar (c : Char) : Reader Unit
  | [] => none
  | first :: rest => if first = c then some ((), rest) else none

/-- `char::to_digit`, for a radix up to 16. -/
def toDigit (radix : Nat) (c : Char) : Option Nat :=
  let n := c.toNat
  let digit :=
    if 48 ≤ n ∧ n ≤ 57 then n - 48
    else if 97 ≤ n ∧ n ≤ 102 then n - 87
    else if 65 ≤ n ∧ n ≤ 70 then n - 55
    else radix
  if digit < radix then some digit else none

/-- The digits at the front of a text. -/
def readDigits (radix : Nat) : List Char → List Nat × List Char
  | [] => ([], [])
  | c :: rest =>
    match toDigit radix c with
    | none => ([], c :: rest)
    | some digit =>
      let (digits, rest) := readDigits radix rest
      (digit :: digits, rest)

/-- `read_number`: at least one digit, at most `maxDigits`, a value up to `maximum`. -/
def readNumber (radix maximum : Nat) (maxDigits : Option Nat) (allowZeroPrefix : Bool) :
    Reader Nat := fun text =>
  let (digits, rest) := readDigits radix text
  let value := digits.foldl (fun value digit => value * radix + digit) 0
  if digits = [] ∨ (∃ most ∈ maxDigits, most < digits.length) ∨ maximum < value ∨
      (allowZeroPrefix = false ∧ digits.head? = some 0 ∧ 1 < digits.length) then none
  else some (value, rest)

/-- `read_separator`: an item behind a separator, but for the first. -/
def readSeparator {α : Type} (separator : Char) (index : Nat) (item : Reader α) : Reader α :=
  fun text => do
    let ((), text) ← if index = 0 then some ((), text) else readGivenChar separator text
    item text

def readIpv4Addr : Reader (List Nat) := fun text => do
  let octet (index : Nat) := readSeparator '.' index (readNumber 10 255 (some 3) false)
  let (a, text) ← octet 0 text
  let (b, text) ← octet 1 text
  let (c, text) ← octet 2 text
  let (d, text) ← octet 3 text
  some ([a, b, c, d], text)

/-- `read_groups`: up to `limit` groups from the `index`th on, and whether the last two were
    written as an IPv4 address. -/
def readGroups (limit index : Nat) : Nat → List Char → (List Nat × Bool) × List Char
  | 0, text => (([], false), text)
  | left + 1, text =>
    let group (text : List Char) :=
      match readSeparator ':' index (readNumber 16 65535 (some 4) true) text with
      | none => (([], false), text)
      | some (group, rest) =>
        let ((groups, ipv4), rest) := readGroups limit (index + 1) left rest
        ((group :: groups, ipv4), rest)
    if index + 1 < limit then
      match readSeparator ':' index readIpv4Addr text with
      | some ([a, b, c, d], rest) => (([a * 256 + b, c * 256 + d], true), rest)
      | _ => group text
    else group text

/-- `read_ipv6_addr`: eight groups, or fewer around a `::`. -/
def readIpv6Addr : Reader (List Nat) := fun text =>
  let ((head, ipv4), rest) := readGroups 8 0 8 text
  if head.length = 8 then some (head, rest)
  else if ipv4 = true then none
  else do
    let ((), rest) ← readGivenChar ':' rest
    let ((), rest) ← readGivenChar ':' rest
    let limit := 8 - (head.length + 1)
    let ((tail, _), rest) := readGroups limit 0 limit rest
    some (head ++ List.replicate (8 - head.length - tail.length) 0 ++ tail, rest)

def readPort : Reader Nat := fun text => do
  let ((), text) ← readGivenChar ':' text
  readNumber 10 65535 none true text

def readScopeId : Reader Nat := fun text => do
  let ((), text) ← readGivenChar '%' text
  readNumber 10 (2 ^ 32 - 1) none true text

def readSocketAddrV4 : Reader SocketAddr := fun text => do
  let (octets, text) ← readIpv4Addr text
  let (port, text) ← readPort text
  some ({ ip := .v4 octets, port }, text)

def readSocketAddrV6 : Reader SocketAddr := fun text => do
  let ((), text) ← readGivenChar '[' text
  let (groups, text) ← readIpv6Addr text
  let text := ((readScopeId text).map (·.2)).getD text
  let ((), text) ← readGivenChar ']' text
  let (port, text) ← readPort text
  some ({ ip := .v6 groups, port }, text)

/-- `text.parse::<SocketAddr>().ok()`: nothing may be left of the text. -/
def parse (text : String) : Option SocketAddr :=
  match (readSocketAddrV4 text.toList).or (readSocketAddrV6 text.toList) with
  | some (address, []) => some address
  | _ => none

example : parse "13.35.7.0:443" = some { ip := .v4 [13, 35, 7, 0], port := 443 } := by decide

example : parse "[2600::1:0]:0443"
    = some { ip := .v6 [9728, 0, 0, 0, 0, 0, 1, 0], port := 443 } := by decide

end SocketAddr

end LobReplay.Foundation
