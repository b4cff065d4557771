/-
  `HdrHistogram` of cpp/bench/hdr_histogram.hpp: the constructor, `record_values` and the index
  arithmetic. The constructor's two logarithms are exact here, so they are those of a natural
  number; the statistics, which are in `double`, are left out.

  Integers are exact. A shift is an `overflow` when its count or its result is out of range, so a
  call that returns has shifted within its types; no sum comes near the bounds of `int32_t` where
  `counts_` has a length.
-/

import LobReplay.Foundation.LogBuckets

namespace LobReplay.Bench

open Foundation

/-! ## Integers -/

/-- How a call can end other than by returning. -/
inductive Fault where
  /-- `std::invalid_argument`. -/
  | invalidArgument (message : String)
  | overflow
  deriving DecidableEq

/-- `std::numeric_limits<int64_t>::max()`. -/
def int64Max : Int := 2 ^ 63 - 1

/-- `std::numeric_limits<int32_t>::max()`. -/
def int32Max : Int := 2 ^ 31 - 1

/-- `x << count` of a signed integer of `width` bits. -/
def shiftLeft (width : Nat) (x count : Int) : Except Fault Int :=
  if 0 ≤ count ∧ count < width ∧ -2 ^ (width - 1) ≤ x * 2 ^ count.toNat ∧
      x * 2 ^ count.toNat < 2 ^ (width - 1) then .ok (x * 2 ^ count.toNat)
  else .error .overflow

/-- `x >> count` of a signed integer of `width` bits. -/
def shiftRight (width : Nat) (x count : Int) : Except Fault Int :=
  if 0 ≤ count ∧ count < width then .ok (x / 2 ^ count.toNat) else .error .overflow

/-- The bits of a signed integer of `width` bits. -/
def bits (width : Nat) (x : Int) : Nat := (x % 2 ^ width).toNat

/-- `(int32_t)x`. -/
def toInt32 (x : Int) : Int := x.bmod (2 ^ 32)

/-- `ceil(log2(n))`. -/
def ceilLog2 (n : Nat) : Nat := if n ≤ 1 then 0 else (n - 1).log2 + 1

/-- `std::countl_zero` of 64 bits. -/
def countlZero (n : Nat) : Int := if n = 0 then 64 else 63 - n.log2

/-! ## Data -/

structure HdrHistogram where
  lowestDiscernibleValue : Int
  highestTrackableValue : Int
  significantFigures : Int
  unitMagnitude : Int
  subBucketHalfCountMagnitude : Int
  subBucketHalfCount : Int
  subBucketCount : Int
  subBucketMask : Int
  bucketCount : Int
  minValue : Int
  maxValue : Int
  totalCount : Int
  counts : List Int
  deriving DecidableEq

namespace HdrHistogram

/-! ## The constructor -/

def reset (hist : HdrHistogram) : HdrHistogram :=
  { hist with
    counts := List.replicate hist.counts.length 0
    totalCount := 0
    minValue := int64Max
    maxValue := 0 }

/-- The loop of `buckets_needed_to_cover_value`. The value doubles on each turn, so it takes no
    more turns than an `int64_t` has bits. -/
def bucketsLoop (value : Int) : Nat → Int → Int → Except Fault Int
  | 0, _, _ => .error .overflow
  | turns + 1, smallestUntrackable, bucketsNeeded =>
    if smallestUntrackable ≤ value then
      if int64Max / 2 < smallestUntrackable then .ok (bucketsNeeded + 1)
      else do
        let smallestUntrackable ← shiftLeft 64 smallestUntrackable 1
        bucketsLoop value turns smallestUntrackable (bucketsNeeded + 1)
    else .ok bucketsNeeded

def bucketsNeededToCoverValue (subBucketCount unitMagnitude value : Int) : Except Fault Int := do
  let smallestUntrackable ← shiftLeft 64 subBucketCount unitMagnitude
  bucketsLoop value 64 smallestUntrackable 1

/-- The constructor. -/
def new (lowest highest : Int64) (figures : Int32) : Except Fault HdrHistogram :=
  let lowestDiscernibleValue := lowest.toInt
  let highestTrackableValue := highest.toInt
  let significantFigures := figures.toInt
  if lowestDiscernibleValue < 1 ∨ significantFigures < 1 ∨ 5 < significantFigures ∨
      highestTrackableValue.tdiv 2 < lowestDiscernibleValue then
    .error (.invalidArgument "hdr_histogram: invalid parameters")
  else
    let largestSingleUnit := (List.range significantFigures.toNat).foldl (fun unit _ => unit * 10) 2
    let subBucketCountMagnitude : Int := ceilLog2 largestSingleUnit
    let subBucketHalfCountMagnitude :=
      (if 1 < subBucketCountMagnitude then subBucketCountMagnitude else 1) - 1
    let unitMagnitude : Int := lowestDiscernibleValue.toNat.log2
    if int32Max ≤ unitMagnitude then
      .error (.invalidArgument "hdr_histogram: unit magnitude too large")
    else if 61 < unitMagnitude + subBucketHalfCountMagnitude then
      .error (.invalidArgument "hdr_histogram: bucket config overflow")
    else do
      let subBucketCount ← shiftLeft 32 1 (subBucketHalfCountMagnitude + 1)
      let subBucketHalfCount := subBucketCount / 2
      let subBucketMask ← shiftLeft 64 (subBucketCount - 1) unitMagnitude
      let bucketCount ← bucketsNeededToCoverValue subBucketCount unitMagnitude highestTrackableValue
      let countsLen := (bucketCount + 1) * (subBucketCount / 2)
      let hist : HdrHistogram := {
        lowestDiscernibleValue, highestTrackableValue, significantFigures, unitMagnitude,
        subBucketHalfCountMagnitude, subBucketHalfCount, subBucketCount, subBucketMask, bucketCount
        minValue := int64Max
        maxValue := 0
        totalCount := 0
        counts := List.replicate countsLen.toNat 0 }
      return hist.reset

/-! ## Indexes -/

def getBucketIndex (hist : HdrHistogram) (value : Int) : Int :=
  let pow2ceiling := 64 - countlZero (bits 64 value ||| bits 64 hist.subBucketMask)
  pow2ceiling - hist.unitMagnitude - (hist.subBucketHalfCountMagnitude + 1)

def getSubBucketIndex (hist : HdrHistogram) (value bucketIndex : Int) : Except Fault Int := do
  let shifted ← shiftRight 64 value (bucketIndex + hist.unitMagnitude)
  return toInt32 shifted

def countsIndex (hist : HdrHistogram) (bucketIndex subBucketIndex : Int) : Except Fault Int := do
  let bucketBase ← shiftLeft 32 (bucketIndex + 1) hist.subBucketHalfCountMagnitude
  return bucketBase + (subBucketIndex - hist.subBucketHalfCount)

def countsIndexFor (hist : HdrHistogram) (value : Int) : Except Fault Int := do
  let bucket := hist.getBucketIndex value
  let sub ← hist.getSubBucketIndex value bucket
  hist.countsIndex bucket sub

def valueFromIndex (hist : HdrHistogram) (bucketIndex subBucketIndex : Int) : Except Fault Int :=
  shiftLeft 64 subBucketIndex (bucketIndex + hist.unitMagnitude)

def valueAtIndex (hist : HdrHistogram) (index : Int) : Except Fault Int := do
  let shifted ← shiftRight 32 index hist.subBucketHalfCountMagnitude
  let bucketIndex := shifted - 1
  let subBucketIndex := (bits 32 index &&& bits 32 (hist.subBucketHalfCount - 1) : Nat)
    + hist.subBucketHalfCount
  if bucketIndex < 0 then hist.valueFromIndex 0 (subBucketIndex - hist.subBucketHalfCount)
  else hist.valueFromIndex bucketIndex subBucketIndex

def lowestEquivalentValue (hist : HdrHistogram) (value : Int) : Except Fault Int := do
  let bucket := hist.getBucketIndex value
  let sub ← hist.getSubBucketIndex value bucket
  hist.valueFromIndex bucket sub

def sizeOfEquivalentValueRange (hist : HdrHistogram) (value : Int) : Except Fault Int := do
  let bucket := hist.getBucketIndex value
  let sub ← hist.getSubBucketIndex value bucket
  let adjusted := if hist.subBucketCount ≤ sub then bucket + 1 else bucket
  shiftLeft 64 1 (hist.unitMagnitude + adjusted)

def highestEquivalentValue (hist : HdrHistogram) (value : Int) : Except Fault Int := do
  let low ← hist.lowestEquivalentValue value
  let size ← hist.sizeOfEquivalentValueRange value
  return if int64Max - size < low then int64Max else low + size - 1

/-! ## Recording -/

def recordValues (hist : HdrHistogram) (value count : Int) : Except Fault (Bool × HdrHistogram) :=
  if value < 0 ∨ hist.highestTrackableValue < value then .ok (false, hist)
  else do
    let idx ← hist.countsIndexFor value
    if idx < 0 ∨ (hist.counts.length : Int) ≤ idx then return (false, hist)
    else return (true, { hist with
      counts := hist.counts.modify idx.toNat (· + count)
      totalCount := hist.totalCount + count
      maxValue := if hist.maxValue < value then value else hist.maxValue
      minValue := if value ≠ 0 ∧ value < hist.minValue then value else hist.minValue })

def record (hist : HdrHistogram) (value : Int) : Except Fault (Bool × HdrHistogram) :=
  hist.recordValues value 1

end HdrHistogram

/-! ## Shifts in range -/

section

variable {width x count : Nat}

theorem shiftLeft_eq (hcount : count < width) (hfits : x * 2 ^ count < 2 ^ (width - 1)) :
    shiftLeft width x count = .ok ((x * 2 ^ count : Nat) : Int) := by
  have hle : -(2 : Int) ^ (width - 1) ≤ (x * 2 ^ count : Nat) := by
    have : (0 : Int) < 2 ^ (width - 1) := Int.pow_pos (by decide)
    omega
  have hlt : ((x * 2 ^ count : Nat) : Int) < 2 ^ (width - 1) := by exact_mod_cast hfits
  push_cast at hle hlt
  unfold shiftLeft
  rw [Int.toNat_natCast, if_pos ⟨by omega, by omega, hle, hlt⟩]
  push_cast
  rfl

theorem shiftRight_eq (hcount : count < width) :
    shiftRight width x count = .ok ((x / 2 ^ count : Nat) : Int) := by
  unfold shiftRight
  rw [if_pos ⟨by omega, by omega⟩, Int.toNat_natCast]
  push_cast
  rfl

theorem bits_eq (hfits : x < 2 ^ width) : bits width x = x := by
  unfold bits
  rw [show ((2 : Int) ^ width) = ((2 ^ width : Nat) : Int) by push_cast; rfl, ← Int.natCast_emod,
    Int.toNat_natCast, Nat.mod_eq_of_lt hfits]

theorem toInt32_eq (hfits : x < 2 ^ 31) : toInt32 x = x := by
  unfold toInt32
  apply Int.bmod_eq_of_le <;> omega

theorem le_two_pow_ceilLog2 (n : Nat) : n ≤ 2 ^ ceilLog2 n := by
  unfold ceilLog2
  split
  · next hle => exact hle
  · have := @Nat.lt_log2_self (n - 1)
    omega

theorem ceilLog2_le {n k : Nat} (h : n ≤ 2 ^ k) : ceilLog2 n ≤ k := by
  unfold ceilLog2
  split
  · exact Nat.zero_le _
  · exact (Nat.log2_lt (by omega)).mpr (by omega)

end

end LobReplay.Bench
