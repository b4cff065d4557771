/-
  What a histogram covers. The constructor either refuses its parameters or gives a histogram whose
  buckets are those of `LogBuckets` (`Configured`, `new_cases`): `h + 1` leading bits in units of `2
  ^ u`. Then each helper is the operation of `LogBuckets` of its name, on every `int64_t` from zero
  (`countsIndexFor_eq` and its siblings), and no call changes the configuration (`step_keeps`).
-/

import LobReplay.Bench.HdrHistogram
import Mathlib.Tactic.Ring

namespace LobReplay.Bench

open Foundation

namespace HdrHistogram

open LogBuckets

/-! ## Configured histograms -/

/-- A histogram is configured for buckets with `h + 1` leading bits in units of `2 ^ u`, `b` of
    them beyond the first. -/
structure Configured (lowest highest figures : Int) (hist : HdrHistogram) (h u b : Nat) :
    Prop where
  highest_eq : hist.highestTrackableValue = highest
  unit_eq : hist.unitMagnitude = u
  half_eq : hist.subBucketHalfCountMagnitude = h
  halfCount_eq : hist.subBucketHalfCount = (2 ^ h : Nat)
  count_eq : hist.subBucketCount = (2 * 2 ^ h : Nat)
  mask_eq : hist.subBucketMask = ((2 * 2 ^ h - 1) * 2 ^ u : Nat)
  length_eq : hist.counts.length = (b + 2) * 2 ^ h
  unit_le : ((2 ^ u : Nat) : Int) ≤ lowest
  precision_le : 10 ^ figures.toNat ≤ 2 ^ h
  half_le : h ≤ 17
  highest_lt : highest < (2 ^ (u + h + 1 + b) : Nat)
  buckets_le : u + h + 1 + b ≤ 63

section

variable {lowest highest figures : Int} {hist : HdrHistogram} {h u b n : Nat}

theorem Configured.two_pow_half (hconf : Configured lowest highest figures hist h u b) :
    2 ^ h ≤ 2 ^ 17 := Nat.pow_le_pow_right (by decide) hconf.half_le

/-- An `int64_t` has an exponent that shifts can take. -/
theorem Configured.exponent_le (hconf : Configured lowest highest figures hist h u b)
    (hn : n < 2 ^ 63) : exponent h u n + h ≤ 62 := by
  have hbuckets := hconf.buckets_le
  have hlt : n < 2 ^ (u + h + 1 + (62 - u - h)) := by
    rwa [show u + h + 1 + (62 - u - h) = 63 by omega]
  have := LogBuckets.exponent_le hlt
  omega

/-- The leading bit of the mask. -/
theorem log2_mask (h u : Nat) : ((2 * 2 ^ h - 1) * 2 ^ u).log2 = u + h := by
  have hpos := Nat.two_pow_pos h
  have hunit := Nat.two_pow_pos u
  rw [Nat.log2_eq_iff (by
    apply Nat.ne_of_gt
    exact Nat.mul_pos (by omega) hunit)]
  constructor
  · rw [Nat.add_comm, Nat.pow_add]
    exact Nat.mul_le_mul_right _ (by omega)
  · rw [show u + h + 1 = (h + 1) + u by omega, Nat.pow_add, Nat.pow_succ, Nat.mul_comm (2 ^ h) 2]
    exact Nat.mul_lt_mul_of_pos_right (by omega) hunit

section

variable (hconf : Configured lowest highest figures hist h u b)
include hconf

theorem getBucketIndex_eq (hn : n < 2 ^ 63) :
    hist.getBucketIndex n = (exponent h u n - u : Nat) := by
  have hpos := Nat.two_pow_pos h
  have hmask : (2 * 2 ^ h - 1) * 2 ^ u ≠ 0 :=
    Nat.ne_of_gt (Nat.mul_pos (by omega) (Nat.two_pow_pos u))
  have hlog := log2_mask h u
  have hmask64 : (2 * 2 ^ h - 1) * 2 ^ u < 2 ^ 64 := by
    rw [← Nat.log2_lt hmask, hlog]
    have := hconf.buckets_le
    omega
  have hor : n ||| (2 * 2 ^ h - 1) * 2 ^ u ≠ 0 := by
    have := Nat.right_le_or (n := n) (m := (2 * 2 ^ h - 1) * 2 ^ u)
    omega
  have hn64 : n < 2 ^ 64 := Nat.lt_trans hn (by decide)
  unfold getBucketIndex countlZero
  rw [hconf.mask_eq, bits_eq hn64, bits_eq hmask64, if_neg hor, log2_or hmask, hlog, hconf.unit_eq,
    hconf.half_eq]
  have hexponent : exponent h u n + h = max n.log2 (u + h) := by
    unfold exponent
    omega
  have := le_exponent h u n
  dsimp only
  omega

theorem getSubBucketIndex_eq (hn : n < 2 ^ 63) :
    hist.getSubBucketIndex n (exponent h u n - u : Nat) = .ok (n / 2 ^ exponent h u n : Nat) := by
  have hexponent := hconf.exponent_le hn
  have hunit := le_exponent h u n
  have hbuckets := hconf.buckets_le
  have hmantissa := mantissa_lt h u n
  have hhalf := hconf.two_pow_half
  unfold getSubBucketIndex
  rw [hconf.unit_eq, show ((exponent h u n - u : Nat) : Int) + u = (exponent h u n : Nat) by omega,
    shiftRight_eq (by omega)]
  show Except.ok (toInt32 _) = _
  rw [toInt32_eq (by omega)]

/-- **Index.** The index of a value is that of its bucket. -/
theorem countsIndexFor_eq (hn : n < 2 ^ 63) : hist.countsIndexFor n = .ok (index h u n : Nat) := by
  have hexponent := hconf.exponent_le hn
  have hbuckets := hconf.buckets_le
  have hhalf := hconf.two_pow_half
  have hbase : (exponent h u n - u + 1) * 2 ^ h < 2 ^ (32 - 1) := by
    calc (exponent h u n - u + 1) * 2 ^ h
        ≤ 63 * 2 ^ 17 := Nat.mul_le_mul (by omega) hhalf
      _ < 2 ^ (32 - 1) := by decide
  unfold countsIndexFor
  rw [getBucketIndex_eq hconf hn]
  dsimp only
  rw [getSubBucketIndex_eq hconf hn]
  show hist.countsIndex _ _ = _
  unfold countsIndex
  rw [hconf.half_eq, hconf.halfCount_eq,
    show ((exponent h u n - u : Nat) : Int) + 1 = (exponent h u n - u + 1 : Nat) by push_cast; rfl,
    shiftLeft_eq (by have := hconf.half_le; omega) hbase]
  show Except.ok _ = Except.ok _
  congr 1
  unfold index
  rw [Nat.succ_mul]
  omega

theorem valueFromIndex_eq {bucket sub : Nat} (hcount : bucket + u < 64)
    (hfits : sub * 2 ^ (bucket + u) < 2 ^ 63) :
    hist.valueFromIndex bucket sub = .ok (sub * 2 ^ (bucket + u) : Nat) := by
  unfold valueFromIndex
  rw [hconf.unit_eq, show ((bucket : Nat) : Int) + u = (bucket + u : Nat) by push_cast; rfl,
    shiftLeft_eq hcount hfits]

theorem lowestEquivalentValue_eq (hn : n < 2 ^ 63) :
    hist.lowestEquivalentValue n = .ok (low h u n : Nat) := by
  have hexponent := hconf.exponent_le hn
  have hbuckets := hconf.buckets_le
  have hsum : exponent h u n - u + u = exponent h u n := Nat.sub_add_cancel (le_exponent h u n)
  unfold lowestEquivalentValue
  rw [getBucketIndex_eq hconf hn]
  dsimp only
  rw [getSubBucketIndex_eq hconf hn]
  show hist.valueFromIndex _ _ = _
  rw [valueFromIndex_eq hconf (by omega), hsum]
  · rfl
  · rw [hsum]
    exact Nat.lt_of_le_of_lt (low_le h u n) (hn)

theorem sizeOfEquivalentValueRange_eq (hn : n < 2 ^ 63) :
    hist.sizeOfEquivalentValueRange n = .ok (2 ^ exponent h u n : Nat) := by
  have hexponent := hconf.exponent_le hn
  have hbuckets := hconf.buckets_le
  have hunit := le_exponent h u n
  have hmantissa := mantissa_lt h u n
  have hcount : exponent h u n < 63 := by omega
  unfold sizeOfEquivalentValueRange
  rw [getBucketIndex_eq hconf hn]
  dsimp only
  rw [getSubBucketIndex_eq hconf hn]
  show shiftLeft 64 _ (_ + if hist.subBucketCount ≤ _ then _ else _) = _
  rw [hconf.count_eq, if_neg (by omega), hconf.unit_eq,
    show (u : Int) + ((exponent h u n - u : Nat) : Int) = (exponent h u n : Nat) by omega]
  have hshift := @shiftLeft_eq 64 1 (exponent h u n) (by omega)
    (by rw [Nat.one_mul]; exact Nat.pow_lt_pow_right (by decide) hcount)
  rw [Nat.one_mul] at hshift
  exact hshift

/-- The bucket ends within an `int64_t`. -/
theorem low_add_le (hn : n < 2 ^ 63) : low h u n + 2 ^ exponent h u n ≤ 2 ^ 63 := by
  have hexponent := hconf.exponent_le hn
  have hbuckets := hconf.buckets_le
  calc low h u n + 2 ^ exponent h u n
      = (n / 2 ^ exponent h u n + 1) * 2 ^ exponent h u n := (Nat.succ_mul _ _).symm
    _ ≤ (2 * 2 ^ h) * 2 ^ exponent h u n := Nat.mul_le_mul_right _ (mantissa_lt h u n)
    _ = 2 ^ (exponent h u n + h + 1) := by
        rw [Nat.mul_comm 2, ← Nat.pow_succ, ← Nat.pow_add]
        congr 1
        omega
    _ ≤ 2 ^ 63 := Nat.pow_le_pow_right (by decide) (by omega)

theorem highestEquivalentValue_eq (hn : n < 2 ^ 63) :
    hist.highestEquivalentValue n = .ok (low h u n + 2 ^ exponent h u n - 1 : Nat) := by
  have hfits := low_add_le hconf hn
  have hpos := Nat.two_pow_pos (exponent h u n)
  unfold highestEquivalentValue
  rw [lowestEquivalentValue_eq hconf hn, sizeOfEquivalentValueRange_eq hconf hn]
  show Except.ok (if int64Max - _ < _ then int64Max else _) = _
  unfold int64Max
  congr 1
  split <;> omega

theorem valueAtIndex_eq {i k : Nat} (hk : u + h + 1 + k ≤ 63) (hi : i < (k + 2) * 2 ^ h) :
    hist.valueAtIndex i = .ok (start h u i : Nat) := by
  have hhalf := hconf.two_pow_half
  have hpos := Nat.two_pow_pos h
  have hfits : start h u i < 2 ^ 63 :=
    Nat.lt_of_lt_of_le (start_lt hi) (Nat.pow_le_pow_right (by decide) hk)
  have hsmall : i < 2 ^ 32 :=
    calc i < (k + 2) * 2 ^ h := hi
      _ ≤ 64 * 2 ^ 17 := Nat.mul_le_mul (by omega) hhalf
      _ < 2 ^ 32 := by decide
  have hbucket : i / 2 ^ h < k + 2 := (Nat.div_lt_iff_lt_mul hpos).mpr hi
  unfold start at hfits ⊢
  unfold valueAtIndex
  rw [hconf.half_eq, shiftRight_eq (by have := hconf.half_le; omega), hconf.halfCount_eq,
    show ((2 ^ h : Nat) : Int) - 1 = (2 ^ h - 1 : Nat) by omega, bits_eq hsmall,
    bits_eq (by omega), Nat.and_two_pow_sub_one_eq_mod]
  show (if ((i / 2 ^ h : Nat) : Int) - 1 < 0 then _ else _) = _
  by_cases hfirst : i < 2 ^ h
  · rw [if_pos hfirst] at hfits ⊢
    rw [Nat.div_eq_of_lt hfirst, if_pos (by decide), Nat.mod_eq_of_lt hfirst, Int.add_sub_cancel]
    have hvalue := @valueFromIndex_eq _ _ _ _ _ _ _ hconf 0 i
    rw [Nat.zero_add] at hvalue
    exact hvalue (by omega) hfits
  · rw [if_neg hfirst] at hfits ⊢
    have hone : 1 ≤ i / 2 ^ h := (Nat.one_le_div_iff hpos).mpr (Nat.not_lt.mp hfirst)
    rw [if_neg (by omega), show ((i / 2 ^ h : Nat) : Int) - 1 = (i / 2 ^ h - 1 : Nat) by omega]
    exact valueFromIndex_eq hconf (by omega) hfits

/-- **Round trip.** The value at the index of a value is the start of its bucket. -/
theorem valueAtIndex_index (hn : n < 2 ^ 63) :
    hist.valueAtIndex (index h u n : Nat) = .ok (low h u n : Nat) := by
  have hbuckets := hconf.buckets_le
  have hlt : n < 2 ^ (u + h + 1 + (62 - u - h)) := by
    rwa [show u + h + 1 + (62 - u - h) = 63 by omega]
  rw [valueAtIndex_eq hconf (show u + h + 1 + (62 - u - h) ≤ 63 by omega) (index_lt hlt),
    start_index]

end

end

/-! ## The constructor -/

theorem foldl_mul_ten (n unit : Nat) :
    (List.range n).foldl (fun unit _ => unit * 10) unit = unit * 10 ^ n := by
  induction n with
  | zero => rw [List.range_zero, List.foldl_nil, Nat.pow_zero, Nat.mul_one]
  | succ n ih => rw [List.range_succ, List.foldl_append, ih, List.foldl_cons, List.foldl_nil,
      Nat.pow_succ, Nat.mul_assoc]

/-- **Run.** The loop ends with a power of two above the value, which is no more than `2 ^ 63`. -/
theorem bucketsLoop_eq {value : Int} (hvalue : value ≤ int64Max) (turns e : Nat) (needed : Int)
    (hturns : 62 < turns + e) (he : e ≤ 62) :
    ∃ b : Nat, bucketsLoop value turns (2 ^ e : Nat) needed = .ok (needed + b) ∧
      value < (2 ^ (e + b) : Nat) ∧ e + b ≤ 63 := by
  induction turns generalizing e needed with
  | zero => omega
  | succ turns ih =>
    unfold bucketsLoop
    by_cases hle : ((2 ^ e : Nat) : Int) ≤ value
    · rw [if_pos hle]
      by_cases hlast : e = 62
      · -- doubling once more would leave the type, and every value is below that
        subst hlast
        refine ⟨1, ?_, ?_, by omega⟩
        · rw [if_pos (by decide)]
          rfl
        · unfold int64Max at hvalue
          omega
      · have hpow : 2 ^ e ≤ 2 ^ 61 := Nat.pow_le_pow_right (by decide) (by omega)
        have hshift : (shiftLeft 64 (2 ^ e : Nat) 1 >>= fun smallestUntrackable =>
            bucketsLoop value turns smallestUntrackable (needed + 1))
            = bucketsLoop value turns (2 ^ (e + 1) : Nat) (needed + 1) := by
          have hshift := @shiftLeft_eq 64 (2 ^ e) 1 (by decide) (by omega)
          rw [← Nat.pow_add] at hshift
          rw [show (1 : Int) = (1 : Nat) by rfl, hshift]
          rfl
        obtain ⟨b, heq, hlt, hb⟩ := ih (e + 1) (needed + 1) (by omega) (by omega)
        refine ⟨b + 1, ?_, ?_, by omega⟩
        · rw [if_neg (by unfold int64Max; omega), hshift, heq,
            show needed + 1 + (b : Int) = needed + (b + 1 : Nat) by omega]
        · rwa [show e + (b + 1) = e + 1 + b by omega]
    · rw [if_neg hle]
      refine ⟨0, ?_, by rw [Nat.add_zero]; omega, by omega⟩
      rw [Int.natCast_zero, Int.add_zero]

/-- The leading bits that tell apart as many values as there are to the figures. -/
theorem exists_magnitude {n : Nat} (hpos : 1 ≤ n) (hle : n ≤ 5) :
    ∃ h, ceilLog2 (2 * 10 ^ n) = h + 1 ∧ 0 < h ∧ h ≤ 17 ∧ 10 ^ n ≤ 2 ^ h := by
  have hten : 10 ^ 1 ≤ 10 ^ n := Nat.pow_le_pow_right (by decide) hpos
  have hlarge : 10 ^ n ≤ 10 ^ 5 := Nat.pow_le_pow_right (by decide) hle
  have hcover := le_two_pow_ceilLog2 (2 * 10 ^ n)
  have hsmall : ceilLog2 (2 * 10 ^ n) ≤ 18 := ceilLog2_le (by omega)
  have hmagnitude : 1 < ceilLog2 (2 * 10 ^ n) := by
    by_contra hone
    have hpow : 2 ^ ceilLog2 (2 * 10 ^ n) ≤ 2 ^ 1 := Nat.pow_le_pow_right (by decide) (by omega)
    omega
  obtain ⟨h, hh⟩ : ∃ h, ceilLog2 (2 * 10 ^ n) = h + 1 := ⟨_, (Nat.sub_add_cancel (by omega)).symm⟩
  rw [hh, Nat.pow_succ] at hcover
  exact ⟨h, hh, by omega, by omega, by omega⟩

/-- The top of the first bucket. -/
theorem two_mul_two_pow (h u : Nat) : 2 * 2 ^ h * 2 ^ u = 2 ^ (u + h + 1) := by
  rw [Nat.mul_comm 2, ← Nat.pow_succ, ← Nat.pow_add]
  congr 1
  omega

/-- **Constructor.** Parameters that are not refused give a configured histogram. -/
theorem new_cases (lowest highest : Int64) (figures : Int32) :
    (∃ message, new lowest highest figures = .error (.invalidArgument message)) ∨
      ∃ hist h u b, new lowest highest figures = .ok hist ∧
        Configured lowest.toInt highest.toInt figures.toInt hist h u b := by
  have hvalue : highest.toInt ≤ int64Max := by
    have := highest.toInt_lt
    unfold int64Max
    omega
  unfold new
  generalize lowest.toInt = lowest, highest.toInt = highest, figures.toInt = figures at *
  dsimp only
  rw [foldl_mul_ten]
  by_cases hvalid : lowest < 1 ∨ figures < 1 ∨ 5 < figures ∨ highest.tdiv 2 < lowest
  · rw [if_pos hvalid]
    exact .inl ⟨_, rfl⟩
  rw [if_neg hvalid]
  by_cases hmax : int32Max ≤ (lowest.toNat.log2 : Int)
  · rw [if_pos hmax]
    exact .inl ⟨_, rfl⟩
  rw [if_neg hmax]
  obtain ⟨h, hh, hpos, hle, hprecision⟩ := @exists_magnitude figures.toNat (by omega) (by omega)
  have hunit : 2 ^ lowest.toNat.log2 ≤ lowest.toNat := Nat.log2_self_le (by omega)
  generalize lowest.toNat.log2 = u at *
  rw [hh, if_pos (show 1 < ((h + 1 : Nat) : Int) by omega),
    show ((h + 1 : Nat) : Int) - 1 = (h : Nat) by omega]
  by_cases hbits : 61 < (u : Int) + h
  · rw [if_pos hbits]
    exact .inl ⟨_, rfl⟩
  rw [if_neg hbits]
  right
  -- the shifts
  have hhalf : 2 ^ h ≤ 2 ^ 17 := Nat.pow_le_pow_right (by decide) hle
  have hone := Nat.two_pow_pos h
  have htop := two_mul_two_pow h u
  have hfits : 2 ^ (u + h + 1) ≤ 2 ^ 62 := Nat.pow_le_pow_right (by decide) (by omega)
  have hcount := @shiftLeft_eq 32 1 (h + 1) (by omega) (by rw [Nat.pow_succ]; omega)
  have hmask := @shiftLeft_eq 64 (2 * 2 ^ h - 1) u (by omega) (by
    have := Nat.mul_le_mul_right (2 ^ u) (Nat.sub_le (2 * 2 ^ h) 1)
    omega)
  have hsmallest := @shiftLeft_eq 64 (2 * 2 ^ h) u (by omega) (by omega)
  obtain ⟨b, hbuckets, hlt, hb⟩ := bucketsLoop_eq hvalue 64 (u + h + 1) 1 (by omega) (by omega)
  rw [htop] at hsmallest
  rw [Nat.one_mul, Nat.pow_succ, Nat.mul_comm] at hcount
  have hneeded : bucketsNeededToCoverValue (2 * 2 ^ h : Nat) u highest = .ok (1 + b) := by
    unfold bucketsNeededToCoverValue
    rw [hsmallest]
    exact hbuckets
  have hsub : shiftLeft 32 1 ((h : Int) + 1) = .ok ((2 * 2 ^ h : Nat) : Int) := by
    rw [← hcount]
    rfl
  rw [hsub]
  dsimp only [bind, Except.bind]
  rw [show ((2 * 2 ^ h : Nat) : Int) - 1 = (2 * 2 ^ h - 1 : Nat) by omega, hmask]
  dsimp only
  rw [hneeded]
  dsimp only
  rw [show ((2 * 2 ^ h : Nat) : Int) / 2 = (2 ^ h : Nat) by omega,
    show ((1 + (b : Int) + 1) * (2 ^ h : Nat)) = ((b + 2) * 2 ^ h : Nat) by push_cast; ring]
  refine ⟨_, h, u, b, rfl, ?_⟩
  constructor
  case length_eq =>
    dsimp only [reset]
    rw [List.length_replicate, List.length_replicate, Int.toNat_natCast]
  case unit_le => omega
  case precision_le => exact hprecision
  case half_le => exact hle
  case highest_lt => exact hlt
  case buckets_le => exact hb
  all_goals rfl

/-! ## Runs -/

/-- A call that changes a histogram. -/
inductive Call where
  | recordValues (value count : Int)
  | reset

def step (hist : HdrHistogram) : Call → Except Fault HdrHistogram
  | .recordValues value count => do
    let (_, hist) ← hist.recordValues value count
    return hist
  | .reset => .ok hist.reset

def run (hist : HdrHistogram) (calls : List Call) : Except Fault HdrHistogram :=
  calls.foldlM step hist

section

variable {lowest highest figures : Int} {hist : HdrHistogram} {h u b n : Nat} {value : Int}

theorem recordValues_eq (hconf : Configured lowest highest figures hist h u b) (hnonneg : 0 ≤ value)
    (hle : value ≤ highest) (count : Int) :
    ∃ hist', hist.recordValues value count = .ok (true, hist') ∧
      Configured lowest highest figures hist' h u b := by
  obtain ⟨n, rfl⟩ := Int.eq_ofNat_of_zero_le hnonneg
  have hn : n < 2 ^ (u + h + 1 + b) := by
    have := hconf.highest_lt
    omega
  have hindex := index_lt hn
  have hfits : n < 2 ^ 63 :=
    Nat.lt_of_lt_of_le hn (Nat.pow_le_pow_right (by decide) hconf.buckets_le)
  unfold recordValues
  rw [if_neg (by rw [hconf.highest_eq]; omega), countsIndexFor_eq hconf hfits]
  dsimp only [bind, Except.bind]
  rw [if_neg (by rw [hconf.length_eq]; omega)]
  refine ⟨_, rfl, { hconf with length_eq := ?_ }⟩
  rw [List.length_modify]
  exact hconf.length_eq

theorem recordValues_refused (hrange : value < 0 ∨ hist.highestTrackableValue < value)
    (count : Int) : hist.recordValues value count = .ok (false, hist) := by
  unfold recordValues
  rw [if_pos hrange]

/-- **Step.** A call returns, and keeps the configuration. -/
theorem step_keeps (hconf : Configured lowest highest figures hist h u b) (call : Call) :
    ∃ hist', step hist call = .ok hist' ∧ Configured lowest highest figures hist' h u b := by
  cases call with
  | recordValues value count =>
    by_cases hrange : value < 0 ∨ hist.highestTrackableValue < value
    · refine ⟨hist, ?_, hconf⟩
      dsimp only [step]
      rw [recordValues_refused hrange]
      rfl
    · rw [hconf.highest_eq] at hrange
      have hnonneg : 0 ≤ value := by omega
      obtain ⟨hist', heq, hconf'⟩ := recordValues_eq hconf hnonneg (by omega) count
      refine ⟨hist', ?_, hconf'⟩
      dsimp only [step]
      rw [heq]
      rfl
  | reset =>
    refine ⟨_, rfl, { hconf with length_eq := ?_ }⟩
    unfold reset
    rw [List.length_replicate]
    exact hconf.length_eq

/-- **Run.** -/
theorem run_keeps (hconf : Configured lowest highest figures hist h u b) (calls : List Call) :
    ∃ hist', run hist calls = .ok hist' ∧ Configured lowest highest figures hist' h u b := by
  induction calls generalizing hist with
  | nil => exact ⟨hist, rfl, hconf⟩
  | cons call calls ih =>
    obtain ⟨hist', hstep, hconf'⟩ := step_keeps hconf call
    obtain ⟨hist'', hrun, hconf''⟩ := ih hconf'
    refine ⟨hist'', ?_, hconf''⟩
    unfold run at hrun ⊢
    rw [List.foldlM_cons, hstep]
    exact hrun

end

/-! ## Coverage -/

/-- What a histogram promises of its values. -/
structure Covers (lowest highest figures : Int) (hist : HdrHistogram) : Prop where
  /-- The helpers shift within their types, whatever `int64_t` from zero they are given. -/
  shifts : ∀ value, 0 ≤ value → value ≤ int64Max → ∃ index lower upper size : Int,
    hist.countsIndexFor value = .ok index ∧ hist.lowestEquivalentValue value = .ok lower ∧
    hist.highestEquivalentValue value = .ok upper ∧
    hist.sizeOfEquivalentValueRange value = .ok size
  /-- So does the way back, from every index of the counts. -/
  shiftsBack : ∀ index : Int, 0 ≤ index → index < hist.counts.length →
    ∃ value, hist.valueAtIndex index = .ok value
  /-- A value in the range has its index in the counts, and lies where that index says, within
      the precision. -/
  placed : ∀ value, 0 ≤ value → value ≤ highest → ∃ index lower upper size : Int,
    hist.countsIndexFor value = .ok index ∧ 0 ≤ index ∧ index < hist.counts.length ∧
    hist.valueAtIndex index = .ok lower ∧ hist.lowestEquivalentValue value = .ok lower ∧
    hist.highestEquivalentValue value = .ok upper ∧ lower ≤ value ∧ value ≤ upper ∧
    hist.sizeOfEquivalentValueRange value = .ok size ∧
    size ≤ max lowest (value / 10 ^ figures.toNat)
  recorded : ∀ value, 0 ≤ value → value ≤ highest → ∃ hist', hist.record value = .ok (true, hist')
  shared : ∀ v w, 0 ≤ v → v ≤ highest → 0 ≤ w → w ≤ highest →
    (hist.countsIndexFor v = hist.countsIndexFor w ↔
      hist.lowestEquivalentValue v = hist.lowestEquivalentValue w)
  ordered : ∀ v w, 0 ≤ v → v ≤ w → w ≤ highest → ∃ i j : Int,
    hist.countsIndexFor v = .ok i ∧ hist.countsIndexFor w = .ok j ∧ i ≤ j

section

variable {lowest highest figures : Int} {hist : HdrHistogram} {h u b : Nat}

/-- A value in the range, as a natural. -/
theorem Configured.exists_nat (hconf : Configured lowest highest figures hist h u b) {value : Int}
    (hnonneg : 0 ≤ value) (hle : value ≤ highest) :
    ∃ n : Nat, value = n ∧ n < 2 ^ (u + h + 1 + b) ∧ n < 2 ^ 63 := by
  obtain ⟨n, rfl⟩ := Int.eq_ofNat_of_zero_le hnonneg
  have hn : n < 2 ^ (u + h + 1 + b) := by
    have := hconf.highest_lt
    omega
  exact ⟨n, rfl, hn, Nat.lt_of_lt_of_le hn (Nat.pow_le_pow_right (by decide) hconf.buckets_le)⟩

theorem Configured.covers (hconf : Configured lowest highest figures hist h u b) :
    Covers lowest highest figures hist where
  shifts value hnonneg hle := by
    obtain ⟨n, rfl⟩ := Int.eq_ofNat_of_zero_le hnonneg
    have hn : n < 2 ^ 63 := by
      unfold int64Max at hle
      omega
    exact ⟨_, _, _, _, countsIndexFor_eq hconf hn, lowestEquivalentValue_eq hconf hn,
      highestEquivalentValue_eq hconf hn, sizeOfEquivalentValueRange_eq hconf hn⟩
  shiftsBack index hnonneg hlt := by
    obtain ⟨i, rfl⟩ := Int.eq_ofNat_of_zero_le hnonneg
    rw [hconf.length_eq] at hlt
    exact ⟨_, valueAtIndex_eq hconf hconf.buckets_le (by omega)⟩
  placed value hnonneg hle := by
    obtain ⟨n, rfl, hrange, hn⟩ := hconf.exists_nat hnonneg hle
    have hindex := index_lt hrange
    have hlow := low_le h u n
    have hhigh := lt_low_add h u n
    have hwidth := @two_pow_exponent_le h u n _ hconf.precision_le (Nat.pow_pos (by decide))
    have hunit := hconf.unit_le
    refine ⟨_, _, _, _, countsIndexFor_eq hconf hn, by omega, ?_, valueAtIndex_index hconf hn,
      lowestEquivalentValue_eq hconf hn, highestEquivalentValue_eq hconf hn, by omega, by omega,
      sizeOfEquivalentValueRange_eq hconf hn, ?_⟩
    · rw [hconf.length_eq]
      omega
    · have hcast : (n : Int) / 10 ^ figures.toNat = (n / 10 ^ figures.toNat : Nat) := by
        push_cast
        rfl
      rw [hcast]
      omega
  recorded value hnonneg hle := by
    obtain ⟨hist', heq, -⟩ := recordValues_eq hconf hnonneg hle 1
    exact ⟨hist', heq⟩
  shared v w hv hvle hw hwle := by
    obtain ⟨n, rfl, -, hn⟩ := hconf.exists_nat hv hvle
    obtain ⟨m, rfl, -, hm⟩ := hconf.exists_nat hw hwle
    rw [countsIndexFor_eq hconf hn, countsIndexFor_eq hconf hm, lowestEquivalentValue_eq hconf hn,
      lowestEquivalentValue_eq hconf hm, Except.ok.injEq, Except.ok.injEq, Int.natCast_inj,
      Int.natCast_inj]
    exact index_eq_iff
  ordered v w hv hle hwle := by
    obtain ⟨n, rfl, -, hn⟩ := hconf.exists_nat hv (Int.le_trans hle hwle)
    obtain ⟨m, rfl, -, hm⟩ := hconf.exists_nat (Int.le_trans hv hle) hwle
    refine ⟨_, _, countsIndexFor_eq hconf hn, countsIndexFor_eq hconf hm, ?_⟩
    exact_mod_cast index_mono (by omega)

end

/-- Parameters are refused, or the histogram they give covers its range, whatever is recorded in
    it. -/
theorem covers_range (lowest highest : Int64) (figures : Int32) :
    (∃ message, new lowest highest figures = .error (.invalidArgument message)) ∨
      ∃ hist, new lowest highest figures = .ok hist ∧ ∀ calls : List Call,
        ∃ hist', run hist calls = .ok hist' ∧
          Covers lowest.toInt highest.toInt figures.toInt hist' := by
  rcases new_cases lowest highest figures with hrefused | ⟨hist, h, u, b, heq, hconf⟩
  · exact .inl hrefused
  · refine .inr ⟨hist, heq, ?_⟩
    intro calls
    obtain ⟨hist', hrun, hconf'⟩ := run_keeps hconf calls
    exact ⟨hist', hrun, hconf'.covers⟩

theorem covers_three_to_one_hundred : ∃ hist, new 3 100 1 = .ok hist ∧ ∀ calls : List Call,
    ∃ hist', run hist calls = .ok hist' ∧ Covers 3 100 1 hist' := by
  rcases covers_range 3 100 1 with ⟨message, hrefused⟩ | haccepted
  · have hsome : (new 3 100 1).toOption.isSome = true := by decide
    rw [hrefused] at hsome
    cases hsome
  · exact haccepted

end HdrHistogram

end LobReplay.Bench

