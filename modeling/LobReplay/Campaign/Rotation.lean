/-
  The planned rotation of bin/raw_campaign.rs: the argument policy of `run`,
  `handover_seal_guard_seconds`, `maximum_generation_duration_seconds` and `planned_candidate`.
  Seconds are naturals, with the checks against 2^64 where the source has them.

  Every generation but the last ends within the overlap with its successor. The last one is cut at
  the guarded maximum, while the test for being the last is written with the whole overlap; so the
  end of the campaign is covered only for some totals.
-/

import LobReplay.Common
import Mathlib.Algebra.Order.Floor.Semiring
import Mathlib.Data.Rat.Floor

namespace LobReplay.Campaign

/-! ## Arguments -/

def maxHandoverSealGuardS : Nat := 30

def finalHandoverTailS : Nat := 90

/-- `parse_positive` on a number. -/
def parsePositive (parsed : Nat) (name : String) (maximum : Nat) : Result Nat :=
  if parsed = 0 ∨ maximum < parsed then err s!"{name} must be within 1..={maximum}"
  else .ok parsed

def checkedMul (a b : Nat) : Option Nat := if a * b ≤ u64Max then some (a * b) else none

def checkedSub (a b : Nat) : Option Nat := if b ≤ a then some (a - b) else none

/-- `(overlap_s / 10).clamp(1, MAX_HANDOVER_SEAL_GUARD_S)`. -/
def sealGuard (overlapS : Nat) : Nat := max 1 (min (overlapS / 10) maxHandoverSealGuardS)

def handoverSealGuardSeconds (overlapS : Nat) : Result Nat :=
  if overlapS < 2 then err "overlap-s must leave at least one second for a handover guard"
  else .ok (sealGuard overlapS)

def maximumGenerationDurationSeconds (rotationS overlapS : Nat) : Result Nat := do
  let guardS ← handoverSealGuardSeconds overlapS
  okOr ((checkedAdd rotationS overlapS).bind fun duration => checkedSub duration guardS)
    "guarded generation duration overflow/underflow"

/-- The argument policy of `run`, up to the maximum duration of a generation. -/
def campaignArguments (totalS rotationS overlapS segmentS : Nat) : Result Nat := do
  let totalS ← parsePositive totalS "total-s" (7 * 24 * 3600)
  let rotationS ← parsePositive rotationS "rotation-s" 86000
  let overlapS ← parsePositive overlapS "overlap-s" 3600
  let segmentS ← parsePositive segmentS "segment-s" 3600
  if overlapS ≠ segmentS ∨ rotationS % segmentS ≠ 0 ∨ 86300 < rotationS + overlapS ∨
      totalS < overlapS then
    err "require overlap-s == segment-s, rotation multiple of segment, and generation <= 86,300 s"
  else maximumGenerationDurationSeconds rotationS overlapS

/-! ## The plan -/

/-- `planned_candidate`: the start of a slot and the duration of its generation. -/
def plannedCandidate (totalS rotationS overlapS maximumGenerationS slot : Nat) :
    Result (Option (Nat × Nat)) := do
  let startS ← okOr (checkedMul slot rotationS) "planned rotation start overflow"
  match checkedSub totalS startS with
  | none => return none
  | some remainingS =>
    if remainingS < overlapS then return none
    else do
      let nextStartS ← okOr (checkedAdd startS rotationS) "planned next rotation start overflow"
      let nextRemainingS := totalS - nextStartS
      let isFinalCandidate := nextRemainingS < overlapS
      let requestedS := if isFinalCandidate then
          max remainingS (min (overlapS + finalHandoverTailS) u64Max)
        else remainingS
      return some (startS, min requestedS maximumGenerationS)

/-- The slots of a campaign: the first generation, then the planned candidates. -/
def slotOf (totalS rotationS overlapS maximumGenerationS : Nat) : Nat → Result (Option (Nat × Nat))
  | 0 => .ok (some (0, min totalS maximumGenerationS))
  | slot + 1 => plannedCandidate totalS rotationS overlapS maximumGenerationS (slot + 1)

/-- The plan covers the campaign: the slots are those up to some `n`, each but the last ends
    within the root segment of its successor, and together they cover the whole time. -/
structure CoversCampaign (totalS rotationS overlapS segmentS maximumGenerationS : Nat)
    (n : Nat) (plan : Nat → Nat × Nat) : Prop where
  slots : ∀ k, k ≤ n →
    slotOf totalS rotationS overlapS maximumGenerationS k = .ok (some (plan k))
  last : ∀ k slot, n < k →
    slotOf totalS rotationS overlapS maximumGenerationS k ≠ .ok (some slot)
  overlaps : ∀ k, k < n → (plan (k + 1)).1 + 1 ≤ (plan k).1 + (plan k).2 ∧
    (plan k).1 + (plan k).2 < (plan (k + 1)).1 + segmentS
  covers : ∀ t : ℚ, 0 ≤ t → t ≤ totalS →
    ∃ k ≤ n, ((plan k).1 : ℚ) ≤ t ∧ t ≤ ((plan k).1 + (plan k).2 : Nat)

/-! ## The slots -/

/-- What the policy has checked. -/
structure Accepted (totalS rotationS overlapS segmentS maximumGenerationS : Nat) : Prop where
  total_le : totalS ≤ 604800
  rotation_pos : 0 < rotationS
  overlap_ge : 2 ≤ overlapS
  segment_eq : segmentS = overlapS
  sum_le : rotationS + overlapS ≤ 86300
  overlap_le : overlapS ≤ totalS
  maximum_eq : maximumGenerationS = rotationS + overlapS - sealGuard overlapS

theorem parsePositive_eq_ok {parsed maximum value : Nat} {name : String}
    (h : parsePositive parsed name maximum = .ok value) :
    value = parsed ∧ 0 < parsed ∧ parsed ≤ maximum := by
  unfold parsePositive at h
  rw [ite_err_eq_ok] at h
  obtain ⟨hrange, h⟩ := h
  cases h
  exact ⟨rfl, by omega, by omega⟩

theorem accepted_of_arguments {totalS rotationS overlapS segmentS maximumGenerationS : Nat}
    (h : campaignArguments totalS rotationS overlapS segmentS = .ok maximumGenerationS) :
    Accepted totalS rotationS overlapS segmentS maximumGenerationS := by
  unfold campaignArguments at h
  obtain ⟨total, htotal, hrest⟩ := bind_eq_ok.mp h
  obtain ⟨rotation, hrotation, hrest⟩ := bind_eq_ok.mp hrest
  obtain ⟨overlap, hoverlap, hrest⟩ := bind_eq_ok.mp hrest
  obtain ⟨segment, hsegment, hpolicy⟩ := bind_eq_ok.mp hrest
  obtain ⟨htotal, -, hshort⟩ := parsePositive_eq_ok htotal
  obtain ⟨hrotation, hpos, -⟩ := parsePositive_eq_ok hrotation
  obtain ⟨hoverlap, -, -⟩ := parsePositive_eq_ok hoverlap
  obtain ⟨hsegment, -, -⟩ := parsePositive_eq_ok hsegment
  subst htotal hrotation hoverlap hsegment
  rw [ite_err_eq_ok] at hpolicy
  obtain ⟨hpolicy, hmaximum⟩ := hpolicy
  simp only [not_or, not_not, not_lt] at hpolicy
  obtain ⟨hequal, -, hsum, hlong⟩ := hpolicy
  -- the guard leaves something of the overlap
  obtain ⟨guardS, hguard, hmaximum⟩ := bind_eq_ok.mp hmaximum
  unfold handoverSealGuardSeconds at hguard
  rw [ite_err_eq_ok] at hguard
  obtain ⟨htwo, hguard⟩ := hguard
  cases hguard
  have hadd : checkedAdd rotation overlap = some (rotation + overlap) :=
    checkedAdd_eq (by unfold u64Max; omega)
  have hsub : checkedSub (rotation + overlap) (sealGuard overlap)
      = some (rotation + overlap - sealGuard overlap) :=
    if_pos (by unfold sealGuard; omega)
  rw [hadd, Option.bind_some, hsub] at hmaximum
  cases hmaximum
  exact ⟨hshort, hpos, by omega, hequal.symm, hsum, hlong, rfl⟩

section

variable {totalS rotationS overlapS segmentS maximumGenerationS : Nat}

theorem sealGuard_lt (h : 2 ≤ overlapS) : 1 ≤ sealGuard overlapS ∧ sealGuard overlapS < overlapS := by
  unfold sealGuard maxHandoverSealGuardS
  omega

/-- A later slot, as the code computes it. -/
theorem plannedCandidate_eq (h : Accepted totalS rotationS overlapS segmentS maximumGenerationS)
    (k : Nat) (hk : k * rotationS + overlapS ≤ totalS) :
    plannedCandidate totalS rotationS overlapS maximumGenerationS k
      = .ok (some (k * rotationS,
        min (if totalS - (k * rotationS + rotationS) < overlapS then
            max (totalS - k * rotationS) (min (overlapS + finalHandoverTailS) u64Max)
          else totalS - k * rotationS) maximumGenerationS)) := by
  have htotal := h.total_le
  have hsum := h.sum_le
  have hmul : checkedMul k rotationS = some (k * rotationS) := if_pos (by unfold u64Max; omega)
  have hsub : checkedSub totalS (k * rotationS) = some (totalS - k * rotationS) :=
    if_pos (by omega)
  have hadd : checkedAdd (k * rotationS) rotationS = some (k * rotationS + rotationS) :=
    checkedAdd_eq (by unfold u64Max; omega)
  unfold plannedCandidate
  rw [hmul]
  dsimp only [okOr, bind, Except.bind]
  rw [hsub]
  dsimp only
  rw [if_neg (by omega), hadd]
  rfl

theorem plannedCandidate_ne (k : Nat) (hk : totalS < k * rotationS + overlapS) (slot : Nat × Nat) :
    plannedCandidate totalS rotationS overlapS maximumGenerationS k ≠ .ok (some slot) := by
  intro hslot
  unfold plannedCandidate at hslot
  obtain ⟨startS, hstart, hslot⟩ := bind_eq_ok.mp hslot
  have hstart : startS = k * rotationS := by
    unfold checkedMul at hstart
    split at hstart
    · exact (Except.ok.inj hstart).symm
    · cases hstart
  subst hstart
  unfold checkedSub at hslot
  by_cases hle : k * rotationS ≤ totalS
  · rw [if_pos hle] at hslot
    dsimp only at hslot
    rw [if_pos (by omega)] at hslot
    cases hslot
  · rw [if_neg hle] at hslot
    cases hslot

def lastSlot (totalS rotationS overlapS : Nat) : Nat := (totalS - overlapS) / rotationS

def lastDuration (totalS rotationS overlapS maximumGenerationS : Nat) : Nat → Nat
  | 0 => min totalS maximumGenerationS
  | n + 1 => min (max (totalS - (n + 1) * rotationS) (min (overlapS + finalHandoverTailS) u64Max))
      maximumGenerationS

/-- The plan: every generation but the last takes the guarded maximum. -/
def planOf (totalS rotationS overlapS maximumGenerationS : Nat) (k : Nat) : Nat × Nat :=
  (k * rotationS,
    if k < lastSlot totalS rotationS overlapS then maximumGenerationS
    else lastDuration totalS rotationS overlapS maximumGenerationS k)

section

variable (h : Accepted totalS rotationS overlapS segmentS maximumGenerationS) {k : Nat}
include h

theorem le_lastSlot_iff (k : Nat) :
    k ≤ lastSlot totalS rotationS overlapS ↔ k * rotationS + overlapS ≤ totalS := by
  have hoverlap := h.overlap_le
  rw [lastSlot, Nat.le_div_iff_mul_le h.rotation_pos]
  omega

theorem slotOf_eq_planOf (hk : k ≤ lastSlot totalS rotationS overlapS) :
    slotOf totalS rotationS overlapS maximumGenerationS k
      = .ok (some (planOf totalS rotationS overlapS maximumGenerationS k)) := by
  have hstart := (le_lastSlot_iff h k).mp hk
  have hnext := le_lastSlot_iff h (k + 1)
  have hmaximum := h.maximum_eq
  have htwo := h.overlap_ge
  rw [Nat.succ_le_iff, Nat.succ_mul] at hnext
  unfold planOf
  cases k with
  | zero =>
    rw [slotOf, Nat.zero_mul]
    by_cases hlast : 0 < lastSlot totalS rotationS overlapS
    · rw [if_pos hlast, Nat.min_eq_right (by have := hnext.mp hlast; omega)]
    · rw [if_neg hlast, lastDuration]
  | succ k =>
    rw [slotOf, plannedCandidate_eq h (k + 1) hstart]
    by_cases hlast : k + 1 < lastSlot totalS rotationS overlapS
    · have hroom := hnext.mp hlast
      rw [if_neg (by omega), if_pos hlast, Nat.min_eq_right (by omega)]
    · have hroom : ¬ (k + 1) * rotationS + rotationS + overlapS ≤ totalS := fun hle =>
        hlast (hnext.mpr hle)
      rw [if_pos (by omega), if_neg hlast, lastDuration]

/-! ## Coverage -/

theorem planOf_overlaps (hk : k < lastSlot totalS rotationS overlapS) :
    let plan := planOf totalS rotationS overlapS maximumGenerationS
    (plan k).1 + (plan k).2 = (plan (k + 1)).1 + (overlapS - sealGuard overlapS) := by
  have hguard := sealGuard_lt h.overlap_ge
  have hmaximum := h.maximum_eq
  dsimp only [planOf]
  rw [if_pos hk, Nat.succ_mul]
  omega

theorem remaining_eq :
    totalS - lastSlot totalS rotationS overlapS * rotationS
      = overlapS + (totalS - overlapS) % rotationS := by
  have hdiv := Nat.div_add_mod (totalS - overlapS) rotationS
  have hoverlap := h.overlap_le
  rw [Nat.mul_comm] at hdiv
  unfold lastSlot
  omega

theorem lastDuration_lt_iff :
    lastDuration totalS rotationS overlapS maximumGenerationS (lastSlot totalS rotationS overlapS)
        < totalS - lastSlot totalS rotationS overlapS * rotationS ↔
      maximumGenerationS < totalS - lastSlot totalS rotationS overlapS * rotationS := by
  have htotal := h.total_le
  generalize lastSlot totalS rotationS overlapS = n
  cases n with
  | zero =>
    rw [lastDuration]
    omega
  | succ n =>
    rw [lastDuration]
    omega

theorem last_reaches_iff :
    totalS ≤ lastSlot totalS rotationS overlapS * rotationS
        + lastDuration totalS rotationS overlapS maximumGenerationS
          (lastSlot totalS rotationS overlapS) ↔
      (totalS - overlapS) % rotationS + sealGuard overlapS ≤ rotationS := by
  have hremaining := remaining_eq h
  have hshort := lastDuration_lt_iff h
  have hmaximum := h.maximum_eq
  have hguard := sealGuard_lt h.overlap_ge
  have hstart := (le_lastSlot_iff h _).mp (Nat.le_refl _)
  omega

/-- Without a cut at the end, every instant lies within the generation that was started last,
    or within the last one. -/
theorem planOf_covers
    (hcondition : (totalS - overlapS) % rotationS + sealGuard overlapS ≤ rotationS) {t : ℚ}
    (hpos : 0 ≤ t) (ht : t ≤ totalS) :
    let plan := planOf totalS rotationS overlapS maximumGenerationS
    ∃ k ≤ lastSlot totalS rotationS overlapS,
      ((plan k).1 : ℚ) ≤ t ∧ t ≤ ((plan k).1 + (plan k).2 : Nat) := by
  dsimp only
  have hfloor : ((⌊t⌋₊ : Nat) : ℚ) ≤ t := Nat.floor_le hpos
  have hceil : t < ((⌊t⌋₊ : Nat) : ℚ) + 1 := Nat.lt_floor_add_one t
  have hstart : ∀ k, k ≤ ⌊t⌋₊ / rotationS → ((k * rotationS : Nat) : ℚ) ≤ t := by
    intro k hk
    have hle : k * rotationS ≤ ⌊t⌋₊ := (Nat.le_div_iff_mul_le h.rotation_pos).mp hk
    exact le_trans (by exact_mod_cast hle) hfloor
  by_cases hk : ⌊t⌋₊ / rotationS < lastSlot totalS rotationS overlapS
  · -- the next slot has not started yet
    refine ⟨⌊t⌋₊ / rotationS, Nat.le_of_lt hk, hstart _ (Nat.le_refl _), ?_⟩
    have hoverlap := planOf_overlaps h hk
    dsimp only at hoverlap
    rw [hoverlap]
    have hnext : ⌊t⌋₊ + 1 ≤ (planOf totalS rotationS overlapS maximumGenerationS
        (⌊t⌋₊ / rotationS + 1)).1 + (overlapS - sealGuard overlapS) := by
      have hlt := Nat.lt_div_mul_add h.rotation_pos (a := ⌊t⌋₊)
      dsimp only [planOf]
      rw [Nat.succ_mul]
      omega
    refine le_trans (le_of_lt hceil) ?_
    exact_mod_cast hnext
  · refine ⟨lastSlot totalS rotationS overlapS, Nat.le_refl _, hstart _ (by omega), ?_⟩
    have hreach := (last_reaches_iff h).mpr hcondition
    have hplan : (planOf totalS rotationS overlapS maximumGenerationS
        (lastSlot totalS rotationS overlapS)).2
        = lastDuration totalS rotationS overlapS maximumGenerationS
          (lastSlot totalS rotationS overlapS) := if_neg (Nat.lt_irrefl _)
    rw [hplan]
    exact le_trans ht (by exact_mod_cast hreach)

theorem planOf_ends_before
    (hcondition : ¬ (totalS - overlapS) % rotationS + sealGuard overlapS ≤ rotationS)
    (hk : k ≤ lastSlot totalS rotationS overlapS) :
    (planOf totalS rotationS overlapS maximumGenerationS k).1
      + (planOf totalS rotationS overlapS maximumGenerationS k).2 < totalS := by
  have hreach := (last_reaches_iff h).not.mpr hcondition
  have hstart := (le_lastSlot_iff h _).mp (Nat.le_refl (lastSlot totalS rotationS overlapS))
  have hguard := sealGuard_lt h.overlap_ge
  rcases Nat.lt_or_eq_of_le hk with hlt | rfl
  · have hoverlap := planOf_overlaps h hlt
    have hmono : (k + 1) * rotationS ≤ lastSlot totalS rotationS overlapS * rotationS :=
      Nat.mul_le_mul_right _ hlt
    dsimp only at hoverlap
    rw [hoverlap]
    show (k + 1) * rotationS + _ < _
    omega
  · have hplan : (planOf totalS rotationS overlapS maximumGenerationS
        (lastSlot totalS rotationS overlapS)).2
        = lastDuration totalS rotationS overlapS maximumGenerationS
          (lastSlot totalS rotationS overlapS) := if_neg (Nat.lt_irrefl _)
    rw [hplan]
    show lastSlot totalS rotationS overlapS * rotationS + _ < _
    omega

end

end

/-- **The planned rotation covers the campaign** exactly when what the last slot has beyond its
    overlap leaves room for the guard within a rotation. -/
theorem rotation_covers_iff (totalS rotationS overlapS segmentS maximumGenerationS : Nat)
    (h : campaignArguments totalS rotationS overlapS segmentS = .ok maximumGenerationS) :
    (∃ n plan, CoversCampaign totalS rotationS overlapS segmentS maximumGenerationS n plan) ↔
      (totalS - overlapS) % rotationS + sealGuard overlapS ≤ rotationS := by
  have hok := accepted_of_arguments h
  constructor
  · rintro ⟨n, plan, hcovers⟩
    by_contra hcondition
    -- the slots of any such plan are those of the code
    obtain ⟨k, hk, -, hend⟩ := hcovers.covers totalS (Nat.cast_nonneg _) (le_refl _)
    have hle : k ≤ lastSlot totalS rotationS overlapS := by
      by_contra hlarge
      have hslot := hcovers.slots k hk
      obtain ⟨k', rfl⟩ : ∃ k', k = k' + 1 := ⟨k - 1, by omega⟩
      refine plannedCandidate_ne _ ?_ _ hslot
      have := (le_lastSlot_iff hok (k' + 1)).not.mp hlarge
      omega
    have hplan : plan k = planOf totalS rotationS overlapS maximumGenerationS k := by
      have hslot := hcovers.slots k hk
      rw [slotOf_eq_planOf hok hle] at hslot
      exact (Option.some.inj (Except.ok.inj hslot)).symm
    have hshort := planOf_ends_before hok hcondition hle
    rw [← hplan] at hshort
    have hreach : totalS ≤ (plan k).1 + (plan k).2 := by exact_mod_cast hend
    omega
  · intro hcondition
    refine ⟨lastSlot totalS rotationS overlapS,
      planOf totalS rotationS overlapS maximumGenerationS, fun k hk => slotOf_eq_planOf hok hk,
      ?_, ?_, fun t hpos ht => planOf_covers hok hcondition hpos ht⟩
    · intro k slot hk
      obtain ⟨k', rfl⟩ : ∃ k', k = k' + 1 := ⟨k - 1, by omega⟩
      refine plannedCandidate_ne _ ?_ _
      have := (le_lastSlot_iff hok (k' + 1)).not.mp (by omega)
      omega
    · intro k hk
      have hoverlap := planOf_overlaps hok hk
      have hguard := sealGuard_lt hok.overlap_ge
      have hsegment := hok.segment_eq
      dsimp only at hoverlap
      omega

/-- Two hours in slots of fifteen minutes. -/
theorem stress_plan_covers :
    ∃ n plan, CoversCampaign 7200 900 900 900 1770 n plan :=
  (rotation_covers_iff 7200 900 900 900 1770 (by decide)).mpr (by decide)

/-- A campaign of 119 seconds in slots of 100 with an overlap of 20 ends a second early. -/
theorem short_plan_is_not_covered :
    campaignArguments 119 100 20 20 = .ok 118 ∧
      ¬ ∃ n plan, CoversCampaign 119 100 20 20 118 n plan := by
  refine ⟨by decide, ?_⟩
  rintro ⟨n, plan, hcovers⟩
  obtain ⟨k, hk, -, hend⟩ := hcovers.covers 119 (by norm_num) (by norm_num)
  have hslot := hcovers.slots k hk
  have hreach : 119 ≤ (plan k).1 + (plan k).2 := by exact_mod_cast hend
  cases k with
  | zero =>
    have hzero : slotOf 119 100 20 118 0 = .ok (some (0, 118)) := by decide
    rw [hzero] at hslot
    rw [← Option.some.inj (Except.ok.inj hslot)] at hreach
    omega
  | succ k => exact plannedCandidate_ne (k + 1) (by omega) _ hslot

end LobReplay.Campaign
