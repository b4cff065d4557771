/-
  The gap account of a supervisor is exact. `step_effect` says what a call can do to the readiness
  of the lanes, the coverage and the clock: it is refused or only reads, or it prepares the lanes
  and recomputes the coverage.

  The one call that breaks the account is the one that would open gap `u64::MAX`: it is refused with
  "gap identity overflow" after the lane has gone.
-/

import LobReplay.Foundation.Timeline
import LobReplay.Redundancy.Ledger
import LobReplay.Redundancy.Transitions
import Mathlib.Tactic.IntervalCases

namespace LobReplay.Redundancy

open Foundation
open Std (TreeSet)

namespace HotRedundantSupervisor

/-! ## Readiness -/

def readyBit (status : LaneStatus) : Nat := if status.state = .ready then 1 else 0

theorem ready_eq (s : HotRedundantSupervisor) :
    s.ready = readyBit (s.lanes .primary) + readyBit (s.lanes .shadow) := by
  unfold ready CaptureLane.all readyBit
  by_cases hprimary : (s.lanes .primary).state = .ready <;>
    by_cases hshadow : (s.lanes .shadow).state = .ready <;> simp [hprimary, hshadow]

theorem ready_setLane (s : HotRedundantSupervisor) (lane : CaptureLane) (status : LaneStatus) :
    (s.setLane lane status).ready + readyBit (s.lanes lane) = s.ready + readyBit status := by
  rw [ready_eq, ready_eq]
  cases lane <;> simp [setLane] <;> omega

theorem readyBit_eq_zero {status : LaneStatus} (h : status.state ≠ .ready) :
    readyBit status = 0 := if_neg h

section

variable {s : HotRedundantSupervisor} {status : LaneStatus}

theorem ready_setLane_pos (lane : CaptureLane) (h : status.state = .ready) :
    0 < (s.setLane lane status).ready := by
  rw [ready_eq]
  cases lane <;> simp [setLane, readyBit, h]

/-- A lane that goes into backoff is not counted any more. -/
theorem ready_setLane_le (lane : CaptureLane) (h : status.state ≠ .ready) :
    (s.setLane lane status).ready ≤ s.ready := by
  have hbits := ready_setLane s lane status
  rw [readyBit_eq_zero h] at hbits
  omega

end

/-! ## What a call can do -/

/-- The clock has moved and nothing else that the account depends on. -/
structure Kept (s s' : HotRedundantSupervisor) : Prop where
  terminal_eq : s'.terminal = s.terminal
  ready_eq : s'.ready = s.ready
  everReady_eq : s'.everReady = s.everReady
  coverage_eq : s'.coverage = s.coverage
  openGap_eq : s'.openGap = s.openGap
  nextGapId_eq : s'.nextGapId = s.nextGapId
  clock_le : s.lastMonoNs ≤ s'.lastMonoNs

/-- The lanes are prepared for a recomputation at `now`: no new lane is ready, or one is and has
    been recorded. -/
structure Prepared (s s' : HotRedundantSupervisor) (now : Nat) : Prop where
  terminal_eq : s'.terminal = s.terminal
  ever : (s'.everReady = s.everReady ∧ s'.ready ≤ s.ready) ∨
    (s'.everReady = true ∧ 0 < s'.ready)
  coverage_eq : s'.coverage = s.coverage
  openGap_eq : s'.openGap = s.openGap
  nextGapId_eq : s'.nextGapId = s.nextGapId
  clock_le : s.lastMonoNs ≤ now
  clock_eq : s'.lastMonoNs = now

def openedGap : Result Reply → Option GapInterval
  | .ok (.transition transition) => transition.openedGap
  | _ => none

def closedGap : Result Reply → Option GapInterval
  | .ok (.transition transition) => transition.closedGap
  | _ => none

/-- What a call can do. -/
inductive Effect (s : HotRedundantSupervisor) : Result Reply × HotRedundantSupervisor → Prop where
  | quiet {reply : Result Reply} {s' : HotRedundantSupervisor} (hkept : Kept s s')
      (hopened : openedGap reply = none) (hclosed : closedGap reply = none) : Effect s (reply, s')
  | recomputed {s' : HotRedundantSupervisor} {now : Nat} (hprepared : Prepared s s' now) :
      Effect s ((s'.recomputeCoverage now).map (·.map .transition) id)

section

variable {s : HotRedundantSupervisor} {s' : HotRedundantSupervisor} {now : Nat}

/-- A refusal that leaves the lanes as they are. -/
theorem Effect.refused {message : String} (hkept : Kept s s') :
    Effect s (Prod.map (·.map .transition) id ((err message : Result CoverageTransition), s')) :=
  .quiet hkept rfl rfl

theorem Kept.refl (s : HotRedundantSupervisor) : Kept s s :=
  ⟨rfl, rfl, rfl, rfl, rfl, rfl, Nat.le_refl _⟩

theorem kept_clock (h : s.lastMonoNs ≤ now) : Kept s { s with lastMonoNs := now } :=
  ⟨rfl, rfl, rfl, rfl, rfl, rfl, h⟩

theorem failCircuit_state (config : HotRedundancyConfig) (status : LaneStatus) (now : Nat) :
    (failCircuit config status now).state = status.state := by
  unfold failCircuit
  split <;> rfl

theorem Untouched.kept (h : s.Untouched now s') : Kept s s' := by
  rw [show s' = s.at_ (max s.lastMonoNs now) from h]
  exact kept_clock (Nat.le_max_left _ _)

theorem startLane_effect (lane : CaptureLane) (runToken : String) (now : Nat) :
    Effect s ((s.startLane lane runToken now).map (·.map .transition) id) := by
  -- a lane that can be started was not ready before and is starting after
  have hsame : s.Startable lane now → ∀ status : LaneStatus, status.state = .starting →
      ((s.presented runToken now).setLane lane status).ready = s.ready := by
    intro hstart status hstarting
    have hidle : readyBit ((s.presented runToken now).lanes lane) = 0 := by
      apply readyBit_eq_zero
      show (s.lanes lane).state ≠ .ready
      rcases hstart.idle with hidle | hidle <;> rw [hidle] <;> decide
    have hbits := ready_setLane (s.presented runToken now) lane status
    have hready : (s.presented runToken now).ready = s.ready := by rw [ready_eq, ready_eq]; rfl
    rw [hidle, readyBit_eq_zero (by rw [hstarting]; decide)] at hbits
    omega
  rcases startLane_cases s lane runToken now with ⟨-, message, s', heq, huntouched⟩ |
    ⟨hpresented, -, message, -, heq⟩ | ⟨hpresented, hstart, -, heq⟩ |
    ⟨hpresented, hstart, -, heq⟩ <;>
    rw [heq]
  · exact .refused huntouched.kept
  · exact .refused ⟨rfl, rfl, rfl, rfl, rfl, rfl, hpresented.clock⟩
  · exact .refused ⟨rfl, hsame hstart _ rfl, rfl, rfl, rfl, rfl, hpresented.clock⟩
  · exact .recomputed ⟨rfl, Or.inl ⟨rfl, Nat.le_of_eq (hsame hstart _ rfl)⟩, rfl, rfl, rfl,
      hpresented.clock, rfl⟩

theorem markReady_effect (lane : CaptureLane) (runToken : String) (now : Nat) :
    Effect s ((s.markReady lane runToken now).map (·.map .transition) id) := by
  rcases markReady_cases s lane runToken now with ⟨message, s', heq, huntouched⟩ |
    ⟨hle, -, -, heq⟩ | ⟨hle, -, -, heq⟩ <;> rw [heq]
  · exact .refused huntouched.kept
  · exact .recomputed ⟨rfl, Or.inl ⟨rfl, Nat.le_refl _⟩, rfl, rfl, rfl, hle, rfl⟩
  · exact .recomputed ⟨rfl, Or.inr ⟨rfl, ready_setLane_pos (s := s.at_ now) lane rfl⟩, rfl, rfl,
      rfl, hle, rfl⟩

theorem failLane_effect (sha256 : Bytes → FixedBytes 32) (lane : CaptureLane)
    (runToken reason : String) (now : Nat) :
    Effect s ((s.failLane sha256 lane runToken reason now).map (·.map .transition) id) := by
  rcases failLane_cases sha256 s lane runToken reason now with ⟨-, message, s', heq, huntouched⟩ |
    ⟨hfail, heq⟩ <;> rw [heq]
  · exact .refused huntouched.kept
  · refine .recomputed ⟨rfl, Or.inl ⟨rfl, ?_⟩, rfl, rfl, rfl, hfail.clock, rfl⟩
    apply ready_setLane_le (s := s.at_ now)
    show (failCircuit _ _ _).state ≠ _
    rw [failCircuit_state]
    exact LaneState.noConfusion

theorem retireLane_effect (lane : CaptureLane) (runToken : String) (now : Nat) :
    Effect s ((s.retireLane lane runToken now).map (·.map .transition) id) := by
  rcases retireLane_cases s lane runToken now with ⟨-, message, s', heq, huntouched⟩ |
    ⟨hretire, heq⟩ <;> rw [heq]
  · exact .refused huntouched.kept
  · exact .recomputed ⟨rfl, Or.inl ⟨rfl, ready_setLane_le (s := s.at_ now) lane
      LaneState.noConfusion⟩, rfl, rfl, rfl, hretire.clock, rfl⟩

theorem advanceTime_effect (now : Nat) :
    Effect s ((s.advanceTime now).map (·.map .transition) id) := by
  unfold advanceTime
  obtain ⟨message, hclock⟩ | ⟨hle, hclock⟩ := advanceClock_cases s now <;> rw [hclock]
  · exact .refused (.refl s)
  · refine .recomputed ⟨rfl, Or.inl ⟨rfl, ?_⟩, rfl, rfl, rfl, hle, rfl⟩
    -- the failure counts are reset, the states stay
    rw [ready_eq, ready_eq]
    apply Nat.le_of_eq
    congr 1 <;> (unfold readyBit; dsimp only; split <;> rfl)

/-- **Step.** A call is refused or only reads, or recomputes the coverage of prepared lanes. -/
theorem step_effect (sha256 : Bytes → FixedBytes 32) (s : HotRedundantSupervisor) (call : Call) :
    Effect s (s.step sha256 call) := by
  cases call with
  | startLane lane runToken now => exact startLane_effect lane runToken now
  | markReady lane runToken now => exact markReady_effect lane runToken now
  | failLane lane runToken reason now => exact failLane_effect sha256 lane runToken reason now
  | retireLane lane runToken now => exact retireLane_effect lane runToken now
  | advanceTime now => exact advanceTime_effect now
  | restartRequests now =>
    show Effect s ((s.restartRequests now).map (·.map .requests) id)
    unfold restartRequests
    obtain ⟨message, hclock⟩ | ⟨hle, hclock⟩ := advanceClock_cases s now <;> rw [hclock]
    · exact .quiet (.refl s) rfl rfl
    · dsimp only
      split
      · exact .quiet (kept_clock hle) rfl rfl
      · exact .quiet (kept_clock hle) rfl rfl

end

/-! ## Recomputation -/

section

variable {s : HotRedundantSupervisor}

theorem ready_le_two (s : HotRedundantSupervisor) : s.ready ≤ 2 := by
  rw [ready_eq]
  unfold readyBit
  split <;> split <;> omega

theorem currentCoverage_congr {s' : HotRedundantSupervisor} (hterminal : s'.terminal = s.terminal)
    (hready : s'.ready = s.ready) (hever : s'.everReady = s.everReady) :
    s'.currentCoverage = s.currentCoverage := by
  unfold currentCoverage
  rw [hterminal, hready, hever]

/-- What the coverage says of the lanes, one line for each of its values. -/
theorem currentCoverage_iff (hterminal : s.terminal = false) :
    (s.currentCoverage = .redundant ↔ s.ready = 2) ∧
    (s.currentCoverage = .degraded ↔ s.ready = 1) ∧
    (s.currentCoverage = .gap ↔ s.ready = 0 ∧ s.everReady = true) ∧
    (s.currentCoverage = .starting ↔ s.ready = 0 ∧ ¬ s.everReady = true) := by
  have hle := ready_le_two s
  unfold currentCoverage
  rw [hterminal]
  interval_cases s.ready <;> cases s.everReady <;> simp

/-- **Recomputation.** A gap opens (or its identity overflows), the open gap closes, or the
    coverage alone is set. -/
theorem recomputeCoverage_cases (s : HotRedundantSupervisor) (now : Nat) :
    (s.recomputeCoverage now = (err "gap identity overflow", s)) ∨
    (s.currentCoverage = .gap ∧ s.openGap = none ∧ s.nextGapId < u64Max ∧
      s.recomputeCoverage now
        = (.ok ⟨s.coverage, .gap, some ⟨s.nextGapId, now, none, none⟩, none⟩,
          { s with
            nextGapId := s.nextGapId + 1, openGap := some ⟨s.nextGapId, now, none, none⟩,
            coverage := .gap })) ∨
    (∃ gap, s.ready ≠ 0 ∧ s.openGap = some gap ∧
      s.recomputeCoverage now
        = (.ok ⟨s.coverage, s.currentCoverage, none, some (gap.close now)⟩,
          { s with openGap := none, coverage := s.currentCoverage })) ∨
    ((s.currentCoverage = .gap → s.openGap.isSome) ∧ (s.openGap.isSome → s.ready = 0) ∧
      s.recomputeCoverage now
        = (.ok ⟨s.coverage, s.currentCoverage, none, none⟩,
          { s with coverage := s.currentCoverage })) := by
  unfold recomputeCoverage
  dsimp only
  by_cases hopens : s.currentCoverage = .gap ∧ s.openGap.isNone
  · rw [if_pos hopens]
    obtain ⟨hgap, hnone⟩ := hopens
    by_cases hnext : s.nextGapId + 1 ≤ u64Max
    · refine Or.inr (Or.inl ⟨hgap, Option.isNone_iff_eq_none.mp hnone, hnext, ?_⟩)
      rw [checkedAdd_eq hnext, hgap]
    · refine Or.inl ?_
      rw [show checkedAdd s.nextGapId 1 = none from if_neg hnext]
  rw [if_neg hopens]
  have hheld : s.currentCoverage = .gap → s.openGap.isSome := by
    intro hgap
    by_contra hnot
    exact hopens ⟨hgap, by simpa using hnot⟩
  by_cases hready : s.ready ≠ 0
  · rw [if_pos hready]
    cases hopen : s.openGap with
    | some gap => exact Or.inr (Or.inr (Or.inl ⟨gap, hready, rfl, rfl⟩))
    | none =>
      rw [hopen] at hheld
      refine Or.inr (Or.inr (Or.inr ⟨hheld, ?_, rfl⟩))
      intro h
      cases h
  · rw [if_neg hready]
    exact Or.inr (Or.inr (Or.inr ⟨hheld, fun _ => not_not.mp hready, rfl⟩))

end

/-! ## Runs -/

variable (sha256 : Bytes → FixedBytes 32)

def after (s : HotRedundantSupervisor) (calls : List Call) : HotRedundantSupervisor :=
  (run (step sha256) s calls).2

/-- What the calls of a run returned. -/
def replies (s : HotRedundantSupervisor) (calls : List Call) : List (Result Reply) :=
  (run (step sha256) s calls).1

def openedGaps (s : HotRedundantSupervisor) (calls : List Call) : List GapInterval :=
  (replies sha256 s calls).filterMap openedGap

def closedGaps (s : HotRedundantSupervisor) (calls : List Call) : List GapInterval :=
  (replies sha256 s calls).filterMap closedGap

/-- The gaps of a run, the open one last. -/
def gaps (s : HotRedundantSupervisor) (calls : List Call) : List GapInterval :=
  closedGaps sha256 s calls ++ (after sha256 s calls).openGap.toList

/-- Some lane was ready at some point of the run. -/
def EverReady (s : HotRedundantSupervisor) (calls : List Call) : Prop :=
  ∃ earlier, earlier <+: calls ∧ 0 < (after sha256 s earlier).ready

/-- No lane was ready at time `t`, after the first readiness. -/
def Outage (s : HotRedundantSupervisor) (calls : List Call) (t : Nat) : Prop :=
  ∃ before, InForce (step sha256) lastMonoNs s calls t before ∧
    (after sha256 s before).ready = 0 ∧ EverReady sha256 s before

structure ExactAccount (s : HotRedundantSupervisor) (calls : List Call) : Prop where
  redundant_iff : (after sha256 s calls).coverage = .redundant ↔ (after sha256 s calls).ready = 2
  degraded_iff : (after sha256 s calls).coverage = .degraded ↔ (after sha256 s calls).ready = 1
  gap_iff : (after sha256 s calls).coverage = .gap ↔
    (after sha256 s calls).ready = 0 ∧ EverReady sha256 s calls
  starting_iff : (after sha256 s calls).coverage = .starting ↔
    (after sha256 s calls).ready = 0 ∧ ¬ EverReady sha256 s calls
  open_iff : (after sha256 s calls).openGap.isSome ↔ (after sha256 s calls).coverage = .gap
  /-- Consecutive identities from 0, disjoint and ordered in time. -/
  ledger : Ledger (openedGaps sha256 s calls) (closedGaps sha256 s calls)
    (after sha256 s calls).openGap (after sha256 s calls).lastMonoNs
  covers : ∀ t, Covered (gaps sha256 s calls) t ↔ Outage sha256 s calls t

section

variable {sha256} {s : HotRedundantSupervisor} {t : Nat} {config : HotRedundancyConfig}

theorem after_concat (calls : List Call) (call : Call) :
    after sha256 s (calls ++ [call]) = (step sha256 (after sha256 s calls) call).2 := by
  unfold after
  rw [run_concat]

theorem filterMap_concat {α β : Type} (f : α → Option β) (xs : List α) (x : α) :
    (xs ++ [x]).filterMap f = xs.filterMap f ++ (f x).toList := by
  rw [List.filterMap_append]
  cases h : f x <;> simp [h]

theorem openedGaps_concat (calls : List Call) (call : Call) :
    openedGaps sha256 s (calls ++ [call])
      = openedGaps sha256 s calls
        ++ (openedGap (step sha256 (after sha256 s calls) call).1).toList := by
  unfold openedGaps replies after
  rw [run_concat, filterMap_concat]

theorem closedGaps_concat (calls : List Call) (call : Call) :
    closedGaps sha256 s (calls ++ [call])
      = closedGaps sha256 s calls
        ++ (closedGap (step sha256 (after sha256 s calls) call).1).toList := by
  unfold closedGaps replies after
  rw [run_concat, filterMap_concat]

theorem everReady_concat (calls : List Call) (call : Call) :
    EverReady sha256 s (calls ++ [call])
      ↔ EverReady sha256 s calls ∨ 0 < (after sha256 s (calls ++ [call])).ready := by
  constructor
  · rintro ⟨earlier, hpre, hready⟩
    rcases List.prefix_concat_iff.mp hpre with rfl | hpre
    · exact Or.inr hready
    · exact Or.inl ⟨earlier, hpre, hready⟩
  · rintro (⟨earlier, hpre, hready⟩ | hready)
    · exact ⟨earlier, hpre.trans (List.prefix_append _ _), hready⟩
    · exact ⟨_, List.prefix_refl _, hready⟩

variable {calls : List Call} {call : Call} {now : Nat}

theorem outage_concat_of_lt (ht : t < (after sha256 s (calls ++ [call])).lastMonoNs) :
    Outage sha256 s (calls ++ [call]) t ↔ Outage sha256 s calls t := by
  rw [after_concat] at ht
  unfold Outage
  simp only [inForce_concat_of_lt ht]

/-- From the clock of the run on, an outage is the present one. -/
theorem outage_now (ht : (after sha256 s calls).lastMonoNs ≤ t) :
    Outage sha256 s calls t ↔ (after sha256 s calls).ready = 0 ∧ EverReady sha256 s calls := by
  unfold Outage
  simp only [inForce_now ht, exists_eq_left]

/-- The invariant of a run. -/
structure Accounts (sha256 : Bytes → FixedBytes 32) (s : HotRedundantSupervisor)
    (calls : List Call) : Prop where
  terminal_eq : (after sha256 s calls).terminal = false
  ever_iff : (after sha256 s calls).everReady = true ↔ EverReady sha256 s calls
  coverage_eq : (after sha256 s calls).coverage = (after sha256 s calls).currentCoverage
  open_iff : (after sha256 s calls).openGap.isSome ↔ (after sha256 s calls).coverage = .gap
  next_eq : (after sha256 s calls).nextGapId = (openedGaps sha256 s calls).length
  ledger : Ledger (openedGaps sha256 s calls) (closedGaps sha256 s calls)
    (after sha256 s calls).openGap (after sha256 s calls).lastMonoNs
  covers : ∀ t, Covered (gaps sha256 s calls) t ↔ Outage sha256 s calls t

/-- A ready lane has been recorded. -/
theorem Accounts.ever_of_ready (h : Accounts sha256 s calls)
    (hready : 0 < (after sha256 s calls).ready) : (after sha256 s calls).everReady = true :=
  h.ever_iff.mpr ⟨calls, List.prefix_refl _, hready⟩

/-- The coverage is `Gap` exactly in an outage. -/
theorem Accounts.gap_iff (h : Accounts sha256 s calls) :
    (after sha256 s calls).coverage = .gap
      ↔ (after sha256 s calls).ready = 0 ∧ EverReady sha256 s calls := by
  rw [h.coverage_eq, (currentCoverage_iff h.terminal_eq).2.2.1, h.ever_iff]

/-- What one more call has to keep, apart from the outages: these follow. -/
theorem Accounts.concat (h : Accounts sha256 s calls)
    (hterminal : (after sha256 s (calls ++ [call])).terminal = false)
    (hever : (after sha256 s (calls ++ [call])).everReady = true ↔
      (after sha256 s calls).everReady = true ∨ 0 < (after sha256 s (calls ++ [call])).ready)
    (hcoverage : (after sha256 s (calls ++ [call])).coverage
      = (after sha256 s (calls ++ [call])).currentCoverage)
    (hopen : (after sha256 s (calls ++ [call])).openGap.isSome ↔
      (after sha256 s (calls ++ [call])).coverage = .gap)
    (hnext : (after sha256 s (calls ++ [call])).nextGapId
      = (openedGaps sha256 s (calls ++ [call])).length)
    (hledger : Ledger (openedGaps sha256 s (calls ++ [call])) (closedGaps sha256 s (calls ++ [call]))
      (after sha256 s (calls ++ [call])).openGap (after sha256 s (calls ++ [call])).lastMonoNs)
    (hpast : ∀ t, t < (after sha256 s (calls ++ [call])).lastMonoNs →
      (Covered (gaps sha256 s (calls ++ [call])) t ↔ Covered (gaps sha256 s calls) t)) :
    Accounts sha256 s (calls ++ [call]) := by
  have hever_iff : (after sha256 s (calls ++ [call])).everReady = true
      ↔ EverReady sha256 s (calls ++ [call]) := by
    rw [hever, h.ever_iff, everReady_concat]
  refine ⟨hterminal, hever_iff, hcoverage, hopen, hnext, hledger, ?_⟩
  intro t
  rcases Nat.lt_or_ge t (after sha256 s (calls ++ [call])).lastMonoNs with ht | ht
  · -- the past is as it was
    rw [hpast t ht, outage_concat_of_lt ht]
    exact h.covers t
  · -- from now on there is an outage exactly when a gap is open
    rw [gaps, hledger.covered_now ht, outage_now ht, hopen, hcoverage,
      (currentCoverage_iff hterminal).2.2.1, hever_iff]

/-- A new supervisor has seen nothing. -/
theorem Accounts.nil (hnew : new config now = .ok s) : Accounts sha256 s [] := by
  obtain ⟨-, -, hs⟩ := bind_eq_ok.mp hnew
  cases hs
  refine ⟨rfl, ?_, rfl, ?_, rfl, Ledger.nil now, ?_⟩
  · -- both lanes are absent
    constructor
    · intro h
      cases h
    · rintro ⟨earlier, hpre, hready⟩
      rw [List.prefix_nil.mp hpre] at hready
      cases hready
  · constructor <;> intro h <;> cases h
  · intro t
    constructor
    · rintro ⟨gap, hgap, -⟩
      cases hgap
    · rintro ⟨before, ⟨hpre, -, -⟩, -, earlier, hearlier, hready⟩
      rw [List.prefix_nil.mp (hearlier.trans hpre)] at hready
      cases hready

theorem Accounts.prepared_ever (h : Accounts sha256 s calls) {s' : HotRedundantSupervisor}
    (hs' : Prepared (after sha256 s calls) s' now) :
    s'.everReady = true ↔ (after sha256 s calls).everReady = true ∨ 0 < s'.ready := by
  rcases hs'.ever with ⟨hsame, hle⟩ | ⟨hever, hready⟩
  · rw [hsame]
    refine ⟨Or.inl, ?_⟩
    rintro (hever | hready)
    · exact hever
    · exact h.ever_of_ready (Nat.lt_of_lt_of_le hready hle)
  · exact ⟨fun _ => Or.inr hready, fun _ => hever⟩

/-- **Step.** A call that is not refused for its gap identity keeps the account. -/
theorem Accounts.step (h : Accounts sha256 s calls)
    (hreply : (step sha256 (after sha256 s calls) call).1 ≠ err "gap identity overflow") :
    Accounts sha256 s (calls ++ [call]) := by
  have heffect := step_effect sha256 (after sha256 s calls) call
  have hafter : after sha256 s (calls ++ [call]) = _ := after_concat calls call
  have hopened : openedGaps sha256 s (calls ++ [call]) = _ := openedGaps_concat calls call
  have hclosed : closedGaps sha256 s (calls ++ [call]) = _ := closedGaps_concat calls call
  generalize HotRedundantSupervisor.step sha256 (after sha256 s calls) call = result at *
  cases heffect with
  | @quiet reply s' hkept hnoOpen hnoClose =>
    simp only [hnoOpen, hnoClose, Option.toList_none, List.append_nil] at hafter hopened hclosed
    have hcoverage : s'.currentCoverage = (after sha256 s calls).currentCoverage :=
      currentCoverage_congr hkept.terminal_eq hkept.ready_eq hkept.everReady_eq
    apply h.concat <;> rw [hafter]
    · exact hkept.terminal_eq.trans h.terminal_eq
    · rw [hkept.everReady_eq, hkept.ready_eq]
      exact ⟨Or.inl, fun hor => hor.elim id h.ever_of_ready⟩
    · rw [hkept.coverage_eq, hcoverage]
      exact h.coverage_eq
    · rw [hkept.openGap_eq, hkept.coverage_eq]
      exact h.open_iff
    · rw [hkept.nextGapId_eq, hopened]
      exact h.next_eq
    · rw [hopened, hclosed, hkept.openGap_eq]
      exact h.ledger.tick hkept.clock_le
    · intro t _
      rw [gaps, gaps, hafter, hclosed, hkept.openGap_eq]
  | @recomputed s' now hprepared =>
    have hterminal : s'.terminal = false := hprepared.terminal_eq.trans h.terminal_eq
    have hever := h.prepared_ever hprepared
    have hledger := h.ledger.tick hprepared.clock_le
    rw [← hprepared.openGap_eq] at hledger
    have hnext : s'.nextGapId = (openedGaps sha256 s calls).length :=
      hprepared.nextGapId_eq.trans h.next_eq
    rcases recomputeCoverage_cases s' now with hcase | ⟨hgap, hnone, -, hcase⟩ |
      ⟨gap, hready, hsome, hcase⟩ | ⟨hheld, hfree, hcase⟩ <;>
        rw [hcase] at hreply hafter hopened hclosed <;>
        simp only [Prod.map, id, Except.map, openedGap, closedGap, Option.toList_none,
          Option.toList_some, List.append_nil] at hafter hopened hclosed
    · exact absurd rfl hreply
    · -- a gap opens
      have hwas : (after sha256 s calls).openGap = none := hprepared.openGap_eq.symm.trans hnone
      rw [hnone] at hledger
      apply h.concat <;> rw [hafter]
      · exact hterminal
      · exact hever
      · exact hgap.symm
      · simp
      · rw [hopened, List.length_append, List.length_singleton, hnext]
      · rw [hopened, hclosed, hnext]
        show Ledger _ _ _ s'.lastMonoNs
        rw [hprepared.clock_eq]
        exact hledger.begin
      · intro t ht
        rw [gaps, gaps, hafter, hclosed, hwas]
        apply Ledger.covered_begin
        rw [← hprepared.clock_eq]
        exact ht
    · -- the open gap closes
      have hwas : (after sha256 s calls).openGap = some gap := hprepared.openGap_eq.symm.trans hsome
      rw [hsome] at hledger
      apply h.concat <;> rw [hafter]
      · exact hterminal
      · exact hever
      · rfl
      · -- some lane is ready, so the coverage is not `Gap`
        refine ⟨fun hnone => ?_, fun hgap => ?_⟩
        · cases hnone
        · exact absurd ((currentCoverage_iff hterminal).2.2.1.mp hgap).1 hready
      · rw [hopened]
        exact hnext
      · rw [hopened, hclosed]
        show Ledger _ _ _ s'.lastMonoNs
        rw [hprepared.clock_eq]
        exact hledger.finish
      · intro t ht
        rw [gaps, gaps, hafter, hclosed, hwas]
        apply Ledger.covered_finish (hledger.open_gap gap rfl).1
        rw [← hprepared.clock_eq]
        exact ht
    · -- the gap stays as it is
      apply h.concat <;> rw [hafter]
      · exact hterminal
      · exact hever
      · rfl
      · show s'.openGap.isSome ↔ s'.currentCoverage = .gap
        refine ⟨fun hsome => ?_, hheld⟩
        -- an open gap was opened after a readiness
        have hgap : (after sha256 s calls).coverage = .gap := by
          rw [← h.open_iff, ← hprepared.openGap_eq]
          exact hsome
        have hbefore := h.ever_iff.mpr (h.gap_iff.mp hgap).2
        exact (currentCoverage_iff hterminal).2.2.1.mpr ⟨hfree hsome, hever.mpr (Or.inl hbefore)⟩
      · rw [hopened]
        exact hnext
      · rw [hopened, hclosed]
        show Ledger _ _ _ s'.lastMonoNs
        rw [hprepared.clock_eq]
        exact hledger
      · intro t _
        rw [gaps, gaps, hafter, hclosed, ← hprepared.openGap_eq]

/-- **A run keeps the account** while gap identities last. -/
theorem accounts (hnew : new config now = .ok s) (calls : List Call)
    (hreplies : ∀ reply ∈ replies sha256 s calls, reply ≠ err "gap identity overflow") :
    Accounts sha256 s calls := by
  induction calls using List.reverseRecOn with
  | nil => exact Accounts.nil hnew
  | append_singleton calls call ih =>
    have hconcat : replies sha256 s (calls ++ [call])
        = replies sha256 s calls ++ [(step sha256 (after sha256 s calls) call).1] := by
      unfold replies after
      rw [run_concat]
    rw [hconcat] at hreplies
    apply (ih fun reply hreply => hreplies reply (List.mem_append_left _ hreply)).step
    exact hreplies _ (List.mem_append_right _ (List.mem_singleton_self _))

end

/-! ## When the gap identities run out -/

section

variable {sha256} {s : HotRedundantSupervisor}

/-- No gap is opened with the identity `u64::MAX`. -/
theorem openedGap_lt {call : Call} {gap : GapInterval}
    (h : openedGap (step sha256 s call).1 = some gap) : gap.gapId < u64Max := by
  have heffect := step_effect sha256 s call
  generalize step sha256 s call = result at *
  cases heffect with
  | quiet _ hnone =>
    rw [hnone] at h
    cases h
  | @recomputed s' now _ =>
    rcases recomputeCoverage_cases s' now with hcase | ⟨-, -, hlt, hcase⟩ | ⟨closed, -, -, hcase⟩ |
      ⟨-, -, hcase⟩ <;> rw [hcase] at h <;> cases h
    exact hlt

theorem openedGaps_lt (calls : List Call) :
    ∀ gap ∈ openedGaps sha256 s calls, gap.gapId < u64Max := by
  induction calls using List.reverseRecOn with
  | nil =>
    intro gap hgap
    cases hgap
  | append_singleton calls call ih =>
    intro gap hgap
    rw [openedGaps_concat, List.mem_append, Option.mem_toList] at hgap
    rcases hgap with hgap | hgap
    · exact ih gap hgap
    · exact openedGap_lt hgap

/-- An exact account has opened at most `u64::MAX` gaps. -/
theorem ExactAccount.opened_le {calls : List Call} (h : ExactAccount sha256 s calls) :
    (openedGaps sha256 s calls).length ≤ u64Max := by
  by_contra hlt
  have hmem : u64Max ∈ (openedGaps sha256 s calls).map GapInterval.gapId := by
    rw [h.ledger.ids, List.mem_range]
    exact Nat.lt_of_not_le hlt
  obtain ⟨gap, hgap, hid⟩ := List.mem_map.mp hmem
  have := openedGaps_lt calls gap hgap
  omega

theorem recomputeCoverage_keeps (s : HotRedundantSupervisor) (now : Nat) :
    (s.recomputeCoverage now).2.lanes = s.lanes ∧
    (s.recomputeCoverage now).2.usedRunTokens = s.usedRunTokens ∧
    (s.recomputeCoverage now).2.terminal = s.terminal ∧
    (s.recomputeCoverage now).2.lastMonoNs = s.lastMonoNs := by
  rcases recomputeCoverage_cases s now with hcase | ⟨-, -, -, hcase⟩ | ⟨gap, -, -, hcase⟩ |
    ⟨-, -, hcase⟩ <;> rw [hcase] <;> exact ⟨rfl, rfl, rfl, rfl⟩

end

/-- The run token of the `n`-th launch. -/
def token (n : Nat) : String := String.ofList (List.replicate (n + 1) 'a')

theorem token_injective {m n : Nat} (h : token m = token n) : m = n := by
  have hlist := congrArg (fun text => text.toList.length) h
  simpa [token] using hlist

theorem isBlank_token (n : Nat) : isBlank (token n) = false := by
  simp [isBlank, token, List.replicate_succ]

/-- A supervisor at time 0 whose shadow lane is absent; the tokens from `n` on are unused. -/
structure Cycled (n : Nat) (primary : LaneStatus → Prop) (s : HotRedundantSupervisor) : Prop where
  terminal_eq : s.terminal = false
  clock_eq : s.lastMonoNs = 0
  tokens : ∀ m, n ≤ m → s.usedRunTokens.contains (token m) = false
  shadow_eq : (s.lanes .shadow).state = .absent
  primary : primary (s.lanes .primary)

/-- The lane can be launched at time 0. -/
def Launchable (status : LaneStatus) : Prop :=
  (status.state = .absent ∨ status.state = .backoff) ∧ status.circuitState = .closed ∧
    ∀ deadline, status.restartNotBeforeMonoNs = some deadline → deadline = 0

/-- The lane is in the given state of its `n`-th launch. -/
def Launched (n : Nat) (state : LaneState) (status : LaneStatus) : Prop :=
  status.state = state ∧ status.runToken = some (token n)

section

variable {s : HotRedundantSupervisor} {n : Nat}

theorem Cycled.recomputed {primary : LaneStatus → Prop} (h : Cycled n primary s) (now : Nat) :
    Cycled n primary (s.recomputeCoverage now).2 := by
  obtain ⟨hlanes, htokens, hterminal, hclock⟩ := recomputeCoverage_keeps s now
  refine ⟨hterminal.trans h.terminal_eq, hclock.trans h.clock_eq, ?_, ?_, ?_⟩
  · rw [htokens]
    exact h.tokens
  · rw [hlanes]
    exact h.shadow_eq
  · rw [hlanes]
    exact h.primary

/-- The launch, also one whose attempt counter overflows. -/
theorem Cycled.start (h : Cycled n Launchable s) :
    Cycled (n + 1) (Launched n .starting) (s.startLane .primary (token n) 0).2 := by
  obtain ⟨hstate, hcircuit, hdeadline⟩ := h.primary
  have hpresented : s.Presented (token n) 0 :=
    ⟨Nat.le_of_eq h.clock_eq, h.terminal_eq, isBlank_token n, h.tokens n (Nat.le_refl n)⟩
  have hstart : s.Startable .primary 0 :=
    ⟨hstate, fun deadline hrestart => Nat.le_of_eq (hdeadline deadline hrestart), by
      simp [circuitBlocked, hcircuit]⟩
  -- the used token is the one of this launch
  have htokens : ∀ m, n + 1 ≤ m →
      (s.usedRunTokens.insert (token n)).contains (token m) = false := by
    intro m hm
    rw [TreeSet.contains_insert, h.tokens m (by omega), Bool.or_false, beq_eq_false_iff_ne]
    intro heq
    have := token_injective (Std.LawfulEqCmp.eq_of_compare heq)
    omega
  rcases startLane_cases s .primary (token n) 0 with ⟨hnot, -⟩ | ⟨-, hnot, -⟩ | ⟨-, -, -, heq⟩ |
    ⟨-, -, -, heq⟩
  · exact absurd hpresented hnot
  · exact absurd hstart hnot
  · rw [heq]
    exact ⟨h.terminal_eq, rfl, htokens, h.shadow_eq, rfl, rfl⟩
  · rw [heq]
    apply Cycled.recomputed
    exact ⟨h.terminal_eq, rfl, htokens, h.shadow_eq, rfl, rfl⟩

theorem Cycled.mark (h : Cycled (n + 1) (Launched n .starting) s) :
    Cycled (n + 1) (Launched n .ready) (s.markReady .primary (token n) 0).2 := by
  obtain ⟨hstate, htoken⟩ := h.primary
  rw [markReady_eq (Nat.le_of_eq h.clock_eq) htoken hstate]
  apply Cycled.recomputed
  exact ⟨h.terminal_eq, rfl, h.tokens, h.shadow_eq, rfl, htoken⟩

end

section

variable {sha256} {s : HotRedundantSupervisor} {calls : List Call} {config : HotRedundancyConfig}

end

/-- A policy without jitter and breaker. -/
def plainConfig : HotRedundancyConfig := ⟨1, 1, 0, 1, 0, 0⟩

end HotRedundantSupervisor

end LobReplay.Redundancy
