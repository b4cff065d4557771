/-
  When a call of the availability state machine is accepted, and what it leaves behind. An accepted
  call sets one lane (or settles or stops both) and recomputes the coverage. A recomputation can
  only be refused for want of a gap identity; `Room` says that there are fewer gaps than launches,
  so there is one as long as the launches are few.
-/

import LobReplay.Redundancy.Gaps

namespace LobReplay.Redundancy

open Foundation
open Std (TreeSet)

namespace HotRedundantSupervisor

/-! ## Accepted calls -/

section

variable {s : HotRedundantSupervisor} {lane : CaptureLane} {now : Nat}

variable {runToken : String}

theorem startLane_eq (hclock : s.lastMonoNs ≤ now) (hterminal : s.terminal = false)
    (hblank : isBlank runToken = false) (hused : s.usedRunTokens.contains runToken = false)
    (hstart : s.Startable lane now) (hattempt : (s.lanes lane).launchAttempt < u64Max) :
    s.startLane lane runToken now
      = (({ s with lastMonoNs := now, usedRunTokens := s.usedRunTokens.insert runToken }).setLane lane
          (started (s.lanes lane) runToken now)).recomputeCoverage now := by
  rcases startLane_cases s lane runToken now with ⟨hnot, -⟩ | ⟨-, hnot, -⟩ | ⟨-, -, hle, -⟩ |
    ⟨-, -, -, heq⟩
  · exact absurd ⟨hclock, hterminal, hblank, hused⟩ hnot
  · exact absurd hstart hnot
  · omega
  · exact heq

/-- What a failed or retired lane keeps. -/
structure BackedOff (status status' : LaneStatus) : Prop where
  state_eq : status'.state = .backoff
  attempt_eq : status'.launchAttempt = status.launchAttempt

theorem failLane_eq (sha256 : Bytes → FixedBytes 32) {reason : String} (hclock : s.lastMonoNs ≤ now)
    (hreason : isBlank reason = false) (htoken : (s.lanes lane).runToken = some runToken)
    (hstate : (s.lanes lane).state = .starting ∨ (s.lanes lane).state = .ready) :
    ∃ status, BackedOff (s.lanes lane) status ∧
      s.failLane sha256 lane runToken reason now
        = (({ s with lastMonoNs := now } : HotRedundantSupervisor).setLane lane
            status).recomputeCoverage now := by
  rcases failLane_cases sha256 s lane runToken reason now with ⟨hnot, -⟩ | ⟨-, heq⟩
  · exact absurd ⟨hclock, hreason, htoken, hstate⟩ hnot
  refine ⟨_, ⟨?_, ?_⟩, heq⟩
  · exact failCircuit_state _ _ _
  · unfold failed failCircuit
    dsimp only
    split <;> rfl

theorem retireLane_eq (hclock : s.lastMonoNs ≤ now)
    (htoken : (s.lanes lane).runToken = some runToken) (hstate : (s.lanes lane).state = .ready) :
    ∃ status, BackedOff (s.lanes lane) status ∧
      s.retireLane lane runToken now
        = (({ s with lastMonoNs := now } : HotRedundantSupervisor).setLane lane
            status).recomputeCoverage now := by
  rcases retireLane_cases s lane runToken now with ⟨hnot, -⟩ | ⟨-, heq⟩
  · exact absurd ⟨hclock, htoken, hstate⟩ hnot
  · exact ⟨retired (s.lanes lane) now, ⟨rfl, rfl⟩, heq⟩

def settled (config : HotRedundancyConfig) (now : Nat) (status : LaneStatus) : LaneStatus :=
  if status.state = .ready ∧ status.readyMonoNs.any (fun ready =>
      decide (config.backoffResetAfterNs ≤ now - ready)) then
    { status with consecutiveFailures := 0 }
  else status

theorem advanceTime_eq (hclock : s.lastMonoNs ≤ now) :
    s.advanceTime now
      = ({ s with
          lastMonoNs := now
          lanes := fun lane => settled s.config now (s.lanes lane) }).recomputeCoverage now := by
  unfold advanceTime
  rw [advanceClock_eq hclock]
  rfl

theorem settled_keeps (config : HotRedundancyConfig) (now : Nat) (status : LaneStatus) :
    (settled config now status).state = status.state ∧
    (settled config now status).runToken = status.runToken ∧
    (settled config now status).launchAttempt = status.launchAttempt := by
  unfold settled
  split <;> exact ⟨rfl, rfl, rfl⟩

/-- The supervisor after `terminate`. -/
def stopped (s : HotRedundantSupervisor) (now : Nat) : HotRedundantSupervisor :=
  { s with
    lastMonoNs := now, terminal := true, coverage := .terminal
    lanes := fun lane =>
      { s.lanes lane with state := .terminal, restartNotBeforeMonoNs := none } }

theorem terminate_eq (hclock : s.lastMonoNs ≤ now) :
    s.terminate now = (.ok ⟨s.coverage, .terminal, none, none⟩, s.stopped now) := by
  unfold terminate
  rw [advanceClock_eq hclock]
  rfl

/-- A restart request is about a lane that can be started, and names its next launch. -/
theorem restartRequests_eq (hclock : s.lastMonoNs ≤ now) (hterminal : s.terminal = false) :
    ∃ requests, s.restartRequests now = (.ok requests, { s with lastMonoNs := now }) ∧
      (requests.map RestartRequest.lane).Nodup ∧
      ∀ request ∈ requests, s.Startable request.lane now ∧
        request.nextLaunchAttempt = min ((s.lanes request.lane).launchAttempt + 1) u64Max := by
  unfold restartRequests
  rw [advanceClock_eq hclock]
  dsimp only
  rw [if_neg (by simp [hterminal])]
  refine ⟨_, rfl, ?_, ?_⟩
  · -- at most one request for each lane, in the order of the lanes
    have hlanes : ∀ lane (request : RestartRequest), (if (s.lanes lane).state = .backoff ∧
        (s.lanes lane).restartNotBeforeMonoNs.any (fun deadline => decide (deadline ≤ now)) ∧
        ¬ circuitBlocked { s with lastMonoNs := now } (s.lanes lane) now then
        some (⟨lane, (s.lanes lane).restartNotBeforeMonoNs.getD now,
          min ((s.lanes lane).launchAttempt + 1) u64Max⟩ : RestartRequest) else none)
        = some request → request.lane = lane := by
      intro lane request h
      split at h
      · cases h
        rfl
      · cases h
    rw [List.Nodup, List.pairwise_map, List.pairwise_filterMap]
    have hall : CaptureLane.all.Pairwise (· ≠ ·) := by decide
    apply hall.imp
    intro a b hne x hx y hy
    rw [hlanes a x hx, hlanes b y hy]
    exact hne
  · intro request hrequest
    obtain ⟨lane, -, hlane⟩ := List.mem_filterMap.mp hrequest
    split at hlane
    · next hcond =>
      cases hlane
      obtain ⟨hstate, hdue, hblocked⟩ := hcond
      refine ⟨⟨Or.inr hstate, ?_, ?_⟩, rfl⟩
      · intro deadline hdeadline
        rw [hdeadline] at hdue
        simpa using hdue
      · unfold circuitBlocked at hblocked ⊢
        simpa using hblocked
    · cases hlane

end

/-! ## Room for gaps -/

def startingBit (status : LaneStatus) : Nat := if status.state = .starting then 1 else 0

/-- The launches that have not become ready yet. -/
def starting (s : HotRedundantSupervisor) : Nat :=
  startingBit (s.lanes .primary) + startingBit (s.lanes .shadow)

def launches (s : HotRedundantSupervisor) : Nat :=
  (s.lanes .primary).launchAttempt + (s.lanes .shadow).launchAttempt

/-- Each gap has used up a launch that became ready: one that can still open has one, too. -/
def Room (s : HotRedundantSupervisor) : Prop :=
  s.nextGapId + (if s.everReady = true ∧ (s.openGap = none ∨ s.ready ≠ 0) then 1 else 0) +
    s.starting ≤ s.launches

/-- There is room for gaps, and an open gap means that no lane is ready. -/
structure Roomy (s : HotRedundantSupervisor) : Prop where
  room : s.Room
  idle : ∀ gap, s.openGap = some gap → s.ready = 0

section

variable {s : HotRedundantSupervisor}

/-- What a recomputation keeps, and how it changes the gaps. -/
structure Recomputed (s : HotRedundantSupervisor) (now : Nat) (transition : CoverageTransition)
    (s' : HotRedundantSupervisor) : Prop where
  config_eq : s'.config = s.config
  lanes_eq : s'.lanes = s.lanes
  tokens_eq : s'.usedRunTokens = s.usedRunTokens
  terminal_eq : s'.terminal = s.terminal
  clock_eq : s'.lastMonoNs = s.lastMonoNs
  everReady_eq : s'.everReady = s.everReady
  gaps : (s.currentCoverage = .gap ∧ s.openGap = none ∧ s'.nextGapId = s.nextGapId + 1 ∧
      transition.openedGap = some ⟨s.nextGapId, now, none, none⟩ ∧ transition.closedGap = none ∧
      s'.openGap = transition.openedGap) ∨
    (s'.nextGapId = s.nextGapId ∧ transition.openedGap = none ∧ s.ready ≠ 0 ∧
      (∃ gap, s.openGap = some gap ∧ transition.closedGap = some (gap.close now)) ∧
      s'.openGap = none) ∨
    (s'.nextGapId = s.nextGapId ∧ transition.openedGap = none ∧ transition.closedGap = none ∧
      (∀ gap, s.openGap = some gap → s.ready = 0) ∧ s'.openGap = s.openGap)

theorem recomputeCoverage_ok (s : HotRedundantSupervisor) (now : Nat)
    (hnext : s.nextGapId < u64Max) :
    ∃ transition s', s.recomputeCoverage now = (.ok transition, s') ∧
      Recomputed s now transition s' := by
  have hadd : checkedAdd s.nextGapId 1 = some (s.nextGapId + 1) := checkedAdd_eq (by omega)
  rcases recomputeCoverage_cases s now with hcase | ⟨hgap, hnone, -, hcase⟩ |
    ⟨gap, hready, hsome, hcase⟩ | ⟨-, hidle, hcase⟩
  · -- an identity is left
    unfold recomputeCoverage at hcase
    dsimp only at hcase
    split at hcase
    · rw [hadd] at hcase
      cases hcase
    · split at hcase
      · split at hcase <;> cases hcase
      · cases hcase
  · refine ⟨_, _, hcase, rfl, rfl, rfl, rfl, rfl, rfl, Or.inl ⟨hgap, hnone, rfl, rfl, rfl, rfl⟩⟩
  · refine ⟨_, _, hcase, rfl, rfl, rfl, rfl, rfl, rfl,
      Or.inr (Or.inl ⟨rfl, rfl, hready, ⟨gap, hsome, rfl⟩, rfl⟩)⟩
  · refine ⟨_, _, hcase, rfl, rfl, rfl, rfl, rfl, rfl, Or.inr (Or.inr ⟨rfl, rfl, rfl, ?_, rfl⟩)⟩
    intro gap hgap
    exact hidle (by rw [hgap]; rfl)

variable {now : Nat} {lane : CaptureLane}

theorem Recomputed.roomy {s' : HotRedundantSupervisor} {transition : CoverageTransition}
    (h : Recomputed s now transition s') (hterminal : s.terminal = false) (hroom : s.Room) :
    s'.Roomy := by
  have hready : s'.ready = s.ready := by rw [ready_eq, ready_eq, h.lanes_eq]
  have hstarting : s'.starting = s.starting := by unfold starting; rw [h.lanes_eq]
  have hlaunches : s'.launches = s.launches := by unfold launches; rw [h.lanes_eq]
  unfold Room at hroom
  rcases h.gaps with ⟨hgap, hnone, hnext, hopened, -, hopen⟩ | ⟨hnext, -, hbusy, -, hopen⟩ |
    ⟨hnext, -, -, hidle, hopen⟩
  · -- the gap that opens has a launch of its own
    obtain ⟨hzero, hever⟩ := (currentCoverage_iff hterminal).2.2.1.mp hgap
    rw [if_pos ⟨hever, Or.inl hnone⟩] at hroom
    refine ⟨?_, fun _ _ => by rw [hready, hzero]⟩
    unfold Room
    rw [hopen, hopened, hready, hzero, hnext, hstarting, hlaunches, if_neg (by simp)]
    omega
  · -- the gap that closes is not needed any more
    refine ⟨?_, fun gap hgap => by rw [hopen] at hgap; cases hgap⟩
    unfold Room
    rw [hopen, hnext, hstarting, hlaunches, h.everReady_eq]
    by_cases hever : s.everReady = true
    · rw [if_pos ⟨hever, Or.inr hbusy⟩] at hroom
      rw [if_pos ⟨hever, Or.inl rfl⟩]
      exact hroom
    · rw [if_neg (fun hand => hever hand.1)]
      omega
  · refine ⟨?_, fun gap hgap => by rw [hready]; exact hidle gap (hopen ▸ hgap)⟩
    unfold Room
    rw [hopen, hnext, hstarting, hlaunches, hready, h.everReady_eq]
    exact hroom

theorem Room.nextGapId_le (h : s.Room) : s.nextGapId ≤ s.launches := by
  unfold Room at h
  omega

theorem starting_setLane (s : HotRedundantSupervisor) (lane : CaptureLane) (status : LaneStatus) :
    (s.setLane lane status).starting + startingBit (s.lanes lane)
      = s.starting + startingBit status := by
  unfold starting
  cases lane <;> simp [setLane] <;> omega

theorem launches_setLane (s : HotRedundantSupervisor) (lane : CaptureLane) (status : LaneStatus) :
    (s.setLane lane status).launches + (s.lanes lane).launchAttempt
      = s.launches + status.launchAttempt := by
  unfold launches
  cases lane <;> simp [setLane] <;> omega

/-- A lane that starts brings a launch for the gap it may end in. -/
theorem Roomy.start {runToken : String} {tokens : TreeSet String} (h : s.Roomy)
    (hidle : (s.lanes lane).state = .absent ∨ (s.lanes lane).state = .backoff) :
    (({ s with lastMonoNs := now, usedRunTokens := tokens } : HotRedundantSupervisor).setLane lane
      (started (s.lanes lane) runToken now)).Room := by
  set u : HotRedundantSupervisor := { s with lastMonoNs := now, usedRunTokens := tokens } with hu
  have hstarting := starting_setLane u lane (started (s.lanes lane) runToken now)
  have hlaunches := launches_setLane u lane (started (s.lanes lane) runToken now)
  have hready := ready_setLane u lane (started (s.lanes lane) runToken now)
  have hbits : startingBit (s.lanes lane) = 0 ∧ readyBit (s.lanes lane) = 0 := by
    rcases hidle with hstate | hstate <;> simp [startingBit, readyBit, hstate]
  have hroom := h.room
  unfold Room at hroom ⊢
  rw [show u.lanes lane = s.lanes lane from rfl, hbits.1,
    show startingBit (started (s.lanes lane) runToken now) = 1 from rfl] at hstarting
  rw [show u.lanes lane = s.lanes lane from rfl, hbits.2,
    show readyBit (started (s.lanes lane) runToken now) = 0 from rfl] at hready
  rw [show u.lanes lane = s.lanes lane from rfl,
    show (started (s.lanes lane) runToken now).launchAttempt = (s.lanes lane).launchAttempt + 1
      from rfl] at hlaunches
  rw [show u.starting = s.starting from rfl] at hstarting
  rw [show u.launches = s.launches from rfl] at hlaunches
  rw [show u.ready = s.ready by rw [ready_eq, ready_eq]] at hready
  rw [show (u.setLane lane (started (s.lanes lane) runToken now)).ready = s.ready by omega]
  show s.nextGapId + (if s.everReady = true ∧ (s.openGap = none ∨ s.ready ≠ 0) then 1 else 0) +
    _ ≤ _
  omega

/-- A lane that becomes ready frees its launch for a gap. -/
theorem Roomy.ready (h : s.Roomy) (hstate : (s.lanes lane).state = .starting) :
    ({ ({ s with lastMonoNs := now } : HotRedundantSupervisor).setLane lane
      (readied (s.lanes lane) now) with everReady := true } : HotRedundantSupervisor).Room := by
  set u : HotRedundantSupervisor := { s with lastMonoNs := now } with hu
  have hstarting := starting_setLane u lane (readied (s.lanes lane) now)
  have hlaunches := launches_setLane u lane (readied (s.lanes lane) now)
  have hroom := h.room
  unfold Room at hroom ⊢
  rw [show u.lanes lane = s.lanes lane from rfl,
    show startingBit (s.lanes lane) = 1 by simp [startingBit, hstate],
    show startingBit (readied (s.lanes lane) now) = 0 from rfl,
    show u.starting = s.starting from rfl] at hstarting
  rw [show u.lanes lane = s.lanes lane from rfl,
    show (readied (s.lanes lane) now).launchAttempt = (s.lanes lane).launchAttempt from rfl,
    show u.launches = s.launches from rfl] at hlaunches
  show s.nextGapId + _ + (u.setLane lane (readied (s.lanes lane) now)).starting
    ≤ (u.setLane lane (readied (s.lanes lane) now)).launches
  split <;> omega

/-- A lane that fails or retires leaves the room as it is. -/
theorem Roomy.backOff {status : LaneStatus} (h : s.Roomy)
    (hstatus : BackedOff (s.lanes lane) status) :
    (({ s with lastMonoNs := now } : HotRedundantSupervisor).setLane lane status).Room := by
  set u : HotRedundantSupervisor := { s with lastMonoNs := now } with hu
  have hstarting := starting_setLane u lane status
  have hlaunches := launches_setLane u lane status
  have hready := ready_setLane u lane status
  have hroom := h.room
  unfold Room at hroom ⊢
  rw [show u.lanes lane = s.lanes lane from rfl,
    show startingBit status = 0 by simp [startingBit, hstatus.state_eq],
    show u.starting = s.starting from rfl] at hstarting
  rw [show u.lanes lane = s.lanes lane from rfl, hstatus.attempt_eq,
    show u.launches = s.launches from rfl] at hlaunches
  have hbit : readyBit status = 0 := readyBit_eq_zero (by rw [hstatus.state_eq]; decide)
  rw [hbit, show u.ready = s.ready by rw [ready_eq, ready_eq]] at hready
  show s.nextGapId + (if s.everReady = true ∧
    (s.openGap = none ∨ (u.setLane lane status).ready ≠ 0) then 1 else 0) + _ ≤ _
  -- an open gap means that no lane was ready, so none is now
  have hle : (if s.everReady = true ∧ (s.openGap = none ∨ (u.setLane lane status).ready ≠ 0)
      then 1 else 0) ≤ (if s.everReady = true ∧ (s.openGap = none ∨ s.ready ≠ 0) then 1 else 0) := by
    split
    · next hpending =>
      rw [if_pos ⟨hpending.1, hpending.2.imp id fun hbusy => by omega⟩]
    · exact Nat.zero_le _
  omega

/-- Settled lanes leave the room as it is. -/
theorem Roomy.settle (h : s.Roomy) :
    ({ s with
      lastMonoNs := now
      lanes := fun lane => settled s.config now (s.lanes lane) } : HotRedundantSupervisor).Room := by
  have hroom := h.room
  unfold Room starting launches startingBit at hroom ⊢
  rw [ready_eq] at hroom ⊢
  unfold readyBit at hroom ⊢
  dsimp only
  simp only [(settled_keeps _ _ _).1, (settled_keeps _ _ _).2.2]
  exact hroom

end

end HotRedundantSupervisor

end LobReplay.Redundancy
