/-
  All a call of the availability state machine can do to a lane. Readiness, failures and retirements
  check everything before they change a lane; a start registers its token first and looks at the
  lane after that. `startLane_cases`, `markReady_cases`, `failLane_cases` and `retireLane_cases` say
  so once.
-/

import LobReplay.Redundancy.Supervisor

namespace LobReplay.Redundancy

open Foundation
open Std (TreeSet)

namespace HotRedundantSupervisor

/-! ## States of a call -/

def started (status : LaneStatus) (runToken : String) (now : Nat) : LaneStatus :=
  { status with
    circuitState := if status.circuitState = .opened then .halfOpen else status.circuitState
    state := .starting, runToken := some runToken, launchAttempt := status.launchAttempt + 1
    startedMonoNs := some now, readyMonoNs := none, restartNotBeforeMonoNs := none
    lastFailureReason := none }

/-- A lane can be started at `now`. -/
structure Startable (s : HotRedundantSupervisor) (lane : CaptureLane) (now : Nat) : Prop where
  idle : (s.lanes lane).state = .absent ∨ (s.lanes lane).state = .backoff
  due : ∀ deadline, (s.lanes lane).restartNotBeforeMonoNs = some deadline → deadline ≤ now
  allowed : s.circuitBlocked (s.lanes lane) now = false

def readied (status : LaneStatus) (now : Nat) : LaneStatus :=
  { status with
    state := .ready, readyMonoNs := some now, circuitState := .closed, circuitOpenMonoNs := none }

/-- The clock of the supervisor moved to `now`. -/
def at_ (s : HotRedundantSupervisor) (now : Nat) : HotRedundantSupervisor :=
  { s with lastMonoNs := now }

def OnlyClock (s s' : HotRedundantSupervisor) : Prop := s' = s.at_ s'.lastMonoNs

/-- The supervisor is as before, but for a clock that has taken notice of `now`. -/
def Untouched (s : HotRedundantSupervisor) (now : Nat) (s' : HotRedundantSupervisor) : Prop :=
  s' = s.at_ (max s.lastMonoNs now)

/-- A start gets as far as to the registration of its token. -/
structure Presented (s : HotRedundantSupervisor) (runToken : String) (now : Nat) : Prop where
  clock : s.lastMonoNs ≤ now
  running : s.terminal = false
  nonblank : isBlank runToken = false
  fresh : s.usedRunTokens.contains runToken = false

/-- A failure is accepted. -/
structure Failable (s : HotRedundantSupervisor) (lane : CaptureLane) (runToken reason : String)
    (now : Nat) : Prop where
  clock : s.lastMonoNs ≤ now
  reason_nonblank : isBlank reason = false
  token : (s.lanes lane).runToken = some runToken
  active : (s.lanes lane).state = .starting ∨ (s.lanes lane).state = .ready

structure Retirable (s : HotRedundantSupervisor) (lane : CaptureLane) (runToken : String)
    (now : Nat) : Prop where
  clock : s.lastMonoNs ≤ now
  token : (s.lanes lane).runToken = some runToken
  ready : (s.lanes lane).state = .ready

def presented (s : HotRedundantSupervisor) (runToken : String) (now : Nat) :
    HotRedundantSupervisor :=
  { s with lastMonoNs := now, usedRunTokens := s.usedRunTokens.insert runToken }

/-- The status of a lane whose launches are exhausted, after the attempt to start it. -/
def overflown (status : LaneStatus) (runToken : String) : LaneStatus :=
  { status with
    circuitState := if status.circuitState = .opened then .halfOpen else status.circuitState
    state := .starting, runToken := some runToken }

def failed (sha256 : Bytes → FixedBytes 32) (config : HotRedundancyConfig) (lane : CaptureLane)
    (status : LaneStatus) (runToken reason : String) (now : Nat) : LaneStatus :=
  let status := failCircuit config { status with
    state := .backoff, readyMonoNs := none, lastFailureReason := some reason,
    consecutiveFailures := min (status.consecutiveFailures + 1) u32Max } now
  let delay := reconnectDelayNs sha256 config lane status.launchAttempt status.consecutiveFailures
    runToken
  { status with restartNotBeforeMonoNs := some (min (now + delay) u64Max) }

def retired (status : LaneStatus) (now : Nat) : LaneStatus :=
  { status with
    state := .backoff, readyMonoNs := none, restartNotBeforeMonoNs := some now,
    lastFailureReason := none, consecutiveFailures := 0, circuitState := .closed,
    circuitOpenMonoNs := none }

def laneRefusals (lane : CaptureLane) : List String :=
  let text := laneText lane
  [s!"{text} lane is not eligible to start", s!"{text} lane reconnect backoff has not elapsed",
    s!"{text} lane circuit breaker is open"]

/-! ## What a call can do -/

section

variable {s : HotRedundantSupervisor} {lane : CaptureLane} {runToken reason : String} {now : Nat}

theorem advanceClock_eq (h : s.lastMonoNs ≤ now) :
    s.advanceClock now = .ok { s with lastMonoNs := now } := by
  unfold advanceClock
  rw [if_neg (by omega)]

theorem markReady_eq (hclock : s.lastMonoNs ≤ now)
    (htoken : (s.lanes lane).runToken = some runToken) (hstate : (s.lanes lane).state = .starting) :
    s.markReady lane runToken now
      = ({ ({ s with lastMonoNs := now } : HotRedundantSupervisor).setLane lane
          (readied (s.lanes lane) now) with everReady := true }).recomputeCoverage now := by
  unfold markReady
  rw [advanceClock_eq hclock]
  dsimp only
  rw [if_neg (by simp [htoken]), if_neg (by simp [hstate]), if_neg (by simp [hstate])]
  rfl

theorem advanceClock_cases (s : HotRedundantSupervisor) (now : Nat) :
    (∃ message, s.advanceClock now = err message) ∨
    (s.lastMonoNs ≤ now ∧ s.advanceClock now = .ok { s with lastMonoNs := now }) := by
  unfold advanceClock
  by_cases hlt : now < s.lastMonoNs
  · rw [if_pos hlt]
    exact Or.inl ⟨_, rfl⟩
  · rw [if_neg hlt]
    exact Or.inr ⟨Nat.le_of_not_lt hlt, rfl⟩

theorem onlyClock_refl (s : HotRedundantSupervisor) : OnlyClock s s := rfl

theorem onlyClock_at (s : HotRedundantSupervisor) (now : Nat) : OnlyClock s (s.at_ now) := rfl

theorem Untouched.onlyClock {s' : HotRedundantSupervisor} (h : s.Untouched now s') :
    OnlyClock s s' := by
  rw [show s' = s.at_ (max s.lastMonoNs now) from h]
  exact onlyClock_at s _

theorem untouched_regressed {message : String} (h : s.advanceClock now = err message) :
    s.Untouched now s := by
  have hlt : now < s.lastMonoNs := by
    by_contra hle
    rw [advanceClock_eq (Nat.le_of_not_lt hle)] at h
    cases h
  unfold Untouched
  rw [Nat.max_eq_left (Nat.le_of_lt hlt)]
  rfl

theorem untouched_at (h : s.lastMonoNs ≤ now) : s.Untouched now (s.at_ now) := by
  unfold Untouched
  rw [Nat.max_eq_right h]

/-- **A start** is refused before its token is registered or after it, runs out of launches, or is
    accepted. -/
theorem startLane_cases (s : HotRedundantSupervisor) (lane : CaptureLane) (runToken : String)
    (now : Nat) :
    (¬ s.Presented runToken now ∧ ∃ message s', s.startLane lane runToken now = (err message, s') ∧
      s.Untouched now s') ∨
    (s.Presented runToken now ∧ ¬ s.Startable lane now ∧ ∃ message ∈ laneRefusals lane,
      s.startLane lane runToken now = (err message, s.presented runToken now)) ∨
    (s.Presented runToken now ∧ s.Startable lane now ∧ u64Max ≤ (s.lanes lane).launchAttempt ∧
      s.startLane lane runToken now = (err "lane launch-attempt overflow",
        (s.presented runToken now).setLane lane (overflown (s.lanes lane) runToken))) ∨
    (s.Presented runToken now ∧ s.Startable lane now ∧ (s.lanes lane).launchAttempt < u64Max ∧
      s.startLane lane runToken now = ((s.presented runToken now).setLane lane
        (started (s.lanes lane) runToken now)).recomputeCoverage now) := by
  unfold startLane
  obtain ⟨message, hclock⟩ | ⟨hle, hclock⟩ := advanceClock_cases s now
  · refine Or.inl ⟨fun hpresented => ?_, message, s, by rw [hclock]; rfl,
      untouched_regressed hclock⟩
    rw [advanceClock_eq hpresented.clock] at hclock
    cases hclock
  rw [hclock]
  dsimp only
  by_cases hterminal : s.terminal = true
  · rw [if_pos hterminal]
    refine Or.inl ⟨fun hpresented => ?_, _, _, rfl, untouched_at hle⟩
    rw [hpresented.running] at hterminal
    cases hterminal
  rw [if_neg hterminal]
  by_cases htoken : isBlank runToken ∨ s.usedRunTokens.contains runToken
  · rw [if_pos htoken]
    refine Or.inl ⟨fun hpresented => ?_, _, _, rfl, untouched_at hle⟩
    rw [hpresented.nonblank, hpresented.fresh] at htoken
    simp at htoken
  rw [if_neg htoken]
  simp only [not_or, Bool.not_eq_true] at htoken
  have hpresented : s.Presented runToken now :=
    ⟨hle, by simpa using hterminal, htoken.1, htoken.2⟩
  refine Or.inr ?_
  by_cases hactive : (s.lanes lane).state ≠ .absent ∧ (s.lanes lane).state ≠ .backoff
  · rw [if_pos hactive]
    refine Or.inl ⟨hpresented, fun hstart => ?_, _, ?_, rfl⟩
    · rcases hstart.idle with h | h
      · exact hactive.1 h
      · exact hactive.2 h
    · simp [laneRefusals]
  rw [if_neg hactive]
  by_cases hearly : (s.lanes lane).restartNotBeforeMonoNs.any
      (fun deadline => decide (now < deadline))
  · rw [if_pos hearly]
    refine Or.inl ⟨hpresented, fun hstart => ?_, _, ?_, rfl⟩
    · obtain ⟨deadline, hdeadline, hlt⟩ := any_decide_eq_true.mp hearly
      have := hstart.due deadline hdeadline
      omega
    · simp [laneRefusals]
  rw [if_neg hearly]
  by_cases hblocked : s.circuitBlocked (s.lanes lane) now
  · have hopen : (s.presented runToken now).circuitBlocked (s.lanes lane) now = true := hblocked
    unfold presented at hopen
    rw [if_pos hopen]
    refine Or.inl ⟨hpresented, fun hstart => ?_, _, ?_, rfl⟩
    · rw [hstart.allowed] at hblocked
      cases hblocked
    · simp [laneRefusals]
  have hallowed : ¬ (s.presented runToken now).circuitBlocked (s.lanes lane) now = true := hblocked
  unfold presented at hallowed
  rw [if_neg hallowed]
  have hstart : s.Startable lane now := by
    refine ⟨?_, ?_, by simpa using hblocked⟩
    · by_contra hnot
      rw [not_or] at hnot
      exact hactive hnot
    · intro deadline hdeadline
      by_contra hlt
      exact hearly (any_decide_eq_true.mpr ⟨deadline, hdeadline, Nat.lt_of_not_le hlt⟩)
  by_cases hattempt : (s.lanes lane).launchAttempt < u64Max
  · have hnext : checkedAdd (s.lanes lane).launchAttempt 1
        = some ((s.lanes lane).launchAttempt + 1) := checkedAdd_eq (by omega)
    rw [hnext]
    exact Or.inr (Or.inr ⟨hpresented, hstart, hattempt, rfl⟩)
  · have hnone : checkedAdd (s.lanes lane).launchAttempt 1 = none := by
      unfold checkedAdd
      rw [if_neg (by omega)]
    rw [hnone]
    exact Or.inr (Or.inl ⟨hpresented, hstart, Nat.le_of_not_lt hattempt, rfl⟩)

/-- **Readiness** is refused, repeated or new. -/
theorem markReady_cases (s : HotRedundantSupervisor) (lane : CaptureLane) (runToken : String)
    (now : Nat) :
    (∃ message s', s.markReady lane runToken now = (err message, s') ∧ s.Untouched now s') ∨
    (s.lastMonoNs ≤ now ∧ (s.lanes lane).runToken = some runToken ∧ (s.lanes lane).state = .ready ∧
      s.markReady lane runToken now = (s.at_ now).recomputeCoverage now) ∨
    (s.lastMonoNs ≤ now ∧ (s.lanes lane).runToken = some runToken ∧
      (s.lanes lane).state = .starting ∧ s.markReady lane runToken now
        = ({ (s.at_ now).setLane lane (readied (s.lanes lane) now) with
            everReady := true }).recomputeCoverage now) := by
  unfold markReady
  obtain ⟨message, hclock⟩ | ⟨hle, hclock⟩ := advanceClock_cases s now
  · exact Or.inl ⟨message, s, by rw [hclock]; rfl, untouched_regressed hclock⟩
  rw [hclock]
  dsimp only
  by_cases htoken : (s.lanes lane).runToken ≠ some runToken
  · rw [if_pos htoken]
    exact Or.inl ⟨_, _, rfl, untouched_at hle⟩
  rw [if_neg htoken]
  rw [not_not] at htoken
  by_cases hready : (s.lanes lane).state = .ready
  · rw [if_pos hready]
    exact Or.inr (Or.inl ⟨hle, htoken, hready, rfl⟩)
  rw [if_neg hready]
  by_cases hstate : (s.lanes lane).state ≠ .starting
  · rw [if_pos hstate]
    exact Or.inl ⟨_, _, rfl, untouched_at hle⟩
  · rw [if_neg hstate]
    exact Or.inr (Or.inr ⟨hle, htoken, not_not.mp hstate, rfl⟩)

/-- **A failure** is refused or accepted. -/
theorem failLane_cases (sha256 : Bytes → FixedBytes 32) (s : HotRedundantSupervisor)
    (lane : CaptureLane) (runToken reason : String) (now : Nat) :
    (¬ s.Failable lane runToken reason now ∧ ∃ message s',
      s.failLane sha256 lane runToken reason now = (err message, s') ∧ s.Untouched now s') ∨
    (s.Failable lane runToken reason now ∧ s.failLane sha256 lane runToken reason now
      = ((s.at_ now).setLane lane (failed sha256 s.config lane (s.lanes lane) runToken reason
          now)).recomputeCoverage now) := by
  unfold failLane
  obtain ⟨message, hclock⟩ | ⟨hle, hclock⟩ := advanceClock_cases s now
  · refine Or.inl ⟨fun hfail => ?_, message, s, by rw [hclock]; rfl, untouched_regressed hclock⟩
    rw [advanceClock_eq hfail.clock] at hclock
    cases hclock
  rw [hclock]
  dsimp only
  by_cases hreason : isBlank reason = true
  · rw [if_pos hreason]
    refine Or.inl ⟨fun hfail => ?_, _, _, rfl, untouched_at hle⟩
    rw [hfail.reason_nonblank] at hreason
    cases hreason
  rw [if_neg hreason]
  by_cases htoken : (s.lanes lane).runToken ≠ some runToken
  · rw [if_pos htoken]
    exact Or.inl ⟨fun hfail => htoken hfail.token, _, _, rfl, untouched_at hle⟩
  rw [if_neg htoken]
  by_cases hidle : (s.lanes lane).state ≠ .starting ∧ (s.lanes lane).state ≠ .ready
  · rw [if_pos hidle]
    refine Or.inl ⟨fun hfail => ?_, _, _, rfl, untouched_at hle⟩
    rcases hfail.active with h | h
    · exact hidle.1 h
    · exact hidle.2 h
  · rw [if_neg hidle]
    refine Or.inr ⟨⟨hle, by simpa using hreason, not_not.mp htoken, ?_⟩, rfl⟩
    by_contra hnot
    rw [not_or] at hnot
    exact hidle hnot

/-- **A retirement** is refused or accepted. -/
theorem retireLane_cases (s : HotRedundantSupervisor) (lane : CaptureLane) (runToken : String)
    (now : Nat) :
    (¬ s.Retirable lane runToken now ∧ ∃ message s',
      s.retireLane lane runToken now = (err message, s') ∧ s.Untouched now s') ∨
    (s.Retirable lane runToken now ∧ s.retireLane lane runToken now
      = ((s.at_ now).setLane lane (retired (s.lanes lane) now)).recomputeCoverage now) := by
  unfold retireLane
  obtain ⟨message, hclock⟩ | ⟨hle, hclock⟩ := advanceClock_cases s now
  · refine Or.inl ⟨fun hretire => ?_, message, s, by rw [hclock]; rfl, untouched_regressed hclock⟩
    rw [advanceClock_eq hretire.clock] at hclock
    cases hclock
  rw [hclock]
  dsimp only
  by_cases htoken : (s.lanes lane).runToken ≠ some runToken
  · rw [if_pos htoken]
    exact Or.inl ⟨fun hretire => htoken hretire.token, _, _, rfl, untouched_at hle⟩
  rw [if_neg htoken]
  by_cases hready : (s.lanes lane).state ≠ .ready
  · rw [if_pos hready]
    exact Or.inl ⟨fun hretire => hready hretire.ready, _, _, rfl, untouched_at hle⟩
  · rw [if_neg hready]
    exact Or.inr ⟨⟨hle, not_not.mp htoken, not_not.mp hready⟩, rfl⟩

end

end HotRedundantSupervisor

end LobReplay.Redundancy
