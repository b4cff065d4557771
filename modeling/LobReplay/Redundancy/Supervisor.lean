/-
  The availability state machine of two independent capture lanes, `HotRedundantSupervisor` of
  hot_redundancy.rs: it records whether at least one lane is ready, schedules bounded reconnects and
  makes the intervals with no ready lane explicit.

  A call returns its `Result` with the supervisor it leaves behind. Times and counters are the
  values of `u64`s, the saturating and checked operations are written out. The jitter of a reconnect
  is drawn with SHA-256, a parameter.
-/

import LobReplay.Common
import Mathlib.Logic.Function.Basic
import Std.Data.TreeSet

namespace LobReplay.Redundancy

open Foundation
open Std (TreeSet)

/-! ## Data -/

inductive LaneState where
  | absent
  | starting
  | ready
  | backoff
  | terminal
  deriving DecidableEq

/-- `CircuitState`: the breaker of one lane. -/
inductive CircuitState where
  | closed
  | opened
  | halfOpen
  deriving DecidableEq

inductive CoverageState where
  | starting
  | redundant
  | degraded
  | gap
  | terminal
  deriving DecidableEq

structure HotRedundancyConfig where
  backoffInitialNs : Nat
  backoffMaxNs : Nat
  jitterMaxNs : Nat
  backoffResetAfterNs : Nat
  /-- Consecutive failures that open the breaker; `0` disables it. -/
  circuitFailureThreshold : Nat
  circuitResetCooldownNs : Nat
  deriving DecidableEq

/-- `HotRedundancyConfig::validate`. -/
def HotRedundancyConfig.validate (config : HotRedundancyConfig) : Result Unit :=
  if config.backoffInitialNs = 0 ∨ config.backoffMaxNs = 0 ∨ config.backoffResetAfterNs = 0 ∨
      config.backoffMaxNs < config.backoffInitialNs ∨
      config.backoffMaxNs < config.jitterMaxNs then
    err "invalid hot-redundancy reconnect policy"
  else if 0 < config.circuitFailureThreshold ∧ config.circuitResetCooldownNs = 0 then
    err "circuit breaker reset cooldown must be positive when the breaker is enabled"
  else .ok ()

structure LaneStatus where
  lane : CaptureLane
  state : LaneState
  runToken : Option String
  launchAttempt : Nat
  consecutiveFailures : Nat
  startedMonoNs : Option Nat
  readyMonoNs : Option Nat
  restartNotBeforeMonoNs : Option Nat
  lastFailureReason : Option String
  circuitState : CircuitState
  circuitOpenMonoNs : Option Nat
  deriving DecidableEq

/-- `LaneStatus::absent`. -/
def LaneStatus.absent (lane : CaptureLane) : LaneStatus :=
  ⟨lane, .absent, none, 0, 0, none, none, none, none, .closed, none⟩

structure GapInterval where
  gapId : Nat
  openedMonoNs : Nat
  closedMonoNs : Option Nat
  unavailableNs : Option Nat
  deriving DecidableEq

structure RestartRequest where
  lane : CaptureLane
  notBeforeMonoNs : Nat
  nextLaunchAttempt : Nat
  deriving DecidableEq

structure CoverageTransition where
  previous : CoverageState
  current : CoverageState
  openedGap : Option GapInterval
  closedGap : Option GapInterval
  deriving DecidableEq

/-- `HotRedundantSupervisor`; the map of the lanes always holds both. -/
structure HotRedundantSupervisor where
  config : HotRedundancyConfig
  lanes : CaptureLane → LaneStatus
  usedRunTokens : TreeSet String
  coverage : CoverageState
  everReady : Bool
  openGap : Option GapInterval
  nextGapId : Nat
  lastMonoNs : Nat
  terminal : Bool

/-- `CaptureLane::as_str`. -/
def laneText : CaptureLane → String
  | .primary => "PRIMARY"
  | .shadow => "SHADOW"

/-- `u32::MAX`. -/
def u32Max : Nat := 2 ^ 32 - 1

def reconnectDelayNs (sha256 : Bytes → FixedBytes 32) (config : HotRedundancyConfig)
    (lane : CaptureLane) (launchAttempt consecutiveFailures : Nat) (runToken : String) : Nat :=
  -- `1_u64.checked_shl(shift)` is defined, the shift is at most 63
  let shift := min (consecutiveFailures - 1) 63
  let multiplier := 2 ^ shift
  let base := min (min (config.backoffInitialNs * multiplier) u64Max) config.backoffMaxNs
  if config.jitterMaxNs = 0 then base
  else
    let digest := sha256 (asBytes (laneText lane) ++ leBytes 8 launchAttempt ++
      leBytes 4 consecutiveFailures ++ asBytes runToken)
    let sample := leValue (digest.bytes.take 8)
    let jitter := sample % min (config.jitterMaxNs + 1) u64Max
    min (min (base + jitter) u64Max) config.backoffMaxNs

namespace HotRedundantSupervisor

def new (config : HotRedundancyConfig) (nowMonoNs : Nat) : Result HotRedundantSupervisor := do
  config.validate
  return {
    config
    lanes := LaneStatus.absent
    usedRunTokens := TreeSet.empty
    coverage := .starting
    everReady := false
    openGap := none
    nextGapId := 0
    lastMonoNs := nowMonoNs
    terminal := false }

/-- `lanes.get_mut(&lane)`, with what the caller does to the status. -/
def setLane (s : HotRedundantSupervisor) (lane : CaptureLane) (status : LaneStatus) :
    HotRedundantSupervisor :=
  { s with lanes := Function.update s.lanes lane status }

/-- The number of ready lanes. -/
def ready (s : HotRedundantSupervisor) : Nat :=
  (CaptureLane.all.filter fun lane => (s.lanes lane).state = .ready).length

def advanceClock (s : HotRedundantSupervisor) (nowMonoNs : Nat) : Result HotRedundantSupervisor :=
  if nowMonoNs < s.lastMonoNs then
    let last := s.lastMonoNs
    err s!"hot-redundancy monotonic time regressed: {last} -> {nowMonoNs}"
  else .ok { s with lastMonoNs := nowMonoNs }

/-- What the coverage is for a number of ready lanes. -/
def currentCoverage (s : HotRedundantSupervisor) : CoverageState :=
  if s.terminal then .terminal
  else
    match s.ready with
    | 2 => .redundant
    | 1 => .degraded
    | _ => if s.everReady then .gap else .starting

def recomputeCoverage (s : HotRedundantSupervisor) (nowMonoNs : Nat) :
    Result CoverageTransition × HotRedundantSupervisor :=
  let previous := s.coverage
  let current := s.currentCoverage
  if current = .gap ∧ s.openGap.isNone then
    let gap : GapInterval := ⟨s.nextGapId, nowMonoNs, none, none⟩
    match checkedAdd s.nextGapId 1 with
    | none => (err "gap identity overflow", s)
    | some next =>
      (.ok ⟨previous, current, some gap, none⟩,
        { s with nextGapId := next, openGap := some gap, coverage := current })
  else if s.ready ≠ 0 then
    match s.openGap with
    | some gap =>
      let closed := { gap with
        closedMonoNs := some nowMonoNs, unavailableNs := some (nowMonoNs - gap.openedMonoNs) }
      (.ok ⟨previous, current, none, some closed⟩, { s with openGap := none, coverage := current })
    | none => (.ok ⟨previous, current, none, none⟩, { s with coverage := current })
  else (.ok ⟨previous, current, none, none⟩, { s with coverage := current })

/-- Whether the breaker of a lane still denies attempts. -/
def circuitBlocked (s : HotRedundantSupervisor) (status : LaneStatus) (nowMonoNs : Nat) : Bool :=
  status.circuitState = .opened ∧ status.circuitOpenMonoNs.any fun opened =>
    decide (nowMonoNs - opened < s.config.circuitResetCooldownNs)

def startLane (s : HotRedundantSupervisor) (lane : CaptureLane) (runToken : String)
    (nowMonoNs : Nat) : Result CoverageTransition × HotRedundantSupervisor :=
  match s.advanceClock nowMonoNs with
  | .error e => (.error e, s)
  | .ok s =>
    let text := laneText lane
    if s.terminal then (err "cannot start a lane after supervisor termination", s)
    else if isBlank runToken ∨ s.usedRunTokens.contains runToken then
      (err "capture lane run token must be non-empty and never reused", s)
    else
      -- the token counts as used from here on, also when the start is refused
      let s := { s with usedRunTokens := s.usedRunTokens.insert runToken }
      let status := s.lanes lane
      if status.state ≠ .absent ∧ status.state ≠ .backoff then
        (err s!"{text} lane is not eligible to start", s)
      else if status.restartNotBeforeMonoNs.any (fun deadline => decide (nowMonoNs < deadline)) then
        (err s!"{text} lane reconnect backoff has not elapsed", s)
      else if s.circuitBlocked status nowMonoNs then
        (err s!"{text} lane circuit breaker is open", s)
      else
        let status := { status with
          circuitState := if status.circuitState = .opened then .halfOpen else status.circuitState
          state := .starting, runToken := some runToken }
        match checkedAdd status.launchAttempt 1 with
        | none => (err "lane launch-attempt overflow", s.setLane lane status)
        | some launchAttempt =>
          let status := { status with
            launchAttempt, startedMonoNs := some nowMonoNs, readyMonoNs := none,
            restartNotBeforeMonoNs := none, lastFailureReason := none }
          (s.setLane lane status).recomputeCoverage nowMonoNs

def markReady (s : HotRedundantSupervisor) (lane : CaptureLane) (runToken : String)
    (nowMonoNs : Nat) : Result CoverageTransition × HotRedundantSupervisor :=
  match s.advanceClock nowMonoNs with
  | .error e => (.error e, s)
  | .ok s =>
    let text := laneText lane
    let status := s.lanes lane
    if status.runToken ≠ some runToken then
      (err s!"{text} readiness references a stale run token", s)
    else if status.state = .ready then s.recomputeCoverage nowMonoNs
    else if status.state ≠ .starting then
      (err s!"{text} readiness is illegal from its current state", s)
    else
      let status := { status with
        state := .ready, readyMonoNs := some nowMonoNs, circuitState := .closed,
        circuitOpenMonoNs := none }
      let s := { s.setLane lane status with everReady := true }
      s.recomputeCoverage nowMonoNs

/-- The breaker after a failure: a failed probe reopens it, too many failures in a row open it. -/
def failCircuit (config : HotRedundancyConfig) (status : LaneStatus) (nowMonoNs : Nat) :
    LaneStatus :=
  if 0 < config.circuitFailureThreshold ∧ (status.circuitState = .halfOpen ∨
      (status.circuitState = .closed ∧
        config.circuitFailureThreshold ≤ status.consecutiveFailures)) then
    { status with circuitState := .opened, circuitOpenMonoNs := some nowMonoNs }
  else status

def failLane (sha256 : Bytes → FixedBytes 32) (s : HotRedundantSupervisor) (lane : CaptureLane)
    (runToken reason : String) (nowMonoNs : Nat) :
    Result CoverageTransition × HotRedundantSupervisor :=
  match s.advanceClock nowMonoNs with
  | .error e => (.error e, s)
  | .ok s =>
    let text := laneText lane
    if isBlank reason then (err "lane failure reason must not be empty", s)
    else
      let status := s.lanes lane
      if status.runToken ≠ some runToken then
        (err s!"{text} failure references a stale run token", s)
      else if status.state ≠ .starting ∧ status.state ≠ .ready then
        (err s!"{text} failure is duplicate or illegal", s)
      else
        let status := failCircuit s.config { status with
          state := .backoff, readyMonoNs := none, lastFailureReason := some reason,
          consecutiveFailures := min (status.consecutiveFailures + 1) u32Max } nowMonoNs
        let delay := reconnectDelayNs sha256 s.config lane status.launchAttempt
          status.consecutiveFailures runToken
        let status := { status with
          restartNotBeforeMonoNs := some (min (nowMonoNs + delay) u64Max) }
        (s.setLane lane status).recomputeCoverage nowMonoNs

def retireLane (s : HotRedundantSupervisor) (lane : CaptureLane) (runToken : String)
    (nowMonoNs : Nat) : Result CoverageTransition × HotRedundantSupervisor :=
  match s.advanceClock nowMonoNs with
  | .error e => (.error e, s)
  | .ok s =>
    let text := laneText lane
    let status := s.lanes lane
    if status.runToken ≠ some runToken then
      (err s!"{text} retirement references a stale run token", s)
    else if status.state ≠ .ready then
      (err s!"{text} retirement requires a ready lane", s)
    else
      let status := { status with
        state := .backoff, readyMonoNs := none, restartNotBeforeMonoNs := some nowMonoNs,
        lastFailureReason := none, consecutiveFailures := 0, circuitState := .closed,
        circuitOpenMonoNs := none }
      (s.setLane lane status).recomputeCoverage nowMonoNs

def restartRequests (s : HotRedundantSupervisor) (nowMonoNs : Nat) :
    Result (List RestartRequest) × HotRedundantSupervisor :=
  match s.advanceClock nowMonoNs with
  | .error e => (.error e, s)
  | .ok s =>
    if s.terminal then (.ok [], s)
    else
      let requests := CaptureLane.all.filterMap fun lane =>
        let status := s.lanes lane
        if status.state = .backoff ∧
            status.restartNotBeforeMonoNs.any (fun deadline => decide (deadline ≤ nowMonoNs)) ∧
            ¬ s.circuitBlocked status nowMonoNs then
          some ⟨lane, status.restartNotBeforeMonoNs.getD nowMonoNs,
            min (status.launchAttempt + 1) u64Max⟩
        else none
      (.ok requests, s)

def advanceTime (s : HotRedundantSupervisor) (nowMonoNs : Nat) :
    Result CoverageTransition × HotRedundantSupervisor :=
  match s.advanceClock nowMonoNs with
  | .error e => (.error e, s)
  | .ok s =>
    let settle := fun status : LaneStatus =>
      if status.state = .ready ∧ status.readyMonoNs.any (fun ready =>
          decide (s.config.backoffResetAfterNs ≤ nowMonoNs - ready)) then
        { status with consecutiveFailures := 0 }
      else status
    { s with lanes := fun lane => settle (s.lanes lane) }.recomputeCoverage nowMonoNs

def terminate (s : HotRedundantSupervisor) (nowMonoNs : Nat) :
    Result CoverageTransition × HotRedundantSupervisor :=
  match s.advanceClock nowMonoNs with
  | .error e => (.error e, s)
  | .ok s =>
    let stop := fun status : LaneStatus =>
      { status with state := .terminal, restartNotBeforeMonoNs := none }
    (.ok ⟨s.coverage, .terminal, none, none⟩,
      { s with
        terminal := true, lanes := fun lane => stop (s.lanes lane), coverage := .terminal })

/-! ## Runs before termination -/

/-- A call before `terminate`. -/
inductive Call where
  | startLane (lane : CaptureLane) (runToken : String) (nowMonoNs : Nat)
  | markReady (lane : CaptureLane) (runToken : String) (nowMonoNs : Nat)
  | failLane (lane : CaptureLane) (runToken reason : String) (nowMonoNs : Nat)
  | retireLane (lane : CaptureLane) (runToken : String) (nowMonoNs : Nat)
  | advanceTime (nowMonoNs : Nat)
  | restartRequests (nowMonoNs : Nat)
  deriving DecidableEq

/-- What a call returns. -/
inductive Reply where
  | transition (transition : CoverageTransition)
  | requests (requests : List RestartRequest)
  deriving DecidableEq

def step (sha256 : Bytes → FixedBytes 32) (s : HotRedundantSupervisor) :
    Call → Result Reply × HotRedundantSupervisor
  | .startLane lane runToken now => (s.startLane lane runToken now).map (·.map .transition) id
  | .markReady lane runToken now => (s.markReady lane runToken now).map (·.map .transition) id
  | .failLane lane runToken reason now =>
    (s.failLane sha256 lane runToken reason now).map (·.map .transition) id
  | .retireLane lane runToken now => (s.retireLane lane runToken now).map (·.map .transition) id
  | .advanceTime now => (s.advanceTime now).map (·.map .transition) id
  | .restartRequests now => (s.restartRequests now).map (·.map .requests) id

end HotRedundantSupervisor

end LobReplay.Redundancy
