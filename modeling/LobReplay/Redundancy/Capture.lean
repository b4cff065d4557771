/-
  The main loop of a hot-redundant capture, `run` of bin/hot_redundant_capture.rs: it launches a
  child for each lane, reads their output and journals, drives the availability state machine and,
  once the deadline has passed and no child is left, commits.

  Every read of the clock is an input of its own, in nanoseconds since `origin`; so are the lines
  and records that arrive and the exits the loop observes. `Poll.reads` lists the reads of one
  iteration in the order of the source.
-/

import LobReplay.Redundancy.Runtime

namespace LobReplay.Redundancy

open Foundation
open Campaign (CampaignJournalEnvelopeV1)

/-! ## Setup -/

/-- `Arguments`: the durations of a capture, as `parse_arguments` lets them through. -/
structure Arguments where
  totalS : Nat
  overlapS : Nat
  primaryWindowS : Nat
  shadowWindowS : Nat
  total_pos : 0 < totalS
  total_le : totalS ≤ 365 * 24 * 3600

namespace Arguments

def windowS (args : Arguments) : CaptureLane → Nat
  | .primary => args.primaryWindowS
  | .shadow => args.shadowWindowS

/-- `origin + Duration::from_secs(args.total_s)`. -/
def deadline (args : Arguments) : Nat := args.totalS * 1000000000

/-- `args.total_s.saturating_mul(1_000_000_000)`. -/
def horizonNs (args : Arguments) : Nat := min (args.totalS * 1000000000) u64Max

/-- `deadline + TERMINAL_COMPLETION_GRACE`. -/
def terminalDeadline (args : Arguments) : Nat := args.deadline + 30 * 60 * 1000000000

end Arguments

def childHeartbeatDeadline : Nat := 30 * 1000000000

def childOutputDrain : Nat := 1000000000

def ceilSeconds (duration : Nat) : Nat :=
  duration / 1000000000 + if duration % 1000000000 ≠ 0 then 1 else 0

/-- The reconnect policy of a capture. -/
def captureConfig : HotRedundancyConfig where
  backoffInitialNs := 1000000000
  backoffMaxNs := 60000000000
  jitterMaxNs := 1000000000
  backoffResetAfterNs := 300000000000
  circuitFailureThreshold := 5
  circuitResetCooldownNs := 60000000000

/-- `lane.as_str().to_ascii_lowercase()`. -/
def laneLeaf : CaptureLane → String
  | .primary => "primary"
  | .shadow => "shadow"

/-- The run token of a launch. -/
def laneToken (lane : CaptureLane) (attempt : Nat) (uuid : String) : String :=
  laneLeaf lane ++ "-" ++ toString attempt ++ "-" ++ uuid

/-! ## State -/

structure LaneRunResultV1 where
  lane : CaptureLane
  token : String
  requestedS : Nat
  startedMonoNs : Nat
  ready : Bool
  campaignId : Option String
  campaignDir : Option String
  exitSuccess : Bool
  exitCode : Option Int
  failureReason : Option String
  failureRecordSha256 : Option String
  stderrLines : List String
  deriving DecidableEq

/-- The variables of `run`. -/
structure CaptureState where
  supervisor : HotRedundantSupervisor
  runtimes : CaptureLane → Option LaneRuntime := fun _ => none
  runResults : List LaneRunResultV1 := []
  gaps : List GapInterval := []
  journal : List SupervisorRecord := []
  horizonClosed : Bool := false

/-- `journal.append(origin, channel, payload)`. -/
def CaptureState.append (s : CaptureState) (channel : String) (members : List (String × Value)) :
    CaptureState :=
  { s with journal := s.journal ++ [⟨channel, .object members⟩] }

/-- `runtimes.insert(lane, runtime)`. -/
def CaptureState.setRuntime (s : CaptureState) (lane : CaptureLane)
    (runtime : Option LaneRuntime) : CaptureState :=
  { s with runtimes := Function.update s.runtimes lane runtime }

/-- A `u64` in JSON. -/
def natValue (n : Nat) : Value := .nat (UInt64.ofNat n)

/-- An optional `u64` in JSON. -/
def optionNatValue (n : Option Nat) : Value := (n.map natValue).getD .null

/-- A `GapInterval` in JSON. -/
def gapValue (gap : GapInterval) : Value :=
  .object [("closed_mono_ns", optionNatValue gap.closedMonoNs), ("gap_id", natValue gap.gapId),
    ("opened_mono_ns", natValue gap.openedMonoNs),
    ("unavailable_ns", optionNatValue gap.unavailableNs)]

/-- A `CoverageState` in JSON. -/
def coverageValue : CoverageState → Value
  | .starting => .string "STARTING"
  | .redundant => .string "REDUNDANT"
  | .degraded => .string "DEGRADED"
  | .gap => .string "GAP"
  | .terminal => .string "TERMINAL"

/-- An exit code in JSON. -/
def codeValue : Option Int → Value
  | some code => .number (if 0 ≤ code then .posInt (UInt64.ofNat code.toNat) else .negInt code)
  | none => .null

/-- An exit code as `{:?}` prints it. -/
def codeText : Option Int → String
  | some code => s!"Some({code})"
  | none => "None"

/-! ## Transitions -/

/-- The change of coverage in the journal. -/
def noteCoverage (s : CaptureState) (transition : CoverageTransition) : CaptureState :=
  if transition.previous ≠ transition.current then
    s.append "COVERAGE" [("current", coverageValue transition.current),
      ("event", .string "COVERAGE_CHANGED"), ("previous", coverageValue transition.previous)]
  else s

def noteOpened (s : CaptureState) : Option GapInterval → CaptureState
  | some gap => { s with gaps := s.gaps ++ [gap] }.append "COVERAGE"
      [("event", .string "GAP_OPENED"), ("gap", gapValue gap)]
  | none => s

def noteClosed (s : CaptureState) : Option GapInterval → Result CaptureState
  | some gap =>
    match s.gaps.findIdx? fun candidate => decide (candidate.gapId = gap.gapId) with
    | some i => .ok ({ s with gaps := s.gaps.set i gap }.append "COVERAGE"
        [("event", .string "GAP_CLOSED"), ("gap", gapValue gap)])
    | none => err "closed gap was never durably opened"
  | none => .ok s

def recordTransition (s : CaptureState) (transition : CoverageTransition) : Result CaptureState :=
  noteClosed (noteOpened (noteCoverage s transition) transition.openedGap) transition.closedGap

/-- A call of the state machine and the record of its transition. -/
def supervise (s : CaptureState) (reply : Result CoverageTransition × HotRedundantSupervisor) :
    Except Abort CaptureState := do
  let transition ← within .supervisor reply.1
  within .transition (recordTransition { s with supervisor := reply.2 } transition)

/-! ## Inputs -/

/-- The launch of a lane: the random part of its token, the process and the reads around it. -/
structure LaunchInput where
  /-- The read before the start, of the first launches only. -/
  startRead : Nat
  /-- `Instant::now()` for the time that remains, of the later launches only. -/
  remainingRead : Nat
  uuid : String
  pid : Nat
  startedRead : Nat
  heartbeatRead : Nat

/-- What the watch over a lane finds. -/
structure LanePoll where
  records : List CampaignJournalEnvelopeV1
  exit : Option ExitStatus
  exitRead : Nat
  staleRead : Nat
  staleReportRead : Nat
  staleResetRead : Nat

/-- What the completion of a lane finds. -/
structure CompletionPoll where
  drainRead : Nat
  /-- The lines that have arrived, with the read at which each is taken. -/
  outputs : List (Nat × ChildOutput)
  records : List CampaignJournalEnvelopeV1
  /-- Whether `campaign.json` is a file. -/
  campaignJson : Bool

/-- What one iteration finds. -/
structure Poll where
  outputs : List (Nat × ChildOutput)
  nowRead : Nat
  horizonRead : Nat
  lanes : CaptureLane → LanePoll
  completions : CaptureLane → CompletionPoll
  restartRead : Nat
  launches : CaptureLane → LaunchInput
  breakRead : Nat
  graceRead : Nat
  finishRead : Nat

def LanePoll.reads (poll : LanePoll) : List Nat :=
  [poll.exitRead, poll.staleRead, poll.staleReportRead, poll.staleResetRead]

def LaunchInput.restartReads (launch : LaunchInput) : List Nat :=
  [launch.remainingRead, launch.startedRead, launch.heartbeatRead]

/-- The reads of an iteration in their order. The last read before `elapsed_ns` of the commit
    and the one of the grace exclude each other. -/
def Poll.reads (poll : Poll) : List Nat :=
  poll.outputs.map Prod.fst ++ [poll.nowRead, poll.horizonRead] ++
    (poll.lanes .primary).reads ++ (poll.lanes .shadow).reads ++
    [(poll.completions .primary).drainRead, (poll.completions .shadow).drainRead] ++
    (poll.completions .primary).outputs.map Prod.fst ++
    (poll.completions .shadow).outputs.map Prod.fst ++ [poll.restartRead] ++
    (poll.launches .primary).restartReads ++ (poll.launches .shadow).restartReads ++
    [poll.breakRead, poll.graceRead, poll.finishRead]

/-! ## One iteration -/

variable (codec : CaptureCodec) (args : Arguments) (runDir : String)

def processOutput (s : CaptureState) (input : Nat × ChildOutput) : Except Abort CaptureState :=
  let lane := input.2.source.1
  match s.runtimes lane with
  | none => .ok s
  | some runtime =>
    if runtime.token ≠ input.2.source.2 then .ok s
    else do
      let (runtime, records) ← within .output (processLine codec runDir runtime input.1 input.2)
      return { s.setRuntime lane (some runtime) with journal := s.journal ++ records }

/-- `while let Ok(event) = output_rx.try_recv()`. -/
def drainOutput (s : CaptureState) (outputs : List (Nat × ChildOutput)) :
    Except Abort CaptureState :=
  outputs.foldlM (processOutput codec runDir) s

/-- The capture horizon closes at the first check after the deadline. -/
def closeHorizon (s : CaptureState) (read : Nat) : Except Abort CaptureState :=
  if s.horizonClosed = false ∧ args.deadline ≤ read then do
    let s ← supervise s (s.supervisor.terminate args.horizonNs)
    return { s.append "SUPERVISOR" [("capture_horizon_mono_ns", natValue args.horizonNs),
        ("event", .string "CAPTURE_HORIZON_CLOSED"),
        ("terminal_drain_is_not_market_coverage", .bool true)] with horizonClosed := true }
  else .ok s

/-- `cursor.read_new()` and the cause of a failure it finds. -/
def refresh (runtime : LaneRuntime) (records : List CampaignJournalEnvelopeV1) :
    Result LaneRuntime :=
  match runtime.cursor with
  | none => .ok runtime
  | some cursor => do
    let cursor ← readNew codec cursor records
    return { runtime with
      cursor := some cursor
      failureReason := runtime.failureReason <|> cursor.facts.failureReason }

/-- `!runtime.ready && cursor.facts.ready()`. -/
def LaneRuntime.becomesReady (runtime : LaneRuntime) : Bool :=
  ! runtime.ready && runtime.cursor.any (·.facts.ready)

/-- `child.try_wait()`, until the exit has been seen. -/
def LaneRuntime.pollExit (runtime : LaneRuntime) (poll : LanePoll) : LaneRuntime :=
  match runtime.exitStatus, poll.exit with
  | none, some status =>
    { runtime with exitStatus := some status, exitSeen := some poll.exitRead }
  | _, _ => runtime

/-- The notice of a ready lane whose child has been silent. -/
def noteStale (s : CaptureState) (lane : CaptureLane) (runtime : LaneRuntime) (poll : LanePoll) :
    CaptureState :=
  if runtime.exitStatus.isNone ∧ childHeartbeatDeadline < poll.staleRead - runtime.lastHeartbeat ∧
      runtime.ready then
    (s.setRuntime lane (some { runtime with lastHeartbeat := poll.staleResetRead })).append "LANE"
      [("elapsed_ms", natValue ((poll.staleReportRead - runtime.lastHeartbeat) / 1000000)),
        ("event", .string "LANE_COORDINATOR_HEARTBEAT_STALE"), ("lane", laneValue lane),
        ("token", .string runtime.token)]
  else s.setRuntime lane (some runtime)

def watchLane (now : Nat) (poll : Poll) (s : CaptureState) (lane : CaptureLane) :
    Except Abort CaptureState :=
  match s.runtimes lane with
  | none => .ok s
  | some runtime => do
    let runtime ← within .journal (refresh codec runtime (poll.lanes lane).records)
    if runtime.becomesReady then do
      let runtime := { runtime with ready := true }
      let s ← supervise s (s.supervisor.markReady lane runtime.token now)
      let s := s.append "LANE" [("campaign_id", optionValue runtime.campaignId),
        ("event", .string "LANE_READY"), ("lane", laneValue lane), ("token", .string runtime.token)]
      return noteStale s lane (runtime.pollExit (poll.lanes lane)) (poll.lanes lane)
    else return noteStale s lane (runtime.pollExit (poll.lanes lane)) (poll.lanes lane)

/-- Whether the exit of a child has been seen long enough ago. -/
def LaneRuntime.drained (runtime : LaneRuntime) (read : Nat) : Bool :=
  runtime.exitStatus.isSome && runtime.exitSeen.any fun seen => decide (childOutputDrain ≤ read - seen)

/-- The lanes whose child has exited and been drained. -/
def completed (s : CaptureState) (poll : Poll) : List CaptureLane :=
  CaptureLane.all.filter fun lane =>
    (s.runtimes lane).any (·.drained (poll.completions lane).drainRead)

/-- Whether a completed run was clean. -/
def LaneRuntime.clean (runtime : LaneRuntime) (status : ExitStatus) (campaignJson : Bool) : Bool :=
  status.success && runtime.ready && runtime.failureReason.isNone && runtime.stderrLines.isEmpty &&
    runtime.terminalPathSeen && runtime.campaignDir.isSome && campaignJson

/-- Why a completed run was not clean. -/
def LaneRuntime.reason (runtime : LaneRuntime) (status : ExitStatus) : String :=
  runtime.failureReason.getD ("raw_campaign exited without a complete verified lane window (code=" ++
    codeText status.code ++ ")")

/-- The outcome of a completed run in the journal and among the results. -/
def noteOutcome (s : CaptureState) (lane : CaptureLane) (runtime : LaneRuntime)
    (status : ExitStatus) (clean : Bool) : CaptureState :=
  let reason := if clean then none else some (runtime.reason status)
  let s := s.append "LANE" [("campaign_id", optionValue runtime.campaignId),
    ("code", codeValue status.code),
    ("event", .string (if clean then "LANE_WINDOW_COMPLETED" else "LANE_FAILED")),
    ("lane", laneValue lane), ("reason", optionValue reason), ("token", .string runtime.token)]
  { s with runResults := s.runResults ++ [{
    lane
    token := runtime.token
    requestedS := runtime.requestedS
    startedMonoNs := runtime.startedMonoNs
    ready := runtime.ready
    campaignId := runtime.campaignId
    campaignDir := runtime.campaignId.map fun campaignId => laneDirectory lane ++ "/" ++ campaignId
    exitSuccess := clean
    exitCode := status.code
    failureReason := reason
    failureRecordSha256 := runtime.failureRecordSha256
    stderrLines := runtime.stderrLines }] }

/-- The completion of a run: its outcome is recorded, before the horizon also by the state
    machine. -/
def finishLane (now : Nat) (s : CaptureState) (lane : CaptureLane) (runtime : LaneRuntime)
    (status : ExitStatus) (campaignJson : Bool) : Except Abort CaptureState :=
  let clean := runtime.clean status campaignJson
  let s := s.setRuntime lane none
  if s.horizonClosed then .ok (noteOutcome s lane runtime status clean)
  else do
    let s ← supervise s (
      if clean then s.supervisor.retireLane lane runtime.token now
      else s.supervisor.failLane codec.sha256 lane runtime.token (runtime.reason status) now)
    return noteOutcome s lane runtime status clean

def completeLane (now : Nat) (poll : Poll) (s : CaptureState) (lane : CaptureLane) :
    Except Abort CaptureState := do
  let s ← drainOutput codec runDir s (poll.completions lane).outputs
  let runtime ← within .output (okOr (s.runtimes lane) "completed lane runtime disappeared")
  let runtime ← within .journal (refresh codec runtime (poll.completions lane).records)
  let status ← within .output (okOr runtime.exitStatus "completed lane lacks exit status")
  finishLane codec now s lane runtime status (poll.completions lane).campaignJson

/-- `launch_lane` and its journal record. -/
def launchLane (s : CaptureState) (lane : CaptureLane) (token : String) (requestedS : Nat)
    (launch : LaunchInput) (members : List (String × Value)) : Except Abort CaptureState := do
  let startedMonoNs ← within .clock (elapsedNs launch.startedRead)
  return (s.append "LANE" members).setRuntime lane (some {
    token, requestedS, startedMonoNs, lastHeartbeat := launch.heartbeatRead })

def restartLane (now : Nat) (poll : Poll) (s : CaptureState) (request : RestartRequest) :
    Except Abort CaptureState :=
  let lane := request.lane
  let launch := poll.launches lane
  let remainingS := ceilSeconds (args.deadline - launch.remainingRead)
  if (s.runtimes lane).isSome then
    within .restart (err "restart requested while lane runtime still exists")
  else if remainingS < args.overlapS then .ok s
  else do
    let requestedS := min remainingS (args.windowS lane)
    let token := laneToken lane request.nextLaunchAttempt launch.uuid
    let s ← supervise s (s.supervisor.startLane lane token now)
    launchLane s lane token requestedS launch [("attempt", natValue request.nextLaunchAttempt),
      ("event", .string "LANE_RESTARTED"), ("lane", laneValue lane), ("pid", natValue launch.pid),
      ("requested_s", natValue requestedS), ("token", .string token)]

/-- The restarts of an iteration that is before the deadline. -/
def restartLanes (now : Nat) (poll : Poll) (s : CaptureState) : Except Abort CaptureState :=
  if poll.restartRead < args.deadline then do
    let reply := s.supervisor.restartRequests now
    let requests ← within .supervisor reply.1
    requests.foldlM (restartLane args now poll) { s with supervisor := reply.2 }
  else .ok s

/-- The body of the loop, up to its last two checks. -/
def iteration (s : CaptureState) (poll : Poll) : Except Abort CaptureState := do
  let s ← drainOutput codec runDir s poll.outputs
  let now ← within .clock (elapsedNs poll.nowRead)
  let s ← closeHorizon args s poll.horizonRead
  let s ← CaptureLane.all.foldlM (watchLane codec now poll) s
  let s ← (completed s poll).foldlM (completeLane codec runDir now poll) s
  let s ← restartLanes args now poll s
  supervise s (s.supervisor.advanceTime now)

/-! ## Runs -/

/-- `SupervisorTerminalV1`, without the identity of the capture. -/
structure SupervisorTerminalV1 where
  status : String
  finalCoverage : CoverageState
  gaps : List GapInterval
  laneRuns : List LaneRunResultV1
  journalPrecommitRecords : Nat
  deriving DecidableEq

def terminalStatus (gaps : List GapInterval) : String :=
  if gaps.any (·.closedMonoNs.isNone) then "COMPLETE_WITH_OPEN_GAP"
  else if gaps = [] then "COMPLETE_NO_DUAL_OUTAGE"
  else "COMPLETE_WITH_EXPLICIT_GAPS"

/-- How far a run is. -/
inductive Progress where
  | running (s : CaptureState)
  /-- `SUPERVISOR_COMMITTED` is in the journal. -/
  | committed (s : CaptureState) (terminal : SupervisorTerminalV1)

/-- The state machine is terminated after the loop, if the horizon has not been closed in it. -/
def closeRun (s : CaptureState) (finishRead : Nat) : Except Abort CaptureState :=
  if s.horizonClosed then .ok s
  else do
    let now ← within .clock (elapsedNs finishRead)
    supervise s (s.supervisor.terminate now)

/-- What follows the loop. -/
def commit (s : CaptureState) (finishRead : Nat) : Except Abort Progress := do
  let s ← closeRun s finishRead
  let s := s.append "SUPERVISOR" [("event", .string "SUPERVISOR_TERMINAL_PREPARED")]
  let terminal : SupervisorTerminalV1 := {
    status := terminalStatus s.gaps
    finalCoverage := s.supervisor.coverage
    gaps := s.gaps
    laneRuns := s.runResults
    journalPrecommitRecords := s.journal.length }
  return .committed (s.append "SUPERVISOR" [("event", .string "SUPERVISOR_COMMITTED")]) terminal

/-- One iteration of the loop, with its last two checks. -/
def captureStep (progress : Progress) (poll : Poll) : Except Abort Progress :=
  match progress with
  | .committed _ _ => .ok progress
  | .running s => do
    let s ← iteration codec args runDir s poll
    if args.deadline ≤ poll.breakRead ∧ (s.runtimes .primary).isNone ∧ (s.runtimes .shadow).isNone then
      commit s poll.finishRead
    else if args.terminalDeadline < poll.graceRead then
      within .grace (err "lane campaigns exceeded the terminal completion grace")
    else return .running s

def firstLaunch (launches : CaptureLane → LaunchInput) (s : CaptureState) (lane : CaptureLane) :
    Except Abort CaptureState := do
  let launch := launches lane
  let token := laneToken lane 1 launch.uuid
  let now ← within .clock (elapsedNs launch.startRead)
  let s ← supervise s (s.supervisor.startLane lane token now)
  let requestedS := min args.totalS (args.windowS lane)
  launchLane s lane token requestedS launch [("event", .string "LANE_LAUNCHED"),
    ("lane", laneValue lane), ("pid", natValue launch.pid), ("requested_s", natValue requestedS),
    ("token", .string token)]

/-- What precedes the loop. -/
def boot (launches : CaptureLane → LaunchInput) : Except Abort CaptureState := do
  let supervisor ← within .supervisor (HotRedundantSupervisor.new captureConfig 0)
  let s := { supervisor : CaptureState }.append "SUPERVISOR"
    [("event", .string "SUPERVISOR_STARTED")]
  CaptureLane.all.foldlM (firstLaunch args launches) s

/-- A run of a capture over the iterations it makes. -/
def capture (launches : CaptureLane → LaunchInput) (polls : List Poll) : Except Abort Progress := do
  let s ← boot args launches
  polls.foldlM (captureStep codec args runDir) (.running s)

end LobReplay.Redundancy
