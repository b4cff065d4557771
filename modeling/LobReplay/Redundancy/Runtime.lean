/-
  The child runs of a hot-redundant capture (bin/hot_redundant_capture.rs): the heartbeat lines a
  child writes, the cursor over its campaign journal with the facts that make a lane ready, the
  runtime record of a lane and `process_output`.

  Instants are nanoseconds since `origin`. serde_json, SHA-256 and the file system are the parameter
  `CaptureCodec`; a cursor is handed the records that are new in the file.
-/

import LobReplay.Campaign.Journal
import LobReplay.Redundancy.Supervisor

namespace LobReplay.Redundancy

open Foundation
open Campaign (CampaignJournalBodyV1 CampaignJournalEnvelopeV1)

/-! ## Where a run ends -/

/-- The part of `run` whose `?` ended it. -/
inductive Stage where
  /-- `process_output`. -/
  | output
  /-- `cursor.read_new`. -/
  | journal
  /-- `elapsed_ns`. -/
  | clock
  /-- A call of the availability state machine. -/
  | supervisor
  /-- `record_transition`. -/
  | transition
  /-- The check that a lane to restart has no runtime. -/
  | restart
  /-- The terminal completion grace. -/
  | grace
  deriving DecidableEq

/-- An `Err` of `run`, with the part it came from. -/
structure Abort where
  stage : Stage
  failure : Failure
  deriving DecidableEq

/-- `result?` in a part of `run`. -/
def within {α : Type} (stage : Stage) (result : Result α) : Except Abort α :=
  match result with
  | .ok a => .ok a
  | .error failure => .error ⟨stage, failure⟩

variable {stage : Stage}

theorem within_eq_ok {α : Type} {result : Result α} {a : α} :
    within stage result = .ok a ↔ result = .ok a := by
  cases result <;> simp [within]

theorem within_ok {α : Type} (a : α) : within stage (.ok a) = .ok a := rfl

/-- `elapsed_ns(origin)`, the clock showing `read`. -/
def elapsedNs (read : Nat) : Result Nat :=
  if read ≤ u64Max then .ok read else err "monotonic time overflow"

/-! ## Readiness -/

structure ReadinessFacts where
  processStarted : Bool := false
  depthConnected : Bool := false
  tradeConnected : Bool := false
  snapshotDurable : Bool := false
  semanticHeartbeat : Bool := false
  failureReason : Option String := none
  deriving DecidableEq

/-- `ReadinessFacts::ready`. -/
def ReadinessFacts.ready (facts : ReadinessFacts) : Bool :=
  facts.processStarted && facts.depthConnected && facts.tradeConnected && facts.snapshotDurable &&
    facts.semanticHeartbeat && facts.failureReason.isNone

/-- `CampaignJournalCursor`, without the file offset. -/
structure CampaignJournalCursor where
  path : String
  nextIndex : Nat := 0
  previous : String := zeroDigest
  facts : ReadinessFacts := {}
  deriving DecidableEq

/-- `positive(name)`: the payload carries a number other than 0 under the name. -/
def positive (payload : Value) (name : String) : Bool :=
  (payload.u64Field name).any fun value => decide (value ≠ 0)

/-- `CampaignJournalCursor::observe`. -/
def observe (facts : ReadinessFacts) (body : CampaignJournalBodyV1) : Result ReadinessFacts :=
  let event := (body.payload.strField "event").getD ""
  if body.channel = "CAMPAIGN" ∧ event = "CAMPAIGN_FAILED" then do
    let reason ← okOr ((body.payload.strField "error").filter fun value => ! isBlank value)
      "child CAMPAIGN_FAILED lacks exact reason"
    if facts.failureReason.isSome then err "child campaign published duplicate failure cause"
    else return { facts with failureReason := some reason }
  else if body.channel ≠ "CHILD_STDOUT" then .ok facts
  else if event = "PROCESS_STARTED" then .ok { facts with processStarted := true }
  else if event = "TRANSPORT_CONNECTED" then do
    let stream ← okOr ((body.payload.get "connection").bind (·.strField "stream"))
      "TRANSPORT_CONNECTED lacks stream"
    if stream = "depth" then return { facts with depthConnected := true }
    else if stream = "trade" then return { facts with tradeConnected := true }
    else err "TRANSPORT_CONNECTED names unknown stream"
  else if event = "SNAPSHOT_DURABLE" then .ok { facts with snapshotDurable := true }
  else if event = "HEARTBEAT_DURABLE" then
    if positive body.payload "depth_durable" ∧ positive body.payload "trade_durable" ∧
        positive body.payload "depth_last_market_message_mono_ns" ∧
        positive body.payload "trade_last_market_message_mono_ns" then
      .ok { facts with semanticHeartbeat := true }
    else .ok facts
  else .ok facts

/-! ## Heartbeats -/

structure RawCampaignHeartbeatV1 where
  event : String
  campaignId : String
  elapsedS : Nat
  generations : Nat
  activeProcesses : Nat
  handoversProven : Nat
  failure : Bool
  failureReason : Option String
  failureRecordSha256 : Option String
  deriving DecidableEq

/-- `RawCampaignHeartbeatV1::validate`. -/
def RawCampaignHeartbeatV1.validate (heartbeat : RawCampaignHeartbeatV1) : Result Unit :=
  if heartbeat.event ≠ "CAMPAIGN_HEARTBEAT" ∨ isBlank heartbeat.campaignId ∨
      heartbeat.generations = 0 ∨ heartbeat.generations < heartbeat.activeProcesses ∨
      heartbeat.generations ≤ heartbeat.handoversProven ∨
      heartbeat.failure ≠ heartbeat.failureReason.isSome ∨
      heartbeat.failure ≠ heartbeat.failureRecordSha256.isSome ∨
      heartbeat.failureReason.any isBlank ∨
      heartbeat.failureRecordSha256.any (fun digest => ! isLowerHex64 digest) then
    err "raw campaign heartbeat violates its exact contract"
  else .ok ()

/-- `byte.is_ascii_alphanumeric() || byte == b'-'`. -/
def isPortableByte (b : UInt8) : Bool :=
  (48 ≤ b && b ≤ 57) || (65 ≤ b && b ≤ 90) || (97 ≤ b && b ≤ 122) || b == 45

def validateCampaignId (value : String) : Result Unit :=
  if asBytes value = [] ∨ 160 < (asBytes value).length ∨ ¬ (asBytes value).all isPortableByte then
    err "child campaign ID is not a portable basename"
  else .ok ()

/-- The JSON, digest and file system functions of a capture. -/
structure CaptureCodec where
  /-- `sha256_hex(&serde_json::to_vec(&envelope.body)?)`. -/
  bodyDigest : CampaignJournalBodyV1 → String
  /-- `serde_json::from_str::<RawCampaignHeartbeatV1>`. -/
  heartbeat : String → Except String RawCampaignHeartbeatV1
  /-- `fs::canonicalize`. -/
  canonicalize : String → Except String String
  /-- SHA-256, which draws the jitter of a reconnect. -/
  sha256 : Bytes → FixedBytes 32

/-- One record of `CampaignJournalCursor::read_new`. -/
def readRecord (codec : CaptureCodec) (cursor : CampaignJournalCursor)
    (envelope : CampaignJournalEnvelopeV1) : Result CampaignJournalCursor :=
  let digest := codec.bodyDigest envelope.body
  if envelope.body.schema ≠ "RawCampaignJournalRecordV1" ∨
      envelope.body.recordIndex ≠ cursor.nextIndex ∨
      envelope.body.previousRecordSha256 ≠ cursor.previous ∨ envelope.recordSha256 ≠ digest then
    err "child campaign journal hash chain is invalid"
  else do
    let facts ← observe cursor.facts envelope.body
    let nextIndex ← okOr (checkedAdd cursor.nextIndex 1) "journal record-index overflow"
    return { cursor with facts, nextIndex, previous := digest }

/-- `CampaignJournalCursor::read_new`, over the records the file has grown by. -/
def readNew (codec : CaptureCodec) (cursor : CampaignJournalCursor)
    (records : List CampaignJournalEnvelopeV1) : Result CampaignJournalCursor :=
  records.foldlM (readRecord codec) cursor

/-! ## Lane runtimes -/

/-- `std::process::ExitStatus`: the exit code, absent when a signal ended the process. -/
structure ExitStatus where
  code : Option Int
  deriving DecidableEq

/-- `ExitStatus::success`. -/
def ExitStatus.success (status : ExitStatus) : Bool := status.code = some 0

/-- `LaneRuntime`, without the process handle. -/
structure LaneRuntime where
  token : String
  requestedS : Nat
  startedMonoNs : Nat
  lastHeartbeat : Nat
  campaignId : Option String := none
  campaignDir : Option String := none
  cursor : Option CampaignJournalCursor := none
  ready : Bool := false
  failureReason : Option String := none
  failureRecordSha256 : Option String := none
  stderrLines : List String := []
  terminalPathSeen : Bool := false
  exitStatus : Option ExitStatus := none
  exitSeen : Option Nat := none
  deriving DecidableEq

inductive ChildOutput where
  | stdout (lane : CaptureLane) (token line : String)
  | stderr (lane : CaptureLane) (token line : String)
  deriving DecidableEq

def laneDirectory : CaptureLane → String
  | .primary => "p"
  | .shadow => "s"

def maxChildStdoutLineBytes : Nat := 64 * 1024

/-- A record of the supervisor journal: its channel and payload. -/
structure SupervisorRecord where
  channel : String
  payload : Value
  deriving DecidableEq

def laneValue (lane : CaptureLane) : Value := .string (laneText lane)

/-- An optional text in JSON. -/
def optionValue (text : Option String) : Value := (text.map .string).getD .null

/-- The campaign of a run: the first heartbeat names it, the others may not change it. -/
def nameCampaign (runDir : String) (lane : CaptureLane) (runtime : LaneRuntime)
    (campaignId : String) : Result LaneRuntime :=
  match runtime.campaignId with
  | some existing =>
    if existing ≠ campaignId then err "raw campaign changed identity during one lane run"
    else .ok runtime
  | none => do
    validateCampaignId campaignId
    let campaignDir := runDir ++ "/" ++ laneDirectory lane ++ "/" ++ campaignId
    return { runtime with
      campaignId := some campaignId
      campaignDir := some campaignDir
      cursor := some { path := campaignDir ++ "/campaign-events.jsonl" } }

/-- A heartbeat that has been read; one of a failure names its cause. -/
def noteHeartbeat (runDir : String) (lane : CaptureLane) (runtime : LaneRuntime)
    (heartbeat : RawCampaignHeartbeatV1) (read : Nat) : Result LaneRuntime := do
  heartbeat.validate
  let named ← nameCampaign runDir lane runtime heartbeat.campaignId
  let runtime := { named with lastHeartbeat := read }
  if heartbeat.failure then
    return { runtime with
      failureReason := heartbeat.failureReason
      failureRecordSha256 := heartbeat.failureRecordSha256 }
  else return runtime

/-- A line on standard output. -/
def processStdout (codec : CaptureCodec) (runDir : String) (lane : CaptureLane)
    (runtime : LaneRuntime) (line : String) (read : Nat) : Result LaneRuntime :=
  let text := laneText lane
  if maxChildStdoutLineBytes < (asBytes line).length then
    err "raw campaign stdout line exceeds its bound"
  else
    match codec.heartbeat line with
    | .ok heartbeat => noteHeartbeat runDir lane runtime heartbeat read
    | .error error =>
      -- a line that is no heartbeat has to be the path of the campaign
      match runtime.campaignDir with
      | none => err s!"{text} emitted non-JSON output before campaign identity: {error}"
      | some expected =>
        match codec.canonicalize expected, codec.canonicalize line with
        | .error pathError, _ => err s!"resolve expected terminal campaign path: {pathError}"
        | .ok _, .error pathError => err s!"resolve reported terminal campaign path: {pathError}"
        | .ok expectedAbsolute, .ok observedAbsolute =>
          if observedAbsolute ≠ expectedAbsolute then
            err s!"{text} emitted unexpected non-JSON output: {error}"
          else .ok { runtime with terminalPathSeen := true }

/-- What `process_output` does to the runtime of the lane, and the journal record it writes. -/
def processLine (codec : CaptureCodec) (runDir : String) (runtime : LaneRuntime) (read : Nat) :
    ChildOutput → Result (LaneRuntime × List SupervisorRecord)
  | .stderr lane token line =>
    if maxChildStdoutLineBytes < (asBytes line).length then
      err "raw campaign stderr line exceeds its bound"
    else .ok ({ runtime with stderrLines := runtime.stderrLines ++ [line] },
      [⟨"LANE_STDERR", .object [("event", .string "LANE_STDERR"), ("lane", laneValue lane),
        ("text", .string line), ("token", .string token)]⟩])
  | .stdout lane _ line => do
    let runtime ← processStdout codec runDir lane runtime line read
    return (runtime, [])

def ChildOutput.source : ChildOutput → CaptureLane × String
  | .stdout lane token _ => (lane, token)
  | .stderr lane token _ => (lane, token)

end LobReplay.Redundancy
