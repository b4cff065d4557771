/-
  The journal audit of live_arbitration.rs, one record at a time: `JournalAuditState`,
  `payload_hex64` and `apply_audit_record`, with one definition for each arm of its event match.

  The audit's counters are natural numbers: each counts records of the files read, and no set of
  files holds 2^64 records.
-/

import LobReplay.Journal.Record
import Std.Data.TreeMap

namespace LobReplay

open Foundation

/-- `JournalAuditState`: the audit state carried across a whole journal walk. -/
structure JournalAuditState where
  previous : String := ""
  observations : Nat := 0
  trades : Nat := 0
  depthFrames : Nat := 0
  gaps : Nat := 0
  lateCorrections : Nat := 0
  rebootstrap : Nat := 0
  statusRecords : Nat := 0
  records : Nat := 0
  lastTradeId : Option UInt64 := none
  lastDepthSequence : Option UInt64 := none
  exactNextDepth : Option UInt64 := none
  published : Std.TreeMap UInt64 String := ∅
  corrected : Std.TreeMap UInt64 String := ∅
  startedSeen : Bool := false
  terminalSeen : Bool := false
  tradeFloor : Option UInt64 := none
  symbol : Option String := none
  segments : Nat := 0
  /-- Last record SHA-256 of the previous segment (resume chaining). -/
  lastSegmentSha : Option String := none
  /-- Torn tail bytes of the previous segment. -/
  lastSegmentTail : Nat := 0
  /-- A tail audit takes the RESUMED record's own declarations as its context. -/
  presetContext : Bool := false
  /-- A tail audit accepts the first depth frame without a continuity check. -/
  tailDepthSeeded : Bool := false

def payloadHex64 (payload : Value) (field record : String) : Result String := do
  let value ← okOr (payload.strField field) s!"{record} lacks {field}"
  if ¬ isHex64 value then err s!"{record} carries a non-hex-SHA-256 {field}"
  else .ok value

namespace JournalAuditState

/-- The `ARBITRATION_STARTED` arm. -/
def applyStarted (state : JournalAuditState) (payload : Value) (firstOfFile : Bool) :
    Result JournalAuditState :=
  if ¬ firstOfFile ∨ state.segments ≠ 0 then
    err "arbitration journal does not begin with ARBITRATION_STARTED"
  else do
    let symbol ← okOr (payload.strField "symbol") "ARBITRATION_STARTED lacks its symbol"
    .ok { state with
          symbol := some symbol
          tradeFloor := payload.u64Field "trade_floor"
          startedSeen := true }

/-- The effective trade floor a resumed segment has to declare. -/
def effectiveFloor (state : JournalAuditState) : UInt64 :=
  max (state.tradeFloor.getD 0) (state.lastTradeId.getD 0)

/-- The symbol a resumed segment leaves: a tail audit takes the record's own. -/
def resumeSymbol (state : JournalAuditState) (symbol : String) : Result JournalAuditState :=
  if state.presetContext then .ok { state with symbol := some symbol }
  else if state.symbol ≠ some symbol then err "ARBITRATION_RESUMED changes the journal symbol"
  else .ok state

/-- The torn tail of the previous segment: measured, or taken from the record. -/
def resumeTail (state : JournalAuditState) (declaredTail : UInt64) : Result JournalAuditState :=
  let measuredTail := state.lastSegmentTail
  if ¬ state.presetContext ∧ declaredTail.toNat ≠ measuredTail then
    err s!"ARBITRATION_RESUMED previous_tail_bytes {declaredTail} does not match the measured torn tail {measuredTail}"
  else if state.presetContext then .ok { state with lastSegmentTail := declaredTail.toNat }
  else .ok state

/-- The `ARBITRATION_RESUMED` arm. -/
def applyResumed (state : JournalAuditState) (payload : Value) (firstOfFile : Bool) :
    Result JournalAuditState :=
  if ¬ firstOfFile ∨ state.segments = 0 then
    err "ARBITRATION_RESUMED must open a later journal segment"
  else if ¬ state.startedSeen then
    err "ARBITRATION_RESUMED lacks its ARBITRATION_STARTED segment"
  else do
    let symbol ← okOr (payload.strField "symbol") "ARBITRATION_RESUMED lacks its symbol"
    let state ← state.resumeSymbol symbol
    let previousJournalSha256 ←
      payloadHex64 payload "previous_journal_sha256" "ARBITRATION_RESUMED"
    let chained ← okOr state.lastSegmentSha "ARBITRATION_RESUMED has no previous segment to chain"
    if previousJournalSha256 ≠ chained then
      err s!"ARBITRATION_RESUMED does not chain the previous journal segment: declared {previousJournalSha256}, previous {chained}"
    else do
      let floor ← okOr (payload.u64Field "trade_floor") "ARBITRATION_RESUMED lacks its trade_floor"
      let expectedFloor := state.effectiveFloor
      if floor ≠ expectedFloor then
        err s!"ARBITRATION_RESUMED trade floor {floor} does not equal the previous segment's effective trade floor {expectedFloor}"
      else if (payload.strField "mode").isNone then err "ARBITRATION_RESUMED lacks its mode"
      else
        -- absent means no torn tail
        state.resumeTail ((payload.u64Field "previous_tail_bytes").getD 0)

/-- `Option<u64>` in a `{:?}` format. -/
def debugOption : Option UInt64 → String
  | none => "None"
  | some n => s!"Some({n})"

/-- The `ARBITRATION_TERMINAL` arm. -/
def applyTerminal (state : JournalAuditState) (payload : Value) : Result JournalAuditState :=
  if ¬ state.startedSeen then err "arbitration journal has no ARBITRATION_STARTED"
  else do
    let status ← okOr (payload.strField "status") "ARBITRATION_TERMINAL lacks its status"
    if status ≠ "COMPLETE" then
      err s!"arbitration journal terminal status is not COMPLETE: {status}"
    else
      let declaredTrades := payload.u64Field "trades"
      let declaredDepth := payload.u64Field "depth_frames"
      let declaredGaps := payload.u64Field "gaps"
      let declaredLate := payload.u64Field "late_corrections"
      if ¬ state.presetContext ∧
          ¬ (declaredTrades.map (·.toNat) = some state.trades ∧
             declaredDepth.map (·.toNat) = some state.depthFrames ∧
             declaredGaps.map (·.toNat) = some state.gaps ∧
             declaredLate.map (·.toNat) = some state.lateCorrections) then
        let trades := debugOption declaredTrades
        let depth := debugOption declaredDepth
        let gaps := debugOption declaredGaps
        let late := debugOption declaredLate
        err s!"arbitration journal terminal counters do not match the audit: declared ({trades}, {depth}, {gaps}, {late}), audited trades={state.trades} depth={state.depthFrames} gaps={state.gaps} late_corrections={state.lateCorrections}"
      else .ok { state with terminalSeen := true }

/-- The `TRADE_OBSERVATION` arm. -/
def applyTradeObservation (state : JournalAuditState) (payload : Value) :
    Result JournalAuditState := do
  let id ← okOr (payload.u64Field "trade_id") "trade observation lacks an exact trade ID"
  let observationSha256 ← payloadHex64 payload "observation_sha256" "trade observation"
  let _recordSha256 ← payloadHex64 payload "record_sha256" "trade observation"
  if state.lastTradeId.any (fun last => decide (id ≤ last)) then
    err "arbitration journal trade IDs are not strictly increasing"
  else if state.tradeFloor.any (fun floor => decide (id ≤ floor)) then
    err "arbitration journal publishes a trade at or below its declared floor"
  else
    .ok { state with
          lastTradeId := some id
          published := state.published.insert id observationSha256
          trades := state.trades + 1
          observations := state.observations + 1 }

/-- The retained identity a correction of `id` is compared with. -/
def retained (state : JournalAuditState) (id : UInt64) : Option String :=
  state.published[id]?.or state.corrected[id]?

/-- The `TRADE_LATE_CORRECTION` arm. -/
def applyTradeLateCorrection (state : JournalAuditState) (payload : Value) :
    Result JournalAuditState := do
  let id ← okOr (payload.u64Field "trade_id") "trade late correction lacks an exact trade ID"
  if ¬ state.lastTradeId.any (fun last => decide (id ≤ last)) then
    err "trade late correction is not below the canonical position"
  else if ¬ state.presetContext ∧ state.tradeFloor.any (fun floor => decide (id ≤ floor)) then
    err "trade late correction is at or below the startup floor"
  else do
    let kind := payload.strField "kind"
    let observationSha256 ← payloadHex64 payload "observation_sha256" "trade late correction"
    if kind = some "duplicate" then
      match state.retained id with
      | some publishedDigest =>
        if publishedDigest = observationSha256 then
          .ok { state with lateCorrections := state.lateCorrections + 1 }
        else err "trade late correction kind=duplicate contradicts the published identity"
      | none => err "trade late correction kind=duplicate references an unpublished identity"
    else if kind = some "unknown" then
      if state.published.contains id ∨ state.corrected.contains id then
        err "trade late correction kind=unknown contradicts the published identity"
      else
        .ok { state with
              corrected := state.corrected.insert id observationSha256
              lateCorrections := state.lateCorrections + 1 }
    else err "trade late correction lacks its classification"

/-- A record that only has to carry a `u64` field: the `TRADE_LAG` and
    `TRADE_CONFLICT` arms. -/
def applyStatus (state : JournalAuditState) (payload : Value) (field message : String) :
    Result JournalAuditState :=
  if (payload.u64Field field).isNone then err message
  else .ok { state with statusRecords := state.statusRecords + 1 }

/-- The `TRADE_LAG` arm. -/
def applyTradeLag (state : JournalAuditState) (payload : Value) : Result JournalAuditState :=
  state.applyStatus payload "buffered" "TRADE_LAG lacks its buffered count"

/-- The `TRADE_CONFLICT` arm. -/
def applyTradeConflict (state : JournalAuditState) (payload : Value) :
    Result JournalAuditState :=
  state.applyStatus payload "trade_id" "TRADE_CONFLICT lacks its trade ID"

/-- The depth cursor check: exactly contiguous, or above the last frame after a gap. A
    tail audit skips the second for its first frame and for the first frame after a gap. -/
def checkDepthCursor (state : JournalAuditState) (first : UInt64) : Result Unit :=
  match state.exactNextDepth with
  | some expected =>
    if first ≠ expected then err "arbitration journal depth ranges are not exactly contiguous"
    else .ok ()
  | none =>
    if (¬ state.presetContext ∨ state.tailDepthSeeded)
        ∧ state.lastDepthSequence.any (fun last => decide (first ≤ last)) then
      err "arbitration journal depth ranges regress outside a typed gap"
    else .ok ()

/-- The `DEPTH_OBSERVATION` arm. -/
def applyDepthObservation (state : JournalAuditState) (payload : Value) :
    Result JournalAuditState := do
  let first ← okOr (payload.u64Field "first_sequence") "depth observation lacks first_sequence"
  let finalSequence ←
    okOr (payload.u64Field "final_sequence") "depth observation lacks final_sequence"
  if first = 0 ∨ finalSequence < first then err "arbitration journal depth range is invalid"
  else do
    let _lane ← okOr (payload.strField "lane") "depth observation lacks its lane"
    let _observationSha256 ← payloadHex64 payload "observation_sha256" "depth observation"
    let _recordSha256 ← payloadHex64 payload "record_sha256" "depth observation"
    let _ ← state.checkDepthCursor first
    .ok { state with
          tailDepthSeeded := true
          exactNextDepth := some (saturatingAdd finalSequence 1)
          lastDepthSequence := some finalSequence
          depthFrames := state.depthFrames + 1
          observations := state.observations + 1 }

/-- The `GAP` arm. -/
def applyGap (state : JournalAuditState) (payload : Value) : Result JournalAuditState := do
  let declaredLast ← okOr (payload.u64Field "canonical_last_sequence")
    "arbitration gap lacks its canonical boundary"
  if state.presetContext then
    .ok { state with
          lastDepthSequence := some declaredLast
          tailDepthSeeded := false
          exactNextDepth := none
          gaps := state.gaps + 1 }
  else
    let cursor := state.lastDepthSequence.getD 0
    if declaredLast ≠ cursor then
      err s!"arbitration gap boundary {declaredLast} does not equal the canonical cursor {cursor}"
    else .ok { state with exactNextDepth := none, gaps := state.gaps + 1 }

/-- The fields a `DEPTH_REBOOTSTRAP` must carry, in the order they are looked for. -/
def rebootstrapFields : List String :=
  ["generation", "snapshot_record_sha256", "snapshot_last_update_id"]

/-- The `DEPTH_REBOOTSTRAP` arm. -/
def applyDepthRebootstrap (state : JournalAuditState) (payload : Value) :
    Result JournalAuditState :=
  if state.gaps = 0 ∨ state.exactNextDepth.isSome then
    err "DEPTH_REBOOTSTRAP must follow a typed gap"
  else
    match rebootstrapFields.find? (fun field => (payload.get field).isNone) with
    | some field => err s!"DEPTH_REBOOTSTRAP lacks {field}"
    | none =>
      .ok { state with
            rebootstrap := state.rebootstrap + 1
            statusRecords := state.statusRecords + 1 }

/-- The `DEPTH_SWITCH_PROVEN` arm. -/
def applyDepthSwitchProven (state : JournalAuditState) : Result JournalAuditState :=
  .ok { state with statusRecords := state.statusRecords + 1 }

/-- The event match of `apply_audit_record`. -/
def applyEvent (state : JournalAuditState) (payload : Value) (firstOfFile : Bool) :
    String → Result JournalAuditState
  | "ARBITRATION_STARTED" => state.applyStarted payload firstOfFile
  | "ARBITRATION_RESUMED" => state.applyResumed payload firstOfFile
  | "ARBITRATION_TERMINAL" => state.applyTerminal payload
  | "TRADE_OBSERVATION" => state.applyTradeObservation payload
  | "TRADE_LATE_CORRECTION" => state.applyTradeLateCorrection payload
  | "TRADE_LAG" => state.applyTradeLag payload
  | "TRADE_CONFLICT" => state.applyTradeConflict payload
  | "DEPTH_OBSERVATION" => state.applyDepthObservation payload
  | "GAP" => state.applyGap payload
  | "DEPTH_REBOOTSTRAP" => state.applyDepthRebootstrap payload
  | "DEPTH_SWITCH_PROVEN" => state.applyDepthSwitchProven
  | other => err s!"arbitration journal carries an unknown event: {other}"

/-- The schema, index, channel and hash chain test of `apply_audit_record`. -/
def chains (state : JournalAuditState) (envelope : LiveArbitrationJournalEnvelopeV1)
    (fileIndex : Nat) (digest : String) : Prop :=
  envelope.body.schema = journalSchema ∧ envelope.body.recordIndex.toNat = fileIndex ∧
    envelope.body.channel = "LIVE" ∧ envelope.body.previousRecordSha256 = state.previous ∧
    envelope.recordSha256 = digest

instance (state : JournalAuditState) (envelope : LiveArbitrationJournalEnvelopeV1)
    (fileIndex : Nat) (digest : String) : Decidable (state.chains envelope fileIndex digest) :=
  inferInstanceAs (Decidable (_ ∧ _))

def applyAuditRecord (codec : JournalCodec) (state : JournalAuditState)
    (envelope : LiveArbitrationJournalEnvelopeV1) (fileIndex : Nat) (firstOfFile : Bool) :
    Result JournalAuditState :=
  match codec.bodyToVec envelope.body with
  | .error e => err s!"serialize scanned arbitration journal body: {e}"
  | .ok bodyBytes =>
    let digest := codec.sha256Hex bodyBytes
    if ¬ state.chains envelope fileIndex digest then
      err "arbitration journal hash chain is invalid"
    else if state.terminalSeen then
      err "arbitration journal carries records after its terminal"
    else do
      let event ← okOr (envelope.body.payload.strField "event")
        "arbitration journal record lacks an event"
      let state ← state.applyEvent envelope.body.payload firstOfFile event
      .ok { state with previous := digest, records := state.records + 1 }

end JournalAuditState

end LobReplay
