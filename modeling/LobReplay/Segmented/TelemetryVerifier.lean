/-
  `validate_telemetry` of generation_artifact.rs: the records of a telemetry file are checked one by
  one and against the one before, and the last one is compared with the streams of the generation.

  The two streams of a record are checked by the same comparisons; each comparison of the source
  stands in one of the definitions of a snapshot. Reading the file is left out.
-/

import LobReplay.Segmented.Runtime

namespace LobReplay.Segmented

open Foundation Raw

/-! ## What is given -/

/-- The libraries the verifier calls. -/
structure TelemetryCodec where
  /-- `serde_json::from_slice::<TelemetryRecordV1>(line)`. -/
  fromSlice : Bytes → Except String TelemetryRecord
  /-- `sha256_bytes`. -/
  sha256Bytes : Bytes → String

structure TelemetryManifestV1 where
  schema : String
  file : String
  records : Nat
  durableThroughOffset : Nat
  terminalRecordSha256 : String
  terminalMonoNs : Nat
  fileSha256 : String
  deriving DecidableEq

/-- What the verifier compares of a `VerifiedGenerationStreamV1`. -/
structure VerifiedGenerationStreamV1 where
  name : String
  records : Nat
  segments : Nat
  lastSocketActivityMonoNs : Nat
  lastMarketMessageMonoNs : Nat
  deriving DecidableEq

def marketFreshnessStartupGraceS : Nat := 30

def marketFreshnessDeadlineS : Nat := 30

/-- `duration_requested_s.saturating_mul(1_000_000_000)`. -/
def activeEndNs (durationRequestedS : Nat) : Nat := min (durationRequestedS * 1000000000) u64Max

/-! ## One record -/

def ClockMetadata.invalid (clock : ClockMetadata) : Bool :=
  isBlank clock.quality || isBlank clock.source ||
    !(clock.quality == "HOST_CLOCK_SERVICE_LEAP0_NO_ONE_WAY_BOUND" || clock.quality == "UNKNOWN") ||
    (clock.quality == "HOST_CLOCK_SERVICE_LEAP0_NO_ONE_WAY_BOUND" &&
      (clock.leapIndicator != some 0 || !clock.stratum.any (fun s => 1 ≤ s ∧ s ≤ 15) ||
        clock.lastSuccessfulSync.isNone))

namespace StreamHealthSnapshot

def countsInvalid (monoNs : Nat) (snapshot : StreamHealthSnapshot) : Bool :=
  decide (snapshot.received < snapshot.written) || decide (snapshot.written < snapshot.durable) ||
    decide (monoNs < snapshot.lastSocketActivityMonoNs) ||
    decide (monoNs < snapshot.lastMarketMessageMonoNs) ||
    decide (monoNs < snapshot.lastDurableMonoNs) ||
    decide (snapshot.lastSocketActivityMonoNs < snapshot.lastMarketMessageMonoNs)

def gaugesInvalid (snapshot : StreamHealthSnapshot) : Bool :=
  decide (snapshot.maxQueueRecords < snapshot.queueRecords) ||
    decide (snapshot.maxQueueBytes < snapshot.queueBytes) ||
    decide (snapshot.maxSyncDurationNs < snapshot.lastSyncDurationNs)

def stale (monoNs : Nat) (snapshot : StreamHealthSnapshot) : Bool :=
  snapshot.lastMarketMessageMonoNs == 0 ||
    decide (marketFreshnessDeadlineS * 1000000000 < monoNs - snapshot.lastMarketMessageMonoNs)

/-- The counts and times of a snapshot have gone down. -/
def countsRegressed (old snapshot : StreamHealthSnapshot) : Bool :=
  decide (snapshot.received < old.received) || decide (snapshot.written < old.written) ||
    decide (snapshot.durable < old.durable) ||
    decide (snapshot.lastSocketActivityMonoNs < old.lastSocketActivityMonoNs) ||
    decide (snapshot.lastMarketMessageMonoNs < old.lastMarketMessageMonoNs)

/-- The segment or a maximum of a snapshot has gone down. -/
def maximaRegressed (old snapshot : StreamHealthSnapshot) : Bool :=
  decide (snapshot.segmentIndex < old.segmentIndex) ||
    decide (snapshot.maxQueueRecords < old.maxQueueRecords) ||
    decide (snapshot.maxQueueBytes < old.maxQueueBytes) ||
    decide (snapshot.maxQueueAgeNs < old.maxQueueAgeNs) ||
    decide (snapshot.maxSyncDurationNs < old.maxSyncDurationNs)

end StreamHealthSnapshot

namespace TelemetryRecord

/-- The shape of a record, at its place in the file. -/
def invalid (count : Nat) (record : TelemetryRecord) : Bool :=
  record.schema != "CaptureTelemetryV1" || record.recordIndex != count || record.wallNs == 0 ||
    record.clock.invalid || record.depth.countsInvalid record.monoNs ||
    record.trade.countsInvalid record.monoNs || record.depth.gaugesInvalid ||
    record.trade.gaugesInvalid

/-- The market data of a record is stale while it should be fresh. -/
def stale (durationRequestedS : Nat) (record : TelemetryRecord) : Bool :=
  decide (marketFreshnessStartupGraceS * 1000000000 ≤ record.monoNs) &&
    decide (record.monoNs < activeEndNs durationRequestedS) &&
    (record.depth.stale record.monoNs || record.trade.stale record.monoNs)

def regressed (old record : TelemetryRecord) : Bool :=
  decide (record.monoNs < old.monoNs) || old.depth.countsRegressed record.depth ||
    old.trade.countsRegressed record.trade || old.depth.maximaRegressed record.depth ||
    old.trade.maximaRegressed record.trade

end TelemetryRecord

/-! ## The file -/

/-- What the loop over the records carries. -/
structure TelemetryScan where
  previous : Option TelemetryRecord := none
  count : Nat := 0
  terminalRecordSha256 : Option String := none
  parsedOffset : Nat := 0

/-- One record, of a line that was followed by a newline. -/
def telemetryLine (codec : TelemetryCodec) (durationRequestedS : Nat) (scan : TelemetryScan)
    (line : Bytes) : Result TelemetryScan :=
  if line = [] then err "telemetry contains an empty or partial record"
  else do
    let parsedOffset ←
      okOr (checkedAdd scan.parsedOffset (line.length + 1)) "telemetry offset overflow"
    match codec.fromSlice line with
    | .error error => err s!"invalid telemetry JSON: {error}"
    | .ok record =>
      if record.invalid scan.count then err "telemetry record shape/counters are invalid"
      else if record.stale durationRequestedS then
        err "telemetry records stale market data despite fresh socket/control activity"
      else if scan.previous.any (·.regressed record) then
        err "telemetry monotonic lineage regressed"
      else do
        let count ← okOr (checkedAdd scan.count 1) "telemetry record count overflow"
        .ok { previous := some record, count
              terminalRecordSha256 := some (codec.sha256Bytes (line ++ [newline])), parsedOffset }

/-- The records, one by one. -/
def telemetryLines (codec : TelemetryCodec) (durationRequestedS : Nat) (scan : TelemetryScan) :
    List Bytes → Result TelemetryScan
  | [] => .ok scan
  | line :: lines => do
    let scan ← telemetryLine codec durationRequestedS scan line
    telemetryLines codec durationRequestedS scan lines

def expectedStream (streams : List VerifiedGenerationStreamV1) (name : String) :
    Result VerifiedGenerationStreamV1 :=
  okOr (streams.reverse.find? fun stream => stream.name == name)
    s!"verified generation lacks {name} stream"

/-- `stream.segments - 1`. -/
def lastSegment (stream : VerifiedGenerationStreamV1) : Result Nat :=
  if stream.segments = 0 then .error .abort else .ok (stream.segments - 1)

def terminalDiffers (snapshot : StreamHealthSnapshot) (stream : VerifiedGenerationStreamV1) :
    Result Bool :=
  if snapshot.received ≠ stream.records ∨ snapshot.written ≠ stream.records ∨
      snapshot.durable ≠ stream.records then .ok true
  else do
    let segment ← lastSegment stream
    .ok (snapshot.segmentIndex != segment || snapshot.queueRecords != 0 ||
      snapshot.queueBytes != 0 ||
      snapshot.lastSocketActivityMonoNs != stream.lastSocketActivityMonoNs ||
      snapshot.lastMarketMessageMonoNs != stream.lastMarketMessageMonoNs)

/-- The comparison of the last record with the streams and the manifest. -/
def checkTerminal (manifest : TelemetryManifestV1) (streams : List VerifiedGenerationStreamV1)
    (durationRequestedS : Nat) (scan : TelemetryScan) : Result Unit := do
  let terminal ← okOr scan.previous "telemetry has no records"
  let depth ← expectedStream streams "depth"
  let trade ← expectedStream streams "trade"
  let depthDiffers ← terminalDiffers terminal.depth depth
  let differs ← if depthDiffers then .ok true else terminalDiffers terminal.trade trade
  if differs || terminal.depth.maxSyncDurationNs == 0 || terminal.trade.maxSyncDurationNs == 0 ||
      scan.count != manifest.records || scan.parsedOffset != manifest.durableThroughOffset ||
      scan.terminalRecordSha256 != some manifest.terminalRecordSha256 ||
      terminal.monoNs != manifest.terminalMonoNs ||
      decide (terminal.monoNs < activeEndNs durationRequestedS) then
    err "telemetry terminal counters differ from sealed raw streams"
  else .ok ()

def validateTelemetry (codec : TelemetryCodec) (bytes : Bytes) (manifest : TelemetryManifestV1)
    (streams : List VerifiedGenerationStreamV1) (durationRequestedS : Nat) :
    Result (String × Nat) :=
  let fileSha256 := codec.sha256Bytes bytes
  if manifest.schema ≠ "TelemetryArtifactV1" ∨ manifest.file ≠ "telemetry.jsonl" ∨
      manifest.records = 0 ∨ manifest.durableThroughOffset = 0 ∨
      isLowerHex64 manifest.terminalRecordSha256 = false ∨ manifest.terminalMonoNs = 0 ∨
      manifest.fileSha256 ≠ fileSha256 ∨ bytes.getLast? ≠ some newline ∨
      bytes.length ≠ manifest.durableThroughOffset then
    err "telemetry has an empty or partial terminal record"
  else do
    let scan ← telemetryLines codec durationRequestedS {} (splitLines bytes).1
    checkTerminal manifest streams durationRequestedS scan
    .ok (fileSha256, scan.count)

end LobReplay.Segmented
