/-
  The readers of a raw log (lib.rs): `read_next_raw_record`, the strict readers `read_raw_records`
  and `read_raw_segment_records`, the scan that stops at the first bad record, and the recovery of a
  scanned prefix.

  A reader is the list of the bytes it has still to deliver. The files are readable and the
  recovery's destination is new and writable: the errors of `open`, of a failing read and of a
  failing copy are left out.
-/

import LobReplay.Foundation.Stream
import LobReplay.Raw.Writer

namespace LobReplay.Raw

open Foundation Std

structure RawRecordEnvelopeV1 where
  schema : String
  recordIndex : Nat
  startOffset : Nat
  endOffset : Nat
  recordSha256 : String
  frame : RawFrame
  deriving DecidableEq

structure RawLogScanV1 where
  schema : String
  path : String
  fileSize : Nat
  records : Nat
  lastGoodOffset : Nat
  cleanEof : Bool
  reason : Option String
  lastRecordSha256 : String
  streams : List StreamDurabilityWatermarkV1
  deriving DecidableEq

structure RawRecoveryV1 where
  schema : String
  source : String
  destination : String
  sourceFileSize : Nat
  copiedValidPrefixBytes : Nat
  excludedTailBytes : Nat
  recoveredRecords : Nat
  lastRecordSha256 : String
  deriving DecidableEq

/-! ## One record -/

def requiredStr (value : Value) (field : String) : Result String :=
  okOr (value.strField field) s!"missing/invalid string field {field}"

def requiredU64 (value : Value) (field : String) : Result UInt64 :=
  okOr (value.u64Field field) s!"missing/invalid integer field {field}"

/-- The framing of one record: its body, its digest and the bytes behind it, or nothing at the
    end of the stream. -/
def readFramed (reader : Bytes) : Result (Option (Bytes × FixedBytes 32 × Bytes)) :=
  if reader = [] then .ok none
  else if reader.length < 4 then err "partial length prefix"
  else
    let bodyLength := beValue (reader.take 4)
    if maxRecordBytes < bodyLength then err "record length exceeds limit"
    else if (reader.drop 4).length < bodyLength then err "partial record body"
    else if h : ((reader.drop 4).drop bodyLength).length < 32 then err "partial record digest"
    else
      .ok (some ((reader.drop 4).take bodyLength,
        ⟨((reader.drop 4).drop bodyLength).take 32, by
          rw [List.length_take]
          omega⟩,
        ((reader.drop 4).drop bodyLength).drop 32))

/-- What a body declares once its digest, chain link and payload are verified. -/
structure VerifiedBody where
  value : Value
  payload : Bytes
  stream : String
  connectionEpoch : String
  frameIndex : UInt64

/-- The checks of a record body up to its frame index. -/
def verifyBody (codec : RawCodec) (previous : String) (body : Bytes) (digest : FixedBytes 32) :
    Result VerifiedBody :=
  if codec.digest body ≠ digest then err "record digest mismatch"
  else
    match codec.fromSlice body with
    | .error e => err s!"invalid record JSON: {e}"
    | .ok value => do
      let schema ← requiredStr value "schema"
      if schema ≠ "RawFrameV1" then err "unknown raw schema"
      else do
        let link ← requiredStr value "previous_record_sha256"
        if link ≠ previous then err "record chain mismatch"
        else do
          let state ← requiredStr value "recorder_state"
          if state ≠ "PENDING" ∧ state ≠ "DURABLE" ∧ state ≠ "FAILED" then
            err "invalid recorder state"
          else do
            let text ← requiredStr value "payload_base64"
            match codec.decode text with
            | .error e => err s!"invalid payload base64: {e}"
            | .ok payload => do
              let declared ← requiredU64 value "payload_length"
              if UInt64.ofNat payload.length ≠ declared then err "payload length mismatch"
              else do
                let payloadSha256 ← requiredStr value "payload_sha256"
                if hex (codec.digest payload).bytes ≠ payloadSha256 then
                  err "payload digest mismatch"
                else do
                  let stream ← requiredStr value "stream"
                  let connectionEpoch ← requiredStr value "connection_epoch"
                  let frameIndex ← requiredU64 value "frame_index"
                  .ok { value, payload, stream, connectionEpoch, frameIndex }

def VerifiedBody.frame (record : VerifiedBody) : Result RawFrame := do
  let venue ← requiredStr record.value "venue"
  let environment ← requiredStr record.value "environment"
  let endpoint ← requiredStr record.value "endpoint"
  let symbol ← requiredStr record.value "symbol"
  let receiveWallNs ← requiredU64 record.value "receive_wall_ns"
  let receiveMonoNs ← requiredU64 record.value "receive_mono_ns"
  let clockQuality ← requiredStr record.value "clock_quality"
  let clockSource ← requiredStr record.value "clock_source"
  let recorderState ← requiredStr record.value "recorder_state"
  let specRevision ← requiredStr record.value "spec_revision"
  .ok
    { venue, environment, endpoint, symbol, stream := record.stream
      connectionEpoch := record.connectionEpoch, frameIndex := record.frameIndex, receiveWallNs
      receiveMonoNs, payload := record.payload, clockQuality, clockSource
      clockOffsetNs := record.value.i64Field "clock_offset_ns"
      clockUncertaintyNs := record.value.u64Field "clock_uncertainty_ns", recorderState
      specRevision }

/-- The identity whose frame index a body carries. -/
def VerifiedBody.identity (record : VerifiedBody) : Identity :=
  (record.connectionEpoch, record.stream)

/-- A record as `read_next_raw_record` returns it: the frame, its digest and its encoded
    length. -/
structure ReadRecord where
  frame : RawFrame
  recordSha256 : String
  encodedLength : Nat
  deriving DecidableEq

/-- The end of `read_next_raw_record`: the frame index is counted in `expected` before the
    remaining fields are read. -/
def countRecord (expected : Expected) (record : VerifiedBody) (digest : FixedBytes 32)
    (encodedLength : Nat) : Result ReadRecord × Expected :=
  let next := expected.next record.identity
  let frameIndex := record.frameIndex
  let expected := if record.identity ∈ expected then expected else expected.insert record.identity 0
  if frameIndex ≠ next then
    (err s!"non-contiguous frame index: expected {next}, got {frameIndex}", expected)
  else if next = maxU64 then (.error .abort, expected)
  else
    let expected := expected.insert record.identity (next + 1)
    (record.frame.map fun frame => { frame, recordSha256 := hex digest.bytes, encodedLength },
      expected)

/-- `read_next_raw_record`: the record and the bytes behind it, and the frame indices the
    caller goes on with. -/
def readNextRawRecord (codec : RawCodec) (reader : Bytes) (previous : String)
    (expected : Expected) : Result (Option (ReadRecord × Bytes)) × Expected :=
  match readFramed reader with
  | .error e => (.error e, expected)
  | .ok none => (.ok none, expected)
  | .ok (some (body, digest, rest)) =>
    match verifyBody codec previous body digest with
    | .error e => (.error e, expected)
    | .ok record =>
      let (result, expected) := countRecord expected record digest (4 + body.length + 32)
      (result.map fun record => some (record, rest), expected)

/-! ## Strict readers -/

/-- `read_magic`: the bytes behind the magic. -/
def readMagic (reader : Bytes) : Result Bytes :=
  if reader.length < 8 then err "bad raw log magic"
  else if reader.take 8 ≠ magic then err "bad raw log magic"
  else .ok (reader.drop 8)

/-- The loop of `read_raw_records_after_magic`. Every record has bytes, so a budget of the
    bytes there are is never used up (`readLoop_of_reads`). -/
def readLoop (codec : RawCodec) : Nat → Bytes → Nat → Nat → String → Expected →
    Result (List RawRecordEnvelopeV1)
  | 0, _, _, _, _, _ => .ok []
  | budget + 1, reader, recordIndex, startOffset, previous, expected =>
    match readNextRawRecord codec reader previous expected with
    | (.error e, _) => .error e
    | (.ok none, _) => .ok []
    | (.ok (some (record, rest)), expected) =>
      match checkedAdd startOffset record.encodedLength with
      | none => err "raw record offset overflow"
      | some endOffset => do
        let records ← readLoop codec budget rest (recordIndex + 1) endOffset record.recordSha256
          expected
        .ok ({ schema := "RawRecordEnvelopeV1", recordIndex, startOffset, endOffset
               recordSha256 := record.recordSha256, frame := record.frame } :: records)

def readRawRecordsAfterMagic (codec : RawCodec) (reader : Bytes) (startOffset : Nat)
    (initialPrevious : String) (expected : Expected) : Result (List RawRecordEnvelopeV1) :=
  readLoop codec (reader.length + 1) reader 0 startOffset initialPrevious expected

def readRawRecords (codec : RawCodec) (file : File) : Result (List RawRecordEnvelopeV1) := do
  let reader ← readMagic file.bytes
  readRawRecordsAfterMagic codec reader magic.length zeroDigest ∅

def readRawSegmentRecords (codec : RawCodec) (file : File) (genesis : RawSegmentGenesisV1) :
    Result (List RawRecordEnvelopeV1) := do
  validateSegmentGenesis genesis
  let reader ← readMagic file.bytes
  let records ← readRawRecordsAfterMagic codec reader magic.length
    genesis.previousSegmentTerminalSha256
    ((∅ : Expected).insert genesis.identity genesis.nextFrameIndex)
  if records.any fun record =>
      decide ((record.frame.connectionEpoch, record.frame.stream) ≠ genesis.identity) then
    err "raw segment identity mismatch"
  else .ok records

/-! ## The scan -/

/-- What the loop of `scan_raw_log_from` has counted. -/
structure ScanState where
  previous : String
  records : Nat
  lastGoodOffset : Nat
  expected : Expected
  reason : Option String

def lockAllows (lockedIdentity : Option Identity) (frame : RawFrame) : Bool :=
  !lockedIdentity.any fun identity =>
    decide ((frame.connectionEpoch, frame.stream) ≠ identity)

/-- The loop of `scan_raw_log_from`, on a budget as in `readLoop`. -/
def scanLoop (codec : RawCodec) (lockedIdentity : Option Identity) :
    Nat → Bytes → ScanState → Result ScanState
  | 0, _, state => .ok state
  | budget + 1, reader, state =>
    match readNextRawRecord codec reader state.previous state.expected with
    | (.error (.err message), expected) => .ok { state with expected, reason := some message }
    | (.error .abort, _) => .error .abort
    | (.ok none, expected) => .ok { state with expected }
    | (.ok (some (record, rest)), expected) =>
      if lockAllows lockedIdentity record.frame = false then
        .ok { state with expected, reason := some "raw segment identity mismatch" }
      else do
        let records ← increment state.records
        match checkedAdd state.lastGoodOffset record.encodedLength with
        | none => err "raw scan offset overflow"
        | some lastGoodOffset =>
          scanLoop codec lockedIdentity budget rest
            { state with records, lastGoodOffset, previous := record.recordSha256, expected }

def scanRawLogFrom (codec : RawCodec) (path : String) (file : File) (initialPrevious : String)
    (expected : Expected) (lockedIdentity : Option Identity) : Result RawLogScanV1 :=
  match readMagic file.bytes with
  | .error _ =>
    .ok { schema := "RawLogScanV1", path, fileSize := file.len, records := 0, lastGoodOffset := 0
          cleanEof := false, reason := some "bad raw log magic"
          lastRecordSha256 := initialPrevious, streams := [] }
  | .ok reader => do
    let state ← scanLoop codec lockedIdentity (reader.length + 1) reader
      { previous := initialPrevious, records := 0, lastGoodOffset := magic.length, expected
        reason := none }
    .ok { schema := "RawLogScanV1", path, fileSize := file.len, records := state.records
          lastGoodOffset := state.lastGoodOffset, cleanEof := state.reason.isNone
          reason := state.reason, lastRecordSha256 := state.previous
          streams := durabilityWatermarks state.expected }

def scanRawLog (codec : RawCodec) (path : String) (file : File) : Result RawLogScanV1 :=
  scanRawLogFrom codec path file zeroDigest ∅ none

def scanRawSegment (codec : RawCodec) (path : String) (file : File)
    (genesis : RawSegmentGenesisV1) : Result RawLogScanV1 := do
  validateSegmentGenesis genesis
  scanRawLogFrom codec path file genesis.previousSegmentTerminalSha256
    ((∅ : Expected).insert genesis.identity genesis.nextFrameIndex) (some genesis.identity)

/-- `recover_raw_log_prefix`: the report and the file it leaves at the destination. -/
def recoverRawLogPrefix (codec : RawCodec) (source : String) (sourceFile : File)
    (destination : String) : Result (RawRecoveryV1 × File) := do
  let sourceScan ← scanRawLog codec source sourceFile
  if sourceScan.cleanEof then err "source raw log already has a clean EOF"
  else if sourceScan.lastGoodOffset < magic.length then
    err "source has no recoverable BNRAW prefix"
  else
    let output := sourceFile.cut sourceScan.lastGoodOffset
    let copied := output.len
    let expected := sourceScan.lastGoodOffset
    if copied ≠ sourceScan.lastGoodOffset then
      err s!"short recovery copy: expected {expected}, copied {copied}"
    else do
      let recoveredScan ← scanRawLog codec destination output
      if recoveredScan.cleanEof = false ∨ recoveredScan.records ≠ sourceScan.records ∨
          recoveredScan.lastRecordSha256 ≠ sourceScan.lastRecordSha256 then
        err "recovered raw prefix failed verification"
      else
        .ok ({ schema := "RawRecoveryV1", source, destination
               sourceFileSize := sourceScan.fileSize, copiedValidPrefixBytes := copied
               excludedTailBytes := sourceScan.fileSize - copied
               recoveredRecords := recoveredScan.records
               lastRecordSha256 := recoveredScan.lastRecordSha256 }, output)

end LobReplay.Raw
