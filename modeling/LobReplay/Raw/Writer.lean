/-
  `RawLogWriter` of lib.rs over a sink that may fail. The sink holds the bytes written so far and a
  schedule of faults, one entry for each operation still to come; a failing write may have written a
  part of its bytes.

  A session is a writer and the process that holds it: an overflowing `+` aborts the process, and
  nothing is called after that.
-/

import LobReplay.Foundation.Machine
import LobReplay.Raw.Record

namespace LobReplay.Raw

open Foundation Std

/-! ## The sink -/

/-- What the schedule holds for one operation of the sink: nothing, or an error after
    `written` bytes (of which only a write has any). -/
inductive Fault where
  | none
  | fail (written : Nat) (error : String)
  deriving DecidableEq

/-- A `DurableSink`: its bytes, the faults to come, and whether an operation has failed. -/
structure Sink where
  file : File
  faults : List Fault
  failed : Bool

namespace Sink

/-- A newly created sink. -/
def fresh (faults : List Fault) : Sink := { file := File.empty, faults, failed := false }

/-- The fault of the next operation; none once the schedule is used up. -/
def fault (sink : Sink) : Fault := sink.faults.head?.getD .none

def writeAll (sink : Sink) (data : Bytes) : Except String Unit × Sink :=
  match sink.fault with
  | .fail written error =>
    (.error error,
      { file := sink.file.append (data.take written), faults := sink.faults.tail, failed := true })
  | .none =>
    if sink.file.fits data.length then
      (.ok (), { sink with file := sink.file.append data, faults := sink.faults.tail })
    else
      (.error "file too large",
        { file := sink.file.append data, faults := sink.faults.tail, failed := true })

/-- `flush` or `sync_all`: no byte is written. -/
def barrier (sink : Sink) : Except String Unit × Sink :=
  match sink.fault with
  | .fail _ error => (.error error, { sink with faults := sink.faults.tail, failed := true })
  | .none => (.ok (), { sink with faults := sink.faults.tail })

/-- `sink.flush().and_then(|_| sink.sync_all())`. -/
def flushAndSyncAll (sink : Sink) : Except String Unit × Sink :=
  match sink.barrier with
  | (.error e, sink) => (.error e, sink)
  | (.ok (), sink) => sink.barrier

/-- `write_all`, `flush` and `sync_all`, up to the first that fails. -/
def writeSynced (sink : Sink) (data : Bytes) : Except String Unit × Sink :=
  match sink.writeAll data with
  | (.error e, sink) => (.error e, sink)
  | (.ok (), sink) => sink.flushAndSyncAll

end Sink

/-! ## The writer -/

structure DurabilityAckV1 where
  schema : String
  durableRecordCount : Nat
  durableThroughOffset : Nat
  lastRecordSha256 : String
  streams : List StreamDurabilityWatermarkV1
  deriving DecidableEq

structure AppendReceiptV1 where
  schema : String
  recordIndex : Nat
  endOffset : Nat
  recordSha256 : String
  durabilityAck : Option DurabilityAckV1
  deriving DecidableEq

structure RawLogWriter where
  sink : Sink
  previousDigest : String
  expected : Expected
  syncEvery : Nat
  sinceSync : Nat
  recordCount : Nat
  endOffset : Nat
  poisoned : Bool
  lastAck : Option DurabilityAckV1
  lockedIdentity : Option Identity

namespace RawLogWriter

/-- What a chain starts from: the digest before its first record, the next frame indices and
    the identity it is locked to. -/
def genesisState : Option RawSegmentGenesisV1 → String × Expected × Option Identity
  | none => (zeroDigest, ∅, none)
  | some genesis =>
    (genesis.previousSegmentTerminalSha256,
      (∅ : Expected).insert genesis.identity genesis.nextFrameIndex, some genesis.identity)

/-- `initialize`. -/
def initializeLog (sink : Sink) (syncEvery : Nat) (genesis : Option RawSegmentGenesisV1) :
    Result RawLogWriter :=
  if syncEvery = 0 then err "sync_every must be positive"
  else
    match sink.writeAll magic with
    | (.error e, _) => err s!"write raw magic: {e}"
    | (.ok (), sink) =>
      match sink.barrier with
      | (.error e, _) => err s!"sync raw magic: {e}"
      | (.ok (), sink) =>
        let (previousDigest, expected, lockedIdentity) := genesisState genesis
        .ok { sink, previousDigest, expected, syncEvery, sinceSync := 0, recordCount := 0
              endOffset := magic.length, poisoned := false, lastAck := none, lockedIdentity }

def fromSink (sink : Sink) (syncEvery : Nat) : Result RawLogWriter :=
  initializeLog sink syncEvery none

def fromSinkSegment (sink : Sink) (syncEvery : Nat) (genesis : RawSegmentGenesisV1) :
    Result RawLogWriter := do
  validateSegmentGenesis genesis
  initializeLog sink syncEvery (some genesis)

def rawRecord (codec : RawCodec) (frame : CapturedFrame) (previousDigest : String) : RawRecord where
  schema := "RawFrameV1"
  venue := frame.venue
  environment := frame.environment
  endpoint := frame.endpoint
  stream := frame.stream
  symbol := frame.symbol
  connectionEpoch := frame.connectionEpoch
  frameIndex := frame.frameIndex
  receiveWallNs := frame.receiveWallNs
  receiveMonoNs := frame.receiveMonoNs
  clockQuality := frame.clockQuality
  clockSource := frame.clockSource
  clockOffsetNs := none
  clockUncertaintyNs := none
  payloadLength := UInt64.ofNat frame.payload.length
  payloadSha256 := hex (codec.digest frame.payload).bytes
  payloadBase64 := codec.encode frame.payload
  recorderState := "PENDING"
  specRevision := frame.specRevision
  previousRecordSha256 := previousDigest

/-- The body of a record, when it is within the size limit. -/
def serialize (codec : RawCodec) (record : RawRecord) : Result Bytes :=
  match codec.toVec record with
  | .error e => err s!"serialize raw record: {e}"
  | .ok body =>
    if maxRecordBytes < body.length then err "raw record exceeds maximum size"
    else if 2 ^ 32 ≤ body.length then err "raw record length does not fit u32"
    else .ok body

/-- The ACK the bookkeeping stands for. -/
def currentAck (writer : RawLogWriter) : DurabilityAckV1 where
  schema := "DurabilityAckV1"
  durableRecordCount := writer.recordCount
  durableThroughOffset := writer.endOffset
  lastRecordSha256 := writer.previousDigest
  streams := durabilityWatermarks writer.expected

def sync (writer : RawLogWriter) : Result DurabilityAckV1 × RawLogWriter :=
  if writer.poisoned then (err "raw writer is poisoned", writer)
  else
    match writer.sink.flushAndSyncAll with
    | (.error e, sink) =>
      (err s!"sync raw log; writer poisoned: {e}", { writer with sink, poisoned := true })
    | (.ok (), sink) =>
      let ack := writer.currentAck
      (.ok ack, { writer with sink, sinceSync := 0, lastAck := some ack })

/-- The receipt of the record just counted, after the sync it may be due for. -/
def receipt (writer : RawLogWriter) (recordIndex : Nat) : Result AppendReceiptV1 × RawLogWriter :=
  let done (writer : RawLogWriter) (durabilityAck : Option DurabilityAckV1) : AppendReceiptV1 :=
    { schema := "AppendReceiptV1", recordIndex, endOffset := writer.endOffset
      recordSha256 := writer.previousDigest, durabilityAck }
  if writer.syncEvery ≤ writer.sinceSync then
    match writer.sync with
    | (.error e, writer) => (.error e, writer)
    | (.ok ack, writer) => (.ok (done writer (some ack)), writer)
  else (.ok (done writer none), writer)

/-- The bookkeeping of `append` behind a successful write. -/
def commit (writer : RawLogWriter) (key : Identity) (next : UInt64) (digest : FixedBytes 32)
    (encodedLength : Nat) : Result AppendReceiptV1 × RawLogWriter :=
  let writer := { writer with previousDigest := hex digest.bytes }
  if next = maxU64 then (.error .abort, writer)
  else
    let writer := { writer with expected := writer.expected.insert key (next + 1) }
    let recordIndex := writer.recordCount
    match increment writer.recordCount with
    | .error e => (.error e, writer)
    | .ok recordCount =>
      let writer := { writer with recordCount }
      match checkedAdd writer.endOffset encodedLength with
      | none => (err "raw offset overflow", writer)
      | some endOffset =>
        let writer := { writer with endOffset }
        match increment writer.sinceSync with
        | .error e => (.error e, writer)
        | .ok sinceSync => receipt { writer with sinceSync } recordIndex

def append (codec : RawCodec) (writer : RawLogWriter) (frame : CapturedFrame) :
    Result AppendReceiptV1 × RawLogWriter :=
  let key := frame.identity
  let next := writer.expected.next key
  if writer.poisoned then (err "raw writer is poisoned", writer)
  else if writer.lockedIdentity.any (fun identity => decide (identity ≠ key)) then
    (err "raw segment identity mismatch", writer)
  else if frame.frameIndex ≠ next then
    (err s!"non-contiguous captured frame: expected {next}, got {frame.frameIndex}", writer)
  else
    match serialize codec (rawRecord codec frame writer.previousDigest) with
    | .error e => (.error e, writer)
    | .ok body =>
      let digest := codec.digest body
      let encoded := framed body digest
      match writer.sink.writeAll encoded with
      | (.error e, sink) =>
        (err s!"write raw record; writer poisoned: {e}", { writer with sink, poisoned := true })
      | (.ok (), sink) => commit { writer with sink } key next digest encoded.length

/-- `Drop`: a last sync, whose ACK nobody sees. -/
def drop (writer : RawLogWriter) : RawLogWriter :=
  if writer.poisoned = false ∧ 0 < writer.sinceSync then writer.sync.2 else writer

def appendAll (codec : RawCodec) (writer : RawLogWriter) :
    List CapturedFrame → Result (List AppendReceiptV1 × RawLogWriter)
  | [] => .ok ([], writer)
  | frame :: rest =>
    match writer.append codec frame with
    | (.error e, _) => .error e
    | (.ok receipt, writer) => do
      let (receipts, writer) ← writer.appendAll codec rest
      .ok (receipt :: receipts, writer)

end RawLogWriter

/-! ## Sessions -/

inductive Call where
  | append (frame : CapturedFrame)
  | sync

/-- What a call returns: the receipt of an append or the ACK of a sync. -/
inductive Reply where
  | receipt (receipt : AppendReceiptV1)
  | ack (ack : DurabilityAckV1)

def Reply.durabilityAck : Reply → Option DurabilityAckV1
  | receipt r => r.durabilityAck
  | ack a => some a

/-- A writer and whether the process that holds it is alive. -/
structure Session where
  writer : RawLogWriter
  alive : Bool

namespace Session

/-- The session after a call, which an abort ends. -/
def after {α : Type} (result : Result α) (writer : RawLogWriter) : Session :=
  { writer
    alive := match result with
      | .error .abort => false
      | _ => true }

/-- One call. A process that is gone answers nothing more. -/
def step (codec : RawCodec) (session : Session) (call : Call) : Result Reply × Session :=
  if session.alive = false then (.error .abort, session)
  else
    match call with
    | .append frame =>
      let (result, writer) := session.writer.append codec frame
      (result.map .receipt, after result writer)
    | .sync =>
      let (result, writer) := session.writer.sync
      (result.map .ack, after result writer)

end Session

end LobReplay.Raw
