/-
  The ownership ledger of ownership.rs: who owns the canonical live source. A change of owner is two
  records, the prepared activation and the record that activates it; the scan replays them and stops
  at the first that does not continue the ledger.

  serde_json and SHA-256 are parameters (`LedgerCodec`). The counters are naturals: a file has no
  room for 2^64 records.
-/

import LobReplay.Boundary.Selection
import LobReplay.Foundation.Frames
import LobReplay.Known
import LobReplay.Raw.Log

namespace LobReplay.Ownership

open Foundation
open Boundary (HandoverBoundaryV1)
open Raw (Sink)

/-! ## Owners and activations -/

structure SourcePointerSnapshotV1 where
  schema : String
  symbol : String
  generationId : String
  depthEpoch : String
  tradeEpoch : String
  fencingToken : UInt64
  depthLastSequence : UInt64
  tradeLastSequence : UInt64
  deriving DecidableEq

/-- `SourcePointerSnapshotV1::validate`. -/
def SourcePointerSnapshotV1.validate (owner : SourcePointerSnapshotV1) : Result Unit :=
  if owner.schema ≠ "SourcePointerSnapshotV1" ∨
      (owner.symbol ≠ "BTCUSDT" ∧ owner.symbol ≠ "ETHUSDT") ∨ isBlank owner.generationId ∨
      isBlank owner.depthEpoch ∨ isBlank owner.tradeEpoch ∨ owner.fencingToken = 0 then
    err "invalid source pointer snapshot"
  else .ok ()

structure CommittedBoundaryProofV1 where
  boundary : HandoverBoundaryV1
  commitRecordSha256 : String
  deriving DecidableEq

structure OwnershipActivationV1 where
  schema : String
  activationId : String
  symbol : String
  predecessorGeneration : String
  successorGeneration : String
  predecessorDepthEpoch : String
  predecessorTradeEpoch : String
  successorDepthEpoch : String
  successorTradeEpoch : String
  depthBoundaryId : String
  tradeBoundaryId : String
  depthCommitRecordSha256 : String
  tradeCommitRecordSha256 : String
  depthBoundarySequence : UInt64
  tradeBoundarySequence : UInt64
  fencingToken : UInt64
  deriving DecidableEq

namespace OwnershipActivationV1

/-- `OwnershipActivationV1::validate`. -/
def validate (activation : OwnershipActivationV1) : Result Unit :=
  if activation.schema ≠ "OwnershipActivationV1" ∨ isBlank activation.activationId ∨
      (activation.symbol ≠ "BTCUSDT" ∧ activation.symbol ≠ "ETHUSDT") ∨
      isBlank activation.predecessorGeneration ∨ isBlank activation.successorGeneration ∨
      activation.predecessorGeneration = activation.successorGeneration ∨
      isBlank activation.predecessorDepthEpoch ∨ isBlank activation.predecessorTradeEpoch ∨
      isBlank activation.successorDepthEpoch ∨ isBlank activation.successorTradeEpoch ∨
      activation.predecessorDepthEpoch = activation.successorDepthEpoch ∨
      activation.predecessorTradeEpoch = activation.successorTradeEpoch ∨
      isBlank activation.depthBoundaryId ∨ isBlank activation.tradeBoundaryId ∨
      activation.depthBoundaryId = activation.tradeBoundaryId ∨
      activation.fencingToken = 0 then
    err "invalid ownership activation identity"
  else do
    Boundary.validateDigest activation.depthCommitRecordSha256
    Boundary.validateDigest activation.tradeCommitRecordSha256

def successorSnapshot (activation : OwnershipActivationV1) : SourcePointerSnapshotV1 where
  schema := "SourcePointerSnapshotV1"
  symbol := activation.symbol
  generationId := activation.successorGeneration
  depthEpoch := activation.successorDepthEpoch
  tradeEpoch := activation.successorTradeEpoch
  fencingToken := activation.fencingToken
  depthLastSequence := activation.depthBoundarySequence
  tradeLastSequence := activation.tradeBoundarySequence

end OwnershipActivationV1

def validateActivationProofs (activation : OwnershipActivationV1)
    (depth trade : CommittedBoundaryProofV1) : Result Unit := do
  depth.boundary.validate
  trade.boundary.validate
  if depth.boundary.streamKind ≠ .depth ∨ trade.boundary.streamKind ≠ .trade ∨
      activation.symbol ≠ depth.boundary.symbol ∨ activation.symbol ≠ trade.boundary.symbol ∨
      activation.predecessorDepthEpoch ≠ depth.boundary.predecessorEpoch ∨
      activation.predecessorTradeEpoch ≠ trade.boundary.predecessorEpoch ∨
      activation.successorDepthEpoch ≠ depth.boundary.successorEpoch ∨
      activation.successorTradeEpoch ≠ trade.boundary.successorEpoch ∨
      activation.depthBoundaryId ≠ depth.boundary.boundaryId ∨
      activation.tradeBoundaryId ≠ trade.boundary.boundaryId ∨
      activation.depthBoundarySequence ≠ depth.boundary.boundarySequence ∨
      activation.tradeBoundarySequence ≠ trade.boundary.boundarySequence ∨
      activation.depthCommitRecordSha256 ≠ depth.commitRecordSha256 ∨
      activation.tradeCommitRecordSha256 ≠ trade.commitRecordSha256 then
    err "ownership activation does not match committed boundary proofs"
  else .ok ()

def deriveOwnershipActivation (activationId successorGeneration : String)
    (current : SourcePointerSnapshotV1) (depth trade : CommittedBoundaryProofV1) :
    Result OwnershipActivationV1 := do
  current.validate
  depth.boundary.validate
  trade.boundary.validate
  Boundary.validateDigest depth.commitRecordSha256
  Boundary.validateDigest trade.commitRecordSha256
  if depth.boundary.streamKind ≠ .depth ∨ trade.boundary.streamKind ≠ .trade ∨
      depth.boundary.symbol ≠ current.symbol ∨ trade.boundary.symbol ≠ current.symbol ∨
      depth.boundary.predecessorEpoch ≠ current.depthEpoch ∨
      trade.boundary.predecessorEpoch ≠ current.tradeEpoch ∨
      depth.boundary.boundarySequence ≠ current.depthLastSequence ∨
      trade.boundary.boundarySequence ≠ current.tradeLastSequence then
    err "boundary proofs do not continue the active source generation"
  else
    let _ ← okOr (checkedAdd current.fencingToken.toNat 1) "fencing token overflow"
    let activation : OwnershipActivationV1 :=
      { schema := "OwnershipActivationV1", activationId, symbol := current.symbol
        predecessorGeneration := current.generationId, successorGeneration
        predecessorDepthEpoch := current.depthEpoch, predecessorTradeEpoch := current.tradeEpoch
        successorDepthEpoch := depth.boundary.successorEpoch
        successorTradeEpoch := trade.boundary.successorEpoch
        depthBoundaryId := depth.boundary.boundaryId, tradeBoundaryId := trade.boundary.boundaryId
        depthCommitRecordSha256 := depth.commitRecordSha256
        tradeCommitRecordSha256 := trade.commitRecordSha256
        depthBoundarySequence := depth.boundary.boundarySequence
        tradeBoundarySequence := trade.boundary.boundarySequence
        fencingToken := current.fencingToken + 1 }
    activation.validate
    validateActivationProofs activation depth trade
    .ok activation

def validateActivationPredecessor (active : SourcePointerSnapshotV1)
    (activation : OwnershipActivationV1) : Result Unit := do
  active.validate
  activation.validate
  if activation.symbol ≠ active.symbol ∨ activation.predecessorGeneration ≠ active.generationId ∨
      activation.predecessorDepthEpoch ≠ active.depthEpoch ∨
      activation.predecessorTradeEpoch ≠ active.tradeEpoch ∨
      activation.fencingToken.toNat ≠ (checkedAdd active.fencingToken.toNat 1).getD 0 then
    err "ownership activation does not exactly continue active owner"
  else .ok ()

/-! ## Records -/

inductive OwnershipAction where
  | initialized
  | prepared
  | activated
  deriving DecidableEq

structure OwnershipRecordV1 where
  schema : String
  recordIndex : Nat
  action : OwnershipAction
  initialOwner : Option SourcePointerSnapshotV1
  activation : Option OwnershipActivationV1
  preparedRecordSha256 : Option String
  previousRecordSha256 : String
  deriving DecidableEq

structure OwnershipLedgerAckV1 where
  schema : String
  action : OwnershipAction
  durableRecordCount : Nat
  durableThroughOffset : Nat
  lastRecordSha256 : String
  deriving DecidableEq

/-- `OwnershipLedgerScanV1`, without the path. -/
structure OwnershipLedgerScanV1 where
  schema : String
  fileSize : Nat
  records : Nat
  lastGoodOffset : Nat
  cleanEof : Bool
  reason : Option String
  activeOwner : Option SourcePointerSnapshotV1
  pendingActivation : Option OwnershipActivationV1
  lastActivation : Option OwnershipActivationV1
  lastRecordSha256 : String
  deriving DecidableEq

/-- `MAGIC`: `BNOWN\0\x01\n`. -/
def ledgerMagic : Bytes := [66, 78, 79, 87, 78, 0, 1, 10]

def maxRecordBytes : Nat := 256 * 1024

/-- The serializers, the parser and the digest the ledger is written and read with. -/
structure LedgerCodec where
  /-- `serde_json::to_vec(&record)`. -/
  toVec : OwnershipRecordV1 → Except String Bytes
  /-- `serde_json::from_slice::<OwnershipRecordV1>(&body)`. -/
  fromSlice : Bytes → Except String OwnershipRecordV1
  /-- `serde_json::to_vec` of the digest material of an owner. -/
  ownerToVec : SourcePointerSnapshotV1 → Except String Bytes
  /-- `Sha256::digest`. -/
  digest : Bytes → FixedBytes 32

/-- The parser undoes the serializer. -/
structure LedgerCodec.Lawful (codec : LedgerCodec) : Prop where
  fromSlice_toVec : ∀ record body, codec.toVec record = .ok body → codec.fromSlice body = .ok record

def LedgerCodec.framing (codec : LedgerCodec) : Framing where
  digest := codec.digest
  admits n := n ≤ maxRecordBytes
  admits_lt h := Nat.lt_of_le_of_lt (of_decide_eq_true h) (by decide)

/-- `SourcePointerSnapshotV1::digest`. -/
def SourcePointerSnapshotV1.digest (codec : LedgerCodec) (owner : SourcePointerSnapshotV1) :
    Result String := do
  owner.validate
  match codec.ownerToVec owner with
  | .error e => err s!"serialize source pointer digest: {e}"
  | .ok encoded => .ok (hex (codec.digest encoded).bytes)

/-! ## The writer -/

structure OwnershipLedgerWriter where
  sink : Sink
  endOffset : Nat
  previousDigest : String
  recordCount : Nat
  activeOwner : SourcePointerSnapshotV1
  pending : Option (OwnershipActivationV1 × String)
  poisoned : Bool

namespace OwnershipLedgerWriter

variable (codec : LedgerCodec)

/-- The writer behind a synced record. -/
def advance (writer : OwnershipLedgerWriter) (sink : Sink) (body : Bytes) :
    OwnershipLedgerWriter :=
  { writer with
    sink
    recordCount := writer.recordCount + 1
    endOffset := writer.endOffset + (codec.framing.frame body).length
    previousDigest := hex (codec.digest body).bytes }

/-- The acknowledgement of the last record. -/
def ack (writer : OwnershipLedgerWriter) (action : OwnershipAction) : OwnershipLedgerAckV1 where
  schema := "OwnershipLedgerAckV1"
  action := action
  durableRecordCount := writer.recordCount
  durableThroughOffset := writer.endOffset
  lastRecordSha256 := writer.previousDigest

def appendAndSync (writer : OwnershipLedgerWriter) (record : OwnershipRecordV1) :
    Result OwnershipLedgerAckV1 × OwnershipLedgerWriter :=
  if writer.poisoned then (err "ownership ledger is poisoned", writer)
  else
    match codec.toVec record with
    | .error e => (err s!"serialize ownership record: {e}", writer)
    | .ok body =>
      if maxRecordBytes < body.length then (err "ownership record exceeds maximum size", writer)
      else
        match writer.sink.writeSynced (codec.framing.frame body) with
        | (.error e, sink) =>
          (err s!"sync ownership record; ledger poisoned: {e}",
            { writer with sink, poisoned := true })
        | (.ok (), sink) =>
          let writer := writer.advance codec sink body
          (.ok (writer.ack record.action), writer)

def initializedRecord (initial : SourcePointerSnapshotV1) : OwnershipRecordV1 where
  schema := "OwnershipRecordV1"
  recordIndex := 0
  action := .initialized
  initialOwner := some initial
  activation := none
  preparedRecordSha256 := none
  previousRecordSha256 := zeroDigest

def fromSink (sink : Sink) (initial : SourcePointerSnapshotV1) : Result OwnershipLedgerWriter := do
  initial.validate
  match sink.writeAll ledgerMagic with
  | (.error e, _) => err s!"write ownership magic: {e}"
  | (.ok (), sink) =>
    match sink.barrier with
    | (.error e, _) => err s!"sync ownership magic: {e}"
    | (.ok (), sink) =>
      let writer : OwnershipLedgerWriter :=
        { sink, endOffset := ledgerMagic.length, previousDigest := zeroDigest, recordCount := 0
          activeOwner := initial, pending := none, poisoned := false }
      match writer.appendAndSync codec (initializedRecord initial) with
      | (.error e, _) => .error e
      | (.ok _, writer) => .ok writer

def preparedRecord (writer : OwnershipLedgerWriter) (activation : OwnershipActivationV1) :
    OwnershipRecordV1 where
  schema := "OwnershipRecordV1"
  recordIndex := writer.recordCount
  action := .prepared
  initialOwner := none
  activation := some activation
  preparedRecordSha256 := none
  previousRecordSha256 := writer.previousDigest

def prepare (writer : OwnershipLedgerWriter) (activation : OwnershipActivationV1) :
    Result OwnershipLedgerAckV1 × OwnershipLedgerWriter :=
  if writer.pending.isSome then (err "ownership ledger already has a pending activation", writer)
  else
    match validateActivationPredecessor writer.activeOwner activation with
    | .error e => (.error e, writer)
    | .ok () =>
      match writer.appendAndSync codec (writer.preparedRecord activation) with
      | (.error e, writer) => (.error e, writer)
      | (.ok ack, writer) =>
        (.ok ack, { writer with pending := some (activation, ack.lastRecordSha256) })

def activatedRecord (writer : OwnershipLedgerWriter) (preparedDigest : String) :
    OwnershipRecordV1 where
  schema := "OwnershipRecordV1"
  recordIndex := writer.recordCount
  action := .activated
  initialOwner := none
  activation := none
  preparedRecordSha256 := some preparedDigest
  previousRecordSha256 := writer.previousDigest

def activate (writer : OwnershipLedgerWriter) (activationId : String) :
    Result OwnershipLedgerAckV1 × OwnershipLedgerWriter :=
  match writer.pending with
  | none => (err "ownership cannot activate before durable prepare", writer)
  | some (activation, preparedDigest) =>
    if activation.activationId ≠ activationId then
      (err "ownership activation ID does not match prepared record", writer)
    else
      match writer.appendAndSync codec (writer.activatedRecord preparedDigest) with
      | (.error e, writer) => (.error e, writer)
      | (.ok ack, writer) =>
        (.ok ack, { writer with pending := none, activeOwner := activation.successorSnapshot })

end OwnershipLedgerWriter

/-! ## The scan -/

/-- What the scan carries from record to record. -/
structure LedgerScanState where
  records : Nat
  previous : String
  lastGoodOffset : Nat
  activeOwner : Option SourcePointerSnapshotV1
  pending : Option (OwnershipActivationV1 × String)
  lastActivation : Option OwnershipActivationV1
  deriving DecidableEq

/-- Behind the magic. -/
def LedgerScanState.start : LedgerScanState where
  records := 0
  previous := zeroDigest
  lastGoodOffset := ledgerMagic.length
  activeOwner := none
  pending := none
  lastActivation := none

/-- The closure the scan runs on a record, with the digest of its body. A refused activation has
    already taken what was pending. -/
def applyRecord (state : LedgerScanState) (record : OwnershipRecordV1) (digest : FixedBytes 32) :
    Option Failure × LedgerScanState :=
  if record.schema ≠ "OwnershipRecordV1" ∨ record.recordIndex ≠ state.records ∨
      record.previousRecordSha256 ≠ state.previous then
    (some (.err "ownership ledger chain/index mismatch"), state)
  else
    match record.action with
    | .initialized =>
      if state.records ≠ 0 ∨ state.activeOwner.isSome ∨ state.pending.isSome then
        (some (.err "illegal ownership initialization"), state)
      else
        match record.initialOwner with
        | none => (some (.err "ownership initialization lacks owner"), state)
        | some owner =>
          if record.activation.isSome ∨ record.preparedRecordSha256.isSome then
            (some (.err "ownership initialization has illegal fields"), state)
          else
            match owner.validate with
            | .error e => (some e, state)
            | .ok () => (none, { state with activeOwner := some owner })
    | .prepared =>
      match state.activeOwner with
      | none => (some (.err "ownership prepare precedes initialization"), state)
      | some owner =>
        if state.pending.isSome ∨ record.initialOwner.isSome ∨
            record.preparedRecordSha256.isSome then
          (some (.err "illegal ownership prepare"), state)
        else
          match record.activation with
          | none => (some (.err "ownership prepare lacks activation"), state)
          | some activation =>
            match validateActivationPredecessor owner activation with
            | .error e => (some e, state)
            | .ok () =>
              (none, { state with pending := some (activation, hex digest.bytes) })
    | .activated =>
      match state.pending with
      | none => (some (.err "ownership activation has no prepared record"), state)
      | some (activation, preparedDigest) =>
        let state := { state with pending := none }
        if record.initialOwner.isSome ∨ record.activation.isSome ∨
            record.preparedRecordSha256 ≠ some preparedDigest then
          (some (.err "ownership activation reference mismatch"), state)
        else
          (none, { state with activeOwner := some activation.successorSnapshot
                              lastActivation := some activation })

def failureText : Failure → String
  | .err message => message
  | .abort => "aborted"

def visitRecord (codec : LedgerCodec) (state : LedgerScanState) (body : Bytes) :
    Option String × LedgerScanState :=
  match codec.fromSlice body with
  | .error e => (some s!"invalid ownership record JSON: {e}", state)
  | .ok record =>
    match applyRecord state record (codec.digest body) with
    | (some failure, state) => (some (failureText failure), state)
    | (none, state) =>
      (none, { state with
        records := state.records + 1
        lastGoodOffset := state.lastGoodOffset + (4 + body.length + 32)
        previous := hex (codec.digest body).bytes })

/-- The reason a scan reports. -/
def stopReason : Stop String → String
  | .broken .partialLength => "partial ownership length prefix"
  | .broken .length => "ownership record length exceeds limit"
  | .broken .partialBody => "partial ownership record body"
  | .broken .partialDigest => "partial ownership record digest"
  | .broken .mismatch => "ownership record digest mismatch"
  | .refused reason => reason

/-- `scan_ownership_ledger`, on a file that can be read. -/
def scanOwnershipLedger (codec : LedgerCodec) (file : File) : OwnershipLedgerScanV1 :=
  if file.bytes.take ledgerMagic.length ≠ ledgerMagic then
    { schema := "OwnershipLedgerScanV1", fileSize := file.len, records := 0, lastGoodOffset := 0
      cleanEof := false, reason := some "bad ownership ledger magic", activeOwner := none
      pendingActivation := none, lastActivation := none, lastRecordSha256 := zeroDigest }
  else
    let (stop, state) := codec.framing.scan (visitRecord codec) .start
      (file.bytes.drop ledgerMagic.length)
    { schema := "OwnershipLedgerScanV1", fileSize := file.len, records := state.records
      lastGoodOffset := state.lastGoodOffset, cleanEof := stop.isNone
      reason := stop.map stopReason, activeOwner := state.activeOwner
      pendingActivation := state.pending.map (·.1), lastActivation := state.lastActivation
      lastRecordSha256 := state.previous }

/-! ## The codec on known records -/

/-- The `SCREAMING_SNAKE_CASE` name of an action. -/
def actionText : OwnershipAction → String
  | .initialized => "INITIALIZED"
  | .prepared => "PREPARED"
  | .activated => "ACTIVATED"

def ownerJson (owner : SourcePointerSnapshotV1) : Value :=
  .object [("schema", .string owner.schema), ("symbol", .string owner.symbol),
    ("generation_id", .string owner.generationId), ("depth_epoch", .string owner.depthEpoch),
    ("trade_epoch", .string owner.tradeEpoch), ("fencing_token", .nat owner.fencingToken),
    ("depth_last_sequence", .nat owner.depthLastSequence),
    ("trade_last_sequence", .nat owner.tradeLastSequence)]

/-- The digest material of an owner, its fields in the order of their names. -/
def ownerMaterial (owner : SourcePointerSnapshotV1) : Bytes :=
  (Value.object [("depth_epoch", .string owner.depthEpoch),
    ("depth_last_sequence", .nat owner.depthLastSequence),
    ("fencing_token", .nat owner.fencingToken), ("generation_id", .string owner.generationId),
    ("schema", .string owner.schema), ("symbol", .string owner.symbol),
    ("trade_epoch", .string owner.tradeEpoch),
    ("trade_last_sequence", .nat owner.tradeLastSequence)]).toVec

def activationJson (activation : OwnershipActivationV1) : Value :=
  .object [("schema", .string activation.schema),
    ("activation_id", .string activation.activationId), ("symbol", .string activation.symbol),
    ("predecessor_generation", .string activation.predecessorGeneration),
    ("successor_generation", .string activation.successorGeneration),
    ("predecessor_depth_epoch", .string activation.predecessorDepthEpoch),
    ("predecessor_trade_epoch", .string activation.predecessorTradeEpoch),
    ("successor_depth_epoch", .string activation.successorDepthEpoch),
    ("successor_trade_epoch", .string activation.successorTradeEpoch),
    ("depth_boundary_id", .string activation.depthBoundaryId),
    ("trade_boundary_id", .string activation.tradeBoundaryId),
    ("depth_commit_record_sha256", .string activation.depthCommitRecordSha256),
    ("trade_commit_record_sha256", .string activation.tradeCommitRecordSha256),
    ("depth_boundary_sequence", .nat activation.depthBoundarySequence),
    ("trade_boundary_sequence", .nat activation.tradeBoundarySequence),
    ("fencing_token", .nat activation.fencingToken)]

def recordText (record : OwnershipRecordV1) : Bytes :=
  (Value.object [("schema", .string record.schema),
    ("record_index", .nat (UInt64.ofNat record.recordIndex)),
    ("action", .string (actionText record.action)),
    ("initial_owner", (record.initialOwner.map ownerJson).getD .null),
    ("activation", (record.activation.map activationJson).getD .null),
    ("prepared_record_sha256", (record.preparedRecordSha256.map .string).getD .null),
    ("previous_record_sha256", .string record.previousRecordSha256)]).toVec

def knownLedgerCodec (known : List (OwnershipRecordV1 × Nat)) : LedgerCodec where
  toVec := knownToVec recordText known
  fromSlice := knownFromSlice recordText known
  ownerToVec owner := .ok (ownerMaterial owner)
  digest := knownDigest recordText known

theorem knownLedgerCodec_lawful {known : List (OwnershipRecordV1 × Nat)}
    (h : (known.map fun k => recordText k.1).Nodup) : (knownLedgerCodec known).Lawful where
  fromSlice_toVec _ _ hbody := knownFromSlice_of_toVec h hbody

/-- The records of a ledger of one activation, with their digests as numbers. -/
def rotationRecords (initial : SourcePointerSnapshotV1) (activation : OwnershipActivationV1)
    (first second third : Nat) : List (OwnershipRecordV1 × Nat) :=
  let initialized := hex (beBytes 32 first)
  let prepared := hex (beBytes 32 second)
  [(⟨"OwnershipRecordV1", 0, .initialized, some initial, none, none, zeroDigest⟩, first),
   (⟨"OwnershipRecordV1", 1, .prepared, none, some activation, none, initialized⟩, second),
   (⟨"OwnershipRecordV1", 2, .activated, none, none, some prepared, prepared⟩, third)]

end LobReplay.Ownership
