/-
  The canonical output journal of canonical_output.rs: the writer that publishes observations and
  changes of owner, and the scan that reads its journal back. The rules of continuity and of fencing
  are written twice in the source, in `publish`/`change_owner` and in `validate_scanned_record`, and
  so they are here.

  serde_json and SHA-256 are parameters (`OutputCodec`). The counters are naturals: a file has no
  room for 2^64 records.
-/

import LobReplay.Foundation.Frames
import LobReplay.Raw.Log

namespace LobReplay.Canonical

open Foundation
open Raw (Sink)

/-! ## Data -/

inductive CanonicalOutputAction where
  | initialized
  | observation
  | ownershipChanged
  deriving DecidableEq

structure CanonicalOutputOwnerV1 where
  generationId : String
  connectionEpoch : String
  fencingToken : UInt64
  lastSequence : UInt64
  deriving DecidableEq

structure CanonicalOutputRecordV1 where
  schema : String
  recordIndex : Nat
  action : CanonicalOutputAction
  symbol : String
  streamKind : BoundaryStreamKind
  owner : CanonicalOutputOwnerV1
  observation : Option CanonicalObservationV1
  ownershipActivationRecordSha256 : Option String
  previousRecordSha256 : String
  deriving DecidableEq

structure CanonicalOutputAckV1 where
  schema : String
  action : CanonicalOutputAction
  durableRecordCount : Nat
  durableThroughOffset : Nat
  lastRecordSha256 : String
  owner : CanonicalOutputOwnerV1
  deriving DecidableEq

/-- `CanonicalOutputScanV1`, without the path. -/
structure CanonicalOutputScanV1 where
  schema : String
  records : Nat
  observations : Nat
  ownershipChanges : Nat
  lastGoodOffset : Nat
  cleanEof : Bool
  reason : Option String
  symbol : Option String
  streamKind : Option BoundaryStreamKind
  owner : Option CanonicalOutputOwnerV1
  lastObservation : Option CanonicalObservationV1
  lastRecordSha256 : String
  deriving DecidableEq

/-- `MAGIC`: `BNPUB\0\x01\n`. -/
def outputMagic : Bytes := [66, 78, 80, 85, 66, 0, 1, 10]

def maxRecordBytes : Nat := 256 * 1024

/-- The serializer, the parser and the digest the journal is written and read with. -/
structure OutputCodec where
  /-- `serde_json::to_vec(&record)`. -/
  toVec : CanonicalOutputRecordV1 → Except String Bytes
  /-- `serde_json::from_slice::<CanonicalOutputRecordV1>(&body)`. -/
  fromSlice : Bytes → Except String CanonicalOutputRecordV1
  /-- `Sha256::digest`. -/
  digest : Bytes → FixedBytes 32

/-- The parser undoes the serializer, and no text is empty. -/
structure OutputCodec.Lawful (codec : OutputCodec) : Prop where
  fromSlice_toVec : ∀ record body, codec.toVec record = .ok body → codec.fromSlice body = .ok record
  toVec_ne_nil : ∀ record body, codec.toVec record = .ok body → body ≠ []

/-- How the journal is framed: no body is empty or longer than the limit. -/
def OutputCodec.framing (codec : OutputCodec) : Framing where
  digest := codec.digest
  admits n := n ≠ 0 && n ≤ maxRecordBytes
  admits_lt {n} h := by
    have hle : n ≤ maxRecordBytes := by
      rw [Bool.and_eq_true] at h
      exact of_decide_eq_true h.2
    exact Nat.lt_of_le_of_lt hle (by decide)

/-! ## What both sides check -/

def validateIdentity (symbol : String) (owner : CanonicalOutputOwnerV1) : Result Unit :=
  if (symbol ≠ "BTCUSDT" ∧ symbol ≠ "ETHUSDT") ∨ isBlank owner.generationId ∨
      isBlank owner.connectionEpoch ∨ owner.fencingToken = 0 then
    err "invalid canonical output identity"
  else .ok ()

/-- The observation continues at the `expected` sequence: a depth frame covers it, a trade is it. -/
def continuous (kind : BoundaryStreamKind) (expected : Nat)
    (observation : CanonicalObservationV1) : Bool :=
  match kind with
  | .depth =>
    observation.firstSequence.toNat ≤ expected && expected ≤ observation.finalSequence.toNat
  | .trade =>
    observation.firstSequence.toNat = expected && observation.finalSequence.toNat = expected

/-- `fencing_token.checked_add(1).unwrap_or(0)`. -/
def nextToken (token : UInt64) : Nat := (checkedAdd token.toNat 1).getD 0

/-! ## The writer -/

structure CanonicalOutputWriter where
  sink : Sink
  symbol : String
  streamKind : BoundaryStreamKind
  owner : CanonicalOutputOwnerV1
  recordCount : Nat
  endOffset : Nat
  previousDigest : String
  poisoned : Bool

namespace CanonicalOutputWriter

variable (codec : OutputCodec)

/-- The record that continues the journal. -/
def record (writer : CanonicalOutputWriter) (action : CanonicalOutputAction)
    (owner : CanonicalOutputOwnerV1) (observation : Option CanonicalObservationV1)
    (activationSha256 : Option String) : CanonicalOutputRecordV1 where
  schema := "CanonicalOutputRecordV1"
  recordIndex := writer.recordCount
  action := action
  symbol := writer.symbol
  streamKind := writer.streamKind
  owner := owner
  observation := observation
  ownershipActivationRecordSha256 := activationSha256
  previousRecordSha256 := writer.previousDigest

/-- The writer behind a synced record. -/
def advance (writer : CanonicalOutputWriter) (sink : Sink) (body : Bytes) :
    CanonicalOutputWriter :=
  { writer with
    sink
    recordCount := writer.recordCount + 1
    endOffset := writer.endOffset + (codec.framing.frame body).length
    previousDigest := hex (codec.digest body).bytes }

/-- The acknowledgement of the last record. -/
def ack (writer : CanonicalOutputWriter) (action : CanonicalOutputAction)
    (owner : CanonicalOutputOwnerV1) : CanonicalOutputAckV1 where
  schema := "CanonicalOutputAckV1"
  action := action
  durableRecordCount := writer.recordCount
  durableThroughOffset := writer.endOffset
  lastRecordSha256 := writer.previousDigest
  owner := owner

def appendRecord (writer : CanonicalOutputWriter) (action : CanonicalOutputAction)
    (owner : CanonicalOutputOwnerV1) (observation : Option CanonicalObservationV1)
    (activationSha256 : Option String) : Result CanonicalOutputAckV1 × CanonicalOutputWriter :=
  if writer.poisoned then (err "canonical output writer is poisoned", writer)
  else
    match codec.toVec (writer.record action owner observation activationSha256) with
    | .error e => (err s!"serialize canonical output: {e}", writer)
    | .ok body =>
      if maxRecordBytes < body.length then
        (err "canonical output record exceeds maximum size", writer)
      else
        match writer.sink.writeSynced (codec.framing.frame body) with
        | (.error e, sink) =>
          (err s!"sync canonical output; writer poisoned: {e}",
            { writer with sink, poisoned := true })
        | (.ok (), sink) =>
          let writer := writer.advance codec sink body
          (.ok (writer.ack action owner), writer)

def fromSink (sink : Sink) (symbol : String) (streamKind : BoundaryStreamKind)
    (owner : CanonicalOutputOwnerV1) : Result CanonicalOutputWriter := do
  validateIdentity symbol owner
  match sink.writeSynced outputMagic with
  | (.error e, _) => err s!"sync canonical output magic: {e}"
  | (.ok (), sink) =>
    let writer : CanonicalOutputWriter :=
      { sink, symbol, streamKind, owner, recordCount := 0, endOffset := outputMagic.length
        previousDigest := zeroDigest, poisoned := false }
    match writer.appendRecord codec .initialized owner none none with
    | (.error e, _) => .error e
    | (.ok _, writer) => .ok writer

def publish (writer : CanonicalOutputWriter) (observation : CanonicalObservationV1) :
    Result CanonicalOutputAckV1 × CanonicalOutputWriter :=
  if observation.symbol ≠ writer.symbol ∨ observation.streamKind ≠ writer.streamKind ∨
      observation.connectionEpoch ≠ writer.owner.connectionEpoch then
    (err "canonical observation rejected by output ownership fence", writer)
  else
    match checkedAdd writer.owner.lastSequence.toNat 1 with
    | none => (err "canonical output sequence overflow", writer)
    | some expected =>
      if continuous writer.streamKind expected observation = false then
        (err s!"canonical output gap: expected {expected}, got {observation.firstSequence}..{observation.finalSequence}",
          writer)
      else
        let next := { writer.owner with lastSequence := observation.finalSequence }
        match writer.appendRecord codec .observation next (some observation) none with
        | (.error e, writer) => (.error e, writer)
        | (.ok ack, writer) => (.ok ack, { writer with owner := next })

/-- The arguments of `change_owner`. -/
structure Transition where
  generationId : String
  connectionEpoch : String
  fencingToken : UInt64
  boundarySequence : UInt64
  activationRecordSha256 : String
  deriving DecidableEq

def Transition.owner (change : Transition) : CanonicalOutputOwnerV1 where
  generationId := change.generationId
  connectionEpoch := change.connectionEpoch
  fencingToken := change.fencingToken
  lastSequence := change.boundarySequence

/-- What `change_owner` checks of a transition, but for its fencing token. -/
def Transition.Leaves (change : Transition) (owner : CanonicalOutputOwnerV1) : Prop :=
  isBlank change.generationId = false ∧ isBlank change.connectionEpoch = false ∧
    change.generationId ≠ owner.generationId ∧ change.connectionEpoch ≠ owner.connectionEpoch ∧
    change.boundarySequence = owner.lastSequence ∧
    isLowerHex64 change.activationRecordSha256 = true

instance (change : Transition) (owner : CanonicalOutputOwnerV1) :
    Decidable (change.Leaves owner) := inferInstanceAs (Decidable (_ ∧ _))

def changeOwner (writer : CanonicalOutputWriter) (change : Transition) :
    Result CanonicalOutputAckV1 × CanonicalOutputWriter :=
  if isBlank change.generationId ∨ isBlank change.connectionEpoch ∨
      change.generationId = writer.owner.generationId ∨
      change.connectionEpoch = writer.owner.connectionEpoch ∨
      change.fencingToken.toNat ≠ nextToken writer.owner.fencingToken ∨
      change.boundarySequence ≠ writer.owner.lastSequence ∨
      ¬ isLowerHex64 change.activationRecordSha256 then
    (err "invalid canonical output ownership transition", writer)
  else
    match writer.appendRecord codec .ownershipChanged change.owner none
        (some change.activationRecordSha256) with
    | (.error e, writer) => (.error e, writer)
    | (.ok ack, writer) => (.ok ack, { writer with owner := change.owner })

end CanonicalOutputWriter

/-! ## The scan -/

/-- What the scan carries from record to record. -/
structure OutputScanState where
  records : Nat
  observations : Nat
  ownershipChanges : Nat
  offset : Nat
  symbol : Option String
  streamKind : Option BoundaryStreamKind
  owner : Option CanonicalOutputOwnerV1
  lastObservation : Option CanonicalObservationV1
  previous : String
  deriving DecidableEq

/-- Behind the magic. -/
def OutputScanState.start : OutputScanState where
  records := 0
  observations := 0
  ownershipChanges := 0
  offset := outputMagic.length
  symbol := none
  streamKind := none
  owner := none
  lastObservation := none
  previous := zeroDigest

/-- What a record of each action is checked for. -/
def validateTransition (record : CanonicalOutputRecordV1) (index : Nat)
    (previousOwner : Option CanonicalOutputOwnerV1) : Result Unit :=
  match record.action with
  | .initialized =>
    if index ≠ 0 ∨ previousOwner.isSome ∨ record.observation.isSome ∨
        record.ownershipActivationRecordSha256.isSome then
      err "illegal canonical output initialization"
    else .ok ()
  | .observation => do
    let old ← okOr previousOwner "observation before initialization"
    let observation ← okOr record.observation "observation record lacks observation"
    let expected ← okOr (checkedAdd old.lastSequence.toNat 1) "sequence overflow"
    if continuous record.streamKind expected observation = false ∨
        observation.symbol ≠ record.symbol ∨ observation.streamKind ≠ record.streamKind ∨
        observation.connectionEpoch ≠ old.connectionEpoch ∨
        record.owner.generationId ≠ old.generationId ∨
        record.owner.connectionEpoch ≠ old.connectionEpoch ∨
        record.owner.fencingToken ≠ old.fencingToken ∨
        record.owner.lastSequence ≠ observation.finalSequence ∨
        record.ownershipActivationRecordSha256.isSome then
      err "invalid canonical output observation"
    else .ok ()
  | .ownershipChanged => do
    let old ← okOr previousOwner "ownership change before initialization"
    let digest ← okOr record.ownershipActivationRecordSha256
      "ownership change lacks activation proof"
    if ¬ isLowerHex64 digest ∨ record.observation.isSome ∨
        record.owner.generationId = old.generationId ∨
        record.owner.connectionEpoch = old.connectionEpoch ∨
        record.owner.fencingToken.toNat ≠ nextToken old.fencingToken ∨
        record.owner.lastSequence ≠ old.lastSequence then
      err "invalid canonical output ownership change"
    else .ok ()

def validateScannedRecord (record : CanonicalOutputRecordV1) (state : OutputScanState) :
    Result Unit :=
  if record.schema ≠ "CanonicalOutputRecordV1" ∨ record.recordIndex ≠ state.records ∨
      record.previousRecordSha256 ≠ state.previous ∨
      (state.symbol.any fun value => decide (value ≠ record.symbol)) ∨
      (state.streamKind.any fun value => decide (value ≠ record.streamKind)) then
    err "canonical output record identity mismatch"
  else do
    validateIdentity record.symbol record.owner
    validateTransition record state.records state.owner

def OutputScanState.next (state : OutputScanState) (codec : OutputCodec) (body : Bytes)
    (record : CanonicalOutputRecordV1) : OutputScanState where
  records := state.records + 1
  observations := state.observations + if record.action = .observation then 1 else 0
  ownershipChanges := state.ownershipChanges + if record.action = .ownershipChanged then 1 else 0
  offset := state.offset + (4 + body.length + 32)
  symbol := some (state.symbol.getD record.symbol)
  streamKind := some (state.streamKind.getD record.streamKind)
  owner := some record.owner
  lastObservation :=
    if record.action = .observation then record.observation else state.lastObservation
  previous := hex (codec.digest body).bytes

def visitRecord (codec : OutputCodec) (state : OutputScanState) (body : Bytes) :
    Option String × OutputScanState :=
  match codec.fromSlice body with
  | .error e => (some s!"invalid canonical output JSON: {e}", state)
  | .ok record =>
    match validateScannedRecord record state with
    | .error _ => (some "invalid canonical output transition/continuity", state)
    | .ok () => (none, state.next codec body record)

/-- The reason a scan reports. -/
def stopReason : Stop String → String
  | .broken .partialLength => "partial canonical output length"
  | .broken .length => "invalid canonical output record length"
  | .broken .partialBody => "partial canonical output record"
  | .broken .partialDigest => "partial canonical output record"
  | .broken .mismatch => "canonical output digest mismatch"
  | .refused reason => reason

def scanCanonicalOutput (codec : OutputCodec) (file : File) : Result CanonicalOutputScanV1 :=
  if file.bytes.take outputMagic.length ≠ outputMagic then err "bad canonical output magic"
  else
    let (stop, state) := codec.framing.scan (visitRecord codec) .start
      (file.bytes.drop outputMagic.length)
    .ok
      { schema := "CanonicalOutputScanV1", records := state.records
        observations := state.observations, ownershipChanges := state.ownershipChanges
        lastGoodOffset := state.offset
        cleanEof := stop.isNone && state.offset == file.len
        reason := stop.map stopReason, symbol := state.symbol, streamKind := state.streamKind
        owner := state.owner, lastObservation := state.lastObservation
        lastRecordSha256 := state.previous }

/-- `resume`, on a sink over the journal that nothing else writes to. -/
def CanonicalOutputWriter.resume (codec : OutputCodec) (sink : Sink) :
    Result CanonicalOutputWriter := do
  let scan ← scanCanonicalOutput codec sink.file
  if scan.cleanEof = false ∨ scan.records = 0 then
    err "canonical output cannot resume from an unclean journal"
  else
    let symbol ← okOr scan.symbol "canonical output scan lacks symbol"
    let streamKind ← okOr scan.streamKind "canonical output scan lacks stream kind"
    let owner ← okOr scan.owner "canonical output scan lacks owner"
    if sink.file.len ≠ scan.lastGoodOffset then err "canonical output changed during resume"
    else
      .ok { sink, symbol, streamKind, owner, recordCount := scan.records
            endOffset := scan.lastGoodOffset, previousDigest := scan.lastRecordSha256
            poisoned := false }

/-! ## Runs -/

inductive Call where
  | publish (observation : CanonicalObservationV1)
  | changeOwner (change : CanonicalOutputWriter.Transition)
  deriving DecidableEq

def CanonicalOutputWriter.step (codec : OutputCodec) (writer : CanonicalOutputWriter) :
    Call → Result CanonicalOutputAckV1 × CanonicalOutputWriter
  | .publish observation => writer.publish codec observation
  | .changeOwner change => writer.changeOwner codec change

end LobReplay.Canonical
