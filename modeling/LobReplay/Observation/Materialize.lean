/-
  The observations derived from raw records (observations.rs): the trades of one record and of a
  window of records, and the depth observations of a cursor that is fed record by record, of a
  window, and of a log file.

  The records of a window come from a reader (`RawRecordEnvelopeV1`); the file materialiser reads
  its own. The trade materialiser of a file is left out.
-/

import LobReplay.Book.State
import LobReplay.Boundary.Selection
import Mathlib.Data.List.Infix

namespace LobReplay.Observation

open Foundation Book
open Raw (RawRecordEnvelopeV1 RawCodec RawLogScanV1 readRawRecords scanRawLog)
open Boundary (kindText)

/-! ## Payloads -/

def strictObject (codec : BookCodec) (payload : Bytes) (label : String) : Result Value :=
  match codec.fromSlice payload with
  | .error e => err s!"{label} payload is not valid JSON: {e}"
  | .ok value => if value.isObject then .ok value else err s!"{label} payload root must be object"

def fieldU64 (value : Value) (field : String) : Result UInt64 :=
  okOr (value.u64Field field) s!"invalid non-negative integer field {field}"

def fieldBool (value : Value) (field : String) : Result Bool :=
  okOr ((value.get field).bind Value.asBool) s!"invalid boolean field {field}"

def depthIds (codec : BookCodec) (payload : Bytes) : Result (UInt64 × UInt64) := do
  let value ← strictObject codec payload "depth"
  if value.strField "e" ≠ some "depthUpdate" then err "unexpected depth event type"
  else do
    let firstSequence ← fieldU64 value "U"
    let finalSequence ← fieldU64 value "u"
    .ok (firstSequence, finalSequence)

def serverShutdownPayload (codec : BookCodec) (payload : Bytes) : Result Bool := do
  let value ← strictObject codec payload "serverShutdown/control"
  if value.strField "e" ≠ some "serverShutdown" then .ok false
  else do
    let _ ← fieldU64 value "E"
    .ok true

/-! ## Identities of records -/

/-- The symbol, the stream and the epoch of a record. -/
abbrev RecordIdentity := String × String × String

def recordIdentity (record : RawRecordEnvelopeV1) : RecordIdentity :=
  (record.frame.symbol, record.frame.stream, record.frame.connectionEpoch)

def identity (records : List RawRecordEnvelopeV1) : Result RecordIdentity := do
  let first ← okOr records.head? "raw source has no records"
  if records.any fun record => decide (recordIdentity record ≠ recordIdentity first) then
    err "raw source mixes symbol/stream/epoch identity"
  else .ok (recordIdentity first)

def requireContiguousFrames : List RawRecordEnvelopeV1 → Result Unit
  | first :: second :: rest =>
    if first.frame.frameIndex = maxU64 then err "raw frame index overflow"
    else if second.frame.frameIndex ≠ first.frame.frameIndex + 1 then
      err "raw observation window has a frame gap or duplicate"
    else requireContiguousFrames (second :: rest)
  | _ => .ok ()

/-- `stream.contains("@depth")`. -/
def isDepthStream (stream : String) : Bool := "@depth".toList <:+: stream.toList

/-- `stream.ends_with("@trade")`. -/
def isTradeStream (stream : String) : Bool := "@trade".toList <:+ stream.toList

def observationOf (identity : RecordIdentity) (kind : BoundaryStreamKind)
    (record : RawRecordEnvelopeV1) (firstSequence finalSequence : UInt64)
    (observationSha256 : String) : CanonicalObservationV1 where
  symbol := identity.1
  streamKind := kind
  stream := identity.2.1
  connectionEpoch := identity.2.2
  frameIndex := record.frame.frameIndex
  firstSequence := firstSequence
  finalSequence := finalSequence
  recordSha256 := record.recordSha256
  observationSha256 := observationSha256

/-! ## Trades -/

/-- The JSON of a `CanonicalTradeEvent`. -/
def tradeEventJson (bestMatch buyerIsMaker : Bool) (price quantity : FixedDecimal)
    (symbol : String) (tradeId tradeTime : UInt64) : Value :=
  .object [("best_match", .bool bestMatch), ("buyer_is_maker", .bool buyerIsMaker),
    ("price", .string price.display), ("quantity", .string quantity.display),
    ("schema", .string "CanonicalTradeEventV1"), ("symbol", .string symbol),
    ("trade_id", .nat tradeId), ("trade_time", .nat tradeTime)]

def tradeObservationDigestValue (codec : BookCodec) (value : Value) (symbol : String) :
    Result (UInt64 × String) :=
  if value.strField "e" ≠ some "trade" ∨ value.strField "s" ≠ some symbol then
    err "unexpected trade event type or symbol"
  else do
    let tradeId ← fieldU64 value "t"
    let _ ← fieldU64 value "E"
    let tradeTime ← fieldU64 value "T"
    let rawPrice ← okOr (value.strField "p") "trade price must be a string"
    let rawQuantity ← okOr (value.strField "q") "trade quantity must be a string"
    let price ← FixedDecimal.parse codec.debug rawPrice
    let quantity ← FixedDecimal.parse codec.debug rawQuantity
    if price.isZero ∨ price.isNegative ∨ quantity.isZero ∨ quantity.isNegative then
      err "trade price/quantity must be positive"
    else do
      let bestMatch ← fieldBool value "M"
      let buyerIsMaker ← fieldBool value "m"
      let material := tradeEventJson bestMatch buyerIsMaker price quantity symbol tradeId tradeTime
      .ok (tradeId, hex (codec.digest material.toVec).bytes)

def tradeObservationDigest (codec : BookCodec) (payload : Bytes) (symbol : String) :
    Result (UInt64 × String) := do
  let value ← strictObject codec payload "trade"
  tradeObservationDigestValue codec value symbol

def tradeScope (symbol stream : String) : Bool :=
  (symbol = "BTCUSDT" ∨ symbol = "ETHUSDT") ∧ isTradeStream stream

def materializeTradeRecord (codec : BookCodec) (record : RawRecordEnvelopeV1) :
    Result CanonicalObservationV1 :=
  if tradeScope record.frame.symbol record.frame.stream = false then
    err "trade record identity outside canonical scope"
  else do
    let (tradeId, eventDigest) ←
      tradeObservationDigest codec record.frame.payload record.frame.symbol
    .ok (observationOf (recordIdentity record) .trade record tradeId tradeId eventDigest)

/-- The loop of `materialize_trade_record_window`. -/
def tradeWindowLoop (codec : BookCodec) (identity : RecordIdentity) :
    List RawRecordEnvelopeV1 → Option UInt64 → List CanonicalObservationV1 →
    Result (List CanonicalObservationV1)
  | [], _, observations => .ok observations
  | record :: rest, previousTradeId, observations =>
    match serverShutdownPayload codec record.frame.payload with
    | .error e => .error e
    | .ok true => tradeWindowLoop codec identity rest previousTradeId observations
    | .ok false =>
      match tradeObservationDigest codec record.frame.payload identity.1 with
      | .error e => .error e
      | .ok (tradeId, eventDigest) =>
        if previousTradeId.any fun previous => decide (tradeId ≤ previous) then
          let previous := previousTradeId.getD 0
          err s!"trade ID duplicated or regressed: previous {previous}, got {tradeId}"
        else
          tradeWindowLoop codec identity rest (some tradeId)
            (observations ++ [observationOf identity .trade record tradeId tradeId eventDigest])

def materializeTradeRecordWindow (codec : BookCodec) (records : List RawRecordEnvelopeV1) :
    Result (List CanonicalObservationV1) := do
  let identity ← identity records
  requireContiguousFrames records
  if tradeScope identity.1 identity.2.1 = false then
    err "trade window identity outside canonical scope"
  else tradeWindowLoop codec identity records none []

/-! ## Depth -/

structure DepthObservationCursor where
  symbol : String
  stream : String
  connectionEpoch : String
  book : LocalOrderBook
  liveStarted : Bool

namespace DepthObservationCursor

def identity (cursor : DepthObservationCursor) : RecordIdentity :=
  (cursor.symbol, cursor.stream, cursor.connectionEpoch)

def fromSnapshot (codec : BookCodec) (snapshot first : RawRecordEnvelopeV1) :
    Result DepthObservationCursor :=
  if isDepthStream first.frame.stream = false ∨ snapshot.frame.symbol ≠ first.frame.symbol then
    err "depth cursor snapshot/stream identity mismatch"
  else do
    let book ← LocalOrderBook.new first.frame.symbol
    let (result, book) := book.loadSnapshot codec snapshot.frame.payload
    let _ ← result
    .ok { symbol := first.frame.symbol, stream := first.frame.stream
          connectionEpoch := first.frame.connectionEpoch, book, liveStarted := false }

/-- `apply_record`: the observation and the cursor the call leaves. -/
def applyRecord (codec : BookCodec) (cursor : DepthObservationCursor)
    (record : RawRecordEnvelopeV1) :
    Result (Option CanonicalObservationV1) × DepthObservationCursor :=
  if recordIdentity record ≠ cursor.identity then
    (err "depth cursor record identity mismatch", cursor)
  else
    match serverShutdownPayload codec record.frame.payload with
    | .error e => (.error e, cursor)
    | .ok true => (.ok none, cursor)
    | .ok false =>
      match depthIds codec record.frame.payload with
      | .error e => (.error e, cursor)
      | .ok (firstSequence, finalSequence) =>
        match cursor.book.applyDepth codec record.frame.payload with
        | (.error e, book) => (.error e, { cursor with book })
        | (.ok .old, book) =>
          let cursor := { cursor with book }
          if cursor.liveStarted then
            (err "stale depth record appeared after cursor became LIVE", cursor)
          else (.ok none, cursor)
        | (.ok .applied, book) =>
          (.ok (some (observationOf cursor.identity .depth record firstSequence finalSequence
              (book.stateDigest codec))),
            { cursor with book, liveStarted := true })

def applySlice (codec : BookCodec) :
    DepthObservationCursor → List RawRecordEnvelopeV1 →
    Result (List CanonicalObservationV1 × DepthObservationCursor)
  | cursor, [] => .ok ([], cursor)
  | cursor, record :: rest =>
    match cursor.applyRecord codec record with
    | (.error e, _) => .error e
    | (.ok observation, cursor) => do
      let (observations, cursor) ← cursor.applySlice codec rest
      .ok (observation.toList ++ observations, cursor)

/-- One slice after another. -/
def applySlices (codec : BookCodec) :
    DepthObservationCursor → List (List RawRecordEnvelopeV1) →
    Result (List CanonicalObservationV1 × DepthObservationCursor)
  | cursor, [] => .ok ([], cursor)
  | cursor, slice :: rest => do
    let (first, cursor) ← cursor.applySlice codec slice
    let (later, cursor) ← cursor.applySlices codec rest
    .ok (first ++ later, cursor)

end DepthObservationCursor

/-- The loop of `materialize_depth_record_window`. -/
def depthWindowLoop (codec : BookCodec) (identity : RecordIdentity) :
    List RawRecordEnvelopeV1 → LocalOrderBook → List CanonicalObservationV1 →
    Result (List CanonicalObservationV1)
  | [], _, observations => .ok observations
  | record :: rest, book, observations =>
    match serverShutdownPayload codec record.frame.payload with
    | .error e => .error e
    | .ok true => depthWindowLoop codec identity rest book observations
    | .ok false =>
      match depthIds codec record.frame.payload with
      | .error e => .error e
      | .ok (firstSequence, finalSequence) =>
        match book.applyDepth codec record.frame.payload with
        | (.error e, _) => .error e
        | (.ok .old, book) =>
          if observations ≠ [] then err "stale depth record appeared after window became LIVE"
          else depthWindowLoop codec identity rest book observations
        | (.ok .applied, book) =>
          depthWindowLoop codec identity rest book
            (observations ++ [observationOf identity .depth record firstSequence finalSequence
              (book.stateDigest codec)])

def materializeDepthRecordWindow (codec : BookCodec) (snapshot : RawRecordEnvelopeV1)
    (records : List RawRecordEnvelopeV1) : Result (List CanonicalObservationV1) := do
  let identity ← identity records
  requireContiguousFrames records
  if isDepthStream identity.2.1 = false ∨ snapshot.frame.symbol ≠ identity.1 then
    err "depth window snapshot/stream identity mismatch"
  else do
    let book ← LocalOrderBook.new identity.1
    let (result, book) := book.loadSnapshot codec snapshot.frame.payload
    let _ ← result
    let observations ← depthWindowLoop codec identity records book []
    if observations = [] then err "depth window never reached LIVE" else .ok observations

/-! ## The file materialiser -/

structure ObservationMaterializationV1 where
  schema : String
  symbol : String
  streamKind : BoundaryStreamKind
  stream : String
  connectionEpoch : String
  rawPath : String
  rawLastRecordSha256 : String
  snapshotPath : Option String
  snapshotRecordSha256 : Option String
  snapshotLastUpdateId : Option UInt64
  rawRecords : Nat
  skippedInitialOldRecords : Nat
  observations : List CanonicalObservationV1
  firstSequence : UInt64
  finalSequence : UInt64
  materializationSha256 : String
  deriving DecidableEq

/-- The JSON of an `ObservationDigestItem`. -/
def digestItemJson (item : CanonicalObservationV1) : Value :=
  .object [("connection_epoch", .string item.connectionEpoch),
    ("final_sequence", .nat item.finalSequence), ("first_sequence", .nat item.firstSequence),
    ("frame_index", .nat item.frameIndex),
    ("observation_sha256", .string item.observationSha256),
    ("record_sha256", .string item.recordSha256), ("stream", .string item.stream),
    ("stream_kind", .string (kindText item.streamKind)), ("symbol", .string item.symbol)]

/-- The JSON of a `MaterializationDigest`. -/
def materializationDigestJson (observations : List CanonicalObservationV1)
    (rawLastRecordSha256 : String) (skippedInitialOldRecords : Nat)
    (snapshotLastUpdateId : Option UInt64) (snapshotRecordSha256 : Option String)
    (kind : BoundaryStreamKind) : Value :=
  .object [("observations", .array (observations.map digestItemJson)),
    ("raw_last_record_sha256", .string rawLastRecordSha256),
    ("schema", .string "ObservationMaterializationDigestV1"),
    ("skipped_initial_old_records", .nat (UInt64.ofNat skippedInitialOldRecords)),
    ("snapshot_last_update_id", (snapshotLastUpdateId.map .nat).getD .null),
    ("snapshot_record_sha256", (snapshotRecordSha256.map .string).getD .null),
    ("stream_kind", .string (kindText kind))]

/-- `finalize`. `debugReason` is the text `{:?}` writes of the scan's reason. -/
def finalize (raw : RawCodec) (codec : BookCodec) (debugReason : Option String → String)
    (rawPath : String) (rawFile : File) (kind : BoundaryStreamKind)
    (records : List RawRecordEnvelopeV1) (observations : List CanonicalObservationV1)
    (skippedInitialOldRecords : Nat) (snapshotPath snapshotRecordSha256 : Option String)
    (snapshotLastUpdateId : Option UInt64) : Result ObservationMaterializationV1 := do
  let first ← okOr observations.head? "materialization produced no observations"
  let last ← okOr observations.getLast? "materialization produced no observations"
  let (symbol, stream, connectionEpoch) ← identity records
  let scan ← scanRawLog raw rawPath rawFile
  if scan.cleanEof = false then
    let reason := debugReason scan.reason
    err s!"raw source is corrupt/incomplete: {reason}"
  else
    let encoded := (materializationDigestJson observations scan.lastRecordSha256
      skippedInitialOldRecords snapshotLastUpdateId snapshotRecordSha256 kind).toVec
    .ok { schema := "ObservationMaterializationV1", symbol, streamKind := kind, stream
          connectionEpoch, rawPath, rawLastRecordSha256 := scan.lastRecordSha256, snapshotPath
          snapshotRecordSha256, snapshotLastUpdateId, rawRecords := records.length
          skippedInitialOldRecords, observations, firstSequence := first.firstSequence
          finalSequence := last.finalSequence
          materializationSha256 := hex (codec.digest encoded).bytes }

/-- The loop of `materialize_depth_observations`: it has no case for control frames. -/
def depthFileLoop (codec : BookCodec) (identity : RecordIdentity) :
    List RawRecordEnvelopeV1 → LocalOrderBook → List CanonicalObservationV1 → Nat →
    Result (List CanonicalObservationV1 × Nat)
  | [], _, observations, skipped => .ok (observations, skipped)
  | record :: rest, book, observations, skipped =>
    match depthIds codec record.frame.payload with
    | .error e => .error e
    | .ok (firstSequence, finalSequence) =>
      match book.applyDepth codec record.frame.payload with
      | (.error e, _) => .error e
      | (.ok .old, book) =>
        if observations ≠ [] then
          err "stale depth record appeared after canonical LIVE observations"
        else depthFileLoop codec identity rest book observations (skipped + 1)
      | (.ok .applied, book) =>
        depthFileLoop codec identity rest book
          (observations ++ [observationOf identity .depth record firstSequence finalSequence
            (book.stateDigest codec)]) skipped

def materializeDepthObservations (raw : RawCodec) (codec : BookCodec)
    (debugReason : Option String → String) (snapshotPath : String) (snapshotFile : File)
    (depthPath : String) (depthFile : File) : Result ObservationMaterializationV1 := do
  let snapshots ← readRawRecords raw snapshotFile
  match snapshots with
  | [snapshot] => do
    let records ← readRawRecords raw depthFile
    let identity ← identity records
    if isDepthStream identity.2.1 = false then err "depth source stream is not a depth stream"
    else if snapshot.frame.symbol ≠ identity.1 then err "snapshot/depth symbol mismatch"
    else do
      let book ← LocalOrderBook.new identity.1
      let (result, book) := book.loadSnapshot codec snapshot.frame.payload
      let snapshotLastUpdateId ← result
      let (observations, skipped) ← depthFileLoop codec identity records book [] 0
      finalize raw codec debugReason depthPath depthFile .depth records observations skipped
        (some snapshotPath) (some snapshot.recordSha256) (some snapshotLastUpdateId)
  | _ => err "depth materialization requires one snapshot"

end LobReplay.Observation
