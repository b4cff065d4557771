/-
  The transport journal of transport_journal.rs: its records, the writer and
  `scan_transport_journal`.

  The tests of the scan on the order of the events are a machine of their own (`Lifecycle.step`).
  What the writer appends is a line the scan accepts exactly when the machine does
  (`Written.append`); what the machine accepts is a connection that was attempted first and whose
  end is told once (`Lifecycle.Told.step`).

  `u64` fields are naturals. serde_json and SHA-256 are the parameter `TransportCodec`.
-/

import LobReplay.Foundation.Lines
import LobReplay.Hex
import LobReplay.Segment.Seal
import LobReplay.Segmented.TransportPayload

namespace LobReplay.Segmented

open Foundation Raw

/-! ## Records -/

structure TransportJournalBodyV1 where
  schema : String
  recordIndex : Nat
  wallNs : Nat
  monoNs : Nat
  stream : String
  connectionEpoch : String
  event : String
  payload : Value
  previousRecordSha256 : String
  deriving DecidableEq

structure TransportJournalEnvelopeV1 where
  body : TransportJournalBodyV1
  recordSha256 : String
  deriving DecidableEq

structure TransportJournalSealV1 where
  schema : String
  file : String
  records : Nat
  terminalRecordSha256 : String
  fileBytes : Nat
  fileSha256 : String
  deriving DecidableEq

/-- `MAX_RECORD_BYTES`. -/
def maxTransportRecordBytes : Nat := 1024 * 1024

def maxJournalBytes : Nat := 64 * 1024 * 1024

/-- The JSON and digest functions of the journal. -/
structure TransportCodec where
  /-- `serde_json::to_vec(&body)`. -/
  bodyToVec : TransportJournalBodyV1 → Except String Bytes
  /-- `serde_json::to_vec(&envelope)`. -/
  envelopeToVec : TransportJournalEnvelopeV1 → Except String Bytes
  /-- `serde_json::from_slice::<TransportJournalEnvelopeV1>(line)`. -/
  fromSlice : Bytes → Except String TransportJournalEnvelopeV1
  /-- `Sha256::digest`. -/
  digest : Bytes → FixedBytes 32

def TransportCodec.sha256Bytes (codec : TransportCodec) (bytes : Bytes) : String :=
  hex (codec.digest bytes).bytes

/-! ## The writer -/

/-- `TransportJournalWriter`, with the bytes its file holds. -/
structure TransportJournalWriter where
  path : String
  fileName : String
  file : Bytes
  stream : String
  connectionEpoch : String
  nextIndex : Nat
  previousRecordSha256 : String
  deriving DecidableEq

namespace TransportJournalWriter

/-- `create`; `opened` is how the creation of the file ends. -/
def create (path stream connectionEpoch : String) (opened : Except String Unit) :
    Except String TransportJournalWriter :=
  if (stream ≠ "depth" ∧ stream ≠ "trade") ∨ isBlank connectionEpoch then
    .error "transport journal stream/connection epoch is invalid"
  else
    match Raw.fileName path with
    | none => .error "transport journal path lacks a UTF-8 file name"
    | some fileName =>
      match opened with
      | .error error => .error s!"create {path}: {error}"
      | .ok () =>
        .ok { path, fileName, file := [], stream, connectionEpoch, nextIndex := 0
              previousRecordSha256 := zeroDigest }

/-- The body of the next record. -/
def body (journal : TransportJournalWriter) (wallNs monoNs : Nat) (event : String)
    (payload : Value) : TransportJournalBodyV1 where
  schema := "TransportJournalRecordV1"
  recordIndex := journal.nextIndex
  wallNs := wallNs
  monoNs := monoNs
  stream := journal.stream
  connectionEpoch := journal.connectionEpoch
  event := event
  payload := payload
  previousRecordSha256 := journal.previousRecordSha256

/-- The write of a line and its bookkeeping; `fault` is how the write, the flush and the sync
    of the file end. -/
def commit (journal : TransportJournalWriter) (line : Bytes) (digest : String) (fault : Fault) :
    Except String String × TransportJournalWriter :=
  match fault with
  | .fail written error =>
    (.error s!"sync transport journal {journal.path}: {error}",
      { journal with file := journal.file ++ line.take written })
  | .none =>
    let journal := { journal with file := journal.file ++ line }
    match checkedAdd journal.nextIndex 1 with
    | none => (.error "transport journal index overflow", journal)
    | some nextIndex => (.ok digest, { journal with nextIndex, previousRecordSha256 := digest })

def append (codec : TransportCodec) (journal : TransportJournalWriter) (wallNs monoNs : Nat)
    (event : String) (payload : Value) (fault : Fault) :
    Except String String × TransportJournalWriter :=
  if wallNs = 0 ∨ isBlank event then
    (.error "transport journal timestamp/event is invalid", journal)
  else if validTransportPayload event payload = false then
    (.error s!"transport journal {event} payload is invalid", journal)
  else
    let body := journal.body wallNs monoNs event payload
    match codec.bodyToVec body with
    | .error error => (.error s!"serialize transport journal body: {error}", journal)
    | .ok bodyBytes =>
      let digest := codec.sha256Bytes bodyBytes
      match codec.envelopeToVec { body, recordSha256 := digest } with
      | .error error => (.error s!"serialize transport journal envelope: {error}", journal)
      | .ok bytes =>
        if maxTransportRecordBytes < bytes.length + 1 then
          (.error "transport journal record exceeds its bounded size", journal)
        else journal.commit (bytes ++ [newline]) digest fault

end TransportJournalWriter

/-! ## The order of the events -/

/-- What the scan remembers of the events so far. -/
structure Lifecycle where
  websocketConnected : Bool := false
  clientStopObserved : Bool := false
  failureReason : Option String := none
  terminalSeen : Bool := false
  deriving DecidableEq

namespace Lifecycle

def thirdEvents : List TransportEvent :=
  [.connectFailed, .websocketUpgradeRejected, .websocketConnected, .supervisorFailureStop,
    .producerFailure]

/-- The tests of a terminal record. -/
def contradicts (life : Lifecycle) (payload : Value) : Prop :=
  (payload.strField "status" = some "STOPPED" ∧
      (life.clientStopObserved = false ∨ life.failureReason.isSome)) ∨
    (payload.strField "status" = some "FAILED" ∧
      (life.failureReason.isNone ∨ payload.strField "error" ≠ life.failureReason))

instance (life : Lifecycle) (payload : Value) : Decidable (life.contradicts payload) := by
  unfold contradicts
  infer_instance

/-- The `match` on the event. -/
def observe (index : Nat) (life : Lifecycle) (event : TransportEvent) (payload : Value) :
    Except String Lifecycle :=
  match event with
  | .websocketConnected =>
    if life.websocketConnected then
      .error "transport journal contains duplicate WebSocket connection"
    else .ok { life with websocketConnected := true }
  | .supervisorFailureStop =>
    if 2 < index ∧ life.websocketConnected = false then
      .error "supervisor failure stop has no observable socket boundary"
    else .ok life
  | .producerFailure => .ok { life with failureReason := payload.strField "error" }
  | .transportTerminal =>
    if life.contradicts payload then
      .error "transport terminal contradicts its observed lifecycle"
    else .ok { life with terminalSeen := true }
  | event =>
    if event.needsConnection = true ∧ life.websocketConnected = false then
      .error "transport event precedes WebSocket connection"
    else if event = .clientStopObserved then .ok { life with clientStopObserved := true }
    else .ok life

/-- The tests of the scan on the event of the record at `index`. -/
def step (index : Nat) (life : Lifecycle) (event : TransportEvent) (payload : Value) :
    Except String Lifecycle :=
  if life.terminalSeen = true ∨ (index = 0 ∧ event ≠ .connectAttempt) ∨
      (index = 1 ∧ event ≠ .dnsObserved ∧ event ≠ .dnsFailed) ∨
      (index = 2 ∧ event ∉ thirdEvents) then
    .error "transport journal lifecycle sequence is invalid"
  else if 2 < index ∧ life.websocketConnected = false ∧ event ≠ .producerFailure ∧
      ¬ (event = .transportTerminal ∧ life.failureReason.isSome) then
    .error "transport journal advanced without a WebSocket connection"
  else if life.clientStopObserved = true ∧ event ≠ .transportTerminal then
    .error "transport journal continued after client stop"
  else if life.failureReason.isSome ∧ event ≠ .transportTerminal then
    .error "transport journal continued after producer failure"
  else life.observe index event payload

end Lifecycle

/-! ## The scan -/

/-- The variables of `scan_transport_journal_internal`. -/
structure TransportScan where
  expectedIndex : Nat := 0
  previous : String := zeroDigest
  expectedStream : Option String := none
  expectedEpoch : Option String := none
  firstEvent : Option String := none
  lastEvent : Option String := none
  lastPayload : Option Value := none
  life : Lifecycle := {}
  deriving DecidableEq

/-- The identity a scan may be bound to: stream, connection epoch and URI. -/
structure ExpectedIdentity where
  stream : String
  epoch : String
  uri : String

namespace TransportScan

/-- The checks of a record on its own and of its place in the chain. -/
def chained (scan : TransportScan) (envelope : TransportJournalEnvelopeV1) (digest : String) :
    Prop :=
  envelope.body.schema = "TransportJournalRecordV1" ∧
    envelope.body.recordIndex = scan.expectedIndex ∧ envelope.body.wallNs ≠ 0 ∧
    (envelope.body.stream = "depth" ∨ envelope.body.stream = "trade") ∧
    isBlank envelope.body.connectionEpoch = false ∧ isBlank envelope.body.event = false ∧
    validTransportPayload envelope.body.event envelope.body.payload = true ∧
    envelope.body.previousRecordSha256 = scan.previous ∧ envelope.recordSha256 = digest ∧
    isLowerHex64 envelope.recordSha256 = true

instance (scan : TransportScan) (envelope : TransportJournalEnvelopeV1) (digest : String) :
    Decidable (scan.chained envelope digest) := by
  unfold chained
  infer_instance

/-- What the scan remembers after a record. -/
def next (scan : TransportScan) (body : TransportJournalBodyV1) (digest : String)
    (life : Lifecycle) (expectedIndex : Nat) : TransportScan where
  expectedIndex := expectedIndex
  previous := digest
  expectedStream := scan.expectedStream.or (some body.stream)
  expectedEpoch := scan.expectedEpoch.or (some body.connectionEpoch)
  firstEvent := scan.firstEvent.or (some body.event)
  lastEvent := some body.event
  lastPayload := some body.payload
  life := life

def record (codec : TransportCodec) (identity : Option ExpectedIdentity) (scan : TransportScan)
    (envelope : TransportJournalEnvelopeV1) : Except String TransportScan :=
  let body := envelope.body
  match codec.bodyToVec body with
  | .error error => .error s!"serialize scanned transport journal body: {error}"
  | .ok bodyBytes =>
    let digest := codec.sha256Bytes bodyBytes
    match TransportEvent.ofName body.event with
    -- an unknown event has no valid payload
    | none => .error "transport journal identity/hash chain is invalid"
    | some event =>
      if ¬ scan.chained envelope digest then
        .error "transport journal identity/hash chain is invalid"
      else if scan.expectedStream.any (· != body.stream) = true ∨
          scan.expectedEpoch.any (· != body.connectionEpoch) = true then
        .error "transport journal changed stream or connection epoch"
      else if scan.expectedIndex = 0 ∧
          identity.any (fun i => body.payload.strField "uri" != some i.uri) = true then
        .error "transport journal connect URI differs from its stream binding"
      else
        match scan.life.step scan.expectedIndex event body.payload with
        | .error error => .error error
        | .ok life =>
          match checkedAdd scan.expectedIndex 1 with
          | none => .error "transport journal index overflow"
          | some expectedIndex => .ok (scan.next body digest life expectedIndex)

def line (codec : TransportCodec) (identity : Option ExpectedIdentity) (scan : TransportScan)
    (line : Bytes) : Except String TransportScan :=
  if maxTransportRecordBytes < line.length + 1 then
    .error "transport journal contains an oversized or partial record"
  else
    match codec.fromSlice line with
    | .error error => .error s!"invalid transport journal JSON: {error}"
    | .ok envelope => scan.record codec identity envelope

def loop (codec : TransportCodec) (identity : Option ExpectedIdentity) (file : Bytes) :
    Except String TransportScan := do
  let (lines, torn) := splitLines file
  let scan ← lines.foldlM (TransportScan.line codec identity) {}
  if torn ≠ [] then .error "transport journal contains an oversized or partial record"
  else .ok scan

/-- The checks behind the loop. -/
def finish (identity : Option ExpectedIdentity) (expectedTerminalReceived : Option UInt64)
    (scan : TransportScan) : Except String Unit :=
  if scan.expectedIndex = 0 then .error "transport journal is empty"
  else if identity.any (fun i => scan.expectedStream != some i.stream ||
      scan.expectedEpoch != some i.epoch) = true then
    .error "transport journal differs from its bound stream/epoch"
  else if scan.firstEvent ≠ some "CONNECT_ATTEMPT" ∨
      scan.lastEvent ≠ some "TRANSPORT_TERMINAL" ∨ scan.life.terminalSeen = false then
    .error "transport journal lifecycle boundary is invalid"
  else
    match expectedTerminalReceived with
    | none => .ok ()
    | some expectedReceived =>
      let payload := scan.lastPayload.getD .null
      if payload.isObject = false then .error "transport terminal payload is not an object"
      else if scan.lastEvent ≠ some "TRANSPORT_TERMINAL" ∨
          payload.exactKeys ["error", "received", "status"] = false ∨
          payload.get "error" ≠ some .null ∨
          payload.u64Field "received" ≠ some expectedReceived ∨
          payload.strField "status" ≠ some "STOPPED" then
        .error "sealed transport journal terminal status/count is invalid"
      else .ok ()

end TransportScan

def sealOf (codec : TransportCodec) (fileName : String) (file : Bytes) (records : Nat)
    (terminal : String) : TransportJournalSealV1 where
  schema := "TransportJournalSealV1"
  file := fileName
  records := records
  terminalRecordSha256 := terminal
  fileBytes := file.length
  fileSha256 := codec.sha256Bytes file

def scanTransportJournalInternal (codec : TransportCodec) (path : String) (file : Bytes)
    (identity : Option ExpectedIdentity) (expectedTerminalReceived : Option UInt64) :
    Except String TransportJournalSealV1 := do
  if file.length = 0 ∨ maxJournalBytes < file.length then
    .error "transport journal is empty or exceeds its total size bound"
  else
    let scan ← TransportScan.loop codec identity file
    scan.finish identity expectedTerminalReceived
    match fileName path with
    | none => .error "transport journal path lacks a UTF-8 file name"
    | some fileName => .ok (sealOf codec fileName file scan.expectedIndex scan.previous)

def scanTransportJournal (codec : TransportCodec) (path : String) (file : Bytes) :
    Except String TransportJournalSealV1 :=
  scanTransportJournalInternal codec path file none none

/-- `TransportJournalWriter::seal`; `io` is how the flush, the sync and the reads of the file
    end. -/
def TransportJournalWriter.sealJournal (codec : TransportCodec) (journal : TransportJournalWriter)
    (io : Except String Unit) : Except String TransportJournalSealV1 := do
  if journal.nextIndex = 0 then .error "cannot seal an empty transport journal"
  else
    io
    let sealed :=
      sealOf codec journal.fileName journal.file journal.nextIndex journal.previousRecordSha256
    let scanned ← scanTransportJournal codec journal.path journal.file
    if scanned ≠ sealed then .error "transport journal seal differs from independent rescan"
    else .ok sealed

end LobReplay.Segmented
