/-
  The canonical live journal of live_arbitration.rs: its record, the writer and the codec both sides
  share.

  serde_json and SHA-256 are parameters (`JournalCodec`).
-/

import LobReplay.Common
import LobReplay.Foundation.File
import LobReplay.Foundation.Lines
import LobReplay.Json

namespace LobReplay

open Foundation

structure LiveArbitrationJournalBodyV1 where
  schema : String
  recordIndex : UInt64
  wallNs : UInt64
  monoNs : UInt64
  channel : String
  payload : Value
  previousRecordSha256 : String

structure LiveArbitrationJournalEnvelopeV1 where
  body : LiveArbitrationJournalBodyV1
  recordSha256 : String

def journalSchema : String := "LiveArbitrationJournalRecordV1"

def maxRecordBytes : Nat := 1024 * 1024

/-- The encoder, the parser and the digest the journal is read and written with. -/
structure JournalCodec where
  /-- `serde_json::to_vec(&body)`. -/
  bodyToVec : LiveArbitrationJournalBodyV1 → Except String Bytes
  /-- `serde_json::to_vec(&envelope)`. -/
  envelopeToVec : LiveArbitrationJournalEnvelopeV1 → Except String Bytes
  /-- `serde_json::from_slice::<LiveArbitrationJournalEnvelopeV1>(line)`. -/
  fromSlice : Bytes → Except String LiveArbitrationJournalEnvelopeV1
  /-- `Sha256::digest`. -/
  digest : Bytes → FixedBytes 32

def JournalCodec.sha256Hex (codec : JournalCodec) (bytes : Bytes) : String :=
  hex (codec.digest bytes).bytes

/-! ## The writer -/

/-- `LiveArbitrationJournalWriter`, with the bytes its file holds. -/
structure LiveArbitrationJournalWriter where
  bytes : Bytes
  nextIndex : UInt64
  previous : String

namespace LiveArbitrationJournalWriter

/-- `create`: an empty segment file whose chain is rooted at the zero digest. -/
def create : LiveArbitrationJournalWriter where
  bytes := []
  nextIndex := 0
  previous := zeroDigest

/-- `append`, with the wall clock it reads as an argument, on a file whose writes
    succeed. An error ends the arbiter's run, so it carries no writer. -/
def append (codec : JournalCodec) (writer : LiveArbitrationJournalWriter) (wallNs monoNs : UInt64)
    (channel : String) (payload : Value) : Result (String × LiveArbitrationJournalWriter) :=
  let body : LiveArbitrationJournalBodyV1 :=
    { schema := journalSchema, recordIndex := writer.nextIndex, wallNs, monoNs, channel, payload
      previousRecordSha256 := writer.previous }
  match codec.bodyToVec body with
  | .error e => err s!"serialize arbitration journal body: {e}"
  | .ok bodyBytes =>
    let digest := codec.sha256Hex bodyBytes
    match codec.envelopeToVec { body, recordSha256 := digest } with
    | .error e => err s!"serialize arbitration journal record: {e}"
    | .ok bytes =>
      let written := writer.bytes ++ (bytes ++ [newline])
      if writer.nextIndex = maxU64 then err "arbitration journal index overflow"
      else .ok (digest, { bytes := written, nextIndex := writer.nextIndex + 1, previous := digest })

/-- A segment file written by successive appends on the `LIVE` channel. -/
def appendAll (writer : LiveArbitrationJournalWriter) (codec : JournalCodec) :
    List Value → Result LiveArbitrationJournalWriter
  | [] => .ok writer
  | payload :: rest =>
    match append codec writer 1 1 "LIVE" payload with
    | .error e => .error e
    | .ok (_, writer) => appendAll writer codec rest

end LiveArbitrationJournalWriter

/-! ## The codec on known records

serde_json and SHA-256 as they act on a given list of records: the compact text of each
record, its parse, and its digest as a number. -/

/-- The JSON of a record body, in the order of its fields. -/
def LiveArbitrationJournalBodyV1.toJson (body : LiveArbitrationJournalBodyV1) : Value :=
  .object [("schema", .string body.schema), ("record_index", .number (.posInt body.recordIndex)),
    ("wall_ns", .number (.posInt body.wallNs)), ("mono_ns", .number (.posInt body.monoNs)),
    ("channel", .string body.channel), ("payload", body.payload),
    ("previous_record_sha256", .string body.previousRecordSha256)]

def LiveArbitrationJournalEnvelopeV1.toJson (envelope : LiveArbitrationJournalEnvelopeV1) : Value :=
  .object [("body", envelope.body.toJson), ("record_sha256", .string envelope.recordSha256)]

/-- The envelopes of one segment, from its payloads and their digests. -/
def knownEnvelopes (previous : String) (index : UInt64) :
    List (Value × Nat) → List LiveArbitrationJournalEnvelopeV1
  | [] => []
  | (payload, sha) :: rest =>
    let recordSha256 := hex (beBytes 32 sha)
    { body :=
        { schema := journalSchema, recordIndex := index, wallNs := 1, monoNs := 1
          channel := "LIVE", payload, previousRecordSha256 := previous }
      recordSha256 } :: knownEnvelopes recordSha256 (index + 1) rest

/-- The codec that knows the records of the given segments. -/
def knownCodec (segments : List (List (Value × Nat))) : JournalCodec :=
  let known := segments.flatMap fun segment =>
    (knownEnvelopes zeroDigest 0 segment).zip (segment.map (·.2))
  { bodyToVec := fun body => .ok body.toJson.toVec
    envelopeToVec := fun envelope => .ok envelope.toJson.toVec
    fromSlice := fun line =>
      match known.find? fun k => decide (k.1.toJson.toVec = line) with
      | some k => .ok k.1
      | none => .error "expected value at line 1 column 1"
    digest := fun bytes =>
      match known.find? fun k => decide (k.1.body.toJson.toVec = bytes) with
      | some k => digestOfNat k.2
      | none => digestOfNat 0 }

/-- The bytes the writer leaves for the given payloads. -/
def writtenSegment (codec : JournalCodec) (segment : List (Value × Nat)) : Bytes :=
  match LiveArbitrationJournalWriter.create.appendAll codec (segment.map (·.1)) with
  | .ok writer => writer.bytes
  | .error _ => []

/-- An `ARBITRATION_STARTED` payload. -/
def startedPayload (tradeFloor : UInt64) : Value :=
  .object [("event", .string "ARBITRATION_STARTED"), ("symbol", .string "BTCUSDT"),
    ("trade_floor", .nat tradeFloor)]

/-- An `ARBITRATION_RESUMED` payload. -/
def resumedPayload (previousSha : Nat) (tradeFloor : UInt64) : Value :=
  .object [("event", .string "ARBITRATION_RESUMED"), ("mode", .string "RESUMED"),
    ("previous_journal_sha256", .string (hex (beBytes 32 previousSha))),
    ("symbol", .string "BTCUSDT"), ("trade_floor", .nat tradeFloor)]

/-- An `ARBITRATION_TERMINAL` payload. -/
def terminalPayload (trades depthFrames gaps lateCorrections : UInt64) : Value :=
  .object [("depth_frames", .nat depthFrames), ("event", .string "ARBITRATION_TERMINAL"),
    ("gaps", .nat gaps), ("late_corrections", .nat lateCorrections),
    ("status", .string "COMPLETE"), ("trades", .nat trades)]

/-- A segment that starts a journal and closes it at once. -/
def emptySegment : List (Value × Nat) :=
  [(startedPayload 10, 0x37389ce8e1c229e99745f5d216820b4b8240f7b62a7865271ff7a68309721059),
   (terminalPayload 0 0 0 0, 0x9be384e5e614b48d73322f603d6d44dc1290b138a3688b08258708d79b0e5e08)]

end LobReplay
