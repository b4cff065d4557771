/-
  The BNRAW record of lib.rs: the frame a capture hands in, the record it is serialized as, the
  frame a reader hands out, and the framing of one record (`u32` length, body, SHA-256 of the body).

  serde_json, base64 and SHA-256 are parameters (`RawCodec`). Writer and reader rely on the two
  pairs being inverse to each other, which is `RawCodec.Lawful`.
-/

import LobReplay.Foundation.Base64
import LobReplay.Foundation.File
import LobReplay.Known
import Std.Data.ExtTreeMap

namespace LobReplay.Raw

open Foundation Std

structure CapturedFrame where
  venue : String
  environment : String
  endpoint : String
  stream : String
  symbol : String
  connectionEpoch : String
  frameIndex : UInt64
  receiveWallNs : UInt64
  receiveMonoNs : UInt64
  clockQuality : String
  clockSource : String
  payload : Bytes
  specRevision : String
  deriving DecidableEq

structure RawFrame where
  venue : String
  environment : String
  endpoint : String
  symbol : String
  stream : String
  connectionEpoch : String
  frameIndex : UInt64
  receiveWallNs : UInt64
  receiveMonoNs : UInt64
  payload : Bytes
  clockQuality : String
  clockSource : String
  clockOffsetNs : Option Int
  clockUncertaintyNs : Option UInt64
  recorderState : String
  specRevision : String
  deriving DecidableEq

structure RawRecord where
  schema : String
  venue : String
  environment : String
  endpoint : String
  stream : String
  symbol : String
  connectionEpoch : String
  frameIndex : UInt64
  receiveWallNs : UInt64
  receiveMonoNs : UInt64
  clockQuality : String
  clockSource : String
  clockOffsetNs : Option Int
  clockUncertaintyNs : Option UInt64
  payloadLength : UInt64
  payloadSha256 : String
  payloadBase64 : String
  recorderState : String
  specRevision : String
  previousRecordSha256 : String
  deriving DecidableEq

/-- An `i64` as a JSON number. -/
def i64Json (n : Int) : Value :=
  if 0 ≤ n then .number (.posInt (UInt64.ofNat n.toNat)) else .number (.negInt n)

/-- The JSON of a record, in the order of its fields; an absent option is `null`. -/
def RawRecord.toJson (record : RawRecord) : Value :=
  .object [("schema", .string record.schema), ("venue", .string record.venue),
    ("environment", .string record.environment), ("endpoint", .string record.endpoint),
    ("stream", .string record.stream), ("symbol", .string record.symbol),
    ("connection_epoch", .string record.connectionEpoch),
    ("frame_index", .nat record.frameIndex), ("receive_wall_ns", .nat record.receiveWallNs),
    ("receive_mono_ns", .nat record.receiveMonoNs),
    ("clock_quality", .string record.clockQuality), ("clock_source", .string record.clockSource),
    ("clock_offset_ns", (record.clockOffsetNs.map i64Json).getD .null),
    ("clock_uncertainty_ns", (record.clockUncertaintyNs.map .nat).getD .null),
    ("payload_length", .nat record.payloadLength), ("payload_sha256", .string record.payloadSha256),
    ("payload_base64", .string record.payloadBase64),
    ("recorder_state", .string record.recorderState),
    ("spec_revision", .string record.specRevision),
    ("previous_record_sha256", .string record.previousRecordSha256)]

/-- The encoders, the parser and the digest a raw log is written and read with. -/
structure RawCodec where
  /-- `serde_json::to_vec(&record)`. -/
  toVec : RawRecord → Except String Bytes
  /-- `serde_json::from_slice::<Value>(&body)`. -/
  fromSlice : Bytes → Except String Value
  /-- `Sha256::digest`. -/
  digest : Bytes → FixedBytes 32
  /-- `BASE64.encode`. -/
  encode : Bytes → String
  /-- `BASE64.decode`. -/
  decode : String → Except String Bytes

/-- The parser undoes the serializer, field by field, and base64 decoding its encoding. -/
structure RawCodec.Lawful (codec : RawCodec) : Prop where
  fromSlice_toVec : ∀ record body, codec.toVec record = .ok body →
    ∃ value, codec.fromSlice body = .ok value ∧
      ∀ field, value.get field = record.toJson.get field
  decode_encode : ∀ payload, codec.decode (codec.encode payload) = .ok payload

/-! ## Identities -/

/-- The `(connection_epoch, stream)` a frame index counts for. -/
abbrev Identity := String × String

def CapturedFrame.identity (frame : CapturedFrame) : Identity :=
  (frame.connectionEpoch, frame.stream)

def RawFrame.identity (frame : RawFrame) : Identity := (frame.connectionEpoch, frame.stream)

def Identity.cmp : Identity → Identity → Ordering :=
  compareLex (compareOn (·.1)) (compareOn (·.2))

instance : TransCmp Identity.cmp := inferInstanceAs (TransCmp (compareLex _ _))

instance : LawfulEqCmp Identity.cmp where
  eq_of_compare {a b} h := by
    obtain ⟨h1, h2⟩ := compareLex_eq_eq.mp h
    exact Prod.ext (LawfulEqCmp.eq_of_compare h1) (LawfulEqCmp.eq_of_compare h2)

/-- `HashMap<(String, String), u64>`: the next frame index of each identity. Only its
    lookups and its sorted entries are observed. -/
abbrev Expected := ExtTreeMap Identity UInt64 Identity.cmp

/-- `expected.get(&key).copied().unwrap_or(0)`. -/
def Expected.next (expected : Expected) (key : Identity) : UInt64 := (expected[key]?).getD 0

structure StreamDurabilityWatermarkV1 where
  connectionEpoch : String
  stream : String
  durableThroughFrameIndex : UInt64
  deriving DecidableEq

/-- `durability_watermarks`: the entries with an index, in the order of their identities. -/
def durabilityWatermarks (expected : Expected) : List StreamDurabilityWatermarkV1 :=
  expected.toList.filterMap fun entry =>
    if entry.2 = 0 then none
    else some ⟨entry.1.1, entry.1.2, entry.2 - 1⟩

/-! ## Framing -/

/-- `MAGIC`: `BNRAW\0\x01\n`. -/
def magic : Bytes := [66, 78, 82, 65, 87, 0, 1, 10]

def maxRecordBytes : Nat := 4 * 1024 * 1024

def framed (body : Bytes) (digest : FixedBytes 32) : Bytes :=
  beBytes 4 body.length ++ body ++ digest.bytes

@[simp] theorem magic_length : magic.length = 8 := rfl

theorem framed_length (body : Bytes) (digest : FixedBytes 32) :
    (framed body digest).length = 4 + body.length + 32 := by
  rw [framed, List.length_append, List.length_append, beBytes_length, digest.length_eq]

/-! ## Segment genesis -/

structure RawSegmentGenesisV1 where
  schema : String
  segmentIndex : UInt64
  previousSegmentTerminalSha256 : String
  connectionEpoch : String
  stream : String
  nextFrameIndex : UInt64
  deriving DecidableEq

def validateSha256 (value field : String) : Result Unit :=
  if (asBytes value).length ≠ 64 ∨
      ¬ (asBytes value).all fun b => (48 ≤ b && b ≤ 57) || (97 ≤ b && b ≤ 102) then
    err s!"{field} must be a lowercase SHA-256 hex digest"
  else .ok ()

def validateSegmentGenesis (genesis : RawSegmentGenesisV1) : Result Unit :=
  if genesis.schema ≠ "RawSegmentGenesisV1" ∨ isBlank genesis.connectionEpoch ∨
      isBlank genesis.stream then
    err "invalid raw segment genesis"
  else do
    validateSha256 genesis.previousSegmentTerminalSha256 "previous_segment_terminal_sha256"
    let isRoot := genesis.segmentIndex = 0 ∧ genesis.previousSegmentTerminalSha256 = zeroDigest ∧
      genesis.nextFrameIndex = 0
    let isSuccessor := 0 < genesis.segmentIndex ∧
      genesis.previousSegmentTerminalSha256 ≠ zeroDigest ∧ 0 < genesis.nextFrameIndex
    if ¬ isRoot ∧ ¬ isSuccessor then err "raw segment genesis is neither a root nor a successor"
    else .ok ()

def RawSegmentGenesisV1.identity (genesis : RawSegmentGenesisV1) : Identity :=
  (genesis.connectionEpoch, genesis.stream)

/-! ## The codec on known records

serde_json and SHA-256 as they act on given records and payloads. -/

def RawRecord.text (record : RawRecord) : Bytes := record.toJson.toVec

/-- The codec that knows the given records and payloads, each with its digest as a number. -/
def knownCodec (records : List (RawRecord × Nat)) (payloads : List (Bytes × Nat)) : RawCodec where
  toVec record :=
    if record ∈ records.map (·.1) then .ok record.text else .error "unknown record"
  fromSlice body :=
    match records.find? fun known => decide (known.1.text = body) with
    | some known => .ok known.1.toJson
    | none => .error "expected value at line 1 column 1"
  digest bytes :=
    digestOfNat
      (((records.map fun known => (known.1.text, known.2)) ++ payloads).lookup bytes |>.getD 0)
  encode := Base64.encode
  decode := Base64.decode

theorem knownCodec_lawful {records : List (RawRecord × Nat)} (payloads : List (Bytes × Nat))
    (h : (records.map fun known => known.1.text).Nodup) : (knownCodec records payloads).Lawful where
  decode_encode := Base64.decode_encode
  fromSlice_toVec record body hbody := by
    obtain ⟨rfl, known, hknown, rfl⟩ :=
      @knownToVec_eq_ok _ _ RawRecord.text records record body hbody
    simp only [knownCodec]
    rw [find?_text_eq h hknown]
    exact ⟨_, rfl, fun _ => rfl⟩

end LobReplay.Raw
