/-
  `DurabilityProgressWriter` of durability_progress.rs: it appends one line for each
  acknowledgement, in a chain of digests.
-/

import LobReplay.Progress.Follower
import LobReplay.Segment.Seal

namespace LobReplay.Progress

open Foundation
open Raw (DurabilityAckV1 Sink)

/-- The serializer of whole lines, beside what the readers use. -/
structure ProgressWriteCodec extends ProgressCodec where
  /-- `serde_json::to_vec(&envelope)`. -/
  envelopeToVec : ProgressEnvelopeV1 → Except String Bytes

structure DurabilityProgressWriter where
  sink : Sink
  rawPath : String
  recordCount : Nat
  previousDigest : String
  latestAck : Option DurabilityAckV1
  poisoned : Bool

def validatePortableRawReference (rawReference : String) : Result Unit :=
  let chars := rawReference.toList
  if chars = [] ∨ chars.head?.any (isBlank ·.toString) ∨ chars.getLast?.any (isBlank ·.toString) ∨
      (chars.any fun c => c == '\\' || c == ':' || c.toNat == 0) ∨ chars.head? = some '/' then
    err "raw reference must be a portable safe relative path"
  else if (Raw.components rawReference).any fun component =>
      match component with
      | .normal _ => false
      | _ => true then
    err "raw reference must contain only normal path components"
  else if Raw.components rawReference = [] then err "raw reference must contain a file path"
  else .ok ()

namespace DurabilityProgressWriter

/-- `create_with_reference`, on a file just created. The comparison of the two paths of the raw
    file is left out. -/
def createWithReference (sink : Sink) (rawReference : String) : Result DurabilityProgressWriter :=
  match validatePortableRawReference rawReference with
  | .error e => .error e
  | .ok () =>
    .ok { sink, rawPath := rawReference, recordCount := 0, previousDigest := zeroDigest
          latestAck := none, poisoned := false }

/-- The body of the next line. -/
def body (writer : DurabilityProgressWriter) (ack : DurabilityAckV1) : ProgressBodyV1 where
  schema := "RawDurabilityProgressV1"
  recordIndex := writer.recordCount
  rawPath := writer.rawPath
  ack := ack
  previousRecordSha256 := writer.previousDigest

/-- The ACK does not go beyond the latest one. -/
def regresses (writer : DurabilityProgressWriter) (ack : DurabilityAckV1) : Bool :=
  writer.latestAck.any fun previous =>
    decide (ack.durableRecordCount ≤ previous.durableRecordCount ∨
      ack.durableThroughOffset ≤ previous.durableThroughOffset)

/-- The bytes of the next line, and its digest. -/
def encode (codec : ProgressWriteCodec) (writer : DurabilityProgressWriter)
    (ack : DurabilityAckV1) : Result (Bytes × String) :=
  match codec.toVec (writer.body ack) with
  | .error e => err s!"serialize durability progress: {e}"
  | .ok bodyBytes =>
    let digest := hex (codec.digest bodyBytes).bytes
    match codec.envelopeToVec { body := writer.body ack, recordSha256 := digest } with
    | .error e => err s!"serialize progress envelope: {e}"
    | .ok encoded => .ok (encoded ++ [newline], digest)

def append (codec : ProgressWriteCodec) (writer : DurabilityProgressWriter)
    (ack : DurabilityAckV1) : Result Unit × DurabilityProgressWriter :=
  if writer.poisoned then (err "durability progress writer is poisoned", writer)
  else
    match scanValidateAck ack with
    | .error e => (.error e, writer)
    | .ok () =>
      if writer.regresses ack then
        (err "durability progress must advance record count and offset", writer)
      else
        match writer.encode codec ack with
        | .error e => (.error e, writer)
        | .ok (encoded, digest) =>
          match writer.sink.writeSynced encoded with
          | (.error e, sink) =>
            (err s!"sync durability progress; writer poisoned: {e}",
              { writer with sink, poisoned := true })
          | (.ok (), sink) =>
            match increment writer.recordCount with
            | .error e => (.error e, { writer with sink })
            | .ok recordCount =>
              (.ok (), { writer with sink, recordCount, previousDigest := digest
                                     latestAck := some ack })

end DurabilityProgressWriter

end LobReplay.Progress
