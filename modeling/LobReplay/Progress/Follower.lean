/-
  The BNACK journal, whose lines acknowledge durable ranges of a raw segment, and its two readers:
  `SegmentDurabilityFollower` (durability_follower.rs), which polls a growing journal and checks
  every line against the raw bytes, and the one-shot `scan_durability_progress`
  (durability_progress.rs).

  serde_json and SHA-256 are parameters (`ProgressCodec`, `RawCodec`). The files are not replaced
  while they are followed; a poll sees a journal of some length and reads what it has not read yet
  in pieces of the operating system's choice (`ReadCalls`).
-/

import LobReplay.Foundation.Lines
import LobReplay.Known
import LobReplay.Raw.Range

namespace LobReplay.Progress

open Foundation
open Raw (DurabilityAckV1 StreamDurabilityWatermarkV1 RawSegmentGenesisV1 RawCodec
  RawRecordEnvelopeV1 readRawRecordRange)

/-! ## Records -/

structure ProgressBodyV1 where
  schema : String
  recordIndex : Nat
  rawPath : String
  ack : DurabilityAckV1
  previousRecordSha256 : String
  deriving DecidableEq

structure ProgressEnvelopeV1 where
  body : ProgressBodyV1
  recordSha256 : String
  deriving DecidableEq

/-- The serializer, the parser and the digest of the lines. -/
structure ProgressCodec where
  /-- `serde_json::to_vec(&envelope.body)`. -/
  toVec : ProgressBodyV1 → Except String Bytes
  /-- `serde_json::from_slice::<ProgressEnvelopeV1>(line)`. -/
  fromSlice : Bytes → Except String ProgressEnvelopeV1
  /-- `Sha256::digest`. -/
  digest : Bytes → FixedBytes 32

def maxProgressRecordBytes : Nat := 1024 * 1024

def readChunkBytes : Nat := 64 * 1024

/-- `pending.iter().position(|byte| *byte == b'\n')`. -/
def newlinePosition (bytes : Bytes) : Option Nat := bytes.findIdx? fun byte => byte == newline

/-- `ack.streams[0]`: an index out of bounds aborts. -/
def firstStream (ack : DurabilityAckV1) : Result StreamDurabilityWatermarkV1 :=
  match ack.streams with
  | watermark :: _ => .ok watermark
  | [] => .error .abort

/-! ## The follower -/

structure DurabilityFollowerCursorV1 where
  journalOffset : Nat
  nextRecordIndex : Nat
  previousProgressRecordSha256 : String
  latestAck : Option DurabilityAckV1
  rawRecordCount : Nat
  rawOffset : Nat
  rawPreviousRecordSha256 : String
  rawNextFrameIndex : UInt64
  deriving DecidableEq

structure VerifiedDurabilityProgressV1 where
  recordIndex : Nat
  journalStartOffset : Nat
  journalEndOffset : Nat
  progressRecordSha256 : String
  acknowledgedRecords : Nat
  ack : DurabilityAckV1
  deriving DecidableEq

structure DurabilityFollowerPollV1 where
  records : List VerifiedDurabilityProgressV1
  pendingTailBytes : Nat
  journalReadOffset : Nat
  cursor : DurabilityFollowerCursorV1
  deriving DecidableEq

/-- `SegmentDurabilityFollower`, without the paths and handles of its two files. -/
structure SegmentDurabilityFollower where
  expectedRawPath : String
  genesis : RawSegmentGenesisV1
  readOffset : Nat
  pending : Bytes
  cursor : DurabilityFollowerCursorV1
  poisoned : Bool
  deriving DecidableEq

def validateDigest (value field : String) : Result Unit :=
  if (asBytes value).length ≠ 64 ∨
      ¬ (asBytes value).all fun b => (48 ≤ b && b ≤ 57) || (97 ≤ b && b ≤ 102) then
    err s!"{field} must be a lowercase SHA-256 digest"
  else .ok ()

def validateGenesis (genesis : RawSegmentGenesisV1) : Result Unit :=
  if genesis.schema ≠ "RawSegmentGenesisV1" ∨ isBlank genesis.connectionEpoch ∨
      isBlank genesis.stream then
    err "invalid durability follower segment genesis"
  else do
    validateDigest genesis.previousSegmentTerminalSha256 "previous_segment_terminal_sha256"
    let root := genesis.segmentIndex = 0 ∧ genesis.nextFrameIndex = 0 ∧
      genesis.previousSegmentTerminalSha256 = zeroDigest
    let successor := 0 < genesis.segmentIndex ∧ 0 < genesis.nextFrameIndex ∧
      genesis.previousSegmentTerminalSha256 ≠ zeroDigest
    if ¬ root ∧ ¬ successor then err "durability follower genesis is neither root nor successor"
    else .ok ()

/-- `validate_ack` of the follower. -/
def validateAck (ack : DurabilityAckV1) (genesis : RawSegmentGenesisV1) : Result Unit :=
  if ack.schema ≠ "DurabilityAckV1" ∨ ack.durableRecordCount = 0 ∨
      ack.durableThroughOffset ≤ Raw.magic.length ∨ ack.streams.length ≠ 1 then
    err "invalid durability follower ACK"
  else do
    validateDigest ack.lastRecordSha256 "last_record_sha256"
    let watermark ← firstStream ack
    if watermark.connectionEpoch ≠ genesis.connectionEpoch ∨ watermark.stream ≠ genesis.stream then
      err "durability follower ACK identity drift"
    else
      let expectedFrame ← okOr (checkedAdd genesis.nextFrameIndex.toNat (ack.durableRecordCount - 1))
        "durability follower ACK frame range overflow"
      if watermark.durableThroughFrameIndex.toNat ≠ expectedFrame then
        err "durability follower ACK count/frame mismatch"
      else .ok ()

def checkAdvances (latestAck : Option DurabilityAckV1) (ack : DurabilityAckV1) : Result Unit :=
  match latestAck with
  | none => .ok ()
  | some previous => do
    let watermark ← firstStream ack
    let old ← firstStream previous
    if ack.durableRecordCount ≤ previous.durableRecordCount ∨
        ack.durableThroughOffset ≤ previous.durableThroughOffset ∨
        watermark.durableThroughFrameIndex ≤ old.durableThroughFrameIndex then
      err "durability progress ACK regressed or did not advance"
    else .ok ()

/-- The checks of `verify_ack_against_raw`, up to the cursor: the acknowledged records. -/
def checkAckAgainstRaw (rawCodec : RawCodec) (raw : File) (genesis : RawSegmentGenesisV1)
    (cursor : DurabilityFollowerCursorV1) (ack : DurabilityAckV1) : Result Nat := do
  validateAck ack genesis
  checkAdvances cursor.latestAck ack
  if ack.durableRecordCount ≤ cursor.rawRecordCount ∨
      ack.durableThroughOffset ≤ cursor.rawOffset then
    err "durability progress ACK does not advance raw cursor"
  else if raw.len < ack.durableThroughOffset then
    err "raw segment is shorter than durability ACK"
  else do
    let records ← readRawRecordRange rawCodec raw cursor.rawOffset ack.durableThroughOffset
      cursor.rawPreviousRecordSha256 genesis.connectionEpoch genesis.stream
      cursor.rawNextFrameIndex
    -- the count is greater than the cursor's, so `checked_sub` is defined
    let acknowledgedRecords := ack.durableRecordCount - cursor.rawRecordCount
    let last ← okOr records.getLast? "durability ACK produced no raw records"
    let watermark ← firstStream ack
    if records.length ≠ acknowledgedRecords ∨
        (records.any fun record => record.frame.connectionEpoch != genesis.connectionEpoch ||
          record.frame.stream != genesis.stream) ∨
        last.endOffset ≠ ack.durableThroughOffset ∨ last.recordSha256 ≠ ack.lastRecordSha256 ∨
        last.frame.frameIndex ≠ watermark.durableThroughFrameIndex then
      err "durability ACK does not match exact raw segment range"
    else .ok acknowledgedRecords

/-- `verify_ack_against_raw`: the last step fails with the cursor already moved. -/
def verifyAckAgainstRaw (rawCodec : RawCodec) (raw : File) (genesis : RawSegmentGenesisV1)
    (cursor : DurabilityFollowerCursorV1) (ack : DurabilityAckV1) :
    Result Nat × DurabilityFollowerCursorV1 :=
  match checkAckAgainstRaw rawCodec raw genesis cursor ack with
  | .error e => (.error e, cursor)
  | .ok acknowledgedRecords =>
    let cursor := { cursor with
      rawRecordCount := ack.durableRecordCount
      rawOffset := ack.durableThroughOffset
      rawPreviousRecordSha256 := ack.lastRecordSha256 }
    match firstStream ack with
    | .error e => (.error e, cursor)
    | .ok watermark =>
      match checkedAdd watermark.durableThroughFrameIndex.toNat 1 with
      | none => (err "durability raw frame cursor overflow", cursor)
      | some next => (.ok acknowledgedRecords, { cursor with rawNextFrameIndex := UInt64.ofNat next })

/-- `check_file_identity_and_length`, for files that were not replaced. -/
def checkFileLength (journalLength : Nat) (raw : File) (readOffset : Nat)
    (cursor : DurabilityFollowerCursorV1) : Result Unit :=
  if journalLength < readOffset ∨ journalLength < cursor.journalOffset then
    err "durability progress file was truncated"
  else if raw.len < cursor.rawOffset then
    err "raw segment file was truncated below verified cursor"
  else .ok ()

/-- The checks a line passes before its ACK is verified: the envelope and its digest. -/
def checkLine (codec : ProgressCodec) (expectedRawPath : String)
    (cursor : DurabilityFollowerCursorV1) (line : Bytes) : Result (ProgressEnvelopeV1 × String) :=
  if line.length = 0 ∨ maxProgressRecordBytes < line.length then
    err "invalid durability progress record length"
  else
    match codec.fromSlice line with
    | .error e => err s!"invalid durability progress JSON: {e}"
    | .ok envelope =>
      match codec.toVec envelope.body with
      | .error e => err s!"reserialize durability progress: {e}"
      | .ok bodyBytes =>
        let digest := hex (codec.digest bodyBytes).bytes
        if envelope.body.schema ≠ "RawDurabilityProgressV1" ∨
            envelope.body.recordIndex ≠ cursor.nextRecordIndex ∨
            envelope.body.previousRecordSha256 ≠ cursor.previousProgressRecordSha256 ∨
            envelope.recordSha256 ≠ digest then
          err "durability progress fork or invalid hash chain"
        else if envelope.body.rawPath ≠ expectedRawPath then
          err "durability progress raw_path drift"
        else .ok (envelope, digest)

/-- The end of a round of `consume_complete_records`: the record, and the cursor behind it.
    The last step fails with the cursor already moved. -/
def commitRecord (cursor : DurabilityFollowerCursorV1) (lineLength : Nat)
    (envelope : ProgressEnvelopeV1) (digest : String) (acknowledgedRecords : Nat) :
    Result VerifiedDurabilityProgressV1 × DurabilityFollowerCursorV1 :=
  let startOffset := cursor.journalOffset
  match checkedAdd lineLength 1 with
  | none => (err "durability progress line length overflow", cursor)
  | some encodedLength =>
    match checkedAdd startOffset encodedLength with
    | none => (err "durability progress cursor overflow", cursor)
    | some endOffset =>
      let cursor := { cursor with journalOffset := endOffset }
      match checkedAdd cursor.nextRecordIndex 1 with
      | none => (err "durability progress record index overflow", cursor)
      | some next =>
        (.ok ⟨envelope.body.recordIndex, startOffset, endOffset, digest, acknowledgedRecords,
          envelope.body.ack⟩,
          { cursor with
            nextRecordIndex := next
            previousProgressRecordSha256 := digest
            latestAck := some envelope.body.ack })

/-- One complete line; `check` is the look at the lengths of the files in between. -/
def consumeLine (codec : ProgressCodec) (rawCodec : RawCodec) (raw : File) (expectedRawPath : String)
    (genesis : RawSegmentGenesisV1) (check : DurabilityFollowerCursorV1 → Result Unit)
    (cursor : DurabilityFollowerCursorV1) (line : Bytes) :
    Result VerifiedDurabilityProgressV1 × DurabilityFollowerCursorV1 :=
  match checkLine codec expectedRawPath cursor line with
  | .error e => (.error e, cursor)
  | .ok (envelope, digest) =>
    match check cursor with
    | .error e => (.error e, cursor)
    | .ok () =>
      match verifyAckAgainstRaw rawCodec raw genesis cursor envelope.body.ack with
      | (.error e, cursor) => (.error e, cursor)
      | (.ok acknowledgedRecords, cursor) =>
        commitRecord cursor line.length envelope digest acknowledgedRecords

namespace SegmentDurabilityFollower

/-- `open_with_raw_identity` on the raw segment. -/
def openWithRawIdentity (raw : File) (genesis : RawSegmentGenesisV1) (expectedRawPath : String) :
    Result SegmentDurabilityFollower := do
  validateGenesis genesis
  if raw.bytes.take Raw.magic.length ≠ Raw.magic then err "bad raw segment magic"
  else .ok {
    expectedRawPath
    genesis
    readOffset := 0
    pending := []
    cursor := {
      journalOffset := 0
      nextRecordIndex := 0
      previousProgressRecordSha256 := zeroDigest
      latestAck := none
      rawRecordCount := 0
      rawOffset := Raw.magic.length
      rawPreviousRecordSha256 := genesis.previousSegmentTerminalSha256
      rawNextFrameIndex := genesis.nextFrameIndex }
    poisoned := false }

variable (codec : ProgressCodec) (rawCodec : RawCodec) (raw : File) (journalLength : Nat)

/-- The loop of `consume_complete_records`, on a budget: every round drains a byte. -/
def consumeLoop : Nat → SegmentDurabilityFollower → List VerifiedDurabilityProgressV1 →
    Result (List VerifiedDurabilityProgressV1) × SegmentDurabilityFollower
  | 0, s, verified => (.ok verified, s)
  | budget + 1, s, verified =>
    match newlinePosition s.pending with
    | none => (.ok verified, s)
    | some lineLength =>
      match consumeLine codec rawCodec raw s.expectedRawPath s.genesis
          (checkFileLength journalLength raw s.readOffset) s.cursor (s.pending.take lineLength) with
      | (.error e, cursor) => (.error e, { s with cursor })
      | (.ok record, cursor) =>
        consumeLoop budget { s with cursor, pending := s.pending.drop (lineLength + 1) }
          (verified ++ [record])

def consumeCompleteRecords (s : SegmentDurabilityFollower)
    (verified : List VerifiedDurabilityProgressV1) :
    Result (List VerifiedDurabilityProgressV1) × SegmentDurabilityFollower :=
  s.consumeLoop codec rawCodec raw journalLength s.pending.length verified

/-- The loop of `poll_inner` over the pieces that are read. -/
def pollLoop : List Bytes → SegmentDurabilityFollower → List VerifiedDurabilityProgressV1 →
    Result (List VerifiedDurabilityProgressV1) × SegmentDurabilityFollower
  | [], s, verified => (.ok verified, s)
  | piece :: pieces, s, verified =>
    match checkedAdd s.readOffset piece.length with
    | none => (err "durability progress read offset overflow", s)
    | some readOffset =>
      let s := { s with readOffset, pending := s.pending ++ piece }
      match s.consumeCompleteRecords codec rawCodec raw journalLength verified with
      | (.error e, s) => (.error e, s)
      | (.ok verified, s) =>
        if maxProgressRecordBytes < s.pending.length then
          (err "durability progress record exceeds maximum size", s)
        else pollLoop pieces s verified

end SegmentDurabilityFollower

/-- How the operating system serves the reads of a poll: the bytes up to the end, in nonempty
    pieces of at most `READ_CHUNK_BYTES`. -/
structure ReadCalls where
  pieces : Bytes → List Bytes
  flatten_eq : ∀ bytes, (pieces bytes).flatten = bytes
  piece_le : ∀ bytes, ∀ piece ∈ pieces bytes, 0 < piece.length ∧ piece.length ≤ readChunkBytes

/-- A poll: the journal as it is visible then, and how it is read. -/
structure Poll where
  journal : File
  reads : ReadCalls

namespace SegmentDurabilityFollower

variable (codec : ProgressCodec) (rawCodec : RawCodec) (raw : File)

def pollInner (s : SegmentDurabilityFollower) (poll : Poll) :
    Result DurabilityFollowerPollV1 × SegmentDurabilityFollower :=
  match checkFileLength poll.journal.len raw s.readOffset s.cursor with
  | .error e => (.error e, s)
  | .ok () =>
    match pollLoop codec rawCodec raw poll.journal.len
        (poll.reads.pieces (poll.journal.bytes.drop s.readOffset)) s [] with
    | (.error e, s) => (.error e, s)
    | (.ok verified, s) => (.ok ⟨verified, s.pending.length, s.readOffset, s.cursor⟩, s)

def poll (s : SegmentDurabilityFollower) (p : Poll) :
    Result DurabilityFollowerPollV1 × SegmentDurabilityFollower :=
  if s.poisoned then (err "durability follower is poisoned", s)
  else
    match s.pollInner codec rawCodec raw p with
    | (.error e, s) => (.error e, { s with poisoned := true })
    | (.ok result, s) => (.ok result, s)

end SegmentDurabilityFollower

/-! ## The one-shot scan -/

/-- `validate_ack` of the scan. -/
def scanValidateAck (ack : DurabilityAckV1) : Result Unit :=
  if ack.schema ≠ "DurabilityAckV1" ∨ ack.durableRecordCount = 0 ∨ ack.durableThroughOffset = 0 ∨
      (asBytes ack.lastRecordSha256).length ≠ 64 ∨
      ¬ (asBytes ack.lastRecordSha256).all isAsciiHexdigit ∨ ack.streams.length ≠ 1 then
    err "invalid durability ACK"
  else .ok ()

/-- What the scan has found so far. -/
structure ScanState where
  records : Nat
  previous : String
  latestAck : Option DurabilityAckV1
  acknowledgements : List DurabilityAckV1
  deriving DecidableEq

structure DurabilityProgressScanV1 where
  path : String
  records : Nat
  cleanEof : Bool
  reason : Option String
  latestAck : Option DurabilityAckV1
  lastRecordSha256 : String
  acknowledgements : List DurabilityAckV1
  deriving DecidableEq

def isStale (latestAck : Option DurabilityAckV1) (ack : DurabilityAckV1) : Bool :=
  latestAck.any fun old => ack.durableRecordCount ≤ old.durableRecordCount ||
    ack.durableThroughOffset ≤ old.durableThroughOffset

/-- The loop of `scan_durability_progress` over the bytes left, on a budget: every round takes
    a byte. The count of the records is a natural, a file has no room for 2^64 of them. -/
def scanLoop (codec : ProgressCodec) : Nat → Bytes → ScanState → Result (Option String × ScanState)
  | 0, _, found => .ok (none, found)
  | budget + 1, rest, found =>
    if rest = [] then .ok (none, found)
    else
      match newlinePosition rest with
      | none => .ok (some "partial durability progress tail", found)
      | some relativeEnd =>
        match codec.fromSlice (rest.take relativeEnd) with
        | .error e => .ok (some s!"invalid durability progress JSON: {e}", found)
        | .ok envelope =>
          match codec.toVec envelope.body with
          | .error e => err s!"reserialize durability progress: {e}"
          | .ok bodyBytes =>
            let digest := hex (codec.digest bodyBytes).bytes
            if envelope.body.schema ≠ "RawDurabilityProgressV1" ∨
                envelope.body.recordIndex ≠ found.records ∨
                envelope.body.previousRecordSha256 ≠ found.previous ∨
                envelope.recordSha256 ≠ digest ∨
                (scanValidateAck envelope.body.ack).isOk = false then
              .ok (some "invalid durability progress chain/record", found)
            else if isStale found.latestAck envelope.body.ack then
              .ok (some "non-monotonic durability progress", found)
            else
              scanLoop codec budget (rest.drop (relativeEnd + 1))
                ⟨found.records + 1, digest, some envelope.body.ack,
                  found.acknowledgements ++ [envelope.body.ack]⟩

def scanDurabilityProgress (codec : ProgressCodec) (path : String) (journal : File) :
    Result DurabilityProgressScanV1 := do
  let (reason, found) ← scanLoop codec journal.len journal.bytes ⟨0, zeroDigest, none, []⟩
  return ⟨path, found.records, reason.isNone, reason, found.latestAck, found.previous,
    found.acknowledgements⟩

end LobReplay.Progress
