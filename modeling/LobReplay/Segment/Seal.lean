/-
  Raw segments and their seals ({lib,segment_chain}.rs): the genesis of a segment from the seal
  before it, the checks of a seal, and `verify_and_seal_raw_segment`, which reads the file again and
  compares it with the terminal ACK.

  A directory is a partial map from paths to files. What `create_dir_all` and the operating system
  may refuse is left out, but for a path that exists and a path that does not.
-/

import LobReplay.Raw.Range
import Mathlib.Logic.Function.Basic

namespace LobReplay.Raw

open Foundation

/-! ## Paths -/

/-- `std::path::Component`, on Unix. -/
inductive Component where
  | rootDir
  | curDir
  | parentDir
  | normal (name : String)
  deriving DecidableEq

/-- `Path::new(path).components()`: empty pieces and inner dots are dropped. -/
def components (path : String) : List Component :=
  let pieces := path.toList.splitOn '/'
  let front :=
    if path.toList.head? = some '/' then [.rootDir]
    else if pieces.head? = some ['.'] then [.curDir]
    else []
  front ++ pieces.filterMap fun piece =>
    if piece = [] ∨ piece = ['.'] then none
    else if piece = ['.', '.'] then some .parentDir
    else some (.normal (String.ofList piece))

/-- `Path::file_name`. -/
def fileName (path : String) : Option String :=
  match (components path).getLast? with
  | some (.normal name) => some name
  | _ => none

abbrev Files := String → Option File

/-! ## Seals -/

/-- `MANIFEST_MAGIC`: `BNSEG\0\x01\n`. -/
def manifestMagic : Bytes := [66, 78, 83, 69, 71, 0, 1, 10]

structure RawSegmentSealV1 where
  schema : String
  segmentIndex : UInt64
  rawFile : String
  connectionEpoch : String
  stream : String
  firstFrameIndex : UInt64
  lastFrameIndex : UInt64
  records : Nat
  durableThroughOffset : Nat
  previousSegmentTerminalSha256 : String
  terminalRecordSha256 : String
  deriving DecidableEq

/-- `index.checked_add(1)` with its error. -/
def successorIndex (index : UInt64) (message : String) : Result UInt64 :=
  if index = maxU64 then err message else .ok (index + 1)

def validateRelativeFile (rawFile : String) : Result Unit :=
  match components rawFile with
  | [.normal _] =>
    if isBlank rawFile then err "raw segment file must be one relative file name" else .ok ()
  | _ => err "raw segment file must be one relative file name"

def validateDigest (value field : String) : Result Unit :=
  if isLowerHex64 value then .ok () else err s!"{field} must be a lowercase SHA-256 digest"

/-- The number of frames from `first` to `last`. -/
def frameRange (first last : UInt64) (message : String) : Result Nat :=
  if last < first then err message else okOr (checkedAdd (last.toNat - first.toNat) 1) message

def validateSealShape (sealed : RawSegmentSealV1) : Result Unit :=
  if sealed.schema ≠ "RawSegmentSealV1" ∨ isBlank sealed.connectionEpoch ∨ isBlank sealed.stream ∨
      sealed.records = 0 ∨ sealed.durableThroughOffset ≤ manifestMagic.length ∨
      sealed.lastFrameIndex < sealed.firstFrameIndex then
    err "invalid raw segment seal"
  else do
    validateRelativeFile sealed.rawFile
    validateDigest sealed.previousSegmentTerminalSha256 "previous_segment_terminal_sha256"
    validateDigest sealed.terminalRecordSha256 "terminal_record_sha256"
    let expectedRecords ← frameRange sealed.firstFrameIndex sealed.lastFrameIndex
      "raw segment seal frame range overflow"
    if sealed.records ≠ expectedRecords then
      err "raw segment seal count does not match frame range"
    else
      let root := sealed.segmentIndex = 0 ∧ sealed.firstFrameIndex = 0 ∧
        sealed.previousSegmentTerminalSha256 = zeroDigest
      let successor := 0 < sealed.segmentIndex ∧ 0 < sealed.firstFrameIndex ∧
        sealed.previousSegmentTerminalSha256 ≠ zeroDigest
      if ¬ root ∧ ¬ successor then err "raw segment seal is neither root nor successor"
      else .ok ()

/-! ## Genesis -/

def rootSegmentGenesis (connectionEpoch stream : String) : Result RawSegmentGenesisV1 :=
  if isBlank connectionEpoch ∨ isBlank stream then
    err "root segment identity must not be empty"
  else
    .ok { schema := "RawSegmentGenesisV1", segmentIndex := 0
          previousSegmentTerminalSha256 := zeroDigest, connectionEpoch, stream
          nextFrameIndex := 0 }

def successorSegmentGenesis (previous : RawSegmentSealV1) : Result RawSegmentGenesisV1 := do
  validateSealShape previous
  let segmentIndex ← successorIndex previous.segmentIndex "raw segment index overflow"
  let nextFrameIndex ← successorIndex previous.lastFrameIndex "raw segment frame index overflow"
  .ok { schema := "RawSegmentGenesisV1", segmentIndex
        previousSegmentTerminalSha256 := previous.terminalRecordSha256
        connectionEpoch := previous.connectionEpoch, stream := previous.stream, nextFrameIndex }

/-- `RawLogWriter::create_segment`: the path must be new. -/
def createSegment (files : Files) (path : String) (syncEvery : Nat)
    (genesis : RawSegmentGenesisV1) : Result RawLogWriter := do
  validateSegmentGenesis genesis
  match files path with
  | some _ => err s!"create raw segment {path}: File exists (os error 17)"
  | none => RawLogWriter.fromSinkSegment (Sink.fresh []) syncEvery genesis

/-! ## Sealing -/

def sealRawSegment (genesis : RawSegmentGenesisV1) (rawFile : String) (ack : DurabilityAckV1) :
    Result RawSegmentSealV1 := do
  validateSegmentGenesis genesis
  match ack.streams with
  | [watermark] =>
    if isBlank rawFile ∨ ack.schema ≠ "DurabilityAckV1" ∨ ack.durableRecordCount = 0 then
      err "invalid raw segment seal input"
    else do
      validateSha256 ack.lastRecordSha256 "last_record_sha256"
      if watermark.connectionEpoch ≠ genesis.connectionEpoch ∨ watermark.stream ≠ genesis.stream ∨
          watermark.durableThroughFrameIndex < genesis.nextFrameIndex then
        err "raw segment seal identity or frame range mismatch"
      else do
        let expectedRecords ← frameRange genesis.nextFrameIndex
          watermark.durableThroughFrameIndex "raw segment record range overflow"
        if ack.durableRecordCount ≠ expectedRecords then
          err "raw segment ACK count does not match frame range"
        else
          .ok { schema := "RawSegmentSealV1", segmentIndex := genesis.segmentIndex, rawFile
                connectionEpoch := genesis.connectionEpoch, stream := genesis.stream
                firstFrameIndex := genesis.nextFrameIndex
                lastFrameIndex := watermark.durableThroughFrameIndex
                records := ack.durableRecordCount
                durableThroughOffset := ack.durableThroughOffset
                previousSegmentTerminalSha256 := genesis.previousSegmentTerminalSha256
                terminalRecordSha256 := ack.lastRecordSha256 }
  | _ => err "invalid raw segment seal input"

/-- `scan_raw_segment` of the file at `path`. -/
def scanSegmentAt (codec : RawCodec) (files : Files) (path : String)
    (genesis : RawSegmentGenesisV1) : Result RawLogScanV1 := do
  validateSegmentGenesis genesis
  match files path with
  | none => err s!"open {path}: No such file or directory (os error 2)"
  | some file => scanRawSegment codec path file genesis

structure VerifiedRawSegmentV1 where
  rawPath : String
  genesis : RawSegmentGenesisV1
  ack : DurabilityAckV1
  sealed : RawSegmentSealV1
  deriving DecidableEq

def ackMatches (genesis : RawSegmentGenesisV1) (scan : RawLogScanV1) (ack : DurabilityAckV1)
    (watermark : StreamDurabilityWatermarkV1) : Prop :=
  scan.fileSize = ack.durableThroughOffset ∧ scan.lastGoodOffset = ack.durableThroughOffset ∧
    scan.records = ack.durableRecordCount ∧ scan.lastRecordSha256 = ack.lastRecordSha256 ∧
    scan.streams = ack.streams ∧ watermark.connectionEpoch = genesis.connectionEpoch ∧
    watermark.stream = genesis.stream

instance (genesis : RawSegmentGenesisV1) (scan : RawLogScanV1) (ack : DurabilityAckV1)
    (watermark : StreamDurabilityWatermarkV1) :
    Decidable (ackMatches genesis scan ack watermark) := by
  unfold ackMatches
  infer_instance

def verifyAndSealRawSegment (codec : RawCodec) (files : Files) (rawPath rawFile : String)
    (genesis : RawSegmentGenesisV1) (ack : DurabilityAckV1) : Result VerifiedRawSegmentV1 := do
  validateRelativeFile rawFile
  if fileName rawPath ≠ some rawFile then
    err "raw segment path does not match manifest file name"
  else do
    let scan ← scanSegmentAt codec files rawPath genesis
    let reason := scan.reason.getD "unknown error"
    if scan.cleanEof = false then err s!"raw segment has no clean EOF: {reason}"
    else
      match ack.streams with
      | [watermark] =>
        if ack.schema ≠ "DurabilityAckV1" then err "invalid raw segment terminal ACK"
        else if ¬ ackMatches genesis scan ack watermark then
          err "terminal ACK does not match the exact raw segment"
        else do
          let sealed ← sealRawSegment genesis rawFile ack
          validateSealShape sealed
          .ok { rawPath, genesis, ack, sealed }
      | _ => err "invalid raw segment terminal ACK"

end LobReplay.Raw
