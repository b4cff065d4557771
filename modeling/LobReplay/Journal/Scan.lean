/-
  The journal scans of live_arbitration.rs: the walk over one segment file
  (`walk_audit_file_with_context`), `finish_audit`, the closed, incremental and recovery scans of a
  resume-chained set, and the tail audit. The recovery path of bin/live_arbitration.rs is modelled
  up to the scan it rests on.

  Every file named is readable: the errors of `open` and of a failing read are left out.
-/

import LobReplay.Journal.Audit

namespace LobReplay

open Foundation

structure SegmentFile where
  path : String
  bytes : Bytes
  deriving DecidableEq

structure LiveArbitrationScanV1 where
  records : Nat
  observations : Nat
  trades : Nat
  depthFrames : Nat
  gaps : Nat
  lateCorrections : Nat
  rebootstrap : Nat
  statusRecords : Nat
  lastRecordSha256 : String
  lastTradeId : Option UInt64
  lastDepthSequence : Option UInt64
  publishedTrades : Nat
  tradeFloor : Option UInt64
  symbol : Option String
  segments : Nat
  terminalSeen : Bool
  deriving DecidableEq

/-! ## One segment file -/

namespace JournalAuditState

/-- The complete lines of a file, from record `fileIndex` on. Empty lines are skipped
    and do not count. -/
def auditLines (codec : JournalCodec) (state : JournalAuditState) (fileIndex : Nat) :
    List Bytes → Result (JournalAuditState × Nat)
  | [] => .ok (state, fileIndex)
  | line :: rest =>
    if line = [] then auditLines codec state fileIndex rest
    else if maxRecordBytes < line.length then
      err "arbitration journal record exceeds its bound"
    else
      match codec.fromSlice line with
      | .error e => err s!"invalid arbitration journal JSON: {e}"
      | .ok envelope => do
        let state ← state.applyAuditRecord codec envelope fileIndex (fileIndex == 0)
        auditLines codec state (fileIndex + 1) rest

/-- The state a segment file is read from: its record chain is rooted at the zero digest,
    and the previous segment's last digest is kept for the resume link. -/
def openSegment (state : JournalAuditState) (preserveContext : Bool) : JournalAuditState :=
  { state with
    lastSegmentSha :=
      if 0 < state.segments ∧ preserveContext = false then some state.previous
      else state.lastSegmentSha
    previous := zeroDigest
    terminalSeen := false }

def closeSegment (state : JournalAuditState) (tailBytes : Nat) : JournalAuditState :=
  { state with segments := state.segments + 1, lastSegmentTail := tailBytes }

end JournalAuditState

open JournalAuditState

/-- `walk_audit_file_with_context`: the state reached, `clean_eof` and `tail_bytes`. -/
def walkAuditFileWithContext (codec : JournalCodec) (bytes : Bytes) (incremental : Bool)
    (state : JournalAuditState) (tolerateTail preserveContext : Bool) :
    Result (JournalAuditState × Bool × Nat) := do
  let lines := splitLines bytes
  let (state, fileIndex) ← (state.openSegment preserveContext).auditLines codec 0 lines.1
  if lines.2 ≠ [] ∧ ¬ (incremental ∨ tolerateTail) then
    err "arbitration journal ends with a partial tail"
  else if fileIndex = 0 then err "arbitration journal is empty"
  else .ok (state.closeSegment lines.2.length, lines.2.isEmpty, lines.2.length)

def walkAuditFile (codec : JournalCodec) (bytes : Bytes) (incremental : Bool)
    (state : JournalAuditState) (tolerateTail : Bool) :
    Result (JournalAuditState × Bool × Nat) :=
  walkAuditFileWithContext codec bytes incremental state tolerateTail false

def JournalAuditState.scan (state : JournalAuditState) : LiveArbitrationScanV1 where
  records := state.records
  observations := state.observations
  trades := state.trades
  depthFrames := state.depthFrames
  gaps := state.gaps
  lateCorrections := state.lateCorrections
  rebootstrap := state.rebootstrap
  statusRecords := state.statusRecords
  lastRecordSha256 := state.previous
  lastTradeId := state.lastTradeId
  lastDepthSequence := state.lastDepthSequence
  publishedTrades := state.published.size
  tradeFloor := state.tradeFloor
  symbol := state.symbol
  segments := state.segments
  terminalSeen := state.terminalSeen

def finishAudit (state : JournalAuditState) (incremental : Bool) :
    Result LiveArbitrationScanV1 :=
  if ¬ state.startedSeen then err "arbitration journal lacks ARBITRATION_STARTED"
  else if incremental = false ∧ ¬ state.terminalSeen then
    err "arbitration journal lacks a terminal record"
  else .ok state.scan

/-! ## Resume-chained sets -/

/-- The loop of `scan_live_arbitration_journal_set`: every segment but the last may end
    with a torn tail. -/
def walkSet (codec : JournalCodec) (state : JournalAuditState) :
    List SegmentFile → Result JournalAuditState
  | [] => .ok state
  | file :: rest => do
    let tolerateTail := !rest.isEmpty
    let (state, cleanEof, tailBytes) ← walkAuditFile codec file.bytes false state tolerateTail
    if cleanEof = false ∧ tolerateTail = false then
      err s!"arbitration journal segment {file.path} ends with a partial tail ({tailBytes} bytes)"
    else walkSet codec state rest

def scanLiveArbitrationJournalSet (codec : JournalCodec) (paths : List SegmentFile) :
    Result LiveArbitrationScanV1 :=
  if paths = [] then err "arbitration journal set is empty"
  else do
    let state ← walkSet codec {} paths
    finishAudit state false

/-- The loop of `scan_live_arbitration_journal_set_incremental`, with the clean and tail
    values of the last file walked. -/
def walkSetIncremental (codec : JournalCodec) (state : JournalAuditState) (finalTail : Bool × Nat) :
    List SegmentFile → Result (JournalAuditState × Bool × Nat)
  | [] => .ok (state, finalTail)
  | file :: rest => do
    let (state, finalTail) ← walkAuditFile codec file.bytes true state true
    walkSetIncremental codec state finalTail rest

def scanLiveArbitrationJournalSetIncremental (codec : JournalCodec) (paths : List SegmentFile) :
    Result (LiveArbitrationScanV1 × Bool × Nat) :=
  if paths = [] then err "arbitration journal set is empty"
  else do
    let (state, finalTail) ← walkSetIncremental codec {} (true, 0) paths
    let scan ← finishAudit state true
    .ok (scan, finalTail)

/-- The loop of `scan_live_arbitration_journal_set_recovery`. -/
def walkSetRecovery (codec : JournalCodec) (state : JournalAuditState) :
    List SegmentFile → Result JournalAuditState
  | [] => .ok state
  | file :: rest => do
    let tolerateTail := rest.isEmpty
    let (state, _cleanEof, _tailBytes) ←
      walkAuditFileWithContext codec file.bytes true state tolerateTail false
    walkSetRecovery codec state rest

def scanLiveArbitrationJournalSetRecovery (codec : JournalCodec) (paths : List SegmentFile) :
    Result LiveArbitrationScanV1 :=
  if paths = [] then err "arbitration journal set is empty"
  else do
    let state ← walkSetRecovery codec {} paths
    finishAudit state true

/-- The scan `recover_arbitration_state_opt` rests on, for the sorted segments of the resume
    directory: zero-byte segments are removed, and without any left there is nothing to
    recover. -/
def recoverArbitrationScan (codec : JournalCodec) (segments : List SegmentFile) :
    Result (Option LiveArbitrationScanV1) :=
  let cleaned := segments.filter fun segment => segment.bytes.length ≠ 0
  if cleaned = [] then .ok none
  else (scanLiveArbitrationJournalSetRecovery codec cleaned).map some

/-! ## The tail audit -/

def tailAuditState (previousSegmentSha256 : String) (tradeFloor : UInt64) : JournalAuditState where
  segments := 1
  startedSeen := true
  presetContext := true
  lastSegmentSha := some previousSegmentSha256
  lastTradeId := some tradeFloor
  tradeFloor := some tradeFloor

def scanLiveArbitrationJournalTail (codec : JournalCodec) (file : SegmentFile)
    (previousSegmentSha256 : String) (tradeFloor : UInt64) : Result LiveArbitrationScanV1 := do
  let (state, cleanEof, tailBytes) ← walkAuditFileWithContext codec file.bytes false
    (tailAuditState previousSegmentSha256 tradeFloor) false true
  if cleanEof = false then
    err s!"arbitration journal tail segment ends with a partial tail ({tailBytes} bytes)"
  else finishAudit state false

end LobReplay
