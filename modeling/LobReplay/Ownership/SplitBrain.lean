/-
  The ledger and the pointer name the same source over whole runs, or the pointer lets nothing
  through (`NoSplit`).

  `activate_committed` stops the pointer only once the activation is synced. Where the bytes of the
  activated record reach the file and a later operation of the sink fails, the call returns with the
  pointer live on the old owner and the ledger owned by the new one (`LosesAck`); no other call
  splits the two.
-/

import LobReplay.Ownership.Fencing
import LobReplay.Ownership.Rotation

namespace LobReplay.Ownership

open Foundation
open Handover (HandoverController)
open Raw (Sink)

/-! ## Ledgers -/

section

variable {codec : LedgerCodec} {bytes body : Bytes} {state state' : LedgerScanState} {file : File}

/-- The ledger is one of accepted records, behind which the scan is in `state`. -/
def Scans (codec : LedgerCodec) (bytes : Bytes) (state : LedgerScanState) : Prop :=
  ∃ stream, bytes = ledgerMagic ++ stream ∧
    codec.framing.Scans (visitRecord codec) .start stream state

theorem Scans.append (h : Scans codec bytes state) (hle : body.length ≤ maxRecordBytes)
    (hvisit : visitRecord codec state body = (none, state')) :
    Scans codec (bytes ++ codec.framing.frame body) state' := by
  obtain ⟨stream, rfl, hscans⟩ := h
  exact ⟨stream ++ codec.framing.frame body, List.append_assoc _ _ _,
    hscans.append (decide_eq_true hle) hvisit⟩

theorem Scans.activeOwner_append {rest : Bytes} (h : Scans codec bytes state)
    (hbytes : file.bytes = bytes ++ rest) :
    (scanOwnershipLedger codec file).activeOwner
      = (codec.framing.scan (visitRecord codec) state rest).2.activeOwner := by
  obtain ⟨stream, rfl, hscans⟩ := h
  rw [List.append_assoc] at hbytes
  have hmagic : file.bytes.take ledgerMagic.length = ledgerMagic := by
    rw [hbytes]
    exact List.take_left
  have hrest : file.bytes.drop ledgerMagic.length = stream ++ rest := by
    rw [hbytes]
    exact List.drop_left
  unfold scanOwnershipLedger
  rw [if_neg (not_not.mpr hmagic), hrest, hscans.scan_append]

theorem Scans.activeOwner (h : Scans codec file.bytes state) :
    (scanOwnershipLedger codec file).activeOwner = state.activeOwner :=
  h.activeOwner_append (List.append_nil _).symm

theorem Scans.activeOwner_torn {k : Nat} (h : Scans codec bytes state)
    (hle : body.length ≤ maxRecordBytes) (hk : k < (codec.framing.frame body).length)
    (hbytes : file.bytes = bytes ++ (codec.framing.frame body).take k) :
    (scanOwnershipLedger codec file).activeOwner = state.activeOwner := by
  rw [h.activeOwner_append hbytes]
  rcases Nat.eq_zero_or_pos k with rfl | hpos
  · rfl
  · have hadmits : codec.framing.admits body.length = true := decide_eq_true hle
    obtain ⟨defect, hscan⟩ := Framing.scan_torn hadmits hpos hk state
    rw [hscan]

theorem Scans.activeOwner_frame (h : Scans codec bytes state) (hle : body.length ≤ maxRecordBytes)
    (hbytes : file.bytes = bytes ++ codec.framing.frame body) :
    (scanOwnershipLedger codec file).activeOwner = (visitRecord codec state body).2.activeOwner := by
  rw [h.activeOwner_append hbytes, ← List.append_nil (codec.framing.frame body),
    Framing.scan_append_frame (decide_eq_true hle)]
  rcases visitRecord codec state body with ⟨_ | _, _⟩
  · rfl
  · rfl

end

/-! ## The writer -/

namespace OwnershipLedgerWriter

def scanState (writer : OwnershipLedgerWriter) (lastActivation : Option OwnershipActivationV1) :
    LedgerScanState where
  records := writer.recordCount
  previous := writer.previousDigest
  lastGoodOffset := writer.endOffset
  activeOwner := some writer.activeOwner
  pending := writer.pending
  lastActivation := lastActivation

/-- The writer stands where the scan of its ledger ends. -/
structure Written (codec : LedgerCodec) (writer : OwnershipLedgerWriter) : Prop where
  open_eq : writer.poisoned = false
  scans : ∃ lastActivation, Scans codec writer.sink.file.bytes (writer.scanState lastActivation)

section

variable {codec : LedgerCodec} {writer : OwnershipLedgerWriter} {preparedDigest : String}

theorem Written.activeOwner (h : Written codec writer) :
    (scanOwnershipLedger codec writer.sink.file).activeOwner = some writer.activeOwner := by
  obtain ⟨_, hscans⟩ := h.scans
  exact hscans.activeOwner

/-- An append is refused and changes nothing, is torn, or is written. -/
theorem appendAndSync_cases (codec : LedgerCodec) (hopen : writer.poisoned = false)
    (record : OwnershipRecordV1) :
    (∃ e, writer.appendAndSync codec record = (.error e, writer)) ∨
    ∃ body, codec.toVec record = .ok body ∧ body.length ≤ maxRecordBytes ∧
      ((∃ e e' sink k, writer.sink.writeSynced (codec.framing.frame body) = (.error e, sink) ∧
        sink.file.bytes = writer.sink.file.bytes ++ (codec.framing.frame body).take k ∧
        writer.appendAndSync codec record = (.error e', { writer with sink, poisoned := true })) ∨
      ∃ sink, writer.sink.writeSynced (codec.framing.frame body) = (.ok (), sink) ∧
        sink.file.bytes = writer.sink.file.bytes ++ codec.framing.frame body ∧
        writer.appendAndSync codec record = (.ok ((writer.advance codec sink body).ack record.action),
          writer.advance codec sink body)) := by
  unfold appendAndSync
  rw [hopen]
  simp only [Bool.false_eq_true, if_false]
  rcases hvec : codec.toVec record with e | body
  · exact .inl ⟨_, rfl⟩
  · dsimp only
    by_cases hlong : maxRecordBytes < body.length
    · rw [if_pos hlong]
      exact .inl ⟨_, rfl⟩
    · rw [if_neg hlong]
      refine .inr ⟨body, rfl, Nat.le_of_not_lt hlong, ?_⟩
      rcases writer.sink.writeSynced_cases (codec.framing.frame body) with
        ⟨sink, hwrite, hbytes, -⟩ | ⟨e, sink, k, hwrite, hbytes, -⟩
      · refine .inr ⟨sink, hwrite, hbytes, ?_⟩
        rw [hwrite]
      · refine .inl ⟨e, .err s!"sync ownership record; ledger poisoned: {e}", sink, k, hwrite,
          hbytes, ?_⟩
        rw [hwrite]
        rfl

theorem appendAndSync_poisoned (codec : LedgerCodec) (h : writer.poisoned = true)
    (record : OwnershipRecordV1) :
    ∃ e, writer.appendAndSync codec record = (.error e, writer) := by
  unfold appendAndSync
  rw [if_pos h]
  exact ⟨_, rfl⟩

variable {body : Bytes} {activation : OwnershipActivationV1}

theorem visitRecord_of_apply {record : OwnershipRecordV1} {state state' : LedgerScanState}
    (hparse : codec.fromSlice body = .ok record)
    (happly : applyRecord state record (codec.digest body) = (none, state')) :
    visitRecord codec state body = (none, { state' with
      records := state'.records + 1
      lastGoodOffset := state'.lastGoodOffset + (4 + body.length + 32)
      previous := hex (codec.digest body).bytes }) := by
  rw [visitRecord, hparse]
  dsimp only
  rw [happly]

section

variable (hcodec : codec.Lawful)
include hcodec

theorem visit_prepared (hidle : writer.pending = none)
    (hvalid : validateActivationPredecessor writer.activeOwner activation = .ok ())
    (hvec : codec.toVec (writer.preparedRecord activation) = .ok body) (sink : Sink)
    (lastActivation : Option OwnershipActivationV1) :
    visitRecord codec (writer.scanState lastActivation) body
      = (none, ({ writer.advance codec sink body with
          pending := some (activation, hex (codec.digest body).bytes) }
            : OwnershipLedgerWriter).scanState lastActivation) := by
  have happly : applyRecord (writer.scanState lastActivation) (writer.preparedRecord activation)
      (codec.digest body) = (none, { writer.scanState lastActivation with
        pending := some (activation, hex (codec.digest body).bytes) }) := by
    rw [applyRecord, if_neg (by simp [preparedRecord, scanState])]
    simp [preparedRecord, scanState, hidle, hvalid]
  rw [visitRecord_of_apply (hcodec.fromSlice_toVec _ _ hvec) happly]
  simp only [scanState, advance, Framing.frame_length]

theorem visit_activated (hpending : writer.pending = some (activation, preparedDigest))
    (hvec : codec.toVec (writer.activatedRecord preparedDigest) = .ok body) (sink : Sink)
    (lastActivation : Option OwnershipActivationV1) :
    visitRecord codec (writer.scanState lastActivation) body
      = (none, ({ writer.advance codec sink body with
          pending := none, activeOwner := activation.successorSnapshot }
            : OwnershipLedgerWriter).scanState (some activation)) := by
  have happly : applyRecord (writer.scanState lastActivation) (writer.activatedRecord preparedDigest)
      (codec.digest body) = (none, { writer.scanState lastActivation with
        pending := none, activeOwner := some activation.successorSnapshot
        lastActivation := some activation }) := by
    rw [applyRecord, if_neg (by simp [activatedRecord, scanState])]
    simp [activatedRecord, scanState, hpending]
  rw [visitRecord_of_apply (hcodec.fromSlice_toVec _ _ hvec) happly]
  simp only [scanState, advance, Framing.frame_length]

/-- **Prepare.** It changes nothing, or is torn and leaves the owner, or is written and leaves the
    owner. -/
theorem prepare_cases (h : Written codec writer) (activation : OwnershipActivationV1) :
    (∃ e, writer.prepare codec activation = (.error e, writer)) ∨
    (∃ e ledger, writer.prepare codec activation = (.error e, ledger) ∧ ledger.poisoned = true ∧
      (scanOwnershipLedger codec ledger.sink.file).activeOwner = some writer.activeOwner) ∨
    ∃ ack ledger, writer.prepare codec activation = (.ok ack, ledger) ∧ Written codec ledger ∧
      ledger.pending = some (activation, ack.lastRecordSha256) ∧
      ledger.activeOwner = writer.activeOwner ∧
      validateActivationPredecessor writer.activeOwner activation = .ok () := by
  unfold prepare
  split
  case isTrue => exact .inl ⟨_, rfl⟩
  case isFalse hidle =>
    rw [Bool.not_eq_true, Option.isSome_eq_false_iff, Option.isNone_iff_eq_none] at hidle
    rcases hvalid : validateActivationPredecessor writer.activeOwner activation with e | _
    · exact .inl ⟨_, rfl⟩
    · dsimp only
      obtain ⟨lastActivation, hscans⟩ := h.scans
      rcases appendAndSync_cases codec h.open_eq (writer.preparedRecord activation) with
        ⟨e, happend⟩ | ⟨body, hvec, hle, ⟨e, e', sink, k, -, hbytes, happend⟩ |
          ⟨sink, -, hbytes, happend⟩⟩
      · rw [happend]
        exact .inl ⟨_, rfl⟩
      · rw [happend]
        refine .inr (.inl ⟨_, _, rfl, rfl, ?_⟩)
        -- what reached the file is a part of the record or all of it
        by_cases hk : k < (codec.framing.frame body).length
        · exact hscans.activeOwner_torn hle hk hbytes
        · rw [List.take_of_length_le (Nat.le_of_not_lt hk)] at hbytes
          rw [hscans.activeOwner_frame hle hbytes,
            visit_prepared hcodec hidle hvalid hvec sink lastActivation]
          rfl
      · rw [happend]
        refine .inr (.inr ⟨_, _, rfl, ⟨h.open_eq, lastActivation, ?_⟩, rfl, rfl, rfl⟩)
        have hnext := hscans.append hle
          (visit_prepared hcodec hidle hvalid hvec sink lastActivation)
        rw [← hbytes] at hnext
        exact hnext

/-- **Activate.** It changes nothing, or is torn and leaves the owner, or all of its record
    reaches the file, and then the owner is the successor even where the call fails. -/
theorem activate_cases (h : Written codec writer)
    (hpending : writer.pending = some (activation, preparedDigest)) :
    (∃ e, writer.activate codec activation.activationId = (.error e, writer)) ∨
    ∃ body, codec.toVec (writer.activatedRecord preparedDigest) = .ok body ∧
      body.length ≤ maxRecordBytes ∧
      ((∃ e sink e' k ledger,
        writer.sink.writeSynced (codec.framing.frame body) = (.error e, sink) ∧
        writer.activate codec activation.activationId = (.error e', ledger) ∧
        ledger.poisoned = true ∧ ledger.sink = sink ∧
        sink.file.bytes = writer.sink.file.bytes ++ (codec.framing.frame body).take k ∧
        (k < (codec.framing.frame body).length →
          (scanOwnershipLedger codec sink.file).activeOwner = some writer.activeOwner) ∧
        (sink.file.bytes = writer.sink.file.bytes ++ codec.framing.frame body →
          (scanOwnershipLedger codec sink.file).activeOwner
            = some activation.successorSnapshot)) ∨
      ∃ ack ledger sink, writer.sink.writeSynced (codec.framing.frame body) = (.ok (), sink) ∧
        writer.activate codec activation.activationId = (.ok ack, ledger) ∧
        Written codec ledger ∧ ledger.activeOwner = activation.successorSnapshot) := by
  unfold activate
  rw [hpending]
  dsimp only
  rw [if_neg (not_not.mpr rfl)]
  obtain ⟨lastActivation, hscans⟩ := h.scans
  rcases appendAndSync_cases codec h.open_eq (writer.activatedRecord preparedDigest) with
    ⟨e, happend⟩ | ⟨body, hvec, hle, ⟨e, e', sink, k, hwrite, hbytes, happend⟩ |
      ⟨sink, hwrite, hbytes, happend⟩⟩
  · rw [happend]
    exact .inl ⟨_, rfl⟩
  · rw [happend]
    refine .inr ⟨body, hvec, hle, .inl ⟨e, sink, e', k, _, hwrite, rfl, rfl, rfl, hbytes, ?_, ?_⟩⟩
    · intro hk
      exact hscans.activeOwner_torn hle hk hbytes
    · intro hall
      rw [hscans.activeOwner_frame hle hall, visit_activated hcodec hpending hvec sink lastActivation]
      rfl
  · rw [happend]
    refine .inr ⟨body, hvec, hle, .inr ⟨_, _, sink, hwrite, rfl, ⟨h.open_eq, some activation, ?_⟩,
      rfl⟩⟩
    have hnext := hscans.append hle (visit_activated hcodec hpending hvec sink lastActivation)
    rw [← hbytes] at hnext
    exact hnext

theorem fromSink_written {faults : List Raw.Fault} {initial : SourcePointerSnapshotV1}
    (h : fromSink codec (Sink.fresh faults) initial = .ok writer) :
    Written codec writer ∧ writer.activeOwner = initial := by
  rw [fromSink, bind_eq_ok] at h
  obtain ⟨⟨⟩, hinitial, h⟩ := h
  rcases hwrite : (Sink.fresh faults).writeAll ledgerMagic with ⟨e | _, first⟩
  · rw [hwrite] at h
    cases h
  rw [hwrite] at h
  dsimp only at h
  obtain ⟨hmagic, -⟩ := Sink.writeAll_ok hwrite
  obtain ⟨hfile, -, -⟩ := first.barrier_spec
  rcases hsync : first.barrier with ⟨e | _, second⟩
  · rw [hsync] at h
    cases h
  rw [hsync] at h hfile
  dsimp only at h hfile
  rcases appendAndSync_cases codec (show (⟨second, ledgerMagic.length, zeroDigest, 0, initial, none,
      false⟩ : OwnershipLedgerWriter).poisoned = false from rfl) (initializedRecord initial) with
    ⟨e, happend⟩ | ⟨body, hvec, hle, ⟨e, e', sink, k, -, -, happend⟩ | ⟨sink, -, hbytes, happend⟩⟩
  · rw [happend] at h
    cases h
  · rw [happend] at h
    cases h
  · rw [happend] at h
    obtain rfl := Except.ok.inj h
    refine ⟨⟨rfl, none, ?_⟩, rfl⟩
    have hstart : Scans codec second.file.bytes .start := by
      rw [hfile, hmagic]
      exact ⟨[], (List.append_nil _).symm, Framing.Scans.nil⟩
    have hvisit : visitRecord codec .start body
        = (none, (advance codec ⟨second, ledgerMagic.length, zeroDigest, 0, initial, none, false⟩
          sink body).scanState none) := by
      have happly : applyRecord .start (initializedRecord initial) (codec.digest body)
          = (none, { LedgerScanState.start with activeOwner := some initial }) := by
        rw [applyRecord, if_neg (by simp [initializedRecord, LedgerScanState.start])]
        simp [initializedRecord, LedgerScanState.start, hinitial]
      rw [visitRecord_of_apply (hcodec.fromSlice_toVec _ _ hvec) happly]
      simp only [scanState, advance, Framing.frame_length]
      rfl
    have hnext := hstart.append hle hvisit
    show Scans codec sink.file.bytes _
    rw [hbytes]
    exact hnext

end

end

end OwnershipLedgerWriter

/-! ## The pointer -/

/-- Two snapshots of one source: they differ at most in their positions. -/
structure SameSource (a b : SourcePointerSnapshotV1) : Prop where
  symbol : a.symbol = b.symbol
  generation : a.generationId = b.generationId
  depthEpoch : a.depthEpoch = b.depthEpoch
  tradeEpoch : a.tradeEpoch = b.tradeEpoch
  token : a.fencingToken = b.fencingToken

theorem SameSource.refl (a : SourcePointerSnapshotV1) : SameSource a a := ⟨rfl, rfl, rfl, rfl, rfl⟩

theorem SameSource.trans {a b c : SourcePointerSnapshotV1} (h : SameSource a b)
    (h' : SameSource b c) : SameSource a c :=
  ⟨h.symbol.trans h'.symbol, h.generation.trans h'.generation, h.depthEpoch.trans h'.depthEpoch,
    h.tradeEpoch.trans h'.tradeEpoch, h.token.trans h'.token⟩

/-- The pointer is stopped, or is still what it was but for its position. -/
def Keeps (before behind : CanonicalSourcePointer) : Prop :=
  behind.state = .gap ∨ behind.state = before.state ∧ SameSource behind.owner before.owner

namespace CanonicalSourcePointer

theorem acceptObservation_keeps (pointer : CanonicalSourcePointer) (kind : BoundaryStreamKind)
    (epoch : String) (fencingToken firstSequence finalSequence : UInt64) :
    Keeps pointer
      (pointer.acceptObservation kind epoch fencingToken firstSequence finalSequence).2 := by
  have hsame : Keeps pointer pointer := .inr ⟨rfl, .refl _⟩
  unfold acceptObservation
  split
  · exact hsame
  · dsimp only
    split
    · exact .inr ⟨rfl, .refl _⟩
    · split
      · exact hsame
      · split
        · exact .inl rfl
        · cases kind with
          | depth => exact .inr ⟨rfl, rfl, rfl, rfl, rfl, rfl⟩
          | trade => exact .inr ⟨rfl, rfl, rfl, rfl, rfl, rfl⟩

variable {pointer : CanonicalSourcePointer}

theorem token_of_acceptObservation {kind : BoundaryStreamKind} {epoch : String}
    {fencingToken firstSequence finalSequence : UInt64}
    (h : (pointer.acceptObservation kind epoch fencingToken firstSequence finalSequence).1
      = .ok ()) :
    pointer.state = .live ∧ fencingToken = pointer.owner.fencingToken := by
  unfold acceptObservation at h
  split at h
  · cases h
  next hlive =>
  rw [not_not] at hlive
  dsimp only at h
  split at h
  · cases h
  next hfence =>
  rw [not_or, not_not, not_not] at hfence
  exact ⟨hlive, hfence.2⟩

theorem failActive_keeps (pointer : CanonicalSourcePointer) (epoch reason : String) :
    Keeps pointer (pointer.failActive epoch reason).2 := by
  unfold failActive
  split
  · exact .inr ⟨rfl, .refl _⟩
  · split
    · exact .inr ⟨rfl, .refl _⟩
    · exact .inl rfl

theorem recover_owner {scan : OwnershipLedgerScanV1}
    {proofs : Option (CommittedBoundaryProofV1 × CommittedBoundaryProofV1)}
    (h : recover scan proofs = .ok pointer) : scan.activeOwner = some pointer.owner := by
  rw [recover, ite_err_eq_ok, bind_eq_ok] at h
  obtain ⟨-, owner, howner, h⟩ := h
  rw [okOr_eq_ok] at howner
  rw [bind_eq_ok] at h
  obtain ⟨_, -, h⟩ := h
  rw [bind_eq_ok] at h
  obtain ⟨_, -, h⟩ := h
  cases h
  exact howner

end CanonicalSourcePointer

namespace LiveRotationCoordinator

theorem acceptObservation_keeps (coordinator : LiveRotationCoordinator) (kind : BoundaryStreamKind)
    (epoch : String) (fencingToken firstSequence finalSequence : UInt64) :
    Keeps coordinator.pointer
      (coordinator.acceptObservation kind epoch fencingToken firstSequence finalSequence).2.pointer := by
  unfold acceptObservation
  split
  · exact .inr ⟨rfl, .refl _⟩
  · exact coordinator.pointer.acceptObservation_keeps kind epoch fencingToken firstSequence
      finalSequence

theorem token_of_acceptObservation {coordinator : LiveRotationCoordinator}
    {kind : BoundaryStreamKind} {epoch : String} {fencingToken firstSequence finalSequence : UInt64}
    (h : (coordinator.acceptObservation kind epoch fencingToken firstSequence finalSequence).1
      = .ok ()) :
    coordinator.pointer.state = .live ∧
      fencingToken = coordinator.pointer.owner.fencingToken := by
  unfold acceptObservation at h
  split at h
  · cases h
  · exact CanonicalSourcePointer.token_of_acceptObservation h

theorem failActive_keeps (coordinator : LiveRotationCoordinator) (kind : BoundaryStreamKind)
    (reason : String) :
    Keeps coordinator.pointer (coordinator.failActive kind reason).2.pointer := by
  have hpointer := coordinator.pointer.failActive_keeps (coordinator.pointer.stream kind).1 reason
  unfold failActive
  dsimp only
  rcases hfail : coordinator.pointer.failActive (coordinator.pointer.stream kind).1 reason with
    ⟨e | _, pointer⟩
  · rw [hfail] at hpointer
    exact hpointer
  · rw [hfail] at hpointer
    dsimp only
    split
    · exact hpointer
    · exact hpointer

end LiveRotationCoordinator

/-! ## The system -/

namespace System

/-- Where the ledger names an active owner, the pointer is stopped or points to it, and the
    coordinator accepts observations under its token alone. -/
structure NoSplit (codec : LedgerCodec) (system : System) : Prop where
  pointer : ∀ owner,
    (scanOwnershipLedger codec system.ledger.sink.file).activeOwner = some owner →
    system.coordinator.pointer.state = .gap ∨ SameSource system.coordinator.pointer.owner owner
  fenced : ∀ owner,
    (scanOwnershipLedger codec system.ledger.sink.file).activeOwner = some owner →
    ∀ kind epoch fencingToken firstSequence finalSequence,
      (system.coordinator.acceptObservation kind epoch fencingToken firstSequence finalSequence).1
        = .ok () → fencingToken = owner.fencingToken

/-- The pointer is live, the prepared activation is synced, and all bytes of the record that
    activates it reach the file while an operation of the sink fails. -/
def LosesAck (codec : LedgerCodec) (system : System) (args : Activation) : Prop :=
  system.coordinator.pointer.state = .live ∧
  ∃ candidate activation ack ledger body e sink,
    system.coordinator.checkActivation args = .ok (candidate, activation) ∧
    system.ledger.prepare codec activation = (.ok ack, ledger) ∧
    codec.toVec (ledger.activatedRecord ack.lastRecordSha256) = .ok body ∧
    body.length ≤ maxRecordBytes ∧
    ledger.sink.writeSynced (codec.framing.frame body) = (.error e, sink) ∧
    sink.file.bytes = ledger.sink.file.bytes ++ codec.framing.frame body

/-- A call that does not lose the acknowledgement of an activation. -/
def Careful (codec : LedgerCodec) (system : System) : Call → Prop
  | .activate args => ¬ LosesAck codec system args
  | _ => True

/-- What the calls of a run keep, as long as nothing is split. -/
def Kept (codec : LedgerCodec) (system : System) : Prop :=
  NoSplit codec system ∧ (system.ledger.poisoned = true ∨ system.ledger.Written codec)

section

variable {codec : LedgerCodec} {system : System} {coordinator : LiveRotationCoordinator}
  {activation : OwnershipActivationV1} {args : Activation}

/-- The tokens follow from the pointer. -/
theorem noSplit_of_pointer (h : ∀ owner,
    (scanOwnershipLedger codec system.ledger.sink.file).activeOwner = some owner →
    system.coordinator.pointer.state = .gap ∨ SameSource system.coordinator.pointer.owner owner) :
    NoSplit codec system := by
  refine ⟨h, ?_⟩
  intro owner howner kind epoch fencingToken firstSequence finalSequence haccept
  obtain ⟨hlive, htoken⟩ := LiveRotationCoordinator.token_of_acceptObservation haccept
  rcases h owner howner with hgap | hsame
  · rw [hgap] at hlive
    cases hlive
  · exact htoken.trans hsame.token

theorem NoSplit.keep (h : NoSplit codec system) {ledger : OwnershipLedgerWriter}
    (hkeeps : Keeps system.coordinator.pointer coordinator.pointer)
    (howner : (scanOwnershipLedger codec ledger.sink.file).activeOwner
      = (scanOwnershipLedger codec system.ledger.sink.file).activeOwner) :
    NoSplit codec { coordinator, ledger } := by
  apply noSplit_of_pointer
  intro owner hactive
  rcases hkeeps with hgap | ⟨hstate, hsame⟩
  · exact .inl hgap
  · rcases h.pointer owner (howner ▸ hactive) with hgap | hsource
    · exact .inl (hstate.trans hgap)
    · exact .inr (hsame.trans hsource)

theorem prepare_of_poisoned (codec : LedgerCodec) {writer : OwnershipLedgerWriter}
    (h : writer.poisoned = true) (activation : OwnershipActivationV1) :
    ∃ e, writer.prepare codec activation = (.error e, writer) := by
  unfold OwnershipLedgerWriter.prepare
  split
  · exact ⟨_, rfl⟩
  · split
    · exact ⟨_, rfl⟩
    · obtain ⟨e, happend⟩ := writer.appendAndSync_poisoned codec h (writer.preparedRecord activation)
      rw [happend]
      exact ⟨_, rfl⟩

theorem promote_pointer (codec : LedgerCodec) (coordinator : LiveRotationCoordinator)
    (args : Activation) (recovered : CanonicalSourcePointer)
    (prepareAck activateAck : OwnershipLedgerAckV1) :
    Keeps recovered
      (coordinator.promote codec args recovered prepareAck activateAck).2.pointer := by
  unfold LiveRotationCoordinator.promote
  rcases coordinator.handover.promoteCandidate with ⟨e | _, handover⟩
  · exact recovered.failActive_keeps args.depth.boundary.successorEpoch _
  · exact .inr ⟨rfl, .refl _⟩

theorem derive_token {activationId successorGeneration : String} {current : SourcePointerSnapshotV1}
    {depth trade : CommittedBoundaryProofV1}
    (h : deriveOwnershipActivation activationId successorGeneration current depth trade
      = .ok activation) :
    activation.fencingToken = current.fencingToken + 1 := by
  rw [deriveOwnershipActivation, bind_eq_ok] at h
  obtain ⟨_, -, h⟩ := h
  rw [bind_eq_ok] at h
  obtain ⟨_, -, h⟩ := h
  rw [bind_eq_ok] at h
  obtain ⟨_, -, h⟩ := h
  rw [bind_eq_ok] at h
  obtain ⟨_, -, h⟩ := h
  rw [bind_eq_ok] at h
  obtain ⟨_, -, h⟩ := h
  rw [ite_err_eq_ok, bind_eq_ok] at h
  obtain ⟨-, _, -, h⟩ := h
  rw [bind_eq_ok] at h
  obtain ⟨_, -, h⟩ := h
  rw [bind_eq_ok] at h
  obtain ⟨_, -, h⟩ := h
  cases h
  rfl

theorem checkActivation_token {candidate : Handover.EpochStatus}
    (h : coordinator.checkActivation args = .ok (candidate, activation)) :
    activation.fencingToken = coordinator.pointer.owner.fencingToken + 1 := by
  rw [LiveRotationCoordinator.checkActivation, ite_err_eq_ok, bind_eq_ok] at h
  obtain ⟨-, _, -, h⟩ := h
  rw [ite_err_eq_ok, ite_err_eq_ok, bind_eq_ok] at h
  obtain ⟨-, -, derived, hderive, h⟩ := h
  cases h
  exact derive_token hderive

/-- **Step, activation.** It keeps ledger and pointer together, unless it loses the
    acknowledgement of the activation. -/
theorem Kept.activate (hcodec : codec.Lawful) (h : Kept codec system) (args : Activation)
    (hcareful : ¬ LosesAck codec system args) :
    Kept codec (system.step codec (.activate args)).2 := by
  obtain ⟨hsplit, hledger⟩ := h
  have hsame : Keeps system.coordinator.pointer system.coordinator.pointer := .inr ⟨rfl, .refl _⟩
  show Kept codec ⟨(system.coordinator.activateCommitted codec system.ledger args).2.1,
    (system.coordinator.activateCommitted codec system.ledger args).2.2⟩
  unfold LiveRotationCoordinator.activateCommitted
  rcases hcheck : system.coordinator.checkActivation args with e | ⟨candidate, activation⟩
  · exact ⟨hsplit, hledger⟩
  dsimp only
  rcases hledger with hpoisoned | hwritten
  · obtain ⟨e, hprepare⟩ := prepare_of_poisoned codec hpoisoned activation
    rw [hprepare]
    exact ⟨hsplit, .inl hpoisoned⟩
  rcases OwnershipLedgerWriter.prepare_cases hcodec hwritten activation with
    ⟨e, hprepare⟩ | ⟨e, ledger, hprepare, hpoisoned, howner⟩ |
      ⟨ack, ledger, hprepare, hprepared, hpending, howner, -⟩
  · rw [hprepare]
    exact ⟨hsplit, .inr hwritten⟩
  · rw [hprepare]
    exact ⟨hsplit.keep hsame (howner.trans hwritten.activeOwner.symm), .inl hpoisoned⟩
  · rw [hprepare]
    dsimp only
    have hunchanged : (scanOwnershipLedger codec ledger.sink.file).activeOwner
        = (scanOwnershipLedger codec system.ledger.sink.file).activeOwner := by
      rw [hprepared.activeOwner, hwritten.activeOwner, howner]
    rcases OwnershipLedgerWriter.activate_cases hcodec hprepared hpending with
      ⟨e, hactivate⟩ | ⟨body, hvec, hle, ⟨e, sink, e', k, last, hwrite, hactivate, hpoisoned, rfl,
        hbytes, htorn, hall⟩ | ⟨activateAck, last, sink, hwrite, hactivate, hactive, hnext⟩⟩
    · rw [hactivate]
      exact ⟨hsplit.keep hsame hunchanged, .inr hprepared⟩
    · rw [hactivate]
      refine ⟨?_, .inl hpoisoned⟩
      by_cases hk : k < (codec.framing.frame body).length
      · -- the record is torn, and the ledger still names the old owner
        exact hsplit.keep hsame
          ((htorn hk).trans (hprepared.activeOwner.symm.trans hunchanged))
      · -- the record is whole, so the pointer was not live
        rw [List.take_of_length_le (Nat.le_of_not_lt hk)] at hbytes
        apply noSplit_of_pointer
        intro owner _
        left
        show system.coordinator.pointer.state = .gap
        rcases hstate : system.coordinator.pointer.state with _ | _
        · exact absurd ⟨hstate, candidate, activation, ack, ledger, body, e, last.sink, hcheck,
            hprepare, hvec, hle, hwrite, hbytes⟩ hcareful
        · rfl
    · rw [hactivate]
      dsimp only
      rcases hverify : system.coordinator.awaitRescan.verifyRescan codec args candidate
          last.sink.file with e | recovered
      · exact ⟨noSplit_of_pointer fun _ _ => .inl rfl, .inr hactive⟩
      · dsimp only
        refine ⟨noSplit_of_pointer ?_, .inr hactive⟩
        intro owner hscan
        rw [LiveRotationCoordinator.verifyRescan, bind_eq_ok] at hverify
        obtain ⟨pointer, hrecover, hverify⟩ := hverify
        rw [ite_err_eq_ok] at hverify
        obtain rfl := Except.ok.inj hverify.2
        have hrecovered := CanonicalSourcePointer.recover_owner hrecover
        rw [hscan, Option.some.injEq] at hrecovered
        rw [hrecovered]
        rcases promote_pointer codec system.coordinator.awaitRescan args pointer ack activateAck
          with hgap | ⟨-, hsource⟩
        · exact .inl hgap
        · exact .inr hsource

theorem Kept.split (hcodec : codec.Lawful) (h : Kept codec system)
    (hloses : LosesAck codec system args) :
    ¬ NoSplit codec (system.step codec (.activate args)).2 := by
  obtain ⟨hlive, candidate, activation, ack, ledger, body, e, sink, hcheck, hprepare, hvec, hle,
    hwrite, hbytes⟩ := hloses
  obtain ⟨hsplit, hledger⟩ := h
  have hwritten : system.ledger.Written codec := by
    rcases hledger with hpoisoned | hwritten
    · obtain ⟨e, hrefused⟩ := prepare_of_poisoned codec hpoisoned activation
      rw [hrefused] at hprepare
      cases hprepare
    · exact hwritten
  rcases OwnershipLedgerWriter.prepare_cases hcodec hwritten activation with
    ⟨e, hother⟩ | ⟨e, last, hother, -, -⟩ | ⟨ack', ledger', hother, hprepared, hpending, -, -⟩
  · rw [hother] at hprepare
    cases hprepare
  · rw [hother] at hprepare
    cases hprepare
  rw [hother] at hprepare
  cases hprepare
  rcases OwnershipLedgerWriter.activate_cases hcodec hprepared hpending with
    ⟨e', hactivate⟩ | ⟨body', hvec', hle', ⟨e', sink', e'', k, last, hwrite', hactivate, -, rfl, -, -,
      hall⟩ | ⟨_, _, sink', hwrite', -, -, -⟩⟩
  · -- the record is serialized and short enough, so it is not refused
    exfalso
    have happend : ledger.appendAndSync codec (ledger.activatedRecord ack.lastRecordSha256)
        = (.error (.err s!"sync ownership record; ledger poisoned: {e}"),
          { ledger with sink, poisoned := true }) := by
      unfold OwnershipLedgerWriter.appendAndSync
      rw [hprepared.open_eq, hvec]
      simp only [Bool.false_eq_true, if_false]
      rw [if_neg (Nat.not_lt.mpr hle), hwrite]
      rfl
    rw [OwnershipLedgerWriter.activate, hpending] at hactivate
    dsimp only at hactivate
    rw [if_neg (not_not.mpr rfl), happend] at hactivate
    have hpoisoned := congrArg (fun r => r.2.poisoned) hactivate
    dsimp only at hpoisoned
    rw [hprepared.open_eq] at hpoisoned
    cases hpoisoned
  · rw [hvec, Except.ok.injEq] at hvec'
    rw [← hvec', hwrite] at hwrite'
    cases hwrite'
    rw [← hvec'] at hall
    have hsystem : (system.step codec (.activate args)).2 = ⟨system.coordinator, last⟩ := by
      show (⟨(system.coordinator.activateCommitted codec system.ledger args).2.1,
        (system.coordinator.activateCommitted codec system.ledger args).2.2⟩ : System) = _
      unfold LiveRotationCoordinator.activateCommitted
      rw [hcheck]
      dsimp only
      rw [hother]
      dsimp only
      rw [hactivate]
    rw [hsystem]
    intro hno
    have howner := hall hbytes
    rcases hno.pointer _ howner with hgap | hsame
    · rw [hlive] at hgap
      cases hgap
    · -- the ledger names the next token
      have htoken := hsame.token
      have hnext := checkActivation_token hcheck
      dsimp only [OwnershipActivationV1.successorSnapshot] at htoken
      rw [hnext] at htoken
      have hnat := congrArg UInt64.toNat htoken
      rw [UInt64.toNat_add] at hnat
      have hlt := system.coordinator.pointer.owner.fencingToken.toNat_lt
      have hone : (1 : UInt64).toNat = 1 := rfl
      omega
  · rw [hvec, Except.ok.injEq] at hvec'
    rw [← hvec', hwrite] at hwrite'
    cases hwrite'

/-- **Step.** A careful call keeps ledger and pointer together. -/
theorem Kept.step (hcodec : codec.Lawful) (h : Kept codec system) {call : Call}
    (hcareful : Careful codec system call) : Kept codec (system.step codec call).2 := by
  cases call with
  | activate args => exact h.activate hcodec args hcareful
  | observe kind epoch fencingToken firstSequence finalSequence =>
    exact ⟨h.1.keep (system.coordinator.acceptObservation_keeps kind epoch fencingToken
      firstSequence finalSequence) rfl, h.2⟩
  | fail kind reason => exact ⟨h.1.keep (system.coordinator.failActive_keeps kind reason) rfl, h.2⟩
  | handover call => exact ⟨h.1.keep (.inr ⟨rfl, .refl _⟩) rfl, h.2⟩

/-! ## Runs -/

theorem after_concat (calls : List Call) (call : Call) :
    after codec system (calls ++ [call]) = ((after codec system calls).step codec call).2 := by
  rw [after, run_concat]
  rfl

theorem start_kept (hcodec : codec.Lawful) {faults : List Raw.Fault}
    {initial : SourcePointerSnapshotV1} {handover : Handover.HandoverController}
    (h : start codec faults initial handover = .ok system) : Kept codec system := by
  rw [start, bind_eq_ok] at h
  obtain ⟨ledger, hledger, h⟩ := h
  rw [bind_eq_ok] at h
  obtain ⟨pointer, hrecover, h⟩ := h
  rw [bind_eq_ok] at h
  obtain ⟨coordinator, hnew, h⟩ := h
  cases h
  rw [LiveRotationCoordinator.new, ite_err_eq_ok] at hnew
  obtain rfl := Except.ok.inj hnew.2
  refine ⟨noSplit_of_pointer ?_, .inr (OwnershipLedgerWriter.fromSink_written hcodec hledger).1⟩
  intro owner howner
  have hpointer := CanonicalSourcePointer.recover_owner hrecover
  rw [howner, Option.some.injEq] at hpointer
  rw [hpointer]
  exact .inr (.refl _)

/-- **No split brain.** Ledger and pointer are together at every point of a run iff no call loses
    the acknowledgement of an activation that has reached the file. -/
theorem no_split_brain_iff (hcodec : codec.Lawful) {faults : List Raw.Fault}
    {initial : SourcePointerSnapshotV1} {handover : Handover.HandoverController}
    (hstart : start codec faults initial handover = .ok system) (calls : List Call) :
    (∀ before later, calls = before ++ later → NoSplit codec (after codec system before)) ↔
    AtEach (fun before call => Careful codec (after codec system before) call) calls := by
  refine prefixes_iff_atEach (A := fun _ => True) (K := fun calls => Kept codec (after codec system calls))
    (fun _ _ _ => trivial) (start_kept hcodec hstart) (fun _ h => h.1) ?_ ?_ trivial
  · intro calls call _ hkept hcareful
    rw [after_concat]
    exact hkept.step hcodec hcareful
  · intro calls call _ hkept hno
    rw [after_concat] at hno
    cases call with
    | activate args =>
      intro hloses
      exact hkept.split hcodec hloses hno
    | observe kind epoch fencingToken firstSequence finalSequence => trivial
    | fail kind reason => trivial
    | handover call => trivial

end

/-! ## A sync that fails behind the write -/

def sampleOwner : SourcePointerSnapshotV1 :=
  ⟨"SourcePointerSnapshotV1", "BTCUSDT", "g-a", "d-a", "t-a", 1, 103, 201⟩

def sampleBoundary (boundaryId stream predecessorEpoch successorEpoch : String)
    (streamKind : BoundaryStreamKind) (boundarySequence : UInt64) :
    Boundary.HandoverBoundaryV1 where
  schema := "HandoverBoundaryV1"
  boundaryId := boundaryId
  environment := "production-public-market-data"
  symbol := "BTCUSDT"
  streamKind := streamKind
  stream := stream
  predecessorEpoch := predecessorEpoch
  successorEpoch := successorEpoch
  boundarySequence := boundarySequence
  boundarySha256 := zeroDigest
  predecessorLastSelected := ⟨predecessorEpoch, stream, 3, zeroDigest⟩
  successorBoundaryObservation := ⟨successorEpoch, stream, 1, zeroDigest⟩
  successorFirstSelected := ⟨successorEpoch, stream, 2, zeroDigest⟩
  predecessorDurability := ⟨3, 100, zeroDigest⟩
  successorDurability := ⟨2, 100, zeroDigest⟩
  specRevision := "1"
  selectorVersion := "1"

def sampleActivation : Activation where
  activationId := "act-1"
  successorGeneration := "g-b"
  depth := ⟨sampleBoundary "b-d" "btcusdt@depth" "d-a" "d-b" .depth 103,
    "aaaaaaaaaaaaaaaaaaaaaaaaaaaaaaaaaaaaaaaaaaaaaaaaaaaaaaaaaaaaaaaa"⟩
  trade := ⟨sampleBoundary "b-t" "btcusdt@trade" "t-a" "t-b" .trade 201,
    "bbbbbbbbbbbbbbbbbbbbbbbbbbbbbbbbbbbbbbbbbbbbbbbbbbbbbbbbbbbbbbbb"⟩

def sampleRecords : List (OwnershipRecordV1 × Nat) :=
  rotationRecords sampleOwner
    { backwardActivation with depthBoundarySequence := 103, tradeBoundarySequence := 201 }
    0x50f81df81a860e24e3e2bc7d628d17c1e9cc194939fd62989216642081b33e58
    0xa01a058c44c116fdc0629c62e86b48e7a0b68f8798750d7d831f10ac346baf19
    0xedf0fe93a7fc5b42d8c10b248ed169a37fd3d0b66989c8e5d80e4485bbfe1d29

def sampleCodec : LedgerCodec := knownLedgerCodec sampleRecords

/-- A controller whose active epoch `d-a` stands at 103. -/
def sampleHandover : Result HandoverController :=
  (HandoverController.new "BTCUSDT" "d-a").map fun handover =>
    (run HandoverController.step handover [.transitionEpoch "d-a" .buffering,
      .transitionEpoch "d-a" .snapshotting, .transitionEpoch "d-a" .syncing,
      .markLive "d-a" 103 zeroDigest, .activateInitial]).2

/-- The candidate `d-b` converges, and is activated. -/
def sampleCalls : List Call :=
  [.handover (.beginHandover "d-b"), .handover (.transitionEpoch "d-b" .buffering),
    .handover (.transitionEpoch "d-b" .snapshotting), .handover (.transitionEpoch "d-b" .syncing),
    .handover (.markLive "d-b" 103 zeroDigest), .activate sampleActivation]

def sampleStart (faults : List Raw.Fault) : Result System := do
  let handover ← sampleHandover
  start sampleCodec faults sampleOwner handover

/-- The sample on a sink that does not fail. -/
theorem sample_rotation_is_not_split : ∃ handover system,
    start sampleCodec [] sampleOwner handover = .ok system ∧
    ((∀ before later, sampleCalls = before ++ later →
      NoSplit sampleCodec (after sampleCodec system before)) ↔
    AtEach (fun before call => Careful sampleCodec (after sampleCodec system before) call)
      sampleCalls) := by
  obtain ⟨system, hsystem⟩ := isOk_eq_true.mp
    (show (sampleStart []).isOk = true by decide +kernel)
  rw [sampleStart, bind_eq_ok] at hsystem
  obtain ⟨handover, -, hstart⟩ := hsystem
  refine ⟨handover, system, hstart, no_split_brain_iff ?_ hstart sampleCalls⟩
  exact knownLedgerCodec_lawful (by decide +kernel)

/-- The same rotation where the sync behind the activated record fails. -/
def sampleFailed {β : Type} (f : System → β) : Result β :=
  (sampleStart (List.replicate 10 .none ++ [.fail 0 "EIO"])).map f

/-- The activation returns an error, the ledger is owned by token 2, the pointer is live under
    token 1, and a trade is still accepted under it. -/
theorem failed_sync_splits :
    sampleFailed (fun system => ((run (step sampleCodec) system sampleCalls).1.map (·.isOk)).getLast?)
      = .ok (some false) ∧
    sampleFailed (fun system => (scanOwnershipLedger sampleCodec
        (after sampleCodec system sampleCalls).ledger.sink.file).activeOwner.map fun owner =>
          (owner.generationId, owner.fencingToken)) = .ok (some ("g-b", 2)) ∧
    sampleFailed (fun system =>
      ((after sampleCodec system sampleCalls).coordinator.pointer.state,
        (after sampleCodec system sampleCalls).coordinator.pointer.owner.fencingToken))
      = .ok (.live, 1) ∧
    sampleFailed (fun system => ((after sampleCodec system sampleCalls).coordinator.acceptObservation
      .trade "t-a" 1 202 202).1.isOk) = .ok true := by
  decide +kernel

end System

end LobReplay.Ownership
