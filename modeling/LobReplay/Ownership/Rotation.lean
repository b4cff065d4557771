/-
  The live rotation of {ownership,live_rotation}.rs: the in-memory pointer that lets observations
  through, and `activate_committed`, which moves the durable ownership and then the pointer.

  The ledger is scanned from the file its writer writes to. Promotion, failures and convergence are
  those of the handover controller.
-/

import LobReplay.Handover.Controller
import LobReplay.Ownership.Ledger

namespace LobReplay.Ownership

open Foundation
open Handover (HandoverController)

/-! ## The pointer -/

inductive LivePublicationState where
  | live
  | gap
  deriving DecidableEq

structure CanonicalSourcePointer where
  owner : SourcePointerSnapshotV1
  state : LivePublicationState
  fencedRejections : Nat
  gapReason : Option String
  deriving DecidableEq

namespace CanonicalSourcePointer

/-- What `recover` checks of the last activation. -/
def checkLastActivation (owner : SourcePointerSnapshotV1)
    (lastActivation : Option OwnershipActivationV1)
    (committedProofs : Option (CommittedBoundaryProofV1 × CommittedBoundaryProofV1)) :
    Result Unit :=
  match lastActivation, committedProofs with
  | none, none => .ok ()
  | some activation, some (depth, trade) => do
    validateActivationProofs activation depth trade
    if activation.successorSnapshot ≠ owner then
      err "active owner does not match last durable activation"
    else .ok ()
  | some _, none => err "activated ownership recovery requires both boundary proofs"
  | none, some _ => err "initial ownership recovery received unexpected boundary proofs"

def recover (scan : OwnershipLedgerScanV1)
    (committedProofs : Option (CommittedBoundaryProofV1 × CommittedBoundaryProofV1)) :
    Result CanonicalSourcePointer := do
  if scan.cleanEof = false ∨ scan.records = 0 then
    err "ownership ledger is not a clean recoverable authority"
  else
    let owner ← okOr scan.activeOwner "ownership ledger has no active owner"
    owner.validate
    checkLastActivation owner scan.lastActivation committedProofs
    .ok { owner, state := .live, fencedRejections := 0, gapReason := none }

def stream (pointer : CanonicalSourcePointer) : BoundaryStreamKind → String × UInt64
  | .depth => (pointer.owner.depthEpoch, pointer.owner.depthLastSequence)
  | .trade => (pointer.owner.tradeEpoch, pointer.owner.tradeLastSequence)

/-- `*last_sequence = final_sequence`. -/
def setLastSequence (pointer : CanonicalSourcePointer) (finalSequence : UInt64) :
    BoundaryStreamKind → CanonicalSourcePointer
  | .depth => { pointer with owner := { pointer.owner with depthLastSequence := finalSequence } }
  | .trade => { pointer with owner := { pointer.owner with tradeLastSequence := finalSequence } }

/-- Whether `first..final` continues at `expected`. -/
def continues (kind : BoundaryStreamKind) (expected : Nat) (firstSequence finalSequence : UInt64) :
    Bool :=
  match kind with
  | .depth => firstSequence.toNat ≤ expected && expected ≤ finalSequence.toNat
  | .trade => firstSequence.toNat = expected && finalSequence.toNat = expected

def acceptObservation (pointer : CanonicalSourcePointer) (kind : BoundaryStreamKind)
    (epoch : String) (fencingToken firstSequence finalSequence : UInt64) :
    Result Unit × CanonicalSourcePointer :=
  if pointer.state ≠ .live then (err "canonical publication is GAP", pointer)
  else
    let (expectedEpoch, lastSequence) := pointer.stream kind
    if epoch ≠ expectedEpoch ∨ fencingToken ≠ pointer.owner.fencingToken then
      (err "publication rejected by active ownership fence",
        { pointer with fencedRejections := pointer.fencedRejections + 1 })
    else
      match checkedAdd lastSequence.toNat 1 with
      | none => (err "canonical sequence overflow", pointer)
      | some expected =>
        if continues kind expected firstSequence finalSequence = false then
          let reason := s!"active canonical sequence gap: expected {expected}, got {firstSequence}..{finalSequence}"
          (err reason, { pointer with state := .gap, gapReason := some reason })
        else (.ok (), pointer.setLastSequence finalSequence kind)

def failActive (pointer : CanonicalSourcePointer) (epoch reason : String) :
    Result Unit × CanonicalSourcePointer :=
  if isBlank reason then (err "active failure reason is required", pointer)
  else if epoch ≠ pointer.owner.depthEpoch ∧ epoch ≠ pointer.owner.tradeEpoch then
    (err "failure source is not the active owner",
      { pointer with fencedRejections := pointer.fencedRejections + 1 })
  else (.ok (), { pointer with state := .gap, gapReason := some reason })

end CanonicalSourcePointer

/-! ## The coordinator -/

structure LiveActivationReportV1 where
  schema : String
  status : String
  depthBoundaryCommitSha256 : String
  tradeBoundaryCommitSha256 : String
  prepareAck : OwnershipLedgerAckV1
  activateAck : OwnershipLedgerAckV1
  activeOwnerSha256 : String
  activeGeneration : String
  fencingToken : UInt64
  deriving DecidableEq

structure LiveRotationCoordinator where
  handover : HandoverController
  pointer : CanonicalSourcePointer

/-- The arguments of `activate_committed` beside the ledger. -/
structure Activation where
  activationId : String
  successorGeneration : String
  depth : CommittedBoundaryProofV1
  trade : CommittedBoundaryProofV1
  deriving DecidableEq

namespace LiveRotationCoordinator

def new (handover : HandoverController) (pointer : CanonicalSourcePointer) :
    Result LiveRotationCoordinator :=
  if (handover.publication ≠ .live ∧ handover.publication ≠ .handover) ∨
      handover.active.state ≠ .active ∨ pointer.state ≠ .live ∨
      handover.symbol ≠ pointer.owner.symbol ∨
      handover.active.epoch ≠ pointer.owner.depthEpoch then
    err "handover and source pointer do not describe the same active publication"
  else .ok { handover, pointer }

/-- What `activate_committed` checks before it writes: the candidate and the activation. -/
def checkActivation (coordinator : LiveRotationCoordinator) (args : Activation) :
    Result (Handover.EpochStatus × OwnershipActivationV1) := do
  if coordinator.handover.candidateConverged = false then
    err "live ownership activation requires exact candidate convergence"
  else
    let candidate ← okOr coordinator.handover.candidate "converged candidate disappeared"
    let depth := args.depth.boundary
    let trade := args.trade.boundary
    if depth.streamKind ≠ .depth ∨ trade.streamKind ≠ .trade ∨
        depth.predecessorEpoch ≠ coordinator.handover.active.epoch ∨
        depth.successorEpoch ≠ candidate.epoch ∨
        coordinator.handover.active.finalUpdateId ≠ some depth.boundarySequence ∨
        candidate.finalUpdateId ≠ some depth.boundarySequence ∨
        coordinator.handover.active.stateSha256 ≠ some depth.boundarySha256 ∨
        candidate.stateSha256 ≠ some depth.boundarySha256 then
      err "committed depth proof does not match converged live books"
    else if coordinator.pointer.owner.depthEpoch ≠ depth.predecessorEpoch ∨
        coordinator.pointer.owner.tradeEpoch ≠ trade.predecessorEpoch ∨
        coordinator.pointer.owner.depthLastSequence ≠ depth.boundarySequence ∨
        coordinator.pointer.owner.tradeLastSequence ≠ trade.boundarySequence then
      err "committed proofs do not continue the current canonical pointer"
    else
      let activation ← deriveOwnershipActivation args.activationId args.successorGeneration
        coordinator.pointer.owner args.depth args.trade
      .ok (candidate, activation)

/-- The pointer once the ledger is durable and until the rescan has proved it. -/
def awaitRescan (coordinator : LiveRotationCoordinator) : LiveRotationCoordinator :=
  { coordinator with
    pointer := { coordinator.pointer with
      state := .gap, gapReason := some "durable activation awaiting verified rescan" } }

/-- The rescan: the pointer it recovers, if it is the expected successor. -/
def verifyRescan (codec : LedgerCodec) (coordinator : LiveRotationCoordinator) (args : Activation)
    (candidate : Handover.EpochStatus) (file : File) : Result CanonicalSourcePointer := do
  let recovered ← CanonicalSourcePointer.recover (scanOwnershipLedger codec file)
    (some (args.depth, args.trade))
  if recovered.owner.depthEpoch ≠ candidate.epoch ∨
      recovered.owner.tradeEpoch ≠ args.trade.boundary.successorEpoch ∨
      recovered.owner.fencingToken ≠ coordinator.pointer.owner.fencingToken + 1 then
    err "durable ownership rescan did not recover the expected successor"
  else .ok recovered

def promote (codec : LedgerCodec) (coordinator : LiveRotationCoordinator) (args : Activation)
    (recovered : CanonicalSourcePointer) (prepareAck activateAck : OwnershipLedgerAckV1) :
    Result LiveActivationReportV1 × LiveRotationCoordinator :=
  match coordinator.handover.promoteCandidate with
  | (.error e, handover) =>
    let text := failureText e
    let reason := s!"controller promotion failed after durable activation: {text}"
    (err reason,
      { handover
        pointer := (recovered.failActive args.depth.boundary.successorEpoch reason).2 })
  | (.ok (), handover) =>
    (do
      let activeOwnerSha256 ← recovered.owner.digest codec
      .ok
        { schema := "LiveActivationReportV1", status := "ACTIVATED_LIVE_AUTHORITY"
          depthBoundaryCommitSha256 := args.depth.commitRecordSha256
          tradeBoundaryCommitSha256 := args.trade.commitRecordSha256
          prepareAck, activateAck, activeOwnerSha256
          activeGeneration := recovered.owner.generationId
          fencingToken := recovered.owner.fencingToken },
      { handover, pointer := recovered })

def activateCommitted (codec : LedgerCodec) (coordinator : LiveRotationCoordinator)
    (ledger : OwnershipLedgerWriter) (args : Activation) :
    Result LiveActivationReportV1 × LiveRotationCoordinator × OwnershipLedgerWriter :=
  match coordinator.checkActivation args with
  | .error e => (.error e, coordinator, ledger)
  | .ok (candidate, activation) =>
    match ledger.prepare codec activation with
    | (.error e, ledger) => (.error e, coordinator, ledger)
    | (.ok prepareAck, ledger) =>
      match ledger.activate codec activation.activationId with
      | (.error e, ledger) => (.error e, coordinator, ledger)
      | (.ok activateAck, ledger) =>
        match coordinator.awaitRescan.verifyRescan codec args candidate ledger.sink.file with
        | .error e => (.error e, coordinator.awaitRescan, ledger)
        | .ok recovered =>
          let (report, coordinator) :=
            coordinator.awaitRescan.promote codec args recovered prepareAck activateAck
          (report, coordinator, ledger)

def acceptObservation (coordinator : LiveRotationCoordinator) (kind : BoundaryStreamKind)
    (epoch : String) (fencingToken firstSequence finalSequence : UInt64) :
    Result Unit × LiveRotationCoordinator :=
  if kind = .depth ∧ (coordinator.handover.publication ≠ .live ∨
      coordinator.handover.active.state ≠ .active) then
    (err "depth publication controller is not LIVE", coordinator)
  else
    let (result, pointer) :=
      coordinator.pointer.acceptObservation kind epoch fencingToken firstSequence finalSequence
    (result, { coordinator with pointer })

def failActive (coordinator : LiveRotationCoordinator) (kind : BoundaryStreamKind)
    (reason : String) : Result Unit × LiveRotationCoordinator :=
  let epoch := (coordinator.pointer.stream kind).1
  match coordinator.pointer.failActive epoch reason with
  | (.error e, pointer) => (.error e, { coordinator with pointer })
  | (.ok (), pointer) =>
    let coordinator := { coordinator with pointer }
    if kind = .depth ∧ coordinator.handover.active.epoch = epoch then
      let (result, handover) := coordinator.handover.failEpoch epoch reason
      (result, { coordinator with handover })
    else (.ok (), coordinator)

end LiveRotationCoordinator

/-! ## Runs -/

/-- The coordinator and the ledger it writes to. -/
structure System where
  coordinator : LiveRotationCoordinator
  ledger : OwnershipLedgerWriter

namespace System

/-- A call of the coordinator, or of the handover controller it holds. -/
inductive Call where
  | activate (args : Activation)
  | observe (kind : BoundaryStreamKind) (epoch : String)
      (fencingToken firstSequence finalSequence : UInt64)
  | fail (kind : BoundaryStreamKind) (reason : String)
  | handover (call : HandoverController.Call)

/-- One call: whether it returned `Ok`, and the system behind it. -/
def step (codec : LedgerCodec) (system : System) : Call → Result Unit × System
  | .activate args =>
    let (result, coordinator, ledger) :=
      system.coordinator.activateCommitted codec system.ledger args
    (result.map fun _ => (), { coordinator, ledger })
  | .observe kind epoch fencingToken firstSequence finalSequence =>
    let (result, coordinator) := system.coordinator.acceptObservation kind epoch fencingToken
      firstSequence finalSequence
    (result, { system with coordinator })
  | .fail kind reason =>
    let (result, coordinator) := system.coordinator.failActive kind reason
    (result, { system with coordinator })
  | .handover call =>
    let (result, handover) := system.coordinator.handover.step call
    (result, { system with coordinator := { system.coordinator with handover } })

/-- A ledger created for `initial` on a sink with the given faults, the pointer recovered from it,
    and the coordinator of the two. -/
def start (codec : LedgerCodec) (faults : List Raw.Fault) (initial : SourcePointerSnapshotV1)
    (handover : HandoverController) : Result System := do
  let ledger ← OwnershipLedgerWriter.fromSink codec (Raw.Sink.fresh faults) initial
  let pointer ← CanonicalSourcePointer.recover (scanOwnershipLedger codec ledger.sink.file) none
  let coordinator ← LiveRotationCoordinator.new handover pointer
  .ok { coordinator, ledger }

def after (codec : LedgerCodec) (system : System) (calls : List Call) : System :=
  (run (step codec) system calls).2

end System

end LobReplay.Ownership
