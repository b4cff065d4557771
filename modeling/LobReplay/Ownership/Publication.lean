/-
  What a live rotation publishes over whole runs. Only an accepted observation moves the position of
  its stream: an activation is checked against the positions, and the recovered owner starts from
  them. So rotations, failed ones too, neither skip nor repeat an update.
-/

import LobReplay.Foundation.Machine
import LobReplay.Ownership.Rotation

namespace LobReplay.Ownership

open Foundation

/-! ## Publications -/

/-- A range of updates takes a stream on from `last`; a trade is the very next one. -/
def TakesOn (kind : BoundaryStreamKind) (last : UInt64) (range : UInt64 × UInt64) : Prop :=
  match kind with
  | .depth => range.1.toNat ≤ last.toNat + 1 ∧ last.toNat + 1 ≤ range.2.toNat
  | .trade => range.1.toNat = last.toNat + 1 ∧ range.2.toNat = last.toNat + 1

/-- Each range takes the stream on from where the one before it has brought it. -/
inductive Contiguous (kind : BoundaryStreamKind) (start : UInt64) :
    List (UInt64 × UInt64) → UInt64 → Prop where
  | nil : Contiguous kind start [] start
  | concat {past : List (UInt64 × UInt64)} {last : UInt64} {range : UInt64 × UInt64}
      (h : Contiguous kind start past last) (hnext : TakesOn kind last range) :
      Contiguous kind start (past ++ [range]) range.2

/-- The position moves with what is published, and with nothing else. -/
def Moves (kind : BoundaryStreamKind) (last : UInt64) (range : Option (UInt64 × UInt64))
    (next : UInt64) : Prop :=
  match range with
  | some range => TakesOn kind last range ∧ next = range.2
  | none => next = last

/-- The range an accepted observation publishes on a stream. -/
def System.published (kind : BoundaryStreamKind) :
    Call × Result Unit → Option (UInt64 × UInt64)
  | (.observe stream _ _ first final, .ok ()) => if stream = kind then some (first, final) else none
  | _ => none

namespace CanonicalSourcePointer

def position (pointer : CanonicalSourcePointer) (kind : BoundaryStreamKind) : UInt64 :=
  (pointer.stream kind).2

theorem acceptObservation_moves (pointer : CanonicalSourcePointer)
    (stream kind : BoundaryStreamKind) (epoch : String) (fencingToken first final : UInt64) :
    let r := pointer.acceptObservation stream epoch fencingToken first final
    Moves kind (pointer.position kind)
      (System.published kind (.observe stream epoch fencingToken first final, r.1))
      (r.2.position kind) := by
  dsimp only
  unfold acceptObservation
  split
  · rfl
  dsimp only
  split
  · rfl
  split
  · rfl
  next expected hexpected =>
  obtain rfl := checkedAdd_eq_some hexpected
  split
  · rfl
  next hcontinues =>
  dsimp only [System.published]
  split
  · next hkind =>
    subst hkind
    rw [Bool.not_eq_false] at hcontinues
    cases stream with
    | depth | trade => exact ⟨by simpa [continues, TakesOn, position] using hcontinues, rfl⟩
  · cases stream <;> cases kind <;> first | rfl | contradiction

theorem failActive_position (pointer : CanonicalSourcePointer) (epoch reason : String)
    (kind : BoundaryStreamKind) :
    (pointer.failActive epoch reason).2.position kind = pointer.position kind := by
  unfold failActive
  split
  · rfl
  · split <;> rfl

end CanonicalSourcePointer

/-! ## Rotations -/

/-- The position is that of the boundaries of the activation. -/
def AtBoundary (pointer : CanonicalSourcePointer) (args : Activation) : Prop :=
  pointer.position .depth = args.depth.boundary.boundarySequence ∧
    pointer.position .trade = args.trade.boundary.boundarySequence

variable {pointer : CanonicalSourcePointer} {coordinator : LiveRotationCoordinator}
  {args : Activation}

theorem recover_atBoundary {scan : OwnershipLedgerScanV1}
    (h : CanonicalSourcePointer.recover scan (some (args.depth, args.trade)) = .ok pointer) :
    AtBoundary pointer args := by
  rw [CanonicalSourcePointer.recover, ite_err_eq_ok, bind_eq_ok] at h
  obtain ⟨-, owner, -, h⟩ := h
  rw [bind_eq_ok] at h
  obtain ⟨_, -, h⟩ := h
  rw [bind_eq_ok] at h
  obtain ⟨_, hlast, h⟩ := h
  cases h
  rcases hactivation : scan.lastActivation with _ | activation <;> rw [hactivation] at hlast
  · cases hlast
  rw [CanonicalSourcePointer.checkLastActivation, bind_eq_ok] at hlast
  obtain ⟨_, hproofs, hlast⟩ := hlast
  rw [ite_err_eq_ok, not_not] at hlast
  obtain ⟨rfl, -⟩ := hlast
  rw [validateActivationProofs, bind_eq_ok] at hproofs
  obtain ⟨_, -, hproofs⟩ := hproofs
  rw [bind_eq_ok] at hproofs
  obtain ⟨_, -, hproofs⟩ := hproofs
  simp only [ite_err_eq_ok, not_or, not_not] at hproofs
  obtain ⟨⟨-, -, -, -, -, -, -, -, -, -, hdepth, htrade, -⟩, -⟩ := hproofs
  exact ⟨hdepth, htrade⟩

theorem checkActivation_atBoundary {checked : Handover.EpochStatus × OwnershipActivationV1}
    (h : coordinator.checkActivation args = .ok checked) : AtBoundary coordinator.pointer args := by
  rw [LiveRotationCoordinator.checkActivation, ite_err_eq_ok, bind_eq_ok] at h
  obtain ⟨-, _, -, h⟩ := h
  simp only [ite_err_eq_ok, not_or, not_not] at h
  exact h.2.1.2.2

theorem activateCommitted_position (codec : LedgerCodec) (coordinator : LiveRotationCoordinator)
    (ledger : OwnershipLedgerWriter) (args : Activation) (kind : BoundaryStreamKind) :
    (coordinator.activateCommitted codec ledger args).2.1.pointer.position kind
      = coordinator.pointer.position kind := by
  unfold LiveRotationCoordinator.activateCommitted
  rcases hcheck : coordinator.checkActivation args with e | ⟨candidate, activation⟩
  · rfl
  dsimp only
  rcases ledger.prepare codec activation with ⟨e | prepareAck, ledger⟩
  · rfl
  dsimp only
  rcases ledger.activate codec activation.activationId with ⟨e | activateAck, ledger⟩
  · rfl
  dsimp only
  rcases hrescan : coordinator.awaitRescan.verifyRescan codec args candidate ledger.sink.file with
    e | recovered
  · cases kind <;> rfl
  rw [LiveRotationCoordinator.verifyRescan, bind_eq_ok] at hrescan
  obtain ⟨_, hrecover, hrescan⟩ := hrescan
  rw [ite_err_eq_ok] at hrescan
  cases hrescan.2
  -- both pointers stand at the boundaries
  have hsame : recovered.position kind = coordinator.pointer.position kind := by
    obtain ⟨hdepth, htrade⟩ := recover_atBoundary hrecover
    obtain ⟨hdepth', htrade'⟩ := checkActivation_atBoundary hcheck
    cases kind with
    | depth => exact hdepth.trans hdepth'.symm
    | trade => exact htrade.trans htrade'.symm
  dsimp only [LiveRotationCoordinator.promote]
  rcases coordinator.awaitRescan.handover.promoteCandidate with ⟨e | ⟨⟩, handover⟩
  · exact (recovered.failActive_position _ _ kind).trans hsame
  · exact hsame

theorem failActive_pointer (coordinator : LiveRotationCoordinator) (stream : BoundaryStreamKind)
    (reason : String) :
    (coordinator.failActive stream reason).2.pointer
      = (coordinator.pointer.failActive (coordinator.pointer.stream stream).1 reason).2 := by
  unfold LiveRotationCoordinator.failActive
  dsimp only
  split
  · next hfail => rw [hfail]
  · next hfail =>
    rw [hfail]
    split <;> rfl

namespace System

/-- **Step.** A call moves the position of a stream with what it publishes there. -/
theorem step_moves (codec : LedgerCodec) (system : System) (call : Call)
    (kind : BoundaryStreamKind) :
    Moves kind (system.coordinator.pointer.position kind)
      (published kind (call, (system.step codec call).1))
      ((system.step codec call).2.coordinator.pointer.position kind) := by
  cases call with
  | activate args =>
    exact activateCommitted_position codec system.coordinator system.ledger args kind
  | handover call => rfl
  | fail stream reason =>
    show (system.coordinator.failActive stream reason).2.pointer.position kind = _
    rw [failActive_pointer]
    exact system.coordinator.pointer.failActive_position _ reason kind
  | observe stream epoch fencingToken first final =>
    dsimp only [step]
    unfold LiveRotationCoordinator.acceptObservation
    split
    · rfl
    · exact system.coordinator.pointer.acceptObservation_moves stream kind epoch fencingToken first
        final

/-- **Run.** What is published on a stream takes it from its position before the run to the one
    after it, whatever rotations, failures and handovers come in between. -/
theorem publication_is_contiguous (codec : LedgerCodec) (system : System) (calls : List Call)
    (kind : BoundaryStreamKind) :
    Contiguous kind (system.coordinator.pointer.position kind)
      ((calls.zip (run (step codec) system calls).1).filterMap (published kind))
      ((after codec system calls).coordinator.pointer.position kind) := by
  unfold after
  induction calls using List.reverseRecOn with
  | nil => exact .nil
  | append_singleton calls call ih =>
    rw [run_concat, filterMap_zip_concat _ (run_outputs_length system calls).symm]
    have hmoves := step_moves codec (run (step codec) system calls).2 call kind
    revert hmoves
    rcases published kind _ with _ | range
    · rintro hmoves
      rw [Option.toList_none, List.append_nil, show _ = _ from hmoves]
      exact ih
    · rintro ⟨htakes, hnext⟩
      rw [hnext]
      exact ih.concat htakes

end System

end LobReplay.Ownership
