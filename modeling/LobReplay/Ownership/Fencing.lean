/-
  What a clean scan of an ownership ledger says about its owners. `Trail` reads the successive
  owners off the records alone, without a check; the scan accepts the records only if each owner is
  taken over by the next one under the next fencing token.

  The position an activation takes over at is its own: the scan does not compare it with the
  position of the owner before.
-/

import LobReplay.Ownership.Ledger

namespace LobReplay.Ownership

open Foundation

/-! ## The owners of a ledger -/

/-- The owners of some records, the activations behind them, and the activation prepared last. -/
structure Trail where
  owners : List SourcePointerSnapshotV1 := []
  activations : List OwnershipActivationV1 := []
  pending : Option OwnershipActivationV1 := none
  deriving DecidableEq

def Trail.record (trail : Trail) (record : OwnershipRecordV1) : Trail :=
  match record.action with
  | .initialized => { trail with owners := trail.owners ++ record.initialOwner.toList }
  | .prepared => { trail with pending := record.activation }
  | .activated =>
    { owners := trail.owners ++ (trail.pending.map (·.successorSnapshot)).toList
      activations := trail.activations ++ trail.pending.toList
      pending := none }

def ledgerRecords (codec : LedgerCodec) (file : File) : List OwnershipRecordV1 :=
  (codec.framing.bodies (file.bytes.drop ledgerMagic.length)).filterMap fun body =>
    (codec.fromSlice body).toOption

/-- The successive owners of a ledger. -/
def ledgerTrail (codec : LedgerCodec) (file : File) : Trail :=
  (ledgerRecords codec file).foldl Trail.record {}

/-- `next` takes over from `owner` through `activation`. -/
structure TakesOver (owner : SourcePointerSnapshotV1) (activation : OwnershipActivationV1)
    (next : SourcePointerSnapshotV1) : Prop where
  symbol : next.symbol = owner.symbol
  token : next.fencingToken.toNat = owner.fencingToken.toNat + 1
  generation : activation.predecessorGeneration = owner.generationId
  depthEpoch : activation.predecessorDepthEpoch = owner.depthEpoch
  tradeEpoch : activation.predecessorTradeEpoch = owner.tradeEpoch
  next_eq : next = activation.successorSnapshot

/-- What the ledger checks of an activation. -/
theorem takesOver_of_valid {owner : SourcePointerSnapshotV1} {activation : OwnershipActivationV1}
    (h : validateActivationPredecessor owner activation = .ok ()) :
    TakesOver owner activation activation.successorSnapshot := by
  rw [validateActivationPredecessor, bind_eq_ok] at h
  obtain ⟨_, _, h⟩ := h
  rw [bind_eq_ok] at h
  obtain ⟨_, hactivation, h⟩ := h
  rw [ite_err_eq_ok] at h
  simp only [not_or, not_not, ne_eq] at h
  obtain ⟨⟨hsymbol, hgeneration, hdepth, htrade, htoken⟩, -⟩ := h
  rw [OwnershipActivationV1.validate, ite_err_eq_ok] at hactivation
  have hpositive : activation.fencingToken ≠ 0 := by
    intro hzero
    apply hactivation.1
    simp only [hzero, or_true]
  have hnext : activation.fencingToken.toNat = owner.fencingToken.toNat + 1 := by
    unfold checkedAdd at htoken
    split at htoken
    · exact htoken
    · -- behind the last token there is no other one
      exact absurd (UInt64.toNat_inj.mp htoken) hpositive
  exact ⟨hsymbol, hnext, hgeneration, hdepth, htrade, rfl⟩

/-! ## Records -/

section

variable {state state' : LedgerScanState} {record : OwnershipRecordV1} {digest : FixedBytes 32}

theorem applyRecord_cases (h : applyRecord state record digest = (none, state')) :
    (record.action = .initialized ∧ state.activeOwner = none ∧ state.pending = none ∧
      ∃ owner, record.initialOwner = some owner ∧
        state' = { state with activeOwner := some owner }) ∨
    (record.action = .prepared ∧ ∃ owner activation, state.activeOwner = some owner ∧
      record.activation = some activation ∧
      validateActivationPredecessor owner activation = .ok () ∧
      state' = { state with pending := some (activation, hex digest.bytes) }) ∨
    (record.action = .activated ∧ ∃ activation preparedDigest,
      state.pending = some (activation, preparedDigest) ∧
      state' = { state with
        pending := none, activeOwner := some activation.successorSnapshot
        lastActivation := some activation }) := by
  unfold applyRecord at h
  split at h
  · cases h
  rcases haction : record.action with _ | _ | _
  · left
    simp only [haction] at h
    split at h
    · cases h
    next hfresh =>
    simp only [not_or, Bool.not_eq_true, Option.isSome_eq_false_iff, Option.isNone_iff_eq_none]
      at hfresh
    rcases howner : record.initialOwner with _ | owner
    · simp only [howner] at h
      cases h
    · simp only [howner] at h
      split at h
      · cases h
      split at h
      · cases h
      · cases h
        exact ⟨rfl, hfresh.2.1, hfresh.2.2, owner, rfl, rfl⟩
  · right
    left
    simp only [haction] at h
    rcases howner : state.activeOwner with _ | owner
    · simp only [howner] at h
      cases h
    · simp only [howner] at h
      split at h
      · cases h
      rcases hactivation : record.activation with _ | activation
      · simp only [hactivation] at h
        cases h
      · simp only [hactivation] at h
        split at h
        · cases h
        next hvalid =>
          cases h
          exact ⟨rfl, owner, activation, rfl, rfl, hvalid, rfl⟩
  · right
    right
    simp only [haction] at h
    rcases hpending : state.pending with _ | ⟨activation, preparedDigest⟩
    · simp only [hpending] at h
      cases h
    · simp only [hpending] at h
      split at h
      · cases h
      · cases h
        exact ⟨rfl, activation, preparedDigest, rfl, rfl⟩

end

/-! ## Fencing -/

/-- The scan has followed the trail, and each owner on it takes over from the one before. -/
structure Fenced (trail : Trail) (state : LedgerScanState) : Prop where
  active : trail.owners.getLast? = state.activeOwner
  pending : trail.pending = state.pending.map (·.1)
  length_eq : trail.owners = [] ∧ trail.activations = [] ∧ trail.pending = none ∨
    trail.owners.length = trail.activations.length + 1
  continues : ∀ owner activation, state.activeOwner = some owner →
    trail.pending = some activation → validateActivationPredecessor owner activation = .ok ()
  chain : ∀ (i : Nat) (owner next : SourcePointerSnapshotV1), trail.owners[i]? = some owner →
    trail.owners[i + 1]? = some next →
    ∃ activation, trail.activations[i]? = some activation ∧ TakesOver owner activation next

theorem fenced_start : Fenced {} .start where
  active := rfl
  pending := rfl
  length_eq := .inl ⟨rfl, rfl, rfl⟩
  continues _ _ h := by cases h
  chain _ _ _ h := by cases h

/-- **Step.** An accepted record keeps the trail fenced. -/
theorem Fenced.record {trail : Trail} {state state' : LedgerScanState} {record : OwnershipRecordV1}
    {digest : FixedBytes 32} (h : Fenced trail state)
    (happly : applyRecord state record digest = (none, state')) :
    Fenced (trail.record record) state' := by
  obtain ⟨haction, hnone, hpending, owner, howner, rfl⟩ |
    ⟨haction, owner, activation, howner, hactivation, hvalid, rfl⟩ |
    ⟨haction, activation, preparedDigest, hpending, rfl⟩ := applyRecord_cases happly
  · -- the first record: there is no owner before it
    have hempty : trail.owners = [] := by
      rw [← List.getLast?_eq_none_iff, h.active, hnone]
    have hidle : trail.pending = none := by
      rw [h.pending, hpending]
      rfl
    have hactivations : trail.activations = [] := by
      rcases h.length_eq with ⟨-, hnil, -⟩ | hlength
      · exact hnil
      · rw [hempty, List.length_nil] at hlength
        omega
    have htrail : trail.record record = ⟨[owner], [], none⟩ := by
      rw [Trail.record, haction]
      simp only [hempty, howner, hactivations, hidle]
      rfl
    rw [htrail]
    refine ⟨rfl, ?_, .inr rfl, ?_, ?_⟩
    · show none = state.pending.map _
      rw [hpending]
      rfl
    · intro _ _ _ hnone
      cases hnone
    · intro i first next hfirst hnext
      rw [List.getElem?_eq_none (by simp)] at hnext
      cases hnext
  · have htrail : trail.record record = { trail with pending := some activation } := by
      rw [Trail.record, haction]
      simp only [hactivation]
    rw [htrail]
    refine ⟨h.active, rfl, ?_, ?_, h.chain⟩
    · rcases h.length_eq with ⟨hnil, -, -⟩ | hlength
      · have hlast := h.active
        rw [hnil, howner] at hlast
        cases hlast
      · exact .inr hlength
    · intro current other hcurrent hother
      cases hother
      rw [howner] at hcurrent
      cases hcurrent
      exact hvalid
  · have hlast : trail.pending = some activation := by
      rw [h.pending, hpending]
      rfl
    have hlength : trail.owners.length = trail.activations.length + 1 := by
      rcases h.length_eq with ⟨-, -, hnone⟩ | hlength
      · rw [hnone] at hlast
        cases hlast
      · exact hlength
    obtain ⟨owner, howner⟩ : ∃ owner, trail.owners.getLast? = some owner := by
      apply Option.ne_none_iff_exists'.mp
      rw [ne_eq, List.getLast?_eq_none_iff]
      intro hnil
      rw [hnil, List.length_nil] at hlength
      omega
    have hvalid := h.continues owner activation (h.active ▸ howner) hlast
    have htrail : trail.record record = ⟨trail.owners ++ [activation.successorSnapshot],
        trail.activations ++ [activation], none⟩ := by
      rw [Trail.record, haction]
      simp only [hlast]
      rfl
    rw [htrail]
    refine ⟨List.getLast?_concat, rfl, .inr ?_, ?_, ?_⟩
    · simp only [List.length_append, List.length_singleton, hlength]
    · intro _ _ _ hnone
      cases hnone
    · intro i first next hfirst hnext
      dsimp only at hfirst hnext ⊢
      by_cases hi : i + 1 < trail.owners.length
      · rw [List.getElem?_append_left (by omega)] at hfirst
        rw [List.getElem?_append_left hi] at hnext
        obtain ⟨earlier, hearlier, htakes⟩ := h.chain i first next hfirst hnext
        refine ⟨earlier, ?_, htakes⟩
        rw [List.getElem?_append_left (by omega)]
        exact hearlier
      · -- the last pair: the new owner and the one that was active
        obtain ⟨hbound, -⟩ := List.getElem?_eq_some_iff.mp hnext
        rw [List.length_append, List.length_singleton] at hbound
        have hi' : i + 1 = trail.owners.length := by omega
        rw [hi', List.getElem?_concat_length, Option.some.injEq] at hnext
        rw [List.getElem?_append_left (by omega)] at hfirst
        rw [List.getLast?_eq_getElem?, ← hi', Nat.add_sub_cancel, hfirst,
          Option.some.injEq] at howner
        refine ⟨activation, ?_, ?_⟩
        · rw [show i = trail.activations.length by omega]
          exact List.getElem?_concat_length
        · rw [howner, ← hnext]
          exact takesOver_of_valid hvalid

/-- **Run.** Accepted bodies are fenced. -/
theorem fenced_run {codec : LedgerCodec} {bodies : List Bytes} {state : LedgerScanState}
    (h : bodies.foldlM (Framing.accept (visitRecord codec)) .start = some state) :
    Fenced ((bodies.filterMap fun body => (codec.fromSlice body).toOption).foldl Trail.record {})
      state := by
  induction bodies using List.reverseRecOn generalizing state with
  | nil =>
    cases h
    exact fenced_start
  | append_singleton bodies body ih =>
    obtain ⟨middle, hbefore, hlast⟩ := Framing.foldlM_accept_concat.mp h
    have hfenced := ih hbefore
    rw [visitRecord] at hlast
    rcases hparse : codec.fromSlice body with e | record
    · rw [hparse] at hlast
      cases hlast
    · rw [hparse] at hlast
      dsimp only at hlast
      rcases happly : applyRecord middle record (codec.digest body) with ⟨_ | failure, next⟩
      · rw [happly] at hlast
        cases hlast
        have hnext := hfenced.record happly
        rw [List.filterMap_append, List.foldl_append, List.filterMap_cons, hparse]
        exact ⟨hnext.active, hnext.pending, hnext.length_eq, hnext.continues, hnext.chain⟩
      · rw [happly] at hlast
        cases hlast

/-- **Fencing.** In every ledger that scans cleanly, each owner takes over from the one before it
    under the next fencing token, and the last one is the active owner. -/
theorem ownership_is_fenced {codec : LedgerCodec} {file : File}
    (hclean : (scanOwnershipLedger codec file).cleanEof = true) :
    (ledgerTrail codec file).owners.getLast? = (scanOwnershipLedger codec file).activeOwner ∧
    ∀ (i : Nat) (owner next : SourcePointerSnapshotV1),
      (ledgerTrail codec file).owners[i]? = some owner →
      (ledgerTrail codec file).owners[i + 1]? = some next →
      ∃ activation, (ledgerTrail codec file).activations[i]? = some activation ∧
        TakesOver owner activation next := by
  unfold scanOwnershipLedger at hclean ⊢
  split at hclean
  · cases hclean
  next hmagic =>
  rw [if_neg hmagic]
  rcases hscan : codec.framing.scan (visitRecord codec) .start
      (file.bytes.drop ledgerMagic.length) with ⟨_ | stop, state⟩
  · obtain ⟨bodies, hbytes, hadmits, hfold⟩ := Framing.scans_of_scan hscan
    have hfenced := fenced_run hfold
    have htrail : ledgerTrail codec file
        = (bodies.filterMap fun body => (codec.fromSlice body).toOption).foldl Trail.record {} := by
      rw [ledgerTrail, ledgerRecords, hbytes, Framing.bodies_frames hadmits]
    rw [htrail]
    exact ⟨hfenced.active, hfenced.chain⟩
  · rw [hscan] at hclean
    cases hclean

/-! ## A ledger that goes back -/

/-- An owner at depth 100. -/
def aheadOwner : SourcePointerSnapshotV1 :=
  ⟨"SourcePointerSnapshotV1", "BTCUSDT", "g-a", "d-a", "t-a", 1, 100, 200⟩

/-- An activation that takes over at depth 50. -/
def backwardActivation : OwnershipActivationV1 where
  schema := "OwnershipActivationV1"
  activationId := "act-1"
  symbol := "BTCUSDT"
  predecessorGeneration := "g-a"
  successorGeneration := "g-b"
  predecessorDepthEpoch := "d-a"
  predecessorTradeEpoch := "t-a"
  successorDepthEpoch := "d-b"
  successorTradeEpoch := "t-b"
  depthBoundaryId := "b-d"
  tradeBoundaryId := "b-t"
  depthCommitRecordSha256 := "aaaaaaaaaaaaaaaaaaaaaaaaaaaaaaaaaaaaaaaaaaaaaaaaaaaaaaaaaaaaaaaa"
  tradeCommitRecordSha256 := "bbbbbbbbbbbbbbbbbbbbbbbbbbbbbbbbbbbbbbbbbbbbbbbbbbbbbbbbbbbbbbbb"
  depthBoundarySequence := 50
  tradeBoundarySequence := 200
  fencingToken := 2

def backwardRecords : List (OwnershipRecordV1 × Nat) :=
  rotationRecords aheadOwner backwardActivation
    0x4e334eb57101d670157a1323e68ec37e4ef87f67547622e6b54a51071b43ac28
    0x495b848705ad86c43415e071eaac25069fa08933ccf2903d56399129fed9552e
    0x7abca9063d7b665a2e5b4c20c84a31796f67d2fb7ec0e148c18c314221d746d0

def backwardLedger : File where
  bytes := ledgerMagic ++ (knownLedgerCodec backwardRecords).framing.frames
    (backwardRecords.map fun known => recordText known.1)
  length_le := by decide +kernel

theorem backwardLedger_clean :
    (scanOwnershipLedger (knownLedgerCodec backwardRecords) backwardLedger).cleanEof = true := by
  decide +kernel

theorem backwardLedger_trail : ledgerTrail (knownLedgerCodec backwardRecords) backwardLedger
    = ⟨[aheadOwner, backwardActivation.successorSnapshot], [backwardActivation], none⟩ := by
  decide +kernel

/-- The second owner of this ledger takes over from the first. -/
theorem backward_ledger_is_fenced :
    ∃ activation, (ledgerTrail (knownLedgerCodec backwardRecords) backwardLedger).activations[0]?
        = some activation ∧
      TakesOver aheadOwner activation backwardActivation.successorSnapshot := by
  refine (ownership_is_fenced backwardLedger_clean).2 0 _ _ ?_ ?_
  · rw [backwardLedger_trail]
    rfl
  · rw [backwardLedger_trail]
    rfl

/-- The ledger scans cleanly, and its second owner stands at an earlier position than the first. -/
theorem activation_at_an_earlier_position :
    (scanOwnershipLedger (knownLedgerCodec backwardRecords) backwardLedger).cleanEof = true ∧
    (ledgerTrail (knownLedgerCodec backwardRecords) backwardLedger).owners.map
      (fun owner => (owner.fencingToken, owner.depthLastSequence, owner.tradeLastSequence))
      = [(1, 100, 200), (2, 50, 200)] := by
  refine ⟨backwardLedger_clean, ?_⟩
  rw [backwardLedger_trail]
  rfl

end LobReplay.Ownership
