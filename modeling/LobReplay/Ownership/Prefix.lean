/-
  What a scan of the ownership ledger reports besides its verified prefix. A rejected trailing
  record leaves the report as it is, but for one kind: an activation that continues the ledger
  behind a prepared record and does not refer to it has taken what was pending before it is compared
  with it, and the scan reports nothing as pending (`Spoiled`).
-/

import LobReplay.Ownership.Fencing

namespace LobReplay.Ownership

open Foundation

/-! ## Reports -/

structure SameReport (scan scan' : OwnershipLedgerScanV1) : Prop where
  records_eq : scan.records = scan'.records
  activeOwner_eq : scan.activeOwner = scan'.activeOwner
  pendingActivation_eq : scan.pendingActivation = scan'.pendingActivation
  lastActivation_eq : scan.lastActivation = scan'.lastActivation
  lastRecordSha256_eq : scan.lastRecordSha256 = scan'.lastRecordSha256

/-- A scan reports what its verified prefix holds. -/
def ReportsPrefix (codec : LedgerCodec) (file : File) : Prop :=
  SameReport (scanOwnershipLedger codec file)
    (scanOwnershipLedger codec (file.cut (scanOwnershipLedger codec file).lastGoodOffset))

/-- The record of `body` is an activation that continues the ledger as its record `index`, behind
    `prepared`, and does not refer to it. -/
def Mismatched (codec : LedgerCodec) (index : Nat) (prepared body : Bytes) : Prop :=
  ∃ record, codec.fromSlice body = .ok record ∧ record.schema = "OwnershipRecordV1" ∧
    record.recordIndex = index ∧ record.previousRecordSha256 = hex (codec.digest prepared).bytes ∧
    record.action = .activated ∧ (record.initialOwner.isSome ∨ record.activation.isSome ∨
      record.preparedRecordSha256 ≠ some (hex (codec.digest prepared).bytes))

/-- The ledger has accepted records, the last one prepares an activation, and the record behind
    them is an activation that does not refer to it. -/
def Spoiled (codec : LedgerCodec) (file : File) : Prop :=
  ∃ bodies prepared body rest state record,
    file.bytes = ledgerMagic ++ (codec.framing.frames (bodies ++ [prepared]) ++
      (codec.framing.frame body ++ rest)) ∧
    (∀ b ∈ bodies ++ [prepared], codec.framing.admits b.length = true) ∧
    codec.framing.admits body.length = true ∧
    (bodies ++ [prepared]).foldlM (Framing.accept (visitRecord codec)) .start = some state ∧
    codec.fromSlice prepared = .ok record ∧ record.action = .prepared ∧
    Mismatched codec (bodies.length + 1) prepared body

/-! ## Accepted records -/

structure Behind (codec : LedgerCodec) (bodies : List Bytes) (state : LedgerScanState) : Prop where
  records_eq : state.records = bodies.length
  offset_eq : state.lastGoodOffset = ledgerMagic.length + (codec.framing.frames bodies).length
  previous_eq : ∀ before last, bodies = before ++ [last] →
    state.previous = hex (codec.digest last).bytes
  /-- What is pending has been prepared by the last record. -/
  pending_some : ∀ activation digest, state.pending = some (activation, digest) →
    ∃ before prepared record, bodies = before ++ [prepared] ∧
      codec.fromSlice prepared = .ok record ∧ record.action = .prepared ∧
      digest = hex (codec.digest prepared).bytes
  /-- What the last record has prepared is pending. -/
  prepared_pending : ∀ before prepared record, bodies = before ++ [prepared] →
    codec.fromSlice prepared = .ok record → record.action = .prepared →
    ∃ activation, state.pending = some (activation, hex (codec.digest prepared).bytes)

section

variable {codec : LedgerCodec} {bodies : List Bytes} {state state' : LedgerScanState} {body : Bytes}
  {record : OwnershipRecordV1}

theorem visitRecord_accepted (h : visitRecord codec state body = (none, state')) :
    ∃ record middle, codec.fromSlice body = .ok record ∧
      applyRecord state record (codec.digest body) = (none, middle) ∧
      state' = { middle with
        records := middle.records + 1
        lastGoodOffset := middle.lastGoodOffset + (4 + body.length + 32)
        previous := hex (codec.digest body).bytes } := by
  unfold visitRecord at h
  rcases hparse : codec.fromSlice body with e | record
  · rw [hparse] at h
    cases h
  · rw [hparse] at h
    dsimp only at h
    rcases happly : applyRecord state record (codec.digest body) with ⟨_ | failure, middle⟩
    · rw [happly] at h
      cases h
      exact ⟨record, middle, rfl, happly, rfl⟩
    · rw [happly] at h
      cases h

/-- **Step.** One more accepted record. -/
theorem Behind.append (h : Behind codec bodies state)
    (hvisit : visitRecord codec state body = (none, state')) :
    Behind codec (bodies ++ [body]) state' := by
  obtain ⟨record, middle, hparse, happly, rfl⟩ := visitRecord_accepted hvisit
  -- a record counts as one only behind the closure
  have hkeeps : middle.records = state.records ∧ middle.lastGoodOffset = state.lastGoodOffset := by
    rcases applyRecord_cases happly with ⟨-, -, -, owner, -, rfl⟩ |
      ⟨-, owner, activation, -, -, -, rfl⟩ | ⟨-, activation, preparedDigest, -, rfl⟩ <;>
      exact ⟨rfl, rfl⟩
  refine ⟨?_, ?_, ?_, ?_, ?_⟩
  · rw [List.length_append, List.length_singleton]
    exact congrArg (· + 1) (hkeeps.1.trans h.records_eq)
  · rw [Framing.frames_concat, List.length_append, Framing.frame_length]
    show middle.lastGoodOffset + _ = _
    rw [hkeeps.2, h.offset_eq]
    omega
  · intro before last hlast
    obtain ⟨-, hbody⟩ := List.append_inj' hlast rfl
    cases hbody
    rfl
  · intro activation digest hpending
    change middle.pending = _ at hpending
    refine ⟨bodies, body, record, rfl, hparse, ?_⟩
    rcases applyRecord_cases happly with ⟨-, -, hnone, owner, -, rfl⟩ |
      ⟨haction, owner, activation', -, -, -, rfl⟩ | ⟨-, activation', preparedDigest, -, rfl⟩
    · rw [hnone] at hpending
      cases hpending
    · cases hpending
      exact ⟨haction, rfl⟩
    · cases hpending
  · intro before prepared record' hlast hparse' haction
    obtain ⟨-, hbody⟩ := List.append_inj' hlast rfl
    cases hbody
    rw [hparse] at hparse'
    cases hparse'
    rcases applyRecord_cases happly with ⟨hother, -⟩ | ⟨-, owner, activation, -, -, -, rfl⟩ |
      ⟨hother, -⟩
    · rw [haction] at hother
      cases hother
    · exact ⟨activation, rfl⟩
    · rw [haction] at hother
      cases hother

/-- **Run.** Where a scan stands. -/
theorem behind_run (h : bodies.foldlM (Framing.accept (visitRecord codec)) .start = some state) :
    Behind codec bodies state := by
  induction bodies using List.reverseRecOn generalizing state with
  | nil =>
    cases h
    refine ⟨rfl, rfl, ?_, ?_, ?_⟩
    · intro before last hlast
      cases before <;> cases hlast
    · intro activation digest hpending
      cases hpending
    · intro before prepared record hlast
      cases before <;> cases hlast
  | append_singleton bodies body ih =>
    obtain ⟨middle, hbefore, hlast⟩ := Framing.foldlM_accept_concat.mp h
    exact (ih hbefore).append hlast

/-! ## Refused records -/

theorem applyRecord_refused {digest : FixedBytes 32} {failure : Failure}
    (h : applyRecord state record digest = (some failure, state')) :
    state' = state ∨
    (record.schema = "OwnershipRecordV1" ∧ record.recordIndex = state.records ∧
      record.previousRecordSha256 = state.previous ∧ record.action = .activated ∧
      ∃ activation preparedDigest, state.pending = some (activation, preparedDigest) ∧
        (record.initialOwner.isSome ∨ record.activation.isSome ∨
          record.preparedRecordSha256 ≠ some preparedDigest) ∧
        state' = { state with pending := none }) := by
  unfold applyRecord at h
  split at h
  · cases h
    exact Or.inl rfl
  next hchain =>
  simp only [not_or, not_not, ne_eq] at hchain
  rcases haction : record.action with _ | _ | _
  · left
    simp only [haction] at h
    split at h
    · cases h
      rfl
    split at h
    · cases h
      rfl
    split at h
    · cases h
      rfl
    split at h
    · cases h
      rfl
    · cases h
  · left
    simp only [haction] at h
    split at h
    · cases h
      rfl
    split at h
    · cases h
      rfl
    split at h
    · cases h
      rfl
    split at h
    · cases h
      rfl
    · cases h
  · simp only [haction] at h
    rcases hpending : state.pending with _ | ⟨activation, preparedDigest⟩
    · simp only [hpending] at h
      cases h
      exact Or.inl rfl
    · right
      simp only [hpending] at h
      split at h
      · next hmismatch =>
        cases h
        exact ⟨hchain.1, hchain.2.1, hchain.2.2, rfl, activation, preparedDigest, rfl, hmismatch,
          rfl⟩
      · cases h

/-- **Step.** A rejected body has changed nothing, or it is an activation that does not refer to
    what is pending. -/
theorem Behind.refused (h : Behind codec bodies state) {reason : String}
    (hvisit : visitRecord codec state body = (some reason, state')) :
    state' = state ∨ ∃ before prepared record activation digest, bodies = before ++ [prepared] ∧
      codec.fromSlice prepared = .ok record ∧ record.action = .prepared ∧
      Mismatched codec (before.length + 1) prepared body ∧
      state.pending = some (activation, digest) ∧ state' = { state with pending := none } := by
  unfold visitRecord at hvisit
  rcases hparse : codec.fromSlice body with e | record
  · rw [hparse] at hvisit
    cases hvisit
    exact Or.inl rfl
  rw [hparse] at hvisit
  dsimp only at hvisit
  rcases happly : applyRecord state record (codec.digest body) with ⟨_ | failure, middle⟩
  · rw [happly] at hvisit
    cases hvisit
  rw [happly] at hvisit
  cases hvisit
  rcases applyRecord_refused happly with hsame | ⟨hschema, hindex, hprevious, haction, activation,
    digest, hpending, hmismatch, htaken⟩
  · exact Or.inl hsame
  · obtain ⟨before, prepared, record', hlast, hparse', haction', rfl⟩ :=
      h.pending_some activation digest hpending
    refine Or.inr ⟨before, prepared, record', activation, _, hlast, hparse', haction', ?_, hpending,
      htaken⟩
    refine ⟨record, hparse, hschema, ?_, ?_, haction, hmismatch⟩
    · rw [hindex, h.records_eq, hlast, List.length_append, List.length_singleton]
    · rw [hprevious, h.previous_eq before prepared hlast]

/-- **Step.** An activation that does not refer to what is pending is refused, and has taken it. -/
theorem Behind.mismatched {before : List Bytes} {prepared : Bytes}
    (h : Behind codec (before ++ [prepared]) state) (hparse : codec.fromSlice prepared = .ok record)
    (haction : record.action = .prepared)
    (hmismatch : Mismatched codec (before.length + 1) prepared body) :
    ∃ activation, state.pending = some (activation, hex (codec.digest prepared).bytes) ∧
      visitRecord codec state body
        = (some "ownership activation reference mismatch", { state with pending := none }) := by
  obtain ⟨activation, hpending⟩ := h.prepared_pending before prepared record rfl hparse haction
  obtain ⟨record', hparse', hschema, hindex, hprevious, haction', hfields⟩ := hmismatch
  refine ⟨activation, hpending, ?_⟩
  have hrecords : state.records = before.length + 1 := by
    rw [h.records_eq, List.length_append, List.length_singleton]
  have hchain : ¬ (record'.schema ≠ "OwnershipRecordV1" ∨ record'.recordIndex ≠ state.records ∨
      record'.previousRecordSha256 ≠ state.previous) := by
    rw [hrecords, h.previous_eq before prepared rfl]
    simp [hschema, hindex, hprevious]
  have happly : applyRecord state record' (codec.digest body)
      = (some (.err "ownership activation reference mismatch"),
          { state with pending := none }) := by
    unfold applyRecord
    rw [if_neg hchain]
    simp only [haction', hpending]
    rw [if_pos hfields]
  unfold visitRecord
  rw [hparse']
  dsimp only
  rw [happly]
  rfl

end

/-! ## The verified prefix -/

section

variable {codec : LedgerCodec} {file : File} {bodies : List Bytes} {rest : Bytes}
  {state : LedgerScanState}

/-- What a scan that stops in `state` reports. -/
theorem scanOwnershipLedger_eq {stop : Option (Stop String)}
    (hbytes : file.bytes = ledgerMagic ++ rest)
    (hscan : codec.framing.scan (visitRecord codec) .start rest = (stop, state)) :
    scanOwnershipLedger codec file
      = { schema := "OwnershipLedgerScanV1", fileSize := file.len, records := state.records
          lastGoodOffset := state.lastGoodOffset, cleanEof := stop.isNone
          reason := stop.map stopReason, activeOwner := state.activeOwner
          pendingActivation := state.pending.map (·.1), lastActivation := state.lastActivation
          lastRecordSha256 := state.previous } := by
  have htake : file.bytes.take ledgerMagic.length = ledgerMagic := by
    rw [hbytes, List.take_left]
  have hdrop : file.bytes.drop ledgerMagic.length = rest := by
    rw [hbytes, List.drop_left]
  unfold scanOwnershipLedger
  rw [if_neg (not_not.mpr htake), hdrop, hscan]

theorem scanOwnershipLedger_unmagic (h : file.bytes.take ledgerMagic.length ≠ ledgerMagic) :
    scanOwnershipLedger codec file
      = { schema := "OwnershipLedgerScanV1", fileSize := file.len, records := 0, lastGoodOffset := 0
          cleanEof := false, reason := some "bad ownership ledger magic", activeOwner := none
          pendingActivation := none, lastActivation := none, lastRecordSha256 := zeroDigest } :=
  if_pos h

theorem scan_front (hbytes : file.bytes = ledgerMagic ++ (codec.framing.frames bodies ++ rest))
    (hadmits : ∀ b ∈ bodies, codec.framing.admits b.length = true)
    (hfold : bodies.foldlM (Framing.accept (visitRecord codec)) .start = some state) :
    scanOwnershipLedger codec (file.cut state.lastGoodOffset)
      = { schema := "OwnershipLedgerScanV1", fileSize := (file.cut state.lastGoodOffset).len
          records := state.records, lastGoodOffset := state.lastGoodOffset, cleanEof := true
          reason := none, activeOwner := state.activeOwner
          pendingActivation := state.pending.map (·.1), lastActivation := state.lastActivation
          lastRecordSha256 := state.previous } := by
  have hcut : (file.cut state.lastGoodOffset).bytes
      = ledgerMagic ++ codec.framing.frames bodies := by
    rw [File.cut_bytes, hbytes, ← List.append_assoc]
    apply List.take_left'
    rw [List.length_append, (behind_run hfold).offset_eq]
  have hscan : codec.framing.scan (visitRecord codec) .start (codec.framing.frames bodies)
      = (none, state) := Framing.Scans.scan_eq ⟨bodies, rfl, hadmits, hfold⟩
  exact scanOwnershipLedger_eq hcut hscan

end

/-- A scan reports its verified prefix, unless the ledger is spoiled. -/
theorem reports_prefix_iff (codec : LedgerCodec) (file : File) :
    ReportsPrefix codec file ↔ ¬ Spoiled codec file := by
  constructor
  · rintro hreports ⟨bodies, prepared, body, rest, state, record, hbytes, hadmits, hbody, hfold,
      hparse, haction, hmismatch⟩
    have hbehind := behind_run hfold
    obtain ⟨activation, hpending, hvisit⟩ := hbehind.mismatched hparse haction hmismatch
    have hscan : codec.framing.scan (visitRecord codec) .start
        (codec.framing.frames (bodies ++ [prepared]) ++ (codec.framing.frame body ++ rest))
        = (some (.refused "ownership activation reference mismatch"),
            { state with pending := none }) := by
      rw [Framing.scan_frames_append _ hadmits hfold, Framing.scan_append_frame hbody, hvisit]
    have hwhole := scanOwnershipLedger_eq hbytes hscan
    have hsame := hreports.pendingActivation_eq
    rw [hwhole] at hsame
    dsimp only at hsame
    rw [scan_front hbytes hadmits hfold, hpending] at hsame
    cases hsame
  · intro hsound
    by_cases hmagic : file.bytes.take ledgerMagic.length = ledgerMagic
    · -- the ledger is its accepted records and a rest
      have hbytes : file.bytes = ledgerMagic ++ file.bytes.drop ledgerMagic.length := by
        conv_lhs => rw [← List.take_append_drop ledgerMagic.length file.bytes, hmagic]
      obtain ⟨bodies, state, rest, hrest, hadmits, hfold, hstops⟩ :=
        Framing.scan_cases codec.framing (visitRecord codec) .start
          (file.bytes.drop ledgerMagic.length)
      have hall : file.bytes = ledgerMagic ++ (codec.framing.frames bodies ++ rest) := by
        rw [← hrest]
        exact hbytes
      have hsame : ∀ stop state', codec.framing.scan (visitRecord codec) .start
          (file.bytes.drop ledgerMagic.length) = (stop, state') → state' = state →
          ReportsPrefix codec file := by
        rintro stop state' hscan rfl
        unfold ReportsPrefix
        rw [scanOwnershipLedger_eq hbytes hscan]
        dsimp only
        rw [scan_front hall hadmits hfold]
        exact ⟨rfl, rfl, rfl, rfl, rfl⟩
      generalize hscan : codec.framing.scan (visitRecord codec) .start
        (file.bytes.drop ledgerMagic.length) = outcome at hstops
      cases hstops with
      | done => exact hsame _ _ hscan rfl
      | broken hfront => exact hsame _ _ hscan rfl
      | refused hbody hvisit =>
        rcases (behind_run hfold).refused hvisit with hstate |
          ⟨before, prepared, record, activation, digest, rfl, hparse, haction, hmismatch, -, -⟩
        · exact hsame _ _ hscan hstate
        · exact absurd ⟨before, prepared, _, _, state, record, hall, hadmits, hbody, hfold, hparse,
            haction, hmismatch⟩ hsound
    · -- without its magic a ledger has no verified prefix
      have hempty : (file.cut 0).bytes.take ledgerMagic.length ≠ ledgerMagic := by
        rw [File.cut_bytes, List.take_zero, List.take_nil]
        decide
      have hoffset : (scanOwnershipLedger codec file).lastGoodOffset = 0 := by
        rw [scanOwnershipLedger_unmagic hmagic]
      unfold ReportsPrefix
      rw [hoffset, scanOwnershipLedger_unmagic hmagic, scanOwnershipLedger_unmagic hempty]
      exact ⟨rfl, rfl, rfl, rfl, rfl⟩

/-! ## A spoiled ledger -/

/-- A ledger whose activation refers to the initialization. -/
def strayRecords : List (OwnershipRecordV1 × Nat) :=
  rotationRecords aheadOwner backwardActivation 1 2 3 ++
    [(⟨"OwnershipRecordV1", 2, .activated, none, none, some (hex (beBytes 32 1)),
      hex (beBytes 32 2)⟩, 4)]

/-- The ledger of its records: the initialization, the preparation and the stray activation. -/
def strayLedger : File where
  bytes := ledgerMagic ++ (knownLedgerCodec strayRecords).framing.frames
    ([0, 1, 3].filterMap fun i => (strayRecords[i]?).map fun known => recordText known.1)
  length_le := by decide +kernel

theorem strayLedger_scan : scanOwnershipLedger (knownLedgerCodec strayRecords) strayLedger
    = { schema := "OwnershipLedgerScanV1", fileSize := 1627, records := 2, lastGoodOffset := 1300
        cleanEof := false, reason := some "ownership activation reference mismatch"
        activeOwner := some aheadOwner, pendingActivation := none, lastActivation := none
        lastRecordSha256 := hex (beBytes 32 2) } := by
  decide +kernel

/-- The scan reports nothing as pending where its verified prefix has a prepared activation. -/
theorem stray_activation_is_taken :
    (scanOwnershipLedger (knownLedgerCodec strayRecords) strayLedger).pendingActivation = none ∧
    (scanOwnershipLedger (knownLedgerCodec strayRecords) (strayLedger.cut
      (scanOwnershipLedger (knownLedgerCodec strayRecords) strayLedger).lastGoodOffset)
      ).pendingActivation = some backwardActivation ∧
    ¬ ReportsPrefix (knownLedgerCodec strayRecords) strayLedger := by
  have hcut : (scanOwnershipLedger (knownLedgerCodec strayRecords)
      (strayLedger.cut 1300)).pendingActivation = some backwardActivation := by
    decide +kernel
  refine ⟨?_, ?_, ?_⟩
  · rw [strayLedger_scan]
  · rw [strayLedger_scan]
    exact hcut
  · intro hreports
    have hpending := hreports.pendingActivation_eq
    rw [strayLedger_scan] at hpending
    rw [hcut] at hpending
    cases hpending

end LobReplay.Ownership
