/-
  The writer and the scan of the canonical output agree over whole runs: after every call on a sink
  that does not fail, the scan of the journal is clean and ends where the writer stands, so a writer
  resumed from it goes on alike.

  One call breaks it. `checked_add(1).unwrap_or(0)` lets the writer change from the last fencing
  token to the token 0, which the identity check of the scan refuses (`Exhausts`).
-/

import LobReplay.Canonical.Output
import LobReplay.Known

namespace LobReplay.Canonical

open Foundation
open Raw (Sink)
open CanonicalOutputWriter

section

variable {codec : OutputCodec} {bytes body : Bytes} {state : OutputScanState}
  {record : CanonicalOutputRecordV1} {file : File}

/-! ## Journals -/

/-- The journal is one of accepted records, behind which the scan is in `state`. -/
def Scans (codec : OutputCodec) (bytes : Bytes) (state : OutputScanState) : Prop :=
  ∃ stream, bytes = outputMagic ++ stream ∧
    codec.framing.Scans (visitRecord codec) .start stream state

theorem framing_admits (hne : body ≠ []) (hle : body.length ≤ maxRecordBytes) :
    codec.framing.admits body.length = true := by
  have hpos : body.length ≠ 0 := by
    intro h
    exact hne (List.length_eq_zero_iff.mp h)
  show (decide (body.length ≠ 0) && decide (body.length ≤ maxRecordBytes)) = true
  rw [decide_eq_true hpos, decide_eq_true hle]
  rfl

/-- The journal that holds the magic alone. -/
theorem scans_magic : Scans codec outputMagic .start :=
  ⟨[], (List.append_nil _).symm, Framing.Scans.nil⟩

theorem Scans.append (h : Scans codec bytes state) (hadmits : codec.framing.admits body.length = true)
    (hparse : codec.fromSlice body = .ok record) (hvalid : validateScannedRecord record state = .ok ()) :
    Scans codec (bytes ++ codec.framing.frame body) (state.next codec body record) := by
  obtain ⟨stream, rfl, hscans⟩ := h
  refine ⟨stream ++ codec.framing.frame body, List.append_assoc _ _ _, hscans.append hadmits ?_⟩
  rw [visitRecord, hparse]
  simp only [hvalid]

/-- The scan of such a journal ends cleanly. -/
theorem Scans.scan (h : Scans codec file.bytes state) :
    scanCanonicalOutput codec file = .ok
      { schema := "CanonicalOutputScanV1", records := state.records
        observations := state.observations, ownershipChanges := state.ownershipChanges
        lastGoodOffset := state.offset, cleanEof := state.offset == file.len
        reason := none, symbol := state.symbol, streamKind := state.streamKind
        owner := state.owner, lastObservation := state.lastObservation
        lastRecordSha256 := state.previous } := by
  obtain ⟨stream, hbytes, hscans⟩ := h
  have hmagic : file.bytes.take outputMagic.length = outputMagic := by
    rw [hbytes]
    exact List.take_left
  have hrest : file.bytes.drop outputMagic.length = stream := by
    rw [hbytes]
    exact List.drop_left
  unfold scanCanonicalOutput
  rw [if_neg (not_not.mpr hmagic), hrest, hscans.scan_eq]
  simp only [Option.isNone_none, Bool.true_and, Option.map_none]

theorem Scans.refused {scan : CanonicalOutputScanV1} {e : Failure} (h : Scans codec bytes state)
    (hbytes : file.bytes = bytes ++ codec.framing.frame body)
    (hadmits : codec.framing.admits body.length = true) (hparse : codec.fromSlice body = .ok record)
    (hinvalid : validateScannedRecord record state = .error e)
    (hscan : scanCanonicalOutput codec file = .ok scan) : scan.cleanEof = false := by
  obtain ⟨stream, rfl, hscans⟩ := h
  rw [List.append_assoc] at hbytes
  have hrest : file.bytes.drop outputMagic.length = stream ++ codec.framing.frame body := by
    rw [hbytes]
    exact List.drop_left
  have hstop : codec.framing.scan (visitRecord codec) .start (file.bytes.drop outputMagic.length)
      = (some (.refused "invalid canonical output transition/continuity"), state) := by
    rw [hrest, hscans.scan_append, ← List.append_nil (codec.framing.frame body),
      Framing.scan_append_frame hadmits, visitRecord, hparse]
    simp only [hinvalid]
  unfold scanCanonicalOutput at hscan
  rw [hstop] at hscan
  split at hscan
  · cases hscan
  · cases hscan
    rfl

end

/-! ## Appending -/

namespace CanonicalOutputWriter

/-- A record that is serialized within the size limit. -/
def Fits (codec : OutputCodec) (record : CanonicalOutputRecordV1) : Prop :=
  ∃ body, codec.toVec record = .ok body ∧ body.length ≤ maxRecordBytes

section

variable (codec : OutputCodec) {writer : CanonicalOutputWriter}

theorem appendRecord_cases (hopen : writer.poisoned = false) (action : CanonicalOutputAction)
    (owner : CanonicalOutputOwnerV1) (observation : Option CanonicalObservationV1)
    (activationSha256 : Option String) :
    (¬ Fits codec (writer.record action owner observation activationSha256) ∧
      ∃ e, writer.appendRecord codec action owner observation activationSha256
        = (.error e, writer)) ∨
    (∃ e writer', writer.appendRecord codec action owner observation activationSha256
        = (.error e, writer') ∧ writer'.sink.failed = true) ∨
    ∃ body sink, codec.toVec (writer.record action owner observation activationSha256) = .ok body ∧
      body.length ≤ maxRecordBytes ∧
      writer.appendRecord codec action owner observation activationSha256
        = (.ok ((writer.advance codec sink body).ack action owner),
            writer.advance codec sink body) ∧
      sink.file.bytes = writer.sink.file.bytes ++ codec.framing.frame body ∧
      sink.failed = writer.sink.failed := by
  unfold appendRecord
  rw [hopen]
  simp only [Bool.false_eq_true, if_false]
  rcases hvec : codec.toVec (writer.record action owner observation activationSha256) with e | body
  · refine .inl ⟨?_, _, rfl⟩
    rintro ⟨body, hbody, -⟩
    rw [hvec] at hbody
    cases hbody
  · dsimp only
    by_cases hlong : maxRecordBytes < body.length
    · refine .inl ⟨?_, ?_⟩
      · rintro ⟨other, hother, hle⟩
        rw [hvec] at hother
        cases hother
        omega
      · rw [if_pos hlong]
        exact ⟨_, rfl⟩
    · rw [if_neg hlong]
      rcases writer.sink.writeSynced_cases (codec.framing.frame body) with
        ⟨sink, hwrite, hbytes, hfailed⟩ | ⟨e, sink, k, hwrite, -, hfailed⟩
      · refine .inr (.inr ⟨body, sink, rfl, Nat.le_of_not_lt hlong, ?_, hbytes, hfailed⟩)
        rw [hwrite]
      · refine .inr (.inl ?_)
        rw [hwrite]
        exact ⟨_, _, rfl, hfailed⟩

theorem appendRecord_failed (action : CanonicalOutputAction) (owner : CanonicalOutputOwnerV1)
    (observation : Option CanonicalObservationV1) (activationSha256 : Option String)
    (h : writer.sink.failed = true) :
    (writer.appendRecord codec action owner observation activationSha256).2.sink.failed = true := by
  rcases hopen : writer.poisoned with _ | _
  · rcases appendRecord_cases codec hopen action owner observation activationSha256 with
      ⟨-, e, heq⟩ | ⟨e, writer', heq, hfailed⟩ | ⟨body, sink, -, -, heq, -, hfailed⟩
    · rw [heq]
      exact h
    · rw [heq]
      exact hfailed
    · rw [heq]
      exact hfailed.trans h
  · unfold appendRecord
    rw [hopen]
    exact h

theorem step_failed (call : Call) (h : writer.sink.failed = true) :
    (writer.step codec call).2.sink.failed = true := by
  cases call with
  | publish observation =>
    show (writer.publish codec observation).2.sink.failed = true
    unfold publish
    split
    · exact h
    · split
      · exact h
      · split
        · exact h
        · have hfailed := appendRecord_failed codec .observation
            { writer.owner with lastSequence := observation.finalSequence } (some observation) none h
          dsimp only
          split
          next heq =>
            rw [heq] at hfailed
            exact hfailed
          next heq =>
            rw [heq] at hfailed
            exact hfailed
  | changeOwner change =>
    show (writer.changeOwner codec change).2.sink.failed = true
    unfold changeOwner
    split
    · exact h
    · have hfailed := appendRecord_failed codec .ownershipChanged change.owner none
        (some change.activationRecordSha256) h
      split
      next heq =>
        rw [heq] at hfailed
        exact hfailed
      next heq =>
        rw [heq] at hfailed
        exact hfailed

end

/-! ## Agreement -/

def scanState (writer : CanonicalOutputWriter) (published : Option CanonicalObservationV1)
    (observations ownershipChanges : Nat) : OutputScanState where
  records := writer.recordCount
  observations := observations
  ownershipChanges := ownershipChanges
  offset := writer.endOffset
  symbol := some writer.symbol
  streamKind := some writer.streamKind
  owner := some writer.owner
  lastObservation := published
  previous := writer.previousDigest

/-- The writer stands where the scan of its journal ends. -/
structure Written (codec : OutputCodec) (writer : CanonicalOutputWriter)
    (published : Option CanonicalObservationV1) : Prop where
  open_eq : writer.poisoned = false
  sound : writer.sink.failed = false
  identity : validateIdentity writer.symbol writer.owner = .ok ()
  offset_eq : writer.endOffset = writer.sink.file.len
  count_ne : writer.recordCount ≠ 0
  scans : ∃ observations changes, Scans codec writer.sink.file.bytes
    (writer.scanState published observations changes)

/-- The scan of the journal is clean and ends where the writer stands, and a writer resumed from
    the journal writes the same bytes in any later run. -/
structure Agrees (codec : OutputCodec) (writer : CanonicalOutputWriter)
    (published : Option CanonicalObservationV1) : Prop where
  scan : ∃ scan, scanCanonicalOutput codec writer.sink.file = .ok scan ∧ scan.cleanEof = true ∧
    scan.records = writer.recordCount ∧ scan.owner = some writer.owner ∧
    scan.lastObservation = published ∧ scan.lastRecordSha256 = writer.previousDigest
  resumes : ∃ resumed, resume codec writer.sink = .ok resumed ∧
    ∀ later, (run (step codec) resumed later).2.sink.file.bytes
      = (run (step codec) writer later).2.sink.file.bytes

/-- A change of owner from the last fencing token to the token 0 that passes every other check. -/
def Exhausts (codec : OutputCodec) (writer : CanonicalOutputWriter) : Call → Prop
  | .publish _ => False
  | .changeOwner change => writer.owner.fencingToken = maxU64 ∧ change.fencingToken = 0 ∧
    change.Leaves writer.owner ∧
    Fits codec (writer.record .ownershipChanged change.owner none
      (some change.activationRecordSha256))

def publishedBy : Call × Result CanonicalOutputAckV1 → Option CanonicalObservationV1
  | (.publish observation, .ok _) => some observation
  | _ => none

section

variable {codec : OutputCodec} {writer writer' : CanonicalOutputWriter}
  {published : Option CanonicalObservationV1} {symbol : String}

/-- Where the writer stands, its journal is clean and resumes to the writer itself. -/
theorem Written.agrees (h : Written codec writer published) : Agrees codec writer published := by
  obtain ⟨observations, changes, hscans⟩ := h.scans
  have hclean : (writer.endOffset == writer.sink.file.len) = true := by
    rw [h.offset_eq]
    exact beq_self_eq_true _
  have hscan := hscans.scan
  refine ⟨⟨_, hscan, hclean, rfl, rfl, rfl, rfl⟩, writer, ?_, fun _ => rfl⟩
  unfold resume
  rw [hscan]
  show (if (writer.endOffset == writer.sink.file.len) = false ∨ writer.recordCount = 0 then _
    else _) = _
  rw [hclean, if_neg (by simp [h.count_ne])]
  show (if writer.sink.file.len ≠ writer.endOffset then _ else _) = _
  rw [if_neg (by simp [h.offset_eq])]
  rw [Except.ok.injEq]
  obtain ⟨sink, symbol, streamKind, owner, recordCount, endOffset, previousDigest, poisoned⟩ := writer
  obtain rfl : poisoned = false := h.open_eq
  rfl

variable {owner : CanonicalOutputOwnerV1} {change : Transition}

theorem validateIdentity_eq_ok :
    validateIdentity symbol owner = .ok () ↔ (symbol = "BTCUSDT" ∨ symbol = "ETHUSDT") ∧
      isBlank owner.generationId = false ∧ isBlank owner.connectionEpoch = false ∧
      owner.fencingToken ≠ 0 := by
  rw [validateIdentity, ite_err_eq_ok]
  simp only [not_or, not_and_or, not_not, Bool.not_eq_true, ne_eq, and_true]

theorem validateScannedRecord_record (action : CanonicalOutputAction)
    (owner : CanonicalOutputOwnerV1) (observation : Option CanonicalObservationV1)
    (activationSha256 : Option String) (observations changes : Nat) :
    validateScannedRecord (writer.record action owner observation activationSha256)
        (writer.scanState published observations changes)
      = (do
        validateIdentity writer.symbol owner
        validateTransition (writer.record action owner observation activationSha256)
          writer.recordCount (some writer.owner)) := by
  rw [validateScannedRecord, if_neg]
  · rfl
  · simp [record, scanState]

/-- **Append.** A written record that the scan accepts keeps the writer where the scan ends. -/
theorem Written.append (hcodec : codec.Lawful) (h : Written codec writer published)
    {action : CanonicalOutputAction} {observation : Option CanonicalObservationV1}
    {activationSha256 : Option String} {body : Bytes} {sink : Sink}
    (hvec : codec.toVec (writer.record action owner observation activationSha256) = .ok body)
    (hle : body.length ≤ maxRecordBytes)
    (hbytes : sink.file.bytes = writer.sink.file.bytes ++ codec.framing.frame body)
    (hfailed : sink.failed = writer.sink.failed)
    (hidentity : validateIdentity writer.symbol owner = .ok ())
    (htransition : validateTransition (writer.record action owner observation activationSha256)
      writer.recordCount (some writer.owner) = .ok ()) :
    Written codec { writer.advance codec sink body with owner := owner }
      (if action = .observation then observation else published) := by
  obtain ⟨observations, changes, hscans⟩ := h.scans
  refine ⟨h.open_eq, hfailed.trans h.sound, hidentity, ?_, Nat.succ_ne_zero _, ?_⟩
  · show writer.endOffset + (codec.framing.frame body).length = sink.file.bytes.length
    rw [hbytes, List.length_append, h.offset_eq]
    rfl
  · have hvalid : validateScannedRecord (writer.record action owner observation activationSha256)
        (writer.scanState published observations changes) = .ok () := by
      rw [validateScannedRecord_record, hidentity]
      exact htransition
    have hnext := hscans.append (framing_admits (hcodec.toVec_ne_nil _ _ hvec) hle)
      (hcodec.fromSlice_toVec _ _ hvec) hvalid
    rw [← hbytes] at hnext
    have hstate : ({ writer.advance codec sink body with owner := owner }
          : CanonicalOutputWriter).scanState
          (if action = .observation then observation else published)
          (observations + if action = .observation then 1 else 0)
          (changes + if action = .ownershipChanged then 1 else 0)
        = (writer.scanState published observations changes).next codec body
          (writer.record action owner observation activationSha256) := by
      rw [scanState, OutputScanState.next, advance, Framing.frame_length]
      rfl
    exact ⟨_, _, hstate ▸ hnext⟩

/-! ## Calls -/

theorem nextToken_of_ne {token : UInt64} (h : token ≠ maxU64) : nextToken token = token.toNat + 1 := by
  have hlt : token.toNat < 2 ^ 64 := token.toNat_lt
  have hne : token.toNat ≠ u64Max := fun heq => h (UInt64.toNat_inj.mp heq)
  have hle : token.toNat + 1 ≤ u64Max := by
    simp only [u64Max] at hne ⊢
    omega
  rw [nextToken, checkedAdd_eq hle]
  rfl

/-- **Step, publish.** A publication keeps the writer where the scan ends. -/
theorem Written.publish (hcodec : codec.Lawful) (h : Written codec writer published)
    (observation : CanonicalObservationV1)
    (hsink : (writer.publish codec observation).2.sink.failed = false) :
    Written codec (writer.publish codec observation).2
      ((publishedBy (.publish observation, (writer.publish codec observation).1)).or published) := by
  unfold CanonicalOutputWriter.publish at hsink ⊢
  split
  case isTrue => exact h
  case isFalse hfence =>
    rw [if_neg hfence] at hsink
    rcases hexpected : checkedAdd writer.owner.lastSequence.toNat 1 with _ | expected
    · exact h
    · rw [hexpected] at hsink
      dsimp only at hsink ⊢
      split
      case isTrue => exact h
      case isFalse hcontinuous =>
        rw [if_neg hcontinuous] at hsink
        rw [not_or, not_or, not_not, not_not, not_not] at hfence
        obtain ⟨hsymbol, hkind, hepoch⟩ := hfence
        rw [Bool.not_eq_false] at hcontinuous
        rcases appendRecord_cases codec h.open_eq .observation
            { writer.owner with lastSequence := observation.finalSequence } (some observation) none
          with ⟨-, e, heq⟩ | ⟨e, writer', heq, hfailed⟩ | ⟨body, sink, hvec, hle, heq, hbytes, hfailed⟩
        · rw [heq]
          exact h
        · rw [heq] at hsink
          rw [hfailed] at hsink
          cases hsink
        · rw [heq]
          have hnext := h.append hcodec hvec hle hbytes hfailed
            (validateIdentity_eq_ok.mpr (validateIdentity_eq_ok.mp h.identity)) ?_
          · exact hnext
          · -- the scan repeats the checks of the publication
            simp only [validateTransition, record, okOr, bind, Except.bind, hexpected]
            refine if_neg ?_
            simp [hcontinuous, hsymbol, hkind, hepoch]

theorem changeOwner_of_leaves (hleaves : change.Leaves writer.owner)
    (htoken : change.fencingToken.toNat = nextToken writer.owner.fencingToken) :
    writer.changeOwner codec change =
      match writer.appendRecord codec .ownershipChanged change.owner none
          (some change.activationRecordSha256) with
      | (.error e, writer) => (.error e, writer)
      | (.ok ack, writer) => (.ok ack, { writer with owner := change.owner }) := by
  obtain ⟨hgeneration, hepoch, hother, hothers, hboundary, hdigest⟩ := hleaves
  refine if_neg ?_
  simp [hgeneration, hepoch, hother, hothers, hboundary, hdigest, htoken]

theorem changeOwner_of_not (codec : OutputCodec)
    (h : ¬ (change.Leaves writer.owner ∧
      change.fencingToken.toNat = nextToken writer.owner.fencingToken)) :
    ∃ e, writer.changeOwner codec change = (.error e, writer) := by
  rw [changeOwner, if_pos]
  · exact ⟨_, rfl⟩
  · by_contra hall
    apply h
    simp only [not_or, Bool.not_eq_true, Bool.not_eq_false, not_not, ne_eq] at hall
    obtain ⟨hgeneration, hepoch, hother, hothers, htoken, hboundary, hdigest⟩ := hall
    exact ⟨⟨hgeneration, hepoch, hother, hothers, hboundary, hdigest⟩, htoken⟩

theorem validateTransition_change (hleaves : change.Leaves writer.owner)
    (htoken : change.fencingToken.toNat = nextToken writer.owner.fencingToken) :
    validateTransition (writer.record .ownershipChanged change.owner none
      (some change.activationRecordSha256)) writer.recordCount (some writer.owner) = .ok () := by
  obtain ⟨-, -, hother, hothers, hboundary, hdigest⟩ := hleaves
  simp only [validateTransition, record, okOr, bind, Except.bind]
  refine if_neg ?_
  simp [Transition.owner, hother, hothers, hboundary, hdigest, htoken]

/-- **Step, change of owner.** It keeps the writer where the scan ends, unless it exhausts the
    fencing tokens. -/
theorem Written.changeOwner (hcodec : codec.Lawful) (h : Written codec writer published)
    (change : Transition) (hsink : (writer.changeOwner codec change).2.sink.failed = false)
    (hcareful : ¬ Exhausts codec writer (.changeOwner change)) :
    Written codec (writer.changeOwner codec change).2 published := by
  by_cases haccepted : change.Leaves writer.owner ∧
      change.fencingToken.toNat = nextToken writer.owner.fencingToken
  · obtain ⟨hleaves, htoken⟩ := haccepted
    rw [changeOwner_of_leaves hleaves htoken] at hsink ⊢
    rcases appendRecord_cases codec h.open_eq .ownershipChanged change.owner none
        (some change.activationRecordSha256)
      with ⟨-, e, heq⟩ | ⟨e, writer', heq, hfailed⟩ | ⟨body, sink, hvec, hle, heq, hbytes, hfailed⟩
    · rw [heq]
      exact h
    · rw [heq] at hsink
      rw [hfailed] at hsink
      cases hsink
    · rw [heq]
      obtain ⟨hsymbol, -, -, -⟩ := validateIdentity_eq_ok.mp h.identity
      -- the new token is 0 only behind the last one
      have hpositive : change.fencingToken ≠ 0 := by
        intro hzero
        apply hcareful
        refine ⟨?_, hzero, hleaves, body, hvec, hle⟩
        by_contra hne
        rw [hzero, nextToken_of_ne hne] at htoken
        exact absurd htoken.symm (Nat.succ_ne_zero _)
      have hnext := h.append hcodec hvec hle hbytes hfailed
        (validateIdentity_eq_ok.mpr ⟨hsymbol, hleaves.1, hleaves.2.1, hpositive⟩)
        (validateTransition_change hleaves htoken)
      exact hnext
  · obtain ⟨e, heq⟩ := changeOwner_of_not codec haccepted
    rw [heq]
    exact h

theorem Written.not_agrees (hcodec : codec.Lawful) (h : Written codec writer published)
    {published' : Option CanonicalObservationV1}
    (hsink : (writer.changeOwner codec change).2.sink.failed = false)
    (hexhausts : Exhausts codec writer (.changeOwner change)) :
    ¬ Agrees codec (writer.changeOwner codec change).2 published' := by
  obtain ⟨hlast, hzero, hleaves, hfits⟩ := hexhausts
  have htoken : change.fencingToken.toNat = nextToken writer.owner.fencingToken := by
    rw [hzero, hlast]
    rfl
  rw [changeOwner_of_leaves hleaves htoken] at hsink ⊢
  rcases appendRecord_cases codec h.open_eq .ownershipChanged change.owner none
      (some change.activationRecordSha256)
    with ⟨hnot, -⟩ | ⟨e, writer', heq, hfailed⟩ | ⟨body, sink, hvec, hle, heq, hbytes, hfailed⟩
  · exact absurd hfits hnot
  · rw [heq] at hsink
    rw [hfailed] at hsink
    cases hsink
  · rw [heq]
    rintro ⟨⟨scan, hscan, hclean, -⟩, -⟩
    obtain ⟨observations, changes, hscans⟩ := h.scans
    have hidentity : validateIdentity writer.symbol change.owner
        = err "invalid canonical output identity" := by
      rw [validateIdentity, if_pos]
      exact .inr (.inr (.inr hzero))
    have hinvalid : validateScannedRecord (writer.record .ownershipChanged change.owner none
        (some change.activationRecordSha256)) (writer.scanState published observations changes)
        = .error (.err "invalid canonical output identity") := by
      rw [validateScannedRecord_record, hidentity]
      rfl
    have hunclean := hscans.refused hbytes (framing_admits (hcodec.toVec_ne_nil _ _ hvec) hle)
      (hcodec.fromSlice_toVec _ _ hvec) hinvalid hscan
    rw [hunclean] at hclean
    cases hclean

/-! ## Runs -/

/-- `create`: the writer of a new journal. -/
def create (codec : OutputCodec) (faults : List Raw.Fault) (symbol : String)
    (streamKind : BoundaryStreamKind) (owner : CanonicalOutputOwnerV1) :
    Result CanonicalOutputWriter :=
  fromSink codec (Sink.fresh faults) symbol streamKind owner

def after (codec : OutputCodec) (writer : CanonicalOutputWriter) (calls : List Call) :
    CanonicalOutputWriter := (run (step codec) writer calls).2

def lastPublished (codec : OutputCodec) (writer : CanonicalOutputWriter) (calls : List Call) :
    Option CanonicalObservationV1 :=
  ((calls.zip (run (step codec) writer calls).1).filterMap publishedBy).getLast?

theorem after_concat (calls : List Call) (call : Call) :
    after codec writer (calls ++ [call]) = ((after codec writer calls).step codec call).2 := by
  rw [after, run_concat]
  rfl

theorem lastPublished_concat (calls : List Call) (call : Call) :
    lastPublished codec writer (calls ++ [call])
      = (publishedBy (call, ((after codec writer calls).step codec call).1)).or
        (lastPublished codec writer calls) := by
  have hlast (o : Option CanonicalObservationV1) : o.toList.getLast? = o := by
    cases o with
    | none => rfl
    | some _ => rfl
  rw [lastPublished, run_concat, filterMap_zip_concat publishedBy (run_outputs_length _ _).symm,
    List.getLast?_append, hlast]
  rfl

/-- A new journal holds the record of its first owner. -/
theorem create_written (hcodec : codec.Lawful) {faults : List Raw.Fault}
    {streamKind : BoundaryStreamKind}
    (h : create codec faults symbol streamKind owner = .ok writer) : Written codec writer none := by
  rw [create, fromSink, bind_eq_ok] at h
  obtain ⟨⟨⟩, hidentity, h⟩ := h
  rcases Sink.writeSynced_cases (Sink.fresh faults) outputMagic with
    ⟨sink, hwrite, hbytes, hfailed⟩ | ⟨e, sink, k, hwrite, -, -⟩
  · rw [hwrite] at h
    dsimp only at h
    rcases appendRecord_cases codec (show (⟨sink, symbol, streamKind, owner, 0, outputMagic.length,
        zeroDigest, false⟩ : CanonicalOutputWriter).poisoned = false from rfl)
        .initialized owner none none
      with ⟨-, e, heq⟩ | ⟨e, writer', heq, -⟩ | ⟨body, last, hvec, hle, heq, hlast, hsound⟩
    · rw [heq] at h
      cases h
    · rw [heq] at h
      cases h
    · rw [heq] at h
      obtain rfl := Except.ok.inj h
      have hscans : Scans codec sink.file.bytes .start := by
        rw [hbytes]
        exact scans_magic
      have hvalid : validateScannedRecord (CanonicalOutputWriter.record
          ⟨sink, symbol, streamKind, owner, 0, outputMagic.length, zeroDigest, false⟩
          .initialized owner none none) .start = .ok () := by
        rw [validateScannedRecord, if_neg (by simp [record, OutputScanState.start]), bind_eq_ok]
        exact ⟨(), hidentity, rfl⟩
      have hnext := hscans.append (framing_admits (hcodec.toVec_ne_nil _ _ hvec) hle)
        (hcodec.fromSlice_toVec _ _ hvec) hvalid
      refine ⟨rfl, hsound.trans hfailed, hidentity, ?_, Nat.succ_ne_zero _, 0, 0, ?_⟩
      · show outputMagic.length + (codec.framing.frame body).length = last.file.bytes.length
        rw [hlast, hbytes, List.length_append]
        rfl
      · show Scans codec last.file.bytes _
        rw [hlast, scanState, advance, Framing.frame_length]
        exact hnext
  · rw [hwrite] at h
    cases h

/-- **Agreement.** The scan of the journal agrees with the writer at every point of a run, and a
    writer resumed there goes on alike, iff no call of the run exhausts the fencing tokens. -/
theorem output_agrees_iff (hcodec : codec.Lawful) {faults : List Raw.Fault} {symbol : String}
    {streamKind : BoundaryStreamKind} {owner : CanonicalOutputOwnerV1}
    (hcreate : create codec faults symbol streamKind owner = .ok writer) (calls : List Call)
    (hsink : (after codec writer calls).sink.failed = false) :
    (∀ before later, calls = before ++ later →
      Agrees codec (after codec writer before) (lastPublished codec writer before)) ↔
    AtEach (fun before call => ¬ Exhausts codec (after codec writer before) call) calls := by
  refine prefixes_iff_atEach (A := fun calls => (after codec writer calls).sink.failed = false)
    (K := fun calls => Written codec (after codec writer calls) (lastPublished codec writer calls))
    ?_ (create_written hcodec hcreate) (fun _ h => h.agrees) ?_ ?_ hsink
  · intro calls call hlater
    by_contra hfailed
    rw [Bool.not_eq_false] at hfailed
    rw [after_concat, step_failed codec call hfailed] at hlater
    cases hlater
  · intro calls call hlater hwritten hcareful
    rw [after_concat] at hlater
    rw [after_concat, lastPublished_concat]
    cases call with
    | publish observation => exact hwritten.publish hcodec observation hlater
    | changeOwner change => exact hwritten.changeOwner hcodec change hlater hcareful
  · intro calls call hlater hwritten hagrees hexhausts
    rw [after_concat] at hlater hagrees
    cases call with
    | publish observation => exact hexhausts
    | changeOwner change => exact hwritten.not_agrees hcodec hlater hexhausts hagrees

end

/-! ## A run to the last fencing token -/

/-- The `SCREAMING_SNAKE_CASE` name of an action. -/
def actionText : CanonicalOutputAction → String
  | .initialized => "INITIALIZED"
  | .observation => "OBSERVATION"
  | .ownershipChanged => "OWNERSHIP_CHANGED"

/-- The `SCREAMING_SNAKE_CASE` name of a stream kind. -/
def streamKindText : BoundaryStreamKind → String
  | .depth => "DEPTH"
  | .trade => "TRADE"

def ownerJson (owner : CanonicalOutputOwnerV1) : Value :=
  .object [("generation_id", .string owner.generationId),
    ("connection_epoch", .string owner.connectionEpoch), ("fencing_token", .nat owner.fencingToken),
    ("last_sequence", .nat owner.lastSequence)]

def observationJson (observation : CanonicalObservationV1) : Value :=
  .object [("symbol", .string observation.symbol),
    ("stream_kind", .string (streamKindText observation.streamKind)),
    ("stream", .string observation.stream),
    ("connection_epoch", .string observation.connectionEpoch),
    ("frame_index", .nat observation.frameIndex), ("first_sequence", .nat observation.firstSequence),
    ("final_sequence", .nat observation.finalSequence),
    ("record_sha256", .string observation.recordSha256),
    ("observation_sha256", .string observation.observationSha256)]

def recordText (record : CanonicalOutputRecordV1) : Bytes :=
  (Value.object [("schema", .string record.schema),
    ("record_index", .nat (UInt64.ofNat record.recordIndex)),
    ("action", .string (actionText record.action)), ("symbol", .string record.symbol),
    ("stream_kind", .string (streamKindText record.streamKind)), ("owner", ownerJson record.owner),
    ("observation", (record.observation.map observationJson).getD .null),
    ("ownership_activation_record_sha256",
      (record.ownershipActivationRecordSha256.map .string).getD .null),
    ("previous_record_sha256", .string record.previousRecordSha256)]).toVec

/-- The owner before the last token. -/
def firstOwner : CanonicalOutputOwnerV1 := ⟨"g-a", "a", maxU64 - 1, 100⟩

/-- Its depth frame 101..103. -/
def firstFrame : CanonicalObservationV1 where
  symbol := "BTCUSDT"
  streamKind := .depth
  stream := "btcusdt@depth"
  connectionEpoch := "a"
  frameIndex := 1
  firstSequence := 101
  finalSequence := 103
  recordSha256 := "aaaaaaaaaaaaaaaaaaaaaaaaaaaaaaaaaaaaaaaaaaaaaaaaaaaaaaaaaaaaaaaa"
  observationSha256 := "bbbbbbbbbbbbbbbbbbbbbbbbbbbbbbbbbbbbbbbbbbbbbbbbbbbbbbbbbbbbbbbb"

def toLastToken : Transition :=
  ⟨"g-b", "b", maxU64, 103, "cccccccccccccccccccccccccccccccccccccccccccccccccccccccccccccccc"⟩

/-- The change behind the last token. -/
def toZeroToken : Transition :=
  ⟨"g-c", "c", 0, 103, "dddddddddddddddddddddddddddddddddddddddddddddddddddddddddddddddd"⟩

def runRecord (recordIndex : Nat) (action : CanonicalOutputAction) (owner : CanonicalOutputOwnerV1)
    (observation : Option CanonicalObservationV1) (activationSha256 : Option String)
    (previousRecordSha256 : String) : CanonicalOutputRecordV1 :=
  ⟨"CanonicalOutputRecordV1", recordIndex, action, "BTCUSDT", .depth, owner, observation,
    activationSha256, previousRecordSha256⟩

def runRecords : List (CanonicalOutputRecordV1 × Nat) :=
  [(runRecord 0 .initialized firstOwner none none zeroDigest,
    0x99bb2b5b68ef2a959b26bcccb34faa9fa3b3da5ef73987313ea45a222ae5badb),
   (runRecord 1 .observation { firstOwner with lastSequence := 103 } (some firstFrame) none
      "99bb2b5b68ef2a959b26bcccb34faa9fa3b3da5ef73987313ea45a222ae5badb",
    0x8c0b62be661b0a31e3365e9d29b59c2f703a0fee5f52f725f7c7512624bd68d5),
   (runRecord 2 .ownershipChanged toLastToken.owner none (some toLastToken.activationRecordSha256)
      "8c0b62be661b0a31e3365e9d29b59c2f703a0fee5f52f725f7c7512624bd68d5",
    0x3f4591b0613247cb7fbbfbec7a2c56092f2911214f7dc56b7a19075e2b13fcd2),
   (runRecord 3 .ownershipChanged toZeroToken.owner none (some toZeroToken.activationRecordSha256)
      "3f4591b0613247cb7fbbfbec7a2c56092f2911214f7dc56b7a19075e2b13fcd2",
    0x5bd2b7c032a1f95de89631cbbcb4d420e93f499661fcd410ca35b47fbc9f6f98)]

def runCodec : OutputCodec where
  toVec := knownToVec recordText runRecords
  fromSlice := knownFromSlice recordText runRecords
  digest := knownDigest recordText runRecords

theorem runCodec_lawful : runCodec.Lawful where
  fromSlice_toVec _ _ h := knownFromSlice_of_toVec (by decide +kernel) h
  toVec_ne_nil _ _ h := knownToVec_ne_nil (by decide +kernel) h

/-- What is left of a run from the first owner. -/
def runFrom {β : Type} (f : CanonicalOutputWriter → β) : Result β :=
  (create runCodec [] "BTCUSDT" .depth firstOwner).map f

/-- Up to the last token, the scan agrees and the journal resumes. -/
theorem output_agrees_to_last_token : ∃ writer,
    create runCodec [] "BTCUSDT" .depth firstOwner = .ok writer ∧
    Agrees runCodec (after runCodec writer [.publish firstFrame, .changeOwner toLastToken])
      (some firstFrame) := by
  obtain ⟨writer, hcreate⟩ := isOk_eq_true.mp
    (show (create runCodec [] "BTCUSDT" .depth firstOwner).isOk = true by decide +kernel)
  have hrun {β : Type} (f : CanonicalOutputWriter → β) : runFrom f = .ok (f writer) := by
    rw [runFrom, hcreate]
    rfl
  have hsink : (after runCodec writer [.publish firstFrame, .changeOwner toLastToken]).sink.failed
      = false := by
    have hvalue := hrun fun w =>
      (after runCodec w [.publish firstFrame, .changeOwner toLastToken]).sink.failed
    rw [show runFrom _ = .ok false by decide +kernel] at hvalue
    exact (Except.ok.inj hvalue).symm
  have hlast : lastPublished runCodec writer [.publish firstFrame, .changeOwner toLastToken]
      = some firstFrame := by
    have hvalue := hrun fun w =>
      lastPublished runCodec w [.publish firstFrame, .changeOwner toLastToken]
    rw [show runFrom _ = .ok (some firstFrame) by decide +kernel] at hvalue
    exact (Except.ok.inj hvalue).symm
  refine ⟨writer, hcreate, ?_⟩
  rw [← hlast]
  refine (output_agrees_iff runCodec_lawful hcreate _ hsink).mpr ?_ _ [] (List.append_nil _).symm
  rw [show ([.publish firstFrame, .changeOwner toLastToken] : List Call)
    = [] ++ [.publish firstFrame] ++ [.changeOwner toLastToken] from rfl]
  rw [atEach_concat, atEach_concat]
  refine ⟨⟨atEach_nil, fun h => h⟩, ?_⟩
  rintro ⟨-, hzero, -⟩
  exact absurd hzero (by decide)

def pastLastToken : List Call :=
  [.publish firstFrame, .changeOwner toLastToken, .changeOwner toZeroToken]

/-- The writer accepts the token 0 behind the last one, and the scan does not: the journal is
    unclean and no longer resumes. -/
theorem zero_token_is_not_resumed :
    runFrom (fun writer => (run (step runCodec) writer pastLastToken).1.map (·.isOk))
      = .ok [true, true, true] ∧
    runFrom (fun writer => (after runCodec writer pastLastToken).recordCount) = .ok 4 ∧
    runFrom (fun writer => (scanCanonicalOutput runCodec
        (after runCodec writer pastLastToken).sink.file).toOption.map fun scan =>
          (scan.cleanEof, scan.records, scan.reason))
      = .ok (some (false, 3, some "invalid canonical output transition/continuity")) ∧
    runFrom (fun writer => (resume runCodec (after runCodec writer pastLastToken).sink).isOk)
      = .ok false := by
  decide +kernel

end CanonicalOutputWriter

end LobReplay.Canonical
