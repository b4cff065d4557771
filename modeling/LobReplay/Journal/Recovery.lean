/-
  Recovery after a crash that cuts the last segment anywhere. A cut leaves a prefix of the segment's
  records and torn bytes behind them; the recovery scan walks the records and measures the rest.

  Recovery drops segments of zero bytes because they carry no record, but a cut inside the first
  record leaves a segment with bytes and still no record, which the walk rejects as empty.
-/

import LobReplay.Journal.Chain

namespace LobReplay

open Foundation JournalEvent

/-- The file after a crash that keeps its first `t` bytes. -/
def SegmentFile.cut (file : SegmentFile) (t : Nat) : SegmentFile :=
  { file with bytes := file.bytes.take t }

/-- The file without its torn bytes. -/
def SegmentFile.complete (file : SegmentFile) : SegmentFile :=
  { file with bytes := unlines (splitLines file.bytes).1 }

/-- The file holds a complete, newline-terminated record. -/
def SegmentFile.hasRecord (file : SegmentFile) : Prop :=
  ∃ line ∈ (splitLines file.bytes).1, line ≠ []

instance (file : SegmentFile) : Decidable file.hasRecord :=
  inferInstanceAs (Decidable (∃ line ∈ (splitLines file.bytes).1, line ≠ []))

/-- The audit of the complete records that remain of a chain whose last segment was cut: the
    incremental audit of the files without torn bytes, a file that keeps no record left out,
    and nothing when none is left. -/
def remainingAudit (codec : JournalCodec) (before : List SegmentFile) (last : SegmentFile) :
    Result (Option LiveArbitrationScanV1) :=
  let files := if last.hasRecord then before ++ [last.complete] else before
  if files = [] then .ok none
  else (scanLiveArbitrationJournalSetIncremental codec files).map fun audit => some audit.1

/-- Recovery succeeds and returns the audit of the records that remain. -/
def RecoversExactly (codec : JournalCodec) (before : List SegmentFile) (last : SegmentFile) :
    Prop :=
  ∃ recovered, remainingAudit codec before last = .ok recovered ∧
    recoverArbitrationScan codec (before ++ [last]) = .ok recovered

/-! ## Cutting a file -/

variable {codec : JournalCodec} {segment : AuditedSegment} {last : SegmentFile}
  {before : List SegmentFile} {front : List AuditedSegment} {state : JournalAuditState}
  {records : List AuditedRecord} {file : SegmentFile} {files : List SegmentFile}
  {rest : List AuditedSegment}

theorem recordsOf_append_eq_some {a b : List Bytes} :
    recordsOf codec (a ++ b) = some records ↔
      ∃ kept lost, recordsOf codec a = some kept ∧ recordsOf codec b = some lost ∧
        records = kept ++ lost := by
  induction a generalizing records with
  | nil => simp [recordsOf]
  | cons line rest ih =>
    rw [List.cons_append]
    by_cases hline : line = []
    · simp only [recordsOf, hline, if_true, ih]
    · simp only [recordsOf_cons_eq_some hline, ih]
      refine ⟨?_, ?_⟩
      · rintro ⟨r, _, hr, ⟨kept, lost, hkept, hlost, rfl⟩, rfl⟩
        exact ⟨r :: kept, lost, ⟨r, kept, hr, hkept, rfl⟩, hlost, rfl⟩
      · rintro ⟨_, lost, ⟨r, kept, hr, hkept, rfl⟩, hlost, rfl⟩
        exact ⟨r, kept ++ lost, hr, ⟨kept, lost, hkept, hlost, rfl⟩, rfl⟩

theorem recordsOf_ne_nil_iff {lines : List Bytes} (h : recordsOf codec lines = some records) :
    records ≠ [] ↔ ∃ line ∈ lines, line ≠ [] := by
  induction lines generalizing records with
  | nil =>
    obtain rfl : [] = records := Option.some.inj h
    simp
  | cons line rest ih =>
    by_cases hline : line = []
    · simp only [recordsOf, hline, if_true] at h
      simpa [hline] using ih h
    · obtain ⟨r, more, -, -, rfl⟩ := (recordsOf_cons_eq_some hline).mp h
      simp [hline]

theorem segmentOf_cut (h : segmentOf codec file = some segment) (t : Nat) :
    ∃ kept lost, segment.records = kept ++ lost ∧
      segmentOf codec (file.cut t) = some ⟨kept, (splitLines (file.cut t).bytes).2.length⟩ ∧
      segmentOf codec (file.cut t).complete = some ⟨kept, 0⟩ ∧
      (kept ≠ [] ↔ (file.cut t).hasRecord) := by
  obtain ⟨records, hrecords, rfl⟩ := Option.map_eq_some_iff.mp h
  obtain ⟨rest, hrest⟩ := splitLines_take_prefix file.bytes t
  rw [← hrest] at hrecords
  obtain ⟨kept, lost, hkept, -, rfl⟩ := recordsOf_append_eq_some.mp hrecords
  have hcomplete : splitLines (file.cut t).complete.bytes
      = ((splitLines (file.bytes.take t)).1, []) :=
    splitLines_unlines fun _ hline => newline_not_mem_of_mem_splitLines hline
  refine ⟨kept, lost, rfl, ?_, ?_, recordsOf_ne_nil_iff hkept⟩
  · rw [segmentOf]
    show Option.map _ (recordsOf codec (splitLines (file.bytes.take t)).1) = _
    rw [hkept]
    rfl
  · rw [segmentOf, hcomplete]
    show Option.map _ (recordsOf codec (splitLines (file.bytes.take t)).1) = _
    rw [hkept]
    rfl

theorem bytes_ne_nil_of_records (h : segmentOf codec file = some segment)
    (hne : segment.records ≠ []) : file.bytes ≠ [] := by
  intro hnil
  rw [segmentOf, hnil] at h
  obtain rfl := Option.some.inj h
  exact hne rfl

/-! ## The opening record -/

section

variable {codec : JournalCodec} {state state' : JournalAuditState} {segments : List AuditedSegment}

/-- **Step.** After the opening record of a journal nothing changes `started_seen`. -/
theorem record_startedSeen_eq {event : JournalEvent} (sha : String) {firstOfFile : Bool}
    (h : event.admits state firstOfFile) (hlater : state.segments ≠ 0 ∨ firstOfFile = false) :
    (event.record state sha).startedSeen = state.startedSeen ∧
      (event.record state sha).segments = state.segments := by
  cases event with
  | started symbol floor =>
    obtain ⟨hfirst, hsegments⟩ := h
    rcases hlater with hlater | hlater
    · exact absurd hsegments hlater
    · cases hfirst.symm.trans hlater
  | resumed symbol previousSha floor tailBytes =>
    by_cases hpreset : state.presetContext = true <;> simp [record, advance, hpreset]
  | correction kind id digest => cases kind <;> exact ⟨rfl, rfl⟩
  | _ => exact ⟨rfl, rfl⟩

/-- **Run.** -/
theorem Runs.startedSeen_eq {records : List AuditedRecord} {fileIndex : Nat}
    (h : Runs codec state fileIndex records state')
    (hlater : state.segments ≠ 0 ∨ fileIndex ≠ 0) :
    state'.startedSeen = state.startedSeen := by
  induction records generalizing state fileIndex with
  | nil => rw [h]
  | cons r rest ih =>
    obtain ⟨-, -, hadmits, hrest⟩ := h
    have hstep := record_startedSeen_eq r.envelope.recordSha256 hadmits (by
      rcases hlater with hlater | hlater
      · exact Or.inl hlater
      · exact Or.inr (by simpa using hlater))
    rw [ih hrest (Or.inr (Nat.succ_ne_zero _)), hstep.1]

/-- **Chain.** Later segments do not change `started_seen` either. -/
theorem RunsChain.startedSeen_eq (h : RunsChain codec state segments state')
    (hlater : state.segments ≠ 0) : state'.startedSeen = state.startedSeen := by
  induction segments generalizing state with
  | nil => rw [h]
  | cons segment rest ih =>
    obtain ⟨-, reached, hruns, hchain⟩ := h
    rw [ih hchain (Nat.succ_ne_zero _)]
    exact hruns.startedSeen_eq (Or.inl hlater)

theorem RunsChain.prefix_started {front rest : List AuditedSegment}
    (h : RunsChain codec {} (front ++ rest) state') (hstarted : state'.startedSeen = true)
    (hne : front ≠ []) :
    ∃ middle, RunsChain codec {} front middle ∧ middle.startedSeen = true := by
  obtain ⟨middle, hfront, hrest⟩ := runsChain_append.mp h
  obtain ⟨_, _, -, -, -, -, hsegments⟩ := hfront.end_eq hne
  exact ⟨middle, hfront, by rw [← hrest.startedSeen_eq hsegments, hstarted]⟩

/-- **The cut chain.** The machine runs through what a cut keeps of the last segment, to the
    same state whatever is torn behind it, up to the torn length it keeps. -/
theorem RunsChain.cut_last {front : List AuditedSegment} {segment : AuditedSegment}
    {kept lost : List AuditedRecord}
    (h : RunsChain codec {} (front ++ [segment]) state') (hstarted : state'.startedSeen = true)
    (hrecords : segment.records = kept ++ lost) (hkept : kept ≠ []) :
    ∃ reached : JournalAuditState, reached.startedSeen = true ∧ ∀ tailBytes,
      RunsChain codec {} (front ++ [⟨kept, tailBytes⟩]) (reached.closeSegment tailBytes) := by
  obtain ⟨middle, hfront, -, _, hruns, rfl⟩ := runsChain_append.mp h
  rw [hrecords] at hruns
  obtain ⟨reached, hpre, hlost⟩ := runs_append.mp hruns
  refine ⟨reached, ?_, ?_⟩
  · have hlength : 0 + kept.length ≠ 0 := by
      rw [Nat.zero_add]
      exact fun h0 => hkept (List.length_eq_zero_iff.mp h0)
    rw [← hlost.startedSeen_eq (Or.inr hlength)]
    exact hstarted
  · intro tailBytes
    exact runsChain_append.mpr ⟨middle, hfront, hkept, reached, hpre, rfl⟩

theorem RunsChain.bytes_ne_nil {files : List SegmentFile}
    (hsegments : segmentsOf codec files = some segments)
    (h : RunsChain codec state segments state') : ∀ file ∈ files, file.bytes ≠ [] := by
  induction files generalizing state segments with
  | nil => simp
  | cons first rest ih =>
    obtain ⟨segment, more, hsegment, hmore, rfl⟩ := segmentsOf_cons_eq_some.mp hsegments
    obtain ⟨hne, reached, -, hchain⟩ := h
    intro file hfile
    rcases List.mem_cons.mp hfile with rfl | hfile
    · exact bytes_ne_nil_of_records hsegment hne
    · exact ih hmore hchain file hfile

end

/-! ## Recovery -/

theorem recoverArbitrationScan_eq (hbytes : ∀ file ∈ files, file.bytes ≠ []) (hne : files ≠ []) :
    recoverArbitrationScan codec files
      = (scanLiveArbitrationJournalSetRecovery codec files).map some := by
  have hfilter : (files.filter fun segment => segment.bytes.length ≠ 0) = files := by
    rw [List.filter_eq_self]
    intro file hfile
    simpa using hbytes file hfile
  unfold recoverArbitrationScan
  simp only [hfilter, if_neg hne]

theorem recoverArbitrationScan_concat_empty (hlast : last.bytes = []) :
    recoverArbitrationScan codec (files ++ [last]) = recoverArbitrationScan codec files := by
  unfold recoverArbitrationScan
  rw [List.filter_append, List.filter_singleton, hlast]
  simp

section

variable (hfront : segmentsOf codec before = some front)
include hfront

theorem recoversExactly_of_hasRecord {t : Nat} (hsegment : segmentOf codec last = some segment)
    (hchain : RunsChain codec {} (front ++ [segment]) state) (hstarted : state.startedSeen = true)
    (hrecord : (last.cut t).hasRecord) : RecoversExactly codec before (last.cut t) := by
  obtain ⟨kept, lost, hrecords, hcut, hcomplete, hkept⟩ := segmentOf_cut hsegment t
  obtain ⟨reached, hreached, hkeep⟩ := hchain.cut_last hstarted hrecords (hkept.mpr hrecord)
  have hcutFiles := segmentsOf_concat_eq_some.mpr ⟨front, _, hfront, hcut, rfl⟩
  have hcompleteFiles := segmentsOf_concat_eq_some.mpr ⟨front, _, hfront, hcomplete, rfl⟩
  have hscan := scanLiveArbitrationJournalSetIncremental_eq_ok.mpr
    ⟨by simp, _, _, hcompleteFiles, hkeep 0, hreached, rfl, rfl⟩
  have hrecover := scanLiveArbitrationJournalSetRecovery_eq_ok.mpr
    ⟨by simp, _, _, hcutFiles, hkeep _, hreached, rfl⟩
  refine ⟨some (reached.closeSegment 0).scan, ?_, ?_⟩
  · unfold remainingAudit
    simp only [if_pos hrecord, hscan]
    rw [if_neg (by simp)]
    rfl
  · rw [recoverArbitrationScan_eq ((hkeep _).bytes_ne_nil hcutFiles) (by simp), hrecover]
    rfl

theorem recoversExactly_of_empty (hchain : RunsChain codec {} (front ++ rest) state)
    (hstarted : state.startedSeen = true) (hlast : last.bytes = []) :
    RecoversExactly codec before last := by
  have hrecord : ¬ last.hasRecord := by
    simp [SegmentFile.hasRecord, hlast]
  unfold RecoversExactly remainingAudit
  simp only [if_neg hrecord, recoverArbitrationScan_concat_empty hlast]
  by_cases hne : before = []
  · subst hne
    exact ⟨none, rfl, rfl⟩
  have hfrontNe : front ≠ [] := by
    rintro rfl
    rcases before with _ | ⟨file, files⟩
    · exact hne rfl
    · obtain ⟨_, _, -, -, h⟩ := segmentsOf_cons_eq_some.mp hfront
      cases h
  obtain ⟨middle, hmiddle, hseen⟩ := hchain.prefix_started hstarted hfrontNe
  have hscan := scanLiveArbitrationJournalSetIncremental_eq_ok.mpr
    ⟨hne, front, middle, hfront, hmiddle, hseen, rfl, rfl⟩
  have hrecover := scanLiveArbitrationJournalSetRecovery_eq_ok.mpr
    ⟨hne, front, middle, hfront, hmiddle, hseen, rfl⟩
  refine ⟨some middle.scan, ?_, ?_⟩
  · rw [if_neg hne, hscan]
    rfl
  · rw [recoverArbitrationScan_eq (hmiddle.bytes_ne_nil hfront) hne, hrecover]
    rfl

theorem not_recoversExactly_of_torn (hchain : RunsChain codec {} (front ++ rest) state)
    (hlast : last.bytes ≠ []) (hrecord : ¬ last.hasRecord) :
    ¬ RecoversExactly codec before last := by
  rintro ⟨recovered, -, hrecovered⟩
  obtain ⟨middle, hmiddle, -⟩ := runsChain_append.mp hchain
  have hbytes : ∀ file ∈ before ++ [last], file.bytes ≠ [] := by
    intro file hfile
    rcases List.mem_append.mp hfile with hfile | hfile
    · exact hmiddle.bytes_ne_nil hfront file hfile
    · rwa [List.mem_singleton.mp hfile]
  rw [recoverArbitrationScan_eq hbytes (by simp)] at hrecovered
  rcases hscan : scanLiveArbitrationJournalSetRecovery codec (before ++ [last]) with e | scan
  · rw [hscan] at hrecovered
    cases hrecovered
  -- the walk would have to find a record in the torn segment
  obtain ⟨-, segments, reached, hsegments, hruns, -⟩ :=
    scanLiveArbitrationJournalSetRecovery_eq_ok.mp hscan
  obtain ⟨_, segment, -, hsegment, rfl⟩ := segmentsOf_concat_eq_some.mp hsegments
  obtain ⟨_, -, hne, -⟩ := runsChain_append.mp hruns
  obtain ⟨records, hrecords, rfl⟩ := Option.map_eq_some_iff.mp hsegment
  exact hrecord ((recordsOf_ne_nil_iff hrecords).mp hne)

end

/-- **Recovery from a cut, exactly**: it succeeds with the audit of the complete records that remain
    iff the cut leaves nothing of the last segment or at least its first record. -/
theorem recovers_exactly_iff (codec : JournalCodec) (before : List SegmentFile)
    (last : SegmentFile) (audit : LiveArbitrationScanV1 × Bool × Nat) (t : Nat)
    (haudit : scanLiveArbitrationJournalSetIncremental codec (before ++ [last]) = .ok audit) :
    RecoversExactly codec before (last.cut t) ↔ t = 0 ∨ (last.cut t).hasRecord := by
  obtain ⟨scan, tail⟩ := audit
  obtain ⟨-, segments, state, hsegments, hchain, hstarted, -⟩ :=
    scanLiveArbitrationJournalSetIncremental_eq_ok.mp haudit
  obtain ⟨front, segment, hfront, hsegment, rfl⟩ := segmentsOf_concat_eq_some.mp hsegments
  by_cases hrecord : (last.cut t).hasRecord
  · exact iff_of_true (recoversExactly_of_hasRecord hfront hsegment hchain hstarted hrecord)
      (Or.inr hrecord)
  rcases Nat.eq_zero_or_pos t with rfl | hpos
  · exact iff_of_true (recoversExactly_of_empty hfront hchain hstarted rfl)
      (Or.inl rfl)
  · have hbytes : (last.cut t).bytes ≠ [] := by
      have hlast : last.bytes ≠ [] := hchain.bytes_ne_nil hsegments last (by simp)
      show last.bytes.take t ≠ []
      rw [ne_eq, List.take_eq_nil_iff, not_or]
      exact ⟨Nat.ne_of_gt hpos, hlast⟩
    refine iff_of_false (not_recoversExactly_of_torn hfront hchain hbytes hrecord) ?_
    rintro (rfl | h)
    · exact absurd hpos (Nat.lt_irrefl 0)
    · exact hrecord h

/-- A crash inside the second record of a resumed segment is recovered from. -/
theorem second_record_cut_recovers :
    RecoversExactly (knownCodec [emptySegment, resumedSegment])
      [openingFile emptySegment resumedSegment]
      ((laterFile emptySegment resumedSegment).cut 480) := by
  have hrun : ((scanLiveArbitrationJournalSetIncremental (knownCodec [emptySegment, resumedSegment])
        ([openingFile emptySegment resumedSegment] ++ [laterFile emptySegment resumedSegment])).isOk,
      decide ((laterFile emptySegment resumedSegment).cut 480).hasRecord) = (true, true) := by
    decide +kernel
  obtain ⟨haccepted, hrecord⟩ := Prod.mk.inj hrun
  obtain ⟨audit, haudit⟩ := isOk_eq_true.mp haccepted
  exact (recovers_exactly_iff _ _ _ audit 480 haudit).mpr (Or.inr (of_decide_eq_true hrecord))

/-- A crash inside the first record of a resumed segment makes recovery fail, although the
    segment before it is whole. -/
theorem first_record_cut_is_not_recovered :
    ∃ audit remaining,
      scanLiveArbitrationJournalSetIncremental (knownCodec [emptySegment, resumedSegment])
        ([openingFile emptySegment resumedSegment] ++ [laterFile emptySegment resumedSegment])
          = .ok audit ∧
      remainingAudit (knownCodec [emptySegment, resumedSegment])
        [openingFile emptySegment resumedSegment]
        ((laterFile emptySegment resumedSegment).cut 1) = .ok remaining ∧
      recoverArbitrationScan (knownCodec [emptySegment, resumedSegment])
        ([openingFile emptySegment resumedSegment] ++
          [(laterFile emptySegment resumedSegment).cut 1]) = err "arbitration journal is empty" ∧
      ¬ RecoversExactly (knownCodec [emptySegment, resumedSegment])
        [openingFile emptySegment resumedSegment]
        ((laterFile emptySegment resumedSegment).cut 1) := by
  have hrun : ((scanLiveArbitrationJournalSetIncremental (knownCodec [emptySegment, resumedSegment])
        ([openingFile emptySegment resumedSegment] ++ [laterFile emptySegment resumedSegment])).isOk,
      (remainingAudit (knownCodec [emptySegment, resumedSegment])
        [openingFile emptySegment resumedSegment]
        ((laterFile emptySegment resumedSegment).cut 1)).isOk,
      decide (recoverArbitrationScan (knownCodec [emptySegment, resumedSegment])
        ([openingFile emptySegment resumedSegment] ++
          [(laterFile emptySegment resumedSegment).cut 1]) = err "arbitration journal is empty"))
      = (true, true, true) := by decide +kernel
  obtain ⟨haccepted, hrest⟩ := Prod.mk.inj hrun
  obtain ⟨hremains, hfails⟩ := Prod.mk.inj hrest
  obtain ⟨audit, haudit⟩ := isOk_eq_true.mp haccepted
  obtain ⟨remaining, hremaining⟩ := isOk_eq_true.mp hremains
  have hfails := of_decide_eq_true hfails
  refine ⟨audit, remaining, haudit, hremaining, hfails, ?_⟩
  rintro ⟨recovered, -, hrecovered⟩
  rw [hfails] at hrecovered
  cases hrecovered

end LobReplay
