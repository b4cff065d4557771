/-
  Torn-tail recovery of a raw log. A log cut anywhere behind its magic scans to exactly the records
  that end at or before the cut (`scan_cut_log`). Whatever a file holds behind the magic, the prefix
  a scan calls good scans to the same records and nothing else (`rescan_prefix`), so the
  verification at the end of `recover_raw_log_prefix` always passes (`recoverRawLogPrefix_outcome`).
-/

import LobReplay.Raw.RoundTrip

namespace LobReplay.Raw

open Foundation Std RawLogWriter

/-- The receipts of the records that end at or before `t`. -/
def keptBy (t : Nat) (receipts : List AppendReceiptV1) : List AppendReceiptV1 :=
  receipts.filter fun receipt => decide (receipt.endOffset ≤ t)

/-- A scan of a log cut at `t` reports the records that end at or before `t`: how many they
    are, where the last of them ends, its digest, and whether the cut is a record boundary. -/
structure CutReport (receipts : List AppendReceiptV1) (initialPrevious : String) (t : Nat)
    (scan : RawLogScanV1) : Prop where
  records_eq : scan.records = (keptBy t receipts).length
  offset_eq : scan.lastGoodOffset
    = ((keptBy t receipts).map (·.endOffset)).foldl max magic.length
  digest_eq : scan.lastRecordSha256
    = ((keptBy t receipts).getLast?.map (·.recordSha256)).getD initialPrevious
  clean_iff : scan.cleanEof = true ↔
    t = magic.length ∨ ∃ receipt ∈ receipts, receipt.endOffset = t

/-! ## Receipts and records -/

theorem envelopes_endOffset (recordIndex offset : Nat) (items : List (ReadRecord × Nat)) :
    (envelopes recordIndex offset items).map (·.endOffset) = ends offset items := by
  induction items generalizing recordIndex offset with
  | nil => rfl
  | cons item rest ih => rw [envelopes, List.map_cons, ends, ih]

theorem envelopes_recordSha256 (recordIndex offset : Nat) (items : List (ReadRecord × Nat)) :
    (envelopes recordIndex offset items).map (·.recordSha256)
      = items.map (·.1.recordSha256) := by
  induction items generalizing recordIndex offset with
  | nil => rfl
  | cons item rest ih => rw [envelopes, List.map_cons, List.map_cons, ih]

variable {receipts : List AppendReceiptV1} {items : List (ReadRecord × Nat)}
  {frames : List CapturedFrame} {codec : RawCodec} {t : Nat} {file : File}

theorem promised_map {α : Type} (f : RawRecordEnvelopeV1 → α) (g : AppendReceiptV1 → α)
    (hfg : ∀ recordIndex startOffset receipt frame,
      f ⟨"RawRecordEnvelopeV1", recordIndex, startOffset, receipt.endOffset, receipt.recordSha256,
        frame⟩ = g receipt)
    (hlength : receipts.length = frames.length) (startOffset : Nat) :
    (promised startOffset frames receipts).map f = receipts.map g := by
  induction receipts generalizing frames startOffset with
  | nil => cases frames <;> rfl
  | cons receipt receipts ih =>
    rcases frames with _ | ⟨frame, frames⟩
    · simp at hlength
    · rw [promised, List.map_cons, List.map_cons, hfg, ih (Nat.succ.inj hlength)]

theorem receipts_of_items {recordIndex offset : Nat} (hlength : receipts.length = frames.length)
    (h : envelopes recordIndex offset items = promised offset frames receipts) :
    receipts.map (·.endOffset) = ends offset items ∧
      receipts.map (·.recordSha256) = items.map (·.1.recordSha256) := by
  refine ⟨?_, ?_⟩
  · rw [← envelopes_endOffset recordIndex, h,
      promised_map _ (·.endOffset) (fun _ _ _ _ => rfl) hlength]
  · rw [← envelopes_recordSha256 recordIndex offset, h,
      promised_map _ (·.recordSha256) (fun _ _ _ _ => rfl) hlength]

theorem reads_previous {lockedIdentity : Option Identity} {chain chain' : ChainState}
    {log rest : Bytes} (h : Reads (rawReader codec lockedIdentity) chain log items chain' rest) :
    chain'.previous = ((items.map (·.1.recordSha256)).getLast?).getD chain.previous := by
  induction h with
  | nil => rfl
  | @cons chain middle chain' log rest record used items head tail ih =>
    rw [ih, List.map_cons, List.getLast?_cons, ← (readNextRawRecord_of_item head).2.2.2]
    rfl

/-! ## A cut log -/

theorem keptBy_eq {kept lost : List (ReadRecord × Nat)}
    (hends : receipts.map (·.endOffset) = ends magic.length (kept ++ lost))
    (hkept : magic.length + span kept ≤ t)
    (hlost : ∀ first ∈ lost.head?, t < magic.length + span kept + first.2) :
    keptBy t receipts = receipts.take kept.length ∧
      (keptBy t receipts).map (·.endOffset) = ends magic.length kept ∧
      ∀ receipt ∈ receipts, receipt.endOffset ≤ t →
        receipt.endOffset ≤ magic.length + span kept := by
  rw [ends_append] at hends
  obtain ⟨before, after, rfl, hbefore, hafter⟩ := List.map_eq_append_iff.mp hends
  have hbeforeLe : ∀ receipt ∈ before, receipt.endOffset ≤ magic.length + span kept := by
    intro receipt hmem
    refine ends_le _ ?_
    rw [← hbefore]
    exact List.mem_map_of_mem hmem
  have hafterGt : ∀ receipt ∈ after, t < receipt.endOffset := by
    intro receipt hmem
    have hend : receipt.endOffset ∈ ends (magic.length + span kept) lost := by
      rw [← hafter]
      exact List.mem_map_of_mem hmem
    rcases lost with _ | ⟨first, lost⟩
    · simp [ends] at hend
    · exact Nat.lt_of_lt_of_le (hlost first rfl) (le_ends first rfl _ hend)
  have hfilter : keptBy t (before ++ after) = before := by
    rw [keptBy, List.filter_append, List.filter_eq_self.mpr, List.filter_eq_nil_iff.mpr,
      List.append_nil]
    · intro receipt hmem
      have := hafterGt receipt hmem
      simp only [decide_eq_true_eq]
      omega
    · intro receipt hmem
      have := hbeforeLe receipt hmem
      simp only [decide_eq_true_eq]
      omega
  have hcount : before.length = kept.length := by
    have hlength := congrArg List.length hbefore
    rw [List.length_map] at hlength
    rw [hlength]
    exact ends_length _ _
  refine ⟨?_, ?_, ?_⟩
  · rw [hfilter, ← hcount, List.take_left]
  · rw [hfilter, hbefore]
  · intro receipt hmem hle
    rcases List.mem_append.mp hmem with hmem | hmem
    · exact hbeforeLe receipt hmem
    · have := hafterGt receipt hmem
      omega

theorem scanLog_eq {codec : RawCodec} {genesis : Option RawSegmentGenesisV1}
    (hgenesis : ∀ g, genesis = some g → validateSegmentGenesis g = .ok ()) (path : String)
    (file : File) :
    scanLog codec path file genesis
      = scanRawLogFrom codec path file (startChain genesis).previous (startChain genesis).expected
          (lockOf genesis) := by
  rcases genesis with _ | g
  · rfl
  · show scanRawSegment codec path file g = _
    rw [scanRawSegment, hgenesis g rfl]
    rfl

/-- **Cut.** A log cut at a byte behind its magic scans to the records that end at or before
    the cut. -/
theorem scan_cut_log {genesis : Option RawSegmentGenesisV1} {writer : RawLogWriter} (path : String)
    (h : Intact codec genesis items writer)
    (hgenesis : ∀ g, genesis = some g → validateSegmentGenesis g = .ok ())
    (hends : receipts.map (·.endOffset) = ends magic.length items)
    (hshas : receipts.map (·.recordSha256) = items.map (·.1.recordSha256))
    (hmagic : magic.length ≤ t) (ht : t ≤ writer.sink.file.len) :
    ∃ scan, scanLog codec path (writer.sink.file.cut t) genesis = .ok scan ∧
      CutReport receipts (startChain genesis).previous t scan := by
  obtain ⟨log, hbytes, hreads⟩ := h.reads
  have hlog : t - magic.length ≤ log.length := by
    rw [File.len, hbytes, List.length_append] at ht
    omega
  have hcut : (writer.sink.file.cut t).bytes = magic ++ log.take (t - magic.length) := by
    rw [File.cut_bytes, hbytes, List.take_append, List.take_of_length_le hmagic]
  obtain ⟨kept, lost, middle, rfl, hspan, hfirst, hkept, hend⟩ := hreads.cut hlog
  have hrest : (log.take (t - magic.length)).drop (span kept) = [] ↔
      t = magic.length + span kept := by
    rw [List.drop_eq_nil_iff, List.length_take]
    omega
  have hend' : (log.take (t - magic.length)).drop (span kept) = [] ∨
      ∃ message state, nextRecord codec (lockOf genesis) middle
        ((log.take (t - magic.length)).drop (span kept)) = .fail (.err message) state := by
    rcases hend with hend | ⟨_, state, ⟨message, rfl⟩, hfail⟩
    · exact Or.inl (hrest.mpr (by omega))
    · exact Or.inr ⟨message, state, hfail⟩
  obtain ⟨scan, hscan, hreports⟩ := scanRawLogFrom_of_reads path hcut hkept hend'
  obtain ⟨htake, hkeptEnds, hbound⟩ := keptBy_eq (t := t) hends (by omega)
    (fun first hmem => by
      have := hfirst first hmem
      omega)
  have hkeptShas : (keptBy t receipts).map (·.recordSha256) = kept.map (·.1.recordSha256) := by
    rw [htake, List.map_take, hshas, List.map_append, ← List.length_map (·.1.recordSha256),
      List.take_left]
  refine ⟨scan, by rw [scanLog_eq hgenesis]; exact hscan, ⟨?_, ?_, ?_, ?_⟩⟩
  · have hcount := congrArg List.length hkeptShas
    rw [List.length_map, List.length_map] at hcount
    rw [hreports.records_eq, hcount]
  · rw [hreports.offset_eq, hkeptEnds, foldl_max_ends]
  · rw [hreports.digest_eq, reads_previous hkept, ← hkeptShas, List.getLast?_map]
  · rw [hreports.clean_iff, hrest]
    refine ⟨?_, ?_⟩
    · rintro hboundary
      rcases span_eq_zero_or_mem_ends magic.length kept with rfl | hmem
      · exact Or.inl hboundary
      · rw [← hkeptEnds, ← hboundary] at hmem
        obtain ⟨receipt, hreceipt, hend⟩ := List.mem_map.mp hmem
        exact Or.inr ⟨receipt, List.mem_of_mem_filter hreceipt, hend⟩
    · rintro (rfl | ⟨receipt, hreceipt, hend⟩)
      · omega
      · have := hbound receipt hreceipt (Nat.le_of_eq hend)
        omega

/-! ## Arbitrary bytes -/

/-- **Rescan.** The good prefix of any file that begins with the magic scans cleanly, to the
    same records. -/
theorem rescan_prefix (codec : RawCodec) (path path' : String) (hmagic : magic <+: file.bytes) :
    ∃ scan again, scanRawLog codec path file = .ok scan ∧
      magic.length ≤ scan.lastGoodOffset ∧ scan.lastGoodOffset ≤ file.len ∧
      scanRawLog codec path' (file.cut scan.lastGoodOffset) = .ok again ∧
      again.cleanEof = true ∧ again.records = scan.records ∧
      again.lastRecordSha256 = scan.lastRecordSha256 := by
  obtain ⟨log, hbytes⟩ := hmagic
  obtain ⟨scan, items, chain, rest, hscan, hreads, hreports⟩ :=
    exists_scan codec path hbytes.symm
  have hspan := hreads.rest_eq.1
  have hlen : file.len = magic.length + log.length := by
    rw [File.len, ← hbytes, List.length_append]
  have hcut : (file.cut scan.lastGoodOffset).bytes = magic ++ log.take (span items) := by
    rw [File.cut_bytes, ← hbytes, hreports.offset_eq, List.take_length_add_append]
  obtain ⟨again, hagain, hagainReports⟩ :=
    scanRawLogFrom_of_reads path' hcut hreads.front (Or.inl rfl)
  refine ⟨scan, again, hscan, ?_, ?_, hagain, hagainReports.clean_iff.mpr rfl, ?_, ?_⟩
  · rw [hreports.offset_eq]
    omega
  · rw [hreports.offset_eq, hlen]
    omega
  · rw [hagainReports.records_eq, hreports.records_eq]
  · rw [hagainReports.digest_eq, hreports.digest_eq]

/-- Without the magic a scan finds nothing and there is nothing to recover. -/
theorem scanRawLog_of_not_magic (codec : RawCodec) (path : String)
    (hmagic : ¬ magic <+: file.bytes) :
    ∃ scan, scanRawLog codec path file = .ok scan ∧ scan.records = 0 ∧
      scan.lastGoodOffset = 0 ∧ scan.cleanEof = false := by
  have hread : ∃ e, readMagic file.bytes = .error e := by
    unfold readMagic
    split
    · exact ⟨_, rfl⟩
    · next hlong =>
      rw [if_pos]
      · exact ⟨_, rfl⟩
      · intro htake
        exact hmagic ⟨file.bytes.drop 8, by rw [← htake, List.take_append_drop]⟩
  obtain ⟨e, he⟩ := hread
  unfold scanRawLog scanRawLogFrom
  simp only [he]
  exact ⟨_, rfl, rfl, rfl, rfl⟩

/-- Recovery refuses a file without the magic and a file that is whole, and else it succeeds
    with the records its scan counted. -/
def RecoveryOutcome (codec : RawCodec) (source : String) (file : File) (destination : String) :
    Prop :=
  (¬ magic <+: file.bytes ∧ recoverRawLogPrefix codec source file destination
    = err "source has no recoverable BNRAW prefix") ∨
  (∃ scan, scanRawLog codec source file = .ok scan ∧ scan.cleanEof = true ∧
    recoverRawLogPrefix codec source file destination
      = err "source raw log already has a clean EOF") ∨
  (∃ scan recovery, scanRawLog codec source file = .ok scan ∧ scan.cleanEof = false ∧
    recoverRawLogPrefix codec source file destination
      = .ok (recovery, file.cut scan.lastGoodOffset) ∧
    recovery.recoveredRecords = scan.records ∧
    recovery.lastRecordSha256 = scan.lastRecordSha256)

/-- **Recovery** never fails its own verification. -/
theorem recoverRawLogPrefix_outcome (codec : RawCodec) (source : String) (file : File)
    (destination : String) : RecoveryOutcome codec source file destination := by
  unfold RecoveryOutcome
  unfold recoverRawLogPrefix
  by_cases hmagic : magic <+: file.bytes
  · obtain ⟨scan, again, hscan, hlow, hhigh, hagain, hclean, hrecords, hdigest⟩ :=
      rescan_prefix codec source destination hmagic
    have hcopied : (file.cut scan.lastGoodOffset).len = scan.lastGoodOffset := by
      rw [File.len, File.cut_bytes, List.length_take]
      exact Nat.min_eq_left hhigh
    rw [hscan]
    by_cases heof : scan.cleanEof = true
    · exact Or.inr (Or.inl ⟨scan, rfl, heof, if_pos heof⟩)
    · refine Or.inr (Or.inr ⟨scan,
        { schema := "RawRecoveryV1", source, destination, sourceFileSize := scan.fileSize
          copiedValidPrefixBytes := scan.lastGoodOffset
          excludedTailBytes := scan.fileSize - scan.lastGoodOffset
          recoveredRecords := again.records, lastRecordSha256 := again.lastRecordSha256 },
        rfl, by simpa using heof, ?_, hrecords, hdigest⟩)
      show (if scan.cleanEof = true then _ else _) = _
      rw [if_neg heof, if_neg (Nat.not_lt.mpr hlow)]
      simp only [hcopied, ne_eq, not_true_eq_false, if_false, hagain]
      exact if_neg (by simp [hclean, hrecords, hdigest])
  · obtain ⟨scan, hscan, -, hoffset, hclean⟩ :=
      scanRawLog_of_not_magic codec source hmagic
    refine Or.inl ⟨hmagic, ?_⟩
    rw [hscan]
    show (if scan.cleanEof = true then _ else _) = _
    rw [if_neg (by simp [hclean]), if_pos (by rw [hoffset]; decide)]

/-- **Torn-tail recovery.** A log cut behind its magic scans to exactly the records that end at or
    before the cut, and recovery never fails its own verification. -/
theorem torn_tail_recovery (codec : RawCodec) (hcodec : codec.Lawful) :
    (∀ (faults : List Fault) (syncEvery : Nat) (genesis : Option RawSegmentGenesisV1)
      (writer writer' : RawLogWriter) (frames : List CapturedFrame)
      (receipts : List AppendReceiptV1) (path : String) (t : Nat),
      openLog (Sink.fresh faults) syncEvery genesis = .ok writer →
      writer.appendAll codec frames = .ok (receipts, writer') →
      magic.length ≤ t → t ≤ writer'.sink.file.len →
      ∃ scan, scanLog codec path (writer'.sink.file.cut t) genesis = .ok scan ∧
        CutReport receipts (startChain genesis).previous t scan) ∧
    (∀ (file : File) (path path' : String), magic <+: file.bytes →
      ∃ scan again, scanRawLog codec path file = .ok scan ∧
        scanRawLog codec path' (file.cut scan.lastGoodOffset) = .ok again ∧
        again.cleanEof = true ∧ again.records = scan.records ∧
        again.lastRecordSha256 = scan.lastRecordSha256) ∧
    (∀ (source : String) (file : File) (destination : String),
      RecoveryOutcome codec source file destination) := by
  refine ⟨?_, ?_, recoverRawLogPrefix_outcome codec⟩
  · intro faults syncEvery genesis writer writer' frames receipts path t hopen happend hmagic ht
    obtain ⟨hintact, hgenesis⟩ := openLog_intact codec hopen
    obtain ⟨hlength, items, hitems, hpromised⟩ := appendAll_intact hcodec hintact happend
    rw [show writer.endOffset = magic.length from hintact.offset_eq] at hpromised
    obtain ⟨hends, hshas⟩ := receipts_of_items hlength hpromised
    exact scan_cut_log path hitems hgenesis hends hshas hmagic ht
  · intro file path path' hmagic
    obtain ⟨scan, again, hscan, -, -, hagain, hclean, hrecords, hdigest⟩ :=
      rescan_prefix codec path path' hmagic
    exact ⟨scan, again, hscan, hagain, hclean, hrecords, hdigest⟩

/-- A log of two records, cut inside the second. -/
theorem two_streams_cut :
    ∃ writer receipts writer' scan, openLog (Sink.fresh []) 1 none = .ok writer ∧
      writer.appendAll sampleCodec sampleFrames = .ok (receipts, writer') ∧
      scanLog sampleCodec "raw.bin" (writer'.sink.file.cut 700) none = .ok scan ∧
      CutReport receipts zeroDigest 700 scan := by
  have hrun : (((openLog (Sink.fresh []) 1 none) >>= fun writer =>
      writer.appendAll sampleCodec sampleFrames).map fun run => run.2.sink.file.len) = .ok 1224 := by
    decide +kernel
  rcases hopen : openLog (Sink.fresh []) 1 none with e | writer
  · rw [hopen] at hrun
    cases hrun
  rcases happend : writer.appendAll sampleCodec sampleFrames with e | ⟨receipts, writer'⟩
  · simp [hopen, happend, bind, Except.bind, Except.map] at hrun
  have hlen : writer'.sink.file.len = 1224 := by
    simpa [hopen, happend, bind, Except.bind, Except.map] using hrun
  obtain ⟨scan, hscan, hreport⟩ := (torn_tail_recovery sampleCodec sampleCodec_lawful).1 [] 1 none
    writer writer' sampleFrames receipts "raw.bin" 700 hopen happend (by decide)
    (by rw [hlen]; decide)
  exact ⟨writer, receipts, writer', scan, rfl, happend, hscan, hreport⟩

/-- A file whose magic is torn has a good prefix of no bytes, which does not scan cleanly. -/
theorem torn_magic_prefix_is_not_clean :
    ∃ file scan again, file.bytes = [66, 78, 82, 65, 87] ∧
      scanRawLog sampleCodec "raw.bin" file = .ok scan ∧ scan.lastGoodOffset = 0 ∧
      scanRawLog sampleCodec "raw.bin" (file.cut scan.lastGoodOffset) = .ok again ∧
      again.cleanEof = false :=
  ⟨⟨[66, 78, 82, 65, 87], by decide⟩, _, _, rfl, rfl, rfl, rfl, rfl⟩

end LobReplay.Raw
