/-
  A segment written in step with an unsegmented log. Whatever the unsegmented writer accepts, the
  segment's writer accepts too and appends the same bytes, because the genesis hands over exactly
  what the next record depends on: the digest before it and the next frame index (`append_inStep`,
  `appendAll_inStep`).
-/

import LobReplay.Segment.Manifest

namespace LobReplay.Raw

open Foundation RawLogWriter
open Std (ExtTreeMap)

/-! ## Accepted appends -/

namespace RawLogWriter

section

variable {codec : RawCodec} {genesis : Option RawSegmentGenesisV1}
  {items : List (ReadRecord × Nat)} {writer writer' : RawLogWriter}

theorem counted_expected (sink : Sink) (key : Identity) (digest : FixedBytes 32) (length : Nat) :
    (writer.counted sink key digest length).expected
      = writer.expected.insert key (writer.expected.next key + 1) := rfl

/-- A sync that succeeds acknowledges the bookkeeping and leaves it. -/
theorem sync_ok {ack : DurabilityAckV1} (h : writer.sync = (.ok ack, writer')) :
    ∃ sink, writer' = { writer with sink, sinceSync := 0, lastAck := some writer.currentAck } ∧
      ack = writer.currentAck ∧ sink.file = writer.sink.file := by
  unfold sync at h
  split at h
  · cases h
  · rcases hsync : writer.sink.flushAndSyncAll with ⟨e | _, sink⟩
    · simp only [hsync, err] at h
      cases h
    · simp only [hsync] at h
      cases h
      exact ⟨sink, rfl, rfl, (Sink.flushAndSyncAll_ok hsync).1⟩

variable {receipt : AppendReceiptV1} {frame : CapturedFrame} {frames : List CapturedFrame}
  {receipts : List AppendReceiptV1}

/-- A receipt is given by a sync at most: the record, the frame indices and the bytes stay. -/
theorem receipt_ok {index : Nat} (h : writer.receipt index = (.ok receipt, writer')) :
    receipt.recordSha256 = writer.previousDigest ∧ receipt.endOffset = writer.endOffset ∧
      writer'.previousDigest = writer.previousDigest ∧ writer'.expected = writer.expected ∧
      writer'.endOffset = writer.endOffset ∧ writer'.sink.file = writer.sink.file := by
  unfold RawLogWriter.receipt at h
  split at h
  · rcases hsync : writer.sync with ⟨e | ack, synced⟩
    · simp only [hsync] at h
      cases h
    · simp only [hsync] at h
      cases h
      obtain ⟨sink, rfl, -, hfile⟩ := sync_ok hsync
      exact ⟨rfl, rfl, rfl, rfl, rfl, hfile⟩
  · cases h
    exact ⟨rfl, rfl, rfl, rfl, rfl, rfl⟩

/-- **Inversion.** What an accepted append has checked and written. -/
theorem append_ok (h : Intact codec genesis items writer)
    (happend : writer.append codec frame = (.ok receipt, writer')) :
    ∃ body sink, frame.frameIndex = writer.expected.next frame.identity ∧
      writer.expected.next frame.identity ≠ maxU64 ∧
      serialize codec (rawRecord codec frame writer.previousDigest) = .ok body ∧
      writer.sink.writeAll (framed body (codec.digest body)) = (.ok (), sink) ∧
      (writer.counted sink frame.identity (codec.digest body)
        (framed body (codec.digest body)).length).receipt items.length = (.ok receipt, writer') := by
  unfold append at happend
  rw [if_neg (by simp [h.open_eq])] at happend
  split at happend
  · cases happend
  by_cases hindex : frame.frameIndex = writer.expected.next frame.identity
  case neg =>
    rw [if_pos hindex] at happend
    cases happend
  rw [if_neg (not_not.mpr hindex)] at happend
  rcases hbody : serialize codec (rawRecord codec frame writer.previousDigest) with e | body
  · simp only [hbody] at happend
    cases happend
  simp only [hbody] at happend
  rcases hwrite : writer.sink.writeAll (framed body (codec.digest body)) with ⟨e | _, sink⟩
  · simp only [hwrite, err] at happend
    cases happend
  simp only [hwrite] at happend
  by_cases hmax : writer.expected.next frame.identity = maxU64
  · simp only [commit, if_pos hmax] at happend
    cases happend
  rw [commit_eq h (codec.digest body) hmax hwrite] at happend
  exact ⟨body, sink, hindex, hmax, rfl, hwrite, happend⟩

theorem append_intact (hcodec : codec.Lawful) (h : Intact codec genesis items writer)
    (happend : writer.append codec frame = (.ok receipt, writer')) :
    ∃ item, Intact codec genesis (items ++ [item]) writer' := by
  rcases append_cases hcodec h frame with ⟨message, hresult⟩ | ⟨message, _, hresult, -⟩ |
    ⟨_, hresult, -⟩ | ⟨receipt', middle, hresult, haccepted⟩
  · rw [hresult] at happend
    cases happend
  · rw [hresult] at happend
    cases happend
  · rw [hresult] at happend
    cases happend
  · rw [hresult] at happend
    cases happend
    obtain ⟨item, hintact, -⟩ := haccepted.intact
    exact ⟨item, hintact⟩

/-- The first of several accepted appends. -/
theorem appendAll_cons
    (happend : writer.appendAll codec (frame :: frames) = .ok (receipts, writer')) :
    ∃ receipt middle rest, writer.append codec frame = (.ok receipt, middle) ∧
      middle.appendAll codec frames = .ok (rest, writer') ∧ receipts = receipt :: rest := by
  rw [appendAll] at happend
  rcases hfirst : writer.append codec frame with ⟨e | receipt, middle⟩
  · simp only [hfirst] at happend
    cases happend
  · simp only [hfirst, bind_eq_ok, Prod.exists, Except.ok.injEq, Prod.mk.injEq] at happend
    obtain ⟨rest, last, hrest, rfl, rfl⟩ := happend
    exact ⟨receipt, middle, rest, rfl, hrest, rfl⟩

theorem appendAll_append {more : List CapturedFrame}
    (happend : writer.appendAll codec (frames ++ more) = .ok (receipts, writer')) :
    ∃ own middle rest, writer.appendAll codec frames = .ok (own, middle) ∧
      middle.appendAll codec more = .ok (rest, writer') ∧ receipts = own ++ rest ∧
      own.length = frames.length := by
  induction frames generalizing writer receipts with
  | nil => exact ⟨[], writer, receipts, rfl, happend, rfl, rfl⟩
  | cons frame frames ih =>
    obtain ⟨receipt, middle, tail, hfirst, htail, rfl⟩ := appendAll_cons happend
    obtain ⟨own, last, rest, hown, hrest, rfl, hlength⟩ := ih htail
    refine ⟨receipt :: own, last, rest, ?_, hrest, rfl, ?_⟩
    · rw [appendAll]
      simp only [hfirst, hown]
      rfl
    · rw [List.length_cons, List.length_cons, hlength]

/-- **Run.** What accepted frames of one identity leave in the bookkeeping. -/
theorem appendAll_counts (hcodec : codec.Lawful) {key : Identity}
    (hidentity : ∀ frame ∈ frames, frame.identity = key) (h : Intact codec genesis items writer)
    (happend : writer.appendAll codec frames = .ok (receipts, writer')) :
    (∃ items', Intact codec genesis items' writer') ∧
      (writer'.expected.next key).toNat = (writer.expected.next key).toNat + frames.length ∧
      writer'.previousDigest
        = (receipts.getLast?.map (·.recordSha256)).getD writer.previousDigest ∧
      writer'.endOffset = (receipts.getLast?.map (·.endOffset)).getD writer.endOffset := by
  induction frames generalizing items writer receipts with
  | nil =>
    cases happend
    exact ⟨⟨items, h⟩, rfl, rfl, rfl⟩
  | cons frame frames ih =>
    obtain ⟨receipt, middle, rest, hfirst, hrest, rfl⟩ := appendAll_cons happend
    obtain ⟨item, hmiddle⟩ := append_intact hcodec h hfirst
    obtain ⟨hend, hnext, hdigest, hoffset⟩ :=
      ih (fun f hf => hidentity f (List.mem_cons_of_mem _ hf)) hmiddle hrest
    obtain ⟨body, sink, -, hmax, -, -, hreceipt⟩ := append_ok h hfirst
    obtain ⟨hsha, hoff, hprevious, hexpected, hendOffset, -⟩ := receipt_ok hreceipt
    have hkey := hidentity frame List.mem_cons_self
    rw [hkey] at hmax hexpected
    have hstep : (middle.expected.next key).toNat = (writer.expected.next key).toNat + 1 := by
      rw [hexpected, counted_expected, next_insert, if_pos rfl, ← saturatingAdd_one hmax,
        saturatingAdd_toNat]
      have hne : (writer.expected.next key).toNat ≠ u64Max := by
        intro heq
        exact hmax (UInt64.toNat_inj.mp (heq.trans maxU64_toNat.symm))
      have hle := toNat_le_u64Max (writer.expected.next key)
      rw [UInt64.toNat_one]
      exact Nat.min_eq_left (Nat.lt_of_le_of_ne hle hne)
    refine ⟨hend, ?_, ?_, ?_⟩
    · rw [hnext, hstep, List.length_cons]
      omega
    · rw [hdigest, hprevious, ← hsha]
      cases rest with
      | nil => rfl
      | cons r rest =>
        rw [List.getLast?_cons_cons, List.getLast?_eq_some_getLast (List.cons_ne_nil r rest)]
        rfl
    · rw [hoffset, hendOffset, ← hoff]
      cases rest with
      | nil => rfl
      | cons r rest =>
        rw [List.getLast?_cons_cons, List.getLast?_eq_some_getLast (List.cons_ne_nil r rest)]
        rfl

theorem receipt_clean (h : Intact codec genesis items writer) (hfaults : writer.sink.faults = [])
    (index : Nat) :
    ∃ receipt writer', writer.receipt index = (.ok receipt, writer') ∧
      Intact codec genesis items writer' ∧ writer'.sink.faults = [] := by
  unfold RawLogWriter.receipt
  split
  · have hsync : writer.sync = (.ok writer.currentAck,
        { writer with sinceSync := 0, lastAck := some writer.currentAck }) := by
      unfold sync
      rw [if_neg (by simp [h.open_eq]), Sink.flushAndSyncAll_clean hfaults]
    simp only [hsync]
    exact ⟨_, _, rfl, ⟨h.open_eq, h.sound_eq, h.lock_eq, h.reads, h.count_eq, h.offset_eq,
      Nat.zero_le _⟩, hfaults⟩
  · exact ⟨_, _, rfl, h, hfaults⟩

end

end RawLogWriter

/-! ## In step -/

/-- The segment's writer goes on from the same digest and frame index as the unsegmented one,
    which has written `base` before it. -/
structure InStep (codec : RawCodec) (genesis : RawSegmentGenesisV1) (base : Bytes)
    (items : List (ReadRecord × Nat)) (segment log : RawLogWriter) : Prop where
  intact : Intact codec (some genesis) items segment
  faults_eq : segment.sink.faults = []
  digest_eq : segment.previousDigest = log.previousDigest
  expected_eq : segment.expected = single genesis.identity (log.expected.next genesis.identity)
  bytes : ∃ added, segment.sink.file.bytes = magic ++ added ∧ log.sink.file.bytes = base ++ added
  base_le : magic.length ≤ base.length

theorem next_single (key : Identity) (next : UInt64) : (single key next).next key = next := by
  rw [single, next_insert, if_pos rfl]

section

variable {codec : RawCodec} {genesis : RawSegmentGenesisV1} {base : Bytes}
  {items logItems : List (ReadRecord × Nat)} {segment log log' : RawLogWriter}

/-- **Step.** What the unsegmented writer accepts, the segment's writer accepts, with the same
    bytes. -/
theorem append_inStep (hcodec : codec.Lawful) (h : InStep codec genesis base items segment log)
    (hlog : Intact codec none logItems log) {frame : CapturedFrame}
    (hidentity : frame.identity = genesis.identity) {receipt : AppendReceiptV1}
    (happend : log.append codec frame = (.ok receipt, log')) :
    ∃ receipt' segment' item, segment.append codec frame = (.ok receipt', segment') ∧
      InStep codec genesis base (items ++ [item]) segment' log' := by
  obtain ⟨body, sink, hindex, hmax, hbody, hwrite, hreceipt⟩ := append_ok hlog happend
  obtain ⟨-, -, hdigest, hexpected, -, hfile⟩ := receipt_ok hreceipt
  obtain ⟨added, hsegment, hbase⟩ := h.bytes
  have hnext : segment.expected.next frame.identity = log.expected.next frame.identity := by
    rw [h.expected_eq, hidentity, next_single]
  -- the segment is no longer than the log, so what the log had room for fits
  have hfits : segment.sink.file.fits (framed body (codec.digest body)).length := by
    have hle := sink.file.length_le
    have hbase_le := h.base_le
    rw [(Sink.writeAll_ok hwrite).1, hbase, List.length_append, List.length_append] at hle
    rw [File.fits, File.len, hsegment, List.length_append]
    omega
  obtain ⟨sink', hwrite', hfaults', hbytes'⟩ := Sink.writeAll_clean segment.sink h.faults_eq hfits
  have hlock : segment.lockedIdentity = some frame.identity := by
    rw [h.intact.lock_eq, hidentity]
    rfl
  have hbody' : serialize codec (rawRecord codec frame segment.previousDigest) = .ok body := by
    rw [h.digest_eq]
    exact hbody
  have hallows : lockAllows segment.lockedIdentity frame.toRawFrame = true := by
    simp only [hlock, lockAllows, Option.any_some, Bool.not_eq_true', decide_eq_false_iff_not,
      not_not]
    rfl
  have hcounted := counted_intact hcodec h.intact hbody' (hnext ▸ hindex) (hnext ▸ hmax) hallows
    hwrite'
  obtain ⟨receipt', segment', hreceipt', hintact, hfaults⟩ :=
    receipt_clean hcounted hfaults' items.length
  obtain ⟨-, -, hdigest', hexpected', -, hfile'⟩ := receipt_ok hreceipt'
  refine ⟨receipt', segment', _, ?_, hintact, hfaults, ?_, ?_, ?_, h.base_le⟩
  · unfold append
    rw [if_neg (by simp [h.intact.open_eq]), if_neg (by simp [hlock]),
      if_neg (not_not.mpr (hnext ▸ hindex)), hbody']
    simp only [hwrite']
    rw [commit_eq h.intact (codec.digest body) (hnext ▸ hmax) hwrite']
    exact hreceipt'
  · rw [hdigest', hdigest]
    rfl
  · rw [hexpected', hexpected, counted_expected, counted_expected, hnext, h.expected_eq, hidentity,
      single_insert, next_insert, if_pos rfl]
  · refine ⟨added ++ framed body (codec.digest body), ?_, ?_⟩
    · rw [hfile']
      show sink'.file.bytes = _
      rw [hbytes', hsegment, List.append_assoc]
    · rw [hfile]
      show sink.file.bytes = _
      rw [(Sink.writeAll_ok hwrite).1, hbase, List.append_assoc]

/-- **Run.** A list of frames the unsegmented writer accepts is accepted by the segment's
    writer, with the same bytes. -/
theorem appendAll_inStep (hcodec : codec.Lawful) {frames : List CapturedFrame}
    (hidentity : ∀ frame ∈ frames, frame.identity = genesis.identity)
    {receipts : List AppendReceiptV1} (h : InStep codec genesis base items segment log)
    (hlog : Intact codec none logItems log)
    (happend : log.appendAll codec frames = .ok (receipts, log')) :
    ∃ receipts' segment' added, segment.appendAll codec frames = .ok (receipts', segment') ∧
      InStep codec genesis base (items ++ added) segment' log' ∧
      added.length = frames.length := by
  induction frames generalizing items logItems segment log receipts with
  | nil =>
    cases happend
    exact ⟨[], segment, [], rfl, by rwa [List.append_nil], rfl⟩
  | cons frame frames ih =>
    obtain ⟨receipt, middle, rest, hfirst, hrest, -⟩ := appendAll_cons happend
    obtain ⟨logItem, hmiddle⟩ := append_intact hcodec hlog hfirst
    obtain ⟨receipt', segment₁, item, hsegment, hstep⟩ :=
      append_inStep hcodec h hlog (hidentity frame List.mem_cons_self) hfirst
    obtain ⟨receipts', segment', added, hall, hend, hlength⟩ :=
      ih (fun f hf => hidentity f (List.mem_cons_of_mem _ hf)) hstep hmiddle hrest
    refine ⟨receipt' :: receipts', segment', item :: added, ?_, ?_, ?_⟩
    · rw [appendAll]
      simp only [hsegment, hall]
      rfl
    · rwa [List.append_assoc] at hend
    · rw [List.length_cons, List.length_cons, hlength]

end

/-! ## Sealing what was written -/

theorem toList_single (key : Identity) (next : UInt64) :
    (single key next).toList = [(key, next)] := by
  have hsize : (single key next).toList.length = 1 := by
    rw [ExtTreeMap.length_toList, single, ExtTreeMap.size_insert]
    simp
  obtain ⟨entry, hentry⟩ := List.length_eq_one_iff.mp hsize
  have hmem : (key, next) ∈ (single key next).toList := by
    rw [ExtTreeMap.mem_toList_iff_getElem?_eq_some, single, ExtTreeMap.getElem?_insert_self]
  rw [hentry, List.mem_singleton] at hmem
  rw [hentry, hmem]

theorem durabilityWatermarks_single (key : Identity) {next : UInt64} (h : next ≠ 0) :
    durabilityWatermarks (single key next) = [⟨key.1, key.2, next - 1⟩] := by
  rw [durabilityWatermarks, toList_single]
  simp [h]

theorem validateSha256_of_lower {value : String} (h : isLowerHex64 value = true)
    (field : String) : validateSha256 value field = .ok () := by
  simp only [isLowerHex64, Bool.and_eq_true, beq_iff_eq] at h
  unfold validateSha256
  rw [if_neg]
  intro hbad
  rcases hbad with hlength | hdigits
  · exact hlength h.1
  · exact hdigits h.2

/-- A valid genesis names an identity, and is a root or a successor. -/
structure ValidGenesis (genesis : RawSegmentGenesisV1) : Prop where
  schema_eq : genesis.schema = "RawSegmentGenesisV1"
  epoch : isBlank genesis.connectionEpoch = false
  stream : isBlank genesis.stream = false
  digest : isLowerHex64 genesis.previousSegmentTerminalSha256 = true
  position : (genesis.segmentIndex = 0 ∧ genesis.previousSegmentTerminalSha256 = zeroDigest ∧
      genesis.nextFrameIndex = 0) ∨
    (0 < genesis.segmentIndex ∧ genesis.previousSegmentTerminalSha256 ≠ zeroDigest ∧
      0 < genesis.nextFrameIndex)

variable {genesis : RawSegmentGenesisV1} {codec : RawCodec} {items : List (ReadRecord × Nat)}

theorem ValidGenesis.validate (h : ValidGenesis genesis) :
    validateSegmentGenesis genesis = .ok () := by
  unfold validateSegmentGenesis
  rw [if_neg (by simp [h.schema_eq, h.epoch, h.stream]), validateSha256_of_lower h.digest]
  show (if _ then _ else _) = _
  rw [if_neg]
  intro hneither
  rcases h.position with hroot | hsuccessor
  · exact hneither.1 hroot
  · exact hneither.2 hsuccessor

/-- The digest behind the records of a reading is one that `hex` wrote. -/
theorem reads_previous_lower {lockedIdentity : Option Identity} {chain chain' : ChainState}
    {log rest : Bytes} (h : Reads (rawReader codec lockedIdentity) chain log items chain' rest)
    (hne : items ≠ []) : isLowerHex64 chain'.previous = true := by
  induction h with
  | nil => exact absurd rfl hne
  | @cons chain middle chain' log rest record used items head tail ih =>
    obtain ⟨body, digest, _, -, -, -, hprevious, -, verified, -, hcount⟩ :=
      nextRecord_eq_item.mp head
    obtain ⟨-, -, -, frame, -, rfl⟩ := countRecord_eq_ok.mp hcount
    by_cases hitems : items = []
    · subst hitems
      cases tail
      rw [hprevious]
      exact isLowerHex64_hex digest
    · exact ih hitems

/-- **The scan of an intact segment** reports its bookkeeping. -/
theorem scan_intact {segment : RawLogWriter} (h : Intact codec (some genesis) items segment)
    (hgenesis : ValidGenesis genesis) (path : String) :
    scanRawSegment codec path segment.sink.file genesis
      = .ok { schema := "RawLogScanV1", path, fileSize := segment.endOffset
              records := segment.recordCount, lastGoodOffset := segment.endOffset
              cleanEof := true, reason := none, lastRecordSha256 := segment.previousDigest
              streams := durabilityWatermarks segment.expected } := by
  obtain ⟨log, hbytes, hreads⟩ := h.reads
  have hloop := scanLoop_log hbytes hreads
  rw [scanLoop_nil] at hloop
  have hlen := h.len_eq
  rw [scanRawSegment, hgenesis.validate]
  show scanRawLogFrom codec path segment.sink.file (startChain (some genesis)).previous
    (startChain (some genesis)).expected (lockOf (some genesis)) = _
  unfold scanRawLogFrom
  rw [hbytes, readMagic_append]
  simp only [hloop, hlen, h.offset_eq, h.count_eq, Nat.zero_add]
  rfl

/-- The seal of a segment that ends in front of the frame index `next`. -/
def sealOf (genesis : RawSegmentGenesisV1) (rawFile : String) (segment : RawLogWriter)
    (next : UInt64) : RawSegmentSealV1 where
  schema := "RawSegmentSealV1"
  segmentIndex := genesis.segmentIndex
  rawFile := rawFile
  connectionEpoch := genesis.connectionEpoch
  stream := genesis.stream
  firstFrameIndex := genesis.nextFrameIndex
  lastFrameIndex := next - 1
  records := segment.recordCount
  durableThroughOffset := segment.endOffset
  previousSegmentTerminalSha256 := genesis.previousSegmentTerminalSha256
  terminalRecordSha256 := segment.previousDigest

/-- A segment ready to be sealed: written whole, of one identity, with at least one record. -/
structure Sealable (codec : RawCodec) (genesis : RawSegmentGenesisV1)
    (items : List (ReadRecord × Nat)) (segment : RawLogWriter) (next : UInt64) : Prop where
  valid : ValidGenesis genesis
  intact : Intact codec (some genesis) items segment
  expected_eq : segment.expected = single genesis.identity next
  next_eq : next.toNat = genesis.nextFrameIndex.toNat + items.length
  items_ne : items ≠ []

section

variable {codec : RawCodec} {genesis : RawSegmentGenesisV1} {items : List (ReadRecord × Nat)}
  {segment : RawLogWriter} {next : UInt64} {rawFile : String}

section

variable (h : Sealable codec genesis items segment next)
include h

theorem Sealable.pred_toNat :
    (next - 1).toNat = genesis.nextFrameIndex.toNat + items.length - 1 := by
  have hpos := List.length_pos_iff.mpr h.items_ne
  have hone : (1 : UInt64) ≤ next := by
    rw [UInt64.le_iff_toNat_le, UInt64.toNat_one, h.next_eq]
    omega
  rw [UInt64.toNat_sub_of_le _ _ hone, UInt64.toNat_one, h.next_eq]

theorem Sealable.first_le : ¬ next - 1 < genesis.nextFrameIndex := by
  have hpos := List.length_pos_iff.mpr h.items_ne
  rw [UInt64.lt_iff_toNat_lt, h.pred_toNat]
  omega

theorem Sealable.frameRange_eq (message : String) :
    frameRange genesis.nextFrameIndex (next - 1) message = .ok segment.recordCount := by
  have hpos := List.length_pos_iff.mpr h.items_ne
  have hmax := next.toNat_lt
  have hcount : (next - 1).toNat - genesis.nextFrameIndex.toNat + 1 = segment.recordCount := by
    rw [h.pred_toNat, h.intact.count_eq]
    omega
  have hle : (next - 1).toNat - genesis.nextFrameIndex.toNat + 1 ≤ u64Max := by
    rw [h.pred_toNat]
    rw [h.next_eq] at hmax
    simp only [u64Max]
    omega
  rw [frameRange, if_neg h.first_le, checkedAdd_eq hle, hcount]
  rfl

theorem Sealable.records_ne : segment.recordCount ≠ 0 := by
  rw [h.intact.count_eq]
  exact fun hzero => h.items_ne (List.length_eq_zero_iff.mp hzero)

theorem Sealable.streams_eq :
    segment.currentAck.streams
      = [⟨genesis.connectionEpoch, genesis.stream, next - 1⟩] := by
  have hpos := List.length_pos_iff.mpr h.items_ne
  have hne : next ≠ 0 := by
    intro hzero
    have := h.next_eq
    rw [hzero, UInt64.toNat_zero] at this
    omega
  show durabilityWatermarks segment.expected = _
  rw [h.expected_eq, durabilityWatermarks_single _ hne]
  rfl

theorem Sealable.terminal_lower : isLowerHex64 segment.previousDigest = true := by
  obtain ⟨log, -, hreads⟩ := h.intact.reads
  exact reads_previous_lower hreads h.items_ne

end

theorem validateRelativeFile_not_blank (h : validateRelativeFile rawFile = .ok ()) :
    isBlank rawFile = false := by
  unfold validateRelativeFile at h
  split at h
  · rw [ite_err_eq_ok] at h
    exact Bool.not_eq_true _ ▸ h.1
  · cases h

section

variable (h : Sealable codec genesis items segment next)
include h

/-- **Seal.** -/
theorem sealRawSegment_sealable (hname : validateRelativeFile rawFile = .ok ()) :
    sealRawSegment genesis rawFile segment.currentAck
      = .ok (sealOf genesis rawFile segment next) := by
  have hack : ¬ (isBlank rawFile = true ∨ segment.currentAck.schema ≠ "DurabilityAckV1" ∨
      segment.currentAck.durableRecordCount = 0) := by
    rw [validateRelativeFile_not_blank hname]
    simp [currentAck, h.records_ne]
  rw [sealRawSegment, h.valid.validate]
  rw [h.streams_eq]
  dsimp only
  rw [if_neg hack, validateSha256_of_lower (show isLowerHex64 segment.currentAck.lastRecordSha256
    = true from h.terminal_lower)]
  show (if _ then _ else _) = _
  rw [if_neg (by simp [h.first_le]), h.frameRange_eq]
  show (if segment.recordCount ≠ segment.recordCount then _ else _) = _
  rw [if_neg (not_not.mpr rfl)]
  rfl

theorem validateSealShape_sealable (hname : validateRelativeFile rawFile = .ok ()) :
    validateSealShape (sealOf genesis rawFile segment next) = .ok () := by
  have hoffset : ¬ segment.endOffset ≤ manifestMagic.length := by
    obtain ⟨log, -, hreads⟩ := h.intact.reads
    have hspan := hreads.length_le_span
    have hpos := List.length_pos_iff.mpr h.items_ne
    have hmagic : manifestMagic.length = magic.length := rfl
    rw [h.intact.offset_eq, hmagic]
    omega
  have hshape : ¬ ((sealOf genesis rawFile segment next).schema ≠ "RawSegmentSealV1" ∨
      isBlank genesis.connectionEpoch = true ∨ isBlank genesis.stream = true ∨
      segment.recordCount = 0 ∨ segment.endOffset ≤ manifestMagic.length ∨
      next - 1 < genesis.nextFrameIndex) := by
    simp [sealOf, h.valid.epoch, h.valid.stream, h.records_ne, hoffset, h.first_le]
  unfold validateSealShape
  refine (if_neg hshape).trans ?_
  show (validateRelativeFile rawFile >>= _) = _
  rw [hname]
  show (validateDigest genesis.previousSegmentTerminalSha256 _ >>= _) = _
  rw [validateDigest, if_pos h.valid.digest]
  show (validateDigest segment.previousDigest _ >>= _) = _
  rw [validateDigest, if_pos h.terminal_lower]
  show (frameRange genesis.nextFrameIndex (next - 1) _ >>= _) = _
  rw [h.frameRange_eq]
  show (if segment.recordCount ≠ segment.recordCount then _ else _) = _
  rw [if_neg (not_not.mpr rfl)]
  show (if _ then _ else _) = _
  rw [if_neg]
  intro hneither
  rcases h.valid.position with ⟨hindex, hdigest, hfirst⟩ | ⟨hindex, hdigest, hfirst⟩
  · exact hneither.1 ⟨hindex, hfirst, hdigest⟩
  · exact hneither.2 ⟨hindex, hfirst, hdigest⟩

/-- **Verify.** A segment written whole is verified against its terminal ACK and sealed. -/
theorem verify_sealable {files : Files} {path : String}
    (hfile : files path = some segment.sink.file) (hname : validateRelativeFile rawFile = .ok ())
    (hpath : fileName path = some rawFile) :
    verifyAndSealRawSegment codec files path rawFile genesis segment.currentAck
      = .ok ⟨path, genesis, segment.currentAck, sealOf genesis rawFile segment next⟩ := by
  have hscan : scanSegmentAt codec files path genesis
      = scanRawSegment codec path segment.sink.file genesis := by
    rw [scanSegmentAt, h.valid.validate, hfile]
    rfl
  rw [verifyAndSealRawSegment, hname]
  show (if _ then _ else _) = _
  rw [if_neg (not_not.mpr hpath), hscan, scan_intact h.intact h.valid path]
  have hschema : ¬ segment.currentAck.schema ≠ "DurabilityAckV1" := not_not.mpr rfl
  rw [h.streams_eq]
  dsimp only [bind, Except.bind]
  rw [if_neg Bool.false_ne_true.symm, if_neg hschema,
    if_neg (not_not.mpr ⟨rfl, rfl, rfl, rfl, rfl, rfl, rfl⟩), sealRawSegment_sealable h hname]
  show (validateSealShape _ >>= _) = _
  rw [validateSealShape_sealable h hname]
  rfl

end

end

end LobReplay.Raw
