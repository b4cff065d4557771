/-
  Reading back what was appended. Writer and reader keep their own copies of the chain digest and of
  the frame index of every identity; `Intact` says that they agree.
-/

import LobReplay.Raw.Scan

namespace LobReplay.Raw

open Foundation Std RawLogWriter

def readLog (codec : RawCodec) (file : File) :
    Option RawSegmentGenesisV1 → Result (List RawRecordEnvelopeV1)
  | none => readRawRecords codec file
  | some genesis => readRawSegmentRecords codec file genesis

/-- What the receipts of appended frames promise a reader: each frame with its receipt's index,
    digest and end, starting where the one before it ended. -/
def promised (startOffset : Nat) :
    List CapturedFrame → List AppendReceiptV1 → List RawRecordEnvelopeV1
  | frame :: frames, receipt :: receipts =>
    { schema := "RawRecordEnvelopeV1", recordIndex := receipt.recordIndex, startOffset
      endOffset := receipt.endOffset, recordSha256 := receipt.recordSha256
      frame := frame.toRawFrame } :: promised receipt.endOffset frames receipts
  | _, _ => []

section

variable {codec : RawCodec} {genesis : Option RawSegmentGenesisV1}
  {items : List (ReadRecord × Nat)} {writer writer' : RawLogWriter}

/-- **Run.** Accepted appends keep the writer intact, and what was added is what the receipts
    promise. -/
theorem appendAll_intact (hcodec : codec.Lawful) {frames : List CapturedFrame}
    {receipts : List AppendReceiptV1} (h : Intact codec genesis items writer)
    (happend : writer.appendAll codec frames = .ok (receipts, writer')) :
    receipts.length = frames.length ∧ ∃ added, Intact codec genesis (items ++ added) writer' ∧
      envelopes items.length writer.endOffset added
        = promised writer.endOffset frames receipts := by
  induction frames generalizing items writer receipts with
  | nil =>
    cases happend
    exact ⟨rfl, [], by rwa [List.append_nil], rfl⟩
  | cons frame frames ih =>
    unfold appendAll at happend
    rcases append_cases hcodec h frame with ⟨message, hresult⟩ | ⟨message, _, hresult, -⟩ |
      ⟨_, hresult, -⟩ | ⟨receipt, middle, hresult, haccepted⟩
    · rw [hresult] at happend
      cases happend
    · rw [hresult] at happend
      cases happend
    · rw [hresult] at happend
      cases happend
    simp only [hresult, bind_eq_ok, Prod.exists, Except.ok.injEq, Prod.mk.injEq] at happend
    obtain ⟨more, last, hrest, rfl, rfl⟩ := happend
    obtain ⟨⟨record, used⟩, hintact, hframe, hsha⟩ := haccepted.intact
    obtain ⟨hlength, added, hadded, hpromised⟩ := ih hintact hrest
    have hend : middle.endOffset = writer.endOffset + used := by
      rw [hintact.offset_eq, h.offset_eq, span_append]
      simp only [span_cons, span_nil]
      omega
    refine ⟨by rw [List.length_cons, List.length_cons, hlength], (record, used) :: added, ?_, ?_⟩
    · rwa [List.append_assoc] at hadded
    · rw [envelopes, promised, haccepted.index_eq, haccepted.offset_eq, hframe, hsha, ← hend,
        ← hpromised, List.length_append]
      rfl

/-- The envelopes of a reading are those of its frames. -/
theorem mem_envelopes {recordIndex offset : Nat} {envelope : RawRecordEnvelopeV1}
    (h : envelope ∈ envelopes recordIndex offset items) :
    ∃ item ∈ items, envelope.frame = item.1.frame := by
  induction items generalizing recordIndex offset with
  | nil => simp [envelopes] at h
  | cons item items ih =>
    rcases List.mem_cons.mp h with rfl | h
    · exact ⟨item, List.mem_cons_self, rfl⟩
    · obtain ⟨item', hmem, hframe⟩ := ih h
      exact ⟨item', List.mem_cons_of_mem _ hmem, hframe⟩

theorem readRawRecordsAfterMagic_of_intact (h : Intact codec genesis items writer) {log : Bytes}
    (hbytes : writer.sink.file.bytes = magic ++ log) :
    readRawRecordsAfterMagic codec log magic.length (startChain genesis).previous
        (startChain genesis).expected = .ok (envelopes 0 magic.length items) := by
  obtain ⟨log', hlog, hreads⟩ := h.reads
  obtain rfl : log' = log := List.append_cancel_left (hlog.symm.trans hbytes)
  have hspan := hreads.rest_eq.1
  have hcount := hreads.length_le_span
  have hlen := h.len_eq
  have hbound := writer.sink.file.length_le
  have hu64 : maxFileLength < u64Max := by decide
  rw [File.len] at hlen
  rw [h.offset_eq] at hlen
  exact readLoop_of_reads (reads_unlock hreads) 0 magic.length (by omega) (by omega)

/-- **An intact log is read back.** -/
theorem readLog_of_intact (h : Intact codec genesis items writer)
    (hgenesis : ∀ g, genesis = some g → validateSegmentGenesis g = .ok ()) :
    readLog codec writer.sink.file genesis = .ok (envelopes 0 magic.length items) := by
  obtain ⟨log, hbytes, hreads⟩ := h.reads
  have hloop := readRawRecordsAfterMagic_of_intact h hbytes
  rcases genesis with _ | g
  · show readRawRecords codec writer.sink.file = _
    rw [readRawRecords, hbytes, readMagic_append]
    exact hloop
  · show readRawSegmentRecords codec writer.sink.file g = _
    rw [readRawSegmentRecords, hgenesis g rfl, hbytes, readMagic_append]
    show (readRawRecordsAfterMagic codec log magic.length (startChain (some g)).previous
      (startChain (some g)).expected >>= _) = _
    rw [hloop]
    refine if_neg ?_
    rw [List.any_eq_true]
    rintro ⟨envelope, hmem, hforeign⟩
    -- every record read under the lock is of the segment's identity
    obtain ⟨item, hitem, hframe⟩ := mem_envelopes hmem
    have hlock := reads_lockAllows hreads item hitem
    rw [hframe] at hforeign
    simp only [lockAllows, lockOf, genesisState, Option.any_some] at hlock
    rw [hforeign] at hlock
    cases hlock

end

/-- **Round trip.** Frames appended to a new log or segment are read back in their order and with
    all their fields, at the receipts' indices, offsets and digests. -/
theorem raw_log_round_trip (codec : RawCodec) (hcodec : codec.Lawful) (faults : List Fault)
    (syncEvery : Nat) (genesis : Option RawSegmentGenesisV1) (writer writer' : RawLogWriter)
    (frames : List CapturedFrame) (receipts : List AppendReceiptV1)
    (hopen : openLog (Sink.fresh faults) syncEvery genesis = .ok writer)
    (happend : writer.appendAll codec frames = .ok (receipts, writer')) :
    receipts.length = frames.length ∧
      readLog codec writer'.sink.file genesis = .ok (promised magic.length frames receipts) := by
  obtain ⟨hintact, hgenesis⟩ := openLog_intact codec hopen
  obtain ⟨hlength, added, hadded, hpromised⟩ := appendAll_intact hcodec hintact happend
  have hoffset : writer.endOffset = magic.length := hintact.offset_eq
  rw [hoffset] at hpromised
  refine ⟨hlength, ?_⟩
  rw [← hpromised]
  exact readLog_of_intact hadded hgenesis

/-! ## Two streams -/

/-- A frame of the stream `stream`. -/
def sampleFrame (stream : String) (receiveWallNs receiveMonoNs : UInt64) : CapturedFrame where
  venue := "binance-spot"
  environment := "test"
  endpoint := "ws"
  stream := stream
  symbol := "BTCUSDT"
  connectionEpoch := "a"
  frameIndex := 0
  receiveWallNs := receiveWallNs
  receiveMonoNs := receiveMonoNs
  clockQuality := "UNSYNCHRONIZED"
  clockSource := "test"
  payload := [123, 125]
  specRevision := "1"

/-- The first frames of two streams. -/
def sampleFrames : List CapturedFrame := [sampleFrame "t" 1000 2000, sampleFrame "d" 1001 2001]

def samplePayloads : List (Bytes × Nat) :=
  [([123, 125], 0x44136fa355b3678a1146ad16f7e8649e94fb4fc21fe77e8310c060f61caaff8a)]

def sampleRecords : List (RawRecord × Nat) :=
  [(rawRecord (knownCodec [] samplePayloads) (sampleFrame "t" 1000 2000) zeroDigest,
    0x5ba2f1e3bb34d3751638c7be6612f66190be096f14c74b13615c261eb3024729),
   (rawRecord (knownCodec [] samplePayloads) (sampleFrame "d" 1001 2001)
      "5ba2f1e3bb34d3751638c7be6612f66190be096f14c74b13615c261eb3024729",
    0xb6a3460938b929bb469496b5f8e73cc2d751603976d965565710b3bbc36acf79)]

def sampleCodec : RawCodec := knownCodec sampleRecords samplePayloads

theorem sampleCodec_lawful : sampleCodec.Lawful :=
  knownCodec_lawful samplePayloads (by decide +kernel)

/-- The two frames, appended and read back. -/
theorem two_streams_round_trip :
    ∃ writer receipts writer', openLog (Sink.fresh []) 1 none = .ok writer ∧
      writer.appendAll sampleCodec sampleFrames = .ok (receipts, writer') ∧
      readLog sampleCodec writer'.sink.file none
        = .ok (promised magic.length sampleFrames receipts) := by
  have hrun : ((openLog (Sink.fresh []) 1 none) >>= fun writer =>
      writer.appendAll sampleCodec sampleFrames).isOk = true := by decide +kernel
  obtain ⟨⟨receipts, writer'⟩, hrun⟩ := isOk_eq_true.mp hrun
  obtain ⟨writer, hopen, happend⟩ := bind_eq_ok.mp hrun
  exact ⟨writer, receipts, writer', hopen, happend,
    (raw_log_round_trip sampleCodec sampleCodec_lawful [] 1 none writer writer' sampleFrames
      receipts hopen happend).2⟩

end LobReplay.Raw
