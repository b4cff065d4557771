/-
  What a writer's bookkeeping says about the bytes of its sink. While nothing has failed the writer
  is `Intact`: the bytes behind the magic are exactly the records counted, and reading them ends in
  the writer's own digest and frame indices.
-/

import LobReplay.Raw.Framing

namespace LobReplay.Raw

open Foundation Std

/-- The frame a captured frame is read back as: its clock offset and uncertainty are absent
    and its state is `PENDING`. -/
def CapturedFrame.toRawFrame (frame : CapturedFrame) : RawFrame where
  venue := frame.venue
  environment := frame.environment
  endpoint := frame.endpoint
  symbol := frame.symbol
  stream := frame.stream
  connectionEpoch := frame.connectionEpoch
  frameIndex := frame.frameIndex
  receiveWallNs := frame.receiveWallNs
  receiveMonoNs := frame.receiveMonoNs
  payload := frame.payload
  clockQuality := frame.clockQuality
  clockSource := frame.clockSource
  clockOffsetNs := none
  clockUncertaintyNs := none
  recorderState := "PENDING"
  specRevision := frame.specRevision

/-! ## A written record is read back -/

section

variable {codec : RawCodec} {record : RawRecord} {value : Value} {field : String}
  {frame : CapturedFrame}

open RawLogWriter

variable {body : Bytes}

theorem serialize_eq_ok :
    serialize codec record = .ok body ↔
      codec.toVec record = .ok body ∧ body.length ≤ maxRecordBytes := by
  unfold serialize
  rcases codec.toVec record with e | bytes
  · simp
  · simp only [ite_err_eq_ok, Except.ok.injEq, Nat.not_lt, Nat.not_le]
    refine ⟨?_, ?_⟩
    · rintro ⟨hmax, -, rfl⟩
      exact ⟨rfl, hmax⟩
    · rintro ⟨rfl, hmax⟩
      exact ⟨hmax, Nat.lt_of_le_of_lt hmax (by decide), rfl⟩

theorem serialize_eq_error {e : Failure} (h : serialize codec record = .error e) :
    ∃ message, e = .err message := by
  unfold serialize err at h
  split at h
  · exact ⟨_, (Except.error.inj h).symm⟩
  · split at h
    · exact ⟨_, (Except.error.inj h).symm⟩
    · split at h
      · exact ⟨_, (Except.error.inj h).symm⟩
      · cases h

theorem requiredStr_of_get {text : String} (h : value.get field = some (.string text)) :
    requiredStr value field = .ok text := by
  simp [requiredStr, Value.strField, h, Value.asStr]

theorem requiredU64_of_get {n : UInt64} (h : value.get field = some (.nat n)) :
    requiredU64 value field = .ok n := by
  simp [requiredU64, Value.u64Field, h, Value.nat, Value.asU64]

theorem verifyBody_written (hcodec : codec.Lawful) {previous : String}
    (h : codec.toVec (rawRecord codec frame previous) = .ok body) :
    ∃ verified, verifyBody codec previous body (codec.digest body) = .ok verified ∧
      verified.identity = frame.identity ∧ verified.frameIndex = frame.frameIndex ∧
      verified.frame = .ok frame.toRawFrame := by
  obtain ⟨value, hvalue, hget⟩ := hcodec.fromSlice_toVec _ body h
  refine ⟨⟨value, frame.payload, frame.stream, frame.connectionEpoch, frame.frameIndex⟩, ?_, rfl,
    rfl, ?_⟩
  · simp [verifyBody, hvalue, requiredStr_of_get (hget "schema"),
      requiredStr_of_get (hget "previous_record_sha256"),
      requiredStr_of_get (hget "recorder_state"), requiredStr_of_get (hget "payload_base64"),
      requiredU64_of_get (hget "payload_length"), requiredStr_of_get (hget "payload_sha256"),
      requiredStr_of_get (hget "stream"), requiredStr_of_get (hget "connection_epoch"),
      requiredU64_of_get (hget "frame_index"), rawRecord, hcodec.decode_encode, bind, Except.bind]
  · have hoffset : value.get "clock_offset_ns" = some .null := hget _
    have huncertainty : value.get "clock_uncertainty_ns" = some .null := hget _
    simp only [VerifiedBody.frame, requiredStr_of_get (hget "venue"),
      requiredStr_of_get (hget "environment"), requiredStr_of_get (hget "endpoint"),
      requiredStr_of_get (hget "symbol"), requiredU64_of_get (hget "receive_wall_ns"),
      requiredU64_of_get (hget "receive_mono_ns"), requiredStr_of_get (hget "clock_quality"),
      requiredStr_of_get (hget "clock_source"), requiredStr_of_get (hget "recorder_state"),
      requiredStr_of_get (hget "spec_revision"), bind, Except.bind, Value.i64Field, Value.u64Field,
      hoffset, huncertainty]
    rfl

/-- **A written record is read back**, and the reader's state moves as the writer's does. -/
theorem readsAs_written (hcodec : codec.Lawful) (chain : ChainState)
    {lockedIdentity : Option Identity}
    (hbody : serialize codec (rawRecord codec frame chain.previous) = .ok body)
    (hindex : frame.frameIndex = chain.expected.next frame.identity)
    (hmax : chain.expected.next frame.identity ≠ maxU64)
    (hlock : lockAllows lockedIdentity frame.toRawFrame = true) :
    ReadsAs codec lockedIdentity chain body (codec.digest body)
      ⟨frame.toRawFrame, hex (codec.digest body).bytes, (framed body (codec.digest body)).length⟩
      ⟨hex (codec.digest body).bytes,
        chain.expected.insert frame.identity (chain.expected.next frame.identity + 1)⟩ := by
  obtain ⟨hvec, hlength⟩ := serialize_eq_ok.mp hbody
  obtain ⟨verified, hverify, hidentity, hframeIndex, hframe⟩ := verifyBody_written hcodec hvec
  refine ⟨hlength, rfl, hlock, verified, hverify, countRecord_eq_ok.mpr ?_⟩
  rw [hidentity, hframeIndex]
  exact ⟨hindex, hmax, rfl, frame.toRawFrame, hframe, rfl⟩

end

/-! ## What the sink does -/

namespace Sink

variable {sink sink' : Sink} {data : Bytes} {e : String}

theorem writeAll_ok (h : sink.writeAll data = (.ok (), sink')) :
    sink'.file.bytes = sink.file.bytes ++ data ∧ sink'.failed = sink.failed := by
  unfold writeAll at h
  split at h
  · cases h
  · split at h
    · next hfits =>
      cases h
      exact ⟨File.append_bytes hfits, rfl⟩
    · cases h

theorem writeAll_error (h : sink.writeAll data = (.error e, sink')) : sink'.failed = true := by
  unfold writeAll at h
  split at h
  · cases h
    rfl
  · split at h
    · cases h
    · cases h
      rfl

/-- A barrier writes nothing, and fails iff it says so. -/
theorem barrier_spec (sink : Sink) :
    sink.barrier.2.file = sink.file ∧
      (sink.barrier.1 = .ok () → sink.barrier.2.failed = sink.failed) ∧
      (∀ e, sink.barrier.1 = .error e → sink.barrier.2.failed = true) := by
  unfold barrier
  split <;> simp

theorem flushAndSyncAll_ok (h : sink.flushAndSyncAll = (.ok (), sink')) :
    sink'.file = sink.file ∧ sink'.failed = sink.failed := by
  unfold flushAndSyncAll at h
  obtain ⟨hfile, hok, -⟩ := sink.barrier_spec
  rcases hfirst : sink.barrier with ⟨_ | _, middle⟩
  · simp [hfirst] at h
  · rw [hfirst] at hfile hok
    simp only [hfirst] at h
    obtain ⟨hfile', hok', -⟩ := middle.barrier_spec
    rw [h] at hfile' hok'
    exact ⟨hfile'.trans hfile, (hok' rfl).trans (hok rfl)⟩

theorem flushAndSyncAll_error (h : sink.flushAndSyncAll = (.error e, sink')) :
    sink'.file = sink.file ∧ sink'.failed = true := by
  unfold flushAndSyncAll at h
  obtain ⟨hfile, -, herror⟩ := sink.barrier_spec
  rcases hfirst : sink.barrier with ⟨_ | _, middle⟩
  · rw [hfirst] at hfile herror
    simp only [hfirst] at h
    cases h
    exact ⟨hfile, herror _ rfl⟩
  · rw [hfirst] at hfile
    simp only [hfirst] at h
    obtain ⟨hfile', -, herror'⟩ := middle.barrier_spec
    rw [h] at hfile' herror'
    exact ⟨hfile'.trans hfile, herror' _ rfl⟩

theorem writeSynced_cases (sink : Sink) (data : Bytes) :
    (∃ sink', sink.writeSynced data = (.ok (), sink') ∧
      sink'.file.bytes = sink.file.bytes ++ data ∧ sink'.failed = sink.failed) ∨
    ∃ e sink' k, sink.writeSynced data = (.error e, sink') ∧
      sink'.file.bytes = sink.file.bytes ++ data.take k ∧ sink'.failed = true := by
  rcases hwrite : sink.writeAll data with ⟨e | _, middle⟩
  · right
    have hsynced : sink.writeSynced data = (.error e, middle) := by rw [writeSynced, hwrite]
    obtain ⟨k, hk⟩ : ∃ k, middle.file.bytes = sink.file.bytes ++ data.take k := by
      unfold writeAll at hwrite
      split at hwrite
      next written error hfault =>
        cases hwrite
        refine ⟨min (maxFileLength - sink.file.bytes.length) written, ?_⟩
        show (sink.file.bytes ++ data.take written).take maxFileLength = _
        rw [List.take_append, List.take_of_length_le sink.file.length_le, List.take_take]
      next hfault =>
        split at hwrite
        · cases hwrite
        · cases hwrite
          refine ⟨maxFileLength - sink.file.bytes.length, ?_⟩
          show (sink.file.bytes ++ data).take maxFileLength = _
          rw [List.take_append, List.take_of_length_le sink.file.length_le]
    exact ⟨e, middle, k, hsynced, hk, writeAll_error hwrite⟩
  · obtain ⟨hbytes, hfailed⟩ := writeAll_ok hwrite
    rcases hsync : middle.flushAndSyncAll with ⟨e | _, last⟩
    -- the bytes are written, and no barrier takes them back
    · right
      obtain ⟨hfile, hlast⟩ := flushAndSyncAll_error hsync
      refine ⟨e, last, data.length, ?_, ?_, hlast⟩
      · rw [writeSynced, hwrite]
        exact hsync
      · rw [hfile, hbytes, List.take_length]
    · left
      obtain ⟨hfile, hlast⟩ := flushAndSyncAll_ok hsync
      refine ⟨last, ?_, ?_, ?_⟩
      · rw [writeSynced, hwrite]
        exact hsync
      · rw [hfile, hbytes]
      · rw [hlast, hfailed]

end Sink

/-! ## Intact writers -/

namespace RawLogWriter

/-- The digest and the frame indices the writer goes on with. -/
def chain (writer : RawLogWriter) : ChainState := ⟨writer.previousDigest, writer.expected⟩

/-- What a log is read from. -/
def startChain (genesis : Option RawSegmentGenesisV1) : ChainState :=
  ⟨(genesisState genesis).1, (genesisState genesis).2.1⟩

def lockOf (genesis : Option RawSegmentGenesisV1) : Option Identity := (genesisState genesis).2.2

/-- The bookkeeping of the writer is what reading its bytes ends in. -/
structure Intact (codec : RawCodec) (genesis : Option RawSegmentGenesisV1)
    (items : List (ReadRecord × Nat)) (writer : RawLogWriter) : Prop where
  open_eq : writer.poisoned = false
  sound_eq : writer.sink.failed = false
  lock_eq : writer.lockedIdentity = lockOf genesis
  reads : ∃ log, writer.sink.file.bytes = magic ++ log ∧
    Reads (rawReader codec (lockOf genesis)) (startChain genesis) log items writer.chain []
  count_eq : writer.recordCount = items.length
  offset_eq : writer.endOffset = magic.length + span items
  since_le : writer.sinceSync ≤ writer.recordCount

section

variable {codec : RawCodec} {genesis : Option RawSegmentGenesisV1} {items : List (ReadRecord × Nat)}
  {writer writer' : RawLogWriter} {frame : CapturedFrame} {sink : Sink}

theorem Intact.len_eq (h : Intact codec genesis items writer) :
    writer.sink.file.len = writer.endOffset := by
  obtain ⟨log, hbytes, hreads⟩ := h.reads
  obtain ⟨hle, hrest⟩ := hreads.rest_eq
  have hdrop : log.length ≤ span items := by
    simpa using List.drop_eq_nil_iff.mp hrest.symm
  rw [File.len, hbytes, h.offset_eq, List.length_append]
  omega

/-- **What a sync does to an intact writer**: it fails and poisons, or it acknowledges the
    bookkeeping as it stands. -/
theorem sync_cases (h : Intact codec genesis items writer) :
    (∃ message sink, writer.sync = (err message, { writer with sink, poisoned := true }) ∧
      sink.failed = true) ∨
    (∃ sink, writer.sync
        = (.ok writer.currentAck,
            { writer with sink, sinceSync := 0, lastAck := some writer.currentAck }) ∧
      Intact codec genesis items
        { writer with sink, sinceSync := 0, lastAck := some writer.currentAck }) := by
  unfold sync
  rw [if_neg (by simp [h.open_eq])]
  rcases hsync : writer.sink.flushAndSyncAll with ⟨e | _, sink⟩
  · exact Or.inl ⟨_, sink, rfl, (Sink.flushAndSyncAll_error hsync).2⟩
  · obtain ⟨hfile, hfailed⟩ := Sink.flushAndSyncAll_ok hsync
    refine Or.inr ⟨sink, rfl, ⟨h.open_eq, hfailed.trans h.sound_eq, h.lock_eq, ?_, h.count_eq,
      h.offset_eq, Nat.zero_le _⟩⟩
    show ∃ log, sink.file.bytes = magic ++ log ∧ _
    rw [hfile]
    exact h.reads

/-- What an accepted append leaves: one more record, whose receipt is true to it, and an ACK
    only of the bookkeeping reached. -/
structure Accepted (codec : RawCodec) (genesis : Option RawSegmentGenesisV1)
    (items : List (ReadRecord × Nat)) (frame : CapturedFrame) (receipt : AppendReceiptV1)
    (writer : RawLogWriter) : Prop where
  intact : ∃ item : ReadRecord × Nat, Intact codec genesis (items ++ [item]) writer ∧
    item.1.frame = frame.toRawFrame ∧ item.1.recordSha256 = receipt.recordSha256
  schema_eq : receipt.schema = "AppendReceiptV1"
  index_eq : receipt.recordIndex = items.length
  offset_eq : receipt.endOffset = writer.endOffset
  ack_eq : receipt.durabilityAck = none ∨ receipt.durabilityAck = some writer.currentAck

/-- **What a receipt says** of a writer whose last record is `item`. -/
theorem receipt_cases {item : ReadRecord × Nat} (h : Intact codec genesis (items ++ [item]) writer)
    (hframe : item.1.frame = frame.toRawFrame)
    (hsha : item.1.recordSha256 = writer.previousDigest) :
    (∃ message sink, writer.receipt items.length
        = (err message, { writer with sink, poisoned := true }) ∧ sink.failed = true) ∨
    (∃ receipt writer', writer.receipt items.length = (.ok receipt, writer') ∧
      Accepted codec genesis items frame receipt writer') := by
  unfold receipt
  by_cases hdue : writer.syncEvery ≤ writer.sinceSync
  · simp only [if_pos hdue]
    rcases sync_cases h with ⟨message, sink, hsync, hfailed⟩ | ⟨sink, hsync, hintact⟩
    · simp only [hsync]
      exact Or.inl ⟨message, sink, rfl, hfailed⟩
    · simp only [hsync]
      exact Or.inr ⟨_, _, rfl, ⟨item, hintact, hframe, hsha⟩, rfl, rfl, rfl, Or.inr rfl⟩
  · simp only [if_neg hdue]
    exact Or.inr ⟨_, _, rfl, ⟨item, h, hframe, hsha⟩, rfl, rfl, rfl, Or.inl rfl⟩

def counted (writer : RawLogWriter) (sink : Sink) (key : Identity) (digest : FixedBytes 32)
    (encodedLength : Nat) : RawLogWriter :=
  { writer with
    sink
    previousDigest := hex digest.bytes
    expected := writer.expected.insert key (writer.expected.next key + 1)
    recordCount := writer.recordCount + 1
    endOffset := writer.endOffset + encodedLength
    sinceSync := writer.sinceSync + 1 }

/-- **The bookkeeping behind a write.** No counter overflows, for each is bounded by the
    length of the file. -/
theorem commit_eq (h : Intact codec genesis items writer) {key : Identity} (digest : FixedBytes 32)
    {data : Bytes} (hmax : writer.expected.next key ≠ maxU64)
    (hwrite : writer.sink.writeAll data = (.ok (), sink)) :
    commit { writer with sink } key (writer.expected.next key) digest data.length
      = (writer.counted sink key digest data.length).receipt items.length := by
  obtain ⟨log, -, hreads⟩ := h.reads
  have hfits : writer.endOffset + data.length ≤ maxFileLength := by
    have hle := sink.file.length_le
    rw [(Sink.writeAll_ok hwrite).1, List.length_append] at hle
    rw [← h.len_eq]
    exact hle
  have hbound : maxFileLength < u64Max := by decide
  have hcount : writer.recordCount < u64Max := by
    have := hreads.length_le_span
    have := h.count_eq
    have := h.offset_eq
    omega
  have hsince : writer.sinceSync < u64Max := Nat.lt_of_le_of_lt h.since_le hcount
  unfold commit
  simp only [if_neg hmax, increment_eq hcount, increment_eq hsince,
    checkedAdd_eq (Nat.le_trans hfits (Nat.le_of_lt hbound))]
  rw [counted, h.count_eq]

theorem counted_intact (hcodec : codec.Lawful) (h : Intact codec genesis items writer)
    {body : Bytes}
    (hbody : serialize codec (rawRecord codec frame writer.previousDigest) = .ok body)
    (hindex : frame.frameIndex = writer.expected.next frame.identity)
    (hmax : writer.expected.next frame.identity ≠ maxU64)
    (hlock : lockAllows writer.lockedIdentity frame.toRawFrame = true)
    (hwrite : writer.sink.writeAll (framed body (codec.digest body)) = (.ok (), sink)) :
    Intact codec genesis
      (items ++ [(⟨frame.toRawFrame, hex (codec.digest body).bytes,
        (framed body (codec.digest body)).length⟩, (framed body (codec.digest body)).length)])
      (writer.counted sink frame.identity (codec.digest body)
        (framed body (codec.digest body)).length) := by
  obtain ⟨log, hlog, hreads⟩ := h.reads
  obtain ⟨hbytes, hfailed⟩ := Sink.writeAll_ok hwrite
  rw [h.lock_eq] at hlock
  have hitem := nextRecord_eq_item.mpr ⟨body, codec.digest body, [], (List.append_nil _).symm, rfl,
    readsAs_written hcodec writer.chain hbody hindex hmax hlock⟩
  refine ⟨h.open_eq, hfailed.trans h.sound_eq, h.lock_eq,
    ⟨log ++ framed body (codec.digest body), ?_, ?_⟩, ?_, ?_, ?_⟩
  · show sink.file.bytes = _
    rw [hbytes, hlog, List.append_assoc]
  · refine (hreads.extend _).trans (.cons hitem ?_)
    rw [List.nil_append, List.drop_length]
    exact .nil
  · show writer.recordCount + 1 = _
    rw [h.count_eq, List.length_append]
    rfl
  · show writer.endOffset + _ = _
    rw [h.offset_eq, span_append, span_cons, span_nil]
    omega
  · exact Nat.succ_le_succ h.since_le

/-- **What an append does to an intact writer**: it is refused without a trace, it fails and
    poisons, it aborts, or it is accepted. -/
theorem append_cases (hcodec : codec.Lawful) (h : Intact codec genesis items writer)
    (frame : CapturedFrame) :
    (∃ message, writer.append codec frame = (err message, writer)) ∨
    (∃ message writer', writer.append codec frame = (err message, writer') ∧
      writer'.poisoned = true ∧ writer'.sink.failed = true) ∨
    (∃ writer', writer.append codec frame = (.error .abort, writer') ∧
      writer'.sink.failed = false) ∨
    (∃ receipt writer', writer.append codec frame = (.ok receipt, writer') ∧
      Accepted codec genesis items frame receipt writer') := by
  unfold append
  rw [if_neg (by simp [h.open_eq])]
  by_cases hlock : writer.lockedIdentity.any
      (fun identity => decide (identity ≠ frame.identity)) = true
  · exact Or.inl ⟨_, if_pos hlock⟩
  rw [if_neg hlock]
  by_cases hindex : frame.frameIndex = writer.expected.next frame.identity
  case neg => exact Or.inl ⟨_, if_pos hindex⟩
  rw [if_neg (not_not.mpr hindex)]
  rcases hbody : serialize codec (rawRecord codec frame writer.previousDigest) with e | body
  · obtain ⟨message, rfl⟩ := serialize_eq_error hbody
    exact Or.inl ⟨message, rfl⟩
  simp only
  rcases hwrite : writer.sink.writeAll (framed body (codec.digest body)) with ⟨e | _, sink⟩
  · exact Or.inr (Or.inl ⟨_, _, rfl, rfl, Sink.writeAll_error hwrite⟩)
  simp only
  by_cases hmax : writer.expected.next frame.identity = maxU64
  · exact Or.inr (Or.inr (Or.inl ⟨_, if_pos hmax, (Sink.writeAll_ok hwrite).2.trans h.sound_eq⟩))
  have hallows : lockAllows writer.lockedIdentity frame.toRawFrame = true := by
    rw [any_decide_eq_true] at hlock
    rw [lockAllows, Bool.not_eq_true', Bool.eq_false_iff, ne_eq, any_decide_eq_true]
    rintro ⟨identity, hidentity, hne⟩
    exact hlock ⟨identity, hidentity, Ne.symm hne⟩
  have hcommit := commit_eq h (codec.digest body) hmax hwrite
  rcases receipt_cases (counted_intact hcodec h hbody hindex hmax hallows hwrite) rfl rfl with
    ⟨message, sink', hreceipt, hfailed⟩ | ⟨receipt, writer', hreceipt, haccepted⟩
  · exact Or.inr (Or.inl ⟨message, _, hcommit.trans hreceipt, rfl, hfailed⟩)
  · exact Or.inr (Or.inr (Or.inr ⟨receipt, writer', hcommit.trans hreceipt, haccepted⟩))

theorem append_poisoned (h : writer.poisoned = true) (frame : CapturedFrame) :
    writer.append codec frame = (err "raw writer is poisoned", writer) := if_pos h

theorem sync_poisoned (h : writer.poisoned = true) :
    writer.sync = (err "raw writer is poisoned", writer) := if_pos h

theorem drop_file (writer : RawLogWriter) : writer.drop.sink.file = writer.sink.file := by
  unfold RawLogWriter.drop
  split
  · next hdue =>
    unfold sync
    rw [if_neg (by simp [hdue.1])]
    rcases hsync : writer.sink.flushAndSyncAll with ⟨e | _, sink⟩
    · exact (Sink.flushAndSyncAll_error hsync).1
    · exact (Sink.flushAndSyncAll_ok hsync).1
  · rfl

end

/-! ## Opening a log -/

def openLog (sink : Sink) (syncEvery : Nat) : Option RawSegmentGenesisV1 → Result RawLogWriter
  | none => fromSink sink syncEvery
  | some genesis => fromSinkSegment sink syncEvery genesis

variable {genesis : Option RawSegmentGenesisV1} {faults : List Fault} {syncEvery : Nat}
  {writer : RawLogWriter}

theorem initializeLog_intact {codec : RawCodec}
    (h : initializeLog (Sink.fresh faults) syncEvery genesis = .ok writer) :
    Intact codec genesis [] writer := by
  unfold initializeLog at h
  rw [ite_err_eq_ok] at h
  obtain ⟨-, h⟩ := h
  rcases hwrite : (Sink.fresh faults).writeAll magic with ⟨e | _, sink⟩
  · simp [hwrite] at h
  rcases hsync : sink.barrier with ⟨e | _, sink'⟩
  · simp [hwrite, hsync] at h
  simp only [hwrite, hsync, Except.ok.injEq] at h
  subst h
  obtain ⟨hbytes, hfailed⟩ := Sink.writeAll_ok hwrite
  obtain ⟨hfile, hsound, -⟩ := sink.barrier_spec
  rw [hsync] at hfile hsound
  refine ⟨rfl, (hsound rfl).trans hfailed, rfl, ⟨[], ?_, .nil⟩, rfl, rfl, Nat.le_refl _⟩
  show sink'.file.bytes = _
  rw [hfile, hbytes]
  rfl

/-- **A log just opened is intact**, and a segment's genesis is valid. -/
theorem openLog_intact (codec : RawCodec)
    (h : openLog (Sink.fresh faults) syncEvery genesis = .ok writer) :
    Intact codec genesis [] writer ∧
      ∀ g, genesis = some g → validateSegmentGenesis g = .ok () := by
  rcases genesis with _ | g
  · exact ⟨initializeLog_intact h, by simp⟩
  · obtain ⟨_, hvalid, hopen⟩ := bind_eq_ok.mp h
    refine ⟨initializeLog_intact hopen, ?_⟩
    intro g' hg
    cases hg
    exact hvalid

end RawLogWriter

end LobReplay.Raw
