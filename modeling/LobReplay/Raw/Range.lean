/-
  The live follower of a segment. `read_raw_record_range` (lib.rs) continues a hash chain between
  two offsets and `StreamFollowState::extend_in_flight` (bin/live_arbitration.rs) calls it for one
  durable range after another, with the digest and the frame index of the last record it holds.

  Range by range or as a whole, a segment is the same `Reads` of its records, as long as every
  record is of the segment's own identity: only then does the map of one entry that a range starts
  from (`single`) agree with the map of the whole.
-/

import LobReplay.Raw.RoundTrip

namespace LobReplay.Raw

open Foundation Std

/-! ## Model -/

def readRawRecordRange (codec : RawCodec) (file : File) (startOffset endOffset : Nat)
    (previousRecordSha256 connectionEpoch stream : String) (nextFrameIndex : UInt64) :
    Result (List RawRecordEnvelopeV1) :=
  if startOffset < magic.length ∨ endOffset ≤ startOffset then err "invalid raw record range"
  else if file.len < endOffset then err "raw file is shorter than requested record range"
  else do
    let reader := (file.bytes.drop startOffset).take (endOffset - startOffset)
    let records ← readRawRecordsAfterMagic codec reader startOffset previousRecordSha256
      ((∅ : Expected).insert (connectionEpoch, stream) nextFrameIndex)
    if records.getLast?.map (·.endOffset) ≠ some endOffset then
      err "raw record range does not end on the requested boundary"
    else .ok records

/-- `StreamFollowState`, as far as the in-flight segment goes. -/
structure StreamFollowState where
  genesis : Option RawSegmentGenesisV1
  records : List RawRecordEnvelopeV1
  lastDurableOffset : Nat
  poisoned : Bool

namespace StreamFollowState

/-- `extend_in_flight` on the file of the in-flight segment. -/
def extendInFlight (codec : RawCodec) (file : File) (s : StreamFollowState) (endOffset : Nat) :
    Result Nat × StreamFollowState :=
  match s.genesis with
  | none => (err "in-flight follower lost its genesis", s)
  | some genesis =>
    let previous := (s.records.getLast?.map (·.recordSha256)).getD
      genesis.previousSegmentTerminalSha256
    let nextFrameIndex := (s.records.getLast?.map fun record =>
      saturatingAdd record.frame.frameIndex 1).getD genesis.nextFrameIndex
    match readRawRecordRange codec file s.lastDurableOffset endOffset previous
        genesis.connectionEpoch genesis.stream nextFrameIndex with
    | .error e => (.error e, { s with poisoned := true })
    | .ok appended =>
      (.ok appended.length,
        { s with records := s.records ++ appended, lastDurableOffset := endOffset })

def bound (genesis : RawSegmentGenesisV1) : StreamFollowState := ⟨some genesis, [], 8, false⟩

/-- One durable range after another, up to the first error. -/
def extendThrough (codec : RawCodec) (file : File) :
    StreamFollowState → List Nat → Result Unit × StreamFollowState
  | s, [] => (.ok (), s)
  | s, endOffset :: rest =>
    match s.extendInFlight codec file endOffset with
    | (.error e, s) => (.error e, s)
    | (.ok _, s) => extendThrough codec file s rest

end StreamFollowState

/-! ## The bodies of a file -/

/-- The loop of `bodies`, on a budget. -/
def bodiesLoop : Nat → Bytes → List Bytes
  | 0, _ => []
  | budget + 1, reader =>
    match readFramed reader with
    | .ok (some (body, _, rest)) => body :: bodiesLoop budget rest
    | _ => []

/-- The record bodies framed one after another in front of a reader. -/
def bodies (reader : Bytes) : List Bytes := bodiesLoop reader.length reader

def declares (codec : RawCodec) (identity : Identity) (body : Bytes) : Bool :=
  match codec.fromSlice body with
  | .error _ => false
  | .ok value =>
    value.strField "connection_epoch" == some identity.1 &&
      value.strField "stream" == some identity.2

theorem bodiesLoop_eq (budget : Nat) (reader : Bytes) (h : reader.length ≤ budget) :
    bodiesLoop budget reader = bodies reader := by
  induction budget using Nat.strongRecOn generalizing reader with
  | ind budget ih =>
    unfold bodies
    cases budget with
    | zero =>
      obtain rfl : reader = [] := List.length_eq_zero_iff.mp (Nat.le_zero.mp h)
      rfl
    | succ budget =>
      cases reader with
      | nil => rfl
      | cons b reader =>
        rw [List.length_cons, bodiesLoop, bodiesLoop]
        rcases hframed : readFramed (b :: reader) with e | _ | ⟨body, digest, rest⟩
        · rfl
        · rfl
        · obtain ⟨hreader, -⟩ := readFramed_eq_some.mp hframed
          have hlength := congrArg List.length hreader
          rw [List.length_append, framed_length, List.length_cons] at hlength
          rw [List.length_cons] at h
          show body :: _ = body :: _
          rw [ih budget (Nat.lt_succ_self _) rest (by omega)]
          by_cases hless : reader.length < budget + 1
          · rw [ih reader.length hless rest (by omega)]
          · omega

variable {body : Bytes} {previous : String} {verified : VerifiedBody} {offset start : Nat}
  {file : File}

theorem bodies_framed (digest : FixedBytes 32) (rest : Bytes) (h : body.length ≤ maxRecordBytes) :
    bodies (framed body digest ++ rest) = body :: bodies rest := by
  have hlength : (framed body digest ++ rest).length = 4 + body.length + 32 + rest.length := by
    rw [List.length_append, framed_length]
  unfold bodies
  rw [hlength, show 4 + body.length + 32 + rest.length = body.length + 35 + rest.length + 1 by omega,
    bodiesLoop, readFramed_eq_some.mpr ⟨rfl, h⟩]
  show body :: _ = body :: _
  rw [bodiesLoop_eq _ _ (by omega), bodies]

/-! ## The identity of a record -/

variable {codec : RawCodec} {reader rest : Bytes} {items : List (ReadRecord × Nat)}
  {chain chain' : ChainState}

theorem verifyBody_declares {digest : FixedBytes 32}
    (h : verifyBody codec previous body digest = .ok verified) (identity : Identity) :
    declares codec identity body = true ↔ verified.identity = identity := by
  unfold verifyBody at h
  rw [ite_err_eq_ok] at h
  obtain ⟨-, h⟩ := h
  unfold declares
  cases hvalue : codec.fromSlice body with
  | error e =>
    rw [hvalue] at h
    cases h
  | ok value =>
    rw [hvalue] at h
    obtain ⟨_, -, h⟩ := bind_eq_ok.mp h
    rw [ite_err_eq_ok] at h
    obtain ⟨_, -, h⟩ := bind_eq_ok.mp h.2
    rw [ite_err_eq_ok] at h
    obtain ⟨_, -, h⟩ := bind_eq_ok.mp h.2
    rw [ite_err_eq_ok] at h
    obtain ⟨text, -, h⟩ := bind_eq_ok.mp h.2
    cases hpayload : codec.decode text with
    | error e =>
      rw [hpayload] at h
      cases h
    | ok payload =>
      rw [hpayload] at h
      obtain ⟨_, -, h⟩ := bind_eq_ok.mp h
      rw [ite_err_eq_ok] at h
      obtain ⟨_, -, h⟩ := bind_eq_ok.mp h.2
      rw [ite_err_eq_ok] at h
      obtain ⟨stream, hstream, h⟩ := bind_eq_ok.mp h.2
      obtain ⟨connectionEpoch, hepoch, h⟩ := bind_eq_ok.mp h
      obtain ⟨frameIndex, -, h⟩ := bind_eq_ok.mp h
      cases h
      unfold requiredStr at hstream hepoch
      rw [okOr_eq_ok] at hstream hepoch
      obtain ⟨epoch', stream'⟩ := identity
      simp [hstream, hepoch, VerifiedBody.identity]

theorem frame_identity {frame : RawFrame} (h : verified.frame = .ok frame) :
    frame.identity = verified.identity ∧ frame.frameIndex = verified.frameIndex := by
  unfold VerifiedBody.frame at h
  iterate 10
    obtain ⟨_, -, h⟩ := bind_eq_ok.mp h
  cases h
  exact ⟨rfl, rfl⟩

section

variable {codec : RawCodec} {identity : Identity} {chain chain' : ChainState}
  {reader rest : Bytes} {items : List (ReadRecord × Nat)} {record : ReadRecord} {used : Nat}

theorem item_identity
    (h : nextRecord codec none chain reader = .item record used chain') (identity : Identity) :
    ∃ body digest rest, reader = framed body digest ++ rest ∧ used = (framed body digest).length ∧
      body.length ≤ maxRecordBytes ∧
      (declares codec identity body = true ↔ record.frame.identity = identity) ∧
      chain'.previous = record.recordSha256 ∧
      record.frame.frameIndex = chain.expected.next record.frame.identity ∧
      record.frame.frameIndex ≠ maxU64 ∧
      chain'.expected
        = chain.expected.insert record.frame.identity (record.frame.frameIndex + 1) := by
  obtain ⟨body, digest, rest, hreader, hused, hmax, hprevious, -, verified, hverify, hcount⟩ :=
    nextRecord_eq_item.mp h
  obtain ⟨hindex, hbound, hexpected, frame, hframe, rfl⟩ := countRecord_eq_ok.mp hcount
  obtain ⟨hidentity, hframeIndex⟩ := frame_identity hframe
  refine ⟨body, digest, rest, hreader, hused, hmax, ?_, hprevious, ?_, ?_, ?_⟩
  · rw [hidentity]
    exact verifyBody_declares hverify identity
  · rw [hframeIndex, hidentity]
    exact hindex
  · rw [hframeIndex, hindex]
    exact hbound
  · rw [hexpected, hidentity, hframeIndex, hindex]

theorem reads_declares (h : Reads (rawReader codec none) chain reader items chain' rest)
    (identity : Identity) :
    (∀ body ∈ bodies reader, declares codec identity body = true) ↔
      (∀ item ∈ items, item.1.frame.identity = identity) ∧
        ∀ body ∈ bodies rest, declares codec identity body = true := by
  induction h with
  | nil => simp
  | cons head tail ih =>
    obtain ⟨body, digest, rest', rfl, rfl, hmax, hdeclares, -⟩ := item_identity head identity
    rw [List.drop_left] at ih
    rw [bodies_framed digest rest' hmax, List.forall_mem_cons, List.forall_mem_cons, hdeclares, ih,
      and_assoc]

/-- The map a range starts from. -/
def single (identity : Identity) (next : UInt64) : Expected := (∅ : Expected).insert identity next

def lastDigest (previous : String) (items : List (ReadRecord × Nat)) : String :=
  (items.getLast?.map (·.1.recordSha256)).getD previous

def nextIndex (next : UInt64) (items : List (ReadRecord × Nat)) : UInt64 :=
  (items.getLast?.map fun item => saturatingAdd item.1.frame.frameIndex 1).getD next

theorem single_insert (identity : Identity) (next next' : UInt64) :
    (single identity next).insert identity next' = single identity next' := by
  refine ExtTreeMap.ext_getElem? fun k => ?_
  unfold single
  rw [ExtTreeMap.getElem?_insert, ExtTreeMap.getElem?_insert, ExtTreeMap.getElem?_insert]
  split <;> rfl

theorem saturatingAdd_one {n : UInt64} (h : n ≠ maxU64) : saturatingAdd n 1 = n + 1 := by
  unfold saturatingAdd
  rw [if_pos]
  have hne : n.toNat ≠ u64Max := fun heq => h (UInt64.toNat_inj.mp heq)
  have hle := toNat_le_u64Max n
  show n.toNat + 1 ≤ u64Max
  omega

/-- **Run.** A reading of one identity ends where a range that follows it would start. -/
theorem reads_single {previous : String} {next : UInt64}
    (h : Reads (rawReader codec none) ⟨previous, single identity next⟩ reader items chain' rest)
    (hown : ∀ item ∈ items, item.1.frame.identity = identity) :
    chain' = ⟨lastDigest previous items, single identity (nextIndex next items)⟩ := by
  induction items generalizing previous next reader with
  | nil =>
    cases h
    rfl
  | cons item items ih =>
    rcases h with _ | @⟨_, middle, _, _, _, record, used, _, head, tail⟩
    obtain ⟨-, -, -, -, -, -, -, hprevious, hindex, hbound, hexpected⟩ :=
      item_identity head identity
    have hself : record.frame.identity = identity := hown _ List.mem_cons_self
    rw [hself] at hindex hexpected
    rw [single_insert] at hexpected
    obtain ⟨middlePrevious, middleExpected⟩ := middle
    simp only at hprevious hexpected
    subst hprevious hexpected
    rw [ih tail fun other hother => hown other (List.mem_cons_of_mem _ hother)]
    -- the last item of the rest is the last item, unless the rest is empty
    rcases List.eq_nil_or_concat items with rfl | ⟨front, last, rfl⟩
    · simp [lastDigest, nextIndex, saturatingAdd_one hbound]
    · have hlast : ((record, used) :: (front ++ [last])).getLast? = some last := by
        rw [← List.cons_append, List.getLast?_concat]
      simp [lastDigest, nextIndex, hlast]

end

/-! ## The strict loop -/

/-- **Inversion.** What the strict loop accepts is a reading to the end. -/
theorem reads_of_readLoop (chain : ChainState) {budget recordIndex : Nat}
    {records : List RawRecordEnvelopeV1} (hbudget : reader.length < budget)
    (h : readLoop codec budget reader recordIndex offset chain.previous chain.expected
      = .ok records) :
    ∃ items chain', Reads (rawReader codec none) chain reader items chain' [] ∧
      records = envelopes recordIndex offset items := by
  induction budget generalizing reader recordIndex offset chain records with
  | zero => omega
  | succ budget ih =>
    rw [readLoop] at h
    rcases hread : readNextRawRecord codec reader chain.previous chain.expected with
      ⟨e | _ | ⟨record, rest⟩, expected⟩ <;> simp only [hread] at h
    · cases h
    · cases h
      have hdone : nextRecord codec none chain reader = .done := by
        unfold nextRecord
        rw [hread]
      refine ⟨[], chain, ?_, rfl⟩
      rw [nextRecord_done.mp hdone]
      exact .nil
    · have hitem : nextRecord codec none chain reader
          = .item record record.encodedLength ⟨record.recordSha256, expected⟩ := by
        unfold nextRecord
        rw [hread]
        rfl
      have hrest : rest = reader.drop record.encodedLength := by
        have hread' := (readNextRawRecord_of_item hitem).1
        rw [hread] at hread'
        cases hread'
        rfl
      have hpos := (rawReader codec none).used_pos hitem
      have hle := (rawReader codec none).used_le hitem
      subst hrest
      unfold checkedAdd at h
      split at h
      · cases h
      next endOffset hend =>
      split at hend
      · cases hend
        obtain ⟨later, hlater, h⟩ := bind_eq_ok.mp h
        cases h
        obtain ⟨items, chain', hreads, rfl⟩ := ih ⟨record.recordSha256, expected⟩
          (by rw [List.length_drop]; omega) hlater
        exact ⟨(record, record.encodedLength) :: items, chain', .cons hitem hreads, rfl⟩
      · cases hend

theorem mem_ends_split {e : Nat} (h : e ∈ ends offset items) :
    ∃ through later, items = through ++ later ∧ e = offset + span through := by
  induction items generalizing offset with
  | nil => cases h
  | cons item items ih =>
    rcases List.mem_cons.mp h with rfl | h
    · exact ⟨[item], items, rfl, by simp⟩
    · obtain ⟨through, later, rfl, rfl⟩ := ih h
      exact ⟨item :: through, later, rfl, by rw [span_cons, Nat.add_assoc]⟩

/-- What a record of a range says: its frame, its digest and where it stands. -/
def content (envelope : RawRecordEnvelopeV1) : RawFrame × String × Nat × Nat :=
  (envelope.frame, envelope.recordSha256, envelope.startOffset, envelope.endOffset)

theorem content_envelopes (recordIndex recordIndex' offset : Nat)
    (items : List (ReadRecord × Nat)) :
    (envelopes recordIndex offset items).map content
      = (envelopes recordIndex' offset items).map content := by
  induction items generalizing recordIndex recordIndex' offset with
  | nil => rfl
  | cons item items ih =>
    rw [envelopes, envelopes, List.map_cons, List.map_cons, ih (recordIndex + 1) (recordIndex' + 1)]
    rfl

theorem envelopes_append (recordIndex offset : Nat) (a b : List (ReadRecord × Nat)) :
    envelopes recordIndex offset (a ++ b)
      = envelopes recordIndex offset a
        ++ envelopes (recordIndex + a.length) (offset + span a) b := by
  induction a generalizing recordIndex offset with
  | nil => rfl
  | cons item a ih =>
    rw [List.cons_append, envelopes, envelopes, ih, span_cons, List.length_cons, List.cons_append]
    congr 3 <;> omega

theorem endOffset_envelopes (recordIndex offset : Nat) (items : List (ReadRecord × Nat)) :
    (envelopes recordIndex offset items).map (·.endOffset) = ends offset items := by
  induction items generalizing recordIndex offset with
  | nil => rfl
  | cons item items ih => rw [envelopes, ends, List.map_cons, ih]

theorem exists_envelope (recordIndex offset : Nat) {item : ReadRecord × Nat} (h : item ∈ items) :
    ∃ envelope ∈ envelopes recordIndex offset items, envelope.frame = item.1.frame := by
  induction items generalizing recordIndex offset with
  | nil => cases h
  | cons first items ih =>
    rcases List.mem_cons.mp h with rfl | h
    · exact ⟨_, List.mem_cons_self, rfl⟩
    · obtain ⟨envelope, hmem, hframe⟩ := ih (recordIndex + 1) (offset + first.2) h
      exact ⟨envelope, List.mem_cons_of_mem _ hmem, hframe⟩

theorem getLast?_envelopes (recordIndex offset : Nat) (items : List (ReadRecord × Nat)) :
    (envelopes recordIndex offset items).getLast?.map content
      = items.getLast?.map fun item =>
          (item.1.frame, item.1.recordSha256, offset + span items - item.2, offset + span items) := by
  rcases List.eq_nil_or_concat items with rfl | ⟨front, last, rfl⟩
  · rfl
  · rw [List.concat_eq_append, envelopes_append, List.getLast?_concat, span_append]
    obtain ⟨record, used⟩ := last
    rw [envelopes, envelopes, List.getLast?_concat]
    simp only [content, Option.map_some, span_cons, span_nil, Option.some.injEq, Prod.mk.injEq,
      true_and]
    omega

theorem span_pos_of_reads (h : Reads (rawReader codec none) chain reader items chain' rest)
    (hitems : items ≠ []) : 0 < span items := by
  have hle := h.length_le_span
  have hpos := List.length_pos_iff.mpr hitems
  omega

theorem readRawRecordsAfterMagic_front (hitems : items ≠ [])
    (h : Reads (rawReader codec none) chain (file.bytes.drop start) items chain' rest) :
    readRawRecordsAfterMagic codec ((file.bytes.drop start).take (span items)) start chain.previous
      chain.expected = .ok (envelopes 0 start items) := by
  have hspan := h.rest_eq.1
  have hpos := span_pos_of_reads h hitems
  have hlen := file.length_le
  have hu64 : maxFileLength < u64Max := by decide
  rw [List.length_drop] at hspan
  apply readLoop_of_reads h.front
  · have hle := h.length_le_span
    rw [List.length_take, List.length_drop]
    omega
  · omega

/-- **A range** that ends behind a record of its reading is accepted. -/
theorem readRawRecordRange_of_reads {identity : Identity} {next : UInt64} (hstart : 8 ≤ start)
    (hitems : items ≠ [])
    (h : Reads (rawReader codec none) ⟨previous, single identity next⟩ (file.bytes.drop start) items
      chain rest) :
    readRawRecordRange codec file start (start + span items) previous identity.1 identity.2 next
      = .ok (envelopes 0 start items) := by
  have hspan := h.rest_eq.1
  have hpos := span_pos_of_reads h hitems
  rw [List.length_drop] at hspan
  have hmagic : magic.length = 8 := rfl
  unfold readRawRecordRange
  rw [if_neg (by omega), if_neg (by rw [File.len]; omega), Nat.add_sub_cancel_left]
  show (readRawRecordsAfterMagic codec _ _ _ (single identity next) >>= _) = _
  rw [readRawRecordsAfterMagic_front hitems h]
  refine if_neg (not_not_intro ?_)
  have hlast := congrArg (Option.map fun c => c.2.2.2) (getLast?_envelopes 0 start items)
  rw [Option.map_map, Option.map_map, List.getLast?_eq_some_getLast hitems] at hlast
  exact hlast

/-! ## The follower -/

def genesisChain (genesis : RawSegmentGenesisV1) : ChainState :=
  ⟨genesis.previousSegmentTerminalSha256, single genesis.identity genesis.nextFrameIndex⟩

theorem reads_split {a b : List (ReadRecord × Nat)}
    (h : Reads (rawReader codec none) chain reader (a ++ b) chain' rest) :
    ∃ middle, Reads (rawReader codec none) chain reader a middle (reader.drop (span a)) ∧
      Reads (rawReader codec none) middle (reader.drop (span a)) b chain' rest := by
  induction a generalizing chain reader with
  | nil => exact ⟨chain, .nil, h⟩
  | cons item a ih =>
    rcases h with _ | @⟨_, middle, _, _, _, record, used, _, head, tail⟩
    obtain ⟨next, hfirst, hsecond⟩ := ih tail
    rw [List.drop_drop] at hfirst hsecond
    exact ⟨next, .cons head hfirst, hsecond⟩

namespace StreamFollowState

section

variable {codec : RawCodec} {genesis : RawSegmentGenesisV1} {file : File}
  {items added : List (ReadRecord × Nat)} {s : StreamFollowState} {s' : StreamFollowState}

/-- The follower holds the first records of the segment, all of its own identity, and has read
    them as a whole reading would. -/
structure Follows (codec : RawCodec) (genesis : RawSegmentGenesisV1) (file : File)
    (items : List (ReadRecord × Nat)) (s : StreamFollowState) : Prop where
  genesis_eq : s.genesis = some genesis
  offset_eq : s.lastDurableOffset = 8 + span items
  records_eq : s.records.map content = (envelopes 0 8 items).map content
  own : ∀ item ∈ items, item.1.frame.identity = genesis.identity
  reads : ∃ chain, Reads (rawReader codec none) (genesisChain genesis) (file.bytes.drop 8)
    items chain (file.bytes.drop (8 + span items))

/-- The follower at the start of a segment. -/
theorem follows_bound : Follows codec genesis file [] (bound genesis) := by
  refine ⟨rfl, rfl, rfl, ?_, genesisChain genesis, .nil⟩
  intro item hitem
  cases hitem

/-- The chain state the follower asks the next range to continue. -/
theorem Follows.last (h : Follows codec genesis file items s) :
    (s.records.getLast?.map (·.recordSha256)).getD genesis.previousSegmentTerminalSha256
        = lastDigest genesis.previousSegmentTerminalSha256 items ∧
      (s.records.getLast?.map fun record => saturatingAdd record.frame.frameIndex 1).getD
        genesis.nextFrameIndex = nextIndex genesis.nextFrameIndex items := by
  have hlast : s.records.getLast?.map content = items.getLast?.map fun item =>
      (item.1.frame, item.1.recordSha256, 8 + span items - item.2, 8 + span items) := by
    rw [← getLast?_envelopes 0, ← List.getLast?_map, h.records_eq, List.getLast?_map]
  unfold lastDigest nextIndex
  cases hrecord : s.records.getLast? with
  | none =>
    rw [hrecord, Option.map_none] at hlast
    rw [Option.map_eq_none_iff.mp hlast.symm]
    exact ⟨rfl, rfl⟩
  | some record =>
    rw [hrecord, Option.map_some] at hlast
    obtain ⟨item, hitem, heq⟩ := Option.map_eq_some_iff.mp hlast.symm
    rw [hitem]
    simp only [content, Prod.mk.injEq] at heq
    obtain ⟨hframe, hdigest, -⟩ := heq
    simp [hframe, hdigest]

/-- The whole reading so far ends in the state a range starts from. -/
theorem Follows.reads_single (h : Follows codec genesis file items s) :
    Reads (rawReader codec none) (genesisChain genesis) (file.bytes.drop 8) items
      ⟨lastDigest genesis.previousSegmentTerminalSha256 items,
        single genesis.identity (nextIndex genesis.nextFrameIndex items)⟩
      (file.bytes.drop (8 + span items)) := by
  obtain ⟨chain, hreads⟩ := h.reads
  have hchain := Raw.reads_single hreads h.own
  rw [hchain] at hreads
  exact hreads

variable {chain : ChainState}

/-- The follower after a range that read `added`. -/
theorem Follows.append (h : Follows codec genesis file items s)
    (hreads : Reads (rawReader codec none)
      ⟨lastDigest genesis.previousSegmentTerminalSha256 items,
        single genesis.identity (nextIndex genesis.nextFrameIndex items)⟩
      (file.bytes.drop (8 + span items)) added chain
      (file.bytes.drop (8 + span (items ++ added))))
    (hown : ∀ item ∈ added, item.1.frame.identity = genesis.identity) :
    Follows codec genesis file (items ++ added)
      { s with
        records := s.records ++ envelopes 0 (8 + span items) added
        lastDurableOffset := 8 + span (items ++ added) } := by
  refine ⟨h.genesis_eq, rfl, ?_, ?_, chain, h.reads_single.trans hreads⟩
  · rw [List.map_append, h.records_eq, envelopes_append, List.map_append,
      content_envelopes 0 (0 + items.length) (8 + span items) added]
  · intro item hitem
    rcases List.mem_append.mp hitem with hitem | hitem
    · exact h.own item hitem
    · exact hown item hitem

theorem range_append (bytes : Bytes) {start stop : Nat} (h : start ≤ stop) :
    (bytes.drop start).take (stop - start) ++ bytes.drop stop = bytes.drop start := by
  have hdrop : bytes.drop stop = (bytes.drop start).drop (stop - start) := by
    rw [List.drop_drop, Nat.add_sub_cancel' h]
  rw [hdrop, List.take_append_drop]

/-- **Inversion.** A range that the follower accepts continues its reading. -/
theorem extendInFlight_eq_ok (h : Follows codec genesis file items s) {endOffset count : Nat}
    (hextend : s.extendInFlight codec file endOffset = (.ok count, s')) :
    ∃ added chain,
      Reads (rawReader codec none)
        ⟨lastDigest genesis.previousSegmentTerminalSha256 items,
          single genesis.identity (nextIndex genesis.nextFrameIndex items)⟩
        (file.bytes.drop (8 + span items)) added chain
        (file.bytes.drop (8 + span (items ++ added))) ∧
      endOffset = 8 + span (items ++ added) ∧
      s' = { s with
        records := s.records ++ envelopes 0 (8 + span items) added
        lastDurableOffset := 8 + span (items ++ added) } := by
  unfold extendInFlight at hextend
  rw [h.genesis_eq] at hextend
  dsimp only at hextend
  rw [h.last.1, h.last.2, h.offset_eq] at hextend
  split at hextend
  · cases hextend
  next appended hrange =>
  cases hextend
  unfold readRawRecordRange at hrange
  rw [ite_err_eq_ok, ite_err_eq_ok] at hrange
  obtain ⟨hvalid, -, hrange⟩ := hrange
  obtain ⟨records, hrecords, hrange⟩ := bind_eq_ok.mp hrange
  rw [ite_err_eq_ok, not_not] at hrange
  obtain ⟨hlast, hrange⟩ := hrange
  cases hrange
  obtain ⟨added, chain, hreads, rfl⟩ := reads_of_readLoop
    ⟨lastDigest genesis.previousSegmentTerminalSha256 items,
      single genesis.identity (nextIndex genesis.nextFrameIndex items)⟩ (Nat.lt_succ_self _) hrecords
  -- the range ends where its last record does
  have hend : endOffset = 8 + span (items ++ added) := by
    have hcontent := getLast?_envelopes 0 (8 + span items) added
    obtain ⟨record, hrecord, rfl⟩ := Option.map_eq_some_iff.mp hlast
    rw [hrecord, Option.map_some] at hcontent
    obtain ⟨item, -, heq⟩ := Option.map_eq_some_iff.mp hcontent.symm
    simp only [content, Prod.mk.injEq] at heq
    rw [span_append, ← Nat.add_assoc]
    exact heq.2.2.2.symm
  have hle : 8 + span items ≤ endOffset := by omega
  have hwhole := hreads.extend (file.bytes.drop endOffset)
  rw [range_append _ hle, List.nil_append, hend] at hwhole
  exact ⟨added, chain, hwhole, hend, by rw [hend, h.genesis_eq]⟩

theorem extendInFlight_of_reads (h : Follows codec genesis file items s) {rest : Bytes}
    (hitems : added ≠ [])
    (hreads : Reads (rawReader codec none)
      ⟨lastDigest genesis.previousSegmentTerminalSha256 items,
        single genesis.identity (nextIndex genesis.nextFrameIndex items)⟩
      (file.bytes.drop (8 + span items)) added chain rest) :
    s.extendInFlight codec file (8 + span (items ++ added))
      = (.ok added.length, { s with
        records := s.records ++ envelopes 0 (8 + span items) added
        lastDurableOffset := 8 + span (items ++ added) }) := by
  have hrange : readRawRecordRange codec file (8 + span items) (8 + span (items ++ added))
      (lastDigest genesis.previousSegmentTerminalSha256 items) genesis.connectionEpoch genesis.stream
      (nextIndex genesis.nextFrameIndex items) = .ok (envelopes 0 (8 + span items) added) := by
    rw [span_append, ← Nat.add_assoc]
    exact readRawRecordRange_of_reads (Nat.le_add_right 8 _) hitems hreads
  unfold extendInFlight
  rw [h.genesis_eq]
  dsimp only
  rw [h.last.1, h.last.2, h.offset_eq, hrange]
  have hcount := congrArg List.length (endOffset_envelopes 0 (8 + span items) added)
  rw [List.length_map, ends_length] at hcount
  dsimp only
  rw [hcount]

/-! ## Ranges and the whole -/

/-- The file begins with the magic and every record framed in it declares the identity of the
    segment. -/
def OwnFile (codec : RawCodec) (genesis : RawSegmentGenesisV1) (file : File) : Prop :=
  magic <+: file.bytes ∧
    ∀ body ∈ bodies (file.bytes.drop 8), declares codec genesis.identity body = true

/-- **Run.** The ranges the follower accepts are one reading, while the records declare the
    identity of the segment. -/
theorem extendThrough_follows (offsets : List Nat) (h : Follows codec genesis file items s)
    (hown : ∀ body ∈ bodies (file.bytes.drop (8 + span items)),
      declares codec genesis.identity body = true)
    (hextend : s.extendThrough codec file offsets = (.ok (), s')) :
    ∃ all, Follows codec genesis file all s' ∧
      8 + span all = ((8 + span items) :: offsets).getLastD 0 := by
  induction offsets generalizing items s with
  | nil =>
    cases hextend
    exact ⟨items, h, rfl⟩
  | cons offset offsets ih =>
    rw [extendThrough] at hextend
    split at hextend
    · cases hextend
    next count middle hrange =>
    obtain ⟨added, chain, hreads, hoffset, rfl⟩ := extendInFlight_eq_ok h hrange
    obtain ⟨hadded, hrest⟩ := (reads_declares hreads genesis.identity).mp hown
    obtain ⟨all, hall, hlast⟩ := ih (h.append hreads hadded) hrest hextend
    refine ⟨all, hall, ?_⟩
    rw [hlast, hoffset, List.getLastD_cons, List.getLastD_cons, List.getLastD_cons]

/-- **Inversion.** A segment that is read as a whole has the magic, and its records are one
    reading of the segment's own identity. -/
theorem readRawSegmentRecords_eq_ok {whole : List RawRecordEnvelopeV1}
    (h : readRawSegmentRecords codec file genesis = .ok whole) :
    magic <+: file.bytes ∧ ∃ all chain,
      Reads (rawReader codec none) (genesisChain genesis) (file.bytes.drop 8) all chain [] ∧
      whole = envelopes 0 8 all ∧ ∀ item ∈ all, item.1.frame.identity = genesis.identity := by
  unfold readRawSegmentRecords at h
  obtain ⟨⟨⟩, -, h⟩ := bind_eq_ok.mp h
  obtain ⟨reader, hmagic, h⟩ := bind_eq_ok.mp h
  obtain ⟨records, hrecords, h⟩ := bind_eq_ok.mp h
  rw [ite_err_eq_ok] at h
  obtain ⟨hidentity, h⟩ := h
  cases h
  unfold readMagic at hmagic
  rw [ite_err_eq_ok, ite_err_eq_ok, not_not] at hmagic
  obtain ⟨-, htake, hreader⟩ := hmagic
  cases hreader
  obtain ⟨all, chain, hreads, rfl⟩ :=
    reads_of_readLoop (genesisChain genesis) (Nat.lt_succ_self _) hrecords
  refine ⟨?_, all, chain, hreads, rfl, ?_⟩
  · rw [← htake]
    exact List.take_prefix _ _
  · intro item hitem
    by_contra hforeign
    apply hidentity
    rw [List.any_eq_true]
    obtain ⟨envelope, hmem, hframe⟩ := exists_envelope 0 8 hitem
    exact ⟨envelope, hmem, by simpa [hframe, RawFrame.identity] using hforeign⟩

theorem readRawSegmentRecords_of_reads (hgenesis : validateSegmentGenesis genesis = .ok ())
    (hmagic : magic <+: file.bytes)
    (hreads : Reads (rawReader codec none) (genesisChain genesis) (file.bytes.drop 8) items chain [])
    (hown : ∀ item ∈ items, item.1.frame.identity = genesis.identity) :
    readRawSegmentRecords codec file genesis = .ok (envelopes 0 8 items) := by
  obtain ⟨log, hlog⟩ := hmagic
  have hdrop : file.bytes.drop 8 = log := by
    rw [← hlog]
    rfl
  have hlen := file.length_le
  rw [← hlog, List.length_append, magic_length] at hlen
  have hu64 : maxFileLength < u64Max := by decide
  rw [hdrop] at hreads
  have hspan := hreads.rest_eq.1
  have hloop : readRawRecordsAfterMagic codec log magic.length
      (genesisChain genesis).previous (genesisChain genesis).expected
      = .ok (envelopes 0 8 items) := by
    apply readLoop_of_reads hreads
    · have := hreads.length_le_span
      omega
    · show 8 + span items ≤ u64Max
      omega
  unfold readRawSegmentRecords
  rw [hgenesis, ← hlog, readMagic_append]
  show (readRawRecordsAfterMagic codec log magic.length (genesisChain genesis).previous
    (genesisChain genesis).expected >>= _) = _
  rw [hloop]
  refine if_neg ?_
  rw [List.any_eq_true]
  rintro ⟨envelope, hmem, hforeign⟩
  obtain ⟨item, hitem, hframe⟩ := mem_envelopes hmem
  have hself := hown item hitem
  rw [hframe] at hforeign
  simp only [decide_eq_true_eq] at hforeign
  exact hforeign hself

theorem Follows.whole (h : Follows codec genesis file items s)
    (hgenesis : validateSegmentGenesis genesis = .ok ()) (hmagic : magic <+: file.bytes)
    (hend : 8 + span items = file.len) :
    readRawSegmentRecords codec file genesis = .ok (envelopes 0 8 items) := by
  obtain ⟨chain, hreads⟩ := h.reads
  have hrest : file.bytes.drop (8 + span items) = [] := by
    rw [hend]
    exact List.drop_length
  rw [hrest] at hreads
  exact readRawSegmentRecords_of_reads hgenesis hmagic hreads h.own

/-- **Run.** Ranges that end behind records of a segment that is read as a whole are
    accepted. -/
theorem extendThrough_of_whole {all : List (ReadRecord × Nat)}
    (hall : Reads (rawReader codec none) (genesisChain genesis) (file.bytes.drop 8) all chain [])
    (hown : ∀ item ∈ all, item.1.frame.identity = genesis.identity) (offsets : List Nat)
    (hends : ∀ offset ∈ offsets, offset ∈ ends 8 all) (h : Follows codec genesis file items s)
    (hpre : items <+: all) (hincreasing : ((8 + span items) :: offsets).IsChain (· < ·)) :
    ∃ s', s.extendThrough codec file offsets = (.ok (), s') := by
  induction offsets generalizing items s with
  | nil => exact ⟨s, rfl⟩
  | cons offset offsets ih =>
    rw [List.isChain_cons_cons] at hincreasing
    obtain ⟨hlt, hincreasing⟩ := hincreasing
    obtain ⟨through, later, hsplit, hoffset⟩ :=
      mem_ends_split (hends offset List.mem_cons_self)
    -- the range is the items between the two offsets
    have hlonger : items <+: through := by
      rcases List.prefix_or_prefix_of_prefix hpre ⟨later, hsplit.symm⟩ with hle | ⟨rest, rfl⟩
      · exact hle
      · rw [span_append] at hlt
        omega
    obtain ⟨added, rfl⟩ := hlonger
    have hadded : added ≠ [] := by
      rintro rfl
      rw [List.append_nil] at hoffset
      omega
    have hmem : ∀ item ∈ added, item.1.frame.identity = genesis.identity := by
      intro item hitem
      apply hown
      rw [hsplit]
      exact List.mem_append_left _ (List.mem_append_right _ hitem)
    rw [hsplit, List.append_assoc] at hall
    obtain ⟨middle, hfirst, hsecond⟩ := reads_split hall
    obtain ⟨next, hrange, -⟩ := reads_split hsecond
    have hmiddle := Raw.reads_single hfirst h.own
    rw [List.drop_drop, hmiddle] at hrange
    rw [List.drop_drop, Nat.add_assoc, ← span_append] at hrange
    rw [extendThrough, hoffset, extendInFlight_of_reads h hadded hrange]
    apply ih (fun other hother => hends other (List.mem_cons_of_mem _ hother))
      (h.append hrange hmem) ⟨later, hsplit.symm⟩
    rw [hoffset] at hincreasing
    exact hincreasing

end

/-- Reading a segment range by range refines reading it as a whole. -/
structure RangesRefine (codec : RawCodec) (genesis : RawSegmentGenesisV1) (file : File)
    (offsets : List Nat) : Prop where
  /-- What the ranges give, the whole gives. -/
  whole : ∀ s, (bound genesis).extendThrough codec file offsets = (.ok (), s) →
    ∃ records, readRawSegmentRecords codec file genesis = .ok records ∧
      records.map content = s.records.map content
  /-- What is read as a whole is read in ranges between records. -/
  ranges : ∀ records, readRawSegmentRecords codec file genesis = .ok records →
    (∀ offset ∈ offsets, offset ∈ records.map (·.endOffset)) →
    ∃ s, (bound genesis).extendThrough codec file offsets = (.ok (), s)

/-- **The ranges refine the whole** exactly on the files whose ranges are accepted only if the
    magic and the identity of every record are the segment's own. -/
theorem ranges_refine_iff (codec : RawCodec) (genesis : RawSegmentGenesisV1)
    (hgenesis : validateSegmentGenesis genesis = .ok ()) (file : File) (offsets : List Nat)
    (hincreasing : (8 :: offsets).IsChain (· < ·)) (hlast : (8 :: offsets).getLastD 0 = file.len) :
    RangesRefine codec genesis file offsets ↔
      (((bound genesis).extendThrough codec file offsets).1 = .ok () →
        OwnFile codec genesis file) := by
  constructor
  · intro h hok
    obtain ⟨records, hrecords, -⟩ := h.whole _ (Prod.ext hok rfl)
    obtain ⟨hmagic, all, chain, hreads, -, hown⟩ := readRawSegmentRecords_eq_ok hrecords
    refine ⟨hmagic, (reads_declares hreads genesis.identity).mpr ⟨hown, ?_⟩⟩
    intro body hbody
    cases hbody
  · intro h
    refine ⟨?_, ?_⟩
    · intro s hextend
      obtain ⟨hmagic, hown⟩ := h (by rw [hextend])
      obtain ⟨all, hall, hend⟩ := extendThrough_follows offsets follows_bound hown hextend
      have hwhole := hall.whole hgenesis hmagic (hend.trans hlast)
      exact ⟨_, hwhole, hall.records_eq.symm⟩
    · intro records hrecords hoffsets
      obtain ⟨-, all, chain, hreads, rfl, hown⟩ := readRawSegmentRecords_eq_ok hrecords
      rw [endOffset_envelopes] at hoffsets
      exact extendThrough_of_whole hreads hown offsets hoffsets follows_bound List.nil_prefix
        hincreasing

theorem RangesRefine.whole_isOk {codec : RawCodec} {genesis : RawSegmentGenesisV1} {file : File}
    {offsets : List Nat} (h : RangesRefine codec genesis file offsets)
    (hok : ((bound genesis).extendThrough codec file offsets).1.isOk = true) :
    (readRawSegmentRecords codec file genesis).isOk = true := by
  obtain ⟨⟨⟩, hranges⟩ := isOk_eq_true.mp hok
  obtain ⟨records, hrecords, -⟩ := h.whole _ (Prod.ext hranges rfl)
  exact isOk_eq_true.mpr ⟨records, hrecords⟩

def sampleGenesis : RawSegmentGenesisV1 := ⟨"RawSegmentGenesisV1", 0, zeroDigest, "a", "t", 0⟩

def sampleFile (records : List (RawRecord × Nat)) : File :=
  File.empty.append (magic ++ records.flatMap fun known =>
    framed known.1.text (digestOfNat known.2))

/-- The follower accepts the record of another stream in the segment, the segment's reader does
    not. -/
theorem foreign_record_in_range :
    validateSegmentGenesis sampleGenesis = .ok () ∧
    ¬ RangesRefine sampleCodec sampleGenesis (sampleFile sampleRecords)
      [(sampleFile sampleRecords).len] := by
  refine ⟨by decide +kernel, ?_⟩
  intro h
  have hok : (((bound sampleGenesis).extendThrough sampleCodec (sampleFile sampleRecords)
      [(sampleFile sampleRecords).len]).1.isOk, (readRawSegmentRecords sampleCodec
        (sampleFile sampleRecords) sampleGenesis).isOk) = (true, false) := by decide +kernel
  rw [Prod.mk.injEq] at hok
  have hwhole := h.whole_isOk hok.1
  rw [hok.2] at hwhole
  cases hwhole

/-- A segment of one record, read in one range. -/
theorem ranges_refine_one_record :
    RangesRefine sampleCodec sampleGenesis (sampleFile (sampleRecords.take 1))
      [(sampleFile (sampleRecords.take 1)).len] := by
  refine (ranges_refine_iff sampleCodec sampleGenesis (by decide +kernel) _ _ ?_ rfl).mpr ?_
  · decide +kernel
  · intro _
    refine ⟨?_, ?_⟩
    · decide +kernel
    · decide +kernel

end StreamFollowState

end LobReplay.Raw
