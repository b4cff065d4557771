/-
  Rotation of a raw log into segments, as the capture does it: each segment starts from the genesis
  its predecessor's seal gives, is written and synced, verified and sealed, and its seal is appended
  to the manifest.

  `At` is the place between two segments: what the unsegmented log of the same frames has reached
  there and what the rotation has handed over.
-/

import LobReplay.Segment.Step

namespace LobReplay.Raw

open Foundation RawLogWriter

/-! ## The rotation -/

/-- Where a segment is written, the name its seal carries, and its frames. -/
structure SegmentPlan where
  path : String
  rawFile : String
  frames : List CapturedFrame

/-- What the rotation carries from segment to segment. -/
structure Rotation where
  files : Files
  manifest : RawSegmentManifestWriter
  lastSeal : Option RawSegmentSealV1

def segmentGenesis (connectionEpoch stream : String) :
    Option RawSegmentSealV1 → Result RawSegmentGenesisV1
  | none => rootSegmentGenesis connectionEpoch stream
  | some previous => successorSegmentGenesis previous

def writeSegment (codec : RawCodec) (files : Files) (syncEvery : Nat)
    (genesis : RawSegmentGenesisV1) (plan : SegmentPlan) : Result (DurabilityAckV1 × Files) := do
  let writer ← createSegment files plan.path syncEvery genesis
  let (_, writer) ← writer.appendAll codec plan.frames
  match writer.sync with
  | (.error e, _) => .error e
  | (.ok ack, writer) =>
    .ok (ack, Function.update files plan.path (some writer.drop.sink.file))

/-- One segment: written, verified, sealed and published. -/
def rotateSegment (codec : SegmentCodec) (connectionEpoch stream : String) (syncEvery : Nat)
    (rotation : Rotation) (plan : SegmentPlan) : Result Rotation := do
  let genesis ← segmentGenesis connectionEpoch stream rotation.lastSeal
  let (ack, files) ← writeSegment codec.toRawCodec rotation.files syncEvery genesis plan
  let verified ← verifyAndSealRawSegment codec.toRawCodec files plan.path plan.rawFile genesis ack
  match rotation.manifest.appendVerified codec files verified with
  | (.error e, _) => .error e
  | (.ok _, manifest) => .ok ⟨files, manifest, some verified.sealed⟩

/-- The segments one after another. -/
def rotate (codec : SegmentCodec) (connectionEpoch stream : String) (syncEvery : Nat) :
    Rotation → List SegmentPlan → Result Rotation
  | rotation, [] => .ok rotation
  | rotation, plan :: plans => do
    let rotation ← rotateSegment codec connectionEpoch stream syncEvery rotation plan
    rotate codec connectionEpoch stream syncEvery rotation plans

/-- A rotation into a new manifest. -/
def startRotation (files : Files) : Result Rotation := do
  let manifest ← RawSegmentManifestWriter.fromSink (Sink.fresh [])
  .ok ⟨files, manifest, none⟩

/-- The record bytes of the segment at `path`: its file without the magic. -/
def segmentRecords (files : Files) (path : String) : Bytes :=
  ((files path).map fun file => file.bytes.drop 8).getD []

/-! ## The planned seals -/

/-- A place in the unsegmented log between two segments. -/
structure Cut where
  index : Nat
  first : Nat
  offset : Nat
  previous : String
  deriving DecidableEq

/-- The place before the first segment. -/
def Cut.start : Cut := ⟨0, 0, magic.length, zeroDigest⟩

/-- The place behind a segment whose last record has the receipt `last`. -/
def Cut.next (cut : Cut) (plan : SegmentPlan) (last : AppendReceiptV1) : Cut :=
  ⟨cut.index + 1, cut.first + plan.frames.length, last.endOffset, last.recordSha256⟩

/-- The seal of a segment, as the receipts of the unsegmented log give it. -/
def plannedSeal (connectionEpoch stream : String) (cut : Cut) (plan : SegmentPlan)
    (last : AppendReceiptV1) : RawSegmentSealV1 where
  schema := "RawSegmentSealV1"
  segmentIndex := UInt64.ofNat cut.index
  rawFile := plan.rawFile
  connectionEpoch := connectionEpoch
  stream := stream
  firstFrameIndex := UInt64.ofNat cut.first
  lastFrameIndex := UInt64.ofNat (cut.first + plan.frames.length - 1)
  records := plan.frames.length
  durableThroughOffset := magic.length + (last.endOffset - cut.offset)
  previousSegmentTerminalSha256 := cut.previous
  terminalRecordSha256 := last.recordSha256

def plannedSeals (connectionEpoch stream : String) :
    Cut → List SegmentPlan → List AppendReceiptV1 → List RawSegmentSealV1
  | _, [], _ => []
  | cut, plan :: plans, receipts =>
    match (receipts.take plan.frames.length).getLast? with
    | none => []
    | some last =>
      plannedSeal connectionEpoch stream cut plan last ::
        plannedSeals connectionEpoch stream (cut.next plan last) plans
          (receipts.drop plan.frames.length)

/-- Every manifest record of `seals`, chained from `chain` on, is within the size limit. -/
def ManifestWritable (codec : SegmentCodec) : ManifestState → List RawSegmentSealV1 → Prop
  | _, [] => True
  | chain, sealed :: rest =>
    ∃ bytes, codec.manifestToVec (chain.body sealed) = .ok bytes ∧
      bytes.length ≤ maxManifestRecordBytes ∧
      ManifestWritable codec (chain.next sealed (codec.digest bytes)) rest

/-! ## Between two segments -/

/-- The unsegmented log `log` and the rotation have reached `cut`. -/
structure At (codec : SegmentCodec) (connectionEpoch stream : String) (cut : Cut)
    (log : RawLogWriter) (rotation : Rotation) (records : List ManifestRecord) : Prop where
  intact : ∃ items, Intact codec.toRawCodec none items log
  digest_eq : log.previousDigest = cut.previous
  offset_eq : log.endOffset = cut.offset
  next_eq : (log.expected.next (connectionEpoch, stream)).toNat = cut.first
  lower : isLowerHex64 cut.previous = true
  manifest : rotation.manifest.Intact codec records
  count_eq : rotation.manifest.chain.recordCount = cut.index
  lastSeal_eq : rotation.manifest.chain.lastSeal = rotation.lastSeal
  handed : (rotation.lastSeal = none ∧ cut.index = 0 ∧ cut.first = 0 ∧
      cut.previous = zeroDigest) ∨
    ∃ sealed, rotation.lastSeal = some sealed ∧ validateSealShape sealed = .ok () ∧
      sealed.connectionEpoch = connectionEpoch ∧ sealed.stream = stream ∧
      sealed.segmentIndex.toNat + 1 = cut.index ∧ sealed.lastFrameIndex.toNat + 1 = cut.first ∧
      sealed.terminalRecordSha256 = cut.previous

structure Genesis (connectionEpoch stream : String) (cut : Cut) (genesis : RawSegmentGenesisV1) :
    Prop where
  valid : ValidGenesis genesis
  epoch_eq : genesis.connectionEpoch = connectionEpoch
  stream_eq : genesis.stream = stream
  index_eq : genesis.segmentIndex.toNat = cut.index
  next_eq : genesis.nextFrameIndex.toNat = cut.first
  digest_eq : genesis.previousSegmentTerminalSha256 = cut.previous

theorem toNat_ofNat_of_le {n : Nat} (h : n ≤ u64Max) : (UInt64.ofNat n).toNat = n := by
  apply UInt64.toNat_ofNat_of_lt'
  show n < 2 ^ 64
  simp only [u64Max] at h
  omega

theorem successorIndex_eq (index : UInt64) (h : index.toNat + 1 ≤ u64Max) (message : String) :
    successorIndex index message = .ok (index + 1) ∧ (index + 1).toNat = index.toNat + 1 := by
  have hne : index ≠ maxU64 := by
    intro heq
    rw [heq, maxU64_toNat] at h
    omega
  refine ⟨if_neg hne, ?_⟩
  rw [← saturatingAdd_one hne, saturatingAdd_toNat, UInt64.toNat_one]
  exact Nat.min_eq_left h

section

variable {codec : SegmentCodec} {connectionEpoch stream : String} {cut : Cut}
  {log log' : RawLogWriter} {rotation : Rotation} {records : List ManifestRecord} {bytes : Bytes}

theorem At.index_lt (h : At codec connectionEpoch stream cut log rotation records) :
    cut.index < u64Max := by
  have hle := length_le_recordBytes codec records
  have heq := h.manifest.chained.recordCount_eq
  have hmax := rotation.manifest.sink.file.length_le
  have hu64 : maxFileLength < u64Max := by decide
  rw [h.manifest.bytes, List.length_append] at hmax
  rw [h.count_eq] at heq
  change cut.index = 0 + records.length at heq
  omega

/-- **Genesis.** A cut hands over a valid genesis, unless its digest is all zero. -/
theorem At.genesis (h : At codec connectionEpoch stream cut log rotation records)
    (hepoch : isBlank connectionEpoch = false) (hstream : isBlank stream = false)
    (hzero : rotation.lastSeal = none ∨ cut.previous ≠ zeroDigest) :
    ∃ genesis, segmentGenesis connectionEpoch stream rotation.lastSeal = .ok genesis ∧
      Genesis connectionEpoch stream cut genesis := by
  rcases h.handed with ⟨hnone, hindex, hfirst, hprevious⟩ |
    ⟨sealed, hsome, hshape, hepoch', hstream', hindex, hfirst, hprevious⟩
  · refine ⟨⟨"RawSegmentGenesisV1", 0, zeroDigest, connectionEpoch, stream, 0⟩, ?_, ?_⟩
    · rw [hnone]
      show (if _ then _ else _) = _
      rw [if_neg (by simp [hepoch, hstream])]
    · refine ⟨⟨rfl, hepoch, hstream, ?_, .inl ⟨rfl, rfl, rfl⟩⟩, rfl, rfl, hindex.symm, hfirst.symm,
        hprevious.symm⟩
      rw [← hprevious]
      exact h.lower
  · have hlt := h.index_lt
    have hnext := toNat_le_u64Max (log.expected.next (connectionEpoch, stream))
    rw [h.next_eq] at hnext
    obtain ⟨hseg, hsegNat⟩ := successorIndex_eq sealed.segmentIndex (by omega)
      "raw segment index overflow"
    obtain ⟨hframe, hframeNat⟩ := successorIndex_eq sealed.lastFrameIndex (by omega)
      "raw segment frame index overflow"
    have hnonzero : cut.previous ≠ zeroDigest := by
      rcases hzero with hnone | hnonzero
      · rw [hnone] at hsome
        cases hsome
      · exact hnonzero
    refine ⟨⟨"RawSegmentGenesisV1", sealed.segmentIndex + 1, sealed.terminalRecordSha256,
      sealed.connectionEpoch, sealed.stream, sealed.lastFrameIndex + 1⟩, ?_, ?_⟩
    · rw [hsome]
      show successorSegmentGenesis sealed = _
      rw [successorSegmentGenesis, hshape, hseg, hframe]
      rfl
    · refine ⟨⟨rfl, by rw [hepoch', hepoch], by rw [hstream', hstream], ?_, .inr ⟨?_, ?_, ?_⟩⟩,
        hepoch', hstream', hsegNat.trans hindex, hframeNat.trans hfirst, hprevious⟩
      · rw [hprevious]
        exact h.lower
      · rw [UInt64.lt_iff_toNat_lt, hsegNat, UInt64.toNat_zero]
        omega
      · rw [hprevious]
        exact hnonzero
      · rw [UInt64.lt_iff_toNat_lt, hframeNat, UInt64.toNat_zero]
        omega

/-! ## One segment -/

variable {genesis : RawSegmentGenesisV1} {syncEvery : Nat} {own : List AppendReceiptV1}
  {last : AppendReceiptV1}

theorem createSegment_inStep (h : At codec connectionEpoch stream cut log rotation records)
    (hg : Genesis connectionEpoch stream cut genesis) (hsync : syncEvery ≠ 0) {path : String}
    (hnew : rotation.files path = none) :
    ∃ segment, createSegment rotation.files path syncEvery genesis = .ok segment ∧
      InStep codec.toRawCodec genesis log.sink.file.bytes [] segment log := by
  obtain ⟨items, hintact⟩ := h.intact
  obtain ⟨logBytes, hlogBytes, -⟩ := hintact.reads
  have hfits : (Sink.fresh []).file.fits magic.length := by
    show 0 + 8 ≤ maxFileLength
    decide
  obtain ⟨sink, hwrite, hfaults, hbytes⟩ := Sink.writeAll_clean (Sink.fresh []) rfl hfits
  have hinit : ∃ segment, initializeLog (Sink.fresh []) syncEvery (some genesis) = .ok segment ∧
      segment.sink = sink ∧ segment.previousDigest = genesis.previousSegmentTerminalSha256 ∧
      segment.expected = single genesis.identity genesis.nextFrameIndex := by
    unfold initializeLog
    simp only [if_neg hsync, hwrite, Sink.barrier_clean hfaults]
    exact ⟨_, rfl, rfl, rfl, rfl⟩
  obtain ⟨segment, hsegment, hsink, hdigest, hexpected⟩ := hinit
  have hkey : genesis.identity = (connectionEpoch, stream) :=
    Prod.ext hg.epoch_eq hg.stream_eq
  have hnext : genesis.nextFrameIndex = log.expected.next (connectionEpoch, stream) :=
    UInt64.toNat_inj.mp (hg.next_eq.trans h.next_eq.symm)
  refine ⟨segment, ?_, initializeLog_intact hsegment, ?_, ?_, ?_, ⟨[], ?_, ?_⟩, ?_⟩
  · rw [createSegment, hg.valid.validate, hnew]
    show fromSinkSegment (Sink.fresh []) syncEvery genesis = _
    rw [fromSinkSegment, hg.valid.validate]
    exact hsegment
  · rw [hsink, hfaults]
  · rw [hdigest, hg.digest_eq, h.digest_eq]
  · rw [hexpected, hkey, hnext]
  · rw [hsink, hbytes]
    rfl
  · rw [List.append_nil]
  · rw [hlogBytes, List.length_append]
    omega

/-- **Write.** The segment is written with the bytes the unsegmented log appends. -/
theorem writeSegment_at (hcodec : codec.Lawful)
    (h : At codec connectionEpoch stream cut log rotation records)
    (hg : Genesis connectionEpoch stream cut genesis) (hsync : syncEvery ≠ 0) {plan : SegmentPlan}
    (hnew : rotation.files plan.path = none)
    (hidentity : ∀ frame ∈ plan.frames, frame.identity = (connectionEpoch, stream))
    (hne : plan.frames ≠ [])
    (happend : log.appendAll codec.toRawCodec plan.frames = .ok (own, log')) :
    ∃ segment items added,
      writeSegment codec.toRawCodec rotation.files syncEvery genesis plan
        = .ok (segment.currentAck,
            Function.update rotation.files plan.path (some segment.sink.file)) ∧
      Sealable codec.toRawCodec genesis items segment
        (log'.expected.next (connectionEpoch, stream)) ∧
      items.length = plan.frames.length ∧ segment.previousDigest = log'.previousDigest ∧
      segment.sink.file.bytes = magic ++ added ∧
      log'.sink.file.bytes = log.sink.file.bytes ++ added := by
  obtain ⟨logItems, hlog⟩ := h.intact
  obtain ⟨created, hcreate, hstep⟩ := createSegment_inStep h hg hsync hnew
  have hkey : genesis.identity = (connectionEpoch, stream) := Prod.ext hg.epoch_eq hg.stream_eq
  obtain ⟨receipts', segment, items, hall, hend, hlength⟩ :=
    appendAll_inStep hcodec.raw (by rw [hkey]; exact hidentity) hstep hlog happend
  rw [List.nil_append] at hend
  obtain ⟨-, hcount, -, -⟩ := appendAll_counts hcodec.raw hidentity hlog happend
  obtain ⟨added, hsegBytes, hlogBytes⟩ := hend.bytes
  refine ⟨segment, items, added, ?_, ⟨hg.valid, hend.intact, ?_, ?_, ?_⟩, hlength,
    hend.digest_eq, hsegBytes, hlogBytes⟩
  · have hsynced : segment.sync = (.ok segment.currentAck,
        { segment with sinceSync := 0, lastAck := some segment.currentAck }) := by
      unfold sync
      rw [if_neg (by simp [hend.intact.open_eq]), Sink.flushAndSyncAll_clean hend.faults_eq]
    rw [writeSegment, hcreate]
    show (created.appendAll codec.toRawCodec plan.frames >>= _) = _
    rw [hall]
    show (match segment.sync with | (.error e, _) => _ | (.ok ack, writer) => _) = _
    rw [hsynced]
    simp only [drop_file]
  · rw [hend.expected_eq, hkey]
  · rw [hcount, h.next_eq, hg.next_eq, hlength]
  · intro hnil
    rw [hnil] at hlength
    exact hne (List.length_eq_zero_iff.mp hlength.symm)

theorem sealOf_eq_plannedSeal (h : At codec connectionEpoch stream cut log rotation records)
    (hg : Genesis connectionEpoch stream cut genesis) {plan : SegmentPlan}
    {items : List (ReadRecord × Nat)} {segment : RawLogWriter} {next : UInt64}
    (hsealable : Sealable codec.toRawCodec genesis items segment next)
    (hlength : items.length = plan.frames.length)
    (hdigest : segment.previousDigest = last.recordSha256) {added : Bytes}
    (hbytes : segment.sink.file.bytes = magic ++ added)
    (hend : last.endOffset = log.endOffset + added.length) :
    sealOf genesis plan.rawFile segment next
      = plannedSeal connectionEpoch stream cut plan last := by
  have hindex : genesis.segmentIndex = UInt64.ofNat cut.index := by
    rw [← hg.index_eq, UInt64.ofNat_toNat]
  have hfirst : genesis.nextFrameIndex = UInt64.ofNat cut.first := by
    rw [← hg.next_eq, UInt64.ofNat_toNat]
  have hlast : next - 1 = UInt64.ofNat (cut.first + plan.frames.length - 1) := by
    rw [← hlength, ← hg.next_eq, ← hsealable.pred_toNat, UInt64.ofNat_toNat]
  have hoffset : segment.endOffset = magic.length + (last.endOffset - cut.offset) := by
    rw [← hsealable.intact.len_eq, File.len, hbytes, List.length_append, hend, h.offset_eq]
    omega
  have hrecords : segment.recordCount = plan.frames.length :=
    hsealable.intact.count_eq.trans hlength
  unfold sealOf plannedSeal
  rw [hindex, hfirst, hlast, hoffset, hrecords, hdigest, hg.epoch_eq, hg.stream_eq, hg.digest_eq]

/-- **Transition.** The planned seal continues the manifest. -/
theorem validateManifestTransition_planned
    (h : At codec connectionEpoch stream cut log rotation records) {plan : SegmentPlan}
    (hshape : validateSealShape (plannedSeal connectionEpoch stream cut plan last) = .ok ())
    (hfresh : plan.rawFile ∉ rotation.manifest.chain.rawFiles) :
    validateManifestTransition rotation.manifest.chain.recordCount
      rotation.manifest.chain.lastSeal rotation.manifest.chain.rawFiles
      (plannedSeal connectionEpoch stream cut plan last) = .ok () := by
  have hlt := h.index_lt
  have hfirst := toNat_le_u64Max (log.expected.next (connectionEpoch, stream))
  rw [h.next_eq] at hfirst
  have hindexNat : (UInt64.ofNat cut.index).toNat = cut.index :=
    toNat_ofNat_of_le (Nat.le_of_lt hlt)
  have hfirstNat : (UInt64.ofNat cut.first).toNat = cut.first := toNat_ofNat_of_le hfirst
  unfold validateManifestTransition
  rw [hshape]
  show (if _ then _ else _) = _
  rw [if_neg, h.lastSeal_eq]
  · rcases h.handed with ⟨hnone, hindex, hframe, hprevious⟩ |
      ⟨sealed, hsome, -, hepoch, hstream, hindex, hframe, hprevious⟩
    · rw [hnone]
      show (if _ then _ else _) = _
      rw [if_neg]
      simp [plannedSeal, hindex, hframe, hprevious]
    · rw [hsome]
      obtain ⟨hseg, hsegNat⟩ := successorIndex_eq sealed.segmentIndex (by omega)
        "segment index overflow"
      obtain ⟨hnext, hnextNat⟩ := successorIndex_eq sealed.lastFrameIndex (by omega)
        "segment frame index overflow"
      have hsegEq : UInt64.ofNat cut.index = sealed.segmentIndex + 1 :=
        UInt64.toNat_inj.mp (by rw [hindexNat, hsegNat, hindex])
      have hnextEq : UInt64.ofNat cut.first = sealed.lastFrameIndex + 1 :=
        UInt64.toNat_inj.mp (by rw [hfirstNat, hnextNat, hframe])
      dsimp only
      rw [hseg, hnext]
      show (if _ then _ else _) = _
      rw [if_neg]
      simp [plannedSeal, hsegEq, hnextEq, hepoch, hstream, hprevious]
  · show ¬ ((UInt64.ofNat cut.index).toNat ≠ _ ∨ plan.rawFile ∈ _)
    rw [hindexNat, h.count_eq]
    simp [hfresh]

/-- What one segment needs besides the unsegmented log: a new path, a file name of its own, and
    room in the manifest. -/
structure Admissible (rotation : Rotation) (plan : SegmentPlan) : Prop where
  path_new : rotation.files plan.path = none
  name_valid : validateRelativeFile plan.rawFile = .ok ()
  name_eq : fileName plan.path = some plan.rawFile
  name_new : plan.rawFile ∉ rotation.manifest.chain.rawFiles
  frames_ne : plan.frames ≠ []
  room : rotation.manifest.sink.file.len + (maxManifestRecordBytes + 36) ≤ maxFileLength

/-- **Step.** One segment moves the rotation to the next cut of the unsegmented log. -/
theorem rotateSegment_at (hcodec : codec.Lawful)
    (h : At codec connectionEpoch stream cut log rotation records)
    (hepoch : isBlank connectionEpoch = false) (hstream : isBlank stream = false)
    (hzero : rotation.lastSeal = none ∨ cut.previous ≠ zeroDigest) (hsync : syncEvery ≠ 0)
    {plan : SegmentPlan} (hplan : Admissible rotation plan)
    (hidentity : ∀ frame ∈ plan.frames, frame.identity = (connectionEpoch, stream))
    (happend : log.appendAll codec.toRawCodec plan.frames = .ok (own, log'))
    (hlast : own.getLast? = some last)
    (htext : codec.manifestToVec (rotation.manifest.chain.body
      (plannedSeal connectionEpoch stream cut plan last)) = .ok bytes)
    (hlimit : bytes.length ≤ maxManifestRecordBytes) :
    ∃ rotation' file added,
      rotateSegment codec connectionEpoch stream syncEvery rotation plan = .ok rotation' ∧
      At codec connectionEpoch stream (cut.next plan last) log' rotation'
        (records ++ [(plannedSeal connectionEpoch stream cut plan last, bytes)]) ∧
      rotation'.manifest.chain = rotation.manifest.chain.next
        (plannedSeal connectionEpoch stream cut plan last) (codec.digest bytes) ∧
      rotation'.files = Function.update rotation.files plan.path (some file) ∧
      file.bytes = magic ++ added ∧ log'.sink.file.bytes = log.sink.file.bytes ++ added := by
  obtain ⟨logItems, hlog⟩ := h.intact
  obtain ⟨genesis, hgenesis, hg⟩ := h.genesis hepoch hstream hzero
  obtain ⟨segment, items, added, hwrite, hsealable, hlength, hdigest, hsegBytes, hlogBytes⟩ :=
    writeSegment_at hcodec h hg hsync hplan.path_new hidentity hplan.frames_ne happend
  obtain ⟨⟨logItems', hlog'⟩, hcount, hprevious, hoffset⟩ :=
    appendAll_counts hcodec.raw hidentity hlog happend
  rw [hlast, Option.map_some, Option.getD_some] at hprevious hoffset
  have hendOffset : last.endOffset = log.endOffset + added.length := by
    rw [← hoffset, ← hlog'.len_eq, ← hlog.len_eq, File.len, File.len, hlogBytes,
      List.length_append]
  have hseal := sealOf_eq_plannedSeal h hg hsealable hlength (hdigest.trans hprevious) hsegBytes
    hendOffset
  have hshape := validateSealShape_sealable hsealable hplan.name_valid
  rw [hseal] at hshape
  have hverify : verifyAndSealRawSegment codec.toRawCodec
      (Function.update rotation.files plan.path (some segment.sink.file)) plan.path plan.rawFile
      genesis segment.currentAck
      = .ok ⟨plan.path, genesis, segment.currentAck,
          plannedSeal connectionEpoch stream cut plan last⟩ := by
    rw [← hseal]
    exact verify_sealable hsealable (Function.update_self ..) hplan.name_valid hplan.name_eq
  have hnext : Continues codec rotation.manifest.chain
      (plannedSeal connectionEpoch stream cut plan last, bytes) :=
    ⟨htext, hlimit, validateManifestTransition_planned h hshape hplan.name_new⟩
  obtain ⟨ack, manifest, hmanifest, hintact, hchain⟩ :=
    RawSegmentManifestWriter.appendSeal_intact h.manifest hnext hplan.room
  have hpublish : rotation.manifest.appendVerified codec
      (Function.update rotation.files plan.path (some segment.sink.file))
      ⟨plan.path, genesis, segment.currentAck, plannedSeal connectionEpoch stream cut plan last⟩
      = (.ok ack, manifest) := by
    unfold RawSegmentManifestWriter.appendVerified
    rw [if_neg (by simp [h.manifest.open_eq])]
    dsimp only
    rw [show (plannedSeal connectionEpoch stream cut plan last).rawFile = plan.rawFile from rfl,
      hverify]
    dsimp only
    rw [if_neg (not_not.mpr rfl)]
    exact hmanifest
  refine ⟨⟨_, manifest, some (plannedSeal connectionEpoch stream cut plan last)⟩,
    segment.sink.file, added, ?_, ?_, hchain, rfl, hsegBytes, hlogBytes⟩
  · rw [rotateSegment, hgenesis]
    show (writeSegment codec.toRawCodec rotation.files syncEvery genesis plan >>= _) = _
    rw [hwrite]
    show (verifyAndSealRawSegment codec.toRawCodec _ plan.path plan.rawFile genesis _ >>= _) = _
    rw [hverify]
    dsimp only [bind, Except.bind]
    rw [hpublish]
    rfl
  · have hfirst : (log'.expected.next (connectionEpoch, stream)).toNat
        = cut.first + plan.frames.length := by rw [hcount, h.next_eq]
    have hpos := List.length_pos_iff.mpr hplan.frames_ne
    have hindex : (UInt64.ofNat cut.index).toNat = cut.index :=
      toNat_ofNat_of_le (Nat.le_of_lt h.index_lt)
    have hlastNat : (UInt64.ofNat (cut.first + plan.frames.length - 1)).toNat
        = cut.first + plan.frames.length - 1 := by
      have hmax := toNat_le_u64Max (log'.expected.next (connectionEpoch, stream))
      rw [hfirst] at hmax
      exact toNat_ofNat_of_le (by omega)
    refine ⟨⟨logItems', hlog'⟩, hprevious, hoffset, hfirst, ?_, hintact, ?_, ?_, .inr ⟨_, rfl,
      hshape, rfl, rfl, ?_, ?_, rfl⟩⟩
    · show isLowerHex64 last.recordSha256 = true
      rw [← hprevious, ← hdigest]
      exact hsealable.terminal_lower
    · show manifest.chain.recordCount = cut.index + 1
      rw [hchain, ← h.count_eq]
      rfl
    · show manifest.chain.lastSeal = _
      rw [hchain]
      rfl
    · show (UInt64.ofNat cut.index).toNat + 1 = cut.index + 1
      rw [hindex]
    · show (UInt64.ofNat (cut.first + plan.frames.length - 1)).toNat + 1
        = cut.first + plan.frames.length
      rw [hlastNat]
      omega

/-! ## All segments -/

/-- What the segments need besides the unsegmented log: new paths, file names of their own, and
    room in the manifest. -/
structure AllAdmissible (files : Files) (rawFiles : List String) (used : Nat)
    (plans : List SegmentPlan) : Prop where
  path_new : ∀ plan ∈ plans, files plan.path = none
  name_valid : ∀ plan ∈ plans, validateRelativeFile plan.rawFile = .ok ()
  name_eq : ∀ plan ∈ plans, fileName plan.path = some plan.rawFile
  name_new : ∀ plan ∈ plans, plan.rawFile ∉ rawFiles
  names_nodup : (plans.map (·.rawFile)).Nodup
  frames_ne : ∀ plan ∈ plans, plan.frames ≠ []
  room : used + plans.length * (maxManifestRecordBytes + 36) ≤ maxFileLength

/-- The segments are admissible for what the rotation has written. -/
def Rotation.Admits (rotation : Rotation) (plans : List SegmentPlan) : Prop :=
  AllAdmissible rotation.files rotation.manifest.chain.rawFiles rotation.manifest.sink.file.len plans

variable {rotation' : Rotation} {plan : SegmentPlan} {plans : List SegmentPlan}

section

variable (h : rotation.Admits (plan :: plans))
include h

theorem Rotation.Admits.head : Admissible rotation plan := by
  refine ⟨h.path_new _ List.mem_cons_self, h.name_valid _ List.mem_cons_self,
    h.name_eq _ List.mem_cons_self, h.name_new _ List.mem_cons_self,
    h.frames_ne _ List.mem_cons_self, ?_⟩
  have hroom := h.room
  rw [List.length_cons, Nat.succ_mul] at hroom
  omega

/-- The name of the first segment is not one of the others, nor is its path. -/
theorem Rotation.Admits.head_not_mem :
    (∀ other ∈ plans, other.rawFile ≠ plan.rawFile) ∧ ∀ other ∈ plans, other.path ≠ plan.path := by
  have hnodup := h.names_nodup
  rw [List.map_cons, List.nodup_cons] at hnodup
  have hname : ∀ other ∈ plans, other.rawFile ≠ plan.rawFile := by
    intro other hother heq
    exact hnodup.1 (List.mem_map.mpr ⟨other, hother, heq⟩)
  refine ⟨hname, ?_⟩
  intro other hother heq
  apply hname other hother
  have hown := h.name_eq other (List.mem_cons_of_mem _ hother)
  rw [heq, h.name_eq _ List.mem_cons_self, Option.some.injEq] at hown
  exact hown.symm

/-- Behind the first segment the others are still admissible. -/
theorem Rotation.Admits.tail {sealed : RawSegmentSealV1} {file : File}
    (hname : sealed.rawFile = plan.rawFile) (hlimit : bytes.length ≤ maxManifestRecordBytes)
    (hmanifest : rotation.manifest.Intact codec records)
    (hmanifest' : rotation'.manifest.Intact codec (records ++ [(sealed, bytes)]))
    (hchain : rotation'.manifest.chain = rotation.manifest.chain.next sealed (codec.digest bytes))
    (hfiles : rotation'.files = Function.update rotation.files plan.path (some file)) :
    rotation'.Admits plans := by
  have hmem {other : SegmentPlan} (hother : other ∈ plans) : other ∈ plan :: plans :=
    List.mem_cons_of_mem _ hother
  refine ⟨?_, fun other hother => h.name_valid other (hmem hother),
    fun other hother => h.name_eq other (hmem hother), ?_, ?_,
    fun other hother => h.frames_ne other (hmem hother), ?_⟩
  · intro other hother
    rw [hfiles, Function.update_of_ne (h.head_not_mem.2 other hother)]
    exact h.path_new other (hmem hother)
  · intro other hother hin
    rw [hchain] at hin
    rcases List.mem_cons.mp hin with heq | hin
    · exact h.head_not_mem.1 other hother (heq.trans hname)
    · exact h.name_new other (hmem hother) hin
  · have hnodup := h.names_nodup
    rw [List.map_cons, List.nodup_cons] at hnodup
    exact hnodup.2
  · have hroom := h.room
    have hlength : rotation'.manifest.sink.file.len
        = rotation.manifest.sink.file.len + (4 + bytes.length + 32) := by
      rw [File.len, File.len, hmanifest'.bytes, hmanifest.bytes, recordBytes_concat,
        ← List.append_assoc, List.length_append, framed_length]
    rw [List.length_cons, Nat.succ_mul] at hroom
    omega

end

theorem plannedSeals_cons {rest : List AppendReceiptV1} (hlength : own.length = plan.frames.length)
    (hlast : own.getLast? = some last) :
    plannedSeals connectionEpoch stream cut (plan :: plans) (own ++ rest)
      = plannedSeal connectionEpoch stream cut plan last ::
        plannedSeals connectionEpoch stream (cut.next plan last) plans rest := by
  rw [plannedSeals, ← hlength, List.take_left, List.drop_left, hlast]

theorem exists_last (hlength : own.length = plan.frames.length) (hne : plan.frames ≠ []) :
    ∃ last, own.getLast? = some last := by
  have hown : own ≠ [] := by
    intro hnil
    rw [hnil] at hlength
    exact hne (List.length_eq_zero_iff.mp hlength.symm)
  exact ⟨_, List.getLast?_eq_some_getLast hown⟩

/-- No segment but the last ends in the digest that stands for "no segment". -/
def TerminalsNonzero (seals : List RawSegmentSealV1) : Prop :=
  ∀ sealed ∈ seals.dropLast, sealed.terminalRecordSha256 ≠ zeroDigest

/-- **Run.** A rotation goes through all segments of what the unsegmented log accepts; it writes
    the planned seals to the manifest and the log's bytes to the segments. -/
theorem rotate_at (hcodec : codec.Lawful) (hepoch : isBlank connectionEpoch = false)
    (hstream : isBlank stream = false) (hsync : syncEvery ≠ 0) {receipts : List AppendReceiptV1}
    (h : At codec connectionEpoch stream cut log rotation records)
    (hzero : plans ≠ [] → rotation.lastSeal = none ∨ cut.previous ≠ zeroDigest)
    (hplans : rotation.Admits plans)
    (hidentity : ∀ plan ∈ plans, ∀ frame ∈ plan.frames, frame.identity = (connectionEpoch, stream))
    (happend : log.appendAll codec.toRawCodec (plans.flatMap (·.frames)) = .ok (receipts, log'))
    (hterminal : TerminalsNonzero (plannedSeals connectionEpoch stream cut plans receipts))
    (hwritable : ManifestWritable codec rotation.manifest.chain
      (plannedSeals connectionEpoch stream cut plans receipts)) :
    ∃ rotation' added,
      rotate codec connectionEpoch stream syncEvery rotation plans = .ok rotation' ∧
      rotation'.manifest.Intact codec (records ++ added) ∧
      added.map (·.1) = plannedSeals connectionEpoch stream cut plans receipts ∧
      log'.sink.file.bytes = log.sink.file.bytes ++
        plans.flatMap (fun plan => segmentRecords rotation'.files plan.path) ∧
      ∀ path, (∀ plan ∈ plans, plan.path ≠ path) → rotation'.files path = rotation.files path := by
  induction plans generalizing cut log rotation records receipts with
  | nil =>
    cases happend
    refine ⟨rotation, [], rfl, ?_, rfl, ?_, fun _ _ => rfl⟩
    · rw [List.append_nil]
      exact h.manifest
    · exact (List.append_nil _).symm
  | cons plan plans ih =>
    rw [List.flatMap_cons] at happend
    obtain ⟨own, middle, rest, hown, hrest, rfl, hlength⟩ := appendAll_append happend
    obtain ⟨last, hlast⟩ := exists_last hlength hplans.head.frames_ne
    rw [plannedSeals_cons hlength hlast] at hterminal hwritable ⊢
    obtain ⟨bytes, htext, hlimit, hwritable⟩ := hwritable
    obtain ⟨rotation₁, file, added, hstep, hat, hchain, hfiles, hfile, hlog⟩ :=
      rotateSegment_at hcodec h hepoch hstream (hzero (List.cons_ne_nil _ _)) hsync hplans.head
        (hidentity plan List.mem_cons_self) hown hlast htext hlimit
    have htail := hplans.tail rfl hlimit h.manifest hat.manifest hchain hfiles
    -- a further segment makes this one's seal an inner one
    have hinner : plans ≠ [] → plannedSeals connectionEpoch stream (cut.next plan last) plans rest
        ≠ [] := by
      intro hne
      obtain ⟨plan', plans', rfl⟩ := List.exists_cons_of_ne_nil hne
      rw [List.flatMap_cons] at hrest
      obtain ⟨own', middle', rest', -, -, rfl, hlength'⟩ := appendAll_append hrest
      obtain ⟨last', hlast'⟩ := exists_last hlength' htail.head.frames_ne
      rw [plannedSeals_cons hlength' hlast']
      exact List.cons_ne_nil _ _
    have hzero' : plans ≠ [] → rotation₁.lastSeal = none ∨ (cut.next plan last).previous
        ≠ zeroDigest := by
      intro hne
      refine .inr (hterminal (plannedSeal connectionEpoch stream cut plan last) ?_)
      rw [List.dropLast_cons_of_ne_nil (hinner hne)]
      exact List.mem_cons_self
    have hterminal' : TerminalsNonzero
        (plannedSeals connectionEpoch stream (cut.next plan last) plans rest) := by
      intro sealed hsealed
      apply hterminal sealed
      rw [List.dropLast_cons_of_ne_nil]
      · exact List.mem_cons_of_mem _ hsealed
      · intro hnil
        rw [hnil] at hsealed
        cases hsealed
    obtain ⟨rotation', more, hrotate, hintact, hseals, hbytes, hframe⟩ :=
      ih hat hzero' htail (fun other hother => hidentity other (List.mem_cons_of_mem _ hother))
        hrest hterminal' (by rw [hchain]; exact hwritable)
    refine ⟨rotation', (plannedSeal connectionEpoch stream cut plan last, bytes) :: more, ?_, ?_,
      ?_, ?_, ?_⟩
    · rw [rotate, hstep]
      exact hrotate
    · rw [List.append_cons]
      exact hintact
    · rw [List.map_cons, hseals]
    · -- the later segments leave this one's file alone
      have hown : segmentRecords rotation'.files plan.path = added := by
        rw [segmentRecords, hframe plan.path hplans.head_not_mem.2, hfiles, Function.update_self,
          Option.map_some, Option.getD_some, hfile]
        exact List.drop_left' rfl
      rw [hbytes, hlog, List.flatMap_cons, hown, List.append_assoc]
    · intro path hpath
      rw [hframe path fun other hother => hpath other (List.mem_cons_of_mem _ hother), hfiles,
        Function.update_of_ne (hpath plan List.mem_cons_self).symm]

end

end LobReplay.Raw
