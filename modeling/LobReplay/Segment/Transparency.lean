/-
  Segmentation is transparent: however the frames of a stream are cut into segments, the rotation
  goes through, its manifest lists the segments, and the segments carry the record bytes of one
  unsegmented log.

  The segments refuse what the unsegmented log does not look at: an epoch or a stream of blanks, a
  file name that is not one relative name, a manifest record over its size limit, and a successor of
  the digest that stands for "no segment".
-/

import LobReplay.Segment.Rotation

namespace LobReplay.Raw

open Foundation RawLogWriter

/-- A rotation from a new manifest on. -/
def rotateAll (codec : SegmentCodec) (connectionEpoch stream : String) (syncEvery : Nat)
    (files : Files) (plans : List SegmentPlan) : Result Rotation := do
  let rotation ← startRotation files
  rotate codec connectionEpoch stream syncEvery rotation plans

section

variable {codec : SegmentCodec} {connectionEpoch stream : String} {plans : List SegmentPlan}
  {log : RawLogWriter}

theorem intact_nil (h : Intact codec.toRawCodec none [] log) :
    log.sink.file.bytes = magic ∧ log.chain = startChain none := by
  obtain ⟨logBytes, hbytes, hreads⟩ := h.reads
  generalize log.chain = chain at hreads ⊢
  cases hreads
  refine ⟨?_, rfl⟩
  rw [hbytes, List.append_nil]

theorem startRotation_at {every : Nat} (files : Files)
    (hlog : fromSink (Sink.fresh []) every = .ok log) :
    ∃ rotation, startRotation files = .ok rotation ∧ rotation.files = files ∧
      rotation.lastSeal = none ∧ rotation.manifest.chain = .start ∧
      rotation.manifest.sink.file.len = manifestMagic.length ∧
      At codec connectionEpoch stream .start log rotation [] := by
  obtain ⟨manifest, hmanifest, hintact⟩ := RawSegmentManifestWriter.fromSink_intact codec
  have hstart : manifest.chain = .start := by
    have hchained := hintact.chained
    generalize manifest.chain = chain at hchained ⊢
    cases hchained
    rfl
  have hlength : manifest.sink.file.len = manifestMagic.length := by
    rw [File.len, hintact.bytes]
    rfl
  have hlogIntact : Intact codec.toRawCodec none [] log := initializeLog_intact hlog
  have hchain := (intact_nil hlogIntact).2
  have hdigest : log.previousDigest = zeroDigest := congrArg ChainState.previous hchain
  have hexpected : log.expected = (startChain none).expected :=
    congrArg ChainState.expected hchain
  refine ⟨⟨files, manifest, none⟩, ?_, rfl, rfl, hstart, hlength, ⟨[], hlogIntact⟩, hdigest, ?_, ?_,
    ?_, hintact, ?_, ?_, .inl ⟨rfl, rfl, rfl, rfl⟩⟩
  · rw [startRotation, hmanifest]
    rfl
  · rw [hlogIntact.offset_eq]
    rfl
  · rw [hexpected]
    rfl
  · show isLowerHex64 zeroDigest = true
    decide +kernel
  · rw [hstart]
    rfl
  · rw [hstart]
    rfl

theorem plannedSeals_rawFile {cut : Cut} {receipts : List AppendReceiptV1}
    (hlength : receipts.length = (plans.flatMap (·.frames)).length)
    (hne : ∀ plan ∈ plans, plan.frames ≠ []) :
    (plannedSeals connectionEpoch stream cut plans receipts).map (·.rawFile)
      = plans.map (·.rawFile) := by
  induction plans generalizing cut receipts with
  | nil => rfl
  | cons plan plans ih =>
    rw [List.flatMap_cons, List.length_append] at hlength
    have hown : (receipts.take plan.frames.length).length = plan.frames.length := by
      rw [List.length_take]
      omega
    obtain ⟨last, hlast⟩ := exists_last hown (hne plan List.mem_cons_self)
    rw [← List.take_append_drop plan.frames.length receipts, plannedSeals_cons hown hlast,
      List.map_cons, List.map_cons]
    refine congrArg (plan.rawFile :: ·) (ih ?_ fun other hother =>
      hne other (List.mem_cons_of_mem _ hother))
    rw [List.length_drop]
    omega

end

/-- **Transparency.** However the frames of one stream are cut into segments, with files the
    segments admit, no inner segment ending in the digest of "no segment" and every manifest record
    within its limit, the segments without their magics are the records of the unsegmented log. -/
theorem segmentation_is_transparent (codec : SegmentCodec) (hcodec : codec.Lawful)
    (connectionEpoch stream : String) (hepoch : isBlank connectionEpoch = false)
    (hstream : isBlank stream = false) (every syncEvery : Nat) (hsync : syncEvery ≠ 0)
    (log log' : RawLogWriter) (hlog : fromSink (Sink.fresh []) every = .ok log)
    (frames : List CapturedFrame)
    (hidentity : ∀ frame ∈ frames, frame.identity = (connectionEpoch, stream))
    (receipts : List AppendReceiptV1)
    (happend : log.appendAll codec.toRawCodec frames = .ok (receipts, log'))
    (files : Files) (plans : List SegmentPlan) (hcut : plans.flatMap (·.frames) = frames)
    (hplans : AllAdmissible files [] manifestMagic.length plans)
    (hterminal : TerminalsNonzero (plannedSeals connectionEpoch stream .start plans receipts))
    (hwritable : ManifestWritable codec .start
      (plannedSeals connectionEpoch stream .start plans receipts)) (path : String) :
    ∃ rotation scan,
      rotateAll codec connectionEpoch stream syncEvery files plans = .ok rotation ∧
      scanSegmentManifest codec path rotation.manifest.sink.file = .ok scan ∧
      scan.cleanEof = true ∧
      scan.entries.map (·.sealed) = plannedSeals connectionEpoch stream .start plans receipts ∧
      scan.entries.map (·.sealed.rawFile) = plans.map (·.rawFile) ∧
      plans.flatMap (fun plan => segmentRecords rotation.files plan.path)
        = log'.sink.file.bytes.drop 8 := by
  subst hcut
  obtain ⟨start, hstart, hfiles, hlast, hchain, hused, hat⟩ := startRotation_at files hlog
  have hlength : receipts.length = (plans.flatMap (·.frames)).length := by
    rw [← List.append_nil (plans.flatMap (·.frames))] at happend
    obtain ⟨own, middle, rest, -, hnil, rfl, hown⟩ := appendAll_append happend
    cases hnil
    rw [List.append_nil, hown]
  obtain ⟨rotation, added, hrotate, hintact, hseals, hbytes, -⟩ :=
    rotate_at hcodec hepoch hstream hsync hat (fun _ => .inl hlast)
      (by rw [Rotation.Admits, hfiles, hchain, hused]; exact hplans)
      (fun plan hplan frame hframe => hidentity frame (List.mem_flatMap.mpr ⟨plan, hplan, hframe⟩))
      happend hterminal (by rw [hchain]; exact hwritable)
  rw [List.nil_append] at hintact
  obtain ⟨scan, hscan, hclean, hentries⟩ :=
    scanSegmentManifest_of_chained hcodec path hintact.bytes hintact.chained
  refine ⟨rotation, scan, ?_, hscan, hclean, hentries.trans hseals, ?_, ?_⟩
  · rw [rotateAll, hstart]
    exact hrotate
  · rw [← plannedSeals_rawFile hlength hplans.frames_ne, ← hseals, ← hentries, List.map_map]
    rfl
  · have hlogIntact : Intact codec.toRawCodec none [] log := initializeLog_intact hlog
    rw [hbytes, (intact_nil hlogIntact).1, List.drop_left' magic_length]

/-! ## Two segments -/

def RawSegmentSealV1.toJson (sealed : RawSegmentSealV1) : Value :=
  .object [("schema", .string sealed.schema), ("segment_index", .nat sealed.segmentIndex),
    ("raw_file", .string sealed.rawFile), ("connection_epoch", .string sealed.connectionEpoch),
    ("stream", .string sealed.stream), ("first_frame_index", .nat sealed.firstFrameIndex),
    ("last_frame_index", .nat sealed.lastFrameIndex),
    ("records", .nat (UInt64.ofNat sealed.records)),
    ("durable_through_offset", .nat (UInt64.ofNat sealed.durableThroughOffset)),
    ("previous_segment_terminal_sha256", .string sealed.previousSegmentTerminalSha256),
    ("terminal_record_sha256", .string sealed.terminalRecordSha256)]

def ManifestBodyV1.text (body : ManifestBodyV1) : Bytes :=
  (Value.object [("schema", .string body.schema),
    ("record_index", .nat (UInt64.ofNat body.recordIndex)),
    ("previous_manifest_record_sha256", .string body.previousManifestRecordSha256),
    ("seal", body.sealed.toJson)]).toVec

def knownSegmentCodec (records : List (RawRecord × Nat)) (payloads : List (Bytes × Nat))
    (bodies : List (ManifestBodyV1 × Nat)) : SegmentCodec where
  toRawCodec := knownCodec records (payloads ++ bodies.map fun known => (known.1.text, known.2))
  manifestToVec body :=
    if body ∈ bodies.map (·.1) then .ok body.text else .error "unknown record"
  manifestFromSlice bytes :=
    match bodies.find? fun known => decide (known.1.text = bytes) with
    | some known => .ok known.1
    | none => .error "expected value at line 1 column 1"

theorem knownSegmentCodec_lawful {records : List (RawRecord × Nat)}
    (payloads : List (Bytes × Nat)) {bodies : List (ManifestBodyV1 × Nat)}
    (hrecords : (records.map fun known => known.1.text).Nodup)
    (hbodies : (bodies.map fun known => known.1.text).Nodup)
    (hne : ∀ known ∈ bodies, known.1.text ≠ []) :
    (knownSegmentCodec records payloads bodies).Lawful where
  raw := knownCodec_lawful _ hrecords
  fromSlice_toVec body bytes hbytes := by
    obtain ⟨rfl, known, hknown, rfl⟩ :=
      @knownToVec_eq_ok _ _ ManifestBodyV1.text bodies body bytes hbytes
    simp only [knownSegmentCodec]
    rw [find?_text_eq hbodies hknown]
  toVec_ne_nil body bytes hbytes :=
    @knownToVec_ne_nil _ _ ManifestBodyV1.text bodies body bytes hne hbytes

def streamFrame (connectionEpoch : String) (frameIndex : UInt64) : CapturedFrame :=
  { sampleFrame "t" (1000 + frameIndex) (2000 + frameIndex) with connectionEpoch, frameIndex }

/-- The digest of the first frame's record. -/
def firstDigest : String := "5ba2f1e3bb34d3751638c7be6612f66190be096f14c74b13615c261eb3024729"

/-- The records of the first two frames. -/
def streamRecords : List (RawRecord × Nat) :=
  [(rawRecord (knownCodec [] samplePayloads) (streamFrame "a" 0) zeroDigest,
    0x5ba2f1e3bb34d3751638c7be6612f66190be096f14c74b13615c261eb3024729),
   (rawRecord (knownCodec [] samplePayloads) (streamFrame "a" 1) firstDigest,
    0xcc4243dea9d713b67850cc3617f7fae79b1970db5c6f95cd27c115f081b9166d)]

/-- The seals of the two segments of one frame each. -/
def streamSeals : List RawSegmentSealV1 :=
  [⟨"RawSegmentSealV1", 0, "t-0.bin", "a", "t", 0, 0, 1, 616, zeroDigest, firstDigest⟩,
   ⟨"RawSegmentSealV1", 1, "t-1.bin", "a", "t", 1, 1, 1, 616, firstDigest,
    "cc4243dea9d713b67850cc3617f7fae79b1970db5c6f95cd27c115f081b9166d"⟩]

/-- The manifest records of these seals. -/
def streamBodies : List (ManifestBodyV1 × Nat) :=
  streamSeals.zipWith (fun sealed known => (⟨"RawSegmentManifestRecordV1", known.1, known.2.1,
      sealed⟩, known.2.2))
    [(0, zeroDigest, 0xc1c679855b40e6cd2f8c0f2252945472e52d0b494d7ae5af8bd58bcbbfd9cda0),
     (1, "c1c679855b40e6cd2f8c0f2252945472e52d0b494d7ae5af8bd58bcbbfd9cda0",
      0xc360ea7ce4a900a74726f783f464c17741f30cc3e3a5816b34202c1fda9674f7)]

def streamCodec : SegmentCodec := knownSegmentCodec streamRecords samplePayloads streamBodies

def streamPlans : List SegmentPlan :=
  [⟨"raw/t-0.bin", "t-0.bin", [streamFrame "a" 0]⟩, ⟨"raw/t-1.bin", "t-1.bin", [streamFrame "a" 1]⟩]

theorem streamCodec_lawful : streamCodec.Lawful := by
  apply knownSegmentCodec_lawful
  · decide +kernel
  · decide +kernel
  · decide +kernel

theorem streamPlans_admissible : AllAdmissible (fun _ => none) [] manifestMagic.length streamPlans := by
  refine ⟨fun _ _ => rfl, ?_, ?_, ?_, ?_, ?_, ?_⟩
  · decide +kernel
  · decide +kernel
  · intro _ _
    exact List.not_mem_nil
  · decide +kernel
  · decide +kernel
  · decide

theorem streamSeals_writable : ManifestWritable streamCodec .start streamSeals := by
  have hknown {known : ManifestBodyV1} (h : known ∈ streamBodies.map (·.1)) :
      streamCodec.manifestToVec known = .ok known.text := by
    show (if known ∈ streamBodies.map (·.1) then _ else _) = _
    rw [if_pos h]
  refine ⟨_, hknown ?_, ?_, _, hknown ?_, ?_, trivial⟩
  · decide +kernel
  · decide +kernel
  · decide +kernel
  · decide +kernel

/-- The two segments of one frame each. -/
theorem two_segments_are_transparent :
    ∃ log receipts log' rotation scan, fromSink (Sink.fresh []) 1 = .ok log ∧
      log.appendAll streamCodec.toRawCodec [streamFrame "a" 0, streamFrame "a" 1]
        = .ok (receipts, log') ∧
      rotateAll streamCodec "a" "t" 1 (fun _ => none) streamPlans = .ok rotation ∧
      scanSegmentManifest streamCodec "manifest.bin" rotation.manifest.sink.file = .ok scan ∧
      scan.entries.map (·.sealed) = streamSeals ∧
      streamPlans.flatMap (fun plan => segmentRecords rotation.files plan.path)
        = log'.sink.file.bytes.drop 8 := by
  have hrun : (((fromSink (Sink.fresh []) 1) >>= fun log =>
      log.appendAll streamCodec.toRawCodec [streamFrame "a" 0, streamFrame "a" 1]).map fun run =>
        plannedSeals "a" "t" .start streamPlans run.1) = .ok streamSeals := by decide +kernel
  rcases hall : (fromSink (Sink.fresh []) 1) >>= fun log =>
    log.appendAll streamCodec.toRawCodec [streamFrame "a" 0, streamFrame "a" 1] with
    e | ⟨receipts, log'⟩
  · rw [hall] at hrun
    cases hrun
  rw [hall] at hrun
  have hseals : plannedSeals "a" "t" .start streamPlans receipts = streamSeals :=
    Except.ok.inj hrun
  obtain ⟨log, hlog, happend⟩ := bind_eq_ok.mp hall
  obtain ⟨rotation, scan, hrotate, hscan, -, hentries, -, hbytes⟩ :=
    segmentation_is_transparent streamCodec streamCodec_lawful "a" "t" (by decide +kernel)
      (by decide +kernel) 1 1 (by decide) log log' hlog _ (by decide +kernel) receipts happend
      (fun _ => none) streamPlans rfl streamPlans_admissible
      (by rw [hseals, TerminalsNonzero]; decide +kernel)
      (by rw [hseals]; exact streamSeals_writable) "manifest.bin"
  exact ⟨log, receipts, log', rotation, scan, hlog, happend, hrotate, hscan,
    hentries.trans hseals, hbytes⟩

/-! ## A blank epoch -/

/-- The record of a frame whose connection epoch is empty. -/
def blankRecords : List (RawRecord × Nat) :=
  [(rawRecord (knownCodec [] samplePayloads) (streamFrame "" 0) zeroDigest,
    0xe1e7b744ba23bc8363f46f3b4f7fe8876e664710584e1e6c81294d90af45e3a1)]

/-- The unsegmented log takes a frame of an empty epoch, a rotation does not. -/
theorem blank_epoch_is_not_rotated :
    (knownSegmentCodec blankRecords samplePayloads []).Lawful ∧
    (fromSink (Sink.fresh []) 1 >>= fun log => log.appendAll
      (knownSegmentCodec blankRecords samplePayloads []).toRawCodec [streamFrame "" 0]).isOk = true ∧
    AllAdmissible (fun _ => none) [] manifestMagic.length
      [⟨"raw/t-0.bin", "t-0.bin", [streamFrame "" 0]⟩] ∧
    rotateAll (knownSegmentCodec blankRecords samplePayloads []) "" "t" 1 (fun _ => none)
        [⟨"raw/t-0.bin", "t-0.bin", [streamFrame "" 0]⟩]
      = err "root segment identity must not be empty" := by
  refine ⟨knownSegmentCodec_lawful _ ?_ ?_ ?_, ?_, ⟨fun _ _ => rfl, ?_, ?_, ?_, ?_, ?_, ?_⟩, ?_⟩
  · decide +kernel
  · decide +kernel
  · decide +kernel
  · decide +kernel
  · decide +kernel
  · decide +kernel
  · intro _ _
    exact List.not_mem_nil
  · decide +kernel
  · decide +kernel
  · decide
  · rfl

end LobReplay.Raw
