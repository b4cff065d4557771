/-
  The segment manifest (segment_chain.rs): a hash chain of seals. `append_verified` verifies the
  segment once more, checks that its seal continues the chain and appends one framed record;
  `scan_segment_manifest` reads the records back and stops at the first one that does not continue
  the chain.

  `Chained` is what the two have in common.
-/

import LobReplay.Hex
import LobReplay.Segment.Seal

namespace LobReplay.Raw

open Foundation

def maxManifestRecordBytes : Nat := 1024 * 1024

structure ManifestBodyV1 where
  schema : String
  recordIndex : Nat
  previousManifestRecordSha256 : String
  sealed : RawSegmentSealV1
  deriving DecidableEq

structure RawSegmentManifestEntryV1 where
  schema : String
  recordIndex : Nat
  previousManifestRecordSha256 : String
  manifestRecordSha256 : String
  sealed : RawSegmentSealV1
  deriving DecidableEq

structure RawSegmentManifestAckV1 where
  schema : String
  recordIndex : Nat
  segmentIndex : UInt64
  durableThroughOffset : Nat
  recordSha256 : String
  deriving DecidableEq

structure RawSegmentManifestScanV1 where
  schema : String
  path : String
  fileSize : Nat
  records : Nat
  lastGoodOffset : Nat
  cleanEof : Bool
  reason : Option String
  lastRecordSha256 : String
  entries : List RawSegmentManifestEntryV1
  deriving DecidableEq

/-- The codec of the raw log and of the manifest records, with one SHA-256. -/
structure SegmentCodec extends RawCodec where
  /-- `serde_json::to_vec(&body)`. -/
  manifestToVec : ManifestBodyV1 → Except String Bytes
  /-- `serde_json::from_slice::<ManifestBodyV1>(&body_bytes)`. -/
  manifestFromSlice : Bytes → Except String ManifestBodyV1

/-- The parsers undo the serializers, and no text is empty. -/
structure SegmentCodec.Lawful (codec : SegmentCodec) : Prop where
  raw : codec.toRawCodec.Lawful
  fromSlice_toVec : ∀ body bytes, codec.manifestToVec body = .ok bytes →
    codec.manifestFromSlice bytes = .ok body
  toVec_ne_nil : ∀ body bytes, codec.manifestToVec body = .ok bytes → bytes ≠ []

/-! ## The chain of seals -/

def validateManifestTransition (recordIndex : Nat) (previous : Option RawSegmentSealV1)
    (rawFiles : List String) (sealed : RawSegmentSealV1) : Result Unit := do
  validateSealShape sealed
  if sealed.segmentIndex.toNat ≠ recordIndex ∨ sealed.rawFile ∈ rawFiles then
    err "segment index/file is duplicate or out of order"
  else
    match previous with
    | none =>
      if sealed.segmentIndex ≠ 0 ∨ sealed.firstFrameIndex ≠ 0 ∨
          sealed.previousSegmentTerminalSha256 ≠ zeroDigest then
        err "segment manifest must begin at the exact root"
      else .ok ()
    | some old => do
      let expectedSegment ← successorIndex old.segmentIndex "segment index overflow"
      let expectedFrame ← successorIndex old.lastFrameIndex "segment frame index overflow"
      if sealed.segmentIndex ≠ expectedSegment ∨ sealed.connectionEpoch ≠ old.connectionEpoch ∨
          sealed.stream ≠ old.stream ∨ sealed.firstFrameIndex ≠ expectedFrame ∨
          sealed.previousSegmentTerminalSha256 ≠ old.terminalRecordSha256 then
        err "segment manifest transition is not exactly contiguous"
      else .ok ()

/-- What the writer and the scan carry from record to record. -/
structure ManifestState where
  recordCount : Nat
  previousDigest : String
  lastSeal : Option RawSegmentSealV1
  rawFiles : List String

namespace ManifestState

/-- Before the first record. -/
def start : ManifestState := ⟨0, zeroDigest, none, []⟩

/-- Behind a record with the seal `sealed` and the digest `digest`. -/
def next (state : ManifestState) (sealed : RawSegmentSealV1) (digest : FixedBytes 32) :
    ManifestState :=
  ⟨state.recordCount + 1, hex digest.bytes, some sealed, sealed.rawFile :: state.rawFiles⟩

/-- The record that continues the chain with `sealed`. -/
def body (state : ManifestState) (sealed : RawSegmentSealV1) : ManifestBodyV1 :=
  ⟨"RawSegmentManifestRecordV1", state.recordCount, state.previousDigest, sealed⟩

end ManifestState

/-! ## The writer -/

structure RawSegmentManifestWriter where
  sink : Sink
  chain : ManifestState
  endOffset : Nat
  poisoned : Bool

namespace RawSegmentManifestWriter

def fromSink (sink : Sink) : Result RawSegmentManifestWriter :=
  match sink.writeAll manifestMagic with
  | (.error e, _) => err s!"write segment manifest magic: {e}"
  | (.ok (), sink) =>
    match sink.barrier with
    | (.error e, _) => err s!"sync segment manifest magic: {e}"
    | (.ok (), sink) =>
      .ok { sink, chain := .start, endOffset := manifestMagic.length, poisoned := false }

/-- `serde_json::to_vec(&body)` within the size limits. -/
def serialize (codec : SegmentCodec) (body : ManifestBodyV1) : Result Bytes :=
  match codec.manifestToVec body with
  | .error e => err s!"serialize segment manifest record: {e}"
  | .ok bytes =>
    if maxManifestRecordBytes < bytes.length then
      err "segment manifest record exceeds maximum size"
    else if 2 ^ 32 ≤ bytes.length then err "segment manifest record length does not fit u32"
    else .ok bytes

/-- `append_verified` behind the second verification. -/
def appendSeal (codec : SegmentCodec) (writer : RawSegmentManifestWriter)
    (sealed : RawSegmentSealV1) : Result RawSegmentManifestAckV1 × RawSegmentManifestWriter :=
  match validateManifestTransition writer.chain.recordCount writer.chain.lastSeal
      writer.chain.rawFiles sealed with
  | .error e => (.error e, writer)
  | .ok () =>
    match serialize codec (writer.chain.body sealed) with
    | .error e => (.error e, writer)
    | .ok body =>
      let digest := codec.digest body
      let encoded := framed body digest
      if u64Max ≤ writer.chain.recordCount then
        (err "segment manifest record index overflow", writer)
      else
        match checkedAdd writer.endOffset encoded.length with
        | none => (err "segment manifest offset overflow", writer)
        | some endOffset =>
          match writer.sink.writeSynced encoded with
          | (.error e, sink) =>
            (err s!"sync raw segment manifest; writer poisoned: {e}",
              { writer with sink, poisoned := true })
          | (.ok (), sink) =>
            (.ok { schema := "RawSegmentManifestAckV1", recordIndex := writer.chain.recordCount
                   segmentIndex := sealed.segmentIndex, durableThroughOffset := endOffset
                   recordSha256 := hex digest.bytes },
              { writer with sink, chain := writer.chain.next sealed digest, endOffset })

/-- `append_verified`: the segment is verified once more right before its seal is written. -/
def appendVerified (codec : SegmentCodec) (files : Files) (writer : RawSegmentManifestWriter)
    (verified : VerifiedRawSegmentV1) :
    Result RawSegmentManifestAckV1 × RawSegmentManifestWriter :=
  if writer.poisoned then (err "raw segment manifest writer is poisoned", writer)
  else
    match verifyAndSealRawSegment codec.toRawCodec files verified.rawPath verified.sealed.rawFile
        verified.genesis verified.ack with
    | .error e => (.error e, writer)
    | .ok current =>
      if current.sealed ≠ verified.sealed then
        (err "raw segment changed after verification", writer)
      else appendSeal codec writer current.sealed

end RawSegmentManifestWriter

/-! ## The scan -/

/-- The framing of one manifest record, or the reason why there is none. -/
theorem manifestDigest_length {reader : Bytes}
    (h : ¬ ((reader.drop 4).drop (beValue (reader.take 4))).length < 32) :
    (((reader.drop 4).drop (beValue (reader.take 4))).take 32).length = 32 := by
  rw [List.length_take]
  omega

def readManifestFramed (reader : Bytes) : Except String (Option (Bytes × FixedBytes 32 × Bytes)) :=
  if reader = [] then .ok none
  else if reader.length < 4 then .error "partial segment manifest length prefix"
  else
    let bodyLength := beValue (reader.take 4)
    if bodyLength = 0 ∨ maxManifestRecordBytes < bodyLength then
      .error "segment manifest record length exceeds limit"
    else if (reader.drop 4).length < bodyLength then .error "partial segment manifest body"
    else if h : ((reader.drop 4).drop bodyLength).length < 32 then
      .error "partial segment manifest digest"
    else
      .ok (some ((reader.drop 4).take bodyLength,
        ⟨((reader.drop 4).drop bodyLength).take 32, manifestDigest_length h⟩,
        ((reader.drop 4).drop bodyLength).drop 32))

/-- What the loop of `scan_segment_manifest` has gathered. -/
structure ManifestScan where
  chain : ManifestState
  lastGoodOffset : Nat
  entries : List RawSegmentManifestEntryV1
  reason : Option String

/-- The checks of one record body. -/
def verifyManifestBody (codec : SegmentCodec) (chain : ManifestState) (bytes : Bytes)
    (digest : FixedBytes 32) : Except String ManifestBodyV1 :=
  if codec.digest bytes ≠ digest then .error "segment manifest record digest mismatch"
  else
    match codec.manifestFromSlice bytes with
    | .error e => .error s!"invalid segment manifest JSON: {e}"
    | .ok body =>
      if body.schema ≠ "RawSegmentManifestRecordV1" ∨ body.recordIndex ≠ chain.recordCount ∨
          body.previousManifestRecordSha256 ≠ chain.previousDigest ∨
          (validateManifestTransition body.recordIndex chain.lastSeal chain.rawFiles
            body.sealed).isOk = false then
        .error "invalid segment manifest chain/record"
      else .ok body

def manifestEntry (body : ManifestBodyV1) (digest : FixedBytes 32) : RawSegmentManifestEntryV1 where
  schema := "RawSegmentManifestEntryV1"
  recordIndex := body.recordIndex
  previousManifestRecordSha256 := body.previousManifestRecordSha256
  manifestRecordSha256 := hex digest.bytes
  sealed := body.sealed

/-- The loop of `scan_segment_manifest`, on a budget of the bytes there are. -/
def manifestLoop (codec : SegmentCodec) : Nat → Bytes → ManifestScan → Result ManifestScan
  | 0, _, state => .ok state
  | budget + 1, reader, state =>
    match readManifestFramed reader with
    | .error reason => .ok { state with reason := some reason }
    | .ok none => .ok state
    | .ok (some (bytes, digest, rest)) =>
      match verifyManifestBody codec state.chain bytes digest with
      | .error reason => .ok { state with reason := some reason }
      | .ok body =>
        match checkedAdd state.lastGoodOffset (4 + bytes.length + 32) with
        | none => err "segment manifest scan offset overflow"
        | some lastGoodOffset =>
          manifestLoop codec budget rest
            { state with chain := state.chain.next body.sealed digest, lastGoodOffset
                         entries := state.entries ++ [manifestEntry body digest] }

/-- `scan_segment_manifest`, of the file found at `path`. -/
def scanSegmentManifest (codec : SegmentCodec) (path : String) (file : File) :
    Result RawSegmentManifestScanV1 :=
  if file.bytes.take 8 ≠ manifestMagic then
    .ok { schema := "RawSegmentManifestScanV1", path, fileSize := file.len, records := 0
          lastGoodOffset := 0, cleanEof := false, reason := some "bad segment manifest magic"
          lastRecordSha256 := zeroDigest, entries := [] }
  else do
    let state ← manifestLoop codec (file.bytes.length + 1) (file.bytes.drop 8)
      { chain := .start, lastGoodOffset := manifestMagic.length, entries := [], reason := none }
    .ok { schema := "RawSegmentManifestScanV1", path, fileSize := file.len
          records := state.entries.length, lastGoodOffset := state.lastGoodOffset
          cleanEof := state.reason.isNone, reason := state.reason
          lastRecordSha256 := state.chain.previousDigest, entries := state.entries }

/-! ## Records of a chain -/

abbrev ManifestRecord := RawSegmentSealV1 × Bytes

def recordBytes (codec : SegmentCodec) (records : List ManifestRecord) : Bytes :=
  records.flatMap fun record => framed record.2 (codec.digest record.2)

/-- `record` continues the chain. -/
structure Continues (codec : SegmentCodec) (chain : ManifestState) (record : ManifestRecord) :
    Prop where
  text : codec.manifestToVec (chain.body record.1) = .ok record.2
  limit : record.2.length ≤ maxManifestRecordBytes
  transition : validateManifestTransition chain.recordCount chain.lastSeal chain.rawFiles record.1
    = .ok ()

inductive Chained (codec : SegmentCodec) :
    ManifestState → List ManifestRecord → ManifestState → Prop
  | nil {chain : ManifestState} : Chained codec chain [] chain
  | cons {chain chain' : ManifestState} {record : ManifestRecord} {rest : List ManifestRecord}
      (head : Continues codec chain record)
      (tail : Chained codec (chain.next record.1 (codec.digest record.2)) rest chain') :
      Chained codec chain (record :: rest) chain'

section

variable {codec : SegmentCodec} {chain chain' : ManifestState} {records : List ManifestRecord}
  {record : ManifestRecord}

theorem Chained.concat (h : Chained codec chain records chain')
    (hnext : Continues codec chain' record) :
    Chained codec chain (records ++ [record])
      (chain'.next record.1 (codec.digest record.2)) := by
  induction h with
  | nil => exact .cons hnext .nil
  | cons head tail ih => exact .cons head (ih hnext)

theorem Chained.recordCount_eq (h : Chained codec chain records chain') :
    chain'.recordCount = chain.recordCount + records.length := by
  induction h with
  | nil => rfl
  | cons head tail ih =>
    rw [ih, List.length_cons]
    show _ + 1 + _ = _
    omega

theorem recordBytes_cons (record : ManifestRecord) :
    recordBytes codec (record :: records)
      = framed record.2 (codec.digest record.2) ++ recordBytes codec records := rfl

theorem recordBytes_concat (record : ManifestRecord) :
    recordBytes codec (records ++ [record])
      = recordBytes codec records ++ framed record.2 (codec.digest record.2) := by
  simp [recordBytes]

theorem length_le_recordBytes (codec : SegmentCodec) (records : List ManifestRecord) :
    records.length ≤ (recordBytes codec records).length := by
  induction records with
  | nil => exact Nat.zero_le _
  | cons record rest ih =>
    rw [recordBytes_cons, List.length_append, framed_length, List.length_cons]
    omega

theorem readManifestFramed_framed {body rest : Bytes} (digest : FixedBytes 32) (hne : body ≠ [])
    (hmax : body.length ≤ maxManifestRecordBytes) :
    readManifestFramed (framed body digest ++ rest) = .ok (some (body, digest, rest)) := by
  have hlength := framed_length body digest
  have hnil : framed body digest ++ rest ≠ [] := by
    intro h
    rw [List.append_eq_nil_iff] at h
    rw [h.1] at hlength
    simp at hlength
  have h4 : ¬ (framed body digest ++ rest).length < 4 := by
    rw [List.length_append, hlength]
    omega
  have hraw : body.length ≤ maxRecordBytes := Nat.le_trans hmax (by decide)
  have hpos : ¬ (body.length = 0 ∨ maxManifestRecordBytes < body.length) := by
    have := List.length_pos_iff.mpr hne
    omega
  unfold readManifestFramed
  simp only [if_neg hnil, if_neg h4, beValue_take_framed digest rest hraw, if_neg hpos,
    drop_framed, List.drop_left, List.take_left]
  rw [if_neg (by rw [List.length_append]; omega),
    dif_neg (by rw [List.length_append, digest.length_eq]; omega)]
  rw [Except.ok.injEq, Option.some.injEq, Prod.mk.injEq, Prod.mk.injEq]
  exact ⟨rfl, FixedBytes.ext (List.take_left' digest.length_eq), List.drop_left' digest.length_eq⟩

theorem verifyManifestBody_continues (hcodec : codec.Lawful) (h : Continues codec chain record) :
    verifyManifestBody codec chain record.2 (codec.digest record.2)
      = .ok (chain.body record.1) := by
  have hok : (validateManifestTransition (chain.body record.1).recordIndex chain.lastSeal
      chain.rawFiles (chain.body record.1).sealed).isOk = true := by
    rw [isOk_eq_true]
    exact ⟨(), h.transition⟩
  unfold verifyManifestBody
  simp only [hcodec.fromSlice_toVec _ _ h.text, hok, ne_eq, not_true_eq_false, if_false,
    Bool.true_eq_false, or_false]
  simp [ManifestState.body]

/-- **The scan loop** goes through the records of a chain. -/
theorem manifestLoop_of_chained (hcodec : codec.Lawful) (h : Chained codec chain records chain') :
    ∀ (budget offset : Nat) (entries : List RawSegmentManifestEntryV1),
      records.length < budget → offset + (recordBytes codec records).length ≤ u64Max →
      ∃ result, manifestLoop codec budget (recordBytes codec records) ⟨chain, offset, entries, none⟩
          = .ok result ∧
        result.chain = chain' ∧ result.reason = none ∧
        result.lastGoodOffset = offset + (recordBytes codec records).length ∧
        result.entries.map (·.sealed) = entries.map (·.sealed) ++ records.map (·.1) := by
  induction h with
  | nil =>
    intro budget offset entries hbudget _
    obtain ⟨budget, rfl⟩ := Nat.exists_eq_add_of_lt hbudget
    exact ⟨_, rfl, rfl, rfl, rfl, (List.append_nil _).symm⟩
  | @cons chain chain' record rest head tail ih =>
    intro budget offset entries hbudget hoffset
    obtain ⟨budget, rfl⟩ : ∃ b, budget = b + 1 := by
      refine ⟨budget - 1, ?_⟩
      omega
    rw [recordBytes_cons, List.length_append, framed_length] at hoffset ⊢
    have hadd : offset + (4 + record.2.length + 32) ≤ u64Max := by omega
    obtain ⟨result, hresult, hchain, hreason, hgood, hentries⟩ :=
      ih budget (offset + (4 + record.2.length + 32))
        (entries ++ [manifestEntry (chain.body record.1) (codec.digest record.2)])
        (by rw [List.length_cons] at hbudget; omega) (by omega)
    refine ⟨result, ?_, hchain, hreason, by omega, ?_⟩
    · rw [manifestLoop, readManifestFramed_framed _ (hcodec.toVec_ne_nil _ _ head.text) head.limit]
      simp only [verifyManifestBody_continues hcodec head, checkedAdd_eq hadd]
      exact hresult
    · rw [hentries, List.map_append, List.append_assoc]
      rfl

/-- **The scan of a chain** is clean and lists exactly its seals. -/
theorem scanSegmentManifest_of_chained (hcodec : codec.Lawful) (path : String) {file : File}
    (hbytes : file.bytes = manifestMagic ++ recordBytes codec records)
    (h : Chained codec .start records chain') :
    ∃ scan, scanSegmentManifest codec path file = .ok scan ∧ scan.cleanEof = true ∧
      scan.entries.map (·.sealed) = records.map (·.1) := by
  have hlength := file.length_le
  have hmagic : manifestMagic.length = 8 := rfl
  rw [hbytes, List.length_append, hmagic] at hlength
  have hu64 : maxFileLength < u64Max := by decide
  have hcount := length_le_recordBytes codec records
  have hfile : file.bytes.length = 8 + (recordBytes codec records).length := by
    rw [hbytes, List.length_append, hmagic]
  obtain ⟨result, hresult, -, hreason, -, hentries⟩ :=
    manifestLoop_of_chained hcodec h (file.bytes.length + 1) manifestMagic.length [] (by omega)
      (by omega)
  unfold scanSegmentManifest
  rw [if_neg (by rw [hbytes, List.take_left' hmagic]; simp), hfile, hbytes, List.drop_left' hmagic]
  rw [hfile] at hresult
  rw [hresult]
  refine ⟨_, rfl, ?_, hentries⟩
  show result.reason.isNone = true
  rw [hreason]
  rfl

end

/-! ## What the writer leaves -/

namespace Sink

theorem writeAll_clean (sink : Sink) {data : Bytes} (hfaults : sink.faults = [])
    (hfits : sink.file.fits data.length) :
    ∃ sink', sink.writeAll data = (.ok (), sink') ∧ sink'.faults = [] ∧
      sink'.file.bytes = sink.file.bytes ++ data := by
  refine ⟨{ sink with file := sink.file.append data, faults := sink.faults.tail }, ?_, ?_, ?_⟩
  · simp only [writeAll, fault, hfaults, List.head?_nil, Option.getD_none, if_pos hfits]
  · rw [hfaults]
    rfl
  · exact File.append_bytes hfits

variable {sink : Sink}

theorem barrier_clean (hfaults : sink.faults = []) : sink.barrier = (.ok (), sink) := by
  obtain ⟨file, faults, failed⟩ := sink
  subst hfaults
  rfl

theorem flushAndSyncAll_clean (hfaults : sink.faults = []) :
    sink.flushAndSyncAll = (.ok (), sink) := by
  rw [flushAndSyncAll, barrier_clean hfaults]
  exact barrier_clean hfaults

end Sink

namespace RawSegmentManifestWriter

/-- The writer has written the records of a chain, and its sink cannot fail but for room. -/
structure Intact (codec : SegmentCodec) (records : List ManifestRecord)
    (writer : RawSegmentManifestWriter) : Prop where
  open_eq : writer.poisoned = false
  faults_eq : writer.sink.faults = []
  bytes : writer.sink.file.bytes = manifestMagic ++ recordBytes codec records
  chained : Chained codec .start records writer.chain
  offset_eq : writer.endOffset = writer.sink.file.len

/-- A manifest just created. -/
theorem fromSink_intact (codec : SegmentCodec) :
    ∃ writer, fromSink (Sink.fresh []) = .ok writer ∧ Intact codec [] writer := by
  have hfits : (Sink.fresh []).file.fits manifestMagic.length := by
    show 0 + 8 ≤ maxFileLength
    decide
  obtain ⟨sink, hwrite, hfaults, hbytes⟩ := Sink.writeAll_clean (Sink.fresh []) rfl hfits
  refine ⟨⟨sink, .start, manifestMagic.length, false⟩, ?_, rfl, hfaults, ?_, .nil, ?_⟩
  · simp only [fromSink, hwrite, Sink.barrier_clean hfaults]
  · rw [hbytes]
    rfl
  · show _ = sink.file.bytes.length
    rw [hbytes]
    rfl

variable {codec : SegmentCodec} {record : ManifestRecord}

theorem serialize_of_continues {chain : ManifestState} (h : Continues codec chain record) :
    serialize codec (chain.body record.1) = .ok record.2 := by
  have hlimit := h.limit
  have hu32 : maxManifestRecordBytes < 2 ^ 32 := by decide
  simp only [serialize, h.text]
  rw [if_neg (by omega), if_neg (by omega)]

/-- **Append.** A record that continues the chain and fits is appended. -/
theorem appendSeal_intact {records : List ManifestRecord} {writer : RawSegmentManifestWriter}
    (h : Intact codec records writer) (hnext : Continues codec writer.chain record)
    (hroom : writer.sink.file.len + (maxManifestRecordBytes + 36) ≤ maxFileLength) :
    ∃ ack writer', appendSeal codec writer record.1 = (.ok ack, writer') ∧
      Intact codec (records ++ [record]) writer' ∧
      writer'.chain = writer.chain.next record.1 (codec.digest record.2) := by
  have hlength := framed_length record.2 (codec.digest record.2)
  have hlimit := hnext.limit
  have hu64 : maxFileLength < u64Max := by decide
  have hfits : writer.sink.file.fits (framed record.2 (codec.digest record.2)).length := by
    rw [hlength, File.fits]
    omega
  have hcount : ¬ u64Max ≤ writer.chain.recordCount := by
    have hle := length_le_recordBytes codec records
    have heq := h.chained.recordCount_eq
    have hmax := writer.sink.file.length_le
    rw [h.bytes, List.length_append] at hmax
    change writer.chain.recordCount = 0 + records.length at heq
    omega
  have hadd : writer.endOffset + (framed record.2 (codec.digest record.2)).length ≤ u64Max := by
    rw [h.offset_eq, hlength]
    omega
  obtain ⟨sink, hwrite, hfaults, hbytes⟩ := Sink.writeAll_clean writer.sink h.faults_eq hfits
  have happend : ∃ ack, appendSeal codec writer record.1
      = (.ok ack, { writer with
          sink
          chain := writer.chain.next record.1 (codec.digest record.2)
          endOffset := writer.endOffset + (framed record.2 (codec.digest record.2)).length }) := by
    simp only [appendSeal, hnext.transition, serialize_of_continues hnext, if_neg hcount,
      checkedAdd_eq hadd, Sink.writeSynced, hwrite, Sink.flushAndSyncAll_clean hfaults]
    exact ⟨_, rfl⟩
  obtain ⟨ack, happend⟩ := happend
  refine ⟨ack, _, happend, ?_, rfl⟩
  refine ⟨h.open_eq, hfaults, ?_, h.chained.concat hnext, ?_⟩
  · show sink.file.bytes = _
    rw [hbytes, h.bytes, recordBytes_concat, List.append_assoc]
  · show _ = sink.file.bytes.length
    rw [hbytes, List.length_append, h.offset_eq]
    rfl

end RawSegmentManifestWriter

end LobReplay.Raw
