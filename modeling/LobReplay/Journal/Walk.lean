/-
  The walks over files as runs of the event machine. A segment file denotes a list of audited
  records and a torn tail (`segmentOf`), independently of any audit state; a walk accepts it iff the
  machine runs through the records.
-/

import LobReplay.Journal.Event

namespace LobReplay

open Foundation

/-- A record and the event it decodes to. -/
structure AuditedRecord where
  envelope : LiveArbitrationJournalEnvelopeV1
  event : JournalEvent
  decodes : JournalEvent.decode envelope.body.payload = some event

/-- The records of one segment file and the length of its torn tail. -/
structure AuditedSegment where
  records : List AuditedRecord
  tailBytes : Nat

def AuditedSegment.events (segment : AuditedSegment) : List JournalEvent :=
  segment.records.map (·.event)

def chainEvents (segments : List AuditedSegment) : List JournalEvent :=
  segments.flatMap (·.events)

/-! ## What a file denotes -/

def recordOf (codec : JournalCodec) (line : Bytes) : Option AuditedRecord :=
  if maxRecordBytes < line.length then none
  else
    match codec.fromSlice line with
    | .error _ => none
    | .ok envelope =>
      match h : JournalEvent.decode envelope.body.payload with
      | none => none
      | some event => some { envelope, event, decodes := h }

/-- The records of a list of complete lines, when each non-empty one is a record. -/
def recordsOf (codec : JournalCodec) : List Bytes → Option (List AuditedRecord)
  | [] => some []
  | line :: rest =>
    if line = [] then recordsOf codec rest
    else do
      let record ← recordOf codec line
      let records ← recordsOf codec rest
      some (record :: records)

def segmentOf (codec : JournalCodec) (file : SegmentFile) : Option AuditedSegment :=
  (recordsOf codec (splitLines file.bytes).1).map fun records =>
    { records, tailBytes := (splitLines file.bytes).2.length }

def segmentsOf (codec : JournalCodec) : List SegmentFile → Option (List AuditedSegment)
  | [] => some []
  | file :: rest => do
    let segment ← segmentOf codec file
    let segments ← segmentsOf codec rest
    some (segment :: segments)

variable {codec : JournalCodec} {line : Bytes} {file : SegmentFile} {segments : List AuditedSegment}

theorem recordOf_eq_some {r : AuditedRecord} :
    recordOf codec line = some r ↔
      ¬ maxRecordBytes < line.length ∧ codec.fromSlice line = .ok r.envelope := by
  unfold recordOf
  by_cases hlong : maxRecordBytes < line.length
  · simp [hlong]
  rcases hparse : codec.fromSlice line with e | envelope
  · simp [hlong]
  simp only [hlong, if_false, not_false_eq_true, true_and, Except.ok.injEq]
  refine ⟨?_, ?_⟩
  · intro h
    split at h
    · cases h
    · cases h
      rfl
  · rintro rfl
    split
    · next hnone => cases hnone.symm.trans r.decodes
    · next event hsome =>
      obtain rfl : event = r.event := Option.some.inj (hsome.symm.trans r.decodes)
      rfl

theorem recordsOf_cons_eq_some {rest : List Bytes} {records : List AuditedRecord}
    (hline : line ≠ []) :
    recordsOf codec (line :: rest) = some records ↔
      ∃ record more, recordOf codec line = some record ∧ recordsOf codec rest = some more ∧
        records = record :: more := by
  rw [recordsOf, if_neg hline]
  simp only [Option.bind_eq_bind, Option.bind_eq_some_iff, Option.some.injEq]
  refine ⟨?_, ?_⟩
  · rintro ⟨record, hrecord, more, hmore, rfl⟩
    exact ⟨record, more, hrecord, hmore, rfl⟩
  · rintro ⟨record, more, hrecord, hmore, rfl⟩
    exact ⟨record, hrecord, more, hmore, rfl⟩

theorem segmentsOf_cons_eq_some {rest : List SegmentFile} :
    segmentsOf codec (file :: rest) = some segments ↔
      ∃ segment more, segmentOf codec file = some segment ∧ segmentsOf codec rest = some more ∧
        segments = segment :: more := by
  rw [segmentsOf]
  simp only [Option.bind_eq_bind, Option.bind_eq_some_iff, Option.some.injEq]
  refine ⟨?_, ?_⟩
  · rintro ⟨segment, hsegment, more, hmore, rfl⟩
    exact ⟨segment, more, hsegment, hmore, rfl⟩
  · rintro ⟨segment, more, hsegment, hmore, rfl⟩
    exact ⟨segment, hsegment, more, hmore, rfl⟩

theorem segmentsOf_concat_eq_some {files : List SegmentFile} :
    segmentsOf codec (files ++ [file]) = some segments ↔
      ∃ front segment, segmentsOf codec files = some front ∧ segmentOf codec file = some segment ∧
        segments = front ++ [segment] := by
  induction files generalizing segments with
  | nil =>
    rw [List.nil_append, segmentsOf_cons_eq_some]
    simp only [segmentsOf, Option.some.injEq]
    refine ⟨?_, ?_⟩
    · rintro ⟨segment, _, hsegment, rfl, rfl⟩
      exact ⟨[], segment, rfl, hsegment, rfl⟩
    · rintro ⟨_, segment, rfl, hsegment, rfl⟩
      exact ⟨segment, [], hsegment, rfl, rfl⟩
  | cons first rest ih =>
    rw [List.cons_append, segmentsOf_cons_eq_some]
    simp only [ih, segmentsOf_cons_eq_some]
    refine ⟨?_, ?_⟩
    · rintro ⟨s, _, hs, ⟨front, segment, hfront, hsegment, rfl⟩, rfl⟩
      exact ⟨s :: front, segment, ⟨s, front, hs, hfront, rfl⟩, hsegment, rfl⟩
    · rintro ⟨_, segment, ⟨s, front, hs, hfront, rfl⟩, hsegment, rfl⟩
      exact ⟨s, _, hs, ⟨front, segment, hfront, hsegment, rfl⟩, rfl⟩

/-! ## Runs of the machine -/

/-- The machine runs through `records`, the first of which has index `fileIndex`. -/
def Runs (codec : JournalCodec) :
    JournalAuditState → Nat → List AuditedRecord → JournalAuditState → Prop
  | state, _, [], state' => state' = state
  | state, fileIndex, r :: rest, state' =>
    JournalEvent.Sealed codec r.envelope fileIndex state.previous ∧ state.terminalSeen = false ∧
      r.event.admits state (fileIndex == 0) ∧
      Runs codec (r.event.record state r.envelope.recordSha256) (fileIndex + 1) rest state'

/-- The machine runs through a chain of segments. -/
def RunsChain (codec : JournalCodec) :
    JournalAuditState → List AuditedSegment → JournalAuditState → Prop
  | state, [], state' => state' = state
  | state, segment :: rest, state' =>
    segment.records ≠ [] ∧ ∃ reached,
      Runs codec (state.openSegment false) 0 segment.records reached ∧
      RunsChain codec (reached.closeSegment segment.tailBytes) rest state'

section

variable {codec : JournalCodec} {state state' : JournalAuditState} {fileIndex : Nat}
  {file : SegmentFile} {incremental tolerateTail : Bool} {tail : Bool × Nat}

theorem runs_append {a b : List AuditedRecord} :
    Runs codec state fileIndex (a ++ b) state' ↔
      ∃ middle, Runs codec state fileIndex a middle ∧
        Runs codec middle (fileIndex + a.length) b state' := by
  induction a generalizing state fileIndex with
  | nil => simp [Runs]
  | cons r rest ih =>
    have hidx : fileIndex + (r :: rest).length = fileIndex + 1 + rest.length := by
      rw [List.length_cons]
      omega
    rw [hidx]
    simp only [List.cons_append, Runs, ih]
    refine ⟨?_, ?_⟩
    · rintro ⟨h1, h2, h3, middle, h4, h5⟩
      exact ⟨middle, ⟨h1, h2, h3, h4⟩, h5⟩
    · rintro ⟨middle, ⟨h1, h2, h3, h4⟩, h5⟩
      exact ⟨h1, h2, h3, middle, h4, h5⟩

theorem runsChain_append {a b : List AuditedSegment} :
    RunsChain codec state (a ++ b) state' ↔
      ∃ middle, RunsChain codec state a middle ∧ RunsChain codec middle b state' := by
  induction a generalizing state with
  | nil => simp [RunsChain]
  | cons segment rest ih =>
    simp only [List.cons_append, RunsChain, ih]
    refine ⟨?_, ?_⟩
    · rintro ⟨h1, reached, h2, middle, h3, h4⟩
      exact ⟨middle, ⟨h1, reached, h2, h3⟩, h4⟩
    · rintro ⟨middle, ⟨h1, reached, h2, h3⟩, h4⟩
      exact ⟨h1, reached, h2, middle, h3, h4⟩

/-- **The lines of a file.** The audit accepts them iff they denote records the machine
    runs through. -/
theorem auditLines_eq_ok {lines : List Bytes} {count : Nat} :
    state.auditLines codec fileIndex lines = .ok (state', count) ↔
      ∃ records, recordsOf codec lines = some records ∧
        Runs codec state fileIndex records state' ∧ count = fileIndex + records.length := by
  induction lines generalizing state fileIndex with
  | nil =>
    simp only [JournalAuditState.auditLines, recordsOf, Except.ok.injEq, Prod.mk.injEq,
      Option.some.injEq, exists_eq_left', Runs, List.length_nil, Nat.add_zero]
    exact ⟨fun h => ⟨h.1.symm, h.2.symm⟩, fun h => ⟨h.1.symm, h.2.symm⟩⟩
  | cons line rest ih =>
    by_cases hline : line = []
    · simp only [JournalAuditState.auditLines, recordsOf, hline, if_true, ih]
    · simp only [recordsOf_cons_eq_some hline, JournalAuditState.auditLines, if_neg hline,
        ite_err_eq_ok, recordOf_eq_some]
      rcases hparse : codec.fromSlice line with e | envelope
      · simp
      simp only [bind_eq_ok, JournalEvent.applyAuditRecord_eq_ok, ih]
      refine ⟨?_, ?_⟩
      · rintro ⟨hshort, _, ⟨hsealed, hopen, event, hdec, hadmits, rfl⟩, records, hrecords, hruns,
          hcount⟩
        refine ⟨_, ⟨⟨envelope, event, hdec⟩, records, ⟨hshort, rfl⟩, hrecords, rfl⟩,
          ⟨hsealed, hopen, hadmits, hruns⟩, ?_⟩
        rw [hcount, List.length_cons]
        omega
      · rintro ⟨_, ⟨r, records, ⟨hshort, hr⟩, hrecords, rfl⟩,
          ⟨hsealed, hopen, hadmits, hruns⟩, hcount⟩
        obtain rfl : envelope = r.envelope := Except.ok.inj hr
        refine ⟨hshort, _, ⟨hsealed, hopen, r.event, r.decodes, hadmits, rfl⟩, records, hrecords,
          hruns, ?_⟩
        rw [hcount, List.length_cons]
        omega

/-- **One file.** -/
theorem walkAuditFileWithContext_eq_ok {preserveContext cleanEof : Bool} {tailBytes : Nat} :
    walkAuditFileWithContext codec file.bytes incremental state tolerateTail preserveContext
        = .ok (state', cleanEof, tailBytes) ↔
      ∃ segment reached, segmentOf codec file = some segment ∧ segment.records ≠ [] ∧
        Runs codec (state.openSegment preserveContext) 0 segment.records reached ∧
        (segment.tailBytes = 0 ∨ incremental = true ∨ tolerateTail = true) ∧
        state' = reached.closeSegment segment.tailBytes ∧
        cleanEof = decide (segment.tailBytes = 0) ∧ tailBytes = segment.tailBytes := by
  have hclean : ∀ torn : Bytes, torn.isEmpty = decide (torn.length = 0) := by
    intro torn
    cases torn <;> rfl
  unfold walkAuditFileWithContext segmentOf
  simp only [bind_eq_ok, Prod.exists, auditLines_eq_ok, Option.map_eq_some_iff, ite_err_eq_ok,
    Except.ok.injEq, Prod.mk.injEq, hclean]
  generalize (splitLines file.bytes).2 = torn
  have htorn : (¬ (torn ≠ [] ∧ ¬ (incremental = true ∨ tolerateTail = true))) ↔
      (torn.length = 0 ∨ incremental = true ∨ tolerateTail = true) := by
    rw [not_and_or, not_not, not_not, List.length_eq_zero_iff]
  refine ⟨?_, ?_⟩
  · rintro ⟨reached, count, ⟨records, hrecords, hruns, hcount⟩, htail, hcount0, rfl, rfl, rfl⟩
    refine ⟨_, reached, ⟨records, hrecords, rfl⟩, ?_, hruns, htorn.mp htail, rfl, rfl, rfl⟩
    rintro rfl
    exact hcount0 (by simpa using hcount)
  · rintro ⟨_, reached, ⟨records, hrecords, rfl⟩, hne, hruns, htail, rfl, rfl, rfl⟩
    refine ⟨reached, _, ⟨records, hrecords, hruns, rfl⟩, htorn.mpr htail, ?_, rfl, rfl, rfl⟩
    intro h0
    exact hne (List.length_eq_zero_iff.mp (by simpa using h0))

/-! ## The set walks -/

/-- The clean and tail values of the last segment of a walk. -/
def finalTail (tail : Bool × Nat) : List AuditedSegment → Bool × Nat
  | [] => tail
  | segment :: rest => finalTail (decide (segment.tailBytes = 0), segment.tailBytes) rest

variable {files paths : List SegmentFile} {scan : LiveArbitrationScanV1}

theorem walkSetIncremental_eq_ok {tail' : Bool × Nat} :
    walkSetIncremental codec state tail files = .ok (state', tail') ↔
      ∃ segments, segmentsOf codec files = some segments ∧ RunsChain codec state segments state' ∧
        tail' = finalTail tail segments := by
  induction files generalizing state tail with
  | nil =>
    simp only [walkSetIncremental, segmentsOf, Except.ok.injEq, Prod.mk.injEq, Option.some.injEq,
      exists_eq_left', RunsChain]
    exact ⟨fun h => ⟨h.1.symm, h.2.symm⟩, fun h => ⟨h.1.symm, h.2.symm⟩⟩
  | cons file rest ih =>
    simp only [walkSetIncremental, walkAuditFile, bind_eq_ok, Prod.exists,
      walkAuditFileWithContext_eq_ok, segmentsOf_cons_eq_some, ih]
    refine ⟨?_, ?_⟩
    · rintro ⟨_, _, _, ⟨segment, reached, hsegment, hne, hruns, -, rfl, rfl, rfl⟩, segments,
        hsegments, hchain, rfl⟩
      exact ⟨_, ⟨segment, segments, hsegment, hsegments, rfl⟩, ⟨hne, reached, hruns, hchain⟩, rfl⟩
    · rintro ⟨_, ⟨segment, segments, hsegment, hsegments, rfl⟩, ⟨hne, reached, hruns, hchain⟩, rfl⟩
      exact ⟨_, _, _, ⟨segment, reached, hsegment, hne, hruns, Or.inr (Or.inl trivial), rfl, rfl,
        rfl⟩, segments, hsegments, hchain, rfl⟩

/-- An incremental walk tolerates every torn tail, whatever `tolerate_tail` says. -/
theorem walkAuditFileWithContext_incremental {bytes : Bytes} :
    walkAuditFileWithContext codec bytes true state tolerateTail false
      = walkAuditFile codec bytes true state true := by
  simp [walkAuditFile, walkAuditFileWithContext]

theorem walkSetRecovery_eq (tail : Bool × Nat) :
    walkSetRecovery codec state files
      = (walkSetIncremental codec state tail files).map (·.1) := by
  induction files generalizing state tail with
  | nil => rfl
  | cons file rest ih =>
    simp only [walkSetRecovery, walkSetIncremental, walkAuditFileWithContext_incremental]
    rcases walkAuditFile codec file.bytes true state true with e | ⟨next, tail'⟩
    · rfl
    · exact ih tail'

theorem walkSetRecovery_eq_ok :
    walkSetRecovery codec state files = .ok state' ↔
      ∃ segments, segmentsOf codec files = some segments ∧
        RunsChain codec state segments state' := by
  rw [walkSetRecovery_eq (true, 0)]
  refine ⟨?_, ?_⟩
  · intro h
    rcases hwalk : walkSetIncremental codec state (true, 0) files with e | ⟨reached, tail'⟩
    · rw [hwalk] at h
      cases h
    · rw [hwalk] at h
      obtain rfl : reached = state' := Except.ok.inj h
      obtain ⟨segments, hsegments, hchain, -⟩ := walkSetIncremental_eq_ok.mp hwalk
      exact ⟨segments, hsegments, hchain⟩
  · rintro ⟨segments, hsegments, hchain⟩
    rw [walkSetIncremental_eq_ok.mpr ⟨segments, hsegments, hchain, rfl⟩]
    rfl

theorem walkSet_eq_ok :
    walkSet codec state files = .ok state' ↔
      ∃ segments, segmentsOf codec files = some segments ∧ RunsChain codec state segments state' ∧
        ∀ last, segments.getLast? = some last → last.tailBytes = 0 := by
  induction files generalizing state with
  | nil =>
    simp only [walkSet, segmentsOf, Except.ok.injEq, Option.some.injEq, exists_eq_left']
    exact ⟨fun h => ⟨h.symm, by simp⟩, fun h => h.1.symm⟩
  | cons file rest ih =>
    simp only [walkSet, walkAuditFile, bind_eq_ok, Prod.exists, walkAuditFileWithContext_eq_ok,
      ite_err_eq_ok, ih, segmentsOf_cons_eq_some]
    -- the torn tail of this file is tolerated iff another file follows
    rcases rest with _ | ⟨file', rest⟩
    · simp only [List.isEmpty_nil, Bool.not_true, Bool.false_eq_true, or_false, and_true,
        Bool.not_eq_false, segmentsOf, Option.some.injEq, exists_eq_left']
      refine ⟨?_, ?_⟩
      · rintro ⟨_, _, _, ⟨segment, reached, hsegment, hne, hruns, htail, rfl, rfl, rfl⟩, -, hchain,
          -⟩
        refine ⟨_, ⟨segment, _, hsegment, rfl, rfl⟩, ⟨hne, reached, hruns, hchain⟩, ?_⟩
        simpa using htail
      · rintro ⟨_, ⟨segment, _, hsegment, rfl, rfl⟩, ⟨hne, reached, hruns, hchain⟩, htail⟩
        have htail : segment.tailBytes = 0 := htail segment rfl
        exact ⟨_, _, _, ⟨segment, reached, hsegment, hne, hruns, htail, rfl, rfl, rfl⟩,
          by simpa using htail, hchain, by simp⟩
    · simp only [List.isEmpty_cons, Bool.not_false, Bool.true_eq_false, and_false,
        not_false_eq_true, or_true, true_and]
      have hlast : ∀ segment segments, segmentsOf codec (file' :: rest) = some segments →
          (segment :: segments).getLast? = segments.getLast? := by
        intro segment segments hsegments
        obtain ⟨first, more, -, -, rfl⟩ := segmentsOf_cons_eq_some.mp hsegments
        rfl
      refine ⟨?_, ?_⟩
      · rintro ⟨_, _, _, ⟨segment, reached, hsegment, hne, hruns, rfl, rfl, rfl⟩, segments,
          hsegments, hchain, htail⟩
        refine ⟨_, ⟨segment, segments, hsegment, hsegments, rfl⟩, ⟨hne, reached, hruns, hchain⟩, ?_⟩
        rwa [hlast segment segments hsegments]
      · rintro ⟨_, ⟨segment, segments, hsegment, hsegments, rfl⟩, ⟨hne, reached, hruns, hchain⟩,
          htail⟩
        refine ⟨_, _, _, ⟨segment, reached, hsegment, hne, hruns, rfl, rfl, rfl⟩, segments,
          hsegments, hchain, ?_⟩
        rwa [hlast segment segments hsegments] at htail

/-! ## The scans -/

theorem finishAudit_eq_ok :
    finishAudit state incremental = .ok scan ↔
      state.startedSeen = true ∧ (incremental = true ∨ state.terminalSeen = true) ∧
        scan = state.scan := by
  unfold finishAudit
  rw [ite_err_eq_ok, ite_err_eq_ok, not_not, not_and_or, not_not, Bool.not_eq_false,
    Except.ok.injEq, eq_comm (a := state.scan)]

/-- **The closed scan** accepts a set iff the machine runs through its segments from the
    initial state, with STARTED seen, the last terminal seen and nothing torn at the end. -/
theorem scanLiveArbitrationJournalSet_eq_ok :
    scanLiveArbitrationJournalSet codec paths = .ok scan ↔
      paths ≠ [] ∧ ∃ segments reached, segmentsOf codec paths = some segments ∧
        RunsChain codec {} segments reached ∧
        (∀ last, segments.getLast? = some last → last.tailBytes = 0) ∧
        reached.startedSeen = true ∧ reached.terminalSeen = true ∧ scan = reached.scan := by
  unfold scanLiveArbitrationJournalSet
  simp only [ite_err_eq_ok, bind_eq_ok, walkSet_eq_ok, finishAudit_eq_ok, Bool.false_eq_true,
    false_or, ne_eq]
  refine ⟨?_, ?_⟩
  · rintro ⟨hne, reached, ⟨segments, hsegments, hchain, htail⟩, hstarted, hterminal, rfl⟩
    exact ⟨hne, segments, reached, hsegments, hchain, htail, hstarted, hterminal, rfl⟩
  · rintro ⟨hne, segments, reached, hsegments, hchain, htail, hstarted, hterminal, rfl⟩
    exact ⟨hne, reached, ⟨segments, hsegments, hchain, htail⟩, hstarted, hterminal, rfl⟩

/-- **The incremental scan** accepts a set iff the machine runs through its segments with
    STARTED seen. -/
theorem scanLiveArbitrationJournalSetIncremental_eq_ok :
    scanLiveArbitrationJournalSetIncremental codec paths = .ok (scan, tail) ↔
      paths ≠ [] ∧ ∃ segments reached, segmentsOf codec paths = some segments ∧
        RunsChain codec {} segments reached ∧ reached.startedSeen = true ∧
        scan = reached.scan ∧ tail = finalTail (true, 0) segments := by
  unfold scanLiveArbitrationJournalSetIncremental
  simp only [ite_err_eq_ok, bind_eq_ok, Prod.exists, finishAudit_eq_ok, true_or, true_and,
    Except.ok.injEq, Prod.mk.injEq]
  refine ⟨?_, ?_⟩
  · rintro ⟨hne, reached, clean, count, hwalk, _, ⟨hstarted, rfl⟩, rfl, rfl⟩
    obtain ⟨segments, hsegments, hchain, htail⟩ := walkSetIncremental_eq_ok.mp hwalk
    exact ⟨hne, segments, reached, hsegments, hchain, hstarted, rfl, htail⟩
  · rintro ⟨hne, segments, reached, hsegments, hchain, hstarted, rfl, rfl⟩
    exact ⟨hne, reached, _, _, walkSetIncremental_eq_ok.mpr ⟨segments, hsegments, hchain, rfl⟩, _,
      ⟨hstarted, rfl⟩, rfl, rfl⟩

/-- **The recovery scan** accepts what the incremental scan accepts. -/
theorem scanLiveArbitrationJournalSetRecovery_eq_ok :
    scanLiveArbitrationJournalSetRecovery codec paths = .ok scan ↔
      paths ≠ [] ∧ ∃ segments reached, segmentsOf codec paths = some segments ∧
        RunsChain codec {} segments reached ∧ reached.startedSeen = true ∧
        scan = reached.scan := by
  unfold scanLiveArbitrationJournalSetRecovery
  simp only [ite_err_eq_ok, bind_eq_ok, walkSetRecovery_eq_ok, finishAudit_eq_ok, true_or,
    true_and, ne_eq]
  refine ⟨?_, ?_⟩
  · rintro ⟨hne, reached, ⟨segments, hsegments, hchain⟩, hstarted, rfl⟩
    exact ⟨hne, segments, reached, hsegments, hchain, hstarted, rfl⟩
  · rintro ⟨hne, segments, reached, hsegments, hchain, hstarted, rfl⟩
    exact ⟨hne, reached, ⟨segments, hsegments, hchain⟩, hstarted, rfl⟩

/-- **The tail scan** accepts a segment iff the machine runs through it from the supplied
    context, with a terminal and nothing torn at its end. -/
theorem scanLiveArbitrationJournalTail_eq_ok {sha : String} {floor : UInt64} :
    scanLiveArbitrationJournalTail codec file sha floor = .ok scan ↔
      ∃ segment reached, segmentOf codec file = some segment ∧ segment.records ≠ [] ∧
        Runs codec ((tailAuditState sha floor).openSegment true) 0 segment.records reached ∧
        segment.tailBytes = 0 ∧ reached.startedSeen = true ∧ reached.terminalSeen = true ∧
        scan = (reached.closeSegment segment.tailBytes).scan := by
  unfold scanLiveArbitrationJournalTail
  simp only [bind_eq_ok, Prod.exists, walkAuditFileWithContext_eq_ok, ite_err_eq_ok,
    finishAudit_eq_ok, Bool.false_eq_true, false_or, or_false]
  refine ⟨?_, ?_⟩
  · rintro ⟨_, _, _, ⟨segment, reached, hsegment, hne, hruns, htail, rfl, rfl, rfl⟩, -, hstarted,
      hterminal, rfl⟩
    exact ⟨segment, reached, hsegment, hne, hruns, htail, hstarted, hterminal, rfl⟩
  · rintro ⟨segment, reached, hsegment, hne, hruns, htail, hstarted, hterminal, rfl⟩
    exact ⟨_, _, _, ⟨segment, reached, hsegment, hne, hruns, htail, rfl, rfl, rfl⟩,
      by simp [htail], hstarted, hterminal, rfl⟩

end

end LobReplay
