/-
  How the segments of an accepted set are chained. Each segment file is a hash chain of its own,
  rooted at the zero digest, so what ties a later segment to the ones before it is the
  `ARBITRATION_RESUMED` record that opens it: it declares the last digest, the effective trade floor
  and the torn bytes of what precedes it, and the audit compares all three.

  The audit forbids `ARBITRATION_STARTED` there but does not ask for `ARBITRATION_RESUMED`.
-/

import LobReplay.Journal.Summary

namespace LobReplay

open Foundation JournalEvent

/-- The segment opens with an `ARBITRATION_RESUMED` record. -/
def OpensResumed (segment : AuditedSegment) : Prop :=
  ∃ r rest, segment.records = r :: rest ∧
    r.envelope.body.payload.strField "event" = some "ARBITRATION_RESUMED"

/-- The segment's opening record declares what the segments before it end with. -/
def Linked (before : List AuditedSegment) (segment : AuditedSegment) : Prop :=
  ∃ symbol previousSha floor tailBytes r rest previous last,
    segment.records = r :: rest ∧ r.event = resumed symbol previousSha floor tailBytes ∧
    before.getLast? = some previous ∧ previous.records.getLast? = some last ∧
    previousSha = last.envelope.recordSha256 ∧
    floor = max ((startupFloor (chainEvents before)).getD 0)
      ((lastTrade (chainEvents before)).getD 0) ∧
    tailBytes = previous.tailBytes

/-- The property holds of every segment after the first, given the segments before it. -/
def AtLaterSegments (P : List AuditedSegment → AuditedSegment → Prop)
    (segments : List AuditedSegment) : Prop :=
  ∀ before segment after, segments = before ++ segment :: after → before ≠ [] → P before segment

/-! ## The event name of a record -/

variable {payload : Value} {codec : JournalCodec} {state state' : JournalAuditState}
  {segments : List AuditedSegment}

theorem decodeResumed_eq_some {e : JournalEvent} (h : decodeResumed payload = some e) :
    ∃ symbol previousSha floor tailBytes, e = resumed symbol previousSha floor tailBytes := by
  unfold decodeResumed at h
  simp only [Option.bind_eq_bind, Option.bind_eq_some_iff, Option.some.injEq] at h
  obtain ⟨symbol, -, sha, -, floor, -, mode, -, rfl⟩ := h
  exact ⟨_, _, _, _, rfl⟩

theorem decodeNamed_eq_resumed {name symbol previousSha : String} {floor : UInt64} {tailBytes : Nat}
    (h : decodeNamed payload name = some (resumed symbol previousSha floor tailBytes)) :
    name = "ARBITRATION_RESUMED" := by
  unfold decodeNamed at h
  split at h
  case h_2 => rfl
  case h_10 =>
    unfold decodeRebootstrap at h
    split at h <;> cases h
  all_goals
    simp only [decodeStarted, decodeTerminal, decodeTrade, decodeCorrection, decodeStatus,
      decodeDepth, decodeGap, Option.bind_eq_bind, Option.bind_eq_some_iff,
      Option.some.injEq, reduceCtorEq, and_false, exists_false, ite_eq_iff, or_false] at h

theorem event_name_eq_resumed_iff (r : AuditedRecord) :
    r.envelope.body.payload.strField "event" = some "ARBITRATION_RESUMED" ↔
      ∃ symbol previousSha floor tailBytes,
        r.event = resumed symbol previousSha floor tailBytes := by
  obtain ⟨name, hname, hdec⟩ := Option.bind_eq_some_iff.mp r.decodes
  refine ⟨?_, ?_⟩
  · intro h
    obtain rfl : name = "ARBITRATION_RESUMED" := Option.some.inj (hname.symm.trans h)
    exact decodeResumed_eq_some hdec
  · rintro ⟨symbol, previousSha, floor, tailBytes, heq⟩
    rw [heq] at hdec
    rw [hname, decodeNamed_eq_resumed hdec]

/-! ## The end of a chain -/

theorem Runs.previous_eq {fileIndex : Nat} {records : List AuditedRecord} {last : AuditedRecord}
    (h : Runs codec state fileIndex records state') (hlast : records.getLast? = some last) :
    state'.previous = last.envelope.recordSha256 := by
  obtain ⟨front, rfl⟩ := List.getLast?_eq_some_iff.mp hlast
  obtain ⟨middle, -, -, -, -, rfl⟩ := runs_append.mp h
  rfl

theorem RunsChain.end_eq (h : RunsChain codec state segments state') (hne : segments ≠ []) :
    ∃ previous last, segments.getLast? = some previous ∧ previous.records.getLast? = some last ∧
      state'.previous = last.envelope.recordSha256 ∧
      state'.lastSegmentTail = previous.tailBytes ∧ state'.segments ≠ 0 := by
  rcases List.eq_nil_or_concat segments with rfl | ⟨front, previous, rfl⟩
  · exact absurd rfl hne
  rw [List.concat_eq_append] at h ⊢
  obtain ⟨middle, -, hrecords, reached, hruns, rfl⟩ := runsChain_append.mp h
  rcases List.eq_nil_or_concat previous.records with hnil | ⟨init, last, hlast⟩
  · exact absurd hnil hrecords
  have hlast' : previous.records.getLast? = some last := by
    rw [hlast, List.concat_eq_append, List.getLast?_concat]
  exact ⟨previous, last, List.getLast?_concat, hlast', hruns.previous_eq hlast', rfl,
    Nat.succ_ne_zero _⟩

/-- **One link.** A later segment the audit runs through is linked iff it opens with
    `ARBITRATION_RESUMED`. -/
theorem linked_iff_opensResumed {before after : List AuditedSegment} {segment : AuditedSegment}
    (h : RunsChain codec {} (before ++ segment :: after) state) (hne : before ≠ []) :
    Linked before segment ↔ OpensResumed segment := by
  obtain ⟨middle, hbefore, -, reached, hruns, -⟩ := runsChain_append.mp h
  refine ⟨?_, ?_⟩
  · rintro ⟨symbol, sha, floor, tail, r, rest, _, _, hrecords, hevent, -⟩
    exact ⟨r, rest, hrecords, (event_name_eq_resumed_iff r).mpr ⟨symbol, sha, floor, tail, hevent⟩⟩
  · rintro ⟨r, rest, hrecords, hname⟩
    obtain ⟨symbol, sha, floor, tail, hevent⟩ := (event_name_eq_resumed_iff r).mp hname
    rw [hrecords] at hruns
    obtain ⟨-, -, hadmits, -⟩ := hruns
    rw [hevent] at hadmits
    obtain ⟨-, hsegments, -, -, hsha, hfloor, htail⟩ := hadmits
    obtain ⟨previous, last, hprevious, hlast, hdigest, htorn, -⟩ := hbefore.end_eq hne
    have hsummary := hbefore.summarizes
    have hlater : 0 < middle.segments := Nat.pos_of_ne_zero hsegments
    -- the opened state carries the digest, the floor and the torn bytes of what precedes
    have hsha' : some middle.previous = some sha := by
      rw [← hsha]
      simp [JournalAuditState.openSegment, hlater]
    refine ⟨symbol, sha, floor, tail, r, rest, previous, last, hrecords, hevent, hprevious, hlast,
      ?_, ?_, ?_⟩
    · rw [← hdigest]
      exact (Option.some.inj hsha').symm
    · rw [← hsummary.tradeFloor_eq, ← hsummary.lastTradeId_eq]
      exact hfloor
    · rw [← htorn]
      exact htail.resolve_left (by
        show ¬ middle.presetContext = true
        rw [hsummary.preset_eq]
        decide)

/-- **The links of an accepted set, exactly.** In a set that
    `scan_live_arbitration_journal_set` accepts, every later segment is linked to the ones
    before it iff every later segment opens with `ARBITRATION_RESUMED`. -/
theorem set_chained_iff (codec : JournalCodec) (paths : List SegmentFile)
    (scan : LiveArbitrationScanV1) (hscan : scanLiveArbitrationJournalSet codec paths = .ok scan) :
    ∃ segments, segmentsOf codec paths = some segments ∧
      (AtLaterSegments Linked segments ↔
        AtLaterSegments (fun _ segment => OpensResumed segment) segments) := by
  obtain ⟨-, segments, reached, hsegments, hchain, -⟩ :=
    scanLiveArbitrationJournalSet_eq_ok.mp hscan
  refine ⟨segments, hsegments, ?_, ?_⟩
  · rintro h before segment after rfl hne
    exact (linked_iff_opensResumed hchain hne).mp (h before segment after rfl hne)
  · rintro h before segment after rfl hne
    exact (linked_iff_opensResumed hchain hne).mpr (h before segment after rfl hne)

/-! ## Two sets of two segments -/

/-- A later segment that opens with `ARBITRATION_RESUMED`. -/
def resumedSegment : List (Value × Nat) :=
  [(resumedPayload 0x9be384e5e614b48d73322f603d6d44dc1290b138a3688b08258708d79b0e5e08 10,
    0xaeda4021b72d65ade7c3e7dfab5e685cf2b6b00f09aad6028a6f99f1f4f59c7b),
   (terminalPayload 0 0 0 0, 0x08156877289d31c511feb946560a451e1db32455fb4eed94ac62514424022537)]

/-- A later segment that opens with a status record. -/
def unlinkedSegment : List (Value × Nat) :=
  [(.object [("buffered", .nat 0), ("event", .string "TRADE_LAG")],
    0xbbb816ff3086aea4f8d3ac7941b1ee67c4c763ff77b7244148cacd4183f48dc3),
   (terminalPayload 0 0 0 0, 0x2c86de3402837a14361668b846e2c8ffba8eaf4dd4639acb2258b0e259dc9e6c)]

def openingFile (first second : List (Value × Nat)) : SegmentFile :=
  ⟨"segment-0.jsonl", writtenSegment (knownCodec [first, second]) first⟩

def laterFile (first second : List (Value × Nat)) : SegmentFile :=
  ⟨"segment-1.jsonl", writtenSegment (knownCodec [first, second]) second⟩

theorem second_opening {first rest : List JournalEvent} {opening : JournalEvent}
    (h : segments.map (·.events) = [first, opening :: rest]) :
    ∃ a b r more, segments = [a, b] ∧ b.records = r :: more ∧ r.event = opening := by
  rcases segments with _ | ⟨a, _ | ⟨b, _ | ⟨c, segments⟩⟩⟩
  · simp at h
  · simp at h
  · simp only [List.map_cons, List.map_nil, List.cons.injEq, and_true] at h
    obtain ⟨r, more, hrecords, hevent, -⟩ := List.map_eq_cons_iff.mp h.2
    exact ⟨a, b, r, more, rfl, hrecords, hevent⟩
  · simp at h

/-- A resumed segment is linked to the journal it resumes. -/
theorem resumed_segment_is_linked :
    ∃ scan segments,
      scanLiveArbitrationJournalSet (knownCodec [emptySegment, resumedSegment])
        [openingFile emptySegment resumedSegment, laterFile emptySegment resumedSegment] = .ok scan ∧
      segmentsOf (knownCodec [emptySegment, resumedSegment])
        [openingFile emptySegment resumedSegment, laterFile emptySegment resumedSegment] = some segments ∧
      AtLaterSegments Linked segments := by
  have hrun : ((scanLiveArbitrationJournalSet (knownCodec [emptySegment, resumedSegment])
        [openingFile emptySegment resumedSegment, laterFile emptySegment resumedSegment]).isOk,
      (segmentsOf (knownCodec [emptySegment, resumedSegment])
        [openingFile emptySegment resumedSegment, laterFile emptySegment resumedSegment]).map (·.map (·.events)))
      = (true, some [[started "BTCUSDT" (some 10), terminal ⟨some 0, some 0, some 0, some 0⟩],
          [resumed "BTCUSDT" "9be384e5e614b48d73322f603d6d44dc1290b138a3688b08258708d79b0e5e08" 10 0,
            terminal ⟨some 0, some 0, some 0, some 0⟩]]) := by decide +kernel
  obtain ⟨haccepted, hevents⟩ := Prod.mk.inj hrun
  obtain ⟨scan, hscan⟩ := isOk_eq_true.mp haccepted
  obtain ⟨segments, hsegments, hiff⟩ := set_chained_iff _ _ scan hscan
  refine ⟨scan, segments, hscan, hsegments, hiff.mpr ?_⟩
  rw [hsegments, Option.map_some, Option.some.injEq] at hevents
  obtain ⟨a, b, r, more, rfl, hrecords, hevent⟩ := second_opening hevents
  rintro before segment after heq hne
  -- the only later segment is the second one
  obtain rfl : segment = b := by
    rcases before with _ | ⟨x, _ | ⟨y, before⟩⟩
    · exact absurd rfl hne
    · simp only [List.cons_append, List.nil_append, List.cons.injEq] at heq
      exact heq.2.1.symm
    · simp at heq
  exact ⟨r, more, hrecords, (event_name_eq_resumed_iff r).mpr ⟨_, _, _, _, hevent⟩⟩

/-- The closed audit accepts a later segment that nothing links to the first. -/
theorem audit_accepts_unlinked_segment :
    ∃ scan segments,
      scanLiveArbitrationJournalSet (knownCodec [emptySegment, unlinkedSegment])
        [openingFile emptySegment unlinkedSegment, laterFile emptySegment unlinkedSegment] = .ok scan ∧
      segmentsOf (knownCodec [emptySegment, unlinkedSegment])
        [openingFile emptySegment unlinkedSegment, laterFile emptySegment unlinkedSegment] = some segments ∧
      ¬ AtLaterSegments Linked segments := by
  have hrun : ((scanLiveArbitrationJournalSet (knownCodec [emptySegment, unlinkedSegment])
        [openingFile emptySegment unlinkedSegment, laterFile emptySegment unlinkedSegment]).isOk,
      (segmentsOf (knownCodec [emptySegment, unlinkedSegment])
        [openingFile emptySegment unlinkedSegment, laterFile emptySegment unlinkedSegment]).map (·.map (·.events)))
      = (true, some [[started "BTCUSDT" (some 10), terminal ⟨some 0, some 0, some 0, some 0⟩],
          [status, terminal ⟨some 0, some 0, some 0, some 0⟩]]) := by decide +kernel
  obtain ⟨haccepted, hevents⟩ := Prod.mk.inj hrun
  obtain ⟨scan, hscan⟩ := isOk_eq_true.mp haccepted
  obtain ⟨segments, hsegments, hmap⟩ := Option.map_eq_some_iff.mp hevents
  refine ⟨scan, segments, hscan, hsegments, ?_⟩
  obtain ⟨a, b, r, more, rfl, hrecords, hevent⟩ := second_opening hmap
  intro hlinked
  obtain ⟨symbol, sha, floor, tail, r', rest, _, _, hrecords', hresumed, -⟩ :=
    hlinked [a] b [] rfl (by simp)
  rw [hrecords, List.cons.injEq] at hrecords'
  rw [← hrecords'.1, hevent] at hresumed
  cases hresumed

end LobReplay
