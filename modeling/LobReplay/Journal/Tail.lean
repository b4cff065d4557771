/-
  The bounded tail audit against the full set audit. The tail audit reads the last segment alone,
  from a context its `ARBITRATION_RESUMED` record declares; it carries no published or corrected
  identities, no depth cursor and no gap count of the segments before.

  `TailSim` relates the two audits record by record. A record the full audit admits is admitted by
  the tail audit iff it refers to nothing before the segment (`LocalTo`).
-/

import LobReplay.Journal.Chain
import LobReplay.Journal.Soundness

namespace LobReplay

open Foundation JournalEvent

namespace JournalEvent

/-- The events of the segment retain an identity for the ID. -/
def Touched (id : UInt64) (read : List JournalEvent) : Prop :=
  ∃ e ∈ read, (retains id e).isSome = true

/-- The event needs nothing from before the segment, given what was read of it: a duplicate
    correction refers to an identity of the segment, a rebootstrap follows a gap of the
    segment, and no trade has the ID 0, which the declared floor excludes. -/
def LocalTo (read : List JournalEvent) : JournalEvent → Prop
  | trade id _ => id ≠ 0
  | correction .duplicate id _ => Touched id read
  | rebootstrap => ∃ declaredLast, gap declaredLast ∈ read
  | _ => True

theorem touched_concat {id : UInt64} {read : List JournalEvent} {e : JournalEvent} :
    Touched id (read ++ [e]) ↔ Touched id read ∨ (retains id e).isSome = true := by
  simp [Touched, or_and_right, exists_or]

end JournalEvent

/-! ## The two audits of one segment -/

/-- The full audit (state `full`, which was `base` before the segment) and the tail audit
    (state `tail`) after the events `read` of the segment. -/
structure TailSim (base full tail : JournalAuditState) (read : List JournalEvent) : Prop where
  full_preset : full.presetContext = false
  tail_preset : tail.presetContext = true
  full_segments : full.segments ≠ 0
  tail_segments : tail.segments ≠ 0
  tail_started : tail.startedSeen = true
  previous_eq : tail.previous = full.previous
  terminalSeen_eq : tail.terminalSeen = full.terminalSeen
  lastSegmentSha_eq : tail.lastSegmentSha = full.lastSegmentSha
  trades_eq : full.trades = base.trades + tail.trades
  depthFrames_eq : full.depthFrames = base.depthFrames + tail.depthFrames
  gaps_eq : full.gaps = base.gaps + tail.gaps
  lateCorrections_eq : full.lateCorrections = base.lateCorrections + tail.lateCorrections
  lastTradeId_eq : tail.lastTradeId = some full.effectiveFloor
  floor_le : ∃ floor, tail.tradeFloor = some floor ∧ floor ≤ full.effectiveFloor
  floor_lt : ∀ last floor, full.lastTradeId = some last → full.tradeFloor = some floor →
    floor < last
  gaps_read : tail.gaps = read.countP isGap
  retained_touched : ∀ id, Touched id read → tail.retained id = full.retained id
  retained_untouched : ∀ id, ¬ Touched id read → tail.retained id = none
  exact_eq : tail.exactNextDepth = full.exactNextDepth ∨ tail.exactNextDepth = none
  unseeded : tail.exactNextDepth = none → tail.tailDepthSeeded = false

section

variable {base full tail : JournalAuditState} {read : List JournalEvent} {id : UInt64}
variable {state : JournalAuditState} {firstOfFile : Bool} {e : JournalEvent}

theorem effectiveFloor_eq_last {last : UInt64} (hlast : state.lastTradeId = some last)
    (hfloor : ∀ floor, state.tradeFloor = some floor → floor < last) :
    state.effectiveFloor = last := by
  apply UInt64.toNat_inj.mp
  rw [JournalAuditState.effectiveFloor, UInt64.toNat_max, hlast, Option.getD_some]
  rcases hdecl : state.tradeFloor with _ | floor
  · rw [Option.getD_none, show (0 : UInt64).toNat = 0 from rfl]
    omega
  · have hlt := UInt64.lt_iff_toNat_lt.mp (hfloor floor hdecl)
    rw [Option.getD_some]
    omega

theorem getD_lt_or_zero {bound : Option UInt64} (h : ∀ b, bound = some b → b < id) :
    (bound.getD 0).toNat < id.toNat ∨ (bound.getD 0).toNat = 0 := by
  rcases bound with _ | b
  · exact Or.inr rfl
  · exact Or.inl (UInt64.lt_iff_toNat_lt.mp (h b rfl))

theorem effectiveFloor_lt_iff {digest : String} (h : (trade id digest).admits state firstOfFile) :
    state.effectiveFloor < id ↔ id ≠ 0 := by
  have hzero : (0 : UInt64).toNat = 0 := rfl
  have hne : id ≠ 0 ↔ 0 < id.toNat := by
    rw [ne_eq, ← UInt64.toNat_inj, hzero]
    omega
  have hlast := getD_lt_or_zero h.1
  have hfloor := getD_lt_or_zero h.2
  rw [hne, UInt64.lt_iff_toNat_lt, JournalAuditState.effectiveFloor, UInt64.toNat_max]
  omega

/-- **What the tail audit admits.** A record the full audit admits is admitted by the tail
    audit iff it refers to nothing before the segment. -/
theorem tailSim_admits_iff (h : TailSim base full tail read) (hadmits : e.admits full firstOfFile) :
    e.admits tail firstOfFile ↔ LocalTo read e := by
  cases e with
  | started symbol floor => exact absurd hadmits.2 h.full_segments
  | resumed symbol sha floor tailBytes =>
    obtain ⟨hfirst, -, -, -, hsha, hfloor, -⟩ := hadmits
    refine iff_of_true ⟨hfirst, h.tail_segments, h.tail_started, Or.inl h.tail_preset, ?_, ?_,
      Or.inl h.tail_preset⟩ trivial
    · rw [h.lastSegmentSha_eq, hsha]
    · -- both floors the tail audit knows are at most the full audit's
      obtain ⟨declared, hdecl, hle⟩ := h.floor_le
      have hle' := UInt64.le_iff_toNat_le.mp hle
      rw [hfloor]
      apply UInt64.toNat_inj.mp
      rw [show tail.effectiveFloor = max (tail.tradeFloor.getD 0) (tail.lastTradeId.getD 0) from rfl,
        UInt64.toNat_max, hdecl, h.lastTradeId_eq, Option.getD_some, Option.getD_some]
      omega
  | terminal declared => exact iff_of_true ⟨h.tail_started, Or.inl h.tail_preset⟩ trivial
  | trade id digest =>
    show _ ↔ id ≠ 0
    rw [← effectiveFloor_lt_iff hadmits]
    obtain ⟨declared, hdecl, hle⟩ := h.floor_le
    simp only [admits, h.lastTradeId_eq, hdecl, Option.some.injEq, forall_eq']
    exact ⟨fun hlt => hlt.1, fun hlt => ⟨hlt, UInt64.lt_of_le_of_lt hle hlt⟩⟩
  | correction kind id digest =>
    obtain ⟨⟨last, hlast, hle⟩, -, hret⟩ := hadmits
    have hbound : ∃ last, tail.lastTradeId = some last ∧ id ≤ last :=
      ⟨last, by rw [h.lastTradeId_eq, effectiveFloor_eq_last hlast (h.floor_lt last · hlast)], hle⟩
    by_cases htouched : Touched id read
    · have hsame := (h.retained_touched id htouched).trans hret
      cases kind with
      | duplicate => exact iff_of_true ⟨hbound, Or.inl h.tail_preset, hsame⟩ htouched
      | unknown => exact iff_of_true ⟨hbound, Or.inl h.tail_preset, hsame⟩ trivial
    · have hnone := h.retained_untouched id htouched
      cases kind with
      | duplicate =>
        refine iff_of_false ?_ htouched
        rintro ⟨-, -, hsome⟩
        rw [hnone] at hsome
        cases hsome
      | unknown => exact iff_of_true ⟨hbound, Or.inl h.tail_preset, hnone⟩ trivial
  | status => exact iff_of_true trivial trivial
  | depth first final =>
    refine iff_of_true ?_ trivial
    rcases hexact : tail.exactNextDepth with _ | expected
    · simp only [admits, hexact]
      exact Or.inl ⟨h.tail_preset, h.unseeded hexact⟩
    · -- an exact cursor of the tail audit is the full audit's
      have hfull : full.exactNextDepth = some expected := by
        rcases h.exact_eq with heq | heq
        · rw [← heq, hexact]
        · rw [hexact] at heq
          cases heq
      simp only [admits, hexact, hfull] at hadmits ⊢
      exact hadmits
  | gap declaredLast => exact iff_of_true (Or.inl h.tail_preset) trivial
  | rebootstrap =>
    have hexact : tail.exactNextDepth = none := by
      rcases h.exact_eq with heq | heq
      · rw [heq, hadmits.2]
      · exact heq
    simp only [admits, hexact, and_true, h.gaps_read, LocalTo, ne_eq, List.countP_eq_zero]
    refine ⟨?_, ?_⟩
    · intro hgap
      simp only [not_forall, not_not] at hgap
      obtain ⟨e, hmem, hgap⟩ := hgap
      cases e with
      | gap declaredLast => exact ⟨declaredLast, hmem⟩
      | _ => cases hgap
    · rintro ⟨declaredLast, hmem⟩ hnone
      exact hnone _ hmem rfl

theorem record_effectiveFloor (sha : String) (hadmits : e.admits state firstOfFile)
    (hlt : ∀ last floor, state.lastTradeId = some last → state.tradeFloor = some floor →
      floor < last)
    (hfloor : ∀ floor, nextFloor floor e = floor) :
    (e.record state sha).effectiveFloor = e.tradeId?.getD state.effectiveFloor ∧
    state.effectiveFloor ≤ (e.record state sha).effectiveFloor ∧
    ∀ last floor, (e.record state sha).lastTradeId = some last →
      (e.record state sha).tradeFloor = some floor → floor < last := by
  have hadv := advanced state e sha
  rcases hid : e.tradeId? with _ | id
  · -- neither bound changes
    have hlast : (e.record state sha).lastTradeId = state.lastTradeId := by
      rw [hadv.lastTradeId_eq, hid, Option.none_or]
    have hdecl : (e.record state sha).tradeFloor = state.tradeFloor := by
      rw [hadv.tradeFloor_eq, hfloor]
    have heff : (e.record state sha).effectiveFloor = state.effectiveFloor := by
      rw [JournalAuditState.effectiveFloor, JournalAuditState.effectiveFloor, hlast, hdecl]
    rw [heff, hlast, hdecl]
    exact ⟨rfl, UInt64.le_refl _, hlt⟩
  · cases e with
    | trade id' digest =>
      obtain rfl : id' = id := Option.some.inj hid
      have heff : ((trade id' digest).record state sha).effectiveFloor = id' :=
        effectiveFloor_eq_last rfl fun floor hdecl => hadmits.2 floor hdecl
      refine ⟨heff, ?_, ?_⟩
      · have hlast := getD_lt_or_zero hadmits.1
        have hdecl := getD_lt_or_zero hadmits.2
        rw [heff, UInt64.le_iff_toNat_le, JournalAuditState.effectiveFloor, UInt64.toNat_max]
        omega
      · intro last floor hlast hdecl
        obtain rfl : id' = last := Option.some.inj hlast
        exact hadmits.2 floor hdecl
    | _ => cases hid

/-- **One record of the segment.** A record both audits admit keeps them related. -/
theorem tailSim_step (h : TailSim base full tail read) (sha : String)
    (hfull : e.admits full firstOfFile) (htail : e.admits tail firstOfFile) :
    TailSim base (e.record full sha) (e.record tail sha) (read ++ [e]) := by
  have hf := advanced full e sha
  have ht := advanced tail e sha
  have hstarted : e.isStarted = false := by
    cases e with
    | started _ _ => exact absurd hfull.2 h.full_segments
    | _ => rfl
  have hfloorEq : ∀ floor, nextFloor floor e = floor := by
    intro floor
    cases e with
    | started _ _ => cases hstarted
    | _ => rfl
  obtain ⟨heff, hmono, hlt⟩ := record_effectiveFloor sha hfull h.floor_lt hfloorEq
  have hretFull : ∀ id, (e.record full sha).retained id
      = (retains id e).or (full.retained id) := by
    intro id
    refine record_retained e sha id ?_
    rintro digest rfl
    exact hfull.2.2
  have hretTail : ∀ id, (e.record tail sha).retained id
      = (retains id e).or (tail.retained id) := by
    intro id
    refine record_retained e sha id ?_
    rintro digest rfl
    exact htail.2.2
  refine
    { full_preset := hf.preset_eq.trans h.full_preset
      tail_preset := ht.preset_eq.trans h.tail_preset
      full_segments := by rw [hf.segments_eq]; exact h.full_segments
      tail_segments := by rw [ht.segments_eq]; exact h.tail_segments
      tail_started := by rw [ht.startedSeen_eq, h.tail_started, Bool.true_or]
      previous_eq := rfl
      terminalSeen_eq := by rw [ht.terminalSeen_eq, hf.terminalSeen_eq, h.terminalSeen_eq]
      lastSegmentSha_eq := by
        rw [ht.lastSegmentSha_eq, hf.lastSegmentSha_eq, h.lastSegmentSha_eq]
      trades_eq := by rw [ht.trades_eq, hf.trades_eq, h.trades_eq]; omega
      depthFrames_eq := by rw [ht.depthFrames_eq, hf.depthFrames_eq, h.depthFrames_eq]; omega
      gaps_eq := by rw [ht.gaps_eq, hf.gaps_eq, h.gaps_eq]; omega
      lateCorrections_eq := by
        rw [ht.lateCorrections_eq, hf.lateCorrections_eq, h.lateCorrections_eq]
        omega
      lastTradeId_eq := ?_
      floor_le := ?_
      floor_lt := hlt
      gaps_read := by
        rw [ht.gaps_eq, h.gaps_read, List.countP_append, List.countP_singleton]
      retained_touched := ?_
      retained_untouched := ?_
      exact_eq := ?_
      unseeded := ?_ }
  · rw [ht.lastTradeId_eq, h.lastTradeId_eq, heff]
    cases e.tradeId? <;> rfl
  · obtain ⟨floor, hdecl, hle⟩ := h.floor_le
    exact ⟨floor, by rw [ht.tradeFloor_eq, hfloorEq, hdecl], UInt64.le_trans hle hmono⟩
  · intro id htouched
    rw [hretFull, hretTail]
    rcases hret : retains id e with _ | digest
    · rw [touched_concat, hret] at htouched
      have hbefore : Touched id read := htouched.resolve_right (by simp)
      rw [h.retained_touched id hbefore]
    · rfl
  · intro id huntouched
    rw [touched_concat, not_or] at huntouched
    rw [hretTail, h.retained_untouched id huntouched.1, Option.or_none]
    simpa using huntouched.2
  · rw [ht.exact_eq, hf.exact_eq]
    cases e with
    | depth _ _ => exact Or.inl rfl
    | gap _ => exact Or.inl rfl
    | _ => exact h.exact_eq
  · intro hnone
    rw [ht.exact_eq] at hnone
    cases e with
    | depth _ _ => cases hnone
    | gap _ => simp [record, advance, h.tail_preset]
    | correction kind _ _ => cases kind <;> exact h.unseeded hnone
    | resumed _ _ _ _ => simpa [record, advance, h.tail_preset] using h.unseeded hnone
    | _ => exact h.unseeded hnone

/-- **The whole segment.** When the full audit runs through the records of the segment, the
    tail audit does iff each is local to the segment, and the two stay related. -/
theorem tailSim_runs {codec : JournalCodec} (h : TailSim base full tail [])
    (records : List AuditedRecord) {full' : JournalAuditState}
    (hruns : Runs codec full 0 records full') :
    ((∃ tail', Runs codec tail 0 records tail') ↔ AtEach LocalTo (records.map (·.event))) ∧
    ∀ tail', Runs codec tail 0 records tail' → TailSim base full' tail' (records.map (·.event)) := by
  -- induction from the end of the segment, so that what was read is the history before a record
  induction records using List.reverseRecOn generalizing full' with
  | nil =>
    obtain rfl : full' = full := hruns
    refine ⟨iff_of_true ⟨tail, rfl⟩ atEach_nil, ?_⟩
    rintro tail' rfl
    exact h
  | append_singleton records r ih =>
    obtain ⟨mid, hmid, hsealed, hopen, hadmits, rfl⟩ := runs_append.mp hruns
    obtain ⟨hiff, hsim⟩ := ih hmid
    rw [List.map_append, List.map_singleton, atEach_concat, ← hiff]
    refine ⟨⟨?_, ?_⟩, ?_⟩
    · rintro ⟨_, htail⟩
      obtain ⟨midTail, hmidTail, -, -, htailAdmits, -⟩ := runs_append.mp htail
      exact ⟨⟨midTail, hmidTail⟩, (tailSim_admits_iff (hsim midTail hmidTail) hadmits).mp htailAdmits⟩
    · rintro ⟨⟨midTail, hmidTail⟩, hlocal⟩
      have hs := hsim midTail hmidTail
      refine ⟨_, runs_append.mpr ⟨midTail, hmidTail, ?_, ?_,
        (tailSim_admits_iff hs hadmits).mpr hlocal, rfl⟩⟩
      · rw [hs.previous_eq]
        exact hsealed
      · rw [hs.terminalSeen_eq]
        exact hopen
    · intro tail' htail
      obtain ⟨midTail, hmidTail, -, -, htailAdmits, rfl⟩ := runs_append.mp htail
      exact tailSim_step (hsim midTail hmidTail) r.envelope.recordSha256 hadmits htailAdmits

end

/-! ## The scans -/

theorem tailSim_init {codec : JournalCodec} {segments : List AuditedSegment}
    {base : JournalAuditState} (h : RunsChain codec {} segments base) (hne : segments ≠ []) :
    TailSim base (base.openSegment false)
      ((tailAuditState base.previous base.effectiveFloor).openSegment true) [] := by
  obtain ⟨_, _, -, -, -, -, hsegments⟩ := h.end_eq hne
  have hsofar := h.soundSoFar
  have hlater : 0 < base.segments := Nat.pos_of_ne_zero hsegments
  refine
    { full_preset := hsofar.summary.preset_eq
      tail_preset := rfl
      full_segments := hsegments
      tail_segments := Nat.one_ne_zero
      tail_started := rfl
      previous_eq := rfl
      terminalSeen_eq := rfl
      lastSegmentSha_eq := by simp [JournalAuditState.openSegment, tailAuditState, hlater]
      trades_eq := rfl
      depthFrames_eq := rfl
      gaps_eq := rfl
      lateCorrections_eq := rfl
      lastTradeId_eq := rfl
      floor_le := ⟨_, rfl, UInt64.le_refl _⟩
      floor_lt := ?_
      gaps_read := rfl
      retained_touched := ?_
      retained_untouched := ?_
      exact_eq := Or.inr rfl
      unseeded := fun _ => rfl }
  · intro last floor hlast hfloor
    have hlast' : lastTrade (chainEvents segments) = some last :=
      hsofar.summary.lastTradeId_eq.symm.trans hlast
    exact hsofar.above last (List.mem_of_getLast? hlast') floor
      (hsofar.summary.tradeFloor_eq.symm.trans hfloor)
  · rintro id ⟨e, he, -⟩
    cases he
  · intro id _
    simp [JournalAuditState.retained, JournalAuditState.openSegment, tailAuditState]

/-- The tail audit of `last`, in the context the files before it and the declared floor
    give, succeeds and counts what the full audit counts beyond those files. -/
def TailAgrees (codec : JournalCodec) (before : List SegmentFile) (last : SegmentFile)
    (floor : UInt64) (scan : LiveArbitrationScanV1) : Prop :=
  ∃ earlier earlierTail tail,
    scanLiveArbitrationJournalSetIncremental codec before = .ok (earlier, earlierTail) ∧
    scanLiveArbitrationJournalTail codec last earlier.lastRecordSha256 floor = .ok tail ∧
    tail.trades = scan.trades - earlier.trades ∧
    tail.depthFrames = scan.depthFrames - earlier.depthFrames ∧
    tail.gaps = scan.gaps - earlier.gaps ∧
    tail.lateCorrections = scan.lateCorrections - earlier.lateCorrections

/-- **The tail audit against the full audit, exactly.** For an accepted set of at least two
    files whose last opens with `ARBITRATION_RESUMED`, the tail audit agrees with the full
    audit iff every record of the last file is local to it. -/
theorem tail_agrees_iff (codec : JournalCodec) (before : List SegmentFile) (last : SegmentFile)
    (scan : LiveArbitrationScanV1) (segment : AuditedSegment) (r : AuditedRecord)
    (rest : List AuditedRecord) (symbol sha : String) (floor : UInt64) (tailBytes : Nat)
    (hbefore : before ≠ [])
    (hscan : scanLiveArbitrationJournalSet codec (before ++ [last]) = .ok scan)
    (hsegment : segmentOf codec last = some segment) (hrecords : segment.records = r :: rest)
    (hresumed : r.event = resumed symbol sha floor tailBytes) :
    TailAgrees codec before last floor scan ↔ AtEach LocalTo segment.events := by
  obtain ⟨-, _, _, hsegments, hchain, htorn, -, hterminal, rfl⟩ :=
    scanLiveArbitrationJournalSet_eq_ok.mp hscan
  obtain ⟨front, segment', hfront, hsegment', rfl⟩ := segmentsOf_concat_eq_some.mp hsegments
  obtain rfl : segment' = segment := Option.some.inj (hsegment'.symm.trans hsegment)
  have hclean : segment'.tailBytes = 0 := htorn segment' List.getLast?_concat
  have hne : front ≠ [] := by
    rintro rfl
    rcases before with _ | ⟨file, files⟩
    · exact hbefore rfl
    · obtain ⟨_, _, -, -, hnil⟩ := segmentsOf_cons_eq_some.mp hfront
      cases hnil
  obtain ⟨base, hbase, hnonempty, full', hruns, rfl⟩ := runsChain_append.mp hchain
  -- the opening record fixes the context of the tail audit
  have hopening : (resumed symbol sha floor tailBytes).admits (base.openSegment false) true := by
    have hruns' := hruns
    rw [hrecords] at hruns'
    rw [← hresumed]
    exact hruns'.2.2.1
  obtain ⟨-, -, hstarted, -, -, hfloor, -⟩ := hopening
  obtain rfl : floor = base.effectiveFloor := hfloor
  obtain ⟨hiff, hsim⟩ := tailSim_runs (tailSim_init hbase hne) segment'.records hruns
  show _ ↔ AtEach LocalTo (segment'.records.map (·.event))
  rw [← hiff]
  have hearlier := scanLiveArbitrationJournalSetIncremental_eq_ok.mpr
    ⟨hbefore, front, base, hfront, hbase, hstarted, rfl, rfl⟩
  refine ⟨?_, ?_⟩
  · rintro ⟨earlier, earlierTail, tail, hincremental, htail, -⟩
    obtain ⟨rfl, -⟩ := Prod.mk.inj (Except.ok.inj (hearlier.symm.trans hincremental))
    obtain ⟨segment'', reached, hsegment'', -, htailRuns, -⟩ :=
      scanLiveArbitrationJournalTail_eq_ok.mp htail
    obtain rfl : segment'' = segment' := Option.some.inj (hsegment''.symm.trans hsegment)
    exact ⟨reached, htailRuns⟩
  · rintro ⟨reached, htailRuns⟩
    have hs := hsim reached htailRuns
    refine ⟨_, _, _, hearlier, scanLiveArbitrationJournalTail_eq_ok.mpr
      ⟨segment', reached, hsegment, hnonempty, htailRuns, hclean, hs.tail_started, ?_, rfl⟩, ?_⟩
    · rw [hs.terminalSeen_eq]
      exact hterminal
    · have htrades := hs.trades_eq
      have hdepth := hs.depthFrames_eq
      have hgaps := hs.gaps_eq
      have hlate := hs.lateCorrections_eq
      refine ⟨?_, ?_, ?_, ?_⟩
      all_goals
        simp only [JournalAuditState.scan, JournalAuditState.closeSegment]
        omega

/-! ## Two resumed segments -/

/-- The tail audit agrees on a resumed segment that only closes the journal. -/
theorem resumed_segment_tail_agrees :
    ∃ scan,
      scanLiveArbitrationJournalSet (knownCodec [emptySegment, resumedSegment])
        [openingFile emptySegment resumedSegment, laterFile emptySegment resumedSegment]
        = .ok scan ∧
      TailAgrees (knownCodec [emptySegment, resumedSegment])
        [openingFile emptySegment resumedSegment] (laterFile emptySegment resumedSegment) 10
        scan := by
  have hrun : ((scanLiveArbitrationJournalSet (knownCodec [emptySegment, resumedSegment])
        [openingFile emptySegment resumedSegment, laterFile emptySegment resumedSegment]).isOk,
      (segmentOf (knownCodec [emptySegment, resumedSegment])
        (laterFile emptySegment resumedSegment)).map (·.events))
      = (true, some [resumed "BTCUSDT"
          "9be384e5e614b48d73322f603d6d44dc1290b138a3688b08258708d79b0e5e08" 10 0,
          terminal ⟨some 0, some 0, some 0, some 0⟩]) := by decide +kernel
  obtain ⟨haccepted, hevents⟩ := Prod.mk.inj hrun
  obtain ⟨scan, hscan⟩ := isOk_eq_true.mp haccepted
  obtain ⟨segment, hsegment, hmap⟩ := Option.map_eq_some_iff.mp hevents
  obtain ⟨r, rest, hrecords, hresumed, -⟩ := List.map_eq_cons_iff.mp hmap
  refine ⟨scan, hscan, ?_⟩
  refine (tail_agrees_iff _ [_] _ scan segment r rest _ _ 10 0 (by simp) hscan hsegment hrecords
    hresumed).mpr ?_
  rw [hmap]
  intro before e after heq
  -- neither event refers back
  have hmem : e ∈ before ++ e :: after := by simp
  rw [← heq] at hmem
  simp only [List.mem_cons, List.not_mem_nil, or_false] at hmem
  rcases hmem with rfl | rfl <;> trivial

/-- A journal that ends with an open gap. -/
def gapSegment : List (Value × Nat) :=
  [(startedPayload 10, 0x37389ce8e1c229e99745f5d216820b4b8240f7b62a7865271ff7a68309721059),
   (.object [("canonical_last_sequence", .nat 0), ("event", .string "GAP")],
    0xd8945f2fe31d22a4d3aa71e3a652972059fb048d5416bd5f622a9de344a37cd4),
   (terminalPayload 0 0 1 0, 0xcf3ca5767feb5a969480d792433fb2c21a305c0a83c13e16ef5e63dc83e08d7d)]

/-- A resumed segment that rebootstraps the gap of the journal before it. -/
def rebootstrapSegment : List (Value × Nat) :=
  [(resumedPayload 0xcf3ca5767feb5a969480d792433fb2c21a305c0a83c13e16ef5e63dc83e08d7d 10,
    0xff5e6913f5004e1c63b0afeafee8dd0b0da82b83238e76c38f7a58b8bbb1feb7),
   (.object [("event", .string "DEPTH_REBOOTSTRAP"), ("generation", .string "g1"),
      ("snapshot_last_update_id", .nat 7),
      ("snapshot_record_sha256", .string (hex (List.replicate 32 34)))],
    0x1e7cafb444bffff63b5bba70cdb69967bf3ea6ede30580ebbdc4033ec3ee6684),
   (terminalPayload 0 0 1 0, 0x3d1e021c68a8b242bf66e59bce57268141879d181c18acfc81d8a9a42ba0e013)]

/-- The full audit accepts the rebootstrap of a gap declared one segment earlier; the tail
    audit of the same segment, in the context it declares, rejects it. -/
theorem tail_rejects_rebootstrap_of_earlier_gap :
    ∃ scan sha,
      scanLiveArbitrationJournalSet (knownCodec [gapSegment, rebootstrapSegment])
        [openingFile gapSegment rebootstrapSegment, laterFile gapSegment rebootstrapSegment]
        = .ok scan ∧
      (segmentOf (knownCodec [gapSegment, rebootstrapSegment])
        (laterFile gapSegment rebootstrapSegment)).map (·.events)
        = some [resumed "BTCUSDT" sha 10 0, rebootstrap,
            terminal ⟨some 0, some 0, some 1, some 0⟩] ∧
      ¬ TailAgrees (knownCodec [gapSegment, rebootstrapSegment])
        [openingFile gapSegment rebootstrapSegment] (laterFile gapSegment rebootstrapSegment) 10
        scan := by
  have hrun : ((scanLiveArbitrationJournalSet (knownCodec [gapSegment, rebootstrapSegment])
        [openingFile gapSegment rebootstrapSegment, laterFile gapSegment rebootstrapSegment]).isOk,
      (segmentOf (knownCodec [gapSegment, rebootstrapSegment])
        (laterFile gapSegment rebootstrapSegment)).map (·.events),
      (scanLiveArbitrationJournalSetIncremental (knownCodec [gapSegment, rebootstrapSegment])
        [openingFile gapSegment rebootstrapSegment]).map (·.1.lastRecordSha256),
      (scanLiveArbitrationJournalTail (knownCodec [gapSegment, rebootstrapSegment])
        (laterFile gapSegment rebootstrapSegment)
        "cf3ca5767feb5a969480d792433fb2c21a305c0a83c13e16ef5e63dc83e08d7d" 10).isOk)
      = (true, some [resumed "BTCUSDT"
          "cf3ca5767feb5a969480d792433fb2c21a305c0a83c13e16ef5e63dc83e08d7d" 10 0, rebootstrap,
          terminal ⟨some 0, some 0, some 1, some 0⟩],
        .ok "cf3ca5767feb5a969480d792433fb2c21a305c0a83c13e16ef5e63dc83e08d7d", false) := by
    decide +kernel
  simp only [Prod.mk.injEq] at hrun
  obtain ⟨haccepted, hevents, hsha, htail⟩ := hrun
  obtain ⟨scan, hscan⟩ := isOk_eq_true.mp haccepted
  refine ⟨scan, _, hscan, hevents, ?_⟩
  rintro ⟨earlier, earlierTail, tail, hearlier, htailOk, -⟩
  rw [hearlier] at hsha
  have hdigest : earlier.lastRecordSha256
      = "cf3ca5767feb5a969480d792433fb2c21a305c0a83c13e16ef5e63dc83e08d7d" := Except.ok.inj hsha
  rw [hdigest] at htailOk
  rw [isOk_eq_true.mpr ⟨tail, htailOk⟩] at htail
  cases htail

end LobReplay
