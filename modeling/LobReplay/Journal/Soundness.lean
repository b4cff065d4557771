/-
  What the closed audit of a journal set proves about it. `JournalSound` says it of the records
  alone: strictly increasing trades above the startup floor, corrections that agree with what was
  published, an exactly contiguous depth sequence across declared gaps, terminals that close their
  file with the true counters.

  The audit keeps the next depth sequence as `final_sequence.saturating_add(1)`, so after a frame
  that ends at `u64::MAX` it expects `u64::MAX` again.
-/

import LobReplay.Journal.Summary

namespace LobReplay

open Foundation JournalEvent

namespace JournalEvent

def Sound (before : List JournalEvent) : JournalEvent → Prop
  | correction .duplicate id digest =>
    trade id digest ∈ before ∨ correction .unknown id digest ∈ before
  | correction .unknown id _ =>
    ∀ digest, trade id digest ∉ before ∧ ∀ kind, correction kind id digest ∉ before
  | depth first _ =>
    ∀ last, lastDepth before = some last →
      (GapOpen before → last < first) ∧ (¬ GapOpen before → first.toNat = last.toNat + 1)
  | gap declaredLast => declaredLast = (lastDepth before).getD 0
  | rebootstrap => GapOpen before
  | terminal declared => declared = counters before
  | _ => True

theorem sound_depth {before : List JournalEvent} {first final : UInt64} :
    Sound before (depth first final) ↔ ∀ last, lastDepth before = some last →
      (GapOpen before → last < first) ∧ (¬ GapOpen before → first.toNat = last.toNat + 1) := Iff.rfl

/-- A depth observation right after a frame that ends at `u64::MAX`. -/
def FollowsLastSequence (before : List JournalEvent) (e : JournalEvent) : Prop :=
  e.isDepth = true ∧ lastDepth before = some maxU64

end JournalEvent

/-- The records of an accepted set, and the scan that reports them. -/
structure JournalSound (segments : List AuditedSegment) (scan : LiveArbitrationScanV1) :
    Prop where
  trades_increasing : (tradeIds (chainEvents segments)).Pairwise (· < ·)
  trades_above_floor : ∀ id ∈ tradeIds (chainEvents segments),
    ∀ floor, startupFloor (chainEvents segments) = some floor → floor < id
  events_sound : AtEach Sound (chainEvents segments)
  terminals_last : ∀ segment ∈ segments, ∀ front r rest,
    segment.records = front ++ r :: rest → r.event.isTerminal = true → rest = []
  trades_eq : scan.trades = (chainEvents segments).countP isTrade
  depthFrames_eq : scan.depthFrames = (chainEvents segments).countP isDepth
  gaps_eq : scan.gaps = (chainEvents segments).countP isGap
  lateCorrections_eq : scan.lateCorrections = (chainEvents segments).countP isCorrection

/-! ## One record -/

section

variable {state : JournalAuditState} {fileIndex : Nat} {events : List JournalEvent}
  {firstOfFile : Bool} {e : JournalEvent}

theorem depth_sound_iff (h : Summarizes state fileIndex events) {first final : UInt64}
    (hadmits : (depth first final).admits state firstOfFile) :
    Sound events (depth first final) ↔ ¬ FollowsLastSequence events (depth first final) := by
  have hmax : ∀ last : UInt64, last ≠ maxU64 →
      (saturatingAdd last 1).toNat = last.toNat + 1 := by
    intro last hlast
    have hne : last.toNat ≠ maxU64.toNat := fun heq => hlast (UInt64.toNat_inj.mp heq)
    have hle := toNat_le_u64Max last
    rw [maxU64_toNat] at hne
    rw [saturatingAdd_toNat, show (1 : UInt64).toNat = 1 from rfl]
    omega
  simp only [FollowsLastSequence, isDepth, true_and]
  by_cases hopen : GapOpen events
  · -- behind a gap the frame starts above the last sequence, which is then not the greatest
    simp only [admits, h.exact_of_open hopen, h.preset_eq, Bool.false_eq_true, false_and,
      false_or, h.lastDepth_eq] at hadmits
    refine ⟨fun _ hlast => ?_, fun _ last hlast => ⟨fun _ => hadmits last hlast, fun hc => absurd hopen hc⟩⟩
    have hlt := UInt64.lt_iff_toNat_lt.mp (hadmits _ hlast)
    have := toNat_le_u64Max first
    rw [maxU64_toNat] at hlt
    omega
  · cases hlast : lastDepth events with
    | none =>
      simp only [sound_depth, hlast, reduceCtorEq, false_implies, implies_true, not_false_eq_true]
    | some last =>
      have hexact := h.exact_of_closed hopen
      rw [hlast] at hexact
      simp only [admits, hexact, Option.map_some] at hadmits
      subst hadmits
      simp only [sound_depth, hlast, Option.some.injEq, forall_eq', hopen, false_implies, true_and,
        not_false_eq_true, true_implies]
      refine ⟨?_, hmax last⟩
      rintro hsound rfl
      rw [saturatingAdd_toNat] at hsound
      simp only [maxU64_toNat] at hsound
      omega

theorem event_sound (h : Summarizes state fileIndex events) (hadmits : e.admits state firstOfFile)
    (hdepth : e.isDepth = false) : Sound events e := by
  cases e with
  | correction kind id digest =>
    cases kind with
    | duplicate => exact h.retained_some id digest hadmits.2.2
    | unknown => exact h.retained_none id hadmits.2.2
  | depth first final => cases hdepth
  | gap declaredLast =>
    have hcursor := hadmits.resolve_left (by simp [h.preset_eq])
    rw [h.lastDepth_eq] at hcursor
    exact hcursor
  | rebootstrap =>
    obtain ⟨hgaps, hexact⟩ := hadmits
    by_contra hopen
    rw [h.exact_of_closed hopen, Option.map_eq_none_iff] at hexact
    rw [h.gaps_eq] at hgaps
    exact hopen (gapOpen_of_no_depth hgaps hexact)
  | terminal declared =>
    have hdeclared := hadmits.2.resolve_left (by simp [h.preset_eq])
    rw [h.trades_eq, h.depthFrames_eq, h.gaps_eq, h.lateCorrections_eq] at hdeclared
    exact hdeclared
  | _ => trivial

/-! ## A whole chain -/

/-- The summary, the order of the published trades, and what each event so far says. -/
structure SoundSoFar (state : JournalAuditState) (fileIndex : Nat)
    (events : List JournalEvent) : Prop where
  summary : Summarizes state fileIndex events
  increasing : (tradeIds events).Pairwise (· < ·)
  above : ∀ id ∈ tradeIds events, ∀ floor, startupFloor events = some floor → floor < id
  each : AtEach (fun before e => Sound before e ↔ ¬ FollowsLastSequence before e) events

theorem le_lastTrade {events : List JournalEvent} (h : (tradeIds events).Pairwise (· < ·))
    {id last : UInt64} (hid : id ∈ tradeIds events) (hlast : lastTrade events = some last) :
    id ≤ last := by
  obtain ⟨front, hfront⟩ := List.getLast?_eq_some_iff.mp hlast
  rw [hfront] at h hid
  rcases List.mem_append.mp hid with hid | hid
  · exact UInt64.le_of_lt ((List.pairwise_append.mp h).2.2 id hid last (by simp))
  · rw [List.mem_singleton.mp hid]
    exact UInt64.le_refl _

theorem SoundSoFar.step (h : SoundSoFar state fileIndex events) (sha : String)
    (hadmits : e.admits state (fileIndex == 0)) :
    SoundSoFar (e.record state sha) (fileIndex + 1) (events ++ [e]) := by
  refine ⟨h.summary.step sha hadmits, ?_, ?_, ?_⟩
  · rw [tradeIds_concat]
    cases e with
    | trade id digest =>
      refine List.pairwise_append.mpr ⟨h.increasing, by simp [tradeId?], ?_⟩
      intro a ha b hb
      obtain rfl : b = id := by simpa [tradeId?] using hb
      -- the audit compares with the last ID only
      rcases hlast : lastTrade events with _ | last
      · rw [lastTrade, List.getLast?_eq_none_iff] at hlast
        rw [hlast] at ha
        cases ha
      · have hlt := hadmits.1 last (h.summary.lastTradeId_eq.trans hlast)
        exact UInt64.lt_of_le_of_lt (le_lastTrade h.increasing ha hlast) hlt
    | _ => simpa [tradeId?] using h.increasing
  · have hfresh : ∀ symbol floor, e = started symbol floor → events = [] := by
      rintro symbol floor rfl
      exact h.summary.fresh hadmits.2 (by simpa using hadmits.1)
    rw [startupFloor_concat hfresh, tradeIds_concat]
    intro id hid floor hfloor
    cases e with
    | started symbol declared =>
      rw [hfresh symbol declared rfl] at hid
      simp [tradeIds, tradeId?] at hid
    | trade id' digest =>
      rcases List.mem_append.mp hid with hid | hid
      · exact h.above id hid floor hfloor
      · obtain rfl : id = id' := by simpa [tradeId?] using hid
        exact hadmits.2 floor (h.summary.tradeFloor_eq.trans hfloor)
    | _ => exact h.above id (by simpa [tradeId?] using hid) floor hfloor
  · refine atEach_concat.mpr ⟨h.each, ?_⟩
    by_cases hdepth : e.isDepth = true
    · cases e with
      | depth first final => exact depth_sound_iff h.summary hadmits
      | _ => cases hdepth
    · have hsound := event_sound h.summary hadmits (by simpa using hdepth)
      exact ⟨fun _ hf => hdepth hf.1, fun _ => hsound⟩

end

variable {codec : JournalCodec} {segments : List AuditedSegment} {state state' : JournalAuditState}

theorem RunsChain.soundSoFar (h : RunsChain codec {} segments state) :
    SoundSoFar state 0 (chainEvents segments) := by
  have hinit : SoundSoFar {} 0 [] :=
    ⟨summarizes_init, List.Pairwise.nil, by simp [tradeIds], atEach_nil⟩
  simpa using runsChain_induction (fun _ _ h => { h with summary := h.summary.openSegment })
    (fun _ _ _ tailBytes h => { h with summary := h.summary.closeSegment tailBytes })
    (fun _ _ _ _ sha h hadmits => h.step sha hadmits) hinit h

theorem Runs.terminal_last {fileIndex : Nat} {front rest : List AuditedRecord} {r : AuditedRecord}
    (h : Runs codec state fileIndex (front ++ r :: rest) state')
    (hterminal : r.event.isTerminal = true) : rest = [] := by
  obtain ⟨middle, -, -, -, -, hrest⟩ := runs_append.mp h
  rcases rest with _ | ⟨next, rest⟩
  · rfl
  · obtain ⟨-, hopen, -⟩ := hrest
    rw [(advanced middle r.event r.envelope.recordSha256).terminalSeen_eq, hterminal] at hopen
    simp at hopen

theorem RunsChain.exists_runs (h : RunsChain codec state segments state') {segment : AuditedSegment}
    (hmem : segment ∈ segments) : ∃ s s', Runs codec s 0 segment.records s' := by
  obtain ⟨front, rest, rfl⟩ := List.append_of_mem hmem
  obtain ⟨middle, -, -, reached, hruns, -⟩ := runsChain_append.mp h
  exact ⟨_, reached, hruns⟩

/-- **The closed audit is sound, exactly.** A set that `scan_live_arbitration_journal_set`
    accepts is sound iff no depth observation comes right after one that ends at
    `u64::MAX`. -/
theorem scan_sound_iff (codec : JournalCodec) (paths : List SegmentFile)
    (scan : LiveArbitrationScanV1) (hscan : scanLiveArbitrationJournalSet codec paths = .ok scan) :
    ∃ segments, segmentsOf codec paths = some segments ∧
      (JournalSound segments scan ↔
        AtEach (fun before e => ¬ FollowsLastSequence before e) (chainEvents segments)) := by
  obtain ⟨-, segments, reached, hsegments, hchain, -, -, -, rfl⟩ :=
    scanLiveArbitrationJournalSet_eq_ok.mp hscan
  have hsofar := hchain.soundSoFar
  have hsummary := hchain.summarizes
  refine ⟨segments, hsegments, ?_, ?_⟩
  · intro hsound before e after heq
    exact (hsofar.each before e after heq).mp (hsound.events_sound before e after heq)
  · intro hfollows
    refine ⟨hsofar.increasing, hsofar.above, ?_, ?_, hsummary.trades_eq, hsummary.depthFrames_eq,
      hsummary.gaps_eq, hsummary.lateCorrections_eq⟩
    · intro before e after heq
      exact (hsofar.each before e after heq).mpr (hfollows before e after heq)
    · intro segment hmem front r rest heq hterminal
      obtain ⟨s, s', hruns⟩ := hchain.exists_runs hmem
      rw [heq] at hruns
      exact hruns.terminal_last hterminal

/-- A journal that is started and closed at once. -/
def emptyFile : SegmentFile :=
  ⟨"segment-0.jsonl", writtenSegment (knownCodec [emptySegment]) emptySegment⟩

/-- The audit of a journal without observations. -/
theorem empty_journal_is_sound :
    ∃ scan segments,
      scanLiveArbitrationJournalSet (knownCodec [emptySegment]) [emptyFile] = .ok scan ∧
      segmentsOf (knownCodec [emptySegment]) [emptyFile] = some segments ∧
      JournalSound segments scan := by
  have hrun : ((scanLiveArbitrationJournalSet (knownCodec [emptySegment]) [emptyFile]).isOk,
      (segmentsOf (knownCodec [emptySegment]) [emptyFile]).map chainEvents)
      = (true, some [started "BTCUSDT" (some 10), terminal ⟨some 0, some 0, some 0, some 0⟩]) := by
    decide +kernel
  obtain ⟨haccepted, hevents⟩ := Prod.mk.inj hrun
  obtain ⟨scan, hscan⟩ := isOk_eq_true.mp haccepted
  obtain ⟨segments, hsegments, hiff⟩ := scan_sound_iff _ _ scan hscan
  refine ⟨scan, segments, hscan, hsegments, hiff.mpr ?_⟩
  rw [hsegments, Option.map_some, Option.some.injEq] at hevents
  intro before e after heq hfollows
  -- no event of this journal is a depth observation
  have hmem : e ∈ chainEvents segments := by
    rw [heq]
    simp
  rw [hevents] at hmem
  simp only [List.mem_cons, List.not_mem_nil, or_false] at hmem
  rcases hmem with rfl | rfl <;> cases hfollows.1

/-- A `DEPTH_OBSERVATION` payload. -/
def depthPayload (first final : UInt64) : Value :=
  .object [("event", .string "DEPTH_OBSERVATION"), ("final_sequence", .nat final),
    ("first_sequence", .nat first), ("lane", .string "PRIMARY"),
    ("observation_sha256", .string (hex (List.replicate 32 17))),
    ("record_sha256", .string (hex (List.replicate 32 34)))]

/-- A journal whose two frames both cover the sequence `u64::MAX` alone. -/
def saturatedSegment : List (Value × Nat) :=
  [(startedPayload 10, 0x37389ce8e1c229e99745f5d216820b4b8240f7b62a7865271ff7a68309721059),
   (depthPayload maxU64 maxU64,
    0x042a47ab44c1b56ea76dd07b489ff236cba787e9a86cea2cfdea7f4204493019),
   (depthPayload maxU64 maxU64,
    0xb94b02ae42a2e7b753b7db8ee25ec69eff7b3335888fba8317c42b9a9a8cd58a),
   (terminalPayload 0 2 0 0, 0xaabcebe52a65a7dd608e6306f22818b7b7f10168c260688f2eb4376b00c3a8ea)]

/-- The segment as the writer leaves it. -/
def saturatedFile : SegmentFile :=
  ⟨"segment-0.jsonl", writtenSegment (knownCodec [saturatedSegment]) saturatedSegment⟩

/-- The closed audit accepts a frame that repeats the sequence `u64::MAX`. -/
theorem audit_accepts_repeated_last_sequence :
    ∃ scan segments,
      scanLiveArbitrationJournalSet (knownCodec [saturatedSegment]) [saturatedFile] = .ok scan ∧
      segmentsOf (knownCodec [saturatedSegment]) [saturatedFile] = some segments ∧
      ¬ JournalSound segments scan := by
  have hrun : ((scanLiveArbitrationJournalSet (knownCodec [saturatedSegment]) [saturatedFile]).isOk,
      (segmentsOf (knownCodec [saturatedSegment]) [saturatedFile]).map chainEvents)
      = (true, some [started "BTCUSDT" (some 10), depth maxU64 maxU64, depth maxU64 maxU64,
          terminal ⟨some 0, some 2, some 0, some 0⟩]) := by
    decide +kernel
  obtain ⟨haccepted, hevents⟩ := Prod.mk.inj hrun
  obtain ⟨scan, hscan⟩ := isOk_eq_true.mp haccepted
  obtain ⟨segments, hsegments, hchain⟩ := Option.map_eq_some_iff.mp hevents
  refine ⟨scan, segments, hscan, hsegments, ?_⟩
  intro hsound
  have hsecond := hsound.events_sound [started "BTCUSDT" (some 10), depth maxU64 maxU64]
    (depth maxU64 maxU64) [terminal ⟨some 0, some 2, some 0, some 0⟩] hchain maxU64 rfl
  have hclosed : ¬ GapOpen [started "BTCUSDT" (some 10), depth maxU64 maxU64] := by
    rw [show [started "BTCUSDT" (some 10), depth maxU64 maxU64]
      = [started "BTCUSDT" (some 10)] ++ [depth maxU64 maxU64] from rfl, gapOpen_concat]
    simp [isGap, isDepth]
  have := hsecond.2 hclosed
  omega

end LobReplay
