/-
  What becomes of the gaps a sequenced feed declares. A gap of at most 4096 sequences is tracked,
  and the first later frame of each of its sequences is delivered as recovered, unless a snapshot
  has bridged the sequence by then.

  The feed counts a gap with 64-bit arithmetic on the 32-bit bounds, so a gap that crosses from `2 ^
  32 - 1` to 0 is not tracked: the results are about runs that declare no such gap and whose
  snapshots are careful.
-/

import LobReplay.Net.Window

namespace LobReplay.Net.SequencedFeed

open Foundation
open Std (ExtTreeMap ExtTreeSet)

/-- The number of sequences of a gap, counted with wraparound. -/
def gapSize (first last : UInt32) : Nat := (last - first).toNat + 1

/-- The sequence of the first market payload of the calls. -/
def firstFrame (calls : List Call) : Option UInt32 :=
  calls.findSome? fun
    | .frame m => if m.type = .marketPayload then some m.sequence else none
    | .snapshot _ => none

/-- The call opens no gap of at most 4096 sequences that crosses the end of the number range. -/
def Unwrapped (feed : SequencedFeed) : Call → Prop
  | .frame m => m.type = .marketPayload → feed.seenFirst = true →
      seqAfter m.sequence feed.expected → gapSize feed.expected (m.sequence - 1) ≤ 4096 →
      feed.expected ≤ m.sequence - 1
  | .snapshot _ => True

instance (feed : SequencedFeed) : (call : Call) → Decidable (Unwrapped feed call)
  | .frame _ => inferInstanceAs (Decidable (_ → _ → _ → _ → _))
  | .snapshot _ => inferInstanceAs (Decidable True)

/-- A sequence is in a declared gap of more than 4096 sequences. -/
def InLargeGap (past : List FeedEvent) (s : UInt32) : Prop :=
  ∃ first last, .gapDetected first last ∈ past ∧ 4096 < gapSize first last ∧ Between first last s

/-- What becomes of declared gaps, over the calls made so far. -/
structure Recovers (base : UInt32) (feed : SequencedFeed) (calls : List Call) : Prop where
  /-- The first frame of a sequence behind the gap of at most 4096 sequences that declared it is
      delivered as recovered, unless a snapshot at or above it was bridged in between. -/
  recovered : AtEach (fun before call => ∀ m, call = .frame m → m.type = .marketPayload →
    ∀ earlier opener between first last, before = earlier ++ opener :: between →
      .gapDetected first last ∈ ((feed.after earlier).step opener).1 →
      gapSize first last ≤ 4096 → Between first last m.sequence →
      (∀ m', .frame m' ∈ between → m'.type = .marketPayload → m'.sequence ≠ m.sequence) →
      (∀ s, .snapshotBridged s ∈ (feed.after (earlier ++ [opener])).events between →
        offset base s < offset base m.sequence) →
      ((feed.after before).step call).1 = [.delivered m true]) calls
  /-- A frame at or after the first one is delivered, a duplicate of a delivered one, or covered by
      a bridge; the gaps of more than 4096 sequences are left to snapshots. -/
  accounted : AtEach (fun before call => ∀ m, call = .frame m → m.type = .marketPayload →
    ∀ start, firstFrame (before ++ [call]) = some start →
      offset base start ≤ offset base m.sequence →
      (∃ recovered, .delivered m recovered ∈ ((feed.after before).step call).1) ∨
      m.sequence ∈ deliveredSeqs (feed.events before) ∨
      (∃ s, .snapshotBridged s ∈ feed.events before ∧ offset base m.sequence ≤ offset base s) ∨
      InLargeGap (feed.events before) m.sequence) calls

/-! ## Tracked gaps -/

section

variable {feed feed' : SequencedFeed} {call : Call} {out : List FeedEvent} {first last s : UInt32}
  {pending : ExtTreeSet UInt32}

theorem mem_track_of_between (hle : first ≤ last) (hsize : gapSize first last ≤ 4096)
    (h : Between first last s) : s ∈ track pending first last := by
  have hdiff := toUInt64_sub_toNat last first
  have hlast := last.toNat_lt
  rw [if_pos hle] at hdiff
  rw [UInt32.le_iff_toNat_le] at hle
  rw [gapSize] at hsize
  have hsmall : last.toUInt64 - first.toUInt64 + 1 ≤ kMaxTrackedGapSeqs := by
    rw [UInt64.le_iff_toNat_le, UInt64.toNat_add, hdiff]
    show (last.toNat - first.toNat + 1) % 2 ^ 64 ≤ 4096
    rcases toNat_sub_cases last first with hsub | hsub <;> omega
  rw [track, if_pos hsmall, mem_insertUpTo_of_le (UInt32.le_iff_toNat_le.mpr hle)]
  exact .inr h

theorem mem_track_of_mem (h : s ∈ pending) : s ∈ track pending first last := by
  rw [track]
  split
  · exact mem_insertUpTo.mpr (.inl h)
  · exact h

theorem Effect.of_gap (heffect : Effect feed call out feed') (h : .gapDetected first last ∈ out) :
    ∃ m, call = .frame m ∧ m.type = .marketPayload ∧ feed.seenFirst = true ∧
      seqAfter m.sequence feed.expected ∧ first = feed.expected ∧ last = m.sequence - 1 ∧
      feed'.pendingGaps = track feed.pendingGaps first last := by
  cases heffect with
  | ahead m htype hseen hne hafter =>
    simp only [List.mem_cons, FeedEvent.gapDetected.injEq, reduceCtorEq, List.not_mem_nil,
      or_false] at h
    obtain ⟨rfl, rfl⟩ := h
    exact ⟨m, rfl, htype, hseen, hafter, rfl, rfl, rfl⟩
  | _ => simp at h

theorem Effect.keeps_tracked (heffect : Effect feed call out feed') (hs : s ∈ feed.pendingGaps)
    (hframe : ∀ m, call = .frame m → m.type = .marketPayload → m.sequence ≠ s) :
    s ∈ feed'.pendingGaps ∨ ∃ q, call = .snapshot q ∧ .snapshotBridged q ∈ out ∧
      (feed.seenFirst = true → seqAfter q feed.lastDelivered) := by
  cases heffect with
  | ahead m htype hseen hne hafter => exact .inl (mem_track_of_mem hs)
  | recovered m htype hseen hne hafter hmem =>
    refine .inl (ExtTreeSet.mem_erase.mpr ⟨fun heq => ?_, hs⟩)
    exact hframe m rfl htype (Std.LawfulEqCmp.compare_eq_iff_eq.mp heq)
  | bridged q hafter => exact .inr ⟨q, rfl, by simp, hafter⟩
  | _ => exact .inl hs

end

/-! ## Runs -/

section

variable {base : UInt32} {width : Nat} {maxReorder : UInt64} {calls : List Call} {m : FeedMessage}

/-- The call is careful and opens no gap across the end of the number range. -/
def Trackable (feed : SequencedFeed) (call : Call) : Prop :=
  Careful feed call ∧ Unwrapped feed call

instance (feed : SequencedFeed) (call : Call) : Decidable (Trackable feed call) :=
  inferInstanceAs (Decidable (_ ∧ _))

structure TrackableRun (base : UInt32) (width : Nat) (maxReorder : UInt64) (calls : List Call) :
    Prop where
  width_lt : width < 2 ^ 31
  inWindow : ∀ call ∈ calls, InWindow base width call
  trackable : AtEach (fun before call => Trackable ((fresh maxReorder).after before) call) calls

theorem TrackableRun.of_append {later : List Call}
    (h : TrackableRun base width maxReorder (calls ++ later)) :
    TrackableRun base width maxReorder calls :=
  ⟨h.width_lt, fun call hcall => h.inWindow call (List.mem_append_left _ hcall),
    h.trackable.of_append⟩

theorem TrackableRun.tracks (h : TrackableRun base width maxReorder calls) :
    Tracks base width ((fresh maxReorder).events calls) ((fresh maxReorder).after calls) :=
  (kept_of_careful h.width_lt h.inWindow fun before call later heq =>
    (h.trackable before call later heq).1).tracks

theorem TrackableRun.last {call : Call}
    (h : TrackableRun base width maxReorder (calls ++ [call])) :
    InWindow base width call ∧ Trackable ((fresh maxReorder).after calls) call :=
  ⟨h.inWindow call (by simp), (atEach_concat.mp h.trackable).2⟩

/-- **Run.** A sequence of a gap stays tracked as long as its frame does not come and no snapshot
    at or above it is bridged. -/
theorem TrackableRun.mem_pendingGaps {earlier between : List Call} {opener : Call}
    {first last s : UInt32}
    (h : TrackableRun base width maxReorder (earlier ++ opener :: between))
    (hgap : .gapDetected first last ∈ (((fresh maxReorder).after earlier).step opener).1)
    (hsize : gapSize first last ≤ 4096) (hs : Between first last s)
    (hframe : ∀ m, .frame m ∈ between → m.type = .marketPayload → m.sequence ≠ s)
    (hbridge : ∀ q, .snapshotBridged q
        ∈ ((fresh maxReorder).after (earlier ++ [opener])).events between →
      offset base q < offset base s) :
    s ∈ ((fresh maxReorder).after (earlier ++ opener :: between)).pendingGaps := by
  -- the induction is on the calls since the gap
  induction between using List.reverseRecOn with
  | nil =>
    have hlast := h.last
    have heffect := (step_effect (after_reorder maxReorder earlier) opener).1
    obtain ⟨m, rfl, htype, hseen, hafter, rfl, rfl, hpending⟩ := heffect.of_gap hgap
    rw [after_concat, hpending]
    exact mem_track_of_between (hlast.2.2 htype hseen hafter hsize) hsize hs
  | append_singleton between call ih =>
    have hsplit : earlier ++ opener :: (between ++ [call])
        = (earlier ++ opener :: between) ++ [call] := by simp
    rw [hsplit] at h ⊢
    have hevents := events_concat ((fresh maxReorder).after (earlier ++ [opener])) between call
    have hstate : ((fresh maxReorder).after (earlier ++ [opener])).after between
        = (fresh maxReorder).after (earlier ++ opener :: between) := by
      rw [← after_append, List.append_assoc, List.singleton_append]
    rw [hevents, hstate] at hbridge
    have hold := ih h.of_append (fun m hm => hframe m (List.mem_append_left _ hm))
      (fun q hq => hbridge q (List.mem_append_left _ hq))
    have htracks := h.of_append.tracks
    have heffect := (step_effect (after_reorder maxReorder (earlier ++ opener :: between)) call).1
    rw [after_concat]
    rcases heffect.keeps_tracked hold (fun m hm => hframe m (by simp [hm])) with
      hkept | ⟨q, rfl, hout, hafter⟩
    · exact hkept
    · -- a careful bridge is above the tracked sequence
      obtain ⟨hq, hcareful, -⟩ := h.last
      have hq : offset base q < width := hq
      have hwidth := h.width_lt
      have hbelow := hbridge q (List.mem_append_right _ hout)
      have hpending := (htracks.pending s hold).1
      have hseen : ((fresh maxReorder).after (earlier ++ opener :: between)).seenFirst = true := by
        rcases hfirst : ((fresh maxReorder).after (earlier ++ opener :: between)).seenFirst
          with _ | _
        · rw [(htracks.idle hfirst).2] at hold
          exact absurd hold ExtTreeSet.not_mem_empty
        · rfl
      obtain ⟨top, -, hexpected, htopWidth, -⟩ := htracks.offset_expected hseen hwidth
      have hnotBefore := hcareful hseen (hafter hseen)
      rw [seqAfter_iff base (by omega) (by omega)] at hnotBefore
      omega

theorem Tracks.step_of_pending {past : List FeedEvent} {feed : SequencedFeed}
    (h : Tracks base width past feed) (hwidth : width < 2 ^ 31) (hreorder : feed.reorder = ∅)
    (htype : m.type = .marketPayload) (hwindow : offset base m.sequence < width)
    (hmem : m.sequence ∈ feed.pendingGaps) : (feed.step (.frame m)).1 = [.delivered m true] := by
  have hlow := (h.pending m.sequence hmem).1
  have heffect := (step_effect hreorder (.frame m)).1
  generalize (feed.step (.frame m)).1 = out at heffect
  generalize (feed.step (.frame m)).2 = feed' at heffect
  cases heffect with
  | control _ hcontrol => exact absurd htype hcontrol
  | first _ _ hseen =>
    rw [(h.idle hseen).2] at hmem
    exact absurd hmem ExtTreeSet.not_mem_empty
  | next _ _ _ heq =>
    rw [heq] at hlow
    exact absurd hlow (lt_irrefl _)
  | ahead _ _ hseen _ hafter =>
    obtain ⟨top, -, hexpected, htopWidth, -⟩ := h.offset_expected hseen hwidth
    rw [seqAfter_iff base (by omega) (by omega)] at hafter
    omega
  | recovered => rfl
  | duplicate _ _ _ _ _ hnot => exact absurd hmem hnot

/-! ## Accounting for every sequence passed -/

/-- A sequence is delivered, bridged, tracked, or in a gap left to snapshots. -/
def Accounted (base : UInt32) (past : List FeedEvent) (feed : SequencedFeed) (s : UInt32) : Prop :=
  s ∈ deliveredSeqs past ∨ (∃ b, .snapshotBridged b ∈ past ∧ offset base s ≤ offset base b) ∨
    s ∈ feed.pendingGaps ∨ InLargeGap past s

/-- Every sequence from the start up to the expected one is accounted for. The start is the first
    frame, or a snapshot bridged before it. -/
structure Accounts (base : UInt32) (calls : List Call) (past : List FeedEvent)
    (feed : SequencedFeed) : Prop where
  idle : feed.seenFirst = false → firstFrame calls = none
  accounted : feed.seenFirst = true →
    ∃ start, (firstFrame calls = some start ∨ .snapshotBridged start ∈ past) ∧
      ∀ s, offset base start ≤ offset base s → offset base s < offset base feed.expected →
        Accounted base past feed s

section

variable {past out : List FeedEvent} {feed feed' : SequencedFeed} {call : Call}

theorem firstFrame_concat_some {start : UInt32} (h : firstFrame calls = some start) (call : Call) :
    firstFrame (calls ++ [call]) = some start := by
  rw [firstFrame, List.findSome?_append]
  rw [firstFrame] at h
  rw [h]
  rfl

theorem firstFrame_concat_none (h : firstFrame calls = none) {m : FeedMessage}
    (htype : m.type = .marketPayload) :
    firstFrame (calls ++ [.frame m]) = some m.sequence := by
  rw [firstFrame, List.findSome?_append]
  rw [firstFrame] at h
  rw [h]
  simp [htype]

/-- What was accounted for stays so when the events and the tracked sequences grow. -/
theorem Accounted.mono {s : UInt32} (h : Accounted base past feed s)
    (hpending : s ∈ feed.pendingGaps → s ∈ feed'.pendingGaps ∨ s ∈ deliveredSeqs out ∨
      ∃ b, .snapshotBridged b ∈ out ∧ offset base s ≤ offset base b) :
    Accounted base (past ++ out) feed' s := by
  rw [Accounted, deliveredSeqs_append]
  rcases h with h | ⟨b, hb, hle⟩ | h | ⟨first, last, hgap, hsize, hs⟩
  · exact .inl (List.mem_append_left _ h)
  · exact .inr (.inl ⟨b, List.mem_append_left _ hb, hle⟩)
  · rcases hpending h with hkept | hdelivered | ⟨b, hb, hle⟩
    · exact .inr (.inr (.inl hkept))
    · exact .inl (List.mem_append_right _ hdelivered)
    · exact .inr (.inl ⟨b, List.mem_append_right _ hb, hle⟩)
  · exact .inr (.inr (.inr ⟨first, last, List.mem_append_left _ hgap, hsize, hs⟩))

/-- A call that leaves the cursor where it is. -/
theorem Accounts.stay (h : Accounts base calls past feed) (hseen : feed.seenFirst = true)
    (hseen' : feed'.seenFirst = true) (hexpected : feed'.expected = feed.expected)
    (hpending : ∀ s ∈ feed.pendingGaps, s ∈ feed'.pendingGaps ∨ s ∈ deliveredSeqs out) :
    Accounts base (calls ++ [call]) (past ++ out) feed' := by
  refine ⟨fun hnot => ?_, fun _ => ?_⟩
  · rw [hseen'] at hnot
    cases hnot
  · obtain ⟨start, hstart, hall⟩ := h.accounted hseen
    refine ⟨start, ?_, fun s hlow hhigh => ?_⟩
    · rcases hstart with hstart | hstart
      · exact .inl (firstFrame_concat_some hstart call)
      · exact .inr (List.mem_append_left _ hstart)
    · rw [hexpected] at hhigh
      refine (hall s hlow hhigh).mono fun hs => ?_
      rcases hpending s hs with hkept | hdelivered
      · exact .inl hkept
      · exact .inr (.inl hdelivered)

theorem Accounts.move (h : Accounts base calls past feed) (hseen : feed.seenFirst = true)
    (hseen' : feed'.seenFirst = true)
    (hpending : ∀ s ∈ feed.pendingGaps, s ∈ feed'.pendingGaps ∨
      ∃ b, .snapshotBridged b ∈ out ∧ offset base s ≤ offset base b)
    (hpassed : ∀ s, offset base feed.expected ≤ offset base s →
      offset base s < offset base feed'.expected → Accounted base (past ++ out) feed' s) :
    Accounts base (calls ++ [call]) (past ++ out) feed' := by
  refine ⟨fun hnot => ?_, fun _ => ?_⟩
  · rw [hseen'] at hnot
    cases hnot
  · obtain ⟨start, hstart, hall⟩ := h.accounted hseen
    refine ⟨start, ?_, fun s hlow hhigh => ?_⟩
    · rcases hstart with hstart | hstart
      · exact .inl (firstFrame_concat_some hstart call)
      · exact .inr (List.mem_append_left _ hstart)
    · by_cases hold : offset base s < offset base feed.expected
      · refine (hall s hlow hold).mono fun hs => ?_
        rcases hpending s hs with hkept | hbridged
        · exact .inl hkept
        · exact .inr (.inr hbridged)
      · exact hpassed s (by omega) hhigh

/-- **Step.** -/
theorem Accounts.step (h : Accounts base calls past feed) (htracks : Tracks base width past feed)
    (hwidth : width < 2 ^ 31) (hwindow : InWindow base width call)
    (htrackable : Trackable feed call) (heffect : Effect feed call out feed') :
    Accounts base (calls ++ [call]) (past ++ out) feed' := by
  cases heffect with
  | control m htype =>
    rcases hseen : feed.seenFirst with _ | _
    · refine ⟨fun _ => ?_, fun hnot => ?_⟩
      · rw [firstFrame, List.findSome?_append]
        have hnone := h.idle hseen
        rw [firstFrame] at hnone
        rw [hnone]
        simp [htype]
      · rw [hseen] at hnot
        cases hnot
    · exact h.stay hseen hseen rfl fun s hs => .inl hs
  | first m htype hseen =>
    refine ⟨fun hnot => (by cases hnot), fun _ => ?_⟩
    refine ⟨m.sequence, .inl (firstFrame_concat_none (h.idle hseen) htype), fun s hlow hhigh => ?_⟩
    have hm := hwindow htype
    have hnext : offset base (m.sequence + 1) = offset base m.sequence + 1 :=
      offset_succ (by omega)
    have hhigh : offset base s < offset base (m.sequence + 1) := hhigh
    have hs : s = m.sequence := offset_injective (by omega : offset base s = offset base m.sequence)
    rw [Accounted, deliveredSeqs_append, hs]
    exact .inl (by simp)
  | next m htype hseen heq =>
    refine h.move hseen hseen (fun s hs => .inl hs) fun s hlow hhigh => ?_
    have hm := hwindow htype
    have hnext : offset base (m.sequence + 1) = offset base m.sequence + 1 :=
      offset_succ (by omega)
    have hhigh : offset base s < offset base (m.sequence + 1) := hhigh
    rw [← heq] at hlow
    have hs : s = m.sequence := offset_injective (by omega : offset base s = offset base m.sequence)
    rw [Accounted, deliveredSeqs_append, hs]
    exact .inl (by simp)
  | ahead m htype hseen hne hafter =>
    refine h.move hseen hseen (fun s hs => .inl (mem_track_of_mem hs)) fun s hlow hhigh => ?_
    have hm := hwindow htype
    have hnext : offset base (m.sequence + 1) = offset base m.sequence + 1 :=
      offset_succ (by omega)
    have hhigh : offset base s < offset base (m.sequence + 1) := hhigh
    obtain ⟨hgapLow, hpred⟩ := htracks.gap_offsets hseen hwidth hm hafter
    by_cases hs : offset base s = offset base m.sequence
    · rw [Accounted, deliveredSeqs_append, offset_injective hs]
      exact .inl (by simp)
    · -- the sequences before the message: tracked, or in a gap left to snapshots
      have hbetween : Between feed.expected (m.sequence - 1) s :=
        (between_iff hgapLow).mpr ⟨hlow, by omega⟩
      by_cases hsize : gapSize feed.expected (m.sequence - 1) ≤ 4096
      · exact .inr (.inr (.inl (mem_track_of_between (htrackable.2 htype hseen hafter hsize)
          hsize hbetween)))
      · exact .inr (.inr (.inr ⟨_, _, by simp, by omega, hbetween⟩))
  | recovered m htype hseen hne hafter hmem =>
    refine h.stay hseen hseen rfl fun s hs => ?_
    by_cases heq : m.sequence = s
    · exact .inr (by simp [heq])
    · refine .inl (ExtTreeSet.mem_erase.mpr ⟨fun hcmp => heq ?_, hs⟩)
      exact Std.LawfulEqCmp.compare_eq_iff_eq.mp hcmp
  | duplicate m htype hseen hne hafter hmem =>
    exact h.stay hseen hseen rfl fun s hs => .inl hs
  | stale q hseen hafter => exact h.stay hseen hseen rfl fun s hs => .inl hs
  | bridged q hafter =>
    -- everything below the new cursor is covered by the bridge
    have hq : offset base q < width := hwindow
    have hnext : offset base (q + 1) = offset base q + 1 := offset_succ (by omega)
    refine ⟨fun hnot => (by cases hnot), fun _ => ?_⟩
    refine ⟨q, .inr (by simp), fun s hlow hhigh => ?_⟩
    have hhigh : offset base s < offset base (q + 1) := hhigh
    exact .inr (.inl ⟨q, by simp, by omega⟩)

end

/-- **Run.** -/
theorem TrackableRun.accounts (h : TrackableRun base width maxReorder calls) :
    Accounts base calls ((fresh maxReorder).events calls) ((fresh maxReorder).after calls) := by
  induction calls using List.reverseRecOn with
  | nil =>
    refine ⟨fun _ => rfl, fun hseen => ?_⟩
    cases hseen
  | append_singleton calls call ih =>
    have heffect := (step_effect (after_reorder maxReorder calls) call).1
    rw [events_concat, after_concat]
    exact (ih h.of_append).step h.of_append.tracks h.width_lt h.last.1 h.last.2 heffect

theorem TrackableRun.frame_accounted {start : UInt32}
    (h : TrackableRun base width maxReorder (calls ++ [.frame m])) (htype : m.type = .marketPayload)
    (hstart : firstFrame (calls ++ [.frame m]) = some start)
    (hlow : offset base start ≤ offset base m.sequence) :
    (∃ recovered, .delivered m recovered
        ∈ (((fresh maxReorder).after calls).step (.frame m)).1) ∨
      m.sequence ∈ deliveredSeqs ((fresh maxReorder).events calls) ∨
      (∃ s, .snapshotBridged s ∈ (fresh maxReorder).events calls ∧
        offset base m.sequence ≤ offset base s) ∨
      InLargeGap ((fresh maxReorder).events calls) m.sequence := by
  have htracks := h.of_append.tracks
  have haccounts := h.of_append.accounts
  have hwidth := h.width_lt
  have hwindow : offset base m.sequence < width := h.last.1 htype
  have hreorder := after_reorder maxReorder calls
  have heffect := (step_effect hreorder (.frame m)).1
  generalize hout : (((fresh maxReorder).after calls).step (.frame m)).1 = out at heffect ⊢
  generalize (((fresh maxReorder).after calls).step (.frame m)).2 = feed' at heffect
  cases heffect with
  | control _ hcontrol => exact absurd htype hcontrol
  | first => exact .inl ⟨false, by simp⟩
  | next => exact .inl ⟨false, by simp⟩
  | ahead => exact .inl ⟨false, by simp⟩
  | recovered => exact .inl ⟨true, by simp⟩
  | duplicate _ _ hseen hne hafter hmem =>
    -- the sequence lies below the cursor, so it is accounted for and not tracked any more
    obtain ⟨top, -, hexpected, htopWidth, -⟩ := htracks.offset_expected hseen hwidth
    rw [seqAfter_iff base (by omega) (by omega)] at hafter
    have hbelow : offset base m.sequence < offset base ((fresh maxReorder).after calls).expected := by
      rcases Nat.lt_or_eq_of_le (Nat.le_of_not_lt hafter) with hlt | heq
      · exact hlt
      · exact absurd (offset_injective heq) hne
    obtain ⟨start', hstart', hall⟩ := haccounts.accounted hseen
    by_cases hcovered : offset base start' ≤ offset base m.sequence
    · rcases hall m.sequence hcovered hbelow with h | h | h | h
      · exact .inr (.inl h)
      · exact .inr (.inr (.inl h))
      · exact absurd h hmem
      · exact .inr (.inr (.inr h))
    · -- below the start: only a snapshot can have come before the first frame
      rcases hstart' with hfirst | hbridged
      · rw [firstFrame_concat_some hfirst, Option.some.injEq] at hstart
        rw [hstart] at hcovered
        exact absurd hlow hcovered
      · exact .inr (.inr (.inl ⟨start', hbridged, by omega⟩))

/-- **Run.** In a trackable run every gap of at most 4096 sequences is recovered and every frame is
    accounted for. -/
theorem gaps_recovered (maxReorder : UInt64) (calls : List Call)
    (h : TrackableRun base width maxReorder calls) : Recovers base (fresh maxReorder) calls := by
  refine ⟨?_, ?_⟩
  · intro before call later heq m hcall htype earlier opener between first last hbefore hgap hsize
      hbetween hframe hbridge
    rw [heq, List.append_cons] at h
    have hrun := h.of_append
    rw [hcall] at hrun ⊢
    have htracks := hrun.of_append.tracks
    have hmem : m.sequence ∈ ((fresh maxReorder).after before).pendingGaps := by
      rw [hbefore]
      have hearlier := hrun.of_append
      rw [hbefore] at hearlier
      exact hearlier.mem_pendingGaps hgap hsize hbetween hframe hbridge
    exact htracks.step_of_pending h.width_lt (after_reorder maxReorder before) htype
      (hrun.last.1 htype) hmem
  · intro before call later heq m hcall htype start hstart hlow
    rw [heq, List.append_cons] at h
    have hrun := h.of_append
    rw [hcall] at hrun hstart ⊢
    exact hrun.frame_accounted htype hstart hlow

/-- A run over the end of the number range with a gap on each side of it. -/
def twoGapRun : List Call :=
  [payload 0xFFFFFFFA, payload 0xFFFFFFFE, payload 0xFFFFFFFF, payload 0, payload 4,
    payload 0xFFFFFFFC, payload 2]

theorem twoGapRun_recovers :
    (fresh 64).events (twoGapRun.take 2) =
        [.delivered { sequence := 0xFFFFFFFA } false, .gapDetected 0xFFFFFFFB 0xFFFFFFFD,
          .delivered { sequence := 0xFFFFFFFE } false] ∧
      Recovers 0xFFFFFFFA (fresh 64) twoGapRun := by
  have hrun : TrackableRun 0xFFFFFFFA 16 64 twoGapRun := by
    refine ⟨by decide, by decide, by decide +kernel⟩
  exact ⟨by decide +kernel, gaps_recovered 64 twoGapRun hrun⟩

/-- The gap from `2 ^ 32 - 1` to 0, and the frame 0 after it. -/
def wrappedGapRun : List Call := [payload 0xFFFFFFFE, payload 1, payload 0]

/-- A gap of two sequences across the end of the number range is declared, and its second sequence
    is dropped as a duplicate when it comes. -/
theorem wrappedGapRun_is_not_recovered :
    (∀ call ∈ wrappedGapRun, InWindow 0xFFFFFFFE 16 call) ∧
      (fresh 64).events wrappedGapRun =
        [.delivered { sequence := 0xFFFFFFFE } false, .gapDetected 0xFFFFFFFF 0,
          .delivered { sequence := 1 } false, .duplicateIgnored] ∧
      gapSize 0xFFFFFFFF 0 = 2 ∧ ¬ Recovers 0xFFFFFFFE (fresh 64) wrappedGapRun := by
  refine ⟨by decide, by decide +kernel, by decide, fun h => ?_⟩
  have hdelivered := h.recovered [payload 0xFFFFFFFE, payload 1] (payload 0) [] rfl
    { sequence := 0 } rfl rfl [payload 0xFFFFFFFE] (payload 1) [] 0xFFFFFFFF 0 rfl
    (by decide +kernel) (by decide) (by decide) (by simp) (by
      intro s hs
      cases hs)
  exact absurd hdelivered (by decide +kernel)

end

end LobReplay.Net.SequencedFeed
