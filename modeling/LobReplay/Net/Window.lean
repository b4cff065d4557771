/-
  Runs of the sequenced feed inside one window of fewer than `2 ^ 31` sequence numbers. `Tracks`
  relates the events emitted so far to the cursors and the tracked gaps of the feed; every careful
  call keeps it (`Tracks.step`).

  A recovered message moves `last_delivered_` back, and a snapshot is compared with
  `last_delivered_` only: one that lies between the message recovered last and the highest one
  delivered moves the feed backwards.
-/

import LobReplay.Net.SequencedFeed
import Mathlib.Data.List.Nodup

namespace LobReplay.Net.SequencedFeed

open Foundation
open Std (ExtTreeMap ExtTreeSet)

/-! ## Events so far -/

/-- The sequences delivered, in order. -/
def deliveredSeqs (past : List FeedEvent) : List UInt32 :=
  past.filterMap fun
    | .delivered m _ => some m.sequence
    | _ => none

/-- A sequence was delivered or bridged. -/
def Reached (past : List FeedEvent) (s : UInt32) : Prop :=
  s ∈ deliveredSeqs past ∨ .snapshotBridged s ∈ past

theorem deliveredSeqs_append (past out : List FeedEvent) :
    deliveredSeqs (past ++ out) = deliveredSeqs past ++ deliveredSeqs out :=
  List.filterMap_append

@[simp] theorem deliveredSeqs_nil : deliveredSeqs [] = [] := rfl

@[simp] theorem deliveredSeqs_delivered (m : FeedMessage) (recovered : Bool)
    (past : List FeedEvent) :
    deliveredSeqs (.delivered m recovered :: past) = m.sequence :: deliveredSeqs past := rfl

@[simp] theorem deliveredSeqs_gapDetected (first last : UInt32) (past : List FeedEvent) :
    deliveredSeqs (.gapDetected first last :: past) = deliveredSeqs past := rfl

@[simp] theorem deliveredSeqs_duplicateIgnored (past : List FeedEvent) :
    deliveredSeqs (.duplicateIgnored :: past) = deliveredSeqs past := rfl

@[simp] theorem deliveredSeqs_snapshotBridged (s : UInt32) (past : List FeedEvent) :
    deliveredSeqs (.snapshotBridged s :: past) = deliveredSeqs past := rfl

theorem reached_append {past out : List FeedEvent} {q : UInt32} :
    Reached (past ++ out) q ↔ Reached past q ∨ Reached out q := by
  simp only [Reached, deliveredSeqs_append, List.mem_append]
  tauto

variable {q : UInt32}

@[simp] theorem reached_delivered {m : FeedMessage} {recovered : Bool} :
    Reached [.delivered m recovered] q ↔ q = m.sequence := by
  simp [Reached]

@[simp] theorem reached_snapshotBridged {s : UInt32} : Reached [.snapshotBridged s] q ↔ q = s := by
  simp [Reached]

/-! ## Windows -/

section

variable (base : UInt32) (width : Nat)

/-- The sequence number of a call lies in the window; control frames are not sequenced. -/
def InWindow : Call → Prop
  | .frame m => m.type = .marketPayload → offset base m.sequence < width
  | .snapshot s => offset base s < width

/-- What the feed promises in a window, over the calls made so far. -/
structure InOrder (feed : SequencedFeed) (calls : List Call) : Prop where
  /-- Each sequence is delivered at most once. -/
  once : (deliveredSeqs (feed.events calls)).Nodup
  /-- Nothing at or below a bridged snapshot is delivered after the bridge. -/
  above_bridge : AtEach (fun past event => ∀ m recovered, event = .delivered m recovered →
    ∀ s, .snapshotBridged s ∈ past → offset base s < offset base m.sequence) (feed.events calls)
  /-- The cursor does not move backwards. -/
  forward : AtEach (fun before call => (feed.after before).seenFirst = true →
    offset base (feed.after before).expected
      ≤ offset base ((feed.after before).step call).2.expected) calls
  /-- A snapshot at or below the highest sequence reached does nothing. -/
  stale_ignored : AtEach (fun before call => ∀ s, call = .snapshot s →
    (∃ q, Reached (feed.events before) q ∧ offset base s ≤ offset base q) →
    (feed.after before).step call = ([], feed.after before)) calls

/-- The call is not a snapshot between the message delivered last and the highest one: one that the
    feed takes is not before the expected sequence. -/
def Careful (feed : SequencedFeed) : Call → Prop
  | .frame _ => True
  | .snapshot s => feed.seenFirst = true → seqAfter s feed.lastDelivered →
      ¬ seqAfter feed.expected s

instance : (call : Call) → Decidable (InWindow base width call)
  | .frame _ => inferInstanceAs (Decidable (_ → _))
  | .snapshot _ => inferInstanceAs (Decidable (_ < _))

instance (feed : SequencedFeed) : (call : Call) → Decidable (Careful feed call)
  | .frame _ => inferInstanceAs (Decidable True)
  | .snapshot _ => inferInstanceAs (Decidable (_ → _ → _))

/-- The cursors and the tracked gaps against the events so far. -/
structure Tracks (past : List FeedEvent) (feed : SequencedFeed) : Prop where
  idle : feed.seenFirst = false → past = [] ∧ feed.pendingGaps = ∅
  /-- The expected sequence follows the highest one reached. -/
  cursor : feed.seenFirst = true → ∃ top, Reached past top ∧ feed.expected = top + 1 ∧
    offset base top < width ∧ ∀ q, Reached past q → offset base q ≤ offset base top
  last : feed.seenFirst = true → Reached past feed.lastDelivered
  /-- A tracked sequence was passed over, and neither delivered nor bridged. -/
  pending : ∀ s ∈ feed.pendingGaps, offset base s < offset base feed.expected ∧
    s ∉ deliveredSeqs past ∧ ∀ b, .snapshotBridged b ∈ past → offset base b < offset base s
  once : (deliveredSeqs past).Nodup
  above_bridge : AtEach (fun past event => ∀ m recovered, event = .delivered m recovered →
    ∀ s, .snapshotBridged s ∈ past → offset base s < offset base m.sequence) past

end

/-! ## One call -/

section

variable {base : UInt32} {width : Nat} {past : List FeedEvent} {feed : SequencedFeed}
  {m : FeedMessage} {s : UInt32}

section

variable (h : Tracks base width past feed)
include h

theorem Tracks.quiet (hseen : feed.seenFirst = true) {event : FeedEvent}
    (hdelivered : ∀ m recovered, event ≠ .delivered m recovered)
    (hbridged : ∀ s, event ≠ .snapshotBridged s) : Tracks base width (past ++ [event]) feed := by
  have hseqs : deliveredSeqs (past ++ [event]) = deliveredSeqs past := by
    rw [deliveredSeqs_append]
    cases event with
    | delivered m recovered => exact absurd rfl (hdelivered m recovered)
    | _ => exact List.append_nil _
  have hmem : ∀ s, .snapshotBridged s ∈ past ++ [event] ↔ .snapshotBridged s ∈ past := by
    intro s
    rw [List.mem_append, List.mem_singleton]
    exact or_iff_left fun heq => hbridged s heq.symm
  have hreached : ∀ q, Reached (past ++ [event]) q ↔ Reached past q := by
    intro q
    rw [Reached, Reached, hseqs, hmem]
  refine ⟨?_, ?_, ?_, ?_, ?_, ?_⟩
  · intro hnot
    rw [hseen] at hnot
    cases hnot
  · simpa only [hreached] using h.cursor
  · simpa only [hreached] using h.last
  · simpa only [hseqs, hmem] using h.pending
  · rw [hseqs]
    exact h.once
  · refine atEach_concat.mpr ⟨h.above_bridge, fun m recovered heq => ?_⟩
    exact absurd heq (hdelivered m recovered)

theorem Tracks.advance (hseen : feed.seenFirst = true) (hwidth : width < 2 ^ 31) {recovered : Bool}
    (hwindow : offset base m.sequence < width)
    (hahead : offset base feed.expected ≤ offset base m.sequence) {pending : ExtTreeSet UInt32}
    (hpending : ∀ s ∈ pending, s ∈ feed.pendingGaps ∨
      offset base feed.expected ≤ offset base s ∧ offset base s < offset base m.sequence) :
    Tracks base width (past ++ [.delivered m recovered])
      { feed with
        pendingGaps := pending
        expected := m.sequence + 1
        lastDelivered := m.sequence } := by
  obtain ⟨top, htop, hexpected, htopWidth, hhighest⟩ := h.cursor hseen
  have hnext : offset base feed.expected = offset base top + 1 := by
    rw [hexpected]
    exact offset_succ (by omega)
  have hafter : offset base (m.sequence + 1) = offset base m.sequence + 1 :=
    offset_succ (by omega)
  -- everything reached so far is below the new message
  have hbelow : ∀ q, Reached past q → offset base q < offset base m.sequence := by
    intro q hq
    have := hhighest q hq
    omega
  refine ⟨?_, ?_, ?_, ?_, ?_, ?_⟩
  · intro hnot
    rw [show feed.seenFirst = false from hnot] at hseen
    cases hseen
  · intro _
    refine ⟨m.sequence, reached_append.mpr (.inr (reached_delivered.mpr rfl)), rfl, hwindow, ?_⟩
    intro q hq
    rcases reached_append.mp hq with hq | hq
    · exact (hbelow q hq).le
    · rw [reached_delivered.mp hq]
  · intro _
    exact reached_append.mpr (.inr (reached_delivered.mpr rfl))
  · intro s hs
    show offset base s < offset base (m.sequence + 1) ∧ _
    have hsplit : offset base s < offset base m.sequence ∧ s ∉ deliveredSeqs past ∧
        ∀ b, .snapshotBridged b ∈ past → offset base b < offset base s := by
      rcases hpending s hs with hold | ⟨hlow, hhigh⟩
      · obtain ⟨hlow, hrest⟩ := h.pending s hold
        exact ⟨by omega, hrest⟩
      · refine ⟨hhigh, fun hmem => ?_, fun b hb => ?_⟩
        · have := hhighest s (.inl hmem)
          omega
        · have := hhighest b (.inr hb)
          omega
    refine ⟨by omega, ?_, ?_⟩
    · rw [deliveredSeqs_append]
      simp only [deliveredSeqs_delivered, deliveredSeqs_nil, List.mem_append, List.mem_singleton]
      rintro (hmem | rfl)
      · exact hsplit.2.1 hmem
      · omega
    · intro b hb
      exact hsplit.2.2 b (by simpa using hb)
  · rw [deliveredSeqs_append]
    refine List.Nodup.append h.once (List.nodup_singleton _) ?_
    rw [deliveredSeqs_delivered, deliveredSeqs_nil, List.disjoint_singleton]
    intro hmem
    exact absurd (hbelow _ (.inl hmem)) (lt_irrefl _)
  · refine atEach_concat.mpr ⟨h.above_bridge, fun m' recovered' heq s hs => ?_⟩
    cases heq
    exact hbelow s (.inr hs)

theorem tracks_first (hseen : feed.seenFirst = false) (hwindow : offset base m.sequence < width) :
    Tracks base width (past ++ [.delivered m false])
      { feed with
        seenFirst := true
        expected := m.sequence + 1
        lastDelivered := m.sequence } := by
  obtain ⟨rfl, hpending⟩ := h.idle hseen
  refine ⟨?_, ?_, ?_, ?_, ?_, ?_⟩
  · intro hnot
    cases hnot
  · intro _
    refine ⟨m.sequence, reached_delivered.mpr rfl, rfl, hwindow, ?_⟩
    intro q hq
    rw [reached_delivered.mp hq]
  · intro _
    exact reached_delivered.mpr rfl
  · intro s hs
    rw [show _ = _ from hpending] at hs
    exact absurd hs ExtTreeSet.not_mem_empty
  · exact List.nodup_singleton _
  · refine atEach_concat.mpr ⟨h.above_bridge, fun m' recovered heq s hs => ?_⟩
    cases hs

theorem Tracks.recover (hseen : feed.seenFirst = true) (hmem : m.sequence ∈ feed.pendingGaps) :
    Tracks base width (past ++ [.delivered m true])
      { feed with
        pendingGaps := feed.pendingGaps.erase m.sequence
        lastDelivered := m.sequence } := by
  obtain ⟨hlow, hfresh, habove⟩ := h.pending m.sequence hmem
  refine ⟨?_, ?_, ?_, ?_, ?_, ?_⟩
  · intro hnot
    rw [show feed.seenFirst = false from hnot] at hseen
    cases hseen
  · -- the recovered message is below the cursor, which stays where it is
    intro _
    obtain ⟨top, htop, hexpected, htopWidth, hhighest⟩ := h.cursor hseen
    refine ⟨top, reached_append.mpr (.inl htop), hexpected, htopWidth, ?_⟩
    intro q hq
    rcases reached_append.mp hq with hq | hq
    · exact hhighest q hq
    · rw [reached_delivered.mp hq]
      rw [hexpected] at hlow
      by_cases hwrap : offset base top + 1 < 2 ^ 32
      · rw [offset_succ hwrap] at hlow
        omega
      · have := offset_lt base m.sequence
        omega
  · intro _
    exact reached_append.mpr (.inr (reached_delivered.mpr rfl))
  · intro s hs
    obtain ⟨hne, hs⟩ := ExtTreeSet.mem_erase.mp hs
    obtain ⟨hslow, hsfresh, hsabove⟩ := h.pending s hs
    refine ⟨hslow, ?_, ?_⟩
    · rw [deliveredSeqs_append]
      simp only [deliveredSeqs_delivered, deliveredSeqs_nil, List.mem_append, List.mem_singleton]
      rintro (hdelivered | rfl)
      · exact hsfresh hdelivered
      · exact hne (Std.LawfulEqCmp.compare_eq_iff_eq.mpr rfl)
    · intro b hb
      exact hsabove b (by simpa using hb)
  · rw [deliveredSeqs_append]
    refine List.Nodup.append h.once (List.nodup_singleton _) ?_
    rw [deliveredSeqs_delivered, deliveredSeqs_nil, List.disjoint_singleton]
    exact hfresh
  · refine atEach_concat.mpr ⟨h.above_bridge, fun m' recovered heq s hs => ?_⟩
    cases heq
    exact habove s hs

theorem Tracks.bridge (hwindow : offset base s < width)
    (habove : ∀ q, Reached past q → offset base q ≤ offset base s) :
    Tracks base width (past ++ [.snapshotBridged s])
      { feed with
        seenFirst := true
        expected := s + 1
        lastDelivered := s
        pendingGaps := ∅ } := by
  refine ⟨?_, ?_, ?_, ?_, ?_, ?_⟩
  · intro hnot
    cases hnot
  · intro _
    refine ⟨s, reached_append.mpr (.inr (reached_snapshotBridged.mpr rfl)), rfl, hwindow, ?_⟩
    intro q hq
    rcases reached_append.mp hq with hq | hq
    · exact habove q hq
    · rw [reached_snapshotBridged.mp hq]
  · intro _
    exact reached_append.mpr (.inr (reached_snapshotBridged.mpr rfl))
  · intro q hq
    exact absurd hq ExtTreeSet.not_mem_empty
  · rw [deliveredSeqs_append]
    simpa using h.once
  · refine atEach_concat.mpr ⟨h.above_bridge, fun m recovered heq => ?_⟩
    cases heq

end

variable {feed' : SequencedFeed} {call : Call} {out : List FeedEvent}

section

variable (h : Tracks base width past feed)
include h

theorem Tracks.offset_expected (hseen : feed.seenFirst = true) (hwidth : width < 2 ^ 31) :
    ∃ top, Reached past top ∧
      offset base feed.expected = offset base top + 1 ∧ offset base top < width ∧
      ∀ q, Reached past q → offset base q ≤ offset base top := by
  obtain ⟨top, htop, hexpected, htopWidth, hhighest⟩ := h.cursor hseen
  refine ⟨top, htop, ?_, htopWidth, hhighest⟩
  rw [hexpected]
  exact offset_succ (by omega)

theorem Tracks.gap_offsets (hseen : feed.seenFirst = true) (hwidth : width < 2 ^ 31)
    (hwindow : offset base m.sequence < width) (hafter : seqAfter m.sequence feed.expected) :
    offset base feed.expected ≤ offset base (m.sequence - 1) ∧
      offset base (m.sequence - 1) + 1 = offset base m.sequence := by
  obtain ⟨top, -, hexpected, htopWidth, -⟩ := h.offset_expected hseen hwidth
  have hlt := (seqAfter_iff base (by omega) (by omega)).mp hafter
  have hpred := offset_pred (by omega : 0 < offset base m.sequence)
  omega

/-- **Step.** A careful call in the window. -/
theorem Tracks.step (hwidth : width < 2 ^ 31) (hwindow : InWindow base width call)
    (hcareful : Careful feed call) (heffect : Effect feed call out feed') :
    Tracks base width (past ++ out) feed' := by
  cases heffect with
  | control m htype =>
    rw [List.append_nil]
    exact h
  | first m htype hseen => exact tracks_first h hseen (hwindow htype)
  | next m htype hseen heq =>
    refine h.advance hseen hwidth (hwindow htype) ?_ fun s hs => .inl hs
    rw [heq]
  | ahead m htype hseen hne hafter =>
    obtain ⟨hlow, hpred⟩ := h.gap_offsets hseen hwidth (hwindow htype) hafter
    have hquiet : Tracks base width (past ++ [.gapDetected feed.expected (m.sequence - 1)]) feed :=
      h.quiet hseen (fun _ _ heq => by cases heq) (fun _ heq => by cases heq)
    have hgap : m.sequence - 1 + 1 ≠ feed.expected := by
      rw [UInt32.sub_add_cancel]
      exact hne
    rw [show past ++ [FeedEvent.gapDetected feed.expected (m.sequence - 1), .delivered m false]
      = past ++ [.gapDetected feed.expected (m.sequence - 1)] ++ [.delivered m false] by simp]
    refine hquiet.advance hseen hwidth (hwindow htype) (by omega) fun s hs => ?_
    rcases mem_track hgap hs with hold | hnew
    · exact .inl hold
    · rw [between_iff hlow] at hnew
      exact .inr (by omega)
  | recovered m htype hseen hne hafter hmem => exact h.recover hseen hmem
  | duplicate m htype hseen hne hafter hmem =>
    exact h.quiet hseen (fun _ _ heq => by cases heq) (fun _ heq => by cases heq)
  | stale s hseen hafter =>
    rw [List.append_nil]
    exact h
  | bridged s hafter =>
    refine h.bridge hwindow fun q hq => ?_
    rcases hfirst : feed.seenFirst with _ | _
    · -- nothing was reached before the first call
      rw [(h.idle hfirst).1] at hq
      rcases hq with hq | hq <;> cases hq
    · obtain ⟨top, -, hexpected, htopWidth, hhighest⟩ := h.offset_expected hfirst hwidth
      have hnotBefore := hcareful hfirst (hafter hfirst)
      rw [seqAfter_iff base (by omega) (by have : _ < _ := hwindow; omega)] at hnotBefore
      have := hhighest q hq
      omega

theorem Tracks.forward (hwidth : width < 2 ^ 31) (hwindow : InWindow base width call)
    (hcareful : Careful feed call) (heffect : Effect feed call out feed')
    (hseen : feed.seenFirst = true) : offset base feed.expected ≤ offset base feed'.expected := by
  obtain ⟨top, -, hexpected, htopWidth, -⟩ := h.offset_expected hseen hwidth
  cases heffect with
  | control m htype => exact le_rfl
  | first m htype hnot =>
    rw [hnot] at hseen
    cases hseen
  | next m htype hseen heq =>
    show _ ≤ offset base (m.sequence + 1)
    rw [offset_succ (by have := hwindow htype; omega), heq]
    omega
  | ahead m htype hseen hne hafter =>
    obtain ⟨hlow, hpred⟩ := h.gap_offsets hseen hwidth (hwindow htype) hafter
    show _ ≤ offset base (m.sequence + 1)
    rw [offset_succ (by have := hwindow htype; omega)]
    omega
  | recovered m htype hseen hne hafter hmem => exact le_rfl
  | duplicate m htype hseen hne hafter hmem => exact le_rfl
  | stale s hseen hafter => exact le_rfl
  | bridged s hafter =>
    have hs : offset base s < width := hwindow
    have hnotBefore := hcareful hseen (hafter hseen)
    rw [seqAfter_iff base (by omega) (by omega)] at hnotBefore
    show _ ≤ offset base (s + 1)
    rw [offset_succ (by omega)]
    omega

theorem Tracks.stale_iff (hwidth : width < 2 ^ 31) (hwindow : offset base s < width) {q : UInt32}
    (hq : Reached past q) (hle : offset base s ≤ offset base q) :
    feed.applySnapshot s = ([], feed) ↔ Careful feed (.snapshot s) := by
  have hseen : feed.seenFirst = true := by
    rcases hfirst : feed.seenFirst with _ | _
    · rw [(h.idle hfirst).1] at hq
      rcases hq with hq | hq <;> cases hq
    · rfl
  obtain ⟨top, -, hexpected, htopWidth, hhighest⟩ := h.offset_expected hseen hwidth
  have hbefore : seqAfter feed.expected s := by
    have := hhighest q hq
    exact (seqAfter_iff base (by omega) (by omega)).mpr (by omega)
  rw [applySnapshot]
  constructor
  · intro hnone _ hafter
    rw [if_neg fun hstale => hstale.2 hafter] at hnone
    cases hnone
  · intro hcareful
    exact if_pos ⟨hseen, fun hafter => hcareful hseen hafter hbefore⟩

end

end

/-! ## Runs -/

section

variable {base : UInt32} {width : Nat} {maxReorder : UInt64} {calls : List Call} {call : Call}

/-- What careful calls keep. -/
structure Kept (base : UInt32) (width : Nat) (maxReorder : UInt64) (calls : List Call) : Prop where
  tracks : Tracks base width ((fresh maxReorder).events calls) ((fresh maxReorder).after calls)
  inOrder : InOrder base (fresh maxReorder) calls

theorem kept_nil : Kept base width maxReorder [] := by
  refine ⟨⟨fun _ => ⟨rfl, rfl⟩, ?_, ?_, ?_, List.nodup_nil, atEach_nil⟩,
    ⟨List.nodup_nil, atEach_nil, atEach_nil, atEach_nil⟩⟩
  · intro hseen
    cases hseen
  · intro hseen
    cases hseen
  · intro s hs
    exact absurd hs ExtTreeSet.not_mem_empty

theorem Kept.step (h : Kept base width maxReorder calls) (hwidth : width < 2 ^ 31)
    (hwindow : InWindow base width call)
    (hcareful : Careful ((fresh maxReorder).after calls) call) :
    Kept base width maxReorder (calls ++ [call]) := by
  have heffect := (step_effect (after_reorder maxReorder calls) call).1
  have htracks := h.tracks.step hwidth hwindow hcareful heffect
  rw [← events_concat, ← after_concat] at htracks
  refine ⟨htracks, htracks.once, htracks.above_bridge, ?_, ?_⟩
  · exact atEach_concat.mpr ⟨h.inOrder.forward,
      h.tracks.forward hwidth hwindow hcareful heffect⟩
  · refine atEach_concat.mpr ⟨h.inOrder.stale_ignored, ?_⟩
    rintro s rfl ⟨q, hq, hle⟩
    exact (h.tracks.stale_iff hwidth hwindow hq hle).mpr hcareful

theorem kept_of_careful (hwidth : width < 2 ^ 31)
    (hwindow : ∀ call ∈ calls, InWindow base width call)
    (hcareful : AtEach (fun before call => Careful ((fresh maxReorder).after before) call) calls) :
    Kept base width maxReorder calls := by
  induction calls using List.reverseRecOn with
  | nil => exact kept_nil
  | append_singleton calls call ih =>
    obtain ⟨hearlier, hlast⟩ := atEach_concat.mp hcareful
    refine (ih (fun c hc => hwindow c (List.mem_append_left _ hc)) hearlier).step hwidth ?_ hlast
    exact hwindow call (by simp)

theorem Kept.careful (h : Kept base width maxReorder calls) (hwidth : width < 2 ^ 31)
    (hwindow : InWindow base width call)
    (hgood : InOrder base (fresh maxReorder) (calls ++ [call])) :
    Careful ((fresh maxReorder).after calls) call := by
  cases call with
  | frame m => trivial
  | snapshot s =>
    intro hseen hafter hbefore
    have hs : offset base s < width := hwindow
    obtain ⟨top, htop, hexpected, htopWidth, -⟩ := h.tracks.offset_expected hseen hwidth
    rw [seqAfter_iff base (by omega) (by omega)] at hbefore
    have hle : offset base s ≤ offset base top := by omega
    have hnone := (atEach_concat.mp hgood.stale_ignored).2 s rfl ⟨top, htop, hle⟩
    have hcareful := (h.tracks.stale_iff hwidth hwindow htop hle).mp hnone
    exact hcareful hseen hafter ((seqAfter_iff base (by omega) (by omega)).mpr hbefore)

/-- **Run.** Inside one window the feed keeps its order at every point exactly when no snapshot of
    the run lies between the message delivered last and the highest one. -/
theorem in_order_iff (maxReorder : UInt64) (hwidth : width < 2 ^ 31) (calls : List Call)
    (hwindow : ∀ call ∈ calls, InWindow base width call) :
    (∀ before later, calls = before ++ later → InOrder base (fresh maxReorder) before)
      ↔ AtEach (fun before call => Careful ((fresh maxReorder).after before) call) calls := by
  refine prefixes_iff_atEach (A := fun calls => ∀ call ∈ calls, InWindow base width call)
    (K := Kept base width maxReorder) ?_ kept_nil (fun _ h => h.inOrder) ?_ ?_ hwindow
  · intro history x h call hcall
    exact h call (List.mem_append_left _ hcall)
  · intro history x h hkept hcareful
    exact hkept.step hwidth (h x (by simp)) hcareful
  · intro history x h hkept hgood
    exact hkept.careful hwidth (h x (by simp)) hgood

def payload (sequence : UInt32) : Call := .frame { sequence }

/-- A run over the end of the number range: sequences 1 and 2 are missing at first, 2 is recovered,
    and a snapshot at 7 bridges. -/
def wrappingRun : List Call :=
  [payload 0xFFFFFFFE, payload 0xFFFFFFFF, payload 0, payload 3, payload 2, .snapshot 7, payload 8]

theorem wrappingRun_in_order :
    deliveredSeqs ((fresh 64).events wrappingRun) = [0xFFFFFFFE, 0xFFFFFFFF, 0, 3, 2, 8] ∧
      InOrder 0xFFFFFFFE (fresh 64) wrappingRun := by
  have hwidth : 16 < 2 ^ 31 := by decide
  have hwindow : ∀ call ∈ wrappingRun, InWindow 0xFFFFFFFE 16 call := by decide
  refine ⟨by decide +kernel, ?_⟩
  exact (in_order_iff 64 hwidth wrappingRun hwindow).mpr (by decide +kernel) wrappingRun [] rfl

/-- A snapshot at 3 behind the recovery of 2, while 5 has been delivered. -/
def backwardRun : List Call :=
  [payload 1, payload 5, payload 2, .snapshot 3, payload 4, payload 5]

/-- The cursor falls back from 6 to 4, and sequence 5 is delivered twice. -/
theorem backwardRun_delivers_twice :
    (∀ call ∈ backwardRun, InWindow 1 16 call) ∧
      ((fresh 64).after (backwardRun.take 3)).expected = 6 ∧
      ((fresh 64).after (backwardRun.take 4)).expected = 4 ∧
      deliveredSeqs ((fresh 64).events backwardRun) = [1, 5, 2, 4, 5] ∧
      ¬ InOrder 1 (fresh 64) backwardRun := by
  have hseqs : deliveredSeqs ((fresh 64).events backwardRun) = [1, 5, 2, 4, 5] := by
    decide +kernel
  refine ⟨by decide, by decide +kernel, by decide +kernel, hseqs, fun h => ?_⟩
  have honce := h.once
  rw [hseqs] at honce
  exact absurd honce (by decide)

end

end LobReplay.Net.SequencedFeed
