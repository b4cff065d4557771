/-
  The sequenced feed assembler of cpp/net/src/mcast_feed.cpp (`SequencedFeed`): gap detection,
  deduplication, recovery of declared gaps and snapshot bridging over 32-bit sequence numbers.

  The NAK callback gets the range of each `GapDetected` event and returns nothing; it is left out.
  `reorder_` is never filled by the source, and the model keeps the cascade that would empty it.
-/

import LobReplay.Foundation.Bytes
import LobReplay.Foundation.Machine
import LobReplay.Foundation.Serial
import Std.Data.ExtTreeMap.Lemmas
import Std.Data.ExtTreeSet.Lemmas

namespace LobReplay.Net

open Foundation
open Std (ExtTreeMap ExtTreeSet)

/-! ## Data -/

/-- `MsgType`, a `uint8_t`: a frame may carry a code without a name. -/
structure MsgType where
  code : UInt8
  deriving DecidableEq

def MsgType.marketPayload : MsgType := ⟨1⟩
def MsgType.retransmitRequest : MsgType := ⟨2⟩
def MsgType.snapshotRequest : MsgType := ⟨3⟩
def MsgType.snapshot : MsgType := ⟨4⟩
def MsgType.heartbeat : MsgType := ⟨5⟩

/-- `TsDomain`, a `uint8_t`. -/
structure TsDomain where
  code : UInt8
  deriving DecidableEq

def TsDomain.unspecified : TsDomain := ⟨0⟩
def TsDomain.venueEventTime : TsDomain := ⟨1⟩
def TsDomain.hostMonotonic : TsDomain := ⟨2⟩

structure FeedMessage where
  version : UInt8 := 1
  type : MsgType := .marketPayload
  sessionId : UInt32 := 0
  sequence : UInt32 := 0
  timestampDomain : TsDomain := .unspecified
  timestampNs : UInt64 := 0
  payload : Bytes := []
  deriving DecidableEq

/-- `FeedEvent`, the kinds the assembler emits with the fields each sets. -/
inductive FeedEvent where
  | delivered (message : FeedMessage) (recovered : Bool)
  | gapDetected (first last : UInt32)
  | duplicateIgnored
  | snapshotBridged (snapshotSequence : UInt32)
  deriving DecidableEq

structure SequencedFeed where
  maxReorder : UInt64 := 64
  reorder : ExtTreeMap UInt32 FeedMessage := ∅
  /-- The declared sequences that may still be recovered. -/
  pendingGaps : ExtTreeSet UInt32 := ∅
  expected : UInt32 := 0
  seenFirst : Bool := false
  lastDelivered : UInt32 := 0

def kMaxTrackedGapSeqs : UInt64 := 4096

/-- `for (uint64_t s = first;; ++s) { set.insert((uint32_t)s); if (s == last) break; }`. From a
    `first` above `last` the 64-bit counter comes round to `last` after almost `2 ^ 64` steps. -/
def insertUpTo (set : ExtTreeSet UInt32) (first last : UInt32) : ExtTreeSet UInt32 :=
  (List.range ((last.toUInt64 - first.toUInt64).toNat + 1)).foldl
    (fun set i => set.insert (first + UInt32.ofNat i)) set

namespace SequencedFeed

/-! ## Calls -/

/-- `declare_gap`: a gap of at most 4096 sequences is tracked. -/
def declareGap (feed : SequencedFeed) (first last : UInt32) : List FeedEvent × SequencedFeed :=
  ([.gapDetected first last],
    if last.toUInt64 - first.toUInt64 + 1 ≤ kMaxTrackedGapSeqs then
      { feed with pendingGaps := insertUpTo feed.pendingGaps first last }
    else feed)

def deliver (feed : SequencedFeed) (seq : UInt32) (msg : FeedMessage) (recovered : Bool) :
    List FeedEvent × SequencedFeed :=
  ([.delivered msg recovered], { feed with lastDelivered := seq })

/-- The cascade of buffered messages from the expected one on. Each turn takes one message out of
    the buffer, so its size bounds the turns. -/
def cascade : Nat → SequencedFeed → List FeedEvent × SequencedFeed
  | 0, feed => ([], feed)
  | turns + 1, feed =>
    match feed.reorder[feed.expected]? with
    | none => ([], feed)
    | some msg =>
      let delivered := feed.deliver feed.expected msg false
      let rest := cascade turns { delivered.2 with
        reorder := feed.reorder.erase feed.expected
        expected := feed.expected + 1 }
      (delivered.1 ++ rest.1, rest.2)

def onFrame (feed : SequencedFeed) (m : FeedMessage) : List FeedEvent × SequencedFeed :=
  if m.type ≠ .marketPayload then ([], feed)
  else if feed.seenFirst = false then
    let delivered := deliver { feed with seenFirst := true, expected := m.sequence }
      m.sequence m false
    (delivered.1, { delivered.2 with expected := m.sequence + 1 })
  else if m.sequence = feed.expected then
    let delivered := feed.deliver m.sequence m false
    let feed := { delivered.2 with expected := feed.expected + 1 }
    let rest := cascade feed.reorder.size feed
    (delivered.1 ++ rest.1, rest.2)
  else if seqAfter m.sequence feed.expected then
    -- a frame farther ahead than the reorder window gives up the buffer
    let bridged := if feed.maxReorder < (m.sequence - feed.expected).toUInt64 then
      { feed with reorder := ∅ } else feed
    let declared := bridged.declareGap feed.expected (m.sequence - 1)
    let delivered := declared.2.deliver m.sequence m false
    (declared.1 ++ delivered.1, { delivered.2 with expected := m.sequence + 1 })
  else if m.sequence ∈ feed.pendingGaps then
    deliver { feed with pendingGaps := feed.pendingGaps.erase m.sequence } m.sequence m true
  else ([.duplicateIgnored], feed)

def applySnapshot (feed : SequencedFeed) (snapshotSequence : UInt32) :
    List FeedEvent × SequencedFeed :=
  if feed.seenFirst = true ∧ ¬ seqAfter snapshotSequence feed.lastDelivered then ([], feed)
  else ([.snapshotBridged snapshotSequence],
    { feed with
      seenFirst := true
      expected := snapshotSequence + 1
      lastDelivered := snapshotSequence
      reorder := ∅
      pendingGaps := ∅ })

inductive Call where
  | frame (m : FeedMessage)
  | snapshot (snapshotSequence : UInt32)
  deriving DecidableEq

def step (feed : SequencedFeed) : Call → List FeedEvent × SequencedFeed
  | .frame m => feed.onFrame m
  | .snapshot s => feed.applySnapshot s

def after (feed : SequencedFeed) (calls : List Call) : SequencedFeed := (run step feed calls).2

def events (feed : SequencedFeed) (calls : List Call) : List FeedEvent :=
  (run step feed calls).1.flatten

theorem after_concat (feed : SequencedFeed) (calls : List Call) (call : Call) :
    feed.after (calls ++ [call]) = ((feed.after calls).step call).2 := by
  rw [after, run_concat]
  rfl

theorem events_concat (feed : SequencedFeed) (calls : List Call) (call : Call) :
    feed.events (calls ++ [call]) = feed.events calls ++ ((feed.after calls).step call).1 := by
  rw [events, run_concat, List.flatten_concat]
  rfl

theorem after_append (feed : SequencedFeed) (calls later : List Call) :
    feed.after (calls ++ later) = (feed.after calls).after later := by
  rw [after, run_append]
  rfl

/-- `SequencedFeed(max_reorder_window)`. -/
def fresh (maxReorder : UInt64) : SequencedFeed := { maxReorder }

/-! ## Tracked gaps -/

variable {set : ExtTreeSet UInt32} {first last s : UInt32}

/-- The loop of a gap inserts the sequences from `first` on, as many as the 64-bit difference
    says. -/
theorem mem_insertUpTo :
    s ∈ insertUpTo set first last ↔
      s ∈ set ∨ ∃ i ≤ (last.toUInt64 - first.toUInt64).toNat, s = first + UInt32.ofNat i := by
  rw [insertUpTo]
  generalize (last.toUInt64 - first.toUInt64).toNat = n
  have hloop : ∀ n, s ∈ (List.range n).foldl
      (fun (set : ExtTreeSet UInt32) i => set.insert (first + UInt32.ofNat i)) set ↔
        s ∈ set ∨ ∃ i < n, s = first + UInt32.ofNat i := by
    intro n
    induction n with
    | zero => simp
    | succ n ih =>
      rw [List.range_succ, List.foldl_append, List.foldl_cons, List.foldl_nil,
        ExtTreeSet.mem_insert, ih, Std.LawfulEqCmp.compare_eq_iff_eq]
      constructor
      · rintro (rfl | h | ⟨i, hi, rfl⟩)
        · exact .inr ⟨n, by omega, rfl⟩
        · exact .inl h
        · exact .inr ⟨i, by omega, rfl⟩
      · rintro (h | ⟨i, hi, rfl⟩)
        · exact .inr (.inl h)
        · rcases Nat.lt_succ_iff_lt_or_eq.mp hi with hlt | rfl
          · exact .inr (.inr ⟨i, hlt, rfl⟩)
          · exact .inl rfl
  rw [hloop]
  simp only [Nat.lt_succ_iff]

/-- The 64-bit difference of two sequences. -/
theorem toUInt64_sub_toNat (last first : UInt32) :
    (last.toUInt64 - first.toUInt64).toNat
      = if first ≤ last then last.toNat - first.toNat
        else 2 ^ 64 - (first.toNat - last.toNat) := by
  have hfirst := first.toNat_lt
  have hlast := last.toNat_lt
  rw [UInt64.toNat_sub, UInt32.toNat_toUInt64, UInt32.toNat_toUInt64]
  simp only [UInt32.le_iff_toNat_le]
  split <;> omega

theorem eq_add_ofNat_sub (s first : UInt32) : s = first + UInt32.ofNat (s - first).toNat := by
  rw [UInt32.ofNat_toNat, UInt32.add_comm, UInt32.sub_add_cancel]

/-- A gap that does not cross the end of the number range: exactly its sequences. -/
theorem mem_insertUpTo_of_le (h : first ≤ last) :
    s ∈ insertUpTo set first last ↔ s ∈ set ∨ Between first last s := by
  have hlast := last.toNat_lt
  have hwidth : (last - first).toNat = last.toNat - first.toNat := by
    rw [UInt32.le_iff_toNat_le] at h
    rcases toNat_sub_cases last first with hsub | hsub <;> omega
  rw [mem_insertUpTo, toUInt64_sub_toNat, if_pos h, Between, hwidth]
  refine or_congr_right ⟨?_, ?_⟩
  · rintro ⟨i, hi, rfl⟩
    have hoffset : offset first (first + UInt32.ofNat i) = offset first first + i :=
      offset_add (by rw [offset, UInt32.sub_self]; show 0 + i < _; omega)
    rw [offset, offset, UInt32.sub_self] at hoffset
    rw [hoffset]
    show 0 + i ≤ _
    omega
  · intro hs
    exact ⟨(s - first).toNat, hs, eq_add_ofNat_sub s first⟩

/-- The tracked sequences after a gap is declared. -/
def track (pending : ExtTreeSet UInt32) (first last : UInt32) : ExtTreeSet UInt32 :=
  if last.toUInt64 - first.toUInt64 + 1 ≤ kMaxTrackedGapSeqs then insertUpTo pending first last
  else pending

/-- A gap the feed tracks does not cross the end of the number range. -/
theorem le_of_tracked (hne : last + 1 ≠ first)
    (h : last.toUInt64 - first.toUInt64 + 1 ≤ kMaxTrackedGapSeqs) : first ≤ last := by
  by_contra hlt
  have hfirst := first.toNat_lt
  have hlast := last.toNat_lt
  have hdiff := toUInt64_sub_toNat last first
  rw [if_neg hlt] at hdiff
  rw [UInt32.le_iff_toNat_le] at hlt
  rw [UInt64.le_iff_toNat_le, UInt64.toNat_add, hdiff] at h
  have hone : (1 : UInt64).toNat = 1 := rfl
  have hmax : kMaxTrackedGapSeqs.toNat = 4096 := rfl
  rw [hone, hmax] at h
  -- only the empty range has a difference this small
  apply hne
  apply UInt32.toNat_inj.mp
  rw [UInt32.toNat_add]
  show (last.toNat + 1) % 2 ^ 32 = _
  omega

/-- Only sequences of the gap are tracked. -/
theorem mem_track {pending : ExtTreeSet UInt32} (hne : last + 1 ≠ first)
    (h : s ∈ track pending first last) : s ∈ pending ∨ Between first last s := by
  rw [track] at h
  split at h
  · rename_i hsmall
    exact (mem_insertUpTo_of_le (le_of_tracked hne hsmall)).mp h
  · exact .inl h

/-! ## What a call can do -/

/-- Everything a call can do on a feed whose reorder buffer is empty: its events and the feed
    after it. -/
inductive Effect (feed : SequencedFeed) : Call → List FeedEvent → SequencedFeed → Prop
  | control (m : FeedMessage) (htype : m.type ≠ .marketPayload) : Effect feed (.frame m) [] feed
  | first (m : FeedMessage) (htype : m.type = .marketPayload) (hseen : feed.seenFirst = false) :
      Effect feed (.frame m) [.delivered m false]
        { feed with seenFirst := true, expected := m.sequence + 1, lastDelivered := m.sequence }
  | next (m : FeedMessage) (htype : m.type = .marketPayload) (hseen : feed.seenFirst = true)
      (heq : m.sequence = feed.expected) :
      Effect feed (.frame m) [.delivered m false]
        { feed with expected := m.sequence + 1, lastDelivered := m.sequence }
  | ahead (m : FeedMessage) (htype : m.type = .marketPayload) (hseen : feed.seenFirst = true)
      (hne : m.sequence ≠ feed.expected) (hafter : seqAfter m.sequence feed.expected) :
      Effect feed (.frame m) [.gapDetected feed.expected (m.sequence - 1), .delivered m false]
        { feed with
          pendingGaps := track feed.pendingGaps feed.expected (m.sequence - 1)
          expected := m.sequence + 1
          lastDelivered := m.sequence }
  | recovered (m : FeedMessage) (htype : m.type = .marketPayload) (hseen : feed.seenFirst = true)
      (hne : m.sequence ≠ feed.expected) (hafter : ¬ seqAfter m.sequence feed.expected)
      (hmem : m.sequence ∈ feed.pendingGaps) :
      Effect feed (.frame m) [.delivered m true]
        { feed with
          pendingGaps := feed.pendingGaps.erase m.sequence
          lastDelivered := m.sequence }
  | duplicate (m : FeedMessage) (htype : m.type = .marketPayload) (hseen : feed.seenFirst = true)
      (hne : m.sequence ≠ feed.expected) (hafter : ¬ seqAfter m.sequence feed.expected)
      (hmem : m.sequence ∉ feed.pendingGaps) :
      Effect feed (.frame m) [.duplicateIgnored] feed
  | stale (s : UInt32) (hseen : feed.seenFirst = true)
      (hafter : ¬ seqAfter s feed.lastDelivered) : Effect feed (.snapshot s) [] feed
  | bridged (s : UInt32) (hafter : feed.seenFirst = true → seqAfter s feed.lastDelivered) :
      Effect feed (.snapshot s) [.snapshotBridged s]
        { feed with
          seenFirst := true
          expected := s + 1
          lastDelivered := s
          pendingGaps := ∅ }

variable {feed : SequencedFeed}

section

variable (h : feed.reorder = ∅)
include h

theorem cascade_of_empty (turns : Nat) : cascade turns feed = ([], feed) := by
  cases turns with
  | zero => rfl
  | succ turns =>
    rw [cascade, h]
    simp

theorem reorder_clear : { feed with reorder := ∅ } = feed := by
  cases feed
  cases h
  rfl

theorem onFrame_effect (m : FeedMessage) :
    Effect feed (.frame m) (feed.onFrame m).1 (feed.onFrame m).2 := by
  rw [onFrame]
  by_cases htype : m.type = .marketPayload
  · rw [if_neg (not_not.mpr htype)]
    by_cases hseen : feed.seenFirst = false
    · rw [if_pos hseen]
      exact .first m htype hseen
    · rw [if_neg hseen]
      rw [Bool.not_eq_false] at hseen
      by_cases hne : m.sequence = feed.expected
      · rw [if_pos hne]
        dsimp only [deliver]
        rw [cascade_of_empty (by exact h), List.append_nil, ← hne]
        exact .next m htype hseen hne
      · rw [if_neg hne]
        by_cases hafter : seqAfter m.sequence feed.expected
        · rw [if_pos hafter]
          dsimp only [declareGap, deliver]
          rw [reorder_clear h, ite_self]
          have heffect := Effect.ahead m htype hseen hne hafter
          rw [track] at heffect
          split
          · rename_i hsmall
            rw [if_pos hsmall] at heffect
            exact heffect
          · rename_i hsmall
            rw [if_neg hsmall] at heffect
            exact heffect
        · rw [if_neg hafter]
          by_cases hmem : m.sequence ∈ feed.pendingGaps
          · rw [if_pos hmem]
            exact .recovered m htype hseen hne hafter hmem
          · rw [if_neg hmem]
            exact .duplicate m htype hseen hne hafter hmem
  · rw [if_pos htype]
    exact .control m htype

theorem applySnapshot_effect (s : UInt32) :
    Effect feed (.snapshot s) (feed.applySnapshot s).1 (feed.applySnapshot s).2 := by
  rw [applySnapshot]
  split
  · rename_i hstale
    exact .stale s hstale.1 hstale.2
  · rename_i hfresh
    have heffect : Effect feed (.snapshot s) _ _ := Effect.bridged s fun hseen => by
      by_contra hafter
      exact hfresh ⟨hseen, hafter⟩
    rw [← h] at *
    exact heffect

/-- **Step.** A call does one of the effects and leaves the reorder buffer empty. -/
theorem step_effect (call : Call) :
    Effect feed call (feed.step call).1 (feed.step call).2 ∧
      (feed.step call).2.reorder = ∅ := by
  have heffect : Effect feed call (feed.step call).1 (feed.step call).2 := by
    cases call with
    | frame m => exact onFrame_effect h m
    | snapshot s => exact applySnapshot_effect h s
  refine ⟨heffect, ?_⟩
  generalize (feed.step call).1 = out at heffect
  generalize (feed.step call).2 = feed' at heffect
  cases heffect <;> exact h

end

/-- **Run.** The reorder buffer stays empty. -/
theorem after_reorder (maxReorder : UInt64) (calls : List Call) :
    ((fresh maxReorder).after calls).reorder = ∅ := by
  have hkeep : ∀ (feed : SequencedFeed) (call : Call), feed.reorder = ∅ →
      (feed.step call).2.reorder = ∅ := fun _ call h => (step_effect h call).2
  have hfresh : (fresh maxReorder).reorder = ∅ := rfl
  exact run_stable hkeep hfresh calls

end SequencedFeed

end LobReplay.Net
