/-
  The gaps a dual-lane arbiter reports to its consumer. Each lane's pending set is compared with the
  sequences the lane declared missing and that no lane has delivered and no snapshot has covered
  since (`Missing`), and each consumer gap with the sequences missing on both lanes.

  The source reports the range from the first to the last sequence missing on both lanes, clears the
  pending sets on every snapshot, and walks a gap with a 64-bit counter.
-/

import LobReplay.Recovery.Arbiter

namespace LobReplay.Recovery.DualLaneArbiter

open Foundation Net
open Std (ExtTreeSet)

/-! ## Calls -/

inductive Call where
  | packet (lane : Lane) (m : FeedMessage)
  | snapshot (snapshotSequence : UInt32)
  deriving DecidableEq

def answer (arb : DualLaneArbiter) : Call → List ArbiterEvent × DualLaneArbiter
  | .packet lane m => arb.onPacket lane.number m
  | .snapshot s => arb.applySnapshot s

def afterCalls (calls : List Call) : DualLaneArbiter := (run answer {} calls).2

def laneEvents (arb : DualLaneArbiter) (lane : Lane) : Call → List FeedEvent
  | .packet l m => if l = lane then ((arb.lanes l).onFrame m).1 else []
  | .snapshot s => ((arb.lanes lane).applySnapshot s).1

def Declares (arb : DualLaneArbiter) (lane : Lane) (call : Call) (s : UInt32) : Prop :=
  ∃ first last, .gapDetected first last ∈ arb.laneEvents lane call ∧ Between first last s

def Delivers (arb : DualLaneArbiter) (lane : Lane) (call : Call) (s : UInt32) : Prop :=
  ∃ m recovered, .delivered m recovered ∈ arb.laneEvents lane call ∧ m.sequence = s

/-- The call is a snapshot at or above the sequence. -/
def Covers : Call → UInt32 → Prop
  | .packet _ _, _ => False
  | .snapshot q, s => ¬ seqAfter s q

/-! ## What the gaps should be -/

/-- The lane has declared the sequence missing, and no lane has delivered it and no snapshot has
    covered it since. -/
inductive Missing (lane : Lane) : List Call → UInt32 → Prop
  | declared {calls : List Call} {call : Call} {s : UInt32}
      (h : Declares (afterCalls calls) lane call s) : Missing lane (calls ++ [call]) s
  | still {calls : List Call} {call : Call} {s : UInt32} (h : Missing lane calls s)
      (hdelivers : ∀ l, ¬ Delivers (afterCalls calls) l call s) (hcovers : ¬ Covers call s) :
      Missing lane (calls ++ [call]) s

def HasDelivered (lane : Lane) (calls : List Call) (s : UInt32) : Prop :=
  ∃ before call later, calls = before ++ call :: later ∧
    Delivers (afterCalls before) lane call s

structure GapsExact (calls : List Call) : Prop where
  /-- The pending sequences of a lane are the ones missing on it. -/
  pending_iff : ∀ lane s, s ∈ (afterCalls calls).pending lane ↔ Missing lane calls s
  /-- A consumer gap holds only sequences that no lane has delivered so far. -/
  undelivered : AtEach (fun before call => ∀ first last,
    .consumerGap first last ∈ ((afterCalls before).answer call).1 →
      ∀ s, Between first last s → ∀ lane, ¬ HasDelivered lane before s) calls
  /-- A sequence that the second lane declares missing is in a consumer gap of that call. -/
  reported : AtEach (fun before call => ∀ lane s,
    Declares (afterCalls before) lane call s → Missing lane.other before s →
      ∃ first last, .consumerGap first last ∈ ((afterCalls before).answer call).1 ∧
        Between first last s) calls

/-- Between any two of the sequences there is no other. -/
def Consecutive (both : List UInt32) : Prop :=
  ∀ s₁ ∈ both, ∀ s₂ ∈ both, ∀ s, s₁ ≤ s → s ≤ s₂ → s ∈ both

/-- The call keeps the gaps exact. A packet whose lane declares a gap: the gap does not cross the
    end of the number range, the lane has not delivered any of it, and the sequences then missing on
    both lanes are consecutive. A snapshot: it covers everything pending. -/
def Exact (before : List Call) : Call → Prop
  | .packet lane m => ∀ first last,
      .gapDetected first last ∈ (afterCalls before).laneEvents lane (.packet lane m) →
      first ≤ last ∧ (∀ s, Between first last s → ¬ HasDelivered lane before s) ∧
        Consecutive (missingOnBoth ((afterCalls before).declared lane first last) lane)
  | .snapshot q => ∀ lane, ∀ s ∈ (afterCalls before).pending lane, ¬ seqAfter s q

/-! ## Ranges -/

variable {lane : Lane} {s : UInt32} {both : List UInt32}

theorem mem_missingOnBoth {pending : Lane → ExtTreeSet UInt32} :
    s ∈ missingOnBoth pending lane ↔ s ∈ pending lane ∧ s ∈ pending lane.other := by
  rw [missingOnBoth, List.mem_filter, ExtTreeSet.mem_toList, ExtTreeSet.contains_iff_mem]

theorem missingOnBoth_sorted (pending : Lane → ExtTreeSet UInt32) (lane : Lane) :
    (missingOnBoth pending lane).Pairwise (· < ·) :=
  ((@ExtTreeSet.ordered_toList _ _ (pending lane) _).imp fun h => Std.compare_eq_lt.mp h).filter _

theorem mem_consumerGap (hsorted : both.Pairwise (· < ·)) {first last : UInt32}
    (h : .consumerGap first last ∈ consumerGap both) :
    first ∈ both ∧ last ∈ both ∧ ∀ s ∈ both, first ≤ s ∧ s ≤ last := by
  cases both with
  | nil => cases h
  | cons a rest =>
    rw [consumerGap, List.mem_singleton] at h
    cases h
    refine ⟨List.mem_cons_self, List.getLast_mem _, fun s hs => ⟨?_, ?_⟩⟩
    · rcases List.mem_cons.mp hs with rfl | hs
      · exact UInt32.le_refl _
      · exact UInt32.le_of_lt (List.rel_of_pairwise_cons hsorted hs)
    · -- the last element is above all before it
      rcases List.eq_nil_or_concat (first :: rest) with hnil | ⟨front, final, heq⟩
      · cases hnil
      · rw [List.concat_eq_append] at heq
        simp only [heq, List.getLast_append_singleton]
        rw [heq] at hs hsorted
        rcases List.mem_append.mp hs with hs | hs
        · exact UInt32.le_of_lt
            ((List.pairwise_append.mp hsorted).2.2 s hs final (List.mem_singleton_self _))
        · rw [List.mem_singleton.mp hs]
          exact UInt32.le_refl _

theorem exists_consumerGap (h : s ∈ both) :
    ∃ first last, .consumerGap first last ∈ consumerGap both := by
  cases both with
  | nil => cases h
  | cons a rest => exact ⟨a, _, List.mem_singleton_self _⟩

/-! ## One call -/

section

variable {calls : List Call} {call : Call} {lane : Lane} {s : UInt32}

theorem afterCalls_concat (calls : List Call) (call : Call) :
    afterCalls (calls ++ [call]) = ((afterCalls calls).answer call).2 := by
  rw [afterCalls, run_concat]
  rfl

theorem unbuffered_afterCalls (calls : List Call) : (afterCalls calls).Unbuffered := by
  have hkeep : ∀ (arb : DualLaneArbiter) (call : Call), arb.Unbuffered →
      (arb.answer call).2.Unbuffered := by
    intro arb call h
    cases call with
    | packet lane m => exact h.onPacket lane m
    | snapshot q => exact h.applySnapshot q
  have hstart : ({} : DualLaneArbiter).Unbuffered := fun _ => rfl
  exact run_stable hkeep hstart calls

theorem missing_concat : Missing lane (calls ++ [call]) s ↔
    Declares (afterCalls calls) lane call s ∨ Missing lane calls s ∧
      (∀ l, ¬ Delivers (afterCalls calls) l call s) ∧ ¬ Covers call s := by
  constructor
  · intro h
    generalize hall : calls ++ [call] = all at h
    cases h with
    | declared h =>
      obtain ⟨rfl, hcall⟩ := List.append_inj' hall rfl
      cases hcall
      exact .inl h
    | still h hdelivers hcovers =>
      obtain ⟨rfl, hcall⟩ := List.append_inj' hall rfl
      cases hcall
      exact .inr ⟨h, hdelivers, hcovers⟩
  · rintro (h | ⟨h, hdelivers, hcovers⟩)
    · exact .declared h
    · exact .still h hdelivers hcovers

theorem hasDelivered_concat : HasDelivered lane (calls ++ [call]) s ↔
    HasDelivered lane calls s ∨ Delivers (afterCalls calls) lane call s := by
  constructor
  · rintro ⟨before, c, later, heq, h⟩
    rcases List.eq_nil_or_concat later with rfl | ⟨later, last, rfl⟩
    · obtain ⟨rfl, hcall⟩ := List.append_inj' heq rfl
      cases hcall
      exact .inr h
    · rw [List.concat_eq_append, ← List.cons_append, ← List.append_assoc] at heq
      exact .inl ⟨before, c, later, (List.append_inj' heq rfl).1, h⟩
  · rintro (⟨before, c, later, rfl, h⟩ | h)
    · exact ⟨before, c, later ++ [call], by simp, h⟩
    · exact ⟨calls, call, [], rfl, h⟩

theorem laneEvents_snapshot {arb : DualLaneArbiter} (h : arb.Unbuffered) (q : UInt32) :
    ¬ Declares arb lane (.snapshot q) s ∧ ¬ Delivers arb lane (.snapshot q) s := by
  have heffect := SequencedFeed.applySnapshot_effect (h lane) q
  rw [Declares, Delivers, laneEvents]
  generalize ((arb.lanes lane).applySnapshot q).1 = out at heffect ⊢
  generalize ((arb.lanes lane).applySnapshot q).2 = feed at heffect
  cases heffect with
  | stale => simp
  | bridged => simp

/-- What a call declares and delivers, with the pending sequences and the consumer gaps it leaves:
    nothing of either, a message, or a gap and a message. -/
inductive PacketOutcome (arb : DualLaneArbiter) (lane : Lane) (m : FeedMessage) : Prop
  | nothing (hdeclares : ∀ l s, ¬ Declares arb l (.packet lane m) s)
      (hdelivers : ∀ l s, ¬ Delivers arb l (.packet lane m) s)
      (hpending : (arb.answer (.packet lane m)).2.pending = arb.pending)
      (hgaps : ∀ first last, .consumerGap first last ∉ (arb.answer (.packet lane m)).1)
  | message (hdeclares : ∀ l s, ¬ Declares arb l (.packet lane m) s)
      (hdelivers : ∀ l s, Delivers arb l (.packet lane m) s ↔ l = lane ∧ s = m.sequence)
      (hpending : ∀ l, (arb.answer (.packet lane m)).2.pending l
        = (arb.pending l).erase m.sequence)
      (hgaps : ∀ first last, .consumerGap first last ∉ (arb.answer (.packet lane m)).1)
  | gap (first last : UInt32)
      (hevent : .gapDetected first last ∈ arb.laneEvents lane (.packet lane m))
      (hbefore : ¬ Between first last m.sequence)
      (hdeclares : ∀ l s, Declares arb l (.packet lane m) s ↔ l = lane ∧ Between first last s)
      (hdelivers : ∀ l s, Delivers arb l (.packet lane m) s ↔ l = lane ∧ s = m.sequence)
      (hpending : ∀ l, (arb.answer (.packet lane m)).2.pending l
        = (arb.declared lane first last l).erase m.sequence)
      (hgaps : ∀ f l, .consumerGap f l ∈ (arb.answer (.packet lane m)).1 ↔
        .consumerGap f l ∈ consumerGap (missingOnBoth (arb.declared lane first last) lane))

theorem packetOutcome {arb : DualLaneArbiter} (h : arb.Unbuffered) (lane : Lane)
    (m : FeedMessage) : PacketOutcome arb lane m := by
  by_cases htype : m.type = .marketPayload
  · have hshape := onPacket_shape (h lane) htype
    have hout : (arb.answer (.packet lane m)).1 = (arb.onPacket lane.number m).1 := rfl
    have hnext : (arb.answer (.packet lane m)).2 = (arb.onPacket lane.number m).2 := rfl
    generalize (arb.onPacket lane.number m).1 = out at hshape hout
    generalize (arb.onPacket lane.number m).2 = arb' at hshape hnext
    have hown : ∀ l, arb.laneEvents l (.packet lane m)
        = if lane = l then ((arb.lanes lane).onFrame m).1 else [] := fun _ => rfl
    cases hshape with
    | duplicate hlane =>
      refine .nothing (fun l s => ?_) (fun l s => ?_) (by rw [hnext]) (by simp [hout])
      · rw [Declares, hown, hlane]
        split <;> simp
      · rw [Delivers, hown, hlane]
        split <;> simp
    | message recovered hlane =>
      refine .message (fun l s => ?_) (fun l s => ?_) (fun l => by rw [hnext]) ?_
      · rw [Declares, hown, hlane]
        split <;> simp
      · rw [Delivers, hown, hlane]
        by_cases hl : lane = l
        · simp [hl, eq_comm]
        · simp [hl, Ne.symm hl]
      · rw [hout]
        intro first last
        split <;> simp
    | gap first last hlane hbefore =>
      refine .gap first last ?_ hbefore (fun l s => ?_) (fun l s => ?_) (fun l => by rw [hnext]) ?_
      · rw [hown, if_pos rfl, hlane]
        simp
      · rw [Declares, hown, hlane]
        by_cases hl : lane = l
        · simp [hl]
        · simp [hl, Ne.symm hl]
      · rw [Delivers, hown, hlane]
        by_cases hl : lane = l
        · simp [hl, eq_comm]
        · simp [hl, Ne.symm hl]
      · rw [hout]
        intro f l
        rw [List.cons_append, List.mem_cons, List.mem_append]
        split <;> simp
  · have hnone : arb.answer (.packet lane m) = ([], arb) := onPacket_control lane htype
    have hown : ∀ l, arb.laneEvents l (.packet lane m) = [] := by
      intro l
      rw [laneEvents, SequencedFeed.onFrame, if_pos htype, ite_self]
    refine .nothing (fun l s => ?_) (fun l s => ?_) (by rw [hnone]) (by simp [hnone])
    · rw [Declares, hown]
      simp
    · rw [Delivers, hown]
      simp

end

/-! ## Runs -/

section

variable {calls : List Call} {call : Call} {lane : Lane} {first last : UInt32}

/-- What exact calls keep: the gaps are exact, and a lane has delivered nothing it has pending. -/
structure KeepsGaps (calls : List Call) : Prop extends GapsExact calls where
  fresh : ∀ lane s, s ∈ (afterCalls calls).pending lane → ¬ HasDelivered lane calls s

theorem keepsGaps_nil : KeepsGaps [] := by
  refine ⟨⟨fun lane s => ⟨fun h => ?_, fun h => ?_⟩, atEach_nil, atEach_nil⟩, fun lane s h => ?_⟩
  · exact absurd h ExtTreeSet.not_mem_empty
  · generalize hnil : ([] : List Call) = none at h
    cases h <;> simp at hnil
  · exact absurd h ExtTreeSet.not_mem_empty

theorem mem_erase_iff {set : ExtTreeSet UInt32} {s t : UInt32} :
    s ∈ set.erase t ↔ s ≠ t ∧ s ∈ set := by
  rw [ExtTreeSet.mem_erase, ne_eq, Std.LawfulEqCmp.compare_eq_iff_eq, eq_comm]

/-- The pending sequences after a gap that does not cross the end of the number range. -/
theorem mem_declared {arb : DualLaneArbiter} {s : UInt32} (h : first ≤ last) (lane l : Lane) :
    s ∈ arb.declared lane first last l ↔
      s ∈ arb.pending l ∨ l = lane ∧ Between first last s := by
  rw [declared, Function.update_apply]
  split
  · rename_i heq
    rw [SequencedFeed.mem_insertUpTo_of_le h, heq]
    tauto
  · tauto

variable {m : FeedMessage}

section

variable (h : KeepsGaps calls)
include h

theorem KeepsGaps.nothing (hdeclares : ∀ l s, ¬ Declares (afterCalls calls) l (.packet lane m) s)
    (hdelivers : ∀ l s, ¬ Delivers (afterCalls calls) l (.packet lane m) s)
    (hpending : ((afterCalls calls).answer (.packet lane m)).2.pending = (afterCalls calls).pending)
    (hgaps : ∀ first last, .consumerGap first last
      ∉ ((afterCalls calls).answer (.packet lane m)).1) :
    KeepsGaps (calls ++ [.packet lane m]) := by
  refine ⟨⟨fun l s => ?_, ?_, ?_⟩, fun l s hs => ?_⟩
  · rw [afterCalls_concat, hpending, h.pending_iff, missing_concat]
    simp [hdeclares, hdelivers, Covers]
  · exact atEach_concat.mpr ⟨h.undelivered, fun first last hgap => absurd hgap (hgaps first last)⟩
  · exact atEach_concat.mpr ⟨h.reported, fun l s hdeclared => absurd hdeclared (hdeclares l s)⟩
  · rw [afterCalls_concat, hpending] at hs
    rw [hasDelivered_concat]
    exact fun hdelivered => hdelivered.elim (h.fresh l s hs) (hdelivers l s)

theorem KeepsGaps.message (hdeclares : ∀ l s, ¬ Declares (afterCalls calls) l (.packet lane m) s)
    (hdelivers : ∀ l s, Delivers (afterCalls calls) l (.packet lane m) s ↔
      l = lane ∧ s = m.sequence)
    (hpending : ∀ l, ((afterCalls calls).answer (.packet lane m)).2.pending l
      = ((afterCalls calls).pending l).erase m.sequence)
    (hgaps : ∀ first last, .consumerGap first last
      ∉ ((afterCalls calls).answer (.packet lane m)).1) :
    KeepsGaps (calls ++ [.packet lane m]) := by
  refine ⟨⟨fun l s => ?_, ?_, ?_⟩, fun l s hs => ?_⟩
  · rw [afterCalls_concat, hpending, mem_erase_iff, h.pending_iff, missing_concat]
    simp [hdeclares, hdelivers, Covers, and_comm]
  · exact atEach_concat.mpr ⟨h.undelivered, fun first last hgap => absurd hgap (hgaps first last)⟩
  · exact atEach_concat.mpr ⟨h.reported, fun l s hdeclared => absurd hdeclared (hdeclares l s)⟩
  · rw [afterCalls_concat, hpending, mem_erase_iff] at hs
    rw [hasDelivered_concat, hdelivers]
    exact fun hdelivered => hdelivered.elim (h.fresh l s hs.2) fun hd => hs.1 hd.2

theorem KeepsGaps.gap (hle : first ≤ last)
    (hnew : ∀ s, Between first last s → ¬ HasDelivered lane calls s)
    (hconsecutive : Consecutive
      (missingOnBoth ((afterCalls calls).declared lane first last) lane))
    (hbefore : ¬ Between first last m.sequence)
    (hdeclares : ∀ l s, Declares (afterCalls calls) l (.packet lane m) s ↔
      l = lane ∧ Between first last s)
    (hdelivers : ∀ l s, Delivers (afterCalls calls) l (.packet lane m) s ↔
      l = lane ∧ s = m.sequence)
    (hpending : ∀ l, ((afterCalls calls).answer (.packet lane m)).2.pending l
      = ((afterCalls calls).declared lane first last l).erase m.sequence)
    (hgaps : ∀ f l, .consumerGap f l ∈ ((afterCalls calls).answer (.packet lane m)).1 ↔
      .consumerGap f l ∈ consumerGap
        (missingOnBoth ((afterCalls calls).declared lane first last) lane)) :
    KeepsGaps (calls ++ [.packet lane m]) := by
  have hsorted := missingOnBoth_sorted ((afterCalls calls).declared lane first last) lane
  -- what a lane has pending once the gap is declared, it has not delivered
  have hfresh : ∀ l s, s ∈ (afterCalls calls).declared lane first last l →
      ¬ HasDelivered l calls s := by
    intro l s hs
    rcases (mem_declared hle lane l).mp hs with hold | ⟨rfl, hgap⟩
    · exact h.fresh l s hold
    · exact hnew s hgap
  refine ⟨⟨fun l s => ?_, ?_, ?_⟩, fun l s hs => ?_⟩
  · rw [afterCalls_concat, hpending, mem_erase_iff, mem_declared hle, missing_concat, hdeclares,
      h.pending_iff]
    simp only [hdelivers, Covers, not_false_eq_true, and_true]
    constructor
    · rintro ⟨hne, hs | hs⟩
      · exact .inr ⟨hs, fun l' hd => hne hd.2⟩
      · exact .inl hs
    · rintro (hs | ⟨hs, hne⟩)
      · refine ⟨fun heq => hbefore ?_, .inr hs⟩
        rw [← heq]
        exact hs.2
      · exact ⟨fun heq => hne lane ⟨rfl, heq⟩, .inl hs⟩
  · refine atEach_concat.mpr ⟨h.undelivered, fun f l hgap s hs => ?_⟩
    obtain ⟨hf, hl, hrange⟩ := mem_consumerGap hsorted ((hgaps f l).mp hgap)
    have hfl : f ≤ l := (hrange f hf).2
    have hboth := hconsecutive f hf l hl s ((between_iff_le hfl).mp hs).1
      ((between_iff_le hfl).mp hs).2
    obtain ⟨hown, hother⟩ := mem_missingOnBoth.mp hboth
    intro l'
    -- the two lanes
    by_cases hl' : l' = lane
    · rw [hl']
      exact hfresh lane s hown
    · have : l' = lane.other := by
        cases l' <;> cases lane <;> first | rfl | exact absurd rfl hl'
      rw [this]
      exact hfresh lane.other s hother
  · refine atEach_concat.mpr ⟨h.reported, fun l s hdeclared hmissing => ?_⟩
    obtain ⟨rfl, hs⟩ := (hdeclares l s).mp hdeclared
    have hboth : s ∈ missingOnBoth ((afterCalls calls).declared l first last) l := by
      refine mem_missingOnBoth.mpr ⟨(mem_declared hle l l).mpr (.inr ⟨rfl, hs⟩), ?_⟩
      exact (mem_declared hle l l.other).mpr (.inl ((h.pending_iff _ _).mpr hmissing))
    obtain ⟨f, e, hgap⟩ := exists_consumerGap hboth
    obtain ⟨hf, -, hrange⟩ := mem_consumerGap hsorted hgap
    exact ⟨f, e, (hgaps f e).mpr hgap, (between_iff_le (hrange f hf).2).mpr (hrange s hboth)⟩
  · rw [afterCalls_concat, hpending, mem_erase_iff] at hs
    rw [hasDelivered_concat, hdelivers]
    exact fun hdelivered => hdelivered.elim (hfresh l s hs.2) fun hd => hs.1 hd.2

theorem KeepsGaps.snapshot {q : UInt32}
    (hcovers : ∀ lane, ∀ s ∈ (afterCalls calls).pending lane, ¬ seqAfter s q) :
    KeepsGaps (calls ++ [.snapshot q]) := by
  have hnone := fun l s => @laneEvents_snapshot l s _ (unbuffered_afterCalls calls) q
  have hempty : ∀ l s, s ∉ (afterCalls (calls ++ [.snapshot q])).pending l := by
    intro l s hs
    rw [afterCalls_concat] at hs
    exact absurd hs ExtTreeSet.not_mem_empty
  refine ⟨⟨fun l s => ?_, ?_, ?_⟩, fun l s hs => absurd hs (hempty l s)⟩
  · refine iff_of_false (hempty l s) ?_
    rw [missing_concat]
    rintro (hdeclared | ⟨hmissing, -, hnot⟩)
    · exact (hnone l s).1 hdeclared
    · exact hnot (hcovers l s ((h.pending_iff l s).mpr hmissing))
  · refine atEach_concat.mpr ⟨h.undelivered, fun first last hgap => ?_⟩
    simp [answer, applySnapshot] at hgap
  · exact atEach_concat.mpr ⟨h.reported, fun l s hdeclared => absurd hdeclared (hnone l s).1⟩

/-- **Step.** -/
theorem KeepsGaps.step (hexact : Exact calls call) : KeepsGaps (calls ++ [call]) := by
  cases call with
  | packet lane m =>
    cases packetOutcome (unbuffered_afterCalls calls) lane m with
    | nothing hdeclares hdelivers hpending hgaps =>
      exact h.nothing hdeclares hdelivers hpending hgaps
    | message hdeclares hdelivers hpending hgaps =>
      exact h.message hdeclares hdelivers hpending hgaps
    | gap first last hevent hbefore hdeclares hdelivers hpending hgaps =>
      obtain ⟨hle, hnew, hconsecutive⟩ := hexact first last hevent
      exact h.gap hle hnew hconsecutive hbefore hdeclares hdelivers hpending hgaps
  | snapshot q => exact h.snapshot hexact

end

/-- **Run.** In a run of exact calls every consumer gap holds only sequences no lane has delivered,
    and every sequence that the second lane declares missing is reported. -/
theorem consumer_gaps_exact (calls : List Call) (h : AtEach Exact calls) :
    ∀ before later, calls = before ++ later → GapsExact before := by
  intro before later heq
  rw [heq] at h
  have hkept : ∀ calls, AtEach Exact calls → KeepsGaps calls := by
    intro calls
    induction calls using List.reverseRecOn with
    | nil => exact fun _ => keepsGaps_nil
    | append_singleton calls call ih =>
      intro h
      obtain ⟨hearlier, hlast⟩ := atEach_concat.mp h
      exact (ih hearlier).step hlast
  exact (hkept before h.of_append).toGapsExact

end

/-! ## Two runs -/

def deliveredBy (lane : Lane) (calls : List Call) : List UInt32 :=
  (transitions answer {} calls).flatMap fun t => (t.1.laneEvents lane t.2.1).filterMap fun
    | .delivered m _ => some m.sequence
    | _ => none

theorem hasDelivered_iff {calls : List Call} :
    HasDelivered lane calls s ↔ s ∈ deliveredBy lane calls := by
  induction calls using List.reverseRecOn with
  | nil =>
    refine ⟨?_, fun h => by cases h⟩
    rintro ⟨before, call, later, heq, -⟩
    simp at heq
  | append_singleton calls call ih =>
    rw [hasDelivered_concat, ih, deliveredBy, deliveredBy, transitions_concat, List.flatMap_append,
      List.mem_append]
    refine or_congr_right ?_
    rw [List.flatMap_singleton, List.mem_filterMap]
    constructor
    · rintro ⟨m, recovered, hmem, rfl⟩
      exact ⟨_, hmem, rfl⟩
    · rintro ⟨event, hmem, hevent⟩
      cases event with
      | delivered m recovered => exact ⟨m, recovered, hmem, Option.some.inj hevent⟩
      | _ => cases hevent

def payloadOn (lane : Lane) (sequence : UInt32) : Call := .packet lane { sequence }

/-- Both lanes lose 2 and 3. -/
def sharedLoss : List Call := [payloadOn .a 1, payloadOn .b 1, payloadOn .a 4, payloadOn .b 4]

theorem eq_two_or_three (hlow : 2 ≤ s) (hhigh : s ≤ 3) : s = 2 ∨ s = 3 := by
  rw [UInt32.le_iff_toNat_le] at hlow hhigh
  have hlow : 2 ≤ s.toNat := hlow
  have hhigh : s.toNat ≤ 3 := hhigh
  have hcases : s.toNat = 2 ∨ s.toNat = 3 := by omega
  exact hcases.imp (fun h => UInt32.toNat_inj.mp h) (fun h => UInt32.toNat_inj.mp h)

theorem exact_of_gap {before : List Call} {m : FeedMessage}
    (hevents : (afterCalls before).laneEvents lane (.packet lane m)
      = [.gapDetected 2 3, .delivered m false])
    (hdelivered : deliveredBy lane before = [1])
    (hboth : missingOnBoth ((afterCalls before).declared lane 2 3) lane = both)
    (hcases : both = [] ∨ both = [2, 3]) : Exact before (.packet lane m) := by
  intro first last hgap
  rw [hevents] at hgap
  simp only [List.mem_cons, FeedEvent.gapDetected.injEq, reduceCtorEq, List.not_mem_nil,
    or_false] at hgap
  obtain ⟨rfl, rfl⟩ := hgap
  refine ⟨by decide, fun s hs => ?_, ?_⟩
  · rw [hasDelivered_iff, hdelivered, List.mem_singleton]
    rintro rfl
    exact absurd hs (by decide)
  · rw [hboth]
    intro s₁ h₁ s₂ h₂ s hlow hhigh
    rcases hcases with rfl | rfl
    · cases h₁
    · have hlow : 2 ≤ s := by
        rcases List.mem_cons.mp h₁ with rfl | h₁
        · exact hlow
        · rw [List.mem_singleton.mp h₁] at hlow
          exact UInt32.le_trans (by decide) hlow
      have hhigh : s ≤ 3 := by
        rcases List.mem_cons.mp h₂ with rfl | h₂
        · exact UInt32.le_trans hhigh (by decide)
        · rw [List.mem_singleton.mp h₂] at hhigh
          exact hhigh
      rcases eq_two_or_three hlow hhigh with rfl | rfl
      · decide
      · decide

theorem sharedLoss_exact : AtEach Exact sharedLoss := by
  rw [show sharedLoss = [] ++ [payloadOn .a 1] ++ [payloadOn .b 1] ++ [payloadOn .a 4]
    ++ [payloadOn .b 4] from rfl]
  simp only [atEach_concat]
  refine ⟨⟨⟨⟨atEach_nil, ?_⟩, ?_⟩, ?_⟩, ?_⟩
  · intro first last hgap
    rw [show (afterCalls []).laneEvents .a (.packet .a { sequence := 1 })
      = [.delivered { sequence := 1 } false] by decide +kernel] at hgap
    simp at hgap
  · intro first last hgap
    rw [show (afterCalls ([] ++ [payloadOn .a 1])).laneEvents .b (.packet .b { sequence := 1 })
      = [.delivered { sequence := 1 } false] by decide +kernel] at hgap
    simp at hgap
  · exact exact_of_gap (by decide +kernel) (by decide +kernel) rfl (.inl (by decide +kernel))
  · exact exact_of_gap (by decide +kernel) (by decide +kernel) rfl (.inr (by decide +kernel))

/-- The second lane's gap is reported to the consumer. -/
theorem sharedLoss_reported :
    ((afterCalls (sharedLoss.take 3)).answer (payloadOn .b 4)).1 =
        [.laneGapTyped .b 2 3, .consumerGap 2 3] ∧
      GapsExact sharedLoss := by
  refine ⟨by decide +kernel, ?_⟩
  exact consumer_gaps_exact sharedLoss sharedLoss_exact sharedLoss [] rfl

/-- Both lanes lose 2 and 4, and deliver 3. -/
def splitLoss : List Call :=
  [payloadOn .a 1, payloadOn .a 3, payloadOn .a 5, payloadOn .b 1, payloadOn .b 3]

/-- The consumer gap of the last packet runs over 3, which both lanes have delivered. -/
theorem splitLoss_reports_delivered :
    ((afterCalls splitLoss).answer (payloadOn .b 5)).1 =
        [.laneGapTyped .b 4 4, .consumerGap 2 4] ∧
      3 ∈ deliveredBy .a splitLoss ∧ 3 ∈ deliveredBy .b splitLoss ∧
      ¬ GapsExact (splitLoss ++ [payloadOn .b 5]) := by
  have hlast : ((afterCalls splitLoss).answer (payloadOn .b 5)).1 =
      [.laneGapTyped .b 4 4, .consumerGap 2 4] := by
    decide +kernel
  have hdelivered : 3 ∈ deliveredBy .a splitLoss := by decide +kernel
  refine ⟨hlast, hdelivered, by decide +kernel, fun h => ?_⟩
  refine (atEach_concat.mp h.undelivered).2 2 4 ?_ 3 (by decide) .a (hasDelivered_iff.mpr hdelivered)
  rw [hlast]
  simp

end LobReplay.Recovery.DualLaneArbiter
