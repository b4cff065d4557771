/-
  The union a dual-lane arbiter hands on. Both lanes carry one feed, each with its own losses,
  repetitions and order; a packet is a lane and a position of the feed, and its sequence number is
  the position modulo `2 ^ 32`.

  The arbiter remembers the sequence numbers it has handed out for good, so a position whose number
  was used by an earlier position is never handed out.
-/

import LobReplay.Recovery.Arbiter
import Mathlib.Data.List.Perm.Basic
import Mathlib.Data.List.Nodup

namespace LobReplay.Recovery

open Foundation Net
open Std (ExtTreeSet)

/-! ## Packets of a feed -/

/-- The feed both lanes carry: the message at each position. -/
structure Content where
  message : Nat → FeedMessage
  sequence_eq : ∀ p, (message p).sequence = UInt32.ofNat p
  type_eq : ∀ p, (message p).type = .marketPayload

/-- A packet: the message at a position, on a lane. -/
structure Packet where
  lane : Lane
  position : Nat
  deriving DecidableEq

def deliveredMessages (events : List ArbiterEvent) : List FeedMessage :=
  events.filterMap fun
    | .delivered m _ => some m
    | _ => none

@[simp] theorem deliveredMessages_append (events later : List ArbiterEvent) :
    deliveredMessages (events ++ later) = deliveredMessages events ++ deliveredMessages later :=
  List.filterMap_append

@[simp] theorem deliveredMessages_nil : deliveredMessages [] = [] := rfl

@[simp] theorem deliveredMessages_delivered (m : FeedMessage) (lane : Lane) :
    deliveredMessages [.delivered m lane] = [m] := rfl

@[simp] theorem deliveredMessages_laneGapTyped (lane : Lane) (first last : UInt32)
    (events : List ArbiterEvent) :
    deliveredMessages (.laneGapTyped lane first last :: events) = deliveredMessages events := rfl

@[simp] theorem deliveredMessages_consumerGap (both : List UInt32) :
    deliveredMessages (DualLaneArbiter.consumerGap both) = [] := by
  cases both <;> rfl

namespace DualLaneArbiter

variable (content : Content)

def step (arb : DualLaneArbiter) (packet : Packet) : List ArbiterEvent × DualLaneArbiter :=
  arb.onPacket packet.lane.number (content.message packet.position)

def after (packets : List Packet) : DualLaneArbiter := (run (step content) {} packets).2

def handedOut (packets : List Packet) : List FeedMessage :=
  deliveredMessages (run (step content) {} packets).1.flatten

/-- The feed of a lane delivers the message at a position. -/
def FeedDelivers (feed : SequencedFeed) (p : Nat) : Prop :=
  ∃ recovered, .delivered (content.message p) recovered ∈ (feed.onFrame (content.message p)).1

instance (feed : SequencedFeed) (p : Nat) : Decidable (FeedDelivers content feed p) :=
  inferInstanceAs (Decidable (∃ _, _))

def LaneDelivers (arb : DualLaneArbiter) (packet : Packet) : Prop :=
  FeedDelivers content (arb.lanes packet.lane) packet.position

instance (arb : DualLaneArbiter) (packet : Packet) : Decidable (LaneDelivers content arb packet) :=
  inferInstanceAs (Decidable (FeedDelivers _ _ _))

/-- The positions the lanes have delivered, in order. -/
def lanePositions (packets : List Packet) : List Nat :=
  (transitions (step content) {} packets).filterMap fun t =>
    if LaneDelivers content t.1 t.2.1 then some t.2.1.position else none

/-- The positions handed on, in order. -/
def deliveredPositions (packets : List Packet) : List Nat :=
  (transitions (step content) {} packets).filterMap fun t =>
    if deliveredMessages t.2.2.1 = [] then none else some t.2.1.position

/-- Each message a lane delivers for a position not handed on yet makes exactly one delivered
    event, and nothing else does. -/
def ExactlyOnce (packets : List Packet) : Prop :=
  AtEach (fun before packet =>
    deliveredMessages (step content (after content before) packet).1 =
      if LaneDelivers content (after content before) packet ∧
          packet.position ∉ deliveredPositions content before then
        [content.message packet.position]
      else []) packets

def lanePackets (lane : Lane) (packets : List Packet) : List Nat :=
  (packets.filter fun packet => packet.lane = lane).map Packet.position

def SameLanes (packets packets' : List Packet) : Prop :=
  ∀ lane, lanePackets lane packets = lanePackets lane packets'

/-- The lanes deliver no two different positions with one sequence number. -/
def NoReuse (packets : List Packet) : Prop :=
  ∀ p ∈ lanePositions content packets, ∀ q ∈ lanePositions content packets,
    p % 2 ^ 32 = q % 2 ^ 32 → p = q

/-! ## One packet -/

section

variable {arb : DualLaneArbiter}

theorem ofNat_eq_iff {p q : Nat} : UInt32.ofNat p = UInt32.ofNat q ↔ p % 2 ^ 32 = q % 2 ^ 32 := by
  rw [← UInt32.toNat_inj, UInt32.toNat_ofNat', UInt32.toNat_ofNat']

/-- **Step.** What a packet hands on, and what the arbiter remembers of it. -/
theorem step_delivered (h : arb.Unbuffered) (packet : Packet) :
    deliveredMessages (step content arb packet).1 =
        (if LaneDelivers content arb packet ∧ UInt32.ofNat packet.position ∉ arb.delivered then
          [content.message packet.position] else []) ∧
      (step content arb packet).2.delivered =
        (if LaneDelivers content arb packet then
          arb.delivered.insert (UInt32.ofNat packet.position) else arb.delivered) := by
  have hshape := onPacket_shape (h packet.lane) (content.type_eq packet.position)
  have hdelivers : LaneDelivers content arb packet ↔ ∃ recovered,
      .delivered (content.message packet.position) recovered
        ∈ ((arb.lanes packet.lane).onFrame (content.message packet.position)).1 := Iff.rfl
  rw [step, ← content.sequence_eq packet.position]
  generalize (arb.onPacket packet.lane.number (content.message packet.position)).1 = out at hshape ⊢
  generalize (arb.onPacket packet.lane.number (content.message packet.position)).2 = arb'
    at hshape ⊢
  cases hshape with
  | duplicate hlane =>
    have hno : ¬ LaneDelivers content arb packet := by simp [hdelivers, hlane]
    simp [hno]
  | message recovered hlane =>
    have hyes : LaneDelivers content arb packet := by simp [hdelivers, hlane]
    by_cases hmem : (content.message packet.position).sequence ∈ arb.delivered
    · simp [hyes, hmem]
    · simp [hyes, hmem]
  | gap first last hlane =>
    have hyes : LaneDelivers content arb packet := by simp [hdelivers, hlane]
    by_cases hmem : (content.message packet.position).sequence ∈ arb.delivered
    · simp [hyes, hmem]
    · simp [hyes, hmem]

theorem step_lanes (h : arb.Unbuffered) (packet : Packet) :
    (step content arb packet).2.lanes = arb.fed packet.lane (content.message packet.position) :=
  onPacket_lanes h packet.lane (content.type_eq packet.position)

end

/-! ## Runs -/

section

variable {packets : List Packet} {packet : Packet} {packets' : List Packet}

theorem after_concat (packets : List Packet) (packet : Packet) :
    after content (packets ++ [packet]) = (step content (after content packets) packet).2 := by
  rw [after, run_concat]
  rfl

theorem unbuffered_after (packets : List Packet) : (after content packets).Unbuffered := by
  have hstart : ({} : DualLaneArbiter).Unbuffered := fun _ => rfl
  have hkeep : ∀ (arb : DualLaneArbiter) (packet : Packet), arb.Unbuffered →
      (step content arb packet).2.Unbuffered := fun _ packet h => h.onPacket packet.lane _
  exact run_stable hkeep hstart packets

def HandsOn (packets : List Packet) (packet : Packet) : Prop :=
  LaneDelivers content (after content packets) packet ∧
    UInt32.ofNat packet.position ∉ (after content packets).delivered

instance (packets : List Packet) (packet : Packet) : Decidable (HandsOn content packets packet) :=
  inferInstanceAs (Decidable (_ ∧ _))

theorem step_after (packets : List Packet) (packet : Packet) :
    deliveredMessages (step content (after content packets) packet).1 =
      if HandsOn content packets packet then [content.message packet.position] else [] :=
  (step_delivered content (unbuffered_after content packets) packet).1

theorem handedOut_concat (packets : List Packet) (packet : Packet) :
    handedOut content (packets ++ [packet]) = handedOut content packets ++
      if HandsOn content packets packet then [content.message packet.position] else [] := by
  rw [handedOut, run_concat, List.flatten_concat, deliveredMessages_append]
  exact congrArg _ (step_after content packets packet)

theorem lanePositions_concat (packets : List Packet) (packet : Packet) :
    lanePositions content (packets ++ [packet]) = lanePositions content packets ++
      if LaneDelivers content (after content packets) packet then [packet.position] else [] := by
  rw [lanePositions, transitions_concat, List.filterMap_append]
  refine congrArg _ ?_
  show [_].filterMap _ = _
  rw [List.filterMap_cons, List.filterMap_nil]
  by_cases h : LaneDelivers content (after content packets) packet
  · have h' : LaneDelivers content (run (step content) {} packets).2 packet := h
    simp only [if_pos h, if_pos h']
  · have h' : ¬ LaneDelivers content (run (step content) {} packets).2 packet := h
    simp only [if_neg h, if_neg h']

theorem deliveredPositions_concat (packets : List Packet) (packet : Packet) :
    deliveredPositions content (packets ++ [packet]) = deliveredPositions content packets ++
      if HandsOn content packets packet then [packet.position] else [] := by
  rw [deliveredPositions, transitions_concat, List.filterMap_append]
  refine congrArg _ ?_
  rw [List.filterMap_cons, List.filterMap_nil]
  have hstep : deliveredMessages (step content (run (step content) {} packets).2 packet).1 =
      if HandsOn content packets packet then [content.message packet.position] else [] :=
    step_after content packets packet
  dsimp only
  rw [hstep]
  by_cases h : HandsOn content packets packet
  · simp [h]
  · simp [h]

/-- What is handed on, against what the lanes deliver: one position for each sequence number. -/
structure Union (packets : List Packet) : Prop where
  delivered_iff : ∀ s, s ∈ (after content packets).delivered ↔
    ∃ p ∈ deliveredPositions content packets, UInt32.ofNat p = s
  mem_lane : ∀ p ∈ deliveredPositions content packets, p ∈ lanePositions content packets
  covers : ∀ p ∈ lanePositions content packets, ∃ q ∈ deliveredPositions content packets,
    UInt32.ofNat q = UInt32.ofNat p
  apart : (deliveredPositions content packets).Pairwise fun p q => UInt32.ofNat p ≠ UInt32.ofNat q
  handedOut_eq : handedOut content packets
    = (deliveredPositions content packets).map content.message

/-- The sequence numbers remembered after one more packet. -/
theorem mem_delivered_concat {s : UInt32} :
    s ∈ (after content (packets ++ [packet])).delivered ↔
      s ∈ (after content packets).delivered ∨
        LaneDelivers content (after content packets) packet ∧
          UInt32.ofNat packet.position = s := by
  rw [after_concat, (step_delivered content (unbuffered_after content packets) packet).2]
  split
  · rename_i hlane
    rw [ExtTreeSet.mem_insert, Std.LawfulEqCmp.compare_eq_iff_eq]
    tauto
  · tauto

theorem mem_lanePositions_concat {p : Nat} :
    p ∈ lanePositions content (packets ++ [packet]) ↔ p ∈ lanePositions content packets ∨
      LaneDelivers content (after content packets) packet ∧ p = packet.position := by
  rw [lanePositions_concat, List.mem_append]
  split
  · rename_i hlane
    simp [hlane]
  · rename_i hlane
    simp [hlane]

variable {content}

/-- A packet that hands nothing on: its lane does not deliver it, or its number was used. -/
theorem Union.not_handed (h : Union content packets) (hno : ¬ HandsOn content packets packet) :
    Union content (packets ++ [packet]) := by
  have hD := deliveredPositions_concat content packets packet
  rw [if_neg hno, List.append_nil] at hD
  have hused : LaneDelivers content (after content packets) packet →
      UInt32.ofNat packet.position ∈ (after content packets).delivered := by
    intro hlane
    by_contra hmem
    exact hno ⟨hlane, hmem⟩
  refine ⟨fun s => ?_, fun p hp => ?_, fun p hp => ?_, ?_, ?_⟩
  · rw [mem_delivered_concat, hD, ← h.delivered_iff]
    refine or_iff_left_of_imp ?_
    rintro ⟨hlane, rfl⟩
    exact hused hlane
  · rw [hD] at hp
    exact (mem_lanePositions_concat content).mpr (.inl (h.mem_lane p hp))
  · rw [hD]
    rcases (mem_lanePositions_concat content).mp hp with hp | ⟨hlane, rfl⟩
    · exact h.covers p hp
    · exact (h.delivered_iff _).mp (hused hlane)
  · rw [hD]
    exact h.apart
  · rw [handedOut_concat, if_neg hno, List.append_nil, hD]
    exact h.handedOut_eq

theorem Union.handed (h : Union content packets) (hyes : HandsOn content packets packet) :
    Union content (packets ++ [packet]) := by
  have hD := deliveredPositions_concat content packets packet
  rw [if_pos hyes] at hD
  refine ⟨fun s => ?_, fun p hp => ?_, fun p hp => ?_, ?_, ?_⟩
  · rw [mem_delivered_concat, hD, h.delivered_iff]
    simp only [List.mem_append, List.mem_singleton]
    constructor
    · rintro (⟨p, hp, rfl⟩ | ⟨-, rfl⟩)
      · exact ⟨p, .inl hp, rfl⟩
      · exact ⟨packet.position, .inr rfl, rfl⟩
    · rintro ⟨p, hp | rfl, rfl⟩
      · exact .inl ⟨p, hp, rfl⟩
      · exact .inr ⟨hyes.1, rfl⟩
  · rw [hD, List.mem_append, List.mem_singleton] at hp
    refine (mem_lanePositions_concat content).mpr ?_
    rcases hp with hp | rfl
    · exact .inl (h.mem_lane p hp)
    · exact .inr ⟨hyes.1, rfl⟩
  · rw [hD]
    rcases (mem_lanePositions_concat content).mp hp with hp | ⟨-, rfl⟩
    · obtain ⟨q, hq, heq⟩ := h.covers p hp
      exact ⟨q, List.mem_append_left _ hq, heq⟩
    · exact ⟨packet.position, by simp, rfl⟩
  · rw [hD, List.pairwise_append]
    refine ⟨h.apart, List.pairwise_singleton _ _, fun p hp q hq heq => ?_⟩
    rw [List.mem_singleton] at hq
    rw [hq] at heq
    exact hyes.2 ((h.delivered_iff _).mpr ⟨p, hp, heq⟩)
  · rw [handedOut_concat, if_pos hyes, hD, List.map_append, h.handedOut_eq]
    rfl

variable (content)

/-- **Run.** -/
theorem union_after (packets : List Packet) : Union content packets := by
  induction packets using List.reverseRecOn with
  | nil =>
    refine ⟨fun s => ?_, fun p hp => ?_, fun p hp => ?_, List.Pairwise.nil, rfl⟩
    · show s ∈ (∅ : ExtTreeSet UInt32) ↔ ∃ p ∈ [], _
      simp
    · cases hp
    · cases hp
  | append_singleton packets packet ih =>
    by_cases h : HandsOn content packets packet
    · exact ih.handed h
    · exact ih.not_handed h

/-! ## Exactly once -/

variable {content}

theorem NoReuse.of_append {later : List Packet} (h : NoReuse content (packets ++ later)) :
    NoReuse content packets := by
  induction later using List.reverseRecOn with
  | nil =>
    rw [List.append_nil] at h
    exact h
  | append_singleton later packet ih =>
    rw [← List.append_assoc] at h
    refine ih fun p hp q hq => ?_
    exact h p ((mem_lanePositions_concat content).mpr (.inl hp)) q
      ((mem_lanePositions_concat content).mpr (.inl hq))

theorem NoReuse.handsOn_iff (h : NoReuse content (packets ++ [packet])) :
    HandsOn content packets packet ↔ LaneDelivers content (after content packets) packet ∧
      packet.position ∉ deliveredPositions content packets := by
  have hunion := union_after content packets
  refine and_congr_right fun hlane => not_congr ?_
  rw [hunion.delivered_iff]
  constructor
  · rintro ⟨q, hq, heq⟩
    have hsame := h q ((mem_lanePositions_concat content).mpr (.inl (hunion.mem_lane q hq)))
      packet.position ((mem_lanePositions_concat content).mpr (.inr ⟨hlane, rfl⟩))
      (ofNat_eq_iff.mp heq)
    rw [← hsame]
    exact hq
  · intro hmem
    exact ⟨packet.position, hmem, rfl⟩

theorem exactlyOnce_of_noReuse (h : NoReuse content packets) : ExactlyOnce content packets := by
  intro before packet later heq
  rw [heq, List.append_cons] at h
  have hiff := h.of_append.handsOn_iff
  rw [step_after]
  by_cases hyes : HandsOn content before packet
  · rw [if_pos hyes, if_pos (hiff.mp hyes)]
  · rw [if_neg hyes, if_neg fun h => hyes (hiff.mpr h)]

theorem noReuse_of_exactlyOnce (h : ExactlyOnce content packets) : NoReuse content packets := by
  induction packets using List.reverseRecOn with
  | nil =>
    intro p hp
    cases hp
  | append_singleton packets packet ih =>
    obtain ⟨hearlier, hlast⟩ := atEach_concat.mp h
    have hold := ih hearlier
    have hunion := union_after content packets
    -- a position the lanes delivered before, with the number of the new packet
    have hnew : LaneDelivers content (after content packets) packet →
        ∀ q ∈ lanePositions content packets, q % 2 ^ 32 = packet.position % 2 ^ 32 →
          q = packet.position := by
      intro hlane q hq heq
      obtain ⟨r, hr, hrq⟩ := hunion.covers q hq
      have hrq := hold r (hunion.mem_lane r hr) q hq (ofNat_eq_iff.mp hrq)
      by_cases hmem : packet.position ∈ deliveredPositions content packets
      · exact hold q hq packet.position (hunion.mem_lane _ hmem) heq
      · -- it would have to be handed on, but its number is taken
        have hno : ¬ HandsOn content packets packet := by
          intro hyes
          refine hyes.2 ((hunion.delivered_iff _).mpr ⟨r, hr, ?_⟩)
          rw [hrq]
          exact ofNat_eq_iff.mpr heq
        rw [step_after, if_neg hno, if_pos ⟨hlane, hmem⟩] at hlast
        cases hlast
    intro p hp q hq heq
    rcases (mem_lanePositions_concat content).mp hp with hp | ⟨hlane, rfl⟩ <;>
      rcases (mem_lanePositions_concat content).mp hq with hq | ⟨hlane', rfl⟩
    · exact hold p hp q hq heq
    · exact hnew hlane' p hp heq
    · exact (hnew hlane q hq heq.symm).symm
    · rfl

/-! ## Lanes by themselves -/

variable (content)

def laneFeed (positions : List Nat) : SequencedFeed :=
  (run (fun feed p => feed.onFrame (content.message p)) ({} : SequencedFeed) positions).2

/-- The positions a lane delivers, from its packets alone. -/
def feedPositions (positions : List Nat) : List Nat :=
  (transitions (fun feed p => feed.onFrame (content.message p)) ({} : SequencedFeed)
    positions).filterMap fun t => if FeedDelivers content t.1 t.2.1 then some t.2.1 else none

theorem feedPositions_concat (positions : List Nat) (p : Nat) :
    feedPositions content (positions ++ [p]) = feedPositions content positions ++
      if FeedDelivers content (laneFeed content positions) p then [p] else [] := by
  rw [feedPositions, transitions_concat, List.filterMap_append]
  refine congrArg _ ?_
  rw [List.filterMap_cons, List.filterMap_nil]
  by_cases h : FeedDelivers content (laneFeed content positions) p
  · rw [if_pos h]
    rw [laneFeed] at h
    simp only [if_pos h]
  · rw [if_neg h]
    rw [laneFeed] at h
    simp only [if_neg h]

theorem lanePackets_concat (lane : Lane) (packets : List Packet) (packet : Packet) :
    lanePackets lane (packets ++ [packet]) = lanePackets lane packets ++
      if packet.lane = lane then [packet.position] else [] := by
  rw [lanePackets, List.filter_append, List.map_append]
  refine congrArg _ ?_
  by_cases h : packet.lane = lane
  · simp [h]
  · simp [h]

/-- **Run.** A lane sees only its own packets. -/
theorem after_lanes (packets : List Packet) (lane : Lane) :
    (after content packets).lanes lane = laneFeed content (lanePackets lane packets) := by
  induction packets using List.reverseRecOn with
  | nil => rfl
  | append_singleton packets packet ih =>
    rw [after_concat, step_lanes content (unbuffered_after content packets), fed,
      lanePackets_concat, Function.update_apply]
    by_cases h : packet.lane = lane
    · rw [if_pos h.symm, if_pos h, h, ih, laneFeed, laneFeed, run_concat]
    · rw [if_neg (Ne.symm h), if_neg h, List.append_nil]
      exact ih

/-- **Run.** What the lanes deliver depends on each lane alone. -/
theorem mem_lanePositions (packets : List Packet) (p : Nat) :
    p ∈ lanePositions content packets ↔
      ∃ lane, p ∈ feedPositions content (lanePackets lane packets) := by
  induction packets using List.reverseRecOn with
  | nil =>
    constructor
    · intro hp
      cases hp
    · rintro ⟨lane, hp⟩
      cases hp
  | append_singleton packets packet ih =>
    have hlane : LaneDelivers content (after content packets) packet ↔
        FeedDelivers content (laneFeed content (lanePackets packet.lane packets))
          packet.position := by
      rw [LaneDelivers, after_lanes]
    rw [mem_lanePositions_concat, ih, hlane]
    constructor
    · rintro (⟨lane, hp⟩ | ⟨hdelivers, rfl⟩)
      · refine ⟨lane, ?_⟩
        rw [lanePackets_concat]
        split
        · rw [feedPositions_concat]
          exact List.mem_append_left _ hp
        · rw [List.append_nil]
          exact hp
      · refine ⟨packet.lane, ?_⟩
        rw [lanePackets_concat, if_pos rfl, feedPositions_concat, if_pos hdelivers]
        exact List.mem_append_right _ (List.mem_singleton_self _)
    · rintro ⟨lane, hp⟩
      rw [lanePackets_concat] at hp
      by_cases h : packet.lane = lane
      · rw [if_pos h, feedPositions_concat, List.mem_append] at hp
        rcases hp with hp | hp
        · exact .inl ⟨lane, hp⟩
        · rw [← h] at hp
          split at hp
          · rename_i hdelivers
            exact .inr ⟨hdelivers, List.mem_singleton.mp hp⟩
          · cases hp
      · rw [if_neg h, List.append_nil] at hp
        exact .inl ⟨lane, hp⟩

variable {content}

theorem SameLanes.mem_lanePositions (h : SameLanes packets packets') (p : Nat) :
    p ∈ lanePositions content packets' ↔ p ∈ lanePositions content packets := by
  rw [DualLaneArbiter.mem_lanePositions, DualLaneArbiter.mem_lanePositions]
  exact exists_congr fun lane => by rw [h lane]

theorem NoReuse.mem_deliveredPositions (h : NoReuse content packets) (p : Nat) :
    p ∈ deliveredPositions content packets ↔ p ∈ lanePositions content packets := by
  have hunion := union_after content packets
  refine ⟨hunion.mem_lane p, fun hp => ?_⟩
  obtain ⟨q, hq, heq⟩ := hunion.covers p hp
  rw [← h q (hunion.mem_lane q hq) p hp (ofNat_eq_iff.mp heq)]
  exact hq

theorem nodup_deliveredPositions (packets : List Packet) :
    (deliveredPositions content packets).Nodup :=
  (union_after content packets).apart.imp fun hne heq => hne (congrArg _ heq)

theorem NoReuse.handedOut_perm (h : NoReuse content packets) (hsame : SameLanes packets packets') :
    (handedOut content packets').Perm (handedOut content packets) := by
  have h' : NoReuse content packets' := fun p hp q hq =>
    h p ((hsame.mem_lanePositions p).mp hp) q ((hsame.mem_lanePositions q).mp hq)
  rw [(union_after content packets').handedOut_eq, (union_after content packets).handedOut_eq]
  refine List.Perm.map _ ?_
  refine (List.perm_ext_iff_of_nodup (nodup_deliveredPositions packets')
    (nodup_deliveredPositions packets)).mpr fun p => ?_
  rw [h'.mem_deliveredPositions, h.mem_deliveredPositions, hsame.mem_lanePositions]

/-- **Run.** The arbiter hands on the union of its lanes exactly once, the same messages for every
    interleaving of the two lanes, exactly when the lanes deliver no two different positions with
    one sequence number. -/
theorem union_exactly_once_iff (content : Content) (packets : List Packet) :
    (ExactlyOnce content packets ∧
      ∀ packets', SameLanes packets packets' →
        (handedOut content packets').Perm (handedOut content packets))
      ↔ NoReuse content packets := by
  refine ⟨fun h => noReuse_of_exactlyOnce h.1, fun h => ⟨exactlyOnce_of_noReuse h, ?_⟩⟩
  intro packets' hsame
  exact h.handedOut_perm hsame

/-- A feed with empty payloads. -/
def bareContent : Content where
  message p := { sequence := UInt32.ofNat p }
  sequence_eq _ := rfl
  type_eq _ := rfl

/-- Both lanes in steps of `2 ^ 30` from position 0 to position `2 ^ 32`. -/
def roundTrip : List Packet :=
  [⟨.a, 0⟩, ⟨.b, 0⟩, ⟨.a, 2 ^ 30⟩, ⟨.b, 2 ^ 30⟩, ⟨.a, 2 ^ 31⟩, ⟨.b, 2 ^ 31⟩, ⟨.a, 3 * 2 ^ 30⟩,
    ⟨.b, 3 * 2 ^ 30⟩, ⟨.a, 2 ^ 32⟩, ⟨.b, 2 ^ 32⟩]

/-- The lanes deliver position 0 and position `2 ^ 32`, which has the same number: the second one
    is not handed on. -/
theorem roundTrip_is_not_handed_on :
    0 ∈ lanePositions bareContent roundTrip ∧ 2 ^ 32 ∈ lanePositions bareContent roundTrip ∧
      ¬ ExactlyOnce bareContent roundTrip := by
  have hlane : feedPositions bareContent (lanePackets .a roundTrip)
      = [0, 2 ^ 30, 2 ^ 31, 3 * 2 ^ 30, 2 ^ 32] := by
    decide +kernel
  have hfirst : 0 ∈ lanePositions bareContent roundTrip := by
    refine (mem_lanePositions bareContent roundTrip 0).mpr ⟨.a, ?_⟩
    rw [hlane]
    decide
  have hlast : 2 ^ 32 ∈ lanePositions bareContent roundTrip := by
    refine (mem_lanePositions bareContent roundTrip (2 ^ 32)).mpr ⟨.a, ?_⟩
    rw [hlane]
    decide
  refine ⟨hfirst, hlast, fun h => ?_⟩
  have hsame := noReuse_of_exactlyOnce h 0 hfirst (2 ^ 32) hlast (by decide)
  exact absurd hsame (by decide)

end

end DualLaneArbiter

end LobReplay.Recovery
