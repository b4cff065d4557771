/-
  `DualLaneArbiter` of cpp/recovery/src/feed_guard.cpp: two sequenced feeds, one for each lane,
  whose deliveries are handed on once by sequence number, and whose declared gaps are compared for
  sequences missing on both lanes.
-/

import LobReplay.Net.SequencedFeed

namespace LobReplay.Recovery

open Foundation Net
open Std (ExtTreeSet)

/-! ## Data -/

inductive Lane where
  | a
  | b
  deriving DecidableEq

def Lane.other : Lane → Lane
  | .a => .b
  | .b => .a

/-- The number of a lane, 0 or 1. -/
def Lane.number : Lane → UInt32
  | .a => 0
  | .b => 1

def Lane.ofNumber (lane : UInt32) : Option Lane :=
  if lane = 0 then some .a else if lane = 1 then some .b else none

@[simp] theorem Lane.ofNumber_number (lane : Lane) : Lane.ofNumber lane.number = some lane := by
  cases lane <;> rfl

@[simp] theorem Lane.other_ne (lane : Lane) : lane.other ≠ lane := by
  cases lane <;> decide

/-- `ArbiterEvent`, the fields each kind sets. -/
inductive ArbiterEvent where
  | delivered (message : FeedMessage) (lane : Lane)
  | laneGapTyped (lane : Lane) (first last : UInt32)
  | consumerGap (first last : UInt32)
  | snapshotBridged (snapshotSequence : UInt32)
  deriving DecidableEq

structure DualLaneArbiter where
  lanes : Lane → SequencedFeed := fun _ => {}
  /-- The sequences handed out. -/
  delivered : ExtTreeSet UInt32 := ∅
  /-- `pending_a_` and `pending_b_`: the typed gaps of each lane. -/
  pending : Lane → ExtTreeSet UInt32 := fun _ => ∅
  /-- All sequences up to it are covered. -/
  coveredFloor : UInt32 := 0

namespace DualLaneArbiter

/-! ## Calls -/

/-- The pending sequences of a lane that are pending on the other one too, in ascending order. -/
def missingOnBoth (pending : Lane → ExtTreeSet UInt32) (lane : Lane) : List UInt32 :=
  (pending lane).toList.filter (pending lane.other).contains

/-- The pending sequences after a lane has declared a gap. -/
def declared (arb : DualLaneArbiter) (lane : Lane) (first last : UInt32) :
    Lane → ExtTreeSet UInt32 :=
  Function.update arb.pending lane (insertUpTo (arb.pending lane) first last)

/-- The consumer gap from the first to the last of the sequences missing on both lanes. -/
def consumerGap : List UInt32 → List ArbiterEvent
  | [] => []
  | s :: rest => [.consumerGap s ((s :: rest).getLast (List.cons_ne_nil s rest))]

def onLaneEvent (lane : Lane) (arb : DualLaneArbiter) :
    FeedEvent → List ArbiterEvent × DualLaneArbiter
  | .gapDetected first last =>
    let pending := arb.declared lane first last
    (.laneGapTyped lane first last :: consumerGap (missingOnBoth pending lane),
      { arb with pending })
  | .delivered m _ =>
    (if m.sequence ∈ arb.delivered then [] else [.delivered m lane],
      { arb with
        delivered := arb.delivered.insert m.sequence
        pending := fun l => (arb.pending l).erase m.sequence })
  | .duplicateIgnored => ([], arb)
  | .snapshotBridged _ => ([], arb)

def onLaneEvents (lane : Lane) (arb : DualLaneArbiter) (events : List FeedEvent) :
    List ArbiterEvent × DualLaneArbiter :=
  let r := run (onLaneEvent lane) arb events
  (r.1.flatten, r.2)

def onPacket (arb : DualLaneArbiter) (lane : UInt32) (m : FeedMessage) :
    List ArbiterEvent × DualLaneArbiter :=
  match Lane.ofNumber lane with
  | none => ([], arb)
  | some lane =>
    if m.type ≠ .marketPayload then ([], arb)
    else
      let fed := (arb.lanes lane).onFrame m
      onLaneEvents lane { arb with lanes := Function.update arb.lanes lane fed.2 } fed.1

def applySnapshot (arb : DualLaneArbiter) (snapshotSequence : UInt32) :
    List ArbiterEvent × DualLaneArbiter :=
  ([.snapshotBridged snapshotSequence],
    { arb with
      lanes := fun lane => ((arb.lanes lane).applySnapshot snapshotSequence).2
      pending := fun _ => ∅
      coveredFloor := if arb.coveredFloor ≤ snapshotSequence then snapshotSequence
        else arb.coveredFloor })

def isDelivered (arb : DualLaneArbiter) (seq : UInt32) : Prop :=
  seq ≤ arb.coveredFloor ∨ seq ∈ arb.delivered

instance (arb : DualLaneArbiter) (seq : UInt32) : Decidable (arb.isDelivered seq) :=
  inferInstanceAs (Decidable (_ ∨ _))

/-! ## What a packet can do -/

/-- The lanes after a packet. -/
def fed (arb : DualLaneArbiter) (lane : Lane) (m : FeedMessage) : Lane → SequencedFeed :=
  Function.update arb.lanes lane ((arb.lanes lane).onFrame m).2

/-- Everything a market payload on a lane can do: by what its lane emits, the events handed on and
    the arbiter after them. -/
inductive Shape (arb : DualLaneArbiter) (lane : Lane) (m : FeedMessage) :
    List ArbiterEvent → DualLaneArbiter → Prop
  | duplicate (hlane : ((arb.lanes lane).onFrame m).1 = [.duplicateIgnored]) :
      Shape arb lane m [] { arb with lanes := arb.fed lane m }
  | message (recovered : Bool) (hlane : ((arb.lanes lane).onFrame m).1 = [.delivered m recovered]) :
      Shape arb lane m (if m.sequence ∈ arb.delivered then [] else [.delivered m lane])
        { arb with
          lanes := arb.fed lane m
          delivered := arb.delivered.insert m.sequence
          pending := fun l => (arb.pending l).erase m.sequence }
  | gap (first last : UInt32)
      (hlane : ((arb.lanes lane).onFrame m).1 = [.gapDetected first last, .delivered m false])
      (hbefore : ¬ Between first last m.sequence) :
      Shape arb lane m
        (.laneGapTyped lane first last ::
          consumerGap (missingOnBoth (arb.declared lane first last) lane) ++
          if m.sequence ∈ arb.delivered then [] else [.delivered m lane])
        { arb with
          lanes := arb.fed lane m
          delivered := arb.delivered.insert m.sequence
          pending := fun l => (arb.declared lane first last l).erase m.sequence }

variable {arb : DualLaneArbiter} {m : FeedMessage}

theorem onLaneEvents_one (lane : Lane) (event : FeedEvent) :
    onLaneEvents lane arb [event] = onLaneEvent lane arb event := by
  rw [onLaneEvents, run_cons, run_nil, List.flatten_cons, List.flatten_nil, List.append_nil]

theorem onLaneEvents_two (lane : Lane) (event event' : FeedEvent) :
    onLaneEvents lane arb [event, event'] =
      ((onLaneEvent lane arb event).1
          ++ (onLaneEvent lane (onLaneEvent lane arb event).2 event').1,
        (onLaneEvent lane (onLaneEvent lane arb event).2 event').2) := by
  rw [onLaneEvents, run_cons, run_cons, run_nil, List.flatten_cons, List.flatten_cons,
    List.flatten_nil, List.append_nil]

/-- **Step.** A market payload on a lane with an empty reorder buffer. -/
theorem onPacket_shape {lane : Lane} (h : (arb.lanes lane).reorder = ∅)
    (htype : m.type = .marketPayload) :
    Shape arb lane m (arb.onPacket lane.number m).1 (arb.onPacket lane.number m).2 := by
  have heffect := SequencedFeed.onFrame_effect h m
  rw [onPacket, Lane.ofNumber_number]
  dsimp only
  rw [if_neg (not_not.mpr htype)]
  generalize hout : ((arb.lanes lane).onFrame m).1 = out at heffect
  generalize hnext : ((arb.lanes lane).onFrame m).2 = next at heffect
  have hfed : Function.update arb.lanes lane next = arb.fed lane m := by rw [fed, hnext]
  rw [hfed]
  cases heffect with
  | control _ hcontrol => exact absurd htype hcontrol
  | first =>
    rw [onLaneEvents_one]
    exact .message false hout
  | next =>
    rw [onLaneEvents_one]
    exact .message false hout
  | ahead _ _ _ hne =>
    rw [onLaneEvents_two]
    exact .gap _ _ hout (not_between_pred hne)
  | recovered =>
    rw [onLaneEvents_one]
    exact .message true hout
  | duplicate =>
    rw [onLaneEvents_one]
    exact .duplicate hout

/-! ## Reorder buffers -/

/-- Both reorder buffers are empty. -/
def Unbuffered (arb : DualLaneArbiter) : Prop := ∀ lane, (arb.lanes lane).reorder = ∅

/-- A frame the lanes do not sequence. -/
theorem onPacket_control (lane : Lane) (htype : m.type ≠ .marketPayload) :
    arb.onPacket lane.number m = ([], arb) := by
  rw [onPacket, Lane.ofNumber_number]
  exact if_pos htype

theorem onPacket_lanes (h : arb.Unbuffered) (lane : Lane) (htype : m.type = .marketPayload) :
    (arb.onPacket lane.number m).2.lanes = arb.fed lane m := by
  have hshape := onPacket_shape (h lane) htype
  generalize (arb.onPacket lane.number m).1 = out at hshape
  generalize (arb.onPacket lane.number m).2 = arb' at hshape ⊢
  cases hshape with
  | duplicate => rfl
  | message => rfl
  | gap => rfl

theorem Unbuffered.onPacket (h : arb.Unbuffered) (lane : Lane) (m : FeedMessage) :
    (arb.onPacket lane.number m).2.Unbuffered := by
  by_cases htype : m.type = .marketPayload
  · intro l
    rw [onPacket_lanes h lane htype, fed, Function.update_apply]
    split
    · exact (SequencedFeed.step_effect (h lane) (.frame m)).2
    · exact h l
  · rw [onPacket_control lane htype]
    exact h

theorem Unbuffered.applySnapshot (h : arb.Unbuffered) (s : UInt32) :
    (arb.applySnapshot s).2.Unbuffered :=
  fun lane => (SequencedFeed.step_effect (h lane) (.snapshot s)).2

end DualLaneArbiter

end LobReplay.Recovery
