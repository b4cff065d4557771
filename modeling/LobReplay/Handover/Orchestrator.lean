/-
  `RotationOrchestrator` of orchestrator.rs: what the transport of one connection asks for,
  applied to the handover controller. A batch reaches the epoch it comes from and no other
  (`Isolated`), and an epoch that has lost the authority is never given it back (`Lost`).
-/

import LobReplay.Handover.Publication
import LobReplay.Transport.Session

namespace LobReplay.Handover

open Foundation Transport
open Std (TreeSet)

namespace HandoverController

/-! ## Batches of actions -/

/-- One turn of the loop of `apply_transport_actions`. -/
def applyTransportAction (s : HandoverController) (sourceEpoch : String)
    (candidateEpoch : Option String) : TransportAction → Result Unit × HandoverController
  | .rawEnqueued _ | .respondPong _ | .sendPing _ => (.ok (), s)
  | .beginHandover _ =>
    if s.active.epoch ≠ sourceEpoch then (err "only the active epoch may initiate handover", s)
    else
      match candidateEpoch with
      | none => (err "handover action requires a fresh candidate epoch", s)
      | some epoch => s.beginHandover epoch
  | .epochClosed reason =>
    if (named s.draining sourceEpoch).isSome then s.closeDraining
    else s.failEpoch sourceEpoch reason
  | .invalidateEpoch reason => s.failEpoch sourceEpoch reason

def applyTransportActions (s : HandoverController) (sourceEpoch : String)
    (candidateEpoch : Option String) : List TransportAction → Result Unit × HandoverController
  | [] => (.ok (), s)
  | action :: actions =>
    match s.applyTransportAction sourceEpoch candidateEpoch action with
    | (.error e, s) => (.error e, s)
    | (.ok (), s) => s.applyTransportActions sourceEpoch candidateEpoch actions

/-- What happens to a controller: a call, or a batch of a connection. -/
inductive Event where
  | call (call : Call)
  | batch (sourceEpoch : String) (candidateEpoch : Option String) (actions : List TransportAction)

def dispatch (s : HandoverController) : Event → Result Unit × HandoverController
  | .call call => s.step call
  | .batch sourceEpoch candidateEpoch actions =>
    s.applyTransportActions sourceEpoch candidateEpoch actions

end HandoverController

open HandoverController

variable {s : HandoverController} {sourceEpoch epoch : String} {candidateEpoch : Option String}
  {call : Call} {u v w : Slots}

/-- A property that every action keeps is kept by a batch. -/
theorem applyTransportActions_keeps {P : HandoverController → Prop}
    (hkeep : ∀ s action, P s → P (s.applyTransportAction sourceEpoch candidateEpoch action).2)
    (hs : P s) (actions : List TransportAction) :
    P (s.applyTransportActions sourceEpoch candidateEpoch actions).2 := by
  induction actions generalizing s with
  | nil => exact hs
  | cons action actions ih =>
    have hnext := hkeep s action hs
    unfold applyTransportActions
    generalize s.applyTransportAction sourceEpoch candidateEpoch action = outcome at hnext
    rcases outcome with ⟨e | ⟨⟩, t⟩
    · exact hnext
    · exact ih hnext

/-! ## Isolation -/

/-- Every slot that holds another epoch is as it was. -/
structure Isolated (sourceEpoch : String) (v w : Slots) : Prop where
  active : v.active.epoch ≠ sourceEpoch → w.active = v.active
  candidate : ∀ c, v.candidate = some c → c.epoch ≠ sourceEpoch → w.candidate = some c
  draining : ∀ d, v.draining = some d → d.epoch ≠ sourceEpoch → w.draining = some d

theorem Isolated.refl (v : Slots) : Isolated sourceEpoch v v :=
  ⟨fun _ => rfl, fun _ h _ => h, fun _ h _ => h⟩

theorem Isolated.trans (h : Isolated sourceEpoch u v) (h' : Isolated sourceEpoch v w) :
    Isolated sourceEpoch u w where
  active hne := by
    have hsame := h.active hne
    rw [h'.active (hsame ▸ hne), hsame]
  candidate c hc hne := h'.candidate c (h.candidate c hc hne) hne
  draining d hd hne := h'.draining d (h.draining d hd hne) hne

theorem epoch_of_named {slot : Option EpochStatus} {found status : EpochStatus}
    (h : named slot epoch = some found) (hslot : slot = some status) : status.epoch = epoch := by
  obtain ⟨hfound, hname⟩ := named_eq_some.mp h
  cases hfound.symm.trans hslot
  exact hname

theorem failEpoch_isolated (s : HandoverController) (epoch reason : String) :
    Isolated epoch s.slots (s.failEpoch epoch reason).2.slots := by
  unfold failEpoch
  split
  · exact .refl _
  split
  · next hactive =>
    dsimp only
    split
    · exact .refl _
    · rw [record_slots]
      exact ⟨fun hne => absurd hactive hne, fun _ h _ => h, fun _ h _ => h⟩
  split
  · next hdraining =>
    rw [record_slots]
    exact ⟨fun _ => rfl, fun _ h _ => h, fun _ h hne => absurd (epoch_of_named hdraining h) hne⟩
  · next hcandidate =>
    rw [record_slots]
    exact ⟨fun _ => rfl, fun _ h hne => absurd (epoch_of_named hcandidate h) hne, fun _ h _ => h⟩
  · exact .refl _

theorem closeDraining_isolated {draining : EpochStatus}
    (h : named s.draining epoch = some draining) :
    Isolated epoch s.slots s.closeDraining.2.slots := by
  unfold closeDraining
  rw [(named_eq_some.mp h).1]
  dsimp only
  split
  all_goals
    try rw [record_slots]
    exact ⟨fun _ => rfl, fun _ h _ => h, fun _ hd hne => absurd (epoch_of_named h hd) hne⟩

theorem beginHandover_isolated (s : HandoverController) (candidateEpoch : String) :
    Isolated sourceEpoch s.slots (s.beginHandover candidateEpoch).2.slots := by
  unfold beginHandover
  split
  · exact .refl _
  split
  · exact .refl _
  next hfree =>
  split
  · exact .refl _
  unfold EpochStatus.connecting
  split
  · exact .refl _
  · rw [record_slots]
    -- the slot of the new candidate was empty
    refine ⟨fun _ => rfl, fun c hc => absurd (Or.inl ?_) hfree, fun _ h _ => h⟩
    exact Option.isSome_of_eq_some hc

theorem applyTransportAction_isolated (s : HandoverController) (action : TransportAction) :
    Isolated sourceEpoch s.slots
      (s.applyTransportAction sourceEpoch candidateEpoch action).2.slots := by
  unfold applyTransportAction
  split
  · exact .refl _
  · exact .refl _
  · exact .refl _
  · split
    · exact .refl _
    split
    · exact .refl _
    · exact beginHandover_isolated s _
  · split
    · next hdraining =>
      obtain ⟨draining, hfound⟩ := Option.isSome_iff_exists.mp hdraining
      exact closeDraining_isolated hfound
    · exact failEpoch_isolated s sourceEpoch _
  · exact failEpoch_isolated s sourceEpoch _

/-- **Isolation.**  A batch of one connection leaves the epochs of all the others as they are. -/
theorem batch_isolated (s : HandoverController) (sourceEpoch : String)
    (candidateEpoch : Option String) (actions : List TransportAction) :
    Isolated sourceEpoch s.slots
      (s.applyTransportActions sourceEpoch candidateEpoch actions).2.slots :=
  applyTransportActions_keeps (P := fun t => Isolated sourceEpoch s.slots t.slots)
    (fun t action h => h.trans (applyTransportAction_isolated t action)) (.refl _) actions

/-! ## Authority -/

/-- The epoch was used, and is neither the active epoch nor the candidate. -/
structure Lost (epoch : String) (v : Slots) : Prop where
  used : epoch ∈ v.usedEpochs
  active : v.active.epoch ≠ epoch
  candidate : ∀ c, v.candidate = some c → c.epoch ≠ epoch

theorem Effect.lost (h : Effect call v w) (hv : Lost epoch v) : Lost epoch w := by
  cases h with
  | kept | draining | activated | retired | activeFailed => exact ⟨hv.used, hv.active, hv.candidate⟩
  | active hadvances => exact ⟨hv.used, hadvances.1 ▸ hv.active, hv.candidate⟩
  | candidate hold hadvances =>
    refine ⟨hv.used, hv.active, fun c hc => ?_⟩
    cases hc
    exact hadvances.1 ▸ hv.candidate _ hold
  | began candidate _ _ hfresh =>
    refine ⟨TreeSet.mem_insert.mpr (Or.inr hv.used), hv.active, fun c hc heq => ?_⟩
    cases hc
    exact hfresh (heq ▸ hv.used)
  | promoted _ hcandidate =>
    have hne := hv.candidate _ hcandidate
    exact ⟨hv.used, hne, fun c hc => nomatch hc⟩
  | candidateFailed => exact ⟨hv.used, hv.active, fun c hc => nomatch hc⟩

theorem applyTransportAction_lost (s : HandoverController) (action : TransportAction)
    (h : Lost epoch s.slots) :
    Lost epoch (s.applyTransportAction sourceEpoch candidateEpoch action).2.slots := by
  unfold applyTransportAction
  repeat' split
  all_goals first
    | exact h
    | exact (step_effect s (.beginHandover _)).lost h
    | exact (step_effect s .closeDraining).lost h
    | exact (step_effect s (.failEpoch _ _)).lost h

/-- **Run.** Whatever the connections and the callers do, an epoch that has lost the authority is
    never active, or about to be, again. -/
theorem lost_for_good (s : HandoverController) (events : List Event) :
    {epoch | Lost epoch s.slots} ⊆ {epoch | Lost epoch (run dispatch s events).2.slots} := by
  intro epoch (hlost : Lost epoch s.slots)
  refine run_stable (Q := fun t : HandoverController => Lost epoch t.slots) ?_ hlost events
  intro t event h
  cases event with
  | call call => exact (step_effect t call).lost h
  | batch sourceEpoch candidateEpoch actions =>
    exact applyTransportActions_keeps (P := fun t => Lost epoch t.slots)
      (fun t action h => applyTransportAction_lost t action h) h actions

end LobReplay.Handover
