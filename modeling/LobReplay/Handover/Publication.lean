/-
  When a controller publishes. `step_effect` says once what a call can do to the three epoch slots
  and the publication flag. Two invariants are read off it: `Named`, which every run keeps, and
  `Sound`, which every call keeps unless it fails the candidate while the active epoch is already
  dead: that branch assigns `Live` without asking whether the active epoch can publish.
-/

import LobReplay.Foundation.Machine
import LobReplay.Handover.Controller

namespace LobReplay.Handover

open Foundation
open Std (TreeSet)

/-! ## The slots of a controller -/

/-- What the calls decide on: everything but the reports (`failures` and `events`). -/
structure Slots where
  publication : PublicationState
  active : EpochStatus
  candidate : Option EpochStatus
  draining : Option EpochStatus
  usedEpochs : TreeSet String

namespace HandoverController

def slots (s : HandoverController) : Slots :=
  ⟨s.publication, s.active, s.candidate, s.draining, s.usedEpochs⟩

@[simp] theorem record_slots (s : HandoverController) (action epoch : String)
    (fromState toState : Option EpochState) (reason : Option String) :
    (s.record action epoch fromState toState reason).2.slots = s.slots := by
  unfold record
  dsimp only
  split <;> rfl

end HandoverController

/-! ## What a call can do -/

/-- An epoch keeps its name, and its state unless it is being synchronised: neither before nor
    after is it `Active` or `Failed` then. -/
def Advances (before after : EpochStatus) : Prop :=
  after.epoch = before.epoch ∧
    (after.state = before.state ∨
      (before.state ≠ .active ∧ before.state ≠ .failed ∧
        after.state ≠ .active ∧ after.state ≠ .failed))

/-- The call reports a failure of the epoch: by name, or by a book that contradicts the one
    the epoch published last. -/
def reportsFailure (status : EpochStatus) : HandoverController.Call → Bool
  | .failEpoch epoch reason => status.epoch == epoch && !isBlank reason
  | .observeBook epoch updateId digest =>
    status.epoch == epoch && (validateDigest digest).isOk &&
      (status.state = .live ∨ status.state = .active ∨ status.state = .draining) &&
      status.finalUpdateId.any fun previousId =>
        decide (updateId < previousId) ||
          (updateId == previousId && status.stateSha256 != some digest)
  | _ => false

inductive Effect (call : HandoverController.Call) (v : Slots) : Slots → Prop where
  | kept : Effect call v v
  | active {status : EpochStatus} (h : Advances v.active status) :
      Effect call v { v with active := status }
  | candidate {old status : EpochStatus} (hold : v.candidate = some old)
      (h : Advances old status) : Effect call v { v with candidate := some status }
  | draining {old status : EpochStatus} (hold : v.draining = some old) :
      Effect call v { v with draining := some status }
  | activated (hpublication : v.publication = .unavailable) (hcandidate : v.candidate = none) :
      Effect call v { v with active := { v.active with state := .active }, publication := .live }
  | began (candidate : EpochStatus) (hactive : v.active.state = .active)
      (hdraining : v.draining = none) (hfresh : candidate.epoch ∉ v.usedEpochs) :
      Effect call v { v with
        candidate := some candidate, usedEpochs := v.usedEpochs.insert candidate.epoch,
        publication := .handover }
  | promoted {candidate : EpochStatus} (hpublication : v.publication = .handover)
      (hcandidate : v.candidate = some candidate) :
      Effect call v { v with
        candidate := none, draining := some { v.active with state := .draining },
        active := { candidate with state := .active }, publication := .live }
  | retired : Effect call v { v with draining := none }
  | activeFailed :
      Effect call v { v with active := { v.active with state := .failed }, publication := .gap }
  | candidateFailed {candidate : EpochStatus} (hcandidate : v.candidate = some candidate)
      (hreports : reportsFailure candidate call = true) :
      Effect call v { v with candidate := none, publication := .live }

namespace HandoverController

variable {s : HandoverController}
variable {epoch : String} {status : EpochStatus}

theorem named_eq_some {slot : Option EpochStatus} :
    named slot epoch = some status ↔ slot = some status ∧ status.epoch = epoch := by
  simp [named, Option.filter_eq_some_iff]

/-- `epoch_mut` finds the slot that `epoch` found. -/
theorem epochMut_effect (call : Call) (hfound : s.epoch epoch = .ok status)
    (f : EpochStatus → EpochStatus) (hf : Advances status (f status)) :
    ∃ s', s.epochMut epoch f = .ok s' ∧ Effect call s.slots s'.slots := by
  unfold HandoverController.epoch at hfound
  unfold epochMut
  by_cases hactive : s.active.epoch = epoch
  · rw [if_pos hactive] at hfound ⊢
    cases hfound
    exact ⟨_, rfl, .active hf⟩
  · rw [if_neg hactive, okOr_eq_ok] at hfound
    rw [if_neg hactive]
    cases hcandidate : named s.candidate epoch with
    | some candidate =>
      rw [hcandidate, Option.some_or] at hfound
      cases hfound
      exact ⟨_, rfl, .candidate (named_eq_some.mp hcandidate).1 hf⟩
    | none =>
      rw [hcandidate, Option.none_or] at hfound
      rw [hfound]
      exact ⟨_, rfl, .draining (named_eq_some.mp hfound).1⟩

theorem transitionEpoch_effect (call : Call) (epoch : String) (target : EpochState) :
    Effect call s.slots (s.transitionEpoch epoch target).2.slots := by
  unfold transitionEpoch
  cases hfound : s.epoch epoch with
  | error e => exact .kept
  | ok status =>
    dsimp only
    by_cases hallowed : allowed status.state target
    · rw [if_neg (not_not_intro hallowed)]
      -- no allowed transition starts or ends at `Active` or `Failed`
      obtain ⟨s', hs', heffect⟩ := epochMut_effect call hfound
        (fun status => { status with state := target }) <| by
          refine ⟨rfl, Or.inr ?_⟩
          revert hallowed
          cases status.state <;> cases target <;> simp [allowed]
      rw [hs']
      simpa using heffect
    · rw [if_pos hallowed]
      exact .kept

theorem markLive_effect (call : Call) (epoch : String) (updateId : UInt64) (digest : String) :
    Effect call s.slots (s.markLive epoch updateId digest).2.slots := by
  unfold markLive
  cases validateDigest digest with
  | error e => exact .kept
  | ok =>
    dsimp only
    cases hfound : s.epoch epoch with
    | error e => exact .kept
    | ok status =>
      dsimp only
      by_cases hsyncing : status.state = .syncing
      · rw [if_neg (not_not_intro hsyncing)]
        obtain ⟨s', hs', heffect⟩ := epochMut_effect call hfound
          (fun status => { status with
            state := .live, finalUpdateId := some updateId, stateSha256 := some digest }) <| by
            refine ⟨rfl, Or.inr ?_⟩
            simp [hsyncing]
        rw [hs']
        simpa using heffect
      · rw [if_pos hsyncing]
        exact .kept

/-- `fail_epoch` fails the candidate only when neither other slot holds the name. -/
theorem failEpoch_effect (call : Call) (epoch reason : String)
    (hreports : ∀ candidate, s.active.epoch ≠ epoch → s.candidate = some candidate →
      candidate.epoch = epoch → isBlank reason = false → reportsFailure candidate call = true) :
    Effect call s.slots (s.failEpoch epoch reason).2.slots := by
  unfold failEpoch
  by_cases hblank : isBlank reason
  · rw [if_pos hblank]
    exact .kept
  rw [if_neg hblank]
  by_cases hactive : s.active.epoch = epoch
  · rw [if_pos hactive]
    dsimp only
    split
    · exact .kept
    · rw [record_slots]
      exact .activeFailed
  rw [if_neg hactive]
  cases named s.draining epoch with
  | some draining =>
    dsimp only
    rw [record_slots]
    exact .retired
  | none =>
    cases hcandidate : named s.candidate epoch with
    | some candidate =>
      dsimp only
      rw [record_slots]
      obtain ⟨hslot, hname⟩ := named_eq_some.mp hcandidate
      exact .candidateFailed hslot
        (hreports candidate hactive hslot hname (Bool.eq_false_iff.mpr hblank))
    | none => exact .kept

theorem failAndRefuse_slots (epoch reason : String) :
    (s.failAndRefuse epoch reason).2.slots = (s.failEpoch epoch reason).2.slots := by
  unfold failAndRefuse
  rcases s.failEpoch epoch reason with ⟨e | ⟨⟩, s'⟩ <;> rfl

theorem epoch_candidate {candidate : EpochStatus} (hfound : s.epoch epoch = .ok status)
    (hactive : s.active.epoch ≠ epoch) (hslot : s.candidate = some candidate)
    (hname : candidate.epoch = epoch) : status = candidate := by
  unfold HandoverController.epoch at hfound
  rw [if_neg hactive, okOr_eq_ok, named_eq_some.mpr ⟨hslot, hname⟩, Option.some_or] at hfound
  exact (Option.some.inj hfound).symm

theorem observeBook_effect (epoch : String) (updateId : UInt64) (digest : String) :
    Effect (.observeBook epoch updateId digest) s.slots
      (s.observeBook epoch updateId digest).2.slots := by
  unfold observeBook
  cases hdigest : validateDigest digest with
  | error e => exact .kept
  | ok =>
    dsimp only
    cases hfound : s.epoch epoch with
    | error e => exact .kept
    | ok status =>
      dsimp only
      by_cases hstate : status.state ≠ .live ∧ status.state ≠ .active ∧ status.state ≠ .draining
      · rw [if_pos hstate]
        exact .kept
      rw [if_neg hstate]
      have hlive : status.state = .live ∨ status.state = .active ∨ status.state = .draining := by
        by_contra hnot
        exact hstate (by simpa only [not_or] using hnot)
      obtain ⟨s', hs', heffect⟩ := epochMut_effect (.observeBook epoch updateId digest) hfound
        (fun status => { status with
          finalUpdateId := some updateId, stateSha256 := some digest }) ⟨rfl, Or.inl rfl⟩
      rw [hs']
      -- a contradicting book reports the failure of the slot the lookup found
      have hreports : ∀ previousId, status.finalUpdateId = some previousId →
          (updateId < previousId ∨ (updateId = previousId ∧ status.stateSha256 ≠ some digest)) →
          ∀ candidate, s.active.epoch ≠ epoch → s.candidate = some candidate →
            candidate.epoch = epoch →
            reportsFailure candidate (.observeBook epoch updateId digest) = true := by
        intro previousId hprevious hcontradicts candidate hactive hslot hname
        have hstatus := epoch_candidate hfound hactive hslot hname
        subst hstatus
        simp only [reportsFailure, hname, hdigest, hprevious, hlive, Option.any_some, beq_self_eq_true,
          Bool.and_eq_true, Bool.or_eq_true, decide_eq_true_eq, beq_iff_eq, bne_iff_ne, decide_true,
          and_true, true_and]
        exact ⟨rfl, hcontradicts⟩
      cases hprevious : status.finalUpdateId with
      | none => simpa using heffect
      | some previousId =>
        dsimp only
        by_cases hlt : updateId < previousId
        · rw [if_pos hlt, failAndRefuse_slots]
          apply failEpoch_effect
          intro candidate hactive hslot hname _
          exact hreports previousId hprevious (Or.inl hlt) candidate hactive hslot hname
        rw [if_neg hlt]
        by_cases heq : updateId = previousId
        · rw [if_pos heq]
          by_cases hsame : status.stateSha256 = some digest
          · rw [if_pos hsame]
            exact .kept
          · rw [if_neg hsame, failAndRefuse_slots]
            apply failEpoch_effect
            intro candidate hactive hslot hname _
            exact hreports previousId hprevious (Or.inr ⟨heq, hsame⟩) candidate hactive hslot hname
        · rw [if_neg heq]
          simpa using heffect

/-- **Step.** Every call, accepted or rejected, does one of the things `Effect` lists. -/
theorem step_effect (s : HandoverController) (call : Call) :
    Effect call s.slots (s.step call).2.slots := by
  cases call with
  | transitionEpoch epoch target => exact transitionEpoch_effect _ epoch target
  | markLive epoch updateId digest => exact markLive_effect _ epoch updateId digest
  | observeBook epoch updateId digest => exact observeBook_effect epoch updateId digest
  | failEpoch epoch reason =>
    apply failEpoch_effect
    intro candidate _ _ hname hblank
    simp [reportsFailure, hname, hblank]
  | rotationDeadlineExpired reason =>
    show Effect _ _ (s.rotationDeadlineExpired reason).2.slots
    unfold rotationDeadlineExpired
    split
    · exact .kept
    · apply failEpoch_effect
      intro candidate hactive
      exact absurd rfl hactive
  | activateInitial =>
    show Effect _ _ s.activateInitial.2.slots
    unfold activateInitial
    split
    · exact .kept
    · next h =>
      simp only [not_or, not_not, Bool.not_eq_true, Option.isSome_eq_false_iff,
        Option.isNone_iff_eq_none] at h
      rw [record_slots]
      exact .activated h.1 h.2.1
  | beginHandover epoch =>
    show Effect _ _ (s.beginHandover epoch).2.slots
    unfold beginHandover
    split
    · exact .kept
    next hready =>
    split
    · exact .kept
    next hfree =>
    split
    · exact .kept
    next hused =>
    simp only [not_or, not_not, Bool.not_eq_true, Option.isSome_eq_false_iff,
      Option.isNone_iff_eq_none] at hready hfree
    unfold EpochStatus.connecting
    by_cases hblank : isBlank epoch
    · rw [if_pos hblank]
      exact .kept
    · rw [if_neg hblank]
      dsimp only
      rw [record_slots]
      refine Effect.began (v := s.slots) ⟨epoch, .connecting, none, none⟩ hready.2 hfree.2 ?_
      intro hmem
      exact hused hmem
  | promoteCandidate =>
    show Effect _ _ s.promoteCandidate.2.slots
    unfold promoteCandidate
    split
    · exact .kept
    next hready =>
    simp only [not_or, not_not] at hready
    cases hslot : s.candidate with
    | none => exact .kept
    | some candidate =>
      dsimp only
      rw [record_slots]
      exact .promoted hready.1 hslot
  | closeDraining =>
    show Effect _ _ s.closeDraining.2.slots
    unfold closeDraining
    cases s.draining with
    | none => exact .kept
    | some draining =>
      dsimp only
      split
      · exact .retired
      · rw [record_slots]
        exact .retired

end HandoverController

/-! ## The two invariants -/

/-- The epochs in the slots were used and have names of their own. -/
structure Named (v : Slots) : Prop where
  active_used : v.active.epoch ∈ v.usedEpochs
  candidate_used : ∀ c, v.candidate = some c → c.epoch ∈ v.usedEpochs
  candidate_ne : ∀ c, v.candidate = some c → c.epoch ≠ v.active.epoch
  candidate_alone : ∀ c, v.candidate = some c → v.draining = none

variable {call : HandoverController.Call} {candidate : EpochStatus} {s : HandoverController}
  {v w : Slots}

theorem Effect.named (h : Effect call v w) (hv : Named v) : Named w := by
  cases h with
  | kept => exact hv
  | active hadvances =>
    refine ⟨?_, hv.candidate_used, ?_, hv.candidate_alone⟩
    · show _ ∈ v.usedEpochs
      rw [hadvances.1]
      exact hv.active_used
    · intro c hc
      rw [hadvances.1]
      exact hv.candidate_ne c hc
  | candidate hold hadvances =>
    refine ⟨hv.active_used, ?_, ?_, ?_⟩
    · intro c hc
      cases hc
      rw [hadvances.1]
      exact hv.candidate_used _ hold
    · intro c hc
      cases hc
      rw [hadvances.1]
      exact hv.candidate_ne _ hold
    · intro c hc
      exact hv.candidate_alone _ hold
  | draining hold =>
    refine ⟨hv.active_used, hv.candidate_used, hv.candidate_ne, ?_⟩
    intro c hc
    have hnone := hv.candidate_alone c hc
    rw [hold] at hnone
    cases hnone
  | activated _ hcandidate =>
    exact ⟨hv.active_used, hv.candidate_used, hv.candidate_ne, hv.candidate_alone⟩
  | began candidate hactive hdraining hfresh =>
    refine ⟨TreeSet.mem_insert.mpr (Or.inr hv.active_used), ?_, ?_, ?_⟩
    · intro c hc
      cases hc
      exact TreeSet.mem_insert_self
    · intro c hc
      cases hc
      -- the active name was used, the candidate's was not
      intro heq
      apply hfresh
      rw [heq]
      exact hv.active_used
    · intro c hc
      exact hdraining
  | promoted _ hcandidate =>
    have hused := hv.candidate_used _ hcandidate
    refine ⟨hused, ?_, ?_, ?_⟩ <;> intro c hc <;> cases hc
  | retired => exact ⟨hv.active_used, hv.candidate_used, hv.candidate_ne, fun _ _ => rfl⟩
  | activeFailed =>
    exact ⟨hv.active_used, hv.candidate_used, hv.candidate_ne, hv.candidate_alone⟩
  | candidateFailed =>
    refine ⟨hv.active_used, ?_, ?_, ?_⟩ <;> intro c hc <;> cases hc

/-- The publication flag follows from the slots. -/
structure Sound (v : Slots) : Prop where
  live_active : v.publication = .live → v.active.state = .active
  handover_iff : v.publication = .handover ↔ v.candidate.isSome ∧ v.active.state = .active
  gap_failed : v.publication = .gap → v.active.state = .failed
  unavailable_alone : v.publication = .unavailable → v.candidate = none

/-- The call fails the candidate while the active epoch is dead. -/
def failsDeadCandidate (s : HandoverController) (call : HandoverController.Call) : Bool :=
  s.active.state == .failed && s.candidate.any fun candidate => reportsFailure candidate call

theorem Sound.active_of_candidate (h : Sound v) (hcandidate : v.candidate = some candidate)
    (halive : v.active.state ≠ .failed) : v.active.state = .active := by
  cases hpublication : v.publication with
  | unavailable =>
    have hnone := h.unavailable_alone hpublication
    rw [hcandidate] at hnone
    cases hnone
  | live => exact h.live_active hpublication
  | handover => exact (h.handover_iff.mp hpublication).2
  | gap => exact absurd (h.gap_failed hpublication) halive

theorem Effect.sound (h : Effect call s.slots w) (hs : Sound s.slots)
    (hcall : failsDeadCandidate s call = false) :
    Sound w ∧ (s.publication = .gap → w.publication = .gap) := by
  cases h with
  | kept => exact ⟨hs, id⟩
  | @active status hadvances =>
    refine ⟨?_, id⟩
    rcases hadvances.2 with hsame | ⟨hactive, hfailed, hactive', hfailed'⟩
    · refine ⟨?_, ?_, ?_, hs.unavailable_alone⟩
      · intro hlive
        exact hsame.trans (hs.live_active hlive)
      · show s.slots.publication = _ ↔ s.slots.candidate.isSome ∧ status.state = _
        rw [hsame]
        exact hs.handover_iff
      · intro hgap
        exact hsame.trans (hs.gap_failed hgap)
    · -- an epoch that is being synchronised does not publish
      refine ⟨?_, ?_, ?_, hs.unavailable_alone⟩
      · intro hlive
        exact absurd (hs.live_active hlive) hactive
      · constructor
        · intro hhandover
          exact absurd (hs.handover_iff.mp hhandover).2 hactive
        · intro h
          exact absurd h.2 hactive'
      · intro hgap
        exact absurd (hs.gap_failed hgap) hfailed
  | candidate hold hadvances =>
    refine ⟨⟨hs.live_active, ?_, hs.gap_failed, ?_⟩, id⟩
    · have hiff := hs.handover_iff
      rw [hold] at hiff
      exact hiff
    · intro hunavailable
      have hnone := hs.unavailable_alone hunavailable
      rw [hold] at hnone
      cases hnone
  | draining hold => exact ⟨⟨hs.live_active, hs.handover_iff, hs.gap_failed, hs.unavailable_alone⟩, id⟩
  | activated hpublication hcandidate =>
    refine ⟨⟨fun _ => rfl, ?_, ?_, ?_⟩, ?_⟩
    · simp [hcandidate]
    · intro h
      cases h
    · intro _
      exact hcandidate
    · intro hgap
      cases hgap.symm.trans hpublication
  | began candidate hactive hdraining hfresh =>
    refine ⟨⟨fun _ => hactive, ?_, ?_, ?_⟩, ?_⟩
    · exact ⟨fun _ => ⟨rfl, hactive⟩, fun _ => rfl⟩
    · intro h
      cases h
    · intro h
      cases h
    · intro hgap
      cases (hs.gap_failed hgap).symm.trans hactive
  | promoted hpublication hcandidate =>
    refine ⟨⟨fun _ => rfl, ?_, ?_, fun _ => rfl⟩, ?_⟩
    · simp
    · intro h
      cases h
    · intro hgap
      cases hgap.symm.trans hpublication
  | retired => exact ⟨⟨hs.live_active, hs.handover_iff, hs.gap_failed, hs.unavailable_alone⟩, id⟩
  | activeFailed =>
    refine ⟨⟨?_, ?_, fun _ => rfl, ?_⟩, fun _ => rfl⟩
    · intro h
      cases h
    · simp
    · intro h
      cases h
  | @candidateFailed candidate hcandidate hreports =>
    have halive : s.active.state ≠ .failed := by
      intro hdead
      have hslot : s.candidate = some candidate := hcandidate
      simp [failsDeadCandidate, hdead, hslot, hreports] at hcall
    have hactive : s.active.state = .active := hs.active_of_candidate hcandidate halive
    refine ⟨⟨fun _ => hactive, ?_, ?_, fun _ => rfl⟩, ?_⟩
    · simp
    · intro h
      cases h
    · intro hgap
      exact absurd (hs.gap_failed hgap) halive

/-- **The slip.** The failure of a candidate makes the controller publish, whatever the active
    epoch is. -/
theorem failEpoch_candidate (hs : Named s.slots) (hslot : s.candidate = some candidate)
    {reason : String} (hreason : isBlank reason = false) :
    (s.failEpoch candidate.epoch reason).2.slots
      = { s.slots with candidate := none, publication := .live } := by
  have hactive : s.active.epoch ≠ candidate.epoch := fun h => hs.candidate_ne _ hslot h.symm
  have hdraining : HandoverController.named s.draining candidate.epoch = none := by
    have hnone : s.draining = none := hs.candidate_alone _ hslot
    rw [hnone]
    rfl
  unfold HandoverController.failEpoch
  rw [if_neg (by simp [hreason]), if_neg hactive, hdraining,
    HandoverController.named_eq_some.mpr ⟨hslot, rfl⟩]
  dsimp only
  rw [HandoverController.record_slots]
  rfl

theorem isBlank_append_eq_false {text rest : String} (h : isBlank text = false) :
    isBlank (text ++ rest) = false := by
  unfold isBlank at h ⊢
  rw [String.toList_append, List.all_append, h, Bool.false_and]

theorem step_candidate_failure (hs : Named s.slots) (hslot : s.candidate = some candidate)
    (hreports : reportsFailure candidate call = true) :
    (s.step call).2.slots = { s.slots with candidate := none, publication := .live } := by
  cases call with
  | failEpoch epoch reason =>
    simp only [reportsFailure, Bool.and_eq_true, beq_iff_eq, Bool.not_eq_true'] at hreports
    obtain ⟨rfl, hreason⟩ := hreports
    exact failEpoch_candidate hs hslot hreason
  | observeBook epoch updateId digest =>
    simp only [reportsFailure, Bool.and_eq_true, beq_iff_eq, decide_eq_true_eq, Option.any_eq_true,
      Bool.or_eq_true, bne_iff_ne] at hreports
    obtain ⟨⟨⟨rfl, hdigest⟩, hstate⟩, previousId, hprevious, hcontradicts⟩ := hreports
    obtain ⟨⟨⟩, hdigest⟩ := isOk_eq_true.mp hdigest
    have hactive : s.active.epoch ≠ candidate.epoch := fun h => hs.candidate_ne _ hslot h.symm
    have hfound : s.epoch candidate.epoch = .ok candidate := by
      unfold HandoverController.epoch
      rw [if_neg hactive, HandoverController.named_eq_some.mpr ⟨hslot, rfl⟩, Option.some_or]
      rfl
    have hopen : ¬ (candidate.state ≠ .live ∧ candidate.state ≠ .active ∧
        candidate.state ≠ .draining) := by
      rintro ⟨hlive, hactive, hdraining⟩
      rcases hstate with h | h | h
      · exact hlive h
      · exact hactive h
      · exact hdraining h
    show (s.observeBook candidate.epoch updateId digest).2.slots = _
    unfold HandoverController.observeBook
    rw [hdigest, hfound]
    dsimp only
    rw [if_neg hopen, hprevious]
    dsimp only
    rcases hcontradicts with hlt | ⟨heq, hdiffers⟩
    · rw [if_pos hlt, HandoverController.failAndRefuse_slots]
      apply failEpoch_candidate hs hslot
      iterate 3 apply isBlank_append_eq_false
      decide
    · have hlt : ¬ updateId < previousId := by
        rw [heq]
        exact UInt64.lt_irrefl _
      rw [if_neg hlt, if_pos heq, if_neg hdiffers, HandoverController.failAndRefuse_slots]
      apply failEpoch_candidate hs hslot
      iterate 2 apply isBlank_append_eq_false
      decide
  | _ => cases hreports

/-! ## Runs -/

namespace HandoverController

def after (s : HandoverController) (calls : List Call) : HandoverController :=
  (run step s calls).2

theorem after_concat (s : HandoverController) (calls : List Call) (call : Call) :
    s.after (calls ++ [call]) = ((s.after calls).step call).2 := by
  unfold after
  rw [run_concat]

/-- No call of the run fails the candidate of a dead active epoch. -/
def Careful (s : HandoverController) (calls : List Call) : Prop :=
  AtEach (fun before call => failsDeadCandidate (s.after before) call = false) calls

/-- The controller never publishes from a dead epoch, at any point of the run. -/
structure NeverPublishesDead (s : HandoverController) (calls : List Call) : Prop where
  active : ∀ before, before <+: calls →
    (s.after before).publication = .live ∨ (s.after before).publication = .handover →
    (s.after before).active.state = .active
  handover_iff : ∀ before, before <+: calls →
    ((s.after before).publication = .handover ↔
      (s.after before).candidate.isSome ∧ (s.after before).active.state = .active)
  gap_stays : ∀ earlier later, earlier <+: later → later <+: calls →
    (s.after earlier).publication = .gap → (s.after later).publication = .gap

theorem new_slots {symbol initialEpoch : String} {s : HandoverController}
    (h : new symbol initialEpoch = .ok s) : Named s.slots ∧ Sound s.slots := by
  unfold new at h
  rw [ite_err_eq_ok, bind_eq_ok] at h
  obtain ⟨-, active, hactive, h⟩ := h
  unfold EpochStatus.connecting at hactive
  rw [ite_err_eq_ok] at hactive
  obtain ⟨-, hactive⟩ := hactive
  cases hactive
  dsimp only at h
  split at h
  · cases h
  · next controller hrecord =>
    cases h
    have hslots := congrArg (fun r => r.2.slots) hrecord
    simp only [record_slots] at hslots
    rw [← hslots]
    refine ⟨⟨TreeSet.mem_insert_self, ?_, ?_, ?_⟩, ⟨?_, ?_, ?_, fun _ => rfl⟩⟩
    · intro c hc
      cases hc
    · intro c hc
      cases hc
    · intro c hc
      cases hc
    · intro hlive
      cases hlive
    · simp [slots]
    · intro hgap
      cases hgap

section

variable {s : HandoverController}

/-- Every run keeps the names apart. -/
theorem after_named (hs : Named s.slots) (calls : List Call) : Named (s.after calls).slots := by
  apply run_stable (Q := fun s : HandoverController => Named s.slots) _ hs
  intro s call h
  exact (step_effect s call).named h

theorem after_sound (hs : Sound s.slots) (calls : List Call) (hcareful : Careful s calls) :
    Sound (s.after calls).slots := by
  induction calls using List.reverseRecOn with
  | nil => exact hs
  | append_singleton calls call ih =>
    obtain ⟨hbefore, hcall⟩ := atEach_concat.mp hcareful
    rw [after_concat]
    exact ((step_effect _ call).sound (ih hbefore) hcall).1

theorem after_gap (hs : Sound s.slots) (earlier rest : List Call)
    (hcareful : Careful s (earlier ++ rest)) (hgap : (s.after earlier).publication = .gap) :
    (s.after (earlier ++ rest)).publication = .gap := by
  induction rest using List.reverseRecOn with
  | nil => simpa using hgap
  | append_singleton rest call ih =>
    rw [← List.append_assoc] at hcareful ⊢
    obtain ⟨hbefore, hcall⟩ := atEach_concat.mp hcareful
    rw [after_concat]
    exact ((step_effect _ call).sound (after_sound hs _ hbefore) hcall).2 (ih hbefore)

end

/-- **Publication follows the active epoch exactly on careful runs.** -/
theorem never_publishes_dead_iff {symbol initialEpoch : String} {s : HandoverController}
    (hnew : new symbol initialEpoch = .ok s) (calls : List Call) :
    NeverPublishesDead s calls ↔ Careful s calls := by
  obtain ⟨hnamed, hsound⟩ := new_slots hnew
  constructor
  · intro h before call rest hcalls
    by_contra hfails
    simp only [Bool.not_eq_false, failsDeadCandidate, Bool.and_eq_true, beq_iff_eq,
      Option.any_eq_true] at hfails
    obtain ⟨hdead, candidate, hslot, hreports⟩ := hfails
    -- the call leaves `Live` behind beside the dead active epoch
    have hslots := step_candidate_failure (after_named hnamed before) hslot hreports
    rw [← after_concat] at hslots
    have hpre : before ++ [call] <+: calls := ⟨rest, by simp [hcalls]⟩
    have hactive := h.active _ hpre (Or.inl (congrArg Slots.publication hslots))
    have hstate : (s.after (before ++ [call])).active = (s.after before).active :=
      congrArg Slots.active hslots
    rw [hstate, hdead] at hactive
    cases hactive
  · intro hcareful
    have hpre : ∀ before, before <+: calls → Careful s before := by
      rintro before ⟨rest, rfl⟩
      exact hcareful.of_append
    refine ⟨?_, ?_, ?_⟩
    · intro before hbefore hpublishes
      have h := after_sound hsound before (hpre before hbefore)
      rcases hpublishes with hlive | hhandover
      · exact h.live_active hlive
      · exact (h.handover_iff.mp hhandover).2
    · intro before hbefore
      exact (after_sound hsound before (hpre before hbefore)).handover_iff
    · rintro earlier later ⟨rest, rfl⟩ hlater hgap
      exact after_gap hsound earlier rest (hpre _ hlater) hgap

/-- A handover in which the active epoch fails first and the candidate after it. -/
def bothFail : List Call :=
  [.transitionEpoch "a" .buffering, .transitionEpoch "a" .snapshotting,
    .transitionEpoch "a" .syncing, .markLive "a" 1 zeroDigest, .activateInitial,
    .beginHandover "b", .failEpoch "a" "x", .failEpoch "b" "x"]

/-- The failure of the candidate ends the gap: `Live`, from a failed epoch. -/
theorem both_fail_publishes_dead :
    ∃ s, new "BTCUSDT" "a" = .ok s ∧ ¬ NeverPublishesDead s bothFail := by
  have hend : (new "BTCUSDT" "a").map (fun s => ((s.after bothFail).publication,
      (s.after bothFail).active.state)) = .ok (.live, .failed) := by decide +kernel
  obtain ⟨s, hs, hend⟩ := map_eq_ok.mp hend
  simp only [Prod.mk.injEq] at hend
  refine ⟨s, hs, fun h => ?_⟩
  have hactive := h.active bothFail (List.prefix_refl _) (Or.inl hend.1)
  rw [hend.2] at hactive
  cases hactive

/-- The same handover up to the failure of the active epoch. -/
theorem never_publishes_dead_one_failure :
    ∃ s, new "BTCUSDT" "a" = .ok s ∧
      (NeverPublishesDead s (bothFail.take 7) ↔ Careful s (bothFail.take 7)) := by
  have hnew : (new "BTCUSDT" "a").isOk = true := by decide +kernel
  obtain ⟨s, hs⟩ := isOk_eq_true.mp hnew
  exact ⟨s, hs, never_publishes_dead_iff hs _⟩

end HandoverController

end LobReplay.Handover
