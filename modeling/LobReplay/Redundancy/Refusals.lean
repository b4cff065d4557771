/-
  What a refused call of the availability state machine leaves behind: a start that is refused for
  its lane has registered its token, and a recomputation that runs out of gap identities comes after
  the change of the lane.
-/

import LobReplay.Redundancy.Calls

namespace LobReplay.Redundancy

open Foundation
open Std (TreeSet)

namespace HotRedundantSupervisor

/-! ## Out of gap identities -/

/-- A change that leaves `lane` not ready opens a gap, and there is no identity left for it. -/
structure SpendsGaps (s : HotRedundantSupervisor) (lane : CaptureLane) : Prop where
  running : s.terminal = false
  ever : s.everReady = true
  closed : s.openGap = none
  spent : u64Max ≤ s.nextGapId
  alone : ∀ other, other ≠ lane → (s.lanes other).state ≠ .ready

section

variable {s : HotRedundantSupervisor} {lane : CaptureLane}

/-- **A recomputation is refused** exactly when it would open a gap and the identities are spent;
    it changes nothing then. -/
theorem recomputeCoverage_refused (s : HotRedundantSupervisor) (now : Nat) :
    ((s.recomputeCoverage now).1.isOk = false ↔
      s.currentCoverage = .gap ∧ s.openGap = none ∧ u64Max ≤ s.nextGapId) ∧
    ((s.recomputeCoverage now).1.isOk = false →
      s.recomputeCoverage now = (err "gap identity overflow", s)) := by
  by_cases hopens : s.currentCoverage = .gap ∧ s.openGap = none
  · have hgap : s.currentCoverage = .gap ∧ s.openGap.isNone := by simpa using hopens
    unfold recomputeCoverage
    dsimp only
    rw [if_pos hgap]
    by_cases hnext : s.nextGapId + 1 ≤ u64Max
    · rw [checkedAdd_eq hnext]
      refine ⟨iff_of_false Bool.noConfusion fun h => ?_, fun h => Bool.noConfusion h⟩
      omega
    · rw [show checkedAdd s.nextGapId 1 = none from if_neg hnext]
      exact ⟨iff_of_true rfl ⟨hopens.1, hopens.2, by omega⟩, fun _ => rfl⟩
  · have hok : (s.recomputeCoverage now).1.isOk = true := by
      have hgap : ¬ (s.currentCoverage = .gap ∧ s.openGap.isNone) := by simpa using hopens
      unfold recomputeCoverage
      dsimp only
      rw [if_neg hgap]
      split
      · split <;> rfl
      · rfl
    rw [hok]
    exact ⟨iff_of_false Bool.noConfusion fun h => hopens ⟨h.1, h.2.1⟩,
      fun h => Bool.noConfusion h⟩

theorem spendsGaps_iff {t : HotRedundantSupervisor} {status : LaneStatus}
    (hlanes : t.lanes = Function.update s.lanes lane status) (hstatus : status.state ≠ .ready)
    (hterminal : t.terminal = s.terminal) (hever : t.everReady = s.everReady)
    (hopen : t.openGap = s.openGap) (hnext : t.nextGapId = s.nextGapId) :
    (t.currentCoverage = .gap ∧ t.openGap = none ∧ u64Max ≤ t.nextGapId) ↔ s.SpendsGaps lane := by
  have hready : t.ready = 0 ↔ ∀ other, other ≠ lane → (s.lanes other).state ≠ .ready := by
    rw [ready_eq, hlanes]
    have hbit : ∀ status : LaneStatus, readyBit status = 0 ↔ status.state ≠ .ready := by
      intro status
      unfold readyBit
      split <;> simp_all
    rw [Nat.add_eq_zero_iff, hbit, hbit]
    cases lane with
    | primary =>
      refine ⟨?_, fun h => ⟨by simpa using hstatus, by simpa using h .shadow (by decide)⟩⟩
      rintro ⟨-, hshadow⟩ other hother
      cases other with
      | primary => exact absurd rfl hother
      | shadow => simpa using hshadow
    | shadow =>
      refine ⟨?_, fun h => ⟨by simpa using h .primary (by decide), by simpa using hstatus⟩⟩
      rintro ⟨hprimary, -⟩ other hother
      cases other with
      | primary => simpa using hprimary
      | shadow => exact absurd rfl hother
  rw [hopen, hnext]
  cases hrunning : s.terminal with
  | true =>
    refine iff_of_false ?_ fun h => ?_
    · rintro ⟨hgap, -⟩
      unfold currentCoverage at hgap
      rw [hterminal, hrunning] at hgap
      cases hgap
    · rw [h.running] at hrunning
      cases hrunning
  | false =>
    rw [(currentCoverage_iff (hterminal.trans hrunning)).2.2.1, hready, hever]
    constructor
    · rintro ⟨⟨halone, hever⟩, hclosed, hspent⟩
      exact ⟨hrunning, hever, hclosed, hspent, halone⟩
    · intro h
      exact ⟨⟨h.alone, h.ever⟩, h.closed, h.spent⟩

end

/-! ## What a refusal keeps -/

variable (sha256 : Bytes → FixedBytes 32)

def RefusalKeeps (s : HotRedundantSupervisor) (call : Call) : Prop :=
  (step sha256 s call).1.isOk = false → OnlyClock s (step sha256 s call).2

/-- The call is no start that is refused once its token is registered, and neither a failure nor a
    retirement without a gap identity for what it opens. -/
def Harmless (s : HotRedundantSupervisor) : Call → Prop
  | .startLane lane runToken now => s.Presented runToken now →
      s.Startable lane now ∧ (s.lanes lane).launchAttempt < u64Max ∧ ¬ s.SpendsGaps lane
  | .failLane lane runToken reason now => s.Failable lane runToken reason now →
      ¬ s.SpendsGaps lane
  | .retireLane lane runToken now => s.Retirable lane runToken now → ¬ s.SpendsGaps lane
  | .markReady _ _ _ | .advanceTime _ | .restartRequests _ => True

section

variable {sha256} {s : HotRedundantSupervisor} {lane : CaptureLane} {runToken : String} {now : Nat}
  {t : HotRedundantSupervisor} {token : String}

/-- A registered token was not registered before. -/
theorem presented_ne (h : s.Presented runToken now) {s' : HotRedundantSupervisor}
    (htokens : s'.usedRunTokens = s.usedRunTokens.insert runToken) : ¬ OnlyClock s s' := by
  intro hclock
  have hsame : s'.usedRunTokens = s.usedRunTokens := by
    rw [hclock]
    rfl
  have hcontains : (s.usedRunTokens.insert runToken).contains runToken = true :=
    TreeSet.contains_insert_self
  rw [← htokens, hsame, h.fresh] at hcontains
  cases hcontains

theorem setLane_ne {status : LaneStatus} (hstate : status.state ≠ (s.lanes lane).state)
    (hlanes : t.lanes lane = status) : ¬ OnlyClock s t := by
  intro hclock
  apply hstate
  rw [← hlanes, hclock]
  rfl

theorem failed_state (sha256 : Bytes → FixedBytes 32) (config : HotRedundancyConfig)
    (lane : CaptureLane) (status : LaneStatus) (runToken reason : String) (now : Nat) :
    (failed sha256 config lane status runToken reason now).state = .backoff :=
  failCircuit_state _ _ _

theorem setLane_lanes_self (s : HotRedundantSupervisor) (lane : CaptureLane) (status : LaneStatus) :
    (s.setLane lane status).lanes lane = status := Function.update_self ..

theorem isOk_map (outcome : Result CoverageTransition × HotRedundantSupervisor) :
    (outcome.map (Except.map Reply.transition) id).1.isOk = outcome.1.isOk := by
  obtain ⟨reply, s⟩ := outcome
  cases reply <;> rfl

/-- A change of a lane that is recomputed is kept by no refusal: it is accepted or it is there. -/
theorem refusal_recomputed (hchanged : ¬ OnlyClock s t) :
    (((t.recomputeCoverage now).map (Except.map Reply.transition) id).1.isOk = false →
      OnlyClock s ((t.recomputeCoverage now).map (Except.map Reply.transition) id).2) ↔
      ¬ (t.currentCoverage = .gap ∧ t.openGap = none ∧ u64Max ≤ t.nextGapId) := by
  obtain ⟨hiff, hrefused⟩ := recomputeCoverage_refused t now
  rw [isOk_map, ← hiff]
  constructor
  · intro hkeeps hfalse
    have hclock := hkeeps hfalse
    rw [hrefused hfalse] at hclock
    exact hchanged hclock
  · intro hnot hfalse
    exact absurd hfalse hnot

/-- In a gap no lane is ready, so none is settled. -/
theorem onlyClock_settled
    (h : ({ s with
      lastMonoNs := now
      lanes := fun lane => settled s.config now (s.lanes lane) } : HotRedundantSupervisor
      ).currentCoverage = .gap) :
    OnlyClock s { s with
      lastMonoNs := now
      lanes := fun lane => settled s.config now (s.lanes lane) } := by
  set t : HotRedundantSupervisor := { s with
    lastMonoNs := now
    lanes := fun lane => settled s.config now (s.lanes lane) } with ht
  have hterminal : t.terminal = false := by
    cases hterminal : t.terminal with
    | false => rfl
    | true =>
      unfold currentCoverage at h
      rw [hterminal] at h
      cases h
  have hzero : t.ready = 0 := ((currentCoverage_iff hterminal).2.2.1.mp h).1
  have hidle : ∀ lane, (s.lanes lane).state ≠ .ready := by
    intro lane hready
    have hbit : readyBit (settled s.config now (s.lanes lane)) = 1 := by
      unfold readyBit
      rw [if_pos ((settled_keeps _ _ _).1.trans hready)]
    rw [ready_eq] at hzero
    cases lane with
    | primary =>
      have : readyBit (t.lanes .primary) = 1 := hbit
      omega
    | shadow =>
      have : readyBit (t.lanes .shadow) = 1 := hbit
      omega
  have hlanes : t.lanes = s.lanes := by
    funext lane
    show settled s.config now (s.lanes lane) = s.lanes lane
    unfold settled
    rw [if_neg (fun hand => hidle lane hand.1)]
  show t = s.at_ now
  rw [ht]
  unfold at_
  rw [show (fun lane => settled s.config now (s.lanes lane)) = s.lanes from hlanes]

/-- **Step.** A refused call changes the clock at most, exactly when it is harmless. -/
theorem refusalKeeps_iff (s : HotRedundantSupervisor) (call : Call) :
    RefusalKeeps sha256 s call ↔ s.Harmless call := by
  unfold RefusalKeeps
  cases call with
  | startLane lane runToken now =>
    simp only [step, Harmless]
    rcases startLane_cases s lane runToken now with
      ⟨hnot, message, s', hcall, hclock⟩ | ⟨hpresented, hnot, message, -, hcall⟩ |
      ⟨hpresented, hstart, hattempt, hcall⟩ | ⟨hpresented, hstart, hattempt, hcall⟩
    · rw [hcall]
      exact iff_of_true (fun _ => hclock.onlyClock) fun h => absurd h hnot
    · rw [hcall]
      refine iff_of_false (fun h => ?_) fun h => hnot (h hpresented).1
      exact presented_ne hpresented rfl (h rfl)
    · rw [hcall]
      refine iff_of_false (fun h => ?_) fun h => ?_
      · exact presented_ne hpresented rfl (h rfl)
      · have := (h hpresented).2.1
        omega
    · have hstatus : (started (s.lanes lane) runToken now).state ≠ .ready := LaneState.noConfusion
      have hchanged : ¬ OnlyClock s ((s.presented runToken now).setLane lane
          (started (s.lanes lane) runToken now)) := presented_ne hpresented rfl
      rw [hcall, refusal_recomputed hchanged]
      have hspends := @spendsGaps_iff s lane
        ((s.presented runToken now).setLane lane (started (s.lanes lane) runToken now))
        _ rfl hstatus rfl rfl rfl rfl
      rw [hspends]
      exact ⟨fun h _ => ⟨hstart, hattempt, h⟩, fun h => (h hpresented).2.2⟩
  | markReady lane runToken now =>
    simp only [step, Harmless, iff_true]
    rcases markReady_cases s lane runToken now with
      ⟨message, s', hcall, hclock⟩ | ⟨hle, -, -, hcall⟩ | ⟨hle, -, -, hcall⟩
    · rw [hcall]
      exact fun _ => hclock.onlyClock
    · rw [hcall, isOk_map]
      intro hfalse
      rw [(recomputeCoverage_refused _ now).2 hfalse]
      exact onlyClock_at s now
    · -- a lane that has just become ready opens no gap
      rw [hcall, isOk_map]
      intro hfalse
      exfalso
      obtain ⟨hgap, -⟩ := (recomputeCoverage_refused _ now).1.mp hfalse
      set t : HotRedundantSupervisor :=
        { (s.at_ now).setLane lane (readied (s.lanes lane) now) with everReady := true } with ht
      have hpos : 0 < t.ready :=
        @ready_setLane_pos (s.at_ now) (readied (s.lanes lane) now) lane rfl
      cases hterminal : t.terminal with
      | true =>
        unfold currentCoverage at hgap
        rw [hterminal] at hgap
        cases hgap
      | false =>
        have := ((currentCoverage_iff hterminal).2.2.1.mp hgap).1
        omega
  | failLane lane runToken reason now =>
    simp only [step, Harmless]
    rcases failLane_cases sha256 s lane runToken reason now with
      ⟨hnot, message, s', hcall, hclock⟩ | ⟨hfail, hcall⟩
    · rw [hcall]
      exact iff_of_true (fun _ => hclock.onlyClock) fun h => absurd h hnot
    · have hbackoff : (failed sha256 s.config lane (s.lanes lane) runToken reason now).state
          = .backoff := failed_state sha256 _ _ _ _ _ _
      have hchanged : ¬ OnlyClock s ((s.at_ now).setLane lane
          (failed sha256 s.config lane (s.lanes lane) runToken reason now)) := by
        refine setLane_ne ?_ (setLane_lanes_self _ _ _)
        rw [hbackoff]
        rcases hfail.active with h | h <;> rw [h] <;> exact LaneState.noConfusion
      have hstatus : (failed sha256 s.config lane (s.lanes lane) runToken reason now).state
          ≠ .ready := by
        rw [hbackoff]
        exact LaneState.noConfusion
      rw [hcall, refusal_recomputed hchanged]
      have hspends := @spendsGaps_iff s lane ((s.at_ now).setLane lane
          (failed sha256 s.config lane (s.lanes lane) runToken reason now))
        _ rfl hstatus rfl rfl rfl rfl
      rw [hspends]
      exact ⟨fun h _ => h, fun h => h hfail⟩
  | retireLane lane runToken now =>
    simp only [step, Harmless]
    rcases retireLane_cases s lane runToken now with
      ⟨hnot, message, s', hcall, hclock⟩ | ⟨hretire, hcall⟩
    · rw [hcall]
      exact iff_of_true (fun _ => hclock.onlyClock) fun h => absurd h hnot
    · have hchanged : ¬ OnlyClock s ((s.at_ now).setLane lane (retired (s.lanes lane) now)) := by
        refine setLane_ne ?_ (setLane_lanes_self _ _ _)
        rw [hretire.ready]
        exact LaneState.noConfusion
      have hstatus : (retired (s.lanes lane) now).state ≠ .ready := LaneState.noConfusion
      rw [hcall, refusal_recomputed hchanged]
      have hspends := @spendsGaps_iff s lane ((s.at_ now).setLane lane (retired (s.lanes lane) now))
        _ rfl hstatus rfl rfl rfl rfl
      rw [hspends]
      exact ⟨fun h _ => h, fun h => h hretire⟩
  | advanceTime now =>
    simp only [step, Harmless, iff_true]
    obtain ⟨message, hclock⟩ | ⟨hle, -⟩ := advanceClock_cases s now
    · unfold advanceTime
      rw [hclock]
      exact fun _ => onlyClock_refl s
    · rw [advanceTime_eq hle, isOk_map]
      intro hfalse
      rw [(recomputeCoverage_refused _ now).2 hfalse]
      exact onlyClock_settled ((recomputeCoverage_refused _ now).1.mp hfalse).1
  | restartRequests now =>
    simp only [step, Harmless, iff_true]
    unfold restartRequests
    obtain ⟨message, hclock⟩ | ⟨-, hclock⟩ := advanceClock_cases s now
    · rw [hclock]
      exact fun _ => onlyClock_refl s
    · rw [hclock]
      dsimp only
      split
      · exact fun h => Bool.noConfusion h
      · exact fun h => Bool.noConfusion h

/-! ## Burnt tokens -/

/-- **Step.** A registered token stays registered. -/
theorem step_contains (s : HotRedundantSupervisor) (call : Call)
    (htoken : s.usedRunTokens.contains token = true) :
    (step sha256 s call).2.usedRunTokens.contains token = true := by
  have hclock : ∀ {s' : HotRedundantSupervisor}, OnlyClock s s' →
      s'.usedRunTokens.contains token = true := by
    intro s' hclock
    rw [hclock]
    exact htoken
  have hpresented : ∀ fresh, (s.usedRunTokens.insert fresh).contains token = true := by
    intro fresh
    rw [TreeSet.contains_insert, htoken, Bool.or_true]
  have hrecomputed : ∀ (t : HotRedundantSupervisor) (at_ : Nat),
      t.usedRunTokens.contains token = true →
      (t.recomputeCoverage at_).2.usedRunTokens.contains token = true := by
    intro t at_ h
    rw [(recomputeCoverage_keeps t at_).2.1]
    exact h
  cases call with
  | startLane lane fresh now =>
    rcases startLane_cases s lane fresh now with
      ⟨-, message, s', hcall, h⟩ | ⟨-, -, message, -, hcall⟩ | ⟨-, -, -, hcall⟩ |
      ⟨-, -, -, hcall⟩ <;> simp only [step] <;> rw [hcall]
    · exact hclock h.onlyClock
    · exact hpresented fresh
    · exact hpresented fresh
    · exact hrecomputed _ now (hpresented fresh)
  | markReady lane runToken now =>
    rcases markReady_cases s lane runToken now with
      ⟨message, s', hcall, h⟩ | ⟨-, -, -, hcall⟩ | ⟨-, -, -, hcall⟩ <;>
      simp only [step] <;> rw [hcall]
    · exact hclock h.onlyClock
    · exact hrecomputed _ now htoken
    · exact hrecomputed _ now htoken
  | failLane lane runToken reason now =>
    rcases failLane_cases sha256 s lane runToken reason now with
      ⟨-, message, s', hcall, h⟩ | ⟨-, hcall⟩ <;> simp only [step] <;> rw [hcall]
    · exact hclock h.onlyClock
    · exact hrecomputed _ now htoken
  | retireLane lane runToken now =>
    rcases retireLane_cases s lane runToken now with
      ⟨-, message, s', hcall, h⟩ | ⟨-, hcall⟩ <;> simp only [step] <;> rw [hcall]
    · exact hclock h.onlyClock
    · exact hrecomputed _ now htoken
  | advanceTime now =>
    simp only [step]
    obtain ⟨message, h⟩ | ⟨hle, -⟩ := advanceClock_cases s now
    · unfold advanceTime
      rw [h]
      exact htoken
    · rw [advanceTime_eq hle]
      exact hrecomputed _ now htoken
  | restartRequests now =>
    simp only [step]
    unfold restartRequests
    obtain ⟨message, h⟩ | ⟨-, h⟩ := advanceClock_cases s now <;> rw [h]
    · exact htoken
    · dsimp only
      split
      · exact htoken
      · exact htoken

theorem startLane_contains (lane : CaptureLane) (now : Nat)
    (htoken : s.usedRunTokens.contains token = true) :
    (s.startLane lane token now).1.isOk = false := by
  have hstale : ¬ s.Presented token now := by
    intro hpresented
    rw [hpresented.fresh] at htoken
    cases htoken
  rcases startLane_cases s lane token now with
    ⟨-, message, s', hcall, -⟩ | ⟨h, -⟩ | ⟨h, -⟩ | ⟨h, -⟩
  · rw [hcall]
    rfl
  · exact absurd h hstale
  · exact absurd h hstale
  · exact absurd h hstale

/-- **Run.** A token with which a start was refused for its lane starts no lane any more. -/
theorem refused_token_is_burnt (hpresented : s.Presented runToken now)
    (hstart : ¬ s.Startable lane now) (later : List Call) (lane' : CaptureLane) (now' : Nat) :
    ((after sha256 (s.startLane lane runToken now).2 later).startLane lane' runToken now').1.isOk
      = false := by
  refine startLane_contains lane' now' ?_
  refine run_stable (fun s call h => step_contains s call h) ?_ later
  rcases startLane_cases s lane runToken now with
    ⟨h, -⟩ | ⟨-, -, message, -, hcall⟩ | ⟨-, h, -⟩ | ⟨-, h, -⟩
  · exact absurd hpresented h
  · rw [hcall]
    exact TreeSet.contains_insert_self
  · exact absurd h hstart
  · exact absurd h hstart

end

/-- A refused call of a run changes the clock at most, exactly when it is harmless, and a token
    that was refused for the lane is refused from then on. -/
theorem refusals_keep_state (s : HotRedundantSupervisor) (calls : List Call) :
    (∀ call, RefusalKeeps sha256 (after sha256 s calls) call ↔
      (after sha256 s calls).Harmless call) ∧
    ∀ lane runToken now, (after sha256 s calls).Presented runToken now →
      ¬ (after sha256 s calls).Startable lane now → ∀ later lane' now',
        ((after sha256 ((after sha256 s calls).startLane lane runToken now).2 later).startLane lane'
          runToken now').1.isOk = false := by
  refine ⟨fun call => refusalKeeps_iff _ call, ?_⟩
  intro lane runToken now hpresented hstart later lane' now'
  exact refused_token_is_burnt hpresented hstart later lane' now'

/-- The calls that leave the primary lane in backoff until 2. -/
def backedOff : List Call := [.startLane .primary "p0" 0, .failLane .primary "p0" "lost" 1]

/-- A start that comes too early burns its token: it is refused later, where another one starts. -/
theorem early_start_burns_token :
    ∃ s, new plainConfig 0 = .ok s ∧
      ¬ RefusalKeeps (fun _ => digestOfNat 0) (after (fun _ => digestOfNat 0) s backedOff)
        (.startLane .primary "p1" 1) ∧
      ((after (fun _ => digestOfNat 0) s (backedOff ++ [.startLane .primary "p1" 1])).startLane
        .primary "p1" 2).1.isOk = false ∧
      ((after (fun _ => digestOfNat 0) s (backedOff ++ [.startLane .primary "p1" 1])).startLane
        .primary "p2" 2).1.isOk = true := by
  refine ⟨_, rfl, ?_, by decide +kernel, by decide +kernel⟩
  intro hkeeps
  have hclock := congrArg (fun s => s.usedRunTokens.contains "p1") (hkeeps (by decide +kernel))
  revert hclock
  decide +kernel

end HotRedundantSupervisor

end LobReplay.Redundancy
