/-
  The restart schedule of the availability state machine and its circuit breaker. A restart request
  and a start look at the same two gates, the deadline of the reconnect and the breaker; they
  disagree only where a counter of the start is spent.

  `operate_lane` says what an operation can do to a lane.
-/

import LobReplay.Redundancy.Refusals

namespace LobReplay.Redundancy

open Foundation
open Std (TreeSet)

namespace HotRedundantSupervisor

/-! ## Operations -/

/-- An operation of a supervisor: a call, or its termination. -/
inductive Operation where
  | call (call : Call)
  | terminate (nowMonoNs : Nat)
  deriving DecidableEq

variable (sha256 : Bytes → FixedBytes 32)

def operate (s : HotRedundantSupervisor) : Operation → Result Reply × HotRedundantSupervisor
  | .call call => step sha256 s call
  | .terminate now => (s.terminate now).map (Except.map .transition) id

def operated (s : HotRedundantSupervisor) (operations : List Operation) : HotRedundantSupervisor :=
  (run (operate sha256) s operations).2

inductive LaneStep (s : HotRedundantSupervisor) (lane : CaptureLane) :
    Operation → LaneStatus → Prop where
  | same (operation : Operation) : LaneStep s lane operation (s.lanes lane)
  | settled (now : Nat) :
    LaneStep s lane (.call (.advanceTime now)) (settled s.config now (s.lanes lane))
  | launched {runToken : String} {now : Nat} (hpresented : s.Presented runToken now)
    (hstart : s.Startable lane now) :
    LaneStep s lane (.call (.startLane lane runToken now)) (started (s.lanes lane) runToken now)
  | exhausted {runToken : String} {now : Nat} (hpresented : s.Presented runToken now)
    (hstart : s.Startable lane now) :
    LaneStep s lane (.call (.startLane lane runToken now)) (overflown (s.lanes lane) runToken)
  | readied {runToken : String} {now : Nat} (hclock : s.lastMonoNs ≤ now)
    (htoken : (s.lanes lane).runToken = some runToken)
    (hstate : (s.lanes lane).state = .starting) :
    LaneStep s lane (.call (.markReady lane runToken now)) (readied (s.lanes lane) now)
  | failed {runToken reason : String} {now : Nat} (hfail : s.Failable lane runToken reason now) :
    LaneStep s lane (.call (.failLane lane runToken reason now))
      (failed sha256 s.config lane (s.lanes lane) runToken reason now)
  | retired {runToken : String} {now : Nat} (hretire : s.Retirable lane runToken now) :
    LaneStep s lane (.call (.retireLane lane runToken now)) (retired (s.lanes lane) now)
  | stopped {now : Nat} (hclock : s.lastMonoNs ≤ now) :
    LaneStep s lane (.terminate now)
      { s.lanes lane with state := .terminal, restartNotBeforeMonoNs := none }

/-- The instant an operation names. -/
def Operation.now : Operation → Nat
  | .call (.startLane _ _ now) | .call (.markReady _ _ now) | .call (.failLane _ _ _ now)
  | .call (.retireLane _ _ now) | .call (.advanceTime now) | .call (.restartRequests now)
  | .terminate now => now

/-- What an operation does to the rest: the policy stays, the clock is set or stays, and
    termination is for good. -/
structure Operated (s : HotRedundantSupervisor) (operation : Operation)
    (s' : HotRedundantSupervisor) : Prop where
  config_eq : s'.config = s.config
  clock_eq : s'.lastMonoNs = max s.lastMonoNs operation.now
  terminal_eq : s'.terminal = s.terminal ∨ s'.terminal = true
  lane : ∀ lane, LaneStep sha256 s lane operation (s'.lanes lane)

section

variable {sha256} {s : HotRedundantSupervisor}

/-- A recomputation leaves the policy alone. -/
theorem recomputeCoverage_config (s : HotRedundantSupervisor) (now : Nat) :
    (s.recomputeCoverage now).2.config = s.config := by
  rcases recomputeCoverage_cases s now with hcase | ⟨-, -, -, hcase⟩ | ⟨gap, -, -, hcase⟩ |
    ⟨-, -, hcase⟩ <;> rw [hcase]

/-- A call that leaves the lanes alone. -/
theorem Operated.untouched {operation : Operation} {s' : HotRedundantSupervisor}
    (h : s.Untouched operation.now s') : Operated sha256 s operation s' := by
  rw [show s' = s.at_ (max s.lastMonoNs operation.now) from h]
  exact ⟨rfl, rfl, Or.inl rfl, fun lane => .same operation⟩

theorem operated_setLane {lane : CaptureLane} {call : Call} {status : LaneStatus}
    {t : HotRedundantSupervisor} (hconfig : t.config = s.config) (hlanes : t.lanes = s.lanes)
    (hterminal : t.terminal = s.terminal) (hclock : s.lastMonoNs ≤ (Operation.call call).now)
    (hnow : t.lastMonoNs = (Operation.call call).now)
    (hstatus : LaneStep sha256 s lane (.call call) status) :
    Operated sha256 s (.call call) (t.setLane lane status) := by
  refine ⟨hconfig, hnow.trans (Nat.max_eq_right hclock).symm, Or.inl hterminal, ?_⟩
  intro other
  by_cases hother : other = lane
  · subst hother
    rw [setLane_lanes_self]
    exact hstatus
  · have : (t.setLane lane status).lanes other = s.lanes other := by
      unfold setLane
      rw [← hlanes]
      exact Function.update_of_ne hother _ _
    rw [this]
    exact .same _

/-- A recomputation changes neither the lanes nor the clock. -/
theorem Operated.recomputed {operation : Operation} {t : HotRedundantSupervisor}
    (h : Operated sha256 s operation t) (now : Nat) :
    Operated sha256 s operation (t.recomputeCoverage now).2 := by
  obtain ⟨hlanes, -, hterminal, hlast⟩ := recomputeCoverage_keeps t now
  refine ⟨?_, ?_, ?_, ?_⟩
  · rw [recomputeCoverage_config]
    exact h.config_eq
  · rw [hlast]
    exact h.clock_eq
  · rw [hterminal]
    exact h.terminal_eq
  · rw [hlanes]
    exact h.lane

variable (sha256) in
/-- **Inversion.** What an operation does. -/
theorem operate_operated (s : HotRedundantSupervisor) (operation : Operation) :
    Operated sha256 s operation (operate sha256 s operation).2 := by
  cases operation with
  | call call =>
    simp only [operate]
    cases call with
    | startLane lane runToken now =>
      simp only [step]
      rcases startLane_cases s lane runToken now with
        ⟨-, message, s', hcall, hclock⟩ | ⟨hpresented, -, message, -, hcall⟩ |
        ⟨hpresented, hstart, -, hcall⟩ | ⟨hpresented, hstart, -, hcall⟩ <;> rw [hcall]
      · exact .untouched hclock
      · exact ⟨rfl, (Nat.max_eq_right hpresented.clock).symm, Or.inl rfl, fun lane => .same _⟩
      · exact operated_setLane (t := s.presented runToken now) rfl rfl rfl hpresented.clock rfl
          (.exhausted hpresented hstart)
      · refine Operated.recomputed ?_ now
        exact operated_setLane (t := s.presented runToken now) rfl rfl rfl hpresented.clock rfl
          (.launched hpresented hstart)
    | markReady lane runToken now =>
      simp only [step]
      rcases markReady_cases s lane runToken now with
        ⟨message, s', hcall, hclock⟩ | ⟨hle, -, -, hcall⟩ | ⟨hle, htoken, hstate, hcall⟩ <;>
        rw [hcall]
      · exact .untouched hclock
      · refine Operated.recomputed (t := s.at_ now) ?_ now
        exact .untouched (untouched_at hle)
      · refine Operated.recomputed ?_ now
        exact operated_setLane (t := { s.at_ now with everReady := true }) rfl rfl rfl hle rfl
          (.readied hle htoken hstate)
    | failLane lane runToken reason now =>
      simp only [step]
      rcases failLane_cases sha256 s lane runToken reason now with
        ⟨-, message, s', hcall, hclock⟩ | ⟨hfail, hcall⟩ <;> rw [hcall]
      · exact .untouched hclock
      · refine Operated.recomputed ?_ now
        exact operated_setLane (t := s.at_ now) rfl rfl rfl hfail.clock rfl (.failed hfail)
    | retireLane lane runToken now =>
      simp only [step]
      rcases retireLane_cases s lane runToken now with
        ⟨-, message, s', hcall, hclock⟩ | ⟨hretire, hcall⟩ <;> rw [hcall]
      · exact .untouched hclock
      · refine Operated.recomputed ?_ now
        exact operated_setLane (t := s.at_ now) rfl rfl rfl hretire.clock rfl (.retired hretire)
    | advanceTime now =>
      simp only [step]
      obtain ⟨message, hclock⟩ | ⟨hle, -⟩ := advanceClock_cases s now
      · unfold advanceTime
        rw [hclock]
        exact .untouched (untouched_regressed hclock)
      · rw [advanceTime_eq hle]
        refine Operated.recomputed ?_ now
        exact ⟨rfl, (Nat.max_eq_right hle).symm, Or.inl rfl, fun lane => .settled now⟩
    | restartRequests now =>
      simp only [step]
      unfold restartRequests
      obtain ⟨message, hclock⟩ | ⟨hle, hclock⟩ := advanceClock_cases s now <;> rw [hclock]
      · exact .untouched (untouched_regressed hclock)
      · dsimp only
        split <;> exact .untouched (untouched_at hle)
  | terminate now =>
    simp only [operate]
    obtain ⟨message, hclock⟩ | ⟨hle, -⟩ := advanceClock_cases s now
    · unfold terminate
      rw [hclock]
      exact .untouched (untouched_regressed hclock)
    · rw [terminate_eq hle]
      exact ⟨rfl, (Nat.max_eq_right hle).symm, Or.inr rfl, fun lane => .stopped hle⟩

end

/-! ## The gates of a lane -/

/-- A lane in backoff has a deadline, and the breaker of a running lane is not open. -/
structure Gated (status : LaneStatus) : Prop where
  deadline : status.state = .backoff → status.restartNotBeforeMonoNs.isSome
  running : status.state = .starting ∨ status.state = .ready → status.circuitState ≠ .opened

def Starts (s : HotRedundantSupervisor) (lane : CaptureLane) (runToken : String) (now : Nat) :
    Prop := (s.startLane lane runToken now).1.isOk = true

section

variable {sha256} {s : HotRedundantSupervisor} {lane : CaptureLane} {runToken : String} {now : Nat}

theorem Starts.presented (h : s.Starts lane runToken now) :
    s.Presented runToken now ∧ s.Startable lane now := by
  unfold Starts at h
  rcases startLane_cases s lane runToken now with
    ⟨-, message, s', hcall, -⟩ | ⟨-, -, message, -, hcall⟩ | ⟨-, -, -, hcall⟩ |
    ⟨hpresented, hstart, -, -⟩
  · rw [hcall] at h
    cases h
  · rw [hcall] at h
    cases h
  · rw [hcall] at h
    cases h
  · exact ⟨hpresented, hstart⟩

end

/-! ## The spacing of attempts -/

/-- An operation is a start of the lane that passes its gates. -/
def Launches (s : HotRedundantSupervisor) (lane : CaptureLane) : Operation → Prop
  | .call (.startLane other runToken now) =>
    other = lane ∧ s.Presented runToken now ∧ s.Startable lane now
  | _ => False

/-- A run without an operation that has the property. -/
def Without (P : HotRedundantSupervisor → Operation → Prop) (s : HotRedundantSupervisor)
    (operations : List Operation) : Prop :=
  ∀ transition ∈ transitions (operate sha256) s operations, ¬ P transition.1 transition.2.1

/-- A lane whose breaker has been open since `t` waits. -/
structure Waiting (status : LaneStatus) (t : Nat) : Prop where
  state_eq : status.state = .backoff
  circuit_eq : status.circuitState = .opened
  since_eq : status.circuitOpenMonoNs = some t

section

variable {sha256} {s : HotRedundantSupervisor} {lane : CaptureLane} {runToken : String}
  {now t : Nat} {operation : Operation} {operations : List Operation}

/-- **Run.** A terminated supervisor stays terminated. -/
theorem terminal_operated (h : s.terminal = true) (operations : List Operation) :
    (operated sha256 s operations).terminal = true := by
  refine run_stable (Q := fun s : HotRedundantSupervisor => s.terminal = true) ?_ h operations
  intro s operation h
  rcases (operate_operated sha256 s operation).terminal_eq with hsame | hstopped
  · exact hsame.trans h
  · exact hstopped

theorem Launches.start (h : s.Launches lane operation) :
    ∃ runToken now, operation = .call (.startLane lane runToken now) ∧
      s.Presented runToken now ∧ s.Startable lane now := by
  unfold Launches at h
  split at h
  · next other runToken now =>
    obtain ⟨rfl, hpresented, hstart⟩ := h
    exact ⟨runToken, now, rfl, hpresented, hstart⟩
  · exact h.elim

theorem Waiting.startable_iff (h : Waiting (s.lanes lane) t) (ht : t ≤ now) :
    s.Startable lane now ↔ t + s.config.circuitResetCooldownNs ≤ now ∧
      ∀ deadline, (s.lanes lane).restartNotBeforeMonoNs = some deadline → deadline ≤ now := by
  have hblocked : s.circuitBlocked (s.lanes lane) now = false ↔
      t + s.config.circuitResetCooldownNs ≤ now := by
    unfold circuitBlocked
    rw [h.circuit_eq, h.since_eq]
    simp only [Option.any_some, decide_eq_true_eq, true_and, decide_eq_false_iff_not]
    omega
  constructor
  · intro hstart
    exact ⟨hblocked.mp hstart.allowed, hstart.due⟩
  · rintro ⟨hcooldown, hdue⟩
    exact ⟨Or.inr h.state_eq, hdue, hblocked.mpr hcooldown⟩

variable (sha256) in
/-- **Step.** A waiting lane stays as it is until it is started or the supervisor terminates. -/
theorem Waiting.operate (h : Waiting (s.lanes lane) t) (operation : Operation) :
    (operate sha256 s operation).2.lanes lane = s.lanes lane ∨ s.Launches lane operation ∨
      (operate sha256 s operation).2.terminal = true := by
  have hoperated := (operate_operated sha256 s operation).lane lane
  generalize hstatus : (HotRedundantSupervisor.operate sha256 s operation).2.lanes lane = status
    at hoperated ⊢
  cases hoperated with
  | same => exact Or.inl rfl
  | settled now =>
    refine Or.inl ?_
    unfold HotRedundantSupervisor.settled
    rw [if_neg (fun hready => by rw [h.state_eq] at hready; cases hready.1)]
  | launched hpresented hstart => exact Or.inr (Or.inl ⟨rfl, hpresented, hstart⟩)
  | exhausted hpresented hstart => exact Or.inr (Or.inl ⟨rfl, hpresented, hstart⟩)
  | readied hclock htoken hstate =>
    rw [h.state_eq] at hstate
    cases hstate
  | failed hfail =>
    have hactive := hfail.active
    rw [h.state_eq] at hactive
    rcases hactive with h | h <;> cases h
  | retired hretire =>
    have hready := hretire.ready
    rw [h.state_eq] at hready
    cases hready
  | stopped hclock =>
    refine Or.inr (Or.inr ?_)
    simp only [HotRedundantSupervisor.operate]
    rw [terminate_eq hclock]
    rfl

/-- **Run.** A waiting lane stays as it is as long as it is not started, or the supervisor has
    been terminated. -/
theorem Waiting.operated (h : Waiting (s.lanes lane) t)
    (hwithout : Without sha256 (fun s => s.Launches lane) s operations) :
    (operated sha256 s operations).lanes lane = s.lanes lane ∨
      (operated sha256 s operations).terminal = true := by
  induction operations generalizing s with
  | nil => exact Or.inl rfl
  | cons operation operations ih =>
    have hfirst := hwithout _ List.mem_cons_self
    have hrest : Without sha256 (fun s => s.Launches lane) (HotRedundantSupervisor.operate sha256 s
        operation).2 operations :=
      fun transition h => hwithout transition (List.mem_cons_of_mem _ h)
    rcases h.operate sha256 operation with hsame | hlaunch | hterminal
    · have hnext := ih (by rw [hsame]; exact h) hrest
      rw [hsame] at hnext
      exact hnext
    · exact absurd hlaunch hfirst
    · exact Or.inr (terminal_operated hterminal operations)

/-- The breaker still holds the lane, its cooldown has passed, or the supervisor has been
    terminated. -/
def Guarded (s : HotRedundantSupervisor) (lane : CaptureLane) (t : Nat) : Prop :=
  Waiting (s.lanes lane) t ∨ t + s.config.circuitResetCooldownNs ≤ s.lastMonoNs ∨
    s.terminal = true

/-- **Step.** An operation keeps a lane guarded. -/
theorem Guarded.operate (h : s.Guarded lane t) (ht : t ≤ s.lastMonoNs) (operation : Operation) :
    (operate sha256 s operation).2.Guarded lane t := by
  have hoperated := operate_operated sha256 s operation
  rcases h with hwaiting | hpassed | hterminal
  · rcases hwaiting.operate sha256 operation with hsame | hlaunch | hterminal
    · exact Or.inl (by rw [hsame]; exact hwaiting)
    · -- the start has passed the breaker
      refine Or.inr (Or.inl ?_)
      rw [hoperated.config_eq, hoperated.clock_eq]
      obtain ⟨runToken, now, rfl, hpresented, hstart⟩ := hlaunch.start
      have hle := Nat.le_trans ht hpresented.clock
      have hcooldown := ((hwaiting.startable_iff hle).mp hstart).1
      exact Nat.le_trans hcooldown (Nat.le_max_right _ _)
    · exact Or.inr (Or.inr hterminal)
  · refine Or.inr (Or.inl ?_)
    rw [hoperated.config_eq, hoperated.clock_eq]
    exact Nat.le_trans hpassed (Nat.le_max_left _ _)
  · rcases hoperated.terminal_eq with hsame | hstopped
    · exact Or.inr (Or.inr (hsame.trans hterminal))
    · exact Or.inr (Or.inr hstopped)

theorem Starts.starting (h : s.Starts lane runToken now) :
    ((s.startLane lane runToken now).2.lanes lane).state = .starting := by
  unfold Starts at h
  rcases startLane_cases s lane runToken now with
    ⟨-, message, s', hcall, -⟩ | ⟨-, -, message, -, hcall⟩ | ⟨-, -, -, hcall⟩ | ⟨-, -, -, hcall⟩
  · rw [hcall] at h
    cases h
  · rw [hcall] at h
    cases h
  · rw [hcall] at h
    cases h
  · rw [hcall, (recomputeCoverage_keeps _ now).1, setLane_lanes_self]
    rfl

theorem Failable.waiting {reason : String} (h : s.Failable lane runToken reason t)
    (hgated : Gated (s.lanes lane))
    (hopened : ((s.failLane sha256 lane runToken reason t).2.lanes lane).circuitState = .opened) :
    Waiting ((s.failLane sha256 lane runToken reason t).2.lanes lane) t ∧
      (s.failLane sha256 lane runToken reason t).2.lastMonoNs = t := by
  rcases failLane_cases sha256 s lane runToken reason t with ⟨hnot, -⟩ | ⟨-, hcall⟩
  · exact absurd h hnot
  rw [hcall] at hopened ⊢
  obtain ⟨hlanes, -, -, hlast⟩ := recomputeCoverage_keeps ((s.at_ t).setLane lane
    (failed sha256 s.config lane (s.lanes lane) runToken reason t)) t
  rw [hlanes, setLane_lanes_self] at hopened ⊢
  refine ⟨⟨failed_state _ _ _ _ _ _ _, hopened, ?_⟩, hlast⟩
  have hclosed := hgated.running h.active
  unfold failed failCircuit at hopened ⊢
  dsimp only at hopened ⊢
  split at hopened
  · next hopens => rw [if_pos hopens]
  · exact absurd hopened hclosed

end

section

variable {sha256} {s : HotRedundantSupervisor} {n : Nat}

end

end HotRedundantSupervisor

end LobReplay.Redundancy
