/-
  One iteration of the capture loop keeps `Legal`. `Legal` relates the runtimes of the loop to the
  state machine and to the clock: a lane with a runtime is starting or ready under its token, a lane
  without one is in backoff, and after the horizon every lane is terminal.
-/

import LobReplay.Redundancy.Legality

namespace LobReplay.Redundancy

open Foundation
open HotRedundantSupervisor
open Campaign (CampaignJournalEnvelopeV1)

/-! ## The invariant -/

/-- A runtime in time: its lane has made one launch for each second until it started. -/
structure Running (clock : Nat) (status : LaneStatus) (runtime : LaneRuntime) : Prop where
  explained : Explained runtime
  attempt_le : status.launchAttempt * 1000000000 ≤ runtime.startedMonoNs + 1000000000
  started_le : runtime.startedMonoNs ≤ clock
  seen : ∀ t, runtime.exitSeen = some t → runtime.startedMonoNs ≤ t ∧ t ≤ clock
  /-- An exit is seen when its status is taken. -/
  exit_eq : runtime.exitStatus.isSome = runtime.exitSeen.isSome

/-- The state of a lane fits its runtime; after the horizon it is of no account. -/
def LaneLegal (closed : Bool) (clock : Nat) (status : LaneStatus) : Option LaneRuntime → Prop
  | none => (closed = false → status.state = .absent ∨ status.state = .backoff) ∧
      status.launchAttempt * 1000000000 ≤ clock
  | some runtime => Running clock status runtime ∧ (closed = false →
      status.runToken = some runtime.token ∧
      status.state = if runtime.ready then .ready else .starting)

/-- The invariant of the loop: the next call is made at `limit` or later, the last read of the
    clock was `clock`. -/
structure Legal (args : Arguments) (s : CaptureState) (limit clock : Nat) : Prop where
  clock_le : s.supervisor.lastMonoNs ≤ limit
  terminal_eq : s.supervisor.terminal = s.horizonClosed
  before : s.horizonClosed = false → s.supervisor.lastMonoNs ≤ args.deadline ∧ s.supervisor.Roomy
  after : s.horizonClosed = true → ∀ lane, (s.supervisor.lanes lane).state = .terminal
  gaps_le : s.supervisor.nextGapId ≤ s.supervisor.launches
  attempt_le : ∀ lane, (s.supervisor.lanes lane).launchAttempt ≤ args.totalS + 1
  lanes : ∀ lane, LaneLegal s.horizonClosed clock (s.supervisor.lanes lane) (s.runtimes lane)
  tokens : Tokens s.supervisor
  tracked : Tracked s.supervisor s.gaps

section

variable {closed : Bool} {clock clock' : Nat} {status status' : LaneStatus} {o : Option LaneRuntime}
variable {runtime runtime' : LaneRuntime}

theorem Running.mono (h : Running clock status runtime) (hle : clock ≤ clock') :
    Running clock' status runtime :=
  ⟨h.explained, h.attempt_le, h.started_le.trans hle, fun t ht =>
    ⟨(h.seen t ht).1, (h.seen t ht).2.trans hle⟩, h.exit_eq⟩

theorem LaneLegal.mono (h : LaneLegal closed clock status o) (hle : clock ≤ clock') :
    LaneLegal closed clock' status o := by
  cases o with
  | none => exact ⟨h.1, h.2.trans hle⟩
  | some runtime => exact ⟨h.1.mono hle, h.2⟩

/-- What has been learned from the child does not matter to the state machine. -/
theorem LaneLegal.continued {before after : Option LaneRuntime}
    (h : LaneLegal closed clock status before) (hafter : Continued before after) :
    LaneLegal closed clock status after := by
  cases before with
  | none =>
    cases hafter
    exact h
  | some runtime =>
    obtain ⟨runtime', rfl, hsame⟩ := hafter
    obtain ⟨hrunning, hstate⟩ := h
    refine ⟨⟨hsame.explained hrunning.explained, ?_, ?_, ?_, ?_⟩, ?_⟩
    · rw [hsame.started_eq]
      exact hrunning.attempt_le
    · rw [hsame.started_eq]
      exact hrunning.started_le
    · rw [hsame.started_eq, hsame.exitSeen_eq]
      exact hrunning.seen
    · rw [hsame.exitStatus_eq, hsame.exitSeen_eq]
      exact hrunning.exit_eq
    · rw [hsame.token_eq, hsame.ready_eq]
      exact hstate

theorem LaneLegal.congr (h : LaneLegal closed clock status o)
    (hstate : status'.state = status.state) (htoken : status'.runToken = status.runToken)
    (hattempt : status'.launchAttempt = status.launchAttempt) :
    LaneLegal closed clock status' o := by
  cases o with
  | none =>
    unfold LaneLegal at h ⊢
    rw [hstate, hattempt]
    exact h
  | some runtime =>
    obtain ⟨hrunning, hopen⟩ := h
    refine ⟨⟨hrunning.explained, ?_, hrunning.started_le, hrunning.seen,
      hrunning.exit_eq⟩, ?_⟩
    · rw [hattempt]
      exact hrunning.attempt_le
    · rw [hstate, htoken]
      exact hopen

end

namespace Legal

variable {args : Arguments} {s s' : CaptureState} {limit limit' clock clock' : Nat}

section

variable (h : Legal args s limit clock)
include h

theorem mono (hlimit : limit ≤ limit') (hle : clock ≤ clock') : Legal args s limit' clock' :=
  { h with
    clock_le := h.clock_le.trans hlimit
    lanes := fun lane => (h.lanes lane).mono hle }

/-- There is an identity for the next gap. -/
theorem launches_lt : s.supervisor.launches + 1 < u64Max := by
  have hprimary := h.attempt_le .primary
  have hshadow := h.attempt_le .shadow
  have := args.total_le
  simp only [launches, u64Max]
  omega

/-- Only the state machine, the runtimes, the account and the horizon matter. -/
theorem congr (hsupervisor : s'.supervisor = s.supervisor) (hruntimes : s'.runtimes = s.runtimes)
    (hgaps : s'.gaps = s.gaps) (hclosed : s'.horizonClosed = s.horizonClosed) :
    Legal args s' limit clock := by
  constructor <;> simp only [hsupervisor, hruntimes, hgaps, hclosed]
  · exact h.clock_le
  · exact h.terminal_eq
  · exact h.before
  · exact h.after
  · exact h.gaps_le
  · exact h.attempt_le
  · exact h.lanes
  · exact h.tokens
  · exact h.tracked

theorem setRuntime (lane : CaptureLane) {o : Option LaneRuntime}
    (ho : LaneLegal s.horizonClosed clock (s.supervisor.lanes lane) o) :
    Legal args (s.setRuntime lane o) limit clock := by
  refine { h with lanes := fun lane' => ?_ }
  show LaneLegal s.horizonClosed clock (s.supervisor.lanes lane')
    (Function.update s.runtimes lane o lane')
  by_cases hlane : lane' = lane
  · subst hlane
    rw [Function.update_self]
    exact ho
  · rw [Function.update_of_ne hlane]
    exact h.lanes lane'

theorem heard (hheard : Heard s s') : Legal args s' limit clock := by
  obtain ⟨hsupervisor, hgaps, hclosed, hcontinued⟩ := hheard
  refine ⟨?_, ?_, ?_, ?_, ?_, ?_, fun lane => ?_, ?_, ?_⟩ <;> try rw [hsupervisor]
  · exact h.clock_le
  · rw [hclosed]
    exact h.terminal_eq
  · rw [hclosed]
    exact h.before
  · rw [hclosed]
    exact h.after
  · exact h.gaps_le
  · exact h.attempt_le
  · rw [hclosed]
    exact (h.lanes lane).continued (hcontinued lane)
  · exact h.tokens
  · rw [hgaps]
    exact h.tracked

end

end Legal

/-! ## One call before the horizon -/

/-- What a call sets up before it recomputes the coverage at `now`, the horizon being open. -/
structure SetUp (args : Arguments) (gaps : List GapInterval) (u : HotRedundantSupervisor)
    (runtimes : CaptureLane → Option LaneRuntime) (now clock : Nat) : Prop where
  clock_eq : u.lastMonoNs = now
  terminal_eq : u.terminal = false
  room : u.Room
  attempt_le : ∀ lane, (u.lanes lane).launchAttempt ≤ args.totalS + 1
  lanes : ∀ lane, LaneLegal false clock (u.lanes lane) (runtimes lane)
  tokens : Tokens u
  tracked : Tracked u gaps

/-- **A call is made.** The supervisor recomputes the coverage and the transition is recorded; with
    the runtimes of the call the state is legal again. -/
theorem SetUp.supervise {args : Arguments} {s : CaptureState} {u : HotRedundantSupervisor}
    {runtimes : CaptureLane → Option LaneRuntime} {now clock : Nat}
    (h : SetUp args s.gaps u runtimes now clock) (hopen : s.horizonClosed = false)
    (hnow : now ≤ args.deadline) :
    ∃ s', Redundancy.supervise s (u.recomputeCoverage now) = .ok s' ∧ SameRuns s s' ∧
      s'.supervisor.lanes = u.lanes ∧ s'.supervisor.config = u.config ∧
      Legal args { s' with runtimes := runtimes } now clock := by
  have hnext : u.nextGapId + 1 < u64Max := by
    have hle := h.room.nextGapId_le
    have hprimary := h.attempt_le .primary
    have hshadow := h.attempt_le .shadow
    have := args.total_le
    simp only [launches, u64Max] at hle ⊢
    omega
  obtain ⟨s', transition, hcall, hu, htracked, hsame⟩ :=
    supervise_recompute now h.tracked (by omega)
  have hroomy := hu.roomy h.terminal_eq h.room
  have hopen' : s'.horizonClosed = false := hsame.closed_eq.trans hopen
  refine ⟨s', hcall, hsame, hu.lanes_eq, hu.config_eq, ?_⟩
  constructor <;> dsimp only
  · rw [hu.clock_eq, h.clock_eq]
  · rw [hu.terminal_eq, h.terminal_eq, hopen']
  · intro _
    refine ⟨?_, hroomy⟩
    rw [hu.clock_eq, h.clock_eq]
    exact hnow
  · intro hclosed
    rw [hopen'] at hclosed
    cases hclosed
  · exact hroomy.room.nextGapId_le
  · rw [hu.lanes_eq]
    exact h.attempt_le
  · rw [hu.lanes_eq, hopen']
    exact h.lanes
  · intro token htoken
    rw [hu.tokens_eq] at htoken
    rw [hu.lanes_eq]
    exact h.tokens token htoken
  · exact htracked

section

variable {codec : CaptureCodec} {args : Arguments} {runDir : String} {late : Prop}
  {u : HotRedundantSupervisor}
variable {s : CaptureState} {now clock : Nat}
variable {lane : CaptureLane} {status : LaneStatus}

theorem setLane_other (u : HotRedundantSupervisor) (status : LaneStatus) {lane' : CaptureLane}
    (h : lane' ≠ lane) : (u.setLane lane status).lanes lane' = u.lanes lane' :=
  Function.update_of_ne h _ _

theorem setLane_self (u : HotRedundantSupervisor) (lane : CaptureLane) (status : LaneStatus) :
    (u.setLane lane status).lanes lane = status :=
  Function.update_self _ _ _

theorem forall_setLane {P : CaptureLane → LaneStatus → Prop} (hself : P lane status)
    (hother : ∀ lane', lane' ≠ lane → P lane' (u.lanes lane')) (lane' : CaptureLane) :
    P lane' ((u.setLane lane status).lanes lane') := by
  by_cases h : lane' = lane
  · subst h
    rw [setLane_self]
    exact hself
  · rw [setLane_other u status h]
    exact hother lane' h

theorem Tokens.setLane (h : Tokens u) (hle : (u.lanes lane).launchAttempt ≤ status.launchAttempt) :
    Tokens (u.setLane lane status) := by
  intro token htoken
  obtain ⟨lane', attempt, uuid, heq, hattempt⟩ := h token htoken
  refine ⟨lane', attempt, uuid, heq, ?_⟩
  by_cases hlane : lane' = lane
  · subst hlane
    rw [setLane_self]
    exact hattempt.trans hle
  · rw [setLane_other u status hlane]
    exact hattempt

section

variable (h : Legal args s now clock)
include h

theorem Legal.setUp_ready (runtime : LaneRuntime) (hopen : s.horizonClosed = false)
    (hstate : (s.supervisor.lanes lane).state = .starting)
    (htoken : (s.supervisor.lanes lane).runToken = some runtime.token)
    (hready : runtime.ready = true) (hrunning : Running clock (s.supervisor.lanes lane) runtime) :
    SetUp args s.gaps
      { ({ s.supervisor with lastMonoNs := now } : HotRedundantSupervisor).setLane lane
        (readied (s.supervisor.lanes lane) now) with everReady := true }
      (Function.update s.runtimes lane (some runtime)) now clock where
  clock_eq := rfl
  terminal_eq := h.terminal_eq.trans hopen
  room := (h.before hopen).2.ready hstate
  attempt_le := by
    apply forall_setLane (P := fun _ status => status.launchAttempt ≤ args.totalS + 1)
    · exact h.attempt_le lane
    · exact fun lane' _ => h.attempt_le lane'
  lanes := by
    apply forall_setLane (P := fun lane' status =>
      LaneLegal false clock status (Function.update s.runtimes lane (some runtime) lane'))
    · rw [Function.update_self]
      refine ⟨⟨hrunning.explained, hrunning.attempt_le, hrunning.started_le, hrunning.seen,
      hrunning.exit_eq⟩, ?_⟩
      intro _
      rw [hready]
      exact ⟨htoken, rfl⟩
    · intro lane' hne
      rw [Function.update_of_ne hne]
      have hlane := h.lanes lane'
      rw [hopen] at hlane
      exact hlane
  tokens := h.tokens.setLane (Nat.le_refl _)
  tracked := ⟨h.tracked.ids, h.tracked.held⟩

/-- A lane that fails or retires. -/
theorem Legal.setUp_backOff (hopen : s.horizonClosed = false)
    (hstatus : BackedOff (s.supervisor.lanes lane) status)
    (hspent : status.launchAttempt * 1000000000 ≤ clock) :
    SetUp args s.gaps
      (({ s.supervisor with lastMonoNs := now } : HotRedundantSupervisor).setLane lane status)
      (Function.update s.runtimes lane none) now clock where
  clock_eq := rfl
  terminal_eq := h.terminal_eq.trans hopen
  room := (h.before hopen).2.backOff hstatus
  attempt_le := by
    apply forall_setLane (P := fun _ status => status.launchAttempt ≤ args.totalS + 1)
    · rw [hstatus.attempt_eq]
      exact h.attempt_le lane
    · exact fun lane' _ => h.attempt_le lane'
  lanes := by
    apply forall_setLane (P := fun lane' status =>
      LaneLegal false clock status (Function.update s.runtimes lane none lane'))
    · rw [Function.update_self]
      exact ⟨fun _ => Or.inr hstatus.state_eq, hspent⟩
    · intro lane' hne
      rw [Function.update_of_ne hne]
      have hlane := h.lanes lane'
      rw [hopen] at hlane
      exact hlane
  tokens := h.tokens.setLane (Nat.le_of_eq hstatus.attempt_eq.symm)
  tracked := ⟨h.tracked.ids, h.tracked.held⟩

theorem Legal.setUp_start {uuid : String} (runtime : LaneRuntime) (hopen : s.horizonClosed = false)
    (hidle : (s.supervisor.lanes lane).state = .absent ∨ (s.supervisor.lanes lane).state = .backoff)
    (htoken : runtime.token = laneToken lane ((s.supervisor.lanes lane).launchAttempt + 1) uuid)
    (hready : runtime.ready = false) (hexplained : Explained runtime)
    (hunseen : runtime.exitSeen = none) (hrunning : runtime.exitStatus = none)
    (hspent : (s.supervisor.lanes lane).launchAttempt * 1000000000 ≤ runtime.startedMonoNs)
    (hstarted : runtime.startedMonoNs ≤ clock)
    (hfew : (s.supervisor.lanes lane).launchAttempt ≤ args.totalS) :
    SetUp args s.gaps
      (({ s.supervisor with
          lastMonoNs := now
          usedRunTokens := s.supervisor.usedRunTokens.insert runtime.token } :
            HotRedundantSupervisor).setLane lane
        (started (s.supervisor.lanes lane) runtime.token now))
      (Function.update s.runtimes lane (some runtime)) now clock where
  clock_eq := rfl
  terminal_eq := h.terminal_eq.trans hopen
  room := (h.before hopen).2.start hidle
  attempt_le := by
    apply forall_setLane (P := fun _ status => status.launchAttempt ≤ args.totalS + 1)
    · exact Nat.succ_le_succ hfew
    · exact fun lane' _ => h.attempt_le lane'
  lanes := by
    apply forall_setLane (P := fun lane' status =>
      LaneLegal false clock status (Function.update s.runtimes lane (some runtime) lane'))
    · rw [Function.update_self]
      refine ⟨⟨hexplained, ?_, hstarted, ?_, by rw [hunseen, hrunning]; rfl⟩, ?_⟩
      · rw [show (started (s.supervisor.lanes lane) runtime.token now).launchAttempt
          = (s.supervisor.lanes lane).launchAttempt + 1 from rfl, Nat.succ_mul]
        exact Nat.add_le_add_right hspent _
      · rw [hunseen]
        intro t ht
        cases ht
      · intro _
        rw [hready]
        exact ⟨rfl, rfl⟩
    · intro lane' hne
      rw [Function.update_of_ne hne]
      have hlane := h.lanes lane'
      rw [hopen] at hlane
      exact hlane
  tokens := by
    intro token hused
    have hused' : (s.supervisor.usedRunTokens.insert runtime.token).contains token = true := hused
    rw [Std.TreeSet.contains_insert, Bool.or_eq_true] at hused'
    rcases hused' with heq | hused'
    · -- the token of this launch
      have heq' : runtime.token = token := by simpa using heq
      refine ⟨lane, _, uuid, heq' ▸ htoken, ?_⟩
      rw [setLane_self]
      exact Nat.le_refl _
    · exact h.tokens.setLane (u := { s.supervisor with lastMonoNs := now }) (Nat.le_succ _) token
        hused'
  tracked := ⟨h.tracked.ids, h.tracked.held⟩

/-- Time that passes. -/
theorem Legal.setUp_advance (hopen : s.horizonClosed = false) :
    SetUp args s.gaps
      { s.supervisor with
        lastMonoNs := now
        lanes := fun lane => settled s.supervisor.config now (s.supervisor.lanes lane) }
      s.runtimes now clock where
  clock_eq := rfl
  terminal_eq := h.terminal_eq.trans hopen
  room := (h.before hopen).2.settle
  attempt_le := by
    intro lane
    show (settled _ _ _).launchAttempt ≤ _
    rw [(settled_keeps _ _ _).2.2]
    exact h.attempt_le lane
  lanes := by
    intro lane
    have hlane := h.lanes lane
    rw [hopen] at hlane
    obtain ⟨hstate, htoken, hattempt⟩ := settled_keeps s.supervisor.config now (s.supervisor.lanes lane)
    exact hlane.congr hstate htoken hattempt
  tokens := by
    intro token htoken
    obtain ⟨lane, attempt, uuid, heq, hle⟩ := h.tokens token htoken
    refine ⟨lane, attempt, uuid, heq, ?_⟩
    show _ ≤ (settled _ _ _).launchAttempt
    rw [(settled_keeps _ _ _).2.2]
    exact hle
  tracked := ⟨h.tracked.ids, h.tracked.held⟩

end

end

end LobReplay.Redundancy
