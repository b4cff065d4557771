/-
  The parts of one iteration of the capture loop, each with what it needs of the clock: the horizon
  closes, the lanes are watched, the completed ones are taken down, the idle ones restarted, and
  time advances.

  `InTime` is what an iteration may not do: sample its time before the deadline and look at the
  horizon after it, or see a lane become ready once the horizon is closed.
-/

import LobReplay.Redundancy.Loop

namespace LobReplay.Redundancy

open Foundation
open HotRedundantSupervisor
open Campaign (CampaignJournalEnvelopeV1)

/-! ## The clock in one iteration -/

/-- The reads of an iteration do not decrease. -/
structure Timely (clock : Nat) (poll : Poll) : Prop where
  now_le : clock ≤ poll.nowRead
  horizon_le : poll.nowRead ≤ poll.horizonRead
  exit_le : ∀ lane, poll.horizonRead ≤ (poll.lanes lane).exitRead
  exits_le : (poll.lanes .primary).exitRead ≤ (poll.lanes .shadow).exitRead
  drain_le : ∀ lane lane', (poll.lanes lane).exitRead ≤ (poll.completions lane').drainRead
  restart_le : ∀ lane, (poll.completions lane).drainRead ≤ poll.restartRead
  started_le : ∀ lane, poll.restartRead ≤ (poll.launches lane).startedRead
  starts_le : (poll.launches .primary).startedRead ≤ (poll.launches .shadow).startedRead
  break_le : ∀ lane, (poll.launches lane).startedRead ≤ poll.breakRead
  grace_le : poll.breakRead ≤ poll.graceRead
  finish_le : poll.graceRead ≤ poll.finishRead

theorem timely_of_pairwise {clock : Nat} {poll : Poll}
    (h : (clock :: poll.reads).Pairwise (· ≤ ·)) : Timely clock poll := by
  -- the reads that matter, in their order
  have hsub : List.Sublist ([] ++ [poll.nowRead, poll.horizonRead] ++ [(poll.lanes .primary).exitRead] ++
      [(poll.lanes .shadow).exitRead] ++
      [(poll.completions .primary).drainRead, (poll.completions .shadow).drainRead] ++ [] ++ [] ++
      [poll.restartRead] ++ [(poll.launches .primary).startedRead] ++
      [(poll.launches .shadow).startedRead] ++
      [poll.breakRead, poll.graceRead, poll.finishRead]) poll.reads := by
    unfold Poll.reads LanePoll.reads LaunchInput.restartReads
    repeat' apply List.Sublist.append
    all_goals simp
  have hsorted := h.sublist (hsub.cons_cons clock)
  simp only [List.nil_append, List.cons_append, List.append_nil, List.pairwise_cons,
    List.mem_cons, List.not_mem_nil, or_false, forall_eq_or_imp, forall_eq] at hsorted
  obtain ⟨hclock, hnow, hhorizon, hexitP, hexitS, hdrainP, hdrainS, hrestart, hstartP, hstartS,
    hbreak, hgrace, -⟩ := hsorted
  constructor
  · omega
  · omega
  · rintro (_ | _) <;> omega
  · omega
  · rintro (_ | _) (_ | _) <;> omega
  · rintro (_ | _) <;> omega
  · rintro (_ | _) <;> omega
  · omega
  · rintro (_ | _) <;> omega
  · omega
  · omega

section

variable {codec : CaptureCodec} {args : Arguments} {runDir : String} {late : Prop}
  {runtime' : LaneRuntime} {request : RestartRequest}
variable {s : CaptureState} {now clock : Nat}

/-! ## The horizon -/

variable {read : Nat} {runtime : LaneRuntime} {lane : CaptureLane} {poll : Poll}

/-- **The horizon closes** at the deadline, when no call has been made after it. -/
theorem closeHorizon_ends (h : Legal args s now clock) (hread : now ≤ read)
    (hcalm : s.horizonClosed = false → args.deadline ≤ read → args.deadline ≤ now) :
    Ends (Outside late) (fun s' => Legal args s' now clock ∧ s'.runtimes = s.runtimes ∧
      (s'.horizonClosed = true ↔ s.horizonClosed = true ∨ args.deadline ≤ read) ∧
      (s'.horizonClosed = false → now ≤ args.deadline)) (closeHorizon args s read) := by
  unfold closeHorizon
  split
  · next hcloses =>
    obtain ⟨hopen, hdeadline⟩ := hcloses
    have hclock := (h.before hopen).1
    rw [args.horizonNs_eq, supervise, terminate_eq hclock]
    obtain ⟨⟨hruntimes, -, -⟩, hgaps, hsupervisor⟩ := noteCoverage_same
      { s with supervisor := s.supervisor.stopped args.deadline }
      ⟨s.supervisor.coverage, .terminal, none, none⟩
    dsimp only [within_ok, bind, Except.bind, recordTransition, noteOpened, noteClosed]
    generalize noteCoverage { s with supervisor := s.supervisor.stopped args.deadline }
      ⟨s.supervisor.coverage, .terminal, none, none⟩ = s₁ at *
    refine ⟨?_, hruntimes, ?_, ?_⟩
    · constructor <;> dsimp only [CaptureState.append] <;>
        simp only [hsupervisor, hruntimes, hgaps]
      · exact hcalm hopen hdeadline
      · rfl
      · intro hfalse
        cases hfalse
      · intro _ lane
        rfl
      · exact h.gaps_le
      · exact h.attempt_le
      · intro lane
        have hlane := h.lanes lane
        cases hruntime : s.runtimes lane with
        | none =>
          rw [hruntime] at hlane
          refine ⟨fun hfalse => ?_, hlane.2⟩
          cases hfalse
        | some runtime =>
          rw [hruntime] at hlane
          obtain ⟨hrunning, -⟩ := hlane
          refine ⟨⟨hrunning.explained, hrunning.attempt_le, hrunning.started_le, hrunning.seen,
            hrunning.exit_eq⟩, fun hfalse => ?_⟩
          cases hfalse
      · exact h.tokens
      · exact ⟨h.tracked.ids, h.tracked.held⟩
    · simp [hdeadline]
    · intro hfalse
      cases hfalse
  · next hstays =>
    refine ⟨h, rfl, ?_, ?_⟩
    · constructor
      · exact Or.inl
      · rintro (hclosed | hdeadline)
        · exact hclosed
        · by_contra hopen
          exact hstays ⟨by simpa using hopen, hdeadline⟩
    · intro hopen
      by_contra hlt
      exact hstays ⟨hopen, by omega⟩

/-! ## The watch -/

/-- What the watch leaves of the run of a lane: its exit has been polled. -/
def Watched (poll : LanePoll) : Option LaneRuntime → Option LaneRuntime → Prop
  | none, after => after = none
  | some runtime, after => ∃ runtime', after = some runtime' ∧
      runtime'.exitStatus = (runtime.pollExit poll).exitStatus ∧
      runtime'.exitSeen = (runtime.pollExit poll).exitSeen

theorem pollExit_keeps (runtime : LaneRuntime) (poll : LanePoll) :
    (runtime.pollExit poll).token = runtime.token ∧
    (runtime.pollExit poll).ready = runtime.ready ∧
    (runtime.pollExit poll).startedMonoNs = runtime.startedMonoNs ∧
    (Explained runtime → Explained (runtime.pollExit poll)) ∧
    (∀ t, (runtime.pollExit poll).exitSeen = some t →
      runtime.exitSeen = some t ∨ t = poll.exitRead) ∧
    (runtime.exitStatus.isSome = runtime.exitSeen.isSome →
      (runtime.pollExit poll).exitStatus.isSome = (runtime.pollExit poll).exitSeen.isSome) := by
  unfold LaneRuntime.pollExit
  split
  · refine ⟨rfl, rfl, rfl, fun h => ⟨h.reason, h.journal⟩, ?_, fun _ => rfl⟩
    rintro t ⟨⟩
    exact Or.inr rfl
  · exact ⟨rfl, rfl, rfl, id, fun t => Or.inl, id⟩

theorem pollExit_congr (poll : LanePoll) (hstatus : runtime'.exitStatus = runtime.exitStatus)
    (hseen : runtime'.exitSeen = runtime.exitSeen) :
    (runtime'.pollExit poll).exitStatus = (runtime.pollExit poll).exitStatus ∧
    (runtime'.pollExit poll).exitSeen = (runtime.pollExit poll).exitSeen := by
  unfold LaneRuntime.pollExit
  rw [hstatus]
  split
  · exact ⟨rfl, rfl⟩
  · exact ⟨hstatus, hseen⟩

/-- The end of a watch: the exit is polled and a silent child noted. -/
theorem noteStale_ends (s : CaptureState) (poll : LanePoll) (o : CaptureLane → Option LaneRuntime)
    (h : Legal args { s with runtimes := o } now clock)
    (hother : ∀ lane', lane' ≠ lane → o lane' = s.runtimes lane') (ho : o lane = some runtime)
    (hexit : clock ≤ poll.exitRead) :
    ∃ runtime', (noteStale s lane (runtime.pollExit poll) poll).runtimes lane = some runtime' ∧
      runtime'.exitStatus = (runtime.pollExit poll).exitStatus ∧
      runtime'.exitSeen = (runtime.pollExit poll).exitSeen ∧
      Legal args (noteStale s lane (runtime.pollExit poll) poll) now poll.exitRead ∧
      (noteStale s lane (runtime.pollExit poll) poll).horizonClosed = s.horizonClosed ∧
      ∀ lane', lane' ≠ lane →
        (noteStale s lane (runtime.pollExit poll) poll).runtimes lane' = s.runtimes lane' := by
  obtain ⟨htoken, hready, hstarted, hexplained, hseen, hexits⟩ := pollExit_keeps runtime poll
  have hlegal := h.lanes lane
  dsimp only at hlegal
  rw [ho] at hlegal
  obtain ⟨hrunning, hopen⟩ := hlegal
  -- the runtime that is stored, whatever its last heartbeat
  have hstored : ∀ heartbeat, LaneLegal s.horizonClosed poll.exitRead (s.supervisor.lanes lane)
      (some { runtime.pollExit poll with lastHeartbeat := heartbeat }) := by
    intro heartbeat
    refine ⟨⟨⟨(hexplained hrunning.explained).reason, (hexplained hrunning.explained).journal⟩,
      ?_, ?_, ?_, hexits hrunning.exit_eq⟩, ?_⟩
    · show _ ≤ (runtime.pollExit poll).startedMonoNs + _
      rw [hstarted]
      exact hrunning.attempt_le
    · show (runtime.pollExit poll).startedMonoNs ≤ _
      rw [hstarted]
      exact hrunning.started_le.trans hexit
    · intro t ht
      show (runtime.pollExit poll).startedMonoNs ≤ _ ∧ _
      rw [hstarted]
      rcases hseen t ht with ht | rfl
      · exact ⟨(hrunning.seen t ht).1, (hrunning.seen t ht).2.trans hexit⟩
      · exact ⟨hrunning.started_le.trans hexit, Nat.le_refl _⟩
    · intro hfalse
      show _ = some (runtime.pollExit poll).token ∧ _ = if (runtime.pollExit poll).ready then _ else _
      rw [htoken, hready]
      exact hopen hfalse
  have hupdate : ∀ x, Function.update s.runtimes lane x = Function.update o lane x := by
    intro x
    funext lane'
    by_cases hlane : lane' = lane
    · subst hlane
      rw [Function.update_self, Function.update_self]
    · rw [Function.update_of_ne hlane, Function.update_of_ne hlane, hother lane' hlane]
  have hset : ∀ heartbeat, Legal args (s.setRuntime lane
      (some { runtime.pollExit poll with lastHeartbeat := heartbeat })) now poll.exitRead := by
    intro heartbeat
    have hlate := (h.mono (Nat.le_refl _) hexit).setRuntime lane (hstored heartbeat)
    exact hlate.congr rfl (hupdate _) rfl rfl
  unfold noteStale
  split
  · refine ⟨_, Function.update_self _ _ _, rfl, rfl, ?_, rfl, ?_⟩
    · exact (hset poll.staleResetRead).congr rfl rfl rfl rfl
    · intro lane' hne
      exact Function.update_of_ne hne _ _
  · refine ⟨_, Function.update_self _ _ _, rfl, rfl, ?_, rfl, ?_⟩
    · exact hset (runtime.pollExit poll).lastHeartbeat
    · intro lane' hne
      exact Function.update_of_ne hne _ _

/-- **The watch over a lane.** It may mark the lane ready, before the horizon only. -/
theorem watchLane_ends (h : Legal args s now clock)
    (hnow : s.horizonClosed = false → now ≤ args.deadline)
    (hexit : clock ≤ (poll.lanes lane).exitRead)
    (hcalm : s.horizonClosed = true → ∀ runtime runtime', s.runtimes lane = some runtime →
      refresh codec runtime (poll.lanes lane).records = .ok runtime' →
      runtime'.becomesReady = false) :
    Ends (Outside late) (fun s' => Legal args s' now (poll.lanes lane).exitRead ∧
      s'.horizonClosed = s.horizonClosed ∧
      Watched (poll.lanes lane) (s.runtimes lane) (s'.runtimes lane) ∧
      ∀ lane', lane' ≠ lane → s'.runtimes lane' = s.runtimes lane')
      (watchLane codec now poll s lane) := by
  unfold watchLane
  cases hruntime : s.runtimes lane with
  | none => exact ⟨h.mono (Nat.le_refl _) hexit, rfl, hruntime, fun _ _ => rfl⟩
  | some runtime =>
    apply Ends.bind (P := fun runtime' => SameRun runtime runtime' ∧
      (s.horizonClosed = true → runtime'.becomesReady = false))
    · apply within_journal_ends
      intro runtime' hrefresh
      exact ⟨refresh_same hrefresh, fun hclosed => hcalm hclosed runtime runtime' hruntime hrefresh⟩
    rintro runtime' ⟨hsame, hquiet⟩
    have hlane := h.lanes lane
    rw [hruntime] at hlane
    have hcontinued : Continued (some runtime) (some runtime') := ⟨runtime', rfl, hsame⟩
    have hlane' := hlane.continued hcontinued
    split
    · next hbecomes =>
      -- the horizon is open and the lane is starting
      have hopen : s.horizonClosed = false := by
        rw [Bool.eq_false_iff]
        intro hclosed
        rw [hquiet hclosed] at hbecomes
        cases hbecomes
      have hnotReady : runtime'.ready = false := by
        unfold LaneRuntime.becomesReady at hbecomes
        rw [Bool.and_eq_true] at hbecomes
        simpa using hbecomes.1
      obtain ⟨hrunning, hstate⟩ := hlane'
      obtain ⟨htoken, hstate⟩ := hstate hopen
      rw [hnotReady] at hstate
      have hset := h.setUp_ready { runtime' with ready := true } hopen hstate htoken rfl
        ⟨⟨hrunning.explained.reason, hrunning.explained.journal⟩, hrunning.attempt_le,
          hrunning.started_le, hrunning.seen, hrunning.exit_eq⟩
      obtain ⟨s', hcall, hsame', -, -, hlegal⟩ := hset.supervise hopen (hnow hopen)
      dsimp only
      rw [markReady_eq h.clock_le htoken hstate, hcall]
      obtain ⟨runtime'', hfound, hstatus, hseen, hlegal', hclosed, hother⟩ :=
        noteStale_ends (s'.append "LANE" [("campaign_id", optionValue runtime'.campaignId),
          ("event", .string "LANE_READY"), ("lane", laneValue lane),
          ("token", .string runtime'.token)]) (poll.lanes lane)
          (Function.update s.runtimes lane (some { runtime' with ready := true }))
          (hlegal.congr rfl rfl rfl rfl) (fun lane' hne => by
            rw [Function.update_of_ne hne, ← hsame'.runtimes_eq]
            rfl) (Function.update_self _ _ _) hexit
      have hexits := pollExit_congr (poll.lanes lane)
        (show ({ runtime' with ready := true } : LaneRuntime).exitStatus = runtime.exitStatus
          from hsame.exitStatus_eq) hsame.exitSeen_eq
      refine ⟨hlegal', hclosed.trans hsame'.closed_eq, ⟨runtime'', hfound, ?_, ?_⟩, ?_⟩
      · rw [hstatus]
        exact hexits.1
      · rw [hseen]
        exact hexits.2
      · intro lane' hne
        rw [hother lane' hne]
        exact congrFun hsame'.runtimes_eq lane'
    · obtain ⟨runtime'', hfound, hstatus, hseen, hlegal', hclosed, hother⟩ :=
        noteStale_ends s (poll.lanes lane) (Function.update s.runtimes lane (some runtime'))
          (h.setRuntime lane hlane') (fun lane' hne => by
            rw [Function.update_of_ne hne]) (Function.update_self _ _ _) hexit
      refine ⟨hlegal', hclosed, ⟨runtime'', hfound, ?_, ?_⟩, hother⟩
      · rw [hstatus]
        exact (pollExit_congr _ hsame.exitStatus_eq hsame.exitSeen_eq).1
      · rw [hseen]
        exact (pollExit_congr _ hsame.exitStatus_eq hsame.exitSeen_eq).2

/-! ## Completions -/

theorem drained_iff :
    runtime.drained read = true ↔ runtime.exitStatus.isSome = true ∧
      ∃ seen, runtime.exitSeen = some seen ∧ childOutputDrain ≤ read - seen := by
  unfold LaneRuntime.drained
  rw [Bool.and_eq_true, any_decide_eq_true]

theorem SameRun.drained_eq (h : SameRun runtime runtime') (read : Nat) :
    runtime'.drained read = runtime.drained read := by
  unfold LaneRuntime.drained
  rw [h.exitStatus_eq, h.exitSeen_eq]

theorem isBlank_reason (h : Explained runtime) (status : ExitStatus) :
    isBlank (runtime.reason status) = false := by
  unfold LaneRuntime.reason
  cases hreason : runtime.failureReason with
  | some reason => exact h.reason reason hreason
  | none => simp [isBlank]

theorem finishLane_ends {status : ExitStatus} {campaignJson : Bool} (h : Legal args s now clock)
    (hnow : s.horizonClosed = false → now ≤ args.deadline)
    (hlane : LaneLegal s.horizonClosed clock (s.supervisor.lanes lane) (some runtime))
    (hspent : (s.supervisor.lanes lane).launchAttempt * 1000000000 ≤ clock) :
    Ends (Outside late) (fun s' => Legal args s' now clock ∧ s'.horizonClosed = s.horizonClosed ∧
      s'.runtimes = Function.update s.runtimes lane none)
      (finishLane codec now s lane runtime status campaignJson) := by
  obtain ⟨hrunning, hstate⟩ := hlane
  unfold finishLane
  dsimp only
  split
  · next hclosed =>
    have hclosed' : s.horizonClosed = true := hclosed
    refine ⟨?_, rfl, rfl⟩
    have hnone : LaneLegal s.horizonClosed clock (s.supervisor.lanes lane) none :=
      ⟨fun hopen => absurd (hclosed'.symm.trans hopen) (by decide), hspent⟩
    exact (h.setRuntime lane hnone).congr rfl rfl rfl rfl
  · next hopen =>
    have hopen' : s.horizonClosed = false := by
      rw [Bool.eq_false_iff]
      exact hopen
    obtain ⟨htoken, hstate⟩ := hstate hopen'
    -- the call sends the lane into backoff, and the coverage is recomputed
    obtain ⟨backoff, hbackoff, hcall⟩ : ∃ backoff, BackedOff (s.supervisor.lanes lane) backoff ∧
        (if runtime.clean status campaignJson = true then
            s.supervisor.retireLane lane runtime.token now
          else s.supervisor.failLane codec.sha256 lane runtime.token (runtime.reason status) now)
          = (({ s.supervisor with lastMonoNs := now } : HotRedundantSupervisor).setLane lane
              backoff).recomputeCoverage now := by
      split
      · next hclean =>
        have hready : runtime.ready = true := by
          unfold LaneRuntime.clean at hclean
          simp only [Bool.and_eq_true] at hclean
          tauto
        rw [hready] at hstate
        exact retireLane_eq h.clock_le htoken hstate
      · apply failLane_eq codec.sha256 h.clock_le (isBlank_reason hrunning.explained status) htoken
        rw [hstate]
        cases runtime.ready
        · exact Or.inl rfl
        · exact Or.inr rfl
    have hset := h.setUp_backOff hopen' hbackoff (by rw [hbackoff.attempt_eq]; exact hspent)
    obtain ⟨s', hsupervise, hsame, -, -, hlegal⟩ :=
      SetUp.supervise (s := s.setRuntime lane none) hset hopen' (hnow hopen')
    -- the runtime is taken down before the call
    have hcall' : (if runtime.clean status campaignJson = true then
          (s.setRuntime lane none).supervisor.retireLane lane runtime.token now
        else (s.setRuntime lane none).supervisor.failLane codec.sha256 lane runtime.token
          (runtime.reason status) now) = _ := hcall
    rw [hcall', hsupervise]
    refine ⟨hlegal.congr rfl hsame.runtimes_eq rfl rfl, hsame.closed_eq, hsame.runtimes_eq⟩

/-- **The completion of a lane** whose run has been drained. -/
theorem completeLane_ends (h : Legal args s now clock)
    (hnow : s.horizonClosed = false → now ≤ args.deadline)
    (hruntime : s.runtimes lane = some runtime)
    (hdrained : runtime.drained (poll.completions lane).drainRead = true)
    (hdrain : (poll.completions lane).drainRead ≤ clock) :
    Ends (Outside late) (fun s' => Legal args s' now clock ∧ s'.horizonClosed = s.horizonClosed ∧
      s'.runtimes lane = none ∧
      ∀ lane', lane' ≠ lane → Continued (s.runtimes lane') (s'.runtimes lane'))
      (completeLane codec runDir now poll s lane) := by
  unfold completeLane
  apply (drainOutput_ends s (poll.completions lane).outputs).bind
  intro heard hheard
  have hlegal := h.heard hheard
  -- the run of the lane has gone on
  have hcontinued := hheard.continued lane
  rw [hruntime] at hcontinued
  obtain ⟨runtime₁, hruntime₁, hsame₁⟩ := hcontinued
  rw [hruntime₁]
  apply Ends.bind (P := fun runtime => runtime = runtime₁)
  · apply within_output_ends
    intro runtime₂ hok
    exact (Option.some.inj (okOr_eq_ok.mp hok)).symm
  rintro _ rfl
  apply Ends.bind (within_journal_ends fun _ => refresh_same)
  intro runtime₂ hsame₂
  have hsame := hsame₁.trans hsame₂
  apply Ends.bind (P := fun _ => True) (within_output_ends fun _ _ => trivial)
  intro status _
  -- a second has passed since its exit was seen
  have hlane := h.lanes lane
  rw [hruntime] at hlane
  have hlane₂ := hlane.continued (show Continued (some runtime) (some runtime₂) from
    ⟨runtime₂, rfl, hsame⟩)
  have hspent : (s.supervisor.lanes lane).launchAttempt * 1000000000 ≤ clock := by
    obtain ⟨-, seen, hseen, hpassed⟩ := drained_iff.mp hdrained
    have hattempt := hlane.1.attempt_le
    have hstarted := (hlane.1.seen seen hseen).1
    unfold childOutputDrain at hpassed
    omega
  rw [← hheard.supervisor_eq, ← hheard.closed_eq] at hlane₂
  rw [← hheard.supervisor_eq] at hspent
  rw [← hheard.closed_eq] at hnow
  apply (finishLane_ends hlegal hnow hlane₂ hspent).mono
  rintro s' ⟨hlegal', hclosed, hruntimes⟩
  refine ⟨hlegal', hclosed.trans hheard.closed_eq, ?_, fun lane' hne => ?_⟩
  · rw [hruntimes, Function.update_self]
  · rw [hruntimes, Function.update_of_ne hne]
    exact hheard.continued lane'

/-- What the completions leave of the run of a lane: it was drained, or it goes on. -/
def Settled (read : Nat) (before after : Option LaneRuntime) : Prop :=
  (∃ runtime, before = some runtime ∧ runtime.drained read = true ∧ after = none) ∨
    (Continued before after ∧ ∀ runtime, before = some runtime → runtime.drained read = false)

/-- The lanes that are left to complete are drained. -/
structure Completing (args : Arguments) (start : CaptureState) (poll : Poll) (now clock : Nat)
    (rest : List CaptureLane) (s : CaptureState) : Prop where
  legal : Legal args s now clock
  closed_eq : s.horizonClosed = start.horizonClosed
  nodup : rest.Nodup
  left : ∀ lane ∈ rest, (∃ runtime, start.runtimes lane = some runtime ∧
    runtime.drained (poll.completions lane).drainRead = true) ∧
    Continued (start.runtimes lane) (s.runtimes lane)
  done : ∀ lane, lane ∉ rest →
    Settled (poll.completions lane).drainRead (start.runtimes lane) (s.runtimes lane)

/-- **The completions** of an iteration. -/
theorem completions_end (h : Legal args s now clock)
    (hnow : s.horizonClosed = false → now ≤ args.deadline)
    (hdrain : ∀ lane, (poll.completions lane).drainRead ≤ clock) :
    Ends (Outside late) (fun s' => Legal args s' now clock ∧ s'.horizonClosed = s.horizonClosed ∧
      ∀ lane, Settled (poll.completions lane).drainRead (s.runtimes lane) (s'.runtimes lane))
      ((completed s poll).foldlM (completeLane codec runDir now poll) s) := by
  have hmem : ∀ lane, lane ∈ completed s poll ↔ ∃ runtime, s.runtimes lane = some runtime ∧
      runtime.drained (poll.completions lane).drainRead = true := by
    intro lane
    unfold completed
    rw [List.mem_filter]
    constructor
    · rintro ⟨-, hany⟩
      cases hruntime : s.runtimes lane with
      | none =>
        rw [hruntime] at hany
        cases hany
      | some runtime =>
        rw [hruntime] at hany
        exact ⟨runtime, rfl, hany⟩
    · rintro ⟨runtime, hruntime, hdrained⟩
      refine ⟨by cases lane <;> decide, ?_⟩
      rw [hruntime]
      exact hdrained
  have hstart : Completing args s poll now clock (completed s poll) s := by
    refine ⟨h, rfl, ?_, ?_, ?_⟩
    · have hall : CaptureLane.all.Nodup := by decide
      exact List.Pairwise.filter _ hall
    · intro lane hlane
      exact ⟨(hmem lane).mp hlane, Continued.refl _⟩
    · intro lane hlane
      refine Or.inr ⟨Continued.refl _, fun runtime hruntime => ?_⟩
      rw [Bool.eq_false_iff]
      exact fun hdrained => hlane ((hmem lane).mpr ⟨runtime, hruntime, hdrained⟩)
  apply (Ends.foldlM (Completing args s poll now clock) hstart ?_).mono
  · rintro s' ⟨hlegal, hclosed, -, -, hdone⟩
    exact ⟨hlegal, hclosed, fun lane => hdone lane List.not_mem_nil⟩
  rintro lane rest s₁ ⟨hlegal, hclosed, hnodup, hleft, hdone⟩
  obtain ⟨⟨runtime, hruntime, hdrained⟩, hcontinued⟩ := hleft lane List.mem_cons_self
  rw [hruntime] at hcontinued
  obtain ⟨runtime₁, hruntime₁, hsame⟩ := hcontinued
  rw [← hclosed] at hnow
  apply (completeLane_ends hlegal hnow hruntime₁ (by rw [hsame.drained_eq]; exact hdrained)
    (hdrain lane)).mono
  rintro s₂ ⟨hlegal₂, hclosed₂, hgone, hother⟩
  obtain ⟨hfresh, hnodup'⟩ := List.nodup_cons.mp hnodup
  refine ⟨hlegal₂, hclosed₂.trans hclosed, hnodup', ?_, ?_⟩
  · intro lane' hlane'
    have hne : lane' ≠ lane := by
      rintro rfl
      exact hfresh hlane'
    obtain ⟨hdue, hcontinued⟩ := hleft lane' (List.mem_cons_of_mem _ hlane')
    exact ⟨hdue, hcontinued.trans (hother lane' hne)⟩
  · intro lane' hlane'
    by_cases heq : lane' = lane
    · subst heq
      exact Or.inl ⟨runtime, hruntime, hdrained, hgone⟩
    · rcases hdone lane' (by simp [heq, hlane']) with ⟨old, hold, holdDrained, hnone⟩ |
        ⟨hkept, hnot⟩
      · have hstill := hother lane' heq
        rw [hnone] at hstill
        exact Or.inl ⟨old, hold, holdDrained, hstill⟩
      · exact Or.inr ⟨hkept.trans (hother lane' heq), hnot⟩

/-! ## Restarts -/

structure Grantable (args : Arguments) (s : CaptureState) (now read : Nat)
    (request : RestartRequest) : Prop where
  startable : s.supervisor.Startable request.lane now
  attempt_eq : request.nextLaunchAttempt = (s.supervisor.lanes request.lane).launchAttempt + 1
  few : (s.supervisor.lanes request.lane).launchAttempt ≤ args.totalS
  spent : (s.supervisor.lanes request.lane).launchAttempt * 1000000000 ≤ read
  free : s.runtimes request.lane = none

theorem launch_ends {requestedS : Nat} {launch : LaunchInput} {members : List (String × Value)}
    {token uuid : String} (h : Legal args s now clock) (hopen : s.horizonClosed = false)
    (hnow : now ≤ args.deadline) (hread : ¬ late → launch.startedRead ≤ u64Max)
    (hclock : launch.startedRead ≤ clock) (hstart : s.supervisor.Startable lane now)
    (htoken : token = laneToken lane ((s.supervisor.lanes lane).launchAttempt + 1) uuid)
    (hspent : (s.supervisor.lanes lane).launchAttempt * 1000000000 ≤ launch.startedRead)
    (hfew : (s.supervisor.lanes lane).launchAttempt ≤ args.totalS) :
    Ends (Outside late) (fun s' => Legal args s' now clock ∧
      s'.horizonClosed = false ∧ s'.supervisor.config = s.supervisor.config ∧
      ∀ lane', lane' ≠ lane → s'.runtimes lane' = s.runtimes lane' ∧
        s'.supervisor.lanes lane' = s.supervisor.lanes lane')
      (supervise s (s.supervisor.startLane lane token now) >>= fun s =>
        launchLane s lane token requestedS launch members) := by
  have hlimit := h.launches_lt
  have hattempt : (s.supervisor.lanes lane).launchAttempt < u64Max := by
    unfold launches at hlimit
    cases lane <;> omega
  let runtime : LaneRuntime :=
    { token, requestedS, startedMonoNs := launch.startedRead, lastHeartbeat := launch.heartbeatRead }
  have hexplained : Explained runtime := by
    refine ⟨?_, ?_⟩
    · intro t ht
      cases ht
    · intro cursor hcursor
      cases hcursor
  have hset := h.setUp_start runtime hopen hstart.idle htoken rfl hexplained rfl rfl hspent hclock
    hfew
  obtain ⟨s', hcall, hsame, hlanes, hconfig, hlegal⟩ := hset.supervise hopen hnow
  rw [startLane_eq h.clock_le (h.terminal_eq.trans hopen) (by rw [htoken]; exact isBlank_laneToken _ _ _)
    (by rw [htoken]; exact h.tokens.fresh lane uuid) hstart hattempt]
  show Ends _ _ (supervise s (recomputeCoverage _ now) >>= _)
  rw [show supervise s _ = _ from hcall]
  apply Ends.bind (P := fun started => started = launch.startedRead)
    (within_clock_ends hread rfl)
  rintro _ rfl
  refine ⟨?_, hsame.closed_eq.trans hopen, hconfig, ?_⟩
  · refine hlegal.congr rfl ?_ rfl rfl
    show Function.update s'.runtimes lane (some runtime)
      = Function.update s.runtimes lane (some runtime)
    rw [hsame.runtimes_eq]
  · intro lane' hne
    refine ⟨?_, ?_⟩
    · show Function.update s'.runtimes lane _ lane' = _
      rw [Function.update_of_ne hne, hsame.runtimes_eq]
    · show s'.supervisor.lanes lane' = _
      rw [hlanes]
      exact setLane_other _ _ hne

/-- **A restart** whose request can be granted. -/
theorem restartLane_ends (h : Legal args s now clock) (hopen : s.horizonClosed = false)
    (hnow : now ≤ args.deadline)
    (hread : ¬ late → (poll.launches request.lane).startedRead ≤ u64Max)
    (hrestart : poll.restartRead ≤ (poll.launches request.lane).startedRead)
    (hclock : (poll.launches request.lane).startedRead ≤ clock)
    (hgrant : Grantable args s now poll.restartRead request) :
    Ends (Outside late) (fun s' => Legal args s' now clock ∧
      s'.horizonClosed = false ∧ s'.supervisor.config = s.supervisor.config ∧
      ∀ lane', lane' ≠ request.lane → s'.runtimes lane' = s.runtimes lane' ∧
        s'.supervisor.lanes lane' = s.supervisor.lanes lane')
      (restartLane args now poll s request) := by
  unfold restartLane
  dsimp only
  rw [if_neg (by simp [hgrant.free])]
  split
  · exact ⟨h, hopen, rfl, fun _ _ => ⟨rfl, rfl⟩⟩
  · exact launch_ends h hopen hnow hread hclock hgrant.startable (by rw [hgrant.attempt_eq])
      (hgrant.spent.trans hrestart) hgrant.few

theorem Grantable.other {s' : CaptureState} (h : Grantable args s now read request)
    (hconfig : s'.supervisor.config = s.supervisor.config)
    (hruntime : s'.runtimes request.lane = s.runtimes request.lane)
    (hlane : s'.supervisor.lanes request.lane = s.supervisor.lanes request.lane) :
    Grantable args s' now read request := by
  refine ⟨⟨?_, ?_, ?_⟩, ?_, ?_, ?_, ?_⟩
  · rw [hlane]
    exact h.startable.idle
  · rw [hlane]
    exact h.startable.due
  · have hallowed := h.startable.allowed
    unfold circuitBlocked at hallowed ⊢
    rw [hlane, hconfig]
    exact hallowed
  · rw [hlane]
    exact h.attempt_eq
  · rw [hlane]
    exact h.few
  · rw [hlane]
    exact h.spent
  · rw [hruntime]
    exact h.free

/-- The requests that are left can be granted. -/
structure Restarting (args : Arguments) (poll : Poll) (now clock : Nat)
    (rest : List RestartRequest) (s : CaptureState) : Prop where
  legal : Legal args s now clock
  opened : s.horizonClosed = false
  nodup : (rest.map RestartRequest.lane).Nodup
  grantable : ∀ request ∈ rest, Grantable args s now poll.restartRead request

/-- **The restarts** of an iteration. -/
theorem restartLanes_end {bound : Nat} (h : Legal args s now clock)
    (hnow : s.horizonClosed = false → now ≤ args.deadline)
    (hread : ∀ lane, ¬ late → (poll.launches lane).startedRead ≤ u64Max)
    (hclock : clock ≤ poll.restartRead)
    (hstarts : ∀ lane, poll.restartRead ≤ (poll.launches lane).startedRead)
    (hbound : ∀ lane, (poll.launches lane).startedRead ≤ bound)
    (hrestart : s.horizonClosed = true → args.deadline ≤ poll.restartRead) :
    Ends (Outside late) (fun s' => Legal args s' now bound ∧
      s'.horizonClosed = s.horizonClosed ∧
      (args.deadline ≤ poll.restartRead → s'.runtimes = s.runtimes))
      (restartLanes args now poll s) := by
  have hclock' : clock ≤ bound := (hclock.trans (hstarts .primary)).trans (hbound .primary)
  unfold restartLanes
  split
  · next hbefore =>
    have hopen : s.horizonClosed = false := by
      rw [Bool.eq_false_iff]
      intro hclosed
      have := hrestart hclosed
      omega
    obtain ⟨requests, hcall, hnodup, hrequests⟩ :=
      restartRequests_eq h.clock_le (h.terminal_eq.trans hopen)
    rw [hcall]
    dsimp only [within_ok, bind, Except.bind]
    -- the lanes that are asked for are free, and have made few launches
    have hgrants : ∀ request ∈ requests,
        Grantable args { s with supervisor := { s.supervisor with lastMonoNs := now } } now
          poll.restartRead request := by
      intro request hrequest
      obtain ⟨hstartable, hattempt⟩ := hrequests request hrequest
      have hlane := h.lanes request.lane
      have hfree : s.runtimes request.lane = none := by
        cases hruntime : s.runtimes request.lane with
        | none => rfl
        | some runtime =>
          rw [hruntime] at hlane
          have hstate := (hlane.2 hopen).2
          rcases hstartable.idle with hidle | hidle <;> rw [hidle] at hstate <;>
            cases hready : runtime.ready <;> rw [hready] at hstate <;> cases hstate
      rw [hfree] at hlane
      have hspent := hlane.2
      have hfew : (s.supervisor.lanes request.lane).launchAttempt ≤ args.totalS := by
        unfold Arguments.deadline at hbefore
        omega
      refine ⟨⟨hstartable.idle, hstartable.due, hstartable.allowed⟩, ?_, hfew,
        hspent.trans hclock, hfree⟩
      rw [hattempt]
      have := args.total_le
      apply Nat.min_eq_left
      simp only [u64Max]
      omega
    have hstart : Restarting args poll now bound requests
        { s with supervisor := { s.supervisor with lastMonoNs := now } } := by
      refine ⟨?_, hopen, hnodup, hgrants⟩
      obtain ⟨-, hterminal, hbefore', hafter, hgaps, hattempts, hlanes, htokens, htracked⟩ :=
        h.mono (Nat.le_refl _) hclock'
      exact ⟨Nat.le_refl _, hterminal, fun _ => ⟨hnow hopen, (hbefore' hopen).2.room,
        (hbefore' hopen).2.idle⟩, hafter, hgaps, hattempts, hlanes, htokens, htracked.ids,
        htracked.held⟩
    apply (Ends.foldlM (Restarting args poll now bound) hstart ?_).mono
    · rintro s' ⟨hlegal, hopen', -, -⟩
      refine ⟨hlegal, hopen'.trans hopen.symm, fun hlate => ?_⟩
      omega
    rintro request rest s₁ ⟨hlegal, hopen₁, hnodup₁, hgrants₁⟩
    rw [List.map_cons, List.nodup_cons] at hnodup₁
    apply (restartLane_ends hlegal hopen₁ (hnow hopen) (hread request.lane) (hstarts request.lane)
      (hbound request.lane) (hgrants₁ request List.mem_cons_self)).mono
    rintro s₂ ⟨hlegal₂, hopen₂, hconfig, hother⟩
    refine ⟨hlegal₂, hopen₂, hnodup₁.2, fun request' hrequest' => ?_⟩
    have hne : request'.lane ≠ request.lane := by
      intro heq
      exact hnodup₁.1 (heq ▸ List.mem_map_of_mem hrequest')
    exact (hgrants₁ request' (List.mem_cons_of_mem _ hrequest')).other hconfig
      (hother _ hne).1 (hother _ hne).2
  · exact ⟨h.mono (Nat.le_refl _) hclock', rfl, fun _ => rfl⟩

/-! ## Time -/

/-- **Time advances**; after the horizon this changes nothing but the clock. -/
theorem advance_ends (h : Legal args s now clock)
    (hnow : s.horizonClosed = false → now ≤ args.deadline) :
    Ends (Outside late) (fun s' => Legal args s' now clock ∧ s'.horizonClosed = s.horizonClosed ∧
      s'.runtimes = s.runtimes) (supervise s (s.supervisor.advanceTime now)) := by
  rw [advanceTime_eq h.clock_le]
  cases hclosed : s.horizonClosed with
  | false =>
    obtain ⟨s', hcall, hsame, -, -, hlegal⟩ := (h.setUp_advance hclosed).supervise hclosed
      (hnow hclosed)
    apply Ends.intro_ok hcall
    exact ⟨hlegal.congr rfl hsame.runtimes_eq rfl rfl, hsame.closed_eq.trans hclosed,
      hsame.runtimes_eq⟩
  | true =>
    have hstopped := h.after hclosed
    obtain ⟨s', transition, hcall, hu, htracked, hsame⟩ := supervise_recompute (s := s)
      (u := { s.supervisor with
        lastMonoNs := now
        lanes := fun lane => settled s.supervisor.config now (s.supervisor.lanes lane) }) now
      ⟨h.tracked.ids, h.tracked.held⟩ (by
        have hle := h.gaps_le
        have hlt := h.launches_lt
        show s.supervisor.nextGapId < _
        omega)
    apply Ends.intro_ok hcall
    have hkeeps : ∀ lane, (s'.supervisor.lanes lane).state = (s.supervisor.lanes lane).state ∧
        (s'.supervisor.lanes lane).runToken = (s.supervisor.lanes lane).runToken ∧
        (s'.supervisor.lanes lane).launchAttempt = (s.supervisor.lanes lane).launchAttempt := by
      intro lane
      rw [hu.lanes_eq]
      exact settled_keeps _ _ _
    -- no gap opens any more
    have hnext : s'.supervisor.nextGapId = s.supervisor.nextGapId := by
      rcases hu.gaps with ⟨hgap, -⟩ | ⟨hnext, -⟩ | ⟨hnext, -⟩
      · unfold currentCoverage at hgap
        rw [if_pos (h.terminal_eq.trans hclosed)] at hgap
        cases hgap
      · exact hnext
      · exact hnext
    have hclosed' : s'.horizonClosed = true := hsame.closed_eq.trans hclosed
    refine ⟨?_, hclosed', hsame.runtimes_eq⟩
    constructor
    · rw [hu.clock_eq]
    · rw [hu.terminal_eq, hclosed']
      exact h.terminal_eq.trans hclosed
    · intro hopen
      rw [hclosed'] at hopen
      cases hopen
    · intro _ lane
      rw [(hkeeps lane).1]
      exact hstopped lane
    · rw [hnext]
      unfold launches
      rw [(hkeeps .primary).2.2, (hkeeps .shadow).2.2]
      exact h.gaps_le
    · intro lane
      rw [(hkeeps lane).2.2]
      exact h.attempt_le lane
    · intro lane
      rw [hclosed', hsame.runtimes_eq, ← hclosed]
      exact (h.lanes lane).congr (hkeeps lane).1 (hkeeps lane).2.1 (hkeeps lane).2.2
    · intro token htoken
      rw [hu.tokens_eq] at htoken
      obtain ⟨lane, attempt, uuid, heq, hle⟩ := h.tokens token htoken
      refine ⟨lane, attempt, uuid, heq, ?_⟩
      rw [(hkeeps lane).2.2]
      exact hle
    · exact htracked

end

/-! ## The iteration -/

variable (codec : CaptureCodec) (args : Arguments) (runDir : String)

/-- An iteration in time: the deadline does not pass between the sample of its time and the look at
    the horizon, and no lane becomes ready once the horizon is closed. -/
structure InTime (s : CaptureState) (poll : Poll) : Prop where
  sampled : s.horizonClosed = false → args.deadline ≤ poll.horizonRead →
    args.deadline ≤ poll.nowRead
  ready : s.horizonClosed = true ∨ args.deadline ≤ poll.horizonRead →
    ∀ heard, drainOutput codec runDir s poll.outputs = .ok heard →
      ∀ lane runtime runtime', heard.runtimes lane = some runtime →
        refresh codec runtime (poll.lanes lane).records = .ok runtime' →
        runtime'.becomesReady = false

/-- A run that is still there after an iteration without restarts was there before; its exit has
    been polled, and it was not drained. -/
def Remains (poll : Poll) (s s' : CaptureState) : Prop :=
  ∀ lane runtime', s'.runtimes lane = some runtime' →
    ∃ runtime, s.runtimes lane = some runtime ∧
      runtime'.exitStatus = (runtime.pollExit (poll.lanes lane)).exitStatus ∧
      runtime'.exitSeen = (runtime.pollExit (poll.lanes lane)).exitSeen ∧
      runtime'.drained (poll.completions lane).drainRead = false

section

variable {codec args runDir} {late : Prop} {s : CaptureState} {limit clock : Nat}

/-- **One iteration** in time keeps the state legal. -/
theorem iteration_ends {poll : Poll} (h : Legal args s limit clock) (hlimit : limit ≤ clock)
    (hpast : s.horizonClosed = true → args.deadline ≤ clock) (htimely : Timely clock poll)
    (hin : InTime codec args runDir s poll) (hbound : ¬ late → poll.breakRead ≤ u64Max) :
    Ends (Outside late) (fun s' => Legal args s' poll.nowRead poll.breakRead ∧
      (s'.horizonClosed = true ↔ s.horizonClosed = true ∨ args.deadline ≤ poll.horizonRead) ∧
      (args.deadline ≤ poll.restartRead → Remains poll s s'))
      (iteration codec args runDir s poll) := by
  obtain ⟨hnow, hhorizon, hexit, hexits, hdrain, hrestart, hstart, hstarts, hbreak, -, -⟩ := htimely
  have hbreak' : poll.nowRead ≤ poll.breakRead := by
    have := hexit .primary
    have := hdrain .primary .primary
    have := hrestart .primary
    have := hstart .primary
    have := hbreak .primary
    omega
  unfold iteration
  -- the output that has arrived
  apply Ends.bind (P := fun heard => Heard s heard ∧
    drainOutput codec runDir s poll.outputs = .ok heard)
  · have hends : Ends (Outside late) (Heard s) (drainOutput codec runDir s poll.outputs) :=
      drainOutput_ends s poll.outputs
    cases hdrained : drainOutput codec runDir s poll.outputs with
    | ok heard => exact ⟨hends.of_eq_ok hdrained, rfl⟩
    | error abort => exact hends.of_eq_error hdrained
  rintro heard ⟨hheard, hdrained⟩
  have hlegal := (h.heard hheard).mono (hlimit.trans hnow) (Nat.le_refl clock)
  apply Ends.bind (P := fun now => now = poll.nowRead) (within_clock_ends (fun hlate => by
    have := hbound hlate
    omega) rfl)
  rintro _ rfl
  -- the horizon
  apply Ends.bind (closeHorizon_ends hlegal hhorizon (by
    rw [hheard.closed_eq]
    exact hin.sampled))
  rintro s₁ ⟨hlegal₁, hruntimes₁, hclosed₁, hnow₁⟩
  rw [hheard.closed_eq] at hclosed₁
  have hcalm : s₁.horizonClosed = true → ∀ lane runtime runtime',
      s₁.runtimes lane = some runtime →
      refresh codec runtime (poll.lanes lane).records = .ok runtime' →
      runtime'.becomesReady = false := by
    intro hclosed lane runtime runtime' hruntime hrefresh
    rw [hruntimes₁] at hruntime
    exact hin.ready (hclosed₁.mp hclosed) heard hdrained lane runtime runtime' hruntime hrefresh
  -- the watch over both lanes
  apply Ends.bind (P := fun s₂ => Legal args s₂ poll.nowRead poll.restartRead ∧
    s₂.horizonClosed = s₁.horizonClosed ∧
    ∀ lane, Watched (poll.lanes lane) (s₁.runtimes lane) (s₂.runtimes lane))
  · rw [CaptureLane.all, List.foldlM_cons]
    have hlate : ∀ lane, (poll.lanes lane).exitRead ≤ poll.restartRead := fun lane =>
      (hdrain lane .primary).trans (hrestart .primary)
    apply Ends.bind (watchLane_ends hlegal₁ hnow₁
      ((hnow.trans hhorizon).trans (hexit .primary)) (fun hclosed => hcalm hclosed .primary))
    rintro sP ⟨hlegalP, hclosedP, hwatchedP, hotherP⟩
    rw [List.foldlM_cons]
    apply Ends.bind (watchLane_ends hlegalP (by rw [hclosedP]; exact hnow₁) hexits (by
      rw [hclosedP, hotherP .shadow (by decide)]
      exact fun hclosed => hcalm hclosed .shadow))
    rintro sS ⟨hlegalS, hclosedS, hwatchedS, hotherS⟩
    refine ⟨hlegalS.mono (Nat.le_refl _) (hlate .shadow), hclosedS.trans hclosedP, ?_⟩
    rintro (_ | _)
    · rw [hotherS .primary (by decide)]
      exact hwatchedP
    · rw [hotherP .shadow (by decide)] at hwatchedS
      exact hwatchedS
  rintro s₂ ⟨hlegal₂, hclosed₂, hwatched⟩
  -- the completions
  apply Ends.bind (completions_end hlegal₂ (by rw [hclosed₂]; exact hnow₁) hrestart)
  rintro s₃ ⟨hlegal₃, hclosed₃, hsettled⟩
  -- the restarts
  apply Ends.bind (restartLanes_end hlegal₃ (by rw [hclosed₃, hclosed₂]; exact hnow₁)
    (fun lane hlate => (hbreak lane).trans (hbound hlate)) (Nat.le_refl _) hstart hbreak (by
      rw [hclosed₃, hclosed₂, hclosed₁]
      have := hexit .primary
      have := hdrain .primary .primary
      have := hrestart .primary
      rintro (hclosed | hdeadline)
      · have := hpast hclosed
        omega
      · omega))
  rintro s₄ ⟨hlegal₄, hclosed₄, hruntimes₄⟩
  apply (advance_ends hlegal₄ (by rw [hclosed₄, hclosed₃, hclosed₂]; exact hnow₁)).mono
  rintro s₅ ⟨hlegal₅, hclosed₅, hruntimes₅⟩
  refine ⟨hlegal₅, ?_, fun hdeadline lane runtime' hruntime' => ?_⟩
  · rw [hclosed₅, hclosed₄, hclosed₃, hclosed₂]
    exact hclosed₁
  -- back through the parts, to the run as it was
  rw [hruntimes₅, hruntimes₄ hdeadline] at hruntime'
  have hsettled := hsettled lane
  have hwatched := hwatched lane
  have hcontinued := hheard.continued lane
  rcases hsettled with ⟨-, -, -, hnone⟩ | ⟨hkept, hnot⟩
  · rw [hnone] at hruntime'
    cases hruntime'
  cases hruntime₂ : s₂.runtimes lane with
  | none =>
    rw [hruntime₂] at hkept
    rw [show s₃.runtimes lane = none from hkept] at hruntime'
    cases hruntime'
  | some runtime₂ =>
    rw [hruntime₂] at hkept hwatched
    obtain ⟨_, heq, hsame⟩ := hkept
    rw [heq] at hruntime'
    cases hruntime'
    rw [hruntimes₁] at hwatched
    cases hruntime : s.runtimes lane with
    | none =>
      rw [hruntime] at hcontinued
      rw [show heard.runtimes lane = none from hcontinued] at hwatched
      cases hwatched
    | some runtime =>
      rw [hruntime] at hcontinued
      obtain ⟨runtime₁, hruntime₁, hsame₁⟩ := hcontinued
      rw [hruntime₁] at hwatched
      obtain ⟨_, heq₂, hstatus, hseen⟩ := hwatched
      cases heq₂
      have hexits := pollExit_congr (poll.lanes lane) hsame₁.exitStatus_eq hsame₁.exitSeen_eq
      refine ⟨runtime, rfl, ?_, ?_, ?_⟩
      · rw [hsame.exitStatus_eq, hstatus, hexits.1]
      · rw [hsame.exitSeen_eq, hseen, hexits.2]
      · rw [hsame.drained_eq]
        exact hnot runtime₂ hruntime₂

end

end LobReplay.Redundancy
