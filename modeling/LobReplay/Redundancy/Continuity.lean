/-
  A capture is not aborted by its own state machine, as long as its iterations are in time, and
  commits once its children have exited and been drained.

  What goes wrong otherwise is shown on two short runs.
-/

import LobReplay.Redundancy.Iteration

namespace LobReplay.Redundancy

open Foundation
open HotRedundantSupervisor

/-! ## Reads of a run -/

def launchReads (launches : CaptureLane → LaunchInput) : List Nat :=
  [(launches .primary).startRead, (launches .primary).startedRead,
    (launches .primary).heartbeatRead, (launches .shadow).startRead,
    (launches .shadow).startedRead, (launches .shadow).heartbeatRead]

/-- The reads of a run in their order. -/
def captureReads (launches : CaptureLane → LaunchInput) (polls : List Poll) : List Nat :=
  launchReads launches ++ polls.flatMap Poll.reads

def lastRead (launches : CaptureLane → LaunchInput) (polls : List Poll) : Nat :=
  (polls.getLast?.map Poll.finishRead).getD (launches .shadow).heartbeatRead

theorem finishRead_mem (poll : Poll) : poll.finishRead ∈ poll.reads := by
  simp [Poll.reads]

theorem lastRead_mem (launches : CaptureLane → LaunchInput) (polls : List Poll) :
    lastRead launches polls ∈ captureReads launches polls := by
  unfold lastRead captureReads
  cases hlast : polls.getLast? with
  | none => simp [launchReads]
  | some poll =>
    apply List.mem_append_right
    exact List.mem_flatMap.mpr ⟨poll, List.mem_of_getLast? hlast, finishRead_mem poll⟩

theorem captureReads_concat (launches : CaptureLane → LaunchInput) (polls : List Poll)
    (poll : Poll) :
    captureReads launches (polls ++ [poll]) = captureReads launches polls ++ poll.reads := by
  simp [captureReads]

/-- The reads of an iteration follow those before it. -/
theorem timely_of_reads {launches : CaptureLane → LaunchInput} {polls : List Poll} {poll : Poll}
    (h : (captureReads launches (polls ++ [poll])).Pairwise (· ≤ ·)) :
    Timely (lastRead launches polls) poll := by
  rw [captureReads_concat, List.pairwise_append] at h
  apply timely_of_pairwise
  rw [List.pairwise_cons]
  exact ⟨h.2.2 _ (lastRead_mem launches polls), h.2.1⟩

/-! ## The first launches -/

section

variable {codec : CaptureCodec} {args : Arguments} {runDir : String} {late : Prop}
  {progress : Progress} {before : List Poll} {seen last : Poll} {a : Nat}

/-- A lane that has never been started. -/
structure Unstarted (s : CaptureState) (lane : CaptureLane) : Prop where
  status_eq : s.supervisor.lanes lane = .absent lane
  free : s.runtimes lane = none

variable {launches : CaptureLane → LaunchInput} {s : CaptureState} {limit clock : Nat} {poll : Poll}
  {polls later : List Poll}

theorem firstLaunch_ends {lane : CaptureLane} (h : Legal args s limit clock)
    (hopen : s.horizonClosed = false) (hidle : Unstarted s lane)
    (hlimit : limit ≤ (launches lane).startRead) (hclock : clock ≤ (launches lane).startedRead)
    (hstart : (launches lane).startRead ≤ args.deadline)
    (hread : ¬ late → (launches lane).startedRead ≤ u64Max) :
    Ends (Outside late) (fun s' => Legal args s' (launches lane).startRead
        (launches lane).startedRead ∧ s'.horizonClosed = false ∧
      ∀ lane', lane' ≠ lane → s'.runtimes lane' = s.runtimes lane' ∧
        s'.supervisor.lanes lane' = s.supervisor.lanes lane')
      (firstLaunch args launches s lane) := by
  unfold firstLaunch
  dsimp only
  apply Ends.bind (P := fun now => now = (launches lane).startRead) (within_clock_ends (fun _ => by
    have := args.terminalDeadline_le
    have := args.deadline_le
    omega) rfl)
  rintro _ rfl
  have hstartable : s.supervisor.Startable lane (launches lane).startRead := by
    refine ⟨?_, ?_, ?_⟩ <;> rw [hidle.status_eq]
    · exact Or.inl rfl
    · intro deadline hdeadline
      cases hdeadline
    · rfl
  have hattempt : (s.supervisor.lanes lane).launchAttempt = 0 := by
    rw [hidle.status_eq]
    rfl
  apply (launch_ends (h.mono hlimit hclock) hopen hstart hread (Nat.le_refl _) hstartable
    (by rw [hattempt]) (by rw [hattempt, Nat.zero_mul]; exact Nat.zero_le _)
    (by rw [hattempt]; exact Nat.zero_le _)).mono
  rintro s' ⟨hlegal, hopen', -, hother⟩
  exact ⟨hlegal, hopen', hother⟩

/-- **The start** of a capture is legal when both lanes are started by the deadline. -/
theorem boot_ends (hreads : (launchReads launches).Pairwise (· ≤ ·))
    (hstart : ∀ lane, (launches lane).startRead ≤ args.deadline)
    (hread : ∀ lane, ¬ late → (launches lane).startedRead ≤ u64Max) :
    Ends (Outside late) (fun s => Legal args s (launches .shadow).startRead
      (launches .shadow).startedRead ∧ s.horizonClosed = false) (boot args launches) := by
  simp only [launchReads, List.pairwise_cons, List.mem_cons, List.not_mem_nil, or_false,
    forall_eq_or_imp, forall_eq] at hreads
  obtain ⟨⟨-, -, hstartS, -⟩, ⟨-, -, hstartedS, -⟩, -⟩ := hreads
  have hnew : HotRedundantSupervisor.new captureConfig 0
      = .ok ⟨captureConfig, LaneStatus.absent, .empty, .starting, false, none, 0, 0, false⟩ := rfl
  unfold boot
  rw [hnew]
  dsimp only [within_ok, bind, Except.bind]
  -- nothing has been started
  have hlegal : Legal args (CaptureState.append
      { supervisor := ⟨captureConfig, LaneStatus.absent, .empty, .starting, false, none, 0, 0,
        false⟩ } "SUPERVISOR" [("event", .string "SUPERVISOR_STARTED")]) 0 0 := by
    refine ⟨Nat.le_refl _, rfl, fun _ => ⟨Nat.zero_le _, ?_, ?_⟩, ?_, Nat.zero_le _, ?_, ?_, ?_,
      rfl, ?_⟩
    · exact Nat.le_refl 0
    · intro gap hgap
      cases hgap
    · intro hclosed
      cases hclosed
    · intro lane
      exact Nat.zero_le _
    · intro lane
      exact ⟨fun _ => Or.inl rfl, Nat.le_of_eq (Nat.zero_mul _)⟩
    · intro token htoken
      have hempty : (Std.TreeSet.empty : Std.TreeSet String).contains token = true := htoken
      cases hempty
    · intro gap hgap
      cases hgap
  rw [CaptureLane.all, List.foldlM_cons]
  apply Ends.bind (firstLaunch_ends hlegal rfl ⟨rfl, rfl⟩ (Nat.zero_le _) (Nat.zero_le _)
    (hstart .primary) (hread .primary))
  rintro s ⟨hlegalP, hopenP, hother⟩
  obtain ⟨hruntime, hstatus⟩ := hother .shadow (by decide)
  rw [List.foldlM_cons]
  apply Ends.bind (firstLaunch_ends hlegalP hopenP ⟨hstatus, hruntime⟩ hstartS hstartedS
    (hstart .shadow) (hread .shadow))
  rintro s' ⟨hlegalS, hopenS, -⟩
  exact ⟨hlegalS, hopenS⟩

/-! ## Steps -/

/-- What a step of the loop leaves of a running capture. -/
def Stepped (args : Arguments) (poll : Poll) (s : CaptureState) : Progress → Prop
  | .running s' => Legal args s' poll.nowRead poll.breakRead ∧
      (s'.horizonClosed = true → args.deadline ≤ poll.breakRead) ∧
      (args.deadline ≤ poll.restartRead → Remains poll s s') ∧
      ¬ (args.deadline ≤ poll.breakRead ∧ ∀ lane, s'.runtimes lane = none)
  | .committed _ _ => True

theorem commit_ends {finishRead : Nat} (h : Legal args s limit clock) (hlimit : limit ≤ finishRead)
    (hread : ¬ late → s.horizonClosed = false → finishRead ≤ u64Max) :
    Ends (Outside late) (fun progress => ∃ s' terminal, progress = .committed s' terminal)
      (commit s finishRead) := by
  unfold commit
  apply Ends.bind (P := fun _ => True)
  · unfold closeRun
    split
    · trivial
    · next hclosed =>
      have hopen : s.horizonClosed = false := by
        rw [Bool.eq_false_iff]
        exact hclosed
      apply Ends.bind (P := fun now => now = finishRead)
        (within_clock_ends (fun hlate => hread hlate hopen) rfl)
      rintro _ rfl
      rw [supervise, terminate_eq (h.clock_le.trans hlimit)]
      trivial
  · rintro s' -
    exact ⟨_, _, rfl⟩

/-- **Step.** An iteration in time keeps a running capture legal. -/
theorem captureStep_ends (h : Legal args s limit clock) (hlimit : limit ≤ clock)
    (hpast : s.horizonClosed = true → args.deadline ≤ clock) (htimely : Timely clock poll)
    (hin : InTime codec args runDir s poll)
    (hgrace : ¬ late → poll.graceRead ≤ args.terminalDeadline)
    (hfinish : ¬ late → args.deadline ≤ poll.horizonRead ∨ poll.finishRead ≤ u64Max) :
    Ends (Outside late) (Stepped args poll s) (captureStep codec args runDir (.running s) poll) := by
  obtain ⟨hnow, hhorizon, hexit, -, hdrain, hrestart, hstart, -, hbreak, hgrace', hfinish'⟩ :=
    id htimely
  have horder : poll.horizonRead ≤ poll.breakRead := by
    have := hexit .primary
    have := hdrain .primary .primary
    have := hrestart .primary
    have := hstart .primary
    have := hbreak .primary
    omega
  apply Ends.bind (iteration_ends h hlimit hpast htimely hin (fun hlate => by
    have := hgrace hlate
    have := args.terminalDeadline_le
    omega))
  rintro s' ⟨hlegal, hclosed, hremains⟩
  split
  · apply (commit_ends hlegal (show poll.nowRead ≤ poll.finishRead by omega) ?_).mono
    · rintro progress ⟨s'', terminal, rfl⟩
      trivial
    · intro hlate hopen
      rcases hfinish hlate with hdeadline | hfits
      · rw [hclosed.mpr (Or.inr hdeadline)] at hopen
        cases hopen
      · exact hfits
  · next hgoes =>
    split
    · next hlarge =>
      refine Or.inr (Or.inr ⟨?_, Or.inr rfl⟩)
      by_contra hlate
      have := hgrace hlate
      omega
    · refine ⟨hlegal, ?_, hremains, ?_⟩
      · intro hclosed'
        rcases hclosed.mp hclosed' with hbefore | hdeadline
        · have := hpast hbefore
          omega
        · omega
      · rintro ⟨hdeadline, hnone⟩
        apply hgoes
        rw [hnone .primary, hnone .shadow]
        exact ⟨hdeadline, rfl, rfl⟩

/-! ## Runs -/

/-- A running capture is legal at the last read of the clock. -/
def Ongoing (args : Arguments) (clock : Nat) : Progress → Prop
  | .running s => ∃ limit, limit ≤ clock ∧ Legal args s limit clock ∧
      (s.horizonClosed = true → args.deadline ≤ clock)
  | .committed _ _ => True

theorem Stepped.ongoing (h : Stepped args poll s progress) (htimely : Timely clock poll) :
    Ongoing args poll.finishRead progress := by
  cases progress with
  | committed s' terminal => trivial
  | running s' =>
    obtain ⟨hlegal, hpast, -, -⟩ := h
    obtain ⟨-, hhorizon, hexit, -, hdrain, hrestart, hstart, -, hbreak, hgrace, hfinish⟩ := htimely
    have := hexit .primary
    have := hdrain .primary .primary
    have := hrestart .primary
    have := hstart .primary
    have := hbreak .primary
    refine ⟨poll.nowRead, by omega, hlegal.mono (Nat.le_refl _) (by omega), fun hclosed => ?_⟩
    have := hpast hclosed
    omega

def RunsInTime (codec : CaptureCodec) (args : Arguments) (runDir : String)
    (launches : CaptureLane → LaunchInput) (polls : List Poll) : Prop :=
  ∀ before poll, before ++ [poll] <+: polls → ∀ s,
    capture codec args runDir launches before = .ok (.running s) →
      InTime codec args runDir s poll

/-- No read is beyond the terminal deadline, and the last one of an iteration that is still before
    the horizon is not either. -/
def Prompt (args : Arguments) (launches : CaptureLane → LaunchInput) (polls : List Poll) : Prop :=
  (∀ lane, (launches lane).startedRead ≤ args.terminalDeadline) ∧
    ∀ poll ∈ polls, poll.graceRead ≤ args.terminalDeadline ∧
      (args.deadline ≤ poll.horizonRead ∨ poll.finishRead ≤ u64Max)

theorem capture_concat (codec : CaptureCodec) (args : Arguments) (runDir : String)
    (launches : CaptureLane → LaunchInput) (polls : List Poll) (poll : Poll) :
    capture codec args runDir launches (polls ++ [poll])
      = capture codec args runDir launches polls >>= fun progress =>
          captureStep codec args runDir progress poll := by
  unfold capture
  rw [bind_assoc]
  congr 1
  funext s
  rw [List.foldlM_append]
  simp

/-- **Run.** A capture in time stays legal. -/
theorem capture_ends (hreads : (captureReads launches polls).Pairwise (· ≤ ·))
    (hstart : ∀ lane, (launches lane).startRead ≤ args.deadline)
    (hin : RunsInTime codec args runDir launches polls)
    (hprompt : ¬ late → Prompt args launches polls) :
    Ends (Outside late) (Ongoing args (lastRead launches polls))
      (capture codec args runDir launches polls) := by
  induction polls using List.reverseRecOn with
  | nil =>
    have hread : ∀ lane, ¬ late → (launches lane).startedRead ≤ u64Max := fun lane hlate =>
      ((hprompt hlate).1 lane).trans args.terminalDeadline_le
    rw [captureReads, List.flatMap_nil, List.append_nil] at hreads
    apply Ends.bind (boot_ends hreads hstart hread)
    rintro s ⟨hlegal, hopen⟩
    simp only [launchReads, List.pairwise_cons, List.mem_cons, List.not_mem_nil, or_false,
      forall_eq_or_imp, forall_eq] at hreads
    obtain ⟨-, -, -, ⟨-, hheartbeat⟩, hheartbeat', -⟩ := hreads
    refine ⟨_, hheartbeat, hlegal.mono (Nat.le_refl _) hheartbeat', fun hclosed => ?_⟩
    rw [hopen] at hclosed
    cases hclosed
  | append_singleton polls poll ih =>
    have htimely := timely_of_reads hreads
    rw [captureReads_concat, List.pairwise_append] at hreads
    have hongoing := ih hreads.1
      (fun before poll' hbefore => hin before poll' (hbefore.trans (List.prefix_append _ _)))
      (fun hlate => ⟨(hprompt hlate).1, fun poll' hmem => (hprompt hlate).2 poll'
        (List.mem_append_left _ hmem)⟩)
    rw [capture_concat]
    have hlast : lastRead launches (polls ++ [poll]) = poll.finishRead := by
      simp [lastRead]
    rw [hlast]
    apply Ends.bind (P := fun progress => Ongoing args (lastRead launches polls) progress ∧
      capture codec args runDir launches polls = .ok progress)
    · cases hcapture : capture codec args runDir launches polls with
      | ok progress => exact ⟨hongoing.of_eq_ok hcapture, rfl⟩
      | error abort => exact hongoing.of_eq_error hcapture
    rintro progress ⟨hprogress, hcapture⟩
    cases progress with
    | committed s terminal => exact trivial
    | running s =>
      obtain ⟨limit, hlimit, hlegal, hpast⟩ := hprogress
      have hmem : poll ∈ polls ++ [poll] := List.mem_append_right _ (List.mem_singleton_self _)
      apply (captureStep_ends hlegal hlimit hpast htimely
        (hin polls poll (List.prefix_refl _) s hcapture)
        (fun hlate => ((hprompt hlate).2 poll hmem).1)
        (fun hlate => ((hprompt hlate).2 poll hmem).2)).mono
      exact fun progress hstepped => hstepped.ongoing htimely

/-! ## Children that exit -/

/-- The children have exited in time: an iteration after the deadline finds every child exited, and
    the last one finds them drained, before the terminal deadline. -/
def ChildrenExit (args : Arguments) (polls : List Poll) : Prop :=
  ∃ before seen later last, polls = before ++ seen :: later ∧ polls.getLast? = some last ∧
    args.deadline ≤ seen.horizonRead ∧ (∀ lane, (seen.lanes lane).exit ≠ none) ∧
    (∀ lane, (seen.lanes lane).exitRead + childOutputDrain ≤ (last.completions lane).drainRead) ∧
    last.graceRead ≤ args.terminalDeadline

/-- The runs that are still there have exited by the time they were polled. -/
def Exited (seen poll : Poll) (s : CaptureState) : Prop :=
  ∀ lane runtime, s.runtimes lane = some runtime →
    runtime.drained (poll.completions lane).drainRead = false ∧ runtime.exitStatus.isSome = true ∧
    ∃ t, runtime.exitSeen = some t ∧ t ≤ (seen.lanes lane).exitRead

/-- A running capture whose children have exited still has one to drain. -/
def Draining (args : Arguments) (seen poll : Poll) : Progress → Prop
  | .running s => Exited seen poll s ∧
      ¬ (args.deadline ≤ poll.breakRead ∧ ∀ lane, s.runtimes lane = none)
  | .committed _ _ => True

theorem pollExit_seen {runtime : LaneRuntime} {poll : LanePoll} (hexit : poll.exit ≠ none)
    (hstatus : runtime.exitStatus.isSome = runtime.exitSeen.isSome) :
    (runtime.pollExit poll).exitStatus.isSome = true ∧
    ∃ t, (runtime.pollExit poll).exitSeen = some t ∧
      (runtime.exitSeen = some t ∨ t = poll.exitRead) := by
  obtain ⟨status, hstatus'⟩ := Option.ne_none_iff_exists'.mp hexit
  unfold LaneRuntime.pollExit
  rw [hstatus']
  cases hold : runtime.exitStatus with
  | none => exact ⟨rfl, poll.exitRead, rfl, Or.inr rfl⟩
  | some old =>
    rw [hold] at hstatus
    obtain ⟨t, ht⟩ := Option.isSome_iff_exists.mp hstatus.symm
    exact ⟨by simp [hold], t, ht, Or.inl ht⟩

theorem stepped_of_capture {s' : CaptureState}
    (hreads : (captureReads launches (polls ++ [poll])).Pairwise (· ≤ ·))
    (hstart : ∀ lane, (launches lane).startRead ≤ args.deadline)
    (hin : RunsInTime codec args runDir launches (polls ++ [poll]))
    (hcapture : capture codec args runDir launches (polls ++ [poll]) = .ok (.running s')) :
    ∃ s limit, capture codec args runDir launches polls = .ok (.running s) ∧
      Legal args s limit (lastRead launches polls) ∧ Stepped args poll s (.running s') := by
  have htimely := timely_of_reads hreads
  rw [captureReads_concat, List.pairwise_append] at hreads
  have hongoing : Ends (Outside True) (Ongoing args (lastRead launches polls))
      (capture codec args runDir launches polls) := capture_ends hreads.1 hstart
    (fun before poll' hbefore => hin before poll' (hbefore.trans (List.prefix_append _ _)))
    (fun hlate => absurd trivial hlate)
  rw [capture_concat] at hcapture
  cases hbefore : capture codec args runDir launches polls with
  | error abort =>
    rw [hbefore] at hcapture
    cases hcapture
  | ok progress =>
    have hprogress := hongoing.of_eq_ok hbefore
    rw [hbefore] at hcapture
    cases progress with
    | committed s terminal => cases hcapture
    | running s =>
      obtain ⟨limit, hlimit, hlegal, hpast⟩ := hprogress
      have hstepped : Ends (Outside True) _ _ := captureStep_ends hlegal hlimit hpast htimely
        (hin polls poll (List.prefix_refl _) s hbefore) (fun hlate => absurd trivial hlate)
        (fun hlate => absurd trivial hlate)
      exact ⟨s, limit, rfl, hlegal, hstepped.of_eq_ok hcapture⟩

/-- **Exits.** From the iteration on that finds every child exited, a capture that is still running
    has a child to drain. -/
theorem draining (hreads : (captureReads launches (before ++ seen :: later)).Pairwise (· ≤ ·))
    (hstart : ∀ lane, (launches lane).startRead ≤ args.deadline)
    (hin : RunsInTime codec args runDir launches (before ++ seen :: later))
    (hdeadline : args.deadline ≤ seen.horizonRead) (hexit : ∀ lane, (seen.lanes lane).exit ≠ none)
    (hlast : (before ++ seen :: later).getLast? = some last)
    (hcapture : capture codec args runDir launches (before ++ seen :: later) = .ok progress) :
    Draining args seen last progress := by
  induction later using List.reverseRecOn generalizing last progress with
  | nil =>
    have hseen : last = seen := by simpa using hlast.symm
    subst hseen
    cases progress with
    | committed s terminal => trivial
    | running s' =>
      obtain ⟨s, limit, -, hlegal, -, -, hremains, hbusy⟩ :=
        stepped_of_capture hreads hstart hin hcapture
      have htimely := timely_of_reads hreads
      have hrestart : args.deadline ≤ last.restartRead := by
        have := htimely.exit_le .primary
        have := htimely.drain_le .primary .primary
        have := htimely.restart_le .primary
        omega
      refine ⟨?_, hbusy⟩
      intro lane runtime' hruntime'
      obtain ⟨runtime, hruntime, hstatus, hseen, hdrained⟩ := hremains hrestart lane runtime' hruntime'
      have hlane := hlegal.lanes lane
      rw [hruntime] at hlane
      obtain ⟨hsome, t, ht, hwhen⟩ := pollExit_seen (hexit lane) hlane.1.exit_eq
      refine ⟨hdrained, by rw [hstatus]; exact hsome, t, by rw [hseen]; exact ht, ?_⟩
      rcases hwhen with hbefore | rfl
      · have := (hlane.1.seen t hbefore).2
        have := htimely.now_le
        have := htimely.horizon_le
        have := htimely.exit_le lane
        omega
      · exact Nat.le_refl _
  | append_singleton later poll ih =>
    have hsplit : before ++ seen :: (later ++ [poll]) = (before ++ seen :: later) ++ [poll] := by
      simp
    rw [hsplit] at hreads hin hlast hcapture
    have hpoll : last = poll := Option.some.inj (hlast.symm.trans List.getLast?_concat)
    subst hpoll
    cases progress with
    | committed s terminal => trivial
    | running s' =>
      obtain ⟨s, limit, hrunning, hlegal, -, -, hremains, hbusy⟩ :=
        stepped_of_capture hreads hstart hin hcapture
      have htimely := timely_of_reads hreads
      rw [captureReads_concat, List.pairwise_append] at hreads
      obtain ⟨old, hold⟩ : ∃ old, (before ++ seen :: later).getLast? = some old :=
        Option.isSome_iff_exists.mp (by simp)
      obtain ⟨hexited, -⟩ := ih hreads.1
        (fun before' poll' hbefore => hin before' poll' (hbefore.trans (List.prefix_append _ _)))
        hold hrunning
      -- the deadline has passed
      have hrestart : args.deadline ≤ last.restartRead := by
        have hmem : seen.horizonRead ∈ captureReads launches (before ++ seen :: later) := by
          simp [captureReads, Poll.reads]
        have hnow : last.nowRead ∈ last.reads := by simp [Poll.reads]
        have := hreads.2.2 _ hmem _ hnow
        have := htimely.horizon_le
        have := htimely.exit_le .primary
        have := htimely.drain_le .primary .primary
        have := htimely.restart_le .primary
        omega
      refine ⟨?_, hbusy⟩
      intro lane runtime' hruntime'
      obtain ⟨runtime, hruntime, hstatus, hseen, hdrained⟩ := hremains hrestart lane runtime' hruntime'
      obtain ⟨-, hsome, t, ht, hle⟩ := hexited lane runtime hruntime
      -- its exit is not polled again
      have hpolled : runtime.pollExit (last.lanes lane) = runtime := by
        obtain ⟨status, hstatus'⟩ := Option.isSome_iff_exists.mp hsome
        unfold LaneRuntime.pollExit
        rw [hstatus']
      rw [hpolled] at hstatus hseen
      exact ⟨hdrained, by rw [hstatus]; exact hsome, t, by rw [hseen]; exact ht, hle⟩

theorem reads_le {earlier : List Poll} {b : Nat}
    (h : (captureReads launches (earlier ++ later)).Pairwise (· ≤ ·))
    (ha : a ∈ captureReads launches earlier) (hpoll : poll ∈ later) (hb : b ∈ poll.reads) :
    a ≤ b := by
  have hsplit : captureReads launches (earlier ++ later)
      = captureReads launches earlier ++ later.flatMap Poll.reads := by
    simp [captureReads]
  rw [hsplit, List.pairwise_append] at h
  exact h.2.2 a ha b (List.mem_flatMap.mpr ⟨poll, hpoll, hb⟩)

theorem mem_captureReads (hpoll : poll ∈ polls) (ha : a ∈ poll.reads) :
    a ∈ captureReads launches polls :=
  List.mem_append_right _ (List.mem_flatMap.mpr ⟨poll, hpoll, ha⟩)

theorem horizonRead_le_last (h : (captureReads launches (before ++ seen :: later)).Pairwise (· ≤ ·))
    (hlast : (before ++ seen :: later).getLast? = some last) :
    seen.horizonRead ≤ last.breakRead := by
  obtain ⟨init, hinit⟩ := List.getLast?_eq_some_iff.mp hlast
  have horder : last.horizonRead ≤ last.breakRead := by
    have htimely := timely_of_reads (hinit ▸ h)
    have := htimely.exit_le .primary
    have := htimely.drain_le .primary .primary
    have := htimely.restart_le .primary
    have := htimely.started_le .primary
    have := htimely.break_le .primary
    omega
  have hhorizonRead : ∀ poll : Poll, poll.horizonRead ∈ poll.reads := by
    intro poll
    simp [Poll.reads]
  rcases List.eq_nil_or_concat later with rfl | ⟨rest, poll, rfl⟩
  · have hself : last = seen := by simpa using hlast.symm
    rw [hself] at horder ⊢
    exact horder
  · have hsplit : before ++ seen :: (rest ++ [poll]) = (before ++ [seen]) ++ (rest ++ [poll]) := by
      simp
    rw [List.concat_eq_append] at h hlast
    rw [hsplit, ← List.append_assoc, List.getLast?_concat] at hlast
    cases hlast
    rw [hsplit] at h
    have hmem : seen.horizonRead ∈ captureReads launches (before ++ [seen]) :=
      mem_captureReads (List.mem_append_right _ (List.mem_singleton_self _)) (hhorizonRead seen)
    have hlater : last ∈ rest ++ [last] := List.mem_append_right _ (List.mem_singleton_self _)
    exact (reads_le h hmem hlater (hhorizonRead last)).trans horder

theorem prompt_of_childrenExit (hreads : (captureReads launches polls).Pairwise (· ≤ ·))
    (h : ChildrenExit args polls) : Prompt args launches polls := by
  obtain ⟨before, seen, later, last, hpolls, hlast, hdeadline, -, -, hgrace⟩ := h
  obtain ⟨init, hinit⟩ := List.getLast?_eq_some_iff.mp hlast
  have hgraceRead : ∀ poll : Poll, poll.graceRead ∈ poll.reads := by
    intro poll
    simp [Poll.reads]
  have hhorizonRead : ∀ poll : Poll, poll.horizonRead ∈ poll.reads := by
    intro poll
    simp [Poll.reads]
  refine ⟨fun lane => ?_, fun poll hpoll => ⟨?_, ?_⟩⟩
  · have hmem : (launches lane).startedRead ∈ captureReads launches init := by
      apply List.mem_append_left
      cases lane <;> simp [launchReads]
    rw [hinit] at hreads
    exact (reads_le hreads hmem (List.mem_singleton_self _) (hgraceRead last)).trans hgrace
  · rw [hinit] at hreads hpoll
    rcases List.mem_append.mp hpoll with hinner | hself
    · exact (reads_le hreads (mem_captureReads hinner (hgraceRead poll)) (List.mem_singleton_self _)
        (hgraceRead last)).trans hgrace
    · rw [List.mem_singleton.mp hself]
      exact hgrace
  · -- before the horizon is closed, the run has not come to its end
    rw [hpolls] at hpoll
    rcases List.mem_append.mp hpoll with hbefore | hlater
    · right
      have hmem : poll.finishRead ∈ captureReads launches before :=
        mem_captureReads hbefore (finishRead_mem poll)
      have hlastMem : last ∈ seen :: later := by
        rw [hpolls] at hlast
        rw [List.getLast?_append_of_ne_nil _ (by simp)] at hlast
        exact List.mem_of_getLast? hlast
      rw [hpolls] at hreads
      have hle := reads_le hreads hmem hlastMem (hgraceRead last)
      exact (hle.trans hgrace).trans args.terminalDeadline_le
    · left
      rcases List.mem_cons.mp hlater with rfl | hlater
      · exact hdeadline
      · have hsplit : before ++ seen :: later = (before ++ [seen]) ++ later := by simp
        rw [hpolls, hsplit] at hreads
        have hmem : seen.horizonRead ∈ captureReads launches (before ++ [seen]) :=
          mem_captureReads (List.mem_append_right _ (List.mem_singleton_self _)) (hhorizonRead seen)
        exact hdeadline.trans (reads_le hreads hmem hlater (hhorizonRead poll))

end

/-! ## The supervisor is not aborted -/

/-- **Main theorem.** A capture whose lanes start by the deadline and whose iterations are in time
    is never aborted by its state machine, a record or a restart; with well-behaved children it
    commits. -/
theorem supervisor_is_never_aborted (codec : CaptureCodec) (args : Arguments) (runDir : String)
    (launches : CaptureLane → LaunchInput) (polls : List Poll)
    (hreads : (captureReads launches polls).Pairwise (· ≤ ·))
    (hstart : ∀ lane, (launches lane).startRead ≤ args.deadline)
    (hin : RunsInTime codec args runDir launches polls) :
    (∀ abort, capture codec args runDir launches polls = .error abort →
      abort.stage ≠ .supervisor ∧ abort.stage ≠ .transition ∧ abort.stage ≠ .restart) ∧
    (ChildrenExit args polls →
      (∀ abort, capture codec args runDir launches polls = .error abort →
        abort.stage ≠ .output ∧ abort.stage ≠ .journal) →
      ∃ s terminal, capture codec args runDir launches polls = .ok (.committed s terminal)) := by
  constructor
  · intro abort habort
    have hends : Ends (Outside True) _ _ := capture_ends hreads hstart hin
      (fun hlate => absurd trivial hlate)
    rcases hends.of_eq_error habort with h | h | ⟨-, h | h⟩ <;> rw [h] <;> decide
  · intro hexits hwell
    have hends : Ends (Outside False) _ _ := capture_ends hreads hstart hin
      (fun _ => prompt_of_childrenExit hreads hexits)
    cases hcapture : capture codec args runDir launches polls with
    | error abort =>
      obtain ⟨houtput, hjournal⟩ := hwell abort hcapture
      rcases hends.of_eq_error hcapture with h | h | ⟨h, -⟩
      · exact absurd h houtput
      · exact absurd h hjournal
      · exact absurd h id
    | ok progress =>
      cases progress with
      | committed s terminal => exact ⟨s, terminal, rfl⟩
      | running s =>
        obtain ⟨before, seen, later, last, rfl, hlast, hdeadline, hexit, hdrain, hgrace⟩ := hexits
        obtain ⟨hexited, hbusy⟩ := draining hreads hstart hin hdeadline hexit hlast hcapture
        exfalso
        apply hbusy
        refine ⟨?_, fun lane => ?_⟩
        · exact hdeadline.trans (horizonRead_le_last hreads hlast)
        · -- a run that were left would have been drained
          cases hruntime : s.runtimes lane with
          | none => rfl
          | some runtime =>
            obtain ⟨hdrained, hsome, t, ht, hle⟩ := hexited lane runtime hruntime
            have := hdrain lane
            have hpassed : runtime.drained (last.completions lane).drainRead = true :=
              drained_iff.mpr ⟨hsome, t, ht, by omega⟩
            rw [hpassed] at hdrained
            cases hdrained

/-! ## Short runs -/

def abortOf {α : Type} : Except Abort α → Option Abort
  | .error abort => some abort
  | .ok _ => none

theorem abortOf_eq_some {α : Type} {x : Except Abort α} {abort : Abort} :
    abortOf x = some abort ↔ x = .error abort := by
  cases x <;> simp [abortOf]

def oneSecond : Arguments := ⟨1, 1, 1, 2, by decide, by decide⟩

/-- A heartbeat of a child without failure. -/
def soundHeartbeat : RawCampaignHeartbeatV1 :=
  ⟨"CAMPAIGN_HEARTBEAT", "c-1", 5, 1, 1, 0, false, none, none⟩

/-- A codec that reads every line as a sound heartbeat. -/
def shortCodec : CaptureCodec where
  bodyDigest _ := "digest"
  heartbeat _ := .ok soundHeartbeat
  canonicalize path := .ok path
  sha256 _ := digestOfNat 0

/-- A launch whose reads all show one time. -/
def launchAt (read : Nat) : LaunchInput := ⟨read, read, "0123456789ab", 1, read, read⟩

/-- An iteration that takes its time at `now` and makes its other reads at `read`, with the given
    output and records of the primary lane and exits of both. -/
def pollAt (now read drain : Nat) (outputs : List (Nat × ChildOutput))
    (records : List Campaign.CampaignJournalEnvelopeV1) (exit : Option ExitStatus) : Poll where
  outputs := outputs
  nowRead := now
  horizonRead := read
  lanes lane := ⟨if lane = .primary then records else [], exit, read, read, read, read⟩
  completions _ := ⟨drain, [], [], false⟩
  restartRead := drain
  launches _ := launchAt drain
  breakRead := drain
  graceRead := drain
  finishRead := drain

def childRecord (index : Nat) (previous : String) (members : List (String × Value)) :
    Campaign.CampaignJournalEnvelopeV1 :=
  ⟨⟨"RawCampaignJournalRecordV1", index, 0, 0, some 0, "CHILD_STDOUT", .object members, previous⟩,
    "digest"⟩

def readyRecords : List Campaign.CampaignJournalEnvelopeV1 :=
  [childRecord 0 zeroDigest [("event", .string "PROCESS_STARTED")],
    childRecord 1 "digest" [("connection", .object [("stream", .string "depth")]),
      ("event", .string "TRANSPORT_CONNECTED")],
    childRecord 2 "digest" [("connection", .object [("stream", .string "trade")]),
      ("event", .string "TRANSPORT_CONNECTED")],
    childRecord 3 "digest" [("event", .string "SNAPSHOT_DURABLE")],
    childRecord 4 "digest" [("depth_durable", .nat 1),
      ("depth_last_market_message_mono_ns", .nat 1), ("event", .string "HEARTBEAT_DURABLE"),
      ("trade_durable", .nat 1), ("trade_last_market_message_mono_ns", .nat 1)]]

/-- A capture of one second whose children are silent and found exited at the deadline. -/
def closingPoll : Poll :=
  pollAt 1000000000 1000000000 2000000000 [] [] (some ⟨some 1⟩)

/-- The main theorem at a capture that commits. -/
theorem supervisor_is_never_aborted_at_closingPoll : ∃ s terminal,
    capture shortCodec oneSecond "run" (fun _ => launchAt 0) [closingPoll]
      = .ok (.committed s terminal) := by
  -- no lane has a cursor after the start
  have hquiet : ∀ s, boot oneSecond (fun _ => launchAt 0) = .ok s →
      ∀ lane, (s.runtimes lane).all (·.cursor.isNone) = true := by
    have hcheck : (match boot oneSecond (fun _ => launchAt 0) with
        | .ok s => CaptureLane.all.all fun lane => (s.runtimes lane).all (·.cursor.isNone)
        | .error _ => true) = true := by decide +kernel
    intro s hs lane
    rw [hs] at hcheck
    have hall := List.all_eq_true.mp hcheck
    exact hall lane (by cases lane <;> decide)
  apply (supervisor_is_never_aborted shortCodec oneSecond "run" (fun _ => launchAt 0)
    [closingPoll] (by decide) (fun _ => by decide) ?_).2
  · refine ⟨[], closingPoll, [], closingPoll, rfl, rfl, by decide, ?_, ?_, by decide⟩
    · intro lane
      exact Option.some_ne_none _
    · intro lane
      cases lane <;> decide
  · intro abort habort
    have hnone : abortOf (capture shortCodec oneSecond "run" (fun _ => launchAt 0) [closingPoll])
        = none := by decide +kernel
    rw [abortOf_eq_some.mpr habort] at hnone
    cases hnone
  · intro before poll hprefix s hs
    obtain ⟨rfl, rfl⟩ : before = [] ∧ poll = closingPoll := by
      have hlength := hprefix.length_le
      cases before with
      | nil =>
        obtain ⟨rest, hrest⟩ := hprefix
        cases hrest
        exact ⟨rfl, rfl⟩
      | cons first others =>
        simp at hlength
    refine ⟨fun _ _ => by decide, fun _ heard hheard lane runtime runtime' hruntime hrefresh => ?_⟩
    have hboot : boot oneSecond (fun _ => launchAt 0) = .ok s := by
      unfold capture at hs
      cases hboot : boot oneSecond (fun _ => launchAt 0) with
      | error abort =>
        rw [hboot] at hs
        cases hs
      | ok s' =>
        rw [hboot] at hs
        cases hs
        rfl
    cases hheard
    have hnone := hquiet s hboot lane
    rw [hruntime] at hnone
    unfold refresh at hrefresh
    cases hcursor : runtime.cursor with
    | some cursor => simp [hcursor] at hnone
    | none =>
      rw [hcursor] at hrefresh
      cases hrefresh
      unfold LaneRuntime.becomesReady
      rw [hcursor]
      simp

/-- The deadline passes between the sample of the time and the look at the horizon, or a lane is first
    seen ready in the iteration that closes the horizon: the state machine aborts the capture. -/
theorem aborted_at_the_horizon :
    (captureReads (fun _ => launchAt 0) [pollAt 999999999 1000000000 1000000000 [] [] none]).Pairwise
      (· ≤ ·) ∧
    capture shortCodec oneSecond "run" (fun _ => launchAt 0)
        [pollAt 999999999 1000000000 1000000000 [] [] none]
      = .error ⟨.supervisor,
          .err "hot-redundancy monotonic time regressed: 1000000000 -> 999999999"⟩ ∧
    (captureReads (fun _ => launchAt 0) [pollAt 1000000000 1000000000 1000000000
      [(1, .stdout .primary "primary-1-0123456789ab" "heartbeat")] readyRecords none]).Pairwise
      (· ≤ ·) ∧
    capture shortCodec oneSecond "run" (fun _ => launchAt 0)
        [pollAt 1000000000 1000000000 1000000000
          [(1, .stdout .primary "primary-1-0123456789ab" "heartbeat")] readyRecords none]
      = .error ⟨.supervisor, .err "PRIMARY readiness is illegal from its current state"⟩ := by
  refine ⟨by decide, ?_, by decide, ?_⟩
  · rw [← abortOf_eq_some]
    decide +kernel
  · rw [← abortOf_eq_some]
    decide +kernel

end LobReplay.Redundancy
