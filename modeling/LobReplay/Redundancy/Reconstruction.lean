/-
  The account over whole runs of the capture loop, up to its commit (`capture_accounted`).
  `Unhurried` is what an iteration may not do if the account is to be prompt: take a lane down that
  has not been ready, or launch one that starts after the horizon.
-/

import LobReplay.Redundancy.Accounting
import LobReplay.Redundancy.Continuity

namespace LobReplay.Redundancy

open Foundation
open HotRedundantSupervisor

section

variable {codec : CaptureCodec} {args : Arguments} {runDir : String} {prompt : Prop}
  {runtime' : LaneRuntime}
variable {s s' : CaptureState} {launches : List (String × LaunchEvidence)} {lane : CaptureLane}
variable {now : Nat}

/-! ## Completions -/

variable {runtime : LaneRuntime} {poll : Poll} {inputs : CaptureLane → LaunchInput}
  {progress : Progress}

/-- What a run that ended is known to have been. -/
theorem complete_of_sound (h : Sound runtime) (lane : CaptureLane) (status : ExitStatus)
    (campaignJson : Bool) :
    Complete {
      lane
      token := runtime.token
      requestedS := runtime.requestedS
      startedMonoNs := runtime.startedMonoNs
      ready := runtime.ready
      campaignId := runtime.campaignId
      campaignDir := runtime.campaignId.map fun campaignId => laneDirectory lane ++ "/" ++ campaignId
      exitSuccess := runtime.clean status campaignJson
      exitCode := status.code
      failureReason :=
        if runtime.clean status campaignJson then none else some (runtime.reason status)
      failureRecordSha256 := runtime.failureRecordSha256
      stderrLines := runtime.stderrLines } := by
  refine ⟨h.token, rfl, h.campaign, ?_, ?_, fun digest hdigest => (h.digest digest hdigest).1⟩
  · intro hclean
    have hclean' : runtime.clean status campaignJson = true := hclean
    dsimp only
    rw [if_pos hclean']
    unfold LaneRuntime.clean ExitStatus.success at hclean'
    simp only [Bool.and_eq_true, decide_eq_true_eq, Option.isNone_iff_eq_none,
      List.isEmpty_iff] at hclean'
    obtain ⟨⟨⟨⟨⟨⟨hcode, hready⟩, hreason⟩, hstderr⟩, -⟩, -⟩, -⟩ := hclean'
    refine ⟨hready, hcode, rfl, ?_, hstderr⟩
    -- a digest would come with a reason
    cases hdigest : runtime.failureRecordSha256 with
    | none => rfl
    | some digest =>
      have hsome := (h.digest digest hdigest).2
      rw [hreason] at hsome
      cases hsome
  · intro hclean
    have hclean' : runtime.clean status campaignJson = false := hclean
    dsimp only
    rw [hclean']
    rintro t ⟨⟩
    exact isBlank_reason h.explained status

/-- **The outcome** of a run, in the journal and among the results. -/
theorem Accounted.finish (h : Accounted args prompt (s.setRuntime lane (some runtime)) launches)
    (hfree : s.runtimes lane = none) (hextends : Extends runtime runtime')
    (hprompt : prompt → runtime'.ready = true) (status : ExitStatus) (campaignJson : Bool) :
    ∃ launches', Accounted args prompt
      (noteOutcome s lane runtime' status (runtime'.clean status campaignJson)) launches' := by
  have hself : (s.setRuntime lane (some runtime)).runtimes lane = some runtime :=
    Function.update_self _ _ _
  have hother : ∀ lane' other, s.runtimes lane' = some other →
      lane' ≠ lane ∧ (s.setRuntime lane (some runtime)).runtimes lane' = some other := by
    intro lane' other hlane'
    have hne : lane' ≠ lane := by
      rintro rfl
      rw [hfree] at hlane'
      cases hlane'
    refine ⟨hne, ?_⟩
    rw [runtimes_setRuntime, Function.update_of_ne hne]
    exact hlane'
  obtain ⟨hsound, hlookup⟩ := h.live lane runtime hself
  have hsound' := hextends.sound hsound
  rw [← hextends.liveEvidence_eq hsound, ← hextends.token_eq] at hlookup
  have hcomplete := complete_of_sound hsound' lane status campaignJson
  unfold noteOutcome
  generalize hclean : runtime'.clean status campaignJson = clean at *
  -- the verifier changes the entry of the lane
  have hcollect : collectRecord launches ⟨"LANE", .object
      [("campaign_id", optionValue runtime'.campaignId), ("code", codeValue status.code),
        ("event", .string (if clean then "LANE_WINDOW_COMPLETED" else "LANE_FAILED")),
        ("lane", laneValue lane),
        ("reason", optionValue (if clean then none else some (runtime'.reason status))),
        ("token", .string runtime'.token)]⟩
      = .ok (adjust launches runtime'.token fun launch =>
          { launch with
            outcomeSuccess := some clean
            failureReason :=
              if clean then launch.failureReason else some (runtime'.reason status) }) := by
    have htoken : payloadText (.object
        [("campaign_id", optionValue runtime'.campaignId), ("code", codeValue status.code),
          ("event", .string (if clean then "LANE_WINDOW_COMPLETED" else "LANE_FAILED")),
          ("lane", laneValue lane),
          ("reason", optionValue (if clean then none else some (runtime'.reason status))),
          ("token", .string runtime'.token)]) "token" = .ok runtime'.token :=
      payloadText_eq rfl hsound'.token
    have hreason : clean = false → payloadText (.object
        [("campaign_id", optionValue runtime'.campaignId), ("code", codeValue status.code),
          ("event", .string (if clean then "LANE_WINDOW_COMPLETED" else "LANE_FAILED")),
          ("lane", laneValue lane),
          ("reason", optionValue (if clean then none else some (runtime'.reason status))),
          ("token", .string runtime'.token)]) "reason" = .ok (runtime'.reason status) := by
      rintro rfl
      exact payloadText_eq rfl (isBlank_reason hsound'.explained status)
    have hevent := collectOutcome_ok htoken hreason hlookup rfl
    cases clean <;> exact hevent
  refine ⟨_, ?_, collect_concat h.collected hcollect, ?_, ?_, ?_, ?_, ?_, ?_, ?_⟩
  · refine h.gaps.append rfl rfl rfl rfl fun record hrecord gaps => ?_
    rw [List.mem_singleton.mp hrecord]
    cases clean <;> rfl
  · intro lane' other hlane'
    obtain ⟨hne, hlane'⟩ := hother lane' other hlane'
    obtain ⟨hsound₂, hlookup₂⟩ := h.live lane' other hlane'
    refine ⟨hsound₂, ?_⟩
    rw [lookup_adjust, if_neg (by rw [hextends.token_eq]; exact h.token_ne hne hself hlane'),
      hlookup₂]
  · intro run hrun
    rcases List.mem_append.mp hrun with hrun | hrun
    · obtain ⟨hcomplete₂, hlookup₂⟩ := h.done run hrun
      refine ⟨hcomplete₂, ?_⟩
      rw [lookup_adjust, if_neg (by rw [hextends.token_eq]; exact h.done_token_ne hself hrun),
        hlookup₂]
    · rw [List.mem_singleton.mp hrun]
      refine ⟨hcomplete, ?_⟩
      rw [lookup_adjust, if_pos rfl, hlookup]
      cases clean <;> rfl
  · rw [List.map_append, List.nodup_append]
    refine ⟨h.distinct, List.pairwise_singleton _ _, ?_⟩
    intro token htoken other hmem
    rw [List.mem_singleton.mp hmem]
    obtain ⟨run, hrun, rfl⟩ := List.mem_map.mp htoken
    show run.token ≠ runtime'.token
    rw [hextends.token_eq]
    exact h.done_token_ne hself hrun
  · have hrunning := running_update s.runtimes lane (some runtime)
    have hcount := h.count
    change launches.length = s.runResults.length + running (Function.update s.runtimes lane _)
      at hcount
    rw [hfree] at hrunning
    simp only [Option.toList_some, Option.toList_none, List.length_singleton, List.length_nil]
      at hrunning
    rw [length_adjust, List.length_append, List.length_singleton]
    show _ = s.runResults.length + 1 + running s.runtimes
    omega
  · intro token htoken
    rw [lookup_adjust] at htoken
    apply h.used token
    split at htoken
    · rw [Option.isSome_map] at htoken
      exact htoken
    · exact htoken
  · intro hkept lane' other hlane'
    exact h.live_le hkept lane' other (hother lane' other hlane').2
  · intro hkept run hrun
    rcases List.mem_append.mp hrun with hrun | hrun
    · exact h.done_ready hkept run hrun
    · rw [List.mem_singleton.mp hrun]
      refine ⟨hprompt hkept, ?_⟩
      show runtime'.startedMonoNs ≤ _
      rw [hextends.started_eq]
      exact h.live_le hkept lane runtime hself

section

variable (h : Accounted args prompt s launches)
include h

theorem finishLane_accounted {status : ExitStatus} {campaignJson : Bool} (hnow : now ≤ u64Max)
    (hruntime : s.runtimes lane = some runtime) (hextends : Extends runtime runtime')
    (hprompt : prompt → runtime'.ready = true)
    (hstep : finishLane codec now s lane runtime' status campaignJson = .ok s') :
    (∃ launches', Accounted args prompt s' launches') ∧
      s'.runtimes = Function.update s.runtimes lane none := by
  have hfree : ∀ u : CaptureState, u.runtimes = Function.update s.runtimes lane none →
      u.runtimes lane = none := by
    intro u hu
    rw [hu, Function.update_self]
  -- with the runtime back in its place, the state is accounted for
  have hback : ∀ u : CaptureState, SameRuns (s.setRuntime lane none) u → GapEvident u →
      Grown (s.setRuntime lane none) u → (∀ token, s.supervisor.usedRunTokens.contains token = true →
        u.supervisor.usedRunTokens.contains token = true) →
      Accounted args prompt (u.setRuntime lane (some runtime)) launches := by
    intro u hsame hgaps hgrown htokens
    have hgaps' : GapEvident (u.setRuntime lane (some runtime)) :=
      hgaps.append rfl rfl rfl (List.append_nil _).symm (by simp)
    apply h.frame hgaps' ?_ hgrown htokens
    refine ⟨?_, hsame.runResults_eq, hsame.closed_eq⟩
    show Function.update u.runtimes lane (some runtime) = s.runtimes
    rw [hsame.runtimes_eq]
    show Function.update (Function.update s.runtimes lane none) lane (some runtime) = _
    rw [Function.update_idem, ← hruntime, Function.update_eq_self]
  have hgaps : GapEvident (s.setRuntime lane none) :=
    h.gaps.append rfl rfl rfl (List.append_nil _).symm (by simp)
  unfold finishLane at hstep
  dsimp only at hstep
  split at hstep
  · cases hstep
    have hset := hback (s.setRuntime lane none) ⟨rfl, rfl, rfl⟩ hgaps (Grown.refl _) fun _ => id
    exact ⟨hset.finish (hfree _ rfl) hextends hprompt status campaignJson, rfl⟩
  · obtain ⟨s₁, hcall, hstep⟩ := bind_ok_iff.mp hstep
    cases hstep
    have haccepted : ∀ reply, reply = (if runtime'.clean status campaignJson = true then
          s.supervisor.retireLane lane runtime'.token now
        else s.supervisor.failLane codec.sha256 lane runtime'.token (runtime'.reason status) now) →
        ∀ transition, reply.1 = .ok transition → Accepted s.supervisor transition reply.2 := by
      rintro reply rfl transition hok
      split at hok
      · next hclean =>
        rw [if_pos hclean]
        exact retireLane_accepted (reply_eq hok) hnow
      · next hclean =>
        rw [if_neg hclean]
        exact failLane_accepted (reply_eq hok) hnow
    obtain ⟨hgaps₁, hsame, hgrown, hsupervisor, transition, hreply⟩ :=
      supervise_evident hgaps (haccepted _ rfl) hcall
    have hset := hback s₁ hsame hgaps₁ hgrown (by
      rw [hsupervisor]
      exact (haccepted _ rfl transition hreply).tokens)
    exact ⟨hset.finish (hfree s₁ hsame.runtimes_eq) hextends hprompt status campaignJson,
      hsame.runtimes_eq⟩

/-- **The completion of a lane.** The lanes that are left are as ready as before. -/
theorem completeLane_accounted (hnow : now ≤ u64Max)
    (hready : prompt → ∀ runtime, s.runtimes lane = some runtime → runtime.ready = true)
    (hstep : completeLane codec runDir now poll s lane = .ok s') :
    (∃ launches', Accounted args prompt s' launches') ∧ ∀ lane' runtime',
      s'.runtimes lane' = some runtime' →
        ∃ runtime, s.runtimes lane' = some runtime ∧ runtime'.ready = runtime.ready := by
  obtain ⟨heard, hdrain, hstep⟩ := bind_ok_iff.mp hstep
  have hheard : Heard s heard := by
    have hends : Ends (Outside True) (Heard s)
        (drainOutput codec runDir s (poll.completions lane).outputs) := drainOutput_ends s _
    exact hends.of_eq_ok hdrain
  have hcontinued : ∀ lane' runtime', heard.runtimes lane' = some runtime' →
      ∃ runtime, s.runtimes lane' = some runtime ∧ runtime'.ready = runtime.ready := by
    intro lane' runtime' hruntime'
    have hlane' := hheard.continued lane'
    cases hbefore : s.runtimes lane' with
    | none =>
      rw [hbefore] at hlane'
      rw [show heard.runtimes lane' = none from hlane'] at hruntime'
      cases hruntime'
    | some runtime =>
      rw [hbefore] at hlane'
      obtain ⟨_, hafter, hsame⟩ := hlane'
      rw [hafter] at hruntime'
      cases hruntime'
      exact ⟨runtime, rfl, hsame.ready_eq⟩
  obtain ⟨runtime, hruntime, hstep⟩ := bind_ok_iff.mp hstep
  have hruntime := okOr_eq_ok.mp (within_eq_ok.mp hruntime)
  obtain ⟨runtime', hrefresh, hstep⟩ := bind_ok_iff.mp hstep
  have hextends := refresh_extends (within_eq_ok.mp hrefresh)
  obtain ⟨status, -, hstep⟩ := bind_ok_iff.mp hstep
  obtain ⟨haccounted, hruntimes⟩ := finishLane_accounted (drainOutput_accounted h hdrain) hnow
    hruntime hextends (fun hkept => by
      obtain ⟨before, hbefore, hsame⟩ := hcontinued lane runtime hruntime
      rw [hextends.ready_eq, hsame]
      exact hready hkept before hbefore) hstep
  refine ⟨haccounted, fun lane' other hother => ?_⟩
  rw [hruntimes] at hother
  by_cases hlane : lane' = lane
  · subst hlane
    rw [Function.update_self] at hother
    cases hother
  · rw [Function.update_of_ne hlane] at hother
    exact hcontinued lane' other hother

theorem completions_accounted {lanes : List CaptureLane} (hnow : now ≤ u64Max)
    (hready : prompt → ∀ lane ∈ lanes, ∀ runtime, s.runtimes lane = some runtime →
      runtime.ready = true)
    (hstep : lanes.foldlM (completeLane codec runDir now poll) s = .ok s') :
    ∃ launches', Accounted args prompt s' launches' := by
  have hinv := Ends.foldlM_ok (fun rest s => (∃ launches', Accounted args prompt s launches') ∧
    (prompt → ∀ lane ∈ rest, ∀ runtime, s.runtimes lane = some runtime → runtime.ready = true))
    hstep ⟨⟨launches, h⟩, hready⟩ ?_
  · exact hinv.1
  rintro lane rest s₁ s₂ ⟨⟨launches₁, h₁⟩, hready₁⟩ hstep₁
  obtain ⟨haccounted, hsame⟩ := completeLane_accounted h₁ hnow
    (fun hkept => hready₁ hkept lane List.mem_cons_self) hstep₁
  refine ⟨haccounted, fun hkept lane' hlane' runtime' hruntime' => ?_⟩
  obtain ⟨runtime, hruntime, hequal⟩ := hsame lane' runtime' hruntime'
  rw [hequal]
  exact hready₁ hkept lane' (List.mem_cons_of_mem _ hlane') runtime hruntime

end

/-! ## Launches -/

theorem elapsedNs_ok {read now : Nat} (h : elapsedNs read = .ok now) :
    now = read ∧ now ≤ u64Max := by
  unfold elapsedNs at h
  split at h
  · next hle =>
    cases h
    exact ⟨rfl, hle⟩
  · cases h

section

variable (h : Accounted args prompt s launches) {token : String}
include h

theorem start_accounted (hnow : now ≤ u64Max)
    (hcall : Redundancy.supervise s (s.supervisor.startLane lane token now) = .ok s') :
    Accounted args prompt s' launches ∧ SameRuns s s' ∧ launches.lookup token = none ∧
      isBlank token = false ∧ s'.supervisor.usedRunTokens.contains token = true := by
  have haccepted := fun transition hok =>
    startLane_accepted (@reply_eq CoverageTransition (s.supervisor.startLane lane token now)
      transition hok) hnow
  obtain ⟨-, -, -, hsupervisor, transition, hreply⟩ :=
    supervise_evident h.gaps (fun transition hok => (haccepted transition hok).1) hcall
  obtain ⟨h', hsame⟩ := supervise_accounted h (fun transition hok => (haccepted transition hok).1)
    hcall
  obtain ⟨-, hblank, hfresh, hused⟩ := haccepted transition hreply
  refine ⟨h', hsame, ?_, hblank, by rw [hsupervisor]; exact hused⟩
  -- every token of the evidence has been used
  cases hlookup : launches.lookup token with
  | none => rfl
  | some launch =>
    rw [h.used token (by rw [hlookup]; rfl)] at hfresh
    cases hfresh

/-- **A launch** and its record. -/
theorem launchLane_accounted {requestedS : Nat} {launch : LaunchInput}
    {members : List (String × Value)} (hfree : s.runtimes lane = none)
    (hnew : launches.lookup token = none) (hblank : isBlank token = false)
    (hused : s.supervisor.usedRunTokens.contains token = true) (hle : requestedS ≤ u64Max)
    (hcollect : collectRecord launches ⟨"LANE", .object members⟩
      = .ok (launches ++ [(token, { lane := lane, requestedS := requestedS })]))
    (hquiet : ∀ gaps, replayGap gaps ⟨"LANE", .object members⟩ = .ok gaps)
    (hprompt : prompt → launch.startedRead ≤ args.deadline)
    (hstep : launchLane s lane token requestedS launch members = .ok s') :
    (∃ launches', Accounted args prompt s' launches') ∧
      ∀ lane', lane' ≠ lane → s'.runtimes lane' = s.runtimes lane' := by
  obtain ⟨started, hclock, hstep⟩ := bind_ok_iff.mp hstep
  obtain ⟨hstarted, -⟩ := elapsedNs_ok (within_eq_ok.mp hclock)
  cases hstep
  have hcases : ∀ lane' other, Function.update s.runtimes lane (some {
        token, requestedS, startedMonoNs := started, lastHeartbeat := launch.heartbeatRead })
        lane' = some other →
      (lane' = lane ∧ other = {
        token, requestedS, startedMonoNs := started, lastHeartbeat := launch.heartbeatRead }) ∨
        s.runtimes lane' = some other := by
    intro lane' other hother
    by_cases hlane : lane' = lane
    · subst hlane
      rw [Function.update_self] at hother
      exact Or.inl ⟨rfl, (Option.some.inj hother).symm⟩
    · rw [Function.update_of_ne hlane] at hother
      exact Or.inr hother
  -- a token that has an entry is another one
  have hold : ∀ other evidence, launches.lookup other = some evidence →
      (launches ++ [(token, ({ lane := lane, requestedS := requestedS } : LaunchEvidence))]).lookup
        other = some evidence := by
    intro other evidence hlookup
    rw [lookup_concat, hlookup]
    rfl
  refine ⟨⟨_, ?_, collect_concat h.collected hcollect, ?_, ?_, h.distinct, ?_, ?_, ?_,
    h.done_ready⟩, fun lane' hlane => Function.update_of_ne hlane _ _⟩
  · refine h.gaps.append rfl rfl rfl rfl fun record hrecord gaps => ?_
    rw [List.mem_singleton.mp hrecord]
    exact hquiet gaps
  · intro lane' other hother
    rcases hcases lane' other hother with ⟨rfl, rfl⟩ | hother
    · refine ⟨⟨⟨?_, ?_⟩, hblank, hle, ?_, ?_, ?_, ?_⟩, ?_⟩
      · rintro t ⟨⟩
      · rintro cursor ⟨⟩
      · rintro campaignId ⟨⟩
      · rintro ⟨⟩
      · rintro ⟨⟩
      · rintro digest ⟨⟩
      · rw [lookup_concat, hnew, if_pos rfl]
        rfl
    · obtain ⟨hsound, hlookup⟩ := h.live lane' other hother
      exact ⟨hsound, hold _ _ hlookup⟩
  · intro run hrun
    obtain ⟨hcomplete, hlookup⟩ := h.done run hrun
    exact ⟨hcomplete, hold _ _ hlookup⟩
  · have hrunning := running_update s.runtimes lane (some {
      token, requestedS, startedMonoNs := started, lastHeartbeat := launch.heartbeatRead })
    rw [hfree] at hrunning
    simp only [Option.toList_some, Option.toList_none, List.length_singleton, List.length_nil]
      at hrunning
    have hcount := h.count
    rw [List.length_append, List.length_singleton]
    show _ = s.runResults.length + running (Function.update s.runtimes lane _)
    omega
  · intro other hother
    rw [lookup_concat] at hother
    by_cases htoken : other = token
    · rw [htoken]
      exact hused
    · rw [if_neg htoken, Option.or_none] at hother
      exact h.used other hother
  · intro hkept lane' other hother
    rcases hcases lane' other hother with ⟨-, rfl⟩ | hother
    · show started ≤ _
      rw [hstarted]
      exact hprompt hkept
    · exact h.live_le hkept lane' other hother

theorem restartLane_accounted {request : RestartRequest} (hnow : now ≤ u64Max)
    (hprompt : prompt → ∀ lane, (poll.launches lane).startedRead ≤ args.deadline)
    (hstep : restartLane args now poll s request = .ok s') :
    ∃ launches', Accounted args prompt s' launches' := by
  unfold restartLane at hstep
  dsimp only at hstep
  split at hstep
  · cases hstep
  · next hfree =>
    split at hstep
    · cases hstep
      exact ⟨launches, h⟩
    · obtain ⟨s₁, hcall, hstep⟩ := bind_ok_iff.mp hstep
      obtain ⟨h₁, hsame, hnew, hblank, hused⟩ := start_accounted h hnow hcall
      have hfree₁ : s₁.runtimes request.lane = none := by
        rw [hsame.runtimes_eq]
        simpa using hfree
      have hle : min (ceilSeconds (args.deadline - (poll.launches request.lane).remainingRead))
          (args.windowS request.lane) ≤ u64Max := by
        have hceil : ceilSeconds (args.deadline - (poll.launches request.lane).remainingRead)
            ≤ u64Max := by
          have hdiv := Nat.div_le_self
            (args.deadline - (poll.launches request.lane).remainingRead) 1000000000
          have htotal := args.total_le
          have hdeadline : args.deadline = args.totalS * 1000000000 := rfl
          unfold ceilSeconds
          simp only [u64Max]
          split <;> omega
        exact (Nat.min_le_left _ _).trans hceil
      refine (launchLane_accounted h₁ hfree₁ hnew hblank hused hle ?_ ?_
        (fun hkept => hprompt hkept request.lane) hstep).1
      · exact collectLaunch_ok (payloadText_eq rfl hblank) rfl rfl hle hnew
      · exact fun _ => rfl

theorem restartLanes_accounted (hnow : now ≤ u64Max)
    (hprompt : prompt → poll.restartRead < args.deadline →
      ∀ lane, (poll.launches lane).startedRead ≤ args.deadline)
    (hstep : restartLanes args now poll s = .ok s') :
    ∃ launches', Accounted args prompt s' launches' := by
  unfold restartLanes at hstep
  split at hstep
  · next hearly =>
    obtain ⟨requests, -, hstep⟩ := bind_ok_iff.mp hstep
    obtain ⟨hopen, hnext, htokens⟩ := restartRequests_keeps s.supervisor now
    have hclock : Accounted args prompt
        { s with supervisor := (s.supervisor.restartRequests now).2 } launches := by
      have hgaps : GapEvident { s with supervisor := (s.supervisor.restartRequests now).2 } :=
        h.gaps.append hopen hnext rfl (List.append_nil _).symm (by simp)
      apply h.frame hgaps ⟨rfl, rfl, rfl⟩ ⟨[], (List.append_nil _).symm, by simp⟩
      intro token htoken
      show (s.supervisor.restartRequests now).2.usedRunTokens.contains token = true
      rw [htokens]
      exact htoken
    exact Ends.foldlM_ok (fun _ s => ∃ launches', Accounted args prompt s launches') hstep
      ⟨launches, hclock⟩ fun request _ s₁ s₂ ⟨launches₁, h₁⟩ hstep₁ =>
        restartLane_accounted h₁ hnow (fun hkept => hprompt hkept hearly) hstep₁
  · cases hstep
    exact ⟨launches, h⟩

end

/-! ## The iteration -/

/-- An iteration up to its completions. -/
def watched (codec : CaptureCodec) (args : Arguments) (runDir : String) (s : CaptureState)
    (poll : Poll) : Except Abort CaptureState := do
  let s ← drainOutput codec runDir s poll.outputs
  let now ← within .clock (elapsedNs poll.nowRead)
  let s ← closeHorizon args s poll.horizonRead
  CaptureLane.all.foldlM (watchLane codec now poll) s

/-- An iteration without haste: it takes no lane down that has not been ready, and what it launches
    before the horizon has started by the horizon. -/
structure Unhurried (codec : CaptureCodec) (args : Arguments) (runDir : String) (s : CaptureState)
    (poll : Poll) : Prop where
  ready : ∀ s', watched codec args runDir s poll = .ok s' → ∀ lane ∈ completed s' poll,
    ∀ runtime, s'.runtimes lane = some runtime → runtime.ready = true
  launched : poll.restartRead < args.deadline →
    ∀ lane, (poll.launches lane).startedRead ≤ args.deadline

/-- **Step.** An iteration keeps the account. -/
theorem iteration_accounted (h : Accounted args prompt s launches)
    (hprompt : prompt → Unhurried codec args runDir s poll)
    (hstep : iteration codec args runDir s poll = .ok s') :
    ∃ launches', Accounted args prompt s' launches' := by
  obtain ⟨s₁, hdrain, hstep⟩ := bind_ok_iff.mp hstep
  have h₁ := drainOutput_accounted h hdrain
  obtain ⟨now, hclock, hstep⟩ := bind_ok_iff.mp hstep
  obtain ⟨-, hnow⟩ := elapsedNs_ok (within_eq_ok.mp hclock)
  obtain ⟨s₂, hhorizon, hstep⟩ := bind_ok_iff.mp hstep
  have h₂ := closeHorizon_accounted h₁ hhorizon
  obtain ⟨s₃, hwatch, hstep⟩ := bind_ok_iff.mp hstep
  obtain ⟨launches₃, h₃⟩ := Ends.foldlM_ok
    (fun _ s => ∃ launches', Accounted args prompt s launches') hwatch ⟨launches, h₂⟩
    fun lane _ s s' ⟨_, hs⟩ hlane => watchLane_accounted hs hnow hlane
  have hwatched : watched codec args runDir s poll = .ok s₃ := by
    unfold watched
    rw [hdrain]
    show (within .clock (elapsedNs poll.nowRead) >>= _) = _
    rw [hclock]
    show (closeHorizon args s₁ poll.horizonRead >>= _) = _
    rw [hhorizon]
    exact hwatch
  obtain ⟨s₄, hcomplete, hstep⟩ := bind_ok_iff.mp hstep
  obtain ⟨launches₄, h₄⟩ := completions_accounted h₃ hnow
    (fun hkept => (hprompt hkept).ready s₃ hwatched) hcomplete
  obtain ⟨s₅, hrestart, hstep⟩ := bind_ok_iff.mp hstep
  obtain ⟨launches₅, h₅⟩ := restartLanes_accounted h₄ hnow
    (fun hkept => (hprompt hkept).launched) hrestart
  exact ⟨launches₅, (supervise_accounted h₅
    (fun _ hok => advanceTime_accepted (reply_eq hok) hnow) hstep).1⟩

/-! ## The start -/

theorem firstLaunch_accounted (h : Accounted args prompt s launches)
    (hfree : s.runtimes lane = none) (hprompt : prompt → (inputs lane).startedRead ≤ args.deadline)
    (hstep : firstLaunch args inputs s lane = .ok s') :
    (∃ launches', Accounted args prompt s' launches') ∧
      ∀ lane', lane' ≠ lane → s'.runtimes lane' = s.runtimes lane' := by
  unfold firstLaunch at hstep
  obtain ⟨now, hclock, hstep⟩ := bind_ok_iff.mp hstep
  obtain ⟨-, hnow⟩ := elapsedNs_ok (within_eq_ok.mp hclock)
  obtain ⟨s₁, hcall, hstep⟩ := bind_ok_iff.mp hstep
  obtain ⟨h₁, hsame, hnew, hblank, hused⟩ := start_accounted h hnow hcall
  have hfree₁ : s₁.runtimes lane = none := by
    rw [hsame.runtimes_eq]
    exact hfree
  have hle : min args.totalS (args.windowS lane) ≤ u64Max := by
    have := args.total_le
    have := Nat.min_le_left args.totalS (args.windowS lane)
    simp only [u64Max]
    omega
  obtain ⟨haccounted, hother⟩ := launchLane_accounted h₁ hfree₁ hnew hblank hused hle (by
    exact collectLaunch_ok (payloadText_eq rfl hblank) rfl rfl hle hnew) (by
    exact fun _ => rfl) hprompt hstep
  refine ⟨haccounted, fun lane' hlane => ?_⟩
  rw [hother lane' hlane, hsame.runtimes_eq]

theorem boot_accounted (hprompt : prompt → ∀ lane, (inputs lane).startedRead ≤ args.deadline)
    (hstep : boot args inputs = .ok s) : ∃ launches, Accounted args prompt s launches := by
  have hnew : HotRedundantSupervisor.new captureConfig 0
      = .ok ⟨captureConfig, LaneStatus.absent, .empty, .starting, false, none, 0, 0, false⟩ := rfl
  unfold boot at hstep
  rw [hnew] at hstep
  -- nothing has been launched
  have hempty : Accounted args prompt
      { supervisor := ⟨captureConfig, LaneStatus.absent, .empty, .starting, false, none, 0, 0,
        false⟩ } [] := by
    refine ⟨⟨rfl, ⟨rfl, ?_⟩, ?_⟩, rfl, ?_, ?_, List.Pairwise.nil, rfl, ?_, ?_, ?_⟩
    · rintro gap ⟨⟩
    · rintro gap ⟨⟩
    · rintro lane runtime ⟨⟩
    · intro run hrun
      cases hrun
    · intro token htoken
      cases htoken
    · rintro - lane runtime ⟨⟩
    · intro _ run hrun
      cases hrun
  have hstart := hempty.append (silent_event "SUPERVISOR" "SUPERVISOR_STARTED" (by decide))
  have hinv := Ends.foldlM_ok (fun rest s => (∃ launches', Accounted args prompt s launches') ∧
    rest.Nodup ∧ ∀ lane ∈ rest, s.runtimes lane = none)
    hstep ⟨⟨[], hstart⟩, by decide, fun _ _ => rfl⟩ ?_
  · exact hinv.1
  rintro lane rest s₁ s₂ ⟨⟨launches₁, h₁⟩, hnodup, hfree⟩ hstep₁
  obtain ⟨haccounted, hother⟩ := firstLaunch_accounted h₁ (hfree lane List.mem_cons_self)
    (fun hkept => hprompt hkept lane) hstep₁
  rw [List.nodup_cons] at hnodup
  refine ⟨haccounted, hnodup.2, fun lane' hlane' => ?_⟩
  rw [hother lane' (by rintro rfl; exact hnodup.1 hlane')]
  exact hfree lane' (List.mem_cons_of_mem _ hlane')

/-! ## Runs -/

/-- The account of a run; at the commit no lane is left. -/
def AccountedProgress (args : Arguments) (prompt : Prop) : Progress → Prop
  | .running s => ∃ launches, Accounted args prompt s launches
  | .committed s terminal => ∃ launches, Accounted args prompt s launches ∧
      running s.runtimes = 0 ∧ terminal.gaps = s.gaps ∧ terminal.laneRuns = s.runResults

theorem commit_accounted {finishRead : Nat} (h : Accounted args prompt s launches)
    (hnone : running s.runtimes = 0) (hstep : commit s finishRead = .ok progress) :
    AccountedProgress args prompt progress := by
  obtain ⟨s₁, hclose, hstep⟩ := bind_ok_iff.mp hstep
  obtain ⟨h₁, hsame⟩ : Accounted args prompt s₁ launches ∧ SameRuns s s₁ := by
    unfold closeRun at hclose
    split at hclose
    · cases hclose
      exact ⟨h, rfl, rfl, rfl⟩
    · obtain ⟨now, -, hclose⟩ := bind_ok_iff.mp hclose
      exact supervise_accounted h (fun _ hok => terminate_accepted (reply_eq hok)) hclose
  cases hstep
  refine ⟨launches, ?_, ?_, rfl, rfl⟩
  · have hprepared := h₁.append
      (silent_event "SUPERVISOR" "SUPERVISOR_TERMINAL_PREPARED" (by decide))
    exact hprepared.append (silent_event "SUPERVISOR" "SUPERVISOR_COMMITTED" (by decide))
  · show running s₁.runtimes = 0
    rw [hsame.runtimes_eq]
    exact hnone

theorem captureStep_accounted {progress' : Progress} (h : AccountedProgress args prompt progress)
    (hprompt : prompt → ∀ s, progress = .running s → Unhurried codec args runDir s poll)
    (hstep : captureStep codec args runDir progress poll = .ok progress') :
    AccountedProgress args prompt progress' := by
  cases progress with
  | committed s terminal =>
    cases hstep
    exact h
  | running s =>
    obtain ⟨launches, h⟩ := h
    obtain ⟨s₁, hiteration, hstep⟩ := bind_ok_iff.mp hstep
    obtain ⟨launches₁, h₁⟩ := iteration_accounted h (fun hkept => hprompt hkept s rfl) hiteration
    split at hstep
    · next hdone =>
      apply commit_accounted h₁ ?_ hstep
      obtain ⟨-, hprimary, hshadow⟩ := hdone
      rw [Option.isNone_iff_eq_none] at hprimary hshadow
      unfold running
      rw [hprimary, hshadow]
      rfl
    · split at hstep
      · cases hstep
      · cases hstep
        exact ⟨launches₁, h₁⟩

/-- The first launches and the iterations of a run are without haste. -/
structure RunsUnhurried (codec : CaptureCodec) (args : Arguments) (runDir : String)
    (launches : CaptureLane → LaunchInput) (polls : List Poll) : Prop where
  start : ∀ lane, (launches lane).startedRead ≤ args.deadline
  step : ∀ before poll, before ++ [poll] <+: polls → ∀ s,
    capture codec args runDir launches before = .ok (.running s) →
      Unhurried codec args runDir s poll

/-- **Run.** The journal of a capture accounts for its launches. -/
theorem capture_accounted {polls : List Poll}
    (hprompt : prompt → RunsUnhurried codec args runDir inputs polls)
    (hrun : capture codec args runDir inputs polls = .ok progress) :
    AccountedProgress args prompt progress := by
  induction polls using List.reverseRecOn generalizing progress with
  | nil =>
    obtain ⟨s, hboot, hrun⟩ := bind_ok_iff.mp hrun
    cases hrun
    exact boot_accounted (fun hkept => (hprompt hkept).start) hboot
  | append_singleton polls poll ih =>
    rw [capture_concat] at hrun
    obtain ⟨progress₁, hrun₁, hstep⟩ := bind_ok_iff.mp hrun
    have h₁ := ih (fun hkept => ⟨(hprompt hkept).start, fun before poll' hbefore =>
      (hprompt hkept).step before poll' (hbefore.trans (List.prefix_append _ _))⟩) hrun₁
    apply captureStep_accounted h₁ ?_ hstep
    rintro hkept s rfl
    exact (hprompt hkept).step polls poll (List.prefix_refl _) s hrun₁

end

end LobReplay.Redundancy
