/-
  The capture loop keeps the account. Each part that writes to the journal is matched with what the
  verifier makes of its records.
-/

import LobReplay.Redundancy.Iteration
import LobReplay.Redundancy.LaneEvidence

namespace LobReplay.Redundancy

open Foundation
open HotRedundantSupervisor
open Campaign (CampaignJournalEnvelopeV1)

section

variable {args : Arguments} {prompt : Prop} {s s' : CaptureState} {records : List SupervisorRecord}
  {reply : Result CoverageTransition × HotRedundantSupervisor} {runtime runtime' : LaneRuntime}
variable {launches : List (String × LaunchEvidence)} {lane : CaptureLane}

/-! ## Records that tell nothing -/

theorem foldlM_quiet {β : Type} {f : β → SupervisorRecord → Result β}
    (h : ∀ record ∈ records, ∀ b, f b record = .ok b) (b : β) : records.foldlM f b = .ok b := by
  induction records with
  | nil => rfl
  | cons record records ih =>
    rw [List.foldlM_cons, h record List.mem_cons_self b]
    exact ih fun other hother => h other (List.mem_cons_of_mem _ hother)

theorem GapEvident.append (h : GapEvident s) (hopen : s'.supervisor.openGap = s.supervisor.openGap)
    (hnext : s'.supervisor.nextGapId = s.supervisor.nextGapId) (hgaps : s'.gaps = s.gaps)
    (hjournal : s'.journal = s.journal ++ records)
    (hquiet : ∀ record ∈ records, ∀ gaps, replayGap gaps record = .ok gaps) : GapEvident s' := by
  refine ⟨?_, ⟨?_, ?_⟩, ?_⟩
  · rw [hjournal, List.foldlM_append, h.replayed, hgaps]
    exact foldlM_quiet hquiet s.gaps
  · rw [hgaps, hnext]
    exact h.tracked.ids
  · rw [hopen, hgaps]
    exact h.tracked.held
  · rw [hopen]
    exact h.opened

theorem Grown.collect (hgrown : Grown s s') (h : collectLaneEvidence s.journal = .ok launches) :
    collectLaneEvidence s'.journal = .ok launches := by
  obtain ⟨records, hjournal, hquiet⟩ := hgrown
  unfold collectLaneEvidence at h ⊢
  rw [hjournal, List.foldlM_append, h]
  exact foldlM_quiet hquiet launches

namespace Accounted

section

variable (h : Accounted args prompt s launches)
include h

/-- What neither the lanes nor the evidence can tell. -/
theorem frame (hgaps : GapEvident s') (hruns : SameRuns s s') (hgrown : Grown s s')
    (htokens : ∀ token, s.supervisor.usedRunTokens.contains token = true →
      s'.supervisor.usedRunTokens.contains token = true) :
    Accounted args prompt s' launches := by
  refine ⟨hgaps, hgrown.collect h.collected, ?_, ?_, ?_, ?_, fun token htoken =>
    htokens token (h.used token htoken), ?_, ?_⟩
  · rw [hruns.runtimes_eq]
    exact h.live
  · rw [hruns.runResults_eq]
    exact h.done
  · rw [hruns.runResults_eq]
    exact h.distinct
  · rw [hruns.runResults_eq, hruns.runtimes_eq]
    exact h.count
  · rw [hruns.runtimes_eq]
    exact h.live_le
  · rw [hruns.runResults_eq]
    exact h.done_ready

theorem append {channel : String} {members : List (String × Value)}
    (hsilent : Silent ⟨channel, .object members⟩) :
    Accounted args prompt (s.append channel members) launches := by
  have hmem : ∀ record ∈ [(⟨channel, .object members⟩ : SupervisorRecord)], Silent record := by
    intro record hrecord
    rw [List.mem_singleton.mp hrecord]
    exact hsilent
  exact h.frame (h.gaps.append rfl rfl rfl rfl fun record hrecord => (hmem record hrecord).1)
    ⟨rfl, rfl, rfl⟩ ⟨_, rfl, fun record hrecord => (hmem record hrecord).2⟩ fun _ => id

/-- More is known of the child of a lane. -/
theorem setRuntime {runtime runtime' : LaneRuntime} (hruntime : s.runtimes lane = some runtime)
    (hextends : Extends runtime runtime') :
    Accounted args prompt (s.setRuntime lane (some runtime')) launches := by
  obtain ⟨hsound, hlookup⟩ := h.live lane runtime hruntime
  have hcases : ∀ lane' other,
      (s.setRuntime lane (some runtime')).runtimes lane' = some other →
      (lane' = lane ∧ other = runtime') ∨ s.runtimes lane' = some other := by
    intro lane' other hother
    have hother' : Function.update s.runtimes lane (some runtime') lane' = some other := hother
    by_cases hlane : lane' = lane
    · subst hlane
      rw [Function.update_self] at hother'
      exact Or.inl ⟨rfl, (Option.some.inj hother').symm⟩
    · rw [Function.update_of_ne hlane] at hother'
      exact Or.inr hother'
  refine ⟨h.gaps.append rfl rfl rfl (List.append_nil _).symm (by simp), h.collected, ?_, h.done,
    h.distinct, ?_, h.used, ?_, h.done_ready⟩
  · intro lane' other hother
    rcases hcases lane' other hother with ⟨rfl, rfl⟩ | hother
    · refine ⟨hextends.sound hsound, ?_⟩
      rw [hextends.token_eq, hextends.liveEvidence_eq hsound, hlookup]
    · exact h.live lane' other hother
  · have hrunning := running_update s.runtimes lane (some runtime')
    rw [hruntime] at hrunning
    show _ = s.runResults.length + running (Function.update s.runtimes lane (some runtime'))
    rw [h.count]
    simp only [Option.toList_some, List.length_singleton] at hrunning
    omega
  · intro hprompt lane' other hother
    rcases hcases lane' other hother with ⟨rfl, rfl⟩ | hother
    · rw [hextends.started_eq]
      exact h.live_le hprompt lane' runtime hruntime
    · exact h.live_le hprompt lane' other hother

end

end Accounted

/-! ## Calls of the state machine -/

theorem supervise_evident (h : GapEvident s)
    (haccepted : ∀ transition, reply.1 = .ok transition → Accepted s.supervisor transition reply.2)
    (hcall : supervise s reply = .ok s') :
    GapEvident s' ∧ SameRuns s s' ∧ Grown s s' ∧ s'.supervisor = reply.2 ∧
      ∃ transition, reply.1 = .ok transition := by
  obtain ⟨transition, hreply, hrecord⟩ := bind_ok_iff.mp hcall
  rw [within_eq_ok] at hreply hrecord
  obtain ⟨hgaps, hruns, hsupervisor, hgrown⟩ :=
    recordTransition_evident h (haccepted transition hreply).gaps hrecord
  exact ⟨hgaps, hruns, hgrown, hsupervisor, transition, hreply⟩

theorem reply_eq {α : Type} {reply : Result α × HotRedundantSupervisor} {a : α}
    (h : reply.1 = .ok a) : reply = (.ok a, reply.2) := by
  rw [← h]

theorem supervise_accounted (h : Accounted args prompt s launches)
    (haccepted : ∀ transition, reply.1 = .ok transition → Accepted s.supervisor transition reply.2)
    (hcall : supervise s reply = .ok s') : Accounted args prompt s' launches ∧ SameRuns s s' := by
  obtain ⟨hgaps, hruns, hgrown, hsupervisor, transition, hreply⟩ :=
    supervise_evident h.gaps haccepted hcall
  refine ⟨h.frame hgaps hruns hgrown fun token htoken => ?_, hruns⟩
  rw [hsupervisor]
  exact (haccepted transition hreply).tokens token htoken

/-! ## Output -/

variable {codec : CaptureCodec} {runDir : String} {now : Nat}

section

variable (h : Accounted args prompt s launches)
include h

theorem processOutput_accounted {input : Nat × ChildOutput}
    (hstep : processOutput codec runDir s input = .ok s') : Accounted args prompt s' launches := by
  unfold processOutput at hstep
  dsimp only at hstep
  split at hstep
  · cases hstep
    exact h
  · next runtime hruntime =>
    split at hstep
    · cases hstep
      exact h
    · obtain ⟨result, hline, hstep⟩ := bind_ok_iff.mp hstep
      obtain ⟨hextends, hsilent⟩ := processLine_extends (within_eq_ok.mp hline)
      cases hstep
      have hset := h.setRuntime hruntime hextends
      exact hset.frame (hset.gaps.append rfl rfl rfl rfl fun record hrecord =>
        (hsilent record hrecord).1) ⟨rfl, rfl, rfl⟩
        ⟨_, rfl, fun record hrecord => (hsilent record hrecord).2⟩ fun _ => id

theorem drainOutput_accounted {outputs : List (Nat × ChildOutput)}
    (hstep : drainOutput codec runDir s outputs = .ok s') : Accounted args prompt s' launches :=
  Ends.foldlM_ok (fun _ s => Accounted args prompt s launches) hstep h
    fun _ _ _ _ h hstep => processOutput_accounted h hstep

/-! ## The horizon -/

theorem closeHorizon_accounted {read : Nat} (hstep : closeHorizon args s read = .ok s') :
    Accounted args prompt s' launches := by
  unfold closeHorizon at hstep
  generalize args.horizonNs = horizon at hstep
  split at hstep
  · obtain ⟨s₁, hcall, hstep⟩ := bind_ok_iff.mp hstep
    obtain ⟨h₁, -⟩ := supervise_accounted h (fun _ hok => terminate_accepted (reply_eq hok)) hcall
    cases hstep
    have hsilent : Silent ⟨"SUPERVISOR", .object [("capture_horizon_mono_ns", natValue horizon),
        ("event", .string "CAPTURE_HORIZON_CLOSED"),
        ("terminal_drain_is_not_market_coverage", .bool true)]⟩ :=
      silent_of_event (show _ = some "CAPTURE_HORIZON_CLOSED" from rfl) (by decide)
    have hsilent := h₁.append hsilent
    exact ⟨hsilent.gaps.append rfl rfl rfl (List.append_nil _).symm (by simp), hsilent.collected,
      hsilent.live, hsilent.done, hsilent.distinct, hsilent.count, hsilent.used, hsilent.live_le,
      hsilent.done_ready⟩
  · cases hstep
    exact h

/-! ## The watch -/

/-- Two lanes run under different tokens. -/
theorem Accounted.token_ne {lane' : CaptureLane} (hlane : lane' ≠ lane)
    (hruntime : s.runtimes lane = some runtime) (hruntime' : s.runtimes lane' = some runtime') :
    runtime'.token ≠ runtime.token := by
  intro htoken
  have hlookup := (h.live lane runtime hruntime).2
  have hlookup' := (h.live lane' runtime' hruntime').2
  rw [htoken, hlookup] at hlookup'
  exact hlane (congrArg LaunchEvidence.lane (Option.some.inj hlookup')).symm

theorem Accounted.done_token_ne (hruntime : s.runtimes lane = some runtime) {run : LaneRunResultV1}
    (hrun : run ∈ s.runResults) : run.token ≠ runtime.token := by
  intro htoken
  have hlookup := (h.live lane runtime hruntime).2
  have hlookup' := (h.done run hrun).2
  rw [htoken, hlookup] at hlookup'
  cases congrArg LaunchEvidence.outcomeSuccess (Option.some.inj hlookup')

end

theorem payloadText_eq {payload : Value} {key text : String}
    (h : payload.strField key = some text) (hblank : isBlank text = false) :
    payloadText payload key = .ok text := by
  unfold payloadText
  rw [h, Option.filter_some, hblank]
  rfl

section

variable {payload : Value} {token : String} {launch : LaunchEvidence}

section

variable (htoken : payloadText payload "token" = .ok token)
include htoken

theorem collectLaunch_ok {requestedS : Nat} (hlane : payload.get "lane" = some (laneValue lane))
    (hrequested : payload.u64Field "requested_s" = (natValue requestedS).asU64)
    (hle : requestedS ≤ u64Max) (hnew : launches.lookup token = none) :
    collectLaunch launches payload = .ok (launches ++
      [(token, { lane := lane, requestedS := requestedS })]) := by
  obtain ⟨requested, hvalue, htoNat⟩ := natValue_asU64 hle
  have hread : laneFromValue (laneValue lane) = .ok lane := by cases lane <;> rfl
  unfold collectLaunch
  rw [htoken, hlane, hrequested, hvalue]
  simp only [okOr, bind, Except.bind, hread, hnew, htoNat, Option.isSome_none, Bool.false_eq_true,
    if_false]
  rfl

theorem collectReady_ok {campaignId : String}
    (hcampaign : payloadText payload "campaign_id" = .ok campaignId)
    (hlookup : launches.lookup token = some launch) (hready : launch.ready = false) :
    collectReady launches payload = .ok (adjust launches token fun launch =>
      { launch with ready := true, campaignId := some campaignId }) := by
  unfold collectReady
  rw [htoken]
  simp only [okOr, bind, Except.bind, hlookup, hready, hcampaign, Bool.false_eq_true, if_false]
  rfl

theorem collectOutcome_ok {success : Bool} {reason : String}
    (hreason : success = false → payloadText payload "reason" = .ok reason)
    (hlookup : launches.lookup token = some launch) (hnone : launch.outcomeSuccess = none) :
    collectOutcome launches payload success = .ok (adjust launches token fun launch =>
      { launch with
        outcomeSuccess := some success
        failureReason := if success then launch.failureReason else some reason }) := by
  unfold collectOutcome
  rw [htoken]
  simp only [okOr, bind, Except.bind, hlookup, hnone, Option.isSome_none, Bool.false_eq_true,
    if_false]
  cases success with
  | true => rfl
  | false =>
    rw [hreason rfl]
    rfl

end

end

theorem collect_concat {record : SupervisorRecord} {launches' : List (String × LaunchEvidence)}
    (h : collectLaneEvidence s.journal = .ok launches)
    (hrecord : collectRecord launches record = .ok launches') :
    collectLaneEvidence (s.journal ++ [record]) = .ok launches' :=
  foldlM_concat_ok h hrecord

/-- **Readiness.** A lane that becomes ready and the record of it. -/
theorem Accounted.ready (h : Accounted args prompt s launches)
    (hruntime : s.runtimes lane = some runtime) (hextends : Extends runtime runtime')
    (hready : runtime'.ready = false) (hnamed : runtime'.campaignId.isSome = true) :
    ∃ launches', Accounted args prompt
      ((s.append "LANE" [("campaign_id", optionValue runtime'.campaignId),
        ("event", .string "LANE_READY"), ("lane", laneValue lane),
        ("token", .string runtime'.token)]).setRuntime lane
          (some { runtime' with ready := true })) launches' := by
  obtain ⟨hsound, hlookup⟩ := h.live lane runtime hruntime
  have hsound' := hextends.sound hsound
  obtain ⟨campaignId, hcampaign⟩ := Option.isSome_iff_exists.mp hnamed
  rw [← hextends.liveEvidence_eq hsound, ← hextends.token_eq] at hlookup
  -- the verifier changes the entry of the lane
  have hcollect : collectRecord launches ⟨"LANE", .object
      [("campaign_id", optionValue runtime'.campaignId), ("event", .string "LANE_READY"),
        ("lane", laneValue lane), ("token", .string runtime'.token)]⟩
      = .ok (adjust launches runtime'.token fun launch =>
          { launch with ready := true, campaignId := some campaignId }) := by
    have htoken : payloadText (.object [("campaign_id", optionValue runtime'.campaignId),
        ("event", .string "LANE_READY"), ("lane", laneValue lane),
        ("token", .string runtime'.token)]) "token" = .ok runtime'.token :=
      payloadText_eq rfl hsound'.token
    have hname : payloadText (.object [("campaign_id", optionValue runtime'.campaignId),
        ("event", .string "LANE_READY"), ("lane", laneValue lane),
        ("token", .string runtime'.token)]) "campaign_id" = .ok campaignId :=
      payloadText_eq (by rw [hcampaign]; rfl) (hsound'.campaign campaignId hcampaign).not_blank
    exact collectReady_ok htoken hname hlookup hready
  have hne : ∀ lane' other, lane' ≠ lane → s.runtimes lane' = some other →
      other.token ≠ runtime'.token := by
    intro lane' other hlane hother
    rw [hextends.token_eq]
    exact h.token_ne hlane hruntime hother
  have hcases : ∀ lane' other,
      Function.update s.runtimes lane (some { runtime' with ready := true }) lane' = some other →
      (lane' = lane ∧ other = { runtime' with ready := true }) ∨
        (lane' ≠ lane ∧ s.runtimes lane' = some other) := by
    intro lane' other hother
    by_cases hlane : lane' = lane
    · subst hlane
      rw [Function.update_self] at hother
      exact Or.inl ⟨rfl, (Option.some.inj hother).symm⟩
    · rw [Function.update_of_ne hlane] at hother
      exact Or.inr ⟨hlane, hother⟩
  refine ⟨_, ?_, collect_concat h.collected hcollect, ?_, ?_, h.distinct, ?_, ?_, ?_, h.done_ready⟩
  · refine h.gaps.append rfl rfl rfl rfl fun record hrecord gaps => ?_
    rw [List.mem_singleton.mp hrecord]
    rfl
  · intro lane' other hother
    rcases hcases lane' other hother with ⟨rfl, rfl⟩ | ⟨hlane, hother⟩
    · refine ⟨⟨⟨hsound'.explained.reason, hsound'.explained.journal⟩, hsound'.token,
        hsound'.requested_le, hsound'.campaign, hsound'.named, fun _ => hnamed, hsound'.digest⟩, ?_⟩
      rw [lookup_adjust, if_pos rfl, hlookup]
      simp [liveEvidence, hcampaign]
    · obtain ⟨hsound₂, hlookup₂⟩ := h.live lane' other hother
      refine ⟨hsound₂, ?_⟩
      rw [lookup_adjust, if_neg (hne lane' other hlane hother), hlookup₂]
  · intro run hrun
    obtain ⟨hcomplete, hlookup₂⟩ := h.done run hrun
    refine ⟨hcomplete, ?_⟩
    rw [lookup_adjust, if_neg (by rw [hextends.token_eq]; exact h.done_token_ne hruntime hrun),
      hlookup₂]
  · have hrunning := running_update s.runtimes lane (some { runtime' with ready := true })
    rw [hruntime] at hrunning
    show _ = s.runResults.length + running (Function.update s.runtimes lane _)
    rw [length_adjust, h.count]
    simp only [Option.toList_some, List.length_singleton] at hrunning
    omega
  · intro token htoken
    rw [lookup_adjust] at htoken
    apply h.used token
    split at htoken
    · rw [Option.isSome_map] at htoken
      exact htoken
    · exact htoken
  · intro hprompt lane' other hother
    rcases hcases lane' other hother with ⟨rfl, rfl⟩ | ⟨-, hother⟩
    · show runtime'.startedMonoNs ≤ _
      rw [hextends.started_eq]
      exact h.live_le hprompt lane' runtime hruntime
    · exact h.live_le hprompt lane' other hother

@[simp] theorem runtimes_setRuntime (s : CaptureState) (lane : CaptureLane)
    (o : Option LaneRuntime) : (s.setRuntime lane o).runtimes = Function.update s.runtimes lane o :=
  rfl

theorem setRuntime_setRuntime (s : CaptureState) (lane : CaptureLane)
    (o o' : Option LaneRuntime) : (s.setRuntime lane o).setRuntime lane o' = s.setRuntime lane o' := by
  unfold CaptureState.setRuntime
  rw [Function.update_idem]

/-- A silent child is noted. -/
theorem noteStale_accounted {poll : LanePoll}
    (h : Accounted args prompt (s.setRuntime lane (some runtime)) launches) :
    Accounted args prompt (noteStale s lane (runtime.pollExit poll) poll) launches := by
  have hset : ∀ heartbeat, Accounted args prompt (s.setRuntime lane
      (some { runtime.pollExit poll with lastHeartbeat := heartbeat })) launches := by
    intro heartbeat
    have hself : (s.setRuntime lane (some runtime)).runtimes lane = some runtime :=
      Function.update_self _ _ _
    have hpolled := h.setRuntime hself (pollExit_extends runtime poll heartbeat)
    rw [setRuntime_setRuntime] at hpolled
    exact hpolled
  unfold noteStale
  split
  · exact (hset _).append (silent_of_event
      (show _ = some "LANE_COORDINATOR_HEARTBEAT_STALE" from rfl) (by decide))
  · exact hset (runtime.pollExit poll).lastHeartbeat

/-- **The watch over a lane** keeps the account. -/
theorem watchLane_accounted {poll : Poll} (h : Accounted args prompt s launches)
    (hnow : now ≤ u64Max) (hstep : watchLane codec now poll s lane = .ok s') :
    ∃ launches', Accounted args prompt s' launches' := by
  unfold watchLane at hstep
  cases hruntime : s.runtimes lane with
  | none =>
    rw [hruntime] at hstep
    cases hstep
    exact ⟨launches, h⟩
  | some runtime =>
    rw [hruntime] at hstep
    obtain ⟨runtime', hrefresh, hstep⟩ := bind_ok_iff.mp hstep
    have hextends := refresh_extends (within_eq_ok.mp hrefresh)
    obtain ⟨hsound, -⟩ := h.live lane runtime hruntime
    split at hstep
    · next hbecomes =>
      obtain ⟨s₁, hcall, hstep⟩ := bind_ok_iff.mp hstep
      obtain ⟨h₁, hsame⟩ := supervise_accounted h
        (fun _ hok => markReady_accepted (reply_eq hok) hnow) hcall
      cases hstep
      unfold LaneRuntime.becomesReady at hbecomes
      rw [Bool.and_eq_true, Bool.not_eq_true'] at hbecomes
      obtain ⟨hready, hfacts⟩ := hbecomes
      have hcursor : runtime'.cursor.isSome = true := by
        cases hcursor : runtime'.cursor with
        | none =>
          rw [hcursor] at hfacts
          cases hfacts
        | some cursor => rfl
      have hruntime₁ : s₁.runtimes lane = some runtime := by rw [hsame.runtimes_eq, hruntime]
      obtain ⟨launches', h'⟩ :=
        h₁.ready hruntime₁ hextends hready ((hextends.sound hsound).named hcursor)
      exact ⟨launches', noteStale_accounted h'⟩
    · cases hstep
      exact ⟨launches, noteStale_accounted (h.setRuntime hruntime hextends)⟩

end

end LobReplay.Redundancy
