/-
  What the verifier reads off the journal about a launch. `liveEvidence` is the evidence of a launch
  that still runs, `doneEvidence` that of one with a result; they name the campaign only if the lane
  has been ready.
-/

import LobReplay.Redundancy.Evidence

namespace LobReplay.Redundancy

open Foundation
open HotRedundantSupervisor
open Campaign (CampaignJournalEnvelopeV1)

/-! ## Runtimes -/

structure Portable (campaignId : String) : Prop where
  not_blank : isBlank campaignId = false
  not_empty : asBytes campaignId ≠ []
  portable : (asBytes campaignId).all isPortableByte = true

/-- What a runtime knows of its child. -/
structure Sound (runtime : LaneRuntime) : Prop where
  explained : Explained runtime
  token : isBlank runtime.token = false
  requested_le : runtime.requestedS ≤ u64Max
  campaign : ∀ campaignId, runtime.campaignId = some campaignId → Portable campaignId
  /-- The journal of a campaign is read once the campaign has a name. -/
  named : runtime.cursor.isSome = true → runtime.campaignId.isSome = true
  ready : runtime.ready = true → runtime.campaignId.isSome = true
  digest : ∀ digest, runtime.failureRecordSha256 = some digest →
    isLowerHex64 digest = true ∧ runtime.failureReason.isSome = true

/-- The run goes on: what is known of the child has grown. -/
structure Extends (runtime runtime' : LaneRuntime) : Prop where
  token_eq : runtime'.token = runtime.token
  requested_eq : runtime'.requestedS = runtime.requestedS
  ready_eq : runtime'.ready = runtime.ready
  started_eq : runtime'.startedMonoNs = runtime.startedMonoNs
  campaign : ∀ campaignId, runtime.campaignId = some campaignId →
    runtime'.campaignId = some campaignId
  sound : Sound runtime → Sound runtime'

theorem Extends.refl (runtime : LaneRuntime) : Extends runtime runtime :=
  ⟨rfl, rfl, rfl, rfl, fun _ => id, id⟩

theorem Extends.trans {a b c : LaneRuntime} (hab : Extends a b) (hbc : Extends b c) :
    Extends a c :=
  ⟨hbc.token_eq.trans hab.token_eq, hbc.requested_eq.trans hab.requested_eq,
    hbc.ready_eq.trans hab.ready_eq, hbc.started_eq.trans hab.started_eq,
    fun campaignId h => hbc.campaign campaignId (hab.campaign campaignId h),
    hbc.sound ∘ hab.sound⟩

variable {runtime runtime' : LaneRuntime} {runDir : String} {campaignId : String}
  {lane : CaptureLane} {heartbeat : RawCampaignHeartbeatV1} {read : Nat} {codec : CaptureCodec}

/-- Only the fields that `Sound` is about matter. -/
theorem Extends.of_eq (htoken : runtime'.token = runtime.token)
    (hrequested : runtime'.requestedS = runtime.requestedS)
    (hready : runtime'.ready = runtime.ready)
    (hstarted : runtime'.startedMonoNs = runtime.startedMonoNs)
    (hcampaign : runtime'.campaignId = runtime.campaignId)
    (hcursor : runtime'.cursor = runtime.cursor)
    (hreason : runtime'.failureReason = runtime.failureReason)
    (hdigest : runtime'.failureRecordSha256 = runtime.failureRecordSha256) :
    Extends runtime runtime' := by
  refine ⟨htoken, hrequested, hready, hstarted, fun campaignId h => hcampaign.trans h,
    fun hsound => ⟨⟨?_, ?_⟩, ?_, ?_, ?_, ?_, ?_, ?_⟩⟩
  · rw [hreason]
    exact hsound.explained.reason
  · rw [hcursor]
    exact hsound.explained.journal
  · rw [htoken]
    exact hsound.token
  · rw [hrequested]
    exact hsound.requested_le
  · rw [hcampaign]
    exact hsound.campaign
  · rw [hcursor, hcampaign]
    exact hsound.named
  · rw [hready, hcampaign]
    exact hsound.ready
  · rw [hdigest, hreason]
    exact hsound.digest

theorem validateCampaignId_ok (h : validateCampaignId campaignId = .ok ())
    (hblank : isBlank campaignId = false) : Portable campaignId := by
  unfold validateCampaignId at h
  rw [ite_err_eq_ok] at h
  simp only [not_or, not_not] at h
  exact ⟨hblank, h.1.1, h.1.2.2⟩

theorem nameCampaign_extends (hblank : isBlank campaignId = false)
    (h : nameCampaign runDir lane runtime campaignId = .ok runtime') :
    Extends runtime runtime' := by
  have hsame := nameCampaign_same h
  unfold nameCampaign at h
  split at h
  · rw [ite_err_eq_ok] at h
    obtain ⟨-, h⟩ := h
    cases h
    exact Extends.refl _
  · next hnone =>
    obtain ⟨⟨⟩, hvalid, h⟩ := bind_eq_ok.mp h
    cases h
    refine ⟨rfl, rfl, rfl, rfl, ?_, fun hsound => ⟨hsame.explained hsound.explained, hsound.token,
      hsound.requested_le, ?_, fun _ => rfl, fun _ => rfl, hsound.digest⟩⟩
    · intro other hother
      rw [hnone] at hother
      cases hother
    · rintro _ ⟨⟩
      exact validateCampaignId_ok hvalid hblank

theorem validate_sound (h : heartbeat.validate = .ok ()) :
    isBlank heartbeat.campaignId = false ∧
    (heartbeat.failure = true → heartbeat.failureReason.isSome = true) ∧
    ∀ digest, heartbeat.failureRecordSha256 = some digest → isLowerHex64 digest = true := by
  unfold RawCampaignHeartbeatV1.validate at h
  rw [ite_err_eq_ok] at h
  simp only [not_or, ne_eq, not_not, Bool.not_eq_true] at h
  obtain ⟨⟨-, hblank, -, -, -, hreason, -, -, hdigest⟩, -⟩ := h
  refine ⟨hblank, ?_, ?_⟩
  · intro hfailure
    rw [← hreason]
    exact hfailure
  · intro digest hsome
    rw [hsome] at hdigest
    simpa using hdigest

theorem noteHeartbeat_extends
    (h : noteHeartbeat runDir lane runtime heartbeat read = .ok runtime') :
    Extends runtime runtime' := by
  obtain ⟨⟨⟩, hvalid, h⟩ := bind_eq_ok.mp h
  obtain ⟨hblank, hreason, hdigest⟩ := validate_sound hvalid
  have hnonBlank := validate_nonBlank hvalid
  obtain ⟨named, hnamed, h⟩ := bind_eq_ok.mp h
  apply (nameCampaign_extends hblank hnamed).trans
  dsimp only at h
  split at h
  · next hfailure =>
    cases h
    refine ⟨rfl, rfl, rfl, rfl, fun _ => id, fun hsound => ⟨⟨hnonBlank, hsound.explained.journal⟩,
      hsound.token, hsound.requested_le, hsound.campaign, hsound.named, hsound.ready, ?_⟩⟩
    intro digest hsome
    exact ⟨hdigest digest hsome, hreason hfailure⟩
  · cases h
    exact Extends.of_eq rfl rfl rfl rfl rfl rfl rfl rfl

theorem processLine_extends {output : ChildOutput} {result : LaneRuntime × List SupervisorRecord}
    (h : processLine codec runDir runtime read output = .ok result) :
    Extends runtime result.1 ∧ ∀ record ∈ result.2, Silent record := by
  cases output with
  | stderr lane token line =>
    unfold processLine at h
    rw [ite_err_eq_ok] at h
    obtain ⟨-, h⟩ := h
    cases h
    refine ⟨Extends.of_eq rfl rfl rfl rfl rfl rfl rfl rfl, ?_⟩
    intro record hrecord
    rw [List.mem_singleton.mp hrecord]
    exact silent_of_event (show _ = some "LANE_STDERR" from rfl) (by decide)
  | stdout lane token line =>
    obtain ⟨runtime', hline, h⟩ := bind_eq_ok.mp h
    cases h
    refine ⟨?_, by simp⟩
    unfold processStdout at hline
    dsimp only at hline
    split at hline
    · cases hline
    · split at hline
      · exact noteHeartbeat_extends hline
      · split at hline
        · cases hline
        · split at hline
          · cases hline
          · cases hline
          · split at hline
            · cases hline
            · cases hline
              exact Extends.of_eq rfl rfl rfl rfl rfl rfl rfl rfl

/-- Reading the journal of a child. -/
theorem refresh_extends {records : List CampaignJournalEnvelopeV1}
    (h : refresh codec runtime records = .ok runtime') : Extends runtime runtime' := by
  have hsame := refresh_same h
  unfold refresh at h
  cases hcursor : runtime.cursor with
  | none =>
    rw [hcursor] at h
    cases h
    exact Extends.refl _
  | some cursor =>
    rw [hcursor] at h
    obtain ⟨cursor', -, h⟩ := bind_eq_ok.mp h
    cases h
    refine ⟨rfl, rfl, rfl, rfl, fun _ => id, fun hsound => ⟨hsame.explained hsound.explained,
      hsound.token, hsound.requested_le, hsound.campaign, ?_, hsound.ready, ?_⟩⟩
    · intro _
      exact hsound.named (by rw [hcursor]; rfl)
    · intro digest hdigest
      obtain ⟨hhex, hreason⟩ := hsound.digest digest hdigest
      obtain ⟨reason, hreason⟩ := Option.isSome_iff_exists.mp hreason
      refine ⟨hhex, ?_⟩
      show (runtime.failureReason <|> _).isSome = true
      rw [hreason]
      rfl

theorem pollExit_extends (runtime : LaneRuntime) (poll : LanePoll) (heartbeat : Nat) :
    Extends runtime { runtime.pollExit poll with lastHeartbeat := heartbeat } := by
  unfold LaneRuntime.pollExit
  split <;> exact Extends.of_eq rfl rfl rfl rfl rfl rfl rfl rfl

/-! ## Evidence -/

def liveEvidence (lane : CaptureLane) (runtime : LaneRuntime) : LaunchEvidence where
  lane := lane
  requestedS := runtime.requestedS
  campaignId := if runtime.ready then runtime.campaignId else none
  ready := runtime.ready

def doneEvidence (run : LaneRunResultV1) : LaunchEvidence where
  lane := run.lane
  requestedS := run.requestedS
  campaignId := if run.ready then run.campaignId else none
  ready := run.ready
  outcomeSuccess := some run.exitSuccess
  failureReason := run.failureReason

theorem Extends.liveEvidence_eq (h : Extends runtime runtime') (hsound : Sound runtime)
    (lane : CaptureLane) : liveEvidence lane runtime' = liveEvidence lane runtime := by
  unfold liveEvidence
  rw [h.requested_eq, h.ready_eq]
  cases hready : runtime.ready with
  | false => rfl
  | true =>
    -- a ready lane has a campaign, whose name stays
    obtain ⟨campaignId, hcampaign⟩ := Option.isSome_iff_exists.mp (hsound.ready hready)
    rw [hcampaign, h.campaign campaignId hcampaign]

/-- What a result says of its child. -/
structure Complete (run : LaneRunResultV1) : Prop where
  token : isBlank run.token = false
  directory : run.campaignDir = run.campaignId.map fun campaignId =>
    laneDirectory run.lane ++ "/" ++ campaignId
  campaign : ∀ campaignId, run.campaignId = some campaignId → Portable campaignId
  success : run.exitSuccess = true → run.ready = true ∧ run.exitCode = some 0 ∧
    run.failureReason = none ∧ run.failureRecordSha256 = none ∧ run.stderrLines = []
  failure : run.exitSuccess = false → NonBlank run.failureReason
  digest : ∀ digest, run.failureRecordSha256 = some digest → isLowerHex64 digest = true

/-- The number of lanes that run. -/
def running (runtimes : CaptureLane → Option LaneRuntime) : Nat :=
  (runtimes .primary).toList.length + (runtimes .shadow).toList.length

theorem running_update (runtimes : CaptureLane → Option LaneRuntime) (lane : CaptureLane)
    (runtime : Option LaneRuntime) :
    running (Function.update runtimes lane runtime) + (runtimes lane).toList.length
      = running runtimes + runtime.toList.length := by
  unfold running
  cases lane <;> simp <;> omega

/-- The journal accounts for the launches. When the run is `prompt`, every launch has started by the
    horizon and every result is of a lane that was ready. -/
structure Accounted (args : Arguments) (prompt : Prop) (s : CaptureState)
    (launches : List (String × LaunchEvidence)) : Prop where
  gaps : GapEvident s
  collected : collectLaneEvidence s.journal = .ok launches
  live : ∀ lane runtime, s.runtimes lane = some runtime →
    Sound runtime ∧ launches.lookup runtime.token = some (liveEvidence lane runtime)
  done : ∀ run ∈ s.runResults,
    Complete run ∧ launches.lookup run.token = some (doneEvidence run)
  distinct : (s.runResults.map LaneRunResultV1.token).Nodup
  count : launches.length = s.runResults.length + running s.runtimes
  used : ∀ token, (launches.lookup token).isSome = true →
    s.supervisor.usedRunTokens.contains token = true
  live_le : prompt → ∀ lane runtime, s.runtimes lane = some runtime →
    runtime.startedMonoNs ≤ args.deadline
  done_ready : prompt → ∀ run ∈ s.runResults,
    run.ready = true ∧ run.startedMonoNs ≤ args.deadline

end LobReplay.Redundancy
