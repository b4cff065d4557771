/-
  When a committed hot-redundant capture is verifiable. The gaps and the evidence of the lanes are
  always accepted. The comparison of the lane runs is accepted exactly if each of them was ready and
  started by the horizon: a lane that fails before `LANE_READY` has its campaign in the terminal and
  not in the evidence, and the capture is rejected for it.
-/

import LobReplay.Redundancy.Reconstruction

namespace LobReplay.Redundancy

open Foundation

/-! ## The children -/

/-- A child behaves as `raw_campaign` does. Its campaign has a name of at most 80 bytes; when the run
    was not clean, the child has published the reason of its failure and the digest of its record;
    when it was, its campaign verifies for the requested duration. -/
structure ChildBehaves (reader : CampaignReader) (symbol : String) (run : LaneRunResultV1) :
    Prop where
  named : ∃ campaignId campaign, run.campaignId = some campaignId ∧
    (asBytes campaignId).length ≤ 80 ∧
    reader.safeRelative (laneDirectory run.lane ++ "/" ++ campaignId) = .ok campaign ∧
    (run.exitSuccess = false → ∃ reason digest, run.failureReason = some reason ∧
      run.failureRecordSha256 = some digest ∧ reader.campaignJson campaign = false ∧
      reader.verifyFailedCampaignJournal campaign reason digest = .ok ()) ∧
    (run.exitSuccess = true → ∃ verified, reader.verifyRawCampaign campaign = .ok verified ∧
      verified.symbol = symbol ∧ verified.campaignId = campaignId ∧
      verified.totalDurationS = run.requestedS)

section

variable {reader : CampaignReader} {totalS : Nat} {symbol : String}
  {comparison comparison' : RunComparison} {runs : List LaneRunResultV1}
variable {launches : List (String × LaunchEvidence)} {run : LaneRunResultV1}

theorem differs_eq_false (hcomplete : Complete run) (hnamed : run.campaignId.isSome = true) :
    differs totalS (doneEvidence run) run = false ↔
      run.ready = true ∧ run.startedMonoNs ≤ min (totalS * 1000000000) u64Max := by
  have hstderr : (! run.stderrLines.isEmpty && run.exitSuccess) = false := by
    cases hexit : run.exitSuccess with
    | false => simp
    | true => simp [(hcomplete.success hexit).2.2.2.2]
  obtain ⟨campaignId, hcampaign⟩ := Option.isSome_iff_exists.mp hnamed
  unfold differs
  rw [hstderr]
  cases hready : run.ready <;> simp [doneEvidence, hready, hcampaign]

theorem validateComponent_ok {campaignId : String} (h : Portable campaignId)
    (hle : (asBytes campaignId).length ≤ 80) : validateComponent campaignId = .ok () := by
  unfold validateComponent
  rw [if_neg]
  rw [not_or, not_or, not_not]
  exact ⟨h.not_empty, by omega, h.portable⟩

/-- **One lane run** that was ready and started in time is accepted. -/
theorem compareRun_ok (hcomplete : Complete run) (hchild : ChildBehaves reader symbol run)
    (hlookup : launches.lookup run.token = some (doneEvidence run))
    (hfresh : run.token ∉ comparison.observedTokens) (hready : run.ready = true)
    (hstarted : run.startedMonoNs ≤ min (totalS * 1000000000) u64Max) :
    ∃ verified, compareRun reader totalS symbol launches comparison run = .ok {
      observedTokens := comparison.observedTokens ++ [run.token]
      completeByLane :=
        if run.exitSuccess then
          Function.update comparison.completeByLane run.lane
            (comparison.completeByLane run.lane + 1)
        else comparison.completeByLane
      verifiedCampaigns := comparison.verifiedCampaigns ++ [verified] } := by
  obtain ⟨campaignId, campaign, hcampaign, hlength, hsafe, hfailure, hsuccess⟩ := hchild.named
  have hdirectory : run.campaignDir = some (laneDirectory run.lane ++ "/" ++ campaignId) := by
    rw [hcomplete.directory, hcampaign]
    rfl
  have hsame : differs totalS (doneEvidence run) run = false :=
    (differs_eq_false hcomplete (by rw [hcampaign]; rfl)).mpr ⟨hready, hstarted⟩
  have hvalid := validateComponent_ok (hcomplete.campaign campaignId hcampaign) hlength
  -- what is said of the campaign
  obtain ⟨verified, hverified⟩ : ∃ verified,
      compareOutcome reader symbol (doneEvidence run) run campaignId campaign = .ok verified := by
    unfold compareOutcome
    cases hexit : run.exitSuccess with
    | true =>
      obtain ⟨verified, hverify, hsymbol, hid, htotal⟩ := hsuccess hexit
      obtain ⟨-, hcode, hreason, hdigest, -⟩ := hcomplete.success hexit
      rw [if_pos rfl]
      unfold compareSuccess
      rw [if_neg (by simp [hready, hcode, hreason, hdigest, doneEvidence]), hverify]
      have hsame : ¬ (verified.symbol ≠ symbol ∨ verified.campaignId ≠ campaignId ∨
          verified.totalDurationS ≠ run.requestedS) := by
        simp [hsymbol, hid, htotal]
      exact ⟨_, if_neg hsame⟩
    | false =>
      obtain ⟨reason, digest, hreason, hdigest, hjson, hverify⟩ := hfailure hexit
      have hblank := hcomplete.failure hexit reason hreason
      have hhex := hcomplete.digest digest hdigest
      rw [if_neg (by decide)]
      unfold compareFailure
      have hkept : ¬ ((doneEvidence run).failureReason ≠ some reason ∨
          reader.campaignJson campaign = true) := by
        simp [doneEvidence, hreason, hjson]
      rw [hreason, hdigest, Option.filter_some, Option.filter_some, hblank, hhex]
      simp only [Bool.not_false, if_true, okOr, bind, Except.bind, if_neg hkept, hverify]
      exact ⟨_, rfl⟩
  refine ⟨verified, ?_⟩
  unfold compareRun
  rw [if_neg (by simp [hcomplete.token, hfresh]), hlookup]
  show (if differs totalS (doneEvidence run) run = true then _ else _) = _
  rw [if_neg (by simp [hsame]), hcampaign]
  show (validateComponent campaignId >>= _) = _
  rw [hvalid, hdirectory]
  show (if laneDirectory run.lane ++ "/" ++ campaignId ≠ laneDirectory run.lane ++ "/" ++ campaignId
    then _ else _) = _
  rw [if_neg (by simp), hsafe]
  show (compareOutcome reader symbol (doneEvidence run) run campaignId campaign >>= _) = _
  rw [hverified]
  rfl

theorem ready_of_compareRun (hcomplete : Complete run) (hnamed : run.campaignId.isSome = true)
    (hlookup : launches.lookup run.token = some (doneEvidence run))
    (h : compareRun reader totalS symbol launches comparison run = .ok comparison') :
    run.ready = true ∧ run.startedMonoNs ≤ min (totalS * 1000000000) u64Max := by
  unfold compareRun at h
  rw [ite_err_eq_ok, hlookup] at h
  obtain ⟨-, h⟩ := h
  obtain ⟨evidence, hevidence, h⟩ := bind_eq_ok.mp h
  cases hevidence
  rw [ite_err_eq_ok] at h
  rw [← differs_eq_false hcomplete hnamed]
  simpa using h.1

structure Evidenced (reader : CampaignReader) (symbol : String)
    (launches : List (String × LaunchEvidence)) (run : LaneRunResultV1) : Prop where
  complete : Complete run
  lookup : launches.lookup run.token = some (doneEvidence run)
  behaves : ChildBehaves reader symbol run

/-- **The lane runs** are accepted one after the other. -/
theorem compareRuns_ok (hknown : ∀ run ∈ runs, Evidenced reader symbol launches run)
    (hprompt : ∀ run ∈ runs, run.ready = true ∧
      run.startedMonoNs ≤ min (totalS * 1000000000) u64Max)
    (hnodup : (comparison.observedTokens ++ runs.map LaneRunResultV1.token).Nodup) :
    ∃ comparison', runs.foldlM (compareRun reader totalS symbol launches) comparison
        = .ok comparison' ∧
      comparison'.observedTokens.length = comparison.observedTokens.length + runs.length ∧
      ∀ lane, (comparison.completeByLane lane ≠ 0 ∨
          ∃ run ∈ runs, run.lane = lane ∧ run.exitSuccess = true) →
        comparison'.completeByLane lane ≠ 0 := by
  induction runs generalizing comparison with
  | nil => exact ⟨comparison, rfl, rfl, fun lane hlane => hlane.resolve_right (by simp)⟩
  | cons run runs ih =>
    obtain ⟨hcomplete, hlookup, hbehaves⟩ := hknown run List.mem_cons_self
    obtain ⟨hready, hstarted⟩ := hprompt run List.mem_cons_self
    have hfresh : run.token ∉ comparison.observedTokens := by
      intro hmem
      rw [List.nodup_append] at hnodup
      exact hnodup.2.2 _ hmem _ List.mem_cons_self rfl
    obtain ⟨verified, hcompare⟩ :=
      compareRun_ok hcomplete hbehaves hlookup hfresh hready hstarted
    have hnodup' : ((comparison.observedTokens ++ [run.token]) ++
        runs.map LaneRunResultV1.token).Nodup := by
      simpa using hnodup
    rw [List.foldlM_cons, hcompare]
    obtain ⟨comparison', hfold, hlength, hlanes⟩ := @ih {
        observedTokens := comparison.observedTokens ++ [run.token]
        completeByLane :=
          if run.exitSuccess then
            Function.update comparison.completeByLane run.lane
              (comparison.completeByLane run.lane + 1)
          else comparison.completeByLane
        verifiedCampaigns := comparison.verifiedCampaigns ++ [verified] }
      (fun other hother => hknown other (List.mem_cons_of_mem _ hother))
      (fun other hother => hprompt other (List.mem_cons_of_mem _ hother)) hnodup'
    refine ⟨comparison', hfold, ?_, fun lane hlane => hlanes lane ?_⟩
    · rw [hlength, List.length_append, List.length_singleton, List.length_cons]
      omega
    -- a count never falls, and the one of a clean run's lane has risen
    · dsimp only
      rcases hlane with hbefore | ⟨other, hother, hlane, hexit⟩
      · left
        split
        · by_cases hsame : lane = run.lane
          · subst hsame
            rw [Function.update_self]
            exact Nat.succ_ne_zero _
          · rw [Function.update_of_ne hsame]
            exact hbefore
        · exact hbefore
      · rcases List.mem_cons.mp hother with rfl | hother
        · left
          rw [if_pos hexit, ← hlane, Function.update_self]
          exact Nat.succ_ne_zero _
        · exact Or.inr ⟨other, hother, hlane, hexit⟩

theorem ready_of_compareRuns (hknown : ∀ run ∈ runs, Evidenced reader symbol launches run)
    (h : runs.foldlM (compareRun reader totalS symbol launches) comparison = .ok comparison') :
    ∀ run ∈ runs, run.ready = true ∧ run.startedMonoNs ≤ min (totalS * 1000000000) u64Max := by
  induction runs generalizing comparison with
  | nil => simp
  | cons run runs ih =>
    rw [List.foldlM_cons] at h
    obtain ⟨comparison₁, hrun, h⟩ := bind_eq_ok.mp h
    obtain ⟨hcomplete, hlookup, hbehaves⟩ := hknown run List.mem_cons_self
    have hnamed : run.campaignId.isSome = true := by
      obtain ⟨campaignId, campaign, hcampaign, -⟩ := hbehaves.named
      rw [hcampaign]
      rfl
    intro other hother
    rcases List.mem_cons.mp hother with rfl | hother
    · exact ready_of_compareRun hcomplete hnamed hlookup hrun
    · exact ih (fun other hother => hknown other (List.mem_cons_of_mem _ hother)) h other hother

end

/-! ## Committed captures -/

/-- **Main theorem.** The gaps and the evidence of the lanes of a committed capture are accepted;
    its lane runs are accepted exactly if each was ready and started by the horizon. -/
theorem committed_capture_is_verifiable_iff (codec : CaptureCodec) (args : Arguments)
    (runDir : String) (launches : CaptureLane → LaunchInput) (polls : List Poll)
    (reader : CampaignReader) (symbol : String) (s : CaptureState)
    (terminal : SupervisorTerminalV1)
    (hcommit : capture codec args runDir launches polls = .ok (.committed s terminal))
    (hchildren : ∀ run ∈ terminal.laneRuns, ChildBehaves reader symbol run)
    (hclean : ∀ lane, ∃ run ∈ terminal.laneRuns, run.lane = lane ∧ run.exitSuccess = true) :
    (validateGaps s.journal terminal = .ok () ∧
      ∃ evidence, collectLaneEvidence s.journal = .ok evidence) ∧
    ((∃ verified, verifyLaneRuns reader args.totalS symbol s.journal terminal = .ok verified) ↔
      ∀ run ∈ terminal.laneRuns, run.ready = true ∧ run.startedMonoNs ≤ args.deadline) ∧
    (RunsUnhurried codec args runDir launches polls →
      ∃ verified, verifyLaneRuns reader args.totalS symbol s.journal terminal = .ok verified) := by
  obtain ⟨evidence, haccount, hnone, hgaps, hruns⟩ : AccountedProgress args
      (RunsUnhurried codec args runDir launches polls) (.committed s terminal) :=
    capture_accounted id hcommit
  have hvalid : validateGaps s.journal terminal = .ok () := by
    unfold validateGaps
    rw [haccount.gaps.replayed]
    show (if s.gaps ≠ terminal.gaps then _ else _) = _
    rw [if_neg (by rw [hgaps]; simp)]
    rfl
  have hknown : ∀ run ∈ terminal.laneRuns, Evidenced reader symbol evidence run := by
    intro run hrun
    obtain ⟨hcomplete, hlookup⟩ := haccount.done run (hruns ▸ hrun)
    exact ⟨hcomplete, hlookup, hchildren run hrun⟩
  have hverify : verifyLaneRuns reader args.totalS symbol s.journal terminal
      = terminal.laneRuns.foldlM (compareRun reader args.totalS symbol evidence) {} >>=
        fun comparison => if comparison.observedTokens.length ≠ evidence.length ∨
            (CaptureLane.all.any fun lane => decide (comparison.completeByLane lane = 0)) then
          err "terminal omits a launched run or one lane never completed a verified window"
        else .ok comparison.verifiedCampaigns := by
    unfold verifyLaneRuns
    rw [hvalid, haccount.collected]
    rfl
  have hhorizon : min (args.totalS * 1000000000) u64Max = args.deadline := args.horizonNs_eq
  have hiff : (∃ verified, verifyLaneRuns reader args.totalS symbol s.journal terminal
      = .ok verified) ↔
      ∀ run ∈ terminal.laneRuns, run.ready = true ∧ run.startedMonoNs ≤ args.deadline := by
    rw [hverify, ← hhorizon]
    constructor
    · rintro ⟨verified, h⟩
      obtain ⟨comparison, hfold, -⟩ := bind_eq_ok.mp h
      exact ready_of_compareRuns hknown hfold
    · intro hprompt
      have hnodup : (({} : RunComparison).observedTokens ++
          terminal.laneRuns.map LaneRunResultV1.token).Nodup := by
        rw [hruns]
        simpa using haccount.distinct
      obtain ⟨comparison, hfold, hlength, hlanes⟩ := compareRuns_ok hknown hprompt hnodup
      rw [hfold]
      refine ⟨comparison.verifiedCampaigns, if_neg ?_⟩
      rw [not_or, not_not]
      constructor
      · rw [hlength, haccount.count, hnone, hruns]
        exact Nat.zero_add _
      · rw [List.any_eq_true]
        rintro ⟨lane, -, hzero⟩
        exact hlanes lane (Or.inr (hclean lane)) (of_decide_eq_true hzero)
  refine ⟨⟨hvalid, evidence, haccount.collected⟩, hiff, fun hunhurried => hiff.mpr ?_⟩
  rw [hruns]
  exact haccount.done_ready hunhurried

/-! ## Short runs -/

def tenSeconds : Arguments := ⟨10, 1, 20, 30, by decide, by decide⟩

def campaignHeartbeat (campaignId : String) (failure : Option (String × String)) :
    RawCampaignHeartbeatV1 :=
  ⟨"CAMPAIGN_HEARTBEAT", campaignId, 5, 1, 1, 0, failure.isSome, failure.map Prod.fst,
    failure.map Prod.snd⟩

/-- A codec that knows the heartbeats of three campaigns and of the failure of the first. -/
def lineCodec : CaptureCodec where
  bodyDigest _ := "digest"
  heartbeat line :=
    if line = "first" then .ok (campaignHeartbeat "c-1" none)
    else if line = "second" then .ok (campaignHeartbeat "c-2" none)
    else if line = "third" then .ok (campaignHeartbeat "c-3" none)
    else if line = "stall" then .ok (campaignHeartbeat "c-1" (some ("stall", zeroDigest)))
    else .error "expected value"
  canonicalize path := .ok path
  sha256 _ := digestOfNat 0

def secondAt (second : Nat) (outputs : List ChildOutput)
    (records : CaptureLane → List Campaign.CampaignJournalEnvelopeV1)
    (exit : CaptureLane → Option ExitStatus) (campaignJson : Bool) : Poll :=
  let read := second * 1000000000
  { outputs := outputs.map fun output => (read, output)
    nowRead := read
    horizonRead := read
    lanes := fun lane => ⟨records lane, exit lane, read, read, read, read⟩
    completions := fun _ => ⟨read, [], [], campaignJson⟩
    restartRead := read
    launches := fun _ => launchAt read
    breakRead := read
    graceRead := read
    finishRead := read }

/-- Both lanes are ready after a second and leave clean campaigns. -/
def cleanRun : List Poll :=
  [secondAt 1 [.stdout .primary "primary-1-0123456789ab" "second",
      .stdout .shadow "shadow-1-0123456789ab" "third"] (fun _ => readyRecords) (fun _ => none) false,
    secondAt 10 [.stdout .primary "primary-1-0123456789ab" "run/p/c-2",
      .stdout .shadow "shadow-1-0123456789ab" "run/s/c-3"] (fun _ => []) (fun _ => some ⟨some 0⟩) true,
    secondAt 11 [] (fun _ => []) (fun _ => none) true]

/-- The first child of the primary lane fails before it is ready; its successor and the shadow lane
    leave clean campaigns. -/
def earlyFailure : List Poll :=
  [secondAt 1 [.stdout .primary "primary-1-0123456789ab" "stall",
      .stdout .shadow "shadow-1-0123456789ab" "third"]
      (fun lane => if lane = .shadow then readyRecords else [])
      (fun lane => if lane = .primary then some ⟨some 1⟩ else none) false,
    secondAt 2 [] (fun _ => []) (fun _ => none) false,
    secondAt 3 [] (fun _ => []) (fun _ => none) false,
    secondAt 4 [.stdout .primary "primary-2-0123456789ab" "second"]
      (fun lane => if lane = .primary then readyRecords else []) (fun _ => none) false,
    secondAt 10 [.stdout .primary "primary-2-0123456789ab" "run/p/c-2",
      .stdout .shadow "shadow-1-0123456789ab" "run/s/c-3"] (fun _ => []) (fun _ => some ⟨some 0⟩) true,
    secondAt 11 [] (fun _ => []) (fun _ => none) true]

/-- A reader that finds the first campaign failed and the two others complete, the second with the
    given duration. -/
def campaigns (durationS : Nat) : CampaignReader where
  safeRelative path := .ok path
  verifyRawCampaign path :=
    if path = "p/c-2" then .ok ⟨"BTCUSDT", "c-2", durationS, zeroDigest⟩
    else if path = "s/c-3" then .ok ⟨"BTCUSDT", "c-3", 10, zeroDigest⟩
    else err "campaign is incomplete"
  campaignJson path := path ≠ "p/c-1"
  verifyFailedCampaignJournal campaign reason digest :=
    if campaign = "p/c-1" ∧ reason = "stall" ∧ digest = zeroDigest then .ok ()
    else err "campaign did not fail"

def cleanLaneRun (lane : CaptureLane) (token : String) (requestedS startedMonoNs : Nat)
    (campaignId : String) : LaneRunResultV1 where
  lane := lane
  token := token
  requestedS := requestedS
  startedMonoNs := startedMonoNs
  ready := true
  campaignId := some campaignId
  campaignDir := some (laneDirectory lane ++ "/" ++ campaignId)
  exitSuccess := true
  exitCode := some 0
  failureReason := none
  failureRecordSha256 := none
  stderrLines := []

def failedLaneRun : LaneRunResultV1 where
  lane := .primary
  token := "primary-1-0123456789ab"
  requestedS := 10
  startedMonoNs := 0
  ready := false
  campaignId := some "c-1"
  campaignDir := some "p/c-1"
  exitSuccess := false
  exitCode := some 1
  failureReason := some "stall"
  failureRecordSha256 := some zeroDigest
  stderrLines := []

def laneRunsOf : Except Abort Progress → Option (List LaneRunResultV1)
  | .ok (.committed _ terminal) => some terminal.laneRuns
  | _ => none

theorem laneRunsOf_eq_some {result : Except Abort Progress} {runs : List LaneRunResultV1}
    (h : laneRunsOf result = some runs) :
    ∃ s terminal, result = .ok (.committed s terminal) ∧ terminal.laneRuns = runs := by
  unfold laneRunsOf at h
  split at h
  · exact ⟨_, _, rfl, Option.some.inj h⟩
  · cases h

variable {durationS startedMonoNs : Nat} {token : String}

theorem behaves_second :
    ChildBehaves (campaigns durationS) "BTCUSDT"
      (cleanLaneRun .primary token durationS startedMonoNs "c-2") := by
  refine ⟨⟨"c-2", "p/c-2", rfl, by decide, rfl, ?_, fun _ => ⟨_, rfl, rfl, rfl, rfl⟩⟩⟩
  intro hexit
  cases hexit

theorem behaves_third :
    ChildBehaves (campaigns durationS) "BTCUSDT"
      (cleanLaneRun .shadow token 10 startedMonoNs "c-3") := by
  refine ⟨⟨"c-3", "s/c-3", rfl, by decide, rfl, ?_, fun _ => ⟨_, rfl, rfl, rfl, rfl⟩⟩⟩
  intro hexit
  cases hexit

/-- Whether an iteration after the given ones is without haste. -/
def unhurriedAfter (before : List Poll) (poll : Poll) : Bool :=
  match capture lineCodec tenSeconds "run" (fun _ => launchAt 0) before with
  | .ok (.running s) =>
    (match watched lineCodec tenSeconds "run" s poll with
      | .ok s' => (completed s' poll).all fun lane => (s'.runtimes lane).all (·.ready)
      | .error _ => true) &&
    (tenSeconds.deadline ≤ poll.restartRead ||
      CaptureLane.all.all fun lane => (poll.launches lane).startedRead ≤ tenSeconds.deadline)
  | _ => true

theorem unhurried_of_check {before : List Poll} {poll : Poll}
    (h : unhurriedAfter before poll = true) (s : CaptureState)
    (hs : capture lineCodec tenSeconds "run" (fun _ => launchAt 0) before = .ok (.running s)) :
    Unhurried lineCodec tenSeconds "run" s poll := by
  unfold unhurriedAfter at h
  rw [hs] at h
  simp only [Bool.and_eq_true, Bool.or_eq_true, decide_eq_true_eq] at h
  obtain ⟨hready, hlaunched⟩ := h
  refine ⟨fun s' hwatched lane hlane runtime hruntime => ?_, fun hearly lane => ?_⟩
  · rw [hwatched] at hready
    have hall := List.all_eq_true.mp hready lane hlane
    rw [hruntime] at hall
    exact hall
  · rcases hlaunched with hlate | hall
    · omega
    · exact of_decide_eq_true (List.all_eq_true.mp hall lane (by cases lane <;> decide))

theorem cleanRun_unhurried :
    RunsUnhurried lineCodec tenSeconds "run" (fun _ => launchAt 0) cleanRun := by
  refine ⟨fun lane => by decide, fun before poll hprefix s hs => unhurried_of_check ?_ s hs⟩
  have hchecks : ∀ i < 3, ∀ poll, cleanRun[i]? = some poll →
      unhurriedAfter (cleanRun.take i) poll = true := by
    intro i hi poll hpoll
    have hall : (List.range 3).all (fun i => (cleanRun[i]?).all fun poll =>
        unhurriedAfter (cleanRun.take i) poll) = true := by
      decide +kernel
    have hat := List.all_eq_true.mp hall i (List.mem_range.mpr hi)
    rw [hpoll] at hat
    exact hat
  obtain ⟨rest, hrest⟩ := hprefix
  have hlength := congrArg List.length hrest
  simp only [List.length_append, List.length_singleton] at hlength
  have htake : cleanRun.take before.length = before := by
    rw [← hrest, List.append_assoc, List.take_left]
  have hpoll : cleanRun[before.length]? = some poll := by
    rw [← hrest, List.append_assoc, List.getElem?_append_right (Nat.le_refl _)]
    simp
  have hcheck := hchecks before.length (by
    rw [show cleanRun.length = 3 from rfl] at hlength
    omega) poll hpoll
  rw [htake] at hcheck
  exact hcheck

/-- The main theorem at a run whose lanes are ready and clean. -/
theorem cleanRun_is_verifiable : ∃ s terminal,
    capture lineCodec tenSeconds "run" (fun _ => launchAt 0) cleanRun
      = .ok (.committed s terminal) ∧
    ∃ verified, verifyLaneRuns (campaigns 10) 10 "BTCUSDT" s.journal terminal = .ok verified := by
  have hruns : laneRunsOf (capture lineCodec tenSeconds "run" (fun _ => launchAt 0) cleanRun)
      = some [cleanLaneRun .primary "primary-1-0123456789ab" 10 0 "c-2",
        cleanLaneRun .shadow "shadow-1-0123456789ab" 10 0 "c-3"] := by
    decide +kernel
  obtain ⟨s, terminal, hcommit, hlanes⟩ := laneRunsOf_eq_some hruns
  refine ⟨s, terminal, hcommit, ?_⟩
  refine (committed_capture_is_verifiable_iff lineCodec tenSeconds "run" (fun _ => launchAt 0)
    cleanRun (campaigns 10) "BTCUSDT" s terminal hcommit ?_ ?_).2.2 cleanRun_unhurried
  · rw [hlanes]
    intro run hrun
    rcases List.mem_cons.mp hrun with rfl | hrun
    · exact behaves_second
    · rw [List.mem_singleton.mp hrun]
      exact behaves_third
  · rw [hlanes]
    rintro (_ | _)
    · exact ⟨_, List.mem_cons_self, rfl, rfl⟩
    · exact ⟨_, List.mem_cons_of_mem _ List.mem_cons_self, rfl, rfl⟩

/-- A capture that commits is rejected because one child failed before its lane was ready. -/
theorem earlyFailure_is_rejected : ∃ s terminal,
    (captureReads (fun _ => launchAt 0) earlyFailure).Pairwise (· ≤ ·) ∧
    capture lineCodec tenSeconds "run" (fun _ => launchAt 0) earlyFailure
      = .ok (.committed s terminal) ∧
    (∀ run ∈ terminal.laneRuns, ChildBehaves (campaigns 7) "BTCUSDT" run) ∧
    (∀ lane, ∃ run ∈ terminal.laneRuns, run.lane = lane ∧ run.exitSuccess = true) ∧
    ¬ ∃ verified, verifyLaneRuns (campaigns 7) 10 "BTCUSDT" s.journal terminal = .ok verified := by
  have hruns : laneRunsOf (capture lineCodec tenSeconds "run" (fun _ => launchAt 0) earlyFailure)
      = some [failedLaneRun, cleanLaneRun .primary "primary-2-0123456789ab" 7 3000000000 "c-2",
        cleanLaneRun .shadow "shadow-1-0123456789ab" 10 0 "c-3"] := by
    decide +kernel
  have hverify : (match capture lineCodec tenSeconds "run" (fun _ => launchAt 0) earlyFailure with
      | .ok (.committed s terminal) =>
        (verifyLaneRuns (campaigns 7) 10 "BTCUSDT" s.journal terminal).isOk
      | _ => true) = false := by
    decide +kernel
  obtain ⟨s, terminal, hcommit, hlanes⟩ := laneRunsOf_eq_some hruns
  rw [hcommit] at hverify
  refine ⟨s, terminal, by decide +kernel, hcommit, ?_, ?_, ?_⟩
  · rw [hlanes]
    intro run hrun
    rcases List.mem_cons.mp hrun with rfl | hrun
    · refine ⟨⟨"c-1", "p/c-1", rfl, by decide, rfl, fun _ => ?_, fun hexit => by cases hexit⟩⟩
      exact ⟨"stall", zeroDigest, rfl, rfl, by decide, rfl⟩
    · rcases List.mem_cons.mp hrun with rfl | hrun
      · exact behaves_second
      · rw [List.mem_singleton.mp hrun]
        exact behaves_third
  · rw [hlanes]
    rintro (_ | _)
    · exact ⟨_, List.mem_cons_of_mem _ List.mem_cons_self, rfl, rfl⟩
    · exact ⟨_, List.mem_cons_of_mem _ (List.mem_cons_of_mem _ List.mem_cons_self), rfl, rfl⟩
  · rintro ⟨verified, hok⟩
    dsimp only at hverify
    rw [hok] at hverify
    cases hverify

end LobReplay.Redundancy
