/-
  The verifier of a committed hot-redundant capture, from hot_redundancy_artifact.rs:
  `collect_lane_evidence` and `validate_gaps`, which read the supervisor journal alone, and the loop
  of `verify_hot_redundant_capture` that compares the lane runs of the terminal with the evidence.

  The maps are lists of their entries. What the loop asks about a campaign directory
  (`verify_raw_campaign`, `verify_failed_campaign_journal`, the existence of files) is the parameter
  `CampaignReader`.
-/

import LobReplay.Foundation.Entries
import LobReplay.Redundancy.Capture

namespace LobReplay.Redundancy

open Foundation

/-! ## Reading a payload -/

/-- `text`: a string member that is not blank. -/
def payloadText (payload : Value) (key : String) : Result String :=
  okOr ((payload.strField key).filter fun text => ! isBlank text) s!"event lacks {key}"

/-- `serde_json::from_value::<CaptureLane>`. -/
def laneFromValue (value : Value) : Result CaptureLane :=
  if value = .string "PRIMARY" then .ok .primary
  else if value = .string "SHADOW" then .ok .shadow
  else err "invalid lane"

/-- A member of type `Option<u64>`: absent or `null` is `None`. -/
def optionNatMember (payload : Value) (key : String) : Option (Option Nat) :=
  match payload.get key with
  | none => some none
  | some .null => some none
  | some value => value.asU64.map fun n => some n.toNat

/-- `serde_json::from_value::<GapInterval>`. -/
def gapFromValue (value : Value) : Option GapInterval := do
  let gapId ← value.u64Field "gap_id"
  let openedMonoNs ← value.u64Field "opened_mono_ns"
  let closedMonoNs ← optionNatMember value "closed_mono_ns"
  let unavailableNs ← optionNatMember value "unavailable_ns"
  return ⟨gapId.toNat, openedMonoNs.toNat, closedMonoNs, unavailableNs⟩

/-! ## Evidence of the lanes -/

structure LaunchEvidence where
  lane : CaptureLane
  requestedS : Nat
  campaignId : Option String := none
  ready : Bool := false
  outcomeSuccess : Option Bool := none
  failureReason : Option String := none
  deriving DecidableEq

/-- `LANE_LAUNCHED` or `LANE_RESTARTED`. -/
def collectLaunch (launches : List (String × LaunchEvidence)) (payload : Value) :
    Result (List (String × LaunchEvidence)) := do
  let token ← payloadText payload "token"
  let laneValue ← okOr (payload.get "lane") "lane absent"
  let lane ← laneFromValue laneValue
  let requestedS ← okOr (payload.u64Field "requested_s") "lane launch lacks requested duration"
  if (launches.lookup token).isSome then err "lane token was launched more than once"
  else return launches ++ [(token, { lane, requestedS := requestedS.toNat })]

/-- `LANE_READY`. -/
def collectReady (launches : List (String × LaunchEvidence)) (payload : Value) :
    Result (List (String × LaunchEvidence)) := do
  let token ← payloadText payload "token"
  let launch ← okOr (launches.lookup token) "lane became ready before launch"
  if launch.ready then err "lane published duplicate readiness"
  else do
    let campaignId ← payloadText payload "campaign_id"
    return adjust launches token fun launch =>
      { launch with ready := true, campaignId := some campaignId }

/-- `LANE_FAILED` or `LANE_WINDOW_COMPLETED`. -/
def collectOutcome (launches : List (String × LaunchEvidence)) (payload : Value)
    (success : Bool) : Result (List (String × LaunchEvidence)) := do
  let token ← payloadText payload "token"
  let launch ← okOr (launches.lookup token) "lane outcome preceded launch"
  if launch.outcomeSuccess.isSome then err "lane published duplicate outcome"
  else if success then
    return adjust launches token fun launch => { launch with outcomeSuccess := some true }
  else do
    let reason ← payloadText payload "reason"
    return adjust launches token fun launch =>
      { launch with outcomeSuccess := some false, failureReason := some reason }

/-- One record of `collect_lane_evidence`. -/
def collectRecord (launches : List (String × LaunchEvidence)) (record : SupervisorRecord) :
    Result (List (String × LaunchEvidence)) :=
  let event := record.payload.strField "event"
  if event = some "LANE_LAUNCHED" ∨ event = some "LANE_RESTARTED" then
    collectLaunch launches record.payload
  else if event = some "LANE_READY" then collectReady launches record.payload
  else if event = some "LANE_FAILED" ∨ event = some "LANE_WINDOW_COMPLETED" then
    collectOutcome launches record.payload (event = some "LANE_WINDOW_COMPLETED")
  else .ok launches

def collectLaneEvidence (journal : List SupervisorRecord) :
    Result (List (String × LaunchEvidence)) :=
  journal.foldlM collectRecord []

/-! ## Evidence of the gaps -/

/-- `GAP_OPENED`. -/
def replayOpened (gaps : List GapInterval) (payload : Value) : Result (List GapInterval) := do
  let value ← okOr (payload.get "gap") "gap absent"
  let gap ← okOr (gapFromValue value) "invalid opened gap"
  if gap.gapId ≠ gaps.length ∨ gap.closedMonoNs.isSome ∨ gap.unavailableNs.isSome ∨
      gaps.any (fun other => decide (other.gapId = gap.gapId)) then
    err "opened gap identity/state is invalid"
  else return gaps ++ [gap]

/-- `GAP_CLOSED`. -/
def replayClosed (gaps : List GapInterval) (payload : Value) : Result (List GapInterval) := do
  let value ← okOr (payload.get "gap") "gap absent"
  let gap ← okOr (gapFromValue value) "invalid closed gap"
  let i ← okOr (gaps.findIdx? fun other => decide (other.gapId = gap.gapId))
    "gap closed before opening"
  let previous := gaps.getD i gap
  if previous.closedMonoNs.isSome ∨ gap.closedMonoNs.isNone ∨
      gap.unavailableNs ≠ gap.closedMonoNs.map (· - gap.openedMonoNs) ∨
      previous.openedMonoNs ≠ gap.openedMonoNs then
    err "closed gap duration/state is invalid"
  else return gaps.set i gap

/-- One record of `validate_gaps`. -/
def replayGap (gaps : List GapInterval) (record : SupervisorRecord) : Result (List GapInterval) :=
  let event := record.payload.strField "event"
  if event = some "GAP_OPENED" then replayOpened gaps record.payload
  else if event = some "GAP_CLOSED" then replayClosed gaps record.payload
  else .ok gaps

def validateGaps (journal : List SupervisorRecord) (terminal : SupervisorTerminalV1) :
    Result Unit := do
  let gaps ← journal.foldlM replayGap []
  if gaps ≠ terminal.gaps then err "terminal gaps differ from durable supervisor events"
  else return ()

/-! ## The lane runs -/

/-- What `verify_raw_campaign` says of a campaign. -/
structure VerifiedRawCampaign where
  symbol : String
  campaignId : String
  totalDurationS : Nat
  verificationSha256 : String
  deriving DecidableEq

/-- What the verifier asks about a campaign directory. -/
structure CampaignReader where
  /-- `safe_relative(&root, relative, "lane campaign")`. -/
  safeRelative : String → Result String
  verifyRawCampaign : String → Result VerifiedRawCampaign
  /-- Whether `campaign.json` exists. -/
  campaignJson : String → Bool
  verifyFailedCampaignJournal : (campaign reason digest : String) → Result Unit

/-- `validate_component(campaign_id, "campaign ID")`. -/
def validateComponent (value : String) : Result Unit :=
  if asBytes value = [] ∨ 80 < (asBytes value).length ∨ ¬ (asBytes value).all isPortableByte then
    err "campaign ID is not a safe component"
  else .ok ()

structure VerifiedLaneCampaignV1 where
  lane : CaptureLane
  token : String
  campaignId : String
  status : String
  campaignVerificationSha256 : Option String
  failureRecordSha256 : Option String
  deriving DecidableEq

/-- The variables of the loop over the lane runs. -/
structure RunComparison where
  observedTokens : List String := []
  completeByLane : CaptureLane → Nat := fun _ => 0
  verifiedCampaigns : List VerifiedLaneCampaignV1 := []

def compareSuccess (reader : CampaignReader) (symbol : String) (evidence : LaunchEvidence)
    (laneRun : LaneRunResultV1) (campaignId campaign : String) :
    Result VerifiedLaneCampaignV1 :=
  if laneRun.ready = false ∨ laneRun.exitCode ≠ some 0 ∨ laneRun.failureReason.isSome ∨
      laneRun.failureRecordSha256.isSome ∨ evidence.failureReason.isSome then
    err "successful lane run carries contradictory failure evidence"
  else do
    let verified ← reader.verifyRawCampaign campaign
    if verified.symbol ≠ symbol ∨ verified.campaignId ≠ campaignId ∨
        verified.totalDurationS ≠ laneRun.requestedS then
      err "verified child campaign differs from supervisor lane result"
    else return ⟨laneRun.lane, laneRun.token, campaignId, "VERIFIED_COMPLETE",
      some verified.verificationSha256, none⟩

/-- A lane run that the terminal calls failed. -/
def compareFailure (reader : CampaignReader) (evidence : LaunchEvidence)
    (laneRun : LaneRunResultV1) (campaignId campaign : String) :
    Result VerifiedLaneCampaignV1 := do
  let reason ← okOr (laneRun.failureReason.filter fun value => ! isBlank value)
    "failed lane run lacks exact failure reason"
  let digest ← okOr (laneRun.failureRecordSha256.filter isLowerHex64)
    "failed lane run lacks durable failure digest"
  if evidence.failureReason ≠ some reason ∨ reader.campaignJson campaign then
    err "failed lane run contradicts its preserved campaign evidence"
  else do
    reader.verifyFailedCampaignJournal campaign reason digest
    return ⟨laneRun.lane, laneRun.token, campaignId, "VERIFIED_FAILED_PRESERVED", none,
      some digest⟩

def compareOutcome (reader : CampaignReader) (symbol : String) (evidence : LaunchEvidence)
    (laneRun : LaneRunResultV1) (campaignId campaign : String) :
    Result VerifiedLaneCampaignV1 :=
  if laneRun.exitSuccess then compareSuccess reader symbol evidence laneRun campaignId campaign
  else compareFailure reader evidence laneRun campaignId campaign

def differs (totalS : Nat) (evidence : LaunchEvidence) (laneRun : LaneRunResultV1) : Bool :=
  evidence.lane ≠ laneRun.lane || evidence.requestedS ≠ laneRun.requestedS ||
    evidence.ready ≠ laneRun.ready || evidence.outcomeSuccess ≠ some laneRun.exitSuccess ||
    evidence.campaignId ≠ laneRun.campaignId ||
    decide (min (totalS * 1000000000) u64Max < laneRun.startedMonoNs) ||
    (! laneRun.stderrLines.isEmpty && laneRun.exitSuccess)

def compareRun (reader : CampaignReader) (totalS : Nat) (symbol : String)
    (launches : List (String × LaunchEvidence)) (comparison : RunComparison)
    (laneRun : LaneRunResultV1) : Result RunComparison :=
  if isBlank laneRun.token ∨ laneRun.token ∈ comparison.observedTokens then
    err "terminal lane run token is empty or reused"
  else do
    let evidence ← okOr (launches.lookup laneRun.token) "terminal lane run was never launched"
    if differs totalS evidence laneRun then
      err "terminal lane run differs from its durable lifecycle"
    else do
      let campaignId ← okOr laneRun.campaignId "terminal lane run lacks campaign identity"
      validateComponent campaignId
      let relative ← okOr laneRun.campaignDir "terminal lane run lacks campaign directory"
      if relative ≠ laneDirectory laneRun.lane ++ "/" ++ campaignId then
        err "terminal lane campaign path is not exact and portable"
      else do
        let campaign ← reader.safeRelative relative
        let verified ← compareOutcome reader symbol evidence laneRun campaignId campaign
        return {
          observedTokens := comparison.observedTokens ++ [laneRun.token]
          completeByLane :=
            if laneRun.exitSuccess then
              Function.update comparison.completeByLane laneRun.lane
                (comparison.completeByLane laneRun.lane + 1)
            else comparison.completeByLane
          verifiedCampaigns := comparison.verifiedCampaigns ++ [verified] }

/-- The lane runs of `verify_hot_redundant_capture`. -/
def verifyLaneRuns (reader : CampaignReader) (totalS : Nat) (symbol : String)
    (journal : List SupervisorRecord) (terminal : SupervisorTerminalV1) :
    Result (List VerifiedLaneCampaignV1) := do
  validateGaps journal terminal
  let launches ← collectLaneEvidence journal
  let comparison ← terminal.laneRuns.foldlM (compareRun reader totalS symbol launches) {}
  if comparison.observedTokens.length ≠ launches.length ∨
      (CaptureLane.all.any fun lane => decide (comparison.completeByLane lane = 0)) then
    err "terminal omits a launched run or one lane never completed a verified window"
  else return comparison.verifiedCampaigns

end LobReplay.Redundancy
