/-
  `validate_campaign_lifecycle` of campaign_artifact.rs: the audit of a campaign journal against the
  generations and handovers the manifest declares. One definition for each arm of the loop over the
  records, in the order of the source, and the checks after the loop.

  Generation indexes, times and counts are naturals, with the checks against 2^64 where the source
  has them; `usize` is 64 bits wide. `states` has one entry for each index below the number of
  generations, so the map is the list of its values. The other maps and sets are lists of their
  entries.
-/

import LobReplay.Campaign.Journal
import LobReplay.Campaign.Rotation

namespace LobReplay.Campaign

open Foundation

/-! ## Expectations -/

structure VerifiedServerShutdownV1 where
  stream : String
  connectionEpoch : String
  segmentIndex : Nat
  rawFile : String
  frameIndex : Nat
  receiveMonoNs : Nat
  durableRecordCount : Nat
  durableThroughOffset : Nat
  lastRecordSha256 : String
  deriving DecidableEq

/-- `GenerationLifecycleExpectation`. The maps are lists of their entries. -/
structure GenerationLifecycleExpectation where
  generationIndex : Nat
  sessionId : String
  symbol : String
  durationRequestedS : Nat
  startupSha256 : String
  streamEpochs : List (String × String)
  serverShutdownEvents : List (String × Nat)
  serverShutdowns : List VerifiedServerShutdownV1

structure HandoverLifecycleExpectation where
  predecessorGenerationIndex : Nat
  successorGenerationIndex : Nat
  proofSha256 : String

def specRevision : String := "976cc580553890e92031b77306147c0ed1de5a46"

def campaignStartupGraceNs : Nat := 30000000000

/-! ## Channels and events -/

/-- The values of `channel`. -/
inductive Channel where
  | campaign
  | childStdout
  | childStderr
  | supervisor
  deriving DecidableEq

def Channel.ofName (name : String) : Option Channel :=
  if name = "CAMPAIGN" then some .campaign
  else if name = "CHILD_STDOUT" then some .childStdout
  else if name = "CHILD_STDERR" then some .childStderr
  else if name = "SUPERVISOR" then some .supervisor
  else none

inductive Event where
  | processStarted
  | transportConnected
  | snapshotDurable
  | segmentDurable
  | serverShutdownDurable
  | heartbeatDurable
  | processTerminal
  | campaignStarted
  | generationLaunched
  | generationLaunchedServerShutdown
  | generationExited
  | handoverProofStarted
  | campaignEvaluationPrepared
  | campaignCommitted
  | campaignFailed
  | initialActiveRegistered
  | candidateRegistered
  | handoverProvenAndPromoted
  | serverShutdownIgnoredNonActive
  | serverShutdownCandidateAlreadyPending
  | generationDisconnectFailClosed
  deriving DecidableEq

namespace Event

def name : Event → String
  | processStarted => "PROCESS_STARTED"
  | transportConnected => "TRANSPORT_CONNECTED"
  | snapshotDurable => "SNAPSHOT_DURABLE"
  | segmentDurable => "SEGMENT_DURABLE"
  | serverShutdownDurable => "SERVER_SHUTDOWN_DURABLE"
  | heartbeatDurable => "HEARTBEAT_DURABLE"
  | processTerminal => "PROCESS_TERMINAL"
  | campaignStarted => "CAMPAIGN_STARTED"
  | generationLaunched => "GENERATION_LAUNCHED"
  | generationLaunchedServerShutdown => "GENERATION_LAUNCHED_SERVER_SHUTDOWN"
  | generationExited => "GENERATION_EXITED"
  | handoverProofStarted => "HANDOVER_PROOF_STARTED"
  | campaignEvaluationPrepared => "CAMPAIGN_EVALUATION_PREPARED"
  | campaignCommitted => "CAMPAIGN_COMMITTED"
  | campaignFailed => "CAMPAIGN_FAILED"
  | initialActiveRegistered => "INITIAL_ACTIVE_REGISTERED"
  | candidateRegistered => "CANDIDATE_REGISTERED"
  | handoverProvenAndPromoted => "HANDOVER_PROVEN_AND_PROMOTED"
  | serverShutdownIgnoredNonActive => "SERVER_SHUTDOWN_IGNORED_NON_ACTIVE"
  | serverShutdownCandidateAlreadyPending => "SERVER_SHUTDOWN_CANDIDATE_ALREADY_PENDING"
  | generationDisconnectFailClosed => "GENERATION_DISCONNECT_FAIL_CLOSED"

def all : List Event :=
  [processStarted, transportConnected, snapshotDurable, segmentDurable, serverShutdownDurable,
    heartbeatDurable, processTerminal, campaignStarted, generationLaunched,
    generationLaunchedServerShutdown, generationExited, handoverProofStarted,
    campaignEvaluationPrepared, campaignCommitted, campaignFailed, initialActiveRegistered,
    candidateRegistered, handoverProvenAndPromoted, serverShutdownIgnoredNonActive,
    serverShutdownCandidateAlreadyPending, generationDisconnectFailClosed]

def ofName (text : String) : Option Event := all.find? fun event => event.name = text

/-- The channel whose allowlist names the event. -/
def channel : Event → Channel
  | processStarted | transportConnected | snapshotDurable | segmentDurable
  | serverShutdownDurable | heartbeatDurable | processTerminal => .childStdout
  | campaignStarted | generationLaunched | generationLaunchedServerShutdown | generationExited
  | handoverProofStarted | campaignEvaluationPrepared | campaignCommitted
  | campaignFailed => .campaign
  | initialActiveRegistered | candidateRegistered | handoverProvenAndPromoted
  | serverShutdownIgnoredNonActive | serverShutdownCandidateAlreadyPending
  | generationDisconnectFailClosed => .supervisor

/-- `expected_schema` of the events a child writes. -/
def childSchema : Event → Option String
  | processStarted => some "CaptureProcessEventV1"
  | transportConnected => some "TransportConnectedProcessEventV1"
  | snapshotDurable => some "SnapshotDurableProcessEventV1"
  | segmentDurable => some "SegmentDurableProcessEventV1"
  | serverShutdownDurable => some "ServerShutdownDurableProcessEventV1"
  | heartbeatDurable => some "HeartbeatProcessEventV1"
  | processTerminal => some "CaptureTerminalProcessEventV1"
  | _ => none

end Event

/-! ## Reading a payload -/

/-- A check that ends the audit where its condition holds. -/
def refuse (bad : Prop) [Decidable bad] (message : String) : Result Unit :=
  if bad then err message else .ok ()

@[simp] theorem refuse_eq_ok {bad : Prop} [Decidable bad] {message : String} {u : Unit} :
    refuse bad message = .ok u ↔ ¬ bad := by
  by_cases h : bad <;> simp [refuse, h]

def payloadU64 (payload : Value) (field event : String) : Result Nat :=
  okOr ((payload.u64Field field).map UInt64.toNat) s!"{event} lacks unsigned integer {field}"

def payloadText (payload : Value) (field event : String) : Result String :=
  okOr ((payload.strField field).filter fun value => decide (value ≠ ""))
    s!"{event} lacks nonempty string {field}"

/-- A number of a `json!` literal. -/
def jsonU64 (n : Nat) : Value := Value.nat (UInt64.ofNat n)

def lifecycleGeneration (generations : List GenerationLifecycleExpectation)
    (generationIndex : Option Nat) (event : String) : Result GenerationLifecycleExpectation := do
  let index ← okOr generationIndex s!"{event} is not generation-scoped"
  okOr ((generations[index]?).filter fun generation => generation.generationIndex = index)
    s!"{event} references a generation outside the campaign"

/-- `Path::components`, on the bytes of a path: neither empty nor `.` components remain. -/
def pathComponents (value : String) : List Bytes :=
  ((asBytes value).splitOn 47).filter fun component =>
    decide (component ≠ [] ∧ component ≠ asBytes ".")

def validateProcessSessionPath (value expectedSessionId : String) : Result Unit :=
  let components := pathComponents value
  refuse (asBytes ".." ∈ components ∨ components.getLast? ≠ some (asBytes expectedSessionId) ∨
      components.dropLast.getLast? ≠ some (asBytes "generations"))
    "PROCESS_STARTED session path is not a generation path"

/-- `format!("segment-{segment_index:06}.bnraw")`. -/
def segmentRawFile (segmentIndex : Nat) : String :=
  let digits := toString segmentIndex
  let zeros := String.ofList (List.replicate (6 - digits.length) '0')
  s!"segment-{zeros}{digits}.bnraw"

/-! ## The variables of the loop -/

structure GenerationLifecycleState where
  launchRecord : Option Nat := none
  processStartedRecord : Option Nat := none
  processStartedMonoNs : Option Nat := none
  processTerminalRecord : Option Nat := none
  processTerminalMonoNs : Option Nat := none
  generationExitedRecord : Option Nat := none
  generationExitedMonoNs : Option Nat := none

/-- The variables the loop over the records carries. -/
structure LifecycleAudit where
  states : List GenerationLifecycleState
  proofStarted : List (Nat × Nat) := []
  promoted : List ((Nat × Nat) × String) := []
  observedShutdowns : List ((Nat × String) × Nat) := []
  availableShutdowns : List ((Nat × String) × Nat) := []
  observedShutdownPublications : List (Nat × VerifiedServerShutdownV1) := []
  campaignStarted : Nat := 0
  campaignPrepared : Nat := 0
  campaignCommitted : Nat := 0
  campaignPreparedBoundary : Option (Nat × Nat) := none
  initialActiveRegistered : Bool := false
  candidateRegistered : List Nat := []
  activeGeneration : Option Nat := none
  pendingCandidate : Option Nat := none
  warmedGeneration : Option Nat := none

/-- `map.insert(key, value)`. -/
def assign {κ ν : Type} [DecidableEq κ] (entries : List (κ × ν)) (key : κ) (value : ν) :
    List (κ × ν) :=
  (key, value) :: entries.filter fun entry => entry.1 ≠ key

@[simp] theorem lookup_assign {κ ν : Type} [DecidableEq κ] [BEq κ] [LawfulBEq κ]
    (entries : List (κ × ν)) (key k : κ) (value : ν) :
    (assign entries key value).lookup k = if k = key then some value else entries.lookup k := by
  by_cases hk : k = key
  · subst hk
    simp [assign]
  · rw [if_neg hk, assign, List.lookup_cons, beq_eq_false_iff_ne.mpr hk]
    induction entries with
    | nil => rfl
    | cons entry rest ih =>
      obtain ⟨k', v'⟩ := entry
      by_cases hk' : k' = key
      · subst hk'
        rw [List.filter_cons_of_neg (by simp), List.lookup_cons, beq_eq_false_iff_ne.mpr hk]
        exact ih
      · rw [List.filter_cons_of_pos (by simpa using hk'), List.lookup_cons, List.lookup_cons]
        cases k == k' with
        | true => rfl
        | false => exact ih

/-- `states.get_mut(&index)`, and a change to the entry. -/
def LifecycleAudit.update (audit : LifecycleAudit) (index : Nat)
    (change : GenerationLifecycleState → GenerationLifecycleState) : LifecycleAudit :=
  { audit with states := audit.states.modify index change }

/-- `expected_handovers`: of two entries with one key the later one stays. -/
def expectedHandovers (handovers : List HandoverLifecycleExpectation) :
    List ((Nat × Nat) × String) :=
  handovers.reverse.map fun handover =>
    ((handover.predecessorGenerationIndex, handover.successorGenerationIndex),
      handover.proofSha256)

/-- `record.is_none_or(|value| value >= bound)`. -/
def notBefore (record : Option Nat) (bound : Nat) : Prop :=
  ∀ value, record = some value → bound ≤ value

instance (record : Option Nat) (bound : Nat) : Decidable (notBefore record bound) :=
  match record with
  | none => isTrue (by simp [notBefore])
  | some value => decidable_of_iff (bound ≤ value) (by simp [notBefore])

/-- `option.expect(..)`: the process ends where there is no value. -/
def expect {α : Type} (o : Option α) : Result α :=
  match o with
  | some a => .ok a
  | none => .error .abort

@[simp] theorem expect_eq_ok {α : Type} {o : Option α} {a : α} : expect o = .ok a ↔ o = some a := by
  cases o <;> simp [expect]

/-! ## The arms of the loop -/

/-- The boundary records of the campaign: they are counted, belong to no generation, and have
    a payload that is fixed. -/
def campaignBoundary (count : Nat) (record : CampaignJournalBodyV1) (payload : Value)
    (overflow invalid : String) : Result Nat := do
  let count ← okOr (checkedAdd count 1) overflow
  refuse (record.channel ≠ "CAMPAIGN" ∨ record.generationIndex.isSome ∨ record.payload ≠ payload)
    invalid
  return count

def campaignStarted (campaignId startupSha256 : String) (audit : LifecycleAudit)
    (record : CampaignJournalBodyV1) : Result LifecycleAudit := do
  let count ← campaignBoundary audit.campaignStarted record
    (.object [("campaign_id", .string campaignId), ("event", .string "CAMPAIGN_STARTED"),
      ("startup_sha256", .string startupSha256)])
    "CAMPAIGN_STARTED count overflow" "CAMPAIGN_STARTED identity is invalid"
  return { audit with campaignStarted := count }

def campaignEvaluationPrepared (audit : LifecycleAudit) (record : CampaignJournalBodyV1) :
    Result LifecycleAudit := do
  let count ← campaignBoundary audit.campaignPrepared record
    (.object [("event", .string "CAMPAIGN_EVALUATION_PREPARED")])
    "campaign prepared count overflow" "CAMPAIGN_EVALUATION_PREPARED scope is invalid"
  return { audit with
    campaignPrepared := count
    campaignPreparedBoundary := some (record.recordIndex, record.campaignMonoNs) }

def campaignCommitted (campaignManifestSha256 : String) (audit : LifecycleAudit)
    (record : CampaignJournalBodyV1) : Result LifecycleAudit := do
  let count ← campaignBoundary audit.campaignCommitted record
    (.object [("event", .string "CAMPAIGN_COMMITTED"), ("manifest_file", .string "campaign.json"),
      ("manifest_sha256", .string campaignManifestSha256)])
    "campaign commit count overflow" "CAMPAIGN_COMMITTED identity is invalid"
  return { audit with campaignCommitted := count }

/-- `Value::as_object`. -/
def asObject : Value → Option (List (String × Value))
  | .object members => some members
  | _ => none

/-- `*map.entry(key).or_default()`, one more. -/
def countShutdown (counts : List ((Nat × String) × Nat)) (key : Nat × String)
    (overflow : String) : Result (List ((Nat × String) × Nat)) := do
  let count ← okOr (checkedAdd ((counts.lookup key).getD 0) 1) overflow
  return assign counts key count

def serverShutdownDurable (generations : List GenerationLifecycleExpectation)
    (audit : LifecycleAudit) (record : CampaignJournalBodyV1) : Result LifecycleAudit := do
  let event := Event.serverShutdownDurable.name
  let payload := record.payload
  let invalid := "SERVER_SHUTDOWN_DURABLE identity is invalid"
  let generation ← lifecycleGeneration generations record.generationIndex event
  let lifecycle ← expect audit.states[generation.generationIndex]?
  let shutdown ← okOr ((payload.get "shutdown").bind asObject)
    "SERVER_SHUTDOWN_DURABLE lacks shutdown object"
  let shutdownValue := Value.object shutdown
  let stream ← payloadText shutdownValue "stream" event
  let epoch ← payloadText shutdownValue "connection_epoch" event
  let segmentIndex ← payloadU64 shutdownValue "segment_index" event
  let frameIndex ← payloadU64 shutdownValue "frame_index" event
  let expectedRawFile := segmentRawFile segmentIndex
  refuse (record.channel ≠ "CHILD_STDOUT" ∨
      notBefore lifecycle.processStartedRecord record.recordIndex ∨
      lifecycle.processTerminalRecord.isSome ∨
      payload.strField "schema" ≠ some "ServerShutdownDurableProcessEventV1" ∨
      payload.strField "session_id" ≠ some generation.sessionId ∨
      shutdownValue.strField "schema" ≠ some "DurableServerShutdownEventV1" ∨
      ¬ (stream = "depth" ∨ stream = "trade") ∨
      generation.streamEpochs.lookup stream ≠ some epoch ∨
      shutdownValue.strField "raw_file" ≠ some expectedRawFile) invalid
  let receiveMonoNs ← payloadU64 shutdownValue "receive_mono_ns" event
  refuse (receiveMonoNs = 0) invalid
  let durableRecordCount ← payloadU64 shutdownValue "durable_record_count" event
  refuse (durableRecordCount = 0) invalid
  let durableThroughOffset ← payloadU64 shutdownValue "durable_through_offset" event
  refuse (durableThroughOffset = 0) invalid
  let lastRecordSha256 ← payloadText shutdownValue "last_record_sha256" event
  refuse (isLowerHex64 lastRecordSha256 = false ∨
      (asObject payload).map List.length ≠ some 4 ∨ shutdown.length ≠ 10) invalid
  let exactShutdown : VerifiedServerShutdownV1 :=
    { stream := stream
      connectionEpoch := epoch
      segmentIndex := segmentIndex
      rawFile := expectedRawFile
      frameIndex := frameIndex
      receiveMonoNs := receiveMonoNs
      durableRecordCount := durableRecordCount
      durableThroughOffset := durableThroughOffset
      lastRecordSha256 := lastRecordSha256 }
  refuse (exactShutdown ∉ generation.serverShutdowns ∨
      (generation.generationIndex, exactShutdown) ∈ audit.observedShutdownPublications)
    "SERVER_SHUTDOWN_DURABLE does not bind one exact BNRAW record"
  let observed ← countShutdown audit.observedShutdowns (generation.generationIndex, stream)
    "serverShutdown journal count overflow"
  let available ← countShutdown audit.availableShutdowns (generation.generationIndex, epoch)
    "available serverShutdown count overflow"
  return { audit with
    observedShutdownPublications :=
      (generation.generationIndex, exactShutdown) :: audit.observedShutdownPublications
    observedShutdowns := observed
    availableShutdowns := available }

def disposeShutdown (audit : LifecycleAudit) (key : Nat × String) (lacks reused : String) :
    Result LifecycleAudit := do
  let available ← okOr (audit.availableShutdowns.lookup key) lacks
  refuse (available = 0) reused
  return { audit with availableShutdowns := assign audit.availableShutdowns key (available - 1) }

def ImmediateCandidate (audit : LifecycleAudit) (index : Nat) : Prop :=
  index ≠ 0 ∧ audit.activeGeneration = checkedSub index 1 ∧ audit.pendingCandidate = none ∧
    audit.warmedGeneration = none

def WarmAhead (audit : LifecycleAudit) (event : Event) (index : Nat) : Prop :=
  event = .generationLaunched ∧ 2 ≤ index ∧ audit.activeGeneration = checkedSub index 2 ∧
    audit.pendingCandidate = checkedSub index 1 ∧ audit.warmedGeneration = none

instance (audit : LifecycleAudit) (index : Nat) : Decidable (ImmediateCandidate audit index) :=
  inferInstanceAs (Decidable (_ ∧ _))

instance (audit : LifecycleAudit) (event : Event) (index : Nat) :
    Decidable (WarmAhead audit event index) :=
  inferInstanceAs (Decidable (_ ∧ _))

/-- The launch by a server shutdown uses up a durable shutdown of the active generation. -/
def launchedServerShutdown (generations : List GenerationLifecycleExpectation)
    (audit : LifecycleAudit) (generation : GenerationLifecycleExpectation)
    (payload : Value) : Result LifecycleAudit := do
  let event := Event.generationLaunchedServerShutdown.name
  let sourceGeneration ← payloadU64 payload "source_generation" event
  let sourceEpoch ← payloadText payload "source_epoch" event
  refuse (generation.generationIndex = 0 ∨
      checkedAdd sourceGeneration 1 ≠ some generation.generationIndex ∨
      payload ≠ .object [("duration_s", jsonU64 generation.durationRequestedS),
        ("event", .string "GENERATION_LAUNCHED_SERVER_SHUTDOWN"),
        ("source_epoch", .string sourceEpoch), ("source_generation", jsonU64 sourceGeneration)])
    "serverShutdown launch source generation is invalid"
  let source ← okOr ((generations[sourceGeneration]?).filter fun source =>
    source.generationIndex = sourceGeneration) "serverShutdown launch source is absent"
  refuse (∀ state ∈ audit.states[sourceGeneration]?,
      state.processTerminalRecord.isSome ∨ state.generationExitedRecord.isSome)
    "serverShutdown launch source is no longer active"
  refuse (audit.activeGeneration ≠ some sourceGeneration)
    "serverShutdown launch source is not the active generation"
  refuse (sourceEpoch ∉ source.streamEpochs.map Prod.snd)
    "serverShutdown launch source epoch is not authoritative"
  disposeShutdown audit (sourceGeneration, sourceEpoch)
    "serverShutdown launch lacks a prior durable source event"
    "serverShutdown durable source event was reused"

/-- Only the launch by a server shutdown disposes of one. -/
def launchDisposition (generations : List GenerationLifecycleExpectation) (event : Event)
    (audit : LifecycleAudit) (generation : GenerationLifecycleExpectation) (payload : Value) :
    Result LifecycleAudit :=
  if event = .generationLaunchedServerShutdown then
    launchedServerShutdown generations audit generation payload
  else .ok audit

/-- The slot a launched generation takes. -/
def placeLaunched (audit : LifecycleAudit) (index : Nat) (warmAhead : Prop) [Decidable warmAhead] :
    LifecycleAudit :=
  if index = 0 then audit
  else if warmAhead then { audit with warmedGeneration := some index }
  else { audit with pendingCandidate := some index }

/-- `GENERATION_LAUNCHED` and `GENERATION_LAUNCHED_SERVER_SHUTDOWN`. -/
def generationLaunched (generations : List GenerationLifecycleExpectation) (event : Event)
    (audit : LifecycleAudit) (record : CampaignJournalBodyV1) : Result LifecycleAudit := do
  let generation ← lifecycleGeneration generations record.generationIndex event.name
  let index := generation.generationIndex
  let state ← expect audit.states[index]?
  let invalid := s!"generation {index} launch is invalid"
  refuse (record.channel ≠ "CAMPAIGN" ∨ state.launchRecord.isSome) invalid
  let durationS ← payloadU64 record.payload "duration_s" event.name
  refuse (durationS ≠ generation.durationRequestedS ∨
      (if index = 0 then
        event ≠ .generationLaunched ∨ audit.activeGeneration.isSome ∨
          audit.pendingCandidate.isSome ∨ audit.warmedGeneration.isSome
      else ¬ ImmediateCandidate audit index ∧ ¬ WarmAhead audit event index) ∨
      event = .generationLaunched ∧
        record.payload ≠ .object [("duration_s", jsonU64 generation.durationRequestedS),
          ("event", .string "GENERATION_LAUNCHED")]) invalid
  let disposed ← launchDisposition generations event audit generation record.payload
  let launched := disposed.update index fun state =>
    { state with launchRecord := some record.recordIndex }
  return placeLaunched launched index (WarmAhead audit event index)

def processStarted (generations : List GenerationLifecycleExpectation) (audit : LifecycleAudit)
    (record : CampaignJournalBodyV1) : Result LifecycleAudit := do
  let event := Event.processStarted.name
  let payload := record.payload
  let generation ← lifecycleGeneration generations record.generationIndex event
  let index := generation.generationIndex
  let state ← expect audit.states[index]?
  let invalid := s!"generation {index} PROCESS_STARTED is invalid"
  refuse (record.channel ≠ "CHILD_STDOUT" ∨ state.processStartedRecord.isSome ∨
      notBefore state.launchRecord record.recordIndex ∨
      payload.strField "schema" ≠ some "CaptureProcessEventV1") invalid
  let generationIndex ← payloadU64 payload "generation_index" event
  refuse (generationIndex ≠ index ∨
      payload.strField "session_id" ≠ some generation.sessionId ∨
      payload.strField "symbol" ≠ some generation.symbol ∨
      payload.strField "spec_revision" ≠ some specRevision ∨
      payload.strField "startup_manifest_sha256" ≠ some generation.startupSha256) invalid
  let processId ← payloadU64 payload "process_id" event
  refuse (processId = 0) invalid
  let sessionDir ← payloadText payload "session_dir" event
  validateProcessSessionPath sessionDir generation.sessionId
  return audit.update index fun state =>
    { state with
      processStartedRecord := some record.recordIndex
      processStartedMonoNs := some record.campaignMonoNs }

def PriorHandoverIsPromoted (audit : LifecycleAudit) (index : Nat) : Prop :=
  index = 0 ∨ (audit.promoted.lookup (index - 1, index)).isSome

def SuccessorStartedBeforeTerminal (count : Nat) (audit : LifecycleAudit) (index : Nat)
    (record : CampaignJournalBodyV1) : Prop :=
  ((checkedAdd index 1).filter fun successor => decide (successor < count)).all
    (fun successor => (audit.states[successor]?).any fun state =>
      state.processStartedRecord.any (fun started => decide (started < record.recordIndex)) &&
      state.processStartedMonoNs.any (fun started => decide (started ≤ record.campaignMonoNs))) =
    true

instance (audit : LifecycleAudit) (index : Nat) : Decidable (PriorHandoverIsPromoted audit index) :=
  inferInstanceAs (Decidable (_ ∨ _))

instance (count : Nat) (audit : LifecycleAudit) (index : Nat) (record : CampaignJournalBodyV1) :
    Decidable (SuccessorStartedBeforeTerminal count audit index record) :=
  inferInstanceAs (Decidable (_ = true))

def processTerminal (generations : List GenerationLifecycleExpectation) (audit : LifecycleAudit)
    (record : CampaignJournalBodyV1) : Result LifecycleAudit := do
  let payload := record.payload
  let generation ← lifecycleGeneration generations record.generationIndex Event.processTerminal.name
  let index := generation.generationIndex
  let state ← expect audit.states[index]?
  refuse (record.channel ≠ "CHILD_STDOUT" ∨ state.processTerminalRecord.isSome ∨
      notBefore state.processStartedRecord record.recordIndex ∨
      payload.strField "schema" ≠ some "CaptureTerminalProcessEventV1" ∨
      payload.strField "session_id" ≠ some generation.sessionId ∨
      payload.strField "status" ≠ some "COMPLETE" ∨
      payload.strField "generation_manifest" ≠ some "generation.json" ∨
      ¬ PriorHandoverIsPromoted audit index ∨
      ¬ SuccessorStartedBeforeTerminal generations.length audit index record)
    s!"generation {index} PROCESS_TERMINAL is invalid"
  return audit.update index fun state =>
    { state with
      processTerminalRecord := some record.recordIndex
      processTerminalMonoNs := some record.campaignMonoNs }

def generationExited (generations : List GenerationLifecycleExpectation) (audit : LifecycleAudit)
    (record : CampaignJournalBodyV1) : Result LifecycleAudit := do
  let event := Event.generationExited.name
  let generation ← lifecycleGeneration generations record.generationIndex event
  let index := generation.generationIndex
  let state ← expect audit.states[index]?
  let invalid := s!"generation {index} GENERATION_EXITED is invalid"
  refuse (record.channel ≠ "CAMPAIGN" ∨ state.generationExitedRecord.isSome ∨
      notBefore state.processTerminalRecord record.recordIndex ∨
      (record.payload.get "success").bind Value.asBool ≠ some true) invalid
  let code ← payloadU64 record.payload "code" event
  refuse (code ≠ 0) invalid
  return audit.update index fun state =>
    { state with
      generationExitedRecord := some record.recordIndex
      generationExitedMonoNs := some record.campaignMonoNs }

def handoverProofStarted (generations : List GenerationLifecycleExpectation)
    (handovers : List HandoverLifecycleExpectation) (audit : LifecycleAudit)
    (record : CampaignJournalBodyV1) : Result LifecycleAudit := do
  let event := Event.handoverProofStarted.name
  let successor ← lifecycleGeneration generations record.generationIndex event
  let predecessor ← payloadU64 record.payload "predecessor" event
  let pair := (predecessor, successor.generationIndex)
  let predecessorState ← okOr audit.states[predecessor]? "handover proof predecessor is absent"
  let successorState ← expect audit.states[successor.generationIndex]?
  refuse (record.channel ≠ "CAMPAIGN" ∨
      checkedAdd predecessor 1 ≠ some successor.generationIndex ∨
      record.payload ≠ .object [("event", .string "HANDOVER_PROOF_STARTED"),
        ("predecessor", jsonU64 predecessor)] ∨
      (expectedHandovers handovers).lookup pair = none ∨ pair ∈ audit.proofStarted ∨
      audit.activeGeneration ≠ some predecessor ∨
      audit.pendingCandidate ≠ some successor.generationIndex ∨
      successor.generationIndex ∉ audit.candidateRegistered ∨
      notBefore predecessorState.generationExitedRecord record.recordIndex ∨
      notBefore successorState.processStartedRecord record.recordIndex ∨
      successorState.processTerminalRecord.isSome)
    "HANDOVER_PROOF_STARTED lifecycle/order is invalid"
  return { audit with proofStarted := audit.proofStarted ++ [pair] }

def handoverProvenAndPromoted (generations : List GenerationLifecycleExpectation)
    (handovers : List HandoverLifecycleExpectation) (audit : LifecycleAudit)
    (record : CampaignJournalBodyV1) : Result LifecycleAudit := do
  let event := Event.handoverProvenAndPromoted.name
  let successor ← lifecycleGeneration generations record.generationIndex event
  let predecessor ← payloadU64 record.payload "predecessor" event
  let pair := (predecessor, successor.generationIndex)
  let proofSha256 ← payloadText record.payload "proof_sha256" event
  let successorState ← expect audit.states[successor.generationIndex]?
  refuse (record.channel ≠ "SUPERVISOR" ∨
      checkedAdd predecessor 1 ≠ some successor.generationIndex ∨
      record.payload ≠ .object [("event", .string "HANDOVER_PROVEN_AND_PROMOTED"),
        ("predecessor", jsonU64 predecessor), ("proof_sha256", .string proofSha256)] ∨
      pair ∉ audit.proofStarted ∨ successor.generationIndex ∉ audit.candidateRegistered ∨
      audit.activeGeneration ≠ some predecessor ∨
      audit.pendingCandidate ≠ some successor.generationIndex ∨
      (audit.promoted.lookup pair).isSome ∨
      (expectedHandovers handovers).lookup pair ≠ some proofSha256 ∨
      successorState.processTerminalRecord.isSome)
    "HANDOVER_PROVEN_AND_PROMOTED digest/lifecycle is invalid"
  return { audit with
    promoted := audit.promoted ++ [(pair, proofSha256)]
    activeGeneration := some successor.generationIndex
    pendingCandidate := none }

def initialActiveRegistered (generations : List GenerationLifecycleExpectation)
    (audit : LifecycleAudit) (record : CampaignJournalBodyV1) : Result LifecycleAudit := do
  let invalid := "INITIAL_ACTIVE_REGISTERED lifecycle is invalid"
  let generation ← lifecycleGeneration generations record.generationIndex
    Event.initialActiveRegistered.name
  refuse (generation.generationIndex ≠ 0 ∨ audit.initialActiveRegistered) invalid
  let first ← expect audit.states[0]?
  refuse (notBefore first.processStartedRecord record.recordIndex ∨
      record.payload ≠ .object [("event", .string "INITIAL_ACTIVE_REGISTERED")]) invalid
  return { audit with initialActiveRegistered := true, activeGeneration := some 0 }

/-- The warmed generation takes the place of the candidate. -/
def transferWarmed (audit : LifecycleAudit) (index : Nat) : LifecycleAudit :=
  if audit.warmedGeneration = some index ∧ audit.pendingCandidate = none ∧
      audit.activeGeneration = checkedSub index 1 then
    { audit with warmedGeneration := none, pendingCandidate := some index }
  else audit

def candidateRegistered (generations : List GenerationLifecycleExpectation)
    (audit : LifecycleAudit) (record : CampaignJournalBodyV1) : Result LifecycleAudit := do
  let invalid := "CANDIDATE_REGISTERED lifecycle is invalid"
  let generation ← lifecycleGeneration generations record.generationIndex
    Event.candidateRegistered.name
  let index := generation.generationIndex
  let audit := transferWarmed audit index
  refuse (index = 0) invalid
  let state ← expect audit.states[index]?
  refuse (notBefore state.processStartedRecord record.recordIndex ∨
      audit.activeGeneration ≠ checkedSub index 1 ∨ audit.pendingCandidate ≠ some index ∨
      index ∈ audit.candidateRegistered ∨
      record.payload ≠ .object [("event", .string "CANDIDATE_REGISTERED")]) invalid
  return { audit with candidateRegistered := audit.candidateRegistered ++ [index] }

/-- `SERVER_SHUTDOWN_IGNORED_NON_ACTIVE` and `SERVER_SHUTDOWN_CANDIDATE_ALREADY_PENDING`. -/
def serverShutdownNotice (generations : List GenerationLifecycleExpectation) (event : Event)
    (audit : LifecycleAudit) (record : CampaignJournalBodyV1) : Result LifecycleAudit := do
  let generation ← lifecycleGeneration generations record.generationIndex event.name
  let index := generation.generationIndex
  let sourceEpoch ← payloadText record.payload "source_epoch" event.name
  refuse (sourceEpoch ∉ generation.streamEpochs.map Prod.snd ∨
      record.payload ≠ .object [("event", .string event.name),
        ("source_epoch", .string sourceEpoch)] ∨
      event = .serverShutdownIgnoredNonActive ∧ audit.activeGeneration = some index ∨
      event = .serverShutdownCandidateAlreadyPending ∧
        (audit.activeGeneration ≠ some index ∨ audit.pendingCandidate = none))
    s!"{event.name} source/lifecycle is invalid"
  disposeShutdown audit (index, sourceEpoch)
    s!"{event.name} lacks a prior durable source event"
    s!"{event.name} reused a durable source event"

/-! ## The loop -/

/-- The arguments of `validate_campaign_lifecycle` besides the journal. -/
structure LifecycleExpectations where
  campaignId : String
  startupSha256 : String
  campaignManifestSha256 : String
  totalDurationS : Nat
  generations : List GenerationLifecycleExpectation
  handovers : List HandoverLifecycleExpectation

/-- What holds of every record a child wrote to its standard output. -/
def childStdout (generations : List GenerationLifecycleExpectation) (audit : LifecycleAudit)
    (record : CampaignJournalBodyV1) (event : Event) : Result Unit := do
  refuse (record.payload.strField "schema" ≠ event.childSchema)
    s!"{event.name} uses the wrong child event schema"
  let generation ← lifecycleGeneration generations record.generationIndex event.name
  let state ← expect audit.states[generation.generationIndex]?
  refuse (record.payload.strField "session_id" ≠ some generation.sessionId ∨
      event ≠ .processStarted ∧ (notBefore state.processStartedRecord record.recordIndex ∨
        state.processTerminalRecord.isSome))
    s!"{event.name} child session/lifecycle is invalid"

/-- The checks before the match on the event, and the event. -/
def recordEvent (generations : List GenerationLifecycleExpectation) (audit : LifecycleAudit)
    (record : CampaignJournalBodyV1) : Result Event := do
  let invalid := "campaign journal channel/wall timestamp is invalid"
  let channel ← okOr (Channel.ofName record.channel) invalid
  refuse (record.wallNs = 0) invalid
  refuse (channel = .childStderr) "complete campaign journal contains child stderr"
  refuse (∃ index ∈ record.generationIndex,
      ((generations[index]?).any fun generation => generation.generationIndex = index) = false)
    "campaign journal references a generation outside the manifest"
  let value ← okOr (record.payload.get "event") "campaign journal payload lacks event"
  let text ← okOr value.asStr "campaign journal event is not a string"
  let event ← okOr ((Event.ofName text).filter fun event => event.channel = channel)
    s!"campaign journal event {text} is unknown or invalid for channel {record.channel}"
  if channel = .childStdout then childStdout generations audit record event
  return event

def auditEvent (expected : LifecycleExpectations) (audit : LifecycleAudit)
    (record : CampaignJournalBodyV1) (event : Event) : Result LifecycleAudit :=
  match event with
  | .campaignStarted => campaignStarted expected.campaignId expected.startupSha256 audit record
  | .campaignEvaluationPrepared => campaignEvaluationPrepared audit record
  | .campaignCommitted => campaignCommitted expected.campaignManifestSha256 audit record
  | .campaignFailed => err "successful campaign journal contains CAMPAIGN_FAILED"
  | .generationDisconnectFailClosed =>
    err "successful campaign journal contains a fail-closed disconnect"
  | .serverShutdownDurable => serverShutdownDurable expected.generations audit record
  | .generationLaunched | .generationLaunchedServerShutdown =>
    generationLaunched expected.generations event audit record
  | .processStarted => processStarted expected.generations audit record
  | .processTerminal => processTerminal expected.generations audit record
  | .generationExited => generationExited expected.generations audit record
  | .handoverProofStarted =>
    handoverProofStarted expected.generations expected.handovers audit record
  | .handoverProvenAndPromoted =>
    handoverProvenAndPromoted expected.generations expected.handovers audit record
  | .initialActiveRegistered => initialActiveRegistered expected.generations audit record
  | .candidateRegistered => candidateRegistered expected.generations audit record
  | .serverShutdownIgnoredNonActive | .serverShutdownCandidateAlreadyPending =>
    serverShutdownNotice expected.generations event audit record
  | .transportConnected | .snapshotDurable | .segmentDurable | .heartbeatDurable => .ok audit

def auditRecord (expected : LifecycleExpectations) (audit : LifecycleAudit)
    (record : CampaignJournalEnvelopeV1) : Result LifecycleAudit := do
  let event ← recordEvent expected.generations audit record.body
  auditEvent expected audit record.body event

/-! ## Before and after the loop -/

/-- The identities of one generation, none of which has been used before. -/
def identityTokens (tokens : List String) (generation : GenerationLifecycleExpectation) :
    Result (List String) := do
  let reused := "campaign generation/session epoch identity was reused"
  refuse (generation.streamEpochs.length ≠ 2 ∨ generation.streamEpochs.lookup "depth" = none ∨
      generation.streamEpochs.lookup "trade" = none ∨ generation.sessionId ∈ tokens) reused
  generation.streamEpochs.foldlM (fun tokens entry => do
    refuse (entry.2 = "" ∨ entry.2 ∈ tokens) reused
    return entry.2 :: tokens) (generation.sessionId :: tokens)

/-- A generation at the end of the journal. -/
def finishGeneration (audit : LifecycleAudit) (generation : GenerationLifecycleExpectation) :
    Result Unit := do
  let index := generation.generationIndex
  let state ← expect audit.states[index]?
  refuse (state.launchRecord = none ∨ state.processStartedRecord = none ∨
      state.processTerminalRecord = none ∨ state.generationExitedRecord = none)
    s!"generation {index} lifecycle is incomplete"
  refuse ((audit.observedShutdownPublications.filter fun entry => entry.1 = index).length ≠
      generation.serverShutdowns.length)
    s!"generation {index} journal/raw serverShutdown identities differ"
  generation.serverShutdownEvents.forM fun entry =>
    refuse ((audit.observedShutdowns.lookup (index, entry.1)).getD 0 ≠ entry.2)
      s!"generation {index} {entry.1} serverShutdown journal/raw count differs"

/-- A successor started before its predecessor ended. -/
def finishSuccessor (audit : LifecycleAudit) (index : Nat) : Result Unit := do
  let predecessor ← expect audit.states[index - 1]?
  let successor ← expect audit.states[index]?
  let started ← expect successor.processStartedMonoNs
  refuse (predecessor.processTerminalMonoNs.all (fun terminal => decide (terminal ≤ started)) ∨
      predecessor.generationExitedMonoNs.all (fun exited => decide (exited ≤ started)))
    s!"generation {index} did not start before its predecessor terminated"

def windowEnd (started : Nat) (generation : GenerationLifecycleExpectation) : Option Nat :=
  (checkedMul generation.durationRequestedS 1000000000).bind fun duration =>
    checkedAdd started duration

/-- The windows so far: `covered_through_ns` and `previous_start_ns`. -/
structure Coverage where
  coveredThroughNs : Nat
  previousStartNs : Nat

def coverGeneration (generations : List GenerationLifecycleExpectation) (audit : LifecycleAudit)
    (coverage : Coverage) (index : Nat) : Result Coverage := do
  let state ← expect audit.states[index]?
  let started ← expect state.processStartedMonoNs
  refuse (started ≤ coverage.previousStartNs ∨ coverage.coveredThroughNs < started)
    s!"generation {index} declared coverage leaves a campaign gap or regresses"
  let generation ← expect generations[index]?
  let finish ← okOr (windowEnd started generation)
    s!"generation {index} coverage interval overflow"
  return { coveredThroughNs := max coverage.coveredThroughNs finish, previousStartNs := started }

/-- The declared windows cover the requested duration without a gap. -/
def finishCoverage (generations : List GenerationLifecycleExpectation) (audit : LifecycleAudit)
    (first : GenerationLifecycleState) (requiredMonoNs : Nat) : Result Unit := do
  let opening ← expect generations[0]?
  let covered ← okOr (first.processStartedMonoNs.bind fun started => windowEnd started opening)
    "first generation coverage interval overflow"
  let started ← expect first.processStartedMonoNs
  let coverage ← (List.range' 1 (generations.length - 1)).foldlM
    (coverGeneration generations audit) { coveredThroughNs := covered, previousStartNs := started }
  refuse (coverage.coveredThroughNs < requiredMonoNs)
    "declared generation windows do not cover the requested campaign"

/-- The end of the last generation, and the boundary that was prepared after it. -/
def finishLast (count : Nat) (audit : LifecycleAudit) (requiredMonoNs : Nat) : Result Unit := do
  let last ← expect audit.states[count - 1]?
  let lastTerminalRecord ← expect last.processTerminalRecord
  let lastExitRecord ← expect last.generationExitedRecord
  let lastTerminalMonoNs ← expect last.processTerminalMonoNs
  let lastExitMonoNs ← expect last.generationExitedMonoNs
  refuse (lastTerminalMonoNs < requiredMonoNs ∨ lastExitMonoNs < requiredMonoNs)
    "last generation ended before the requested campaign duration"
  let prepared ← okOr audit.campaignPreparedBoundary "campaign prepared boundary is absent"
  refuse (prepared.1 ≤ lastTerminalRecord ∨ prepared.1 ≤ lastExitRecord ∨
      prepared.2 < lastTerminalMonoNs ∨ prepared.2 < lastExitMonoNs)
    "campaign prepared boundary predates the last generation end"

def sameSet (xs ys : List (Nat × Nat)) : Prop := (∀ x ∈ xs, x ∈ ys) ∧ ∀ y ∈ ys, y ∈ xs

instance (xs ys : List (Nat × Nat)) : Decidable (sameSet xs ys) :=
  inferInstanceAs (Decidable (_ ∧ _))

/-- The checks after the loop. -/
def finishAudit (expected : LifecycleExpectations) (audit : LifecycleAudit) : Result Unit := do
  let generations := expected.generations
  refuse (audit.campaignStarted ≠ 1 ∨ audit.campaignPrepared ≠ 1 ∨ audit.campaignCommitted ≠ 1)
    "campaign lifecycle boundary cardinality is invalid"
  refuse (audit.initialActiveRegistered = false ∨
      audit.activeGeneration ≠ some (generations.length - 1) ∨
      audit.pendingCandidate.isSome ∨ audit.warmedGeneration.isSome)
    "campaign active-generation lifecycle is incomplete"
  refuse (∃ entry ∈ audit.availableShutdowns, entry.2 ≠ 0)
    "durable serverShutdown event lacks one terminal disposition"
  generations.forM (finishGeneration audit)
  let requiredMonoNs ← okOr (checkedMul expected.totalDurationS 1000000000)
    "campaign duration nanoseconds overflow"
  let first ← okOr audit.states[0]? "campaign lifecycle has no first generation"
  refuse (first.processStartedMonoNs.all fun started => decide (campaignStartupGraceNs < started))
    "first generation PROCESS_STARTED exceeded startup grace"
  (List.range' 1 (generations.length - 1)).forM (finishSuccessor audit)
  finishCoverage generations audit first requiredMonoNs
  finishLast generations.length audit requiredMonoNs
  let expectedPairs := (expectedHandovers expected.handovers).map Prod.fst
  refuse (¬ sameSet audit.proofStarted expectedPairs ∨
      ¬ sameSet (audit.promoted.map Prod.fst) expectedPairs)
    "campaign handover lifecycle cardinality is incomplete"

/-- The variables before the first record. -/
def startAudit (generations : List GenerationLifecycleExpectation) : LifecycleAudit :=
  { states := List.replicate generations.length {} }

def validateCampaignLifecycle (journal : VerifiedJournal) (expected : LifecycleExpectations) :
    Result Unit := do
  let _ ← expected.generations.foldlM identityTokens []
  let audit ← journal.records.foldlM (auditRecord expected) (startAudit expected.generations)
  finishAudit expected audit

end LobReplay.Campaign
