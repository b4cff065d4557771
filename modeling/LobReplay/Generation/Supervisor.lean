/-
  The lifecycle of the raw capture generations, `RawGenerationSupervisor` of
  generation_supervisor.rs: one active generation, at most one candidate that is to replace it, and
  the generations that drain.

  A call returns its `Result` with the supervisor it leaves behind, also when it is refused half
  way. Times and counters are the values of `u64`s; a plain subtraction that underflows aborts the
  process.
-/

import LobReplay.Common
import Std.Data.TreeSet

namespace LobReplay.Generation

open Std (TreeSet)

/-! ## Data -/

inductive RawSupervisorState where
  | live
  | handover
  | gap
  | recovering
  deriving DecidableEq

inductive GenerationRole where
  | active
  | candidate
  | draining
  deriving DecidableEq

inductive CandidateReason where
  | plannedRotation
  | serverShutdown
  | retryAfterFailure
  | recoveryAfterGap
  deriving DecidableEq

inductive CandidateFact where
  | depthConnected
  | tradeConnected
  | snapshotPersisted
  | depthDurable
  | tradeDurable
  | depthContinuityProven
  | tradeContinuityProven
  deriving DecidableEq

structure GenerationIdentity where
  generationId : String
  depthEpoch : String
  tradeEpoch : String
  deriving DecidableEq

namespace GenerationIdentity

/-- `GenerationIdentity::validate`. -/
def validate (identity : GenerationIdentity) : Result Unit :=
  if isBlank identity.generationId ∨ isBlank identity.depthEpoch ∨ isBlank identity.tradeEpoch ∨
      identity.generationId = identity.depthEpoch ∨ identity.generationId = identity.tradeEpoch ∨
      identity.depthEpoch = identity.tradeEpoch then
    err "generation ID and stream epochs must be distinct and non-empty"
  else .ok ()

def containsEpoch (identity : GenerationIdentity) (epoch : String) : Bool :=
  identity.depthEpoch == epoch || identity.tradeEpoch == epoch

/-- The three tokens of an identity, in the order they are registered. -/
def tokens (identity : GenerationIdentity) : List String :=
  [identity.generationId, identity.depthEpoch, identity.tradeEpoch]

end GenerationIdentity

structure CandidateReadiness where
  depthConnected : Bool
  tradeConnected : Bool
  snapshotPersisted : Bool
  depthDurable : Bool
  tradeDurable : Bool
  depthContinuityProven : Bool
  tradeContinuityProven : Bool
  deriving DecidableEq

namespace CandidateReadiness

/-- `CandidateReadiness::empty`. -/
def empty : CandidateReadiness := ⟨false, false, false, false, false, false, false⟩

/-- The readiness the first generation is created with. -/
def full : CandidateReadiness := ⟨true, true, true, true, true, true, true⟩

def isReady (r : CandidateReadiness) : Bool :=
  r.depthConnected && r.tradeConnected && r.snapshotPersisted && r.depthDurable &&
    r.tradeDurable && r.depthContinuityProven && r.tradeContinuityProven

/-- The end of `observe`: `target` is the field's old value, `marked` has it set. -/
def mark (r : CandidateReadiness) (target : Bool) (marked : CandidateReadiness) :
    Result Bool × CandidateReadiness :=
  if target then (.ok false, r) else (.ok true, marked)

def observe (r : CandidateReadiness) : CandidateFact → Result Bool × CandidateReadiness
  | .depthConnected => r.mark r.depthConnected { r with depthConnected := true }
  | .tradeConnected => r.mark r.tradeConnected { r with tradeConnected := true }
  | .snapshotPersisted =>
    if !r.depthConnected then (err "snapshot cannot be persisted before depth connects", r)
    else r.mark r.snapshotPersisted { r with snapshotPersisted := true }
  | .depthDurable =>
    if !r.depthConnected then (err "depth cannot become durable before it connects", r)
    else r.mark r.depthDurable { r with depthDurable := true }
  | .tradeDurable =>
    if !r.tradeConnected then (err "trade cannot become durable before it connects", r)
    else r.mark r.tradeDurable { r with tradeDurable := true }
  | .depthContinuityProven =>
    if !r.snapshotPersisted || !r.depthDurable then
      (err "depth continuity requires a durable snapshot-backed depth prefix", r)
    else r.mark r.depthContinuityProven { r with depthContinuityProven := true }
  | .tradeContinuityProven =>
    if !r.tradeDurable then (err "trade continuity requires a durable trade prefix", r)
    else r.mark r.tradeContinuityProven { r with tradeContinuityProven := true }

end CandidateReadiness

structure GenerationStatus where
  identity : GenerationIdentity
  role : GenerationRole
  openedMonoNs : Nat
  reason : CandidateReason
  readiness : CandidateReadiness
  deriving DecidableEq

structure RawSupervisorConfig where
  segmentIntervalNs : Nat
  plannedRotationAgeNs : Nat
  activeMaxAgeNs : Nat
  candidateTimeoutNs : Nat
  backoffInitialNs : Nat
  backoffMaxNs : Nat
  deriving DecidableEq

/-- `RawSupervisorConfig::validate`. -/
def RawSupervisorConfig.validate (config : RawSupervisorConfig) : Result Unit :=
  if config.segmentIntervalNs = 0 ∨ config.plannedRotationAgeNs = 0 ∨ config.activeMaxAgeNs = 0 ∨
      config.candidateTimeoutNs = 0 ∨ config.backoffInitialNs = 0 ∨ config.backoffMaxNs = 0 ∨
      config.activeMaxAgeNs ≤ config.plannedRotationAgeNs ∨
      config.backoffMaxNs < config.backoffInitialNs then
    err "invalid raw generation supervisor durations"
  else .ok ()

structure CandidateRequest where
  reason : CandidateReason
  notBeforeMonoNs : Nat
  deriving DecidableEq

structure TimeAdvance where
  segmentRollovers : Nat
  currentSegmentIndex : Nat
  candidateRequest : Option CandidateRequest
  candidateTimedOut : Bool
  enteredGap : Bool
  deriving DecidableEq

inductive ServerShutdownOutcome where
  | candidateStarted
  | candidateAlreadyInProgress
  | ignoredNonActiveEpoch
  deriving DecidableEq

inductive DisconnectOutcome where
  | activeFailed
  | candidateFailed
  | drainingClosed
  | alreadyTerminal
  deriving DecidableEq

structure Promotion where
  predecessor : Option GenerationIdentity
  successor : GenerationIdentity
  gapWasOpen : Bool
  deriving DecidableEq

structure RawGenerationSupervisor where
  config : RawSupervisorConfig
  state : RawSupervisorState
  clockOriginNs : Nat
  lastMonoNs : Nat
  currentSegmentIndex : Nat
  active : Option GenerationStatus
  candidate : Option GenerationStatus
  draining : List GenerationStatus
  usedTokens : TreeSet String
  pendingReason : Option CandidateReason
  nextCandidateNotBeforeNs : Option Nat
  retryAttempt : Nat
  gapCount : Nat

/-- A plain `a - b` on `u64`s: an underflow aborts the process. -/
def subtract (a b : Nat) : Result Nat := if b ≤ a then .ok (a - b) else .error .abort

namespace RawGenerationSupervisor

def new (config : RawSupervisorConfig) (initial : GenerationIdentity) (nowMonoNs : Nat) :
    Result RawGenerationSupervisor := do
  config.validate
  initial.validate
  return {
    config
    state := .live
    clockOriginNs := nowMonoNs
    lastMonoNs := nowMonoNs
    currentSegmentIndex := 0
    active := some ⟨initial, .active, nowMonoNs, .recoveryAfterGap, .full⟩
    candidate := none
    draining := []
    usedTokens := TreeSet.ofList initial.tokens
    pendingReason := none
    nextCandidateNotBeforeNs := none
    retryAttempt := 0
    gapCount := 0 }

/-! ## The private operations -/

def validateMonotonic (s : RawGenerationSupervisor) (nowMonoNs : Nat) : Result Unit :=
  if nowMonoNs < s.lastMonoNs then
    let last := s.lastMonoNs
    err s!"supervisor monotonic time regressed: {last} -> {nowMonoNs}"
  else .ok ()

def candidateRequest (s : RawGenerationSupervisor) (nowMonoNs : Nat) :
    Result (Option CandidateRequest) :=
  if s.candidate.isSome then .ok none
  else
    let notBefore := s.nextCandidateNotBeforeNs.getD nowMonoNs
    if nowMonoNs < notBefore then .ok none
    else
      match s.active with
      | none => .ok (some ⟨.recoveryAfterGap, notBefore⟩)
      | some active =>
        match s.pendingReason with
        | some reason => .ok (some ⟨reason, notBefore⟩)
        | none => do
          let age ← subtract nowMonoNs active.openedMonoNs
          return if s.config.plannedRotationAgeNs ≤ age then some ⟨.plannedRotation, nowMonoNs⟩
            else none

/-- The delay of the next retry: `1_u64.checked_shl(shift)` is defined, the shift is at
    most 63. -/
def retryDelay (s : RawGenerationSupervisor) : Nat :=
  let shift := min s.retryAttempt 63
  let multiplier := 2 ^ shift
  min (min (s.config.backoffInitialNs * multiplier) u64Max) s.config.backoffMaxNs

/-- `schedule_retry`; `retry_attempt` is a `u32` that saturates. -/
def scheduleRetry (s : RawGenerationSupervisor) (nowMonoNs : Nat) (reason : CandidateReason) :
    RawGenerationSupervisor :=
  { s with
    retryAttempt := min (s.retryAttempt + 1) (2 ^ 32 - 1)
    pendingReason := some reason
    nextCandidateNotBeforeNs := some (min (nowMonoNs + s.retryDelay) u64Max) }

def failCandidate (s : RawGenerationSupervisor) (nowMonoNs : Nat) :
    Result Unit × RawGenerationSupervisor :=
  match s.candidate with
  | none => (err "no candidate to fail", s)
  | some _ =>
    let s := ({ s with candidate := none } : RawGenerationSupervisor).scheduleRetry nowMonoNs
      .retryAfterFailure
    (.ok (), { s with state := if s.active.isSome then .live else .gap })

/-- `enter_gap`: the generations are taken before the counter is known to have room. -/
def enterGap (s : RawGenerationSupervisor) (nowMonoNs : Nat) :
    Result Unit × RawGenerationSupervisor :=
  match s.active with
  | none => (err "cannot fail an absent active generation", s)
  | some _ =>
    let s := { s with active := none, candidate := none }
    match checkedAdd s.gapCount 1 with
    | none => (err "gap count overflow", s)
    | some gapCount =>
      let s := ({ s with gapCount } : RawGenerationSupervisor).scheduleRetry nowMonoNs
        .recoveryAfterGap
      (.ok (), { s with state := .gap })

/-- `register_identity`: all three tokens are checked before the first is inserted. -/
def registerIdentity (s : RawGenerationSupervisor) (identity : GenerationIdentity) :
    Result RawGenerationSupervisor := do
  identity.validate
  match identity.tokens.find? s.usedTokens.contains with
  | some token => err s!"generation identity token cannot be reused: {token}"
  | none =>
    return { s with
      usedTokens := ((s.usedTokens.insert identity.generationId).insert
        identity.depthEpoch).insert identity.tradeEpoch }

def startCandidate (s : RawGenerationSupervisor) (identity : GenerationIdentity)
    (reason : CandidateReason) (nowMonoNs : Nat) : Result Unit × RawGenerationSupervisor :=
  if s.candidate.isSome then (err "a candidate already exists", s)
  else
    match s.registerIdentity identity with
    | .error e => (.error e, s)
    | .ok s =>
      (.ok (), { s with
        candidate := some ⟨identity, .candidate, nowMonoNs, reason, .empty⟩
        pendingReason := none
        nextCandidateNotBeforeNs := none
        state := if s.active.isSome then .handover else .recovering })

/-- Whether a generation, if there is one, is at least `limit` old. -/
def aged (generation : Option GenerationStatus) (nowMonoNs limit : Nat) : Result Bool :=
  match generation with
  | none => .ok false
  | some generation => do
    let age ← subtract nowMonoNs generation.openedMonoNs
    return decide (limit ≤ age)

/-- The deadlines of `advance_time`: whether the candidate timed out and whether a gap was
    entered. -/
def expire (s : RawGenerationSupervisor) (nowMonoNs : Nat) :
    Result (Bool × Bool) × RawGenerationSupervisor :=
  match aged s.active nowMonoNs s.config.activeMaxAgeNs with
  | .error e => (.error e, s)
  | .ok true =>
    let (result, s) := s.enterGap nowMonoNs
    (result.map fun _ => (false, true), s)
  | .ok false =>
    match aged s.candidate nowMonoNs s.config.candidateTimeoutNs with
    | .error e => (.error e, s)
    | .ok true =>
      let (result, s) := s.failCandidate nowMonoNs
      (result.map fun _ => (true, false), s)
    | .ok false => (.ok (false, false), s)

/-! ## The calls -/

/-- `advance_time`. The segment interval is not zero, see `new`. -/
def advanceTime (s : RawGenerationSupervisor) (nowMonoNs : Nat) :
    Result TimeAdvance × RawGenerationSupervisor :=
  match s.validateMonotonic nowMonoNs with
  | .error e => (.error e, s)
  | .ok () =>
    let s := { s with lastMonoNs := nowMonoNs }
    match subtract nowMonoNs s.clockOriginNs with
    | .error e => (.error e, s)
    | .ok elapsed =>
      let targetSegment := elapsed / s.config.segmentIntervalNs
      if targetSegment < s.currentSegmentIndex then (err "segment clock regressed", s)
      else
        let segmentRollovers := targetSegment - s.currentSegmentIndex
        let s := { s with currentSegmentIndex := targetSegment }
        match s.expire nowMonoNs with
        | (.error e, s) => (.error e, s)
        | (.ok (candidateTimedOut, enteredGap), s) =>
          match s.candidateRequest nowMonoNs with
          | .error e => (.error e, s)
          | .ok candidateRequest =>
            (.ok ⟨segmentRollovers, s.currentSegmentIndex, candidateRequest, candidateTimedOut,
              enteredGap⟩, s)

/-- What the calls after `self.advance_time(now)?` work on. -/
def afterTime {α : Type} (s : RawGenerationSupervisor) (nowMonoNs : Nat)
    (rest : TimeAdvance → RawGenerationSupervisor → Result α × RawGenerationSupervisor) :
    Result α × RawGenerationSupervisor :=
  match s.advanceTime nowMonoNs with
  | (.error e, s) => (.error e, s)
  | (.ok report, s) => rest report s

def startDueCandidate (s : RawGenerationSupervisor) (identity : GenerationIdentity)
    (nowMonoNs : Nat) : Result Unit × RawGenerationSupervisor :=
  match identity.validate with
  | .error e => (.error e, s)
  | .ok () =>
    s.afterTime nowMonoNs fun report s =>
      match report.candidateRequest with
      | none => (err "no candidate is due", s)
      | some request => s.startCandidate identity request.reason nowMonoNs

def onServerShutdown (s : RawGenerationSupervisor) (sourceEpoch : String)
    (identity : GenerationIdentity) (nowMonoNs : Nat) :
    Result ServerShutdownOutcome × RawGenerationSupervisor :=
  match identity.validate with
  | .error e => (.error e, s)
  | .ok () =>
    s.afterTime nowMonoNs fun _ s =>
      match s.active with
      | none => (.ok .ignoredNonActiveEpoch, s)
      | some active =>
        if !active.identity.containsEpoch sourceEpoch then (.ok .ignoredNonActiveEpoch, s)
        else if s.candidate.isSome then (.ok .candidateAlreadyInProgress, s)
        else
          let (result, s) := s.startCandidate identity .serverShutdown nowMonoNs
          (result.map fun _ => .candidateStarted, s)

def observeCandidateFact (s : RawGenerationSupervisor) (fact : CandidateFact) (nowMonoNs : Nat) :
    Result Bool × RawGenerationSupervisor :=
  s.afterTime nowMonoNs fun _ s =>
    match s.candidate with
    | none => (err "candidate fact observed without a candidate", s)
    | some candidate =>
      let (result, readiness) := candidate.readiness.observe fact
      (result, { s with candidate := some { candidate with readiness } })

def promoteCandidate (s : RawGenerationSupervisor) (nowMonoNs : Nat) :
    Result Promotion × RawGenerationSupervisor :=
  s.afterTime nowMonoNs fun _ s =>
    match s.candidate with
    | none => (err "no candidate to promote", s)
    | some candidate =>
      if !candidate.readiness.isReady then
        (err "candidate lacks complete raw continuity evidence", s)
      else
        let successor := { candidate with role := .active }
        let gapWasOpen := s.active.isNone
        let predecessor := s.active.map fun predecessor => predecessor.identity
        let drained := s.active.toList.map fun predecessor => { predecessor with role := .draining }
        (.ok ⟨predecessor, successor.identity, gapWasOpen⟩, { s with
          candidate := none
          draining := s.draining ++ drained
          active := some successor
          state := .live
          pendingReason := none
          nextCandidateNotBeforeNs := none
          retryAttempt := 0 })

/-- `close_draining`; `position` and `remove` take the first that matches. -/
def closeDraining (s : RawGenerationSupervisor) (generationId : String) (nowMonoNs : Nat) :
    Result Bool × RawGenerationSupervisor :=
  s.afterTime nowMonoNs fun _ s =>
    match s.draining.findIdx? (fun generation =>
        generation.identity.generationId == generationId) with
    | none => (.ok false, s)
    | some index => (.ok true, { s with draining := s.draining.eraseIdx index })

def disconnectEpoch (s : RawGenerationSupervisor) (epoch reason : String) (nowMonoNs : Nat) :
    Result DisconnectOutcome × RawGenerationSupervisor :=
  if isBlank reason then (err "disconnect reason must not be empty", s)
  else
    s.afterTime nowMonoNs fun _ s =>
      if s.active.any fun generation => generation.identity.containsEpoch epoch then
        let (result, s) := s.enterGap nowMonoNs
        (result.map fun _ => .activeFailed, s)
      else if s.candidate.any fun generation => generation.identity.containsEpoch epoch then
        let (result, s) := s.failCandidate nowMonoNs
        (result.map fun _ => .candidateFailed, s)
      else
        match s.draining.findIdx? fun generation => generation.identity.containsEpoch epoch with
        | some index => (.ok .drainingClosed, { s with draining := s.draining.eraseIdx index })
        | none =>
          if s.usedTokens.contains epoch then (.ok .alreadyTerminal, s)
          else (err s!"disconnect references unknown epoch: {epoch}", s)

/-! ## Runs -/

inductive Call where
  | advanceTime (nowMonoNs : Nat)
  | startDueCandidate (identity : GenerationIdentity) (nowMonoNs : Nat)
  | onServerShutdown (sourceEpoch : String) (identity : GenerationIdentity) (nowMonoNs : Nat)
  | observeCandidateFact (fact : CandidateFact) (nowMonoNs : Nat)
  | promoteCandidate (nowMonoNs : Nat)
  | closeDraining (generationId : String) (nowMonoNs : Nat)
  | disconnectEpoch (epoch reason : String) (nowMonoNs : Nat)
  deriving DecidableEq

/-- What an accepted call returns. -/
inductive Reply where
  | time (report : TimeAdvance)
  | started
  | shutdown (outcome : ServerShutdownOutcome)
  | observed (changed : Bool)
  | promoted (promotion : Promotion)
  | closed (found : Bool)
  | disconnected (outcome : DisconnectOutcome)
  deriving DecidableEq

/-- The reply of a call, in the type all calls share. -/
def answer {α : Type} (reply : α → Reply) (r : Result α × RawGenerationSupervisor) :
    Result Reply × RawGenerationSupervisor :=
  (r.1.map reply, r.2)

def step (s : RawGenerationSupervisor) : Call → Result Reply × RawGenerationSupervisor
  | .advanceTime now => answer .time (s.advanceTime now)
  | .startDueCandidate identity now =>
    answer (fun _ => .started) (s.startDueCandidate identity now)
  | .onServerShutdown sourceEpoch identity now =>
    answer .shutdown (s.onServerShutdown sourceEpoch identity now)
  | .observeCandidateFact fact now => answer .observed (s.observeCandidateFact fact now)
  | .promoteCandidate now => answer .promoted (s.promoteCandidate now)
  | .closeDraining generationId now => answer .closed (s.closeDraining generationId now)
  | .disconnectEpoch epoch reason now =>
    answer .disconnected (s.disconnectEpoch epoch reason now)

end RawGenerationSupervisor

end LobReplay.Generation
