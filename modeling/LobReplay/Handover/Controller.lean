/-
  The connection-epoch handover state machine, `HandoverController` of handover.rs: one active epoch
  that publishes, at most one candidate that is being synchronised beside it, and at most one
  retired epoch that drains.

  A call returns its `Result` with the controller it leaves behind, also when the `Result` is an
  `Err`. `record` numbers the events with a `u64`, so the last part of every accepted call can abort
  the process.
-/

import LobReplay.Common
import Std.Data.TreeSet

namespace LobReplay.Handover

open Std (TreeSet)

/-! ## Data -/

inductive EpochState where
  | connecting
  | buffering
  | snapshotting
  | syncing
  | live
  | active
  | draining
  | closed
  | failed
  deriving DecidableEq

/-- The `{:?}` text of an epoch state. -/
def EpochState.debug : EpochState → String
  | connecting => "Connecting"
  | buffering => "Buffering"
  | snapshotting => "Snapshotting"
  | syncing => "Syncing"
  | live => "Live"
  | active => "Active"
  | draining => "Draining"
  | closed => "Closed"
  | failed => "Failed"

inductive PublicationState where
  | unavailable
  | live
  | handover
  | gap
  deriving DecidableEq

structure EpochStatus where
  epoch : String
  state : EpochState
  finalUpdateId : Option UInt64
  stateSha256 : Option String
  deriving DecidableEq

/-- `EpochStatus::connecting`. -/
def EpochStatus.connecting (epoch : String) : Result EpochStatus :=
  if isBlank epoch then err "connection epoch must not be empty"
  else .ok ⟨epoch, .connecting, none, none⟩

structure HandoverEvent where
  eventIndex : Nat
  action : String
  epoch : String
  fromState : Option EpochState
  toState : Option EpochState
  reason : Option String
  deriving DecidableEq

structure EpochFailure where
  epoch : String
  priorState : EpochState
  reason : String
  deriving DecidableEq

structure HandoverController where
  symbol : String
  publication : PublicationState
  active : EpochStatus
  candidate : Option EpochStatus
  draining : Option EpochStatus
  failures : List EpochFailure
  events : List HandoverEvent
  usedEpochs : TreeSet String
  nextEventIndex : Nat

def validateDigest (digest : String) : Result Unit :=
  if isLowerHex64 digest then .ok ()
  else err "state digest must be 64 lowercase hexadecimal characters"

namespace HandoverController

/-! ## Lookup and bookkeeping -/

def named (slot : Option EpochStatus) (epoch : String) : Option EpochStatus :=
  slot.filter fun status => status.epoch == epoch

/-- `epoch`: the active slot is tried first, then the candidate, then the draining one. -/
def epoch (s : HandoverController) (epoch : String) : Result EpochStatus :=
  if s.active.epoch = epoch then .ok s.active
  else okOr ((named s.candidate epoch).or (named s.draining epoch))
    s!"unknown connection epoch: {epoch}"

/-- `epoch_mut`: the same lookup, with what the caller does to the slot it found. -/
def epochMut (s : HandoverController) (epoch : String) (f : EpochStatus → EpochStatus) :
    Result HandoverController :=
  if s.active.epoch = epoch then .ok { s with active := f s.active }
  else
    match named s.candidate epoch, named s.draining epoch with
    | some candidate, _ => .ok { s with candidate := some (f candidate) }
    | none, some draining => .ok { s with draining := some (f draining) }
    | none, none => err s!"unknown connection epoch: {epoch}"

def epochWasUsed (s : HandoverController) (epoch : String) : Bool := s.usedEpochs.contains epoch

/-- `record`: the event is pushed before its index is counted. -/
def record (s : HandoverController) (action epoch : String) (fromState toState : Option EpochState)
    (reason : Option String) : Result Unit × HandoverController :=
  let event : HandoverEvent := ⟨s.nextEventIndex, action, epoch, fromState, toState, reason⟩
  let s := { s with events := s.events ++ [event] }
  match increment s.nextEventIndex with
  | .error e => (.error e, s)
  | .ok next => (.ok (), { s with nextEventIndex := next })

def new (symbol initialEpoch : String) : Result HandoverController :=
  if symbol ≠ "BTCUSDT" ∧ symbol ≠ "ETHUSDT" then err s!"symbol outside scope: {symbol}"
  else do
    let active ← EpochStatus.connecting initialEpoch
    let controller : HandoverController :=
      { symbol, publication := .unavailable, active, candidate := none, draining := none,
        failures := [], events := [], usedEpochs := TreeSet.empty.insert initialEpoch,
        nextEventIndex := 0 }
    match controller.record "BEGIN_INITIAL_EPOCH" initialEpoch none (some .connecting) none with
    | (.error e, _) => .error e
    | (.ok (), controller) => .ok controller

/-! ## The calls -/

/-- The transitions of an epoch that is being synchronised. -/
def allowed : EpochState → EpochState → Bool
  | .connecting, .buffering => true
  | .buffering, .snapshotting => true
  | .snapshotting, .syncing => true
  | _, _ => false

def transitionEpoch (s : HandoverController) (epoch : String) (target : EpochState) :
    Result Unit × HandoverController :=
  match s.epoch epoch with
  | .error e => (.error e, s)
  | .ok status =>
    let current := status.state
    if ¬ allowed current target then
      let was := current.debug
      let next := target.debug
      (err s!"illegal epoch transition for {epoch}: {was} -> {next}", s)
    else
      match s.epochMut epoch fun status => { status with state := target } with
      | .error e => (.error e, s)
      | .ok s => s.record "TRANSITION" epoch (some current) (some target) none

def markLive (s : HandoverController) (epoch : String) (updateId : UInt64) (digest : String) :
    Result Unit × HandoverController :=
  match validateDigest digest with
  | .error e => (.error e, s)
  | .ok () =>
    match s.epoch epoch with
    | .error e => (.error e, s)
    | .ok status =>
      let current := status.state
      if current ≠ .syncing then
        let was := current.debug
        (err s!"epoch {epoch} cannot become LIVE from {was}", s)
      else
        let live := fun status : EpochStatus =>
          { status with state := .live, finalUpdateId := some updateId, stateSha256 := some digest }
        match s.epochMut epoch live with
        | .error e => (.error e, s)
        | .ok s => s.record "BOOK_LIVE" epoch (some current) (some .live) none

def activateInitial (s : HandoverController) : Result Unit × HandoverController :=
  if s.publication ≠ .unavailable ∨ s.candidate.isSome ∨ s.draining.isSome ∨
      s.active.state ≠ .live then
    (err "initial epoch is not ready for activation", s)
  else
    let s := { s with active := { s.active with state := .active }, publication := .live }
    s.record "ACTIVATE_INITIAL" s.active.epoch (some .live) (some .active) none

def beginHandover (s : HandoverController) (candidateEpoch : String) :
    Result Unit × HandoverController :=
  if s.publication ≠ .live ∨ s.active.state ≠ .active then
    (err "handover requires an active LIVE publication", s)
  else if s.candidate.isSome ∨ s.draining.isSome then
    (err "another candidate or draining epoch already exists", s)
  else if s.epochWasUsed candidateEpoch then
    (err s!"connection epoch cannot be reused: {candidateEpoch}", s)
  else
    match EpochStatus.connecting candidateEpoch with
    | .error e => (.error e, s)
    | .ok candidate =>
      let s := { s with
        candidate := some candidate, usedEpochs := s.usedEpochs.insert candidateEpoch,
        publication := .handover }
      s.record "BEGIN_CANDIDATE_EPOCH" candidateEpoch none (some .connecting) none

def failEpoch (s : HandoverController) (epoch reason : String) : Result Unit × HandoverController :=
  if isBlank reason then (err "failure reason must not be empty", s)
  else if s.active.epoch = epoch then
    let prior := s.active.state
    if prior = .failed ∨ prior = .closed then
      let was := prior.debug
      (err s!"active epoch is already terminal: {was}", s)
    else
      let s := { s with
        active := { s.active with state := .failed }, publication := .gap,
        failures := s.failures ++ [EpochFailure.mk epoch prior reason] }
      s.record "ACTIVE_FAILED" epoch (some prior) (some .failed) (some reason)
  else
    match named s.draining epoch, named s.candidate epoch with
    | some draining, _ =>
      let s := { s with
        draining := none, failures := s.failures ++ [EpochFailure.mk epoch draining.state reason] }
      s.record "DRAINING_FAILED" epoch (some draining.state) (some .failed) (some reason)
    | none, some candidate =>
      let s := { s with
        candidate := none, failures := s.failures ++ [EpochFailure.mk epoch candidate.state reason],
        publication := .live }
      s.record "CANDIDATE_FAILED" epoch (some candidate.state) (some .failed) (some reason)
    | none, none => (err s!"unknown or non-failable epoch: {epoch}", s)

/-- `self.fail_epoch(epoch, &reason)?; return Err(reason)`. -/
def failAndRefuse (s : HandoverController) (epoch reason : String) :
    Result Unit × HandoverController :=
  match s.failEpoch epoch reason with
  | (.error e, s) => (.error e, s)
  | (.ok (), s) => (err reason, s)

def observeBook (s : HandoverController) (epoch : String) (updateId : UInt64) (digest : String) :
    Result Unit × HandoverController :=
  match validateDigest digest with
  | .error e => (.error e, s)
  | .ok () =>
    match s.epoch epoch with
    | .error e => (.error e, s)
    | .ok status =>
      if status.state ≠ .live ∧ status.state ≠ .active ∧ status.state ≠ .draining then
        let was := status.state.debug
        (err s!"epoch {epoch} cannot publish book observations while {was}", s)
      else
        let advance :=
          match s.epochMut epoch fun status =>
            { status with finalUpdateId := some updateId, stateSha256 := some digest } with
          | .error e => (.error e, s)
          | .ok s => s.record "BOOK_ADVANCE" epoch none none none
        match status.finalUpdateId with
        | none => advance
        | some previousId =>
          if updateId < previousId then
            s.failAndRefuse epoch s!"book update ID regressed from {previousId} to {updateId}"
          else if updateId = previousId then
            if status.stateSha256 = some digest then (.ok (), s)
            else s.failAndRefuse epoch s!"same update ID {updateId} produced a different digest"
          else advance

def candidateConverged (s : HandoverController) : Bool :=
  match s.candidate with
  | none => false
  | some candidate =>
    candidate.state = .live ∧ s.active.state = .active ∧
      candidate.finalUpdateId = s.active.finalUpdateId ∧
      candidate.stateSha256 = s.active.stateSha256 ∧ candidate.finalUpdateId.isSome

def promoteCandidate (s : HandoverController) : Result Unit × HandoverController :=
  if s.publication ≠ .handover ∨ ¬ s.candidateConverged then
    (err "candidate cannot be promoted without exact convergence", s)
  else
    match s.candidate with
    | none => (err "candidate disappeared", s)
    | some candidate =>
      let oldEpoch := s.active.epoch
      let s := { s with
        candidate := none, draining := some { s.active with state := .draining },
        active := { candidate with state := .active }, publication := .live }
      s.record "PROMOTE_CANDIDATE" candidate.epoch (some .live) (some .active)
        (some s!"replaced {oldEpoch} after exact convergence")

/-- `close_draining`: the slot is emptied before the state of what it held is checked. -/
def closeDraining (s : HandoverController) : Result Unit × HandoverController :=
  match s.draining with
  | none => (err "no draining epoch", s)
  | some draining =>
    let s := { s with draining := none }
    if draining.state ≠ .draining then (err "retired epoch is not draining", s)
    else s.record "CLOSE_DRAINING" draining.epoch (some .draining) (some .closed) none

def rotationDeadlineExpired (s : HandoverController) (reason : String) :
    Result Unit × HandoverController :=
  if s.publication ≠ .handover then (err "rotation deadline applies only during handover", s)
  else s.failEpoch s.active.epoch reason

/-! ## Runs -/

inductive Call where
  | transitionEpoch (epoch : String) (target : EpochState)
  | markLive (epoch : String) (updateId : UInt64) (digest : String)
  | activateInitial
  | beginHandover (candidateEpoch : String)
  | observeBook (epoch : String) (updateId : UInt64) (digest : String)
  | promoteCandidate
  | closeDraining
  | failEpoch (epoch reason : String)
  | rotationDeadlineExpired (reason : String)
  deriving DecidableEq

def step (s : HandoverController) : Call → Result Unit × HandoverController
  | .transitionEpoch epoch target => s.transitionEpoch epoch target
  | .markLive epoch updateId digest => s.markLive epoch updateId digest
  | .activateInitial => s.activateInitial
  | .beginHandover candidateEpoch => s.beginHandover candidateEpoch
  | .observeBook epoch updateId digest => s.observeBook epoch updateId digest
  | .promoteCandidate => s.promoteCandidate
  | .closeDraining => s.closeDraining
  | .failEpoch epoch reason => s.failEpoch epoch reason
  | .rotationDeadlineExpired reason => s.rotationDeadlineExpired reason

end HandoverController

end LobReplay.Handover
