/-
  The depth side of the live arbiter (bin/live_arbitration.rs): `publish_pending_depth`, the proven
  switch to the sibling lane and `gap_and_bootstrap_depth`, over the canonical position the arbiter
  keeps in memory and the journal it appends to; and the recovery of the position from the journal.

  What a call takes from the files is part of the call: the pending observations, what
  `bootstrap_depth`, `stream_fully_sealed` and the snapshot return, and how many frames its time
  quota lasts for. An error ends the process, and the next one recovers from the journal. The
  arbiter's totals are left out.
-/

import LobReplay.Foundation.Machine
import LobReplay.Journal.Event

namespace LobReplay.Arbitration

open Foundation

/-! ## The frontier -/

inductive DepthFrontierDisposition where
  | contiguous
  | straddle (expected first finalSequence : UInt64)
  | covered (expected finalSequence : UInt64)
  | missing (expected first : UInt64)
  deriving DecidableEq

def classifyDepthFrontier (expected : Option UInt64) (first finalSequence : UInt64) :
    Result DepthFrontierDisposition :=
  if first = 0 ∨ finalSequence < first then
    err "depth observation carries an invalid update-ID range"
  else
    match expected with
    | none => .ok (.straddle 0 first finalSequence)
    | some expected =>
      if first = expected then .ok .contiguous
      else if expected < first then .ok (.missing expected first)
      else if expected ≤ finalSequence then .ok (.straddle expected first finalSequence)
      else .ok (.covered expected finalSequence)

/-! ## Journal records -/

def lanePayload : CaptureLane → Value
  | .primary => .string "PRIMARY"
  | .shadow => .string "SHADOW"

/-- The `DEPTH_OBSERVATION` record. -/
def depthObservation (lane : CaptureLane) (observation : CanonicalObservationV1) : Value :=
  .object [("event", .string "DEPTH_OBSERVATION"),
    ("final_sequence", .nat observation.finalSequence),
    ("first_sequence", .nat observation.firstSequence), ("lane", lanePayload lane),
    ("observation_sha256", .string observation.observationSha256),
    ("record_sha256", .string observation.recordSha256)]

/-- The `GAP` record. -/
def gapRecord (lane : CaptureLane) (canonicalLast : UInt64) : Value :=
  .object [("canonical_last_sequence", .nat canonicalLast), ("event", .string "GAP"),
    ("reason", .string "unprovable_continuation"), ("renewed_lane", lanePayload lane),
    ("stream_kind", .string "DEPTH")]

/-- The `DEPTH_REBOOTSTRAP` record. -/
def depthRebootstrap (lane : CaptureLane) (generation snapshotName : String)
    (snapshotLast : UInt64) : Value :=
  .object [("event", .string "DEPTH_REBOOTSTRAP"), ("generation", .string generation),
    ("lane", lanePayload lane), ("snapshot_last_update_id", .nat snapshotLast),
    ("snapshot_record_sha256", .string snapshotName)]

/-- The `DEPTH_SWITCH_PROVEN` record. -/
def depthSwitchProven (source target : CaptureLane) (boundary : Option UInt64) : Value :=
  .object [("boundary_final_sequence", (boundary.map .nat).getD .null),
    ("event", .string "DEPTH_SWITCH_PROVEN"), ("from_lane", lanePayload source),
    ("to_lane", lanePayload target)]

/-! ## The machine -/

structure CanonicalDepthPosition where
  finalSequence : Option UInt64
  digest : Option String
  gapFloor : Option UInt64
  deriving DecidableEq

/-- The arbiter's depth state. `faults` scripts the journal: an error at the head fails the
    next append. -/
structure DepthMachine where
  journal : List Value
  faults : List (Option String)
  position : CanonicalDepthPosition
  servingLane : CaptureLane
  halted : Bool

namespace DepthMachine

/-- `journal.append`. -/
def append (machine : DepthMachine) (payload : Value) : Result Unit × DepthMachine :=
  match machine.faults with
  | some e :: faults => (err e, { machine with faults })
  | none :: faults => (.ok (), { machine with faults, journal := machine.journal ++ [payload] })
  | [] => (.ok (), { machine with journal := machine.journal ++ [payload] })

/-- `canonical_position.final_sequence.map(|sequence| sequence.saturating_add(1))`. -/
def expected (machine : DepthMachine) : Option UInt64 :=
  machine.position.finalSequence.map (saturatingAdd · 1)

/-- The position behind a published observation. -/
def moveTo (machine : DepthMachine) (observation : CanonicalObservationV1) : DepthMachine :=
  { machine with
    position := { machine.position with
      finalSequence := some observation.finalSequence
      digest := some observation.observationSha256 } }

def depthSwitchRecordBudget : Nat := 128

inductive DepthPublishOutcome where
  | published (count : Nat)
  | gapDetected (expected first : UInt64)
  deriving DecidableEq

/-- The loop of `publish_pending_depth`, for the frames its quota lasts for. -/
def publishLoop (lane : CaptureLane) : Nat → List CanonicalObservationV1 → Nat → DepthMachine →
    Result DepthPublishOutcome × DepthMachine
  | quota + 1, front :: pending, published, machine =>
    -- after a typed gap every frame at or below the boundary is dropped
    if machine.position.gapFloor.any (fun floor => decide (front.firstSequence ≤ floor)) then
      publishLoop lane quota pending published machine
    else
      match classifyDepthFrontier machine.expected front.firstSequence front.finalSequence with
      | .error e => (.error e, machine)
      | .ok .contiguous | .ok (.straddle _ _ _) =>
        match machine.append (depthObservation lane front) with
        | (.error e, machine) => (.error e, machine)
        | (.ok (), machine) => publishLoop lane quota pending (published + 1) (machine.moveTo front)
      | .ok (.covered _ _) => publishLoop lane quota pending published machine
      | .ok (.missing expected first) =>
        (.ok (.gapDetected expected first), machine)
  | _, _, published, machine => (.ok (.published published), machine)

/-- `publish_pending_depth`. The time quota lasts for at least one frame. -/
def publishPendingDepth (machine : DepthMachine) (lane : CaptureLane) (quota : Nat)
    (pending : List CanonicalObservationV1) : Result DepthPublishOutcome × DepthMachine :=
  publishLoop lane (max 1 (min quota depthSwitchRecordBudget)) pending 0 machine

/-! ### The switch -/

/-- The sibling lane: its retained witness, its pending observations, and what the replay of its
    history (`replay_sibling_slice`) returns. -/
structure Sibling where
  witness : Option CanonicalObservationV1
  pending : List CanonicalObservationV1
  replay : Result (Option (List CanonicalObservationV1))

/-- `evaluate_depth_switch_with_fallback`. -/
def evaluateDepthSwitch (position : CanonicalDepthPosition) (sibling : Sibling) :
    Result (Option (List CanonicalObservationV1)) := do
  let canonicalFinal ← okOr position.finalSequence "canonical depth position is uninitialized"
  let canonicalDigest ← okOr position.digest "canonical depth digest is unavailable"
  let converged := (sibling.witness.toList ++ sibling.pending).any fun observation =>
    decide (observation.finalSequence = canonicalFinal ∧
      observation.observationSha256 = canonicalDigest)
  if converged then
    let tail := (sibling.pending.filter fun observation =>
      decide (canonicalFinal < observation.finalSequence)).take depthSwitchRecordBudget
    .ok (if tail = [] then none else some tail)
  else sibling.replay

/-- The loop over the tail of a switch; the answer is whether the tail bridges. -/
def bridge (target : CaptureLane) :
    List CanonicalObservationV1 → DepthMachine → Result Bool × DepthMachine
  | [], machine => (.ok true, machine)
  | observation :: tail, machine =>
    match classifyDepthFrontier machine.expected observation.firstSequence
        observation.finalSequence with
    | .error e => (.error e, machine)
    | .ok .contiguous | .ok (.straddle _ _ _) =>
      match machine.append (depthObservation target observation) with
      | (.error e, machine) => (.error e, machine)
      | (.ok (), machine) => bridge target tail (machine.moveTo observation)
    | .ok (.covered _ _) => bridge target tail machine
    | .ok (.missing _ _) => (.ok false, machine)

def otherLane : CaptureLane → CaptureLane
  | .primary => .shadow
  | .shadow => .primary

def switchDepth (machine : DepthMachine) (sibling : Sibling) : Result Bool × DepthMachine :=
  match evaluateDepthSwitch machine.position sibling with
  | .error e => (.error e, machine)
  | .ok none => (.ok false, machine)
  | .ok (some tail) =>
    let target := otherLane machine.servingLane
    match bridge target tail machine with
    | (.error e, machine) => (.error e, machine)
    | (.ok false, machine) => (.ok false, machine)
    | (.ok true, machine) =>
      match machine.append
          (depthSwitchProven machine.servingLane target machine.position.finalSequence) with
      | (.error e, machine) => (.error e, machine)
      | (.ok (), machine) => (.ok true, { machine with servingLane := target })

/-! ### The gap -/

def trimPendingDepthFloor (pending : List CanonicalObservationV1) (floor : UInt64) :
    List CanonicalObservationV1 :=
  pending.dropWhile fun observation => decide (observation.firstSequence ≤ floor)

/-- What `gap_and_bootstrap_depth` takes from the renewed generation. -/
structure Renewal where
  lane : CaptureLane
  /-- The pending observations `bootstrap_depth` leaves. -/
  bootstrapped : Result (List CanonicalObservationV1)
  /-- `stream_fully_sealed`. -/
  fullySealed : Result Bool
  /-- `snapshot_last_update_id`. -/
  snapshotLast : Result UInt64
  generation : String
  snapshotName : String
  quota : Nat

/-- The cursor a gap declares. -/
def canonicalLast (machine : DepthMachine) : UInt64 := machine.position.finalSequence.getD 0

/-- Whether the boundary is typed: not when the renewed stream is final and holds no frame beyond
    the cursor. -/
def Renewal.boundary (renewal : Renewal) (floor : UInt64) (pending : List CanonicalObservationV1) :
    Result Bool :=
  if (trimPendingDepthFloor pending floor).any fun observation =>
      decide (floor < observation.firstSequence) then .ok true
  else renewal.fullySealed.map (!·)

/-- `gap_and_bootstrap_depth` behind the journaled boundary. -/
def rebootstrap (machine : DepthMachine) (renewal : Renewal) (floor : UInt64)
    (pending : List CanonicalObservationV1) : Result Unit × DepthMachine :=
  match renewal.snapshotLast with
  | .error e => (.error e, machine)
  | .ok snapshotLast =>
    match machine.append
        (depthRebootstrap renewal.lane renewal.generation renewal.snapshotName snapshotLast) with
    | (.error e, machine) => (.error e, machine)
    | (.ok (), machine) =>
      match publishPendingDepth
          { machine with position := ⟨none, none, some floor⟩ } renewal.lane renewal.quota
          (trimPendingDepthFloor pending floor) with
      | (.error e, machine) => (.error e, machine)
      | (.ok (.published _), machine) => (.ok (), machine)
      | (.ok (.gapDetected expected first), machine) =>
        (err s!"post-bootstrap publication cannot continue: expected update {expected}, lane held {first}",
          machine)

def gapAndBootstrapDepth (machine : DepthMachine) (renewal : Renewal) :
    Result Unit × DepthMachine :=
  let canonicalLast := machine.canonicalLast
  match renewal.bootstrapped with
  | .error e => (.error e, machine)
  | .ok pending =>
    match renewal.boundary canonicalLast pending with
    | .error e => (.error e, machine)
    | .ok false => (.ok (), machine)
    | .ok true =>
      match machine.append (gapRecord renewal.lane canonicalLast) with
      | (.error e, machine) => (.error e, machine)
      | (.ok (), machine) => rebootstrap machine renewal canonicalLast pending

/-! ### Start and recovery -/

/-- A fresh start: the position adopts the head of the primary lane's prefix. -/
def fresh (head : Option CanonicalObservationV1) (faults : List (Option String)) : DepthMachine where
  journal := []
  faults := faults
  position := ⟨head.map (·.finalSequence), head.map (·.observationSha256), none⟩
  servingLane := .primary
  halted := false

def recoverRecord (recovered : CanonicalDepthPosition × CaptureLane) (payload : Value) :
    CanonicalDepthPosition × CaptureLane :=
  match payload.strField "event" with
  | some "DEPTH_OBSERVATION" =>
    ({ recovered.1 with
        finalSequence := payload.u64Field "final_sequence"
        digest := payload.strField "observation_sha256" }, recovered.2)
  | some "GAP" => (⟨none, none, payload.u64Field "canonical_last_sequence"⟩, recovered.2)
  | some "DEPTH_SWITCH_PROVEN" =>
    (recovered.1, if payload.strField "to_lane" = some "SHADOW" then .shadow else .primary)
  | some "DEPTH_REBOOTSTRAP" =>
    (recovered.1, if payload.strField "lane" = some "SHADOW" then .shadow else .primary)
  | _ => recovered

def recover (journal : List Value) : CanonicalDepthPosition × CaptureLane :=
  journal.foldl recoverRecord (⟨none, none, none⟩, .primary)

/-- A record of the arbiter that is not of its depth side: its start, trades, status. -/
structure OtherRecord where
  payload : Value
  not_depth : payload.strField "event" ≠ some "DEPTH_OBSERVATION"
  not_gap : payload.strField "event" ≠ some "GAP"

/-- A call of the arbiter's loop, or the start of a new process on the same journal. -/
inductive Call where
  | publish (lane : CaptureLane) (quota : Nat) (pending : List CanonicalObservationV1)
  | switch (sibling : Sibling)
  | gap (renewal : Renewal)
  | other (record : OtherRecord)
  | resume

/-- The state behind a call: an error ends the process. -/
def settle {α : Type} (result : Result α × DepthMachine) : Bool × DepthMachine :=
  (result.1.isOk, { result.2 with halted := !result.1.isOk })

/-- One call. A process that ended makes no further call. -/
def step (machine : DepthMachine) : Call → Bool × DepthMachine
  | .resume =>
    let recovered := recover machine.journal
    (true, { machine with position := recovered.1, servingLane := recovered.2, halted := false })
  | .publish lane quota pending =>
    if machine.halted then (false, machine)
    else settle (machine.publishPendingDepth lane quota pending)
  | .switch sibling => if machine.halted then (false, machine) else settle (machine.switchDepth sibling)
  | .gap renewal =>
    if machine.halted then (false, machine) else settle (machine.gapAndBootstrapDepth renewal)
  | .other record =>
    if machine.halted then (false, machine) else settle (machine.append record.payload)

end DepthMachine

end LobReplay.Arbitration
