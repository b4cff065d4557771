/-
  The main thread of bin/segmented_capture.rs behind the start of its producers and writers:
  `StreamHealthSnapshot::load`, `append_telemetry`, the loop that watches for a reason to stop, and
  the end of the capture up to its last telemetry record.

  What the main thread finds of its own (a startup failure, a stop request) is an `Input`. The
  events and the manifest it writes are left out.
-/

import LobReplay.Segmented.Runtime

namespace LobReplay.Segmented

open Foundation Raw
open Thread

/-! ## Telemetry -/

/-- The load of a gauge: it is exposed while it stands above its maximum. -/
def observeGauge (k : BoundaryStreamKind) (g : Gauge) : Thread Nat := exchange fun s =>
  let health := (s.stream k).health
  (health.gauge g, s.onWatch k g fun watch =>
    { watch with exposed := decide (health.maximum g < health.gauge g) })

/-- The load of the maximum of a gauge: a snapshot is torn if the gauge is exposed still. -/
def observeMaximum (k : BoundaryStreamKind) (g : Gauge) : Thread Nat := exchange fun s =>
  ((s.stream k).health.maximum g, s.onWatch k g fun watch =>
    { watch with torn := watch.torn || watch.exposed })

/-- `StreamHealthSnapshot::load`. -/
def loadSnapshot (k : BoundaryStreamKind) : Thread StreamHealthSnapshot := do
  let lastDurableMonoNs ← loadHealth k (·.lastDurableMonoNs)
  let durable ← loadHealth k (·.durable)
  let lastMarketMessageMonoNs ← loadHealth k (·.lastMarketMessageMonoNs)
  let written ← loadHealth k (·.written)
  let lastSocketActivityMonoNs ← loadHealth k (·.lastSocketActivityMonoNs)
  let received ← loadHealth k (·.received)
  let segmentIndex ← loadHealth k (·.segmentIndex)
  let queueRecords ← observeGauge k .queueRecords
  let queueBytes ← observeGauge k .queueBytes
  let maxQueueRecords ← observeMaximum k .queueRecords
  let maxQueueBytes ← observeMaximum k .queueBytes
  let maxQueueAgeNs ← loadHealth k (·.maxQueueAgeNs)
  let lastSyncDurationNs ← observeGauge k .syncDuration
  let maxSyncDurationNs ← observeMaximum k .syncDuration
  let snapshot : StreamHealthSnapshot :=
    { received, written, durable, segmentIndex, lastSocketActivityMonoNs, lastMarketMessageMonoNs
      lastDurableMonoNs, queueRecords, queueBytes, maxQueueRecords, maxQueueBytes, maxQueueAgeNs
      lastSyncDurationNs, maxSyncDurationNs }
  store fun s => s.onStream k fun state => { state with snapshots := state.snapshots ++ [snapshot] }
  pure snapshot

def appendTelemetry (recordIndex : Nat) (clock : ClockMetadata) : Thread TelemetryRecord := do
  let depth ← loadSnapshot .depth
  let trade ← loadSnapshot .trade
  let wallNs ← unixNs
  let monoNs ← elapsedNs
  let record : TelemetryRecord :=
    { schema := "CaptureTelemetryV1", recordIndex, wallNs, monoNs, clock, depth, trade }
  store fun s => { s with telemetry := s.telemetry ++ [record] }
  ofExcept (validateTelemetryRecord record)
  perform "sync capture telemetry"
  pure record

/-! ## The main thread -/

def telemetryPeriod : Nat := 5 * 1000000000

/-- What the main loop carries from turn to turn. -/
structure SupervisorLocals where
  clock : ClockMetadata
  telemetryIndex : Nat
  nextTelemetry : Nat
  deriving DecidableEq

def finding : Thread (Option SupervisorStopCause) := ask fun
  | .finding cause => some cause
  | _ => none

/-- The connections are awaited and the snapshot is fetched; a failure stops the capture. -/
def awaitStartup : Thread Unit := do
  match ← finding with
  | none => pure ()
  | some cause =>
    store fun s => { s with supervisorStop := some cause }
    store fun s => { s with stop := true }

def probeClock (v : SupervisorLocals) : Thread (Except String ClockMetadata) := ask fun
  | .clock result => some result
  | .access => some (.ok v.clock)
  | _ => none

def clockFailure (error : String) : SupervisorStopCause where
  source := "LOCAL_GENERATION_SUPERVISOR"
  reason := s!"trusted Windows clock probe failed: {error}"
  campaignFailureRecordSha256 := none

def telemetryTurn (v : SupervisorLocals) (turn : Nat) : Thread SupervisorLocals := do
  if v.nextTelemetry ≤ turn then
    let _ ← appendTelemetry v.telemetryIndex v.clock
    pure { v with telemetryIndex := v.telemetryIndex + 1, nextTelemetry := turn + telemetryPeriod }
  else pure v

/-- One turn of the main loop before its deadline; the answer is `none` where the loop is left. -/
def watchTurn (v : SupervisorLocals) : Thread (Option SupervisorLocals) := do
  if ← load (·.stop) then pure none
  else
    let turn ← now
    match ← finding with
    | some cause =>
      store fun s => { s with supervisorStop := some cause }
      pure none
    | none =>
      match ← probeClock v with
      | .error error =>
        store fun s => { s with supervisorStop := some (clockFailure error) }
        pure none
      | .ok clock =>
        store fun s => { s with clockMetadata := clock }
        some <$> telemetryTurn { v with clock } turn

/-- `handle.join()` of every producer and every writer. -/
def joinThreads : Thread Unit := .atomic fun _ s =>
  if ∀ k ∈ [BoundaryStreamKind.depth, .trade],
      (s.stream k).producerResult.isSome ∧ (s.stream k).writerResult.isSome then some ((), s)
  else none

/-- The end of the capture: a failure that has no cause yet becomes one, the threads are stopped
    and joined, and the last record is appended. -/
def finishCapture (v : SupervisorLocals) : Thread Unit := do
  match ← finding with
  | none => pure ()
  | some cause =>
    store fun s => { s with supervisorStop := s.supervisorStop.or (some cause) }
  store fun s => { s with stop := true }
  joinThreads
  let _ ← appendTelemetry v.telemetryIndex v.clock
  pure ()

/-- Where the main thread stands between two parts of its program. -/
inductive SupervisorStage where
  | start (v : SupervisorLocals)
  | watching (v : SupervisorLocals)
  | finishing (v : SupervisorLocals)

/-- One part of the program of the main thread, and the stage behind it. A turn that finds the
    deadline passed goes on to the end. -/
def supervisorLoop (deadline : Nat) : SupervisorStage → Thread (Option SupervisorStage)
  | .start v => do
    awaitStartup
    pure (some (.watching v))
  | .watching v => do
    let ns ← now
    if deadline ≤ ns then pure (some (.finishing v))
    else
      let next ← watchTurn v
      pure (some ((next.map .watching).getD (.finishing v)))
  | .finishing v => do
    finishCapture v
    pure none

end LobReplay.Segmented
