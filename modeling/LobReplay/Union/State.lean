/-
  The trade union arbiter, `TradeUnionState` of live_arbitration.rs. Every observed trade ID waits
  in an ordered buffer until every live lane has passed it; `drain` then emits the ascending prefix
  below the emission watermark.

  A call takes the state before it and returns its `Result` together with the state after it, also
  when the `Result` is an `Err`: the Rust methods mutate `self` up to the point where they return.

  `buffer`, `published` and `corrected` are `BTreeMap`s; the maps keyed by `CaptureLane` hold one
  optional value for each of the two lanes.
-/

import LobReplay.Identity.Log
import Mathlib.Logic.Function.Basic
import Std.Data.TreeMap

namespace LobReplay

open Std (TreeMap)

inductive LateCorrectionKind where
  | duplicate
  | unknown
  deriving DecidableEq

inductive TradeUnionDisposition where
  | publishable (batch : List (CaptureLane × CanonicalObservationV1))
  | buffered
  | late (observation : CanonicalObservationV1) (kind : LateCorrectionKind)
  | conflict (tradeId : UInt64) (firstDigest secondDigest : String)
  deriving DecidableEq

/-- `TradeUnionEntry`: the first-arrival observation and every lane's lineage. -/
structure TradeUnionEntry where
  observation : CanonicalObservationV1
  lineages : List (CaptureLane × String)
  deriving DecidableEq

/-- `entry.lineages.first().map(|(lane, _)| *lane).unwrap_or(Primary)`. -/
def TradeUnionEntry.lane (entry : TradeUnionEntry) : CaptureLane :=
  (entry.lineages.head?.map (·.1)).getD .primary

def publishedCap : Nat := 65536

structure TradeUnionState where
  buffer : TreeMap UInt64 TradeUnionEntry
  laneNext : CaptureLane → Option UInt64
  lastPublishedId : Option UInt64
  /-- IDs at or below it precede the canonical start and are never published. -/
  consumedFloor : Option UInt64
  /-- Retained identity of published trades, at most `publishedCap` of them. -/
  published : TreeMap UInt64 String
  corrected : TreeMap UInt64 String
  durable : Option TradeIdentityLog
  /-- Handover emission clamps: they bound emission only, never `laneNext`. -/
  emissionClamps : CaptureLane → Option UInt64

namespace TradeUnionState

def new : TradeUnionState where
  buffer := ∅
  laneNext := fun _ => none
  lastPublishedId := none
  consumedFloor := none
  published := ∅
  corrected := ∅
  durable := none
  emissionClamps := fun _ => none

def setIdentityLog (s : TradeUnionState) (log : TradeIdentityLog) : TradeUnionState :=
  { s with durable := some log }

def setEmissionClamp (s : TradeUnionState) (lane : CaptureLane) (bound : UInt64) :
    TradeUnionState :=
  { s with emissionClamps := Function.update s.emissionClamps lane (some bound) }

def clearEmissionClamp (s : TradeUnionState) (lane : CaptureLane) : TradeUnionState :=
  { s with emissionClamps := Function.update s.emissionClamps lane none }

/-- `register_lane`: `entry(lane).or_insert(0)`. -/
def registerLane (s : TradeUnionState) (lane : CaptureLane) : TradeUnionState :=
  { s with laneNext := Function.update s.laneNext lane (some ((s.laneNext lane).getD 0)) }

def excludeLane (s : TradeUnionState) (lane : CaptureLane) : TradeUnionState :=
  { s with laneNext := Function.update s.laneNext lane none }

/-- The bound one live lane puts on emission: its delivery cursor under its clamp. -/
def laneBound (s : TradeUnionState) (lane : CaptureLane) : Option UInt64 :=
  (s.laneNext lane).map fun next =>
    match s.emissionClamps lane with
    | some clamp => min next clamp
    | none => next

/-- `emission_watermark`: the least bound over the live lanes. -/
def emissionWatermark (s : TradeUnionState) : Option UInt64 :=
  CaptureLane.all.foldl (fun bound lane =>
    match s.laneBound lane with
    | none => bound
    | some laneBound =>
      match bound with
      | some current => some (min current laneBound)
      | none => some laneBound) none

/-- The two argument checks `fast_forward` and `observe` share. -/
def checkTrade (observation : CanonicalObservationV1) : Result UInt64 :=
  if observation.streamKind ≠ .trade then
    err "trade union received a non-trade observation"
  else if observation.firstSequence ≠ observation.finalSequence then
    err "trade observation carries a range instead of one exact trade ID"
  else .ok observation.finalSequence

/-- The delivery cursor of a lane after it delivered `id`. -/
def advanceLane (s : TradeUnionState) (lane : CaptureLane) (id : UInt64) : TradeUnionState :=
  let next := saturatingAdd id 1
  if (s.laneNext lane).all (fun current => decide (current < next)) then
    { s with laneNext := Function.update s.laneNext lane (some next) }
  else s

def fastForward (s : TradeUnionState) (lane : CaptureLane)
    (observation : CanonicalObservationV1) : Result Unit × TradeUnionState :=
  match checkTrade observation with
  | .error e => (.error e, s)
  | .ok id =>
    let s := s.advanceLane lane id
    if s.consumedFloor.all (fun floor => decide (floor < id)) then
      (.ok (), { s with consumedFloor := some id })
    else (.ok (), s)

/-- `while published.len() > PUBLISHED_CAP { remove the oldest }`: each round
    removes one entry, so it runs once for each entry above the cap. -/
def evictPublished (published : TreeMap UInt64 String) : TreeMap UInt64 String :=
  ((published.toList.take (published.size - publishedCap)).map (·.1)).foldl
    (fun published oldest => published.erase oldest) published

/-- Record one emitted entry: the published position, the retained identity and,
    when a log is attached, the durable identity. -/
def publishEntry (s : TradeUnionState) (id : UInt64) (entry : TradeUnionEntry) :
    Result Unit × TradeUnionState :=
  let digest := entry.observation.observationSha256
  let s := { s with lastPublishedId := some id, published := s.published.insert id digest }
  match s.durable with
  | none => (.ok (), { s with published := evictPublished s.published })
  | some log =>
    match log.insert id digest with
    | (.error e, log) => (.error e, { s with durable := some log })
    | (.ok (), log) =>
      (.ok (), { s with durable := some log, published := evictPublished s.published })

/-- The emission loop of `drain`. The loop only removes the entry it has just
    seen, so the successive `buffer.iter().next()` walk the ascending entries of
    the buffer it started with. -/
def drainLoop (watermark : UInt64) : List (UInt64 × TradeUnionEntry) → TradeUnionState →
    Result (List (CaptureLane × CanonicalObservationV1)) × TradeUnionState
  | [], s => (.ok [], s)
  | (id, entry) :: rest, s =>
    if watermark ≤ id then (.ok [], s)
    else
      let s := { s with buffer := s.buffer.erase id }
      if s.lastPublishedId.any (fun last => decide (id ≤ last)) then
        (err "trade union emission order regressed", s)
      else
        match s.publishEntry id entry with
        | (.error e, s) => (.error e, s)
        | (.ok (), s) =>
          match drainLoop watermark rest s with
          | (.error e, s) => (.error e, s)
          | (.ok batch, s) => (.ok ((entry.lane, entry.observation) :: batch), s)

/-- `lane_next.is_empty()`. -/
def noLiveLane (s : TradeUnionState) : Bool :=
  CaptureLane.all.all fun lane => (s.laneNext lane).isNone

/-- The bound `drain` emits below: the emission watermark, or `u64::MAX` when no
    live lane remains. -/
def drainBound (s : TradeUnionState) : Option UInt64 :=
  match s.emissionWatermark with
  | some watermark => some watermark
  | none => if s.noLiveLane then some maxU64 else none

def drain (s : TradeUnionState) : Result TradeUnionDisposition × TradeUnionState :=
  match s.drainBound with
  | none => (.ok .buffered, s)
  | some watermark =>
    match drainLoop watermark s.buffer.toList s with
    | (.error e, s) => (.error e, s)
    | (.ok batch, s) =>
      if batch.isEmpty then (.ok .buffered, s)
      else
        -- one `sync` for the batch; without a log there is nothing to commit
        (.ok (.publishable batch), { s with durable := s.durable.map TradeIdentityLog.sync })

def flush (s : TradeUnionState) : Result TradeUnionDisposition × TradeUnionState := s.drain

/-- The disposition of an ID whose identity is retained as `digest`. -/
def classifyRetained (digest : String) (observation : CanonicalObservationV1) :
    TradeUnionDisposition :=
  if digest = observation.observationSha256 then .late observation .duplicate
  else .conflict observation.finalSequence digest observation.observationSha256

/-- The identity the durable log holds for `id`, when a log is attached. -/
def durableDigest (s : TradeUnionState) (id : UInt64) : Result (Option String) :=
  match s.durable with
  | some log => log.lookup id
  | none => .ok none

/-- `observe` at or below the published position: classification against the
    corrected, the retained and the durable identity, in this order. -/
def observeLate (s : TradeUnionState) (id : UInt64) (observation : CanonicalObservationV1) :
    Result TradeUnionDisposition × TradeUnionState :=
  match s.corrected[id]? with
  | some digest => (.ok (classifyRetained digest observation), s)
  | none =>
    match s.durableDigest id with
    | .error e => (.error e, s)
    | .ok durableDigest =>
      match s.published[id]? with
      | some digest => (.ok (classifyRetained digest observation), s)
      | none =>
        match durableDigest with
        | some digest => (.ok (classifyRetained digest observation), s)
        | none =>
          (.ok (.late observation .unknown),
            { s with corrected := s.corrected.insert id observation.observationSha256 })

/-- `observe` above the published position: merge into the buffer, advance the
    lane, drain. -/
def observeFresh (s : TradeUnionState) (lane : CaptureLane) (id : UInt64)
    (observation : CanonicalObservationV1) : Result TradeUnionDisposition × TradeUnionState :=
  match s.buffer[id]? with
  | none =>
    let entry : TradeUnionEntry := ⟨observation, [(lane, observation.recordSha256)]⟩
    let s := { s with buffer := s.buffer.insert id entry }
    (s.advanceLane lane id).drain
  | some entry =>
    if entry.observation.observationSha256 ≠ observation.observationSha256 then
      (.ok (.conflict id entry.observation.observationSha256 observation.observationSha256), s)
    else
      let entry := { entry with lineages := entry.lineages ++ [(lane, observation.recordSha256)] }
      let s := { s with buffer := s.buffer.insert id entry }
      (s.advanceLane lane id).drain

def observe (s : TradeUnionState) (lane : CaptureLane) (observation : CanonicalObservationV1) :
    Result TradeUnionDisposition × TradeUnionState :=
  match checkTrade observation with
  | .error e => (.error e, s)
  | .ok id =>
    if s.consumedFloor.any (fun floor => decide (id ≤ floor)) then
      -- pre-canonical history: its evidence lives in the raw log
      (.ok .buffered, s)
    else if s.lastPublishedId.any (fun last => decide (id ≤ last)) then
      s.observeLate id observation
    else
      s.observeFresh lane id observation

end TradeUnionState

end LobReplay
