/-
  The trade replay of a chain of generations (`replay_trades` of complete_replay.rs). Each
  generation is cut at a first frame given by the proof that leads to it and at a last frame given
  by the proof that leaves it, and the selected records are checked one by one.

  The records of a generation are those `stream_records` visits: the reading of the files and the
  comparison with the transport come before and are left out. The sink is the caller's; without one
  it is a sink that takes everything.
-/

import LobReplay.Observation.Materialize
import LobReplay.Replay.Overlap
import Mathlib

namespace LobReplay.Replay

open Foundation Book Observation
open Raw (RawRecordEnvelopeV1 successorIndex)

/-! ## Generations -/

/-- The verified records of a trade segment, a `Vec`. -/
structure TradeSegment where
  segmentIndex : UInt64
  records : List RawRecordEnvelopeV1
  records_lt : records.length < 2 ^ 63

/-- `GenerationSource`, with the trade segments that were verified. -/
structure GenerationSource where
  index : UInt64
  sessionId : String
  trade : List TradeSegment

namespace GenerationSource

def records (g : GenerationSource) : List RawRecordEnvelopeV1 := g.trade.flatMap (·.records)

def visits (g : GenerationSource) : List (UInt64 × RawRecordEnvelopeV1) :=
  g.trade.flatMap fun segment => segment.records.map fun record => (segment.segmentIndex, record)

theorem visits_records (g : GenerationSource) : g.visits.map (·.2) = g.records := by
  rw [visits, records, List.map_flatMap]
  congr 1
  funext segment
  rw [List.map_map]
  exact List.map_id _

end GenerationSource

/-! ## Reports -/

structure TradeGenerationReplayV1 where
  generationIndex : UInt64
  sessionId : String
  firstSelectedFrameIndex : Option UInt64
  lastSelectedFrameIndex : Option UInt64
  selectedRawRecords : Nat
  selectedMarketRecords : Nat
  selectedControlRecords : Nat
  lastTradeId : UInt64
  deriving DecidableEq

structure CompleteTradeReplayV1 where
  totalRawRecords : Nat
  totalControlRecords : Nat
  selectedRawRecords : Nat
  selectedMarketRecords : Nat
  selectedControlRecords : Nat
  overlapRecordsExcluded : Nat
  firstTradeId : UInt64
  lastTradeId : UInt64
  tradeIdsStrictlyIncreasing : Bool
  generations : List TradeGenerationReplayV1
  deriving DecidableEq

/-! ## The replay -/

def isServerShutdown (value : Value) : Result Bool :=
  if value.strField "e" ≠ some "serverShutdown" then .ok false
  else do
    let _ ← okOr (value.u64Field "E") "serverShutdown.E must be a non-negative integer"
    .ok true

def validatedTradeId (codec : BookCodec) (value : Value) (symbol : String) : Result UInt64 :=
  (tradeObservationDigestValue codec value symbol).map (·.1)

/-- `serde_json::from_slice(&record.frame.payload)`. -/
def payloadOf (codec : BookCodec) (record : RawRecordEnvelopeV1) : Result Value :=
  match codec.fromSlice record.frame.payload with
  | .error e => err s!"invalid trade payload JSON: {e}"
  | .ok value => .ok value

/-- The variables of the replay: those of the run, those of the generation, and what the sink
    holds. -/
structure Progress (σ : Type) where
  totalRaw : Nat := 0
  totalControls : Nat := 0
  selectedRaw : Nat := 0
  selectedMarket : Nat := 0
  selectedControls : Nat := 0
  firstTradeId : Option UInt64 := none
  previousTradeId : Option UInt64 := none
  checkpoints : List TradeGenerationReplayV1 := []
  firstSelected : Option UInt64 := none
  lastSelected : Option UInt64 := none
  lastSelectedSha : Option String := none
  generationRaw : Nat := 0
  generationMarket : Nat := 0
  generationControls : Nat := 0
  sink : σ

/-- The variables of a generation at its beginning. -/
def Progress.enter {σ : Type} (s : Progress σ) : Progress σ :=
  { s with
    firstSelected := none
    lastSelected := none
    lastSelectedSha := none
    generationRaw := 0
    generationMarket := 0
    generationControls := 0 }

/-- `frame < start || end.is_some_and(|last| frame > last)`. -/
def outside (start : UInt64) (stop : Option UInt64) (frame : UInt64) : Prop :=
  frame < start ∨ (stop.any fun last => decide (last < frame)) = true

instance (start : UInt64) (stop : Option UInt64) (frame : UInt64) :
    Decidable (outside start stop frame) := inferInstanceAs (Decidable (_ ∨ _))

section

variable {σ : Type} (codec : BookCodec) (sink : σ → UInt64 → UInt64 → RawRecordEnvelopeV1 → Result σ)

def select (generationIndex segmentIndex : UInt64) (value : Value) (control : Bool)
    (record : RawRecordEnvelopeV1) (s : Progress σ) : Result (Progress σ) := do
  let taken ← sink s.sink generationIndex segmentIndex record
  let s := { s with
    firstSelected := s.firstSelected.or (some record.frame.frameIndex)
    lastSelected := some record.frame.frameIndex
    lastSelectedSha := some record.recordSha256
    sink := taken
    selectedRaw := s.selectedRaw + 1
    generationRaw := s.generationRaw + 1 }
  if control then
    .ok { s with
      selectedControls := s.selectedControls + 1
      generationControls := s.generationControls + 1 }
  else do
    let tradeId ← validatedTradeId codec value record.frame.symbol
    if (s.previousTradeId.any fun old => decide (tradeId ≤ old)) = true then
      err "selected trade ID duplicated or regressed across handover"
    else
      .ok { s with
        firstTradeId := s.firstTradeId.or (some tradeId)
        previousTradeId := some tradeId
        selectedMarket := s.selectedMarket + 1
        generationMarket := s.generationMarket + 1 }

def visit (generationIndex start : UInt64) (stop : Option UInt64) (s : Progress σ)
    (x : UInt64 × RawRecordEnvelopeV1) : Result (Progress σ) := do
  let value ← payloadOf codec x.2
  let control ← isServerShutdown value
  let s := { s with
    totalRaw := s.totalRaw + 1
    totalControls := s.totalControls + if control then 1 else 0 }
  if outside start stop x.2.frame.frameIndex then .ok s
  else select codec sink generationIndex x.1 value control x.2 s

def validSelectedTradeRange (start : UInt64) (stop first last : Option UInt64) : Bool :=
  if first.isSome ≠ last.isSome ∨ (first.any fun value => decide (value ≠ start)) = true then false
  else
    match stop, last with
    | some expected, some value => value = expected
    | some expected, none => expected < start
    | none, _ => true

/-- The first frame of a generation. -/
def startOf (proofs : List TradeOverlapEvidenceV1) : Nat → Result UInt64
  | 0 => .ok 0
  | position + 1 =>
    match proofs[position]? with
    | none => .error .abort
    | some proof => successorIndex proof.successorNextShared.frameIndex "trade successor boundary overflow"

/-- The replay did not arrive where the proof of the handover says. -/
def missesBoundary (proof : TradeOverlapEvidenceV1) (s : Progress σ) : Prop :=
  ¬ (s.lastSelected = none ∨ s.lastSelectedSha = some proof.predecessorNextShared.recordSha256) ∨
    s.previousTradeId ≠ some proof.nextSharedTradeId

instance (proof : TradeOverlapEvidenceV1) (s : Progress σ) : Decidable (missesBoundary proof s) :=
  inferInstanceAs (Decidable (¬ _ ∨ _))

def replayGeneration (proofs : List TradeOverlapEvidenceV1) (position : Nat) (g : GenerationSource)
    (s : Progress σ) : Result (Progress σ) := do
  let start ← startOf proofs position
  let stop := proofs[position]?.map fun proof => proof.predecessorNextShared.frameIndex
  let s ← g.visits.foldlM (visit codec sink g.index start stop) s.enter
  if validSelectedTradeRange start stop s.firstSelected s.lastSelected = false then
    err "trade selection boundary frame is absent"
  else if ∃ proof ∈ proofs[position]?, missesBoundary proof s then
    err "trade replay did not arrive at the proven shared event"
  else do
    let lastTradeId ← okOr s.previousTradeId "trade replay contains no market event"
    .ok { s with checkpoints := s.checkpoints ++ [{
      generationIndex := g.index
      sessionId := g.sessionId
      firstSelectedFrameIndex := s.firstSelected
      lastSelectedFrameIndex := s.lastSelected
      selectedRawRecords := s.generationRaw
      selectedMarketRecords := s.generationMarket
      selectedControlRecords := s.generationControls
      lastTradeId }] }

def replayLoop (proofs : List TradeOverlapEvidenceV1) :
    Nat → List GenerationSource → Progress σ → Result (Progress σ)
  | _, [], s => .ok s
  | position, g :: rest, s => do
    let s ← replayGeneration codec sink proofs position g s
    replayLoop proofs (position + 1) rest s

/-- `total_raw.checked_sub(selected_raw)` with its error. -/
def excluded (total selected : Nat) : Result Nat :=
  if total < selected then err "trade selected count exceeds total" else .ok (total - selected)

def replayTrades (generations : List GenerationSource) (proofs : List TradeOverlapEvidenceV1)
    (taken : σ) : Result (CompleteTradeReplayV1 × σ) := do
  let s ← replayLoop codec sink proofs 0 generations { sink := taken }
  let overlapRecordsExcluded ← excluded s.totalRaw s.selectedRaw
  let firstTradeId ← okOr s.firstTradeId "trade replay contains no market event"
  let lastTradeId ← okOr s.previousTradeId "trade replay contains no market event"
  .ok ({
    totalRawRecords := s.totalRaw
    totalControlRecords := s.totalControls
    selectedRawRecords := s.selectedRaw
    selectedMarketRecords := s.selectedMarket
    selectedControlRecords := s.selectedControls
    overlapRecordsExcluded
    firstTradeId
    lastTradeId
    tradeIdsStrictlyIncreasing := true
    generations := s.checkpoints }, s.sink)

end

end LobReplay.Replay
