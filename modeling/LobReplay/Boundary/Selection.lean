/-
  The canonical splice of two capture epochs, `select_canonical` of boundary.rs. A committed
  boundary names the last frame selected from the predecessor, the successor's own observation of it
  and the first frame selected from the successor.

  SHA-256 is a parameter; the text it is applied to is written out.
-/

import LobReplay.Json

namespace LobReplay.Boundary

open Foundation

/-! ## Data -/

structure RawPositionV1 where
  connectionEpoch : String
  stream : String
  frameIndex : UInt64
  recordSha256 : String
  deriving DecidableEq

structure BoundaryDurabilityV1 where
  durableThroughFrameIndex : UInt64
  durableThroughOffset : UInt64
  lastRecordSha256 : String
  deriving DecidableEq

structure HandoverBoundaryV1 where
  schema : String
  boundaryId : String
  environment : String
  symbol : String
  streamKind : BoundaryStreamKind
  stream : String
  predecessorEpoch : String
  successorEpoch : String
  boundarySequence : UInt64
  boundarySha256 : String
  predecessorLastSelected : RawPositionV1
  successorBoundaryObservation : RawPositionV1
  successorFirstSelected : RawPositionV1
  predecessorDurability : BoundaryDurabilityV1
  successorDurability : BoundaryDurabilityV1
  specRevision : String
  selectorVersion : String
  deriving DecidableEq

structure SelectedObservationV1 where
  connectionEpoch : String
  frameIndex : UInt64
  firstSequence : UInt64
  finalSequence : UInt64
  recordSha256 : String
  deriving DecidableEq

structure CanonicalSelectionV1 where
  schema : String
  boundaryId : String
  symbol : String
  streamKind : BoundaryStreamKind
  boundarySequence : UInt64
  selected : List SelectedObservationV1
  excludedOverlapRecords : Nat
  excludedDuplicateRecords : Nat
  firstSequence : UInt64
  finalSequence : UInt64
  selectionSha256 : String
  deriving DecidableEq

/-! ## Validation -/

def validateDigest (digest : String) : Result Unit :=
  if isLowerHex64 digest then .ok ()
  else err "digest must be 64 lowercase hexadecimal characters"

/-- `HandoverBoundaryV1::validate`. -/
def HandoverBoundaryV1.validate (boundary : HandoverBoundaryV1) : Result Unit :=
  if boundary.schema ≠ "HandoverBoundaryV1" ∨ isBlank boundary.boundaryId ∨
      boundary.environment ≠ "production-public-market-data" ∨
      (boundary.symbol ≠ "BTCUSDT" ∧ boundary.symbol ≠ "ETHUSDT") ∨
      isBlank boundary.predecessorEpoch ∨ isBlank boundary.successorEpoch ∨
      boundary.predecessorEpoch = boundary.successorEpoch ∨ isBlank boundary.specRevision ∨
      isBlank boundary.selectorVersion then
    err "invalid handover boundary identity/scope"
  else do
    validateDigest boundary.boundarySha256
    validateDigest boundary.predecessorLastSelected.recordSha256
    validateDigest boundary.successorBoundaryObservation.recordSha256
    validateDigest boundary.successorFirstSelected.recordSha256
    validateDigest boundary.predecessorDurability.lastRecordSha256
    validateDigest boundary.successorDurability.lastRecordSha256
    if boundary.predecessorLastSelected.connectionEpoch ≠ boundary.predecessorEpoch ∨
        boundary.successorBoundaryObservation.connectionEpoch ≠ boundary.successorEpoch ∨
        boundary.successorFirstSelected.connectionEpoch ≠ boundary.successorEpoch ∨
        boundary.predecessorLastSelected.stream ≠ boundary.stream ∨
        boundary.successorBoundaryObservation.stream ≠ boundary.stream ∨
        boundary.successorFirstSelected.stream ≠ boundary.stream then
      err "raw position does not match boundary epoch/stream"
    else if boundary.successorFirstSelected.frameIndex
        ≤ boundary.successorBoundaryObservation.frameIndex then
      err "successor first-selected position must follow overlap boundary"
    else if boundary.predecessorDurability.durableThroughFrameIndex
          < boundary.predecessorLastSelected.frameIndex ∨
        boundary.successorDurability.durableThroughFrameIndex
          < boundary.successorFirstSelected.frameIndex then
      err "boundary references a raw position beyond durable watermark"
    else .ok ()

def checkFrame (previous : Option UInt64) (frameIndex : UInt64) : Result Unit :=
  match previous with
  | none => .ok ()
  | some previous => do
    let next ← increment previous.toNat
    if frameIndex.toNat ≠ next then err "raw frame index gap/reorder in canonical source"
    else .ok ()

/-- The loop of `validate_observations`; `previous` is the frame index before. -/
def validateLoop (boundary : HandoverBoundaryV1) (expectedEpoch : String) :
    List CanonicalObservationV1 → Option UInt64 → Result Unit
  | [], _ => .ok ()
  | observation :: rest, previous =>
    if observation.symbol ≠ boundary.symbol ∨ observation.streamKind ≠ boundary.streamKind ∨
        observation.stream ≠ boundary.stream ∨ observation.connectionEpoch ≠ expectedEpoch ∨
        observation.finalSequence < observation.firstSequence then
      err "observation identity/range does not match boundary"
    else do
      validateDigest observation.recordSha256
      validateDigest observation.observationSha256
      checkFrame previous observation.frameIndex
      validateLoop boundary expectedEpoch rest (some observation.frameIndex)

def validateObservations (boundary : HandoverBoundaryV1)
    (observations : List CanonicalObservationV1) (expectedEpoch : String) : Result Unit :=
  if observations.isEmpty then err "canonical source observations are empty"
  else validateLoop boundary expectedEpoch observations none

def findPosition (observations : List CanonicalObservationV1) (position : RawPositionV1) :
    Result CanonicalObservationV1 := do
  let observation ← okOr (observations.find? fun item => item.frameIndex == position.frameIndex)
    "committed raw position is absent from observations"
  if observation.connectionEpoch ≠ position.connectionEpoch ∨
      observation.stream ≠ position.stream ∨ observation.recordSha256 ≠ position.recordSha256 then
    err "committed raw position digest/identity mismatch"
  else .ok observation

def validateBoundaryObservations (boundary : HandoverBoundaryV1)
    (predecessor successorBoundary successorFirst : CanonicalObservationV1) : Result Unit :=
  if predecessor.finalSequence ≠ boundary.boundarySequence ∨
      successorBoundary.finalSequence ≠ boundary.boundarySequence ∨
      predecessor.observationSha256 ≠ boundary.boundarySha256 ∨
      successorBoundary.observationSha256 ≠ boundary.boundarySha256 then
    err "A/B observations do not prove the committed convergence"
  else do
    let next ← okOr (checkedAdd boundary.boundarySequence.toNat 1) "boundary sequence overflow"
    match boundary.streamKind with
    | .depth =>
      if next < successorFirst.firstSequence.toNat ∨ successorFirst.finalSequence.toNat < next then
        err "successor depth frame does not bridge K+1"
      else .ok ()
    | .trade =>
      if predecessor.firstSequence ≠ boundary.boundarySequence ∨
          successorBoundary.firstSequence ≠ boundary.boundarySequence ∨
          successorFirst.firstSequence.toNat ≠ next ∨
          successorFirst.finalSequence.toNat ≠ next then
        err "successor trade does not continue at T+1"
      else .ok ()

/-! ## Selection -/

/-- The loop of `validate_and_select_sequence`: what is selected so far and the duplicates. -/
def selectLoop (kind : BoundaryStreamKind) :
    List CanonicalObservationV1 → List CanonicalObservationV1 → Nat →
      Result (List CanonicalObservationV1 × Nat)
  | [], selected, duplicates => .ok (selected, duplicates)
  | observation :: rest, selected, duplicates =>
    match selected.getLast? with
    | none => selectLoop kind rest (selected ++ [observation]) duplicates
    | some previous => do
      let next ← okOr (checkedAdd previous.finalSequence.toNat 1) "canonical sequence overflow"
      if observation.finalSequence.toNat < next then
        if observation.finalSequence = previous.finalSequence ∧
            observation.observationSha256 = previous.observationSha256 then
          let duplicates ← increment duplicates
          selectLoop kind rest selected duplicates
        else err "stale/conflicting canonical observation"
      else if next < observation.firstSequence.toNat then
        err "gap in canonical observation sequence"
      else if kind = .trade ∧ (observation.firstSequence.toNat ≠ next ∨
          observation.finalSequence.toNat ≠ next) then
        err "trade sequence is not exactly contiguous"
      else selectLoop kind rest (selected ++ [observation]) duplicates

def validateAndSelectSequence (kind : BoundaryStreamKind)
    (candidates : List CanonicalObservationV1) : Result (List CanonicalObservationV1 × Nat) :=
  selectLoop kind candidates [] 0

def selectedRef (item : CanonicalObservationV1) : SelectedObservationV1 :=
  ⟨item.connectionEpoch, item.frameIndex, item.firstSequence, item.finalSequence, item.recordSha256⟩

/-- The `SCREAMING_SNAKE_CASE` name of a stream kind. -/
def kindText : BoundaryStreamKind → String
  | .depth => "DEPTH"
  | .trade => "TRADE"

/-- `SelectionDigestMaterial`, as it is serialized. -/
def selectionMaterial (boundary : HandoverBoundaryV1) (selected : List SelectedObservationV1) :
    Value :=
  .object [("schema", .string "CanonicalSelectionDigestV1"),
    ("boundary_id", .string boundary.boundaryId), ("symbol", .string boundary.symbol),
    ("stream_kind", .string (kindText boundary.streamKind)),
    ("boundary_sequence", .nat boundary.boundarySequence),
    ("selected", .array (selected.map fun item =>
      .object [("connection_epoch", .string item.connectionEpoch),
        ("frame_index", .nat item.frameIndex), ("first_sequence", .nat item.firstSequence),
        ("final_sequence", .nat item.finalSequence),
        ("record_sha256", .string item.recordSha256)]))]

/-- Whether a predecessor observation is at or before the last selected frame. -/
def keptOfPredecessor (boundary : HandoverBoundaryV1) (observation : CanonicalObservationV1) :
    Bool :=
  observation.frameIndex ≤ boundary.predecessorLastSelected.frameIndex

/-- Whether a successor observation is at or after the first selected frame. -/
def keptOfSuccessor (boundary : HandoverBoundaryV1) (observation : CanonicalObservationV1) : Bool :=
  boundary.successorFirstSelected.frameIndex ≤ observation.frameIndex

def selectCanonical (sha256 : Bytes → FixedBytes 32) (boundary : HandoverBoundaryV1)
    (predecessor successor : List CanonicalObservationV1) : Result CanonicalSelectionV1 := do
  boundary.validate
  validateObservations boundary predecessor boundary.predecessorEpoch
  validateObservations boundary successor boundary.successorEpoch
  let predecessorBoundary ← findPosition predecessor boundary.predecessorLastSelected
  let successorBoundary ← findPosition successor boundary.successorBoundaryObservation
  let successorFirst ← findPosition successor boundary.successorFirstSelected
  validateBoundaryObservations boundary predecessorBoundary successorBoundary successorFirst
  let candidates := predecessor.filter (keptOfPredecessor boundary) ++
    successor.filter (keptOfSuccessor boundary)
  let excludedOverlapRecords := (predecessor.filter (!keptOfPredecessor boundary ·)).length +
    (successor.filter (!keptOfSuccessor boundary ·)).length
  let (selected, excludedDuplicateRecords) ←
    validateAndSelectSequence boundary.streamKind candidates
  if selected.isEmpty then err "canonical selection is empty"
  else do
    let lastPredecessor ← okOr
      (selected.reverse.find? fun item => item.connectionEpoch == boundary.predecessorEpoch)
      "canonical selection has no predecessor boundary"
    let firstSuccessor ← okOr
      (selected.find? fun item => item.connectionEpoch == boundary.successorEpoch)
      "canonical selection has no successor continuation"
    if lastPredecessor.finalSequence ≠ boundary.boundarySequence ∨
        firstSuccessor.frameIndex ≠ boundary.successorFirstSelected.frameIndex then
      err "canonical splice does not match committed boundary"
    else
      let selectedRefs := selected.map selectedRef
      -- both ends exist, the selection was checked nonempty
      let first ← okOr selectedRefs.head? "canonical selection is empty"
      let last ← okOr selectedRefs.getLast? "selection checked nonempty"
      .ok {
        schema := "CanonicalSelectionV1"
        boundaryId := boundary.boundaryId
        symbol := boundary.symbol
        streamKind := boundary.streamKind
        boundarySequence := boundary.boundarySequence
        selected := selectedRefs
        excludedOverlapRecords
        excludedDuplicateRecords
        firstSequence := first.firstSequence
        finalSequence := last.finalSequence
        selectionSha256 := hex (sha256 (selectionMaterial boundary selectedRefs).toVec).bytes }

end LobReplay.Boundary
