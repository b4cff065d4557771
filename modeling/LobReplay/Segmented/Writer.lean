/-
  `writer_loop` of bin/segmented_capture.rs: it takes frames from the queue of a stream, writes them
  to raw segments, acknowledges what is durable and seals each segment when the next one begins.

  The raw log, the progress journal and the manifest are the writer's own (`WriterLocals`); the
  threads share the health counters and the queue.
-/

import LobReplay.Segmented.Runtime

namespace LobReplay.Segmented

open Foundation Raw
open Thread
open Progress (DurabilityProgressWriter)

/-! ## Messages -/

def serverShutdown (codec : RawCodec) (payload : Bytes) : Bool :=
  match codec.fromSlice payload with
  | .error _ => false
  | .ok value => value.strField "e" == some "serverShutdown"

def validMarketMessage (codec : RawCodec) (payload : Bytes) (symbol : String) :
    BoundaryStreamKind → Bool := fun k =>
  match codec.fromSlice payload with
  | .error _ => false
  | .ok value =>
    value.strField "s" == some symbol && (value.u64Field "E").isSome &&
      match k with
      | .depth =>
        value.strField "e" == some "depthUpdate" && (value.u64Field "U").isSome &&
          (value.u64Field "u").isSome && ((value.get "b").bind Value.asArray).isSome &&
          ((value.get "a").bind Value.asArray).isSome
      | .trade =>
        value.strField "e" == some "trade" && (value.u64Field "t").isSome &&
          (value.u64Field "T").isSome && (value.strField "p").isSome &&
          (value.strField "q").isSome && ((value.get "m").bind Value.asBool).isSome &&
          ((value.get "M").bind Value.asBool).isSome

/-! ## Files -/

def sixDigits (index : Nat) : String :=
  let digits := toString index
  String.ofList (List.replicate (6 - digits.length) '0') ++ digits

def segmentFile (index : UInt64) : String := s!"segment-{sixDigits index.toNat}.bnraw"

def progressFile (index : UInt64) : String := s!"segment-{sixDigits index.toNat}.bnack"

def groupSyncRecords : Nat := 64

def writerSyncMaxAge : Nat := 1000000000

/-- `directory.join(name)`. -/
def CaptureConfig.inDirectory (config : CaptureConfig) (k : BoundaryStreamKind) (name : String) :
    String :=
  s!"{config.root}/{streamName k}/{name}"

/-- What the writer carries from turn to turn. -/
structure WriterLocals where
  manifest : RawSegmentManifestWriter
  genesis : RawSegmentGenesisV1
  segmentIndex : UInt64
  writer : RawLogWriter
  progress : DurabilityProgressWriter
  latestAck : Option DurabilityAckV1
  pending : Bool
  lastSync : Nat
  segments : Nat
  written : Nat

def createdFaults : Thread (List Fault) := ask fun
  | .faults faults => some faults
  | _ => none

def openSegment (config : CaptureConfig) (k : BoundaryStreamKind) (genesis : RawSegmentGenesisV1)
    (segmentIndex : UInt64) : Thread (RawLogWriter × DurabilityProgressWriter) := do
  perform s!"create raw segment {config.inDirectory k (segmentFile segmentIndex)}"
  let rawFaults ← createdFaults
  let writer ←
    ofResult (RawLogWriter.fromSinkSegment (Sink.fresh rawFaults) groupSyncRecords genesis)
  perform s!"create progress journal {config.inDirectory k (progressFile segmentIndex)}"
  let progressFaults ← createdFaults
  let progress ← ofResult (DurabilityProgressWriter.createWithReference
    (Sink.fresh progressFaults) (segmentFile segmentIndex))
  pure (writer, progress)

/-! ## Acknowledgements -/

def appendProgress (config : CaptureConfig) (k : BoundaryStreamKind) (v : WriterLocals)
    (ack : DurabilityAckV1) : Thread WriterLocals := do
  if v.latestAck = some ack then pure v
  else
    let (result, progress) := v.progress.append config.progress ack
    ofResult result
    let watermark ← ofResult (Progress.firstStream ack)
    let durable ← ofResult (increment watermark.durableThroughFrameIndex.toNat)
    storeHealth k fun health => { health with durable }
    let ns ← elapsedNs
    storeHealth k fun health => { health with lastDurableMonoNs := ns }
    pure { v with progress, latestAck := some ack }

/-- `last_sync_duration_ns.store(duration)` and the maximum. -/
def publishSync (k : BoundaryStreamKind) (duration : Nat) : Thread Unit := do
  setGauge k .syncDuration duration
  updateMax k .syncDuration duration

/-- `writer.sync()` and how long it took. -/
def timedSync (v : WriterLocals) : Thread (DurabilityAckV1 × Nat × WriterLocals) := do
  let started ← now
  let (result, writer) := v.writer.sync
  let ack ← ofResult result
  let duration ← elapsed started
  pure (ack, asNanos duration, { v with writer })

/-- A sync of its own: what was appended is acknowledged. -/
def syncPending (config : CaptureConfig) (k : BoundaryStreamKind) (v : WriterLocals) :
    Thread WriterLocals := do
  let (ack, duration, v) ← timedSync v
  let v ← appendProgress config k v ack
  publishSync k duration
  let lastSync ← now
  pure { v with pending := false, lastSync }

/-! ## Segments -/

def finalizeSegment (config : CaptureConfig) (k : BoundaryStreamKind) (v : WriterLocals) :
    Thread (RawSegmentSealV1 × WriterLocals) := do
  let (ack, duration, v) ← timedSync v
  publishSync k duration
  let v ← appendProgress config k v ack
  let files ← ask fun
    | .files files => some files
    | _ => none
  let verified ← ofResult (verifyAndSealRawSegment config.segment.toRawCodec files
    (config.inDirectory k (segmentFile v.segmentIndex)) (segmentFile v.segmentIndex) v.genesis ack)
  let current ← ask fun
    | .files files => some files
    | _ => none
  let (result, manifest) := v.manifest.appendVerified config.segment current verified
  let _ ← ofResult result
  pure (verified.sealed, { v with manifest })

/-- The rotation a frame of the segment `desired` asks for. -/
def rotate (config : CaptureConfig) (k : BoundaryStreamKind) (v : WriterLocals) (desired : Nat) :
    Thread WriterLocals := do
  if desired ≤ v.segmentIndex.toNat then pure v
  else if desired ≠ v.segmentIndex.toNat + 1 ∨ v.pending = false ∧ v.latestAck = none then
    fail "segment boundary skipped or empty segment observed"
  else
    let (sealed, v) ← finalizeSegment config k v
    perform "publish durable segment event"
    let genesis ← ofResult (successorSegmentGenesis sealed)
    storeHealth k fun health => { health with segmentIndex := genesis.segmentIndex.toNat }
    let (writer, progress) ← openSegment config k genesis genesis.segmentIndex
    let lastSync ← now
    pure { v with
      genesis, segmentIndex := genesis.segmentIndex, writer, progress, latestAck := none, lastSync
      segments := v.segments + 1 }

/-! ## One turn of the loop -/

/-- What `recv_timeout` returns. -/
inductive Received where
  | frame (frame : CapturedFrame)
  | timeout
  | disconnected

/-- `receiver.recv_timeout(100 ms)`. -/
def recvTimeout (k : BoundaryStreamKind) : Thread Received := exchange fun s =>
  match (s.stream k).queue with
  | frame :: queue =>
    (.frame frame, s.onStream k fun state =>
      { state with
        queue
        inHand := some frame
        watch := fun g => { state.watch g with taken := g.measure frame } })
  | [] => (if (s.stream k).senderAlive then .timeout else .disconnected, s)

/-- The frame leaves the gauges of the queue, and its age is published. -/
def discountFrame (k : BoundaryStreamKind) (frame : CapturedFrame) : Thread Unit := do
  discount k .queueRecords 1
  discount k .queueBytes frame.payload.length
  let ns ← elapsedNs
  storeHealth k fun health =>
    { health with maxQueueAgeNs := max health.maxQueueAgeNs (ns - frame.receiveMonoNs.toNat) }

/-- The frame is written and counted; the answer is how long the append took. -/
def appendFrame (config : CaptureConfig) (k : BoundaryStreamKind) (v : WriterLocals)
    (frame : CapturedFrame) : Thread (AppendReceiptV1 × Nat × WriterLocals) := do
  let started ← now
  let (result, writer) := v.writer.append config.segment.toRawCodec frame
  let receipt ← ofResult result
  let duration ← elapsed started
  let written := v.written + 1
  storeHealth k fun health => { health with written }
  if validMarketMessage config.segment.toRawCodec frame.payload config.symbol k then
    storeHealth k fun health =>
      { health with lastMarketMessageMonoNs := frame.receiveMonoNs.toNat }
    pure (receipt, asNanos duration, { v with writer, pending := true, written })
  else pure (receipt, asNanos duration, { v with writer, pending := true, written })

def acknowledgeReceipt (config : CaptureConfig) (k : BoundaryStreamKind) (v : WriterLocals)
    (receipt : AppendReceiptV1) (duration : Nat) : Thread WriterLocals :=
  match receipt.durabilityAck with
  | none => pure v
  | some ack => do
    let v ← appendProgress config k v ack
    publishSync k duration
    let lastSync ← now
    pure { v with pending := false, lastSync }

/-- A `serverShutdown` message is published, if the latest acknowledgement ends at it. -/
def publishShutdown (k : BoundaryStreamKind) (frame : CapturedFrame) (v : WriterLocals) :
    Thread WriterLocals :=
  match v.latestAck with
  | none => fail "serverShutdown lacks an exact durable ACK after forced sync"
  | some ack =>
    if ack.streams.map (·.durableThroughFrameIndex) ≠ [frame.frameIndex] then
      fail "serverShutdown durable ACK does not end at its raw frame"
    else do
      perform "publish durable serverShutdown event"
      storeHealth k fun health =>
        { health with serverShutdownEvents := health.serverShutdownEvents + 1 }
      pure v

/-- What follows a `serverShutdown` message: it is acknowledged before it is published. -/
def tellShutdown (config : CaptureConfig) (k : BoundaryStreamKind) (v : WriterLocals)
    (frame : CapturedFrame) : Thread WriterLocals :=
  if v.pending then do
    let v ← syncPending config k v
    publishShutdown k frame v
  else publishShutdown k frame v

def onFrame (config : CaptureConfig) (k : BoundaryStreamKind) (v : WriterLocals)
    (frame : CapturedFrame) : Thread WriterLocals := do
  discountFrame k frame
  let v ← rotate config k v (frame.receiveMonoNs.toNat / config.segmentDurationNs)
  let (receipt, duration, v) ← appendFrame config k v frame
  let v ← acknowledgeReceipt config k v receipt duration
  if serverShutdown config.segment.toRawCodec frame.payload then tellShutdown config k v frame
  else pure v

/-- The arm of a timeout. -/
def onIdle (config : CaptureConfig) (k : BoundaryStreamKind) (v : WriterLocals) :
    Thread WriterLocals := do
  if v.pending then
    let age ← elapsed v.lastSync
    if writerSyncMaxAge ≤ age then syncPending config k v else pure v
  else pure v

/-- One turn of the loop; the answer is `none` where the queue is closed. -/
def writerTurn (config : CaptureConfig) (k : BoundaryStreamKind) (v : WriterLocals) :
    Thread (Option WriterLocals) := do
  match ← recvTimeout k with
  | .frame frame => some <$> onFrame config k v frame
  | .timeout => some <$> onIdle config k v
  | .disconnected => pure none

/-! ## The function -/

/-- The closure up to its loop. -/
def openWriter (config : CaptureConfig) (k : BoundaryStreamKind) : Thread WriterLocals := do
  perform s!"create stream directory {config.root}/{streamName k}"
  let path := config.inDirectory k "segments.bnseg"
  perform s!"create segment manifest {path}"
  let manifestFaults ← createdFaults
  let manifest ← ofResult (RawSegmentManifestWriter.fromSink (Sink.fresh manifestFaults))
  let genesis ← ofResult (rootSegmentGenesis (config.epoch k) (config.channel k))
  let (writer, progress) ← openSegment config k genesis 0
  let lastSync ← now
  pure { manifest, genesis, segmentIndex := 0, writer, progress, latestAck := none
         pending := false, lastSync, segments := 0, written := 0 }

/-- What the closure returns. -/
structure WriterOutcome where
  written : Nat
  segments : Nat
  manifestDigest : String
  terminalDigest : String
  deriving DecidableEq

/-- The closure behind its loop. -/
def closeWriter (config : CaptureConfig) (k : BoundaryStreamKind) (v : WriterLocals) :
    Thread WriterOutcome := do
  if v.pending = false ∧ v.latestAck = none then fail "stream ended without a raw record"
  else
    let (sealed, v) ← finalizeSegment config k v
    perform "publish terminal durable segment event"
    let segments := v.segments + 1
    let files ← ask fun
      | .files files => some files
      | _ => none
    let path := config.inDirectory k "segments.bnseg"
    match files path with
    | none => fail s!"open {path}: No such file or directory (os error 2)"
    | some file =>
      let scan ← ofResult (scanSegmentManifest config.segment path file)
      if scan.cleanEof = false ∨ scan.records ≠ segments then
        fail "terminal segment manifest verification failed"
      else
        pure { written := v.written, segments, manifestDigest := scan.lastRecordSha256
               terminalDigest := sealed.terminalRecordSha256 }

/-- The return of `writer_loop`. -/
def returnWriter (k : BoundaryStreamKind) (result : WriterResult) : Thread Unit :=
  store fun s => s.onStream k fun state =>
    { state with receiverAlive := false, writerResult := some result }

/-- What follows the closure. -/
def finishWriter (k : BoundaryStreamKind) : Except String WriterOutcome → Thread Unit
  | .ok closed => do
    let durable ← loadHealth k (·.durable)
    returnWriter k
      { name := streamName k, written := closed.written, durableRecords := durable
        segments := closed.segments, manifestDigest := closed.manifestDigest
        terminalRawDigest := closed.terminalDigest, error := none }
  | .error error => do
    store fun s => { s with stop := true }
    let written ← loadHealth k (·.written)
    let durable ← loadHealth k (·.durable)
    let segments ← loadHealth k (·.segmentIndex)
    returnWriter k
      { name := streamName k, written, durableRecords := durable, segments, manifestDigest := ""
        terminalRawDigest := "", error := some error }

/-- Where a writer stands between two parts of its program. -/
inductive WriterStage where
  | start
  | receiving (v : WriterLocals)
  | closing (v : WriterLocals)
  | ended (result : Except String WriterOutcome)

/-- The stage behind a part of the closure. -/
def WriterStage.behind {α : Type} (next : α → WriterStage) : Except String α → WriterStage
  | .ok a => next a
  | .error error => .ended (.error error)

/-- One part of the program of a writer, and the stage behind it. -/
def writerLoop (config : CaptureConfig) (k : BoundaryStreamKind) :
    WriterStage → Thread (Option WriterStage)
  | .start => do
    let opened ← closure (openWriter config k)
    pure (some (.behind .receiving opened))
  | .receiving v => do
    let turn ← closure (writerTurn config k v)
    pure (some (.behind (fun next => (next.map .receiving).getD (.closing v)) turn))
  | .closing v => do
    let closed ← closure (closeWriter config k v)
    pure (some (.behind (fun closed => .ended (.ok closed)) closed))
  | .ended result => do
    finishWriter k result
    pure none

end LobReplay.Segmented
