/-
  `producer_loop` of bin/segmented_capture.rs: it connects to a stream, hands every data message to
  the queue of its writer and tells the transport journal what it saw.

  The parts of the function are definitions of their own, in the order of the source; the loop is a
  stage that follows itself (`ProducerStage.reading`). Headers of the response and the channel that
  signals the connection are left out, but for its errors.
-/

import LobReplay.Segmented.Runtime

namespace LobReplay.Segmented

open Foundation Raw
open Thread

/-! ## The journal -/

/-- `journal.append`. -/
def journalAppend (config : CaptureConfig) (k : BoundaryStreamKind) (wallNs monoNs : Nat)
    (event : TransportEvent) (payload : Value) : Thread (Except String String) :=
  .atomic fun i s =>
    match i, (s.stream k).journal with
    | .write fault, some journal =>
      let (result, journal) :=
        journal.append config.transport wallNs monoNs event.name payload fault
      some (result, s.onStream k fun state => { state with journal := some journal })
    | _, _ => none

/-- The calls of `append_transport_event`. -/
def tellEvent (config : CaptureConfig) (k : BoundaryStreamKind) (event : TransportEvent)
    (payload : Value) : Thread String := do
  let wallNs ← unixNs
  let monoNs ← elapsedNs
  let result ← journalAppend config k wallNs monoNs event payload
  ofExcept result

/-- `append_transport_event`; its errors are noted. -/
def appendTransportEvent (config : CaptureConfig) (k : BoundaryStreamKind)
    (event : TransportEvent) (payload : Value) : Thread Unit := do
  match ← closure (tellEvent config k event payload) with
  | .ok _ => pure ()
  | .error error =>
    store fun s => s.onStream k fun state =>
      { state with appendErrors := state.appendErrors ++ [error] }
    fail error

def tcpSample : Thread Value := ask fun
  | .tcp (.available sample) => some (.object [("sample", sample), ("status", .string "AVAILABLE")])
  | .tcp (.unavailable error) =>
    some (.object [("error", .string error), ("status", .string "UNAVAILABLE")])
  | .tcp .unsupportedPlatform => some (.object [("status", .string "UNSUPPORTED_PLATFORM")])
  | _ => none

def websocketErrorEvidence : WebSocketError → Value
  | .io message ioKind nativeOsError =>
    .object [("category", .string "IO"), ("io_kind", .string ioKind), ("message", .string message),
      ("native_os_error", osError nativeOsError)]
  | .other message category =>
    .object [("category", .string category), ("message", .string message)]
where
  /-- `raw_os_error()` as JSON. -/
  osError : Option Int → Value
    | none => .null
    | some n => if 0 ≤ n then .nat (UInt64.ofNat n.toNat) else .number (.negInt n)

/-! ## The connection -/

/-- The target and the role of the DNS events, in the order of their keys around the finding. -/
def dnsPayload (finding : String × Value) : Value :=
  .object [finding, ("host", .string "data-stream.binance.vision"), ("port", .nat 443),
    ("role", .string "DIAGNOSTIC_OBSERVATION_NOT_CONNECT_SELECTION")]

/-- `CONNECT_ATTEMPT` and what the name resolution found. -/
def announce (config : CaptureConfig) (k : BoundaryStreamKind) : Thread Unit := do
  appendTransportEvent config k .connectAttempt (.object [("uri", .string (config.uri k))])
  let found ← ask fun
    | .dns result => some result
    | _ => none
  match found with
  | .ok addresses =>
    appendTransportEvent config k .dnsObserved
      (dnsPayload ("addresses", .array (addresses.map .string)))
  | .error error =>
    appendTransportEvent config k .dnsFailed (dnsPayload ("error", .string error))

/-- `SUPERVISOR_FAILURE_STOP` and its error. -/
def stopForSupervisor {α : Type} (config : CaptureConfig) (k : BoundaryStreamKind)
    (cause : SupervisorStopCause) : Thread α := do
  let tcp ← tcpSample
  appendTransportEvent config k .supervisorFailureStop (.object
    [("campaign_failure_record_sha256",
        (cause.campaignFailureRecordSha256.map .string).getD .null),
      ("reason", .string cause.reason), ("source", .string cause.source), ("tcp_info", tcp)])
  fail s!"supervisor failure stop: {cause.reason}"

/-- What the read loop carries from turn to turn. -/
structure ProducerLocals where
  lastTransport : Nat
  stallAnnounced : Bool
  lastPingSent : Option Nat
  awaitingPong : Bool
  deriving DecidableEq

/-- The handshake was answered with 101. -/
def connected (config : CaptureConfig) (k : BoundaryStreamKind) (response : HandshakeResponse) :
    Thread ProducerLocals := do
  let configured ← ask fun
    | .endpoints result => some result
    | _ => none
  let (localEndpoint, remoteEndpoint) ← ofExcept configured
  match ← load (·.supervisorStop) with
  | some cause => stopForSupervisor config k cause
  | none =>
    let tcp ← tcpSample
    appendTransportEvent config k .websocketConnected (.object
      [("local_endpoint", .string localEndpoint), ("remote_endpoint", .string remoteEndpoint),
        ("tcp_info", tcp), ("websocket_http_status", .nat response.status)])
    perform "signal connected"
    let lastTransport ← now
    pure { lastTransport, stallAnnounced := false, lastPingSent := none, awaitingPong := false }

/-- The closure up to its loop. -/
def openConnection (config : CaptureConfig) (k : BoundaryStreamKind) : Thread ProducerLocals := do
  let answer ← ask fun
    | .connect result => some result
    | _ => none
  match answer with
  | .error error =>
    appendTransportEvent config k .connectFailed
      (.object [("error", websocketErrorEvidence error)])
    fail s!"connect {config.uri k}: {error.message}"
  | .ok response =>
    if response.status ≠ 101 then
      appendTransportEvent config k .websocketUpgradeRejected
        (.object [("http_status", .nat response.status)])
      fail s!"unexpected WebSocket HTTP status {response.text}"
    else connected config k response

/-! ## One turn of the read loop -/

def transportDeadAfter : Nat := 60 * 1000000000

def wsPingInterval : Nat := 30 * 1000000000

def wsPongDeadline : Nat := 5 * 1000000000

def maxWsPayloadBytes : Nat := 2 * 1024 * 1024

/-- `awaiting_pong && last_ping_sent.is_some_and(|sent| sent.elapsed() >= WS_PONG_DEADLINE)`. -/
def pongIsLate (v : ProducerLocals) : Thread Bool :=
  match v.awaitingPong, v.lastPingSent with
  | true, some sent => do
    let age ← elapsed sent
    pure (decide (wsPongDeadline ≤ age))
  | _, _ => pure false

/-- `!awaiting_pong && last_ping_sent.is_none_or(|sent| sent.elapsed() >= WS_PING_INTERVAL)`. -/
def pingIsDue (v : ProducerLocals) : Thread Bool :=
  match v.awaitingPong, v.lastPingSent with
  | true, _ => pure false
  | false, none => pure true
  | false, some sent => do
    let age ← elapsed sent
    pure (decide (wsPingInterval ≤ age))

/-- The watchdog finds no pong in time. -/
def pongDeadline {α : Type} (config : CaptureConfig) (k : BoundaryStreamKind)
    (v : ProducerLocals) : Thread α := do
  let inactive ← elapsed v.lastTransport
  let tcp ← tcpSample
  appendTransportEvent config k .watchdogPongDeadline (.object
    [("deadline_ms", .nat (asMillis wsPongDeadline)), ("inactive_ms", .nat (asMillis inactive)),
      ("tcp_info", tcp)])
  fail s!"transport watchdog pong deadline exceeded for {streamName k}: transport is dead"

def sendPing (config : CaptureConfig) (k : BoundaryStreamKind) (v : ProducerLocals) :
    Thread ProducerLocals := do
  perform s!"send watchdog ping for {streamName k}"
  perform s!"flush watchdog ping for {streamName k}"
  appendTransportEvent config k .watchdogPingSent (.object
    [("deadline_ms", .nat (asMillis wsPongDeadline)),
      ("interval_ms", .nat (asMillis wsPingInterval))])
  let sent ← now
  pure { v with lastPingSent := some sent, awaitingPong := true }

/-- A read that timed out is told; the transport may be dead. -/
def tellTimeout (config : CaptureConfig) (k : BoundaryStreamKind) (v : ProducerLocals)
    (ioKind : String) (nativeOsError : Option Int) : Thread ProducerLocals := do
  let inactive ← elapsed v.lastTransport
  let tcp ← tcpSample
  appendTransportEvent config k .readTimeout (.object
    [("inactive_ms", .nat (asMillis inactive)), ("io_kind", .string ioKind),
      ("native_os_error", websocketErrorEvidence.osError nativeOsError), ("tcp_info", tcp)])
  let age ← elapsed v.lastTransport
  if transportDeadAfter ≤ age then
    let tcp ← tcpSample
    appendTransportEvent config k .transportDeadline (.object
      [("deadline_ms", .nat (asMillis transportDeadAfter)),
        ("inactive_ms", .nat (asMillis inactive)), ("tcp_info", tcp)])
    fail s!"transport liveness deadline exceeded for {streamName k}"
  else pure v

/-- The arm of a read that timed out; the answer is `none` where the loop is left. -/
def onTimeout (config : CaptureConfig) (k : BoundaryStreamKind) (v : ProducerLocals)
    (ioKind : String) (nativeOsError : Option Int) : Thread (Option ProducerLocals) := do
  if ← load (·.stop) then pure none
  else if ← pongIsLate v then pongDeadline config k v
  else if ← pingIsDue v then some <$> sendPing config k v
  else some <$> tellTimeout config k v ioKind nativeOsError

/-- The arm of a read that failed. -/
def onReadError {α : Type} (config : CaptureConfig) (k : BoundaryStreamKind)
    (error : WebSocketError) : Thread α := do
  let tcp ← tcpSample
  appendTransportEvent config k .socketReadError
    (.object [("error", websocketErrorEvidence error), ("tcp_info", tcp)])
  fail s!"read {streamName k}: {error.message}"

/-- Whether the injected stall has begun. -/
def stalled (config : CaptureConfig) (k : BoundaryStreamKind) : Thread Bool :=
  match config.fault k with
  | none => pure false
  | some afterMonoNs => do
    let ns ← elapsedNs
    pure (decide (afterMonoNs ≤ ns))

/-- The stall is told once. -/
def announceStall (config : CaptureConfig) (k : BoundaryStreamKind) (v : ProducerLocals) :
    Thread ProducerLocals := do
  if v.stallAnnounced then pure v
  else
    appendTransportEvent config k .faultInjectedSilentStall (.object
      [("after_mono_ns", .nat (UInt64.ofNat ((config.fault k).getD 0))),
        ("stream", .string (streamName k))])
    pure { v with stallAnnounced := true }

def controlPayload (config : CaptureConfig) (payload : Bytes) : List (String × Value) :=
  [("payload_bytes", .nat (UInt64.ofNat payload.length)),
    ("payload_sha256", .string (config.transport.sha256Bytes payload))]

def onClose {α : Type} (config : CaptureConfig) (k : BoundaryStreamKind)
    (frame : Option CloseFrame) : Thread α := do
  let tcp ← tcpSample
  let close := match frame with
    | none => Value.null
    | some frame => .object [("code", .string frame.code), ("reason", .string frame.reason)]
  appendTransportEvent config k .websocketClose (.object [("close", close), ("tcp_info", tcp)])
  let text := (frame.map (·.debug)).getD "None"
  fail s!"server closed {streamName k}: {text}"

/-- A ping is answered by the library; the answer is flushed and told. -/
def onPing (config : CaptureConfig) (k : BoundaryStreamKind) (payload : Bytes) : Thread Unit := do
  perform s!"flush automatic pong for {streamName k}"
  appendTransportEvent config k .wsPingPongFlushed (.object (controlPayload config payload))

/-- The round trip of the watchdog's ping, as JSON. -/
def watchdogRtt (v : ProducerLocals) : Thread Value :=
  match v.awaitingPong, v.lastPingSent with
  | true, some sent => do
    let rtt ← elapsed sent
    pure (.nat (asMillis rtt))
  | _, _ => pure .null

/-- A pong is told with the round trip it ends, if any. -/
def onPong (config : CaptureConfig) (k : BoundaryStreamKind) (v : ProducerLocals)
    (payload : Bytes) : Thread ProducerLocals := do
  let rtt ← watchdogRtt v
  appendTransportEvent config k .wsPongReceived
    (.object (controlPayload config payload ++ [("watchdog_rtt_ms", rtt)]))
  pure { v with awaitingPong := false }

/-! ### The queue -/

/-- The capacity of `sync_channel`. -/
def queueCapacity : Nat := 4096

/-- How `try_send` ends. -/
inductive TrySend where
  | sent
  | full
  | disconnected
  deriving DecidableEq

/-- `sender.try_send(frame)`. -/
def trySend (k : BoundaryStreamKind) (frame : CapturedFrame) : Thread TrySend := exchange fun s =>
  if (s.stream k).receiverAlive = false then (.disconnected, s)
  else if queueCapacity ≤ (s.stream k).queue.length then (.full, s)
  else
    (.sent, s.onStream k fun state =>
      { state with
        queue := state.queue ++ [frame]
        watch := fun g => { state.watch g with
          offered := if g = .syncDuration then (state.watch g).offered else 0 } })

/-- `health.received.fetch_add(1)`. -/
def countReceived (k : BoundaryStreamKind) : Thread Nat := exchange fun s =>
  ((s.stream k).health.received, s.onHealth k fun health =>
    { health with received := health.received + 1 })

def capturedFrame (config : CaptureConfig) (k : BoundaryStreamKind) (clock : ClockMetadata)
    (frameIndex receiveWallNs receiveMonoNs : Nat) (payload : Bytes) : CapturedFrame where
  venue := "binance-spot"
  environment := "production-public-market-data"
  endpoint := config.uri k
  stream := config.channel k
  symbol := config.symbol
  connectionEpoch := config.epoch k
  frameIndex := UInt64.ofNat frameIndex
  receiveWallNs := UInt64.ofNat receiveWallNs
  receiveMonoNs := UInt64.ofNat receiveMonoNs
  clockQuality := clock.quality
  clockSource := clock.source
  payload := payload
  specRevision := config.specRevision

/-- The counts of a frame the queue did not take are taken back. -/
def refused {α : Type} (k : BoundaryStreamKind) (payload : Bytes) (message : String) :
    Thread α := do
  withdraw k .queueRecords 1
  withdraw k .queueBytes payload.length
  fail message

/-- A data message on its way to the queue. -/
def enqueue (config : CaptureConfig) (k : BoundaryStreamKind) (receiveWallNs receiveMonoNs : Nat)
    (payload : Bytes) : Thread Unit := do
  if maxWsPayloadBytes < payload.length then
    fail s!"WebSocket payload exceeds bounded raw limit for {streamName k}"
  else
    let frameIndex ← countReceived k
    let clock ← load (·.clockMetadata)
    let frame := capturedFrame config k clock frameIndex receiveWallNs receiveMonoNs payload
    let queuedRecords ← raise k .queueRecords 1
    let queuedBytes ← raise k .queueBytes payload.length
    updateMax k .queueRecords queuedRecords
    updateMax k .queueBytes queuedBytes
    match ← trySend k frame with
    | .sent => pure ()
    | .full => refused k payload s!"bounded queue overflow: {streamName k}"
    | .disconnected => refused k payload s!"writer disconnected: {streamName k}"

/-! ### The turn -/

def onMessageKind (config : CaptureConfig) (k : BoundaryStreamKind) (v : ProducerLocals)
    (receiveWallNs receiveMonoNs : Nat) : Message → Thread ProducerLocals
  | .text payload | .binary payload => do
    enqueue config k receiveWallNs receiveMonoNs payload
    pure v
  | .close frame => onClose config k frame
  | .ping payload => do
    onPing config k payload
    pure v
  | .pong payload => onPong config k v payload
  | .frame => do
    appendTransportEvent config k .unexpectedRawFrame (.object [])
    pure v

/-- The rest of a turn behind a message that was read. -/
def onMessage (config : CaptureConfig) (k : BoundaryStreamKind) (v : ProducerLocals)
    (message : Message) : Thread (Option ProducerLocals) := do
  let receiveWallNs ← unixNs
  let receiveMonoNs ← elapsedNs
  if ← load (·.stop) then pure none
  else if ← stalled config k then some <$> announceStall config k v
  else
    storeHealth k fun health => { health with lastSocketActivityMonoNs := receiveMonoNs }
    some <$> onMessageKind config k v receiveWallNs receiveMonoNs message

/-- One turn of the read loop; the answer is `none` where the loop is left. -/
def readTurn (config : CaptureConfig) (k : BoundaryStreamKind) (v : ProducerLocals) :
    Thread (Option ProducerLocals) := do
  if ← load (·.stop) then pure none
  else
    let result ← ask fun
      | .read result => some result
      | _ => none
    match result with
    | .message message =>
      let lastTransport ← now
      onMessage config k { v with lastTransport } message
    | .timeout ioKind nativeOsError => onTimeout config k v ioKind nativeOsError
    | .error error => onReadError config k error

/-- The closure behind its loop. -/
def leave (config : CaptureConfig) (k : BoundaryStreamKind) : Thread Unit := do
  match ← load (·.supervisorStop) with
  | some cause => stopForSupervisor config k cause
  | none =>
    let tcp ← tcpSample
    appendTransportEvent config k .clientStopObserved (.object [("tcp_info", tcp)])
    match ← outcome with
    | .ok () => pure ()
    | .error error =>
      if ← load (·.stop) then pure ()
      else fail s!"close {streamName k}: {error}"

/-! ## The end of the loop -/

/-- The result of the closure, its failure being told. -/
def tellFailure (config : CaptureConfig) (k : BoundaryStreamKind) :
    Except String Unit → Thread (Except String Unit)
  | .ok () => pure (.ok ())
  | .error error => do
    let told ← closure (appendTransportEvent config k .producerFailure
      (.object [("error", .string error), ("stage", .string "PRODUCER_LOOP")]))
    match told with
    | .ok () => pure (.error error)
    | .error journalError =>
      pure (.error s!"{error}; persist exact producer failure: {journalError}")

/-- The error a later failure leaves. -/
def addError (result : Except String Unit) (message : String) : Except String Unit :=
  match result with
  | .ok () => .error message
  | .error error => .error s!"{error}; {message}"

/-- `TRANSPORT_TERMINAL`. -/
def tellTerminal (config : CaptureConfig) (k : BoundaryStreamKind) (result : Except String Unit) :
    Thread (Except String Unit) := do
  let received ← loadHealth k (·.received)
  let (status, error) := match result with
    | .ok () => ("STOPPED", Value.null)
    | .error error => ("FAILED", .string error)
  let told ← closure (appendTransportEvent config k .transportTerminal (.object
    [("error", error), ("received", .nat (UInt64.ofNat received)), ("status", .string status)]))
  match told with
  | .ok () => pure result
  | .error journalError => pure (addError result s!"persist transport terminal: {journalError}")

/-- `journal.seal()`. -/
def sealTransport (config : CaptureConfig) (k : BoundaryStreamKind) :
    Thread (Except String TransportJournalSealV1) :=
  .atomic fun i s =>
    match i, (s.stream k).journal with
    | .outcome io, some journal => some (journal.sealJournal config.transport io, s)
    | _, _ => none

def sealed (config : CaptureConfig) (k : BoundaryStreamKind) (result : Except String Unit) :
    Thread (Option TransportJournalSealV1 × Except String Unit) := do
  match ← sealTransport config k with
  | .ok journalSeal => pure (some journalSeal, result)
  | .error journalError => pure (none, addError result s!"seal transport journal: {journalError}")

/-- The stop a failure asks for. -/
def stopOnError (result : Except String Unit) : Thread Unit :=
  match result with
  | .ok () => pure ()
  | .error _ => store fun s => { s with stop := true }

/-- The return of `producer_loop`. -/
def returnProducer (config : CaptureConfig) (k : BoundaryStreamKind)
    (transportJournal : Option TransportJournalSealV1) (result : Except String Unit) :
    Thread Unit := do
  let received ← loadHealth k (·.received)
  let error := match result with
    | .ok () => none
    | .error error => some error
  store fun s => s.onStream k fun state =>
    { state with
      senderAlive := false
      producerResult := some
        { name := streamName k, uri := config.uri k, epoch := config.epoch k, received
          transportJournal, error } }

/-- What follows the closure. -/
def finishProducer (config : CaptureConfig) (k : BoundaryStreamKind)
    (result : Except String Unit) : Thread Unit := do
  let result ← tellFailure config k result
  let result ← tellTerminal config k result
  let (transportJournal, result) ← sealed config k result
  stopOnError result
  returnProducer config k transportJournal result

/-! ## Stages -/

/-- Where a producer stands between two parts of its program. -/
inductive ProducerStage where
  | start
  | connecting
  | reading (v : ProducerLocals)
  | leaving
  | ended (result : Except String Unit)

/-- The stage behind a part of the closure. -/
def ProducerStage.behind {α : Type} (next : α → ProducerStage) : Except String α → ProducerStage
  | .ok a => next a
  | .error error => .ended (.error error)

def createJournal (config : CaptureConfig) (k : BoundaryStreamKind) : Thread (Except String Unit) :=
  .atomic fun i s =>
    match i with
    | .outcome opened =>
      match TransportJournalWriter.create (config.journalPath k) (streamName k) (config.epoch k)
          opened with
      | .error error => some (.error error, s)
      | .ok journal =>
        some (.ok (), s.onStream k fun state => { state with journal := some journal })
    | _ => none

/-- The beginning of `producer_loop`. -/
def startProducer (config : CaptureConfig) (k : BoundaryStreamKind) :
    Thread (Option ProducerStage) := do
  match ← createJournal config k with
  | .error error =>
    stopOnError (.error error)
    returnProducer config k none (.error error)
    pure none
  | .ok () =>
    let announced ← closure (announce config k)
    pure (some (.behind (fun _ => .connecting) announced))

/-- One part of the program of a producer, and the stage behind it. -/
def producerLoop (config : CaptureConfig) (k : BoundaryStreamKind) :
    ProducerStage → Thread (Option ProducerStage)
  | .start => startProducer config k
  | .connecting => do
    let opened ← closure (openConnection config k)
    pure (some (.behind .reading opened))
  | .reading v => do
    let turn ← closure (readTurn config k v)
    pure (some (.behind (fun next => (next.map .reading).getD .leaving) turn))
  | .leaving => do
    let left ← closure (leave config k)
    pure (some (.behind (fun _ => .ended (.ok ())) left))
  | .ended result => do
    finishProducer config k result
    pure none

end LobReplay.Segmented
