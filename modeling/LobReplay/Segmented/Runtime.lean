/-
  What the threads of a segmented capture share (bin/segmented_capture.rs): the health counters of
  each stream, its bounded queue and its transport journal, the stop flag with its cause, the clock
  and the telemetry; and the actions the threads are made of.

  An action is one access of a shared variable or one call of the operating system. What a call
  answers is an `Input`; the times that are read never decrease. Counters and times are naturals.
-/

import LobReplay.Foundation.Program
import LobReplay.Progress.Writer
import LobReplay.Segment.Manifest
import LobReplay.Segmented.TransportJournal

namespace LobReplay.Segmented

open Foundation Raw

/-! ## Health -/

structure StreamHealth where
  received : Nat := 0
  written : Nat := 0
  durable : Nat := 0
  segmentIndex : Nat := 0
  lastSocketActivityMonoNs : Nat := 0
  lastMarketMessageMonoNs : Nat := 0
  serverShutdownEvents : Nat := 0
  lastDurableMonoNs : Nat := 0
  queueRecords : Nat := 0
  queueBytes : Nat := 0
  maxQueueRecords : Nat := 0
  maxQueueBytes : Nat := 0
  maxQueueAgeNs : Nat := 0
  lastSyncDurationNs : Nat := 0
  maxSyncDurationNs : Nat := 0
  deriving DecidableEq

structure StreamHealthSnapshot where
  received : Nat
  written : Nat
  durable : Nat
  segmentIndex : Nat
  lastSocketActivityMonoNs : Nat
  lastMarketMessageMonoNs : Nat
  lastDurableMonoNs : Nat
  queueRecords : Nat
  queueBytes : Nat
  maxQueueRecords : Nat
  maxQueueBytes : Nat
  maxQueueAgeNs : Nat
  lastSyncDurationNs : Nat
  maxSyncDurationNs : Nat
  deriving DecidableEq

structure ClockMetadata where
  quality : String
  source : String
  leapIndicator : Option UInt8
  stratum : Option UInt8
  lastSuccessfulSync : Option String
  deriving DecidableEq

/-- `TelemetryRecord`: the fields of each stream are those of its snapshot. -/
structure TelemetryRecord where
  schema : String
  recordIndex : Nat
  wallNs : Nat
  monoNs : Nat
  clock : ClockMetadata
  depth : StreamHealthSnapshot
  trade : StreamHealthSnapshot
  deriving DecidableEq

def TelemetryRecord.of (record : TelemetryRecord) : BoundaryStreamKind → StreamHealthSnapshot
  | .depth => record.depth
  | .trade => record.trade

/-- The checks of one stream of a record taken at `monoNs`. -/
def StreamHealthSnapshot.validate (stream : String) (monoNs : Nat)
    (snapshot : StreamHealthSnapshot) : Except String Unit :=
  if snapshot.written < snapshot.durable ∨ snapshot.received < snapshot.written then
    .error s!"telemetry {stream} causal count invariant failed: durable={snapshot.durable}, written={snapshot.written}, received={snapshot.received}"
  else if snapshot.lastSocketActivityMonoNs < snapshot.lastMarketMessageMonoNs ∨
      monoNs < snapshot.lastSocketActivityMonoNs ∨ monoNs < snapshot.lastDurableMonoNs then
    .error s!"telemetry {stream} causal time invariant failed: market={snapshot.lastMarketMessageMonoNs}, socket={snapshot.lastSocketActivityMonoNs}, last_durable={snapshot.lastDurableMonoNs}, observation={monoNs}"
  else .ok ()

def validateTelemetryRecord (record : TelemetryRecord) : Except String Unit := do
  record.depth.validate "depth" record.monoNs
  record.trade.validate "trade" record.monoNs

/-! ## Gauges -/

/-- The gauges of `StreamHealth` that have a maximum beside them. -/
inductive Gauge where
  | queueRecords
  | queueBytes
  | syncDuration
  deriving DecidableEq

def StreamHealth.gauge (health : StreamHealth) : Gauge → Nat
  | .queueRecords => health.queueRecords
  | .queueBytes => health.queueBytes
  | .syncDuration => health.lastSyncDurationNs

def StreamHealth.maximum (health : StreamHealth) : Gauge → Nat
  | .queueRecords => health.maxQueueRecords
  | .queueBytes => health.maxQueueBytes
  | .syncDuration => health.maxSyncDurationNs

def StreamHealth.setGauge (health : StreamHealth) (gauge : Gauge) (value : Nat) : StreamHealth :=
  match gauge with
  | .queueRecords => { health with queueRecords := value }
  | .queueBytes => { health with queueBytes := value }
  | .syncDuration => { health with lastSyncDurationNs := value }

def StreamHealth.setMaximum (health : StreamHealth) (gauge : Gauge) (value : Nat) : StreamHealth :=
  match gauge with
  | .queueRecords => { health with maxQueueRecords := value }
  | .queueBytes => { health with maxQueueBytes := value }
  | .syncDuration => { health with maxSyncDurationNs := value }

def StreamHealthSnapshot.gauge (snapshot : StreamHealthSnapshot) : Gauge → Nat
  | .queueRecords => snapshot.queueRecords
  | .queueBytes => snapshot.queueBytes
  | .syncDuration => snapshot.lastSyncDurationNs

def StreamHealthSnapshot.maximum (snapshot : StreamHealthSnapshot) : Gauge → Nat
  | .queueRecords => snapshot.maxQueueRecords
  | .queueBytes => snapshot.maxQueueBytes
  | .syncDuration => snapshot.maxSyncDurationNs

/-- What is watched of a gauge; these are no variables of the program. -/
structure Watch where
  /-- A thread has set the gauge to this value and not yet offered it to the maximum. -/
  unpublished : Option Nat := none
  /-- The observer has loaded the gauge above its maximum, and no maximum was published since. -/
  exposed : Bool := false
  /-- The observer has loaded a maximum while the gauge it held was exposed. -/
  torn : Bool := false
  /-- What the producer has counted and not handed to the queue. -/
  offered : Nat := 0
  /-- What the writer has taken from the queue and not discounted. -/
  taken : Nat := 0
  /-- A subtraction has wrapped below zero. -/
  wrapped : Bool := false
  deriving DecidableEq

/-- What is watched of a gauge whose value is published. -/
def Watch.settled (watch : Watch) : Watch := { watch with unpublished := none, exposed := false }

def Gauge.measure (frame : CapturedFrame) : Gauge → Nat
  | .queueRecords => 1
  | .queueBytes => frame.payload.length
  | .syncDuration => 0

/-- `fetch_sub` on a counter. -/
def wrappingSub (a b : Nat) : Nat := if b ≤ a then a - b else a + (u64Max + 1) - b

/-! ## The shared state -/

structure SupervisorStopCause where
  source : String
  reason : String
  campaignFailureRecordSha256 : Option String
  deriving DecidableEq

structure ProducerResult where
  name : String
  uri : String
  epoch : String
  received : Nat
  transportJournal : Option TransportJournalSealV1
  error : Option String
  deriving DecidableEq

structure WriterResult where
  name : String
  written : Nat
  durableRecords : Nat
  segments : Nat
  manifestDigest : String
  terminalRawDigest : String
  error : Option String
  deriving DecidableEq

/-- What the threads share of one stream. `appendErrors` are the errors the appends to the
    transport journal have returned, `snapshots` the ones taken and `inHand` the frame the writer
    took last; they are no variables of the program, and neither is `watch`. -/
structure StreamState where
  health : StreamHealth := {}
  watch : Gauge → Watch := fun _ => {}
  snapshots : List StreamHealthSnapshot := []
  inHand : Option CapturedFrame := none
  queue : List CapturedFrame := []
  senderAlive : Bool := true
  receiverAlive : Bool := true
  journal : Option TransportJournalWriter := none
  appendErrors : List String := []
  producerResult : Option ProducerResult := none
  writerResult : Option WriterResult := none

def StreamState.withGauge (state : StreamState) (g : Gauge) (value : Nat) (watch : Watch) :
    StreamState :=
  { state with
    health := state.health.setGauge g value
    watch := Function.update state.watch g watch }

def StreamState.withMaximum (state : StreamState) (g : Gauge) (value : Nat) (watch : Watch) :
    StreamState :=
  { state with
    health := state.health.setMaximum g value
    watch := Function.update state.watch g watch }

/-- What the threads share. `telemetry` are the records `append_telemetry` has built; it is no
    variable of the program. -/
structure Shared where
  clock : Nat := 0
  stop : Bool := false
  supervisorStop : Option SupervisorStopCause := none
  clockMetadata : ClockMetadata
  stream : BoundaryStreamKind → StreamState := fun _ => {}
  telemetry : List TelemetryRecord := []

namespace Shared

def onStream (s : Shared) (k : BoundaryStreamKind) (f : StreamState → StreamState) : Shared :=
  { s with stream := Function.update s.stream k (f (s.stream k)) }

def onHealth (s : Shared) (k : BoundaryStreamKind) (f : StreamHealth → StreamHealth) : Shared :=
  s.onStream k fun state => { state with health := f state.health }

def onWatch (s : Shared) (k : BoundaryStreamKind) (g : Gauge) (f : Watch → Watch) : Shared :=
  s.onStream k fun state => { state with watch := Function.update state.watch g (f (state.watch g)) }

end Shared

/-! ## The environment -/

/-- The error of a WebSocket operation: its `Display` text, and the category, or the kind and
    number of an I/O error. -/
inductive WebSocketError where
  | io (message ioKind : String) (nativeOsError : Option Int)
  | other (message category : String)
  deriving DecidableEq

/-- `error.to_string()`. -/
def WebSocketError.message : WebSocketError → String
  | io message _ _ => message
  | other message _ => message

/-- The response of a WebSocket handshake: its status code and the text of the status. -/
structure HandshakeResponse where
  status : UInt64
  text : String
  deriving DecidableEq

/-- A close frame: the `Debug` text of its code, its reason, and the `Debug` text of the frame. -/
structure CloseFrame where
  code : String
  reason : String
  debug : String
  deriving DecidableEq

/-- `tungstenite::Message`. -/
inductive Message where
  | text (payload : Bytes)
  | binary (payload : Bytes)
  | close (frame : Option CloseFrame)
  | ping (payload : Bytes)
  | pong (payload : Bytes)
  | frame
  deriving DecidableEq

/-- What `socket.read()` returns: a message, an I/O error that says the read timed out, or
    another error. -/
inductive SocketRead where
  | message (message : Message)
  | timeout (ioKind : String) (nativeOsError : Option Int)
  | error (error : WebSocketError)
  deriving DecidableEq

/-- What `tcp_sample` finds: a sample, an error, or a platform without samples. -/
inductive TcpSample where
  | available (sample : Value)
  | unavailable (error : String)
  | unsupportedPlatform
  deriving DecidableEq

/-- What the environment answers to one action. -/
inductive Input where
  /-- An access of memory, which asks nothing. -/
  | access
  /-- The monotonic clock, in nanoseconds since the origin. -/
  | mono (ns : Nat)
  /-- `unix_ns` but for its last conversion. -/
  | wall (result : Except String Nat)
  /-- How an operation ends that returns nothing. -/
  | outcome (result : Except String Unit)
  /-- How the write of a line ends. -/
  | write (fault : Fault)
  /-- The faults of the operations on a file just created. -/
  | faults (faults : List Fault)
  /-- The files as they are read back. -/
  | files (files : Files)
  | dns (result : Except String (List String))
  | connect (result : Except WebSocketError HandshakeResponse)
  | endpoints (result : Except String (String × String))
  | tcp (sample : TcpSample)
  | read (result : SocketRead)
  | clock (result : Except String ClockMetadata)
  /-- What the supervisor finds of its own: a reason to stop, if any. -/
  | finding (cause : Option SupervisorStopCause)

abbrev Thread (α : Type) := Program Input Shared Failure α

namespace Thread

variable {α : Type}

def load (f : Shared → α) : Thread α := .atomic fun _ s => some (f s, s)

def store (f : Shared → Shared) : Thread Unit := .atomic fun _ s => some ((), f s)

/-- An atomic read-modify-write. -/
def exchange (f : Shared → α × Shared) : Thread α := .atomic fun _ s => some (f s)

/-- An answer of the environment that changes nothing the threads share. -/
def ask (f : Input → Option α) : Thread α := .atomic fun i s => (f i).map fun a => (a, s)

/-- `Err(message)`. -/
def fail (message : String) : Thread α := Program.fail (.err message)

/-- The `?` operator. -/
def ofExcept : Except String α → Thread α
  | .ok a => pure a
  | .error message => fail message

/-- The `?` operator, on a call that may also abort the process. -/
def ofResult : Result α → Thread α
  | .ok a => pure a
  | .error e => Program.fail e

/-- A closure that returns a `Result`, called at once. An abort goes through it. -/
def closure (body : Thread α) : Thread (Except String α) := do
  match ← body.attempt with
  | .ok a => pure (.ok a)
  | .error (.err message) => pure (.error message)
  | .error .abort => Program.fail .abort

/-- `Instant::now()`. -/
def now : Thread Nat := .atomic fun i s =>
  match i with
  | .mono ns => if s.clock ≤ ns then some (ns, { s with clock := ns }) else none
  | _ => none

/-- `instant.elapsed()`. -/
def elapsed (since : Nat) : Thread Nat := do
  let ns ← now
  pure (ns - since)

def elapsedNs : Thread Nat := do
  let ns ← now
  if ns ≤ u64Max then pure ns else fail "monotonic nanoseconds overflow u64"

def unixNs : Thread Nat := do
  let result ← ask fun
    | .wall result => some result
    | _ => none
  let ns ← ofExcept result
  if ns ≤ u64Max then pure ns else fail "wall clock nanoseconds overflow u64"

/-- An operation that returns nothing. -/
def outcome : Thread (Except String Unit) := ask fun
  | .outcome result => some result
  | _ => none

/-- An operation that returns nothing, with `?`. -/
def perform (context : String) : Thread Unit := do
  match ← outcome with
  | .ok () => pure ()
  | .error error => fail s!"{context}: {error}"

def loadHealth (k : BoundaryStreamKind) (f : StreamHealth → α) : Thread α :=
  load fun s => f (s.stream k).health

def storeHealth (k : BoundaryStreamKind) (f : StreamHealth → StreamHealth) : Thread Unit :=
  store fun s => s.onHealth k f

/-- `gauge.fetch_add(n)`; the answer is the sum. -/
def raise (k : BoundaryStreamKind) (g : Gauge) (n : Nat) : Thread Nat := exchange fun s =>
  let sum := (s.stream k).health.gauge g + n
  (sum, s.onStream k fun state =>
    state.withGauge g sum { state.watch g with unpublished := some sum, offered := n })

/-- `gauge.fetch_sub(n)`. -/
def lower (k : BoundaryStreamKind) (g : Gauge) (n : Nat) (settle : Watch → Watch) : Thread Unit :=
  store fun s => s.onStream k fun state =>
    let value := state.health.gauge g
    state.withGauge g (wrappingSub value n)
      (settle { state.watch g with wrapped := (state.watch g).wrapped || decide (value < n) })

/-- `gauge.fetch_sub(n)` of a frame the queue did not take. -/
def withdraw (k : BoundaryStreamKind) (g : Gauge) (n : Nat) : Thread Unit :=
  lower k g n fun watch => { watch with offered := 0 }

/-- `gauge.fetch_sub(n)` of a frame that was taken from the queue. -/
def discount (k : BoundaryStreamKind) (g : Gauge) (n : Nat) : Thread Unit :=
  lower k g n fun watch => { watch with taken := 0 }

/-- `gauge.store(value)`. -/
def setGauge (k : BoundaryStreamKind) (g : Gauge) (value : Nat) : Thread Unit := store fun s =>
  s.onStream k fun state =>
    state.withGauge g value { state.watch g with unpublished := some value }

/-- `update_max(&maximum, value)`. The loop of loads and exchanges is one step: no other thread
    stores to the maximum, so an exchange fails spuriously only. -/
def updateMax (k : BoundaryStreamKind) (g : Gauge) (value : Nat) : Thread Unit := store fun s =>
  s.onStream k fun state =>
    state.withMaximum g (max (state.health.maximum g) value) (state.watch g).settled

end Thread

/-- `u64::try_from(duration.as_millis()).unwrap_or(u64::MAX)`. -/
def asMillis (ns : Nat) : UInt64 := UInt64.ofNat (min (ns / 1000000) u64Max)

/-- `u64::try_from(duration.as_nanos()).unwrap_or(u64::MAX)`. -/
def asNanos (ns : Nat) : Nat := min ns u64Max

/-- The configuration of a capture: what its threads are given and the libraries they call. -/
structure CaptureConfig where
  transport : TransportCodec
  segment : SegmentCodec
  progress : Progress.ProgressWriteCodec
  root : String
  symbol : String
  epoch : BoundaryStreamKind → String
  segmentDurationNs : Nat
  specRevision : String
  /-- The injected stall of a stream: the time it starts at. -/
  fault : BoundaryStreamKind → Option Nat

def streamName : BoundaryStreamKind → String
  | .depth => "depth"
  | .trade => "trade"

/-- `symbol.to_ascii_lowercase()`. -/
def toAsciiLowercase (symbol : String) : String :=
  String.ofList (symbol.toList.map fun c =>
    if 65 ≤ c.toNat ∧ c.toNat ≤ 90 then Char.ofNat (c.toNat + 32) else c)

namespace CaptureConfig

/-- `stream_name`. -/
def channel (config : CaptureConfig) : BoundaryStreamKind → String
  | .depth => toAsciiLowercase config.symbol ++ "@depth@100ms"
  | .trade => toAsciiLowercase config.symbol ++ "@trade"

/-- `stream_uri`. -/
def uri (config : CaptureConfig) (k : BoundaryStreamKind) : String :=
  "wss://data-stream.binance.vision:443/ws/" ++ config.channel k ++ "?timeUnit=MICROSECOND"

def journalPath (config : CaptureConfig) (k : BoundaryStreamKind) : String :=
  s!"{config.root}/transport-{streamName k}-events.jsonl"

end CaptureConfig

end LobReplay.Segmented
