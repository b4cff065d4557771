/-
  The public WebSocket session of transport.rs: `BoundedRawSink` and `PublicWsSession` with `handle`
  and `watchdog_tick`. Times are naturals, Rust's `saturating_sub` is their subtraction; serde_json
  is a parameter.

  `StepEffect` lists everything a call can do (`step_effect`). The counters of the sink cannot
  overflow: a frame is queued only when its index has a successor below 2^64.
-/

import LobReplay.Foundation.Machine
import LobReplay.Json

namespace LobReplay.Transport

open Foundation

/-! ## Data -/

def oneSecondNs : Nat := 1000000000

def maxClientControlPerSecond : Nat := 5

def maxControlPayloadBytes : Nat := 125

def maxDataPayloadBytes : Nat := 4 * 1024 * 1024

inductive WsInput where
  | data (payload : Bytes)
  | ping (payload : Bytes)
  | pong (payload : Bytes)
  | close (code : Option UInt16) (reason : String)
  | transportError (reason : String)
  deriving DecidableEq

inductive TransportState where
  | «open»
  | shutdownAnnounced
  | closed
  | failed
  deriving DecidableEq

namespace TransportState

/-- `matches!(state, TransportState::Closed | TransportState::Failed)`. -/
def isTerminal : TransportState → Bool
  | closed => true
  | failed => true
  | _ => false

/-- The `Debug` text. -/
def debug : TransportState → String
  | «open» => "Open"
  | shutdownAnnounced => "ShutdownAnnounced"
  | closed => "Closed"
  | failed => "Failed"

end TransportState

inductive TransportAction where
  | rawEnqueued (frameIndex : Nat)
  | respondPong (expectedPayload : Bytes)
  | sendPing (payload : Bytes)
  | beginHandover (reason : String)
  | epochClosed (reason : String)
  | invalidateEpoch (reason : String)
  deriving DecidableEq

structure QueuedRawFrame where
  frameIndex : Nat
  receiveMonoNs : Nat
  payload : Bytes
  deriving DecidableEq

structure BoundedRawSink where
  capacity : Nat
  queue : List QueuedRawFrame
  enqueued : Nat
  drained : Nat
  maxDepth : Nat
  localDrops : Nat
  deriving DecidableEq

namespace BoundedRawSink

def new (capacity : Nat) : Result BoundedRawSink :=
  if capacity = 0 then err "raw sink capacity must be positive"
  else .ok ⟨capacity, [], 0, 0, 0, 0⟩

def depth (sink : BoundedRawSink) : Nat := sink.queue.length

def drainOne (sink : BoundedRawSink) : Option QueuedRawFrame × BoundedRawSink :=
  match sink.queue with
  | [] => (none, sink)
  | frame :: queue => (some frame, { sink with queue, drained := sink.drained + 1 })

/-- `enqueue`: whether the frame was queued. -/
def enqueue (sink : BoundedRawSink) (frame : QueuedRawFrame) : Bool × BoundedRawSink :=
  if sink.capacity ≤ sink.queue.length then (false, { sink with localDrops := sink.localDrops + 1 })
  else
    let queue := sink.queue ++ [frame]
    (true, { sink with
      queue
      enqueued := sink.enqueued + 1
      maxDepth := max sink.maxDepth queue.length })

end BoundedRawSink

structure PublicWsSession where
  epoch : String
  state : TransportState
  rawSink : BoundedRawSink
  nextFrameIndex : Nat
  lastReceiveMonoNs : Option Nat
  outboundControlNs : List Nat
  lastPingSentMonoNs : Option Nat
  awaitingPong : Bool
  lastPongMonoNs : Option Nat
  lastPingRttNs : Option Nat
  lastWatchdogTickMonoNs : Option Nat
  deriving DecidableEq

/-- `classify_server_shutdown`; a missing member of a `Value` is `Null`. -/
def classifyServerShutdown (fromSlice : Bytes → Except String Value) (payload : Bytes) :
    Except String Bool :=
  match fromSlice payload with
  | .error _ => .ok false
  | .ok value =>
    let data := (value.get "data").getD .null
    let rawShutdown := value.strField "e" = some "serverShutdown"
    let combinedShutdown := value.strField "stream" = some "!serverShutdown" ∧
      data.strField "e" = some "serverShutdown"
    if ¬ rawShutdown ∧ ¬ combinedShutdown then .ok false
    else
      let event := if rawShutdown then value else data
      if event.u64Field "E" = none then .error "serverShutdown event has invalid event time"
      else .ok true

namespace PublicWsSession

def new (epoch : String) (rawCapacity : Nat) : Result PublicWsSession :=
  if isBlank epoch then err "transport epoch must not be empty"
  else do
    let rawSink ← BoundedRawSink.new rawCapacity
    return ⟨epoch, .open, rawSink, 0, none, [], none, false, none, none, none⟩

/-! ## Calls -/

def invalidate (s : PublicWsSession) (reason : String) : List TransportAction × PublicWsSession :=
  ([.invalidateEpoch reason], { s with state := .failed })

/-- The result of a call that is refused for good. -/
def invalidated (s : PublicWsSession) (reason : String) :
    Result (List TransportAction) × PublicWsSession :=
  (.ok (s.invalidate reason).1, (s.invalidate reason).2)

def handleData (fromSlice : Bytes → Except String Value) (s : PublicWsSession) (payload : Bytes)
    (monoNs : Nat) : Result (List TransportAction) × PublicWsSession :=
  if maxDataPayloadBytes < payload.length then s.invalidated "websocket data payload exceeds 4 MiB"
  else
    let frameIndex := s.nextFrameIndex
    match checkedAdd s.nextFrameIndex 1 with
    | none => s.invalidated "transport frame index overflow"
    | some nextFrameIndex =>
      match s.rawSink.enqueue ⟨frameIndex, monoNs, payload⟩ with
      | (false, rawSink) =>
        { s with rawSink }.invalidated "bounded raw sink overflow; received frame was not durable"
      | (true, rawSink) =>
        let s := { s with rawSink, nextFrameIndex }
        let actions := [.rawEnqueued frameIndex]
        match classifyServerShutdown fromSlice payload with
        | .error reason =>
          let invalid := s.invalidate reason
          (.ok (actions ++ invalid.1), invalid.2)
        | .ok shutdown =>
          if shutdown ∧ s.state = .open then
            (.ok (actions ++ [.beginHandover "official serverShutdown event"]),
              { s with state := .shutdownAnnounced })
          else (.ok actions, s)

def handlePing (s : PublicWsSession) (payload : Bytes) (monoNs : Nat) :
    Result (List TransportAction) × PublicWsSession :=
  if maxControlPayloadBytes < payload.length then
    s.invalidated "ping payload exceeds WebSocket control-frame limit"
  else
    let outboundControlNs := s.outboundControlNs.dropWhile fun oldest =>
      oneSecondNs ≤ monoNs - oldest
    let s := { s with outboundControlNs }
    if maxClientControlPerSecond ≤ outboundControlNs.length then
      s.invalidated "client control-message rate would exceed 5 per second"
    else
      (.ok [.respondPong payload], { s with outboundControlNs := outboundControlNs ++ [monoNs] })

/-- The `Debug` text of a close code. -/
def debugCode : Option UInt16 → String
  | none => "None"
  | some code => s!"Some({code})"

def handle (fromSlice : Bytes → Except String Value) (s : PublicWsSession) (input : WsInput)
    (monoNs : Nat) : Result (List TransportAction) × PublicWsSession :=
  if s.state.isTerminal then (err s!"transport epoch is terminal: {s.state.debug}", s)
  else if s.lastReceiveMonoNs.any fun previous => monoNs < previous then
    s.invalidated "monotonic receive time regressed"
  else
    let s := { s with lastReceiveMonoNs := some monoNs }
    match input with
    | .data payload => s.handleData fromSlice payload monoNs
    | .ping payload => s.handlePing payload monoNs
    | .pong _ =>
      if s.awaitingPong then
        (.ok [], { s with
          awaitingPong := false
          lastPongMonoNs := some monoNs
          lastPingRttNs := match s.lastPingSentMonoNs with
            | some sent => some (monoNs - sent)
            | none => s.lastPingRttNs })
      else (.ok [], s)
    | .close code reason =>
      (.ok [.epochClosed s!"websocket close code={debugCode code} reason={reason}"],
        { s with state := .closed })
    | .transportError reason => s.invalidated s!"websocket transport error: {reason}"

def watchdogTick (s : PublicWsSession) (nowMonoNs pingIntervalNs pongDeadlineNs : Nat) :
    Result (List TransportAction) × PublicWsSession :=
  if s.state.isTerminal then (err s!"transport epoch is terminal: {s.state.debug}", s)
  else if pingIntervalNs = 0 ∨ pongDeadlineNs = 0 then
    (err "watchdog ping interval and pong deadline must be positive", s)
  else if s.lastWatchdogTickMonoNs.any fun previous => nowMonoNs < previous then
    (err "watchdog monotonic tick time regressed", s)
  else
    let s := { s with lastWatchdogTickMonoNs := some nowMonoNs }
    if s.awaitingPong then
      if s.lastPingSentMonoNs.any fun sent => pongDeadlineNs ≤ nowMonoNs - sent then
        s.invalidated "watchdog pong deadline exceeded: transport dead"
      else (.ok [], s)
    else if s.lastPingSentMonoNs.all fun sent => pingIntervalNs ≤ nowMonoNs - sent then
      (.ok [.sendPing []], { s with lastPingSentMonoNs := some nowMonoNs, awaitingPong := true })
    else (.ok [], s)

/-- The calls on a session and on its sink. -/
inductive WsCall where
  | handle (input : WsInput) (monoNs : Nat)
  | watchdogTick (nowMonoNs pingIntervalNs pongDeadlineNs : Nat)
  | drainOne
  deriving DecidableEq

/-- What a call returns. -/
inductive WsReply where
  | actions (result : Result (List TransportAction))
  | drained (frame : Option QueuedRawFrame)
  deriving DecidableEq

def step (fromSlice : Bytes → Except String Value) (s : PublicWsSession) :
    WsCall → WsReply × PublicWsSession
  | .handle input monoNs =>
    let r := s.handle fromSlice input monoNs
    (.actions r.1, r.2)
  | .watchdogTick nowMonoNs pingIntervalNs pongDeadlineNs =>
    let r := s.watchdogTick nowMonoNs pingIntervalNs pongDeadlineNs
    (.actions r.1, r.2)
  | .drainOne =>
    let r := s.rawSink.drainOne
    (.drained r.1, { s with rawSink := r.2 })

/-! ## One call -/

def enqueuedIndexes (actions : List TransportAction) : List Nat :=
  actions.filterMap fun
    | .rawEnqueued frameIndex => some frameIndex
    | _ => none

def WsCall.isSession : WsCall → Bool
  | .drainOne => false
  | _ => true

/-- A received data frame. -/
def WsCall.isData : WsCall → Bool
  | .handle (.data _) _ => true
  | _ => false

inductive StepEffect (s : PublicWsSession) (c : WsCall) : WsReply → PublicWsSession → Prop
  /-- A session call is refused and changes nothing. -/
  | refused {e : Failure} (hcall : c.isSession)
      (hdata : c.isData → s.state.isTerminal) :
      StepEffect s c (.actions (.error e)) s
  /-- A session call that queues nothing; a data frame that is not queued invalidates. -/
  | quiet {actions : List TransportAction} {s' : PublicWsSession} (hcall : c.isSession)
      (hlive : ¬ s.state.isTerminal) (hindexes : enqueuedIndexes actions = [])
      (hqueue : s'.rawSink.queue = s.rawSink.queue)
      (hcapacity : s'.rawSink.capacity = s.rawSink.capacity)
      (henqueued : s'.rawSink.enqueued = s.rawSink.enqueued)
      (hdrained : s'.rawSink.drained = s.rawSink.drained)
      (hnext : s'.nextFrameIndex = s.nextFrameIndex)
      (hdata : c.isData → s'.state = .failed ∧ ∃ reason, .invalidateEpoch reason ∈ actions) :
      StepEffect s c (.actions (.ok actions)) s'
  /-- A data frame is queued. -/
  | queued {payload : Bytes} {monoNs : Nat} {rest : List TransportAction} {s' : PublicWsSession}
      (hcall : c = .handle (.data payload) monoNs) (hlive : ¬ s.state.isTerminal)
      (hroom : s.rawSink.queue.length < s.rawSink.capacity)
      (hindexes : enqueuedIndexes rest = [])
      (hqueue : s'.rawSink.queue = s.rawSink.queue ++ [⟨s.nextFrameIndex, monoNs, payload⟩])
      (hcapacity : s'.rawSink.capacity = s.rawSink.capacity)
      (henqueued : s'.rawSink.enqueued = s.rawSink.enqueued + 1)
      (hdrained : s'.rawSink.drained = s.rawSink.drained)
      (hnext : s'.nextFrameIndex = s.nextFrameIndex + 1) :
      StepEffect s c (.actions (.ok (.rawEnqueued s.nextFrameIndex :: rest))) s'
  /-- The sink has nothing to drain. -/
  | empty (hcall : c = .drainOne) (hqueue : s.rawSink.queue = []) :
      StepEffect s c (.drained none) s
  /-- The sink gives its first frame. -/
  | drained {frame : QueuedRawFrame} {queue : List QueuedRawFrame} (hcall : c = .drainOne)
      (hqueue : s.rawSink.queue = frame :: queue) :
      StepEffect s c (.drained (some frame)) { s with
        rawSink := { s.rawSink with queue := queue, drained := s.rawSink.drained + 1 } }

section

variable {fromSlice : Bytes → Except String Value} {s : PublicWsSession}

theorem invalidated_effect {c : WsCall} (hcall : c.isSession) (hlive : ¬ s.state.isTerminal)
    {s₁ : PublicWsSession} (reason : String) (hqueue : s₁.rawSink.queue = s.rawSink.queue)
    (hcapacity : s₁.rawSink.capacity = s.rawSink.capacity)
    (henqueued : s₁.rawSink.enqueued = s.rawSink.enqueued)
    (hdrained : s₁.rawSink.drained = s.rawSink.drained)
    (hnext : s₁.nextFrameIndex = s.nextFrameIndex) :
    StepEffect s c (.actions (s₁.invalidated reason).1) (s₁.invalidated reason).2 :=
  .quiet hcall hlive rfl hqueue hcapacity henqueued hdrained hnext
    fun _ => ⟨rfl, reason, List.mem_singleton_self _⟩

/-- **Step.** A data frame. -/
theorem handleData_effect (hlive : ¬ s.state.isTerminal) (payload : Bytes) (monoNs : Nat) :
    let r := ({ s with lastReceiveMonoNs := some monoNs } : PublicWsSession).handleData fromSlice
      payload monoNs
    StepEffect s (.handle (.data payload) monoNs) (.actions r.1) r.2 := by
  dsimp only
  unfold handleData
  split
  · exact invalidated_effect rfl hlive _ rfl rfl rfl rfl rfl
  dsimp only
  split
  · exact invalidated_effect rfl hlive _ rfl rfl rfl rfl rfl
  next next hnext =>
  have hnext : next = s.nextFrameIndex + 1 := by
    unfold checkedAdd at hnext
    split at hnext
    · exact (Option.some.inj hnext).symm
    · cases hnext
  subst hnext
  unfold BoundedRawSink.enqueue
  dsimp only
  by_cases hfull : s.rawSink.capacity ≤ s.rawSink.queue.length
  · rw [if_pos hfull]
    exact invalidated_effect rfl hlive _ rfl rfl rfl rfl rfl
  rw [if_neg hfull]
  dsimp only
  -- the frame is queued, whatever the classification says
  split
  · exact .queued rfl hlive (Nat.lt_of_not_le hfull) rfl rfl rfl rfl rfl rfl
  · split
    · exact .queued rfl hlive (Nat.lt_of_not_le hfull) rfl rfl rfl rfl rfl rfl
    · exact .queued rfl hlive (Nat.lt_of_not_le hfull) rfl rfl rfl rfl rfl rfl

/-- **Step.** A ping. -/
theorem handlePing_effect (hlive : ¬ s.state.isTerminal) (payload : Bytes) (monoNs : Nat) :
    let r := ({ s with lastReceiveMonoNs := some monoNs } : PublicWsSession).handlePing payload monoNs
    StepEffect s (.handle (.ping payload) monoNs) (.actions r.1) r.2 := by
  dsimp only
  unfold handlePing
  split
  · exact invalidated_effect rfl hlive _ rfl rfl rfl rfl rfl
  dsimp only
  split
  · exact invalidated_effect rfl hlive _ rfl rfl rfl rfl rfl
  · exact .quiet rfl hlive rfl rfl rfl rfl rfl rfl (fun h => by cases h)

theorem handle_effect (input : WsInput) (monoNs : Nat) :
    StepEffect s (.handle input monoNs) (.actions (s.handle fromSlice input monoNs).1)
      (s.handle fromSlice input monoNs).2 := by
  unfold handle
  by_cases hlive : s.state.isTerminal
  · rw [if_pos hlive]
    exact .refused rfl fun _ => hlive
  rw [if_neg hlive]
  split
  · exact invalidated_effect rfl hlive _ rfl rfl rfl rfl rfl
  cases input with
  | data payload => exact handleData_effect hlive payload monoNs
  | ping payload => exact handlePing_effect hlive payload monoNs
  | pong payload =>
    dsimp only
    split
    · exact .quiet rfl hlive rfl rfl rfl rfl rfl rfl (fun h => by cases h)
    · exact .quiet rfl hlive rfl rfl rfl rfl rfl rfl (fun h => by cases h)
  | close code reason => exact .quiet rfl hlive rfl rfl rfl rfl rfl rfl (fun h => by cases h)
  | transportError reason => exact invalidated_effect rfl hlive _ rfl rfl rfl rfl rfl

theorem watchdogTick_effect (nowMonoNs pingIntervalNs pongDeadlineNs : Nat) :
    let r := s.watchdogTick nowMonoNs pingIntervalNs pongDeadlineNs
    StepEffect s (.watchdogTick nowMonoNs pingIntervalNs pongDeadlineNs) (.actions r.1) r.2 := by
  dsimp only
  unfold watchdogTick
  by_cases hlive : s.state.isTerminal
  · rw [if_pos hlive]
    exact .refused rfl fun _ => hlive
  rw [if_neg hlive]
  split
  · exact .refused rfl (fun h => by cases h)
  split
  · exact .refused rfl (fun h => by cases h)
  dsimp only
  split
  · split
    · exact invalidated_effect rfl hlive _ rfl rfl rfl rfl rfl
    · exact .quiet rfl hlive rfl rfl rfl rfl rfl rfl (fun h => by cases h)
  · split
    · exact .quiet rfl hlive rfl rfl rfl rfl rfl rfl (fun h => by cases h)
    · exact .quiet rfl hlive rfl rfl rfl rfl rfl rfl (fun h => by cases h)

/-- **Step.** Every call. -/
theorem step_effect (c : WsCall) : StepEffect s c (s.step fromSlice c).1 (s.step fromSlice c).2 := by
  cases c with
  | handle input monoNs => exact handle_effect input monoNs
  | watchdogTick nowMonoNs pingIntervalNs pongDeadlineNs =>
    exact watchdogTick_effect nowMonoNs pingIntervalNs pongDeadlineNs
  | drainOne =>
    unfold step BoundedRawSink.drainOne
    cases hqueue : s.rawSink.queue with
    | nil => exact .empty rfl hqueue
    | cons frame queue => exact .drained rfl hqueue

end

end PublicWsSession

end LobReplay.Transport
