/-
  The events of a transport journal and what `valid_transport_payload` asks of the payload of each
  (transport_journal.rs). The source matches on the text of an event; here the text is read as a
  `TransportEvent` first, and a text that is none has no valid payload.
-/

import LobReplay.Foundation.SocketAddr
import LobReplay.Json

namespace LobReplay.Segmented

open Foundation

/-! ## Events -/

/-- The events `valid_transport_payload` knows. -/
inductive TransportEvent where
  | connectAttempt
  | dnsObserved
  | dnsFailed
  | connectFailed
  | websocketUpgradeRejected
  | websocketConnected
  | faultInjectedSilentStall
  | readTimeout
  | transportDeadline
  | socketReadError
  | websocketClose
  | wsPingPongFlushed
  | wsPongReceived
  | watchdogPingSent
  | watchdogPongDeadline
  | unexpectedRawFrame
  | clientStopObserved
  | supervisorFailureStop
  | producerFailure
  | transportTerminal
  deriving DecidableEq

namespace TransportEvent

def name : TransportEvent → String
  | connectAttempt => "CONNECT_ATTEMPT"
  | dnsObserved => "DNS_OBSERVED"
  | dnsFailed => "DNS_FAILED"
  | connectFailed => "CONNECT_FAILED"
  | websocketUpgradeRejected => "WEBSOCKET_UPGRADE_REJECTED"
  | websocketConnected => "WEBSOCKET_CONNECTED"
  | faultInjectedSilentStall => "FAULT_INJECTED_SILENT_STALL"
  | readTimeout => "READ_TIMEOUT"
  | transportDeadline => "TRANSPORT_DEADLINE"
  | socketReadError => "SOCKET_READ_ERROR"
  | websocketClose => "WEBSOCKET_CLOSE"
  | wsPingPongFlushed => "WS_PING_PONG_FLUSHED"
  | wsPongReceived => "WS_PONG_RECEIVED"
  | watchdogPingSent => "WATCHDOG_PING_SENT"
  | watchdogPongDeadline => "WATCHDOG_PONG_DEADLINE"
  | unexpectedRawFrame => "UNEXPECTED_RAW_FRAME"
  | clientStopObserved => "CLIENT_STOP_OBSERVED"
  | supervisorFailureStop => "SUPERVISOR_FAILURE_STOP"
  | producerFailure => "PRODUCER_FAILURE"
  | transportTerminal => "TRANSPORT_TERMINAL"

def all : List TransportEvent :=
  [connectAttempt, dnsObserved, dnsFailed, connectFailed, websocketUpgradeRejected,
    websocketConnected, faultInjectedSilentStall, readTimeout, transportDeadline, socketReadError,
    websocketClose, wsPingPongFlushed, wsPongReceived, watchdogPingSent, watchdogPongDeadline,
    unexpectedRawFrame, clientStopObserved, supervisorFailureStop, producerFailure,
    transportTerminal]

def ofName (text : String) : Option TransportEvent := all.find? fun event => event.name == text

/-- The events that tell of a connection: they may only follow `WEBSOCKET_CONNECTED`. -/
def needsConnection : TransportEvent → Bool
  | readTimeout | transportDeadline | socketReadError | websocketClose | wsPingPongFlushed
  | wsPongReceived | watchdogPingSent | watchdogPongDeadline | unexpectedRawFrame
  | faultInjectedSilentStall | clientStopObserved => true
  | _ => false

end TransportEvent

/-! ## Payloads -/

end LobReplay.Segmented

namespace LobReplay.Value

/-- `exact_keys`: a map yields its keys in order. -/
def exactKeys (object : Value) (expected : List String) : Bool :=
  match object with
  | .object members => members.map (·.1) == expected
  | _ => false

/-- The closure `text`: a text that is not blank. -/
def hasText (object : Value) (field : String) : Bool := (object.strField field).any (! isBlank ·)

/-- A text that is not empty. -/
def hasFilled (object : Value) (field : String) : Bool := (object.strField field).any (· != "")

/-- The closure `u64_field`. -/
def hasU64 (object : Value) (field : String) : Bool := (object.u64Field field).isSome

/-- Null, or an integer in the range of `i64`. -/
def hasNullOrI64 (object : Value) (field : String) : Bool :=
  (object.get field).any fun value => value == .null || value.asI64.isSome

end LobReplay.Value

namespace LobReplay.Segmented

open Foundation

/-- `state_name` of a TCP state. -/
def tcpStateName (state : Int) : String :=
  if state = 0 then "CLOSED" else if state = 1 then "LISTEN" else if state = 2 then "SYN_SENT"
  else if state = 3 then "SYN_RECEIVED" else if state = 4 then "ESTABLISHED"
  else if state = 5 then "FIN_WAIT_1" else if state = 6 then "FIN_WAIT_2"
  else if state = 7 then "CLOSE_WAIT" else if state = 8 then "CLOSING"
  else if state = 9 then "LAST_ACK" else if state = 10 then "TIME_WAIT" else "UNKNOWN"

def validWindowsTcpSample (sample : Value) : Bool :=
  let state := (sample.get "state").bind Value.asI64
  sample.exactKeys ["api", "api_version", "bytes_in", "bytes_in_flight", "bytes_out",
      "bytes_reordered", "bytes_retransmitted", "congestion_window_bytes", "connection_time_ms",
      "duplicate_acks_in", "fast_retransmits", "min_rtt_us", "mss", "receive_buffer_bytes",
      "receive_window_bytes", "rtt_us", "schema", "send_window_bytes", "state", "state_name",
      "syn_retransmits", "timeout_episodes", "timestamps_enabled"] &&
    sample.strField "schema" == some "WindowsTcpInfoV0" &&
    sample.strField "api" == some "SIO_TCP_INFO" &&
    sample.u64Field "api_version" == some 0 &&
    ["bytes_in_flight", "bytes_reordered", "bytes_retransmitted", "congestion_window_bytes",
      "connection_time_ms", "duplicate_acks_in", "fast_retransmits", "min_rtt_us", "mss",
      "receive_buffer_bytes", "receive_window_bytes", "rtt_us", "send_window_bytes",
      "timeout_episodes"].all (fun name => (sample.u64Field name).any (· ≤ 4294967295)) &&
    ["bytes_in", "bytes_out", "connection_time_ms"].all sample.hasU64 &&
    (sample.u64Field "syn_retransmits").any (· ≤ 255) &&
    state.any (fun state => decide (-2 ^ 31 ≤ state ∧ state < 2 ^ 31)) &&
    sample.strField "state_name" == state.map tcpStateName &&
    (sample.get "timestamps_enabled").any fun value => value.asBool.isSome

def validTcpObservation (object : Value) : Bool :=
  match object.strField "status" with
  | some "AVAILABLE" =>
    object.exactKeys ["sample", "status"] && (object.get "sample").any validWindowsTcpSample
  | some "UNAVAILABLE" => object.exactKeys ["error", "status"] && object.hasText "error"
  | some "UNSUPPORTED_PLATFORM" => object.exactKeys ["status"]
  | _ => false

def validSocketEndpoint (value : Value) (expectedPort : Option Nat) : Bool :=
  (value.asStr.bind SocketAddr.parse).any fun address =>
    ! address.ip.isUnspecified && address.port != 0 && expectedPort.all (address.port == ·)

def validWebsocketError (error : Value) : Bool :=
  match error.strField "category" with
  | some "IO" =>
    error.exactKeys ["category", "io_kind", "message", "native_os_error"] &&
      error.hasFilled "io_kind" && error.hasFilled "message" &&
      error.hasNullOrI64 "native_os_error"
  | some category =>
    category != "" && error.exactKeys ["category", "message"] && error.hasFilled "message"
  | none => false

/-- `object.get("tcp_info").is_some_and(valid_tcp_observation)`. -/
def hasTcpInfo (object : Value) : Bool := (object.get "tcp_info").any validTcpObservation

/-- The fields the two DNS events share. -/
def isDnsTarget (object : Value) : Bool :=
  object.strField "host" == some "data-stream.binance.vision" &&
    object.u64Field "port" == some 443 &&
    object.strField "role" == some "DIAGNOSTIC_OBSERVATION_NOT_CONNECT_SELECTION"

/-- A close frame of `WEBSOCKET_CLOSE`, or null. -/
def validClose (close : Value) : Bool :=
  close == .null ||
    (close.exactKeys ["code", "reason"] && (close.strField "code").isSome &&
      (close.strField "reason").isSome)

/-- `campaign_failure_record_sha256` of a supervisor stop, by its source. -/
def isStopDigest (object : Value) : Bool :=
  match object.strField "source" with
  | some "CAMPAIGN_STOP_REQUEST" =>
    (object.strField "campaign_failure_record_sha256").any isLowerHex64
  | some "LOCAL_GENERATION_SUPERVISOR" =>
    (object.get "campaign_failure_record_sha256").any (· == .null)
  | _ => false

/-- `status` and `error` of `TRANSPORT_TERMINAL`. -/
def isTerminalStatus (object : Value) : Bool :=
  match object.strField "status" with
  | some "STOPPED" => (object.get "error").any (· == .null)
  | some "FAILED" => object.hasText "error"
  | _ => false

/-- `valid_transport_payload` of a known event and an object. -/
def TransportEvent.validPayload (object : Value) : TransportEvent → Bool
  | connectAttempt =>
    object.exactKeys ["uri"] &&
      (object.strField "uri").any fun uri =>
        (asBytes "wss://data-stream.binance.vision:443/ws/").isPrefixOf (asBytes uri)
  | dnsObserved =>
    object.exactKeys ["addresses", "host", "port", "role"] && isDnsTarget object &&
      ((object.get "addresses").bind Value.asArray).any fun addresses =>
        ! addresses.isEmpty && addresses.all fun address => validSocketEndpoint address (some 443)
  | dnsFailed =>
    object.exactKeys ["error", "host", "port", "role"] && object.hasText "error" &&
      isDnsTarget object
  | connectFailed =>
    object.exactKeys ["error"] && (object.get "error").any validWebsocketError
  | websocketUpgradeRejected =>
    object.exactKeys ["http_status"] &&
      (object.u64Field "http_status").any fun status =>
        100 ≤ status && status ≤ 599 && status != 101
  | websocketConnected =>
    object.exactKeys ["local_endpoint", "remote_endpoint", "tcp_info", "websocket_http_status"] &&
      (object.get "local_endpoint").any (validSocketEndpoint · none) &&
      (object.get "remote_endpoint").any (validSocketEndpoint · (some 443)) &&
      object.u64Field "websocket_http_status" == some 101 && hasTcpInfo object
  | faultInjectedSilentStall =>
    object.exactKeys ["after_mono_ns", "stream"] && object.hasU64 "after_mono_ns" &&
      (object.strField "stream").any fun stream => stream == "depth" || stream == "trade"
  | readTimeout =>
    object.exactKeys ["inactive_ms", "io_kind", "native_os_error", "tcp_info"] &&
      object.hasU64 "inactive_ms" && object.hasText "io_kind" &&
      object.hasNullOrI64 "native_os_error" && hasTcpInfo object
  | transportDeadline | watchdogPongDeadline =>
    object.exactKeys ["deadline_ms", "inactive_ms", "tcp_info"] &&
      object.hasU64 "deadline_ms" && object.hasU64 "inactive_ms" && hasTcpInfo object
  | socketReadError =>
    object.exactKeys ["error", "tcp_info"] && (object.get "error").any validWebsocketError &&
      hasTcpInfo object
  | websocketClose =>
    object.exactKeys ["close", "tcp_info"] && (object.get "close").any validClose &&
      hasTcpInfo object
  | wsPingPongFlushed =>
    object.exactKeys ["payload_bytes", "payload_sha256"] && object.hasU64 "payload_bytes" &&
      (object.strField "payload_sha256").any isLowerHex64
  | wsPongReceived =>
    -- historical journals carry only the two base keys
    (object.exactKeys ["payload_bytes", "payload_sha256"] ||
        object.exactKeys ["payload_bytes", "payload_sha256", "watchdog_rtt_ms"]) &&
      object.hasU64 "payload_bytes" && (object.strField "payload_sha256").any isLowerHex64 &&
      (object.get "watchdog_rtt_ms").all fun value => value == .null || value.asU64.isSome
  | watchdogPingSent =>
    object.exactKeys ["deadline_ms", "interval_ms"] && object.hasU64 "deadline_ms" &&
      object.hasU64 "interval_ms"
  | unexpectedRawFrame => object == .object []
  | clientStopObserved => object.exactKeys ["tcp_info"] && hasTcpInfo object
  | supervisorFailureStop =>
    object.exactKeys ["campaign_failure_record_sha256", "reason", "source", "tcp_info"] &&
      (object.get "campaign_failure_record_sha256").any (fun value =>
        value == .null || value.asStr.any isLowerHex64) &&
      object.hasText "reason" &&
      (object.strField "source").any (fun source =>
        source == "CAMPAIGN_STOP_REQUEST" || source == "LOCAL_GENERATION_SUPERVISOR") &&
      hasTcpInfo object && isStopDigest object
  | producerFailure =>
    object.exactKeys ["error", "stage"] && object.hasText "error" &&
      object.strField "stage" == some "PRODUCER_LOOP"
  | transportTerminal =>
    object.exactKeys ["error", "received", "status"] && object.hasU64 "received" &&
      isTerminalStatus object

def validTransportPayload (event : String) (payload : Value) : Bool :=
  payload.isObject && (TransportEvent.ofName event).any (·.validPayload payload)

end LobReplay.Segmented
