/-
  A window of trade records against its records one by one. The window passes over `serverShutdown`
  control frames; `materialize_trade_record`, which the live arbiter calls on every record, refuses
  them. So the two agree exactly on the windows without a control frame.
-/

import LobReplay.Observation.Materialize

namespace LobReplay.Observation

open Foundation Book
open Raw (RawRecordEnvelopeV1 RawFrame)

/-- The record is a `serverShutdown` control frame. -/
def ControlFrame (codec : BookCodec) (record : RawRecordEnvelopeV1) : Prop :=
  ∃ value, codec.fromSlice record.frame.payload = .ok value ∧
    value.strField "e" = some "serverShutdown"

section

variable {codec : BookCodec} {record : RawRecordEnvelopeV1}

theorem strictObject_eq_ok {payload : Bytes} {label : String} {value : Value} :
    strictObject codec payload label = .ok value ↔
      codec.fromSlice payload = .ok value ∧ value.isObject = true := by
  unfold strictObject
  rcases codec.fromSlice payload with e | parsed
  · simp
  · dsimp only
    by_cases h : parsed.isObject = true
    · rw [if_pos h, Except.ok.injEq, Except.ok.injEq]
      refine ⟨fun heq => ⟨heq, heq ▸ h⟩, fun heq => heq.1⟩
    · rw [if_neg h]
      simp only [err_ne_ok, Except.ok.injEq, false_iff, not_and]
      rintro rfl
      exact h

theorem serverShutdownPayload_eq_ok {isControl : Bool}
    (h : serverShutdownPayload codec record.frame.payload = .ok isControl) :
    isControl = true ↔ ControlFrame codec record := by
  obtain ⟨value, hvalue, h⟩ := bind_eq_ok.mp h
  obtain ⟨hparsed, -⟩ := strictObject_eq_ok.mp hvalue
  have hcontrol : ControlFrame codec record ↔ value.strField "e" = some "serverShutdown" := by
    refine ⟨?_, fun hevent => ⟨value, hparsed, hevent⟩⟩
    rintro ⟨other, hother, hevent⟩
    obtain rfl := Except.ok.inj (hparsed.symm.trans hother)
    exact hevent
  rw [hcontrol]
  by_cases hevent : value.strField "e" = some "serverShutdown"
  · rw [if_neg (not_not.mpr hevent)] at h
    obtain ⟨_, -, h⟩ := bind_eq_ok.mp h
    exact iff_of_true (Except.ok.inj h).symm hevent
  · rw [if_pos hevent] at h
    obtain rfl := Except.ok.inj h
    exact iff_of_false Bool.false_ne_true hevent

theorem materializeTradeRecord_control (h : ControlFrame codec record)
    (observation : CanonicalObservationV1) :
    materializeTradeRecord codec record ≠ .ok observation := by
  obtain ⟨value, hparsed, hevent⟩ := h
  intro hok
  obtain ⟨-, hok⟩ := ite_err_eq_ok.mp hok
  obtain ⟨_, hdigest, -⟩ := bind_eq_ok.mp hok
  obtain ⟨other, hother, hdigest⟩ := bind_eq_ok.mp hdigest
  obtain rfl := Except.ok.inj (hparsed.symm.trans (strictObject_eq_ok.mp hother).1)
  obtain ⟨htrade, -⟩ := ite_err_eq_ok.mp hdigest
  exact htrade (Or.inl (by simp [hevent]))

theorem materializeTradeRecord_of_digest {identity : RecordIdentity} {tradeId : UInt64}
    {eventDigest : String} (hscope : tradeScope identity.1 identity.2.1 = true)
    (hidentity : recordIdentity record = identity)
    (h : tradeObservationDigest codec record.frame.payload identity.1 = .ok (tradeId, eventDigest)) :
    materializeTradeRecord codec record
      = .ok (observationOf identity .trade record tradeId tradeId eventDigest) := by
  subst hidentity
  unfold materializeTradeRecord
  rw [if_neg (by simpa [recordIdentity] using hscope)]
  show (tradeObservationDigest codec record.frame.payload record.frame.symbol >>= _) = _
  rw [show tradeObservationDigest codec record.frame.payload record.frame.symbol = _ from h]
  rfl

end

/-! ## The window -/

variable {records : List RawRecordEnvelopeV1}

/-- **The loop.** Without a control frame the loop adds one observation a record, the one the
    record has by itself. -/
theorem tradeWindowLoop_eq {codec : BookCodec} {identity : RecordIdentity}
    (hscope : tradeScope identity.1 identity.2.1 = true) {previousTradeId : Option UInt64}
    {before observations : List CanonicalObservationV1}
    (hidentity : ∀ record ∈ records, recordIdentity record = identity)
    (hplain : ∀ record ∈ records, ¬ ControlFrame codec record)
    (h : tradeWindowLoop codec identity records previousTradeId before = .ok observations) :
    ∃ added, records.mapM (materializeTradeRecord codec) = .ok added ∧
      observations = before ++ added := by
  induction records generalizing previousTradeId before with
  | nil =>
    obtain rfl := Except.ok.inj h
    exact ⟨[], rfl, (List.append_nil _).symm⟩
  | cons record rest ih =>
    unfold tradeWindowLoop at h
    rcases hshutdown : serverShutdownPayload codec record.frame.payload with e | _ | _
    · simp [hshutdown] at h
    swap
    · exact absurd ((serverShutdownPayload_eq_ok hshutdown).mp rfl)
        (hplain record List.mem_cons_self)
    simp only [hshutdown] at h
    rcases hdigest : tradeObservationDigest codec record.frame.payload identity.1 with
      e | ⟨tradeId, eventDigest⟩
    · simp [hdigest] at h
    simp only [hdigest] at h
    obtain ⟨-, h⟩ := ite_err_eq_ok.mp h
    obtain ⟨added, hadded, heq⟩ := ih (fun r hr => hidentity r (List.mem_cons_of_mem _ hr))
      (fun r hr => hplain r (List.mem_cons_of_mem _ hr)) h
    refine ⟨observationOf identity .trade record tradeId tradeId eventDigest :: added, ?_, ?_⟩
    · rw [List.mapM_cons,
        materializeTradeRecord_of_digest hscope (hidentity record List.mem_cons_self) hdigest, hadded]
      rfl
    · rw [heq, List.append_assoc, List.singleton_append]

theorem mapM_ok_of_mem {α β : Type} {f : α → Result β} {xs : List α} {ys : List β}
    (h : xs.mapM f = .ok ys) {x : α} (hx : x ∈ xs) : ∃ y, f x = .ok y := by
  induction xs generalizing ys with
  | nil => simp at hx
  | cons first rest ih =>
    rw [List.mapM_cons] at h
    obtain ⟨y, hy, h⟩ := bind_eq_ok.mp h
    obtain ⟨later, hlater, -⟩ := bind_eq_ok.mp h
    rcases List.mem_cons.mp hx with rfl | hx
    · exact ⟨y, hy⟩
    · exact ih hlater hx

theorem identity_eq_ok {common : RecordIdentity} :
    identity records = .ok common ↔
      records ≠ [] ∧ ∀ record ∈ records, recordIdentity record = common := by
  unfold identity
  rcases records with _ | ⟨first, rest⟩
  · simp [okOr, bind, Except.bind, err]
  · show (if _ then _ else _ : Result RecordIdentity) = _ ↔ _
    rw [ite_err_eq_ok, Except.ok.injEq]
    simp only [List.any_eq_true, decide_eq_true_eq, not_exists, not_and, not_not, ne_eq,
      reduceCtorEq, not_false_eq_true, true_and]
    refine ⟨?_, ?_⟩
    · rintro ⟨hall, rfl⟩
      exact hall
    · intro hall
      have hfirst := hall first List.mem_cons_self
      exact ⟨fun record hrecord => (hall record hrecord).trans hfirst.symm, hfirst⟩

/-- **Live and window materialisation agree exactly on the windows without a control frame.** -/
theorem trade_records_agree_iff (codec : BookCodec) {records : List RawRecordEnvelopeV1}
    {observations : List CanonicalObservationV1}
    (hwindow : materializeTradeRecordWindow codec records = .ok observations) :
    records.mapM (materializeTradeRecord codec) = .ok observations ↔
      ∀ record ∈ records, ¬ ControlFrame codec record := by
  obtain ⟨common, hidentity, hwindow⟩ := bind_eq_ok.mp hwindow
  obtain ⟨_, -, hwindow⟩ := bind_eq_ok.mp hwindow
  obtain ⟨hscope, hloop⟩ := ite_err_eq_ok.mp hwindow
  refine ⟨fun hrecords record hrecord hcontrol => ?_, fun hplain => ?_⟩
  · obtain ⟨observation, hobservation⟩ := mapM_ok_of_mem hrecords hrecord
    exact materializeTradeRecord_control hcontrol observation hobservation
  · obtain ⟨added, hadded, heq⟩ := tradeWindowLoop_eq (by simpa using hscope)
      (identity_eq_ok.mp hidentity).2 hplain hloop
    rw [heq, List.nil_append]
    exact hadded

/-! ## A shutdown behind a trade -/

def sampleTrade : Value :=
  .object [("E", .nat 1001), ("M", .bool true), ("T", .nat 1000), ("e", .string "trade"),
    ("m", .bool false), ("p", .string "100.50"), ("q", .string "0.1"), ("s", .string "BTCUSDT"),
    ("t", .nat 7)]

/-- The control frame of a server that is about to close the connection. -/
def sampleShutdown : Value := .object [("E", .nat 1002), ("e", .string "serverShutdown")]

/-- A frame of the stream `stream`. -/
def sampleFrame (stream : String) (frameIndex : UInt64) (payload : Value) : RawFrame where
  venue := "binance-spot"
  environment := "test"
  endpoint := "ws"
  symbol := "BTCUSDT"
  stream := stream
  connectionEpoch := "a"
  frameIndex := frameIndex
  receiveWallNs := 1000 + frameIndex
  receiveMonoNs := 2000 + frameIndex
  payload := payload.toVec
  clockQuality := "UNSYNCHRONIZED"
  clockSource := "test"
  clockOffsetNs := none
  clockUncertaintyNs := none
  recorderState := "PENDING"
  specRevision := "1"

def sampleTradeRecord : RawRecordEnvelopeV1 where
  schema := "RawRecordEnvelopeV1"
  recordIndex := 0
  startOffset := 8
  endOffset := 749
  recordSha256 := "456d6f500b8c029599bd2aec64d2a7f82482f1dd6f4b5b6aa13eb834ba11355e"
  frame := sampleFrame "btcusdt@trade" 0 sampleTrade

def sampleShutdownRecord : RawRecordEnvelopeV1 where
  schema := "RawRecordEnvelopeV1"
  recordIndex := 1
  startOffset := 749
  endOffset := 1410
  recordSha256 := "d6ac43ea5cc540fb9c57f288870204fca1a24d813b5202ddfd7e5b5361c7ee3c"
  frame := sampleFrame "btcusdt@trade" 1 sampleShutdown

def sampleTradeCodec : BookCodec :=
  BookCodec.known [sampleTrade, sampleShutdown]
    [(asBytes "\x7b\"best_match\":true,\"buyer_is_maker\":false,\"price\":\"100.5\",\"quantity\":\"0.1\",\"schema\":\"CanonicalTradeEventV1\",\"symbol\":\"BTCUSDT\",\"trade_id\":7,\"trade_time\":1000\x7d",
      0x5f65bb6fd94f5fb75fbbf5f3cfc4de3ac46f8ee5949be56ddbf6c513d13f4e4f)]

def sampleObservation : CanonicalObservationV1 :=
  observationOf ("BTCUSDT", "btcusdt@trade", "a") .trade sampleTradeRecord 7 7
    "5f65bb6fd94f5fb75fbbf5f3cfc4de3ac46f8ee5949be56ddbf6c513d13f4e4f"

/-- The window has the trade's observation; the shutdown record by itself is refused. -/
theorem shutdown_stops_live_trades :
    materializeTradeRecordWindow sampleTradeCodec [sampleTradeRecord, sampleShutdownRecord]
        = .ok [sampleObservation] ∧
      ¬ [sampleTradeRecord, sampleShutdownRecord].mapM (materializeTradeRecord sampleTradeCodec)
        = .ok [sampleObservation] := by
  refine ⟨by decide +kernel, by decide +kernel⟩

/-- The window of the trade alone. -/
theorem trade_records_agree_trade :
    materializeTradeRecordWindow sampleTradeCodec [sampleTradeRecord] = .ok [sampleObservation] ∧
      ([sampleTradeRecord].mapM (materializeTradeRecord sampleTradeCodec)
          = .ok [sampleObservation] ↔
        ∀ record ∈ [sampleTradeRecord], ¬ ControlFrame sampleTradeCodec record) := by
  have hwindow : materializeTradeRecordWindow sampleTradeCodec [sampleTradeRecord]
      = .ok [sampleObservation] := by
    decide +kernel
  exact ⟨hwindow, trade_records_agree_iff sampleTradeCodec hwindow⟩

end LobReplay.Observation
