/-
  The audit as a machine over decoded events. A record that passes its own checks decodes to a
  `JournalEvent`; whether the audit admits the event depends on the state alone (`admits`), and so
  does the state after it (`advance`).

  `applyAuditRecord_eq_ok` says that `apply_audit_record` is exactly this machine behind the
  hash-chain test.
-/

import LobReplay.Journal.Scan

namespace LobReplay

open Foundation

/-- The classification of a late correction. -/
inductive CorrectionKind where
  | duplicate
  | unknown
  deriving DecidableEq

/-- The four counters a terminal declares; a missing or non-integer field is `none`. -/
structure TerminalCounters where
  trades : Option Nat
  depthFrames : Option Nat
  gaps : Option Nat
  lateCorrections : Option Nat
  deriving DecidableEq

/-- A journal record as the audit reads it. -/
inductive JournalEvent where
  | started (symbol : String) (tradeFloor : Option UInt64)
  | resumed (symbol previousSha : String) (tradeFloor : UInt64) (tailBytes : Nat)
  | terminal (declared : TerminalCounters)
  | trade (id : UInt64) (digest : String)
  | correction (kind : CorrectionKind) (id : UInt64) (digest : String)
  | status
  | depth (first final : UInt64)
  | gap (declaredLast : UInt64)
  | rebootstrap
  deriving DecidableEq

/-! ## Decoding -/

/-- A hex SHA-256 field. -/
def Value.hexField (payload : Value) (field : String) : Option String :=
  (payload.strField field).filter isHex64

@[simp] theorem payloadHex64_eq_ok {payload : Value} {field record value : String} :
    payloadHex64 payload field record = .ok value ↔ payload.hexField field = some value := by
  unfold payloadHex64 Value.hexField
  simp only [bind_eq_ok, okOr_eq_ok, ite_err_eq_ok, not_not, Option.filter_eq_some_iff]
  refine ⟨?_, ?_⟩
  · rintro ⟨v, hv, hhex, hok⟩
    obtain rfl : v = value := Except.ok.inj hok
    exact ⟨hv, hhex⟩
  · rintro ⟨hv, hhex⟩
    exact ⟨value, hv, hhex, rfl⟩

namespace JournalEvent

/-- The classification of a correction, when it is a known one. -/
def decodeKind (payload : Value) : Option CorrectionKind :=
  if payload.strField "kind" = some "duplicate" then some .duplicate
  else if payload.strField "kind" = some "unknown" then some .unknown
  else none

def decodeStarted (payload : Value) : Option JournalEvent := do
  let symbol ← payload.strField "symbol"
  some (.started symbol (payload.u64Field "trade_floor"))

def decodeResumed (payload : Value) : Option JournalEvent := do
  let symbol ← payload.strField "symbol"
  let previousSha ← payload.hexField "previous_journal_sha256"
  let floor ← payload.u64Field "trade_floor"
  let _mode ← payload.strField "mode"
  some (.resumed symbol previousSha floor ((payload.u64Field "previous_tail_bytes").getD 0).toNat)

def decodeTerminal (payload : Value) : Option JournalEvent :=
  if payload.strField "status" = some "COMPLETE" then
    some (.terminal
      { trades := (payload.u64Field "trades").map (·.toNat)
        depthFrames := (payload.u64Field "depth_frames").map (·.toNat)
        gaps := (payload.u64Field "gaps").map (·.toNat)
        lateCorrections := (payload.u64Field "late_corrections").map (·.toNat) })
  else none

def decodeTrade (payload : Value) : Option JournalEvent := do
  let id ← payload.u64Field "trade_id"
  let digest ← payload.hexField "observation_sha256"
  let _record ← payload.hexField "record_sha256"
  some (.trade id digest)

def decodeCorrection (payload : Value) : Option JournalEvent := do
  let id ← payload.u64Field "trade_id"
  let digest ← payload.hexField "observation_sha256"
  let kind ← decodeKind payload
  some (.correction kind id digest)

def decodeStatus (payload : Value) (field : String) : Option JournalEvent := do
  let _value ← payload.u64Field field
  some .status

def decodeDepth (payload : Value) : Option JournalEvent := do
  let first ← payload.u64Field "first_sequence"
  let final ← payload.u64Field "final_sequence"
  let _lane ← payload.strField "lane"
  let _observation ← payload.hexField "observation_sha256"
  let _record ← payload.hexField "record_sha256"
  if first = 0 ∨ final < first then none else some (.depth first final)

def decodeGap (payload : Value) : Option JournalEvent := do
  let declaredLast ← payload.u64Field "canonical_last_sequence"
  some (.gap declaredLast)

def decodeRebootstrap (payload : Value) : Option JournalEvent :=
  match JournalAuditState.rebootstrapFields.find? (fun field => (payload.get field).isNone) with
  | some _ => none
  | none => some .rebootstrap

def decodeNamed (payload : Value) : String → Option JournalEvent
  | "ARBITRATION_STARTED" => decodeStarted payload
  | "ARBITRATION_RESUMED" => decodeResumed payload
  | "ARBITRATION_TERMINAL" => decodeTerminal payload
  | "TRADE_OBSERVATION" => decodeTrade payload
  | "TRADE_LATE_CORRECTION" => decodeCorrection payload
  | "TRADE_LAG" => decodeStatus payload "buffered"
  | "TRADE_CONFLICT" => decodeStatus payload "trade_id"
  | "DEPTH_OBSERVATION" => decodeDepth payload
  | "GAP" => decodeGap payload
  | "DEPTH_REBOOTSTRAP" => decodeRebootstrap payload
  | "DEPTH_SWITCH_PROVEN" => some .status
  | _ => none

/-- The event a payload denotes, when the payload passes every check that does not depend
    on the audit state. -/
def decode (payload : Value) : Option JournalEvent :=
  (payload.strField "event").bind (decodeNamed payload)

/-! ## The machine -/

def admits (state : JournalAuditState) (firstOfFile : Bool) : JournalEvent → Prop
  | started _ _ => firstOfFile = true ∧ state.segments = 0
  | resumed symbol previousSha floor tailBytes =>
    firstOfFile = true ∧ state.segments ≠ 0 ∧ state.startedSeen = true ∧
      (state.presetContext = true ∨ state.symbol = some symbol) ∧
      state.lastSegmentSha = some previousSha ∧ floor = state.effectiveFloor ∧
      (state.presetContext = true ∨ tailBytes = state.lastSegmentTail)
  | terminal declared =>
    state.startedSeen = true ∧
      (state.presetContext = true ∨
        declared = ⟨some state.trades, some state.depthFrames, some state.gaps,
          some state.lateCorrections⟩)
  | trade id _ =>
    (∀ last, state.lastTradeId = some last → last < id) ∧
      (∀ floor, state.tradeFloor = some floor → floor < id)
  | correction kind id digest =>
    (∃ last, state.lastTradeId = some last ∧ id ≤ last) ∧
      (state.presetContext = true ∨ ∀ floor, state.tradeFloor = some floor → floor < id) ∧
      state.retained id = (match kind with
        | .duplicate => some digest
        | .unknown => none)
  | status => True
  | depth first _ =>
    match state.exactNextDepth with
    | some expected => first = expected
    | none =>
      (state.presetContext = true ∧ state.tailDepthSeeded = false) ∨
        ∀ last, state.lastDepthSequence = some last → last < first
  | gap declaredLast =>
    state.presetContext = true ∨ declaredLast = state.lastDepthSequence.getD 0
  | rebootstrap => state.gaps ≠ 0 ∧ state.exactNextDepth = none

def advance (state : JournalAuditState) : JournalEvent → JournalAuditState
  | started symbol floor =>
    { state with symbol := some symbol, tradeFloor := floor, startedSeen := true }
  | resumed symbol _ _ tailBytes =>
    if state.presetContext then
      { state with symbol := some symbol, lastSegmentTail := tailBytes }
    else state
  | terminal _ => { state with terminalSeen := true }
  | trade id digest =>
    { state with
      lastTradeId := some id
      published := state.published.insert id digest
      trades := state.trades + 1
      observations := state.observations + 1 }
  | correction .duplicate _ _ => { state with lateCorrections := state.lateCorrections + 1 }
  | correction .unknown id digest =>
    { state with
      corrected := state.corrected.insert id digest
      lateCorrections := state.lateCorrections + 1 }
  | status => { state with statusRecords := state.statusRecords + 1 }
  | depth _ final =>
    { state with
      tailDepthSeeded := true
      exactNextDepth := some (saturatingAdd final 1)
      lastDepthSequence := some final
      depthFrames := state.depthFrames + 1
      observations := state.observations + 1 }
  | gap declaredLast =>
    { state with
      lastDepthSequence :=
        if state.presetContext then some declaredLast else state.lastDepthSequence
      tailDepthSeeded := if state.presetContext then false else state.tailDepthSeeded
      exactNextDepth := none
      gaps := state.gaps + 1 }
  | rebootstrap =>
    { state with
      rebootstrap := state.rebootstrap + 1
      statusRecords := state.statusRecords + 1 }

/-! ## The source's arms are the machine -/

/-- The decoded event is admitted and leads to `state'`. -/
def Accepts (state : JournalAuditState) (firstOfFile : Bool) (decoded : Option JournalEvent)
    (state' : JournalAuditState) : Prop :=
  ∃ event, decoded = some event ∧ event.admits state firstOfFile ∧ state' = event.advance state

section Arms

variable {state state' : JournalAuditState} {payload : Value} {firstOfFile : Bool} {id : UInt64}

theorem applyStarted_eq_ok : state.applyStarted payload firstOfFile = .ok state' ↔
    Accepts state firstOfFile (decodeStarted payload) state' := by
  unfold JournalAuditState.applyStarted decodeStarted Accepts
  simp only [ite_err_eq_ok, bind_eq_ok, okOr_eq_ok, Option.bind_eq_bind, Option.bind_eq_some_iff,
    Option.some.injEq, Except.ok.injEq, not_or, not_not]
  refine ⟨?_, ?_⟩
  · rintro ⟨hguard, symbol, hsymbol, rfl⟩
    exact ⟨_, ⟨symbol, hsymbol, rfl⟩, hguard, rfl⟩
  · rintro ⟨_, ⟨symbol, hsymbol, rfl⟩, hguard, rfl⟩
    exact ⟨hguard, symbol, hsymbol, rfl⟩

theorem applyTradeObservation_eq_ok : state.applyTradeObservation payload = .ok state' ↔
    Accepts state firstOfFile (decodeTrade payload) state' := by
  unfold JournalAuditState.applyTradeObservation decodeTrade Accepts
  simp only [ite_err_eq_ok, bind_eq_ok, okOr_eq_ok, payloadHex64_eq_ok, Option.bind_eq_bind,
    Option.bind_eq_some_iff, Option.some.injEq, Except.ok.injEq, any_decide_eq_true, not_exists,
    not_and, UInt64.not_le]
  refine ⟨?_, ?_⟩
  · rintro ⟨id, hid, digest, hdigest, record, hrecord, hlast, hfloor, rfl⟩
    exact ⟨_, ⟨id, hid, digest, hdigest, record, hrecord, rfl⟩, ⟨hlast, hfloor⟩, rfl⟩
  · rintro ⟨_, ⟨id, hid, digest, hdigest, record, hrecord, rfl⟩, ⟨hlast, hfloor⟩, rfl⟩
    exact ⟨id, hid, digest, hdigest, record, hrecord, hlast, hfloor, rfl⟩

theorem applyStatus_eq_ok {field message : String} :
    state.applyStatus payload field message = .ok state' ↔
      Accepts state firstOfFile (decodeStatus payload field) state' := by
  unfold JournalAuditState.applyStatus decodeStatus Accepts
  simp only [ite_err_eq_ok, Option.bind_eq_bind, Option.bind_eq_some_iff, Option.some.injEq,
    Except.ok.injEq, Option.isNone_iff_eq_none, ← ne_eq, Option.ne_none_iff_exists']
  refine ⟨?_, ?_⟩
  · rintro ⟨⟨value, hvalue⟩, rfl⟩
    exact ⟨_, ⟨value, hvalue, rfl⟩, trivial, rfl⟩
  · rintro ⟨_, ⟨value, hvalue, rfl⟩, -, rfl⟩
    exact ⟨⟨value, hvalue⟩, rfl⟩

theorem applyGap_eq_ok : state.applyGap payload = .ok state' ↔
    Accepts state firstOfFile (decodeGap payload) state' := by
  unfold JournalAuditState.applyGap decodeGap Accepts
  simp only [bind_eq_ok, okOr_eq_ok, Option.bind_eq_bind, Option.bind_eq_some_iff,
    Option.some.injEq]
  by_cases hpreset : state.presetContext = true
  · simp only [hpreset, if_true, Except.ok.injEq]
    refine ⟨?_, ?_⟩
    · rintro ⟨declaredLast, hdecl, rfl⟩
      exact ⟨_, ⟨declaredLast, hdecl, rfl⟩, Or.inl hpreset, by simp [advance, hpreset]⟩
    · rintro ⟨_, ⟨declaredLast, hdecl, rfl⟩, -, rfl⟩
      exact ⟨declaredLast, hdecl, by simp [advance, hpreset]⟩
  · simp only [hpreset, Bool.false_eq_true, if_false, ite_err_eq_ok, Except.ok.injEq, not_not,
      ne_eq]
    refine ⟨?_, ?_⟩
    · rintro ⟨declaredLast, hdecl, hcursor, rfl⟩
      exact ⟨_, ⟨declaredLast, hdecl, rfl⟩, Or.inr hcursor, by simp [advance, hpreset]⟩
    · rintro ⟨_, ⟨declaredLast, hdecl, rfl⟩, hcursor, rfl⟩
      exact ⟨declaredLast, hdecl, hcursor.resolve_left hpreset, by simp [advance, hpreset]⟩

theorem applyDepthRebootstrap_eq_ok : state.applyDepthRebootstrap payload = .ok state' ↔
    Accepts state firstOfFile (decodeRebootstrap payload) state' := by
  unfold JournalAuditState.applyDepthRebootstrap decodeRebootstrap Accepts
  rw [ite_err_eq_ok]
  rcases JournalAuditState.rebootstrapFields.find? (fun field => (payload.get field).isNone)
    with _ | field
  · simp only [Except.ok.injEq, not_or, Bool.not_eq_true, Option.isSome_eq_false_iff,
      Option.isNone_iff_eq_none]
    refine ⟨?_, ?_⟩
    · rintro ⟨hguard, rfl⟩
      exact ⟨_, rfl, hguard, rfl⟩
    · rintro ⟨_, heq, hguard, rfl⟩
      cases heq
      exact ⟨hguard, rfl⟩
  · simp

theorem checkDepthCursor_eq_ok {first final : UInt64} :
    state.checkDepthCursor first = .ok () ↔ (depth first final).admits state firstOfFile := by
  unfold JournalAuditState.checkDepthCursor admits
  rcases state.exactNextDepth with _ | expected
  · simp only [ite_err_eq_ok, any_decide_eq_true, and_true, not_and_or, not_or,
      not_exists, Bool.not_eq_true, Bool.not_eq_false, UInt64.not_le, imp_iff_not_or]
  · simp only [ite_err_eq_ok, not_not, and_true, ne_eq]

theorem applyDepthObservation_eq_ok : state.applyDepthObservation payload = .ok state' ↔
    Accepts state firstOfFile (decodeDepth payload) state' := by
  unfold JournalAuditState.applyDepthObservation decodeDepth Accepts
  simp only [ite_err_eq_ok, bind_eq_ok, okOr_eq_ok, payloadHex64_eq_ok, Option.bind_eq_bind,
    Option.bind_eq_some_iff, Except.ok.injEq]
  refine ⟨?_, ?_⟩
  · rintro ⟨first, hfirst, final, hfinal, hrange, lane, hlane, digest, hdigest, record, hrecord,
      _, hcursor, rfl⟩
    refine ⟨.depth first final, ⟨first, hfirst, final, hfinal, lane, hlane, digest, hdigest,
      record, hrecord, if_neg hrange⟩, checkDepthCursor_eq_ok.mp hcursor, rfl⟩
  · rintro ⟨_, ⟨first, hfirst, final, hfinal, lane, hlane, digest, hdigest, record, hrecord,
      heq⟩, hcursor, rfl⟩
    by_cases hrange : first = 0 ∨ final < first
    · rw [if_pos hrange] at heq
      cases heq
    · rw [if_neg hrange, Option.some.injEq] at heq
      subst heq
      exact ⟨first, hfirst, final, hfinal, hrange, lane, hlane, digest, hdigest, record, hrecord,
        (), checkDepthCursor_eq_ok.mpr hcursor, rfl⟩

theorem applyTerminal_eq_ok : state.applyTerminal payload = .ok state' ↔
    Accepts state firstOfFile (decodeTerminal payload) state' := by
  unfold JournalAuditState.applyTerminal decodeTerminal Accepts
  simp only [ite_err_eq_ok, bind_eq_ok, okOr_eq_ok, Except.ok.injEq, not_not, ne_eq,
    Option.ite_none_right_eq_some, Option.some.injEq]
  refine ⟨?_, ?_⟩
  · rintro ⟨hstarted, status, hstatus, rfl, hcounters, rfl⟩
    refine ⟨_, ⟨hstatus, rfl⟩, ⟨hstarted, ?_⟩, rfl⟩
    rw [not_and_or, not_not, not_not] at hcounters
    refine hcounters.imp id ?_
    rintro ⟨h1, h2, h3, h4⟩
    rw [h1, h2, h3, h4]
  · rintro ⟨_, ⟨hstatus, rfl⟩, ⟨hstarted, hcounters⟩, rfl⟩
    refine ⟨hstarted, _, hstatus, rfl, ?_, rfl⟩
    rw [not_and_or, not_not, not_not]
    exact hcounters.imp id fun h => by simpa using h

theorem retained_eq_none : state.retained id = none ↔
    ¬ (state.published.contains id = true ∨ state.corrected.contains id = true) := by
  unfold JournalAuditState.retained
  rw [Option.or_eq_none_iff, not_or, Std.TreeMap.contains_eq_isSome_getElem?,
    Std.TreeMap.contains_eq_isSome_getElem?]
  simp

/-- The `duplicate` branch: the retained digest is the declared one. -/
theorem duplicate_eq_ok {digest m₁ m₂ : String} {next : JournalAuditState} :
    (match state.retained id with
      | some publishedDigest => if publishedDigest = digest then .ok next else err m₁
      | none => err m₂ : Result JournalAuditState) = .ok state' ↔
    state.retained id = some digest ∧ state' = next := by
  rcases state.retained id with _ | publishedDigest
  · simp
  · by_cases h : publishedDigest = digest
    · simp [h, eq_comm]
    · simp [h]

theorem applyTradeLateCorrection_eq_ok :
    state.applyTradeLateCorrection payload = .ok state' ↔
      Accepts state firstOfFile (decodeCorrection payload) state' := by
  have hfloor : ∀ id : UInt64, (¬ (¬ state.presetContext = true ∧
        ∃ floor, state.tradeFloor = some floor ∧ id ≤ floor)) ↔
      (state.presetContext = true ∨ ∀ floor, state.tradeFloor = some floor → floor < id) := by
    intro id
    simp only [not_and_or, not_not, not_exists, UInt64.not_le, imp_iff_not_or]
  unfold JournalAuditState.applyTradeLateCorrection decodeCorrection Accepts
  simp only [ite_err_eq_ok, bind_eq_ok, okOr_eq_ok, payloadHex64_eq_ok, Option.bind_eq_bind,
    Option.bind_eq_some_iff, any_decide_eq_true, not_not, hfloor]
  by_cases hdup : payload.strField "kind" = some "duplicate"
  · have hkind : decodeKind payload = some .duplicate := if_pos hdup
    simp only [hdup, if_true, hkind, Option.some.injEq, exists_eq_left']
    refine ⟨?_, ?_⟩
    · rintro ⟨id, hid, hlast, hfloor, digest, hdigest, hbranch⟩
      obtain ⟨hret, rfl⟩ := duplicate_eq_ok.mp hbranch
      exact ⟨_, ⟨id, hid, digest, hdigest, rfl⟩, ⟨hlast, hfloor, hret⟩, rfl⟩
    · rintro ⟨_, ⟨id, hid, digest, hdigest, rfl⟩, ⟨hlast, hfloor, hret⟩, rfl⟩
      exact ⟨id, hid, hlast, hfloor, digest, hdigest, duplicate_eq_ok.mpr ⟨hret, rfl⟩⟩
  · by_cases hunk : payload.strField "kind" = some "unknown"
    · have hkind : decodeKind payload = some .unknown := by
        rw [decodeKind, if_neg hdup, if_pos hunk]
      have hne : ¬ "unknown" = "duplicate" := by decide
      simp only [hunk, hkind, Option.some.injEq, exists_eq_left', if_true, hne, if_false,
        ite_err_eq_ok, ← retained_eq_none, Except.ok.injEq]
      refine ⟨?_, ?_⟩
      · rintro ⟨id, hid, hlast, hfloor, digest, hdigest, hret, rfl⟩
        exact ⟨_, ⟨id, hid, digest, hdigest, rfl⟩, ⟨hlast, hfloor, hret⟩, rfl⟩
      · rintro ⟨_, ⟨id, hid, digest, hdigest, rfl⟩, ⟨hlast, hfloor, hret⟩, rfl⟩
        exact ⟨id, hid, hlast, hfloor, digest, hdigest, hret, rfl⟩
    · have hkind : decodeKind payload = none := by
        rw [decodeKind, if_neg hdup, if_neg hunk]
      simp [hdup, hunk, hkind]

theorem resumeSymbol_eq_ok {symbol : String} : state.resumeSymbol symbol = .ok state' ↔
    (state.presetContext = true ∨ state.symbol = some symbol) ∧
      state' = if state.presetContext then { state with symbol := some symbol } else state := by
  unfold JournalAuditState.resumeSymbol
  by_cases hpreset : state.presetContext = true
  · simp [hpreset, eq_comm]
  · by_cases hsymbol : state.symbol = some symbol
    · simp [hpreset, hsymbol, eq_comm]
    · simp [hpreset, hsymbol]

theorem resumeTail_eq_ok {declaredTail : UInt64} : state.resumeTail declaredTail = .ok state' ↔
    (state.presetContext = true ∨ declaredTail.toNat = state.lastSegmentTail) ∧
      state' = if state.presetContext then { state with lastSegmentTail := declaredTail.toNat }
        else state := by
  unfold JournalAuditState.resumeTail
  by_cases hpreset : state.presetContext = true
  · simp [hpreset, eq_comm]
  · by_cases htail : declaredTail.toNat = state.lastSegmentTail
    · simp [hpreset, htail, eq_comm]
    · simp [hpreset, htail]

theorem applyResumed_eq_ok : state.applyResumed payload firstOfFile = .ok state' ↔
    Accepts state firstOfFile (decodeResumed payload) state' := by
  unfold JournalAuditState.applyResumed decodeResumed Accepts
  simp only [ite_err_eq_ok, bind_eq_ok, okOr_eq_ok, payloadHex64_eq_ok, resumeSymbol_eq_ok,
    resumeTail_eq_ok, Option.bind_eq_bind, Option.bind_eq_some_iff, Option.some.injEq, not_or,
    not_not, ne_eq, Option.isNone_iff_eq_none]
  -- a tail audit and a full audit read the record's declarations differently
  by_cases hpreset : state.presetContext = true
  · refine ⟨?_, ?_⟩
    · rintro ⟨⟨hfirst, hseg⟩, hstarted, symbol, hsymbol, _, ⟨-, rfl⟩, sha, hsha, _, hchained, rfl,
        floor, hfloor, hexpected, hmode, -, rfl⟩
      rw [if_pos hpreset] at hchained hexpected
      obtain ⟨mode, hmode⟩ := Option.ne_none_iff_exists'.mp hmode
      exact ⟨_, ⟨symbol, hsymbol, sha, hsha, floor, hfloor, mode, hmode, rfl⟩,
        ⟨hfirst, hseg, hstarted, Or.inl hpreset, hchained, hexpected, Or.inl hpreset⟩,
        by simp [advance, hpreset]⟩
    · rintro ⟨_, ⟨symbol, hsymbol, sha, hsha, floor, hfloor, mode, hmode, rfl⟩,
        ⟨hfirst, hseg, hstarted, -, hchained, hexpected, -⟩, rfl⟩
      refine ⟨⟨hfirst, hseg⟩, hstarted, symbol, hsymbol, _, ⟨Or.inl hpreset, rfl⟩, sha, hsha, sha,
        ?_, rfl, floor, hfloor, ?_, by simp [hmode], ?_⟩
      · rwa [if_pos hpreset]
      · rwa [if_pos hpreset]
      · simp [advance, hpreset]
  · refine ⟨?_, ?_⟩
    · rintro ⟨⟨hfirst, hseg⟩, hstarted, symbol, hsymbol, _, ⟨hsame, rfl⟩, sha, hsha, _, hchained,
        rfl, floor, hfloor, hexpected, hmode, htail, rfl⟩
      rw [if_neg hpreset] at hchained hexpected htail
      obtain ⟨mode, hmode⟩ := Option.ne_none_iff_exists'.mp hmode
      exact ⟨_, ⟨symbol, hsymbol, sha, hsha, floor, hfloor, mode, hmode, rfl⟩,
        ⟨hfirst, hseg, hstarted, hsame, hchained, hexpected, htail⟩, by simp [advance, hpreset]⟩
    · rintro ⟨_, ⟨symbol, hsymbol, sha, hsha, floor, hfloor, mode, hmode, rfl⟩,
        ⟨hfirst, hseg, hstarted, hsame, hchained, hexpected, htail⟩, rfl⟩
      refine ⟨⟨hfirst, hseg⟩, hstarted, symbol, hsymbol, _, ⟨hsame, rfl⟩, sha, hsha, sha,
        ?_, rfl, floor, hfloor, ?_, by simp [hmode], ?_, ?_⟩
      · rwa [if_neg hpreset]
      · rwa [if_neg hpreset]
      · rwa [if_neg hpreset]
      · simp [advance, hpreset]

theorem applyEvent_eq_ok {event : String} :
    state.applyEvent payload firstOfFile event = .ok state' ↔
      Accepts state firstOfFile (decodeNamed payload event) state' := by
  unfold JournalAuditState.applyEvent
  split
  · exact applyStarted_eq_ok
  · exact applyResumed_eq_ok
  · exact applyTerminal_eq_ok
  · exact applyTradeObservation_eq_ok
  · exact applyTradeLateCorrection_eq_ok
  · exact applyStatus_eq_ok
  · exact applyStatus_eq_ok
  · exact applyDepthObservation_eq_ok
  · exact applyGap_eq_ok
  · exact applyDepthRebootstrap_eq_ok
  · refine ⟨?_, ?_⟩
    · intro h
      exact ⟨.status, rfl, trivial, (Except.ok.inj h).symm⟩
    · rintro ⟨_, heq, -, rfl⟩
      cases heq
      rfl
  · have hnone : decodeNamed payload event = none := by
      unfold decodeNamed
      split <;> first | rfl | contradiction
    simp [Accepts, hnone]

end Arms

/-- What one audited record shows, besides its event: the codec and the chain agree with
    what the envelope says of itself. -/
structure Sealed (codec : JournalCodec) (envelope : LiveArbitrationJournalEnvelopeV1)
    (fileIndex : Nat) (previous : String) : Prop where
  schema_eq : envelope.body.schema = journalSchema
  index_eq : envelope.body.recordIndex.toNat = fileIndex
  channel_eq : envelope.body.channel = "LIVE"
  previous_eq : envelope.body.previousRecordSha256 = previous
  digest_eq : ∃ bytes, codec.bodyToVec envelope.body = .ok bytes ∧
    envelope.recordSha256 = codec.sha256Hex bytes

def record (state : JournalAuditState) (sha : String) (event : JournalEvent) :
    JournalAuditState :=
  { event.advance state with previous := sha, records := (event.advance state).records + 1 }

/-- **One record.** `apply_audit_record` accepts exactly the sealed records, before a
    terminal, whose decoded event the machine admits. -/
theorem applyAuditRecord_eq_ok {codec : JournalCodec} {state state' : JournalAuditState}
    {envelope : LiveArbitrationJournalEnvelopeV1} {fileIndex : Nat} {firstOfFile : Bool} :
    state.applyAuditRecord codec envelope fileIndex firstOfFile = .ok state' ↔
      Sealed codec envelope fileIndex state.previous ∧ state.terminalSeen = false ∧
      ∃ event, decode envelope.body.payload = some event ∧ event.admits state firstOfFile ∧
        state' = record state envelope.recordSha256 event := by
  unfold JournalAuditState.applyAuditRecord
  rcases hbytes : codec.bodyToVec envelope.body with e | bytes
  · refine ⟨fun h => absurd h err_ne_ok, ?_⟩
    rintro ⟨hsealed, -⟩
    obtain ⟨bytes, hok, -⟩ := hsealed.digest_eq
    rw [hbytes] at hok
    cases hok
  · simp only [ite_err_eq_ok, not_not, Bool.not_eq_true, bind_eq_ok, okOr_eq_ok, applyEvent_eq_ok,
      Except.ok.injEq]
    refine ⟨?_, ?_⟩
    · rintro ⟨⟨h1, h2, h3, h4, h5⟩, hopen, name, hname, _, ⟨event, hdec, hadmits, rfl⟩, rfl⟩
      refine ⟨⟨h1, h2, h3, h4, bytes, hbytes, h5⟩, hopen, event, ?_, hadmits, ?_⟩
      · rw [decode, hname]
        exact hdec
      · rw [record, h5]
    · rintro ⟨hsealed, hopen, event, hdec, hadmits, rfl⟩
      obtain ⟨bytes', hok, hdigest⟩ := hsealed.digest_eq
      obtain rfl : bytes = bytes' := Except.ok.inj (hbytes.symm.trans hok)
      obtain ⟨name, hname, hdec⟩ := Option.bind_eq_some_iff.mp hdec
      refine ⟨⟨hsealed.schema_eq, hsealed.index_eq, hsealed.channel_eq, hsealed.previous_eq,
        hdigest⟩, hopen, name, hname, _, ⟨event, hdec, hadmits, rfl⟩, ?_⟩
      rw [record, hdigest]

end JournalEvent

end LobReplay
