/-
  The canonical observations of bin/live_arbitration_verify.rs: `collect_journal_observations` reads
  the records of an arbitration journal into a `CanonicalObservationSet`, which the raw oracles then
  check.

  The JSON parser is a parameter. `rebootstrap_pending`, which the source writes and never reads, is
  left out.
-/

import LobReplay.Foundation.Lines
import LobReplay.Json

namespace LobReplay.Oracle

open Foundation

/-! ## Canonical observations -/

structure CanonicalTradeRecord where
  tradeId : UInt64
  lane : Option String
  recordSha256 : String
  observationSha256 : String
  deriving DecidableEq

structure CanonicalDepthFrame where
  firstSequence : UInt64
  finalSequence : UInt64
  digest : String
  lane : Option String
  deriving DecidableEq

structure CanonicalCorrection where
  tradeId : UInt64
  kind : String
  recordSha256 : String
  observationSha256 : String
  deriving DecidableEq

/-- An entry of `depth_rebootstraps`: the declared `snapshot_last_update_id`, the number of
    frames before it, and its lane. -/
structure DepthRebootstrap where
  declaredLast : UInt64
  firstFrameIndex : Nat
  lane : String
  deriving DecidableEq

/-- The values of `last_depth_event`. -/
inductive LastDepthEvent where
  | frame
  | gap
  deriving DecidableEq

structure CanonicalObservationSet where
  trades : List CanonicalTradeRecord := []
  depth : List CanonicalDepthFrame := []
  corrections : List CanonicalCorrection := []
  depthRebootstraps : List DepthRebootstrap := []
  terminalServingLane : Option String := none
  terminalCompletionScope : Option String := none
  tradeFloor : Option UInt64 := none
  hasStartupContext : Bool := false
  declaredArtifacts : List String := []
  lastDepthEvent : Option LastDepthEvent := none
  deriving DecidableEq

/-! ## The events of a journal -/

/-- `payload[field].as_u64().ok_or_else(..)`. -/
def exactU64 (payload : Value) (field message : String) : Result UInt64 :=
  okOr (payload.u64Field field) message

/-- `payload[field].as_str().ok_or_else(..)`. -/
def exactStr (payload : Value) (field message : String) : Result String :=
  okOr (payload.strField field) message

/-- `ARBITRATION_STARTED` and `ARBITRATION_RESUMED`. -/
def collectContext (set : CanonicalObservationSet) (payload : Value) : CanonicalObservationSet :=
  { set with
    terminalCompletionScope := none
    hasStartupContext :=
      set.hasStartupContext || decide (payload.strField "event" = some "ARBITRATION_STARTED")
    tradeFloor := set.tradeFloor.or (payload.u64Field "trade_floor")
    declaredArtifacts := set.declaredArtifacts ++ (payload.strField "artifact_root").toList ++
      (((payload.get "prior_artifacts").bind Value.asArray).getD []).filterMap Value.asStr }

/-- `TRADE_OBSERVATION`. -/
def collectTrade (set : CanonicalObservationSet) (payload : Value) :
    Result CanonicalObservationSet := do
  let tradeId ← exactU64 payload "trade_id" "trade observation lacks an exact trade ID"
  let recordSha256 ← exactStr payload "record_sha256" "trade observation lacks record_sha256"
  let observationSha256 ←
    exactStr payload "observation_sha256" "trade observation lacks observation_sha256"
  return { set with
    trades := set.trades ++
      [⟨tradeId, payload.strField "lane", recordSha256, observationSha256⟩] }

/-- `TRADE_LATE_CORRECTION`. -/
def collectCorrection (set : CanonicalObservationSet) (payload : Value) :
    Result CanonicalObservationSet := do
  let tradeId ← exactU64 payload "trade_id" "trade correction lacks an exact trade ID"
  let kind ← exactStr payload "kind" "trade correction lacks its kind"
  let recordSha256 ← exactStr payload "record_sha256" "trade correction lacks record_sha256"
  let observationSha256 ←
    exactStr payload "observation_sha256" "trade correction lacks observation_sha256"
  return { set with
    corrections := set.corrections ++ [⟨tradeId, kind, recordSha256, observationSha256⟩] }

/-- `DEPTH_OBSERVATION`. -/
def collectFrame (set : CanonicalObservationSet) (payload : Value) :
    Result CanonicalObservationSet := do
  let firstSequence ← exactU64 payload "first_sequence" "depth observation lacks first_sequence"
  let finalSequence ← exactU64 payload "final_sequence" "depth observation lacks final_sequence"
  let digest ← exactStr payload "observation_sha256" "depth observation lacks its digest"
  return { set with
    lastDepthEvent := some .frame
    depth := set.depth ++ [⟨firstSequence, finalSequence, digest, payload.strField "lane"⟩] }

/-- `DEPTH_REBOOTSTRAP`. -/
def collectRebootstrap (set : CanonicalObservationSet) (payload : Value) :
    Result CanonicalObservationSet := do
  let snapshotLast ← exactU64 payload "snapshot_last_update_id"
    "DEPTH_REBOOTSTRAP lacks snapshot_last_update_id"
  let lane ← exactStr payload "lane" "DEPTH_REBOOTSTRAP lacks its lane"
  return { set with
    depthRebootstraps := set.depthRebootstraps ++ [⟨snapshotLast, set.depth.length, lane⟩] }

/-- `ARBITRATION_TERMINAL`. -/
def collectTerminal (set : CanonicalObservationSet) (payload : Value) :
    Result CanonicalObservationSet :=
  let scope := (payload.get "completion_scope").getD .null
  if scope ≠ .null ∧ ¬ (scope = .string "HANDOFF" ∨ scope = .string "SEALED_DRAIN") then
    err "unknown terminal completion_scope"
  else .ok
    { set with
      terminalCompletionScope := scope.asStr
      terminalServingLane := payload.strField "serving_lane_at_terminal" }

inductive CollectedEvent where
  | started
  | resumed
  | trade
  | correction
  | frame
  | rebootstrap
  | gap
  | terminal
  deriving DecidableEq

def CollectedEvent.ofName (name : String) : Option CollectedEvent :=
  if name = "ARBITRATION_STARTED" then some .started
  else if name = "ARBITRATION_RESUMED" then some .resumed
  else if name = "TRADE_OBSERVATION" then some .trade
  else if name = "TRADE_LATE_CORRECTION" then some .correction
  else if name = "DEPTH_OBSERVATION" then some .frame
  else if name = "DEPTH_REBOOTSTRAP" then some .rebootstrap
  else if name = "GAP" then some .gap
  else if name = "ARBITRATION_TERMINAL" then some .terminal
  else none

/-- `envelope["body"]["payload"]`. -/
def payloadOf (envelope : Value) : Value :=
  ((envelope.get "body").bind fun body => body.get "payload").getD .null

def eventOf (envelope : Value) : Option CollectedEvent :=
  ((payloadOf envelope).strField "event").bind CollectedEvent.ofName

/-- The match on the event of one envelope. -/
def collectEnvelope (set : CanonicalObservationSet) (envelope : Value) :
    Result CanonicalObservationSet :=
  let payload := payloadOf envelope
  match eventOf envelope with
  | some .started | some .resumed => .ok (collectContext set payload)
  | some .trade => collectTrade set payload
  | some .correction => collectCorrection set payload
  | some .frame => collectFrame set payload
  | some .rebootstrap => collectRebootstrap set payload
  | some .gap => .ok { set with lastDepthEvent := some .gap }
  | some .terminal => collectTerminal set payload
  | none => .ok set

/-- The envelopes of a journal, in order. -/
def collectEnvelopes (set : CanonicalObservationSet) (envelopes : List Value) :
    Result CanonicalObservationSet :=
  envelopes.foldlM collectEnvelope set

def collectLine (fromSlice : Bytes → Except String Value) (set : CanonicalObservationSet)
    (line : Bytes) : Result CanonicalObservationSet :=
  if line = [] then .ok set
  else match fromSlice line with
  | .error error => err s!"invalid journal JSON: {error}"
  | .ok envelope => collectEnvelope set envelope

/-- The lines of a journal: what follows the last newline is a line as well, unless a partial
    tail is tolerated. -/
def journalLines (bytes : Bytes) (toleratePartialTail : Bool) : List Bytes :=
  if toleratePartialTail then (splitLines bytes).1
  else (splitLines bytes).1 ++ [(splitLines bytes).2]

/-- `collect_journal_observations`, on the bytes of the file. -/
def collectJournalObservations (fromSlice : Bytes → Except String Value) (bytes : Bytes)
    (set : CanonicalObservationSet) (toleratePartialTail : Bool) :
    Result CanonicalObservationSet :=
  (journalLines bytes toleratePartialTail).foldlM (collectLine fromSlice) set

/-! ## The depth events -/

/-- What a journal says about depth. -/
inductive DepthEvent where
  | frame (frame : CanonicalDepthFrame)
  | rebootstrap (declaredLast : UInt64) (lane : String)
  | gap
  deriving DecidableEq

def depthEvent? (envelope : Value) : Option DepthEvent :=
  let payload := payloadOf envelope
  match eventOf envelope with
  | some .frame => do
    let firstSequence ← payload.u64Field "first_sequence"
    let finalSequence ← payload.u64Field "final_sequence"
    let digest ← payload.strField "observation_sha256"
    return .frame ⟨firstSequence, finalSequence, digest, payload.strField "lane"⟩
  | some .rebootstrap => do
    let declaredLast ← payload.u64Field "snapshot_last_update_id"
    let lane ← payload.strField "lane"
    return .rebootstrap declaredLast lane
  | some .gap => some .gap
  | _ => none

def CanonicalObservationSet.addDepth (set : CanonicalObservationSet) :
    DepthEvent → CanonicalObservationSet
  | .frame frame =>
    { set with depth := set.depth ++ [frame], lastDepthEvent := some .frame }
  | .rebootstrap declaredLast lane =>
    { set with
      depthRebootstraps := set.depthRebootstraps ++ [⟨declaredLast, set.depth.length, lane⟩] }
  | .gap => { set with lastDepthEvent := some .gap }

def CanonicalObservationSet.depthPart (set : CanonicalObservationSet) :
    List CanonicalDepthFrame × List DepthRebootstrap × Option LastDepthEvent :=
  (set.depth, set.depthRebootstraps, set.lastDepthEvent)

variable {set last : CanonicalObservationSet} {fromSlice : Bytes → Except String Value}
  {set' : CanonicalObservationSet} {boundToLast : Bool} {journals : List Bytes}

/-- **Step.** An envelope changes the depth part as its depth event says, or not at all. -/
theorem collectEnvelope_depthPart {next : CanonicalObservationSet} {envelope : Value}
    (h : collectEnvelope set envelope = .ok next) :
    next.depthPart = ((depthEvent? envelope).toList.foldl CanonicalObservationSet.addDepth
      set).depthPart := by
  unfold collectEnvelope at h
  unfold depthEvent?
  cases hevent : eventOf envelope with
  | none =>
    rw [hevent] at h
    cases h
    rfl
  | some event =>
    rw [hevent] at h
    cases event with
    | started | resumed | gap =>
      cases h
      rfl
    | trade =>
      simp only [collectTrade, exactU64, exactStr, bind_eq_ok, okOr_eq_ok] at h
      obtain ⟨_, -, _, -, _, -, hnext⟩ := h
      cases hnext
      rfl
    | correction =>
      simp only [collectCorrection, exactU64, exactStr, bind_eq_ok, okOr_eq_ok] at h
      obtain ⟨_, -, _, -, _, -, _, -, hnext⟩ := h
      cases hnext
      rfl
    | frame =>
      simp only [collectFrame, exactU64, exactStr, bind_eq_ok, okOr_eq_ok] at h
      obtain ⟨first, hfirst, final, hfinal, digest, hdigest, hnext⟩ := h
      cases hnext
      simp only [hfirst, hfinal, hdigest]
      rfl
    | rebootstrap =>
      simp only [collectRebootstrap, exactU64, exactStr, bind_eq_ok, okOr_eq_ok] at h
      obtain ⟨last, hlast, lane, hlane, hnext⟩ := h
      cases hnext
      simp only [hlast, hlane]
      rfl
    | terminal =>
      simp only [collectTerminal, ite_err_eq_ok] at h
      cases h.2
      rfl

theorem addDepth_depthPart (event : DepthEvent) (h : set.depthPart = set'.depthPart) :
    (set.addDepth event).depthPart = (set'.addDepth event).depthPart := by
  obtain ⟨hdepth, hrebootstraps, hlast⟩ : set.depth = set'.depth ∧
      set.depthRebootstraps = set'.depthRebootstraps ∧ set.lastDepthEvent = set'.lastDepthEvent := by
    simpa [CanonicalObservationSet.depthPart] using h
  cases event <;>
    simp [CanonicalObservationSet.addDepth, CanonicalObservationSet.depthPart, hdepth,
      hrebootstraps, hlast]

theorem foldl_addDepth_depthPart (events : List DepthEvent) (h : set.depthPart = set'.depthPart) :
    (events.foldl CanonicalObservationSet.addDepth set).depthPart =
      (events.foldl CanonicalObservationSet.addDepth set').depthPart := by
  induction events generalizing set set' with
  | nil => exact h
  | cons event rest ih => exact ih (addDepth_depthPart event h)

/-- **Run.** The depth part of a journal is that of its depth events. -/
theorem collectEnvelopes_depthPart {envelopes : List Value}
    (h : collectEnvelopes set envelopes = .ok last) :
    last.depthPart =
      ((envelopes.filterMap depthEvent?).foldl CanonicalObservationSet.addDepth set).depthPart := by
  induction envelopes generalizing set with
  | nil =>
    cases h
    rfl
  | cons envelope rest ih =>
    obtain ⟨next, hstep, hrest⟩ := bind_eq_ok.mp h
    rw [ih hrest, foldl_addDepth_depthPart _ (collectEnvelope_depthPart hstep)]
    cases hevent : depthEvent? envelope with
    | none => rw [List.filterMap_cons_none hevent, Option.toList_none, List.foldl_nil]
    | some event =>
      rw [List.filterMap_cons_some hevent, Option.toList_some, List.foldl_cons, List.foldl_cons,
        List.foldl_nil]

def journalEnvelopes (fromSlice : Bytes → Except String Value) (bytes : Bytes)
    (toleratePartialTail : Bool) : List Value :=
  (journalLines bytes toleratePartialTail).filterMap fun line =>
    if line = [] then none else (fromSlice line).toOption

theorem collectJournalObservations_eq_ok {bytes : Bytes} {toleratePartialTail : Bool}
    (h : collectJournalObservations fromSlice bytes set toleratePartialTail = .ok last) :
    collectEnvelopes set (journalEnvelopes fromSlice bytes toleratePartialTail) = .ok last := by
  unfold collectJournalObservations at h
  unfold journalEnvelopes
  generalize journalLines bytes toleratePartialTail = lines at h ⊢
  induction lines generalizing set with
  | nil => exact h
  | cons line rest ih =>
    obtain ⟨next, hline, hrest⟩ := bind_eq_ok.mp h
    unfold collectLine at hline
    by_cases hempty : line = []
    · rw [if_pos hempty] at hline
      cases hline
      rw [List.filterMap_cons_none (by rw [if_pos hempty])]
      exact ih hrest
    · rw [if_neg hempty] at hline
      cases hparse : fromSlice line with
      | error error =>
        rw [hparse] at hline
        exact absurd hline err_ne_ok
      | ok envelope =>
        rw [hparse] at hline
        rw [List.filterMap_cons_some (b := envelope) (by simp [hempty, hparse, Except.toOption])]
        exact bind_eq_ok.mpr ⟨next, hline, ih hrest⟩

/-- The files of a journal set, each with whether its partial tail is tolerated: only the last
    file of a closed set is read to its end. -/
def journalFiles (boundToLast : Bool) (journals : List Bytes) : List (Bytes × Bool) :=
  journals.zipIdx.map fun (bytes, index) =>
    (bytes, boundToLast || decide (index + 1 < journals.length))

def collectJournals (fromSlice : Bytes → Except String Value) (boundToLast : Bool)
    (journals : List Bytes) : Result CanonicalObservationSet :=
  (journalFiles boundToLast journals).foldlM (fun set file =>
    collectJournalObservations fromSlice file.1 set file.2) {}

def setEnvelopes (fromSlice : Bytes → Except String Value) (boundToLast : Bool)
    (journals : List Bytes) : List Value :=
  (journalFiles boundToLast journals).flatMap fun file => journalEnvelopes fromSlice file.1 file.2

theorem collectJournals_eq_ok (h : collectJournals fromSlice boundToLast journals = .ok last) :
    collectEnvelopes {} (setEnvelopes fromSlice boundToLast journals) = .ok last := by
  unfold collectJournals at h
  unfold setEnvelopes
  generalize journalFiles boundToLast journals = files at h ⊢
  generalize ({} : CanonicalObservationSet) = set at h ⊢
  induction files generalizing set with
  | nil => exact h
  | cons file rest ih =>
    obtain ⟨next, hfile, hrest⟩ := bind_eq_ok.mp h
    rw [List.flatMap_cons, collectEnvelopes, List.foldlM_append]
    exact bind_eq_ok.mpr ⟨next, collectJournalObservations_eq_ok hfile, ih next hrest⟩

def depthEvents (fromSlice : Bytes → Except String Value) (boundToLast : Bool)
    (journals : List Bytes) : List DepthEvent :=
  (setEnvelopes fromSlice boundToLast journals).filterMap depthEvent?

theorem collectJournals_depthPart (h : collectJournals fromSlice boundToLast journals = .ok last) :
    last.depthPart = ((depthEvents fromSlice boundToLast journals).foldl
      CanonicalObservationSet.addDepth {}).depthPart :=
  collectEnvelopes_depthPart (collectJournals_eq_ok h)

end LobReplay.Oracle
