/-
  The audit state as a summary of the events read so far. The functions on event lists below say
  what a journal means (its published trades, its depth cursor, whether a gap is open, its
  counters), and `Summarizes` says that the full audit's state holds exactly that.
-/

import LobReplay.Foundation.Machine
import LobReplay.Journal.Walk
import Std.Data.TreeMap.Lemmas

namespace LobReplay

open Foundation

namespace JournalEvent

/-! ## What a list of events says -/

def tradeId? : JournalEvent → Option UInt64
  | trade id _ => some id
  | _ => none

def depthFinal? : JournalEvent → Option UInt64
  | depth _ final => some final
  | _ => none

def isTrade : JournalEvent → Bool
  | trade _ _ => true
  | _ => false

def isDepth : JournalEvent → Bool
  | depth _ _ => true
  | _ => false

def isGap : JournalEvent → Bool
  | gap _ => true
  | _ => false

def isCorrection : JournalEvent → Bool
  | correction _ _ _ => true
  | _ => false

def tradeIds (events : List JournalEvent) : List UInt64 := events.filterMap tradeId?

def lastTrade (events : List JournalEvent) : Option UInt64 := (tradeIds events).getLast?

/-- The final sequence of the last depth observation. -/
def lastDepth (events : List JournalEvent) : Option UInt64 :=
  (events.filterMap depthFinal?).getLast?

/-- The trade floor the opening `ARBITRATION_STARTED` declares. -/
def startupFloor (events : List JournalEvent) : Option UInt64 :=
  match events.head? with
  | some (started _ floor) => floor
  | _ => none

/-- A gap was declared and no depth observation followed it. -/
def GapOpen (events : List JournalEvent) : Prop :=
  ∃ before declared after, events = before ++ gap declared :: after ∧
    ∀ e ∈ after, e.isDepth = false

def counters (events : List JournalEvent) : TerminalCounters where
  trades := some (events.countP isTrade)
  depthFrames := some (events.countP isDepth)
  gaps := some (events.countP isGap)
  lateCorrections := some (events.countP isCorrection)

theorem tradeIds_concat (events : List JournalEvent) (e : JournalEvent) :
    tradeIds (events ++ [e]) = tradeIds events ++ e.tradeId?.toList := by
  rw [tradeIds, List.filterMap_append]
  cases h : e.tradeId? <;> simp [tradeIds, h]

theorem lastTrade_concat (events : List JournalEvent) (e : JournalEvent) :
    lastTrade (events ++ [e]) = e.tradeId?.or (lastTrade events) := by
  rw [lastTrade, tradeIds_concat, List.getLast?_append]
  cases e.tradeId? <;> rfl

theorem lastDepth_concat (events : List JournalEvent) (e : JournalEvent) :
    lastDepth (events ++ [e]) = e.depthFinal?.or (lastDepth events) := by
  rw [lastDepth, List.filterMap_append, List.getLast?_append]
  cases h : e.depthFinal? <;> simp [lastDepth, h]

theorem gapOpen_concat (events : List JournalEvent) (e : JournalEvent) :
    GapOpen (events ++ [e]) ↔ e.isGap = true ∨ (e.isDepth = false ∧ GapOpen events) := by
  refine ⟨?_, ?_⟩
  · rintro ⟨before, declared, after, heq, hafter⟩
    rcases List.eq_nil_or_concat after with rfl | ⟨after', last, rfl⟩
    · obtain ⟨rfl, hlast⟩ := List.append_inj' heq rfl
      cases hlast
      exact Or.inl rfl
    · rw [List.concat_eq_append, ← List.cons_append, ← List.append_assoc] at heq
      obtain ⟨hinit, hlast⟩ := List.append_inj' heq rfl
      cases hlast
      refine Or.inr ⟨hafter e (by simp), before, declared, after', hinit, ?_⟩
      intro x hx
      exact hafter x (by simp [hx])
  · rintro (hgap | ⟨hdepth, before, declared, after, rfl, hafter⟩)
    · cases e with
      | gap declared => exact ⟨events, declared, [], rfl, by simp⟩
      | _ => cases hgap
    · refine ⟨before, declared, after ++ [e], by simp, ?_⟩
      intro x hx
      rcases List.mem_append.mp hx with hx | hx
      · exact hafter x hx
      · rw [List.mem_singleton.mp hx]
        exact hdepth

variable {events : List JournalEvent} {e : JournalEvent} {state : JournalAuditState}

theorem gapOpen_of_no_depth (hgap : events.countP isGap ≠ 0) (hdepth : lastDepth events = none) :
    GapOpen events := by
  induction events using List.reverseRecOn with
  | nil => simp at hgap
  | append_singleton events e ih =>
    rw [lastDepth_concat, Option.or_eq_none_iff] at hdepth
    rw [gapOpen_concat]
    by_cases he : e.isGap = true
    · exact Or.inl he
    · refine Or.inr ⟨?_, ih ?_ hdepth.2⟩
      · cases e with
        | depth first final => simp [depthFinal?] at hdepth
        | _ => rfl
      · simpa [he] using hgap

/-! ## What one event does -/

def isStarted : JournalEvent → Bool
  | started _ _ => true
  | _ => false

def isTerminal : JournalEvent → Bool
  | terminal _ => true
  | _ => false

def retains (id : UInt64) : JournalEvent → Option String
  | trade id' digest => if id = id' then some digest else none
  | correction .unknown id' digest => if id = id' then some digest else none
  | _ => none

theorem retains_eq_some {id : UInt64} {digest : String} (h : retains id e = some digest) :
    e = trade id digest ∨ e = correction .unknown id digest := by
  cases e with
  | trade id' digest' =>
    simp only [retains, Option.ite_none_right_eq_some, Option.some.injEq] at h
    rw [h.1, h.2]
    exact Or.inl rfl
  | correction kind id' digest' =>
    cases kind with
    | duplicate => cases h
    | unknown =>
      simp only [retains, Option.ite_none_right_eq_some, Option.some.injEq] at h
      rw [h.1, h.2]
      exact Or.inr rfl
  | _ => cases h

def nextFloor (floor : Option UInt64) : JournalEvent → Option UInt64
  | started _ declared => declared
  | _ => floor

def nextExact (exact : Option UInt64) : JournalEvent → Option UInt64
  | depth _ final => some (saturatingAdd final 1)
  | gap _ => none
  | _ => exact

/-- The startup floor is the opening record's, whatever comes later. -/
theorem startupFloor_concat (hfresh : ∀ symbol floor, e = started symbol floor → events = []) :
    startupFloor (events ++ [e]) = nextFloor (startupFloor events) e := by
  rcases events with _ | ⟨first, rest⟩
  · cases e <;> rfl
  · cases e with
    | started symbol floor => cases hfresh symbol floor rfl
    | _ => rfl

/-- What every event does to the parts of the state the results are about, in a full and
    in a tail audit alike. -/
structure Advanced (state : JournalAuditState) (e : JournalEvent) (next : JournalAuditState) :
    Prop where
  preset_eq : next.presetContext = state.presetContext
  segments_eq : next.segments = state.segments
  lastSegmentSha_eq : next.lastSegmentSha = state.lastSegmentSha
  startedSeen_eq : next.startedSeen = (state.startedSeen || e.isStarted)
  terminalSeen_eq : next.terminalSeen = (state.terminalSeen || e.isTerminal)
  trades_eq : next.trades = state.trades + if e.isTrade then 1 else 0
  depthFrames_eq : next.depthFrames = state.depthFrames + if e.isDepth then 1 else 0
  gaps_eq : next.gaps = state.gaps + if e.isGap then 1 else 0
  lateCorrections_eq :
    next.lateCorrections = state.lateCorrections + if e.isCorrection then 1 else 0
  lastTradeId_eq : next.lastTradeId = e.tradeId?.or state.lastTradeId
  tradeFloor_eq : next.tradeFloor = nextFloor state.tradeFloor e
  exact_eq : next.exactNextDepth = nextExact state.exactNextDepth e

theorem advanced (state : JournalAuditState) (e : JournalEvent) (sha : String) :
    Advanced state e (e.record state sha) := by
  have hframe : ∀ b : Bool, (b || false) = b := Bool.or_false
  cases e with
  | started _ _ => exact ⟨rfl, rfl, rfl, by simp [record, advance, isStarted], (hframe _).symm,
      rfl, rfl, rfl, rfl, rfl, rfl, rfl⟩
  | resumed symbol sha' floor tail =>
    simp only [record, advance]
    split
    all_goals exact ⟨rfl, rfl, rfl, (hframe _).symm, (hframe _).symm, rfl, rfl, rfl, rfl, rfl,
      rfl, rfl⟩
  | terminal _ => exact ⟨rfl, rfl, rfl, (hframe _).symm, by simp [record, advance, isTerminal],
      rfl, rfl, rfl, rfl, rfl, rfl, rfl⟩
  | correction kind _ _ =>
    cases kind
    all_goals exact ⟨rfl, rfl, rfl, (hframe _).symm, (hframe _).symm, rfl, rfl, rfl, rfl, rfl,
      rfl, rfl⟩
  | _ => exact ⟨rfl, rfl, rfl, (hframe _).symm, (hframe _).symm, rfl, rfl, rfl, rfl, rfl, rfl, rfl⟩

theorem record_lastDepthSequence (e : JournalEvent) (sha : String)
    (hpreset : state.presetContext = false) :
    (e.record state sha).lastDepthSequence = e.depthFinal?.or state.lastDepthSequence := by
  cases e with
  | correction kind _ _ => cases kind <;> rfl
  | resumed _ _ _ _ => simp [record, advance, hpreset, depthFinal?]
  | gap _ => simp [record, advance, hpreset, depthFinal?]
  | _ => rfl

theorem record_retained (e : JournalEvent) (sha : String) (id : UInt64)
    (hnew : ∀ digest, e = .correction .unknown id digest → state.retained id = none) :
    (e.record state sha).retained id = (retains id e).or (state.retained id) := by
  have hcmp : ∀ id' : UInt64, compare id' id = .eq ↔ id = id' := by
    intro id'
    rw [Std.LawfulEqCmp.compare_eq_iff_eq, eq_comm]
  cases e with
  | trade id' digest =>
    simp only [record, advance, JournalAuditState.retained, Std.TreeMap.getElem?_insert, hcmp,
      retains]
    by_cases hid : id = id' <;> simp [hid]
  | correction kind id' digest =>
    cases kind with
    | duplicate => rfl
    | unknown =>
      simp only [record, advance, JournalAuditState.retained, Std.TreeMap.getElem?_insert, hcmp,
        retains]
      by_cases hid : id = id'
      · have hnone := hnew digest (by rw [hid])
        simp only [JournalAuditState.retained, Option.or_eq_none_iff] at hnone
        simp [hid ▸ hnone.1, hid]
      · simp [hid]
  | resumed _ _ _ _ =>
    simp only [record, advance]
    split <;> rfl
  | _ => rfl

end JournalEvent

open JournalEvent

/-! ## The summary invariant -/

/-- The state of a full audit that has read `events`, the next record of whose current file
    has index `fileIndex`. -/
structure Summarizes (state : JournalAuditState) (fileIndex : Nat)
    (events : List JournalEvent) : Prop where
  preset_eq : state.presetContext = false
  fresh : state.segments = 0 → fileIndex = 0 → events = []
  trades_eq : state.trades = events.countP isTrade
  depthFrames_eq : state.depthFrames = events.countP isDepth
  gaps_eq : state.gaps = events.countP isGap
  lateCorrections_eq : state.lateCorrections = events.countP isCorrection
  lastTradeId_eq : state.lastTradeId = lastTrade events
  tradeFloor_eq : state.tradeFloor = startupFloor events
  lastDepth_eq : state.lastDepthSequence = lastDepth events
  exact_of_open : GapOpen events → state.exactNextDepth = none
  exact_of_closed : ¬ GapOpen events →
    state.exactNextDepth = (lastDepth events).map (saturatingAdd · 1)
  retained_some : ∀ id digest, state.retained id = some digest →
    trade id digest ∈ events ∨ correction .unknown id digest ∈ events
  retained_none : ∀ id, state.retained id = none →
    ∀ digest, trade id digest ∉ events ∧ ∀ kind, correction kind id digest ∉ events

theorem summarizes_init : Summarizes {} 0 [] where
  preset_eq := rfl
  fresh _ _ := rfl
  trades_eq := rfl
  depthFrames_eq := rfl
  gaps_eq := rfl
  lateCorrections_eq := rfl
  lastTradeId_eq := rfl
  tradeFloor_eq := rfl
  lastDepth_eq := rfl
  exact_of_open _ := rfl
  exact_of_closed _ := rfl
  retained_some id digest h := by simp [JournalAuditState.retained] at h
  retained_none id _ digest := by simp

namespace Summarizes

variable {state : JournalAuditState} {fileIndex : Nat} {events : List JournalEvent}

theorem openSegment (h : Summarizes state 0 events) :
    Summarizes (state.openSegment false) 0 events :=
  { h with }

theorem closeSegment (h : Summarizes state fileIndex events) (tailBytes : Nat) :
    Summarizes (state.closeSegment tailBytes) 0 events :=
  { h with fresh := fun h0 => absurd h0 (Nat.succ_ne_zero _) }

/-- **Step.** A record the full audit admits keeps the summary. -/
theorem step (h : Summarizes state fileIndex events) {e : JournalEvent} (sha : String)
    (hadmits : e.admits state (fileIndex == 0)) :
    Summarizes (e.record state sha) (fileIndex + 1) (events ++ [e]) := by
  have hadv := advanced state e sha
  have hcount : ∀ p : JournalEvent → Bool,
      (events ++ [e]).countP p = events.countP p + if p e then 1 else 0 := by
    intro p
    rw [List.countP_append, List.countP_singleton]
  have hret : ∀ id, (e.record state sha).retained id
      = (retains id e).or (state.retained id) := by
    intro id
    refine record_retained e sha id ?_
    rintro digest rfl
    exact hadmits.2.2
  refine
    { preset_eq := hadv.preset_eq.trans h.preset_eq
      fresh := fun _ h0 => absurd h0 (Nat.succ_ne_zero _)
      trades_eq := by rw [hadv.trades_eq, hcount, h.trades_eq]
      depthFrames_eq := by rw [hadv.depthFrames_eq, hcount, h.depthFrames_eq]
      gaps_eq := by rw [hadv.gaps_eq, hcount, h.gaps_eq]
      lateCorrections_eq := by rw [hadv.lateCorrections_eq, hcount, h.lateCorrections_eq]
      lastTradeId_eq := by rw [hadv.lastTradeId_eq, lastTrade_concat, h.lastTradeId_eq]
      lastDepth_eq := by
        rw [record_lastDepthSequence e sha h.preset_eq, lastDepth_concat, h.lastDepth_eq]
      tradeFloor_eq := ?_, exact_of_open := ?_, exact_of_closed := ?_
      retained_some := ?_, retained_none := ?_ }
  · rw [hadv.tradeFloor_eq, h.tradeFloor_eq, startupFloor_concat]
    rintro symbol floor rfl
    exact h.fresh hadmits.2 (by simpa using hadmits.1)
  · intro hopen
    rw [hadv.exact_eq]
    rcases (gapOpen_concat events e).mp hopen with hgap | ⟨hdepth, hbefore⟩
    · cases e with
      | gap _ => rfl
      | _ => cases hgap
    · cases e with
      | depth _ _ => cases hdepth
      | gap _ => rfl
      | _ => exact h.exact_of_open hbefore
  · intro hclosed
    rw [gapOpen_concat, not_or, not_and] at hclosed
    rw [hadv.exact_eq, lastDepth_concat]
    cases e with
    | gap _ => exact absurd rfl hclosed.1
    | depth _ _ => rfl
    | _ => exact h.exact_of_closed (hclosed.2 rfl)
  · intro id digest hsome
    rw [hret, Option.or_eq_some_iff] at hsome
    rcases hsome with hsome | ⟨-, hsome⟩
    · exact (retains_eq_some hsome).imp (fun h => by simp [h]) (fun h => by simp [h])
    · exact (h.retained_some id digest hsome).imp (List.mem_append_left _) (List.mem_append_left _)
  · intro id hnone digest
    rw [hret, Option.or_eq_none_iff] at hnone
    obtain ⟨htrade, hcorrection⟩ := h.retained_none id hnone.2 digest
    simp only [List.mem_append, List.mem_singleton, not_or]
    refine ⟨⟨htrade, ?_⟩, fun kind => ⟨hcorrection kind, ?_⟩⟩
    · rintro rfl
      simp [retains] at hnone
    · rintro rfl
      cases kind with
      | unknown => simp [retains] at hnone
      | duplicate =>
        -- a duplicate is only admitted when its ID is retained
        rw [hadmits.2.2] at hnone
        cases hnone.2

end Summarizes

/-! ## Invariants of a chain -/

variable {codec : JournalCodec}

/-- **Chain induction.** A relation between the state, the index of the next record and the
    events read so far, kept by every admitted record and at every file boundary, holds after
    a chain. -/
theorem runsChain_induction {P : JournalAuditState → Nat → List JournalEvent → Prop}
    (hopen : ∀ state events, P state 0 events → P (state.openSegment false) 0 events)
    (hclose : ∀ state fileIndex events tailBytes, P state fileIndex events →
      P (state.closeSegment tailBytes) 0 events)
    (hstep : ∀ state fileIndex events e sha, P state fileIndex events →
      JournalEvent.admits state (fileIndex == 0) e →
      P (e.record state sha) (fileIndex + 1) (events ++ [e])) :
    ∀ {segments : List AuditedSegment} {state state' : JournalAuditState}
      {events : List JournalEvent}, P state 0 events → RunsChain codec state segments state' →
      P state' 0 (events ++ chainEvents segments) := by
  -- the records of one file first
  have hfile : ∀ {records : List AuditedRecord} {state state' : JournalAuditState}
      {fileIndex : Nat} {events : List JournalEvent}, P state fileIndex events →
      Runs codec state fileIndex records state' →
      P state' (fileIndex + records.length) (events ++ records.map (·.event)) := by
    intro records
    induction records with
    | nil =>
      rintro state state' fileIndex events hP rfl
      simpa using hP
    | cons r rest ih =>
      rintro state state' fileIndex events hP ⟨-, -, hadmits, hruns⟩
      have hnext := ih (hstep state fileIndex events r.event r.envelope.recordSha256 hP hadmits) hruns
      rw [List.length_cons, List.map_cons, show fileIndex + (rest.length + 1)
        = fileIndex + 1 + rest.length by omega]
      simpa using hnext
  intro segments
  induction segments with
  | nil =>
    rintro state state' events hP rfl
    simpa [chainEvents] using hP
  | cons segment rest ih =>
    rintro state state' events hP ⟨-, reached, hruns, hchain⟩
    have hreached := hfile (hopen state events hP) hruns
    have hnext := ih (hclose _ _ _ segment.tailBytes hreached) hchain
    simpa [chainEvents, AuditedSegment.events] using hnext

theorem RunsChain.summarizes {segments : List AuditedSegment} {state : JournalAuditState}
    (h : RunsChain codec {} segments state) : Summarizes state 0 (chainEvents segments) := by
  simpa using runsChain_induction (fun _ _ h => h.openSegment)
    (fun _ _ _ tailBytes h => h.closeSegment tailBytes)
    (fun _ _ _ _ sha h hadmits => h.step sha hadmits) summarizes_init h

end LobReplay
