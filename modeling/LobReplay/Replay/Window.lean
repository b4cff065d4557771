/-
  The trades of a generation as both sides read them: the windows a handover proof is derived from,
  and the records the replay visits. A record stands for a trade or for a control frame
  (`eventOf?`), and a window is the trades of its records (`window_eq`).

  So the evidence of a handover is about records of the two generations (`Cut`): the frame of the
  predecessor's last trade, and a frame of the successor with the same trade ID.
-/

import LobReplay.Observation.Trade
import LobReplay.Replay.Trades

namespace LobReplay.Replay

open Foundation Book Observation
open Raw (RawRecordEnvelopeV1 RawSegmentManifestEntryV1)
open Boundary (position)

/-! ## Records -/

/-- What a record stands for: a control frame, or a trade with its ID and digest. -/
def classify (codec : BookCodec) (record : RawRecordEnvelopeV1) : Result (Option (UInt64 × String)) := do
  let value ← payloadOf codec record
  let control ← isServerShutdown value
  if control then .ok none
  else (tradeObservationDigestValue codec value record.frame.symbol).map some

/-- The payload is a valid trade or a valid control frame. -/
def Readable (codec : BookCodec) (record : RawRecordEnvelopeV1) : Prop :=
  ∃ event, classify codec record = .ok event

def event? (codec : BookCodec) (record : RawRecordEnvelopeV1) : Option (UInt64 × String) :=
  match classify codec record with
  | .ok event => event
  | .error _ => none

def tradeId? (codec : BookCodec) (record : RawRecordEnvelopeV1) : Option UInt64 :=
  (event? codec record).map (·.1)

def observe (codec : BookCodec) (record : RawRecordEnvelopeV1) : Option CanonicalObservationV1 :=
  (event? codec record).map fun event =>
    observationOf (recordIdentity record) .trade record event.1 event.1 event.2

variable {codec : BookCodec} {record : RawRecordEnvelopeV1}

theorem event?_of_classify {event : Option (UInt64 × String)}
    (h : classify codec record = .ok event) : event? codec record = event := by
  rw [event?, h]

theorem tradeId?_eq (codec : BookCodec) (record : RawRecordEnvelopeV1) :
    tradeId? codec record = (observe codec record).map (·.finalSequence) := by
  rw [tradeId?, observe, Option.map_map]
  rfl

theorem mem_observe {o : CanonicalObservationV1} (h : observe codec record = some o) :
    position o = ⟨record.frame.connectionEpoch, record.frame.stream, record.frame.frameIndex,
      record.recordSha256⟩ ∧ tradeId? codec record = some o.finalSequence := by
  refine ⟨?_, ?_⟩
  · obtain ⟨event, -, rfl⟩ := Option.map_eq_some_iff.mp h
    rfl
  · rw [tradeId?_eq, h]
    rfl

/-! ## Windows -/

section

variable {codec : BookCodec} {record : RawRecordEnvelopeV1} {records : List RawRecordEnvelopeV1}
  {observations : List CanonicalObservationV1}

theorem classify_control (h : serverShutdownPayload codec record.frame.payload = .ok true) :
    classify codec record = .ok none := by
  obtain ⟨value, hvalue, h⟩ := bind_eq_ok.mp h
  have hparsed := (strictObject_eq_ok.mp hvalue).1
  by_cases hevent : value.strField "e" = some "serverShutdown"
  · rw [if_neg (not_not.mpr hevent)] at h
    obtain ⟨e, he, -⟩ := bind_eq_ok.mp h
    have hu64 : value.u64Field "E" = some e := okOr_eq_ok.mp he
    rw [classify, payloadOf, hparsed]
    show (isServerShutdown value >>= _) = _
    rw [isServerShutdown, if_neg (not_not.mpr hevent), hu64]
    rfl
  · rw [if_pos hevent] at h
    cases h

theorem classify_trade {symbol : String} {event : UInt64 × String}
    (hsymbol : record.frame.symbol = symbol)
    (h : serverShutdownPayload codec record.frame.payload = .ok false)
    (hdigest : tradeObservationDigest codec record.frame.payload symbol = .ok event) :
    classify codec record = .ok (some event) := by
  subst hsymbol
  obtain ⟨value, hvalue, h⟩ := bind_eq_ok.mp h
  obtain ⟨other, hother, hdigest⟩ := bind_eq_ok.mp hdigest
  have hparsed := (strictObject_eq_ok.mp hvalue).1
  obtain rfl : value = other := by
    have hsame := (strictObject_eq_ok.mp hother).1
    rw [hparsed] at hsame
    exact Except.ok.inj hsame
  have hevent : value.strField "e" ≠ some "serverShutdown" := by
    intro hevent
    rw [if_neg (not_not.mpr hevent)] at h
    obtain ⟨_, -, h⟩ := bind_eq_ok.mp h
    cases h
  rw [classify, payloadOf, hparsed]
  show (isServerShutdown value >>= _) = _
  rw [isServerShutdown, if_pos hevent]
  show (tradeObservationDigestValue codec value record.frame.symbol).map some = _
  rw [hdigest]
  rfl

theorem tradeWindowLoop_filterMap {identity : RecordIdentity}
    (hidentity : ∀ record ∈ records, recordIdentity record = identity) {previous : Option UInt64}
    {before : List CanonicalObservationV1}
    (hprevious : before.getLast?.map (·.finalSequence) = previous) (hbefore : Rising before)
    (h : tradeWindowLoop codec identity records previous before = .ok observations) :
    (∀ record ∈ records, Readable codec record) ∧
      observations = before ++ records.filterMap (observe codec) ∧ Rising observations := by
  induction records generalizing previous before with
  | nil =>
    obtain rfl := Except.ok.inj h
    exact ⟨fun r hr => absurd hr List.not_mem_nil, (List.append_nil _).symm, hbefore⟩
  | cons record rest ih =>
    have hrest : ∀ r ∈ rest, recordIdentity r = identity := fun r hr =>
      hidentity r (List.mem_cons_of_mem _ hr)
    have hsymbol : record.frame.symbol = identity.1 :=
      congrArg Prod.fst (hidentity record List.mem_cons_self)
    unfold tradeWindowLoop at h
    rcases hshutdown : serverShutdownPayload codec record.frame.payload with e | _ | _
    · simp [hshutdown] at h
    · simp only [hshutdown] at h
      rcases hdigest : tradeObservationDigest codec record.frame.payload identity.1 with
        e | ⟨tradeId, eventDigest⟩
      · simp [hdigest] at h
      simp only [hdigest] at h
      obtain ⟨hrise, h⟩ := ite_err_eq_ok.mp h
      have hclass := classify_trade hsymbol hshutdown hdigest
      have hobserve : observe codec record
          = some (observationOf identity .trade record tradeId tradeId eventDigest) := by
        rw [observe, event?_of_classify hclass, Option.map_some,
          hidentity record List.mem_cons_self]
      -- the new trade is above the last one, so above all
      have hrising : Rising (before ++
          [observationOf identity .trade record tradeId tradeId eventDigest]) := by
        refine List.pairwise_append.mpr ⟨hbefore, List.pairwise_singleton _ _, fun o ho x hx => ?_⟩
        rw [List.mem_singleton.mp hx]
        obtain ⟨last, hlast⟩ := Option.isSome_iff_exists.mp
          (List.getLast?_isSome.mpr (List.ne_nil_of_mem ho))
        rw [hlast, Option.map_some] at hprevious
        rw [any_decide_eq_true, ← hprevious] at hrise
        refine UInt64.lt_of_le_of_lt (hbefore.le_last hlast ho) (UInt64.not_le.mp fun hle => ?_)
        exact hrise ⟨last.finalSequence, rfl, hle⟩
      obtain ⟨hread, heq, hall⟩ := ih hrest (by rw [List.getLast?_concat]; rfl) hrising h
      refine ⟨List.forall_mem_cons.mpr ⟨⟨_, hclass⟩, hread⟩, ?_, hall⟩
      rw [heq, List.filterMap_cons_some hobserve, List.append_assoc, List.singleton_append]
    · simp only [hshutdown] at h
      have hclass := classify_control hshutdown
      have hobserve : observe codec record = none := by
        rw [observe, event?_of_classify hclass, Option.map_none]
      obtain ⟨hread, heq, hall⟩ := ih hrest hprevious hbefore h
      refine ⟨List.forall_mem_cons.mpr ⟨⟨_, hclass⟩, hread⟩, ?_, hall⟩
      rw [heq, List.filterMap_cons_none hobserve]

theorem window_eq (h : materializeTradeRecordWindow codec records = .ok observations) :
    (∀ record ∈ records, Readable codec record) ∧
      observations = records.filterMap (observe codec) ∧ Rising observations := by
  obtain ⟨common, hidentity, h⟩ := bind_eq_ok.mp h
  obtain ⟨_, -, h⟩ := bind_eq_ok.mp h
  obtain ⟨-, hloop⟩ := ite_err_eq_ok.mp h
  have hloop := tradeWindowLoop_filterMap (identity_eq_ok.mp hidentity).2 rfl List.Pairwise.nil hloop
  rw [List.nil_append] at hloop
  exact hloop

end

theorem window_ids {records : List RawRecordEnvelopeV1} {observations : List CanonicalObservationV1}
    (h : materializeTradeRecordWindow codec records = .ok observations) :
    records.filterMap (tradeId? codec) = observations.map (·.finalSequence) := by
  rw [(window_eq h).2.1, List.map_filterMap]
  congr 1
  funext record
  exact tradeId?_eq codec record

/-! ## Generations and handovers -/

/-- The trade records of a generation: contiguous frames from 0, each a valid trade or control
    frame, and rising trade IDs. -/
structure Sound (codec : BookCodec) (g : GenerationSource) : Prop where
  frames : ∀ (k : Nat) (record : RawRecordEnvelopeV1), g.records[k]? = some record →
    record.frame.frameIndex.toNat = k
  readable : ∀ record ∈ g.records, Readable codec record
  rising : (g.records.filterMap (tradeId? codec)).Pairwise (· < ·)

/-- The trade evidence was derived from the terminal trade segment of the one generation and the
    root trade segment of the other. -/
def Proven (codec : BookCodec) (g g' : GenerationSource) (evidence : TradeOverlapEvidenceV1) : Prop :=
  ∃ (predecessorEntry successorEntry : RawSegmentManifestEntryV1) (terminal root : TradeSegment)
    (predecessor successor : List CanonicalObservationV1),
    g.trade.getLast? = some terminal ∧ g'.trade.head? = some root ∧
    materializeTradeRecordWindow codec terminal.records = .ok predecessor ∧
    materializeTradeRecordWindow codec root.records = .ok successor ∧
    deriveTradeEvidence predecessorEntry successorEntry predecessor successor = .ok evidence

/-- The frames of a handover: frame `i` of the predecessor has its last trade, and frame `j` of
    the successor the same one. -/
structure Cut (codec : BookCodec) (g g' : GenerationSource) (evidence : TradeOverlapEvidenceV1)
    (i j : Nat) : Prop where
  predecessor : ∃ record, g.records[i]? = some record ∧
    record.recordSha256 = evidence.predecessorNextShared.recordSha256 ∧
    tradeId? codec record = some evidence.nextSharedTradeId
  predecessor_frame : evidence.predecessorNextShared.frameIndex.toNat = i
  last : ∀ record ∈ g.records.drop (i + 1), tradeId? codec record = none
  successor : ∃ record, g'.records[j]? = some record ∧
    tradeId? codec record = some evidence.nextSharedTradeId
  successor_frame : evidence.successorNextShared.frameIndex.toNat = j
  successor_lt : j < 2 ^ 63

section

variable {codec : BookCodec} {g g' : GenerationSource} {evidence : TradeOverlapEvidenceV1}
  {root terminal : TradeSegment}

theorem records_of_root (h : g.trade.head? = some root) :
    ∃ later, g.records = root.records ++ later := by
  obtain ⟨rest, hrest⟩ := List.head?_eq_some_iff.mp h
  exact ⟨_, by rw [GenerationSource.records, hrest, List.flatMap_cons]⟩

theorem records_of_terminal (h : g.trade.getLast? = some terminal) :
    ∃ earlier, g.records = earlier ++ terminal.records := by
  obtain ⟨init, hinit⟩ := List.getLast?_eq_some_iff.mp h
  refine ⟨init.flatMap (·.records), ?_⟩
  rw [GenerationSource.records, hinit, List.flatMap_append, List.flatMap_cons, List.flatMap_nil,
    List.append_nil]

theorem records_split {records : List RawRecordEnvelopeV1} {k : Nat} {record : RawRecordEnvelopeV1}
    (h : records[k]? = some record) :
    records = records.take k ++ record :: records.drop (k + 1) := by
  obtain ⟨hk, rfl⟩ := List.getElem?_eq_some_iff.mp h
  rw [← List.drop_eq_getElem_cons hk, List.take_append_drop]

/-- The element behind the last value of a `filterMap`. -/
theorem exists_last_of_filterMap {α β : Type} {f : α → Option β} {xs : List α} {b : β}
    (h : (xs.filterMap f).getLast? = some b) :
    ∃ before x after, xs = before ++ x :: after ∧ f x = some b ∧ ∀ y ∈ after, f y = none := by
  induction xs using List.reverseRecOn with
  | nil => cases h
  | append_singleton xs x ih =>
    rw [List.filterMap_append] at h
    cases hx : f x with
    | none =>
      rw [List.filterMap_cons_none hx, List.filterMap_nil, List.append_nil] at h
      obtain ⟨before, z, after, rfl, hz, hafter⟩ := ih h
      refine ⟨before, z, after ++ [x], by rw [List.append_assoc, List.cons_append], hz, ?_⟩
      intro y hy
      rcases List.mem_append.mp hy with hy | hy
      · exact hafter y hy
      · rw [List.mem_singleton.mp hy]
        exact hx
    | some c =>
      rw [List.filterMap_cons_some hx, List.filterMap_nil, List.getLast?_concat] at h
      exact ⟨xs, x, [], rfl, by rw [hx, Option.some.inj h], fun y hy => absurd hy List.not_mem_nil⟩

/-- What the evidence says of the trades of the two segments. -/
theorem shared_of_proven (h : Proven codec g g' evidence) :
    ∃ terminal root first a b, g.trade.getLast? = some terminal ∧ g'.trade.head? = some root ∧
      Shared (terminal.records.filterMap (observe codec)) (root.records.filterMap (observe codec))
        evidence first a b := by
  obtain ⟨_, _, terminal, root, predecessor, successor, hterminal, hroot, hpredecessor, hsuccessor,
    hderive⟩ := h
  obtain ⟨-, rfl, hrising⟩ := window_eq hpredecessor
  obtain ⟨-, rfl, hrising'⟩ := window_eq hsuccessor
  obtain ⟨first, a, b, hshared⟩ := deriveTradeEvidence_eq_ok hrising hrising' hderive
  exact ⟨terminal, root, first, a, b, hterminal, hroot, hshared⟩

theorem cut_of_shared (hsound : Sound codec g) (hsound' : Sound codec g')
    {first a b : CanonicalObservationV1} (hterminal : g.trade.getLast? = some terminal)
    (hroot : g'.trade.head? = some root)
    (hshared : Shared (terminal.records.filterMap (observe codec))
      (root.records.filterMap (observe codec)) evidence first a b) :
    ∃ i j, Cut codec g g' evidence i j ∧ j < root.records.length := by
  obtain ⟨earlier, hearlier⟩ := records_of_terminal hterminal
  obtain ⟨later, hlater⟩ := records_of_root hroot
  -- the record of the predecessor's last trade, with no trade behind it
  obtain ⟨before, ra, after, hsplit, hra, hafter⟩ := exists_last_of_filterMap hshared.ends
  have hrecords : g.records = (earlier ++ before) ++ ra :: after := by
    rw [hearlier, hsplit, List.append_assoc]
  have hat : g.records[(earlier ++ before).length]? = some ra := by
    rw [hrecords, List.getElem?_append_right (Nat.le_refl _), Nat.sub_self]
    rfl
  have hdrop : g.records.drop ((earlier ++ before).length + 1) = after := by
    rw [hrecords, ← List.singleton_append, ← List.append_assoc]
    exact List.drop_left' List.length_append
  -- the record of the same trade in the successor's root segment
  obtain ⟨rb, hrb, hobserve⟩ := List.mem_filterMap.mp hshared.mem
  obtain ⟨j, hj, hrbj⟩ := List.getElem_of_mem hrb
  have hat' : g'.records[j]? = some rb := by
    rw [hlater, List.getElem?_append_left hj, ← hrbj]
    exact List.getElem?_eq_getElem hj
  obtain ⟨hposition, hid⟩ := mem_observe hra
  obtain ⟨hposition', hid'⟩ := mem_observe hobserve
  have hsame : b.finalSequence = a.finalSequence := congrArg Prod.fst hshared.same
  refine ⟨(earlier ++ before).length, j, ⟨⟨ra, hat, ?_, ?_⟩, ?_, ?_, ⟨rb, hat', ?_⟩, ?_, ?_⟩, hj⟩
  · rw [hshared.predecessorNextShared, hposition]
  · rw [hid, hshared.nextSharedTradeId]
  · rw [hshared.predecessorNextShared, hposition]
    exact hsound.frames _ _ hat
  · intro r hr
    rw [hdrop] at hr
    rw [tradeId?_eq, hafter r hr]
    rfl
  · rw [hid', hsame, hshared.nextSharedTradeId]
  · rw [hshared.successorNextShared, hposition']
    exact hsound'.frames _ _ hat'
  · exact Nat.lt_trans hj root.records_lt

theorem cut_of_proven (hsound : Sound codec g) (hsound' : Sound codec g')
    (h : Proven codec g g' evidence) : ∃ i j, Cut codec g g' evidence i j := by
  obtain ⟨terminal, root, first, a, b, hterminal, hroot, hshared⟩ := shared_of_proven h
  obtain ⟨i, j, hcut, -⟩ := cut_of_shared hsound hsound' hterminal hroot hshared
  exact ⟨i, j, hcut⟩

end

/-! ## A sample handover

The predecessor has the trades 2, 10 and 11, the last two in its terminal segment; the successor
begins with the trade 3 that the predecessor missed. -/

def sampleTradeOf (id : UInt64) : Value :=
  .object [("E", .nat 1001), ("M", .bool true), ("T", .nat 1000), ("e", .string "trade"),
    ("m", .bool false), ("p", .string "100.50"), ("q", .string "0.1"), ("s", .string "BTCUSDT"),
    ("t", .nat id)]

def sampleCanonical (id : String) : Bytes :=
  asBytes "\x7b\"best_match\":true,\"buyer_is_maker\":false,\"price\":\"100.5\",\"quantity\":\"0.1\",\"schema\":\"CanonicalTradeEventV1\",\"symbol\":\"BTCUSDT\",\"trade_id\":"
    ++ asBytes id ++ asBytes ",\"trade_time\":1000\x7d"

/-- The codec of the trades and of a shutdown. -/
def handoverCodec : BookCodec :=
  BookCodec.known
    [sampleTradeOf 2, sampleTradeOf 3, sampleTradeOf 10, sampleTradeOf 11, sampleShutdown]
    [(sampleCanonical "2", 0x2c87fbdb9859271ad4de403486c7dbe6617c06df82f5156eb9790779be7b5467),
     (sampleCanonical "3", 0x46915e6598abb4f0464fccfbe40036a8c2ede96d5a629670aa478cca62aab06a),
     (sampleCanonical "10", 0xcba9849610cab4b53174eb2e383559d39a653335737d28c6ff6c003831a9c11b),
     (sampleCanonical "11", 0xbc595696ffa339984e0ceabe4f80ccd3c82bcbfeaf936c4f07d89941797443a2)]

def sampleRecord (epoch : String) (frameIndex : UInt64) (recordSha256 : String) (payload : Value) :
    RawRecordEnvelopeV1 where
  schema := "RawRecordEnvelopeV1"
  recordIndex := frameIndex.toNat
  startOffset := 8
  endOffset := 749
  recordSha256 := recordSha256
  frame := { sampleFrame "btcusdt@trade" frameIndex payload with connectionEpoch := epoch }

def sampleObserved (epoch : String) (frameIndex id : UInt64) (recordSha256 digest : String) :
    CanonicalObservationV1 where
  symbol := "BTCUSDT"
  streamKind := .trade
  stream := "btcusdt@trade"
  connectionEpoch := epoch
  frameIndex := frameIndex
  firstSequence := id
  finalSequence := id
  recordSha256 := recordSha256
  observationSha256 := digest

def samplePredecessor : GenerationSource where
  index := 0
  sessionId := "A"
  trade := [
    ⟨0, [sampleRecord "a" 0 "a-0" (sampleTradeOf 2)], by decide⟩,
    ⟨1, [sampleRecord "a" 1 "a-1" (sampleTradeOf 10), sampleRecord "a" 2 "a-2" (sampleTradeOf 11)],
      by decide⟩]

def sampleSuccessor : GenerationSource where
  index := 1
  sessionId := "B"
  trade := [
    ⟨0, [sampleRecord "b" 0 "b-0" (sampleTradeOf 3), sampleRecord "b" 1 "b-1" (sampleTradeOf 10),
      sampleRecord "b" 2 "b-2" (sampleTradeOf 11)], by decide⟩]

def sampleDigest2 : String := "2c87fbdb9859271ad4de403486c7dbe6617c06df82f5156eb9790779be7b5467"

def sampleDigest3 : String := "46915e6598abb4f0464fccfbe40036a8c2ede96d5a629670aa478cca62aab06a"

def sampleDigest10 : String := "cba9849610cab4b53174eb2e383559d39a653335737d28c6ff6c003831a9c11b"

def sampleDigest11 : String := "bc595696ffa339984e0ceabe4f80ccd3c82bcbfeaf936c4f07d89941797443a2"

/-- The observations of the terminal segment and of the root segment. -/
def sampleTerminal : List CanonicalObservationV1 :=
  [sampleObserved "a" 1 10 "a-1" sampleDigest10, sampleObserved "a" 2 11 "a-2" sampleDigest11]

def sampleRoot : List CanonicalObservationV1 :=
  [sampleObserved "b" 0 3 "b-0" sampleDigest3, sampleObserved "b" 1 10 "b-1" sampleDigest10,
    sampleObserved "b" 2 11 "b-2" sampleDigest11]

theorem sampleFirst_window :
    materializeTradeRecordWindow handoverCodec [sampleRecord "a" 0 "a-0" (sampleTradeOf 2)]
      = .ok [sampleObserved "a" 0 2 "a-0" sampleDigest2] := by
  decide +kernel

theorem sampleTerminal_window :
    materializeTradeRecordWindow handoverCodec
      [sampleRecord "a" 1 "a-1" (sampleTradeOf 10), sampleRecord "a" 2 "a-2" (sampleTradeOf 11)]
      = .ok sampleTerminal := by
  decide +kernel

theorem sampleRoot_window :
    materializeTradeRecordWindow handoverCodec
      [sampleRecord "b" 0 "b-0" (sampleTradeOf 3), sampleRecord "b" 1 "b-1" (sampleTradeOf 10),
        sampleRecord "b" 2 "b-2" (sampleTradeOf 11)]
      = .ok sampleRoot := by
  decide +kernel

theorem samplePredecessor_sound : Sound handoverCodec samplePredecessor := by
  obtain ⟨hfirst, -⟩ := window_eq sampleFirst_window
  obtain ⟨hterminal, -⟩ := window_eq sampleTerminal_window
  have hrecords : samplePredecessor.records
      = [sampleRecord "a" 0 "a-0" (sampleTradeOf 2)] ++ [sampleRecord "a" 1 "a-1" (sampleTradeOf 10),
        sampleRecord "a" 2 "a-2" (sampleTradeOf 11)] := rfl
  refine ⟨?_, ?_, ?_⟩
  · intro k record hrecord
    match k with
    | 0 => cases hrecord; rfl
    | 1 => cases hrecord; rfl
    | 2 => cases hrecord; rfl
  · rw [hrecords]
    exact List.forall_mem_append.mpr ⟨hfirst, hterminal⟩
  · rw [hrecords, List.filterMap_append, window_ids sampleFirst_window,
      window_ids sampleTerminal_window]
    decide

theorem sampleSuccessor_sound : Sound handoverCodec sampleSuccessor := by
  obtain ⟨hroot, -⟩ := window_eq sampleRoot_window
  refine ⟨?_, hroot, ?_⟩
  · intro k record hrecord
    match k with
    | 0 => cases hrecord; rfl
    | 1 => cases hrecord; rfl
    | 2 => cases hrecord; rfl
  · have hids := window_ids sampleRoot_window
    have hrecords : sampleSuccessor.records = [sampleRecord "b" 0 "b-0" (sampleTradeOf 3),
      sampleRecord "b" 1 "b-1" (sampleTradeOf 10), sampleRecord "b" 2 "b-2" (sampleTradeOf 11)] := rfl
    rw [hrecords, hids]
    decide

def sampleEntry (epoch : String) (segmentIndex first : UInt64) : RawSegmentManifestEntryV1 where
  schema := "RawSegmentManifestEntryV1"
  recordIndex := segmentIndex.toNat
  previousManifestRecordSha256 := ""
  manifestRecordSha256 := ""
  sealed := {
    schema := "RawSegmentSealV1"
    segmentIndex := segmentIndex
    rawFile := "segment.bnraw"
    connectionEpoch := epoch
    stream := "btcusdt@trade"
    firstFrameIndex := first
    lastFrameIndex := 2
    records := 3 - first.toNat
    durableThroughOffset := 749
    previousSegmentTerminalSha256 := ""
    terminalRecordSha256 := epoch ++ "-2" }

def sampleEvidence : TradeOverlapEvidenceV1 where
  schema := "TradeOverlapEvidenceV1"
  predecessorSegment := segmentReference (sampleEntry "a" 1 1)
  successorSegment := segmentReference (sampleEntry "b" 0 0)
  commonLowerTradeId := 10
  commonUpperTradeId := 11
  commonEvents := 2
  firstSharedTradeId := 10
  firstSharedEventSha256 := sampleDigest10
  predecessorFirstShared := ⟨"a", "btcusdt@trade", 1, "a-1"⟩
  successorFirstShared := ⟨"b", "btcusdt@trade", 1, "b-1"⟩
  nextSharedTradeId := 11
  nextSharedEventSha256 := sampleDigest11
  predecessorNextShared := ⟨"a", "btcusdt@trade", 2, "a-2"⟩
  successorNextShared := ⟨"b", "btcusdt@trade", 2, "b-2"⟩
  tradeIdContiguityClaim := "NONE_OFFICIAL_CONTRACT_DOES_NOT_PROMISE_CONSECUTIVE_IDS"

theorem sampleEvidence_proven :
    Proven handoverCodec samplePredecessor sampleSuccessor sampleEvidence :=
  ⟨sampleEntry "a" 1 1, sampleEntry "b" 0 0, _, _, sampleTerminal, sampleRoot, rfl, rfl,
    sampleTerminal_window, sampleRoot_window, by decide +kernel⟩

end LobReplay.Replay
