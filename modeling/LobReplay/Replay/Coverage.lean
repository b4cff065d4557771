/-
  Which trades a proven handover keeps. The replay takes all trades of the predecessor, and those of
  the successor behind the shared boundary. A trade of the successor that it drops was compared with
  the predecessor's terminal segment, unless its ID is below the first one of that segment: such a
  trade may be missing in the predecessor.
-/

import LobReplay.Replay.Chain

namespace LobReplay.Replay

open Foundation Book Observation
open Raw (RawRecordEnvelopeV1)

/-! ## Trades -/

def tradesOf (codec : BookCodec) (g : GenerationSource) : List CanonicalObservationV1 :=
  g.records.filterMap (observe codec)

/-- The trades the replay selects between two frames. -/
def selectedTrades (codec : BookCodec) (start : UInt64) (stop : Option UInt64)
    (g : GenerationSource) : List CanonicalObservationV1 :=
  (selectedOf start stop g.records).filterMap (observe codec)

def terminalFirst (codec : BookCodec) (g : GenerationSource) : Option CanonicalObservationV1 :=
  g.trade.getLast?.bind fun terminal => (terminal.records.filterMap (observe codec)).head?

/-- The replay of the two generations loses no trade: what it does not select is a trade of the
    successor that it selects from the predecessor, and what it selects rises. -/
def NoTradeLost (codec : BookCodec) (g g' : GenerationSource) (evidence : TradeOverlapEvidenceV1) :
    Prop :=
  ∃ start, startOf [evidence] 1 = .ok start ∧
    let before := selectedTrades codec 0 (some evidence.predecessorNextShared.frameIndex) g
    let after := selectedTrades codec start none g'
    (∀ t ∈ tradesOf codec g, t ∈ before) ∧
    (∀ t ∈ tradesOf codec g', t ∈ after ∨ ∃ p ∈ before, eventOf p = eventOf t) ∧
    Rising (before ++ after)

section

variable {codec : BookCodec} {g g' : GenerationSource} {evidence : TradeOverlapEvidenceV1}
  {i j : Nat}

theorem tradesOf_rising (hsound : Sound codec g) : Rising (tradesOf codec g) := by
  have hids : g.records.filterMap (tradeId? codec) = (tradesOf codec g).map (·.finalSequence) := by
    rw [tradesOf, List.map_filterMap]
    congr 1
    funext record
    exact tradeId?_eq codec record
  have hrising := hsound.rising
  rw [hids] at hrising
  exact List.pairwise_map.mp hrising

theorem selectedTrades_predecessor (hsound : Sound codec g) (hcut : Cut codec g g' evidence i j) :
    selectedTrades codec 0 (some evidence.predecessorNextShared.frameIndex) g = tradesOf codec g := by
  have hnone : (g.records.drop (i + 1)).filterMap (observe codec) = [] := by
    rw [List.filterMap_eq_nil_iff]
    intro record hrecord
    have hid := hcut.last record hrecord
    rw [tradeId?_eq, Option.map_eq_none_iff] at hid
    exact hid
  rw [selectedTrades, selectedOf_eq hsound.frames, upTo, hcut.predecessor_frame, tradesOf]
  conv_rhs => rw [← List.take_append_drop (i + 1) g.records, List.filterMap_append, hnone]
  rw [List.append_nil]
  rfl

/-- The trades of the successor: those up to the boundary, which are not above it and lie in the
    root segment, and those behind, which are selected. -/
theorem tradesOf_successor (hsound : Sound codec g') {root : TradeSegment}
    (hroot : g'.trade.head? = some root) (hcut : Cut codec g g' evidence i j)
    (hj : j < root.records.length) {start : UInt64} (hstart : start.toNat = j + 1) :
    ∃ dropped, tradesOf codec g' = dropped ++ selectedTrades codec start none g' ∧
      (∀ t ∈ dropped, t ∈ root.records.filterMap (observe codec) ∧
        t.finalSequence ≤ evidence.nextSharedTradeId) ∧
      ∀ t ∈ selectedTrades codec start none g', evidence.nextSharedTradeId < t.finalSequence := by
  obtain ⟨record, hat, hid⟩ := hcut.successor
  obtain ⟨o, hobserve, hfinal⟩ : ∃ o, observe codec record = some o ∧
      o.finalSequence = evidence.nextSharedTradeId := by
    rw [tradeId?_eq] at hid
    exact Option.map_eq_some_iff.mp hid
  obtain ⟨later, hlater⟩ := records_of_root hroot
  have hselected : selectedTrades codec start none g'
      = (g'.records.drop (j + 1)).filterMap (observe codec) := by
    rw [selectedTrades, selectedOf_eq hsound.frames, upTo, hstart]
  have hsplit : tradesOf codec g' = (g'.records.take j).filterMap (observe codec) ++
      o :: (g'.records.drop (j + 1)).filterMap (observe codec) := by
    rw [tradesOf]
    conv_lhs => rw [records_split hat]
    rw [List.filterMap_append, List.filterMap_cons_some hobserve]
  have hrising := tradesOf_rising hsound
  rw [hsplit, Rising, List.pairwise_append, List.pairwise_cons] at hrising
  obtain ⟨-, ⟨hbehind, -⟩, hbefore⟩ := hrising
  refine ⟨(g'.records.take j).filterMap (observe codec) ++ [o], ?_, ?_, ?_⟩
  · rw [hsplit, hselected, List.append_assoc, List.singleton_append]
  · intro t ht
    rcases List.mem_append.mp ht with ht | ht
    · refine ⟨?_, ?_⟩
      · obtain ⟨r, hr, hrt⟩ := List.mem_filterMap.mp ht
        rw [hlater, List.take_append_of_le_length (Nat.le_of_lt hj)] at hr
        exact List.mem_filterMap.mpr ⟨r, List.mem_of_mem_take hr, hrt⟩
      · rw [← hfinal]
        exact UInt64.le_of_lt (hbefore t ht o List.mem_cons_self)
    · rw [List.mem_singleton.mp ht]
      refine ⟨List.mem_filterMap.mpr ⟨record, ?_, hobserve⟩, by rw [hfinal]; exact UInt64.le_refl _⟩
      rw [hlater, List.getElem?_append_left hj] at hat
      exact List.mem_of_getElem? hat
  · intro t ht
    rw [hselected] at ht
    rw [← hfinal]
    exact hbehind t ht

/-- **Main theorem.** A proven handover loses no trade if and only if every trade of the successor
    with an ID below the first one of the predecessor's terminal segment is a trade of the
    predecessor. -/
theorem no_trade_lost_iff (hsound : Sound codec g) (hsound' : Sound codec g')
    (hproven : Proven codec g g' evidence) :
    NoTradeLost codec g g' evidence ↔
      ∀ first ∈ terminalFirst codec g, ∀ t ∈ tradesOf codec g',
        t.finalSequence < first.finalSequence → ∃ p ∈ tradesOf codec g, eventOf p = eventOf t := by
  obtain ⟨terminal, root, first, a, b, hterminal, hroot, hshared⟩ := shared_of_proven hproven
  obtain ⟨i, j, hcut, hj⟩ := cut_of_shared hsound hsound' hterminal hroot hshared
  obtain ⟨start, hstart, hframe⟩ := @startOf_cut codec [evidence] 0 g g' evidence rfl i j hcut
  obtain ⟨dropped, htrades, hdropped, habove⟩ := tradesOf_successor hsound' hroot hcut hj hframe
  have hfirst : terminalFirst codec g = some first := by
    rw [terminalFirst, hterminal, Option.bind_some, hshared.starts]
  -- the terminal segment's trades are trades of the predecessor, up to its last one
  obtain ⟨earlier, hearlier⟩ := records_of_terminal hterminal
  have hterminalTrades : tradesOf codec g = earlier.filterMap (observe codec) ++
      terminal.records.filterMap (observe codec) := by
    rw [tradesOf, hearlier, List.filterMap_append]
  have hlast : (tradesOf codec g).getLast? = some a := by
    rw [hterminalTrades, List.getLast?_append, hshared.ends, Option.some_or]
  have hnext : evidence.nextSharedTradeId = a.finalSequence := hshared.nextSharedTradeId
  have hrising := tradesOf_rising hsound
  constructor
  · rintro ⟨other, hother, hkept, hcovered, -⟩ first' hfirst' t ht hlow
    obtain rfl : start = other := Except.ok.inj (hstart.symm.trans hother)
    rw [hfirst] at hfirst'
    cases hfirst'
    rcases hcovered t ht with hselected | ⟨p, hp, hevent⟩
    · -- a trade behind the boundary is above the terminal segment
      have hmem : first ∈ tradesOf codec g := by
        rw [hterminalTrades]
        exact List.mem_append_right _ (List.mem_of_mem_head? hshared.starts)
      have hle := hrising.le_last hlast hmem
      have hgt := habove t hselected
      rw [hnext] at hgt
      exact absurd (UInt64.lt_of_lt_of_le hlow hle) (UInt64.not_lt.mpr (UInt64.le_of_lt hgt))
    · rw [selectedTrades_predecessor hsound hcut] at hp
      exact ⟨p, hp, hevent⟩
  · intro hcovered
    refine ⟨start, hstart, ?_, ?_, ?_⟩
    · intro t ht
      rw [selectedTrades_predecessor hsound hcut]
      exact ht
    · intro t ht
      rw [selectedTrades_predecessor hsound hcut]
      rw [htrades] at ht
      rcases List.mem_append.mp ht with hin | hin
      · right
        obtain ⟨hmem, hle⟩ := hdropped t hin
        by_cases hlow : t.finalSequence < first.finalSequence
        · exact hcovered first hfirst t (by rw [htrades]; exact List.mem_append_left _ hin) hlow
        · obtain ⟨p, hp, hevent⟩ := hshared.compared t hmem (UInt64.not_lt.mp hlow) (hnext ▸ hle)
          exact ⟨p, by rw [hterminalTrades]; exact List.mem_append_right _ hp, hevent⟩
      · exact Or.inl hin
    · rw [selectedTrades_predecessor hsound hcut]
      have hrising' := tradesOf_rising hsound'
      rw [htrades, Rising, List.pairwise_append] at hrising'
      refine List.pairwise_append.mpr ⟨hrising, hrising'.2.1, fun p hp t ht => ?_⟩
      exact UInt64.lt_of_le_of_lt (hrising.le_last hlast hp) (hnext ▸ habove t ht)

end

/-! ## The sample handover -/

/-- The condition for the sample. -/
theorem sample_handover_coverage :
    NoTradeLost handoverCodec samplePredecessor sampleSuccessor sampleEvidence ↔
      ∀ first ∈ terminalFirst handoverCodec samplePredecessor,
        ∀ t ∈ tradesOf handoverCodec sampleSuccessor, t.finalSequence < first.finalSequence →
          ∃ p ∈ tradesOf handoverCodec samplePredecessor, eventOf p = eventOf t :=
  no_trade_lost_iff samplePredecessor_sound sampleSuccessor_sound sampleEvidence_proven

/-- The trade 3 of the successor is dropped, and the predecessor does not have it. -/
theorem handover_drops_trade :
    Sound handoverCodec samplePredecessor ∧ Sound handoverCodec sampleSuccessor ∧
      Proven handoverCodec samplePredecessor sampleSuccessor sampleEvidence ∧
      ¬ NoTradeLost handoverCodec samplePredecessor sampleSuccessor sampleEvidence := by
  refine ⟨samplePredecessor_sound, sampleSuccessor_sound, sampleEvidence_proven, ?_⟩
  rintro ⟨start, hstart, -, hcovered, -⟩
  obtain rfl : 3 = start := Except.ok.inj hstart
  have hsuccessor : tradesOf handoverCodec sampleSuccessor = sampleRoot :=
    (window_eq sampleRoot_window).2.1.symm
  have hpredecessor : tradesOf handoverCodec samplePredecessor
      = [sampleObserved "a" 0 2 "a-0" sampleDigest2] ++ sampleTerminal := by
    rw [(window_eq sampleFirst_window).2.1, (window_eq sampleTerminal_window).2.1,
      ← List.filterMap_append]
    rfl
  have hnone : selectedTrades handoverCodec 3 none sampleSuccessor = [] := by
    rw [selectedTrades, selectedOf_eq sampleSuccessor_sound.frames]
    rfl
  have hmem : sampleObserved "b" 0 3 "b-0" sampleDigest3 ∈ tradesOf handoverCodec sampleSuccessor := by
    rw [hsuccessor]
    exact List.mem_cons_self
  rcases hcovered _ hmem with hselected | ⟨p, hp, hevent⟩
  · rw [hnone] at hselected
    exact absurd hselected List.not_mem_nil
  · have hkept : p ∈ tradesOf handoverCodec samplePredecessor :=
      (List.filter_sublist.filterMap _).subset hp
    rw [hpredecessor] at hkept
    -- no trade of the predecessor has the ID 3
    have hids : ∀ q ∈ [sampleObserved "a" 0 2 "a-0" sampleDigest2] ++ sampleTerminal,
        q.finalSequence ≠ 3 := by decide
    exact hids p hkept (congrArg Prod.fst hevent)

end LobReplay.Replay
