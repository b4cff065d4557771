/-
  The union as an exact two-lane merge. Two lanes deliver their trades in strictly increasing order
  and agree on the trades they share; the calls reach the union in any interleaving. `MergeInv` says
  what the union holds after a prefix of the deliveries.
-/

import LobReplay.Union.Accounting
import Mathlib.Data.List.Sort

namespace LobReplay

open Foundation
open Std (TreeMap)

abbrev Delivery := CaptureLane × CanonicalObservationV1

def Delivery.id (d : Delivery) : UInt64 := d.2.finalSequence

def laneStream (ds : List Delivery) (lane : CaptureLane) : List CanonicalObservationV1 :=
  (ds.filter fun d => decide (d.1 = lane)).map (·.2)

/-- `observation` is a trade that carries one exact trade ID. -/
def IsTrade (observation : CanonicalObservationV1) : Prop :=
  observation.streamKind = .trade ∧ observation.firstSequence = observation.finalSequence

/-- `ds` interleaves the two lane streams: each lane's deliveries, in order, are its
    stream. -/
def Interleaves (primary shadow : List CanonicalObservationV1) (ds : List Delivery) : Prop :=
  laneStream ds .primary = primary ∧ laneStream ds .shadow = shadow

/-- Deliveries the venue can produce: trades, strictly increasing on each lane, the
    same trade ID with the same semantic digest on both. -/
structure VenueOrdered (ds : List Delivery) : Prop where
  trade : ∀ d ∈ ds, IsTrade d.2
  increasing : ∀ lane, ((laneStream ds lane).map (·.finalSequence)).Pairwise (· < ·)
  agree : ∀ a ∈ ds, ∀ b ∈ ds, a.2.finalSequence = b.2.finalSequence →
    a.2.observationSha256 = b.2.observationSha256

/-- The delivery cursor of a lane: one past its last delivered ID, 0 before the
    first. -/
def cursor (ds : List Delivery) (lane : CaptureLane) : UInt64 :=
  (((laneStream ds lane).getLast?).map fun o => saturatingAdd o.finalSequence 1).getD 0

/-- Both lanes have delivered past `id`. -/
def Passed (ds : List Delivery) (id : UInt64) : Prop := ∀ lane, id < cursor ds lane

/-! ## Deliveries -/

theorem laneStream_concat (ds : List Delivery) (d : Delivery) (lane : CaptureLane) :
    laneStream (ds ++ [d]) lane
      = if d.1 = lane then laneStream ds lane ++ [d.2] else laneStream ds lane := by
  by_cases h : d.1 = lane <;> simp [laneStream, List.filter_append, h]

theorem cursor_concat_self (ds : List Delivery) (d : Delivery) :
    cursor (ds ++ [d]) d.1 = saturatingAdd d.2.finalSequence 1 := by
  simp [cursor, laneStream_concat]

variable {d : Delivery} {ds : List Delivery} {lane : CaptureLane}
  {primary shadow : List CanonicalObservationV1}

theorem cursor_concat_other (ds : List Delivery) (h : d.1 ≠ lane) :
    cursor (ds ++ [d]) lane = cursor ds lane := by
  simp [cursor, laneStream_concat, h]

theorem VenueOrdered.init (h : VenueOrdered (ds ++ [d])) : VenueOrdered ds := by
  refine ⟨fun a ha => h.trade a (List.mem_append_left _ ha), ?_, ?_⟩
  · intro lane
    have hl := h.increasing lane
    rw [laneStream_concat] at hl
    split at hl
    · rw [List.map_append] at hl
      exact (List.pairwise_append.mp hl).1
    · exact hl
  · intro a ha b hb
    exact h.agree a (List.mem_append_left _ ha) b (List.mem_append_left _ hb)

/-- A lane never delivers below its cursor. -/
theorem VenueOrdered.cursor_le (h : VenueOrdered (ds ++ [d])) :
    cursor ds d.1 ≤ d.2.finalSequence := by
  unfold cursor
  cases hlast : (laneStream ds d.1).getLast? with
  | none => simp [UInt64.le_iff_toNat_le]
  | some o =>
    have hl := h.increasing d.1
    rw [laneStream_concat, if_pos rfl, List.map_append] at hl
    have hlt : o.finalSequence < d.2.finalSequence :=
      (List.pairwise_append.mp hl).2.2 _
        (List.mem_map.mpr ⟨o, List.mem_of_getLast? hlast, rfl⟩) _ (by simp)
    have hmax := toNat_le_u64Max d.2.finalSequence
    simp only [Option.map_some, Option.getD_some, UInt64.le_iff_toNat_le, saturatingAdd_toNat,
      UInt64.toNat_one]
    rw [UInt64.lt_iff_toNat_lt] at hlt
    omega

theorem le_saturatingAdd_one (a : UInt64) : a ≤ saturatingAdd a 1 := by
  have := toNat_le_u64Max a
  rw [UInt64.le_iff_toNat_le, saturatingAdd_toNat]
  omega

theorem VenueOrdered.cursor_mono (h : VenueOrdered (ds ++ [d])) (lane : CaptureLane) :
    cursor ds lane ≤ cursor (ds ++ [d]) lane := by
  by_cases hl : d.1 = lane
  · subst hl
    rw [cursor_concat_self]
    exact UInt64.le_trans h.cursor_le (le_saturatingAdd_one _)
  · rw [cursor_concat_other ds hl]
    exact UInt64.le_refl _

theorem VenueOrdered.passed_mono (h : VenueOrdered (ds ++ [d])) {id : UInt64} (hid : Passed ds id) :
    Passed (ds ++ [d]) id :=
  fun lane => UInt64.lt_of_lt_of_le (hid lane) (h.cursor_mono lane)

theorem VenueOrdered.take (h : VenueOrdered ds) (n : Nat) : VenueOrdered (ds.take n) := by
  have hlane : ∀ lane, (laneStream (ds.take n) lane).Sublist (laneStream ds lane) := fun lane =>
    ((List.take_sublist n ds).filter _).map _
  refine ⟨fun d hd => h.trade d (List.mem_of_mem_take hd), ?_, ?_⟩
  · intro lane
    exact (h.increasing lane).sublist ((hlane lane).map _)
  · intro a ha b hb
    exact h.agree a (List.mem_of_mem_take ha) b (List.mem_of_mem_take hb)

/-! ## Interleavings -/

theorem mem_laneStream (h : d ∈ ds) : d.2 ∈ laneStream ds d.1 := by
  refine List.mem_map.mpr ⟨d, ?_, rfl⟩
  simp [h]

theorem mem_of_mem_laneStream {o : CanonicalObservationV1} (h : o ∈ laneStream ds lane) :
    (lane, o) ∈ ds := by
  obtain ⟨⟨lane', o'⟩, hd, rfl⟩ := List.mem_map.mp h
  obtain ⟨hin, hlane⟩ := List.mem_filter.mp hd
  simp only [decide_eq_true_eq] at hlane
  exact hlane ▸ hin

theorem eq_of_increasing {stream : List CanonicalObservationV1}
    (h : (stream.map (·.finalSequence)).Pairwise (· < ·)) {a b : CanonicalObservationV1}
    (ha : a ∈ stream) (hb : b ∈ stream) (hid : a.finalSequence = b.finalSequence) : a = b := by
  have hnodup : (stream.map (·.finalSequence)).Nodup := h.imp fun hlt => UInt64.ne_of_lt hlt
  exact List.inj_on_of_nodup_map hnodup ha hb hid

section

variable {primary shadow : List CanonicalObservationV1}
  (htrade : ∀ o ∈ primary ++ shadow, IsTrade o)
  (hprimary : (primary.map (·.finalSequence)).Pairwise (· < ·))
  (hshadow : (shadow.map (·.finalSequence)).Pairwise (· < ·))
  (hagree : ∀ p ∈ primary, ∀ q ∈ shadow, p.finalSequence = q.finalSequence →
    p.observationSha256 = q.observationSha256)

include htrade hprimary hshadow hagree in
theorem Interleaves.venueOrdered {ds : List Delivery} (h : Interleaves primary shadow ds) :
    VenueOrdered ds := by
  obtain ⟨rfl, rfl⟩ := h
  refine ⟨?_, ?_, ?_⟩
  · intro d hd
    have hmem := mem_laneStream hd
    apply htrade
    rw [List.mem_append]
    cases hlane : d.1 with
    | primary => exact .inl (hlane ▸ hmem)
    | shadow => exact .inr (hlane ▸ hmem)
  · intro lane
    cases lane with
    | primary => exact hprimary
    | shadow => exact hshadow
  · intro a ha b hb hid
    have hma := mem_laneStream ha
    have hmb := mem_laneStream hb
    cases hla : a.1 with
    | primary =>
      rw [hla] at hma
      cases hlb : b.1 with
      | primary => rw [eq_of_increasing hprimary hma (hlb ▸ hmb) hid]
      | shadow => exact hagree _ hma _ (hlb ▸ hmb) hid
    | shadow =>
      rw [hla] at hma
      cases hlb : b.1 with
      | primary => exact (hagree _ (hlb ▸ hmb) _ hma hid.symm).symm
      | shadow => rw [eq_of_increasing hshadow hma (hlb ▸ hmb) hid]

end

theorem Interleaves.mem_ids_iff (h : Interleaves primary shadow ds) (id : UInt64) :
    id ∈ ds.map Delivery.id ↔ id ∈ (primary ++ shadow).map (·.finalSequence) := by
  obtain ⟨rfl, rfl⟩ := h
  constructor
  · intro hid
    obtain ⟨d, hd, rfl⟩ := List.mem_map.mp hid
    have hmem := mem_laneStream hd
    refine List.mem_map.mpr ⟨d.2, ?_, rfl⟩
    rw [List.mem_append]
    cases hlane : d.1 with
    | primary => exact .inl (hlane ▸ hmem)
    | shadow => exact .inr (hlane ▸ hmem)
  · intro hid
    obtain ⟨o, ho, rfl⟩ := List.mem_map.mp hid
    rcases List.mem_append.mp ho with hp | hs
    · exact List.mem_map.mpr ⟨_, mem_of_mem_laneStream hp, rfl⟩
    · exact List.mem_map.mpr ⟨_, mem_of_mem_laneStream hs, rfl⟩

/-- The cursors depend on the two streams only. -/
theorem Interleaves.passed_iff {ds' : List Delivery} (h : Interleaves primary shadow ds)
    (h' : Interleaves primary shadow ds') (id : UInt64) : Passed ds id ↔ Passed ds' id := by
  have hcursor : ∀ lane, cursor ds lane = cursor ds' lane := by
    intro lane
    cases lane with
    | primary => rw [cursor, cursor, h.1, h'.1]
    | shadow => rw [cursor, cursor, h.2, h'.2]
  simp only [Passed, hcursor]

/-! ## The run -/

namespace TradeUnionState

def deliver (s : TradeUnionState) (d : Delivery) :
    Option (Result TradeUnionDisposition) × TradeUnionState :=
  s.call (.observe d.1 d.2)

/-- `new()` with both lanes registered. -/
def registered : TradeUnionState :=
  (new.registerLane .primary).registerLane .shadow

/-- The union after the deliveries `ds`. -/
structure MergeInv (ds : List Delivery) (outs : List (Option (Result TradeUnionDisposition)))
    (s : TradeUnionState) : Prop where
  published : PublishedOk s (publishedIds outs)
  floor : s.consumedFloor = none
  clamps : ∀ lane, s.emissionClamps lane = none
  cursors : ∀ lane, s.laneNext lane = some (cursor ds lane)
  /-- Every call buffered or published. -/
  dispositions : ∀ out ∈ outs, ∃ d, out = some (.ok d) ∧ ¬ d.Settled
  lastMem : ∀ last, s.lastPublishedId = some last → last ∈ publishedIds outs
  mem_published : ∀ id, id ∈ publishedIds outs ↔ id ∈ ds.map Delivery.id ∧ Passed ds id
  mem_buffer : ∀ id : UInt64, id ∈ s.buffer ↔ id ∈ ds.map Delivery.id ∧ ¬ Passed ds id
  source : ∀ (id : UInt64) (entry : TradeUnionEntry), s.buffer[id]? = some entry →
    ∃ d ∈ ds, d.2 = entry.observation

theorem mergeInv_registered : MergeInv [] [] registered := by
  have hget : ∀ id : UInt64, registered.buffer[id]? = none := fun id =>
    TreeMap.getElem?_emptyc
  have hmem : ∀ id : UInt64, id ∉ registered.buffer := fun id => TreeMap.not_mem_emptyc
  refine ⟨⟨rfl, ⟨?_, ?_⟩, List.Pairwise.nil, ?_⟩, rfl, fun _ => rfl, ?_, ?_, ?_, ?_, ?_, ?_⟩
  · intro id entry h
    rw [hget] at h
    cases h
  · intro id entry h
    rw [hget] at h
    cases h
  · intro id h
    cases h
  · intro lane
    cases lane <;> rfl
  · intro out h
    cases h
  · intro last h
    cases h
  · intro id
    simp
  · intro id
    simp [hmem]
  · intro id entry h
    rw [hget] at h
    cases h

variable {s : TradeUnionState} {ds : List Delivery} {d : Delivery} {id : UInt64}
  {outs : List (Option (Result TradeUnionDisposition))}

theorem advanceLane_laneNext {lane : CaptureLane} {c : UInt64} (hc : s.laneNext lane = some c)
    (hle : c ≤ id) :
    (s.advanceLane lane id).laneNext
      = Function.update s.laneNext lane (some (saturatingAdd id 1)) := by
  simp only [advanceLane, hc, Option.all_some, decide_eq_true_eq]
  split
  · rfl
  · next hnot =>
    -- the cursor already stands at `u64::MAX`
    have heq : c = saturatingAdd id 1 := by
      apply UInt64.le_antisymm (UInt64.le_trans hle (le_saturatingAdd_one id))
      exact UInt64.not_lt.mp hnot
    rw [← heq, ← hc, Function.update_eq_self]

theorem merge_cursors (hcursors : ∀ lane, s.laneNext lane = some (cursor ds lane))
    (hord : VenueOrdered (ds ++ [d])) (entry : TradeUnionEntry) (lane : CaptureLane) :
    (s.merge d.1 d.2.finalSequence entry).laneNext lane = some (cursor (ds ++ [d]) lane) := by
  have hadvance := advanceLane_laneNext
    (s := { s with buffer := s.buffer.insert d.2.finalSequence entry }) (hcursors d.1)
    hord.cursor_le
  rw [merge, hadvance]
  by_cases hl : d.1 = lane
  · subst hl
    rw [Function.update_self, cursor_concat_self]
  · rw [Function.update_of_ne (Ne.symm hl), hcursors lane, cursor_concat_other ds hl]

/-- **One delivery** of a venue-ordered stream is merged: the union drains the state
    that holds it. -/
theorem deliver_merges (h : MergeInv ds outs s) (hord : VenueOrdered (ds ++ [d])) :
    ∃ entry, s.Merges d.2 entry ∧
      (∀ last, s.lastPublishedId = some last → last < d.2.finalSequence) ∧
      s.observe d.1 d.2 = (s.merge d.1 d.2.finalSequence entry).drain := by
  have hlow : ∀ last, s.lastPublishedId = some last → last < d.2.finalSequence := by
    intro last hlast
    have hpassed := ((h.mem_published last).mp (h.lastMem last hlast)).2
    exact UInt64.lt_of_lt_of_le (hpassed d.1) hord.cursor_le
  have hobs := observed h.published.durable d.1 d.2
  generalize hr : s.observe d.1 d.2 = r at hobs
  cases hobs with
  | rejected hcheck =>
    obtain ⟨hkind, hexact⟩ := hord.trade d (by simp)
    simp [checkTrade, hkind, hexact] at hcheck
  | historical hfloor =>
    obtain ⟨floor, hf, -⟩ := hfloor
    rw [h.floor] at hf
    cases hf
  | settled _ hlate _ =>
    obtain ⟨last, hlast, hle⟩ := hlate
    exact absurd hle (UInt64.not_le.mpr (hlow last hlast))
  | contradicted _ hclash =>
    obtain ⟨first, hget, hne⟩ := hclash
    obtain ⟨d', hd', hfirst⟩ := h.source _ first hget
    have hid := h.published.buffer.keys _ first hget
    exact absurd (hfirst ▸ hord.agree d' (List.mem_append_left _ hd') d (by simp) (hfirst ▸ hid))
      hne
  | @merged entry hmerge hfresh => exact ⟨entry, hmerge, hfresh, rfl⟩

theorem lt_min_cursors : id < min (cursor ds .primary) (cursor ds .shadow) ↔ Passed ds id := by
  constructor
  · intro hlt lane
    obtain ⟨h1, h2⟩ := min_le_both (cursor ds .primary) (cursor ds .shadow)
    cases lane with
    | primary => exact UInt64.lt_of_lt_of_le hlt h1
    | shadow => exact UInt64.lt_of_lt_of_le hlt h2
  · intro h
    have h1 := h .primary
    have h2 := h .shadow
    rw [UInt64.lt_iff_toNat_lt] at h1 h2 ⊢
    rw [UInt64.toNat_min]
    omega

theorem mergeInv_deliver (h : MergeInv ds outs s) (hord : VenueOrdered (ds ++ [d])) :
    MergeInv (ds ++ [d]) (outs ++ [(s.deliver d).1]) (s.deliver d).2 := by
  obtain ⟨entry, hmerge, hfresh, hobs⟩ := deliver_merges h hord
  have hok := merge_bufferOk h.published.buffer d.1 hmerge hfresh
  obtain ⟨w, batch, s', hw, hdrain, hd⟩ :=
    drain_spec (s := s.merge d.1 d.2.finalSequence entry)
      (by rw [merge_durable, h.published.durable]) hok
  have hcursors := merge_cursors h.cursors hord entry
  have hwp : ∀ id, id < w ↔ Passed (ds ++ [d]) id := by
    intro id
    rw [drainBound_eq_min (hcursors .primary) (hcursors .shadow) (by simpa using h.clamps)] at hw
    cases hw
    exact lt_min_cursors
  have hcall : s.deliver d = (some (.ok (.ofBatch batch)), s') := by
    simp only [deliver, call, hobs, hdrain]
  have hids : publishedIds (outs ++ [some (.ok (.ofBatch batch))])
      = publishedIds outs ++ batchIds batch := by
    simp [publishedIds_append, callBatch]
  have heff : CallEffect s s' batch := by
    have := call_effect h.published.durable h.published.buffer (.observe d.1 d.2)
    rw [← deliver, hcall] at this
    simpa [callBatch] using this
  -- the buffer the drain sees holds every delivered ID that was not published before
  have hmid : ∀ id : UInt64, id ∈ (s.merge d.1 d.2.finalSequence entry).buffer
      ↔ id = d.2.finalSequence ∨ id ∈ s.buffer := by
    intro id
    rw [merge_buffer, TreeMap.mem_insert, Std.LawfulEqCmp.compare_eq_iff_eq, eq_comm]
  have hdelivered : ∀ id : UInt64, id ∈ (ds ++ [d]).map Delivery.id
      ↔ id ∈ ds.map Delivery.id ∨ id = d.2.finalSequence := by
    intro id
    simp [Delivery.id]
  have hpub : ∀ id, id ∈ publishedIds outs ++ batchIds batch
      ↔ id ∈ (ds ++ [d]).map Delivery.id ∧ Passed (ds ++ [d]) id := by
    intro id
    rw [List.mem_append, hd.mem_ids, hmid, hwp, hdelivered]
    constructor
    · rintro (hold | ⟨rfl | hbuf, hp⟩)
      · obtain ⟨hin, hp⟩ := (h.mem_published id).mp hold
        exact ⟨.inl hin, hord.passed_mono hp⟩
      · exact ⟨.inr rfl, hp⟩
      · exact ⟨.inl ((h.mem_buffer id).mp hbuf).1, hp⟩
    · rintro ⟨hin | rfl, hp⟩
      · by_cases hold : Passed ds id
        · exact .inl ((h.mem_published id).mpr ⟨hin, hold⟩)
        · exact .inr ⟨.inr ((h.mem_buffer id).mpr ⟨hin, hold⟩), hp⟩
      · exact .inr ⟨.inl rfl, hp⟩
  have hfinal : ∀ id : UInt64, id ∈ s'.buffer
      ↔ id ∈ (s.merge d.1 d.2.finalSequence entry).buffer ∧ ¬ Passed (ds ++ [d]) id := by
    intro id
    rw [TreeMap.mem_iff_isSome_getElem?, TreeMap.mem_iff_isSome_getElem?, ← hwp]
    by_cases hlt : id < w
    · simp [hd.gone id hlt, hlt]
    · simp [hd.kept id hlt, hlt]
  rw [hcall]
  refine ⟨?_, ?_, ?_, ?_, ?_, ?_, ?_, ?_, ?_⟩
  · rw [hids]
    exact heff.publishedOk h.published
  · rw [hd.frame]
    simpa using h.floor
  · rw [hd.frame]
    simpa using h.clamps
  · rw [hd.frame]
    exact hcursors
  · intro out hout
    rcases List.mem_append.mp hout with hold | hnew
    · exact h.dispositions out hold
    · rw [List.mem_singleton.mp hnew]
      refine ⟨_, rfl, ?_⟩
      unfold TradeUnionDisposition.ofBatch
      split <;> exact not_false
  · intro last hlast
    rw [hd.last, merge_lastPublishedId] at hlast
    rw [hids, List.mem_append]
    cases hb : (batchIds batch).getLast? with
    | none =>
      rw [hb, Option.none_or] at hlast
      exact .inl (h.lastMem last hlast)
    | some new =>
      rw [hb, Option.some_or] at hlast
      cases hlast
      exact .inr (List.mem_of_getLast? hb)
  · rw [hids]
    exact hpub
  · intro id
    rw [hfinal, hmid, hdelivered]
    constructor
    · rintro ⟨rfl | hbuf, hp⟩
      · exact ⟨.inr rfl, hp⟩
      · exact ⟨.inl ((h.mem_buffer id).mp hbuf).1, hp⟩
    · rintro ⟨hin | rfl, hp⟩
      · exact ⟨.inr ((h.mem_buffer id).mpr ⟨hin, fun hold => hp (hord.passed_mono hold)⟩), hp⟩
      · exact ⟨.inl rfl, hp⟩
  · intro id e hget
    by_cases hlt : id < w
    · rw [hd.gone id hlt] at hget
      cases hget
    · rw [hd.kept id hlt, merge_buffer, TreeMap.getElem?_insert] at hget
      split at hget
      · cases hget
        rcases hmerge with ⟨-, heq⟩ | ⟨first, hfirst, heq, -⟩
        · exact ⟨d, by simp, heq.symm⟩
        · obtain ⟨d', hd', hsrc⟩ := h.source _ first hfirst
          exact ⟨d', List.mem_append_left _ hd', heq ▸ hsrc⟩
      · obtain ⟨d', hd', hsrc⟩ := h.source id e hget
        exact ⟨d', List.mem_append_left _ hd', hsrc⟩

theorem run_mergeInv (hord : VenueOrdered ds) :
    MergeInv ds (run deliver registered ds).1 (run deliver registered ds).2 := by
  induction ds using List.reverseRecOn with
  | nil => exact mergeInv_registered
  | append_singleton ds d ih =>
    rw [run_concat]
    exact mergeInv_deliver (ih hord.init) hord

/-! ## The theorem -/

/-- **The union is an exact two-lane merge under every interleaving**: after every prefix the
    published IDs are the IDs delivered so far below both delivery cursors, in order. -/
theorem union_merges_every_interleaving (primary shadow : List CanonicalObservationV1)
    (htrade : ∀ o ∈ primary ++ shadow, IsTrade o)
    (hprimary : (primary.map (·.finalSequence)).Pairwise (· < ·))
    (hshadow : (shadow.map (·.finalSequence)).Pairwise (· < ·))
    (hagree : ∀ p ∈ primary, ∀ q ∈ shadow, p.finalSequence = q.finalSequence →
      p.observationSha256 = q.observationSha256) :
    (∀ ds, Interleaves primary shadow ds → ∀ n,
      (∀ out ∈ (run deliver registered (ds.take n)).1,
        out = some (.ok .buffered) ∨ ∃ batch, out = some (.ok (.publishable batch))) ∧
      (publishedIds (run deliver registered (ds.take n)).1).Pairwise (· < ·) ∧
      ∃ np ns, (run deliver registered (ds.take n)).2.laneNext .primary = some np ∧
        (run deliver registered (ds.take n)).2.laneNext .shadow = some ns ∧
        ∀ id, id ∈ publishedIds (run deliver registered (ds.take n)).1 ↔
          (∃ d ∈ ds.take n, d.2.finalSequence = id) ∧ id < min np ns) ∧
    ∀ ds ds', Interleaves primary shadow ds → Interleaves primary shadow ds' →
      publishedIds (run deliver registered ds).1 = publishedIds (run deliver registered ds').1 := by
  have hordered : ∀ ds, Interleaves primary shadow ds → VenueOrdered ds := fun ds h =>
    Interleaves.venueOrdered htrade hprimary hshadow hagree h
  refine ⟨?_, ?_⟩
  · intro ds hds n
    have hinv := run_mergeInv ((hordered ds hds).take n)
    refine ⟨?_, hinv.published.sorted, _, _, hinv.cursors .primary, hinv.cursors .shadow, ?_⟩
    · intro out hout
      obtain ⟨d, hd, hnot⟩ := hinv.dispositions out hout
      cases d with
      | publishable batch => exact .inr ⟨batch, hd⟩
      | buffered => exact .inl hd
      | late o k => exact absurd trivial hnot
      | conflict i a b => exact absurd trivial hnot
    · intro id
      rw [hinv.mem_published, lt_min_cursors, List.mem_map]
      rfl
  · intro ds ds' hds hds'
    have hinv := run_mergeInv (hordered ds hds)
    have hinv' := run_mergeInv (hordered ds' hds')
    have : Std.Irrefl (fun a b : UInt64 => a < b) := ⟨UInt64.lt_irrefl⟩
    have : Std.Antisymm (fun a b : UInt64 => a < b) :=
      ⟨fun a b hab hba => absurd (UInt64.lt_trans hab hba) (UInt64.lt_irrefl a)⟩
    refine List.Pairwise.eq_of_mem_iff hinv.published.sorted hinv'.published.sorted ?_
    intro id
    rw [hinv.mem_published, hinv'.mem_published, Interleaves.mem_ids_iff hds,
      Interleaves.mem_ids_iff hds', Interleaves.passed_iff hds hds']

/-- The streams of the first union test, `PRIMARY=[100,102]` and `SHADOW=[101,102]`,
    in two arrival orders. -/
theorem union_merges_two_arrival_orders :
    publishedIds (run deliver registered
      [(.shadow, sampleTrade 101 "shadow"), (.shadow, sampleTrade 102 "shadow"),
       (.primary, sampleTrade 100 "primary"), (.primary, sampleTrade 102 "primary")]).1
      = [100, 101, 102] ∧
    publishedIds (run deliver registered
      [(.primary, sampleTrade 100 "primary"), (.shadow, sampleTrade 101 "shadow"),
       (.primary, sampleTrade 102 "primary"), (.shadow, sampleTrade 102 "shadow")]).1
    = publishedIds (run deliver registered
      [(.shadow, sampleTrade 101 "shadow"), (.shadow, sampleTrade 102 "shadow"),
       (.primary, sampleTrade 100 "primary"), (.primary, sampleTrade 102 "primary")]).1 :=
  ⟨by decide +kernel, (union_merges_every_interleaving
    [sampleTrade 100 "primary", sampleTrade 102 "primary"]
    [sampleTrade 101 "shadow", sampleTrade 102 "shadow"]
    (by simp [IsTrade, sampleTrade]) (by decide) (by decide)
    (by simp [sampleTrade])).2 _ _ ⟨rfl, rfl⟩ ⟨rfl, rfl⟩⟩

end TradeUnionState

end LobReplay
