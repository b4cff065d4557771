/-
  What one `drain` does, said once. `BufferOk` is the invariant of the buffer: every entry sits
  under its own trade ID and above the published position. Under it, and without an identity log,
  `drain` never fails: it emits exactly the buffered IDs below its bound, in ascending order, and
  keeps the others (`drain_spec`).
-/

import LobReplay.Union.State
import LobReplay.Foundation.Ordered

namespace LobReplay

open Foundation
open Std (TreeMap)

def TradeUnionDisposition.batch : TradeUnionDisposition →
    List (CaptureLane × CanonicalObservationV1)
  | .publishable batch => batch
  | _ => []

/-- The disposition of a drain that emitted `batch`. -/
def TradeUnionDisposition.ofBatch (batch : List (CaptureLane × CanonicalObservationV1)) :
    TradeUnionDisposition :=
  if batch.isEmpty then .buffered else .publishable batch

/-- The observations a call publishes. -/
def emitted (r : Result TradeUnionDisposition) : List (CaptureLane × CanonicalObservationV1) :=
  match r with
  | .ok disposition => disposition.batch
  | .error _ => []

@[simp] theorem emitted_ofBatch (batch : List (CaptureLane × CanonicalObservationV1)) :
    emitted (.ok (.ofBatch batch)) = batch := by
  cases batch <;> rfl

def batchIds (batch : List (CaptureLane × CanonicalObservationV1)) : List UInt64 :=
  batch.map (·.2.finalSequence)

@[simp] theorem batchIds_nil : batchIds [] = [] := rfl

namespace TradeUnionState

/-- The buffer invariant: entries sit under their own ID, above the published
    position. -/
structure BufferOk (s : TradeUnionState) : Prop where
  keys : ∀ (id : UInt64) (entry : TradeUnionEntry), s.buffer[id]? = some entry →
    entry.observation.finalSequence = id
  above : ∀ (id : UInt64) (entry : TradeUnionEntry), s.buffer[id]? = some entry →
    ∀ last, s.lastPublishedId = some last → last < id

/-! ## The emission bound -/

theorem drainBound_isSome (s : TradeUnionState) : ∃ w, s.drainBound = some w := by
  unfold drainBound emissionWatermark noLiveLane laneBound CaptureLane.all
  cases hp : s.laneNext .primary <;> cases hs : s.laneNext .shadow <;> simp [hp, hs]

theorem min_le_both (a b : UInt64) : min a b ≤ a ∧ min a b ≤ b := by
  simp only [UInt64.le_iff_toNat_le, UInt64.toNat_min]
  omega

variable {s : TradeUnionState} {id w : UInt64}

theorem drainBound_eq_min {np ns : UInt64} (hp : s.laneNext .primary = some np)
    (hs : s.laneNext .shadow = some ns) (hclamp : ∀ lane, s.emissionClamps lane = none) :
    s.drainBound = some (min np ns) := by
  simp [drainBound, emissionWatermark, laneBound, CaptureLane.all, hp, hs, hclamp]

/-! ## The emission loop -/

/-- The effect of emitting one entry when no identity log is attached. -/
def emitEntry (s : TradeUnionState) (e : UInt64 × TradeUnionEntry) : TradeUnionState :=
  { s with
    buffer := s.buffer.erase e.1
    lastPublishedId := some e.1
    published := evictPublished (s.published.insert e.1 e.2.observation.observationSha256) }

/-- The entries the loop emits: the ascending prefix below the watermark. -/
def belowMark (w : UInt64) (entries : List (UInt64 × TradeUnionEntry)) :
    List (UInt64 × TradeUnionEntry) :=
  entries.takeWhile fun e => decide (e.1 < w)

theorem not_regressed {last? : Option UInt64} (h : ∀ last, last? = some last → last < id) :
    last?.any (fun last => decide (id ≤ last)) = false := by
  cases last? with
  | none => rfl
  | some last => simpa using h last rfl

theorem drainLoop_eq (w : UInt64) (entries : List (UInt64 × TradeUnionEntry)) :
    ∀ s : TradeUnionState, s.durable = none →
      entries.Pairwise (fun a b => a.1 < b.1) →
      (∀ e ∈ entries, ∀ last, s.lastPublishedId = some last → last < e.1) →
      drainLoop w entries s
        = (.ok ((belowMark w entries).map fun e => (e.2.lane, e.2.observation)),
           (belowMark w entries).foldl emitEntry s) := by
  induction entries with
  | nil =>
    intro s _ _ _
    rfl
  | cons e rest ih =>
    intro s hdur hsorted habove
    obtain ⟨id, entry⟩ := e
    obtain ⟨hhead, htail⟩ := List.pairwise_cons.mp hsorted
    by_cases hid : id < w
    · have hnot : ¬ w ≤ id := UInt64.not_le.mpr hid
      have horder := not_regressed (habove (id, entry) List.mem_cons_self)
      have hrest := ih (emitEntry s (id, entry)) hdur htail (by
        intro e he last hlast
        cases hlast
        exact hhead e he)
      have hpub : ({ s with buffer := s.buffer.erase id } : TradeUnionState).publishEntry id entry
          = (.ok (), emitEntry s (id, entry)) := by
        simp only [publishEntry, hdur, emitEntry]
      simp only [drainLoop, hnot, if_false, horder, Bool.false_eq_true, hpub, hrest]
      simp [belowMark, hid]
    · have hle : w ≤ id := UInt64.not_lt.mp hid
      simp [drainLoop, hle, belowMark, hid]

theorem foldl_emitEntry_buffer (es : List (UInt64 × TradeUnionEntry)) (s : TradeUnionState) :
    (es.foldl emitEntry s).buffer = (es.map (·.1)).foldl (fun t k => t.erase k) s.buffer := by
  induction es generalizing s with
  | nil => rfl
  | cons e es ih => exact ih (emitEntry s e)

theorem foldl_emitEntry_last (es : List (UInt64 × TradeUnionEntry)) (s : TradeUnionState) :
    (es.foldl emitEntry s).lastPublishedId
      = ((es.map (·.1)).getLast?).or s.lastPublishedId := by
  induction es generalizing s with
  | nil => rfl
  | cons e es ih =>
    rw [List.foldl_cons, ih]
    rw [List.map_cons]
    cases hks : es.map (·.1) with
    | nil => rfl
    | cons k ks =>
      rw [List.getLast?_cons_cons, List.getLast?_eq_some_getLast (List.cons_ne_nil k ks)]
      rfl

/-- Emitting entries touches the buffer, the published position and the retained
    identities only. -/
theorem foldl_emitEntry_frame (es : List (UInt64 × TradeUnionEntry)) (s : TradeUnionState) :
    es.foldl emitEntry s
      = { s with
          buffer := (es.foldl emitEntry s).buffer
          lastPublishedId := (es.foldl emitEntry s).lastPublishedId
          published := (es.foldl emitEntry s).published } := by
  induction es generalizing s with
  | nil => rfl
  | cons e es ih =>
    rw [List.foldl_cons]
    exact ih (emitEntry s e)

/-! ## One drain -/

/-- What a drain of `s` below `w` leaves in `s'` and emits as `batch`. -/
structure Drained (s s' : TradeUnionState) (w : UInt64)
    (batch : List (CaptureLane × CanonicalObservationV1)) : Prop where
  /-- Only the buffer, the published position and the retained identities move. -/
  frame : s' = { s with
    buffer := s'.buffer, lastPublishedId := s'.lastPublishedId, published := s'.published }
  sorted : (batchIds batch).Pairwise (· < ·)
  mem_ids : ∀ id, id ∈ batchIds batch ↔ id ∈ s.buffer ∧ id < w
  source : ∀ x ∈ batch, ∃ entry : TradeUnionEntry,
    s.buffer[x.2.finalSequence]? = some entry ∧ x = (entry.lane, entry.observation)
  gone : ∀ id : UInt64, id < w → s'.buffer[id]? = none
  kept : ∀ id : UInt64, ¬ id < w → s'.buffer[id]? = s.buffer[id]?
  last : s'.lastPublishedId = ((batchIds batch).getLast?).or s.lastPublishedId

/-- The ascending entries of a buffer. -/
theorem toList_pairwise (t : TreeMap UInt64 TradeUnionEntry) :
    t.toList.Pairwise (fun a b => a.1 < b.1) :=
  (TreeMap.ordered_keys_toList (t := t)).imp fun h => Std.compare_eq_lt.mp h

theorem mem_belowMark {t : TreeMap UInt64 TradeUnionEntry} {entry : TradeUnionEntry} :
    (id, entry) ∈ belowMark w t.toList ↔ t[id]? = some entry ∧ id < w := by
  have hfilter : belowMark w t.toList = t.toList.filter fun e => decide (e.1 < w) := by
    apply takeWhile_eq_filter_of_pairwise _ (toList_pairwise t)
    intro a b hab hb
    simp only [decide_eq_true_eq] at hb ⊢
    exact UInt64.lt_trans hab hb
  rw [hfilter, List.mem_filter, TreeMap.mem_toList_iff_getElem?_eq_some]
  simp

/-- Without an identity log a drain is its emission loop. -/
theorem drain_eq (hw : s.drainBound = some w) (hdur : s.durable = none) (hok : s.BufferOk) :
    s.drain = (.ok (.ofBatch ((belowMark w s.buffer.toList).map
                fun e => (e.2.lane, e.2.observation))),
               (belowMark w s.buffer.toList).foldl emitEntry s) := by
  have hloop := drainLoop_eq w s.buffer.toList s hdur (toList_pairwise s.buffer) (by
    rintro ⟨id, entry⟩ he last hlast
    exact hok.above id entry (TreeMap.mem_toList_iff_getElem?_eq_some.mp he) last hlast)
  have hdur' : ((belowMark w s.buffer.toList).foldl emitEntry s).durable = none := by
    rw [foldl_emitEntry_frame]
    exact hdur
  simp only [drain, hw, hloop, TradeUnionDisposition.ofBatch]
  split
  · rfl
  · rw [hdur', Option.map_none, ← hdur']

/-- **One drain.** Without an identity log and under the buffer invariant, `drain`
    succeeds and emits exactly the buffered IDs below its bound. -/
theorem drain_spec (hdur : s.durable = none) (hok : s.BufferOk) :
    ∃ w batch s', s.drainBound = some w ∧ s.drain = (.ok (.ofBatch batch), s') ∧
      Drained s s' w batch := by
  obtain ⟨w, hw⟩ := drainBound_isSome s
  refine ⟨w, _, _, hw, drain_eq hw hdur hok, ?_⟩
  have hmem : ∀ id entry, (id, entry) ∈ belowMark w s.buffer.toList
      ↔ s.buffer[id]? = some entry ∧ id < w := fun _ _ => mem_belowMark
  generalize hes : belowMark w s.buffer.toList = es at hmem
  have hids : batchIds (es.map fun e => (e.2.lane, e.2.observation)) = es.map (·.1) := by
    simp only [batchIds, List.map_map]
    apply List.map_congr_left
    rintro ⟨id, entry⟩ he
    exact hok.keys id entry ((hmem id entry).mp he).1
  have hkeys : ∀ id, id ∈ es.map (·.1) ↔ id ∈ s.buffer ∧ id < w := by
    intro id
    rw [TreeMap.mem_iff_isSome_getElem?]
    constructor
    · intro h
      obtain ⟨⟨id', entry⟩, he, rfl⟩ := List.mem_map.mp h
      obtain ⟨hget, hlt⟩ := (hmem id' entry).mp he
      simp [hget, hlt]
    · rintro ⟨hsome, hlt⟩
      obtain ⟨entry, hget⟩ := Option.isSome_iff_exists.mp hsome
      exact List.mem_map.mpr ⟨(id, entry), (hmem id entry).mpr ⟨hget, hlt⟩, rfl⟩
  refine ⟨foldl_emitEntry_frame es s, ?_, ?_, ?_, ?_, ?_, ?_⟩
  · rw [hids, ← hes, List.pairwise_map]
    exact (toList_pairwise s.buffer).sublist (List.takeWhile_sublist _)
  · rw [hids]
    exact hkeys
  · intro x hx
    obtain ⟨⟨id, entry⟩, he, rfl⟩ := List.mem_map.mp hx
    have hget := ((hmem id entry).mp he).1
    exact ⟨entry, by rw [hok.keys id entry hget]; exact hget, rfl⟩
  · intro id hlt
    rw [foldl_emitEntry_buffer]
    by_cases hin : id ∈ s.buffer
    · exact getElem?_foldl_erase_of_mem _ _ ((hkeys id).mpr ⟨hin, hlt⟩)
    · rw [getElem?_foldl_erase_of_notMem _ _ (fun h => hin ((hkeys id).mp h).1)]
      exact TreeMap.getElem?_eq_none hin
  · intro id hnlt
    rw [foldl_emitEntry_buffer]
    exact getElem?_foldl_erase_of_notMem _ _ (fun h => hnlt ((hkeys id).mp h).2)
  · rw [hids]
    exact foldl_emitEntry_last es s

/-- A drain keeps the buffer invariant: what stays lies at or above the bound, what
    was emitted below it. -/
theorem Drained.bufferOk {s' : TradeUnionState}
    {batch : List (CaptureLane × CanonicalObservationV1)} (h : Drained s s' w batch)
    (hok : s.BufferOk) : s'.BufferOk := by
  have hstay : ∀ (id : UInt64) (entry : TradeUnionEntry), s'.buffer[id]? = some entry →
      ¬ id < w ∧ s.buffer[id]? = some entry := by
    intro id entry hget
    by_cases hlt : id < w
    · rw [h.gone id hlt] at hget
      cases hget
    · rw [h.kept id hlt] at hget
      exact ⟨hlt, hget⟩
  refine ⟨fun id entry hget => hok.keys id entry (hstay id entry hget).2, ?_⟩
  intro id entry hget last hlast
  obtain ⟨hnlt, hget⟩ := hstay id entry hget
  rw [h.last] at hlast
  cases hids : (batchIds batch).getLast? with
  | none =>
    rw [hids, Option.none_or] at hlast
    exact hok.above id entry hget last hlast
  | some last' =>
    rw [hids, Option.some_or, Option.some.injEq] at hlast
    subst hlast
    have hbelow := ((h.mem_ids last').mp (List.mem_of_getLast? hids)).2
    exact UInt64.lt_of_lt_of_le hbelow (UInt64.not_lt.mp hnlt)

end TradeUnionState

end LobReplay
