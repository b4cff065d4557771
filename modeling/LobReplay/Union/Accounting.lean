/-
  No silent loss and no double publication, over every run of the union without an identity log.

  `CallEffect` is what any call does to the buffer and to the published position: either neither
  moves, or the call drains a state whose buffer contains the one before it.
-/

import LobReplay.Union.Observe
import LobReplay.Foundation.Machine
import Mathlib.Data.List.Nodup

namespace LobReplay

open Foundation
open Std (TreeMap)

inductive UnionCall where
  | registerLane (lane : CaptureLane)
  | observe (lane : CaptureLane) (observation : CanonicalObservationV1)
  | excludeLane (lane : CaptureLane)
  | setEmissionClamp (lane : CaptureLane) (bound : UInt64)
  | clearEmissionClamp (lane : CaptureLane)
  | flush
  | fastForward (lane : CaptureLane) (observation : CanonicalObservationV1)
  deriving DecidableEq

namespace TradeUnionState

/-- One call: the disposition it returns, if its method returns one, and the
    state after it. -/
def call (s : TradeUnionState) : UnionCall → Option (Result TradeUnionDisposition) × TradeUnionState
  | .registerLane lane => (none, s.registerLane lane)
  | .observe lane observation =>
    let r := s.observe lane observation
    (some r.1, r.2)
  | .excludeLane lane => (none, s.excludeLane lane)
  | .setEmissionClamp lane bound => (none, s.setEmissionClamp lane bound)
  | .clearEmissionClamp lane => (none, s.clearEmissionClamp lane)
  | .flush => (some s.flush.1, s.flush.2)
  | .fastForward lane observation => (none, (s.fastForward lane observation).2)

end TradeUnionState

def callBatch (out : Option (Result TradeUnionDisposition)) :
    List (CaptureLane × CanonicalObservationV1) :=
  (out.map emitted).getD []

/-- The trade IDs over all `Publishable` batches of a run, in order. -/
def publishedIds (outs : List (Option (Result TradeUnionDisposition))) : List UInt64 :=
  outs.flatMap fun out => batchIds (callBatch out)

theorem publishedIds_append (a b : List (Option (Result TradeUnionDisposition))) :
    publishedIds (a ++ b) = publishedIds a ++ publishedIds b := by
  simp [publishedIds]

@[simp] theorem publishedIds_cons (out : Option (Result TradeUnionDisposition))
    (outs : List (Option (Result TradeUnionDisposition))) :
    publishedIds (out :: outs) = batchIds (callBatch out) ++ publishedIds outs := rfl

@[simp] theorem publishedIds_nil : publishedIds [] = [] := rfl

namespace TradeUnionState

/-! ## The effect of one call -/

/-- What a call may do to the buffer and to the published position. -/
inductive CallEffect (s s' : TradeUnionState)
    (batch : List (CaptureLane × CanonicalObservationV1)) : Prop
  | quiet (hbatch : batch = []) (hbuffer : s'.buffer = s.buffer)
      (hlast : s'.lastPublishedId = s.lastPublishedId) (hdurable : s'.durable = s.durable)
  | drains {mid : TradeUnionState} {w : UInt64} (hok : mid.BufferOk)
      (hlast : mid.lastPublishedId = s.lastPublishedId) (hdurable : mid.durable = s.durable)
      (hgrows : ∀ id : UInt64, id ∈ s.buffer → id ∈ mid.buffer)
      (hdrained : Drained mid s' w batch)

variable {s : TradeUnionState} {ids : List UInt64} {s' : TradeUnionState}
  {batch : List (CaptureLane × CanonicalObservationV1)} {id : UInt64}

theorem observe_effect (hdur : s.durable = none) (hok : s.BufferOk) (lane : CaptureLane)
    (observation : CanonicalObservationV1) :
    CallEffect s (s.observe lane observation).2 (emitted (s.observe lane observation).1) := by
  have h := observed hdur lane observation
  generalize s.observe lane observation = r at h
  cases h with
  | rejected _ => exact .quiet rfl rfl rfl rfl
  | historical _ => exact .quiet rfl rfl rfl rfl
  | settled hsettled _ hframe =>
    refine .quiet hsettled.batch_eq_nil ?_ ?_ ?_ <;> rw [hframe]
  | contradicted hsettled _ => exact .quiet hsettled.batch_eq_nil rfl rfl rfl
  | @merged entry hmerge hfresh =>
    have hok' := merge_bufferOk hok lane hmerge hfresh
    obtain ⟨w, batch, s', -, hdrain, hdrained⟩ :=
      drain_spec (s := s.merge lane observation.finalSequence entry)
        (by rw [merge_durable, hdur]) hok'
    rw [hdrain, emitted_ofBatch]
    refine .drains hok' (merge_lastPublishedId ..) (merge_durable ..) ?_ hdrained
    intro id hid
    rw [merge_buffer, TreeMap.mem_insert]
    exact .inr hid

theorem fastForward_effect (s : TradeUnionState) (lane : CaptureLane)
    (observation : CanonicalObservationV1) :
    CallEffect s (s.fastForward lane observation).2 [] := by
  unfold fastForward
  cases checkTrade observation with
  | error e => exact .quiet rfl rfl rfl rfl
  | ok id =>
    simp only
    split
    · refine .quiet rfl ?_ ?_ ?_ <;> rw [advanceLane_frame]
    · refine .quiet rfl ?_ ?_ ?_ <;> rw [advanceLane_frame]

/-- **One call.** -/
theorem call_effect (hdur : s.durable = none) (hok : s.BufferOk) (c : UnionCall) :
    CallEffect s (s.call c).2 (callBatch (s.call c).1) := by
  cases c with
  | registerLane lane => exact .quiet rfl rfl rfl rfl
  | observe lane observation => exact observe_effect hdur hok lane observation
  | excludeLane lane => exact .quiet rfl rfl rfl rfl
  | setEmissionClamp lane bound => exact .quiet rfl rfl rfl rfl
  | clearEmissionClamp lane => exact .quiet rfl rfl rfl rfl
  | flush =>
    obtain ⟨w, batch, s', -, hdrain, hdrained⟩ := drain_spec hdur hok
    simp only [call, flush, hdrain, callBatch, Option.map_some, Option.getD_some,
      emitted_ofBatch]
    exact .drains hok rfl rfl (fun _ h => h) hdrained
  | fastForward lane observation => exact fastForward_effect s lane observation

/-! ## The run invariants -/

/-- What has been published lies at or below the published position, strictly
    increasing, and the buffer above it. -/
structure PublishedOk (s : TradeUnionState) (ids : List UInt64) : Prop where
  durable : s.durable = none
  buffer : s.BufferOk
  sorted : ids.Pairwise (· < ·)
  bounded : ∀ id ∈ ids, ∃ last, s.lastPublishedId = some last ∧ id ≤ last

theorem le_getLast_of_pairwise {last : UInt64} (hsorted : ids.Pairwise (· < ·))
    (hlast : ids.getLast? = some last) : ∀ id ∈ ids, id ≤ last := by
  obtain ⟨front, rfl⟩ := List.getLast?_eq_some_iff.mp hlast
  intro id hid
  rcases List.mem_append.mp hid with hfront | hend
  · exact UInt64.le_of_lt ((List.pairwise_append.mp hsorted).2.2 id hfront last
      (List.mem_singleton_self last))
  · exact List.mem_singleton.mp hend ▸ UInt64.le_refl _

theorem CallEffect.publishedOk (heff : CallEffect s s' batch) (h : PublishedOk s ids) :
    PublishedOk s' (ids ++ batchIds batch) := by
  cases heff with
  | quiet hbatch hbuffer hlast hdurable =>
    subst hbatch
    rw [batchIds_nil, List.append_nil]
    refine ⟨hdurable.trans h.durable, ⟨?_, ?_⟩, h.sorted, ?_⟩
    · rw [hbuffer]
      exact h.buffer.keys
    · rw [hbuffer, hlast]
      exact h.buffer.above
    · rw [hlast]
      exact h.bounded
  | @drains mid w hok hlast hdurable hgrows hd =>
    have hnew : ∀ id ∈ batchIds batch, ∀ last, s.lastPublishedId = some last → last < id := by
      intro id hid last hl
      obtain ⟨hin, -⟩ := (hd.mem_ids id).mp hid
      obtain ⟨entry, hget⟩ := Option.isSome_iff_exists.mp (TreeMap.mem_iff_isSome_getElem?.mp hin)
      exact hok.above id entry hget last (hlast.trans hl)
    refine ⟨?_, hd.bufferOk hok, ?_, ?_⟩
    · rw [hd.frame]
      exact hdurable.trans h.durable
    · refine List.pairwise_append.mpr ⟨h.sorted, hd.sorted, ?_⟩
      intro a ha b hb
      obtain ⟨last, hl, hle⟩ := h.bounded a ha
      exact UInt64.lt_of_le_of_lt hle (hnew b hb last hl)
    · intro id hid
      rw [hd.last, hlast]
      cases hlb : (batchIds batch).getLast? with
      | none =>
        -- nothing was emitted, so `id` was published before
        rw [List.getLast?_eq_none_iff.mp hlb, List.append_nil] at hid
        exact h.bounded id hid
      | some new =>
        refine ⟨new, rfl, ?_⟩
        rcases List.mem_append.mp hid with hold | hid
        · obtain ⟨last, hl, hle⟩ := h.bounded id hold
          exact UInt64.le_trans hle
            (UInt64.le_of_lt (hnew new (List.mem_of_getLast? hlb) last hl))
        · exact le_getLast_of_pairwise hd.sorted hlb id hid

/-- A buffered ID stays buffered or is published by the call. -/
theorem CallEffect.keeps (heff : CallEffect s s' batch) (hid : id ∈ s.buffer) :
    id ∈ s'.buffer ∨ id ∈ batchIds batch := by
  cases heff with
  | quiet _ hbuffer _ _ => exact .inl (hbuffer ▸ hid)
  | @drains mid w _ _ _ hgrows hd =>
    by_cases hlt : id < w
    · exact .inr ((hd.mem_ids id).mpr ⟨hgrows id hid, hlt⟩)
    · refine .inl ?_
      rw [TreeMap.mem_iff_isSome_getElem?, hd.kept id hlt, ← TreeMap.mem_iff_isSome_getElem?]
      exact hgrows id hid

theorem run_publishedOk {start : TradeUnionState} (h : PublishedOk start [])
    (calls : List UnionCall) :
    PublishedOk (run call start calls).2 (publishedIds (run call start calls).1) := by
  refine run_induction (P := fun _ outs s => PublishedOk s (publishedIds outs)) h ?_ calls
  intro cs outs s c hs
  rw [publishedIds_append, publishedIds_cons, publishedIds_nil, List.append_nil]
  exact (call_effect hs.durable hs.buffer c).publishedOk hs

theorem run_keeps_or_publishes (h : PublishedOk s ids) (hid : id ∈ s.buffer)
    (calls : List UnionCall) :
    id ∈ (run call s calls).2.buffer ∨ id ∈ publishedIds (run call s calls).1 := by
  induction calls generalizing s ids with
  | nil => exact .inl hid
  | cons c cs ih =>
    have heff := call_effect h.durable h.buffer c
    rw [run_cons]
    simp only [publishedIds_cons, List.mem_append]
    rcases heff.keeps hid with hkept | hnew
    · rcases ih (heff.publishedOk h) hkept with hfinal | hlater
      · exact .inl hfinal
      · exact .inr (.inr hlater)
    · exact .inr (.inl hnew)

/-- An accepted observation above the floor is buffered, published or settled by
    the very call that delivered it. -/
theorem observe_accounts (hdur : s.durable = none) (hok : s.BufferOk) {lane : CaptureLane}
    {observation : CanonicalObservationV1} {d : TradeUnionDisposition}
    (hres : (s.observe lane observation).1 = .ok d)
    (hfloor : ∀ floor, s.consumedFloor = some floor → floor < observation.finalSequence) :
    observation.finalSequence ∈ (s.observe lane observation).2.buffer ∨
      observation.finalSequence ∈ batchIds d.batch ∨ d.Settled := by
  have h := observed hdur lane observation
  generalize s.observe lane observation = r at h hres
  cases h with
  | rejected _ => cases hres
  | historical hhist =>
    obtain ⟨floor, hf, hle⟩ := hhist
    exact absurd hle (UInt64.not_le.mpr (hfloor floor hf))
  | settled hsettled _ _ =>
    cases hres
    exact .inr (.inr hsettled)
  | contradicted hsettled _ =>
    cases hres
    exact .inr (.inr hsettled)
  | @merged entry hmerge hfresh =>
    have hok' := merge_bufferOk hok lane hmerge hfresh
    obtain ⟨w, batch, s', -, hdrain, hd⟩ :=
      drain_spec (s := s.merge lane observation.finalSequence entry)
        (by rw [merge_durable, hdur]) hok'
    rw [hdrain] at hres ⊢
    cases hres
    have hin : observation.finalSequence
        ∈ (s.merge lane observation.finalSequence entry).buffer := by
      rw [merge_buffer]
      exact TreeMap.mem_insert_self
    have hbatch : (TradeUnionDisposition.ofBatch batch).batch = batch := emitted_ofBatch batch
    rw [hbatch]
    by_cases hlt : observation.finalSequence < w
    · exact .inr (.inl ((hd.mem_ids _).mpr ⟨hin, hlt⟩))
    · refine .inl ?_
      rw [TreeMap.mem_iff_isSome_getElem?, hd.kept _ hlt, ← TreeMap.mem_iff_isSome_getElem?]
      exact hin

/-! ## The theorem -/

/-- **No silent loss, no double publication.** Every accepted observation above the floor is at the
    end of the run still buffered, or published exactly once, or was answered by the very call with
    a late correction or a conflict. -/
theorem union_run_accounts_for_every_observation (start : TradeUnionState)
    (hempty : start.buffer.isEmpty = true) (hlog : start.durable = none)
    (calls : List UnionCall) :
    (publishedIds (run call start calls).1).Pairwise (· < ·) ∧
    ∀ before lane observation later d,
      calls = before ++ .observe lane observation :: later →
      ((run call start before).2.observe lane observation).1 = .ok d →
      (∀ floor, (run call start before).2.consumedFloor = some floor →
        floor < observation.finalSequence) →
      observation.finalSequence ∈ (run call start calls).2.buffer ∨
      (publishedIds (run call start calls).1).count observation.finalSequence = 1 ∨
      d.Settled := by
  have hnone : ∀ id : UInt64, start.buffer[id]? = none := fun id =>
    TreeMap.getElem?_of_isEmpty hempty
  have hstart : PublishedOk start [] := by
    refine ⟨hlog, ⟨?_, ?_⟩, List.Pairwise.nil, ?_⟩
    · intro id entry h
      rw [hnone] at h
      cases h
    · intro id entry h
      rw [hnone] at h
      cases h
    · intro id h
      cases h
  have hsorted := (run_publishedOk hstart calls).sorted
  refine ⟨hsorted, ?_⟩
  intro before lane observation later d hcalls hres hfloor
  have hmid := run_publishedOk hstart before
  -- published at all means published exactly once
  have honce : observation.finalSequence ∈ publishedIds (run call start calls).1 →
      (publishedIds (run call start calls).1).count observation.finalSequence = 1 :=
    List.count_eq_one_of_mem (hsorted.imp fun h => UInt64.ne_of_lt h)
  have hrun : run call start calls
      = ((run call start before).1 ++ (run call (run call start before).2
          (.observe lane observation :: later)).1,
         (run call (run call start before).2 (.observe lane observation :: later)).2) := by
    rw [hcalls, run_append]
  rw [run_cons] at hrun
  have hbatch : callBatch ((run call start before).2.call (.observe lane observation)).1
      = d.batch := by
    simp [call, callBatch, hres, emitted]
  rcases observe_accounts hmid.durable hmid.buffer hres hfloor with hbuf | hpub | hsettled
  · have hafter := (call_effect hmid.durable hmid.buffer (.observe lane observation)).publishedOk
      hmid
    rcases run_keeps_or_publishes hafter hbuf later with hkept | hnew
    · exact .inl (by rw [hrun]; exact hkept)
    · refine .inr (.inl (honce ?_))
      rw [hrun]
      simp only [publishedIds_append, publishedIds_cons, List.mem_append]
      exact .inr (.inr hnew)
  · refine .inr (.inl (honce ?_))
    rw [hrun]
    simp only [publishedIds_append, publishedIds_cons, hbatch, List.mem_append]
    exact .inr (.inl hpub)
  · exact .inr (.inr hsettled)

/-- A trade as the unit tests of the union build it. -/
def sampleTrade (id : UInt64) (epoch : String) : CanonicalObservationV1 where
  symbol := "BTCUSDT"
  streamKind := .trade
  stream := "btcusdt@trade"
  connectionEpoch := epoch
  frameIndex := 0
  firstSequence := id
  finalSequence := id
  recordSha256 := "r"
  observationSha256 := toString id

/-- A lane is excluded while its sibling's trade waits: the trade is published by
    the next drain and accounted for. -/
theorem excluded_lane_releases_the_buffered_trade :
    (100 : UInt64) ∈ (run call new
      [.registerLane .primary, .registerLane .shadow,
       .observe .primary (sampleTrade 100 "primary"), .excludeLane .shadow, .flush]).2.buffer ∨
    (publishedIds (run call new
      [.registerLane .primary, .registerLane .shadow,
       .observe .primary (sampleTrade 100 "primary"), .excludeLane .shadow, .flush]).1).count 100
        = 1 ∨
    TradeUnionDisposition.buffered.Settled :=
  (union_run_accounts_for_every_observation new (by decide +kernel) rfl _).2
    [.registerLane .primary, .registerLane .shadow] .primary (sampleTrade 100 "primary")
    [.excludeLane .shadow, .flush] .buffered rfl (by decide +kernel)
    (by intro floor h; cases h)

end TradeUnionState

end LobReplay
