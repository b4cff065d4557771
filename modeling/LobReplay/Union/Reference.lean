/-
  The union with unbounded retention: what the bounded `published` map and the identity log are
  there to imitate. `referenceCall` is the union without a log whose `published` map never evicts.

  `ReferenceEffect` says once what one call of it can do, and `ReferenceOk` what a run of calls
  leaves.
-/

import LobReplay.Union.Accounting

namespace LobReplay

open Foundation
open Std (TreeMap)

namespace TradeUnionState

/-! ## The reference union -/

/-- Record one emitted entry; nothing is ever evicted. -/
def referencePublish (r : TradeUnionState) (id : UInt64) (entry : TradeUnionEntry) :
    TradeUnionState :=
  { r with
    lastPublishedId := some id
    published := r.published.insert id entry.observation.observationSha256 }

/-- The emission loop of `drain`, with `referencePublish`. -/
def referenceDrainLoop (watermark : UInt64) : List (UInt64 × TradeUnionEntry) →
    TradeUnionState → Result (List (CaptureLane × CanonicalObservationV1)) × TradeUnionState
  | [], r => (.ok [], r)
  | (id, entry) :: rest, r =>
    if watermark ≤ id then (.ok [], r)
    else
      let r := { r with buffer := r.buffer.erase id }
      if r.lastPublishedId.any (fun last => decide (id ≤ last)) then
        (err "trade union emission order regressed", r)
      else
        match referenceDrainLoop watermark rest (r.referencePublish id entry) with
        | (.error e, r) => (.error e, r)
        | (.ok batch, r) => (.ok ((entry.lane, entry.observation) :: batch), r)

/-- `drain` of the reference. -/
def referenceDrain (r : TradeUnionState) : Result TradeUnionDisposition × TradeUnionState :=
  match r.drainBound with
  | none => (.ok .buffered, r)
  | some watermark =>
    match referenceDrainLoop watermark r.buffer.toList r with
    | (.error e, r) => (.error e, r)
    | (.ok batch, r) => (.ok (.ofBatch batch), r)

/-- `observe` of the reference at or below the published position. -/
def referenceObserveLate (r : TradeUnionState) (id : UInt64)
    (observation : CanonicalObservationV1) : Result TradeUnionDisposition × TradeUnionState :=
  match r.corrected[id]? with
  | some digest => (.ok (classifyRetained digest observation), r)
  | none =>
    match r.published[id]? with
    | some digest => (.ok (classifyRetained digest observation), r)
    | none =>
      (.ok (.late observation .unknown),
        { r with corrected := r.corrected.insert id observation.observationSha256 })

/-- `observe` of the reference above the published position. -/
def referenceObserveFresh (r : TradeUnionState) (lane : CaptureLane) (id : UInt64)
    (observation : CanonicalObservationV1) : Result TradeUnionDisposition × TradeUnionState :=
  match r.buffer[id]? with
  | none => (r.merge lane id ⟨observation, [(lane, observation.recordSha256)]⟩).referenceDrain
  | some entry =>
    if entry.observation.observationSha256 ≠ observation.observationSha256 then
      (.ok (.conflict id entry.observation.observationSha256 observation.observationSha256), r)
    else
      (r.merge lane id { entry with
        lineages := entry.lineages ++ [(lane, observation.recordSha256)] }).referenceDrain

/-- `observe` of the reference. -/
def referenceObserve (r : TradeUnionState) (lane : CaptureLane)
    (observation : CanonicalObservationV1) : Result TradeUnionDisposition × TradeUnionState :=
  match checkTrade observation with
  | .error e => (.error e, r)
  | .ok id =>
    if r.consumedFloor.any (fun floor => decide (id ≤ floor)) then (.ok .buffered, r)
    else if r.lastPublishedId.any (fun last => decide (id ≤ last)) then
      r.referenceObserveLate id observation
    else r.referenceObserveFresh lane id observation

def referenceCall (r : TradeUnionState) :
    UnionCall → Option (Result TradeUnionDisposition) × TradeUnionState
  | .observe lane observation =>
    (some (r.referenceObserve lane observation).1, (r.referenceObserve lane observation).2)
  | .flush => (some r.referenceDrain.1, r.referenceDrain.2)
  | c => r.call c

/-! ## One drain of the reference -/

/-- The effect of emitting one entry without eviction. -/
def referenceEmit (r : TradeUnionState) (e : UInt64 × TradeUnionEntry) : TradeUnionState :=
  ({ r with buffer := r.buffer.erase e.1 } : TradeUnionState).referencePublish e.1 e.2

theorem referenceDrainLoop_eq (w : UInt64) (entries : List (UInt64 × TradeUnionEntry)) :
    ∀ r : TradeUnionState, entries.Pairwise (fun a b => a.1 < b.1) →
      (∀ e ∈ entries, ∀ last, r.lastPublishedId = some last → last < e.1) →
      referenceDrainLoop w entries r
        = (.ok ((belowMark w entries).map fun e => (e.2.lane, e.2.observation)),
           (belowMark w entries).foldl referenceEmit r) := by
  induction entries with
  | nil =>
    intro r _ _
    rfl
  | cons e rest ih =>
    intro r hsorted habove
    obtain ⟨id, entry⟩ := e
    obtain ⟨hhead, htail⟩ := List.pairwise_cons.mp hsorted
    by_cases hid : id < w
    · have hnot : ¬ w ≤ id := UInt64.not_le.mpr hid
      have horder := not_regressed (habove (id, entry) List.mem_cons_self)
      have hrest := ih (referenceEmit r (id, entry)) htail (by
        intro e he last hlast
        cases hlast
        exact hhead e he)
      simp only [referenceEmit] at hrest
      simp only [referenceDrainLoop, hnot, if_false, horder, Bool.false_eq_true, hrest]
      simp [belowMark, hid, referenceEmit]
    · have hle : w ≤ id := UInt64.not_lt.mp hid
      simp [referenceDrainLoop, hle, belowMark, hid]

theorem foldl_referenceEmit_frame (es : List (UInt64 × TradeUnionEntry)) :
    ∀ r s : TradeUnionState, r = { s with published := r.published } →
      es.foldl referenceEmit r
        = { es.foldl emitEntry s with published := (es.foldl referenceEmit r).published } := by
  induction es with
  | nil =>
    intro r s h
    exact h
  | cons e es ih =>
    intro r s h
    apply ih (referenceEmit r e) (emitEntry s e)
    rw [h]
    rfl

/-- The identities retained after emitting entries under increasing, new IDs. -/
theorem foldl_referenceEmit_published (es : List (UInt64 × TradeUnionEntry)) :
    ∀ r : TradeUnionState, es.Pairwise (fun a b => a.1 < b.1) →
      (∀ e ∈ es, r.published[e.1]? = none) → ∀ (id : UInt64) (digest : String),
      ((es.foldl referenceEmit r).published[id]? = some digest ↔
        (∃ e ∈ es, e.1 = id ∧ e.2.observation.observationSha256 = digest) ∨
          r.published[id]? = some digest) := by
  induction es with
  | nil =>
    intro r _ _ id digest
    simp
  | cons e es ih =>
    intro r hsorted hnew id digest
    obtain ⟨hhead, htail⟩ := List.pairwise_cons.mp hsorted
    have hget : ∀ id : UInt64, (referenceEmit r e).published[id]?
        = if e.1 = id then some e.2.observation.observationSha256 else r.published[id]? := by
      intro id
      show (r.published.insert e.1 _)[id]? = _
      rw [TreeMap.getElem?_insert]
      simp only [Std.compare_eq_iff_eq]
    rw [List.foldl_cons, ih (referenceEmit r e) htail ?_ id digest, hget]
    · by_cases hid : e.1 = id
      · -- the head's ID occurs nowhere else
        have hlater : ¬ ∃ e' ∈ es, e'.1 = id ∧ e'.2.observation.observationSha256 = digest := by
          intro hmem
          obtain ⟨e', he', heq, -⟩ := hmem
          have hlt := hhead e' he'
          rw [heq, hid] at hlt
          exact absurd hlt (UInt64.lt_irrefl _)
        have hold : r.published[id]? = none := hid ▸ hnew e List.mem_cons_self
        simp [hid, hlater, hold]
      · simp [hid]
    · intro e' he'
      have hne : e.1 ≠ e'.1 := UInt64.ne_of_lt (hhead e' he')
      rw [hget, if_neg hne]
      exact hnew e' (List.mem_cons_of_mem _ he')

/-- What a drain leaves does not depend on the retained identities. -/
theorem Drained.withPublished {s s' : TradeUnionState} {w : UInt64}
    {batch : List (CaptureLane × CanonicalObservationV1)} (h : Drained s s' w batch)
    (published : TreeMap UInt64 String) :
    Drained s { s' with published := published } w batch := by
  refine ⟨?_, h.sorted, h.mem_ids, h.source, h.gone, h.kept, h.last⟩
  rw [h.frame]

variable {r r' : TradeUnionState} {c : UnionCall} {o : CanonicalObservationV1}
  {outs : List (Option (Result TradeUnionDisposition))}
  {out : Option (Result TradeUnionDisposition)} {id : UInt64} {digest : String}

/-- **One drain of the reference** emits what the union's drain emits, and retains
    the identity of every trade it emits. -/
theorem referenceDrain_spec (hdur : r.durable = none) (hok : r.BufferOk) :
    ∃ w batch r', r.drainBound = some w ∧ r.referenceDrain = (.ok (.ofBatch batch), r') ∧
      Drained r r' w batch ∧
      ((∀ x ∈ batch, r.published[x.2.finalSequence]? = none) →
        ∀ (id : UInt64) (digest : String), r'.published[id]? = some digest ↔
          (∃ x ∈ batch, x.2.finalSequence = id ∧ x.2.observationSha256 = digest) ∨
            r.published[id]? = some digest) := by
  obtain ⟨w, batch, s', hw, hdrain, hd⟩ := drain_spec hdur hok
  have hclosed := drain_eq hw hdur hok
  rw [hdrain, Prod.mk.injEq] at hclosed
  obtain ⟨hout, rfl⟩ := hclosed
  have hbatch : batch = (belowMark w r.buffer.toList).map fun e => (e.2.lane, e.2.observation) := by
    have := congrArg emitted hout
    rwa [emitted_ofBatch, emitted_ofBatch] at this
  have hsorted : (belowMark w r.buffer.toList).Pairwise (fun a b => a.1 < b.1) :=
    (toList_pairwise r.buffer).sublist (List.takeWhile_sublist _)
  have hkeys : ∀ e ∈ belowMark w r.buffer.toList, e.2.observation.finalSequence = e.1 := by
    intro e he
    exact hok.keys e.1 e.2 (mem_belowMark.mp he).1
  have hloop := referenceDrainLoop_eq w r.buffer.toList r (toList_pairwise r.buffer) (by
    intro e he last hlast
    exact hok.above e.1 e.2 (TreeMap.mem_toList_iff_getElem?_eq_some.mp he) last hlast)
  refine ⟨w, batch, (belowMark w r.buffer.toList).foldl referenceEmit r, hw, ?_, ?_, ?_⟩
  · rw [referenceDrain, hw]
    simp only [hloop, hbatch]
  · rw [foldl_referenceEmit_frame _ r r rfl]
    exact hd.withPublished _
  · intro hnew id digest
    rw [foldl_referenceEmit_published _ r hsorted ?_ id digest, hbatch]
    · refine or_congr_left ⟨?_, ?_⟩
      · intro h
        obtain ⟨e, he, hid, hdigest⟩ := h
        exact ⟨_, List.mem_map.mpr ⟨e, he, rfl⟩, (hkeys e he).trans hid, hdigest⟩
      · intro h
        obtain ⟨x, hx, hid, hdigest⟩ := h
        obtain ⟨e, he, rfl⟩ := List.mem_map.mp hx
        exact ⟨e, he, (hkeys e he).symm.trans hid, hdigest⟩
    · intro e he
      have := hnew (e.2.lane, e.2.observation) (hbatch ▸ List.mem_map.mpr ⟨e, he, rfl⟩)
      rwa [hkeys e he] at this

/-! ## One call of the reference -/

inductive ReferenceEffect (r : TradeUnionState) (c : UnionCall) (r' : TradeUnionState) :
    Option (Result TradeUnionDisposition) → Prop
  | quiet {out : Option (Result TradeUnionDisposition)} (hbatch : callBatch out = [])
      (hknown : ∀ o, out ≠ some (.ok (.late o .unknown)))
      (hbuffer : r'.buffer = r.buffer) (hlast : r'.lastPublishedId = r.lastPublishedId)
      (hpublished : r'.published = r.published) (hcorrected : r'.corrected = r.corrected)
      (hdurable : r'.durable = r.durable) : ReferenceEffect r c r' out
  | unknown {lane : CaptureLane} {o : CanonicalObservationV1} (hcall : c = .observe lane o)
      (hlate : ∃ last, r.lastPublishedId = some last ∧ o.finalSequence ≤ last)
      (hcorrected : r.corrected[o.finalSequence]? = none)
      (hpublished : r.published[o.finalSequence]? = none)
      (hframe : r' = { r with
        corrected := r.corrected.insert o.finalSequence o.observationSha256 }) :
      ReferenceEffect r c r' (some (.ok (.late o .unknown)))
  | drains {mid : TradeUnionState} {w : UInt64}
      {batch : List (CaptureLane × CanonicalObservationV1)} (hok : mid.BufferOk)
      (hlast : mid.lastPublishedId = r.lastPublishedId)
      (hpublished : mid.published = r.published) (hcorrected : mid.corrected = r.corrected)
      (hdurable : mid.durable = r.durable)
      (hsource : ∀ (id : UInt64) (entry : TradeUnionEntry), mid.buffer[id]? = some entry →
        (∃ first : TradeUnionEntry, r.buffer[id]? = some first ∧
          entry.observation = first.observation) ∨ ∃ lane, c = .observe lane entry.observation)
      (hdrained : Drained mid r' w batch)
      (hretained : (∀ x ∈ batch, mid.published[x.2.finalSequence]? = none) →
        ∀ (id : UInt64) (digest : String), r'.published[id]? = some digest ↔
          (∃ x ∈ batch, x.2.finalSequence = id ∧ x.2.observationSha256 = digest) ∨
            mid.published[id]? = some digest) :
      ReferenceEffect r c r' (some (.ok (.ofBatch batch)))

theorem referenceDrain_effect {mid : TradeUnionState} (hdur : r.durable = none) (hok : mid.BufferOk)
    (hlast : mid.lastPublishedId = r.lastPublishedId) (hpublished : mid.published = r.published)
    (hcorrected : mid.corrected = r.corrected) (hdurable : mid.durable = r.durable)
    (hsource : ∀ (id : UInt64) (entry : TradeUnionEntry), mid.buffer[id]? = some entry →
      (∃ first : TradeUnionEntry, r.buffer[id]? = some first ∧
        entry.observation = first.observation) ∨ ∃ lane, c = .observe lane entry.observation) :
    ReferenceEffect r c mid.referenceDrain.2 (some mid.referenceDrain.1) := by
  obtain ⟨w, batch, r', -, hdrain, hd, hret⟩ := referenceDrain_spec (hdurable.trans hdur) hok
  rw [hdrain]
  exact .drains hok hlast hpublished hcorrected hdurable hsource hd hret

/-- A retained identity never answers `Unknown`. -/
theorem classifyRetained_ne_unknown (digest : String) (o o' : CanonicalObservationV1) :
    classifyRetained digest o ≠ .late o' .unknown := by
  unfold classifyRetained
  split
  · intro h
    cases h
  · intro h
    cases h

theorem classifyRetained_quiet (r : TradeUnionState) (c : UnionCall) (digest : String)
    (o : CanonicalObservationV1) :
    ReferenceEffect r c r (some (.ok (classifyRetained digest o))) := by
  refine .quiet (classifyRetained_settled digest o).batch_eq_nil ?_ rfl rfl rfl rfl rfl
  intro o' h
  exact classifyRetained_ne_unknown digest o o' (Except.ok.inj (Option.some.inj h))

theorem merge_published (s : TradeUnionState) (lane : CaptureLane) (id : UInt64)
    (entry : TradeUnionEntry) : (s.merge lane id entry).published = s.published := by
  rw [merge, advanceLane_frame]

theorem merge_corrected (s : TradeUnionState) (lane : CaptureLane) (id : UInt64)
    (entry : TradeUnionEntry) : (s.merge lane id entry).corrected = s.corrected := by
  rw [merge, advanceLane_frame]

theorem merge_source (lane : CaptureLane) {entry : TradeUnionEntry} (hmerge : r.Merges o entry)
    (id : UInt64) (e : TradeUnionEntry)
    (hget : (r.merge lane o.finalSequence entry).buffer[id]? = some e) :
    (∃ first : TradeUnionEntry, r.buffer[id]? = some first ∧
      e.observation = first.observation) ∨
    ∃ lane', UnionCall.observe lane o = .observe lane' e.observation := by
  rw [merge_buffer, TreeMap.getElem?_insert] at hget
  split at hget
  · next hcmp =>
    cases hget
    obtain rfl := Std.LawfulEqCmp.eq_of_compare hcmp
    rcases hmerge with ⟨-, heq⟩ | ⟨first, hfirst, heq, -⟩
    · exact .inr ⟨lane, by rw [heq]⟩
    · exact .inl ⟨first, hfirst, heq⟩
  · exact .inl ⟨e, hget, rfl⟩

/-- **One observe of the reference.** -/
theorem referenceObserve_effect (hdur : r.durable = none) (hok : r.BufferOk) (lane : CaptureLane)
    (o : CanonicalObservationV1) :
    ReferenceEffect r (.observe lane o) (r.referenceObserve lane o).2
      (some (r.referenceObserve lane o).1) := by
  have hmerged : ∀ entry, r.Merges o entry →
      (∀ last, r.lastPublishedId = some last → last < o.finalSequence) →
      ReferenceEffect r (.observe lane o) (r.merge lane o.finalSequence entry).referenceDrain.2
        (some (r.merge lane o.finalSequence entry).referenceDrain.1) := by
    intro entry hmerge hfresh
    exact referenceDrain_effect hdur (merge_bufferOk hok lane hmerge hfresh)
      (merge_lastPublishedId ..) (merge_published ..) (merge_corrected ..) (merge_durable ..)
      (merge_source lane hmerge)
  unfold referenceObserve
  cases hcheck : checkTrade o with
  | error e => exact .quiet rfl (by intro o' h; cases h) rfl rfl rfl rfl rfl
  | ok id =>
    have hid : id = o.finalSequence := by
      simp only [checkTrade, ite_err_eq_ok] at hcheck
      exact (Except.ok.inj hcheck.2.2).symm
    subst hid
    dsimp only
    by_cases hfloor :
        r.consumedFloor.any (fun floor => decide (o.finalSequence ≤ floor)) = true
    · rw [if_pos hfloor]
      exact .quiet rfl (by intro o' h; cases h) rfl rfl rfl rfl rfl
    · rw [if_neg hfloor]
      by_cases hlast :
          r.lastPublishedId.any (fun last => decide (o.finalSequence ≤ last)) = true
      · rw [if_pos hlast, referenceObserveLate]
        cases hcorr : r.corrected[o.finalSequence]? with
        | some digest => exact classifyRetained_quiet r _ digest o
        | none =>
          cases hpub : r.published[o.finalSequence]? with
          | some digest => exact classifyRetained_quiet r _ digest o
          | none => exact .unknown rfl (any_decide_eq_true.mp hlast) hcorr hpub rfl
      · have hfresh : ∀ last, r.lastPublishedId = some last → last < o.finalSequence := by
          intro last hsome
          simp only [hsome, Option.any_some, decide_eq_true_eq] at hlast
          exact UInt64.not_le.mp hlast
        rw [if_neg hlast, referenceObserveFresh]
        cases hbuf : r.buffer[o.finalSequence]? with
        | none => exact hmerged _ (.inl ⟨hbuf, rfl⟩) hfresh
        | some first =>
          dsimp only
          by_cases hsha : first.observation.observationSha256 = o.observationSha256
          · rw [if_neg (not_not.mpr hsha)]
            exact hmerged _ (.inr ⟨first, hbuf, rfl, hsha⟩) hfresh
          · rw [if_pos hsha]
            exact .quiet rfl (by intro o' h; cases h) rfl rfl rfl rfl rfl

/-- **One call of the reference.** -/
theorem referenceCall_effect (hdur : r.durable = none) (hok : r.BufferOk) (c : UnionCall) :
    ReferenceEffect r c (r.referenceCall c).2 (r.referenceCall c).1 := by
  cases c with
  | registerLane lane => exact .quiet rfl (by intro o h; cases h) rfl rfl rfl rfl rfl
  | observe lane o => exact referenceObserve_effect hdur hok lane o
  | excludeLane lane => exact .quiet rfl (by intro o h; cases h) rfl rfl rfl rfl rfl
  | setEmissionClamp lane bound => exact .quiet rfl (by intro o h; cases h) rfl rfl rfl rfl rfl
  | clearEmissionClamp lane => exact .quiet rfl (by intro o h; cases h) rfl rfl rfl rfl rfl
  | flush =>
    exact referenceDrain_effect hdur hok rfl rfl rfl rfl
      (fun id entry hget => .inl ⟨entry, hget, rfl⟩)
  | fastForward lane o =>
    show ReferenceEffect r _ (r.fastForward lane o).2 none
    have hframe : ∃ next floor, (r.fastForward lane o).2
        = { r with laneNext := next, consumedFloor := floor } := by
      unfold fastForward
      cases checkTrade o with
      | error e => exact ⟨_, _, rfl⟩
      | ok id =>
        dsimp only
        split
        · rw [advanceLane_frame]
          exact ⟨_, _, rfl⟩
        · rw [advanceLane_frame]
          exact ⟨_, _, rfl⟩
    obtain ⟨next, floor, heq⟩ := hframe
    rw [heq]
    exact .quiet rfl (by intro o h; cases h) rfl rfl rfl rfl rfl

/-! ## Runs of the reference -/

/-- `id` was published with the identity `digest`. -/
def PublishedAs (outs : List (Option (Result TradeUnionDisposition))) (id : UInt64)
    (digest : String) : Prop :=
  ∃ x ∈ outs.flatMap callBatch, x.2.finalSequence = id ∧ x.2.observationSha256 = digest

/-- `id` was answered `Unknown`, which records its correction. -/
def AnsweredUnknown (outs : List (Option (Result TradeUnionDisposition))) (id : UInt64) : Prop :=
  ∃ o : CanonicalObservationV1, some (.ok (.late o .unknown)) ∈ outs ∧ o.finalSequence = id

/-- What a run of the reference that returned `outs` leaves. -/
structure ReferenceOk (r : TradeUnionState)
    (outs : List (Option (Result TradeUnionDisposition))) : Prop where
  durable : r.durable = none
  buffer : r.BufferOk
  last : r.lastPublishedId = (publishedIds outs).getLast?
  sorted : (publishedIds outs).Pairwise (· < ·)
  published : ∀ (id : UInt64) (digest : String),
    r.published[id]? = some digest ↔ PublishedAs outs id digest
  corrected : ∀ id : UInt64, (∃ digest, r.corrected[id]? = some digest) ↔ AnsweredUnknown outs id
  /-- A corrected ID lies at or below the published position and was not published. -/
  apart : ∀ (id : UInt64) (digest : String), r.corrected[id]? = some digest →
    r.published[id]? = none ∧ ∃ last, r.lastPublishedId = some last ∧ id ≤ last

theorem publishedAs_concat :
    PublishedAs (outs ++ [out]) id digest ↔ PublishedAs outs id digest ∨
      ∃ x ∈ callBatch out, x.2.finalSequence = id ∧ x.2.observationSha256 = digest := by
  simp only [PublishedAs, List.flatMap_append, List.flatMap_cons, List.flatMap_nil,
    List.append_nil, List.mem_append, or_and_right, exists_or]

theorem answeredUnknown_concat :
    AnsweredUnknown (outs ++ [out]) id ↔ AnsweredUnknown outs id ∨
      ∃ o, out = some (.ok (.late o .unknown)) ∧ o.finalSequence = id := by
  simp only [AnsweredUnknown, List.mem_append, List.mem_singleton, or_and_right, exists_or,
    eq_comm (a := out)]

theorem publishedIds_concat (outs : List (Option (Result TradeUnionDisposition)))
    (out : Option (Result TradeUnionDisposition)) :
    publishedIds (outs ++ [out]) = publishedIds outs ++ batchIds (callBatch out) := by
  rw [publishedIds_append, publishedIds_cons, publishedIds_nil, List.append_nil]

/-- A call that publishes nothing and answers nothing `Unknown` adds nothing. -/
theorem ReferenceOk.quiet {r r' : TradeUnionState}
    {outs : List (Option (Result TradeUnionDisposition))}
    {out : Option (Result TradeUnionDisposition)} (h : ReferenceOk r outs)
    (hbatch : callBatch out = []) (hknown : ∀ o, out ≠ some (.ok (.late o .unknown)))
    (hbuffer : r'.buffer = r.buffer) (hlast : r'.lastPublishedId = r.lastPublishedId)
    (hpublished : r'.published = r.published) (hcorrected : r'.corrected = r.corrected)
    (hdurable : r'.durable = r.durable) : ReferenceOk r' (outs ++ [out]) := by
  have hids : publishedIds (outs ++ [out]) = publishedIds outs := by
    rw [publishedIds_concat, hbatch, batchIds_nil, List.append_nil]
  refine ⟨hdurable.trans h.durable, ⟨?_, ?_⟩, ?_, ?_, ?_, ?_, ?_⟩
  · rw [hbuffer]
    exact h.buffer.keys
  · rw [hbuffer, hlast]
    exact h.buffer.above
  · rw [hlast, hids, h.last]
  · rw [hids]
    exact h.sorted
  · intro id digest
    rw [hpublished, publishedAs_concat, hbatch, h.published]
    simp
  · intro id
    rw [hcorrected, answeredUnknown_concat, h.corrected]
    simp [hknown]
  · rw [hcorrected, hpublished, hlast]
    exact h.apart

/-- Answering `Unknown` adds exactly one correction. -/
theorem ReferenceOk.unknown {r : TradeUnionState}
    {outs : List (Option (Result TradeUnionDisposition))} {o : CanonicalObservationV1}
    (h : ReferenceOk r outs)
    (hlate : ∃ last, r.lastPublishedId = some last ∧ o.finalSequence ≤ last)
    (hpublished : r.published[o.finalSequence]? = none) :
    ReferenceOk { r with corrected := r.corrected.insert o.finalSequence o.observationSha256 }
      (outs ++ [some (.ok (.late o .unknown))]) := by
  have hids : publishedIds (outs ++ [some (.ok (.late o .unknown))]) = publishedIds outs := by
    rw [publishedIds_concat]
    exact List.append_nil _
  have hget : ∀ id : UInt64, (r.corrected.insert o.finalSequence o.observationSha256)[id]?
      = if o.finalSequence = id then some o.observationSha256 else r.corrected[id]? := by
    intro id
    rw [TreeMap.getElem?_insert]
    simp only [Std.compare_eq_iff_eq]
  refine ⟨h.durable, ⟨h.buffer.keys, h.buffer.above⟩, ?_, ?_, ?_, ?_, ?_⟩
  · rw [hids, ← h.last]
  · rw [hids]
    exact h.sorted
  · intro id digest
    rw [publishedAs_concat, ← h.published]
    simp [callBatch, emitted, TradeUnionDisposition.batch]
  · intro id
    rw [answeredUnknown_concat, ← h.corrected]
    simp only [hget]
    by_cases hid : o.finalSequence = id <;> simp [hid]
  · intro id digest hcorr
    simp only [hget] at hcorr
    by_cases hid : o.finalSequence = id
    · rw [← hid]
      exact ⟨hpublished, hlate⟩
    · rw [if_neg hid] at hcorr
      exact h.apart id digest hcorr

theorem ReferenceOk.drains {r r' mid : TradeUnionState} {w : UInt64}
    {outs : List (Option (Result TradeUnionDisposition))}
    {batch : List (CaptureLane × CanonicalObservationV1)} (h : ReferenceOk r outs)
    (hok : mid.BufferOk) (hlast : mid.lastPublishedId = r.lastPublishedId)
    (hpublished : mid.published = r.published) (hcorrected : mid.corrected = r.corrected)
    (hdurable : mid.durable = r.durable) (hd : Drained mid r' w batch)
    (hretained : (∀ x ∈ batch, mid.published[x.2.finalSequence]? = none) →
      ∀ (id : UInt64) (digest : String), r'.published[id]? = some digest ↔
        (∃ x ∈ batch, x.2.finalSequence = id ∧ x.2.observationSha256 = digest) ∨
          mid.published[id]? = some digest) :
    ReferenceOk r' (outs ++ [some (.ok (.ofBatch batch))]) := by
  have hbatch : callBatch (some (.ok (.ofBatch batch))) = batch := emitted_ofBatch batch
  have hids : publishedIds (outs ++ [some (.ok (.ofBatch batch))])
      = publishedIds outs ++ batchIds batch := by
    rw [publishedIds_concat, hbatch]
  -- what was published before lies at or below the published position
  have hbound : ∀ id ∈ publishedIds outs, ∀ last, r.lastPublishedId = some last → id ≤ last := by
    intro id hid last hl
    exact le_getLast_of_pairwise h.sorted (h.last ▸ hl) id hid
  have hnew : ∀ id ∈ batchIds batch, ∀ last, r.lastPublishedId = some last → last < id := by
    intro id hid last hl
    obtain ⟨hin, -⟩ := (hd.mem_ids id).mp hid
    obtain ⟨entry, hget⟩ := Option.isSome_iff_exists.mp (TreeMap.mem_iff_isSome_getElem?.mp hin)
    exact hok.above id entry hget last (hlast.trans hl)
  have hlt : ∀ a ∈ publishedIds outs, ∀ b ∈ batchIds batch, a < b := by
    intro a ha b hb
    obtain ⟨last, hl⟩ : ∃ last, (publishedIds outs).getLast? = some last :=
      ⟨_, List.getLast?_eq_some_getLast (List.ne_nil_of_mem ha)⟩
    rw [← h.last] at hl
    exact UInt64.lt_of_le_of_lt (hbound a ha last hl) (hnew b hb last hl)
  have hfresh : ∀ id ∈ batchIds batch, r.published[id]? = none := by
    intro id hid
    cases hget : r.published[id]? with
    | none => rfl
    | some digest =>
      obtain ⟨x, hx, hxid, -⟩ := (h.published id digest).mp hget
      obtain ⟨out, hout, hxo⟩ := List.mem_flatMap.mp hx
      have hmem : id ∈ publishedIds outs :=
        List.mem_flatMap.mpr ⟨out, hout, List.mem_map.mpr ⟨x, hxo, hxid⟩⟩
      exact absurd (hlt id hmem id hid) (UInt64.lt_irrefl _)
  have hpub := hretained (by
    intro x hx
    rw [hpublished]
    exact hfresh _ (List.mem_map.mpr ⟨x, hx, rfl⟩))
  refine ⟨?_, hd.bufferOk hok, ?_, ?_, ?_, ?_, ?_⟩
  · rw [hd.frame]
    exact hdurable.trans h.durable
  · rw [hd.last, hids, hlast, h.last, List.getLast?_append]
  · rw [hids]
    exact List.pairwise_append.mpr ⟨h.sorted, hd.sorted, hlt⟩
  · intro id digest
    rw [hpub, publishedAs_concat, hbatch, hpublished, h.published]
    exact or_comm
  · intro id
    have hframe : r'.corrected = r.corrected := by rw [hd.frame, hcorrected]
    rw [hframe, answeredUnknown_concat, h.corrected]
    refine ⟨.inl, ?_⟩
    intro hor
    rcases hor with hold | ⟨o, ho, -⟩
    · exact hold
    · have := Except.ok.inj (Option.some.inj ho)
      unfold TradeUnionDisposition.ofBatch at this
      split at this <;> cases this
  · intro id digest hcorr
    rw [hd.frame, hcorrected] at hcorr
    obtain ⟨hnone, last, hl, hle⟩ := h.apart id digest hcorr
    refine ⟨?_, ?_⟩
    · -- the corrected ID is at or below the old position, the batch above it
      cases hget : r'.published[id]? with
      | none => rfl
      | some digest' =>
        rcases (hpub id digest').mp hget with ⟨x, hx, hxid, -⟩ | hold
        · have := hnew id (List.mem_map.mpr ⟨x, hx, hxid⟩) last hl
          exact absurd (UInt64.lt_of_lt_of_le this hle) (UInt64.lt_irrefl _)
        · rw [hpublished, hnone] at hold
          cases hold
    · rw [hd.last, hlast, hl]
      cases hb : (batchIds batch).getLast? with
      | none => exact ⟨last, rfl, hle⟩
      | some new =>
        have := hnew new (List.mem_of_getLast? hb) last hl
        exact ⟨new, rfl, UInt64.le_trans hle (UInt64.le_of_lt this)⟩

section

variable (heff : ReferenceEffect r c r' out)
include heff

theorem ReferenceEffect.durable_eq : r'.durable = r.durable := by
  cases heff with
  | quiet _ _ _ _ _ _ hdurable => exact hdurable
  | unknown _ _ _ _ hframe => rw [hframe]
  | drains _ _ _ _ hdurable _ hd _ => rw [hd.frame, hdurable]

theorem ReferenceEffect.bufferOk (hok : r.BufferOk) : r'.BufferOk := by
  cases heff with
  | quiet _ _ hbuffer hlast _ _ _ =>
    refine ⟨?_, ?_⟩
    · rw [hbuffer]
      exact hok.keys
    · rw [hbuffer, hlast]
      exact hok.above
  | unknown _ _ _ _ hframe =>
    rw [hframe]
    exact ⟨hok.keys, hok.above⟩
  | drains hmid _ _ _ _ _ hd _ => exact hd.bufferOk hmid

/-- **Step.** -/
theorem ReferenceEffect.referenceOk (h : ReferenceOk r outs) : ReferenceOk r' (outs ++ [out]) := by
  cases heff with
  | quiet hbatch hknown hbuffer hlast hpublished hcorrected hdurable =>
    exact h.quiet hbatch hknown hbuffer hlast hpublished hcorrected hdurable
  | unknown _ hlate _ hpublished hframe =>
    rw [hframe]
    exact h.unknown hlate hpublished
  | drains hok hlast hpublished hcorrected hdurable _ hd hretained =>
    exact h.drains hok hlast hpublished hcorrected hdurable hd hretained

/-- Whatever holds of every observation delivered holds of every buffered one. -/
theorem ReferenceEffect.buffered {p : CanonicalObservationV1 → Prop}
    (h : ∀ (id : UInt64) (entry : TradeUnionEntry), r.buffer[id]? = some entry →
      p entry.observation)
    (hc : ∀ lane o, c = .observe lane o → p o) :
    ∀ (id : UInt64) (entry : TradeUnionEntry), r'.buffer[id]? = some entry →
      p entry.observation := by
  intro id entry hget
  cases heff with
  | quiet _ _ hbuffer _ _ _ _ => exact h id entry (hbuffer ▸ hget)
  | unknown _ _ _ _ hframe =>
    rw [hframe] at hget
    exact h id entry hget
  | @drains mid w batch _ _ _ _ _ hsource hd _ =>
    have hmid : mid.buffer[id]? = some entry := by
      by_cases hlt : id < w
      · rw [hd.gone id hlt] at hget
        cases hget
      · rwa [hd.kept id hlt] at hget
    rcases hsource id entry hmid with ⟨first, hfirst, heq⟩ | ⟨lane, hlane⟩
    · rw [heq]
      exact h id first hfirst
    · exact hc lane _ hlane

end

theorem referenceOk_new : ReferenceOk new [] := by
  have hbuffer : ∀ (id : UInt64) (entry : TradeUnionEntry), new.buffer[id]? ≠ some entry := by
    intro id entry h
    simp [new] at h
  refine ⟨rfl, ⟨?_, ?_⟩, rfl, List.Pairwise.nil, ?_, ?_, ?_⟩
  · intro id entry h
    exact absurd h (hbuffer id entry)
  · intro id entry h
    exact absurd h (hbuffer id entry)
  · intro id digest
    simp [new, PublishedAs]
  · intro id
    simp [new, AnsweredUnknown]
  · intro id digest h
    simp [new] at h

/-- **Run.** After every run of the reference. -/
theorem run_referenceOk (calls : List UnionCall) :
    ReferenceOk (run referenceCall new calls).2 (run referenceCall new calls).1 := by
  refine run_induction (P := fun _ outs r => ReferenceOk r outs) referenceOk_new ?_ calls
  intro cs outs r c h
  exact (referenceCall_effect h.durable h.buffer c).referenceOk h

/-! ## What the reference answers -/

theorem ReferenceOk.observe_published (h : ReferenceOk r outs) (hfloor : r.consumedFloor = none)
    (lane : CaptureLane) (hkind : o.streamKind = .trade)
    (hexact : o.firstSequence = o.finalSequence) (hpub : PublishedAs outs o.finalSequence digest) :
    (r.referenceObserve lane o).1 = .ok (classifyRetained digest o) := by
  have hget := (h.published o.finalSequence digest).mpr hpub
  have hcorr : r.corrected[o.finalSequence]? = none := by
    cases hc : r.corrected[o.finalSequence]? with
    | none => rfl
    | some digest' =>
      rw [(h.apart _ digest' hc).1] at hget
      cases hget
  -- published IDs lie at or below the published position
  have hmem : o.finalSequence ∈ publishedIds outs := by
    obtain ⟨x, hx, hxid, -⟩ := hpub
    obtain ⟨out, hout, hxo⟩ := List.mem_flatMap.mp hx
    exact List.mem_flatMap.mpr ⟨out, hout, List.mem_map.mpr ⟨x, hxo, hxid⟩⟩
  have hlast : r.lastPublishedId.any (fun last => decide (o.finalSequence ≤ last)) = true := by
    have hl := List.getLast?_eq_some_getLast (List.ne_nil_of_mem hmem)
    rw [any_decide_eq_true]
    exact ⟨_, h.last.trans hl, le_getLast_of_pairwise h.sorted hl _ hmem⟩
  have hcheck : checkTrade o = .ok o.finalSequence := by
    simp [checkTrade, hkind, hexact]
  simp only [referenceObserve, hcheck, hfloor, hlast, Option.any_none, Bool.false_eq_true,
    if_false, if_true, referenceObserveLate, hcorr, hget]

/-- `Unknown` answers the observation itself, whose ID was neither published nor
    answered `Unknown` before. -/
theorem ReferenceOk.observe_unknown (h : ReferenceOk r outs) {lane : CaptureLane}
    {o' : CanonicalObservationV1}
    (hanswer : (r.referenceObserve lane o).1 = .ok (.late o' .unknown)) :
    o' = o ∧ ¬ AnsweredUnknown outs o.finalSequence := by
  have heff := referenceObserve_effect h.durable h.buffer lane o
  rw [hanswer] at heff
  generalize hout : some (Except.ok (ε := Failure) (TradeUnionDisposition.late o' .unknown)) = out
    at heff
  cases heff with
  | quiet _ hknown => exact absurd hout.symm (hknown o')
  | @unknown lane' o'' hcall _ hcorr _ _ =>
    cases hcall
    cases hout
    refine ⟨rfl, ?_⟩
    rw [← h.corrected, hcorr]
    simp
  | @drains mid w batch =>
    have := Except.ok.inj (Option.some.inj hout)
    unfold TradeUnionDisposition.ofBatch at this
    split at this <;> cases this

/-- An ID answered `Unknown` is never published in the run. -/
theorem ReferenceOk.unknown_not_published (h : ReferenceOk r outs)
    (hunknown : AnsweredUnknown outs id) (digest : String) : ¬ PublishedAs outs id digest := by
  obtain ⟨digest', hcorr⟩ := (h.corrected id).mpr hunknown
  rw [← h.published, (h.apart id digest' hcorr).1]
  simp

end TradeUnionState

/-- `fast_forward` is the only call that moves the coverage floor. -/
def UnionCall.isFastForward : UnionCall → Bool
  | .fastForward _ _ => true
  | _ => false

namespace TradeUnionState

theorem referenceDrainLoop_floor (w : UInt64) (entries : List (UInt64 × TradeUnionEntry)) :
    ∀ r : TradeUnionState,
      (referenceDrainLoop w entries r).2.consumedFloor = r.consumedFloor := by
  induction entries with
  | nil =>
    intro r
    rfl
  | cons e rest ih =>
    intro r
    obtain ⟨id, entry⟩ := e
    have hrest := ih (({ r with buffer := r.buffer.erase id } : TradeUnionState).referencePublish
      id entry)
    rw [referenceDrainLoop]
    split
    · rfl
    · dsimp only
      split
      · rfl
      · generalize referenceDrainLoop w rest _ = out at hrest
        rcases out with ⟨_ | batch, r'⟩
        · exact hrest
        · exact hrest

theorem referenceDrain_floor (r : TradeUnionState) :
    r.referenceDrain.2.consumedFloor = r.consumedFloor := by
  unfold referenceDrain
  cases r.drainBound with
  | none => rfl
  | some w =>
    have hloop := referenceDrainLoop_floor w r.buffer.toList r
    dsimp only
    generalize referenceDrainLoop w r.buffer.toList r = out at hloop
    rcases out with ⟨_ | batch, r'⟩
    · exact hloop
    · exact hloop

theorem referenceCall_floor (r : TradeUnionState) {c : UnionCall}
    (hc : c.isFastForward = false) : (r.referenceCall c).2.consumedFloor = r.consumedFloor := by
  cases c with
  | observe lane o =>
    show (r.referenceObserve lane o).2.consumedFloor = _
    unfold referenceObserve referenceObserveLate referenceObserveFresh
    split
    · rfl
    · split
      · rfl
      · split
        · split
          · rfl
          · split <;> rfl
        · split
          · rw [referenceDrain_floor, merge_consumedFloor]
          · split
            · rfl
            · rw [referenceDrain_floor, merge_consumedFloor]
  | flush => exact referenceDrain_floor r
  | fastForward lane o => cases hc
  | _ => rfl

/-- Without `fast_forward` there is no floor. -/
theorem run_floor {calls : List UnionCall} (hcalls : ∀ c ∈ calls, c.isFastForward = false) :
    (run referenceCall new calls).2.consumedFloor = none := by
  refine run_induction (P := fun cs _ (r : TradeUnionState) =>
    (∀ c ∈ cs, c.isFastForward = false) → r.consumedFloor = none) (fun _ => rfl) ?_ calls hcalls
  intro cs outs r c ih hall
  rw [referenceCall_floor r (hall c (by simp))]
  exact ih fun c' hc' => hall c' (List.mem_append_left _ hc')

end TradeUnionState

end LobReplay
