/-
  Bounded retention with the identity log against unbounded retention. Three stores answer for what
  was published: the bounded `published` map, the log behind it and the `corrected` map. `Represents
  s r` says that together they hold the one map of the reference union `r`; every call keeps it or
  fails with the write failure of the log (`call_represents`).
-/

import LobReplay.Identity.Backing
import LobReplay.Union.Reference

namespace LobReplay

open Foundation
open Std (TreeMap)

/-- The observation a call delivers, if any, carries a 64-character lowercase digest. -/
def UnionCall.LowercaseDigest : UnionCall → Prop
  | .observe _ observation => isLowerHex64 observation.observationSha256 = true
  | _ => True

namespace TradeUnionState

/-- The union `s` retains, in memory and in its log, the identities of `r`. -/
structure Represents (s r : TradeUnionState) : Prop where
  /-- Only how identities are retained differs. -/
  frame : s = { r with published := s.published, durable := s.durable }
  log : ∃ log rs, s.durable = some log ∧ log.Backs rs ∧ log.lastId = r.lastPublishedId ∧
    ∀ (id : UInt64) (digest : String), r.published[id]? = some digest ↔
      ∃ x ∈ rs, x.1 = id ∧ hexEncode32 x.2 = digest
  /-- Eviction forgets, it never invents. -/
  retained : ∀ (id : UInt64) (digest : String), s.published[id]? = some digest →
    r.published[id]? = some digest

section

variable {s r : TradeUnionState} (h : Represents s r)
include h

theorem Represents.buffer_eq : s.buffer = r.buffer := by rw [h.frame]

theorem Represents.last_eq : s.lastPublishedId = r.lastPublishedId := by rw [h.frame]

theorem Represents.corrected_eq : s.corrected = r.corrected := by rw [h.frame]

theorem Represents.floor_eq : s.consumedFloor = r.consumedFloor := by rw [h.frame]

theorem Represents.drainBound_eq : s.drainBound = r.drainBound := by
  rw [h.frame]
  rfl

end

/-! ## One publication -/

variable {id : UInt64} {calls : List UnionCall}

theorem getElem?_evictPublished {published : TreeMap UInt64 String} {digest : String}
    (h : (evictPublished published)[id]? = some digest) : published[id]? = some digest := by
  unfold evictPublished at h
  generalize (published.toList.take (published.size - publishedCap)).map (·.1) = oldest at h
  by_cases hmem : id ∈ oldest
  · rw [getElem?_foldl_erase_of_mem oldest published hmem] at h
    cases h
  · rwa [getElem?_foldl_erase_of_notMem oldest published hmem] at h

theorem getElem?_insert_eq (published : TreeMap UInt64 String) (id id' : UInt64)
    (digest : String) :
    (published.insert id digest)[id']? = if id = id' then some digest else published[id']? := by
  rw [TreeMap.getElem?_insert]
  simp only [Std.compare_eq_iff_eq]

variable {s r : TradeUnionState} {before : List UnionCall}

/-- **One publication** is recorded in both stores, or the log is full. -/
theorem publishEntry_represents (h : Represents s r) {entry : TradeUnionEntry}
    (habove : ∀ last, r.lastPublishedId = some last → last < id)
    (hdigest : isLowerHex64 entry.observation.observationSha256 = true) :
    (∃ s', s.publishEntry id entry
      = (err "write trade identity record: file too large", s')) ∨
    ∃ s', s.publishEntry id entry = (.ok (), s') ∧
      Represents s' (r.referencePublish id entry) := by
  obtain ⟨log, rs, hlog, hbacks, hlast, hpub⟩ := h.log
  have habove' : ∀ last ∈ log.lastId, last < id := by
    intro last hmem
    exact habove last (hlast ▸ hmem)
  have hbelow := hbacks.lt_of_last_lt habove'
  rcases hbacks.insert habove' hdigest with ⟨log', hins⟩ | ⟨log', digest, hins, henc, hbacks'⟩
  · refine .inl ⟨{ s with
      lastPublishedId := some id
      published := s.published.insert id entry.observation.observationSha256
      durable := some log' }, ?_⟩
    simp only [publishEntry, hlog, hins, err]
  · obtain ⟨kept, hkept, hsub⟩ : ∃ kept,
        evictPublished (s.published.insert id entry.observation.observationSha256) = kept ∧
        ∀ (id' : UInt64) (digest' : String), kept[id']? = some digest' →
          (s.published.insert id entry.observation.observationSha256)[id']? = some digest' :=
      ⟨_, rfl, fun _ _ => getElem?_evictPublished⟩
    refine .inr ⟨{ s with
      lastPublishedId := some id
      published := kept
      durable := some log' }, ?_, ?_, ⟨log', _, rfl, hbacks', ?_, ?_⟩, ?_⟩
    · simp only [publishEntry, hlog, hins, hkept]
    · rw [h.frame]
      rfl
    · rw [hbacks'.last, List.getLast?_concat]
      rfl
    · intro id' digest'
      show (r.published.insert id entry.observation.observationSha256)[id']? = some digest' ↔ _
      rw [getElem?_insert_eq]
      by_cases hid : id = id'
      · -- the new ID is above every record, so only the new one answers for it
        subst hid
        rw [if_pos rfl, ← henc]
        refine ⟨fun heq => ⟨(id, digest), by simp, rfl, Option.some.inj heq⟩, ?_⟩
        intro hex
        obtain ⟨x, hx, hxid, hxd⟩ := hex
        rcases List.mem_append.mp hx with hold | hnew
        · have hlt := hbelow x hold
          rw [hxid] at hlt
          exact absurd hlt (UInt64.lt_irrefl _)
        · rw [List.mem_singleton.mp hnew] at hxd
          rw [hxd]
      · rw [if_neg hid, hpub]
        simp [hid]
    · intro id' digest' hget
      have hget := hsub id' digest' hget
      show (r.published.insert id entry.observation.observationSha256)[id']? = some digest'
      rw [getElem?_insert_eq] at hget ⊢
      split at hget
      · next hid => rwa [if_pos hid]
      · next hid =>
        rw [if_neg hid]
        exact h.retained id' digest' hget

/-! ## One drain -/

/-- An update that neither reads nor writes the retained identities, and leaves the
    published position, is made to both. -/
theorem Represents.map (h : Represents s r) {f : TradeUnionState → TradeUnionState}
    (hframe : ∀ (r : TradeUnionState) published durable,
      f { r with published := published, durable := durable }
        = { f r with published := published, durable := durable })
    (hlast : (f r).lastPublishedId = r.lastPublishedId) : Represents (f s) (f r) := by
  have hs : f s = { f r with published := s.published, durable := s.durable } := by
    conv_lhs => rw [h.frame]
    exact hframe r s.published s.durable
  have hr : (f r).published = r.published := by
    have := congrArg TradeUnionState.published (hframe r r.published r.durable)
    exact this
  obtain ⟨log, rs, hlog, hbacks, hid, hpub⟩ := h.log
  refine ⟨?_, ⟨log, rs, ?_, hbacks, hid.trans hlast.symm, ?_⟩, ?_⟩
  · rw [hs]
  · rw [hs]
    exact hlog
  · rw [hr]
    exact hpub
  · rw [hs, hr]
    exact h.retained

/-- The emission loop follows the reference, or the log is full. -/
theorem drainLoop_represents (w : UInt64) (entries : List (UInt64 × TradeUnionEntry)) :
    ∀ s r : TradeUnionState, Represents s r → entries.Pairwise (fun a b => a.1 < b.1) →
      (∀ e ∈ entries, ∀ last, r.lastPublishedId = some last → last < e.1) →
      (∀ e ∈ entries, isLowerHex64 e.2.observation.observationSha256 = true) →
      (∃ s', drainLoop w entries s
        = (err "write trade identity record: file too large", s')) ∨
      ∃ batch s' r', drainLoop w entries s = (.ok batch, s') ∧
        referenceDrainLoop w entries r = (.ok batch, r') ∧ Represents s' r' := by
  induction entries with
  | nil =>
    intro s r h _ _ _
    exact .inr ⟨[], s, r, rfl, rfl, h⟩
  | cons e rest ih =>
    intro s r h hsorted habove hdigests
    obtain ⟨id, entry⟩ := e
    obtain ⟨hhead, htail⟩ := List.pairwise_cons.mp hsorted
    by_cases hle : w ≤ id
    · refine .inr ⟨[], s, r, ?_, ?_, h⟩
      · rw [drainLoop, if_pos hle]
      · rw [referenceDrainLoop, if_pos hle]
    · have horder := not_regressed (habove (id, entry) List.mem_cons_self)
      have horder' : s.lastPublishedId.any (fun last => decide (id ≤ last)) = false := by
        rw [h.last_eq, horder]
      simp only [drainLoop, referenceDrainLoop, if_neg hle, horder, horder', Bool.false_eq_true,
        if_false]
      have herase := h.map (f := fun s => { s with buffer := s.buffer.erase id })
        (fun _ _ _ => rfl) rfl
      rcases publishEntry_represents herase (habove (id, entry) List.mem_cons_self)
          (hdigests (id, entry) List.mem_cons_self) with ⟨s', hpub⟩ | ⟨s', hpub, hnext⟩
      · simp only [hpub]
        exact .inl ⟨s', rfl⟩
      · have hrest := ih s' _ hnext htail (by
          intro e he last hlast
          cases hlast
          exact hhead e he) (fun e he => hdigests e (List.mem_cons_of_mem _ he))
        simp only [hpub]
        rcases hrest with ⟨s'', hloop⟩ | ⟨batch, s'', r'', hloop, hloop', hend⟩
        · simp only [hloop]
          exact .inl ⟨s'', rfl⟩
        · simp only [hloop, hloop']
          exact .inr ⟨_, s'', r'', rfl, rfl, hend⟩

/-- The batch's `sync` changes nothing the union reads. -/
theorem Represents.sync (h : Represents s r) :
    Represents { s with durable := s.durable.map TradeIdentityLog.sync } r := by
  obtain ⟨log, rs, hlog, hbacks, hlast, hpub⟩ := h.log
  have hsync := hbacks.sync
  refine ⟨?_, ⟨log.sync, rs, ?_, hsync, ?_, hpub⟩, h.retained⟩
  · rw [h.frame]
  · rw [hlog, Option.map_some]
  · rw [hsync.last, ← hbacks.last, hlast]

/-- Every buffered digest is a lowercase SHA-256. -/
def LowercaseBuffer (r : TradeUnionState) : Prop :=
  ∀ (id : UInt64) (entry : TradeUnionEntry), r.buffer[id]? = some entry →
    isLowerHex64 entry.observation.observationSha256 = true

section

variable (h : Represents s r)
include h

/-- **One drain** follows the reference, or the log is full. -/
theorem drain_represents (hok : r.BufferOk) (hlower : r.LowercaseBuffer) :
    s.drain.1 = err "write trade identity record: file too large" ∨
    (s.drain.1 = r.referenceDrain.1 ∧ Represents s.drain.2 r.referenceDrain.2) := by
  obtain ⟨w, hw⟩ := drainBound_isSome r
  have hentries : ∀ e ∈ r.buffer.toList, r.buffer[e.1]? = some e.2 := fun e he =>
    TreeMap.mem_toList_iff_getElem?_eq_some.mp he
  have hloop := drainLoop_represents w r.buffer.toList s r h (toList_pairwise r.buffer)
    (fun e he => hok.above e.1 e.2 (hentries e he)) (fun e he => hlower e.1 e.2 (hentries e he))
  simp only [drain, referenceDrain, h.drainBound_eq, hw, h.buffer_eq]
  rcases hloop with ⟨s', hfull⟩ | ⟨batch, s', r', hreal, href, hend⟩
  · rw [hfull]
    exact .inl rfl
  · rw [hreal, href]
    refine .inr ?_
    dsimp only [TradeUnionDisposition.ofBatch]
    cases batch with
    | nil => exact ⟨rfl, hend⟩
    | cons x xs => exact ⟨rfl, hend.sync⟩

/-! ## One call -/

/-- The log answers for exactly the identities of the reference. -/
theorem Represents.durableDigest_eq (id : UInt64) : s.durableDigest id = .ok r.published[id]? := by
  obtain ⟨log, rs, hlog, hbacks, -, hpub⟩ := h.log
  obtain ⟨hmem, hnone⟩ := hbacks.lookup id
  simp only [durableDigest, hlog]
  cases hget : r.published[id]? with
  | some digest =>
    obtain ⟨x, hx, hid, hdigest⟩ := (hpub id digest).mp hget
    rw [hmem x hx hid, hdigest]
  | none =>
    apply hnone
    intro x hx hid
    have := (hpub id (hexEncode32 x.2)).mpr ⟨x, hx, hid, rfl⟩
    rw [hget] at this
    cases this

/-- **Classification.** At or below the published position the three stores answer
    what the reference answers. -/
theorem observeLate_represents (id : UInt64) (o : CanonicalObservationV1) :
    (s.observeLate id o).1 = (r.referenceObserveLate id o).1 ∧
      Represents (s.observeLate id o).2 (r.referenceObserveLate id o).2 := by
  simp only [observeLate, referenceObserveLate, h.durableDigest_eq, h.corrected_eq]
  cases r.corrected[id]? with
  | some digest => exact ⟨rfl, h⟩
  | none =>
    cases hs : s.published[id]? with
    | some digest =>
      rw [h.retained id digest hs]
      exact ⟨rfl, h⟩
    | none =>
      -- evicted or never published: the log decides
      cases r.published[id]? with
      | some digest => exact ⟨rfl, h⟩
      | none =>
        refine ⟨rfl, ?_⟩
        have := h.map (f := fun s =>
          { s with corrected := r.corrected.insert id o.observationSha256 }) (fun _ _ _ => rfl) rfl
        exact this

theorem Represents.merge (lane : CaptureLane) (id : UInt64) (entry : TradeUnionEntry) :
    Represents (s.merge lane id entry) (r.merge lane id entry) := by
  refine h.map (f := fun s => s.merge lane id entry) ?_ (merge_lastPublishedId ..)
  intro r published durable
  simp only [TradeUnionState.merge, advanceLane]
  split <;> rfl

/-- **One observe** follows the reference, or the log is full. -/
theorem observe_represents (hok : r.BufferOk) (hlower : r.LowercaseBuffer) (lane : CaptureLane)
    (o : CanonicalObservationV1) (hdigest : isLowerHex64 o.observationSha256 = true) :
    (s.observe lane o).1 = err "write trade identity record: file too large" ∨
    ((s.observe lane o).1 = (r.referenceObserve lane o).1 ∧
      Represents (s.observe lane o).2 (r.referenceObserve lane o).2) := by
  unfold observe referenceObserve
  cases hcheck : checkTrade o with
  | error e => exact .inr ⟨rfl, h⟩
  | ok id =>
    have hid : id = o.finalSequence := by
      simp only [checkTrade, ite_err_eq_ok] at hcheck
      exact (Except.ok.inj hcheck.2.2).symm
    subst hid
    dsimp only
    rw [h.floor_eq, h.last_eq]
    by_cases hfloor :
        r.consumedFloor.any (fun floor => decide (o.finalSequence ≤ floor)) = true
    · rw [if_pos hfloor, if_pos hfloor]
      exact .inr ⟨rfl, h⟩
    · rw [if_neg hfloor, if_neg hfloor]
      by_cases hlast :
          r.lastPublishedId.any (fun last => decide (o.finalSequence ≤ last)) = true
      · rw [if_pos hlast, if_pos hlast]
        exact .inr (observeLate_represents h o.finalSequence o)
      · have hfresh : ∀ last, r.lastPublishedId = some last → last < o.finalSequence := by
          intro last hsome
          simp only [hsome, Option.any_some, decide_eq_true_eq] at hlast
          exact UInt64.not_le.mp hlast
        have hmerged : ∀ entry, r.Merges o entry →
            (s.merge lane o.finalSequence entry).drain.1
              = err "write trade identity record: file too large" ∨
            ((s.merge lane o.finalSequence entry).drain.1
                = (r.merge lane o.finalSequence entry).referenceDrain.1 ∧
              Represents (s.merge lane o.finalSequence entry).drain.2
                (r.merge lane o.finalSequence entry).referenceDrain.2) := by
          intro entry hmerge
          refine drain_represents (h.merge lane _ entry) (merge_bufferOk hok lane hmerge hfresh) ?_
          intro id e hget
          rcases merge_source lane hmerge id e hget with ⟨first, hfirst, heq⟩ | ⟨lane', hcall⟩
          · rw [heq]
            exact hlower id first hfirst
          · cases hcall
            exact hdigest
        rw [if_neg hlast, if_neg hlast, observeFresh, referenceObserveFresh]
        have hsame : s.buffer[o.finalSequence]? = r.buffer[o.finalSequence]? := by
          rw [h.buffer_eq]
        rw [hsame]
        cases hbuf : r.buffer[o.finalSequence]? with
        | none => exact hmerged ⟨o, [(lane, o.recordSha256)]⟩ (.inl ⟨hbuf, rfl⟩)
        | some first =>
          dsimp only
          by_cases hsha : first.observation.observationSha256 = o.observationSha256
          · rw [if_neg (not_not.mpr hsha), if_neg (not_not.mpr hsha)]
            exact hmerged { first with lineages := first.lineages ++ [(lane, o.recordSha256)] }
              (.inr ⟨first, hbuf, rfl, hsha⟩)
          · rw [if_pos hsha, if_pos hsha]
            exact .inr ⟨rfl, h⟩

/-- `fast_forward` moves the lane cursor and the floor only. -/
theorem fastForward_represents (lane : CaptureLane) (o : CanonicalObservationV1) :
    Represents (s.fastForward lane o).2 (r.fastForward lane o).2 := by
  refine h.map (f := fun s => (s.fastForward lane o).2) ?_ ?_
  · intro r published durable
    simp only [fastForward, advanceLane]
    cases checkTrade o with
    | error e => rfl
    | ok id =>
      dsimp only
      split <;> split <;> rfl
  · simp only [fastForward]
    cases checkTrade o with
    | error e => rfl
    | ok id =>
      dsimp only
      rw [advanceLane_frame]
      split <;> rfl

end

/-- The reference state in a run: what `Represents` needs of it, kept by every call. -/
structure Represented (s r : TradeUnionState) : Prop where
  represents : Represents s r
  durable : r.durable = none
  buffer : r.BufferOk
  lowercase : r.LowercaseBuffer

/-- **One call** follows the reference, or the log is full. -/
theorem call_represents (c : UnionCall) (h : Represents s r) (hok : r.BufferOk)
    (hlower : r.LowercaseBuffer) (hc : c.LowercaseDigest) :
    (s.call c).1 = some (err "write trade identity record: file too large") ∨
    ((s.call c).1 = (r.referenceCall c).1 ∧ Represents (s.call c).2 (r.referenceCall c).2) := by
  cases c with
  | registerLane lane =>
    refine .inr ⟨rfl, h.map (f := fun s => s.registerLane lane) (fun _ _ _ => rfl) rfl⟩
  | observe lane o =>
    rcases observe_represents h hok hlower lane o hc with hfull | ⟨hout, hnext⟩
    · exact .inl (congrArg some hfull)
    · exact .inr ⟨congrArg some hout, hnext⟩
  | excludeLane lane =>
    refine .inr ⟨rfl, h.map (f := fun s => s.excludeLane lane) (fun _ _ _ => rfl) rfl⟩
  | setEmissionClamp lane bound =>
    refine .inr ⟨rfl, h.map (f := fun s => s.setEmissionClamp lane bound) (fun _ _ _ => rfl) rfl⟩
  | clearEmissionClamp lane =>
    refine .inr ⟨rfl, h.map (f := fun s => s.clearEmissionClamp lane) (fun _ _ _ => rfl) rfl⟩
  | flush =>
    rcases drain_represents h hok hlower with hfull | ⟨hout, hnext⟩
    · exact .inl (congrArg some hfull)
    · exact .inr ⟨congrArg some hout, hnext⟩
  | fastForward lane o => exact .inr ⟨rfl, fastForward_represents h lane o⟩

/-- **Step.** -/
theorem call_represented (c : UnionCall) (h : Represented s r) (hc : c.LowercaseDigest) :
    (s.call c).1 = some (err "write trade identity record: file too large") ∨
    ((s.call c).1 = (r.referenceCall c).1 ∧ Represented (s.call c).2 (r.referenceCall c).2) := by
  have heff := referenceCall_effect h.durable h.buffer c
  rcases call_represents c h.represents h.buffer h.lowercase hc with hfull | ⟨hout, hnext⟩
  · exact .inl hfull
  · refine .inr ⟨hout, hnext, heff.durable_eq.trans h.durable, heff.bufferOk h.buffer, ?_⟩
    refine heff.buffered (p := fun o => isLowerHex64 o.observationSha256 = true) h.lowercase ?_
    intro lane o hcall
    subst hcall
    exact hc

/-! ## Before the first publication -/

/-- A drain that emits nothing changes nothing, with or without eviction. -/
theorem drain_eq_referenceDrain (hdur : r.durable = none) (hok : r.BufferOk)
    (hnone : emitted r.drain.1 = []) : r.drain = r.referenceDrain := by
  obtain ⟨w, hw⟩ := drainBound_isSome r
  have hdrain := drain_eq hw hdur hok
  have hloop := referenceDrainLoop_eq w r.buffer.toList r (toList_pairwise r.buffer) (by
    intro e he last hlast
    exact hok.above e.1 e.2 (TreeMap.mem_toList_iff_getElem?_eq_some.mp he) last hlast)
  have hnil : belowMark w r.buffer.toList = [] := by
    rw [hdrain, emitted_ofBatch] at hnone
    exact List.map_eq_nil_iff.mp hnone
  rw [hnil, List.map_nil, List.foldl_nil] at hdrain hloop
  rw [hdrain, referenceDrain, hw]
  simp only [hloop]

/-- A call that publishes nothing, without a log, is the reference's. -/
theorem call_eq_referenceCall (hdur : r.durable = none) (hok : r.BufferOk) (c : UnionCall)
    (hnone : callBatch (r.call c).1 = []) : r.call c = r.referenceCall c := by
  cases c with
  | observe lane o =>
    have hlate : r.observeLate o.finalSequence o = r.referenceObserveLate o.finalSequence o := by
      have hlog : r.durableDigest o.finalSequence = .ok none := by rw [durableDigest, hdur]
      unfold observeLate referenceObserveLate
      rw [hlog]
      -- nothing is left of the two matches when they share a matcher
      all_goals
        cases r.corrected[o.finalSequence]? with
        | some digest => rfl
        | none => cases r.published[o.finalSequence]? <;> rfl
    have hobserve : r.observe lane o = r.referenceObserve lane o := by
      have hemitted : emitted (r.observe lane o).1 = [] := hnone
      unfold observe at hemitted ⊢
      unfold referenceObserve
      cases hcheck : checkTrade o with
      | error e => rfl
      | ok id =>
        have hid : id = o.finalSequence := by
          simp only [checkTrade, ite_err_eq_ok] at hcheck
          exact (Except.ok.inj hcheck.2.2).symm
        subst hid
        rw [hcheck] at hemitted
        dsimp only at hemitted ⊢
        by_cases hfloor :
            r.consumedFloor.any (fun floor => decide (o.finalSequence ≤ floor)) = true
        · rw [if_pos hfloor, if_pos hfloor]
        · rw [if_neg hfloor] at hemitted ⊢
          rw [if_neg hfloor]
          by_cases hlast :
              r.lastPublishedId.any (fun last => decide (o.finalSequence ≤ last)) = true
          · rw [if_pos hlast, if_pos hlast, hlate]
          · have hfresh : ∀ last, r.lastPublishedId = some last → last < o.finalSequence := by
              intro last hsome
              simp only [hsome, Option.any_some, decide_eq_true_eq] at hlast
              exact UInt64.not_le.mp hlast
            rw [if_neg hlast] at hemitted ⊢
            rw [if_neg hlast]
            unfold observeFresh at hemitted ⊢
            unfold referenceObserveFresh
            cases hbuf : r.buffer[o.finalSequence]? with
            | none =>
              rw [hbuf] at hemitted
              exact drain_eq_referenceDrain (r := r.merge lane o.finalSequence _)
                ((merge_durable ..).trans hdur)
                (merge_bufferOk hok lane (.inl ⟨hbuf, rfl⟩) hfresh) hemitted
            | some first =>
              rw [hbuf] at hemitted
              dsimp only at hemitted ⊢
              by_cases hsha : first.observation.observationSha256 = o.observationSha256
              · rw [if_neg (not_not.mpr hsha)] at hemitted ⊢
                rw [if_neg (not_not.mpr hsha)]
                exact drain_eq_referenceDrain (r := r.merge lane o.finalSequence _)
                  ((merge_durable ..).trans hdur)
                  (merge_bufferOk hok lane (.inr ⟨first, hbuf, rfl, hsha⟩) hfresh) hemitted
              · rw [if_pos hsha, if_pos hsha]
    simp only [call, referenceCall, hobserve]
  | flush =>
    have hdrain := drain_eq_referenceDrain hdur hok hnone
    simp only [call, referenceCall, flush, hdrain]
  | _ => rfl

theorem run_eq_reference (hfirst : publishedIds (run call new before).1 = []) :
    run referenceCall new before = run call new before := by
  refine run_induction (P := fun cs outs (s : TradeUnionState) => publishedIds outs = [] →
    run referenceCall new cs = (outs, s)) (fun _ => rfl) ?_ before hfirst
  intro cs outs s c ih hnone
  rw [publishedIds_concat, List.append_eq_nil_iff] at hnone
  obtain ⟨houts, hbatch⟩ := hnone
  have href := ih houts
  have hok := run_referenceOk cs
  rw [href] at hok
  rw [run_concat, href, call_eq_referenceCall hok.durable hok.buffer c
    (List.map_eq_nil_iff.mp hbatch)]

theorem run_lowercaseBuffer (hcalls : ∀ c ∈ calls, c.LowercaseDigest) :
    (run referenceCall new calls).2.LowercaseBuffer := by
  have hrun : ReferenceOk (run referenceCall new calls).2 (run referenceCall new calls).1 ∧
      ((∀ c ∈ calls, c.LowercaseDigest) → (run referenceCall new calls).2.LowercaseBuffer) := by
    refine run_induction (P := fun cs outs r => ReferenceOk r outs ∧
      ((∀ c ∈ cs, c.LowercaseDigest) → r.LowercaseBuffer)) ?_ ?_ calls
    · refine ⟨referenceOk_new, ?_⟩
      intro _ id entry hget
      simp [new] at hget
    · intro cs outs r c ih
      have heff := referenceCall_effect ih.1.durable ih.1.buffer c
      refine ⟨heff.referenceOk ih.1, ?_⟩
      intro hall
      refine heff.buffered (p := fun o => isLowerHex64 o.observationSha256 = true)
        (ih.2 fun c' hc' => hall c' (List.mem_append_left _ hc')) ?_
      intro lane o hcall
      have hc := hall c (by simp)
      rw [hcall] at hc
      exact hc
  exact hrun.2 hcalls

/-- The union after the calls `before`, with a new identity log attached. -/
def attachLog (before : List UnionCall) : TradeUnionState :=
  (run call new before).2.setIdentityLog TradeIdentityLog.create

theorem attachLog_represented (hbefore : ∀ c ∈ before, c.LowercaseDigest)
    (hfirst : publishedIds (run call new before).1 = []) :
    Represented (attachLog before) (run referenceCall new before).2 := by
  have hok := run_referenceOk before
  have heq := run_eq_reference hfirst
  have hnone : ∀ (id : UInt64) (digest : String),
      (run referenceCall new before).2.published[id]? ≠ some digest := by
    intro id digest hget
    obtain ⟨x, hx, hid, -⟩ := (hok.published id digest).mp hget
    obtain ⟨out, hout, hxo⟩ := List.mem_flatMap.mp hx
    have hmem : id ∈ publishedIds (run referenceCall new before).1 :=
      List.mem_flatMap.mpr ⟨out, hout, List.mem_map.mpr ⟨x, hxo, hid⟩⟩
    rw [heq, hfirst] at hmem
    cases hmem
  refine ⟨⟨?_, ?_, ?_⟩, hok.durable, hok.buffer, run_lowercaseBuffer hbefore⟩
  · rw [attachLog, heq]
    rfl
  · refine ⟨TradeIdentityLog.create, [], rfl, TradeIdentityLog.backs_create, ?_, ?_⟩
    · rw [hok.last, heq, hfirst]
      rfl
    · intro id digest
      simp [hnone]
  · intro id digest hget
    rw [heq]
    exact hget

/-! ## The theorem -/

theorem run_attachLog (hdigests : ∀ c ∈ before ++ calls, c.LowercaseDigest)
    (hfirst : publishedIds (run call new before).1 = [])
    (hio : some (err "write trade identity record: file too large")
      ∉ (run call (attachLog before) calls).1) :
    (run call new before).1 ++ (run call (attachLog before) calls).1
        = (run referenceCall new (before ++ calls)).1 ∧
      Represented (run call (attachLog before) calls).2
        (run referenceCall new (before ++ calls)).2 := by
  have hstart := attachLog_represented
    (fun c hc => hdigests c (List.mem_append_left _ hc)) hfirst
  have hsim : (run call (attachLog before) calls).1
        = (run referenceCall (run referenceCall new before).2 calls).1 ∧
      Represented (run call (attachLog before) calls).2
        (run referenceCall (run referenceCall new before).2 calls).2 :=
    run_simulates (fun out => out = some (err "write trade identity record: file too large"))
      (fun s r c h hc => call_represented c h hc) hstart calls
      (fun c hc => hdigests c (List.mem_append_right _ hc))
      (fun out hout heq => hio (heq ▸ hout))
  obtain ⟨houts, hend⟩ := hsim
  rw [run_append, houts, run_eq_reference hfirst]
  refine ⟨rfl, ?_⟩
  rwa [run_eq_reference hfirst] at hend

/-- **Bounded retention with the log is unbounded retention.** With a new identity log and lowercase
    digests, every run in which the log does not fail to write has the dispositions of the reference
    that never evicts; without `fast_forward` these are exact. -/
theorem bounded_retention_with_log_is_unbounded (before calls : List UnionCall)
    (hdigests : ∀ c ∈ before ++ calls, c.LowercaseDigest)
    (hfirst : publishedIds (run call new before).1 = [])
    (hio : some (err "write trade identity record: file too large")
      ∉ (run call (attachLog before) calls).1) :
    (run call new before).1 ++ (run call (attachLog before) calls).1
      = (run referenceCall new (before ++ calls)).1 ∧
    ((∀ c ∈ before ++ calls, c.isFastForward = false) →
      ∀ past lane observation later, calls = past ++ .observe lane observation :: later →
        let earlier := (run call new before).1 ++ (run call (attachLog before) past).1
        let answer := ((run call (attachLog before) past).2.observe lane observation).1
        (observation.streamKind = .trade →
          observation.firstSequence = observation.finalSequence →
          ∀ digest, PublishedAs earlier observation.finalSequence digest →
            (answer = .ok (.late observation .duplicate)
              ↔ observation.observationSha256 = digest) ∧
            (observation.observationSha256 ≠ digest →
              answer = .ok (.conflict observation.finalSequence digest
                observation.observationSha256))) ∧
        ∀ late, answer = .ok (.late late .unknown) → late = observation ∧
          ¬ AnsweredUnknown earlier observation.finalSequence ∧
          ∀ digest, ¬ PublishedAs ((run call new before).1
            ++ (run call (attachLog before) calls).1) observation.finalSequence digest) := by
  have hall := run_attachLog hdigests hfirst hio
  refine ⟨hall.1, ?_⟩
  intro hforward past lane observation later hcalls
  have hmem : ∀ c ∈ before ++ past, c ∈ before ++ calls := by
    intro c hc
    rw [hcalls, ← List.append_assoc]
    exact List.mem_append_left _ hc
  have hio_past : some (err "write trade identity record: file too large")
      ∉ (run call (attachLog before) past).1 := by
    intro hin
    apply hio
    rw [hcalls, run_append]
    exact List.mem_append_left _ hin
  obtain ⟨houts, hrep⟩ := run_attachLog (fun c hc => hdigests c (hmem c hc)) hfirst hio_past
  have hok := run_referenceOk (before ++ past)
  have hfloor := run_floor (fun c hc => hforward c (hmem c hc))
  have hanswer : ((run call (attachLog before) past).2.observe lane observation).1
      = ((run referenceCall new (before ++ past)).2.referenceObserve lane observation).1 := by
    have hc : (UnionCall.observe lane observation).LowercaseDigest :=
      hdigests _ (by rw [hcalls]; simp)
    rcases call_represented (.observe lane observation) hrep hc with hfull | ⟨hout, -⟩
    · refine absurd ?_ hio
      rw [hcalls, run_append, run_cons, ← hfull]
      simp
    · exact Option.some.inj hout
  dsimp only
  rw [hanswer, houts]
  refine ⟨?_, ?_⟩
  · intro hkind hexact digest hpub
    rw [hok.observe_published hfloor lane hkind hexact hpub, classifyRetained]
    by_cases hdigest : digest = observation.observationSha256
    · simp [hdigest]
    · simp [hdigest, Ne.symm hdigest]
  · intro late hlate
    obtain ⟨rfl, hnew⟩ := hok.observe_unknown hlate
    refine ⟨rfl, hnew, ?_⟩
    -- at the end of the run the ID is answered `Unknown`, hence not published
    rw [hall.1]
    apply (run_referenceOk (before ++ calls)).unknown_not_published
    refine ⟨late, ?_, rfl⟩
    rw [← hall.1, hcalls, run_append, run_cons]
    refine List.mem_append_right _ (List.mem_append_right _ ?_)
    rw [← hlate, ← hanswer]
    exact List.mem_cons_self

def sampleDigestTrade (id : UInt64) (digest : Nat) : CanonicalObservationV1 :=
  { sampleTrade id "epoch" with observationSha256 := hex (digestOfNat digest).bytes }

/-- Both lanes deliver trade 100; the shadow lane then contradicts it, and delivers a
    trade nobody published. -/
def sampleCalls : List UnionCall :=
  [.observe .primary (sampleDigestTrade 100 1), .observe .shadow (sampleDigestTrade 100 1),
   .observe .shadow (sampleDigestTrade 100 2), .observe .shadow (sampleDigestTrade 99 2)]

/-- The contradiction is answered from the identity trade 100 was published with. -/
theorem contradicted_trade_is_a_conflict :
    ((run call (attachLog [.registerLane .primary, .registerLane .shadow])
        [.observe .primary (sampleDigestTrade 100 1),
         .observe .shadow (sampleDigestTrade 100 1)]).2.observe .shadow
      (sampleDigestTrade 100 2)).1
        = .ok (.conflict 100 (hex (digestOfNat 1).bytes) (hex (digestOfNat 2).bytes)) := by
  have hmain := bounded_retention_with_log_is_unbounded
    [.registerLane .primary, .registerLane .shadow] sampleCalls
    (by
      intro c hc
      simp only [sampleCalls, List.cons_append, List.nil_append, List.mem_cons,
        List.not_mem_nil, or_false] at hc
      rcases hc with rfl | rfl | rfl | rfl | rfl | rfl
      · trivial
      · trivial
      all_goals exact isLowerHex64_hex _)
    (by decide +kernel) (by decide +kernel)
  have hlate := (hmain.2 (by decide +kernel)
    [.observe .primary (sampleDigestTrade 100 1), .observe .shadow (sampleDigestTrade 100 1)]
    .shadow (sampleDigestTrade 100 2) [.observe .shadow (sampleDigestTrade 99 2)] rfl).1 rfl rfl
    (hex (digestOfNat 1).bytes) ⟨(.primary, sampleDigestTrade 100 1), by decide +kernel, rfl, rfl⟩
  apply hlate.2
  decide +kernel

end TradeUnionState

end LobReplay
