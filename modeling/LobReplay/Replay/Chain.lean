/-
  Chains of generations replay. One visit is described by `Visited`, a run over the records of a
  generation by the same relation (`foldlM_visited`).

  The frames of a generation are its positions, so the selection is a stretch of its records
  (`filter_selected`), empty when the boundary that leads to the generation is also the one that
  leaves it. A chain of one generation needs a trade of its own.
-/

import LobReplay.Replay.Window

namespace LobReplay.Replay

open Foundation Book Observation
open Raw (RawRecordEnvelopeV1 successorIndex)

/-! ## Visits -/

section

variable {σ : Type} {codec : BookCodec} {start : UInt64} {stop : Option UInt64} {s : Progress σ}

def selectedOf (start : UInt64) (stop : Option UInt64) (records : List RawRecordEnvelopeV1) :
    List RawRecordEnvelopeV1 :=
  records.filter fun record => ¬ outside start stop record.frame.frameIndex

def idsOf (codec : BookCodec) (records : List RawRecordEnvelopeV1) : List UInt64 :=
  records.filterMap (tradeId? codec)

structure Visited (codec : BookCodec) (selected : List RawRecordEnvelopeV1) (s s' : Progress σ) :
    Prop where
  first : s'.firstSelected = s.firstSelected.or (selected.head?.map (·.frame.frameIndex))
  last : s'.lastSelected = (selected.getLast?.map (·.frame.frameIndex)).or s.lastSelected
  sha : s'.lastSelectedSha = (selected.getLast?.map (·.recordSha256)).or s.lastSelectedSha
  firstId : s'.firstTradeId = s.firstTradeId.or (idsOf codec selected).head?
  previous : s'.previousTradeId = (idsOf codec selected).getLast?.or s.previousTradeId
  counted : s.selectedRaw ≤ s.totalRaw → s'.selectedRaw ≤ s'.totalRaw

theorem Visited.refl (s : Progress σ) : Visited codec [] s s :=
  ⟨Option.or_none.symm, rfl, rfl, Option.or_none.symm, rfl, id⟩

theorem Visited.trans {xs ys : List RawRecordEnvelopeV1} {s' s'' : Progress σ}
    (h : Visited codec xs s s') (h' : Visited codec ys s' s'') :
    Visited codec (xs ++ ys) s s'' := by
  have hids : idsOf codec (xs ++ ys) = idsOf codec xs ++ idsOf codec ys := List.filterMap_append
  refine ⟨?_, ?_, ?_, ?_, ?_, fun hle => h'.counted (h.counted hle)⟩
  · rw [h'.first, h.first, Option.or_assoc, List.head?_append, Option.map_or]
  · rw [h'.last, h.last, ← Option.or_assoc, List.getLast?_append, Option.map_or]
  · rw [h'.sha, h.sha, ← Option.or_assoc, List.getLast?_append, Option.map_or]
  · rw [h'.firstId, h.firstId, Option.or_assoc, hids, List.head?_append]
  · rw [h'.previous, h.previous, ← Option.or_assoc, hids, List.getLast?_append]

variable {sink : σ → UInt64 → UInt64 → RawRecordEnvelopeV1 → Result σ}

def Takes (sink : σ → UInt64 → UInt64 → RawRecordEnvelopeV1 → Result σ) : Prop :=
  ∀ taken g i record, ∃ next, sink taken g i record = .ok next

/-- **Step.** The visit of a readable record, whose trade is above the last one if it is
    selected. -/
theorem visit_visited (hsink : Takes sink) (index : UInt64) {x : UInt64 × RawRecordEnvelopeV1}
    (hread : Readable codec x.2)
    (habove : ∀ id ∈ idsOf codec (selectedOf start stop [x.2]), ∀ old ∈ s.previousTradeId, old < id) :
    ∃ s', visit codec sink index start stop s x = .ok s' ∧
      Visited codec (selectedOf start stop [x.2]) s s' := by
  obtain ⟨event, hclass⟩ := hread
  have hevent := event?_of_classify hclass
  obtain ⟨value, hvalue, hclass⟩ := bind_eq_ok.mp hclass
  obtain ⟨control, hcontrol, hclass⟩ := bind_eq_ok.mp hclass
  have hvisit : visit codec sink index start stop s x =
      if outside start stop x.2.frame.frameIndex then
        .ok { s with
          totalRaw := s.totalRaw + 1
          totalControls := s.totalControls + if control then 1 else 0 }
      else select codec sink index x.1 value control x.2 { s with
          totalRaw := s.totalRaw + 1
          totalControls := s.totalControls + if control then 1 else 0 } := by
    unfold visit
    rw [hvalue]
    show (isServerShutdown value >>= _) = _
    rw [hcontrol]
    rfl
  rw [hvisit]
  by_cases houtside : outside start stop x.2.frame.frameIndex
  · -- not selected: only the totals change
    have hnone : selectedOf start stop [x.2] = [] := by
      rw [selectedOf, List.filter_cons_of_neg (by simpa using houtside), List.filter_nil]
    rw [if_pos houtside, hnone]
    exact ⟨_, rfl, Option.or_none.symm, rfl, rfl, Option.or_none.symm, rfl,
      fun hle => Nat.le_succ_of_le hle⟩
  have hone : selectedOf start stop [x.2] = [x.2] := by
    rw [selectedOf, List.filter_cons_of_pos (by simpa using houtside), List.filter_nil]
  rw [hone] at habove ⊢
  rw [if_neg houtside]
  obtain ⟨next, hnext⟩ := hsink s.sink index x.1 x.2
  cases control with
  | true =>
    obtain rfl : none = event := Except.ok.inj hclass
    have hids : idsOf codec [x.2] = [] := by
      rw [idsOf, List.filterMap_cons_none (by rw [tradeId?, hevent]; rfl), List.filterMap_nil]
    unfold select
    dsimp only
    rw [hnext]
    refine ⟨_, rfl, rfl, rfl, rfl, ?_, ?_, fun hle => Nat.succ_le_succ hle⟩
    · rw [hids]
      exact Option.or_none.symm
    · rw [hids]
      rfl
  | false =>
    obtain ⟨⟨id, digest⟩, hdigest, rfl⟩ := map_eq_ok.mp hclass
    have hids : idsOf codec [x.2] = [id] := by
      rw [idsOf, List.filterMap_cons_some (by rw [tradeId?, hevent]; rfl), List.filterMap_nil]
    have hid : validatedTradeId codec value x.2.frame.symbol = .ok id := by
      rw [validatedTradeId, hdigest]
      rfl
    rw [hids] at habove
    have hrise : ¬ (s.previousTradeId.any fun old => decide (id ≤ old)) = true := by
      rw [any_decide_eq_true]
      rintro ⟨old, hold, hle⟩
      exact UInt64.not_le.mpr (habove id List.mem_cons_self old hold) hle
    unfold select
    dsimp only
    rw [hnext]
    show ∃ s', (validatedTradeId codec value x.2.frame.symbol >>= _) = _ ∧ _
    rw [hid]
    show ∃ s', (if (s.previousTradeId.any fun old => decide (id ≤ old)) = true then _ else _)
      = Except.ok s' ∧ _
    rw [if_neg hrise]
    refine ⟨_, rfl, rfl, rfl, rfl, ?_, ?_, fun hle => Nat.succ_le_succ hle⟩
    · rw [hids]
      rfl
    · rw [hids]
      rfl

/-- **Run.** The visits of readable records, whose selected trades rise above the last one. -/
theorem foldlM_visited (hsink : Takes sink) (index : UInt64)
    {xs : List (UInt64 × RawRecordEnvelopeV1)} (hread : ∀ x ∈ xs, Readable codec x.2)
    {s : Progress σ}
    (hrising : (idsOf codec (selectedOf start stop (xs.map (·.2)))).Pairwise (· < ·))
    (habove : ∀ id ∈ idsOf codec (selectedOf start stop (xs.map (·.2))),
      ∀ old ∈ s.previousTradeId, old < id) :
    ∃ s', xs.foldlM (visit codec sink index start stop) s = .ok s' ∧
      Visited codec (selectedOf start stop (xs.map (·.2))) s s' := by
  induction xs generalizing s with
  | nil => exact ⟨s, rfl, Visited.refl s⟩
  | cons x xs ih =>
    have hsplit : selectedOf start stop ((x :: xs).map (·.2))
        = selectedOf start stop [x.2] ++ selectedOf start stop (xs.map (·.2)) := by
      rw [List.map_cons, ← List.singleton_append]
      exact List.filter_append _ _
    have hids : idsOf codec (selectedOf start stop ((x :: xs).map (·.2)))
        = idsOf codec (selectedOf start stop [x.2]) ++
          idsOf codec (selectedOf start stop (xs.map (·.2))) := by
      rw [hsplit]
      exact List.filterMap_append
    rw [hids] at hrising habove
    rw [List.pairwise_append] at hrising
    obtain ⟨mid, hmid, hvisited⟩ := visit_visited hsink index (hread x List.mem_cons_self)
      fun id hid => habove id (List.mem_append_left _ hid)
    obtain ⟨s', hs', hrest⟩ := @ih (fun y hy => hread y (List.mem_cons_of_mem _ hy)) mid hrising.2.1
      (fun id hid old hold => by
        rw [hvisited.previous] at hold
        rcases Option.or_eq_some_iff.mp hold with hlast | ⟨-, hold⟩
        · exact hrising.2.2 old (List.mem_of_getLast? hlast) id hid
        · exact habove id (List.mem_append_right _ hid) old hold)
    refine ⟨s', ?_, ?_⟩
    · rw [List.foldlM_cons, hmid]
      exact hs'
    · rw [hsplit]
      exact hvisited.trans hrest

end

/-! ## Stretches of a generation -/

/-- The records up to the last frame. -/
def upTo (stop : Option UInt64) (records : List RawRecordEnvelopeV1) : List RawRecordEnvelopeV1 :=
  match stop with
  | none => records
  | some last => records.take (last.toNat + 1)

section

variable {codec : BookCodec} {start : UInt64} {stop : Option UInt64}
  {records : List RawRecordEnvelopeV1}
  (hframes : ∀ (k : Nat) (record : RawRecordEnvelopeV1), records[k]? = some record →
    record.frame.frameIndex.toNat = k)

include hframes

theorem selectedOf_nil_of_outside (part : List RawRecordEnvelopeV1)
    (h : ∀ (k : Nat) (record : RawRecordEnvelopeV1), part[k]? = some record →
      ∃ n : Nat, records[n]? = some record ∧
        (n < start.toNat ∨ ∃ last ∈ stop, last.toNat < n)) : selectedOf start stop part = [] := by
  rw [selectedOf, List.filter_eq_nil_iff]
  intro record hrecord
  obtain ⟨k, hk⟩ := List.mem_iff_getElem?.mp hrecord
  obtain ⟨n, hn, hout⟩ := h k record hk
  have hframe := hframes n record hn
  simp only [decide_not, Bool.not_eq_true', decide_eq_false_iff_not, not_not]
  rcases hout with hlow | ⟨last, hlast, hhigh⟩
  · exact Or.inl (UInt64.lt_iff_toNat_lt.mpr (by omega))
  · refine Or.inr (any_decide_eq_true.mpr ⟨last, hlast, UInt64.lt_iff_toNat_lt.mpr (by omega)⟩)

theorem selectedOf_eq : selectedOf start stop records = (upTo stop records).drop start.toNat := by
  -- behind the last frame nothing is selected
  have hupTo : selectedOf start stop records = selectedOf start stop (upTo stop records) := by
    cases stop with
    | none => rfl
    | some last =>
      conv_lhs => rw [← List.take_append_drop (last.toNat + 1) records]
      rw [selectedOf, List.filter_append]
      show selectedOf start (some last) _ ++ selectedOf start (some last) _ = _
      rw [selectedOf_nil_of_outside hframes (records.drop (last.toNat + 1))]
      · exact List.append_nil _
      · intro k record hrecord
        rw [List.getElem?_drop] at hrecord
        exact ⟨_, hrecord, Or.inr ⟨last, rfl, by omega⟩⟩
  have hindex : ∀ (k : Nat) (record : RawRecordEnvelopeV1), (upTo stop records)[k]? = some record →
      records[k]? = some record ∧ ∀ last ∈ stop, k ≤ last.toNat := by
    intro k record hrecord
    cases stop with
    | none => exact ⟨hrecord, fun last hlast => by cases hlast⟩
    | some last =>
      rw [upTo, List.getElem?_take] at hrecord
      split at hrecord
      · refine ⟨hrecord, fun other hother => ?_⟩
        cases hother
        omega
      · cases hrecord
  rw [hupTo]
  conv_lhs => rw [← List.take_append_drop start.toNat (upTo stop records)]
  rw [selectedOf, List.filter_append]
  show selectedOf start stop _ ++ selectedOf start stop _ = _
  rw [selectedOf_nil_of_outside hframes ((upTo stop records).take start.toNat)]
  · rw [List.nil_append, selectedOf, List.filter_eq_self]
    intro record hrecord
    obtain ⟨k, hk⟩ := List.mem_iff_getElem?.mp hrecord
    rw [List.getElem?_drop] at hk
    obtain ⟨hat, hle⟩ := hindex _ record hk
    have hframe := hframes _ record hat
    simp only [decide_not, Bool.not_eq_true', decide_eq_false_iff_not]
    rintro (hlow | hhigh)
    · have := UInt64.lt_iff_toNat_lt.mp hlow
      omega
    · obtain ⟨last, hlast, hlt⟩ := any_decide_eq_true.mp hhigh
      have := UInt64.lt_iff_toNat_lt.mp hlt
      have := hle last hlast
      omega
  · intro k record hrecord
    rw [List.getElem?_take] at hrecord
    split at hrecord
    · exact ⟨k, (hindex k record hrecord).1, Or.inl (by omega)⟩
    · cases hrecord

end

/-! ## One generation -/

/-- Where the replay stands before a generation: at its beginning without a trade, or behind the
    record of the last trade. -/
def Entered (codec : BookCodec) (g : GenerationSource) (start : UInt64) (previous : Option UInt64) :
    Prop :=
  (start = 0 ∧ previous = none) ∨
    ∃ (j : Nat) (record : RawRecordEnvelopeV1) (id : UInt64), start.toNat = j + 1 ∧
      g.records[j]? = some record ∧ tradeId? codec record = some id ∧ previous = some id

section

variable {codec : BookCodec} {g : GenerationSource} {start : UInt64} {stop previous : Option UInt64}

theorem upTo_sublist (stop : Option UInt64) (records : List RawRecordEnvelopeV1) :
    (upTo stop records).Sublist records := by
  cases stop with
  | none => exact List.Sublist.refl _
  | some last => exact List.take_sublist _ _

/-- The selected trades rise. -/
theorem selected_rising (hsound : Sound codec g) :
    (idsOf codec (selectedOf start stop g.records)).Pairwise (· < ·) :=
  hsound.rising.sublist (List.filter_sublist.filterMap _)

/-- And are above the trade the replay stands behind. -/
theorem selected_above (hsound : Sound codec g) (hentered : Entered codec g start previous) :
    ∀ id ∈ idsOf codec (selectedOf start stop g.records), ∀ old ∈ previous, old < id := by
  rintro id hid old hold
  rcases hentered with ⟨-, rfl⟩ | ⟨j, record, x, hstart, hat, hx, rfl⟩
  · cases hold
  · cases hold
    -- the selection lies behind record `j`
    have hsub : (selectedOf start stop g.records).Sublist (g.records.drop (j + 1)) := by
      rw [selectedOf_eq hsound.frames, hstart]
      exact (upTo_sublist stop g.records).drop _
    have hmem : id ∈ idsOf codec (g.records.drop (j + 1)) := (hsub.filterMap _).subset hid
    have hrising := hsound.rising
    rw [records_split hat, List.filterMap_append, List.filterMap_cons_some hx,
      List.pairwise_append, List.pairwise_cons] at hrising
    exact hrising.2.1.1 id hmem

theorem generation_visited {σ : Type} {sink : σ → UInt64 → UInt64 → RawRecordEnvelopeV1 → Result σ}
    (hsink : Takes sink) (hsound : Sound codec g) {s : Progress σ}
    (hentered : Entered codec g start s.previousTradeId) :
    ∃ s', g.visits.foldlM (visit codec sink g.index start stop) s = .ok s' ∧
      Visited codec (selectedOf start stop g.records) s s' := by
  have hvisits := g.visits_records
  have hread : ∀ x ∈ g.visits, Readable codec x.2 := fun x hx =>
    hsound.readable x.2 (hvisits ▸ List.mem_map_of_mem hx)
  have hrun := @foldlM_visited σ codec start stop sink hsink g.index g.visits hread s
    (by rw [hvisits]; exact selected_rising hsound)
    (by rw [hvisits]; exact selected_above hsound hentered)
  rw [hvisits] at hrun
  exact hrun

theorem selected_head (hsound : Sound codec g) {record : RawRecordEnvelopeV1}
    (h : (selectedOf start stop g.records).head? = some record) : record.frame.frameIndex = start := by
  rw [selectedOf_eq hsound.frames, List.head?_drop] at h
  have hat : g.records[start.toNat]? = some record := by
    cases stop with
    | none => exact h
    | some last =>
      rw [upTo, List.getElem?_take] at h
      split at h
      · exact h
      · cases h
  exact UInt64.toNat_inj.mp (hsound.frames _ _ hat)

/-- The selection up to the last trade of the generation: it ends there, or the replay stands
    there already. -/
theorem selected_last (hsound : Sound codec g) (hentered : Entered codec g start previous) {i : Nat}
    {record : RawRecordEnvelopeV1} (hat : g.records[i]? = some record) {y : UInt64}
    (hy : tradeId? codec record = some y)
    (hlast : ∀ r ∈ g.records.drop (i + 1), tradeId? codec r = none) {last : UInt64}
    (hframe : last.toNat = i) :
    ((selectedOf start (some last) g.records).getLast? = some record ∧
      (idsOf codec (selectedOf start (some last) g.records)).getLast? = some y) ∨
    (selectedOf start (some last) g.records = [] ∧ last < start ∧ previous = some y) := by
  have hsplit := records_split hat
  have hlength : i < g.records.length := (List.getElem?_eq_some_iff.mp hat).1
  have htake : upTo (some last) g.records = g.records.take i ++ [record] := by
    obtain ⟨hi, rfl⟩ := List.getElem?_eq_some_iff.mp hat
    rw [upTo, hframe, List.take_succ_eq_append_getElem hi]
  rw [selectedOf_eq hsound.frames, htake]
  by_cases hle : start.toNat ≤ i
  · left
    rw [List.drop_append_of_le_length (by rw [List.length_take]; omega)]
    refine ⟨List.getLast?_concat, ?_⟩
    rw [idsOf, List.filterMap_append, List.filterMap_cons_some hy, List.filterMap_nil,
      List.getLast?_concat]
  · right
    -- the replay stands behind the last trade, so at record `i`
    rcases hentered with ⟨rfl, -⟩ | ⟨j, other, x, hstart, hother, hx, rfl⟩
    · exact absurd (Nat.zero_le i) hle
    have hji : j = i := by
      by_contra hne
      have hmem : other ∈ g.records.drop (i + 1) := by
        rw [List.mem_iff_getElem?]
        refine ⟨j - (i + 1), ?_⟩
        rw [List.getElem?_drop, show i + 1 + (j - (i + 1)) = j by omega]
        exact hother
      rw [hlast other hmem] at hx
      cases hx
    subst hji
    rw [hother] at hat
    cases hat
    refine ⟨?_, UInt64.lt_iff_toNat_lt.mpr (by omega), hx.symm.trans hy⟩
    rw [List.drop_eq_nil_iff, List.length_append, List.length_take, List.length_singleton]
    omega

end

/-! ## Chains -/

structure Chain (codec : BookCodec) (generations : List GenerationSource)
    (proofs : List TradeOverlapEvidenceV1) : Prop where
  length : proofs.length + 1 = generations.length
  sound : ∀ g ∈ generations, Sound codec g
  proven : ∀ (p : Nat) (g g' : GenerationSource) (evidence : TradeOverlapEvidenceV1),
    generations[p]? = some g → generations[p + 1]? = some g' → proofs[p]? = some evidence →
      Proven codec g g' evidence

structure Ready {σ : Type} (codec : BookCodec) (proofs : List TradeOverlapEvidenceV1) (position : Nat)
    (g : GenerationSource) (s : Progress σ) : Prop where
  entered : ∃ start, startOf proofs position = .ok start ∧ Entered codec g start s.previousTradeId
  firstId : s.firstTradeId = none → s.previousTradeId = none
  counted : s.selectedRaw ≤ s.totalRaw

/-- The replay behind a generation with a trade. -/
structure Behind {σ : Type} (id : UInt64) (s : Progress σ) : Prop where
  previous : s.previousTradeId = some id
  firstId : s.firstTradeId ≠ none
  counted : s.selectedRaw ≤ s.totalRaw

section

variable {σ : Type} {codec : BookCodec}
  {sink : σ → UInt64 → UInt64 → RawRecordEnvelopeV1 → Result σ}
  {generations : List GenerationSource} {proofs : List TradeOverlapEvidenceV1}
  {g' : GenerationSource} {evidence : TradeOverlapEvidenceV1} {i j : Nat}

variable {position : Nat} {g : GenerationSource} {s : Progress σ}

theorem replayGeneration_ok (hsink : Takes sink) (hsound : Sound codec g)
    (hready : Ready codec proofs position g s) {start : UInt64}
    (hstart : startOf proofs position = .ok start)
    (hentered : Entered codec g start s.previousTradeId) {stop : Option UInt64}
    (hstop : proofs[position]?.map (fun proof => proof.predecessorNextShared.frameIndex) = stop)
    {id : UInt64}
    (harrive : ∀ s' : Progress σ, Visited codec (selectedOf start stop g.records) s.enter s' →
      validSelectedTradeRange start stop s'.firstSelected s'.lastSelected = true ∧
        (∀ proof ∈ proofs[position]?, ¬ missesBoundary proof s') ∧ s'.previousTradeId = some id) :
    ∃ s', replayGeneration codec sink proofs position g s = .ok s' ∧ Behind id s' := by
  subst hstop
  obtain ⟨s', hs', hvisited⟩ := @generation_visited codec g start
    (proofs[position]?.map fun proof => proof.predecessorNextShared.frameIndex) σ sink hsink hsound
    s.enter hentered
  obtain ⟨hvalid, hboundary, hprevious⟩ := harrive s' hvisited
  have hfirst : s'.firstTradeId ≠ none := by
    intro hnone
    rw [hvisited.firstId, Option.or_eq_none_iff] at hnone
    have hids : idsOf codec (selectedOf start _ g.records) = [] := List.head?_eq_none_iff.mp hnone.2
    rw [hvisited.previous, hids, List.getLast?_nil, Option.none_or] at hprevious
    exact Option.some_ne_none id (hprevious.symm.trans (hready.firstId hnone.1))
  unfold replayGeneration
  rw [hstart]
  show ∃ s', (g.visits.foldlM (visit codec sink g.index start _) _ >>= _) = Except.ok s' ∧ _
  rw [hs']
  show ∃ s', (if validSelectedTradeRange start _ _ _ = false then _ else _) = Except.ok s' ∧ _
  rw [if_neg (by rw [hvalid]; exact Bool.noConfusion), if_neg (by
    rintro ⟨proof, hproof, hmisses⟩
    exact hboundary proof hproof hmisses), hprevious]
  exact ⟨_, rfl, rfl, hfirst, hvisited.counted hready.counted⟩

theorem replayGeneration_proven (hsink : Takes sink) (hsound : Sound codec g)
    (hready : Ready codec proofs position g s) (hproof : proofs[position]? = some evidence)
    (hcut : Cut codec g g' evidence i j) :
    ∃ s', replayGeneration codec sink proofs position g s = .ok s' ∧
      Behind evidence.nextSharedTradeId s' := by
  obtain ⟨record, hat, hsha, hid⟩ := hcut.predecessor
  obtain ⟨start, hstart, hentered⟩ := hready.entered
  refine replayGeneration_ok hsink hsound hready hstart hentered
    (by rw [hproof, Option.map_some]) fun s' hvisited => ?_
  have hframe : record.frame.frameIndex = evidence.predecessorNextShared.frameIndex :=
    UInt64.toNat_inj.mp ((hsound.frames _ _ hat).trans hcut.predecessor_frame.symm)
  have hlastSelected := hvisited.last
  have hlastSha := hvisited.sha
  have hprevious := hvisited.previous
  have hfirst := hvisited.first
  rcases selected_last hsound hentered hat hid hcut.last hcut.predecessor_frame with
    ⟨hlast, hids⟩ | ⟨hempty, hlt, hold⟩
  · -- the selection runs from the first frame to the boundary
    obtain ⟨head, hhead⟩ : ∃ head, (selectedOf start _ g.records).head? = some head :=
      Option.ne_none_iff_exists'.mp
        (fun hnone => List.ne_nil_of_mem (List.mem_of_getLast? hlast) (List.head?_eq_none_iff.mp hnone))
    rw [hhead, Option.map_some, selected_head hsound hhead] at hfirst
    rw [hlast, Option.map_some, hframe, Option.some_or] at hlastSelected
    rw [hlast, Option.map_some, hsha, Option.some_or] at hlastSha
    rw [hids, Option.some_or] at hprevious
    refine ⟨?_, ?_, hprevious⟩
    · rw [hfirst, hlastSelected]
      simp [validSelectedTradeRange, Progress.enter]
    · intro proof hmem
      rw [hproof] at hmem
      cases hmem
      rintro (hmisses | hmisses)
      · exact hmisses (Or.inr hlastSha)
      · exact hmisses hprevious
  · -- nothing is selected, and the replay stands at the boundary already
    rw [hempty] at hfirst hlastSelected hlastSha hprevious
    have hkept : s'.previousTradeId = some evidence.nextSharedTradeId := hprevious.trans hold
    refine ⟨?_, ?_, hkept⟩
    · rw [hfirst, hlastSelected]
      simp [validSelectedTradeRange, Progress.enter, hlt]
    · intro proof hmem
      rw [hproof] at hmem
      cases hmem
      rintro (hmisses | hmisses)
      · exact hmisses (Or.inl hlastSelected)
      · exact hmisses hkept

theorem replayGeneration_last (hsink : Takes sink) (hsound : Sound codec g)
    (hready : Ready codec proofs position g s) (hproof : proofs[position]? = none)
    (hmet : s.previousTradeId ≠ none ∨ (position = 0 ∧ idsOf codec g.records ≠ [])) :
    ∃ id s', replayGeneration codec sink proofs position g s = .ok s' ∧ Behind id s' := by
  obtain ⟨start, hstart, hentered⟩ := hready.entered
  -- the trade it arrives at
  have hsome : ((idsOf codec (selectedOf start none g.records)).getLast?.or s.previousTradeId) ≠ none := by
    intro hnone
    obtain ⟨hids, hnone⟩ := Option.or_eq_none_iff.mp hnone
    rcases hmet with hmet | ⟨rfl, hmet⟩
    · exact hmet hnone
    · obtain rfl : 0 = start := Except.ok.inj hstart
      rw [selectedOf_eq hsound.frames] at hids
      exact hmet (List.getLast?_eq_none_iff.mp hids)
  obtain ⟨id, hid⟩ := Option.ne_none_iff_exists'.mp hsome
  refine ⟨id, replayGeneration_ok hsink hsound hready hstart hentered
    (by rw [hproof, Option.map_none]) fun s' hvisited => ⟨?_, ?_, hvisited.previous.trans hid⟩⟩
  · have hfirst := hvisited.first
    have hlast := hvisited.last
    cases hselected : selectedOf start none g.records with
    | nil =>
      rw [hselected] at hfirst hlast
      rw [hfirst, hlast]
      simp [validSelectedTradeRange, Progress.enter]
    | cons head rest =>
      have hhead := @selected_head codec g start none hsound head (by rw [hselected]; rfl)
      obtain ⟨last, hend⟩ := Option.ne_none_iff_exists'.mp
        (fun hnone : (head :: rest).getLast? = none => by simp at hnone)
      rw [hselected, List.head?_cons, Option.map_some, hhead] at hfirst
      rw [hselected, hend, Option.map_some, Option.some_or] at hlast
      rw [hfirst, hlast]
      simp [validSelectedTradeRange, Progress.enter]
  · intro proof hmem
    rw [hproof] at hmem
    cases hmem

/-- The first frame behind a handover. -/
theorem startOf_cut {position : Nat} {g g' : GenerationSource} {evidence : TradeOverlapEvidenceV1}
    (hproof : proofs[position]? = some evidence) {i j : Nat} (hcut : Cut codec g g' evidence i j) :
    ∃ start, startOf proofs (position + 1) = .ok start ∧ start.toNat = j + 1 := by
  have hlt := hcut.successor_lt
  have hframe := hcut.successor_frame
  refine ⟨evidence.successorNextShared.frameIndex + 1, ?_, ?_⟩
  · rw [startOf, hproof]
    refine if_neg fun hmax => ?_
    rw [hmax, maxU64_toNat, u64Max] at hframe
    omega
  · rw [UInt64.toNat_add, hframe]
    exact Nat.mod_eq_of_lt (Nat.lt_trans (Nat.succ_lt_succ hlt) (by decide))

/-- A handover leaves the replay ready for the successor. -/
theorem ready_of_cut (hproof : proofs[position]? = some evidence)
    (hcut : Cut codec g g' evidence i j) (hbehind : Behind evidence.nextSharedTradeId s) :
    Ready codec proofs (position + 1) g' s := by
  obtain ⟨record, hat, hid⟩ := hcut.successor
  obtain ⟨start, hstart, hframe⟩ := startOf_cut hproof hcut
  exact ⟨⟨start, hstart, Or.inr ⟨j, record, _, hframe, hat, hid, hbehind.previous⟩⟩,
    fun hnone => absurd hnone hbehind.firstId, hbehind.counted⟩

/-- **Run.** The rest of a chain, by induction on its generations. -/
theorem replayLoop_ok (hsink : Takes sink) (hchain : Chain codec generations proofs)
    {rest : List GenerationSource} (hrest : generations.drop position = rest)
    (hhead : rest.head? = some g) (hready : Ready codec proofs position g s)
    (hmet : rest.length = 1 → s.previousTradeId ≠ none ∨ (position = 0 ∧ idsOf codec g.records ≠ [])) :
    ∃ id s', replayLoop codec sink proofs position rest s = .ok s' ∧ Behind id s' := by
  induction rest generalizing position g s with
  | nil => cases hhead
  | cons first rest ih =>
    obtain rfl : first = g := Option.some.inj hhead
    have hat : generations[position]? = some first := by
      rw [← List.head?_drop, hrest]
      rfl
    have hsound := hchain.sound first (List.mem_of_getElem? hat)
    have hlength := congrArg List.length hrest
    rw [List.length_drop, List.length_cons, ← hchain.length] at hlength
    cases rest with
    | nil =>
      -- no proof leads away from the last generation
      have hnone : proofs[position]? = none := List.getElem?_eq_none (by
        rw [List.length_nil] at hlength
        omega)
      obtain ⟨id, s', hs', hbehind⟩ := replayGeneration_last hsink hsound hready hnone (hmet rfl)
      refine ⟨id, s', ?_, hbehind⟩
      rw [replayLoop, hs']
      rfl
    | cons next rest =>
      have hnext : generations.drop (position + 1) = next :: rest := by
        rw [← List.drop_drop, hrest]
        rfl
      have hatNext : generations[position + 1]? = some next := by
        rw [← List.head?_drop, hnext]
        rfl
      rw [List.length_cons] at hlength
      obtain ⟨evidence, hproof⟩ : ∃ evidence, proofs[position]? = some evidence :=
        ⟨_, List.getElem?_eq_getElem (by omega)⟩
      obtain ⟨i, j, hcut⟩ := cut_of_proven hsound
        (hchain.sound next (List.mem_of_getElem? hatNext))
        (hchain.proven position first next evidence hat hatNext hproof)
      obtain ⟨mid, hmid, hbehind⟩ := replayGeneration_proven hsink hsound hready hproof hcut
      obtain ⟨id, s', hs', hend⟩ := ih hnext rfl (ready_of_cut hproof hcut hbehind) (fun _ =>
        Or.inl (by rw [hbehind.previous]; exact Option.some_ne_none _))
      refine ⟨id, s', ?_, hend⟩
      rw [replayLoop, hmid]
      exact hs'

theorem exists_trade (hchain : Chain codec generations proofs) (htwo : 2 ≤ generations.length) :
    ∃ g ∈ generations, idsOf codec g.records ≠ [] := by
  have hlength := hchain.length
  have hat : generations[0]? = some generations[0] := List.getElem?_eq_getElem (by omega)
  have hat' : generations[0 + 1]? = some generations[0 + 1] := List.getElem?_eq_getElem (by omega)
  have hproof : proofs[0]? = some proofs[0] := List.getElem?_eq_getElem (by omega)
  obtain ⟨i, j, hcut⟩ := cut_of_proven (hchain.sound _ (List.mem_of_getElem? hat))
    (hchain.sound _ (List.mem_of_getElem? hat')) (hchain.proven 0 _ _ _ hat hat' hproof)
  obtain ⟨record, hrecord, -, hid⟩ := hcut.predecessor
  exact ⟨_, List.mem_of_getElem? hat,
    List.ne_nil_of_mem (List.mem_filterMap.mpr ⟨record, List.mem_of_getElem? hrecord, hid⟩)⟩

theorem replayTrades_ok (hsink : Takes sink) (hchain : Chain codec generations proofs)
    (htrade : ∃ g ∈ generations, idsOf codec g.records ≠ []) (taken : σ) :
    ∃ report, replayTrades codec sink generations proofs taken = .ok report := by
  have hlength := hchain.length
  obtain ⟨first, rest, rfl⟩ := List.exists_cons_of_length_pos (show 0 < generations.length by omega)
  have hmet : (first :: rest).length = 1 → idsOf codec first.records ≠ [] := by
    intro hone
    obtain ⟨g, hg, htrade⟩ := htrade
    obtain rfl : rest = [] := List.eq_nil_of_length_eq_zero (Nat.succ.inj hone)
    rwa [List.mem_singleton.mp hg] at htrade
  obtain ⟨id, s, hs, hbehind⟩ : ∃ id s,
      replayLoop codec sink proofs 0 (first :: rest) { sink := taken } = .ok s ∧ Behind id s :=
    replayLoop_ok hsink hchain List.drop_zero rfl
      ⟨⟨0, rfl, Or.inl ⟨rfl, rfl⟩⟩, fun _ => rfl, Nat.le_refl _⟩
      (fun hone => Or.inr ⟨rfl, hmet hone⟩)
  obtain ⟨firstId, hfirstId⟩ := Option.ne_none_iff_exists'.mp hbehind.firstId
  unfold replayTrades
  rw [hs]
  show ∃ report, (excluded s.totalRaw s.selectedRaw >>= _) = Except.ok report
  rw [excluded, if_neg (Nat.not_lt.mpr hbehind.counted)]
  show ∃ report, (okOr s.firstTradeId _ >>= _) = Except.ok report
  rw [hfirstId]
  show ∃ report, (okOr s.previousTradeId _ >>= _) = Except.ok report
  rw [hbehind.previous]
  exact ⟨_, rfl⟩

theorem replayGeneration_without_trade (hsink : Takes sink) (hsound : Sound codec g)
    (hnone : idsOf codec g.records = []) (taken : σ) (s' : Progress σ) :
    replayGeneration codec sink proofs 0 g { sink := taken } ≠ .ok s' := by
  intro h
  obtain ⟨start, hstart, h⟩ := bind_eq_ok.mp h
  obtain rfl : 0 = start := Except.ok.inj hstart
  obtain ⟨s, hs, h⟩ := bind_eq_ok.mp h
  obtain ⟨other, hother, hvisited⟩ := @generation_visited codec g 0
    (proofs[0]?.map fun proof => proof.predecessorNextShared.frameIndex) σ sink hsink hsound
    (Progress.enter { sink := taken }) (Or.inl ⟨rfl, rfl⟩)
  obtain rfl : other = s := Except.ok.inj (hother.symm.trans hs)
  have hprevious := hvisited.previous
  have hids : ∀ stop, idsOf codec (selectedOf 0 stop g.records) = [] := by
    intro stop
    rw [← List.sublist_nil, ← hnone]
    exact List.filter_sublist.filterMap _
  rw [hids] at hprevious
  obtain ⟨-, h⟩ := ite_err_eq_ok.mp h
  obtain ⟨-, h⟩ := ite_err_eq_ok.mp h
  obtain ⟨id, hid, -⟩ := bind_eq_ok.mp h
  rw [hprevious] at hid
  cases okOr_eq_ok.mp hid

/-- **Main theorem.** A proven chain replays if and only if it has a trade; a chain of two or more
    generations always has one. -/
theorem chain_replays_iff (hsink : Takes sink) (hchain : Chain codec generations proofs) (taken : σ) :
    ((∃ report, replayTrades codec sink generations proofs taken = .ok report) ↔
      ∃ g ∈ generations, idsOf codec g.records ≠ []) ∧
    (2 ≤ generations.length →
      ∃ report, replayTrades codec sink generations proofs taken = .ok report) := by
  refine ⟨⟨?_, fun htrade => replayTrades_ok hsink hchain htrade taken⟩,
    fun htwo => replayTrades_ok hsink hchain (exists_trade hchain htwo) taken⟩
  rintro ⟨report, hreport⟩
  by_contra hnone
  have hlength := hchain.length
  have hone : generations.length = 1 := by
    have hlt : ¬ 2 ≤ generations.length := fun htwo => hnone (exists_trade hchain htwo)
    omega
  obtain ⟨g, rfl⟩ := List.length_eq_one_iff.mp hone
  obtain ⟨s, hs, -⟩ := bind_eq_ok.mp hreport
  obtain ⟨s', hs', -⟩ := bind_eq_ok.mp hs
  have hids : idsOf codec g.records = [] := by
    by_contra hsome
    exact hnone ⟨g, List.mem_cons_self, hsome⟩
  exact replayGeneration_without_trade hsink (hchain.sound g List.mem_cons_self) hids taken s' hs'

end

def noSink (_ : Unit) (_ _ : UInt64) (_ : RawRecordEnvelopeV1) : Result Unit := .ok ()

theorem noSink_takes : Takes noSink := fun _ _ _ _ => ⟨(), rfl⟩

/-- The chain of the sample handover replays. -/
theorem sample_chain_replays :
    ∃ report, replayTrades handoverCodec noSink [samplePredecessor, sampleSuccessor]
      [sampleEvidence] () = .ok report := by
  have hchain : Chain handoverCodec [samplePredecessor, sampleSuccessor] [sampleEvidence] := by
    refine ⟨rfl, ?_, ?_⟩
    · exact List.forall_mem_cons.mpr
        ⟨samplePredecessor_sound, List.forall_mem_singleton.mpr sampleSuccessor_sound⟩
    · intro p g g' evidence hg hg' hproof
      match p with
      | 0 =>
        cases hg
        cases hg'
        cases hproof
        exact sampleEvidence_proven
      | p + 1 => cases hproof
  exact (chain_replays_iff noSink_takes hchain ()).2 (Nat.le_refl 2)

/-- A generation with a control frame and no trade. -/
def quietGeneration : GenerationSource where
  index := 0
  sessionId := "A"
  trade := [⟨0, [sampleRecord "a" 0 "a-0" sampleShutdown], by decide⟩]

/-- As a chain of its own it does not replay. -/
theorem quiet_chain_is_refused :
    Chain handoverCodec [quietGeneration] [] ∧
      replayTrades handoverCodec noSink [quietGeneration] [] ()
        = err "trade replay contains no market event" := by
  have hclass : classify handoverCodec (sampleRecord "a" 0 "a-0" sampleShutdown) = .ok none := by
    decide +kernel
  have hrecords : quietGeneration.records = [sampleRecord "a" 0 "a-0" sampleShutdown] := rfl
  refine ⟨⟨rfl, List.forall_mem_singleton.mpr ⟨?_, ?_, ?_⟩, ?_⟩, by decide +kernel⟩
  · intro k record hrecord
    match k with
    | 0 => cases hrecord; rfl
  · rw [hrecords]
    exact List.forall_mem_singleton.mpr ⟨none, hclass⟩
  · rw [hrecords, List.filterMap_cons_none (by rw [tradeId?, event?_of_classify hclass]; rfl)]
    exact List.Pairwise.nil
  · intro p g g' evidence _ _ hproof
    cases hproof

end LobReplay.Replay
