/-
  What an accepted selection is. Every input observation has one fate: it is selected, excluded as
  overlap by its frame index, or excluded as a duplicate of the observation selected before it.
  `selectLoop_spec` follows the fates of the candidates through the selection loop, `weave` puts the
  overlap back in between; the selected sequences connect, so that nothing between their ends is
  uncovered.
-/

import LobReplay.Boundary.Selection
import Mathlib.Data.List.Chain

namespace LobReplay.Boundary

open Foundation

/-! ## Fates -/

/-- What becomes of an input observation. -/
inductive Fate where
  | selected
  | overlap
  | duplicate
  deriving DecidableEq

def withFate (fate : Fate) (fates : List (CanonicalObservationV1 × Fate)) :
    List CanonicalObservationV1 :=
  (fates.filter fun entry => entry.2 = fate).map (·.1)

@[simp] theorem withFate_nil (fate : Fate) : withFate fate [] = [] := rfl

theorem withFate_cons (fate : Fate) (entry : CanonicalObservationV1 × Fate)
    (rest : List (CanonicalObservationV1 × Fate)) :
    withFate fate (entry :: rest)
      = (if entry.2 = fate then [entry.1] else []) ++ withFate fate rest := by
  unfold withFate
  by_cases h : entry.2 = fate <;> simp [h]

theorem withFate_append (fate : Fate) (xs ys : List (CanonicalObservationV1 × Fate)) :
    withFate fate (xs ++ ys) = withFate fate xs ++ withFate fate ys := by
  unfold withFate
  rw [List.filter_append, List.map_append]

variable {fates : List (CanonicalObservationV1 × Fate)} {observation : CanonicalObservationV1}
  {duplicates : Nat} {result : List CanonicalObservationV1 × Nat} {epoch : String}
  {predecessor successor : List CanonicalObservationV1} {selection : CanonicalSelectionV1}

theorem mem_withFate {fate : Fate} :
    observation ∈ withFate fate fates ↔ (observation, fate) ∈ fates := by
  simp [withFate]

/-- Every entry has exactly one of the three fates. -/
theorem withFate_length (fates : List (CanonicalObservationV1 × Fate)) :
    (withFate .selected fates).length + (withFate .overlap fates).length
      + (withFate .duplicate fates).length = fates.length := by
  induction fates with
  | nil => rfl
  | cons entry rest ih =>
    obtain ⟨observation, fate⟩ := entry
    rw [withFate_cons, withFate_cons, withFate_cons, List.length_cons]
    cases fate <;> simp <;> omega

theorem withFate_sublist (fate : Fate) (fates : List (CanonicalObservationV1 × Fate)) :
    (withFate fate fates).Sublist (fates.map (·.1)) :=
  List.filter_sublist.map _

theorem weave (kept : CanonicalObservationV1 → Bool) (observations : List CanonicalObservationV1)
    (hfates : fates.map (·.1) = observations.filter kept) (hnone : withFate .overlap fates = []) :
    ∃ all, all.map (·.1) = observations ∧
      withFate .selected all = withFate .selected fates ∧
      withFate .duplicate all = withFate .duplicate fates ∧
      withFate .overlap all = observations.filter (!kept ·) := by
  induction observations generalizing fates with
  | nil =>
    rw [List.filter_nil, List.map_eq_nil_iff] at hfates
    subst hfates
    exact ⟨[], rfl, rfl, rfl, rfl⟩
  | cons observation rest ih =>
    by_cases hkept : kept observation = true
    · rw [List.filter_cons_of_pos hkept] at hfates
      cases fates with
      | nil => cases hfates
      | cons entry fates =>
        rw [List.map_cons, List.cons.injEq] at hfates
        obtain ⟨hentry, hfates⟩ := hfates
        rw [withFate_cons, List.append_eq_nil_iff] at hnone
        obtain ⟨all, hall, hselected, hduplicate, hoverlap⟩ := ih hfates hnone.2
        refine ⟨entry :: all, ?_, ?_, ?_, ?_⟩
        · rw [List.map_cons, hentry, hall]
        · rw [withFate_cons, withFate_cons, hselected]
        · rw [withFate_cons, withFate_cons, hduplicate]
        · rw [withFate_cons, hnone.1, hoverlap, List.filter_cons_of_neg (by simp [hkept]),
            List.nil_append]
    · rw [List.filter_cons_of_neg hkept] at hfates
      obtain ⟨all, hall, hselected, hduplicate, hoverlap⟩ := ih hfates hnone
      refine ⟨(observation, .overlap) :: all, ?_, ?_, ?_, ?_⟩
      · rw [List.map_cons, hall]
      · rw [withFate_cons, hselected]
        rfl
      · rw [withFate_cons, hduplicate]
        rfl
      · rw [withFate_cons, hoverlap, List.filter_cons_of_pos (by simp [hkept])]
        rfl

/-! ## The selection loop -/

/-- The later observation connects to the earlier one: no sequence between them is left out and
    the later one reaches further; a trade is the very next one. -/
def Connects (kind : BoundaryStreamKind) (earlier later : CanonicalObservationV1) : Prop :=
  later.firstSequence.toNat ≤ earlier.finalSequence.toNat + 1 ∧
  earlier.finalSequence.toNat < later.finalSequence.toNat ∧
  (kind = .trade → later.firstSequence.toNat = earlier.finalSequence.toNat + 1 ∧
    later.finalSequence.toNat = earlier.finalSequence.toNat + 1)

def Duplicates (observation selected : CanonicalObservationV1) : Prop :=
  observation.finalSequence = selected.finalSequence ∧
    observation.observationSha256 = selected.observationSha256

variable {kind : BoundaryStreamKind} {selected : List CanonicalObservationV1}
  {boundary : HandoverBoundaryV1}

/-- **Step.** A candidate is selected and connects to the last selected one, or duplicates it. -/
theorem selectLoop_cons_eq_ok {rest : List CanonicalObservationV1}
    (h : selectLoop kind (observation :: rest) selected duplicates = .ok result) :
    (selectLoop kind rest (selected ++ [observation]) duplicates = .ok result ∧
      ∀ previous, selected.getLast? = some previous → Connects kind previous observation) ∨
    (∃ previous, selected.getLast? = some previous ∧ Duplicates observation previous ∧
      selectLoop kind rest selected (duplicates + 1) = .ok result) := by
  unfold selectLoop at h
  cases hlast : selected.getLast? with
  | none =>
    rw [hlast] at h
    exact Or.inl ⟨h, fun previous hprevious => nomatch hprevious⟩
  | some previous =>
    rw [hlast] at h
    obtain ⟨next, hnext, h⟩ := bind_eq_ok.mp h
    rw [okOr_eq_ok] at hnext
    have hnext : next = previous.finalSequence.toNat + 1 := by
      unfold checkedAdd at hnext
      split at hnext
      · exact (Option.some.inj hnext).symm
      · cases hnext
    subst hnext
    by_cases hstale : observation.finalSequence.toNat < previous.finalSequence.toNat + 1
    · rw [if_pos hstale] at h
      by_cases hsame : observation.finalSequence = previous.finalSequence ∧
          observation.observationSha256 = previous.observationSha256
      · rw [if_pos hsame] at h
        obtain ⟨count, hcount, h⟩ := bind_eq_ok.mp h
        unfold increment at hcount
        split at hcount
        · cases hcount
          exact Or.inr ⟨previous, rfl, hsame, h⟩
        · cases hcount
      · rw [if_neg hsame] at h
        cases h
    · rw [if_neg hstale, ite_err_eq_ok, ite_err_eq_ok] at h
      obtain ⟨hgap, htrade, h⟩ := h
      refine Or.inl ⟨h, ?_⟩
      intro p hp
      cases hp
      refine ⟨Nat.le_of_not_lt hgap, by omega, ?_⟩
      intro hkind
      by_contra hnot
      exact htrade ⟨hkind, by omega⟩

/-- **Selection.** The loop decides the fate of every candidate: what it selects connects, what
    it drops duplicates a selected observation. -/
theorem selectLoop_spec (candidates : List CanonicalObservationV1)
    (h : selectLoop kind candidates selected duplicates = .ok result)
    (hchain : selected.IsChain (Connects kind)) :
    ∃ fates, fates.map (·.1) = candidates ∧ withFate .overlap fates = [] ∧
      result.1 = selected ++ withFate .selected fates ∧
      result.2 = duplicates + (withFate .duplicate fates).length ∧
      (∀ observation ∈ withFate .duplicate fates, ∃ s ∈ result.1, Duplicates observation s) ∧
      result.1.IsChain (Connects kind) := by
  induction candidates generalizing selected duplicates with
  | nil =>
    cases h
    refine ⟨[], rfl, rfl, (List.append_nil _).symm, rfl, ?_, hchain⟩
    intro observation hmem
    cases hmem
  | cons observation rest ih =>
    rcases selectLoop_cons_eq_ok h with ⟨h, hconnects⟩ | ⟨previous, hlast, hduplicates, h⟩
    · -- the candidate is selected
      have hchain' : (selected ++ [observation]).IsChain (Connects kind) := by
        rw [List.isChain_append]
        refine ⟨hchain, List.isChain_singleton _, ?_⟩
        intro previous hprevious later hlater
        cases hlater
        exact hconnects previous hprevious
      obtain ⟨fates, hfates, hoverlap, hselected, hcount, hdup, hresult⟩ := ih h hchain'
      refine ⟨(observation, .selected) :: fates, ?_, ?_, ?_, ?_, ?_, hresult⟩
      · rw [List.map_cons, hfates]
      · rw [withFate_cons, hoverlap]
        rfl
      · rw [withFate_cons, hselected, List.append_assoc]
        rfl
      · rw [withFate_cons, hcount]
        rfl
      · rw [withFate_cons]
        exact hdup
    · -- the candidate repeats the last selected one
      obtain ⟨fates, hfates, hoverlap, hselected, hcount, hdup, hresult⟩ := ih h hchain
      refine ⟨(observation, .duplicate) :: fates, ?_, ?_, ?_, ?_, ?_, hresult⟩
      · rw [List.map_cons, hfates]
      · rw [withFate_cons, hoverlap]
        rfl
      · rw [withFate_cons, hselected]
        rfl
      · rw [withFate_cons, hcount, List.length_append]
        show duplicates + 1 + _ = duplicates + (1 + _)
        omega
      · rw [withFate_cons]
        intro dropped hdropped
        rcases List.mem_append.mp hdropped with hdropped | hdropped
        · rw [if_pos rfl, List.mem_singleton] at hdropped
          subst hdropped
          refine ⟨previous, ?_, hduplicates⟩
          rw [hselected]
          exact List.mem_append_left _ (List.mem_of_getLast? hlast)
        · exact hdup dropped hdropped

/-- The loop over two lists runs the second from where the first ended. -/
theorem selectLoop_append (kind : BoundaryStreamKind) (xs ys : List CanonicalObservationV1)
    (selected : List CanonicalObservationV1) (duplicates : Nat) :
    selectLoop kind (xs ++ ys) selected duplicates
      = (selectLoop kind xs selected duplicates >>= fun r => selectLoop kind ys r.1 r.2) := by
  induction xs generalizing selected duplicates with
  | nil => rfl
  | cons observation xs ih =>
    rw [List.cons_append, selectLoop, selectLoop]
    cases selected.getLast? with
    | none => exact ih _ _
    | some previous =>
      dsimp only
      rw [bind_assoc]
      congr 1
      funext next
      split
      · split
        · rw [bind_assoc]
          congr 1
          funext count
          exact ih _ _
        · rfl
      · split
        · rfl
        · split
          · rfl
          · exact ih _ _

theorem pairwise_of_isChain (hchain : selected.IsChain (Connects kind)) :
    selected.Pairwise fun a b => a.finalSequence.toNat < b.finalSequence.toNat := by
  have htrans : selected.IsChain fun a b => a.finalSequence.toNat < b.finalSequence.toNat :=
    hchain.imp fun _ _ h => h.2.1
  have : IsTrans CanonicalObservationV1
      (fun a b => a.finalSequence.toNat < b.finalSequence.toNat) := ⟨fun _ _ _ => Nat.lt_trans⟩
  exact htrans.pairwise

theorem covered_of_isChain (hchain : selected.IsChain (Connects kind))
    (hrange : ∀ o ∈ selected, o.firstSequence.toNat ≤ o.finalSequence.toNat)
    {first last : CanonicalObservationV1} (hfirst : selected.head? = some first)
    (hlast : selected.getLast? = some last) {q : Nat} (hge : first.firstSequence.toNat ≤ q)
    (hle : q ≤ last.finalSequence.toNat) :
    ∃ o ∈ selected, o.firstSequence.toNat ≤ q ∧ q ≤ o.finalSequence.toNat := by
  induction selected generalizing first with
  | nil => cases hfirst
  | cons head rest ih =>
    cases hfirst
    by_cases hhead : q ≤ head.finalSequence.toNat
    · exact ⟨head, List.mem_cons_self, hge, hhead⟩
    cases rest with
    | nil =>
      cases hlast
      exact absurd hle hhead
    | cons next rest =>
      rw [List.isChain_cons_cons] at hchain
      have hnext : next.firstSequence.toNat ≤ q := by
        have := hchain.1.1
        omega
      obtain ⟨o, ho, hcover⟩ := ih hchain.2 (fun o ho => hrange o (List.mem_cons_of_mem _ ho)) rfl
        (by rw [← hlast, List.getLast?_cons_cons]) hnext
      exact ⟨o, List.mem_cons_of_mem _ ho, hcover⟩

/-! ## The validated sources -/

/-- What `validate_observations` checked of each observation of a source. -/
structure OfSource (boundary : HandoverBoundaryV1) (epoch : String)
    (observation : CanonicalObservationV1) : Prop where
  epoch_eq : observation.connectionEpoch = epoch
  range : observation.firstSequence.toNat ≤ observation.finalSequence.toNat

theorem validateLoop_spec (observations : List CanonicalObservationV1) {previous : Option UInt64}
    (h : validateLoop boundary epoch observations previous = .ok ()) :
    (∀ o ∈ observations, OfSource boundary epoch o) ∧
    observations.IsChain (fun a b => b.frameIndex.toNat = a.frameIndex.toNat + 1) ∧
    ∀ frame, previous = some frame → ∀ o, observations.head? = some o →
      o.frameIndex.toNat = frame.toNat + 1 := by
  induction observations generalizing previous with
  | nil =>
    refine ⟨?_, List.isChain_nil, ?_⟩
    · intro o ho
      cases ho
    · intro frame _ o ho
      cases ho
  | cons observation rest ih =>
    unfold validateLoop at h
    rw [ite_err_eq_ok] at h
    obtain ⟨hidentity, h⟩ := h
    simp only [not_or, not_not] at hidentity
    obtain ⟨-, -, -, hepoch, hrange⟩ := hidentity
    obtain ⟨⟨⟩, -, h⟩ := bind_eq_ok.mp h
    obtain ⟨⟨⟩, -, h⟩ := bind_eq_ok.mp h
    obtain ⟨⟨⟩, hframe, h⟩ := bind_eq_ok.mp h
    obtain ⟨hsource, hchain, hnext⟩ := ih h
    refine ⟨?_, ?_, ?_⟩
    · intro o ho
      rcases List.mem_cons.mp ho with rfl | ho
      · exact ⟨hepoch, UInt64.le_iff_toNat_le.mp (UInt64.not_lt.mp hrange)⟩
      · exact hsource o ho
    · rw [List.isChain_cons]
      refine ⟨?_, hchain⟩
      intro next hhead
      exact hnext _ rfl next hhead
    · intro frame hprevious o ho
      cases ho
      subst hprevious
      obtain ⟨next, hincrement, hframe⟩ := bind_eq_ok.mp hframe
      rw [ite_err_eq_ok, not_not] at hframe
      rw [hframe.1]
      unfold increment at hincrement
      split at hincrement
      · exact (Except.ok.inj hincrement).symm
      · cases hincrement

theorem validateObservations_spec {observations : List CanonicalObservationV1}
    (h : validateObservations boundary observations epoch = .ok ()) :
    (∀ o ∈ observations, OfSource boundary epoch o) ∧
    observations.Pairwise fun a b => a.frameIndex.toNat < b.frameIndex.toNat := by
  unfold validateObservations at h
  rw [ite_err_eq_ok] at h
  obtain ⟨hsource, hchain, -⟩ := validateLoop_spec observations h.2
  refine ⟨hsource, ?_⟩
  have : IsTrans CanonicalObservationV1
      (fun a b => a.frameIndex.toNat < b.frameIndex.toNat) := ⟨fun _ _ _ => Nat.lt_trans⟩
  apply List.IsChain.pairwise
  exact hchain.imp fun a b (heq : b.frameIndex.toNat = a.frameIndex.toNat + 1) => by omega

/-! ## Accepted selections -/

structure Accepted (boundary : HandoverBoundaryV1)
    (predecessor successor : List CanonicalObservationV1) (selection : CanonicalSelectionV1)
    (before after : List CanonicalObservationV1 × Nat) : Prop where
  epochs : boundary.predecessorEpoch ≠ boundary.successorEpoch
  predecessor_valid : validateObservations boundary predecessor boundary.predecessorEpoch = .ok ()
  successor_valid : validateObservations boundary successor boundary.successorEpoch = .ok ()
  /-- The predecessor's part of the selection loop. -/
  before_eq : selectLoop boundary.streamKind (predecessor.filter (keptOfPredecessor boundary)) [] 0
    = .ok before
  /-- The successor's part of it. -/
  after_eq : selectLoop boundary.streamKind (successor.filter (keptOfSuccessor boundary)) before.1
    before.2 = .ok after
  last_predecessor : ∀ o, after.1.reverse.find? (fun item =>
    item.connectionEpoch == boundary.predecessorEpoch) = some o →
    o.finalSequence = boundary.boundarySequence
  selected_eq : selection.selected = after.1.map selectedRef
  overlap_eq : selection.excludedOverlapRecords
    = (predecessor.filter (!keptOfPredecessor boundary ·)).length
      + (successor.filter (!keptOfSuccessor boundary ·)).length
  duplicate_eq : selection.excludedDuplicateRecords = after.2
  first_eq : ∃ o, after.1.head? = some o ∧ selection.firstSequence = o.firstSequence
  final_eq : ∃ o, after.1.getLast? = some o ∧ selection.finalSequence = o.finalSequence

theorem selectCanonical_eq_ok {sha256 : Bytes → FixedBytes 32}
    (h : selectCanonical sha256 boundary predecessor successor = .ok selection) :
    ∃ before after, Accepted boundary predecessor successor selection before after := by
  unfold selectCanonical at h
  obtain ⟨⟨⟩, hboundary, h⟩ := bind_eq_ok.mp h
  obtain ⟨⟨⟩, hpredecessor, h⟩ := bind_eq_ok.mp h
  obtain ⟨⟨⟩, hsuccessor, h⟩ := bind_eq_ok.mp h
  obtain ⟨_, -, h⟩ := bind_eq_ok.mp h
  obtain ⟨_, -, h⟩ := bind_eq_ok.mp h
  obtain ⟨_, -, h⟩ := bind_eq_ok.mp h
  obtain ⟨⟨⟩, -, h⟩ := bind_eq_ok.mp h
  obtain ⟨after, hselect, h⟩ := bind_eq_ok.mp h
  unfold validateAndSelectSequence at hselect
  rw [selectLoop_append] at hselect
  obtain ⟨before, hbefore, hafter⟩ := bind_eq_ok.mp hselect
  dsimp only at h
  rw [ite_err_eq_ok] at h
  obtain ⟨-, h⟩ := h
  obtain ⟨lastPredecessor, hlast, h⟩ := bind_eq_ok.mp h
  obtain ⟨firstSuccessor, -, h⟩ := bind_eq_ok.mp h
  rw [ite_err_eq_ok] at h
  obtain ⟨hsplice, h⟩ := h
  obtain ⟨firstRef, hfirst, h⟩ := bind_eq_ok.mp h
  obtain ⟨lastRef, hfinal, h⟩ := bind_eq_ok.mp h
  cases h
  rw [okOr_eq_ok] at hlast hfirst hfinal
  rw [List.head?_map, Option.map_eq_some_iff] at hfirst
  rw [List.getLast?_map, Option.map_eq_some_iff] at hfinal
  obtain ⟨first, hfirst, rfl⟩ := hfirst
  obtain ⟨last, hfinal, rfl⟩ := hfinal
  refine ⟨before, after, ⟨?_, hpredecessor, hsuccessor, hbefore, hafter, ?_, rfl, rfl, rfl,
    ⟨first, hfirst, rfl⟩, ⟨last, hfinal, rfl⟩⟩⟩
  · unfold HandoverBoundaryV1.validate at hboundary
    rw [ite_err_eq_ok] at hboundary
    intro heq
    exact hboundary.1 (by simp [heq])
  · intro o ho
    rw [hlast] at ho
    cases ho
    by_contra hne
    exact hsplice (Or.inl hne)

structure Splices (boundary : HandoverBoundaryV1)
    (predecessor successor : List CanonicalObservationV1) (selection : CanonicalSelectionV1)
    (fates : List (CanonicalObservationV1 × Fate)) : Prop where
  /-- Every input observation has one fate. -/
  inputs : fates.map (·.1) = predecessor ++ successor
  selected_eq : selection.selected = (withFate .selected fates).map selectedRef
  overlap_eq : selection.excludedOverlapRecords = (withFate .overlap fates).length
  duplicate_eq : selection.excludedDuplicateRecords = (withFate .duplicate fates).length
  total : selection.selected.length + selection.excludedOverlapRecords
    + selection.excludedDuplicateRecords = (predecessor ++ successor).length
  /-- Predecessor observations followed by successor observations, in frame order. -/
  order : ∃ before after, selection.selected = before ++ after ∧
    before.Sublist (predecessor.map selectedRef) ∧ after.Sublist (successor.map selectedRef) ∧
    before.Pairwise (fun a b => a.frameIndex.toNat < b.frameIndex.toNat) ∧
    after.Pairwise (fun a b => a.frameIndex.toNat < b.frameIndex.toNat)
  /-- No sequence is left out between consecutive observations and each reaches further. -/
  steps : selection.selected.IsChain fun a b =>
    b.firstSequence.toNat ≤ a.finalSequence.toNat + 1 ∧
      a.finalSequence.toNat < b.finalSequence.toNat
  trade_steps : boundary.streamKind = .trade → selection.selected.IsChain fun a b =>
    b.firstSequence.toNat = a.finalSequence.toNat + 1 ∧
      b.finalSequence.toNat = a.finalSequence.toNat + 1
  covered : ∀ q, selection.firstSequence.toNat ≤ q → q ≤ selection.finalSequence.toNat →
    ∃ o ∈ selection.selected, o.firstSequence.toNat ≤ q ∧ q ≤ o.finalSequence.toNat

structure Excludes (boundary : HandoverBoundaryV1)
    (fates : List (CanonicalObservationV1 × Fate)) : Prop where
  overlap : ∀ o ∈ withFate .overlap fates,
    (o.connectionEpoch = boundary.predecessorEpoch ∧
      boundary.predecessorLastSelected.frameIndex < o.frameIndex) ∨
    (o.connectionEpoch = boundary.successorEpoch ∧
      o.frameIndex < boundary.successorFirstSelected.frameIndex)
  /-- A duplicate repeats a selected observation. -/
  duplicate : ∀ o ∈ withFate .duplicate fates, ∃ s ∈ withFate .selected fates, Duplicates o s
  duplicate_le : ∀ o ∈ withFate .duplicate fates,
    o.connectionEpoch = boundary.predecessorEpoch → o.finalSequence ≤ boundary.boundarySequence

section

variable {boundary : HandoverBoundaryV1} {predecessor successor : List CanonicalObservationV1}
  {selection : CanonicalSelectionV1} {before after : List CanonicalObservationV1 × Nat}

theorem Accepted.before_le (h : Accepted boundary predecessor successor selection before after)
    {rest : List CanonicalObservationV1} (hafter : after.1 = before.1 ++ rest)
    (hbefore : ∀ o ∈ before.1, o.connectionEpoch = boundary.predecessorEpoch)
    (hrest : ∀ o ∈ rest, o.connectionEpoch = boundary.successorEpoch)
    (hincreasing : before.1.Pairwise fun a b => a.finalSequence.toNat < b.finalSequence.toNat) :
    ∀ o ∈ before.1, o.finalSequence ≤ boundary.boundarySequence := by
  intro o ho
  obtain ⟨front, last, hlast⟩ : ∃ front last, before.1 = front ++ [last] := by
    rcases List.eq_nil_or_concat before.1 with hnil | ⟨front, last, hlast⟩
    · rw [hnil] at ho
      cases ho
    · exact ⟨front, last, by rw [hlast, List.concat_eq_append]⟩
  -- the last predecessor observation of the selection is the last of `before`
  have hlast_eq : last.finalSequence = boundary.boundarySequence := by
    apply h.last_predecessor
    rw [hafter, hlast, List.reverse_append, List.find?_append, List.reverse_append]
    have hnone : rest.reverse.find? (fun item =>
        item.connectionEpoch == boundary.predecessorEpoch) = none := by
      rw [List.find?_eq_none]
      intro item hitem
      rw [hrest item (List.mem_reverse.mp hitem), beq_iff_eq]
      exact fun heq => h.epochs heq.symm
    have hmem : last ∈ before.1 := by simp [hlast]
    rw [hnone, Option.none_or, List.reverse_singleton, List.cons_append, List.nil_append,
      List.find?_cons_of_pos (by simp [hbefore last hmem])]
  rw [hlast] at ho hincreasing
  rw [← hlast_eq, UInt64.le_iff_toNat_le]
  rcases List.mem_append.mp ho with ho | ho
  · exact Nat.le_of_lt ((List.pairwise_append.mp hincreasing).2.2 o ho last
      (List.mem_singleton_self _))
  · rw [List.mem_singleton.mp ho]

theorem pairwise_ref {source part : List CanonicalObservationV1} (hpart : part.Sublist source)
    (hframes : source.Pairwise fun a b => a.frameIndex.toNat < b.frameIndex.toNat) :
    (part.map selectedRef).Pairwise fun a b => a.frameIndex.toNat < b.frameIndex.toNat := by
  rw [List.pairwise_map]
  exact hframes.sublist hpart

end

/-- **The splice loses nothing and overlaps nowhere**: what is excluded is overlap by its frame or a
    repetition of what is selected. -/
theorem select_canonical_splices (sha256 : Bytes → FixedBytes 32) {boundary : HandoverBoundaryV1}
    {predecessor successor : List CanonicalObservationV1} {selection : CanonicalSelectionV1}
    (h : selectCanonical sha256 boundary predecessor successor = .ok selection) :
    ∃ fates, Splices boundary predecessor successor selection fates ∧
      Excludes boundary fates := by
  obtain ⟨before, after, hacc⟩ := selectCanonical_eq_ok h
  obtain ⟨hsourceP, hframesP⟩ := validateObservations_spec hacc.predecessor_valid
  obtain ⟨hsourceS, hframesS⟩ := validateObservations_spec hacc.successor_valid
  obtain ⟨fatesP, hfatesP, hnoneP, hselP, hcountP, hdupP, hchainP⟩ :=
    selectLoop_spec _ hacc.before_eq List.isChain_nil
  obtain ⟨fatesS, hfatesS, hnoneS, hselS, hcountS, hdupS, hchainS⟩ :=
    selectLoop_spec _ hacc.after_eq hchainP
  obtain ⟨allP, hallP, hallSelP, hallDupP, hallOverP⟩ := weave _ predecessor hfatesP hnoneP
  obtain ⟨allS, hallS, hallSelS, hallDupS, hallOverS⟩ := weave _ successor hfatesS hnoneS
  rw [List.nil_append] at hselP
  -- the selected observations of either source are among its observations
  have hsubP : (withFate .selected allP).Sublist predecessor := by
    rw [← hallP]
    exact withFate_sublist _ _
  have hsubS : (withFate .selected allS).Sublist successor := by
    rw [← hallS]
    exact withFate_sublist _ _
  have hselected : withFate .selected (allP ++ allS) = after.1 := by
    rw [withFate_append, hallSelP, hallSelS, ← hselP, ← hselS]
  have hinputs : (allP ++ allS).map (·.1) = predecessor ++ successor := by
    rw [List.map_append, hallP, hallS]
  have hoverlap : selection.excludedOverlapRecords
      = (withFate .overlap (allP ++ allS)).length := by
    rw [withFate_append, List.length_append, hallOverP, hallOverS, hacc.overlap_eq]
  have hduplicate : selection.excludedDuplicateRecords
      = (withFate .duplicate (allP ++ allS)).length := by
    rw [withFate_append, List.length_append, hallDupP, hallDupS, hacc.duplicate_eq, hcountS,
      hcountP, Nat.zero_add]
  have hrange : ∀ o ∈ after.1, o.firstSequence.toNat ≤ o.finalSequence.toNat := by
    intro o ho
    rw [← hselected, withFate_append, List.mem_append] at ho
    rcases ho with ho | ho
    · exact (hsourceP o (hsubP.subset ho)).range
    · exact (hsourceS o (hsubS.subset ho)).range
  refine ⟨allP ++ allS, ⟨hinputs, ?_, hoverlap, hduplicate, ?_, ?_, ?_, ?_, ?_⟩, ⟨?_, ?_, ?_⟩⟩
  · rw [hselected, hacc.selected_eq]
  · rw [hacc.selected_eq, List.length_map, ← hselected, hoverlap, hduplicate, withFate_length,
      ← hinputs, List.length_map]
  · refine ⟨(withFate .selected allP).map selectedRef, (withFate .selected allS).map selectedRef,
      ?_, hsubP.map _, hsubS.map _, pairwise_ref hsubP hframesP, pairwise_ref hsubS hframesS⟩
    rw [hacc.selected_eq, ← hselected, withFate_append, List.map_append]
  · rw [hacc.selected_eq, List.isChain_map]
    exact hchainS.imp fun a b hconnects => ⟨hconnects.1, hconnects.2.1⟩
  · intro hkind
    rw [hacc.selected_eq, List.isChain_map]
    exact hchainS.imp fun a b hconnects => hconnects.2.2 hkind
  · intro q hge hle
    obtain ⟨first, hfirst, hfirst_eq⟩ := hacc.first_eq
    obtain ⟨last, hlast, hlast_eq⟩ := hacc.final_eq
    rw [hfirst_eq] at hge
    rw [hlast_eq] at hle
    obtain ⟨o, ho, hcover⟩ := covered_of_isChain hchainS hrange hfirst hlast hge hle
    refine ⟨selectedRef o, ?_, hcover⟩
    rw [hacc.selected_eq]
    exact List.mem_map_of_mem ho
  · -- overlap is decided by the frame index
    intro o ho
    rw [withFate_append, List.mem_append, hallOverP, hallOverS, List.mem_filter,
      List.mem_filter] at ho
    rcases ho with ⟨hmem, hframe⟩ | ⟨hmem, hframe⟩
    · refine Or.inl ⟨(hsourceP o hmem).epoch_eq, ?_⟩
      simpa [keptOfPredecessor] using hframe
    · refine Or.inr ⟨(hsourceS o hmem).epoch_eq, ?_⟩
      simpa [keptOfSuccessor] using hframe
  · intro o ho
    rw [hselected]
    rw [withFate_append, List.mem_append, hallDupP, hallDupS] at ho
    rcases ho with ho | ho
    · obtain ⟨s, hs, hdup⟩ := hdupP o ho
      refine ⟨s, ?_, hdup⟩
      rw [hselS]
      exact List.mem_append_left _ hs
    · exact hdupS o ho
  · intro o ho hepoch
    rw [withFate_append, List.mem_append, hallDupP, mem_withFate, mem_withFate] at ho
    rcases ho with ho | ho
    · -- a predecessor observation repeats one that the predecessor contributed
      obtain ⟨s, hs, hdup⟩ := hdupP o (mem_withFate.mpr ho)
      rw [hdup.1]
      apply hacc.before_le hselS _ _ (pairwise_of_isChain hchainP) s hs
      · intro item hitem
        rw [hselP, ← hallSelP] at hitem
        exact (hsourceP item (hsubP.subset hitem)).epoch_eq
      · intro item hitem
        rw [← hallSelS] at hitem
        exact (hsourceS item (hsubS.subset hitem)).epoch_eq
    · -- the successor's observations carry its own epoch
      have hmem : o ∈ successor := by
        rw [← hallS]
        exact List.mem_map_of_mem ho
      exact absurd (hepoch.symm.trans (hsourceS o hmem).epoch_eq) hacc.epochs

/-- An excluded observation ends at the boundary or follows it in the predecessor. -/
def EndsAtBoundary (boundary : HandoverBoundaryV1) (o : CanonicalObservationV1) : Prop :=
  o.finalSequence ≤ boundary.boundarySequence ∨
    (o.connectionEpoch = boundary.predecessorEpoch ∧
      boundary.predecessorLastSelected.frameIndex < o.frameIndex)

instance (boundary : HandoverBoundaryV1) (o : CanonicalObservationV1) :
    Decidable (EndsAtBoundary boundary o) :=
  inferInstanceAs (Decidable (_ ∨ _))

/-- An observation that is not selected is excluded, whatever its fate is called. -/
theorem not_endsAtBoundary {o : CanonicalObservationV1} (hinput : o ∈ predecessor ++ successor)
    (hselected : selectedRef o ∉ selection.selected) (ho : ¬ EndsAtBoundary boundary o) :
    ¬ ∃ fates, Splices boundary predecessor successor selection fates ∧
      ∀ entry ∈ fates, entry.2 ≠ .selected → EndsAtBoundary boundary entry.1 := by
  rintro ⟨fates, hsplices, hexcluded⟩
  rw [← hsplices.inputs, List.mem_map] at hinput
  obtain ⟨⟨observation, fate⟩, hentry, rfl⟩ := hinput
  apply ho
  apply hexcluded _ hentry
  rintro rfl
  apply hselected
  rw [hsplices.selected_eq]
  exact List.mem_map_of_mem (mem_withFate.mpr hentry)

/-! ## A boundary -/

/-- A digest text of one repeated digit. -/
def digits (digit : Char) : String := String.ofList (List.replicate 64 digit)

def sampleDepth (epoch : String) (frame first final : UInt64) (digest : String) :
    CanonicalObservationV1 :=
  ⟨"BTCUSDT", .depth, "btcusdt@depth", epoch, frame, first, final, zeroDigest, digest⟩

/-- A handover at sequence 10, continued by the successor's frame `firstFrame`. -/
def sampleBoundary (firstFrame : UInt64) : HandoverBoundaryV1 where
  schema := "HandoverBoundaryV1"
  boundaryId := "x"
  environment := "production-public-market-data"
  symbol := "BTCUSDT"
  streamKind := .depth
  stream := "btcusdt@depth"
  predecessorEpoch := "a"
  successorEpoch := "b"
  boundarySequence := 10
  boundarySha256 := digits '1'
  predecessorLastSelected := ⟨"a", "btcusdt@depth", 0, zeroDigest⟩
  successorBoundaryObservation := ⟨"b", "btcusdt@depth", 0, zeroDigest⟩
  successorFirstSelected := ⟨"b", "btcusdt@depth", firstFrame, zeroDigest⟩
  predecessorDurability := ⟨0, 100, zeroDigest⟩
  successorDurability := ⟨9, 100, zeroDigest⟩
  specRevision := "r"
  selectorVersion := "v"

def samplePredecessor : List CanonicalObservationV1 := [sampleDepth "a" 0 8 10 (digits '1')]

/-- The continuation is delivered twice. -/
def repeatedSuccessor : List CanonicalObservationV1 :=
  [sampleDepth "b" 0 8 10 (digits '1'), sampleDepth "b" 1 11 15 (digits '2'),
    sampleDepth "b" 2 11 15 (digits '2')]

/-- The frame between the boundary and the continuation already passes the boundary. -/
def skippedSuccessor : List CanonicalObservationV1 :=
  [sampleDepth "b" 0 8 10 (digits '1'), sampleDepth "b" 1 11 15 (digits '2'),
    sampleDepth "b" 2 11 20 (digits '3')]

/-- SHA-256 on the texts of the two sample selections. -/
def sampleSha256 (text : Bytes) : FixedBytes 32 :=
  let selected := fun frame final =>
    [samplePredecessor, [sampleDepth "b" frame 11 final zeroDigest]].flatten.map selectedRef
  if text = (selectionMaterial (sampleBoundary 1) (selected 1 15)).toVec then
    digestOfNat 0x4134bf85e75d68b60505bd54572aa6d7db1b605eb06b5d2a43417d5fe42a2a97
  else if text = (selectionMaterial (sampleBoundary 2) (selected 2 20)).toVec then
    digestOfNat 0xa67326f5746ac2a2eb509a549a44fb410aa63aaf98063713eab96d809e227d24
  else digestOfNat 0

/-- A repeated continuation is excluded beyond the boundary, and so is a skipped frame. -/
theorem excluded_beyond_boundary :
    (∃ selection, selectCanonical sampleSha256 (sampleBoundary 1) samplePredecessor
        repeatedSuccessor = .ok selection ∧
      ¬ ∃ fates, Splices (sampleBoundary 1) samplePredecessor repeatedSuccessor selection fates ∧
        ∀ entry ∈ fates, entry.2 ≠ .selected → EndsAtBoundary (sampleBoundary 1) entry.1) ∧
    (∃ selection, selectCanonical sampleSha256 (sampleBoundary 2) samplePredecessor
        skippedSuccessor = .ok selection ∧
      ¬ ∃ fates, Splices (sampleBoundary 2) samplePredecessor skippedSuccessor selection fates ∧
        ∀ entry ∈ fates, entry.2 ≠ .selected → EndsAtBoundary (sampleBoundary 2) entry.1) := by
  have hrepeated : (selectCanonical sampleSha256 (sampleBoundary 1) samplePredecessor
      repeatedSuccessor).map (fun selection => selection.selected.any fun item =>
        item.connectionEpoch == "b" && item.frameIndex == 2) = .ok false := by decide +kernel
  have hskipped : (selectCanonical sampleSha256 (sampleBoundary 2) samplePredecessor
      skippedSuccessor).map (fun selection => selection.selected.any fun item =>
        item.connectionEpoch == "b" && item.frameIndex == 1) = .ok false := by decide +kernel
  -- the frame in question is not among the selected ones
  have hnot : ∀ (selected : List SelectedObservationV1) (item : SelectedObservationV1),
      selected.any (fun other => other.connectionEpoch == item.connectionEpoch &&
        other.frameIndex == item.frameIndex) = false → item ∉ selected := by
    intro selected item hany hmem
    have hself := (List.any_eq_false.mp hany) item hmem
    simp at hself
  obtain ⟨repeated, hrepeated, hany⟩ := map_eq_ok.mp hrepeated
  obtain ⟨skipped, hskipped, hany'⟩ := map_eq_ok.mp hskipped
  refine ⟨⟨repeated, hrepeated, ?_⟩, ⟨skipped, hskipped, ?_⟩⟩
  · exact not_endsAtBoundary (o := sampleDepth "b" 2 11 15 (digits '2'))
      (by decide +kernel) (hnot _ _ hany) (by decide +kernel)
  · exact not_endsAtBoundary (o := sampleDepth "b" 1 11 15 (digits '2'))
      (by decide +kernel) (hnot _ _ hany') (by decide +kernel)

/-- The splice with a repeated continuation. -/
theorem select_canonical_splices_repeated :
    ∃ selection, selectCanonical sampleSha256 (sampleBoundary 1) samplePredecessor
        repeatedSuccessor = .ok selection ∧
      ∃ fates, Splices (sampleBoundary 1) samplePredecessor repeatedSuccessor selection fates ∧
        Excludes (sampleBoundary 1) fates := by
  have hok : (selectCanonical sampleSha256 (sampleBoundary 1) samplePredecessor
      repeatedSuccessor).isOk = true := by decide +kernel
  obtain ⟨selection, hselection⟩ := isOk_eq_true.mp hok
  exact ⟨selection, hselection, select_canonical_splices sampleSha256 hselection⟩

end LobReplay.Boundary
