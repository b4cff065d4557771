/-
  The search for a handover boundary, `derive_handover_boundary` of splice.rs, and why it composes
  with the selection: the search walks the successor by sequence numbers, through a map of the
  predecessor, while the selection finds the boundary again by frame index and checks that the
  sequences tile.
-/

import LobReplay.Boundary.Splice
import Mathlib.Data.List.Nodup
import Mathlib.Order.Bounds.Basic

namespace LobReplay.Boundary

open Foundation

/-! ## The search -/

def selectorVersion : String := "CanonicalSelectorV1"

def position (observation : CanonicalObservationV1) : RawPositionV1 :=
  ⟨observation.connectionEpoch, observation.stream, observation.frameIndex,
    observation.recordSha256⟩

/-- `predecessor_by_sequence.get(&sequence)`: of several observations with one final sequence
    the map holds the last. -/
def predecessorBySequence (predecessor : List CanonicalObservationV1) (sequence : UInt64) :
    Option CanonicalObservationV1 :=
  predecessor.reverse.find? fun item => item.finalSequence == sequence

/-- `successor.windows(2)`. -/
def windows2 (observations : List CanonicalObservationV1) :
    List (CanonicalObservationV1 × CanonicalObservationV1) :=
  observations.zip observations.tail

/-- Whether the continuation goes on where the boundary ends. -/
def continues (kind : BoundaryStreamKind)
    (predecessorBoundary boundary continuation : CanonicalObservationV1) (next : Nat) : Bool :=
  match kind with
  | .depth => continuation.firstSequence.toNat ≤ next && next ≤ continuation.finalSequence.toNat
  | .trade =>
    predecessorBoundary.firstSequence == boundary.finalSequence &&
      boundary.firstSequence == boundary.finalSequence &&
      continuation.firstSequence.toNat == next && continuation.finalSequence.toNat == next

/-- The predecessor's boundary, the successor's and its continuation. -/
abbrev Convergence :=
  CanonicalObservationV1 × CanonicalObservationV1 × CanonicalObservationV1

/-- Whether a convergence is later than the one found so far. -/
def isLater (predecessorBoundary : CanonicalObservationV1) (selected : Option Convergence) : Bool :=
  match selected with
  | none => true
  | some (old, _, _) => old.finalSequence < predecessorBoundary.finalSequence

/-- The loop of `derive_handover_boundary`. -/
def deriveLoop (kind : BoundaryStreamKind) (predecessor : List CanonicalObservationV1) :
    List (CanonicalObservationV1 × CanonicalObservationV1) → Option Convergence →
      Result (Option Convergence)
  | [], selected => .ok selected
  | (boundary, continuation) :: rest, selected =>
    match predecessorBySequence predecessor boundary.finalSequence with
    | none => deriveLoop kind predecessor rest selected
    | some predecessorBoundary =>
      if predecessorBoundary.observationSha256 ≠ boundary.observationSha256 then
        deriveLoop kind predecessor rest selected
      else do
        let next ← okOr (checkedAdd boundary.finalSequence.toNat 1) "boundary sequence overflow"
        if continues kind predecessorBoundary boundary continuation next &&
            isLater predecessorBoundary selected then
          deriveLoop kind predecessor rest (some (predecessorBoundary, boundary, continuation))
        else deriveLoop kind predecessor rest selected

def boundaryOf (boundaryId : String) (kind : BoundaryStreamKind)
    (firstPredecessor firstSuccessor : CanonicalObservationV1) (found : Convergence)
    (predecessorDurability successorDurability : BoundaryDurabilityV1) (specRevision : String) :
    HandoverBoundaryV1 where
  schema := "HandoverBoundaryV1"
  boundaryId
  environment := "production-public-market-data"
  symbol := firstPredecessor.symbol
  streamKind := kind
  stream := firstPredecessor.stream
  predecessorEpoch := firstPredecessor.connectionEpoch
  successorEpoch := firstSuccessor.connectionEpoch
  boundarySequence := found.1.finalSequence
  boundarySha256 := found.1.observationSha256
  predecessorLastSelected := position found.1
  successorBoundaryObservation := position found.2.1
  successorFirstSelected := position found.2.2
  predecessorDurability
  successorDurability
  specRevision
  selectorVersion := selectorVersion

def deriveHandoverBoundary (boundaryId : String) (kind : BoundaryStreamKind)
    (predecessor successor : List CanonicalObservationV1)
    (predecessorDurability successorDurability : BoundaryDurabilityV1) (specRevision : String) :
    Result HandoverBoundaryV1 :=
  if isBlank boundaryId then err "boundary ID is required"
  else do
    let firstPredecessor ← okOr predecessor.head? "predecessor observations are empty"
    let firstSuccessor ← okOr successor.head? "successor observations are empty"
    if firstPredecessor.symbol ≠ firstSuccessor.symbol ∨
        firstPredecessor.stream ≠ firstSuccessor.stream ∨
        firstPredecessor.streamKind ≠ kind ∨ firstSuccessor.streamKind ≠ kind ∨
        firstPredecessor.connectionEpoch = firstSuccessor.connectionEpoch then
      err "A/B observation identity does not define independent matching epochs"
    else do
      let selected ← deriveLoop kind predecessor (windows2 successor) none
      let found ← okOr selected "no converged A/B boundary with a venue-valid B continuation"
      let boundary := boundaryOf boundaryId kind firstPredecessor firstSuccessor found
        predecessorDurability successorDurability specRevision
      boundary.validate
      return boundary

/-! ## What is searched for -/

/-- A source of one epoch: every observation is of the stream, its digests are digests, the
    frame indexes are contiguous, and each observation connects to the one before. -/
structure Source (symbol stream epoch : String) (kind : BoundaryStreamKind)
    (observations : List CanonicalObservationV1) : Prop where
  symbol_eq : ∀ o ∈ observations, o.symbol = symbol
  stream_eq : ∀ o ∈ observations, o.stream = stream
  epoch_eq : ∀ o ∈ observations, o.connectionEpoch = epoch
  kind_eq : ∀ o ∈ observations, o.streamKind = kind
  record_digest : ∀ o ∈ observations, isLowerHex64 o.recordSha256 = true
  observation_digest : ∀ o ∈ observations, isLowerHex64 o.observationSha256 = true
  frames : observations.IsChain fun a b => b.frameIndex.toNat = a.frameIndex.toNat + 1
  connected : observations.IsChain (Connects kind)

/-- Both sources have an observation that ends at `K`, with the same digest, and the
    successor's next observation covers `K + 1`. -/
def Converges (predecessor successor : List CanonicalObservationV1) (K : Nat) : Prop :=
  ∃ p ∈ predecessor, ∃ before q c after, successor = before ++ q :: c :: after ∧
    p.finalSequence.toNat = K ∧ q.finalSequence.toNat = K ∧
    p.observationSha256 = q.observationSha256 ∧
    c.firstSequence.toNat ≤ K + 1 ∧ K + 1 ≤ c.finalSequence.toNat

def HeadInRange (observations : List CanonicalObservationV1) : Prop :=
  ∀ o, observations.head? = some o → o.firstSequence ≤ o.finalSequence

/-! ## The loop finds the last convergence -/

/-- What the search accepts of a window. -/
structure Convergent (kind : BoundaryStreamKind) (predecessor : List CanonicalObservationV1)
    (found : Convergence) : Prop where
  lookup : predecessorBySequence predecessor found.2.1.finalSequence = some found.1
  digest_eq : found.1.observationSha256 = found.2.1.observationSha256
  continues : continues kind found.1 found.2.1 found.2.2 (found.2.1.finalSequence.toNat + 1) = true

section

variable {kind : BoundaryStreamKind} {predecessor successor : List CanonicalObservationV1}
  {p q c : CanonicalObservationV1}

theorem predecessorBySequence_eq_some {sequence : UInt64}
    (h : predecessorBySequence predecessor sequence = some p) :
    p ∈ predecessor ∧ p.finalSequence = sequence := by
  refine ⟨List.mem_reverse.mp (List.mem_of_find?_eq_some h), ?_⟩
  simpa using List.find?_some h

/-- **Search.** The loop ends with an accepted window, or with what it began with, and no
    accepted window is later. -/
theorem deriveLoop_spec (windows : List (CanonicalObservationV1 × CanonicalObservationV1))
    {selected result : Option Convergence}
    (h : deriveLoop kind predecessor windows selected = .ok result) :
    (result = selected ∨ ∃ found, result = some found ∧ found.2 ∈ windows ∧
      Convergent kind predecessor found) ∧
    (∀ p window, window ∈ windows → Convergent kind predecessor (p, window) →
      ∃ found, result = some found ∧ p.finalSequence ≤ found.1.finalSequence) ∧
    ∀ old, selected = some old → ∃ found, result = some found ∧
      old.1.finalSequence ≤ found.1.finalSequence := by
  induction windows generalizing selected with
  | nil =>
    cases h
    refine ⟨Or.inl rfl, ?_, fun old hold => ⟨old, hold, UInt64.le_refl _⟩⟩
    intro p window hwindow
    cases hwindow
  | cons window rest ih =>
    obtain ⟨boundary, continuation⟩ := window
    unfold deriveLoop at h
    -- a window that is not accepted changes nothing
    have hskip : deriveLoop kind predecessor rest selected = .ok result →
        (∀ p, Convergent kind predecessor (p, boundary, continuation) →
          ∃ old, selected = some old ∧ p.finalSequence ≤ old.1.finalSequence) →
        (result = selected ∨ ∃ found, result = some found ∧
          found.2 ∈ (boundary, continuation) :: rest ∧ Convergent kind predecessor found) ∧
        (∀ p window, window ∈ (boundary, continuation) :: rest →
          Convergent kind predecessor (p, window) →
          ∃ found, result = some found ∧ p.finalSequence ≤ found.1.finalSequence) ∧
        ∀ old, selected = some old → ∃ found, result = some found ∧
          old.1.finalSequence ≤ found.1.finalSequence := by
      intro hrest hnot
      obtain ⟨hresult, hwindows, hselected⟩ := ih hrest
      refine ⟨?_, ?_, hselected⟩
      · rcases hresult with hresult | ⟨found, hfound, hmem, hconvergent⟩
        · exact Or.inl hresult
        · exact Or.inr ⟨found, hfound, List.mem_cons_of_mem _ hmem, hconvergent⟩
      · intro p window hwindow hconvergent
        rcases List.mem_cons.mp hwindow with rfl | hwindow
        · obtain ⟨old, hold, hle⟩ := hnot p hconvergent
          obtain ⟨found, hfound, hle'⟩ := hselected old hold
          exact ⟨found, hfound, UInt64.le_trans hle hle'⟩
        · exact hwindows p window hwindow hconvergent
    cases hlookup : predecessorBySequence predecessor boundary.finalSequence with
    | none =>
      rw [hlookup] at h
      refine hskip h fun p hconvergent => ?_
      have := hconvergent.lookup
      rw [hlookup] at this
      cases this
    | some predecessorBoundary =>
      rw [hlookup] at h
      dsimp only at h
      by_cases hdigest : predecessorBoundary.observationSha256 = boundary.observationSha256
      · rw [if_neg (by simp [hdigest])] at h
        obtain ⟨next, hnext, h⟩ := bind_eq_ok.mp h
        rw [okOr_eq_ok] at hnext
        have hnext : next = boundary.finalSequence.toNat + 1 := by
          unfold checkedAdd at hnext
          split at hnext
          · exact (Option.some.inj hnext).symm
          · cases hnext
        subst hnext
        by_cases haccepted : (Boundary.continues kind predecessorBoundary boundary continuation
            (boundary.finalSequence.toNat + 1) && isLater predecessorBoundary selected) = true
        · -- the window is accepted and the latest so far
          rw [if_pos haccepted] at h
          rw [Bool.and_eq_true] at haccepted
          obtain ⟨hresult, hwindows, hselected⟩ := ih h
          obtain ⟨found, hfound, hle⟩ := hselected _ rfl
          refine ⟨Or.inr ?_, ?_, ?_⟩
          · rcases hresult with hresult | ⟨found', hfound', hmem, hconvergent⟩
            · exact ⟨_, hresult, List.mem_cons_self, ⟨hlookup, hdigest, haccepted.1⟩⟩
            · exact ⟨found', hfound', List.mem_cons_of_mem _ hmem, hconvergent⟩
          · intro p window hwindow hconvergent
            rcases List.mem_cons.mp hwindow with rfl | hwindow
            · have hp := hconvergent.lookup
              dsimp only at hp
              rw [hlookup] at hp
              cases hp
              exact ⟨found, hfound, hle⟩
            · exact hwindows p window hwindow hconvergent
          · intro old hold
            subst hold
            have hlater : old.1.finalSequence < predecessorBoundary.finalSequence := by
              simpa [isLater] using haccepted.2
            exact ⟨found, hfound, UInt64.le_trans (UInt64.le_of_lt hlater) hle⟩
        · rw [if_neg haccepted] at h
          refine hskip h fun p hconvergent => ?_
          have hp := hconvergent.lookup
          dsimp only at hp
          rw [hlookup] at hp
          cases hp
          -- it goes on, so it is not later than the one found before
          have hnot : isLater predecessorBoundary selected = false := by
            rw [hconvergent.continues, Bool.true_and] at haccepted
            simpa using haccepted
          cases selected with
          | none => cases hnot
          | some old => exact ⟨old, rfl, by simpa [isLater] using hnot⟩
      · rw [if_pos hdigest] at h
        refine hskip h fun p hconvergent => ?_
        have hp := hconvergent.lookup
        dsimp only at hp
        rw [hlookup] at hp
        cases hp
        exact absurd hconvergent.digest_eq hdigest

theorem mem_windows2 {observations : List CanonicalObservationV1} :
    (q, c) ∈ windows2 observations ↔ ∃ before after, observations = before ++ q :: c :: after := by
  unfold windows2
  induction observations with
  | nil => simp
  | cons o rest ih =>
    cases rest with
    | nil =>
      constructor
      · intro h
        cases h
      · rintro ⟨before, after, heq⟩
        have := congrArg List.length heq
        simp at this
        omega
    | cons o' rest =>
      rw [List.tail_cons, List.zip_cons_cons, List.mem_cons]
      rw [List.tail_cons] at ih
      constructor
      · rintro (heq | hmem)
        · cases heq
          exact ⟨[], rest, rfl⟩
        · obtain ⟨before, after, heq⟩ := ih.mp hmem
          exact ⟨o :: before, after, by rw [heq]; rfl⟩
      · rintro ⟨before, after, heq⟩
        cases before with
        | nil =>
          cases heq
          exact Or.inl rfl
        | cons first before =>
          rw [List.cons_append, List.cons.injEq] at heq
          exact Or.inr (ih.mpr ⟨before, after, heq.2⟩)

theorem Convergent.converges (h : Convergent kind predecessor (p, q, c))
    (hwindow : (q, c) ∈ windows2 successor) :
    Converges predecessor successor p.finalSequence.toNat := by
  obtain ⟨hmem, hfinal⟩ := predecessorBySequence_eq_some h.lookup
  obtain ⟨before, after, hsplit⟩ := mem_windows2.mp hwindow
  have hcontinues := h.continues
  dsimp only at hfinal hcontinues
  refine ⟨p, hmem, before, q, c, after, hsplit, rfl, by rw [hfinal], h.digest_eq, ?_⟩
  rw [hfinal]
  cases kind with
  | depth => simpa [Boundary.continues] using hcontinues
  | trade =>
    simp only [Boundary.continues, Bool.and_eq_true, beq_iff_eq] at hcontinues
    omega

end

/-! ## Sources -/

section

variable {symbol stream epoch : String} {kind : BoundaryStreamKind}
  {observations : List CanonicalObservationV1}

/-- An element is found by a key no other element has. -/
theorem find?_key_eq {α κ : Type} [DecidableEq κ] {key : α → κ} {xs : List α} {x : α} (hmem : x ∈ xs)
    (hunique : ∀ y ∈ xs, key y = key x → y = x) :
    xs.find? (fun y => key y == key x) = some x := by
  cases hfind : xs.find? (fun y => key y == key x) with
  | none =>
    have := List.find?_eq_none.mp hfind x hmem
    simp at this
  | some y =>
    have hkey : key y = key x := by simpa using List.find?_some hfind
    rw [hunique y (List.mem_of_find?_eq_some hfind) hkey]

theorem eq_of_key_eq {α : Type} {key : α → Nat} {xs : List α}
    (hsorted : xs.Pairwise fun a b => key a < key b) {x y : α} (hx : x ∈ xs) (hy : y ∈ xs)
    (heq : key x = key y) : x = y := by
  have hnodup : (xs.map key).Nodup := by
    rw [List.nodup_iff_pairwise_ne, List.pairwise_map]
    exact hsorted.imp Nat.ne_of_lt
  exact List.inj_on_of_nodup_map hnodup hx hy heq

namespace Source

section

variable (h : Source symbol stream epoch kind observations)
include h

theorem finals : observations.Pairwise fun a b => a.finalSequence.toNat < b.finalSequence.toNat :=
  pairwise_of_isChain h.connected

theorem frames_lt : observations.Pairwise fun a b => a.frameIndex.toNat < b.frameIndex.toNat := by
  have : IsTrans CanonicalObservationV1
      (fun a b => a.frameIndex.toNat < b.frameIndex.toNat) := ⟨fun _ _ _ => Nat.lt_trans⟩
  apply List.IsChain.pairwise
  exact h.frames.imp fun a b (heq : b.frameIndex.toNat = a.frameIndex.toNat + 1) => by omega

theorem lookup {p : CanonicalObservationV1} (hp : p ∈ observations) :
    predecessorBySequence observations p.finalSequence = some p := by
  unfold predecessorBySequence
  apply find?_key_eq (List.mem_reverse.mpr hp)
  intro other hother hkey
  exact eq_of_key_eq h.finals (List.mem_reverse.mp hother) hp (by rw [hkey])

end

variable {o : CanonicalObservationV1} {boundary : HandoverBoundaryV1}
  {before after : List CanonicalObservationV1}

section

variable (h : Source symbol stream epoch kind observations)
include h

theorem findPosition_eq (ho : o ∈ observations) :
    findPosition observations (position o) = .ok o := by
  have hfind : observations.find? (fun item => item.frameIndex == (position o).frameIndex)
      = some o := by
    apply find?_key_eq ho
    intro other hother hkey
    exact eq_of_key_eq h.frames_lt hother ho (by rw [hkey])
  unfold findPosition
  rw [hfind]
  show (if _ then _ else _) = _
  exact if_neg (by simp [position])

theorem head_le {first : CanonicalObservationV1} (hfirst : observations.head? = some first)
    (ho : o ∈ observations) : first.finalSequence.toNat ≤ o.finalSequence.toNat := by
  have hfinals := h.finals
  cases observations with
  | nil => cases hfirst
  | cons head rest =>
    cases hfirst
    rcases List.mem_cons.mp ho with rfl | hrest
    · exact Nat.le_refl _
    · exact Nat.le_of_lt ((List.pairwise_cons.mp hfinals).1 o hrest)

theorem first_or_connected (ho : o ∈ observations) :
    observations.head? = some o ∨ ∃ previous, Connects kind previous o := by
  obtain ⟨before, after, rfl⟩ := List.append_of_mem ho
  rcases List.eq_nil_or_concat before with rfl | ⟨before, previous, rfl⟩
  · exact Or.inl rfl
  · right
    have hconnected := h.connected
    rw [List.concat_eq_append, List.append_assoc, List.singleton_append] at hconnected
    exact ⟨previous, (List.isChain_cons_cons.mp (List.isChain_append.mp hconnected).2.1).1⟩

theorem range (hhead : HeadInRange observations) (ho : o ∈ observations) :
    o.firstSequence ≤ o.finalSequence := by
  rcases h.first_or_connected ho with hfirst | ⟨previous, hfirst, hfinal, -⟩
  · exact hhead o hfirst
  · rw [UInt64.le_iff_toNat_le]
    omega

end

theorem trade_first (h : Source symbol stream epoch .trade observations) (ho : o ∈ observations) :
    observations.head? = some o ∨ o.firstSequence = o.finalSequence := by
  rcases h.first_or_connected ho with hfirst | ⟨previous, -, -, htrade⟩
  · exact Or.inl hfirst
  · obtain ⟨hfirst, hfinal⟩ := htrade rfl
    exact Or.inr (UInt64.toNat_inj.mp (hfirst.trans hfinal.symm))

theorem tail (h : Source symbol stream epoch kind (o :: observations)) :
    Source symbol stream epoch kind observations where
  symbol_eq x hx := h.symbol_eq x (List.mem_cons_of_mem _ hx)
  stream_eq x hx := h.stream_eq x (List.mem_cons_of_mem _ hx)
  epoch_eq x hx := h.epoch_eq x (List.mem_cons_of_mem _ hx)
  kind_eq x hx := h.kind_eq x (List.mem_cons_of_mem _ hx)
  record_digest x hx := h.record_digest x (List.mem_cons_of_mem _ hx)
  observation_digest x hx := h.observation_digest x (List.mem_cons_of_mem _ hx)
  frames := (List.isChain_cons.mp h.frames).2
  connected := (List.isChain_cons.mp h.connected).2

/-- `validate_observations` accepts a source whose ranges are in order. -/
theorem validateLoop_eq (h : Source symbol stream epoch kind observations)
    (hrange : ∀ o ∈ observations, o.firstSequence ≤ o.finalSequence)
    (hsymbol : boundary.symbol = symbol) (hstream : boundary.stream = stream)
    (hkind : boundary.streamKind = kind) {previous : Option UInt64}
    (hprevious : ∀ frame, previous = some frame → ∀ o, observations.head? = some o →
      o.frameIndex.toNat = frame.toNat + 1) :
    validateLoop boundary epoch observations previous = .ok () := by
  induction observations generalizing previous with
  | nil => rfl
  | cons o rest ih =>
    have ho : o ∈ o :: rest := List.mem_cons_self
    have hidentity : ¬ (o.symbol ≠ boundary.symbol ∨ o.streamKind ≠ boundary.streamKind ∨
        o.stream ≠ boundary.stream ∨ o.connectionEpoch ≠ epoch ∨
        o.finalSequence < o.firstSequence) := by
      simp only [not_or, not_not, UInt64.not_lt]
      exact ⟨(h.symbol_eq o ho).trans hsymbol.symm, (h.kind_eq o ho).trans hkind.symm,
        (h.stream_eq o ho).trans hstream.symm, h.epoch_eq o ho, hrange o ho⟩
    have hframe : checkFrame previous o.frameIndex = .ok () := by
      unfold checkFrame
      cases previous with
      | none => rfl
      | some frame =>
        have hnext := hprevious frame rfl o rfl
        have hmax := toNat_le_u64Max o.frameIndex
        have hincrement : increment frame.toNat = .ok (frame.toNat + 1) := if_pos (by omega)
        dsimp only
        rw [hincrement]
        exact if_neg (by simp [hnext])
    have hrecord : validateDigest o.recordSha256 = .ok () := if_pos (h.record_digest o ho)
    have hobservation : validateDigest o.observationSha256 = .ok () :=
      if_pos (h.observation_digest o ho)
    have hrest : validateLoop boundary epoch rest (some o.frameIndex) = .ok () := by
      apply ih h.tail fun x hx => hrange x (List.mem_cons_of_mem _ hx)
      intro frame hframe next hnext
      cases hframe
      exact (List.isChain_cons.mp h.frames).1 next hnext
    unfold validateLoop
    rw [if_neg hidentity, hrecord, hobservation, hframe]
    exact hrest

theorem validateObservations_eq (h : Source symbol stream epoch kind observations)
    (hhead : HeadInRange observations) (hsymbol : boundary.symbol = symbol)
    (hstream : boundary.stream = stream) (hkind : boundary.streamKind = kind)
    (hne : observations ≠ []) : validateObservations boundary observations epoch = .ok () := by
  unfold validateObservations
  rw [if_neg (by simpa using hne)]
  refine h.validateLoop_eq (fun o ho => h.range hhead ho) hsymbol hstream hkind ?_
  intro frame hframe
  cases hframe

theorem filter_le (h : Source symbol stream epoch kind (before ++ o :: after)) :
    (before ++ o :: after).filter (fun x => decide (x.frameIndex ≤ o.frameIndex))
      = before ++ [o] := by
  obtain ⟨-, hafter, hbefore⟩ := List.pairwise_append.mp h.frames_lt
  rw [List.pairwise_cons] at hafter
  rw [List.filter_append, List.filter_cons_of_pos (by simp)]
  congr 1
  · rw [List.filter_eq_self]
    intro x hx
    have := hbefore x hx o List.mem_cons_self
    exact decide_eq_true (UInt64.le_iff_toNat_le.mpr (by omega))
  · congr 1
    rw [List.filter_eq_nil_iff]
    intro x hx
    have := hafter.1 x hx
    rw [decide_eq_true_eq, UInt64.le_iff_toNat_le]
    omega

theorem filter_ge (h : Source symbol stream epoch kind (before ++ o :: after)) :
    (before ++ o :: after).filter (fun x => decide (o.frameIndex ≤ x.frameIndex))
      = o :: after := by
  obtain ⟨-, hafter, hbefore⟩ := List.pairwise_append.mp h.frames_lt
  rw [List.pairwise_cons] at hafter
  rw [List.filter_append, List.filter_cons_of_pos (by simp)]
  have hnone : before.filter (fun x => decide (o.frameIndex ≤ x.frameIndex)) = [] := by
    rw [List.filter_eq_nil_iff]
    intro x hx
    have := hbefore x hx o List.mem_cons_self
    rw [decide_eq_true_eq, UInt64.le_iff_toNat_le]
    omega
  have hall : after.filter (fun x => decide (o.frameIndex ≤ x.frameIndex)) = after := by
    rw [List.filter_eq_self]
    intro x hx
    have := hafter.1 x hx
    exact decide_eq_true (UInt64.le_iff_toNat_le.mpr (by omega))
  rw [hnone, hall, List.nil_append]

end Source

end

/-! ## The selection keeps a connected chain -/

theorem selectLoop_of_isChain {kind : BoundaryStreamKind}
    (candidates : List CanonicalObservationV1) {selected : List CanonicalObservationV1}
    {duplicates : Nat} (h : (selected ++ candidates).IsChain (Connects kind)) :
    selectLoop kind candidates selected duplicates = .ok (selected ++ candidates, duplicates) := by
  induction candidates generalizing selected with
  | nil =>
    rw [List.append_nil]
    rfl
  | cons o rest ih =>
    have hsplit : selected ++ o :: rest = (selected ++ [o]) ++ rest := by
      rw [List.append_assoc, List.singleton_append]
    rw [hsplit] at h ⊢
    unfold selectLoop
    cases hlast : selected.getLast? with
    | none => exact ih h
    | some previous =>
      have hconnects : Connects kind previous o :=
        (List.isChain_append.mp (List.isChain_append.mp h).1).2.2 previous hlast o rfl
      obtain ⟨hfirst, hfinal, htrade⟩ := hconnects
      have hmax := toNat_le_u64Max o.finalSequence
      dsimp only
      rw [checkedAdd_eq (show previous.finalSequence.toNat + 1 ≤ u64Max by omega)]
      show (if _ then _ else _) = _
      rw [if_neg (by omega), if_neg (by omega), if_neg ?_]
      · exact ih h
      · rintro ⟨hkind, hne⟩
        obtain ⟨hfirst, hfinal⟩ := htrade hkind
        omega

/-! ## Derivation and selection -/

/-- What an accepted derivation was checked for. -/
structure Derived (boundaryId : String) (kind : BoundaryStreamKind)
    (predecessor successor : List CanonicalObservationV1)
    (predecessorDurability successorDurability : BoundaryDurabilityV1) (specRevision : String)
    (boundary : HandoverBoundaryV1) (firstPredecessor firstSuccessor : CanonicalObservationV1)
    (found : Convergence) : Prop where
  predecessor_head : predecessor.head? = some firstPredecessor
  successor_head : successor.head? = some firstSuccessor
  kind_eq : firstPredecessor.streamKind = kind
  stream_eq : firstPredecessor.stream = firstSuccessor.stream
  symbol_eq : firstPredecessor.symbol = firstSuccessor.symbol
  loop_eq : deriveLoop kind predecessor (windows2 successor) none = .ok (some found)
  boundary_eq : boundary = boundaryOf boundaryId kind firstPredecessor firstSuccessor found
    predecessorDurability successorDurability specRevision
  valid : boundary.validate = .ok ()

section

variable {boundaryId : String} {kind : BoundaryStreamKind}
  {predecessor successor : List CanonicalObservationV1}
  {predecessorDurability successorDurability : BoundaryDurabilityV1} {specRevision : String}
  {boundary : HandoverBoundaryV1} {firstPredecessor firstSuccessor : CanonicalObservationV1}
  {found : Convergence} {symbol stream epoch epoch' message : String}

theorem deriveHandoverBoundary_eq_ok
    (h : deriveHandoverBoundary boundaryId kind predecessor successor predecessorDurability
      successorDurability specRevision = .ok boundary) :
    ∃ firstPredecessor firstSuccessor found, Derived boundaryId kind predecessor successor
      predecessorDurability successorDurability specRevision boundary firstPredecessor
      firstSuccessor found := by
  unfold deriveHandoverBoundary at h
  rw [ite_err_eq_ok] at h
  obtain ⟨firstPredecessor, hpredecessor, h⟩ := bind_eq_ok.mp h.2
  obtain ⟨firstSuccessor, hsuccessor, h⟩ := bind_eq_ok.mp h
  rw [okOr_eq_ok] at hpredecessor hsuccessor
  rw [ite_err_eq_ok] at h
  obtain ⟨hidentity, h⟩ := h
  simp only [not_or, not_not] at hidentity
  obtain ⟨selected, hloop, hrest⟩ := bind_eq_ok.mp h
  obtain ⟨found, hfound, hboundary⟩ := bind_eq_ok.mp hrest
  rw [okOr_eq_ok] at hfound
  rw [hfound] at hloop
  obtain ⟨⟨⟩, hvalid, heq⟩ := bind_eq_ok.mp hboundary
  cases heq
  exact ⟨firstPredecessor, firstSuccessor, found, hpredecessor, hsuccessor, hidentity.2.2.1,
    hidentity.2.1, hidentity.1, hloop, rfl, hvalid⟩

theorem Derived.convergent (h : Derived boundaryId kind predecessor successor
    predecessorDurability successorDurability specRevision boundary firstPredecessor firstSuccessor
    found) : found.2 ∈ windows2 successor ∧ Convergent kind predecessor found := by
  obtain ⟨hresult, -, -⟩ := deriveLoop_spec _ h.loop_eq
  rcases hresult with hnone | ⟨found', hfound, hmem, hconvergent⟩
  · cases hnone
  · cases hfound
    exact ⟨hmem, hconvergent⟩

theorem Derived.greatest
    (h : Derived boundaryId kind predecessor successor predecessorDurability successorDurability
      specRevision boundary firstPredecessor firstSuccessor found)
    (hpredecessor : Source symbol stream epoch kind predecessor)
    (hsuccessor : Source symbol stream epoch' kind successor) {K : Nat}
    (hK : Converges predecessor successor K) : K ≤ found.1.finalSequence.toNat := by
  obtain ⟨p, hp, before, q, c, after, hsplit, rfl, hq, hdigest, hfirst, hfinal⟩ := hK
  obtain ⟨hmem, hconvergent⟩ := h.convergent
  obtain ⟨hfoundP, hfoundQ⟩ := predecessorBySequence_eq_some hconvergent.lookup
  obtain ⟨before', after', hsplit'⟩ := mem_windows2.mp hmem
  have hqmem : q ∈ successor := by simp [hsplit]
  have hqmem' : found.2.1 ∈ successor := by rw [hsplit']; simp
  have hsame : q.finalSequence = p.finalSequence := UInt64.toNat_inj.mp hq
  -- an accepted window is not later than the one the loop ends with
  have hdone : continues kind p q c (q.finalSequence.toNat + 1) = true →
      p.finalSequence.toNat ≤ found.1.finalSequence.toNat := by
    intro hcontinues
    have hlookup : predecessorBySequence predecessor q.finalSequence = some p := by
      rw [hsame]
      exact hpredecessor.lookup hp
    obtain ⟨-, hwindows, -⟩ := deriveLoop_spec _ h.loop_eq
    obtain ⟨found', hfound', hle⟩ := hwindows p (q, c) (mem_windows2.mpr ⟨before, after, hsplit⟩)
      ⟨hlookup, hdigest, hcontinues⟩
    cases hfound'
    exact UInt64.le_iff_toNat_le.mp hle
  cases kind with
  | depth =>
    apply hdone
    simp only [continues, Bool.and_eq_true, decide_eq_true_eq]
    omega
  | trade =>
    -- a first trade ends before all others, so it is not later either
    rcases hpredecessor.trade_first hp with hhead | hpfirst
    · exact hpredecessor.head_le hhead hfoundP
    rcases hsuccessor.trade_first hqmem with hhead | hqfirst
    · have hle := hsuccessor.head_le hhead hqmem'
      rw [hfoundQ, ← hsame]
      exact hle
    apply hdone
    have hconnected := hsuccessor.connected
    rw [hsplit] at hconnected
    obtain ⟨-, -, htrade⟩ :=
      (List.isChain_cons_cons.mp (List.isChain_append.mp hconnected).2.1).1
    obtain ⟨hcfirst, hcfinal⟩ := htrade rfl
    simp [continues, hpfirst, hqfirst, hsame, hcfirst, hcfinal]

variable {p q c : CanonicalObservationV1}

/-- The boundary and its continuation connect. -/
theorem Convergent.connects (h : Convergent kind predecessor (p, q, c)) : Connects kind p c := by
  obtain ⟨-, hfinal⟩ := predecessorBySequence_eq_some h.lookup
  have hcontinues := h.continues
  dsimp only at hfinal hcontinues
  rw [← hfinal] at hcontinues
  cases kind with
  | depth =>
    simp only [Boundary.continues, Bool.and_eq_true, decide_eq_true_eq] at hcontinues
    refine ⟨hcontinues.1, by omega, fun hkind => ?_⟩
    cases hkind
  | trade =>
    simp only [Boundary.continues, Bool.and_eq_true, beq_iff_eq] at hcontinues
    exact ⟨by omega, by omega, fun _ => ⟨hcontinues.1.2, hcontinues.2⟩⟩

theorem Convergent.validateBoundaryObservations_eq (h : Convergent kind predecessor (p, q, c))
    (hkind : boundary.streamKind = kind) (hsequence : boundary.boundarySequence = p.finalSequence)
    (hdigest : boundary.boundarySha256 = p.observationSha256) :
    validateBoundaryObservations boundary p q c = .ok () := by
  obtain ⟨-, hfinal⟩ := predecessorBySequence_eq_some h.lookup
  have hsame := h.digest_eq
  have hconnects := h.connects
  have hcontinues := h.continues
  dsimp only at hfinal hsame hcontinues
  have hmax := toNat_le_u64Max c.finalSequence
  have hnext : checkedAdd boundary.boundarySequence.toNat 1
      = some (p.finalSequence.toNat + 1) := by
    rw [hsequence]
    exact checkedAdd_eq (by have := hconnects.2.1; omega)
  unfold validateBoundaryObservations
  rw [if_neg (by simp [hsequence, hdigest, hfinal, hsame]), hnext, hkind]
  show (match kind with | .depth => _ | .trade => _) = _
  cases kind with
  | depth => exact if_neg (by have := hconnects.1; have := hconnects.2.1; omega)
  | trade =>
    simp only [Boundary.continues, Bool.and_eq_true, beq_iff_eq] at hcontinues
    obtain ⟨hfirst, hlast⟩ := hconnects.2.2 rfl
    refine if_neg ?_
    rw [hsequence, hfinal]
    rintro (hne | hne | hne | hne)
    · exact hne hcontinues.1.1.1
    · exact hne hcontinues.1.1.2
    · exact hne (hfinal ▸ hfirst)
    · exact hne (hfinal ▸ hlast)

/-- The checks of `select_canonical`, one by one. -/
theorem selectCanonical_of_checks (sha256 : Bytes → FixedBytes 32)
    {selected : List CanonicalObservationV1} {duplicates : Nat}
    {lastPredecessor first : CanonicalObservationV1} (hvalid : boundary.validate = .ok ())
    (hpredecessor : validateObservations boundary predecessor boundary.predecessorEpoch = .ok ())
    (hsuccessor : validateObservations boundary successor boundary.successorEpoch = .ok ())
    (hp : findPosition predecessor boundary.predecessorLastSelected = .ok p)
    (hq : findPosition successor boundary.successorBoundaryObservation = .ok q)
    (hc : findPosition successor boundary.successorFirstSelected = .ok c)
    (hproof : validateBoundaryObservations boundary p q c = .ok ())
    (hselect : validateAndSelectSequence boundary.streamKind
      (predecessor.filter (keptOfPredecessor boundary) ++
        successor.filter (keptOfSuccessor boundary)) = .ok (selected, duplicates))
    (hlast : selected.reverse.find? (fun item =>
      item.connectionEpoch == boundary.predecessorEpoch) = some lastPredecessor)
    (hfirst : selected.find? (fun item =>
      item.connectionEpoch == boundary.successorEpoch) = some first)
    (hsequence : lastPredecessor.finalSequence = boundary.boundarySequence)
    (hframe : first.frameIndex = boundary.successorFirstSelected.frameIndex) :
    ∃ selection, selectCanonical sha256 boundary predecessor successor = .ok selection ∧
      selection.boundarySequence = lastPredecessor.finalSequence := by
  have hne : selected ≠ [] := List.ne_nil_of_mem (List.mem_of_find?_eq_some hfirst)
  obtain ⟨head, hhead⟩ : ∃ head, (selected.map selectedRef).head? = some head :=
    Option.isSome_iff_exists.mp (by simpa using hne)
  obtain ⟨last, hend⟩ : ∃ last, (selected.map selectedRef).getLast? = some last :=
    Option.isSome_iff_exists.mp (by simpa using hne)
  unfold selectCanonical
  rw [hvalid, hpredecessor, hsuccessor, hp, hq, hc]
  simp only [bind, Except.bind]
  rw [hproof, hselect]
  simp only
  rw [if_neg (by simpa using hne), hlast, hfirst]
  simp only [okOr]
  rw [if_neg (by simp [hsequence, hframe]), hhead, hend]
  exact ⟨_, rfl, hsequence.symm⟩

/-- **The derived boundary is selectable.** Its three frames are found again, and the
    predecessor up to the first of them connects with the successor from the last on. -/
theorem Derived.selects
    (h : Derived boundaryId kind predecessor successor predecessorDurability successorDurability
      specRevision boundary firstPredecessor firstSuccessor found)
    (hpredecessor : Source symbol stream epoch kind predecessor)
    (hsuccessor : Source symbol stream epoch' kind successor) (hheadP : HeadInRange predecessor)
    (hheadS : HeadInRange successor) (sha256 : Bytes → FixedBytes 32) :
    ∃ selection, selectCanonical sha256 boundary predecessor successor = .ok selection ∧
      selection.boundarySequence = found.1.finalSequence := by
  obtain ⟨hmem, hconvergent⟩ := h.convergent
  obtain ⟨p, q, c⟩ := found
  obtain ⟨hp, hfinal⟩ := predecessorBySequence_eq_some hconvergent.lookup
  obtain ⟨before, after, hbefore⟩ := List.append_of_mem hp
  obtain ⟨overlap, rest, hoverlap⟩ := mem_windows2.mp hmem
  have hsplit : successor = (overlap ++ [q]) ++ c :: rest := by
    rw [hoverlap, List.append_assoc, List.singleton_append]
  have hq : q ∈ successor := by simp [hsplit]
  have hc : c ∈ successor := by simp [hsplit]
  have hfirstP : firstPredecessor ∈ predecessor := List.mem_of_mem_head? h.predecessor_head
  have hfirstS : firstSuccessor ∈ successor := List.mem_of_mem_head? h.successor_head
  have hvalid := h.valid
  have hepochs : boundary.predecessorEpoch = epoch ∧ boundary.successorEpoch = epoch' := by
    rw [h.boundary_eq]
    exact ⟨hpredecessor.epoch_eq _ hfirstP, hsuccessor.epoch_eq _ hfirstS⟩
  have hne : epoch ≠ epoch' := by
    unfold HandoverBoundaryV1.validate at hvalid
    rw [ite_err_eq_ok] at hvalid
    simp only [not_or] at hvalid
    rw [← hepochs.1, ← hepochs.2]
    exact hvalid.1.2.2.2.2.2.2.1
  -- the committed positions are the frames of the convergence
  have hlast : boundary.predecessorLastSelected = position p := by rw [h.boundary_eq]; rfl
  have hboundary : boundary.successorBoundaryObservation = position q := by rw [h.boundary_eq]; rfl
  have hfirst : boundary.successorFirstSelected = position c := by rw [h.boundary_eq]; rfl
  have hsequence : boundary.boundarySequence = p.finalSequence := by rw [h.boundary_eq]; rfl
  have hdigest : boundary.boundarySha256 = p.observationSha256 := by rw [h.boundary_eq]; rfl
  have hkind : boundary.streamKind = kind := by rw [h.boundary_eq]; rfl
  have hsymbol : boundary.symbol = symbol := by
    rw [h.boundary_eq]
    exact hpredecessor.symbol_eq _ hfirstP
  have hstream : boundary.stream = stream := by
    rw [h.boundary_eq]
    exact hpredecessor.stream_eq _ hfirstP
  -- what is kept of the two sources
  have hkeptP : predecessor.filter (keptOfPredecessor boundary) = before ++ [p] := by
    have hkept : keptOfPredecessor boundary = fun x => decide (x.frameIndex ≤ p.frameIndex) := by
      funext x
      unfold keptOfPredecessor
      rw [hlast]
      rfl
    rw [hkept]
    subst hbefore
    exact hpredecessor.filter_le
  have hkeptS : successor.filter (keptOfSuccessor boundary) = c :: rest := by
    have hkept : keptOfSuccessor boundary = fun x => decide (c.frameIndex ≤ x.frameIndex) := by
      funext x
      unfold keptOfSuccessor
      rw [hfirst]
      rfl
    rw [hkept]
    subst hsplit
    exact hsuccessor.filter_ge
  -- the kept observations are one connected chain
  have hchain : ((before ++ [p]) ++ c :: rest).IsChain (Connects kind) := by
    have hchainP := hpredecessor.connected
    have hchainS := hsuccessor.connected
    rw [hbefore, ← List.singleton_append, ← List.append_assoc] at hchainP
    rw [hsplit] at hchainS
    rw [List.isChain_append]
    refine ⟨(List.isChain_append.mp hchainP).1, (List.isChain_append.mp hchainS).2.1, ?_⟩
    intro last hlast next hnext
    rw [List.getLast?_concat, Option.mem_some_iff] at hlast
    cases hlast
    cases hnext
    exact hconvergent.connects
  have hselect : validateAndSelectSequence kind ((before ++ [p]) ++ c :: rest)
      = .ok ((before ++ [p]) ++ c :: rest, 0) := selectLoop_of_isChain _ hchain
  -- the ends of the splice in the selection
  have hepochP : p.connectionEpoch = epoch := hpredecessor.epoch_eq p hp
  have hepochS : ∀ o ∈ c :: rest, o.connectionEpoch = epoch' := by
    intro o ho
    exact hsuccessor.epoch_eq o (by rw [hsplit]; exact List.mem_append_right _ ho)
  have hlastP : ((before ++ [p]) ++ c :: rest).reverse.find? (fun item =>
      item.connectionEpoch == epoch) = some p := by
    rw [List.reverse_append, List.find?_append, List.find?_eq_none.mpr, Option.none_or,
      List.reverse_append]
    · simp [hepochP]
    · intro o ho
      rw [hepochS o (List.mem_reverse.mp ho)]
      simpa using fun heq => hne heq.symm
  have hfirstC : ((before ++ [p]) ++ c :: rest).find? (fun item =>
      item.connectionEpoch == epoch') = some c := by
    rw [List.find?_append, List.find?_eq_none.mpr, Option.none_or]
    · simp [hepochS c List.mem_cons_self]
    · intro o ho
      have hmem : o ∈ predecessor := by
        rw [hbefore, ← List.singleton_append, ← List.append_assoc]
        exact List.mem_append_left _ ho
      rw [hpredecessor.epoch_eq o hmem]
      simpa using hne
  apply selectCanonical_of_checks sha256 hvalid
    (hepochs.1 ▸ hpredecessor.validateObservations_eq hheadP hsymbol hstream hkind
      (List.ne_nil_of_mem hp))
    (hepochs.2 ▸ hsuccessor.validateObservations_eq hheadS hsymbol hstream hkind
      (List.ne_nil_of_mem hq))
    (hlast ▸ hpredecessor.findPosition_eq hp) (hboundary ▸ hsuccessor.findPosition_eq hq)
    (hfirst ▸ hsuccessor.findPosition_eq hc)
    (hconvergent.validateBoundaryObservations_eq hkind hsequence hdigest)
    (by rw [hkeptP, hkeptS, hkind]; exact hselect) (hepochs.1 ▸ hlastP) (hepochs.2 ▸ hfirstC)
    hsequence.symm (by rw [hfirst]; rfl)

/-! ## The two together -/

theorem bind_ne_abort {α β : Type} {x : Result α} {f : α → Result β} (hx : x ≠ .error .abort)
    (hf : ∀ a, f a ≠ .error .abort) : (x >>= f) ≠ .error .abort := by
  cases x with
  | error e => exact fun h => hx (by cases h; rfl)
  | ok a => exact hf a

theorem okOr_ne_abort {α : Type} {o : Option α} : okOr o message ≠ .error .abort := by
  cases o <;> simp [okOr, err]

theorem ite_err_ne_abort {α : Type} {c : Prop} [Decidable c] {x : Result α}
    (hx : x ≠ .error .abort) : (if c then err message else x) ≠ .error .abort := by
  split
  · simp [err]
  · exact hx

theorem validateDigest_ne_abort (digest : String) : validateDigest digest ≠ .error .abort := by
  unfold validateDigest
  split <;> simp [err]

theorem validate_ne_abort (boundary : HandoverBoundaryV1) : boundary.validate ≠ .error .abort := by
  unfold HandoverBoundaryV1.validate
  apply ite_err_ne_abort
  iterate 6
    apply bind_ne_abort (validateDigest_ne_abort _)
    intro _
  exact ite_err_ne_abort (ite_err_ne_abort (ite_err_ne_abort (by simp)))

theorem deriveLoop_ne_abort (windows : List (CanonicalObservationV1 × CanonicalObservationV1))
    (selected : Option Convergence) :
    deriveLoop kind predecessor windows selected ≠ .error .abort := by
  induction windows generalizing selected with
  | nil => simp [deriveLoop]
  | cons window rest ih =>
    unfold deriveLoop
    split
    · exact ih selected
    · split
      · exact ih selected
      · apply bind_ne_abort okOr_ne_abort
        intro next
        split
        · exact ih _
        · exact ih selected

theorem deriveHandoverBoundary_err
    (h : ∀ boundary, deriveHandoverBoundary boundaryId kind predecessor successor
      predecessorDurability successorDurability specRevision ≠ .ok boundary) :
    ∃ message, deriveHandoverBoundary boundaryId kind predecessor successor predecessorDurability
      successorDurability specRevision = err message := by
  have habort : deriveHandoverBoundary boundaryId kind predecessor successor predecessorDurability
      successorDurability specRevision ≠ .error .abort := by
    unfold deriveHandoverBoundary
    refine ite_err_ne_abort (bind_ne_abort okOr_ne_abort fun _ => bind_ne_abort okOr_ne_abort
      fun _ => ite_err_ne_abort (bind_ne_abort (deriveLoop_ne_abort _ _) fun _ =>
        bind_ne_abort okOr_ne_abort fun _ => bind_ne_abort (validate_ne_abort _) fun _ => ?_))
    simp [pure, Except.pure]
  cases hderive : deriveHandoverBoundary boundaryId kind predecessor successor predecessorDurability
      successorDurability specRevision with
  | ok boundary => exact absurd hderive (h boundary)
  | error e =>
    cases e with
    | err message => exact ⟨message, rfl⟩
    | abort => exact absurd hderive habort

end

/-- **Deriving and applying a boundary compose.** Over two sources of one stream, a derived
    boundary is selected, at the last sequence where the sources converge; without a
    convergence there is no boundary. -/
theorem derive_then_select (sha256 : Bytes → FixedBytes 32) (boundaryId : String)
    (kind streamKind : BoundaryStreamKind) {symbol stream epoch epoch' : String}
    {predecessor successor : List CanonicalObservationV1}
    (predecessorDurability successorDurability : BoundaryDurabilityV1) (specRevision : String)
    (hpredecessor : Source symbol stream epoch kind predecessor)
    (hsuccessor : Source symbol stream epoch' kind successor)
    (hheadP : HeadInRange predecessor) (hheadS : HeadInRange successor) :
    (∀ boundary, deriveHandoverBoundary boundaryId streamKind predecessor successor
        predecessorDurability successorDurability specRevision = .ok boundary →
      ∃ selection, selectCanonical sha256 boundary predecessor successor = .ok selection ∧
        selection.boundarySequence = boundary.boundarySequence ∧
        IsGreatest {K | Converges predecessor successor K} boundary.boundarySequence.toNat) ∧
    ((¬ ∃ K, Converges predecessor successor K) →
      ∃ message, deriveHandoverBoundary boundaryId streamKind predecessor successor
        predecessorDurability successorDurability specRevision = err message) := by
  have hderived : ∀ boundary, deriveHandoverBoundary boundaryId streamKind predecessor successor
        predecessorDurability successorDurability specRevision = .ok boundary →
      (∃ selection, selectCanonical sha256 boundary predecessor successor = .ok selection ∧
        selection.boundarySequence = boundary.boundarySequence) ∧
      IsGreatest {K | Converges predecessor successor K} boundary.boundarySequence.toNat := by
    intro boundary hok
    obtain ⟨firstPredecessor, firstSuccessor, found, hderived⟩ := deriveHandoverBoundary_eq_ok hok
    have hkind : streamKind = kind := by
      rw [← hderived.kind_eq]
      exact hpredecessor.kind_eq _ (List.mem_of_mem_head? hderived.predecessor_head)
    subst hkind
    have hsequence : boundary.boundarySequence = found.1.finalSequence := by
      rw [hderived.boundary_eq]
      rfl
    obtain ⟨selection, hselection, heq⟩ :=
      hderived.selects hpredecessor hsuccessor hheadP hheadS sha256
    refine ⟨⟨selection, hselection, heq.trans hsequence.symm⟩, ?_, ?_⟩
    · obtain ⟨hmem, hconvergent⟩ := hderived.convergent
      show Converges predecessor successor boundary.boundarySequence.toNat
      rw [hsequence]
      exact hconvergent.converges hmem
    · intro K hK
      rw [hsequence]
      exact hderived.greatest hpredecessor hsuccessor hK
  refine ⟨?_, ?_⟩
  · intro boundary hok
    obtain ⟨⟨selection, hselection, heq⟩, hgreatest⟩ := hderived boundary hok
    exact ⟨selection, hselection, heq, hgreatest⟩
  · intro hnone
    apply deriveHandoverBoundary_err
    intro boundary hok
    exact hnone ⟨_, (hderived boundary hok).2.1⟩

/-- A successor that repeats the predecessor's observation and goes on. -/
def sampleSuccessor : List CanonicalObservationV1 :=
  [sampleDepth "b" 0 8 10 (digits '1'), sampleDepth "b" 1 11 15 (digits '2')]

/-- A predecessor whose only observation begins after its end. -/
def invertedPredecessor : List CanonicalObservationV1 := [sampleDepth "a" 0 20 10 (digits '1')]

def sampleDerive (predecessor successor : List CanonicalObservationV1) :
    Result HandoverBoundaryV1 :=
  deriveHandoverBoundary "x" .depth predecessor successor ⟨0, 100, zeroDigest⟩ ⟨9, 100, zeroDigest⟩
    "r"

theorem source_single {epoch : String} {o : CanonicalObservationV1}
    (hsymbol : o.symbol = "BTCUSDT") (hstream : o.stream = "btcusdt@depth")
    (hepoch : o.connectionEpoch = epoch) (hkind : o.streamKind = .depth)
    (hrecord : isLowerHex64 o.recordSha256 = true)
    (hobservation : isLowerHex64 o.observationSha256 = true) :
    Source "BTCUSDT" "btcusdt@depth" epoch .depth [o] := by
  refine ⟨?_, ?_, ?_, ?_, ?_, ?_, List.isChain_singleton _, List.isChain_singleton _⟩ <;>
  · intro x hx
    cases List.mem_singleton.mp hx
    assumption

theorem sampleSuccessor_source :
    Source "BTCUSDT" "btcusdt@depth" "b" .depth sampleSuccessor := by
  refine ⟨by decide +kernel, by decide +kernel, by decide +kernel, by decide +kernel,
    by decide +kernel, by decide +kernel, ?_, ?_⟩
  · exact List.isChain_cons_cons.mpr ⟨by decide +kernel, List.isChain_singleton _⟩
  · refine List.isChain_cons_cons.mpr ⟨⟨by decide +kernel, by decide +kernel, ?_⟩,
      List.isChain_singleton _⟩
    intro hkind
    cases hkind

theorem sampleSuccessor_inRange : HeadInRange sampleSuccessor := by
  intro o ho
  cases ho
  decide

/-- The sample handover is derived at sequence 10 and selected. -/
theorem sample_derives_and_selects :
    ∃ boundary, sampleDerive samplePredecessor sampleSuccessor = .ok boundary ∧
      ∃ selection, selectCanonical sampleSha256 boundary samplePredecessor sampleSuccessor
          = .ok selection ∧
        selection.boundarySequence = boundary.boundarySequence ∧
        IsGreatest {K | Converges samplePredecessor sampleSuccessor K}
          boundary.boundarySequence.toNat := by
  have hok : (sampleDerive samplePredecessor sampleSuccessor).isOk = true := by decide +kernel
  obtain ⟨boundary, hboundary⟩ := isOk_eq_true.mp hok
  have hsource : Source "BTCUSDT" "btcusdt@depth" "a" .depth samplePredecessor :=
    source_single rfl rfl rfl rfl (by decide +kernel) (by decide +kernel)
  have hrange : HeadInRange samplePredecessor := by
    intro o ho
    cases ho
    decide
  exact ⟨boundary, hboundary, (derive_then_select sampleSha256 "x" .depth .depth
    ⟨0, 100, zeroDigest⟩ ⟨9, 100, zeroDigest⟩ "r" hsource sampleSuccessor_source hrange
    sampleSuccessor_inRange).1 boundary hboundary⟩

/-- A first observation with an inverted range: its boundary is derived, not selected. -/
theorem inverted_range_is_not_selected :
    Source "BTCUSDT" "btcusdt@depth" "a" .depth invertedPredecessor ∧
    Source "BTCUSDT" "btcusdt@depth" "b" .depth sampleSuccessor ∧
    (∀ o ∈ invertedPredecessor, o.frameIndex ≤ 0) ∧ (∀ o ∈ sampleSuccessor, o.frameIndex ≤ 9) ∧
    ∃ boundary, sampleDerive invertedPredecessor sampleSuccessor = .ok boundary ∧
      ∀ sha256, selectCanonical sha256 boundary invertedPredecessor sampleSuccessor
        = err "observation identity/range does not match boundary" := by
  have hok : (sampleDerive invertedPredecessor sampleSuccessor).isOk = true := by decide +kernel
  obtain ⟨boundary, hboundary⟩ := isOk_eq_true.mp hok
  obtain ⟨_, _, _, hderived⟩ := deriveHandoverBoundary_eq_ok hboundary
  refine ⟨source_single rfl rfl rfl rfl (by decide +kernel) (by decide +kernel),
    sampleSuccessor_source, by decide +kernel, by decide +kernel, boundary, hboundary, ?_⟩
  intro sha256
  have hinverted : validateObservations boundary invertedPredecessor boundary.predecessorEpoch
      = err "observation identity/range does not match boundary" := by
    unfold validateObservations
    rw [if_neg (by decide)]
    unfold invertedPredecessor validateLoop
    exact if_pos (Or.inr (Or.inr (Or.inr (Or.inr (by decide)))))
  unfold selectCanonical
  rw [hderived.valid, hinverted]
  rfl

end LobReplay.Boundary
