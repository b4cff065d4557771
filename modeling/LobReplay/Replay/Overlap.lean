/-
  The trade part of a handover proof (`derive_trade_evidence` of generation_handover.rs): the trades
  of the predecessor's terminal segment and of the successor's root segment are compared on their
  common range of trade IDs.

  What the evidence says is in `Shared`: the boundary is the predecessor's last trade, and the
  successor's trades from the terminal segment's first trade up to the boundary are trades of that
  segment. The successor's trades below are not looked at.
-/

import LobReplay.Boundary.Derivation
import LobReplay.Segment.Manifest

namespace LobReplay.Replay

open Foundation
open Boundary (RawPositionV1 position)
open Raw (RawSegmentManifestEntryV1)

/-! ## Evidence -/

structure RawSegmentReferenceV1 where
  stream : String
  connectionEpoch : String
  segmentIndex : UInt64
  manifestRecordSha256 : String
  rawFile : String
  firstFrameIndex : UInt64
  lastFrameIndex : UInt64
  terminalRecordSha256 : String
  deriving DecidableEq

def segmentReference (entry : RawSegmentManifestEntryV1) : RawSegmentReferenceV1 where
  stream := entry.sealed.stream
  connectionEpoch := entry.sealed.connectionEpoch
  segmentIndex := entry.sealed.segmentIndex
  manifestRecordSha256 := entry.manifestRecordSha256
  rawFile := entry.sealed.rawFile
  firstFrameIndex := entry.sealed.firstFrameIndex
  lastFrameIndex := entry.sealed.lastFrameIndex
  terminalRecordSha256 := entry.sealed.terminalRecordSha256

structure TradeOverlapEvidenceV1 where
  schema : String
  predecessorSegment : RawSegmentReferenceV1
  successorSegment : RawSegmentReferenceV1
  commonLowerTradeId : UInt64
  commonUpperTradeId : UInt64
  commonEvents : UInt64
  firstSharedTradeId : UInt64
  firstSharedEventSha256 : String
  predecessorFirstShared : RawPositionV1
  successorFirstShared : RawPositionV1
  nextSharedTradeId : UInt64
  nextSharedEventSha256 : String
  predecessorNextShared : RawPositionV1
  successorNextShared : RawPositionV1
  tradeIdContiguityClaim : String
  deriving DecidableEq

/-- The observations with a final sequence in `lower..=upper`. -/
def commonRange (lower upper : UInt64) (observations : List CanonicalObservationV1) :
    List CanonicalObservationV1 :=
  observations.filter fun item => lower ≤ item.finalSequence ∧ item.finalSequence ≤ upper

/-- The trade ID and the event digest of an observation. -/
def eventOf (item : CanonicalObservationV1) : UInt64 × String :=
  (item.finalSequence, item.observationSha256)

def deriveTradeEvidence (predecessorEntry successorEntry : RawSegmentManifestEntryV1)
    (predecessor successor : List CanonicalObservationV1) : Result TradeOverlapEvidenceV1 := do
  let firstAId ← okOr (predecessor.head?.map (·.finalSequence)) "predecessor trade overlap is empty"
  let lastAId ← okOr (predecessor.getLast?.map (·.finalSequence)) "predecessor trade overlap is empty"
  let firstBId ← okOr (successor.head?.map (·.finalSequence)) "successor trade overlap is empty"
  let lastBId ← okOr (successor.getLast?.map (·.finalSequence)) "successor trade overlap is empty"
  if lastBId < lastAId then
    err "successor durable trade prefix does not cover predecessor terminal trade"
  else
    let lower := if firstAId < firstBId then firstBId else firstAId
    let upper := if lastBId < lastAId then lastBId else lastAId
    let commonA := commonRange lower upper predecessor
    let commonB := commonRange lower upper successor
    if commonA.length < 2 ∨ commonA.length ≠ commonB.length ∨
        ((commonA.zip commonB).any fun pair => eventOf pair.1 ≠ eventOf pair.2) = true then
      err "complete ordered trade lists differ across their durable common ID range"
    else
      match commonA.reverse, commonB.reverse with
      | nextA :: firstA :: _, nextB :: firstB :: _ => .ok {
          schema := "TradeOverlapEvidenceV1"
          predecessorSegment := segmentReference predecessorEntry
          successorSegment := segmentReference successorEntry
          commonLowerTradeId := lower
          commonUpperTradeId := upper
          commonEvents := UInt64.ofNat commonA.length
          firstSharedTradeId := firstB.finalSequence
          firstSharedEventSha256 := firstB.observationSha256
          predecessorFirstShared := position firstA
          successorFirstShared := position firstB
          nextSharedTradeId := nextB.finalSequence
          nextSharedEventSha256 := nextB.observationSha256
          predecessorNextShared := position nextA
          successorNextShared := position nextB
          tradeIdContiguityClaim := "NONE_OFFICIAL_CONTRACT_DOES_NOT_PROMISE_CONSECUTIVE_IDS" }
      -- an index out of bounds; there are two events
      | _, _ => .error .abort

/-! ## What the evidence says -/

/-- The trade IDs rise. -/
def Rising (observations : List CanonicalObservationV1) : Prop :=
  observations.Pairwise fun a b => a.finalSequence < b.finalSequence

variable {observations : List CanonicalObservationV1} {o : CanonicalObservationV1}

theorem Rising.head_le (h : Rising observations) {first : CanonicalObservationV1}
    (hfirst : observations.head? = some first) (ho : o ∈ observations) :
    first.finalSequence ≤ o.finalSequence := by
  obtain ⟨rest, rfl⟩ := List.head?_eq_some_iff.mp hfirst
  rcases List.mem_cons.mp ho with rfl | ho
  · exact UInt64.le_refl _
  · exact UInt64.le_of_lt ((List.pairwise_cons.mp h).1 o ho)

theorem Rising.le_last (h : Rising observations) {last : CanonicalObservationV1}
    (hlast : observations.getLast? = some last) (ho : o ∈ observations) :
    o.finalSequence ≤ last.finalSequence := by
  obtain ⟨init, rfl⟩ := List.getLast?_eq_some_iff.mp hlast
  rcases List.mem_append.mp ho with ho | ho
  · exact UInt64.le_of_lt ((List.pairwise_append.mp h).2.2 o ho last List.mem_cons_self)
  · rw [List.mem_singleton.mp ho]
    exact UInt64.le_refl _

theorem map_eventOf_eq {xs ys : List CanonicalObservationV1} (hlength : xs.length = ys.length)
    (h : ((xs.zip ys).any fun pair => eventOf pair.1 ≠ eventOf pair.2) ≠ true) :
    xs.map eventOf = ys.map eventOf := by
  induction xs generalizing ys with
  | nil =>
    cases ys with
    | nil => rfl
    | cons y ys => cases hlength
  | cons x xs ih =>
    cases ys with
    | nil => cases hlength
    | cons y ys =>
      rw [List.zip_cons_cons, List.any_cons, ne_eq, Bool.or_eq_true, not_or] at h
      rw [List.map_cons, List.map_cons, ih (Nat.succ.inj hlength) h.2]
      have hxy : eventOf x = eventOf y := by simpa using h.1
      rw [hxy]

/-- What the evidence says of the terminal segment of the predecessor and the root segment of the
    successor, with the first trade of the one, the boundary in both. -/
structure Shared (predecessor successor : List CanonicalObservationV1)
    (evidence : TradeOverlapEvidenceV1) (first a b : CanonicalObservationV1) : Prop where
  starts : predecessor.head? = some first
  ends : predecessor.getLast? = some a
  mem : b ∈ successor
  same : eventOf b = eventOf a
  nextSharedTradeId : evidence.nextSharedTradeId = a.finalSequence
  predecessorNextShared : evidence.predecessorNextShared = position a
  successorNextShared : evidence.successorNextShared = position b
  compared : ∀ t ∈ successor, first.finalSequence ≤ t.finalSequence →
    t.finalSequence ≤ a.finalSequence → ∃ p ∈ predecessor, eventOf p = eventOf t

theorem deriveTradeEvidence_eq_ok {predecessorEntry successorEntry : RawSegmentManifestEntryV1}
    {predecessor successor : List CanonicalObservationV1} {evidence : TradeOverlapEvidenceV1}
    (hpredecessor : Rising predecessor) (hsuccessor : Rising successor)
    (h : deriveTradeEvidence predecessorEntry successorEntry predecessor successor = .ok evidence) :
    ∃ first a b, Shared predecessor successor evidence first a b := by
  obtain ⟨firstAId, hfirstAId, h⟩ := bind_eq_ok.mp h
  obtain ⟨lastAId, hlastAId, h⟩ := bind_eq_ok.mp h
  obtain ⟨firstBId, hfirstBId, h⟩ := bind_eq_ok.mp h
  obtain ⟨lastBId, hlastBId, h⟩ := bind_eq_ok.mp h
  obtain ⟨firstA, hfirstA, rfl⟩ := Option.map_eq_some_iff.mp (okOr_eq_ok.mp hfirstAId)
  obtain ⟨a, hlastA, rfl⟩ := Option.map_eq_some_iff.mp (okOr_eq_ok.mp hlastAId)
  obtain ⟨firstB, hfirstB, rfl⟩ := Option.map_eq_some_iff.mp (okOr_eq_ok.mp hfirstBId)
  obtain ⟨lastB, hlastB, rfl⟩ := Option.map_eq_some_iff.mp (okOr_eq_ok.mp hlastBId)
  obtain ⟨hcover, h⟩ := ite_err_eq_ok.mp h
  rw [if_neg hcover] at h
  obtain ⟨hcommon, h⟩ := ite_err_eq_ok.mp h
  simp only [not_or, Nat.not_lt, ne_eq, not_not] at hcommon
  obtain ⟨htwo, hlength, hpairs⟩ := hcommon
  generalize hlower : (if firstA.finalSequence < firstB.finalSequence then firstB.finalSequence
    else firstA.finalSequence) = lower at *
  have hevents := map_eventOf_eq hlength hpairs
  -- the common range reaches the last trade of the predecessor
  have hlowerLast : lower ≤ a.finalSequence := by
    obtain ⟨p, hp⟩ := List.exists_mem_of_length_pos (Nat.lt_of_lt_of_le Nat.zero_lt_two htwo)
    obtain ⟨hpmem, hprange⟩ := List.mem_filter.mp hp
    simp only [decide_eq_true_eq] at hprange
    exact UInt64.le_trans hprange.1 (hpredecessor.le_last hlastA hpmem)
  have hlastCommon : (commonRange lower a.finalSequence predecessor).getLast? = some a := by
    obtain ⟨init, hinit⟩ := List.getLast?_eq_some_iff.mp hlastA
    rw [commonRange, hinit, List.filter_append,
      List.filter_cons_of_pos (by simp [hlowerLast]), List.filter_nil, List.getLast?_concat]
  split at h
  · rename_i nextA firstA' restA nextB firstB' restB hrevA hrevB
    have hnextA : nextA = a := by
      have hlast := hlastCommon
      rw [List.getLast?_eq_head?_reverse, hrevA] at hlast
      exact Option.some.inj hlast
    subst hnextA
    have hnextB : (commonRange lower nextA.finalSequence successor).getLast? = some nextB := by
      rw [List.getLast?_eq_head?_reverse, hrevB]
      rfl
    have hsame : eventOf nextB = eventOf nextA := by
      have hlasts := congrArg List.getLast? hevents
      rw [List.getLast?_map, List.getLast?_map, hlastCommon, hnextB] at hlasts
      exact (Option.some.inj hlasts).symm
    obtain rfl := Except.ok.inj h
    refine ⟨firstA, nextA, nextB, hfirstA, hlastA, ?_, hsame, congrArg Prod.fst hsame, rfl, rfl, ?_⟩
    · exact (List.mem_filter.mp (List.mem_of_getLast? hnextB)).1
    · intro t ht hfirst hlast
      have hlow : lower ≤ t.finalSequence := by
        rw [← hlower]
        split
        · exact hsuccessor.head_le hfirstB ht
        · exact hfirst
      have hmem : t ∈ commonRange lower nextA.finalSequence successor :=
        List.mem_filter.mpr ⟨ht, by simp [hlow, hlast]⟩
      have hevent := List.mem_map_of_mem (f := eventOf) hmem
      rw [← hevents] at hevent
      obtain ⟨p, hp, hpt⟩ := List.mem_map.mp hevent
      exact ⟨p, (List.mem_filter.mp hp).1, hpt⟩
  · cases h

end LobReplay.Replay
