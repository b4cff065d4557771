/-
  What one `observe` can do, said once (`observed`): reject its argument, skip pre-canonical
  history, classify an ID at or below the published position, meet a buffered contradiction, or
  merge the observation into the buffer and drain.
-/

import LobReplay.Union.Drain

namespace LobReplay

open Foundation
open Std (TreeMap)

/-- A typed late correction or a typed conflict. -/
def TradeUnionDisposition.Settled : TradeUnionDisposition → Prop
  | .late _ _ => True
  | .conflict _ _ _ => True
  | _ => False

instance (d : TradeUnionDisposition) : Decidable d.Settled := by
  cases d <;> unfold TradeUnionDisposition.Settled <;> infer_instance

theorem TradeUnionDisposition.Settled.batch_eq_nil {d : TradeUnionDisposition}
    (h : d.Settled) : d.batch = [] := by
  cases d with
  | publishable batch => exact h.elim
  | buffered => rfl
  | late o k => rfl
  | conflict i a b => rfl

namespace TradeUnionState

/-- The state `observe` drains: the entry merged, the lane advanced. -/
def merge (s : TradeUnionState) (lane : CaptureLane) (id : UInt64) (entry : TradeUnionEntry) :
    TradeUnionState :=
  ({ s with buffer := s.buffer.insert id entry }).advanceLane lane id

section

variable (s : TradeUnionState) (lane : CaptureLane) (id : UInt64) (entry : TradeUnionEntry)

theorem advanceLane_frame :
    s.advanceLane lane id = { s with laneNext := (s.advanceLane lane id).laneNext } := by
  simp only [advanceLane]
  split <;> rfl

@[simp] theorem merge_buffer : (s.merge lane id entry).buffer = s.buffer.insert id entry := by
  rw [merge, advanceLane_frame]

@[simp] theorem merge_lastPublishedId :
    (s.merge lane id entry).lastPublishedId = s.lastPublishedId := by
  rw [merge, advanceLane_frame]

@[simp] theorem merge_durable : (s.merge lane id entry).durable = s.durable := by
  rw [merge, advanceLane_frame]

@[simp] theorem merge_consumedFloor :
    (s.merge lane id entry).consumedFloor = s.consumedFloor := by
  rw [merge, advanceLane_frame]

@[simp] theorem merge_emissionClamps :
    (s.merge lane id entry).emissionClamps = s.emissionClamps := by
  rw [merge, advanceLane_frame]

end

/-- The entry `observe` leaves under the observation's ID: the first arrival keeps
    its place, and a second one agrees with it. -/
def Merges (s : TradeUnionState) (observation : CanonicalObservationV1)
    (entry : TradeUnionEntry) : Prop :=
  (s.buffer[observation.finalSequence]? = none ∧ entry.observation = observation) ∨
  ∃ first : TradeUnionEntry, s.buffer[observation.finalSequence]? = some first ∧
    entry.observation = first.observation ∧
    first.observation.observationSha256 = observation.observationSha256

/-- The outcomes of `observe`. -/
inductive Observed (s : TradeUnionState) (lane : CaptureLane)
    (observation : CanonicalObservationV1) :
    Result TradeUnionDisposition × TradeUnionState → Prop
  | rejected {e : Failure} (hcheck : checkTrade observation = .error e) :
      Observed s lane observation (.error e, s)
  | historical (hfloor : ∃ floor, s.consumedFloor = some floor ∧
        observation.finalSequence ≤ floor) :
      Observed s lane observation (.ok .buffered, s)
  | settled {d : TradeUnionDisposition} {s' : TradeUnionState} (hsettled : d.Settled)
      (hlate : ∃ last, s.lastPublishedId = some last ∧ observation.finalSequence ≤ last)
      (hframe : s' = { s with corrected := s'.corrected }) :
      Observed s lane observation (.ok d, s')
  | contradicted {d : TradeUnionDisposition} (hsettled : d.Settled)
      (hclash : ∃ first : TradeUnionEntry, s.buffer[observation.finalSequence]? = some first ∧
        first.observation.observationSha256 ≠ observation.observationSha256) :
      Observed s lane observation (.ok d, s)
  | merged {entry : TradeUnionEntry} (hmerge : s.Merges observation entry)
      (hfresh : ∀ last, s.lastPublishedId = some last → last < observation.finalSequence) :
      Observed s lane observation (s.merge lane observation.finalSequence entry).drain

theorem classifyRetained_settled (digest : String) (observation : CanonicalObservationV1) :
    (classifyRetained digest observation).Settled := by
  unfold classifyRetained
  split <;> trivial

variable {s : TradeUnionState}

/-- Below the published position `observe` classifies and only remembers corrections. -/
theorem observeLate_spec (hdur : s.durable = none) (id : UInt64)
    (observation : CanonicalObservationV1) :
    ∃ d s', s.observeLate id observation = (.ok d, s') ∧ d.Settled ∧
      s' = { s with corrected := s'.corrected } := by
  have hlog : s.durableDigest id = .ok none := by rw [durableDigest, hdur]
  simp only [observeLate, hlog]
  cases s.corrected[id]? with
  | some digest => exact ⟨_, _, rfl, classifyRetained_settled _ _, rfl⟩
  | none =>
    cases s.published[id]? with
    | some digest => exact ⟨_, _, rfl, classifyRetained_settled _ _, rfl⟩
    | none => exact ⟨_, _, rfl, trivial, rfl⟩

/-- **One observe.** -/
theorem observed (hdur : s.durable = none) (lane : CaptureLane)
    (observation : CanonicalObservationV1) :
    Observed s lane observation (s.observe lane observation) := by
  unfold observe
  cases hcheck : checkTrade observation with
  | error e => exact .rejected hcheck
  | ok id =>
    have hid : id = observation.finalSequence := by
      simp only [checkTrade, ite_err_eq_ok] at hcheck
      exact (Except.ok.inj hcheck.2.2).symm
    subst hid
    by_cases hfloor :
        s.consumedFloor.any (fun floor => decide (observation.finalSequence ≤ floor)) = true
    · simp only [hfloor, if_true]
      exact .historical (any_decide_eq_true.mp hfloor)
    · by_cases hlast :
          s.lastPublishedId.any (fun last => decide (observation.finalSequence ≤ last)) = true
      · simp only [hfloor, hlast, Bool.false_eq_true, if_false, if_true]
        obtain ⟨d, s', heq, hsettled, hframe⟩ :=
          observeLate_spec hdur observation.finalSequence observation
        rw [heq]
        exact .settled hsettled (any_decide_eq_true.mp hlast) hframe
      · have hfresh : ∀ last, s.lastPublishedId = some last →
            last < observation.finalSequence := by
          intro last hsome
          simp only [hsome, Option.any_some, decide_eq_true_eq] at hlast
          exact UInt64.not_le.mp hlast
        simp only [hfloor, hlast, Bool.false_eq_true, if_false, observeFresh]
        cases hbuf : s.buffer[observation.finalSequence]? with
        | none => exact .merged (.inl ⟨hbuf, rfl⟩) hfresh
        | some first =>
          by_cases hsha :
              first.observation.observationSha256 = observation.observationSha256
          · simp only [hsha, ne_eq, not_true_eq_false, if_false]
            have hmerge : s.Merges observation
                ⟨first.observation, first.lineages ++ [(lane, observation.recordSha256)]⟩ :=
              .inr ⟨first, hbuf, rfl, hsha⟩
            exact .merged hmerge hfresh
          · simp only [ne_eq, hsha, not_false_eq_true, if_true]
            exact .contradicted trivial ⟨first, hbuf, hsha⟩

theorem merge_bufferOk (hok : s.BufferOk) (lane : CaptureLane)
    {observation : CanonicalObservationV1} {entry : TradeUnionEntry}
    (hmerge : s.Merges observation entry)
    (hfresh : ∀ last, s.lastPublishedId = some last → last < observation.finalSequence) :
    (s.merge lane observation.finalSequence entry).BufferOk := by
  have hentry : entry.observation.finalSequence = observation.finalSequence := by
    rcases hmerge with ⟨-, heq⟩ | ⟨first, hget, heq, -⟩
    · rw [heq]
    · rw [heq]
      exact hok.keys _ first hget
  constructor
  · intro id e hget
    rw [merge_buffer, TreeMap.getElem?_insert] at hget
    split at hget
    · next hcmp =>
      cases hget
      rw [hentry]
      exact Std.LawfulEqCmp.eq_of_compare hcmp
    · exact hok.keys id e hget
  · intro id e hget last hlast
    rw [merge_lastPublishedId] at hlast
    rw [merge_buffer, TreeMap.getElem?_insert] at hget
    split at hget
    · next hcmp =>
      rw [← Std.LawfulEqCmp.eq_of_compare hcmp]
      exact hfresh last hlast
    · exact hok.above id e hget last hlast

end TradeUnionState

end LobReplay
