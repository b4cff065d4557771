/-
  The terminal drain. With every lane excluded `flush` emits below the bound `u64::MAX`, which is
  exclusive: everything buffered is published in order but a trade of that very ID. It is the one ID
  no watermark passes, since a lane's cursor saturates there, so it is never published at all.
-/

import LobReplay.Union.Accounting

namespace LobReplay.TradeUnionState

open Foundation
open Std (TreeMap)

/-- The union after `exclude_lane` for each of the lanes. -/
def excludeLanes (s : TradeUnionState) (lanes : List CaptureLane) : TradeUnionState :=
  lanes.foldl excludeLane s

def buffered (s : TradeUnionState) : Nat := s.buffer.size

/-- `flush` returns what is buffered, in increasing order, and leaves nothing behind. -/
def DrainsCompletely (s : TradeUnionState) : Prop :=
  ∃ batch, s.flush.1 = .ok (.ofBatch batch) ∧ (batchIds batch).Pairwise (· < ·) ∧
    (∀ id, id ∈ batchIds batch ↔ id ∈ s.buffer) ∧
    (∀ item ∈ batch, ∃ entry : TradeUnionEntry,
      s.buffer[item.2.finalSequence]? = some entry ∧ item = (entry.lane, entry.observation)) ∧
    s.flush.2.buffered = 0

/-- Excluding lanes takes their cursors away and nothing else. -/
theorem excludeLanes_eq (s : TradeUnionState) (lanes : List CaptureLane) :
    s.excludeLanes lanes
      = { s with laneNext := fun lane => if lane ∈ lanes then none else s.laneNext lane } := by
  induction lanes generalizing s with
  | nil => simp [excludeLanes]
  | cons first rest ih =>
    show (s.excludeLane first).excludeLanes rest = _
    rw [ih, excludeLane]
    congr 1
    funext lane
    by_cases hrest : lane ∈ rest
    · simp [hrest]
    · by_cases hfirst : lane = first <;> simp [hrest, hfirst]

variable {s : TradeUnionState} {lanes : List CaptureLane}

/-- Without a live lane the drain is bounded by `u64::MAX`. -/
theorem drainBound_excluded (hlanes : ∀ lane, (s.laneNext lane).isSome = true → lane ∈ lanes) :
    (s.excludeLanes lanes).drainBound = some maxU64 := by
  have hnone : (fun lane => if lane ∈ lanes then none else s.laneNext lane) = fun _ => none := by
    funext lane
    split
    · rfl
    · next hnot => exact Option.not_isSome_iff_eq_none.mp (mt (hlanes lane) hnot)
  rw [excludeLanes_eq, hnone]
  rfl

/-- **The terminal drain of a union** is complete unless it holds the ID `u64::MAX`. -/
theorem drainsCompletely_excluded (hdur : s.durable = none) (hok : s.BufferOk)
    (hlanes : ∀ lane, (s.laneNext lane).isSome = true → lane ∈ lanes) :
    DrainsCompletely (s.excludeLanes lanes) ↔ maxU64 ∉ s.buffer := by
  have hbuffer : (s.excludeLanes lanes).buffer = s.buffer := by rw [excludeLanes_eq]
  obtain ⟨w, batch, s', hw, hdrain, hdrained⟩ :=
    drain_spec (s := s.excludeLanes lanes) (by rw [excludeLanes_eq]; exact hdur)
      (by rw [excludeLanes_eq]; exact ⟨hok.keys, hok.above⟩)
  obtain rfl : w = maxU64 := Option.some.inj (hw.symm.trans (drainBound_excluded hlanes))
  have hflush : (s.excludeLanes lanes).flush = (.ok (.ofBatch batch), s') := hdrain
  have hlt : ∀ id : UInt64, id < maxU64 ↔ id ≠ maxU64 := by
    intro id
    have := toNat_le_u64Max id
    rw [UInt64.lt_iff_toNat_lt, ne_eq, ← UInt64.toNat_inj, maxU64_toNat]
    omega
  have hempty : s'.buffered = 0 ↔ ∀ id : UInt64, id ∉ s'.buffer := by
    rw [buffered, ← beq_iff_eq, ← TreeMap.isEmpty_eq_size_eq_zero,
      TreeMap.isEmpty_iff_forall_not_mem]
  constructor
  · rintro ⟨-, -, -, -, -, hnone⟩ hmem
    rw [hflush, hempty] at hnone
    -- the bound itself stays
    refine hnone maxU64 ?_
    rw [TreeMap.mem_iff_isSome_getElem?, hdrained.kept maxU64 (by simp), hbuffer,
      ← TreeMap.mem_iff_isSome_getElem?]
    exact hmem
  · intro hnot
    refine ⟨batch, by rw [hflush], hdrained.sorted, ?_, hdrained.source, ?_⟩
    · intro id
      rw [hdrained.mem_ids, hbuffer, hlt]
      constructor
      · exact And.left
      · intro hin
        exact ⟨hin, fun heq => hnot (heq ▸ hin)⟩
    · rw [hflush, hempty]
      intro id hin
      by_cases hmax : id = maxU64
      · rw [hmax, TreeMap.mem_iff_isSome_getElem?, hdrained.kept maxU64 (by simp), hbuffer,
          ← TreeMap.mem_iff_isSome_getElem?] at hin
        exact hnot hin
      · rw [TreeMap.mem_iff_isSome_getElem?, hdrained.gone id ((hlt id).mpr hmax)] at hin
        cases hin

/-- **A terminal drain leaves nothing behind exactly if the ID `u64::MAX` is not buffered**, in
    every state a run of the union reaches. -/
theorem terminal_drain_iff (calls : List UnionCall) (lanes : List CaptureLane)
    (hlanes : ∀ lane, ((run call new calls).2.laneNext lane).isSome = true → lane ∈ lanes) :
    DrainsCompletely ((run call new calls).2.excludeLanes lanes) ↔
      maxU64 ∉ (run call new calls).2.buffer := by
  have hstart : PublishedOk new [] :=
    ⟨rfl, ⟨fun _ _ h => by simp [new] at h, fun _ _ h => by simp [new] at h⟩, List.Pairwise.nil,
      fun _ h => by cases h⟩
  have hrun := run_publishedOk hstart calls
  exact drainsCompletely_excluded hrun.durable hrun.buffer hlanes

def oneTrade (id : UInt64) : List UnionCall :=
  [.registerLane .primary, .observe .primary (sampleTrade id "primary")]

/-- A trade below the last ID is drained. -/
theorem terminal_drain_of_a_trade :
    DrainsCompletely ((run call new (oneTrade 7)).2.excludeLanes [.primary, .shadow]) ↔
      maxU64 ∉ (run call new (oneTrade 7)).2.buffer :=
  terminal_drain_iff (oneTrade 7) [.primary, .shadow] (by intro lane _; cases lane <;> decide)

/-- **The last ID stays behind.** -/
theorem terminal_drain_keeps_the_last_id :
    ¬ DrainsCompletely ((run call new (oneTrade maxU64)).2.excludeLanes [.primary, .shadow]) := by
  rintro ⟨-, -, -, -, -, hempty⟩
  exact absurd hempty (by decide +kernel)

end LobReplay.TradeUnionState
