/-
  The incremental fingerprint of a book is exact. `apply_depth` XORs the digest of a level out when
  it changes the level and the digest of the new one in; in every book that was loaded from a
  snapshot or a checkpoint the fingerprint is the XOR over the levels it holds, whatever updates
  followed and however they ended (`run_exact`).
-/

import LobReplay.Book.Checkpoint
import LobReplay.Book.Live
import LobReplay.Foundation.Entrywise

namespace LobReplay.Book

open Foundation
open Std (ExtTreeMap TransCmp LawfulEqCmp)
open Raw (requiredStr requiredU64)

/-! ## XOR of fingerprints -/

/-- `[0; 4]`. -/
def zeroFingerprint : Fingerprint := Vector.replicate 4 0

theorem getElem_xor (a b : Fingerprint) {index : Nat} (h : index < 4) :
    (xorLevelFingerprint a b)[index] = a[index] ^^^ b[index] := by
  simp [xorLevelFingerprint]

theorem xor_comm (a b : Fingerprint) : xorLevelFingerprint a b = xorLevelFingerprint b a := by
  ext index h
  rw [getElem_xor _ _ h, getElem_xor _ _ h, UInt64.xor_comm]

theorem xor_assoc (a b c : Fingerprint) :
    xorLevelFingerprint (xorLevelFingerprint a b) c
      = xorLevelFingerprint a (xorLevelFingerprint b c) := by
  ext index h
  iterate 4 rw [getElem_xor _ _ h]
  rw [UInt64.xor_assoc]

instance : Std.Commutative xorLevelFingerprint := ⟨xor_comm⟩

instance : Std.Associative xorLevelFingerprint := ⟨xor_assoc⟩

theorem xor_zero (a : Fingerprint) : xorLevelFingerprint a zeroFingerprint = a := by
  ext index h
  rw [getElem_xor _ _ h]
  simp [zeroFingerprint]

/-- XOR-ing a digest in twice takes it out again. -/
theorem xor_xor_self (a b : Fingerprint) :
    xorLevelFingerprint (xorLevelFingerprint a b) b = a := by
  ext index h
  rw [getElem_xor _ _ h, getElem_xor _ _ h, UInt64.xor_assoc, UInt64.xor_self, UInt64.xor_zero]

/-! ## Sides -/

/-- The XOR of the digests of the levels of a side. -/
def sideFingerprint (codec : BookCodec) (sideTag : UInt8) (side : Side) : Fingerprint :=
  combined xorLevelFingerprint zeroFingerprint (levelFingerprint codec sideTag) side

theorem foldl_xor (start : Fingerprint) (digests : List Fingerprint) :
    digests.foldl xorLevelFingerprint start
      = xorLevelFingerprint start (digests.foldr xorLevelFingerprint zeroFingerprint) := by
  induction digests generalizing start with
  | nil => exact (xor_zero start).symm
  | cons first rest ih => rw [List.foldl_cons, List.foldr_cons, ih, xor_assoc]

theorem fingerprintSide_eq (codec : BookCodec) (sideTag : UInt8) (side : Side)
    (fingerprint : Fingerprint) :
    fingerprintSide codec sideTag side fingerprint
      = xorLevelFingerprint fingerprint (sideFingerprint codec sideTag side) := by
  rw [sideFingerprint, combined, ← foldl_xor, List.foldl_map]
  rfl

/-- **One update** changes the fingerprint as it changes the side. -/
theorem applyLevel_fingerprint (codec : BookCodec) (sideTag : UInt8) {target : Side × Fingerprint}
    {base : Fingerprint} (update : Level)
    (h : target.2 = xorLevelFingerprint base (sideFingerprint codec sideTag target.1)) :
    (applyLevel codec sideTag target update).2
      = xorLevelFingerprint base
          (sideFingerprint codec sideTag (applyLevel codec sideTag target update).1) := by
  obtain ⟨side, fingerprint⟩ := target
  obtain ⟨price, quantity⟩ := update
  simp only at h
  -- the side and the fingerprint without the price, then with its new quantity
  obtain ⟨without, happly, hwithout⟩ : ∃ without,
      applyLevel codec sideTag (side, fingerprint) (price, quantity)
        = (if quantity.isZero then (side.erase price, without)
          else (side.insert price quantity,
            xorLevelFingerprint without (levelFingerprint codec sideTag price quantity))) ∧
      without = xorLevelFingerprint base (sideFingerprint codec sideTag (side.erase price)) := by
    rcases hget : side[price]? with _ | oldQuantity
    · refine ⟨fingerprint, by simp [applyLevel, hget], ?_⟩
      rw [erase_of_not_mem hget, h]
    · refine ⟨xorLevelFingerprint fingerprint (levelFingerprint codec sideTag price oldQuantity),
        by simp [applyLevel, hget], ?_⟩
      rw [h, sideFingerprint, combined_erase _ _ _ hget, xor_comm (levelFingerprint _ _ _ _),
        ← xor_assoc, xor_xor_self]
      rfl
  rw [happly]
  by_cases hzero : quantity.isZero = true
  · rw [if_pos hzero]
    exact hwithout
  · rw [if_neg hzero]
    have hnot : price ∉ side.erase price := by simp
    have hin : sideFingerprint codec sideTag (side.insert price quantity)
        = xorLevelFingerprint (levelFingerprint codec sideTag price quantity)
            (sideFingerprint codec sideTag (side.erase price)) := by
      rw [← insert_erase]
      exact combined_insert _ _ _ hnot
    simp only [hin, hwithout]
    rw [xor_comm (levelFingerprint _ _ _ _), ← xor_assoc]

/-- **Updates of a side.** -/
theorem applySide_fingerprint (codec : BookCodec) (sideTag : UInt8) (updates : List Level)
    {target : Side × Fingerprint} {base : Fingerprint}
    (h : target.2 = xorLevelFingerprint base (sideFingerprint codec sideTag target.1)) :
    (applySide codec sideTag updates target).2
      = xorLevelFingerprint base
          (sideFingerprint codec sideTag (applySide codec sideTag updates target).1) := by
  induction updates generalizing target with
  | nil => exact h
  | cons update rest ih => exact ih (applyLevel_fingerprint codec sideTag update h)

/-! ## Books -/

namespace LocalOrderBook

/-- The XOR over all bid and ask levels of the book. -/
def levelsFingerprint (codec : BookCodec) (book : LocalOrderBook) : Fingerprint :=
  xorLevelFingerprint (sideFingerprint codec bidTag book.bids)
    (sideFingerprint codec askTag book.asks)

/-- The book's fingerprint is that of its levels. -/
def Exact (codec : BookCodec) (book : LocalOrderBook) : Prop :=
  book.levelFingerprint = book.levelsFingerprint codec

variable {codec : BookCodec} {book : LocalOrderBook} {loaded : LocalOrderBook} {payload : Bytes}
  {id : UInt64}

theorem checkInvariants_exact (h : Exact codec book) : Exact codec book.checkInvariants.2 := by
  rcases checkInvariants_cases book with ⟨e, hcheck, -⟩ | ⟨e, hcheck, -⟩ | ⟨hcheck, -⟩
  all_goals
    rw [hcheck]
    exact h

theorem fingerprintSide_both (codec : BookCodec) (bids asks : Side) :
    fingerprintSide codec askTag asks (fingerprintSide codec bidTag bids zeroFingerprint)
      = xorLevelFingerprint (sideFingerprint codec bidTag bids)
          (sideFingerprint codec askTag asks) := by
  rw [fingerprintSide_eq, fingerprintSide_eq, xor_comm zeroFingerprint, xor_zero]

/-- **What `load_snapshot` loads**: two sides without their history, in a book that passed
    its checks. -/
theorem loadSnapshot_eq_ok (h : book.loadSnapshot codec payload = (.ok id, loaded)) :
    ∃ bids asks value, loadSide codec "bid" bids = .ok loaded.bids ∧
      loadSide codec "ask" asks = .ok loaded.asks ∧
      loaded = { book with
        state := .syncing
        lastUpdateId := some value
        bids := loaded.bids
        asks := loaded.asks
        levelFingerprint := fingerprintSide codec askTag loaded.asks
          (fingerprintSide codec bidTag loaded.bids zeroFingerprint) } ∧
      loaded.checkInvariants = (.ok (), loaded) := by
  unfold loadSnapshot at h
  split at h
  · cases h
  rcases hvalue : codec.fromSlice payload with e | value
  · simp only [hvalue] at h
    cases h
  rcases hid : requiredU64 value "lastUpdateId" with e | updateId
  · simp only [hvalue, hid] at h
    cases h
  rcases hbids : loadSide codec "bid" (value.get "bids") with e | bids
  · simp only [hvalue, hid, hbids] at h
    cases h
  rcases hasks : loadSide codec "ask" (value.get "asks") with e | asks
  · simp only [hvalue, hid, hbids, hasks] at h
    cases h
  simp only [hvalue, hid, hbids, hasks] at h
  generalize hnext : LocalOrderBook.mk book.symbol .syncing (some updateId) bids asks _ = next at h
  rcases checkInvariants_cases next with ⟨e, hcheck, -⟩ | ⟨e, hcheck, -⟩ | ⟨hcheck, -⟩
  · rw [hcheck] at h
    cases h
  · rw [hcheck] at h
    cases h
  · rw [hcheck] at h
    obtain rfl : next = loaded := congrArg Prod.snd h
    subst hnext
    exact ⟨_, _, _, hbids, hasks, rfl, hcheck⟩

/-- **A loaded book is exact.** -/
theorem loadSnapshot_exact (h : book.loadSnapshot codec payload = (.ok id, loaded)) :
    Exact codec loaded := by
  obtain ⟨_, _, _, -, -, hloaded, -⟩ := loadSnapshot_eq_ok h
  have hfingerprint := congrArg levelFingerprint hloaded
  rw [Exact, hfingerprint]
  exact fingerprintSide_both codec loaded.bids loaded.asks

@[inherit_doc loadSnapshot_exact]
theorem fromCheckpoint_exact {checkpoint : OrderBookCheckpointV1}
    (h : fromCheckpoint codec checkpoint = .ok book) : Exact codec book := by
  obtain ⟨-, h⟩ := ite_err_eq_ok.mp h
  obtain ⟨start, hstart, h⟩ := bind_eq_ok.mp h
  obtain ⟨bids, -, h⟩ := bind_eq_ok.mp h
  obtain ⟨asks, -, h⟩ := bind_eq_ok.mp h
  obtain ⟨-, hstart⟩ := ite_err_eq_ok.mp hstart
  obtain rfl := Except.ok.inj hstart
  obtain ⟨-, -, h⟩ := bind_eq_ok.mp h
  obtain ⟨-, h⟩ := ite_err_eq_ok.mp h
  obtain rfl := Except.ok.inj h
  exact checkInvariants_exact (fingerprintSide_both codec bids asks)

theorem updated_exact (h : Exact codec book) (finalId : UInt64) (bids asks : List Level) :
    Exact codec (book.updated codec finalId bids asks) := by
  -- the bids first, over the fingerprint of the asks, then the asks over that of the new bids
  have hbids := @applySide_fingerprint codec bidTag bids (book.bids, book.levelFingerprint) _
    (h.trans (xor_comm _ _))
  generalize hside : applySide codec bidTag bids (book.bids, book.levelFingerprint) = bidSide
    at hbids
  have hasks := @applySide_fingerprint codec askTag asks (book.asks, bidSide.2) _
    (hbids.trans (xor_comm _ _))
  unfold Exact updated
  simp only [hside]
  exact hasks

/-- **Step.** An update keeps the fingerprint exact, also one that fails. -/
theorem applyDepth_exact (h : Exact codec book) (payload : Bytes) :
    Exact codec (book.applyDepth codec payload).2 := by
  rcases applyDepth_cases codec book payload with ⟨e, hcase⟩ | ⟨e, hcase⟩ | hcase |
    ⟨finalId, bids, asks, -, hcase⟩
  · rw [hcase]
    exact h
  · rw [hcase]
    exact h
  · rw [hcase]
    exact h
  · rw [hcase, applyLevels_snd]
    exact checkInvariants_exact (updated_exact h finalId bids asks)

/-! ## Runs -/

/-- A book as it was loaded from a snapshot or a checkpoint. -/
inductive Loaded (codec : BookCodec) (book : LocalOrderBook) : Prop
  | snapshot {start : LocalOrderBook} {payload : Bytes} {id : UInt64}
      (h : start.loadSnapshot codec payload = (.ok id, book))
  | checkpoint {checkpoint : OrderBookCheckpointV1} (h : fromCheckpoint codec checkpoint = .ok book)

theorem Loaded.exact (h : Loaded codec book) : Exact codec book := by
  cases h with
  | snapshot h => exact loadSnapshot_exact h
  | checkpoint h => exact fromCheckpoint_exact h

/-- The book after the updates, whatever `apply_depth` returned. -/
def afterUpdates (codec : BookCodec) (book : LocalOrderBook) (payloads : List Bytes) :
    LocalOrderBook :=
  payloads.foldl (fun book payload => (book.applyDepth codec payload).2) book

/-- **Run.** The fingerprint stays exact over any updates. -/
theorem run_exact (h : Exact codec book) (payloads : List Bytes) :
    Exact codec (book.afterUpdates codec payloads) := by
  induction payloads generalizing book with
  | nil => exact h
  | cons payload rest ih => exact ih (applyDepth_exact h payload)

theorem sameStateFingerprint_of_exact {a b : LocalOrderBook} (ha : Exact codec a)
    (hb : Exact codec b) (h : sameState a b = true) : sameStateFingerprint a b = true := by
  simp only [sameState, decide_eq_true_eq] at h
  obtain ⟨-, -, hlast, hbids, hasks⟩ := h
  have hbids : a.bids = b.bids := ExtTreeMap.ext_toList (hbids ▸ List.Perm.refl _)
  have hasks : a.asks = b.asks := ExtTreeMap.ext_toList (hasks ▸ List.Perm.refl _)
  simp only [sameStateFingerprint, decide_eq_true_eq]
  refine ⟨hlast, by rw [hbids], by rw [hasks], ?_⟩
  rw [ha, hb, levelsFingerprint, levelsFingerprint, hbids, hasks]

/-- **The incremental fingerprint is exact**: it is the XOR over the levels the book holds, so two
    books of one state have one fingerprint, whatever updates made them. -/
theorem fingerprint_is_exact (codec : BookCodec) {a b : LocalOrderBook} (ha : Loaded codec a)
    (hb : Loaded codec b) (left right : List Bytes) :
    (a.afterUpdates codec left).levelFingerprint
        = (a.afterUpdates codec left).levelsFingerprint codec ∧
      (sameState (a.afterUpdates codec left) (b.afterUpdates codec right) = true →
        sameStateFingerprint (a.afterUpdates codec left) (b.afterUpdates codec right) = true) :=
  ⟨run_exact ha.exact left,
    sameStateFingerprint_of_exact (run_exact ha.exact left) (run_exact hb.exact right)⟩

/-- A loaded book, and the same one with its bid repeated. -/
theorem sample_fingerprint_is_exact :
    ∃ book, Loaded sampleCodec book ∧
      (sameState (book.afterUpdates sampleCodec [(sampleUpdate "1").toVec, (sampleUpdate "1").toVec])
          (book.afterUpdates sampleCodec [(sampleUpdate "1").toVec]) = true →
        sameStateFingerprint
          (book.afterUpdates sampleCodec [(sampleUpdate "1").toVec, (sampleUpdate "1").toVec])
          (book.afterUpdates sampleCodec [(sampleUpdate "1").toVec]) = true) := by
  have hload : (new "BTCUSDT").map (fun book =>
      (book.loadSnapshot sampleCodec sampleSnapshot.toVec).1.isOk) = .ok true := by
    decide +kernel
  obtain ⟨start, -, hload⟩ := map_eq_ok.mp hload
  obtain ⟨id, hid⟩ := isOk_eq_true.mp hload
  have hloaded : Loaded sampleCodec (start.loadSnapshot sampleCodec sampleSnapshot.toVec).2 :=
    .snapshot (show start.loadSnapshot sampleCodec sampleSnapshot.toVec = (.ok id, _) by rw [← hid])
  exact ⟨_, hloaded, (fingerprint_is_exact sampleCodec hloaded hloaded _ _).2⟩

end LocalOrderBook

end LobReplay.Book
