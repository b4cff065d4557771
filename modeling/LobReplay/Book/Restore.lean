/-
  A live book is restored from its checkpoint as it was. What a book goes through before it is live
  keeps it in order (`Orderly`): both sides hold positive levels and do not cross, the position is
  known, and the fingerprint is exact. The printed levels of a side are parsed as themselves and
  stand in the order the checkpoint asks for, so each side is read back as it was
  (`checkpointSide_restores`).
-/

import LobReplay.Book.Fingerprint
import LobReplay.Book.Plain
import LobReplay.Hex

namespace LobReplay.Book.LocalOrderBook

open Foundation
open Std (ExtTreeMap TransCmp LawfulEqCmp OrientedCmp)

/-! ## Sides -/

/-- The order the prices of a written side stand in. -/
def Follows (descending : Bool) (a b : Level) : Prop :=
  if descending then FixedDecimal.cmp b.1 a.1 = .lt else FixedDecimal.cmp a.1 b.1 = .lt

variable {descending : Bool} {book : LocalOrderBook} {codec : BookCodec} {a b : Level}
  {payload : Bytes}

theorem outOfOrder_of_follows (h : Follows descending a b) :
    outOfOrder descending (some a.1) b.1 = false := by
  cases descending with
  | true =>
    have hgt : FixedDecimal.cmp a.1 b.1 = .gt := OrientedCmp.gt_iff_lt.mpr h
    simp [outOfOrder, hgt]
  | false =>
    have hlt : FixedDecimal.cmp a.1 b.1 = .lt := h
    simp [outOfOrder, hlt]

theorem ne_of_follows (h : Follows descending a b) : a.1 ≠ b.1 := by
  intro heq
  have hself : FixedDecimal.cmp b.1 b.1 = .eq := Std.ReflCmp.compare_self
  cases descending <;>
  · have hlt : FixedDecimal.cmp b.1 b.1 = .lt := by simpa [Follows, heq] using h
    rw [hself] at hlt
    cases hlt

theorem checkpointLevels_eq (codec : BookCodec) (side : String) (descending : Bool)
    (levels : List Level) (hlevels : ∀ level ∈ levels, level.1.Positive ∧ level.2.Positive)
    (horder : levels.Pairwise (Follows descending)) (previous : Option FixedDecimal)
    (hprevious : ∀ level ∈ levels.head?, outOfOrder descending previous level.1 = false)
    (result : Side) (hresult : ∀ level ∈ levels, level.1 ∉ result) :
    ∃ restored, checkpointLevels codec side descending (levels.map levelTexts) previous result
        = .ok restored ∧ restored.toList.Perm (levels ++ result.toList) := by
  induction levels generalizing previous result with
  | nil => exact ⟨result, rfl, List.Perm.refl _⟩
  | cons level rest ih =>
    obtain ⟨hlevel, hrest⟩ := List.forall_mem_cons.mp hlevels
    obtain ⟨hhead, htail⟩ := List.pairwise_cons.mp horder
    obtain ⟨hnot, hnotRest⟩ := List.forall_mem_cons.mp hresult
    have hnext : ∀ next ∈ rest.head?, outOfOrder descending (some level.1) next.1 = false :=
      fun next hmem => outOfOrder_of_follows (hhead next (List.mem_of_mem_head? hmem))
    have hfresh : ∀ other ∈ rest, other.1 ∉ result.insert level.1 level.2 := by
      intro other hmem hin
      rw [ExtTreeMap.mem_insert, LawfulEqCmp.compare_eq_iff_eq] at hin
      rcases hin with heq | hin
      · exact ne_of_follows (hhead other hmem) heq
      · exact hnotRest other hmem hin
    obtain ⟨restored, hrestored, hperm⟩ := ih hrest htail (some level.1) hnext
      (result.insert level.1 level.2) hfresh
    refine ⟨restored, ?_, ?_⟩
    · have hpositive : ¬ (level.1.isZero ∨ level.1.isNegative ∨ level.2.isZero ∨
          level.2.isNegative) := by
        obtain ⟨hprice, hquantity⟩ := hlevel
        simp only [FixedDecimal.Positive] at hprice hquantity
        simp only [FixedDecimal.isZero, FixedDecimal.isNegative, decide_eq_true_eq]
        omega
      have horder' := hprevious level rfl
      rw [List.map_cons, checkpointLevels]
      simp only [levelTexts, FixedDecimal.parse_display]
      show (if _ then _ else _) = _
      rw [if_neg hpositive, horder', if_neg (by simp), if_neg hnot]
      exact hrestored
    · have hentries := toList_insert_perm (v := level.2) hnot
      refine hperm.trans (((List.Perm.refl rest).append hentries).trans ?_)
      exact List.perm_middle

/-- **A written side is read back as it was**, from either end. -/
theorem checkpointSide_restores (codec : BookCodec) (text : String) {side : Side}
    {levels : List Level} (hperm : levels.Perm side.toList)
    (horder : levels.Pairwise (Follows descending)) (hne : side ≠ ∅) (hpositives : Positives side) :
    checkpointSide codec (levels.map levelTexts) text descending = .ok side := by
  have hlevels : ∀ level ∈ levels, level.1.Positive ∧ level.2.Positive := fun level hmem =>
    hpositives level.1 level.2
      (ExtTreeMap.mem_toList_iff_getElem?_eq_some.mp (hperm.mem_iff.mp hmem))
  have hlevelsNe : (levels.map levelTexts).isEmpty = false := by
    rw [List.isEmpty_map, hperm.isEmpty_eq, ExtTreeMap.isEmpty_toList]
    simpa [ExtTreeMap.isEmpty_iff] using hne
  obtain ⟨restored, hrestored, hsame⟩ := checkpointLevels_eq codec text descending levels hlevels
    horder none (fun _ _ => rfl) ∅ (fun _ _ => by simp)
  have hempty : (∅ : Side).toList = [] := ExtTreeMap.toList_eq_nil_iff.mpr rfl
  obtain rfl : restored = side := by
    refine ExtTreeMap.ext_toList (hsame.trans ?_)
    rw [hempty, List.append_nil]
    exact hperm
  rw [checkpointSide, hlevelsNe, if_neg (by simp), hrestored]

/-! ## Books -/

/-- What a book keeps from its snapshot on, as long as its calls succeed. -/
structure Orderly (codec : BookCodec) (book : LocalOrderBook) : Prop where
  in_scope : ∃ start, new book.symbol = .ok start
  well_formed : book.WellFormed
  positioned : ∃ id, book.lastUpdateId = some id
  exact : Exact codec book

theorem wellFormed_of_checked {book' : LocalOrderBook} (h : book.checkInvariants = (.ok (), book'))
    (hbids : Positives book.bids) (hasks : Positives book.asks) :
    book' = book ∧ book.WellFormed := by
  rcases checkInvariants_cases book with ⟨e, hcheck, -⟩ | ⟨e, hcheck, -⟩ |
    ⟨hcheck, hbidsNe, hasksNe, huncrossed⟩
  · rw [hcheck] at h
    cases h
  · rw [hcheck] at h
    cases h
  · rw [hcheck] at h
    exact ⟨(congrArg Prod.snd h).symm, hbidsNe, hasksNe, huncrossed, hbids, hasks⟩

/-- **Start.** -/
theorem loadSnapshot_orderly {symbol : String} {start : LocalOrderBook} {id : UInt64}
    (hnew : new symbol = .ok start) (h : start.loadSnapshot codec payload = (.ok id, book)) :
    Orderly codec book := by
  obtain ⟨bids, asks, position, hbids, hasks, hbook, hcheck⟩ := loadSnapshot_eq_ok h
  have hsymbol : book.symbol = symbol := by
    obtain ⟨-, hstart⟩ := ite_err_eq_ok.mp hnew
    rw [hbook, ← Except.ok.inj hstart]
  exact ⟨⟨start, hsymbol ▸ hnew⟩,
    (wellFormed_of_checked hcheck (loadSide_ok hbids).1 (loadSide_ok hasks).1).2,
    ⟨position, by rw [hbook]⟩, loadSnapshot_exact h⟩

/-- **Step.** -/
theorem applyDepth_orderly {next : LocalOrderBook} {outcome : ApplyOutcome} (h : Orderly codec book)
    (happly : book.applyDepth codec payload = (.ok outcome, next)) : Orderly codec next := by
  have hexact := applyDepth_exact h.exact payload
  rw [happly] at hexact
  rcases applyDepth_cases codec book payload with ⟨e, hcase⟩ | ⟨e, hcase⟩ | hcase |
    ⟨finalId, bids, asks, hbridges, hcase⟩
  · rw [hcase] at happly
    cases happly
  · rw [hcase] at happly
    cases happly
  · rw [hcase] at happly
    obtain rfl : book = next := congrArg Prod.snd happly
    exact h
  -- the update passed the checks of the book it made
  obtain ⟨hbidLevels, haskLevels⟩ :
      (∀ level ∈ bids, LevelOk level) ∧ ∀ level ∈ asks, LevelOk level := by
    obtain ⟨_, _, _, _, -, -, -, -, -, hlevels⟩ := hbridges
    exact depthLevels_ok hlevels
  rw [hcase] at happly
  obtain ⟨hresult, hnext⟩ := Prod.mk.inj happly
  have hcheck : (book.updated codec finalId bids asks).checkInvariants = (.ok (), next) := by
    obtain ⟨⟨⟩, hok, -⟩ := map_eq_ok.mp hresult
    exact Prod.ext hok hnext
  obtain ⟨rfl, hwell⟩ := wellFormed_of_checked hcheck
    (applySide_positives hbidLevels h.well_formed.bids_positive)
    (applySide_positives haskLevels h.well_formed.asks_positive)
  exact ⟨h.in_scope, hwell, ⟨finalId, rfl⟩, hexact⟩

/-- A book reached from `new` by a successful `load_snapshot` and successful updates. -/
inductive Reached (codec : BookCodec) : LocalOrderBook → Prop
  | loaded {symbol : String} {start book : LocalOrderBook} {payload : Bytes} {id : UInt64}
      (hnew : new symbol = .ok start)
      (hload : start.loadSnapshot codec payload = (.ok id, book)) : Reached codec book
  | applied {book next : LocalOrderBook} {payload : Bytes} {outcome : ApplyOutcome}
      (hbook : Reached codec book)
      (happly : book.applyDepth codec payload = (.ok outcome, next)) : Reached codec next

/-- **Run.** -/
theorem Reached.orderly (h : Reached codec book) : Orderly codec book := by
  induction h with
  | loaded hnew hload => exact loadSnapshot_orderly hnew hload
  | applied _ happly ih => exact applyDepth_orderly ih happly

/-- **An orderly live book is restored from its checkpoint.** -/
theorem fromCheckpoint_checkpoint (h : Orderly codec book) (hlive : book.state = .live) :
    ∃ checkpoint, book.checkpoint codec = .ok checkpoint ∧
      fromCheckpoint codec checkpoint = .ok book := by
  obtain ⟨id, hid⟩ := h.positioned
  obtain ⟨start, hstart⟩ := h.in_scope
  have hstart' : start = ⟨book.symbol, .empty, none, ∅, ∅, zeroFingerprint⟩ :=
    (Except.ok.inj (ite_err_eq_ok.mp hstart).2).symm
  have hbids : checkpointSide codec (book.bids.toList.reverse.map levelTexts) "bid" true
      = .ok book.bids := by
    refine checkpointSide_restores codec "bid" (List.reverse_perm _) ?_ h.well_formed.bids_ne
      h.well_formed.bids_positive
    exact List.pairwise_reverse.mpr ExtTreeMap.ordered_keys_toList
  have hasks : checkpointSide codec (book.asks.toList.map levelTexts) "ask" false
      = .ok book.asks :=
    checkpointSide_restores codec "ask" (List.Perm.refl _) ExtTreeMap.ordered_keys_toList
      h.well_formed.asks_ne h.well_formed.asks_positive
  -- the restored book, with the fingerprint of its levels, is the book
  have hbook : ({ start with
      bids := book.bids
      asks := book.asks
      lastUpdateId := some id
      state := .live
      levelFingerprint := fingerprintSide codec askTag book.asks
        (fingerprintSide codec bidTag book.bids start.levelFingerprint) } : LocalOrderBook)
      = book := by
    rw [hstart', fingerprintSide_both, ← hlive, ← hid]
    exact congrArg (LocalOrderBook.mk _ _ _ _ _) h.exact.symm
  have hchecked : book.checkInvariants = (.ok (), book) := by
    obtain ⟨bid, ask, hbid, hask, hlt⟩ := h.well_formed.uncrossed
    simp only [checkInvariants, hbid, hask, hlt, if_true]
  refine ⟨_, by rw [checkpoint, if_neg (not_not.mpr hlive), hid]; rfl, ?_⟩
  have hidentity : ¬ ("OrderBookCheckpointV1" ≠ "OrderBookCheckpointV1" ∨
      isLowerHex64 (book.stateDigest codec) = false) := by
    rw [stateDigest, isLowerHex64_hex]
    simp
  rw [fromCheckpoint, if_neg hidentity]
  simp only [hstart, hbids, hasks]
  simp only [bind, Except.bind, hbook, hchecked]
  exact if_neg (not_not.mpr rfl)

/-! ## The theorem -/

/-- **A checkpoint restores the book**: it is read back as a book with the same symbol, state,
    position, sides and fingerprint, and further updates leave the same on both. -/
theorem checkpoint_restores (codec : BookCodec) {book : LocalOrderBook} (h : Reached codec book)
    (hlive : book.state = .live) :
    ∃ checkpoint restored, book.checkpoint codec = .ok checkpoint ∧
      fromCheckpoint codec checkpoint = .ok restored ∧
      restored.symbol = book.symbol ∧ restored.state = book.state ∧
      restored.lastUpdateId = book.lastUpdateId ∧ restored.bids = book.bids ∧
      restored.asks = book.asks ∧ restored.levelFingerprint = book.levelFingerprint ∧
      ∀ payloads,
        run (applyDepth codec) restored payloads = run (applyDepth codec) book payloads := by
  obtain ⟨checkpoint, hcheckpoint, hrestored⟩ := fromCheckpoint_checkpoint h.orderly hlive
  exact ⟨checkpoint, book, hcheckpoint, hrestored, rfl, rfl, rfl, rfl, rfl, rfl, fun _ => rfl⟩

/-- The book of the sample after an update. -/
theorem sample_checkpoint_restores :
    ∃ book checkpoint restored, Reached sampleCodec book ∧
      book.checkpoint sampleCodec = .ok checkpoint ∧
      fromCheckpoint sampleCodec checkpoint = .ok restored ∧ restored.bids = book.bids := by
  have hrun : (new "BTCUSDT").map (fun start =>
      let loaded := start.loadSnapshot sampleCodec sampleSnapshot.toVec
      let applied := loaded.2.applyDepth sampleCodec (sampleUpdate "1").toVec
      (loaded.1.isOk, applied.1.isOk, applied.2.state)) = .ok (true, true, .live) := by
    decide +kernel
  obtain ⟨start, hstart, hrun⟩ := map_eq_ok.mp hrun
  obtain ⟨hload, happly, hlive⟩ : _ ∧ _ ∧ _ := by simpa only [Prod.mk.injEq] using hrun
  obtain ⟨id, hid⟩ := isOk_eq_true.mp hload
  obtain ⟨outcome, houtcome⟩ := isOk_eq_true.mp happly
  have hloaded : Reached sampleCodec (start.loadSnapshot sampleCodec sampleSnapshot.toVec).2 :=
    .loaded hstart (show start.loadSnapshot sampleCodec sampleSnapshot.toVec = (.ok id, _) by
      rw [← hid])
  have happlied := Reached.applied hloaded (show
    (start.loadSnapshot sampleCodec sampleSnapshot.toVec).2.applyDepth sampleCodec
      (sampleUpdate "1").toVec = (.ok outcome, _) by rw [← houtcome])
  obtain ⟨checkpoint, restored, hcheckpoint, hrestored, -, -, -, hbids, -⟩ :=
    checkpoint_restores sampleCodec happlied hlive
  exact ⟨_, checkpoint, restored, happlied, hcheckpoint, hrestored, hbids⟩

end LobReplay.Book.LocalOrderBook
