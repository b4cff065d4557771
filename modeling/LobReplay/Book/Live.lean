/-
  When a live book is well formed. `apply_depth` changes the sides in place and checks them
  afterwards; a crossed book is made `Invalid`, but an empty side only returns an error and the book
  stays `Live`. So a run keeps every live book well formed exactly if no update that bridges the
  book's position takes the last level of a side away.
-/

import LobReplay.Foundation.Machine
import LobReplay.Book.State

namespace LobReplay.Book

open Foundation
open Std (ExtTreeMap TransCmp LawfulEqCmp)
open Raw (requiredStr requiredU64)

/-! ## Sides -/

def Positives (side : Side) : Prop :=
  ∀ price quantity : FixedDecimal, side[price]? = some quantity → price.Positive ∧ quantity.Positive

theorem positives_empty : Positives ∅ := by
  intro price quantity h
  simp at h

variable {side : Side} {codec : BookCodec} {result : Side} {sideTag : UInt8}
  {target : Side × Fingerprint}

theorem positives_insert (h : Positives side) {price quantity : FixedDecimal}
    (hprice : price.Positive) (hquantity : quantity.Positive) :
    Positives (side.insert price quantity) := by
  intro price' quantity' hget
  rw [ExtTreeMap.getElem?_insert] at hget
  split at hget
  · next heq =>
    obtain rfl := LawfulEqCmp.eq_of_compare heq
    obtain rfl := Option.some.inj hget
    exact ⟨hprice, hquantity⟩
  · exact h price' quantity' hget

theorem positives_erase (h : Positives side) (price : FixedDecimal) :
    Positives (side.erase price) := by
  intro price' quantity' hget
  rw [ExtTreeMap.getElem?_erase] at hget
  split at hget
  · cases hget
  · exact h price' quantity' hget

/-- A side has no price exactly if it is empty. -/
theorem keys_eq_nil : side.keys = [] ↔ side = ∅ := by
  rw [← List.isEmpty_iff, ExtTreeMap.isEmpty_keys, ExtTreeMap.isEmpty_iff]

def LevelOk (level : Level) : Prop := level.1.Positive ∧ level.2.isNegative = false

theorem parseLevel_ok {side : String} {value : Value} {level : Level}
    (h : parseLevel codec side value = .ok level) : LevelOk level := by
  unfold parseLevel at h
  split at h
  · obtain ⟨_, -, h⟩ := bind_eq_ok.mp h
    obtain ⟨price, -, h⟩ := bind_eq_ok.mp h
    obtain ⟨_, -, h⟩ := bind_eq_ok.mp h
    obtain ⟨quantity, -, h⟩ := bind_eq_ok.mp h
    obtain ⟨hnot, h⟩ := ite_err_eq_ok.mp h
    obtain rfl := Except.ok.inj h
    simp only [not_or, Bool.not_eq_true] at hnot
    exact ⟨FixedDecimal.positive_of_not hnot.1 hnot.2.1, hnot.2.2⟩
  · simp at h

/-- **Loading.** A loaded side has only positive levels. -/
theorem loadLevels_positives {side : String} {values : List Value} {start : Side}
    (hstart : Positives start) (h : loadLevels codec side values start = .ok result) :
    Positives result := by
  induction values generalizing start with
  | nil =>
    obtain rfl := Except.ok.inj h
    exact hstart
  | cons value rest ih =>
    obtain ⟨⟨price, quantity⟩, hlevel, h⟩ := bind_eq_ok.mp h
    obtain ⟨hprice, hquantity⟩ := parseLevel_ok hlevel
    simp only at h hprice hquantity
    by_cases hzero : quantity.isZero = true
    · rw [if_pos hzero] at h
      exact ih hstart h
    · rw [if_neg hzero] at h
      obtain ⟨-, h⟩ := ite_err_eq_ok.mp h
      rw [Bool.not_eq_true] at hzero
      exact ih (positives_insert hstart hprice (FixedDecimal.positive_of_not hzero hquantity)) h

theorem loadSide_ok {side : String} {value : Option Value}
    (h : loadSide codec side value = .ok result) : Positives result ∧ result ≠ ∅ := by
  obtain ⟨levels, -, h⟩ := bind_eq_ok.mp h
  obtain ⟨loaded, hloaded, h⟩ := bind_eq_ok.mp h
  obtain ⟨hempty, h⟩ := ite_err_eq_ok.mp h
  obtain rfl := Except.ok.inj h
  exact ⟨loadLevels_positives positives_empty hloaded, fun hnil => hempty (by simp [hnil])⟩

theorem applyLevel_positives {update : Level} (hupdate : LevelOk update) (h : Positives target.1) :
    Positives (applyLevel codec sideTag target update).1 := by
  obtain ⟨price, quantity⟩ := update
  unfold applyLevel
  by_cases hzero : quantity.isZero = true
  · simp only [if_pos hzero]
    exact positives_erase h price
  · simp only [if_neg hzero]
    rw [Bool.not_eq_true] at hzero
    exact positives_insert h hupdate.1 (FixedDecimal.positive_of_not hzero hupdate.2)

/-- **Updates keep a side positive.** -/
theorem applySide_positives {updates : List Level} (hupdates : ∀ update ∈ updates, LevelOk update)
    (h : Positives target.1) : Positives (applySide codec sideTag updates target).1 := by
  induction updates generalizing target with
  | nil => exact h
  | cons update rest ih =>
    exact ih (fun u hu => hupdates u (List.mem_cons_of_mem _ hu))
      (applyLevel_positives (hupdates update List.mem_cons_self) h)

/-! ## What is left of a side -/

/-- The quantity the updates leave at a price, the last of them if there are several; nothing
    where they do not name the price. -/
def lastQuantity (updates : List Level) (price : FixedDecimal) : Option FixedDecimal :=
  (updates.reverse.find? fun update => update.1 = price).map (·.2)

/-- Some price of the side is left with a quantity: the updates give it one, or they do not
    name it and the side holds it. -/
def Survives (side : Side) (updates : List Level) : Prop :=
  ∃ price, match lastQuantity updates price with
    | some quantity => quantity.isZero = false
    | none => price ∈ side

theorem lastQuantity_cons (update : Level) (rest : List Level) (price : FixedDecimal) :
    lastQuantity (update :: rest) price
      = (lastQuantity rest price).or (if update.1 = price then some update.2 else none) := by
  unfold lastQuantity
  rw [List.reverse_cons, List.find?_append, Option.map_or]
  congr 1
  by_cases h : update.1 = price <;> simp [h]

theorem applyLevel_getElem? (codec : BookCodec) (sideTag : UInt8) (target : Side × Fingerprint)
    (update : Level) (price : FixedDecimal) :
    (applyLevel codec sideTag target update).1[price]?
      = if update.1 = price then (if update.2.isZero then none else some update.2)
        else target.1[price]? := by
  obtain ⟨named, quantity⟩ := update
  have hcompare : FixedDecimal.cmp named price = .eq ↔ named = price :=
    ⟨LawfulEqCmp.eq_of_compare, fun h => h ▸ Std.ReflCmp.compare_self⟩
  unfold applyLevel
  by_cases hzero : quantity.isZero = true
  · simp only [if_pos hzero]
    rw [ExtTreeMap.getElem?_erase, if_congr hcompare rfl rfl]
  · simp only [if_neg hzero]
    rw [ExtTreeMap.getElem?_insert, if_congr hcompare rfl rfl]

/-- **What the updates leave at a price.** -/
theorem applySide_getElem? (codec : BookCodec) (sideTag : UInt8) (updates : List Level)
    (target : Side × Fingerprint) (price : FixedDecimal) :
    (applySide codec sideTag updates target).1[price]?
      = match lastQuantity updates price with
        | some quantity => if quantity.isZero then none else some quantity
        | none => target.1[price]? := by
  induction updates generalizing target with
  | nil => rfl
  | cons update rest ih =>
    show (applySide codec sideTag rest (applyLevel codec sideTag target update)).1[price]? = _
    rw [ih, lastQuantity_cons]
    -- a later update of the price decides, else this one
    rcases lastQuantity rest price with _ | quantity
    · rw [applyLevel_getElem?]
      by_cases h : update.1 = price <;> simp [h]
    · rfl

theorem applySide_ne_empty (codec : BookCodec) (sideTag : UInt8) (updates : List Level)
    (target : Side × Fingerprint) :
    (applySide codec sideTag updates target).1 ≠ ∅ ↔ Survives target.1 updates := by
  have hempty : (applySide codec sideTag updates target).1 = ∅ ↔
      ∀ price : FixedDecimal, (applySide codec sideTag updates target).1[price]? = none := by
    refine ⟨fun h price => by rw [h]; simp, fun h => ?_⟩
    exact ExtTreeMap.ext_getElem? fun price => by rw [h price]; simp
  rw [ne_eq, hempty, Survives, not_forall]
  refine exists_congr fun price => ?_
  rw [applySide_getElem?]
  rcases lastQuantity updates price with _ | quantity
  · simp only [ExtTreeMap.mem_iff_isSome_getElem?]
    cases target.1[price]? <;> simp
  · cases hzero : quantity.isZero <;> simp [hzero]

/-! ## The book -/

namespace LocalOrderBook

/-- A book as a live one should be. -/
structure WellFormed (book : LocalOrderBook) : Prop where
  bids_ne : book.bids ≠ ∅
  asks_ne : book.asks ≠ ∅
  uncrossed : ∃ bid ask, book.bestBid = .ok bid ∧ book.bestAsk = .ok ask ∧ bid.lt ask = true
  bids_positive : Positives book.bids
  asks_positive : Positives book.asks

/-- **What the check does**: it refuses an empty side and leaves the book as it is, makes a
    crossed book invalid, or finds the sides apart. -/
theorem checkInvariants_cases (book : LocalOrderBook) :
    (∃ e, book.checkInvariants = (.error e, book) ∧ (book.bids = ∅ ∨ book.asks = ∅)) ∨
    (∃ e, book.checkInvariants = (.error e, { book with state := .invalid }) ∧
      book.bids ≠ ∅ ∧ book.asks ≠ ∅) ∨
    (book.checkInvariants = (.ok (), book) ∧ book.bids ≠ ∅ ∧ book.asks ≠ ∅ ∧
      ∃ bid ask, book.bestBid = .ok bid ∧ book.bestAsk = .ok ask ∧ bid.lt ask = true) := by
  unfold checkInvariants bestBid bestAsk
  rcases hbid : book.bids.keys.getLast? with _ | bid
  · exact Or.inl ⟨_, rfl, Or.inl (keys_eq_nil.mp (List.getLast?_eq_none_iff.mp hbid))⟩
  rcases hask : book.asks.keys.head? with _ | ask
  · exact Or.inl ⟨_, rfl, Or.inr (keys_eq_nil.mp (List.head?_eq_none_iff.mp hask))⟩
  have hbids : book.bids ≠ ∅ := by
    intro h
    rw [keys_eq_nil.mpr h] at hbid
    cases hbid
  have hasks : book.asks ≠ ∅ := by
    intro h
    rw [keys_eq_nil.mpr h] at hask
    cases hask
  simp only [okOr]
  by_cases hlt : bid.lt ask = true
  · rw [if_pos hlt]
    exact Or.inr (Or.inr ⟨rfl, hbids, hasks, bid, ask, rfl, rfl, hlt⟩)
  · rw [if_neg hlt]
    exact Or.inr (Or.inl ⟨_, rfl, hbids, hasks⟩)

/-! ## Calls -/

inductive Call where
  | loadSnapshot (payload : Bytes)
  | applyDepth (payload : Bytes)

def step (codec : BookCodec) (book : LocalOrderBook) : Call → LocalOrderBook
  | .loadSnapshot payload => (book.loadSnapshot codec payload).2
  | .applyDepth payload => (book.applyDepth codec payload).2

def after (codec : BookCodec) (book : LocalOrderBook) (calls : List Call) : LocalOrderBook :=
  calls.foldl (step codec) book

theorem after_concat (codec : BookCodec) (book : LocalOrderBook) (calls : List Call) (call : Call) :
    book.after codec (calls ++ [call]) = (book.after codec calls).step codec call := by
  simp [after]

def Bridges (codec : BookCodec) (book : LocalOrderBook) (call : Call) (finalId : UInt64)
    (bids asks : List Level) : Prop :=
  ∃ payload value firstId expected, call = .applyDepth payload ∧
    codec.fromSlice payload = .ok value ∧ book.depthIds value = .ok (firstId, finalId, expected) ∧
    firstId ≤ expected ∧ expected ≤ finalId ∧ depthLevels codec value = .ok (bids, asks)

/-- The call takes the last level of a side away. -/
def EmptiesSide (codec : BookCodec) (book : LocalOrderBook) (call : Call) : Prop :=
  ∃ finalId bids asks, Bridges codec book call finalId bids asks ∧
    ¬ (Survives book.bids bids ∧ Survives book.asks asks)

variable {book : LocalOrderBook} {finalId : UInt64} {codec : BookCodec} {bids asks : List Level}
  {call : Call} {value : Value}

theorem depthIds_eq_ok {firstId expected : UInt64}
    (h : book.depthIds value = .ok (firstId, finalId, expected)) :
    book.accepts = true ∧ firstId ≤ finalId ∧ book.expectedId = .ok expected := by
  obtain ⟨haccepts, h⟩ := ite_err_eq_ok.mp h
  obtain ⟨_, -, h⟩ := bind_eq_ok.mp h
  obtain ⟨-, h⟩ := ite_err_eq_ok.mp h
  obtain ⟨_, -, h⟩ := bind_eq_ok.mp h
  obtain ⟨-, h⟩ := ite_err_eq_ok.mp h
  obtain ⟨first, -, h⟩ := bind_eq_ok.mp h
  obtain ⟨final, -, h⟩ := bind_eq_ok.mp h
  obtain ⟨hle, h⟩ := ite_err_eq_ok.mp h
  obtain ⟨position, hposition, h⟩ := bind_eq_ok.mp h
  obtain ⟨rfl, rfl, rfl⟩ : first = firstId ∧ final = finalId ∧ position = expected := by
    simpa using h
  exact ⟨by simpa using haccepts, UInt64.not_lt.mp hle, hposition⟩

theorem mapM_parseLevel_ok {side : String} {values : List Value} {levels : List Level}
    (h : values.mapM (parseLevel codec side) = .ok levels) : ∀ level ∈ levels, LevelOk level := by
  induction values generalizing levels with
  | nil =>
    rw [List.mapM_nil] at h
    obtain rfl := Except.ok.inj h
    simp
  | cons value rest ih =>
    rw [List.mapM_cons] at h
    obtain ⟨level, hlevel, h⟩ := bind_eq_ok.mp h
    obtain ⟨others, hothers, h⟩ := bind_eq_ok.mp h
    obtain rfl := Except.ok.inj h
    intro l hl
    rcases List.mem_cons.mp hl with rfl | hl
    · exact parseLevel_ok hlevel
    · exact ih hothers l hl

theorem depthLevels_ok (h : depthLevels codec value = .ok (bids, asks)) :
    (∀ level ∈ bids, LevelOk level) ∧ (∀ level ∈ asks, LevelOk level) := by
  obtain ⟨_, -, h⟩ := bind_eq_ok.mp h
  obtain ⟨_, -, h⟩ := bind_eq_ok.mp h
  obtain ⟨bidUpdates, hbids, h⟩ := bind_eq_ok.mp h
  obtain ⟨askUpdates, hasks, h⟩ := bind_eq_ok.mp h
  obtain ⟨rfl, rfl⟩ : bidUpdates = bids ∧ askUpdates = asks := by simpa using h
  exact ⟨mapM_parseLevel_ok hbids, mapM_parseLevel_ok hasks⟩

/-- An update that bridges is applied. -/
theorem step_of_bridges (h : Bridges codec book call finalId bids asks) :
    book.step codec call = (book.applyLevels codec finalId bids asks).2 := by
  obtain ⟨payload, value, firstId, expected, rfl, hvalue, hids, hfirst, hfinal, hlevels⟩ := h
  obtain ⟨haccepts, hle, hexpected⟩ := depthIds_eq_ok hids
  have hnot : ¬ finalId < expected := UInt64.not_lt.mpr hfinal
  have hnot' : ¬ expected < firstId := UInt64.not_lt.mpr hfirst
  have hnot'' : ¬ finalId < firstId := UInt64.not_lt.mpr hle
  show (book.applyDepth codec payload).2 = _
  simp [applyDepth, hvalue, applyDepthValue, prepareDepthValue, hids, hnot, hnot', hlevels,
    Except.map, applyPreparedDepth, haccepts, hexpected, hnot'']

/-- What a call does that applies no update: the sides stay or are loaded, and the book is
    live only if it is as before. -/
structure Quiet (book book' : LocalOrderBook) : Prop where
  live : book' = book ∨ book'.state ≠ .live
  bids : book'.bids = book.bids ∨ Positives book'.bids
  asks : book'.asks = book.asks ∨ Positives book'.asks

theorem quiet_refl (book : LocalOrderBook) : Quiet book book :=
  ⟨Or.inl rfl, Or.inl rfl, Or.inl rfl⟩

theorem quiet_gap (book : LocalOrderBook) : Quiet book { book with state := .gap } :=
  ⟨Or.inr (by simp), Or.inl rfl, Or.inl rfl⟩

theorem loadSnapshot_quiet (codec : BookCodec) (book : LocalOrderBook) (payload : Bytes) :
    Quiet book (book.loadSnapshot codec payload).2 := by
  unfold loadSnapshot
  by_cases hstate : book.state = .empty
  swap
  · rw [if_pos hstate]
    exact quiet_refl book
  rw [if_neg (not_not.mpr hstate)]
  rcases codec.fromSlice payload with e | value
  · exact quiet_refl book
  dsimp only
  rcases requiredU64 value "lastUpdateId" with e | updateId
  · exact quiet_refl book
  dsimp only
  rcases hbids : loadSide codec "bid" (value.get "bids") with e | bids
  · exact quiet_refl book
  have hbids := (loadSide_ok hbids).1
  dsimp only
  rcases hasks : loadSide codec "ask" (value.get "asks") with e | asks
  · exact ⟨Or.inr (by simp [hstate]), Or.inr hbids, Or.inl rfl⟩
  have hasks := (loadSide_ok hasks).1
  -- the loaded book is syncing, and the check can only make it invalid
  dsimp only
  generalize hloaded : LocalOrderBook.mk book.symbol .syncing (some updateId) bids asks _ = loaded
  rcases checkInvariants_cases loaded with ⟨e, hcheck, -⟩ | ⟨e, hcheck, -⟩ | ⟨hcheck, -⟩
  all_goals
    rw [hcheck, ← hloaded]
    exact ⟨Or.inr (by simp), Or.inr hbids, Or.inr hasks⟩

/-- **What `apply_depth` does**: it refuses the payload and leaves the book, it finds a gap,
    it passes over an old update, or it applies one that bridges. -/
theorem applyDepth_cases (codec : BookCodec) (book : LocalOrderBook) (payload : Bytes) :
    (∃ e, book.applyDepth codec payload = (.error e, book)) ∨
    (∃ e, book.applyDepth codec payload = (.error e, { book with state := .gap })) ∨
    book.applyDepth codec payload = (.ok .old, book) ∨
    (∃ finalId bids asks, Bridges codec book (.applyDepth payload) finalId bids asks ∧
      book.applyDepth codec payload = book.applyLevels codec finalId bids asks) := by
  unfold applyDepth
  rcases hvalue : codec.fromSlice payload with e | value
  · exact Or.inl ⟨_, rfl⟩
  simp only [applyDepthValue, prepareDepthValue]
  rcases hids : book.depthIds value with e | ⟨firstId, finalId, expected⟩
  · exact Or.inl ⟨_, rfl⟩
  obtain ⟨haccepts, hle, hexpected⟩ := depthIds_eq_ok hids
  dsimp only
  by_cases hold : finalId < expected
  · -- an old update stays behind the book
    rw [if_pos hold]
    have hnot : ¬ (finalId < firstId ∨ expected ≤ finalId) := by
      rintro (h | h)
      · exact UInt64.not_lt.mpr hle h
      · exact UInt64.not_lt.mpr h hold
    simp only [applyPreparedDepth, haccepts, hexpected, if_neg hnot]
    exact Or.inr (Or.inr (Or.inl rfl))
  rw [if_neg hold]
  by_cases hgap : expected < firstId
  · rw [if_pos (Or.inl hgap)]
    exact Or.inr (Or.inl ⟨_, rfl⟩)
  rw [if_neg (by simp [hgap, hold])]
  rcases hlevels : depthLevels codec value with e | ⟨bids, asks⟩
  · exact Or.inl ⟨_, rfl⟩
  · have hnot : ¬ (finalId < firstId ∨ expected < firstId ∨ finalId < expected) := by
      simp [UInt64.not_lt.mpr hle, hgap, hold]
    refine Or.inr (Or.inr (Or.inr ⟨finalId, bids, asks, ⟨payload, value, firstId, expected, rfl,
      hvalue, hids, UInt64.not_lt.mp hgap, UInt64.not_lt.mp hold, hlevels⟩, ?_⟩))
    simp [Except.map, applyPreparedDepth, haccepts, hexpected, hnot]

/-- **What a call does to a book**: it applies an update that bridges, or it is quiet. -/
theorem step_cases (codec : BookCodec) (book : LocalOrderBook) (call : Call) :
    (∃ finalId bids asks, Bridges codec book call finalId bids asks) ∨
      Quiet book (book.step codec call) := by
  rcases call with payload | payload
  · exact Or.inr (loadSnapshot_quiet codec book payload)
  show _ ∨ Quiet book (book.applyDepth codec payload).2
  rcases applyDepth_cases codec book payload with ⟨e, h⟩ | ⟨e, h⟩ | h | ⟨finalId, bids, asks, h, -⟩
  · rw [h]
    exact Or.inr (quiet_refl book)
  · rw [h]
    exact Or.inr (quiet_gap book)
  · rw [h]
    exact Or.inr (quiet_refl book)
  · exact Or.inl ⟨finalId, bids, asks, h⟩

/-! ## Steps -/

/-- The invariant of careful runs. -/
structure Sound (book : LocalOrderBook) : Prop where
  bids_positive : Positives book.bids
  asks_positive : Positives book.asks
  live : book.state = .live → book.WellFormed

theorem new_sound {symbol : String} (h : new symbol = .ok book) : Sound book := by
  obtain ⟨-, h⟩ := ite_err_eq_ok.mp h
  obtain rfl := Except.ok.inj h
  exact ⟨positives_empty, positives_empty, fun h => by cases h⟩

theorem quiet_sound {book' : LocalOrderBook} (h : Sound book) (hquiet : Quiet book book') :
    Sound book' := by
  refine ⟨?_, ?_, ?_⟩
  · rcases hquiet.bids with heq | hpositive
    · exact heq ▸ h.bids_positive
    · exact hpositive
  · rcases hquiet.asks with heq | hpositive
    · exact heq ▸ h.asks_positive
    · exact hpositive
  · intro hlive
    rcases hquiet.live with rfl | hnot
    · exact h.live hlive
    · exact absurd hlive hnot

def updated (codec : BookCodec) (book : LocalOrderBook) (finalId : UInt64)
    (bids asks : List Level) : LocalOrderBook :=
  let bidSide := applySide codec bidTag bids (book.bids, book.levelFingerprint)
  let askSide := applySide codec askTag asks (book.asks, bidSide.2)
  { book with
    bids := bidSide.1
    asks := askSide.1
    levelFingerprint := askSide.2
    lastUpdateId := some finalId
    state := if book.state = .syncing then .live else book.state }

theorem applyLevels_snd (codec : BookCodec) (book : LocalOrderBook) (finalId : UInt64)
    (bids asks : List Level) :
    (book.applyLevels codec finalId bids asks).2
      = ((book.updated codec finalId bids asks).checkInvariants).2 := rfl

theorem updated_state (h : Bridges codec book call finalId bids asks) :
    (book.updated codec finalId bids asks).state = .live := by
  obtain ⟨payload, value, firstId, expected, -, -, hids, -⟩ := h
  have haccepts := (depthIds_eq_ok hids).1
  simp only [accepts, decide_eq_true_eq] at haccepts
  show (if book.state = .syncing then _ else book.state) = _
  rcases haccepts with h | h <;> simp [h]

/-- **Step.** A call that empties no side keeps the invariant. -/
theorem step_sound (h : Sound book) (hcall : ¬ EmptiesSide codec book call) :
    Sound (book.step codec call) := by
  rcases step_cases codec book call with ⟨finalId, bids, asks, hbridges⟩ | hquiet
  swap
  · exact quiet_sound h hquiet
  obtain ⟨hbidLevels, haskLevels⟩ :
      (∀ level ∈ bids, LevelOk level) ∧ ∀ level ∈ asks, LevelOk level := by
    obtain ⟨_, _, _, _, -, -, -, -, -, hlevels⟩ := hbridges
    exact depthLevels_ok hlevels
  obtain ⟨hbids, hasks⟩ : Survives book.bids bids ∧ Survives book.asks asks := by
    by_contra hnot
    exact hcall ⟨finalId, bids, asks, hbridges, hnot⟩
  rw [step_of_bridges hbridges, applyLevels_snd]
  set next := book.updated codec finalId bids asks with hnext
  have hbidsPositive : Positives next.bids := applySide_positives hbidLevels h.bids_positive
  have hasksPositive : Positives next.asks := applySide_positives haskLevels h.asks_positive
  have hbidsNe : next.bids ≠ ∅ := (applySide_ne_empty _ _ _ _).mpr hbids
  have hasksNe : next.asks ≠ ∅ := (applySide_ne_empty _ _ _ _).mpr hasks
  rcases checkInvariants_cases next with ⟨e, -, hempty⟩ | ⟨e, hcheck, -⟩ | ⟨hcheck, -, -, happart⟩
  · rcases hempty with hempty | hempty
    · exact absurd hempty hbidsNe
    · exact absurd hempty hasksNe
  · rw [hcheck]
    exact ⟨hbidsPositive, hasksPositive, fun hlive => by cases hlive⟩
  · rw [hcheck]
    exact ⟨hbidsPositive, hasksPositive,
      fun _ => ⟨hbidsNe, hasksNe, happart, hbidsPositive, hasksPositive⟩⟩

/-- **Step.** A call that empties a side leaves a live book that is not well formed. -/
theorem step_emptied (hcall : EmptiesSide codec book call) :
    (book.step codec call).state = .live ∧ ¬ (book.step codec call).WellFormed := by
  obtain ⟨finalId, bids, asks, hbridges, hnot⟩ := hcall
  rw [step_of_bridges hbridges, applyLevels_snd]
  have hstate := updated_state hbridges
  have hempty : ¬ ((book.updated codec finalId bids asks).bids ≠ ∅ ∧
      (book.updated codec finalId bids asks).asks ≠ ∅) := by
    rintro ⟨hbids, hasks⟩
    exact hnot ⟨(applySide_ne_empty _ _ _ _).mp hbids, (applySide_ne_empty _ _ _ _).mp hasks⟩
  generalize book.updated codec finalId bids asks = next at hstate hempty
  -- the check stops at the empty side, with the book as it is
  rcases checkInvariants_cases next with ⟨e, hcheck, -⟩ | ⟨-, -, hboth⟩ | ⟨-, hbids, hasks, -⟩
  · rw [hcheck]
    exact ⟨hstate, fun h => hempty ⟨h.bids_ne, h.asks_ne⟩⟩
  · exact absurd hboth hempty
  · exact absurd ⟨hbids, hasks⟩ hempty

/-! ## Runs -/

def LiveWellFormed (codec : BookCodec) (book : LocalOrderBook) (calls : List Call) : Prop :=
  ∀ before, before <+: calls → (book.after codec before).state = .live →
    (book.after codec before).WellFormed

/-- No call takes the last level of a side away. -/
def KeepsSides (codec : BookCodec) (book : LocalOrderBook) (calls : List Call) : Prop :=
  AtEach (fun before call => ¬ EmptiesSide codec (book.after codec before) call) calls

/-- **Run.** Calls that empty no side keep the invariant. -/
theorem after_sound (h : Sound book) (calls : List Call) (hkeeps : KeepsSides codec book calls) :
    Sound (book.after codec calls) := by
  induction calls using List.reverseRecOn with
  | nil => exact h
  | append_singleton before call ih =>
    obtain ⟨hbefore, hcall⟩ := atEach_concat.mp hkeeps
    rw [after_concat]
    exact step_sound (ih hbefore) hcall

/-- **Live books are well formed exactly on the runs that empty no side.** -/
theorem live_well_formed_iff (codec : BookCodec) {symbol : String} {book : LocalOrderBook}
    (hnew : new symbol = .ok book) (calls : List Call) :
    LiveWellFormed codec book calls ↔ KeepsSides codec book calls := by
  constructor
  · intro h before call rest hcalls hempties
    obtain ⟨hlive, hnot⟩ := step_emptied hempties
    rw [← after_concat] at hlive hnot
    have hpre : before ++ [call] <+: calls := ⟨rest, by simp [hcalls]⟩
    exact hnot (h _ hpre hlive)
  · rintro hkeeps before ⟨rest, rfl⟩ hlive
    exact (after_sound (new_sound hnew) before hkeeps.of_append).live hlive

/-! ## The last bid -/

/-- A level of an update or a snapshot. -/
def levelJson (price quantity : String) : Value := .array [.string price, .string quantity]

/-- A snapshot with one bid and one ask. -/
def sampleSnapshot : Value :=
  .object [("asks", .array [levelJson "2" "1"]), ("bids", .array [levelJson "1" "1"]),
    ("lastUpdateId", .nat 1)]

/-- An update that moves the bid to the given quantity. -/
def sampleUpdate (quantity : String) : Value :=
  .object [("U", .nat 2), ("a", .array []), ("b", .array [levelJson "1" quantity]),
    ("e", .string "depthUpdate"), ("s", .string "BTCUSDT"), ("u", .nat 2)]

def sampleCodec : BookCodec :=
  BookCodec.known [sampleSnapshot, sampleUpdate "0", sampleUpdate "1"]
    [([98] ++ i128LeBytes 1 ++ [0] ++ i128LeBytes 1 ++ [0], 0x0b14deaf2e3c4ce9969eb6ebf1202aaa5e9131e931ac14702c995d5c9849480c),
     ([97] ++ i128LeBytes 2 ++ [0] ++ i128LeBytes 1 ++ [0], 0x1997377af758fba70afd9b5c4d9d848e4c4cc139d1bc92360190a274695f8a65)]

def deletesLastBid : List Call :=
  [.loadSnapshot sampleSnapshot.toVec, .applyDepth (sampleUpdate "0").toVec]

/-- The deletion is refused, and the book stays live without a bid. -/
theorem empty_side_stays_live :
    ∃ book, new "BTCUSDT" = .ok book ∧ ¬ LiveWellFormed sampleCodec book deletesLastBid := by
  have hend : (new "BTCUSDT").map (fun book =>
      ((book.after sampleCodec deletesLastBid).state,
        (book.after sampleCodec deletesLastBid).bids.isEmpty)) = .ok (.live, true) := by
    decide +kernel
  obtain ⟨book, hbook, hend⟩ := map_eq_ok.mp hend
  simp only [Prod.mk.injEq] at hend
  refine ⟨book, hbook, fun h => ?_⟩
  exact (h _ (List.prefix_refl _) hend.1).bids_ne (ExtTreeMap.isEmpty_iff.mp hend.2)

/-- The same update with a quantity. -/
theorem live_well_formed_update :
    ∃ book, new "BTCUSDT" = .ok book ∧
      (LiveWellFormed sampleCodec book
          [.loadSnapshot sampleSnapshot.toVec, .applyDepth (sampleUpdate "1").toVec] ↔
        KeepsSides sampleCodec book
          [.loadSnapshot sampleSnapshot.toVec, .applyDepth (sampleUpdate "1").toVec]) := by
  have hnew : (new "BTCUSDT").isOk = true := by decide +kernel
  obtain ⟨book, hbook⟩ := isOk_eq_true.mp hnew
  exact ⟨book, hbook, live_well_formed_iff sampleCodec hbook _⟩

end LocalOrderBook

end LobReplay.Book
