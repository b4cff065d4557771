/-
  `DerivedBook` of cpp/recovery/src/feed_guard.cpp: the book a diff feed keeps between snapshots. A
  diff that does not continue the book's update id drops the book; a snapshot bootstraps it again.

  The two normalisations go through `long double` and are parameters of the model. Update ids are
  `int64_t`.
-/

import LobReplay.Foundation.Machine
import Std.Data.ExtTreeMap.Lemmas

namespace LobReplay.Recovery

open Foundation
open Std (ExtTreeMap)

/-! ## Data -/

/-- `DepthDiff::Change`. -/
structure Change where
  priceMantissa : Int64
  priceExponent : Int8
  qtyMantissa : Int64
  qtyExponent : Int8
  deriving DecidableEq

/-- `DepthDiff`, with the fields `apply_diff` reads. -/
structure DepthDiff where
  firstUpdateId : Int64
  lastUpdateId : Int64
  bids : List Change
  asks : List Change
  deriving DecidableEq

/-- `BookEvent`, with the fields its kind sets. -/
inductive BookEvent where
  | applied (bookUpdateId : Int64)
  | resyncNeeded (gapFirst gapLast : Int64)
  deriving DecidableEq

/-- `normalize_price` and `normalize_qty`. -/
structure Normalizer where
  price : Change → Int64
  qty : Change → UInt64

/-- One side of the book: the quantity at each price key. -/
abbrev Side := ExtTreeMap Int64 UInt64

structure DerivedBook where
  bids : Side := ∅
  asks : Side := ∅
  valid : Bool := false
  seenFirst : Bool := false
  lastUpdateId : Int64 := 0

namespace Normalizer

/-- One change of a diff: a zero quantity removes the level, any other sets it. -/
def applyChange (norm : Normalizer) (side : Side) (c : Change) : Side :=
  if norm.qty c = 0 then side.erase (norm.price c)
  else side.insert (norm.price c) (norm.qty c)

/-- One level of a snapshot: a zero quantity is skipped. -/
def installLevel (norm : Normalizer) (side : Side) (c : Change) : Side :=
  if norm.qty c = 0 then side
  else side.insert (norm.price c) (norm.qty c)

end Normalizer

namespace DerivedBook

variable (norm : Normalizer) {d : DepthDiff} {diffs : List DepthDiff}

/-! ## Calls -/

/-- `apply_diff`. It returns whether the diff was applied, which is the kind of its event. -/
def applyDiff (book : DerivedBook) (d : DepthDiff) : BookEvent × DerivedBook :=
  if book.seenFirst = true ∧ d.firstUpdateId ≠ book.lastUpdateId + 1 then
    -- the id is kept: only the levels and the two flags go
    (.resyncNeeded (book.lastUpdateId + 1) (d.firstUpdateId - 1),
      { book with valid := false, bids := ∅, asks := ∅, seenFirst := false })
  else
    (.applied d.lastUpdateId,
      { bids := d.bids.foldl norm.applyChange book.bids
        asks := d.asks.foldl norm.applyChange book.asks
        seenFirst := true
        valid := true
        lastUpdateId := d.lastUpdateId })

def installSnapshot (bookUpdateId : Int64) (bids asks : List Change) : DerivedBook where
  bids := bids.foldl norm.installLevel ∅
  asks := asks.foldl norm.installLevel ∅
  seenFirst := true
  valid := true
  lastUpdateId := bookUpdateId

inductive Call where
  | install (bookUpdateId : Int64) (bids asks : List Change)
  | diff (d : DepthDiff)
  deriving DecidableEq

/-- One call; a snapshot reports nothing. -/
def step (book : DerivedBook) : Call → Option BookEvent × DerivedBook
  | .install bookUpdateId bids asks => (none, installSnapshot norm bookUpdateId bids asks)
  | .diff d => (some (applyDiff norm book d).1, (applyDiff norm book d).2)

def after (calls : List Call) : DerivedBook := (run (step norm) {} calls).2

theorem after_concat (calls : List Call) (call : Call) :
    after norm (calls ++ [call]) = (step norm (after norm calls) call).2 := by
  rw [after, run_concat]
  rfl

/-! ## What a valid book stands for -/

/-- The quantity a price has once `changes` have overwritten the non-zero levels of a snapshot in
    order: that of the last change at the price, none where it is zero. -/
def quantityAt (snapshot changes : List Change) (price : Int64) : Option UInt64 :=
  match changes.reverse.find? fun c => norm.price c = price with
  | some c => if norm.qty c = 0 then none else some (norm.qty c)
  | none => (snapshot.reverse.find? fun c => norm.qty c ≠ 0 ∧ norm.price c = price).map norm.qty

/-- The diffs continue the update id `id` without a hole. -/
def Continues : Int64 → List DepthDiff → Prop
  | _, [] => True
  | id, d :: diffs => d.firstUpdateId = id + 1 ∧ Continues d.lastUpdateId diffs

def lastIdAfter (id : Int64) (diffs : List DepthDiff) : Int64 :=
  (diffs.getLast?.map DepthDiff.lastUpdateId).getD id

/-- The book is the last snapshot of the calls, overwritten by the diffs since, all of which
    continue it. -/
structure AnchoredBy (calls before : List Call) (id : Int64) (bids asks : List Change)
    (diffs : List DepthDiff) (book : DerivedBook) : Prop where
  calls_eq : calls = before ++ .install id bids asks :: diffs.map .diff
  continues : Continues id diffs
  lastUpdateId_eq : book.lastUpdateId = lastIdAfter id diffs
  bids_eq : ∀ price, book.bids[price]?
    = quantityAt norm bids (diffs.flatMap DepthDiff.bids) price
  asks_eq : ∀ price, book.asks[price]?
    = quantityAt norm asks (diffs.flatMap DepthDiff.asks) price

/-- A valid book is anchored at a snapshot of the calls that led to it, and a diff that asked for a
    resync leaves the book invalid up to the next snapshot. -/
structure ValidIsAnchored (calls : List Call) : Prop where
  anchored : (after norm calls).valid = true →
    ∃ before id bids asks diffs,
      AnchoredBy norm calls before id bids asks diffs (after norm calls)
  resync_stays : ∀ before d diffs gapFirst gapLast,
    calls = before ++ .diff d :: List.map .diff diffs →
    (applyDiff norm (after norm before) d).1 = .resyncNeeded gapFirst gapLast →
    (after norm calls).valid = false

/-! ## Sides -/

theorem getElem?_foldl_applyChange (changes : List Change) (side : Side) (price : Int64) :
    (changes.foldl norm.applyChange side)[price]?
      = match changes.reverse.find? fun c => norm.price c = price with
        | some c => if norm.qty c = 0 then none else some (norm.qty c)
        | none => side[price]? := by
  induction changes using List.reverseRecOn with
  | nil => rfl
  | append_singleton changes c ih =>
    rw [List.foldl_append, List.reverse_append, List.reverse_singleton, List.singleton_append,
      List.find?_cons, List.foldl_cons, List.foldl_nil]
    by_cases hprice : norm.price c = price
    · simp only [hprice, decide_true, Normalizer.applyChange]
      split
      · rw [ExtTreeMap.getElem?_erase_self]
      · rw [ExtTreeMap.getElem?_insert_self]
    · simp only [hprice, decide_false]
      rw [← ih, Normalizer.applyChange]
      split
      · rw [ExtTreeMap.getElem?_erase, if_neg (by simpa using hprice)]
      · rw [ExtTreeMap.getElem?_insert, if_neg (by simpa using hprice)]

theorem getElem?_foldl_installLevel (levels : List Change) (price : Int64) :
    (levels.foldl norm.installLevel ∅)[price]?
      = (levels.reverse.find? fun c => norm.qty c ≠ 0 ∧ norm.price c = price).map norm.qty := by
  induction levels using List.reverseRecOn with
  | nil => rfl
  | append_singleton levels c ih =>
    rw [List.foldl_append, List.reverse_append, List.reverse_singleton, List.singleton_append,
      List.find?_cons, List.foldl_cons, List.foldl_nil, Normalizer.installLevel]
    by_cases hqty : norm.qty c = 0
    · simp only [hqty, if_true, ne_eq, not_true_eq_false, false_and, decide_false]
      exact ih
    · rw [if_neg hqty]
      by_cases hprice : norm.price c = price
      · simp only [hqty, hprice, ne_eq, not_false_eq_true, and_self, decide_true,
          ExtTreeMap.getElem?_insert_self, Option.map_some]
      · simp only [hprice, and_false, decide_false]
        rw [ExtTreeMap.getElem?_insert, if_neg (by simpa using hprice), ih]

/-- A snapshot that no diff has overwritten yet. -/
theorem quantityAt_nil (snapshot : List Change) (price : Int64) :
    (snapshot.foldl norm.installLevel ∅)[price]? = quantityAt norm snapshot [] price :=
  getElem?_foldl_installLevel norm snapshot price

/-- One more diff overwrites what the earlier ones left. -/
theorem quantityAt_append {snapshot changes later : List Change} {side : Side}
    (h : ∀ price, side[price]? = quantityAt norm snapshot changes price) (price : Int64) :
    (later.foldl norm.applyChange side)[price]?
      = quantityAt norm snapshot (changes ++ later) price := by
  rw [getElem?_foldl_applyChange, h price, quantityAt, quantityAt, List.reverse_append,
    List.find?_append]
  rcases later.reverse.find? fun c => norm.price c = price with _ | c
  · rfl
  · rfl

/-! ## Histories -/

theorem lastIdAfter_concat (id : Int64) (diffs : List DepthDiff) (d : DepthDiff) :
    lastIdAfter id (diffs ++ [d]) = d.lastUpdateId := by
  rw [lastIdAfter, List.getLast?_concat]
  rfl

theorem continues_concat (id : Int64) (diffs : List DepthDiff) (d : DepthDiff) :
    Continues id (diffs ++ [d])
      ↔ Continues id diffs ∧ d.firstUpdateId = lastIdAfter id diffs + 1 := by
  induction diffs generalizing id with
  | nil => simp [Continues, lastIdAfter]
  | cons e diffs ih =>
    have hlast : lastIdAfter id (e :: diffs) = lastIdAfter e.lastUpdateId diffs := by
      rcases List.eq_nil_or_concat diffs with rfl | ⟨earlier, last, rfl⟩
      · rfl
      · rw [List.concat_eq_append, lastIdAfter_concat, ← List.cons_append, lastIdAfter_concat]
    rw [List.cons_append, Continues, Continues, ih, hlast, and_assoc]

theorem applyDiff_of_continues {book : DerivedBook} (h : d.firstUpdateId = book.lastUpdateId + 1) :
    applyDiff norm book d = (.applied d.lastUpdateId,
      { bids := d.bids.foldl norm.applyChange book.bids
        asks := d.asks.foldl norm.applyChange book.asks
        seenFirst := true
        valid := true
        lastUpdateId := d.lastUpdateId }) :=
  if_neg fun hbad => hbad.2 h

theorem after_of_continues (before : List Call) (id : Int64) (bids asks : List Change)
    (h : Continues id diffs) :
    (after norm (before ++ .install id bids asks :: diffs.map .diff)).seenFirst = true ∧
      (after norm (before ++ .install id bids asks :: diffs.map .diff)).lastUpdateId
        = lastIdAfter id diffs := by
  induction diffs using List.reverseRecOn with
  | nil =>
    rw [List.map_nil, after_concat]
    exact ⟨rfl, rfl⟩
  | append_singleton diffs d ih =>
    obtain ⟨hearlier, hfirst⟩ := (continues_concat id diffs d).mp h
    obtain ⟨-, hlast⟩ := ih hearlier
    rw [List.map_append, List.map_singleton, ← List.cons_append, ← List.append_assoc, after_concat]
    rw [← hlast] at hfirst
    simp only [step, applyDiff_of_continues norm hfirst, lastIdAfter_concat, and_self]

section

variable {norm} {calls before : List Call} {id : Int64} {bids asks : List Change}
  {diffs : List DepthDiff} {book : DerivedBook}

theorem anchoredBy_install (calls : List Call) (id : Int64) (bids asks : List Change) :
    AnchoredBy norm (calls ++ [.install id bids asks]) calls id bids asks []
      (installSnapshot norm id bids asks) where
  calls_eq := rfl
  continues := trivial
  lastUpdateId_eq := rfl
  bids_eq := quantityAt_nil norm bids
  asks_eq := quantityAt_nil norm asks

/-- **Step.** A diff that continues an anchored book keeps it anchored. -/
theorem AnchoredBy.diff (h : AnchoredBy norm calls before id bids asks diffs book)
    {d : DepthDiff} (hfirst : d.firstUpdateId = book.lastUpdateId + 1) :
    AnchoredBy norm (calls ++ [.diff d]) before id bids asks (diffs ++ [d])
      (applyDiff norm book d).2 := by
  rw [applyDiff_of_continues norm hfirst]
  refine ⟨?_, ?_, ?_, ?_, ?_⟩
  · rw [h.calls_eq, List.map_append, List.map_singleton, List.append_assoc, List.cons_append]
  · rw [h.lastUpdateId_eq] at hfirst
    exact (continues_concat id diffs d).mpr ⟨h.continues, hfirst⟩
  · exact (lastIdAfter_concat id diffs d).symm
  · rw [List.flatMap_append, List.flatMap_singleton]
    exact quantityAt_append norm h.bids_eq
  · rw [List.flatMap_append, List.flatMap_singleton]
    exact quantityAt_append norm h.asks_eq

end

/-! ## Which histories keep every valid book anchored -/

def Bootstrapped (book : DerivedBook) : Call → Prop
  | .install _ _ _ => True
  | .diff _ => book.seenFirst = true

/-- What careful calls keep: the two flags agree, and the book is anchored when they are set. -/
structure Kept (calls : List Call) : Prop extends ValidIsAnchored norm calls where
  flags_eq : (after norm calls).seenFirst = (after norm calls).valid

variable {norm} {calls : List Call} {call : Call}

theorem kept_nil : Kept norm [] := by
  refine ⟨⟨?_, ?_⟩, rfl⟩
  · intro h
    cases h
  · intro before d diffs _ _ h
    simp at h

theorem concat_diff_eq {before : List Call} {e : DepthDiff}
    (h : calls ++ [.diff d] = before ++ .diff e :: diffs.map .diff) :
    (calls = before ∧ d = e) ∨
      ∃ earlier : List DepthDiff, calls = before ++ .diff e :: earlier.map .diff := by
  rcases List.eq_nil_or_concat diffs with rfl | ⟨earlier, last, rfl⟩
  · obtain ⟨rfl, hd⟩ := List.append_inj' h rfl
    cases hd
    exact .inl ⟨rfl, rfl⟩
  · rw [List.concat_eq_append, List.map_append, List.map_singleton, ← List.cons_append,
      ← List.append_assoc] at h
    exact .inr ⟨earlier, (List.append_inj' h rfl).1⟩

/-- **Step.** A snapshot, or a diff on a bootstrapped book. -/
theorem Kept.step (h : Kept norm calls) (hboot : Bootstrapped (after norm calls) call) :
    Kept norm (calls ++ [call]) := by
  cases call with
  | install id bids asks =>
    refine ⟨⟨?_, ?_⟩, ?_⟩
    · intro _
      rw [after_concat]
      exact ⟨calls, id, bids, asks, [], anchoredBy_install calls id bids asks⟩
    · -- a history that ends in a snapshot does not end in diffs
      intro before d diffs _ _ heq
      have hlast := congrArg List.getLast? heq
      rcases List.eq_nil_or_concat diffs with rfl | ⟨earlier, last, rfl⟩
      · simp at hlast
      · simp [List.getLast?_append, List.getLast?_cons] at hlast
    · rw [after_concat]
      rfl
  | diff d =>
    have hvalid : (after norm calls).valid = true := h.flags_eq ▸ hboot
    by_cases hfirst : d.firstUpdateId = (after norm calls).lastUpdateId + 1
    · obtain ⟨before, id, bids, asks, diffs, hanchored⟩ := h.anchored hvalid
      refine ⟨⟨?_, ?_⟩, ?_⟩
      · intro _
        rw [after_concat]
        exact ⟨before, id, bids, asks, diffs ++ [d], hanchored.diff hfirst⟩
      · intro before e diffs gapFirst gapLast heq hresync
        rcases concat_diff_eq heq with ⟨rfl, rfl⟩ | ⟨earlier, hearlier⟩
        · rw [applyDiff_of_continues norm hfirst] at hresync
          cases hresync
        · rw [h.resync_stays before e earlier gapFirst gapLast hearlier hresync] at hvalid
          cases hvalid
      · rw [after_concat]
        simp only [DerivedBook.step, applyDiff_of_continues norm hfirst]
    · -- the hole drops the book
      have hafter : after norm (calls ++ [.diff d]) = { after norm calls with
          valid := false, bids := ∅, asks := ∅, seenFirst := false } := by
        rw [after_concat, DerivedBook.step, applyDiff, if_pos ⟨hboot, hfirst⟩]
      refine ⟨⟨?_, ?_⟩, ?_⟩
      · intro hv
        rw [hafter] at hv
        cases hv
      · intro _ _ _ _ _ _ _
        rw [hafter]
      · rw [hafter]

/-- A diff that leaves an anchored book met a bootstrapped one. -/
theorem ValidIsAnchored.bootstrapped (h : ValidIsAnchored norm (calls ++ [call])) :
    Bootstrapped (after norm calls) call := by
  cases call with
  | install id bids asks => trivial
  | diff d =>
    by_contra hboot
    have hvalid : (after norm (calls ++ [.diff d])).valid = true := by
      rw [after_concat, DerivedBook.step, applyDiff, if_neg fun hbad => hboot hbad.1]
    obtain ⟨before, id, bids, asks, diffs, hanchored⟩ := h.anchored hvalid
    have heq := hanchored.calls_eq
    rcases List.eq_nil_or_concat diffs with rfl | ⟨earlier, last, rfl⟩
    · have hlast := congrArg List.getLast? heq
      simp at hlast
    · rw [List.concat_eq_append, List.map_append, List.map_singleton, ← List.cons_append,
        ← List.append_assoc] at heq
      rw [List.concat_eq_append] at hanchored
      have hcontinues := ((continues_concat id earlier last).mp hanchored.continues).1
      rw [(List.append_inj' heq rfl).1] at hboot
      exact hboot (after_of_continues norm before id bids asks hcontinues).1

/-- **Run.** Every valid book of a call history is anchored exactly when no diff of it meets a
    book that is not bootstrapped, that is, one before its first snapshot or after a refused diff
    with no snapshot since. -/
theorem anchored_iff (norm : Normalizer) (calls : List Call) :
    (∀ before later, calls = before ++ later → ValidIsAnchored norm before)
      ↔ AtEach (fun before call => Bootstrapped (after norm before) call) calls := by
  have htrue : ∀ history x, (fun _ : List Call => True) (history ++ [x]) → True :=
    fun _ _ _ => trivial
  refine prefixes_iff_atEach (A := fun _ => True) (K := Kept norm) htrue kept_nil
    (fun _ h => h.toValidIsAnchored) ?_ ?_ trivial
  · intro history x _ hkept hboot
    exact hkept.step hboot
  · intro history x _ _ hgood
    exact hgood.bootstrapped

/-- Mantissas as they stand, for changes of exponent -8. -/
def unscaled : Normalizer where
  price c := c.priceMantissa
  qty c := c.qtyMantissa.toUInt64

/-- A snapshot at id 5, and a diff that misses id 6. -/
def holeCalls : List Call :=
  [.install 5 [⟨100, -8, 3, -8⟩] [⟨101, -8, 4, -8⟩], .diff ⟨7, 7, [⟨99, -8, 1, -8⟩], []⟩]

/-- The diff after the hole asks for a resync, and the next diff of the feed makes the book valid
    again with no snapshot in between. -/
theorem diff_after_hole_is_not_anchored :
    (run (step unscaled) {} holeCalls).1 = [none, some (.resyncNeeded 6 6)] ∧
      (after unscaled (holeCalls ++ [.diff ⟨40, 41, [⟨98, -8, 2, -8⟩], []⟩])).valid = true ∧
      ¬ ValidIsAnchored unscaled
        (holeCalls ++ [.diff ⟨40, 41, [⟨98, -8, 2, -8⟩], []⟩]) := by
  refine ⟨by decide, by decide, fun h => ?_⟩
  have hboot := h.bootstrapped
  revert hboot
  show ¬ (after unscaled holeCalls).seenFirst = true
  decide

end DerivedBook

end LobReplay.Recovery
