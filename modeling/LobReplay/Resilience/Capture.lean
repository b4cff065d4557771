/-
  The layered capture engine of cpp/resilience/src/layered_capture.cpp: the journal with its
  provenance, live messages, cache replays, venue backfills and the reconciliation.

  `std::sort` leaves the order of equal keys open, so it is a parameter (`SortCall`). The loop
  behind the cursor of `journal` never ends when the journal holds all 2^32 sequences; a call that
  does not return is `none`.

  A `Touch` is what reaches the journal for one sequence; a call is its touches, one after another
  (`step_eq_applyAll`).
-/

import LobReplay.Foundation.Fnv
import Std.Data.ExtTreeMap.Lemmas

namespace LobReplay.Resilience

open Foundation
open Std (ExtTreeMap)

/-! ## Data -/

inductive Provenance where
  | capturedLive
  | backfilled
  | gapTyped
  deriving DecidableEq

structure JournalEntry where
  sequence : UInt32
  provenance : Provenance
  payloadHash : UInt32
  pathId : UInt32
  deriving DecidableEq

/-- `CaptureEvent`, the kinds these calls emit with the fields each sets. -/
inductive CaptureEvent where
  | journaled (pathId seq : UInt32) (provenance : Provenance)
  | cacheReplay (count : Nat)
  | backfillApplied (rangeFirst rangeLast : UInt32) (count : Nat)
  | gapTyped (seq : UInt32)
  deriving DecidableEq

/-- `ReconcileReport`, the ranges with both ends. -/
structure ReconcileReport where
  complete : Bool
  missing : List (UInt32 × UInt32)
  deriving DecidableEq

/-- A sequence with its payload. -/
abbrev Row := UInt32 × Bytes

/-- `LayeredCapture`, without the paths that were declared dead. -/
structure LayeredCapture where
  journal : ExtTreeMap UInt32 JournalEntry := ∅
  nextExpected : UInt32 := 1

/-- `std::sort` by the sequence: the order of equal sequences is open. -/
structure SortCall where
  sort : List Row → List Row
  perm : ∀ rows, (sort rows).Perm rows
  sorted : ∀ rows, (sort rows).Pairwise fun a b => a.1 ≤ b.1

namespace LayeredCapture

/-! ## The journal -/

/-- `while (journal_.count(next_expected_) != 0) ++next_expected_`, for one round of all
    sequences: after it the loop never ends. -/
def skipJournaled (journal : ExtTreeMap UInt32 JournalEntry) : Nat → UInt32 → Option UInt32
  | 0, _ => none
  | budget + 1, next => if next ∈ journal then skipJournaled journal budget (next + 1) else some next

/-- `journal`: a sequence that is there already is left as it is. -/
def journalEntry (c : LayeredCapture) (seq : UInt32) (provenance : Provenance) (path : UInt32)
    (payload : Bytes) : Option (List CaptureEvent × LayeredCapture) :=
  if seq ∈ c.journal then some ([], c)
  else
    let journal := c.journal.insert seq ⟨seq, provenance, fnv1a32 payload, path⟩
    let nextExpected? :=
      if seq = c.nextExpected then skipJournaled journal (2 ^ 32) (c.nextExpected + 1)
      else some c.nextExpected
    nextExpected?.map fun nextExpected =>
      ([.journaled path seq provenance], { c with journal, nextExpected })

def onLive (c : LayeredCapture) (pathId seq : UInt32) (payload : Bytes) :
    Option (List CaptureEvent × LayeredCapture) :=
  c.journalEntry seq .capturedLive pathId payload

/-- The loop of `on_cache_replay`. -/
def cacheLoop (c : LayeredCapture) (n : Nat) (events : List CaptureEvent) :
    List Row → Option (Nat × List CaptureEvent × LayeredCapture)
  | [] => some (n, events, c)
  | (seq, payload) :: entries =>
    if seq ∈ c.journal then cacheLoop c n events entries
    else
      (c.journalEntry seq .capturedLive 0xFF payload).bind fun out =>
        cacheLoop out.2 (n + 1) (events ++ out.1) entries

def onCacheReplay (c : LayeredCapture) (entries : List Row) :
    Option (List CaptureEvent × LayeredCapture) :=
  (c.cacheLoop 0 [] entries).map fun out =>
    (out.2.1 ++ (if 0 < out.1 then [.cacheReplay out.1] else []), out.2.2)

/-- The rows of `on_backfill` that lie in the window, in the order they are journaled. -/
def inWindow (sort : SortCall) (rows : List Row) (first last : UInt32) : List Row :=
  (sort.sort rows).filter fun row => ¬ (row.1 < first ∨ last < row.1)

/-- The loop of `on_backfill` over the rows. -/
def backfillLoop (c : LayeredCapture) (events : List CaptureEvent) :
    List Row → Option (List CaptureEvent × LayeredCapture)
  | [] => some (events, c)
  | (seq, payload) :: rows =>
    (c.journalEntry seq .backfilled 0 payload).bind fun out =>
      backfillLoop out.2 (events ++ out.1) rows

/-- `for (s = from; s <= to && s != 0xFFFFFFFF; ++s)`. -/
def windowOf (first last : UInt32) : List UInt32 :=
  ((List.range (last.toNat + 1 - first.toNat)).map fun i => first + UInt32.ofNat i).filter
    fun s => s ≠ 0xFFFFFFFF

/-- The loop of `on_backfill` over the window: what was not got is typed as a gap, unless it is
    journaled. -/
def gapLoop (got : List UInt32) (c : LayeredCapture) (backfilled : Nat)
    (events : List CaptureEvent) : List UInt32 → Nat × List CaptureEvent × LayeredCapture
  | [] => (backfilled, events, c)
  | s :: rest =>
    if s ∈ got then gapLoop got c (backfilled + 1) events rest
    else if s ∈ c.journal then gapLoop got c backfilled events rest
    else
      gapLoop got { c with journal := c.journal.insert s ⟨s, .gapTyped, 0, 0⟩ } backfilled
        (events ++ [.gapTyped s]) rest

/-- `on_backfill`; without a fetch function there are no rows. -/
def onBackfill (sort : SortCall) (c : LayeredCapture)
    (fetch : Option (UInt32 → UInt32 → List Row)) (first last : UInt32) :
    Option (List CaptureEvent × LayeredCapture) :=
  let rows := fetch.elim [] fun f => f first last
  let taken := inWindow sort rows first last
  (c.backfillLoop [] taken).map fun out =>
    let gaps := gapLoop (taken.map (·.1)) out.2 0 out.1 (windowOf first last)
    (gaps.2.1 ++ [.backfillApplied first last gaps.1], gaps.2.2)

/-! ## Reconciliation -/

/-- `it != end && it->provenance != GapTyped`. -/
def hasContent (c : LayeredCapture) (seq : UInt32) : Bool :=
  c.journal[seq]?.any fun entry => entry.provenance ≠ .gapTyped

/-- A missing sequence joins the last range, or begins one. -/
def extendMissing (missing : List (UInt32 × UInt32)) (s : UInt32) : List (UInt32 × UInt32) :=
  match missing.getLast? with
  | some (first, last) => if last = s - 1 then missing.dropLast ++ [(first, s)] else missing ++ [(s, s)]
  | none => [(s, s)]

/-- The loop of `reconcile` over the sequences 1 to `n`. -/
def reconcileLoop (content : UInt32 → Bool) : Nat → ReconcileReport
  | 0 => ⟨true, []⟩
  | n + 1 =>
    let report := reconcileLoop content n
    let s := UInt32.ofNat (n + 1)
    if content s then report else ⟨false, extendMissing report.missing s⟩

def reconcile (c : LayeredCapture) (venueHighSeq : UInt32) : ReconcileReport :=
  reconcileLoop c.hasContent venueHighSeq.toNat

inductive Call where
  | live (pathId seq : UInt32) (payload : Bytes)
  | cacheReplay (entries : List Row)
  | backfill (fetch : Option (UInt32 → UInt32 → List Row)) (first last : UInt32)

def step (sort : SortCall) (c : LayeredCapture) : Call → Option (List CaptureEvent × LayeredCapture)
  | .live pathId seq payload => c.onLive pathId seq payload
  | .cacheReplay entries => c.onCacheReplay entries
  | .backfill fetch first last => c.onBackfill sort fetch first last

/-- Call after call, to the last or the first that does not return. -/
def runCalls (sort : SortCall) : LayeredCapture → List Call → Option LayeredCapture
  | c, [] => some c
  | c, call :: calls => (c.step sort call).bind fun out => runCalls sort out.2 calls

/-! ## Touches -/

/-- What reaches the journal for a sequence: content, or the typing of a gap. -/
inductive Touch where
  | content (seq : UInt32) (provenance : Provenance) (path : UInt32) (payload : Bytes)
  | typed (seq : UInt32)
  deriving DecidableEq

/-- Its sequence. -/
def Touch.seq : Touch → UInt32
  | .content seq _ _ _ => seq
  | .typed seq => seq

/-- The provenance it would be journaled with. -/
def Touch.provenance : Touch → Provenance
  | .content _ provenance _ _ => provenance
  | .typed _ => .gapTyped

def touchesOf (sort : SortCall) : Call → List Touch
  | .live pathId seq payload => [.content seq .capturedLive pathId payload]
  | .cacheReplay entries => entries.map fun row => .content row.1 .capturedLive 0xFF row.2
  | .backfill fetch first last =>
    let taken := inWindow sort (fetch.elim [] fun f => f first last) first last
    (taken.map fun row => .content row.1 .backfilled 0 row.2) ++
      ((windowOf first last).filter fun s => s ∉ taken.map (·.1)).map .typed

def applyTouch (c : LayeredCapture) : Touch → Option LayeredCapture
  | .content seq provenance path payload =>
    (c.journalEntry seq provenance path payload).map (·.2)
  | .typed seq =>
    if seq ∈ c.journal then some c
    else some { c with journal := c.journal.insert seq ⟨seq, .gapTyped, 0, 0⟩ }

def applyAll : LayeredCapture → List Touch → Option LayeredCapture
  | c, [] => some c
  | c, touch :: touches => (c.applyTouch touch).bind fun c => applyAll c touches

theorem applyAll_append (c : LayeredCapture) (xs ys : List Touch) :
    c.applyAll (xs ++ ys) = (c.applyAll xs).bind fun c => c.applyAll ys := by
  induction xs generalizing c with
  | nil => rfl
  | cons x xs ih =>
    rw [List.cons_append, applyAll, applyAll, Option.bind_assoc]
    congr 1
    funext c
    exact ih c

/-- A sequence that is journaled is left alone. -/
theorem journalEntry_of_mem {c : LayeredCapture} {seq : UInt32} (h : seq ∈ c.journal)
    (provenance : Provenance) (path : UInt32) (payload : Bytes) :
    c.journalEntry seq provenance path payload = some ([], c) := if_pos h

theorem cacheLoop_eq_applyAll (entries : List Row) (c : LayeredCapture) (n : Nat)
    (events : List CaptureEvent) :
    (c.cacheLoop n events entries).map (·.2.2)
      = c.applyAll (entries.map fun row => .content row.1 .capturedLive 0xFF row.2) := by
  induction entries generalizing c n events with
  | nil => rfl
  | cons row entries ih =>
    obtain ⟨seq, payload⟩ := row
    rw [cacheLoop, List.map_cons, applyAll, applyTouch]
    by_cases hmem : seq ∈ c.journal
    · rw [if_pos hmem, journalEntry_of_mem hmem]
      exact ih c n events
    · rw [if_neg hmem, Option.map_bind, Option.bind_map]
      congr 1
      funext out
      exact ih out.2 _ _

theorem backfillLoop_eq_applyAll (rows : List Row) (c : LayeredCapture)
    (events : List CaptureEvent) :
    (c.backfillLoop events rows).map (·.2)
      = c.applyAll (rows.map fun row => .content row.1 .backfilled 0 row.2) := by
  induction rows generalizing c events with
  | nil => rfl
  | cons row rows ih =>
    obtain ⟨seq, payload⟩ := row
    rw [backfillLoop, List.map_cons, applyAll, applyTouch, Option.map_bind, Option.bind_map]
    congr 1
    funext out
    exact ih out.2 _

theorem gapLoop_eq_applyAll (got : List UInt32) (window : List UInt32) (c : LayeredCapture)
    (backfilled : Nat) (events : List CaptureEvent) :
    some (gapLoop got c backfilled events window).2.2
      = c.applyAll ((window.filter fun s => s ∉ got).map .typed) := by
  induction window generalizing c backfilled events with
  | nil => rfl
  | cons s window ih =>
    rw [gapLoop]
    by_cases hgot : s ∈ got
    · rw [if_pos hgot, List.filter_cons_of_neg (by simpa using hgot)]
      exact ih c _ _
    · rw [if_neg hgot, List.filter_cons_of_pos (by simpa using hgot), List.map_cons, applyAll,
        applyTouch]
      by_cases hmem : s ∈ c.journal
      · rw [if_pos hmem, if_pos hmem]
        exact ih c _ _
      · rw [if_neg hmem, if_neg hmem]
        exact ih _ _ _

theorem step_eq_applyAll (sort : SortCall) (c : LayeredCapture) (call : Call) :
    (c.step sort call).map (·.2) = c.applyAll (touchesOf sort call) := by
  cases call with
  | live pathId seq payload =>
    show (c.journalEntry seq .capturedLive pathId payload).map (·.2) = _
    rw [touchesOf, applyAll, applyTouch]
    cases c.journalEntry seq .capturedLive pathId payload <;> rfl
  | cacheReplay entries =>
    rw [step, onCacheReplay, Option.map_map]
    exact cacheLoop_eq_applyAll entries c 0 []
  | backfill fetch first last =>
    rw [step, onBackfill, touchesOf, applyAll_append, ← backfillLoop_eq_applyAll _ c []]
    dsimp only
    rw [Option.map_map, Option.bind_map]
    cases hloop : c.backfillLoop [] (inWindow sort (fetch.elim [] fun f => f first last) first last) with
    | none => rfl
    | some out => exact gapLoop_eq_applyAll _ _ out.2 0 out.1

theorem runCalls_eq_applyAll (sort : SortCall) (calls : List Call) (c : LayeredCapture) :
    c.runCalls sort calls = c.applyAll (calls.flatMap (touchesOf sort)) := by
  induction calls generalizing c with
  | nil => rfl
  | cons call calls ih =>
    rw [runCalls, List.flatMap_cons, applyAll_append, ← step_eq_applyAll, Option.bind_map]
    congr 1
    funext out
    exact ih out.2

end LayeredCapture

end LobReplay.Resilience
