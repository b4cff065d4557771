/-
  The account of gap intervals that the supervisor's transitions add up to. A ledger is the gaps
  opened, the gaps closed and the one still open; time passes (`Ledger.tick`), a gap opens
  (`Ledger.begin`) or the open one closes (`Ledger.finish`).
-/

import LobReplay.Redundancy.Supervisor
import Mathlib.Data.List.Basic

namespace LobReplay.Redundancy

def GapInterval.opening (gap : GapInterval) : GapInterval :=
  { gap with closedMonoNs := none, unavailableNs := none }

def GapInterval.close (gap : GapInterval) (now : Nat) : GapInterval :=
  { gap with closedMonoNs := some now, unavailableNs := some (now - gap.openedMonoNs) }

/-- A gap covers the time from its opening up to its closing. -/
def GapInterval.Covers (gap : GapInterval) (t : Nat) : Prop :=
  gap.openedMonoNs ≤ t ∧ ∀ closed, gap.closedMonoNs = some closed → t < closed

def Covered (gaps : List GapInterval) (t : Nat) : Prop := ∃ gap ∈ gaps, gap.Covers t

/-- The account at time `now`: its gaps are numbered from 0, each closed one carries its length,
    and each ends before the next begins. -/
structure Ledger (opened closed : List GapInterval) (openGap : Option GapInterval)
    (now : Nat) : Prop where
  /-- Consecutive identities from 0. -/
  ids : opened.map GapInterval.gapId = List.range opened.length
  /-- The gaps opened are those closed and the open one. -/
  opened_eq : (closed ++ openGap.toList).map GapInterval.opening = opened
  open_gap : ∀ gap, openGap = some gap →
    gap.closedMonoNs = none ∧ gap.unavailableNs = none ∧ gap.openedMonoNs ≤ now
  closed_gap : ∀ gap ∈ closed, ∃ end_, gap.closedMonoNs = some end_ ∧
    gap.unavailableNs = some (end_ - gap.openedMonoNs) ∧ gap.openedMonoNs ≤ end_ ∧ end_ ≤ now
  /-- Pairwise disjoint and ordered in time. -/
  ordered : (closed ++ openGap.toList).Pairwise fun earlier later =>
    ∀ end_, earlier.closedMonoNs = some end_ → end_ ≤ later.openedMonoNs

namespace Ledger

variable {opened closed : List GapInterval} {openGap : Option GapInterval} {now : Nat}
  {gap : GapInterval} {t : Nat}

/-- An account without gaps. -/
theorem nil (now : Nat) : Ledger [] [] none now := by
  refine ⟨rfl, rfl, ?_, ?_, List.Pairwise.nil⟩
  · intro gap h
    cases h
  · intro gap h
    cases h

/-- Time passes. -/
theorem tick (h : Ledger opened closed openGap now) {later : Nat} (hlater : now ≤ later) :
    Ledger opened closed openGap later := by
  refine ⟨h.ids, h.opened_eq, ?_, ?_, h.ordered⟩
  · intro gap hgap
    obtain ⟨hclosed, hunavailable, hle⟩ := h.open_gap gap hgap
    exact ⟨hclosed, hunavailable, Nat.le_trans hle hlater⟩
  · intro gap hgap
    obtain ⟨end_, hclosed, hunavailable, hle, hend⟩ := h.closed_gap gap hgap
    exact ⟨end_, hclosed, hunavailable, hle, Nat.le_trans hend hlater⟩

/-- A gap opens at the present. -/
theorem begin (h : Ledger opened closed none now) :
    Ledger (opened ++ [⟨opened.length, now, none, none⟩]) closed
      (some ⟨opened.length, now, none, none⟩) now := by
  refine ⟨?_, ?_, ?_, h.closed_gap, ?_⟩
  · rw [List.map_append, h.ids, List.length_append, List.length_singleton, List.range_succ]
    rfl
  · have hopened := h.opened_eq
    rw [Option.toList_none, List.append_nil] at hopened
    rw [Option.toList_some, List.map_append, hopened]
    rfl
  · rintro gap hgap
    cases hgap
    exact ⟨rfl, rfl, Nat.le_refl _⟩
  · rw [Option.toList_some, List.pairwise_append]
    refine ⟨?_, List.pairwise_singleton _ _, ?_⟩
    · simpa using h.ordered
    · intro gap hgap new hnew end_ hend
      obtain ⟨end', hend', -, -, hle⟩ := h.closed_gap gap hgap
      rw [List.mem_singleton.mp hnew]
      rw [hend'] at hend
      cases hend
      exact hle

theorem finish (h : Ledger opened closed (some gap) now) :
    Ledger opened (closed ++ [gap.close now]) none now := by
  obtain ⟨hclosed, hunavailable, hle⟩ := h.open_gap gap rfl
  refine ⟨h.ids, ?_, ?_, ?_, ?_⟩
  · rw [← h.opened_eq]
    simp [GapInterval.opening, GapInterval.close]
  · intro gap hgap
    cases hgap
  · intro other hother
    rcases List.mem_append.mp hother with hother | hother
    · exact h.closed_gap other hother
    · rw [List.mem_singleton.mp hother]
      exact ⟨now, rfl, rfl, hle, Nat.le_refl _⟩
  · have hordered := h.ordered
    rw [Option.toList_some, List.pairwise_append] at hordered
    obtain ⟨hbefore, -, hlast⟩ := hordered
    rw [Option.toList_none, List.append_nil, List.pairwise_append]
    refine ⟨hbefore, List.pairwise_singleton _ _, ?_⟩
    intro earlier hearlier last hmem end_ hend
    rw [List.mem_singleton.mp hmem]
    exact hlast earlier hearlier gap (List.mem_singleton_self _) end_ hend

theorem covered_now (h : Ledger opened closed openGap now) (ht : now ≤ t) :
    Covered (closed ++ openGap.toList) t ↔ openGap.isSome := by
  constructor
  · rintro ⟨gap, hgap, hcovers⟩
    rcases List.mem_append.mp hgap with hgap | hgap
    · -- a closed gap ended by now
      obtain ⟨end_, hend, -, -, hle⟩ := h.closed_gap gap hgap
      have := hcovers.2 end_ hend
      omega
    · rw [Option.mem_toList] at hgap
      rw [hgap]
      rfl
  · intro hsome
    obtain ⟨gap, rfl⟩ := Option.isSome_iff_exists.mp hsome
    obtain ⟨hclosed, -, hle⟩ := h.open_gap gap rfl
    refine ⟨gap, by simp, Nat.le_trans hle ht, ?_⟩
    intro end_ hend
    rw [hclosed] at hend
    cases hend

/-- The opening of a gap does not change the past. -/
theorem covered_begin {id : Nat} (ht : t < now) :
    Covered (closed ++ (some ⟨id, now, none, none⟩ : Option GapInterval).toList) t
      ↔ Covered (closed ++ (none : Option GapInterval).toList) t := by
  constructor
  · rintro ⟨gap, hgap, hcovers⟩
    rcases List.mem_append.mp hgap with hgap | hgap
    · exact ⟨gap, by simpa using hgap, hcovers⟩
    · obtain rfl : gap = ⟨id, now, none, none⟩ := by simpa using hgap
      have : now ≤ t := hcovers.1
      omega
  · rintro ⟨gap, hgap, hcovers⟩
    refine ⟨gap, ?_, hcovers⟩
    rw [Option.toList_none, List.append_nil] at hgap
    exact List.mem_append_left _ hgap

theorem covered_finish (hopen : gap.closedMonoNs = none) (ht : t < now) :
    Covered ((closed ++ [gap.close now]) ++ (none : Option GapInterval).toList) t
      ↔ Covered (closed ++ (some gap).toList) t := by
  have hcovers : (gap.close now).Covers t ↔ gap.Covers t := by
    simp [GapInterval.Covers, GapInterval.close, hopen, ht]
  simp only [Covered, Option.toList_none, Option.toList_some, List.append_nil, List.mem_append,
    List.mem_singleton, or_and_right, exists_or, exists_eq_left, hcovers]

end Ledger

end LobReplay.Redundancy
