/-
  The frontier of the journal, `next_expected`. Journaling moves it over everything that is
  journaled already, so it is the least sequence that is missing (`Frontier`); the typing of gaps
  writes to the journal behind its back. A backfill that types the frontier leaves it there for
  good, and one that ends at the last of all sequences does not type that one.
-/

import LobReplay.Resilience.Reconcile

namespace LobReplay.Resilience

open Foundation
open Std (ExtTreeMap)

namespace LayeredCapture

/-! ## What the calls reach -/

/-- The call would type the sequence as a gap: the last of all sequences is left out. -/
def Call.Types : Call → UInt32 → Prop
  | .backfill _ first last, seq => first ≤ seq ∧ seq ≤ last ∧ seq ≠ 0xFFFFFFFF
  | .live .., _ | .cacheReplay _, _ => False

/-- Some call carries the sequence or types it. -/
def Reached (calls : List Call) (seq : UInt32) : Prop :=
  ∃ call ∈ calls, call.Carries seq ∨ call.Types seq

/-- `next_expected` is the least sequence from 1 on that has no journal entry. -/
structure Frontier (c : LayeredCapture) : Prop where
  pos : 1 ≤ c.nextExpected
  missing : c.nextExpected ∉ c.journal
  least : ∀ seq, 1 ≤ seq → seq < c.nextExpected → seq ∈ c.journal

/-- After the calls the frontier is right, and a backfill that was the last of them has left no
    sequence of its window without an entry. -/
def Tracks (sort : SortCall) (calls : List Call) : Prop :=
  ∀ c, runCalls sort {} calls = some c → c.Frontier ∧
    ∀ before fetch first last, calls = before ++ [.backfill fetch first last] → first ≤ last →
      ∀ seq, first ≤ seq → seq ≤ last → seq ∈ c.journal

/-- The backfill leaves the frontier alone: nothing of its window is missing, or something below
    it; and the last of all sequences is not missing from its window. -/
def LeavesFrontier (before : List Call) (call : Call) (first last : UInt32) : Prop :=
  ((∀ seq, first ≤ seq → seq ≤ last → 1 ≤ seq → Reached before seq ∨ call.Carries seq) ∨
    ∃ seq, 1 ≤ seq ∧ seq < first ∧ ¬ Reached before seq) ∧
  (last = 0xFFFFFFFF → Reached before last ∨ call.Carries last)

/-- The call behind the others leaves some sequence missing, and does not type the frontier. -/
def Sound (before : List Call) (call : Call) : Prop :=
  (∃ seq, 1 ≤ seq ∧ ¬ Reached (before ++ [call]) seq) ∧
  match call with
  | .backfill _ first last => first ≤ last → LeavesFrontier before call first last
  | .live .. | .cacheReplay _ => True

section

variable {c c' : LayeredCapture} {touch : Touch} {touches : List Touch} {free : UInt32}

theorem mem_windowOf {first last seq : UInt32} :
    seq ∈ windowOf first last ↔ first ≤ seq ∧ seq ≤ last ∧ seq ≠ 0xFFFFFFFF := by
  have hlast := UInt32.toNat_lt last
  unfold windowOf
  rw [List.mem_filter, List.mem_map, decide_eq_true_eq, ← and_assoc]
  refine and_congr_left fun _ => ?_
  rw [UInt32.le_iff_toNat_le, UInt32.le_iff_toNat_le]
  constructor
  · rintro ⟨i, hi, rfl⟩
    rw [List.mem_range] at hi
    have hnat : (first + UInt32.ofNat i).toNat = first.toNat + i := by
      rw [UInt32.toNat_add, UInt32.toNat_ofNat_of_lt' (show i < 2 ^ 32 by omega)]
      exact Nat.mod_eq_of_lt (by omega)
    rw [hnat]
    omega
  · rintro ⟨hlow, hhigh⟩
    refine ⟨seq.toNat - first.toNat, List.mem_range.mpr (by omega), ?_⟩
    apply UInt32.toNat_inj.mp
    have := UInt32.toNat_lt seq
    rw [UInt32.toNat_add,
      UInt32.toNat_ofNat_of_lt' (show seq.toNat - first.toNat < 2 ^ 32 by omega),
      Nat.mod_eq_of_lt (by omega)]
    omega

theorem mem_applyTouch (h : c.applyTouch touch = some c') (seq : UInt32) :
    seq ∈ c'.journal ↔ seq ∈ c.journal ∨ touch.seq = seq := by
  have hprovenance := provenanceOf_applyTouch h seq
  rw [← not_iff_not, ← provenanceOf_eq_none, hprovenance, not_or, ← provenanceOf_eq_none]
  cases c.provenanceOf seq with
  | none => by_cases hseq : touch.seq = seq <;> simp [hseq]
  | some p => simp

theorem mem_applyAll (h : c.applyAll touches = some c') (seq : UInt32) :
    seq ∈ c'.journal ↔ seq ∈ c.journal ∨ ∃ touch ∈ touches, touch.seq = seq := by
  induction touches generalizing c with
  | nil =>
    cases h
    simp
  | cons touch touches ih =>
    rw [applyAll] at h
    obtain ⟨mid, hmid, h⟩ := Option.bind_eq_some_iff.mp h
    rw [ih h, mem_applyTouch hmid, List.exists_mem_cons_iff, or_assoc]

/-! ## The frontier -/

/-- Where the skipping of journaled sequences ends. -/
theorem skipJournaled_eq_some {journal : ExtTreeMap UInt32 JournalEntry} {budget : Nat}
    {next found : UInt32} (h : skipJournaled journal budget next = some found) :
    ∃ k, k < budget ∧ found = next + UInt32.ofNat k ∧ found ∉ journal ∧
      ∀ i < k, next + UInt32.ofNat i ∈ journal := by
  induction budget generalizing next with
  | zero => cases h
  | succ budget ih =>
    have hshift : ∀ i, next + 1 + UInt32.ofNat i = next + UInt32.ofNat (i + 1) := by
      intro i
      rw [UInt32.ofNat_add, UInt32.add_assoc, UInt32.add_comm 1]
      rfl
    have hzero : next + UInt32.ofNat 0 = next := UInt32.add_zero next
    rw [skipJournaled] at h
    by_cases hmem : next ∈ journal
    · rw [if_pos hmem] at h
      obtain ⟨k, hk, hfound, hmissing, hbelow⟩ := ih h
      refine ⟨k + 1, by omega, by rw [hfound, hshift], hmissing, ?_⟩
      intro i hi
      cases i with
      | zero => rw [hzero]; exact hmem
      | succ i => rw [← hshift]; exact hbelow i (by omega)
    · rw [if_neg hmem] at h
      cases h
      exact ⟨0, by omega, hzero.symm, hmem, fun i hi => by omega⟩

/-- **Step.** Content keeps the frontier, as long as some sequence is missing. -/
theorem Frontier.content (h : c.Frontier) (hcontent : touch.isContent = true)
    (htouch : c.applyTouch touch = some c') (hpos : 1 ≤ free) (hfree : free ∉ c'.journal) :
    c'.Frontier := by
  have hgrows := mem_applyTouch htouch
  cases touch with
  | typed seq => cases hcontent
  | content seq provenance path payload =>
    rw [applyTouch, journalEntry] at htouch
    by_cases hmem : seq ∈ c.journal
    · rw [if_pos hmem] at htouch
      cases htouch
      exact h
    rw [if_neg hmem] at htouch
    dsimp only at htouch
    by_cases hnext : seq = c.nextExpected
    · -- the frontier moves up to the first sequence that is missing, before it comes round
      subst hnext
      rw [if_pos rfl, Option.map_map, Option.map_eq_some_iff] at htouch
      obtain ⟨found, hskip, rfl⟩ := htouch
      obtain ⟨k, -, hfound, hmissing, hbelow⟩ := skipJournaled_eq_some hskip
      change ∀ seq, _ ∈ c.journal.insert _ _ ↔ _ at hgrows
      change free ∉ c.journal.insert _ _ at hfree
      have hlimit := UInt32.toNat_lt free
      have habove : c.nextExpected.toNat < free.toNat := by
        by_contra hle
        rcases Nat.lt_or_eq_of_le (Nat.le_of_not_lt hle) with hlt | heq
        · exact hfree ((hgrows free).mpr (Or.inl (h.least free hpos hlt)))
        · exact hfree ((hgrows free).mpr (Or.inr (UInt32.toNat_inj.mp heq).symm))
      have hplace : ∀ i, c.nextExpected.toNat + 1 + i ≤ free.toNat →
          (c.nextExpected + 1 + UInt32.ofNat i).toNat = c.nextExpected.toNat + 1 + i := by
        intro i hi
        rw [UInt32.toNat_add, UInt32.toNat_add,
          UInt32.toNat_ofNat_of_lt' (show i < 2 ^ 32 by omega), UInt32.toNat_one]
        omega
      have hk : c.nextExpected.toNat + 1 + k ≤ free.toNat := by
        by_contra hlt
        have hfree' := hbelow (free.toNat - c.nextExpected.toNat - 1) (by omega)
        have hsame : c.nextExpected + 1 + UInt32.ofNat (free.toNat - c.nextExpected.toNat - 1)
            = free := by
          apply UInt32.toNat_inj.mp
          rw [hplace _ (by omega)]
          omega
        rw [hsame] at hfree'
        exact hfree hfree'
      have hnat : found.toNat = c.nextExpected.toNat + 1 + k := by
        rw [hfound]
        exact hplace k hk
      refine ⟨?_, hmissing, ?_⟩
      · rw [UInt32.le_iff_toNat_le]
        show UInt32.toNat 1 ≤ found.toNat
        rw [hnat, UInt32.toNat_one]
        omega
      · intro other hone hlt
        change other < found at hlt
        rw [UInt32.lt_iff_toNat_lt, hnat] at hlt
        refine (hgrows other).mpr ?_
        rcases Nat.lt_trichotomy other.toNat c.nextExpected.toNat with hless | hsame | hmore
        · exact Or.inl (h.least other hone hless)
        · exact Or.inr (UInt32.toNat_inj.mp hsame).symm
        · have hin := hbelow (other.toNat - c.nextExpected.toNat - 1) (by omega)
          have hother : c.nextExpected + 1 + UInt32.ofNat (other.toNat - c.nextExpected.toNat - 1)
              = other := by
            apply UInt32.toNat_inj.mp
            rw [hplace _ (by omega)]
            omega
          rw [hother] at hin
          exact (hgrows other).mp hin
    · -- the frontier is still missing
      rw [if_neg hnext, Option.map_some, Option.map_some] at htouch
      cases htouch
      refine ⟨h.pos, ?_, ?_⟩
      · rw [hgrows]
        rintro (hin | hseq)
        · exact h.missing hin
        · exact hnext hseq
      · intro other hone hlt
        rw [hgrows]
        exact Or.inl (h.least other hone hlt)

/-- **Run.** Content keeps the frontier, as long as some sequence is missing. -/
theorem Frontier.contents (h : c.Frontier) (hcontent : ∀ touch ∈ touches, touch.isContent = true)
    (hrun : c.applyAll touches = some c') (hpos : 1 ≤ free) (hfree : free ∉ c'.journal) :
    c'.Frontier := by
  induction touches generalizing c with
  | nil =>
    cases hrun
    exact h
  | cons touch touches ih =>
    rw [applyAll] at hrun
    obtain ⟨mid, hmid, hrest⟩ := Option.bind_eq_some_iff.mp hrun
    have hmissing : free ∉ mid.journal :=
      fun hin => hfree ((mem_applyAll hrest free).mpr (Or.inl hin))
    have hnext := h.content (hcontent touch List.mem_cons_self) hmid hpos hmissing
    exact ih hnext (fun touch htouch => hcontent touch (List.mem_cons_of_mem _ htouch)) hrest

theorem applyAll_typed (gaps : List UInt32) (c : LayeredCapture) :
    ∃ c', c.applyAll (gaps.map .typed) = some c' ∧ c'.nextExpected = c.nextExpected := by
  induction gaps generalizing c with
  | nil => exact ⟨c, rfl, rfl⟩
  | cons seq gaps ih =>
    rw [List.map_cons, applyAll, applyTouch]
    by_cases hmem : seq ∈ c.journal
    · rw [if_pos hmem]
      exact ih c
    · rw [if_neg hmem]
      exact ih { c with journal := c.journal.insert seq ⟨seq, .gapTyped, 0, 0⟩ }

theorem touchesOf_split (sort : SortCall) (call : Call) :
    ∃ (contents : List Touch) (gaps : List UInt32),
      touchesOf sort call = contents ++ gaps.map .typed ∧
      (∀ touch ∈ contents, touch.isContent = true) ∧
      (∀ seq, (∃ touch ∈ contents, touch.seq = seq) ↔ call.Carries seq) ∧
      ∀ seq, seq ∈ gaps ↔ call.Types seq ∧ ¬ call.Carries seq := by
  -- what a call carries are its touches that are content
  have hcarries : ∀ (contents : List Touch) (gaps : List UInt32),
      touchesOf sort call = contents ++ gaps.map .typed →
      (∀ touch ∈ contents, touch.isContent = true) →
      ∀ seq, (∃ touch ∈ contents, touch.seq = seq) ↔ call.Carries seq := by
    intro contents gaps hsplit hcontent seq
    rw [carries_iff sort, hsplit]
    constructor
    · rintro ⟨touch, htouch, hseq⟩
      exact ⟨touch, List.mem_append_left _ htouch, hseq, hcontent touch htouch⟩
    · rintro ⟨touch, htouch, hseq, hisContent⟩
      rcases List.mem_append.mp htouch with htouch | htouch
      · exact ⟨touch, htouch, hseq⟩
      · obtain ⟨gap, -, rfl⟩ := List.mem_map.mp htouch
        cases hisContent
  cases call with
  | live pathId key payload =>
    have hcontent : ∀ touch ∈ [Touch.content key .capturedLive pathId payload],
        touch.isContent = true := by simp [Touch.isContent]
    exact ⟨_, [], rfl, hcontent, hcarries _ [] rfl hcontent, by simp [Call.Types]⟩
  | cacheReplay entries =>
    have hcontent : ∀ touch ∈ entries.map fun row : Row =>
        Touch.content row.1 .capturedLive 0xFF row.2, touch.isContent = true := by
      intro touch htouch
      obtain ⟨row, -, rfl⟩ := List.mem_map.mp htouch
      rfl
    have hsplit : touchesOf sort (.cacheReplay entries) = (entries.map fun row : Row =>
        Touch.content row.1 .capturedLive 0xFF row.2) ++ ([] : List UInt32).map .typed := by
      simp [touchesOf]
    exact ⟨_, [], hsplit, hcontent, hcarries _ [] hsplit hcontent, by simp [Call.Types]⟩
  | backfill fetch first last =>
    have hcontent : ∀ touch ∈ (inWindow sort (fetch.elim [] fun f => f first last) first last).map
        fun row : Row => Touch.content row.1 .backfilled 0 row.2, touch.isContent = true := by
      intro touch htouch
      obtain ⟨row, -, rfl⟩ := List.mem_map.mp htouch
      rfl
    have hseqs := hcarries _ _ rfl hcontent
    refine ⟨_, _, rfl, hcontent, hseqs, ?_⟩
    intro seq
    rw [List.mem_filter, mem_windowOf, decide_eq_true_eq, ← hseqs seq]
    refine and_congr_right fun _ => not_congr ?_
    simp [Touch.seq]

/-! ## Calls -/

/-- What a call that returns leaves: its content reaches the journal first, and what it types does
    not move the cursor. -/
theorem step_split {sort : SortCall} {call : Call}
    (hstep : (c.step sort call).map (·.2) = some c') :
    ∃ mid : LayeredCapture, (c.Frontier → ∀ free, 1 ≤ free → free ∉ mid.journal → mid.Frontier) ∧
      (∀ seq, seq ∈ mid.journal ↔ seq ∈ c.journal ∨ call.Carries seq) ∧
      c'.nextExpected = mid.nextExpected ∧
      ∀ seq, seq ∈ c'.journal ↔ seq ∈ mid.journal ∨ call.Types seq := by
  obtain ⟨contents, gaps, hsplit, hcontent, hcarries, hgaps⟩ := touchesOf_split sort call
  rw [step_eq_applyAll, hsplit, applyAll_append] at hstep
  obtain ⟨mid, hmid, htyped⟩ := Option.bind_eq_some_iff.mp hstep
  obtain ⟨last, hlast, hnext⟩ := applyAll_typed gaps mid
  rw [hlast] at htyped
  cases htyped
  have hjournal : ∀ seq, seq ∈ mid.journal ↔ seq ∈ c.journal ∨ call.Carries seq := by
    intro seq
    rw [mem_applyAll hmid, hcarries]
  refine ⟨mid, ?_, hjournal, hnext, ?_⟩
  · intro hfrontier free hpos hfree
    exact hfrontier.contents hcontent hmid hpos hfree
  · intro seq
    have hmem : (∃ touch ∈ gaps.map Touch.typed, touch.seq = seq) ↔ seq ∈ gaps := by
      simp [Touch.seq]
    rw [mem_applyAll hlast, hmem, hgaps]
    by_cases hin : call.Carries seq
    · simp [hjournal, hin]
    · simp [hin]

end

section

variable {sort : SortCall} {calls : List Call} {call : Call} {c : LayeredCapture}

theorem runCalls_concat (sort : SortCall) (c : LayeredCapture) (calls : List Call) (call : Call) :
    c.runCalls sort (calls ++ [call])
      = (c.runCalls sort calls).bind fun c => (c.step sort call).map (·.2) := by
  induction calls generalizing c with
  | nil =>
    rw [List.nil_append, runCalls, runCalls, Option.bind_some]
    cases c.step sort call <;> rfl
  | cons first calls ih =>
    rw [List.cons_append, runCalls, runCalls, Option.bind_assoc]
    congr 1
    funext out
    exact ih out.2

theorem mem_runCalls (h : runCalls sort {} calls = some c) (seq : UInt32) :
    seq ∈ c.journal ↔ Reached calls seq := by
  induction calls using List.reverseRecOn generalizing c with
  | nil =>
    cases h
    simp [Reached]
  | append_singleton calls call ih =>
    rw [runCalls_concat] at h
    obtain ⟨before, hbefore, hstep⟩ := Option.bind_eq_some_iff.mp h
    obtain ⟨mid, -, hmid, -, hjournal⟩ := step_split hstep
    rw [hjournal, hmid, ih hbefore]
    unfold Reached
    simp only [List.mem_append, List.mem_singleton, or_and_right, exists_or, exists_eq_left,
      or_assoc]

theorem reached_concat (calls : List Call) (call : Call) (seq : UInt32) :
    Reached (calls ++ [call]) seq ↔ Reached calls seq ∨ call.Carries seq ∨ call.Types seq := by
  unfold Reached
  simp only [List.mem_append, List.mem_singleton, or_and_right, exists_or, exists_eq_left]

/-- **Step.** A call that leaves the frontier right is sound. -/
theorem Tracks.sound (hbefore : Tracks sort calls) (htracks : Tracks sort (calls ++ [call]))
    (h : runCalls sort {} (calls ++ [call]) = some c) : Sound calls call := by
  obtain ⟨hfrontier, hwindow⟩ := htracks c h
  have hreached := mem_runCalls h
  refine ⟨⟨c.nextExpected, hfrontier.pos, fun hin => hfrontier.missing ((hreached _).mpr hin)⟩, ?_⟩
  cases call with
  | live pathId seq payload => trivial
  | cacheReplay entries => trivial
  | backfill fetch first last =>
    intro hle
    have hlast : last = 0xFFFFFFFF →
        Reached calls last ∨ Call.Carries (.backfill fetch first last) last := by
      intro hmax
      have hin := (hreached last).mp
        (hwindow calls fetch first last rfl hle last hle (UInt32.le_refl last))
      rw [reached_concat] at hin
      rcases hin with hin | hin | hin
      · exact Or.inl hin
      · exact Or.inr hin
      · exact absurd hmax hin.2.2
    refine ⟨?_, hlast⟩
    by_cases hall : ∀ seq, first ≤ seq → seq ≤ last → 1 ≤ seq →
        Reached calls seq ∨ Call.Carries (.backfill fetch first last) seq
    · exact Or.inl hall
    · -- something of the window is missing, so the frontier is not behind it
      simp only [not_forall, not_or] at hall
      obtain ⟨seq, hlow, hhigh, hone, hnever, hcarries⟩ := hall
      rw [runCalls_concat] at h
      obtain ⟨start, hstart, hstep⟩ := Option.bind_eq_some_iff.mp h
      obtain ⟨mid, hmid, hjournal, hnext, htyped⟩ := step_split hstep
      have hmissing : seq ∉ mid.journal := by
        rw [hjournal, mem_runCalls hstart]
        exact fun hin => hin.elim hnever hcarries
      have hkept := hmid (hbefore start hstart).1 seq hone hmissing
      have hle_seq : mid.nextExpected ≤ seq := by
        rw [← UInt32.not_lt]
        exact fun hlt => hmissing (hkept.least seq hone hlt)
      have huntyped : ¬ Call.Types (.backfill fetch first last) mid.nextExpected := by
        intro hin
        apply hfrontier.missing
        rw [hnext, htyped]
        exact Or.inr hin
      by_cases hbelow : mid.nextExpected < first
      · refine Or.inr ⟨mid.nextExpected, hkept.pos, hbelow, fun hin => ?_⟩
        exact hkept.missing ((hjournal _).mpr (Or.inl ((mem_runCalls hstart _).mpr hin)))
      · -- the frontier would be the last of all sequences
        exfalso
        have hmax : mid.nextExpected = 0xFFFFFFFF := by
          by_contra hne
          exact huntyped ⟨UInt32.not_lt.mp hbelow, UInt32.le_trans hle_seq hhigh, hne⟩
        have hlast_eq : last = mid.nextExpected := by
          have hsum := UInt32.le_trans hle_seq hhigh
          rw [hmax, UInt32.le_iff_toNat_le] at hsum
          apply UInt32.toNat_inj.mp
          have := UInt32.toNat_lt last
          have hvalue : (0xFFFFFFFF : UInt32).toNat = 2 ^ 32 - 1 := rfl
          rw [hmax]
          omega
        have hin := hlast (hlast_eq.trans hmax)
        rw [hlast_eq] at hin
        apply hkept.missing
        rw [hjournal, mem_runCalls hstart]
        rw [hlast_eq]
        exact hin

/-- **Step.** A sound call leaves the frontier right. -/
theorem Tracks.concat (hbefore : Tracks sort calls)
    (hsound : (runCalls sort {} (calls ++ [call])).isSome → Sound calls call) :
    Tracks sort (calls ++ [call]) := by
  intro c h
  obtain ⟨⟨free, hone, hfree⟩, hcall⟩ := hsound (by rw [h]; rfl)
  have hreached := mem_runCalls h
  rw [runCalls_concat] at h
  obtain ⟨start, hstart, hstep⟩ := Option.bind_eq_some_iff.mp h
  obtain ⟨mid, hmid, hjournal, hnext, htyped⟩ := step_split hstep
  rw [reached_concat, not_or, not_or] at hfree
  have hmissing : free ∉ mid.journal := by
    rw [hjournal, mem_runCalls hstart]
    exact fun hin => hin.elim hfree.1 hfree.2.1
  have hkept := hmid (hbefore start hstart).1 free hone hmissing
  have huntyped : ¬ call.Types mid.nextExpected := by
    intro htypes
    cases call with
    | live pathId seq payload => exact htypes
    | cacheReplay entries => exact htypes
    | backfill fetch first last =>
      obtain ⟨hlow, hhigh, hmax⟩ := htypes
      rcases (hcall (UInt32.le_trans hlow hhigh)).1 with hall | ⟨seq, hseq, hbelow, hnever⟩
      · apply hkept.missing
        rw [hjournal, mem_runCalls hstart]
        exact hall _ hlow hhigh hkept.pos
      · -- the window begins behind a sequence that is missing
        have hcarries : ¬ Call.Carries (.backfill fetch first last) seq :=
          fun h => UInt32.not_lt.mpr h.1 hbelow
        have hfront : ¬ seq < mid.nextExpected := by
          intro hlt
          have hin := hkept.least seq hseq hlt
          rw [hjournal, mem_runCalls hstart] at hin
          exact hin.elim hnever hcarries
        exact hfront (UInt32.lt_of_lt_of_le hbelow hlow)
  refine ⟨⟨?_, ?_, ?_⟩, ?_⟩
  · rw [hnext]
    exact hkept.pos
  · rw [hnext, htyped]
    exact fun hin => hin.elim hkept.missing huntyped
  · intro seq hseq hlt
    rw [hnext] at hlt
    exact (htyped seq).mpr (Or.inl (hkept.least seq hseq hlt))
  · intro before fetch first last hcalls hle seq hlow hhigh
    obtain ⟨-, hlast⟩ := List.append_inj' hcalls rfl
    cases hlast
    rw [hreached, reached_concat]
    by_cases hmax : seq = 0xFFFFFFFF
    · have hend : last = seq := by
        apply UInt32.toNat_inj.mp
        rw [UInt32.le_iff_toNat_le, hmax] at hhigh
        have := UInt32.toNat_lt last
        have hvalue : (0xFFFFFFFF : UInt32).toNat = 2 ^ 32 - 1 := rfl
        rw [hmax]
        omega
      subst hend
      exact ((hcall hle).2 hmax).elim Or.inl fun h => Or.inr (Or.inl h)
    · exact Or.inr (Or.inr ⟨hlow, hhigh, hmax⟩)

theorem tracks_nil (sort : SortCall) : Tracks sort [] := by
  intro c h
  cases h
  refine ⟨⟨UInt32.le_refl 1, ExtTreeMap.not_mem_empty, ?_⟩, ?_⟩
  · intro seq hone hlt
    exact absurd hlt (UInt32.not_lt.mpr hone)
  · intro before fetch first last hcalls
    cases before <;> cases hcalls

end

/-- The frontier is right after every call, and every backfilled window journaled, exactly when
    every call that returns is sound. -/
theorem tracks_iff (sort : SortCall) (calls : List Call) :
    (∀ before later, calls = before ++ later → Tracks sort before) ↔
      AtEach (fun before call => (runCalls sort {} (before ++ [call])).isSome → Sound before call)
        calls := by
  refine prefixes_iff_atEach (A := fun _ => True) (K := Tracks sort) (fun _ _ _ => trivial)
    (tracks_nil sort) (fun _ h => h) ?_ ?_ trivial
  · intro history call _ hkept hsound
    exact hkept.concat hsound
  · intro history call _ hkept htracks hsome
    obtain ⟨c, hc⟩ := Option.isSome_iff_exists.mp hsome
    exact hkept.sound htracks hc

theorem runCalls_backfill_one {seq : UInt32} (h : seq ≠ 0xFFFFFFFF) :
    runCalls stableSort {} [.backfill none seq seq]
      = some { journal := (∅ : ExtTreeMap UInt32 JournalEntry).insert seq ⟨seq, .gapTyped, 0, 0⟩
               nextExpected := 1 } := by
  rw [runCalls_eq_applyAll, List.flatMap_cons, List.flatMap_nil, List.append_nil,
    touchesOf_backfill_none, windowOf_self h, List.map_cons, List.map_nil, applyAll, applyTouch,
    if_neg ExtTreeMap.not_mem_empty]
  rfl

/-- A backfill that types the frontier leaves it there, and one at the end of all sequences does
    not type the last one. -/
theorem typed_frontier_stays :
    ¬ Tracks stableSort [.backfill none 1 1] ∧
    ¬ Tracks stableSort [.backfill none 0xFFFFFFFF 0xFFFFFFFF] := by
  constructor
  · intro htracks
    have hmissing := (htracks _ (runCalls_backfill_one (by decide))).1.missing
    exact hmissing (ExtTreeMap.mem_insert_self)
  · intro htracks
    have hwindow : windowOf 0xFFFFFFFF 0xFFFFFFFF = [] := by decide
    have hrun : runCalls stableSort {} [.backfill none 0xFFFFFFFF 0xFFFFFFFF] = some {} := by
      rw [runCalls_eq_applyAll, List.flatMap_cons, List.flatMap_nil, List.append_nil,
        touchesOf_backfill_none, hwindow]
      rfl
    have hin := (htracks _ hrun).2 [] none _ _ rfl (UInt32.le_refl _) _ (UInt32.le_refl _)
      (UInt32.le_refl _)
    exact ExtTreeMap.not_mem_empty hin

end LayeredCapture

end LobReplay.Resilience
