/-
  What the reconciliation reports. The first touch of a sequence stands in the journal
  (`provenanceOf_applyAll`), and the typing of a gap is a touch: content that comes for a sequence
  after its gap was typed is dropped, and the sequence stays missing.

  So the report is that of the content that arrived exactly when no content comes for a sequence
  whose gap was typed before.
-/

import LobReplay.Foundation.Machine
import LobReplay.Resilience.Capture

namespace LobReplay.Resilience

open Foundation
open Std (ExtTreeMap)

namespace LayeredCapture

/-! ## The first touch stands -/

/-- Content, not the typing of a gap. -/
def Touch.isContent : Touch → Bool
  | .content .. => true
  | .typed _ => false

/-- The provenance a sequence is journaled with. -/
def provenanceOf (c : LayeredCapture) (seq : UInt32) : Option Provenance :=
  c.journal[seq]?.map (·.provenance)

variable {c : LayeredCapture} {seq : UInt32} {touch : Touch} {touches : List Touch}
  {c' : LayeredCapture} {journal : ExtTreeMap UInt32 JournalEntry} {next : UInt32}

theorem provenanceOf_eq_none : c.provenanceOf seq = none ↔ seq ∉ c.journal := by
  unfold provenanceOf
  rw [Option.map_eq_none_iff]
  constructor
  · intro hnone hmem
    have hsome := ExtTreeMap.mem_iff_isSome_getElem?.mp hmem
    rw [hnone] at hsome
    cases hsome
  · exact ExtTreeMap.getElem?_eq_none

theorem hasContent_iff :
    c.hasContent seq = true ↔ ∃ p, c.provenanceOf seq = some p ∧ p ≠ .gapTyped := by
  unfold hasContent provenanceOf
  cases c.journal[seq]? with
  | none => simp
  | some entry => simp

theorem provenanceOf_insert (hnew : seq ∉ c.journal) (entry : JournalEntry) (next other : UInt32) :
    provenanceOf ⟨c.journal.insert seq entry, next⟩ other
      = (c.provenanceOf other).or (if seq = other then some entry.provenance else none) := by
  unfold provenanceOf
  dsimp only
  rw [ExtTreeMap.getElem?_insert]
  by_cases hseq : seq = other
  · subst hseq
    rw [if_pos (by simp), if_pos rfl, ExtTreeMap.getElem?_eq_none hnew]
    rfl
  · rw [if_neg (by simpa using hseq), if_neg hseq, Option.or_none]

/-- **Step.** A touch that returns. -/
theorem provenanceOf_applyTouch (h : c.applyTouch touch = some c') (seq : UInt32) :
    c'.provenanceOf seq
      = (c.provenanceOf seq).or (if touch.seq = seq then some touch.provenance else none) := by
  -- a sequence that is journaled keeps its provenance
  have hkept : touch.seq ∈ c.journal → c.provenanceOf seq
      = (c.provenanceOf seq).or (if touch.seq = seq then some touch.provenance else none) := by
    intro hmem
    by_cases hseq : touch.seq = seq
    · subst hseq
      obtain ⟨p, hp⟩ := Option.ne_none_iff_exists'.mp
        (fun hnone => (provenanceOf_eq_none.mp hnone) hmem)
      rw [hp]
      rfl
    · rw [if_neg hseq, Option.or_none]
  cases touch with
  | content key provenance path payload =>
    rw [applyTouch, journalEntry] at h
    by_cases hmem : key ∈ c.journal
    · rw [if_pos hmem] at h
      cases h
      exact hkept hmem
    · rw [if_neg hmem, Option.map_map] at h
      obtain ⟨next, -, hc⟩ := Option.map_eq_some_iff.mp h
      rw [← hc]
      exact provenanceOf_insert hmem _ _ _
  | typed key =>
    rw [applyTouch] at h
    by_cases hmem : key ∈ c.journal
    · rw [if_pos hmem] at h
      cases h
      exact hkept hmem
    · rw [if_neg hmem] at h
      cases h
      exact provenanceOf_insert hmem _ _ _

/-- **Run.** The first touch of a sequence stands, by induction on the touches. -/
theorem provenanceOf_applyAll (h : c.applyAll touches = some c') (seq : UInt32) :
    c'.provenanceOf seq
      = (c.provenanceOf seq).or ((touches.find? (·.seq = seq)).map (·.provenance)) := by
  induction touches generalizing c with
  | nil =>
    cases h
    rw [List.find?_nil, Option.map_none, Option.or_none]
  | cons touch touches ih =>
    rw [applyAll] at h
    obtain ⟨mid, hmid, h⟩ := Option.bind_eq_some_iff.mp h
    rw [ih h, provenanceOf_applyTouch hmid, Option.or_assoc]
    congr 1
    by_cases hseq : touch.seq = seq
    · rw [if_pos hseq, List.find?_cons_of_pos (by simpa using hseq)]
      rfl
    · rw [if_neg hseq, List.find?_cons_of_neg (by simpa using hseq), Option.none_or]

theorem provenanceOf_new (seq : UInt32) : provenanceOf {} seq = none :=
  provenanceOf_eq_none.mpr ExtTreeMap.not_mem_empty

/-! ## Calls that do not return -/

/-- The touch puts the last of the 2^32 sequences into the journal, at the cursor. -/
def FillsLast (c : LayeredCapture) (touch : Touch) : Prop :=
  touch.isContent = true ∧ touch.seq ∉ c.journal ∧ touch.seq = c.nextExpected ∧
    ∀ other, other ≠ touch.seq → other ∈ c.journal

theorem skipJournaled_eq_none {budget : Nat} :
    skipJournaled journal budget next = none ↔
      ∀ i < budget, next + UInt32.ofNat i ∈ journal := by
  induction budget generalizing next with
  | zero => simp [skipJournaled]
  | succ budget ih =>
    rw [skipJournaled]
    have hshift : ∀ i, next + 1 + UInt32.ofNat i = next + UInt32.ofNat (i + 1) := by
      intro i
      rw [UInt32.ofNat_add, UInt32.add_assoc, UInt32.add_comm 1]
      rfl
    have hzero : next + UInt32.ofNat 0 = next := UInt32.add_zero next
    by_cases hmem : next ∈ journal
    · rw [if_pos hmem, ih]
      constructor
      · intro h i hi
        cases i with
        | zero => rw [hzero]; exact hmem
        | succ i => rw [← hshift]; exact h i (by omega)
      · intro h i hi
        rw [hshift]
        exact h (i + 1) (by omega)
    · rw [if_neg hmem]
      constructor
      · intro h
        cases h
      · intro h
        exact absurd (hzero ▸ h 0 (by omega)) hmem

/-- A full round meets every sequence. -/
theorem skipJournaled_round :
    skipJournaled journal (2 ^ 32) next = none ↔ ∀ seq, seq ∈ journal := by
  rw [skipJournaled_eq_none]
  constructor
  · intro h seq
    have hround := h (seq - next).toNat (UInt32.toNat_lt _)
    rw [UInt32.ofNat_toNat, UInt32.add_comm, UInt32.sub_add_cancel] at hround
    exact hround
  · intro h i _
    exact h _

theorem applyTouch_eq_none : c.applyTouch touch = none ↔ FillsLast c touch := by
  cases touch with
  | typed seq =>
    rw [applyTouch]
    refine ⟨fun h => ?_, fun h => ?_⟩
    · split at h <;> cases h
    · cases h.1
  | content seq provenance path payload =>
    rw [applyTouch, Option.map_eq_none_iff, journalEntry]
    unfold FillsLast
    by_cases hmem : seq ∈ c.journal
    · rw [if_pos hmem]
      exact ⟨(fun h => by cases h), fun h => absurd hmem h.2.1⟩
    rw [if_neg hmem, Option.map_eq_none_iff]
    by_cases hnext : seq = c.nextExpected
    · rw [if_pos hnext, skipJournaled_round]
      constructor
      · intro hall
        refine ⟨rfl, hmem, hnext, fun other hother => ?_⟩
        have hin := hall other
        rw [ExtTreeMap.mem_insert] at hin
        exact hin.resolve_left (by simpa using fun heq : seq = other => hother heq.symm)
      · rintro ⟨-, -, -, hall⟩ other
        rw [ExtTreeMap.mem_insert]
        by_cases hother : other = seq
        · exact Or.inl (by simp [hother])
        · exact Or.inr (hall other hother)
    · rw [if_neg hnext]
      exact ⟨(fun h => by cases h), fun h => absurd h.2.2.1 hnext⟩

/-- No touch fills the last free sequence at the cursor. -/
def Ends (touches : List Touch) : Prop :=
  AtEach (fun before touch => ∀ c, applyAll {} before = some c → ¬ FillsLast c touch) touches

theorem applyAll_isSome_iff (touches : List Touch) :
    (∃ c, applyAll {} touches = some c) ↔ Ends touches := by
  induction touches using List.reverseRecOn with
  | nil => exact ⟨fun _ => atEach_nil, fun _ => ⟨{}, rfl⟩⟩
  | append_singleton touches touch ih =>
    have hlast : ∀ c : LayeredCapture, c.applyAll [touch] = c.applyTouch touch := by
      intro c
      rw [applyAll]
      cases c.applyTouch touch <;> rfl
    unfold Ends at ih ⊢
    rw [atEach_concat, ← ih, applyAll_append]
    constructor
    · rintro ⟨c, hc⟩
      obtain ⟨mid, hmid, hc⟩ := Option.bind_eq_some_iff.mp hc
      refine ⟨⟨mid, hmid⟩, fun c' hc' hfills => ?_⟩
      rw [hmid] at hc'
      cases hc'
      rw [hlast, applyTouch_eq_none.mpr hfills] at hc
      cases hc
    · rintro ⟨⟨mid, hmid⟩, hfine⟩
      obtain ⟨c, hc⟩ := Option.ne_none_iff_exists'.mp
        (fun hnone => hfine mid hmid (applyTouch_eq_none.mp hnone))
      exact ⟨c, by rw [hmid, Option.bind_some, hlast, hc]⟩

/-- While a sequence is untouched every call returns. -/
theorem ends_of_untouched (seq : UInt32) (h : ∀ touch ∈ touches, touch.seq ≠ seq) :
    Ends touches := by
  rintro before touch after rfl c hc ⟨-, -, -, hall⟩
  -- what is not touched before is not journaled
  have hfree : seq ∉ c.journal := by
    rw [← provenanceOf_eq_none, provenanceOf_applyAll hc, provenanceOf_new, Option.none_or,
      Option.map_eq_none_iff, List.find?_eq_none]
    intro t ht
    simpa using h t (List.mem_append_left _ ht)
  have htouch := h touch (List.mem_append_right _ List.mem_cons_self)
  exact hfree (hall seq (Ne.symm htouch))

/-! ## The ranges of a report -/

/-- The report names exactly the missing sequences up to `high`, as ranges in order with a
    sequence between each two. -/
structure Exact (report : ReconcileReport) (high : Nat) (missing : UInt32 → Prop) : Prop where
  names : ∀ s, (∃ r ∈ report.missing, r.1 ≤ s ∧ s ≤ r.2) ↔
    1 ≤ s.toNat ∧ s.toNat ≤ high ∧ missing s
  ranges : ∀ r ∈ report.missing, r.1 ≤ r.2
  apart : report.missing.Pairwise fun a b => a.2.toNat + 1 < b.1.toNat
  complete : report.complete = true ↔ ∀ s, 1 ≤ s.toNat → s.toNat ≤ high → ¬ missing s

/-- Every range ends at `high` or below. -/
theorem Exact.ends_le {report : ReconcileReport} {high : Nat} {missing : UInt32 → Prop}
    (h : Exact report high missing) {r : UInt32 × UInt32} (hr : r ∈ report.missing) :
    r.2.toNat ≤ high :=
  ((h.names r.2).mp ⟨r, hr, h.ranges r hr, UInt32.le_refl _⟩).2.1

theorem extendMissing_join (init : List (UInt32 × UInt32)) (first s : UInt32) :
    extendMissing (init ++ [(first, s - 1)]) s = init ++ [(first, s)] := by
  unfold extendMissing
  rw [List.getLast?_concat, List.dropLast_concat]
  exact if_pos rfl

theorem extendMissing_begin {missing : List (UInt32 × UInt32)} {s : UInt32}
    (h : ∀ r ∈ missing.getLast?, r.2 ≠ s - 1) : extendMissing missing s = missing ++ [(s, s)] := by
  unfold extendMissing
  rcases List.eq_nil_or_concat missing with rfl | ⟨init, r, rfl⟩
  · rfl
  · rw [List.concat_eq_append, List.getLast?_concat] at *
    exact if_neg (h r rfl)

section

variable {report : ReconcileReport} {n : Nat} {missing : UInt32 → Prop} {s : UInt32}
  {init : List (UInt32 × UInt32)}

theorem missing_succ (hnat : s.toNat = n + 1) (hmissing : missing s) (x : UInt32) :
    (1 ≤ x.toNat ∧ x.toNat ≤ n + 1 ∧ missing x) ↔
      (1 ≤ x.toNat ∧ x.toNat ≤ n ∧ missing x) ∨ x = s := by
  constructor
  · rintro ⟨hlow, hhigh, hx⟩
    by_cases hle : x.toNat ≤ n
    · exact Or.inl ⟨hlow, hle, hx⟩
    · exact Or.inr (UInt32.toNat_inj.mp (by omega))
  · rintro (⟨hlow, hhigh, hx⟩ | rfl)
    · exact ⟨hlow, by omega, hx⟩
    · exact ⟨by omega, by omega, hmissing⟩

theorem incomplete_of_missing (hnat : s.toNat = n + 1) (hmissing : missing s) :
    false = true ↔ ∀ x : UInt32, 1 ≤ x.toNat → x.toNat ≤ n + 1 → ¬ missing x := by
  constructor
  · intro h
    cases h
  · intro hall
    exact absurd hmissing (hall s (by omega) (by omega))

section

variable (h : Exact report n missing)
include h

theorem Exact.join (hnat : s.toNat = n + 1) (hmissing : missing s) {first last : UInt32}
    (hlast : last.toNat = n) (hreport : report.missing = init ++ [(first, last)]) :
    Exact ⟨false, init ++ [(first, s)]⟩ (n + 1) missing := by
  have hmem : (first, last) ∈ report.missing := by
    rw [hreport]
    exact List.mem_append_right _ List.mem_cons_self
  have hfirst : first.toNat ≤ n := hlast ▸ UInt32.le_iff_toNat_le.mp (h.ranges _ hmem)
  refine ⟨fun x => ?_, fun r hr => ?_, ?_, incomplete_of_missing hnat hmissing⟩
  · rw [missing_succ hnat hmissing, ← h.names, hreport]
    simp only [List.mem_append, List.mem_singleton, UInt32.le_iff_toNat_le]
    constructor
    · rintro ⟨r, hr | rfl, hlow, hhigh⟩
      · exact Or.inl ⟨r, Or.inl hr, hlow, hhigh⟩
      · by_cases hx : x = s
        · exact Or.inr hx
        · have hne : x.toNat ≠ s.toNat := fun heq => hx (UInt32.toNat_inj.mp heq)
          dsimp only at hlow hhigh
          exact Or.inl ⟨(first, last), Or.inr rfl, hlow, by dsimp only; omega⟩
    · rintro (⟨r, hr | rfl, hlow, hhigh⟩ | rfl)
      · exact ⟨r, Or.inl hr, hlow, hhigh⟩
      · dsimp only at hlow hhigh
        exact ⟨(first, s), Or.inr rfl, hlow, by dsimp only; omega⟩
      · exact ⟨(first, x), Or.inr rfl, by dsimp only; omega, Nat.le_refl _⟩
  · rcases List.mem_append.mp hr with hr | hr
    · exact h.ranges r (by rw [hreport]; exact List.mem_append_left _ hr)
    · rw [List.mem_singleton] at hr
      subst hr
      exact UInt32.le_iff_toNat_le.mpr (by dsimp only; omega)
  · have hapart := h.apart
    rw [hreport, List.pairwise_append] at hapart
    refine List.pairwise_append.mpr ⟨hapart.1, List.pairwise_singleton _ _, fun a ha b hb => ?_⟩
    rw [List.mem_singleton] at hb
    subst hb
    exact hapart.2.2 a ha (first, last) List.mem_cons_self

theorem Exact.begin (hnat : s.toNat = n + 1) (hmissing : missing s)
    (hbelow : ∀ r ∈ report.missing, r.2.toNat ≠ n) :
    Exact ⟨false, report.missing ++ [(s, s)]⟩ (n + 1) missing := by
  refine ⟨fun x => ?_, fun r hr => ?_, ?_, incomplete_of_missing hnat hmissing⟩
  · rw [missing_succ hnat hmissing, ← h.names]
    simp only [List.mem_append, List.mem_singleton]
    constructor
    · rintro ⟨r, hr | rfl, hlow, hhigh⟩
      · exact Or.inl ⟨r, hr, hlow, hhigh⟩
      · exact Or.inr (UInt32.le_antisymm hhigh hlow)
    · rintro (⟨r, hr, hlow, hhigh⟩ | rfl)
      · exact ⟨r, Or.inl hr, hlow, hhigh⟩
      · exact ⟨(x, x), Or.inr rfl, UInt32.le_refl _, UInt32.le_refl _⟩
  · rcases List.mem_append.mp hr with hr | hr
    · exact h.ranges r hr
    · rw [List.mem_singleton] at hr
      subst hr
      exact UInt32.le_refl _
  · refine List.pairwise_append.mpr ⟨h.apart, List.pairwise_singleton _ _, fun a ha b hb => ?_⟩
    rw [List.mem_singleton] at hb
    subst hb
    have hend := h.ends_le ha
    have hne := hbelow a ha
    show a.2.toNat + 1 < s.toNat
    omega

/-- Only the last range can end at `n`. -/
theorem Exact.ends_below {last : UInt32 × UInt32} (hreport : report.missing = init ++ [last])
    (hlast : last.2.toNat ≠ n) {r : UInt32 × UInt32} (hr : r ∈ report.missing) : r.2.toNat ≠ n := by
  have hmem : last ∈ report.missing := by
    rw [hreport]
    exact List.mem_append_right _ List.mem_cons_self
  have hrange := UInt32.le_iff_toNat_le.mp (h.ranges last hmem)
  have hend := h.ends_le hmem
  have hapart := h.apart
  rw [hreport, List.pairwise_append] at hapart
  rw [hreport, List.mem_append, List.mem_singleton] at hr
  rcases hr with hr | rfl
  · have hgap := hapart.2.2 r hr last List.mem_cons_self
    omega
  · exact hlast

/-- **Step.** One missing sequence more, next to the sequences that were looked at. -/
theorem Exact.extend (hnat : s.toNat = n + 1) (hmissing : missing s) :
    Exact ⟨false, extendMissing report.missing s⟩ (n + 1) missing := by
  have hpred : (s - 1).toNat = n := by
    have hle : (1 : UInt32) ≤ s := UInt32.le_iff_toNat_le.mpr (by rw [hnat]; exact Nat.le_add_left 1 n)
    rw [UInt32.toNat_sub_of_le _ _ hle, hnat]
    rfl
  rcases List.eq_nil_or_concat report.missing with hreport | ⟨init, last, hreport⟩
  · rw [extendMissing_begin (by rw [hreport]; rintro r ⟨⟩)]
    exact h.begin hnat hmissing (by rw [hreport]; exact fun r hr => absurd hr List.not_mem_nil)
  rw [List.concat_eq_append] at hreport
  by_cases hlast : last.2 = s - 1
  · obtain ⟨first, last⟩ := last
    subst hlast
    rw [hreport, extendMissing_join]
    exact h.join hnat hmissing hpred hreport
  · rw [extendMissing_begin (by rw [hreport, List.getLast?_concat]; rintro r ⟨⟩; exact hlast)]
    refine h.begin hnat hmissing fun r => h.ends_below hreport ?_
    intro heq
    exact hlast (UInt32.toNat_inj.mp (heq.trans hpred.symm))

end

end

/-- **Run.** The report over the sequences 1 to `n`, by induction on `n`. -/
theorem reconcileLoop_exact (content : UInt32 → Bool) {n : Nat} (hn : n < 2 ^ 32) :
    Exact (reconcileLoop content n) n fun s => content s = false := by
  induction n with
  | zero =>
    refine ⟨fun s => ?_, fun r hr => absurd hr List.not_mem_nil, List.Pairwise.nil, ?_⟩
    · constructor
      · rintro ⟨r, hr, -⟩
        exact absurd hr List.not_mem_nil
      · rintro ⟨hlow, hhigh, -⟩
        omega
    · exact ⟨fun _ s hlow hhigh => by omega, fun _ => rfl⟩
  | succ n ih =>
    have hexact := ih (by omega)
    rw [reconcileLoop]
    by_cases hcontent : content (UInt32.ofNat (n + 1)) = true
    · rw [if_pos hcontent]
      -- the sequence that was looked at is not missing
      have hle : ∀ s : UInt32, content s = false → s.toNat ≤ n + 1 → s.toNat ≤ n := by
        intro s hs hhigh
        by_contra hlt
        have heq : s = UInt32.ofNat (n + 1) := by
          rw [show n + 1 = s.toNat by omega, UInt32.ofNat_toNat]
        rw [heq, hcontent] at hs
        cases hs
      refine ⟨fun s => ?_, hexact.ranges, hexact.apart, ?_⟩
      · rw [hexact.names]
        exact ⟨fun h => ⟨h.1, by omega, h.2.2⟩, fun h => ⟨h.1, hle s h.2.2 h.2.1, h.2.2⟩⟩
      · rw [hexact.complete]
        exact ⟨fun h s hlow hhigh hs => h s hlow (hle s hs hhigh) hs,
          fun h s hlow hhigh => h s hlow (by omega)⟩
    · rw [if_neg hcontent]
      exact hexact.extend (UInt32.toNat_ofNat_of_lt' hn) (by simpa using hcontent)

/-! ## What arrived -/

/-- The call carries content for the sequence: a live message, a cache entry, or a row of the
    backfill in its window. -/
def Call.Carries : Call → UInt32 → Prop
  | .live _ key _, seq => key = seq
  | .cacheReplay entries, seq => ∃ row ∈ entries, row.1 = seq
  | .backfill fetch first last, seq =>
    first ≤ seq ∧ seq ≤ last ∧ ∃ row ∈ fetch.elim [] fun f => f first last, row.1 = seq

theorem carries_iff (sort : SortCall) (call : Call) (seq : UInt32) :
    call.Carries seq ↔ ∃ touch ∈ touchesOf sort call, touch.seq = seq ∧ touch.isContent = true := by
  cases call with
  | live pathId key payload => simp [touchesOf, Call.Carries, Touch.seq, Touch.isContent]
  | cacheReplay entries => simp [touchesOf, Call.Carries, Touch.seq, Touch.isContent]
  | backfill fetch first last =>
    simp only [touchesOf, Call.Carries, inWindow]
    constructor
    · rintro ⟨hlow, hhigh, row, hrow, rfl⟩
      refine ⟨.content row.1 .backfilled 0 row.2, List.mem_append_left _ ?_, rfl, rfl⟩
      refine List.mem_map.mpr ⟨row, List.mem_filter.mpr ⟨(sort.perm _).mem_iff.mpr hrow, ?_⟩, rfl⟩
      simp [UInt32.not_lt, hlow, hhigh]
    · rintro ⟨touch, htouch, rfl, hcontent⟩
      rcases List.mem_append.mp htouch with htouch | htouch
      · obtain ⟨row, hrow, rfl⟩ := List.mem_map.mp htouch
        obtain ⟨hrow, hwindow⟩ := List.mem_filter.mp hrow
        simp only [not_or, UInt32.not_lt, decide_eq_true_eq] at hwindow
        exact ⟨hwindow.1, hwindow.2, row, (sort.perm _).mem_iff.mp hrow, rfl⟩
      · obtain ⟨key, -, rfl⟩ := List.mem_map.mp htouch
        cases hcontent

theorem provenance_of_isContent {sort : SortCall} {call : Call} (h : touch ∈ touchesOf sort call) :
    touch.isContent = true ↔ touch.provenance ≠ .gapTyped := by
  cases call with
  | live pathId key payload =>
    rw [touchesOf, List.mem_singleton] at h
    subst h
    simp [Touch.isContent, Touch.provenance]
  | cacheReplay entries =>
    obtain ⟨row, -, rfl⟩ := List.mem_map.mp h
    simp [Touch.isContent, Touch.provenance]
  | backfill fetch first last =>
    rcases List.mem_append.mp h with h | h
    · obtain ⟨row, -, rfl⟩ := List.mem_map.mp h
      simp [Touch.isContent, Touch.provenance]
    · obtain ⟨key, -, rfl⟩ := List.mem_map.mp h
      simp [Touch.isContent, Touch.provenance]

def touchesAll (sort : SortCall) (calls : List Call) : List Touch := calls.flatMap (touchesOf sort)

def Uncarried (calls : List Call) (seq : UInt32) : Prop := ∀ call ∈ calls, ¬ call.Carries seq

theorem uncarried_iff (sort : SortCall) (calls : List Call) (seq : UInt32) :
    Uncarried calls seq ↔
      ∀ touch ∈ touchesAll sort calls, touch.seq = seq → touch.isContent = false := by
  unfold Uncarried touchesAll
  simp only [carries_iff sort, List.mem_flatMap]
  constructor
  · rintro h touch ⟨call, hcall, htouch⟩ hseq
    exact Bool.eq_false_iff.mpr fun hcontent => h call hcall ⟨touch, htouch, hseq, hcontent⟩
  · rintro h call hcall ⟨touch, htouch, hseq, hcontent⟩
    rw [h touch ⟨call, hcall, htouch⟩ hseq] at hcontent
    cases hcontent

/-- No content comes for a sequence whose gap was typed before any content came for it. -/
def FirstContent (touches : List Touch) : Prop :=
  ∀ touch ∈ touches, touch.isContent = true →
    ∀ first ∈ touches.find? (·.seq = touch.seq), first.isContent = true

instance (touches : List Touch) : Decidable (FirstContent touches) :=
  inferInstanceAs (Decidable (∀ touch ∈ touches, touch.isContent = true → _))

def firstContent? (touches : List Touch) (seq : UInt32) : Option Touch :=
  touches.find? fun touch => touch.isContent ∧ touch.seq = seq

theorem FirstContent.find_eq (h : FirstContent touches)
    (hfirst : firstContent? touches seq = some touch) :
    touches.find? (·.seq = seq) = some touch := by
  have hmem := List.mem_of_find?_eq_some hfirst
  obtain ⟨hcontent, hseq⟩ : touch.isContent = true ∧ touch.seq = seq := by
    simpa using List.find?_some hfirst
  obtain ⟨first, hfind⟩ : ∃ first, touches.find? (·.seq = seq) = some first :=
    Option.isSome_iff_exists.mp (List.find?_isSome.mpr ⟨touch, hmem, by simpa using hseq⟩)
  have hfirstContent := h touch hmem hcontent first (by rw [hseq]; exact hfind)
  -- both searches stop at the same touch, since nothing before it has the sequence
  obtain ⟨-, before, after, hsplit, hbefore⟩ := List.find?_eq_some_iff_append.mp hfind
  have hfirstSeq : first.seq = seq := by simpa using List.find?_some hfind
  have hsame : firstContent? touches seq = some first := by
    refine List.find?_eq_some_iff_append.mpr
      ⟨by simp [hfirstContent, hfirstSeq], before, after, hsplit, fun t ht => ?_⟩
    have hne := hbefore t ht
    simp only [Bool.not_eq_true', decide_eq_false_iff_not] at hne ⊢
    exact fun h => hne h.2
  rw [hfind, ← hsame, hfirst]

/-! ## The report -/

/-- The calls return, every report names exactly what no call carried, and a sequence is
    journaled with the provenance of the first content that came for it. -/
def ReportsExactly (sort : SortCall) (calls : List Call) : Prop :=
  ∃ c, runCalls sort {} calls = some c ∧
    (∀ high, Exact (c.reconcile high) high.toNat (Uncarried calls)) ∧
    ∀ seq touch, firstContent? (touchesAll sort calls) seq = some touch →
      c.provenanceOf seq = some touch.provenance

section

variable {sort : SortCall} {calls : List Call} {c : LayeredCapture}

section

variable (h : runCalls sort {} calls = some c)
include h

theorem provenanceOf_runCalls (seq : UInt32) :
    c.provenanceOf seq
      = ((touchesAll sort calls).find? (·.seq = seq)).map (·.provenance) := by
  rw [runCalls_eq_applyAll] at h
  rw [provenanceOf_applyAll h, provenanceOf_new, Option.none_or]
  rfl

theorem hasContent_iff_carried (hfirst : FirstContent (touchesAll sort calls)) (seq : UInt32) :
    c.hasContent seq = false ↔ Uncarried calls seq := by
  rw [uncarried_iff sort, ← Bool.not_eq_true, hasContent_iff, provenanceOf_runCalls h]
  constructor
  · intro hnone touch htouch hseq
    by_contra hcontent
    rw [Bool.not_eq_false] at hcontent
    obtain ⟨first, hfind⟩ : ∃ first, (touchesAll sort calls).find? (·.seq = seq) = some first :=
      Option.isSome_iff_exists.mp (List.find?_isSome.mpr ⟨touch, htouch, by simpa using hseq⟩)
    have hisContent := hfirst touch htouch hcontent first (by rw [hseq]; exact hfind)
    obtain ⟨call, -, hmem⟩ := List.mem_flatMap.mp (List.mem_of_find?_eq_some hfind)
    rw [hfind] at hnone
    exact hnone ⟨first.provenance, rfl, (provenance_of_isContent hmem).mp hisContent⟩
  · rintro hall ⟨p, hp, hne⟩
    obtain ⟨first, hfind, rfl⟩ := Option.map_eq_some_iff.mp hp
    have hmem := List.mem_of_find?_eq_some hfind
    obtain ⟨call, -, htouch⟩ := List.mem_flatMap.mp hmem
    have hnot := hall first hmem (by simpa using List.find?_some hfind)
    rw [(provenance_of_isContent htouch).mpr hne] at hnot
    cases hnot

/-- The report depends on the content alone. -/
theorem reconcile_exact (hfirst : FirstContent (touchesAll sort calls)) (high : UInt32) :
    Exact (c.reconcile high) high.toNat (Uncarried calls) := by
  have hsame : (fun s => c.hasContent s = false) = Uncarried calls :=
    funext fun s => propext (hasContent_iff_carried h hfirst s)
  rw [← hsame]
  exact reconcileLoop_exact c.hasContent (UInt32.toNat_lt high)

theorem firstContent_of_reports
    (hprovenance : ∀ seq touch, firstContent? (touchesAll sort calls) seq = some touch →
      c.provenanceOf seq = some touch.provenance) :
    FirstContent (touchesAll sort calls) := by
  intro touch hmem hcontent first hfind
  obtain ⟨content, hsearch⟩ :
      ∃ content, firstContent? (touchesAll sort calls) touch.seq = some content :=
    Option.isSome_iff_exists.mp (List.find?_isSome.mpr ⟨touch, hmem, by simpa using hcontent⟩)
  have hisContent : content.isContent = true := by
    have hsome := List.find?_some hsearch
    simp only [decide_eq_true_eq] at hsome
    exact hsome.1
  have hkept := hprovenance touch.seq content hsearch
  rw [provenanceOf_runCalls h, hfind, Option.map_some] at hkept
  obtain ⟨call, -, htouch⟩ := List.mem_flatMap.mp (List.mem_of_find?_eq_some hfind)
  obtain ⟨call', -, htouch'⟩ := List.mem_flatMap.mp (List.mem_of_find?_eq_some hsearch)
  refine (provenance_of_isContent htouch).mpr ?_
  rw [Option.some.inj hkept]
  exact (provenance_of_isContent htouch').mp hisContent

end

end

theorem uncarried_perm {calls calls' : List Call} (h : calls'.Perm calls) :
    Uncarried calls' = Uncarried calls :=
  funext fun _ => propext
    ⟨fun hall call hcall => hall call (h.mem_iff.mpr hcall),
      fun hall call hcall => hall call (h.mem_iff.mp hcall)⟩

def reportAfter (sort : SortCall) (calls : List Call) (high : UInt32) : Option ReconcileReport :=
  (runCalls sort {} calls).map fun c => c.reconcile high

/-- **Main theorem.** The calls report exactly what they carried iff every call returns and no
    content comes for a sequence whose gap was typed before, whatever their order. -/
theorem reports_exactly_iff (sort : SortCall) (calls : List Call) :
    (ReportsExactly sort calls ↔
      Ends (touchesAll sort calls) ∧ FirstContent (touchesAll sort calls)) ∧
    ∀ calls', calls'.Perm calls → ReportsExactly sort calls → ReportsExactly sort calls' →
      ∀ high, reportAfter sort calls' high = reportAfter sort calls high := by
  refine ⟨⟨?_, ?_⟩, ?_⟩
  · rintro ⟨c, hrun, -, hprovenance⟩
    refine ⟨?_, firstContent_of_reports hrun hprovenance⟩
    rw [← applyAll_isSome_iff]
    exact ⟨c, (runCalls_eq_applyAll sort calls {}).symm.trans hrun⟩
  · rintro ⟨hends, hfirst⟩
    obtain ⟨c, hc⟩ := (applyAll_isSome_iff _).mpr hends
    have hrun : runCalls sort {} calls = some c := (runCalls_eq_applyAll sort calls {}).trans hc
    refine ⟨c, hrun, reconcile_exact hrun hfirst, fun seq touch htouch => ?_⟩
    rw [provenanceOf_runCalls hrun, hfirst.find_eq htouch]
    rfl
  · rintro calls' hperm ⟨c, hrun, -, hprovenance⟩ ⟨c', hrun', -, hprovenance'⟩ high
    have hfirst := firstContent_of_reports hrun hprovenance
    have hfirst' := firstContent_of_reports hrun' hprovenance'
    -- both journals hold content for the same sequences
    have hcontent : c'.hasContent = c.hasContent := by
      funext seq
      rw [Bool.eq_iff_iff, ← not_iff_not, Bool.not_eq_true, Bool.not_eq_true,
        hasContent_iff_carried hrun' hfirst', hasContent_iff_carried hrun hfirst,
        uncarried_perm hperm]
    unfold reportAfter reconcile
    rw [hrun, hrun', Option.map_some, Option.map_some, hcontent]

/-- Rows in the order of their sequences, equal ones in the order they came. -/
def stableSort : SortCall where
  sort rows := rows.mergeSort fun a b => a.1 ≤ b.1
  perm rows := List.mergeSort_perm rows _
  sorted rows := by
    have h := @List.pairwise_mergeSort Row (fun a b => decide (a.1 ≤ b.1))
      (fun a b c hab hbc => by
        simp only [decide_eq_true_eq] at hab hbc ⊢
        exact UInt32.le_trans hab hbc)
      (fun a b => by simpa using UInt32.le_total a.1 b.1) rows
    exact h.imp fun hab => by simpa using hab

/-- A live message, and a backfill without rows for the sequence behind it. -/
def sampleCalls : List Call := [.live 0 1 [7], .backfill none 2 2]

theorem windowOf_self (h : seq ≠ 0xFFFFFFFF) : windowOf seq seq = [seq] := by
  simp [windowOf, List.range_succ, h]

theorem touchesOf_backfill_none (first last : UInt32) :
    touchesOf stableSort (.backfill none first last) = (windowOf first last).map .typed := by
  simp [touchesOf, inWindow, stableSort]

/-- The order does not matter where the live message is for another sequence. -/
theorem sampleCalls_report_exactly :
    ReportsExactly stableSort sampleCalls ∧
      ∀ high, reportAfter stableSort sampleCalls.reverse high
        = reportAfter stableSort sampleCalls high := by
  have htouches : touchesAll stableSort sampleCalls
      = [.content 1 .capturedLive 0 [7], .typed 2] := by
    rw [touchesAll, sampleCalls, List.flatMap_cons, List.flatMap_cons, touchesOf_backfill_none,
      windowOf_self (by decide)]
    rfl
  have htouches' : touchesAll stableSort sampleCalls.reverse
      = [.typed 2, .content 1 .capturedLive 0 [7]] := by
    rw [touchesAll, sampleCalls, List.reverse_cons, List.reverse_singleton, List.singleton_append,
      List.flatMap_cons, touchesOf_backfill_none, windowOf_self (by decide)]
    rfl
  have hsample : ReportsExactly stableSort sampleCalls := by
    rw [(reports_exactly_iff stableSort sampleCalls).1, htouches]
    exact ⟨ends_of_untouched 9 (by decide), by decide⟩
  have hreverse : ReportsExactly stableSort sampleCalls.reverse := by
    rw [(reports_exactly_iff stableSort sampleCalls.reverse).1, htouches']
    exact ⟨ends_of_untouched 9 (by decide), by decide⟩
  exact ⟨hsample, (reports_exactly_iff stableSort sampleCalls).2 _ (List.reverse_perm _)
    hsample hreverse⟩

/-- The live message comes for the sequence whose gap was typed. -/
def backfillFirst : List Call := [.backfill none 1 1, .live 0 1 [7]]

theorem backfillFirst_touches :
    touchesAll stableSort backfillFirst = [.typed 1, .content 1 .capturedLive 0 [7]] := by
  rw [touchesAll, backfillFirst, List.flatMap_cons, touchesOf_backfill_none,
    windowOf_self (by decide)]
  rfl

/-- Content that comes after its gap was typed is dropped, and reported missing. -/
theorem typed_gap_hides_content :
    ¬ ReportsExactly stableSort backfillFirst ∧ ¬ Uncarried backfillFirst 1 := by
  constructor
  · rintro ⟨c, hrun, -, hprovenance⟩
    have hfirst := firstContent_of_reports hrun hprovenance
    rw [backfillFirst_touches] at hfirst
    have htyped := hfirst (.content 1 .capturedLive 0 [7]) (by decide) rfl (.typed 1) (by decide)
    cases htyped
  · intro h
    exact h (.live 0 1 [7]) (by simp [backfillFirst]) rfl

end LayeredCapture

end LobReplay.Resilience
