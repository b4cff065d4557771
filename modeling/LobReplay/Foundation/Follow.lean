/-
  A growing stream of lines, followed piece by piece. A follower takes the complete lines one after
  another, keeps the torn bytes for the next piece, and stops at the first line it refuses, or when
  an unfinished line gets too long; a line may be refused half way, with a changed state.
-/

import LobReplay.Foundation.Lines

namespace LobReplay.Foundation

/-- How lines are taken, one at a time, and how long an unfinished line may get; a line that
    is longer is refused at once. -/
structure LineTaker (σ ρ ε : Type) where
  take : σ → Bytes → Except ε ρ × σ
  limit : Nat
  take_long : ∀ s line, limit < line.length → ∃ e, take s line = (.error e, s)

/-- The lines taken up to the first that was refused. -/
structure Taken (σ ρ ε : Type) where
  records : List ρ
  failure : Option ε
  state : σ

namespace LineTaker

variable {σ ρ ε : Type}

def takeLines (t : LineTaker σ ρ ε) : σ → List Bytes → Taken σ ρ ε
  | s, [] => ⟨[], none, s⟩
  | s, line :: lines =>
    match t.take s line with
    | (.error e, s) => ⟨[], some e, s⟩
    | (.ok record, s) =>
      let rest := t.takeLines s lines
      { rest with records := record :: rest.records }

/-- The stream has a line that is refused, or an unfinished one that is too long. -/
def Refuses (t : LineTaker σ ρ ε) (s : σ) (stream : Bytes) : Prop :=
  (t.takeLines s (splitLines stream).1).failure ≠ none ∨ t.limit < (splitLines stream).2.length

/-- One piece: the state and the torn bytes before it and after it. -/
def feed (t : LineTaker σ ρ ε) (before : σ × Bytes) (piece : Bytes) :
    Except (Option ε) (List ρ) × σ × Bytes :=
  let split := splitLines (before.2 ++ piece)
  let taken := t.takeLines before.1 split.1
  match taken.failure with
  | some e => (.error (some e), taken.state, before.2 ++ piece)
  | none =>
    if t.limit < split.2.length then (.error none, taken.state, split.2)
    else (.ok taken.records, taken.state, split.2)

/-- One piece after another, up to the first failure. -/
def feedAll (t : LineTaker σ ρ ε) : σ × Bytes → List Bytes →
    Except (Option ε) (List ρ) × σ × Bytes
  | before, [] => (.ok [], before)
  | before, piece :: pieces =>
    match t.feed before piece with
    | (.error e, after) => (.error e, after)
    | (.ok records, after) =>
      let rest := t.feedAll after pieces
      (rest.1.map (records ++ ·), rest.2)

section

variable {t : LineTaker σ ρ ε} {s : σ} {line : Bytes} {s' : σ} {xs : List Bytes}

@[simp] theorem takeLines_nil (t : LineTaker σ ρ ε) (s : σ) : t.takeLines s [] = ⟨[], none, s⟩ := rfl

theorem takeLines_cons_error {e : ε} (h : t.take s line = (.error e, s')) (lines : List Bytes) :
    t.takeLines s (line :: lines) = ⟨[], some e, s'⟩ := by
  rw [takeLines, h]

theorem takeLines_cons_ok {record : ρ} (h : t.take s line = (.ok record, s')) (lines : List Bytes) :
    t.takeLines s (line :: lines)
      = { t.takeLines s' lines with records := record :: (t.takeLines s' lines).records } := by
  rw [takeLines, h]

/-- What was refused stays refused. -/
theorem takeLines_append_failure (h : (t.takeLines s xs).failure ≠ none) (ys : List Bytes) :
    t.takeLines s (xs ++ ys) = t.takeLines s xs := by
  induction xs generalizing s with
  | nil => exact absurd rfl h
  | cons x xs ih =>
    rw [List.cons_append]
    rcases hx : t.take s x with ⟨e | record, s'⟩
    · rw [takeLines_cons_error hx, takeLines_cons_error hx]
    · rw [takeLines_cons_ok hx] at h
      rw [takeLines_cons_ok hx, takeLines_cons_ok hx, ih h]

/-- After lines that are all taken, the next ones go on from there. -/
theorem takeLines_append (h : (t.takeLines s xs).failure = none) (ys : List Bytes) :
    t.takeLines s (xs ++ ys)
      = { t.takeLines (t.takeLines s xs).state ys with
          records := (t.takeLines s xs).records ++
            (t.takeLines (t.takeLines s xs).state ys).records } := by
  induction xs generalizing s with
  | nil => rfl
  | cons x xs ih =>
    rw [List.cons_append]
    rcases hx : t.take s x with ⟨e | record, s'⟩
    · rw [takeLines_cons_error hx] at h
      cases h
    · rw [takeLines_cons_ok hx] at h ⊢
      rw [takeLines_cons_ok hx, ih h]
      rfl

variable {stream : Bytes} {now : σ × Bytes}

theorem Refuses.append (h : t.Refuses s stream) (more : Bytes) :
    t.Refuses s (stream ++ more) ∧
      (t.takeLines s (splitLines (stream ++ more)).1).state
        = (t.takeLines s (splitLines stream).1).state := by
  unfold Refuses
  rw [splitLines_append]
  by_cases hfailure : (t.takeLines s (splitLines stream).1).failure = none
  · -- the unfinished line is too long, and so is what becomes of it
    have hlong : t.limit < (splitLines stream).2.length := by
      rcases h with h | h
      · exact absurd hfailure h
      · exact h
    rw [takeLines_append hfailure]
    have hsplit := unlines_splitLines ((splitLines stream).2 ++ more)
    have htorn := newline_not_mem_torn stream
    rcases hnext : splitLines ((splitLines stream).2 ++ more) with ⟨_ | ⟨line, lines⟩, tail⟩
    · rw [hnext] at hsplit
      refine ⟨Or.inr ?_, rfl⟩
      have hlength := congrArg List.length hsplit
      simp only [unlines, List.flatMap_nil, List.nil_append, List.length_append] at hlength
      dsimp only
      omega
    · have hline : t.limit < line.length := by
        by_contra hshort
        -- the first newline would lie within the torn bytes
        rw [hnext] at hsplit
        have hprefix : line ++ [newline] <+: (splitLines stream).2 ++ more :=
          ⟨unlines lines ++ tail, by rw [← hsplit]; simp [unlines]⟩
        have hle : (line ++ [newline]).length ≤ (splitLines stream).2.length := by
          rw [List.length_append, List.length_singleton]
          omega
        have hin := List.prefix_of_prefix_length_le hprefix (List.prefix_append _ more) hle
        exact htorn (hin.subset (List.mem_append_right _ (List.mem_singleton_self _)))
      obtain ⟨e, he⟩ := t.take_long (t.takeLines s (splitLines stream).1).state line hline
      rw [takeLines_cons_error he]
      exact ⟨Or.inl (by simp), rfl⟩
  · rw [takeLines_append_failure hfailure]
    exact ⟨Or.inl hfailure, rfl⟩

structure Follows (t : LineTaker σ ρ ε) (s : σ) (stream : Bytes) (now : σ × Bytes) : Prop where
  accepts : ¬ t.Refuses s stream
  state_eq : now.1 = (t.takeLines s (splitLines stream).1).state
  torn_eq : now.2 = (splitLines stream).2

def records (t : LineTaker σ ρ ε) (s : σ) (stream : Bytes) : List ρ :=
  (t.takeLines s (splitLines stream).1).records

theorem records_append_prefix (t : LineTaker σ ρ ε) (s : σ) (stream more : Bytes) :
    t.records s stream <+: t.records s (stream ++ more) := by
  unfold records
  rw [splitLines_append]
  by_cases hfailure : (t.takeLines s (splitLines stream).1).failure = none
  · rw [takeLines_append hfailure]
    exact List.prefix_append _ _
  · have hsame := takeLines_append_failure hfailure
      (splitLines ((splitLines stream).2 ++ more)).1
    exact hsame ▸ List.prefix_refl _

theorem follows_nil (t : LineTaker σ ρ ε) (s : σ) : t.Follows s [] (s, []) := by
  refine ⟨?_, rfl, rfl⟩
  rintro (h | h)
  · exact h rfl
  · exact absurd h (Nat.not_lt_zero _)

theorem Follows.failure_eq (h : t.Follows s stream now) :
    (t.takeLines s (splitLines stream).1).failure = none := by
  by_contra hfailure
  exact h.accepts (Or.inl hfailure)

/-- **Step.** One piece. -/
theorem Follows.feed (h : t.Follows s stream now) (piece : Bytes) :
    (∃ e after, t.feed now piece = (.error e, after) ∧ t.Refuses s (stream ++ piece) ∧
      after.1 = (t.takeLines s (splitLines (stream ++ piece)).1).state) ∨
    ∃ more after, t.feed now piece = (.ok more, after) ∧ t.Follows s (stream ++ piece) after ∧
      t.records s (stream ++ piece) = t.records s stream ++ more := by
  have hlines := takeLines_append h.failure_eq (splitLines ((splitLines stream).2 ++ piece)).1
  have hsplit := splitLines_append stream piece
  unfold LineTaker.feed
  dsimp only
  rw [h.state_eq, h.torn_eq]
  generalize hnext : t.takeLines (t.takeLines s (splitLines stream).1).state
    (splitLines ((splitLines stream).2 ++ piece)).1 = next at hlines
  have hwhole : t.takeLines s (splitLines (stream ++ piece)).1
      = { next with records := t.records s stream ++ next.records } := by
    rw [hsplit]
    exact hlines
  have htail : (splitLines (stream ++ piece)).2
      = (splitLines ((splitLines stream).2 ++ piece)).2 := by
    rw [hsplit]
  cases hfailure : next.failure with
  | some e =>
    left
    refine ⟨_, _, rfl, Or.inl ?_, ?_⟩
    · rw [hwhole]
      simp [hfailure]
    · rw [hwhole]
  | none =>
    dsimp only
    by_cases hlong : t.limit < (splitLines ((splitLines stream).2 ++ piece)).2.length
    · left
      rw [if_pos hlong]
      exact ⟨_, _, rfl, Or.inr (by rw [htail]; exact hlong), by rw [hwhole]⟩
    · right
      rw [if_neg hlong]
      refine ⟨_, _, rfl, ⟨?_, by rw [hwhole], by rw [htail]⟩, ?_⟩
      · rintro (hrefused | hrefused)
        · rw [hwhole] at hrefused
          exact hrefused hfailure
        · rw [htail] at hrefused
          exact hlong hrefused
      · unfold LineTaker.records
        rw [hwhole]
        rfl

/-- **Run.** Pieces, one after another. -/
theorem Follows.feedAll (h : t.Follows s stream now) (pieces : List Bytes) :
    (∃ e after, t.feedAll now pieces = (.error e, after) ∧
      t.Refuses s (stream ++ pieces.flatten) ∧
      after.1 = (t.takeLines s (splitLines (stream ++ pieces.flatten)).1).state) ∨
    ∃ more after, t.feedAll now pieces = (.ok more, after) ∧
      t.Follows s (stream ++ pieces.flatten) after ∧
      t.records s (stream ++ pieces.flatten) = t.records s stream ++ more := by
  induction pieces generalizing stream now with
  | nil =>
    right
    rw [List.flatten_nil, List.append_nil]
    exact ⟨[], now, rfl, h, (List.append_nil _).symm⟩
  | cons piece pieces ih =>
    rw [List.flatten_cons, ← List.append_assoc]
    unfold LineTaker.feedAll
    rcases h.feed piece with ⟨e, after, hfeed, hrefuses, hstate⟩ | ⟨more, after, hfeed, hnext, hrecords⟩
    · left
      rw [hfeed]
      obtain ⟨hrefuses', hstate'⟩ := hrefuses.append pieces.flatten
      exact ⟨e, after, rfl, hrefuses', hstate.trans hstate'.symm⟩
    · rw [hfeed]
      dsimp only
      rcases ih hnext with ⟨e, last, hall, hrefuses, hstate⟩ | ⟨rest, last, hall, hlast, hrest⟩
      · left
        rw [hall]
        exact ⟨e, last, rfl, hrefuses, hstate⟩
      · right
        rw [hall]
        refine ⟨more ++ rest, last, rfl, hlast, ?_⟩
        rw [hrest, hrecords, List.append_assoc]

end

end LineTaker

end LobReplay.Foundation
