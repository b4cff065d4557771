/-
  A byte stream read line by line with `read_until(b'\n')`: the complete lines, each without its
  newline, and the torn bytes behind the last newline.
-/

import LobReplay.Foundation.Bytes

namespace LobReplay.Foundation

/-- `b'\n'`. -/
def newline : UInt8 := 10

/-- The complete lines of a stream, and what follows the last newline. -/
def splitLines : Bytes → List Bytes × Bytes
  | [] => ([], [])
  | b :: rest =>
    let r := splitLines rest
    if b = newline then ([] :: r.1, r.2)
    else
      match r.1 with
      | [] => ([], b :: r.2)
      | line :: lines => ((b :: line) :: lines, r.2)

def unlines (lines : List Bytes) : Bytes := lines.flatMap fun line => line ++ [newline]

@[simp] theorem splitLines_nil : splitLines [] = ([], []) := rfl

theorem splitLines_newline (rest : Bytes) :
    splitLines (newline :: rest) = ([] :: (splitLines rest).1, (splitLines rest).2) := by
  simp [splitLines]

/-- A byte that is no newline joins the first complete line, or else the torn bytes. -/
theorem splitLines_cons {b : UInt8} (h : b ≠ newline) (rest : Bytes) :
    ((splitLines rest).1 = [] ∧ splitLines (b :: rest) = ([], b :: (splitLines rest).2)) ∨
    ∃ line lines, (splitLines rest).1 = line :: lines ∧
      splitLines (b :: rest) = ((b :: line) :: lines, (splitLines rest).2) := by
  rw [splitLines]
  rcases hr : (splitLines rest).1 with _ | ⟨line, lines⟩
  · exact Or.inl ⟨rfl, by simp [h]⟩
  · exact Or.inr ⟨line, lines, rfl, by simp [h]⟩

variable {bytes line : Bytes} {lines : List Bytes}

theorem newline_not_mem_of_mem_splitLines (h : line ∈ (splitLines bytes).1) : newline ∉ line := by
  induction bytes generalizing line with
  | nil => simp at h
  | cons b rest ih =>
    by_cases hb : b = newline
    · subst hb
      rw [splitLines_newline, List.mem_cons] at h
      rcases h with rfl | h
      · simp
      · exact ih h
    · rcases splitLines_cons hb rest with ⟨-, heq⟩ | ⟨first, lines, hr, heq⟩
      · simp [heq] at h
      · rw [heq, List.mem_cons] at h
        rw [hr] at ih
        rcases h with rfl | h
        · rw [List.mem_cons, not_or]
          exact ⟨fun h' => hb h'.symm, ih List.mem_cons_self⟩
        · exact ih (List.mem_cons_of_mem _ h)

theorem splitLines_line_append (h : newline ∉ line) (rest : Bytes) :
    splitLines (line ++ newline :: rest)
      = (line :: (splitLines rest).1, (splitLines rest).2) := by
  induction line with
  | nil => exact splitLines_newline rest
  | cons b line ih =>
    rw [List.mem_cons, not_or] at h
    rcases splitLines_cons (Ne.symm h.1) (line ++ newline :: rest) with
      ⟨hnone, -⟩ | ⟨first, lines, hr, heq⟩
    · rw [ih h.2] at hnone
      cases hnone
    · rw [ih h.2, List.cons.injEq] at hr
      obtain ⟨rfl, rfl⟩ := hr
      rw [List.cons_append, heq, ih h.2]

/-- Newline-free lines written out are read back with nothing torn. -/
theorem splitLines_unlines (h : ∀ line ∈ lines, newline ∉ line) :
    splitLines (unlines lines) = (lines, []) := by
  induction lines with
  | nil => rfl
  | cons line lines ih =>
    have hrest := ih fun l hl => h l (List.mem_cons_of_mem _ hl)
    rw [unlines, List.flatMap_cons, List.append_assoc]
    show splitLines (line ++ newline :: unlines lines) = _
    rw [splitLines_line_append (h line List.mem_cons_self), hrest]

/-- A stream cut anywhere keeps a prefix of its complete lines. -/
theorem splitLines_take_prefix (bytes : Bytes) (t : Nat) :
    (splitLines (bytes.take t)).1 <+: (splitLines bytes).1 := by
  induction bytes generalizing t with
  | nil => simp
  | cons b rest ih =>
    rcases t with _ | t
    · simp
    rw [List.take_succ_cons]
    by_cases hb : b = newline
    · subst hb
      rw [splitLines_newline, splitLines_newline]
      exact (List.prefix_cons_inj _).mpr (ih t)
    · rcases splitLines_cons hb (rest.take t) with ⟨-, heq⟩ | ⟨line, lines, hr, heq⟩
      · rw [heq]
        exact List.nil_prefix
      -- the cut keeps a line, so the stream has that line too
      · have hpre := ih t
        rw [hr] at hpre
        obtain ⟨more, hmore⟩ := hpre
        rcases splitLines_cons hb rest with ⟨hnone, -⟩ | ⟨line', lines', hr', heq'⟩
        · rw [hnone] at hmore
          cases hmore
        · rw [heq, heq']
          rw [hr', List.cons_append, List.cons.injEq] at hmore
          exact ⟨more, by rw [← hmore.1, ← hmore.2]; rfl⟩

theorem unlines_splitLines (bytes : Bytes) :
    unlines (splitLines bytes).1 ++ (splitLines bytes).2 = bytes := by
  induction bytes with
  | nil => rfl
  | cons b rest ih =>
    by_cases hb : b = newline
    · subst hb
      rw [splitLines_newline]
      exact congrArg (newline :: ·) ih
    · rcases splitLines_cons hb rest with ⟨hnone, heq⟩ | ⟨line, lines, hr, heq⟩
      · rw [hnone] at ih
        rw [heq]
        exact congrArg (b :: ·) ih
      · rw [hr] at ih
        rw [heq]
        exact congrArg (b :: ·) ih

theorem newline_not_mem_torn (bytes : Bytes) : newline ∉ (splitLines bytes).2 := by
  induction bytes with
  | nil => simp
  | cons b rest ih =>
    by_cases hb : b = newline
    · subst hb
      rw [splitLines_newline]
      exact ih
    · rcases splitLines_cons hb rest with ⟨-, heq⟩ | ⟨line, lines, -, heq⟩
      · rw [heq, List.mem_cons, not_or]
        exact ⟨fun h => hb h.symm, ih⟩
      · rw [heq]
        exact ih

theorem splitLines_of_not_mem (h : newline ∉ bytes) : splitLines bytes = ([], bytes) := by
  induction bytes with
  | nil => rfl
  | cons b rest ih =>
    rw [List.mem_cons, not_or] at h
    rcases splitLines_cons (Ne.symm h.1) rest with ⟨-, heq⟩ | ⟨line, lines, hr, -⟩
    · rw [heq, ih h.2]
    · rw [ih h.2] at hr
      cases hr

/-- Complete lines in front of a stream. -/
theorem splitLines_unlines_append (h : ∀ line ∈ lines, newline ∉ line) (rest : Bytes) :
    splitLines (unlines lines ++ rest) = (lines ++ (splitLines rest).1, (splitLines rest).2) := by
  induction lines with
  | nil => rfl
  | cons line lines ih =>
    have hlines := ih fun l hl => h l (List.mem_cons_of_mem _ hl)
    have hsplit : unlines (line :: lines) ++ rest = line ++ newline :: (unlines lines ++ rest) := by
      simp [unlines]
    rw [hsplit, splitLines_line_append (h line List.mem_cons_self), hlines]
    rfl

/-- A stream in two pieces: the second goes on from the torn bytes of the first. -/
theorem splitLines_append (a b : Bytes) :
    splitLines (a ++ b)
      = ((splitLines a).1 ++ (splitLines ((splitLines a).2 ++ b)).1,
         (splitLines ((splitLines a).2 ++ b)).2) := by
  have hlines : ∀ line ∈ (splitLines a).1, newline ∉ line :=
    fun _ hline => newline_not_mem_of_mem_splitLines hline
  rw [← splitLines_unlines_append hlines, ← List.append_assoc, unlines_splitLines]

end LobReplay.Foundation
