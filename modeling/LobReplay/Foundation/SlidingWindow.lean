/-
  Times in ascending order, seen through a window of fixed width.

  `recent` is the queue of a sliding-window limiter: the old times are dropped from its front. It
  may be pruned at any moment, and for times in order it counts those of the last window. No window
  holds more than a limit iff every time finds fewer than that before it (`windows_le_iff`).
-/

import LobReplay.Foundation.Machine

namespace LobReplay.Foundation

variable {width now : Nat} {times : List Nat} {last : Nat}

/-! ## The queue -/

/-- The times without those at the front that are `width` or more before `now`. -/
def recent (width now : Nat) (times : List Nat) : List Nat :=
  times.dropWhile fun time => width ≤ now - time

/-- Pruning at an earlier moment changes nothing. -/
theorem recent_recent {earlier : Nat} (hle : earlier ≤ now) (times : List Nat) :
    recent width now (recent width earlier times) = recent width now times := by
  induction times with
  | nil => rfl
  | cons time times ih =>
    unfold recent at ih ⊢
    rw [List.dropWhile_cons]
    split
    · next hold =>
      rw [ih, List.dropWhile_cons_of_pos]
      simp only [decide_eq_true_eq] at hold ⊢
      omega
    · rfl

theorem recent_append_congr {times' : List Nat}
    (h : recent width now times = recent width now times')
    (later : List Nat) :
    recent width now (times ++ later) = recent width now (times' ++ later) := by
  unfold recent at h ⊢
  rw [List.dropWhile_append, List.dropWhile_append, h]

theorem length_recent (hwidth : 0 < width) (hsorted : times.Pairwise (· ≤ ·)) :
    (recent width now times).length = times.countP fun time => now < time + width := by
  induction times with
  | nil => rfl
  | cons time times ih =>
    obtain ⟨hfirst, hrest⟩ := List.pairwise_cons.mp hsorted
    unfold recent at ih ⊢
    rw [List.dropWhile_cons]
    split
    · next hold =>
      simp only [decide_eq_true_eq] at hold
      rw [ih hrest, List.countP_cons_of_neg]
      simp only [decide_eq_true_eq]
      omega
    · -- what comes after a time within the window is within it, too
      next hnew =>
      simp only [decide_eq_true_eq] at hnew
      symm
      rw [List.countP_eq_length]
      intro later hmem
      rw [decide_eq_true_eq]
      rcases List.mem_cons.mp hmem with rfl | hmem
      · omega
      · have := hfirst later hmem
        omega

/-! ## Windows -/

/-- The times of the window that begins at `start`. -/
def windowCount (width start : Nat) (times : List Nat) : Nat :=
  times.countP fun time => start ≤ time ∧ time < start + width

theorem windowCount_concat_last (hlast : ∀ time ∈ times, time ≤ last) (hwidth : 0 < width) :
    windowCount width (last + 1 - width) (times ++ [last])
      = (times.countP fun time => last < time + width) + 1 := by
  unfold windowCount
  rw [List.countP_append, List.countP_singleton, if_pos (by rw [decide_eq_true_eq]; omega)]
  congr 1
  apply List.countP_congr
  intro time hmem
  have := hlast time hmem
  simp only [decide_eq_true_eq]
  omega

theorem windowCount_concat_le (start last : Nat) (hin : start ≤ last ∧ last < start + width) :
    windowCount width start (times ++ [last])
      ≤ (times.countP fun time => last < time + width) + 1 := by
  unfold windowCount
  rw [List.countP_append, List.countP_singleton, if_pos (by rwa [decide_eq_true_eq])]
  apply Nat.succ_le_succ
  apply List.countP_mono_left
  intro time _ htime
  simp only [decide_eq_true_eq] at htime ⊢
  omega

theorem windowCount_concat_of_not {start : Nat}
    (hout : ¬ (start ≤ last ∧ last < start + width)) :
    windowCount width start (times ++ [last]) = windowCount width start times := by
  unfold windowCount
  rw [List.countP_append, List.countP_singleton, if_neg (by rwa [decide_eq_true_eq])]
  rfl

/-- **Windows.** No window holds more than `limit` times iff every time finds fewer than `limit`
    recent ones before it. -/
theorem windows_le_iff (limit : Nat) (hwidth : 0 < width) (hsorted : times.Pairwise (· ≤ ·)) :
    (∀ start, windowCount width start times ≤ limit) ↔
      AtEach (fun earlier time => (earlier.countP fun t => time < t + width) < limit) times := by
  induction times using List.reverseRecOn with
  | nil => exact iff_of_true (fun _ => Nat.zero_le _) atEach_nil
  | append_singleton times last ih =>
    obtain ⟨hearlier, -, hlast⟩ := List.pairwise_append.mp hsorted
    rw [atEach_concat, ← ih hearlier]
    constructor
    · intro h
      refine ⟨fun start => ?_, ?_⟩
      · refine Nat.le_trans ?_ (h start)
        unfold windowCount
        rw [List.countP_append]
        exact Nat.le_add_right _ _
      · have hfull := h (last + 1 - width)
        rw [windowCount_concat_last (fun time hmem => hlast time hmem last (by simp)) hwidth]
          at hfull
        exact hfull
    · rintro ⟨h, hroom⟩ start
      by_cases hin : start ≤ last ∧ last < start + width
      · exact Nat.le_trans (windowCount_concat_le start last hin) hroom
      · rw [windowCount_concat_of_not hin]
        exact h start

end LobReplay.Foundation
