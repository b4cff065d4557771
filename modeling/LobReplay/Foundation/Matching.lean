/-
  Histories in which some elements open an account under a key and others close one. Where no
  account is closed before it was opened, and none is left open at the end, the k-th opening and the
  k-th closing under a key are a pair: each opening has exactly one later closing and each closing
  exactly one earlier opening.
-/

import Mathlib.Data.List.Induction
import Mathlib.Tactic.Common

namespace LobReplay.Foundation

/-! ## The rank of an element -/

section Rank

variable {α : Type} {p : α → Bool} {xs : List α} {i j : Nat} {a : α}

theorem countP_take_succ (h : xs[i]? = some a) :
    (xs.take (i + 1)).countP p = (xs.take i).countP p + if p a then 1 else 0 := by
  rw [List.take_add_one, h, List.countP_append]
  simp [List.countP_cons]

theorem countP_take_mono (h : i ≤ j) : (xs.take i).countP p ≤ (xs.take j).countP p :=
  (List.take_sublist_take_left h).countP_le

/-- An element that counts is ranked below every later place. -/
theorem countP_take_lt (h : xs[i]? = some a) (hp : p a = true) (hij : i < j) :
    (xs.take i).countP p < (xs.take j).countP p := by
  have hmono : (xs.take (i + 1)).countP p ≤ (xs.take j).countP p := countP_take_mono hij
  rw [countP_take_succ h, if_pos hp] at hmono
  omega

theorem eq_of_rank_eq {b : α} (hi : xs[i]? = some a) (hj : xs[j]? = some b) (ha : p a = true)
    (hb : p b = true) (hrank : (xs.take i).countP p = (xs.take j).countP p) : i = j := by
  rcases Nat.lt_trichotomy i j with hlt | heq | hgt
  · have := countP_take_lt hi ha hlt
    omega
  · exact heq
  · have := countP_take_lt hj hb hgt
    omega

/-- Below the number of elements that count, every rank is taken. -/
theorem exists_rank {k : Nat} (h : k < xs.countP p) :
    ∃ i a, xs[i]? = some a ∧ p a = true ∧ (xs.take i).countP p = k := by
  induction xs using List.reverseRecOn with
  | nil => simp at h
  | append_singleton xs x ih =>
    by_cases hk : k < xs.countP p
    · obtain ⟨i, a, hi, ha, hrank⟩ := ih hk
      have hlt : i < xs.length := (List.getElem?_eq_some_iff.mp hi).1
      refine ⟨i, a, ?_, ha, ?_⟩
      · rw [List.getElem?_append_left hlt, hi]
      · rw [List.take_append_of_le_length (Nat.le_of_lt hlt), hrank]
    · -- the rank is that of the last element
      rw [List.countP_append, List.countP_singleton] at h
      have hx : p x = true := by
        by_contra hx
        rw [if_neg hx] at h
        omega
      rw [if_pos hx] at h
      refine ⟨xs.length, x, by simp, hx, ?_⟩
      rw [List.take_append_of_le_length (Nat.le_refl _), List.take_length]
      omega

end Rank

/-! ## Openings and closings -/

section Accounts

variable {α κ : Type} [DecidableEq κ]

/-- How many elements of a history act on a key. -/
def tally (act : α → Option κ) (key : κ) (xs : List α) : Nat :=
  xs.countP fun a => act a = some key

theorem tally_concat (act : α → Option κ) (key : κ) (xs : List α) (x : α) :
    tally act key (xs ++ [x]) = tally act key xs + if act x = some key then 1 else 0 := by
  simp only [tally, List.countP_append, List.countP_singleton, decide_eq_true_eq]

/-- The opening at place `i` and the closing at place `j` are the same one of their key. -/
def Paired (opens closes : α → Option κ) (xs : List α) (i j : Nat) : Prop :=
  ∃ key a b, xs[i]? = some a ∧ opens a = some key ∧ xs[j]? = some b ∧ closes b = some key ∧
    tally opens key (xs.take i) = tally closes key (xs.take j)

structure PairsUp (opens closes : α → Option κ) (xs : List α) : Prop where
  later : ∀ i j, Paired opens closes xs i j → i < j
  closed : ∀ i a key, xs[i]? = some a → opens a = some key → ∃! j, Paired opens closes xs i j
  opened : ∀ j b key, xs[j]? = some b → closes b = some key → ∃! i, Paired opens closes xs i j

variable {opens closes : α → Option κ} {xs : List α}

/-- **Balanced histories pair up.** At no point have more accounts been closed than opened
    under a key, and at the end as many. -/
theorem pairsUp_of_balanced (hdisjoint : ∀ a key, opens a = some key → closes a ≠ some key)
    (hbelow : ∀ i key, tally closes key (xs.take i) ≤ tally opens key (xs.take i))
    (htotal : ∀ key, tally closes key xs = tally opens key xs) :
    PairsUp opens closes xs where
  later := by
    rintro i j ⟨key, a, b, hi, ha, hj, hb, hrank⟩
    by_contra hle
    have hne : i ≠ j := by
      rintro rfl
      obtain rfl : a = b := Option.some.inj (hi.symm.trans hj)
      exact hdisjoint a key ha hb
    -- counting the closing at `j` exceeds the openings there are so far
    have hcount := hbelow (j + 1) key
    have hcloses : tally closes key (xs.take (j + 1)) = tally closes key (xs.take j) + 1 := by
      simp only [tally, countP_take_succ hj, decide_eq_true hb, if_true]
    have hopens : tally opens key (xs.take (j + 1)) ≤ tally opens key (xs.take i) :=
      countP_take_mono (by omega)
    omega
  closed := by
    intro i a key hi ha
    have hlt : tally opens key (xs.take i) < tally closes key xs := by
      rw [htotal key]
      have := countP_take_lt (p := fun x => opens x = some key) (j := xs.length) hi
        (by simpa using ha) (List.getElem?_eq_some_iff.mp hi).1
      rwa [List.take_length] at this
    obtain ⟨j, b, hj, hb, hrank⟩ := exists_rank hlt
    have hb : closes b = some key := by simpa using hb
    refine ⟨j, ⟨key, a, b, hi, ha, hj, hb, hrank.symm⟩, ?_⟩
    rintro j' ⟨key', a', b', hi', ha', hj', hb', hrank'⟩
    obtain rfl : a = a' := Option.some.inj (hi.symm.trans hi')
    obtain rfl : key = key' := Option.some.inj (ha.symm.trans ha')
    refine eq_of_rank_eq (p := fun x => closes x = some key) hj' hj (by simpa using hb')
      (by simpa using hb) ?_
    exact hrank'.symm.trans hrank.symm
  opened := by
    intro j b key hj hb
    have hlt : tally closes key (xs.take j) < tally opens key xs := by
      rw [← htotal key]
      have := countP_take_lt (p := fun x => closes x = some key) (j := xs.length) hj
        (by simpa using hb) (List.getElem?_eq_some_iff.mp hj).1
      rwa [List.take_length] at this
    obtain ⟨i, a, hi, ha, hrank⟩ := exists_rank hlt
    have ha : opens a = some key := by simpa using ha
    refine ⟨i, ⟨key, a, b, hi, ha, hj, hb, hrank⟩, ?_⟩
    rintro i' ⟨key', a', b', hi', ha', hj', hb', hrank'⟩
    obtain rfl : b = b' := Option.some.inj (hj.symm.trans hj')
    obtain rfl : key = key' := Option.some.inj (hb.symm.trans hb')
    exact eq_of_rank_eq (p := fun x => opens x = some key) hi' hi (by simpa using ha')
      (by simpa using ha) (hrank'.trans hrank.symm)

end Accounts

end LobReplay.Foundation
