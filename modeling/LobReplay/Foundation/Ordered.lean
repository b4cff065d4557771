/-
  Ordered maps read through their ascending entry list. Popping the least entry of an ordered map
  until a bound is reached takes exactly the entries below the bound
  (`takeWhile_eq_filter_of_pairwise`), and erasing them one by one leaves exactly the rest
  (`getElem?_foldl_erase_of_mem`, `getElem?_foldl_erase_of_notMem`).
-/

import Mathlib.Data.List.Basic
import Std.Data.TreeMap.Lemmas

namespace LobReplay.Foundation

open Std (TreeMap TransCmp LawfulEqCmp)

/-- On a list ordered by `r`, cutting at the first failure of a predicate that is
    closed downwards along `r` is filtering by it. -/
theorem takeWhile_eq_filter_of_pairwise {α : Type} {r : α → α → Prop} {p : α → Bool}
    (hdown : ∀ a b, r a b → p b = true → p a = true) {l : List α} (h : l.Pairwise r) :
    l.takeWhile p = l.filter p := by
  induction l with
  | nil => rfl
  | cons x xs ih =>
    obtain ⟨hx, hxs⟩ := List.pairwise_cons.mp h
    by_cases hp : p x = true
    · rw [List.takeWhile_cons_of_pos hp, List.filter_cons_of_pos hp, ih hxs]
    · have hnone : xs.filter p = [] := by
        rw [List.filter_eq_nil_iff]
        intro y hy hpy
        exact hp (hdown x y (hx y hy) hpy)
      rw [List.takeWhile_cons_of_neg hp, List.filter_cons_of_neg hp, hnone]

section

variable {α β : Type} {cmp : α → α → Ordering} [TransCmp cmp] [LawfulEqCmp cmp] {a : α}

/-- A key that is not erased keeps its value. -/
theorem getElem?_foldl_erase_of_notMem (ks : List α) (t : TreeMap α β cmp) (ha : a ∉ ks) :
    (ks.foldl (fun t k => t.erase k) t)[a]? = t[a]? := by
  induction ks generalizing t with
  | nil => rfl
  | cons k ks ih =>
    obtain ⟨hne, hks⟩ := not_or.mp (fun h => ha (List.mem_cons.mpr h))
    rw [List.foldl_cons, ih _ hks, TreeMap.getElem?_erase, if_neg]
    intro heq
    exact hne (LawfulEqCmp.eq_of_compare heq).symm

/-- An erased key is gone. -/
theorem getElem?_foldl_erase_of_mem (ks : List α) (t : TreeMap α β cmp) (ha : a ∈ ks) :
    (ks.foldl (fun t k => t.erase k) t)[a]? = none := by
  induction ks generalizing t with
  | nil => cases ha
  | cons k ks ih =>
    rw [List.foldl_cons]
    by_cases hks : a ∈ ks
    · exact ih _ hks
    · have hak : a = k := (List.mem_cons.mp ha).resolve_right hks
      rw [getElem?_foldl_erase_of_notMem ks _ hks, hak, TreeMap.getElem?_erase_self]

end

end LobReplay.Foundation
