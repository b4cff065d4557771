/-
  Two increasing lists joined on their keys. `joined` pairs the elements of equal keys by comparing
  all with all; on increasing lists it can be followed from the front (`joined_of_lt`,
  `joined_of_gt`, `joined_of_eq`).

  A source that is advanced step by step and may fail is the list it yields (`Yields`).
-/

import Mathlib.Data.List.Basic
import Mathlib.Order.Lattice

namespace LobReplay.Foundation

/-! ## Joins -/

section

variable {α β κ : Type} [LinearOrder κ] {keyA : α → κ} {keyB : β → κ} {a : α} {b : β}
  {as : List α} {bs : List β}

def Increasing (key : α → κ) (as : List α) : Prop := as.Pairwise fun a a' => key a < key a'

/-- All pairs of equal keys. -/
def joined (keyA : α → κ) (keyB : β → κ) (as : List α) (bs : List β) : List (α × β) :=
  as.flatMap fun a => (bs.filter fun b => keyB b = keyA a).map (Prod.mk a)

theorem mem_joined : (a, b) ∈ joined keyA keyB as bs ↔ a ∈ as ∧ b ∈ bs ∧ keyB b = keyA a := by
  simp [joined]

@[simp] theorem joined_nil_left : joined keyA keyB [] bs = [] := rfl

@[simp] theorem joined_nil_right : joined keyA keyB as [] = [] := by
  simp [joined]

/-- An element below the other list has no partner. -/
theorem filter_key_eq_nil (h : ∀ b ∈ bs, keyA a < keyB b) :
    (bs.filter fun b => keyB b = keyA a) = [] := by
  rw [List.filter_eq_nil_iff]
  intro b hb
  rw [decide_eq_true_eq]
  exact (h b hb).ne'

/-- The front of the left list is passed over. -/
theorem joined_of_lt (hlt : keyA a < keyB b) (hb : Increasing keyB (b :: bs)) :
    joined keyA keyB (a :: as) (b :: bs) = joined keyA keyB as (b :: bs) := by
  have hnone : ∀ b' ∈ b :: bs, keyA a < keyB b' := by
    intro b' hmem
    rcases List.mem_cons.mp hmem with rfl | hmem
    · exact hlt
    · exact hlt.trans ((List.pairwise_cons.mp hb).1 b' hmem)
  rw [joined, List.flatMap_cons, filter_key_eq_nil hnone]
  rfl

/-- An element that no left element meets does not matter. -/
theorem joined_cons_right (h : ∀ a ∈ as, keyB b ≠ keyA a) :
    joined keyA keyB as (b :: bs) = joined keyA keyB as bs := by
  refine List.flatMap_congr fun a ha => ?_
  rw [List.filter_cons_of_neg]
  simpa using h a ha

/-- The front of the right list is passed over. -/
theorem joined_of_gt (hlt : keyB b < keyA a) (ha : Increasing keyA (a :: as)) :
    joined keyA keyB (a :: as) (b :: bs) = joined keyA keyB (a :: as) bs := by
  refine joined_cons_right fun a' hmem => ?_
  rcases List.mem_cons.mp hmem with rfl | hmem
  · exact hlt.ne
  · exact (hlt.trans ((List.pairwise_cons.mp ha).1 a' hmem)).ne

/-- Two fronts of one key are a pair. -/
theorem joined_of_eq (heq : keyA a = keyB b) (ha : Increasing keyA (a :: as))
    (hb : Increasing keyB (b :: bs)) :
    joined keyA keyB (a :: as) (b :: bs) = (a, b) :: joined keyA keyB as bs := by
  have hright : ∀ b' ∈ bs, keyA a < keyB b' := by
    intro b' hmem
    rw [heq]
    exact (List.pairwise_cons.mp hb).1 b' hmem
  have hleft : ∀ a' ∈ as, keyB b ≠ keyA a' := by
    intro a' hmem
    rw [← heq]
    exact ((List.pairwise_cons.mp ha).1 a' hmem).ne
  have hfront : (List.filter (fun b => keyB b = keyA a) (b :: bs)) = [b] := by
    rw [List.filter_cons_of_pos (by simp [heq]), filter_key_eq_nil hright]
  rw [joined, List.flatMap_cons, hfront, ← joined_cons_right hleft]
  rfl

theorem joined_increasing (ha : Increasing keyA as) (hb : Increasing keyB bs) :
    Increasing (fun pair => keyB pair.2) (joined keyA keyB as bs) := by
  induction as with
  | nil => exact List.Pairwise.nil
  | cons a as ih =>
    obtain ⟨hfront, hrest⟩ := List.pairwise_cons.mp ha
    rw [joined, List.flatMap_cons, Increasing, List.pairwise_append]
    refine ⟨?_, ih hrest, ?_⟩
    · rw [List.pairwise_map]
      exact List.Pairwise.filter _ hb
    · intro pair hpair pair' hpair'
      obtain ⟨b, hmem, rfl⟩ := List.mem_map.mp hpair
      obtain ⟨hmem', -, heq'⟩ := mem_joined.mp (show (pair'.1, pair'.2) ∈ joined keyA keyB as bs from hpair')
      have heq := (List.mem_filter.mp hmem).2
      rw [decide_eq_true_eq] at heq
      show keyB b < keyB pair'.2
      rw [heq, heq']
      exact hfront _ hmem'

end

/-! ## Sources -/

section

variable {ε σ α : Type} {step : σ → Except ε (Option α × σ)} {head : Option α × σ}
  {yielded yielded' : List (α × σ)}

/-- What a source yields from its current element on, each element with the state behind it. -/
inductive Yields (step : σ → Except ε (Option α × σ)) : Option α × σ → List (α × σ) → Prop
  | done (state : σ) : Yields step (none, state) []
  | more {a : α} {state : σ} {head : Option α × σ} {later : List (α × σ)}
      (advance : step state = .ok head) (rest : Yields step head later) :
      Yields step (some a, state) ((a, state) :: later)

end

end LobReplay.Foundation
