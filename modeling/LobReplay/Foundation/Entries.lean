/-
  Maps as lists of their entries, in the order of insertion. A new key goes to the end, `adjust`
  changes the value of a key in place; `lookup_concat` and `lookup_adjust` say what a later lookup
  finds.
-/

import Mathlib.Data.List.Basic

namespace LobReplay.Foundation

variable {κ ν : Type} [DecidableEq κ]

def adjust (entries : List (κ × ν)) (key : κ) (change : ν → ν) : List (κ × ν) :=
  entries.map fun entry => if entry.1 = key then (entry.1, change entry.2) else entry

@[simp] theorem length_adjust (entries : List (κ × ν)) (key : κ) (change : ν → ν) :
    (adjust entries key change).length = entries.length := List.length_map _

theorem lookup_adjust (entries : List (κ × ν)) (key k : κ) (change : ν → ν) :
    (adjust entries key change).lookup k
      = if k = key then (entries.lookup k).map change else entries.lookup k := by
  induction entries with
  | nil => simp [adjust]
  | cons entry rest ih =>
    obtain ⟨k', v⟩ := entry
    have hcons : adjust ((k', v) :: rest) key change
        = (if k' = key then (k', change v) else (k', v)) :: adjust rest key change := rfl
    rw [hcons]
    by_cases hk : k = k'
    · subst hk
      split <;> simp
    · have hne : (k == k') = false := beq_eq_false_iff_ne.mpr hk
      split <;> simp only [List.lookup_cons, hne, ih]

theorem lookup_concat (entries : List (κ × ν)) (key k : κ) (value : ν) :
    (entries ++ [(key, value)]).lookup k
      = (entries.lookup k).or (if k = key then some value else none) := by
  induction entries with
  | nil =>
    by_cases hk : k = key
    · subst hk
      simp
    · simp [List.lookup_cons, beq_eq_false_iff_ne.mpr hk, hk]
  | cons entry rest ih =>
    obtain ⟨k', v⟩ := entry
    rw [List.cons_append, List.lookup_cons, List.lookup_cons]
    cases k == k' with
    | true => rfl
    | false => exact ih

end LobReplay.Foundation
