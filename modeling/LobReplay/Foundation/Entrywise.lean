/-
  A map digested entry by entry: the digests of the entries of an `ExtTreeMap` under a commutative
  operation, `combined`. The order of the entries does not matter, so the digest follows an
  insertion (`combined_insert`) and a removal (`combined_erase`) without a walk over the map.
-/

import Mathlib.Data.List.Nodup
import Mathlib.Data.List.Perm.Basic
import Std.Data.ExtTreeMap

namespace LobReplay.Foundation

open Std (ExtTreeMap TransCmp LawfulEqCmp)

section

variable {α β γ : Type} {cmp : α → α → Ordering} [TransCmp cmp] [LawfulEqCmp cmp]
  {t : ExtTreeMap α β cmp} {k : α} {v old : β}

/-! ## Maps -/

omit [LawfulEqCmp cmp] in
theorem nodup_toList : t.toList.Nodup := by
  refine ExtTreeMap.ordered_keys_toList.imp fun {a b} hlt heq => ?_
  subst heq
  have hself : cmp a.1 a.1 = .eq := Std.ReflCmp.compare_self
  rw [hself] at hlt
  cases hlt

/-- The entries of a map with one entry more. -/
theorem toList_insert_perm (h : k ∉ t) : (t.insert k v).toList.Perm ((k, v) :: t.toList) := by
  have hnot : t[k]? = none := ExtTreeMap.getElem?_eq_none h
  have hnodup : ((k, v) :: t.toList).Nodup := by
    refine List.nodup_cons.mpr ⟨fun hmem => ?_, nodup_toList⟩
    rw [ExtTreeMap.mem_toList_iff_getElem?_eq_some, hnot] at hmem
    cases hmem
  refine (List.perm_ext_iff_of_nodup nodup_toList hnodup).mpr ?_
  rintro ⟨k', v'⟩
  rw [List.mem_cons, ExtTreeMap.mem_toList_iff_getElem?_eq_some,
    ExtTreeMap.mem_toList_iff_getElem?_eq_some, ExtTreeMap.getElem?_insert, Prod.mk.injEq]
  by_cases heq : k = k'
  · subst heq
    rw [if_pos Std.ReflCmp.compare_self, hnot]
    simp [eq_comm]
  · rw [if_neg (mt LawfulEqCmp.compare_eq_iff_eq.mp heq)]
    simp [Ne.symm heq]

theorem erase_of_not_mem (h : t[k]? = none) : t.erase k = t := by
  refine ExtTreeMap.ext_getElem? fun k' => ?_
  rw [ExtTreeMap.getElem?_erase]
  split
  · next heq => rw [← LawfulEqCmp.compare_eq_iff_eq.mp heq, h]
  · rfl

theorem insert_erase : (t.erase k).insert k v = t.insert k v := by
  refine ExtTreeMap.ext_getElem? fun k' => ?_
  rw [ExtTreeMap.getElem?_insert, ExtTreeMap.getElem?_insert, ExtTreeMap.getElem?_erase]
  split <;> rfl

theorem insert_of_getElem? (h : t[k]? = some v) : t.insert k v = t := by
  refine ExtTreeMap.ext_getElem? fun k' => ?_
  rw [ExtTreeMap.getElem?_insert]
  split
  · next heq => rw [← LawfulEqCmp.compare_eq_iff_eq.mp heq, h]
  · rfl

/-! ## Digests -/

variable (op : γ → γ → γ) (unit : γ) (digest : α → β → γ)

/-- The digests of all entries, combined. -/
def combined (t : ExtTreeMap α β cmp) : γ :=
  (t.toList.map fun entry => digest entry.1 entry.2).foldr op unit

variable [hcomm : Std.Commutative op] [hassoc : Std.Associative op]

/-- **Insertion.** A new entry adds its digest. -/
theorem combined_insert (h : k ∉ t) :
    combined op unit digest (t.insert k v) = op (digest k v) (combined op unit digest t) := by
  have hperm := (toList_insert_perm (v := v) h).map fun entry => digest entry.1 entry.2
  exact hperm.foldr_op_eq

/-- **Removal.** A removed entry takes its digest along. -/
theorem combined_erase (h : t[k]? = some old) :
    combined op unit digest t = op (digest k old) (combined op unit digest (t.erase k)) := by
  have hback : (t.erase k).insert k old = t := by rw [insert_erase, insert_of_getElem? h]
  have hnot : k ∉ t.erase k := by simp
  conv_lhs => rw [← hback]
  exact combined_insert op unit digest hnot

end

end LobReplay.Foundation
