/-
  What an accepted FIX text guarantees. The first pass of `parse` sees the text as fields, the
  second as bytes around the first `9=` and the first `10=`. The declared length and checksum are
  compared with what the second pass finds, so the fields lie inside the verified envelope exactly
  when both passes mean the same places.
-/

import LobReplay.Fix.RoundTrip

namespace LobReplay.Fix

open Foundation Std

/-- The key of a field in `fields`. -/
def keyOf (piece : Bytes) : Option Int32 := (parseField piece).map Prod.fst

structure Accepted (raw : Bytes) (m : FixMessage) (pieces : List Bytes)
    (entries : List (Int32 × Bytes)) : Prop where
  text : raw = terminated soh pieces
  sohFree : ∀ piece ∈ pieces, soh ∉ piece
  parsed : pieces.map parseField = entries.map some
  nodup : (entries.map Prod.fst).Nodup
  fields : m.fields = insertAll ∅ entries

variable {raw : Bytes} {m : FixMessage} {ten : Bytes}

theorem exists_accepted (h : parse raw = .ok m) :
    ∃ pieces entries, Accepted raw m pieces entries := by
  obtain ⟨-, hlast, -, hloop, -⟩ := parse_eq_ok_iff.mp h
  obtain ⟨pieces, hpieces, rfl⟩ := exists_terminated soh (Or.inr hlast)
  rw [fieldLoop_terminated hpieces (length_le_terminated soh pieces), readFields_iff] at hloop
  obtain ⟨entries, hparsed, hnodup, -, hfields⟩ := hloop
  exact ⟨pieces, entries, rfl, hpieces, hparsed, hnodup, hfields⟩

namespace Accepted

variable {raw : Bytes} {m : FixMessage} {pieces : List Bytes} {entries : List (Int32 × Bytes)}

section

variable (h : Accepted raw m pieces entries)
include h

theorem nodup_keys : (pieces.map keyOf).Nodup := by
  have hkeys : pieces.map keyOf = (entries.map Prod.fst).map some := by
    have hmap : pieces.map keyOf = (pieces.map parseField).map (Option.map Prod.fst) := by
      rw [List.map_map]
      rfl
    rw [hmap, h.parsed, List.map_map, List.map_map]
    rfl
  rw [hkeys]
  exact h.nodup.map (Option.some_injective _)

end

end Accepted

/-- Field 10 is the only piece with its key, so nothing stands behind a field 10. -/
theorem Accepted.closed {pieces : List Bytes} {entries : List (Int32 × Bytes)}
    (h : Accepted raw m pieces entries) {all : List Bytes} (hall : pieces = all ++ [ten])
    (hten : keyOf ten = some 10) {front : List Bytes} {last rest : Bytes}
    (hfront : ∀ piece ∈ front ++ [last], soh ∉ piece) (hlast : keyOf last = some 10)
    (heq : raw = terminated soh (front ++ [last]) ++ rest) : rest = [] := by
  by_contra hne
  have hend : raw.getLast? = some soh := by
    rw [h.text, hall, terminated_append, List.getLast?_append]
    simp
  have hrest : rest.getLast? = some soh := by
    rw [heq, List.getLast?_append] at hend
    rw [List.getLast?_eq_some_getLast hne, Option.some_or] at hend
    rw [List.getLast?_eq_some_getLast hne, hend]
  obtain ⟨more, hmore, rfl⟩ := exists_terminated soh (Or.inr hrest)
  have hsplit : pieces = (front ++ [last]) ++ more := by
    refine terminated_injective soh h.sohFree ?_ (by rw [← h.text, heq, ← terminated_append])
    intro piece hpiece
    rcases List.mem_append.mp hpiece with hpiece | hpiece
    · exact hfront piece hpiece
    · exact hmore piece hpiece
  -- the last piece is among `more`, and `last` is before it, with the same key
  have hten_more : ten ∈ more := by
    rcases List.eq_nil_or_concat more with rfl | ⟨most, final, rfl⟩
    · exact absurd rfl hne
    · rw [hall, List.concat_eq_append, ← List.append_assoc] at hsplit
      have hfinal := (List.append_inj' hsplit rfl).2
      rw [List.cons.inj hfinal |>.1, List.concat_eq_append]
      exact List.mem_append_right _ List.mem_cons_self
  have hnodup := h.nodup_keys
  rw [hsplit, List.map_append, List.nodup_append] at hnodup
  refine hnodup.2.2 (some 10) ?_ (some 10) ?_ rfl
  · rw [← hlast]
    exact List.mem_map_of_mem (List.mem_append_right _ List.mem_cons_self)
  · rw [← hten]
    exact List.mem_map_of_mem hten_more

/-! ## The two passes -/

end LobReplay.Fix
