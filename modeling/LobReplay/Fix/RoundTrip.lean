/-
  What `parse` makes of the text `build` writes. The first pass reads back every field
  (`fieldLoop_build`). The second pass looks for `9=` and `10=` in the whole text, so it finds the
  built envelope only when neither occurs before its own field: a tag that ends in 10, such as
  MinQty (110), or a value with `10=` in it moves the end of the body.
-/

import LobReplay.Fix.Codec
import Mathlib.Data.List.Nodup

namespace LobReplay.Fix

open Foundation Std

/-- A message as the callers of `build` make it: positive tags, a type, no SOH in a value. -/
structure Buildable (m : FixMessage) : Prop where
  fields : ∀ field ∈ m.fields.toList, 0 < field.1 ∧ soh ∉ field.2
  type : 35 ∈ m.fields

/-- The fields of a built message: 8 has its default, 9 and 10 are computed. -/
def framed (m : FixMessage) : Fields :=
  ((m.fields.insert 8 (beginString m)).insert 9 (decimal (body m).length)).insert 10
    (decimal (checksum (head m)))

/-- The message is read back. -/
def RoundTrips (m : FixMessage) : Prop := (parse (build m)).map FixMessage.fields = .ok (framed m)

/-! ## The built text -/

/-- `8=..`. -/
def firstPiece (m : FixMessage) : Bytes := asBytes "8=" ++ beginString m

/-- `9=..`. -/
def lengthPiece (m : FixMessage) : Bytes := nineText ++ decimal (body m).length

def bodyPieces (m : FixMessage) : List Bytes :=
  (bodyFields m).map fun field => fieldText field.1 field.2

def headPieces (m : FixMessage) : List Bytes := firstPiece m :: lengthPiece m :: bodyPieces m

/-- `10=..`. -/
def trailer (m : FixMessage) : Bytes := tenText ++ decimal (checksum (head m))

theorem head_eq (m : FixMessage) : head m = terminated soh (headPieces m) := by
  have hnine : asBytes "9=" = nineText := by decide
  rw [head, headPieces, terminated_cons, terminated_cons, firstPiece, lengthPiece, hnine, body]
  simp only [List.append_assoc, List.cons_append, List.nil_append, bodyPieces]

theorem build_eq_append (m : FixMessage) : build m = head m ++ (trailer m ++ [soh]) := by
  have hten : asBytes "10=" = tenText := by decide
  rw [build, trailer, hten]

theorem build_eq (m : FixMessage) : build m = terminated soh (headPieces m ++ [trailer m]) := by
  rw [build_eq_append, terminated_append, ← head_eq]
  simp

theorem mem_bodyFields {m : FixMessage} {tag : Int32} {value : Bytes} :
    (tag, value) ∈ bodyFields m ↔
      m.fields[tag]? = some value ∧ tag ≠ 8 ∧ tag ≠ 9 ∧ tag ≠ 10 := by
  rw [bodyFields, List.mem_filter, ExtTreeMap.mem_toList_iff_getElem?_eq_some, decide_eq_true_eq,
    not_or, not_or]

theorem getElem?_fields_eight (m : FixMessage) (h : 8 ∈ m.fields) :
    m.fields[(8 : Int32)]? = some (beginString m) := by
  rw [beginString, ExtTreeMap.getD_eq_getD_getElem?]
  cases hget : m.fields[(8 : Int32)]? with
  | none =>
    rw [ExtTreeMap.mem_iff_isSome_getElem?, hget] at h
    cases h
  | some value => rfl

section Buildable

variable {m : FixMessage} (hm : Buildable m) {parsed : FixMessage}

include hm

theorem Buildable.of_getElem? {tag : Int32} {value : Bytes} (h : m.fields[tag]? = some value) :
    0 < tag ∧ soh ∉ value :=
  hm.fields (tag, value) (ExtTreeMap.mem_toList_iff_getElem?_eq_some.mpr h)

theorem Buildable.soh_not_mem_begin : soh ∉ beginString m := by
  by_cases h : 8 ∈ m.fields
  · exact (hm.of_getElem? (getElem?_fields_eight m h)).2
  · rw [beginString, ExtTreeMap.getD_eq_fallback h]
    decide

theorem Buildable.soh_not_mem_head : ∀ piece ∈ headPieces m, soh ∉ piece := by
  intro piece hpiece
  rw [headPieces, List.mem_cons, List.mem_cons] at hpiece
  rcases hpiece with rfl | rfl | hpiece
  · rw [firstPiece, List.mem_append, not_or]
    exact ⟨by decide, hm.soh_not_mem_begin⟩
  · rw [lengthPiece, List.mem_append, not_or]
    exact ⟨by decide, not_mem_decimal isDigit_soh⟩
  · rw [bodyPieces, List.mem_map] at hpiece
    obtain ⟨⟨tag, value⟩, hfield, rfl⟩ := hpiece
    obtain ⟨hpos, hvalue⟩ := hm.of_getElem? (mem_bodyFields.mp hfield).1
    rw [fieldText, tagText_of_pos hpos, List.mem_append, List.mem_cons, not_or, not_or]
    exact ⟨not_mem_decimal isDigit_soh, by decide, hvalue⟩

theorem Buildable.soh_not_mem : ∀ piece ∈ headPieces m ++ [trailer m], soh ∉ piece := by
  intro piece hpiece
  rcases List.mem_append.mp hpiece with hpiece | hpiece
  · exact hm.soh_not_mem_head piece hpiece
  · rw [List.mem_singleton.mp hpiece, trailer, List.mem_append, not_or]
    exact ⟨by decide, not_mem_decimal isDigit_soh⟩

/-! ## The first pass -/

omit hm in
/-- The fields of the built text, in the order of the text. -/
def entries (m : FixMessage) : List (Int32 × Bytes) :=
  (8, beginString m) :: (9, decimal (body m).length) ::
    (bodyFields m ++ [(10, decimal (checksum (head m)))])

theorem Buildable.parse_pieces :
    (headPieces m ++ [trailer m]).map parseField = (entries m).map some := by
  have hfirst : parseField (firstPiece m) = some (8, beginString m) :=
    parseField_decimal 8 (beginString m)
  have hlength : parseField (lengthPiece m) = some (9, decimal (body m).length) :=
    parseField_decimal 9 _
  have htrailer : parseField (trailer m) = some (10, decimal (checksum (head m))) :=
    parseField_decimal 10 _
  have hbody : (bodyPieces m).map parseField = (bodyFields m).map some := by
    rw [bodyPieces, List.map_map]
    refine List.map_congr_left fun field hfield => ?_
    exact parseField_fieldText (hm.of_getElem? (mem_bodyFields.mp hfield).1).1 field.2
  rw [headPieces, entries, List.cons_append, List.cons_append, List.map_cons, List.map_cons,
    List.map_cons, List.map_cons, List.map_append, List.map_append, hbody, hfirst, hlength,
    List.map_singleton, List.map_singleton, htrailer]

omit hm in
theorem nodup_entries : ((entries m).map Prod.fst).Nodup := by
  have hkeys : ((bodyFields m).map Prod.fst).Nodup := by
    have hsub : ((bodyFields m).map Prod.fst).Sublist (m.fields.toList.map Prod.fst) :=
      List.filter_sublist.map Prod.fst
    rw [ExtTreeMap.map_fst_toList_eq_keys] at hsub
    exact hsub.nodup ExtTreeMap.nodup_keys
  have hother : ∀ tag ∈ (bodyFields m).map Prod.fst, tag ≠ 8 ∧ tag ≠ 9 ∧ tag ≠ 10 := by
    intro tag htag
    obtain ⟨⟨tag, value⟩, hfield, rfl⟩ := List.mem_map.mp htag
    exact (mem_bodyFields.mp hfield).2
  have hlast : ((bodyFields m).map Prod.fst ++ [(10 : Int32)]).Nodup := by
    refine List.nodup_append.mpr ⟨hkeys, List.nodup_singleton _, fun a ha b hb => ?_⟩
    rw [List.mem_singleton.mp hb]
    exact (hother a ha).2.2
  have hkeysOf : (entries m).map Prod.fst = 8 :: 9 :: ((bodyFields m).map Prod.fst ++ [10]) := by
    rw [entries, List.map_cons, List.map_cons, List.map_append, List.map_singleton]
  have h9 : (9 : Int32) ∉ (bodyFields m).map Prod.fst ++ [10] := by
    rw [List.mem_append, List.mem_singleton, not_or]
    exact ⟨fun h => (hother 9 h).2.1 rfl, by decide⟩
  have h8 : (8 : Int32) ∉ 9 :: ((bodyFields m).map Prod.fst ++ [10]) := by
    rw [List.mem_cons, List.mem_append, List.mem_singleton, not_or, not_or]
    exact ⟨by decide, fun h => (hother 8 h).1 rfl, by decide⟩
  rw [hkeysOf]
  exact List.nodup_cons.mpr ⟨h8, List.nodup_cons.mpr ⟨h9, hlast⟩⟩

omit hm in
theorem insertAll_entries : insertAll ∅ (entries m) = framed m := by
  refine ExtTreeMap.ext_getElem? fun k => ?_
  rw [framed, getElem?_insert_fields, getElem?_insert_fields, getElem?_insert_fields]
  by_cases h10 : 10 = k
  · rw [if_pos h10, ← h10]
    exact getElem?_insertAll_of_mem nodup_entries (by simp [entries]) ∅
  by_cases h9 : 9 = k
  · rw [if_neg h10, if_pos h9, ← h9]
    exact getElem?_insertAll_of_mem nodup_entries (by simp [entries]) ∅
  by_cases h8 : 8 = k
  · rw [if_neg h10, if_neg h9, if_pos h8, ← h8]
    exact getElem?_insertAll_of_mem nodup_entries (by simp [entries]) ∅
  rw [if_neg h10, if_neg h9, if_neg h8]
  cases hget : m.fields[k]? with
  | some value =>
    have hmem : (k, value) ∈ bodyFields m :=
      mem_bodyFields.mpr ⟨hget, Ne.symm h8, Ne.symm h9, Ne.symm h10⟩
    exact getElem?_insertAll_of_mem nodup_entries (by simp [entries, hmem]) ∅
  | none =>
    rw [getElem?_insertAll_of_not_mem]
    · simp
    rw [entries]
    simp only [List.map_cons, List.map_append, List.map_nil, List.mem_cons, List.mem_append,
      List.not_mem_nil, or_false, not_or]
    refine ⟨Ne.symm h8, Ne.symm h9, fun hmem => ?_, Ne.symm h10⟩
    obtain ⟨⟨tag, value⟩, hfield, rfl⟩ := List.mem_map.mp hmem
    rw [(mem_bodyFields.mp hfield).1] at hget
    cases hget

/-- **Run.** The first pass reads every field back. -/
theorem Buildable.fieldLoop_build :
    fieldLoop (build m).length (build m) ∅ = some (framed m) := by
  have hfuel := length_le_terminated soh (headPieces m ++ [trailer m])
  rw [build_eq, fieldLoop_terminated hm.soh_not_mem hfuel, readFields_iff]
  exact ⟨entries m, hm.parse_pieces, nodup_entries, fun _ _ => by simp, insertAll_entries.symm⟩

theorem Buildable.required :
    8 ∈ framed m ∧ 9 ∈ framed m ∧ 35 ∈ framed m ∧ 10 ∈ framed m := by
  simp only [framed, mem_insert_fields]
  exact ⟨by simp, by simp, Or.inr (Or.inr (Or.inr hm.type)), by simp⟩

theorem Buildable.fields_of_parse (h : parse (build m) = .ok parsed) :
    parsed.fields = framed m := by
  obtain ⟨-, -, -, hloop, -⟩ := parse_eq_ok_iff.mp h
  rw [hm.fieldLoop_build] at hloop
  exact (Option.some.inj hloop).symm

omit hm in
theorem framed_getElem? {k : Int32} (h8 : k ≠ 8) (h9 : k ≠ 9) (h10 : k ≠ 10) :
    (framed m)[k]? = m.fields[k]? := by
  rw [framed, getElem?_insert_fields, getElem?_insert_fields, getElem?_insert_fields,
    if_neg h10.symm, if_neg h9.symm, if_neg h8.symm]

theorem Buildable.read_back (h : parse (build m) = .ok parsed) :
    msgType parsed = msgType m ∧ seqNum parsed = seqNum m ∧
      ∀ k : Int32, k ≠ 8 → k ≠ 9 → k ≠ 10 → parsed.fields[k]? = m.fields[k]? := by
  have hsame : ∀ k : Int32, k ≠ 8 → k ≠ 9 → k ≠ 10 → parsed.fields[k]? = m.fields[k]? := by
    intro k h8 h9 h10
    rw [hm.fields_of_parse h, framed_getElem? h8 h9 h10]
  refine ⟨?_, ?_, hsame⟩
  · rw [msgType, msgType, ExtTreeMap.getD_eq_getD_getElem?, ExtTreeMap.getD_eq_getD_getElem?,
      hsame 35 (by decide) (by decide) (by decide)]
  · rw [seqNum, seqNum, hsame 34 (by decide) (by decide) (by decide)]

/-! ## The second pass -/

omit hm in
/-- A pattern that starts with neither byte of `8=` is looked for in the BeginString. -/
theorem infix_first_iff {b : UInt8} {p : Bytes} (h8 : b ≠ 56) (heq : b ≠ equals) :
    b :: p <:+: firstPiece m ↔ b :: p <:+: beginString m := by
  have hfirst : firstPiece m = 56 :: equals :: beginString m := rfl
  rw [hfirst, List.infix_cons_iff, List.infix_cons_iff]
  constructor
  · rintro (h | h | h)
    · exact absurd (List.cons_prefix_cons.mp h).1 h8
    · exact absurd (List.cons_prefix_cons.mp h).1 heq
    · exact h
  · exact fun h => Or.inr (Or.inr h)

omit hm in
theorem nineText_infix_first_iff : nineText <:+: firstPiece m ↔ nineText <:+: beginString m :=
  infix_first_iff (by decide) (by decide)

omit hm in
theorem tenText_infix_first_iff : tenText <:+: firstPiece m ↔ tenText <:+: beginString m :=
  infix_first_iff (by decide) (by decide)

omit hm in
/-- `9=` and digits have one equals sign, at its start. -/
theorem not_tenText_infix_length : ¬ tenText <:+: lengthPiece m := by
  have hlength : lengthPiece m = 57 :: 61 :: decimal (body m).length := rfl
  rw [hlength, List.infix_cons_iff, List.infix_cons_iff]
  rintro (h | h | h)
  · exact absurd (List.cons_prefix_cons.mp h).1 (by decide)
  · exact absurd (List.cons_prefix_cons.mp h).1 (by decide)
  · exact not_mem_decimal isDigit_equals (h.mem (by decide))

omit hm in
theorem tenText_infix_head_iff :
    tenText <:+: head m ↔ tenText <:+: beginString m ∨
      ∃ field ∈ bodyFields m, tenText <:+: fieldText field.1 field.2 := by
  rw [head_eq, infix_terminated (by decide) (by decide), headPieces, List.exists_mem_cons_iff,
    List.exists_mem_cons_iff, tenText_infix_first_iff, bodyPieces]
  simp only [List.mem_map, exists_exists_and_eq_and]
  constructor
  · rintro (h | h | h)
    · exact Or.inl h
    · exact absurd h not_tenText_infix_length
    · exact Or.inr h
  · rintro (h | h)
    · exact Or.inl h
    · exact Or.inr (Or.inr h)

omit hm in
/-- The first `10=` when the head has none. -/
theorem find_ten_of_absent (h : ¬ tenText <:+: head m) :
    find tenText (build m) = some (head m).length := by
  have hpieces : ∀ piece ∈ headPieces m, ¬ tenText <:+: piece := by
    intro piece hpiece hin
    rw [head_eq] at h
    exact h ((infix_terminated (by decide) (by decide)).mpr ⟨piece, hpiece, hin⟩)
  have htrailer : find tenText (trailer m ++ [soh]) = some 0 := by
    rw [trailer, List.append_assoc]
    exact find_of_start (List.prefix_append _ _)
  rw [build_eq_append, head_eq, find_terminated_append (by decide) (by decide) hpieces, htrailer]
  simp

omit hm in
/-- The first `10=` is never behind the head. -/
theorem find_ten (m : FixMessage) :
    ∃ ten, find tenText (build m) = some ten ∧
      ((tenText <:+: head m ∧ find tenText (head m) = some ten ∧ ten + 3 ≤ (head m).length) ∨
        (¬ tenText <:+: head m ∧ ten = (head m).length)) := by
  by_cases h : tenText <:+: head m
  · obtain ⟨ten, hfind, hle⟩ := find_append_le h (trailer m ++ [soh])
    refine ⟨ten, by rw [build_eq_append, hfind], Or.inl ⟨h, ?_, hle⟩⟩
    rw [← hfind, find_append_of_occurs h]
  · exact ⟨(head m).length, find_ten_of_absent h, Or.inr ⟨h, rfl⟩⟩

omit hm in
/-- The built text from the first field on. -/
theorem build_eq_first (m : FixMessage) :
    build m = firstPiece m ++ soh ::
      (lengthPiece m ++ soh :: terminated soh (bodyPieces m ++ [trailer m])) := by
  rw [build_eq, headPieces, List.cons_append, List.cons_append, terminated_cons, terminated_cons]

omit hm in
theorem nine_of_absent (h : ¬ nineText <:+: beginString m) :
    find nineText (build m) = some ((firstPiece m).length + 1) ∧
      find [soh] ((build m).drop ((firstPiece m).length + 1)) = some (lengthPiece m).length := by
  have hlength : soh ∉ lengthPiece m := by
    rw [lengthPiece, List.mem_append, not_or]
    exact ⟨by decide, not_mem_decimal isDigit_soh⟩
  have hpre : ∀ rest, nineText <+: lengthPiece m ++ rest := fun rest => by
    rw [lengthPiece, List.append_assoc]
    exact List.prefix_append _ _
  constructor
  · rw [build_eq_first, find_separated (by decide) (by decide)
      (fun hin => h (nineText_infix_first_iff.mp hin)), find_of_start (hpre _)]
    simp
  · rw [build_eq_first, ← List.drop_drop, List.drop_left' rfl, List.drop_succ_cons,
      List.drop_zero, find_terminator hlength]

theorem Buildable.nine_of_occurs (h : nineText <:+: beginString m) :
    ∃ nine k, find nineText (build m) = some nine ∧
      find [soh] ((build m).drop nine) = some k ∧ nine + k = (firstPiece m).length := by
  have hfirst : soh ∉ firstPiece m := hm.soh_not_mem_head _ List.mem_cons_self
  obtain ⟨nine, hnine, hle⟩ := find_append_le (nineText_infix_first_iff.mpr h)
    (soh :: (lengthPiece m ++ soh :: terminated soh (bodyPieces m ++ [trailer m])))
  have hlen : nine ≤ (firstPiece m).length := by omega
  refine ⟨nine, (firstPiece m).length - nine, by rw [build_eq_first, hnine], ?_, by omega⟩
  rw [build_eq_first, List.drop_append_of_le_length hlen,
    find_terminator fun hin => hfirst (List.mem_of_mem_drop hin), List.length_drop]

/-! ## Which messages are read back -/

omit hm in
/-- `9=` stands nowhere before its field, and `10=` nowhere before the trailer. -/
def Unambiguous (m : FixMessage) : Prop :=
  ¬ nineText <:+: beginString m ∧ ¬ tenText <:+: beginString m ∧
    ∀ field ∈ bodyFields m, ¬ tenText <:+: fieldText field.1 field.2

omit hm in
/-- `9=` stands in the BeginString, the first `10=` is as far before the trailer as the body
    starts behind the BeginString, and the bytes from there to the trailer sum to 0. -/
def Coincides (m : FixMessage) : Prop :=
  nineText <:+: beginString m ∧ ∃ ten, find tenText (head m) = some ten ∧
    ten + (lengthPiece m).length + 1 = (head m).length ∧ checksum ((head m).drop ten) = 0

omit hm in
theorem head_length (m : FixMessage) :
    (head m).length = (firstPiece m).length + 1 + ((lengthPiece m).length + 1)
      + (body m).length := by
  have hbody : terminated soh (bodyPieces m) = body m := rfl
  rw [head_eq, headPieces, terminated_cons, terminated_cons, hbody]
  simp only [List.length_append, List.length_cons]
  omega

omit hm in
theorem head_length_lt (m : FixMessage) : (head m).length < (build m).length := by
  rw [build_eq_append]
  simp only [List.length_append, List.length_cons]
  omega

omit hm in
theorem checksum_take_iff {ten : Nat} (hten : ten ≤ (head m).length) :
    checksum (head m) = checksum ((build m).take ten) ↔ checksum ((head m).drop ten) = 0 := by
  have htake : (build m).take ten = (head m).take ten := by
    rw [build_eq_append, List.take_append_of_le_length hten]
  have hsplit := checksum_append ((head m).take ten) ((head m).drop ten)
  rw [List.take_append_drop] at hsplit
  rw [htake, hsplit]
  have h1 := checksum_lt ((head m).take ten)
  have h2 := checksum_lt ((head m).drop ten)
  omega

/-- The message is read back when the second pass finds the built length and checksum. -/
theorem Buildable.roundTrips_iff_located (hlen : (build m).length < 2 ^ 63) :
    RoundTrips m ↔ ∃ nineEnd ten, locate (build m) = some (nineEnd, ten) ∧
      (body m).length = sizeSub ten (nineEnd + 1) ∧
      checksum (head m) = checksum ((build m).take ten) := by
  have hhead := head_length_lt m
  have hlength := head_length m
  have hnine : strtoull ((framed m).getD 9 []) = (body m).length := by
    rw [ExtTreeMap.getD_eq_getD_getElem?, framed, getElem?_insert_fields, getElem?_insert_fields,
      if_neg (by decide), if_pos rfl, Option.getD_some, strtoull_decimal (by omega)]
  have hten : strtoull ((framed m).getD 10 []) = checksum (head m) := by
    rw [ExtTreeMap.getD_eq_getD_getElem?, framed, getElem?_insert_fields, if_pos rfl,
      Option.getD_some, strtoull_decimal (Nat.lt_trans (checksum_lt _) (by omega))]
  have hlast : (build m).getLast? = some soh := by
    rw [build_eq_append, ← List.append_assoc, List.getLast?_append]
    rfl
  constructor
  · intro h
    rw [RoundTrips] at h
    cases hparse : parse (build m) with
    | error status =>
      rw [hparse] at h
      cases h
    | ok parsed =>
      rw [hparse] at h
      obtain ⟨-, -, -, -, -, nineEnd, ten, hlocate, hdeclared, hsum⟩ := parse_eq_ok_iff.mp hparse
      rw [show parsed.fields = framed m from Except.ok.inj h] at hdeclared hsum
      exact ⟨nineEnd, ten, hlocate, by rw [← hnine, hdeclared], by rw [← hten, hsum]⟩
  · rintro ⟨nineEnd, ten, hlocate, hdeclared, hsum⟩
    have hparse : parse (build m) = .ok ⟨framed m, build m⟩ := by
      refine parse_eq_ok_iff.mpr ⟨?_, hlast, rfl, hm.fieldLoop_build, hm.required, nineEnd, ten,
        hlocate, by rw [hnine, hdeclared], by rw [hten, hsum]⟩
      have hfirst : 2 ≤ (firstPiece m).length := by
        rw [firstPiece, List.length_append]
        exact Nat.le_add_right 2 _
      omega
    rw [RoundTrips, hparse]
    rfl

/-- **What `build` writes is read back** exactly when the second pass finds the built envelope:
    it is unambiguous, or the two misplaced ends of the body cancel out. A text of 2^63 bytes
    does not exist. -/
theorem round_trips_iff (hlen : (build m).length < 2 ^ 63) :
    RoundTrips m ↔ Unambiguous m ∨ Coincides m := by
  have hhead := head_length_lt m
  have hlength := head_length m
  rw [hm.roundTrips_iff_located hlen]
  obtain ⟨ten, hfind, hten⟩ := find_ten m
  by_cases h9 : nineText <:+: beginString m
  -- the body is taken to start behind the BeginString
  · obtain ⟨nine, k, hnine, hk, hend⟩ := hm.nine_of_occurs h9
    have hlocate : locate (build m) = some ((firstPiece m).length, ten) := by
      simp only [locate, hnine, hk, hfind, hend]
    have hsize : (body m).length = sizeSub ten ((firstPiece m).length + 1) ↔
        ten + (lengthPiece m).length + 1 = (head m).length := by
      rw [sizeSub]
      omega
    rw [hlocate]
    constructor
    · rintro ⟨_, _, hsome, hdeclared, hsum⟩
      cases hsome
      rw [hsize] at hdeclared
      rcases hten with ⟨-, hfound, hle⟩ | ⟨-, rfl⟩
      · exact Or.inr ⟨h9, ten, hfound, hdeclared, (checksum_take_iff (by omega)).mp hsum⟩
      · omega
    · rintro (hplain | ⟨-, ten', hfound, hdeclared, hsum⟩)
      · exact absurd h9 hplain.1
      rcases hten with ⟨-, hfound', hle⟩ | ⟨hnone, -⟩
      · rw [hfound] at hfound'
        cases hfound'
        exact ⟨_, _, rfl, hsize.mpr hdeclared, (checksum_take_iff (by omega)).mpr hsum⟩
      · rw [find_eq_none_iff.mpr hnone] at hfound
        cases hfound
  -- the body is taken to start behind field 9
  · obtain ⟨hnine, hk⟩ := nine_of_absent h9
    have hlocate : locate (build m)
        = some ((firstPiece m).length + 1 + (lengthPiece m).length, ten) := by
      simp only [locate, hnine, hk, hfind]
    have hsize : (body m).length
          = sizeSub ten ((firstPiece m).length + 1 + (lengthPiece m).length + 1) ↔
        ten = (head m).length := by
      rw [sizeSub]
      rcases hten with ⟨-, -, hle⟩ | ⟨-, rfl⟩
      · omega
      · omega
    have hplain : ten = (head m).length ↔ Unambiguous m := by
      have hoccurs := @tenText_infix_head_iff m
      constructor
      · rintro rfl
        rcases hten with ⟨-, -, hle⟩ | ⟨hnone, -⟩
        · omega
        · rw [hoccurs, not_or] at hnone
          exact ⟨h9, hnone.1, fun field hfield hin => hnone.2 ⟨field, hfield, hin⟩⟩
      · rintro ⟨-, hbegin, hbody⟩
        rcases hten with ⟨hin, -, -⟩ | ⟨-, heq⟩
        · rcases hoccurs.mp hin with h | ⟨field, hfield, h⟩
          · exact absurd h hbegin
          · exact absurd h (hbody field hfield)
        · exact heq
    rw [hlocate]
    constructor
    · rintro ⟨_, _, hsome, hdeclared, -⟩
      cases hsome
      exact Or.inl (hplain.mp (hsize.mp hdeclared))
    · rintro (hun | hco)
      · have heq := hplain.mpr hun
        refine ⟨_, _, rfl, hsize.mpr heq, (checksum_take_iff (Nat.le_of_eq heq)).mpr ?_⟩
        rw [heq, List.drop_length]
        rfl
      · exact absurd hco.1 h9

end Buildable

instance (m : FixMessage) : Decidable (Unambiguous m) := by
  unfold Unambiguous
  infer_instance

instance (m : FixMessage) : Decidable (RoundTrips m) := by
  unfold RoundTrips
  infer_instance

/-- A message with the given fields, not parsed from anything. -/
def message (fields : List (Int32 × Bytes)) : FixMessage := ⟨insertAll ∅ fields, []⟩

/-- A new order as a session sends it. -/
def sampleOrder : FixMessage :=
  message [(35, asBytes "D"), (34, asBytes "7"), (49, asBytes "CLIENT"), (56, asBytes "VENUE"),
    (55, asBytes "BTCUSDT"), (54, asBytes "1")]

/-- The same order with MinQty (110). -/
def sampleMinQty : FixMessage := ⟨sampleOrder.fields.insert 110 (asBytes "5"), []⟩

theorem buildable_sampleOrder : Buildable sampleOrder :=
  ⟨by decide +kernel, by decide +kernel⟩

theorem sampleOrder_is_read_back :
    (Unambiguous sampleOrder ∨ Coincides sampleOrder) ∧ RoundTrips sampleOrder := by
  have hplain : Unambiguous sampleOrder := by decide +kernel
  refine ⟨Or.inl hplain, ?_⟩
  exact (round_trips_iff buildable_sampleOrder (by decide +kernel)).mpr (Or.inl hplain)

/-- MinQty ends the body for the second pass: the built message is refused. -/
theorem minQty_is_not_read_back :
    Buildable sampleMinQty ∧ (build sampleMinQty).length < 2 ^ 63 ∧ ¬ RoundTrips sampleMinQty ∧
      parse (build sampleMinQty) = .error .badBodyLength :=
  ⟨⟨by decide +kernel, by decide +kernel⟩, by decide +kernel, by decide +kernel,
    by decide +kernel⟩

end LobReplay.Fix
