/-
  The message codec of the FIX session layer (cpp/fix/src/fix_session.cpp): `parse` with its two
  passes over the text, `build`, and the helpers `has`, `seq_num` and `msg_type`. `std::string` is a
  byte string and `std::map<int, std::string>` an ordered map.

  The first pass of `parse` splits the text at SOH. Here it is shown to read the pieces of the text
  one by one (`fieldLoop_terminated`), and the fields it returns are those of the pieces
  (`readFields_iff`). The second pass looks for `9=` and `10=` anywhere in the text (`locate`).
-/

import Std.Data.ExtTreeMap
import LobReplay.Common
import LobReplay.Foundation.Text

namespace LobReplay.Fix

open Foundation Std

/-! ## Messages -/

/-- `std::map<int, std::string>`. -/
abbrev Fields := ExtTreeMap Int32 Bytes

structure FixMessage where
  fields : Fields
  /-- The bytes as parsed. -/
  raw : Bytes
  deriving DecidableEq

/-- `ParseStatus`; `Ok` is the `ok` of `Except`. -/
inductive ParseStatus where
  | malformed
  | badBodyLength
  | badChecksum
  deriving DecidableEq

def soh : UInt8 := 1

/-- `'='`. -/
def equals : UInt8 := 61

/-- `"9="`. -/
def nineText : Bytes := [57, equals]

/-- `"10="`. -/
def tenText : Bytes := [49, 48, equals]

/-! ## `parse` -/

/-- `tag = tag * 10 + (c - '0')` for each character, in an `int` of 32 bits. -/
def tagLoop : Bytes → Int32 → Option Int32
  | [], tag => some tag
  | c :: rest, tag =>
    if isDigit c then tagLoop rest (tag * 10 + Int32.ofNat (c.toNat - 48)) else none

/-- The tag and the value of one field. -/
def parseField (field : Bytes) : Option (Int32 × Bytes) :=
  match find [equals] field with
  | none => none
  | some eq =>
    if field.take eq = [] then none
    else (tagLoop (field.take eq) 0).map fun tag => (tag, field.drop (eq + 1))

/-- The loop over the fields; `rest` is what stands from `pos` on. Every round takes at least
    the SOH, so the length of the text bounds the rounds. -/
def fieldLoop : Nat → Bytes → Fields → Option Fields
  | 0, _, fields => some fields
  | fuel + 1, rest, fields =>
    if rest = [] then some fields
    else
      match find [soh] rest with
      | none => none
      | some next =>
        match parseField (rest.take next) with
        | none => none
        | some (tag, value) =>
          if fields.contains tag then none
          else fieldLoop fuel (rest.drop (next + 1)) (fields.insert tag value)

/-- `nine_end` and `ten`: the SOH behind the first `9=`, and the first `10=`. -/
def locate (raw : Bytes) : Option (Nat × Nat) :=
  match find nineText raw with
  | none => none
  | some nine =>
    match find [soh] (raw.drop nine), find tenText raw with
    | some k, some ten => some (nine + k, ten)
    | _, _ => none

/-- `a - b` in `size_t`. -/
def sizeSub (a b : Nat) : Nat := (a + 2 ^ 64 - b) % 2 ^ 64

/-- `sum % 256`, where `sum` is a `uint32_t`. -/
def checksum (bytes : Bytes) : Nat :=
  (bytes.foldl (fun (sum : UInt32) b => sum + b.toUInt32) 0).toNat % 256

def parse (data : Bytes) : Except ParseStatus FixMessage :=
  if data.length < 3 then .error .malformed
  else if data.getLast? ≠ some soh then .error .malformed
  else
    match fieldLoop data.length data ∅ with
    | none => .error .malformed
    | some fields =>
      if ¬ (8 ∈ fields ∧ 9 ∈ fields ∧ 35 ∈ fields ∧ 10 ∈ fields) then .error .malformed
      else
        match locate data with
        | none => .error .malformed
        | some (nineEnd, ten) =>
          if strtoull (fields.getD 9 []) ≠ sizeSub ten (nineEnd + 1) then .error .badBodyLength
          else if strtoull (fields.getD 10 []) ≠ checksum (data.take ten) then .error .badChecksum
          else .ok { fields := fields, raw := data }

/-! ## `build` and the helpers -/

/-- `std::to_string(tag)`. -/
def tagText (tag : Int32) : Bytes :=
  if tag < 0 then 45 :: decimal (-tag.toInt).toNat else decimal tag.toInt.toNat

def fieldText (tag : Int32) (value : Bytes) : Bytes := tagText tag ++ equals :: value

/-- `begin`: the BeginString of a built message. -/
def beginString (m : FixMessage) : Bytes := m.fields.getD 8 (asBytes "FIX.4.4")

def bodyFields (m : FixMessage) : List (Int32 × Bytes) :=
  m.fields.toList.filter fun field => ¬ (field.1 = 8 ∨ field.1 = 9 ∨ field.1 = 10)

def body (m : FixMessage) : Bytes :=
  terminated soh ((bodyFields m).map fun field => fieldText field.1 field.2)

/-- The text before the trailer. -/
def head (m : FixMessage) : Bytes :=
  asBytes "8=" ++ beginString m ++ [soh] ++ (asBytes "9=" ++ decimal (body m).length ++ [soh])
    ++ body m

def build (m : FixMessage) : Bytes :=
  head m ++ (asBytes "10=" ++ decimal (checksum (head m)) ++ [soh])

def has (tag : Int32) (value : Bytes) (m : FixMessage) : Bool := m.fields[tag]? = some value

/-- `seq_num`: tag 34, or 0. -/
def seqNum (m : FixMessage) : UInt32 :=
  match m.fields[(34 : Int32)]? with
  | none => 0
  | some value => UInt32.ofNat (strtoull value)

/-- `msg_type`: tag 35, or the empty text. -/
def msgType (m : FixMessage) : Bytes := m.fields.getD 35 []

/-! ## Checksums -/

theorem foldl_checksum (bytes : Bytes) (sum : UInt32) :
    (bytes.foldl (fun (sum : UInt32) b => sum + b.toUInt32) sum).toNat % 256
      = (sum.toNat + (bytes.map UInt8.toNat).sum) % 256 := by
  induction bytes generalizing sum with
  | nil => simp
  | cons b bytes ih =>
    rw [List.foldl_cons, ih, UInt32.toNat_add, UInt8.toNat_toUInt32, List.map_cons, List.sum_cons]
    omega

theorem checksum_eq (bytes : Bytes) : checksum bytes = (bytes.map UInt8.toNat).sum % 256 := by
  rw [checksum, foldl_checksum]
  simp

theorem checksum_lt (bytes : Bytes) : checksum bytes < 256 := Nat.mod_lt _ (by omega)

theorem checksum_append (a b : Bytes) :
    checksum (a ++ b) = (checksum a + checksum b) % 256 := by
  rw [checksum_eq, checksum_eq, checksum_eq, List.map_append, List.sum_append]
  omega

/-! ## One field -/

/-- Digits are read as the number they denote, in 32 bits. -/
theorem tagLoop_digits {digits : Bytes} (h : ∀ b ∈ digits, isDigit b = true) (v : Nat) :
    tagLoop digits (Int32.ofNat v)
      = some (Int32.ofNat (digits.foldl (fun value b => 10 * value + (b.toNat - 48)) v)) := by
  induction digits generalizing v with
  | nil => rfl
  | cons c rest ih =>
    have hstep : Int32.ofNat v * 10 + Int32.ofNat (c.toNat - 48)
        = Int32.ofNat (10 * v + (c.toNat - 48)) := by
      rw [Int32.ofNat_add, Int32.ofNat_mul, Int32.mul_comm]
      rfl
    rw [tagLoop, if_pos (h c List.mem_cons_self), hstep,
      ih fun b hb => h b (List.mem_cons_of_mem _ hb), List.foldl_cons]

theorem tagLoop_decimal (n : Nat) : tagLoop (decimal n) 0 = some (Int32.ofNat n) := by
  have hread := @tagLoop_digits (decimal n) (fun b hb => isDigit_of_mem_decimal hb) 0
  have hvalue := digitsValue_decimal n
  rw [digitsValue] at hvalue
  rw [hvalue] at hread
  exact hread

theorem isDigit_equals : isDigit equals = false := by decide

theorem isDigit_soh : isDigit soh = false := by decide

theorem parseField_decimal (n : Nat) (value : Bytes) :
    parseField (decimal n ++ equals :: value) = some (Int32.ofNat n, value) := by
  have htake : (decimal n ++ equals :: value).take (decimal n).length = decimal n :=
    List.take_left' rfl
  have hdrop : (decimal n ++ equals :: value).drop ((decimal n).length + 1) = value := by
    rw [← List.drop_drop, List.drop_left' rfl, List.drop_succ_cons, List.drop_zero]
  rw [parseField, find_terminator (not_mem_decimal isDigit_equals)]
  simp only [htake, hdrop, if_neg (decimal_ne_nil n), tagLoop_decimal, Option.map_some]

variable {tag k : Int32} {fields : Fields} {pieces : List Bytes} {value : Bytes}
  {entries : List (Int32 × Bytes)}

theorem tagText_of_pos (h : 0 < tag) : tagText tag = decimal tag.toInt.toNat := by
  rw [tagText, if_neg]
  intro hneg
  rw [Int32.lt_iff_toInt_lt] at h hneg
  exact absurd (Int.lt_trans h hneg) (Int.lt_irrefl _)

/-- `build` writes a field that `parse` reads. -/
theorem parseField_fieldText (h : 0 < tag) (value : Bytes) :
    parseField (fieldText tag value) = some (tag, value) := by
  have htag : Int32.ofNat tag.toInt.toNat = tag := by
    rw [Int32.lt_iff_toInt_lt] at h
    rw [← Int32.ofInt_eq_ofNat, Int.toNat_of_nonneg (Int.le_of_lt h), Int32.ofInt_toInt]
  rw [fieldText, tagText_of_pos h, parseField_decimal, htag]

/-! ## The pieces of a text -/

/-- Add the field of one piece, unless it is malformed or its tag is there. -/
def readField (fields : Fields) (piece : Bytes) : Option Fields :=
  match parseField piece with
  | none => none
  | some (tag, value) => if fields.contains tag then none else some (fields.insert tag value)

/-- The first pass on a text made of pieces. -/
def readFields (pieces : List Bytes) (fields : Fields) : Option Fields :=
  pieces.foldlM readField fields

/-- **Run.** The loop over the text reads its pieces one by one. -/
theorem fieldLoop_terminated (hsoh : ∀ piece ∈ pieces, soh ∉ piece) {fuel : Nat}
    (hfuel : pieces.length ≤ fuel) (fields : Fields) :
    fieldLoop fuel (terminated soh pieces) fields = readFields pieces fields := by
  induction pieces generalizing fuel fields with
  | nil => cases fuel <;> simp [fieldLoop, readFields]
  | cons piece pieces ih =>
    obtain ⟨fuel, rfl⟩ : ∃ k, fuel = k + 1 := ⟨fuel - 1, by simp at hfuel; omega⟩
    have hne : ¬ terminated soh (piece :: pieces) = [] := by simp
    have htake : (terminated soh (piece :: pieces)).take piece.length = piece := by
      rw [terminated_cons, List.take_left' rfl]
    have hdrop : (terminated soh (piece :: pieces)).drop (piece.length + 1)
        = terminated soh pieces := by
      rw [terminated_cons, ← List.drop_drop, List.drop_left' rfl, List.drop_succ_cons,
        List.drop_zero]
    have hfind : find [soh] (terminated soh (piece :: pieces)) = some piece.length := by
      rw [terminated_cons, find_terminator (hsoh piece List.mem_cons_self)]
    have hih := fun fields' => ih (fun p hp => hsoh p (List.mem_cons_of_mem _ hp))
      (Nat.le_of_succ_le_succ hfuel) fields'
    rw [fieldLoop, if_neg hne, readFields, List.foldlM_cons]
    simp only [hfind, htake, hdrop, readField]
    cases parseField piece with
    | none => rfl
    | some field =>
      by_cases hdup : fields.contains field.1 = true
      · simp [hdup]
      · simp only [if_neg hdup, hih]
        rfl

def insertAll (fields : Fields) (entries : List (Int32 × Bytes)) : Fields :=
  entries.foldl (fun fields entry => fields.insert entry.1 entry.2) fields

theorem getElem?_insert_fields (fields : Fields) (tag k : Int32) (value : Bytes) :
    (fields.insert tag value)[k]? = if tag = k then some value else fields[k]? := by
  rw [ExtTreeMap.getElem?_insert]
  by_cases h : tag = k
  · rw [if_pos h, if_pos (Std.LawfulEqCmp.compare_eq_iff_eq.mpr h)]
  · rw [if_neg h, if_neg (mt Std.LawfulEqCmp.compare_eq_iff_eq.mp h)]

theorem mem_insert_fields : k ∈ fields.insert tag value ↔ tag = k ∨ k ∈ fields := by
  rw [ExtTreeMap.mem_insert, Std.LawfulEqCmp.compare_eq_iff_eq]

theorem getElem?_insertAll_of_not_mem (h : k ∉ entries.map Prod.fst) (fields : Fields) :
    (insertAll fields entries)[k]? = fields[k]? := by
  induction entries generalizing fields with
  | nil => rfl
  | cons entry entries ih =>
    rw [List.map_cons, List.mem_cons, not_or] at h
    rw [insertAll, List.foldl_cons, ← insertAll, ih h.2, getElem?_insert_fields,
      if_neg (Ne.symm h.1)]

theorem getElem?_insertAll_of_mem {entries : List (Int32 × Bytes)} {k : Int32} {value : Bytes}
    (hnodup : (entries.map Prod.fst).Nodup) (h : (k, value) ∈ entries) (fields : Fields) :
    (insertAll fields entries)[k]? = some value := by
  induction entries generalizing fields with
  | nil => cases h
  | cons entry entries ih =>
    rw [List.map_cons, List.nodup_cons] at hnodup
    rw [insertAll, List.foldl_cons, ← insertAll]
    rcases List.mem_cons.mp h with rfl | h
    · rw [getElem?_insertAll_of_not_mem hnodup.1, getElem?_insert_fields, if_pos rfl]
    · exact ih hnodup.2 h _

theorem mem_of_getElem?_insertAll (h : (insertAll fields entries)[k]? = some value) :
    (k, value) ∈ entries ∨ fields[k]? = some value := by
  induction entries generalizing fields with
  | nil => exact Or.inr h
  | cons entry entries ih =>
    rw [insertAll, List.foldl_cons, ← insertAll] at h
    rcases ih h with hmem | hget
    · exact Or.inl (List.mem_cons_of_mem _ hmem)
    · rw [getElem?_insert_fields] at hget
      split at hget
      · rename_i htag
        refine Or.inl ?_
        rw [← htag, ← Option.some.inj hget]
        exact List.mem_cons_self
      · exact Or.inr hget

theorem readFields_iff {result : Fields} :
    readFields pieces fields = some result ↔
      ∃ entries : List (Int32 × Bytes), pieces.map parseField = entries.map some ∧
        (entries.map Prod.fst).Nodup ∧ (∀ entry ∈ entries, entry.1 ∉ fields) ∧
        result = insertAll fields entries := by
  induction pieces generalizing fields with
  | nil =>
    rw [readFields, List.foldlM_nil, Option.pure_def, Option.some.injEq]
    constructor
    · rintro rfl
      exact ⟨[], rfl, List.nodup_nil, by simp, rfl⟩
    · rintro ⟨entries, hmap, -, -, rfl⟩
      rw [List.map_nil, eq_comm, List.map_eq_nil_iff] at hmap
      rw [hmap]
      rfl
  | cons piece pieces ih =>
    have hcons : readFields (piece :: pieces) fields
        = (readField fields piece).bind fun fields' => readFields pieces fields' := rfl
    rw [hcons, Option.bind_eq_some_iff]
    constructor
    · rintro ⟨fields', hfield, hrest⟩
      obtain ⟨entries, hmap, hnodup, hfresh, rfl⟩ := ih.mp hrest
      rw [readField] at hfield
      split at hfield
      · cases hfield
      rename_i tag value hparse
      split at hfield
      · cases hfield
      rename_i hdup
      cases hfield
      refine ⟨(tag, value) :: entries, by rw [List.map_cons, List.map_cons, hmap, hparse], ?_, ?_,
        rfl⟩
      · rw [List.map_cons, List.nodup_cons]
        refine ⟨fun hmem => ?_, hnodup⟩
        obtain ⟨entry, hentry, htag⟩ := List.mem_map.mp hmem
        exact hfresh entry hentry (mem_insert_fields.mpr (Or.inl htag.symm))
      · intro entry hentry
        rcases List.mem_cons.mp hentry with rfl | hentry
        · exact fun hmem => hdup (ExtTreeMap.contains_iff_mem.mpr hmem)
        · exact fun hmem => hfresh entry hentry (mem_insert_fields.mpr (Or.inr hmem))
    · rintro ⟨entries, hmap, hnodup, hfresh, rfl⟩
      rcases entries with _ | ⟨⟨tag, value⟩, entries⟩
      · cases hmap
      rw [List.map_cons, List.map_cons, List.cons.injEq] at hmap
      rw [List.map_cons, List.nodup_cons] at hnodup
      have hdup : ¬ fields.contains tag = true := fun hc =>
        hfresh (tag, value) List.mem_cons_self (ExtTreeMap.contains_iff_mem.mp hc)
      refine ⟨fields.insert tag value, by simp [readField, hmap.1, hdup], ih.mpr ?_⟩
      refine ⟨entries, hmap.2, hnodup.2, ?_, rfl⟩
      intro entry hentry hmem
      rcases mem_insert_fields.mp hmem with htag | hmem
      · exact hnodup.1 (List.mem_map.mpr ⟨entry, hentry, htag.symm⟩)
      · exact hfresh entry (List.mem_cons_of_mem _ hentry) hmem

/-! ## What is accepted -/

/-- Everything `parse` checks. -/
theorem parse_eq_ok_iff {data : Bytes} {m : FixMessage} :
    parse data = .ok m ↔
      3 ≤ data.length ∧ data.getLast? = some soh ∧ m.raw = data ∧
        fieldLoop data.length data ∅ = some m.fields ∧
        (8 ∈ m.fields ∧ 9 ∈ m.fields ∧ 35 ∈ m.fields ∧ 10 ∈ m.fields) ∧
        ∃ nineEnd ten, locate data = some (nineEnd, ten) ∧
          strtoull (m.fields.getD 9 []) = sizeSub ten (nineEnd + 1) ∧
          strtoull (m.fields.getD 10 []) = checksum (data.take ten) := by
  rw [parse]
  constructor
  · intro h
    split at h
    · cases h
    rename_i hlen
    split at h
    · cases h
    rename_i hlast
    split at h
    · cases h
    rename_i fields hloop
    split at h
    · cases h
    rename_i hrequired
    split at h
    · cases h
    rename_i nineEnd ten hlocate
    split at h
    · cases h
    rename_i hnine
    split at h
    · cases h
    rename_i hten
    cases h
    exact ⟨Nat.not_lt.mp hlen, not_not.mp hlast, rfl, hloop, not_not.mp hrequired, nineEnd, ten,
      hlocate, not_not.mp hnine, not_not.mp hten⟩
  · rintro ⟨hlen, hlast, hraw, hloop, hrequired, nineEnd, ten, hlocate, hnine, hten⟩
    rw [if_neg (Nat.not_lt.mpr hlen), if_neg (not_not.mpr hlast)]
    simp only [hloop, hlocate]
    rw [if_neg (not_not.mpr hrequired), if_neg (not_not.mpr hnine), if_neg (not_not.mpr hten),
      ← hraw]

end LobReplay.Fix
