/-
  The identity log read as a list of records. `Image file rs` says that the file holds, after a
  32-byte header, the encodings of `rs` and then anything: this is all `read_record_at`, `lookup`
  and `validate` see of it.
-/

import LobReplay.Identity.Log
import Mathlib.Data.List.Sort

namespace LobReplay

open Foundation

/-- A record of the log: the trade ID and the raw digest of its observation. -/
abbrev IdentityRecord := UInt64 × FixedBytes 32

/-- The record area of a log that holds `rs`. -/
def encodeRecords (rs : List IdentityRecord) : Bytes :=
  rs.flatMap fun r => identityRecordBytes r.1 r.2

@[simp] theorem encodeRecords_nil : encodeRecords [] = [] := rfl

@[simp] theorem encodeRecords_cons (r : IdentityRecord) (rs : List IdentityRecord) :
    encodeRecords (r :: rs) = identityRecordBytes r.1 r.2 ++ encodeRecords rs := rfl

@[simp] theorem encodeRecords_append (a b : List IdentityRecord) :
    encodeRecords (a ++ b) = encodeRecords a ++ encodeRecords b := by
  simp [encodeRecords]

theorem encodeRecords_length (rs : List IdentityRecord) :
    (encodeRecords rs).length = rs.length * identityLogRecordBytes := by
  induction rs with
  | nil => simp
  | cons r rs ih =>
    simp only [encodeRecords_cons, List.length_append, identityRecordBytes_length, ih,
      List.length_cons, identityLogRecordBytes]
    omega

/-- The record a 40-byte chunk denotes, as `read_record_at` decodes it. -/
def decodeRecord (chunk : Bytes) (h : chunk.length = identityLogRecordBytes) : IdentityRecord :=
  (UInt64.ofNat (leValue (chunk.take 8)),
    ⟨chunk.drop 8, by simp [h, identityLogRecordBytes]⟩)

theorem decodeRecord_identityRecordBytes (r : IdentityRecord)
    (h : (identityRecordBytes r.1 r.2).length = identityLogRecordBytes) :
    decodeRecord (identityRecordBytes r.1 r.2) h = r := by
  obtain ⟨id, digest⟩ := r
  have htake : (identityRecordBytes id digest).take 8 = leBytes 8 id.toNat := by
    rw [identityRecordBytes, List.take_left' (leBytes_length 8 _)]
  have hdrop : (identityRecordBytes id digest).drop 8 = digest.bytes := by
    rw [identityRecordBytes, List.drop_left' (leBytes_length 8 _)]
  have hid : leValue (leBytes 8 id.toNat) = id.toNat :=
    leValue_leBytes 8 _ id.toNat_lt
  refine Prod.ext ?_ (FixedBytes.ext hdrop)
  show UInt64.ofNat (leValue ((identityRecordBytes id digest).take 8)) = id
  rw [htake, hid, UInt64.ofNat_toNat]

theorem identityRecordBytes_decodeRecord (chunk : Bytes)
    (h : chunk.length = identityLogRecordBytes) :
    identityRecordBytes (decodeRecord chunk h).1 (decodeRecord chunk h).2 = chunk := by
  have h8 : (chunk.take 8).length = 8 := by simp [h, identityLogRecordBytes]
  have hlt : leValue (chunk.take 8) < 2 ^ 64 := by
    have := leValue_lt (chunk.take 8)
    rw [h8] at this
    omega
  have hid : leBytes 8 (decodeRecord chunk h).1.toNat = chunk.take 8 := by
    show leBytes 8 (UInt64.ofNat (leValue (chunk.take 8))).toNat = chunk.take 8
    rw [UInt64.toNat_ofNat_of_lt' hlt]
    have := leBytes_leValue (chunk.take 8)
    rwa [h8] at this
  rw [identityRecordBytes, hid]
  exact List.take_append_drop 8 chunk

theorem exists_records (n : Nat) : ∀ area : Bytes, area.length = n * identityLogRecordBytes →
    ∃ rs : List IdentityRecord, rs.length = n ∧ encodeRecords rs = area := by
  induction n with
  | zero =>
    intro area h
    exact ⟨[], rfl, (List.length_eq_zero_iff.mp (by simpa using h)).symm⟩
  | succ n ih =>
    intro area h
    have hchunk : (area.take 40).length = identityLogRecordBytes := by
      simp only [List.length_take, identityLogRecordBytes] at h ⊢
      omega
    obtain ⟨rs, hlen, henc⟩ := ih (area.drop 40) (by
      simp only [List.length_drop, identityLogRecordBytes] at h ⊢
      omega)
    refine ⟨decodeRecord (area.take 40) hchunk :: rs, by simp [hlen], ?_⟩
    rw [encodeRecords_cons, identityRecordBytes_decodeRecord, henc, List.take_append_drop]

theorem identityRecordBytes_injective {a b : IdentityRecord}
    (h : identityRecordBytes a.1 a.2 = identityRecordBytes b.1 b.2) : a = b := by
  rw [← decodeRecord_identityRecordBytes a (identityRecordBytes_length ..),
    ← decodeRecord_identityRecordBytes b (identityRecordBytes_length ..)]
  simp only [h]

theorem encodeRecords_injective {a b : List IdentityRecord}
    (h : encodeRecords a = encodeRecords b) : a = b := by
  induction a generalizing b with
  | nil =>
    have hlen := congrArg List.length h
    rw [encodeRecords_length, encodeRecords_length] at hlen
    have : b.length = 0 := by
      simp only [identityLogRecordBytes, List.length_nil] at hlen
      omega
    exact (List.length_eq_zero_iff.mp this).symm
  | cons r rs ih =>
    rcases b with _ | ⟨r', rs'⟩
    · have hlen := congrArg List.length h
      rw [encodeRecords_length, encodeRecords_length] at hlen
      simp [identityLogRecordBytes] at hlen
    · rw [encodeRecords_cons, encodeRecords_cons] at h
      obtain ⟨hr, hrs⟩ := List.append_inj h (by simp)
      rw [identityRecordBytes_injective hr, ih hrs]

/-! ## Reading an image -/

/-- The file holds a header, the records `rs` and then anything. -/
def Image (file : File) (rs : List IdentityRecord) : Prop :=
  ∃ header rest : Bytes, header.length = identityLogHeaderBytes ∧
    file.bytes = header ++ (encodeRecords rs ++ rest)

theorem Image.len_le {file : File} {rs : List IdentityRecord} (h : Image file rs) :
    identityLogHeaderBytes + rs.length * identityLogRecordBytes ≤ file.len := by
  obtain ⟨header, rest, hheader, hbytes⟩ := h
  rw [File.len, hbytes, List.length_append, List.length_append, hheader, encodeRecords_length]
  omega

namespace TradeIdentityLog

variable {file : File} {rs : List IdentityRecord} {log : TradeIdentityLog}

/-- `read_record_at` reads record `i` of the image. -/
theorem readRecordAt_image (h : Image file rs) (i : Nat) (hi : i < rs.length) :
    readRecordAt file i = .ok rs[i] := by
  obtain ⟨header, rest, hheader, hbytes⟩ := id h
  have hlen := h.len_le
  have hmax := file.length_le
  -- the offset arithmetic stays far below 2^64
  have hroom : identityLogHeaderBytes + i * identityLogRecordBytes + identityLogRecordBytes
      ≤ file.len := by
    simp only [identityLogRecordBytes, identityLogHeaderBytes] at hlen ⊢
    omega
  have hoff : i * identityLogRecordBytes ≤ u64Max
      ∧ identityLogHeaderBytes + i * identityLogRecordBytes ≤ u64Max := by
    simp only [File.len, maxFileLength, u64Max] at *
    omega
  obtain ⟨b, hb, hbb⟩ := File.readExactAt_eq_some hroom
  have hsplit : rs = rs.take i ++ rs[i] :: rs.drop (i + 1) := by
    rw [← List.drop_eq_getElem_cons hi, List.take_append_drop]
  have hchunk : b.bytes = identityRecordBytes rs[i].1 rs[i].2 := by
    have hfront : (header ++ encodeRecords (rs.take i)).length
        = identityLogHeaderBytes + i * identityLogRecordBytes := by
      rw [List.length_append, hheader, encodeRecords_length, List.length_take,
        Nat.min_eq_left (Nat.le_of_lt hi)]
    have hbytes' : file.bytes = (header ++ encodeRecords (rs.take i)) ++
        (identityRecordBytes rs[i].1 rs[i].2 ++ (encodeRecords (rs.drop (i + 1)) ++ rest)) := by
      rw [hbytes]
      conv_lhs => rw [hsplit]
      simp only [encodeRecords_append, encodeRecords_cons, List.append_assoc]
    rw [hbb, hbytes', List.drop_left' hfront, List.take_left' (identityRecordBytes_length ..)]
  unfold readRecordAt
  rw [if_pos hoff, hb]
  refine congrArg Except.ok ?_
  have hdec := decodeRecord_identityRecordBytes rs[i] (identityRecordBytes_length ..)
  unfold decodeRecord at hdec
  simp only [hchunk]
  exact hdec

/-- The binary search ends at the first record whose ID is not below `id`. -/
theorem lookupLoop_image (h : Image file rs) (id : UInt64) (low high : Nat)
    (hhigh : high ≤ rs.length) (hle : low ≤ high)
    (hbelow : ∀ (i : Nat) (hi : i < rs.length), i < low → rs[i].1 < id)
    (habove : ∀ (i : Nat) (hi : i < rs.length), high ≤ i → id ≤ rs[i].1)
    (hsorted : rs.Pairwise fun a b => a.1 < b.1) :
    ∃ k, lookupLoop file id low high = .ok k ∧ k ≤ rs.length ∧
      (∀ (i : Nat) (hi : i < rs.length), i < k → rs[i].1 < id) ∧
      (∀ (i : Nat) (hi : i < rs.length), k ≤ i → id ≤ rs[i].1) := by
  have hpair := List.pairwise_iff_getElem.mp hsorted
  -- induction on the width of the interval, as the loop recurses
  induction hw : high - low using Nat.strong_induction_on generalizing low high with
  | _ width ih =>
    unfold lookupLoop
    by_cases hlt : low < high
    · have hmid : low + (high - low) / 2 < rs.length := by omega
      simp only [hlt, if_true, readRecordAt_image h _ hmid]
      by_cases hcand : rs[low + (high - low) / 2].1 < id
      · simp only [hcand, if_true]
        refine ih _ (by omega) (low + (high - low) / 2 + 1) high hhigh (by omega) ?_ habove rfl
        intro i hi hlow
        rcases Nat.lt_or_ge i (low + (high - low) / 2) with hi' | hi'
        · exact UInt64.lt_trans (hpair i _ hi hmid hi') hcand
        · have : i = low + (high - low) / 2 := by omega
          subst this
          exact hcand
      · simp only [hcand, if_false]
        refine ih _ (by omega) low (low + (high - low) / 2) (by omega) (by omega) hbelow ?_ rfl
        intro i hi hge
        rcases Nat.lt_or_ge (low + (high - low) / 2) i with hi' | hi'
        · exact UInt64.le_trans (UInt64.not_lt.mp hcand)
            (UInt64.le_of_lt (hpair _ i hmid hi hi'))
        · have : i = low + (high - low) / 2 := by omega
          subst this
          exact UInt64.not_lt.mp hcand
    · have heq : low = high := by omega
      subst heq
      exact ⟨low, by simp, hhigh, hbelow, habove⟩

/-- **Lookup.** On strictly increasing IDs `lookup` returns the digest of a record
    of the log, and nothing for an ID without a record. -/
theorem lookup_image (h : Image log.file rs) (hcount : log.count = rs.length)
    (hsorted : rs.Pairwise fun a b => a.1 < b.1) (id : UInt64) :
    (∀ r ∈ rs, r.1 = id → log.lookup id = .ok (some (hexEncode32 r.2))) ∧
    ((∀ r ∈ rs, r.1 ≠ id) → log.lookup id = .ok none) := by
  obtain ⟨k, hk, hkle, hlow, hhigh⟩ := lookupLoop_image h id 0 rs.length (Nat.le_refl _)
    (Nat.zero_le _) (by intro i _ hi; omega) (by intro i hi hge; omega) hsorted
  have hpair := List.pairwise_iff_getElem.mp hsorted
  unfold lookup
  rw [hcount, hk]
  refine ⟨?_, ?_⟩
  · rintro r hr rfl
    obtain ⟨j, hj, rfl⟩ := List.getElem_of_mem hr
    -- the record sits exactly at the lower bound
    have hjk : j = k := by
      rcases Nat.lt_trichotomy j k with hlt | heq | hgt
      · exact absurd (hlow j hj hlt) (UInt64.lt_irrefl _)
      · exact heq
      · have hk' : k < rs.length := by omega
        exact absurd (UInt64.lt_of_lt_of_le (hpair k j hk' hj hgt) (hhigh k hk' (Nat.le_refl _)))
          (UInt64.lt_irrefl _)
    subst hjk
    simp only [hj, if_true, readRecordAt_image h j hj]
  · intro hnone
    by_cases hk' : k < rs.length
    · simp only [hk', if_true, readRecordAt_image h k hk',
        if_neg (hnone _ (List.getElem_mem hk'))]
    · simp [hk']

/-- The loop of `validate` from record `index` on. -/
theorem validateFrom_image (h : Image file rs) (previous : Option UInt64) :
    ∀ (remaining index : Nat), index + remaining = rs.length →
    (validateFrom file previous index remaining = .ok () ↔
      ((previous.toList ++ (rs.drop index).map (·.1)).Pairwise (· < ·) ∧
        ∀ r ∈ rs.drop index, r.2.bytes ≠ List.replicate 32 0)) := by
  intro remaining
  induction remaining generalizing previous with
  | zero =>
    intro index hidx
    have hnil : rs.drop index = [] := List.drop_eq_nil_of_le (by omega)
    cases previous <;> simp [validateFrom, hnil]
  | succ remaining ih =>
    intro index hidx
    have hi : index < rs.length := by omega
    have hdrop : rs.drop index = rs[index] :: rs.drop (index + 1) := List.drop_eq_getElem_cons hi
    have hnext := ih (some rs[index].1) (index + 1) (by omega)
    simp only [validateFrom, readRecordAt_image h index hi, ite_err_eq_ok, hnext]
    rw [hdrop]
    simp only [List.map_cons, Option.toList_some, List.singleton_append, List.mem_cons,
      forall_eq_or_imp]
    -- what is left is the order of the first two IDs
    rcases previous with _ | last
    · simp only [Option.any_none, Bool.false_eq_true, not_false_eq_true, true_and,
        Option.toList_none, List.nil_append]
      refine ⟨?_, ?_⟩
      · rintro ⟨hdigest, hpair, hdigests⟩
        exact ⟨hpair, hdigest, hdigests⟩
      · rintro ⟨hpair, hdigest, hdigests⟩
        exact ⟨hdigest, hpair, hdigests⟩
    · simp only [Option.any_some, decide_eq_true_eq, UInt64.not_le, Option.toList_some,
        List.singleton_append, List.pairwise_cons, List.mem_cons, forall_eq_or_imp]
      refine ⟨?_, ?_⟩
      · rintro ⟨hlast, hdigest, ⟨hfirst, hrest⟩, hdigests⟩
        exact ⟨⟨⟨hlast, fun b hb => UInt64.lt_trans hlast (hfirst b hb)⟩, hfirst, hrest⟩,
          hdigest, hdigests⟩
      · rintro ⟨⟨⟨hlast, -⟩, hfirst, hrest⟩, hdigest, hdigests⟩
        exact ⟨hlast, hdigest, ⟨hfirst, hrest⟩, hdigests⟩

/-- **Validate** accepts exactly strictly increasing IDs with nonzero digests. -/
theorem validate_image (h : Image log.file rs) (hcount : log.count = rs.length) :
    log.validate = .ok () ↔
      ((rs.map (·.1)).Pairwise (· < ·) ∧ ∀ r ∈ rs, r.2.bytes ≠ List.replicate 32 0) := by
  have hlen : ¬ log.file.len < min (identityLogHeaderBytes
      + min (log.count * identityLogRecordBytes) u64Max) u64Max := by
    have := log.committed_le
    omega
  unfold validate
  rw [if_neg hlen, hcount]
  simpa using validateFrom_image h none rs.length 0 (by omega)

end TradeIdentityLog

end LobReplay
