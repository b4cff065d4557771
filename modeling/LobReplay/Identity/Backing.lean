/-
  The identity log as a map from trade IDs to digest texts. A lowercase digest survives the log
  unchanged (`exists_digest_of_isLowerHex64`), and `Backs log rs` says that a log in use holds
  exactly the records `rs`.
-/

import LobReplay.Hex
import LobReplay.Identity.Crash

namespace LobReplay

open Foundation

/-! ## Lowercase digests -/

/-- A lowercase digit is written again from its nibble. -/
theorem hexByte_nibble {b : UInt8} (h : isLowerHexdigit b = true) :
    (nibble b).toNat < 16 ∧ hexByte (nibble b).toNat = b := by
  have hall : ∀ n : Fin 256, isLowerHexdigit (UInt8.ofNat n) = true →
      (nibble (UInt8.ofNat n)).toNat < 16 ∧
        hexByte (nibble (UInt8.ofNat n)).toNat = UInt8.ofNat n := by
    decide +kernel
  have hb := hall ⟨b.toNat, b.toNat_lt⟩
  rw [UInt8.ofNat_toNat] at hb
  exact hb h

variable {high low : UInt8}

theorem toNat_nibbles (hhigh : high.toNat < 16) (hlow : low.toNat < 16) :
    ((high <<< 4) ||| low).toNat = 16 * high.toNat + low.toNat := by
  have hshift : (high <<< 4).toNat = 2 ^ 4 * high.toNat := by
    rw [UInt8.toNat_shiftLeft]
    show high.toNat <<< 4 % 256 = _
    rw [Nat.shiftLeft_eq]
    omega
  rw [UInt8.toNat_or, hshift, ← Nat.two_pow_add_eq_or_of_lt hlow]

/-- A byte put together from two nibbles is written as their two digits. -/
theorem hexPair_nibbles (hhigh : isLowerHexdigit high = true) (hlow : isLowerHexdigit low = true) :
    hexPair ((nibble high <<< 4) ||| nibble low) = [high, low] := by
  obtain ⟨hh, hhb⟩ := hexByte_nibble hhigh
  obtain ⟨hl, hlb⟩ := hexByte_nibble hlow
  have hdiv : (16 * (nibble high).toNat + (nibble low).toNat) / 16 = (nibble high).toNat := by
    omega
  have hmod : (16 * (nibble high).toNat + (nibble low).toNat) % 16 = (nibble low).toNat := by
    omega
  rw [hexPair, toNat_nibbles hh hl, hdiv, hmod, hhb, hlb]

/-- Decoding pairs of lowercase digits and writing them again is the identity. -/
theorem flatMap_hexPair_nibblePairs : ∀ (n : Nat) (text : Bytes), text.length = 2 * n →
    text.all isLowerHexdigit = true → (nibblePairs text).flatMap hexPair = text
  | 0, [], _, _ => rfl
  | n + 1, high :: low :: rest, hlength, hall => by
    simp only [List.all_cons, Bool.and_eq_true] at hall
    obtain ⟨hhigh, hlow, hrest⟩ := hall
    have hlen : rest.length = 2 * n := by
      simp only [List.length_cons] at hlength
      omega
    rw [nibblePairs, List.flatMap_cons, hexPair_nibbles hhigh hlow,
      flatMap_hexPair_nibblePairs n rest hlen hrest]
    rfl
  | 0, _ :: _, h, _ => by simp at h
  | _ + 1, [], h, _ => by simp at h
  | _ + 1, [_], h, _ => by
    simp only [List.length_cons, List.length_nil] at h
    omega

/-- **Digests.** A 64-character lowercase digest is decoded, and `hex_encode_32`
    writes it back as it was. -/
theorem exists_digest_of_isLowerHex64 {text : String} (h : isLowerHex64 text = true) :
    ∃ digest, hexDecode32 text = .ok digest ∧ hexEncode32 digest = text := by
  simp only [isLowerHex64, Bool.and_eq_true, beq_iff_eq] at h
  obtain ⟨hlength, hlower⟩ := h
  have hhex : (asBytes text).all isAsciiHexdigit = true := by
    rw [List.all_eq_true] at hlower ⊢
    intro b hb
    have := hlower b hb
    rw [isAsciiHexdigit, this, Bool.true_or]
  refine ⟨_, dif_pos ⟨hlength, hhex⟩, ?_⟩
  apply asBytes_injective
  rw [hexEncode32, asBytes_hex]
  exact flatMap_hexPair_nibblePairs 32 _ hlength hlower

/-! ## A log in use -/

namespace TradeIdentityLog

/-- `log` holds exactly the records `rs`, in increasing order of their IDs, with
    nothing behind them. -/
structure Backs (log : TradeIdentityLog) (rs : List IdentityRecord) : Prop where
  bytes : ∃ header : Bytes, header.length = identityLogHeaderBytes ∧
    log.file.bytes = header ++ encodeRecords rs
  count : log.count = rs.length
  sorted : rs.Pairwise fun a b => a.1 < b.1
  last : log.lastId = rs.getLast?.map (·.1)

theorem backs_create : Backs create [] :=
  ⟨⟨headerBytes 0, headerBytes_length 0, rfl⟩, rfl, List.Pairwise.nil, rfl⟩

variable {log : TradeIdentityLog} {rs : List IdentityRecord} {id : UInt64}

theorem Backs.lt_of_last_lt (h : Backs log rs) (habove : ∀ last ∈ log.lastId, last < id) :
    ∀ r ∈ rs, r.1 < id := by
  intro r hr
  obtain ⟨last, hlast⟩ : ∃ last, rs.getLast? = some last :=
    ⟨_, List.getLast?_eq_some_getLast (List.ne_nil_of_mem hr)⟩
  have hid : last.1 < id := habove last.1 (by rw [h.last, hlast]; rfl)
  obtain ⟨front, rfl⟩ := List.getLast?_eq_some_iff.mp hlast
  rcases List.mem_append.mp hr with hfront | hend
  · have hlt := (List.pairwise_append.mp h.sorted).2.2 r hfront last (List.mem_singleton_self _)
    exact UInt64.lt_trans hlt hid
  · rw [List.mem_singleton.mp hend]
    exact hid

/-- **Insert.** An insert above the last ID with a lowercase digest adds one record,
    or the file is full. -/
theorem Backs.insert (h : Backs log rs) {digestHex : String}
    (habove : ∀ last ∈ log.lastId, last < id) (hdigest : isLowerHex64 digestHex = true) :
    (∃ log', log.insert id digestHex
      = (err "write trade identity record: file too large", log')) ∨
    ∃ log' digest, log.insert id digestHex = (.ok (), log') ∧
      hexEncode32 digest = digestHex ∧ Backs log' (rs ++ [(id, digest)]) := by
  obtain ⟨digest, hdecode, hencode⟩ := exists_digest_of_isLowerHex64 hdigest
  obtain ⟨header, hheader, hbytes⟩ := h.bytes
  have hbelow := h.lt_of_last_lt habove
  rcases insert_cases digestHex habove with ⟨e, hbad, -⟩ | ⟨digest', hok,
    ⟨-, log', hins, hfile, hcount, hlast, -⟩ | ⟨-, log', -, hins, -⟩⟩
  · rw [hdecode] at hbad
    cases hbad
  · obtain rfl : digest = digest' := Except.ok.inj (hdecode.symm.trans hok)
    refine .inr ⟨log', digest, hins, hencode, ⟨header, hheader, ?_⟩, ?_, ?_, ?_⟩
    · rw [hfile, hbytes, encodeRecords_append, encodeRecords_cons, encodeRecords_nil,
        List.append_nil, List.append_assoc]
    · rw [hcount, h.count, List.length_append, List.length_singleton]
    · refine List.pairwise_append.mpr ⟨h.sorted, List.pairwise_singleton _ _, ?_⟩
      intro r hr new hnew
      rw [List.mem_singleton.mp hnew]
      exact hbelow r hr
    · rw [hlast, List.getLast?_concat]
      rfl
  · exact .inl ⟨log', hins⟩

/-- **Sync** rewrites the header only. -/
theorem Backs.sync (h : Backs log rs) : Backs log.sync rs := by
  obtain ⟨header, hheader, hbytes⟩ := h.bytes
  unfold TradeIdentityLog.sync
  split
  · refine ⟨⟨headerBytes log.count, headerBytes_length _, ?_⟩, h.count, h.sorted, h.last⟩
    show headerBytes log.count ++ log.file.bytes.drop (headerBytes log.count).length = _
    rw [hbytes, headerBytes_length, List.drop_left' hheader]
  · exact h

/-- **Lookup** in the list of records. -/
theorem Backs.lookup (h : Backs log rs) (id : UInt64) :
    (∀ r ∈ rs, r.1 = id → log.lookup id = .ok (some (hexEncode32 r.2))) ∧
    ((∀ r ∈ rs, r.1 ≠ id) → log.lookup id = .ok none) := by
  obtain ⟨header, hheader, hbytes⟩ := h.bytes
  have himage : Image log.file rs := ⟨header, [], hheader, by rw [hbytes, List.append_nil]⟩
  exact lookup_image himage h.count h.sorted id

end TradeIdentityLog

end LobReplay
