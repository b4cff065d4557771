/-
  The multicast framing of cpp/net/src/mcast_feed.cpp: `parse_frame` and `encode_frame`, a header of
  25 bytes and the payload.

  The integrity field is the FNV-1a hash of the payload, and zero in it stands for "no integrity".
  So a payload whose hash is zero is sent without integrity, and every change of it goes unnoticed.
-/

import LobReplay.Foundation.Fnv
import LobReplay.Foundation.Words
import LobReplay.Net.SequencedFeed

namespace LobReplay.Net

open Foundation

/-! ## The codec -/

def frameVersion : UInt8 := 1

def frameHeaderLen : Nat := 25

/-- `parse_frame` on `data[0..len)`. -/
def parseFrame (data : Bytes) : Option FeedMessage :=
  if data.length < frameHeaderLen then none
  else if byteAt data 0 ≠ frameVersion then none
  else
    let plen := (rd16 (data.drop 19)).toNat
    if data.length < frameHeaderLen + plen then none
    else
      let integrity := rd32 (data.drop 21)
      let payload := (data.drop frameHeaderLen).take plen
      if 0 < plen ∧ integrity ≠ 0 ∧ integrity ≠ fnv1a32 payload then none
      else some {
        version := byteAt data 0
        type := ⟨byteAt data 1⟩
        sessionId := rd32 (data.drop 2)
        sequence := rd32 (data.drop 6)
        timestampDomain := ⟨byteAt data 10⟩
        timestampNs := rd64 (data.drop 11)
        payload }

/-- The header `encode_frame` writes. -/
def encodeHeader (m : FeedMessage) : Bytes :=
  [m.version, m.type.code] ++ (wr32 m.sessionId ++ (wr32 m.sequence ++ ([m.timestampDomain.code] ++
    (wr64 m.timestampNs ++ (wr16 (UInt16.ofNat m.payload.length) ++
      wr32 (if 0 < m.payload.length then fnv1a32 m.payload else 0))))))

def encodeFrame (m : FeedMessage) : Bytes := encodeHeader m ++ m.payload

/-! ## Reading the header back -/

theorem encodeHeader_length (m : FeedMessage) : (encodeHeader m).length = frameHeaderLen := rfl

variable {m : FeedMessage}

/-- A frame with the header of `m`, and some bytes in the place of its payload. -/
theorem parseFrame_header (hversion : m.version = frameVersion) (hmax : m.payload.length ≤ 65535)
    {body : Bytes} (hbody : body.length = m.payload.length) (rest : Bytes) :
    parseFrame (encodeHeader m ++ (body ++ rest))
      = if 0 < m.payload.length ∧ fnv1a32 m.payload ≠ 0 ∧ fnv1a32 m.payload ≠ fnv1a32 body then none
        else some { m with payload := body } := by
  generalize hdata : encodeHeader m ++ (body ++ rest) = data
  have h0 : data.drop 0 = [m.version, m.type.code] ++ (wr32 m.sessionId ++ (wr32 m.sequence ++
      ([m.timestampDomain.code] ++ (wr64 m.timestampNs ++
        (wr16 (UInt16.ofNat m.payload.length) ++
          (wr32 (if 0 < m.payload.length then fnv1a32 m.payload else 0) ++ (body ++ rest))))))) := by
    rw [← hdata, List.drop_zero, encodeHeader]
    simp only [List.append_assoc]
  -- the fields, at their offsets
  have h1 : data.drop 1 = _ := @drop_next data [m.version] _ 0 1 h0 rfl
  have h2 : data.drop 2 = _ := drop_next h0 rfl
  have h6 : data.drop 6 = _ := drop_next h2 (wr32_length _)
  have h10 : data.drop 10 = _ := drop_next h6 (wr32_length _)
  have h11 : data.drop 11 = _ := drop_next h10 rfl
  have h19 : data.drop 19 = _ := drop_next h11 (wr64_length _)
  have h21 : data.drop 21 = _ := drop_next h19 (wr16_length _)
  have h25 : data.drop 25 = _ := drop_next h21 (wr32_length _)
  have hlength : data.length = frameHeaderLen + (body.length + rest.length) := by
    rw [← hdata, List.length_append, encodeHeader_length, List.length_append]
  have hplen : (rd16 (data.drop 19)).toNat = m.payload.length := by
    rw [h19, rd16_wr16, UInt16.toNat_ofNat']
    omega
  have hpayload : (data.drop frameHeaderLen).take m.payload.length = body := by
    rw [frameHeaderLen, h25, ← hbody, List.take_left]
  have hfirst : byteAt data 0 = frameVersion := by
    rw [byteAt_of_drop h0, hversion]
  unfold parseFrame
  rw [if_neg (by omega), if_neg (not_not.mpr hfirst), hplen]
  dsimp only
  rw [if_neg (by omega), hpayload, h21, rd32_wr32, hfirst, byteAt_of_drop h1, h2, rd32_wr32, h6,
    rd32_wr32, byteAt_of_drop h10, h11, rd64_wr64, ← hversion]
  by_cases hempty : 0 < m.payload.length
  · rw [if_pos hempty]
  · rw [if_neg hempty, if_neg (fun h => hempty h.1), if_neg (fun h => hempty h.1)]

/-! ## Round trip and corruption -/

/-- What `encode_frame` writes is read back, whatever follows it. -/
theorem parseFrame_encodeFrame (hversion : m.version = frameVersion)
    (hmax : m.payload.length ≤ 65535) (rest : Bytes) :
    parseFrame (encodeFrame m ++ rest) = some m := by
  rw [encodeFrame, List.append_assoc, parseFrame_header hversion hmax rfl, if_neg]
  exact fun h => h.2.2 rfl

theorem encodeFrame_set (m : FeedMessage) (i : Nat) (b : UInt8) :
    (encodeFrame m).set (frameHeaderLen + i) b = encodeHeader m ++ (m.payload.set i b ++ []) := by
  rw [encodeFrame, List.set_append_right _ _ (by rw [encodeHeader_length]; omega),
    encodeHeader_length, Nat.add_sub_cancel_left, List.append_nil]

theorem fnv1a32_set_ne {payload : Bytes} {i : Nat} (hi : i < payload.length) {b : UInt8}
    (hb : b ≠ payload[i]) : fnv1a32 payload ≠ fnv1a32 (payload.set i b) := by
  have hsplit : payload = payload.take i ++ payload[i] :: payload.drop (i + 1) := by
    rw [← List.drop_eq_getElem_cons hi, List.take_append_drop]
  rw [List.set_eq_take_append_cons_drop, if_pos hi]
  conv_lhs => rw [hsplit]
  exact fnv1a32_ne_of_byte_ne _ _ (Ne.symm hb)

/-- **The frame codec.** Every message is read back, also with bytes behind its frame, and the
    changes of a single payload byte are all rejected exactly when the hash of the payload is
    not zero. -/
theorem frame_codec (m : FeedMessage) (hversion : m.version = frameVersion)
    (hmax : m.payload.length ≤ 65535) :
    (∀ rest, parseFrame (encodeFrame m ++ rest) = some m) ∧
    (m.payload ≠ [] →
      ((∀ (i : Fin m.payload.length) (b : UInt8), b ≠ m.payload[i] →
          parseFrame ((encodeFrame m).set (frameHeaderLen + i) b) = none) ↔
        fnv1a32 m.payload ≠ 0)) := by
  refine ⟨parseFrame_encodeFrame hversion hmax, fun hsome => ?_⟩
  have hpos : 0 < m.payload.length := List.length_pos_iff.mpr hsome
  have hparse : ∀ (i : Fin m.payload.length) (b : UInt8), b ≠ m.payload[i] →
      parseFrame ((encodeFrame m).set (frameHeaderLen + i) b)
        = if fnv1a32 m.payload ≠ 0 then none else some { m with payload := m.payload.set i b } := by
    intro i b hb
    rw [encodeFrame_set, parseFrame_header hversion hmax (List.length_set ..)]
    have hne := fnv1a32_set_ne i.isLt hb
    simp only [hpos, hne, ne_eq, not_false_eq_true, and_true, true_and]
  constructor
  · -- some other byte stands in the first place of the changed frame
    intro hrejected hzero
    have hb : m.payload[(⟨0, hpos⟩ : Fin _)] + 1 ≠ m.payload[(⟨0, hpos⟩ : Fin _)] := by
      intro heq
      have hsum := congrArg UInt8.toNat heq
      simp only [UInt8.toNat_add, UInt8.reduceToNat] at hsum
      omega
    have hnone := hrejected ⟨0, hpos⟩ _ hb
    rw [hparse _ _ hb, if_neg (not_not.mpr hzero)] at hnone
    cases hnone
  · intro hhash i b hb
    rw [hparse i b hb, if_pos hhash]

/-- A heartbeat. -/
def sampleMessage : FeedMessage := { sessionId := 7, sequence := 41, payload := [1, 2, 3] }

theorem sampleMessage_is_guarded :
    parseFrame (encodeFrame sampleMessage ++ [255]) = some sampleMessage ∧
    ∀ (i : Fin sampleMessage.payload.length) (b : UInt8), b ≠ sampleMessage.payload[i] →
      parseFrame ((encodeFrame sampleMessage).set (frameHeaderLen + i) b) = none := by
  obtain ⟨hread, hguarded⟩ := frame_codec sampleMessage rfl (by decide)
  exact ⟨hread [255], (hguarded (by decide)).mpr (by decide)⟩

def zeroHashMessage : FeedMessage := { payload := [0xcc, 0x24, 0x31, 0xc4] }

/-- Its first byte is changed, and the frame is accepted. -/
theorem changed_zero_hash_frame_is_accepted :
    zeroHashMessage.version = frameVersion ∧ zeroHashMessage.payload.length ≤ 65535 ∧
    ¬ ∀ (i : Fin zeroHashMessage.payload.length) (b : UInt8), b ≠ zeroHashMessage.payload[i] →
      parseFrame ((encodeFrame zeroHashMessage).set (frameHeaderLen + i) b) = none := by
  refine ⟨rfl, by decide, fun hrejected => ?_⟩
  have hnone := hrejected ⟨0, by decide⟩ 0 (by decide)
  have hsome : (parseFrame ((encodeFrame zeroHashMessage).set (frameHeaderLen + 0) 0)).isSome
      = true := by decide +kernel
  rw [hnone] at hsome
  cases hsome

end LobReplay.Net
