/-
  The inbound codec of OUCH 5.0 (cpp/ouch/src/ouch_codec.cpp): `encode_enter`, `encode_replace` and
  `encode_cancel`, and the decoder `decode_inbound` with its three layouts. `std::string` is a byte
  string, `char` a byte.

  The decoder writes one member of the `Inbound` it is given and leaves the others as they were, so
  it takes that value and returns the new one.
-/

import LobReplay.Foundation.Words
import LobReplay.Ouch.Session

namespace LobReplay.Ouch.Codec

open Foundation

/-! ## Messages -/

/-- `EnterOrder`, all fields. -/
structure EnterOrder extends Ouch.EnterOrder where
  symbol : Bytes
  timeInForce : UInt8
  display : UInt8
  capacity : UInt8
  intermktSweep : UInt8
  crossType : UInt8
  clOrdId : Bytes
  appendageLen : UInt16
  appendage : Bytes
  deriving DecidableEq

/-- `ReplaceOrder`, all fields. -/
structure ReplaceOrder extends Ouch.ReplaceOrder where
  timeInForce : UInt8
  display : UInt8
  intermktSweep : UInt8
  clOrdId : Bytes
  appendageLen : UInt16
  appendage : Bytes
  deriving DecidableEq

/-- `CancelOrder`, all fields. -/
structure CancelOrder extends Ouch.CancelOrder where
  appendageLen : UInt16
  appendage : Bytes
  deriving DecidableEq

inductive InboundType where
  | enter
  | replace
  | cancel
  deriving DecidableEq

/-- `Inbound`: the type says which of the three messages was decoded last. -/
structure Inbound where
  type : InboundType
  enter : EnterOrder
  replace : ReplaceOrder
  cancel : CancelOrder
  deriving DecidableEq

inductive DecodeStatus where
  | ok
  | truncated
  | unknownType
  deriving DecidableEq

/-- `' '`. -/
def space : UInt8 := 0x20

/-- `alpha_pad`: left justified, padded with spaces; a longer text is not cut. -/
def alphaPad (s : Bytes) (width : Nat) : Bytes := s ++ List.replicate (width - s.length) space

/-- `alpha_trimmed`: the first `n` bytes less their trailing spaces. -/
def alphaTrimmed (p : Bytes) : Nat → Bytes
  | 0 => []
  | n + 1 => if byteAt p n = space then alphaTrimmed p n else p.take (n + 1)

/-! ## Encoding -/

/-- `m.quantity == 0 || m.quantity >= 1'000'000`. -/
def badQuantity (quantity : UInt32) : Prop := quantity = 0 ∨ 1000000 ≤ quantity

instance (quantity : UInt32) : Decidable (badQuantity quantity) :=
  inferInstanceAs (Decidable (_ ∨ _))

def encodeEnter (m : EnterOrder) : Option Bytes :=
  if badQuantity m.quantity then none
  else some ([0x4F] ++ (wr32 m.userRefNum ++ ([m.side] ++ (wr32 m.quantity ++
    (alphaPad m.symbol 8 ++ (wr64 m.price ++ ([m.timeInForce] ++ ([m.display] ++
    ([m.capacity] ++ ([m.intermktSweep] ++ ([m.crossType] ++ (alphaPad m.clOrdId 14 ++
    (wr16 m.appendageLen ++ m.appendage)))))))))))))

def encodeReplace (m : ReplaceOrder) : Option Bytes :=
  if badQuantity m.quantity then none
  else some ([0x55] ++ (wr32 m.origUserRefNum ++ (wr32 m.userRefNum ++ (wr32 m.quantity ++
    (wr64 m.price ++ ([m.timeInForce] ++ ([m.display] ++ ([m.intermktSweep] ++
    (alphaPad m.clOrdId 14 ++ (wr16 m.appendageLen ++ m.appendage))))))))))

def encodeCancel (m : CancelOrder) : Option Bytes :=
  some ([0x58] ++ (wr32 m.userRefNum ++ (wr32 m.quantity ++
    (wr16 m.appendageLen ++ m.appendage))))

/-! ## Decoding -/

/-- The fields of an `O` message, base 47 bytes. -/
def decodeEnter (data : Bytes) : EnterOrder where
  userRefNum := rd32 (data.drop 1)
  side := byteAt data 5
  quantity := rd32 (data.drop 6)
  symbol := alphaTrimmed (data.drop 10) 8
  price := rd64 (data.drop 18)
  timeInForce := byteAt data 26
  display := byteAt data 27
  capacity := byteAt data 28
  intermktSweep := byteAt data 29
  crossType := byteAt data 30
  clOrdId := alphaTrimmed (data.drop 31) 14
  appendageLen := rd16 (data.drop 45)
  appendage := data.drop 47

/-- The fields of a `U` message, base 40 bytes. -/
def decodeReplace (data : Bytes) : ReplaceOrder where
  origUserRefNum := rd32 (data.drop 1)
  userRefNum := rd32 (data.drop 5)
  quantity := rd32 (data.drop 9)
  price := rd64 (data.drop 13)
  timeInForce := byteAt data 21
  display := byteAt data 22
  intermktSweep := byteAt data 23
  clOrdId := alphaTrimmed (data.drop 24) 14
  appendageLen := rd16 (data.drop 38)
  appendage := data.drop 40

/-- The fields of an `X` message, base 11 bytes: an appendage is read where there is more. -/
def decodeCancel (data : Bytes) : CancelOrder where
  userRefNum := rd32 (data.drop 1)
  quantity := rd32 (data.drop 5)
  appendageLen := if data.length = 11 then 0 else rd16 (data.drop 9)
  appendage := if data.length = 11 then [] else data.drop 11

/-- `decode_inbound`, into `out`. -/
def decodeInbound (data : Bytes) (out : Inbound) : DecodeStatus × Inbound :=
  if data.length < 1 then (.truncated, out)
  else if byteAt data 0 = 0x4F then
    if data.length < 47 then (.truncated, out)
    else (.ok, { out with type := .enter, enter := decodeEnter data })
  else if byteAt data 0 = 0x55 then
    if data.length < 40 then (.truncated, out)
    else (.ok, { out with type := .replace, replace := decodeReplace data })
  else if byteAt data 0 = 0x58 then
    if data.length < 11 then (.truncated, out)
    -- "dangling byte"
    else if data.length = 12 then (.truncated, out)
    else (.ok, { out with type := .cancel, cancel := decodeCancel data })
  else (.unknownType, out)

/-! ## Padded alphas -/

/-- At most `width` characters, and no trailing space. -/
def AlphaOk (s : Bytes) (width : Nat) : Prop := s.length ≤ width ∧ s.getLast? ≠ some space

instance (s : Bytes) (width : Nat) : Decidable (AlphaOk s width) :=
  inferInstanceAs (Decidable (_ ∧ _))

variable {s data : Bytes} {width : Nat} {m : CancelOrder}

theorem alphaPad_length (h : s.length ≤ width) : (alphaPad s width).length = width := by
  rw [alphaPad, List.length_append, List.length_replicate]
  omega

theorem alphaTrimmed_self (h : s.getLast? ≠ some space) (rest : Bytes) :
    alphaTrimmed (s ++ rest) s.length = s := by
  rcases List.eq_nil_or_concat s with rfl | ⟨front, last, rfl⟩
  · rfl
  · rw [List.concat_eq_append] at h ⊢
    have hlast : byteAt (front ++ [last] ++ rest) front.length = last := by
      simp [byteAt]
    rw [List.getLast?_concat, ne_eq, Option.some.injEq] at h
    rw [List.length_append, List.length_singleton, alphaTrimmed, hlast, if_neg h]
    exact List.take_left' (by simp)

/-- Trimming takes the padding off again. -/
theorem alphaTrimmed_alphaPad (h : AlphaOk s width) (rest : Bytes) :
    alphaTrimmed (alphaPad s width ++ rest) width = s := by
  obtain ⟨k, rfl⟩ := Nat.exists_eq_add_of_le h.1
  rw [alphaPad, Nat.add_sub_cancel_left]
  -- the induction is on the number of spaces still to trim; what follows them varies
  induction k generalizing rest with
  | zero => simpa using alphaTrimmed_self h.2 rest
  | succ k ih =>
    have hspace : byteAt (s ++ List.replicate (k + 1) space ++ rest) (s.length + k) = space := by
      rw [byteAt, List.getD_eq_getElem?_getD, List.append_assoc, List.getElem?_append_right (by omega),
        Nat.add_sub_cancel_left, List.getElem?_append_left (by simp), List.getElem?_replicate,
        if_pos (by omega)]
      rfl
    rw [← Nat.add_assoc, alphaTrimmed, if_pos hspace, List.replicate_succ', List.append_assoc,
      List.append_assoc, ← List.append_assoc s]
    exact ih ([space] ++ rest) ⟨by omega, h.2⟩

/-! ## Reading a layout back -/

/-- **Layout of `O`.** Each field is read at the offset it was written at. -/
theorem decodeEnter_encode (m : EnterOrder) (hsymbol : AlphaOk m.symbol 8)
    (hid : AlphaOk m.clOrdId 14) (h : encodeEnter m = some data) :
    47 ≤ data.length ∧ byteAt data 0 = 0x4F ∧ decodeEnter data = m := by
  rw [encodeEnter] at h
  split at h
  · cases h
  rw [Option.some.injEq] at h
  have h0 : data.drop 0 = _ := h.symm
  have h1 : data.drop 1 = _ := drop_next h0 rfl
  have h5 : data.drop 5 = _ := drop_next h1 (wr32_length _)
  have h6 : data.drop 6 = _ := drop_next h5 rfl
  have h10 : data.drop 10 = _ := drop_next h6 (wr32_length _)
  have h18 : data.drop 18 = _ := drop_next h10 (alphaPad_length hsymbol.1)
  have h26 : data.drop 26 = _ := drop_next h18 (wr64_length _)
  have h27 : data.drop 27 = _ := drop_next h26 rfl
  have h28 : data.drop 28 = _ := drop_next h27 rfl
  have h29 : data.drop 29 = _ := drop_next h28 rfl
  have h30 : data.drop 30 = _ := drop_next h29 rfl
  have h31 : data.drop 31 = _ := drop_next h30 rfl
  have h45 : data.drop 45 = _ := drop_next h31 (alphaPad_length hid.1)
  have h47 : data.drop 47 = _ := drop_next h45 (wr16_length _)
  refine ⟨?_, byteAt_of_drop h0, ?_⟩
  · have hlen := congrArg List.length h45
    rw [List.length_drop, List.length_append, wr16_length] at hlen
    omega
  · rw [decodeEnter, h1, h6, h10, h18, h31, h45, h47, byteAt_of_drop h5, byteAt_of_drop h26,
      byteAt_of_drop h27, byteAt_of_drop h28, byteAt_of_drop h29, byteAt_of_drop h30]
    rw [rd32_wr32, rd32_wr32, alphaTrimmed_alphaPad hsymbol, rd64_wr64, alphaTrimmed_alphaPad hid,
      rd16_wr16]

/-- **Layout of `U`.** -/
theorem decodeReplace_encode (m : ReplaceOrder) (hid : AlphaOk m.clOrdId 14)
    (h : encodeReplace m = some data) :
    40 ≤ data.length ∧ byteAt data 0 = 0x55 ∧ decodeReplace data = m := by
  rw [encodeReplace] at h
  split at h
  · cases h
  rw [Option.some.injEq] at h
  have h0 : data.drop 0 = _ := h.symm
  have h1 : data.drop 1 = _ := drop_next h0 rfl
  have h5 : data.drop 5 = _ := drop_next h1 (wr32_length _)
  have h9 : data.drop 9 = _ := drop_next h5 (wr32_length _)
  have h13 : data.drop 13 = _ := drop_next h9 (wr32_length _)
  have h21 : data.drop 21 = _ := drop_next h13 (wr64_length _)
  have h22 : data.drop 22 = _ := drop_next h21 rfl
  have h23 : data.drop 23 = _ := drop_next h22 rfl
  have h24 : data.drop 24 = _ := drop_next h23 rfl
  have h38 : data.drop 38 = _ := drop_next h24 (alphaPad_length hid.1)
  have h40 : data.drop 40 = _ := drop_next h38 (wr16_length _)
  refine ⟨?_, byteAt_of_drop h0, ?_⟩
  · have hlen := congrArg List.length h38
    rw [List.length_drop, List.length_append, wr16_length] at hlen
    omega
  · rw [decodeReplace, h1, h5, h9, h13, h24, h38, h40, byteAt_of_drop h21, byteAt_of_drop h22,
      byteAt_of_drop h23]
    rw [rd32_wr32, rd32_wr32, rd32_wr32, rd64_wr64, alphaTrimmed_alphaPad hid, rd16_wr16]

/-- **Layout of `X`.** A cancel without appendage has the base length. -/
theorem decodeCancel_encode (m : CancelOrder) (hlen : m.appendage.length = m.appendageLen.toNat)
    (h : encodeCancel m = some data) :
    data.length = 11 + m.appendage.length ∧ byteAt data 0 = 0x58 ∧ decodeCancel data = m := by
  rw [encodeCancel, Option.some.injEq] at h
  have h0 : data.drop 0 = _ := h.symm
  have h1 : data.drop 1 = _ := drop_next h0 rfl
  have h5 : data.drop 5 = _ := drop_next h1 (wr32_length _)
  have h9 : data.drop 9 = _ := drop_next h5 (wr32_length _)
  have h11 : data.drop 11 = _ := drop_next h9 (wr16_length _)
  have hdata : data.length = 11 + m.appendage.length := by
    have h9len := congrArg List.length h9
    rw [List.length_drop, List.length_append, wr16_length] at h9len
    omega
  refine ⟨hdata, byteAt_of_drop h0, ?_⟩
  rw [decodeCancel, h1, h5, h9, h11, rd32_wr32, rd32_wr32, rd16_wr16]
  by_cases hbase : data.length = 11
  · -- nothing is read after the base, and nothing was written there
    have hnone : m.appendage = [] := List.eq_nil_of_length_eq_zero (by omega)
    have hzero : m.appendageLen = 0 := UInt16.toNat_inj.mp (by rw [← hlen, hnone]; rfl)
    rw [if_pos hbase, if_pos hbase, ← hnone, ← hzero]
  · rw [if_neg hbase, if_neg hbase]

/-! ## The round trip -/

inductive Message where
  | enter (m : EnterOrder)
  | replace (m : ReplaceOrder)
  | cancel (m : CancelOrder)
  deriving DecidableEq

def encode : Message → Option Bytes
  | .enter m => encodeEnter m
  | .replace m => encodeReplace m
  | .cancel m => encodeCancel m

/-- `out` with the message as what was decoded last. -/
def Inbound.holding (out : Inbound) : Message → Inbound
  | .enter m => { out with type := .enter, enter := m }
  | .replace m => { out with type := .replace, replace := m }
  | .cancel m => { out with type := .cancel, cancel := m }

/-- The quantity is in 1..999,999, the alphas fit their columns without trailing space, and the
    appendage has the length it is declared with. -/
def Admissible : Message → Prop
  | .enter m => 1 ≤ m.quantity ∧ m.quantity ≤ 999999 ∧ AlphaOk m.symbol 8 ∧
      AlphaOk m.clOrdId 14 ∧ m.appendage.length = m.appendageLen.toNat
  | .replace m => 1 ≤ m.quantity ∧ m.quantity ≤ 999999 ∧ AlphaOk m.clOrdId 14 ∧
      m.appendage.length = m.appendageLen.toNat
  | .cancel m => m.appendage.length = m.appendageLen.toNat

/-- The message is encoded, and decoding the bytes gives `Ok` with exactly this message. -/
def RoundTrips (message : Message) : Prop :=
  ∃ data, encode message = some data ∧
    ∀ out, decodeInbound data out = (.ok, out.holding message)

def OneByteCancel : Message → Prop
  | .cancel m => m.appendage.length = 1
  | _ => False

theorem not_badQuantity {quantity : UInt32} (hpos : 1 ≤ quantity) (hmax : quantity ≤ 999999) :
    ¬ badQuantity quantity := by
  rintro (rfl | hlarge)
  · exact absurd hpos (by decide)
  · rw [UInt32.le_iff_toNat_le] at hmax hlarge
    have h := Nat.le_trans hlarge hmax
    exact absurd h (by decide)

theorem roundTrips_enter {m : EnterOrder} (h : Admissible (.enter m)) :
    RoundTrips (.enter m) := by
  obtain ⟨hpos, hmax, hsymbol, hid, -⟩ := h
  have hencoded : encodeEnter m = some _ := if_neg (not_badQuantity hpos hmax)
  obtain ⟨hlen, htype, hdecoded⟩ := decodeEnter_encode m hsymbol hid hencoded
  refine ⟨_, hencoded, fun out => ?_⟩
  rw [decodeInbound, if_neg (by omega), if_pos htype, if_neg (by omega), hdecoded]
  rfl

theorem roundTrips_replace {m : ReplaceOrder} (h : Admissible (.replace m)) :
    RoundTrips (.replace m) := by
  obtain ⟨hpos, hmax, hid, -⟩ := h
  have hencoded : encodeReplace m = some _ := if_neg (not_badQuantity hpos hmax)
  obtain ⟨hlen, htype, hdecoded⟩ := decodeReplace_encode m hid hencoded
  refine ⟨_, hencoded, fun out => ?_⟩
  rw [decodeInbound, if_neg (by omega), htype, if_neg (by decide), if_pos rfl, if_neg (by omega),
    hdecoded]
  rfl

theorem decodeInbound_cancel (h : Admissible (.cancel m)) (hencoded : encodeCancel m = some data)
    (out : Inbound) :
    decodeInbound data out = if m.appendage.length = 1 then (.truncated, out)
      else (.ok, out.holding (.cancel m)) := by
  obtain ⟨hlen, htype, hdecoded⟩ := decodeCancel_encode m h hencoded
  rw [decodeInbound, if_neg (by omega), htype, if_neg (by decide), if_neg (by decide),
    if_pos rfl, if_neg (by omega), hdecoded]
  by_cases hone : m.appendage.length = 1
  · rw [if_pos (by omega), if_pos hone]
  · rw [if_neg (by omega), if_neg hone]
    rfl

/-- `Inbound{}`. -/
def Inbound.blank : Inbound where
  type := .enter
  enter := ⟨⟨0, 0, 0, 0⟩, [], 0, 0, 0, 0, 0, [], 0, []⟩
  replace := ⟨⟨0, 0, 0, 0⟩, 0, 0, 0, [], 0, []⟩
  cancel := ⟨⟨0, 0⟩, 0, []⟩

theorem not_roundTrips_cancel (h : Admissible (.cancel m)) (hone : m.appendage.length = 1) :
    ¬ RoundTrips (.cancel m) := by
  rintro ⟨data, hencoded, hdecoded⟩
  have hout := hdecoded .blank
  rw [decodeInbound_cancel h hencoded, if_pos hone] at hout
  cases hout

/-- **Round trip.** Decoding an encoded message gives the message back, unless it is a cancel with
    an appendage of one byte. -/
theorem round_trip_iff (message : Message) (h : Admissible message) :
    RoundTrips message ↔ ¬ OneByteCancel message := by
  cases message with
  | enter m => exact ⟨fun _ hone => hone, fun _ => roundTrips_enter h⟩
  | replace m => exact ⟨fun _ hone => hone, fun _ => roundTrips_replace h⟩
  | cancel m =>
    refine ⟨fun hback hone => not_roundTrips_cancel h hone hback, fun hone => ?_⟩
    refine ⟨_, rfl, fun out => ?_⟩
    rw [decodeInbound_cancel h rfl]
    exact if_neg hone

/-- 500 shares of NVDA, with an appendage of three bytes. -/
def sampleEnter : Message :=
  .enter ⟨⟨5, 0x42, 500, 9505000⟩, [0x4E, 0x56, 0x44, 0x41], 0x30, 0x59, 0x41, 0x4E, 0x4E,
    [0x63, 0x6C, 0x69, 0x64, 0x2D, 0x30, 0x30, 0x31], 3, [2, 1, 0x4E]⟩

theorem sampleEnter_round_trips : Admissible sampleEnter ∧ RoundTrips sampleEnter := by
  have h : Admissible sampleEnter := ⟨by decide, by decide, by decide, by decide, rfl⟩
  exact ⟨h, (round_trip_iff sampleEnter h).mpr fun hone => hone⟩

/-- A cancel of order 7 with an appendage of one byte. -/
def sampleCancel : CancelOrder := ⟨⟨7, 0⟩, 1, [0x41]⟩

/-- The decoder refuses what the encoder wrote. -/
theorem sampleCancel_is_truncated :
    Admissible (.cancel sampleCancel) ∧
      (∃ data, encode (.cancel sampleCancel) = some data ∧
        ∀ out, decodeInbound data out = (.truncated, out)) ∧
      ¬ RoundTrips (.cancel sampleCancel) := by
  have h : Admissible (.cancel sampleCancel) := rfl
  exact ⟨h, ⟨_, rfl, fun out => decodeInbound_cancel h rfl out⟩, not_roundTrips_cancel h rfl⟩

end LobReplay.Ouch.Codec
