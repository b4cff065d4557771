/-
  Messages laid out by the rules of the encoding, and what the decoder makes of them. A root block
  and the entries of a group may be longer than the schema's, and what follows begins behind the
  length they declare.

  The decoder follows the entries (`readEntries_encode`) and not the root block: behind a longer one
  it reads the padding as the header of the first group, or as the symbol.
-/

import LobReplay.Sbe.Decode

namespace LobReplay.Sbe

open Foundation (Bytes byteAt drop_next byteAt_of_drop)
open Foundation.LittleEndian

/-! ## Encoding -/

/-- A signed word. -/
def wrInt64 (v : Int64) : Bytes := wr64 v.toUInt64

/-- The bytes that pad each entry of a group, all of one length. -/
structure Padding where
  size : Nat
  bytes : Nat → Bytes
  bytes_length : ∀ i, (bytes i).length = size

/-- The entries of a group from the `i`-th on, each with its padding. -/
def encodeEntries {α : Type} (encode : α → Bytes) (padding : Padding) : Nat → List α → Bytes
  | _, [] => []
  | i, x :: xs => encode x ++ (padding.bytes i ++ encodeEntries encode padding (i + 1) xs)

/-- `messageHeader`. -/
def encodeHeader (blockLength : Nat) (templateId : UInt16) : Bytes :=
  wr16 (UInt16.ofNat blockLength) ++ (wr16 templateId ++ (wr16 schemaId ++ wr16 schemaVersion))

/-- `varString8`. -/
def encodeSymbol (symbol : Bytes) : Bytes := UInt8.ofNat symbol.length :: symbol

def encodeTrade (t : Trade) : Bytes :=
  wrInt64 t.id ++ (wrInt64 t.price.mantissa ++ (wrInt64 t.qty.mantissa ++ [t.isBuyerMaker]))

def encodeLevel (l : Level) : Bytes := wrInt64 l.price.mantissa ++ wrInt64 l.qty.mantissa

/-- A group of levels behind its `groupSize16Encoding`. -/
def encodeLevels (padding : Padding) (levels : List Level) : Bytes :=
  wr16 (UInt16.ofNat (grpLevel + padding.size)) ++
    (wr16 (UInt16.ofNat levels.length) ++ encodeEntries encodeLevel padding 0 levels)

/-- A group of trades behind its `groupSizeEncoding`. -/
def encodeTrades (padding : Padding) (trades : List Trade) : Bytes :=
  wr16 (UInt16.ofNat (grpTrade + padding.size)) ++
    (wr32 (UInt32.ofNat trades.length) ++ encodeEntries encodeTrade padding 0 trades)

namespace Payload

def type : Payload → MessageType
  | .trades _ => .tradesStreamEvent
  | .bestBidAsk _ => .bestBidAskStreamEvent
  | .depthSnapshot _ => .depthSnapshotStreamEvent
  | .depthDiff _ => .depthDiffStreamEvent

def templateId : Payload → UInt16
  | .trades _ => 10000
  | .bestBidAsk _ => 10001
  | .depthSnapshot _ => 10002
  | .depthDiff _ => 10003

def blockLength : Payload → Nat
  | .trades _ => blkTrades
  | .bestBidAsk _ => blkBestBidAsk
  | .depthSnapshot _ => blkSnapshot
  | .depthDiff _ => blkDiff

def entryLength : Payload → Nat
  | .trades _ => grpTrade
  | _ => grpLevel

def encodeRoot : Payload → Bytes
  | .trades m =>
    wrInt64 m.eventTimeUs ++ (wrInt64 m.transactTimeUs ++
      [m.priceExponent.toUInt8, m.qtyExponent.toUInt8])
  | .bestBidAsk m =>
    wrInt64 m.eventTimeUs ++ (wrInt64 m.bookUpdateId ++
      ([m.priceExponent.toUInt8, m.qtyExponent.toUInt8] ++ (wrInt64 m.bidPrice.mantissa ++
        (wrInt64 m.bidQty.mantissa ++ (wrInt64 m.askPrice.mantissa ++
          wrInt64 m.askQty.mantissa)))))
  | .depthSnapshot m =>
    wrInt64 m.eventTimeUs ++ (wrInt64 m.bookUpdateId ++
      [m.priceExponent.toUInt8, m.qtyExponent.toUInt8])
  | .depthDiff m =>
    wrInt64 m.eventTimeUs ++ (wrInt64 m.firstBookUpdateId ++ (wrInt64 m.lastBookUpdateId ++
      [m.priceExponent.toUInt8, m.qtyExponent.toUInt8]))

def encodeGroups (first second : Padding) : Payload → Bytes
  | .trades m => encodeTrades first m.trades ++ encodeSymbol m.symbol
  | .bestBidAsk m => encodeSymbol m.symbol
  | .depthSnapshot m => encodeLevels first m.bids ++ (encodeLevels second m.asks ++ encodeSymbol m.symbol)
  | .depthDiff m => encodeLevels first m.bids ++ (encodeLevels second m.asks ++ encodeSymbol m.symbol)

/-- The levels share the exponents of the message and fit the count. -/
def LevelsValid (priceExponent qtyExponent : Int8) (levels : List Level) : Prop :=
  levels.length < 2 ^ 16 ∧
    ∀ l ∈ levels, l.price.exponent = priceExponent ∧ l.qty.exponent = qtyExponent

/-- A message of the schema: its decimals share the exponents, its groups fit their counts and
    its symbol its length, and the constant field has its value. -/
def Valid : Payload → Prop
  | .trades m =>
    m.symbol.length ≤ 255 ∧ m.trades.length < 2 ^ 32 ∧
      ∀ t ∈ m.trades, t.price.exponent = m.priceExponent ∧ t.qty.exponent = m.qtyExponent ∧
        t.isBestMatch = 1
  | .bestBidAsk m =>
    m.symbol.length ≤ 255 ∧ m.bidPrice.exponent = m.priceExponent ∧
      m.bidQty.exponent = m.qtyExponent ∧ m.askPrice.exponent = m.priceExponent ∧
      m.askQty.exponent = m.qtyExponent
  | .depthSnapshot m =>
    m.symbol.length ≤ 255 ∧ LevelsValid m.priceExponent m.qtyExponent m.bids ∧
      LevelsValid m.priceExponent m.qtyExponent m.asks
  | .depthDiff m =>
    m.symbol.length ≤ 255 ∧ LevelsValid m.priceExponent m.qtyExponent m.bids ∧
      LevelsValid m.priceExponent m.qtyExponent m.asks

/-- What `decode` returns for the message. -/
def decoded (p : Payload) : Decoded := ⟨p.type, p.templateId, schemaId, schemaVersion, p⟩

end Payload

structure Message where
  payload : Payload
  valid : payload.Valid

/-- An encoding with the root block length: the padding of the root block and of the groups. -/
structure Encoding (p : Payload) (rootLength : Nat) where
  root : Bytes
  first : Padding
  second : Padding
  root_length : p.blockLength + root.length = rootLength
  first_fits : p.entryLength + first.size < 2 ^ 16
  second_fits : p.entryLength + second.size < 2 ^ 16

def Encoding.bytes {p : Payload} {rootLength : Nat} (e : Encoding p rootLength) : Bytes :=
  encodeHeader rootLength p.templateId ++ (p.encodeRoot ++ (e.root ++ p.encodeGroups e.first e.second))

/-! ## Reading what was written -/

section

variable {data rest : Bytes} {k : Nat} {n : Nat}

theorem rdInt64_of_drop {v : Int64} (h : data.drop k = wrInt64 v ++ rest) : rdInt64 data k = v := by
  rw [rdInt64, h, wrInt64, rd64_wr64, Int64.toInt64_toUInt64]

theorem rdInt8_of_drop {v : Int8} (h : data.drop k = v.toUInt8 :: rest) : rdInt8 data k = v := by
  rw [rdInt8, byteAt_of_drop h, Int8.toInt8_toUInt8]

theorem rd16_of_drop (hn : n < 2 ^ 16) (h : data.drop k = wr16 (UInt16.ofNat n) ++ rest) :
    (rd16 (data.drop k)).toNat = n := by
  rw [h, rd16_wr16, UInt16.toNat_ofNat_of_lt' hn]

theorem rd32_of_drop (hn : n < 2 ^ 32) (h : data.drop k = wr32 (UInt32.ofNat n) ++ rest) :
    (rd32 (data.drop k)).toNat = n := by
  rw [h, rd32_wr32, UInt32.toNat_ofNat_of_lt' hn]

@[simp] theorem wrInt64_length (v : Int64) : (wrInt64 v).length = 8 := rfl

theorem readVarString_encode {symbol : Bytes} (hmax : symbol.length ≤ 255)
    (h : data.drop k = encodeSymbol symbol ++ rest) : readVarString data k = .ok symbol := by
  have hlength := congrArg List.length h
  rw [List.length_drop, List.length_append, encodeSymbol, List.length_cons] at hlength
  have hn : (byteAt data k).toNat = symbol.length := by
    rw [byteAt_of_drop h, UInt8.toNat_ofNat_of_lt' (Nat.lt_succ_of_le hmax)]
  have hbody : data.drop (k + 1) = symbol ++ rest :=
    @drop_next data [UInt8.ofNat symbol.length] _ _ 1 h rfl
  unfold readVarString
  rw [if_neg (by omega), hn, if_neg (by omega), hbody, List.take_left]

end

/-! ## Groups -/

section

variable {α : Type} {read : Bytes → Nat → α} {encode : α → Bytes} {width : Nat} {padding : Padding}
  {xs : List α} {pos : Nat}

section

variable (hwidth : ∀ x, (encode x).length = width)
include hwidth

theorem encodeEntries_length (i : Nat) (xs : List α) :
    (encodeEntries encode padding i xs).length = xs.length * (width + padding.size) := by
  induction xs generalizing i with
  | nil => rw [encodeEntries, List.length_nil, List.length_nil, Nat.zero_mul]
  | cons x xs ih =>
    rw [encodeEntries, List.length_append, List.length_append, hwidth, padding.bytes_length, ih,
      List.length_cons, Nat.succ_mul]
    omega

/-- Entry after entry, the block length of the group apart. -/
theorem readEntries_encode {data rest : Bytes}
    (hread : ∀ x ∈ xs, ∀ k rest, data.drop k = encode x ++ rest → read data k = x) {i : Nat}
    (h : data.drop pos = encodeEntries encode padding i xs ++ rest) :
    readEntries read data (width + padding.size) xs.length pos
      = (xs, pos + xs.length * (width + padding.size)) := by
  induction xs generalizing i pos with
  | nil => rw [List.length_nil, readEntries, Nat.zero_mul, Nat.add_zero]
  | cons x xs ih =>
    rw [encodeEntries, List.append_assoc, List.append_assoc] at h
    have hentry := hread x List.mem_cons_self pos _ h
    have hnext : data.drop (pos + (width + padding.size))
        = encodeEntries encode padding (i + 1) xs ++ rest := by
      rw [← Nat.add_assoc]
      exact drop_next (drop_next h (hwidth x)) (padding.bytes_length i)
    have hrest := ih (fun y hy => hread y (List.mem_cons_of_mem _ hy)) hnext
    rw [List.length_cons, readEntries, hrest, hentry, Nat.succ_mul]
    dsimp only
    rw [Nat.add_assoc, Nat.add_comm (width + padding.size)]

theorem readGroup_encode (hpos : 0 < width) {data rest : Bytes}
    (hread : ∀ x ∈ xs, ∀ k rest, data.drop k = encode x ++ rest → read data k = x)
    (h : data.drop pos = encodeEntries encode padding 0 xs ++ rest) :
    readGroup read width data (width + padding.size) xs.length pos
        = .ok (xs, pos + xs.length * (width + padding.size)) ∧
      data.drop (pos + xs.length * (width + padding.size)) = rest := by
  have hlength := congrArg List.length h
  rw [List.length_drop, List.length_append, encodeEntries_length hwidth] at hlength
  refine ⟨?_, drop_next h (encodeEntries_length hwidth 0 xs)⟩
  unfold readGroup
  rw [if_neg (by omega), if_neg, readEntries_encode hwidth hread h]
  rw [Nat.not_lt, Nat.le_div_iff_mul_le (by omega), hlength]
  exact Nat.le_add_right _ _

end

end

theorem encodeLevel_length (l : Level) : (encodeLevel l).length = grpLevel := rfl

theorem encodeTrade_length (t : Trade) : (encodeTrade t).length = grpTrade := rfl

variable {priceExponent qtyExponent : Int8} {data rest : Bytes} {p : Payload} {rootLength : Nat}
  {k pos : Nat} {symbol : Bytes} {first second : Padding}

theorem readLevel_encode {l : Level}
    (hexp : l.price.exponent = priceExponent ∧ l.qty.exponent = qtyExponent)
    (h : data.drop k = encodeLevel l ++ rest) : readLevel priceExponent qtyExponent data k = l := by
  rw [encodeLevel, List.append_assoc] at h
  have hqty : data.drop (k + 8) = _ := drop_next h (wrInt64_length _)
  rw [readLevel, rdInt64_of_drop h, rdInt64_of_drop hqty, ← hexp.1, ← hexp.2]

theorem readTrade_encode {t : Trade}
    (hexp : t.price.exponent = priceExponent ∧ t.qty.exponent = qtyExponent ∧ t.isBestMatch = 1)
    (h : data.drop k = encodeTrade t ++ rest) : readTrade priceExponent qtyExponent data k = t := by
  simp only [encodeTrade, List.append_assoc] at h
  have hprice : data.drop (k + 8) = _ := drop_next h (wrInt64_length _)
  have hqty : data.drop (k + 8 + 8) = _ := drop_next hprice (wrInt64_length _)
  have hmaker : data.drop (k + 8 + 8 + 8) = _ := drop_next hqty (wrInt64_length _)
  rw [readTrade, rdInt64_of_drop h, rdInt64_of_drop hprice, rdInt64_of_drop hqty,
    byteAt_of_drop hmaker, ← hexp.1, ← hexp.2.1, ← hexp.2.2]

theorem readLevels_encode {levels : List Level}
    (hvalid : Payload.LevelsValid priceExponent qtyExponent levels) {padding : Padding}
    (hfits : grpLevel + padding.size < 2 ^ 16)
    (h : data.drop pos = encodeLevels padding levels ++ rest) :
    ∃ next, readLevels priceExponent qtyExponent data pos = .ok (levels, next) ∧
      data.drop next = rest := by
  simp only [encodeLevels, List.append_assoc] at h
  have hnum : data.drop (pos + 2) = _ := drop_next h (wr16_length _)
  have hentries : data.drop (pos + 2 + 2) = _ := drop_next hnum (wr16_length _)
  have hgroup := readGroup_encode encodeLevel_length (by decide)
    (fun l hl k rest => readLevel_encode (hvalid.2 l hl)) hentries
  refine ⟨_, ?_, hgroup.2⟩
  rw [readLevels, rd16_of_drop hfits h, rd16_of_drop hvalid.1 hnum]
  exact hgroup.1

theorem readSides_encode {bids asks : List Level}
    (hbids : Payload.LevelsValid priceExponent qtyExponent bids)
    (hasks : Payload.LevelsValid priceExponent qtyExponent asks) (hsymbol : symbol.length ≤ 255)
    (hfirst : grpLevel + first.size < 2 ^ 16) (hsecond : grpLevel + second.size < 2 ^ 16)
    (h : data.drop pos = encodeLevels first bids ++ (encodeLevels second asks ++ encodeSymbol symbol)) :
    readSides priceExponent qtyExponent data pos = .ok (bids, asks, symbol) := by
  obtain ⟨next, hreadBids, hnext⟩ := readLevels_encode hbids hfirst h
  obtain ⟨last, hreadAsks, hlast⟩ := readLevels_encode hasks hsecond hnext
  have hroom : next + 4 ≤ data.length := by
    have hlength := congrArg List.length hnext
    simp only [encodeLevels, encodeSymbol, List.length_drop, List.length_append, List.length_cons,
      wr16_length] at hlength
    omega
  rw [readSides, hreadBids]
  show (if data.length < next + 4 then _ else _) = _
  rw [if_neg (by omega), hreadAsks]
  show (readVarString data last).map _ = _
  rw [@readVarString_encode data [] last symbol hsymbol (by rw [hlast, List.append_nil])]
  rfl

/-! ## Messages -/

/-- The case of `decode` for a template. -/
def decodeCase (data : Bytes) (blockLength : Nat) : Payload → Except DecodeStatus Payload
  | .trades _ => (decodeTrades data blockLength).map .trades
  | .bestBidAsk _ => (decodeBestBidAsk data blockLength).map .bestBidAsk
  | .depthSnapshot _ => (decodeDepthSnapshot data blockLength).map .depthSnapshot
  | .depthDiff _ => (decodeDepthDiff data blockLength).map .depthDiff

theorem decode_header (hmax : rootLength < 2 ^ 16) {body : Bytes}
    (h : data = encodeHeader rootLength p.templateId ++ body) :
    decode data = (decodeCase data rootLength p).map fun q =>
      ⟨p.type, p.templateId, schemaId, schemaVersion, q⟩ := by
  simp only [encodeHeader, List.append_assoc] at h
  have h0 : data.drop 0 = _ := h
  have h2 : data.drop 2 = _ := drop_next h0 (wr16_length _)
  have h4 : data.drop 4 = _ := drop_next h2 (wr16_length _)
  have h6 : data.drop 6 = _ := drop_next h4 (wr16_length _)
  have hlength : 8 ≤ data.length := by
    rw [h]
    simp only [List.length_append, wr16_length]
    omega
  unfold decode
  rw [if_neg (by omega), rd16_of_drop hmax h0, h2, rd16_wr16, h4, rd16_wr16, h6, rd16_wr16]
  dsimp only
  rw [if_neg (by simp)]
  cases p with
  | trades m =>
    simp only [Payload.templateId, Payload.type, decodeCase]
    rw [if_pos trivial]
    cases decodeTrades data rootLength <;> rfl
  | bestBidAsk m =>
    simp only [Payload.templateId, Payload.type, decodeCase]
    rw [if_neg (by decide), if_pos trivial]
    cases decodeBestBidAsk data rootLength <;> rfl
  | depthSnapshot m =>
    simp only [Payload.templateId, Payload.type, decodeCase]
    rw [if_neg (by decide), if_neg (by decide), if_pos trivial]
    cases decodeDepthSnapshot data rootLength <;> rfl
  | depthDiff m =>
    simp only [Payload.templateId, Payload.type, decodeCase]
    rw [if_neg (by decide), if_neg (by decide), if_neg (by decide), if_pos trivial]
    cases decodeDepthDiff data rootLength <;> rfl

@[simp] theorem encodeHeader_length (rootLength : Nat) (templateId : UInt16) :
    (encodeHeader rootLength templateId).length = 8 := rfl

@[simp] theorem encodeRoot_length (p : Payload) : p.encodeRoot.length = p.blockLength := by
  cases p <;> rfl

theorem Encoding.bytes_drop (e : Encoding p rootLength) :
    e.bytes.drop 8 = p.encodeRoot ++ (e.root ++ p.encodeGroups e.first e.second) :=
  List.drop_left' (encodeHeader_length _ _)

theorem Encoding.decode_bytes (e : Encoding p rootLength) (hmax : rootLength < 2 ^ 16) :
    decode e.bytes = (decodeCase e.bytes rootLength p).map fun q =>
      ⟨p.type, p.templateId, schemaId, schemaVersion, q⟩ :=
  decode_header hmax rfl

theorem Encoding.bytes_drop_root (e : Encoding p rootLength) :
    e.bytes.drop (8 + p.blockLength) = e.root ++ p.encodeGroups e.first e.second :=
  drop_next e.bytes_drop (encodeRoot_length p)

section

variable {data tail : Bytes}
variable {first second : Padding}

theorem decodeTrades_encode {m : TradesStream} (hvalid : (Payload.trades m).Valid)
    (hfits : grpTrade + first.size < 2 ^ 16)
    (hroot : data.drop 8 = (Payload.trades m).encodeRoot ++
      (Payload.trades m).encodeGroups first second) :
    decodeTrades data blkTrades = .ok m := by
  obtain ⟨hsymbol, hcount, htrades⟩ := hvalid
  have h26 : data.drop 26 = _ := drop_next hroot (encodeRoot_length _)
  have hlength := congrArg List.length hroot
  simp only [Payload.encodeGroups, encodeTrades, encodeSymbol, List.length_drop, List.length_append,
    List.length_cons, wr16_length, wr32_length, encodeRoot_length, Payload.blockLength] at hlength
  simp only [Payload.encodeRoot, Payload.encodeGroups, encodeTrades, List.append_assoc] at hroot h26
  have h16 : data.drop 16 = _ := drop_next hroot (wrInt64_length _)
  have h24 : data.drop 24 = _ := drop_next h16 (wrInt64_length _)
  have h25 : data.drop 25 = _ := @drop_next data [m.priceExponent.toUInt8] _ 24 1 h24 rfl
  have h28 : data.drop 28 = _ := drop_next h26 (wr16_length _)
  have h32 : data.drop 32 = _ := drop_next h28 (wr32_length _)
  obtain ⟨hgroup, hrest⟩ := readGroup_encode encodeTrade_length (by decide)
    (fun t ht k rest => readTrade_encode (htrades t ht)) h32
  unfold decodeTrades
  rw [if_neg (Nat.lt_irrefl _), if_neg (by omega), rd16_of_drop hfits h26, rd32_of_drop hcount h28,
    rdInt8_of_drop h24, rdInt8_of_drop h25, rdInt64_of_drop hroot, rdInt64_of_drop h16]
  rw [show 8 + blkTrades + 6 = 32 from rfl, hgroup]
  show (readVarString data _).map _ = _
  rw [@readVarString_encode data [] _ m.symbol hsymbol (by rw [hrest, List.append_nil])]
  rfl

theorem decodeBestBidAsk_fields {m : BestBidAsk} (hvalid : (Payload.bestBidAsk m).Valid)
    (hroot : data.drop 8 = (Payload.bestBidAsk m).encodeRoot ++ tail) (htail : tail ≠ []) {rootLength : Nat}
    (hlong : blkBestBidAsk ≤ rootLength) :
    decodeBestBidAsk data rootLength
      = (readVarString data (8 + blkBestBidAsk)).map fun symbol => { m with symbol } := by
  obtain ⟨eventTimeUs, bookUpdateId, priceExponent, qtyExponent, ⟨bidPrice, _⟩, ⟨bidQty, _⟩,
    ⟨askPrice, _⟩, ⟨askQty, _⟩, symbol⟩ := m
  simp only [Payload.Valid] at hvalid
  obtain ⟨-, rfl, rfl, rfl, rfl⟩ := hvalid
  have hlength := congrArg List.length hroot
  simp only [List.length_drop, List.length_append, encodeRoot_length, Payload.blockLength] at hlength
  have hsome := List.length_pos_iff.mpr htail
  simp only [Payload.encodeRoot, List.append_assoc] at hroot
  have h16 : data.drop 16 = _ := drop_next hroot (wrInt64_length _)
  have h24 : data.drop 24 = _ := drop_next h16 (wrInt64_length _)
  have h25 : data.drop 25 = _ := @drop_next data [_] _ 24 1 h24 rfl
  have h26 : data.drop 26 = _ := drop_next h24 rfl
  have h34 : data.drop 34 = _ := drop_next h26 (wrInt64_length _)
  have h42 : data.drop 42 = _ := drop_next h34 (wrInt64_length _)
  have h50 : data.drop 50 = _ := drop_next h42 (wrInt64_length _)
  unfold decodeBestBidAsk
  rw [if_neg (by omega), if_neg (by omega), rdInt64_of_drop hroot, rdInt64_of_drop h16,
    rdInt8_of_drop h24, rdInt8_of_drop h25, rdInt64_of_drop h26, rdInt64_of_drop h34,
    rdInt64_of_drop h42, rdInt64_of_drop h50]

theorem decodeDepthSnapshot_encode {m : DepthSnapshot} (hvalid : (Payload.depthSnapshot m).Valid)
    (hfirst : grpLevel + first.size < 2 ^ 16) (hsecond : grpLevel + second.size < 2 ^ 16)
    (hroot : data.drop 8 = (Payload.depthSnapshot m).encodeRoot ++
      (Payload.depthSnapshot m).encodeGroups first second) :
    decodeDepthSnapshot data blkSnapshot = .ok m := by
  obtain ⟨hsymbol, hbids, hasks⟩ := hvalid
  have h26 : data.drop 26 = _ := drop_next hroot (encodeRoot_length _)
  have hlength := congrArg List.length hroot
  simp only [Payload.encodeGroups, encodeLevels, encodeSymbol, List.length_drop, List.length_append,
    List.length_cons, wr16_length, encodeRoot_length, Payload.blockLength] at hlength
  simp only [Payload.encodeRoot, List.append_assoc] at hroot
  have h16 : data.drop 16 = _ := drop_next hroot (wrInt64_length _)
  have h24 : data.drop 24 = _ := drop_next h16 (wrInt64_length _)
  have h25 : data.drop 25 = _ := @drop_next data [_] _ 24 1 h24 rfl
  unfold decodeDepthSnapshot
  rw [if_neg (Nat.lt_irrefl _), if_neg (by omega), rdInt8_of_drop h24, rdInt8_of_drop h25,
    rdInt64_of_drop hroot, rdInt64_of_drop h16, show 8 + blkSnapshot = 26 from rfl,
    readSides_encode hbids hasks hsymbol hfirst hsecond h26]
  rfl

theorem decodeDepthDiff_encode {m : DepthDiff} (hvalid : (Payload.depthDiff m).Valid)
    (hfirst : grpLevel + first.size < 2 ^ 16) (hsecond : grpLevel + second.size < 2 ^ 16)
    (hroot : data.drop 8 = (Payload.depthDiff m).encodeRoot ++
      (Payload.depthDiff m).encodeGroups first second) :
    decodeDepthDiff data blkDiff = .ok m := by
  obtain ⟨hsymbol, hbids, hasks⟩ := hvalid
  have h34 : data.drop 34 = _ := drop_next hroot (encodeRoot_length _)
  have hlength := congrArg List.length hroot
  simp only [Payload.encodeGroups, encodeLevels, encodeSymbol, List.length_drop, List.length_append,
    List.length_cons, wr16_length, encodeRoot_length, Payload.blockLength] at hlength
  simp only [Payload.encodeRoot, List.append_assoc] at hroot
  have h16 : data.drop 16 = _ := drop_next hroot (wrInt64_length _)
  have h24 : data.drop 24 = _ := drop_next h16 (wrInt64_length _)
  have h32 : data.drop 32 = _ := drop_next h24 (wrInt64_length _)
  have h33 : data.drop 33 = _ := @drop_next data [_] _ 32 1 h32 rfl
  unfold decodeDepthDiff
  rw [if_neg (Nat.lt_irrefl _), if_neg (by omega), rdInt8_of_drop h32, rdInt8_of_drop h33,
    rdInt64_of_drop hroot, rdInt64_of_drop h16, rdInt64_of_drop h24, show 8 + blkDiff = 34 from rfl,
    readSides_encode hbids hasks hsymbol hfirst hsecond h34]
  rfl

end

theorem decodeCase_encode (hvalid : p.Valid) (hfirst : p.entryLength + first.size < 2 ^ 16)
    (hsecond : p.entryLength + second.size < 2 ^ 16)
    (hroot : data.drop 8 = p.encodeRoot ++ p.encodeGroups first second) :
    decodeCase data p.blockLength p = .ok p := by
  cases p with
  | trades m =>
    show (decodeTrades data blkTrades).map Payload.trades = _
    rw [decodeTrades_encode hvalid hfirst hroot]
    rfl
  | bestBidAsk m =>
    have htail : (Payload.bestBidAsk m).encodeGroups first second ≠ [] := by
      simp [Payload.encodeGroups, encodeSymbol]
    have hsymbol : data.drop (8 + blkBestBidAsk) = encodeSymbol m.symbol ++ [] := by
      rw [List.append_nil]
      exact drop_next hroot (encodeRoot_length _)
    show (decodeBestBidAsk data blkBestBidAsk).map Payload.bestBidAsk = _
    rw [decodeBestBidAsk_fields hvalid hroot htail (Nat.le_refl _),
      readVarString_encode hvalid.1 hsymbol]
    rfl
  | depthSnapshot m =>
    show (decodeDepthSnapshot data blkSnapshot).map Payload.depthSnapshot = _
    rw [decodeDepthSnapshot_encode hvalid hfirst hsecond hroot]
    rfl
  | depthDiff m =>
    show (decodeDepthDiff data blkDiff).map Payload.depthDiff = _
    rw [decodeDepthDiff_encode hvalid hfirst hsecond hroot]
    rfl

/-! ## Longer root blocks -/

/-- Zeros behind each entry, up to a block length of 256. -/
def wide (width : Nat) : Padding where
  size := 256 - width
  bytes _ := List.replicate (256 - width) 0
  bytes_length _ := List.length_replicate

/-- What is found where the first group is expected. -/
theorem rd16_padding (n : Nat) {groups : Bytes} (h : ∃ rest, groups = wr16 256 ++ rest) :
    rd16 (List.replicate (n + 1) 0 ++ groups) = 0 := by
  obtain ⟨rest, h⟩ := h
  have hwide : wr16 256 = [0, 1] := by decide
  have hzero : (0 : UInt8).toUInt16 ||| (0 : UInt8).toUInt16 <<< 8 = 0 := by decide
  rw [h, hwide]
  cases n with
  | zero => exact hzero
  | succ n => exact hzero

theorem readVarString_length {off : Nat} (h : readVarString data off = .ok symbol) :
    symbol.length = (byteAt data off).toNat := by
  unfold readVarString at h
  split at h
  · cases h
  · dsimp only at h
    split at h
    · cases h
    · cases h
      rw [List.length_take, List.length_drop]
      omega

theorem entryLength_le (p : Payload) : p.entryLength ≤ 256 := by
  cases p with
  | trades _ => show 25 ≤ 256; omega
  | bestBidAsk _ => show 16 ≤ 256; omega
  | depthSnapshot _ => show 16 ≤ 256; omega
  | depthDiff _ => show 16 ≤ 256; omega

def longer (p : Payload) (n : Nat) : Encoding p (p.blockLength + (n + 1)) where
  root := match p with
    | .bestBidAsk m => (if m.symbol = [] then 1 else 0) :: List.replicate n 0
    | _ => List.replicate (n + 1) 0
  first := wide p.entryLength
  second := wide p.entryLength
  root_length := by cases p <;> simp
  first_fits := by
    show p.entryLength + (256 - p.entryLength) < 2 ^ 16
    have hle := entryLength_le p
    omega
  second_fits := by
    show p.entryLength + (256 - p.entryLength) < 2 ^ 16
    have hle := entryLength_le p
    omega

section

variable {data groups : Bytes} {n : Nat} (hgroups : ∃ rest, groups = wr16 256 ++ rest)

include hgroups

theorem readSides_padding {priceExponent qtyExponent : Int8} {pos : Nat}
    (h : data.drop pos = List.replicate (n + 1) 0 ++ groups) :
    readSides priceExponent qtyExponent data pos = .error .invalidLayout := by
  rw [readSides, readLevels, readGroup, h, rd16_padding n hgroups]
  rfl

variable {rootLength : Nat}

theorem decodeTrades_padding (h : data.drop (8 + blkTrades) = List.replicate (n + 1) 0 ++ groups)
    (m : TradesStream) : decodeTrades data rootLength ≠ .ok m := by
  have hzero : rd16 (data.drop 26) = 0 := by
    rw [show (26 : Nat) = 8 + blkTrades from rfl, h, rd16_padding n hgroups]
  unfold decodeTrades
  rw [readGroup, hzero]
  split
  · rintro ⟨⟩
  · split
    · rintro ⟨⟩
    · rintro ⟨⟩

theorem decodeDepthSnapshot_padding
    (h : data.drop (8 + blkSnapshot) = List.replicate (n + 1) 0 ++ groups) (m : DepthSnapshot) :
    decodeDepthSnapshot data rootLength ≠ .ok m := by
  unfold decodeDepthSnapshot
  rw [readSides_padding hgroups h]
  split
  · rintro ⟨⟩
  · split
    · rintro ⟨⟩
    · rintro ⟨⟩

theorem decodeDepthDiff_padding (h : data.drop (8 + blkDiff) = List.replicate (n + 1) 0 ++ groups)
    (m : DepthDiff) : decodeDepthDiff data rootLength ≠ .ok m := by
  unfold decodeDepthDiff
  rw [readSides_padding hgroups h]
  split
  · rintro ⟨⟩
  · split
    · rintro ⟨⟩
    · rintro ⟨⟩

end

/-- A message that comes out of its case came out of the decoder of its template. -/
theorem map_eq_ok {ε α β : Type} {f : α → β} (hf : Function.Injective f) {x : Except ε α} {a : α}
    (h : x.map f = .ok (f a)) : x = .ok a := by
  cases x with
  | error e => cases h
  | ok b => rw [hf (Except.ok.inj h)]

theorem encodeTrades_wide (trades : List Trade) (tail : Bytes) :
    ∃ rest, encodeTrades (wide grpTrade) trades ++ tail = wr16 256 ++ rest := by
  rw [encodeTrades, show grpTrade + (wide grpTrade).size = 256 from rfl]
  exact ⟨_, List.append_assoc _ _ _⟩

theorem encodeLevels_wide (levels : List Level) (tail : Bytes) :
    ∃ rest, encodeLevels (wide grpLevel) levels ++ tail = wr16 256 ++ rest := by
  rw [encodeLevels, show grpLevel + (wide grpLevel).size = 256 from rfl]
  exact ⟨_, List.append_assoc _ _ _⟩

theorem decodeBestBidAsk_padding {m : BestBidAsk} (hvalid : (Payload.bestBidAsk m).Valid)
    {b : UInt8} (hb : m.symbol.length ≠ b.toNat)
    (hroot : data.drop 8 = (Payload.bestBidAsk m).encodeRoot ++ b :: rest)
    (hlong : blkBestBidAsk ≤ rootLength) : decodeBestBidAsk data rootLength ≠ .ok m := by
  have hbehind : data.drop (8 + blkBestBidAsk) = b :: rest := drop_next hroot (encodeRoot_length _)
  rw [decodeBestBidAsk_fields hvalid hroot (List.cons_ne_nil _ _) hlong]
  intro hok
  cases hsymbol : readVarString data (8 + blkBestBidAsk) with
  | error status =>
    rw [hsymbol] at hok
    cases hok
  | ok symbol =>
    rw [hsymbol] at hok
    have heq : symbol = m.symbol := congrArg BestBidAsk.symbol (Except.ok.inj hok)
    have hlength := readVarString_length hsymbol
    rw [byteAt_of_drop hbehind, heq] at hlength
    exact hb hlength

/-- No message survives the padding that `longer` puts behind its root block. -/
theorem decodeCase_longer (hvalid : p.Valid) (n : Nat) :
    decodeCase (longer p n).bytes (p.blockLength + (n + 1)) p ≠ .ok p := by
  have hroot := (longer p n).bytes_drop
  have hbehind := (longer p n).bytes_drop_root
  generalize (longer p n).bytes = data at *
  intro hok
  cases p with
  | trades m =>
    exact decodeTrades_padding (encodeTrades_wide _ _) hbehind m
      (map_eq_ok (fun _ _ => Payload.trades.inj) hok)
  | bestBidAsk m =>
    refine decodeBestBidAsk_padding hvalid ?_ hroot (Nat.le_add_right _ _)
      (map_eq_ok (fun _ _ => Payload.bestBidAsk.inj) hok)
    by_cases hnil : m.symbol = []
    · rw [if_pos hnil, hnil]
      decide
    · rw [if_neg hnil]
      exact fun hzero => hnil (List.eq_nil_of_length_eq_zero hzero)
  | depthSnapshot m =>
    exact decodeDepthSnapshot_padding (encodeLevels_wide _ _) hbehind m
      (map_eq_ok (fun _ _ => Payload.depthSnapshot.inj) hok)
  | depthDiff m =>
    exact decodeDepthDiff_padding (encodeLevels_wide _ _) hbehind m
      (map_eq_ok (fun _ _ => Payload.depthDiff.inj) hok)

/-- **Main theorem.** Every encoding of a message with a root block length is decoded to the
    message if and only if that length is the schema's. -/
theorem decodes_every_encoding_iff (m : Message) (rootLength : Nat)
    (hmin : m.payload.blockLength ≤ rootLength) (hmax : rootLength < 2 ^ 16) :
    (∀ e : Encoding m.payload rootLength, decode e.bytes = .ok m.payload.decoded) ↔
      rootLength = m.payload.blockLength := by
  constructor
  · intro hall
    by_contra hne
    obtain ⟨n, rfl⟩ := Nat.exists_eq_add_of_le hmin
    obtain ⟨n, rfl⟩ := Nat.exists_eq_succ_of_ne_zero (fun h : n = 0 => hne (by rw [h, Nat.add_zero]))
    have hok := hall (longer m.payload n)
    rw [Encoding.decode_bytes _ hmax] at hok
    cases hcase : decodeCase (longer m.payload n).bytes (m.payload.blockLength + (n + 1)) m.payload with
    | error status =>
      rw [hcase] at hok
      cases hok
    | ok q =>
      rw [hcase] at hok
      have hq : q = m.payload := congrArg Decoded.payload (Except.ok.inj hok)
      exact decodeCase_longer m.valid n (hq ▸ hcase)
  · rintro rfl e
    have hnil : e.root = [] := by
      have hlength := e.root_length
      exact List.eq_nil_of_length_eq_zero (by omega)
    have hroot := e.bytes_drop
    rw [hnil, List.nil_append] at hroot
    rw [e.decode_bytes hmax, decodeCase_encode m.valid e.first_fits e.second_fits hroot]
    rfl

def sampleBestBidAsk : BestBidAsk where
  eventTimeUs := 5
  bookUpdateId := 9
  priceExponent := -2
  qtyExponent := -3
  bidPrice := ⟨1000, -2⟩
  bidQty := ⟨7, -3⟩
  askPrice := ⟨1001, -2⟩
  askQty := ⟨8, -3⟩
  symbol := [66, 84]

def sampleMessage : Message where
  payload := .bestBidAsk sampleBestBidAsk
  valid := ⟨by decide, rfl, rfl, rfl, rfl⟩

def sampleEncoding : Encoding sampleMessage.payload 50 where
  root := []
  first := wide grpLevel
  second := wide grpLevel
  root_length := rfl
  first_fits := by decide
  second_fits := by decide

theorem sampleMessage_decodes :
    decode sampleEncoding.bytes = .ok sampleMessage.payload.decoded :=
  (decodes_every_encoding_iff sampleMessage 50 (by decide) (by decide)).mpr rfl sampleEncoding

/-- With a root block that is two bytes longer the padding is read as an empty symbol. -/
theorem longer_root_block_is_misread :
    decode (longer sampleMessage.payload 1).bytes
        = .ok (Payload.bestBidAsk { sampleBestBidAsk with symbol := [] }).decoded ∧
      (Payload.bestBidAsk { sampleBestBidAsk with symbol := [] }).decoded
        ≠ sampleMessage.payload.decoded := by
  exact ⟨rfl, by decide⟩

end LobReplay.Sbe
