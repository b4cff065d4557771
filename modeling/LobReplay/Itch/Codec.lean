/-
  The decoder of TotalView-ITCH 5.0 (cpp/itch/src/itch_codec.cpp): thirteen message types of fixed
  length, read at the offsets of the spec's tables. `std::string` is a byte string, `char` a byte;
  the alphas are trimmed as in the OUCH codec.

  `decode` writes the `Decoded` it is given on success only, so it takes that value and returns the
  new one.

  `wire` writes a decoded message down again, field after field in the order of its table.
-/

import LobReplay.Ouch.Codec

namespace LobReplay.Itch

open Foundation
open Ouch.Codec (alphaTrimmed alphaPad space)

/-! ## Messages -/

inductive MessageType where
  | systemEvent
  | stockDirectory
  | stockTradingAction
  | addOrder
  | addOrderMpid
  | orderExecuted
  | orderExecutedWithPrice
  | orderCancel
  | orderDelete
  | orderReplace
  | tradeNonCross
  | crossTrade
  | brokenTrade
  deriving DecidableEq

/-- A character as the byte it is. -/
def char (c : Char) : UInt8 := UInt8.ofNat c.toNat

/-- The value of the enumerator. -/
def MessageType.code : MessageType → UInt8
  | systemEvent => char 'S'
  | stockDirectory => char 'R'
  | stockTradingAction => char 'H'
  | addOrder => char 'A'
  | addOrderMpid => char 'F'
  | orderExecuted => char 'E'
  | orderExecutedWithPrice => char 'C'
  | orderCancel => char 'X'
  | orderDelete => char 'D'
  | orderReplace => char 'U'
  | tradeNonCross => char 'P'
  | crossTrade => char 'Q'
  | brokenTrade => char 'B'

inductive DecodeStatus where
  | ok
  | truncated
  | unknownType
  | priceOutOfRange
  deriving DecidableEq

structure CommonHeader where
  stockLocate : UInt16
  trackingNumber : UInt16
  timestampNs : UInt64
  deriving DecidableEq

structure SystemEvent where
  hdr : CommonHeader
  eventCode : UInt8
  deriving DecidableEq

structure StockDirectory where
  hdr : CommonHeader
  stock : Bytes
  marketCategory : UInt8
  financialStatus : UInt8
  roundLotSize : UInt32
  roundLotsOnly : UInt8
  issueClassification : UInt8
  issueSubType : Bytes
  authenticity : UInt8
  shortSaleThreshold : UInt8
  ipoFlag : UInt8
  luldReferencePriceTier : UInt8
  etpFlag : UInt8
  etpLeverageFactor : UInt32
  inverseIndicator : UInt8
  deriving DecidableEq

structure StockTradingAction where
  hdr : CommonHeader
  stock : Bytes
  tradingState : UInt8
  reason : Bytes
  deriving DecidableEq

structure AddOrder where
  hdr : CommonHeader
  orderRef : UInt64
  side : UInt8
  shares : UInt32
  stock : Bytes
  price : UInt32
  hasAttribution : Bool := false
  attribution : Bytes := []
  deriving DecidableEq

structure OrderExecuted where
  hdr : CommonHeader
  orderRef : UInt64
  executedShares : UInt32
  matchNumber : UInt64
  hasPrice : Bool := false
  printable : UInt8 := 0
  price : UInt32 := 0
  deriving DecidableEq

structure OrderCancel where
  hdr : CommonHeader
  orderRef : UInt64
  cancelledShares : UInt32
  deriving DecidableEq

structure OrderDelete where
  hdr : CommonHeader
  orderRef : UInt64
  deriving DecidableEq

structure OrderReplace where
  hdr : CommonHeader
  originalOrderRef : UInt64
  newOrderRef : UInt64
  shares : UInt32
  price : UInt32
  deriving DecidableEq

structure TradeNonCross where
  hdr : CommonHeader
  orderRef : UInt64
  side : UInt8
  shares : UInt32
  stock : Bytes
  price : UInt32
  matchNumber : UInt64
  deriving DecidableEq

structure CrossTrade where
  hdr : CommonHeader
  shares : UInt64
  stock : Bytes
  crossPrice : UInt32
  matchNumber : UInt64
  crossType : UInt8
  deriving DecidableEq

structure BrokenTrade where
  hdr : CommonHeader
  matchNumber : UInt64
  deriving DecidableEq

/-- The `std::variant` of `Decoded`. -/
inductive Payload where
  | systemEvent (m : SystemEvent)
  | stockDirectory (m : StockDirectory)
  | stockTradingAction (m : StockTradingAction)
  | addOrder (m : AddOrder)
  | orderExecuted (m : OrderExecuted)
  | orderCancel (m : OrderCancel)
  | orderDelete (m : OrderDelete)
  | orderReplace (m : OrderReplace)
  | tradeNonCross (m : TradeNonCross)
  | crossTrade (m : CrossTrade)
  | brokenTrade (m : BrokenTrade)
  deriving DecidableEq

structure Decoded where
  type : MessageType
  payload : Payload
  deriving DecidableEq

def wireLength : MessageType → Nat
  | .systemEvent => 12
  | .stockDirectory => 39
  | .stockTradingAction => 25
  | .addOrder => 36
  | .addOrderMpid => 40
  | .orderExecuted => 31
  | .orderExecutedWithPrice => 36
  | .orderCancel => 23
  | .orderDelete => 19
  | .orderReplace => 35
  | .tradeNonCross => 44
  | .crossTrade => 40
  | .brokenTrade => 19

def maxPrice4 : UInt32 := 0x77359400

/-! ## Decoding -/

def readCommon (p : Bytes) : CommonHeader :=
  ⟨rd16 (p.drop 1), rd16 (p.drop 3), rd48 (p.drop 5)⟩

def price4At (p : Bytes) (off : Nat) : UInt32 := rd32 (p.drop off)

def readSystemEvent (data : Bytes) : SystemEvent where
  hdr := readCommon data
  eventCode := byteAt data 11

def readStockDirectory (data : Bytes) : StockDirectory where
  hdr := readCommon data
  stock := alphaTrimmed (data.drop 11) 8
  marketCategory := byteAt data 19
  financialStatus := byteAt data 20
  roundLotSize := rd32 (data.drop 21)
  roundLotsOnly := byteAt data 25
  issueClassification := byteAt data 26
  issueSubType := alphaTrimmed (data.drop 27) 2
  authenticity := byteAt data 29
  shortSaleThreshold := byteAt data 30
  ipoFlag := byteAt data 31
  luldReferencePriceTier := byteAt data 32
  etpFlag := byteAt data 33
  etpLeverageFactor := rd32 (data.drop 34)
  inverseIndicator := byteAt data 38

/-- Byte 20 is reserved and not read. -/
def readTradingAction (data : Bytes) : StockTradingAction where
  hdr := readCommon data
  stock := alphaTrimmed (data.drop 11) 8
  tradingState := byteAt data 19
  reason := alphaTrimmed (data.drop 21) 4

/-- The branch `A` and `F` share; `mpid` says which. -/
def readAddOrder (data : Bytes) (mpid : Bool) : AddOrder where
  hdr := readCommon data
  orderRef := rd64 (data.drop 11)
  side := byteAt data 19
  shares := rd32 (data.drop 20)
  stock := alphaTrimmed (data.drop 24) 8
  price := price4At data 32
  hasAttribution := mpid
  attribution := if mpid then alphaTrimmed (data.drop 36) 4 else []

def readOrderExecuted (data : Bytes) : OrderExecuted where
  hdr := readCommon data
  orderRef := rd64 (data.drop 11)
  executedShares := rd32 (data.drop 19)
  matchNumber := rd64 (data.drop 23)

def readExecutedPrice (data : Bytes) : OrderExecuted where
  hdr := readCommon data
  orderRef := rd64 (data.drop 11)
  executedShares := rd32 (data.drop 19)
  matchNumber := rd64 (data.drop 23)
  hasPrice := true
  printable := byteAt data 31
  price := price4At data 32

def readOrderCancel (data : Bytes) : OrderCancel where
  hdr := readCommon data
  orderRef := rd64 (data.drop 11)
  cancelledShares := rd32 (data.drop 19)

def readOrderDelete (data : Bytes) : OrderDelete where
  hdr := readCommon data
  orderRef := rd64 (data.drop 11)

def readOrderReplace (data : Bytes) : OrderReplace where
  hdr := readCommon data
  originalOrderRef := rd64 (data.drop 11)
  newOrderRef := rd64 (data.drop 19)
  shares := rd32 (data.drop 27)
  price := price4At data 31

def readTradeNonCross (data : Bytes) : TradeNonCross where
  hdr := readCommon data
  orderRef := rd64 (data.drop 11)
  side := byteAt data 19
  shares := rd32 (data.drop 20)
  stock := alphaTrimmed (data.drop 24) 8
  price := price4At data 32
  matchNumber := rd64 (data.drop 36)

def readCrossTrade (data : Bytes) : CrossTrade where
  hdr := readCommon data
  shares := rd64 (data.drop 11)
  stock := alphaTrimmed (data.drop 19) 8
  crossPrice := price4At data 27
  matchNumber := rd64 (data.drop 31)
  crossType := byteAt data 39

def readBrokenTrade (data : Bytes) : BrokenTrade where
  hdr := readCommon data
  matchNumber := rd64 (data.drop 11)

/-- `decode`, into `out`. -/
def decode (data : Bytes) (out : Decoded) : DecodeStatus × Decoded :=
  if data.length = 0 then (.truncated, out)
  else if byteAt data 0 = char 'S' then
    if data.length < 12 then (.truncated, out)
    else (.ok, ⟨.systemEvent, .systemEvent (readSystemEvent data)⟩)
  else if byteAt data 0 = char 'R' then
    if data.length < 39 then (.truncated, out)
    else (.ok, ⟨.stockDirectory, .stockDirectory (readStockDirectory data)⟩)
  else if byteAt data 0 = char 'H' then
    if data.length < 25 then (.truncated, out)
    else (.ok, ⟨.stockTradingAction, .stockTradingAction (readTradingAction data)⟩)
  else if byteAt data 0 = char 'A' ∨ byteAt data 0 = char 'F' then
    let mpid := decide (byteAt data 0 = char 'F')
    if data.length < (if mpid then 40 else 36) then (.truncated, out)
    else if (readAddOrder data mpid).price > maxPrice4 then (.priceOutOfRange, out)
    else (.ok, ⟨if mpid then .addOrderMpid else .addOrder, .addOrder (readAddOrder data mpid)⟩)
  else if byteAt data 0 = char 'E' then
    if data.length < 31 then (.truncated, out)
    else (.ok, ⟨.orderExecuted, .orderExecuted (readOrderExecuted data)⟩)
  else if byteAt data 0 = char 'C' then
    if data.length < 36 then (.truncated, out)
    else if (readExecutedPrice data).price > maxPrice4 then (.priceOutOfRange, out)
    else (.ok, ⟨.orderExecutedWithPrice, .orderExecuted (readExecutedPrice data)⟩)
  else if byteAt data 0 = char 'X' then
    if data.length < 23 then (.truncated, out)
    else (.ok, ⟨.orderCancel, .orderCancel (readOrderCancel data)⟩)
  else if byteAt data 0 = char 'D' then
    if data.length < 19 then (.truncated, out)
    else (.ok, ⟨.orderDelete, .orderDelete (readOrderDelete data)⟩)
  else if byteAt data 0 = char 'U' then
    if data.length < 35 then (.truncated, out)
    else if (readOrderReplace data).price > maxPrice4 then (.priceOutOfRange, out)
    else (.ok, ⟨.orderReplace, .orderReplace (readOrderReplace data)⟩)
  else if byteAt data 0 = char 'P' then
    if data.length < 44 then (.truncated, out)
    else if (readTradeNonCross data).price > maxPrice4 then (.priceOutOfRange, out)
    else (.ok, ⟨.tradeNonCross, .tradeNonCross (readTradeNonCross data)⟩)
  else if byteAt data 0 = char 'Q' then
    if data.length < 40 then (.truncated, out)
    else if (readCrossTrade data).crossPrice > maxPrice4 then (.priceOutOfRange, out)
    else (.ok, ⟨.crossTrade, .crossTrade (readCrossTrade data)⟩)
  else if byteAt data 0 = char 'B' then
    if data.length < 19 then (.truncated, out)
    else (.ok, ⟨.brokenTrade, .brokenTrade (readBrokenTrade data)⟩)
  else (.unknownType, out)

/-! ## One message -/

def payload : MessageType → Bytes → Payload
  | .systemEvent, data => .systemEvent (readSystemEvent data)
  | .stockDirectory, data => .stockDirectory (readStockDirectory data)
  | .stockTradingAction, data => .stockTradingAction (readTradingAction data)
  | .addOrder, data => .addOrder (readAddOrder data false)
  | .addOrderMpid, data => .addOrder (readAddOrder data true)
  | .orderExecuted, data => .orderExecuted (readOrderExecuted data)
  | .orderExecutedWithPrice, data => .orderExecuted (readExecutedPrice data)
  | .orderCancel, data => .orderCancel (readOrderCancel data)
  | .orderDelete, data => .orderDelete (readOrderDelete data)
  | .orderReplace, data => .orderReplace (readOrderReplace data)
  | .tradeNonCross, data => .tradeNonCross (readTradeNonCross data)
  | .crossTrade, data => .crossTrade (readCrossTrade data)
  | .brokenTrade, data => .brokenTrade (readBrokenTrade data)

/-- The offset of the Price (4) field of each table that has one. -/
def priceOffset? : MessageType → Option Nat
  | .addOrder | .addOrderMpid | .orderExecutedWithPrice | .tradeNonCross => some 32
  | .orderReplace => some 31
  | .crossTrade => some 27
  | _ => none

/-- Every Price (4) field is at most 200,000.0000. -/
def PricesOk (t : MessageType) (data : Bytes) : Prop :=
  ∀ off ∈ priceOffset? t, price4At data off ≤ maxPrice4

instance (t : MessageType) (data : Bytes) : Decidable (PricesOk t data) :=
  inferInstanceAs (Decidable (∀ off ∈ priceOffset? t, _))

variable {t : MessageType} {data p : Bytes} {d : Decoded} {n i k : Nat} {off : Nat} {out : Decoded}

theorem pricesOk_iff (h : priceOffset? t = some off) (data : Bytes) :
    PricesOk t data ↔ price4At data off ≤ maxPrice4 := by
  rw [PricesOk, h]
  simp

/-- A table with a price is rejected where the price is above the maximum. -/
theorem ite_pricesOk {α : Type} (h : priceOffset? t = some off) (data : Bytes) (ok bad : α) :
    (if PricesOk t data then ok else bad) = if price4At data off > maxPrice4 then bad else ok := by
  rw [← ite_not]
  exact if_congr (by rw [pricesOk_iff h]; exact UInt32.not_le) rfl rfl

/-- **Spec of `decode`.** -/
theorem decode_of_type (h : data.head? = some t.code) (out : Decoded) :
    decode data out =
      if data.length < wireLength t then (.truncated, out)
      else if PricesOk t data then (.ok, ⟨t, payload t data⟩)
      else (.priceOutOfRange, out) := by
  cases data with
  | nil => cases h
  | cons b rest =>
    rw [List.head?_cons, Option.some.injEq] at h
    subst h
    cases t
    case addOrder | addOrderMpid | orderExecutedWithPrice | orderReplace | tradeNonCross |
        crossTrade =>
      rw [ite_pricesOk rfl]
      rfl
    all_goals rfl

/-- A type outside the tables, and the empty input. -/
theorem decode_of_no_type (h : ∀ t : MessageType, data.head? ≠ some t.code) (out : Decoded) :
    decode data out = (if data.length = 0 then .truncated else .unknownType, out) := by
  cases data with
  | nil => rfl
  | cons b rest =>
    have hne : ∀ t : MessageType, byteAt (b :: rest) 0 ≠ t.code :=
      fun t heq => h t (congrArg some heq)
    have hlen : (b :: rest).length ≠ 0 := Nat.succ_ne_zero _
    rw [decode, if_neg hlen, if_neg hlen]
    exact (if_neg (hne .systemEvent)).trans <| (if_neg (hne .stockDirectory)).trans <|
      (if_neg (hne .stockTradingAction)).trans <|
      (if_neg (not_or.mpr ⟨hne .addOrder, hne .addOrderMpid⟩)).trans <|
      (if_neg (hne .orderExecuted)).trans <| (if_neg (hne .orderExecutedWithPrice)).trans <|
      (if_neg (hne .orderCancel)).trans <| (if_neg (hne .orderDelete)).trans <|
      (if_neg (hne .orderReplace)).trans <| (if_neg (hne .tradeNonCross)).trans <|
      (if_neg (hne .crossTrade)).trans <| if_neg (hne .brokenTrade)

/-- **Inversion.** -/
theorem decode_ok_iff :
    decode data out = (.ok, d) ↔
      data.head? = some d.type.code ∧ wireLength d.type ≤ data.length ∧ PricesOk d.type data ∧
        d.payload = payload d.type data := by
  constructor
  · intro h
    by_cases htype : ∃ t : MessageType, data.head? = some t.code
    · obtain ⟨t, ht⟩ := htype
      rw [decode_of_type ht] at h
      split at h
      · cases h
      rename_i hlen
      split at h
      · rename_i hprice
        cases h
        exact ⟨ht, Nat.not_lt.mp hlen, hprice, rfl⟩
      · cases h
    · rw [decode_of_no_type (not_exists.mp htype)] at h
      split at h <;> cases h
  · rintro ⟨ht, hlen, hprice, hpayload⟩
    rw [decode_of_type ht, if_neg (Nat.not_lt.mpr hlen), if_pos hprice, ← hpayload]

/-! ## The bytes a message depends on -/

theorem byteAt_take (h : i < n) : byteAt (p.take n) i = byteAt p i := by
  rw [byteAt, byteAt, List.getD_eq_getElem?_getD, List.getElem?_take_of_lt h,
    List.getD_eq_getElem?_getD]

theorem rd16_take (h : 2 ≤ n) : rd16 (p.take n) = rd16 p := by
  rw [rd16, rd16, byteAt_take (by omega), byteAt_take (by omega)]

theorem rd32_take (h : 4 ≤ n) : rd32 (p.take n) = rd32 p := by
  rw [rd32, rd32, byteAt_take (by omega), byteAt_take (by omega), byteAt_take (by omega),
    byteAt_take (by omega)]

theorem rd48_take (h : 6 ≤ n) : rd48 (p.take n) = rd48 p := by
  rw [rd48, rd48, byteAt_take (by omega), byteAt_take (by omega), byteAt_take (by omega),
    byteAt_take (by omega), byteAt_take (by omega), byteAt_take (by omega)]

theorem rd64_take (h : 8 ≤ n) : rd64 (p.take n) = rd64 p := by
  rw [rd64, rd64, rd32_take (by omega), List.drop_take, rd32_take (by omega)]

theorem alphaTrimmed_take {w : Nat} (h : w ≤ n) : alphaTrimmed (p.take n) w = alphaTrimmed p w := by
  induction w with
  | zero => rfl
  | succ w ih =>
    rw [alphaTrimmed, alphaTrimmed, byteAt_take (by omega), ih (by omega), List.take_take,
      Nat.min_eq_left h]

/-- No field reaches behind the length of its table. -/
theorem payload_take (t : MessageType) (data : Bytes) :
    payload t (data.take (wireLength t)) = payload t data := by
  cases t <;>
    simp (disch := omega) only [payload, readSystemEvent, readStockDirectory, readTradingAction,
      readAddOrder, readOrderExecuted, readExecutedPrice, readOrderCancel, readOrderDelete,
      readOrderReplace, readTradeNonCross, readCrossTrade, readBrokenTrade, readCommon, price4At,
      wireLength, List.drop_take, Nat.reduceSub, byteAt_take, rd16_take, rd32_take, rd48_take,
      rd64_take, alphaTrimmed_take, Bool.false_eq_true, reduceIte]

theorem pricesOk_take (t : MessageType) (data : Bytes) :
    PricesOk t (data.take (wireLength t)) ↔ PricesOk t data := by
  have hread : ∀ off ∈ priceOffset? t,
      price4At (data.take (wireLength t)) off = price4At data off := by
    intro off hoff
    have hfits : off + 4 ≤ wireLength t := by
      cases t <;> simp [priceOffset?] at hoff <;> subst hoff <;> decide
    rw [price4At, price4At, List.drop_take, rd32_take (by omega)]
  constructor
  · intro h off hoff
    rw [← hread off hoff]
    exact h off hoff
  · intro h off hoff
    rw [hread off hoff]
    exact h off hoff

/-- The front of a message decides what `decode` does with it. -/
theorem decode_take (h : data.head? = some t.code) (out : Decoded) :
    decode (data.take (wireLength t)) out = decode data out := by
  have hpos : 0 < wireLength t := by cases t <;> decide
  have hhead : (data.take (wireLength t)).head? = some t.code := by
    rw [List.head?_take, if_neg (by omega), h]
  rw [decode_of_type hhead, decode_of_type h, payload_take]
  have hlen : (data.take (wireLength t)).length < wireLength t ↔ data.length < wireLength t := by
    rw [List.length_take]
    omega
  exact if_congr hlen rfl (if_congr (pricesOk_take t data) rfl rfl)

/-! ## Writing a message down again -/

/-- The fields of `CommonHeader`. -/
def wireHeader (h : CommonHeader) : Bytes :=
  wr16 h.stockLocate ++ (wr16 h.trackingNumber ++ wr48 h.timestampNs)

/-- The fields of a message in the order of its table; `reserved` is byte 20 of `H`. -/
def Payload.wire (reserved : UInt8) : Payload → Bytes
  | .systemEvent m => wireHeader m.hdr ++ [m.eventCode]
  | .stockDirectory m =>
    wireHeader m.hdr ++ (alphaPad m.stock 8 ++ ([m.marketCategory] ++ ([m.financialStatus] ++
      (wr32 m.roundLotSize ++ ([m.roundLotsOnly] ++ ([m.issueClassification] ++
      (alphaPad m.issueSubType 2 ++ ([m.authenticity] ++ ([m.shortSaleThreshold] ++
      ([m.ipoFlag] ++ ([m.luldReferencePriceTier] ++ ([m.etpFlag] ++
      (wr32 m.etpLeverageFactor ++ [m.inverseIndicator])))))))))))))
  | .stockTradingAction m =>
    wireHeader m.hdr ++ (alphaPad m.stock 8 ++ ([m.tradingState] ++ ([reserved] ++
      alphaPad m.reason 4)))
  | .addOrder m =>
    wireHeader m.hdr ++ (wr64 m.orderRef ++ ([m.side] ++ (wr32 m.shares ++
      (alphaPad m.stock 8 ++ (wr32 m.price ++
      if m.hasAttribution then alphaPad m.attribution 4 else [])))))
  | .orderExecuted m =>
    wireHeader m.hdr ++ (wr64 m.orderRef ++ (wr32 m.executedShares ++ (wr64 m.matchNumber ++
      if m.hasPrice then [m.printable] ++ wr32 m.price else [])))
  | .orderCancel m => wireHeader m.hdr ++ (wr64 m.orderRef ++ wr32 m.cancelledShares)
  | .orderDelete m => wireHeader m.hdr ++ wr64 m.orderRef
  | .orderReplace m =>
    wireHeader m.hdr ++ (wr64 m.originalOrderRef ++ (wr64 m.newOrderRef ++ (wr32 m.shares ++
      wr32 m.price)))
  | .tradeNonCross m =>
    wireHeader m.hdr ++ (wr64 m.orderRef ++ ([m.side] ++ (wr32 m.shares ++
      (alphaPad m.stock 8 ++ (wr32 m.price ++ wr64 m.matchNumber)))))
  | .crossTrade m =>
    wireHeader m.hdr ++ (wr64 m.shares ++ (alphaPad m.stock 8 ++ (wr32 m.crossPrice ++
      (wr64 m.matchNumber ++ [m.crossType]))))
  | .brokenTrade m => wireHeader m.hdr ++ wr64 m.matchNumber

/-- A message, its type byte first. -/
def Decoded.wire (d : Decoded) (reserved : UInt8) : Bytes :=
  [d.type.code] ++ d.payload.wire reserved

/-- The `n` bytes of `data` from offset `k` on are `w`. -/
def At (data : Bytes) (k n : Nat) (w : Bytes) : Prop := (data.drop k).take n = w

/-- Two fields next to each other. -/
theorem At.append {v w : Bytes} {m : Nat} (hw : At data k n w) (hv : At data (k + n) m v) :
    At data k (n + m) (w ++ v) := by
  rw [At, List.take_add, List.drop_drop, hw, hv]

theorem at_char (h : k + 1 ≤ data.length) : At data k 1 [byteAt data k] := by
  rw [At, take_succ_of_le (by rw [List.length_drop]; omega), byteAt_drop]
  rfl

theorem at_rd16 (h : k + 2 ≤ data.length) : At data k 2 (wr16 (rd16 (data.drop k))) :=
  (wr16_rd16 (by rw [List.length_drop]; omega)).symm

theorem at_rd32 (h : k + 4 ≤ data.length) : At data k 4 (wr32 (rd32 (data.drop k))) :=
  (wr32_rd32 (by rw [List.length_drop]; omega)).symm

theorem at_rd48 (h : k + 6 ≤ data.length) : At data k 6 (wr48 (rd48 (data.drop k))) :=
  (wr48_rd48 (by rw [List.length_drop]; omega)).symm

theorem at_rd64 (h : k + 8 ≤ data.length) : At data k 8 (wr64 (rd64 (data.drop k))) :=
  (wr64_rd64 (by rw [List.length_drop]; omega)).symm

theorem alphaTrimmed_length_le (p : Bytes) (n : Nat) : (alphaTrimmed p n).length ≤ n := by
  induction n with
  | zero => exact Nat.le_refl 0
  | succ n ih =>
    rw [alphaTrimmed]
    split
    · exact Nat.le_succ_of_le ih
    · exact List.length_take_le _ _

/-- Padding puts the trimmed spaces back. -/
theorem alphaPad_alphaTrimmed (h : n ≤ p.length) : alphaPad (alphaTrimmed p n) n = p.take n := by
  induction n with
  | zero => rfl
  | succ n ih =>
    rw [alphaTrimmed]
    split
    · rename_i hspace
      have hlast : p.take (n + 1) = p.take n ++ [space] := by
        rw [List.take_add, take_succ_of_le (by rw [List.length_drop]; omega), byteAt_drop,
          Nat.add_zero, hspace]
        rfl
      rw [hlast, ← ih (by omega), alphaPad, alphaPad,
        Nat.succ_sub (alphaTrimmed_length_le p n), List.replicate_succ', List.append_assoc]
    · rw [alphaPad, List.length_take, Nat.min_eq_left h, Nat.sub_self, List.replicate_zero,
        List.append_nil]

theorem at_alpha (h : k + n ≤ data.length) :
    At data k n (alphaPad (alphaTrimmed (data.drop k) n) n) :=
  (alphaPad_alphaTrimmed (by rw [List.length_drop]; omega)).symm

theorem at_header (h : 11 ≤ data.length) : At data 1 10 (wireHeader (readCommon data)) :=
  (at_rd16 (by omega)).append ((at_rd16 (by omega)).append (at_rd48 (by omega)))

/-- **Layout.** The fields of every table tile its message. -/
theorem payload_at (h : wireLength t ≤ data.length) :
    At data 1 (wireLength t - 1) ((payload t data).wire (byteAt data 20)) := by
  have hheader : At data 1 10 (wireHeader (readCommon data)) := by
    have hle : 11 ≤ wireLength t := by cases t <;> decide
    exact at_header (by omega)
  cases t <;> rw [wireLength] at h
  case systemEvent => exact hheader.append (at_char h)
  case stockDirectory =>
    exact hheader.append <| (at_alpha (n := 8) (by omega)).append <| (at_char (by omega)).append <|
      (at_char (by omega)).append <| (at_rd32 (by omega)).append <|
      (at_char (by omega)).append <| (at_char (by omega)).append <|
      (at_alpha (n := 2) (by omega)).append <| (at_char (by omega)).append <|
      (at_char (by omega)).append <| (at_char (by omega)).append <|
      (at_char (by omega)).append <| (at_char (by omega)).append <|
      (at_rd32 (by omega)).append (at_char h)
  case stockTradingAction =>
    exact hheader.append <| (at_alpha (n := 8) (by omega)).append <| (at_char (by omega)).append <|
      (at_char (by omega)).append (at_alpha (n := 4) h)
  case addOrder =>
    exact hheader.append <| (at_rd64 (by omega)).append <| (at_char (by omega)).append <|
      (at_rd32 (by omega)).append <| (at_alpha (n := 8) (by omega)).append <|
      (at_rd32 h).append (m := 0) rfl
  case addOrderMpid =>
    exact hheader.append <| (at_rd64 (by omega)).append <| (at_char (by omega)).append <|
      (at_rd32 (by omega)).append <| (at_alpha (n := 8) (by omega)).append <|
      (at_rd32 (by omega)).append (at_alpha (n := 4) h)
  case orderExecuted =>
    exact hheader.append <| (at_rd64 (by omega)).append <| (at_rd32 (by omega)).append <|
      (at_rd64 h).append (m := 0) rfl
  case orderExecutedWithPrice =>
    exact hheader.append <| (at_rd64 (by omega)).append <| (at_rd32 (by omega)).append <|
      (at_rd64 (by omega)).append <| (at_char (by omega)).append (at_rd32 h)
  case orderCancel =>
    exact hheader.append ((at_rd64 (by omega)).append (at_rd32 h))
  case orderDelete | brokenTrade => exact hheader.append (at_rd64 h)
  case orderReplace =>
    exact hheader.append <| (at_rd64 (by omega)).append <| (at_rd64 (by omega)).append <|
      (at_rd32 (by omega)).append (at_rd32 h)
  case tradeNonCross =>
    exact hheader.append <| (at_rd64 (by omega)).append <| (at_char (by omega)).append <|
      (at_rd32 (by omega)).append <| (at_alpha (n := 8) (by omega)).append <|
      (at_rd32 (by omega)).append (at_rd64 h)
  case crossTrade =>
    exact hheader.append <| (at_rd64 (by omega)).append <| (at_alpha (n := 8) (by omega)).append <|
      (at_rd32 (by omega)).append <| (at_rd64 (by omega)).append (at_char h)

/-- **Losslessness.** A decoded message, written down again, is the front of its bytes. -/
theorem take_eq_wire (h : decode data out = (.ok, d)) :
    data.take (wireLength d.type) = d.wire (byteAt data 20) := by
  obtain ⟨hhead, hlen, -, hpayload⟩ := decode_ok_iff.mp h
  have hpos : 1 ≤ wireLength d.type := by cases d.type <;> decide
  have htype : At data 0 1 [d.type.code] := by
    cases data with
    | nil => cases hhead
    | cons b rest =>
      rw [List.head?_cons, Option.some.injEq] at hhead
      rw [hhead]
      rfl
  have htile := htype.append (payload_at hlen)
  rw [At, List.drop_zero, Nat.add_sub_cancel' hpos, ← hpayload] at htile
  exact htile

/-- A byte apart from the one that differs. -/
theorem getElem?_other {front back : Bytes} {b b' : UInt8} (h : i ≠ front.length) :
    (front ++ b :: back)[i]? = (front ++ b' :: back)[i]? := by
  rw [List.getElem?_append, List.getElem?_append]
  split
  · rfl
  · obtain ⟨k, hk⟩ := Nat.exists_eq_succ_of_ne_zero (show i - front.length ≠ 0 by omega)
    rw [hk, List.getElem?_cons_succ, List.getElem?_cons_succ]

/-- The reserved byte stands at offset 20 of `H` and nowhere else. -/
theorem wire_other (hlen : wireLength d.type ≤ data.length)
    (hpayload : d.payload = payload d.type data) (hi : ¬ (d.type = .stockTradingAction ∧ i = 20))
    (b b' : UInt8) : (d.wire b)[i]? = (d.wire b')[i]? := by
  obtain ⟨type, m⟩ := d
  dsimp only at hlen hpayload hi
  subst hpayload
  cases type
  case stockTradingAction =>
    rw [wireLength] at hlen
    have hstock : (alphaPad (alphaTrimmed (data.drop 11) 8) 8).length = 8 := by
      rw [alphaPad_alphaTrimmed (by rw [List.length_drop]; omega), List.length_take,
        List.length_drop]
      omega
    -- everything before the reserved byte, and what follows it
    let front : Bytes := [MessageType.stockTradingAction.code] ++ (wireHeader (readCommon data) ++
      (alphaPad (alphaTrimmed (data.drop 11) 8) 8 ++ [byteAt data 19]))
    have hfront : front.length = 20 := by
      simp only [front, List.length_append, hstock]
      rfl
    have hwire : ∀ c : UInt8, Decoded.wire ⟨.stockTradingAction,
        payload .stockTradingAction data⟩ c
          = front ++ c :: alphaPad (alphaTrimmed (data.drop 21) 4) 4 := by
      intro c
      simp only [front, List.append_assoc]
      rfl
    rw [hwire, hwire]
    exact getElem?_other (fun heq => hi ⟨rfl, by rw [heq, hfront]⟩)
  all_goals rfl

/-- **Losslessness of the decoder.** A decoded message gives back every byte it was read from but
    the reserved one, and a failure leaves `out` as it was. -/
theorem decode_loses_nothing :
    (∀ data out, (decode data out).1 = .ok ↔
      ∃ t : MessageType, data.head? = some t.code ∧ wireLength t ≤ data.length ∧
        PricesOk t data) ∧
    (∀ (t : MessageType) data data' out, data.head? = some t.code →
      data.take (wireLength t) = data'.take (wireLength t) →
      decode data out = decode data' out) ∧
    (∀ data out, (decode data out).1 ≠ .ok → (decode data out).2 = out) ∧
    (∀ data out d, decode data out = (.ok, d) →
      data.take (wireLength d.type) = d.wire (byteAt data 20)) ∧
    ∀ data data' out out' d, decode data out = (.ok, d) → decode data' out' = (.ok, d) →
      ∀ i < wireLength d.type, ¬ (d.type = .stockTradingAction ∧ i = 20) →
        data[i]? = data'[i]? := by
  refine ⟨?_, ?_, ?_, fun data out d h => take_eq_wire h, ?_⟩
  · intro data out
    constructor
    · intro h
      obtain ⟨hhead, hlen, hprice, -⟩ :=
        decode_ok_iff.mp (show decode data out = (.ok, (decode data out).2) from Prod.ext h rfl)
      exact ⟨_, hhead, hlen, hprice⟩
    · rintro ⟨t, hhead, hlen, hprice⟩
      have hok : decode data out = (.ok, ⟨t, payload t data⟩) :=
        decode_ok_iff.mpr ⟨hhead, hlen, hprice, rfl⟩
      rw [hok]
  · intro t data data' out hhead htake
    have hpos : 0 < wireLength t := by cases t <;> decide
    have hhead' : data'.head? = some t.code := by
      have hfront := congrArg List.head? htake
      rw [List.head?_take, List.head?_take, if_neg (by omega), if_neg (by omega)] at hfront
      rw [← hfront, hhead]
    rw [← decode_take hhead, htake, decode_take hhead']
  · intro data out h
    by_cases htype : ∃ t : MessageType, data.head? = some t.code
    · obtain ⟨t, ht⟩ := htype
      rw [decode_of_type ht] at h ⊢
      split at h
      · rename_i hlen
        rw [if_pos hlen]
      rename_i hlen
      split at h
      · exact absurd rfl h
      · rename_i hprice
        rw [if_neg hlen, if_neg hprice]
    · rw [decode_of_no_type (not_exists.mp htype)]
  · intro data data' out out' d h h' i hi hother
    obtain ⟨-, hlen, -, hpayload⟩ := decode_ok_iff.mp h
    calc data[i]? = (data.take (wireLength d.type))[i]? := (List.getElem?_take_of_lt hi).symm
      _ = (d.wire (byteAt data 20))[i]? := by rw [take_eq_wire h]
      _ = (d.wire (byteAt data' 20))[i]? := wire_other hlen hpayload hother _ _
      _ = (data'.take (wireLength d.type))[i]? := by rw [take_eq_wire h']
      _ = data'[i]? := List.getElem?_take_of_lt hi

end LobReplay.Itch
