/-
  The decoder of cpp/sbe/src/binance_sbe.cpp for the pinned market data schema: `decode` with its
  four templates, the repeated groups and the symbol.

  The groups and the symbol are looked for behind the schema's own root block. The block length of
  the header is compared with it and not used after that; the entries of a group do advance by the
  block length of their group.
-/

import LobReplay.Foundation.LittleEndian

namespace LobReplay.Sbe

open Foundation (Bytes byteAt)
open Foundation.LittleEndian

/-! ## Messages -/

inductive MessageType where
  | tradesStreamEvent
  | bestBidAskStreamEvent
  | depthSnapshotStreamEvent
  | depthDiffStreamEvent
  deriving DecidableEq

/-- `DecodeStatus` of a failed call. -/
inductive DecodeStatus where
  | truncated
  | unknownTemplate
  | schemaMismatch
  | invalidLayout
  deriving DecidableEq

/-- `Decimal`: `mantissa * 10 ^ exponent`. -/
structure Decimal where
  mantissa : Int64
  exponent : Int8
  deriving DecidableEq

structure Trade where
  id : Int64
  price : Decimal
  qty : Decimal
  isBuyerMaker : UInt8
  isBestMatch : UInt8
  deriving DecidableEq

structure Level where
  price : Decimal
  qty : Decimal
  deriving DecidableEq

structure TradesStream where
  eventTimeUs : Int64
  transactTimeUs : Int64
  priceExponent : Int8
  qtyExponent : Int8
  trades : List Trade
  symbol : Bytes
  deriving DecidableEq

structure BestBidAsk where
  eventTimeUs : Int64
  bookUpdateId : Int64
  priceExponent : Int8
  qtyExponent : Int8
  bidPrice : Decimal
  bidQty : Decimal
  askPrice : Decimal
  askQty : Decimal
  symbol : Bytes
  deriving DecidableEq

structure DepthSnapshot where
  eventTimeUs : Int64
  bookUpdateId : Int64
  priceExponent : Int8
  qtyExponent : Int8
  bids : List Level
  asks : List Level
  symbol : Bytes
  deriving DecidableEq

structure DepthDiff where
  eventTimeUs : Int64
  firstBookUpdateId : Int64
  lastBookUpdateId : Int64
  priceExponent : Int8
  qtyExponent : Int8
  bids : List Level
  asks : List Level
  symbol : Bytes
  deriving DecidableEq

/-- The variant of `Decoded`. -/
inductive Payload where
  | trades (m : TradesStream)
  | bestBidAsk (m : BestBidAsk)
  | depthSnapshot (m : DepthSnapshot)
  | depthDiff (m : DepthDiff)
  deriving DecidableEq

structure Decoded where
  type : MessageType
  templateId : UInt16
  schemaId : UInt16
  version : UInt16
  payload : Payload
  deriving DecidableEq

/-! ## Schema constants -/

def schemaId : UInt16 := 1

def schemaVersion : UInt16 := 0

def blkTrades : Nat := 18

def blkBestBidAsk : Nat := 50

def blkSnapshot : Nat := 18

def blkDiff : Nat := 26

def grpTrade : Nat := 25

def grpLevel : Nat := 16

/-! ## Reading -/

/-- `(int64_t)rd64(data + off)`. -/
def rdInt64 (data : Bytes) (off : Nat) : Int64 := (rd64 (data.drop off)).toInt64

/-- `(int8_t)data[off]`. -/
def rdInt8 (data : Bytes) (off : Nat) : Int8 := (byteAt data off).toInt8

def readVarString (data : Bytes) (off : Nat) : Except DecodeStatus Bytes :=
  if data.length ≤ off then .error .truncated
  else
    let n := (byteAt data off).toNat
    if data.length < off + 1 + n then .error .truncated
    else .ok ((data.drop (off + 1)).take n)

/-- The loop over the entries of a group: `num` entries from `pos`, with where it stops. -/
def readEntries {α : Type} (read : Bytes → Nat → α) (data : Bytes) (grpBlock : Nat) :
    Nat → Nat → List α × Nat
  | 0, pos => ([], pos)
  | num + 1, pos =>
    let rest := readEntries read data grpBlock num (pos + grpBlock)
    (read data pos :: rest.1, rest.2)

/-- An entry of the trades group. -/
def readTrade (priceExponent qtyExponent : Int8) (data : Bytes) (e : Nat) : Trade where
  id := rdInt64 data e
  price := ⟨rdInt64 data (e + 8), priceExponent⟩
  qty := ⟨rdInt64 data (e + 16), qtyExponent⟩
  isBuyerMaker := byteAt data (e + 24)
  isBestMatch := 1

/-- An entry of a level group. -/
def readLevel (priceExponent qtyExponent : Int8) (data : Bytes) (e : Nat) : Level where
  price := ⟨rdInt64 data e, priceExponent⟩
  qty := ⟨rdInt64 data (e + 8), qtyExponent⟩

/-- The checks of a group header, and its entries. -/
def readGroup {α : Type} (read : Bytes → Nat → α) (width : Nat) (data : Bytes)
    (grpBlock num pos : Nat) : Except DecodeStatus (List α × Nat) :=
  if grpBlock < width then .error .invalidLayout
  else if (data.length - pos) / grpBlock < num then .error .truncated
  else .ok (readEntries read data grpBlock num pos)

/-- A group of levels with its header at `pos`. -/
def readLevels (priceExponent qtyExponent : Int8) (data : Bytes) (pos : Nat) :
    Except DecodeStatus (List Level × Nat) :=
  readGroup (readLevel priceExponent qtyExponent) grpLevel data (rd16 (data.drop pos)).toNat
    (rd16 (data.drop (pos + 2))).toNat (pos + 4)

/-- The two groups of a depth message and its symbol, from `pos`. -/
def readSides (priceExponent qtyExponent : Int8) (data : Bytes) (pos : Nat) :
    Except DecodeStatus (List Level × List Level × Bytes) :=
  (readLevels priceExponent qtyExponent data pos).bind fun bids =>
    if data.length < bids.2 + 4 then .error .truncated
    else
      (readLevels priceExponent qtyExponent data bids.2).bind fun asks =>
        (readVarString data asks.2).map fun symbol => (bids.1, asks.1, symbol)

/-! ## `decode` -/

/-- The case `10000`. -/
def decodeTrades (data : Bytes) (blockLength : Nat) : Except DecodeStatus TradesStream :=
  if blockLength < blkTrades then .error .invalidLayout
  else if data.length < 8 + blkTrades + 6 then .error .truncated
  else
    (readGroup (readTrade (rdInt8 data 24) (rdInt8 data 25)) grpTrade data
      (rd16 (data.drop 26)).toNat (rd32 (data.drop 28)).toNat (8 + blkTrades + 6)).bind fun trades =>
        (readVarString data trades.2).map fun symbol => {
          eventTimeUs := rdInt64 data 8
          transactTimeUs := rdInt64 data 16
          priceExponent := rdInt8 data 24
          qtyExponent := rdInt8 data 25
          trades := trades.1
          symbol }

/-- The case `10001`. -/
def decodeBestBidAsk (data : Bytes) (blockLength : Nat) : Except DecodeStatus BestBidAsk :=
  if blockLength < blkBestBidAsk then .error .invalidLayout
  else if data.length < 8 + blkBestBidAsk + 1 then .error .truncated
  else
    (readVarString data (8 + blkBestBidAsk)).map fun symbol => {
      eventTimeUs := rdInt64 data 8
      bookUpdateId := rdInt64 data 16
      priceExponent := rdInt8 data 24
      qtyExponent := rdInt8 data 25
      bidPrice := ⟨rdInt64 data 26, rdInt8 data 24⟩
      bidQty := ⟨rdInt64 data 34, rdInt8 data 25⟩
      askPrice := ⟨rdInt64 data 42, rdInt8 data 24⟩
      askQty := ⟨rdInt64 data 50, rdInt8 data 25⟩
      symbol }

/-- The case `10002`. -/
def decodeDepthSnapshot (data : Bytes) (blockLength : Nat) : Except DecodeStatus DepthSnapshot :=
  if blockLength < blkSnapshot then .error .invalidLayout
  else if data.length < 8 + blkSnapshot + 4 + 4 + 1 then .error .truncated
  else
    (readSides (rdInt8 data 24) (rdInt8 data 25) data (8 + blkSnapshot)).map fun sides => {
      eventTimeUs := rdInt64 data 8
      bookUpdateId := rdInt64 data 16
      priceExponent := rdInt8 data 24
      qtyExponent := rdInt8 data 25
      bids := sides.1
      asks := sides.2.1
      symbol := sides.2.2 }

/-- The case `10003`. -/
def decodeDepthDiff (data : Bytes) (blockLength : Nat) : Except DecodeStatus DepthDiff :=
  if blockLength < blkDiff then .error .invalidLayout
  else if data.length < 8 + blkDiff + 4 + 4 + 1 then .error .truncated
  else
    (readSides (rdInt8 data 32) (rdInt8 data 33) data (8 + blkDiff)).map fun sides => {
      eventTimeUs := rdInt64 data 8
      firstBookUpdateId := rdInt64 data 16
      lastBookUpdateId := rdInt64 data 24
      priceExponent := rdInt8 data 32
      qtyExponent := rdInt8 data 33
      bids := sides.1
      asks := sides.2.1
      symbol := sides.2.2 }

/-- `decode` on `data[0..len)`; a failed call leaves `out` untouched. -/
def decode (data : Bytes) : Except DecodeStatus Decoded :=
  if data.length < 8 then .error .truncated
  else
    let blockLength := (rd16 (data.drop 0)).toNat
    let templateId := rd16 (data.drop 2)
    let schema := rd16 (data.drop 4)
    let version := rd16 (data.drop 6)
    if schema ≠ schemaId ∨ version ≠ schemaVersion then .error .schemaMismatch
    else if templateId = 10000 then
      (decodeTrades data blockLength).map fun m =>
        ⟨.tradesStreamEvent, templateId, schema, version, .trades m⟩
    else if templateId = 10001 then
      (decodeBestBidAsk data blockLength).map fun m =>
        ⟨.bestBidAskStreamEvent, templateId, schema, version, .bestBidAsk m⟩
    else if templateId = 10002 then
      (decodeDepthSnapshot data blockLength).map fun m =>
        ⟨.depthSnapshotStreamEvent, templateId, schema, version, .depthSnapshot m⟩
    else if templateId = 10003 then
      (decodeDepthDiff data blockLength).map fun m =>
        ⟨.depthDiffStreamEvent, templateId, schema, version, .depthDiff m⟩
    else .error .unknownTemplate

end LobReplay.Sbe
