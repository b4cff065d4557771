/-
  The checkpoints of a `LocalOrderBook` and the comparisons of two books (lib.rs).

  A checkpoint writes both sides as texts, from the best price outwards, next to the digest of the
  state. It is read back level by level; a side out of order, a crossed book and another digest are
  refused.
-/

import LobReplay.Book.State

namespace LobReplay.Book

open Foundation

/-! ## Checkpoints -/

structure OrderBookCheckpointV1 where
  schema : String
  symbol : String
  lastUpdateId : UInt64
  bids : List (String × String)
  asks : List (String × String)
  stateSha256 : String
  deriving DecidableEq

/-- A level as a checkpoint writes it. -/
def levelTexts (level : Level) : String × String := (level.1.display, level.2.display)

namespace LocalOrderBook

def checkpoint (codec : BookCodec) (book : LocalOrderBook) : Result OrderBookCheckpointV1 :=
  if book.state ≠ .live then err "checkpoint requires a live book"
  else do
    let lastUpdateId ← okOr book.lastUpdateId "checkpoint book has no update ID"
    .ok
      { schema := "OrderBookCheckpointV1", symbol := book.symbol, lastUpdateId
        bids := book.bids.toList.reverse.map levelTexts
        asks := book.asks.toList.map levelTexts
        stateSha256 := book.stateDigest codec }

/-- Whether the loop of `checkpoint_side` refuses a price behind the one before it. -/
def outOfOrder (descending : Bool) (previous : Option FixedDecimal) (price : FixedDecimal) : Bool :=
  previous.any fun old =>
    if descending then (FixedDecimal.cmp old price).isLE else (FixedDecimal.cmp old price).isGE

/-- The loop of `checkpoint_side`. -/
def checkpointLevels (codec : BookCodec) (side : String) (descending : Bool) :
    List (String × String) → Option FixedDecimal → Side → Result Side
  | [], _, result => .ok result
  | level :: rest, previous, result => do
    let price ← FixedDecimal.parse codec.debug level.1
    let quantity ← FixedDecimal.parse codec.debug level.2
    if price.isZero ∨ price.isNegative ∨ quantity.isZero ∨ quantity.isNegative then
      err s!"invalid checkpoint {side} price/quantity"
    else if outOfOrder descending previous price then
      err s!"checkpoint {side} levels are not canonically ordered"
    else if price ∈ result then err s!"duplicate checkpoint {side} price"
    else checkpointLevels codec side descending rest (some price) (result.insert price quantity)

def checkpointSide (codec : BookCodec) (levels : List (String × String)) (side : String)
    (descending : Bool) : Result Side :=
  if levels.isEmpty then err s!"book checkpoint has empty {side} side"
  else checkpointLevels codec side descending levels none ∅

def fromCheckpoint (codec : BookCodec) (checkpoint : OrderBookCheckpointV1) :
    Result LocalOrderBook :=
  if checkpoint.schema ≠ "OrderBookCheckpointV1" ∨
      isLowerHex64 checkpoint.stateSha256 = false then
    err "book checkpoint identity is invalid"
  else do
    let book ← new checkpoint.symbol
    let bids ← checkpointSide codec checkpoint.bids "bid" true
    let asks ← checkpointSide codec checkpoint.asks "ask" false
    let fingerprint := fingerprintSide codec bidTag bids book.levelFingerprint
    let (result, book) := checkInvariants
      { book with
        bids
        asks
        lastUpdateId := some checkpoint.lastUpdateId
        state := .live
        levelFingerprint := fingerprintSide codec askTag asks fingerprint }
    result
    if book.stateDigest codec ≠ checkpoint.stateSha256 then
      err "book checkpoint state digest is invalid"
    else .ok book

def sameState (a b : LocalOrderBook) : Bool :=
  a.symbol = b.symbol ∧ a.state = b.state ∧ a.lastUpdateId = b.lastUpdateId ∧
    a.bids.toList = b.bids.toList ∧ a.asks.toList = b.asks.toList

def sameStateFingerprint (a b : LocalOrderBook) : Bool :=
  a.lastUpdateId = b.lastUpdateId ∧ a.bids.size = b.bids.size ∧ a.asks.size = b.asks.size ∧
    a.levelFingerprint = b.levelFingerprint

end LocalOrderBook

end LobReplay.Book
