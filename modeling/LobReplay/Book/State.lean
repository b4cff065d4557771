/-
  `LocalOrderBook` of lib.rs: a snapshot is loaded once, and depth updates that bridge the book's
  position are applied to its two sides in place, before the book is checked.

  The calls return the book they leave beside their result: an error does not undo what was done
  before it.
-/

import LobReplay.Book.Decimal
import LobReplay.Raw.Reader

namespace LobReplay.Book

open Foundation
open Std (ExtTreeMap)
open Raw (requiredStr requiredU64)

/-! ## Data -/

inductive BookState where
  | empty
  | syncing
  | live
  | gap
  | invalid
  deriving DecidableEq

/-- `BTreeMap<FixedDecimal, FixedDecimal>`: the quantity at each price of a side. -/
abbrev Side := ExtTreeMap FixedDecimal FixedDecimal FixedDecimal.cmp

/-- A level of a side: a price and its quantity. -/
abbrev Level := FixedDecimal × FixedDecimal

/-- `[u64; 4]`: the XOR of the digests of all levels. -/
abbrev Fingerprint := Vector UInt64 4

/-- The parser, the digest and the `{:?}` of a text. -/
structure BookCodec where
  /-- `serde_json::from_slice::<Value>(payload)`. -/
  fromSlice : Bytes → Except String Value
  /-- `Sha256::digest`. -/
  digest : Bytes → FixedBytes 32
  /-- `format!("{text:?}")`. -/
  debug : String → String

structure LocalOrderBook where
  symbol : String
  state : BookState
  lastUpdateId : Option UInt64
  bids : Side
  asks : Side
  levelFingerprint : Fingerprint

inductive ApplyOutcome where
  | applied
  | old
  deriving DecidableEq

inductive PreparedDepthUpdate where
  | old (firstId finalId : UInt64)
  | apply (firstId finalId : UInt64) (bids asks : List Level)

/-! ## Levels -/

def parseLevel (codec : BookCodec) (side : String) (value : Value) : Result Level :=
  match value.asArray with
  | some [priceValue, quantityValue] => do
    let priceText ← okOr priceValue.asStr s!"invalid {side} price"
    let price ← FixedDecimal.parse codec.debug priceText
    let quantityText ← okOr quantityValue.asStr s!"invalid {side} quantity"
    let quantity ← FixedDecimal.parse codec.debug quantityText
    if price.isZero ∨ price.isNegative ∨ quantity.isNegative then
      err s!"invalid {side} price/quantity"
    else .ok (price, quantity)
  | _ => err s!"invalid {side} level"

/-- `coefficient.to_le_bytes()` of an `i128`. -/
def i128LeBytes (coefficient : Int) : Bytes := leBytes 16 (coefficient % 2 ^ 128).toNat

def levelFingerprint (codec : BookCodec) (sideTag : UInt8) (price quantity : FixedDecimal) :
    Fingerprint :=
  let bytes := (codec.digest ([sideTag] ++ i128LeBytes price.coefficient ++
    [UInt8.ofNat price.scale] ++ i128LeBytes quantity.coefficient ++
    [UInt8.ofNat quantity.scale])).bytes
  Vector.ofFn fun index => UInt64.ofNat (leValue ((bytes.drop (index * 8)).take 8))

def xorLevelFingerprint (target value : Fingerprint) : Fingerprint :=
  target.zipWith (· ^^^ ·) value

/-- `b'b'` and `b'a'`. -/
def bidTag : UInt8 := 98

@[inherit_doc bidTag]
def askTag : UInt8 := 97

def fingerprintSide (codec : BookCodec) (sideTag : UInt8) (side : Side)
    (fingerprint : Fingerprint) : Fingerprint :=
  side.toList.foldl
    (fun target level => xorLevelFingerprint target (levelFingerprint codec sideTag level.1 level.2))
    fingerprint

/-- The loop of `load_side`: levels without a quantity are passed over. -/
def loadLevels (codec : BookCodec) (side : String) : List Value → Side → Result Side
  | [], result => .ok result
  | value :: rest, result => do
    let (price, quantity) ← parseLevel codec side value
    if quantity.isZero then loadLevels codec side rest result
    else if price ∈ result then err s!"duplicate {side} price"
    else loadLevels codec side rest (result.insert price quantity)

def loadSide (codec : BookCodec) (side : String) (value : Option Value) : Result Side := do
  let levels ← okOr (value.bind Value.asArray) s!"snapshot {side} side is not array"
  let result ← loadLevels codec side levels ∅
  if result.isEmpty then err s!"empty {side} side" else .ok result

/-- One update of `apply_side`. -/
def applyLevel (codec : BookCodec) (sideTag : UInt8) (target : Side × Fingerprint)
    (update : Level) : Side × Fingerprint :=
  let (price, quantity) := update
  let fingerprint :=
    match target.1[price]? with
    | some oldQuantity =>
      xorLevelFingerprint target.2 (levelFingerprint codec sideTag price oldQuantity)
    | none => target.2
  if quantity.isZero then (target.1.erase price, fingerprint)
  else
    (target.1.insert price quantity,
      xorLevelFingerprint fingerprint (levelFingerprint codec sideTag price quantity))

def applySide (codec : BookCodec) (sideTag : UInt8) (updates : List Level)
    (target : Side × Fingerprint) : Side × Fingerprint :=
  updates.foldl (applyLevel codec sideTag) target

/-! ## The book -/

namespace LocalOrderBook

def new (symbol : String) : Result LocalOrderBook :=
  if symbol ≠ "BTCUSDT" ∧ symbol ≠ "ETHUSDT" then err s!"symbol outside scope: {symbol}"
  else
    .ok { symbol, state := .empty, lastUpdateId := none, bids := ∅, asks := ∅
          levelFingerprint := Vector.replicate 4 0 }

/-- `best_bid`: the last price of the side. -/
def bestBid (book : LocalOrderBook) : Result FixedDecimal :=
  okOr book.bids.keys.getLast? "empty bid side"

/-- `best_ask`: the first price of the side. -/
def bestAsk (book : LocalOrderBook) : Result FixedDecimal :=
  okOr book.asks.keys.head? "empty ask side"

def checkInvariants (book : LocalOrderBook) : Result Unit × LocalOrderBook :=
  match book.bestBid with
  | .error e => (.error e, book)
  | .ok bid =>
    match book.bestAsk with
    | .error e => (.error e, book)
    | .ok ask =>
      if bid.lt ask then (.ok (), book)
      else
        let bid := bid.display
        let ask := ask.display
        (err s!"crossed/locked book: bid={bid}, ask={ask}", { book with state := .invalid })

def loadSnapshot (codec : BookCodec) (book : LocalOrderBook) (payload : Bytes) :
    Result UInt64 × LocalOrderBook :=
  if book.state ≠ .empty then (err "snapshot requires empty book", book)
  else
    match codec.fromSlice payload with
    | .error e => (err s!"invalid snapshot JSON: {e}", book)
    | .ok value =>
      match requiredU64 value "lastUpdateId" with
      | .error e => (.error e, book)
      | .ok updateId =>
        match loadSide codec "bid" (value.get "bids") with
        | .error e => (.error e, book)
        | .ok bids =>
          -- the bids stay even when the asks are refused
          let book := { book with bids }
          match loadSide codec "ask" (value.get "asks") with
          | .error e => (.error e, book)
          | .ok asks =>
            let fingerprint := fingerprintSide codec bidTag bids (Vector.replicate 4 0)
            let (result, book) := checkInvariants
              { book with
                asks
                levelFingerprint := fingerprintSide codec askTag asks fingerprint
                lastUpdateId := some updateId
                state := .syncing }
            (result.map fun _ => updateId, book)

/-- The position an update has to bridge. -/
def expectedId (book : LocalOrderBook) : Result UInt64 := do
  let last ← okOr book.lastUpdateId "snapshot not loaded"
  if last = maxU64 then err "update ID overflow" else .ok (last + 1)

/-- Whether the book takes updates. -/
def accepts (book : LocalOrderBook) : Bool := book.state = .syncing ∨ book.state = .live

/-- The checks of `prepare_depth_value` up to the update's position: its first and final id
    and the position it has to bridge. -/
def depthIds (book : LocalOrderBook) (value : Value) : Result (UInt64 × UInt64 × UInt64) :=
  if book.accepts = false then err "book cannot accept depth in current state"
  else do
    let event ← requiredStr value "e"
    if event ≠ "depthUpdate" then err "unexpected depth type/symbol"
    else do
      let symbol ← requiredStr value "s"
      if symbol ≠ book.symbol then err "unexpected depth type/symbol"
      else do
        let firstId ← requiredU64 value "U"
        let finalId ← requiredU64 value "u"
        if finalId < firstId then err "invalid depth IDs"
        else do
          let expected ← book.expectedId
          .ok (firstId, finalId, expected)

def depthLevels (codec : BookCodec) (value : Value) : Result (List Level × List Level) := do
  let bids ← okOr ((value.get "b").bind Value.asArray) "depth bids not array"
  let asks ← okOr ((value.get "a").bind Value.asArray) "depth asks not array"
  let bidUpdates ← bids.mapM (parseLevel codec "bid")
  let askUpdates ← asks.mapM (parseLevel codec "ask")
  .ok (bidUpdates, askUpdates)

def prepareDepthValue (codec : BookCodec) (book : LocalOrderBook) (value : Value) :
    Result PreparedDepthUpdate × LocalOrderBook :=
  match book.depthIds value with
  | .error e => (.error e, book)
  | .ok (firstId, finalId, expected) =>
    if finalId < expected then (.ok (.old firstId finalId), book)
    else if expected < firstId ∨ finalId < expected then
      (err s!"depth gap: expected bridge {expected}, received U={firstId}, u={finalId}",
        { book with state := .gap })
    else
      ((depthLevels codec value).map fun levels => .apply firstId finalId levels.1 levels.2, book)

/-- The end of `apply_prepared_depth`: the levels go into the book, which is checked then. -/
def applyLevels (codec : BookCodec) (book : LocalOrderBook) (finalId : UInt64)
    (bids asks : List Level) : Result ApplyOutcome × LocalOrderBook :=
  let (bidSide, fingerprint) := applySide codec bidTag bids (book.bids, book.levelFingerprint)
  let (askSide, fingerprint) := applySide codec askTag asks (book.asks, fingerprint)
  let (result, book) := checkInvariants
    { book with
      bids := bidSide
      asks := askSide
      levelFingerprint := fingerprint
      lastUpdateId := some finalId
      state := if book.state = .syncing then .live else book.state }
  (result.map fun _ => .applied, book)

def applyPreparedDepth (codec : BookCodec) (book : LocalOrderBook) (update : PreparedDepthUpdate) :
    Result ApplyOutcome × LocalOrderBook :=
  if book.accepts = false then (err "book cannot accept prepared depth in current state", book)
  else
    match book.expectedId with
    | .error e => (.error e, book)
    | .ok expected =>
      match update with
      | .old firstId finalId =>
        if finalId < firstId ∨ expected ≤ finalId then
          (err "prepared old depth no longer matches book position", { book with state := .gap })
        else (.ok .old, book)
      | .apply firstId finalId bids asks =>
        if finalId < firstId ∨ expected < firstId ∨ finalId < expected then
          (err "prepared depth does not bridge book position", { book with state := .gap })
        else book.applyLevels codec finalId bids asks

def applyDepthValue (codec : BookCodec) (book : LocalOrderBook) (value : Value) :
    Result ApplyOutcome × LocalOrderBook :=
  match book.prepareDepthValue codec value with
  | (.error e, book) => (.error e, book)
  | (.ok prepared, book) => book.applyPreparedDepth codec prepared

def applyDepth (codec : BookCodec) (book : LocalOrderBook) (payload : Bytes) :
    Result ApplyOutcome × LocalOrderBook :=
  match codec.fromSlice payload with
  | .error e => (err s!"invalid depth JSON: {e}", book)
  | .ok value => book.applyDepthValue codec value

/-- The levels of a side as `state_digest` writes them. -/
def levelsText (levels : List Level) : String :=
  String.intercalate "," (levels.map fun level =>
    "[\"" ++ level.1.display ++ "\",\"" ++ level.2.display ++ "\"]")

def stateDigest (codec : BookCodec) (book : LocalOrderBook) : String :=
  let canonical := "\x7b\"asks\":[" ++ levelsText book.asks.toList ++ "],\"bids\":[" ++
    levelsText book.bids.toList.reverse ++ "],\"last_update_id\":" ++
    toString (book.lastUpdateId.getD 0) ++ ",\"symbol\":\"" ++ book.symbol ++ "\"\x7d"
  hex (codec.digest (asBytes canonical)).bytes

end LocalOrderBook

/-! ## The codec on known payloads

serde_json and SHA-256 as they act on the compact texts of given values and on given bytes. -/

def BookCodec.known (values : List Value) (digests : List (Bytes × Nat)) : BookCodec where
  fromSlice payload :=
    okText (values.find? fun value => decide (value.toVec = payload))
  digest bytes := digestOfNat ((digests.lookup bytes).getD 0)
  debug text := "\"" ++ text ++ "\""
where
  /-- An unknown text is no JSON. -/
  okText : Option Value → Except String Value
    | some value => .ok value
    | none => .error "expected value at line 1 column 1"

end LobReplay.Book
