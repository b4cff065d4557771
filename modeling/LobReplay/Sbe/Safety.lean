/-
  The decoder of cpp/sbe/src/binance_sbe.cpp once more, statement by statement: each load from the
  buffer, each addition and subtraction of sizes in a bounds check, each turn of a loop and each
  assignment to `out` is a step of its own.

  Every function is shown to read in bounds and to compute what its counterpart in
  `LobReplay.Sbe.Decode` computes. The entries of a group move the position on by at least their
  width, so the turns are paid for by bytes of the message.
-/

import LobReplay.Foundation.Checked
import LobReplay.Sbe.Decode

namespace LobReplay.Sbe

open Foundation (Bytes byteAt byteAt_drop Checked)
open Foundation.Checked

/-- A byte string with a length of type `size_t`. -/
structure Buffer where
  bytes : Bytes
  fits : bytes.length < 2 ^ 64

namespace Stepwise

variable {σ α : Type}

/-! ## Words -/

def rd16 (data : Bytes) (p : Nat) : Checked σ DecodeStatus UInt16 := do
  let b0 ← load data p
  let b1 ← load data (p + 1)
  pure (b0.toUInt16 ||| b1.toUInt16 <<< 8)

def rd32 (data : Bytes) (p : Nat) : Checked σ DecodeStatus UInt32 := do
  let b0 ← load data p
  let b1 ← load data (p + 1)
  let b2 ← load data (p + 2)
  let b3 ← load data (p + 3)
  pure (b0.toUInt32 ||| b1.toUInt32 <<< 8 ||| b2.toUInt32 <<< 16 ||| b3.toUInt32 <<< 24)

def rd64 (data : Bytes) (p : Nat) : Checked σ DecodeStatus UInt64 := do
  let low ← rd32 data p
  let high ← rd32 data (p + 4)
  pure (low.toUInt64 ||| high.toUInt64 <<< 32)

/-- `(int64_t)rd64(data + p)`. -/
def rdInt64 (data : Bytes) (p : Nat) : Checked σ DecodeStatus Int64 := do
  let v ← rd64 data p
  pure v.toInt64

/-- `(int8_t)data[p]`. -/
def rdInt8 (data : Bytes) (p : Nat) : Checked σ DecodeStatus Int8 := do
  let b ← load data p
  pure b.toInt8

/-! ## Groups and the symbol -/

/-- The bytes `out.assign` copies. -/
def copy (data : Bytes) : Nat → Nat → Checked σ DecodeStatus Bytes
  | _, 0 => pure []
  | p, n + 1 => do
    let b ← load data p
    let rest ← copy data (p + 1) n
    pure (b :: rest)

def readVarString (data : Bytes) (off : Nat) : Checked σ DecodeStatus Bytes :=
  if data.length ≤ off then fail .truncated
  else do
    let n ← load data off
    let start ← add off 1
    let stop ← add start n.toNat
    if data.length < stop then fail .truncated
    else copy data (off + 1) n.toNat

/-- The loop over the entries of a group. -/
def readEntries (read : Nat → Checked σ DecodeStatus α) (grpBlock : Nat) :
    Nat → Nat → Checked σ DecodeStatus (List α × Nat)
  | 0, pos => pure ([], pos)
  | num + 1, pos => do
    turn
    let entry ← read pos
    let next ← add pos grpBlock
    let rest ← readEntries read grpBlock num next
    pure (entry :: rest.1, rest.2)

/-- An entry of the trades group. -/
def readTrade (priceExponent qtyExponent : Int8) (data : Bytes) (e : Nat) :
    Checked σ DecodeStatus Trade := do
  let id ← rdInt64 data e
  let price ← rdInt64 data (e + 8)
  let qty ← rdInt64 data (e + 16)
  let isBuyerMaker ← load data (e + 24)
  pure ⟨id, ⟨price, priceExponent⟩, ⟨qty, qtyExponent⟩, isBuyerMaker, 1⟩

/-- An entry of a level group. -/
def readLevel (priceExponent qtyExponent : Int8) (data : Bytes) (e : Nat) :
    Checked σ DecodeStatus Level := do
  let price ← rdInt64 data e
  let qty ← rdInt64 data (e + 8)
  pure ⟨⟨price, priceExponent⟩, ⟨qty, qtyExponent⟩⟩

/-- `if (num > (len - pos) / grp_block) return Truncated`, and the loop. -/
def readChecked (read : Nat → Checked σ DecodeStatus α) (data : Bytes) (grpBlock num pos : Nat) :
    Checked σ DecodeStatus (List α × Nat) := do
  let room ← sub data.length pos
  let most ← div room grpBlock
  if most < num then fail .truncated
  else readEntries read grpBlock num pos

/-- A group of levels with its header at `pos`. -/
def readLevels (priceExponent qtyExponent : Int8) (data : Bytes) (pos : Nat) :
    Checked σ DecodeStatus (List Level × Nat) := do
  let grpBlock ← rd16 data pos
  let num ← rd16 data (pos + 2)
  if grpBlock.toNat < grpLevel then fail .invalidLayout
  else do
    let start ← add pos 4
    readChecked (readLevel priceExponent qtyExponent data) data grpBlock.toNat num.toNat start

/-- The two groups of a depth message and its symbol. -/
def readSides (priceExponent qtyExponent : Int8) (data : Bytes) (pos : Nat) :
    Checked σ DecodeStatus (List Level × List Level × Bytes) := do
  let bids ← readLevels priceExponent qtyExponent data pos
  let header ← add bids.2 4
  if data.length < header then fail .truncated
  else do
    let asks ← readLevels priceExponent qtyExponent data bids.2
    let symbol ← readVarString data asks.2
    pure (bids.1, asks.1, symbol)

/-! ## `decode` -/

/-- The case `10000`. -/
def decodeTrades (data : Bytes) (blockLength : Nat) : Checked σ DecodeStatus TradesStream :=
  if blockLength < blkTrades then fail .invalidLayout
  else if data.length < 8 + blkTrades + 6 then fail .truncated
  else do
    let eventTimeUs ← rdInt64 data 8
    let transactTimeUs ← rdInt64 data 16
    let priceExponent ← rdInt8 data 24
    let qtyExponent ← rdInt8 data 25
    let grpBlock ← rd16 data 26
    let num ← rd32 data 28
    if grpBlock.toNat < grpTrade then fail .invalidLayout
    else do
      let trades ← readChecked (readTrade priceExponent qtyExponent data) data grpBlock.toNat
        num.toNat (8 + blkTrades + 6)
      let symbol ← readVarString data trades.2
      pure ⟨eventTimeUs, transactTimeUs, priceExponent, qtyExponent, trades.1, symbol⟩

/-- The case `10001`. -/
def decodeBestBidAsk (data : Bytes) (blockLength : Nat) : Checked σ DecodeStatus BestBidAsk :=
  if blockLength < blkBestBidAsk then fail .invalidLayout
  else if data.length < 8 + blkBestBidAsk + 1 then fail .truncated
  else do
    let eventTimeUs ← rdInt64 data 8
    let bookUpdateId ← rdInt64 data 16
    let priceExponent ← rdInt8 data 24
    let qtyExponent ← rdInt8 data 25
    let bidPrice ← rdInt64 data 26
    let bidQty ← rdInt64 data 34
    let askPrice ← rdInt64 data 42
    let askQty ← rdInt64 data 50
    let symbol ← readVarString data (8 + blkBestBidAsk)
    pure ⟨eventTimeUs, bookUpdateId, priceExponent, qtyExponent, ⟨bidPrice, priceExponent⟩,
      ⟨bidQty, qtyExponent⟩, ⟨askPrice, priceExponent⟩, ⟨askQty, qtyExponent⟩, symbol⟩

/-- The case `10002`. -/
def decodeDepthSnapshot (data : Bytes) (blockLength : Nat) :
    Checked σ DecodeStatus DepthSnapshot :=
  if blockLength < blkSnapshot then fail .invalidLayout
  else if data.length < 8 + blkSnapshot + 4 + 4 + 1 then fail .truncated
  else do
    let eventTimeUs ← rdInt64 data 8
    let bookUpdateId ← rdInt64 data 16
    let priceExponent ← rdInt8 data 24
    let qtyExponent ← rdInt8 data 25
    let sides ← readSides priceExponent qtyExponent data (8 + blkSnapshot)
    pure ⟨eventTimeUs, bookUpdateId, priceExponent, qtyExponent, sides.1, sides.2.1, sides.2.2⟩

/-- The case `10003`. -/
def decodeDepthDiff (data : Bytes) (blockLength : Nat) : Checked σ DecodeStatus DepthDiff :=
  if blockLength < blkDiff then fail .invalidLayout
  else if data.length < 8 + blkDiff + 4 + 4 + 1 then fail .truncated
  else do
    let eventTimeUs ← rdInt64 data 8
    let firstBookUpdateId ← rdInt64 data 16
    let lastBookUpdateId ← rdInt64 data 24
    let priceExponent ← rdInt8 data 32
    let qtyExponent ← rdInt8 data 33
    let sides ← readSides priceExponent qtyExponent data (8 + blkDiff)
    pure ⟨eventTimeUs, firstBookUpdateId, lastBookUpdateId, priceExponent, qtyExponent, sides.1,
      sides.2.1, sides.2.2⟩

/-- The five assignments at the end of each case. -/
def assign (type : MessageType) (templateId schema version : UInt16) (payload : Payload) :
    Checked Decoded DecodeStatus Unit := do
  write fun out => { out with type := type }
  write fun out => { out with templateId := templateId }
  write fun out => { out with schemaId := schema }
  write fun out => { out with version := version }
  write fun out => { out with payload := payload }

/-- `decode`, with `out` as the state. -/
def decode (data : Bytes) : Checked Decoded DecodeStatus Unit :=
  if data.length < 8 then fail .truncated
  else do
    let blockLength ← rd16 data 0
    let templateId ← rd16 data 2
    let schema ← rd16 data 4
    let version ← rd16 data 6
    if schema ≠ schemaId ∨ version ≠ schemaVersion then fail .schemaMismatch
    else if templateId = 10000 then do
      let m ← decodeTrades data blockLength.toNat
      assign .tradesStreamEvent templateId schema version (.trades m)
    else if templateId = 10001 then do
      let m ← decodeBestBidAsk data blockLength.toNat
      assign .bestBidAskStreamEvent templateId schema version (.bestBidAsk m)
    else if templateId = 10002 then do
      let m ← decodeDepthSnapshot data blockLength.toNat
      assign .depthSnapshotStreamEvent templateId schema version (.depthSnapshot m)
    else if templateId = 10003 then do
      let m ← decodeDepthDiff data blockLength.toNat
      assign .depthDiffStreamEvent templateId schema version (.depthDiff m)
    else fail .unknownTemplate

/-! ## Reading in bounds -/

section

variable {data : Bytes} {p n : Nat} {e len : Nat}

theorem reads_rd16 (h : p + 2 ≤ data.length) :
    Reads data.length (rd16 data p : Checked σ _ _)
      (.ok (Foundation.LittleEndian.rd16 (data.drop p))) n := by
  rw [Foundation.LittleEndian.rd16, byteAt_drop, byteAt_drop]
  exact (Reads.load (by omega)).seq <| (Reads.load (by omega)).seq <| Reads.pure _

theorem reads_rd32 (h : p + 4 ≤ data.length) :
    Reads data.length (rd32 data p : Checked σ _ _)
      (.ok (Foundation.LittleEndian.rd32 (data.drop p))) n := by
  rw [Foundation.LittleEndian.rd32, byteAt_drop, byteAt_drop, byteAt_drop, byteAt_drop]
  exact (Reads.load (by omega)).seq <| (Reads.load (by omega)).seq <|
    (Reads.load (by omega)).seq <| (Reads.load (by omega)).seq <| Reads.pure _

theorem reads_rd64 (h : p + 8 ≤ data.length) :
    Reads data.length (rd64 data p : Checked σ _ _)
      (.ok (Foundation.LittleEndian.rd64 (data.drop p))) n := by
  rw [Foundation.LittleEndian.rd64, List.drop_drop]
  exact (reads_rd32 (by omega)).seq <| (reads_rd32 (by omega)).seq <| Reads.pure _

theorem reads_rdInt64 (h : p + 8 ≤ data.length) :
    Reads data.length (rdInt64 data p : Checked σ _ _) (.ok (Sbe.rdInt64 data p)) n :=
  (reads_rd64 h).seq <| Reads.pure _

theorem reads_rdInt8 (h : p < data.length) :
    Reads data.length (rdInt8 data p : Checked σ _ _) (.ok (Sbe.rdInt8 data p)) n :=
  (Reads.load h).seq <| Reads.pure _

theorem reads_copy {k : Nat} (h : p + k ≤ data.length) :
    Reads data.length (copy data p k : Checked σ _ _) (.ok ((data.drop p).take k)) n := by
  induction k generalizing p with
  | zero => exact Reads.pure _
  | succ k ih =>
    rw [Foundation.take_succ_of_le (n := k) (by rw [List.length_drop]; omega), byteAt_drop,
      List.drop_drop]
    have hrest := @ih (p + 1) (by omega)
    exact (Reads.load (by omega)).seq <| hrest.map _

theorem reads_readVarString {off : Nat} (hoff : off + 256 < 2 ^ 64) :
    Reads data.length (readVarString data off : Checked σ _ _) (Sbe.readVarString data off) n := by
  rw [readVarString, Sbe.readVarString]
  split
  · exact Reads.fail _
  rename_i hlt
  have hbyte := (byteAt data off).toNat_lt
  refine (Reads.load (by omega)).seq <| (Reads.add (by omega)).seq <|
    (Reads.add (by omega)).seq ?_
  dsimp only
  split
  · exact Reads.fail _
  · exact reads_copy (by omega)

/-! ## Groups -/

theorem readEntries_snd (read : Bytes → Nat → α) (data : Bytes) (grpBlock num pos : Nat) :
    (Sbe.readEntries read data grpBlock num pos).2 = pos + num * grpBlock := by
  induction num generalizing pos with
  | zero => rw [Sbe.readEntries, Nat.zero_mul, Nat.add_zero]
  | succ num ih =>
    rw [Sbe.readEntries, ih, Nat.succ_mul]
    omega

variable {pos blockLength : Nat} {pe qe : Int8}

/-- **Run.** The loop over the entries, one turn an entry. -/
theorem reads_readEntries {read : Nat → Checked σ DecodeStatus α} {value : Bytes → Nat → α}
    {width grpBlock num : Nat}
    (hread : ∀ e, e + width ≤ data.length → Reads data.length (read e) (.ok (value data e)) 0)
    (hwidth : width ≤ grpBlock) (hfits : data.length < 2 ^ 64)
    (hroom : pos + num * grpBlock ≤ data.length) :
    Reads data.length (readEntries read grpBlock num pos)
      (.ok (Sbe.readEntries value data grpBlock num pos)) num := by
  induction num generalizing pos with
  | zero => exact Reads.pure _
  | succ num ih =>
    rw [Nat.succ_mul] at hroom
    have hrest : Reads data.length (readEntries read grpBlock num (pos + grpBlock))
        (.ok (Sbe.readEntries value data grpBlock num (pos + grpBlock))) num := ih (by omega)
    intro s
    refine (Reads.turn s).bind_ok (k := num) ?_ (by omega)
    exact (hread pos (by omega)).seq ((Reads.add (by omega)).seq (hrest.map _)) s

/-- The turns of a group that ends in `r`: no more than the bytes it takes from `pos` on. -/
def spent (r : Except DecodeStatus (List α × Nat)) (pos : Nat) : Nat :=
  match r with
  | .ok x => x.2 - pos
  | .error _ => 0

/-- Where a group that ends in `r` stops. -/
def Stops (r : Except DecodeStatus (List α × Nat)) (pos last : Nat) : Prop :=
  ∀ x, r = .ok x → pos ≤ x.2 ∧ x.2 ≤ last

theorem spent_le {r : Except DecodeStatus (List α × Nat)} {last : Nat} (h : Stops r pos last) :
    spent r pos ≤ last - pos := by
  cases r with
  | error e => exact Nat.zero_le _
  | ok x => exact Nat.sub_le_sub_right (h x rfl).2 pos

theorem spent_antitone (r : Except DecodeStatus (List α × Nat)) {pos' : Nat} (h : pos ≤ pos') :
    spent r pos' ≤ spent r pos := by
  cases r with
  | error e => exact Nat.le_refl 0
  | ok x => exact Nat.sub_le_sub_left h x.2

/-- **Group.** The check of the number of entries lets in what fits. -/
theorem reads_readChecked {read : Nat → Checked σ DecodeStatus α} {value : Bytes → Nat → α}
    {width grpBlock num pos : Nat}
    (hread : ∀ e, e + width ≤ data.length → Reads data.length (read e) (.ok (value data e)) 0)
    (hpos : 0 < width) (hwidth : width ≤ grpBlock) (hfits : data.length < 2 ^ 64)
    (hstart : pos ≤ data.length) :
    Reads data.length (readChecked read data grpBlock num pos)
        (Sbe.readGroup value width data grpBlock num pos)
        (spent (Sbe.readGroup value width data grpBlock num pos) pos) ∧
      Stops (Sbe.readGroup value width data grpBlock num pos) pos
        (min data.length (pos + num * grpBlock)) := by
  rw [Sbe.readGroup, if_neg (Nat.not_lt.mpr hwidth)]
  split
  · rename_i hmany
    refine ⟨?_, fun x hx => by cases hx⟩
    refine (Reads.sub hstart hfits).seq <| (Reads.div (by omega)).seq ?_
    rw [if_pos hmany]
    exact Reads.fail _
  · rename_i hfew
    have hroom : num * grpBlock ≤ data.length - pos :=
      (Nat.le_div_iff_mul_le (by omega)).mp (Nat.not_lt.mp hfew)
    have hturns : num ≤ num * grpBlock := Nat.le_mul_of_pos_right num (by omega)
    have hstop := readEntries_snd value data grpBlock num pos
    constructor
    · refine (Reads.sub hstart hfits).seq <| (Reads.div (by omega)).seq ?_
      rw [if_neg hfew]
      refine (reads_readEntries hread hwidth hfits (by omega)).mono ?_
      rw [spent, hstop]
      omega
    · intro x hx
      cases hx
      rw [hstop]
      omega

theorem reads_readTrade (h : e + grpTrade ≤ data.length) :
    Reads data.length (readTrade pe qe data e : Checked σ _ _) (.ok (Sbe.readTrade pe qe data e))
      0 := by
  rw [grpTrade] at h
  exact (reads_rdInt64 (by omega)).seq <| (reads_rdInt64 (by omega)).seq <|
    (reads_rdInt64 (by omega)).seq <| (Reads.load (by omega)).seq <| Reads.pure _

theorem reads_readLevel (h : e + grpLevel ≤ data.length) :
    Reads data.length (readLevel pe qe data e : Checked σ _ _) (.ok (Sbe.readLevel pe qe data e))
      0 := by
  rw [grpLevel] at h
  exact (reads_rdInt64 (by omega)).seq <| (reads_rdInt64 (by omega)).seq <| Reads.pure _

/-- **Group of levels.** Its length is at most that of 2^16 entries of 2^16 bytes. -/
theorem reads_readLevels {pe qe : Int8} {pos : Nat} (hfits : data.length < 2 ^ 64)
    (hheader : pos + 4 ≤ data.length) :
    Reads data.length (readLevels pe qe data pos : Checked σ _ _) (Sbe.readLevels pe qe data pos)
        (spent (Sbe.readLevels pe qe data pos) pos) ∧
      Stops (Sbe.readLevels pe qe data pos) pos (min data.length (pos + 4 + 2 ^ 32)) := by
  let grpBlock := Foundation.LittleEndian.rd16 (data.drop pos)
  let num := Foundation.LittleEndian.rd16 (data.drop (pos + 2))
  by_cases hwidth : grpBlock.toNat < grpLevel
  · have hbad : Sbe.readLevels pe qe data pos = .error .invalidLayout := by
      rw [Sbe.readLevels, Sbe.readGroup, if_pos hwidth]
    rw [hbad]
    refine ⟨?_, fun x hx => by cases hx⟩
    refine (reads_rd16 (by omega)).seq <| (reads_rd16 (by omega)).seq ?_
    rw [if_pos hwidth]
    exact Reads.fail _
  · have hgroup := @reads_readChecked σ Level data (readLevel pe qe data) (Sbe.readLevel pe qe)
      grpLevel grpBlock.toNat num.toNat (pos + 4) (fun e he => reads_readLevel he) (by decide)
      (Nat.not_lt.mp hwidth) hfits hheader
    have hlong : num.toNat * grpBlock.toNat ≤ 2 ^ 16 * 2 ^ 16 :=
      Nat.mul_le_mul (Nat.le_of_lt num.toNat_lt) (Nat.le_of_lt grpBlock.toNat_lt)
    constructor
    · refine (reads_rd16 (by omega)).seq <| (reads_rd16 (by omega)).seq ?_
      rw [if_neg hwidth]
      exact (Reads.add (by omega)).seq
        (hgroup.1.mono (spent_antitone _ (Nat.le_add_right pos 4)))
    · intro x hx
      have hstop := hgroup.2 x hx
      omega

theorem reads_readSides (hfits : data.length < 2 ^ 64) (hheader : pos + 4 ≤ data.length)
    (hpos : pos < 2 ^ 32) :
    Reads data.length (readSides pe qe data pos : Checked σ _ _) (Sbe.readSides pe qe data pos)
      (data.length - pos) := by
  obtain ⟨hbids, hbidsStop⟩ := @reads_readLevels σ data pe qe pos hfits hheader
  have hbidsSpent := spent_le hbidsStop
  refine hbids.bind (by omega) fun bids heq => ?_
  have hstop := hbidsStop bids heq
  refine ⟨data.length - bids.2, ?_, ?_⟩
  · rw [heq]
    show bids.2 - pos + _ ≤ _
    omega
  refine (Reads.add (by omega)).seq ?_
  split
  · exact Reads.fail _
  rename_i hroom
  obtain ⟨hasks, hasksStop⟩ :=
    @reads_readLevels σ data pe qe bids.2 hfits (Nat.not_lt.mp hroom)
  have hasksSpent := spent_le hasksStop
  refine hasks.bind (by omega) fun asks heq' => ?_
  have hstop' := hasksStop asks heq'
  exact ⟨0, by omega, (reads_readVarString (by omega)).map _⟩

/-! ## The four cases -/

theorem reads_decodeTrades (hfits : data.length < 2 ^ 64) :
    Reads data.length (decodeTrades data blockLength : Checked σ _ _)
      (Sbe.decodeTrades data blockLength) data.length := by
  rw [decodeTrades, Sbe.decodeTrades, blkTrades]
  split
  · exact Reads.fail _
  split
  · exact Reads.fail _
  rename_i hlen
  refine (reads_rdInt64 (by omega)).seq <| (reads_rdInt64 (by omega)).seq <|
    (reads_rdInt8 (by omega)).seq <| (reads_rdInt8 (by omega)).seq <|
    (reads_rd16 (by omega)).seq <| (reads_rd32 (by omega)).seq ?_
  split
  · rename_i hwidth
    rw [Sbe.readGroup, if_pos hwidth]
    exact Reads.fail _
  rename_i hwidth
  have hgroup := @reads_readChecked σ Trade data
    (readTrade (Sbe.rdInt8 data 24) (Sbe.rdInt8 data 25) data)
    (Sbe.readTrade (Sbe.rdInt8 data 24) (Sbe.rdInt8 data 25)) grpTrade _
    (Foundation.LittleEndian.rd32 (data.drop 28)).toNat (8 + 18 + 6)
    (fun e he => reads_readTrade he) (by decide) (Nat.not_lt.mp hwidth) hfits (by omega)
  have hlong : (Foundation.LittleEndian.rd32 (data.drop 28)).toNat *
      (Foundation.LittleEndian.rd16 (data.drop 26)).toNat ≤ 2 ^ 32 * 2 ^ 16 :=
    Nat.mul_le_mul (Nat.le_of_lt (UInt32.toNat_lt _)) (Nat.le_of_lt (UInt16.toNat_lt _))
  have hspent := spent_le hgroup.2
  refine hgroup.1.bind (by omega) fun trades heq => ?_
  have hstop := hgroup.2 trades heq
  exact ⟨0, by omega, (reads_readVarString (by omega)).map _⟩

theorem reads_decodeBestBidAsk :
    Reads data.length (decodeBestBidAsk data blockLength : Checked σ _ _)
      (Sbe.decodeBestBidAsk data blockLength) n := by
  rw [decodeBestBidAsk, Sbe.decodeBestBidAsk, blkBestBidAsk]
  split
  · exact Reads.fail _
  split
  · exact Reads.fail _
  rename_i hlen
  exact (reads_rdInt64 (by omega)).seq <| (reads_rdInt64 (by omega)).seq <|
    (reads_rdInt8 (by omega)).seq <| (reads_rdInt8 (by omega)).seq <|
    (reads_rdInt64 (by omega)).seq <| (reads_rdInt64 (by omega)).seq <|
    (reads_rdInt64 (by omega)).seq <| (reads_rdInt64 (by omega)).seq <|
    (reads_readVarString (by decide)).map _

theorem reads_decodeDepthSnapshot (hfits : data.length < 2 ^ 64) :
    Reads data.length (decodeDepthSnapshot data blockLength : Checked σ _ _)
      (Sbe.decodeDepthSnapshot data blockLength) data.length := by
  rw [decodeDepthSnapshot, Sbe.decodeDepthSnapshot, blkSnapshot]
  split
  · exact Reads.fail _
  split
  · exact Reads.fail _
  rename_i hlen
  refine (reads_rdInt64 (by omega)).seq <| (reads_rdInt64 (by omega)).seq <|
    (reads_rdInt8 (by omega)).seq <| (reads_rdInt8 (by omega)).seq ?_
  exact ((reads_readSides hfits (by omega) (by decide)).mono (Nat.sub_le _ _)).map _

theorem reads_decodeDepthDiff (hfits : data.length < 2 ^ 64) :
    Reads data.length (decodeDepthDiff data blockLength : Checked σ _ _)
      (Sbe.decodeDepthDiff data blockLength) data.length := by
  rw [decodeDepthDiff, Sbe.decodeDepthDiff, blkDiff]
  split
  · exact Reads.fail _
  split
  · exact Reads.fail _
  rename_i hlen
  refine (reads_rdInt64 (by omega)).seq <| (reads_rdInt64 (by omega)).seq <|
    (reads_rdInt64 (by omega)).seq <| (reads_rdInt8 (by omega)).seq <|
    (reads_rdInt8 (by omega)).seq ?_
  exact ((reads_readSides hfits (by omega) (by decide)).mono (Nat.sub_le _ _)).map _

/-! ## The whole call -/

/-- `out` after a call that ends in `r`. -/
def outAfter (out : Decoded) : Except DecodeStatus Decoded → Decoded
  | .ok d => d
  | .error _ => out

theorem runs_assign {out : Decoded} (d : Decoded) :
    Checked.Runs len (assign d.type d.templateId d.schemaId d.version d.payload) out (.ok ()) d 0 :=
  .of_eq [] rfl (by simp) (Nat.le_refl 0)

theorem runs_case {c : Checked Decoded DecodeStatus α} {r : Except DecodeStatus α}
    (hc : Reads len c r n) (f : α → Decoded) (out : Decoded) :
    Checked.Runs len (c >>= fun m => assign (f m).type (f m).templateId (f m).schemaId (f m).version
        (f m).payload) out ((r.map f).map fun _ => ()) (outAfter out (r.map f)) n := by
  cases r with
  | error e => exact (hc out).bind_error (Nat.le_refl n)
  | ok m => exact (hc out).bind_ok (runs_assign (f m)) (Nat.le_refl n)

theorem runs_decode (hfits : data.length < 2 ^ 64) (out : Decoded) :
    Checked.Runs data.length (decode data) out ((Sbe.decode data).map fun _ => ())
      (outAfter out (Sbe.decode data)) data.length := by
  rw [decode, Sbe.decode]
  split
  · exact Reads.fail _ out
  rename_i hlen
  refine (reads_rd16 (n := 0) (by omega) out).bind_ok (k := data.length) ?_ (by omega)
  refine (reads_rd16 (n := 0) (by omega) out).bind_ok (k := data.length) ?_ (by omega)
  refine (reads_rd16 (n := 0) (by omega) out).bind_ok (k := data.length) ?_ (by omega)
  refine (reads_rd16 (n := 0) (by omega) out).bind_ok (k := data.length) ?_ (by omega)
  dsimp only
  split
  · exact Reads.fail _ out
  split
  · exact runs_case (reads_decodeTrades hfits)
      (fun m => ⟨.tradesStreamEvent, _, _, _, .trades m⟩) out
  split
  · exact runs_case reads_decodeBestBidAsk
      (fun m => ⟨.bestBidAskStreamEvent, _, _, _, .bestBidAsk m⟩) out
  split
  · exact runs_case (reads_decodeDepthSnapshot hfits)
      (fun m => ⟨.depthSnapshotStreamEvent, _, _, _, .depthSnapshot m⟩) out
  split
  · exact runs_case (reads_decodeDepthDiff hfits)
      (fun m => ⟨.depthDiffStreamEvent, _, _, _, .depthDiff m⟩) out
  · exact Reads.fail _ out

end

end Stepwise

/-- **Memory safety of the decoder.** On every buffer all loads are in bounds, no arithmetic of
    sizes wraps, and the loops have no more turns than the buffer has bytes. -/
theorem decode_is_memory_safe (data : Buffer) (out : Decoded) :
    (∀ a ∈ (Stepwise.decode data.bytes out).2.2, a.Ok data.bytes.length) ∧
    Foundation.turns (Stepwise.decode data.bytes out).2.2 ≤ data.bytes.length ∧
    (∀ e, (Stepwise.decode data.bytes out).1 = .error e →
      (Stepwise.decode data.bytes out).2.1 = out) ∧
    (Stepwise.decode data.bytes out).1 = (decode data.bytes).map (fun _ => ()) ∧
    ∀ d, decode data.bytes = .ok d → (Stepwise.decode data.bytes out).2.1 = d := by
  have hrun := Stepwise.runs_decode data.fits out
  refine ⟨hrun.access, hrun.turns, fun e he => ?_, hrun.result, fun d hd => ?_⟩
  · rw [hrun.result] at he
    rw [hrun.state]
    cases hdecode : decode data.bytes with
    | error e' => rfl
    | ok d =>
      rw [hdecode] at he
      cases he
  · rw [hrun.state, hd]
    rfl

end LobReplay.Sbe
