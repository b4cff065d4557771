/-
  The durable trade identity log, `TradeIdentityLog` of live_arbitration.rs: a 32-byte header that
  commits a record count, then fixed 40-byte records (trade ID and raw SHA-256).

  `insert` appends at the END of the file, `sync` commits the count in the header, and `open`,
  `lookup` and `validate` address records by count from the header on. The file position the Rust
  code keeps is not part of the state: every access seeks first.
-/

import LobReplay.Common
import LobReplay.Foundation.File

namespace LobReplay

open Foundation

/-- `IDENTITY_LOG_MAGIC`: `b"LOBIDLOG"`. -/
def identityLogMagic : Bytes := [76, 79, 66, 73, 68, 76, 79, 71]

def identityLogVersion : Nat := 1

def identityLogHeaderBytes : Nat := 32

def identityLogRecordBytes : Nat := 40

/-! ## Digest texts -/

/-- The `nibble` closure of `hex_decode_32`. -/
def nibble (b : UInt8) : UInt8 :=
  if 48 ≤ b && b ≤ 57 then b - 48
  else if 97 ≤ b && b ≤ 102 then b - 97 + 10
  else b - 65 + 10

/-- The decoding loop of `hex_decode_32`: one byte for each pair of digits. -/
def nibblePairs : Bytes → Bytes
  | high :: low :: rest => ((nibble high <<< 4) ||| nibble low) :: nibblePairs rest
  | _ => []

theorem nibblePairs_length : ∀ (n : Nat) (text : Bytes), text.length = 2 * n →
    (nibblePairs text).length = n
  | 0, [], _ => rfl
  | n + 1, _ :: _ :: rest, h => by
    have hrest : rest.length = 2 * n := by
      simp only [List.length_cons] at h
      omega
    simp [nibblePairs, nibblePairs_length n rest hrest]
  | 0, _ :: _, h => by simp at h
  | _ + 1, [], h => by simp at h
  | _ + 1, [_], h => by
    simp only [List.length_cons, List.length_nil] at h
    omega

def hexDecode32 (text : String) : Result (FixedBytes 32) :=
  if h : (asBytes text).length = 64 ∧ (asBytes text).all isAsciiHexdigit = true then
    .ok ⟨nibblePairs (asBytes text), nibblePairs_length 32 _ h.1⟩
  else
    err "trade identity digest is not a 64-character hex SHA-256"

def hexEncode32 (digest : FixedBytes 32) : String := hex digest.bytes

/-! ## The log -/

/-- `TradeIdentityLog`. The file always holds the header and the records below
    `count`: `create` and `open` establish it and `insert` grows both. -/
structure TradeIdentityLog where
  file : File
  count : Nat
  lastId : Option UInt64
  /-- Records were written since the last header sync. -/
  dirty : Bool
  committed_le : identityLogHeaderBytes + count * identityLogRecordBytes ≤ file.len
  deriving DecidableEq

/-- One 40-byte record: the trade ID little-endian, then the raw digest. -/
def identityRecordBytes (id : UInt64) (digest : FixedBytes 32) : Bytes :=
  leBytes 8 id.toNat ++ digest.bytes

@[simp] theorem identityRecordBytes_length (id : UInt64) (digest : FixedBytes 32) :
    (identityRecordBytes id digest).length = identityLogRecordBytes := by
  simp [identityRecordBytes, digest.length_eq, identityLogRecordBytes]

namespace TradeIdentityLog

/-- `header_bytes`: magic, version, count and 12 reserved zero bytes. -/
def headerBytes (count : Nat) : Bytes :=
  identityLogMagic ++ leBytes 4 identityLogVersion ++ leBytes 8 count ++ List.replicate 12 0

@[simp] theorem headerBytes_length (count : Nat) :
    (headerBytes count).length = identityLogHeaderBytes := by
  simp [headerBytes, identityLogMagic, identityLogHeaderBytes]

def readRecordAt (file : File) (index : Nat) : Result (UInt64 × FixedBytes 32) :=
  if index * identityLogRecordBytes ≤ u64Max
      ∧ identityLogHeaderBytes + index * identityLogRecordBytes ≤ u64Max then
    match file.readExactAt (identityLogHeaderBytes + index * identityLogRecordBytes)
        identityLogRecordBytes with
    | none => err "read trade identity record: failed to fill whole buffer"
    | some bytes =>
      .ok (UInt64.ofNat (leValue (bytes.bytes.take 8)),
        ⟨bytes.bytes.drop 8, by simp [bytes.length_eq, identityLogRecordBytes]⟩)
  else
    err "trade identity record offset overflow"

/-- `create`: a new log holds the header of an empty one. -/
def create : TradeIdentityLog where
  file := ⟨headerBytes 0, by simp [identityLogHeaderBytes, maxFileLength]⟩
  count := 0
  lastId := none
  dirty := false
  committed_le := by simp [File.len]

/-- `open`, for the file found at `path`. -/
def «open» (path : String) (file : File) : Result TradeIdentityLog :=
  match file.readExactAt 0 identityLogHeaderBytes with
  | none => err s!"trade identity log {path} is shorter than its header"
  | some header =>
    if header.bytes.take 8 ≠ identityLogMagic
        ∨ leValue ((header.bytes.drop 8).take 4) ≠ identityLogVersion then
      err s!"trade identity log {path} carries an unknown header"
    else
      let count := leValue ((header.bytes.drop 12).take 8)
      -- `saturating_mul`, then `checked_add`
      let expected := identityLogHeaderBytes + min (count * identityLogRecordBytes) u64Max
      if u64Max < expected then
        err "trade identity log length overflow"
      else if h : expected ≤ file.len then
        let lastId : Result (Option UInt64) :=
          if count = 0 then .ok none
          else (readRecordAt file (count - 1)).map (fun record => some record.1)
        match lastId with
        | .error e => .error e
        | .ok lastId =>
          .ok { file, count, lastId, dirty := false, committed_le := by
                  have hlen := file.length_le
                  simp only [File.len, maxFileLength, u64Max, expected] at *
                  omega }
      else
        err s!"trade identity log {path} is truncated: header declares {count} records"

/-- `insert`: append one record at the end of the file. A rejected insert leaves
    the log as it was, but for the bytes a failed write got through. -/
def insert (log : TradeIdentityLog) (id : UInt64) (digestHex : String) :
    Result Unit × TradeIdentityLog :=
  match log.lastId with
  | some last =>
    if id ≤ last then
      (err s!"trade identity log insert regressed: {id} after {last}", log)
    else insertRecord log id digestHex
  | none => insertRecord log id digestHex
where
  /-- The write once the order check has passed. -/
  insertRecord (log : TradeIdentityLog) (id : UInt64) (digestHex : String) :
      Result Unit × TradeIdentityLog :=
    match hexDecode32 digestHex with
    | .error e => (.error e, log)
    | .ok digest =>
      if h : log.file.fits identityLogRecordBytes then
        -- `count.checked_add(1)` cannot fail: `committed_le` keeps the count far below 2^64
        (.ok (), { file := log.file.append (identityRecordBytes id digest)
                   count := log.count + 1, lastId := some id, dirty := true
                   committed_le := by
                     have hle := log.committed_le
                     have hbytes := File.append_bytes (f := log.file)
                       (show log.file.fits (identityRecordBytes id digest).length by
                         rwa [identityRecordBytes_length])
                     simp only [File.len, hbytes, List.length_append,
                       identityRecordBytes_length] at hle ⊢
                     simp only [identityLogHeaderBytes, identityLogRecordBytes] at hle ⊢
                     omega })
      else
        (err "write trade identity record: file too large",
          { log with
            file := log.file.append (identityRecordBytes id digest)
            committed_le := Nat.le_trans log.committed_le (File.len_le_append_len _ _) })

/-- `sync`: write the header that commits every record below `count`. -/
def sync (log : TradeIdentityLog) : TradeIdentityLog :=
  if log.dirty then
    { log with
      file := log.file.overwriteFront (headerBytes log.count) (by
        have hle := log.committed_le
        rw [headerBytes_length]
        omega)
      dirty := false
      committed_le := by
        rw [File.overwriteFront_len]
        exact log.committed_le }
  else log

/-- The binary search of `lookup` over record indexes `[low, high)`. -/
def lookupLoop (file : File) (id : UInt64) (low high : Nat) : Result Nat :=
  if low < high then
    let middle := low + (high - low) / 2
    match readRecordAt file middle with
    | .error e => .error e
    | .ok (candidate, _) =>
      if candidate < id then lookupLoop file id (middle + 1) high
      else lookupLoop file id low middle
  else .ok low
termination_by high - low

def lookup (log : TradeIdentityLog) (id : UInt64) : Result (Option String) :=
  match lookupLoop log.file id 0 log.count with
  | .error e => .error e
  | .ok low =>
    if low < log.count then
      match readRecordAt log.file low with
      | .error e => .error e
      | .ok (candidate, digest) =>
        if candidate = id then .ok (some (hexEncode32 digest)) else .ok none
    else .ok none

def records (log : TradeIdentityLog) : Nat := log.count

/-- The loop of `validate`: `remaining` records from `index` on. -/
def validateFrom (file : File) (previous : Option UInt64) (index : Nat) : Nat → Result Unit
  | 0 => .ok ()
  | remaining + 1 =>
    match readRecordAt file index with
    | .error e => .error e
    | .ok (id, digest) =>
      if previous.any (fun last => decide (id ≤ last)) then
        err s!"trade identity log IDs are not strictly increasing at record {index}"
      else if digest.bytes = List.replicate 32 0 then
        err s!"trade identity log record {index} carries a zero digest"
      else validateFrom file (some id) (index + 1) remaining

def validate (log : TradeIdentityLog) : Result Unit :=
  if log.file.len < min (identityLogHeaderBytes
      + min (log.count * identityLogRecordBytes) u64Max) u64Max then
    err "trade identity log is truncated"
  else validateFrom log.file none 0 log.count

end TradeIdentityLog

end LobReplay
