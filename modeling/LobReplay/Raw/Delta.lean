/-
  Resuming from an observation (durability_progress.rs). `durable_cursor_at_observation` turns the
  lineage of an observation into the acknowledgement that ends behind its record, and
  `read_durable_raw_delta` reads what lies between two acknowledgements.

  A log of one identity is one reading from the root, whose records carry the frame indices 0, 1, 2,
  ... Count, byte offset, digest and frame index of an acknowledgement are then four views of one
  place: the items in front of its record (`envelope`).
-/

import LobReplay.Hex
import LobReplay.Raw.Range

namespace LobReplay.Raw

open Foundation Std

/-! ## Model -/

def readRawRecordsThroughOffset (codec : RawCodec) (file : File) (durableThroughOffset : Nat) :
    Result (List RawRecordEnvelopeV1) :=
  if durableThroughOffset < magic.length then err "raw prefix ends before magic"
  else if file.len < durableThroughOffset then
    err "raw file is shorter than requested durable prefix"
  else do
    let reader ← readMagic (file.bytes.take durableThroughOffset)
    let records ← readRawRecordsAfterMagic codec reader magic.length zeroDigest ∅
    if (records.getLast?.map (·.endOffset)).getD magic.length ≠ durableThroughOffset then
      err "requested durable prefix does not end on a record boundary"
    else .ok records

def validateAck (ack : DurabilityAckV1) : Result Unit :=
  if ack.schema ≠ "DurabilityAckV1" ∨ ack.durableRecordCount = 0 ∨ ack.durableThroughOffset = 0 ∨
      ¬ isHex64 ack.lastRecordSha256 ∨ ack.streams.length ≠ 1 then
    err "invalid durability ACK"
  else .ok ()

/-- `streams[0]`. -/
def firstStream (ack : DurabilityAckV1) : Result StreamDurabilityWatermarkV1 :=
  match ack.streams with
  | [] => .error .abort
  | stream :: _ => .ok stream

def readDurableRawDelta (codec : RawCodec) (file : File) (previous next : DurabilityAckV1) :
    Result (List RawRecordEnvelopeV1) := do
  validateAck previous
  validateAck next
  let old ← firstStream previous
  let new ← firstStream next
  if old.connectionEpoch ≠ new.connectionEpoch ∨ old.stream ≠ new.stream ∨
      next.durableRecordCount ≤ previous.durableRecordCount ∨
      next.durableThroughOffset ≤ previous.durableThroughOffset ∨
      new.durableThroughFrameIndex ≤ old.durableThroughFrameIndex then
    err "durability delta does not strictly continue one raw stream"
  else if old.durableThroughFrameIndex = maxU64 then err "durability frame index overflow"
  else do
    let records ← readRawRecordRange codec file previous.durableThroughOffset
      next.durableThroughOffset previous.lastRecordSha256 old.connectionEpoch old.stream
      (old.durableThroughFrameIndex + 1)
    match records.getLast? with
    | none => err "durability delta produced no records"
    | some last =>
      if records.length ≠ next.durableRecordCount - previous.durableRecordCount ∨
          last.recordSha256 ≠ next.lastRecordSha256 ∨
          last.frame.frameIndex ≠ new.durableThroughFrameIndex ∨
          last.frame.connectionEpoch ≠ new.connectionEpoch ∨ last.frame.stream ≠ new.stream then
        err "durability delta does not match its terminal ACK"
      else .ok records

def isNamed (observation : CanonicalObservationV1) (record : RawRecordEnvelopeV1) : Bool :=
  record.frame.connectionEpoch == observation.connectionEpoch &&
    record.frame.stream == observation.stream &&
    record.frame.frameIndex == observation.frameIndex &&
    record.recordSha256 == observation.recordSha256

/-- The acknowledgement that ends behind a record. -/
def ackOf (record : RawRecordEnvelopeV1) : DurabilityAckV1 where
  schema := "DurabilityAckV1"
  durableRecordCount := record.recordIndex + 1
  durableThroughOffset := record.endOffset
  lastRecordSha256 := record.recordSha256
  streams := [⟨record.frame.connectionEpoch, record.frame.stream, record.frame.frameIndex⟩]

def durableCursorAtObservation (codec : RawCodec) (file : File) (terminal : DurabilityAckV1)
    (observation : CanonicalObservationV1) : Result DurabilityAckV1 := do
  validateAck terminal
  let terminalStream ← firstStream terminal
  if observation.connectionEpoch ≠ terminalStream.connectionEpoch ∨
      observation.stream ≠ terminalStream.stream ∨
      terminalStream.durableThroughFrameIndex < observation.frameIndex then
    err "canonical observation is outside the durable raw stream"
  else do
    let records ← readRawRecordsThroughOffset codec file terminal.durableThroughOffset
    if records.length ≠ terminal.durableRecordCount then
      err "terminal ACK count differs from durable raw prefix"
    else
      match records.getLast? with
      | none => err "durable raw prefix is empty"
      | some terminalRecord =>
        if terminalRecord.recordSha256 ≠ terminal.lastRecordSha256 ∨
            terminalRecord.endOffset ≠ terminal.durableThroughOffset then
          err "terminal ACK differs from durable raw prefix"
        else
          match records.filter (isNamed observation) with
          | [] => err "canonical observation lineage is absent from durable raw"
          | [record] => .ok (ackOf record)
          | _ => err "canonical observation lineage is not unique in durable raw"

/-- The deltas between the acknowledgements, one after another. -/
def chainDeltas (codec : RawCodec) (file : File) :
    List DurabilityAckV1 → Result (List RawRecordEnvelopeV1)
  | previous :: next :: rest => do
    let delta ← readDurableRawDelta codec file previous next
    let later ← chainDeltas codec file (next :: rest)
    .ok (delta ++ later)
  | _ => .ok []

/-! ## Logs of one identity -/

structure SingleLog (codec : RawCodec) (file : File) (identity : Identity)
    (records : List RawRecordEnvelopeV1) : Prop where
  read : ∃ offset, readRawRecordsThroughOffset codec file offset = .ok records
  own : ∀ record ∈ records, record.frame.identity = identity

/-- A record without its place among the records that are read with it. -/
def uncounted (record : RawRecordEnvelopeV1) : RawRecordEnvelopeV1 :=
  { record with recordIndex := 0 }

theorem uncounted_envelopes (recordIndex recordIndex' offset : Nat)
    (items : List (ReadRecord × Nat)) :
    (envelopes recordIndex offset items).map uncounted
      = (envelopes recordIndex' offset items).map uncounted := by
  induction items generalizing recordIndex recordIndex' offset with
  | nil => rfl
  | cons item items ih =>
    rw [envelopes, envelopes, List.map_cons, List.map_cons, ih (recordIndex + 1) (recordIndex' + 1)]
    rfl

theorem recordIndex_envelopes (recordIndex offset : Nat) (items : List (ReadRecord × Nat)) :
    (envelopes recordIndex offset items).map (·.recordIndex)
      = List.range' recordIndex items.length := by
  induction items generalizing recordIndex offset with
  | nil => rfl
  | cons item items ih => rw [envelopes, List.map_cons, ih, List.length_cons, List.range'_succ]

structure Rooted (codec : RawCodec) (file : File) (identity : Identity)
    (items : List (ReadRecord × Nat)) : Prop where
  magic : magic <+: file.bytes
  reads : ∃ chain rest, Reads (rawReader codec none) ⟨zeroDigest, ∅⟩ (file.bytes.drop 8) items
    chain rest
  own : ∀ item ∈ items, item.1.frame.identity = identity

/-- The envelope of an item behind the items `front` of a log. -/
def envelope (front : List (ReadRecord × Nat)) (item : ReadRecord × Nat) : RawRecordEnvelopeV1 where
  schema := "RawRecordEnvelopeV1"
  recordIndex := front.length
  startOffset := 8 + span front
  endOffset := 8 + span front + item.2
  recordSha256 := item.1.recordSha256
  frame := item.1.frame

theorem envelope_endOffset (front : List (ReadRecord × Nat)) (item : ReadRecord × Nat) :
    (envelope front item).endOffset = 8 + span (front ++ [item]) := by
  rw [span_append, span_cons, span_nil]
  show 8 + span front + item.2 = _
  omega

theorem envelopes_split (front back : List (ReadRecord × Nat)) (item : ReadRecord × Nat) :
    envelopes 0 8 (front ++ item :: back)
      = envelopes 0 8 front ++ envelope front item ::
        envelopes (front.length + 1) (8 + span (front ++ [item])) back := by
  rw [envelopes_append, envelopes, Nat.zero_add, span_append, ← Nat.add_assoc]
  rfl

theorem envelopes_length (recordIndex offset : Nat) (items : List (ReadRecord × Nat)) :
    (envelopes recordIndex offset items).length = items.length := by
  have hends := congrArg List.length (endOffset_envelopes recordIndex offset items)
  rwa [List.length_map, ends_length] at hends

/-! ## Readings of one identity -/

section

variable {codec : RawCodec} {file : File} {identity : Identity} {chain chain' : ChainState}
  {reader rest : Bytes} {items front tfront mid back later : List (ReadRecord × Nat)}
  {item last : ReadRecord × Nat} {previous : String} {a b : List RawRecordEnvelopeV1}
  {next : RawRecordEnvelopeV1}

/-- The empty map and the map with index 0 are the same start for one identity. -/
theorem reads_single_of_root (hitems : items ≠ [])
    (hown : ∀ item ∈ items, item.1.frame.identity = identity)
    (h : Reads (rawReader codec none) ⟨previous, ∅⟩ reader items chain rest) :
    Reads (rawReader codec none) ⟨previous, single identity 0⟩ reader items chain rest := by
  rcases h with _ | @⟨_, middle, _, _, _, record, used, items, head, tail⟩
  · exact absurd rfl hitems
  refine .cons ?_ tail
  obtain ⟨body, digest, rest', rfl, rfl, hmax, hprevious, hlock, verified, hverify, hcount⟩ :=
    nextRecord_eq_item.mp head
  obtain ⟨hindex, hbound, hexpected, frame, hframe, rfl⟩ := countRecord_eq_ok.mp hcount
  have hself : verified.identity = identity := by
    rw [← (frame_identity hframe).1]
    exact hown _ List.mem_cons_self
  have hnext : (∅ : Expected).next identity = (single identity 0).next identity := by
    simp [Expected.next, single]
  rw [hself] at hindex hbound hexpected
  refine nextRecord_eq_item.mpr ⟨body, digest, rest', rfl, rfl, hmax, hprevious, hlock, verified,
    hverify, countRecord_eq_ok.mpr ⟨?_, ?_, ?_, frame, hframe, rfl⟩⟩
  · rw [hself, ← hnext]
    exact hindex
  · rw [hself, ← hnext]
    exact hbound
  · rw [hself, single_insert, ← hnext]
    exact hexpected

/-- **Run.** The frame indices count the records. -/
theorem reads_frameIndex {next : UInt64}
    (h : Reads (rawReader codec none) ⟨previous, single identity next⟩ reader
      (front ++ item :: back) chain rest)
    (hown : ∀ other ∈ front ++ item :: back, other.1.frame.identity = identity) :
    item.1.frame.frameIndex.toNat = next.toNat + front.length ∧
      item.1.frame.frameIndex ≠ maxU64 := by
  induction front generalizing previous next reader with
  | nil =>
    rcases h with _ | @⟨_, middle, _, _, _, record, used, _, head, tail⟩
    obtain ⟨-, -, -, -, -, -, -, -, hindex, hbound, -⟩ := item_identity head identity
    rw [hown _ List.mem_cons_self] at hindex
    have hnext : (single identity next).next identity = next := by simp [Expected.next, single]
    refine ⟨?_, hbound⟩
    show record.frame.frameIndex.toNat = next.toNat + 0
    rw [hindex, Nat.add_zero]
    exact congrArg UInt64.toNat hnext
  | cons first front ih =>
    rcases h with _ | @⟨_, middle, _, _, _, record, used, _, head, tail⟩
    obtain ⟨-, -, -, -, -, -, -, -, hindex, hbound, hexpected⟩ := item_identity head identity
    have hnext : (single identity next).next identity = next := by simp [Expected.next, single]
    rw [hown _ List.mem_cons_self] at hindex hexpected
    rw [single_insert] at hexpected
    have hindexNext : record.frame.frameIndex = next := hindex.trans hnext
    obtain ⟨middlePrevious, middleExpected⟩ := middle
    simp only at hexpected
    subst hexpected
    obtain ⟨hrest, hmax⟩ := ih tail fun other hother =>
      hown other (List.mem_cons_of_mem _ hother)
    refine ⟨?_, hmax⟩
    rw [hrest, hindexNext, List.length_cons]
    rw [hindexNext] at hbound
    have hne : next.toNat ≠ 2 ^ 64 - 1 := fun heq => hbound (UInt64.toNat_inj.mp heq)
    have hlt := next.toNat_lt
    rw [UInt64.toNat_add]
    show (next.toNat + 1) % 2 ^ 64 + front.length = _
    omega

/-- The digests are hex texts. -/
theorem reads_hex (h : Reads (rawReader codec none) chain reader items chain' rest) :
    ∀ item ∈ items, isLowerHex64 item.1.recordSha256 = true := by
  induction h with
  | nil => simp
  | cons head tail ih =>
    intro item hitem
    rcases List.mem_cons.mp hitem with rfl | hitem
    · obtain ⟨body, digest, rest', -, -, -, -, -, verified, -, hcount⟩ :=
        nextRecord_eq_item.mp head
      obtain ⟨-, -, -, frame, -, rfl⟩ := countRecord_eq_ok.mp hcount
      exact isLowerHex64_hex digest
    · exact ih item hitem

theorem isHex64_of_lower {value : String} (h : isLowerHex64 value = true) :
    isHex64 value = true := by
  rw [isLowerHex64, Bool.and_eq_true, List.all_eq_true] at h
  rw [isHex64, Bool.and_eq_true, List.all_eq_true]
  refine ⟨h.1, fun b hb => ?_⟩
  have hlow := h.2 b hb
  rw [isAsciiHexdigit, hlow, Bool.true_or]

/-! ## A log of one identity -/

namespace Rooted

theorem single (h : Rooted codec file identity items) (hitems : items ≠ []) :
    ∃ chain rest, Reads (rawReader codec none) ⟨zeroDigest, Raw.single identity 0⟩
      (file.bytes.drop 8) items chain rest := by
  obtain ⟨chain, rest, hreads⟩ := h.reads
  exact ⟨chain, rest, reads_single_of_root hitems h.own hreads⟩

/-- A shorter log. -/
theorem of_append (h : Rooted codec file identity (items ++ later)) :
    Rooted codec file identity items := by
  obtain ⟨chain, rest, hreads⟩ := h.reads
  obtain ⟨middle, hfirst, -⟩ := reads_split hreads
  exact ⟨h.magic, ⟨middle, _, hfirst⟩, fun item hitem => h.own item (List.mem_append_left _ hitem)⟩

theorem frameIndex (h : Rooted codec file identity (front ++ item :: back)) :
    item.1.frame.frameIndex.toNat = front.length ∧ item.1.frame.frameIndex ≠ maxU64 := by
  obtain ⟨chain, rest, hreads⟩ := h.single (by simp)
  have hindex := reads_frameIndex hreads h.own
  rwa [show (0 : UInt64).toNat = 0 from rfl, Nat.zero_add] at hindex

theorem identity_eq (h : Rooted codec file identity (front ++ item :: back)) :
    item.1.frame.connectionEpoch = identity.1 ∧ item.1.frame.stream = identity.2 :=
  Prod.ext_iff.mp (h.own item (List.mem_append_right _ List.mem_cons_self))

/-- Behind a record the log goes on as a range from there does. -/
theorem between (h : Rooted codec file identity (front ++ item :: (mid ++ later))) :
    ∃ chain rest, Reads (rawReader codec none)
      ⟨item.1.recordSha256, Raw.single identity (item.1.frame.frameIndex + 1)⟩
      (file.bytes.drop (8 + span (front ++ [item]))) mid chain rest := by
  obtain ⟨chain, rest, hreads⟩ := h.single (by simp)
  rw [show front ++ item :: (mid ++ later) = (front ++ [item]) ++ (mid ++ later) by simp] at hreads
  obtain ⟨middle, hfirst, hsecond⟩ := reads_split hreads
  obtain ⟨next, hmid, -⟩ := reads_split hsecond
  have hmiddle := reads_single hfirst fun other hother => h.own other (by
    rw [show front ++ item :: (mid ++ later) = (front ++ [item]) ++ (mid ++ later) by simp]
    exact List.mem_append_left _ hother)
  rw [lastDigest, nextIndex, List.getLast?_concat, Option.map_some, Option.map_some,
    Option.getD_some, Option.getD_some, saturatingAdd_one h.frameIndex.2] at hmiddle
  subst hmiddle
  rw [List.drop_drop] at hmid
  exact ⟨next, _, hmid⟩

theorem validate (h : Rooted codec file identity (front ++ item :: back)) :
    validateAck (ackOf (envelope front item)) = .ok () := by
  obtain ⟨chain, rest, hreads⟩ := h.reads
  have hhex := isHex64_of_lower
    (reads_hex hreads item (List.mem_append_right _ List.mem_cons_self))
  rw [validateAck, if_neg]
  simp [ackOf, envelope, hhex]

theorem through (h : Rooted codec file identity (front ++ last :: later)) :
    readRawRecordsThroughOffset codec file (8 + span front + last.2)
      = .ok (envelopes 0 8 (front ++ [last])) := by
  rw [show front ++ last :: later = (front ++ [last]) ++ later by simp] at h
  obtain ⟨chain, rest, hreads⟩ := h.of_append.reads
  obtain ⟨log, hlog⟩ := h.magic
  have hspan := hreads.rest_eq.1
  have hend : 8 + span front + last.2 = 8 + span (front ++ [last]) := by
    rw [span_append, span_cons, span_nil]
    omega
  have hloop := readRawRecordsAfterMagic_front (by simp) hreads
  have hlast := congrArg (Option.map fun c => c.2.2.2) (getLast?_envelopes 0 8 (front ++ [last]))
  rw [Option.map_map, Option.map_map, List.getLast?_concat, Option.map_some] at hlast
  have hmagic : Raw.magic.length = 8 := rfl
  rw [List.length_drop] at hspan
  have hlength : file.bytes.length = 8 + log.length := by
    rw [← hlog, List.length_append, hmagic]
  have hreader : readMagic (file.bytes.take (8 + span (front ++ [last])))
      = .ok ((file.bytes.drop 8).take (span (front ++ [last]))) := by
    have hdrop : file.bytes.drop 8 = log := by
      rw [← hlog]
      rfl
    have htake : file.bytes.take (8 + span (front ++ [last]))
        = Raw.magic ++ log.take (span (front ++ [last])) := by
      rw [← hlog, List.take_append, hmagic, Nat.add_sub_cancel_left,
        List.take_of_length_le (by rw [hmagic]; omega)]
    rw [htake, readMagic_append, hdrop]
  rw [hend, readRawRecordsThroughOffset, if_neg (by omega),
    if_neg (by rw [File.len, hlength]; omega), hreader]
  show (readRawRecordsAfterMagic codec _ 8 zeroDigest ∅ >>= _) = _
  rw [hloop]
  refine if_neg (not_not_intro ?_)
  show ((envelopes 0 8 (front ++ [last])).getLast?.map (·.endOffset)).getD 8 = _
  rw [show (envelopes 0 8 (front ++ [last])).getLast?.map (·.endOffset)
    = some (8 + span (front ++ [last])) from hlast]
  rfl

/-- The records between two records of the log. -/
theorem delta (h : Rooted codec file identity (front ++ item :: ((mid ++ [last]) ++ later))) :
    readDurableRawDelta codec file (ackOf (envelope front item))
        (ackOf (envelope (front ++ item :: mid) last))
      = .ok (envelopes 0 (8 + span (front ++ [item])) (mid ++ [last])) := by
  have hsplit : front ++ item :: ((mid ++ [last]) ++ later)
      = (front ++ item :: mid) ++ last :: later := by simp
  have hold := h.frameIndex
  have hown := h.identity_eq
  obtain ⟨chain, rest, hreads⟩ := h.between
  have hvalid := h.validate
  rw [hsplit] at h
  have hnew := h.frameIndex
  have hstart := envelope_endOffset front item
  have hstop : (envelope (front ++ item :: mid) last).endOffset
      = 8 + span (front ++ [item]) + span (mid ++ [last]) := by
    rw [envelope_endOffset, Nat.add_assoc, ← span_append]
    simp
  have hrange := readRawRecordRange_of_reads (Nat.le_add_right 8 _) (by simp) hreads
  have hpos := span_pos_of_reads hreads (by simp)
  have hcount : (front ++ item :: mid).length = front.length + (mid.length + 1) := by simp
  rw [hcount] at hnew
  rw [readDurableRawDelta, hvalid, h.validate]
  show (if _ then _ else _) = _
  rw [if_neg]
  · refine (if_neg hold.2).trans ?_
    show (readRawRecordRange codec file (envelope front item).endOffset
      (envelope (front ++ item :: mid) last).endOffset item.1.recordSha256
      item.1.frame.connectionEpoch item.1.frame.stream (item.1.frame.frameIndex + 1) >>= _) = _
    rw [hstart, hstop, hown.1, hown.2, hrange]
    show (match (envelopes 0 _ (mid ++ [last])).getLast? with | none => _ | some last => _) = _
    rw [envelopes_append, envelopes, envelopes, List.getLast?_concat]
    refine if_neg ?_
    have hlength := envelopes_length 0 (8 + span (front ++ [item])) mid
    have hdiff : (ackOf (envelope (front ++ item :: mid) last)).durableRecordCount
        - (ackOf (envelope front item)).durableRecordCount = mid.length + 1 := by
      show (front ++ item :: mid).length + 1 - (front.length + 1) = _
      omega
    rw [hdiff, List.length_append, hlength]
    simp [ackOf, envelope]
  · -- all four cursors move forward
    rintro (hne | hne | hle | hle | hle)
    · exact hne (hown.1.trans h.identity_eq.1.symm)
    · exact hne (hown.2.trans h.identity_eq.2.symm)
    · change (front ++ item :: mid).length + 1 ≤ front.length + 1 at hle
      omega
    · change (envelope (front ++ item :: mid) last).endOffset ≤ (envelope front item).endOffset at hle
      omega
    · change last.1.frame.frameIndex ≤ item.1.frame.frameIndex at hle
      rw [UInt64.le_iff_toNat_le] at hle
      omega

variable {observation : CanonicalObservationV1}

theorem filter_named (h : Rooted codec file identity (front ++ item :: back))
    (hnamed : isNamed observation (envelope front item) = true) :
    (envelopes 0 8 (front ++ item :: back)).filter (isNamed observation)
      = [envelope front item] := by
  have hindex : item.1.frame.frameIndex = observation.frameIndex := by
    simp only [isNamed, Bool.and_eq_true, beq_iff_eq] at hnamed
    exact hnamed.1.2
  have hself := h.frameIndex.1
  -- a record with another place has another frame index
  have hother : ∀ record : RawRecordEnvelopeV1,
      record.frame.frameIndex.toNat ≠ front.length → ¬ isNamed observation record = true := by
    intro record hne hrecord
    simp only [isNamed, Bool.and_eq_true, beq_iff_eq] at hrecord
    rw [hrecord.1.2, ← hindex, hself] at hne
    exact hne rfl
  have hfront : (envelopes 0 8 front).filter (isNamed observation) = [] := by
    rw [List.filter_eq_nil_iff]
    intro record hrecord
    obtain ⟨before, hbefore, hframe⟩ := mem_envelopes hrecord
    obtain ⟨a, b, rfl⟩ := List.append_of_mem hbefore
    rw [List.append_assoc, List.cons_append] at h
    have hplace := h.frameIndex.1
    refine hother record ?_
    rw [hframe, hplace, List.length_append, List.length_cons]
    omega
  have hback : (envelopes (front.length + 1) (8 + span (front ++ [item])) back).filter
      (isNamed observation) = [] := by
    rw [List.filter_eq_nil_iff]
    intro record hrecord
    obtain ⟨behind, hbehind, hframe⟩ := mem_envelopes hrecord
    obtain ⟨a, b, rfl⟩ := List.append_of_mem hbehind
    rw [← List.cons_append, ← List.append_assoc] at h
    have hplace := h.frameIndex.1
    refine hother record ?_
    rw [hframe, hplace, List.length_append, List.length_cons]
    omega
  rw [envelopes_split, List.filter_append, List.filter_cons_of_pos hnamed, hfront, hback,
    List.nil_append]

/-- The acknowledgement behind the observed record. -/
theorem cursor (h : Rooted codec file identity (tfront ++ last :: later))
    (hfront : front ++ item :: mid = tfront ++ [last])
    (hnamed : isNamed observation (envelope front item) = true) :
    durableCursorAtObservation codec file (ackOf (envelope tfront last)) observation
      = .ok (ackOf (envelope front item)) := by
  have hprefix : Rooted codec file identity (front ++ item :: mid) := by
    rw [hfront]
    rw [← List.singleton_append, ← List.append_assoc] at h
    exact h.of_append
  have hfilter := hprefix.filter_named hnamed
  have hindex := hprefix.frameIndex.1
  have hobserved := hprefix.identity_eq
  have hlength := congrArg List.length hfront
  have hsplit := envelopes_split tfront [] last
  have hthrough := h.through
  have hterminal := h.identity_eq
  have hlast := h.frameIndex.1
  simp only [isNamed, Bool.and_eq_true, beq_iff_eq] at hnamed
  obtain ⟨⟨⟨hepoch, hstream⟩, hframe⟩, -⟩ := hnamed
  rw [hfront] at hfilter
  rw [List.length_append, List.length_append, List.length_cons, List.length_singleton] at hlength
  rw [durableCursorAtObservation, h.validate]
  show (if _ then _ else _) = _
  rw [if_neg]
  · show (readRawRecordsThroughOffset codec file (8 + span tfront + last.2) >>= _) = _
    rw [hthrough]
    refine (if_neg (not_not_intro ?_)).trans ?_
    · rw [envelopes_length, List.length_append]
      rfl
    · rw [hfilter, hsplit, envelopes, List.getLast?_concat]
      refine (if_neg ?_).trans rfl
      simp [ackOf]
  · rintro (hne | hne | hlt)
    · rw [← hepoch] at hne
      exact hne (hobserved.1.trans hterminal.1.symm)
    · rw [← hstream] at hne
      exact hne (hobserved.2.trans hterminal.2.symm)
    · change last.1.frame.frameIndex < observation.frameIndex at hlt
      rw [← hframe, UInt64.lt_iff_toNat_lt] at hlt
      change _ < item.1.frame.frameIndex.toNat at hlt
      omega

/-- An acknowledgement does not continue itself. -/
theorem delta_self (h : Rooted codec file identity (front ++ item :: back)) :
    readDurableRawDelta codec file (ackOf (envelope front item)) (ackOf (envelope front item))
      = err "durability delta does not strictly continue one raw stream" := by
  rw [readDurableRawDelta, h.validate]
  exact if_pos (Or.inr (Or.inr (Or.inl le_rfl)))

end Rooted

theorem envelopes_eq_append {recordIndex offset : Nat}
    (h : envelopes recordIndex offset items = a ++ b) :
    ∃ front back, items = front ++ back ∧ a = envelopes recordIndex offset front ∧
      b = envelopes (recordIndex + front.length) (offset + span front) back := by
  have hsplit := envelopes_append recordIndex offset (items.take a.length) (items.drop a.length)
  rw [List.take_append_drop, h] at hsplit
  have hle : a.length ≤ items.length := by
    rw [← envelopes_length recordIndex offset items, h, List.length_append]
    exact Nat.le_add_right _ _
  have hlength : a.length = (envelopes recordIndex offset (items.take a.length)).length := by
    rw [envelopes_length, List.length_take, Nat.min_eq_left hle]
  obtain ⟨hfront, hback⟩ := List.append_inj hsplit hlength
  exact ⟨_, _, (List.take_append_drop _ _).symm, hfront, hback⟩

theorem envelopes_eq_cons {a : RawRecordEnvelopeV1}
    (h : envelopes front.length (8 + span front) items = a :: b) :
    ∃ item back, items = item :: back ∧ a = envelope front item ∧
      b = envelopes (front ++ [item]).length (8 + span (front ++ [item])) back := by
  rcases items with _ | ⟨item, back⟩
  · cases h
  · rw [envelopes, List.cons.injEq] at h
    refine ⟨item, back, rfl, h.1.symm, ?_⟩
    rw [← h.2, List.length_append, span_append, Nat.add_assoc]
    rfl

theorem envelopes_eq_split {record : RawRecordEnvelopeV1}
    (h : envelopes 0 8 items = a ++ record :: b) :
    ∃ front item back, items = front ++ item :: back ∧ a = envelopes 0 8 front ∧
      record = envelope front item ∧
      b = envelopes (front ++ [item]).length (8 + span (front ++ [item])) back := by
  obtain ⟨front, rest, rfl, rfl, hrest⟩ := envelopes_eq_append h
  rw [Nat.zero_add] at hrest
  obtain ⟨item, back, rfl, rfl, rfl⟩ := envelopes_eq_cons hrest.symm
  exact ⟨front, item, back, rfl, rfl, rfl, rfl⟩

theorem envelopes_concat (front mid : List (ReadRecord × Nat)) (last : ReadRecord × Nat) :
    envelopes front.length (8 + span front) (mid ++ [last])
      = envelopes front.length (8 + span front) mid ++ [envelope (front ++ mid) last] := by
  rw [envelopes_append, envelopes, envelopes, envelope, List.length_append, span_append,
    Nat.add_assoc 8]

theorem SingleLog.rooted {records : List RawRecordEnvelopeV1}
    (h : SingleLog codec file identity records) :
    ∃ items, Rooted codec file identity items ∧ records = envelopes 0 8 items := by
  obtain ⟨offset, hread⟩ := h.read
  rw [readRawRecordsThroughOffset, ite_err_eq_ok, ite_err_eq_ok] at hread
  obtain ⟨hoffset, hlen, hread⟩ := hread
  obtain ⟨log, hlog, hread⟩ := bind_eq_ok.mp hread
  obtain ⟨found, hfound, hread⟩ := bind_eq_ok.mp hread
  rw [ite_err_eq_ok] at hread
  obtain rfl := Except.ok.inj hread.2
  obtain ⟨items, chain, hreads, rfl⟩ :=
    reads_of_readLoop ⟨zeroDigest, ∅⟩ (Nat.lt_succ_self _) hfound
  have hprefix := readMagic_eq_ok hlog
  have hbytes : magic ++ (log ++ file.bytes.drop offset) = file.bytes := by
    rw [← List.append_assoc, ← hprefix, List.take_append_drop]
  refine ⟨items, ⟨⟨_, hbytes⟩, ⟨chain, file.bytes.drop offset, ?_⟩, fun item hitem => ?_⟩, rfl⟩
  · have hlonger := hreads.extend (file.bytes.drop offset)
    have hdrop : file.bytes.drop 8 = log ++ file.bytes.drop offset :=
      (congrArg (List.drop 8) hbytes).symm
    rw [List.nil_append] at hlonger
    rwa [hdrop]
  · obtain ⟨record, hrecord, hframe⟩ := exists_envelope 0 8 hitem
    rw [← hframe]
    exact h.own record hrecord

/-! ## Chains -/

variable (front) in
theorem next_of_sublist {later : List RawRecordEnvelopeV1}
    (h : (next :: later).Sublist (envelopes front.length (8 + span front) items)) :
    ∃ mid item back, items = mid ++ item :: back ∧ next = envelope (front ++ mid) item ∧
      later.Sublist
        (envelopes (front ++ mid ++ [item]).length (8 + span (front ++ mid ++ [item])) back) := by
  obtain ⟨upto, behind, hsplit, hmem, hlater⟩ := List.cons_sublist_iff.mp h
  obtain ⟨a, b, rfl⟩ := List.append_of_mem hmem
  rw [List.append_assoc] at hsplit
  obtain ⟨mid, rest, rfl, -, hrest⟩ := envelopes_eq_append hsplit
  rw [← List.length_append, Nat.add_assoc, ← span_append] at hrest
  obtain ⟨item, back, rfl, rfl, hback⟩ := envelopes_eq_cons hrest.symm
  refine ⟨mid, item, back, rfl, rfl, ?_⟩
  rw [← hback]
  exact hlater.trans (List.sublist_append_right b behind)

/-- **Run.** The deltas of a chain are the records from its first to its last
    acknowledgement. -/
theorem Rooted.deltas (h : Rooted codec file identity (front ++ item :: items))
    {later : List RawRecordEnvelopeV1}
    (hlater : (next :: later).Sublist
      (envelopes (front ++ [item]).length (8 + span (front ++ [item])) items)) :
    ∃ init last rest deltas, items = (init ++ [last]) ++ rest ∧
      (next :: later).getLast? = some (envelope (front ++ item :: init) last) ∧
      chainDeltas codec file ((envelope front item :: next :: later).map ackOf) = .ok deltas ∧
      deltas.map uncounted
        = (envelopes 0 (8 + span (front ++ [item])) (init ++ [last])).map uncounted := by
  induction later generalizing front item items next with
  | nil =>
    obtain ⟨mid, last, back, rfl, rfl, -⟩ := next_of_sublist _ hlater
    rw [← List.singleton_append (l := back), ← List.append_assoc mid] at h
    refine ⟨mid, last, back, _, by simp, by simp, ?_, rfl⟩
    rw [List.append_assoc, List.singleton_append, List.map_cons, List.map_cons, chainDeltas,
      h.delta]
    show Except.ok (_ ++ []) = _
    rw [List.append_nil]
  | cons following later ih =>
    obtain ⟨mid, second, back, rfl, rfl, hback⟩ := next_of_sublist _ hlater
    have hnext := h
    rw [← List.singleton_append (l := back), ← List.append_assoc mid] at h
    have hdelta := h.delta
    rw [List.append_assoc front [item], List.singleton_append] at hback
    rw [← List.cons_append, ← List.append_assoc] at hnext
    obtain ⟨init, last, rest, deltas, rfl, hlast, hchain, huncounted⟩ := ih hnext hback
    refine ⟨mid ++ second :: init, last, rest,
      envelopes 0 (8 + span (front ++ [item])) (mid ++ [second]) ++ deltas, by simp, ?_, ?_, ?_⟩
    · rw [List.getLast?_cons_cons, hlast, List.append_assoc, List.cons_append]
    · rw [List.append_assoc, List.singleton_append, List.map_cons, List.map_cons, chainDeltas,
        hdelta]
      show (chainDeltas codec file ((envelope (front ++ item :: mid) second :: following ::
        later).map ackOf) >>= _) = _
      rw [hchain]
      rfl
    · have hitems : mid ++ second :: init ++ [last] = (mid ++ [second]) ++ (init ++ [last]) := by
        simp
      have hoffset : 8 + span (front ++ item :: mid ++ [second])
          = 8 + span (front ++ [item]) + span (mid ++ [second]) := by
        rw [Nat.add_assoc, ← span_append]
        simp
      rw [hitems, envelopes_append 0 _ (mid ++ [second]) (init ++ [last]), List.map_append,
        List.map_append, huncounted, hoffset, uncounted_envelopes (0 + (mid ++ [second]).length) 0]

/-! ## Resumption -/

/-- **Resuming** from an observation neither repeats nor skips a record, and the deltas of a chain
    are, but for the counts that restart, the delta of its ends. The terminal record itself has a
    cursor, but no delta. -/
theorem resumes_at_observation {records : List RawRecordEnvelopeV1}
    (hlog : SingleLog codec file identity records) :
    (∀ before observed between terminal after observation,
      records = (before ++ observed :: between) ++ terminal :: after →
      isNamed observation observed = true →
      durableCursorAtObservation codec file (ackOf terminal) observation = .ok (ackOf observed) ∧
      ∃ delta, readDurableRawDelta codec file (ackOf observed) (ackOf terminal) = .ok delta ∧
        delta.map uncounted = (between ++ [terminal]).map uncounted ∧
        delta.map (·.recordIndex) = List.range delta.length) ∧
    (∀ terminal ∈ records, ∀ observation, isNamed observation terminal = true →
      durableCursorAtObservation codec file (ackOf terminal) observation = .ok (ackOf terminal) ∧
      readDurableRawDelta codec file (ackOf terminal) (ackOf terminal)
        = err "durability delta does not strictly continue one raw stream") ∧
    ∀ first next later, (first :: next :: later).Sublist records →
      ∃ last deltas total, (next :: later).getLast? = some last ∧
        chainDeltas codec file ((first :: next :: later).map ackOf) = .ok deltas ∧
        readDurableRawDelta codec file (ackOf first) (ackOf last) = .ok total ∧
        deltas.map uncounted = total.map uncounted := by
  obtain ⟨items, hrooted, rfl⟩ := hlog.rooted
  refine ⟨?_, ?_, ?_⟩
  · intro before observed between terminal after observation hsplit hnamed
    obtain ⟨tfront, last, later, rfl, hupto, rfl, -⟩ := envelopes_eq_split hsplit
    obtain ⟨front, item, mid, rfl, rfl, rfl, rfl⟩ := envelopes_eq_split hupto.symm
    have hupto : front ++ item :: (mid ++ [last]) = (front ++ item :: mid) ++ [last] := by simp
    refine ⟨hrooted.cursor hupto hnamed, ?_⟩
    rw [show front ++ item :: mid ++ last :: later = front ++ item :: ((mid ++ [last]) ++ later) by
      simp] at hrooted
    refine ⟨_, hrooted.delta, ?_, ?_⟩
    · have hconcat := envelopes_concat (front ++ [item]) mid last
      rw [List.append_assoc front, List.singleton_append] at hconcat
      rw [← hconcat]
      exact uncounted_envelopes _ _ _ _
    · rw [recordIndex_envelopes, envelopes_length, List.range_eq_range']
  · intro terminal hmem observation hnamed
    obtain ⟨before, after, hsplit⟩ := List.append_of_mem hmem
    obtain ⟨front, last, back, rfl, -, rfl, -⟩ := envelopes_eq_split hsplit
    have hupto : front ++ last :: [] = front ++ [last] := rfl
    exact ⟨hrooted.cursor hupto hnamed, hrooted.delta_self⟩
  · intro first next later hchain
    obtain ⟨front, item, back, rfl, rfl, hlater⟩ := next_of_sublist [] hchain
    rw [List.nil_append] at hlater ⊢
    obtain ⟨init, last, rest, deltas, rfl, hlast, hdeltas, huncounted⟩ := hrooted.deltas hlater
    exact ⟨_, deltas, _, hlast, hdeltas, hrooted.delta, huncounted⟩

end

/-! ## Three records of one stream -/

/-- A frame of stream "t". -/
def sampleFrameAt (frameIndex receiveWallNs receiveMonoNs : UInt64) : CapturedFrame :=
  { sampleFrame "t" receiveWallNs receiveMonoNs with frameIndex := frameIndex }

/-- Three records in a row, with their digests. -/
def sampleRun : List (RawRecord × Nat) :=
  [(RawLogWriter.rawRecord (knownCodec [] samplePayloads) (sampleFrameAt 0 1000 2000) zeroDigest,
    0x5ba2f1e3bb34d3751638c7be6612f66190be096f14c74b13615c261eb3024729),
   (RawLogWriter.rawRecord (knownCodec [] samplePayloads) (sampleFrameAt 1 1001 2001)
      "5ba2f1e3bb34d3751638c7be6612f66190be096f14c74b13615c261eb3024729",
    0xcc4243dea9d713b67850cc3617f7fae79b1970db5c6f95cd27c115f081b9166d),
   (RawLogWriter.rawRecord (knownCodec [] samplePayloads) (sampleFrameAt 2 1002 2002)
      "cc4243dea9d713b67850cc3617f7fae79b1970db5c6f95cd27c115f081b9166d",
    0xd930ff7241cd62023bf46ded94ce98fae9ea2e0e4ed7056f09c2179613726665)]

def sampleRunCodec : RawCodec := knownCodec sampleRun samplePayloads

/-- The log of the three. -/
def sampleRunFile : File := StreamFollowState.sampleFile sampleRun

/-- The identities of the records, and how the records of the chain of all acknowledgements and of
    the delta of its ends are counted. -/
def sampleRunIndices : Result (List Identity × List Nat × List Nat) := do
  let records ← readRawRecordsThroughOffset sampleRunCodec sampleRunFile sampleRunFile.len
  match records with
  | [first, next, last] =>
    let deltas ← chainDeltas sampleRunCodec sampleRunFile ([first, next, last].map ackOf)
    let total ← readDurableRawDelta sampleRunCodec sampleRunFile (ackOf first) (ackOf last)
    .ok ([first, next, last].map fun record => record.frame.identity,
      deltas.map RawRecordEnvelopeV1.recordIndex, total.map RawRecordEnvelopeV1.recordIndex)
  | _ => err "not three records"

/-- The three are a log of one identity; the records of the chain of all three
    acknowledgements are counted 0, 0 and those of its ends 0, 1. -/
theorem sampleRun_log :
    ∃ first next last deltas total,
      SingleLog sampleRunCodec sampleRunFile ("a", "t") [first, next, last] ∧
      chainDeltas sampleRunCodec sampleRunFile ([first, next, last].map ackOf) = .ok deltas ∧
      readDurableRawDelta sampleRunCodec sampleRunFile (ackOf first) (ackOf last) = .ok total ∧
      deltas.map (·.recordIndex) = [0, 0] ∧ total.map (·.recordIndex) = [0, 1] := by
  have hrun : sampleRunIndices
      = .ok ([("a", "t"), ("a", "t"), ("a", "t")], [0, 0], [0, 1]) := by decide +kernel
  obtain ⟨records, hread, hrun⟩ := bind_eq_ok.mp hrun
  split at hrun
  · rename_i first next last
    obtain ⟨deltas, hdeltas, hrun⟩ := bind_eq_ok.mp hrun
    obtain ⟨total, htotal, hrun⟩ := bind_eq_ok.mp hrun
    simp only [Except.ok.injEq, Prod.mk.injEq, List.map_cons, List.map_nil, List.cons.injEq] at hrun
    obtain ⟨⟨hfirst, hnext, hlast, -⟩, hchain, hends⟩ := hrun
    exact ⟨first, next, last, deltas, total, ⟨⟨_, hread⟩, by simp [hfirst, hnext, hlast]⟩, hdeltas,
      htotal, hchain, hends⟩
  · cases hrun

/-- The deltas of a chain are not the delta of its ends. -/
theorem chain_is_not_delta :
    ∃ first next last, SingleLog sampleRunCodec sampleRunFile ("a", "t") [first, next, last] ∧
      chainDeltas sampleRunCodec sampleRunFile ([first, next, last].map ackOf)
        ≠ readDurableRawDelta sampleRunCodec sampleRunFile (ackOf first) (ackOf last) := by
  obtain ⟨first, next, last, deltas, total, hlog, hdeltas, htotal, hchain, hends⟩ := sampleRun_log
  refine ⟨first, next, last, hlog, ?_⟩
  rw [hdeltas, htotal]
  intro heq
  rw [Except.ok.inj heq, hends] at hchain
  cases hchain

/-- The records behind the first of three. -/
theorem resumes_at_first_of_three :
    ∃ first next last delta,
      SingleLog sampleRunCodec sampleRunFile ("a", "t") [first, next, last] ∧
      readDurableRawDelta sampleRunCodec sampleRunFile (ackOf first) (ackOf last) = .ok delta ∧
      ∃ deltas, chainDeltas sampleRunCodec sampleRunFile ([first, next, last].map ackOf)
        = .ok deltas ∧ deltas.map uncounted = delta.map uncounted := by
  obtain ⟨first, next, last, -, -, hlog, -⟩ := sampleRun_log
  obtain ⟨-, -, hchains⟩ := resumes_at_observation hlog
  obtain ⟨terminal, deltas, total, hlast, hdeltas, htotal, heq⟩ :=
    hchains first next [last] (List.Sublist.refl _)
  cases hlast
  exact ⟨first, next, last, total, hlog, htotal, deltas, hdeltas, heq⟩

end LobReplay.Raw
