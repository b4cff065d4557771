/-
  A raw log as a stream of self-delimiting records. `read_next_raw_record` takes a record for its
  own bytes alone and reports a part of one as torn, so it is a `StreamReader` (`rawReader`).
-/

import LobReplay.Raw.Reader

namespace LobReplay.Raw

open Foundation Std

/-! ## The framing -/

variable {body reader : Bytes} {digest : FixedBytes 32}

theorem beValue_take_framed (digest : FixedBytes 32) (rest : Bytes)
    (h : body.length ≤ maxRecordBytes) :
    beValue ((framed body digest ++ rest).take 4) = body.length := by
  have htake : (framed body digest ++ rest).take 4 = beBytes 4 body.length := by
    rw [framed, List.append_assoc, List.append_assoc]
    exact List.take_left' (beBytes_length 4 body.length)
  rw [htake, beValue_beBytes]
  exact Nat.lt_of_le_of_lt h (by decide)

theorem drop_framed (body : Bytes) (digest : FixedBytes 32) (rest : Bytes) :
    (framed body digest ++ rest).drop 4 = body ++ (digest.bytes ++ rest) := by
  rw [framed, List.append_assoc, List.append_assoc]
  exact List.drop_left' (beBytes_length 4 body.length)

/-- **Framing.** A record is read iff the stream starts with its framing. -/
theorem readFramed_eq_some {rest : Bytes} :
    readFramed reader = .ok (some (body, digest, rest)) ↔
      reader = framed body digest ++ rest ∧ body.length ≤ maxRecordBytes := by
  refine ⟨?_, ?_⟩
  · intro h
    unfold readFramed at h
    split at h
    · cases h
    rw [ite_err_eq_ok, ite_err_eq_ok, ite_err_eq_ok] at h
    obtain ⟨h4, hmax, hbody, h⟩ := h
    split at h
    · cases h
    next hdigest =>
    simp only [Except.ok.injEq, Option.some.injEq, Prod.mk.injEq] at h
    obtain ⟨rfl, rfl, rfl⟩ := h
    have hlen : ((reader.drop 4).take (beValue (reader.take 4))).length
        = beValue (reader.take 4) := by
      rw [List.length_take]
      omega
    have hpre : beBytes 4 (beValue (reader.take 4)) = reader.take 4 := by
      have := beBytes_beValue (reader.take 4)
      rwa [show (reader.take 4).length = 4 by rw [List.length_take]; omega] at this
    refine ⟨?_, ?_⟩
    · rw [framed, hlen, hpre, List.append_assoc, List.append_assoc, List.take_append_drop,
        List.take_append_drop, List.take_append_drop]
    · rw [hlen]
      omega
  · rintro ⟨rfl, hmax⟩
    have hlength := framed_length body digest
    have hne : framed body digest ++ rest ≠ [] := by
      intro h
      rw [List.append_eq_nil_iff] at h
      rw [h.1] at hlength
      simp at hlength
    have h4 : ¬ (framed body digest ++ rest).length < 4 := by
      rw [List.length_append, hlength]
      omega
    unfold readFramed
    simp only [if_neg hne, if_neg h4, beValue_take_framed digest rest hmax, if_neg (Nat.not_lt.mpr hmax),
      drop_framed, List.drop_left, List.take_left]
    rw [if_neg (by rw [List.length_append]; omega),
      dif_neg (by rw [List.length_append, digest.length_eq]; omega)]
    rw [Except.ok.injEq, Option.some.injEq, Prod.mk.injEq, Prod.mk.injEq]
    exact ⟨rfl, FixedBytes.ext (List.take_left' digest.length_eq),
      List.drop_left' digest.length_eq⟩

theorem readFramed_nil : readFramed [] = .ok none := rfl

theorem readFramed_eq_none : readFramed reader = .ok none ↔ reader = [] := by
  refine ⟨?_, ?_⟩
  · intro h
    unfold readFramed at h
    split at h
    · assumption
    · rw [ite_err_eq_ok, ite_err_eq_ok, ite_err_eq_ok] at h
      obtain ⟨-, -, -, h⟩ := h
      split at h <;> cases h
  · rintro rfl
    rfl

/-- A part of a framed record is reported, at whatever byte it ends. -/
theorem readFramed_torn {k : Nat} (hmax : body.length ≤ maxRecordBytes) (hpos : 0 < k)
    (hk : k < (framed body digest).length) :
    ∃ message, readFramed ((framed body digest).take k) = err message := by
  have hlength := framed_length body digest
  have htake : ((framed body digest).take k).length = k := by
    rw [List.length_take]
    omega
  have hne : (framed body digest).take k ≠ [] := by
    intro h
    rw [h] at htake
    simp at htake
    omega
  unfold readFramed
  rw [if_neg hne, htake]
  by_cases h4 : k < 4
  · exact ⟨_, if_pos h4⟩
  have hvalue : beValue (((framed body digest).take k).take 4) = body.length := by
    have := beValue_take_framed digest [] hmax
    rwa [List.append_nil, show (framed body digest).take 4 = ((framed body digest).take k).take 4 by
      rw [List.take_take, Nat.min_eq_left (Nat.le_of_not_lt h4)]] at this
  simp only [if_neg h4, hvalue, if_neg (Nat.not_lt.mpr hmax), List.length_drop, htake]
  by_cases hbody : k - 4 < body.length
  · exact ⟨_, if_pos hbody⟩
  · refine ⟨_, by rw [if_neg hbody, dif_pos (by omega)]⟩

/-! ## The reader -/

/-- What a reader carries from record to record. -/
structure ChainState where
  previous : String
  expected : Expected

/-- `read_next_raw_record` with the lock of the scan behind it. -/
def nextRecord (codec : RawCodec) (lockedIdentity : Option Identity) (state : ChainState)
    (reader : Bytes) : Next ChainState ReadRecord Failure :=
  match readNextRawRecord codec reader state.previous state.expected with
  | (.error e, expected) => .fail e { state with expected }
  | (.ok none, _) => .done
  | (.ok (some (record, _)), expected) =>
    if lockAllows lockedIdentity record.frame then
      .item record record.encodedLength ⟨record.recordSha256, expected⟩
    else .fail (.err "raw segment identity mismatch") { state with expected }

section

variable {codec : RawCodec} {lockedIdentity : Option Identity} {state state' : ChainState}
  {reader rest : Bytes} {record : ReadRecord} {used : Nat} {expected expected' : Expected}
  {verified : VerifiedBody} {digest : FixedBytes 32} {length : Nat}

def ReadsAs (codec : RawCodec) (lockedIdentity : Option Identity) (state : ChainState)
    (body : Bytes) (digest : FixedBytes 32) (record : ReadRecord) (state' : ChainState) : Prop :=
  body.length ≤ maxRecordBytes ∧ state'.previous = record.recordSha256 ∧
    lockAllows lockedIdentity record.frame = true ∧
    ∃ verified, verifyBody codec state.previous body digest = .ok verified ∧
      countRecord state.expected verified digest (framed body digest).length
        = (.ok record, state'.expected)

/-- `entry(key).or_insert(0)` does not outlive the insertion that follows it. -/
theorem insert_orInsert (expected : Expected) (key : Identity) (next : UInt64) :
    (if key ∈ expected then expected else expected.insert key 0).insert key next
      = expected.insert key next := by
  split
  · rfl
  · refine ExtTreeMap.ext_getElem? fun k => ?_
    rw [ExtTreeMap.getElem?_insert, ExtTreeMap.getElem?_insert, ExtTreeMap.getElem?_insert]
    split <;> rfl

theorem countRecord_eq_ok :
    countRecord expected verified digest length = (.ok record, expected') ↔
      verified.frameIndex = expected.next verified.identity ∧
        expected.next verified.identity ≠ maxU64 ∧
        expected' = expected.insert verified.identity (expected.next verified.identity + 1) ∧
        ∃ frame, verified.frame = .ok frame ∧ record = ⟨frame, hex digest.bytes, length⟩ := by
  unfold countRecord
  simp only [insert_orInsert]
  by_cases hindex : verified.frameIndex = expected.next verified.identity
  · by_cases hmax : expected.next verified.identity = maxU64
    · simp [hindex, hmax]
    · rw [if_neg (by simpa using hindex), if_neg hmax]
      rcases verified.frame with e | frame
      · simp [Except.map]
      · simp only [Except.map, Prod.mk.injEq, Except.ok.injEq, exists_eq_left', hindex, hmax,
          ne_eq, not_false_eq_true, true_and]
        rw [and_comm, eq_comm (b := record), eq_comm (b := expected')]
  · rw [if_pos hindex]
    simp [hindex]

theorem countRecord_encodedLength
    (h : countRecord expected verified digest length = (.ok record, expected')) :
    record.encodedLength = length := by
  obtain ⟨-, -, -, frame, -, rfl⟩ := countRecord_eq_ok.mp h
  rfl

/-- **Inversion.** An item is a framed body at the front of the stream, and nothing behind it
    matters. -/
theorem nextRecord_eq_item :
    nextRecord codec lockedIdentity state reader = .item record used state' ↔
      ∃ body digest rest, reader = framed body digest ++ rest ∧
        used = (framed body digest).length ∧
        ReadsAs codec lockedIdentity state body digest record state' := by
  unfold nextRecord readNextRawRecord
  refine ⟨?_, ?_⟩
  · intro h
    rcases hframed : readFramed reader with e | _ | ⟨body, digest, rest⟩
    · simp [hframed] at h
    · simp [hframed] at h
    rcases hverify : verifyBody codec state.previous body digest with e | verified
    · simp [hframed, hverify] at h
    rcases hcount : countRecord state.expected verified digest (4 + body.length + 32) with
      ⟨e | counted, expected⟩
    · simp [hframed, hverify, hcount, Except.map] at h
    simp only [hframed, hverify, hcount, Except.map] at h
    split at h
    · next hlock =>
      cases h
      obtain ⟨hreader, hmax⟩ := readFramed_eq_some.mp hframed
      have hlength := countRecord_encodedLength hcount
      rw [← framed_length body digest] at hcount hlength
      exact ⟨body, digest, rest, hreader, hlength, hmax, rfl, hlock, verified, hverify, hcount⟩
    · cases h
  · rintro ⟨body, digest, rest, rfl, rfl, hmax, hprevious, hlock, verified, hverify, hcount⟩
    have hlength := countRecord_encodedLength hcount
    rw [framed_length] at hcount
    obtain ⟨previous, expected⟩ := state'
    simp only at hprevious hcount
    simp [readFramed_eq_some.mpr ⟨rfl, hmax⟩, hverify, hcount, Except.map, hlock, hlength,
      hprevious]

theorem nextRecord_torn {message : String} (h : readFramed reader = err message) :
    nextRecord codec lockedIdentity state reader = .fail (.err message) state := by
  simp [nextRecord, readNextRawRecord, h, err]

theorem nextRecord_done :
    nextRecord codec lockedIdentity state reader = .done ↔ reader = [] := by
  refine ⟨?_, ?_⟩
  · intro h
    unfold nextRecord readNextRawRecord at h
    rcases hframed : readFramed reader with e | _ | ⟨body, digest, rest⟩
    · simp [hframed] at h
    · exact readFramed_eq_none.mp hframed
    rcases hverify : verifyBody codec state.previous body digest with e | verified
    · simp [hframed, hverify] at h
    rcases hcount : countRecord state.expected verified digest (4 + body.length + 32) with
      ⟨e | counted, expected⟩
    · simp [hframed, hverify, hcount, Except.map] at h
    · simp only [hframed, hverify, hcount, Except.map] at h
      split at h <;> cases h
  · rintro rfl
    rfl

end

/-- The raw log reader. What it reports for a torn record is an error, never an abort. -/
def rawReader (codec : RawCodec) (lockedIdentity : Option Identity) :
    StreamReader UInt8 ChainState ReadRecord Failure where
  next := nextRecord codec lockedIdentity
  Torn e := ∃ message, e = .err message
  next_nil _ := rfl
  used_pos h := by
    obtain ⟨body, digest, rest, -, rfl, -⟩ := nextRecord_eq_item.mp h
    rw [framed_length]
    omega
  used_le h := by
    obtain ⟨body, digest, rest, rfl, rfl, -⟩ := nextRecord_eq_item.mp h
    rw [List.length_append]
    omega
  extend h rest := by
    obtain ⟨body, digest, _, rfl, rfl, hreads⟩ := nextRecord_eq_item.mp h
    rw [List.take_left]
    exact nextRecord_eq_item.mpr ⟨body, digest, rest, rfl, rfl, hreads⟩
  torn h k hpos hk := by
    obtain ⟨body, digest, rest, rfl, rfl, hmax, -⟩ := nextRecord_eq_item.mp h
    obtain ⟨message, hmessage⟩ := readFramed_torn hmax hpos hk
    rw [List.take_append_of_le_length (Nat.le_of_lt hk)]
    exact ⟨.err message, _, ⟨message, rfl⟩, nextRecord_torn hmessage⟩

/-! ## The loops -/

section

variable {codec : RawCodec} {lockedIdentity : Option Identity} {chain chain' : ChainState}
  {reader rest : Bytes} {items : List (ReadRecord × Nat)} {budget : Nat} {state : ScanState}

theorem readNextRawRecord_of_item {record : ReadRecord} {used : Nat}
    (h : nextRecord codec lockedIdentity chain reader = .item record used chain') :
    readNextRawRecord codec reader chain.previous chain.expected
        = (.ok (some (record, reader.drop used)), chain'.expected) ∧
      lockAllows lockedIdentity record.frame = true ∧ record.encodedLength = used ∧
      record.recordSha256 = chain'.previous := by
  obtain ⟨body, digest, rest, rfl, rfl, hmax, hprevious, hlock, verified, hverify, hcount⟩ :=
    nextRecord_eq_item.mp h
  have hlength := countRecord_encodedLength hcount
  rw [framed_length] at hcount
  refine ⟨?_, hlock, hlength, hprevious.symm⟩
  rw [List.drop_left]
  simp [readNextRawRecord, readFramed_eq_some.mpr ⟨rfl, hmax⟩, hverify, hcount, Except.map]

/-- **The scan advances** over what is read. -/
theorem scanLoop_of_reads (budget : Nat)
    (h : Reads (rawReader codec lockedIdentity) chain reader items chain' rest)
    (records offset : Nat) (reason : Option String)
    (hrecords : records + items.length ≤ u64Max) (hoffset : offset + span items ≤ u64Max) :
    scanLoop codec lockedIdentity (items.length + budget) reader
        ⟨chain.previous, records, offset, chain.expected, reason⟩
      = scanLoop codec lockedIdentity budget rest
          ⟨chain'.previous, records + items.length, offset + span items, chain'.expected,
            reason⟩ := by
  induction h generalizing records offset with
  | nil => simp
  | @cons chain middle chain' reader rest record used items head tail ih =>
    obtain ⟨hread, hlock, hlength, hprevious⟩ := readNextRawRecord_of_item head
    rw [span_cons] at hoffset ⊢
    rw [List.length_cons] at hrecords ⊢
    have hcount : records < u64Max := by omega
    have hadd : offset + used ≤ u64Max := by
      simp only at hoffset
      omega
    have hnext := ih (records + 1) (offset + used) (by omega) (by omega)
    rw [show items.length + 1 + budget = items.length + budget + 1 by omega, scanLoop]
    simp only [hread, hlock, hlength, hprevious, increment_eq hcount, checkedAdd_eq hadd,
      Bool.true_eq_false, if_false]
    rw [show records + (items.length + 1) = records + 1 + items.length by omega,
      ← Nat.add_assoc, ← hnext]
    rfl

theorem scanLoop_nil : scanLoop codec lockedIdentity (budget + 1) [] state = .ok state := rfl

/-- The scan stops at a failure and keeps the frame indices the failed read left. -/
theorem scanLoop_fail {message : String}
    (h : nextRecord codec lockedIdentity ⟨state.previous, state.expected⟩ reader
      = .fail (.err message) chain') :
    scanLoop codec lockedIdentity (budget + 1) reader state
      = .ok { state with expected := chain'.expected, reason := some message } := by
  unfold nextRecord at h
  rw [scanLoop]
  rcases hread : readNextRawRecord codec reader state.previous state.expected with
    ⟨e | _ | ⟨record, rest⟩, expected⟩
  · simp only [hread] at h
    cases h
    rfl
  · simp [hread] at h
  · simp only [hread] at h
    by_cases hlock : lockAllows lockedIdentity record.frame = true
    · simp [hlock] at h
    · rw [if_neg hlock] at h
      cases h
      simp [Bool.not_eq_true _ ▸ hlock]

def envelopes (recordIndex startOffset : Nat) : List (ReadRecord × Nat) → List RawRecordEnvelopeV1
  | [] => []
  | (record, used) :: rest =>
    { schema := "RawRecordEnvelopeV1", recordIndex, startOffset, endOffset := startOffset + used
      recordSha256 := record.recordSha256, frame := record.frame } ::
      envelopes (recordIndex + 1) (startOffset + used) rest

/-- **The strict reader** returns what is read to the end. -/
theorem readLoop_of_reads (h : Reads (rawReader codec none) chain reader items chain' [])
    (recordIndex offset : Nat) (hbudget : items.length < budget)
    (hoffset : offset + span items ≤ u64Max) :
    readLoop codec budget reader recordIndex offset chain.previous chain.expected
      = .ok (envelopes recordIndex offset items) := by
  induction items generalizing chain reader recordIndex offset budget with
  | nil =>
    cases h
    obtain ⟨budget, rfl⟩ := Nat.exists_eq_add_of_lt hbudget
    rfl
  | cons item items ih =>
    rcases h with _ | @⟨_, middle, _, _, _, record, used, _, head, tail⟩
    obtain ⟨budget, rfl⟩ := Nat.exists_eq_add_of_lt hbudget
    obtain ⟨hread, -, hlength, hprevious⟩ := readNextRawRecord_of_item head
    rw [span_cons] at hoffset
    have hadd : offset + used ≤ u64Max := by
      simp only at hoffset
      omega
    have hrest : offset + used + span items ≤ u64Max := by
      simp only at hoffset
      omega
    have hless : items.length < items.length + 1 + budget := by omega
    have hnext := ih tail (recordIndex + 1) (offset + used) hless hrest
    rw [List.length_cons, readLoop]
    simp only [hread, hlength, hprevious, checkedAdd_eq hadd, hnext]
    rw [envelopes, hprevious]
    rfl

theorem reads_unlock (h : Reads (rawReader codec lockedIdentity) chain reader items chain' rest) :
    Reads (rawReader codec none) chain reader items chain' rest := by
  induction h with
  | nil => exact .nil
  | cons head tail ih =>
    obtain ⟨body, digest, rest, hreader, hused, hmax, hprevious, -, hverified⟩ :=
      nextRecord_eq_item.mp head
    exact .cons (nextRecord_eq_item.mpr
      ⟨body, digest, rest, hreader, hused, hmax, hprevious, rfl, hverified⟩) ih

theorem reads_lockAllows
    (h : Reads (rawReader codec lockedIdentity) chain reader items chain' rest) :
    ∀ item ∈ items, lockAllows lockedIdentity item.1.frame = true := by
  induction h with
  | nil => simp
  | cons head tail ih =>
    intro item hitem
    rcases List.mem_cons.mp hitem with rfl | hitem
    · exact (readNextRawRecord_of_item head).2.1
    · exact ih item hitem

end

end LobReplay.Raw
