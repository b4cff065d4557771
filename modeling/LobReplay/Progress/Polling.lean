/-
  Following a BNACK journal does not depend on when it is polled. A poll that is cut short anywhere,
  inside a record or a character, keeps the torn bytes; the lines it has consumed are those of the
  journal as a whole (`Foundation.LineTaker`).

  A poll that fails returns none of the records it has verified before, so only the records of
  journals without a bad record can be compared.
-/

import LobReplay.Foundation.Follow
import LobReplay.Foundation.Machine
import LobReplay.Progress.Follower

namespace LobReplay.Progress

open Foundation
open Raw (DurabilityAckV1 StreamDurabilityWatermarkV1 RawSegmentGenesisV1 RawCodec
  RawRecordEnvelopeV1 readRawRecordRange)

/-! ## Lines -/

variable {bytes : Bytes}

theorem newlinePosition_eq_none (h : newlinePosition bytes = none) : newline ∉ bytes := by
  intro hmem
  have := List.findIdx?_eq_none_iff.mp h newline hmem
  simp at this

/-- The first newline ends the first line. -/
theorem newlinePosition_eq_some {n : Nat} (h : newlinePosition bytes = some n) :
    newline ∉ bytes.take n ∧ bytes = bytes.take n ++ newline :: bytes.drop (n + 1) ∧
      (bytes.take n).length = n := by
  unfold newlinePosition at h
  rw [List.findIdx?_eq_some_iff_getElem] at h
  obtain ⟨hlt, hnewline, hbefore⟩ := h
  refine ⟨?_, ?_, ?_⟩
  · intro hmem
    obtain ⟨i, hi, hget⟩ := List.getElem_of_mem hmem
    rw [List.length_take] at hi
    rw [List.getElem_take] at hget
    exact hbefore i (by omega) (by rw [hget]; simp)
  · have hget : bytes[n] = newline := by simpa using hnewline
    calc bytes = bytes.take n ++ bytes.drop n := (List.take_append_drop n bytes).symm
      _ = bytes.take n ++ newline :: bytes.drop (n + 1) := by
        rw [List.drop_eq_getElem_cons hlt, hget]
  · rw [List.length_take]
    omega

/-! ## The follower as a taker of lines -/

/-- What is left of the look at the lengths when the journal only grows. -/
def checkRawLength (raw : File) (cursor : DurabilityFollowerCursorV1) : Result Unit :=
  if raw.len < cursor.rawOffset then err "raw segment file was truncated below verified cursor"
  else .ok ()

theorem checkFileLength_eq {journalLength readOffset : Nat} {raw : File}
    {cursor : DurabilityFollowerCursorV1} (hread : readOffset ≤ journalLength)
    (hjournal : cursor.journalOffset ≤ journalLength) :
    checkFileLength journalLength raw readOffset cursor = checkRawLength raw cursor := by
  unfold checkFileLength
  rw [if_neg (by omega)]
  rfl

def taker (codec : ProgressCodec) (rawCodec : RawCodec) (raw : File) (expectedRawPath : String)
    (genesis : RawSegmentGenesisV1) :
    LineTaker DurabilityFollowerCursorV1 VerifiedDurabilityProgressV1 Failure where
  take := consumeLine codec rawCodec raw expectedRawPath genesis (checkRawLength raw)
  limit := maxProgressRecordBytes
  take_long := by
    intro cursor line hlong
    have hcheck : checkLine codec expectedRawPath cursor line
        = err "invalid durability progress record length" := if_pos (Or.inr hlong)
    unfold consumeLine
    rw [hcheck]
    exact ⟨_, rfl⟩

section

variable {codec : ProgressCodec} {rawCodec : RawCodec} {raw : File} {expectedRawPath : String}
  {genesis : RawSegmentGenesisV1} {cursor cursor' : DurabilityFollowerCursorV1}
  {ack : DurabilityAckV1} {count : Nat} {check : DurabilityFollowerCursorV1 → Result Unit}
  {line : Bytes}

theorem verifyAckAgainstRaw_ok
    (h : verifyAckAgainstRaw rawCodec raw genesis cursor ack = (.ok count, cursor')) :
    checkAckAgainstRaw rawCodec raw genesis cursor ack = .ok count ∧
      cursor'.journalOffset = cursor.journalOffset ∧
      cursor'.nextRecordIndex = cursor.nextRecordIndex ∧
      cursor'.rawOffset = ack.durableThroughOffset := by
  unfold verifyAckAgainstRaw at h
  split at h
  · cases h
  next acknowledged hcheck =>
  dsimp only at h
  split at h
  · cases h
  split at h
  · cases h
  cases h
  exact ⟨hcheck, rfl, rfl, rfl⟩

theorem checkAckAgainstRaw_ok (h : checkAckAgainstRaw rawCodec raw genesis cursor ack = .ok count) :
    validateAck ack genesis = .ok () ∧ checkAdvances cursor.latestAck ack = .ok () ∧
      ack.durableThroughOffset ≤ raw.len := by
  unfold checkAckAgainstRaw at h
  obtain ⟨⟨⟩, hvalid, h⟩ := bind_eq_ok.mp h
  obtain ⟨⟨⟩, hadvances, h⟩ := bind_eq_ok.mp h
  rw [ite_err_eq_ok, ite_err_eq_ok] at h
  exact ⟨hvalid, hadvances, Nat.le_of_not_lt h.2.1⟩

/-- What was checked of a line that is taken. -/
structure LineOk (codec : ProgressCodec) (genesis : RawSegmentGenesisV1) (raw : File)
    (cursor : DurabilityFollowerCursorV1) (line : Bytes) (envelope : ProgressEnvelopeV1)
    (bodyBytes : Bytes) (cursor' : DurabilityFollowerCursorV1) : Prop where
  parsed : codec.fromSlice line = .ok envelope
  serialized : codec.toVec envelope.body = .ok bodyBytes
  schema_eq : envelope.body.schema = "RawDurabilityProgressV1"
  index_eq : envelope.body.recordIndex = cursor.nextRecordIndex
  previous_eq : envelope.body.previousRecordSha256 = cursor.previousProgressRecordSha256
  digest_eq : envelope.recordSha256 = hex (codec.digest bodyBytes).bytes
  valid : validateAck envelope.body.ack genesis = .ok ()
  advances : checkAdvances cursor.latestAck envelope.body.ack = .ok ()
  offset_eq : cursor'.journalOffset = cursor.journalOffset + (line.length + 1)
  next_eq : cursor'.nextRecordIndex = cursor.nextRecordIndex + 1
  digest_next : cursor'.previousProgressRecordSha256 = hex (codec.digest bodyBytes).bytes
  ack_eq : cursor'.latestAck = some envelope.body.ack
  raw_le : cursor'.rawOffset ≤ raw.len

/-- **Inversion.** A line that is taken. -/
theorem consumeLine_ok {record : VerifiedDurabilityProgressV1}
    (h : consumeLine codec rawCodec raw expectedRawPath genesis check cursor line
      = (.ok record, cursor')) :
    ∃ envelope bodyBytes, LineOk codec genesis raw cursor line envelope bodyBytes cursor' := by
  unfold consumeLine at h
  split at h
  · cases h
  next envelope digest hline =>
  split at h
  · cases h
  split at h
  · cases h
  next acknowledged moved hverify =>
  obtain ⟨hack, hjournal, hindex, hraw⟩ := verifyAckAgainstRaw_ok hverify
  obtain ⟨hvalid, hadvances, hle⟩ := checkAckAgainstRaw_ok hack
  -- the line and its digest
  unfold checkLine at hline
  rw [ite_err_eq_ok] at hline
  obtain ⟨-, hline⟩ := hline
  split at hline
  · cases hline
  next parsed hparsed =>
  split at hline
  · cases hline
  next bodyBytes hserialized =>
  dsimp only at hline
  rw [ite_err_eq_ok, ite_err_eq_ok] at hline
  obtain ⟨hchain, -, hline⟩ := hline
  simp only [not_or, not_not] at hchain
  cases hline
  -- the cursor behind it
  unfold commitRecord at h
  dsimp only at h
  split at h
  · cases h
  next encoded hencoded =>
  split at h
  · cases h
  next last hlast =>
  split at h
  · cases h
  next next hnext =>
  cases h
  rw [checkedAdd_eq_some hencoded] at hlast
  refine ⟨envelope, bodyBytes, hparsed, hserialized, hchain.1, hchain.2.1, hchain.2.2.1,
    hchain.2.2.2, hvalid, hadvances, ?_, ?_, rfl, rfl, ?_⟩
  · show last = _
    rw [checkedAdd_eq_some hlast, hjournal]
  · show next = _
    rw [checkedAdd_eq_some hnext, hindex]
  · show moved.rawOffset ≤ raw.len
    rw [hraw]
    exact hle

/-- The look at the lengths is the only thing a line depends on besides the cursor. -/
theorem consumeLine_congr {check' : DurabilityFollowerCursorV1 → Result Unit}
    (h : check cursor = check' cursor) :
    consumeLine codec rawCodec raw expectedRawPath genesis check cursor line
      = consumeLine codec rawCodec raw expectedRawPath genesis check' cursor line := by
  unfold consumeLine
  rw [h]

end

end LobReplay.Progress
