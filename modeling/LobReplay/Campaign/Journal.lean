/-
  The campaign journal of campaign_artifact.rs: its records, and `scan_journal`, which reads the
  file line by line along the hash chain. A `VerifiedJournal` carries what the scan has established:
  consecutive record indexes and times that do not decrease.

  `u64` fields are naturals. serde_json and SHA-256 are the parameter `CampaignCodec`.
-/

import LobReplay.Json
import Mathlib.Data.List.Basic
import Mathlib.Data.List.Induction

namespace LobReplay.Campaign

open Foundation

/-! ## Records -/

structure CampaignJournalBodyV1 where
  schema : String
  recordIndex : Nat
  wallNs : Nat
  campaignMonoNs : Nat
  generationIndex : Option Nat
  channel : String
  payload : Value
  previousRecordSha256 : String
  deriving DecidableEq

structure CampaignJournalEnvelopeV1 where
  body : CampaignJournalBodyV1
  recordSha256 : String
  deriving DecidableEq

/-- The JSON and digest functions of the scan. -/
structure CampaignCodec where
  /-- `serde_json::from_slice::<CampaignJournalEnvelopeV1>(line)`. -/
  fromSlice : Bytes → Except String CampaignJournalEnvelopeV1
  /-- `serde_json::to_vec(&envelope.body)`. -/
  bodyToVec : CampaignJournalBodyV1 → Except String Bytes
  /-- `sha256_bytes`. -/
  sha256Bytes : Bytes → String

def Indexed (records : List CampaignJournalEnvelopeV1) : Prop :=
  ∀ i (record : CampaignJournalEnvelopeV1), records[i]? = some record → record.body.recordIndex = i

def Ordered (records : List CampaignJournalEnvelopeV1) : Prop :=
  records.Pairwise fun a b => a.body.campaignMonoNs ≤ b.body.campaignMonoNs

/-- `VerifiedJournal`: what `scan_journal` returns. -/
structure VerifiedJournal where
  records : List CampaignJournalEnvelopeV1
  terminalSha256 : String
  indexed : Indexed records
  ordered : Ordered records

/-! ## `scan_journal` -/

/-- The variables of the loop: the records so far, and the digest and the time of the last. -/
structure JournalScan where
  records : List CampaignJournalEnvelopeV1 := []
  previous : String := zeroDigest
  previousMono : Option Nat := none

def scanLine (codec : CampaignCodec) (scan : JournalScan) (line : Bytes) : Result JournalScan :=
  if line = [] then err "campaign journal contains an empty internal record"
  else match codec.fromSlice line with
  | .error error => err s!"invalid campaign journal record: {error}"
  | .ok envelope =>
    match codec.bodyToVec envelope.body with
    | .error error => err s!"serialize campaign journal body: {error}"
    | .ok bodyBytes =>
      let digest := codec.sha256Bytes bodyBytes
      if envelope.body.schema ≠ "RawCampaignJournalRecordV1" ∨
          envelope.body.recordIndex ≠ scan.records.length ∨
          envelope.body.previousRecordSha256 ≠ scan.previous ∨
          envelope.recordSha256 ≠ digest ∨
          scan.previousMono.any (fun old => decide (envelope.body.campaignMonoNs < old)) = true then
        err "campaign journal hash/index/time chain is invalid"
      else
        .ok
          { records := scan.records ++ [envelope]
            previous := digest
            previousMono := some envelope.body.campaignMonoNs }

def scanLines (codec : CampaignCodec) (bytes : Bytes) : Result JournalScan :=
  if bytes = [] ∨ bytes.getLast? ≠ some 10 then
    err "campaign journal is empty or has a partial tail"
  else (bytes.dropLast.splitOn 10).foldlM (scanLine codec) {}

/-- What the loop keeps. -/
structure Chained (scan : JournalScan) : Prop where
  indexed : Indexed scan.records
  ordered : Ordered scan.records
  last : ∀ record : CampaignJournalEnvelopeV1, record ∈ scan.records → ∃ old, scan.previousMono = some old ∧
    record.body.campaignMonoNs ≤ old

theorem Chained.start : Chained {} where
  indexed := by simp [Indexed]
  ordered := List.Pairwise.nil
  last := by simp

variable {codec : CampaignCodec} {scan last : JournalScan}

/-- **Step.** A line that is accepted carries the next index and no earlier time. -/
theorem Chained.line {next : JournalScan} {line : Bytes} (h : Chained scan)
    (hline : scanLine codec scan line = .ok next) : Chained next := by
  unfold scanLine at hline
  split at hline
  · simp at hline
  split at hline
  · simp at hline
  rename_i envelope _
  split at hline
  · simp at hline
  obtain ⟨hchecks, hnext⟩ := ite_err_eq_ok.mp hline
  simp only [not_or, not_not] at hchecks
  obtain ⟨-, hindex, -, -, hmono⟩ := hchecks
  cases hnext
  have hnext : ∀ record ∈ scan.records,
      record.body.campaignMonoNs ≤ envelope.body.campaignMonoNs := by
    intro record hmem
    obtain ⟨old, hold, hle⟩ := h.last record hmem
    rw [hold] at hmono
    have : ¬ envelope.body.campaignMonoNs < old := by simpa using hmono
    omega
  refine ⟨?_, ?_, ?_⟩
  · intro i record hi
    rw [List.getElem?_append] at hi
    split at hi
    · exact h.indexed i record hi
    · obtain ⟨hlt, heq⟩ := List.getElem?_eq_some_iff.mp hi
      simp only [List.length_singleton] at hlt
      rw [List.getElem_singleton] at heq
      rw [← heq]
      omega
  · exact List.pairwise_append.mpr ⟨h.ordered, List.pairwise_singleton _ _,
      fun a ha b hb => by rw [List.mem_singleton.mp hb]; exact hnext a ha⟩
  · intro record hmem
    refine ⟨_, rfl, ?_⟩
    rcases List.mem_append.mp hmem with hold | hnew
    · exact hnext record hold
    · rw [List.mem_singleton.mp hnew]

/-- **Run.** The loop keeps the chain. -/
theorem Chained.lines {lines : List Bytes} (h : Chained scan)
    (hlines : lines.foldlM (scanLine codec) scan = .ok last) : Chained last := by
  induction lines generalizing scan with
  | nil =>
    cases hlines
    exact h
  | cons line rest ih =>
    rw [List.foldlM_cons, bind_eq_ok] at hlines
    obtain ⟨next, hline, hrest⟩ := hlines
    exact ih (h.line hline) hrest

theorem scanLines_chained {bytes : Bytes} (h : scanLines codec bytes = .ok last) :
    Chained last := by
  unfold scanLines at h
  split at h
  · simp at h
  · exact Chained.start.lines h

/-- `scan_journal`, on the bytes of the file. -/
def scanJournal (codec : CampaignCodec) (bytes : Bytes) : Result VerifiedJournal :=
  match h : scanLines codec bytes with
  | .error failure => .error failure
  | .ok scan =>
    if scan.records = [] then err "campaign journal has no records"
    else .ok ⟨scan.records, scan.previous, (scanLines_chained h).indexed,
      (scanLines_chained h).ordered⟩

end LobReplay.Campaign
