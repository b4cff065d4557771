/-
  The gauges in the telemetry. No gauge wraps below zero and no maximum decreases; but a snapshot
  may show a gauge above its maximum, where both loads fall between the step that raises the gauge
  and the step that publishes it, and the verifier of the generation then rejects the file.
-/

import LobReplay.Progress.Schedule
import LobReplay.Segment.Transparency
import LobReplay.Segmented.Capture
import LobReplay.Segmented.TelemetryVerifier

namespace LobReplay.Segmented

open Foundation Raw

/-! ## The verifier without the gauges -/

/-- A snapshot whose gauges, maxima and segment are zero. -/
def StreamHealthSnapshot.withoutGauges (snapshot : StreamHealthSnapshot) : StreamHealthSnapshot :=
  { snapshot with
    segmentIndex := 0, queueRecords := 0, queueBytes := 0, maxQueueRecords := 0
    maxQueueBytes := 0, maxQueueAgeNs := 0, lastSyncDurationNs := 0, maxSyncDurationNs := 0 }

/-- A record whose gauges, maxima and segments are zero. -/
def TelemetryRecord.withoutGauges (record : TelemetryRecord) : TelemetryRecord :=
  { record with depth := record.depth.withoutGauges, trade := record.trade.withoutGauges }

/-- A scan of records whose gauges, maxima and segments are zero. -/
def TelemetryScan.withoutGauges (scan : TelemetryScan) : TelemetryScan :=
  { scan with previous := scan.previous.map (·.withoutGauges) }

/-- The parser of records whose gauges, maxima and segments are zero. -/
def TelemetryCodec.withoutGauges (codec : TelemetryCodec) : TelemetryCodec :=
  { codec with fromSlice := fun line => (codec.fromSlice line).map (·.withoutGauges) }

def TelemetryRecord.GaugesBelow (record : TelemetryRecord) : Prop :=
  ∀ k g, (record.of k).gauge g ≤ (record.of k).maximum g

def TelemetryRecord.CountersAbove (old record : TelemetryRecord) : Prop :=
  ∀ k c, (old.of k).counter c ≤ (record.of k).counter c

variable {snapshot : StreamHealthSnapshot}

theorem gaugesInvalid_eq (h : ∀ g, snapshot.gauge g ≤ snapshot.maximum g) :
    snapshot.gaugesInvalid = false := by
  have hrecords : snapshot.queueRecords ≤ snapshot.maxQueueRecords := h .queueRecords
  have hbytes : snapshot.queueBytes ≤ snapshot.maxQueueBytes := h .queueBytes
  have hsync : snapshot.lastSyncDurationNs ≤ snapshot.maxSyncDurationNs := h .syncDuration
  simp [StreamHealthSnapshot.gaugesInvalid, hrecords, hbytes, hsync]

theorem maximaRegressed_eq {old : StreamHealthSnapshot}
    (h : ∀ c, old.counter c ≤ snapshot.counter c) : old.maximaRegressed snapshot = false := by
  have hsegment : old.segmentIndex ≤ snapshot.segmentIndex := h .segmentIndex
  have hrecords : old.maxQueueRecords ≤ snapshot.maxQueueRecords := h (.maximum .queueRecords)
  have hbytes : old.maxQueueBytes ≤ snapshot.maxQueueBytes := h (.maximum .queueBytes)
  have hage : old.maxQueueAgeNs ≤ snapshot.maxQueueAgeNs := h .maxQueueAge
  have hsync : old.maxSyncDurationNs ≤ snapshot.maxSyncDurationNs := h (.maximum .syncDuration)
  simp [StreamHealthSnapshot.maximaRegressed, hsegment, hrecords, hbytes, hage, hsync]

section

variable {record old : TelemetryRecord} {line : Bytes}

theorem invalid_withoutGauges (h : record.GaugesBelow) (count : Nat) :
    record.withoutGauges.invalid count = record.invalid count := by
  have hdepth : record.depth.gaugesInvalid = false := gaugesInvalid_eq (h .depth)
  have htrade : record.trade.gaugesInvalid = false := gaugesInvalid_eq (h .trade)
  simp only [TelemetryRecord.invalid, hdepth, htrade]
  rfl

theorem regressed_withoutGauges (h : old.CountersAbove record) :
    old.withoutGauges.regressed record.withoutGauges = old.regressed record := by
  have hdepth : old.depth.maximaRegressed record.depth = false := maximaRegressed_eq (h .depth)
  have htrade : old.trade.maximaRegressed record.trade = false := maximaRegressed_eq (h .trade)
  simp only [TelemetryRecord.regressed, hdepth, htrade]
  rfl

variable {codec : TelemetryCodec} {duration : Nat} {scan : TelemetryScan}

/-- **Step.** A record whose gauges and maxima are in order is treated as without them. -/
theorem telemetryLine_withoutGauges (hline : codec.fromSlice line = .ok record)
    (hbelow : record.GaugesBelow)
    (habove : ∀ old, scan.previous = some old → old.CountersAbove record) :
    telemetryLine codec.withoutGauges duration scan.withoutGauges line
      = (telemetryLine codec duration scan line).map (·.withoutGauges) := by
  have hregressed : scan.withoutGauges.previous.any (·.regressed record.withoutGauges)
      = scan.previous.any (·.regressed record) := by
    rw [TelemetryScan.withoutGauges, Option.any_map]
    rcases hprevious : scan.previous with _ | old
    · rfl
    · exact regressed_withoutGauges (habove old hprevious)
  have hstale : record.withoutGauges.stale duration = record.stale duration := rfl
  have hslice : codec.withoutGauges.fromSlice line = .ok record.withoutGauges := by
    show (codec.fromSlice line).map (·.withoutGauges) = _
    rw [hline]
    rfl
  unfold telemetryLine
  by_cases hempty : line = []
  · rw [if_pos hempty, if_pos hempty]
    rfl
  rw [if_neg hempty, if_neg hempty]
  show Except.bind (okOr (checkedAdd scan.parsedOffset (line.length + 1)) _) _
    = Except.map _ (Except.bind (okOr (checkedAdd scan.parsedOffset (line.length + 1)) _) _)
  rcases okOr (checkedAdd scan.parsedOffset (line.length + 1)) "telemetry offset overflow" with e | offset
  · rfl
  simp only [Except.bind, hslice, hline, hregressed, hstale, invalid_withoutGauges hbelow]
  show (if record.invalid scan.count = true then _ else _) = _
  split
  · rfl
  split
  · rfl
  split
  · rfl
  show Except.bind (okOr (checkedAdd scan.count 1) _) _
    = Except.map _ (Except.bind (okOr (checkedAdd scan.count 1) _) _)
  rcases okOr (checkedAdd scan.count 1) "telemetry record count overflow" with e | count
  · rfl
  · rfl

theorem telemetryLine_previous {next : TelemetryScan} (hline : codec.fromSlice line = .ok record)
    (hnext : telemetryLine codec duration scan line = .ok next) : next.previous = some record := by
  unfold telemetryLine at hnext
  rw [ite_err_eq_ok, bind_eq_ok] at hnext
  obtain ⟨-, offset, -, hnext⟩ := hnext
  rw [hline] at hnext
  simp only [ite_err_eq_ok, bind_eq_ok] at hnext
  obtain ⟨-, -, -, count, -, hnext⟩ := hnext
  cases hnext
  rfl

/-- **Run.** -/
theorem telemetryLines_withoutGauges {lines : List Bytes} {records : List TelemetryRecord}
    (hlines : List.Forall₂ (fun line record => codec.fromSlice line = .ok record) lines records)
    (hbelow : ∀ record ∈ records, record.GaugesBelow)
    (habove : (scan.previous.toList ++ records).Pairwise TelemetryRecord.CountersAbove) :
    telemetryLines codec.withoutGauges duration scan.withoutGauges lines
      = (telemetryLines codec duration scan lines).map (·.withoutGauges) := by
  induction hlines generalizing scan with
  | nil => rfl
  | @cons line record lines records hline _ ih =>
    have hprevious : ∀ old, scan.previous = some old → old.CountersAbove record := by
      intro old hold
      rw [hold] at habove
      exact (List.pairwise_cons.mp habove).1 record List.mem_cons_self
    rw [telemetryLines, telemetryLines, telemetryLine_withoutGauges hline
      (hbelow record List.mem_cons_self) hprevious]
    rcases hnext : telemetryLine codec duration scan line with e | next
    · rfl
    -- the record just read is the one before the rest
    have hnextPrevious : next.previous = some record := telemetryLine_previous hline hnext
    refine ih (fun r hr => hbelow r (List.mem_cons_of_mem _ hr)) ?_
    rw [hnextPrevious]
    exact (List.pairwise_append.mp habove).2.1

end

/-! ## Every run -/

/-- What the telemetry of a capture relies on: the gauges of every snapshot are at most their
    maxima, no gauge of a queue has wrapped, no maximum and no segment decreases, and the
    verifier treats a telemetry file as if the gauges, maxima and segments were not there. -/
structure GaugesHold (s : Shared) : Prop where
  below : ∀ k, ∀ snapshot ∈ (s.stream k).snapshots,
    snapshot.queueRecords ≤ snapshot.maxQueueRecords ∧
      snapshot.queueBytes ≤ snapshot.maxQueueBytes ∧
      snapshot.lastSyncDurationNs ≤ snapshot.maxSyncDurationNs
  unwrapped : ∀ k g, ((s.stream k).watch g).wrapped = false
  rising : ∀ k, (s.stream k).snapshots.Pairwise fun old snapshot =>
    old.segmentIndex ≤ snapshot.segmentIndex ∧
      old.maxQueueRecords ≤ snapshot.maxQueueRecords ∧
      old.maxQueueBytes ≤ snapshot.maxQueueBytes ∧ old.maxQueueAgeNs ≤ snapshot.maxQueueAgeNs ∧
      old.maxSyncDurationNs ≤ snapshot.maxSyncDurationNs
  verified : ∀ (codec : TelemetryCodec) (duration : Nat) (lines : List Bytes)
    (records : List TelemetryRecord), records.Sublist s.telemetry →
    List.Forall₂ (fun line record => codec.fromSlice line = .ok record) lines records →
    telemetryLines codec.withoutGauges duration {} lines
      = (telemetryLines codec duration {} lines).map (·.withoutGauges)

/-- **Gauges.** In a capture whose observer has never loaded a gauge between the step that raised it
    and the step that published it, and the maximum before that as well, every snapshot shows the
    gauges at most at their maxima. -/
theorem gauges_stay_below_maxima (config : CaptureConfig) (deadline clock : Nat)
    (clockMetadata : ClockMetadata) (v : SupervisorLocals) (schedule : List (ThreadId × Input))
    (huntorn : ∀ k g, (((captureRun config deadline clock clockMetadata v schedule).stream k).watch
      g).torn = false) :
    GaugesHold (captureRun config deadline clock clockMetadata v schedule) := by
  have hinv := capture_inv config deadline clock clockMetadata v schedule
  have hbelow : ∀ k, ∀ snapshot ∈ ((captureRun config deadline clock clockMetadata v
      schedule).stream k).snapshots, ∀ g, snapshot.gauge g ≤ snapshot.maximum g :=
    fun k snapshot hmem g => (hinv.stream k).sampled.untorn snapshot hmem g (huntorn k g)
  refine ⟨fun k snapshot hmem => ?_, fun k => (hinv.stream k).gauged.unwrapped, fun k => ?_, ?_⟩
  · have h := hbelow k snapshot hmem
    exact ⟨h .queueRecords, h .queueBytes, h .syncDuration⟩
  · refine (hinv.stream k).sampled.ordered.imp fun h => ?_
    exact ⟨h .segmentIndex, h (.maximum .queueRecords), h (.maximum .queueBytes), h .maxQueueAge,
      h (.maximum .syncDuration)⟩
  · intro codec duration lines records hrecords hlines
    refine @telemetryLines_withoutGauges codec duration {} lines records hlines ?_ ?_
    · intro record hmem k g
      have hsnapshot := (hinv.sampled k).subset (List.mem_map_of_mem (hrecords.subset hmem))
      exact hbelow k _ hsnapshot g
    · exact hinv.ordered.sublist hrecords

/-! ## A torn snapshot -/

/-- A serializer of the transport journal that writes the index of a record. -/
def indexCodec : TransportCodec where
  bodyToVec body := .ok (asBytes (toString body.recordIndex))
  envelopeToVec envelope := .ok (asBytes (toString envelope.body.recordIndex))
  fromSlice _ := .error "expected value"
  digest bytes := digestOfNat (bytes.headD 0).toNat

def sampleConfig : CaptureConfig where
  transport := indexCodec
  segment := streamCodec
  progress := { Progress.sampleProgressCodec with envelopeToVec := fun _ => .error "no envelope" }
  root := "capture"
  symbol := "BTCUSDT"
  epoch k := streamName k ++ "-1"
  segmentDurationNs := 60000000000
  specRevision := "1"
  fault _ := none

def sampleClock : ClockMetadata := ⟨"UNKNOWN", "system-clock-status-not-probed", none, none, none⟩

/-- The answers to one event of the transport journal. -/
def told : List Input := [.wall (.ok 1), .mono 1, .write .none]

def connects : List Input :=
  List.flatten [[.access, .outcome (.ok ())], told, [.dns (.ok ["10.0.0.1:443"])], told,
    [.access, .connect (.ok ⟨101, "101"⟩), .endpoints (.ok ("10.0.0.2:50000", "10.0.0.1:443")),
      .access, .tcp .unsupportedPlatform], told, [.outcome (.ok ()), .mono 1, .access]]

/-- It reads a message of two bytes and raises the gauge of the records. -/
def raises : List Input :=
  [.access, .read (.message (.text [123, 125])), .mono 1, .wall (.ok 1), .mono 1, .access, .access,
    .access, .access, .access]

/-- It raises the gauge of the bytes and publishes both. -/
def publishes : List Input := [.access, .access, .access]

/-- The main thread takes a snapshot of each stream and builds a record. -/
def observes : List Input :=
  List.flatten [[.access, .finding none, .access, .mono 1, .access, .mono 1, .finding none,
    .access, .access], List.replicate 30 .access, [.wall (.ok 1), .mono 1, .access]]

/-- The depth producer first, then the main thread. -/
def sampleRun (producer : List Input) : Shared :=
  captureRun sampleConfig 10 0 sampleClock ⟨sampleClock, 0, 0⟩
    (producer.map (ThreadId.producer .depth, ·) ++ observes.map (ThreadId.supervisor, ·))

theorem gauges_stay_below_maxima_published :
    (∃ snapshot ∈ ((sampleRun (connects ++ raises ++ publishes)).stream .depth).snapshots,
      snapshot.queueRecords = 1) ∧ GaugesHold (sampleRun (connects ++ raises ++ publishes)) := by
  have huntorn : ∀ k ∈ [BoundaryStreamKind.depth, .trade], ∀ g ∈ [Gauge.queueRecords, .queueBytes,
      .syncDuration], (((sampleRun (connects ++ raises ++ publishes)).stream k).watch g).torn
        = false := by decide +kernel
  refine ⟨by decide +kernel, ?_⟩
  rw [sampleRun] at huntorn ⊢
  refine gauges_stay_below_maxima _ _ _ _ _ _ fun k g => huntorn k ?_ g ?_
  · cases k <;> simp
  · cases g <;> simp

/-- The producer was about to publish the gauge: the snapshot shows one record and no maximum, and
    the verifier does not take the record. -/
theorem torn_snapshot_is_rejected :
    ¬ GaugesHold (sampleRun (connects ++ raises)) ∧
      ∃ record ∈ (sampleRun (connects ++ raises)).telemetry,
        record.invalid record.recordIndex = true := by
  have hsnapshot : ∃ snapshot ∈ ((sampleRun (connects ++ raises)).stream .depth).snapshots,
      snapshot.maxQueueRecords < snapshot.queueRecords := by decide +kernel
  refine ⟨fun h => ?_, by decide +kernel⟩
  obtain ⟨snapshot, hmem, hlt⟩ := hsnapshot
  exact absurd (h.below .depth snapshot hmem).1 (Nat.not_le.mpr hlt)

end LobReplay.Segmented
