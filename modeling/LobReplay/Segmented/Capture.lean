/-
  The threads of a segmented capture together: two producers, two writers and the main thread, in
  any order of their actions. Each was proved alone, so what holds whoever is running holds in every
  state a capture reaches (`capture_inv`).
-/

import LobReplay.Segmented.Telemetry

namespace LobReplay.Segmented

open Foundation Raw

/-! ## The capture -/

/-- Where a thread stands between two parts of its program. -/
inductive CaptureStage where
  | producer (k : BoundaryStreamKind) (stage : ProducerStage)
  | writer (k : BoundaryStreamKind) (stage : WriterStage)
  | supervisor (stage : SupervisorStage)

/-- The part of a program at a stage. -/
def captureCode (config : CaptureConfig) (deadline : Nat) :
    CaptureStage → Thread (Option CaptureStage)
  | .producer k stage => Option.map (.producer k) <$> producerLoop config k stage
  | .writer k stage => Option.map (.writer k) <$> writerLoop config k stage
  | .supervisor stage => Option.map .supervisor <$> supervisorLoop deadline stage

def startStage (v : SupervisorLocals) : ThreadId → CaptureStage
  | .producer k => .producer k .start
  | .writer k => .writer k .start
  | .supervisor => .supervisor (.start v)

abbrev Capture := System ThreadId Input Shared Failure CaptureStage

def startCapture (clock : Nat) (clockMetadata : ClockMetadata) (v : SupervisorLocals) :
    Capture where
  shared := { clock, clockMetadata }
  threads t := pure (some (startStage v t))

def captureRun (config : CaptureConfig) (deadline clock : Nat) (clockMetadata : ClockMetadata)
    (v : SupervisorLocals) (schedule : List (ThreadId × Input)) : Shared :=
  (System.run (captureCode config deadline) (startCapture clock clockMetadata v) schedule).shared

/-! ## Every run -/

section

variable {config : CaptureConfig}

/-- What holds of a thread before a part of its program. -/
def StageReady (config : CaptureConfig) : ThreadId → Option CaptureStage → Shared → Prop
  | _, none, _ => True
  | .producer k, some (.producer k' stage), s => k' = k ∧ ProducerReady k (some stage) s
  | .writer k, some (.writer k' stage), s => k' = k ∧ WriterReady config k (some stage) s
  | .supervisor, some (.supervisor _), _ => True
  | _, _, _ => False

theorem kept_stageReady (t : ThreadId) (stage : Option CaptureStage) :
    Kept config t (StageReady config t stage) := by
  rcases stage with _ | (⟨k, stage⟩ | ⟨k, stage⟩ | stage) <;> cases t
  case some.producer.producer => exact (Kept.pure _).and (kept_producerReady _)
  case some.writer.writer => exact (Kept.pure _).and (kept_writerReady _)
  all_goals exact fun _ _ h _ _ => h

/-- The threads were proved one at a time. -/
theorem capture_composed (deadline : Nat) :
    System.Composed (SharedInv config) (captureCode config deadline) threadProtocol
      (StageReady config) fun _ _ _ => True where
  compatible t t' hne s s' _ _ h := ⟨h.1, h.2 t' (Ne.symm hne)⟩
  next := kept_stageReady
  error t e := Kept.pure True
  block t block := by
    have hfalse : ∀ c : Thread (Option CaptureStage), ThreadTriple config t
        (fun _ => False) c (StageReady config t) fun _ _ => True :=
      fun c => .strengthen (.assume (P := fun _ => True) False.elim) fun _ h _ => h.elim
    cases t with
    | producer k =>
      cases block with
      | producer k' stage =>
        refine .assume fun heq => ?_
        subst heq
        refine .bind (producerLoop_safe stage) fun next => .ret fun s h _ => ?_
        cases next with
        | none => exact trivial
        | some stage => exact ⟨rfl, h⟩
      | writer k' stage => exact hfalse _
      | supervisor stage => exact hfalse _
    | writer k =>
      cases block with
      | producer k' stage => exact hfalse _
      | writer k' stage =>
        refine .assume fun heq => ?_
        subst heq
        refine .bind (writerLoop_safe stage) fun next => .ret fun s h _ => ?_
        cases next with
        | none => exact trivial
        | some stage => exact ⟨rfl, h⟩
      | supervisor stage => exact hfalse _
    | supervisor =>
      cases block with
      | producer k' stage => exact hfalse _
      | writer k' stage => exact hfalse _
      | supervisor stage =>
        refine .bind (supervisorLoop_safe deadline stage) fun next => .ret fun s _ _ => ?_
        cases next with
        | none => exact trivial
        | some stage => exact trivial

/-- Nothing has happened yet. -/
theorem initial_inv (clock : Nat) (clockMetadata : ClockMetadata) :
    SharedInv config { clock, clockMetadata } where
  stream k :=
    { causal := ⟨Nat.le_refl _, Nat.le_refl _, Nat.le_refl _, Nat.zero_le _, Nat.zero_le _⟩
      queued := ⟨nofun, .nil⟩
      gauged := ⟨fun g _ => by cases g <;> rfl, fun _ => rfl, fun g => .inl (by cases g <;> rfl)⟩
      sampled := ⟨nofun, nofun, .nil⟩ }
  valid := nofun
  sampled _ := .slnil

/-- **Run.** What holds whoever is running holds in every state a capture reaches. -/
theorem capture_inv (config : CaptureConfig) (deadline clock : Nat) (clockMetadata : ClockMetadata) (v : SupervisorLocals)
    (schedule : List (ThreadId × Input)) :
    SharedInv config (captureRun config deadline clock clockMetadata v schedule) := by
  refine (System.run_safe (capture_composed deadline) ⟨initial_inv clock clockMetadata, ?_⟩
    schedule).1
  intro t
  cases t with
  | producer k => exact ⟨rfl, 0, 0, rfl⟩
  | writer k => exact ⟨rfl, none, rfl⟩
  | supervisor => exact trivial

end

/-! ## The records -/

theorem SharedInv.ordered {config : CaptureConfig} {s : Shared} (hinv : SharedInv config s) :
    s.telemetry.Pairwise fun old record => ∀ k c, (old.of k).counter c ≤ (record.of k).counter c := by
  have hordered : ∀ k, s.telemetry.Pairwise fun old record =>
      ∀ c, (old.of k).counter c ≤ (record.of k).counter c :=
    fun k => List.pairwise_map.mp ((hinv.stream k).sampled.ordered.sublist (hinv.sampled k))
  refine ((hordered .depth).and (hordered .trade)).imp fun h k => ?_
  cases k with
  | depth => exact h.1
  | trade => exact h.2

/-- **Causality.** Every record the telemetry has built is valid, and from one record to the next
    the frames received, written and durable and the times of the last messages never
    decrease. -/
theorem telemetry_is_causal (config : CaptureConfig) (deadline clock : Nat)
    (clockMetadata : ClockMetadata) (v : SupervisorLocals) (schedule : List (ThreadId × Input)) :
    (∀ record ∈ (captureRun config deadline clock clockMetadata v schedule).telemetry,
      validateTelemetryRecord record = .ok ()) ∧
    (captureRun config deadline clock clockMetadata v schedule).telemetry.Pairwise
      fun old record => ∀ k, (old.of k).received ≤ (record.of k).received ∧
        (old.of k).written ≤ (record.of k).written ∧ (old.of k).durable ≤ (record.of k).durable ∧
        (old.of k).lastSocketActivityMonoNs ≤ (record.of k).lastSocketActivityMonoNs ∧
        (old.of k).lastMarketMessageMonoNs ≤ (record.of k).lastMarketMessageMonoNs := by
  have hinv := capture_inv config deadline clock clockMetadata v schedule
  refine ⟨hinv.valid, hinv.ordered.imp fun h k => ?_⟩
  exact ⟨h k .received, h k .written, h k .durable, h k .socketActivity, h k .marketMessage⟩

end LobReplay.Segmented
