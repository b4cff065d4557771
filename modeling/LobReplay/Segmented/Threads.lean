/-
  What the threads of a segmented capture may rely on. Each thread has a part of the health of its
  stream that no other thread changes (`ProducerView`, `WriterView`); the main thread relies on the
  counters of every stream going up and on its own records (`Keeps`). A thread may do whatever keeps
  what the others rely on (`threadProtocol`).

  `SharedInv` is what holds whoever is running.
-/

import LobReplay.Segmented.Accounts

namespace LobReplay.Segmented

open Foundation Raw

inductive ThreadId where
  | producer (k : BoundaryStreamKind)
  | writer (k : BoundaryStreamKind)
  | supervisor
  deriving DecidableEq

/-! ## Views -/

structure ProducerView where
  received : Nat
  socketActivity : Nat
  unpublishedRecords : Option Nat
  unpublishedBytes : Option Nat
  offeredRecords : Nat
  offeredBytes : Nat

def StreamState.producerView (state : StreamState) : ProducerView where
  received := state.health.received
  socketActivity := state.health.lastSocketActivityMonoNs
  unpublishedRecords := (state.watch .queueRecords).unpublished
  unpublishedBytes := (state.watch .queueBytes).unpublished
  offeredRecords := (state.watch .queueRecords).offered
  offeredBytes := (state.watch .queueBytes).offered

structure WriterView where
  written : Nat
  segmentIndex : Nat
  inHand : Option CapturedFrame
  unpublishedSync : Option Nat
  takenRecords : Nat
  takenBytes : Nat

def StreamState.writerView (state : StreamState) : WriterView where
  written := state.health.written
  segmentIndex := state.health.segmentIndex
  inHand := state.inHand
  unpublishedSync := (state.watch .syncDuration).unpublished
  takenRecords := (state.watch .queueRecords).taken
  takenBytes := (state.watch .queueBytes).taken

/-- What a thread relies on is kept. -/
def Keeps : ThreadId → Shared → Shared → Prop
  | .producer k, s, s' => (s'.stream k).producerView = (s.stream k).producerView
  | .writer k, s, s' => (s'.stream k).writerView = (s.stream k).writerView
  | .supervisor, s, s' =>
    s'.telemetry = s.telemetry ∧ ∀ k, Advances (s.stream k) (s'.stream k)

theorem Keeps.refl (t : ThreadId) (s : Shared) : Keeps t s s := by
  cases t with
  | producer k => exact rfl
  | writer k => exact rfl
  | supervisor => exact ⟨rfl, fun k => .refl _⟩

theorem Keeps.trans {t : ThreadId} {a b c : Shared} (h : Keeps t a b) (h' : Keeps t b c) :
    Keeps t a c := by
  cases t with
  | producer k => exact Eq.trans h' h
  | writer k => exact Eq.trans h' h
  | supervisor => exact ⟨h'.1.trans h.1, fun k => (h.2 k).trans (h'.2 k)⟩

/-- Time passes, and a thread keeps what the others rely on. -/
def threadProtocol (t : ThreadId) : Protocol Shared where
  rely s s' := s.clock ≤ s'.clock ∧ Keeps t s s'
  guarantee s s' := s.clock ≤ s'.clock ∧ ∀ t', t' ≠ t → Keeps t' s s'
  refl s := ⟨Nat.le_refl _, .refl t s⟩
  trans _ _ _ h h' := ⟨h.1.trans h'.1, h.2.trans h'.2⟩

theorem guarantee_refl (t : ThreadId) (s : Shared) : (threadProtocol t).guarantee s s :=
  ⟨Nat.le_refl _, fun t' _ => .refl t' s⟩

/-- What holds whoever is running. -/
structure SharedInv (config : CaptureConfig) (s : Shared) : Prop where
  stream : ∀ k, StreamInv config k s.clock (s.stream k)
  valid : ∀ record ∈ s.telemetry, validateTelemetryRecord record = .ok ()
  sampled : ∀ k, (s.telemetry.map (·.of k)).Sublist (s.stream k).snapshots

/-! ## Assertions -/

section

variable {config : CaptureConfig} {t : ThreadId} {P Q : Shared → Prop}

/-- An assertion the other threads keep. -/
abbrev Kept (config : CaptureConfig) (t : ThreadId) (P : Shared → Prop) : Prop :=
  Stable (SharedInv config) (threadProtocol t) P

theorem Kept.and (hP : Kept config t P) (hQ : Kept config t Q) :
    Kept config t fun s => P s ∧ Q s :=
  fun s s' h hinv hrely => ⟨hP s s' h.1 hinv hrely, hQ s s' h.2 hinv hrely⟩

theorem Kept.pure (p : Prop) : Kept config t fun _ => p := fun _ _ h _ _ => h

theorem Kept.clock (ns : Nat) : Kept config t fun s => ns ≤ s.clock :=
  fun _ _ h _ hrely => h.trans hrely.1

theorem Kept.producerView (k : BoundaryStreamKind) (A : ProducerView → Prop) :
    Kept config (.producer k) fun s => A (s.stream k).producerView := by
  intro s s' h _ hrely
  show A (s'.stream k).producerView
  rw [show (s'.stream k).producerView = (s.stream k).producerView from hrely.2]
  exact h

theorem Kept.writerView (k : BoundaryStreamKind) (A : WriterView → Prop) :
    Kept config (.writer k) fun s => A (s.stream k).writerView := by
  intro s s' h _ hrely
  show A (s'.stream k).writerView
  rw [show (s'.stream k).writerView = (s.stream k).writerView from hrely.2]
  exact h

end

/-! ## Quiet programs -/

/-- A change that leaves the health, the queue and the records alone. -/
structure Quiet (s s' : Shared) : Prop where
  clock_le : s.clock ≤ s'.clock
  telemetry_eq : s'.telemetry = s.telemetry
  health_eq : ∀ k, (s'.stream k).health = (s.stream k).health
  watch_eq : ∀ k, (s'.stream k).watch = (s.stream k).watch
  snapshots_eq : ∀ k, (s'.stream k).snapshots = (s.stream k).snapshots
  queue_eq : ∀ k, (s'.stream k).queue = (s.stream k).queue
  inHand_eq : ∀ k, (s'.stream k).inHand = (s.stream k).inHand

theorem Quiet.refl (s : Shared) : Quiet s s :=
  ⟨Nat.le_refl _, rfl, fun _ => rfl, fun _ => rfl, fun _ => rfl, fun _ => rfl, fun _ => rfl⟩

variable {s s' : Shared}

theorem Quiet.keeps (h : Quiet s s') (t : ThreadId) : Keeps t s s' := by
  cases t with
  | producer k =>
    show (s'.stream k).producerView = (s.stream k).producerView
    rw [StreamState.producerView, h.health_eq, h.watch_eq]
    rfl
  | writer k =>
    show (s'.stream k).writerView = (s.stream k).writerView
    rw [StreamState.writerView, h.health_eq, h.watch_eq, h.inHand_eq]
    rfl
  | supervisor =>
    refine ⟨h.telemetry_eq, fun k => .of_health (h.snapshots_eq k) (h.watch_eq k) fun c => ?_⟩
    rw [h.health_eq]

theorem Quiet.inv {config : CaptureConfig} (h : Quiet s s') (hinv : SharedInv config s) :
    SharedInv config s' where
  stream k := by
    have hstream := (hinv.stream k).later h.clock_le
    have hframes : (s'.stream k).frames = (s.stream k).frames := by
      rw [StreamState.frames, h.inHand_eq, h.queue_eq, StreamState.frames]
    have hadvances : Advances (s.stream k) (s'.stream k) := (h.keeps .supervisor).2 k
    exact ⟨(h.health_eq k).symm ▸ hstream.causal,
      hstream.queued.congr hframes (hadvances.counter_le .received) (by rw [h.health_eq])
        (hadvances.counter_le .socketActivity),
      hstream.gauged.congr (h.queue_eq k) (h.watch_eq k) (fun g => by rw [h.health_eq])
        (fun g => by rw [h.health_eq]),
      hstream.sampled.advance hadvances⟩
  valid := by
    rw [h.telemetry_eq]
    exact hinv.valid
  sampled k := by
    rw [h.telemetry_eq, h.snapshots_eq]
    exact hinv.sampled k

theorem Quiet.onStream {k : BoundaryStreamKind} {f : StreamState → StreamState}
    (hhealth : (f (s.stream k)).health = (s.stream k).health)
    (hwatch : (f (s.stream k)).watch = (s.stream k).watch)
    (hsnapshots : (f (s.stream k)).snapshots = (s.stream k).snapshots)
    (hqueue : (f (s.stream k)).queue = (s.stream k).queue)
    (hinHand : (f (s.stream k)).inHand = (s.stream k).inHand) : Quiet s (s.onStream k f) := by
  have hstream : ∀ k', (s.onStream k f).stream k'
      = if k' = k then f (s.stream k) else s.stream k' :=
    Function.update_apply s.stream k (f (s.stream k))
  refine ⟨Nat.le_refl _, rfl, fun k' => ?_, fun k' => ?_, fun k' => ?_, fun k' => ?_,
    fun k' => ?_⟩
  all_goals
    rw [hstream]
    split
    case isTrue heq => first | exact heq ▸ hhealth | exact heq ▸ hwatch | exact heq ▸ hsnapshots
                             | exact heq ▸ hqueue | exact heq ▸ hinHand
    case isFalse => rfl

section

variable {config : CaptureConfig} {t : ThreadId} {P : Shared → Prop} {α : Type} {c : Thread α}
  {Q : α → Shared → Prop} {E : Failure → Shared → Prop} {s : Shared} {k : BoundaryStreamKind}
  {f : StreamState → StreamState}

/-- A program of the thread keeps what holds whoever is running. -/
abbrev ThreadTriple (config : CaptureConfig) (t : ThreadId) (P : Shared → Prop) (c : Thread α)
    (Q : α → Shared → Prop) (E : Failure → Shared → Prop) : Prop :=
  Triple (SharedInv config) (threadProtocol t) P c Q E

/-- **Silence.** -/
theorem quiet_triple (hc : c.Each Quiet) (hP : Kept config t P) :
    ThreadTriple config t P c (fun _ => P) fun _ => P := by
  refine .each hc hP fun s s' hs hinv hquiet => ?_
  have hinv' := hquiet.inv hinv
  exact ⟨⟨hquiet.clock_le, fun t' _ => hquiet.keeps t'⟩, hinv',
    hP s s' hs hinv' ⟨hquiet.clock_le, hquiet.keeps t⟩⟩

/-- A quiet part before the rest. -/
theorem quiet_bind {β : Type} {f : α → Thread β} {Q : β → Shared → Prop} (hc : c.Each Quiet)
    (hP : Kept config t P) (hf : ∀ a, ThreadTriple config t P (f a) Q fun _ _ => True) :
    ThreadTriple config t P (c >>= f) Q fun _ _ => True :=
  .bind ((quiet_triple hc hP).consequence (fun _ h _ => h) (fun _ _ h _ => h)
    fun _ _ _ _ => trivial) hf

/-- **Loads.** What is loaded may be noted as long as the other threads keep it. -/
theorem load_triple {f : Shared → α} (hP : Kept config t P)
    (hQ : ∀ s, P s → SharedInv config s → Q (f s) s) :
    ThreadTriple config t P (Thread.load f) Q E := by
  refine .atomic hP fun i s a s' hs hinv haction => ?_
  cases haction
  exact ⟨guarantee_refl t s, hinv, hQ s hs hinv⟩

/-! ## Accesses -/

/-- A change of one stream that keeps the invariant and lets the counters go up. -/
theorem SharedInv.onStream (hinv : SharedInv config s)
    (hstream : StreamInv config k s.clock (f (s.stream k)))
    (hsnapshots : (f (s.stream k)).snapshots = (s.stream k).snapshots) :
    SharedInv config (s.onStream k f) where
  stream k' := by
    show StreamInv config k' s.clock (Function.update s.stream k (f (s.stream k)) k')
    rw [Function.update_apply]
    split
    case isTrue heq => exact heq ▸ hstream
    case isFalse => exact hinv.stream k'
  valid := hinv.valid
  sampled k' := by
    show (s.telemetry.map (·.of k')).Sublist
      (Function.update s.stream k (f (s.stream k)) k').snapshots
    rw [Function.update_apply]
    split
    case isTrue heq =>
      rw [hsnapshots, ← heq]
      exact hinv.sampled k'
    case isFalse => exact hinv.sampled k'

theorem keeps_onStream {t' : ThreadId}
    (hadvances : t' = .supervisor → Advances (s.stream k) (f (s.stream k)))
    (hproducer : t' = .producer k → (f (s.stream k)).producerView = (s.stream k).producerView)
    (hwriter : t' = .writer k → (f (s.stream k)).writerView = (s.stream k).writerView) :
    Keeps t' s (s.onStream k f) := by
  have hstream : ∀ k', (s.onStream k f).stream k'
      = if k' = k then f (s.stream k) else s.stream k' :=
    Function.update_apply s.stream k (f (s.stream k))
  cases t' with
  | producer k' =>
    show ((s.onStream k f).stream k').producerView = _
    rw [hstream]
    split
    case isTrue heq => exact heq ▸ hproducer (heq ▸ rfl)
    case isFalse => rfl
  | writer k' =>
    show ((s.onStream k f).stream k').writerView = _
    rw [hstream]
    split
    case isTrue heq => exact heq ▸ hwriter (heq ▸ rfl)
    case isFalse => rfl
  | supervisor =>
    refine ⟨rfl, fun k' => ?_⟩
    rw [hstream]
    split
    case isTrue heq => exact heq ▸ hadvances rfl
    case isFalse => exact .refl _

theorem stream_onStream (s : Shared) (k : BoundaryStreamKind) (f : StreamState → StreamState) :
    (s.onStream k f).stream k = f (s.stream k) :=
  Function.update_self ..

theorem onStream_self (s : Shared) (k : BoundaryStreamKind) :
    s.onStream k (fun state => state) = s := by
  unfold Shared.onStream
  rw [Function.update_eq_self]

/-- **Access.** One access of one stream, which leaves the views of the others alone. -/
theorem access_triple {f : Shared → α × Shared} {g : Shared → StreamState → StreamState}
    (hP : Kept config t P) (hf : ∀ s, (f s).2 = s.onStream k (g s))
    (hg : ∀ s, P s → StreamInv config k s.clock (s.stream k) →
      StreamInv config k s.clock (g s (s.stream k)) ∧ Advances (s.stream k) (g s (s.stream k)))
    (hproducer : ∀ s, t ≠ .producer k →
      (g s (s.stream k)).producerView = (s.stream k).producerView)
    (hwriter : ∀ s, t ≠ .writer k → (g s (s.stream k)).writerView = (s.stream k).writerView)
    (hQ : ∀ s, P s → SharedInv config s → Q (f s).1 (s.onStream k (g s))) :
    ThreadTriple config t P (Thread.exchange f) Q E := by
  refine .atomic hP fun i s a s' hs hinv haction => ?_
  obtain ⟨rfl, rfl⟩ : (f s).1 = a ∧ (f s).2 = s' := by
    rw [Option.some.injEq] at haction
    rw [haction]
    exact ⟨rfl, rfl⟩
  obtain ⟨hstream, hadvances⟩ := hg s hs (hinv.stream k)
  rw [hf]
  refine ⟨⟨Nat.le_refl _, fun t' ht' => keeps_onStream (fun _ => hadvances) ?_ ?_⟩,
    hinv.onStream hstream hadvances.snapshots_eq, hQ s hs hinv⟩
  · exact fun heq => hproducer s fun h => ht' (heq.trans h.symm)
  · exact fun heq => hwriter s fun h => ht' (heq.trans h.symm)

end

/-! ## Actions that change nothing but the clock -/

/-- A relation of states that allows no change and the passing of time. -/
class Passive (R : Shared → Shared → Prop) : Prop where
  refl : ∀ s, R s s
  clock : ∀ s ns, s.clock ≤ ns → R s { s with clock := ns }

instance : Passive Quiet where
  refl := .refl
  clock s _ hle := { Quiet.refl s with clock_le := hle }

namespace Thread

variable {α β : Type} {R : Shared → Shared → Prop}

theorem store_each {f : Shared → Shared} (h : ∀ s, R s (f s)) : (store f).Each R := by
  refine .atomic fun i s a s' haction => ?_
  cases haction
  exact h s

theorem fail_each (message : String) : (fail message : Thread α).Each R := trivial

theorem ofExcept_each (r : Except String α) : (ofExcept r).Each R := by
  cases r with
  | ok a => exact .ret a
  | error message => exact fail_each message

theorem closure_each {body : Thread α} (h : body.Each R) : (closure body).Each R := by
  refine h.attempt.bind fun r => ?_
  split
  · exact .ret _
  · exact .ret _
  · exact trivial

variable [Passive R]

theorem load_each (f : Shared → α) : (load f).Each R := by
  refine .atomic fun i s a s' h => ?_
  cases h
  exact Passive.refl s

theorem ask_each (f : Input → Option α) : (ask f).Each R := by
  refine .atomic fun i s a s' h => ?_
  obtain ⟨b, -, hb⟩ := Option.map_eq_some_iff.mp h
  cases hb
  exact Passive.refl s

theorem now_each : now.Each R := by
  refine .atomic fun i s ns s' h => ?_
  split at h
  · split at h
    · next hle =>
      cases h
      exact Passive.clock s _ hle
    · cases h
  · cases h

theorem elapsed_each (since : Nat) : (elapsed since).Each R :=
  now_each.bind fun _ => .ret _

theorem elapsedNs_each : elapsedNs.Each R := by
  refine now_each.bind fun ns => ?_
  split
  · exact .ret ns
  · exact fail_each _

theorem unixNs_each : unixNs.Each R := by
  refine (ask_each _).bind fun result => (ofExcept_each result).bind fun ns => ?_
  split
  · exact .ret ns
  · exact fail_each _

theorem perform_each (context : String) : (perform context).Each R := by
  refine (ask_each _).bind fun result => ?_
  split
  · exact .ret ()
  · exact fail_each _

end Thread

/-! ## Reading the clock -/

section

open Thread

variable {config : CaptureConfig} {t : ThreadId} {P : Shared → Prop} {E : Failure → Shared → Prop}
  {Q : Nat → Shared → Prop}

/-- The time that is read has passed, and is no earlier than what the state holds. -/
theorem now_triple (hP : Kept config t P)
    (hQ : ∀ s ns, P s → SharedInv config s → s.clock ≤ ns → Q ns { s with clock := ns }) :
    ThreadTriple config t P now Q E := by
  refine .atomic hP fun i s ns s' hs hinv haction => ?_
  split at haction
  · split at haction
    · next ns' hle =>
      cases haction
      have hquiet : Quiet s { s with clock := ns } := { Quiet.refl s with clock_le := hle }
      exact ⟨⟨hle, fun t' _ => hquiet.keeps t'⟩, hquiet.inv hinv, hQ s ns hs hinv hle⟩
    · cases haction
  · cases haction

theorem elapsedNs_triple (hP : Kept config t P)
    (hQ : ∀ s ns, P s → SharedInv config s → s.clock ≤ ns → ns ≤ u64Max →
      Q ns { s with clock := ns }) :
    ThreadTriple config t P elapsedNs Q fun _ _ => True := by
  refine .bind (M := fun ns s => ns ≤ u64Max → Q ns s) ?_ fun ns => ?_
  · exact now_triple hP fun s ns hs hinv hle hns => hQ s ns hs hinv hle hns
  · split
    · next hns => exact .ret fun s h _ => h hns
    · exact .fail fun _ _ _ => trivial

/-- What the closure leaves behind, whether it fails or not. -/
theorem closure_triple {α : Type} {body : Thread α} {Q : Except String α → Shared → Prop}
    (h : ThreadTriple config t P body (fun a => Q (.ok a)) fun e s =>
      ∀ message, e = .err message → Q (.error message) s) :
    ThreadTriple config t P (closure body) Q fun _ _ => True := by
  refine .bind (M := fun r s => match r with
    | .ok a => Q (.ok a) s
    | .error e => ∀ message, e = .err message → Q (.error message) s) ?_ fun r => ?_
  · refine .attempt (h.consequence (fun _ h _ => h) (fun _ _ h _ => h) fun _ _ h _ => h)
  · rcases r with (message | _) | a
    · exact .ret fun _ h _ => h message rfl
    · exact .fail fun _ _ _ => trivial
    · exact .ret fun _ h _ => h

end

end LobReplay.Segmented
