/-
  What holds of the health of a stream whoever is running, and what each access keeps of it.

  `Causal` bounds the counters by one another, `Queued` the frames on their way by the counters;
  `Gauged` says what the gauges of the queue count and where they stand against their maxima;
  `Sampled` is about the snapshots taken so far.
-/

import LobReplay.Segmented.Producer
import LobReplay.Segmented.Supervisor
import LobReplay.Segmented.Writer

namespace LobReplay.Segmented

open Foundation Raw

/-! ## Counters -/

/-- The counters and times that never decrease. -/
inductive Counter where
  | received
  | written
  | durable
  | segmentIndex
  | socketActivity
  | marketMessage
  | maxQueueAge
  | maximum (gauge : Gauge)
  deriving DecidableEq

def StreamHealth.counter (health : StreamHealth) : Counter → Nat
  | .received => health.received
  | .written => health.written
  | .durable => health.durable
  | .segmentIndex => health.segmentIndex
  | .socketActivity => health.lastSocketActivityMonoNs
  | .marketMessage => health.lastMarketMessageMonoNs
  | .maxQueueAge => health.maxQueueAgeNs
  | .maximum gauge => health.maximum gauge

def StreamHealthSnapshot.counter (snapshot : StreamHealthSnapshot) : Counter → Nat
  | .received => snapshot.received
  | .written => snapshot.written
  | .durable => snapshot.durable
  | .segmentIndex => snapshot.segmentIndex
  | .socketActivity => snapshot.lastSocketActivityMonoNs
  | .marketMessage => snapshot.lastMarketMessageMonoNs
  | .maxQueueAge => snapshot.maxQueueAgeNs
  | .maximum gauge => snapshot.maximum gauge

namespace StreamHealth

variable (health : StreamHealth) (g g' : Gauge) (value : Nat)

theorem gauge_setGauge :
    (health.setGauge g value).gauge g' = if g' = g then value else health.gauge g' := by
  cases g <;> cases g' <;> rfl

theorem maximum_setMaximum :
    (health.setMaximum g value).maximum g' = if g' = g then value else health.maximum g' := by
  cases g <;> cases g' <;> rfl

@[simp] theorem maximum_setGauge : (health.setGauge g value).maximum g' = health.maximum g' := by
  cases g <;> cases g' <;> rfl

@[simp] theorem gauge_setMaximum : (health.setMaximum g value).gauge g' = health.gauge g' := by
  cases g <;> cases g' <;> rfl

@[simp] theorem counter_setGauge (c : Counter) :
    (health.setGauge g value).counter c = health.counter c := by
  cases c with
  | maximum g' => exact maximum_setGauge health g g' value
  | _ => cases g <;> rfl

theorem counter_setMaximum_le (c : Counter) (h : health.maximum g ≤ value) :
    health.counter c ≤ (health.setMaximum g value).counter c := by
  cases c with
  | maximum g' =>
    show health.maximum g' ≤ (health.setMaximum g value).maximum g'
    rw [maximum_setMaximum]
    split
    · next heq => exact heq ▸ h
    · exact Nat.le_refl _
  | _ => cases g <;> exact Nat.le_refl _

end StreamHealth

/-! ## What holds -/

/-- The counters and times bound one another. -/
structure Causal (health : StreamHealth) (clock : Nat) : Prop where
  durable_le : health.durable ≤ health.written
  written_le : health.written ≤ health.received
  market_le : health.lastMarketMessageMonoNs ≤ health.lastSocketActivityMonoNs
  socket_le : health.lastSocketActivityMonoNs ≤ clock
  lastDurable_le : health.lastDurableMonoNs ≤ clock

def CaptureConfig.identity (config : CaptureConfig) (k : BoundaryStreamKind) : Identity :=
  (config.epoch k, config.channel k)

/-- A frame the producer has counted, received no earlier than what was published last. -/
structure InFlight (config : CaptureConfig) (k : BoundaryStreamKind) (health : StreamHealth)
    (frame : CapturedFrame) : Prop where
  counted : frame.frameIndex.toNat < health.received
  fresh : health.lastMarketMessageMonoNs ≤ frame.receiveMonoNs.toNat
  touched : frame.receiveMonoNs.toNat ≤ health.lastSocketActivityMonoNs
  identity : frame.identity = config.identity k

/-- The frames on their way: the one in the writer's hand and those in the queue. -/
def StreamState.frames (state : StreamState) : List CapturedFrame :=
  state.inHand.toList ++ state.queue

/-- The frames on their way are in flight, in the order of their receipt. -/
structure Queued (config : CaptureConfig) (k : BoundaryStreamKind) (state : StreamState) :
    Prop where
  inFlight : ∀ frame ∈ state.frames, InFlight config k state.health frame
  ordered : state.frames.Pairwise fun a b => a.receiveMonoNs.toNat ≤ b.receiveMonoNs.toNat

def amount (g : Gauge) (queue : List CapturedFrame) : Nat := (queue.map g.measure).sum

/-- The gauges of the queue count what is on its way, and a gauge is at most its maximum unless a
    higher value is about to be published. -/
structure Gauged (state : StreamState) : Prop where
  accounted : ∀ g, g ≠ .syncDuration → state.health.gauge g
    = amount g state.queue + (state.watch g).offered + (state.watch g).taken
  unwrapped : ∀ g, (state.watch g).wrapped = false
  published : ∀ g, state.health.gauge g ≤ state.health.maximum g ∨
    ∃ value, (state.watch g).unpublished = some value ∧ state.health.gauge g ≤ value

/-- The snapshots so far: none but a torn one shows a gauge above its maximum, and their counters
    never decrease. -/
structure Sampled (state : StreamState) : Prop where
  untorn : ∀ snapshot ∈ state.snapshots, ∀ g, (state.watch g).torn = false →
    snapshot.gauge g ≤ snapshot.maximum g
  behind : ∀ snapshot ∈ state.snapshots, ∀ c, snapshot.counter c ≤ state.health.counter c
  ordered : state.snapshots.Pairwise fun a b => ∀ c, a.counter c ≤ b.counter c

structure StreamInv (config : CaptureConfig) (k : BoundaryStreamKind) (clock : Nat)
    (state : StreamState) : Prop where
  causal : Causal state.health clock
  queued : Queued config k state
  gauged : Gauged state
  sampled : Sampled state

/-! ## What an access keeps -/

/-- What the observer of a stream may rely on: the snapshots and what is known of them stay, the
    counters do not decrease, and a gauge is exposed until its value is published. -/
structure Advances (state state' : StreamState) : Prop where
  snapshots_eq : state'.snapshots = state.snapshots
  torn_eq : ∀ g, (state'.watch g).torn = (state.watch g).torn
  counter_le : ∀ c, state.health.counter c ≤ state'.health.counter c
  exposed : ∀ g value, (state.watch g).unpublished = some value → (state.watch g).exposed = true →
    (state'.watch g).unpublished = some value ∧ (state'.watch g).exposed = true ∨
      value ≤ state'.health.maximum g

theorem Advances.refl (state : StreamState) : Advances state state :=
  ⟨rfl, fun _ => rfl, fun _ => Nat.le_refl _, fun _ _ h h' => .inl ⟨h, h'⟩⟩

theorem Advances.trans {a b c : StreamState} (h : Advances a b) (h' : Advances b c) :
    Advances a c where
  snapshots_eq := h'.snapshots_eq.trans h.snapshots_eq
  torn_eq g := (h'.torn_eq g).trans (h.torn_eq g)
  counter_le counter := (h.counter_le counter).trans (h'.counter_le counter)
  exposed g value hvalue hexposed := by
    rcases h.exposed g value hvalue hexposed with ⟨hvalue, hexposed⟩ | hle
    · exact h'.exposed g value hvalue hexposed
    · exact .inr (hle.trans (h'.counter_le (.maximum g)))

variable {state state' : StreamState} {config : CaptureConfig} {k : BoundaryStreamKind}

theorem Sampled.advance (h : Sampled state) (hadvances : Advances state state') :
    Sampled state' where
  untorn snapshot hmem g htorn := by
    rw [hadvances.snapshots_eq] at hmem
    exact h.untorn snapshot hmem g ((hadvances.torn_eq g).symm.trans htorn)
  behind snapshot hmem c := by
    rw [hadvances.snapshots_eq] at hmem
    exact (h.behind snapshot hmem c).trans (hadvances.counter_le c)
  ordered := by
    rw [hadvances.snapshots_eq]
    exact h.ordered

theorem Advances.of_health (hsnapshots : state'.snapshots = state.snapshots)
    (hwatch : state'.watch = state.watch)
    (hcounter : ∀ c, state.health.counter c ≤ state'.health.counter c) : Advances state state' where
  snapshots_eq := hsnapshots
  torn_eq g := by rw [hwatch]
  counter_le := hcounter
  exposed g value hvalue hexposed := .inl ⟨by rw [hwatch, hvalue], by rw [hwatch, hexposed]⟩

/-- Gauges and maxima are all `Gauged` sees of the health. -/
theorem Gauged.congr (h : Gauged state) (hqueue : state'.queue = state.queue)
    (hwatch : state'.watch = state.watch)
    (hgauge : ∀ g, state'.health.gauge g = state.health.gauge g)
    (hmaximum : ∀ g, state'.health.maximum g = state.health.maximum g) : Gauged state' where
  accounted g hg := by rw [hgauge, hqueue, hwatch, h.accounted g hg]
  unwrapped g := by rw [hwatch, h.unwrapped g]
  published g := by rw [hgauge, hmaximum, hwatch]; exact h.published g

/-- Frames stay in flight while what bounds them goes their way. -/
theorem InFlight.mono {health health' : StreamHealth} {frame : CapturedFrame}
    (h : InFlight config k health frame) (hreceived : health.received ≤ health'.received)
    (hmarket : health'.lastMarketMessageMonoNs ≤ frame.receiveMonoNs.toNat)
    (hsocket : health.lastSocketActivityMonoNs ≤ health'.lastSocketActivityMonoNs) :
    InFlight config k health' frame :=
  ⟨lt_of_lt_of_le h.counted hreceived, hmarket, h.touched.trans hsocket, h.identity⟩

theorem Queued.congr (h : Queued config k state) (hframes : state'.frames = state.frames)
    (hreceived : state.health.received ≤ state'.health.received)
    (hmarket : state'.health.lastMarketMessageMonoNs = state.health.lastMarketMessageMonoNs)
    (hsocket : state.health.lastSocketActivityMonoNs ≤ state'.health.lastSocketActivityMonoNs) :
    Queued config k state' where
  inFlight frame hmem := by
    rw [hframes] at hmem
    have hframe := h.inFlight frame hmem
    exact hframe.mono hreceived (hmarket ▸ hframe.fresh) hsocket
  ordered := by
    rw [hframes]
    exact h.ordered

section

variable {config : CaptureConfig} {k : BoundaryStreamKind} {clock : Nat} {state : StreamState}

/-- What an access of the stream has to show of the state it leaves. -/
abbrev Admits (config : CaptureConfig) (k : BoundaryStreamKind) (clock : Nat)
    (state state' : StreamState) : Prop :=
  StreamInv config k clock state' ∧ Advances state state'

section

variable (h : StreamInv config k clock state)
include h

/-- A change of the health that leaves the gauges and the published message alone. -/
theorem StreamInv.withHealth {health : StreamHealth} (hcausal : Causal health clock)
    (hcounter : ∀ c, state.health.counter c ≤ health.counter c)
    (hmarket : health.lastMarketMessageMonoNs = state.health.lastMarketMessageMonoNs)
    (hgauge : ∀ g, health.gauge g = state.health.gauge g)
    (hmaximum : ∀ g, health.maximum g = state.health.maximum g) :
    Admits config k clock state { state with health } := by
  have hadvances : Advances state { state with health } := .of_health rfl rfl hcounter
  exact ⟨⟨hcausal, h.queued.congr rfl (hcounter .received) hmarket (hcounter .socketActivity),
    h.gauged.congr rfl rfl hgauge hmaximum, h.sampled.advance hadvances⟩, hadvances⟩

/-- Time passes. -/
theorem StreamInv.later {clock' : Nat} (hle : clock ≤ clock') : StreamInv config k clock' state :=
  ⟨{ h.causal with
      socket_le := h.causal.socket_le.trans hle
      lastDurable_le := h.causal.lastDurable_le.trans hle }, h.queued, h.gauged, h.sampled⟩

/-! ## The accesses of a producer -/

/-- **Touch.** The socket was active just now. -/
theorem StreamInv.touch {ns : Nat} (hsocket : state.health.lastSocketActivityMonoNs ≤ ns)
    (hclock : ns ≤ clock) :
    Admits config k clock state
      { state with health := { state.health with lastSocketActivityMonoNs := ns } } := by
  refine h.withHealth ?_ ?_ rfl (fun g => by cases g <;> rfl) fun g => by cases g <;> rfl
  · exact ⟨h.causal.durable_le, h.causal.written_le, h.causal.market_le.trans hsocket, hclock,
      h.causal.lastDurable_le⟩
  · intro c
    cases c with
    | socketActivity => exact hsocket
    | maximum g => cases g <;> exact Nat.le_refl _
    | _ => exact Nat.le_refl _

/-- **Receipt.** -/
theorem StreamInv.count :
    Admits config k clock state
      { state with health := { state.health with received := state.health.received + 1 } } := by
  refine h.withHealth ?_ ?_ rfl (fun g => by cases g <;> rfl) fun g => by cases g <;> rfl
  · exact ⟨h.causal.durable_le, h.causal.written_le.trans (Nat.le_succ _), h.causal.market_le,
      h.causal.socket_le, h.causal.lastDurable_le⟩
  · intro c
    cases c with
    | received => exact Nat.le_succ _
    | maximum g => cases g <;> exact Nat.le_refl _
    | _ => exact Nat.le_refl _

end

end

/-! ## The accesses of the gauges -/

section

variable {config : CaptureConfig} {k : BoundaryStreamKind} {clock : Nat} {state : StreamState}
  {g : Gauge} {value : Nat} {watch : Watch} {health : StreamHealth}

@[simp] theorem withGauge_health :
    (state.withGauge g value watch).health = state.health.setGauge g value := rfl

theorem withGauge_watch (g' : Gauge) :
    (state.withGauge g value watch).watch g' = if g' = g then watch else state.watch g' :=
  Function.update_apply state.watch g watch g'

@[simp] theorem withMaximum_health :
    (state.withMaximum g value watch).health = state.health.setMaximum g value := rfl

theorem withMaximum_watch (g' : Gauge) :
    (state.withMaximum g value watch).watch g' = if g' = g then watch else state.watch g' :=
  Function.update_apply state.watch g watch g'

theorem Causal.setGauge (h : Causal health clock) (g : Gauge) (value : Nat) :
    Causal (health.setGauge g value) clock := by
  cases g <;> exact ⟨h.durable_le, h.written_le, h.market_le, h.socket_le, h.lastDurable_le⟩

theorem Causal.setMaximum (h : Causal health clock) (g : Gauge) (value : Nat) :
    Causal (health.setMaximum g value) clock := by
  cases g <;> exact ⟨h.durable_le, h.written_le, h.market_le, h.socket_le, h.lastDurable_le⟩

/-- **Gauge.** A gauge is set to a value it accounts for, at most the one to be published. -/
theorem StreamInv.setGauge (h : StreamInv config k clock state)
    (haccounted : g ≠ .syncDuration →
      value = amount g state.queue + watch.offered + watch.taken)
    (hwrapped : watch.wrapped = false)
    (hpublished : value ≤ state.health.maximum g ∨
      ∃ next, watch.unpublished = some next ∧ value ≤ next)
    (htorn : watch.torn = (state.watch g).torn)
    (hexposed : ∀ next, (state.watch g).unpublished = some next →
      (state.watch g).exposed = true → watch.unpublished = some next ∧ watch.exposed = true) :
    Admits config k clock state (state.withGauge g value watch) := by
  have hadvances : Advances state (state.withGauge g value watch) := by
    refine ⟨rfl, fun g' => ?_, fun c => (state.health.counter_setGauge g value c).ge,
      fun g' next hnext hexp => .inl ?_⟩
    · rw [withGauge_watch]
      split
      case isTrue heq => rw [htorn, heq]
      case isFalse => rfl
    · rw [withGauge_watch]
      split
      case isTrue heq => exact hexposed next (heq ▸ hnext) (heq ▸ hexp)
      case isFalse => exact ⟨hnext, hexp⟩
  have hqueued : Queued config k (state.withGauge g value watch) :=
    h.queued.congr rfl (hadvances.counter_le .received) (by cases g <;> rfl)
      (hadvances.counter_le .socketActivity)
  refine ⟨⟨h.causal.setGauge g value, hqueued, ⟨?_, ?_, ?_⟩, h.sampled.advance hadvances⟩,
    hadvances⟩
  · intro g' hg'
    rw [withGauge_health, StreamHealth.gauge_setGauge, withGauge_watch]
    split
    case isTrue heq => exact heq ▸ haccounted (heq ▸ hg')
    case isFalse => exact h.gauged.accounted g' hg'
  · intro g'
    rw [withGauge_watch]
    split
    case isTrue => exact hwrapped
    case isFalse => exact h.gauged.unwrapped g'
  · intro g'
    rw [withGauge_health, StreamHealth.gauge_setGauge, StreamHealth.maximum_setGauge,
      withGauge_watch]
    split
    case isTrue heq => exact heq ▸ hpublished
    case isFalse => exact h.gauged.published g'

/-- **Maximum.** The value of a gauge is published. -/
theorem StreamInv.publish (h : StreamInv config k clock state)
    (hunpublished : (state.watch g).unpublished = some value) :
    Admits config k clock state
      (state.withMaximum g (max (state.health.maximum g) value) (state.watch g).settled) := by
  have hadvances : Advances state
      (state.withMaximum g (max (state.health.maximum g) value) (state.watch g).settled) := by
    refine ⟨rfl, fun g' => ?_,
      fun c => state.health.counter_setMaximum_le g _ c (le_max_left _ _),
      fun g' next hnext hexp => ?_⟩
    · rw [withMaximum_watch]
      split
      case isTrue heq => rw [heq]; rfl
      case isFalse => rfl
    · rw [withMaximum_watch, withMaximum_health, StreamHealth.maximum_setMaximum]
      split
      case isTrue heq =>
        rw [heq, hunpublished, Option.some.injEq] at hnext
        exact .inr (hnext ▸ le_max_right _ _)
      case isFalse => exact .inl ⟨hnext, hexp⟩
  have hqueued : Queued config k
      (state.withMaximum g (max (state.health.maximum g) value) (state.watch g).settled) :=
    h.queued.congr rfl (hadvances.counter_le .received) (by cases g <;> rfl)
      (hadvances.counter_le .socketActivity)
  refine ⟨⟨h.causal.setMaximum g _, hqueued, ⟨?_, ?_, ?_⟩, h.sampled.advance hadvances⟩,
    hadvances⟩
  · intro g' hg'
    rw [withMaximum_health, StreamHealth.gauge_setMaximum, withMaximum_watch]
    have haccounted := h.gauged.accounted g' hg'
    split
    case isTrue heq => rw [haccounted, heq]; rfl
    case isFalse => exact haccounted
  · intro g'
    rw [withMaximum_watch]
    have hunwrapped := h.gauged.unwrapped g'
    split
    case isTrue heq => exact heq ▸ hunwrapped
    case isFalse => exact hunwrapped
  · intro g'
    rw [withMaximum_health, StreamHealth.gauge_setMaximum, StreamHealth.maximum_setMaximum,
      withMaximum_watch]
    split
    case isTrue heq =>
      refine .inl ?_
      rcases h.gauged.published g' with hle | ⟨next, hnext, hle⟩
      · exact hle.trans (heq ▸ le_max_left _ _)
      · rw [heq, hunpublished, Option.some.injEq] at hnext
        exact (hnext ▸ hle).trans (le_max_right _ _)
    case isFalse => exact h.gauged.published g'

variable {n : Nat}

section

variable (h : StreamInv config k clock state)
include h

/-- **Raise.** -/
theorem StreamInv.raise (hoffered : (state.watch g).offered = 0)
    (hunpublished : (state.watch g).unpublished = none) :
    Admits config k clock state
      (state.withGauge g (state.health.gauge g + n)
        { state.watch g with unpublished := some (state.health.gauge g + n), offered := n }) := by
  apply h.setGauge
  · intro hg
    have := h.gauged.accounted g hg
    simp only
    omega
  · exact h.gauged.unwrapped g
  · exact .inr ⟨_, rfl, Nat.le_refl _⟩
  · rfl
  · intro next hnext
    rw [hunpublished] at hnext
    cases hnext

/-- **Lowering** by what the gauge still accounts for. -/
theorem StreamInv.lower (hle : n ≤ state.health.gauge g) {watch : Watch}
    (hwatch : watch = { state.watch g with
      wrapped := (state.watch g).wrapped || decide (state.health.gauge g < n)
      offered := watch.offered, taken := watch.taken })
    (haccounted : g ≠ .syncDuration → (state.watch g).offered + (state.watch g).taken
      = watch.offered + watch.taken + n) :
    Admits config k clock state
      (state.withGauge g (wrappingSub (state.health.gauge g) n) watch) := by
  have hsub : wrappingSub (state.health.gauge g) n = state.health.gauge g - n := if_pos hle
  rw [hsub]
  apply h.setGauge
  · intro hg
    have := h.gauged.accounted g hg
    have := haccounted hg
    omega
  · rw [hwatch]
    simp [h.gauged.unwrapped g, Nat.not_lt.mpr hle]
  · rcases h.gauged.published g with hmax | ⟨next, hnext, hvalue⟩
    · exact .inl ((Nat.sub_le _ _).trans hmax)
    · exact .inr ⟨next, by rw [hwatch]; exact hnext, (Nat.sub_le _ _).trans hvalue⟩
  · rw [hwatch]
  · intro next hnext hexposed
    rw [hwatch]
    exact ⟨hnext, hexposed⟩

/-- **Withdrawal** of what the producer has counted. -/
theorem StreamInv.withdraw (hg : g ≠ .syncDuration) (hoffered : (state.watch g).offered = n) :
    Admits config k clock state
      (state.withGauge g (wrappingSub (state.health.gauge g) n)
        { state.watch g with
          wrapped := (state.watch g).wrapped || decide (state.health.gauge g < n), offered := 0 }) := by
  have := h.gauged.accounted g hg
  refine h.lower (by omega) rfl fun _ => ?_
  simp only
  omega

/-- **Discount** of what the writer has taken. -/
theorem StreamInv.discount (hg : g ≠ .syncDuration) (htaken : (state.watch g).taken = n) :
    Admits config k clock state
      (state.withGauge g (wrappingSub (state.health.gauge g) n)
        { state.watch g with
          wrapped := (state.watch g).wrapped || decide (state.health.gauge g < n), taken := 0 }) := by
  have := h.gauged.accounted g hg
  refine h.lower (by omega) rfl fun _ => ?_
  simp only
  omega

/-- **Sync.** The duration of a sync is stored. -/
theorem StreamInv.setSync (hunpublished : (state.watch .syncDuration).unpublished = none)
    (value : Nat) :
    Admits config k clock state
      (state.withGauge .syncDuration value
        { state.watch .syncDuration with unpublished := some value }) := by
  apply h.setGauge
  · exact fun hne => absurd rfl hne
  · exact h.gauged.unwrapped _
  · exact .inr ⟨value, rfl, Nat.le_refl _⟩
  · rfl
  · intro next hnext
    rw [hunpublished] at hnext
    cases hnext

end

end

/-! ## The accesses of the queue -/

section

variable {config : CaptureConfig} {k : BoundaryStreamKind} {clock : Nat} {state : StreamState}

theorem amount_append (g : Gauge) (queue : List CapturedFrame) (frame : CapturedFrame) :
    amount g (queue ++ [frame]) = amount g queue + g.measure frame := by
  simp [amount]

def StreamState.handOver (state : StreamState) (frame : CapturedFrame) : StreamState :=
  { state with
    queue := state.queue ++ [frame]
    watch := fun g => { state.watch g with
      offered := if g = .syncDuration then (state.watch g).offered else 0 } }

variable {frame : CapturedFrame}

/-- **Hand-over.** A frame just received, that was counted before. -/
theorem StreamInv.handOver (h : StreamInv config k clock state)
    (hcounted : frame.frameIndex.toNat < state.health.received)
    (htime : frame.receiveMonoNs.toNat = state.health.lastSocketActivityMonoNs)
    (hidentity : frame.identity = config.identity k)
    (hoffered : ∀ g, g ≠ .syncDuration → (state.watch g).offered = g.measure frame) :
    Admits config k clock state (state.handOver frame) := by
  have hadvances : Advances state (state.handOver frame) :=
    ⟨rfl, fun _ => rfl, fun _ => Nat.le_refl _, fun _ _ hvalue hexposed => .inl ⟨hvalue, hexposed⟩⟩
  have hframes : (state.handOver frame).frames = state.frames ++ [frame] :=
    (List.append_assoc ..).symm
  refine ⟨⟨h.causal, ⟨?_, ?_⟩, ⟨?_, h.gauged.unwrapped, h.gauged.published⟩,
    h.sampled.advance hadvances⟩, hadvances⟩
  · intro f hf
    rw [hframes, List.mem_append, List.mem_singleton] at hf
    rcases hf with hf | rfl
    · exact h.queued.inFlight f hf
    · exact ⟨hcounted, htime ▸ h.causal.market_le, htime.le, hidentity⟩
  · rw [hframes, List.pairwise_append]
    refine ⟨h.queued.ordered, List.pairwise_singleton _ _, fun f hf f' hf' => ?_⟩
    rw [List.mem_singleton.mp hf', htime]
    exact (h.queued.inFlight f hf).touched
  · intro g hg
    have haccounted := h.gauged.accounted g hg
    have hvalue := hoffered g hg
    show state.health.gauge g = amount g (state.queue ++ [frame])
      + (if g = .syncDuration then _ else 0) + (state.watch g).taken
    rw [amount_append, if_neg hg]
    omega

def StreamState.take (state : StreamState) (frame : CapturedFrame) (queue : List CapturedFrame) :
    StreamState :=
  { state with
    queue
    inHand := some frame
    watch := fun g => { state.watch g with taken := g.measure frame } }

/-- A receive from the queue as it is read. -/
def StreamState.receive (state : StreamState) : List CapturedFrame → StreamState
  | frame :: queue => state.take frame queue
  | [] => state

section

variable (h : StreamInv config k clock state)
include h

/-- **Taking.** -/
theorem StreamInv.take {queue : List CapturedFrame} (hqueue : state.queue = frame :: queue)
    (htaken : ∀ g, g ≠ .syncDuration → (state.watch g).taken = 0) :
    Admits config k clock state (state.take frame queue) := by
  have hadvances : Advances state (state.take frame queue) :=
    ⟨rfl, fun _ => rfl, fun _ => Nat.le_refl _, fun _ _ hvalue hexposed => .inl ⟨hvalue, hexposed⟩⟩
  have hframes : state.frames = state.inHand.toList ++ (state.take frame queue).frames := by
    rw [StreamState.frames, hqueue]
    rfl
  refine ⟨⟨h.causal, ⟨?_, ?_⟩, ⟨?_, h.gauged.unwrapped, h.gauged.published⟩,
    h.sampled.advance hadvances⟩, hadvances⟩
  · intro f hf
    exact h.queued.inFlight f (hframes ▸ List.mem_append_right _ hf)
  · have hordered := h.queued.ordered
    rw [hframes] at hordered
    exact (List.pairwise_append.mp hordered).2.1
  · intro g hg
    have haccounted := h.gauged.accounted g hg
    have hnone := htaken g hg
    rw [hqueue, amount, List.map_cons, List.sum_cons] at haccounted
    show state.health.gauge g = amount g queue + (state.watch g).offered + g.measure frame
    rw [amount]
    omega

/-! ## The accesses of a writer -/

/-- **Age.** -/
theorem StreamInv.queueAge (age : Nat) :
    Admits config k clock state
      { state with health := { state.health with
        maxQueueAgeNs := max state.health.maxQueueAgeNs age } } := by
  refine h.withHealth ?_ ?_ rfl (fun g => by cases g <;> rfl) fun g => by cases g <;> rfl
  · exact ⟨h.causal.durable_le, h.causal.written_le, h.causal.market_le, h.causal.socket_le,
      h.causal.lastDurable_le⟩
  · intro c
    cases c with
    | maxQueueAge => exact le_max_left _ _
    | maximum g => cases g <;> exact Nat.le_refl _
    | _ => exact Nat.le_refl _

/-- **Written.** -/
theorem StreamInv.written {written : Nat} (hle : state.health.written ≤ written)
    (hreceived : written ≤ state.health.received) :
    Admits config k clock state { state with health := { state.health with written } } := by
  refine h.withHealth ?_ ?_ rfl (fun g => by cases g <;> rfl) fun g => by cases g <;> rfl
  · exact ⟨h.causal.durable_le.trans hle, hreceived, h.causal.market_le, h.causal.socket_le,
      h.causal.lastDurable_le⟩
  · intro c
    cases c with
    | written => exact hle
    | maximum g => cases g <;> exact Nat.le_refl _
    | _ => exact Nat.le_refl _

/-- **Durable.** -/
theorem StreamInv.durable {durable : Nat} (hle : state.health.durable ≤ durable)
    (hwritten : durable ≤ state.health.written) :
    Admits config k clock state { state with health := { state.health with durable } } := by
  refine h.withHealth ?_ ?_ rfl (fun g => by cases g <;> rfl) fun g => by cases g <;> rfl
  · exact ⟨hwritten, h.causal.written_le, h.causal.market_le, h.causal.socket_le,
      h.causal.lastDurable_le⟩
  · intro c
    cases c with
    | durable => exact hle
    | maximum g => cases g <;> exact Nat.le_refl _
    | _ => exact Nat.le_refl _

/-- **Durability time.** -/
theorem StreamInv.lastDurable {ns : Nat} (hle : ns ≤ clock) :
    Admits config k clock state
      { state with health := { state.health with lastDurableMonoNs := ns } } := by
  refine h.withHealth ?_ ?_ rfl (fun g => by cases g <;> rfl) fun g => by cases g <;> rfl
  · exact ⟨h.causal.durable_le, h.causal.written_le, h.causal.market_le, h.causal.socket_le, hle⟩
  · intro c
    cases c with
    | maximum g => cases g <;> exact Nat.le_refl _
    | _ => exact Nat.le_refl _

/-- **Rotation.** -/
theorem StreamInv.segmentIndex {segmentIndex : Nat}
    (hle : state.health.segmentIndex ≤ segmentIndex) :
    Admits config k clock state { state with health := { state.health with segmentIndex } } := by
  refine h.withHealth ?_ ?_ rfl (fun g => by cases g <;> rfl) fun g => by cases g <;> rfl
  · exact ⟨h.causal.durable_le, h.causal.written_le, h.causal.market_le, h.causal.socket_le,
      h.causal.lastDurable_le⟩
  · intro c
    cases c with
    | segmentIndex => exact hle
    | maximum g => cases g <;> exact Nat.le_refl _
    | _ => exact Nat.le_refl _

/-- **Shutdown.** The shutdown events are counted for the end of the capture only. -/
theorem StreamInv.shutdown (n : Nat) :
    Admits config k clock state
      { state with health := { state.health with serverShutdownEvents := n } } := by
  refine h.withHealth ?_ ?_ rfl (fun g => by cases g <;> rfl) fun g => by cases g <;> rfl
  · exact ⟨h.causal.durable_le, h.causal.written_le, h.causal.market_le, h.causal.socket_le,
      h.causal.lastDurable_le⟩
  · intro c
    cases c with
    | maximum g => cases g <;> exact Nat.le_refl _
    | _ => exact Nat.le_refl _

/-- **Market message.** The frame in hand is a market message. -/
theorem StreamInv.market (hhand : state.inHand = some frame) :
    Admits config k clock state
      { state with health := { state.health with
        lastMarketMessageMonoNs := frame.receiveMonoNs.toNat } } := by
  have hframes : state.frames = frame :: state.queue := by
    rw [StreamState.frames, hhand]
    rfl
  have hframe := h.queued.inFlight frame (hframes ▸ List.mem_cons_self)
  have hadvances : Advances state { state with health := { state.health with
      lastMarketMessageMonoNs := frame.receiveMonoNs.toNat } } := by
    refine .of_health rfl rfl fun c => ?_
    cases c with
    | marketMessage => exact hframe.fresh
    | maximum g => cases g <;> exact Nat.le_refl _
    | _ => exact Nat.le_refl _
  refine ⟨⟨⟨h.causal.durable_le, h.causal.written_le, hframe.touched, h.causal.socket_le,
    h.causal.lastDurable_le⟩, ⟨?_, h.queued.ordered⟩,
    h.gauged.congr rfl rfl (fun g => by cases g <;> rfl) fun g => by cases g <;> rfl,
    h.sampled.advance hadvances⟩, hadvances⟩
  intro f (hf : f ∈ state.frames)
  refine (h.queued.inFlight f hf).mono (Nat.le_refl _) ?_ (Nat.le_refl _)
  have hordered := h.queued.ordered
  rw [hframes] at hordered hf
  rcases List.mem_cons.mp hf with rfl | hf
  · exact Nat.le_refl _
  · exact (List.pairwise_cons.mp hordered).1 f hf

end

/-! ## The accesses of the observer -/

def StreamState.withWatch (state : StreamState) (g : Gauge) (watch : Watch) : StreamState :=
  { state with watch := Function.update state.watch g watch }

/-- **Watching.** The observer notes what it has seen; the gauges stay accounted for. -/
theorem StreamInv.watch (h : StreamInv config k clock state) {g : Gauge} {watch : Watch}
    (hsame : watch = { state.watch g with exposed := watch.exposed, torn := watch.torn })
    (htorn : watch.torn = false → (state.watch g).torn = false) :
    StreamInv config k clock (state.withWatch g watch) := by
  have hwatch : ∀ g', (state.withWatch g watch).watch g' = if g' = g then watch
      else state.watch g' := Function.update_apply state.watch g watch
  refine ⟨h.causal, ⟨h.queued.inFlight, h.queued.ordered⟩, ⟨?_, ?_, ?_⟩, ?_, h.sampled.behind,
    h.sampled.ordered⟩
  · intro g' hg'
    have haccounted := h.gauged.accounted g' hg'
    rw [hwatch]
    split
    case isTrue heq =>
      rw [hsame, ← heq]
      exact haccounted
    case isFalse => exact haccounted
  · intro g'
    rw [hwatch]
    split
    case isTrue heq =>
      rw [hsame]
      exact h.gauged.unwrapped g
    case isFalse => exact h.gauged.unwrapped g'
  · intro g'
    have hpublished := h.gauged.published g'
    rw [hwatch]
    split
    case isTrue heq =>
      rw [hsame, ← heq]
      exact hpublished
    case isFalse => exact hpublished
  · intro snapshot hmem g' htorn'
    rw [hwatch] at htorn'
    split at htorn'
    case isTrue heq => exact heq ▸ h.sampled.untorn snapshot hmem g (htorn htorn')
    case isFalse => exact h.sampled.untorn snapshot hmem g' htorn'

structure Complete (state : StreamState) (snapshot : StreamHealthSnapshot) : Prop where
  untorn : ∀ g, (state.watch g).torn = false → snapshot.gauge g ≤ snapshot.maximum g
  above : ∀ earlier ∈ state.snapshots, ∀ c, earlier.counter c ≤ snapshot.counter c
  below : ∀ c, snapshot.counter c ≤ state.health.counter c

/-- **Snapshot.** -/
theorem StreamInv.sample (h : StreamInv config k clock state) {snapshot : StreamHealthSnapshot}
    (hcomplete : Complete state snapshot) :
    StreamInv config k clock { state with snapshots := state.snapshots ++ [snapshot] } := by
  refine ⟨h.causal, ⟨h.queued.inFlight, h.queued.ordered⟩,
    ⟨h.gauged.accounted, h.gauged.unwrapped, h.gauged.published⟩, ?_, ?_, ?_⟩
  · intro s hs g htorn
    rcases List.mem_append.mp hs with hs | hs
    · exact h.sampled.untorn s hs g htorn
    · exact List.mem_singleton.mp hs ▸ hcomplete.untorn g htorn
  · intro s hs c
    rcases List.mem_append.mp hs with hs | hs
    · exact h.sampled.behind s hs c
    · exact List.mem_singleton.mp hs ▸ hcomplete.below c
  · refine List.pairwise_append.mpr ⟨h.sampled.ordered, List.pairwise_singleton _ _, ?_⟩
    intro s hs s' hs' c
    rw [List.mem_singleton.mp hs']
    exact hcomplete.above s hs c

end

end LobReplay.Segmented
