/-
  What the observer of a segmented capture sees. It loads the counters of a stream one after the
  other, those first that the later ones cover; so a snapshot is no state the stream was ever in,
  and still its counters bound one another and never decrease from one snapshot to the next
  (`loadSnapshot_safe`).

  A gauge and its maximum are loaded in this order as well, but the producer and the writer raise a
  gauge before they publish its maximum: a snapshot shows a gauge above its maximum only if both
  loads fall between the two (`Watch.torn`).
-/

import LobReplay.Segmented.ProducerRun
import LobReplay.Segmented.WriterRun

namespace LobReplay.Segmented

open Foundation Raw
open Thread

section

variable {config : CaptureConfig} {k : BoundaryStreamKind} {g' : Gauge} {value monoNs : Nat}
  {f : Watch → Watch} {snapshot : StreamHealthSnapshot}

/-! ## What lasts -/

/-- Later: the clock and the counters have gone up, and the observer has noted nothing new. -/
structure Ahead (s s' : Shared) : Prop where
  clock_le : s.clock ≤ s'.clock
  telemetry_eq : s'.telemetry = s.telemetry
  snapshots_eq : ∀ k, (s'.stream k).snapshots = (s.stream k).snapshots
  counter_le : ∀ k c, (s.stream k).health.counter c ≤ (s'.stream k).health.counter c

/-- An assertion that lasts while the counters go up. -/
def Lasting (P : Shared → Prop) : Prop := ∀ s s', P s → Ahead s s' → P s'

theorem Lasting.kept {P : Shared → Prop} (h : Lasting P) : Kept config .supervisor P := by
  intro s s' hs _ hrely
  exact h s s' hs ⟨hrely.1, hrely.2.1, fun k => (hrely.2.2 k).snapshots_eq,
    fun k => (hrely.2.2 k).counter_le⟩

variable {Q : Shared → Prop} {s : Shared} {g : Gauge}

theorem Lasting.and {P : Shared → Prop} (hP : Lasting P) (hQ : Lasting Q) :
    Lasting fun s => P s ∧ Q s :=
  fun s s' h hahead => ⟨hP s s' h.1 hahead, hQ s s' h.2 hahead⟩

theorem Lasting.pure (p : Prop) : Lasting fun _ => p := fun _ _ h _ => h

theorem Lasting.clock (ns : Nat) : Lasting fun s => ns ≤ s.clock :=
  fun _ _ h hahead => h.trans hahead.clock_le

theorem Lasting.counter (k : BoundaryStreamKind) (c : Counter) (n : Nat) :
    Lasting fun s => n ≤ (s.stream k).health.counter c :=
  fun _ _ h hahead => h.trans (hahead.counter_le k c)

/-- A value loaded from a counter: above the snapshots so far, and below the counter. -/
def Seen (k : BoundaryStreamKind) (c : Counter) (value : Nat) (s : Shared) : Prop :=
  (∀ earlier ∈ (s.stream k).snapshots, earlier.counter c ≤ value) ∧
    value ≤ (s.stream k).health.counter c

theorem Lasting.seen (k : BoundaryStreamKind) (c : Counter) (value : Nat) :
    Lasting (Seen k c value) := by
  intro s s' h hahead
  refine ⟨?_, h.2.trans (hahead.counter_le k c)⟩
  rw [hahead.snapshots_eq]
  exact h.1

theorem SharedInv.seen (hinv : SharedInv config s) (k : BoundaryStreamKind) (c : Counter) :
    Seen k c ((s.stream k).health.counter c) s :=
  ⟨fun earlier hmem => (hinv.stream k).sampled.behind earlier hmem c, Nat.le_refl _⟩

/-! ## Gauges -/

/-- A value loaded from a gauge: its maximum has reached it, or the gauge is exposed still. -/
def Shown (k : BoundaryStreamKind) (g : Gauge) (value : Nat) (s : Shared) : Prop :=
  value ≤ (s.stream k).health.maximum g ∨
    ((s.stream k).watch g).exposed = true ∧
      ∃ next, ((s.stream k).watch g).unpublished = some next ∧ value ≤ next

theorem kept_shown (g : Gauge) (value : Nat) : Kept config .supervisor (Shown k g value) := by
  intro s s' h _ hrely
  have hadvances := hrely.2.2 k
  rcases h with hle | ⟨hexposed, next, hnext, hle⟩
  · exact .inl (hle.trans (hadvances.counter_le (.maximum g)))
  · rcases hadvances.exposed g next hnext hexposed with ⟨hnext', hexposed'⟩ | hmax
    · exact .inr ⟨hexposed', next, hnext', hle⟩
    · exact .inl (hle.trans hmax)

def Paired (k : BoundaryStreamKind) (g : Gauge) (value maximum : Nat) (s : Shared) : Prop :=
  ((s.stream k).watch g).torn = true ∨ value ≤ maximum

theorem kept_paired (g : Gauge) (value maximum : Nat) :
    Kept config .supervisor (Paired k g value maximum) := by
  intro s s' h _ hrely
  rcases h with htorn | hle
  · exact .inl (((hrely.2.2 k).torn_eq g).trans htorn)
  · exact .inr hle

theorem watch_onWatch (s : Shared) (k : BoundaryStreamKind) (g g' : Gauge) (f : Watch → Watch) :
    ((s.onWatch k g f).stream k).watch g'
      = if g' = g then f ((s.stream k).watch g) else (s.stream k).watch g' := by
  unfold Shared.onWatch
  rw [stream_onStream]
  exact Function.update_apply ..

theorem stream_onWatch (s : Shared) (k k' : BoundaryStreamKind) (g : Gauge) (f : Watch → Watch) :
    ((s.onWatch k g f).stream k').health = (s.stream k').health ∧
      ((s.onWatch k g f).stream k').snapshots = (s.stream k').snapshots := by
  have hstream : (s.onWatch k g f).stream k' = if k' = k
      then (s.stream k).withWatch g (f ((s.stream k).watch g)) else s.stream k' :=
    Function.update_apply ..
  rw [hstream]
  split
  case isTrue heq => exact heq ▸ ⟨rfl, rfl⟩
  case isFalse => exact ⟨rfl, rfl⟩

theorem ahead_onWatch (s : Shared) (k : BoundaryStreamKind) (g : Gauge) (f : Watch → Watch) :
    Ahead s (s.onWatch k g f) :=
  ⟨Nat.le_refl _, rfl, fun k' => (stream_onWatch s k k' g f).2,
    fun k' c => (congrArg (·.counter c) (stream_onWatch s k k' g f).1).ge⟩

theorem Shown.onWatch (h : Shown k g value s)
    (hf : g = g' → ∀ w, (f w).exposed = w.exposed ∧ (f w).unpublished = w.unpublished) :
    Shown k g value (s.onWatch k g' f) := by
  unfold Shown
  rw [(stream_onWatch s k k g' f).1, watch_onWatch]
  split
  case isTrue heq =>
    rw [(hf heq _).1, (hf heq _).2, ← heq]
    exact h
  case isFalse => exact h

theorem Paired.onWatch {maximum : Nat} (h : Paired k g value maximum s)
    (hf : ∀ w, w.torn = true → (f w).torn = true) :
    Paired k g value maximum (s.onWatch k g' f) := by
  rcases h with htorn | hle
  · left
    rw [watch_onWatch]
    split
    case isTrue heq => exact hf _ (heq ▸ htorn)
    case isFalse => exact htorn
  · exact .inr hle

/-! ## The accesses of the observer -/

variable {P : Shared → Prop} {E : Failure → Shared → Prop}

/-- A load that notes something beside what is known. -/
theorem note_triple {α : Type} {f : StreamHealth → α} (hP : Kept config .supervisor P)
    (F : α → Shared → Prop)
    (hF : ∀ s, P s → SharedInv config s → F (f (s.stream k).health) s) :
    ThreadTriple config .supervisor P (loadHealth k f)
      (fun a s => P s ∧ F a s) E :=
  load_triple hP fun s hs hinv => ⟨hs, hF s hs hinv⟩

/-- What the observer notes of a gauge is seen by no other thread. -/
theorem view_withWatch (state : StreamState) (g : Gauge) (exposed torn : Bool) :
    (state.withWatch g { state.watch g with exposed, torn }).producerView = state.producerView ∧
      (state.withWatch g { state.watch g with exposed, torn }).writerView
        = state.writerView := by
  cases g <;> exact ⟨rfl, rfl⟩

/-- What the observer notes of a gauge. -/
theorem watch_triple {α : Type} {v : StreamHealth → α} {f : StreamHealth → Watch → Watch}
    {Q : α → Shared → Prop} (hP : Kept config .supervisor P)
    (hsame : ∀ health w,
      f health w = { w with exposed := (f health w).exposed, torn := (f health w).torn })
    (htorn : ∀ health w, (f health w).torn = false → w.torn = false)
    (hQ : ∀ s, P s → SharedInv config s →
      Q (v (s.stream k).health) (s.onWatch k g (f (s.stream k).health))) :
    ThreadTriple config .supervisor P
      (exchange fun s =>
        (v (s.stream k).health, s.onWatch k g (f (s.stream k).health))) Q E := by
  refine .atomic hP fun i s a s' hs hinv haction => ?_
  cases haction
  have hstream := (hinv.stream k).watch (hsame (s.stream k).health ((s.stream k).watch g))
    (htorn (s.stream k).health _)
  have hviews := view_withWatch (s.stream k) g (f (s.stream k).health ((s.stream k).watch g)).exposed
    (f (s.stream k).health ((s.stream k).watch g)).torn
  rw [← hsame] at hviews
  refine ⟨⟨Nat.le_refl _, fun t' ht' => ?_⟩, hinv.onStream hstream rfl, hQ s hs hinv⟩
  exact keeps_onStream (fun h => absurd h ht') (fun _ => hviews.1) fun _ => hviews.2

/-- **A gauge** is loaded. -/
theorem observeGauge_triple (hP : Kept config .supervisor P)
    (hQ : ∀ s f, (∀ w, (f w).torn = w.torn) → P s → Q (s.onWatch k g f)) :
    ThreadTriple config .supervisor P (observeGauge k g)
      (fun value s => Q s ∧ Shown k g value s) E := by
  refine watch_triple (v := (·.gauge g))
    (f := fun health w => { w with exposed := decide (health.maximum g < health.gauge g) }) hP
    (fun _ _ => rfl) (fun _ _ h => h) fun s hs hinv => ⟨hQ s _ (fun _ => rfl) hs, ?_⟩
  unfold Shown
  rw [(stream_onWatch s k k g _).1, watch_onWatch, if_pos rfl]
  rcases (hinv.stream k).gauged.published g with hle | ⟨next, hnext, hle⟩
  · exact .inl hle
  · by_cases hmax : (s.stream k).health.maximum g < (s.stream k).health.gauge g
    · exact .inr ⟨decide_eq_true hmax, next, hnext, hle⟩
    · exact .inl (Nat.not_lt.mp hmax)

/-- **The maximum** of a gauge is loaded behind it. -/
theorem observeMaximum_triple {v : Nat} (hP : Kept config .supervisor P)
    (hQ : ∀ s f, (∀ w : Watch, (f w).exposed = w.exposed ∧
      (f w).unpublished = w.unpublished ∧ (w.torn = true → (f w).torn = true)) →
      P s → Q (s.onWatch k g f)) :
    ThreadTriple config .supervisor (fun s => P s ∧ Shown k g v s) (observeMaximum k g)
      (fun maximum s => (Q s ∧ Seen k (.maximum g) maximum s) ∧ Paired k g v maximum s) E := by
  refine watch_triple (v := (·.maximum g))
    (f := fun _ w => { w with torn := w.torn || w.exposed }) (hP.and (kept_shown g v))
    (fun _ _ => rfl) (fun _ w h => (Bool.or_eq_false_iff.mp h).1) fun s hs hinv => ⟨⟨?_, ?_⟩, ?_⟩
  · exact hQ s _ (fun w => ⟨rfl, rfl, fun h => by rw [h]; rfl⟩) hs.1
  · exact Lasting.seen k _ _ s _ (hinv.seen k (.maximum g)) (ahead_onWatch ..)
  · rcases hs.2 with hle | ⟨hexposed, -⟩
    · exact .inr hle
    · left
      rw [watch_onWatch, if_pos rfl, hexposed, Bool.or_true]

/-! ## A snapshot -/

/-- The counts and times of a snapshot as they were loaded: they bound one another. -/
structure Bounded (snapshot : StreamHealthSnapshot) (s : Shared) : Prop where
  durable_le : snapshot.durable ≤ snapshot.written
  written_le : snapshot.written ≤ snapshot.received
  market_le : snapshot.lastMarketMessageMonoNs ≤ snapshot.lastSocketActivityMonoNs
  socket_le : snapshot.lastSocketActivityMonoNs ≤ s.clock
  lastDurable_le : snapshot.lastDurableMonoNs ≤ s.clock

structure Taken (k : BoundaryStreamKind) (snapshot : StreamHealthSnapshot) (s : Shared) : Prop where
  bounded : Bounded snapshot s
  noted : (s.telemetry.map (·.of k) ++ [snapshot]).Sublist (s.stream k).snapshots

theorem Lasting.taken (k : BoundaryStreamKind) (snapshot : StreamHealthSnapshot) :
    Lasting (Taken k snapshot) := by
  intro s s' h hahead
  refine ⟨{ h.bounded with
    socket_le := h.bounded.socket_le.trans hahead.clock_le
    lastDurable_le := h.bounded.lastDurable_le.trans hahead.clock_le }, ?_⟩
  rw [hahead.telemetry_eq, hahead.snapshots_eq]
  exact h.noted

def noteSnapshot (k : BoundaryStreamKind) (snapshot : StreamHealthSnapshot) (s : Shared) : Shared :=
  s.onStream k fun state => { state with snapshots := state.snapshots ++ [snapshot] }

/-- **Snapshot.** What was loaded counter by counter is complete. -/
theorem noteSnapshot_triple (snapshot : StreamHealthSnapshot) (hP : Kept config .supervisor P)
    (hown : ∀ s, P s → Q (noteSnapshot k snapshot s))
    (hcomplete : ∀ s, P s → Complete (s.stream k) snapshot ∧ Bounded snapshot s) :
    ThreadTriple config .supervisor P
      (store fun s => noteSnapshot k snapshot s) (fun _ s => Q s ∧ Taken k snapshot s) E := by
  refine .atomic hP fun i s a s' hs hinv haction => ?_
  cases haction
  have hstream : ∀ k', (noteSnapshot k snapshot s).stream k' = if k' = k
      then { s.stream k with snapshots := (s.stream k).snapshots ++ [snapshot] }
      else s.stream k' := Function.update_apply s.stream k _
  refine ⟨⟨Nat.le_refl _, fun t' ht' => ?_⟩, ⟨fun k' => ?_, hinv.valid, fun k' => ?_⟩,
    hown s hs, ?_, ?_⟩
  · exact keeps_onStream (fun h => absurd h ht') (fun _ => rfl) fun _ => rfl
  · rw [hstream]
    split
    case isTrue heq => exact heq ▸ (hinv.stream k).sample (hcomplete s hs).1
    case isFalse => exact hinv.stream k'
  · rw [hstream]
    split
    case isTrue heq => exact heq ▸ (hinv.sampled k).trans (List.sublist_append_left ..)
    case isFalse => exact hinv.sampled k'
  · exact { (hcomplete s hs).2 with }
  · rw [hstream, if_pos rfl]
    exact (hinv.sampled k).append (List.Sublist.refl [snapshot])

/-- What is known of the gauges of a snapshot when they are loaded. -/
structure Gauges (k : BoundaryStreamKind) (snapshot : StreamHealthSnapshot) (s : Shared) :
    Prop where
  seen : ∀ g, Seen k (.maximum g) (snapshot.maximum g) s
  age : Seen k .maxQueueAge snapshot.maxQueueAgeNs s
  paired : ∀ g, Paired k g (snapshot.gauge g) (snapshot.maximum g) s

theorem kept_gauges (snapshot : StreamHealthSnapshot) :
    Kept config .supervisor (Gauges k snapshot) := by
  intro s s' h hinv hrely
  refine ⟨fun g => (Lasting.seen k _ _).kept s s' (h.seen g) hinv hrely,
    (Lasting.seen k _ _).kept s s' h.age hinv hrely,
    fun g => kept_paired g _ _ s s' (h.paired g) hinv hrely⟩

/-- **Gauges.** Both gauges of the queue are loaded before their maxima, and the last sync before
    the longest one. -/
theorem loadGauges_triple {β : Type} (hP : Lasting P) {Q : β → Shared → Prop}
    {rest : Nat → Nat → Nat → Nat → Nat → Nat → Nat → Thread β}
    (hrest : ∀ records bytes maxRecords maxBytes age sync maxSync,
      ThreadTriple config .supervisor (fun s => P s ∧ ∀ snapshot : StreamHealthSnapshot,
          snapshot.queueRecords = records ∧ snapshot.queueBytes = bytes ∧
            snapshot.maxQueueRecords = maxRecords ∧ snapshot.maxQueueBytes = maxBytes ∧
            snapshot.maxQueueAgeNs = age ∧ snapshot.lastSyncDurationNs = sync ∧
            snapshot.maxSyncDurationNs = maxSync → Gauges k snapshot s)
        (rest records bytes maxRecords maxBytes age sync maxSync) Q fun _ _ => True) :
    ThreadTriple config .supervisor P
      (do
        let records ← observeGauge k .queueRecords
        let bytes ← observeGauge k .queueBytes
        let maxRecords ← observeMaximum k .queueRecords
        let maxBytes ← observeMaximum k .queueBytes
        let age ← loadHealth k (·.maxQueueAgeNs)
        let sync ← observeGauge k .syncDuration
        let maxSync ← observeMaximum k .syncDuration
        rest records bytes maxRecords maxBytes age sync maxSync) Q fun _ _ => True := by
  refine .bind (observeGauge_triple hP.kept fun s f _ h => hP s _ h (ahead_onWatch ..))
    fun records => ?_
  refine .bind (observeGauge_triple (hP.kept.and (kept_shown .queueRecords records))
    (Q := fun s => P s ∧ Shown k .queueRecords records s)
    fun s f _ h => ⟨hP s _ h.1 (ahead_onWatch ..), h.2.onWatch nofun⟩) fun bytes => ?_
  refine .bind (.strengthen (observeMaximum_triple (v := records)
    (hP.kept.and (kept_shown .queueBytes bytes)) (Q := fun s => P s ∧ Shown k .queueBytes bytes s)
    fun s f _ h => ⟨hP s _ h.1 (ahead_onWatch ..), h.2.onWatch nofun⟩)
    fun s h _ => ⟨⟨h.1.1, h.2⟩, h.1.2⟩) fun maxRecords => ?_
  have hseen := hP.and (Lasting.seen k (.maximum .queueRecords) maxRecords)
  refine .bind (.strengthen (observeMaximum_triple (v := bytes)
    (hseen.kept.and (kept_paired .queueRecords records maxRecords))
    (Q := fun s => (P s ∧ Seen k (.maximum .queueRecords) maxRecords s) ∧
      Paired k .queueRecords records maxRecords s)
    fun s f hf h => ⟨hseen s _ h.1 (ahead_onWatch ..), h.2.onWatch fun w => (hf w).2.2⟩)
    fun s h _ => ⟨⟨⟨h.1.1.1, h.1.2⟩, h.2⟩, h.1.1.2⟩) fun maxBytes => ?_
  have hbytes := Lasting.seen k (.maximum .queueBytes) maxBytes
  have hpaired : Kept config .supervisor fun s => Paired k .queueRecords records maxRecords s ∧
      Paired k .queueBytes bytes maxBytes s := Kept.and (kept_paired _ _ _) (kept_paired _ _ _)
  have hknown := hseen.and hbytes
  refine .bind (.strengthen (note_triple (hknown.kept.and hpaired)
    (fun a s => Seen k .maxQueueAge a s) fun s _ hinv => hinv.seen k .maxQueueAge)
    fun s h _ => ⟨⟨h.1.1.1, h.1.2⟩, h.1.1.2, h.2⟩) fun age => ?_
  have hage := hknown.and (Lasting.seen k .maxQueueAge age)
  refine .bind (.strengthen (observeGauge_triple (g := .syncDuration) (hage.kept.and hpaired)
    (Q := fun s => ((((P s ∧ Seen k (.maximum .queueRecords) maxRecords s) ∧
      Seen k (.maximum .queueBytes) maxBytes s) ∧ Seen k .maxQueueAge age s) ∧
      Paired k .queueRecords records maxRecords s ∧ Paired k .queueBytes bytes maxBytes s))
    fun s f hf h => ⟨hage s _ h.1 (ahead_onWatch ..), h.2.1.onWatch fun w hw => (hf w).trans hw,
      h.2.2.onWatch fun w hw => (hf w).trans hw⟩)
    fun s h _ => ⟨⟨h.1.1, h.2⟩, h.1.2⟩) fun sync => ?_
  refine .bind (observeMaximum_triple (v := sync) (hage.kept.and hpaired)
    (Q := fun s => ((((P s ∧ Seen k (.maximum .queueRecords) maxRecords s) ∧
      Seen k (.maximum .queueBytes) maxBytes s) ∧ Seen k .maxQueueAge age s) ∧
      Paired k .queueRecords records maxRecords s ∧ Paired k .queueBytes bytes maxBytes s))
    fun s f hf h => ⟨hage s _ h.1 (ahead_onWatch ..), h.2.1.onWatch fun w => (hf w).2.2,
      h.2.2.onWatch fun w => (hf w).2.2⟩) fun maxSync => ?_
  refine (hrest records bytes maxRecords maxBytes age sync maxSync).strengthen fun s h _ => ?_
  obtain ⟨⟨⟨⟨⟨⟨hs, hmaxRecords⟩, hmaxBytes⟩, hmaxAge⟩, hpairs⟩, hmaxSync⟩, hpair⟩ := h
  refine ⟨hs, ?_⟩
  rintro snapshot ⟨rfl, rfl, rfl, rfl, rfl, rfl, rfl⟩
  refine ⟨fun g => ?_, hmaxAge, fun g => ?_⟩
  · cases g with
    | queueRecords => exact hmaxRecords
    | queueBytes => exact hmaxBytes
    | syncDuration => exact hmaxSync
  · cases g with
    | queueRecords => exact hpairs.1
    | queueBytes => exact hpairs.2
    | syncDuration => exact hpair

/-- **Load.** The counters are loaded one by one, and each bounds one loaded before. -/
theorem loadSnapshot_safe (hP : Lasting P)
    (hown : ∀ s snapshot, P s → P (noteSnapshot k snapshot s)) :
    ThreadTriple config .supervisor P (loadSnapshot k)
      (fun snapshot s => P s ∧ Taken k snapshot s) fun _ _ => True := by
  refine .bind (note_triple hP.kept (fun a s => a ≤ s.clock)
    fun s _ hinv => (hinv.stream k).causal.lastDurable_le) fun lastDurable => ?_
  have h₁ := hP.and (Lasting.clock lastDurable)
  refine .bind (note_triple h₁.kept
    (fun a s => Seen k .durable a s ∧ a ≤ (s.stream k).health.counter .written)
    fun s _ hinv => ⟨hinv.seen k .durable, (hinv.stream k).causal.durable_le⟩) fun durable => ?_
  have h₂ := h₁.and ((Lasting.seen k .durable durable).and (.counter k .written durable))
  refine .bind (note_triple h₂.kept
    (fun a s => Seen k .marketMessage a s ∧ a ≤ (s.stream k).health.counter .socketActivity)
    fun s _ hinv => ⟨hinv.seen k .marketMessage, (hinv.stream k).causal.market_le⟩)
    fun market => ?_
  have h₃ := h₂.and ((Lasting.seen k .marketMessage market).and (.counter k .socketActivity market))
  refine .bind (note_triple h₃.kept
    (fun a s => Seen k .written a s ∧ a ≤ (s.stream k).health.counter .received ∧ durable ≤ a)
    fun s hs hinv => ⟨hinv.seen k .written, (hinv.stream k).causal.written_le, hs.1.2.2⟩)
    fun written => ?_
  have h₄ := h₃.and ((Lasting.seen k .written written).and
    ((Lasting.counter k .received written).and (.pure (durable ≤ written))))
  refine .bind (note_triple h₄.kept
    (fun a s => Seen k .socketActivity a s ∧ a ≤ s.clock ∧ market ≤ a)
    fun s hs hinv => ⟨hinv.seen k .socketActivity, (hinv.stream k).causal.socket_le, hs.1.2.2⟩)
    fun socket => ?_
  have h₅ := h₄.and ((Lasting.seen k .socketActivity socket).and
    ((Lasting.clock socket).and (.pure (market ≤ socket))))
  refine .bind (note_triple h₅.kept (fun a s => Seen k .received a s ∧ written ≤ a)
    fun s hs hinv => ⟨hinv.seen k .received, hs.1.2.2.1⟩) fun received => ?_
  have h₆ := h₅.and ((Lasting.seen k .received received).and (.pure (written ≤ received)))
  refine .bind (note_triple h₆.kept (fun a s => Seen k .segmentIndex a s)
    fun s hs hinv => hinv.seen k .segmentIndex) fun segmentIndex => ?_
  have h₇ := h₆.and (Lasting.seen k .segmentIndex segmentIndex)
  refine loadGauges_triple h₇ fun records bytes maxRecords maxBytes age sync maxSync => ?_
  let snapshot : StreamHealthSnapshot :=
    { received, written, durable, segmentIndex, lastSocketActivityMonoNs := socket
      lastMarketMessageMonoNs := market, lastDurableMonoNs := lastDurable
      queueRecords := records, queueBytes := bytes, maxQueueRecords := maxRecords
      maxQueueBytes := maxBytes, maxQueueAgeNs := age, lastSyncDurationNs := sync
      maxSyncDurationNs := maxSync }
  refine .strengthen (.bind (noteSnapshot_triple snapshot (Q := P)
    (h₇.kept.and (kept_gauges snapshot)) (fun s h => hown s snapshot h.1.1.1.1.1.1.1.1) ?_)
    fun _ => .ret fun s h _ => h) fun s h _ => ⟨h.1, h.2 snapshot ⟨rfl, rfl, rfl, rfl, rfl, rfl, rfl⟩⟩
  rintro s ⟨⟨⟨⟨⟨⟨⟨⟨-, hlast⟩, hdurable⟩, hmarket⟩, hwritten⟩, hsocket⟩, hreceived⟩, hsegment⟩, hgauges⟩
  have hseen : ∀ c, Seen k c (snapshot.counter c) s := by
    intro c
    cases c with
    | received => exact hreceived.1
    | written => exact hwritten.1
    | durable => exact hdurable.1
    | segmentIndex => exact hsegment
    | socketActivity => exact hsocket.1
    | marketMessage => exact hmarket.1
    | maxQueueAge => exact hgauges.age
    | maximum g => exact hgauges.seen g
  refine ⟨⟨fun g htorn => ?_, fun earlier hmem c => (hseen c).1 earlier hmem, fun c => (hseen c).2⟩,
    ⟨hwritten.2.2, hreceived.2, hsocket.2.2, hsocket.2.1, hlast⟩⟩
  rcases hgauges.paired g with htrue | hle
  · rw [htorn] at htrue
    cases htrue
  · exact hle

/-! ## Records -/

theorem noteSnapshot_other {k k' : BoundaryStreamKind} (hne : k' ≠ k) {other : StreamHealthSnapshot}
    (h : Taken k' other s) : Taken k' other (noteSnapshot k snapshot s) := by
  refine ⟨{ h.bounded with }, ?_⟩
  have hstream : (noteSnapshot k snapshot s).stream k' = s.stream k' :=
    Function.update_of_ne hne ..
  rw [hstream]
  exact h.noted

theorem Bounded.validate (h : Bounded snapshot s) (stream : String) (hle : s.clock ≤ monoNs) :
    snapshot.validate stream monoNs = .ok () := by
  have hsocket := h.socket_le.trans hle
  have hlast := h.lastDurable_le.trans hle
  rw [StreamHealthSnapshot.validate, if_neg, if_neg]
  · exact fun hbad => hbad.elim h.market_le.not_gt fun hbad =>
      hbad.elim hsocket.not_gt hlast.not_gt
  · exact fun hbad => hbad.elim h.durable_le.not_gt h.written_le.not_gt

theorem noteRecord_triple {record : TelemetryRecord} :
    ThreadTriple config .supervisor
      (fun s => validateTelemetryRecord record = .ok () ∧ Taken .depth record.depth s ∧
        Taken .trade record.trade s)
      (store fun s => { s with telemetry := s.telemetry ++ [record] }) (fun _ _ => True) E := by
  refine .atomic ((Kept.pure _).and ((Lasting.taken _ _).kept.and (Lasting.taken _ _).kept))
    fun i s a s' hs hinv haction => ?_
  cases haction
  obtain ⟨hvalid, hdepth, htrade⟩ := hs
  refine ⟨⟨Nat.le_refl _, fun t' ht' => ?_⟩, ⟨hinv.stream, ?_, ?_⟩, trivial⟩
  · cases t' with
    | producer k => exact rfl
    | writer k => exact rfl
    | supervisor => exact absurd rfl ht'
  · intro r hr
    rcases List.mem_append.mp hr with hr | hr
    · exact hinv.valid r hr
    · exact List.mem_singleton.mp hr ▸ hvalid
  · intro k
    show ((s.telemetry ++ [record]).map (·.of k)).Sublist (s.stream k).snapshots
    rw [List.map_append]
    cases k with
    | depth => exact hdepth.noted
    | trade => exact htrade.noted

theorem record_validates {recordIndex wallNs : Nat} {clock : ClockMetadata}
    {depth trade : StreamHealthSnapshot} (hdepth : Bounded depth s) (htrade : Bounded trade s)
    (hle : s.clock ≤ monoNs) :
    validateTelemetryRecord { schema := "CaptureTelemetryV1", recordIndex, wallNs, monoNs, clock
                              depth, trade } = .ok () := by
  rw [validateTelemetryRecord]
  simp only [hdepth.validate "depth" hle, htrade.validate "trade" hle]
  rfl

/-- **Record.** -/
theorem appendTelemetry_safe (recordIndex : Nat) (clock : ClockMetadata) :
    ThreadTriple config .supervisor (fun _ => True)
      (appendTelemetry recordIndex clock) (fun _ _ => True) fun _ _ => True := by
  refine .bind (loadSnapshot_safe (.pure True) fun _ _ h => h) fun depth => ?_
  refine .strengthen (?_ : Triple _ _ (Taken .depth depth) _ _ _) fun s h _ => h.2
  have hne : BoundaryStreamKind.depth ≠ .trade := nofun
  have hown : ∀ s snapshot, Taken .depth depth s →
      Taken .depth depth (noteSnapshot .trade snapshot s) :=
    fun s snapshot h => noteSnapshot_other hne h
  refine .bind (loadSnapshot_safe (.taken .depth depth) hown) fun trade => ?_
  have hkept : Kept config .supervisor fun s => Taken .depth depth s ∧ Taken .trade trade s :=
    (Lasting.taken _ _).kept.and (Lasting.taken _ _).kept
  refine quiet_bind unixNs_each hkept fun wallNs => ?_
  refine .bind (elapsedNs_triple (Q := fun monoNs s =>
    validateTelemetryRecord { schema := "CaptureTelemetryV1", recordIndex, wallNs, monoNs, clock
                              depth, trade } = .ok () ∧ Taken .depth depth s ∧ Taken .trade trade s)
    hkept fun s ns h _ hle _ => ?_) fun monoNs => ?_
  · have hahead : Ahead s { s with clock := ns } := ⟨hle, rfl, fun _ => rfl, fun _ _ => Nat.le_refl _⟩
    exact ⟨record_validates h.1.bounded h.2.bounded hle, Lasting.taken _ _ s _ h.1 hahead,
      Lasting.taken _ _ s _ h.2 hahead⟩
  · refine .bind noteRecord_triple fun _ => ?_
    refine quiet_bind (ofExcept_each _) (.pure True) fun _ => ?_
    exact quiet_bind (perform_each _) (.pure True) fun _ => .ret fun _ _ _ => trivial

/-- **The main thread** keeps what the other threads rely on. -/
theorem supervisorLoop_safe (deadline : Nat) (stage : SupervisorStage) :
    ThreadTriple config .supervisor (fun _ => True)
      (supervisorLoop deadline stage) (fun _ _ => True) fun _ _ => True := by
  have hkept : Kept config .supervisor fun _ => True := .pure True
  have hstop : (store fun s => { s with stop := true }).Each Quiet :=
    store_each fun s => { Quiet.refl s with }
  have hcause : ∀ cause : Shared → Option SupervisorStopCause,
      (store fun s => { s with supervisorStop := cause s }).Each Quiet :=
    fun cause => store_each fun s => { Quiet.refl s with }
  have hdone : ∀ {α : Type} (a : α), ThreadTriple config .supervisor
      (fun _ => True) (pure a : Thread α) (fun _ _ => True) fun _ _ => True :=
    fun a => .ret fun _ _ _ => trivial
  have htelemetry : ∀ v turn, ThreadTriple config .supervisor
      (fun _ => True) (telemetryTurn v turn) (fun _ _ => True) fun _ _ => True := by
    intro v turn
    unfold telemetryTurn
    split
    · exact .bind (appendTelemetry_safe _ _) fun _ => hdone _
    · exact hdone _
  cases stage with
  | start v =>
    refine .bind (M := fun _ _ => True) ?_ fun _ => hdone _
    refine quiet_bind (ask_each _) hkept fun found => ?_
    split
    · exact hdone _
    · exact quiet_bind (hcause _) hkept fun _ => quiet_triple hstop hkept
  | watching v =>
    refine quiet_bind now_each hkept fun ns => ?_
    split
    · exact hdone _
    refine .bind (M := fun _ _ => True) ?_ fun _ => hdone _
    refine quiet_bind (load_each _) hkept fun stop => ?_
    split
    · exact hdone _
    refine quiet_bind now_each hkept fun turn => quiet_bind (ask_each _) hkept fun found => ?_
    split
    · exact quiet_bind (hcause _) hkept fun _ => hdone _
    refine quiet_bind (ask_each _) hkept fun probed => ?_
    split
    · exact quiet_bind (hcause _) hkept fun _ => hdone _
    · refine quiet_bind (store_each fun s => { Quiet.refl s with }) hkept fun _ => ?_
      exact .bind (htelemetry _ _) fun _ => hdone _
  | finishing v =>
    refine .bind (M := fun _ _ => True) ?_ fun _ => hdone _
    refine quiet_bind (ask_each _) hkept fun found => ?_
    have hend : ThreadTriple config .supervisor (fun _ => True)
        (do
          store fun s => { s with stop := true }
          joinThreads
          let _ ← appendTelemetry v.telemetryIndex v.clock
          pure ()) (fun _ _ => True) fun _ _ => True := by
      refine quiet_bind hstop hkept fun _ => ?_
      refine .bind (M := fun _ _ => True) ?_ fun _ => .bind (appendTelemetry_safe _ _) fun _ => hdone _
      refine .atomic hkept fun i s a s' hs hinv haction => ?_
      split at haction
      · cases haction
        exact ⟨guarantee_refl _ _, hinv, trivial⟩
      · cases haction
    split
    · exact hend
    · exact quiet_bind (hcause _) hkept fun _ => hend

end

end LobReplay.Segmented
