/-
  A producer keeps what the other threads rely on. Its health is touched by the data messages only:
  the time of the last message, the count of the frames and the gauges of the queue, each of them
  raised, published and, where the queue does not take the frame, lowered again (`enqueue_safe`).
-/

import LobReplay.Segmented.Threads

namespace LobReplay.Segmented

open Foundation Raw
open Thread

section

variable {config : CaptureConfig} {k : BoundaryStreamKind}

/-! ## Quiet parts -/

theorem journalAppend_quiet (wallNs monoNs : Nat) (event : TransportEvent) (payload : Value) :
    (journalAppend config k wallNs monoNs event payload).Each Quiet := by
  refine .atomic fun i s a s' h => ?_
  split at h
  · cases h
    exact .onStream rfl rfl rfl rfl rfl
  · cases h

theorem appendTransportEvent_quiet (event : TransportEvent) (payload : Value) :
    (appendTransportEvent config k event payload).Each Quiet := by
  refine (closure_each ?_).bind fun told => ?_
  · exact unixNs_each.bind fun wallNs => elapsedNs_each.bind fun monoNs =>
      (journalAppend_quiet wallNs monoNs event payload).bind fun result => ofExcept_each result
  · split
    · exact .ret ()
    · exact (store_each fun s => .onStream rfl rfl rfl rfl rfl).bind fun _ => fail_each _

theorem announce_quiet : (announce config k).Each Quiet := by
  refine (appendTransportEvent_quiet _ _).bind fun _ => (ask_each _).bind fun found => ?_
  split
  · exact appendTransportEvent_quiet _ _
  · exact appendTransportEvent_quiet _ _

theorem stopForSupervisor_quiet {α : Type} (cause : SupervisorStopCause) :
    (stopForSupervisor config k cause : Thread α).Each Quiet :=
  (ask_each _).bind fun _ => (appendTransportEvent_quiet _ _).bind fun _ => fail_each _

theorem connected_quiet (response : HandshakeResponse) :
    (connected config k response).Each Quiet := by
  refine (ask_each _).bind fun configured => (ofExcept_each configured).bind fun ends => ?_
  refine (load_each _).bind fun cause => ?_
  split
  · exact stopForSupervisor_quiet _
  · exact (ask_each _).bind fun _ => (appendTransportEvent_quiet _ _).bind fun _ =>
      (perform_each _).bind fun _ => now_each.bind fun _ => .ret _

theorem openConnection_quiet : (openConnection config k).Each Quiet := by
  refine (ask_each _).bind fun answer => ?_
  split
  · exact (appendTransportEvent_quiet _ _).bind fun _ => fail_each _
  · split
    · exact (appendTransportEvent_quiet _ _).bind fun _ => fail_each _
    · exact connected_quiet _

theorem pongIsLate_quiet (v : ProducerLocals) : (pongIsLate v).Each Quiet := by
  unfold pongIsLate
  split
  · exact (elapsed_each _).bind fun _ => .ret _
  · exact .ret _

theorem pingIsDue_quiet (v : ProducerLocals) : (pingIsDue v).Each Quiet := by
  unfold pingIsDue
  split
  · exact .ret _
  · exact .ret _
  · exact (elapsed_each _).bind fun _ => .ret _

theorem pongDeadline_quiet {α : Type} (v : ProducerLocals) :
    (pongDeadline config k v : Thread α).Each Quiet :=
  (elapsed_each _).bind fun _ => (ask_each _).bind fun _ =>
    (appendTransportEvent_quiet _ _).bind fun _ => fail_each _

theorem sendPing_quiet (v : ProducerLocals) : (sendPing config k v).Each Quiet :=
  (perform_each _).bind fun _ => (perform_each _).bind fun _ =>
    (appendTransportEvent_quiet _ _).bind fun _ => now_each.bind fun _ => .ret _

theorem tellTimeout_quiet (v : ProducerLocals) (ioKind : String) (nativeOsError : Option Int) :
    (tellTimeout config k v ioKind nativeOsError).Each Quiet := by
  refine (elapsed_each _).bind fun _ => (ask_each _).bind fun _ =>
    (appendTransportEvent_quiet _ _).bind fun _ => (elapsed_each _).bind fun age => ?_
  split
  · exact (ask_each _).bind fun _ => (appendTransportEvent_quiet _ _).bind fun _ => fail_each _
  · exact .ret v

theorem onTimeout_quiet (v : ProducerLocals) (ioKind : String) (nativeOsError : Option Int) :
    (onTimeout config k v ioKind nativeOsError).Each Quiet := by
  refine (load_each _).bind fun stop => ?_
  split
  · exact .ret none
  · refine (pongIsLate_quiet v).bind fun late => ?_
    split
    · exact pongDeadline_quiet v
    · refine (pingIsDue_quiet v).bind fun due => ?_
      split
      · exact (sendPing_quiet v).map some
      · exact (tellTimeout_quiet v ioKind nativeOsError).map some

theorem onReadError_quiet {α : Type} (error : WebSocketError) :
    (onReadError config k error : Thread α).Each Quiet :=
  (ask_each _).bind fun _ => (appendTransportEvent_quiet _ _).bind fun _ => fail_each _

theorem stalled_quiet : (stalled config k).Each Quiet := by
  unfold stalled
  split
  · exact .ret false
  · exact elapsedNs_each.bind fun _ => .ret _

theorem announceStall_quiet (v : ProducerLocals) : (announceStall config k v).Each Quiet := by
  unfold announceStall
  split
  · exact .ret v
  · exact (appendTransportEvent_quiet _ _).bind fun _ => .ret _

theorem onClose_quiet {α : Type} (frame : Option CloseFrame) :
    (onClose config k frame : Thread α).Each Quiet :=
  (ask_each _).bind fun _ => (appendTransportEvent_quiet _ _).bind fun _ => fail_each _

theorem onPing_quiet (payload : Bytes) : (onPing config k payload).Each Quiet :=
  (perform_each _).bind fun _ => appendTransportEvent_quiet _ _

theorem onPong_quiet (v : ProducerLocals) (payload : Bytes) :
    (onPong config k v payload).Each Quiet := by
  have hrtt : (watchdogRtt v).Each Quiet := by
    unfold watchdogRtt
    split
    · exact (elapsed_each _).bind fun _ => .ret _
    · exact .ret _
  exact hrtt.bind fun _ => (appendTransportEvent_quiet _ _).bind fun _ => .ret _

theorem leave_quiet : (leave config k).Each Quiet := by
  refine (load_each _).bind fun cause => ?_
  split
  · exact stopForSupervisor_quiet _
  · refine (ask_each _).bind fun _ => (appendTransportEvent_quiet _ _).bind fun _ =>
      (ask_each _).bind fun closed => ?_
    split
    · exact .ret ()
    · refine (load_each _).bind fun stop => ?_
      split
      · exact .ret ()
      · exact fail_each _

theorem stopOnError_quiet (result : Except String Unit) : (stopOnError result).Each Quiet := by
  unfold stopOnError
  split
  · exact .ret ()
  · exact store_each fun s => { Quiet.refl s with }

theorem returnProducer_quiet (transportJournal : Option TransportJournalSealV1)
    (result : Except String Unit) :
    (returnProducer config k transportJournal result).Each Quiet :=
  (load_each _).bind fun _ => store_each fun _ => .onStream rfl rfl rfl rfl rfl

theorem sealed_quiet (result : Except String Unit) : (sealed config k result).Each Quiet := by
  have hseal : (sealTransport config k).Each Quiet := by
    refine .atomic fun i s a s' h => ?_
    split at h
    · cases h
      exact .refl s
    · cases h
  refine hseal.bind fun r => ?_
  split
  · exact .ret _
  · exact .ret _

theorem finishProducer_quiet (result : Except String Unit) :
    (finishProducer config k result).Each Quiet := by
  have hfailure : ∀ result, (tellFailure config k result).Each Quiet := by
    intro result
    unfold tellFailure
    split
    · exact .ret _
    · refine (closure_each (appendTransportEvent_quiet _ _)).bind fun told => ?_
      split
      · exact .ret _
      · exact .ret _
  have hterminal : ∀ result, (tellTerminal config k result).Each Quiet := by
    intro result
    refine (load_each _).bind fun received => ?_
    refine (closure_each (appendTransportEvent_quiet _ _)).bind fun told => ?_
    split
    · exact .ret _
    · exact .ret _
  exact (hfailure result).bind fun result => (hterminal result).bind fun result =>
    (sealed_quiet result).bind fun _ => (stopOnError_quiet _).bind fun _ =>
      returnProducer_quiet _ _

theorem createJournal_quiet : (createJournal config k).Each Quiet := by
  refine .atomic fun i s a s' h => ?_
  split at h
  · split at h
    · cases h
      exact .refl s
    · cases h
      exact .onStream rfl rfl rfl rfl rfl
  · cases h

theorem startProducer_quiet : (startProducer config k).Each Quiet := by
  refine createJournal_quiet.bind fun created => ?_
  split
  · exact (stopOnError_quiet _).bind fun _ => (returnProducer_quiet _ _).bind fun _ => .ret none
  · exact (closure_each announce_quiet).bind fun _ => .ret _

/-! ## The accesses of a producer -/

/-- The producer's view of its stream is `view`. -/
def Seeing (k : BoundaryStreamKind) (view : ProducerView) (s : Shared) : Prop :=
  (s.stream k).producerView = view

theorem kept_seeing (view : ProducerView) : Kept config (.producer k) (Seeing k view) :=
  .producerView k (· = view)

/-- A producer that has `received` frames, the last one at `ns`, and is offering none. -/
def ProducerView.idle (received ns : Nat) : ProducerView where
  received := received
  socketActivity := ns
  unpublishedRecords := none
  unpublishedBytes := none
  offeredRecords := 0
  offeredBytes := 0

variable {view : ProducerView} {s : Shared} {g : Gauge}

theorem Seeing.parts (h : Seeing k view s) :
    (s.stream k).health.received = view.received ∧
      (s.stream k).health.lastSocketActivityMonoNs = view.socketActivity ∧
      ((s.stream k).watch .queueRecords).unpublished = view.unpublishedRecords ∧
      ((s.stream k).watch .queueBytes).unpublished = view.unpublishedBytes ∧
      ((s.stream k).watch .queueRecords).offered = view.offeredRecords ∧
      ((s.stream k).watch .queueBytes).offered = view.offeredBytes := by
  cases h
  exact ⟨rfl, rfl, rfl, rfl, rfl, rfl⟩

theorem Seeing.onStream {f : StreamState → StreamState} (h : Seeing k view s)
    (F : ProducerView → ProducerView)
    (hF : (f (s.stream k)).producerView = F (s.stream k).producerView) :
    Seeing k (F view) (s.onStream k f) := by
  unfold Seeing
  rw [stream_onStream, hF, h]

variable {E : Failure → Shared → Prop} {received ns : Nat}

theorem touch_triple (since : Nat) :
    ThreadTriple config (.producer k)
      (fun s => Seeing k (.idle received since) s ∧ since ≤ ns ∧ ns ≤ s.clock)
      (storeHealth k fun health => { health with lastSocketActivityMonoNs := ns })
      (fun _ => Seeing k (.idle received ns)) E := by
  refine access_triple (g := fun _ state =>
    { state with health := { state.health with lastSocketActivityMonoNs := ns } })
    ((kept_seeing _).and ((Kept.pure _).and (Kept.clock ns))) (fun s => rfl) ?_
    (fun s h => absurd rfl h) (fun s _ => rfl) ?_
  · intro s ⟨hview, hle, hclock⟩ hstream
    exact hstream.touch (hview.parts.2.1 ▸ hle) hclock
  · intro s ⟨hview, _⟩ _
    exact hview.onStream (fun view => { view with socketActivity := ns }) rfl

theorem countReceived_triple :
    ThreadTriple config (.producer k) (Seeing k (.idle received ns))
      (countReceived k) (fun a s => a = received ∧ Seeing k (.idle (received + 1) ns) s) E := by
  refine access_triple (g := fun _ state =>
    { state with health := { state.health with received := state.health.received + 1 } })
    (kept_seeing _) (fun s => rfl) (fun s _ hstream => hstream.count)
    (fun s h => absurd rfl h) (fun s _ => rfl) ?_
  intro s hview _
  exact ⟨hview.parts.1, hview.onStream (fun view => { view with received := view.received + 1 })
    rfl⟩

def ProducerView.raised (view : ProducerView) (sum n : Nat) : Gauge → ProducerView
  | .queueRecords => { view with unpublishedRecords := some sum, offeredRecords := n }
  | .queueBytes => { view with unpublishedBytes := some sum, offeredBytes := n }
  | .syncDuration => view

def ProducerView.unpublished (view : ProducerView) : Gauge → Option Nat
  | .queueRecords => view.unpublishedRecords
  | .queueBytes => view.unpublishedBytes
  | .syncDuration => none

def ProducerView.offered (view : ProducerView) : Gauge → Nat
  | .queueRecords => view.offeredRecords
  | .queueBytes => view.offeredBytes
  | .syncDuration => 0

theorem Seeing.unpublished (h : Seeing k view s) (hg : g ≠ .syncDuration) :
    ((s.stream k).watch g).unpublished = view.unpublished g := by
  cases h
  cases g with
  | syncDuration => exact absurd rfl hg
  | _ => rfl

theorem Seeing.offered (h : Seeing k view s) (hg : g ≠ .syncDuration) :
    ((s.stream k).watch g).offered = view.offered g := by
  cases h
  cases g with
  | syncDuration => exact absurd rfl hg
  | _ => rfl

theorem raise_triple (n : Nat) (hg : g ≠ .syncDuration) (hunpublished : view.unpublished g = none)
    (hoffered : view.offered g = 0) :
    ThreadTriple config (.producer k) (Seeing k view) (raise k g n)
      (fun sum => Seeing k (view.raised sum n g)) E := by
  refine access_triple (g := fun _ state => state.withGauge g (state.health.gauge g + n)
      { state.watch g with unpublished := some (state.health.gauge g + n), offered := n })
    (kept_seeing _) (fun s => rfl) ?_ (fun s h => absurd rfl h) ?_ ?_
  · intro s hview hstream
    exact hstream.raise ((hview.offered hg).trans hoffered)
      ((hview.unpublished hg).trans hunpublished)
  · intro s _
    cases g with
    | syncDuration => exact absurd rfl hg
    | _ => rfl
  · intro s hview _
    refine hview.onStream (fun view => view.raised _ n g) ?_
    cases g with
    | syncDuration => exact absurd rfl hg
    | _ => rfl

def ProducerView.published (view : ProducerView) : Gauge → ProducerView
  | .queueRecords => { view with unpublishedRecords := none }
  | .queueBytes => { view with unpublishedBytes := none }
  | .syncDuration => view

theorem publish_triple {value : Nat} (hg : g ≠ .syncDuration)
    (hunpublished : view.unpublished g = some value) :
    ThreadTriple config (.producer k) (Seeing k view)
      (updateMax k g value) (fun _ => Seeing k (view.published g)) E := by
  refine access_triple (g := fun _ state =>
      state.withMaximum g (max (state.health.maximum g) value) (state.watch g).settled)
    (kept_seeing _) (fun s => rfl) ?_ (fun s h => absurd rfl h) ?_ ?_
  · intro s hview hstream
    exact hstream.publish ((hview.unpublished hg).trans hunpublished)
  · intro s _
    cases g with
    | syncDuration => exact absurd rfl hg
    | _ => rfl
  · intro s hview _
    refine hview.onStream (fun view => view.published g) ?_
    cases g with
    | syncDuration => exact absurd rfl hg
    | _ => rfl

/-- What a producer sees of a gauge it has lowered again. -/
def ProducerView.withdrawn (view : ProducerView) : Gauge → ProducerView
  | .queueRecords => { view with offeredRecords := 0 }
  | .queueBytes => { view with offeredBytes := 0 }
  | .syncDuration => view

theorem withdraw_triple {n : Nat} (hg : g ≠ .syncDuration) (hoffered : view.offered g = n) :
    ThreadTriple config (.producer k) (Seeing k view) (withdraw k g n)
      (fun _ => Seeing k (view.withdrawn g)) E := by
  refine access_triple (g := fun _ state =>
      state.withGauge g (wrappingSub (state.health.gauge g) n) { state.watch g with
        wrapped := (state.watch g).wrapped || decide (state.health.gauge g < n), offered := 0 })
    (kept_seeing _) (fun s => rfl) ?_ (fun s h => absurd rfl h) ?_ ?_
  · intro s hview hstream
    exact hstream.withdraw hg ((hview.offered hg).trans hoffered)
  · intro s _
    cases g with
    | syncDuration => exact absurd rfl hg
    | _ => rfl
  · intro s hview _
    refine hview.onStream (fun view => view.withdrawn g) ?_
    cases g with
    | syncDuration => exact absurd rfl hg
    | _ => rfl

/-- A producer that has counted a frame of `n` bytes in the gauges and not handed it over. -/
def ProducerView.offering (received ns n : Nat) : ProducerView :=
  { ProducerView.idle received ns with offeredRecords := 1, offeredBytes := n }

theorem trySend_triple {frame : CapturedFrame} (hcounted : frame.frameIndex.toNat < received)
    (htime : frame.receiveMonoNs.toNat = ns) (hidentity : frame.identity = config.identity k) :
    ThreadTriple config (.producer k)
      (Seeing k (.offering received ns frame.payload.length)) (trySend k frame)
      (fun result s => if result = .sent then Seeing k (.idle received ns) s
        else Seeing k (.offering received ns frame.payload.length) s) E := by
  refine access_triple (g := fun s state =>
      if (s.stream k).receiverAlive = false then state
      else if queueCapacity ≤ (s.stream k).queue.length then state
      else state.handOver frame) (kept_seeing _) ?_ ?_ (fun s h => absurd rfl h) ?_ ?_
  · intro s
    dsimp only
    split
    · exact (onStream_self s k).symm
    · split
      · exact (onStream_self s k).symm
      · rfl
  · intro s hview hstream
    have hsame := And.intro hstream (Advances.refl (s.stream k))
    have hparts := hview.parts
    split
    · exact hsame
    · split
      · exact hsame
      · refine hstream.handOver (hparts.1 ▸ hcounted) (hparts.2.1 ▸ htime) hidentity ?_
        intro g hg
        rw [hview.offered hg]
        cases g with
        | syncDuration => exact absurd rfl hg
        | _ => rfl
  · intro s _
    split
    · rfl
    · split
      · rfl
      · rfl
  · intro s hview _
    dsimp only
    split
    · exact (onStream_self s k).symm ▸ hview
    · split
      · exact (onStream_self s k).symm ▸ hview
      · exact hview.onStream (fun view => { view with offeredRecords := 0, offeredBytes := 0 }) rfl

theorem refused_triple {payload : Bytes} {message : String} {Q : Unit → Shared → Prop} :
    ThreadTriple config (.producer k)
      (Seeing k (.offering received ns payload.length)) (refused k payload message : Thread Unit)
      Q fun _ _ => True :=
  .bind (withdraw_triple nofun rfl) fun _ => .bind (withdraw_triple nofun rfl) fun _ =>
    .fail fun _ _ _ => trivial

theorem capturedFrame_counted (clock : ClockMetadata) (frameIndex receiveWallNs : Nat)
    (payload : Bytes) :
    (capturedFrame config k clock frameIndex receiveWallNs ns payload).frameIndex.toNat
      ≤ frameIndex := by
  show (UInt64.ofNat frameIndex).toNat ≤ frameIndex
  rw [UInt64.toNat_ofNat']
  exact Nat.mod_le _ _

/-- **A data message.** What is counted of it is handed to the queue or taken back. -/
theorem enqueue_safe (receiveWallNs : Nat) (payload : Bytes) (hns : ns ≤ u64Max) :
    ThreadTriple config (.producer k) (Seeing k (.idle received ns))
      (enqueue config k receiveWallNs ns payload)
      (fun _ s => ∃ received, Seeing k (.idle received ns) s) fun _ _ => True := by
  unfold enqueue
  split
  · exact .fail fun _ _ _ => trivial
  refine .bind countReceived_triple fun frameIndex => .assume fun hindex => ?_
  refine quiet_bind (load_each _) (kept_seeing _) fun clock => ?_
  refine .bind (raise_triple 1 nofun rfl rfl) fun records => ?_
  refine .bind (raise_triple payload.length nofun rfl rfl) fun bytes => ?_
  refine .bind (publish_triple nofun rfl) fun _ => .bind (publish_triple nofun rfl) fun _ => ?_
  have hnow : (UInt64.ofNat ns).toNat = ns := by
    apply UInt64.toNat_ofNat_of_lt'
    show ns < 2 ^ 64
    simp only [u64Max] at hns
    omega
  have hcounted : (capturedFrame config k clock frameIndex receiveWallNs ns
      payload).frameIndex.toNat < received + 1 :=
    Nat.lt_succ_of_le (hindex ▸ capturedFrame_counted clock frameIndex receiveWallNs payload)
  have hsend := trySend_triple (E := fun _ _ => True) hcounted hnow rfl
  refine .bind hsend fun result => ?_
  cases result with
  | sent => exact .ret fun s h _ => ⟨received + 1, h⟩
  | full => exact refused_triple
  | disconnected => exact refused_triple

/-! ## The loop -/

/-- Nothing is on offer between two turns. -/
def Resting (k : BoundaryStreamKind) (s : Shared) : Prop :=
  ∃ received ns, Seeing k (.idle received ns) s

theorem kept_resting : Kept config (.producer k) (Resting k) :=
  .producerView k fun view => ∃ received ns, view = .idle received ns

theorem onMessageKind_safe (v : ProducerLocals) (receiveWallNs : Nat) (message : Message)
    (hns : ns ≤ u64Max) :
    ThreadTriple config (.producer k) (Seeing k (.idle received ns))
      (onMessageKind config k v receiveWallNs ns message) (fun _ => Resting k)
      fun _ _ => True := by
  have hdata : ∀ payload, ThreadTriple config (.producer k) (Seeing k (.idle received ns))
      (do enqueue config k receiveWallNs ns payload; pure v) (fun _ => Resting k)
      fun _ _ => True := by
    intro payload
    refine .bind (enqueue_safe receiveWallNs payload hns) fun _ => .ret fun s h _ => ?_
    obtain ⟨received, h⟩ := h
    exact ⟨received, ns, h⟩
  have hquiet : ∀ c : Thread ProducerLocals, c.Each Quiet →
      ThreadTriple config (.producer k) (Seeing k (.idle received ns)) c
        (fun _ => Resting k) fun _ _ => True := by
    intro c hc
    exact (quiet_triple hc (kept_seeing _)).consequence (fun _ h _ => h)
      (fun _ s h _ => ⟨received, ns, h⟩) fun _ _ _ _ => trivial
  cases message with
  | text payload => exact hdata payload
  | binary payload => exact hdata payload
  | close frame => exact hquiet _ (onClose_quiet frame)
  | ping payload => exact hquiet _ ((onPing_quiet payload).bind fun _ => .ret v)
  | pong payload => exact hquiet _ (onPong_quiet v payload)
  | frame => exact hquiet _ ((appendTransportEvent_quiet _ _).bind fun _ => .ret v)

/-- A quiet part of the loop. -/
theorem resting_triple {α : Type} {c : Thread α} (hc : c.Each Quiet) :
    ThreadTriple config (.producer k) (Resting k) c (fun _ => Resting k)
      fun _ _ => True :=
  (quiet_triple hc kept_resting).consequence (fun _ h _ => h) (fun _ _ h _ => h)
    fun _ _ _ _ => trivial

/-- A message is received at a time that no earlier message exceeds. -/
theorem receiveTime_triple :
    ThreadTriple config (.producer k) (Resting k) elapsedNs
      (fun ns s => ns ≤ u64Max ∧ ∃ received since, Seeing k (.idle received since) s ∧
        since ≤ ns ∧ ns ≤ s.clock) fun _ _ => True := by
  refine elapsedNs_triple kept_resting fun s ns h hinv hle hmax => ?_
  obtain ⟨received, since, hview⟩ := h
  refine ⟨hmax, received, since, hview, ?_, Nat.le_refl _⟩
  have hsocket := (hinv.stream k).causal.socket_le
  rw [hview.parts.2.1] at hsocket
  exact hsocket.trans hle

theorem onMessage_safe (v : ProducerLocals) (message : Message) :
    ThreadTriple config (.producer k) (Resting k)
      (onMessage config k v message) (fun _ => Resting k) fun _ _ => True := by
  refine quiet_bind unixNs_each kept_resting fun receiveWallNs => ?_
  refine .bind receiveTime_triple fun ns => .assume fun hns => ?_
  refine .ofExists fun received => .ofExists fun since => ?_
  have hkept : Kept config (.producer k) fun s =>
      Seeing k (.idle received since) s ∧ since ≤ ns ∧ ns ≤ s.clock :=
    (kept_seeing _).and ((Kept.pure _).and (Kept.clock ns))
  have hrest : ∀ s, (Seeing k (.idle received since) s ∧ since ≤ ns ∧ ns ≤ s.clock) →
      SharedInv config s → Resting k s := fun s h _ => ⟨received, since, h.1⟩
  refine quiet_bind (load_each _) hkept fun stop => ?_
  split
  · exact .ret hrest
  refine quiet_bind stalled_quiet hkept fun isStalled => ?_
  split
  · exact (resting_triple ((announceStall_quiet v).map some)).strengthen hrest
  refine .bind (touch_triple since) fun _ => ?_
  exact .bind (onMessageKind_safe v receiveWallNs message hns) fun next => .ret fun _ h _ => h

/-- **Turn.** -/
theorem readTurn_safe (v : ProducerLocals) :
    ThreadTriple config (.producer k) (Resting k) (readTurn config k v)
      (fun _ => Resting k) fun _ _ => True := by
  refine quiet_bind (load_each _) kept_resting fun stop => ?_
  split
  · exact .ret fun _ h _ => h
  refine quiet_bind (ask_each _) kept_resting fun result => ?_
  split
  · exact quiet_bind now_each kept_resting fun _ => onMessage_safe _ _
  · exact resting_triple (onTimeout_quiet v _ _)
  · exact resting_triple (onReadError_quiet _)

/-- What holds of a producer before a part of its program. -/
def ProducerReady (k : BoundaryStreamKind) (stage : Option ProducerStage) (s : Shared) : Prop :=
  match stage with
  | some (.start) | some (.connecting) | some (.reading _) | some (.leaving) => Resting k s
  | some (.ended _) | none => True

theorem kept_producerReady (stage : Option ProducerStage) :
    Kept config (.producer k) (ProducerReady k stage) := by
  unfold ProducerReady
  split
  · exact kept_resting
  · exact kept_resting
  · exact kept_resting
  · exact kept_resting
  · exact .pure True
  · exact .pure True

/-- A part of the closure leaves nothing on offer unless it fails. -/
theorem behind_triple {α : Type} {c : Thread α} {next : α → ProducerStage}
    (hc : ThreadTriple config (.producer k) (Resting k) c
      (fun _ => Resting k) fun _ _ => True)
    (hnext : ∀ a s, Resting k s → ProducerReady k (some (next a)) s) :
    ThreadTriple config (.producer k) (Resting k)
      (do
        let result ← closure c
        pure (some (ProducerStage.behind next result)))
      (ProducerReady k) fun _ _ => True := by
  refine .bind (M := fun result s => ∀ a, result = .ok a → Resting k s) ?_ fun result => ?_
  · refine closure_triple (hc.consequence (fun _ h _ => h) ?_ ?_)
    · exact fun a s h _ b _ => h
    · exact fun e s _ _ message _ a h => nomatch h
  · refine .ret fun s h _ => ?_
    cases result with
    | ok a => exact hnext a s (h a rfl)
    | error message => exact trivial

/-- **Producers** keep what the other threads rely on. -/
theorem producerLoop_safe (stage : ProducerStage) :
    ThreadTriple config (.producer k) (ProducerReady k (some stage))
      (producerLoop config k stage) (ProducerReady k) fun _ _ => True := by
  cases stage with
  | start =>
    refine (resting_triple startProducer_quiet).consequence (fun _ h _ => h) ?_ fun _ _ h _ => h
    intro next s h _
    unfold ProducerReady
    split
    · exact h
    · exact h
    · exact h
    · exact h
    · exact trivial
    · exact trivial
  | connecting => exact behind_triple (resting_triple openConnection_quiet) fun _ _ h => h
  | reading v =>
    refine behind_triple (readTurn_safe v) fun next s h => ?_
    cases next with
    | none => exact h
    | some v => exact h
  | leaving => exact behind_triple (resting_triple leave_quiet) fun _ _ _ => trivial
  | ended result =>
    refine quiet_bind (finishProducer_quiet result) (Kept.pure True) fun _ => ?_
    exact .ret fun _ _ _ => trivial

end

end LobReplay.Segmented
