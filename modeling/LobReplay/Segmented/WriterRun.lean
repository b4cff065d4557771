/-
  A writer keeps what the other threads rely on. Its log counts the frames of one identity from the
  first on (`LogAt`), through every rotation; so a frame it has written was counted by the producer
  before, and an acknowledgement ends at the last frame it has written.
-/

import LobReplay.Segment.Step
import LobReplay.Segmented.Threads

namespace LobReplay.Segmented

open Foundation Raw
open Thread
open Progress (DurabilityProgressWriter)

/-! ## The log -/

/-- A log that is locked to one identity and expects the frame `next`. -/
structure LogAt (key : Identity) (next : UInt64) (writer : RawLogWriter) : Prop where
  expected_eq : writer.expected = single key next
  locked_eq : writer.lockedIdentity = some key

section

variable {key : Identity} {next : UInt64} {writer writer' : RawLogWriter} {ack : DurabilityAckV1}

section

variable (h : LogAt key next writer)
include h

theorem LogAt.sync (hsync : writer.sync = (.ok ack, writer')) :
    LogAt key next writer' ∧ ack.streams = durabilityWatermarks (single key next) := by
  obtain ⟨sink, rfl, rfl, -⟩ := RawLogWriter.sync_ok hsync
  exact ⟨⟨h.expected_eq, h.locked_eq⟩, congrArg durabilityWatermarks h.expected_eq⟩

theorem LogAt.receipt {index : Nat} {receipt : AppendReceiptV1}
    (hreceipt : writer.receipt index = (.ok receipt, writer')) :
    LogAt key next writer' ∧ ∀ ack, receipt.durabilityAck = some ack →
      ack.streams = durabilityWatermarks (single key next) := by
  unfold RawLogWriter.receipt at hreceipt
  split at hreceipt
  · rcases hsync : writer.sync with ⟨e | ack, synced⟩
    · simp only [hsync] at hreceipt
      cases hreceipt
    · simp only [hsync] at hreceipt
      cases hreceipt
      obtain ⟨hlog, hstreams⟩ := h.sync hsync
      exact ⟨hlog, fun _ heq => Option.some.inj heq ▸ hstreams⟩
  · cases hreceipt
    exact ⟨h, nofun⟩

/-- The log has counted one more frame. -/
theorem LogAt.commit {digest : FixedBytes 32} {length : Nat} {receipt : AppendReceiptV1}
    (hcommit : writer.commit key next digest length = (.ok receipt, writer')) :
    next ≠ maxU64 ∧ LogAt key (next + 1) writer' ∧ ∀ ack, receipt.durabilityAck = some ack →
      ack.streams = durabilityWatermarks (single key (next + 1)) := by
  have hexpected : writer.expected.insert key (next + 1) = single key (next + 1) := by
    rw [h.expected_eq, single_insert]
  unfold RawLogWriter.commit at hcommit
  by_cases hmax : next = maxU64
  · rw [if_pos hmax] at hcommit
    cases hcommit
  · rw [if_neg hmax] at hcommit
    simp only at hcommit
    split at hcommit
    · cases hcommit
    · split at hcommit
      · cases hcommit
      · split at hcommit
        · cases hcommit
        · refine ⟨hmax, LogAt.receipt ⟨?_, ?_⟩ hcommit⟩
          · exact hexpected
          · exact h.locked_eq

/-- **Append.** An accepted frame is the one the log expects. -/
theorem LogAt.append {codec : RawCodec} {frame : CapturedFrame} {receipt : AppendReceiptV1}
    (happend : writer.append codec frame = (.ok receipt, writer')) :
    frame.frameIndex = next ∧ next ≠ maxU64 ∧ LogAt key (next + 1) writer' ∧
      ∀ ack, receipt.durabilityAck = some ack →
        ack.streams = durabilityWatermarks (single key (next + 1)) := by
  unfold RawLogWriter.append at happend
  simp only [h.locked_eq, Option.any_some, decide_eq_true_eq] at happend
  split at happend
  · cases happend
  split at happend
  · cases happend
  next hkey =>
  obtain rfl := not_not.mp hkey
  have hnext : writer.expected.next frame.identity = next := by
    rw [h.expected_eq, next_single]
  rw [hnext] at happend
  split at happend
  · cases happend
  next hindex =>
  split at happend
  · cases happend
  split at happend
  · cases happend
  · have hcommitted := fun hlog => LogAt.commit hlog happend
    obtain ⟨hmax, hlog, hacks⟩ := hcommitted ⟨h.expected_eq, rfl⟩
    exact ⟨not_not.mp hindex, hmax, hlog, hacks⟩

end

/-- The frame the log acknowledges is the last one. -/
theorem firstStream_single (hstreams : ack.streams = durabilityWatermarks (single key next))
    {watermark : StreamDurabilityWatermarkV1} (hfirst : Progress.firstStream ack = .ok watermark) :
    watermark.durableThroughFrameIndex.toNat + 1 = next.toNat := by
  unfold Progress.firstStream at hfirst
  by_cases hzero : next = 0
  · rw [hstreams, hzero, durabilityWatermarks, toList_single] at hfirst
    cases hfirst
  · rw [hstreams, durabilityWatermarks_single key hzero] at hfirst
    cases hfirst
    have hpos : next.toNat ≠ 0 := fun h => hzero (UInt64.toNat_inj.mp h)
    have hle : (1 : UInt64) ≤ next := UInt64.le_iff_toNat_le.mpr (Nat.one_le_iff_ne_zero.mpr hpos)
    rw [UInt64.toNat_sub_of_le _ _ hle, UInt64.toNat_one]
    omega

end

/-! ## Sealing -/

section

variable {config : CaptureConfig} {files : Files} {path file : String}
  {genesis genesis' : RawSegmentGenesisV1} {ack : DurabilityAckV1} {sealed : RawSegmentSealV1}

/-- **Inversion.** A seal is that of the segment, up to the frame it is acknowledged to. -/
theorem sealRawSegment_ok (h : sealRawSegment genesis file ack = .ok sealed) :
    ∃ watermark, ack.streams = [watermark] ∧ sealed.segmentIndex = genesis.segmentIndex ∧
      sealed.connectionEpoch = genesis.connectionEpoch ∧ sealed.stream = genesis.stream ∧
      sealed.lastFrameIndex = watermark.durableThroughFrameIndex := by
  simp only [sealRawSegment, bind_eq_ok] at h
  obtain ⟨_, -, h⟩ := h
  split at h
  case h_2 => cases h
  next watermark hstreams =>
  rw [ite_err_eq_ok, bind_eq_ok] at h
  obtain ⟨-, _, -, h⟩ := h
  rw [ite_err_eq_ok, bind_eq_ok] at h
  obtain ⟨-, _, -, h⟩ := h
  rw [ite_err_eq_ok] at h
  obtain ⟨-, h⟩ := h
  cases h
  exact ⟨watermark, hstreams, rfl, rfl, rfl, rfl⟩

/-- **Inversion.** What was verified was sealed. -/
theorem verifyAndSealRawSegment_ok {codec : RawCodec} {verified : VerifiedRawSegmentV1}
    (h : verifyAndSealRawSegment codec files path file genesis ack = .ok verified) :
    sealRawSegment genesis file ack = .ok verified.sealed := by
  simp only [verifyAndSealRawSegment, bind_eq_ok] at h
  obtain ⟨_, -, h⟩ := h
  rw [ite_err_eq_ok, bind_eq_ok] at h
  obtain ⟨-, scan, -, h⟩ := h
  simp only [ite_err_eq_ok] at h
  obtain ⟨-, h⟩ := h
  split at h
  case h_2 => cases h
  simp only [ite_err_eq_ok, bind_eq_ok] at h
  obtain ⟨-, -, sealed, hsealed, _, -, h⟩ := h
  cases h
  exact hsealed

theorem successorIndex_ok {index next : UInt64} {message : String}
    (h : successorIndex index message = .ok next) : next.toNat = index.toNat + 1 := by
  simp only [successorIndex, ite_err_eq_ok, Except.ok.injEq] at h
  obtain ⟨hmax, rfl⟩ := h
  exact toNat_add_one hmax

/-- **Inversion.** The next segment goes on behind the seal. -/
theorem successorSegmentGenesis_ok (h : successorSegmentGenesis sealed = .ok genesis') :
    genesis'.segmentIndex.toNat = sealed.segmentIndex.toNat + 1 ∧
      genesis'.nextFrameIndex.toNat = sealed.lastFrameIndex.toNat + 1 ∧
      genesis'.connectionEpoch = sealed.connectionEpoch ∧ genesis'.stream = sealed.stream := by
  simp only [successorSegmentGenesis, bind_eq_ok] at h
  obtain ⟨_, -, index, hindex, next, hnext, h⟩ := h
  cases h
  exact ⟨successorIndex_ok hindex, successorIndex_ok hnext, rfl, rfl⟩

end

/-! ## The writer between two frames -/

/-- What a writer that has written `written` frames carries. -/
structure Carries (config : CaptureConfig) (k : BoundaryStreamKind) (v : WriterLocals) : Prop where
  log : ∃ next, LogAt (config.identity k) next v.writer ∧ next.toNat = v.written
  genesis : v.genesis.identity = config.identity k
  segment : v.genesis.segmentIndex = v.segmentIndex

/-- What a writer carries behind a part that writes no frame and opens no segment. -/
structure Continues (config : CaptureConfig) (k : BoundaryStreamKind) (v v' : WriterLocals) :
    Prop where
  carries : Carries config k v'
  written_eq : v'.written = v.written
  segmentIndex_eq : v'.segmentIndex = v.segmentIndex

/-- An acknowledgement of all frames written. -/
def Acknowledges (config : CaptureConfig) (k : BoundaryStreamKind) (v : WriterLocals)
    (ack : DurabilityAckV1) : Prop :=
  ∃ next, ack.streams = durabilityWatermarks (single (config.identity k) next) ∧
    next.toNat = v.written

section

variable {config : CaptureConfig} {k : BoundaryStreamKind} {V : WriterView}
  {f : StreamHealth → StreamHealth}

/-- The writer's view of its stream is `view`. -/
def Working (k : BoundaryStreamKind) (view : WriterView) (s : Shared) : Prop :=
  (s.stream k).writerView = view

theorem kept_working (view : WriterView) : Kept config (.writer k) (Working k view) :=
  .writerView k (· = view)

variable {view : WriterView} {s : Shared} {P : Shared → Prop} {v : WriterLocals}
  {frame : CapturedFrame}

theorem Working.parts (h : Working k view s) :
    (s.stream k).health.written = view.written ∧
      (s.stream k).health.segmentIndex = view.segmentIndex ∧
      (s.stream k).inHand = view.inHand ∧
      ((s.stream k).watch .syncDuration).unpublished = view.unpublishedSync ∧
      ((s.stream k).watch .queueRecords).taken = view.takenRecords ∧
      ((s.stream k).watch .queueBytes).taken = view.takenBytes := by
  cases h
  exact ⟨rfl, rfl, rfl, rfl, rfl, rfl⟩

theorem Working.onStream {f : StreamState → StreamState} (h : Working k view s)
    (F : WriterView → WriterView) (hF : (f (s.stream k)).writerView = F (s.stream k).writerView) :
    Working k (F view) (s.onStream k f) := by
  unfold Working
  rw [stream_onStream, hF, h]

/-- A writer that has written `written` frames and discounted the one in its hand. -/
def WriterView.idle (written segmentIndex : Nat) (inHand : Option CapturedFrame) : WriterView where
  written := written
  segmentIndex := segmentIndex
  inHand := inHand
  unpublishedSync := none
  takenRecords := 0
  takenBytes := 0

variable {E : Failure → Shared → Prop} {written segmentIndex : Nat}
  {inHand : Option CapturedFrame}

/-- What `?` goes on with. -/
theorem ofResult_bind {α β : Type} {t : ThreadId} {Q : β → Shared → Prop} {r : Result α}
    {f : α → Thread β} (h : ∀ a, r = .ok a → ThreadTriple config t P (f a) Q fun _ _ => True) :
    ThreadTriple config t P (ofResult r >>= f) Q fun _ _ => True := by
  cases r with
  | ok a => exact h a rfl
  | error e => exact .fail fun _ _ _ => trivial

theorem store_triple (hP : Kept config (.writer k) P) (F : WriterView → WriterView)
    (hstream : ∀ s, Working k V s ∧ P s → StreamInv config k s.clock (s.stream k) →
      StreamInv config k s.clock { s.stream k with health := f (s.stream k).health } ∧
        Advances (s.stream k) { s.stream k with health := f (s.stream k).health })
    (hproducer : ∀ state : StreamState,
      ({ state with health := f state.health } : StreamState).producerView = state.producerView)
    (hF : ∀ state : StreamState,
      ({ state with health := f state.health } : StreamState).writerView = F state.writerView) :
    ThreadTriple config (.writer k) (fun s => Working k V s ∧ P s)
      (storeHealth k f) (fun _ => Working k (F V)) E := by
  refine access_triple (g := fun _ state => { state with health := f state.health })
    ((kept_working V).and hP) (fun s => rfl) hstream (fun s _ => hproducer _)
    (fun s h => absurd rfl h) ?_
  intro s ⟨hview, _⟩ _
  exact hview.onStream F (hF _)

theorem storeWorking_triple (F : WriterView → WriterView)
    (hstream : ∀ s, Working k V s → StreamInv config k s.clock (s.stream k) →
      StreamInv config k s.clock { s.stream k with health := f (s.stream k).health } ∧
        Advances (s.stream k) { s.stream k with health := f (s.stream k).health })
    (hproducer : ∀ state : StreamState,
      ({ state with health := f state.health } : StreamState).producerView = state.producerView)
    (hF : ∀ state : StreamState,
      ({ state with health := f state.health } : StreamState).writerView = F state.writerView) :
    ThreadTriple config (.writer k) (Working k V) (storeHealth k f)
      (fun _ => Working k (F V)) E :=
  .strengthen (store_triple (.pure True) F (fun s h => hstream s h.1) hproducer hF)
    fun _ h _ => ⟨h, trivial⟩

/-! ## Acknowledgements -/

theorem storeDurable_triple :
    ThreadTriple config (.writer k) (Working k (.idle written segmentIndex inHand))
      (storeHealth k fun health => { health with durable := written })
      (fun _ => Working k (.idle written segmentIndex inHand)) E := by
  refine storeWorking_triple id ?_ (fun _ => rfl) fun _ => rfl
  intro s hview hstream
  have hwritten := hview.parts.1
  have hdurable := hstream.causal.durable_le
  exact hstream.durable (hdurable.trans hwritten.le) hwritten.ge

theorem storeLastDurable_triple (ns : Nat) :
    ThreadTriple config (.writer k)
      (fun s => Working k (.idle written segmentIndex inHand) s ∧ ns ≤ s.clock)
      (storeHealth k fun health => { health with lastDurableMonoNs := ns })
      (fun _ => Working k (.idle written segmentIndex inHand)) E :=
  store_triple (.clock ns) id (fun _ h hstream => hstream.lastDurable h.2) (fun _ => rfl)
    fun _ => rfl

theorem readTime_triple :
    ThreadTriple config (.writer k) (Working k view) elapsedNs
      (fun ns s => Working k view s ∧ ns ≤ s.clock) fun _ _ => True :=
  elapsedNs_triple (kept_working view) fun _ ns h _ _ _ => ⟨h, Nat.le_refl ns⟩

/-- **Acknowledgement.** It ends at the last frame written. -/
theorem appendProgress_safe (hv : Carries config k v) {ack : DurabilityAckV1}
    (hack : Acknowledges config k v ack) :
    ThreadTriple config (.writer k)
      (Working k (.idle v.written segmentIndex inHand)) (appendProgress config k v ack)
      (fun v' s => Continues config k v v' ∧ Working k (.idle v.written segmentIndex inHand) s)
      fun _ _ => True := by
  obtain ⟨next, hstreams, hnext⟩ := hack
  unfold appendProgress
  split
  · exact .ret fun s h _ => ⟨⟨hv, rfl, rfl⟩, h⟩
  refine ofResult_bind fun _ _ => ofResult_bind fun watermark hfirst =>
    ofResult_bind fun durable hdurable => ?_
  have hlast := firstStream_single hstreams hfirst
  have heq : durable = v.written := by
    unfold increment at hdurable
    split at hdurable
    · cases hdurable
      exact hlast.trans hnext
    · cases hdurable
  rw [heq]
  refine .bind storeDurable_triple fun _ => .bind readTime_triple fun ns =>
    .bind (storeLastDurable_triple ns) fun _ => .ret fun s h _ => ?_
  exact ⟨⟨⟨hv.log, hv.genesis, hv.segment⟩, rfl, rfl⟩, h⟩

theorem setSync_triple (duration : Nat) :
    ThreadTriple config (.writer k)
      (Working k (.idle written segmentIndex inHand)) (setGauge k .syncDuration duration)
      (fun _ => Working k { WriterView.idle written segmentIndex inHand with
        unpublishedSync := some duration }) E := by
  refine access_triple (g := fun _ state => state.withGauge .syncDuration duration
      { state.watch .syncDuration with unpublished := some duration })
    (kept_working _) (fun s => rfl) ?_ (fun s _ => rfl) (fun s h => absurd rfl h) ?_
  · intro s hview hstream
    exact hstream.setSync hview.parts.2.2.2.1 duration
  · intro s hview _
    exact hview.onStream (fun view => { view with unpublishedSync := some duration }) rfl

/-- **Publication** of how long a sync took. -/
theorem publishSync_safe (duration : Nat) :
    ThreadTriple config (.writer k)
      (Working k (.idle written segmentIndex inHand)) (publishSync k duration)
      (fun _ => Working k (.idle written segmentIndex inHand)) E := by
  refine .bind (setSync_triple duration) fun _ => ?_
  refine access_triple (g := fun _ state => state.withMaximum .syncDuration
      (max (state.health.maximum .syncDuration) duration) (state.watch .syncDuration).settled)
    (kept_working _) (fun s => rfl) ?_ (fun s _ => rfl) (fun s h => absurd rfl h) ?_
  · intro s hview hstream
    exact hstream.publish hview.parts.2.2.2.1
  · intro s hview _
    exact hview.onStream (fun view => { view with unpublishedSync := none }) rfl

theorem timedSync_safe (hv : Carries config k v) :
    ThreadTriple config (.writer k) (Working k view) (timedSync v)
      (fun r s => (Continues config k v r.2.2 ∧ Acknowledges config k v r.1) ∧ Working k view s)
      fun _ _ => True := by
  refine quiet_bind now_each (kept_working view) fun started => ?_
  rcases hsync : v.writer.sync with ⟨result, writer⟩
  refine ofResult_bind fun ack hack => ?_
  refine quiet_bind (elapsed_each _) (kept_working view) fun duration => .ret fun s h _ => ?_
  obtain ⟨next, hlog, hnext⟩ := hv.log
  obtain ⟨hlog', hstreams⟩ := hlog.sync (hsync.trans (by rw [hack]))
  exact ⟨⟨⟨⟨⟨next, hlog', hnext⟩, hv.genesis, hv.segment⟩, rfl, rfl⟩, next, hstreams, hnext⟩, h⟩

/-- **Sync.** -/
theorem syncPending_safe (hv : Carries config k v) :
    ThreadTriple config (.writer k)
      (Working k (.idle v.written segmentIndex inHand)) (syncPending config k v)
      (fun v' s => Continues config k v v' ∧ Working k (.idle v.written segmentIndex inHand) s)
      fun _ _ => True := by
  refine .bind (timedSync_safe hv) fun ⟨ack, duration, synced⟩ => .assume fun ⟨hsynced, hack⟩ => ?_
  obtain ⟨hcarries, hwritten, hsegment⟩ := hsynced
  have hack' : Acknowledges config k synced ack := by
    obtain ⟨next, hstreams, hnext⟩ := hack
    exact ⟨next, hstreams, hnext.trans hwritten.symm⟩
  rw [← hwritten]
  refine .bind (appendProgress_safe hcarries hack') fun v' => .assume fun hv' => ?_
  refine .bind (publishSync_safe duration) fun _ => ?_
  refine quiet_bind now_each (kept_working _) fun lastSync => .ret fun s h _ => ?_
  exact ⟨⟨⟨hv'.carries.log, hv'.carries.genesis, hv'.carries.segment⟩,
    hv'.written_eq.trans hwritten, hv'.segmentIndex_eq.trans hsegment⟩, h⟩

/-! ## Rotation -/

/-- A seal ends at the last frame written. -/
structure SealsAt (config : CaptureConfig) (k : BoundaryStreamKind) (v : WriterLocals)
    (sealed : RawSegmentSealV1) : Prop where
  segment : sealed.segmentIndex = v.segmentIndex
  identity : (sealed.connectionEpoch, sealed.stream) = config.identity k
  last : sealed.lastFrameIndex.toNat + 1 = v.written

/-- **Sealing** leaves what the writer carries. -/
theorem finalizeSegment_safe (hv : Carries config k v) :
    ThreadTriple config (.writer k)
      (Working k (.idle v.written segmentIndex inHand)) (finalizeSegment config k v)
      (fun r s => (Continues config k v r.2 ∧ SealsAt config k v r.1) ∧
        Working k (.idle v.written segmentIndex inHand) s) fun _ _ => True := by
  refine .bind (timedSync_safe hv) fun ⟨ack, duration, synced⟩ => .assume fun ⟨hsynced, hack⟩ => ?_
  obtain ⟨hcarries, hwritten, hsegment⟩ := hsynced
  have hack' : Acknowledges config k synced ack := by
    obtain ⟨next, hstreams, hnext⟩ := hack
    exact ⟨next, hstreams, hnext.trans hwritten.symm⟩
  rw [← hwritten]
  refine .bind (publishSync_safe duration) fun _ => ?_
  refine .bind (appendProgress_safe hcarries hack') fun v' => .assume fun hv' => ?_
  refine quiet_bind (ask_each _) (kept_working _) fun files => ?_
  refine ofResult_bind fun verified hverified => ?_
  refine quiet_bind (ask_each _) (kept_working _) fun current => ?_
  rcases v'.manifest.appendVerified config.segment current verified with ⟨result, manifest⟩
  refine ofResult_bind fun _ _ => .ret fun s h _ => ?_
  refine ⟨⟨⟨⟨hv'.carries.log, hv'.carries.genesis, hv'.carries.segment⟩,
    hv'.written_eq.trans hwritten, hv'.segmentIndex_eq.trans hsegment⟩, ?_⟩, h⟩
  obtain ⟨watermark, hwatermark, hindex, hepoch, hstream, hlast⟩ :=
    sealRawSegment_ok (verifyAndSealRawSegment_ok hverified)
  obtain ⟨next, hstreams, hnext⟩ := hack
  have hfirst : Progress.firstStream ack = .ok watermark := by
    rw [Progress.firstStream, hwatermark]
  refine ⟨?_, ?_, ?_⟩
  · exact hindex.trans (hv'.carries.segment.trans (hv'.segmentIndex_eq.trans hsegment))
  · rw [hepoch, hstream]
    exact hv'.carries.genesis
  · rw [hlast, firstStream_single hstreams hfirst, hnext]

theorem openSegment_safe {genesis : RawSegmentGenesisV1} {segmentIndex : UInt64} :
    ThreadTriple config (.writer k) (Working k view)
      (openSegment config k genesis segmentIndex)
      (fun r s => LogAt genesis.identity genesis.nextFrameIndex r.1 ∧ Working k view s)
      fun _ _ => True := by
  refine quiet_bind (perform_each _) (kept_working view) fun _ => ?_
  refine quiet_bind (ask_each _) (kept_working view) fun rawFaults => ?_
  refine ofResult_bind fun writer hwriter => ?_
  refine quiet_bind (perform_each _) (kept_working view) fun _ => ?_
  refine quiet_bind (ask_each _) (kept_working view) fun progressFaults => ?_
  refine ofResult_bind fun progress hprogress => ?_
  refine .ret fun s h _ => ⟨?_, h⟩
  simp only [RawLogWriter.fromSinkSegment, bind_eq_ok] at hwriter
  obtain ⟨_, -, hwriter⟩ := hwriter
  unfold RawLogWriter.initializeLog at hwriter
  split at hwriter
  · cases hwriter
  split at hwriter
  · cases hwriter
  split at hwriter
  · cases hwriter
  · cases hwriter
    exact ⟨rfl, rfl⟩

theorem storeSegmentIndex_triple {index : Nat} (hle : segmentIndex ≤ index) :
    ThreadTriple config (.writer k) (Working k (.idle written segmentIndex inHand))
      (storeHealth k fun health => { health with segmentIndex := index })
      (fun _ => Working k (.idle written index inHand)) E := by
  refine storeWorking_triple (V := .idle written segmentIndex inHand)
    (fun view => { view with segmentIndex := index }) ?_ (fun _ => rfl) fun _ => rfl
  intro s hview hstream
  exact hstream.segmentIndex (hview.parts.2.1.trans_le hle)

/-- **Rotation.** -/
theorem rotate_safe (hv : Carries config k v) (desired : Nat) :
    ThreadTriple config (.writer k)
      (Working k (.idle v.written v.segmentIndex.toNat inHand)) (rotate config k v desired)
      (fun v' s => (Carries config k v' ∧ v'.written = v.written) ∧
        Working k (.idle v.written v'.segmentIndex.toNat inHand) s) fun _ _ => True := by
  unfold rotate
  split
  · exact .ret fun s h _ => ⟨⟨hv, rfl⟩, h⟩
  split
  · exact .fail fun _ _ _ => trivial
  refine .bind (finalizeSegment_safe hv) fun ⟨sealed, v'⟩ => .assume fun ⟨hv', hsealed⟩ => ?_
  refine quiet_bind (perform_each _) (kept_working _) fun _ => ?_
  refine ofResult_bind fun genesis hgenesis => ?_
  obtain ⟨hindex, hframe, hepoch, hstream⟩ := successorSegmentGenesis_ok hgenesis
  have hidentity : genesis.identity = config.identity k := by
    rw [← hsealed.identity, RawSegmentGenesisV1.identity, hepoch, hstream]
  have hgrows : v.segmentIndex.toNat ≤ genesis.segmentIndex.toNat := by
    rw [hindex, hsealed.segment]
    exact Nat.le_succ _
  refine .bind (storeSegmentIndex_triple hgrows) fun _ => ?_
  refine .bind openSegment_safe fun ⟨writer, progress⟩ => .assume fun hlog => ?_
  refine quiet_bind now_each (kept_working _) fun lastSync => .ret fun s h _ => ?_
  refine ⟨⟨⟨⟨genesis.nextFrameIndex, hidentity ▸ hlog, ?_⟩, hidentity, rfl⟩, hv'.written_eq⟩, h⟩
  exact (hframe.trans hsealed.last).trans hv'.written_eq.symm

/-! ## One turn -/

/-- What a writer sees of a frame it has taken and not discounted. -/
def WriterView.taken (written segmentIndex : Nat) (frame : CapturedFrame) : WriterView :=
  { WriterView.idle written segmentIndex (some frame) with
    takenRecords := 1, takenBytes := frame.payload.length }

theorem discount_triple {g : Gauge} {n : Nat} (hg : g ≠ .syncDuration) (F : WriterView → WriterView)
    (htaken : ∀ s, Working k view s → ((s.stream k).watch g).taken = n)
    (hF : ∀ (state : StreamState) (value : Nat) (wrapped : Bool),
      (state.withGauge g value { state.watch g with wrapped, taken := 0 }).writerView
        = F state.writerView) :
    ThreadTriple config (.writer k) (Working k view) (discount k g n)
      (fun _ => Working k (F view)) E := by
  refine access_triple (g := fun _ state =>
      state.withGauge g (wrappingSub (state.health.gauge g) n) { state.watch g with
        wrapped := (state.watch g).wrapped || decide (state.health.gauge g < n), taken := 0 })
    (kept_working view) (fun s => rfl) (fun s h hstream => hstream.discount hg (htaken s h)) ?_
    (fun s h => absurd rfl h) (fun s h _ => h.onStream F (hF _ _ _))
  intro s _
  cases g with
  | syncDuration => exact absurd rfl hg
  | _ => rfl

/-- **Discount** of the frame in hand. -/
theorem discountFrame_safe :
    ThreadTriple config (.writer k)
      (Working k (.taken written segmentIndex frame)) (discountFrame k frame)
      (fun _ => Working k (.idle written segmentIndex (some frame))) fun _ _ => True := by
  refine .bind (discount_triple (g := .queueRecords) nofun (fun view => { view with takenRecords := 0 })
    (fun s h => h.parts.2.2.2.2.1) fun _ _ _ => rfl) fun _ => ?_
  refine .bind (discount_triple (g := .queueBytes) nofun (fun view => { view with takenBytes := 0 })
    (fun s h => h.parts.2.2.2.2.2) fun _ _ _ => rfl) fun _ => ?_
  refine .bind readTime_triple fun ns => ?_
  exact store_triple (.clock ns) id (fun _ _ hstream => hstream.queueAge _) (fun _ => rfl)
    fun _ => rfl

theorem storeWritten_triple (hframe : frame.frameIndex.toNat = written) :
    ThreadTriple config (.writer k) (Working k (.idle written segmentIndex (some frame)))
      (storeHealth k fun health => { health with written := written + 1 })
      (fun _ => Working k (.idle (written + 1) segmentIndex (some frame))) E := by
  refine storeWorking_triple (V := .idle written segmentIndex (some frame))
    (fun view => { view with written := written + 1 }) ?_ (fun _ => rfl) fun _ => rfl
  intro s hview hstream
  have hhand : (s.stream k).inHand = some frame := hview.parts.2.2.1
  have hmem : frame ∈ (s.stream k).frames := by
    rw [StreamState.frames, hhand]
    exact List.mem_cons_self
  have hcounted := (hstream.queued.inFlight frame hmem).counted
  refine hstream.written (hview.parts.1.trans_le (Nat.le_succ written)) ?_
  rw [← hframe]
  exact hcounted

/-- **Append.** The frame was counted by the producer before it is counted as written. -/
theorem appendFrame_safe (hv : Carries config k v) :
    ThreadTriple config (.writer k)
      (Working k (.idle v.written segmentIndex (some frame))) (appendFrame config k v frame)
      (fun r s => (Carries config k r.2.2 ∧ r.2.2.written = v.written + 1 ∧
          r.2.2.segmentIndex = v.segmentIndex ∧
          ∀ ack, r.1.durabilityAck = some ack → Acknowledges config k r.2.2 ack) ∧
        Working k (.idle (v.written + 1) segmentIndex (some frame)) s) fun _ _ => True := by
  refine quiet_bind now_each (kept_working _) fun started => ?_
  rcases happend : v.writer.append config.segment.toRawCodec frame with ⟨result, writer⟩
  refine ofResult_bind fun receipt hreceipt => ?_
  refine quiet_bind (elapsed_each _) (kept_working _) fun duration => ?_
  obtain ⟨next, hlog, hnext⟩ := hv.log
  obtain ⟨hindex, hmax, hlog', hacks⟩ := hlog.append (happend.trans (by rw [hreceipt]))
  have hnext' : (next + 1).toNat = v.written + 1 := by rw [toNat_add_one hmax, hnext]
  have hwritten : frame.frameIndex.toNat = v.written := by rw [hindex, hnext]
  have hdone : ∀ s, Working k (.idle (v.written + 1) segmentIndex (some frame)) s →
      (Carries config k { v with writer, pending := true, written := v.written + 1 } ∧
        v.written + 1 = v.written + 1 ∧ v.segmentIndex = v.segmentIndex ∧
        ∀ ack, receipt.durabilityAck = some ack →
          Acknowledges config k { v with writer, pending := true, written := v.written + 1 } ack) ∧
      Working k (.idle (v.written + 1) segmentIndex (some frame)) s := fun s h =>
    ⟨⟨⟨⟨next + 1, hlog', hnext'⟩, hv.genesis, hv.segment⟩, rfl, rfl,
      fun ack hack => ⟨next + 1, hacks ack hack, hnext'⟩⟩, h⟩
  refine .bind (storeWritten_triple hwritten) fun _ => ?_
  split
  · refine .bind (M := fun _ => Working k (.idle (v.written + 1) segmentIndex (some frame))) ?_
      fun _ => .ret fun s h _ => hdone s h
    refine storeWorking_triple id ?_ (fun _ => rfl) fun _ => rfl
    exact fun s h hstream => hstream.market h.parts.2.2.1
  · exact .ret fun s h _ => hdone s h

theorem acknowledgeReceipt_safe (hv : Carries config k v) {receipt : AppendReceiptV1}
    (duration : Nat)
    (hacks : ∀ ack, receipt.durabilityAck = some ack → Acknowledges config k v ack) :
    ThreadTriple config (.writer k) (Working k (.idle v.written segmentIndex inHand))
      (acknowledgeReceipt config k v receipt duration)
      (fun v' s => Continues config k v v' ∧ Working k (.idle v.written segmentIndex inHand) s)
      fun _ _ => True := by
  unfold acknowledgeReceipt
  split
  · exact .ret fun s h _ => ⟨⟨hv, rfl, rfl⟩, h⟩
  next ack hack =>
  refine .bind (appendProgress_safe hv (hacks ack hack)) fun v' => .assume fun hv' => ?_
  refine .bind (publishSync_safe duration) fun _ => ?_
  refine quiet_bind now_each (kept_working _) fun lastSync => .ret fun s h _ => ?_
  exact ⟨⟨⟨hv'.carries.log, hv'.carries.genesis, hv'.carries.segment⟩, hv'.written_eq,
    hv'.segmentIndex_eq⟩, h⟩

theorem publishShutdown_safe (frame : CapturedFrame) :
    ThreadTriple config (.writer k) (Working k view)
      (publishShutdown k frame v) (fun v' s => v' = v ∧ Working k view s) fun _ _ => True := by
  unfold publishShutdown
  split
  · exact .fail fun _ _ _ => trivial
  split
  · exact .fail fun _ _ _ => trivial
  refine quiet_bind (perform_each _) (kept_working view) fun _ => ?_
  refine .bind (M := fun _ => Working k view) ?_ fun _ => .ret fun s h _ => ⟨rfl, h⟩
  refine storeWorking_triple id ?_ (fun _ => rfl) fun _ => rfl
  exact fun s _ hstream => hstream.shutdown _

theorem tellShutdown_safe (hv : Carries config k v) (frame : CapturedFrame) :
    ThreadTriple config (.writer k)
      (Working k (.idle v.written segmentIndex inHand)) (tellShutdown config k v frame)
      (fun v' s => Continues config k v v' ∧ Working k (.idle v.written segmentIndex inHand) s)
      fun _ _ => True := by
  unfold tellShutdown
  split
  · refine .bind (syncPending_safe hv) fun v' => .assume fun hv' => ?_
    exact (publishShutdown_safe frame).consequence (fun _ h _ => h)
      (fun _ s h _ => ⟨h.1 ▸ hv', h.2⟩) fun _ _ h _ => h
  · exact (publishShutdown_safe frame).consequence (fun _ h _ => h)
      (fun _ s h _ => ⟨⟨h.1.symm ▸ hv, h.1.symm ▸ rfl, h.1.symm ▸ rfl⟩, h.2⟩) fun _ _ h _ => h

def Between (config : CaptureConfig) (k : BoundaryStreamKind) (v : WriterLocals) (s : Shared) :
    Prop :=
  Carries config k v ∧ ∃ inHand, Working k (.idle v.written v.segmentIndex.toNat inHand) s

theorem kept_between (v : WriterLocals) : Kept config (.writer k) (Between config k v) :=
  (Kept.pure _).and (.writerView k fun view =>
    ∃ inHand, view = .idle v.written v.segmentIndex.toNat inHand)

theorem Continues.between {v' : WriterLocals} (hv' : Continues config k v v')
    (h : Working k (.idle v.written v.segmentIndex.toNat inHand) s) : Between config k v' s := by
  refine ⟨hv'.carries, inHand, ?_⟩
  rw [hv'.written_eq, hv'.segmentIndex_eq]
  exact h

/-- **Frame.** -/
theorem onFrame_safe (hv : Carries config k v) :
    ThreadTriple config (.writer k)
      (Working k (.taken v.written v.segmentIndex.toNat frame)) (onFrame config k v frame)
      (fun v' => Between config k v') fun _ _ => True := by
  refine .bind discountFrame_safe fun _ => ?_
  refine .bind (rotate_safe hv _) fun v₁ => .assume fun ⟨hv₁, hwritten₁⟩ => ?_
  rw [← hwritten₁]
  refine .bind (appendFrame_safe hv₁) fun ⟨receipt, duration, v₂⟩ =>
    .assume fun ⟨hv₂, hwritten₂, hsegment₂, hacks⟩ => ?_
  have hview : (WriterView.idle (v₁.written + 1) v₁.segmentIndex.toNat (some frame))
      = .idle v₂.written v₂.segmentIndex.toNat (some frame) := by
    rw [hwritten₂, hsegment₂]
  rw [hview]
  refine .bind (acknowledgeReceipt_safe hv₂ duration hacks) fun v₃ => .assume fun hv₃ => ?_
  have hview₃ : (WriterView.idle v₂.written v₂.segmentIndex.toNat (some frame))
      = .idle v₃.written v₃.segmentIndex.toNat (some frame) := by
    rw [hv₃.written_eq, hv₃.segmentIndex_eq]
  rw [hview₃]
  split
  · exact (tellShutdown_safe hv₃.carries frame).consequence (fun _ h _ => h)
      (fun v' s h _ => h.1.between h.2) fun _ _ h _ => h
  · exact .ret fun s h _ => ⟨hv₃.carries, some frame, h⟩

/-- **Timeout.** -/
theorem onIdle_safe (v : WriterLocals) :
    ThreadTriple config (.writer k) (Between config k v)
      (onIdle config k v) (fun v' => Between config k v') fun _ _ => True := by
  unfold onIdle
  split
  case isFalse => exact .ret fun s h _ => h
  refine quiet_bind (elapsed_each _) (kept_between v) fun age => ?_
  split
  case isFalse => exact .ret fun s h _ => h
  refine .assume fun hv => .ofExists fun inHand => ?_
  exact (syncPending_safe hv).consequence (fun _ h _ => h) (fun v' s h _ => h.1.between h.2)
    fun _ _ h _ => h

theorem recvTimeout_triple :
    ThreadTriple config (.writer k) (Between config k v) (recvTimeout k)
      (fun received s => match received with
        | .frame frame => Carries config k v ∧
          Working k (.taken v.written v.segmentIndex.toNat frame) s
        | .timeout | .disconnected => Between config k v s) E := by
  refine access_triple (g := fun s state => state.receive (s.stream k).queue) (kept_between v)
    ?_ ?_ ?_ (fun s h => absurd rfl h) ?_
  · intro s
    rcases hqueue : (s.stream k).queue with _ | ⟨frame, queue⟩
    · exact (onStream_self s k).symm
    · rfl
  · intro s ⟨_, inHand, hview⟩ hstream
    rcases hqueue : (s.stream k).queue with _ | ⟨frame, queue⟩
    · exact ⟨hstream, .refl _⟩
    · refine hstream.take hqueue fun g hg => ?_
      cases g with
      | queueRecords => exact hview.parts.2.2.2.2.1
      | queueBytes => exact hview.parts.2.2.2.2.2
      | syncDuration => exact absurd rfl hg
  · intro s _
    rcases hqueue : (s.stream k).queue with _ | ⟨frame, queue⟩
    · rfl
    · rfl
  · intro s ⟨hv, inHand, hview⟩ _
    rcases hqueue : (s.stream k).queue with _ | ⟨frame, queue⟩
    · dsimp only [StreamState.receive]
      rw [onStream_self]
      by_cases halive : (s.stream k).senderAlive = true
      · rw [if_pos halive]
        exact ⟨hv, inHand, hview⟩
      · rw [if_neg halive]
        exact ⟨hv, inHand, hview⟩
    · exact ⟨hv, hview.onStream (fun view => { view with
        inHand := some frame, takenRecords := 1, takenBytes := frame.payload.length }) rfl⟩

/-- **Turn.** -/
theorem writerTurn_safe (v : WriterLocals) :
    ThreadTriple config (.writer k) (Between config k v)
      (writerTurn config k v)
      (fun next s => Between config k (next.getD v) s) fun _ _ => True := by
  refine .bind recvTimeout_triple fun received => ?_
  cases received with
  | frame frame =>
    refine .assume fun hv => ?_
    exact .bind (onFrame_safe hv) fun v' => .ret fun s h _ => h
  | timeout => exact .bind (onIdle_safe v) fun v' => .ret fun s h _ => h
  | disconnected => exact .ret fun s h _ => h

/-! ## The loop -/

theorem openWriter_safe :
    ThreadTriple config (.writer k) (Working k (.idle 0 0 inHand))
      (openWriter config k) (fun v => Between config k v) fun _ _ => True := by
  refine quiet_bind (perform_each _) (kept_working _) fun _ => ?_
  refine quiet_bind (perform_each _) (kept_working _) fun _ => ?_
  refine quiet_bind (ask_each _) (kept_working _) fun manifestFaults => ?_
  refine ofResult_bind fun manifest _ => ofResult_bind fun genesis hgenesis => ?_
  simp only [rootSegmentGenesis, ite_err_eq_ok, Except.ok.injEq] at hgenesis
  obtain ⟨-, rfl⟩ := hgenesis
  refine .bind openSegment_safe fun ⟨writer, progress⟩ => .assume fun hlog => ?_
  refine quiet_bind now_each (kept_working _) fun lastSync => .ret fun s h _ => ?_
  exact ⟨⟨⟨0, hlog, rfl⟩, rfl, rfl⟩, inHand, h⟩

theorem closeWriter_safe (v : WriterLocals) :
    ThreadTriple config (.writer k) (Between config k v)
      (closeWriter config k v) (fun _ _ => True) fun _ _ => True := by
  refine .assume fun hv => .ofExists fun inHand => ?_
  unfold closeWriter
  split
  · exact .fail fun _ _ _ => trivial
  refine .bind (finalizeSegment_safe hv) fun ⟨sealed, v'⟩ => .assume fun _ => ?_
  refine quiet_bind (perform_each _) (kept_working _) fun _ => ?_
  refine quiet_bind (ask_each _) (kept_working _) fun files => ?_
  dsimp only
  split
  · exact .fail fun _ _ _ => trivial
  refine ofResult_bind fun scan _ => ?_
  split
  · exact .fail fun _ _ _ => trivial
  · exact .ret fun _ _ _ => trivial

theorem returnWriter_quiet (result : WriterResult) : (returnWriter k result).Each Quiet :=
  store_each fun _ => .onStream rfl rfl rfl rfl rfl

theorem finishWriter_quiet (result : Except String WriterOutcome) :
    (finishWriter k result).Each Quiet := by
  have hstop : (store fun s => { s with stop := true }).Each Quiet :=
    store_each fun s => { Quiet.refl s with }
  unfold finishWriter
  split
  · exact (load_each _).bind fun _ => returnWriter_quiet _
  · exact hstop.bind fun _ => (load_each _).bind fun _ =>
      (load_each _).bind fun _ => (load_each _).bind fun _ => returnWriter_quiet _

/-- What holds of a writer before a part of its program. -/
def WriterReady (config : CaptureConfig) (k : BoundaryStreamKind) (stage : Option WriterStage)
    (s : Shared) : Prop :=
  match stage with
  | some .start => ∃ inHand, Working k (.idle 0 0 inHand) s
  | some (.receiving v) | some (.closing v) => Between config k v s
  | some (.ended _) | none => True

theorem kept_writerReady (stage : Option WriterStage) :
    Kept config (.writer k) (WriterReady config k stage) := by
  unfold WriterReady
  split
  · exact .writerView k fun view => ∃ inHand, view = .idle 0 0 inHand
  · exact kept_between _
  · exact kept_between _
  · exact .pure True
  · exact .pure True

/-- A part of the closure leads to the next one, or to the end if it fails. -/
theorem writerStage_triple {α : Type} {c : Thread α} {M : α → Shared → Prop}
    {next : α → WriterStage} (hc : ThreadTriple config (.writer k) P c M fun _ _ => True)
    (hnext : ∀ a s, M a s → WriterReady config k (some (next a)) s) :
    ThreadTriple config (.writer k) P
      (do
        let result ← closure c
        pure (some (WriterStage.behind next result)))
      (WriterReady config k) fun _ _ => True := by
  refine .bind (M := fun result s => ∀ a, result = .ok a → M a s) ?_ fun result => ?_
  · refine closure_triple (hc.consequence (fun _ h _ => h) ?_ ?_)
    · intro a s h _ b heq
      cases heq
      exact h
    · exact fun e s _ _ message _ a h => nomatch h
  · refine .ret fun s h _ => ?_
    cases result with
    | ok a => exact hnext a s (h a rfl)
    | error message => exact trivial

/-- **Writers** keep what the other threads rely on. -/
theorem writerLoop_safe (stage : WriterStage) :
    ThreadTriple config (.writer k) (WriterReady config k (some stage))
      (writerLoop config k stage) (WriterReady config k) fun _ _ => True := by
  cases stage with
  | start => exact .ofExists fun inHand => writerStage_triple openWriter_safe fun _ _ h => h
  | receiving v =>
    refine writerStage_triple (writerTurn_safe v) fun next s h => ?_
    cases next with
    | none => exact h
    | some v' => exact h
  | closing v => exact writerStage_triple (closeWriter_safe v) fun _ _ _ => trivial
  | ended result =>
    exact quiet_bind (finishWriter_quiet result) (Kept.pure True) fun _ =>
      .ret fun _ _ _ => trivial

end

end LobReplay.Segmented
