/-
  A depth window replayed event by event (observations.rs). A cursor goes from one applied update to
  the next (`advance_depth_window`), and a prefix of the events is replayed again
  (`replay_depth_window_through`).

  Both follow one replay, the updates that apply with the books behind them (`appliedBooks`).
-/

import LobReplay.Book.Fingerprint
import LobReplay.Foundation.Join
import LobReplay.Observation.Depth

namespace LobReplay.Observation

open Foundation Book
open Raw (RawRecordEnvelopeV1)

/-! ## Model -/

structure DepthWindowEvent where
  recordIndex : Nat
  firstSequence : UInt64
  finalSequence : UInt64
  deriving DecidableEq

structure AppliedDepthWindowEvent where
  eventIndex : Nat
  firstSequence : UInt64
  finalSequence : UInt64
  deriving DecidableEq

/-- The records of a window with what `prepare_depth_window` returns for them. -/
structure DepthWindow where
  records : List RawRecordEnvelopeV1
  identity : RecordIdentity
  events : List DepthWindowEvent

/-- The loop of `prepare_depth_window`. -/
def depthWindowEvents (codec : BookCodec) :
    Nat → List RawRecordEnvelopeV1 → Result (List DepthWindowEvent)
  | _, [] => .ok []
  | recordIndex, record :: rest => do
    let shutdown ← serverShutdownPayload codec record.frame.payload
    if shutdown then depthWindowEvents codec (recordIndex + 1) rest
    else do
      let (firstSequence, finalSequence) ← depthIds codec record.frame.payload
      let events ← depthWindowEvents codec (recordIndex + 1) rest
      .ok (⟨recordIndex, firstSequence, finalSequence⟩ :: events)

def prepareDepthWindow (codec : BookCodec) (snapshot : RawRecordEnvelopeV1)
    (records : List RawRecordEnvelopeV1) : Result DepthWindow := do
  let identity ← identity records
  requireContiguousFrames records
  if isDepthStream identity.2.1 = false ∨ snapshot.frame.symbol ≠ identity.1 then
    err "depth window snapshot/stream identity mismatch"
  else do
    let events ← depthWindowEvents codec 0 records
    .ok { records, identity, events }

/-- The book, the next event and whether the window is live. -/
structure WindowCursor where
  book : LocalOrderBook
  nextEvent : Nat
  liveStarted : Bool

namespace DepthWindow

/-- `records[record_index]`. -/
def recordAt (window : DepthWindow) (recordIndex : Nat) : Result RawRecordEnvelopeV1 :=
  match window.records[recordIndex]? with
  | none => .error .abort
  | some record => .ok record

/-- `records[events[event_index].record_index]`. -/
def eventRecord (window : DepthWindow) (eventIndex : Nat) : Result RawRecordEnvelopeV1 :=
  match window.events[eventIndex]? with
  | none => .error .abort
  | some event => window.recordAt event.recordIndex

/-- The body of the loops of `advance_depth_window` and `replay_depth_window_through`. -/
def applyEvent (codec : BookCodec) (window : DepthWindow) (event : DepthWindowEvent)
    (book : LocalOrderBook) (liveStarted : Bool) : Result (ApplyOutcome × LocalOrderBook) := do
  let record ← window.recordAt event.recordIndex
  match book.applyDepth codec record.frame.payload with
  | (.error e, _) => .error e
  | (.ok .old, book) =>
    if liveStarted then err "stale depth record appeared after window became LIVE"
    else .ok (.old, book)
  | (.ok .applied, book) => .ok (.applied, book)

/-- The loop of `advance_depth_window`, over the events from the next one on. -/
def advanceLoop (codec : BookCodec) (window : DepthWindow) :
    List DepthWindowEvent → WindowCursor → Result (Option AppliedDepthWindowEvent × WindowCursor)
  | [], cursor => .ok (none, cursor)
  | event :: rest, cursor => do
    let (outcome, book) ← window.applyEvent codec event cursor.book cursor.liveStarted
    match outcome with
    | .old =>
      window.advanceLoop codec rest { cursor with book, nextEvent := cursor.nextEvent + 1 }
    | .applied =>
      .ok (some ⟨cursor.nextEvent, event.firstSequence, event.finalSequence⟩,
        ⟨book, cursor.nextEvent + 1, true⟩)

/-- `advance_depth_window`. -/
def advance (codec : BookCodec) (window : DepthWindow) (cursor : WindowCursor) :
    Result (Option AppliedDepthWindowEvent × WindowCursor) :=
  window.advanceLoop codec (window.events.drop cursor.nextEvent) cursor

/-- `while current.is_some()`, on a budget. -/
def drain (codec : BookCodec) (window : DepthWindow) :
    Nat → Option AppliedDepthWindowEvent × WindowCursor → Result Unit
  | _, (none, _) => .ok ()
  | 0, (some _, _) => .error .abort
  | budget + 1, (some _, cursor) => do
    let head ← window.advance codec cursor
    window.drain codec budget head

/-- The loop of `replay_depth_window_through`. -/
def replayLoop (codec : BookCodec) (window : DepthWindow) :
    List DepthWindowEvent → LocalOrderBook → Bool → Result (LocalOrderBook × Bool)
  | [], book, liveStarted => .ok (book, liveStarted)
  | event :: rest, book, liveStarted => do
    let (outcome, book) ← window.applyEvent codec event book liveStarted
    match outcome with
    | .old => window.replayLoop codec rest book liveStarted
    | .applied => window.replayLoop codec rest book true

/-- `replay_depth_window_through`. -/
def replayThrough (codec : BookCodec) (snapshot : RawRecordEnvelopeV1) (window : DepthWindow)
    (throughEvent : Nat) : Result LocalOrderBook := do
  let book ← snapshotBook codec snapshot.frame.symbol snapshot.frame.payload
  let (book, liveStarted) ←
    window.replayLoop codec (window.events.take (throughEvent + 1)) book false
  if liveStarted = false then err "depth window never reached LIVE" else .ok book

end DepthWindow

/-! ## The replay of a window -/

/-- The updates of a window that apply, each with the book behind it. -/
def appliedBooks (codec : BookCodec) (window : DepthWindow) :
    List DepthWindowEvent → Nat → LocalOrderBook → Bool →
    Result (List (AppliedDepthWindowEvent × LocalOrderBook))
  | [], _, _, _ => .ok []
  | event :: rest, index, book, liveStarted => do
    let (outcome, book) ← window.applyEvent codec event book liveStarted
    match outcome with
    | .old => appliedBooks codec window rest (index + 1) book liveStarted
    | .applied => do
      let later ← appliedBooks codec window rest (index + 1) book true
      .ok ((⟨index, event.firstSequence, event.finalSequence⟩, book) :: later)

structure WindowReplay where
  window : DepthWindow
  applied : List (AppliedDepthWindowEvent × LocalOrderBook)

def replayDepthWindow (codec : BookCodec) (snapshot : RawRecordEnvelopeV1)
    (records : List RawRecordEnvelopeV1) : Result WindowReplay := do
  let window ← prepareDepthWindow codec snapshot records
  let book ← snapshotBook codec window.identity.1 snapshot.frame.payload
  let applied ← appliedBooks codec window window.events 0 book false
  .ok { window, applied }

/-! ## Updates -/

section

variable {codec : BookCodec} {book next : LocalOrderBook} {payload : Bytes}
  {firstSequence finalSequence : UInt64} {value : Value}

theorem bookIds_final {firstId finalId expected : UInt64}
    (h : book.depthIds value = .ok (firstId, finalId, expected)) :
    value.u64Field "u" = some finalId := by
  obtain ⟨-, h⟩ := ite_err_eq_ok.mp h
  obtain ⟨_, -, h⟩ := bind_eq_ok.mp h
  obtain ⟨-, h⟩ := ite_err_eq_ok.mp h
  obtain ⟨_, -, h⟩ := bind_eq_ok.mp h
  obtain ⟨-, h⟩ := ite_err_eq_ok.mp h
  obtain ⟨first, -, h⟩ := bind_eq_ok.mp h
  obtain ⟨final, hfinal, h⟩ := bind_eq_ok.mp h
  obtain ⟨-, h⟩ := ite_err_eq_ok.mp h
  obtain ⟨position, -, h⟩ := bind_eq_ok.mp h
  obtain ⟨-, rfl, -⟩ : first = firstId ∧ final = finalId ∧ position = expected := by
    simpa using h
  exact okOr_eq_ok.mp hfinal

/-- The final sequence a window reads of an update is the book's. -/
theorem depthIds_final (hparsed : codec.fromSlice payload = .ok value)
    (h : depthIds codec payload = .ok (firstSequence, finalSequence)) :
    value.u64Field "u" = some finalSequence := by
  obtain ⟨other, hother, h⟩ := bind_eq_ok.mp h
  obtain rfl := Except.ok.inj (hparsed.symm.trans (strictObject_eq_ok.mp hother).1)
  obtain ⟨-, h⟩ := ite_err_eq_ok.mp h
  obtain ⟨first, -, h⟩ := bind_eq_ok.mp h
  obtain ⟨final, hfinal, h⟩ := bind_eq_ok.mp h
  obtain ⟨-, rfl⟩ : first = firstSequence ∧ final = finalSequence := by
    simpa using h
  exact okOr_eq_ok.mp hfinal

/-- **Step.** An update that applies moves the book forward, to its final sequence. -/
theorem applyDepth_moves (h : book.applyDepth codec payload = (.ok .applied, next))
    (hids : depthIds codec payload = .ok (firstSequence, finalSequence)) :
    (∃ last, book.lastUpdateId = some last ∧ last.toNat < finalSequence.toNat) ∧
      next.lastUpdateId = some finalSequence := by
  rcases LocalOrderBook.applyDepth_cases codec book payload with ⟨e, hcase⟩ | ⟨e, hcase⟩ | hcase |
    ⟨finalId, bids, asks, hbridges, hcase⟩
  · rw [hcase] at h
    cases h
  · rw [hcase] at h
    cases h
  · rw [hcase] at h
    cases h
  obtain ⟨_, value, firstId, expected, hcall, hparsed, hbook, -, hle, -⟩ := hbridges
  cases hcall
  obtain rfl : finalId = finalSequence :=
    Option.some.inj ((bookIds_final hbook).symm.trans (depthIds_final hparsed hids))
  refine ⟨?_, ?_⟩
  · obtain ⟨last, hlast, hexpected⟩ := bind_eq_ok.mp (LocalOrderBook.depthIds_eq_ok hbook).2.2
    obtain ⟨hmax, hexpected⟩ := ite_err_eq_ok.mp hexpected
    obtain rfl := Except.ok.inj hexpected
    refine ⟨last, okOr_eq_ok.mp hlast, ?_⟩
    have hne : last.toNat ≠ 2 ^ 64 - 1 := fun heq => hmax (UInt64.toNat_inj.mp heq)
    have hlt := last.toNat_lt
    rw [UInt64.le_iff_toNat_le, UInt64.toNat_add] at hle
    change (last.toNat + 1) % 2 ^ 64 ≤ _ at hle
    omega
  · -- the check of the levels changes no position
    rw [hcase] at h
    have hnext : (book.applyLevels codec finalId bids asks).2 = next := congrArg Prod.snd h
    rw [LocalOrderBook.applyLevels_snd] at hnext
    rcases LocalOrderBook.checkInvariants_cases (book.updated codec finalId bids asks) with
      ⟨e, hcheck, -⟩ | ⟨e, hcheck, -⟩ | ⟨hcheck, -⟩
    all_goals
      rw [hcheck] at hnext
      rw [← hnext]
      rfl

theorem stateDigest_of_sameState {other : LocalOrderBook} (h : book.sameState other = true) :
    book.stateDigest codec = other.stateDigest codec := by
  simp only [LocalOrderBook.sameState, decide_eq_true_eq] at h
  obtain ⟨hsymbol, -, hlast, hbids, hasks⟩ := h
  rw [LocalOrderBook.stateDigest, LocalOrderBook.stateDigest, hsymbol, hlast, hbids, hasks]

end

/-! ## Events -/

def DepthWindow.Read (codec : BookCodec) (window : DepthWindow) (event : DepthWindowEvent) : Prop :=
  ∃ record, window.recordAt event.recordIndex = .ok record ∧
    depthIds codec record.frame.payload = .ok (event.firstSequence, event.finalSequence)

/-- The events of the records `back` behind the records `front`. -/
theorem depthWindowEvents_read {codec : BookCodec} {front back : List RawRecordEnvelopeV1}
    {events : List DepthWindowEvent}
    (h : depthWindowEvents codec front.length back = .ok events) :
    ∀ event ∈ events, ∃ record, (front ++ back)[event.recordIndex]? = some record ∧
      depthIds codec record.frame.payload = .ok (event.firstSequence, event.finalSequence) := by
  induction back generalizing front events with
  | nil =>
    obtain rfl := Except.ok.inj h
    simp
  | cons record rest ih =>
    have hfront : front ++ record :: rest = (front ++ [record]) ++ rest := by simp
    have hlength : front.length + 1 = (front ++ [record]).length := by simp
    obtain ⟨shutdown, -, h⟩ := bind_eq_ok.mp h
    rw [hlength] at h
    rcases shutdown with _ | _
    · obtain ⟨⟨firstSequence, finalSequence⟩, hids, h⟩ := bind_eq_ok.mp h
      obtain ⟨later, hlater, h⟩ := bind_eq_ok.mp h
      obtain rfl := Except.ok.inj h
      intro event hevent
      rcases List.mem_cons.mp hevent with rfl | hevent
      · exact ⟨record, by simp, hids⟩
      · rw [hfront]
        exact ih hlater event hevent
    · rw [hfront]
      exact ih h

variable {codec : BookCodec} {snapshot : RawRecordEnvelopeV1} {records : List RawRecordEnvelopeV1}

/-- **Inversion.** What a window went through that is prepared. -/
theorem prepareDepthWindow_eq_ok {window : DepthWindow}
    (h : prepareDepthWindow codec snapshot records = .ok window) :
    window.records = records ∧ snapshot.frame.symbol = window.identity.1 ∧
      ∀ event ∈ window.events, window.Read codec event := by
  obtain ⟨common, -, h⟩ := bind_eq_ok.mp h
  obtain ⟨⟨⟩, -, h⟩ := bind_eq_ok.mp h
  obtain ⟨hmismatch, h⟩ := ite_err_eq_ok.mp h
  obtain ⟨events, hevents, h⟩ := bind_eq_ok.mp h
  obtain rfl := Except.ok.inj h
  simp only [not_or, ne_eq, not_not] at hmismatch
  refine ⟨rfl, hmismatch.2, fun event hevent => ?_⟩
  obtain ⟨record, hrecord, hids⟩ := @depthWindowEvents_read codec [] records _ hevents event hevent
  rw [List.nil_append] at hrecord
  exact ⟨record, by rw [DepthWindow.recordAt, hrecord], hids⟩

/-! ## One replay -/

section

variable {codec : BookCodec} {window : DepthWindow} {event : DepthWindowEvent}
  {events : List DepthWindowEvent} {book next : LocalOrderBook} {liveStarted : Bool}
  {outcome : ApplyOutcome} {index : Nat}
  {applied : List (AppliedDepthWindowEvent × LocalOrderBook)}
  {update : AppliedDepthWindowEvent × LocalOrderBook}

/-- **Inversion.** An event that is not refused: an old one finds the window not live and leaves
    its book. -/
theorem applyEvent_eq_ok (h : window.applyEvent codec event book liveStarted = .ok (outcome, next)) :
    ∃ record, window.recordAt event.recordIndex = .ok record ∧
      book.applyDepth codec record.frame.payload = (.ok outcome, next) ∧
      (outcome = .old → liveStarted = false ∧ next = book) := by
  obtain ⟨record, hrecord, h⟩ := bind_eq_ok.mp h
  refine ⟨record, hrecord, ?_⟩
  rcases hcall : book.applyDepth codec record.frame.payload with ⟨e | _ | _, after⟩
  · simp [hcall] at h
  · simp only [hcall, Except.ok.injEq, Prod.mk.injEq] at h
    obtain ⟨rfl, rfl⟩ := h
    exact ⟨rfl, fun hold => nomatch hold⟩
  · simp only [hcall] at h
    obtain ⟨hlive, h⟩ := ite_err_eq_ok.mp h
    obtain ⟨rfl, rfl⟩ := Prod.mk.inj (Except.ok.inj h)
    refine ⟨rfl, fun _ => ⟨by simpa using hlive, ?_⟩⟩
    rcases LocalOrderBook.applyDepth_cases codec book record.frame.payload with
      ⟨e, hcase⟩ | ⟨e, hcase⟩ | hcase | ⟨finalId, bids, asks, -, hcase⟩
    · rw [hcase] at hcall
      cases hcall
    · rw [hcase] at hcall
      cases hcall
    · rw [hcase] at hcall
      cases hcall
      rfl
    · rw [hcase] at hcall
      have hresult : (book.applyLevels codec finalId bids asks).1 = .ok .old :=
        congrArg Prod.fst hcall
      obtain ⟨_, -, hold⟩ := map_eq_ok.mp hresult
      cases hold

/-- **Step.** An event that applies moves the book to its final sequence. -/
theorem applyEvent_moves (h : window.applyEvent codec event book liveStarted = .ok (.applied, next))
    (hread : window.Read codec event) :
    (∃ last, book.lastUpdateId = some last ∧ last.toNat < event.finalSequence.toNat) ∧
      next.lastUpdateId = some event.finalSequence := by
  obtain ⟨record, hrecord, hcall, -⟩ := applyEvent_eq_ok h
  obtain ⟨other, hother, hids⟩ := hread
  obtain rfl := Except.ok.inj (hrecord.symm.trans hother)
  exact applyDepth_moves hcall hids

theorem applyEvent_exact (h : window.applyEvent codec event book liveStarted = .ok (outcome, next))
    (hexact : book.Exact codec) : next.Exact codec := by
  obtain ⟨record, -, hcall, -⟩ := applyEvent_eq_ok h
  have hstep := LocalOrderBook.applyDepth_exact hexact record.frame.payload
  rwa [hcall] at hstep

/-- **Run.** The books of a replay are exact. -/
theorem appliedBooks_exact (h : appliedBooks codec window events index book liveStarted = .ok applied)
    (hexact : book.Exact codec) : ∀ update ∈ applied, update.2.Exact codec := by
  induction events generalizing index book liveStarted applied with
  | nil =>
    obtain rfl := Except.ok.inj h
    simp
  | cons event rest ih =>
    obtain ⟨⟨outcome, next⟩, hevent, h⟩ := bind_eq_ok.mp h
    have hnext := applyEvent_exact hevent hexact
    rcases outcome with _ | _
    · obtain ⟨later, hlater, h⟩ := bind_eq_ok.mp h
      obtain rfl := Except.ok.inj h
      exact List.forall_mem_cons.mpr ⟨hnext, ih hlater hnext⟩
    · exact ih h hnext

/-- **Run.** The final sequences of a replay increase, from behind the book's position on. -/
theorem appliedBooks_increasing
    (h : appliedBooks codec window events index book liveStarted = .ok applied)
    (hread : ∀ event ∈ events, window.Read codec event) :
    (∀ update ∈ applied, ∃ last, book.lastUpdateId = some last ∧
      last.toNat < update.1.finalSequence.toNat) ∧
    Increasing (fun update => update.1.finalSequence.toNat) applied := by
  induction events generalizing index book liveStarted applied with
  | nil =>
    obtain rfl := Except.ok.inj h
    exact ⟨by simp, List.Pairwise.nil⟩
  | cons event rest ih =>
    have hrest := fun e he => hread e (List.mem_cons_of_mem _ he)
    obtain ⟨⟨outcome, next⟩, hevent, htail⟩ := bind_eq_ok.mp h
    rcases outcome with _ | _
    · obtain ⟨later, hlater, htail⟩ := bind_eq_ok.mp htail
      obtain rfl := Except.ok.inj htail
      obtain ⟨⟨last, hlast, hlt⟩, hmoved⟩ :=
        applyEvent_moves hevent (hread event List.mem_cons_self)
      obtain ⟨hbehind, hincreasing⟩ := ih hlater hrest
      have habove : ∀ update ∈ later,
          event.finalSequence.toNat < update.1.finalSequence.toNat := by
        intro update hupdate
        obtain ⟨position, hposition, hlt⟩ := hbehind update hupdate
        rw [hmoved, Option.some.injEq] at hposition
        rwa [hposition]
      refine ⟨List.forall_mem_cons.mpr ⟨⟨last, hlast, hlt⟩, fun update hupdate => ?_⟩,
        List.pairwise_cons.mpr ⟨habove, hincreasing⟩⟩
      exact ⟨last, hlast, hlt.trans (habove update hupdate)⟩
    · obtain ⟨-, -, -, hold⟩ := applyEvent_eq_ok hevent
      obtain ⟨-, rfl⟩ := hold rfl
      exact ih htail hrest

/-- Where an update of a replay stands: the events up to it replay to its book, and those behind
    it go on from there. -/
structure StandsAt (codec : BookCodec) (window : DepthWindow) (events : List DepthWindowEvent)
    (index : Nat) (book : LocalOrderBook) (liveStarted : Bool)
    (update : AppliedDepthWindowEvent × LocalOrderBook) (front back : List DepthWindowEvent)
    (event : DepthWindowEvent) : Prop where
  events_eq : events = front ++ event :: back
  update_eq : update.1 = ⟨index + front.length, event.firstSequence, event.finalSequence⟩
  upto : window.replayLoop codec (front ++ [event]) book liveStarted = .ok (update.2, true)
  behind : ∃ later, appliedBooks codec window back (index + front.length + 1) update.2 true
    = .ok later
  position : window.Read codec event → update.2.lastUpdateId = some event.finalSequence

theorem standsAt_of_mem
    (h : appliedBooks codec window events index book liveStarted = .ok applied)
    (hmem : update ∈ applied) :
    ∃ front back event, StandsAt codec window events index book liveStarted update front back
      event := by
  induction events generalizing index book liveStarted applied with
  | nil =>
    obtain rfl := Except.ok.inj h
    cases hmem
  | cons event rest ih =>
    obtain ⟨⟨outcome, next⟩, hevent, h⟩ := bind_eq_ok.mp h
    -- an update behind the event stands one event later
    have hshift : ∀ live applied, appliedBooks codec window rest (index + 1) next live = .ok applied →
        update ∈ applied → (∀ back, window.replayLoop codec (event :: back) book liveStarted
          = window.replayLoop codec back next live) →
        ∃ front back event', StandsAt codec window (event :: rest) index book liveStarted update
          front back event' := by
      intro live applied hlater hmem hstep
      obtain ⟨front, back, event', hstands⟩ := ih hlater hmem
      have hlength : index + 1 + front.length = index + (event :: front).length := by
        rw [List.length_cons]
        omega
      obtain ⟨hevents, hupdate, hupto, hbehind, hposition⟩ := hstands
      rw [hlength] at hupdate hbehind
      refine ⟨event :: front, back, event', ⟨?_, hupdate, ?_, hbehind, hposition⟩⟩
      · rw [hevents, List.cons_append]
      · rw [List.cons_append, hstep, hupto]
    rcases outcome with _ | _
    · obtain ⟨later, hlater, h⟩ := bind_eq_ok.mp h
      obtain rfl := Except.ok.inj h
      have hstep : ∀ back, window.replayLoop codec (event :: back) book liveStarted
          = window.replayLoop codec back next true := by
        intro back
        rw [DepthWindow.replayLoop, hevent]
        rfl
      rcases List.mem_cons.mp hmem with rfl | hmem
      · refine ⟨[], rest, event, ⟨rfl, rfl, hstep [], ⟨later, hlater⟩, fun hread => ?_⟩⟩
        exact (applyEvent_moves hevent hread).2
      · exact hshift true later hlater hmem hstep
    · refine hshift liveStarted applied h hmem fun back => ?_
      rw [DepthWindow.replayLoop, hevent]
      rfl

end

/-! ## The source of a window -/

namespace DepthWindow

variable {codec : BookCodec} {window : DepthWindow} {cursor : WindowCursor}
  {head : Option AppliedDepthWindowEvent × WindowCursor}
  {yielded : List (AppliedDepthWindowEvent × WindowCursor)}
  {applied : List (AppliedDepthWindowEvent × LocalOrderBook)} {budget : Nat}

/-- What is left of a replay. -/
def remaining (codec : BookCodec) (window : DepthWindow) (cursor : WindowCursor) :
    Result (List (AppliedDepthWindowEvent × LocalOrderBook)) :=
  appliedBooks codec window (window.events.drop cursor.nextEvent) cursor.nextEvent cursor.book
    cursor.liveStarted

def withBook (update : AppliedDepthWindowEvent × WindowCursor) :
    AppliedDepthWindowEvent × LocalOrderBook :=
  (update.1, update.2.book)

theorem drop_of_cons {event : DepthWindowEvent} {rest : List DepthWindowEvent} {next : Nat}
    (h : window.events.drop next = event :: rest) : window.events.drop (next + 1) = rest := by
  rw [← List.tail_drop, h]
  rfl

theorem yields_of_remaining (h : window.remaining codec cursor = .ok applied) :
    ∃ head yielded, window.advance codec cursor = .ok head ∧
      Yields (window.advance codec) head yielded ∧ applied = yielded.map withBook := by
  unfold remaining at h
  unfold advance
  generalize hevents : window.events.drop cursor.nextEvent = events at h ⊢
  induction events generalizing cursor applied with
  | nil =>
    obtain rfl := Except.ok.inj h
    exact ⟨(none, cursor), [], rfl, .done cursor, rfl⟩
  | cons event rest ih =>
    obtain ⟨⟨outcome, next⟩, hevent, htail⟩ := bind_eq_ok.mp h
    have hrest := drop_of_cons hevents
    rw [advanceLoop, hevent]
    rcases outcome with _ | _
    · obtain ⟨later, hlater, htail⟩ := bind_eq_ok.mp htail
      obtain rfl := Except.ok.inj htail
      obtain ⟨head, yielded, hadvance, hyields, rfl⟩ :=
        @ih ⟨next, cursor.nextEvent + 1, true⟩ later hrest hlater
      rw [← hrest] at hadvance
      exact ⟨_, _, rfl, .more hadvance hyields, rfl⟩
    · exact @ih { cursor with book := next, nextEvent := cursor.nextEvent + 1 } applied hrest htail

theorem remaining_of_yields (hadvance : window.advance codec cursor = .ok head)
    (hyields : Yields (window.advance codec) head yielded) :
    window.remaining codec cursor = .ok (yielded.map withBook) := by
  unfold remaining
  unfold advance at hadvance
  generalize hevents : window.events.drop cursor.nextEvent = events at hadvance ⊢
  induction events generalizing cursor head yielded with
  | nil =>
    obtain rfl := Except.ok.inj hadvance
    cases hyields
    rfl
  | cons event rest ih =>
    have hrest := drop_of_cons hevents
    obtain ⟨⟨outcome, next⟩, hevent, htail⟩ := bind_eq_ok.mp hadvance
    rw [appliedBooks, hevent]
    rcases outcome with _ | _
    · obtain rfl := Except.ok.inj htail
      rcases hyields with _ | ⟨hnext, hlater⟩
      unfold advance at hnext
      rw [show window.events.drop (cursor.nextEvent + 1) = rest from hrest] at hnext
      show (appliedBooks codec window rest (cursor.nextEvent + 1) next true >>= _) = _
      rw [ih hlater hrest hnext]
      rfl
    · exact @ih { cursor with book := next, nextEvent := cursor.nextEvent + 1 } head yielded hyields
        hrest htail

/-- A replay has no more updates than events. -/
theorem appliedBooks_length {events : List DepthWindowEvent} {index : Nat} {book : LocalOrderBook}
    {liveStarted : Bool}
    (h : appliedBooks codec window events index book liveStarted = .ok applied) :
    applied.length ≤ events.length := by
  induction events generalizing index book liveStarted applied with
  | nil =>
    obtain rfl := Except.ok.inj h
    exact Nat.le_refl _
  | cons event rest ih =>
    obtain ⟨⟨outcome, next⟩, -, htail⟩ := bind_eq_ok.mp h
    rw [List.length_cons]
    rcases outcome with _ | _
    · obtain ⟨later, hlater, htail⟩ := bind_eq_ok.mp htail
      obtain rfl := Except.ok.inj htail
      exact Nat.succ_le_succ (ih hlater)
    · exact Nat.le_succ_of_le (ih htail)

theorem drain_of_yields (h : Yields (window.advance codec) head yielded)
    (hbudget : yielded.length ≤ budget) : window.drain codec budget head = .ok () := by
  induction h generalizing budget with
  | done => rw [drain]
  | more hadvance rest ih =>
    rw [List.length_cons] at hbudget
    obtain ⟨budget, rfl⟩ := Nat.exists_eq_add_one_of_ne_zero (show budget ≠ 0 by omega)
    rw [drain, hadvance]
    exact ih (Nat.le_of_succ_le_succ hbudget)

@[inherit_doc drain_of_yields]
theorem yields_of_drain (h : window.drain codec budget head = .ok ()) :
    ∃ yielded, Yields (window.advance codec) head yielded := by
  induction budget generalizing head with
  | zero =>
    rcases head with ⟨_ | update, cursor⟩
    · exact ⟨[], .done cursor⟩
    · cases h
  | succ budget ih =>
    rcases head with ⟨_ | update, cursor⟩
    · exact ⟨[], .done cursor⟩
    · obtain ⟨next, hnext, h⟩ := bind_eq_ok.mp h
      obtain ⟨later, hlater⟩ := ih h
      exact ⟨_, .more hnext hlater⟩

end DepthWindow

/-! ## Replays of whole windows -/

structure Replayed (codec : BookCodec) (snapshot : RawRecordEnvelopeV1) (book : LocalOrderBook)
    (replay : WindowReplay) : Prop where
  book_eq : snapshotBook codec snapshot.frame.symbol snapshot.frame.payload = .ok book
  applied_eq : appliedBooks codec replay.window replay.window.events 0 book false
    = .ok replay.applied
  read : ∀ event ∈ replay.window.events, replay.window.Read codec event

theorem snapshotBook_exact {symbol : String} {payload : Bytes} {book : LocalOrderBook}
    (h : snapshotBook codec symbol payload = .ok book) : book.Exact codec := by
  obtain ⟨start, -, h⟩ := bind_eq_ok.mp h
  obtain ⟨id, hid, h⟩ := bind_eq_ok.mp h
  obtain rfl := Except.ok.inj h
  exact LocalOrderBook.loadSnapshot_exact (Prod.ext hid rfl)

theorem replayDepthWindow_eq_ok {replay : WindowReplay}
    (h : replayDepthWindow codec snapshot records = .ok replay) :
    prepareDepthWindow codec snapshot records = .ok replay.window ∧
      snapshot.frame.symbol = replay.window.identity.1 ∧
      ∃ book, Replayed codec snapshot book replay := by
  obtain ⟨window, hwindow, h⟩ := bind_eq_ok.mp h
  obtain ⟨book, hbook, h⟩ := bind_eq_ok.mp h
  obtain ⟨applied, happlied, h⟩ := bind_eq_ok.mp h
  obtain rfl := Except.ok.inj h
  obtain ⟨-, hsymbol, hread⟩ := prepareDepthWindow_eq_ok hwindow
  rw [← hsymbol] at hbook
  exact ⟨hwindow, hsymbol, book, hbook, happlied, hread⟩

namespace Replayed

variable {codec : BookCodec} {snapshot : RawRecordEnvelopeV1} {book : LocalOrderBook}
  {replay : WindowReplay} {update : AppliedDepthWindowEvent × LocalOrderBook}

section

variable (h : Replayed codec snapshot book replay)
include h

section

variable (hmem : update ∈ replay.applied)
include hmem

theorem exact : update.2.Exact codec :=
  appliedBooks_exact h.applied_eq (snapshotBook_exact h.book_eq) update hmem

theorem replayThrough_eq :
    replay.window.replayThrough codec snapshot update.1.eventIndex = .ok update.2 := by
  obtain ⟨front, back, event, hevents, hupdate, hupto, -⟩ := standsAt_of_mem h.applied_eq hmem
  have hindex : update.1.eventIndex + 1 = (front ++ [event]).length := by
    rw [hupdate, List.length_append]
    show 0 + front.length + 1 = _
    rw [Nat.zero_add]
    rfl
  have hsplit : front ++ event :: back = (front ++ [event]) ++ back := by simp
  have htake : replay.window.events.take (update.1.eventIndex + 1) = front ++ [event] := by
    rw [hevents, hsplit, hindex, List.take_left]
  rw [DepthWindow.replayThrough, h.book_eq, htake]
  show (replay.window.replayLoop codec (front ++ [event]) book false >>= _) = _
  rw [hupto]
  rfl

theorem eventRecord_isOk :
    ∃ record, replay.window.eventRecord update.1.eventIndex = .ok record := by
  obtain ⟨front, back, event, hevents, hupdate, -⟩ := standsAt_of_mem h.applied_eq hmem
  have hevent : replay.window.events[update.1.eventIndex]? = some event := by
    rw [hevents, hupdate]
    simp
  obtain ⟨record, hrecord, -⟩ := h.read event (List.mem_of_getElem? hevent)
  refine ⟨record, ?_⟩
  rw [DepthWindow.eventRecord, hevent]
  exact hrecord

theorem next_of_max (hmax : update.1.finalSequence = maxU64) :
    replay.window.events[update.1.eventIndex + 1]? = none := by
  obtain ⟨front, back, event, hevents, hupdate, -, ⟨later, hlater⟩, hposition⟩ :=
    standsAt_of_mem h.applied_eq hmem
  have hread := h.read event (by rw [hevents]; simp)
  rcases back with _ | ⟨next, back⟩
  · rw [hevents, hupdate]
    simp
  -- the next event would have to be old, or to move the book behind its end
  obtain ⟨⟨outcome, after⟩, hnext, -⟩ := bind_eq_ok.mp hlater
  rcases outcome with _ | _
  · obtain ⟨⟨last, hlast, hlt⟩, -⟩ := applyEvent_moves hnext (h.read next (by rw [hevents]; simp))
    rw [hposition hread, Option.some.injEq] at hlast
    rw [hupdate] at hmax
    rw [← hlast, show event.finalSequence = maxU64 from hmax] at hlt
    have hle := toNat_le_u64Max next.finalSequence
    rw [maxU64_toNat] at hlt
    omega
  · obtain ⟨-, -, -, hold⟩ := applyEvent_eq_ok hnext
    cases (hold rfl).1

end

end

end Replayed

end LobReplay.Observation
