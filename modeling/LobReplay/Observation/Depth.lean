/-
  The three depth replays. A cursor fed slice by slice and the window run the same loop: they agree
  on the observations, and the cursor fails exactly where the window fails for another reason than
  having no observation.

  The file materialiser has no case for `serverShutdown` control frames, so it returns the window's
  observations exactly if the log holds none.
-/

import LobReplay.Book.Live
import LobReplay.Observation.Reason
import LobReplay.Observation.Trade
import LobReplay.Raw.Range

namespace LobReplay.Observation

open Foundation Book
open Raw (RawRecordEnvelopeV1 RawCodec readRawRecords scanRawLog)

/-! ## Slices -/

namespace DepthObservationCursor

variable {codec : BookCodec}

/-- Two slices are one. -/
theorem applySlice_append (cursor : DepthObservationCursor) (xs ys : List RawRecordEnvelopeV1) :
    cursor.applySlice codec (xs ++ ys) = (do
      let (first, cursor) ← cursor.applySlice codec xs
      let (later, cursor) ← cursor.applySlice codec ys
      .ok (first ++ later, cursor)) := by
  induction xs generalizing cursor with
  | nil =>
    show cursor.applySlice codec ys = (cursor.applySlice codec ys >>= _)
    rcases cursor.applySlice codec ys with e | ⟨observations, next⟩ <;> rfl
  | cons record rest ih =>
    rw [List.cons_append, applySlice, applySlice]
    rcases cursor.applyRecord codec record with ⟨e | observation, next⟩
    · rfl
    · simp only [ih]
      rcases next.applySlice codec rest with e | ⟨first, middle⟩
      · rfl
      show ((middle.applySlice codec ys >>= _) >>= _) = (middle.applySlice codec ys >>= _)
      rcases middle.applySlice codec ys with e | ⟨later, last⟩
      · rfl
      · show Except.ok (_ ++ (first ++ later), last) = Except.ok (_ ++ first ++ later, last)
        rw [List.append_assoc]

/-- **The partition into slices does not matter.** -/
theorem applySlices_eq (cursor : DepthObservationCursor) (slices : List (List RawRecordEnvelopeV1)) :
    cursor.applySlices codec slices = cursor.applySlice codec slices.flatten := by
  induction slices generalizing cursor with
  | nil => rfl
  | cons slice rest ih =>
    rw [List.flatten_cons, applySlice_append, applySlices]
    simp only [ih]

/-! ## Cursor and window -/

/-- The cursor stands where the window's loop does. -/
structure Mirrors (identity : RecordIdentity) (book : LocalOrderBook)
    (observations : List CanonicalObservationV1) (cursor : DepthObservationCursor) : Prop where
  identity_eq : cursor.identity = identity
  book_eq : cursor.book = book
  live_iff : cursor.liveStarted = true ↔ observations ≠ []

/-- **Run.** The window's loop and the cursor have the same observations, or both fail. -/
theorem applySlice_mirrors (codec : BookCodec) {identity : RecordIdentity} {records : List RawRecordEnvelopeV1}
    (hrecords : ∀ record ∈ records, recordIdentity record = identity) {book : LocalOrderBook}
    {observations : List CanonicalObservationV1} {cursor : DepthObservationCursor}
    (h : Mirrors identity book observations cursor) :
    (depthWindowLoop codec identity records book observations).toOption
      = (cursor.applySlice codec records).toOption.map fun result => observations ++ result.1 := by
  induction records generalizing book observations cursor with
  | nil => simp [depthWindowLoop, applySlice, Except.toOption]
  | cons record rest ih =>
    have hrest : ∀ r ∈ rest, recordIdentity r = identity :=
      fun r hr => hrecords r (List.mem_cons_of_mem _ hr)
    have hidentity : ¬ recordIdentity record ≠ cursor.identity := by
      rw [not_not, h.identity_eq]
      exact hrecords record List.mem_cons_self
    unfold depthWindowLoop applySlice applyRecord
    rw [if_neg hidentity]
    rcases serverShutdownPayload codec record.frame.payload with e | _ | _
    · rfl
    swap
    · -- a control frame moves neither
      simp only [ih hrest h]
      rcases cursor.applySlice codec rest with e | ⟨added, next⟩ <;> rfl
    dsimp only
    rcases depthIds codec record.frame.payload with e | ⟨firstSequence, finalSequence⟩
    · rfl
    dsimp only
    rw [h.book_eq]
    rcases book.applyDepth codec record.frame.payload with ⟨e | _ | _, next⟩
    · rfl
    · -- an update is observed by both
      simp only
      have hnext : Mirrors identity next
          (observations ++ [observationOf identity .depth record firstSequence finalSequence
            (next.stateDigest codec)]) { cursor with book := next, liveStarted := true } :=
        ⟨h.identity_eq, rfl, by simp⟩
      rw [ih hrest hnext, h.identity_eq]
      rcases applySlice codec { cursor with book := next, liveStarted := true } rest with
        e | ⟨added, last⟩
      · rfl
      · simp [Except.toOption, bind, Except.bind]
    · -- an old update is refused by both once there are observations
      simp only
      by_cases hlive : cursor.liveStarted = true
      · rw [if_pos (h.live_iff.mp hlive), if_pos hlive]
        rfl
      · have hnil : ¬ observations ≠ [] := fun hne => hlive (h.live_iff.mpr hne)
        rw [if_neg hnil, if_neg hlive]
        dsimp only
        have hnext : Mirrors identity next observations { cursor with book := next } :=
          ⟨h.identity_eq, rfl, h.live_iff⟩
        rw [ih hrest hnext]
        rcases applySlice codec { cursor with book := next } rest with e | ⟨added, last⟩ <;> rfl

end DepthObservationCursor

/-- A cursor from the snapshot, fed slice by slice. -/
def cursorReplay (codec : BookCodec) (snapshot first : RawRecordEnvelopeV1)
    (slices : List (List RawRecordEnvelopeV1)) : Result (List CanonicalObservationV1) := do
  let cursor ← DepthObservationCursor.fromSnapshot codec snapshot first
  let (observations, _) ← cursor.applySlices codec slices
  .ok observations

/-- What the claims of a window and of a cursor over the same records come to. -/
structure CursorAgrees (codec : BookCodec) (snapshot first : RawRecordEnvelopeV1)
    (records : List RawRecordEnvelopeV1) (slices : List (List RawRecordEnvelopeV1)) : Prop where
  observations : ∀ observations, materializeDepthRecordWindow codec snapshot records
    = .ok observations → cursorReplay codec snapshot first slices = .ok observations
  fails_iff : (∃ e, cursorReplay codec snapshot first slices = .error e) ↔
    ∃ e, materializeDepthRecordWindow codec snapshot records = .error e ∧ e ≠ .err neverLive

section

variable {codec : BookCodec} {snapshot first : RawRecordEnvelopeV1}
  {records : List RawRecordEnvelopeV1} {slices : List (List RawRecordEnvelopeV1)}
  {common : RecordIdentity}

theorem cursorAgrees_of_errors {e e' : Failure}
    (hcursor : cursorReplay codec snapshot first slices = .error e)
    (hwindow : materializeDepthRecordWindow codec snapshot records = .error e')
    (hreason : e' ≠ .err neverLive) : CursorAgrees codec snapshot first records slices := by
  refine ⟨fun observations h => ?_, iff_of_true ⟨e, hcursor⟩ ⟨e', hwindow, hreason⟩⟩
  rw [hwindow] at h
  cases h

def snapshotBook (codec : BookCodec) (symbol : String) (payload : Bytes) : Result LocalOrderBook := do
  let book ← LocalOrderBook.new symbol
  let _ ← (book.loadSnapshot codec payload).1
  .ok (book.loadSnapshot codec payload).2

theorem apart_snapshotBook (symbol : String) (payload : Bytes) :
    Apart (snapshotBook codec symbol payload) :=
  apart_bind (LocalOrderBook.apart_new symbol) fun book =>
    apart_bind (LocalOrderBook.apart_loadSnapshot codec book payload) fun _ => apart_ok _

theorem window_eq (codec : BookCodec) (snapshot : RawRecordEnvelopeV1)
    (hidentity : identity records = .ok common)
    (hcontiguous : requireContiguousFrames records = .ok ()) :
    materializeDepthRecordWindow codec snapshot records
      = if isDepthStream common.2.1 = false ∨ snapshot.frame.symbol ≠ common.1 then
          err "depth window snapshot/stream identity mismatch"
        else
          snapshotBook codec common.1 snapshot.frame.payload >>= fun book =>
            depthWindowLoop codec common records book [] >>= fun observations =>
              if observations = [] then err neverLive else .ok observations := by
  unfold materializeDepthRecordWindow
  rw [hidentity, hcontiguous]
  refine if_congr Iff.rfl rfl ?_
  unfold snapshotBook
  rcases LocalOrderBook.new common.1 with e | book
  · rfl
  show ((book.loadSnapshot codec snapshot.frame.payload).1 >>= _)
    = (((book.loadSnapshot codec snapshot.frame.payload).1 >>= _) >>= _)
  rcases (book.loadSnapshot codec snapshot.frame.payload).1 with e | _ <;> rfl

theorem cursorReplay_eq (codec : BookCodec) (snapshot first : RawRecordEnvelopeV1)
    (slices : List (List RawRecordEnvelopeV1)) :
    cursorReplay codec snapshot first slices
      = if isDepthStream (recordIdentity first).2.1 = false ∨
            snapshot.frame.symbol ≠ (recordIdentity first).1 then
          err "depth cursor snapshot/stream identity mismatch"
        else
          snapshotBook codec (recordIdentity first).1 snapshot.frame.payload >>= fun book =>
            (DepthObservationCursor.applySlice codec ⟨first.frame.symbol, first.frame.stream,
              first.frame.connectionEpoch, book, false⟩ slices.flatten).map (·.1) := by
  unfold cursorReplay DepthObservationCursor.fromSnapshot
  simp only [DepthObservationCursor.applySlices_eq]
  by_cases hmismatch : isDepthStream first.frame.stream = false ∨
      snapshot.frame.symbol ≠ first.frame.symbol
  · have hmismatch' : isDepthStream (recordIdentity first).2.1 = false ∨
        snapshot.frame.symbol ≠ (recordIdentity first).1 := hmismatch
    rw [if_pos hmismatch, if_pos hmismatch']
    rfl
  have hmismatch' : ¬ (isDepthStream (recordIdentity first).2.1 = false ∨
      snapshot.frame.symbol ≠ (recordIdentity first).1) := hmismatch
  rw [if_neg hmismatch, if_neg hmismatch']
  show _ = (snapshotBook codec first.frame.symbol snapshot.frame.payload >>= _)
  unfold snapshotBook
  rcases LocalOrderBook.new first.frame.symbol with e | book
  · rfl
  show (((book.loadSnapshot codec snapshot.frame.payload).1 >>= _) >>= _)
    = (((book.loadSnapshot codec snapshot.frame.payload).1 >>= _) >>= _)
  rcases (book.loadSnapshot codec snapshot.frame.payload).1 with e | _
  · rfl
  · show (DepthObservationCursor.applySlice codec _ slices.flatten >>= _)
      = (DepthObservationCursor.applySlice codec _ slices.flatten).map _
    generalize DepthObservationCursor.applySlice codec _ slices.flatten = result
    rcases result with e | ⟨observations, cursor⟩ <;> rfl

/-- **A cursor fed in any slices agrees with the window.** -/
theorem cursor_agrees {rest : List RawRecordEnvelopeV1}
    (hidentity : identity (first :: rest) = .ok common)
    (hcontiguous : requireContiguousFrames (first :: rest) = .ok ())
    (hslices : slices.flatten = first :: rest) :
    CursorAgrees codec snapshot first (first :: rest) slices := by
  have hrecords := (identity_eq_ok.mp hidentity).2
  obtain rfl := hrecords first List.mem_cons_self
  have hwindow := window_eq codec snapshot hidentity hcontiguous
  have hcursor := cursorReplay_eq codec snapshot first slices
  by_cases hmismatch : isDepthStream (recordIdentity first).2.1 = false ∨
      snapshot.frame.symbol ≠ (recordIdentity first).1
  · rw [if_pos hmismatch] at hcursor hwindow
    have hreason : Unlike "depth window snapshot/stream identity mismatch" :=
      unlike_ofList (by decide)
    have hapart : Apart (materializeDepthRecordWindow codec snapshot (first :: rest)) := by
      rw [hwindow]
      exact apart_err hreason
    exact cursorAgrees_of_errors hcursor hwindow (apart_ne hapart hwindow)
  rw [if_neg hmismatch] at hcursor hwindow
  rw [hslices] at hcursor
  rcases hbook : snapshotBook codec (recordIdentity first).1 snapshot.frame.payload with e | book
  · rw [hbook] at hcursor hwindow
    exact cursorAgrees_of_errors hcursor hwindow (apart_ne (apart_snapshotBook _ _) hbook)
  rw [hbook] at hcursor hwindow
  replace hcursor : cursorReplay codec snapshot first slices
    = (DepthObservationCursor.applySlice codec _ (first :: rest)).map (·.1) := hcursor
  replace hwindow : materializeDepthRecordWindow codec snapshot (first :: rest)
    = (depthWindowLoop codec (recordIdentity first) (first :: rest) book [] >>= _) := hwindow
  -- from the same book on the two loops mirror each other
  have hmirrors : DepthObservationCursor.Mirrors (recordIdentity first) book []
      ⟨first.frame.symbol, first.frame.stream, first.frame.connectionEpoch, book, false⟩ :=
    ⟨rfl, rfl, by simp⟩
  have hloops := DepthObservationCursor.applySlice_mirrors codec hrecords hmirrors
  generalize DepthObservationCursor.applySlice codec _ (first :: rest) = applied at hcursor hloops
  rcases hloop : depthWindowLoop codec (recordIdentity first) (first :: rest) book []
    with e | observations
  · rw [hloop] at hwindow hloops
    rcases applied with e' | result
    · exact cursorAgrees_of_errors hcursor hwindow
        (apart_ne (apart_depthWindowLoop codec _ _ _ _) hloop)
    · cases hloops
  · rw [hloop] at hwindow hloops
    rcases applied with e' | ⟨added, last⟩
    · cases hloops
    obtain rfl : observations = added := Option.some.inj hloops
    replace hcursor : cursorReplay codec snapshot first slices = .ok observations := hcursor
    replace hwindow : materializeDepthRecordWindow codec snapshot (first :: rest)
      = if observations = [] then err neverLive else .ok observations := hwindow
    refine ⟨fun found hfound => ?_, iff_of_false ?_ ?_⟩
    · rw [hwindow, ite_err_eq_ok] at hfound
      rw [hcursor, hfound.2]
    · rintro ⟨e, he⟩
      rw [hcursor] at he
      cases he
    · -- the window fails here only for want of observations
      rintro ⟨e, he, hreason⟩
      rw [hwindow] at he
      split at he
      · cases he
        exact hreason rfl
      · cases he

/-- **Inversion.** What a window went through that has observations. -/
theorem window_eq_ok {observations : List CanonicalObservationV1}
    (h : materializeDepthRecordWindow codec snapshot records = .ok observations) :
    ∃ common book updateId, identity records = .ok common ∧
      isDepthStream common.2.1 = true ∧ snapshot.frame.symbol = common.1 ∧
      LocalOrderBook.new common.1 = .ok book ∧
      (book.loadSnapshot codec snapshot.frame.payload).1 = .ok updateId ∧
      depthWindowLoop codec common records (book.loadSnapshot codec snapshot.frame.payload).2 []
        = .ok observations ∧ observations ≠ [] := by
  obtain ⟨common, hidentity, h⟩ := bind_eq_ok.mp h
  obtain ⟨⟨⟩, -, h⟩ := bind_eq_ok.mp h
  obtain ⟨hmismatch, h⟩ := ite_err_eq_ok.mp h
  simp only [not_or, Bool.not_eq_false, ne_eq, not_not] at hmismatch
  obtain ⟨book, hbook, h⟩ := bind_eq_ok.mp h
  obtain ⟨updateId, hupdateId, h⟩ := bind_eq_ok.mp h
  obtain ⟨found, hfound, h⟩ := bind_eq_ok.mp h
  obtain ⟨hne, h⟩ := ite_err_eq_ok.mp h
  obtain rfl := Except.ok.inj h
  exact ⟨common, book, updateId, hidentity, hmismatch.1, hmismatch.2, hbook, hupdateId, hfound, hne⟩

end

/-! ## The file materialiser -/

section

variable {codec : BookCodec} {identity : RecordIdentity} {records : List RawRecordEnvelopeV1}
  {book : LocalOrderBook} {before : List CanonicalObservationV1}

theorem depthFileLoop_of_window {observations : List CanonicalObservationV1} (skipped : Nat)
    (hplain : ∀ record ∈ records, ¬ ControlFrame codec record)
    (h : depthWindowLoop codec identity records book before = .ok observations) :
    ∃ skipped', depthFileLoop codec identity records book before skipped
      = .ok (observations, skipped') := by
  induction records generalizing book before skipped with
  | nil =>
    obtain rfl := Except.ok.inj h
    exact ⟨skipped, rfl⟩
  | cons record rest ih =>
    have hrest : ∀ r ∈ rest, ¬ ControlFrame codec r :=
      fun r hr => hplain r (List.mem_cons_of_mem _ hr)
    unfold depthWindowLoop at h
    unfold depthFileLoop
    rcases hshutdown : serverShutdownPayload codec record.frame.payload with e | _ | _
    · simp [hshutdown] at h
    swap
    · exact absurd ((serverShutdownPayload_eq_ok hshutdown).mp rfl)
        (hplain record List.mem_cons_self)
    simp only [hshutdown] at h
    rcases hids : depthIds codec record.frame.payload with e | ⟨firstSequence, finalSequence⟩
    · simp [hids] at h
    simp only [hids] at h ⊢
    rcases hbook : book.applyDepth codec record.frame.payload with ⟨e | _ | _, next⟩
    · simp [hbook] at h
    · simp only [hbook] at h ⊢
      exact ih skipped hrest h
    · simp only [hbook] at h ⊢
      obtain ⟨hnil, h⟩ := ite_err_eq_ok.mp h
      rw [if_neg hnil]
      exact ih (skipped + 1) hrest h

theorem depthIds_control {record : RawRecordEnvelopeV1} (h : ControlFrame codec record)
    (ids : UInt64 × UInt64) : depthIds codec record.frame.payload ≠ .ok ids := by
  obtain ⟨value, hparsed, hevent⟩ := h
  intro hok
  obtain ⟨other, hother, hok⟩ := bind_eq_ok.mp hok
  obtain rfl := Except.ok.inj (hparsed.symm.trans (strictObject_eq_ok.mp hother).1)
  obtain ⟨hdepth, -⟩ := ite_err_eq_ok.mp hok
  exact hdepth (by simp [hevent])

theorem depthFileLoop_plain {skipped : Nat} {result : List CanonicalObservationV1 × Nat}
    (h : depthFileLoop codec identity records book before skipped = .ok result) :
    ∀ record ∈ records, ¬ ControlFrame codec record := by
  induction records generalizing book before skipped with
  | nil => simp
  | cons record rest ih =>
    unfold depthFileLoop at h
    rcases hids : depthIds codec record.frame.payload with e | ids
    · simp [hids] at h
    have hrest : ∀ r ∈ rest, ¬ ControlFrame codec r := by
      simp only [hids] at h
      rcases hbook : book.applyDepth codec record.frame.payload with ⟨e | _ | _, next⟩
      · simp [hbook] at h
      · simp only [hbook] at h
        exact ih h
      · simp only [hbook] at h
        exact ih (ite_err_eq_ok.mp h).2
    intro r hr
    rcases List.mem_cons.mp hr with rfl | hr
    · exact fun hcontrol => depthIds_control hcontrol ids hids
    · exact hrest r hr

end

theorem scanRawLog_of_read {raw : RawCodec} {file : File} {records : List RawRecordEnvelopeV1}
    (path : String) (h : readRawRecords raw file = .ok records) :
    ∃ scan, scanRawLog raw path file = .ok scan ∧ scan.cleanEof = true := by
  obtain ⟨reader, hmagic, h⟩ := bind_eq_ok.mp h
  obtain ⟨items, chain, hreads, -⟩ :=
    Raw.reads_of_readLoop (Raw.RawLogWriter.startChain none) (Nat.lt_succ_self _) h
  have hbytes : file.bytes = Raw.magic ++ reader := by
    unfold Raw.readMagic at hmagic
    obtain ⟨-, hmagic⟩ := ite_err_eq_ok.mp hmagic
    obtain ⟨htake, hdrop⟩ := ite_err_eq_ok.mp hmagic
    rw [← not_not.mp htake, ← Except.ok.inj hdrop]
    exact (List.take_append_drop 8 file.bytes).symm
  obtain ⟨scan, hscan, hreports⟩ :=
    Raw.scanRawLogFrom_of_reads path hbytes hreads (Or.inl rfl)
  exact ⟨scan, hscan, hreports.clean_iff.mpr rfl⟩

section

variable {raw : RawCodec} {codec : BookCodec} {snapshot : RawRecordEnvelopeV1}
  {records : List RawRecordEnvelopeV1} {snapshotFile depthFile : File}
  {observations : List CanonicalObservationV1}

theorem finalize_eq_ok (codec : BookCodec) (debugReason : Option String → String)
    (path snapshotPath : String) (hread : readRawRecords raw depthFile = .ok records)
    {common : RecordIdentity} (hidentity : identity records = .ok common) (hne : observations ≠ [])
    (skipped : Nat) (snapshotRecordSha256 : String) (updateId : UInt64) :
    ∃ materialization, finalize raw codec debugReason path depthFile .depth records observations
        skipped (some snapshotPath) (some snapshotRecordSha256) (some updateId)
        = .ok materialization ∧ materialization.observations = observations := by
  obtain ⟨scan, hscan, hclean⟩ := scanRawLog_of_read path hread
  rcases observations with _ | ⟨first, others⟩
  · exact absurd rfl hne
  unfold finalize
  rw [List.getLast?_eq_some_getLast hne, hidentity, hscan]
  simp only [List.head?_cons, okOr, bind, Except.bind, hclean, Bool.true_eq_false, if_false]
  exact ⟨_, rfl, rfl⟩

/-- **The file materialiser returns the window's observations exactly if the log holds no
    control frame.** -/
theorem file_agrees_iff (debugReason : Option String → String) (snapshotPath depthPath : String)
    (hsnapshot : readRawRecords raw snapshotFile = .ok [snapshot])
    (hread : readRawRecords raw depthFile = .ok records)
    (hwindow : materializeDepthRecordWindow codec snapshot records = .ok observations) :
    (∃ materialization, materializeDepthObservations raw codec debugReason snapshotPath
        snapshotFile depthPath depthFile = .ok materialization ∧
      materialization.observations = observations) ↔
      ∀ record ∈ records, ¬ ControlFrame codec record := by
  obtain ⟨common, book, updateId, hidentity, hdepth, hsymbol, hbook, hupdateId, hloop, hne⟩ :=
    window_eq_ok hwindow
  have hunfold : materializeDepthObservations raw codec debugReason snapshotPath snapshotFile
      depthPath depthFile
      = depthFileLoop codec common records (book.loadSnapshot codec snapshot.frame.payload).2 [] 0
          >>= fun result => finalize raw codec debugReason depthPath depthFile .depth records
            result.1 result.2 (some snapshotPath) (some snapshot.recordSha256) (some updateId) := by
    unfold materializeDepthObservations
    rw [hsnapshot]
    show (readRawRecords raw depthFile >>= _) = _
    rw [hread]
    show (identity records >>= _) = _
    rw [hidentity]
    show (if _ then _ else if _ then _ else (LocalOrderBook.new common.1 >>= _)) = _
    rw [if_neg (by simp [hdepth]), if_neg (not_not.mpr hsymbol), hbook]
    show ((book.loadSnapshot codec snapshot.frame.payload).1 >>= _) = _
    rw [hupdateId]
    rfl
  rw [hunfold]
  refine ⟨?_, fun hplain => ?_⟩
  · rintro ⟨materialization, hok, -⟩
    obtain ⟨result, hresult, -⟩ := bind_eq_ok.mp hok
    exact depthFileLoop_plain hresult
  · obtain ⟨skipped, hfile⟩ := depthFileLoop_of_window 0 hplain hloop
    rw [hfile]
    exact finalize_eq_ok codec debugReason depthPath snapshotPath hread hidentity hne skipped
      snapshot.recordSha256 updateId

end

/-- **The three replays.** A cursor fed in any slices agrees with the window; where the window has
    observations, the file materialiser returns them exactly if no record is a control frame. -/
theorem depth_replays_agree (codec : BookCodec) (snapshot first : RawRecordEnvelopeV1)
    (rest : List RawRecordEnvelopeV1) (common : RecordIdentity)
    (hidentity : identity (first :: rest) = .ok common)
    (hcontiguous : requireContiguousFrames (first :: rest) = .ok ()) :
    (∀ slices : List (List RawRecordEnvelopeV1), slices.flatten = first :: rest →
      CursorAgrees codec snapshot first (first :: rest) slices) ∧
    ∀ (raw : RawCodec) (debugReason : Option String → String) (snapshotPath depthPath : String)
      (snapshotFile depthFile : File) (observations : List CanonicalObservationV1),
      readRawRecords raw snapshotFile = .ok [snapshot] →
      readRawRecords raw depthFile = .ok (first :: rest) →
      materializeDepthRecordWindow codec snapshot (first :: rest) = .ok observations →
      ((∃ materialization, materializeDepthObservations raw codec debugReason snapshotPath
          snapshotFile depthPath depthFile = .ok materialization ∧
        materialization.observations = observations) ↔
        ∀ record ∈ first :: rest, ¬ ControlFrame codec record) := by
  refine ⟨fun slices hslices => cursor_agrees hidentity hcontiguous hslices, ?_⟩
  intro raw debugReason snapshotPath depthPath snapshotFile depthFile observations hsnapshot hread
    hwindow
  exact file_agrees_iff debugReason snapshotPath depthPath hsnapshot hread hwindow

/-! ## A shutdown behind an update -/

open Book.LocalOrderBook (sampleSnapshot sampleUpdate)

def captured (frame : Raw.RawFrame) : Raw.CapturedFrame where
  venue := frame.venue
  environment := frame.environment
  endpoint := frame.endpoint
  stream := frame.stream
  symbol := frame.symbol
  connectionEpoch := frame.connectionEpoch
  frameIndex := frame.frameIndex
  receiveWallNs := frame.receiveWallNs
  receiveMonoNs := frame.receiveMonoNs
  clockQuality := frame.clockQuality
  clockSource := frame.clockSource
  payload := frame.payload
  specRevision := frame.specRevision

def samplePayloads : List (Bytes × Nat) :=
  [(sampleSnapshot.toVec, 0xefbb4327e9d8e669a5f3e0f02e61f04563de8e0ec52aedcc1158bc292430f163),
   ((sampleUpdate "1").toVec, 0x6728810481a125ea8de821bc44f5efba29e0f50903ca370103ddc80ef4a34c09),
   (sampleShutdown.toVec, 0x4653e25fa949102d00cf44a7723c13e015c43e3b7f8694be78255e0d3e8bd752)]

def written (frame : Raw.RawFrame) (previous : String) : Raw.RawRecord :=
  Raw.RawLogWriter.rawRecord (Raw.knownCodec [] samplePayloads) (captured frame) previous

def snapshotWritten : Raw.RawRecord × Nat :=
  (written (sampleFrame "snapshot" 0 sampleSnapshot) zeroDigest,
    0x1cad417a5306f9902d24bcec298502de4d4ee2c15af13960cf261312f747e965)

/-- The records of the update and of the shutdown with their digests. -/
def depthWritten : List (Raw.RawRecord × Nat) :=
  [(written (sampleFrame "btcusdt@depth" 0 (sampleUpdate "1")) zeroDigest,
    0x5aa18fabb4ed9cdb75aeeccc9786fdecfc6ef8f35a6c0d68ae559a5851e13922),
   (written (sampleFrame "btcusdt@depth" 1 sampleShutdown)
      "5aa18fabb4ed9cdb75aeeccc9786fdecfc6ef8f35a6c0d68ae559a5851e13922",
    0x491f72246e0507dc013e3ec7ab2893b9ce6a7d492407abc92c63da0b5fe8a9f4)]

/-- The codec of the three records. -/
def sampleRaw : RawCodec := Raw.knownCodec (snapshotWritten :: depthWritten) samplePayloads

def sampleLog (records : List (Raw.RawRecord × Nat)) : File :=
  File.empty.append (Raw.magic ++ records.flatMap fun known =>
    Raw.framed known.1.text (digestOfNat known.2))

def snapshotRecord : RawRecordEnvelopeV1 :=
  ⟨"RawRecordEnvelopeV1", 0, 8, 696,
    "1cad417a5306f9902d24bcec298502de4d4ee2c15af13960cf261312f747e965",
    sampleFrame "snapshot" 0 sampleSnapshot⟩

def updateRecord : RawRecordEnvelopeV1 :=
  ⟨"RawRecordEnvelopeV1", 0, 8, 717,
    "5aa18fabb4ed9cdb75aeeccc9786fdecfc6ef8f35a6c0d68ae559a5851e13922",
    sampleFrame "btcusdt@depth" 0 (sampleUpdate "1")⟩

def shutdownRecord : RawRecordEnvelopeV1 :=
  ⟨"RawRecordEnvelopeV1", 1, 717, 1378,
    "491f72246e0507dc013e3ec7ab2893b9ce6a7d492407abc92c63da0b5fe8a9f4",
    sampleFrame "btcusdt@depth" 1 sampleShutdown⟩

def updateObservation : CanonicalObservationV1 :=
  observationOf ("BTCUSDT", "btcusdt@depth", "a") .depth updateRecord 2 2
    "d2faf7d2cc8cea6e48dd011fb11af4ebedee18f07d17ce5e3dbe983e796f9985"

/-- The codec of the payloads; the digests are those of the levels, of the book behind the
    update and of the materialization of the update. -/
def sampleDepthCodec : BookCodec :=
  BookCodec.known [sampleSnapshot, sampleUpdate "1", sampleShutdown]
    [([98] ++ i128LeBytes 1 ++ [0] ++ i128LeBytes 1 ++ [0],
        0x0b14deaf2e3c4ce9969eb6ebf1202aaa5e9131e931ac14702c995d5c9849480c),
     ([97] ++ i128LeBytes 2 ++ [0] ++ i128LeBytes 1 ++ [0],
        0x1997377af758fba70afd9b5c4d9d848e4c4cc139d1bc92360190a274695f8a65),
     (asBytes "\x7b\"asks\":[[\"2\",\"1\"]],\"bids\":[[\"1\",\"1\"]],\"last_update_id\":2,\"symbol\":\"BTCUSDT\"\x7d",
        0xd2faf7d2cc8cea6e48dd011fb11af4ebedee18f07d17ce5e3dbe983e796f9985),
     ((materializationDigestJson [updateObservation]
          "5aa18fabb4ed9cdb75aeeccc9786fdecfc6ef8f35a6c0d68ae559a5851e13922" 0 (some 1)
          (some "1cad417a5306f9902d24bcec298502de4d4ee2c15af13960cf261312f747e965") .depth).toVec,
        0x567f5f11f3ce5a2edb1e2e5e6e1de153e6cfbe6161794e72f69fc741417a459b)]

theorem read_snapshotLog :
    readRawRecords sampleRaw (sampleLog [snapshotWritten]) = .ok [snapshotRecord] := by
  decide +kernel

/-- The window has the update's observation; the log of the same records is refused. -/
theorem shutdown_stops_file_materialiser :
    readRawRecords sampleRaw (sampleLog [snapshotWritten]) = .ok [snapshotRecord] ∧
    readRawRecords sampleRaw (sampleLog depthWritten) = .ok [updateRecord, shutdownRecord] ∧
    materializeDepthRecordWindow sampleDepthCodec snapshotRecord [updateRecord, shutdownRecord]
      = .ok [updateObservation] ∧
    ¬ ∃ materialization, materializeDepthObservations sampleRaw sampleDepthCodec (fun _ => "None")
        "snapshot.bnraw" (sampleLog [snapshotWritten]) "depth.bnraw" (sampleLog depthWritten)
        = .ok materialization ∧ materialization.observations = [updateObservation] := by
  have hread : readRawRecords sampleRaw (sampleLog depthWritten)
      = .ok [updateRecord, shutdownRecord] := by
    decide +kernel
  have hwindow : materializeDepthRecordWindow sampleDepthCodec snapshotRecord
      [updateRecord, shutdownRecord] = .ok [updateObservation] := by
    decide +kernel
  have hcontrol : ControlFrame sampleDepthCodec shutdownRecord := by
    refine (serverShutdownPayload_eq_ok ?_).mp rfl
    decide +kernel
  refine ⟨read_snapshotLog, hread, hwindow, fun hfile => ?_⟩
  exact (file_agrees_iff _ _ _ read_snapshotLog hread hwindow).mp hfile shutdownRecord
    (List.mem_cons_of_mem _ List.mem_cons_self) hcontrol

/-- The replays of the update alone. -/
theorem depth_replays_agree_update :
    identity [updateRecord] = .ok ("BTCUSDT", "btcusdt@depth", "a") ∧
    readRawRecords sampleRaw (sampleLog (depthWritten.take 1)) = .ok [updateRecord] ∧
    materializeDepthRecordWindow sampleDepthCodec snapshotRecord [updateRecord]
      = .ok [updateObservation] ∧
    CursorAgrees sampleDepthCodec snapshotRecord updateRecord [updateRecord] [[updateRecord], []] ∧
    ((∃ materialization, materializeDepthObservations sampleRaw sampleDepthCodec (fun _ => "None")
        "snapshot.bnraw" (sampleLog [snapshotWritten]) "depth.bnraw"
        (sampleLog (depthWritten.take 1)) = .ok materialization ∧
      materialization.observations = [updateObservation]) ↔
      ∀ record ∈ [updateRecord], ¬ ControlFrame sampleDepthCodec record) := by
  have hidentity : identity [updateRecord] = .ok ("BTCUSDT", "btcusdt@depth", "a") := by
    decide +kernel
  have hread : readRawRecords sampleRaw (sampleLog (depthWritten.take 1)) = .ok [updateRecord] := by
    decide +kernel
  have hwindow : materializeDepthRecordWindow sampleDepthCodec snapshotRecord [updateRecord]
      = .ok [updateObservation] := by
    decide +kernel
  obtain ⟨hcursor, hfile⟩ := depth_replays_agree sampleDepthCodec snapshotRecord updateRecord []
    ("BTCUSDT", "btcusdt@depth", "a") hidentity rfl
  exact ⟨hidentity, hread, hwindow, hcursor [[updateRecord], []] rfl,
    hfile sampleRaw _ _ _ _ _ _ read_snapshotLog hread hwindow⟩

end LobReplay.Observation
