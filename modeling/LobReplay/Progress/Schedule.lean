/-
  Polling a BNACK journal on any schedule. A journal becomes visible in growing prefixes, cut
  anywhere; `Following` says that a follower stands where the lines of what it has seen put it, and
  every poll keeps it or ends in an error (`Following.poll`).
-/

import LobReplay.Progress.Polling
import Mathlib.Data.List.Chain

namespace LobReplay.Progress

open Foundation
open Raw (DurabilityAckV1 StreamDurabilityWatermarkV1 RawSegmentGenesisV1 RawCodec
  RawRecordEnvelopeV1 readRawRecordRange)

variable {codec : ProgressCodec} {rawCodec : RawCodec} {raw : File} {genesis : RawSegmentGenesisV1}
  {ack : DurabilityAckV1}

/-! ## The loops -/

namespace SegmentDurabilityFollower

def lineTaker (codec : ProgressCodec) (rawCodec : RawCodec) (raw : File)
    (s : SegmentDurabilityFollower) :
    LineTaker DurabilityFollowerCursorV1 VerifiedDurabilityProgressV1 Failure :=
  taker codec rawCodec raw s.expectedRawPath s.genesis

/-- The cursor stands at the start of the pending bytes, and within the raw segment. -/
structure Aligned (raw : File) (s : SegmentDurabilityFollower) : Prop where
  journal_eq : s.cursor.journalOffset + s.pending.length = s.readOffset
  raw_le : s.cursor.rawOffset ≤ raw.len

/-- **Run.** The loop over the complete lines, by induction on its budget. The cursor stands at
    the start of the pending bytes, so the look at the lengths never fails because of the
    journal. -/
theorem consumeLoop_spec {journalLength budget : Nat} {s : SegmentDurabilityFollower}
    (verified : List VerifiedDurabilityProgressV1) (hbudget : s.pending.length ≤ budget)
    (haligned : s.Aligned raw) (hread : s.readOffset ≤ journalLength) :
    let taken := (s.lineTaker codec rawCodec raw).takeLines s.cursor (splitLines s.pending).1
    (∃ e pending, taken.failure = some e ∧
      consumeLoop codec rawCodec raw journalLength budget s verified
        = (.error e, { s with cursor := taken.state, pending := pending })) ∨
    (taken.failure = none ∧
      consumeLoop codec rawCodec raw journalLength budget s verified
        = (.ok (verified ++ taken.records),
          { s with cursor := taken.state, pending := (splitLines s.pending).2 }) ∧
      Aligned raw { s with cursor := taken.state, pending := (splitLines s.pending).2 }) := by
  induction budget generalizing s verified with
  | zero =>
    have hempty : s.pending = [] := List.eq_nil_of_length_eq_zero (Nat.le_zero.mp hbudget)
    right
    rw [hempty, splitLines_nil, LineTaker.takeLines_nil, List.append_nil]
    rw [← hempty]
    exact ⟨rfl, rfl, haligned⟩
  | succ budget ih =>
    rw [consumeLoop]
    cases hnewline : newlinePosition s.pending with
    | none =>
      right
      rw [splitLines_of_not_mem (newlinePosition_eq_none hnewline), LineTaker.takeLines_nil,
        List.append_nil]
      exact ⟨rfl, rfl, haligned⟩
    | some n =>
      obtain ⟨hline, hsplit, hlength⟩ := newlinePosition_eq_some hnewline
      have hlines : splitLines s.pending
          = (s.pending.take n :: (splitLines (s.pending.drop (n + 1))).1,
            (splitLines (s.pending.drop (n + 1))).2) := by
        conv_lhs => rw [hsplit]
        exact splitLines_line_append hline _
      have hpending : s.pending.length = n + 1 + (s.pending.drop (n + 1)).length := by
        have hcount := congrArg List.length hsplit
        rw [List.length_append, List.length_cons, hlength] at hcount
        omega
      have htake : consumeLine codec rawCodec raw s.expectedRawPath s.genesis
            (checkFileLength journalLength raw s.readOffset) s.cursor (s.pending.take n)
          = (s.lineTaker codec rawCodec raw).take s.cursor (s.pending.take n) :=
        consumeLine_congr (checkFileLength_eq hread (by have := haligned.journal_eq; omega))
      rw [hlines]
      dsimp only
      rw [htake]
      rcases hresult : (s.lineTaker codec rawCodec raw).take s.cursor (s.pending.take n)
        with ⟨e | record, cursor⟩
      · left
        rw [LineTaker.takeLines_cons_error hresult]
        exact ⟨e, s.pending, rfl, rfl⟩
      · obtain ⟨envelope, bodyBytes, hok⟩ := consumeLine_ok hresult
        have haligned' : Aligned raw
            { s with cursor := cursor, pending := s.pending.drop (n + 1) } := by
          refine ⟨?_, hok.raw_le⟩
          have hoffset := hok.offset_eq
          have hbefore := haligned.journal_eq
          dsimp only
          omega
        rw [LineTaker.takeLines_cons_ok hresult]
        rcases ih (s := { s with cursor := cursor, pending := s.pending.drop (n + 1) })
            (verified ++ [record]) (by dsimp only; omega) haligned' hread with
          ⟨e, pending, hfailure, hloop⟩ | ⟨hfailure, hloop, hend⟩
        · exact Or.inl ⟨e, pending, hfailure, hloop⟩
        · refine Or.inr ⟨hfailure, ?_, hend⟩
          dsimp only
          rw [hloop, List.append_assoc]
          rfl

/-- **Run.** The loop over the pieces of a poll, by induction on them. -/
theorem pollLoop_spec {journalLength : Nat} {pieces : List Bytes} {s : SegmentDurabilityFollower}
    (verified : List VerifiedDurabilityProgressV1) (haligned : s.Aligned raw)
    (hread : s.readOffset + pieces.flatten.length ≤ journalLength)
    (hmax : journalLength ≤ u64Max) :
    (∃ e e' after s', (s.lineTaker codec rawCodec raw).feedAll (s.cursor, s.pending) pieces
        = (.error e, after) ∧
      pollLoop codec rawCodec raw journalLength pieces s verified = (.error e', s') ∧
      s'.cursor = after.1) ∨
    ∃ more after, (s.lineTaker codec rawCodec raw).feedAll (s.cursor, s.pending) pieces
        = (.ok more, after) ∧
      pollLoop codec rawCodec raw journalLength pieces s verified
        = (.ok (verified ++ more), { s with
            readOffset := s.readOffset + pieces.flatten.length
            cursor := after.1
            pending := after.2 }) ∧
      Aligned raw { s with
            readOffset := s.readOffset + pieces.flatten.length
            cursor := after.1
            pending := after.2 } := by
  induction pieces generalizing s verified with
  | nil =>
    right
    refine ⟨[], (s.cursor, s.pending), rfl, ?_, haligned⟩
    rw [pollLoop, List.append_nil]
    rfl
  | cons piece pieces ih =>
    rw [List.flatten_cons, List.length_append] at hread
    have hadd : checkedAdd s.readOffset piece.length = some (s.readOffset + piece.length) :=
      if_pos (by omega)
    rw [pollLoop, hadd, LineTaker.feedAll, LineTaker.feed]
    dsimp only
    -- the torn bytes with the piece behind them
    have haligned' : Aligned raw
        { s with readOffset := s.readOffset + piece.length, pending := s.pending ++ piece } := by
      refine ⟨?_, haligned.raw_le⟩
      have hbefore := haligned.journal_eq
      rw [List.length_append]
      dsimp only
      omega
    have hloop := @consumeLoop_spec codec rawCodec raw journalLength (s.pending ++ piece).length
      { s with readOffset := s.readOffset + piece.length, pending := s.pending ++ piece } verified
      (Nat.le_refl _) haligned' (by dsimp only; omega)
    dsimp only at hloop
    have htaker : lineTaker codec rawCodec raw
        { s with readOffset := s.readOffset + piece.length, pending := s.pending ++ piece }
        = s.lineTaker codec rawCodec raw := rfl
    rw [htaker] at hloop
    rcases hloop with ⟨e, pending, hfailure, hloop⟩ | ⟨hfailure, hloop, hend⟩
    · left
      rw [hfailure, consumeCompleteRecords, hloop]
      exact ⟨_, _, _, _, rfl, rfl, rfl⟩
    rw [hfailure, consumeCompleteRecords, hloop]
    dsimp only
    by_cases hlong : maxProgressRecordBytes < (splitLines (s.pending ++ piece)).2.length
    · left
      rw [if_pos hlong, if_pos (show (s.lineTaker codec rawCodec raw).limit < _ from hlong)]
      exact ⟨_, _, _, _, rfl, rfl, rfl⟩
    rw [if_neg hlong, if_neg (show ¬ (s.lineTaker codec rawCodec raw).limit < _ from hlong)]
    dsimp only
    generalize htaken : (s.lineTaker codec rawCodec raw).takeLines s.cursor
      (splitLines (s.pending ++ piece)).1 = taken at *
    rcases ih (s := { s with
          readOffset := s.readOffset + piece.length
          cursor := taken.state
          pending := (splitLines (s.pending ++ piece)).2 }) (verified ++ taken.records) hend
        (by dsimp only; omega) with
      ⟨e, e', after, s', hfeed, hpoll, hcursor⟩ | ⟨more, after, hfeed, hpoll, hafter⟩
    · left
      refine ⟨e, e', after, s', ?_, hpoll, hcursor⟩
      have hsame : (s.lineTaker codec rawCodec raw).feedAll
          (taken.state, (splitLines (s.pending ++ piece)).2) pieces = (.error e, after) := hfeed
      rw [hsame]
      rfl
    · right
      dsimp only at hpoll hafter
      rw [Nat.add_assoc] at hpoll hafter
      refine ⟨taken.records ++ more, after, ?_, ?_, ?_⟩
      · have hsame : (s.lineTaker codec rawCodec raw).feedAll
            (taken.state, (splitLines (s.pending ++ piece)).2) pieces = (.ok more, after) := hfeed
        rw [hsame]
        rfl
      · rw [hpoll, List.append_assoc, List.flatten_cons, List.length_append]
      · rw [List.flatten_cons, List.length_append]
        exact hafter

/-! ## One poll -/

/-- The follower `s` has taken all of `stream` since it was opened as `start`. -/
structure Following (codec : ProgressCodec) (rawCodec : RawCodec) (raw : File)
    (start s : SegmentDurabilityFollower) (stream : Bytes) : Prop where
  path_eq : s.expectedRawPath = start.expectedRawPath
  genesis_eq : s.genesis = start.genesis
  live : s.poisoned = false
  read_eq : s.readOffset = stream.length
  aligned : s.Aligned raw
  follows : (start.lineTaker codec rawCodec raw).Follows start.cursor stream (s.cursor, s.pending)

/-- The stream has been refused, and the follower says so from then on; its cursor stands where
    the lines of the stream have put it. -/
structure Stopped (codec : ProgressCodec) (rawCodec : RawCodec) (raw : File)
    (start s : SegmentDurabilityFollower) (stream : Bytes) : Prop where
  dead : s.poisoned = true
  refuses : (start.lineTaker codec rawCodec raw).Refuses start.cursor stream
  cursor_eq : s.cursor
    = ((start.lineTaker codec rawCodec raw).takeLines start.cursor (splitLines stream).1).state

variable {start s : SegmentDurabilityFollower} {stream : Bytes} {p : Poll}

theorem Following.lineTaker_eq (h : Following codec rawCodec raw start s stream) :
    s.lineTaker codec rawCodec raw = start.lineTaker codec rawCodec raw := by
  unfold lineTaker
  rw [h.path_eq, h.genesis_eq]

theorem Stopped.append (h : Stopped codec rawCodec raw start s stream) (more : Bytes) :
    Stopped codec rawCodec raw start s (stream ++ more) := by
  obtain ⟨hrefuses, hstate⟩ := h.refuses.append more
  exact ⟨h.dead, hrefuses, h.cursor_eq.trans hstate.symm⟩

/-- **Step.** A poll of a live follower on a journal that begins with what it has seen. -/
theorem Following.poll (h : Following codec rawCodec raw start s stream)
    (hseen : stream <+: p.journal.bytes) :
    (∃ e s', s.poll codec rawCodec raw p = (.error e, s') ∧
      Stopped codec rawCodec raw start s' p.journal.bytes) ∨
    ∃ result s', s.poll codec rawCodec raw p = (.ok result, s') ∧ result.cursor = s'.cursor ∧
      Following codec rawCodec raw start s' p.journal.bytes ∧
      (start.lineTaker codec rawCodec raw).records start.cursor p.journal.bytes
        = (start.lineTaker codec rawCodec raw).records start.cursor stream ++ result.records := by
  obtain ⟨more, hmore⟩ := hseen
  have hlength : stream.length + more.length = p.journal.len := by
    rw [← List.length_append, hmore]
    rfl
  -- the poll gets past the look at the lengths and reads what is new
  have hcheck : checkFileLength p.journal.len raw s.readOffset s.cursor = .ok () := by
    have hjournal := h.aligned.journal_eq
    have hread := h.read_eq
    rw [checkFileLength_eq (by omega) (by omega)]
    exact if_neg (Nat.not_lt.mpr h.aligned.raw_le)
  have hnew : p.journal.bytes.drop s.readOffset = more := by
    rw [h.read_eq, ← hmore, List.drop_left]
  have hflatten := p.reads.flatten_eq more
  have hfeed := h.follows.feedAll (p.reads.pieces more)
  rw [hflatten, hmore] at hfeed
  have hmax : p.journal.len ≤ u64Max := p.journal.length_le.trans (by decide)
  have hloop := @pollLoop_spec codec rawCodec raw p.journal.len (p.reads.pieces more) s []
    h.aligned (by rw [hflatten, h.read_eq]; omega) hmax
  rw [h.lineTaker_eq, hflatten] at hloop
  unfold SegmentDurabilityFollower.poll pollInner
  rw [if_neg (by rw [h.live]; decide), hcheck, hnew]
  dsimp only
  rcases hloop with ⟨e, e', after, s', hall, hpoll, hcursor⟩ | ⟨found, after, hall, hpoll, haligned⟩
  · left
    rcases hfeed with ⟨e₂, after₂, hall₂, hrefuses, hstate⟩ | ⟨_, _, hall₂, _⟩
    · rw [hall] at hall₂
      cases hall₂
      rw [hpoll]
      exact ⟨e', _, rfl, rfl, hrefuses, hcursor.trans hstate⟩
    · rw [hall] at hall₂
      cases hall₂
  · right
    rcases hfeed with ⟨_, _, hall₂, _⟩ | ⟨found₂, after₂, hall₂, hfollows, hrecords⟩
    · rw [hall] at hall₂
      cases hall₂
    · rw [hall] at hall₂
      cases hall₂
      rw [hpoll]
      refine ⟨_, _, rfl, rfl, ⟨h.path_eq, h.genesis_eq, h.live, ?_, haligned, hfollows⟩, hrecords⟩
      dsimp only
      rw [h.read_eq, hlength]
      rfl

/-- **Step.** A poll of a stopped follower. -/
theorem Stopped.poll (h : Stopped codec rawCodec raw start s stream)
    (hseen : stream <+: p.journal.bytes) :
    (∃ e, s.poll codec rawCodec raw p = (.error e, s)) ∧
      Stopped codec rawCodec raw start s p.journal.bytes := by
  refine ⟨⟨_, if_pos h.dead⟩, ?_⟩
  obtain ⟨more, hmore⟩ := hseen
  rw [← hmore]
  exact h.append more

theorem following_of_open {genesis : RawSegmentGenesisV1} {expectedRawPath : String}
    (h : openWithRawIdentity raw genesis expectedRawPath = .ok s) :
    Following codec rawCodec raw s s [] := by
  unfold openWithRawIdentity at h
  obtain ⟨⟨⟩, -, h⟩ := bind_eq_ok.mp h
  rw [ite_err_eq_ok] at h
  obtain ⟨hmagic, h⟩ := h
  rw [not_not] at hmagic
  have hlen : Raw.magic.length ≤ raw.len := by
    have hle := congrArg List.length hmagic
    rw [List.length_take] at hle
    show _ ≤ raw.bytes.length
    omega
  cases h
  exact ⟨rfl, rfl, rfl, rfl, ⟨rfl, hlen⟩, LineTaker.follows_nil _ _⟩

/-! ## Schedules -/

/-- The journal grows: every poll sees what the one before it has seen, and maybe more. -/
def Growing (polls : List Poll) : Prop :=
  (polls.map fun p => p.journal.bytes).IsChain (· <+: ·)

/-- What the polls have shown of the journal. -/
def revealed (polls : List Poll) : Bytes :=
  (polls.getLast?.map fun p => p.journal.bytes).getD []

def pollAll (codec : ProgressCodec) (rawCodec : RawCodec) (raw : File)
    (s : SegmentDurabilityFollower) (polls : List Poll) :
    List (Result DurabilityFollowerPollV1) × SegmentDurabilityFollower :=
  run (fun s p => s.poll codec rawCodec raw p) s polls

def returned (results : List (Result DurabilityFollowerPollV1)) :
    List VerifiedDurabilityProgressV1 :=
  results.flatMap fun result => result.toOption.elim [] (·.records)

/-- The last poll has failed. -/
def endsInError (results : List (Result DurabilityFollowerPollV1)) : Bool :=
  results.getLast?.any fun result => !result.isOk

theorem revealed_concat (polls : List Poll) (p : Poll) : revealed (polls ++ [p]) = p.journal.bytes := by
  simp [revealed]

theorem growing_concat {polls : List Poll} (h : Growing (polls ++ [p])) :
    Growing polls ∧ revealed polls <+: p.journal.bytes := by
  unfold Growing at h ⊢
  rw [List.map_append, List.isChain_append] at h
  refine ⟨h.1, ?_⟩
  unfold revealed
  cases hlast : polls.getLast? with
  | none => exact List.nil_prefix
  | some last => exact h.2.2 _ (by simp [hlast]) _ rfl

/-- Where a schedule leaves the follower that was opened as `start`: with everything taken and
    returned, or stopped behind some of the records. -/
inductive Outcome (codec : ProgressCodec) (rawCodec : RawCodec) (raw : File)
    (start : SegmentDurabilityFollower) (stream : Bytes)
    (results : List (Result DurabilityFollowerPollV1)) (s : SegmentDurabilityFollower) : Prop
  | follows (following : Following codec rawCodec raw start s stream)
      (ends : endsInError results = false)
      (returned_eq : returned results
        = (start.lineTaker codec rawCodec raw).records start.cursor stream)
  | stops (stopped : Stopped codec rawCodec raw start s stream)
      (ends : endsInError results = true)
      (returned_le : returned results
        <+: (start.lineTaker codec rawCodec raw).records start.cursor stream)

theorem returned_concat (results : List (Result DurabilityFollowerPollV1))
    (result : Result DurabilityFollowerPollV1) :
    returned (results ++ [result])
      = returned results ++ result.toOption.elim [] (·.records) := by
  simp [returned]

theorem endsInError_concat (results : List (Result DurabilityFollowerPollV1))
    (result : Result DurabilityFollowerPollV1) :
    endsInError (results ++ [result]) = !result.isOk := by
  simp [endsInError]

/-- **Run.** Any schedule of a growing journal, by induction on the polls. -/
theorem outcome_of_growing {start : SegmentDurabilityFollower}
    (hstart : Following codec rawCodec raw start start []) {polls : List Poll}
    (h : Growing polls) :
    Outcome codec rawCodec raw start (revealed polls)
      (start.pollAll codec rawCodec raw polls).1 (start.pollAll codec rawCodec raw polls).2 := by
  induction polls using List.reverseRecOn with
  | nil => exact .follows hstart rfl rfl
  | append_singleton polls p ih =>
    obtain ⟨hbefore, hseen⟩ := growing_concat h
    rw [revealed_concat, pollAll, run_concat]
    dsimp only
    have hmore := hseen
    obtain ⟨more, hbytes⟩ := hmore
    rcases ih hbefore with ⟨hfollowing, -, hreturned⟩ | ⟨hstopped, -, hreturned⟩
    · rcases hfollowing.poll hseen with ⟨e, s', hpoll, hstopped⟩ |
        ⟨result, s', hpoll, -, hfollowing', hrecords⟩
      · unfold pollAll at hpoll
        rw [hpoll]
        refine .stops hstopped (endsInError_concat _ _) ?_
        rw [returned_concat, ← hbytes]
        show _ ++ [] <+: _
        rw [List.append_nil]
        exact hreturned ▸ LineTaker.records_append_prefix _ _ _ _
      · unfold pollAll at hpoll
        rw [hpoll]
        refine .follows hfollowing' (endsInError_concat _ _) ?_
        rw [returned_concat, hrecords, ← hreturned]
        rfl
    · obtain ⟨⟨e, hpoll⟩, hstopped'⟩ := hstopped.poll hseen
      unfold pollAll at hpoll
      rw [hpoll]
      refine .stops hstopped' (endsInError_concat _ _) ?_
      rw [returned_concat]
      show _ ++ [] <+: _
      rw [List.append_nil, ← hbytes]
      exact hreturned.trans (LineTaker.records_append_prefix _ _ _ _)

end SegmentDurabilityFollower

/-! ## The one-shot scan -/

structure Scanned (cursor : DurabilityFollowerCursorV1) (found : ScanState) : Prop where
  records_eq : found.records = cursor.nextRecordIndex
  previous_eq : found.previous = cursor.previousProgressRecordSha256
  ack_eq : found.latestAck = cursor.latestAck

/-- Before the first line. -/
theorem scanned_of_open {expectedRawPath : String} {s : SegmentDurabilityFollower}
    (h : SegmentDurabilityFollower.openWithRawIdentity raw genesis expectedRawPath = .ok s) :
    Scanned s.cursor ⟨0, zeroDigest, none, []⟩ := by
  unfold SegmentDurabilityFollower.openWithRawIdentity at h
  obtain ⟨⟨⟩, -, h⟩ := bind_eq_ok.mp h
  rw [ite_err_eq_ok] at h
  obtain ⟨-, h⟩ := h
  cases h
  exact ⟨rfl, rfl, rfl⟩

/-- An ACK the follower takes passes the scan's check as well. -/
theorem scanValidateAck_of_validateAck (h : validateAck ack genesis = .ok ()) :
    scanValidateAck ack = .ok () := by
  unfold validateAck at h
  rw [ite_err_eq_ok] at h
  obtain ⟨hshape, h⟩ := h
  obtain ⟨⟨⟩, hdigest, -⟩ := bind_eq_ok.mp h
  simp only [not_or, not_not] at hshape
  obtain ⟨hschema, hcount, hoffset, hstreams⟩ := hshape
  -- the follower's digests are lowercase, the scan's may be uppercase too
  unfold validateDigest at hdigest
  rw [ite_err_eq_ok] at hdigest
  obtain ⟨hhex, -⟩ := hdigest
  simp only [not_or, not_not] at hhex
  have hall : (asBytes ack.lastRecordSha256).all isAsciiHexdigit = true := by
    rw [List.all_eq_true] at hhex ⊢
    intro b hb
    unfold isAsciiHexdigit
    rw [hhex.2 b hb, Bool.true_or]
  unfold scanValidateAck
  rw [if_neg]
  simp only [not_or, not_not]
  exact ⟨hschema, hcount, by omega, hhex.1, hall, hstreams⟩

theorem isStale_of_checkAdvances {latestAck : Option DurabilityAckV1}
    (h : checkAdvances latestAck ack = .ok ()) : isStale latestAck ack = false := by
  cases latestAck with
  | none => rfl
  | some previous =>
    obtain ⟨watermark, -, h⟩ := bind_eq_ok.mp h
    obtain ⟨old, -, h⟩ := bind_eq_ok.mp h
    rw [ite_err_eq_ok] at h
    obtain ⟨hadvances, -⟩ := h
    simp only [not_or, not_le] at hadvances
    simp [isStale, hadvances.1, hadvances.2.1]

/-- **Run.** The scan over lines that the follower takes, by induction on its budget. -/
theorem scanLoop_of_takeLines {expectedRawPath : String} {genesis : RawSegmentGenesisV1}
    {budget : Nat} {rest : Bytes} {cursor : DurabilityFollowerCursorV1} {found : ScanState}
    (hbudget : rest.length ≤ budget) (hfound : Scanned cursor found)
    (htaken : ((taker codec rawCodec raw expectedRawPath genesis).takeLines cursor
      (splitLines rest).1).failure = none) :
    ∃ reason found', scanLoop codec budget rest found = .ok (reason, found') ∧
      (reason = none ↔ (splitLines rest).2 = []) ∧
      Scanned ((taker codec rawCodec raw expectedRawPath genesis).takeLines cursor
        (splitLines rest).1).state found' := by
  induction budget generalizing rest cursor found with
  | zero =>
    have hempty : rest = [] := List.eq_nil_of_length_eq_zero (Nat.le_zero.mp hbudget)
    subst hempty
    exact ⟨none, found, rfl, by simp, hfound⟩
  | succ budget ih =>
    rw [scanLoop]
    by_cases hempty : rest = []
    · subst hempty
      exact ⟨none, found, rfl, by simp, hfound⟩
    rw [if_neg hempty]
    cases hnewline : newlinePosition rest with
    | none =>
      rw [splitLines_of_not_mem (newlinePosition_eq_none hnewline)]
      exact ⟨_, found, rfl, by simp [hempty], hfound⟩
    | some n =>
      obtain ⟨hline, hsplit, hlength⟩ := newlinePosition_eq_some hnewline
      have hlines : splitLines rest
          = (rest.take n :: (splitLines (rest.drop (n + 1))).1,
            (splitLines (rest.drop (n + 1))).2) := by
        conv_lhs => rw [hsplit]
        exact splitLines_line_append hline _
      have hshorter : (rest.drop (n + 1)).length ≤ budget := by
        have hcount := congrArg List.length hsplit
        rw [List.length_append, List.length_cons, hlength] at hcount
        omega
      rw [hlines] at htaken ⊢
      rcases htake : (taker codec rawCodec raw expectedRawPath genesis).take cursor (rest.take n)
        with ⟨e | record, next⟩
      · rw [LineTaker.takeLines_cons_error htake] at htaken
        cases htaken
      rw [LineTaker.takeLines_cons_ok htake] at htaken ⊢
      obtain ⟨envelope, bodyBytes, hok⟩ := consumeLine_ok htake
      -- the scan checks less of the line than the follower has
      have hchain : ¬ (envelope.body.schema ≠ "RawDurabilityProgressV1" ∨
          envelope.body.recordIndex ≠ found.records ∨
          envelope.body.previousRecordSha256 ≠ found.previous ∨
          envelope.recordSha256 ≠ hex (codec.digest bodyBytes).bytes ∨
          (scanValidateAck envelope.body.ack).isOk = false) := by
        rw [scanValidateAck_of_validateAck hok.valid, hfound.records_eq, hfound.previous_eq]
        simp only [not_or, not_not]
        exact ⟨hok.schema_eq, hok.index_eq, hok.previous_eq, hok.digest_eq, by decide⟩
      have hstale : ¬ isStale found.latestAck envelope.body.ack = true := by
        rw [hfound.ack_eq, isStale_of_checkAdvances hok.advances]
        decide
      dsimp only
      rw [hok.parsed]
      dsimp only
      rw [hok.serialized]
      dsimp only
      rw [if_neg hchain, if_neg hstale]
      refine ih hshorter ⟨?_, hok.digest_next.symm, hok.ack_eq.symm⟩ htaken
      dsimp only
      rw [hok.next_eq, hfound.records_eq]

theorem takeLines_nextRecordIndex {expectedRawPath : String} {genesis : RawSegmentGenesisV1}
    {lines : List Bytes} {cursor : DurabilityFollowerCursorV1}
    (h : ((taker codec rawCodec raw expectedRawPath genesis).takeLines cursor lines).failure = none) :
    ((taker codec rawCodec raw expectedRawPath genesis).takeLines cursor lines).state.nextRecordIndex
      = cursor.nextRecordIndex
        + ((taker codec rawCodec raw expectedRawPath genesis).takeLines cursor lines).records.length := by
  induction lines generalizing cursor with
  | nil => rfl
  | cons line lines ih =>
    rcases htake : (taker codec rawCodec raw expectedRawPath genesis).take cursor line
      with ⟨e | record, next⟩
    · rw [LineTaker.takeLines_cons_error htake] at h
      cases h
    · rw [LineTaker.takeLines_cons_ok htake] at h ⊢
      obtain ⟨envelope, bodyBytes, hok⟩ := consumeLine_ok htake
      have hnext := ih h
      have hone := hok.next_eq
      dsimp only
      rw [List.length_cons]
      omega

/-! ## Independence of the schedule -/

namespace SegmentDurabilityFollower

/-- How a schedule that has revealed a journal compares with a single poll on it. -/
structure AgreesWithSinglePoll (codec : ProgressCodec) (rawCodec : RawCodec) (raw : File)
    (s : SegmentDurabilityFollower) (polls : List Poll) (single : Poll) : Prop where
  cursor_eq : (s.pollAll codec rawCodec raw polls).2.cursor = (s.poll codec rawCodec raw single).2.cursor
  error_iff : endsInError (s.pollAll codec rawCodec raw polls).1
    = !(s.poll codec rawCodec raw single).1.isOk
  records_eq : ∀ result, (s.poll codec rawCodec raw single).1 = .ok result →
    returned (s.pollAll codec rawCodec raw polls).1 = result.records

structure AgreesWithScan (codec : ProgressCodec) (path : String) (journal : File)
    (results : List (Result DurabilityFollowerPollV1)) (s : SegmentDurabilityFollower)
    (scan : DurabilityProgressScanV1) : Prop where
  scan_eq : scanDurabilityProgress codec path journal = .ok scan
  ack_eq : scan.latestAck = s.cursor.latestAck
  records_eq : scan.records = (returned results).length
  digest_eq : scan.lastRecordSha256 = s.cursor.previousProgressRecordSha256
  clean_iff : scan.cleanEof = true ↔ s.pending = []

variable {start : SegmentDurabilityFollower} {stream : Bytes}
  {results : List (Result DurabilityFollowerPollV1)} {s : SegmentDurabilityFollower}
  {polls : List Poll}

theorem Outcome.refuses_iff (h : Outcome codec rawCodec raw start stream results s) :
    endsInError results = true ↔ (start.lineTaker codec rawCodec raw).Refuses start.cursor stream := by
  rcases h with ⟨hfollowing, hends, -⟩ | ⟨hstopped, hends, -⟩
  · rw [hends]
    exact ⟨fun h => (by cases h), fun h => absurd h hfollowing.follows.accepts⟩
  · exact ⟨fun _ => hstopped.refuses, fun _ => hends⟩

theorem Outcome.cursor_eq (h : Outcome codec rawCodec raw start stream results s) :
    s.cursor = ((start.lineTaker codec rawCodec raw).takeLines start.cursor
      (splitLines stream).1).state := by
  rcases h with ⟨hfollowing, -, -⟩ | ⟨hstopped, -, -⟩
  · exact hfollowing.follows.state_eq
  · exact hstopped.cursor_eq

section

variable (hstart : Following codec rawCodec raw start start [])
include hstart

theorem agrees_of_outcomes {single : Poll} (hgrowing : Growing polls)
    (hrevealed : revealed polls = single.journal.bytes) :
    AgreesWithSinglePoll codec rawCodec raw start polls single := by
  have hpolls := outcome_of_growing hstart hgrowing
  have hsingle := @outcome_of_growing codec rawCodec raw start hstart [single]
    (List.isChain_singleton _)
  have hbytes : revealed [single] = single.journal.bytes := rfl
  rw [hbytes] at hsingle
  rw [hrevealed] at hpolls
  have hends : endsInError (start.pollAll codec rawCodec raw [single]).1
      = !(start.poll codec rawCodec raw single).1.isOk := rfl
  refine ⟨hpolls.cursor_eq.trans hsingle.cursor_eq.symm, ?_, ?_⟩
  · rw [← hends, Bool.eq_iff_iff, hpolls.refuses_iff, hsingle.refuses_iff]
  · intro result hresult
    -- neither has stopped, and both have returned the records of the journal
    have hfine : endsInError (start.pollAll codec rawCodec raw [single]).1 = false := by
      rw [hends, hresult]
      rfl
    have hrecords : returned (start.pollAll codec rawCodec raw [single]).1 = result.records := by
      show [(start.poll codec rawCodec raw single).1].flatMap _ = _
      rw [hresult]
      exact List.append_nil _
    rcases hsingle with ⟨hfollowing, -, hreturned⟩ | ⟨-, hstopped, -⟩
    · rcases hpolls with ⟨-, -, hreturned'⟩ | ⟨hstopped, -, -⟩
      · rw [hreturned', ← hreturned, hrecords]
      · exact absurd hstopped.refuses hfollowing.follows.accepts
    · rw [hfine] at hstopped
      cases hstopped

/-- Two schedules never contradict each other: the records of one are the first of the other. -/
theorem returned_prefix_or {polls' : List Poll} (hgrowing : Growing polls)
    (hgrowing' : Growing polls') (hrevealed : revealed polls = revealed polls') :
    returned (start.pollAll codec rawCodec raw polls).1
        <+: returned (start.pollAll codec rawCodec raw polls').1 ∨
      returned (start.pollAll codec rawCodec raw polls').1
        <+: returned (start.pollAll codec rawCodec raw polls).1 := by
  have hle : ∀ {polls : List Poll}, Growing polls →
      returned (start.pollAll codec rawCodec raw polls).1
        <+: (start.lineTaker codec rawCodec raw).records start.cursor (revealed polls) := by
    intro polls hgrowing
    rcases outcome_of_growing hstart hgrowing with ⟨-, -, hreturned⟩ | ⟨-, -, hreturned⟩
    · exact hreturned ▸ List.prefix_refl _
    · exact hreturned
  have hfirst := hle hgrowing
  rw [hrevealed] at hfirst
  exact List.prefix_or_prefix_of_prefix hfirst (hle hgrowing')

theorem exists_offence (journal : Bytes) :
    ∃ offence : Option Nat, ∀ polls, Growing polls → revealed polls <+: journal →
      (endsInError (start.pollAll codec rawCodec raw polls).1 = true ↔
        ∃ place ∈ offence, place ≤ (revealed polls).length) := by
  classical
  set refused := fun n => (start.lineTaker codec rawCodec raw).Refuses start.cursor (journal.take n)
    with hrefused
  -- what is refused stays refused, so the refused prefixes begin at the least one
  have hmono : ∀ {m n}, m ≤ n → refused m → refused n := by
    intro m n hle hm
    have hsplit : journal.take n = journal.take m ++ (journal.take n).drop m := by
      conv_lhs => rw [← List.take_append_drop m (journal.take n), List.take_take,
        Nat.min_eq_left hle]
    rw [hrefused]
    dsimp only
    rw [hsplit]
    exact (LineTaker.Refuses.append hm _).1
  have hends : ∀ polls, Growing polls → revealed polls <+: journal →
      (endsInError (start.pollAll codec rawCodec raw polls).1 = true ↔
        refused (revealed polls).length) := by
    intro polls hgrowing hprefix
    rw [(outcome_of_growing hstart hgrowing).refuses_iff, hrefused]
    dsimp only
    rw [← List.prefix_iff_eq_take.mp hprefix]
  by_cases hsome : ∃ n, refused n
  · refine ⟨some (Nat.find hsome), fun polls hgrowing hprefix => ?_⟩
    rw [hends polls hgrowing hprefix]
    simp only [Option.mem_some_iff, exists_eq_left']
    exact ⟨fun h => Nat.find_min' hsome h, fun h => hmono h (Nat.find_spec hsome)⟩
  · refine ⟨none, fun polls hgrowing hprefix => ?_⟩
    rw [hends polls hgrowing hprefix]
    exact ⟨fun h => absurd ⟨_, h⟩ hsome, by simp⟩

theorem exists_scan (hnew : Scanned start.cursor ⟨0, zeroDigest, none, []⟩) (path : String)
    {journal : File} (hgrowing : Growing polls) (hrevealed : revealed polls = journal.bytes)
    (hends : endsInError (start.pollAll codec rawCodec raw polls).1 = false) :
    ∃ scan, AgreesWithScan codec path journal (start.pollAll codec rawCodec raw polls).1
      (start.pollAll codec rawCodec raw polls).2 scan := by
  have hpolls := outcome_of_growing hstart hgrowing
  rw [hrevealed] at hpolls
  rcases hpolls with ⟨hfollowing, -, hreturned⟩ | ⟨-, hstopped, -⟩
  swap
  · rw [hends] at hstopped
    cases hstopped
  have hfailure := hfollowing.follows.failure_eq
  obtain ⟨reason, found, hloop, hclean, hfound⟩ :=
    @scanLoop_of_takeLines codec rawCodec raw start.expectedRawPath start.genesis journal.len
      journal.bytes start.cursor _ (Nat.le_refl _) hnew hfailure
  have hstate : (start.pollAll codec rawCodec raw polls).2.cursor
      = ((start.lineTaker codec rawCodec raw).takeLines start.cursor
        (splitLines journal.bytes).1).state := hfollowing.follows.state_eq
  have htorn : (start.pollAll codec rawCodec raw polls).2.pending
      = (splitLines journal.bytes).2 := hfollowing.follows.torn_eq
  refine ⟨⟨path, found.records, reason.isNone, reason, found.latestAck, found.previous,
    found.acknowledgements⟩, ?_, ?_, ?_, ?_, ?_⟩
  · rw [scanDurabilityProgress, hloop]
    rfl
  · rw [hstate]
    exact hfound.ack_eq
  · have hcount := @takeLines_nextRecordIndex codec rawCodec raw start.expectedRawPath
      start.genesis _ start.cursor hfailure
    rw [hreturned, LineTaker.records]
    have hzero : start.cursor.nextRecordIndex = 0 := hnew.records_eq.symm
    rw [hzero, Nat.zero_add] at hcount
    exact hfound.records_eq.trans hcount
  · rw [hstate]
    exact hfound.previous_eq
  · rw [htorn, ← hclean]
    exact Option.isNone_iff_eq_none

end

end SegmentDurabilityFollower

open SegmentDurabilityFollower

/-- **Following does not depend on when the journal is polled**: the cursor and the error are those
    of a single poll, two schedules never contradict each other, and what the follower accepts, the
    scan accepts. -/
theorem following_independent_of_polls (codec : ProgressCodec) (rawCodec : RawCodec) (raw : File)
    (genesis : RawSegmentGenesisV1) (expectedRawPath : String) (s : SegmentDurabilityFollower)
    (hopen : openWithRawIdentity raw genesis expectedRawPath = .ok s) (journal : File) :
    (∀ polls single, Growing polls → revealed polls = journal.bytes → single.journal = journal →
      AgreesWithSinglePoll codec rawCodec raw s polls single) ∧
    (∀ polls polls', Growing polls → Growing polls' → revealed polls = journal.bytes →
      revealed polls' = journal.bytes →
      returned (s.pollAll codec rawCodec raw polls).1
          <+: returned (s.pollAll codec rawCodec raw polls').1 ∨
        returned (s.pollAll codec rawCodec raw polls').1
          <+: returned (s.pollAll codec rawCodec raw polls).1) ∧
    (∃ offence : Option Nat, ∀ polls, Growing polls → revealed polls <+: journal.bytes →
      (endsInError (s.pollAll codec rawCodec raw polls).1 = true ↔
        ∃ place ∈ offence, place ≤ (revealed polls).length)) ∧
    (∀ polls path, Growing polls → revealed polls = journal.bytes →
      endsInError (s.pollAll codec rawCodec raw polls).1 = false →
      ∃ scan, AgreesWithScan codec path journal (s.pollAll codec rawCodec raw polls).1
        (s.pollAll codec rawCodec raw polls).2 scan) := by
  have hstart : Following codec rawCodec raw s s [] := following_of_open hopen
  refine ⟨?_, ?_, exists_offence hstart _, ?_⟩
  · rintro polls single hgrowing hrevealed rfl
    exact agrees_of_outcomes hstart hgrowing hrevealed
  · intro polls polls' hgrowing hgrowing' hrevealed hrevealed'
    exact returned_prefix_or hstart hgrowing hgrowing' (hrevealed.trans hrevealed'.symm)
  · intro polls path hgrowing hrevealed hends
    exact exists_scan hstart (scanned_of_open hopen) path hgrowing hrevealed hends

/-! ## A failed poll

The journal has one good line, and an empty one behind it. -/

def ackJson (ack : DurabilityAckV1) : Value :=
  .object [("schema", .string ack.schema),
    ("durable_record_count", .nat (UInt64.ofNat ack.durableRecordCount)),
    ("durable_through_offset", .nat (UInt64.ofNat ack.durableThroughOffset)),
    ("last_record_sha256", .string ack.lastRecordSha256),
    ("streams", .array (ack.streams.map fun watermark =>
      .object [("connection_epoch", .string watermark.connectionEpoch),
        ("stream", .string watermark.stream),
        ("durable_through_frame_index", .nat watermark.durableThroughFrameIndex)]))]

def ProgressBodyV1.text (body : ProgressBodyV1) : Bytes :=
  (Value.object [("schema", .string body.schema),
    ("record_index", .nat (UInt64.ofNat body.recordIndex)), ("raw_path", .string body.rawPath),
    ("ack", ackJson body.ack),
    ("previous_record_sha256", .string body.previousRecordSha256)]).toVec

/-- The compact text of a line: its body between the names of the fields. -/
def ProgressEnvelopeV1.text (envelope : ProgressEnvelopeV1) : Bytes :=
  asBytes "\x7b\"body\":" ++ envelope.body.text ++ asBytes ",\"record_sha256\":" ++
    (Value.string envelope.recordSha256).toVec ++ [125]

/-- The codec that knows the given lines, each with the digest of its body. -/
def knownProgressCodec (known : List (ProgressEnvelopeV1 × Nat)) : ProgressCodec where
  toVec := knownToVec ProgressBodyV1.text (known.map fun k => (k.1.body, k.2))
  fromSlice := knownFromSlice ProgressEnvelopeV1.text known
  digest := knownDigest ProgressBodyV1.text (known.map fun k => (k.1.body, k.2))

/-- The line that acknowledges the one record of the sample segment. -/
def sampleLine : ProgressEnvelopeV1 where
  body :=
    { schema := "RawDurabilityProgressV1"
      recordIndex := 0
      rawPath := "raw.bin"
      ack :=
        { schema := "DurabilityAckV1"
          durableRecordCount := 1
          durableThroughOffset := 616
          lastRecordSha256 := "5ba2f1e3bb34d3751638c7be6612f66190be096f14c74b13615c261eb3024729"
          streams := [⟨"a", "t", 0⟩] }
      previousRecordSha256 := zeroDigest }
  recordSha256 := "1eef0ba7014c027015af80e7b73c07ab6677d9831e3c8abb2f494ecc23283d00"

def sampleProgressCodec : ProgressCodec :=
  knownProgressCodec
    [(sampleLine, 0x1eef0ba7014c027015af80e7b73c07ab6677d9831e3c8abb2f494ecc23283d00)]

/-- A file system that serves what fits the buffer in one piece, and more byte by byte. -/
def sampleReads : ReadCalls where
  pieces bytes :=
    if bytes = [] then []
    else if bytes.length ≤ readChunkBytes then [bytes]
    else bytes.map fun b => [b]
  flatten_eq := by
    intro bytes
    split
    · rename_i hempty
      rw [hempty]
      rfl
    · split
      · exact List.append_nil bytes
      · rw [← List.flatMap_def, List.flatMap_singleton']
  piece_le := by
    intro bytes piece hpiece
    split at hpiece
    · cases hpiece
    · rename_i hsome
      split at hpiece
      · rename_i hfits
        rw [List.mem_singleton] at hpiece
        subst hpiece
        exact ⟨List.length_pos_iff.mpr hsome, hfits⟩
      · obtain ⟨b, -, rfl⟩ := List.mem_map.mp hpiece
        exact ⟨Nat.one_pos, show 1 ≤ readChunkBytes by decide⟩

def sampleRaw : File := Raw.StreamFollowState.sampleFile (Raw.sampleRecords.take 1)

def goodPoll : Poll := ⟨File.empty.append (sampleLine.text ++ [newline]), sampleReads⟩

def badPoll : Poll := ⟨File.empty.append (sampleLine.text ++ [newline, newline]), sampleReads⟩

theorem sampleResults :
    ((openWithRawIdentity sampleRaw Raw.StreamFollowState.sampleGenesis "raw.bin").map fun s =>
      ((returned (s.pollAll sampleProgressCodec Raw.sampleCodec sampleRaw [goodPoll, badPoll]).1).length,
        (returned (s.pollAll sampleProgressCodec Raw.sampleCodec sampleRaw [badPoll]).1).length,
        endsInError (s.pollAll sampleProgressCodec Raw.sampleCodec sampleRaw [goodPoll]).1))
      = .ok (1, 0, false) := by
  decide +kernel

theorem growing_samplePolls : Growing [goodPoll, badPoll] := by
  refine List.isChain_pair.mpr ?_
  exact ⟨[newline], by decide +kernel⟩

/-- The records of the two schedules differ: the poll that fails returns nothing. -/
theorem failed_poll_returns_nothing :
    ∃ s, openWithRawIdentity sampleRaw Raw.StreamFollowState.sampleGenesis "raw.bin" = .ok s ∧
      Growing [goodPoll, badPoll] ∧ revealed [goodPoll, badPoll] = badPoll.journal.bytes ∧
      returned (s.pollAll sampleProgressCodec Raw.sampleCodec sampleRaw [goodPoll, badPoll]).1
        ≠ returned (s.pollAll sampleProgressCodec Raw.sampleCodec sampleRaw [badPoll]).1 := by
  obtain ⟨s, hopen, hlengths⟩ := map_eq_ok.mp sampleResults
  refine ⟨s, hopen, growing_samplePolls, rfl, ?_⟩
  intro heq
  rw [heq, Prod.mk.injEq, Prod.mk.injEq] at hlengths
  omega

/-- The good line alone is followed, and scanned. -/
theorem sample_line_is_followed :
    ∃ s, openWithRawIdentity sampleRaw Raw.StreamFollowState.sampleGenesis "raw.bin" = .ok s ∧
      endsInError (s.pollAll sampleProgressCodec Raw.sampleCodec sampleRaw [goodPoll]).1 = false ∧
      ∃ scan, AgreesWithScan sampleProgressCodec "raw.bnack" goodPoll.journal
        (s.pollAll sampleProgressCodec Raw.sampleCodec sampleRaw [goodPoll]).1
        (s.pollAll sampleProgressCodec Raw.sampleCodec sampleRaw [goodPoll]).2 scan := by
  obtain ⟨s, hopen, hlengths⟩ := map_eq_ok.mp sampleResults
  rw [Prod.mk.injEq, Prod.mk.injEq] at hlengths
  refine ⟨s, hopen, hlengths.2.2, ?_⟩
  obtain ⟨-, -, -, hscan⟩ := following_independent_of_polls sampleProgressCodec Raw.sampleCodec
    sampleRaw Raw.StreamFollowState.sampleGenesis "raw.bin" s hopen goodPoll.journal
  exact hscan [goodPoll] "raw.bnack" (List.isChain_singleton _) rfl hlengths.2.2

end LobReplay.Progress
