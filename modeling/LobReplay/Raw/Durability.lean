/-
  Durability ACKs under any schedule of sink faults. A session is intact, poisoned or dead
  (`Sound`), and `step_cases` says what a call does to an intact one. An ACK is only ever issued by
  an intact writer about its own bookkeeping, which is what its bytes scan to
  (`trueAck_currentAck`); a failure poisons the writer, and a poisoned writer neither answers nor
  writes.
-/

import LobReplay.Raw.TornTail

namespace LobReplay.Raw

open Foundation Std RawLogWriter

/-- The ACK holds of a file: its prefix up to the acknowledged offset scans cleanly to the
    acknowledged records and digest. -/
def TrueAck (codec : RawCodec) (genesis : Option RawSegmentGenesisV1) (path : String) (file : File)
    (ack : DurabilityAckV1) : Prop :=
  ack.durableThroughOffset ≤ file.len ∧
    ∃ scan, scanLog codec path (file.cut ack.durableThroughOffset) genesis = .ok scan ∧
      scan.cleanEof = true ∧ scan.records = ack.durableRecordCount ∧
      scan.lastRecordSha256 = ack.lastRecordSha256

def returnedAck : Result Reply → Option DurabilityAckV1
  | .ok reply => reply.durabilityAck
  | .error _ => none

def DurabilityAckV1.Before (a b : DurabilityAckV1) : Prop :=
  a.durableRecordCount ≤ b.durableRecordCount ∧ a.durableThroughOffset ≤ b.durableThroughOffset

namespace Session

/-- A call, with the session it leaves as part of what is recorded of it. -/
def traced (codec : RawCodec) (session : Session) (call : Call) :
    (Result Reply × Session) × Session :=
  (session.step codec call, (session.step codec call).2)

/-- A session is dead, poisoned by a failure of its sink, or intact. -/
def Sound (codec : RawCodec) (genesis : Option RawSegmentGenesisV1) (session : Session) : Prop :=
  (session.alive = false ∧ session.writer.sink.failed = false) ∨
  (session.alive = true ∧ session.writer.poisoned = true ∧ session.writer.sink.failed = true) ∨
  (session.alive = true ∧ ∃ items, Intact codec genesis items session.writer)

section

variable {codec : RawCodec} {genesis : Option RawSegmentGenesisV1} {session : Session}
  {items : List (ReadRecord × Nat)} {writer : RawLogWriter} {added : List (ReadRecord × Nat)}
  {session' : Session}

/-- **The bookkeeping of an intact writer is true.** -/
theorem trueAck_currentAck (path : String) (h : Intact codec genesis items writer)
    (hgenesis : ∀ g, genesis = some g → validateSegmentGenesis g = .ok ()) :
    TrueAck codec genesis path writer.sink.file writer.currentAck := by
  obtain ⟨log, hbytes, hreads⟩ := h.reads
  have hlen : writer.endOffset = writer.sink.file.len := h.len_eq.symm
  have hcut : (writer.sink.file.cut writer.endOffset).bytes = magic ++ log := by
    rw [File.cut_bytes, hlen, File.len, List.take_length, hbytes]
  obtain ⟨scan, hscan, hreports⟩ := scanRawLogFrom_of_reads path hcut hreads (Or.inl rfl)
  refine ⟨Nat.le_of_eq hlen, scan, ?_, hreports.clean_iff.mpr rfl, ?_, hreports.digest_eq⟩
  · rw [scanLog_eq hgenesis]
    exact hscan
  · rw [hreports.records_eq, ← h.count_eq]
    rfl

/-- **Step.** A call on an intact session is refused, poisons it, kills it, or is answered by
    an intact one; an ACK in the answer is the bookkeeping of the writer that gives it. -/
theorem step_cases (hcodec : codec.Lawful) (halive : session.alive = true)
    (h : Intact codec genesis items session.writer) (call : Call) :
    (∃ message, session.step codec call = (err message, session)) ∨
    (∃ message session', session.step codec call = (err message, session') ∧
      session'.alive = true ∧ session'.writer.poisoned = true ∧
      session'.writer.sink.failed = true) ∨
    (∃ session', session.step codec call = (.error .abort, session') ∧ session'.alive = false ∧
      session'.writer.sink.failed = false) ∨
    (∃ reply session' added, session.step codec call = (.ok reply, session') ∧
      session'.alive = true ∧ Intact codec genesis (items ++ added) session'.writer ∧
      (reply.durabilityAck = none ∨
        reply.durabilityAck = some session'.writer.currentAck)) := by
  obtain ⟨writer, alive⟩ := session
  obtain rfl : alive = true := halive
  unfold step
  rw [if_neg (by simp)]
  cases call with
  | append frame =>
    rcases append_cases hcodec h frame with ⟨message, hresult⟩ |
      ⟨message, writer', hresult, hpoisoned, hfailed⟩ | ⟨writer', hresult, hfailed⟩ |
      ⟨receipt, writer', hresult, haccepted⟩
    · simp only [hresult]
      exact Or.inl ⟨message, rfl⟩
    · simp only [hresult]
      exact Or.inr (Or.inl ⟨message, _, rfl, rfl, hpoisoned, hfailed⟩)
    · simp only [hresult]
      exact Or.inr (Or.inr (Or.inl ⟨_, rfl, rfl, hfailed⟩))
    · simp only [hresult]
      obtain ⟨item, hintact, -⟩ := haccepted.intact
      exact Or.inr (Or.inr (Or.inr ⟨_, _, [item], rfl, rfl, hintact, haccepted.ack_eq⟩))
  | sync =>
    rcases sync_cases h with ⟨message, sink, hresult, hfailed⟩ | ⟨sink, hresult, hintact⟩
    · simp only [hresult]
      exact Or.inr (Or.inl ⟨message, _, rfl, rfl, rfl, hfailed⟩)
    · simp only [hresult]
      exact Or.inr (Or.inr (Or.inr ⟨_, _, [], rfl, rfl, by rwa [List.append_nil], Or.inr rfl⟩))

theorem step_poisoned (halive : session.alive = true) (h : session.writer.poisoned = true)
    (call : Call) :
    session.step codec call = (err "raw writer is poisoned", session) := by
  obtain ⟨writer, alive⟩ := session
  obtain rfl : alive = true := halive
  unfold step
  rw [if_neg (by simp)]
  cases call with
  | append frame =>
    simp only [append_poisoned h]
    rfl
  | sync =>
    simp only [sync_poisoned h]
    rfl

theorem step_dead (hdead : session.alive = false) (call : Call) :
    session.step codec call = (.error .abort, session) := if_pos hdead

/-- What a history has shown by the time it reaches `session`. -/
structure Shown (codec : RawCodec) (genesis : Option RawSegmentGenesisV1) (path : String)
    (history : List (Result Reply × Session)) (session : Session) : Prop where
  sound : Sound codec genesis session
  acks_true : ∀ out ∈ history, ∀ ack, returnedAck out.1 = some ack →
    TrueAck codec genesis path out.2.writer.sink.file ack
  acks_ordered : (history.filterMap fun out => returnedAck out.1).Pairwise DurabilityAckV1.Before
  acks_past : ∀ items, session.alive = true → Intact codec genesis items session.writer →
    ∀ ack ∈ history.filterMap fun out => returnedAck out.1, ack.Before session.writer.currentAck
  silent : history.Pairwise fun earlier later => earlier.2.writer.sink.failed = true →
    (∃ message, later.1 = err message) ∧ later.2.writer.sink.file = earlier.2.writer.sink.file
  stuck : ∀ out ∈ history, out.2.writer.sink.failed = true →
    session.writer.sink.failed = true ∧ session.writer.sink.file = out.2.writer.sink.file

theorem Before.refl (ack : DurabilityAckV1) : ack.Before ack := ⟨Nat.le_refl _, Nat.le_refl _⟩

/-- A longer log acknowledges more. -/
theorem currentAck_before {writer' : RawLogWriter} (h : Intact codec genesis items writer)
    (h' : Intact codec genesis (items ++ added) writer') :
    writer.currentAck.Before writer'.currentAck := by
  refine ⟨?_, ?_⟩
  · show writer.recordCount ≤ writer'.recordCount
    rw [h.count_eq, h'.count_eq, List.length_append]
    omega
  · show writer.endOffset ≤ writer'.endOffset
    rw [h.offset_eq, h'.offset_eq, span_append]
    omega

variable {path : String} {history : List (Result Reply × Session)}

theorem Shown.concat_silent {failure : Failure} (h : Shown codec genesis path history session)
    (hsound : Sound codec genesis session')
    (hpast : ∀ items, session'.alive = true → Intact codec genesis items session'.writer →
      ∀ ack ∈ history.filterMap fun out => returnedAck out.1, ack.Before session'.writer.currentAck)
    (hstuck : session.writer.sink.failed = true →
      (∃ message, failure = .err message) ∧ session' = session) :
    Shown codec genesis path (history ++ [(.error failure, session')]) session' := by
  have hacks : ((history ++ [((.error failure : Result Reply), session')]).filterMap fun out =>
      returnedAck out.1) = history.filterMap fun out => returnedAck out.1 := by
    simp [returnedAck]
  refine ⟨hsound, ?_, ?_, ?_, ?_, ?_⟩
  · intro out hout ack hack
    rcases List.mem_append.mp hout with hout | hout
    · exact h.acks_true out hout ack hack
    · rw [List.mem_singleton.mp hout] at hack
      cases hack
  · rw [hacks]
    exact h.acks_ordered
  · rw [hacks]
    exact hpast
  · rw [List.pairwise_append]
    refine ⟨h.silent, List.pairwise_singleton _ _, ?_⟩
    intro earlier hearlier later hlater hfailed
    rw [List.mem_singleton.mp hlater]
    obtain ⟨hnow, hfile⟩ := h.stuck earlier hearlier hfailed
    obtain ⟨⟨message, rfl⟩, rfl⟩ := hstuck hnow
    exact ⟨⟨message, rfl⟩, hfile⟩
  · intro out hout hfailed
    rcases List.mem_append.mp hout with hout | hout
    · obtain ⟨hnow, hfile⟩ := h.stuck out hout hfailed
      obtain ⟨-, rfl⟩ := hstuck hnow
      exact ⟨hnow, hfile⟩
    · rw [List.mem_singleton.mp hout] at hfailed ⊢
      exact ⟨hfailed, rfl⟩

theorem Shown.concat_ok {reply : Reply}
    (hgenesis : ∀ g, genesis = some g → validateSegmentGenesis g = .ok ())
    (h : Shown codec genesis path history session) (halive : session.alive = true)
    (hintact : Intact codec genesis items session.writer) (halive' : session'.alive = true)
    (hintact' : Intact codec genesis (items ++ added) session'.writer)
    (hack : reply.durabilityAck = none ∨ reply.durabilityAck = some session'.writer.currentAck) :
    Shown codec genesis path (history ++ [(.ok reply, session')]) session' := by
  have hnow : ∀ out ∈ history, out.2.writer.sink.failed ≠ true := by
    intro out hout hfailed
    have := (h.stuck out hout hfailed).1
    rw [hintact.sound_eq] at this
    cases this
  have hpast : ∀ ack ∈ history.filterMap fun out => returnedAck out.1,
      ack.Before session'.writer.currentAck := by
    intro ack hmem
    obtain ⟨hcount, hoffset⟩ := h.acks_past items halive hintact ack hmem
    obtain ⟨hcount', hoffset'⟩ := currentAck_before hintact hintact'
    exact ⟨Nat.le_trans hcount hcount', Nat.le_trans hoffset hoffset'⟩
  have hsome : ∀ ack, reply.durabilityAck = some ack → ack = session'.writer.currentAck := by
    intro ack hsome
    rcases hack with hack | hack
    · rw [hack] at hsome
      cases hsome
    · exact Option.some.inj (hsome.symm.trans hack)
  have hacks : ((history ++ [((.ok reply : Result Reply), session')]).filterMap fun out =>
      returnedAck out.1)
      = (history.filterMap fun out => returnedAck out.1) ++ reply.durabilityAck.toList := by
    rw [List.filterMap_append]
    rcases hreply : reply.durabilityAck with _ | ack <;> simp [returnedAck, hreply]
  refine ⟨Or.inr (Or.inr ⟨halive', _, hintact'⟩), ?_, ?_, ?_, ?_, ?_⟩
  · intro out hout ack hack
    rcases List.mem_append.mp hout with hout | hout
    · exact h.acks_true out hout ack hack
    · rw [List.mem_singleton.mp hout] at hack ⊢
      rw [hsome ack hack]
      exact trueAck_currentAck path hintact' hgenesis
  · rw [hacks, List.pairwise_append]
    refine ⟨h.acks_ordered, ?_, ?_⟩
    · rcases reply.durabilityAck with _ | ack <;> simp
    · intro earlier hearlier later hlater
      rw [Option.mem_toList] at hlater
      rw [hsome later hlater]
      exact hpast earlier hearlier
  · intro _ _ _ ack hmem
    rw [hacks, List.mem_append, Option.mem_toList] at hmem
    rcases hmem with hmem | hmem
    · exact hpast ack hmem
    · rw [hsome ack hmem]
      exact Before.refl _
  · rw [List.pairwise_append]
    refine ⟨h.silent, List.pairwise_singleton _ _, ?_⟩
    intro earlier hearlier _ _ hfailed
    exact absurd hfailed (hnow earlier hearlier)
  · intro out hout hfailed
    rcases List.mem_append.mp hout with hout | hout
    · exact absurd hfailed (hnow out hout)
    · rw [List.mem_singleton.mp hout] at hfailed ⊢
      exact ⟨hfailed, rfl⟩

/-- **One more call** keeps what a history has shown. -/
theorem Shown.concat (hcodec : codec.Lawful)
    (hgenesis : ∀ g, genesis = some g → validateSegmentGenesis g = .ok ())
    (h : Shown codec genesis path history session) (call : Call) :
    Shown codec genesis path (history ++ [session.step codec call])
      (session.step codec call).2 := by
  rcases h.sound with ⟨hdead, hfailed⟩ | ⟨halive, hpoisoned, hfailed⟩ | ⟨halive, items, hintact⟩
  · rw [step_dead hdead]
    exact h.concat_silent h.sound h.acks_past (by simp [hfailed])
  · rw [step_poisoned halive hpoisoned]
    exact h.concat_silent h.sound h.acks_past fun _ => ⟨⟨_, rfl⟩, rfl⟩
  · have hsink : session.writer.sink.failed ≠ true := by simp [hintact.sound_eq]
    rcases step_cases hcodec halive hintact call with ⟨message, hstep⟩ |
      ⟨message, session', hstep, halive', hpoisoned', hfailed'⟩ |
      ⟨session', hstep, hdead', hfailed'⟩ |
      ⟨reply, session', added, hstep, halive', hintact', hack⟩
    · rw [hstep]
      exact h.concat_silent h.sound h.acks_past fun hfailed => absurd hfailed hsink
    · rw [hstep]
      refine h.concat_silent (Or.inr (Or.inl ⟨halive', hpoisoned', hfailed'⟩)) ?_
        fun hfailed => absurd hfailed hsink
      intro items _ hintact'
      rw [hintact'.sound_eq] at hfailed'
      cases hfailed'
    · rw [hstep]
      refine h.concat_silent (Or.inl ⟨hdead', hfailed'⟩) ?_ fun hfailed => absurd hfailed hsink
      intro items halive'
      rw [hdead'] at halive'
      cases halive'
    · rw [hstep]
      exact h.concat_ok hgenesis halive hintact halive' hintact' hack

end

end Session

/-- **ACKs never overclaim.** Under every schedule of sink faults each ACK returned is true of the
    sink's bytes, and after a call in which the sink has failed nothing more is written. -/
theorem durability_acks_never_overclaim (codec : RawCodec) (hcodec : codec.Lawful)
    (faults : List Fault) (syncEvery : Nat) (genesis : Option RawSegmentGenesisV1)
    (writer : RawLogWriter) (hopen : openLog (Sink.fresh faults) syncEvery genesis = .ok writer)
    (calls : List Call) (path : String) :
    let history := (run (Session.traced codec) ⟨writer, true⟩ calls).1
    let final := (run (Session.traced codec) ⟨writer, true⟩ calls).2
    (∀ out ∈ history, ∀ ack, returnedAck out.1 = some ack →
      TrueAck codec genesis path out.2.writer.sink.file ack) ∧
    (history.filterMap fun out => returnedAck out.1).Pairwise DurabilityAckV1.Before ∧
    (history.Pairwise fun earlier later => earlier.2.writer.sink.failed = true →
      (∃ message, later.1 = err message) ∧
        later.2.writer.sink.file = earlier.2.writer.sink.file) ∧
    final.writer.drop.sink.file = final.writer.sink.file := by
  obtain ⟨hintact, hgenesis⟩ := openLog_intact codec hopen
  have hstart : Session.Shown codec genesis path [] ⟨writer, true⟩ :=
    ⟨Or.inr (Or.inr ⟨rfl, [], hintact⟩), by simp, by simp, by simp, by simp, by simp⟩
  have hshown : Session.Shown codec genesis path
      (run (Session.traced codec) ⟨writer, true⟩ calls).1
      (run (Session.traced codec) ⟨writer, true⟩ calls).2 :=
    run_induction (P := fun _ history session => Session.Shown codec genesis path history session)
      hstart (fun _ _ _ call h => h.concat hcodec hgenesis call) calls
  exact ⟨hshown.acks_true, hshown.acks_ordered, hshown.silent, drop_file _⟩

/-- The sixth operation of the sink fails after 100 bytes: the magic and the first record are
    written and synced, the second record is torn. -/
def tornSecondWrite : List Fault :=
  [.none, .none, .none, .none, .none, .fail 100 "injected partial write"]

def sampleCalls : List Call := sampleFrames.map .append ++ [.sync]

/-- The first record is acknowledged truly, and nothing after the torn write is. -/
theorem torn_write_is_not_acknowledged :
    ∃ writer, openLog (Sink.fresh tornSecondWrite) 1 none = .ok writer ∧
      ((run (Session.traced sampleCodec) ⟨writer, true⟩ sampleCalls).1.map fun out =>
        ((returnedAck out.1).map (·.durableRecordCount), out.2.writer.sink.failed))
        = [(some 1, false), (none, true), (none, true)] ∧
      ∀ out ∈ (run (Session.traced sampleCodec) ⟨writer, true⟩ sampleCalls).1, ∀ ack,
        returnedAck out.1 = some ack →
          TrueAck sampleCodec none "raw.bin" out.2.writer.sink.file ack := by
  have hrun : (openLog (Sink.fresh tornSecondWrite) 1 none).map (fun writer =>
      (run (Session.traced sampleCodec) ⟨writer, true⟩ sampleCalls).1.map fun out =>
        ((returnedAck out.1).map (·.durableRecordCount), out.2.writer.sink.failed))
      = .ok [(some 1, false), (none, true), (none, true)] := by decide +kernel
  rcases hopen : openLog (Sink.fresh tornSecondWrite) 1 none with e | writer
  · rw [hopen] at hrun
    cases hrun
  · rw [hopen] at hrun
    exact ⟨writer, rfl, Except.ok.inj hrun,
      (durability_acks_never_overclaim sampleCodec sampleCodec_lawful tornSecondWrite 1 none writer
        hopen sampleCalls "raw.bin").1⟩

end LobReplay.Raw
