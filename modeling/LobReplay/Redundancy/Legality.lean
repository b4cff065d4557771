/-
  The main loop of a hot-redundant capture makes legal calls: over a whole run `Legal` holds of
  every iteration (Redundancy.Iteration has the steps), as long as the deadline does not pass
  between two reads of one iteration and no lane is first seen ready once the horizon is closed:
  `InTime`.
-/

import LobReplay.Foundation.Outcome
import LobReplay.Redundancy.Calls
import LobReplay.Redundancy.Capture

namespace LobReplay.Redundancy

open Foundation
open HotRedundantSupervisor
open Campaign (CampaignJournalBodyV1 CampaignJournalEnvelopeV1)

/-! ## What may end a run -/

/-- A run that ends for a reason outside the state machine: the output or the journal of a child,
    or (only if `late`) a clock that runs past the terminal deadline. -/
def Outside (late : Prop) (abort : Abort) : Prop :=
  abort.stage = .output ∨ abort.stage = .journal ∨
    (late ∧ (abort.stage = .clock ∨ abort.stage = .grace))

section

variable {late : Prop} {α : Type} {Q : α → Prop} {result : Result α}

theorem within_output_ends (h : ∀ a, result = .ok a → Q a) :
    Ends (Outside late) Q (within .output result) := by
  cases result with
  | ok a => exact h a rfl
  | error failure => exact Or.inl rfl

theorem within_journal_ends (h : ∀ a, result = .ok a → Q a) :
    Ends (Outside late) Q (within .journal result) := by
  cases result with
  | ok a => exact h a rfl
  | error failure => exact Or.inr (Or.inl rfl)

theorem within_clock_ends {read : Nat} {Q : Nat → Prop} (hread : ¬ late → read ≤ u64Max)
    (h : Q read) : Ends (Outside late) Q (within .clock (elapsedNs read)) := by
  unfold elapsedNs
  split
  · exact h
  · next hlarge =>
    refine Or.inr (Or.inr ⟨?_, Or.inl rfl⟩)
    by_contra hlate
    exact hlarge (hread hlate)

end

/-! ## Deadlines -/

namespace Arguments

theorem terminalDeadline_le (args : Arguments) : args.terminalDeadline ≤ u64Max := by
  have := args.total_le
  simp only [terminalDeadline, deadline, u64Max]
  omega

theorem deadline_le (args : Arguments) : args.deadline ≤ args.terminalDeadline :=
  Nat.le_add_right _ _

theorem horizonNs_eq (args : Arguments) : args.horizonNs = args.deadline := by
  have h := args.terminalDeadline_le
  have hle := args.deadline_le
  unfold horizonNs
  unfold deadline at h hle ⊢
  omega

end Arguments

/-! ## Run tokens -/

theorem toList_laneToken (lane : CaptureLane) (attempt : Nat) (uuid : String) :
    (laneToken lane attempt uuid).toList
      = (laneLeaf lane).toList ++ '-' :: (Nat.toDigits 10 attempt ++ '-' :: uuid.toList) := by
  simp [laneToken]

theorem dash_not_mem_toDigits (n : Nat) : '-' ∉ Nat.toDigits 10 n := by
  intro h
  have := Nat.isDigit_of_mem_toDigits (by decide) (by decide) h
  exact absurd this (by decide)

theorem takeWhile_digits (n : Nat) (rest : List Char) :
    (Nat.toDigits 10 n ++ '-' :: rest).takeWhile (· != '-') = Nat.toDigits 10 n := by
  rw [List.takeWhile_append_of_pos]
  · simp
  · intro c hc
    simp only [bne_iff_ne, ne_eq]
    rintro rfl
    exact dash_not_mem_toDigits n hc

variable {lane : CaptureLane} {codec : CaptureCodec} {runtime runtime' : LaneRuntime}
  {runDir : String} {cursor cursor' : CampaignJournalCursor}
  {records : List CampaignJournalEnvelopeV1} {heartbeat : RawCampaignHeartbeatV1} {read : Nat}

theorem laneToken_inj {lane' : CaptureLane} {attempt attempt' : Nat} {uuid uuid' : String}
    (h : laneToken lane attempt uuid = laneToken lane' attempt' uuid') :
    lane = lane' ∧ attempt = attempt' := by
  have hlist := congrArg String.toList h
  rw [toList_laneToken, toList_laneToken] at hlist
  have hlane : lane = lane' := by
    cases lane <;> cases lane' <;> first | rfl | simp [laneLeaf] at hlist
  subst hlane
  refine ⟨rfl, ?_⟩
  have htail := List.cons.inj (List.append_cancel_left hlist)
  have hdigits := congrArg (List.takeWhile (· != '-')) htail.2
  rw [takeWhile_digits, takeWhile_digits] at hdigits
  rw [← Nat.ofDigitChars_ten_toDigits (n := attempt), hdigits, Nat.ofDigitChars_ten_toDigits]

theorem isBlank_laneToken (lane : CaptureLane) (attempt : Nat) (uuid : String) :
    isBlank (laneToken lane attempt uuid) = false := by
  unfold isBlank
  rw [toList_laneToken]
  cases lane <;> simp [laneLeaf]

/-- The used tokens name launches that have been made. -/
def Tokens (s : HotRedundantSupervisor) : Prop :=
  ∀ token, s.usedRunTokens.contains token = true →
    ∃ lane attempt uuid, token = laneToken lane attempt uuid ∧
      attempt ≤ (s.lanes lane).launchAttempt

theorem Tokens.fresh {s : HotRedundantSupervisor} (h : Tokens s) (lane : CaptureLane)
    (uuid : String) :
    s.usedRunTokens.contains (laneToken lane ((s.lanes lane).launchAttempt + 1) uuid) = false := by
  rw [Bool.eq_false_iff]
  intro hused
  obtain ⟨lane', attempt, uuid', heq, hle⟩ := h _ hused
  obtain ⟨rfl, rfl⟩ := laneToken_inj heq
  omega

/-! ## The account of the gaps -/

/-- The gaps of the loop carry the identities given out, and the open one is among them. -/
structure Tracked (s : HotRedundantSupervisor) (gaps : List GapInterval) : Prop where
  ids : gaps.map GapInterval.gapId = List.range s.nextGapId
  held : ∀ gap, s.openGap = some gap → gap ∈ gaps

/-- What a transition leaves of the state of the loop. -/
structure SameRuns (s s' : CaptureState) : Prop where
  runtimes_eq : s'.runtimes = s.runtimes
  runResults_eq : s'.runResults = s.runResults
  closed_eq : s'.horizonClosed = s.horizonClosed

theorem noteCoverage_same (s : CaptureState) (transition : CoverageTransition) :
    SameRuns s (noteCoverage s transition) ∧ (noteCoverage s transition).gaps = s.gaps ∧
      (noteCoverage s transition).supervisor = s.supervisor := by
  unfold noteCoverage
  split <;> exact ⟨⟨rfl, rfl, rfl⟩, rfl, rfl⟩

/-- A gap that takes the place of one with its identity. -/
theorem map_gapId_set {gaps : List GapInterval} {gap : GapInterval} {i : Nat}
    (hfind : gaps.findIdx? (fun candidate => decide (candidate.gapId = gap.gapId)) = some i) :
    (gaps.set i gap).map GapInterval.gapId = gaps.map GapInterval.gapId := by
  obtain ⟨hi, hat, -⟩ := List.findIdx?_eq_some_iff_getElem.mp hfind
  have hid : gap.gapId = gaps[i].gapId := (of_decide_eq_true hat).symm
  rw [List.map_set, hid, ← List.map_set, List.set_getElem_self]

/-- **A recomputation is recorded**: the gap it closes has been opened. -/
theorem supervise_recompute {s : CaptureState} {u : HotRedundantSupervisor} (now : Nat)
    (hgaps : Tracked u s.gaps) (hnext : u.nextGapId < u64Max) :
    ∃ s' transition, supervise s (u.recomputeCoverage now) = .ok s' ∧
      Recomputed u now transition s'.supervisor ∧ Tracked s'.supervisor s'.gaps ∧
      SameRuns s s' := by
  obtain ⟨transition, u', hcall, hu⟩ := recomputeCoverage_ok u now hnext
  obtain ⟨⟨hruntimes, hresults, hclosed⟩, hsame, hsupervisor⟩ :=
    noteCoverage_same { s with supervisor := u' } transition
  change _ = u' at hsupervisor
  change _ = s.gaps at hsame
  unfold supervise recordTransition
  rw [hcall]
  dsimp only [within_ok, bind, Except.bind]
  generalize noteCoverage { s with supervisor := u' } transition = s₁ at *
  rcases hu.gaps with ⟨-, hnone, hid, hopened, hclosing, hopen⟩ |
    ⟨hid, hopened, -, ⟨gap, hgap, hclosing⟩, hopen⟩ | ⟨hid, hopened, hclosing, -, hopen⟩ <;>
      rw [hopened, hclosing]
  · refine ⟨_, transition, rfl, ?_, ⟨?_, ?_⟩, hruntimes, hresults, hclosed⟩
    · rw [← hsupervisor] at hu
      exact hu
    · -- the next identity
      show (s₁.gaps ++ [_]).map GapInterval.gapId = List.range s₁.supervisor.nextGapId
      rw [hsame, hsupervisor, hid, List.map_append, hgaps.ids, List.range_succ]
      rfl
    · intro gap hgap
      have hgap' : s₁.supervisor.openGap = some gap := hgap
      rw [hsupervisor, hopen, hopened] at hgap'
      cases hgap'
      exact List.mem_append_right _ (List.mem_singleton_self _)
  · -- the gap that closes is the open one
    have hmem : gap ∈ s₁.gaps := by
      rw [hsame]
      exact hgaps.held gap hgap
    obtain ⟨i, hfind⟩ : ∃ i, s₁.gaps.findIdx? (fun candidate =>
        decide (candidate.gapId = (gap.close now).gapId)) = some i := by
      apply Option.isSome_iff_exists.mp
      rw [List.findIdx?_isSome, List.any_eq_true]
      exact ⟨gap, hmem, decide_eq_true rfl⟩
    obtain ⟨hi, hat, -⟩ := List.findIdx?_eq_some_iff_getElem.mp hfind
    unfold noteClosed noteOpened
    dsimp only
    rw [hfind]
    refine ⟨_, transition, rfl, ?_, ⟨?_, ?_⟩, hruntimes, hresults, hclosed⟩
    · rw [← hsupervisor] at hu
      exact hu
    · show (s₁.gaps.set i (gap.close now)).map GapInterval.gapId
        = List.range s₁.supervisor.nextGapId
      rw [map_gapId_set hfind, hsame, hsupervisor, hid, hgaps.ids]
    · intro gap' hgap'
      have hnone : s₁.supervisor.openGap = some gap' := hgap'
      rw [hsupervisor, hopen] at hnone
      cases hnone
  · refine ⟨s₁, transition, rfl, ?_, ⟨?_, ?_⟩, hruntimes, hresults, hclosed⟩
    · rw [← hsupervisor] at hu
      exact hu
    · rw [hsame, hsupervisor, hid]
      exact hgaps.ids
    · intro gap hgap
      rw [hsupervisor, hopen] at hgap
      rw [hsame]
      exact hgaps.held gap hgap

/-! ## What a child tells -/

def NonBlank (text : Option String) : Prop := ∀ t, text = some t → isBlank t = false

/-- The failure reasons of a runtime are not blank. -/
structure Explained (runtime : LaneRuntime) : Prop where
  reason : NonBlank runtime.failureReason
  journal : ∀ cursor, runtime.cursor = some cursor → NonBlank cursor.facts.failureReason

/-- The run goes on: only what has been learned from the child has changed. -/
structure SameRun (runtime runtime' : LaneRuntime) : Prop where
  token_eq : runtime'.token = runtime.token
  ready_eq : runtime'.ready = runtime.ready
  started_eq : runtime'.startedMonoNs = runtime.startedMonoNs
  exitStatus_eq : runtime'.exitStatus = runtime.exitStatus
  exitSeen_eq : runtime'.exitSeen = runtime.exitSeen
  explained : Explained runtime → Explained runtime'

theorem SameRun.refl (runtime : LaneRuntime) : SameRun runtime runtime :=
  ⟨rfl, rfl, rfl, rfl, rfl, id⟩

theorem SameRun.trans {a b c : LaneRuntime} (hab : SameRun a b) (hbc : SameRun b c) :
    SameRun a c :=
  ⟨hbc.token_eq.trans hab.token_eq, hbc.ready_eq.trans hab.ready_eq,
    hbc.started_eq.trans hab.started_eq, hbc.exitStatus_eq.trans hab.exitStatus_eq,
    hbc.exitSeen_eq.trans hab.exitSeen_eq, hbc.explained ∘ hab.explained⟩

theorem observe_nonBlank {facts facts' : ReadinessFacts} {body : CampaignJournalBodyV1}
    (h : observe facts body = .ok facts') (hfacts : NonBlank facts.failureReason) :
    NonBlank facts'.failureReason := by
  unfold observe at h
  dsimp only at h
  split at h
  · obtain ⟨reason, hreason, h⟩ := bind_eq_ok.mp h
    split at h
    · cases h
    · cases h
      intro t ht
      cases ht
      have hsome := okOr_eq_ok.mp hreason
      rw [Option.filter_eq_some_iff] at hsome
      simpa using hsome.2
  -- the other records leave the cause as it is
  repeat' split at h
  all_goals first
    | (cases h; exact hfacts)
    | (obtain ⟨stream, -, h⟩ := bind_eq_ok.mp h
       repeat' split at h
       all_goals (cases h; try exact hfacts))

theorem readRecord_nonBlank {envelope : CampaignJournalEnvelopeV1}
    (h : readRecord codec cursor envelope = .ok cursor')
    (hcursor : NonBlank cursor.facts.failureReason) : NonBlank cursor'.facts.failureReason := by
  unfold readRecord at h
  dsimp only at h
  split at h
  · cases h
  · obtain ⟨facts, hfacts, h⟩ := bind_eq_ok.mp h
    obtain ⟨nextIndex, -, h⟩ := bind_eq_ok.mp h
    cases h
    exact observe_nonBlank hfacts hcursor

theorem readNew_nonBlank (h : readNew codec cursor records = .ok cursor')
    (hcursor : NonBlank cursor.facts.failureReason) : NonBlank cursor'.facts.failureReason := by
  have hends : Ends (fun _ => True) (fun cursor : CampaignJournalCursor =>
      NonBlank cursor.facts.failureReason) (readNew codec cursor records) := by
    apply Ends.foldlM (fun _ (cursor : CampaignJournalCursor) =>
      NonBlank cursor.facts.failureReason) hcursor
    intro envelope _ cursor hcursor
    cases hread : readRecord codec cursor envelope with
    | ok cursor' => exact readRecord_nonBlank hread hcursor
    | error failure => exact trivial
  exact hends.of_eq_ok h

theorem refresh_same (h : refresh codec runtime records = .ok runtime') :
    SameRun runtime runtime' := by
  unfold refresh at h
  cases hcursor : runtime.cursor with
  | none =>
    rw [hcursor] at h
    cases h
    exact SameRun.refl _
  | some cursor =>
    rw [hcursor] at h
    obtain ⟨cursor', hread, h⟩ := bind_eq_ok.mp h
    cases h
    refine ⟨rfl, rfl, rfl, rfl, rfl, fun hexplained => ?_⟩
    have hfacts := readNew_nonBlank hread (hexplained.journal cursor hcursor)
    refine ⟨?_, ?_⟩
    · intro t ht
      cases hreason : runtime.failureReason with
      | some reason =>
        rw [hreason] at ht
        cases ht
        exact hexplained.reason t hreason
      | none =>
        rw [hreason] at ht
        exact hfacts t ht
    · intro cursor'' hcursor''
      cases hcursor''
      exact hfacts

theorem validate_nonBlank (h : heartbeat.validate = .ok ()) : NonBlank heartbeat.failureReason := by
  unfold RawCampaignHeartbeatV1.validate at h
  rw [ite_err_eq_ok] at h
  intro t ht
  have hblank : ¬ heartbeat.failureReason.any isBlank = true := fun hany => h.1 (by tauto)
  rw [ht] at hblank
  simpa using hblank

theorem nameCampaign_same {campaignId : String}
    (h : nameCampaign runDir lane runtime campaignId = .ok runtime') :
    SameRun runtime runtime' := by
  unfold nameCampaign at h
  split at h
  · rw [ite_err_eq_ok] at h
    obtain ⟨-, h⟩ := h
    cases h
    exact SameRun.refl _
  · obtain ⟨⟨⟩, -, h⟩ := bind_eq_ok.mp h
    cases h
    refine ⟨rfl, rfl, rfl, rfl, rfl, fun hexplained => ⟨hexplained.reason, ?_⟩⟩
    -- the new cursor has read nothing
    intro cursor hcursor t ht
    cases hcursor
    cases ht

theorem noteHeartbeat_same (h : noteHeartbeat runDir lane runtime heartbeat read = .ok runtime') :
    SameRun runtime runtime' := by
  obtain ⟨⟨⟩, hvalid, h⟩ := bind_eq_ok.mp h
  have hreason := validate_nonBlank hvalid
  obtain ⟨named, hnamed, h⟩ := bind_eq_ok.mp h
  apply (nameCampaign_same hnamed).trans
  dsimp only at h
  split at h
  · cases h
    exact ⟨rfl, rfl, rfl, rfl, rfl, fun hexplained => ⟨hreason, hexplained.journal⟩⟩
  · cases h
    exact ⟨rfl, rfl, rfl, rfl, rfl, fun hexplained => ⟨hexplained.reason, hexplained.journal⟩⟩

theorem processLine_same {output : ChildOutput} {result : LaneRuntime × List SupervisorRecord}
    (h : processLine codec runDir runtime read output = .ok result) : SameRun runtime result.1 := by
  cases output with
  | stderr lane token line =>
    unfold processLine at h
    rw [ite_err_eq_ok] at h
    obtain ⟨-, h⟩ := h
    cases h
    exact ⟨rfl, rfl, rfl, rfl, rfl, fun hexplained => ⟨hexplained.reason, hexplained.journal⟩⟩
  | stdout lane token line =>
    obtain ⟨runtime', hline, h⟩ := bind_eq_ok.mp h
    cases h
    unfold processStdout at hline
    dsimp only at hline
    split at hline
    · cases hline
    · split at hline
      · exact noteHeartbeat_same hline
      · split at hline
        · cases hline
        · split at hline
          · cases hline
          · cases hline
          · split at hline
            · cases hline
            · cases hline
              exact ⟨rfl, rfl, rfl, rfl, rfl, fun hexplained =>
                ⟨hexplained.reason, hexplained.journal⟩⟩

/-! ## Draining the output -/

/-- The run of a lane goes on, or there still is none. -/
def Continued : Option LaneRuntime → Option LaneRuntime → Prop
  | none, after => after = none
  | some runtime, after => ∃ runtime', after = some runtime' ∧ SameRun runtime runtime'

theorem Continued.refl (before : Option LaneRuntime) : Continued before before := by
  cases before with
  | none => rfl
  | some runtime => exact ⟨runtime, rfl, SameRun.refl runtime⟩

theorem Continued.trans {a b c : Option LaneRuntime} (hab : Continued a b) (hbc : Continued b c) :
    Continued a c := by
  cases a with
  | none =>
    cases hab
    exact hbc
  | some runtime =>
    obtain ⟨runtime', rfl, hsame⟩ := hab
    obtain ⟨runtime'', hc, hsame'⟩ := hbc
    exact ⟨runtime'', hc, hsame.trans hsame'⟩

/-- Output has been processed: the state machine and the account are as before. -/
structure Heard (s s' : CaptureState) : Prop where
  supervisor_eq : s'.supervisor = s.supervisor
  gaps_eq : s'.gaps = s.gaps
  closed_eq : s'.horizonClosed = s.horizonClosed
  continued : ∀ lane, Continued (s.runtimes lane) (s'.runtimes lane)

theorem Heard.refl (s : CaptureState) : Heard s s :=
  ⟨rfl, rfl, rfl, fun _ => Continued.refl _⟩

theorem Heard.trans {a b c : CaptureState} (hab : Heard a b) (hbc : Heard b c) : Heard a c :=
  ⟨hbc.supervisor_eq.trans hab.supervisor_eq, hbc.gaps_eq.trans hab.gaps_eq,
    hbc.closed_eq.trans hab.closed_eq, fun lane => (hab.continued lane).trans (hbc.continued lane)⟩

section

variable {codec : CaptureCodec} {args : Arguments} {runDir : String} {late : Prop}

theorem processOutput_ends (s : CaptureState) (input : Nat × ChildOutput) :
    Ends (Outside late) (Heard s) (processOutput codec runDir s input) := by
  unfold processOutput
  dsimp only
  split
  · exact Heard.refl s
  · next runtime hruntime =>
    split
    · exact Heard.refl s
    · apply Ends.bind (within_output_ends fun result hresult => processLine_same hresult)
      intro result hsame
      refine ⟨rfl, rfl, rfl, fun lane => ?_⟩
      show Continued (s.runtimes lane) (Function.update s.runtimes _ _ lane)
      by_cases hlane : lane = input.2.source.1
      · rw [hlane, Function.update_self, hruntime]
        exact ⟨result.1, rfl, hsame⟩
      · rw [Function.update_of_ne hlane]
        exact Continued.refl _

/-- The lines that have arrived change only what is known of the children. -/
theorem drainOutput_ends (s : CaptureState) (outputs : List (Nat × ChildOutput)) :
    Ends (Outside late) (Heard s) (drainOutput codec runDir s outputs) := by
  apply Ends.foldlM (fun _ s' => Heard s s') (Heard.refl s)
  intro input _ s' hheard
  exact (processOutput_ends s' input).mono fun s'' hheard' => hheard.trans hheard'

end

end LobReplay.Redundancy
