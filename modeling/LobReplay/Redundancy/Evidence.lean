/-
  What the verifier reads off the supervisor journal is what the supervisor knows. Along a run,
  `collect_lane_evidence` over the journal so far yields, for each launch, the evidence of its
  runtime or of its result (`Evident`), and `validate_gaps` yields the gaps of the loop
  (`GapEvident`).
-/

import LobReplay.Redundancy.Artifact
import LobReplay.Redundancy.Legality

namespace LobReplay.Redundancy

open Foundation
open HotRedundantSupervisor
open Campaign (CampaignJournalEnvelopeV1)

/-! ## Gaps in JSON -/

variable {n now : Nat} {gap : GapInterval} {u : HotRedundantSupervisor}
  {transition : CoverageTransition}

theorem natValue_asU64 (h : n ≤ u64Max) :
    ∃ m : UInt64, (natValue n).asU64 = some m ∧ m.toNat = n := by
  refine ⟨UInt64.ofNat n, rfl, ?_⟩
  rw [UInt64.toNat_ofNat']
  apply Nat.mod_eq_of_lt
  simp only [u64Max] at h
  omega

/-- The times of a gap are `u64`s. -/
structure Fits (gap : GapInterval) : Prop where
  id_le : gap.gapId ≤ u64Max
  opened_le : gap.openedMonoNs ≤ u64Max
  closed_le : ∀ t, gap.closedMonoNs = some t → t ≤ u64Max
  unavailable_le : ∀ t, gap.unavailableNs = some t → t ≤ u64Max

theorem optionNatMember_optionNatValue {payload : Value} {key : String} {n : Option Nat}
    (h : payload.get key = some (optionNatValue n)) (hn : ∀ t, n = some t → t ≤ u64Max) :
    optionNatMember payload key = some n := by
  unfold optionNatMember
  rw [h]
  cases n with
  | none => rfl
  | some t =>
    obtain ⟨m, hm, hvalue⟩ := natValue_asU64 (hn t rfl)
    show (natValue t).asU64.map _ = _
    rw [hm, Option.map_some, hvalue]

/-- A gap survives its JSON form. -/
theorem gapFromValue_gapValue (h : Fits gap) : gapFromValue (gapValue gap) = some gap := by
  obtain ⟨id, hid, hidValue⟩ := natValue_asU64 h.id_le
  obtain ⟨opened, hopened, hopenedValue⟩ := natValue_asU64 h.opened_le
  have hidField : (gapValue gap).u64Field "gap_id" = some id := hid
  have hopenedField : (gapValue gap).u64Field "opened_mono_ns" = some opened := hopened
  have hclosed : optionNatMember (gapValue gap) "closed_mono_ns" = some gap.closedMonoNs :=
    optionNatMember_optionNatValue rfl h.closed_le
  have hunavailable : optionNatMember (gapValue gap) "unavailable_ns" = some gap.unavailableNs :=
    optionNatMember_optionNatValue rfl h.unavailable_le
  unfold gapFromValue
  rw [hidField, hopenedField, hclosed, hunavailable]
  show some (⟨id.toNat, opened.toNat, _, _⟩ : GapInterval) = _
  rw [hidValue, hopenedValue]

/-! ## What a call does to the gaps -/

/-- The gaps in an accepted call of the state machine. -/
inductive GapStep (s : HotRedundantSupervisor) (transition : CoverageTransition)
    (s' : HotRedundantSupervisor) : Prop where
  | opens (now : Nat) (hnow : now ≤ u64Max) (hid : s.nextGapId ≤ u64Max)
      (hopened : transition.openedGap = some ⟨s.nextGapId, now, none, none⟩)
      (hclosed : transition.closedGap = none) (hnext : s'.nextGapId = s.nextGapId + 1)
      (hopen : s'.openGap = transition.openedGap)
  | closes (gap : GapInterval) (now : Nat) (hnow : now ≤ u64Max) (hgap : s.openGap = some gap)
      (hopened : transition.openedGap = none) (hclosed : transition.closedGap = some (gap.close now))
      (hnext : s'.nextGapId = s.nextGapId) (hopen : s'.openGap = none)
  | quiet (hopened : transition.openedGap = none) (hclosed : transition.closedGap = none)
      (hnext : s'.nextGapId = s.nextGapId) (hopen : s'.openGap = s.openGap)

theorem gapStep_of_recompute {s u' : HotRedundantSupervisor}
    (h : u.recomputeCoverage now = (.ok transition, u')) (hopen : u.openGap = s.openGap)
    (hnext : u.nextGapId = s.nextGapId) (hnow : now ≤ u64Max) :
    GapStep s transition u' ∧ u'.usedRunTokens = u.usedRunTokens := by
  rcases recomputeCoverage_cases u now with hcase | ⟨-, -, hlt, hcase⟩ | ⟨gap, -, hgap, hcase⟩ |
    ⟨-, -, hcase⟩ <;> rw [hcase] at h <;> cases h
  · refine ⟨.opens now hnow (by omega) ?_ rfl ?_ rfl, rfl⟩
    · dsimp only
      rw [hnext]
    · dsimp only
      rw [hnext]
  · exact ⟨.closes gap now hnow (hopen ▸ hgap) rfl rfl hnext rfl, rfl⟩
  · exact ⟨.quiet rfl rfl hnext hopen, rfl⟩

/-- What an accepted call leaves: its effect on the gaps, and the tokens that are used. -/
structure Accepted (s : HotRedundantSupervisor) (transition : CoverageTransition)
    (s' : HotRedundantSupervisor) : Prop where
  gaps : GapStep s transition s'
  tokens : ∀ token, s.usedRunTokens.contains token = true → s'.usedRunTokens.contains token = true

section

variable {s s' : HotRedundantSupervisor} {lane : CaptureLane} {runToken : String} {now : Nat}
variable {transition : CoverageTransition}

theorem accepted_of_recompute (h : u.recomputeCoverage now = (.ok transition, s'))
    (hopen : u.openGap = s.openGap) (hnext : u.nextGapId = s.nextGapId)
    (htokens : u.usedRunTokens = s.usedRunTokens) (hnow : now ≤ u64Max) :
    Accepted s transition s' := by
  obtain ⟨hgaps, hsame⟩ := gapStep_of_recompute h hopen hnext hnow
  exact ⟨hgaps, fun token htoken => by rw [hsame, htokens]; exact htoken⟩

theorem markReady_accepted (h : s.markReady lane runToken now = (.ok transition, s'))
    (hnow : now ≤ u64Max) : Accepted s transition s' := by
  rcases markReady_cases s lane runToken now with ⟨message, s'', heq, -⟩ | ⟨-, -, -, heq⟩ |
    ⟨-, -, -, heq⟩ <;> rw [heq] at h
  · cases h
  · exact accepted_of_recompute h rfl rfl rfl hnow
  · exact accepted_of_recompute h rfl rfl rfl hnow

theorem failLane_accepted {sha256 : Bytes → FixedBytes 32} {reason : String}
    (h : s.failLane sha256 lane runToken reason now = (.ok transition, s'))
    (hnow : now ≤ u64Max) : Accepted s transition s' := by
  rcases failLane_cases sha256 s lane runToken reason now with ⟨-, message, s'', heq, -⟩ |
    ⟨-, heq⟩ <;> rw [heq] at h
  · cases h
  · exact accepted_of_recompute h rfl rfl rfl hnow

theorem retireLane_accepted (h : s.retireLane lane runToken now = (.ok transition, s'))
    (hnow : now ≤ u64Max) : Accepted s transition s' := by
  rcases retireLane_cases s lane runToken now with ⟨-, message, s'', heq, -⟩ | ⟨-, heq⟩ <;>
    rw [heq] at h
  · cases h
  · exact accepted_of_recompute h rfl rfl rfl hnow

theorem advanceTime_accepted (h : s.advanceTime now = (.ok transition, s')) (hnow : now ≤ u64Max) :
    Accepted s transition s' := by
  unfold advanceTime at h
  obtain ⟨message, hclock⟩ | ⟨-, hclock⟩ := advanceClock_cases s now <;> rw [hclock] at h
  · cases h
  · exact accepted_of_recompute h rfl rfl rfl hnow

theorem terminate_accepted (h : s.terminate now = (.ok transition, s')) :
    Accepted s transition s' := by
  unfold terminate at h
  obtain ⟨message, hclock⟩ | ⟨-, hclock⟩ := advanceClock_cases s now <;> rw [hclock] at h
  · cases h
  · cases h
    exact ⟨.quiet rfl rfl rfl rfl, fun token => id⟩

theorem startLane_accepted (h : s.startLane lane runToken now = (.ok transition, s'))
    (hnow : now ≤ u64Max) :
    Accepted s transition s' ∧ isBlank runToken = false ∧
      s.usedRunTokens.contains runToken = false ∧ s'.usedRunTokens.contains runToken = true := by
  rcases startLane_cases s lane runToken now with ⟨-, message, s'', heq, -⟩ |
    ⟨-, -, message, -, heq⟩ | ⟨-, -, -, heq⟩ | ⟨hpresented, -, -, heq⟩ <;> rw [heq] at h
  · cases h
  · cases h
  · cases h
  obtain ⟨hgaps, htokens⟩ := gapStep_of_recompute (s := s) h rfl rfl hnow
  refine ⟨⟨hgaps, fun token htoken => ?_⟩, hpresented.nonblank, hpresented.fresh, ?_⟩
  · rw [htokens]
    show (s.usedRunTokens.insert runToken).contains token = true
    rw [Std.TreeSet.contains_insert, htoken, Bool.or_true]
  · rw [htokens]
    show (s.usedRunTokens.insert runToken).contains runToken = true
    rw [Std.TreeSet.contains_insert]
    simp

theorem restartRequests_keeps (s : HotRedundantSupervisor) (now : Nat) :
    (s.restartRequests now).2.openGap = s.openGap ∧
    (s.restartRequests now).2.nextGapId = s.nextGapId ∧
    (s.restartRequests now).2.usedRunTokens = s.usedRunTokens := by
  unfold restartRequests
  obtain ⟨message, hclock⟩ | ⟨-, hclock⟩ := advanceClock_cases s now <;> rw [hclock]
  · exact ⟨rfl, rfl, rfl⟩
  · dsimp only
    split <;> exact ⟨rfl, rfl, rfl⟩

end

/-! ## The gaps in the journal -/

/-- `validate_gaps` reads the gaps of the loop off the journal. -/
structure GapEvident (s : CaptureState) : Prop where
  replayed : s.journal.foldlM replayGap [] = .ok s.gaps
  tracked : Tracked s.supervisor s.gaps
  opened : ∀ gap, s.supervisor.openGap = some gap →
    gap.closedMonoNs = none ∧ gap.unavailableNs = none ∧ Fits gap

/-- A record that no evidence is read from. -/
def Silent (record : SupervisorRecord) : Prop :=
  (∀ gaps, replayGap gaps record = .ok gaps) ∧ ∀ launches, collectRecord launches record = .ok launches

theorem silent_of_event {channel event : String} {members : List (String × Value)}
    (hevent : (Value.object members).strField "event" = some event)
    (hnot : event ∉ ["GAP_OPENED", "GAP_CLOSED", "LANE_LAUNCHED", "LANE_RESTARTED", "LANE_READY",
      "LANE_FAILED", "LANE_WINDOW_COMPLETED"]) : Silent ⟨channel, .object members⟩ := by
  simp only [List.mem_cons, List.not_mem_nil, or_false, not_or] at hnot
  obtain ⟨hopened, hclosed, hlaunched, hrestarted, hready, hfailed, hcompleted⟩ := hnot
  constructor
  · intro gaps
    unfold replayGap
    dsimp only
    rw [hevent, if_neg (by simpa using hopened), if_neg (by simpa using hclosed)]
  · intro launches
    unfold collectRecord
    dsimp only
    rw [hevent, if_neg (by simp [hlaunched, hrestarted]), if_neg (by simpa using hready),
      if_neg (by simp [hfailed, hcompleted])]

/-- A record of nothing but its event. -/
theorem silent_event (channel event : String)
    (hnot : event ∉ ["GAP_OPENED", "GAP_CLOSED", "LANE_LAUNCHED", "LANE_RESTARTED", "LANE_READY",
      "LANE_FAILED", "LANE_WINDOW_COMPLETED"]) :
    Silent ⟨channel, .object [("event", .string event)]⟩ :=
  silent_of_event rfl hnot

theorem foldlM_concat_ok {α β : Type} {f : β → α → Result β} {xs : List α} {x : α} {b b' b'' : β}
    (h : xs.foldlM f b = .ok b') (hx : f b' x = .ok b'') : (xs ++ [x]).foldlM f b = .ok b'' := by
  rw [List.foldlM_append, h]
  show (do let b ← f b' x; [].foldlM f b) = _
  rw [hx]
  rfl

/-- The journal has grown by records that the lanes are not told in. -/
def Grown (s s' : CaptureState) : Prop :=
  ∃ records, s'.journal = s.journal ++ records ∧
    ∀ record ∈ records, ∀ launches, collectRecord launches record = .ok launches

theorem Grown.refl (s : CaptureState) : Grown s s := ⟨[], by simp, by simp⟩

theorem Grown.trans {a b c : CaptureState} (hab : Grown a b) (hbc : Grown b c) : Grown a c := by
  obtain ⟨records, hb, hrecords⟩ := hab
  obtain ⟨records', hc, hrecords'⟩ := hbc
  refine ⟨records ++ records', ?_, ?_⟩
  · rw [hc, hb, List.append_assoc]
  · intro record hrecord
    rcases List.mem_append.mp hrecord with h | h
    · exact hrecords record h
    · exact hrecords' record h

theorem replayClosed_ok {gaps : List GapInterval} (hids : gaps.map GapInterval.gapId = List.range n)
    (hmem : gap ∈ gaps) (hopen : gap.closedMonoNs = none) {i : Nat}
    (hfind : gaps.findIdx? (fun other => decide (other.gapId = (gap.close now).gapId)) = some i)
    (hfits : Fits (gap.close now)) (channel : String) :
    replayGap gaps ⟨channel, .object [("event", .string "GAP_CLOSED"),
      ("gap", gapValue (gap.close now))]⟩ = .ok (gaps.set i (gap.close now)) := by
  obtain ⟨hi, hat, -⟩ := List.findIdx?_eq_some_iff_getElem.mp hfind
  obtain ⟨j, hj, hgap⟩ := List.getElem_of_mem hmem
  -- the identities are the places
  have hplace : ∀ k (hk : k < gaps.length), gaps[k].gapId = k := by
    intro k hk
    have hget : (gaps.map GapInterval.gapId)[k]? = some gaps[k].gapId := by
      rw [List.getElem?_map, List.getElem?_eq_getElem hk]
      rfl
    have hlength := congrArg List.length hids
    rw [List.length_map, List.length_range] at hlength
    rw [hids, List.getElem?_range (by omega)] at hget
    exact (Option.some.inj hget).symm
  have hself : gaps[i] = gap := by
    have hid : gaps[i].gapId = gap.gapId := of_decide_eq_true hat
    have hij : i = j := by
      rw [← hplace i hi, hid, ← hgap, hplace j hj]
    subst hij
    exact hgap
  have hprevious : gaps.getD i (gap.close now) = gap := by
    rw [List.getD_eq_getElem?_getD, List.getElem?_eq_getElem hi, hself]
    rfl
  have hevent : (Value.object [("event", .string "GAP_CLOSED"),
      ("gap", gapValue (gap.close now))]).strField "event" = some "GAP_CLOSED" := rfl
  unfold replayGap
  dsimp only
  rw [hevent, if_neg (by decide), if_pos rfl]
  unfold replayClosed
  rw [show (Value.object [("event", .string "GAP_CLOSED"), ("gap", gapValue (gap.close now))]).get
    "gap" = some (gapValue (gap.close now)) from rfl]
  simp only [okOr, bind, Except.bind, gapFromValue_gapValue hfits, hfind, hprevious]
  rw [if_neg]
  · rfl
  · simp [hopen, GapInterval.close]

/-- **A transition in the journal.** -/
theorem recordTransition_evident {s s' : CaptureState} (h : GapEvident s)
    (hstep : GapStep s.supervisor transition u)
    (hrecord : recordTransition { s with supervisor := u } transition = .ok s') :
    GapEvident s' ∧ SameRuns s s' ∧ s'.supervisor = u ∧ Grown s s' := by
  -- the change of coverage
  obtain ⟨s₁, hs₁, hruns₁, hgaps₁, hsupervisor₁, hgrown₁, hreplayed₁⟩ : ∃ s₁,
      s₁ = noteCoverage { s with supervisor := u } transition ∧ SameRuns s s₁ ∧ s₁.gaps = s.gaps ∧
      s₁.supervisor = u ∧ Grown s s₁ ∧ s₁.journal.foldlM replayGap [] = .ok s.gaps := by
    refine ⟨_, rfl, ?_⟩
    obtain ⟨hruns, hgaps, hsupervisor⟩ := noteCoverage_same { s with supervisor := u } transition
    refine ⟨⟨hruns.1, hruns.2, hruns.3⟩, hgaps, hsupervisor, ?_⟩
    unfold noteCoverage
    split
    · have hsilent : Silent ⟨"COVERAGE", .object [("current", coverageValue transition.current),
          ("event", .string "COVERAGE_CHANGED"), ("previous", coverageValue transition.previous)]⟩ :=
        silent_of_event rfl (by decide)
      refine ⟨⟨[_], rfl, ?_⟩, foldlM_concat_ok h.replayed (hsilent.1 _)⟩
      intro record hrecord launches
      rw [List.mem_singleton.mp hrecord]
      exact hsilent.2 launches
    · exact ⟨⟨[], by simp, by simp⟩, h.replayed⟩
  unfold recordTransition at hrecord
  rw [← hs₁] at hrecord
  cases hstep with
  | opens now hnow hid hopened hclosed hnext hopen =>
    rw [hopened, hclosed] at hrecord
    cases hrecord
    have hfits : Fits ⟨s.supervisor.nextGapId, now, none, none⟩ := by
      refine ⟨hid, hnow, ?_, ?_⟩ <;> intro t ht <;> cases ht
    have hlength : s.gaps.length = s.supervisor.nextGapId := by
      have hids := congrArg List.length h.tracked.ids
      simpa using hids
    have hopened' : replayGap s.gaps ⟨"COVERAGE", .object [("event", .string "GAP_OPENED"),
        ("gap", gapValue ⟨s.supervisor.nextGapId, now, none, none⟩)]⟩
        = .ok (s.gaps ++ [⟨s.supervisor.nextGapId, now, none, none⟩]) := by
      have hevent : (Value.object [("event", .string "GAP_OPENED"), ("gap",
          gapValue ⟨s.supervisor.nextGapId, now, none, none⟩)]).strField "event"
          = some "GAP_OPENED" := rfl
      unfold replayGap
      dsimp only
      rw [hevent, if_pos rfl]
      unfold replayOpened
      rw [show (Value.object [("event", .string "GAP_OPENED"), ("gap",
        gapValue ⟨s.supervisor.nextGapId, now, none, none⟩)]).get "gap"
        = some (gapValue ⟨s.supervisor.nextGapId, now, none, none⟩) from rfl]
      simp only [okOr, bind, Except.bind, gapFromValue_gapValue hfits]
      rw [if_neg]
      · rfl
      · simp only [hlength, ne_eq, not_true_eq_false, Option.isSome_none, Bool.false_eq_true,
          false_or, List.any_eq_true, decide_eq_true_eq, not_exists, not_and]
        intro gap hgap heq
        have hmem := List.mem_map_of_mem (f := GapInterval.gapId) hgap
        rw [h.tracked.ids, List.mem_range, heq] at hmem
        omega
    refine ⟨⟨?_, ⟨?_, ?_⟩, ?_⟩, ⟨hruns₁.1, hruns₁.2, hruns₁.3⟩, hsupervisor₁, ?_⟩
    · show (s₁.journal ++ [_]).foldlM replayGap [] = .ok (s₁.gaps ++ [_])
      rw [hgaps₁]
      exact foldlM_concat_ok hreplayed₁ hopened'
    · show (s₁.gaps ++ [_]).map GapInterval.gapId = List.range s₁.supervisor.nextGapId
      rw [hgaps₁, hsupervisor₁, hnext, List.map_append, h.tracked.ids, List.range_succ]
      rfl
    · intro gap hgap
      have hgap' : s₁.supervisor.openGap = some gap := hgap
      rw [hsupervisor₁, hopen, hopened] at hgap'
      cases hgap'
      exact List.mem_append_right _ (List.mem_singleton_self _)
    · intro gap hgap
      have hgap' : s₁.supervisor.openGap = some gap := hgap
      rw [hsupervisor₁, hopen, hopened] at hgap'
      cases hgap'
      exact ⟨rfl, rfl, hfits⟩
    · refine hgrown₁.trans ⟨[_], rfl, ?_⟩
      intro record hmem launches
      rw [List.mem_singleton.mp hmem]
      rfl
  | closes gap now hnow hgap hopened hclosed hnext hopen =>
    rw [hopened, hclosed] at hrecord
    unfold noteClosed noteOpened at hrecord
    dsimp only at hrecord
    obtain ⟨hopenGap, hunavailable, hfits⟩ := h.opened gap hgap
    have hfits' : Fits (gap.close now) := by
      refine ⟨hfits.id_le, hfits.opened_le, ?_, ?_⟩ <;> rintro t ⟨⟩
      · exact hnow
      · exact (Nat.sub_le _ _).trans hnow
    split at hrecord
    · next i hfind =>
      cases hrecord
      rw [hgaps₁] at hfind
      obtain ⟨hi, hat, -⟩ := List.findIdx?_eq_some_iff_getElem.mp hfind
      have hreplay := replayClosed_ok h.tracked.ids (h.tracked.held gap hgap) hopenGap hfind hfits'
        "COVERAGE"
      refine ⟨⟨?_, ⟨?_, ?_⟩, ?_⟩, ⟨hruns₁.1, hruns₁.2, hruns₁.3⟩, hsupervisor₁, ?_⟩
      · show (s₁.journal ++ [_]).foldlM replayGap [] = .ok (s₁.gaps.set i _)
        rw [hgaps₁]
        exact foldlM_concat_ok hreplayed₁ hreplay
      · show (s₁.gaps.set i (gap.close now)).map GapInterval.gapId
          = List.range s₁.supervisor.nextGapId
        rw [hgaps₁, map_gapId_set hfind, hsupervisor₁, hnext, h.tracked.ids]
      · intro gap' hgap'
        have hnone : s₁.supervisor.openGap = some gap' := hgap'
        rw [hsupervisor₁, hopen] at hnone
        cases hnone
      · intro gap' hgap'
        have hnone : s₁.supervisor.openGap = some gap' := hgap'
        rw [hsupervisor₁, hopen] at hnone
        cases hnone
      · refine hgrown₁.trans ⟨[_], rfl, ?_⟩
        intro record hmem launches
        rw [List.mem_singleton.mp hmem]
        rfl
    · cases hrecord
  | quiet hopened hclosed hnext hopen =>
    rw [hopened, hclosed] at hrecord
    have hs' : s₁ = s' := Except.ok.inj hrecord
    subst hs'
    refine ⟨⟨?_, ⟨?_, ?_⟩, ?_⟩, hruns₁, hsupervisor₁, hgrown₁⟩
    · rw [hgaps₁]
      exact hreplayed₁
    · rw [hgaps₁, hsupervisor₁, hnext]
      exact h.tracked.ids
    · intro gap hgap
      rw [hsupervisor₁, hopen] at hgap
      rw [hgaps₁]
      exact h.tracked.held gap hgap
    · intro gap hgap
      rw [hsupervisor₁, hopen] at hgap
      exact h.opened gap hgap

end LobReplay.Redundancy
