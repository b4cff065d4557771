/-
  What an accepted campaign journal guarantees. The variables of the audit track the marks of the
  records it has taken; so its guards are the admission rules of the roster, and the checks after
  the loop end the history.
-/

import LobReplay.Campaign.Refinement
import Mathlib.Data.List.Nodup

namespace LobReplay.Campaign

open Foundation

/-! ## What the audit tracks -/

structure StateTracks (history : List Mark) (generation : Nat)
    (state : GenerationLifecycleState) : Prop where
  launched : state.launchRecord = none ↔ ¬ Launched history generation
  recorded : state.processStartedRecord = none ↔ state.processStartedMonoNs = none
  started : ∀ monoNs, state.processStartedMonoNs = some monoNs ↔
    .started generation monoNs ∈ history
  terminal : state.processTerminalRecord = none ↔ .terminal generation ∉ history
  exited : state.generationExitedRecord = none ↔ .exited generation ∉ history

/-- The variables of the audit hold what the marks so far say. -/
structure Tracks (history : List Mark) (audit : LifecycleAudit) : Prop where
  states : ∀ generation state, audit.states[generation]? = some state →
    StateTracks history generation state
  proofStarted : ∀ predecessor successor, (predecessor, successor) ∈ audit.proofStarted ↔
    .proofStarted predecessor successor ∈ history
  registered : ∀ generation, generation ∈ audit.candidateRegistered ↔
    .registered generation ∈ history
  activated : audit.initialActiveRegistered = true ↔ .activated ∈ history
  roles : rolesOf history = audit.roles
  available : ∀ key, tally Mark.shutdown? key history =
    tally Mark.disposition? key history + (audit.availableShutdowns.lookup key).getD 0

variable {history : List Mark} {audit next : LifecycleAudit} {mark : Mark}
  {record : CampaignJournalBodyV1} {handovers : List HandoverLifecycleExpectation}
  {generation g : Nat} {coverage : Coverage}

theorem tracks_start (generations : List GenerationLifecycleExpectation) :
    Tracks [] (startAudit generations) where
  states := by
    intro generation state h
    obtain rfl : state = {} := (List.eq_of_mem_replicate (List.mem_of_getElem? h))
    constructor <;> simp [Launched]
  proofStarted := by simp [startAudit]
  registered := by simp [startAudit]
  activated := by simp [startAudit]
  roles := rfl
  available := by simp [startAudit, tally]

theorem Tracks.outstanding (h : Tracks history audit) {key : Nat × String}
    (havailable : Available audit key) : Outstanding history key := by
  obtain ⟨count, hlookup, hne⟩ := havailable
  have := h.available key
  rw [hlookup, Option.getD_some] at this
  show tally Mark.disposition? key history < tally Mark.shutdown? key history
  omega

/-- **What the audit checks is what the roster asks.** -/
theorem Tracks.admits (h : Tracks history audit) (hguard : Guard handovers audit mark) :
    Admits (fun pair => (expectedHandovers handovers).lookup pair) history mark := by
  cases mark with
  | launched generation source =>
    obtain ⟨⟨state, hstate, hfresh⟩, hroom, hsource⟩ := hguard
    refine ⟨(h.states _ _ hstate).launched.mp hfresh, ?_, fun key hkey => h.outstanding (hsource key hkey)⟩
    rw [h.roles]
    exact hroom
  | started generation monoNs =>
    obtain ⟨state, hstate, hfresh⟩ := hguard
    have htracks := h.states _ _ hstate
    intro earlier hmem
    have hsome := (htracks.started earlier).mpr hmem
    rw [htracks.recorded.mp hfresh] at hsome
    cases hsome
  | terminal generation =>
    obtain ⟨state, hstate, hfresh⟩ := hguard
    exact (h.states _ _ hstate).terminal.mp hfresh
  | exited generation =>
    obtain ⟨state, hstate, hfresh, hended⟩ := hguard
    have htracks := h.states _ _ hstate
    exact ⟨htracks.exited.mp hfresh, not_not.mp (mt htracks.terminal.mpr hended)⟩
  | proofStarted predecessor successor =>
    obtain ⟨hnext, hfresh, state, hstate, hended⟩ := hguard
    exact ⟨hnext, mt (h.proofStarted _ _).mpr hfresh,
      not_not.mp (mt (h.states _ _ hstate).exited.mpr hended)⟩
  | promoted predecessor successor proof =>
    obtain ⟨hnext, hactive, hcandidate, hdigest, hstarted, hregistered, state, hstate, hopen⟩ := hguard
    rw [← h.roles] at hactive hcandidate
    exact ⟨hnext, hactive, hcandidate, hdigest, (h.proofStarted _ _).mp hstarted,
      (h.registered _).mp hregistered, (h.states _ _ hstate).terminal.mp hopen⟩
  | activated =>
    have hfresh : audit.initialActiveRegistered = false := hguard
    intro hmem
    rw [h.activated.mpr hmem] at hfresh
    cases hfresh
  | registered generation =>
    obtain ⟨hne, hfresh, hcandidate⟩ := hguard
    rw [← h.roles] at hcandidate
    exact ⟨hne, mt (h.registered _).mpr hfresh, hcandidate⟩
  | disposed generation epoch => exact h.outstanding hguard
  | durable generation epoch => trivial
  | other => trivial

/-- The generation whose lifecycle state a mark changes. -/
def Mark.moves? : Mark → Option Nat
  | launched generation _ | started generation _ | terminal generation | exited generation =>
    some generation
  | _ => none

variable {state : GenerationLifecycleState} {start : Nat}

theorem StateTracks.other (h : StateTracks history generation state)
    (hmark : some generation ≠ mark.moves?) : StateTracks (history ++ [mark]) generation state := by
  refine ⟨?_, h.recorded, ?_, ?_, ?_⟩
  · rw [h.launched, launched_concat, not_or]
    refine (and_iff_left ?_).symm
    rintro ⟨source, rfl⟩
    exact hmark rfl
  · intro monoNs
    rw [h.started, List.mem_append, List.mem_singleton]
    cases mark <;> simp_all [Mark.moves?]
  · rw [h.terminal, List.mem_append, List.mem_singleton]
    cases mark <;> simp_all [Mark.moves?]
  · rw [h.exited, List.mem_append, List.mem_singleton]
    cases mark <;> simp_all [Mark.moves?]

theorem statesTrack_modify {states : List GenerationLifecycleState}
    {change : GenerationLifecycleState → GenerationLifecycleState}
    (h : ∀ g state, states[g]? = some state → StateTracks history g state)
    (hmark : mark.moves? = some generation)
    (hchange : ∀ state, states[generation]? = some state →
      StateTracks (history ++ [mark]) generation (change state))
    (hstate : (states.modify generation change)[g]? = some state) :
    StateTracks (history ++ [mark]) g state := by
  rw [List.getElem?_modify] at hstate
  obtain ⟨old, hold, rfl⟩ := Option.map_eq_some_iff.mp hstate
  by_cases hg : generation = g
  · subst hg
    rw [if_pos rfl]
    exact hchange old hold
  · rw [if_neg hg]
    refine (h g old hold).other ?_
    rw [hmark]
    exact fun heq => hg (Option.some.inj heq).symm

theorem Tracks.statesAfter (h : Tracks history audit) (hguard : Guard handovers audit mark)
    (hstate : (statesAfter record audit.states mark)[g]? = some state) :
    StateTracks (history ++ [mark]) g state := by
  cases mark with
  | launched generation source =>
    refine statesTrack_modify h.states rfl (fun old hold => ?_) hstate
    have htracks := h.states _ _ hold
    exact ⟨by simp [launched_concat], htracks.recorded, by simpa using htracks.started,
      by simpa using htracks.terminal, by simpa using htracks.exited⟩
  | started generation monoNs =>
    refine statesTrack_modify h.states rfl (fun old hold => ?_) hstate
    have htracks := h.states _ _ hold
    obtain ⟨old', hold', hfresh⟩ := hguard
    obtain rfl : old = old' := Option.some.inj (hold.symm.trans hold')
    -- the generation had not started before
    have hnone (earlier : Nat) : .started generation earlier ∉ history := by
      rw [← htracks.started, htracks.recorded.mp hfresh]
      simp
    exact ⟨by simpa [launched_concat] using htracks.launched, by simp, by simp [hnone, eq_comm],
      by simpa using htracks.terminal, by simpa using htracks.exited⟩
  | terminal generation =>
    refine statesTrack_modify h.states rfl (fun old hold => ?_) hstate
    have htracks := h.states _ _ hold
    exact ⟨by simpa [launched_concat] using htracks.launched, htracks.recorded,
      by simpa using htracks.started, by simp, by simpa using htracks.exited⟩
  | exited generation =>
    refine statesTrack_modify h.states rfl (fun old hold => ?_) hstate
    have htracks := h.states _ _ hold
    exact ⟨by simpa [launched_concat] using htracks.launched, htracks.recorded,
      by simpa using htracks.started, by simpa using htracks.terminal, by simp⟩
  | _ => exact (h.states _ _ hstate).other (by simp [Mark.moves?])

/-- **Step.** A record the audit takes extends what its variables track. -/
theorem Tracks.step (h : Tracks history audit) (htaken : Taken handovers record audit mark next) :
    Tracks (history ++ [mark]) next := by
  obtain ⟨hguard, heffect⟩ := htaken
  refine ⟨?_, ?_, ?_, ?_, ?_, ?_⟩
  · intro g state hstate
    rw [heffect.states] at hstate
    exact h.statesAfter hguard hstate
  · intro predecessor successor
    rw [heffect.proofStarted, List.mem_append, h.proofStarted, List.mem_append, List.mem_singleton]
    cases mark <;> simp [Mark.proof?]
  · intro generation
    rw [heffect.registered, List.mem_append, h.registered, List.mem_append, List.mem_singleton]
    cases mark <;> simp [Mark.registration?]
  · rw [heffect.activated, h.activated, List.mem_append, List.mem_singleton, eq_comm (a := mark)]
  · rw [rolesOf_concat, h.roles, heffect.roles]
  · intro key
    have hold := h.available key
    have hnew := heffect.available key
    rw [tally_concat, tally_concat]
    omega

/-! ## The loop -/

variable {expected : LifecycleExpectations}

theorem auditRecord_taken {envelope : CampaignJournalEnvelopeV1}
    (h : auditRecord expected audit envelope = .ok next) :
    Taken expected.handovers envelope.body audit (markOf envelope.body) next := by
  obtain ⟨event, hrecord, harm⟩ := bind_eq_ok.mp h
  have hevent := recordEvent_eq_ok hrecord
  cases event with
  | campaignStarted =>
    rw [show markOf envelope.body = .other by simp only [markOf, hevent]]
    exact campaignStarted_taken harm
  | campaignEvaluationPrepared =>
    rw [show markOf envelope.body = .other by simp only [markOf, hevent]]
    exact campaignEvaluationPrepared_taken harm
  | campaignCommitted =>
    rw [show markOf envelope.body = .other by simp only [markOf, hevent]]
    exact campaignCommitted_taken harm
  | campaignFailed => exact absurd harm err_ne_ok
  | generationDisconnectFailClosed => exact absurd harm err_ne_ok
  | serverShutdownDurable => exact serverShutdownDurable_taken hevent harm
  | generationLaunched => exact generationLaunched_taken hevent (.inl rfl) harm
  | generationLaunchedServerShutdown => exact generationLaunched_taken hevent (.inr rfl) harm
  | processStarted => exact processStarted_taken hevent harm
  | processTerminal => exact processTerminal_taken hevent harm
  | generationExited => exact generationExited_taken hevent harm
  | handoverProofStarted => exact handoverProofStarted_taken hevent harm
  | handoverProvenAndPromoted => exact handoverProvenAndPromoted_taken hevent harm
  | initialActiveRegistered => exact initialActiveRegistered_taken hevent harm
  | candidateRegistered => exact candidateRegistered_taken hevent harm
  | serverShutdownIgnoredNonActive => exact serverShutdownNotice_taken hevent (.inl rfl) harm
  | serverShutdownCandidateAlreadyPending => exact serverShutdownNotice_taken hevent (.inr rfl) harm
  | transportConnected | snapshotDurable | segmentDurable | heartbeatDurable =>
    -- nothing the roster knows of
    rw [show markOf envelope.body = .other by simp only [markOf, hevent]]
    cases harm
    exact ⟨trivial, Effect.quiet rfl rfl rfl rfl rfl rfl⟩

def marksOf (records : List CampaignJournalEnvelopeV1) : List Mark :=
  records.map fun envelope => markOf envelope.body

def LifecycleExpectations.digest (expected : LifecycleExpectations) (pair : Nat × Nat) :
    Option String :=
  (expectedHandovers expected.handovers).lookup pair

/-- **Run.** The history of an accepted run of records is admissible, and the audit tracks it. -/
theorem foldlM_auditRecord {records : List CampaignJournalEnvelopeV1}
    (hadmitted : AtEach (Admits expected.digest) history) (htracks : Tracks history audit)
    (h : records.foldlM (auditRecord expected) audit = .ok next) :
    AtEach (Admits expected.digest) (history ++ marksOf records) ∧
      Tracks (history ++ marksOf records) next := by
  induction records generalizing history audit with
  | nil =>
    cases h
    rw [marksOf, List.map_nil, List.append_nil]
    exact ⟨hadmitted, htracks⟩
  | cons envelope rest ih =>
    rw [List.foldlM_cons, bind_eq_ok] at h
    obtain ⟨middle, hrecord, hrest⟩ := h
    have htaken := auditRecord_taken hrecord
    have hnext := atEach_concat.mpr ⟨hadmitted, htracks.admits htaken.1⟩
    have := ih hnext (htracks.step htaken) hrest
    rwa [List.append_assoc, List.singleton_append] at this

/-! ## The end of the journal -/

/-- What the manifest declares is numbered: generation `i` stands at place `i`, and the
    handovers lead from each generation to the next. -/
structure LifecycleExpectations.Numbered (expected : LifecycleExpectations) : Prop where
  generations : ∀ i (generation : GenerationLifecycleExpectation),
    expected.generations[i]? = some generation → generation.generationIndex = i
  handovers : (expected.handovers.map fun handover =>
      (handover.predecessorGenerationIndex, handover.successorGenerationIndex)) =
    (List.range (expected.generations.length - 1)).map fun i => (i, i + 1)

def LifecycleExpectations.promotions (expected : LifecycleExpectations) :
    List (Nat × Nat × String) :=
  expected.handovers.map fun handover =>
    (handover.predecessorGenerationIndex, handover.successorGenerationIndex, handover.proofSha256)

theorem lookup_of_mem {κ ν : Type} [BEq κ] [LawfulBEq κ] {entries : List (κ × ν)} {key : κ} {value : ν}
    (hnodup : (entries.map Prod.fst).Nodup) (h : (key, value) ∈ entries) :
    entries.lookup key = some value := by
  induction entries with
  | nil => cases h
  | cons entry rest ih =>
    obtain ⟨k, v⟩ := entry
    rw [List.map_cons, List.nodup_cons] at hnodup
    rcases List.mem_cons.mp h with heq | hmem
    · cases heq
      rw [List.lookup_cons_self]
    · have hne : key ≠ k := by
        rintro rfl
        exact hnodup.1 (List.mem_map.mpr ⟨_, hmem, rfl⟩)
      rw [List.lookup_cons, beq_eq_false_iff_ne.mpr hne]
      exact ih hnodup.2 hmem

theorem eq_map_of_digest {digest : Nat × Nat → Option String} {list : List (Nat × Nat × String)}
    (h : ∀ promotion ∈ list, digest (promotion.1, promotion.2.1) = some promotion.2.2) :
    list = (list.map fun promotion => (promotion.1, promotion.2.1)).map fun pair =>
      (pair.1, pair.2, (digest pair).getD "") := by
  rw [List.map_map]
  conv_lhs => rw [← List.map_id list]
  refine List.map_congr_left fun promotion hmem => ?_
  simp only [Function.comp_apply, h promotion hmem, Option.getD_some, id_eq]

theorem LifecycleExpectations.Numbered.digest (h : expected.Numbered) :
    ∀ promotion ∈ expected.promotions,
      expected.digest (promotion.1, promotion.2.1) = some promotion.2.2 := by
  intro promotion hmem
  obtain ⟨handover, hhandover, rfl⟩ := List.mem_map.mp hmem
  refine lookup_of_mem ?_ (List.mem_map.mpr ⟨handover, List.mem_reverse.mpr hhandover, rfl⟩)
  have hnodup : ((List.range (expected.generations.length - 1)).map fun i => (i, i + 1)).Nodup :=
    List.Nodup.map (fun i j hij => (Prod.mk.inj hij).1) List.nodup_range
  rw [← h.handovers] at hnodup
  rw [expectedHandovers, List.map_map, List.map_reverse, List.nodup_reverse]
  exact hnodup

theorem promotions_eq (hnumbered : expected.Numbered) (hroster : Roster expected.digest history)
    (hactive : (rolesOf history).active = some (expected.generations.length - 1)) :
    promotions history = expected.promotions := by
  have hdigest : ∀ promotion ∈ promotions history,
      expected.digest (promotion.1, promotion.2.1) = some promotion.2.2 := by
    rintro ⟨predecessor, successor, proof⟩ hmem
    exact hroster.proofs _ _ _ (mem_promotions.mp hmem)
  have hpairs : (promotions history).map (fun promotion => (promotion.1, promotion.2.1)) =
      expected.promotions.map fun promotion => (promotion.1, promotion.2.1) := by
    rw [hroster.pairs, hactive, Option.getD_some, LifecycleExpectations.promotions, List.map_map]
    exact hnumbered.handovers.symm
  rw [eq_map_of_digest hdigest, hpairs, ← eq_map_of_digest hnumbered.digest]

/-! ## Coverage -/

/-- The windows that have been declared cover a time. -/
def CoveredAt (expected : LifecycleExpectations) (history : List Mark) (timeNs : Nat) : Prop :=
  ∃ i generation started, expected.generations[i]? = some generation ∧
    .started i started ∈ history ∧ started ≤ timeNs ∧
    timeNs ≤ started + generation.durationRequestedS * 1000000000

theorem windowEnd_eq_some {started finish : Nat} {generation : GenerationLifecycleExpectation}
    (h : windowEnd started generation = some finish) :
    finish = started + generation.durationRequestedS * 1000000000 := by
  obtain ⟨duration, hmul, hadd⟩ := Option.bind_eq_some_iff.mp h
  unfold checkedMul at hmul
  split at hmul
  · rw [← Option.some.inj hmul] at hadd
    exact checkedAdd_eq_some hadd
  · cases hmul

/-- **Step.** One more window covers without a gap. -/
theorem coverGeneration_covers {next : Coverage} {index : Nat} (htracks : Tracks history audit)
    (h : coverGeneration expected.generations audit coverage index = .ok next)
    (hcovered : ∀ timeNs, start ≤ timeNs → timeNs ≤ coverage.coveredThroughNs →
      CoveredAt expected history timeNs) :
    ∀ timeNs, start ≤ timeNs → timeNs ≤ next.coveredThroughNs →
      CoveredAt expected history timeNs := by
  simp only [coverGeneration, bind_eq_ok, expect_eq_ok, okOr_eq_ok, refuse_eq_ok] at h
  obtain ⟨state, hstate, started, hstarted, _, hgap, generation, hgeneration, finish, hfinish, hnext⟩ := h
  cases hnext
  intro timeNs hfrom hto
  by_cases hold : timeNs ≤ coverage.coveredThroughNs
  · exact hcovered timeNs hfrom hold
  · have hmark := ((htracks.states _ _ hstate).started started).mp hstarted
    have hend := windowEnd_eq_some hfinish
    have hto : timeNs ≤ max coverage.coveredThroughNs finish := hto
    exact ⟨index, generation, started, hgeneration, hmark, by omega, by omega⟩

/-- **Run.** So do all of them. -/
theorem foldlM_coverGeneration {indexes : List Nat} {last : Coverage}
    (htracks : Tracks history audit)
    (h : indexes.foldlM (coverGeneration expected.generations audit) coverage = .ok last)
    (hcovered : ∀ timeNs, start ≤ timeNs → timeNs ≤ coverage.coveredThroughNs →
      CoveredAt expected history timeNs) :
    ∀ timeNs, start ≤ timeNs → timeNs ≤ last.coveredThroughNs →
      CoveredAt expected history timeNs := by
  induction indexes generalizing coverage with
  | nil =>
    cases h
    exact hcovered
  | cons index rest ih =>
    rw [List.foldlM_cons, bind_eq_ok] at h
    obtain ⟨next, hstep, hrest⟩ := h
    exact ih hrest (coverGeneration_covers htracks hstep hcovered)

theorem finishCoverage_covers {first : GenerationLifecycleState} {requiredMonoNs : Nat}
    (htracks : Tracks history audit) (hfirst : audit.states[0]? = some first)
    (hstart : first.processStartedMonoNs = some start)
    (h : finishCoverage expected.generations audit first requiredMonoNs = .ok ()) :
    ∀ timeNs, start ≤ timeNs → timeNs ≤ requiredMonoNs → CoveredAt expected history timeNs := by
  unfold finishCoverage at h
  obtain ⟨opening, hopening, h⟩ := bind_eq_ok.mp h
  obtain ⟨covered, hcovered, h⟩ := bind_eq_ok.mp h
  obtain ⟨started, hstarted, h⟩ := bind_eq_ok.mp h
  obtain ⟨last, hfold, hreach⟩ := bind_eq_ok.mp h
  rw [expect_eq_ok] at hopening hstarted
  rw [okOr_eq_ok, hstart, Option.bind_some] at hcovered
  rw [refuse_eq_ok] at hreach
  obtain rfl : start = started := Option.some.inj (hstart.symm.trans hstarted)
  have hend := windowEnd_eq_some hcovered
  have hmark := ((htracks.states _ _ hfirst).started start).mp hstart
  intro timeNs hfrom hto
  refine foldlM_coverGeneration htracks hfold ?_ timeNs hfrom (by omega)
  intro earlier hle hlt
  have hinside : earlier ≤ covered := hlt
  rw [hend] at hinside
  exact ⟨0, opening, start, hopening, hmark, hle, hinside⟩

/-! ## The audit -/

/-- What an accepted journal guarantees of the marks of its records. -/
structure LifecycleSound (expected : LifecycleExpectations) (history : List Mark) : Prop where
  promotions : promotions history = expected.promotions
  order : ∀ before predecessor successor proof later,
    history = before ++ .promoted predecessor successor proof :: later →
      (.registered successor ∈ before ∧ .registered successor ∉ later) ∧
      (.proofStarted predecessor successor ∈ before ∧
        .proofStarted predecessor successor ∉ later) ∧
      (.exited predecessor ∈ before ∧ .exited predecessor ∉ later) ∧
      .terminal successor ∈ later ∧ .terminal successor ∉ before
  slots : ∀ before later, history = before ++ later →
    (∀ g g', Candidate before g → Candidate before g' → g = g') ∧
      ∀ g g', Warmed before g → Warmed before g' → g = g'
  shutdowns : PairsUp Mark.shutdown? Mark.disposition? history
  coverage : ∃ start, .started 0 start ∈ history ∧ start ≤ campaignStartupGraceNs ∧
    ∀ timeNs, start ≤ timeNs → timeNs ≤ expected.totalDurationS * 1000000000 →
      CoveredAt expected history timeNs

/-- What the checks after the loop establish. -/
structure Finished (expected : LifecycleExpectations) (audit : LifecycleAudit) : Prop where
  active : audit.roles.active = some (expected.generations.length - 1)
  disposed : ∀ entry ∈ audit.availableShutdowns, entry.2 = 0
  ended : ∀ generation ∈ expected.generations, ∃ state,
    audit.states[generation.generationIndex]? = some state ∧ state.processTerminalRecord ≠ none
  covered : ∃ first start, audit.states[0]? = some first ∧
    first.processStartedMonoNs = some start ∧ start ≤ campaignStartupGraceNs ∧
    finishCoverage expected.generations audit first (expected.totalDurationS * 1000000000) = .ok ()

theorem forM_eq_ok {α : Type} {f : α → Result Unit} {list : List α} (h : list.forM f = .ok ())
    {a : α} (hmem : a ∈ list) : f a = .ok () := by
  induction list with
  | nil => cases hmem
  | cons x rest ih =>
    obtain ⟨_, hx, hrest⟩ := bind_eq_ok.mp h
    rcases List.mem_cons.mp hmem with rfl | hmem
    · exact hx
    · exact ih hrest hmem

theorem finishAudit_eq_ok (h : finishAudit expected audit = .ok ()) : Finished expected audit := by
  unfold finishAudit at h
  obtain ⟨_, -, h⟩ := bind_eq_ok.mp h
  obtain ⟨_, hactive, h⟩ := bind_eq_ok.mp h
  obtain ⟨_, hdisposed, h⟩ := bind_eq_ok.mp h
  obtain ⟨_, hgenerations, h⟩ := bind_eq_ok.mp h
  obtain ⟨required, hrequired, h⟩ := bind_eq_ok.mp h
  obtain ⟨first, hfirst, h⟩ := bind_eq_ok.mp h
  obtain ⟨_, hgrace, h⟩ := bind_eq_ok.mp h
  obtain ⟨_, -, h⟩ := bind_eq_ok.mp h
  obtain ⟨_, hcoverage, -⟩ := bind_eq_ok.mp h
  rw [refuse_eq_ok] at hactive hdisposed hgrace
  rw [okOr_eq_ok] at hrequired hfirst
  simp only [not_or, not_not] at hactive
  refine ⟨hactive.2.1, ?_, ?_, ?_⟩
  · intro entry hmem
    by_contra hne
    exact hdisposed ⟨entry, hmem, hne⟩
  · intro generation hmem
    obtain ⟨state, hstate, h⟩ := bind_eq_ok.mp (forM_eq_ok hgenerations hmem)
    obtain ⟨_, hcomplete, -⟩ := bind_eq_ok.mp h
    simp only [refuse_eq_ok, not_or] at hcomplete
    exact ⟨state, expect_eq_ok.mp hstate, hcomplete.2.2.1⟩
  · cases hstart : first.processStartedMonoNs with
    | none =>
      rw [hstart, Option.all_none] at hgrace
      exact absurd rfl hgrace
    | some start =>
      rw [hstart, Option.all_some, decide_eq_true_eq] at hgrace
      have hproduct : required = expected.totalDurationS * 1000000000 := by
        unfold checkedMul at hrequired
        split at hrequired
        · exact (Option.some.inj hrequired).symm
        · cases hrequired
      rw [hproduct] at hcoverage
      exact ⟨first, start, hfirst, hstart, by omega, hcoverage⟩

/-- **Main theorem.** A journal the lifecycle audit accepts promotes every handover once and
    in order, keeps one candidate and one warmed generation, disposes of every durable
    shutdown once, and covers the requested duration. -/
theorem validateCampaignLifecycle_sound (journal : VerifiedJournal)
    (expected : LifecycleExpectations) (hnumbered : expected.Numbered)
    (h : validateCampaignLifecycle journal expected = .ok ()) :
    LifecycleSound expected (marksOf journal.records) := by
  obtain ⟨_, -, h⟩ := bind_eq_ok.mp h
  obtain ⟨audit, hloop, hfinish⟩ := bind_eq_ok.mp h
  obtain ⟨hadmitted, htracks⟩ :=
    foldlM_auditRecord atEach_nil (tracks_start expected.generations) hloop
  rw [List.nil_append] at hadmitted htracks
  have hfinished := finishAudit_eq_ok hfinish
  have hpromotions : promotions (marksOf journal.records) = expected.promotions := by
    refine promotions_eq hnumbered (roster_of_admitted hadmitted) ?_
    rw [htracks.roles]
    exact hfinished.active
  refine ⟨hpromotions, ?_, ?_, ?_, ?_⟩
  · intro before predecessor successor proof later heq
    rw [heq] at hadmitted hpromotions
    obtain ⟨hregistered, hproof, hexited, hopen⟩ := promotion_order hadmitted
    refine ⟨hregistered, hproof, hexited, ?_, hopen⟩
    -- the successor is a generation of the campaign, and every generation ended
    have hmem : (predecessor, successor, proof) ∈ expected.promotions := by
      rw [← hpromotions]
      exact mem_promotions.mpr (List.mem_append_right _ List.mem_cons_self)
    have hlt : successor < expected.generations.length := by
      obtain ⟨handover, hhandover, htriple⟩ := List.mem_map.mp hmem
      have hpair : (predecessor, successor) ∈ expected.handovers.map fun handover =>
          (handover.predecessorGenerationIndex, handover.successorGenerationIndex) := by
        cases htriple
        exact List.mem_map.mpr ⟨handover, hhandover, rfl⟩
      rw [hnumbered.handovers] at hpair
      obtain ⟨i, hi, hsuccessor⟩ := List.mem_map.mp hpair
      have := List.mem_range.mp hi
      have := (Prod.mk.inj hsuccessor).2
      omega
    have hindex := hnumbered.generations successor _ (List.getElem?_eq_getElem hlt)
    obtain ⟨state, hstate, hended⟩ := hfinished.ended _ (List.getElem_mem hlt)
    rw [hindex] at hstate
    have hterminal := not_not.mp (mt (htracks.states _ _ hstate).terminal.mpr hended)
    rw [heq] at hterminal
    rcases List.mem_append.mp hterminal with hbefore | hrest
    · exact absurd hbefore hopen
    · simpa using hrest
  · intro before later heq
    rw [heq] at hadmitted
    have hroster := roster_of_admitted hadmitted.of_append
    constructor
    · intro g g' hg hg'
      rw [hroster.candidate_iff] at hg hg'
      exact Option.some.inj (hg.symm.trans hg')
    · intro g g' hg hg'
      rw [hroster.warmed_iff] at hg hg'
      exact Option.some.inj (hg.symm.trans hg')
  · refine shutdowns_pairUp hadmitted fun key hout => ?_
    have hcount := htracks.available key
    have hzero : (audit.availableShutdowns.lookup key).getD 0 = 0 := by
      cases hlookup : audit.availableShutdowns.lookup key with
      | none => rfl
      | some count =>
        obtain ⟨before, after, hsplit, -⟩ := List.lookup_eq_some_iff.mp hlookup
        exact hfinished.disposed (key, count) (by rw [hsplit]; simp)
    have hout : tally Mark.disposition? key (marksOf journal.records) <
      tally Mark.shutdown? key (marksOf journal.records) := hout
    omega
  · obtain ⟨first, start, hfirst, hstart, hgrace, hcoverage⟩ := hfinished.covered
    exact ⟨start, ((htracks.states _ _ hfirst).started start).mp hstart, hgrace,
      finishCoverage_covers htracks hfirst hstart hcoverage⟩
/-! ## A campaign of two generations -/

/-- A generation of the sample campaign: 60 seconds, and perhaps one shutdown of its depth
    connection. -/
def sampleGeneration (index : Nat) (sessionId depthEpoch tradeEpoch : String)
    (shutdowns : List VerifiedServerShutdownV1) : GenerationLifecycleExpectation :=
  { generationIndex := index
    sessionId := sessionId
    symbol := "BTCUSDT"
    durationRequestedS := 60
    startupSha256 := zeroDigest
    streamEpochs := [("depth", depthEpoch), ("trade", tradeEpoch)]
    serverShutdownEvents := [("depth", shutdowns.length), ("trade", 0)]
    serverShutdowns := shutdowns }

/-- The shutdown of the first generation. -/
def sampleShutdown : VerifiedServerShutdownV1 :=
  { stream := "depth"
    connectionEpoch := "depth-0"
    segmentIndex := 0
    rawFile := "segment-000000.bnraw"
    frameIndex := 7
    receiveMonoNs := 3000000000
    durableRecordCount := 8
    durableThroughOffset := 1024
    lastRecordSha256 := zeroDigest }

/-- What the manifest of the sample campaign declares. -/
def sampleExpectations : LifecycleExpectations :=
  { campaignId := "campaign"
    startupSha256 := zeroDigest
    campaignManifestSha256 := zeroDigest
    totalDurationS := 120
    generations := [sampleGeneration 0 "session-0" "depth-0" "trade-0" [sampleShutdown],
      sampleGeneration 1 "session-1" "depth-1" "trade-1" []]
    handovers := [⟨0, 1, zeroDigest⟩] }

def sampleRecord (index monoNs : Nat) (generation : Option Nat) (channel : String)
    (payload : List (String × Value)) : CampaignJournalEnvelopeV1 :=
  ⟨⟨"RawCampaignJournalRecordV1", index, 1, monoNs, generation, channel, .object payload,
    zeroDigest⟩, zeroDigest⟩

/-- The payload of `PROCESS_STARTED`. -/
def sampleStarted (index : Nat) (sessionId sessionDir : String) : List (String × Value) :=
  [("event", .string "PROCESS_STARTED"), ("generation_index", jsonU64 index),
    ("process_id", jsonU64 42), ("schema", .string "CaptureProcessEventV1"),
    ("session_dir", .string sessionDir), ("session_id", .string sessionId),
    ("spec_revision", .string specRevision), ("startup_manifest_sha256", .string zeroDigest),
    ("symbol", .string "BTCUSDT")]

/-- The payload of `PROCESS_TERMINAL`. -/
def sampleTerminal (sessionId : String) : List (String × Value) :=
  [("event", .string "PROCESS_TERMINAL"), ("generation_manifest", .string "generation.json"),
    ("schema", .string "CaptureTerminalProcessEventV1"), ("session_id", .string sessionId),
    ("status", .string "COMPLETE")]

/-- The payload of `GENERATION_EXITED`. -/
def sampleExited : List (String × Value) :=
  [("code", jsonU64 0), ("event", .string "GENERATION_EXITED"), ("success", .bool true)]

/-- The journal of the sample campaign: a server shutdown of the first generation launches the
    second one, which takes over and ends the campaign. -/
def sampleRecords : List CampaignJournalEnvelopeV1 :=
  [sampleRecord 0 0 none "CAMPAIGN"
      [("campaign_id", .string "campaign"), ("event", .string "CAMPAIGN_STARTED"),
        ("startup_sha256", .string zeroDigest)],
    sampleRecord 1 1000000000 (some 0) "CAMPAIGN"
      [("duration_s", jsonU64 60), ("event", .string "GENERATION_LAUNCHED")],
    sampleRecord 2 2000000000 (some 0) "CHILD_STDOUT"
      (sampleStarted 0 "session-0" "portable/generations/session-0"),
    sampleRecord 3 3000000000 (some 0) "SUPERVISOR" [("event", .string "INITIAL_ACTIVE_REGISTERED")],
    sampleRecord 4 4000000000 (some 0) "CHILD_STDOUT"
      [("event", .string "SERVER_SHUTDOWN_DURABLE"),
        ("schema", .string "ServerShutdownDurableProcessEventV1"),
        ("session_id", .string "session-0"),
        ("shutdown", .object
          [("connection_epoch", .string "depth-0"), ("durable_record_count", jsonU64 8),
            ("durable_through_offset", jsonU64 1024), ("frame_index", jsonU64 7),
            ("last_record_sha256", .string zeroDigest), ("raw_file", .string "segment-000000.bnraw"),
            ("receive_mono_ns", jsonU64 3000000000),
            ("schema", .string "DurableServerShutdownEventV1"), ("segment_index", jsonU64 0),
            ("stream", .string "depth")])],
    sampleRecord 5 60000000000 (some 1) "CAMPAIGN"
      [("duration_s", jsonU64 60), ("event", .string "GENERATION_LAUNCHED_SERVER_SHUTDOWN"),
        ("source_epoch", .string "depth-0"), ("source_generation", jsonU64 0)],
    sampleRecord 6 61000000000 (some 1) "CHILD_STDOUT"
      (sampleStarted 1 "session-1" "portable/generations/session-1"),
    sampleRecord 7 62000000000 (some 1) "SUPERVISOR" [("event", .string "CANDIDATE_REGISTERED")],
    sampleRecord 8 63000000000 (some 0) "CHILD_STDOUT" (sampleTerminal "session-0"),
    sampleRecord 9 64000000000 (some 0) "CAMPAIGN" sampleExited,
    sampleRecord 10 65000000000 (some 1) "CAMPAIGN"
      [("event", .string "HANDOVER_PROOF_STARTED"), ("predecessor", jsonU64 0)],
    sampleRecord 11 66000000000 (some 1) "SUPERVISOR"
      [("event", .string "HANDOVER_PROVEN_AND_PROMOTED"), ("predecessor", jsonU64 0),
        ("proof_sha256", .string zeroDigest)],
    sampleRecord 12 121000000000 (some 1) "CHILD_STDOUT" (sampleTerminal "session-1"),
    sampleRecord 13 121000000001 (some 1) "CAMPAIGN" sampleExited,
    sampleRecord 14 121000000002 none "CAMPAIGN"
      [("event", .string "CAMPAIGN_EVALUATION_PREPARED")],
    sampleRecord 15 121000000003 none "CAMPAIGN"
      [("event", .string "CAMPAIGN_COMMITTED"), ("manifest_file", .string "campaign.json"),
        ("manifest_sha256", .string zeroDigest)]]

def sampleJournal : VerifiedJournal where
  records := sampleRecords
  terminalSha256 := zeroDigest
  indexed := by
    intro i record h
    match i, h with
    | 0, h | 1, h | 2, h | 3, h | 4, h | 5, h | 6, h | 7, h | 8, h | 9, h | 10, h | 11, h
    | 12, h | 13, h | 14, h | 15, h => cases h; rfl
  ordered := by
    simp [Ordered, sampleRecords, sampleRecord]

theorem sampleJournal_sound :
    validateCampaignLifecycle sampleJournal sampleExpectations = .ok () ∧
      LifecycleSound sampleExpectations (marksOf sampleJournal.records) := by
  have haccepted : validateCampaignLifecycle sampleJournal sampleExpectations = .ok () := by
    decide +kernel
  refine ⟨haccepted, validateCampaignLifecycle_sound sampleJournal sampleExpectations ?_ haccepted⟩
  refine ⟨?_, rfl⟩
  intro i generation h
  match i, h with
  | 0, h | 1, h =>
    cases h
    rfl

end LobReplay.Campaign
