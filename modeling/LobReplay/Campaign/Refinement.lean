/-
  The audit of Campaign.Lifecycle refines the roster of Campaign.Roster: what an arm of the loop
  checks is a guard on the variables of the audit, what it changes is an effect of the mark its
  record makes, and a record the audit accepts is a mark the roster admits.
-/

import LobReplay.Campaign.Lifecycle
import LobReplay.Campaign.Roster

namespace LobReplay.Campaign

open Foundation

/-! ## The mark of a record -/

def CampaignJournalBodyV1.event? (record : CampaignJournalBodyV1) : Option Event :=
  (record.payload.strField "event").bind Event.ofName

/-- The mark a record makes. Every record that names an event makes the mark of that event:
    what the record leaves out reads as zero or as the empty text. -/
def markOf (record : CampaignJournalBodyV1) : Mark :=
  let generation := record.generationIndex.getD 0
  let number (field : String) : Nat := ((record.payload.u64Field field).map UInt64.toNat).getD 0
  let text (field : String) : String := (record.payload.strField field).getD ""
  match record.event? with
  | some .generationLaunched => .launched generation none
  | some .generationLaunchedServerShutdown =>
    .launched generation (some (number "source_generation", text "source_epoch"))
  | some .processStarted => .started generation record.campaignMonoNs
  | some .processTerminal => .terminal generation
  | some .generationExited => .exited generation
  | some .handoverProofStarted => .proofStarted (number "predecessor") generation
  | some .handoverProvenAndPromoted =>
    .promoted (number "predecessor") generation (text "proof_sha256")
  | some .initialActiveRegistered => .activated
  | some .candidateRegistered => .registered generation
  | some .serverShutdownDurable =>
    .durable generation
      (((record.payload.get "shutdown").bind fun shutdown =>
        shutdown.strField "connection_epoch").getD "")
  | some .serverShutdownIgnoredNonActive | some .serverShutdownCandidateAlreadyPending =>
    .disposed generation (text "source_epoch")
  | _ => .other

/-! ## Inversion of the readers -/

variable {event : String} {generations : List GenerationLifecycleExpectation} {payload : Value}
  {field : String}

theorem lifecycleGeneration_eq_ok {index : Option Nat} {generation : GenerationLifecycleExpectation}
    (h : lifecycleGeneration generations index event = .ok generation) :
    index = some generation.generationIndex ∧
      generations[generation.generationIndex]? = some generation := by
  unfold lifecycleGeneration at h
  obtain ⟨i, hi, hget⟩ := bind_eq_ok.mp h
  rw [okOr_eq_ok] at hi hget
  obtain ⟨hget, hindex⟩ := Option.filter_eq_some_iff.mp hget
  obtain rfl : generation.generationIndex = i := by simpa using hindex
  exact ⟨hi, hget⟩

theorem payloadU64_eq_ok {n : Nat} (h : payloadU64 payload field event = .ok n) :
    ((payload.u64Field field).map UInt64.toNat).getD 0 = n := by
  rw [payloadU64, okOr_eq_ok] at h
  rw [h, Option.getD_some]

theorem payloadText_eq_ok {text : String} (h : payloadText payload field event = .ok text) :
    payload.strField field = some text := by
  rw [payloadText, okOr_eq_ok] at h
  exact (Option.filter_eq_some_iff.mp h).1

/-- What the checks before the match say of the record. -/
theorem recordEvent_eq_ok {audit : LifecycleAudit} {record : CampaignJournalBodyV1} {event : Event}
    (h : recordEvent generations audit record = .ok event) : record.event? = some event := by
  simp only [recordEvent, bind_eq_ok, okOr_eq_ok] at h
  obtain ⟨channel, -, -, -, -, -, -, -, value, hvalue, text, htext, found, hfound, hrest⟩ := h
  have hevent : found = event := by
    split at hrest
    · obtain ⟨-, -, hpure⟩ := bind_eq_ok.mp hrest
      exact Except.ok.inj hpure
    · exact Except.ok.inj hrest
  rw [CampaignJournalBodyV1.event?, Value.strField, hvalue, Option.bind_some, htext,
    Option.bind_some, (Option.filter_eq_some_iff.mp hfound).1, hevent]

/-! ## Guards and effects -/

def LifecycleAudit.roles (audit : LifecycleAudit) : Roles :=
  { active := audit.activeGeneration
    candidate := audit.pendingCandidate
    warmed := audit.warmedGeneration }

/-- A durable shutdown of this key is left to dispose of. -/
def Available (audit : LifecycleAudit) (key : Nat × String) : Prop :=
  ∃ count, audit.availableShutdowns.lookup key = some count ∧ count ≠ 0

def Guard (handovers : List HandoverLifecycleExpectation) (audit : LifecycleAudit) : Mark → Prop
  | .launched generation source =>
    (∃ state, audit.states[generation]? = some state ∧ state.launchRecord = none) ∧
      (generation ≠ 0 → audit.roles.Immediate generation ∨ audit.roles.WarmAhead generation) ∧
      ∀ key, source = some key → Available audit key
  | .started generation _ =>
    ∃ state, audit.states[generation]? = some state ∧ state.processStartedRecord = none
  | .terminal generation =>
    ∃ state, audit.states[generation]? = some state ∧ state.processTerminalRecord = none
  | .exited generation =>
    ∃ state, audit.states[generation]? = some state ∧ state.generationExitedRecord = none ∧
      state.processTerminalRecord ≠ none
  | .proofStarted predecessor successor =>
    successor = predecessor + 1 ∧ (predecessor, successor) ∉ audit.proofStarted ∧
      ∃ state, audit.states[predecessor]? = some state ∧ state.generationExitedRecord ≠ none
  | .promoted predecessor successor proof =>
    successor = predecessor + 1 ∧ audit.roles.active = some predecessor ∧
      audit.roles.candidate = some successor ∧
      (expectedHandovers handovers).lookup (predecessor, successor) = some proof ∧
      (predecessor, successor) ∈ audit.proofStarted ∧ successor ∈ audit.candidateRegistered ∧
      ∃ state, audit.states[successor]? = some state ∧ state.processTerminalRecord = none
  | .activated => audit.initialActiveRegistered = false
  | .registered generation =>
    generation ≠ 0 ∧ generation ∉ audit.candidateRegistered ∧
      (audit.roles.after (.registered generation)).candidate = some generation
  | .disposed generation epoch => Available audit (generation, epoch)
  | .durable _ _ | .other => True

def statesAfter (record : CampaignJournalBodyV1) (states : List GenerationLifecycleState) :
    Mark → List GenerationLifecycleState
  | .launched generation _ =>
    states.modify generation fun state => { state with launchRecord := some record.recordIndex }
  | .started generation monoNs =>
    states.modify generation fun state =>
      { state with
        processStartedRecord := some record.recordIndex
        processStartedMonoNs := some monoNs }
  | .terminal generation =>
    states.modify generation fun state =>
      { state with
        processTerminalRecord := some record.recordIndex
        processTerminalMonoNs := some record.campaignMonoNs }
  | .exited generation =>
    states.modify generation fun state =>
      { state with
        generationExitedRecord := some record.recordIndex
        generationExitedMonoNs := some record.campaignMonoNs }
  | _ => states

/-- The handover whose proof a mark starts. -/
def Mark.proof? : Mark → Option (Nat × Nat)
  | proofStarted predecessor successor => some (predecessor, successor)
  | _ => none

def Mark.registration? : Mark → Option Nat
  | registered generation => some generation
  | _ => none

structure Effect (record : CampaignJournalBodyV1) (audit : LifecycleAudit) (mark : Mark)
    (next : LifecycleAudit) : Prop where
  states : next.states = statesAfter record audit.states mark
  proofStarted : next.proofStarted = audit.proofStarted ++ mark.proof?.toList
  registered : next.candidateRegistered = audit.candidateRegistered ++ mark.registration?.toList
  activated : next.initialActiveRegistered = true ↔
    audit.initialActiveRegistered = true ∨ mark = .activated
  roles : next.roles = audit.roles.after mark
  available : ∀ key, (next.availableShutdowns.lookup key).getD 0 +
      (if mark.disposition? = some key then 1 else 0) =
    (audit.availableShutdowns.lookup key).getD 0 + if mark.shutdown? = some key then 1 else 0

/-- A mark that leaves every variable of the roster alone. -/
theorem Effect.quiet {record : CampaignJournalBodyV1} {audit next : LifecycleAudit}
    (hstates : next.states = audit.states) (hproof : next.proofStarted = audit.proofStarted)
    (hregistered : next.candidateRegistered = audit.candidateRegistered)
    (hactivated : next.initialActiveRegistered = audit.initialActiveRegistered)
    (hroles : next.roles = audit.roles)
    (havailable : next.availableShutdowns = audit.availableShutdowns) :
    Effect record audit .other next where
  states := hstates
  proofStarted := by simp [hproof, Mark.proof?]
  registered := by simp [hregistered, Mark.registration?]
  activated := by simp [hactivated]
  roles := hroles
  available := by simp [havailable, Mark.disposition?, Mark.shutdown?]

/-! ## The arms -/

section Arms

variable {generations : List GenerationLifecycleExpectation}
  {handovers : List HandoverLifecycleExpectation} {audit next : LifecycleAudit}
  {record : CampaignJournalBodyV1} {key : Nat × String}
  {generation : GenerationLifecycleExpectation}

/-- What the audit has checked of a record it takes, and what the record changes. -/
def Taken (handovers : List HandoverLifecycleExpectation) (record : CampaignJournalBodyV1)
    (audit : LifecycleAudit) (mark : Mark) (next : LifecycleAudit) : Prop :=
  Guard handovers audit mark ∧ Effect record audit mark next

theorem campaignStarted_taken {campaignId startupSha256 : String}
    (h : campaignStarted campaignId startupSha256 audit record = .ok next) :
    Taken handovers record audit .other next := by
  obtain ⟨count, -, hnext⟩ := bind_eq_ok.mp h
  cases hnext
  exact ⟨trivial, Effect.quiet rfl rfl rfl rfl rfl rfl⟩

theorem campaignEvaluationPrepared_taken
    (h : campaignEvaluationPrepared audit record = .ok next) :
    Taken handovers record audit .other next := by
  obtain ⟨count, -, hnext⟩ := bind_eq_ok.mp h
  cases hnext
  exact ⟨trivial, Effect.quiet rfl rfl rfl rfl rfl rfl⟩

theorem campaignCommitted_taken {campaignManifestSha256 : String}
    (h : campaignCommitted campaignManifestSha256 audit record = .ok next) :
    Taken handovers record audit .other next := by
  obtain ⟨count, -, hnext⟩ := bind_eq_ok.mp h
  cases hnext
  exact ⟨trivial, Effect.quiet rfl rfl rfl rfl rfl rfl⟩

theorem countShutdown_eq_ok {counts counts' : List ((Nat × String) × Nat)} {overflow : String}
    (h : countShutdown counts key overflow = .ok counts') (k : Nat × String) :
    (counts'.lookup k).getD 0 = (counts.lookup k).getD 0 + if k = key then 1 else 0 := by
  obtain ⟨count, hcount, hnext⟩ := bind_eq_ok.mp h
  cases hnext
  have hcount := checkedAdd_eq_some (okOr_eq_ok.mp hcount)
  rw [lookup_assign]
  by_cases hk : k = key
  · rw [if_pos hk, if_pos hk, Option.getD_some, hcount, hk]
  · rw [if_neg hk, if_neg hk, Nat.add_zero]

theorem serverShutdownDurable_taken (hevent : record.event? = some .serverShutdownDurable)
    (h : serverShutdownDurable generations audit record = .ok next) :
    Taken handovers record audit (markOf record) next := by
  simp only [serverShutdownDurable, bind_eq_ok, refuse_eq_ok] at h
  obtain ⟨generation, hgeneration, lifecycle, -, shutdown, hshutdown, stream, -, epoch, hepoch, h⟩ := h
  -- the checks of the other fields
  obtain ⟨_, -, _, -, _, -, _, -, _, -, _, -, _, -, h⟩ := h
  obtain ⟨_, -, _, -, _, -, _, -, _, -, observed, -, available, havailable, hnext⟩ := h
  cases hnext
  obtain ⟨hindex, -⟩ := lifecycleGeneration_eq_ok hgeneration
  have hvalue : (record.payload.get "shutdown") = some (.object shutdown) := by
    obtain ⟨value, hget, hobject⟩ := Option.bind_eq_some_iff.mp (okOr_eq_ok.mp hshutdown)
    cases value <;> simp_all [asObject]
  have hmark : markOf record = .durable generation.generationIndex epoch := by
    simp only [markOf, hevent, hindex, hvalue, Option.getD_some, Option.bind_some]
    rw [payloadText_eq_ok hepoch, Option.getD_some]
  rw [hmark]
  refine ⟨trivial, rfl, ?_, ?_, ?_, rfl, ?_⟩
  · simp [Mark.proof?]
  · simp [Mark.registration?]
  · simp
  · intro key
    rw [countShutdown_eq_ok havailable]
    simp [Mark.disposition?, Mark.shutdown?, eq_comm]

theorem disposeShutdown_eq_ok {lacks reused : String}
    (h : disposeShutdown audit key lacks reused = .ok next) :
    Available audit key ∧ ∃ available, next = { audit with availableShutdowns := available } ∧
      ∀ k, (available.lookup k).getD 0 + (if k = key then 1 else 0) =
        (audit.availableShutdowns.lookup k).getD 0 := by
  simp only [disposeShutdown, bind_eq_ok, refuse_eq_ok, okOr_eq_ok] at h
  obtain ⟨count, hcount, -, hzero, hnext⟩ := h
  cases hnext
  refine ⟨⟨count, hcount, hzero⟩, _, rfl, ?_⟩
  intro k
  rw [lookup_assign]
  by_cases hk : k = key
  · rw [if_pos hk, if_pos hk, hk, hcount, Option.getD_some, Option.getD_some]
    omega
  · rw [if_neg hk, if_neg hk, Nat.add_zero]

variable {event : Event} {index : Nat}

theorem serverShutdownNotice_taken (hevent : record.event? = some event)
    (hnotice : event = .serverShutdownIgnoredNonActive ∨
      event = .serverShutdownCandidateAlreadyPending)
    (h : serverShutdownNotice generations event audit record = .ok next) :
    Taken handovers record audit (markOf record) next := by
  simp only [serverShutdownNotice, bind_eq_ok, refuse_eq_ok] at h
  obtain ⟨generation, hgeneration, epoch, hepoch, -, -, hdispose⟩ := h
  obtain ⟨hindex, -⟩ := lifecycleGeneration_eq_ok hgeneration
  obtain ⟨havailable, counts, rfl, hcounts⟩ := disposeShutdown_eq_ok hdispose
  have hmark : markOf record = .disposed generation.generationIndex epoch := by
    rcases hnotice with rfl | rfl
    all_goals
      simp only [markOf, hevent, hindex, Option.getD_some]
      rw [payloadText_eq_ok hepoch, Option.getD_some]
  rw [hmark]
  refine ⟨havailable, rfl, ?_, ?_, ?_, rfl, ?_⟩
  · simp [Mark.proof?]
  · simp [Mark.registration?]
  · simp
  · intro key
    have := hcounts key
    simpa [Mark.disposition?, Mark.shutdown?, eq_comm] using this

theorem processStarted_taken (hevent : record.event? = some .processStarted)
    (h : processStarted generations audit record = .ok next) :
    Taken handovers record audit (markOf record) next := by
  simp only [processStarted, bind_eq_ok, refuse_eq_ok, expect_eq_ok] at h
  obtain ⟨generation, hgeneration, state, hstate, -, hchecks, h⟩ := h
  obtain ⟨-, -, -, -, -, -, -, -, -, -, -, -, hnext⟩ := h
  cases hnext
  obtain ⟨hindex, -⟩ := lifecycleGeneration_eq_ok hgeneration
  have hmark : markOf record = .started generation.generationIndex record.campaignMonoNs := by
    simp only [markOf, hevent, hindex, Option.getD_some]
  have hfresh : state.processStartedRecord = none := by
    simp only [not_or, Bool.not_eq_true, Option.isSome_eq_false_iff, Option.isNone_iff_eq_none]
      at hchecks
    exact hchecks.2.1
  rw [hmark]
  refine ⟨⟨state, hstate, hfresh⟩, rfl, ?_, ?_, ?_, rfl, ?_⟩
  · simp [Mark.proof?, LifecycleAudit.update]
  · simp [Mark.registration?, LifecycleAudit.update]
  · simp [LifecycleAudit.update]
  · simp [LifecycleAudit.update, Mark.disposition?, Mark.shutdown?]

theorem processTerminal_taken (hevent : record.event? = some .processTerminal)
    (h : processTerminal generations audit record = .ok next) :
    Taken handovers record audit (markOf record) next := by
  simp only [processTerminal, bind_eq_ok, refuse_eq_ok, expect_eq_ok] at h
  obtain ⟨generation, hgeneration, state, hstate, -, hchecks, hnext⟩ := h
  cases hnext
  obtain ⟨hindex, -⟩ := lifecycleGeneration_eq_ok hgeneration
  have hmark : markOf record = .terminal generation.generationIndex := by
    simp only [markOf, hevent, hindex, Option.getD_some]
  have hfresh : state.processTerminalRecord = none := by
    simp only [not_or, Bool.not_eq_true, Option.isSome_eq_false_iff, Option.isNone_iff_eq_none]
      at hchecks
    exact hchecks.2.1
  rw [hmark]
  refine ⟨⟨state, hstate, hfresh⟩, rfl, ?_, ?_, ?_, rfl, ?_⟩
  · simp [Mark.proof?, LifecycleAudit.update]
  · simp [Mark.registration?, LifecycleAudit.update]
  · simp [LifecycleAudit.update]
  · simp [LifecycleAudit.update, Mark.disposition?, Mark.shutdown?]

theorem generationExited_taken (hevent : record.event? = some .generationExited)
    (h : generationExited generations audit record = .ok next) :
    Taken handovers record audit (markOf record) next := by
  simp only [generationExited, bind_eq_ok, refuse_eq_ok, expect_eq_ok] at h
  obtain ⟨generation, hgeneration, state, hstate, -, hchecks, -, -, -, -, hnext⟩ := h
  cases hnext
  obtain ⟨hindex, -⟩ := lifecycleGeneration_eq_ok hgeneration
  have hmark : markOf record = .exited generation.generationIndex := by
    simp only [markOf, hevent, hindex, Option.getD_some]
  simp only [not_or, Bool.not_eq_true, Option.isSome_eq_false_iff, Option.isNone_iff_eq_none]
    at hchecks
  obtain ⟨-, hfresh, hterminal, -⟩ := hchecks
  have hended : state.processTerminalRecord ≠ none := by
    intro hnone
    exact hterminal (by simp [notBefore, hnone])
  rw [hmark]
  refine ⟨⟨state, hstate, hfresh, hended⟩, rfl, ?_, ?_, ?_, rfl, ?_⟩
  · simp [Mark.proof?, LifecycleAudit.update]
  · simp [Mark.registration?, LifecycleAudit.update]
  · simp [LifecycleAudit.update]
  · simp [LifecycleAudit.update, Mark.disposition?, Mark.shutdown?]

theorem handoverProofStarted_taken (hevent : record.event? = some .handoverProofStarted)
    (h : handoverProofStarted generations handovers audit record = .ok next) :
    Taken handovers record audit (markOf record) next := by
  simp only [handoverProofStarted, bind_eq_ok, refuse_eq_ok, okOr_eq_ok] at h
  obtain ⟨successor, hsuccessor, predecessor, hpredecessor, state, hstate, _, -, _, hchecks, hnext⟩ := h
  cases hnext
  obtain ⟨hindex, -⟩ := lifecycleGeneration_eq_ok hsuccessor
  have hmark : markOf record = .proofStarted predecessor successor.generationIndex := by
    simp only [markOf, hevent, hindex, Option.getD_some, payloadU64_eq_ok hpredecessor]
  simp only [not_or, not_not] at hchecks
  obtain ⟨-, hadd, -, -, hfresh, -, -, -, hexited, -⟩ := hchecks
  have hended : state.generationExitedRecord ≠ none := by
    intro hnone
    exact hexited (by simp [notBefore, hnone])
  rw [hmark]
  refine ⟨⟨checkedAdd_eq_some hadd, hfresh, state, hstate, hended⟩, rfl, rfl, ?_, ?_, rfl, ?_⟩
  · simp [Mark.registration?]
  · simp
  · simp [Mark.disposition?, Mark.shutdown?]

theorem handoverProvenAndPromoted_taken
    (hevent : record.event? = some .handoverProvenAndPromoted)
    (h : handoverProvenAndPromoted generations handovers audit record = .ok next) :
    Taken handovers record audit (markOf record) next := by
  simp only [handoverProvenAndPromoted, bind_eq_ok, refuse_eq_ok, expect_eq_ok] at h
  obtain ⟨successor, hsuccessor, predecessor, hpredecessor, proof, hproof, state, hstate, _, hchecks,
    hnext⟩ := h
  cases hnext
  obtain ⟨hindex, -⟩ := lifecycleGeneration_eq_ok hsuccessor
  have hmark : markOf record = .promoted predecessor successor.generationIndex proof := by
    simp only [markOf, hevent, hindex, Option.getD_some, payloadU64_eq_ok hpredecessor,
      payloadText_eq_ok hproof]
  simp only [not_or, not_not, Bool.not_eq_true, Option.isSome_eq_false_iff,
    Option.isNone_iff_eq_none] at hchecks
  obtain ⟨-, hadd, -, hstarted, hregistered, hactive, hpending, -, hdigest, hterminal⟩ := hchecks
  rw [hmark]
  refine ⟨⟨checkedAdd_eq_some hadd, hactive, hpending, hdigest, hstarted, hregistered, state, hstate,
    hterminal⟩, rfl, ?_, ?_, ?_, rfl, ?_⟩
  · simp [Mark.proof?]
  · simp [Mark.registration?]
  · simp
  · simp [Mark.disposition?, Mark.shutdown?]

theorem initialActiveRegistered_taken (hevent : record.event? = some .initialActiveRegistered)
    (h : initialActiveRegistered generations audit record = .ok next) :
    Taken handovers record audit (markOf record) next := by
  simp only [initialActiveRegistered, bind_eq_ok, refuse_eq_ok, not_or, Bool.not_eq_true] at h
  obtain ⟨_, -, _, ⟨-, hfresh⟩, _, -, _, -, hnext⟩ := h
  cases hnext
  have hmark : markOf record = .activated := by
    simp only [markOf, hevent]
  rw [hmark]
  refine ⟨hfresh, rfl, ?_, ?_, ?_, rfl, ?_⟩
  · simp [Mark.proof?]
  · simp [Mark.registration?]
  · simp
  · simp [Mark.disposition?, Mark.shutdown?]

theorem checkedSub_eq_some {a b : Nat} (h : b ≤ a) : checkedSub a b = some (a - b) := if_pos h

theorem roles_transferWarmed (hne : index ≠ 0) :
    (transferWarmed audit index).roles = audit.roles.after (.registered index) := by
  have hsub : checkedSub index 1 = some (index - 1) := checkedSub_eq_some (by omega)
  have hiff : audit.roles.Transfers index ↔ audit.warmedGeneration = some index ∧
      audit.pendingCandidate = none ∧ audit.activeGeneration = some (index - 1) := Iff.rfl
  unfold transferWarmed
  rw [Roles.after, hsub]
  by_cases h : audit.roles.Transfers index
  · rw [if_pos h, if_pos (hiff.mp h)]
    rfl
  · rw [if_neg h, if_neg (mt hiff.mpr h)]

theorem candidateRegistered_taken (hevent : record.event? = some .candidateRegistered)
    (h : candidateRegistered generations audit record = .ok next) :
    Taken handovers record audit (markOf record) next := by
  simp only [candidateRegistered, bind_eq_ok, refuse_eq_ok] at h
  obtain ⟨generation, hgeneration, _, hne, _, -, _, hchecks, hnext⟩ := h
  cases hnext
  obtain ⟨hindex, -⟩ := lifecycleGeneration_eq_ok hgeneration
  have hmark : markOf record = .registered generation.generationIndex := by
    simp only [markOf, hevent, hindex, Option.getD_some]
  simp only [not_or, not_not] at hchecks
  obtain ⟨-, -, hpending, hfresh, -⟩ := hchecks
  have hroles : (transferWarmed audit generation.generationIndex).roles
      = audit.roles.after (.registered generation.generationIndex) := roles_transferWarmed hne
  -- the transfer touches the roles only
  obtain ⟨warmed, pending, hsame⟩ : ∃ warmed pending, transferWarmed audit generation.generationIndex =
      { audit with warmedGeneration := warmed, pendingCandidate := pending } := by
    unfold transferWarmed
    split
    · exact ⟨_, _, rfl⟩
    · exact ⟨_, _, rfl⟩
  rw [hmark]
  rw [hsame] at hroles hpending hfresh ⊢
  refine ⟨⟨hne, hfresh, ?_⟩, rfl, ?_, rfl, ?_, hroles, ?_⟩
  · rw [← hroles]
    exact hpending
  · simp [Mark.proof?]
  · simp
  · simp [Mark.disposition?, Mark.shutdown?]

theorem launchedServerShutdown_eq_ok {payload : Value}
    (h : launchedServerShutdown generations audit generation payload = .ok next) :
    ∃ key : Nat × String, Available audit key ∧
      ((payload.u64Field "source_generation").map UInt64.toNat).getD 0 = key.1 ∧
      (payload.strField "source_epoch").getD "" = key.2 ∧
      ∃ available, next = { audit with availableShutdowns := available } ∧
        ∀ k, (available.lookup k).getD 0 + (if k = key then 1 else 0) =
          (audit.availableShutdowns.lookup k).getD 0 := by
  simp only [launchedServerShutdown, bind_eq_ok, refuse_eq_ok] at h
  obtain ⟨source, hsource, epoch, hepoch, h⟩ := h
  obtain ⟨_, -, _, -, _, -, _, -, _, -, hdispose⟩ := h
  obtain ⟨havailable, hnext⟩ := disposeShutdown_eq_ok hdispose
  refine ⟨(source, epoch), havailable, payloadU64_eq_ok hsource, ?_, hnext⟩
  rw [payloadText_eq_ok hepoch, Option.getD_some]

theorem immediateCandidate_iff : ImmediateCandidate audit index ↔ audit.roles.Immediate index := by
  by_cases h : index = 0
  · simp [ImmediateCandidate, Roles.Immediate, h]
  · rw [ImmediateCandidate, checkedSub_eq_some (by omega)]
    rfl

theorem warmAhead_iff :
    WarmAhead audit .generationLaunched index ↔ audit.roles.WarmAhead index := by
  by_cases h : 2 ≤ index
  · rw [WarmAhead, checkedSub_eq_some h, checkedSub_eq_some (by omega)]
    exact ⟨fun hahead => hahead.2, fun hahead => ⟨rfl, hahead⟩⟩
  · constructor
    · intro hahead
      exact absurd hahead.2.1 h
    · intro hahead
      exact absurd hahead.1 h

theorem launchDisposition_eq_ok {source : Option (Nat × String)}
    (hindex : record.generationIndex = some generation.generationIndex)
    (hevent : record.event? = some event)
    (hlaunch : event = .generationLaunched ∨ event = .generationLaunchedServerShutdown)
    (h : launchDisposition generations event audit generation record.payload = .ok next)
    (hsource : source = if event = .generationLaunchedServerShutdown then
      some (((record.payload.u64Field "source_generation").map UInt64.toNat).getD 0,
        (record.payload.strField "source_epoch").getD "") else none) :
    markOf record = .launched generation.generationIndex source ∧
      (∀ key, source = some key → Available audit key) ∧
      ∃ available, next = { audit with availableShutdowns := available } ∧
        ∀ key, (available.lookup key).getD 0 + (if source = some key then 1 else 0) =
          (audit.availableShutdowns.lookup key).getD 0 := by
  rcases hlaunch with rfl | rfl
  · rw [launchDisposition, if_neg (by decide)] at h
    rw [if_neg (by decide)] at hsource
    cases h
    subst hsource
    refine ⟨?_, by simp, audit.availableShutdowns, rfl, by simp⟩
    simp only [markOf, hevent, hindex, Option.getD_some]
  · rw [launchDisposition, if_pos rfl] at h
    rw [if_pos rfl] at hsource
    obtain ⟨key, havailable, hgeneration, hepoch, counts, hnext, hcounts⟩ :=
      launchedServerShutdown_eq_ok h
    have hkey : source = some key := by rw [hsource, hgeneration, hepoch]
    refine ⟨?_, ?_, counts, hnext, ?_⟩
    · simp only [markOf, hevent, hindex, Option.getD_some, hsource]
    · intro k hk
      rw [hkey] at hk
      cases hk
      exact havailable
    · intro k
      have := hcounts k
      simpa [hkey, eq_comm] using this

/-- A launched generation takes the slot the roster gives it. -/
theorem roles_placeLaunched (source : Option (Nat × String)) {launched : LifecycleAudit}
    (hroles : launched.roles = audit.roles)
    (hevent : event = .generationLaunched ∨ event = .generationLaunchedServerShutdown)
    (hroom : index ≠ 0 → ImmediateCandidate audit index ∨ WarmAhead audit event index) :
    (placeLaunched launched index (WarmAhead audit event index)).roles =
      audit.roles.after (.launched index source) := by
  by_cases hzero : index = 0
  · rw [placeLaunched, if_pos hzero, Roles.after, if_pos hzero, hroles]
  · rw [placeLaunched, if_neg hzero, Roles.after, if_neg hzero, ← hroles]
    have hiff : WarmAhead audit event index ↔ launched.roles.WarmAhead index := by
      rw [hroles]
      rcases hevent with rfl | rfl
      · exact warmAhead_iff
      · constructor
        · intro hahead
          cases hahead.1
        · intro hahead
          -- a launch by a shutdown finds no candidate
          rcases hroom hzero with ⟨-, -, hnone, -⟩ | ⟨hname, -⟩
          · have := hahead.2.2.1
            rw [show audit.roles.candidate = none from hnone] at this
            cases this
          · cases hname
    by_cases hahead : WarmAhead audit event index
    · rw [if_pos hahead, if_pos (hiff.mp hahead)]
      rfl
    · rw [if_neg hahead, if_neg (mt hiff.mpr hahead)]
      rfl

theorem generationLaunched_taken (hevent : record.event? = some event)
    (hlaunch : event = .generationLaunched ∨ event = .generationLaunchedServerShutdown)
    (h : generationLaunched generations event audit record = .ok next) :
    Taken handovers record audit (markOf record) next := by
  simp only [generationLaunched, bind_eq_ok, refuse_eq_ok, expect_eq_ok, not_or, Bool.not_eq_true,
    Option.isSome_eq_false_iff, Option.isNone_iff_eq_none] at h
  obtain ⟨generation, hgeneration, state, hstate, _, ⟨-, hfresh⟩, duration, -, _, ⟨-, hroom, -⟩,
    disposed, hdisposed, hnext⟩ := h
  cases hnext
  obtain ⟨hindex, -⟩ := lifecycleGeneration_eq_ok hgeneration
  obtain ⟨hmark, havailable, counts, rfl, hcounts⟩ :=
    launchDisposition_eq_ok hindex hevent hlaunch hdisposed rfl
  have hroom : generation.generationIndex ≠ 0 →
      ImmediateCandidate audit generation.generationIndex ∨
        WarmAhead audit event generation.generationIndex := by
    intro hne
    rw [if_neg hne, not_and_or, not_not, not_not] at hroom
    exact hroom
  let launched := LifecycleAudit.update { audit with availableShutdowns := counts }
    generation.generationIndex fun state => { state with launchRecord := some record.recordIndex }
  have hplaced (source : Option (Nat × String)) :
      (placeLaunched launched generation.generationIndex
        (WarmAhead audit event generation.generationIndex)).roles =
      audit.roles.after (.launched generation.generationIndex source) :=
    roles_placeLaunched source rfl hlaunch hroom
  -- the slot is all that is left to fill
  obtain ⟨pending, warmed, hsame⟩ : ∃ pending warmed,
      placeLaunched launched generation.generationIndex
        (WarmAhead audit event generation.generationIndex) =
      { launched with pendingCandidate := pending, warmedGeneration := warmed } := by
    unfold placeLaunched
    split
    · exact ⟨_, _, rfl⟩
    · split
      · exact ⟨_, _, rfl⟩
      · exact ⟨_, _, rfl⟩
  rw [hmark]
  change Taken handovers record audit _ (placeLaunched launched _ _)
  rw [hsame] at hplaced ⊢
  refine ⟨⟨⟨state, hstate, hfresh⟩, ?_, havailable⟩, rfl, ?_, ?_, ?_, hplaced _, ?_⟩
  · intro hne
    rcases hroom hne with himmediate | hahead
    · exact .inl (immediateCandidate_iff.mp himmediate)
    · obtain rfl : event = .generationLaunched := hahead.1
      exact .inr (warmAhead_iff.mp hahead)
  · simp [Mark.proof?, launched, LifecycleAudit.update]
  · simp [Mark.registration?, launched, LifecycleAudit.update]
  · simp [launched, LifecycleAudit.update]
  · intro key
    have := hcounts key
    simpa [launched, LifecycleAudit.update, Mark.disposition?, Mark.shutdown?] using this

end Arms

end LobReplay.Campaign
