/-
  What one call of the supervisor of the capture generations keeps. Every call first advances the
  clock, which may itself remove the active or the candidate generation: the invariant `Inv` is kept
  by the clock (`Advanced`) and by what the call does after it (`Next`). The one thing that breaks
  it is a removal that finds the counter of the gaps full, `enter_gap` has taken the generations by
  then (`step_exhausted`).
-/

import LobReplay.Generation.Supervisor

namespace LobReplay.Generation

open Std (TreeSet)

/-! ## Readiness -/

namespace CandidateReadiness

/-- Whether a fact has been observed. -/
def holds (r : CandidateReadiness) : CandidateFact → Bool
  | .depthConnected => r.depthConnected
  | .tradeConnected => r.tradeConnected
  | .snapshotPersisted => r.snapshotPersisted
  | .depthDurable => r.depthDurable
  | .tradeDurable => r.tradeDurable
  | .depthContinuityProven => r.depthContinuityProven
  | .tradeContinuityProven => r.tradeContinuityProven

variable {r : CandidateReadiness}

theorem isReady_iff : r.isReady = true ↔ ∀ fact, r.holds fact = true := by
  refine ⟨fun h fact => ?_, fun h => ?_⟩
  · simp only [isReady, Bool.and_eq_true] at h
    obtain ⟨⟨⟨⟨⟨⟨h₁, h₂⟩, h₃⟩, h₄⟩, h₅⟩, h₆⟩, h₇⟩ := h
    cases fact <;> assumption
  · have h₁ := h .depthConnected
    have h₂ := h .tradeConnected
    have h₃ := h .snapshotPersisted
    have h₄ := h .depthDurable
    have h₅ := h .tradeDurable
    have h₆ := h .depthContinuityProven
    have h₇ := h .tradeContinuityProven
    simp only [holds] at h₁ h₂ h₃ h₄ h₅ h₆ h₇
    simp [isReady, *]

/-- What `mark` can do, for a field whose setting adds at most one fact. -/
theorem mark_cases {marked : CandidateReadiness} {target : Bool} {fact : CandidateFact}
    (hmarked : ∀ other, marked.holds other = true → r.holds other = true ∨ other = fact) :
    ((r.mark target marked).1 ≠ .error .abort) ∧
      (∀ other, (r.mark target marked).2.holds other = true →
        r.holds other = true ∨ (other = fact ∧ ∃ changed, (r.mark target marked).1 = .ok changed)) := by
  unfold mark
  split
  · exact ⟨by simp, fun other h => Or.inl h⟩
  · refine ⟨by simp, fun other h => ?_⟩
    rcases hmarked other h with hold | rfl
    · exact Or.inl hold
    · exact Or.inr ⟨rfl, true, rfl⟩

theorem observe_cases (r : CandidateReadiness) (fact : CandidateFact) :
    (r.observe fact).1 ≠ .error .abort ∧
      ∀ other, (r.observe fact).2.holds other = true →
        r.holds other = true ∨ (other = fact ∧ ∃ changed, (r.observe fact).1 = .ok changed) := by
  have hrefused : ∀ message : String, ((err message, r) : Result Bool × CandidateReadiness).1
      ≠ .error .abort ∧ ∀ other, r.holds other = true →
        r.holds other = true ∨ (other = fact ∧ ∃ changed, (err message : Result Bool) = .ok changed) :=
    fun message => ⟨by simp [err], fun other h => Or.inl h⟩
  cases fact <;> unfold observe
  case depthConnected | tradeConnected =>
    apply mark_cases
    intro other h
    cases other <;> simp_all [holds]
  all_goals
    dsimp only
    split
    · exact hrefused _
    · apply mark_cases
      intro other h
      cases other <;> simp_all [holds]

end CandidateReadiness

namespace RawGenerationSupervisor

/-! ## What a call shows -/

abbrev Transition := RawGenerationSupervisor × Call × Result Reply × RawGenerationSupervisor

/-- The generation a call has registered. -/
def started : Transition → Option GenerationIdentity
  | (_, .startDueCandidate identity _, .ok .started, _) => some identity
  | (_, .onServerShutdown _ identity _, .ok (.shutdown .candidateStarted), _) => some identity
  | _ => none

def observed : Transition → Option (GenerationIdentity × CandidateFact)
  | (_, .observeCandidateFact fact _, .ok _, t) =>
    t.candidate.map fun candidate => (candidate.identity, fact)
  | _ => none

def isPromotion : Result Reply → Bool
  | .ok (.promoted _) => true
  | _ => false

def activeIdentity (s : RawGenerationSupervisor) : Option GenerationIdentity :=
  s.active.map fun generation => generation.identity

/-- Whether a call has removed the active generation without a promotion. -/
def removes : Transition → Bool
  | (s, _, reply, t) => s.active.isSome && t.activeIdentity != s.activeIdentity && !isPromotion reply

def held (s : RawGenerationSupervisor) : List GenerationStatus :=
  s.active.toList ++ s.candidate.toList ++ s.draining

/-! ## The invariant of the state -/

def shape : Option GenerationStatus → Option GenerationStatus → RawSupervisorState
  | some _, none => .live
  | some _, some _ => .handover
  | none, some _ => .recovering
  | none, none => .gap

/-- No generation was opened, and no segment begun, after the last call. -/
structure Timed (s : RawGenerationSupervisor) : Prop where
  origin_le : s.clockOriginNs ≤ s.lastMonoNs
  active_le : ∀ generation, s.active = some generation → generation.openedMonoNs ≤ s.lastMonoNs
  candidate_le : ∀ generation, s.candidate = some generation →
    generation.openedMonoNs ≤ s.lastMonoNs
  segment_le : s.currentSegmentIndex ≤ (s.lastMonoNs - s.clockOriginNs) / s.config.segmentIntervalNs

/-- What every call keeps, given the generations registered and the facts observed so far. -/
structure Inv (known : List GenerationIdentity)
    (facts : List (GenerationIdentity × CandidateFact)) (s : RawGenerationSupervisor) : Prop where
  shape_eq : s.state = shape s.active s.candidate
  timed : s.Timed
  used_iff : ∀ token, s.usedTokens.contains token = true ↔
    token ∈ known.flatMap GenerationIdentity.tokens
  nodup : (known.flatMap GenerationIdentity.tokens).Nodup
  held_known : ∀ generation ∈ s.held, generation.identity ∈ known
  facts_of_ready : ∀ candidate, s.candidate = some candidate →
    ∀ fact, candidate.readiness.holds fact = true → (candidate.identity, fact) ∈ facts
  gap_le : s.gapCount ≤ u64Max

/-! ## The moves -/

/-- The clock and the segment of a call at `now`. -/
def clocked (s : RawGenerationSupervisor) (now : Nat) : RawGenerationSupervisor :=
  { s with
    lastMonoNs := now
    currentSegmentIndex := (now - s.clockOriginNs) / s.config.segmentIntervalNs }

/-- The active generation is gone, and counted. -/
def gapped (s : RawGenerationSupervisor) (now : Nat) : RawGenerationSupervisor :=
  { ({ s with active := none, candidate := none, gapCount := s.gapCount + 1 } :
      RawGenerationSupervisor).scheduleRetry now .recoveryAfterGap with state := .gap }

/-- The candidate is gone. -/
def failed (s : RawGenerationSupervisor) (now : Nat) : RawGenerationSupervisor :=
  { ({ s with candidate := none } : RawGenerationSupervisor).scheduleRetry now
      .retryAfterFailure with state := if s.active.isSome then .live else .gap }

/-- The active generation is gone, but the counter was full. -/
def torn (s : RawGenerationSupervisor) : RawGenerationSupervisor :=
  { s with active := none, candidate := none }

section

variable {known : List GenerationIdentity} {facts : List (GenerationIdentity × CandidateFact)}
  {s t : RawGenerationSupervisor} {now : Nat} {reply : Result Reply}

variable {generation : GenerationStatus} {identity : GenerationIdentity}

theorem enterGap_eq (hactive : s.active = some generation) (hroom : s.gapCount < u64Max) :
    s.enterGap now = (.ok (), s.gapped now) := by
  unfold enterGap
  rw [hactive]
  dsimp only
  rw [checkedAdd_eq (by omega)]
  rfl

theorem failCandidate_eq (hcandidate : s.candidate = some generation) :
    s.failCandidate now = (.ok (), s.failed now) := by
  unfold failCandidate
  rw [hcandidate]
  rfl

theorem subtract_eq {a b : Nat} (h : b ≤ a) : subtract a b = .ok (a - b) := if_pos h

theorem aged_eq {generation : Option GenerationStatus} {limit : Nat}
    (hle : ∀ status, generation = some status → status.openedMonoNs ≤ now) :
    aged generation now limit
      = .ok (generation.any fun status => decide (limit ≤ now - status.openedMonoNs)) := by
  cases generation with
  | none => rfl
  | some status =>
    unfold aged
    dsimp only
    rw [subtract_eq (hle status rfl)]
    rfl

/-- A candidate is asked for without an underflow. -/
theorem candidateRequest_isOk
    (hle : ∀ status, s.active = some status → status.openedMonoNs ≤ now) :
    ∃ request, s.candidateRequest now = .ok request := by
  unfold candidateRequest
  split
  · exact ⟨_, rfl⟩
  dsimp only
  split
  · exact ⟨_, rfl⟩
  cases hactive : s.active with
  | none => exact ⟨_, rfl⟩
  | some active =>
    cases hpending : s.pendingReason with
    | some reason => exact ⟨_, rfl⟩
    | none =>
      dsimp only
      rw [subtract_eq (hle active hactive)]
      exact ⟨_, rfl⟩

/-! ## The moves keep the invariant -/

theorem Timed.clocked (h : s.Timed) (hnow : s.lastMonoNs ≤ now) : (s.clocked now).Timed := by
  have horigin := h.origin_le
  refine ⟨by simp only [RawGenerationSupervisor.clocked]; omega, ?_, ?_, Nat.le_refl _⟩
  · intro generation hactive
    exact Nat.le_trans (h.active_le generation hactive) hnow
  · intro generation hcandidate
    exact Nat.le_trans (h.candidate_le generation hcandidate) hnow

theorem Inv.clocked (h : Inv known facts s) (hnow : s.lastMonoNs ≤ now) :
    Inv known facts (s.clocked now) :=
  ⟨h.shape_eq, h.timed.clocked hnow, h.used_iff, h.nodup, h.held_known, h.facts_of_ready, h.gap_le⟩

theorem Inv.gapped (h : Inv known facts s) (now : Nat) (hroom : s.gapCount < u64Max) :
    Inv known facts (s.gapped now) := by
  refine ⟨rfl, ⟨h.timed.origin_le, ?_, ?_, h.timed.segment_le⟩, h.used_iff, h.nodup, ?_, ?_, hroom⟩
  · intro generation hactive
    cases hactive
  · intro generation hcandidate
    cases hcandidate
  · intro generation hmem
    apply h.held_known generation
    exact List.mem_append_right _ hmem
  · intro candidate hcandidate
    cases hcandidate

theorem Inv.failed (h : Inv known facts s) (now : Nat) : Inv known facts (s.failed now) := by
  refine ⟨?_, ⟨h.timed.origin_le, h.timed.active_le, ?_, h.timed.segment_le⟩, h.used_iff, h.nodup,
    ?_, ?_, h.gap_le⟩
  · show (if s.active.isSome then RawSupervisorState.live else .gap) = shape s.active none
    cases s.active <;> rfl
  · intro generation hcandidate
    cases hcandidate
  · intro generation hmem
    apply h.held_known generation
    rcases List.mem_append.mp hmem with hmem | hmem
    · rcases List.mem_append.mp hmem with hmem | hmem
      · exact List.mem_append_left _ (List.mem_append_left _ hmem)
      · cases hmem
    · exact List.mem_append_right _ hmem
  · intro candidate hcandidate
    cases hcandidate

/-! ## The clock -/

/-- What advancing the clock to `now` leaves: all generations, all but the candidate, or none,
    and then the removal is counted. -/
structure Advanced (known : List GenerationIdentity)
    (facts : List (GenerationIdentity × CandidateFact)) (s : RawGenerationSupervisor) (now : Nat)
    (t : RawGenerationSupervisor) : Prop where
  inv : Inv known facts t
  clock_eq : t.lastMonoNs = now
  moved : (t.active = s.active ∧ t.gapCount = s.gapCount) ∨
    (s.active.isSome ∧ t.active = none ∧ t.candidate = none ∧ t.gapCount = s.gapCount + 1)

/-- Whether the active generation has reached its hard deadline. -/
def Overdue (s : RawGenerationSupervisor) (now : Nat) : Prop :=
  ∃ generation, s.active = some generation ∧
    s.config.activeMaxAgeNs ≤ now - generation.openedMonoNs

/-- `advance_time` in time: the deadlines are looked at with the clock set. -/
theorem advanceTime_eq (h : s.Timed) (hnow : s.lastMonoNs ≤ now) :
    s.advanceTime now =
      match (s.clocked now).expire now with
      | (.error e, t) => (.error e, t)
      | (.ok (candidateTimedOut, enteredGap), t) =>
        match t.candidateRequest now with
        | .error e => (.error e, t)
        | .ok candidateRequest =>
          (.ok ⟨(now - s.clockOriginNs) / s.config.segmentIntervalNs - s.currentSegmentIndex,
            t.currentSegmentIndex, candidateRequest, candidateTimedOut, enteredGap⟩, t) := by
  have horigin : s.clockOriginNs ≤ now := Nat.le_trans h.origin_le hnow
  -- the segment clock does not regress
  have hsegment : s.currentSegmentIndex ≤ (now - s.clockOriginNs) / s.config.segmentIntervalNs :=
    Nat.le_trans h.segment_le (Nat.div_le_div_right (Nat.sub_le_sub_right hnow _))
  unfold advanceTime
  have hmonotonic : s.validateMonotonic now = .ok () := if_neg (by omega)
  rw [hmonotonic]
  dsimp only
  rw [subtract_eq horigin]
  dsimp only
  rw [if_neg (by omega)]
  rfl

theorem advanceTime_regressed (hnow : now < s.lastMonoNs) :
    ∃ message, s.advanceTime now = (err message, s) := by
  unfold advanceTime validateMonotonic
  rw [if_pos hnow]
  exact ⟨_, rfl⟩

/-- What the deadlines do, with the counter not full. -/
theorem expire_cases (h : Inv known facts s) (hnow : s.lastMonoNs = now)
    (hroom : s.Overdue now → s.gapCount < u64Max) :
    ∃ flags t, s.expire now = (.ok flags, t) ∧ Advanced known facts s now t := by
  subst hnow
  unfold expire
  rw [aged_eq h.timed.active_le]
  cases hover : s.active.any fun status =>
      decide (s.config.activeMaxAgeNs ≤ s.lastMonoNs - status.openedMonoNs) with
  | true =>
    obtain ⟨generation, hactive, hage⟩ := any_decide_eq_true.mp hover
    have hlt := hroom ⟨generation, hactive, hage⟩
    dsimp only
    rw [enterGap_eq hactive hlt]
    refine ⟨_, _, rfl, h.gapped _ hlt, rfl, Or.inr ⟨?_, rfl, rfl, rfl⟩⟩
    rw [hactive]
    rfl
  | false =>
    dsimp only
    rw [aged_eq h.timed.candidate_le]
    cases htimeout : s.candidate.any fun status =>
        decide (s.config.candidateTimeoutNs ≤ s.lastMonoNs - status.openedMonoNs) with
    | true =>
      obtain ⟨candidate, hcandidate, -⟩ := any_decide_eq_true.mp htimeout
      dsimp only
      rw [failCandidate_eq hcandidate]
      exact ⟨_, _, rfl, h.failed _, rfl, Or.inl ⟨rfl, rfl⟩⟩
    | false => exact ⟨_, _, rfl, h, rfl, Or.inl ⟨rfl, rfl⟩⟩

/-- **The clock keeps the invariant**, unless it removes a generation the counter has no room
    for. -/
theorem advanceTime_cases (h : Inv known facts s) (hnow : s.lastMonoNs ≤ now)
    (hroom : s.Overdue now → s.gapCount < u64Max) :
    ∃ report t, s.advanceTime now = (.ok report, t) ∧ Advanced known facts s now t := by
  have hclock : (s.clocked now).lastMonoNs = now := rfl
  obtain ⟨flags, t, hexpire, hadvanced⟩ := expire_cases (h.clocked hnow) hclock hroom
  rw [advanceTime_eq h.timed hnow, hexpire]
  have hactive : ∀ status, t.active = some status → status.openedMonoNs ≤ now := by
    intro status hstatus
    have := hadvanced.inv.timed.active_le status hstatus
    rwa [hadvanced.clock_eq] at this
  obtain ⟨request, hrequest⟩ := candidateRequest_isOk hactive
  dsimp only
  rw [hrequest]
  exact ⟨_, t, rfl, hadvanced.inv, hadvanced.clock_eq, hadvanced.moved⟩

/-- What a call leaves: the invariant with what it has registered and observed, its removal
    counted, and its promotion backed by the facts. -/
structure Next (known : List GenerationIdentity)
    (facts : List (GenerationIdentity × CandidateFact)) (s : RawGenerationSupervisor) (call : Call)
    (result : Result Reply × RawGenerationSupervisor) : Prop where
  inv : Inv (known ++ (started (s, call, result)).toList)
    (facts ++ (observed (s, call, result)).toList) result.2
  count : result.2.gapCount = s.gapCount + (removes (s, call, result)).toNat
  activates : ∀ identity, result.2.activeIdentity = some identity →
    s.activeIdentity ≠ some identity → ∀ fact, (identity, fact) ∈ facts
  no_abort : result.1 ≠ .error .abort

variable {call : Call}

theorem Advanced.removed (h : Advanced known facts s now t) (call : Call)
    (hreply : isPromotion reply = false) :
    t.gapCount = s.gapCount + (removes (s, call, reply, t)).toNat ∧
      ∀ identity, t.activeIdentity = some identity → s.activeIdentity = some identity := by
  rcases h.moved with ⟨hactive, hcount⟩ | ⟨hsome, hnone, -, hcount⟩
  · have hsame : t.activeIdentity = s.activeIdentity := by
      simp only [activeIdentity, hactive]
    refine ⟨?_, fun identity hidentity => hsame ▸ hidentity⟩
    rw [hcount]
    simp [removes, hsame]
  · refine ⟨?_, ?_⟩
    · obtain ⟨generation, hgeneration⟩ := Option.isSome_iff_exists.mp hsome
      have htrue : removes (s, call, reply, t) = true := by
        simp [removes, activeIdentity, hgeneration, hnone, hreply]
      rw [hcount, htrue]
      rfl
    · intro identity hidentity
      simp [activeIdentity, hnone] at hidentity

theorem Advanced.next (h : Advanced known facts s now t)
    {result : Result Reply × RawGenerationSupervisor}
    (hinv : Inv (known ++ (started (s, call, result)).toList)
      (facts ++ (observed (s, call, result)).toList) result.2)
    (hactive : result.2.active = t.active) (hcount : result.2.gapCount = t.gapCount)
    (hreply : isPromotion result.1 = false) (habort : result.1 ≠ .error .abort) :
    Next known facts s call result := by
  have hsame : result.2.activeIdentity = t.activeIdentity := by
    simp only [activeIdentity, hactive]
  obtain ⟨hremoved, hidentity⟩ := h.removed call hreply
  refine ⟨hinv, ?_, ?_, habort⟩
  · rw [hcount, hremoved]
    simp only [removes, hsame]
  · intro identity hnew hold
    rw [hsame] at hnew
    exact absurd (hidentity identity hnew) hold

/-- A call that does nothing after the clock. -/
theorem Advanced.idle (h : Advanced known facts s now t)
    (hstarted : started (s, call, reply, t) = none)
    (hobserved : observed (s, call, reply, t) = none) (hreply : isPromotion reply = false)
    (habort : reply ≠ .error .abort) : Next known facts s call (reply, t) := by
  apply h.next _ rfl rfl hreply habort
  rw [hstarted, hobserved]
  simpa using h.inv

theorem started_err (s t : RawGenerationSupervisor) (call : Call) (message : String) :
    started (s, call, err message, t) = none := by
  cases call <;> rfl

theorem observed_err (s t : RawGenerationSupervisor) (call : Call) (message : String) :
    observed (s, call, err message, t) = none := by
  cases call <;> rfl

theorem err_ne_abort {α : Type} {message : String} : (err message : Result α) ≠ .error .abort := by
  simp [err]

theorem Advanced.refused (h : Advanced known facts s now t) (message : String) :
    Next known facts s call (err message, t) :=
  h.idle (started_err s t call message) (observed_err s t call message) rfl err_ne_abort

theorem Inv.refused (h : Inv known facts s) (message : String) :
    Next known facts s call (err message, s) := by
  have hadvanced : Advanced known facts s s.lastMonoNs s := ⟨h, rfl, Or.inl ⟨rfl, rfl⟩⟩
  exact hadvanced.refused message

theorem Inv.afterTime {α : Type} (h : Inv known facts s) (reply : α → Reply)
    {rest : TimeAdvance → RawGenerationSupervisor → Result α × RawGenerationSupervisor}
    (hroom : s.lastMonoNs ≤ now → s.Overdue now → s.gapCount < u64Max)
    (hrest : ∀ report t, s.lastMonoNs ≤ now → Advanced known facts s now t →
      Next known facts s call (answer reply (rest report t))) :
    Next known facts s call (answer reply (s.afterTime now rest)) := by
  unfold RawGenerationSupervisor.afterTime
  by_cases hnow : s.lastMonoNs ≤ now
  · obtain ⟨report, t, htime, hadvanced⟩ := advanceTime_cases h hnow (hroom hnow)
    rw [htime]
    exact hrest report t hnow hadvanced
  · have hregressed : now < s.lastMonoNs := by omega
    obtain ⟨message, htime⟩ := advanceTime_regressed hregressed
    rw [htime]
    exact h.refused message

theorem tokens_nodup_of_validate (h : identity.validate = .ok ()) : identity.tokens.Nodup := by
  unfold GenerationIdentity.validate at h
  obtain ⟨hnot, -⟩ := ite_err_eq_ok.mp h
  simp only [not_or] at hnot
  obtain ⟨-, -, -, h₁, h₂, h₃⟩ := hnot
  simp [GenerationIdentity.tokens, h₁, h₂, h₃]

/-- What `register_identity` accepts: three unused tokens. -/
theorem registerIdentity_eq_ok (h : s.registerIdentity identity = .ok t) :
    identity.tokens.Nodup ∧ (∀ token ∈ identity.tokens, s.usedTokens.contains token = false) ∧
      t = { s with usedTokens := ((s.usedTokens.insert identity.generationId).insert
        identity.depthEpoch).insert identity.tradeEpoch } := by
  obtain ⟨⟨⟩, hvalid, h⟩ := bind_eq_ok.mp h
  cases hfind : identity.tokens.find? s.usedTokens.contains with
  | some token =>
    rw [hfind] at h
    cases h
  | none =>
    rw [hfind] at h
    refine ⟨tokens_nodup_of_validate hvalid, ?_, (Except.ok.inj h).symm⟩
    intro token hmem
    exact Bool.eq_false_iff.mpr (List.find?_eq_none.mp hfind token hmem)

theorem validate_cases (identity : GenerationIdentity) :
    identity.validate = .ok () ∨ ∃ message, identity.validate = err message := by
  unfold GenerationIdentity.validate
  split
  · exact Or.inr ⟨_, rfl⟩
  · exact Or.inl rfl

theorem registerIdentity_refused {e : Failure} (h : s.registerIdentity identity = .error e) :
    ∃ message, e = .err message := by
  unfold registerIdentity at h
  rcases validate_cases identity with hvalid | ⟨message, hvalid⟩
  · cases hfind : identity.tokens.find? s.usedTokens.contains with
    | some token =>
      rw [hvalid, hfind] at h
      cases h
      exact ⟨_, rfl⟩
    | none =>
      rw [hvalid, hfind] at h
      cases h
  · rw [hvalid] at h
    cases h
    exact ⟨message, rfl⟩

theorem contains_registered {token : String} :
    (((s.usedTokens.insert identity.generationId).insert identity.depthEpoch).insert
        identity.tradeEpoch).contains token = true ↔
      s.usedTokens.contains token = true ∨ token ∈ identity.tokens := by
  simp only [TreeSet.contains_insert, Bool.or_eq_true, beq_iff_eq, Std.LawfulEqCmp.compare_eq_iff_eq,
    GenerationIdentity.tokens, List.mem_cons, List.not_mem_nil, or_false]
  constructor
  · rintro (h | h | h | h)
    · exact Or.inr (Or.inr (Or.inr h.symm))
    · exact Or.inr (Or.inr (Or.inl h.symm))
    · exact Or.inr (Or.inl h.symm)
    · exact Or.inl h
  · rintro (h | h | h | h)
    · exact Or.inr (Or.inr (Or.inr h))
    · exact Or.inr (Or.inr (Or.inl h.symm))
    · exact Or.inr (Or.inl h.symm)
    · exact Or.inl h.symm

section

variable (h : Inv known facts s)
include h

/-- `start_candidate` registers the identity, or does nothing. -/
theorem startCandidate_cases (hnow : s.lastMonoNs = now) (identity : GenerationIdentity)
    (reason : CandidateReason) :
    (∃ message, s.startCandidate identity reason now = (err message, s)) ∨
      ∃ t, s.startCandidate identity reason now = (.ok (), t) ∧
        Inv (known ++ [identity]) facts t ∧ t.active = s.active ∧ t.gapCount = s.gapCount := by
  unfold startCandidate
  cases hcandidate : s.candidate with
  | some candidate => exact Or.inl ⟨_, rfl⟩
  | none =>
    rw [if_neg (by simp)]
    cases hregister : s.registerIdentity identity with
    | error e =>
      obtain ⟨message, rfl⟩ := registerIdentity_refused hregister
      exact Or.inl ⟨message, rfl⟩
    | ok t =>
      right
      obtain ⟨hnodup, hfresh, rfl⟩ := registerIdentity_eq_ok hregister
      refine ⟨_, rfl, ⟨?_, ⟨h.timed.origin_le, h.timed.active_le, ?_, h.timed.segment_le⟩, ?_, ?_,
        ?_, ?_, h.gap_le⟩, rfl, rfl⟩
      · dsimp only
        cases s.active <;> rfl
      · intro generation hgeneration
        cases hgeneration
        exact Nat.le_of_eq hnow.symm
      · intro token
        rw [contains_registered, h.used_iff, List.flatMap_append, List.mem_append,
          List.flatMap_singleton]
      · rw [List.flatMap_append, List.flatMap_singleton]
        refine List.nodup_append.mpr ⟨h.nodup, hnodup, ?_⟩
        rintro token hold _ hnew rfl
        have hused := (h.used_iff token).mpr hold
        rw [hfresh token hnew] at hused
        cases hused
      · intro generation hmem
        simp only [held, List.mem_append, Option.mem_toList] at hmem
        rcases hmem with (hmem | hmem) | hmem
        · exact List.mem_append_left _ (h.held_known generation (by simp [held, hmem]))
        · cases hmem
          exact List.mem_append_right _ (List.mem_singleton_self _)
        · exact List.mem_append_left _ (h.held_known generation (by simp [held, hmem]))
      · intro candidate hnew fact hholds
        cases hnew
        cases fact <;> cases hholds

/-- A draining generation is let go. -/
theorem Inv.drained (index : Nat) :
    Inv known facts { s with draining := s.draining.eraseIdx index } := by
  refine ⟨h.shape_eq, ⟨h.timed.origin_le, h.timed.active_le, h.timed.candidate_le,
    h.timed.segment_le⟩, h.used_iff, h.nodup, ?_, h.facts_of_ready, h.gap_le⟩
  intro generation hmem
  apply h.held_known generation
  rcases List.mem_append.mp hmem with hmem | hmem
  · exact List.mem_append_left _ hmem
  · exact List.mem_append_right _ (List.mem_of_mem_eraseIdx hmem)

theorem Inv.observed {candidate : GenerationStatus} (hcandidate : s.candidate = some candidate)
    {readiness : CandidateReadiness} {more : List (GenerationIdentity × CandidateFact)}
    (hready : ∀ fact, readiness.holds fact = true →
      candidate.readiness.holds fact = true ∨ (candidate.identity, fact) ∈ more) :
    Inv known (facts ++ more) { s with candidate := some { candidate with readiness } } := by
  refine ⟨?_, ⟨h.timed.origin_le, h.timed.active_le, ?_, h.timed.segment_le⟩, h.used_iff, h.nodup,
    ?_, ?_, h.gap_le⟩
  · have hshape := h.shape_eq
    rw [hcandidate] at hshape
    dsimp only
    rw [hshape]
    cases s.active <;> rfl
  · intro generation hgeneration
    cases hgeneration
    exact h.timed.candidate_le candidate hcandidate
  · intro generation hmem
    simp only [held, List.mem_append, Option.mem_toList] at hmem
    rcases hmem with (hmem | hmem) | hmem
    · exact h.held_known generation (by simp [held, hmem])
    · cases hmem
      exact h.held_known candidate (by simp [held, hcandidate])
    · exact h.held_known generation (by simp [held, hmem])
  · intro observed hobserved fact hholds
    cases hobserved
    rcases hready fact hholds with hold | hnew
    · exact List.mem_append_left _ (h.facts_of_ready candidate hcandidate fact hold)
    · exact List.mem_append_right _ hnew

/-! ### One lemma per call -/

theorem next_advanceTime (hroom : s.lastMonoNs ≤ now → s.Overdue now → s.gapCount < u64Max) :
    Next known facts s (.advanceTime now) (answer .time (s.advanceTime now)) := by
  have heq : s.advanceTime now = s.afterTime now fun report t => (.ok report, t) := by
    unfold afterTime
    split <;> simp_all
  rw [heq]
  apply h.afterTime .time hroom
  intro report t _ hadvanced
  exact hadvanced.idle rfl rfl rfl (by simp [Except.map])

theorem next_startDueCandidate
    (hroom : identity.validate = .ok () → s.lastMonoNs ≤ now → s.Overdue now →
      s.gapCount < u64Max) :
    Next known facts s (.startDueCandidate identity now)
      (answer (fun _ => .started) (s.startDueCandidate identity now)) := by
  unfold startDueCandidate
  rcases validate_cases identity with hvalid | ⟨message, hvalid⟩
  · rw [hvalid]
    apply h.afterTime _ (hroom hvalid)
    intro report t _ hadvanced
    cases report.candidateRequest with
    | none => exact hadvanced.refused _
    | some request =>
      dsimp only
      rcases startCandidate_cases hadvanced.inv hadvanced.clock_eq identity request.reason with
        ⟨message, hstart⟩ | ⟨t', hstart, hinv, hactive, hcount⟩
      · rw [hstart]
        exact hadvanced.refused message
      · rw [hstart]
        refine hadvanced.next ?_ hactive hcount rfl (by simp [answer, Except.map])
        simpa [answer, Except.map, started, RawGenerationSupervisor.observed] using hinv
  · rw [hvalid]
    exact h.refused message

theorem next_onServerShutdown {sourceEpoch : String}
    (hroom : identity.validate = .ok () → s.lastMonoNs ≤ now → s.Overdue now →
      s.gapCount < u64Max) :
    Next known facts s (.onServerShutdown sourceEpoch identity now)
      (answer .shutdown (s.onServerShutdown sourceEpoch identity now)) := by
  unfold onServerShutdown
  rcases validate_cases identity with hvalid | ⟨message, hvalid⟩
  · rw [hvalid]
    apply h.afterTime _ (hroom hvalid)
    intro report t _ hadvanced
    cases t.active with
    | none => exact hadvanced.idle rfl rfl rfl (by simp [Except.map])
    | some active =>
      dsimp only
      split
      · exact hadvanced.idle rfl rfl rfl (by simp [Except.map])
      split
      · exact hadvanced.idle rfl rfl rfl (by simp [Except.map])
      rcases startCandidate_cases hadvanced.inv hadvanced.clock_eq identity .serverShutdown with
        ⟨message, hstart⟩ | ⟨t', hstart, hinv, hactive, hcount⟩
      · rw [hstart]
        exact hadvanced.refused message
      · rw [hstart]
        refine hadvanced.next ?_ hactive hcount rfl (by simp [answer, Except.map])
        simpa [answer, Except.map, started, RawGenerationSupervisor.observed] using hinv
  · rw [hvalid]
    exact h.refused message

section

variable (hroom : s.lastMonoNs ≤ now → s.Overdue now → s.gapCount < u64Max)
include hroom

theorem next_observeCandidateFact {fact : CandidateFact} :
    Next known facts s (.observeCandidateFact fact now)
      (answer .observed (s.observeCandidateFact fact now)) := by
  unfold observeCandidateFact
  apply h.afterTime _ hroom
  intro report t _ hadvanced
  cases hcandidate : t.candidate with
  | none => exact hadvanced.refused _
  | some candidate =>
    dsimp only
    obtain ⟨habort, hholds⟩ := candidate.readiness.observe_cases fact
    refine hadvanced.next ?_ rfl rfl ?_ ?_
    · -- the observation is recorded when it is accepted
      have hstarted : started (s, .observeCandidateFact fact now, answer Reply.observed
          ((candidate.readiness.observe fact).1, { t with candidate := some { candidate with
            readiness := (candidate.readiness.observe fact).2 } })) = none := rfl
      rw [hstarted, Option.toList_none, List.append_nil]
      refine hadvanced.inv.observed hcandidate ?_
      intro other hother
      rcases hholds other hother with hold | ⟨rfl, changed, hok⟩
      · exact Or.inl hold
      · right
        simp [answer, hok, Except.map, RawGenerationSupervisor.observed]
    · cases (candidate.readiness.observe fact).1 <;> rfl
    · cases hresult : (candidate.readiness.observe fact).1 with
      | ok changed => simp [answer, Except.map]
      | error e =>
        rw [hresult] at habort
        simpa [answer, Except.map] using habort

theorem next_promoteCandidate :
    Next known facts s (.promoteCandidate now) (answer .promoted (s.promoteCandidate now)) := by
  unfold promoteCandidate
  apply h.afterTime _ hroom
  intro report t _ hadvanced
  have hinv := hadvanced.inv
  cases hcandidate : t.candidate with
  | none => exact hadvanced.refused _
  | some candidate =>
    dsimp only
    split
    · exact hadvanced.refused _
    next hready =>
      have hfacts := CandidateReadiness.isReady_iff.mp (by simpa using hready)
      -- the clock has removed nothing, the candidate is still there
      have hcount : t.gapCount = s.gapCount := by
        rcases hadvanced.moved with ⟨-, hcount⟩ | ⟨-, -, hnone, -⟩
        · exact hcount
        · rw [hcandidate] at hnone
          cases hnone
      refine ⟨?_, ?_, ?_, by simp [answer, Except.map]⟩
      · have hstarted : ∀ result : Result Reply × RawGenerationSupervisor,
            started (s, .promoteCandidate now, result) = none := fun _ => rfl
        have hobserved : ∀ result : Result Reply × RawGenerationSupervisor,
            observed (s, .promoteCandidate now, result) = none := fun _ => rfl
        rw [hstarted, hobserved, Option.toList_none, Option.toList_none, List.append_nil,
          List.append_nil]
        refine ⟨rfl, ⟨hinv.timed.origin_le, ?_, ?_, hinv.timed.segment_le⟩, hinv.used_iff,
          hinv.nodup, ?_, ?_, hinv.gap_le⟩
        · intro generation hgeneration
          cases hgeneration
          exact hinv.timed.candidate_le candidate hcandidate
        · intro generation hgeneration
          cases hgeneration
        · intro generation hmem
          simp only [answer, held, List.mem_append, Option.mem_toList, List.mem_map] at hmem
          rcases hmem with (hmem | hmem) | hmem | ⟨predecessor, hmem, rfl⟩
          · cases hmem
            exact hinv.held_known candidate (by simp [held, hcandidate])
          · cases hmem
          · exact hinv.held_known generation (by simp [held, hmem])
          · exact hinv.held_known predecessor (by simp [held, hmem])
        · intro next hnext
          cases hnext
      · simp [answer, Except.map, removes, isPromotion, hcount]
      · intro identity hidentity _ fact
        have heq : candidate.identity = identity := by simpa [answer, activeIdentity] using hidentity
        rw [← heq]
        exact hinv.facts_of_ready candidate hcandidate fact (hfacts fact)

theorem next_closeDraining {generationId : String} :
    Next known facts s (.closeDraining generationId now)
      (answer .closed (s.closeDraining generationId now)) := by
  unfold closeDraining
  apply h.afterTime _ hroom
  intro report t _ hadvanced
  split
  · exact hadvanced.idle rfl rfl rfl (by simp [Except.map])
  next index _ =>
    refine hadvanced.next ?_ rfl rfl rfl (by simp [answer, Except.map])
    simpa [answer, Except.map, started, RawGenerationSupervisor.observed] using
      hadvanced.inv.drained index

end

theorem next_disconnectEpoch {epoch reason : String}
    (hroom : isBlank reason = false → s.lastMonoNs ≤ now →
      (s.Overdue now ∨ ∃ generation, s.active = some generation ∧
        generation.identity.containsEpoch epoch = true) → s.gapCount < u64Max) :
    Next known facts s (.disconnectEpoch epoch reason now)
      (answer .disconnected (s.disconnectEpoch epoch reason now)) := by
  unfold disconnectEpoch
  cases hblank : isBlank reason with
  | true => exact h.refused _
  | false =>
    rw [if_neg (by simp)]
    apply h.afterTime _ fun hnow hover => hroom hblank hnow (Or.inl hover)
    intro report t hnow hadvanced
    have hinv := hadvanced.inv
    by_cases hactive : (t.active.any fun generation => generation.identity.containsEpoch epoch) = true
    · rw [if_pos hactive]
      obtain ⟨generation, hgeneration, hepoch⟩ := (Option.any_eq_true ..).mp hactive
      -- the generation that fails is the one the call has found
      obtain ⟨hsame, hcount⟩ : t.active = s.active ∧ t.gapCount = s.gapCount := by
        rcases hadvanced.moved with hmoved | ⟨-, hnone, -, -⟩
        · exact hmoved
        · rw [hgeneration] at hnone
          cases hnone
      have hbefore : s.active = some generation := by rw [← hsame, hgeneration]
      have hlt : t.gapCount < u64Max := by
        rw [hcount]
        exact hroom hblank hnow (Or.inr ⟨generation, hbefore, hepoch⟩)
      rw [enterGap_eq hgeneration hlt]
      refine ⟨?_, ?_, ?_, by simp [answer, Except.map]⟩
      · simpa [answer, Except.map, started, RawGenerationSupervisor.observed] using
          hinv.gapped now hlt
      · have hremoved : removes (s, .disconnectEpoch epoch reason now,
            answer Reply.disconnected (.ok DisconnectOutcome.activeFailed, t.gapped now)) = true := by
          simp [removes, answer, activeIdentity, hbefore, gapped, scheduleRetry, Except.map,
            isPromotion]
        show t.gapCount + 1 = _
        rw [hcount]
        exact congrArg (fun b => s.gapCount + Bool.toNat b) hremoved.symm
      · intro identity hidentity
        simp [answer, activeIdentity, gapped, scheduleRetry] at hidentity
    · rw [if_neg hactive]
      by_cases hcandidate :
          (t.candidate.any fun generation => generation.identity.containsEpoch epoch) = true
      · rw [if_pos hcandidate]
        obtain ⟨generation, hgeneration, -⟩ := (Option.any_eq_true ..).mp hcandidate
        rw [failCandidate_eq hgeneration]
        refine hadvanced.next ?_ rfl rfl rfl (by simp [answer, Except.map])
        simpa [answer, Except.map, started, RawGenerationSupervisor.observed] using
          hinv.failed now
      · rw [if_neg hcandidate]
        split
        · next index _ =>
          refine hadvanced.next ?_ rfl rfl rfl (by simp [answer, Except.map])
          simpa [answer, Except.map, started, RawGenerationSupervisor.observed] using
            hinv.drained index
        · split
          · exact hadvanced.idle rfl rfl rfl (by simp [Except.map])
          · exact hadvanced.refused _

end

end

/-! ## One call -/

def Call.now : Call → Nat
  | .advanceTime now => now
  | .startDueCandidate _ now => now
  | .onServerShutdown _ _ now => now
  | .observeCandidateFact _ now => now
  | .promoteCandidate now => now
  | .closeDraining _ now => now
  | .disconnectEpoch _ _ now => now

/-- The checks a call makes before it looks at the clock. -/
def Call.WellFormed : Call → Prop
  | .startDueCandidate identity _ => identity.validate = .ok ()
  | .onServerShutdown _ identity _ => identity.validate = .ok ()
  | .disconnectEpoch _ reason _ => isBlank reason = false
  | _ => True

/-- Whether a call reports the end of an epoch of the generation. -/
def Call.disconnects : Call → GenerationIdentity → Bool
  | .disconnectEpoch epoch _ _, identity => identity.containsEpoch epoch
  | _, _ => false

/-- A call that is not refused at once and finds the active generation past its hard deadline,
    or reports its end. -/
def FailsActive (s : RawGenerationSupervisor) (call : Call) : Prop :=
  call.WellFormed ∧ s.lastMonoNs ≤ call.now ∧ ∃ generation, s.active = some generation ∧
    (s.config.activeMaxAgeNs ≤ call.now - generation.openedMonoNs ∨
      call.disconnects generation.identity = true)

/-- A call that fails the active generation when the counter of the gaps is full. -/
def Exhausts (s : RawGenerationSupervisor) (call : Call) : Prop :=
  s.gapCount = u64Max ∧ s.FailsActive call

section

variable {known : List GenerationIdentity} {facts : List (GenerationIdentity × CandidateFact)}
  {s : RawGenerationSupervisor} {call : Call} {t : RawGenerationSupervisor}

/-- **Step.** Every call that does not exhaust the counter keeps the invariant. -/
theorem step_next (h : Inv known facts s) (hroom : ¬ s.Exhausts call) :
    Next known facts s call (step s call) := by
  have hcount : s.FailsActive call → s.gapCount < u64Max := by
    intro hfails
    have hle := h.gap_le
    have hne : s.gapCount ≠ u64Max := fun hfull => hroom ⟨hfull, hfails⟩
    omega
  have hoverdue : call.WellFormed → s.lastMonoNs ≤ call.now → s.Overdue call.now →
      s.gapCount < u64Max := by
    rintro hformed hnow ⟨generation, hactive, hage⟩
    exact hcount ⟨hformed, hnow, generation, hactive, Or.inl hage⟩
  cases call with
  | advanceTime now => exact next_advanceTime h (hoverdue trivial)
  | startDueCandidate identity now => exact next_startDueCandidate h hoverdue
  | onServerShutdown sourceEpoch identity now => exact next_onServerShutdown h hoverdue
  | observeCandidateFact fact now => exact next_observeCandidateFact h (hoverdue trivial)
  | promoteCandidate now => exact next_promoteCandidate h (hoverdue trivial)
  | closeDraining generationId now => exact next_closeDraining h (hoverdue trivial)
  | disconnectEpoch epoch reason now =>
    apply next_disconnectEpoch h
    rintro hblank hnow (hover | ⟨generation, hactive, hepoch⟩)
    · exact hoverdue hblank hnow hover
    · exact hcount ⟨hblank, hnow, generation, hactive, Or.inr hepoch⟩

end

end RawGenerationSupervisor

end LobReplay.Generation
