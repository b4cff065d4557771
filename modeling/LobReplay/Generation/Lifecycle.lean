/-
  What the supervisor of the capture generations keeps over whole runs, accepted and refused calls
  alike: its state says which generations it holds, no identity token is used twice, a generation
  becomes active only with all its evidence, every removal of an active generation is counted, and
  no time difference underflows.
-/

import LobReplay.Foundation.Machine
import LobReplay.Generation.Invariant

namespace LobReplay.Generation

open Foundation
open Std (TreeSet)

namespace RawGenerationSupervisor

/-! ## What a run shows -/

def after (s : RawGenerationSupervisor) (calls : List Call) : RawGenerationSupervisor :=
  (run step s calls).2

def replies (s : RawGenerationSupervisor) (calls : List Call) : List (Result Reply) :=
  (run step s calls).1

/-- All generations ever registered, the first one with the supervisor itself. -/
def registered (initial : GenerationIdentity) (s : RawGenerationSupervisor) (calls : List Call) :
    List GenerationIdentity :=
  initial :: (transitions step s calls).filterMap started

def observations (s : RawGenerationSupervisor) (calls : List Call) :
    List (GenerationIdentity × CandidateFact) :=
  (transitions step s calls).filterMap observed

/-- How often an active generation was removed without a promotion. -/
def removals (s : RawGenerationSupervisor) (calls : List Call) : Nat :=
  (transitions step s calls).countP removes

/-- The last call made a generation active only if all seven facts had been observed for it. -/
def ActivatesReady (s : RawGenerationSupervisor) (before : List Call) (call : Call) : Prop :=
  ∀ identity, (after s (before ++ [call])).activeIdentity = some identity →
    (after s before).activeIdentity ≠ some identity →
    ∀ fact, (identity, fact) ∈ observations s before

/-- **The lifecycle invariant** after a run from the supervisor `s` of `initial`. -/
structure Lifecycle (initial : GenerationIdentity) (s : RawGenerationSupervisor)
    (calls : List Call) : Prop where
  live_iff : (after s calls).state = .live ↔
    (after s calls).active.isSome ∧ (after s calls).candidate.isNone
  handover_iff : (after s calls).state = .handover ↔
    (after s calls).active.isSome ∧ (after s calls).candidate.isSome
  recovering_iff : (after s calls).state = .recovering ↔
    (after s calls).active.isNone ∧ (after s calls).candidate.isSome
  gap_iff : (after s calls).state = .gap ↔
    (after s calls).active.isNone ∧ (after s calls).candidate.isNone
  /-- No token belongs to two generations. -/
  tokens_nodup : ((registered initial s calls).flatMap GenerationIdentity.tokens).Nodup
  held_registered : ∀ generation ∈ (after s calls).held,
    generation.identity ∈ registered initial s calls
  activates_ready : AtEach (ActivatesReady s) calls
  gap_count_eq : (after s calls).gapCount = removals s calls
  /-- The clock differences are the only operations that can abort. -/
  no_underflow : ∀ reply ∈ replies s calls, reply ≠ .error .abort

/-! ## Every run -/

section

variable {initial : GenerationIdentity} {s : RawGenerationSupervisor} {calls : List Call}
  {call : Call} {config : RawSupervisorConfig} {now : Nat}

theorem after_concat (s : RawGenerationSupervisor) (calls : List Call) (call : Call) :
    after s (calls ++ [call]) = (step (after s calls) call).2 := by
  unfold after
  rw [run_concat]

theorem replies_concat (s : RawGenerationSupervisor) (calls : List Call) (call : Call) :
    replies s (calls ++ [call]) = replies s calls ++ [(step (after s calls) call).1] := by
  unfold replies after
  rw [run_concat]

theorem registered_concat (initial : GenerationIdentity) (s : RawGenerationSupervisor)
    (calls : List Call) (call : Call) :
    registered initial s (calls ++ [call]) = registered initial s calls ++
      (started (after s calls, call, step (after s calls) call)).toList := by
  unfold registered after
  rw [transitions_concat, List.filterMap_append, List.cons_append]
  cases hstarted : started ((run step s calls).2, call, step (run step s calls).2 call) <;>
    simp [hstarted]

theorem observations_concat (s : RawGenerationSupervisor) (calls : List Call) (call : Call) :
    observations s (calls ++ [call]) = observations s calls ++
      (observed (after s calls, call, step (after s calls) call)).toList := by
  unfold observations after
  rw [transitions_concat, List.filterMap_append]
  cases hobserved : observed ((run step s calls).2, call, step (run step s calls).2 call) <;>
    simp [hobserved]

theorem removals_concat (s : RawGenerationSupervisor) (calls : List Call) (call : Call) :
    removals s (calls ++ [call]) = removals s calls +
      (removes (after s calls, call, step (after s calls) call)).toNat := by
  unfold removals after
  rw [transitions_concat, List.countP_append]
  cases hremoves : removes ((run step s calls).2, call, step (run step s calls).2 call) <;>
    simp [hremoves]

/-- What the calls keep that exhaust no counter. -/
structure Kept (initial : GenerationIdentity) (s : RawGenerationSupervisor) (calls : List Call) :
    Prop where
  inv : Inv (registered initial s calls) (observations s calls) (after s calls)
  activates : AtEach (ActivatesReady s) calls
  count : (after s calls).gapCount = removals s calls
  no_abort : ∀ reply ∈ replies s calls, reply ≠ .error .abort

theorem inv_new (hnew : new config initial now = .ok s) : Inv [initial] [] s ∧ s.gapCount = 0 := by
  obtain ⟨⟨⟩, -, hnew⟩ := bind_eq_ok.mp hnew
  obtain ⟨⟨⟩, hvalid, hnew⟩ := bind_eq_ok.mp hnew
  cases hnew
  refine ⟨⟨rfl, ⟨Nat.le_refl _, ?_, ?_, Nat.zero_le _⟩, ?_, ?_, ?_, ?_, Nat.zero_le _⟩, rfl⟩
  · intro generation hactive
    cases hactive
    exact Nat.le_refl _
  · intro generation hcandidate
    cases hcandidate
  · intro token
    dsimp only
    rw [List.flatMap_singleton, TreeSet.contains_ofList, List.contains_iff_mem]
  · rw [List.flatMap_singleton]
    exact tokens_nodup_of_validate hvalid
  · intro generation hmem
    cases List.mem_singleton.mp hmem
    exact List.mem_cons_self
  · intro candidate hcandidate
    cases hcandidate

theorem Kept.nil (hnew : new config initial now = .ok s) : Kept initial s [] := by
  obtain ⟨hinv, hcount⟩ := inv_new hnew
  refine ⟨hinv, atEach_nil, hcount, ?_⟩
  intro reply hreply
  cases hreply

/-- **Run, one more call.** -/
theorem Kept.concat (h : Kept initial s calls) (hroom : ¬ (after s calls).Exhausts call) :
    Kept initial s (calls ++ [call]) := by
  have hnext := step_next h.inv hroom
  refine ⟨?_, atEach_concat.mpr ⟨h.activates, ?_⟩, ?_, ?_⟩
  · rw [registered_concat, observations_concat, after_concat]
    exact hnext.inv
  · unfold ActivatesReady
    rw [after_concat]
    exact hnext.activates
  · rw [after_concat, removals_concat, ← h.count]
    exact hnext.count
  · intro reply hreply
    rw [replies_concat] at hreply
    rcases List.mem_append.mp hreply with hreply | hreply
    · exact h.no_abort reply hreply
    · rw [List.mem_singleton.mp hreply]
      exact hnext.no_abort

theorem Kept.lifecycle (h : Kept initial s calls) : Lifecycle initial s calls := by
  have hshape := h.inv.shape_eq
  refine ⟨?_, ?_, ?_, ?_, h.inv.nodup, h.inv.held_known, h.activates, h.count, h.no_abort⟩ <;>
  · rw [hshape]
    cases (after s calls).active <;> cases (after s calls).candidate <;> simp [shape]

end

/-- The shortest durations. -/
def plainConfig : RawSupervisorConfig := ⟨1, 1, 2, 1, 1, 1⟩

/-- The `n`-th token of a kind. -/
def tokenOf (kind : Char) (n : Nat) : String := String.ofList (List.replicate (n + 1) kind)

/-- The `n`-th generation. -/
def identityOf (n : Nat) : GenerationIdentity := ⟨tokenOf 'g' n, tokenOf 'd' n, tokenOf 't' n⟩

def allFacts : List CandidateFact :=
  [.depthConnected, .tradeConnected, .snapshotPersisted, .depthDurable, .tradeDurable,
    .depthContinuityProven, .tradeContinuityProven]

/-- A planned rotation after one instant, and the end of the new generation. -/
def rotation : List Call :=
  [.startDueCandidate (identityOf 1) 1] ++
    (allFacts.map fun fact => Call.observeCandidateFact fact 1) ++
    [.promoteCandidate 1, .disconnectEpoch "tt" "lost" 2, .promoteCandidate 1]

variable {m n : Nat}

theorem tokenOf_injective {kind kind' : Char} (h : tokenOf kind m = tokenOf kind' n) :
    kind = kind' ∧ m = n := by
  have hlist : List.replicate (m + 1) kind = List.replicate (n + 1) kind' := by
    simpa [tokenOf] using congrArg String.toList h
  refine ⟨?_, ?_⟩
  · simpa [List.replicate_succ] using congrArg List.head? hlist
  · simpa using congrArg List.length hlist

theorem validate_identityOf (n : Nat) : (identityOf n).validate = .ok () := by
  have hne : ∀ kind kind' : Char, kind ≠ kind' → tokenOf kind n ≠ tokenOf kind' n :=
    fun kind kind' hkinds heq => hkinds (tokenOf_injective heq).1
  have hblank : ∀ kind ∈ ['g', 'd', 't'], isBlank (tokenOf kind n) = false := by
    intro kind hkind
    simp only [List.mem_cons, List.not_mem_nil, or_false] at hkind
    rcases hkind with rfl | rfl | rfl <;> simp [isBlank, tokenOf, List.replicate_succ]
  unfold GenerationIdentity.validate identityOf
  rw [if_neg]
  simp only [hblank 'g' (by simp), hblank 'd' (by simp), hblank 't' (by simp),
    hne 'g' 'd' (by decide), hne 'g' 't' (by decide), hne 'd' 't' (by decide)]
  simp

/-- The tokens of two generations differ. -/
theorem identityOf_disjoint {token : String} (hm : token ∈ (identityOf m).tokens)
    (hn : token ∈ (identityOf n).tokens) : m = n := by
  simp only [identityOf, GenerationIdentity.tokens, List.mem_cons, List.not_mem_nil, or_false] at hm hn
  rcases hm with rfl | rfl | rfl <;> rcases hn with hn | hn | hn <;> exact (tokenOf_injective hn).2

/-- At the last instant of the clock: the generations up to `k` are registered and `n` gaps
    counted. -/
structure LastInstant (k n : Nat) (active candidate : Option (GenerationIdentity × CandidateReadiness))
    (s : RawGenerationSupervisor) : Prop where
  config_eq : s.config = plainConfig
  origin_eq : s.clockOriginNs = u64Max
  clock_eq : s.lastMonoNs = u64Max
  segment_eq : s.currentSegmentIndex = 0
  opened_eq : ∀ generation, s.active = some generation ∨ s.candidate = some generation →
    generation.openedMonoNs = u64Max
  active_eq : (s.active.map fun generation => (generation.identity, generation.readiness)) = active
  candidate_eq :
    (s.candidate.map fun generation => (generation.identity, generation.readiness)) = candidate
  live : s.active.isSome → s.state = .live
  due : s.nextCandidateNotBeforeNs.getD u64Max = u64Max
  fresh : ∀ m, k < m → ∀ token ∈ (identityOf m).tokens, s.usedTokens.contains token = false
  count_eq : s.gapCount = n

section

variable {k n : Nat} {active candidate : Option (GenerationIdentity × CandidateReadiness)}
  {s : RawGenerationSupervisor} {identity : GenerationIdentity}

theorem LastInstant.advanceTime (h : LastInstant k n active candidate s) :
    ∃ report, s.advanceTime u64Max = (.ok report, s) ∧
      s.candidateRequest u64Max = .ok report.candidateRequest := by
  have hactive : ∀ status, s.active = some status → status.openedMonoNs = u64Max :=
    fun status hstatus => h.opened_eq status (Or.inl hstatus)
  have hcandidate : ∀ status, s.candidate = some status → status.openedMonoNs = u64Max :=
    fun status hstatus => h.opened_eq status (Or.inr hstatus)
  have htimed : s.Timed := by
    refine ⟨by rw [h.origin_eq, h.clock_eq], ?_, ?_, by rw [h.segment_eq]; exact Nat.zero_le _⟩
    · intro status hstatus
      rw [hactive status hstatus, h.clock_eq]
    · intro status hstatus
      rw [hcandidate status hstatus, h.clock_eq]
  have hclocked : s.clocked u64Max = s := by
    have hsegment : (u64Max - s.clockOriginNs) / s.config.segmentIntervalNs
        = s.currentSegmentIndex := by
      rw [h.origin_eq, h.segment_eq, Nat.sub_self, Nat.zero_div]
    unfold clocked
    rw [hsegment, ← h.clock_eq]
  -- nothing is old enough to expire
  have hyoung : ∀ (generation : Option GenerationStatus) (limit : Nat), 0 < limit →
      (∀ status, generation = some status → status.openedMonoNs = u64Max) →
      aged generation u64Max limit = .ok false := by
    intro generation limit hlimit hopened
    rw [aged_eq fun status hstatus => Nat.le_of_eq (hopened status hstatus)]
    cases generation with
    | none => rfl
    | some status =>
      rw [Option.any_some, hopened status rfl, Nat.sub_self]
      exact congrArg Except.ok (decide_eq_false (by omega))
  have hexpire : s.expire u64Max = (.ok (false, false), s) := by
    unfold expire
    rw [hyoung s.active _ (by rw [h.config_eq]; decide) hactive]
    dsimp only
    rw [hyoung s.candidate _ (by rw [h.config_eq]; decide) hcandidate]
  obtain ⟨request, hrequest⟩ := candidateRequest_isOk
    fun status hstatus => Nat.le_of_eq (hactive status hstatus)
  rw [advanceTime_eq htimed (Nat.le_of_eq h.clock_eq), hclocked, hexpire]
  dsimp only
  rw [hrequest]
  exact ⟨_, rfl, rfl⟩

variable {readiness : CandidateReadiness}

theorem LastInstant.found (h : LastInstant k n (some (identityOf k, readiness)) candidate s) :
    ∃ generation, s.active = some generation ∧
      (s.active.any fun generation => generation.identity.containsEpoch (tokenOf 'd' k)) = true := by
  have hactive := h.active_eq
  cases hgeneration : s.active with
  | none =>
    rw [hgeneration] at hactive
    cases hactive
  | some generation =>
    rw [hgeneration] at hactive
    have hidentity : generation.identity = identityOf k :=
      congrArg Prod.fst (Option.some.inj hactive)
    refine ⟨generation, rfl, ?_⟩
    simp [hidentity, GenerationIdentity.containsEpoch, identityOf]

/-- The active generation is lost and counted. -/
theorem LastInstant.disconnect (h : LastInstant k n (some (identityOf k, readiness)) none s)
    (hroom : n < u64Max) :
    LastInstant k (n + 1) none none
      (step s (.disconnectEpoch (tokenOf 'd' k) "lost" u64Max)).2 := by
  obtain ⟨generation, hgeneration, hany⟩ := h.found
  have hstep : (step s (.disconnectEpoch (tokenOf 'd' k) "lost" u64Max)).2 = s.gapped u64Max := by
    obtain ⟨report, htime, -⟩ := h.advanceTime
    simp only [step, disconnectEpoch, answer, afterTime, htime]
    rw [if_neg (by decide), if_pos hany, enterGap_eq hgeneration (by rw [h.count_eq]; exact hroom)]
  rw [hstep]
  refine ⟨h.config_eq, h.origin_eq, h.clock_eq, h.segment_eq, ?_, rfl, rfl, ?_, ?_, h.fresh,
    congrArg (· + 1) h.count_eq⟩
  · rintro status (hstatus | hstatus) <;> cases hstatus
  · intro hsome
    cases hsome
  · show min (u64Max + _) u64Max = u64Max
    omega

/-- The next generation is started at once. -/
theorem LastInstant.start (h : LastInstant k n none none s) :
    LastInstant (k + 1) n none (some (identityOf (k + 1), .empty))
      (step s (.startDueCandidate (identityOf (k + 1)) u64Max)).2 := by
  have hactive : s.active = none := Option.map_eq_none_iff.mp h.active_eq
  have hcandidate : s.candidate = none := Option.map_eq_none_iff.mp h.candidate_eq
  have hrequest : s.candidateRequest u64Max = .ok (some ⟨.recoveryAfterGap, u64Max⟩) := by
    unfold candidateRequest
    rw [hcandidate, hactive, h.due, if_neg (by simp)]
    exact if_neg (Nat.lt_irrefl _)
  have hregister : s.registerIdentity (identityOf (k + 1)) = .ok { s with
      usedTokens := ((s.usedTokens.insert (identityOf (k + 1)).generationId).insert
        (identityOf (k + 1)).depthEpoch).insert (identityOf (k + 1)).tradeEpoch } := by
    have hfind : (identityOf (k + 1)).tokens.find? s.usedTokens.contains = none := by
      rw [List.find?_eq_none]
      intro token htoken
      rw [h.fresh (k + 1) (Nat.lt_succ_self k) token htoken]
      simp
    unfold registerIdentity
    rw [validate_identityOf, hfind]
    rfl
  obtain ⟨report, htime, hreport⟩ := h.advanceTime
  rw [hrequest] at hreport
  simp only [step, startDueCandidate, validate_identityOf, answer, afterTime, htime,
    ← Except.ok.inj hreport, startCandidate, hcandidate, hregister]
  rw [if_neg (by simp)]
  refine ⟨h.config_eq, h.origin_eq, h.clock_eq, h.segment_eq, ?_, h.active_eq, rfl, ?_, rfl, ?_,
    h.count_eq⟩
  · rintro status (hstatus | hstatus)
    · exact h.opened_eq status (Or.inl hstatus)
    · cases hstatus
      rfl
  · intro hsome
    dsimp only at hsome
    rw [hactive] at hsome
    cases hsome
  · intro m hm token htoken
    rw [← Bool.not_eq_true, contains_registered]
    rintro (hused | hnew)
    · rw [h.fresh m (by omega) token htoken] at hused
      cases hused
    · have := identityOf_disjoint htoken hnew
      omega

theorem LastInstant.observe (h : LastInstant k n none (some (identity, readiness)) s)
    (fact : CandidateFact) :
    LastInstant k n none (some (identity, (readiness.observe fact).2))
      (step s (.observeCandidateFact fact u64Max)).2 := by
  have hactive : s.active = none := Option.map_eq_none_iff.mp h.active_eq
  obtain ⟨status, hcandidate, hstatus⟩ := Option.map_eq_some_iff.mp h.candidate_eq
  cases hstatus
  obtain ⟨report, htime, -⟩ := h.advanceTime
  simp only [step, observeCandidateFact, answer, afterTime, htime, hcandidate]
  refine ⟨h.config_eq, h.origin_eq, h.clock_eq, h.segment_eq, ?_, h.active_eq, rfl, h.live, h.due,
    h.fresh, h.count_eq⟩
  rintro generation (hgeneration | hgeneration)
  · exact h.opened_eq generation (Or.inl hgeneration)
  · cases hgeneration
    exact h.opened_eq status (Or.inr hcandidate)

/-- The candidate with all facts becomes active. -/
theorem LastInstant.promote (h : LastInstant k n none (some (identity, .full)) s) :
    LastInstant k n (some (identity, .full)) none (step s (.promoteCandidate u64Max)).2 := by
  obtain ⟨status, hcandidate, hstatus⟩ := Option.map_eq_some_iff.mp h.candidate_eq
  have hready : status.readiness = .full := congrArg Prod.snd hstatus
  obtain ⟨report, htime, -⟩ := h.advanceTime
  simp only [step, promoteCandidate, answer, afterTime, htime, hcandidate]
  rw [if_neg (by rw [hready]; decide)]
  refine ⟨h.config_eq, h.origin_eq, h.clock_eq, h.segment_eq, ?_, congrArg some hstatus, rfl,
    fun _ => rfl, rfl, h.fresh, h.count_eq⟩
  rintro generation (hgeneration | hgeneration)
  · cases hgeneration
    exact h.opened_eq status (Or.inr hcandidate)
  · cases hgeneration

/-- The `k`-th generation is lost and replaced, all at the last instant. -/
def replacement (k : Nat) : List Call :=
  [.disconnectEpoch (tokenOf 'd' k) "lost" u64Max, .startDueCandidate (identityOf (k + 1)) u64Max] ++
    (allFacts.map fun fact => Call.observeCandidateFact fact u64Max) ++ [.promoteCandidate u64Max]

theorem LastInstant.replace (h : LastInstant k k (some (identityOf k, .full)) none s)
    (hroom : k < u64Max) :
    LastInstant (k + 1) (k + 1) (some (identityOf (k + 1), .full)) none (after s (replacement k)) := by
  have hstarted := (h.disconnect hroom).start
  -- the seven facts, one after another
  have hobserved := ((((((hstarted.observe .depthConnected).observe .tradeConnected).observe
    .snapshotPersisted).observe .depthDurable).observe .tradeDurable).observe
    .depthContinuityProven).observe .tradeContinuityProven
  have hpromoted := LastInstant.promote hobserved
  simpa only [after, replacement, allFacts, List.map_cons, List.map_nil, List.cons_append,
    List.nil_append, run_cons, run_nil] using hpromoted

end

end RawGenerationSupervisor

end LobReplay.Generation
