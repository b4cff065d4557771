/-
  The latest convergence of two depth windows (`latest_depth_window_convergence`, observations.rs).
  A merge over the updates of both windows keeps the pairs of one final sequence whose fingerprints
  agree and whose successor goes on; a second replay confirms the latest of them.

  The naive statement compares the books behind all pairs of updates (`Converges`).
-/

import LobReplay.Observation.Window

namespace LobReplay.Observation

open Foundation Book
open Raw (RawRecordEnvelopeV1)

/-! ## Model -/

structure DepthConvergenceCandidate where
  predecessor : AppliedDepthWindowEvent
  successor : AppliedDepthWindowEvent
  continuation : DepthWindowEvent

structure LatestDepthWindowConvergenceV1 where
  predecessorBoundary : CanonicalObservationV1
  successorBoundary : CanonicalObservationV1
  successorContinuation : CanonicalObservationV1
  deriving DecidableEq

/-- The candidate that two updates of one final sequence are. -/
def convergenceCandidate (events : List DepthWindowEvent)
    (predecessor : AppliedDepthWindowEvent) (predecessorBook : LocalOrderBook)
    (successor : AppliedDepthWindowEvent) (successorBook : LocalOrderBook) :
    Result (Option DepthConvergenceCandidate) :=
  if predecessorBook.sameStateFingerprint successorBook then
    match events[successor.eventIndex + 1]? with
    | none => .ok none
    | some continuation =>
      if successor.finalSequence = maxU64 then err "depth boundary sequence overflow"
      else if continuation.firstSequence ≤ successor.finalSequence + 1 ∧
          successor.finalSequence + 1 ≤ continuation.finalSequence then
        .ok (some ⟨predecessor, successor, continuation⟩)
      else .ok none
  else .ok none

/-- The loop of `latest_depth_window_convergence` over both windows, on a budget: the candidates
    and where the windows stand. -/
def convergenceLoop (codec : BookCodec) (predecessor successor : DepthWindow) :
    Nat → Option AppliedDepthWindowEvent × WindowCursor →
    Option AppliedDepthWindowEvent × WindowCursor → List DepthConvergenceCandidate →
    Result (List DepthConvergenceCandidate × (Option AppliedDepthWindowEvent × WindowCursor) ×
      (Option AppliedDepthWindowEvent × WindowCursor))
  | budget, (some p, pcursor), (some s, scursor), candidates =>
    match budget with
    | 0 => .error .abort
    | budget + 1 =>
      if p.finalSequence < s.finalSequence then do
        let phead ← predecessor.advance codec pcursor
        convergenceLoop codec predecessor successor budget phead (some s, scursor) candidates
      else if s.finalSequence < p.finalSequence then do
        let shead ← successor.advance codec scursor
        convergenceLoop codec predecessor successor budget (some p, pcursor) shead candidates
      else do
        let candidate ← convergenceCandidate successor.events p pcursor.book s scursor.book
        let phead ← predecessor.advance codec pcursor
        let shead ← successor.advance codec scursor
        convergenceLoop codec predecessor successor budget phead shead
          (candidates ++ candidate.toList)
  | _, phead, shead, candidates => .ok (candidates, phead, shead)

/-- The loop of `latest_depth_window_convergence` over the candidates, the latest first. -/
def confirmLoop (codec : BookCodec) (snapshot : RawRecordEnvelopeV1)
    (predecessor successor : DepthWindow) :
    List DepthConvergenceCandidate → Result LatestDepthWindowConvergenceV1
  | [] => err "no exact depth convergence with documented B continuation"
  | candidate :: rest => do
    let predecessorBook ←
      predecessor.replayThrough codec snapshot candidate.predecessor.eventIndex
    let successorBook ← successor.replayThrough codec snapshot candidate.successor.eventIndex
    if predecessorBook.sameState successorBook = false then
      confirmLoop codec snapshot predecessor successor rest
    else do
      let stateSha256 := predecessorBook.stateDigest codec
      let predecessorRecord ← predecessor.eventRecord candidate.predecessor.eventIndex
      let successorRecord ← successor.eventRecord candidate.successor.eventIndex
      let continuationRecord ← successor.recordAt candidate.continuation.recordIndex
      .ok {
        predecessorBoundary := observationOf predecessor.identity .depth predecessorRecord
          candidate.predecessor.firstSequence candidate.predecessor.finalSequence stateSha256
        successorBoundary := observationOf successor.identity .depth successorRecord
          candidate.successor.firstSequence candidate.successor.finalSequence stateSha256
        successorContinuation := observationOf successor.identity .depth continuationRecord
          candidate.continuation.firstSequence candidate.continuation.finalSequence "" }

def latestDepthWindowConvergence (codec : BookCodec) (snapshot : RawRecordEnvelopeV1)
    (predecessorRecords successorRecords : List RawRecordEnvelopeV1) :
    Result LatestDepthWindowConvergenceV1 := do
  let predecessor ← prepareDepthWindow codec snapshot predecessorRecords
  let successor ← prepareDepthWindow codec snapshot successorRecords
  if predecessor.identity.1 ≠ successor.identity.1 then err "depth overlap symbols differ"
  else do
    let predecessorBook ← snapshotBook codec predecessor.identity.1 snapshot.frame.payload
    let successorBook ← snapshotBook codec successor.identity.1 snapshot.frame.payload
    let phead ← predecessor.advance codec ⟨predecessorBook, 0, false⟩
    let shead ← successor.advance codec ⟨successorBook, 0, false⟩
    let (candidates, phead, shead) ← convergenceLoop codec predecessor successor
      (predecessor.events.length + successor.events.length + 1) phead shead []
    predecessor.drain codec predecessor.events.length phead
    successor.drain codec successor.events.length shead
    confirmLoop codec snapshot predecessor successor candidates.reverse

/-! ## The naive statement -/

/-- The updates `p` and `s` of two windows end at one sequence, and the event behind `s` goes on
    there. -/
structure Meets (predecessor successor : WindowReplay)
    (p s : AppliedDepthWindowEvent × LocalOrderBook) (continuation : DepthWindowEvent) : Prop where
  predecessor_mem : p ∈ predecessor.applied
  successor_mem : s ∈ successor.applied
  sequence_eq : p.1.finalSequence = s.1.finalSequence
  next : successor.window.events[s.1.eventIndex + 1]? = some continuation
  covers : continuation.firstSequence.toNat ≤ s.1.finalSequence.toNat + 1 ∧
    s.1.finalSequence.toNat + 1 ≤ continuation.finalSequence.toNat

structure Converges (predecessor successor : WindowReplay)
    (p s : AppliedDepthWindowEvent × LocalOrderBook) (continuation : DepthWindowEvent) : Prop
    extends Meets predecessor successor p s continuation where
  state_eq : p.2.sameState s.2 = true

structure Reports (codec : BookCodec) (predecessor successor : WindowReplay)
    (p s : AppliedDepthWindowEvent × LocalOrderBook) (continuation : DepthWindowEvent)
    (convergence : LatestDepthWindowConvergenceV1) : Prop where
  predecessor_boundary : ∃ record, predecessor.window.eventRecord p.1.eventIndex = .ok record ∧
    convergence.predecessorBoundary = observationOf predecessor.window.identity .depth record
      p.1.firstSequence p.1.finalSequence (p.2.stateDigest codec)
  successor_boundary : ∃ record, successor.window.eventRecord s.1.eventIndex = .ok record ∧
    convergence.successorBoundary = observationOf successor.window.identity .depth record
      s.1.firstSequence s.1.finalSequence (s.2.stateDigest codec)
  successor_continuation : ∃ record, successor.window.recordAt continuation.recordIndex = .ok record ∧
    convergence.successorContinuation = observationOf successor.window.identity .depth record
      continuation.firstSequence continuation.finalSequence ""

/-! ## The merge -/

section

variable {codec : BookCodec} {predecessor successor : DepthWindow}
  {phead shead phead' shead' : Option AppliedDepthWindowEvent × WindowCursor}
  {ps ss : List (AppliedDepthWindowEvent × WindowCursor)}
  {candidates found : List DepthConvergenceCandidate}

def finalKey (update : AppliedDepthWindowEvent × WindowCursor) : Nat :=
  update.1.finalSequence.toNat

def candidateOf (events : List DepthWindowEvent)
    (pair : (AppliedDepthWindowEvent × WindowCursor) × (AppliedDepthWindowEvent × WindowCursor)) :
    Option DepthConvergenceCandidate :=
  match convergenceCandidate events pair.1.1 pair.1.2.book pair.2.1 pair.2.2.book with
  | .ok candidate => candidate
  | .error _ => none

/-- What the loop returns where the pairs of `ps` and `ss` are still to come: their candidates
    behind those it has, and windows that can be drained. -/
def Merged (codec : BookCodec) (predecessor successor : DepthWindow)
    (ps ss : List (AppliedDepthWindowEvent × WindowCursor))
    (candidates : List DepthConvergenceCandidate)
    (result : Result (List DepthConvergenceCandidate ×
      (Option AppliedDepthWindowEvent × WindowCursor) ×
      (Option AppliedDepthWindowEvent × WindowCursor))) : Prop :=
  ∃ phead shead ps' ss', result = .ok (candidates ++
      (joined finalKey finalKey ps ss).filterMap (candidateOf successor.events), phead, shead) ∧
    (Yields (predecessor.advance codec) phead ps' ∧ ps'.length ≤ ps.length) ∧
    Yields (successor.advance codec) shead ss' ∧ ss'.length ≤ ss.length

/-- The loop ends where one of the windows has. -/
theorem convergenceLoop_done (budget : Nat) (h : phead.1 = none ∨ shead.1 = none) :
    convergenceLoop codec predecessor successor budget phead shead candidates
      = .ok (candidates, phead, shead) := by
  rw [convergenceLoop]
  rintro p pcursor s scursor rfl rfl
  rcases h with h | h <;> cases h

/-- Windows without a pair have no candidates. -/
theorem merged_of_joined_nil (hp : Yields (predecessor.advance codec) phead ps)
    (hs : Yields (successor.advance codec) shead ss)
    (hnone : joined finalKey finalKey ps ss = []) :
    Merged codec predecessor successor ps ss candidates (.ok (candidates, phead, shead)) := by
  refine ⟨phead, shead, ps, ss, ?_, ⟨hp, le_rfl⟩, hs, le_rfl⟩
  rw [hnone, List.filterMap_nil, List.append_nil]

theorem Merged.of_rest {ps' ss' : List (AppliedDepthWindowEvent × WindowCursor)}
    {result : Result (List DepthConvergenceCandidate ×
      (Option AppliedDepthWindowEvent × WindowCursor) ×
      (Option AppliedDepthWindowEvent × WindowCursor))}
    (h : Merged codec predecessor successor ps' ss' found result)
    (hfound : found ++ (joined finalKey finalKey ps' ss').filterMap (candidateOf successor.events)
      = candidates ++ (joined finalKey finalKey ps ss).filterMap (candidateOf successor.events))
    (hp : ps'.length ≤ ps.length) (hs : ss'.length ≤ ss.length) :
    Merged codec predecessor successor ps ss candidates result := by
  obtain ⟨phead, shead, prest, srest, hresult, ⟨hpyields, hplength⟩, hsyields, hslength⟩ := h
  rw [hfound] at hresult
  exact ⟨phead, shead, prest, srest, hresult, ⟨hpyields, hplength.trans hp⟩, hsyields,
    hslength.trans hs⟩

/-- **Run.** The loop over two windows that yield increasing updates finds the candidates among
    all pairs of one final sequence. -/
theorem convergenceLoop_merged (hp : Yields (predecessor.advance codec) phead ps)
    (hs : Yields (successor.advance codec) shead ss) (hps : Increasing finalKey ps)
    (hss : Increasing finalKey ss)
    (hcandidate : ∀ p ∈ ps, ∀ s ∈ ss, ∃ candidate,
      convergenceCandidate successor.events p.1 p.2.book s.1 s.2.book = .ok candidate)
    {budget : Nat} (hbudget : ps.length + ss.length ≤ budget) :
    Merged codec predecessor successor ps ss candidates
      (convergenceLoop codec predecessor successor budget phead shead candidates) := by
  induction budget generalizing phead shead ps ss candidates with
  | zero =>
    obtain rfl : ps = [] := List.length_eq_zero_iff.mp (by omega)
    cases hp
    rw [convergenceLoop_done 0 (Or.inl rfl)]
    exact merged_of_joined_nil (.done _) hs joined_nil_left
  | succ budget ih =>
    have hpwhole := hp
    have hswhole := hs
    rcases hp with _ | @⟨p, pcursor, pnext, ps, hpadvance, hpnext⟩
    · rw [convergenceLoop_done _ (Or.inl rfl)]
      exact merged_of_joined_nil hpwhole hs joined_nil_left
    rcases hs with _ | @⟨s, scursor, snext, ss, hsadvance, hsnext⟩
    · rw [convergenceLoop_done _ (Or.inr rfl)]
      exact merged_of_joined_nil hpwhole hswhole joined_nil_right
    have hps' := (List.pairwise_cons.mp hps).2
    have hss' := (List.pairwise_cons.mp hss).2
    rw [List.length_cons, List.length_cons] at hbudget
    rw [convergenceLoop]
    by_cases hlt : p.finalSequence < s.finalSequence
    · rw [if_pos hlt, hpadvance]
      have hbelow : finalKey (p, pcursor) < finalKey (s, scursor) := UInt64.lt_iff_toNat_lt.mp hlt
      have hrest := @ih pnext (some s, scursor) ps ((s, scursor) :: ss) candidates hpnext hswhole
        hps' hss (fun p hp s hs => hcandidate p (List.mem_cons_of_mem _ hp) s hs)
        (by rw [List.length_cons]; omega)
      refine hrest.of_rest ?_ (Nat.le_succ _) le_rfl
      rw [joined_of_lt hbelow hss]
    rw [if_neg hlt]
    by_cases hgt : s.finalSequence < p.finalSequence
    · rw [if_pos hgt, hsadvance]
      have habove : finalKey (s, scursor) < finalKey (p, pcursor) := UInt64.lt_iff_toNat_lt.mp hgt
      have hrest := @ih (some p, pcursor) snext ((p, pcursor) :: ps) ss candidates hpwhole hsnext
        hps hss' (fun p hp s hs => hcandidate p hp s (List.mem_cons_of_mem _ hs))
        (by rw [List.length_cons]; omega)
      refine hrest.of_rest ?_ le_rfl (Nat.le_succ _)
      rw [joined_of_gt habove hps]
    · -- two updates of one final sequence
      obtain ⟨candidate, hpair⟩ :=
        hcandidate (p, pcursor) List.mem_cons_self (s, scursor) List.mem_cons_self
      rw [if_neg hgt, hpair, hpadvance, hsadvance]
      rw [UInt64.lt_iff_toNat_lt] at hlt hgt
      have heq : finalKey (p, pcursor) = finalKey (s, scursor) := by
        show p.finalSequence.toNat = s.finalSequence.toNat
        omega
      have hrest := @ih pnext snext ps ss (candidates ++ candidate.toList) hpnext hsnext hps' hss'
        (fun p hp s hs => hcandidate p (List.mem_cons_of_mem _ hp) s (List.mem_cons_of_mem _ hs))
        (by omega)
      refine hrest.of_rest ?_ (Nat.le_succ _) (Nat.le_succ _)
      have hfirst : candidateOf successor.events ((p, pcursor), s, scursor) = candidate := by
        rw [candidateOf, hpair]
      rw [joined_of_eq heq hps hss, List.filterMap_cons, hfirst, List.append_assoc]
      cases candidate <;> rfl

/-- **Run.** A loop that ends in windows that yield began in windows that yield. -/
theorem convergenceLoop_yields {budget : Nat}
    (h : convergenceLoop codec predecessor successor budget phead shead candidates
      = .ok (found, phead', shead'))
    (hp : ∃ ps, Yields (predecessor.advance codec) phead' ps)
    (hs : ∃ ss, Yields (successor.advance codec) shead' ss) :
    (∃ ps, Yields (predecessor.advance codec) phead ps) ∧
      ∃ ss, Yields (successor.advance codec) shead ss := by
  have hdone : ∀ {phead shead : Option AppliedDepthWindowEvent × WindowCursor} {candidates} budget,
      phead.1 = none ∨ shead.1 = none → convergenceLoop codec predecessor successor budget phead shead
        candidates = .ok (found, phead', shead') → phead = phead' ∧ shead = shead' := by
    intro phead shead candidates budget hnone h
    rw [convergenceLoop_done budget hnone] at h
    cases h
    exact ⟨rfl, rfl⟩
  induction budget generalizing phead shead candidates with
  | zero =>
    by_cases hnone : phead.1 = none ∨ shead.1 = none
    · obtain ⟨rfl, rfl⟩ := hdone 0 hnone h
      exact ⟨hp, hs⟩
    · rcases phead with ⟨_ | p, pcursor⟩
      · exact absurd (Or.inl rfl) hnone
      rcases shead with ⟨_ | s, scursor⟩
      · exact absurd (Or.inr rfl) hnone
      rw [convergenceLoop] at h
      cases h
  | succ budget ih =>
    rcases phead with ⟨_ | p, pcursor⟩
    · obtain ⟨rfl, rfl⟩ := hdone _ (Or.inl rfl) h
      exact ⟨hp, hs⟩
    rcases shead with ⟨_ | s, scursor⟩
    · obtain ⟨rfl, rfl⟩ := hdone _ (Or.inr rfl) h
      exact ⟨hp, hs⟩
    rw [convergenceLoop] at h
    split at h
    · obtain ⟨pnext, hpadvance, h⟩ := bind_eq_ok.mp h
      obtain ⟨⟨ps, hps⟩, hss⟩ := ih h
      exact ⟨⟨_, .more hpadvance hps⟩, hss⟩
    split at h
    · obtain ⟨snext, hsadvance, h⟩ := bind_eq_ok.mp h
      obtain ⟨hps, ss, hss⟩ := ih h
      exact ⟨hps, _, .more hsadvance hss⟩
    · obtain ⟨candidate, -, h⟩ := bind_eq_ok.mp h
      obtain ⟨pnext, hpadvance, h⟩ := bind_eq_ok.mp h
      obtain ⟨snext, hsadvance, h⟩ := bind_eq_ok.mp h
      obtain ⟨⟨ps, hps⟩, ss, hss⟩ := ih h
      exact ⟨⟨_, .more hpadvance hps⟩, _, .more hsadvance hss⟩

end

/-! ## Candidates -/

section

variable {events : List DepthWindowEvent} {p s : AppliedDepthWindowEvent}
  {pbook sbook : LocalOrderBook} {candidate : DepthConvergenceCandidate}

/-- **Inversion.** A candidate has one fingerprint and goes on. -/
theorem convergenceCandidate_eq_some :
    convergenceCandidate events p pbook s sbook = .ok (some candidate) ↔
      pbook.sameStateFingerprint sbook = true ∧ s.finalSequence ≠ maxU64 ∧
      ∃ continuation, events[s.eventIndex + 1]? = some continuation ∧
        continuation.firstSequence.toNat ≤ s.finalSequence.toNat + 1 ∧
        s.finalSequence.toNat + 1 ≤ continuation.finalSequence.toNat ∧
        candidate = ⟨p, s, continuation⟩ := by
  unfold convergenceCandidate
  by_cases hfingerprint : pbook.sameStateFingerprint sbook = true
  swap
  · simp [hfingerprint]
  rw [if_pos hfingerprint]
  rcases events[s.eventIndex + 1]? with _ | continuation
  · simp
  by_cases hmax : s.finalSequence = maxU64
  · simp [hmax]
  simp only [if_neg hmax, UInt64.le_iff_toNat_le, toNat_add_one hmax]
  by_cases hcovers : continuation.firstSequence.toNat ≤ s.finalSequence.toNat + 1 ∧
      s.finalSequence.toNat + 1 ≤ continuation.finalSequence.toNat
  · rw [if_pos hcovers, Except.ok.injEq, Option.some.injEq]
    constructor
    · rintro rfl
      exact ⟨hfingerprint, hmax, continuation, rfl, hcovers.1, hcovers.2, rfl⟩
    · rintro ⟨-, -, other, heq, -, -, rfl⟩
      rw [Option.some.inj heq]
  · rw [if_neg hcovers]
    simp only [Except.ok.injEq, false_iff, reduceCtorEq]
    rintro ⟨-, -, other, heq, hfirst, hfinal, -⟩
    obtain rfl := Option.some.inj heq
    exact hcovers ⟨hfirst, hfinal⟩

theorem convergenceCandidate_isOk
    (h : s.finalSequence = maxU64 → events[s.eventIndex + 1]? = none) :
    ∃ candidate, convergenceCandidate events p pbook s sbook = .ok candidate := by
  unfold convergenceCandidate
  by_cases hfingerprint : pbook.sameStateFingerprint sbook = true
  swap
  · exact ⟨_, if_neg hfingerprint⟩
  rw [if_pos hfingerprint]
  rcases hnext : events[s.eventIndex + 1]? with _ | continuation
  · exact ⟨_, rfl⟩
  have hmax : s.finalSequence ≠ maxU64 := by
    intro heq
    rw [h heq] at hnext
    cases hnext
  dsimp only
  rw [if_neg hmax]
  split
  · exact ⟨_, rfl⟩
  · exact ⟨_, rfl⟩

end

/-! ## The second replay -/

section

variable {codec : BookCodec} {snapshot : RawRecordEnvelopeV1} {pbook sbook : LocalOrderBook}
  {predecessor successor : WindowReplay} {p s : AppliedDepthWindowEvent × LocalOrderBook}
  {continuation : DepthWindowEvent} {candidate : DepthConvergenceCandidate}
  {candidates rest : List DepthConvergenceCandidate}

def IsOf (predecessor successor : WindowReplay) (candidate : DepthConvergenceCandidate)
    (p s : AppliedDepthWindowEvent × LocalOrderBook) : Prop :=
  candidate = ⟨p.1, s.1, candidate.continuation⟩ ∧
    Meets predecessor successor p s candidate.continuation

/-- The candidate is that of two updates in books of one state. -/
def Confirms (predecessor successor : WindowReplay) (candidate : DepthConvergenceCandidate) :
    Prop :=
  ∃ p s, IsOf predecessor successor candidate p s ∧ p.2.sameState s.2 = true

section

variable (hp : Replayed codec snapshot pbook predecessor)
include hp

/-- A candidate of books of two states is passed over. -/
theorem confirmLoop_of_apart (hs : Replayed codec snapshot sbook successor)
    (hof : IsOf predecessor successor candidate p s) (hapart : p.2.sameState s.2 = false) :
    confirmLoop codec snapshot predecessor.window successor.window (candidate :: rest)
      = confirmLoop codec snapshot predecessor.window successor.window rest := by
  obtain ⟨hcandidate, hmeets⟩ := hof
  rw [confirmLoop, hcandidate, hp.replayThrough_eq hmeets.predecessor_mem,
    hs.replayThrough_eq hmeets.successor_mem]
  exact if_pos hapart

theorem confirmLoop_of_sameState (hs : Replayed codec snapshot sbook successor)
    (hof : IsOf predecessor successor candidate p s) (hstate : p.2.sameState s.2 = true) :
    ∃ convergence, confirmLoop codec snapshot predecessor.window successor.window
        (candidate :: rest) = .ok convergence ∧
      Reports codec predecessor successor p s candidate.continuation convergence := by
  obtain ⟨hcandidate, hmeets⟩ := hof
  obtain ⟨precord, hprecord⟩ := hp.eventRecord_isOk hmeets.predecessor_mem
  obtain ⟨srecord, hsrecord⟩ := hs.eventRecord_isOk hmeets.successor_mem
  obtain ⟨crecord, hcrecord, -⟩ := hs.read _ (List.mem_of_getElem? hmeets.next)
  rw [confirmLoop, hcandidate, hp.replayThrough_eq hmeets.predecessor_mem,
    hs.replayThrough_eq hmeets.successor_mem]
  show ∃ convergence, (if p.2.sameState s.2 = false then _ else
    predecessor.window.eventRecord p.1.eventIndex >>= _) = _ ∧ _
  rw [if_neg (by simp [hstate]), hprecord]
  show ∃ convergence, (successor.window.eventRecord s.1.eventIndex >>= _) = _ ∧ _
  rw [hsrecord]
  show ∃ convergence, (successor.window.recordAt candidate.continuation.recordIndex >>= _) = _ ∧ _
  rw [hcrecord]
  refine ⟨_, rfl, ⟨precord, hprecord, rfl⟩, ⟨srecord, hsrecord, ?_⟩, crecord, hcrecord, rfl⟩
  rw [← stateDigest_of_sameState hstate]

/-- **Run.** The first candidate of books of one state is reported, if there is one. -/
theorem confirmLoop_cases (hs : Replayed codec snapshot sbook successor)
    (hof : ∀ candidate ∈ candidates, ∃ p s, IsOf predecessor successor candidate p s) :
    (∃ convergence before candidate after p s,
      confirmLoop codec snapshot predecessor.window successor.window candidates = .ok convergence ∧
      candidates = before ++ candidate :: after ∧
      (∀ earlier ∈ before, ¬ Confirms predecessor successor earlier) ∧
      IsOf predecessor successor candidate p s ∧ p.2.sameState s.2 = true ∧
      Reports codec predecessor successor p s candidate.continuation convergence) ∨
    (∃ e, confirmLoop codec snapshot predecessor.window successor.window candidates = .error e) ∧
      ∀ candidate ∈ candidates, ¬ Confirms predecessor successor candidate := by
  induction candidates with
  | nil => exact Or.inr ⟨⟨_, rfl⟩, by simp⟩
  | cons candidate rest ih =>
    by_cases hconfirms : Confirms predecessor successor candidate
    · obtain ⟨p, s, hself, hstate⟩ := hconfirms
      obtain ⟨convergence, hok, hreports⟩ := @confirmLoop_of_sameState _ _ _ _ _ _ _ _ _ rest hp hs
        hself hstate
      exact Or.inl ⟨convergence, [], candidate, rest, p, s, hok, rfl, by simp, hself, hstate,
        hreports⟩
    · obtain ⟨p, s, hself⟩ := hof candidate List.mem_cons_self
      have hapart : p.2.sameState s.2 = false := by
        by_contra hne
        exact hconfirms ⟨p, s, hself, by simpa using hne⟩
      rw [confirmLoop_of_apart hp hs hself hapart]
      rcases ih fun other hother => hof other (List.mem_cons_of_mem _ hother) with
        ⟨convergence, before, found, after, p, s, hok, rfl, hbefore, hrest⟩ | ⟨herror, hnone⟩
      · exact Or.inl ⟨convergence, candidate :: before, found, after, p, s, hok, rfl,
          List.forall_mem_cons.mpr ⟨hconfirms, hbefore⟩, hrest⟩
      · exact Or.inr ⟨herror, List.forall_mem_cons.mpr ⟨hconfirms, hnone⟩⟩

end

end

/-! ## The convergence -/

section

variable {codec : BookCodec} {snapshot : RawRecordEnvelopeV1} {pbook sbook : LocalOrderBook}
  {predecessorRecords successorRecords : List RawRecordEnvelopeV1}
  {predecessor successor : WindowReplay} {p s : AppliedDepthWindowEvent × LocalOrderBook}
  {continuation : DepthWindowEvent} {convergence : LatestDepthWindowConvergenceV1}

theorem Replayed.sameStateFingerprint (hp : Replayed codec snapshot pbook predecessor)
    (hs : Replayed codec snapshot sbook successor) (hpmem : p ∈ predecessor.applied)
    (hsmem : s ∈ successor.applied) (h : p.2.sameState s.2 = true) :
    p.2.sameStateFingerprint s.2 = true :=
  LocalOrderBook.sameStateFingerprint_of_exact (hp.exact hpmem) (hs.exact hsmem) h

/-- What the merge hands to the second replay: in the order of their final sequences, candidates
    of updates that meet, among them all that converge. -/
structure Candidates (predecessor successor : WindowReplay)
    (candidates : List DepthConvergenceCandidate) : Prop where
  isOf : ∀ candidate ∈ candidates, ∃ p s, IsOf predecessor successor candidate p s
  complete : ∀ p s continuation, Converges predecessor successor p s continuation →
    ⟨p.1, s.1, continuation⟩ ∈ candidates
  increasing : candidates.Pairwise fun candidate later =>
    candidate.successor.finalSequence < later.successor.finalSequence

theorem candidates_of_replays (hp : Replayed codec snapshot pbook predecessor)
    (hs : Replayed codec snapshot sbook successor)
    {ps ss : List (AppliedDepthWindowEvent × WindowCursor)}
    (hps : predecessor.applied = ps.map DepthWindow.withBook)
    (hss : successor.applied = ss.map DepthWindow.withBook) (hssi : Increasing finalKey ss)
    (hpsi : Increasing finalKey ps) :
    Candidates predecessor successor ((joined finalKey finalKey ps ss).filterMap
      (candidateOf successor.window.events)) := by
  have hcandidateOf : ∀ pair candidate,
      candidateOf successor.window.events pair = some candidate ↔
        convergenceCandidate successor.window.events pair.1.1 pair.1.2.book pair.2.1 pair.2.2.book
          = .ok (some candidate) := by
    intro pair candidate
    unfold candidateOf
    split
    · next found hfound =>
      rw [hfound, Except.ok.injEq]
    · next e he =>
      simp [he]
  refine ⟨?_, ?_, ?_⟩
  · intro candidate hcandidate
    obtain ⟨⟨p, s⟩, hpair, hcandidate⟩ := List.mem_filterMap.mp hcandidate
    obtain ⟨hpmem, hsmem, hkey⟩ := mem_joined.mp hpair
    obtain ⟨-, -, continuation, hnext, hfirst, hfinal, rfl⟩ :=
      convergenceCandidate_eq_some.mp ((hcandidateOf _ _).mp hcandidate)
    refine ⟨DepthWindow.withBook p, DepthWindow.withBook s, rfl, ?_, ?_, ?_, hnext, hfirst, hfinal⟩
    · rw [hps]
      exact List.mem_map_of_mem hpmem
    · rw [hss]
      exact List.mem_map_of_mem hsmem
    · exact (UInt64.toNat_inj.mp hkey).symm
  · intro p s continuation h
    have hpmem := h.predecessor_mem
    have hsmem := h.successor_mem
    have hfingerprint := hp.sameStateFingerprint hs hpmem hsmem h.state_eq
    have hmax : s.1.finalSequence ≠ maxU64 := by
      intro hmax
      have hnext := hs.next_of_max hsmem hmax
      rw [h.next] at hnext
      cases hnext
    rw [hps] at hpmem
    rw [hss] at hsmem
    obtain ⟨pcursor, hpcursor, rfl⟩ := List.mem_map.mp hpmem
    obtain ⟨scursor, hscursor, rfl⟩ := List.mem_map.mp hsmem
    refine List.mem_filterMap.mpr ⟨(pcursor, scursor), mem_joined.mpr ⟨hpcursor, hscursor, ?_⟩, ?_⟩
    · exact congrArg UInt64.toNat h.sequence_eq.symm
    · exact (hcandidateOf _ _).mpr (convergenceCandidate_eq_some.mpr
        ⟨hfingerprint, hmax, continuation, h.next, h.covers.1, h.covers.2, rfl⟩)
  · refine List.Pairwise.filterMap _ ?_ (joined_increasing hpsi hssi)
    intro pair pair' hlt candidate hcandidate candidate' hcandidate'
    obtain ⟨-, -, continuation, -, -, -, rfl⟩ :=
      convergenceCandidate_eq_some.mp ((hcandidateOf _ _).mp hcandidate)
    obtain ⟨-, -, continuation', -, -, -, rfl⟩ :=
      convergenceCandidate_eq_some.mp ((hcandidateOf _ _).mp hcandidate')
    exact UInt64.lt_iff_toNat_lt.mpr hlt

theorem latest_of_replays
    (hpredecessor : replayDepthWindow codec snapshot predecessorRecords = .ok predecessor)
    (hsuccessor : replayDepthWindow codec snapshot successorRecords = .ok successor) :
    ∃ candidates, Candidates predecessor successor candidates ∧
      latestDepthWindowConvergence codec snapshot predecessorRecords successorRecords
        = confirmLoop codec snapshot predecessor.window successor.window candidates.reverse := by
  obtain ⟨hpprepare, hpsymbol, pbook, hp⟩ := replayDepthWindow_eq_ok hpredecessor
  obtain ⟨hsprepare, hssymbol, sbook, hs⟩ := replayDepthWindow_eq_ok hsuccessor
  have hpapplied := hp.applied_eq
  have hsapplied := hs.applied_eq
  obtain ⟨phead, ps, hpadvance, hpyields, hps⟩ :=
    @DepthWindow.yields_of_remaining codec predecessor.window ⟨pbook, 0, false⟩ _ hpapplied
  obtain ⟨shead, ss, hsadvance, hsyields, hss⟩ :=
    @DepthWindow.yields_of_remaining codec successor.window ⟨sbook, 0, false⟩ _ hsapplied
  have hplength := DepthWindow.appliedBooks_length hpapplied
  have hslength := DepthWindow.appliedBooks_length hsapplied
  have hpi := (appliedBooks_increasing hpapplied hp.read).2
  have hsi := (appliedBooks_increasing hsapplied hs.read).2
  rw [hps, List.length_map] at hplength
  rw [hss, List.length_map] at hslength
  rw [hps, Increasing, List.pairwise_map] at hpi
  rw [hss, Increasing, List.pairwise_map] at hsi
  have hcandidate : ∀ p ∈ ps, ∀ s ∈ ss, ∃ candidate,
      convergenceCandidate successor.window.events p.1 p.2.book s.1 s.2.book = .ok candidate := by
    intro p _ s hmem
    refine convergenceCandidate_isOk fun hmax => ?_
    refine @Replayed.next_of_max _ _ _ _ (DepthWindow.withBook s) hs ?_ hmax
    rw [hss]
    exact List.mem_map_of_mem hmem
  have hbudget : ps.length + ss.length
      ≤ predecessor.window.events.length + successor.window.events.length + 1 := by
    omega
  obtain ⟨phead', shead', ps', ss', hloop, ⟨hpyields', hplength'⟩, hsyields', hslength'⟩ :=
    @convergenceLoop_merged codec _ _ _ _ _ _ [] hpyields hsyields hpi hsi hcandidate _ hbudget
  refine ⟨_, candidates_of_replays hp hs hps hss hsi hpi, ?_⟩
  have hpbook := hp.book_eq
  have hsbook := hs.book_eq
  rw [hpsymbol] at hpbook
  rw [hssymbol] at hsbook
  unfold latestDepthWindowConvergence
  rw [hpprepare]
  show (prepareDepthWindow codec snapshot successorRecords >>= _) = _
  rw [hsprepare]
  show (if predecessor.window.identity.1 ≠ successor.window.identity.1 then _ else
    snapshotBook codec predecessor.window.identity.1 snapshot.frame.payload >>= _) = _
  rw [if_neg (by rw [← hpsymbol, ← hssymbol]; exact not_not_intro rfl), hpbook]
  show (snapshotBook codec successor.window.identity.1 snapshot.frame.payload >>= _) = _
  rw [hsbook]
  show (predecessor.window.advance codec ⟨pbook, 0, false⟩ >>= _) = _
  rw [hpadvance]
  show (successor.window.advance codec ⟨sbook, 0, false⟩ >>= _) = _
  rw [hsadvance]
  show (convergenceLoop codec predecessor.window successor.window _ phead shead [] >>= _) = _
  rw [hloop]
  show (predecessor.window.drain codec _ phead' >>= _) = _
  rw [DepthWindow.drain_of_yields hpyields' (hplength'.trans hplength)]
  show (successor.window.drain codec _ shead' >>= _) = _
  rw [DepthWindow.drain_of_yields hsyields' (hslength'.trans hslength)]
  rfl

theorem replayDepthWindow_of_yields {records : List RawRecordEnvelopeV1} {window : DepthWindow}
    {book : LocalOrderBook} {head : Option AppliedDepthWindowEvent × WindowCursor}
    (hprepare : prepareDepthWindow codec snapshot records = .ok window)
    (hbook : snapshotBook codec window.identity.1 snapshot.frame.payload = .ok book)
    (hadvance : window.advance codec ⟨book, 0, false⟩ = .ok head)
    (hyields : ∃ yielded, Yields (window.advance codec) head yielded) :
    ∃ replay, replayDepthWindow codec snapshot records = .ok replay := by
  obtain ⟨yielded, hyields⟩ := hyields
  have hremaining := DepthWindow.remaining_of_yields hadvance hyields
  refine ⟨⟨window, yielded.map DepthWindow.withBook⟩, ?_⟩
  unfold replayDepthWindow
  rw [hprepare]
  show (snapshotBook codec window.identity.1 snapshot.frame.payload >>= _) = _
  rw [hbook]
  show (window.remaining codec ⟨book, 0, false⟩ >>= _) = _
  rw [hremaining]
  rfl

/-- **Inversion.** A convergence that is found is one of windows that replay. -/
theorem replays_of_latest (h : latestDepthWindowConvergence codec snapshot predecessorRecords
    successorRecords = .ok convergence) :
    (∃ predecessor, replayDepthWindow codec snapshot predecessorRecords = .ok predecessor) ∧
      ∃ successor, replayDepthWindow codec snapshot successorRecords = .ok successor := by
  obtain ⟨pwindow, hpprepare, h⟩ := bind_eq_ok.mp h
  obtain ⟨swindow, hsprepare, h⟩ := bind_eq_ok.mp h
  obtain ⟨-, h⟩ := ite_err_eq_ok.mp h
  obtain ⟨pbook, hpbook, h⟩ := bind_eq_ok.mp h
  obtain ⟨sbook, hsbook, h⟩ := bind_eq_ok.mp h
  obtain ⟨phead, hpadvance, h⟩ := bind_eq_ok.mp h
  obtain ⟨shead, hsadvance, h⟩ := bind_eq_ok.mp h
  obtain ⟨⟨candidates, phead', shead'⟩, hloop, h⟩ := bind_eq_ok.mp h
  obtain ⟨⟨⟩, hpdrain, h⟩ := bind_eq_ok.mp h
  obtain ⟨⟨⟩, hsdrain, -⟩ := bind_eq_ok.mp h
  obtain ⟨hpyields, hsyields⟩ := convergenceLoop_yields hloop
    (DepthWindow.yields_of_drain hpdrain) (DepthWindow.yields_of_drain hsdrain)
  exact ⟨replayDepthWindow_of_yields hpprepare hpbook hpadvance hpyields,
    replayDepthWindow_of_yields hsprepare hsbook hsadvance hsyields⟩

theorem latest_cases
    (hpredecessor : replayDepthWindow codec snapshot predecessorRecords = .ok predecessor)
    (hsuccessor : replayDepthWindow codec snapshot successorRecords = .ok successor) :
    (∃ convergence p s continuation, latestDepthWindowConvergence codec snapshot predecessorRecords
        successorRecords = .ok convergence ∧ Converges predecessor successor p s continuation ∧
      (∀ p' s' continuation', Converges predecessor successor p' s' continuation' →
        p'.1.finalSequence ≤ p.1.finalSequence) ∧
      Reports codec predecessor successor p s continuation convergence) ∨
    (∃ e, latestDepthWindowConvergence codec snapshot predecessorRecords successorRecords
        = .error e) ∧
      ∀ p s continuation, ¬ Converges predecessor successor p s continuation := by
  obtain ⟨candidates, hcandidates, hlatest⟩ := latest_of_replays hpredecessor hsuccessor
  obtain ⟨-, -, pbook, hp⟩ := replayDepthWindow_eq_ok hpredecessor
  obtain ⟨-, -, sbook, hs⟩ := replayDepthWindow_eq_ok hsuccessor
  have hconfirms : ∀ p s continuation, Converges predecessor successor p s continuation →
      Confirms predecessor successor ⟨p.1, s.1, continuation⟩ :=
    fun p s continuation h => ⟨p, s, ⟨rfl, h.toMeets⟩, h.state_eq⟩
  have hcomplete : ∀ p s continuation, Converges predecessor successor p s continuation →
      ⟨p.1, s.1, continuation⟩ ∈ candidates.reverse :=
    fun p s continuation h => List.mem_reverse.mpr (hcandidates.complete p s continuation h)
  rw [hlatest]
  rcases confirmLoop_cases hp hs
      (fun candidate hmem => hcandidates.isOf candidate (List.mem_reverse.mp hmem)) with
    ⟨convergence, before, candidate, after, p, s, hok, hsplit, hbefore, ⟨hcandidate, hmeets⟩,
      hstate, hreports⟩ | ⟨⟨e, herror⟩, hnone⟩
  · refine Or.inl ⟨convergence, p, s, candidate.continuation, hok, ⟨hmeets, hstate⟩, ?_, hreports⟩
    intro p' s' continuation' h'
    have hmem := hcomplete p' s' continuation' h'
    have hdecreasing := List.pairwise_reverse.mpr hcandidates.increasing
    rw [hsplit] at hmem hdecreasing
    rw [h'.sequence_eq, hmeets.sequence_eq]
    have hself : candidate.successor = s.1 := congrArg DepthConvergenceCandidate.successor hcandidate
    -- it is no earlier candidate, so it is this one or a later one of the list
    rcases List.mem_append.mp hmem with hearlier | hlater
    · exact absurd (hconfirms p' s' continuation' h') (hbefore _ hearlier)
    rcases List.mem_cons.mp hlater with rfl | hlater
    · rw [← hself]
      exact UInt64.le_refl _
    · have hlt := (List.pairwise_cons.mp (List.pairwise_append.mp hdecreasing).2.1).1 _ hlater
      rw [hself] at hlt
      exact UInt64.le_of_lt hlt
  · exact Or.inr ⟨⟨e, herror⟩, fun p s continuation h =>
      hnone _ (hcomplete p s continuation h) (hconfirms p s continuation h)⟩

end

/-- **The latest convergence** is found exactly if both windows replay and two of their updates
    converge. It is that of the greatest common final sequence, reported under the digest of the
    two books; the fingerprints keep no pair from it. -/
theorem latest_convergence_is_naive (codec : BookCodec) (snapshot : RawRecordEnvelopeV1)
    (predecessorRecords successorRecords : List RawRecordEnvelopeV1) :
    ((∃ convergence, latestDepthWindowConvergence codec snapshot predecessorRecords
        successorRecords = .ok convergence) ↔
      ∃ predecessor successor p s continuation,
        replayDepthWindow codec snapshot predecessorRecords = .ok predecessor ∧
        replayDepthWindow codec snapshot successorRecords = .ok successor ∧
        Converges predecessor successor p s continuation) ∧
    (∀ convergence, latestDepthWindowConvergence codec snapshot predecessorRecords
        successorRecords = .ok convergence →
      ∃ predecessor successor p s continuation,
        replayDepthWindow codec snapshot predecessorRecords = .ok predecessor ∧
        replayDepthWindow codec snapshot successorRecords = .ok successor ∧
        Converges predecessor successor p s continuation ∧
        (∀ p' s' continuation', Converges predecessor successor p' s' continuation' →
          p'.1.finalSequence ≤ p.1.finalSequence) ∧
        p.2.stateDigest codec = s.2.stateDigest codec ∧
        Reports codec predecessor successor p s continuation convergence) ∧
    ∀ predecessor successor p s,
      replayDepthWindow codec snapshot predecessorRecords = .ok predecessor →
      replayDepthWindow codec snapshot successorRecords = .ok successor →
      p ∈ predecessor.applied → s ∈ successor.applied → p.2.sameState s.2 = true →
      p.2.sameStateFingerprint s.2 = true := by
  refine ⟨⟨?_, ?_⟩, ?_, ?_⟩
  · rintro ⟨convergence, h⟩
    obtain ⟨⟨predecessor, hpredecessor⟩, successor, hsuccessor⟩ := replays_of_latest h
    rcases latest_cases hpredecessor hsuccessor with
      ⟨_, p, s, continuation, -, hconverges, -⟩ | ⟨⟨e, herror⟩, -⟩
    · exact ⟨predecessor, successor, p, s, continuation, hpredecessor, hsuccessor, hconverges⟩
    · rw [h] at herror
      cases herror
  · rintro ⟨predecessor, successor, p, s, continuation, hpredecessor, hsuccessor, hconverges⟩
    rcases latest_cases hpredecessor hsuccessor with
      ⟨convergence, -, -, -, hok, -⟩ | ⟨-, hnone⟩
    · exact ⟨convergence, hok⟩
    · exact absurd hconverges (hnone p s continuation)
  · intro convergence h
    obtain ⟨⟨predecessor, hpredecessor⟩, successor, hsuccessor⟩ := replays_of_latest h
    rcases latest_cases hpredecessor hsuccessor with
      ⟨found, p, s, continuation, hok, hconverges, hgreatest, hreports⟩ | ⟨⟨e, herror⟩, -⟩
    · obtain rfl := Except.ok.inj (h.symm.trans hok)
      exact ⟨predecessor, successor, p, s, continuation, hpredecessor, hsuccessor, hconverges,
        hgreatest, stateDigest_of_sameState hconverges.state_eq, hreports⟩
    · rw [h] at herror
      cases herror
  · intro predecessor successor p s hpredecessor hsuccessor hp hs hstate
    obtain ⟨-, -, pbook, hpreplayed⟩ := replayDepthWindow_eq_ok hpredecessor
    obtain ⟨-, -, sbook, hsreplayed⟩ := replayDepthWindow_eq_ok hsuccessor
    exact hpreplayed.sameStateFingerprint hsreplayed hp hs hstate

end LobReplay.Observation
