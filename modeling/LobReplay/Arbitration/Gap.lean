/-
  The cursor a `GAP` record declares, over every run of the arbiter's depth side.

  A call appends frames and moves the position along with them (`Extends`); only the gap call
  appends a boundary, and it declares the position of that moment. So the position is what the
  journal says (`Synced`) from the first frame on. Before the first frame it is the adopted prefix
  head, and behind a boundary it is unset, and there the declared cursor is not the journal's.
-/

import LobReplay.Arbitration.Depth
import LobReplay.Journal.Summary

namespace LobReplay.Arbitration

open Foundation

/-! ## What the journal says -/

/-- The final sequence of a `DEPTH_OBSERVATION` record. -/
def frameOf (payload : Value) : Option UInt64 :=
  if payload.strField "event" = some "DEPTH_OBSERVATION" then payload.u64Field "final_sequence"
  else none

/-- The cursor of the audit: the final sequence of the last frame. -/
def lastFrame (journal : List Value) : Option UInt64 := (journal.filterMap frameOf).getLast?

/-- Whether a record is a typed gap. -/
def isGap (payload : Value) : Prop := payload.strField "event" = some "GAP"

/-- A gap behind `before` declares the cursor, 0 when there is no frame. -/
def DeclaresCursor (before : List Value) (payload : Value) : Prop :=
  isGap payload →
    payload.u64Field "canonical_last_sequence" = some ((lastFrame before).getD 0)

def recovered (journal : List Value) : Option UInt64 :=
  (DepthMachine.recover journal).1.finalSequence

theorem lastFrame_append (journal added : List Value) :
    lastFrame (journal ++ added) = (lastFrame added).or (lastFrame journal) := by
  rw [lastFrame, List.filterMap_append, List.getLast?_append]
  rfl

theorem lastFrame_cons (payload : Value) (rest : List Value) :
    lastFrame (payload :: rest) = (lastFrame rest).or (frameOf payload) := by
  rw [← List.singleton_append, lastFrame_append]
  congr 1
  rw [lastFrame, List.filterMap_cons]
  rcases frameOf payload with _ | final
  · rfl
  · rfl

/-- A record of neither a frame nor a gap. -/
def Plain (payload : Value) : Prop :=
  payload.strField "event" ≠ some "DEPTH_OBSERVATION" ∧ payload.strField "event" ≠ some "GAP"

/-- A frame with a nonzero final sequence, or a plain record. -/
def Ordinary (payload : Value) : Prop := (∃ final, final ≠ 0 ∧ frameOf payload = some final) ∨ Plain payload

variable {payload : Value} {journal : List Value} {final : UInt64} {added before : List Value}

theorem frameOf_plain (h : Plain payload) : frameOf payload = none := if_neg h.1

theorem Ordinary.not_isGap (h : Ordinary payload) : ¬ isGap payload := by
  intro hgap
  rcases h with ⟨final, -, hframe⟩ | hplain
  · rw [frameOf, hgap, if_neg (by decide)] at hframe
    cases hframe
  · exact hplain.2 hgap

theorem Ordinary.frame_ne (h : Ordinary payload) (hframe : frameOf payload = some final) :
    final ≠ 0 := by
  rcases h with ⟨other, hne, hother⟩ | hplain
  · rw [hframe, Option.some.injEq] at hother
    rw [hother]
    exact hne
  · rw [frameOf_plain hplain] at hframe
    cases hframe

theorem recoverRecord_ordinary (h : Ordinary payload)
    (position : CanonicalDepthPosition × CaptureLane) :
    (DepthMachine.recoverRecord position payload).1.finalSequence
      = (frameOf payload).or position.1.finalSequence := by
  rcases h with ⟨final, -, hframe⟩ | hplain
  · have hevent : payload.strField "event" = some "DEPTH_OBSERVATION" := by
      by_contra hne
      rw [frameOf, if_neg hne] at hframe
      cases hframe
    rw [hframe]
    rw [frameOf, if_pos hevent] at hframe
    unfold DepthMachine.recoverRecord
    rw [hevent]
    exact hframe
  · rw [frameOf_plain hplain, Option.none_or]
    unfold DepthMachine.recoverRecord
    split
    case h_1 hevent => exact absurd hevent hplain.1
    case h_2 hevent => exact absurd hevent hplain.2
    all_goals rfl

theorem recovered_append (h : ∀ payload ∈ added, Ordinary payload) :
    recovered (journal ++ added) = (lastFrame added).or (recovered journal) := by
  induction added generalizing journal with
  | nil =>
    rw [List.append_nil]
    rfl
  | cons payload rest ih =>
    rw [List.append_cons, ih fun other hother => h other (List.mem_cons_of_mem _ hother),
      lastFrame_cons, Option.or_assoc]
    congr 1
    rw [recovered, DepthMachine.recover, List.foldl_append]
    exact recoverRecord_ordinary (h payload List.mem_cons_self) _

theorem recoverRecord_gap (h : isGap payload) (position : CanonicalDepthPosition × CaptureLane) :
    (DepthMachine.recoverRecord position payload).1.finalSequence = none := by
  unfold DepthMachine.recoverRecord
  rw [h]
  rfl

/-- A gap unsets the position. -/
theorem recovered_gap (journal : List Value) (payload : Value) (h : isGap payload) :
    recovered (journal ++ [payload]) = none := by
  rw [recovered, DepthMachine.recover, List.foldl_append]
  exact recoverRecord_gap h _

theorem lastFrame_of_recovered (h : ∀ payload ∈ journal, Ordinary payload ∨ isGap payload)
    (hrecovered : recovered journal = some final) : lastFrame journal = some final := by
  induction journal using List.reverseRecOn with
  | nil => cases hrecovered
  | append_singleton journal payload ih =>
    have hrest : ∀ other ∈ journal, Ordinary other ∨ isGap other := by
      intro other hother
      exact h other (List.mem_append_left _ hother)
    rcases h payload (List.mem_append_right _ List.mem_cons_self) with hordinary | hgap
    · rw [recovered_append (by simpa using hordinary)] at hrecovered
      rw [lastFrame_append]
      generalize lastFrame [payload] = last at hrecovered ⊢
      rcases last with _ | last
      · rw [Option.none_or] at hrecovered ⊢
        exact ih hrest hrecovered
      · exact hrecovered
    · rw [recovered_gap journal payload hgap] at hrecovered
      cases hrecovered

/-! ## What a call appends -/

section

variable {machine machine' machine'' : DepthMachine} {added more : List Value}

/-- Ordinary records were appended and the position moved along. -/
structure Extends (machine : DepthMachine) (added : List Value) (machine' : DepthMachine) :
    Prop where
  journal_eq : machine'.journal = machine.journal ++ added
  ordinary : ∀ payload ∈ added, Ordinary payload
  position_eq : machine'.position.finalSequence
    = (lastFrame added).or machine.position.finalSequence

theorem Extends.refl (machine : DepthMachine) : Extends machine [] machine :=
  ⟨(List.append_nil _).symm, fun _ h => absurd h List.not_mem_nil, rfl⟩

theorem Extends.trans (h : Extends machine added machine') (h' : Extends machine' more machine'') :
    Extends machine (added ++ more) machine'' := by
  refine ⟨?_, ?_, ?_⟩
  · rw [h'.journal_eq, h.journal_eq, List.append_assoc]
  · intro payload hmem
    rcases List.mem_append.mp hmem with hmem | hmem
    · exact h.ordinary payload hmem
    · exact h'.ordinary payload hmem
  · rw [h'.position_eq, h.position_eq, lastFrame_append, Option.or_assoc]

namespace DepthMachine

/-- The error of the next append. -/
def nextFault (machine : DepthMachine) : Option String := machine.faults.head?.join

/-- **Append.** Either the record is appended or nothing but the script changes. -/
theorem append_cases (machine : DepthMachine) (payload : Value) :
    (∃ e machine', machine.append payload = (.error e, machine') ∧ machine.nextFault.isSome ∧
      machine'.journal = machine.journal ∧ machine'.position = machine.position) ∨
    (∃ machine', machine.append payload = (.ok (), machine') ∧ machine.nextFault = none ∧
      machine'.journal = machine.journal ++ [payload] ∧ machine'.position = machine.position) := by
  unfold append nextFault
  split
  case h_1 e faults heq => exact .inl ⟨_, _, rfl, by rw [heq]; rfl, rfl, rfl⟩
  case h_2 faults heq => exact .inr ⟨_, rfl, by rw [heq]; rfl, rfl, rfl⟩
  case h_3 heq => exact .inr ⟨_, rfl, by rw [heq]; rfl, rfl, rfl⟩

variable {final : UInt64} {call : Call}

/-- A frame that passes its classification is not at 0. -/
theorem classifyDepthFrontier_ok {expected : Option UInt64} {first : UInt64}
    {disposition : DepthFrontierDisposition}
    (h : classifyDepthFrontier expected first final = .ok disposition) : final ≠ 0 := by
  unfold classifyDepthFrontier at h
  rw [ite_err_eq_ok] at h
  obtain ⟨hrange, -⟩ := h
  rw [not_or] at hrange
  intro hzero
  rw [hzero, UInt64.not_lt] at hrange
  exact hrange.1 (UInt64.le_zero_iff.mp hrange.2)

/-- One frame that passed its classification: journaled, or the append failed. -/
theorem append_frame {lane : CaptureLane} {front : CanonicalObservationV1}
    (hne : front.finalSequence ≠ 0) (machine : DepthMachine) :
    (∃ e machine', machine.append (depthObservation lane front) = (.error e, machine') ∧
      Extends machine [] machine') ∨
    (∃ machine', machine.append (depthObservation lane front) = (.ok (), machine') ∧
      Extends machine [depthObservation lane front] (machine'.moveTo front)) := by
  rcases machine.append_cases (depthObservation lane front) with
    ⟨e, machine', happend, -, hjournal, hposition⟩ | ⟨machine', happend, -, hjournal, -⟩
  · refine .inl ⟨e, machine', happend, ?_, fun _ h => absurd h List.not_mem_nil, ?_⟩
    · rw [hjournal, List.append_nil]
    · rw [hposition]
      rfl
  · refine .inr ⟨machine', happend, hjournal, ?_, rfl⟩
    intro payload hmem
    rw [List.mem_singleton] at hmem
    rw [hmem]
    exact .inl ⟨front.finalSequence, hne, rfl⟩

/-- A frame is appended, and what comes then extends the machine. -/
theorem append_extends {α : Type} (lane : CaptureLane) (front : CanonicalObservationV1)
    {machine : DepthMachine} {rest : DepthMachine → Result α × DepthMachine}
    {disposition : DepthFrontierDisposition}
    (hclass : classifyDepthFrontier machine.expected front.firstSequence front.finalSequence
      = .ok disposition)
    (hrest : ∀ machine', ∃ added, Extends (machine'.moveTo front) added (rest machine').2) :
    ∃ added, Extends machine added
      (match machine.append (depthObservation lane front) with
        | (.error e, machine) => ((.error e : Result α), machine)
        | (.ok (), machine) => rest machine).2 := by
  rcases append_frame (classifyDepthFrontier_ok hclass) machine with
    ⟨e, machine', happend, hextends⟩ | ⟨machine', happend, hextends⟩
  · rw [happend]
    exact ⟨[], hextends⟩
  · rw [happend]
    obtain ⟨added, hmore⟩ := hrest machine'
    exact ⟨_, hextends.trans hmore⟩

theorem publishLoop_extends (lane : CaptureLane) (quota : Nat)
    (pending : List CanonicalObservationV1) (published : Nat) (machine : DepthMachine) :
    ∃ added, Extends machine added (publishLoop lane quota pending published machine).2 := by
  induction quota generalizing pending published machine with
  | zero => exact ⟨[], .refl machine⟩
  | succ quota ih =>
    rcases pending with _ | ⟨front, pending⟩
    · exact ⟨[], .refl machine⟩
    rw [publishLoop]
    split
    case isTrue => exact ih pending published machine
    case isFalse =>
      rcases hclass : classifyDepthFrontier machine.expected front.firstSequence
        front.finalSequence with e | disposition
      · exact ⟨[], .refl machine⟩
      have hstep := append_extends lane front hclass fun machine' =>
        ih pending (published + 1) (machine'.moveTo front)
      cases disposition with
      | contiguous => exact hstep
      | straddle _ _ _ => exact hstep
      | covered _ _ => exact ih pending published machine
      | missing _ _ => exact ⟨[], .refl machine⟩

theorem bridge_extends (target : CaptureLane) (tail : List CanonicalObservationV1)
    (machine : DepthMachine) : ∃ added, Extends machine added (bridge target tail machine).2 := by
  induction tail generalizing machine with
  | nil => exact ⟨[], .refl machine⟩
  | cons front tail ih =>
    rw [bridge]
    rcases hclass : classifyDepthFrontier machine.expected front.firstSequence
      front.finalSequence with e | disposition
    · exact ⟨[], .refl machine⟩
    have hstep := append_extends target front hclass fun machine' =>
      ih (machine'.moveTo front)
    cases disposition with
    | contiguous => exact hstep
    | straddle _ _ _ => exact hstep
    | covered _ _ => exact ih machine
    | missing _ _ => exact ⟨[], .refl machine⟩

/-- A plain record leaves the position where it is, also when its append fails. -/
theorem append_plain (machine : DepthMachine) (payload : Value) (hplain : Plain payload) :
    ∃ added, Extends machine added (machine.append payload).2 := by
  rcases machine.append_cases payload with
    ⟨e, machine', happend, -, hjournal, hposition⟩ | ⟨machine', happend, -, hjournal, hposition⟩
  · refine ⟨[], ?_, fun _ h => absurd h List.not_mem_nil, ?_⟩
    · rw [happend, hjournal, List.append_nil]
    · rw [happend, hposition]
      rfl
  · refine ⟨[payload], ?_, ?_, ?_⟩
    · rw [happend, hjournal]
    · intro other hmem
      rw [List.mem_singleton] at hmem
      rw [hmem]
      exact .inr hplain
    · rw [happend, hposition, lastFrame_cons, frameOf_plain hplain]
      rfl

theorem plain_of_event {payload : Value} (name : String)
    (hevent : payload.strField "event" = some name) (hdepth : name ≠ "DEPTH_OBSERVATION")
    (hgap : name ≠ "GAP") : Plain payload := by
  rw [Plain, hevent, ne_eq, ne_eq, Option.some.injEq, Option.some.injEq]
  exact ⟨hdepth, hgap⟩

theorem switchDepth_extends (machine : DepthMachine) (sibling : Sibling) :
    ∃ added, Extends machine added (machine.switchDepth sibling).2 := by
  unfold switchDepth
  rcases evaluateDepthSwitch machine.position sibling with e | _ | tail
  · exact ⟨[], .refl machine⟩
  · exact ⟨[], .refl machine⟩
  · obtain ⟨added, hbridge⟩ := bridge_extends (otherLane machine.servingLane) tail machine
    dsimp only
    rcases hrun : bridge (otherLane machine.servingLane) tail machine with ⟨e | _ | _, machine'⟩
    · rw [hrun] at hbridge
      exact ⟨added, hbridge⟩
    · rw [hrun] at hbridge
      exact ⟨added, hbridge⟩
    · rw [hrun] at hbridge
      obtain ⟨more, hproven⟩ := machine'.append_plain (depthSwitchProven machine'.servingLane
        (otherLane machine.servingLane) machine'.position.finalSequence)
        (plain_of_event "DEPTH_SWITCH_PROVEN" rfl (by decide) (by decide))
      refine ⟨added ++ more, hbridge.trans ?_⟩
      dsimp only
      rcases happend : machine'.append (depthSwitchProven machine'.servingLane
        (otherLane machine.servingLane) machine'.position.finalSequence) with ⟨e | _, machine''⟩
      · rw [happend] at hproven
        exact hproven
      · rw [happend] at hproven
        exact ⟨hproven.journal_eq, hproven.ordinary, hproven.position_eq⟩

/-- Whether the call journals a boundary: the renewed generation was bootstrapped, its stream is
    not final without a frame beyond the cursor, and the append goes through. -/
def TypesGap (machine : DepthMachine) : Call → Prop
  | .gap renewal => machine.halted = false ∧ machine.nextFault = none ∧
    ∃ pending, renewal.bootstrapped = .ok pending ∧
      renewal.boundary machine.canonicalLast pending = .ok true
  | _ => False

/-- Behind the boundary, the position is that of the frames published since. -/
theorem rebootstrap_spec (machine : DepthMachine) (renewal : Renewal) (floor : UInt64)
    (pending : List CanonicalObservationV1) :
    ∃ added, (machine.rebootstrap renewal floor pending).2.journal = machine.journal ++ added ∧
      (∀ payload ∈ added, Ordinary payload) ∧
      ((machine.rebootstrap renewal floor pending).1.isOk = true →
        (machine.rebootstrap renewal floor pending).2.position.finalSequence
          = lastFrame added) := by
  unfold rebootstrap
  rcases renewal.snapshotLast with e | snapshotLast
  · exact ⟨[], (List.append_nil _).symm, fun _ h => absurd h List.not_mem_nil, fun h => by cases h⟩
  have hplain : Plain (depthRebootstrap renewal.lane renewal.generation renewal.snapshotName
      snapshotLast) := plain_of_event "DEPTH_REBOOTSTRAP" rfl (by decide) (by decide)
  dsimp only
  rcases machine.append_cases (depthRebootstrap renewal.lane renewal.generation
      renewal.snapshotName snapshotLast) with
    ⟨e, machine', happend, -, hjournal, -⟩ | ⟨machine', happend, -, hjournal, -⟩
  · rw [happend]
    refine ⟨[], ?_, fun _ h => absurd h List.not_mem_nil, fun h => by cases h⟩
    rw [hjournal, List.append_nil]
  rw [happend]
  dsimp only
  obtain ⟨more, hmore⟩ := publishLoop_extends renewal.lane
    (max 1 (min renewal.quota depthSwitchRecordBudget)) (trimPendingDepthFloor pending floor) 0
    { machine' with position := ⟨none, none, some floor⟩ }
  have hordinary : ∀ payload ∈ depthRebootstrap renewal.lane renewal.generation
      renewal.snapshotName snapshotLast :: more, Ordinary payload := by
    intro payload hmem
    rcases List.mem_cons.mp hmem with rfl | hmem
    · exact .inr hplain
    · exact hmore.ordinary payload hmem
  have hjournalMore := hmore.journal_eq
  have hposition := hmore.position_eq
  rw [Option.or_none] at hposition
  refine ⟨depthRebootstrap renewal.lane renewal.generation renewal.snapshotName snapshotLast ::
    more, ?_⟩
  rw [lastFrame_cons, frameOf_plain hplain, Option.or_none, List.append_cons, ← hjournal]
  unfold publishPendingDepth
  rcases hrun : publishLoop renewal.lane (max 1 (min renewal.quota depthSwitchRecordBudget))
      (trimPendingDepthFloor pending floor) 0
      { machine' with position := ⟨none, none, some floor⟩ } with
    ⟨e | _ | ⟨expected, first⟩, machine''⟩
  · rw [hrun] at hjournalMore
    exact ⟨hjournalMore, hordinary, fun h => by cases h⟩
  · rw [hrun] at hjournalMore hposition
    exact ⟨hjournalMore, hordinary, fun _ => hposition⟩
  · rw [hrun] at hjournalMore
    exact ⟨hjournalMore, hordinary, fun h => by cases h⟩

/-- What one call does to the journal and the position. -/
inductive Effect (machine : DepthMachine) (call : Call) (machine' : DepthMachine) : Prop
  | idle (silent : ¬ machine.TypesGap call) (halted_eq : machine.halted = true)
      (machine_eq : machine' = machine)
  | extended (silent : ¬ machine.TypesGap call) (live : machine.halted = false)
      (added : List Value) (extends_ : Extends machine added machine')
  | resumed (silent : ¬ machine.TypesGap call) (journal_eq : machine'.journal = machine.journal)
      (position_eq : machine'.position.finalSequence = recovered machine.journal)
  | bounded (typed : machine.TypesGap call) (lane : CaptureLane) (added : List Value)
      (journal_eq : machine'.journal
        = machine.journal ++ gapRecord lane machine.canonicalLast :: added)
      (ordinary : ∀ payload ∈ added, Ordinary payload)
      (position_eq : machine'.halted = false →
        machine'.position.finalSequence = lastFrame added)

theorem Extends.settle {α : Type} {result : Result α × DepthMachine}
    (h : Extends machine added result.2) : Extends machine added (settle result).2 :=
  ⟨h.journal_eq, h.ordinary, h.position_eq⟩

theorem gapAndBootstrapDepth_effect (hlive : machine.halted = false) (renewal : Renewal) :
    Effect machine (.gap renewal) (settle (machine.gapAndBootstrapDepth renewal)).2 := by
  -- a call that types no boundary leaves the journal and the position
  have hsilent {result : Result Unit × DepthMachine}
      (hno : ¬ machine.TypesGap (.gap renewal))
      (hjournal : result.2.journal = machine.journal)
      (hposition : result.2.position = machine.position) :
      Effect machine (.gap renewal) (settle result).2 := by
    refine .extended hno hlive [] ⟨?_, fun _ h => absurd h List.not_mem_nil, ?_⟩
    · exact hjournal.trans (List.append_nil _).symm
    · exact congrArg CanonicalDepthPosition.finalSequence hposition
  unfold gapAndBootstrapDepth
  rcases hbootstrapped : renewal.bootstrapped with e | pending
  · refine hsilent ?_ rfl rfl
    rintro ⟨-, -, pending, hpending, -⟩
    rw [hbootstrapped] at hpending
    cases hpending
  dsimp only
  rcases hboundary : renewal.boundary machine.canonicalLast pending with e | _ | _
  · refine hsilent ?_ rfl rfl
    rintro ⟨-, -, pending', hpending, htyped⟩
    rw [hbootstrapped, Except.ok.injEq] at hpending
    rw [← hpending, hboundary] at htyped
    cases htyped
  · refine hsilent ?_ rfl rfl
    rintro ⟨-, -, pending', hpending, htyped⟩
    rw [hbootstrapped, Except.ok.injEq] at hpending
    rw [← hpending, hboundary] at htyped
    cases htyped
  dsimp only
  rcases machine.append_cases (gapRecord renewal.lane machine.canonicalLast) with
    ⟨e, machine', happend, hfault, hjournal, hposition⟩ | ⟨machine', happend, hfault, hjournal, -⟩
  · rw [happend]
    refine hsilent ?_ hjournal hposition
    rintro ⟨-, hnone, -⟩
    rw [hnone] at hfault
    cases hfault
  · rw [happend]
    obtain ⟨added, hadded, hordinary, hafter⟩ :=
      machine'.rebootstrap_spec renewal machine.canonicalLast pending
    refine .bounded ⟨hlive, hfault, pending, hbootstrapped, hboundary⟩ renewal.lane added ?_
      hordinary ?_
    · show (machine'.rebootstrap renewal machine.canonicalLast pending).2.journal = _
      rw [hadded, hjournal, List.append_assoc]
      rfl
    · intro hhalted
      apply hafter
      simpa [settle] using hhalted

/-- **Step.** -/
theorem step_effect (machine : DepthMachine) (call : Call) :
    Effect machine call (machine.step call).2 := by
  rcases hhalted : machine.halted with _ | _
  · -- a live process
    cases call with
    | resume => exact .resumed (fun h => h) rfl rfl
    | publish lane quota pending =>
      obtain ⟨added, hadded⟩ := publishLoop_extends lane
        (max 1 (min quota depthSwitchRecordBudget)) pending 0 machine
      refine .extended (fun h => h) hhalted added ?_
      rw [step, hhalted]
      exact Extends.settle hadded
    | switch sibling =>
      obtain ⟨added, hadded⟩ := machine.switchDepth_extends sibling
      refine .extended (fun h => h) hhalted added ?_
      rw [step, hhalted]
      exact Extends.settle hadded
    | gap renewal =>
      rw [step, hhalted]
      exact gapAndBootstrapDepth_effect hhalted renewal
    | other record =>
      obtain ⟨added, hadded⟩ := machine.append_plain record.payload ⟨record.not_depth, record.not_gap⟩
      refine .extended (fun h => h) hhalted added ?_
      rw [step, hhalted]
      exact Extends.settle hadded
  · -- a process that ended
    have hsilent : ¬ machine.TypesGap call := by
      intro htyped
      cases call with
      | gap renewal =>
        rw [TypesGap, hhalted] at htyped
        cases htyped.1
      | _ => exact htyped
    cases call with
    | resume => exact .resumed hsilent rfl rfl
    | _ =>
      refine .idle hsilent hhalted ?_
      rw [step, hhalted]
      rfl

/-! ## Runs -/

/-- A live process holds the position its journal says, or has only plain records. -/
def Synced (machine : DepthMachine) : Prop :=
  machine.halted = false →
    machine.position.finalSequence = recovered machine.journal ∨
      ∀ payload ∈ machine.journal, Plain payload

/-- Every record is ordinary or a gap. -/
def Sound (machine : DepthMachine) : Prop :=
  ∀ payload ∈ machine.journal, Ordinary payload ∨ isGap payload

/-- A frame was journaled since the last gap, or no frame was journaled and no position is set
    but 0. -/
def Anchored (machine : DepthMachine) : Prop :=
  (recovered machine.journal).isSome ∨
    lastFrame machine.journal = none ∧ ∀ head, machine.position.finalSequence = some head → head = 0

theorem lastFrame_plain {journal : List Value} (h : ∀ payload ∈ journal, Plain payload) :
    lastFrame journal = none := by
  induction journal with
  | nil => rfl
  | cons payload rest ih =>
    rw [lastFrame_cons, ih fun other hother => h other (List.mem_cons_of_mem _ hother),
      frameOf_plain (h payload List.mem_cons_self)]
    rfl

theorem plain_of_lastFrame {added : List Value} (h : ∀ payload ∈ added, Ordinary payload)
    (hnone : lastFrame added = none) : ∀ payload ∈ added, Plain payload := by
  induction added with
  | nil => exact fun _ hmem => absurd hmem List.not_mem_nil
  | cons payload rest ih =>
    rw [lastFrame_cons, Option.or_eq_none_iff] at hnone
    intro other hmem
    rcases List.mem_cons.mp hmem with rfl | hmem
    · rcases h other List.mem_cons_self with ⟨final, -, hframe⟩ | hplain
      · rw [hframe] at hnone
        cases hnone.2
      · exact hplain
    · exact ih (fun p hp => h p (List.mem_cons_of_mem _ hp)) hnone.1 other hmem

/-- A call keeps the position in step with the journal. -/
theorem Effect.synced (h : Effect machine call machine') (hsynced : machine.Synced) :
    machine'.Synced := by
  cases h with
  | idle _ hhalted heq =>
    rw [heq]
    exact hsynced
  | extended _ hlive added hextends =>
    intro _
    rw [hextends.journal_eq, hextends.position_eq, recovered_append hextends.ordinary]
    rcases hsynced hlive with heq | hplain
    · rw [heq]
      exact .inl rfl
    · rcases hlast : lastFrame added with _ | final
      · refine .inr fun payload hmem => ?_
        rcases List.mem_append.mp hmem with hmem | hmem
        · exact hplain payload hmem
        · exact plain_of_lastFrame hextends.ordinary hlast payload hmem
      · exact .inl rfl
  | resumed _ hjournal hposition =>
    intro _
    rw [hjournal, hposition]
    exact .inl rfl
  | bounded _ lane added hjournal hordinary hposition =>
    intro hlive
    refine .inl ?_
    rw [hposition hlive, hjournal, List.append_cons, recovered_append hordinary,
      recovered_gap machine.journal (gapRecord lane machine.canonicalLast) rfl,
      Option.or_none]

theorem Effect.sound (h : Effect machine call machine') (hsound : machine.Sound) :
    machine'.Sound := by
  cases h with
  | idle _ _ heq =>
    rw [heq]
    exact hsound
  | extended _ _ added hextends =>
    intro payload hmem
    rw [hextends.journal_eq] at hmem
    rcases List.mem_append.mp hmem with hmem | hmem
    · exact hsound payload hmem
    · exact .inl (hextends.ordinary payload hmem)
  | resumed _ hjournal _ =>
    intro payload hmem
    rw [hjournal] at hmem
    exact hsound payload hmem
  | bounded _ lane added hjournal hordinary _ =>
    intro payload hmem
    rw [hjournal] at hmem
    rcases List.mem_append.mp hmem with hmem | hmem
    · exact hsound payload hmem
    · rcases List.mem_cons.mp hmem with rfl | hmem
      · exact .inr rfl
      · exact .inl (hordinary payload hmem)

theorem lastFrame_ne_zero (hsound : machine.Sound)
    (hlast : lastFrame machine.journal = some final) : final ≠ 0 := by
  obtain ⟨payload, hmem, hframe⟩ := List.mem_filterMap.mp (List.mem_of_getLast? hlast)
  rcases hsound payload hmem with hordinary | hgap
  · exact hordinary.frame_ne hframe
  · rw [frameOf, hgap, if_neg (by decide)] at hframe
    cases hframe

/-- **Boundary.** A gap typed now declares the journal's cursor iff the machine is anchored. -/
theorem declaresCursor_iff (hlive : machine.halted = false) (hsynced : machine.Synced)
    (hsound : machine.Sound) (lane : CaptureLane) :
    DeclaresCursor machine.journal (gapRecord lane machine.canonicalLast) ↔ machine.Anchored := by
  have hdeclares : DeclaresCursor machine.journal (gapRecord lane machine.canonicalLast) ↔
      machine.position.finalSequence.getD 0 = (lastFrame machine.journal).getD 0 := by
    rw [← Option.some.injEq]
    exact ⟨fun h => h rfl, fun h _ => h⟩
  rw [hdeclares]
  constructor
  · intro heq
    rcases hrecovered : recovered machine.journal with _ | final
    · -- the position is unset or the adopted head
      have hnone : lastFrame machine.journal = none := by
        rcases hsynced hlive with hposition | hplain
        · rcases hlast : lastFrame machine.journal with _ | final
          · rfl
          · rw [hposition, hrecovered, hlast] at heq
            exact absurd heq.symm (lastFrame_ne_zero hsound hlast)
        · exact lastFrame_plain hplain
      refine .inr ⟨hnone, ?_⟩
      intro head hhead
      rw [hnone, hhead] at heq
      exact heq
    · left
      rw [hrecovered]
      rfl
  · rintro (hset | ⟨hnone, hhead⟩)
    · obtain ⟨final, hfinal⟩ := Option.isSome_iff_exists.mp hset
      have hlast := lastFrame_of_recovered hsound hfinal
      rcases hsynced hlive with hposition | hplain
      · rw [hposition, hfinal, hlast]
      · rw [lastFrame_plain hplain] at hlast
        cases hlast
    · rw [hnone]
      rcases hposition : machine.position.finalSequence with _ | head
      · rfl
      · exact hhead head hposition

end DepthMachine

end

/-! ## The audit -/

/-- What an audit of the records so far may have reached, over any number of segments. -/
inductive Audits (codec : JournalCodec) : List Value → JournalAuditState → Prop
  | start : Audits codec [] {}
  | opened {before : List Value} {audit : JournalAuditState} (rest : Audits codec before audit) :
      Audits codec before (audit.openSegment false)
  | closed {before : List Value} {audit : JournalAuditState} (tailBytes : Nat)
      (rest : Audits codec before audit) : Audits codec before (audit.closeSegment tailBytes)
  | record {before : List Value} {audit audit' : JournalAuditState}
      {envelope : LiveArbitrationJournalEnvelopeV1} {fileIndex : Nat} {firstOfFile : Bool}
      (rest : Audits codec before audit)
      (accepted : audit.applyAuditRecord codec envelope fileIndex firstOfFile = .ok audit') :
      Audits codec (before ++ [envelope.body.payload]) audit'

theorem depthFinal?_of_decode {event : JournalEvent}
    (h : JournalEvent.decode payload = some event) : event.depthFinal? = frameOf payload := by
  obtain ⟨name, hname, hdecoded⟩ := Option.bind_eq_some_iff.mp h
  by_cases hdepth : name = "DEPTH_OBSERVATION"
  · subst hdepth
    rw [frameOf, if_pos hname]
    change JournalEvent.decodeDepth payload = some event at hdecoded
    simp only [JournalEvent.decodeDepth, Option.bind_eq_bind, Option.bind_eq_some_iff] at hdecoded
    obtain ⟨first, -, final, hfinal, _, -, _, -, _, -, hevent⟩ := hdecoded
    split at hevent
    · cases hevent
    · cases hevent
      exact hfinal.symm
  · rw [frameOf, if_neg (by rw [hname, Option.some.injEq]; exact hdepth)]
    -- no other record decodes to a frame
    cases event with
    | depth first final =>
      unfold JournalEvent.decodeNamed at hdecoded
      split at hdecoded
      case h_8 => exact absurd rfl hdepth
      case h_3 =>
        unfold JournalEvent.decodeTerminal at hdecoded
        split at hdecoded <;> cases hdecoded
      case h_10 =>
        unfold JournalEvent.decodeRebootstrap at hdecoded
        split at hdecoded <;> cases hdecoded
      all_goals
        simp [JournalEvent.decodeStarted, JournalEvent.decodeResumed, JournalEvent.decodeTrade,
          JournalEvent.decodeCorrection, JournalEvent.decodeStatus, JournalEvent.decodeGap,
          Option.bind_eq_some_iff] at hdecoded
    | _ => rfl

theorem Audits.cursor {codec : JournalCodec} {audit : JournalAuditState}
    (h : Audits codec before audit) :
    audit.presetContext = false ∧ audit.lastDepthSequence = lastFrame before := by
  induction h with
  | start => exact ⟨rfl, rfl⟩
  | opened rest ih => exact ih
  | closed tailBytes rest ih => exact ih
  | @record before audit audit' envelope fileIndex firstOfFile rest accepted ih =>
    obtain ⟨-, -, event, hevent, -, rfl⟩ := JournalEvent.applyAuditRecord_eq_ok.mp accepted
    refine ⟨?_, ?_⟩
    · rw [(JournalEvent.advanced audit event _).preset_eq, ih.1]
    · rw [JournalEvent.record_lastDepthSequence event _ ih.1, depthFinal?_of_decode hevent, ih.2,
        lastFrame_append, lastFrame_cons]
      rfl

/-- A gap behind `before` is not refused for its boundary. -/
def AuditAdmits (before : List Value) (payload : Value) : Prop :=
  isGap payload → ∀ codec audit, Audits codec before audit → (audit.applyGap payload).isOk = true

theorem DeclaresCursor.audit (h : DeclaresCursor before payload) : AuditAdmits before payload := by
  intro hgap codec audit haudits
  obtain ⟨hpreset, hcursor⟩ := haudits.cursor
  have hdecode : JournalEvent.decodeGap payload = some (.gap ((lastFrame before).getD 0)) := by
    rw [JournalEvent.decodeGap, h hgap]
    rfl
  have haccepts : JournalEvent.Accepts audit false (JournalEvent.decodeGap payload)
      ((JournalEvent.gap ((lastFrame before).getD 0)).advance audit) := by
    refine ⟨_, hdecode, .inr ?_, rfl⟩
    rw [hcursor]
  exact isOk_eq_true.mpr ⟨_, JournalEvent.applyGap_eq_ok.mpr haccepts⟩

/-! ## Whole runs -/

theorem atEach_append_ordinary (h : ∀ payload ∈ added, Ordinary payload) :
    AtEach DeclaresCursor (journal ++ added) ↔ AtEach DeclaresCursor journal := by
  induction added generalizing journal with
  | nil => rw [List.append_nil]
  | cons payload rest ih =>
    rw [List.append_cons, ih fun other hother => h other (List.mem_cons_of_mem _ hother),
      atEach_concat, and_iff_left]
    exact fun hgap => absurd hgap (h payload List.mem_cons_self).not_isGap

/-- The arbiter's depth machine after some calls from a fresh start. -/
def reached (head : Option CanonicalObservationV1) (faults : List (Option String))
    (calls : List DepthMachine.Call) : DepthMachine :=
  (run DepthMachine.step (DepthMachine.fresh head faults) calls).2

section

variable (head : Option CanonicalObservationV1)
include head

theorem reached_concat (faults : List (Option String)) (calls : List DepthMachine.Call)
    (call : DepthMachine.Call) :
    reached head faults (calls ++ [call]) = ((reached head faults calls).step call).2 := by
  rw [reached, run_concat]
  rfl

theorem reached_synced_sound (faults : List (Option String)) (calls : List DepthMachine.Call) :
    (reached head faults calls).Synced ∧ (reached head faults calls).Sound := by
  induction calls using List.reverseRecOn with
  | nil =>
    refine ⟨fun _ => .inr ?_, ?_⟩
    · exact fun _ hmem => absurd hmem List.not_mem_nil
    · exact fun _ hmem => absurd hmem List.not_mem_nil
  | append_singleton calls call ih =>
    rw [reached_concat]
    have heffect := (reached head faults calls).step_effect call
    exact ⟨heffect.synced ih.1, heffect.sound ih.2⟩

/-- **Run.** Every gap of a run declares the cursor of the journal before it iff each of them was
    typed by an anchored machine. -/
theorem atEach_declaresCursor_iff (faults : List (Option String)) (calls : List DepthMachine.Call) :
    AtEach DeclaresCursor (reached head faults calls).journal ↔
      AtEach (fun before call => (reached head faults before).TypesGap call →
        (reached head faults before).Anchored) calls := by
  induction calls using List.reverseRecOn with
  | nil => exact ⟨fun _ => atEach_nil, fun _ => atEach_nil⟩
  | append_singleton calls call ih =>
    obtain ⟨hsynced, hsound⟩ := reached_synced_sound head faults calls
    rw [atEach_concat, ← ih, reached_concat]
    cases (reached head faults calls).step_effect call with
    | idle hsilent _ heq =>
      rw [heq, and_iff_left]
      exact fun htyped => absurd htyped hsilent
    | extended hsilent _ added hextends =>
      rw [hextends.journal_eq, atEach_append_ordinary hextends.ordinary, and_iff_left]
      exact fun htyped => absurd htyped hsilent
    | resumed hsilent hjournal _ =>
      rw [hjournal, and_iff_left]
      exact fun htyped => absurd htyped hsilent
    | bounded htyped lane added hjournal hordinary _ =>
      have hlive : (reached head faults calls).halted = false := by
        cases call with
        | gap renewal => exact htyped.1
        | _ => exact htyped.elim
      rw [hjournal, List.append_cons, atEach_append_ordinary hordinary, atEach_concat,
        DepthMachine.declaresCursor_iff hlive hsynced hsound lane]
      exact and_congr_right fun _ => ⟨fun h _ => h, fun h => h htyped⟩

end

/-- A gap declares the cursor of the journal before it, and no audit of that journal refuses its
    boundary. -/
def GapAgrees (before : List Value) (payload : Value) : Prop :=
  DeclaresCursor before payload ∧ AuditAdmits before payload

/-- **Gaps declare the audited cursor** in a run, and the audit admits them, iff each of them was
    typed when a frame had been journaled since the last gap, or when none had been journaled at
    all and no position but 0 was set. -/
theorem gaps_declare_audited_cursor_iff (head : Option CanonicalObservationV1)
    (faults : List (Option String)) (calls : List DepthMachine.Call) :
    AtEach GapAgrees (reached head faults calls).journal ↔
      AtEach (fun before call => (reached head faults before).TypesGap call →
        (reached head faults before).Anchored) calls := by
  rw [← atEach_declaresCursor_iff]
  constructor
  · intro h before payload after heq
    exact (h before payload after heq).1
  · intro h before payload after heq
    have hdeclares := h before payload after heq
    exact ⟨hdeclares, hdeclares.audit⟩

/-! ## A gap before the first frame, and two gaps in a row -/

def sampleDepth (first final : UInt64) : CanonicalObservationV1 where
  symbol := "BTCUSDT"
  streamKind := .depth
  stream := "btcusdt@depth"
  connectionEpoch := "a"
  frameIndex := 0
  firstSequence := first
  finalSequence := final
  recordSha256 := zeroDigest
  observationSha256 := zeroDigest

/-- A renewed generation with the given pending frames, whose stream is still open. -/
def sampleRenewal (pending : List CanonicalObservationV1) : DepthMachine.Renewal where
  lane := .primary
  bootstrapped := .ok pending
  fullySealed := .ok false
  snapshotLast := .ok 200
  generation := "g001"
  snapshotName := "snapshot.bnraw"
  quota := 128

/-- After a fresh start that adopted the head 100, a gap declares 100 where the journal has no
    frame, and the audit refuses it. A second gap behind a first one declares 0 where the last
    frame ended at 110. -/
theorem gap_before_first_frame_is_refused :
    ¬ AtEach GapAgrees (reached (some (sampleDepth 99 100)) []
      [.gap (sampleRenewal [sampleDepth 201 205])]).journal ∧
    ({} : JournalAuditState).applyGap (gapRecord .primary 100)
      = err "arbitration gap boundary 100 does not equal the canonical cursor 0" ∧
    ¬ AtEach GapAgrees (reached none []
      [.publish .primary 128 [sampleDepth 101 110], .gap (sampleRenewal []),
        .gap (sampleRenewal [])]).journal := by
  refine ⟨?_, rfl, ?_⟩
  · intro h
    have hgap := (h [] _ _ rfl).1 rfl
    cases hgap
  · intro h
    have hgap := (h [_, _, _] _ _ rfl).1 rfl
    cases hgap

end LobReplay.Arbitration
