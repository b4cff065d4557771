/-
  What one call of `publish_pending_depth` does to the update IDs. A frame that starts behind the
  cursor is published or skipped by where it ends: one that ends beyond the cursor is a straddle and
  goes into the journal as it is (`Repeats`). `Straddle` is documented to be legal only right behind
  a bootstrap, where there is no cursor yet.

  `Tiled` is about the records, `KeepsAhead` about the queue a call leaves.
-/

import LobReplay.Arbitration.Gap

namespace LobReplay.Arbitration

open Foundation

/-! ## The call and its queue -/

namespace DepthMachine

/-- The loop of `publish_pending_depth` with the queue it leaves: a frame is popped before its
    record is appended, and stays where the classification stops the loop. -/
def publishQueue (lane : CaptureLane) : Nat → List CanonicalObservationV1 → Nat → DepthMachine →
    (Result DepthPublishOutcome × DepthMachine) × List CanonicalObservationV1
  | quota + 1, front :: pending, published, machine =>
    if machine.position.gapFloor.any (fun floor => decide (front.firstSequence ≤ floor)) then
      publishQueue lane quota pending published machine
    else
      match classifyDepthFrontier machine.expected front.firstSequence front.finalSequence with
      | .error e => ((.error e, machine), front :: pending)
      | .ok .contiguous | .ok (.straddle _ _ _) =>
        match machine.append (depthObservation lane front) with
        | (.error e, machine) => ((.error e, machine), pending)
        | (.ok (), machine) =>
          publishQueue lane quota pending (published + 1) (machine.moveTo front)
      | .ok (.covered _ _) => publishQueue lane quota pending published machine
      | .ok (.missing expected first) =>
        ((.ok (.gapDetected expected first), machine), front :: pending)
  | _, pending, published, machine => ((.ok (.published published), machine), pending)

/-- `publish_pending_depth` and the queue it leaves. -/
def publishPending (machine : DepthMachine) (lane : CaptureLane) (quota : Nat)
    (pending : List CanonicalObservationV1) :
    (Result DepthPublishOutcome × DepthMachine) × List CanonicalObservationV1 :=
  publishQueue lane (max 1 (min quota depthSwitchRecordBudget)) pending 0 machine

theorem publishQueue_nil (lane : CaptureLane) (quota published : Nat) (machine : DepthMachine) :
    publishQueue lane quota [] published machine = ((.ok (.published published), machine), []) := by
  rcases quota with _ | quota
  · rfl
  · rfl

/-- Without its queue the loop is `publishLoop`. -/
theorem publishQueue_fst (lane : CaptureLane) (quota : Nat)
    (pending : List CanonicalObservationV1) (published : Nat) (machine : DepthMachine) :
    (publishQueue lane quota pending published machine).1
      = publishLoop lane quota pending published machine := by
  induction quota generalizing pending published machine with
  | zero => rfl
  | succ quota ih =>
    rcases pending with _ | ⟨front, pending⟩
    · rfl
    rw [publishQueue, publishLoop]
    split
    case isTrue => exact ih pending published machine
    case isFalse =>
      rcases classifyDepthFrontier machine.expected front.firstSequence front.finalSequence with
        e | disposition
      · rfl
      have hstep : (match machine.append (depthObservation lane front) with
            | (.error e, machine) => (((.error e : Result DepthPublishOutcome), machine), pending)
            | (.ok (), machine) =>
              publishQueue lane quota pending (published + 1) (machine.moveTo front)).1
          = match machine.append (depthObservation lane front) with
            | (.error e, machine) => ((.error e : Result DepthPublishOutcome), machine)
            | (.ok (), machine) =>
              publishLoop lane quota pending (published + 1) (machine.moveTo front) := by
        rcases machine.append (depthObservation lane front) with ⟨e | ⟨⟩, machine'⟩
        · rfl
        · exact ih pending (published + 1) (machine'.moveTo front)
      cases disposition with
      | contiguous => exact hstep
      | straddle _ _ _ => exact hstep
      | covered _ _ => exact ih pending published machine
      | missing _ _ => rfl

end DepthMachine

/-! ## Tilings -/

def rangeOf (payload : Value) : Option (UInt64 × UInt64) :=
  (payload.u64Field "first_sequence").bind fun first =>
    (payload.u64Field "final_sequence").map fun final => (first, final)

/-- The ranges cover the update IDs behind `cursor` up to `last`, each of them once and in
    order. -/
def Tiles (cursor : UInt64) : List (UInt64 × UInt64) → UInt64 → Prop
  | [], last => last = cursor
  | (first, final) :: rest, last =>
    first.toNat = cursor.toNat + 1 ∧ first ≤ final ∧ Tiles final rest last

/-- The records a call appended tile the update IDs behind the cursor, and the position is where
    they end. -/
def Tiled (cursor : UInt64) (machine machine' : DepthMachine) : Prop :=
  ∃ added ranges last,
    machine'.journal = machine.journal ++ added ∧ added.map rangeOf = ranges.map some ∧
      Tiles cursor ranges last ∧ machine'.position.finalSequence = some last

/-- Nothing that starts beyond the position was taken from the queue. -/
def KeepsAhead (machine' : DepthMachine) (pending left : List CanonicalObservationV1) : Prop :=
  ∃ removed, pending = removed ++ left ∧
    ∀ last, machine'.position.finalSequence = some last →
      ∀ observation ∈ removed, observation.firstSequence ≤ last

/-- What a call promises: its records tile, and where it stops with a gap the queue holds all that
    starts beyond the position. -/
def Exact (cursor : UInt64) (machine : DepthMachine) (pending : List CanonicalObservationV1)
    (outcome : (Result DepthMachine.DepthPublishOutcome × DepthMachine) ×
      List CanonicalObservationV1) : Prop :=
  Tiled cursor machine outcome.1.2 ∧
    ((∃ expected first, outcome.1.1 = .ok (.gapDetected expected first)) →
      KeepsAhead outcome.1.2 pending outcome.2)

/-! ## The two conditions -/

/-- A range the audit reads as one. -/
def ValidRange (observation : CanonicalObservationV1) : Prop :=
  observation.firstSequence ≠ 0 ∧ observation.firstSequence ≤ observation.finalSequence

def cursorBehind (cursor : UInt64) (frames : List CanonicalObservationV1) : UInt64 :=
  frames.foldl (fun cursor observation => max cursor observation.finalSequence) cursor

/-- The frames have valid ranges, and none starts beyond the next update ID of those before it. -/
def Joins (cursor : UInt64) : List CanonicalObservationV1 → Prop
  | [] => True
  | observation :: rest =>
    ValidRange observation ∧ observation.firstSequence ≤ saturatingAdd cursor 1 ∧
      Joins (max cursor observation.finalSequence) rest

def beyondFloor (floor : Option UInt64) (frames : List CanonicalObservationV1) :
    List CanonicalObservationV1 :=
  frames.filter fun observation => !floor.any fun floor => decide (observation.firstSequence ≤ floor)

/-- Behind frames without a jump comes one that starts at or below the cursor and ends at the next
    update ID or later. -/
def Repeats (cursor : UInt64) (frames : List CanonicalObservationV1) : Prop :=
  ∃ before front after, frames = before ++ front :: after ∧ Joins cursor before ∧
    front.firstSequence ≠ 0 ∧ front.firstSequence ≤ cursorBehind cursor before ∧
    saturatingAdd (cursorBehind cursor before) 1 ≤ front.finalSequence

/-- The gap floor is beyond the cursor and drops a frame that starts between the two, before a
    valid frame beyond the floor stops the call. -/
def DropsAhead (cursor : UInt64) (floor : Option UInt64) (frames : List CanonicalObservationV1) :
    Prop :=
  ∃ boundary, floor = some boundary ∧ ∃ before front after, frames = before ++ front :: after ∧
    (∀ observation ∈ before, observation.firstSequence ≤ boundary) ∧
    (∃ observation ∈ before, cursor < observation.firstSequence) ∧
    boundary < front.firstSequence ∧ ValidRange front

theorem le_saturatingAdd (cursor : UInt64) : cursor ≤ saturatingAdd cursor 1 := by
  rw [UInt64.le_iff_toNat_le, saturatingAdd_toNat]
  have := toNat_le_u64Max cursor
  omega

variable {cursor final : UInt64} {frames : List CanonicalObservationV1}

/-- What does not start at or below a cursor starts behind it: the next update ID is one more. -/
theorem next_of_not_le {first : UInt64} (hnot : ¬ first ≤ cursor)
    (hle : first ≤ saturatingAdd cursor 1) : first.toNat = cursor.toNat + 1 := by
  rw [UInt64.le_iff_toNat_le] at hnot hle
  rw [saturatingAdd_toNat, show (1 : UInt64).toNat = 1 from rfl] at hle
  omega

theorem le_of_lt_saturatingAdd (h : final < saturatingAdd cursor 1) : final ≤ cursor := by
  rw [UInt64.lt_iff_toNat_lt, saturatingAdd_toNat, show (1 : UInt64).toNat = 1 from rfl] at h
  rw [UInt64.le_iff_toNat_le]
  omega

theorem max_eq_of_next_le (h : saturatingAdd cursor 1 ≤ final) : max cursor final = final :=
  if_pos (UInt64.le_trans (le_saturatingAdd cursor) h)

theorem max_eq_of_lt_next (h : final < saturatingAdd cursor 1) : max cursor final = cursor := by
  have hle := le_of_lt_saturatingAdd h
  show (if cursor ≤ final then final else cursor) = cursor
  split
  case isTrue hge => exact UInt64.le_antisymm hle hge
  case isFalse => rfl

theorem repeats_cons {front : CanonicalObservationV1} {rest : List CanonicalObservationV1} :
    Repeats cursor (front :: rest) ↔
      (front.firstSequence ≠ 0 ∧ front.firstSequence ≤ cursor ∧
        saturatingAdd cursor 1 ≤ front.finalSequence) ∨
      (ValidRange front ∧ front.firstSequence ≤ saturatingAdd cursor 1 ∧
        Repeats (max cursor front.finalSequence) rest) := by
  constructor
  · rintro ⟨_ | ⟨first, before⟩, frame, after, heq, hjoins, hrange⟩
    · obtain ⟨rfl, -⟩ := List.cons.inj heq
      exact .inl hrange
    · obtain ⟨rfl, hrest⟩ := List.cons.inj heq
      obtain ⟨hvalid, hle, hjoins⟩ := hjoins
      exact .inr ⟨hvalid, hle, before, frame, after, hrest, hjoins, hrange⟩
  · rintro (hrange | ⟨hvalid, hle, before, frame, after, rfl, hjoins, hrange⟩)
    · exact ⟨[], front, rest, rfl, trivial, hrange⟩
    · exact ⟨front :: before, frame, after, rfl, ⟨hvalid, hle, hjoins⟩, hrange⟩

theorem not_repeats_nil (cursor : UInt64) : ¬ Repeats cursor [] := by
  rintro ⟨before, front, after, heq, -⟩
  exact absurd heq (by simp)

theorem Repeats.append (h : Repeats cursor frames) (more : List CanonicalObservationV1) :
    Repeats cursor (frames ++ more) := by
  obtain ⟨before, front, after, rfl, hjoins, hrange⟩ := h
  exact ⟨before, front, after ++ more, by simp, hjoins, hrange⟩

theorem DropsAhead.append {floor : Option UInt64} (h : DropsAhead cursor floor frames)
    (more : List CanonicalObservationV1) : DropsAhead cursor floor (frames ++ more) := by
  obtain ⟨boundary, hfloor, before, front, after, rfl, hdrop⟩ := h
  exact ⟨boundary, hfloor, before, front, after ++ more, by simp, hdrop⟩

/-! ## Tiling records -/

section

variable {cursor : UInt64} {machine machine₁ machine' : DepthMachine} {lane : CaptureLane}
  {front : CanonicalObservationV1} {pending left : List CanonicalObservationV1}

theorem rangeOf_depthObservation (lane : CaptureLane) (observation : CanonicalObservationV1) :
    rangeOf (depthObservation lane observation)
      = some (observation.firstSequence, observation.finalSequence) := rfl

/-- A tiling does not go back. -/
theorem Tiles.le {ranges : List (UInt64 × UInt64)} {last : UInt64}
    (h : Tiles cursor ranges last) : cursor ≤ last := by
  induction ranges generalizing cursor with
  | nil => exact (show last = cursor from h) ▸ UInt64.le_refl last
  | cons range rest ih =>
    obtain ⟨hfirst, hle, hrest⟩ := h
    refine UInt64.le_trans ?_ (ih hrest)
    rw [UInt64.le_iff_toNat_le] at hle ⊢
    omega

theorem Tiled.refl (hjournal : machine'.journal = machine.journal)
    (hposition : machine'.position.finalSequence = some cursor) : Tiled cursor machine machine' :=
  ⟨[], [], cursor, by rw [hjournal, List.append_nil], rfl, rfl, hposition⟩

/-- A frame at the next update ID, and a tiling behind it. -/
theorem Tiled.cons
    (hjournal : machine₁.journal = machine.journal ++ [depthObservation lane front])
    (hfirst : front.firstSequence.toNat = cursor.toNat + 1)
    (hle : front.firstSequence ≤ front.finalSequence)
    (h : Tiled front.finalSequence machine₁ machine') : Tiled cursor machine machine' := by
  obtain ⟨added, ranges, last, hadded, hranges, htiles, hposition⟩ := h
  refine ⟨depthObservation lane front :: added,
    (front.firstSequence, front.finalSequence) :: ranges, last, ?_, ?_, ⟨hfirst, hle, htiles⟩,
    hposition⟩
  · rw [hadded, hjournal, ← List.append_cons]
  · rw [List.map_cons, List.map_cons, rangeOf_depthObservation, hranges]

/-- Behind a frame that was appended the records tile on from it, and it was at the next
    update ID. -/
theorem Tiled.uncons {more : List Value}
    (hjournal : machine₁.journal = machine.journal ++ [depthObservation lane front])
    (hmore : machine'.journal = machine₁.journal ++ more) (h : Tiled cursor machine machine') :
    front.firstSequence.toNat = cursor.toNat + 1 ∧
      Tiled front.finalSequence machine₁ machine' := by
  obtain ⟨added, ranges, last, hadded, hranges, htiles, hposition⟩ := h
  have heq : added = depthObservation lane front :: more := by
    have happended : machine.journal ++ added
        = machine.journal ++ depthObservation lane front :: more := by
      rw [← hadded, hmore, hjournal, List.append_assoc, List.singleton_append]
    exact List.append_cancel_left happended
  subst heq
  rcases ranges with _ | ⟨range, ranges⟩
  · cases hranges
  rw [List.map_cons, List.map_cons, rangeOf_depthObservation, List.cons.injEq,
    Option.some.injEq] at hranges
  obtain ⟨rfl, hranges⟩ := hranges
  obtain ⟨hfirst, -, htiles⟩ := htiles
  exact ⟨hfirst, more, ranges, last, hmore, hranges, htiles, hposition⟩

theorem KeepsAhead.refl (machine' : DepthMachine) (pending : List CanonicalObservationV1) :
    KeepsAhead machine' pending pending :=
  ⟨[], rfl, fun _ _ _ hmem => absurd hmem List.not_mem_nil⟩

/-- A frame that starts at or below what the records reach may be taken. -/
theorem Exact.cons {outcome : (Result DepthMachine.DepthPublishOutcome × DepthMachine) ×
      List CanonicalObservationV1} {reach : UInt64}
    (htiled : Tiled cursor machine outcome.1.2) (hreach : Tiled reach machine₁ outcome.1.2)
    (hfront : front.firstSequence ≤ reach) (h : Exact reach machine₁ pending outcome) :
    Exact cursor machine (front :: pending) outcome := by
  refine ⟨htiled, fun hgap => ?_⟩
  obtain ⟨removed, heq, hle⟩ := h.2 hgap
  obtain ⟨_, _, last', -, -, htiles, hlast⟩ := hreach
  refine ⟨front :: removed, by rw [heq, List.cons_append], ?_⟩
  intro last hposition observation hmem
  rcases List.mem_cons.mp hmem with rfl | hmem
  · obtain rfl := Option.some.inj (hlast.symm.trans hposition)
    exact UInt64.le_trans hfront htiles.le
  · exact hle last hposition observation hmem

end

/-! ## One frame -/

section

variable {cursor : UInt64} {machine : DepthMachine} {front : CanonicalObservationV1}

namespace DepthMachine

/-- What the loop does with a frame the gap floor does not drop. -/
inductive FrontCase (cursor : UInt64) (machine : DepthMachine) (lane : CaptureLane)
    (quota : Nat) (front : CanonicalObservationV1) (pending : List CanonicalObservationV1)
    (published : Nat) :
    (Result DepthPublishOutcome × DepthMachine) × List CanonicalObservationV1 → Prop
  | invalid (hvalid : ¬ ValidRange front) (e : Failure) :
      FrontCase cursor machine lane quota front pending published
        ((.error e, machine), front :: pending)
  | missing (hvalid : ValidRange front) (hjump : saturatingAdd cursor 1 < front.firstSequence)
      (expected first : UInt64) :
      FrontCase cursor machine lane quota front pending published
        ((.ok (.gapDetected expected first), machine), front :: pending)
  | failed (hvalid : ValidRange front) (hfirst : front.firstSequence ≤ saturatingAdd cursor 1)
      (hnext : saturatingAdd cursor 1 ≤ front.finalSequence) (e : Failure)
      (machine₁ : DepthMachine) (hfault : machine.nextFault.isSome)
      (hjournal : machine₁.journal = machine.journal)
      (hposition : machine₁.position = machine.position) :
      FrontCase cursor machine lane quota front pending published ((.error e, machine₁), pending)
  | publish (hvalid : ValidRange front) (hfirst : front.firstSequence ≤ saturatingAdd cursor 1)
      (hnext : saturatingAdd cursor 1 ≤ front.finalSequence) (machine₁ : DepthMachine)
      (hjournal : machine₁.journal = machine.journal ++ [depthObservation lane front])
      (hposition : machine₁.position.finalSequence = some front.finalSequence)
      (hfloor : machine₁.position.gapFloor = machine.position.gapFloor)
      (hfaults : machine.faults = [] → machine₁.faults = []) :
      FrontCase cursor machine lane quota front pending published
        (publishQueue lane quota pending (published + 1) machine₁)
  | covered (hvalid : ValidRange front) (hfinal : front.finalSequence < saturatingAdd cursor 1) :
      FrontCase cursor machine lane quota front pending published
        (publishQueue lane quota pending published machine)

/-- **Inversion.** One frame of the loop. -/
theorem publishQueue_front (hposition : machine.position.finalSequence = some cursor)
    (hfloor : machine.position.gapFloor.any
      (fun floor => decide (front.firstSequence ≤ floor)) = false) (lane : CaptureLane)
    (quota : Nat) (pending : List CanonicalObservationV1) (published : Nat) :
    FrontCase cursor machine lane quota front pending published
      (publishQueue lane (quota + 1) (front :: pending) published machine) := by
  rw [publishQueue, if_neg (by rw [hfloor]; exact Bool.false_ne_true)]
  have hexpected : machine.expected = some (saturatingAdd cursor 1) := by
    rw [DepthMachine.expected, hposition, Option.map_some]
  rw [hexpected, classifyDepthFrontier]
  by_cases hinvalid : front.firstSequence = 0 ∨ front.finalSequence < front.firstSequence
  · rw [if_pos hinvalid]
    refine .invalid ?_ _
    rintro ⟨hzero, hle⟩
    rcases hinvalid with h | h
    · exact hzero h
    · exact UInt64.not_lt.mpr hle h
  rw [if_neg hinvalid]
  have hvalid : ValidRange front :=
    ⟨fun h => hinvalid (.inl h), UInt64.not_lt.mp fun h => hinvalid (.inr h)⟩
  -- contiguous or straddling, the frame is appended as it is
  have happended : front.firstSequence ≤ saturatingAdd cursor 1 →
      saturatingAdd cursor 1 ≤ front.finalSequence →
      FrontCase cursor machine lane quota front pending published
        (match machine.append (depthObservation lane front) with
          | (.error e, machine) => ((.error e, machine), pending)
          | (.ok (), machine) =>
            publishQueue lane quota pending (published + 1) (machine.moveTo front)) := by
    intro hfirst hnext
    rcases machine.append_cases (depthObservation lane front) with
      ⟨e, machine₁, happend, hfault, hjournal, hposition⟩ |
      ⟨machine₁, happend, -, hjournal, hposition⟩
    · rw [happend]
      exact .failed hvalid hfirst hnext e machine₁ hfault hjournal hposition
    · rw [happend]
      refine .publish hvalid hfirst hnext _ hjournal rfl
        (congrArg (·.gapFloor) hposition) ?_
      intro hfaults
      rw [append, hfaults] at happend
      exact (congrArg (·.2.faults) happend).symm
  by_cases heq : front.firstSequence = saturatingAdd cursor 1
  · rw [if_pos heq]
    exact happended (heq ▸ UInt64.le_refl _) (heq ▸ hvalid.2)
  rw [if_neg heq]
  by_cases hjump : saturatingAdd cursor 1 < front.firstSequence
  · rw [if_pos hjump]
    exact .missing hvalid hjump _ _
  rw [if_neg hjump]
  have hfirst := UInt64.not_lt.mp hjump
  by_cases hnext : saturatingAdd cursor 1 ≤ front.finalSequence
  · rw [if_pos hnext]
    exact happended hfirst hnext
  · rw [if_neg hnext]
    exact .covered hvalid (UInt64.not_le.mp hnext)

theorem publishQueue_dropped (hfloor : machine.position.gapFloor.any
      (fun floor => decide (front.firstSequence ≤ floor)) = true) (lane : CaptureLane)
    (quota : Nat) (pending : List CanonicalObservationV1) (published : Nat) :
    publishQueue lane (quota + 1) (front :: pending) published machine
      = publishQueue lane quota pending published machine := by
  rw [publishQueue, if_pos hfloor]

theorem publishQueue_appends (lane : CaptureLane) (quota : Nat)
    (pending : List CanonicalObservationV1) (published : Nat) (machine : DepthMachine) :
    ∃ more, (publishQueue lane quota pending published machine).1.2.journal
      = machine.journal ++ more := by
  obtain ⟨more, hmore⟩ := publishLoop_extends lane quota pending published machine
  rw [publishQueue_fst]
  exact ⟨more, hmore.journal_eq⟩

end DepthMachine

end

/-! ## The loop -/

section

variable {cursor : UInt64} {floor : Option UInt64} {lane : CaptureLane}
  {pending : List CanonicalObservationV1} {published : Nat}
variable {front : CanonicalObservationV1} {quota : Nat} {machine : DepthMachine} {boundary : UInt64}

theorem beyondFloor_cons_of_dropped
    (h : floor.any (fun floor => decide (front.firstSequence ≤ floor)) = true)
    (frames : List CanonicalObservationV1) :
    beyondFloor floor (front :: frames) = beyondFloor floor frames := by
  rw [beyondFloor, List.filter_cons, h]
  rfl

theorem beyondFloor_cons_of_kept
    (h : floor.any (fun floor => decide (front.firstSequence ≤ floor)) = false)
    (frames : List CanonicalObservationV1) :
    beyondFloor floor (front :: frames) = front :: beyondFloor floor frames := by
  rw [beyondFloor, List.filter_cons, h]
  rfl

def FloorBehind (floor : Option UInt64) (cursor : UInt64) : Prop :=
  ∀ boundary, floor = some boundary → boundary ≤ cursor

theorem FloorBehind.mono {next : UInt64} (h : FloorBehind floor cursor) (hle : cursor ≤ next) :
    FloorBehind floor next :=
  fun boundary hboundary => UInt64.le_trans (h boundary hboundary) hle

theorem FloorBehind.le_of_dropped (h : FloorBehind floor cursor) {first : UInt64}
    (hdropped : floor.any (fun floor => decide (first ≤ floor)) = true) : first ≤ cursor := by
  obtain ⟨boundary, hboundary, hle⟩ := (Option.any_eq_true _ _).mp hdropped
  exact UInt64.le_trans (of_decide_eq_true hle) (h boundary hboundary)

open DepthMachine

/-- **Run.** A queue that repeats nothing is published exactly. -/
theorem exact_of_not_repeats (hposition : machine.position.finalSequence = some cursor)
    (hfloor : machine.position.gapFloor = floor) (hbehind : FloorBehind floor cursor)
    (hnot : ¬ Repeats cursor (beyondFloor floor (pending.take quota))) :
    Exact cursor machine pending (publishQueue lane quota pending published machine) := by
  induction quota generalizing cursor pending published machine with
  | zero => exact ⟨.refl rfl hposition, fun _ => .refl _ _⟩
  | succ quota ih =>
    rcases pending with _ | ⟨front, pending⟩
    · rw [publishQueue_nil]
      exact ⟨.refl rfl hposition, fun _ => .refl _ _⟩
    rw [List.take_succ_cons] at hnot
    rcases hkept : floor.any fun floor => decide (front.firstSequence ≤ floor) with _ | _
    · rw [beyondFloor_cons_of_kept hkept, repeats_cons, not_or] at hnot
      obtain ⟨hfront, hrest⟩ := hnot
      have hcase := publishQueue_front hposition (hfloor ▸ hkept) lane quota pending published
      generalize publishQueue lane (quota + 1) (front :: pending) published machine = outcome
        at hcase ⊢
      cases hcase with
      | invalid _ e => exact ⟨.refl rfl hposition, fun _ => .refl _ _⟩
      | missing _ _ expected first => exact ⟨.refl rfl hposition, fun _ => .refl _ _⟩
      | failed hvalid hfirst hnext e machine₁ _ hjournal hsame =>
        refine ⟨.refl hjournal (hsame ▸ hposition), ?_⟩
        rintro ⟨_, _, hresult⟩
        cases hresult
      | publish hvalid hfirst hnext machine₁ hjournal hfinal hgap _ =>
        -- a frame that is appended starts behind the cursor
        have hbeyond : front.firstSequence.toNat = cursor.toNat + 1 :=
          next_of_not_le (fun hle => hfront ⟨hvalid.1, hle, hnext⟩) hfirst
        have hcursor := UInt64.le_trans (le_saturatingAdd cursor) hnext
        have hmore : Exact front.finalSequence machine₁ pending
            (publishQueue lane quota pending (published + 1) machine₁) :=
          ih hfinal (hgap.trans hfloor) (hbehind.mono hcursor)
            fun h => hrest ⟨hvalid, hfirst, (max_eq_of_next_le hnext).symm ▸ h⟩
        exact .cons (.cons hjournal hbeyond hvalid.2 hmore.1) hmore.1 hvalid.2 hmore
      | covered hvalid hfinal =>
        have hfirst := UInt64.le_trans hvalid.2 (UInt64.le_of_lt hfinal)
        have hmore : Exact cursor machine pending
            (publishQueue lane quota pending published machine) :=
          ih hposition hfloor hbehind
            fun h => hrest ⟨hvalid, hfirst, (max_eq_of_lt_next hfinal).symm ▸ h⟩
        exact .cons hmore.1 hmore.1
          (UInt64.le_trans hvalid.2 (le_of_lt_saturatingAdd hfinal)) hmore
    · rw [publishQueue_dropped (hfloor ▸ hkept)]
      rw [beyondFloor_cons_of_dropped hkept] at hnot
      have hmore : Exact cursor machine pending
          (publishQueue lane quota pending published machine) :=
        ih hposition hfloor hbehind hnot
      exact .cons hmore.1 hmore.1 (hbehind.le_of_dropped hkept) hmore

/-- **Run.** A repeat is appended: the records do not tile. -/
theorem not_tiled_of_repeats (hposition : machine.position.finalSequence = some cursor)
    (hfloor : machine.position.gapFloor = floor) (hfaults : machine.faults = [])
    (hrepeats : Repeats cursor (beyondFloor floor (pending.take quota))) :
    ¬ Tiled cursor machine (publishQueue lane quota pending published machine).1.2 := by
  induction quota generalizing cursor pending published machine with
  | zero => exact absurd hrepeats (not_repeats_nil cursor)
  | succ quota ih =>
    rcases pending with _ | ⟨front, pending⟩
    · exact absurd hrepeats (not_repeats_nil cursor)
    rw [List.take_succ_cons] at hrepeats
    rcases hkept : floor.any fun floor => decide (front.firstSequence ≤ floor) with _ | _
    · rw [beyondFloor_cons_of_kept hkept, repeats_cons] at hrepeats
      have hjoin : ValidRange front ∧ front.firstSequence ≤ saturatingAdd cursor 1 := by
        rcases hrepeats with ⟨hzero, hle, hnext⟩ | ⟨hvalid, hle, -⟩
        · have hbefore := UInt64.le_trans hle (le_saturatingAdd cursor)
          exact ⟨⟨hzero, UInt64.le_trans hbefore hnext⟩, hbefore⟩
        · exact ⟨hvalid, hle⟩
      have hcase := publishQueue_front hposition (hfloor ▸ hkept) lane quota pending published
      generalize publishQueue lane (quota + 1) (front :: pending) published machine = outcome
        at hcase ⊢
      cases hcase with
      | invalid hvalid e => exact absurd hjoin.1 hvalid
      | missing _ hjump expected first => exact absurd hjoin.2 (UInt64.not_le.mpr hjump)
      | failed _ _ _ e machine₁ hfault _ _ =>
        rw [nextFault, hfaults] at hfault
        cases hfault
      | publish _ _ hnext machine₁ hjournal hfinal hgap hnone =>
        intro htiled
        obtain ⟨more, hmore⟩ :=
          publishQueue_appends lane quota pending (published + 1) machine₁
        obtain ⟨hbeyond, htiled⟩ := htiled.uncons hjournal hmore
        rcases hrepeats with ⟨-, hle, -⟩ | ⟨-, -, hrepeats⟩
        · rw [UInt64.le_iff_toNat_le] at hle
          omega
        · rw [max_eq_of_next_le hnext] at hrepeats
          exact ih hfinal (hgap.trans hfloor) (hnone hfaults) hrepeats htiled
      | covered _ hfinal =>
        rcases hrepeats with ⟨-, -, hnext⟩ | ⟨-, -, hrepeats⟩
        · exact absurd hnext (UInt64.not_le.mpr hfinal)
        · rw [max_eq_of_lt_next hfinal] at hrepeats
          exact ih hposition hfloor hfaults hrepeats
    · rw [publishQueue_dropped (hfloor ▸ hkept)]
      rw [beyondFloor_cons_of_dropped hkept] at hrepeats
      exact ih hposition hfloor hfaults hrepeats

theorem publishQueue_beyond (hahead : cursor < boundary)
    (hposition : machine.position.finalSequence = some cursor)
    (hfloor : machine.position.gapFloor = some boundary) (hbeyond : boundary < front.firstSequence)
    (lane : CaptureLane) (quota : Nat) (pending : List CanonicalObservationV1) (published : Nat) :
    (¬ ValidRange front ∧ ∃ e,
      publishQueue lane (quota + 1) (front :: pending) published machine
        = ((.error e, machine), front :: pending)) ∨
    (ValidRange front ∧ ∃ expected first,
      publishQueue lane (quota + 1) (front :: pending) published machine
        = ((.ok (.gapDetected expected first), machine), front :: pending)) := by
  have hkept : machine.position.gapFloor.any
      (fun floor => decide (front.firstSequence ≤ floor)) = false := by
    rw [hfloor]
    exact decide_eq_false (UInt64.not_le.mpr hbeyond)
  have hjump : ¬ front.firstSequence ≤ saturatingAdd cursor 1 := by
    intro hfirst
    rw [UInt64.le_iff_toNat_le, saturatingAdd_toNat, show (1 : UInt64).toNat = 1 from rfl] at hfirst
    rw [UInt64.lt_iff_toNat_lt] at hahead hbeyond
    omega
  have hcase := publishQueue_front hposition hkept lane quota pending published
  generalize publishQueue lane (quota + 1) (front :: pending) published machine = outcome
    at hcase ⊢
  cases hcase with
  | invalid hvalid e => exact .inl ⟨hvalid, e, rfl⟩
  | missing hvalid _ expected first => exact .inr ⟨hvalid, expected, first, rfl⟩
  | failed _ hfirst => exact absurd hfirst hjump
  | publish _ hfirst => exact absurd hfirst hjump
  | covered hvalid hfinal =>
    exact absurd (UInt64.le_trans hvalid.2 (UInt64.le_of_lt hfinal)) hjump

/-- Where the floor is beyond the cursor nothing is published, and a gap stops the call at the
    first frame beyond the floor. -/
theorem publishQueue_floor_ahead (hahead : cursor < boundary) (lane : CaptureLane) (quota : Nat)
    (pending : List CanonicalObservationV1) (published : Nat)
    (hposition : machine.position.finalSequence = some cursor)
    (hfloor : machine.position.gapFloor = some boundary) :
    (publishQueue lane quota pending published machine).1.2 = machine ∧
      ((∃ expected first, (publishQueue lane quota pending published machine).1.1
          = .ok (.gapDetected expected first)) →
        ∃ before front after,
          (publishQueue lane quota pending published machine).2 = front :: after ∧
          pending = before ++ front :: after ∧ before.length < quota ∧
          (∀ observation ∈ before, observation.firstSequence ≤ boundary) ∧
          boundary < front.firstSequence ∧ ValidRange front) := by
  induction quota generalizing pending with
  | zero => exact ⟨rfl, fun ⟨_, _, hresult⟩ => nomatch hresult⟩
  | succ quota ih =>
    rcases pending with _ | ⟨front, pending⟩
    · rw [publishQueue_nil]
      exact ⟨rfl, fun ⟨_, _, hresult⟩ => nomatch hresult⟩
    by_cases hle : front.firstSequence ≤ boundary
    · rw [publishQueue_dropped (by rw [hfloor]; exact decide_eq_true hle)]
      obtain ⟨hsame, hstops⟩ := ih pending
      refine ⟨hsame, fun hgap => ?_⟩
      obtain ⟨before, last, after, hleft, rfl, hlength, hbefore, hlast⟩ := hstops hgap
      refine ⟨front :: before, last, after, hleft, rfl, by simpa using hlength, ?_, hlast⟩
      intro observation hmem
      rcases List.mem_cons.mp hmem with rfl | hmem
      · exact hle
      · exact hbefore observation hmem
    · rcases publishQueue_beyond hahead hposition hfloor (UInt64.not_le.mp hle) lane quota pending
        published with ⟨-, e, heq⟩ | ⟨hvalid, expected, first, heq⟩
      · rw [heq]
        exact ⟨rfl, fun ⟨_, _, hresult⟩ => nomatch hresult⟩
      · rw [heq]
        exact ⟨rfl, fun _ => ⟨[], front, pending, rfl, rfl, Nat.succ_pos quota,
          fun _ hmem => absurd hmem List.not_mem_nil, UInt64.not_le.mp hle, hvalid⟩⟩

/-- Frames at or below the floor are taken until a valid frame beyond it stops the call. -/
theorem publishQueue_stops_ahead (hahead : cursor < boundary) (lane : CaptureLane)
    (before : List CanonicalObservationV1) (after : List CanonicalObservationV1)
    (hquota : before.length < quota) (published : Nat) (machine : DepthMachine)
    (hposition : machine.position.finalSequence = some cursor)
    (hfloor : machine.position.gapFloor = some boundary)
    (hbefore : ∀ observation ∈ before, observation.firstSequence ≤ boundary)
    (hbeyond : boundary < front.firstSequence) (hvalid : ValidRange front) :
    ∃ expected first, publishQueue lane quota (before ++ front :: after) published machine
      = ((.ok (.gapDetected expected first), machine), front :: after) := by
  obtain ⟨quota, rfl⟩ : ∃ more, quota = more + 1 := ⟨quota - 1, by omega⟩
  induction before generalizing quota with
  | nil =>
    rcases publishQueue_beyond hahead hposition hfloor hbeyond lane quota after published with
      ⟨hinvalid, -⟩ | ⟨-, hstops⟩
    · exact absurd hvalid hinvalid
    · exact hstops
  | cons first before ih =>
    have hle := hbefore first List.mem_cons_self
    obtain ⟨quota, rfl⟩ : ∃ more, quota = more + 1 :=
      ⟨quota - 1, by simp only [List.length_cons] at hquota; omega⟩
    rw [List.cons_append,
      publishQueue_dropped (by rw [hfloor]; exact decide_eq_true hle)]
    exact ih (fun observation hmem => hbefore observation (List.mem_cons_of_mem _ hmem)) quota
      (by simpa using hquota)

end

/-! ## Every call -/

section

variable {cursor : UInt64} {floor : Option UInt64}

open DepthMachine

/-- The frames a call may reach. -/
def inBudget (pending : List CanonicalObservationV1) : List CanonicalObservationV1 :=
  pending.take depthSwitchRecordBudget

/-- **Publication is exact** for a queue and a position, whatever journal, time and lane, iff the
    queue repeats nothing and its gap floor drops nothing ahead of the cursor. -/
theorem publishes_exactly_iff (cursor : UInt64) (digest : Option String) (floor : Option UInt64)
    (pending : List CanonicalObservationV1) :
    (∀ machine lane quota, machine.position = ⟨some cursor, digest, floor⟩ →
      Exact cursor machine pending (machine.publishPending lane quota pending)) ↔
    ¬ Repeats cursor (beyondFloor floor (inBudget pending)) ∧
      ¬ DropsAhead cursor floor (inBudget pending) := by
  constructor
  · intro hexact
    have hcall := hexact ⟨[], [], ⟨some cursor, digest, floor⟩, .primary, false⟩ .primary
      depthSwitchRecordBudget rfl
    refine ⟨fun hrepeats => not_tiled_of_repeats rfl rfl rfl hrepeats hcall.1, ?_⟩
    rintro ⟨boundary, rfl, before, front, after, hsplit, hbefore, ⟨ahead, hmem, hahead⟩, hbeyond,
      hvalid⟩
    have hpending : pending = before ++ front :: (after ++ pending.drop depthSwitchRecordBudget) := by
      rw [← List.cons_append, ← List.append_assoc, ← hsplit, inBudget, List.take_append_drop]
    have hlength : before.length < depthSwitchRecordBudget := by
      have := congrArg List.length hsplit
      rw [inBudget, List.length_take, List.length_append, List.length_cons] at this
      omega
    -- the frame between the cursor and the floor is taken
    obtain ⟨expected, first, hstops⟩ :=
      publishQueue_stops_ahead (UInt64.lt_of_lt_of_le hahead (hbefore ahead hmem)) .primary before
        (after ++ pending.drop depthSwitchRecordBudget) hlength 0
        ⟨[], [], ⟨some cursor, digest, some boundary⟩, .primary, false⟩ rfl rfl
        hbefore hbeyond hvalid
    have houtcome : DepthMachine.publishPending
        ⟨[], [], ⟨some cursor, digest, some boundary⟩, .primary, false⟩ .primary
          depthSwitchRecordBudget pending
        = ((.ok (.gapDetected expected first), ⟨[], [], ⟨some cursor, digest, some boundary⟩,
            .primary, false⟩), front :: (after ++ pending.drop depthSwitchRecordBudget)) := by
      rw [← hstops, ← hpending]
      rfl
    rw [houtcome] at hcall
    obtain ⟨removed, hremoved, hle⟩ := hcall.2 ⟨expected, first, rfl⟩
    obtain rfl := List.append_cancel_right (hpending.symm.trans hremoved)
    exact UInt64.not_le.mpr hahead (hle cursor rfl ahead hmem)
  · rintro ⟨hrepeats, hdrops⟩ machine lane quota hposition
    have hquota : max 1 (min quota depthSwitchRecordBudget) ≤ depthSwitchRecordBudget := by
      rw [depthSwitchRecordBudget]
      omega
    have hfinal : machine.position.finalSequence = some cursor := by rw [hposition]
    have hgap : machine.position.gapFloor = floor := by rw [hposition]
    unfold publishPending
    generalize max 1 (min quota depthSwitchRecordBudget) = budget at hquota
    obtain ⟨more, hmore⟩ : ∃ more, inBudget pending = pending.take budget ++ more := by
      refine ⟨(inBudget pending).drop budget, ?_⟩
      rw [← List.take_append_drop budget (inBudget pending)]
      congr 1
      · rw [inBudget, List.take_take, Nat.min_eq_left hquota]
      · rw [List.take_append_drop]
    by_cases hbehind : FloorBehind floor cursor
    · refine exact_of_not_repeats hfinal hgap hbehind fun h => hrepeats ?_
      rw [hmore, beyondFloor, List.filter_append]
      exact h.append _
    · -- nothing is published while the floor is beyond the cursor
      obtain ⟨boundary, rfl, hahead⟩ : ∃ boundary, floor = some boundary ∧ cursor < boundary := by
        simpa [FloorBehind, UInt64.not_le] using hbehind
      obtain ⟨hsame, hstops⟩ := publishQueue_floor_ahead hahead lane budget pending 0 hfinal hgap
      refine ⟨.refl (by rw [hsame]) (by rw [hsame, hfinal]), fun hresult => ?_⟩
      obtain ⟨before, front, after, hleft, heq, hlength, hbefore, hbeyond, hvalid⟩ :=
        hstops hresult
      refine ⟨before, by rw [hleft, heq], ?_⟩
      intro last hlast observation hmem
      rw [hsame, hfinal, Option.some.injEq] at hlast
      rw [← hlast]
      by_contra hnot
      obtain ⟨remaining, hremaining⟩ : ∃ remaining, budget - before.length = remaining + 1 :=
        ⟨budget - before.length - 1, by omega⟩
      refine hdrops (hmore ▸ DropsAhead.append ⟨boundary, rfl, before, front,
        after.take remaining, ?_, hbefore, ⟨observation, hmem, UInt64.not_le.mp hnot⟩, hbeyond,
        hvalid⟩ more)
      rw [heq, List.take_append, List.take_of_length_le (by omega), hremaining,
        List.take_succ_cons]

end

/-- Behind 5 a frame from 4 to 7 is appended as it is: 4 and 5 are in the journal again. -/
theorem straddle_is_appended :
    ¬ ∀ machine lane quota, machine.position = ⟨some 5, none, none⟩ →
      Exact 5 machine [sampleDepth 4 7] (machine.publishPending lane quota [sampleDepth 4 7]) := by
  intro hexact
  obtain ⟨⟨added, ranges, last, hjournal, hranges, htiles, -⟩, -⟩ :=
    hexact ⟨[], [], ⟨some 5, none, none⟩, .primary, false⟩ .primary 128 rfl
  obtain rfl : [depthObservation .primary (sampleDepth 4 7)] = added := hjournal
  rcases ranges with _ | ⟨range, rest⟩
  · cases hranges
  · obtain ⟨hrange, -⟩ := List.cons.inj hranges
    obtain rfl : ((4 : UInt64), (7 : UInt64)) = range := Option.some.inj hrange
    exact absurd htiles.1 (by decide)

end LobReplay.Arbitration
