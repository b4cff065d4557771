/-
  The depth oracle of bin/live_arbitration_verify.rs: `verify_depth_against_raw` checks the
  canonical depth frames against the depth observations of the raw lanes.

  The rebootstraps are matched to the frames by one index that moves on by one at each match. Where
  two rebootstraps come before one frame, the first of them is checked against the frame, the index
  stays at the second, and no rebootstrap after it is checked.
-/

import LobReplay.Oracle.Collect
import Mathlib.Data.List.Induction

namespace LobReplay.Oracle

open Foundation

/-! ## `verify_depth_against_raw` -/

/-- The observations of one lane: by final sequence, the first sequences and digests. -/
abbrev LaneOracle := List (UInt64 × List (UInt64 × String))

/-- `DepthOracle`: the lanes by their roots. -/
abbrev DepthOracle := List (String × LaneOracle)

def laneRoot (label : String) : String :=
  if label = "PRIMARY" then "p" else if label = "SHADOW" then "s" else label

def checkRebootstrap (rebootstraps : List DepthRebootstrap) (lane : String)
    (frame : CanonicalDepthFrame) (index next : Nat) : Result Nat :=
  match rebootstraps[next]? with
  | none => .ok next
  | some rebootstrap =>
    if rebootstrap.firstFrameIndex ≠ index then .ok next
    else if laneRoot rebootstrap.lane ≠ lane then
      err "first depth frame after DEPTH_REBOOTSTRAP names a different lane"
    else if frame.firstSequence ≤ rebootstrap.declaredLast then
      err s!"first depth frame after DEPTH_REBOOTSTRAP starts at {frame.firstSequence} but the declared snapshot boundary requires a frame strictly after {rebootstrap.declaredLast}"
    else .ok (next + 1)

def checkFrame (laneOracle : LaneOracle) (lane : String) (frame : CanonicalDepthFrame)
    (inFlight : Bool) : Result Unit :=
  match laneOracle.lookup frame.finalSequence with
  | some variants =>
    if (frame.firstSequence, frame.digest) ∈ variants ∨ inFlight = true then .ok ()
    else err s!"canonical depth frame {frame.firstSequence}-{frame.finalSequence} differs from the {lane} raw oracle (range or book digest)"
  | none =>
    if inFlight = true then .ok ()
    else err s!"canonical depth frame {frame.firstSequence}-{frame.finalSequence} is absent from the {lane} raw oracle"

/-- One turn of the loop over the frames. -/
def verifyFrame (rebootstraps : List DepthRebootstrap) (rawDepth : DepthOracle)
    (tolerantLanes : Bool) (unsealedLanes : List String) (index next : Nat)
    (frame : CanonicalDepthFrame) : Result Nat := do
  let label ← okOr frame.lane "canonical depth frame lacks its lane"
  let lane := laneRoot label
  if tolerantLanes = true ∧ ((rawDepth.lookup lane).all List.isEmpty) = true then return next
  else do
    let laneOracle ← okOr (rawDepth.lookup lane)
      s!"canonical depth frame names an unknown lane {lane}"
    let next ← checkRebootstrap rebootstraps lane frame index next
    checkFrame laneOracle lane frame (tolerantLanes && decide (lane ∈ unsealedLanes))
    return next

/-- The loop over the frames from an index on. -/
def verifyFrames (rebootstraps : List DepthRebootstrap) (rawDepth : DepthOracle)
    (tolerantLanes : Bool) (unsealedLanes : List String) :
    Nat → Nat → List CanonicalDepthFrame → Result Nat
  | _, next, [] => .ok next
  | index, next, frame :: rest => do
    let next ← verifyFrame rebootstraps rawDepth tolerantLanes unsealedLanes index next frame
    verifyFrames rebootstraps rawDepth tolerantLanes unsealedLanes (index + 1) next rest

/-- The lane holds an observation that goes on from the end of a frame. -/
def Continues (laneOracle : LaneOracle) (frame : CanonicalDepthFrame) : Prop :=
  ∃ entry ∈ laneOracle, frame.finalSequence.toNat + 1 ≤ entry.1.toNat ∧
    ∃ variant ∈ entry.2, variant.1.toNat ≤ frame.finalSequence.toNat + 1

instance (laneOracle : LaneOracle) (frame : CanonicalDepthFrame) :
    Decidable (Continues laneOracle frame) :=
  inferInstanceAs (Decidable (∃ entry ∈ laneOracle, _))

/-- The final boundary of a stream that ends with a frame. -/
def verifyLastFrame (rawDepth : DepthOracle) (frame : CanonicalDepthFrame) : Result Unit := do
  let label ← okOr frame.lane "canonical depth frame lacks its lane"
  let lane := laneRoot label
  let laneOracle ← okOr (rawDepth.lookup lane)
    s!"canonical depth frame names an unknown lane {lane}"
  match checkedAdd frame.finalSequence.toNat 1 with
  | none => .ok ()
  | some next =>
    if ∃ entry ∈ laneOracle, next ≤ entry.1.toNat ∧ ∃ variant ∈ entry.2, variant.1.toNat ≤ next then
      err s!"canonical depth stream ends at update {frame.finalSequence} but the {lane} sealed evidence continues at update {next} (final omission)"
    else .ok ()

def verifyBoundary (canonical : CanonicalObservationSet) (rawDepth : DepthOracle) : Result Unit :=
  match canonical.lastDepthEvent with
  | some .gap =>
    err "canonical depth stream ends with an unresolved gap: the post-gap continuation never published"
  | some .frame =>
    match canonical.depth.getLast? with
    | none => .error .abort
    | some last => verifyLastFrame rawDepth last
  | none =>
    match rawDepth.find? fun entry => !entry.2.isEmpty with
    | some (lane, _) =>
      err s!"canonical depth stream is empty while the {lane} sealed evidence holds trusted depth observations"
    | none => .ok ()

def verifyDepthAgainstRaw (canonical : CanonicalObservationSet) (rawDepth : DepthOracle)
    (tolerantLanes enforceFinalBoundary : Bool) (unsealedLanes : List String) : Result Unit := do
  let next ← verifyFrames canonical.depthRebootstraps rawDepth tolerantLanes unsealedLanes 0 0
    canonical.depth
  if enforceFinalBoundary = true ∧ canonical.depthRebootstraps.length ≠ next ∧
      canonical.depthRebootstraps ≠ [] ∧
      (canonical.depthRebootstraps[next]?.any fun rebootstrap =>
        decide (canonical.depth.length ≤ rebootstrap.firstFrameIndex)) = true then
    err "a DEPTH_REBOOTSTRAP carries no following depth frame to verify"
  else if enforceFinalBoundary = true then verifyBoundary canonical rawDepth
  else .ok ()

/-! ## What the oracle is for -/

/-- A rebootstrap of the journal: what it declares, and its lane. -/
structure Rebootstrap where
  declaredLast : UInt64
  lane : String
  deriving DecidableEq

/-- A frame may follow the rebootstrap: it is of its lane, and starts above the snapshot. -/
def Rebootstrap.Admits (rebootstrap : Rebootstrap) (frame : CanonicalDepthFrame) : Prop :=
  frame.lane.map laneRoot = some (laneRoot rebootstrap.lane) ∧
    rebootstrap.declaredLast < frame.firstSequence

instance (rebootstrap : Rebootstrap) (frame : CanonicalDepthFrame) :
    Decidable (rebootstrap.Admits frame) :=
  inferInstanceAs (Decidable (_ ∧ _))

/-- A frame with the rebootstraps between it and the frame before it. -/
structure FrameGroup where
  rebootstraps : List Rebootstrap
  frame : CanonicalDepthFrame
  deriving DecidableEq

/-- The frames of a journal with their rebootstraps, after rebootstraps that wait for their
    frame; and the rebootstraps no frame follows. -/
def groupsFrom (waiting : List Rebootstrap) : List DepthEvent → List FrameGroup × List Rebootstrap
  | [] => ([], waiting)
  | .gap :: rest => groupsFrom waiting rest
  | .rebootstrap declaredLast lane :: rest => groupsFrom (waiting ++ [⟨declaredLast, lane⟩]) rest
  | .frame frame :: rest =>
    let later := groupsFrom [] rest
    (⟨waiting, frame⟩ :: later.1, later.2)

/-- The frames of a journal, each with the rebootstraps since the frame before it. -/
def groups (events : List DepthEvent) : List FrameGroup := (groupsFrom [] events).1

/-- The rebootstraps no frame follows. -/
def leftover (events : List DepthEvent) : List Rebootstrap := (groupsFrom [] events).2

/-- The last frame or gap of a journal. -/
def lastObserved (events : List DepthEvent) : Option DepthEvent :=
  (events.filter fun event =>
    match event with
    | .rebootstrap _ _ => false
    | _ => true).getLast?

def Occurs (rawDepth : DepthOracle) (frame : CanonicalDepthFrame) : Prop :=
  ∃ label laneOracle variants, frame.lane = some label ∧
    rawDepth.lookup (laneRoot label) = some laneOracle ∧
    laneOracle.lookup frame.finalSequence = some variants ∧
    (frame.firstSequence, frame.digest) ∈ variants

/-- Every frame has its raw evidence, and the stream ends where the evidence ends. -/
structure Evidenced (rawDepth : DepthOracle) (events : List DepthEvent) : Prop where
  occurs : ∀ group ∈ groups events, Occurs rawDepth group.frame
  notInGap : lastObserved events ≠ some .gap
  reached : ∀ frame, lastObserved events = some (.frame frame) →
    ∀ label laneOracle, frame.lane = some label →
      rawDepth.lookup (laneRoot label) = some laneOracle → ¬ Continues laneOracle frame
  unobserved : lastObserved events = none → ∀ entry ∈ rawDepth, entry.2 = []

/-- The frames after rebootstraps are admitted by the last of these. -/
def Rebootstrapped (groups : List FrameGroup) : Prop :=
  ∀ group ∈ groups, ∀ rebootstrap, group.rebootstraps.getLast? = some rebootstrap →
    rebootstrap.Admits group.frame

/-- What a closed depth stream owes to the raw evidence. -/
def DepthStreamSound (rawDepth : DepthOracle) (events : List DepthEvent) : Prop :=
  Evidenced rawDepth events ∧ Rebootstrapped (groups events) ∧ leftover events = []

/-! ## The loop, by groups -/

/-- The entries of `depth_rebootstraps`, the first group at an index. -/
def indexed : Nat → List FrameGroup → List Rebootstrap → List DepthRebootstrap
  | index, [], left => left.map fun rebootstrap => ⟨rebootstrap.declaredLast, index, rebootstrap.lane⟩
  | index, group :: rest, left =>
    (group.rebootstraps.map fun rebootstrap =>
      ⟨rebootstrap.declaredLast, index, rebootstrap.lane⟩) ++ indexed (index + 1) rest left

/-- What the index reaches: up to the first frame with more than one rebootstrap, the first of
    the rebootstraps of each frame. -/
def Reached : List FrameGroup → Prop
  | [] => True
  | ⟨[], _⟩ :: rest => Reached rest
  | ⟨[rebootstrap], frame⟩ :: rest => rebootstrap.Admits frame ∧ Reached rest
  | ⟨first :: _ :: _, frame⟩ :: _ => first.Admits frame

def Single (groups : List FrameGroup) : Prop := ∀ group ∈ groups, group.rebootstraps.length ≤ 1

theorem foldl_addDepth (events : List DepthEvent) (waiting : List Rebootstrap)
    (set : CanonicalObservationSet) (rebootstraps : List DepthRebootstrap)
    (hset : set.depthRebootstraps = rebootstraps ++ waiting.map fun rebootstrap =>
      ⟨rebootstrap.declaredLast, set.depth.length, rebootstrap.lane⟩) :
    (events.foldl CanonicalObservationSet.addDepth set).depth =
        set.depth ++ (groupsFrom waiting events).1.map FrameGroup.frame ∧
      (events.foldl CanonicalObservationSet.addDepth set).depthRebootstraps =
        rebootstraps ++ indexed set.depth.length (groupsFrom waiting events).1
          (groupsFrom waiting events).2 := by
  induction events generalizing waiting set rebootstraps with
  | nil => exact ⟨by simp [groupsFrom], by simpa [groupsFrom, indexed] using hset⟩
  | cons event rest ih =>
    cases event with
    | gap => exact ih waiting (set.addDepth .gap) rebootstraps hset
    | rebootstrap declaredLast lane =>
      refine ih (waiting ++ [⟨declaredLast, lane⟩]) (set.addDepth (.rebootstrap declaredLast lane))
        rebootstraps ?_
      simp [CanonicalObservationSet.addDepth, hset]
    | frame frame =>
      obtain ⟨hdepth, hrebootstraps⟩ := ih [] (set.addDepth (.frame frame)) set.depthRebootstraps
        (by simp [CanonicalObservationSet.addDepth])
      have hlength : (set.addDepth (.frame frame)).depth.length = set.depth.length + 1 := by
        simp [CanonicalObservationSet.addDepth]
      rw [hlength] at hrebootstraps
      constructor
      · rw [List.foldl_cons, hdepth]
        simp [CanonicalObservationSet.addDepth, groupsFrom]
      · rw [List.foldl_cons, hrebootstraps, hset]
        simp [groupsFrom, indexed]

theorem foldl_addDepth_last (events : List DepthEvent) :
    ∀ set : CanonicalObservationSet,
    (events.foldl CanonicalObservationSet.addDepth set).lastDepthEvent =
      match lastObserved events with
      | some .gap => some .gap
      | some (.frame _) => some .frame
      | _ => set.lastDepthEvent := by
  induction events using List.reverseRecOn with
  | nil => intro set; rfl
  | append_singleton events event ih =>
    intro set
    rw [List.foldl_append, List.foldl_cons, List.foldl_nil]
    cases event with
    | gap => simp [lastObserved, CanonicalObservationSet.addDepth]
    | frame frame => simp [lastObserved, CanonicalObservationSet.addDepth]
    | rebootstrap declaredLast lane =>
      have hsame : lastObserved (events ++ [.rebootstrap declaredLast lane]) = lastObserved events := by
        simp [lastObserved]
      rw [hsame, ← ih set]
      rfl

section Loop

variable {rebootstraps : List DepthRebootstrap} {rawDepth : DepthOracle}
  {unsealedLanes : List String} {next' : Nat}
variable {lane : String} {frame : CanonicalDepthFrame} {index next : Nat}

theorem checkFrame_closed {laneOracle : LaneOracle} :
    checkFrame laneOracle lane frame false = .ok () ↔
      ∃ variants, laneOracle.lookup frame.finalSequence = some variants ∧
        (frame.firstSequence, frame.digest) ∈ variants := by
  unfold checkFrame
  cases laneOracle.lookup frame.finalSequence with
  | none => simp
  | some variants =>
    by_cases hmem : (frame.firstSequence, frame.digest) ∈ variants <;> simp [hmem]

/-- One turn of the closed loop. -/
theorem verifyFrame_closed :
    verifyFrame rebootstraps rawDepth false unsealedLanes index next frame = .ok next' ↔
      Occurs rawDepth frame ∧ ∃ label, frame.lane = some label ∧
        checkRebootstrap rebootstraps (laneRoot label) frame index next = .ok next' := by
  unfold verifyFrame
  simp only [Bool.false_eq_true, false_and, if_false, Bool.false_and, bind_eq_ok, okOr_eq_ok]
  constructor
  · rintro ⟨label, hlabel, laneOracle, horacle, n, hcheck, _, hframe, hnext⟩
    cases hnext
    obtain ⟨variants, hvariants, hmem⟩ := checkFrame_closed.mp hframe
    exact ⟨⟨label, laneOracle, variants, hlabel, horacle, hvariants, hmem⟩, label, hlabel, hcheck⟩
  · rintro ⟨⟨label, laneOracle, variants, hlabel, horacle, hvariants, hmem⟩, label', hlabel', hcheck⟩
    obtain rfl : label = label' := Option.some.inj (hlabel.symm.trans hlabel')
    exact ⟨label, hlabel, laneOracle, horacle, next', hcheck, (),
      checkFrame_closed.mpr ⟨variants, hvariants, hmem⟩, rfl⟩

theorem checkRebootstrap_here {label : String} {declaredLast : UInt64}
    (hlane : frame.lane = some label)
    (hget : rebootstraps[next]? = some ⟨declaredLast, index, lane⟩) :
    checkRebootstrap rebootstraps (laneRoot label) frame index next = .ok next' ↔
      Rebootstrap.Admits ⟨declaredLast, lane⟩ frame ∧ next' = next + 1 := by
  simp only [checkRebootstrap, hget, ne_eq, not_true_eq_false, if_false, ite_err_eq_ok, not_not,
    Except.ok.injEq, Rebootstrap.Admits, hlane, Option.map_some, Option.some.injEq, UInt64.not_le,
    and_assoc]
  rw [eq_comm (a := laneRoot lane), eq_comm (a := next + 1)]

theorem checkRebootstrap_elsewhere
    (hget : ∀ rebootstrap, rebootstraps[next]? = some rebootstrap →
      rebootstrap.firstFrameIndex ≠ index) :
    checkRebootstrap rebootstraps lane frame index next = .ok next := by
  unfold checkRebootstrap
  cases hnext : rebootstraps[next]? with
  | none => rfl
  | some rebootstrap => simp only [hget rebootstrap hnext, ne_eq, not_false_eq_true, if_true]

theorem Occurs.label (h : Occurs rawDepth frame) : ∃ label, frame.lane = some label := by
  obtain ⟨label, -, -, hlabel, -⟩ := h
  exact ⟨label, hlabel⟩

/-- **An index left behind checks nothing more.** -/
theorem verifyFrames_stuck {frames : List CanonicalDepthFrame} {index next next' : Nat}
    {rebootstrap : DepthRebootstrap} (hget : rebootstraps[next]? = some rebootstrap)
    (hbehind : rebootstrap.firstFrameIndex < index) :
    verifyFrames rebootstraps rawDepth false unsealedLanes index next frames = .ok next' ↔
      (∀ frame ∈ frames, Occurs rawDepth frame) ∧ next' = next := by
  induction frames generalizing index with
  | nil => simp [verifyFrames, eq_comm]
  | cons frame rest ih =>
    have hstay (lane : String) : checkRebootstrap rebootstraps lane frame index next = .ok next := by
      refine checkRebootstrap_elsewhere fun other hother => ?_
      rw [hget] at hother
      cases hother
      omega
    rw [verifyFrames, bind_eq_ok, List.forall_mem_cons]
    constructor
    · rintro ⟨n, hframe, hrest⟩
      obtain ⟨hoccurs, label, -, hcheck⟩ := verifyFrame_closed.mp hframe
      rw [hstay] at hcheck
      cases hcheck
      obtain ⟨hall, hnext⟩ := (ih (by omega)).mp hrest
      exact ⟨⟨hoccurs, hall⟩, hnext⟩
    · rintro ⟨⟨hoccurs, hall⟩, hnext⟩
      obtain ⟨label, hlabel⟩ := hoccurs.label
      exact ⟨next, verifyFrame_closed.mpr ⟨hoccurs, label, hlabel, hstay _⟩,
        (ih (by omega)).mpr ⟨hall, hnext⟩⟩

/-- How far the index moves. -/
def reachedCount : List FrameGroup → Nat
  | [] => 0
  | ⟨[], _⟩ :: rest => reachedCount rest
  | ⟨[_], _⟩ :: rest => reachedCount rest + 1
  | ⟨_ :: _ :: _, _⟩ :: _ => 1

theorem firstFrameIndex_indexed (groups : List FrameGroup) (left : List Rebootstrap) :
    ∀ (index : Nat), ∀ rebootstrap ∈ indexed index groups left,
      index ≤ rebootstrap.firstFrameIndex := by
  induction groups with
  | nil =>
    intro index rebootstrap hmem
    obtain ⟨r, -, rfl⟩ := List.mem_map.mp hmem
    exact Nat.le_refl _
  | cons group rest ih =>
    intro index rebootstrap hmem
    rcases List.mem_append.mp hmem with hhere | hlater
    · obtain ⟨r, -, rfl⟩ := List.mem_map.mp hhere
      exact Nat.le_refl _
    · have := ih (index + 1) rebootstrap hlater
      omega

theorem getElem?_of_drop {α : Type} {list rest : List α} {n : Nat} {a : α}
    (h : list.drop n = a :: rest) : list[n]? = some a ∧ list.drop (n + 1) = rest := by
  constructor
  · have := congrArg List.head? h
    rwa [List.head?_drop] at this
  · rw [← List.drop_drop, h, List.drop_one, List.tail_cons]

/-- **The loop, by groups.** In closed mode it accepts where every frame occurs and the
    rebootstraps the index reaches admit their frames. -/
theorem verifyFrames_groups {groups : List FrameGroup} {left : List Rebootstrap}
    {index next next' : Nat} (hdrop : rebootstraps.drop next = indexed index groups left) :
    verifyFrames rebootstraps rawDepth false unsealedLanes index next
        (groups.map FrameGroup.frame) = .ok next' ↔
      (∀ group ∈ groups, Occurs rawDepth group.frame) ∧ Reached groups ∧
        next' = next + reachedCount groups := by
  induction groups generalizing index next with
  | nil => simp [verifyFrames, Reached, reachedCount, eq_comm]
  | cons group rest ih =>
    obtain ⟨waiting, frame⟩ := group
    rw [List.map_cons, verifyFrames, bind_eq_ok, List.forall_mem_cons]
    match waiting with
    | [] =>
      -- no rebootstrap: the index stays
      rw [indexed, List.map_nil, List.nil_append] at hdrop
      have hstay (lane : String) :
          checkRebootstrap rebootstraps lane frame index next = .ok next := by
        refine checkRebootstrap_elsewhere fun other hother => ?_
        have hmem : other ∈ rebootstraps.drop next := by
          rw [← List.head?_drop] at hother
          exact List.mem_of_head? hother
        rw [hdrop] at hmem
        have := firstFrameIndex_indexed rest left (index + 1) other hmem
        omega
      constructor
      · rintro ⟨n, hframe, hrest⟩
        obtain ⟨hoccurs, label, -, hcheck⟩ := verifyFrame_closed.mp hframe
        rw [hstay] at hcheck
        cases hcheck
        obtain ⟨hall, hreached, hnext⟩ := (ih hdrop).mp hrest
        exact ⟨⟨hoccurs, hall⟩, hreached, hnext⟩
      · rintro ⟨⟨hoccurs, hall⟩, hreached, hnext⟩
        obtain ⟨label, hlabel⟩ := hoccurs.label
        exact ⟨next, verifyFrame_closed.mpr ⟨hoccurs, label, hlabel, hstay _⟩,
          (ih hdrop).mpr ⟨hall, hreached, hnext⟩⟩
    | [rebootstrap] =>
      -- one rebootstrap: it is checked, and the index moves on
      obtain ⟨hget, hlater⟩ := getElem?_of_drop hdrop
      constructor
      · rintro ⟨n, hframe, hrest⟩
        obtain ⟨hoccurs, label, hlabel, hcheck⟩ := verifyFrame_closed.mp hframe
        obtain ⟨hadmits, rfl⟩ := (checkRebootstrap_here hlabel hget).mp hcheck
        obtain ⟨hall, hreached, hnext⟩ := (ih hlater).mp hrest
        refine ⟨⟨hoccurs, hall⟩, ⟨hadmits, hreached⟩, ?_⟩
        rw [hnext, reachedCount]
        omega
      · rintro ⟨⟨hoccurs, hall⟩, ⟨hadmits, hreached⟩, hnext⟩
        obtain ⟨label, hlabel⟩ := hoccurs.label
        refine ⟨next + 1, verifyFrame_closed.mpr ⟨hoccurs, label, hlabel,
          (checkRebootstrap_here hlabel hget).mpr ⟨hadmits, rfl⟩⟩, (ih hlater).mpr
          ⟨hall, hreached, ?_⟩⟩
        rw [hnext, reachedCount]
        omega
    | first :: second :: more =>
      -- two rebootstraps: the first is checked, and the index stays at the second
      obtain ⟨hget, hlater⟩ := getElem?_of_drop hdrop
      obtain ⟨hsecond, -⟩ := getElem?_of_drop hlater
      have hrestStuck := @verifyFrames_stuck rebootstraps rawDepth unsealedLanes
        (rest.map FrameGroup.frame) (index + 1) (next + 1) next' _ hsecond (Nat.lt_succ_self index)
      have hall : (∀ frame ∈ rest.map FrameGroup.frame, Occurs rawDepth frame) ↔
          ∀ group ∈ rest, Occurs rawDepth group.frame := by
        simp
      constructor
      · rintro ⟨n, hframe, hrest⟩
        obtain ⟨hoccurs, label, hlabel, hcheck⟩ := verifyFrame_closed.mp hframe
        obtain ⟨hadmits, rfl⟩ := (checkRebootstrap_here hlabel hget).mp hcheck
        obtain ⟨hframes, hnext⟩ := hrestStuck.mp hrest
        exact ⟨⟨hoccurs, hall.mp hframes⟩, hadmits, hnext⟩
      · rintro ⟨⟨hoccurs, hframes⟩, hadmits, hnext⟩
        obtain ⟨label, hlabel⟩ := hoccurs.label
        exact ⟨next + 1, verifyFrame_closed.mpr ⟨hoccurs, label, hlabel,
          (checkRebootstrap_here hlabel hget).mpr ⟨hadmits, rfl⟩⟩,
          hrestStuck.mpr ⟨hall.mpr hframes, hnext⟩⟩

end Loop

/-! ## The boundary -/

variable {group : FrameGroup} {events : List DepthEvent} {set : CanonicalObservationSet}
  {rawDepth : DepthOracle} {rest before after : List FrameGroup} {frame : CanonicalDepthFrame}

theorem single_cons : Single (group :: rest) ↔ group.rebootstraps.length ≤ 1 ∧ Single rest :=
  List.forall_mem_cons

theorem drop_reachedCount {groups : List FrameGroup} {left : List Rebootstrap} {index : Nat}
    (h : Single groups) :
    (indexed index groups left).drop (reachedCount groups) =
      left.map fun rebootstrap =>
        ⟨rebootstrap.declaredLast, index + groups.length, rebootstrap.lane⟩ := by
  induction groups generalizing index with
  | nil => rfl
  | cons group rest ih =>
    obtain ⟨waiting, frame⟩ := group
    obtain ⟨hlength, hrest⟩ := single_cons.mp h
    match waiting, hlength with
    | [], _ =>
      rw [indexed, List.map_nil, List.nil_append, reachedCount, ih hrest, List.length_cons]
      simp only [Nat.add_assoc, Nat.add_comm 1]
    | [rebootstrap], _ =>
      rw [indexed, reachedCount, List.map_singleton, List.singleton_append, List.drop_succ_cons,
        ih hrest, List.length_cons]
      simp only [Nat.add_assoc, Nat.add_comm 1]

/-- Otherwise it ends at a rebootstrap whose frame has passed. -/
theorem getElem?_reachedCount {groups : List FrameGroup} {left : List Rebootstrap} {index : Nat}
    (h : ¬ Single groups) :
    ∃ rebootstrap, (indexed index groups left)[reachedCount groups]? = some rebootstrap ∧
      rebootstrap.firstFrameIndex < index + groups.length := by
  induction groups generalizing index with
  | nil => exact absurd (by simp [Single]) h
  | cons group rest ih =>
    obtain ⟨waiting, frame⟩ := group
    rw [single_cons] at h
    match waiting with
    | [] =>
      obtain ⟨rebootstrap, hget, hlt⟩ := @ih (index + 1) fun hrest => h ⟨by simp, hrest⟩
      refine ⟨rebootstrap, ?_, by rw [List.length_cons]; omega⟩
      rwa [indexed, List.map_nil, List.nil_append, reachedCount]
    | [_] =>
      obtain ⟨rebootstrap, hget, hlt⟩ := @ih (index + 1) fun hrest => h ⟨by simp, hrest⟩
      refine ⟨rebootstrap, ?_, by rw [List.length_cons]; omega⟩
      rwa [indexed, List.map_singleton, List.singleton_append, reachedCount,
        List.getElem?_cons_succ]
    | _ :: second :: _ =>
      refine ⟨⟨second.declaredLast, index, second.lane⟩, rfl, ?_⟩
      exact Nat.lt_add_of_pos_right (by simp)

theorem foldl_addDepth_getLast? (h : lastObserved events = some (.frame frame)) :
    (events.foldl CanonicalObservationSet.addDepth set).depth.getLast? = some frame := by
  induction events using List.reverseRecOn with
  | nil => cases h
  | append_singleton events event ih =>
    rw [List.foldl_append, List.foldl_cons, List.foldl_nil]
    cases event with
    | gap => simp [lastObserved] at h
    | frame last =>
      obtain rfl : last = frame := by simpa [lastObserved] using h
      simp [CanonicalObservationSet.addDepth]
    | rebootstrap declaredLast lane => exact ih (by simpa [lastObserved] using h)

theorem verifyLastFrame_iff (h : Occurs rawDepth frame) :
    verifyLastFrame rawDepth frame = .ok () ↔ ∀ label laneOracle, frame.lane = some label →
      rawDepth.lookup (laneRoot label) = some laneOracle → ¬ Continues laneOracle frame := by
  obtain ⟨label, laneOracle, variants, hlabel, horacle, -, -⟩ := h
  have hall : (∀ label laneOracle, frame.lane = some label →
      rawDepth.lookup (laneRoot label) = some laneOracle → ¬ Continues laneOracle frame) ↔
      ¬ Continues laneOracle frame := by
    constructor
    · intro hnone
      exact hnone label laneOracle hlabel horacle
    · intro hnone label' laneOracle' hlabel' horacle'
      obtain rfl : label = label' := Option.some.inj (hlabel.symm.trans hlabel')
      obtain rfl : laneOracle = laneOracle' := Option.some.inj (horacle.symm.trans horacle')
      exact hnone
  rw [hall, verifyLastFrame, hlabel]
  simp only [okOr, bind, Except.bind, horacle]
  cases hnext : checkedAdd frame.finalSequence.toNat 1 with
  | none =>
    -- no observation goes on from the last sequence there is
    have hmax : u64Max < frame.finalSequence.toNat + 1 := by
      by_contra hle
      rw [checkedAdd_eq (Nat.le_of_not_lt hle)] at hnext
      cases hnext
    have hnone : ¬ Continues laneOracle frame := by
      rintro ⟨entry, -, hle, -⟩
      have := toNat_le_u64Max entry.1
      omega
    simp [hnone]
  | some next =>
    have hvalue : next = frame.finalSequence.toNat + 1 := by
      unfold checkedAdd at hnext
      split at hnext
      · exact (Option.some.inj hnext).symm
      · cases hnext
    rw [hvalue]
    simp only [ite_err_eq_ok, and_true, Continues]

/-- The final boundary is what the evidence asks of the end of the stream. -/
theorem verifyBoundary_iff
    (hset : set.depthPart = (events.foldl CanonicalObservationSet.addDepth {}).depthPart)
    (hoccurs : ∀ group ∈ groups events, Occurs rawDepth group.frame) :
    verifyBoundary set rawDepth = .ok () ↔ Evidenced rawDepth events := by
  obtain ⟨hdepth, -, hlast⟩ : set.depth = (events.foldl CanonicalObservationSet.addDepth {}).depth ∧
      set.depthRebootstraps =
        (events.foldl CanonicalObservationSet.addDepth {}).depthRebootstraps ∧
      set.lastDepthEvent = (events.foldl CanonicalObservationSet.addDepth {}).lastDepthEvent := by
    simpa [CanonicalObservationSet.depthPart] using hset
  rw [foldl_addDepth_last] at hlast
  unfold verifyBoundary
  cases hobserved : lastObserved events with
  | none =>
    rw [hobserved] at hlast
    rw [hlast]
    have hfind : (rawDepth.find? fun entry => !entry.2.isEmpty) = none ↔
        ∀ entry ∈ rawDepth, entry.2 = [] := by
      simp
    constructor
    · intro h
      have hnone : (rawDepth.find? fun entry => !entry.2.isEmpty) = none := by
        cases hget : rawDepth.find? fun entry => !entry.2.isEmpty with
        | none => rfl
        | some entry =>
          simp only [hget] at h
          exact absurd h err_ne_ok
      exact ⟨hoccurs, by simp [hobserved], by simp [hobserved], fun _ => hfind.mp hnone⟩
    · intro h
      simp only [hfind.mpr (h.unobserved hobserved)]
  | some event =>
    rw [hobserved] at hlast
    cases event with
    | gap =>
      rw [hlast]
      constructor
      · intro h
        exact absurd h err_ne_ok
      · intro h
        exact absurd hobserved h.notInGap
    | rebootstrap declaredLast lane =>
      have := List.mem_filter.mp (List.mem_of_getLast? hobserved)
      simp at this
    | frame frame =>
      rw [hlast]
      have hfinal : set.depth.getLast? = some frame := by
        rw [hdepth, foldl_addDepth_getLast? hobserved]
      have hmem : Occurs rawDepth frame := by
        have hgroups := (foldl_addDepth events [] {} [] rfl).1
        rw [← hdepth] at hgroups
        rw [hgroups, List.nil_append] at hfinal
        obtain ⟨group, hgroup, rfl⟩ := List.mem_map.mp (List.mem_of_getLast? hfinal)
        exact hoccurs group hgroup
      simp only [hfinal, verifyLastFrame_iff hmem]
      constructor
      · intro h
        refine ⟨hoccurs, by simp [hobserved], ?_, by simp [hobserved]⟩
        intro frame' hframe'
        rw [hobserved] at hframe'
        cases hframe'
        exact h
      · intro h
        exact h.reached frame hobserved

/-! ## The closed oracle -/

theorem verifyDepth_closed {unsealedLanes : List String}
    (hset : set.depthPart = (events.foldl CanonicalObservationSet.addDepth {}).depthPart) :
    verifyDepthAgainstRaw set rawDepth false true unsealedLanes = .ok () ↔
      Evidenced rawDepth events ∧ Reached (groups events) ∧
        (Single (groups events) → leftover events = []) := by
  obtain ⟨hdepth, hrebootstraps, -⟩ :
      set.depth = (events.foldl CanonicalObservationSet.addDepth {}).depth ∧
      set.depthRebootstraps =
        (events.foldl CanonicalObservationSet.addDepth {}).depthRebootstraps ∧
      set.lastDepthEvent = (events.foldl CanonicalObservationSet.addDepth {}).lastDepthEvent := by
    simpa [CanonicalObservationSet.depthPart] using hset
  obtain ⟨hframes, hindexed⟩ := foldl_addDepth events [] {} [] rfl
  rw [← hdepth, List.nil_append] at hframes
  rw [← hrebootstraps, List.nil_append] at hindexed
  have hframes : set.depth = (groups events).map FrameGroup.frame := hframes
  have hindexed : set.depthRebootstraps = indexed 0 (groups events) (leftover events) := hindexed
  have hloop (next : Nat) := @verifyFrames_groups set.depthRebootstraps rawDepth unsealedLanes
    (groups events) (leftover events) 0 0 next (by rw [List.drop_zero, hindexed])
  rw [← hframes] at hloop
  -- the check for a rebootstrap without a frame sees the ones left over, or none
  have hwaiting : (set.depthRebootstraps.length ≠ reachedCount (groups events) ∧
      set.depthRebootstraps ≠ [] ∧
      (set.depthRebootstraps[reachedCount (groups events)]?.any fun rebootstrap =>
        decide (set.depth.length ≤ rebootstrap.firstFrameIndex)) = true) ↔
      Single (groups events) ∧ leftover events ≠ [] := by
    have hlength : set.depth.length = (groups events).length := by rw [hframes, List.length_map]
    by_cases hsingle : Single (groups events)
    · have hdrop := @drop_reachedCount (groups events) (leftover events) 0 hsingle
      rw [← hindexed] at hdrop
      cases hleft : leftover events with
      | nil =>
        rw [hleft, List.map_nil] at hdrop
        have hnone : set.depthRebootstraps[reachedCount (groups events)]? = none := by
          rw [← List.head?_drop, hdrop, List.head?_nil]
        simp [hnone]
      | cons rebootstrap rest =>
        rw [hleft, List.map_cons] at hdrop
        obtain ⟨hget, -⟩ := getElem?_of_drop hdrop
        have hlt := (List.getElem?_eq_some_iff.mp hget).1
        have hne : set.depthRebootstraps ≠ [] := List.ne_nil_of_length_pos (by omega)
        have hpast : reachedCount (groups events) ≠ set.depthRebootstraps.length := by omega
        simp [hget, hsingle, hne, hlength, hpast.symm]
    · obtain ⟨rebootstrap, hget, hlt⟩ := @getElem?_reachedCount (groups events)
        (leftover events) 0 hsingle
      rw [← hindexed] at hget
      simp [hget, hsingle, hlength]
      omega
  unfold verifyDepthAgainstRaw
  rw [bind_eq_ok]
  simp only [true_and, if_true, ite_err_eq_ok]
  constructor
  · rintro ⟨next, hnext, hcheck, hboundary⟩
    obtain ⟨hoccurs, hreached, rfl⟩ := (hloop next).mp hnext
    rw [Nat.zero_add, hwaiting, not_and, not_not] at hcheck
    exact ⟨(verifyBoundary_iff hset hoccurs).mp hboundary, hreached, hcheck⟩
  · rintro ⟨hevidenced, hreached, hleft⟩
    refine ⟨reachedCount (groups events),
      (hloop _).mpr ⟨hevidenced.occurs, hreached, (Nat.zero_add _).symm⟩, ?_,
      (verifyBoundary_iff hset hevidenced.occurs).mpr hevidenced⟩
    rw [hwaiting, not_and, not_not]
    exact hleft

theorem rebootstrapped_cons :
    Rebootstrapped (group :: rest) ↔
      (∀ rebootstrap, group.rebootstraps.getLast? = some rebootstrap →
        rebootstrap.Admits group.frame) ∧ Rebootstrapped rest :=
  List.forall_mem_cons

theorem rebootstrapped_append :
    Rebootstrapped (before ++ after) ↔ Rebootstrapped before ∧ Rebootstrapped after :=
  List.forall_mem_append

theorem reached_append {before after : List FrameGroup} (h : Single before) :
    Reached (before ++ after) ↔ Rebootstrapped before ∧ Reached after := by
  induction before with
  | nil => simp [Rebootstrapped]
  | cons group rest ih =>
    obtain ⟨waiting, frame⟩ := group
    obtain ⟨hlength, hrest⟩ := single_cons.mp h
    match waiting, hlength with
    | [], _ =>
      rw [List.cons_append, Reached, ih hrest, rebootstrapped_cons]
      simp
    | [rebootstrap], _ =>
      rw [List.cons_append, Reached, ih hrest, rebootstrapped_cons, and_assoc]
      simp

theorem single_or_split (groups : List FrameGroup) :
    Single groups ∨ ∃ before first second more frame after,
      groups = before ++ ⟨first :: second :: more, frame⟩ :: after ∧ Single before := by
  induction groups with
  | nil => exact .inl (by simp [Single])
  | cons group rest ih =>
    obtain ⟨waiting, frame⟩ := group
    match waiting with
    | first :: second :: more => exact .inr ⟨[], first, second, more, frame, rest, rfl, by simp [Single]⟩
    | [] | [_] =>
      rcases ih with hsingle | ⟨before, first, second, more, f, after, rfl, hsingle⟩
      · exact .inl (single_cons.mpr ⟨by simp, hsingle⟩)
      · exact .inr ⟨_ :: before, first, second, more, f, after, rfl,
          single_cons.mpr ⟨by simp, hsingle⟩⟩

/-- That group is found once. -/
theorem split_unique {before' after' : List FrameGroup} {group' : FrameGroup}
    (h : before ++ group :: after = before' ++ group' :: after') (hbefore : Single before)
    (hbefore' : Single before') (hgroup : 1 < group.rebootstraps.length)
    (hgroup' : 1 < group'.rebootstraps.length) :
    before = before' ∧ group = group' ∧ after = after' := by
  induction before generalizing before' with
  | nil =>
    cases before' with
    | nil =>
      rw [List.nil_append, List.nil_append, List.cons.injEq] at h
      exact ⟨rfl, h⟩
    | cons g rest =>
      rw [List.nil_append, List.cons_append, List.cons.injEq] at h
      have := (single_cons.mp hbefore').1
      rw [← h.1] at this
      omega
  | cons g rest ih =>
    cases before' with
    | nil =>
      rw [List.nil_append, List.cons_append, List.cons.injEq] at h
      have := (single_cons.mp hbefore).1
      rw [h.1] at this
      omega
    | cons g' rest' =>
      rw [List.cons_append, List.cons_append, List.cons.injEq] at h
      obtain ⟨hrest, hsame⟩ := ih h.2 (single_cons.mp hbefore).2 (single_cons.mp hbefore').2
      exact ⟨by rw [h.1, hrest], hsame⟩

/-- At the first frame with more than one rebootstrap, where nothing else refuses the stream,
    the first of them admits the frame exactly when the last one does, every later frame is
    admitted and no rebootstrap is left over. -/
def FirstSpeaksForAll (rawDepth : DepthOracle) (events : List DepthEvent) : Prop :=
  ∀ before first second more frame after,
    groups events = before ++ ⟨first :: second :: more, frame⟩ :: after → Single before →
    Evidenced rawDepth events → Rebootstrapped before →
    (first.Admits frame ↔
      (∀ last, (first :: second :: more).getLast? = some last → last.Admits frame) ∧
        Rebootstrapped after ∧ leftover events = [])

/-- **Main theorem.** The closed depth oracle accepts exactly the sound streams if and only if
    no frame follows several rebootstraps, or the first of these speaks for all that the
    index does not reach. -/
theorem closed_depth_oracle_exact_iff (fromSlice : Bytes → Except String Value)
    (boundToLast : Bool) (journals : List Bytes) (set : CanonicalObservationSet)
    (rawDepth : DepthOracle) (unsealedLanes : List String)
    (h : collectJournals fromSlice boundToLast journals = .ok set) :
    (verifyDepthAgainstRaw set rawDepth false true unsealedLanes = .ok () ↔
        DepthStreamSound rawDepth (depthEvents fromSlice boundToLast journals)) ↔
      FirstSpeaksForAll rawDepth (depthEvents fromSlice boundToLast journals) := by
  rw [verifyDepth_closed (collectJournals_depthPart h)]
  generalize depthEvents fromSlice boundToLast journals = events
  unfold DepthStreamSound FirstSpeaksForAll
  rcases single_or_split (groups events) with
    hsingle | ⟨before, first, second, more, frame, after, hgroups, hbefore⟩
  · -- every rebootstrap is reached
    have hreached : Reached (groups events) ↔ Rebootstrapped (groups events) := by
      have := @reached_append (groups events) [] hsingle
      rwa [List.append_nil, Reached, and_true] at this
    constructor
    · intro _ before first second more frame after hgroups
      have := hsingle ⟨first :: second :: more, frame⟩ (by rw [hgroups]; simp)
      simp at this
    · intro _
      rw [hreached]
      simp [hsingle]
  · have hmany : ¬ Single (groups events) := by
      intro hsingle
      have := hsingle ⟨first :: second :: more, frame⟩ (by rw [hgroups]; simp)
      simp at this
    have hcode : Reached (groups events) ↔ Rebootstrapped before ∧ first.Admits frame := by
      rw [hgroups, reached_append hbefore, Reached]
    have hspec : Rebootstrapped (groups events) ↔ Rebootstrapped before ∧
        (∀ last, (first :: second :: more).getLast? = some last → last.Admits frame) ∧
          Rebootstrapped after := by
      rw [hgroups, rebootstrapped_append, rebootstrapped_cons]
    rw [hcode, hspec]
    constructor
    · intro hagree before' first' second' more' frame' after' hgroups' hbefore' hevidenced hpassed
      -- the first such frame is found once
      obtain ⟨rfl, hgroup, rfl⟩ : before = before' ∧
          (⟨first :: second :: more, frame⟩ : FrameGroup) = ⟨first' :: second' :: more', frame'⟩ ∧
          after = after' :=
        split_unique (hgroups.symm.trans hgroups') hbefore hbefore' (by simp) (by simp)
      cases hgroup
      constructor
      · intro hadmits
        obtain ⟨-, ⟨-, hlast, hafter⟩, hleft⟩ :=
          hagree.mp ⟨hevidenced, ⟨hpassed, hadmits⟩, fun hsingle => absurd hsingle hmany⟩
        exact ⟨hlast, hafter, hleft⟩
      · rintro ⟨hlast, hafter, hleft⟩
        exact (hagree.mpr ⟨hevidenced, ⟨hpassed, hlast, hafter⟩, hleft⟩).2.1.2
    · intro hspeaks
      constructor
      · rintro ⟨hevidenced, ⟨hpassed, hadmits⟩, -⟩
        obtain ⟨hlast, hafter, hleft⟩ :=
          (hspeaks before first second more frame after hgroups hbefore hevidenced hpassed).mp hadmits
        exact ⟨hevidenced, ⟨hpassed, hlast, hafter⟩, hleft⟩
      · rintro ⟨hevidenced, ⟨hpassed, hlast, hafter⟩, hleft⟩
        have hadmits :=
          (hspeaks before first second more frame after hgroups hbefore hevidenced hpassed).mpr
            ⟨hlast, hafter, hleft⟩
        exact ⟨hevidenced, ⟨hpassed, hadmits⟩, fun hsingle => absurd hsingle hmany⟩

/-! ## Sample journals -/

def sampleEnvelope (payload : List (String × Value)) : Value :=
  .object [("body", .object [("payload", .object payload)])]

/-- A `DEPTH_REBOOTSTRAP`. -/
def sampleRebootstrap (declaredLast : UInt64) (lane : String) : Value :=
  sampleEnvelope [("event", .string "DEPTH_REBOOTSTRAP"), ("lane", .string lane),
    ("snapshot_last_update_id", .nat declaredLast)]

/-- A `DEPTH_OBSERVATION` of the primary lane. -/
def sampleFrame (first final : UInt64) : Value :=
  sampleEnvelope [("event", .string "DEPTH_OBSERVATION"), ("final_sequence", .nat final),
    ("first_sequence", .nat first), ("lane", .string "PRIMARY"),
    ("observation_sha256", .string "d")]

def sampleJournal (envelopes : List Value) : Bytes := unlines (envelopes.map Value.toVec)

/-- The parser on the lines of these envelopes. -/
def sampleFromSlice (envelopes : List Value) (line : Bytes) : Except String Value :=
  match envelopes.find? fun envelope => envelope.toVec = line with
  | some envelope => .ok envelope
  | none => .error "expected value"

/-- The raw depth of the primary lane: one observation, 6 to 8. -/
def sampleOracle : DepthOracle := [("p", [(8, [(6, "d")])]), ("s", [])]

def rebootstrappedOnce : List Value := [sampleRebootstrap 5 "PRIMARY", sampleFrame 6 8]

/-- The canonical set of a journal whose frame is the sample frame. -/
def sampleSet (rebootstraps : List DepthRebootstrap) : CanonicalObservationSet :=
  { depth := [⟨6, 8, "d", some "PRIMARY"⟩]
    depthRebootstraps := rebootstraps
    lastDepthEvent := some .frame }

theorem rebootstrappedOnce_agrees :
    collectJournals (sampleFromSlice rebootstrappedOnce) false [sampleJournal rebootstrappedOnce] =
        .ok (sampleSet [⟨5, 0, "PRIMARY"⟩]) ∧
      ((verifyDepthAgainstRaw (sampleSet [⟨5, 0, "PRIMARY"⟩]) sampleOracle false true [] = .ok () ↔
          DepthStreamSound sampleOracle (depthEvents (sampleFromSlice rebootstrappedOnce) false
            [sampleJournal rebootstrappedOnce])) ↔
        FirstSpeaksForAll sampleOracle (depthEvents (sampleFromSlice rebootstrappedOnce) false
          [sampleJournal rebootstrappedOnce])) := by
  have hcollected : collectJournals (sampleFromSlice rebootstrappedOnce) false
      [sampleJournal rebootstrappedOnce] = .ok (sampleSet [⟨5, 0, "PRIMARY"⟩]) := by
    decide +kernel
  exact ⟨hcollected, closed_depth_oracle_exact_iff _ _ _ _ sampleOracle [] hcollected⟩

/-- A rebootstrap of each lane, and then a frame of the primary one. -/
def rebootstrappedTwice : List Value :=
  [sampleRebootstrap 5 "PRIMARY", sampleRebootstrap 10 "SHADOW", sampleFrame 6 8]

/-- **Counterexample.** The frame is below the snapshot of the last rebootstrap, and of another
    lane; the oracle accepts it. -/
theorem second_rebootstrap_is_unchecked :
    collectJournals (sampleFromSlice rebootstrappedTwice) false [sampleJournal rebootstrappedTwice] =
        .ok (sampleSet [⟨5, 0, "PRIMARY"⟩, ⟨10, 0, "SHADOW"⟩]) ∧
      verifyDepthAgainstRaw (sampleSet [⟨5, 0, "PRIMARY"⟩, ⟨10, 0, "SHADOW"⟩]) sampleOracle false true
        [] = .ok () ∧
      ¬ DepthStreamSound sampleOracle (depthEvents (sampleFromSlice rebootstrappedTwice) false
        [sampleJournal rebootstrappedTwice]) := by
  have hevents : depthEvents (sampleFromSlice rebootstrappedTwice) false
      [sampleJournal rebootstrappedTwice] = [.rebootstrap 5 "PRIMARY", .rebootstrap 10 "SHADOW",
        .frame ⟨6, 8, "d", some "PRIMARY"⟩] := by
    decide +kernel
  refine ⟨by decide +kernel, by decide +kernel, ?_⟩
  rw [hevents]
  rintro ⟨-, hrebootstrapped, -⟩
  have hadmits : Rebootstrap.Admits ⟨10, "SHADOW"⟩ ⟨6, 8, "d", some "PRIMARY"⟩ :=
    hrebootstrapped _ List.mem_cons_self _ rfl
  exact absurd hadmits (by decide)

end LobReplay.Oracle
