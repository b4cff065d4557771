/-
  How deep and how long `process_inbound` runs. `dispatchCost` and `drainCost` are `dispatch` and
  its drain loop with a count: the depth of nested calls of `dispatch`, and the turns of each replay
  loop.

  `Walk` follows the pending messages from a cursor on. A handled message stays in `pending_` until
  the call that takes it has returned, so the walk keeps those it is still holding; coming back to
  one of them is where the recursion has no end or an entry is erased twice.
-/

import LobReplay.Fix.Cursor
import Mathlib.Data.List.Perm.Subperm

namespace LobReplay.Fix

open Foundation Std

/-! ## Counting calls and turns -/

/-- What a call costs: how deep `dispatch` is nested in it, and the turns of each replay loop. -/
structure Cost where
  depth : Nat := 0
  turns : List Nat := []

/-- Turns of `for (uint32_t s = begin; s <= end; ++s)`. -/
def replayTurns (first last : UInt32) : Nat := last.toNat + 1 - first.toNat

def turnsOf (m : FixMessage) : List Nat :=
  if msgType m = asBytes "2" then [replayTurns (beginSeqNo m) (endSeqNo m)] else []

namespace Exchange

mutual

/-- `dispatch`, counted. -/
def dispatchCost : Nat → FixMessage → Exchange → Option (Exchange × Cost)
  | 0, _, _ => none
  | fuel + 1, m, x =>
    if msgType m = asBytes "A" then some (x.loggedOn m, {})
    else if msgType m = asBytes "5" then some (x.loggedOut m, {})
    else if x.session.state ≠ .loggedOn then some (x, {})
    else if seqNum m = x.session.nextIn then
      if ¬ handled (msgType m) then some (x.taken, {})
      else (x.taken.answer m).bind fun z =>
        (drainCost fuel z).map fun r => (r.1, { r.2 with turns := turnsOf m ++ r.2.turns })
    else if x.session.nextIn < seqNum m then some (x.gapDetected m, {})
    else some (x, {})

/-- The drain loop, counted. -/
def drainCost : Nat → Exchange → Option (Exchange × Cost)
  | 0, _ => none
  | fuel + 1, x =>
    match x.session.pending[x.session.nextIn]? with
    | none => some (x, {})
    | some m =>
      (dispatchCost fuel m x).bind fun r =>
        if x.session.nextIn ∈ r.1.session.pending then
          (drainCost fuel (r.1.erased x.session.nextIn)).map fun t =>
            (t.1, ⟨max (r.2.depth + 1) t.2.depth, r.2.turns ++ t.2.turns⟩)
        else none

end

/-- `process_inbound`, counted. -/
def processInboundCost (fuel : Nat) (x : Exchange) (raw : Bytes) : Option (Exchange × Cost) :=
  match parse raw with
  | .error _ =>
    some ({ x with session := { x.session with malformed := x.session.malformed + 1 } }, {})
  | .ok m => dispatchCost fuel m x

/-- The count changes nothing; by induction on the fuel of the two loops. -/
theorem map_cost (fuel : Nat) :
    (∀ m x, (dispatchCost fuel m x).map Prod.fst = dispatch fuel m x) ∧
    ∀ x, (drainCost fuel x).map Prod.fst = drain fuel x := by
  induction fuel with
  | zero => exact ⟨fun _ _ => rfl, fun _ => rfl⟩
  | succ fuel ih =>
    constructor
    · intro m x
      rw [dispatchCost, dispatch]
      split
      · rfl
      split
      · rfl
      split
      · rfl
      split
      · split
        · rfl
        · cases x.taken.answer m with
          | none => rfl
          | some z =>
            rw [Option.bind_some, Option.bind_some, Option.map_map, ← ih.2]
            rfl
      split
      · rfl
      · rfl
    · intro x
      cases hget : x.session.pending[x.session.nextIn]? with
      | none =>
        rw [drainCost, drain, hget]
        rfl
      | some m =>
        simp only [drainCost, drain, hget]
        rw [← ih.1]
        cases dispatchCost fuel m x with
        | none => rfl
        | some r =>
          rw [Option.bind_some, Option.map_some, Option.bind_some]
          split
          · rw [Option.map_map]
            exact ih.2 _
          · rfl

theorem map_processInboundCost (fuel : Nat) (x : Exchange) (raw : Bytes) :
    (x.processInboundCost fuel raw).map Prod.fst = x.processInbound fuel raw := by
  rw [processInboundCost, processInbound]
  cases parse raw with
  | error status => rfl
  | ok m => exact (map_cost fuel).1 m x

end Exchange

/-! ## Bounded runs -/

/-- The size of the stored range: from the first number of `outbound_store_` to the last. -/
def storedRange (store : Pending) : Nat :=
  match store.minKey?, store.maxKey? with
  | some first, some last => replayTurns first last
  | _, _ => 0

/-- `process_inbound` returns: no nested `dispatch` is deeper than the number of pending messages
    and no replay has more turns than the stored range is long. -/
def Terminates (s : FixSession) (raw : Bytes) : Prop :=
  ∃ fuel y cost, s.start.processInboundCost fuel raw = some (y, cost) ∧
    cost.depth ≤ s.pending.size ∧ ∀ turns ∈ cost.turns, turns ≤ storedRange s.outboundStore

/-- A ResendRequest asks for no more numbers than the stored range is long, and not up to the
    largest. -/
def Answerable (store : Pending) (m : FixMessage) : Prop :=
  ReplayEnds m ∧ ∀ turns ∈ turnsOf m, turns ≤ storedRange store

/-- From the cursor `c` the pending messages lead to a number that is not pending. `held` are the
    numbers of the handled messages on the way: each is met once. -/
inductive Walk (store : Pending) : Pending → List UInt32 → UInt32 → Prop
  | stop {pending : Pending} {held : List UInt32} {c : UInt32} :
      c ∉ pending → Walk store pending held c
  | unhandled {pending : Pending} {held : List UInt32} {c : UInt32} {m : FixMessage} :
      pending[c]? = some m → ¬ handled (msgType m) = true →
      Walk store (pending.erase c) held (target m) → Walk store pending held c
  | handled {pending : Pending} {held : List UInt32} {c : UInt32} {m : FixMessage} :
      pending[c]? = some m → handled (msgType m) = true → c ∉ held → Answerable store m →
      Walk store pending (c :: held) (target m) → Walk store pending held c

/-- What the message must be like for the call to be bounded: nothing, unless it is taken in
    order and of a type that is handled. -/
def Tame (s : FixSession) (m : FixMessage) : Prop :=
  msgType m ≠ asBytes "A" → msgType m ≠ asBytes "5" → s.state = .loggedOn →
    seqNum m = s.nextIn → handled (msgType m) = true →
      Answerable s.outboundStore m ∧ Walk s.outboundStore s.pending [] (target m)

/-! ## One turn of the drain -/

namespace Exchange

variable {m : FixMessage} {x y : Exchange} {fuel : Nat}

theorem answer_store (h : x.answer m = some y) :
    y.session.outboundStore = x.session.outboundStore := by
  rw [answer] at h
  split at h
  · cases h
    rfl
  split at h
  · obtain ⟨wires, -, rfl⟩ := Option.map_eq_some_iff.mp h
    rfl
  split at h
  · cases h
    rfl
  · cases h
    rfl

theorem replayEnds_of_answer (h : x.answer m = some y) : ReplayEnds m := by
  intro htype hle hmax
  rw [answer, if_neg (by rw [htype]; decide), if_pos htype, FixSession.replay,
    if_neg (UInt32.not_lt.mpr hle), if_pos hmax] at h
  cases h

/-- The session between `++next_in_` with its answer and the drain. -/
structure Took (m : FixMessage) (x z : Exchange) : Prop where
  cursor : z.session.nextIn = target m
  state : z.session.state = x.session.state
  pending : z.session.pending = x.session.pending
  store : z.session.outboundStore = x.session.outboundStore

theorem took_of_answer {z : Exchange} (hseq : seqNum m = x.session.nextIn)
    (h : x.taken.answer m = some z) : Took m x z := by
  obtain ⟨hcursor, hstate, hpending, -⟩ := answer_eq_some hseq h
  exact ⟨hcursor, hstate, hpending, (answer_store h).trans rfl⟩

theorem took_of_not_handled (hseq : seqNum m = x.session.nextIn)
    (h : ¬ handled (msgType m) = true) : Took m x x.taken where
  cursor := by
    rw [target_of_not_handled h, hseq]
    rfl
  state := rfl
  pending := rfl
  store := rfl

/-- **Step.** A message taken in order, counted. -/
theorem dispatchCost_in_order (hm : Sequenced m) (hstate : x.session.state = .loggedOn)
    (hseq : seqNum m = x.session.nextIn) (fuel : Nat) :
    dispatchCost (fuel + 1) m x =
      if ¬ handled (msgType m) then some (x.taken, {})
      else (x.taken.answer m).bind fun z =>
        (drainCost fuel z).map fun r => (r.1, { r.2 with turns := turnsOf m ++ r.2.turns }) := by
  rw [dispatchCost, if_neg hm.1, if_neg hm.2, if_neg (not_not.mpr hstate), if_pos hseq]

theorem drainCost_of_not_mem (h : x.session.nextIn ∉ x.session.pending) :
    drainCost (fuel + 1) x = some (x, {}) := by
  have hnone : x.session.pending[x.session.nextIn]? = none := by
    rw [ExtTreeMap.getElem?_eq_none h]
  rw [drainCost, hnone]

/-- **Inversion.** Everything one turn of the drain can do. -/
theorem drainCost_cases {cost : Cost} (hkeyed : Keyed x.session.pending)
    (hstate : x.session.state = .loggedOn) (h : drainCost fuel x = some (y, cost)) :
    (x.session.nextIn ∉ x.session.pending ∧ y = x) ∨
    ∃ m z w inner rest, x.session.pending[x.session.nextIn]? = some m ∧ Took m x z ∧
      ((¬ handled (msgType m) = true ∧ w = z) ∨
        (handled (msgType m) = true ∧ ReplayEnds m ∧ ∃ fuel' < fuel,
          drainCost fuel' z = some (w, inner) ∧
          ∀ t ∈ turnsOf m ++ inner.turns, t ∈ cost.turns)) ∧
      x.session.nextIn ∈ w.session.pending ∧ ∃ fuel' < fuel,
        drainCost fuel' (w.erased x.session.nextIn) = some (y, rest) ∧
        ∀ t ∈ rest.turns, t ∈ cost.turns := by
  rcases fuel with _ | fuel
  · cases h
  rw [drainCost] at h
  split at h
  · rename_i hnone
    cases h
    refine Or.inl ⟨fun hmem => ?_, rfl⟩
    obtain ⟨m, hm⟩ := mem_pending_iff.mp hmem
    rw [hnone] at hm
    cases hm
  rename_i m hget
  obtain ⟨⟨w, cw⟩, hdispatch, h⟩ := Option.bind_eq_some_iff.mp h
  split at h
  swap
  · cases h
  rename_i hmem
  obtain ⟨⟨y', rest⟩, hrest, heq⟩ := Option.map_eq_some_iff.mp h
  obtain ⟨rfl, rfl⟩ := Prod.mk.inj heq
  obtain ⟨hseq, hm⟩ := hkeyed _ m hget
  rcases fuel with _ | fuel
  · cases hdispatch
  rw [dispatchCost_in_order hm hstate hseq] at hdispatch
  right
  split at hdispatch
  · rename_i hun
    cases hdispatch
    exact ⟨m, x.taken, x.taken, {}, rest, hget, took_of_not_handled hseq hun, Or.inl ⟨hun, rfl⟩,
      hmem, fuel + 1, by omega, hrest, fun t ht => List.mem_append_right _ ht⟩
  · rename_i hhandled
    obtain ⟨z, hz, hdispatch⟩ := Option.bind_eq_some_iff.mp hdispatch
    obtain ⟨⟨w', inner⟩, hinner, heq⟩ := Option.map_eq_some_iff.mp hdispatch
    obtain ⟨rfl, rfl⟩ := Prod.mk.inj heq
    exact ⟨m, z, w', inner, rest, hget, took_of_answer hseq hz,
      Or.inr ⟨not_not.mp hhandled, replayEnds_of_answer hz, fuel, by omega, hinner,
        fun t ht => List.mem_append_left _ ht⟩,
      hmem, fuel + 1, by omega, hrest, fun t ht => List.mem_append_right _ ht⟩

end Exchange

/-! ## Along a walk the drain returns -/

variable {pending : Pending} {c : UInt32} {held : List UInt32} {m : FixMessage} {x y : Exchange}
  {s : FixSession} {z : Exchange} {raw : Bytes}

/-- Distinct keys are no more than the map holds. -/
theorem length_le_size {keys : List UInt32} (hnodup : keys.Nodup) (h : ∀ k ∈ keys, k ∈ pending) :
    keys.length ≤ pending.size := by
  rw [← ExtTreeMap.length_keys]
  exact (List.subperm_of_subset hnodup fun k hk => ExtTreeMap.mem_keys.mpr (h k hk)).length_le

theorem size_erase_of_mem (h : c ∈ pending) : (pending.erase c).size + 1 = pending.size := by
  have hpos : 0 < pending.size :=
    length_le_size (List.nodup_singleton c) (by simpa using h)
  rw [ExtTreeMap.size_erase, if_pos (ExtTreeMap.contains_iff_mem.mpr h)]
  omega

/-- The held numbers of a walk: distinct, pending, and of handled messages. -/
structure Held (pending : Pending) (held : List UInt32) : Prop where
  nodup : held.Nodup
  handled : ∀ k ∈ held, ∃ m, pending[k]? = some m ∧ handled (msgType m) = true

theorem Held.mem (h : Held pending held) {k : UInt32} (hk : k ∈ held) : k ∈ pending := by
  obtain ⟨m, hm, -⟩ := h.handled k hk
  exact mem_pending_iff.mpr ⟨m, hm⟩

theorem Held.cons {pending : Pending} {held : List UInt32} {c : UInt32} {m : FixMessage}
    (h : Held pending held) (hget : pending[c]? = some m) (hm : Fix.handled (msgType m) = true)
    (hc : c ∉ held) : Held pending (c :: held) where
  nodup := List.nodup_cons.mpr ⟨hc, h.nodup⟩
  handled := by
    intro k hk
    rcases List.mem_cons.mp hk with rfl | hk
    · exact ⟨m, hget, hm⟩
    · exact h.handled k hk

theorem Held.erase (h : Held pending held) (hget : pending[c]? = some m)
    (hm : ¬ Fix.handled (msgType m) = true) : c ∉ held ∧ Held (pending.erase c) held := by
  have hc : c ∉ held := by
    intro hmem
    obtain ⟨m', hm', hh⟩ := h.handled c hmem
    rw [hget] at hm'
    cases hm'
    exact hm hh
  refine ⟨hc, h.nodup, fun k hk => ?_⟩
  obtain ⟨m', hm', hh⟩ := h.handled k hk
  have hne : c ≠ k := fun heq => hc (by rwa [heq])
  exact ⟨m', by rw [getElem?_erase_pending, if_neg hne, hm'], hh⟩

/-- What the drain along a walk comes to. -/
structure Drains (store : Pending) (held : List UInt32) (x y : Exchange) (cost : Cost) :
    Prop where
  stopped : y.session.nextIn ∉ y.session.pending
  kept : ∀ k ∈ held, k ∈ y.session.pending
  depth : cost.depth + held.length ≤ x.session.pending.size
  turns : ∀ turns ∈ cost.turns, turns ≤ storedRange store

/-- **Run.** Along a walk the drain returns, by induction on the walk; a level of the recursion is
    paid for by the number it holds. -/
theorem drainCost_of_walk {store : Pending} (h : Walk store pending held c) :
    ∀ x : Exchange, x.session.nextIn = c → x.session.pending = pending →
      x.session.outboundStore = store → x.session.state = .loggedOn → Keyed pending →
      Held pending held →
      ∃ y cost enough, (∀ fuel ≥ enough, Exchange.drainCost fuel x = some (y, cost)) ∧
        Drains store held x y cost := by
  induction h with
  | stop hnot =>
    rintro x rfl rfl rfl hstate hkeyed hheld
    refine ⟨x, {}, 1, fun fuel hfuel => ?_, hnot, fun k hk => hheld.mem hk, ?_, by simp⟩
    · obtain ⟨fuel, rfl⟩ : ∃ k, fuel = k + 1 := ⟨fuel - 1, by omega⟩
      exact Exchange.drainCost_of_not_mem hnot
    · simpa using length_le_size hheld.nodup fun k hk => hheld.mem hk
  | @unhandled pending held c m hget hun _ ih =>
    rintro x rfl rfl rfl hstate hkeyed hheld
    obtain ⟨hseq, hm⟩ := hkeyed _ m hget
    have hmem : x.session.nextIn ∈ x.session.pending := mem_pending_iff.mpr ⟨m, hget⟩
    obtain ⟨hc, herased⟩ := hheld.erase hget hun
    have htook := Exchange.took_of_not_handled hseq hun
    obtain ⟨y, cost, enough, hrun, hdrains⟩ := ih (x.taken.erased x.session.nextIn) htook.cursor
      rfl rfl hstate (hkeyed.erase _) herased
    refine ⟨y, ⟨max 1 cost.depth, cost.turns⟩, enough + 2, fun fuel hfuel => ?_, hdrains.stopped,
      hdrains.kept, ?_, hdrains.turns⟩
    · obtain ⟨fuel, rfl⟩ : ∃ k, fuel = k + 2 := ⟨fuel - 2, by omega⟩
      rw [Exchange.drainCost, hget]
      dsimp only
      rw [Exchange.dispatchCost_in_order hm hstate hseq, if_pos hun, Option.bind_some,
        if_pos (show x.session.nextIn ∈ x.taken.session.pending from hmem),
        hrun (fuel + 1) (by omega)]
      rfl
    · have hsize : (x.session.pending.erase x.session.nextIn).size + 1 = x.session.pending.size :=
        size_erase_of_mem hmem
      have hlen : held.length ≤ (x.session.pending.erase x.session.nextIn).size :=
        length_le_size herased.nodup fun k hk => herased.mem hk
      have hdepth : cost.depth + held.length ≤ (x.session.pending.erase x.session.nextIn).size :=
        hdrains.depth
      show max 1 cost.depth + held.length ≤ x.session.pending.size
      omega
  | @handled pending held c m hget hhandled hc hanswer _ ih =>
    rintro x rfl rfl rfl hstate hkeyed hheld
    obtain ⟨hseq, hm⟩ := hkeyed _ m hget
    obtain ⟨z, hz⟩ := @Exchange.answer_isSome m x.taken hanswer.1
    have htook := Exchange.took_of_answer hseq hz
    have hcons := hheld.cons hget hhandled hc
    obtain ⟨w, cost, enough, hrun, hdrains⟩ := ih z htook.cursor htook.pending htook.store
      (htook.state.trans hstate) hkeyed hcons
    -- the call that took the message erases it and finds nothing at the cursor
    have hstop : (w.erased x.session.nextIn).session.nextIn ∉
        (w.erased x.session.nextIn).session.pending := by
      intro hmem
      exact hdrains.stopped (ExtTreeMap.mem_of_mem_erase hmem)
    refine ⟨w.erased x.session.nextIn, ⟨max (cost.depth + 1) 0, turnsOf m ++ cost.turns ++ []⟩,
      enough + 2, fun fuel hfuel => ?_, hstop, fun k hk => ?_, ?_, fun turns hturns => ?_⟩
    · obtain ⟨fuel, rfl⟩ : ∃ k, fuel = k + 2 := ⟨fuel - 2, by omega⟩
      rw [Exchange.drainCost, hget]
      dsimp only
      rw [Exchange.dispatchCost_in_order hm hstate hseq, if_neg (not_not.mpr hhandled), hz,
        Option.bind_some, hrun fuel (by omega), Option.map_some, Option.bind_some,
        if_pos (hdrains.kept _ List.mem_cons_self), Exchange.drainCost_of_not_mem hstop]
      rfl
    · have hne : x.session.nextIn ≠ k := fun heq => hc (heq ▸ hk)
      obtain ⟨m', hm'⟩ := mem_pending_iff.mp (hdrains.kept k (List.mem_cons_of_mem _ hk))
      refine mem_pending_iff.mpr ⟨m', ?_⟩
      show (w.session.pending.erase x.session.nextIn)[k]? = some m'
      rw [getElem?_erase_pending, if_neg hne, hm']
    · have hdepth := hdrains.depth
      rw [htook.pending, List.length_cons] at hdepth
      show max (cost.depth + 1) 0 + held.length ≤ x.session.pending.size
      omega
    · rw [List.append_nil, List.mem_append] at hturns
      rcases hturns with hturns | hturns
      · exact hanswer.2 turns hturns
      · exact hdrains.turns turns hturns

/-! ## A drain that returns has gone along a walk -/

/-- The drain only takes pending messages away. -/
structure Shrinks (x y : Exchange) : Prop where
  state : y.session.state = x.session.state
  pending : ∀ (k : UInt32) (m : FixMessage), y.session.pending[k]? = some m →
    x.session.pending[k]? = some m
  store : y.session.outboundStore = x.session.outboundStore

theorem Shrinks.keyed (h : Shrinks x y) (hx : Keyed x.session.pending) : Keyed y.session.pending :=
  fun k m hk => hx k m (h.pending k m hk)

theorem Shrinks.trans (h : Shrinks x y) (h' : Shrinks y z) : Shrinks x z where
  state := h'.state.trans h.state
  pending k m hk := h.pending k m (h'.pending k m hk)
  store := h'.store.trans h.store

theorem Exchange.Took.shrinks (h : Exchange.Took m x z) : Shrinks x z where
  state := h.state
  pending k m hk := by rwa [h.pending] at hk
  store := h.store

theorem shrinks_erased (x : Exchange) (c : UInt32) : Shrinks x (x.erased c) where
  state := rfl
  pending k m hk := by
    rw [show (x.erased c).session.pending = x.session.pending.erase c from rfl,
      getElem?_erase_pending] at hk
    split at hk
    · cases hk
    · exact hk
  store := rfl

theorem shrinks_of_drainCost {fuel : Nat} {cost : Cost} (hkeyed : Keyed x.session.pending)
    (hstate : x.session.state = .loggedOn) (h : Exchange.drainCost fuel x = some (y, cost)) :
    Shrinks x y := by
  induction fuel using Nat.strong_induction_on generalizing x y cost with
  | _ fuel ih =>
    rcases Exchange.drainCost_cases hkeyed hstate h with ⟨-, rfl⟩ |
      ⟨m, z, w, inner, rest, -, htook, hinner, -, fuel', hlt, hrest, -⟩
    · exact ⟨rfl, fun _ _ hk => hk, rfl⟩
    have hw : Shrinks x w := by
      rcases hinner with ⟨-, rfl⟩ | ⟨-, -, fuel'', hlt', hrun, -⟩
      · exact htook.shrinks
      · exact htook.shrinks.trans
          (ih fuel'' hlt' (htook.shrinks.keyed hkeyed) (htook.state.trans hstate) hrun)
    have herased := hw.trans (shrinks_erased w x.session.nextIn)
    exact herased.trans
      (ih fuel' hlt (herased.keyed hkeyed) (herased.state.trans hstate) hrest)

/-- **Run.** The converse, by induction on the fuel: a number that is still pending when the drain
    has returned was not met by it. -/
theorem walk_of_drainCost {fuel : Nat} {x y : Exchange} {cost : Cost} {held : List UInt32}
    (hkeyed : Keyed x.session.pending) (hstate : x.session.state = .loggedOn)
    (h : Exchange.drainCost fuel x = some (y, cost))
    (hturns : ∀ turns ∈ cost.turns, turns ≤ storedRange x.session.outboundStore)
    (hheld : ∀ k ∈ held, k ∈ y.session.pending) :
    Walk x.session.outboundStore x.session.pending held x.session.nextIn := by
  induction fuel using Nat.strong_induction_on generalizing x y cost held with
  | _ fuel ih =>
    rcases Exchange.drainCost_cases hkeyed hstate h with ⟨hnot, -⟩ |
      ⟨m, z, w, inner, rest, hget, htook, hinner, hmem, fuel', hlt, hrest, hrestTurns⟩
    · exact .stop hnot
    have hz := htook.shrinks
    rcases hinner with ⟨hun, rfl⟩ | ⟨hhandled, hends, fuel'', hlt', hrun, hinnerTurns⟩
    -- an unhandled message is erased at once, and the loop goes on behind it
    · have herased := hz.trans (shrinks_erased w x.session.nextIn)
      have hwalk := ih fuel' hlt (herased.keyed hkeyed) (herased.state.trans hstate) hrest
        (fun t ht => by
          rw [herased.store]
          exact hturns t (hrestTurns t ht)) hheld
      rw [herased.store] at hwalk
      refine .unhandled hget hun ?_
      rw [← htook.pending, ← htook.cursor]
      exact hwalk
    -- a handled message is held while the inner loop runs
    · have hw := shrinks_of_drainCost (hz.keyed hkeyed) (hz.state.trans hstate) hrun
      have herased := (hz.trans hw).trans (shrinks_erased w x.session.nextIn)
      have hy := shrinks_of_drainCost (herased.keyed hkeyed) (herased.state.trans hstate) hrest
      have hback : ∀ k ∈ held, k ∈ (w.erased x.session.nextIn).session.pending := by
        intro k hk
        obtain ⟨m', hm'⟩ := mem_pending_iff.mp (hheld k hk)
        exact mem_pending_iff.mpr ⟨m', hy.pending k m' hm'⟩
      have hnew : x.session.nextIn ∉ held := by
        intro hc
        obtain ⟨m', hm'⟩ := mem_pending_iff.mp (hback _ hc)
        rw [show (w.erased x.session.nextIn).session.pending
          = w.session.pending.erase x.session.nextIn from rfl, getElem?_erase_pending,
          if_pos rfl] at hm'
        cases hm'
      have hwalk := @ih fuel'' hlt' z w inner (x.session.nextIn :: held) (hz.keyed hkeyed)
        (hz.state.trans hstate) hrun
        (fun t ht => by
          rw [hz.store]
          exact hturns t (hinnerTurns t (List.mem_append_right _ ht)))
        (fun k hk => by
          rcases List.mem_cons.mp hk with rfl | hk
          · exact hmem
          · exact ExtTreeMap.mem_of_mem_erase (hback k hk))
      rw [hz.store, htook.pending, htook.cursor] at hwalk
      refine .handled hget hhandled hnew ⟨hends, fun t ht => ?_⟩ hwalk
      exact hturns t (hinnerTurns t (List.mem_append_left _ ht))

/-! ## Reachable sessions -/

/-- The sessions a program can have: everything `FixSession` offers, in any order. -/
inductive Reached : FixSession → Prop
  | new (cfg : SessionConfig) : Reached { cfg := cfg }
  | initiate {s : FixSession} : Reached s → Reached s.initiateLogon.2
  | reply {s : FixSession} (theirSeq : UInt32) : Reached s → Reached (s.replyLogon theirSeq).2
  | heartbeat {s : FixSession} : Reached s → Reached s.createHeartbeat.2
  | application {s : FixSession} (app : FixMessage) : Reached s →
      Reached (s.sendApplication app).2
  | restore {s : FixSession} (nextIn nextOut : UInt32) : Reached s →
      Reached { s with nextIn := nextIn, nextOut := nextOut }
  | inbound {s : FixSession} {fuel : Nat} {raw : Bytes} {x : Exchange} : Reached s →
      s.start.processInbound fuel raw = some x → Reached x.session

theorem Opened.reached (h : Opened s) : Reached s := by
  induction h with
  | new cfg => exact .new cfg
  | initiate _ ih => exact ih.initiate
  | heartbeat _ ih => exact ih.heartbeat
  | application app _ ih => exact ih.application app
  | restore nextIn nextOut _ ih => exact ih.restore nextIn nextOut
  | inbound _ _ hx ih => exact ih.inbound hx

/-- A message retained over a gap is neither logon nor logout. -/
theorem Keyed.insert (h : Keyed pending) (hm : Sequenced m) :
    Keyed (pending.insert (seqNum m) m) := by
  intro k m' hk
  rw [getElem?_insert_pending] at hk
  split at hk
  · rename_i heq
    cases hk
    exact ⟨heq, hm⟩
  · exact h k m' hk

/-- **Run.** Pending messages stay under their numbers, by induction on the fuel of the two
    loops. -/
theorem keyed_dispatch (fuel : Nat) :
    (∀ {m : FixMessage} {x y : Exchange}, Keyed x.session.pending →
      Exchange.dispatch fuel m x = some y → Keyed y.session.pending) ∧
    ∀ {x y : Exchange}, Keyed x.session.pending → Exchange.drain fuel x = some y →
      Keyed y.session.pending := by
  induction fuel with
  | zero =>
    constructor
    · intro m x y _ h
      cases h
    · intro x y _ h
      cases h
  | succ fuel ih =>
    constructor
    · intro m x y hkeyed h
      rw [Exchange.dispatch] at h
      split at h
      · cases h
        rw [Exchange.loggedOn]
        split <;> exact hkeyed
      rename_i hA
      split at h
      · cases h
        exact hkeyed
      rename_i h5
      split at h
      · cases h
        exact hkeyed
      split at h
      · rename_i hseq
        split at h
        · cases h
          exact hkeyed
        · obtain ⟨z, hz, hdrain⟩ := Option.bind_eq_some_iff.mp h
          exact ih.2 ((Exchange.took_of_answer hseq hz).shrinks.keyed hkeyed) hdrain
      split at h
      · cases h
        exact hkeyed.insert ⟨hA, h5⟩
      · cases h
        exact hkeyed
    · intro x y hkeyed h
      rw [Exchange.drain] at h
      split at h
      · cases h
        exact hkeyed
      · obtain ⟨z, hz, h⟩ := Option.bind_eq_some_iff.mp h
        split at h
        · exact ih.2 ((ih.1 hkeyed hz).erase _) h
        · cases h

theorem Reached.keyed (h : Reached s) : Keyed s.pending := by
  induction h with
  | new cfg =>
    intro k m hk
    simp at hk
  | initiate _ ih => exact ih
  | reply _ _ ih => exact ih
  | heartbeat _ ih => exact ih
  | application _ _ ih => exact ih
  | restore _ _ _ ih => exact ih
  | @inbound s fuel raw x _ hx ih =>
    rw [Exchange.processInbound] at hx
    split at hx
    · cases hx
      exact ih
    · exact (keyed_dispatch fuel).1 ih hx

/-! ## Termination -/

theorem tame_of_terminates (h : Reached s) (hterm : Terminates s raw) (hparse : parse raw = .ok m) :
    Tame s m := by
  intro hA h5 hstate hseq hhandled
  obtain ⟨fuel, y, cost, hrun, -, hturns⟩ := hterm
  rw [Exchange.processInboundCost, hparse] at hrun
  rcases fuel with _ | fuel
  · cases hrun
  dsimp only at hrun
  rw [Exchange.dispatchCost_in_order ⟨hA, h5⟩ hstate hseq, if_neg (not_not.mpr hhandled)] at hrun
  obtain ⟨z, hz, hrun⟩ := Option.bind_eq_some_iff.mp hrun
  obtain ⟨⟨y', inner⟩, hinner, heq⟩ := Option.map_eq_some_iff.mp hrun
  obtain ⟨rfl, rfl⟩ := Prod.mk.inj heq
  have htook := Exchange.took_of_answer hseq hz
  have hstore : z.session.outboundStore = s.outboundStore := htook.store
  have hpending : z.session.pending = s.pending := htook.pending
  have hwalk := @walk_of_drainCost fuel z y' inner [] (htook.shrinks.keyed h.keyed)
    (htook.state.trans hstate) hinner
    (fun t ht => by
      rw [hstore]
      exact hturns t (List.mem_append_right _ ht))
    (by simp)
  rw [hstore, hpending, htook.cursor] at hwalk
  exact ⟨⟨Exchange.replayEnds_of_answer hz,
    fun t ht => hturns t (List.mem_append_left _ ht)⟩, hwalk⟩

theorem terminates_of_tame (h : Reached s) (htame : ∀ m, parse raw = .ok m → Tame s m) :
    Terminates s raw := by
  -- a call without a drain costs nothing
  have hflat : ∀ y, s.start.processInboundCost 1 raw = some (y, {}) → Terminates s raw :=
    fun y hy => ⟨1, y, {}, hy, Nat.zero_le _, by simp⟩
  cases hparse : parse raw with
  | error status => exact hflat _ (by rw [Exchange.processInboundCost, hparse])
  | ok m =>
    have hdispatch : ∀ fuel, s.start.processInboundCost fuel raw
        = Exchange.dispatchCost fuel m s.start := by
      intro fuel
      rw [Exchange.processInboundCost, hparse]
    by_cases hA : msgType m = asBytes "A"
    · exact hflat _ (by rw [hdispatch, Exchange.dispatchCost, if_pos hA])
    by_cases h5 : msgType m = asBytes "5"
    · exact hflat _ (by rw [hdispatch, Exchange.dispatchCost, if_neg hA, if_pos h5])
    by_cases hstate : s.start.session.state = .loggedOn
    swap
    · exact hflat _ (by rw [hdispatch, Exchange.dispatchCost, if_neg hA, if_neg h5, if_pos hstate])
    by_cases hseq : seqNum m = s.start.session.nextIn
    swap
    · by_cases hlt : s.start.session.nextIn < seqNum m
      · exact hflat _ (by
          rw [hdispatch, Exchange.dispatchCost, if_neg hA, if_neg h5,
            if_neg (not_not.mpr hstate), if_neg hseq, if_pos hlt])
      · exact hflat _ (by
          rw [hdispatch, Exchange.dispatchCost, if_neg hA, if_neg h5,
            if_neg (not_not.mpr hstate), if_neg hseq, if_neg hlt])
    by_cases hhandled : handled (msgType m) = true
    swap
    · exact hflat _ (by
        rw [hdispatch, Exchange.dispatchCost_in_order ⟨hA, h5⟩ hstate hseq, if_pos hhandled])
    obtain ⟨hanswer, hwalk⟩ := htame m hparse hA h5 hstate hseq hhandled
    obtain ⟨z, hz⟩ := @Exchange.answer_isSome m s.start.taken hanswer.1
    have htook := Exchange.took_of_answer hseq hz
    obtain ⟨y, cost, enough, hrun, hdrains⟩ := drainCost_of_walk hwalk z htook.cursor htook.pending
      htook.store (htook.state.trans hstate) h.keyed ⟨List.nodup_nil, by simp⟩
    refine ⟨enough + 1, y, { cost with turns := turnsOf m ++ cost.turns }, ?_, ?_, ?_⟩
    · rw [hdispatch, Exchange.dispatchCost_in_order ⟨hA, h5⟩ hstate hseq,
        if_neg (not_not.mpr hhandled), hz, Option.bind_some, hrun enough (Nat.le_refl _)]
      rfl
    · have hdepth := hdrains.depth
      rw [htook.pending] at hdepth
      exact hdepth
    · intro t ht
      rcases List.mem_append.mp ht with ht | ht
      · exact hanswer.2 t ht
      · exact hdrains.turns t ht

/-- **Termination of `process_inbound`.** In every reachable session a call is bounded exactly if
    its message is tame. -/
theorem terminates_iff {s : FixSession} (h : Reached s) (raw : Bytes) :
    Terminates s raw ↔ ∀ m, parse raw = .ok m → Tame s m :=
  ⟨fun hterm _ hparse => tame_of_terminates h hterm hparse, terminates_of_tame h⟩

/-! ### Sample calls -/

theorem reached_sampleRetained : Reached sampleRetained.session := by
  have hsome : (sampleSession.start.processInbound 1 (inboundText "8" 3 [])).isSome = true := by
    decide +kernel
  obtain ⟨x, hx⟩ := Option.isSome_iff_exists.mp hsome
  have hrun : sampleSession.start.receive 1 [inboundText "8" 3 []] = some x := by
    have hstart : sampleSession.start.receive 1 [] = some sampleSession.start := rfl
    rw [← List.nil_append [inboundText "8" 3 []], receive_concat, hstart, Option.bind_some, hx]
  rw [← receive_retained hrun]
  exact opened_sampleSession.reached.inbound hx

/-- The heartbeat that was missing sets one retained message free. -/
theorem terminates_iff_retained : Reached sampleRetained.session ∧
    Terminates sampleRetained.session (inboundText "0" 2 []) := by
  refine ⟨reached_sampleRetained, (terminates_iff reached_sampleRetained _).mpr ?_⟩
  intro m hm
  have hmessage : m = parsed (inboundText "0" 2 []) := by rw [parsed, hm]
  have htarget : target m = 3 := by rw [hmessage]; decide +kernel
  intro _ _ _ _ _
  have hkey : seqNum (parsed (inboundText "8" 3 [])) = 3 := by decide +kernel
  have hpending : ∀ k : UInt32, sampleRetained.session.pending[k]? =
      if 3 = k then some (parsed (inboundText "8" 3 [])) else none := by
    intro k
    rw [sampleRetained, Exchange.gapDetected, getElem?_insert_pending, hkey]
    split
    · rfl
    · simp [FixSession.start, sampleSession]
  -- neither message asks for a replay
  have hplain : ∀ (store : Pending) (m' : FixMessage), msgType m' ≠ asBytes "2" →
      Answerable store m' := by
    intro store m' hne
    refine ⟨fun heq => absurd heq hne, fun t ht => ?_⟩
    rw [turnsOf, if_neg hne] at ht
    cases ht
  refine ⟨hplain _ m (by rw [hmessage]; decide +kernel), ?_⟩
  rw [htarget]
  refine .handled (by rw [hpending, if_pos rfl]) (by decide +kernel) (by simp)
    (hplain _ _ (by decide +kernel)) (.stop fun hmem => ?_)
  obtain ⟨m', hm'⟩ := mem_pending_iff.mp hmem
  rw [hpending, if_neg (by decide +kernel)] at hm'
  cases hm'

/-- A ResendRequest for the numbers from 1 to the largest. -/
def endlessRequest : Bytes :=
  inboundText "2" 2 [(7, asBytes "1"), (16, asBytes "4294967295")]

/-- Its replay loop has no end, in a session that has just logged on. -/
theorem endlessRequest_never_returns : Reached sampleSession ∧
    (∀ fuel, sampleSession.start.processInbound fuel endlessRequest = none) ∧
    ¬ Terminates sampleSession endlessRequest := by
  have hparse : parse endlessRequest = .ok (parsed endlessRequest) := by decide +kernel
  have hsequenced : Sequenced (parsed endlessRequest) := by constructor <;> decide +kernel
  have hseq : seqNum (parsed endlessRequest) = 2 := by decide +kernel
  have hstate : sampleSession.start.session.state = .loggedOn := rfl
  have hanswer : sampleSession.start.taken.answer (parsed endlessRequest) = none := by
    rw [Exchange.answer, if_neg (by decide +kernel), if_pos (by decide +kernel), FixSession.replay,
      if_neg (by decide +kernel), if_pos (by decide +kernel)]
    rfl
  have hnever : ∀ fuel, sampleSession.start.processInbound fuel endlessRequest = none := by
    intro fuel
    rw [Exchange.processInbound, hparse]
    rcases fuel with _ | fuel
    · rfl
    dsimp only
    rw [Exchange.dispatch, if_neg hsequenced.1, if_neg hsequenced.2,
      if_neg (not_not.mpr hstate), if_pos (by rw [hseq]; rfl),
      if_neg (by decide +kernel), hanswer]
    rfl
  refine ⟨opened_sampleSession.reached, hnever, ?_⟩
  rintro ⟨fuel, y, cost, hrun, -⟩
  have hmap := Exchange.map_processInboundCost fuel sampleSession.start endlessRequest
  rw [hrun, hnever] at hmap
  cases hmap

end LobReplay.Fix
