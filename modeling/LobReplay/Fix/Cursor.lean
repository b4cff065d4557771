/-
  The receive cursor of a session over whole runs. A session takes each number in order at most
  once, its cursor never moves back and no pending message is left at or behind it, as long as every
  message is orderly (`Orderly`): a logon or a logout does not put the cursor back or into the
  pending messages, a gap fill moves it forward and over no pending message, and a message of a type
  the session does not handle is not followed by a pending one, which `dispatch` would leave there.
-/

import LobReplay.Fix.Session
import LobReplay.Foundation.Machine
import Mathlib.Data.List.Nodup

namespace LobReplay.Fix

open Foundation Std

abbrev Pending := ExtTreeMap UInt32 FixMessage

/-! ## Orderly messages -/

/-- From the cursor `c` the pending messages form a chain that moves forward and skips none of
    them. -/
inductive Forward (pending : Pending) : UInt32 → Prop
  | stop {c : UInt32} : c ∉ pending → Forward pending c
  | entry {c : UInt32} {m : FixMessage} : pending[c]? = some m → c < target m →
      (∀ k ∈ pending, c < k → target m ≤ k) → Forward pending (target m) → Forward pending c

def Orderly (s : FixSession) (m : FixMessage) : Prop :=
  if msgType m = asBytes "A" ∨ msgType m = asBytes "5" then
    s.nextIn ≤ seqNum m + 1 ∧ ∀ k ∈ s.pending, seqNum m + 1 < k
  else s.state = .loggedOn → seqNum m = s.nextIn →
    seqNum m < target m ∧ (∀ k ∈ s.pending, target m ≤ k) ∧
      if handled (msgType m) then Forward s.pending (target m) else target m ∉ s.pending

/-- The text is dropped as malformed, or its message is orderly. -/
def OrderlyText (s : FixSession) (raw : Bytes) : Prop := ∀ m, parse raw = .ok m → Orderly s m

/-- Pending messages stand under their number and are neither logons nor logouts. -/
def Keyed (pending : Pending) : Prop :=
  ∀ k m, pending[k]? = some m → seqNum m = k ∧ Sequenced m

/-! ## Pending maps -/

theorem getElem?_erase_pending (pending : Pending) (c k : UInt32) :
    (pending.erase c)[k]? = if c = k then none else pending[k]? := by
  rw [ExtTreeMap.getElem?_erase]
  by_cases h : c = k
  · rw [if_pos h, if_pos (Std.LawfulEqCmp.compare_eq_iff_eq.mpr h)]
  · rw [if_neg h, if_neg (mt Std.LawfulEqCmp.compare_eq_iff_eq.mp h)]

theorem getElem?_insert_pending (pending : Pending) (c k : UInt32) (m : FixMessage) :
    (pending.insert c m)[k]? = if c = k then some m else pending[k]? := by
  rw [ExtTreeMap.getElem?_insert]
  by_cases h : c = k
  · rw [if_pos h, if_pos (Std.LawfulEqCmp.compare_eq_iff_eq.mpr h)]
  · rw [if_neg h, if_neg (mt Std.LawfulEqCmp.compare_eq_iff_eq.mp h)]

variable {pending : Pending} {c : UInt32} {x y : Exchange} {fuel : Nat} {m : FixMessage}
  {raw : Bytes} {s : FixSession} {raws : List Bytes}

theorem mem_pending_iff {k : UInt32} : k ∈ pending ↔ ∃ m, pending[k]? = some m := by
  rw [ExtTreeMap.mem_iff_isSome_getElem?, Option.isSome_iff_exists]

theorem Keyed.erase (h : Keyed pending) (c : UInt32) : Keyed (pending.erase c) := by
  intro k m hk
  rw [getElem?_erase_pending] at hk
  split at hk
  · cases hk
  · exact h k m hk

/-- A chain depends only on what stands from its cursor on. -/
theorem Forward.congr {pending' : Pending} (h : Forward pending c)
    (hsame : ∀ k, c ≤ k → pending'[k]? = pending[k]?) : Forward pending' c := by
  have hmem : ∀ {c : UInt32}, (∀ k, c ≤ k → pending'[k]? = pending[k]?) →
      ∀ k, c ≤ k → (k ∈ pending' ↔ k ∈ pending) := by
    intro c hsame k hk
    rw [mem_pending_iff, mem_pending_iff, hsame k hk]
  induction h with
  | stop hnot => exact .stop (mt (hmem hsame _ (UInt32.le_refl _)).mp hnot)
  | entry hget hlt hskip hrest ih =>
    refine .entry (by rw [hsame _ (UInt32.le_refl _), hget]) hlt ?_ (ih ?_)
    · intro k hk hck
      exact hskip k ((hmem hsame k (UInt32.le_of_lt hck)).mp hk) hck
    · intro k hk
      exact hsame k (UInt32.le_trans (UInt32.le_of_lt hlt) hk)

/-! ## The drain -/

/-- What the drain does: it takes the pending messages from the cursor to the place where it
    stops, and leaves the others as they were. -/
structure Drained (x y : Exchange) : Prop where
  state : y.session.state = x.session.state
  forward : x.session.nextIn ≤ y.session.nextIn
  stopped : y.session.nextIn ∉ y.session.pending
  pending : ∀ k, y.session.pending[k]? =
    if x.session.nextIn ≤ k ∧ k < y.session.nextIn then none else x.session.pending[k]?
  processed : ∃ taken, y.processed = x.processed ++ taken ∧ taken.Pairwise (· < ·) ∧
    (∀ q ∈ taken, x.session.nextIn ≤ q ∧ q < y.session.nextIn) ∧
    ∀ k ∈ x.session.pending, x.session.nextIn ≤ k → k < y.session.nextIn → k ∈ taken

theorem Drained.refl (h : x.session.nextIn ∉ x.session.pending) : Drained x x where
  state := rfl
  forward := UInt32.le_refl _
  stopped := h
  pending k := by
    rw [if_neg]
    rintro ⟨hle, hlt⟩
    exact UInt32.lt_irrefl _ (UInt32.lt_of_le_of_lt hle hlt)
  processed := by
    refine ⟨[], by simp, List.Pairwise.nil, by simp, fun k _ hle hlt => ?_⟩
    exact absurd (UInt32.lt_of_le_of_lt hle hlt) (UInt32.lt_irrefl _)

/-- One pending message and the drain behind it: `z` is the session after the message was taken
    and its entry erased, `y` after the drain from there. -/
theorem Drained.cons {x z y : Exchange} {m : FixMessage} (hlt : x.session.nextIn < target m)
    (hskip : ∀ k ∈ x.session.pending, x.session.nextIn < k → target m ≤ k)
    (hcursor : z.session.nextIn = target m) (hstate : z.session.state = x.session.state)
    (hpending : z.session.pending = x.session.pending.erase x.session.nextIn)
    (hprocessed : z.processed = x.processed ++ [x.session.nextIn]) (h : Drained z y) :
    Drained x y := by
  have hcy : x.session.nextIn < y.session.nextIn :=
    UInt32.lt_of_lt_of_le hlt (by rw [← hcursor]; exact h.forward)
  obtain ⟨taken, heq, hsorted, hrange, hall⟩ := h.processed
  rw [hcursor] at hrange hall
  refine ⟨h.state.trans hstate, UInt32.le_of_lt hcy, h.stopped, fun k => ?_, ?_⟩
  · rw [h.pending, hcursor, hpending, getElem?_erase_pending]
    by_cases heqk : x.session.nextIn = k
    · rw [if_pos heqk, ite_self, if_pos ⟨UInt32.le_of_eq heqk, by rw [← heqk]; exact hcy⟩]
    rw [if_neg heqk]
    rcases UInt32.lt_or_lt_of_ne heqk with hck | hkc
    swap
    · have hnot : ¬ x.session.nextIn ≤ k := UInt32.not_le.mpr hkc
      have hnot' : ¬ target m ≤ k := UInt32.not_le.mpr (UInt32.lt_trans hkc hlt)
      rw [if_neg fun hc => hnot' hc.1, if_neg fun hc => hnot hc.1]
    · cases hp : x.session.pending[k]? with
      | none => rw [ite_self, ite_self]
      -- a pending message behind the cursor stands from the target on
      | some m' =>
        have htarget : target m ≤ k := hskip k (mem_pending_iff.mpr ⟨m', hp⟩) hck
        simp only [htarget, UInt32.le_of_lt hck, true_and]
  · refine ⟨x.session.nextIn :: taken, by rw [heq, hprocessed]; simp, ?_, ?_, ?_⟩
    · exact List.pairwise_cons.mpr
        ⟨fun q hq => UInt32.lt_of_lt_of_le hlt (hrange q hq).1, hsorted⟩
    · intro q hq
      rcases List.mem_cons.mp hq with rfl | hq
      · exact ⟨UInt32.le_refl _, hcy⟩
      · exact ⟨UInt32.le_of_lt (UInt32.lt_of_lt_of_le hlt (hrange q hq).1), (hrange q hq).2⟩
    · intro k hk hle hky
      by_cases heqk : x.session.nextIn = k
      · rw [heqk]
        exact List.mem_cons_self
      have hck := UInt32.lt_of_le_of_ne hle heqk
      refine List.mem_cons_of_mem _ (hall k ?_ (hskip k hk hck) hky)
      obtain ⟨m', hm'⟩ := mem_pending_iff.mp hk
      exact mem_pending_iff.mpr ⟨m', by rw [hpending, getElem?_erase_pending, if_neg heqk, hm']⟩

/-- The session after its entry at the cursor `c` is erased. -/
def Exchange.erased (x : Exchange) (c : UInt32) : Exchange :=
  { x with session := { x.session with pending := x.session.pending.erase c } }

theorem Drained.erased (h : Drained x y) (hc : c < x.session.nextIn) :
    Drained (x.erased c) (y.erased c) where
  state := h.state
  forward := h.forward
  stopped := by
    intro hmem
    obtain ⟨m, hm⟩ := mem_pending_iff.mp hmem
    rw [show (y.erased c).session.pending = y.session.pending.erase c from rfl,
      getElem?_erase_pending] at hm
    split at hm
    · cases hm
    · exact h.stopped (mem_pending_iff.mpr ⟨m, hm⟩)
  pending k := by
    show (y.session.pending.erase c)[k]? = if x.session.nextIn ≤ k ∧ k < y.session.nextIn then none
      else (x.session.pending.erase c)[k]?
    rw [getElem?_erase_pending, getElem?_erase_pending, h.pending]
    split
    · rename_i hck
      rw [if_neg]
      rintro ⟨hle, -⟩
      exact absurd hc (UInt32.not_lt.mpr (by rw [hck]; exact hle))
    · rfl
  processed := by
    obtain ⟨taken, heq, hsorted, hrange, hall⟩ := h.processed
    refine ⟨taken, heq, hsorted, hrange, fun k hk hle hlt => hall k ?_ hle hlt⟩
    obtain ⟨m, hm⟩ := mem_pending_iff.mp hk
    rw [show (x.erased c).session.pending = x.session.pending.erase c from rfl,
      getElem?_erase_pending] at hm
    split at hm
    · cases hm
    · exact mem_pending_iff.mpr ⟨m, hm⟩

theorem Drained.keyed (h : Drained x y) (hx : Keyed x.session.pending) :
    Keyed y.session.pending := by
  intro k m hk
  rw [h.pending] at hk
  split at hk
  · cases hk
  · exact hx k m hk

/-- The message at the cursor, taken with its answer. -/
theorem dispatch_pending (hkeyed : Keyed x.session.pending) (hstate : x.session.state = .loggedOn)
    (hget : x.session.pending[x.session.nextIn]? = some m)
    (h : Exchange.dispatch fuel m x = some y) :
    ∃ z, z.session.nextIn = target m ∧ z.session.state = x.session.state ∧
      z.session.pending = x.session.pending ∧ z.processed = x.processed ++ [x.session.nextIn] ∧
      ((¬ handled (msgType m) = true ∧ y = z) ∨
        ∃ fuel', fuel = fuel' + 1 ∧ Exchange.drain fuel' z = some y) := by
  obtain ⟨hseq, hm⟩ := hkeyed _ m hget
  rcases fuel with _ | fuel
  · cases h
  rcases Exchange.dispatch_cases hm hstate h with ⟨-, hun, rfl⟩ | ⟨-, -, z, hz, hdrain⟩ |
    ⟨hlt, -⟩ | ⟨hlt, -⟩
  · refine ⟨x.taken, ?_, rfl, rfl, rfl, Or.inl ⟨hun, rfl⟩⟩
    rw [Exchange.target_of_not_handled hun, hseq]
    rfl
  · obtain ⟨hcursor, hst, hpend, hproc⟩ := Exchange.answer_eq_some hseq hz
    exact ⟨z, hcursor, hst, hpend, by rw [hproc, hseq], Or.inr ⟨fuel, rfl, hdrain⟩⟩
  · exact absurd hlt (by rw [hseq]; exact UInt32.lt_irrefl _)
  · exact absurd hlt (by rw [hseq]; exact UInt32.lt_irrefl _)

/-- **Run.** What the drain returns, by induction on the fuel: along a chain that moves forward it
    takes each message once. -/
theorem drain_spec (hkeyed : Keyed x.session.pending) (hstate : x.session.state = .loggedOn)
    (hforward : Forward x.session.pending x.session.nextIn) (h : Exchange.drain fuel x = some y) :
    Drained x y := by
  induction fuel using Nat.strong_induction_on generalizing x y with
  | _ fuel ih =>
    rcases fuel with _ | fuel
    · cases h
    rw [Exchange.drain] at h
    split at h
    · rename_i hnone
      cases h
      refine Drained.refl fun hmem => ?_
      obtain ⟨m, hm⟩ := mem_pending_iff.mp hmem
      rw [hnone] at hm
      cases hm
    rename_i m hget
    obtain ⟨w, hdispatch, h⟩ := Option.bind_eq_some_iff.mp h
    split at h
    swap
    · cases h
    rcases hforward with hnot | ⟨hget', hlt, hskip, hrest⟩
    · exact absurd (mem_pending_iff.mpr ⟨m, hget⟩) hnot
    rw [hget] at hget'
    cases hget'
    obtain ⟨z, hcursor, hst, hpend, hproc, hwhat⟩ := dispatch_pending hkeyed hstate hget hdispatch
    have hchain : Forward (z.erased x.session.nextIn).session.pending
        (z.erased x.session.nextIn).session.nextIn := by
      show Forward (z.session.pending.erase x.session.nextIn) z.session.nextIn
      rw [hpend, hcursor]
      refine hrest.congr fun k hk => ?_
      rw [getElem?_erase_pending, if_neg]
      exact UInt32.ne_of_lt (UInt32.lt_of_lt_of_le hlt hk)
    have hrestDrained : Drained (z.erased x.session.nextIn) y := by
      rcases hwhat with ⟨-, rfl⟩ | ⟨fuel', rfl, hdrain⟩
      -- an unhandled message: the caller's loop goes on
      · refine ih fuel (Nat.lt_succ_self _) ?_ (hst.trans hstate) hchain h
        show Keyed (w.session.pending.erase x.session.nextIn)
        rw [hpend]
        exact hkeyed.erase _
      -- a handled message: its own loop has gone to the end
      · have hinner : Drained z w := by
          refine ih fuel' (by omega) (by rw [hpend]; exact hkeyed) (hst.trans hstate) ?_ hdrain
          rw [hpend, hcursor]
          exact hrest
        have herased := hinner.erased (show x.session.nextIn < z.session.nextIn by
          rw [hcursor]
          exact hlt)
        have hy : w.erased x.session.nextIn = y := by
          have hstop := @Exchange.drain_of_not_mem fuel' (w.erased x.session.nextIn)
            herased.stopped
          exact Option.some.inj (hstop.symm.trans h)
        rw [← hy]
        exact herased
    refine Drained.cons (z := z.erased x.session.nextIn) hlt hskip hcursor hst ?_ hproc
      hrestDrained
    show z.session.pending.erase x.session.nextIn = _
    rw [hpend]

def ReplaysEnd (pending : Pending) : Prop :=
  ∀ (k : UInt32) (m : FixMessage), pending[k]? = some m → ReplayEnds m

theorem drain_returns (hforward : Forward pending c) :
    ∃ enough, ∀ x : Exchange, x.session.nextIn = c →
      (∀ k, c ≤ k → x.session.pending[k]? = pending[k]?) → Keyed x.session.pending →
      x.session.state = .loggedOn → ReplaysEnd x.session.pending →
      ∃ y, ∀ fuel ≥ enough, Exchange.drain fuel x = some y := by
  induction hforward with
  | stop hnot =>
    refine ⟨1, fun x hcursor hsame _ _ _ => ⟨x, fun fuel hfuel => ?_⟩⟩
    obtain ⟨fuel, rfl⟩ : ∃ k, fuel = k + 1 := ⟨fuel - 1, by omega⟩
    refine Exchange.drain_of_not_mem fun hmem => hnot ?_
    rw [hcursor] at hmem
    rw [mem_pending_iff, ← hsame _ (UInt32.le_refl _), ← mem_pending_iff]
    exact hmem
  | @entry c m hget hlt hskip hrest ih =>
    obtain ⟨enough, ih⟩ := ih
    refine ⟨enough + 3, fun x hcursor hsame hkeyed hstate hends => ?_⟩
    have hx : x.session.pending[x.session.nextIn]? = some m := by
      rw [hcursor, hsame c (UInt32.le_refl _), hget]
    obtain ⟨hseq, hm⟩ := hkeyed _ m hx
    have hsame' : ∀ k, target m ≤ k → x.session.pending[k]? = pending[k]? := fun k hk =>
      hsame k (UInt32.le_trans (UInt32.le_of_lt hlt) hk)
    -- one turn of the loop: the message at the cursor is dispatched
    have hturn : ∀ fuel, Exchange.drain (fuel + 1 + 1) x =
        (if ¬ handled (msgType m) = true then some x.taken
          else (x.taken.answer m).bind (Exchange.drain fuel)).bind fun y =>
            if x.session.nextIn ∈ y.session.pending then
              Exchange.drain (fuel + 1) (y.erased x.session.nextIn)
            else none := by
      intro fuel
      rw [Exchange.drain, hx]
      show (Exchange.dispatch (fuel + 1) m x).bind _ = _
      rw [Exchange.dispatch, if_neg hm.1, if_neg hm.2, if_neg (not_not.mpr hstate), if_pos hseq]
      rfl
    by_cases hhandled : handled (msgType m) = true
    · obtain ⟨z, hz⟩ := @Exchange.answer_isSome m x.taken (hends _ m hx)
      obtain ⟨hcur, hst, hpend, -⟩ := Exchange.answer_eq_some hseq hz
      obtain ⟨w, hw⟩ := ih z hcur (by rw [hpend]; exact hsame') (by rw [hpend]; exact hkeyed)
        (hst.trans hstate) (by rw [hpend]; exact hends)
      have hdrained : Drained z w := by
        refine drain_spec (by rw [hpend]; exact hkeyed) (hst.trans hstate) ?_
          (hw enough (Nat.le_refl _))
        rw [hpend, hcur]
        exact hrest.congr hsame'
      have hlt' : x.session.nextIn < z.session.nextIn := by
        rw [hcur, hcursor]
        exact hlt
      have hmem : x.session.nextIn ∈ w.session.pending := by
        rw [mem_pending_iff, hdrained.pending, hpend]
        refine ⟨m, ?_⟩
        rw [if_neg, hx]
        exact fun hc => UInt32.not_le.mpr hlt' hc.1
      refine ⟨w.erased x.session.nextIn, fun fuel hfuel => ?_⟩
      obtain ⟨fuel, rfl⟩ : ∃ k, fuel = k + 1 + 1 := ⟨fuel - 2, by omega⟩
      rw [hturn, if_neg (not_not.mpr hhandled), hz, Option.bind_some, hw fuel (by omega),
        Option.bind_some, if_pos hmem]
      exact Exchange.drain_of_not_mem (hdrained.erased hlt').stopped
    · have hmem : x.session.nextIn ∈ x.taken.session.pending := mem_pending_iff.mpr ⟨m, hx⟩
      have hendsErase : ReplaysEnd (x.session.pending.erase x.session.nextIn) := by
        intro k m' hk
        rw [getElem?_erase_pending] at hk
        split at hk
        · cases hk
        · exact hends k m' hk
      obtain ⟨y, hy⟩ := ih (x.taken.erased x.session.nextIn) (by
          rw [Exchange.target_of_not_handled hhandled, hseq]
          rfl) (fun k hk => by
          show (x.session.pending.erase x.session.nextIn)[k]? = _
          rw [getElem?_erase_pending, if_neg, hsame' k hk]
          rw [hcursor]
          exact UInt32.ne_of_lt (UInt32.lt_of_lt_of_le hlt hk))
        (hkeyed.erase _) hstate hendsErase
      refine ⟨y, fun fuel hfuel => ?_⟩
      obtain ⟨fuel, rfl⟩ : ∃ k, fuel = k + 1 + 1 := ⟨fuel - 2, by omega⟩
      rw [hturn, if_pos hhandled, Option.bind_some, if_pos hmem]
      exact hy (fuel + 1) (by omega)

/-! ## One call -/

/-- What orderly messages keep. -/
structure Kept (x : Exchange) : Prop where
  keyed : Keyed x.session.pending
  above : ∀ k ∈ x.session.pending, x.session.nextIn < k
  below : ∀ q ∈ x.processed, q < x.session.nextIn
  nodup : x.processed.Nodup

/-- What an orderly message does: the invariant holds and the cursor does not move back. Only the
    message itself may be new among the pending ones, a pending message stays pending until it is
    taken, and a message at or behind the cursor is retained or taken. -/
structure Stepped (x : Exchange) (m : FixMessage) (y : Exchange) : Prop where
  kept : Kept y
  forward : x.session.nextIn ≤ y.session.nextIn
  origin : ∀ (k : UInt32) (m' : FixMessage), y.session.pending[k]? = some m' →
    x.session.pending[k]? = some m' ∨ m' = m
  logged : ∀ q ∈ x.processed, q ∈ y.processed
  retained : ∀ k ∈ x.session.pending, k ∈ y.session.pending ∨ k ∈ y.processed
  arrived : Sequenced m → x.session.state = .loggedOn → x.session.nextIn ≤ seqNum m →
    seqNum m ∈ y.session.pending ∨ seqNum m ∈ y.processed
  state : Sequenced m → y.session.state = x.session.state

/-- A message that changes nothing. -/
theorem Kept.unchanged (h : Kept x)
    (hlate : x.session.state = .loggedOn → seqNum m < x.session.nextIn) : Stepped x m x where
  kept := h
  forward := UInt32.le_refl _
  origin _ _ hk := Or.inl hk
  logged _ hq := hq
  retained _ hk := Or.inl hk
  arrived _ hstate hle := absurd (hlate hstate) (UInt32.not_lt.mpr hle)
  state _ := rfl

/-- A logon or a logout that moves the cursor alone. -/
theorem Kept.move (h : Kept x) (hm : ¬ Sequenced m)
    (hpending : y.session.pending = x.session.pending) (hprocessed : y.processed = x.processed)
    (hle : x.session.nextIn ≤ y.session.nextIn)
    (habove : ∀ k ∈ x.session.pending, y.session.nextIn < k) : Stepped x m y where
  kept := by
    refine ⟨by rw [hpending]; exact h.keyed, by rw [hpending]; exact habove, ?_, ?_⟩
    · rw [hprocessed]
      exact fun q hq => UInt32.lt_of_lt_of_le (h.below q hq) hle
    · rw [hprocessed]
      exact h.nodup
  forward := hle
  origin k m' hk := Or.inl (by rw [← hpending, hk])
  logged q hq := by rw [hprocessed]; exact hq
  retained k hk := Or.inl (by rw [hpending]; exact hk)
  arrived hs := absurd hs hm
  state hs := absurd hs hm

/-- A message retained behind the cursor. -/
theorem Kept.gapDetected (h : Kept x) (hm : Sequenced m) (hlt : x.session.nextIn < seqNum m) :
    Stepped x m (x.gapDetected m) := by
  have hget : ∀ k : UInt32, (x.gapDetected m).session.pending[k]? =
      if seqNum m = k then some m else x.session.pending[k]? := fun k =>
    getElem?_insert_pending _ _ k m
  refine ⟨⟨?_, ?_, h.below, h.nodup⟩, UInt32.le_refl _, ?_, fun q hq => hq, ?_, ?_, fun _ => rfl⟩
  · intro k m' hk
    rw [hget] at hk
    split at hk
    · rename_i hkey
      cases hk
      exact ⟨hkey, hm⟩
    · exact h.keyed k m' hk
  · intro k hk
    obtain ⟨m', hm'⟩ := mem_pending_iff.mp hk
    rw [hget] at hm'
    split at hm'
    · rename_i hkey
      rw [← hkey]
      exact hlt
    · exact h.above k (mem_pending_iff.mpr ⟨m', hm'⟩)
  · intro k m' hk
    rw [hget] at hk
    split at hk
    · exact Or.inr (Option.some.inj hk).symm
    · exact Or.inl hk
  · intro k hk
    obtain ⟨m', hm'⟩ := mem_pending_iff.mp hk
    refine Or.inl (mem_pending_iff.mpr ?_)
    rw [hget]
    split
    · exact ⟨m, rfl⟩
    · exact ⟨m', hm'⟩
  · exact fun _ _ _ => Or.inl (mem_pending_iff.mpr ⟨m, by rw [hget, if_pos rfl]⟩)

theorem Kept.drained {x z y : Exchange} {m : FixMessage} (h : Kept x)
    (hseq : seqNum m = x.session.nextIn) (hlt : x.session.nextIn < target m)
    (htarget : ∀ k ∈ x.session.pending, target m ≤ k)
    (hcursor : z.session.nextIn = target m) (hst : z.session.state = x.session.state)
    (hpending : z.session.pending = x.session.pending)
    (hprocessed : z.processed = x.processed ++ [x.session.nextIn]) (hdrained : Drained z y) :
    Stepped x m y := by
  obtain ⟨taken, heq, hsorted, hrange, hall⟩ := hdrained.processed
  have hget := hdrained.pending
  rw [hprocessed] at heq
  rw [hcursor] at hrange hall hget
  rw [hpending] at hall hget
  have hforward : target m ≤ y.session.nextIn := by
    rw [← hcursor]
    exact hdrained.forward
  have hle : x.session.nextIn < y.session.nextIn := UInt32.lt_of_lt_of_le hlt hforward
  refine ⟨⟨?_, ?_, ?_, ?_⟩, UInt32.le_of_lt hle, ?_, ?_, ?_, ?_,
    fun _ => hdrained.state.trans hst⟩
  · exact hdrained.keyed (by rw [hpending]; exact h.keyed)
  · intro k hk
    obtain ⟨m', hm'⟩ := mem_pending_iff.mp hk
    have hne : y.session.nextIn ≠ k := by
      rintro rfl
      exact hdrained.stopped hk
    rw [hget] at hm'
    split at hm'
    · cases hm'
    rename_i hout
    have hin : target m ≤ k := htarget k (mem_pending_iff.mpr ⟨m', hm'⟩)
    exact UInt32.lt_of_le_of_ne (UInt32.not_lt.mp fun hky => hout ⟨hin, hky⟩) hne
  · intro q hq
    rw [heq, List.mem_append, List.mem_append, List.mem_singleton] at hq
    rcases hq with (hq | rfl) | hq
    · exact UInt32.lt_trans (h.below q hq) hle
    · exact hle
    · exact (hrange q hq).2
  · have htaken : taken.Nodup := hsorted.imp fun hab => UInt32.ne_of_lt hab
    rw [heq]
    refine List.nodup_append.mpr ⟨?_, htaken, ?_⟩
    · refine List.nodup_append.mpr ⟨h.nodup, List.nodup_singleton _, fun a ha b hb => ?_⟩
      rw [List.mem_singleton.mp hb]
      exact UInt32.ne_of_lt (h.below a ha)
    · intro a ha b hb
      refine UInt32.ne_of_lt (UInt32.lt_of_lt_of_le ?_ (hrange b hb).1)
      rcases List.mem_append.mp ha with ha | ha
      · exact UInt32.lt_trans (h.below a ha) hlt
      · rw [List.mem_singleton.mp ha]
        exact hlt
  · intro k m' hk
    rw [hget] at hk
    split at hk
    · cases hk
    · exact Or.inl hk
  · intro q hq
    rw [heq]
    exact List.mem_append_left _ (List.mem_append_left _ hq)
  · intro k hk
    by_cases hky : k < y.session.nextIn
    · right
      rw [heq]
      exact List.mem_append_right _ (hall k hk (htarget k hk) hky)
    · left
      obtain ⟨m', hm'⟩ := mem_pending_iff.mp hk
      exact mem_pending_iff.mpr ⟨m', by rw [hget, if_neg fun hc => hky hc.2, hm']⟩
  · intro _ _ _
    right
    rw [heq, hseq]
    exact List.mem_append_left _ (List.mem_append_right _ List.mem_cons_self)

/-- **Step.** An orderly message keeps the invariant and does not move the cursor back. -/
theorem Kept.dispatch (h : Kept x) (horderly : Orderly x.session m)
    (hy : Exchange.dispatch fuel m x = some y) : Stepped x m y := by
  rcases fuel with _ | fuel
  · cases hy
  by_cases hadmin : msgType m = asBytes "A" ∨ msgType m = asBytes "5"
  · rw [Orderly, if_pos hadmin] at horderly
    obtain ⟨hle, habove⟩ := horderly
    -- either way the cursor goes behind the message and nothing else moves
    have hmoved : y.session.nextIn = seqNum m + 1 ∧ y.session.pending = x.session.pending ∧
        y.processed = x.processed := by
      rw [Exchange.dispatch] at hy
      split at hy
      · cases hy
        rw [Exchange.loggedOn]
        split
        · exact ⟨rfl, rfl, rfl⟩
        · exact ⟨rfl, rfl, rfl⟩
      · rename_i hA
        rw [if_pos (hadmin.resolve_left hA)] at hy
        cases hy
        exact ⟨rfl, rfl, rfl⟩
    obtain ⟨hcursor, hpending, hprocessed⟩ := hmoved
    rw [← hcursor] at hle habove
    exact h.move (fun hs => hadmin.elim hs.1 hs.2) hpending hprocessed hle habove
  rw [Orderly, if_neg hadmin] at horderly
  have hm : Sequenced m := not_or.mp hadmin
  by_cases hstate : x.session.state = .loggedOn
  swap
  · rw [Exchange.dispatch, if_neg hm.1, if_neg hm.2, if_pos hstate] at hy
    cases hy
    exact h.unchanged fun hs => absurd hs hstate
  rcases Exchange.dispatch_cases hm hstate hy with ⟨hseq, hun, rfl⟩ | ⟨hseq, hhandled, z, hz, hd⟩ |
    ⟨hlt, rfl⟩ | ⟨hlate, rfl⟩
  · obtain ⟨hlt, htarget, hrest⟩ := horderly hstate hseq
    rw [if_neg hun] at hrest
    have hcursor : x.taken.session.nextIn = target m := by
      rw [Exchange.target_of_not_handled hun, hseq]
      rfl
    rw [hseq] at hlt
    exact h.drained hseq hlt htarget hcursor rfl rfl rfl
      (Drained.refl (by rw [hcursor]; exact hrest))
  · obtain ⟨hlt, htarget, hrest⟩ := horderly hstate hseq
    rw [if_pos hhandled] at hrest
    obtain ⟨hcursor, hst, hpending, hprocessed⟩ := Exchange.answer_eq_some hseq hz
    rw [hseq] at hlt hprocessed
    refine h.drained hseq hlt htarget hcursor hst hpending hprocessed
      (drain_spec ?_ (hst.trans hstate) ?_ hd)
    · rw [hpending]
      exact h.keyed
    · rw [hpending, hcursor]
      exact hrest
  · exact h.gapDetected hm hlt
  · exact h.unchanged fun _ => hlate

theorem Kept.processInbound (h : Kept x) (horderly : OrderlyText x.session raw)
    (hy : x.processInbound fuel raw = some y) :
    Kept y ∧ x.session.nextIn ≤ y.session.nextIn ∧
      ∀ (k : UInt32) (m : FixMessage), y.session.pending[k]? = some m →
        x.session.pending[k]? = some m ∨ parse raw = .ok m := by
  rw [Exchange.processInbound] at hy
  split at hy
  · cases hy
    exact ⟨⟨h.keyed, h.above, h.below, h.nodup⟩, UInt32.le_refl _, fun k m hk => Or.inl hk⟩
  · rename_i m hparse
    have hstepped := h.dispatch (horderly m hparse) hy
    refine ⟨hstepped.kept, hstepped.forward, fun k m' hk => ?_⟩
    rcases hstepped.origin k m' hk with hold | rfl
    · exact Or.inl hold
    · exact Or.inr hparse

theorem Kept.returns (h : Kept x) (horderly : OrderlyText x.session raw)
    (hends : ReplaysEnd x.session.pending) (hraw : ∀ m, parse raw = .ok m → ReplayEnds m) :
    ∃ y enough, ∀ fuel ≥ enough, x.processInbound fuel raw = some y := by
  cases hparse : parse raw with
  | error status =>
    refine ⟨{ x with session := { x.session with malformed := x.session.malformed + 1 } }, 0,
      fun fuel _ => ?_⟩
    rw [Exchange.processInbound, hparse]
  | ok m =>
    have hdispatch : ∀ fuel, x.processInbound fuel raw = Exchange.dispatch fuel m x := by
      intro fuel
      rw [Exchange.processInbound, hparse]
    -- all branches but one need a single unit of fuel
    have hflat : ∀ y, (∀ fuel, Exchange.dispatch (fuel + 1) m x = some y) →
        ∃ y enough, ∀ fuel ≥ enough, x.processInbound fuel raw = some y := by
      intro y hy
      refine ⟨y, 1, fun fuel hfuel => ?_⟩
      obtain ⟨fuel, rfl⟩ : ∃ k, fuel = k + 1 := ⟨fuel - 1, by omega⟩
      rw [hdispatch, hy]
    by_cases hA : msgType m = asBytes "A"
    · exact hflat _ fun fuel => by rw [Exchange.dispatch, if_pos hA]
    by_cases h5 : msgType m = asBytes "5"
    · exact hflat _ fun fuel => by rw [Exchange.dispatch, if_neg hA, if_pos h5]
    by_cases hstate : x.session.state = .loggedOn
    swap
    · exact hflat _ fun fuel => by rw [Exchange.dispatch, if_neg hA, if_neg h5, if_pos hstate]
    by_cases hseq : seqNum m = x.session.nextIn
    swap
    · by_cases hlt : x.session.nextIn < seqNum m
      · exact hflat _ fun fuel => by
          rw [Exchange.dispatch, if_neg hA, if_neg h5, if_neg (not_not.mpr hstate), if_neg hseq,
            if_pos hlt]
      · exact hflat _ fun fuel => by
          rw [Exchange.dispatch, if_neg hA, if_neg h5, if_neg (not_not.mpr hstate), if_neg hseq,
            if_neg hlt]
    by_cases hhandled : handled (msgType m) = true
    swap
    · exact hflat _ fun fuel => by
        rw [Exchange.dispatch, if_neg hA, if_neg h5, if_neg (not_not.mpr hstate), if_pos hseq,
          if_pos hhandled]
    have hin := horderly m hparse
    rw [Orderly, if_neg (not_or.mpr ⟨hA, h5⟩)] at hin
    obtain ⟨-, -, hrest⟩ := hin hstate hseq
    rw [if_pos hhandled] at hrest
    obtain ⟨z, hz⟩ := @Exchange.answer_isSome m x.taken (hraw m hparse)
    obtain ⟨hcursor, hst, hpending, -⟩ := Exchange.answer_eq_some hseq hz
    obtain ⟨enough, henough⟩ := drain_returns hrest
    obtain ⟨y, hy⟩ := henough z hcursor (by rw [hpending]; exact fun _ _ => rfl)
      (by rw [hpending]; exact h.keyed) (hst.trans hstate) (by rw [hpending]; exact hends)
    refine ⟨y, enough + 1, fun fuel hfuel => ?_⟩
    obtain ⟨fuel, rfl⟩ : ∃ k, fuel = k + 1 := ⟨fuel - 1, by omega⟩
    rw [hdispatch, Exchange.dispatch, if_neg hA, if_neg h5, if_neg (not_not.mpr hstate),
      if_pos hseq, if_neg (not_not.mpr hhandled), hz, Option.bind_some, hy fuel (by omega)]

/-! ## Runs -/

/-- A session up to and just behind its first logon: it may send, and be restored from stored
    numbers, and takes messages in as long as it is not logged on. -/
inductive Opened : FixSession → Prop
  | new (cfg : SessionConfig) : Opened { cfg := cfg }
  | initiate {s : FixSession} : Opened s → Opened s.initiateLogon.2
  | heartbeat {s : FixSession} : Opened s → Opened s.createHeartbeat.2
  | application {s : FixSession} (app : FixMessage) : Opened s → Opened (s.sendApplication app).2
  | restore {s : FixSession} (nextIn nextOut : UInt32) : Opened s →
      Opened { s with nextIn := nextIn, nextOut := nextOut }
  | inbound {s : FixSession} {fuel : Nat} {raw : Bytes} {x : Exchange} : Opened s →
      s.state ≠ .loggedOn → s.start.processInbound fuel raw = some x → Opened x.session

theorem pending_of_not_loggedOn (hstate : x.session.state ≠ .loggedOn)
    (h : x.processInbound fuel raw = some y) : y.session.pending = x.session.pending := by
  rw [Exchange.processInbound] at h
  split at h
  · cases h
    rfl
  rcases fuel with _ | fuel
  · cases h
  rw [Exchange.dispatch, if_pos hstate] at h
  split at h
  · cases h
    rw [Exchange.loggedOn]
    split
    · rfl
    · rfl
  split at h
  · cases h
    rfl
  · cases h
    rfl

theorem Opened.pending_eq_empty (h : Opened s) : s.pending = ∅ := by
  induction h with
  | new cfg => rfl
  | initiate _ ih => exact ih
  | heartbeat _ ih => exact ih
  | application app _ ih => exact ih
  | restore nextIn nextOut _ ih => exact ih
  | inbound _ hstate hx ih => exact (pending_of_not_loggedOn hstate hx).trans ih

theorem receive_concat (fuel : Nat) (x : Exchange) (raws : List Bytes) (raw : Bytes) :
    x.receive fuel (raws ++ [raw])
      = (x.receive fuel raws).bind fun y => y.processInbound fuel raw := by
  rw [Exchange.receive, List.foldlM_append, ← Exchange.receive]
  cases x.receive fuel raws with
  | none => rfl
  | some y => simp

/-- Every message of the run is orderly in the state it meets. -/
def OrderlyRun (s : FixSession) (raws : List Bytes) : Prop :=
  ∀ fuel before raw later x, raws = before ++ raw :: later →
    s.start.receive fuel before = some x → OrderlyText x.session raw

/-- The cursor behind each message of the run is not before the cursor it met, no number has been
    taken in order twice, and every pending number is behind the cursor. -/
def ExactlyOnce (s : FixSession) (raws : List Bytes) : Prop :=
  ∀ fuel before later x, raws = before ++ later → s.start.receive fuel before = some x →
    x.processed.Nodup ∧ (∀ k ∈ x.session.pending, x.session.nextIn < k) ∧
      ∀ raw rest y, later = raw :: rest → x.processInbound fuel raw = some y →
        x.session.nextIn ≤ y.session.nextIn

theorem OrderlyRun.of_append {later : List Bytes} (h : OrderlyRun s (raws ++ later)) :
    OrderlyRun s raws := by
  intro fuel before raw after x heq hx
  exact h fuel before raw (after ++ later) x (by rw [heq, List.append_assoc, List.cons_append]) hx

/-- **Run.** Every state of an orderly run is kept. -/
theorem OrderlyRun.kept (hopened : Opened s) (horderly : OrderlyRun s raws)
    (hx : s.start.receive fuel raws = some x) : Kept x := by
  induction raws using List.reverseRecOn generalizing x with
  | nil =>
    cases hx
    have hpending : s.start.session.pending = ∅ := hopened.pending_eq_empty
    refine ⟨?_, ?_, fun q hq => (by cases hq), List.nodup_nil⟩
    · intro k m hk
      rw [hpending] at hk
      simp at hk
    · intro k hk
      rw [hpending] at hk
      simp at hk
  | append_singleton raws raw ih =>
    rw [receive_concat] at hx
    obtain ⟨y, hy, hstep⟩ := Option.bind_eq_some_iff.mp hx
    have hkept := ih horderly.of_append hy
    exact (hkept.processInbound (horderly fuel raws raw [] y rfl hy) hstep).1

/-- **Run.** An orderly run without an endless replay returns: with enough fuel there is one
    result. -/
theorem OrderlyRun.returns (hopened : Opened s) (horderly : OrderlyRun s raws)
    (hends : ∀ raw ∈ raws, ∀ m, parse raw = .ok m → ReplayEnds m) :
    ∃ x enough, (∀ fuel ≥ enough, s.start.receive fuel raws = some x) ∧
      ReplaysEnd x.session.pending := by
  induction raws using List.reverseRecOn with
  | nil =>
    refine ⟨s.start, 0, fun fuel _ => rfl, ?_⟩
    intro k m hk
    rw [show s.start.session.pending = ∅ from hopened.pending_eq_empty] at hk
    simp at hk
  | append_singleton raws raw ih =>
    obtain ⟨x, enough, hx, hpending⟩ := ih horderly.of_append fun r hr =>
      hends r (List.mem_append_left _ hr)
    have hkept := horderly.of_append.kept hopened (hx enough (Nat.le_refl _))
    have htext := horderly enough raws raw [] x rfl (hx enough (Nat.le_refl _))
    have hraw := hends raw (List.mem_append_right _ List.mem_cons_self)
    obtain ⟨y, more, hy⟩ := hkept.returns htext hpending hraw
    refine ⟨y, max enough more, fun fuel hfuel => ?_, ?_⟩
    · rw [receive_concat, hx fuel (by omega), Option.bind_some, hy fuel (by omega)]
    · intro k m hk
      rcases (hkept.processInbound htext (hy more (Nat.le_refl _))).2.2 k m hk with hold | hnew
      · exact hpending k m hold
      · exact hraw m hnew

/-- **The receive cursor is monotone and exactly-once** in every run whose messages are orderly,
    and such a run returns unless a ResendRequest asks for the numbers up to the largest. -/
theorem cursor_exactly_once {s : FixSession} {raws : List Bytes} (hopened : Opened s)
    (horderly : OrderlyRun s raws) :
    ExactlyOnce s raws ∧
      ((∀ raw ∈ raws, ∀ m, parse raw = .ok m → ReplayEnds m) →
        ∃ x enough, ∀ fuel ≥ enough, s.start.receive fuel raws = some x) := by
  refine ⟨?_, fun hends => ?_⟩
  · intro fuel before later x heq hx
    subst heq
    have hkept := horderly.of_append.kept hopened hx
    refine ⟨hkept.nodup, hkept.above, ?_⟩
    rintro raw rest y rfl hy
    exact (hkept.processInbound (horderly fuel before raw rest x rfl hx) hy).2.1
  · obtain ⟨x, enough, hx, -⟩ := horderly.returns hopened hends
    exact ⟨x, enough, hx⟩

/-! ### Sample runs -/

def inboundMessage (type : String) (seq : UInt32) (extra : List (Int32 × Bytes)) : FixMessage :=
  ⟨insertAll ∅ ([(35, asBytes type), (34, seqText seq), (49, asBytes "VENUE"),
    (56, asBytes "CLIENT")] ++ extra), []⟩

def inboundText (type : String) (seq : UInt32) (extra : List (Int32 × Bytes)) : Bytes :=
  build (inboundMessage type seq extra)

def sampleSession : FixSession := { cfg := {}, state := .loggedOn, nextIn := 2, nextOut := 2 }

theorem opened_sampleSession : Opened sampleSession := by
  have hlogon : (FixSession.start { cfg := {} }).processInbound 1 (inboundText "A" 1 [])
      = some ⟨sampleSession, [(FixSession.replyLogon { cfg := {} } 1).1], []⟩ := by
    decide +kernel
  exact Opened.inbound (Opened.new {}) (by decide) hlogon

/-- An execution report ahead of its turn, then the heartbeat that was missing. -/
def sampleRun : List Bytes := [inboundText "8" 3 [], inboundText "0" 2 []]

/-- The message `parse` makes of a sample text. -/
def parsed (raw : Bytes) : FixMessage :=
  match parse raw with
  | .ok m => m
  | .error _ => ⟨∅, []⟩

def sampleRetained : Exchange := sampleSession.start.gapDetected (parsed (inboundText "8" 3 []))

theorem receive_retained (h : sampleSession.start.receive fuel [inboundText "8" 3 []] = some x) :
    x = sampleRetained := by
  have hparse : parse (inboundText "8" 3 []) = .ok (parsed (inboundText "8" 3 [])) := by
    decide +kernel
  have hsequenced : Sequenced (parsed (inboundText "8" 3 [])) := by
    constructor <;> decide +kernel
  have hy : sampleSession.start.processInbound fuel (inboundText "8" 3 []) = some x := by
    have hstart : sampleSession.start.receive fuel [] = some sampleSession.start := rfl
    rw [← h, ← List.nil_append [inboundText "8" 3 []], receive_concat, hstart, Option.bind_some]
  rw [Exchange.processInbound, hparse] at hy
  rcases fuel with _ | fuel
  · cases hy
  rcases Exchange.dispatch_cases hsequenced rfl hy with ⟨hseq, -⟩ | ⟨hseq, -⟩ | ⟨-, rfl⟩ | ⟨hlt, -⟩
  · exact absurd hseq (by decide +kernel)
  · exact absurd hseq (by decide +kernel)
  · rfl
  · exact absurd hlt (by decide +kernel)

theorem orderlyRun_sampleRun : OrderlyRun sampleSession sampleRun := by
  intro fuel before raw later x heq hx m hm
  have hsplit : (before = [] ∧ raw = inboundText "8" 3 []) ∨
      (before = [inboundText "8" 3 []] ∧ raw = inboundText "0" 2 []) := by
    rcases before with _ | ⟨b, _ | ⟨c, before⟩⟩
    · exact Or.inl ⟨rfl, (List.cons.inj heq).1.symm⟩
    · obtain ⟨rfl, hrest⟩ := List.cons.inj heq
      exact Or.inr ⟨rfl, (List.cons.inj hrest).1.symm⟩
    · simp [sampleRun] at heq
  rcases hsplit with ⟨rfl, rfl⟩ | ⟨rfl, rfl⟩
  · have hmessage : m = parsed (inboundText "8" 3 []) := by rw [parsed, hm]
    cases hx
    rw [Orderly, if_neg (by rw [hmessage]; decide +kernel)]
    intro _ hseq
    exact absurd hseq (by rw [hmessage]; decide +kernel)
  · have hmessage : m = parsed (inboundText "0" 2 []) := by rw [parsed, hm]
    have htarget : target m = 3 := by rw [hmessage]; decide +kernel
    rw [receive_retained hx, Orderly, if_neg (by rw [hmessage]; decide +kernel)]
    intro _ _
    have hpending : ∀ k : UInt32, sampleRetained.session.pending[k]? =
        if 3 = k then some (parsed (inboundText "8" 3 [])) else none := by
      intro k
      have hkey : seqNum (parsed (inboundText "8" 3 [])) = 3 := by decide +kernel
      rw [sampleRetained, Exchange.gapDetected, getElem?_insert_pending, hkey]
      split
      · rfl
      · simp [FixSession.start, sampleSession]
    have hkeys : ∀ k ∈ sampleRetained.session.pending, k = 3 := by
      intro k hk
      obtain ⟨m', hm'⟩ := mem_pending_iff.mp hk
      rw [hpending] at hm'
      split at hm'
      · rename_i hkey
        exact hkey.symm
      · cases hm'
    have hnext : target (parsed (inboundText "8" 3 [])) = 4 := by decide +kernel
    refine ⟨by rw [htarget, hmessage]; decide +kernel, fun k hk => ?_, ?_⟩
    · rw [htarget, hkeys k hk]
      exact UInt32.le_refl _
    · rw [if_pos (by rw [hmessage]; decide +kernel), htarget]
      refine .entry (by rw [hpending, if_pos rfl]) (by rw [hnext]; decide) (fun k hk hlt => ?_) ?_
      · exact absurd hlt (by rw [hkeys k hk]; decide)
      · rw [hnext]
        exact .stop fun hmem => absurd (hkeys 4 hmem) (by decide)

theorem sampleRun_exactly_once :
    OrderlyRun sampleSession sampleRun ∧ ExactlyOnce sampleSession sampleRun :=
  ⟨orderlyRun_sampleRun, (cursor_exactly_once opened_sampleSession orderlyRun_sampleRun).1⟩

/-- A Reject in the place of the heartbeat: the cursor stops at the retained report. -/
def rejectRun : List Bytes := [inboundText "8" 3 [], inboundText "3" 2 []]

/-- A gap fill that names a number before the cursor. -/
def backwardRun : List Bytes := [inboundText "4" 2 [(123, asBytes "Y"), (36, asBytes "1")]]

/-- A message of a type `dispatch` does not handle leaves the retained message at the cursor, and
    a gap fill puts the cursor back. -/
theorem rejectRun_leaves_pending :
    Opened sampleSession ∧ sampleSession.state = .loggedOn ∧
      ¬ ExactlyOnce sampleSession rejectRun ∧ ¬ ExactlyOnce sampleSession backwardRun := by
  refine ⟨opened_sampleSession, rfl, fun h => ?_, fun h => ?_⟩
  · have hstuck : (sampleSession.start.receive 1 rejectRun).any
        (fun x => decide (x.session.nextIn ∈ x.session.pending)) = true := by decide +kernel
    obtain ⟨x, hx, hmem⟩ := (Option.any_eq_true _ _).mp hstuck
    have habove := (h 1 rejectRun [] x (List.append_nil _).symm hx).2.1 _ (of_decide_eq_true hmem)
    exact UInt32.lt_irrefl _ habove
  · have hback : (sampleSession.start.processInbound 2
        (inboundText "4" 2 [(123, asBytes "Y"), (36, asBytes "1")])).any
        (fun y => decide (y.session.nextIn < 2)) = true := by decide +kernel
    obtain ⟨y, hy, hlt⟩ := (Option.any_eq_true _ _).mp hback
    have hle := (h 2 [] backwardRun sampleSession.start rfl rfl).2.2 _ [] y rfl hy
    exact absurd (UInt32.lt_of_le_of_lt hle (of_decide_eq_true hlt)) (by decide)

end LobReplay.Fix
