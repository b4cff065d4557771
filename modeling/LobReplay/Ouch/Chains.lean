/-
  Replace chains over every run of the session. The three maps (orders by current ref, ref to first
  ref, first ref to current ref) describe the same chains: `Chains` says how, next to the refs
  accepted so far and the executions received for each chain, and every call keeps it
  (`Chains.step`).

  An execution for a ref that no message has used yet reaches no order and is dropped.
-/

import LobReplay.Ouch.Refs
import Mathlib.Data.UInt

namespace LobReplay.Ouch.OrderEntrySession

open Foundation
open Std (ExtTreeMap)

/-! ## What a run has accepted and executed -/

/-- The ref a call accepts, with `Accepted` or `Replaced`. -/
def acceptedBy : Call × Reply → Option UInt32
  | (.enter m, .enter .accepted) => some m.userRefNum
  | (.replace m, .replace .replaced) => some m.userRefNum
  | _ => none

def acceptedRefs (calls : List Call) (replies : List Reply) : List UInt32 :=
  (calls.zip replies).filterMap acceptedBy

/-- The shares a call executes for the chain of `origin`: those of an execution for a ref that is
    in the chain when it arrives. -/
def executedOn (session : OrderEntrySession) (origin : UInt32) : Call → UInt32
  | .executed m => if session.chainOrigin[m.userRefNum]? = some origin then m.quantity else 0
  | _ => 0

/-- The shares the calls execute for the chain of `origin`, modulo 2^32. -/
def executedFor (origin : UInt32) : OrderEntrySession → List Call → UInt32
  | _, [] => 0
  | session, call :: calls =>
    session.executedOn origin call + executedFor origin (session.step call).2 calls

theorem executedFor_concat (origin : UInt32) (session : OrderEntrySession) (calls : List Call)
    (call : Call) :
    executedFor origin session (calls ++ [call])
      = executedFor origin session calls + (run step session calls).2.executedOn origin call := by
  induction calls generalizing session with
  | nil =>
    show _ + 0 = 0 + _
    rw [UInt32.add_zero, UInt32.zero_add]
    rfl
  | cons first calls ih =>
    show _ + executedFor origin _ (calls ++ [call]) = _ + _ + _
    rw [ih, UInt32.add_assoc]
    rfl

/-! ## The chains -/

/-- The maps of a session against the refs accepted and the shares executed for each chain. -/
structure Chains (accepted : List UInt32) (executed : UInt32 → UInt32)
    (session : OrderEntrySession) : Prop where
  known : ∀ ref : UInt32, session.chainOrigin[ref]? ≠ none ↔ ref ∈ accepted
  root : ∀ origin : UInt32, session.chainCurrent[origin]? ≠ none →
    session.chainOrigin[origin]? = some origin
  current : ∀ ref origin : UInt32, session.chainOrigin[ref]? = some origin →
    session.chainCurrent[origin]? ≠ none
  order : ∀ origin ref : UInt32, session.chainCurrent[origin]? = some ref →
    session.chainOrigin[ref]? = some origin ∧
      ∃ order, session.orders[ref]? = some order ∧ order.ref = ref ∧
        order.executedCumulative = executed origin
  only : ∀ (ref : UInt32) (order : OrderState), session.orders[ref]? = some order →
    ∃ origin : UInt32, session.chainCurrent[origin]? = some ref
  latest : ∀ origin ref : UInt32, session.chainCurrent[origin]? = some ref →
    (accepted.filter fun r => session.chainOrigin[r]? = some origin).getLast? = some ref
  unexecuted : ∀ origin : UInt32, session.chainCurrent[origin]? = none → executed origin = 0

section

variable {accepted : List UInt32} {executed : UInt32 → UInt32}
  {session session' : OrderEntrySession} {call : Call} {reply : Reply}

theorem getElem?_insert_map {α : Type} (map : ExtTreeMap UInt32 α) (key other : UInt32)
    (value : α) : (map.insert key value)[other]? = if key = other then some value else map[other]? := by
  rw [ExtTreeMap.getElem?_insert]
  by_cases h : key = other
  · rw [if_pos (by simp [h]), if_pos h]
  · rw [if_neg (by simp [h]), if_neg h]

theorem getElem?_erase_map {α : Type} (map : ExtTreeMap UInt32 α) (key other : UInt32) :
    (map.erase key)[other]? = if key = other then none else map[other]? := by
  rw [ExtTreeMap.getElem?_erase]
  by_cases h : key = other
  · rw [if_pos (by simp [h]), if_pos h]
  · rw [if_neg (by simp [h]), if_neg h]

theorem Chains.current_injective (h : Chains accepted executed session) {a b ref : UInt32}
    (ha : session.chainCurrent[a]? = some ref) (hb : session.chainCurrent[b]? = some ref) :
    a = b := by
  have horigin := (h.order a ref ha).1
  rw [(h.order b ref hb).1, Option.some.injEq] at horigin
  exact horigin.symm

theorem chains_start : Chains [] (fun _ => 0) {} := by
  have hnone {α : Type} (key : UInt32) : (∅ : ExtTreeMap UInt32 α)[key]? = none :=
    ExtTreeMap.getElem?_empty
  refine ⟨?_, ?_, ?_, ?_, ?_, ?_, fun _ _ => rfl⟩
  · intro ref
    exact ⟨fun h => absurd (hnone ref) h, fun h => absurd h List.not_mem_nil⟩
  · exact fun origin h => absurd (hnone origin) h
  · intro ref origin h
    rw [hnone] at h
    cases h
  · intro origin ref h
    rw [hnone] at h
    cases h
  · intro ref order h
    rw [hnone] at h
    cases h
  · intro origin ref h
    rw [hnone] at h
    cases h

section

variable (h : Chains accepted executed session)
include h

theorem Chains.rewrite {key origin : UInt32} {order order' : OrderState}
    (hcurrent : session.chainCurrent[origin]? = some key)
    (hfound : session.orders[key]? = some order) (href : order'.ref = order.ref)
    {executed' : UInt32 → UInt32} (hown : order'.executedCumulative = executed' origin)
    (hother : ∀ other, other ≠ origin → executed' other = executed other) :
    Chains accepted executed' (session.rewrite key order') := by
  have horders (ref : UInt32) : (session.rewrite key order').orders[ref]?
      = if key = ref then some order' else session.orders[ref]? :=
    getElem?_insert_map session.orders key ref order'
  refine ⟨h.known, h.root, h.current, ?_, ?_, h.latest, ?_⟩
  · intro chain ref hchain
    change session.chainCurrent[chain]? = some ref at hchain
    obtain ⟨horigin, old, hold, holdRef, hexecuted⟩ := h.order chain ref hchain
    refine ⟨horigin, ?_⟩
    rw [horders]
    by_cases hkey : key = ref
    · -- the order's own chain
      subst hkey
      have hsame : chain = origin := h.current_injective hchain hcurrent
      rw [hfound, Option.some.injEq] at hold
      rw [if_pos rfl, hsame]
      exact ⟨order', rfl, by rw [href, hold, holdRef], hown⟩
    · rw [if_neg hkey]
      refine ⟨old, hold, holdRef, ?_⟩
      rw [hexecuted, hother]
      rintro rfl
      rw [hcurrent, Option.some.injEq] at hchain
      exact hkey hchain
  · intro ref other hother
    rw [horders] at hother
    by_cases hkey : key = ref
    · exact ⟨origin, hkey ▸ hcurrent⟩
    · rw [if_neg hkey] at hother
      exact h.only ref other hother
  · intro chain hchain
    rw [hother, h.unexecuted chain hchain]
    rintro rfl
    have hnone : session.chainCurrent[chain]? = none := hchain
    rw [hcurrent] at hnone
    cases hnone

/-- The same maps, other fields changed. -/
theorem Chains.congr (horders : session'.orders = session.orders)
    (horigin : session'.chainOrigin = session.chainOrigin)
    (hcurrent : session'.chainCurrent = session.chainCurrent) :
    Chains accepted executed session' := by
  refine ⟨?_, ?_, ?_, ?_, ?_, ?_, ?_⟩
  all_goals simp only [horders, horigin, hcurrent]
  · exact h.known
  · exact h.root
  · exact h.current
  · exact h.order
  · exact h.only
  · exact h.latest
  · exact h.unexecuted

theorem Chains.extend (order : OrderState) {origin ref : UInt32} (hnew : ref ∉ accepted)
    (hroot : origin = ref ∨ session.chainOrigin[origin]? = some origin)
    (horigin : ∀ key : UInt32, session'.chainOrigin[key]?
      = if ref = key then some origin else session.chainOrigin[key]?)
    (hcurrent : ∀ key : UInt32, session'.chainCurrent[key]?
      = if origin = key then some ref else session.chainCurrent[key]?)
    (horders : ∀ key : UInt32, session'.orders[key]?
      = if ref = key then some order
        else if session.chainCurrent[origin]? = some key then none else session.orders[key]?)
    (href : order.ref = ref) (hexecuted : order.executedCumulative = executed origin) :
    Chains (accepted ++ [ref]) executed session' := by
  -- a ref of a chain is an accepted one, so it is not the new ref
  have hne {key chain : UInt32} (hkey : session.chainOrigin[key]? = some chain) : ref ≠ key := by
    rintro rfl
    apply hnew
    rw [← h.known, hkey]
    exact Option.some_ne_none chain
  refine ⟨?_, ?_, ?_, ?_, ?_, ?_, ?_⟩
  · intro key
    rw [horigin, List.mem_append, List.mem_singleton, ← h.known]
    by_cases hkey : ref = key
    · rw [if_pos hkey]
      exact ⟨fun _ => .inr hkey.symm, fun _ => Option.some_ne_none origin⟩
    · rw [if_neg hkey]
      exact ⟨.inl, fun hor => hor.resolve_right (Ne.symm hkey)⟩
  · intro chain hchain
    rw [hcurrent] at hchain
    rw [horigin]
    by_cases hsame : origin = chain
    · subst hsame
      rcases hroot with heq | hold
      · rw [if_pos heq.symm]
      · rw [if_neg (hne hold), hold]
    · rw [if_neg hsame] at hchain
      have hold := h.root chain hchain
      rw [if_neg (hne hold), hold]
  · intro key chain hkey
    rw [horigin] at hkey
    rw [hcurrent]
    by_cases hsame : origin = chain
    · rw [if_pos hsame]
      exact Option.some_ne_none ref
    · rw [if_neg hsame]
      by_cases hrefKey : ref = key
      · rw [if_pos hrefKey, Option.some.injEq] at hkey
        exact absurd hkey hsame
      · rw [if_neg hrefKey] at hkey
        exact h.current key chain hkey
  · intro chain key hkey
    rw [hcurrent] at hkey
    rw [horigin, horders]
    by_cases hsame : origin = chain
    · rw [if_pos hsame, Option.some.injEq] at hkey
      rw [if_pos hkey, if_pos hkey, ← hsame, ← hkey]
      exact ⟨rfl, order, rfl, href, hexecuted⟩
    · rw [if_neg hsame] at hkey
      obtain ⟨hold, rest⟩ := h.order chain key hkey
      rw [if_neg (hne hold), if_neg (hne hold), if_neg]
      · exact ⟨hold, rest⟩
      · exact fun hown => hsame (h.current_injective hown hkey)
  · intro key other hkey
    rw [horders] at hkey
    by_cases hrefKey : ref = key
    · refine ⟨origin, ?_⟩
      rw [hcurrent, if_pos rfl, hrefKey]
    · rw [if_neg hrefKey] at hkey
      split at hkey
      · cases hkey
      · rename_i hdropped
        obtain ⟨chain, hchain⟩ := h.only key other hkey
        refine ⟨chain, ?_⟩
        rw [hcurrent, if_neg, hchain]
        rintro rfl
        exact hdropped hchain
  · intro chain key hkey
    rw [hcurrent] at hkey
    have hold : (accepted.filter fun r => session'.chainOrigin[r]? = some chain)
        = accepted.filter fun r => session.chainOrigin[r]? = some chain := by
      apply List.filter_congr
      intro r hr
      rw [horigin, if_neg]
      rintro rfl
      exact hnew hr
    rw [List.filter_append, hold]
    by_cases hsame : origin = chain
    · rw [if_pos hsame, Option.some.injEq] at hkey
      have hlast : ([ref].filter fun r => session'.chainOrigin[r]? = some chain) = [ref] := by
        apply List.filter_cons_of_pos
        rw [horigin, if_pos rfl, hsame]
        simp
      rw [hlast, List.getLast?_concat, hkey]
    · rw [if_neg hsame] at hkey
      have hlast : ([ref].filter fun r => session'.chainOrigin[r]? = some chain) = [] := by
        apply List.filter_cons_of_neg
        rw [horigin, if_pos rfl]
        simp [hsame]
      rw [hlast, List.append_nil]
      exact h.latest chain key hkey
  · intro chain hchain
    rw [hcurrent] at hchain
    split at hchain
    · cases hchain
    · exact h.unexecuted chain hchain

theorem Chains.enter (m : EnterOrder) (hnew : m.userRefNum ∉ accepted) :
    Chains (accepted ++ [m.userRefNum]) executed
      { session.consume m.userRefNum with
        orders := session.orders.insert m.userRefNum (entered m)
        chainOrigin := session.chainOrigin.insert m.userRefNum m.userRefNum
        chainCurrent := session.chainCurrent.insert m.userRefNum m.userRefNum } := by
  have hnone : session.chainCurrent[m.userRefNum]? = none := by
    by_contra hsome
    apply hnew
    rw [← h.known, h.root _ hsome]
    exact Option.some_ne_none _
  refine h.extend (entered m) hnew (.inl rfl) (fun key => getElem?_insert_map _ _ key _)
    (fun key => getElem?_insert_map _ _ key _) ?_ rfl (h.unexecuted _ hnone).symm
  intro key
  rw [hnone, if_neg (Option.some_ne_none key).symm]
  exact getElem?_insert_map _ _ key _

theorem Chains.replace (m : ReplaceOrder) (hnew : m.userRefNum ∉ accepted) {orig : OrderState}
    (hfound : session.orders[m.origUserRefNum]? = some orig) :
    Chains (accepted ++ [m.userRefNum]) executed (session.replace m orig) := by
  obtain ⟨origin, hcurrent⟩ := h.only _ orig hfound
  obtain ⟨hchain, old, hold, href, hexecuted⟩ := h.order _ _ hcurrent
  rw [hfound, Option.some.injEq] at hold
  rw [← hold] at href hexecuted
  have horigin : session.chainOrigin[orig.ref]? = some origin := by rw [href, hchain]
  have hinsert (key : UInt32) : (session.chainOrigin.insertIfNew orig.ref 0)[key]?
      = session.chainOrigin[key]? := by
    rw [ExtTreeMap.getElem?_insertIfNew, if_neg]
    rintro ⟨-, habsent⟩
    apply habsent
    rw [ExtTreeMap.mem_iff_isSome_getElem?, horigin]
    rfl
  have hroot : session.chainOrigin[origin]? = some origin := by
    apply h.root
    rw [hcurrent]
    exact Option.some_ne_none _
  refine h.extend (replacement m orig) hnew (.inr hroot) ?_ ?_ ?_ rfl hexecuted
  · intro key
    show ((session.chainOrigin.insertIfNew orig.ref 0).insert m.userRefNum
      ((session.chainOrigin[orig.ref]?).getD 0))[key]? = _
    rw [getElem?_insert_map, hinsert, horigin]
    rfl
  · intro key
    show (session.chainCurrent.insert ((session.chainOrigin[orig.ref]?).getD 0) m.userRefNum)[key]?
      = _
    rw [getElem?_insert_map, horigin]
    rfl
  · intro key
    show ((session.orders.erase m.origUserRefNum).insert m.userRefNum (replacement m orig))[key]? = _
    rw [getElem?_insert_map, getElem?_erase_map, hcurrent]
    simp only [Option.some.injEq]

end

theorem settle_ref (order : OrderState) : order.settle.ref = order.ref := by
  unfold OrderState.settle
  split
  · rfl
  · rfl

/-- **Step.** A call keeps the chains, with what it accepts and executes. -/
theorem Chains.step (h : Chains accepted executed session)
    (hconsumed : ∀ ref ∈ accepted, session.isConsumed ref)
    (heffect : Effect session call reply session') :
    Chains (accepted ++ (acceptedBy (call, reply)).toList)
      (fun origin => executed origin + session.executedOn origin call) session' := by
  have hnew {ref : UInt32} (hfresh : session.Fresh ref) : ref ∉ accepted :=
    fun hmem => hfresh.1 (hconsumed ref hmem)
  -- a call that executes nothing leaves the shares
  have hquiet (hzero : ∀ origin, session.executedOn origin call = 0) :
      (fun origin => executed origin + session.executedOn origin call) = executed := by
    funext origin
    rw [hzero, UInt32.add_zero]
  -- an order touched in its place, its executions unchanged
  have htouch {key : UInt32} {order order' : OrderState}
      (hfound : session.orders[key]? = some order) (href : order'.ref = order.ref)
      (hsame : order'.executedCumulative = order.executedCumulative) :
      Chains accepted executed (session.rewrite key order') := by
    obtain ⟨origin, hcurrent⟩ := h.only key order hfound
    obtain ⟨-, old, hold, -, hexecuted⟩ := h.order origin key hcurrent
    rw [hfound, Option.some.injEq] at hold
    exact h.rewrite hcurrent hfound href (by rw [hsame, hold, hexecuted]) fun _ _ => rfl
  -- a call that accepts nothing leaves the refs
  have hidle (hnone : acceptedBy (call, reply) = none) :
      accepted ++ (acceptedBy (call, reply)).toList = accepted := by
    rw [hnone, Option.toList_none, List.append_nil]
  cases heffect with
  | enterDuplicate | cancelIgnored | venueIgnored =>
    rw [hquiet fun _ => rfl, hidle rfl]
    exact h
  | enterRejected m _ _ =>
    rw [hquiet fun _ => rfl, hidle rfl]
    exact h.congr rfl rfl rfl
  | enterAccepted m fresh _ =>
    rw [hquiet fun _ => rfl]
    exact h.enter m (hnew fresh)
  | replaceIgnored m outcome ignored _ =>
    rw [hquiet fun _ => rfl, hidle (by rcases ignored with rfl | rfl <;> rfl)]
    exact h
  | takenOut m orig _ found _ _ =>
    rw [hquiet fun _ => rfl, hidle rfl]
    exact htouch found rfl rfl
  | replaceRejected m orig _ _ _ _ =>
    rw [hquiet fun _ => rfl, hidle rfl]
    exact h.congr rfl rfl rfl
  | replaced m orig fresh found _ _ _ _ =>
    rw [hquiet fun _ => rfl]
    exact h.replace m (hnew fresh) found
  | canceled m order found _ _ =>
    rw [hquiet fun _ => rfl, hidle rfl]
    exact htouch found (settle_ref _) (OrderState.settle_counters _).2.1
  | venueCanceled m order found _ =>
    rw [hquiet fun _ => rfl, hidle rfl]
    exact htouch found (settle_ref _) (OrderState.settle_counters _).2.1
  | late on =>
    rw [hquiet fun _ => rfl, hidle rfl]
    exact h.congr rfl rfl rfl
  | executedUnknown m unknown =>
    -- the ref is in no chain
    have hnone : session.chainOrigin[m.userRefNum]? = none := by
      by_contra hsome
      obtain ⟨origin, horigin⟩ := Option.ne_none_iff_exists'.mp hsome
      obtain ⟨key, hkey⟩ := Option.ne_none_iff_exists'.mp (h.current _ _ horigin)
      obtain ⟨-, order, horder, -⟩ := h.order _ _ hkey
      have hmissing := unknown key (by rw [executedKey, horigin]; exact hkey)
      rw [horder] at hmissing
      cases hmissing
    rw [hidle rfl, hquiet fun origin => if_neg (by rw [hnone]; exact (Option.some_ne_none origin).symm)]
    exact h
  | executed m key order reached found =>
    obtain ⟨origin, horigin, hcurrent⟩ := Option.bind_eq_some_iff.mp reached
    obtain ⟨-, old, hold, -, hexecuted⟩ := h.order origin key hcurrent
    rw [found, Option.some.injEq] at hold
    rw [hidle rfl]
    refine h.rewrite hcurrent found ?_ ?_ ?_
    · exact settle_ref _
    · rw [(OrderState.settle_counters _).2.1]
      show order.executedCumulative + m.quantity = executed origin + _
      rw [executedOn, if_pos horigin, hold, hexecuted]
    · intro other hother
      rw [executedOn, if_neg, UInt32.add_zero]
      rw [horigin, Option.some.injEq]
      exact Ne.symm hother

end

theorem acceptedBy_consumedBy {input : Call × Reply} {ref : UInt32}
    (h : acceptedBy input = some ref) : consumedBy input = some ref := by
  unfold acceptedBy at h
  split at h
  · exact h
  · exact h
  · cases h

/-- **Run.** -/
theorem chains_run (calls : List Call) :
    Chains (acceptedRefs calls (run step {} calls).1) (fun origin => executedFor origin {} calls)
      (after calls) := by
  induction calls using List.reverseRecOn with
  | nil => exact chains_start
  | append_singleton calls call ih =>
    have hkept := refsKept_run calls
    have haccepted : ∀ ref ∈ acceptedRefs calls (run step {} calls).1,
        (after calls).isConsumed ref := by
      intro ref href
      apply hkept.consumed
      obtain ⟨input, hmem, hby⟩ := List.mem_filterMap.mp href
      exact List.mem_filterMap.mpr ⟨input, hmem, acceptedBy_consumedBy hby⟩
    have hstep := ih.step haccepted ((after calls).step_effect call)
    have hrefs : acceptedRefs (calls ++ [call]) (run step {} (calls ++ [call])).1
        = acceptedRefs calls (run step {} calls).1 ++
          (acceptedBy (call, ((after calls).step call).1)).toList := by
      rw [run_concat]
      exact filterMap_zip_concat acceptedBy hkept.length_eq _ _
    rw [hrefs, after_concat]
    simp only [executedFor_concat]
    exact hstep

/-- **Chains.** At every point of every run the orders are exactly one for each chain, under the ref
    of the chain that was accepted last, with the executions received for any ref of the chain. -/
theorem chains_never_lose_executions (calls : List Call) :
    (∀ ref ∈ acceptedRefs calls (run step {} calls).1, ∃ origin current order,
      (after calls).chainOrigin[ref]? = some origin ∧
      (after calls).chainCurrent[origin]? = some current ∧
      (after calls).orders[current]? = some order ∧
      order.executedCumulative = executedFor origin {} calls) ∧
    (∀ a b ref : UInt32, (after calls).chainCurrent[a]? = some ref →
      (after calls).chainCurrent[b]? = some ref → a = b) ∧
    (∀ (ref : UInt32) (order : OrderState), (after calls).orders[ref]? = some order →
      order.ref = ref ∧ ∃ origin, (after calls).chainCurrent[origin]? = some ref ∧
        ((acceptedRefs calls (run step {} calls).1).filter fun r =>
          (after calls).chainOrigin[r]? = some origin).getLast? = some ref) ∧
    (∀ ref origin current : UInt32, (after calls).chainOrigin[ref]? = some origin →
      (after calls).chainCurrent[origin]? = some current →
      ((after calls).orders[ref]? ≠ none ↔ ref = current)) := by
  have h := chains_run calls
  refine ⟨?_, fun a b ref => h.current_injective, ?_, ?_⟩
  · intro ref href
    obtain ⟨origin, horigin⟩ := Option.ne_none_iff_exists'.mp ((h.known ref).mpr href)
    obtain ⟨current, hcurrent⟩ := Option.ne_none_iff_exists'.mp (h.current ref origin horigin)
    obtain ⟨-, order, horder, -, hexecuted⟩ := h.order origin current hcurrent
    exact ⟨origin, current, order, horigin, hcurrent, horder, hexecuted⟩
  · intro ref order horder
    obtain ⟨origin, hcurrent⟩ := h.only ref order horder
    obtain ⟨-, other, hother, href, -⟩ := h.order origin ref hcurrent
    rw [horder, Option.some.injEq] at hother
    rw [hother]
    exact ⟨href, origin, hcurrent, h.latest origin ref hcurrent⟩
  · intro ref origin current horigin hcurrent
    refine ⟨?_, ?_⟩
    · intro hsome
      obtain ⟨order, horder⟩ := Option.ne_none_iff_exists'.mp hsome
      obtain ⟨chain, hchain⟩ := h.only ref order horder
      -- the ref is in one chain only
      have hsame := (h.order chain ref hchain).1
      rw [horigin, Option.some.injEq] at hsame
      rw [← hsame, hcurrent, Option.some.injEq] at hchain
      exact hchain.symm
    · rintro rfl
      obtain ⟨-, order, horder, -⟩ := h.order origin ref hcurrent
      rw [horder]
      exact Option.some_ne_none order

/-! ## An execution that comes too early -/

/-- The shares of all executions received for the refs that are in the chain in the end. -/
def receivedFor (session : OrderEntrySession) (origin : UInt32) (calls : List Call) : UInt32 :=
  (calls.map (session.executedOn origin)).sum

/-- The execution of 100 shares for a ref that is entered afterwards is dropped. -/
theorem early_execution_is_dropped :
    (acceptedRefs [.executed ⟨1, 100⟩, .enter ⟨1, 66, 500, 9505000⟩]
      (run step {} [.executed ⟨1, 100⟩, .enter ⟨1, 66, 500, 9505000⟩]).1) = [1] ∧
    ((after [.executed ⟨1, 100⟩, .enter ⟨1, 66, 500, 9505000⟩]).orders[(1 : UInt32)]?).map
      (·.executedCumulative) = some 0 ∧
    receivedFor (after [.executed ⟨1, 100⟩, .enter ⟨1, 66, 500, 9505000⟩]) 1
      [.executed ⟨1, 100⟩, .enter ⟨1, 66, 500, 9505000⟩] = 100 := by
  decide +kernel

end LobReplay.Ouch.OrderEntrySession
