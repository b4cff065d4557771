/-
  UserRefNums over every run of the session: a ref is consumed by the one message it is accepted,
  rejected or replaced with, the last processed ref bounds them all, and a message that is processed
  twice in a row changes nothing the second time.
-/

import LobReplay.Ouch.Session

namespace LobReplay.Ouch.OrderEntrySession

open Foundation
open Std (ExtTreeMap)

/-! ## Consumption -/

/-- The ref a call consumes: with `Accepted`, `Rejected` or `Replaced`. -/
def consumedBy : Call × Reply → Option UInt32
  | (.enter m, .enter .accepted) | (.enter m, .enter .rejected) => some m.userRefNum
  | (.replace m, .replace .replaced) | (.replace m, .replace .rejected) => some m.userRefNum
  | _ => none

def consumedRefs (calls : List Call) (replies : List Reply) : List UInt32 :=
  (calls.zip replies).filterMap consumedBy

section

variable {session session' : OrderEntrySession} {call : Call} {reply : Reply} {m : ReplaceOrder}

theorem isConsumed_consume (ref other : UInt32) :
    (session.consume ref).isConsumed other ↔ other = ref ∨ session.isConsumed other := by
  unfold isConsumed consume
  rw [ExtTreeMap.getElem?_insert]
  by_cases h : ref = other
  · rw [if_pos (by simp [h])]
    simp [h]
  · rw [if_neg (by simp [h])]
    simp [Ne.symm h]

/-- **Refs.** A call consumes no ref, or exactly one fresh ref, which becomes the last one
    processed. -/
theorem Effect.refs (h : Effect session call reply session') :
    (consumedBy (call, reply) = none ∧ session'.consumed = session.consumed ∧
      session'.lastProcessed = session.lastProcessed) ∨
    (∃ ref, consumedBy (call, reply) = some ref ∧ session.Fresh ref ∧
      session'.consumed = (session.consume ref).consumed ∧ session'.lastProcessed = ref) := by
  cases h with
  | enterRejected m fresh _ => exact .inr ⟨_, rfl, fresh, rfl, rfl⟩
  | enterAccepted m fresh _ => exact .inr ⟨_, rfl, fresh, rfl, rfl⟩
  | replaceIgnored m outcome ignored _ =>
    rcases ignored with rfl | rfl
    · exact .inl ⟨rfl, rfl, rfl⟩
    · exact .inl ⟨rfl, rfl, rfl⟩
  | replaceRejected m orig fresh _ _ _ => exact .inr ⟨_, rfl, fresh, rfl, rfl⟩
  | replaced m orig fresh _ _ _ _ _ => exact .inr ⟨_, rfl, fresh, rfl, rfl⟩
  | _ => exact .inl ⟨rfl, rfl, rfl⟩

theorem Effect.lastProcessed_le (h : Effect session call reply session') :
    session.lastProcessed ≤ session'.lastProcessed := by
  rcases h.refs with ⟨-, -, hlast⟩ | ⟨ref, -, hfresh, -, hlast⟩
  · rw [hlast]
    exact UInt32.le_refl _
  · rw [hlast]
    exact UInt32.le_of_lt hfresh.2

/-- What the refs of a run and the session say of each other. -/
structure RefsKept (calls : List Call) (replies : List Reply) (session : OrderEntrySession) :
    Prop where
  length_eq : calls.length = replies.length
  bounded : ∀ ref, session.isConsumed ref → ref ≤ session.lastProcessed
  consumed : ∀ ref ∈ consumedRefs calls replies, session.isConsumed ref
  nodup : (consumedRefs calls replies).Nodup

theorem refsKept_start : RefsKept [] [] {} := by
  refine ⟨rfl, ?_, fun _ h => absurd h List.not_mem_nil, List.nodup_nil⟩
  intro ref href
  exact absurd ExtTreeMap.getElem?_empty href

theorem RefsKept.concat {calls : List Call} {replies : List Reply}
    (h : RefsKept calls replies session) (heffect : Effect session call reply session') :
    RefsKept (calls ++ [call]) (replies ++ [reply]) session' := by
  have hlength : (calls ++ [call]).length = (replies ++ [reply]).length := by
    rw [List.length_append, List.length_append, h.length_eq, List.length_singleton,
      List.length_singleton]
  have hrefs : consumedRefs (calls ++ [call]) (replies ++ [reply])
      = consumedRefs calls replies ++ (consumedBy (call, reply)).toList :=
    filterMap_zip_concat consumedBy h.length_eq call reply
  rcases heffect.refs with ⟨hby, hconsumed, hlast⟩ | ⟨ref, hby, hfresh, hconsumed, hlast⟩
  · have hsame {ref : UInt32} : session'.isConsumed ref ↔ session.isConsumed ref := by
      rw [isConsumed, isConsumed, hconsumed]
    refine ⟨hlength, ?_, ?_, ?_⟩
    · intro ref href
      rw [hlast]
      exact h.bounded ref (hsame.mp href)
    · intro ref href
      rw [hrefs, hby, Option.toList_none, List.append_nil] at href
      exact hsame.mpr (h.consumed ref href)
    · rw [hrefs, hby, Option.toList_none, List.append_nil]
      exact h.nodup
  · have hmore {other : UInt32} : session'.isConsumed other ↔ other = ref ∨
        session.isConsumed other := by
      rw [isConsumed, hconsumed]
      exact isConsumed_consume ref other
    refine ⟨hlength, ?_, ?_, ?_⟩
    · intro other hother
      rw [hlast]
      rcases hmore.mp hother with rfl | hother
      · exact UInt32.le_refl _
      · exact UInt32.le_trans (h.bounded other hother) (UInt32.le_of_lt hfresh.2)
    · intro other hother
      rw [hrefs, hby, Option.toList_some, List.mem_append, List.mem_singleton] at hother
      rcases hother with hother | rfl
      · exact hmore.mpr (.inr (h.consumed other hother))
      · exact hmore.mpr (.inl rfl)
    · rw [hrefs, hby, Option.toList_some]
      refine List.nodup_append.mpr ⟨h.nodup, by simp, ?_⟩
      intro other hother last hlastMem heq
      rw [List.mem_singleton] at hlastMem
      -- a fresh ref was not consumed before
      rw [hlastMem] at heq
      rw [heq] at hother
      exact hfresh.1 (h.consumed ref hother)

theorem refsKept_run (calls : List Call) :
    RefsKept calls (run step {} calls).1 (after calls) := by
  refine run_induction (P := RefsKept) refsKept_start ?_ calls
  intro cs os s c h
  exact h.concat (s.step_effect c)

/-! ## Retransmission -/

theorem OrderState.settle_counters (order : OrderState) :
    order.settle.totalLiable = order.totalLiable ∧
      order.settle.executedCumulative = order.executedCumulative ∧
      order.settle.canceledCumulative = order.canceledCumulative := by
  unfold OrderState.settle
  split
  · exact ⟨rfl, rfl, rfl⟩
  · exact ⟨rfl, rfl, rfl⟩

theorem decrement_again (order : OrderState) (quantity : UInt32) :
    { order with
      canceledCumulative := order.canceledCumulative + order.decrement quantity
      }.settle.decrement quantity = 0 := by
  obtain ⟨htotal, hexecuted, hcanceled⟩ := OrderState.settle_counters
    { order with canceledCumulative := order.canceledCumulative + order.decrement quantity }
  unfold OrderState.decrement at *
  rw [htotal, hexecuted, hcanceled]
  dsimp only
  generalize (if order.executedCumulative < quantity then quantity else order.executedCumulative)
    = floor
  generalize order.totalLiable = total
  generalize order.canceledCumulative = canceled
  grind

theorem onEnter_of_stale {m : EnterOrder} (h : ¬ session.Fresh m.userRefNum) :
    (session.onEnter m).2 = session := by
  rw [onEnter, if_pos]
  by_contra hnot
  rw [not_or, UInt32.not_le] at hnot
  exact h hnot

theorem onReplace_of_consumed (h : session.isConsumed m.userRefNum) :
    (session.onReplace m).2 = session := by
  rw [onReplace, if_pos h]

theorem onReplace_of_dead (hfresh : session.Fresh m.userRefNum) {orig : OrderState}
    (hfound : session.orders[m.origUserRefNum]? = some orig) (hdead : orig.live = false) :
    (session.onReplace m).2 = session := by
  rw [onReplace, if_neg hfresh.1, if_neg (UInt32.not_le.mpr hfresh.2), hfound]
  dsimp only
  rw [if_pos hdead]

theorem onCancel_of_spent {m : CancelOrder} {order : OrderState}
    (hfound : session.orders[m.userRefNum]? = some order)
    (hspent : order.decrement m.quantity = 0) :
    (session.onCancel m).2 = session := by
  rw [onCancel, hfound]
  dsimp only
  rw [hspent, if_pos (UInt32.le_refl 0), ite_self]

/-- A message of the client. -/
def Inbound : Call → Prop
  | .enter _ | .replace _ | .cancel _ => True
  | _ => False

/-- **Retransmission.** A client's message, processed twice in a row, leaves what it left the
    first time. -/
theorem step_again (session : OrderEntrySession) {call : Call} (hinbound : Inbound call) :
    ((session.step call).2.step call).2 = (session.step call).2 := by
  have heffect := session.step_effect call
  rcases hstep : session.step call with ⟨reply, session'⟩
  rw [hstep] at heffect
  have hsame : session' = session → (session'.step call).2 = session' := by
    rintro rfl
    rw [hstep]
  have hconsumed (ref : UInt32) : (session.consume ref).isConsumed ref :=
    (isConsumed_consume ref ref).mpr (.inl rfl)
  cases heffect with
  | enterDuplicate | replaceIgnored | cancelIgnored => exact hsame rfl
  | enterRejected m fresh unsized =>
    refine onEnter_of_stale ?_
    exact fun h => h.1 (hconsumed m.userRefNum)
  | enterAccepted m fresh sized =>
    refine onEnter_of_stale ?_
    exact fun h => h.1 (hconsumed m.userRefNum)
  | takenOut m orig fresh found live unsized =>
    refine onReplace_of_dead ?_ (rewrite_orders_self _ _ _) rfl
    exact fresh
  | replaceRejected m orig fresh found live late =>
    refine onReplace_of_consumed ?_
    exact hconsumed m.userRefNum
  | replaced m orig fresh found live sized above timely =>
    refine onReplace_of_consumed ?_
    exact hconsumed m.userRefNum
  | canceled m order found live positive =>
    refine onCancel_of_spent (rewrite_orders_self _ _ _) ?_
    exact decrement_again order m.quantity
  | executedUnknown | executed | venueIgnored | venueCanceled | late => exact hinbound.elim

end

/-! ## The refs of a run -/

/-- **Refs are consumed once and retransmission is harmless**, at every point of every run. -/
theorem refs_consumed_once (calls : List Call) :
    (∀ call, (after calls).lastProcessed ≤ ((after calls).step call).2.lastProcessed) ∧
    (∀ ref, (after calls).isConsumed ref → ref ≤ (after calls).lastProcessed) ∧
    (consumedRefs calls (run step {} calls).1).Nodup ∧
    (∀ m, (((after calls).onReplace m).1 = .silentlyIgnored ∨
        ((after calls).onReplace m).1 = .duplicateIgnored ∨
        ((after calls).onReplace m).1 = .cancelTakeOut) →
      ((after calls).onReplace m).2.consumed = (after calls).consumed ∧
        ((after calls).onReplace m).2.lastProcessed = (after calls).lastProcessed) ∧
    (∀ m, ((after calls).onReplace m).1 = .rejected →
      (after calls).latePeriod = true ∧
        ((after calls).onReplace m).2.orders = (after calls).orders) ∧
    (∀ call, Inbound call →
      (((after calls).step call).2.step call).2 = ((after calls).step call).2) := by
  have hkept := refsKept_run calls
  refine ⟨fun call => ((after calls).step_effect call).lastProcessed_le, hkept.bounded,
    hkept.nodup, ?_, ?_, fun call hinbound => step_again _ hinbound⟩
  · intro m houtcome
    have heffect := (after calls).onReplace_effect m
    generalize ((after calls).onReplace m).1 = outcome at houtcome heffect
    generalize ((after calls).onReplace m).2 = next at heffect
    cases heffect with
    | replaceIgnored => exact ⟨rfl, rfl⟩
    | takenOut => exact ⟨rfl, rfl⟩
    | replaceRejected => simp at houtcome
    | replaced => simp at houtcome
  · intro m houtcome
    have heffect := (after calls).onReplace_effect m
    generalize ((after calls).onReplace m).1 = outcome at houtcome heffect
    generalize ((after calls).onReplace m).2 = next at heffect
    cases heffect with
    | replaceIgnored _ _ ignored => simp [houtcome] at ignored
    | takenOut => cases houtcome
    | replaceRejected _ orig fresh found live late => exact ⟨late, rfl⟩
    | replaced => cases houtcome

end LobReplay.Ouch.OrderEntrySession
