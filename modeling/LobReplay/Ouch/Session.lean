/-
  The OUCH 5.0 order-entry session (cpp/ouch/src/ouch_codec.cpp, `OrderEntrySession`): the three
  inbound messages with their outcomes, and the executions and cancellations of the venue.

  All counters are `uint32_t` and wrap. A message has the fields the session reads.
-/

import LobReplay.Foundation.Machine
import Std.Data.ExtTreeMap.Lemmas

namespace LobReplay.Ouch

open Foundation
open Std (ExtTreeMap)

/-! ## Messages -/

structure EnterOrder where
  userRefNum : UInt32
  side : UInt8
  quantity : UInt32
  price : UInt64
  deriving DecidableEq

structure ReplaceOrder where
  origUserRefNum : UInt32
  userRefNum : UInt32
  quantity : UInt32
  price : UInt64
  deriving DecidableEq

/-- `CancelOrder`: the quantity is the new intended order size. -/
structure CancelOrder where
  userRefNum : UInt32
  quantity : UInt32
  deriving DecidableEq

/-- `Executed`: the quantity is incremental. -/
structure Executed where
  userRefNum : UInt32
  quantity : UInt32
  deriving DecidableEq

/-- `Canceled`: the quantity is incremental. -/
structure Canceled where
  userRefNum : UInt32
  quantity : UInt32
  deriving DecidableEq

inductive EnterOutcome where
  | accepted
  | rejected
  | duplicateIgnored
  deriving DecidableEq

inductive ReplaceOutcome where
  | replaced
  | silentlyIgnored
  | cancelTakeOut
  | rejected
  | duplicateIgnored
  deriving DecidableEq

inductive CancelOutcome where
  | canceled
  | silentlyIgnored
  deriving DecidableEq

/-! ## The session -/

structure OrderState where
  ref : UInt32
  orderRefNum : UInt64
  side : UInt8
  price : UInt64
  totalLiable : UInt32
  executedCumulative : UInt32
  canceledCumulative : UInt32
  live : Bool
  deriving DecidableEq

structure OrderEntrySession where
  lastProcessed : UInt32 := 0
  orders : ExtTreeMap UInt32 OrderState := ∅
  consumed : ExtTreeMap UInt32 Bool := ∅
  /-- Each ref, with the first ref of its chain. -/
  chainOrigin : ExtTreeMap UInt32 UInt32 := ∅
  /-- Each first ref, with the current ref of its chain. -/
  chainCurrent : ExtTreeMap UInt32 UInt32 := ∅
  latePeriod : Bool := false

/-- An order goes out of the book once its open shares, as the session computes them, are 0. -/
def OrderState.settle (order : OrderState) : OrderState :=
  if order.totalLiable - order.executedCumulative - order.canceledCumulative = 0 then
    { order with live := false }
  else order

/-- `total - floor - canceled` of a cancel to the size `quantity`. The subtraction is unsigned: a
    size above the open one wraps. -/
def OrderState.decrement (order : OrderState) (quantity : UInt32) : UInt32 :=
  let floor := if order.executedCumulative < quantity then quantity else order.executedCumulative
  order.totalLiable - floor - order.canceledCumulative

namespace OrderEntrySession

def isConsumed (session : OrderEntrySession) (ref : UInt32) : Prop := session.consumed[ref]? ≠ none

instance (session : OrderEntrySession) (ref : UInt32) : Decidable (session.isConsumed ref) :=
  inferInstanceAs (Decidable (_ ≠ _))

/-- `mark_consumed(ref); last_processed_ = ref`. -/
def consume (session : OrderEntrySession) (ref : UInt32) : OrderEntrySession :=
  { session with consumed := session.consumed.insert ref true, lastProcessed := ref }

def onEnter (session : OrderEntrySession) (m : EnterOrder) : EnterOutcome × OrderEntrySession :=
  if session.isConsumed m.userRefNum ∨ m.userRefNum ≤ session.lastProcessed then
    (.duplicateIgnored, session)
  else if m.quantity = 0 ∨ 1000000 ≤ m.quantity then (.rejected, session.consume m.userRefNum)
  else
    (.accepted,
      { session.consume m.userRefNum with
        orders := session.orders.insert m.userRefNum
          { ref := m.userRefNum, orderRefNum := 0, side := m.side, price := m.price
            totalLiable := m.quantity, executedCumulative := 0, canceledCumulative := 0
            live := true }
        chainOrigin := session.chainOrigin.insert m.userRefNum m.userRefNum
        chainCurrent := session.chainCurrent.insert m.userRefNum m.userRefNum })

/-- `chain_origin_[ref]`, which makes an entry 0 for a ref that has none. -/
def originOf (session : OrderEntrySession) (ref : UInt32) : UInt32 × ExtTreeMap UInt32 UInt32 :=
  ((session.chainOrigin[ref]?).getD 0, session.chainOrigin.insertIfNew ref 0)

/-- The last branch of `on_replace`: the order goes on under the new ref. -/
def replace (session : OrderEntrySession) (m : ReplaceOrder) (orig : OrderState) :
    OrderEntrySession :=
  let (origin, chainOrigin) := session.originOf orig.ref
  { session.consume m.userRefNum with
    orders := (session.orders.erase m.origUserRefNum).insert m.userRefNum
      { ref := m.userRefNum, orderRefNum := 0, side := orig.side, price := m.price
        totalLiable := m.quantity, executedCumulative := orig.executedCumulative
        canceledCumulative := orig.canceledCumulative, live := true }
    chainOrigin := chainOrigin.insert m.userRefNum origin
    chainCurrent := session.chainCurrent.insert origin m.userRefNum }

def onReplace (session : OrderEntrySession) (m : ReplaceOrder) :
    ReplaceOutcome × OrderEntrySession :=
  if session.isConsumed m.userRefNum then (.silentlyIgnored, session)
  else if m.userRefNum ≤ session.lastProcessed then (.duplicateIgnored, session)
  else
    match session.orders[m.origUserRefNum]? with
    | none => (.silentlyIgnored, session)
    | some orig =>
      if orig.live = false then (.silentlyIgnored, session)
      else if m.quantity = 0 ∨ 1000000 ≤ m.quantity ∨ m.quantity ≤ orig.executedCumulative then
        (.cancelTakeOut,
          { session with
            orders := session.orders.insert m.origUserRefNum { orig with live := false } })
      else if session.latePeriod then (.rejected, session.consume m.userRefNum)
      else (.replaced, session.replace m orig)

def onCancel (session : OrderEntrySession) (m : CancelOrder) : CancelOutcome × OrderEntrySession :=
  match session.orders[m.userRefNum]? with
  | none => (.silentlyIgnored, session)
  | some order =>
    if order.live = false then (.silentlyIgnored, session)
    else if order.decrement m.quantity ≤ 0 then (.silentlyIgnored, session)
    else
      let order :=
        { order with canceledCumulative := order.canceledCumulative + order.decrement m.quantity }
      (.canceled, { session with orders := session.orders.insert m.userRefNum order.settle })

/-- The key of the order an execution reaches: the current order of its ref's chain. -/
def executedKey (session : OrderEntrySession) (ref : UInt32) : Option UInt32 := do
  let origin ← session.chainOrigin[ref]?
  session.chainCurrent[origin]?

def onExecuted (session : OrderEntrySession) (m : Executed) : OrderEntrySession :=
  match session.executedKey m.userRefNum with
  | none => session
  | some key =>
    match session.orders[key]? with
    | none => session
    | some order =>
      let order := { order with executedCumulative := order.executedCumulative + m.quantity }
      { session with orders := session.orders.insert key order.settle }

def onCanceled (session : OrderEntrySession) (m : Canceled) : OrderEntrySession :=
  match session.orders[m.userRefNum]? with
  | none => session
  | some order =>
    if order.live = false then session
    else
      let order := { order with canceledCumulative := order.canceledCumulative + m.quantity }
      { session with orders := session.orders.insert m.userRefNum order.settle }

def setLatePeriod (session : OrderEntrySession) (on : Bool) : OrderEntrySession :=
  { session with latePeriod := on }

/-! ## Runs -/

inductive Call where
  | enter (m : EnterOrder)
  | replace (m : ReplaceOrder)
  | cancel (m : CancelOrder)
  | executed (m : Executed)
  | canceled (m : Canceled)
  | latePeriod (on : Bool)
  deriving DecidableEq

/-- What a call answers. -/
inductive Reply where
  | enter (outcome : EnterOutcome)
  | replace (outcome : ReplaceOutcome)
  | cancel (outcome : CancelOutcome)
  | none
  deriving DecidableEq

def step (session : OrderEntrySession) : Call → Reply × OrderEntrySession
  | .enter m => ((session.onEnter m).1 |> .enter, (session.onEnter m).2)
  | .replace m => ((session.onReplace m).1 |> .replace, (session.onReplace m).2)
  | .cancel m => ((session.onCancel m).1 |> .cancel, (session.onCancel m).2)
  | .executed m => (.none, session.onExecuted m)
  | .canceled m => (.none, session.onCanceled m)
  | .latePeriod on => (.none, session.setLatePeriod on)

def after (calls : List Call) : OrderEntrySession := (run step {} calls).2

theorem after_concat (calls : List Call) (call : Call) :
    after (calls ++ [call]) = ((after calls).step call).2 := by
  rw [after, run_concat]
  rfl

/-! ## What a call can do -/

/-- A ref that an enter or a replace may consume. -/
def Fresh (session : OrderEntrySession) (ref : UInt32) : Prop :=
  ¬ session.isConsumed ref ∧ session.lastProcessed < ref

/-- A quantity within the bounds of an order. -/
def Sized (quantity : UInt32) : Prop := quantity ≠ 0 ∧ quantity < 1000000

def rewrite (session : OrderEntrySession) (key : UInt32) (order : OrderState) : OrderEntrySession :=
  { session with orders := session.orders.insert key order }

theorem rewrite_orders_self (session : OrderEntrySession) (key : UInt32) (order : OrderState) :
    (session.rewrite key order).orders[key]? = some order :=
  ExtTreeMap.getElem?_insert_self

def entered (m : EnterOrder) : OrderState where
  ref := m.userRefNum
  orderRefNum := 0
  side := m.side
  price := m.price
  totalLiable := m.quantity
  executedCumulative := 0
  canceledCumulative := 0
  live := true

def replacement (m : ReplaceOrder) (orig : OrderState) : OrderState where
  ref := m.userRefNum
  orderRefNum := 0
  side := orig.side
  price := m.price
  totalLiable := m.quantity
  executedCumulative := orig.executedCumulative
  canceledCumulative := orig.canceledCumulative
  live := true

/-- What a call answers and leaves. -/
inductive Effect (session : OrderEntrySession) : Call → Reply → OrderEntrySession → Prop
  | enterDuplicate (m : EnterOrder) (stale : ¬ session.Fresh m.userRefNum) :
      Effect session (.enter m) (.enter .duplicateIgnored) session
  | enterRejected (m : EnterOrder) (fresh : session.Fresh m.userRefNum)
      (unsized : ¬ Sized m.quantity) :
      Effect session (.enter m) (.enter .rejected) (session.consume m.userRefNum)
  | enterAccepted (m : EnterOrder) (fresh : session.Fresh m.userRefNum) (sized : Sized m.quantity) :
      Effect session (.enter m) (.enter .accepted)
        { session.consume m.userRefNum with
          orders := session.orders.insert m.userRefNum (entered m)
          chainOrigin := session.chainOrigin.insert m.userRefNum m.userRefNum
          chainCurrent := session.chainCurrent.insert m.userRefNum m.userRefNum }
  | replaceIgnored (m : ReplaceOrder) (outcome : ReplaceOutcome)
      (ignored : outcome = .silentlyIgnored ∨ outcome = .duplicateIgnored)
      (idle : ¬ session.Fresh m.userRefNum ∨
        ∀ orig, session.orders[m.origUserRefNum]? = some orig → orig.live = false) :
      Effect session (.replace m) (.replace outcome) session
  | takenOut (m : ReplaceOrder) (orig : OrderState) (fresh : session.Fresh m.userRefNum)
      (found : session.orders[m.origUserRefNum]? = some orig) (live : orig.live = true)
      (unsized : ¬ Sized m.quantity ∨ m.quantity ≤ orig.executedCumulative) :
      Effect session (.replace m) (.replace .cancelTakeOut)
        (session.rewrite m.origUserRefNum { orig with live := false })
  | replaceRejected (m : ReplaceOrder) (orig : OrderState) (fresh : session.Fresh m.userRefNum)
      (found : session.orders[m.origUserRefNum]? = some orig) (live : orig.live = true)
      (late : session.latePeriod = true) :
      Effect session (.replace m) (.replace .rejected) (session.consume m.userRefNum)
  | replaced (m : ReplaceOrder) (orig : OrderState) (fresh : session.Fresh m.userRefNum)
      (found : session.orders[m.origUserRefNum]? = some orig) (live : orig.live = true)
      (sized : Sized m.quantity) (above : orig.executedCumulative < m.quantity)
      (timely : session.latePeriod = false) :
      Effect session (.replace m) (.replace .replaced) (session.replace m orig)
  | cancelIgnored (m : CancelOrder)
      (idle : ∀ order, session.orders[m.userRefNum]? = some order → order.live = true →
        order.decrement m.quantity = 0) :
      Effect session (.cancel m) (.cancel .silentlyIgnored) session
  | canceled (m : CancelOrder) (order : OrderState)
      (found : session.orders[m.userRefNum]? = some order) (live : order.live = true)
      (positive : order.decrement m.quantity ≠ 0) :
      Effect session (.cancel m) (.cancel .canceled)
        (session.rewrite m.userRefNum
          { order with
            canceledCumulative := order.canceledCumulative + order.decrement m.quantity }.settle)
  | executedUnknown (m : Executed)
      (unknown : ∀ key, session.executedKey m.userRefNum = some key → session.orders[key]? = none) :
      Effect session (.executed m) .none session
  | executed (m : Executed) (key : UInt32) (order : OrderState)
      (reached : session.executedKey m.userRefNum = some key)
      (found : session.orders[key]? = some order) :
      Effect session (.executed m) .none
        (session.rewrite key
          { order with executedCumulative := order.executedCumulative + m.quantity }.settle)
  | venueIgnored (m : Canceled)
      (idle : ∀ order, session.orders[m.userRefNum]? = some order → order.live = false) :
      Effect session (.canceled m) .none session
  | venueCanceled (m : Canceled) (order : OrderState)
      (found : session.orders[m.userRefNum]? = some order) (live : order.live = true) :
      Effect session (.canceled m) .none
        (session.rewrite m.userRefNum
          { order with canceledCumulative := order.canceledCumulative + m.quantity }.settle)
  | late (on : Bool) :
      Effect session (.latePeriod on) .none (session.setLatePeriod on)

section

variable (session : OrderEntrySession)

theorem onEnter_effect (m : EnterOrder) :
    Effect session (.enter m) (.enter (session.onEnter m).1) (session.onEnter m).2 := by
  unfold onEnter
  split
  case isTrue h =>
    refine .enterDuplicate m ?_
    rintro ⟨hconsumed, hlast⟩
    rcases h with h | h
    · exact hconsumed h
    · exact absurd hlast (UInt32.not_lt.mpr h)
  case isFalse h =>
    rw [not_or, UInt32.not_le] at h
    split
    case isTrue hsize =>
      refine .enterRejected m h ?_
      rintro ⟨hne, hlt⟩
      rcases hsize with hsize | hsize
      · exact hne hsize
      · exact absurd hlt (UInt32.not_lt.mpr hsize)
    case isFalse hsize =>
      rw [not_or, UInt32.not_le] at hsize
      exact .enterAccepted m h hsize

theorem onReplace_effect (m : ReplaceOrder) :
    Effect session (.replace m) (.replace (session.onReplace m).1) (session.onReplace m).2 := by
  unfold onReplace
  split
  case isTrue hconsumed => exact .replaceIgnored m _ (.inl rfl) (.inl fun h => h.1 hconsumed)
  case isFalse hconsumed =>
    split
    case isTrue hlast =>
      refine .replaceIgnored m _ (.inr rfl) (.inl fun h => ?_)
      exact absurd h.2 (UInt32.not_lt.mpr hlast)
    case isFalse hlast =>
      have hfresh : session.Fresh m.userRefNum := ⟨hconsumed, UInt32.not_le.mp hlast⟩
      rcases hfound : session.orders[m.origUserRefNum]? with _ | orig
      · refine .replaceIgnored m _ (.inl rfl) (.inr ?_)
        intro orig horig
        rw [hfound] at horig
        cases horig
      · dsimp only
        split
        case isTrue hdead =>
          refine .replaceIgnored m _ (.inl rfl) (.inr ?_)
          intro other hother
          rw [hfound, Option.some.injEq] at hother
          rw [← hother]
          exact hdead
        case isFalse hlive =>
          rw [Bool.not_eq_false] at hlive
          split
          case isTrue hsize =>
            refine .takenOut m orig hfresh hfound hlive ?_
            rcases hsize with hzero | hlarge | hbelow
            · exact .inl fun h => h.1 hzero
            · exact .inl fun h => absurd h.2 (UInt32.not_lt.mpr hlarge)
            · exact .inr hbelow
          case isFalse hsize =>
            rw [not_or, not_or, UInt32.not_le, UInt32.not_le] at hsize
            split
            case isTrue hlate => exact .replaceRejected m orig hfresh hfound hlive hlate
            case isFalse hlate =>
              rw [Bool.not_eq_true] at hlate
              exact .replaced m orig hfresh hfound hlive ⟨hsize.1, hsize.2.1⟩ hsize.2.2 hlate

theorem onCancel_effect (m : CancelOrder) :
    Effect session (.cancel m) (.cancel (session.onCancel m).1) (session.onCancel m).2 := by
  unfold onCancel
  rcases hfound : session.orders[m.userRefNum]? with _ | order
  · refine .cancelIgnored m ?_
    intro order horder
    rw [hfound] at horder
    cases horder
  · have hsame {other : OrderState} (hother : session.orders[m.userRefNum]? = some other) :
        order = other := by
      rw [hfound, Option.some.injEq] at hother
      exact hother
    dsimp only
    split
    case isTrue hdead =>
      refine .cancelIgnored m ?_
      intro other hother hlive
      rw [← hsame hother, hdead] at hlive
      cases hlive
    case isFalse hlive =>
      rw [Bool.not_eq_false] at hlive
      split
      case isTrue hzero =>
        refine .cancelIgnored m ?_
        intro other hother _
        rw [← hsame hother]
        exact UInt32.le_zero_iff.mp hzero
      case isFalse hpos =>
        refine .canceled m order hfound hlive ?_
        intro hzero
        exact hpos (UInt32.le_zero_iff.mpr hzero)

theorem onExecuted_effect (m : Executed) :
    Effect session (.executed m) .none (session.onExecuted m) := by
  unfold onExecuted
  rcases hkey : session.executedKey m.userRefNum with _ | key
  · refine .executedUnknown m ?_
    intro key h
    rw [hkey] at h
    cases h
  · dsimp only
    rcases hfound : session.orders[key]? with _ | order
    · refine .executedUnknown m ?_
      intro other h
      rw [hkey, Option.some.injEq] at h
      rw [← h]
      exact hfound
    · exact .executed m key order hkey hfound

theorem onCanceled_effect (m : Canceled) :
    Effect session (.canceled m) .none (session.onCanceled m) := by
  unfold onCanceled
  rcases hfound : session.orders[m.userRefNum]? with _ | order
  · refine .venueIgnored m ?_
    intro order h
    rw [hfound] at h
    cases h
  · dsimp only
    split
    case isTrue hdead =>
      refine .venueIgnored m ?_
      intro other h
      rw [hfound, Option.some.injEq] at h
      rw [← h]
      exact hdead
    case isFalse hlive =>
      rw [Bool.not_eq_false] at hlive
      exact .venueCanceled m order hfound hlive

/-- **Step.** A call does one of the effects. -/
theorem step_effect (call : Call) :
    Effect session call (session.step call).1 (session.step call).2 := by
  cases call with
  | enter m => exact session.onEnter_effect m
  | replace m => exact session.onReplace_effect m
  | cancel m => exact session.onCancel_effect m
  | executed m => exact session.onExecuted_effect m
  | canceled m => exact session.onCanceled_effect m
  | latePeriod on => exact .late on

end

end OrderEntrySession

end LobReplay.Ouch
