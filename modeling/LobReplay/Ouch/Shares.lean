/-
  Share conservation over every run of the session: no order executes and cancels more than it is
  liable for, and an order with no open share is not live.

  Two messages of the client break it. A cancel to a size above what is left wraps the unsigned
  decrement, and a replace is checked against the executed shares alone, not against the canceled
  ones.
-/

import LobReplay.Ouch.Session
import Mathlib.Algebra.Group.Nat.Defs

namespace LobReplay.Ouch

open Foundation
open Std (ExtTreeMap)

/-! ## Orders -/

namespace OrderState

def openShares (order : OrderState) : Nat :=
  order.totalLiable.toNat - order.executedCumulative.toNat - order.canceledCumulative.toNat

/-- The shares of an order add up. -/
structure Conserved (order : OrderState) : Prop where
  within : order.executedCumulative.toNat + order.canceledCumulative.toNat
    ≤ order.totalLiable.toNat
  bounded : order.totalLiable.toNat < 1000000
  settled : order.openShares = 0 → order.live = false

variable {order : OrderState} {quantity : UInt32}

/-- Within its bounds, the session's own test for an order without open shares is exact. -/
theorem sub_eq_zero_iff
    (h : order.executedCumulative.toNat + order.canceledCumulative.toNat
      ≤ order.totalLiable.toNat) :
    order.totalLiable - order.executedCumulative - order.canceledCumulative = 0 ↔
      order.openShares = 0 := by
  have htotal := order.totalLiable.toNat_lt
  rw [← UInt32.toNat_inj, UInt32.toNat_sub, UInt32.toNat_sub, UInt32.toNat_zero, openShares]
  omega

theorem conserved_settle
    (hwithin : order.executedCumulative.toNat + order.canceledCumulative.toNat
      ≤ order.totalLiable.toNat)
    (hbounded : order.totalLiable.toNat < 1000000) : order.settle.Conserved := by
  unfold settle
  split
  case isTrue hzero => exact ⟨hwithin, hbounded, fun _ => rfl⟩
  case isFalse hopen =>
    refine ⟨hwithin, hbounded, ?_⟩
    intro hnone
    exact absurd ((sub_eq_zero_iff hwithin).mpr hnone) hopen

theorem conserved_of_settle (h : order.settle.Conserved) :
    order.executedCumulative.toNat + order.canceledCumulative.toNat ≤ order.totalLiable.toNat := by
  have hwithin := h.within
  unfold settle at hwithin
  split at hwithin
  · exact hwithin
  · exact hwithin

theorem openShares_settle (order : OrderState) : order.settle.openShares = order.openShares := by
  unfold settle
  split
  · rfl
  · rfl

/-- A cancel to a size that is still open takes off the rest. -/
theorem decrement_toNat
    (hwithin : order.executedCumulative.toNat + order.canceledCumulative.toNat
      ≤ order.totalLiable.toNat)
    (hsize : quantity.toNat + order.canceledCumulative.toNat ≤ order.totalLiable.toNat) :
    (order.decrement quantity).toNat = order.totalLiable.toNat
      - max quantity.toNat order.executedCumulative.toNat - order.canceledCumulative.toNat := by
  have htotal := order.totalLiable.toNat_lt
  unfold decrement
  dsimp only
  rw [UInt32.toNat_sub, UInt32.toNat_sub]
  split
  case isTrue h =>
    rw [UInt32.lt_iff_toNat_lt] at h
    omega
  case isFalse h =>
    rw [UInt32.lt_iff_toNat_lt] at h
    omega

theorem decrement_wraps
    (hwithin : order.executedCumulative.toNat + order.canceledCumulative.toNat
      ≤ order.totalLiable.toNat)
    (hsize : order.totalLiable.toNat < quantity.toNat + order.canceledCumulative.toNat) :
    (order.decrement quantity).toNat = 2 ^ 32 + order.totalLiable.toNat - quantity.toNat
      - order.canceledCumulative.toNat := by
  have htotal := order.totalLiable.toNat_lt
  have hquantity := quantity.toNat_lt
  unfold decrement
  dsimp only
  rw [if_pos (by rw [UInt32.lt_iff_toNat_lt]; omega), UInt32.toNat_sub, UInt32.toNat_sub]
  omega

end OrderState

namespace OrderEntrySession

/-! ## Calls -/

/-- Every tracked order adds up. -/
def Conserved (session : OrderEntrySession) : Prop :=
  ∀ (ref : UInt32) (order : OrderState), session.orders[ref]? = some order → order.Conserved

/-- A message of the venue is for no more than the open shares of the order it reaches. -/
def VenueWithin (session : OrderEntrySession) : Call → Prop
  | .executed m => ∀ (key : UInt32) (order : OrderState),
    session.executedKey m.userRefNum = some key → session.orders[key]? = some order →
      m.quantity.toNat ≤ order.openShares
  | .canceled m => ∀ order : OrderState, session.orders[m.userRefNum]? = some order →
    order.live = true → m.quantity.toNat ≤ order.openShares
  | _ => True

/-- A cancel answers `Canceled` only if it reduces the open shares, and to its size. -/
def CancelExact (session : OrderEntrySession) (m : CancelOrder) : Prop :=
  (session.onCancel m).1 = .canceled →
    ∃ order order' : OrderState, session.orders[m.userRefNum]? = some order ∧
      (session.onCancel m).2.orders[m.userRefNum]? = some order' ∧
      order'.openShares = max m.quantity.toNat order.executedCumulative.toNat
        - order.executedCumulative.toNat ∧
      order'.openShares < order.openShares

/-- A call keeps the shares, and a cancel is exact. -/
def Keeps (session : OrderEntrySession) (call : Call) : Prop :=
  (session.step call).2.Conserved ∧ ∀ m, call = .cancel m → session.CancelExact m

/-- A cancel of a live order is to a size within what is not canceled yet, and a replace that goes
    through is for more than what is executed and canceled. -/
def Careful (session : OrderEntrySession) : Call → Prop
  | .cancel m => ∀ order : OrderState, session.orders[m.userRefNum]? = some order →
    order.live = true →
      m.quantity.toNat + order.canceledCumulative.toNat ≤ order.totalLiable.toNat
  | .replace m => ∀ orig : OrderState, session.orders[m.origUserRefNum]? = some orig →
    orig.live = true → session.Fresh m.userRefNum → Sized m.quantity →
    orig.executedCumulative < m.quantity → session.latePeriod = false →
      orig.executedCumulative.toNat + orig.canceledCumulative.toNat < m.quantity.toNat
  | _ => True

section

variable {session session' : OrderEntrySession} {call : Call} {reply : Reply}

section

variable (h : session.Conserved)
include h

theorem Conserved.of_orders (heq : session'.orders = session.orders) : session'.Conserved := by
  intro ref order horder
  rw [heq] at horder
  exact h ref order horder

theorem conserved_insert_iff {key : UInt32} (order : OrderState)
    (horders : session'.orders = session.orders.insert key order) :
    session'.Conserved ↔ order.Conserved := by
  refine ⟨fun hall => hall key order ?_, ?_⟩
  · rw [horders]
    exact ExtTreeMap.getElem?_insert_self
  · intro hown ref other hother
    rw [horders, ExtTreeMap.getElem?_insert] at hother
    split at hother
    · cases hother
      exact hown
    · exact h ref other hother

theorem keeps_cancel_iff (m : CancelOrder) :
    session.Keeps (.cancel m) ↔ session.Careful (.cancel m) := by
  have heffect := session.onCancel_effect m
  have hkeeps : session.Keeps (.cancel m) ↔
      (session.onCancel m).2.Conserved ∧ session.CancelExact m :=
    and_congr_right fun _ => ⟨fun hall => hall m rfl, fun hm m' heq => by cases heq; exact hm⟩
  rw [hkeeps, CancelExact]
  generalize (session.onCancel m).1 = outcome at heffect ⊢
  generalize (session.onCancel m).2 = next at heffect ⊢
  cases heffect with
  | cancelIgnored _ idle =>
    refine ⟨fun _ => ?_, fun _ => ⟨h, fun himpossible => by cases himpossible⟩⟩
    intro order horder hlive
    have hown := h _ order horder
    have hzero := idle order horder hlive
    by_contra hsize
    have hwraps := OrderState.decrement_wraps hown.within (Nat.lt_of_not_le hsize)
    rw [hzero, UInt32.toNat_zero] at hwraps
    have hquantity := m.quantity.toNat_lt
    have hwithin := hown.within
    omega
  | canceled _ order found live positive =>
    have hown := h _ order found
    have hwithin := hown.within
    have hquantity := m.quantity.toNat_lt
    have htotal := order.totalLiable.toNat_lt
    have hstored := session.rewrite_orders_self m.userRefNum
      { order with
        canceledCumulative := order.canceledCumulative + order.decrement m.quantity }.settle
    -- the canceled shares behind the cancel
    have hcanceled : (order.canceledCumulative + order.decrement m.quantity).toNat
        = (order.canceledCumulative.toNat + (order.decrement m.quantity).toNat) % 2 ^ 32 :=
      UInt32.toNat_add _ _
    refine ⟨?_, ?_⟩
    · rintro ⟨hconserved, hexact⟩ other hother _
      rw [found, Option.some.injEq] at hother
      rw [← hother]
      by_contra hsize
      have hwraps := OrderState.decrement_wraps hwithin (Nat.lt_of_not_le hsize)
      have hafter := OrderState.conserved_of_settle (hconserved _ _ hstored)
      dsimp only at hafter
      obtain ⟨before, behind, hbefore, hbehind, hopen, hless⟩ := hexact rfl
      rw [found, Option.some.injEq] at hbefore
      rw [hstored, Option.some.injEq] at hbehind
      rw [← hbehind, OrderState.openShares_settle, ← hbefore] at hless
      unfold OrderState.openShares at hless
      dsimp only at hless
      omega
    · intro hcareful
      have hsize := hcareful order found live
      have hdecrement := OrderState.decrement_toNat hwithin hsize
      have hpositive : (order.decrement m.quantity).toNat ≠ 0 := by
        intro hzero
        apply positive
        rw [← UInt32.toNat_inj, hzero, UInt32.toNat_zero]
      refine ⟨(conserved_insert_iff h _ rfl).mpr ?_, ?_⟩
      · apply OrderState.conserved_settle
        · dsimp only
          omega
        · exact hown.bounded
      · intro _
        refine ⟨order, _, found, hstored, ?_, ?_⟩
        · rw [OrderState.openShares_settle]
          unfold OrderState.openShares
          dsimp only
          omega
        · rw [OrderState.openShares_settle]
          unfold OrderState.openShares
          dsimp only
          omega

theorem keeps_replace_iff (m : ReplaceOrder) :
    session.Keeps (.replace m) ↔ session.Careful (.replace m) := by
  have heffect := session.onReplace_effect m
  have hkeeps : session.Keeps (.replace m) ↔ (session.onReplace m).2.Conserved :=
    ⟨fun hkeeps => hkeeps.1, fun hconserved => ⟨hconserved, fun _ heq => by cases heq⟩⟩
  rw [hkeeps]
  generalize (session.onReplace m).1 = outcome at heffect
  generalize (session.onReplace m).2 = next at heffect ⊢
  cases heffect with
  | replaceIgnored _ _ ignored idle =>
    refine ⟨fun _ => ?_, fun _ => h⟩
    intro orig horig hlive hfresh
    rcases idle with hstale | hdead
    · exact absurd hfresh hstale
    · rw [hdead orig horig] at hlive
      cases hlive
  | takenOut _ orig fresh found live unsized =>
    have hown := h _ orig found
    have hdead : ({ orig with live := false } : OrderState).Conserved :=
      ⟨hown.within, hown.bounded, fun _ => rfl⟩
    refine ⟨fun _ => ?_, fun _ => (conserved_insert_iff h _ rfl).mpr hdead⟩
    intro other hother _ _ hsized habove
    rw [found, Option.some.injEq] at hother
    rw [← hother] at habove
    rcases unsized with hnot | hbelow
    · exact absurd hsized hnot
    · exact absurd habove (UInt32.not_lt.mpr hbelow)
  | replaceRejected _ orig fresh found live late =>
    refine ⟨fun _ => ?_, fun _ => h.of_orders rfl⟩
    intro _ _ _ _ _ _ htimely
    rw [late] at htimely
    cases htimely
  | replaced _ orig fresh found live sized above timely =>
    have hrest : ({ session with orders := session.orders.erase m.origUserRefNum }
        : OrderEntrySession).Conserved := by
      intro ref other hother
      rw [ExtTreeMap.getElem?_erase] at hother
      split at hother
      · cases hother
      · exact h ref other hother
    have hsized := sized.2
    rw [UInt32.lt_iff_toNat_lt] at hsized
    rw [conserved_insert_iff hrest (replacement m orig) rfl]
    refine ⟨?_, ?_⟩
    · intro hconserved other hother _ _ _ _ _
      rw [found, Option.some.injEq] at hother
      rw [← hother]
      have hwithin := hconserved.within
      -- a replacement is live, so it has an open share
      have hopen : (replacement m orig).openShares ≠ 0 := by
        intro hzero
        have hdead := hconserved.settled hzero
        cases hdead
      unfold OrderState.openShares at hopen
      dsimp only [replacement] at hwithin hopen
      omega
    · intro hcareful
      have hmore := hcareful orig found live fresh sized above timely
      refine ⟨?_, hsized, ?_⟩
      · dsimp only [replacement]
        omega
      · intro hzero
        unfold OrderState.openShares at hzero
        dsimp only [replacement] at hzero
        omega

/-- **Step.** Where the shares add up and the venue's messages are within them, a call keeps them
    iff it is careful. -/
theorem keeps_iff_careful (hvenue : session.VenueWithin call) :
    session.Keeps call ↔ session.Careful call := by
  -- calls that are always careful only have to conserve the shares
  have hfree (hno : ∀ m, call ≠ .cancel m) (hconserved : (session.step call).2.Conserved) :
      session.Keeps call := ⟨hconserved, fun m heq => absurd heq (hno m)⟩
  cases call with
  | cancel m => exact keeps_cancel_iff h m
  | replace m => exact keeps_replace_iff h m
  | latePeriod on =>
    exact ⟨fun _ => trivial, fun _ => hfree (fun _ heq => by cases heq) (h.of_orders rfl)⟩
  | enter m =>
    refine ⟨fun _ => trivial, fun _ => hfree (fun _ heq => by cases heq) ?_⟩
    show (session.onEnter m).2.Conserved
    have heffect := session.onEnter_effect m
    generalize (session.onEnter m).1 = outcome at heffect
    generalize (session.onEnter m).2 = next at heffect ⊢
    cases heffect with
    | enterDuplicate => exact h
    | enterRejected => exact h.of_orders rfl
    | enterAccepted _ fresh sized =>
      refine (conserved_insert_iff h (entered m) rfl).mpr ?_
      have hne : m.quantity.toNat ≠ 0 := by
        intro hzero
        apply sized.1
        rw [← UInt32.toNat_inj, hzero, UInt32.toNat_zero]
      have hlt := sized.2
      rw [UInt32.lt_iff_toNat_lt] at hlt
      refine ⟨Nat.zero_le _, hlt, ?_⟩
      intro hzero
      exact absurd hzero hne
  | executed m =>
    refine ⟨fun _ => trivial, fun _ => hfree (fun _ heq => by cases heq) ?_⟩
    show (session.onExecuted m).Conserved
    have heffect := session.onExecuted_effect m
    generalize session.onExecuted m = next at heffect ⊢
    cases heffect with
    | executedUnknown => exact h
    | executed _ key order reached found =>
      have hown := h key order found
      have hquantity := hvenue key order reached found
      have hwithin := hown.within
      have hbounded := hown.bounded
      unfold OrderState.openShares at hquantity
      refine (conserved_insert_iff h _ rfl).mpr ?_
      apply OrderState.conserved_settle
      · dsimp only
        rw [UInt32.toNat_add]
        omega
      · exact hbounded
  | canceled m =>
    refine ⟨fun _ => trivial, fun _ => hfree (fun _ heq => by cases heq) ?_⟩
    show (session.onCanceled m).Conserved
    have heffect := session.onCanceled_effect m
    generalize session.onCanceled m = next at heffect ⊢
    cases heffect with
    | venueIgnored => exact h
    | venueCanceled _ order found live =>
      have hown := h _ order found
      have hquantity := hvenue order found live
      have hwithin := hown.within
      have hbounded := hown.bounded
      unfold OrderState.openShares at hquantity
      refine (conserved_insert_iff h _ rfl).mpr ?_
      apply OrderState.conserved_settle
      · dsimp only
        rw [UInt32.toNat_add]
        omega
      · exact hbounded

end

end

/-! ## Runs -/

theorem conserved_start : (after []).Conserved := by
  intro ref order horder
  rw [show (after []).orders[ref]? = none from ExtTreeMap.getElem?_empty] at horder
  cases horder

/-- **Share conservation.** In a run whose venue messages are within the open shares, every call
    keeps the shares iff every call is careful. -/
theorem shares_conserved_iff (calls : List Call)
    (hvenue : AtEach (fun before call => (after before).VenueWithin call) calls) :
    AtEach (fun before call => (after before).Keeps call) calls ↔
      AtEach (fun before call => (after before).Careful call) calls := by
  -- the shares add up behind calls that keep them
  have hboth : (AtEach (fun before call => (after before).Keeps call) calls ↔
      AtEach (fun before call => (after before).Careful call) calls) ∧
      (AtEach (fun before call => (after before).Keeps call) calls →
        (after calls).Conserved) := by
    induction calls using List.reverseRecOn with
    | nil => exact ⟨⟨fun _ => atEach_nil, fun _ => atEach_nil⟩, fun _ => conserved_start⟩
    | append_singleton calls call ih =>
      rw [atEach_concat] at hvenue
      obtain ⟨hiff, hconserved⟩ := ih hvenue.1
      refine ⟨?_, ?_⟩
      · rw [atEach_concat, atEach_concat, ← hiff]
        exact and_congr_right fun hkept => keeps_iff_careful (hconserved hkept) hvenue.2
      · intro hkept
        rw [atEach_concat] at hkept
        rw [after_concat]
        exact hkept.2.1
  exact hboth.1

/-- An order of 500 of which 100 execute, cut down to 300 and then replaced by one of 400. -/
theorem partial_fill_keeps_shares :
    AtEach (fun before call => (after before).Keeps call)
      [.enter ⟨1, 66, 500, 9505000⟩, .executed ⟨1, 100⟩, .cancel ⟨1, 300⟩,
        .replace ⟨1, 2, 400, 9505000⟩] := by
  refine (shares_conserved_iff _ ?_).mpr ?_
  · rw [show ([.enter ⟨1, 66, 500, 9505000⟩, .executed ⟨1, 100⟩, .cancel ⟨1, 300⟩,
        .replace ⟨1, 2, 400, 9505000⟩] : List Call)
      = [] ++ [.enter ⟨1, 66, 500, 9505000⟩] ++ [.executed ⟨1, 100⟩] ++ [.cancel ⟨1, 300⟩]
        ++ [.replace ⟨1, 2, 400, 9505000⟩] from rfl]
    simp only [atEach_concat]
    refine ⟨⟨⟨⟨atEach_nil, trivial⟩, ?_⟩, trivial⟩, trivial⟩
    intro key order hkey horder
    rw [show (after ([] ++ [.enter ⟨1, 66, 500, 9505000⟩])).executedKey 1 = some 1 by
      decide +kernel, Option.some.injEq] at hkey
    rw [← hkey, show (after ([] ++ [.enter ⟨1, 66, 500, 9505000⟩])).orders[(1 : UInt32)]?
      = some (entered ⟨1, 66, 500, 9505000⟩) by decide +kernel, Option.some.injEq] at horder
    rw [← horder]
    decide
  · rw [show ([.enter ⟨1, 66, 500, 9505000⟩, .executed ⟨1, 100⟩, .cancel ⟨1, 300⟩,
        .replace ⟨1, 2, 400, 9505000⟩] : List Call)
      = [] ++ [.enter ⟨1, 66, 500, 9505000⟩] ++ [.executed ⟨1, 100⟩] ++ [.cancel ⟨1, 300⟩]
        ++ [.replace ⟨1, 2, 400, 9505000⟩] from rfl]
    simp only [atEach_concat]
    refine ⟨⟨⟨⟨atEach_nil, trivial⟩, trivial⟩, ?_⟩, ?_⟩
    · intro order horder _
      have hcanceled := congrArg (Option.map fun o : OrderState =>
        decide (300 + o.canceledCumulative.toNat ≤ o.totalLiable.toNat)) horder
      rw [show Option.map _ _ = some true by decide +kernel, Option.map_some, Option.some.injEq]
        at hcanceled
      exact of_decide_eq_true hcanceled.symm
    · intro orig horig _ _ _ _ _
      have hmore := congrArg (Option.map fun o : OrderState =>
        decide (o.executedCumulative.toNat + o.canceledCumulative.toNat < 400)) horig
      rw [show Option.map _ _ = some true by decide +kernel, Option.map_some, Option.some.injEq]
        at hmore
      exact of_decide_eq_true hmore.symm

/-! ## Shares that come back -/

/-- An order of 500 cut down to 300: a second cancel to 400 leaves 400 open shares, and a cancel of
    an order of 500 to 600 leaves more canceled shares than it is liable for. -/
theorem cancel_gives_shares_back :
    ((after [.enter ⟨1, 66, 500, 9505000⟩, .cancel ⟨1, 300⟩]).step (.cancel ⟨1, 400⟩)).1
      = .cancel .canceled ∧
    ((after [.enter ⟨1, 66, 500, 9505000⟩, .cancel ⟨1, 300⟩]).orders[(1 : UInt32)]?).map
      (·.openShares) = some 300 ∧
    ((after [.enter ⟨1, 66, 500, 9505000⟩, .cancel ⟨1, 300⟩, .cancel ⟨1, 400⟩]).orders[
      (1 : UInt32)]?).map (·.openShares) = some 400 ∧
    ((after [.enter ⟨1, 66, 500, 9505000⟩, .cancel ⟨1, 600⟩]).orders[(1 : UInt32)]?).map
      (fun o => (o.totalLiable.toNat, o.canceledCumulative.toNat)) = some (500, 4294967196) ∧
    ((after [.enter ⟨1, 66, 500, 9505000⟩, .cancel ⟨1, 300⟩,
      .replace ⟨1, 2, 100, 9505000⟩]).orders[(2 : UInt32)]?).map
      (fun o => (o.totalLiable.toNat, o.canceledCumulative.toNat)) = some (100, 200) ∧
    ¬ (after [.enter ⟨1, 66, 500, 9505000⟩, .cancel ⟨1, 600⟩]).Conserved := by
  refine ⟨by decide +kernel, by decide +kernel, by decide +kernel, by decide +kernel,
    by decide +kernel, ?_⟩
  intro hconserved
  have hwithin := (hconserved 1 ⟨1, 0, 66, 9505000, 500, 0, 4294967196, true⟩ (by
    decide +kernel)).within
  exact absurd hwithin (by decide)

end OrderEntrySession

end LobReplay.Ouch
