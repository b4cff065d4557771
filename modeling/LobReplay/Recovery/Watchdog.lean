/-
  `Watchdog` of cpp/recovery/src/feed_guard.cpp: whether a ping went unanswered past the deadline.
  Clocks are `uint64_t` milliseconds.

  The watchdog has room for one ping, the newest: a ping that is sent before the deadline of the
  last one has passed puts the deadline off (`Tracks`). It therefore answers for the pings since the
  last pong exactly where the deadline of all of them has passed, or of none.
-/

import Mathlib.Data.List.Induction
import Mathlib.Order.Defs.LinearOrder

namespace LobReplay.Recovery

structure Watchdog where
  deadlineMs : UInt64
  pingOutstanding : Bool := false
  pingSentMs : UInt64 := 0
  lastRttMs : UInt64 := 0
  deriving DecidableEq

namespace Watchdog

/-! ## Calls -/

def onPingSent (wd : Watchdog) (clockMs : UInt64) : Watchdog :=
  { wd with pingOutstanding := true, pingSentMs := clockMs }

/-- `on_pong`; the difference of `uint64_t` wraps. -/
def onPong (wd : Watchdog) (clockMs : UInt64) : Watchdog :=
  if wd.pingOutstanding then
    { wd with lastRttMs := clockMs - wd.pingSentMs, pingOutstanding := false }
  else wd

/-- `expired`; the difference of `uint64_t` wraps. -/
def expired (wd : Watchdog) (clockMs : UInt64) : Bool :=
  wd.pingOutstanding && decide (wd.deadlineMs < clockMs - wd.pingSentMs)

/-- The calls that change a watchdog. -/
inductive Call where
  | onPingSent (clockMs : UInt64)
  | onPong (clockMs : UInt64)
  deriving DecidableEq

def Call.clockMs : Call → UInt64
  | onPingSent clockMs => clockMs
  | onPong clockMs => clockMs

def step (wd : Watchdog) : Call → Watchdog
  | .onPingSent clockMs => wd.onPingSent clockMs
  | .onPong clockMs => wd.onPong clockMs

def after (deadlineMs : UInt64) (calls : List Call) : Watchdog := calls.foldl step { deadlineMs }

/-! ## Unanswered pings -/

/-- A ping was sent at `sent`, and no pong came since. -/
def Unanswered (calls : List Call) (sent : UInt64) : Prop :=
  ∃ before later, calls = before ++ .onPingSent sent :: later ∧ ∀ clockMs, .onPong clockMs ∉ later

/-- The deadline of a ping has passed. -/
def Overdue (deadlineMs now sent : UInt64) : Prop := sent.toNat + deadlineMs.toNat < now.toNat

/-- The watchdog has expired when the deadline of an unanswered ping has passed, and it has not
    when there is no such ping. -/
structure DetectsDeadPeer (deadlineMs : UInt64) (calls : List Call) (now : UInt64) : Prop where
  detected : ∀ sent, Unanswered calls sent → Overdue deadlineMs now sent →
    (after deadlineMs calls).expired now = true
  silent : (∀ sent, Overdue deadlineMs now sent → ¬ Unanswered calls sent) →
    (after deadlineMs calls).expired now = false

section

variable {calls : List Call} {sent clockMs : UInt64} {wd : Watchdog}

theorem not_unanswered_nil : ¬ Unanswered [] sent := by
  rintro ⟨before, later, heq, -⟩
  exact absurd heq.symm (by simp)

theorem unanswered_concat_ping :
    Unanswered (calls ++ [.onPingSent clockMs]) sent ↔ Unanswered calls sent ∨ sent = clockMs := by
  constructor
  · rintro ⟨before, later, heq, hsilent⟩
    rcases List.eq_nil_or_concat later with rfl | ⟨later, last, rfl⟩
    · obtain ⟨-, heq⟩ := List.append_inj' heq rfl
      cases heq
      exact Or.inr rfl
    · rw [List.concat_eq_append, ← List.cons_append, ← List.append_assoc] at heq
      obtain ⟨rfl, -⟩ := List.append_inj' heq rfl
      refine Or.inl ⟨before, later, rfl, fun clockMs hmem => hsilent clockMs ?_⟩
      rw [List.concat_eq_append]
      exact List.mem_append_left _ hmem
  · rintro (⟨before, later, rfl, hsilent⟩ | rfl)
    · refine ⟨before, later ++ [.onPingSent clockMs], by simp, fun clockMs' hmem => ?_⟩
      rcases List.mem_append.mp hmem with hmem | hmem
      · exact hsilent clockMs' hmem
      · simp at hmem
    · exact ⟨calls, [], rfl, fun _ hmem => nomatch hmem⟩

theorem not_unanswered_concat_pong : ¬ Unanswered (calls ++ [.onPong clockMs]) sent := by
  rintro ⟨before, later, heq, hsilent⟩
  rcases List.eq_nil_or_concat later with rfl | ⟨later, last, rfl⟩
  · obtain ⟨-, heq⟩ := List.append_inj' heq rfl
    cases heq
  · rw [List.concat_eq_append, ← List.cons_append, ← List.append_assoc] at heq
    obtain ⟨-, heq⟩ := List.append_inj' heq rfl
    cases heq
    exact hsilent clockMs (by simp)

/-! ## What the watchdog knows of a run -/

/-- The outstanding ping is the newest of the unanswered ones, and there are no others when none
    is outstanding. -/
structure Tracks (deadlineMs : UInt64) (calls : List Call) (wd : Watchdog) : Prop where
  deadline_eq : wd.deadlineMs = deadlineMs
  idle : wd.pingOutstanding = false → ∀ sent, ¬ Unanswered calls sent
  newest : wd.pingOutstanding = true → Unanswered calls wd.pingSentMs ∧
    ∀ sent, Unanswered calls sent → sent ≤ wd.pingSentMs

theorem Unanswered.mem (h : Unanswered calls sent) : sent ∈ calls.map Call.clockMs := by
  obtain ⟨before, later, rfl, -⟩ := h
  exact List.mem_map.mpr ⟨.onPingSent sent, by simp, rfl⟩

/-- **Step.** A ping becomes the newest one, a pong answers them all. -/
theorem Tracks.step {deadlineMs : UInt64} {call : Call} (h : Tracks deadlineMs calls wd)
    (hclocks : ∀ clock ∈ calls.map Call.clockMs, clock ≤ call.clockMs) :
    Tracks deadlineMs (calls ++ [call]) (wd.step call) := by
  cases call with
  | onPingSent clockMs =>
    refine ⟨h.deadline_eq, fun hidle => Bool.noConfusion hidle, fun _ => ?_⟩
    refine ⟨unanswered_concat_ping.mpr (Or.inr rfl), fun sent hsent => ?_⟩
    rcases unanswered_concat_ping.mp hsent with hsent | rfl
    · exact hclocks sent hsent.mem
    · exact UInt64.le_refl _
  | onPong clockMs =>
    have hanswered : (wd.step (.onPong clockMs)).pingOutstanding = false := by
      show (wd.onPong clockMs).pingOutstanding = false
      unfold onPong
      split
      · rfl
      · next hidle => exact Bool.eq_false_iff.mpr hidle
    refine ⟨?_, fun _ sent => not_unanswered_concat_pong, fun houtstanding => ?_⟩
    · show (wd.onPong clockMs).deadlineMs = deadlineMs
      unfold onPong
      split <;> exact h.deadline_eq
    · rw [hanswered] at houtstanding
      cases houtstanding

/-- **Run.** -/
theorem tracks_after (deadlineMs : UInt64)
    (hclocks : (calls.map Call.clockMs).Pairwise (· ≤ ·)) :
    Tracks deadlineMs calls (after deadlineMs calls) := by
  induction calls using List.reverseRecOn with
  | nil => exact ⟨rfl, fun _ _ => not_unanswered_nil, fun h => Bool.noConfusion h⟩
  | append_singleton calls call ih =>
    rw [List.map_append, List.pairwise_append] at hclocks
    obtain ⟨hearlier, -, hlast⟩ := hclocks
    unfold after
    rw [List.foldl_append]
    exact (ih hearlier).step fun clock hmem => hlast clock hmem _ (List.mem_singleton_self _)

theorem expired_iff {now : UInt64} (houtstanding : wd.pingOutstanding = true)
    (hle : wd.pingSentMs ≤ now) :
    wd.expired now = true ↔ Overdue wd.deadlineMs now wd.pingSentMs := by
  unfold expired Overdue
  rw [houtstanding, Bool.true_and, decide_eq_true_iff, UInt64.lt_iff_toNat_lt,
    UInt64.toNat_sub_of_le _ _ hle]
  have := UInt64.le_iff_toNat_le.mp hle
  omega

end

/-- The watchdog detects a dead peer, and no other one, exactly where the pings since the last
    pong are all overdue or none of them is. -/
theorem detectsDeadPeer_iff (deadlineMs : UInt64) {calls : List Call} {now : UInt64}
    (hclocks : (calls.map Call.clockMs ++ [now]).Pairwise (· ≤ ·)) :
    DetectsDeadPeer deadlineMs calls now ↔
      ∀ sent sent', Unanswered calls sent → Unanswered calls sent' →
        Overdue deadlineMs now sent → Overdue deadlineMs now sent' := by
  obtain ⟨hcalls, -, hnow⟩ := List.pairwise_append.mp hclocks
  have htracks := tracks_after deadlineMs hcalls
  cases houtstanding : (after deadlineMs calls).pingOutstanding with
  | false =>
    -- nothing is unanswered, so both sides hold
    have hnone := htracks.idle houtstanding
    refine iff_of_true ⟨fun sent hsent => absurd hsent (hnone sent), fun _ => ?_⟩
      fun sent _ hsent => absurd hsent (hnone sent)
    unfold expired
    rw [houtstanding, Bool.false_and]
  | true =>
    obtain ⟨hlast, hnewest⟩ := htracks.newest houtstanding
    have hexpired := expired_iff houtstanding (hnow _ hlast.mem now (List.mem_singleton_self _))
    rw [htracks.deadline_eq] at hexpired
    constructor
    · intro hdetects sent sent' hsent hsent' hdue
      -- the newest is overdue, so those before it are
      have hlastDue := hexpired.mp (hdetects.detected sent hsent hdue)
      have hle := UInt64.le_iff_toNat_le.mp (hnewest sent' hsent')
      unfold Overdue at hlastDue ⊢
      omega
    · intro hall
      refine ⟨fun sent hsent hdue => hexpired.mpr (hall sent _ hsent hlast hdue), fun hnone => ?_⟩
      exact Bool.eq_false_iff.mpr fun h => hnone _ (hexpired.mp h) hlast

/-- One ping, at 1000: its deadline of 5000 has passed at 6001. -/
theorem single_ping_is_detected : DetectsDeadPeer 5000 [.onPingSent 1000] 6001 := by
  have honly : ∀ sent, Unanswered [.onPingSent 1000] sent → sent = 1000 := fun sent h =>
    ((@unanswered_concat_ping [] sent 1000).mp h).resolve_left not_unanswered_nil
  refine (detectsDeadPeer_iff 5000 (by decide)).mpr fun sent sent' hsent hsent' hdue => ?_
  rw [honly sent' hsent', ← honly sent hsent]
  exact hdue

/-- Pings every 3000 put a deadline of 5000 off: at 8999 the first of them is unanswered for 8999,
    and the watchdog has not expired. -/
theorem periodic_pings_hide_a_dead_peer :
    ([0, 3000, 6000, 8999] : List UInt64).Pairwise (· ≤ ·) ∧
      ¬ DetectsDeadPeer 5000 [.onPingSent 0, .onPingSent 3000, .onPingSent 6000] 8999 := by
  refine ⟨by decide, fun h => ?_⟩
  have hfirst : Unanswered [.onPingSent 0, .onPingSent 3000, .onPingSent 6000] 0 :=
    ⟨[], [.onPingSent 3000, .onPingSent 6000], rfl, fun clockMs hmem => by simp at hmem⟩
  have hexpired := h.detected 0 hfirst (by unfold Overdue; decide)
  revert hexpired
  decide

end Watchdog

end LobReplay.Recovery
