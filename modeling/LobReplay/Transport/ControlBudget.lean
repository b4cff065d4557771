/-
  The budget of the control frames a session sends: five in a second, pongs and watchdog pings
  together. The queue of the session holds the pongs of the last second and refuses a sixth; the
  pings of the watchdog are neither asked of it nor entered.
-/

import LobReplay.Foundation.SlidingWindow
import LobReplay.Transport.Accounting

namespace LobReplay.Transport

open Foundation

/-! ## What is sent -/

/-- An answer to a server ping. -/
def TransportAction.isPong : TransportAction → Bool
  | .respondPong _ => true
  | _ => false

def TransportAction.isPing : TransportAction → Bool
  | .sendPing _ => true
  | _ => false

/-- An outbound control frame. -/
def TransportAction.isControl (action : TransportAction) : Bool := action.isPong || action.isPing

namespace PublicWsSession

/-- The time of a call of the session. -/
def WsCall.monoNs? : WsCall → Option Nat
  | .handle _ monoNs => some monoNs
  | .watchdogTick nowMonoNs _ _ => some nowMonoNs
  | .drainOne => none

/-- How many actions of a kind a reply has. -/
def WsReply.count (kind : TransportAction → Bool) : WsReply → Nat
  | .actions (.ok done) => done.countP kind
  | _ => 0

/-- When a call that has this reply sends frames of a kind. -/
def sentBy (kind : TransportAction → Bool) (c : WsCall) (reply : WsReply) : List Nat :=
  c.monoNs?.toList.flatMap (List.replicate (reply.count kind))

/-- A call asks for a control frame: a server ping wants its pong, or a watchdog ping is due. -/
def Asks (s : PublicWsSession) : WsCall → Prop
  | .handle (.ping payload) monoNs => s.state.isTerminal = false ∧
      (∀ previous, s.lastReceiveMonoNs = some previous → previous ≤ monoNs) ∧
      payload.length ≤ maxControlPayloadBytes
  | .watchdogTick nowMonoNs pingIntervalNs pongDeadlineNs => s.state.isTerminal = false ∧
      0 < pingIntervalNs ∧ 0 < pongDeadlineNs ∧
      (∀ previous, s.lastWatchdogTickMonoNs = some previous → previous ≤ nowMonoNs) ∧
      s.awaitingPong = false ∧
      ∀ sent, s.lastPingSentMonoNs = some sent → pingIntervalNs ≤ nowMonoNs - sent
  | _ => False

/-- What a call does to the queue, and the control frames it sends. -/
inductive ControlEffect (s : PublicWsSession) (c : WsCall) : WsReply → PublicWsSession → Prop
  /-- A pong is sent and entered. -/
  | pong {payload : Bytes} {monoNs : Nat} {s' : PublicWsSession}
      (hcall : c = .handle (.ping payload) monoNs) (hasks : s.Asks c)
      (hroom : (recent oneSecondNs monoNs s.outboundControlNs).length < maxClientControlPerSecond)
      (hqueue : s'.outboundControlNs = recent oneSecondNs monoNs s.outboundControlNs ++ [monoNs]) :
      ControlEffect s c (.actions (.ok [.respondPong payload])) s'
  /-- The queue is full: the epoch is invalidated. -/
  | full {payload : Bytes} {monoNs : Nat} {reason : String} {s' : PublicWsSession}
      (hcall : c = .handle (.ping payload) monoNs) (hasks : s.Asks c)
      (hfull : maxClientControlPerSecond ≤ (recent oneSecondNs monoNs s.outboundControlNs).length)
      (hqueue : s'.outboundControlNs = recent oneSecondNs monoNs s.outboundControlNs)
      (hstate : s'.state = .failed) :
      ControlEffect s c (.actions (.ok [.invalidateEpoch reason])) s'
  /-- The watchdog sends a ping, whatever the queue holds. -/
  | ping {nowMonoNs pingIntervalNs pongDeadlineNs : Nat} {s' : PublicWsSession}
      (hcall : c = .watchdogTick nowMonoNs pingIntervalNs pongDeadlineNs) (hasks : s.Asks c)
      (hqueue : s'.outboundControlNs = s.outboundControlNs) :
      ControlEffect s c (.actions (.ok [.sendPing []])) s'
  /-- Nothing was asked for, and nothing is sent. -/
  | silent {reply : WsReply} {s' : PublicWsSession} (hasks : ¬ s.Asks c)
      (hreply : reply.count TransportAction.isControl = 0)
      (hqueue : s'.outboundControlNs = s.outboundControlNs) : ControlEffect s c reply s'

section

variable {fromSlice : Bytes → Except String Value} {s : PublicWsSession}

/-- A data frame leaves the queue alone. -/
theorem handleData_control (payload : Bytes) (monoNs : Nat) :
    (WsReply.actions (s.handleData fromSlice payload monoNs).1).count TransportAction.isControl
        = 0 ∧
      (s.handleData fromSlice payload monoNs).2.outboundControlNs = s.outboundControlNs := by
  unfold handleData
  split
  · exact ⟨rfl, rfl⟩
  dsimp only
  split
  · exact ⟨rfl, rfl⟩
  split
  · exact ⟨rfl, rfl⟩
  split
  · exact ⟨rfl, rfl⟩
  · split <;> exact ⟨rfl, rfl⟩

theorem not_regressed {previous : Option Nat} {now : Nat}
    (h : ¬ (previous.any fun previous => decide (now < previous)) = true) :
    ∀ earlier, previous = some earlier → earlier ≤ now := by
  rintro earlier rfl
  simpa using h

theorem handle_control (input : WsInput) (monoNs : Nat) :
    ControlEffect s (.handle input monoNs) (.actions (s.handle fromSlice input monoNs).1)
      (s.handle fromSlice input monoNs).2 := by
  unfold handle
  by_cases hterminal : s.state.isTerminal
  · rw [if_pos hterminal]
    refine .silent (fun hasks => ?_) rfl rfl
    cases input <;> first | exact hasks | exact Bool.noConfusion (hasks.1.symm.trans hterminal)
  rw [if_neg hterminal]
  split
  · next hregressed =>
    refine .silent (fun hasks => ?_) rfl rfl
    cases input with
    | ping payload =>
      obtain ⟨earlier, hearlier, hlt⟩ := any_decide_eq_true.mp hregressed
      exact absurd (hasks.2.1 earlier hearlier) (Nat.not_le.mpr hlt)
    | _ => exact hasks
  next hclock =>
  cases input with
  | data payload =>
    obtain ⟨hreply, hqueue⟩ := @handleData_control fromSlice
      { s with lastReceiveMonoNs := some monoNs } payload monoNs
    exact .silent id hreply hqueue
  | ping payload =>
    dsimp only
    unfold handlePing
    split
    · next hlong =>
      exact .silent (fun hasks => absurd hasks.2.2 (Nat.not_le.mpr hlong)) rfl rfl
    next hshort =>
    have hasks : s.Asks (.handle (.ping payload) monoNs) :=
      ⟨Bool.eq_false_iff.mpr hterminal, not_regressed hclock, Nat.not_lt.mp hshort⟩
    dsimp only
    split
    · next hfull => exact .full rfl hasks hfull rfl rfl
    · next hroom => exact .pong rfl hasks (Nat.not_le.mp hroom) rfl
  | pong payload =>
    dsimp only
    split <;> exact .silent id rfl rfl
  | close code reason => exact .silent id rfl rfl
  | transportError reason => exact .silent id rfl rfl

theorem watchdogTick_control (nowMonoNs pingIntervalNs pongDeadlineNs : Nat) :
    ControlEffect s (.watchdogTick nowMonoNs pingIntervalNs pongDeadlineNs)
      (.actions (s.watchdogTick nowMonoNs pingIntervalNs pongDeadlineNs).1)
      (s.watchdogTick nowMonoNs pingIntervalNs pongDeadlineNs).2 := by
  unfold watchdogTick
  by_cases hterminal : s.state.isTerminal
  · rw [if_pos hterminal]
    exact .silent (fun hasks => Bool.noConfusion (hasks.1.symm.trans hterminal)) rfl rfl
  rw [if_neg hterminal]
  split
  · next hzero =>
    refine .silent (fun hasks => ?_) rfl rfl
    obtain ⟨-, hinterval, hdeadline, -⟩ := hasks
    omega
  next hpositive =>
  split
  · next hregressed =>
    refine .silent (fun hasks => ?_) rfl rfl
    obtain ⟨earlier, hearlier, hlt⟩ := any_decide_eq_true.mp hregressed
    exact absurd (hasks.2.2.2.1 earlier hearlier) (Nat.not_le.mpr hlt)
  next hclock =>
  dsimp only
  split
  · next hawaiting =>
    have hnot : ¬ s.Asks (.watchdogTick nowMonoNs pingIntervalNs pongDeadlineNs) :=
      fun hasks => Bool.noConfusion (hasks.2.2.2.2.1.symm.trans hawaiting)
    split <;> exact .silent hnot rfl rfl
  next hidle =>
  split
  · next hdue =>
    refine .ping rfl ⟨Bool.eq_false_iff.mpr hterminal, by omega, by omega, not_regressed hclock,
      Bool.eq_false_iff.mpr hidle, ?_⟩ rfl
    rintro sent hsent
    rw [hsent] at hdue
    simpa using hdue
  · next hearly =>
    refine .silent (fun hasks => hearly ?_) rfl rfl
    cases hsent : s.lastPingSentMonoNs with
    | none => rfl
    | some sent => exact decide_eq_true (hasks.2.2.2.2.2 sent hsent)

/-- **Step.** Every call. -/
theorem step_control (c : WsCall) :
    ControlEffect s c (s.step fromSlice c).1 (s.step fromSlice c).2 := by
  cases c with
  | handle input monoNs => exact handle_control input monoNs
  | watchdogTick nowMonoNs pingIntervalNs pongDeadlineNs => exact watchdogTick_control _ _ _
  | drainOne => exact .silent id rfl rfl

end

/-! ## Runs -/

variable (fromSlice : Bytes → Except String Value) (s₀ : PublicWsSession)

def after (calls : List WsCall) : PublicWsSession := (run (step fromSlice) s₀ calls).2

def sentTimes (kind : TransportAction → Bool) (calls : List WsCall) : List Nat :=
  (calls.zip (run (step fromSlice) s₀ calls).1).flatMap fun x => sentBy kind x.1 x.2

def callTimes (calls : List WsCall) : List Nat := calls.filterMap WsCall.monoNs?

/-- The queue has room for one more pong; a watchdog ping does not ask it. -/
def Admits (s : PublicWsSession) : WsCall → Prop
  | .handle _ monoNs =>
    (recent oneSecondNs monoNs s.outboundControlNs).length < maxClientControlPerSecond
  | _ => True

/-- A control frame that a call sends finds room among the pongs of the queue and the watchdog
    pings of the last second. -/
def FindsRoom (earlier : List WsCall) (c : WsCall) : Prop :=
  ∀ now, c.monoNs? = some now → (after fromSlice s₀ earlier).Asks c →
    (after fromSlice s₀ earlier).Admits c →
    (recent oneSecondNs now (after fromSlice s₀ earlier).outboundControlNs).length
      + (recent oneSecondNs now (sentTimes fromSlice s₀ TransportAction.isPing earlier)).length
      < maxClientControlPerSecond

/-- A call that asks for a control frame while the budget of the last second is spent invalidates
    the epoch. -/
def Invalidates (earlier : List WsCall) (c : WsCall) : Prop :=
  ∀ now, c.monoNs? = some now → (after fromSlice s₀ earlier).Asks c →
    maxClientControlPerSecond ≤ ((sentTimes fromSlice s₀ TransportAction.isControl earlier).countP
      fun time => now < time + oneSecondNs) →
    (∃ reason, ((after fromSlice s₀ earlier).step fromSlice c).1
      = .actions (.ok [.invalidateEpoch reason])) ∧
    ((after fromSlice s₀ earlier).step fromSlice c).2.state = .failed

/-- No second holds more control frames than the budget, and a run that would exceed it
    invalidates the epoch. -/
structure KeepsControlBudget (calls : List WsCall) : Prop where
  budget : ∀ start, windowCount oneSecondNs start
    (sentTimes fromSlice s₀ TransportAction.isControl calls) ≤ maxClientControlPerSecond
  invalidates : AtEach (Invalidates fromSlice s₀) calls

section

variable {fromSlice : Bytes → Except String Value} {s₀ : PublicWsSession}
  {kind : TransportAction → Bool} {calls : List WsCall} {c : WsCall} {now : Nat}

theorem outboundControlNs_new {epoch : String} {capacity : Nat}
    (hnew : new epoch capacity = .ok s₀) :
    s₀.outboundControlNs = [] := by
  unfold new at hnew
  obtain ⟨-, hnew⟩ := ite_err_eq_ok.mp hnew
  obtain ⟨sink, -, hnew⟩ := bind_eq_ok.mp hnew
  cases hnew
  rfl

theorem after_concat :
    after fromSlice s₀ (calls ++ [c]) = ((after fromSlice s₀ calls).step fromSlice c).2 := by
  unfold after
  rw [run_concat]

theorem sentTimes_concat :
    sentTimes fromSlice s₀ kind (calls ++ [c]) = sentTimes fromSlice s₀ kind calls ++
      sentBy kind c ((after fromSlice s₀ calls).step fromSlice c).1 := by
  unfold sentTimes after
  rw [run_concat, List.zip_append (run_outputs_length ..).symm, List.flatMap_append]
  exact congrArg _ (List.flatMap_singleton ..)

theorem callTimes_concat : callTimes (calls ++ [c]) = callTimes calls ++ c.monoNs?.toList := by
  unfold callTimes
  rw [List.filterMap_append]
  cases h : c.monoNs? <;> simp [h]

theorem count_control (reply : WsReply) :
    reply.count TransportAction.isControl
      = reply.count TransportAction.isPong + reply.count TransportAction.isPing := by
  unfold WsReply.count
  split
  · next done =>
    induction done with
    | nil => rfl
    | cons action done ih =>
      simp only [List.countP_cons, ih]
      cases action <;> simp [TransportAction.isControl, TransportAction.isPong,
        TransportAction.isPing] <;> omega
  · rfl

theorem mem_callTimes_of_sent {time : Nat} (h : time ∈ sentTimes fromSlice s₀ kind calls) :
    time ∈ callTimes calls := by
  induction calls using List.reverseRecOn with
  | nil => cases h
  | append_singleton calls c ih =>
    rw [sentTimes_concat, List.mem_append] at h
    rw [callTimes_concat, List.mem_append]
    refine h.imp ih fun h => ?_
    obtain ⟨now, hnow, htime⟩ := List.mem_flatMap.mp h
    rwa [(List.mem_replicate.mp htime).2]

theorem sentTimes_sorted (hsorted : (callTimes calls).Pairwise (· ≤ ·)) :
    (sentTimes fromSlice s₀ kind calls).Pairwise (· ≤ ·) := by
  induction calls using List.reverseRecOn with
  | nil => exact List.Pairwise.nil
  | append_singleton calls c ih =>
    rw [callTimes_concat] at hsorted
    obtain ⟨hearlier, -, hlast⟩ := List.pairwise_append.mp hsorted
    rw [sentTimes_concat, List.pairwise_append]
    refine ⟨ih hearlier, ?_, fun time htime last hmem => ?_⟩
    · unfold sentBy
      cases c.monoNs? with
      | none => exact List.Pairwise.nil
      | some now =>
        rw [Option.toList_some, List.flatMap_singleton]
        exact List.pairwise_replicate.mpr (Or.inr (Nat.le_refl _))
    · obtain ⟨now, hnow, hmem⟩ := List.mem_flatMap.mp hmem
      rw [(List.mem_replicate.mp hmem).2]
      exact hlast time (mem_callTimes_of_sent htime) now hnow

theorem countP_control (p : Nat → Bool) (calls : List WsCall) :
    (sentTimes fromSlice s₀ TransportAction.isControl calls).countP p
      = (sentTimes fromSlice s₀ TransportAction.isPong calls).countP p
        + (sentTimes fromSlice s₀ TransportAction.isPing calls).countP p := by
  induction calls using List.reverseRecOn with
  | nil => rfl
  | append_singleton calls c ih =>
    have hlast : ∀ reply, (sentBy TransportAction.isControl c reply).countP p
        = (sentBy TransportAction.isPong c reply).countP p
          + (sentBy TransportAction.isPing c reply).countP p := by
      intro reply
      unfold sentBy
      cases c.monoNs? with
      | none => rfl
      | some now =>
        simp only [Option.toList_some, List.flatMap_singleton, List.countP_replicate,
          count_control]
        split <;> omega
    simp only [sentTimes_concat, List.countP_append, ih, hlast]
    omega

/-- **Run.** From the last call on the queue is the pongs sent, as far as the last second goes. -/
theorem recent_queue (hnew : s₀.outboundControlNs = [])
    (hsorted : (callTimes calls).Pairwise (· ≤ ·))
    (hnow : ∀ time ∈ callTimes calls, time ≤ now) :
    recent oneSecondNs now (after fromSlice s₀ calls).outboundControlNs
      = recent oneSecondNs now (sentTimes fromSlice s₀ TransportAction.isPong calls) := by
  induction calls using List.reverseRecOn generalizing now with
  | nil => exact congrArg _ hnew
  | append_singleton calls c ih =>
    rw [callTimes_concat] at hsorted hnow
    obtain ⟨hearlier, -, hlast⟩ := List.pairwise_append.mp hsorted
    have hbefore := ih hearlier fun time hmem => hnow time (List.mem_append_left _ hmem)
    have hsame : ∀ reply (s' : PublicWsSession), WsReply.count TransportAction.isPong reply = 0 →
        recent oneSecondNs now s'.outboundControlNs
          = recent oneSecondNs now (after fromSlice s₀ calls).outboundControlNs →
        recent oneSecondNs now s'.outboundControlNs = recent oneSecondNs now
          (sentTimes fromSlice s₀ TransportAction.isPong calls
            ++ sentBy TransportAction.isPong c reply) := by
      intro reply s' hcount hqueue
      have hnone : sentBy TransportAction.isPong c reply = [] := by
        unfold sentBy
        rw [hcount]
        exact List.flatMap_eq_nil_iff.mpr fun _ _ => rfl
      rw [hnone, List.append_nil, hqueue, hbefore]
    rw [after_concat, sentTimes_concat]
    have heffect := @step_control fromSlice (after fromSlice s₀ calls) c
    generalize (after fromSlice s₀ calls).step fromSlice c = outcome at heffect ⊢
    obtain ⟨reply, s'⟩ := outcome
    cases heffect with
    | @pong payload monoNs _ hcall hasks hroom hqueue =>
      subst hcall
      have hle : monoNs ≤ now := hnow monoNs (List.mem_append_right _ (List.mem_singleton_self _))
      rw [hqueue]
      exact recent_append_congr ((recent_recent hle _).trans hbefore) [monoNs]
    | @full payload monoNs reason _ hcall hasks hfull hqueue hstate =>
      subst hcall
      have hle : monoNs ≤ now := hnow monoNs (List.mem_append_right _ (List.mem_singleton_self _))
      exact hsame _ _ rfl (by rw [hqueue, recent_recent hle])
    | ping hcall hasks hqueue => exact hsame _ _ rfl (by rw [hqueue])
    | silent hasks hreply hqueue =>
      rw [count_control] at hreply
      exact hsame _ _ (Nat.eq_zero_of_add_eq_zero_right hreply) (by rw [hqueue])

theorem countP_recent (hnew : s₀.outboundControlNs = [])
    (hsorted : (callTimes calls).Pairwise (· ≤ ·)) (hnow : ∀ time ∈ callTimes calls, time ≤ now) :
    ((sentTimes fromSlice s₀ TransportAction.isControl calls).countP
        fun time => now < time + oneSecondNs)
      = (recent oneSecondNs now (after fromSlice s₀ calls).outboundControlNs).length
        + (recent oneSecondNs now
            (sentTimes fromSlice s₀ TransportAction.isPing calls)).length := by
  rw [recent_queue hnew hsorted hnow, length_recent (by decide) (sentTimes_sorted hsorted),
    length_recent (by decide) (sentTimes_sorted hsorted), countP_control]

/-- A call sends a frame when it asks for one and is admitted, and none otherwise. -/
theorem sentBy_control (s : PublicWsSession) (htime : c.monoNs? = some now) :
    (s.Asks c ∧ s.Admits c ∧
      sentBy TransportAction.isControl c (s.step fromSlice c).1 = [now]) ∨
    (¬ (s.Asks c ∧ s.Admits c) ∧
      sentBy TransportAction.isControl c (s.step fromSlice c).1 = []) := by
  have heffect := @step_control fromSlice s c
  generalize s.step fromSlice c = outcome at heffect ⊢
  obtain ⟨reply, s'⟩ := outcome
  unfold sentBy
  rw [htime, Option.toList_some, List.flatMap_singleton]
  cases heffect with
  | pong hcall hasks hroom hqueue =>
    subst hcall
    exact Or.inl ⟨hasks, hroom, rfl⟩
  | full hcall hasks hfull hqueue hstate =>
    subst hcall
    exact Or.inr ⟨fun h => absurd h.2 (Nat.not_lt.mpr hfull), rfl⟩
  | ping hcall hasks hqueue =>
    subst hcall
    exact Or.inl ⟨hasks, trivial, rfl⟩
  | silent hasks hreply hqueue =>
    refine Or.inr ⟨fun h => hasks h.1, ?_⟩
    dsimp only
    rw [hreply]
    rfl

/-- **Step.** One more call keeps the windows within the budget iff it finds room. -/
theorem room_iff (hnew : s₀.outboundControlNs = []) (hsorted : (callTimes calls).Pairwise (· ≤ ·))
    (hnow : ∀ now, c.monoNs? = some now → ∀ time ∈ callTimes calls, time ≤ now) :
    AtEach (fun earlier time => (earlier.countP fun t => time < t + oneSecondNs)
        < maxClientControlPerSecond)
      (sentTimes fromSlice s₀ TransportAction.isControl (calls ++ [c])) ↔
    AtEach (fun earlier time => (earlier.countP fun t => time < t + oneSecondNs)
        < maxClientControlPerSecond)
      (sentTimes fromSlice s₀ TransportAction.isControl calls) ∧
        FindsRoom fromSlice s₀ calls c := by
  rw [sentTimes_concat]
  cases htime : c.monoNs? with
  | none =>
    have hnone : ∀ reply, sentBy TransportAction.isControl c reply = [] := by
      intro reply
      unfold sentBy
      rw [htime]
      rfl
    rw [hnone, List.append_nil]
    refine (and_iff_left ?_).symm
    intro now hnow
    rw [htime] at hnow
    cases hnow
  | some now =>
    rcases @sentBy_control fromSlice c now (after fromSlice s₀ calls) htime with
      ⟨hasks, hadmits, hsent⟩ | ⟨hnot, hsent⟩
    · rw [hsent, atEach_concat, countP_recent hnew hsorted (hnow now htime)]
      refine and_congr_right fun _ => ⟨fun hroom now' hnow' _ _ => ?_, fun hroom => ?_⟩
      · rw [htime] at hnow'
        cases hnow'
        exact hroom
      · exact hroom now htime hasks hadmits
    · rw [hsent, List.append_nil]
      exact (and_iff_left fun _ _ hasks hadmits => absurd ⟨hasks, hadmits⟩ hnot).symm

/-- **Run.** No second holds more than the budget iff every call finds room. -/
theorem budget_iff (hnew : s₀.outboundControlNs = [])
    (hsorted : (callTimes calls).Pairwise (· ≤ ·)) :
    (∀ start, windowCount oneSecondNs start (sentTimes fromSlice s₀ TransportAction.isControl calls)
      ≤ maxClientControlPerSecond) ↔ AtEach (FindsRoom fromSlice s₀) calls := by
  rw [windows_le_iff _ (by decide) (sentTimes_sorted hsorted)]
  induction calls using List.reverseRecOn with
  | nil => exact iff_of_true atEach_nil atEach_nil
  | append_singleton calls c ih =>
    rw [callTimes_concat] at hsorted
    obtain ⟨hearlier, -, hlast⟩ := List.pairwise_append.mp hsorted
    rw [atEach_concat, ← ih hearlier]
    exact room_iff hnew hearlier fun now hnow time hmem =>
      hlast time hmem now (Option.mem_toList.mpr hnow)

/-- **Step.** A call that finds room, or a pong the queue refuses, invalidates when the budget is
    spent. -/
theorem FindsRoom.invalidates (hnew : s₀.outboundControlNs = [])
    (hsorted : (callTimes calls).Pairwise (· ≤ ·))
    (hnow : ∀ now, c.monoNs? = some now → ∀ time ∈ callTimes calls, time ≤ now)
    (hroom : FindsRoom fromSlice s₀ calls c) : Invalidates fromSlice s₀ calls c := by
  intro now htime hasks hspent
  rw [countP_recent hnew hsorted (hnow now htime)] at hspent
  have hrefused : ¬ (after fromSlice s₀ calls).Admits c := fun hadmits =>
    absurd (hroom now htime hasks hadmits) (Nat.not_lt.mpr hspent)
  have heffect := @step_control fromSlice (after fromSlice s₀ calls) c
  generalize (after fromSlice s₀ calls).step fromSlice c = outcome at heffect ⊢
  obtain ⟨reply, s'⟩ := outcome
  cases heffect with
  | pong hcall _ hfree hqueue =>
    subst hcall
    exact absurd hfree hrefused
  | full hcall _ hfull hqueue hstate => exact ⟨⟨_, rfl⟩, hstate⟩
  | ping hcall _ hqueue =>
    subst hcall
    exact absurd trivial hrefused
  | silent hnot hreply hqueue => exact absurd hasks hnot

end

/-- A session keeps the budget of its control frames exactly where each frame it sends finds room
    for it among the pongs of the queue and the watchdog pings of the last second. -/
theorem keepsControlBudget_iff (fromSlice : Bytes → Except String Value) {epoch : String}
    {capacity : Nat} {s₀ : PublicWsSession} (hnew : new epoch capacity = .ok s₀)
    {calls : List WsCall} (hsorted : (callTimes calls).Pairwise (· ≤ ·)) :
    KeepsControlBudget fromSlice s₀ calls ↔ AtEach (FindsRoom fromSlice s₀) calls := by
  have hempty : s₀.outboundControlNs = [] := outboundControlNs_new hnew
  refine ⟨fun h => (budget_iff hempty hsorted).mp h.budget, fun h => ?_⟩
  refine ⟨(budget_iff hempty hsorted).mpr h, ?_⟩
  rintro earlier c later rfl
  have htimes : callTimes (earlier ++ c :: later)
      = callTimes earlier ++ (c.monoNs?.toList ++ callTimes later) := by
    rw [List.append_cons, ← List.append_assoc, ← callTimes_concat]
    exact List.filterMap_append
  rw [htimes] at hsorted
  obtain ⟨hearlier, -, hlater⟩ := List.pairwise_append.mp hsorted
  refine FindsRoom.invalidates hempty hearlier (fun now hnow time hmem => ?_)
    (h earlier c later rfl)
  exact hlater time hmem now (List.mem_append_left _ (Option.mem_toList.mpr hnow))

/-- A session answers a server ping. -/
theorem answered_ping_keeps_budget :
    ∃ s₀, new "epoch-a" 1 = .ok s₀ ∧ KeepsControlBudget notJson s₀ [.handle (.ping []) 0] := by
  refine ⟨_, new_sample, (keepsControlBudget_iff notJson new_sample (by decide)).mpr ?_⟩
  refine (@atEach_concat _ _ [] _).mpr ⟨atEach_nil, fun now hnow _ _ => ?_⟩
  show 0 < maxClientControlPerSecond
  decide

/-- A ping of the watchdog, and the pongs of five server pings at the same time. -/
def sixControlCalls : List WsCall :=
  .watchdogTick 0 30 5 :: List.replicate 5 (.handle (.ping []) 0)

theorem six_control_frames_are_sent :
    ∃ s₀, new "epoch-a" 1 = .ok s₀ ∧ (callTimes sixControlCalls).Pairwise (· ≤ ·) ∧
      ¬ KeepsControlBudget notJson s₀ sixControlCalls := by
  refine ⟨_, new_sample, by decide, fun h => ?_⟩
  have hsix := h.budget 0
  revert hsix
  decide

end PublicWsSession

end LobReplay.Transport
