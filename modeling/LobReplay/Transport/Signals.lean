/-
  What a session tells the handover about its epoch: that a successor is to be started, and that
  the epoch has ended.  Each call takes its signals off the ones the state has still to give.
-/

import LobReplay.Foundation.Machine
import LobReplay.Transport.Session

namespace LobReplay.Transport

open Foundation

inductive Signal where
  | handover
  | ended
  deriving DecidableEq

def TransportAction.signal? : TransportAction → Option Signal
  | .beginHandover _ => some .handover
  | .epochClosed _ | .invalidateEpoch _ => some .ended
  | _ => none

/-- The signals a session has still to give, in their order. -/
def TransportState.remaining : TransportState → List Signal
  | .open => [.handover, .ended]
  | .shutdownAnnounced => [.ended]
  | .closed | .failed => []

namespace PublicWsSession

def WsReply.signals : WsReply → List Signal
  | .actions (.ok asked) => asked.filterMap TransportAction.signal?
  | _ => []

/-- The signals of the reply and what remains after it are among what remained before it. -/
def Gives (s : PublicWsSession) (reply : WsReply) (s' : PublicWsSession) : Prop :=
  (reply.signals ++ s'.state.remaining).Sublist s.state.remaining

variable {fromSlice : Bytes → Except String Value} {s : PublicWsSession}

theorem ended_remaining (hlive : ¬ s.state.isTerminal) :
    [Signal.ended].Sublist s.state.remaining := by
  revert hlive
  cases s.state <;> decide

theorem handleData_gives (hlive : ¬ s.state.isTerminal) (payload : Bytes) (monoNs : Nat) :
    Gives s (.actions (s.handleData fromSlice payload monoNs).1)
      (s.handleData fromSlice payload monoNs).2 := by
  unfold handleData
  split
  · exact ended_remaining hlive
  dsimp only
  split
  · exact ended_remaining hlive
  split
  · exact ended_remaining hlive
  split
  · exact ended_remaining hlive
  split
  · next hannounced =>
    -- the first announcement: what remains after it is the end
    show [Signal.handover, Signal.ended].Sublist s.state.remaining
    rw [hannounced.2]
    exact .refl _
  · exact .refl _

theorem handle_gives (input : WsInput) (monoNs : Nat) :
    Gives s (.actions (s.handle fromSlice input monoNs).1)
      (s.handle fromSlice input monoNs).2 := by
  unfold handle
  by_cases hlive : s.state.isTerminal
  · rw [if_pos hlive]
    exact .refl _
  rw [if_neg hlive]
  split
  · exact ended_remaining hlive
  cases input with
  | data payload =>
    exact handleData_gives (s := { s with lastReceiveMonoNs := some monoNs }) hlive payload monoNs
  | ping payload =>
    dsimp only
    unfold handlePing
    split
    · exact ended_remaining hlive
    dsimp only
    split
    · exact ended_remaining hlive
    · exact .refl _
  | pong payload =>
    dsimp only
    split <;> exact .refl _
  | close code reason => exact ended_remaining hlive
  | transportError reason => exact ended_remaining hlive

theorem watchdogTick_gives (nowMonoNs pingIntervalNs pongDeadlineNs : Nat) :
    Gives s (.actions (s.watchdogTick nowMonoNs pingIntervalNs pongDeadlineNs).1)
      (s.watchdogTick nowMonoNs pingIntervalNs pongDeadlineNs).2 := by
  unfold watchdogTick
  by_cases hlive : s.state.isTerminal
  · rw [if_pos hlive]
    exact .refl _
  rw [if_neg hlive]
  split
  · exact .refl _
  split
  · exact .refl _
  dsimp only
  split
  · split
    · exact ended_remaining hlive
    · exact .refl _
  · split <;> exact .refl _

/-- **Step.** -/
theorem step_gives (s : PublicWsSession) (c : WsCall) :
    Gives s (s.step fromSlice c).1 (s.step fromSlice c).2 := by
  cases c with
  | handle input monoNs => exact handle_gives input monoNs
  | watchdogTick nowMonoNs pingIntervalNs pongDeadlineNs =>
    exact watchdogTick_gives nowMonoNs pingIntervalNs pongDeadlineNs
  | drainOne => exact .refl _

/-- **Run.**  A session asks for a handover at most once and reports the end of its epoch at most
    once; after the end it says nothing more. -/
theorem signals_once (fromSlice : Bytes → Except String Value) (s : PublicWsSession)
    (calls : List WsCall) :
    ((run (step fromSlice) s calls).1.flatMap WsReply.signals
      ++ (run (step fromSlice) s calls).2.state.remaining).Sublist s.state.remaining := by
  induction calls generalizing s with
  | nil => exact .refl _
  | cons c calls ih =>
    rw [run_cons, List.flatMap_cons, List.append_assoc]
    exact ((ih (s.step fromSlice c).2).append_left _).trans (step_gives s c)

end PublicWsSession

end LobReplay.Transport
