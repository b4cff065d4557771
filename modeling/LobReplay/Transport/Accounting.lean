/-
  A public WebSocket session accounts for every data frame it receives. `Accounted` relates a
  session to the calls made on it and their replies: the frames that were queued have the indexes 0,
  1, 2, … and are those that were drained, followed by those still in the queue.
-/

import LobReplay.Transport.Session

namespace LobReplay.Transport

open Foundation

namespace PublicWsSession

/-! ## Histories -/

/-- The data frame a call has queued: its index, its time and its payload. -/
def queuedBy : WsCall × WsReply → Option QueuedRawFrame
  | (.handle (.data payload) monoNs, .actions (.ok (.rawEnqueued frameIndex :: _))) =>
    some ⟨frameIndex, monoNs, payload⟩
  | _ => none

def queuedFrames (calls : List WsCall) (replies : List WsReply) : List QueuedRawFrame :=
  (calls.zip replies).filterMap queuedBy

def WsReply.frame? : WsReply → Option QueuedRawFrame
  | .drained frame => frame
  | .actions _ => none

def drainedFrames (replies : List WsReply) : List QueuedRawFrame :=
  replies.filterMap WsReply.frame?

def WsReply.indexes : WsReply → List Nat
  | .actions (.ok done) => enqueuedIndexes done
  | _ => []

def reportedIndexes (replies : List WsReply) : List Nat := replies.flatMap WsReply.indexes

structure Accounted (capacity : Nat) (calls : List WsCall) (replies : List WsReply)
    (s : PublicWsSession) : Prop where
  length_eq : calls.length = replies.length
  indexes : reportedIndexes replies = List.range s.rawSink.enqueued
  frames : drainedFrames replies ++ s.rawSink.queue = queuedFrames calls replies
  numbered : (queuedFrames calls replies).map (·.frameIndex) = List.range s.rawSink.enqueued
  next_eq : s.nextFrameIndex = s.rawSink.enqueued
  balance : s.rawSink.enqueued = s.rawSink.drained + s.rawSink.depth
  capacity_eq : s.rawSink.capacity = capacity
  depth_le : s.rawSink.depth ≤ capacity

section

variable {capacity : Nat} {calls : List WsCall} {replies : List WsReply} {s s' : PublicWsSession}
  {c : WsCall} {reply : WsReply}

theorem queuedFrames_concat (hlength : calls.length = replies.length) :
    queuedFrames (calls ++ [c]) (replies ++ [reply])
      = queuedFrames calls replies ++ (queuedBy (c, reply)).toList :=
  filterMap_zip_concat queuedBy hlength c reply

theorem drainedFrames_concat :
    drainedFrames (replies ++ [reply]) = drainedFrames replies ++ reply.frame?.toList := by
  unfold drainedFrames
  rw [List.filterMap_append]
  cases hframe : reply.frame? with
  | none => rw [List.filterMap_cons_none hframe]; rfl
  | some frame => rw [List.filterMap_cons_some hframe]; rfl

theorem reportedIndexes_concat :
    reportedIndexes (replies ++ [reply]) = reportedIndexes replies ++ reply.indexes := by
  unfold reportedIndexes
  rw [List.flatMap_append, List.flatMap_singleton]

theorem queuedBy_of_no_index (h : reply.indexes = []) : queuedBy (c, reply) = none := by
  unfold queuedBy
  split
  · rename_i heq
    cases heq
    cases h
  · rfl

theorem Accounted.unchanged (h : Accounted capacity calls replies s)
    (hindexes : reply.indexes = []) (hframe : reply.frame? = none)
    (hqueue : s'.rawSink.queue = s.rawSink.queue)
    (hcapacity : s'.rawSink.capacity = s.rawSink.capacity)
    (henqueued : s'.rawSink.enqueued = s.rawSink.enqueued)
    (hdrained : s'.rawSink.drained = s.rawSink.drained)
    (hnext : s'.nextFrameIndex = s.nextFrameIndex) :
    Accounted capacity (calls ++ [c]) (replies ++ [reply]) s' := by
  have hqueued := @queuedFrames_concat calls replies c reply h.length_eq
  rw [queuedBy_of_no_index hindexes, Option.toList_none, List.append_nil] at hqueued
  have hdepth : s'.rawSink.depth = s.rawSink.depth := congrArg List.length hqueue
  refine ⟨by simp [h.length_eq], ?_, ?_, ?_, ?_, ?_, ?_, ?_⟩
  · rw [reportedIndexes_concat, hindexes, List.append_nil, henqueued, h.indexes]
  · rw [drainedFrames_concat, hframe, Option.toList_none, List.append_nil, hqueue, hqueued,
      h.frames]
  · rw [hqueued, henqueued, h.numbered]
  · rw [hnext, henqueued, h.next_eq]
  · rw [henqueued, hdrained, hdepth, h.balance]
  · rw [hcapacity, h.capacity_eq]
  · rw [hdepth]
    exact h.depth_le

/-- **Step.** Every call keeps the account. -/
theorem Accounted.step (h : Accounted capacity calls replies s) (heffect : StepEffect s c reply s') :
    Accounted capacity (calls ++ [c]) (replies ++ [reply]) s' := by
  cases heffect with
  | refused hcall hdata => exact h.unchanged rfl rfl rfl rfl rfl rfl rfl
  | quiet hcall hlive hindexes hqueue hcapacity henqueued hdrained hnext hdata =>
    exact h.unchanged hindexes rfl hqueue hcapacity henqueued hdrained hnext
  | @queued payload monoNs rest _ hcall hlive hroom hindexes hqueue hcapacity henqueued hdrained
      hnext =>
    subst hcall
    -- the frame gets the next index
    have hqueued := @queuedFrames_concat calls replies (.handle (.data payload) monoNs)
      (.actions (.ok (.rawEnqueued s.nextFrameIndex :: rest))) h.length_eq
    have hreported : WsReply.indexes (.actions (.ok (.rawEnqueued s.nextFrameIndex :: rest)))
        = [s.nextFrameIndex] := congrArg (s.nextFrameIndex :: ·) hindexes
    have hdepth : s'.rawSink.depth = s.rawSink.depth + 1 := by
      show s'.rawSink.queue.length = _
      rw [hqueue, List.length_append]
      rfl
    have hbefore : s.rawSink.depth < s.rawSink.capacity := hroom
    have hbalance := h.balance
    have hcapacity' := h.capacity_eq
    refine ⟨by simp [h.length_eq], ?_, ?_, ?_, ?_, ?_, ?_, ?_⟩
    · rw [reportedIndexes_concat, hreported, henqueued, List.range_succ, h.indexes, h.next_eq]
    · rw [drainedFrames_concat, hqueue, hqueued, ← h.frames]
      simp [WsReply.frame?, queuedBy]
    · rw [hqueued, henqueued, List.range_succ, List.map_append, h.numbered, ← h.next_eq]
      rfl
    · rw [hnext, henqueued, h.next_eq]
    · omega
    · rw [hcapacity, hcapacity']
    · omega
  | empty hcall hqueue => exact h.unchanged rfl rfl rfl rfl rfl rfl rfl
  | @drained frame queue hcall hqueue =>
    have hqueued := @queuedFrames_concat calls replies c (.drained (some frame)) h.length_eq
    rw [queuedBy_of_no_index rfl, Option.toList_none, List.append_nil] at hqueued
    have hbalance := h.balance
    have hdepth := h.depth_le
    have hlength : s.rawSink.depth = queue.length + 1 := by
      show s.rawSink.queue.length = _
      rw [hqueue, List.length_cons]
    refine ⟨by simp [h.length_eq], ?_, ?_, ?_, h.next_eq, ?_, h.capacity_eq, ?_⟩
    · rw [reportedIndexes_concat, h.indexes]
      exact List.append_nil _
    · rw [drainedFrames_concat, hqueued, ← h.frames, hqueue]
      simp [WsReply.frame?]
    · rw [hqueued, h.numbered]
    · show s.rawSink.enqueued = s.rawSink.drained + 1 + queue.length
      omega
    · show queue.length ≤ capacity
      omega

end

variable {epoch : String} {capacity : Nat} {s : PublicWsSession}

def notJson (_ : Bytes) : Except String Value := .error "expected value at line 1 column 1"

theorem new_sample :
    new "epoch-a" 1 = .ok ⟨"epoch-a", .open, ⟨1, [], 0, 0, 0, 0⟩, 0, none, [], none, false, none,
      none, none⟩ := by
  decide

end PublicWsSession

end LobReplay.Transport
