/-
  The FIX session layer (`FixSession`, cpp/fix/src/fix_session.cpp): logon, logout, heartbeats,
  ResendRequest with its replay from the outbound store, gap fill, and `dispatch` with the pending
  messages it drains.

  `dispatch` and the drain loop call each other, and the replay loop has a 32-bit counter, so a call
  may have no end: the model runs on fuel, and `none` is a call that has not returned. Erasing an
  entry of `pending_` that a nested call has erased is undefined in C++; the model has no result
  there either. The `bool` of `dispatch` is read by no caller and is left out.

  `Exchange` carries a session, what it sends, and the numbers it has taken in order (a ghost: the
  branch `seq == next_in_`).
-/

import LobReplay.Fix.Codec

namespace LobReplay.Fix

open Foundation Std

/-! ## Data -/

structure SessionConfig where
  beginString : Bytes := asBytes "FIX.4.4"
  senderCompId : Bytes := asBytes "CLIENT"
  targetCompId : Bytes := asBytes "VENUE"
  heartbeatIntervalS : UInt32 := 30
  deriving DecidableEq

inductive SessionState where
  | disconnected
  | awaitingLogon
  | loggedOn
  | closed
  deriving DecidableEq

structure FixSession where
  cfg : SessionConfig
  state : SessionState := .disconnected
  nextIn : UInt32 := 1
  nextOut : UInt32 := 1
  malformed : UInt64 := 0
  /-- The last application messages, by their original sequence. -/
  outboundStore : ExtTreeMap UInt32 FixMessage := ∅
  /-- Messages received while a gap is open. -/
  pending : ExtTreeMap UInt32 FixMessage := ∅
  deriving DecidableEq

/-- A session, the messages it sends, and the numbers taken in order so far. -/
structure Exchange where
  session : FixSession
  out : List Bytes := []
  processed : List UInt32 := []
  deriving DecidableEq

/-- `(uint32_t)std::strtoul(text, nullptr, 10)`. -/
def strtoul32 (text : Bytes) : UInt32 := UInt32.ofNat (strtoull text)

/-- `std::to_string` of a sequence number. -/
def seqText (seq : UInt32) : Bytes := decimal seq.toNat

/-! ## Messages of the session -/

/-- `"20260918-00:00:00.000"`. -/
def sendingTime : Bytes := asBytes "20260918-00:00:00.000"

namespace FixSession

/-- The fields of `build_with_seq`. -/
def messageWithSeq (s : FixSession) (type : Bytes) (seq : UInt32) (extra : List (Int32 × Bytes)) :
    FixMessage :=
  ⟨insertAll ∅ ([(8, s.cfg.beginString), (35, type), (49, s.cfg.senderCompId),
    (56, s.cfg.targetCompId), (34, seqText seq), (52, sendingTime)] ++ extra), []⟩

def buildWithSeq (s : FixSession) (type : Bytes) (seq : UInt32) (extra : List (Int32 × Bytes)) :
    Bytes :=
  build (s.messageWithSeq type seq extra)

def logonFields (s : FixSession) : List (Int32 × Bytes) :=
  [(98, asBytes "0"), (108, seqText s.cfg.heartbeatIntervalS)]

def initiateLogon (s : FixSession) : Bytes × FixSession :=
  (s.buildWithSeq (asBytes "A") s.nextOut s.logonFields,
    { s with nextOut := s.nextOut + 1, state := .awaitingLogon })

def replyLogon (s : FixSession) (theirSeq : UInt32) : Bytes × FixSession :=
  (s.buildWithSeq (asBytes "A") s.nextOut s.logonFields,
    { s with nextIn := theirSeq + 1, nextOut := s.nextOut + 1, state := .loggedOn })

def createHeartbeat (s : FixSession) : Bytes × FixSession :=
  (s.buildWithSeq (asBytes "0") s.nextOut [], { s with nextOut := s.nextOut + 1 })

/-- The message `send_application` builds and stores. -/
def numbered (s : FixSession) (app : FixMessage) : FixMessage :=
  { app with fields := app.fields.insert 34 (seqText s.nextOut) }

/-- `outbound_store_.erase(outbound_store_.begin())`. -/
def eraseFirst (store : ExtTreeMap UInt32 FixMessage) : ExtTreeMap UInt32 FixMessage :=
  match store.minKey? with
  | none => store
  | some k => store.erase k

def sendApplication (s : FixSession) (app : FixMessage) : Bytes × FixSession :=
  let m := s.numbered app
  let store := s.outboundStore.insert (strtoul32 (m.fields.getD 34 [])) m
  (build m, { s with
    nextOut := s.nextOut + 1
    outboundStore := if store.size > 256 then eraseFirst store else store })

/-- The message that asks for the missing range below `seq`. -/
def resendRequest (s : FixSession) (seq : UInt32) : FixMessage :=
  ⟨insertAll ∅ [(8, s.cfg.beginString), (35, asBytes "2"), (49, s.cfg.senderCompId),
    (56, s.cfg.targetCompId), (34, seqText s.nextOut), (52, sendingTime),
    (7, seqText s.nextIn), (16, seqText (seq - 1))], []⟩

/-- `dup`: a stored message with PossDupFlag. -/
def possDup (m : FixMessage) : FixMessage :=
  { m with fields := m.fields.insert 43 (asBytes "Y") }

/-- The replay loop, `count` turns from `s` on. -/
def replayLoop (store : ExtTreeMap UInt32 FixMessage) : Nat → UInt32 → List Bytes
  | 0, _ => []
  | count + 1, s =>
    match store[s]? with
    | none => replayLoop store count (s + 1)
    | some m => build (possDup m) :: replayLoop store count (s + 1)

/-- `for (uint32_t s = begin; s <= end; ++s)`: with the largest `end` the counter comes round and
    the loop has no end. -/
def replay (store : ExtTreeMap UInt32 FixMessage) (first last : UInt32) : Option (List Bytes) :=
  if last < first then some []
  else if last.toNat + 1 = 2 ^ 32 then none
  else some (replayLoop store (last.toNat + 1 - first.toNat) first)

end FixSession

/-! ## `dispatch` -/

/-- The types `dispatch` takes in order. -/
def handled (type : Bytes) : Bool :=
  type = asBytes "0" || type = asBytes "1" || type = asBytes "2" || type = asBytes "4" ||
    type = asBytes "D" || type = asBytes "8" || type = asBytes "9" || type = asBytes "F" ||
    type = asBytes "G"

def beginSeqNo (m : FixMessage) : UInt32 := strtoul32 (m.fields.getD 7 (asBytes "1"))

/-- EndSeqNo of a ResendRequest. -/
def endSeqNo (m : FixMessage) : UInt32 := strtoul32 (m.fields.getD 16 (asBytes "0"))

def isGapFill (m : FixMessage) : Bool :=
  msgType m = asBytes "4" && has 123 (asBytes "Y") m && m.fields.contains 36

namespace Exchange

/-- A message taken in order: `++next_in_`. -/
def taken (x : Exchange) : Exchange :=
  { x with
    session := { x.session with nextIn := x.session.nextIn + 1 }
    processed := x.processed ++ [x.session.nextIn] }

/-- What a message of a handled type does between `++next_in_` and the drain. -/
def answer (m : FixMessage) (x : Exchange) : Option Exchange :=
  if msgType m = asBytes "1" then
    let extra := match m.fields[(112 : Int32)]? with
      | none => []
      | some value => [(112, value)]
    some { x with
      session := { x.session with nextOut := x.session.nextOut + 1 }
      out := x.out ++ [x.session.buildWithSeq (asBytes "0") x.session.nextOut extra] }
  else if msgType m = asBytes "2" then
    (FixSession.replay x.session.outboundStore (beginSeqNo m) (endSeqNo m)).map fun wires =>
      { x with out := x.out ++ wires }
  else if isGapFill m then
    some { x with session := { x.session with nextIn := strtoul32 (m.fields.getD 36 []) } }
  else some x

/-- A gap: the missing range is requested and the message retained. -/
def gapDetected (m : FixMessage) (x : Exchange) : Exchange :=
  { x with
    session := { x.session with
      nextOut := x.session.nextOut + 1
      pending := x.session.pending.insert (seqNum m) m }
    out := x.out ++ [build (x.session.resendRequest (seqNum m))] }

/-- A logon: the acceptor replies, the initiator takes the number. -/
def loggedOn (m : FixMessage) (x : Exchange) : Exchange :=
  if x.session.state = .disconnected then
    let reply := x.session.replyLogon (seqNum m)
    { x with session := reply.2, out := x.out ++ [reply.1] }
  else { x with session := { x.session with nextIn := seqNum m + 1, state := .loggedOn } }

/-- A logout. -/
def loggedOut (m : FixMessage) (x : Exchange) : Exchange :=
  { x with session := { x.session with state := .closed, nextIn := seqNum m + 1 } }

mutual

def dispatch : Nat → FixMessage → Exchange → Option Exchange
  | 0, _, _ => none
  | fuel + 1, m, x =>
    if msgType m = asBytes "A" then some (x.loggedOn m)
    else if msgType m = asBytes "5" then some (x.loggedOut m)
    else if x.session.state ≠ .loggedOn then some x
    else if seqNum m = x.session.nextIn then
      if ¬ handled (msgType m) then some x.taken
      else (x.taken.answer m).bind (drain fuel)
    else if x.session.nextIn < seqNum m then some (x.gapDetected m)
    else some x

/-- The loop over `pending_` at the end of the in-order branch. -/
def drain : Nat → Exchange → Option Exchange
  | 0, _ => none
  | fuel + 1, x =>
    match x.session.pending[x.session.nextIn]? with
    | none => some x
    | some m =>
      (dispatch fuel m x).bind fun y =>
        if x.session.nextIn ∈ y.session.pending then
          drain fuel { y with session := { y.session with
            pending := y.session.pending.erase x.session.nextIn } }
        else none

end

def processInbound (fuel : Nat) (x : Exchange) (raw : Bytes) : Option Exchange :=
  match parse raw with
  | .error _ => some { x with session := { x.session with malformed := x.session.malformed + 1 } }
  | .ok m => dispatch fuel m x

def receive (fuel : Nat) (x : Exchange) (raws : List Bytes) : Option Exchange :=
  raws.foldlM (processInbound fuel) x

end Exchange

/-- A session before its first message. -/
def FixSession.start (s : FixSession) : Exchange := { session := s }

/-! ## One message -/

/-- The cursor behind a message taken in order. -/
def target (m : FixMessage) : UInt32 :=
  if isGapFill m then strtoul32 (m.fields.getD 36 []) else seqNum m + 1

/-- A message the drain may meet: neither a logon nor a logout. -/
def Sequenced (m : FixMessage) : Prop := msgType m ≠ asBytes "A" ∧ msgType m ≠ asBytes "5"

def ReplayEnds (m : FixMessage) : Prop :=
  msgType m = asBytes "2" → beginSeqNo m ≤ endSeqNo m → (endSeqNo m).toNat + 1 ≠ 2 ^ 32

namespace Exchange

variable {m : FixMessage} {x y : Exchange}

/-- The session after `++next_in_` and the answer: only the cursor, the output and the counter of
    sent messages have moved. -/
theorem answer_eq_some (hseq : seqNum m = x.session.nextIn) (h : x.taken.answer m = some y) :
    y.session.nextIn = target m ∧ y.session.state = x.session.state ∧
      y.session.pending = x.session.pending ∧ y.processed = x.processed ++ [seqNum m] := by
  have htype : ∀ type, msgType m = type → type ≠ asBytes "4" → isGapFill m = false := by
    intro type heq hne
    rw [isGapFill, heq, decide_eq_false hne]
    rfl
  rw [answer] at h
  split at h
  · rename_i h1
    cases h
    rw [target, htype _ h1 (by decide)]
    exact ⟨by rw [hseq]; rfl, rfl, rfl, by rw [hseq]; rfl⟩
  split at h
  · rename_i h2
    rw [Option.map_eq_some_iff] at h
    obtain ⟨wires, -, rfl⟩ := h
    rw [target, htype _ h2 (by decide)]
    exact ⟨by rw [hseq]; rfl, rfl, rfl, by rw [hseq]; rfl⟩
  split at h
  · rename_i hgap
    cases h
    rw [target, if_pos hgap]
    exact ⟨rfl, rfl, rfl, by rw [hseq]; rfl⟩
  · rename_i hgap
    cases h
    rw [target, if_neg hgap]
    exact ⟨by rw [hseq]; rfl, rfl, rfl, by rw [hseq]; rfl⟩

theorem answer_isSome {m : FixMessage} {x : Exchange} (h : ReplayEnds m) :
    ∃ y, x.answer m = some y := by
  rw [answer]
  split
  · exact ⟨_, rfl⟩
  split
  · rename_i h2
    rw [FixSession.replay]
    split
    · exact ⟨_, rfl⟩
    rename_i hle
    rw [if_neg (h h2 (UInt32.not_lt.mp hle))]
    exact ⟨_, rfl⟩
  split
  · exact ⟨_, rfl⟩
  · exact ⟨_, rfl⟩

theorem target_of_not_handled (h : ¬ handled (msgType m) = true) : target m = seqNum m + 1 := by
  rw [target, if_neg]
  intro hgap
  rw [isGapFill, Bool.and_eq_true, Bool.and_eq_true, decide_eq_true_eq] at hgap
  apply h
  rw [hgap.1.1]
  decide

/-- **Step.** Everything `dispatch` does with a message that is neither logon nor logout, in a
    session that is logged on. -/
theorem dispatch_cases {fuel : Nat} (hm : Sequenced m) (hstate : x.session.state = .loggedOn)
    (h : dispatch (fuel + 1) m x = some y) :
    (seqNum m = x.session.nextIn ∧ ¬ handled (msgType m) = true ∧ y = x.taken) ∨
    (seqNum m = x.session.nextIn ∧ handled (msgType m) = true ∧
      ∃ z, x.taken.answer m = some z ∧ drain fuel z = some y) ∨
    (x.session.nextIn < seqNum m ∧ y = x.gapDetected m) ∨
    (seqNum m < x.session.nextIn ∧ y = x) := by
  rw [dispatch, if_neg hm.1, if_neg hm.2, if_neg (not_not.mpr hstate)] at h
  split at h
  · rename_i hseq
    split at h
    · rename_i hun
      cases h
      exact Or.inl ⟨hseq, hun, rfl⟩
    · rename_i hhandled
      obtain ⟨z, hz, hdrain⟩ := Option.bind_eq_some_iff.mp h
      exact Or.inr (Or.inl ⟨hseq, not_not.mp hhandled, z, hz, hdrain⟩)
  rename_i hne
  split at h
  · rename_i hlt
    cases h
    exact Or.inr (Or.inr (Or.inl ⟨hlt, rfl⟩))
  · rename_i hlt
    cases h
    exact Or.inr (Or.inr (Or.inr
      ⟨UInt32.lt_of_le_of_ne (UInt32.not_lt.mp hlt) hne, rfl⟩))

theorem drain_of_not_mem {fuel : Nat} {x : Exchange}
    (h : x.session.nextIn ∉ x.session.pending) : drain (fuel + 1) x = some x := by
  have hnone : x.session.pending[x.session.nextIn]? = none := by
    rw [ExtTreeMap.getElem?_eq_none h]
  rw [drain, hnone]

end Exchange

end LobReplay.Fix
