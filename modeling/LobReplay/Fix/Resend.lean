/-
  Gap recovery between two sessions. A sends heartbeats, TestRequest replies, application messages
  and replays; B gets any of the texts sent so far, in any order and any number of times, so the
  channel may lose, repeat and delay them (`Linked`). B asks for a missing range with a
  ResendRequest.

  A replays what its store holds, and only application messages are stored: nothing is sent in the
  place of a lost heartbeat, no gap fill either.
-/

import LobReplay.Fix.Cursor
import LobReplay.Fix.Envelope
import Mathlib.Data.List.Perm.Subperm

namespace LobReplay.Fix

open Foundation Std

/-! ## Types of messages -/

/-- The application types `dispatch` handles. -/
def applicationType (type : Bytes) : Bool :=
  type = asBytes "D" || type = asBytes "8" || type = asBytes "9" || type = asBytes "F" ||
    type = asBytes "G"

/-- What A sends: heartbeats and application messages. -/
def plainType (type : Bytes) : Bool := type = asBytes "0" || applicationType type

theorem plainType_cases {type : Bytes} (h : plainType type = true) :
    type = asBytes "0" ∨ type = asBytes "D" ∨ type = asBytes "8" ∨ type = asBytes "9" ∨
      type = asBytes "F" ∨ type = asBytes "G" := by
  simp only [plainType, applicationType, Bool.or_eq_true, decide_eq_true_eq] at h
  tauto

variable {m : FixMessage} {limit limit' k : UInt32} {x y : Exchange} {raw value : Bytes}
  {s : FixSession} {store : Pending} {fuel count : Nat} {tag : Int32} {app : FixMessage}
  {first base : UInt32} {apps : List (UInt32 × FixMessage)}

/-- A plain message is taken in order, and moves the cursor by one. -/
theorem plain_facts (h : plainType (msgType m) = true) :
    Sequenced m ∧ handled (msgType m) = true ∧ target m = seqNum m + 1 ∧ ReplayEnds m := by
  have hdecided : ∀ type, plainType type = true → type ≠ asBytes "A" ∧ type ≠ asBytes "5" ∧
      type ≠ asBytes "2" ∧ type ≠ asBytes "4" ∧ handled type = true := by
    intro type htype
    rcases plainType_cases htype with rfl | rfl | rfl | rfl | rfl | rfl <;> decide
  obtain ⟨hA, h5, h2, h4, hhandled⟩ := hdecided _ h
  refine ⟨⟨hA, h5⟩, hhandled, ?_, fun htype => absurd htype h2⟩
  rw [target, isGapFill, decide_eq_false h4, Bool.false_and, Bool.false_and]
  rfl

/-! ## The receiving side -/

/-- The receiver: what it retains are plain messages numbered below `limit`. -/
structure Receiving (limit : UInt32) (x : Exchange) : Prop where
  kept : Kept x
  state : x.session.state = .loggedOn
  plain : ∀ (k : UInt32) (m : FixMessage), x.session.pending[k]? = some m →
    plainType (msgType m) = true ∧ k < limit

theorem Receiving.mono (h : Receiving limit x) (hle : limit ≤ limit') : Receiving limit' x :=
  ⟨h.kept, h.state, fun k m hk =>
    ⟨(h.plain k m hk).1, UInt32.lt_of_lt_of_le (h.plain k m hk).2 hle⟩⟩

theorem toNat_succ (h : k < limit) : (k + 1).toNat = k.toNat + 1 := by
  rw [UInt32.lt_iff_toNat_lt] at h
  have hlimit := limit.toNat_lt
  rw [UInt32.toNat_add, UInt32.toNat_one]
  omega

/-- Plain messages form a chain from any cursor, by induction on what lies behind it. -/
theorem forward_of_plain {pending : Pending} (hkeyed : Keyed pending)
    (hplain : ∀ (k : UInt32) (m : FixMessage), pending[k]? = some m →
      plainType (msgType m) = true ∧ k < limit)
    (c : UInt32) : Forward pending c := by
  induction hn : 2 ^ 32 - c.toNat using Nat.strong_induction_on generalizing c with
  | _ n ih =>
    by_cases hmem : c ∈ pending
    swap
    · exact .stop hmem
    obtain ⟨m, hm⟩ := mem_pending_iff.mp hmem
    obtain ⟨htype, hlimit⟩ := hplain c m hm
    have htarget : target m = c + 1 := by
      rw [(plain_facts htype).2.2.1, (hkeyed c m hm).1]
    have hsucc := toNat_succ hlimit
    refine .entry hm ?_ ?_ ?_
    · rw [htarget, UInt32.lt_iff_toNat_lt, hsucc]
      omega
    · intro k _ hlt
      rw [htarget, UInt32.le_iff_toNat_le, hsucc]
      exact UInt32.lt_iff_toNat_lt.mp hlt
    · rw [htarget]
      have hc := c.toNat_lt
      exact ih (2 ^ 32 - (c + 1).toNat) (by rw [hsucc]; omega) (c + 1) rfl

theorem Receiving.orderly (h : Receiving limit x) (htype : plainType (msgType m) = true)
    (hlimit : seqNum m < limit) : Orderly x.session m := by
  obtain ⟨hseq, hhandled, htarget, -⟩ := plain_facts htype
  rw [Orderly, if_neg (not_or.mpr hseq)]
  intro _ heq
  have hsucc := toNat_succ hlimit
  rw [htarget, if_pos hhandled]
  refine ⟨?_, fun k hk => ?_, forward_of_plain h.kept.keyed h.plain _⟩
  · rw [UInt32.lt_iff_toNat_lt, hsucc]
    omega
  · have habove := UInt32.lt_iff_toNat_lt.mp (h.kept.above k hk)
    rw [UInt32.le_iff_toNat_le, hsucc, heq]
    exact habove

/-- **Step.** A plain message at the receiver. -/
theorem Receiving.dispatch (h : Receiving limit x) (htype : plainType (msgType m) = true)
    (hlimit : seqNum m < limit) (hy : Exchange.dispatch fuel m x = some y) :
    Receiving limit y ∧ Stepped x m y := by
  have hstepped := h.kept.dispatch (h.orderly htype hlimit) hy
  have hsequenced := (plain_facts htype).1
  refine ⟨⟨hstepped.kept, (hstepped.state hsequenced).trans h.state, fun k m' hk => ?_⟩, hstepped⟩
  rcases hstepped.origin k m' hk with hold | rfl
  · exact h.plain k m' hold
  · refine ⟨htype, ?_⟩
    rw [← (hstepped.kept.keyed k _ hk).1]
    exact hlimit

/-- A text that is not accepted changes only the counter. -/
theorem Receiving.malformed (h : Receiving limit x) (n : UInt64) :
    Receiving limit { x with session := { x.session with malformed := n } } :=
  ⟨⟨h.kept.keyed, h.kept.above, h.kept.below, h.kept.nodup⟩, h.state, h.plain⟩

theorem Receiving.returns (h : Receiving limit x) (hparse : parse raw = .ok m)
    (htype : plainType (msgType m) = true) (hlimit : seqNum m < limit) :
    ∃ y enough, ∀ fuel ≥ enough, x.processInbound fuel raw = some y := by
  have hunique : ∀ m', parse raw = .ok m' → m' = m := fun m' hm' =>
    Except.ok.inj (hm'.symm.trans hparse)
  refine h.kept.returns (fun m' hm' => ?_) (fun k m' hk => ?_) (fun m' hm' => ?_)
  · rw [hunique m' hm']
    exact h.orderly htype hlimit
  · exact (plain_facts (h.plain k m' hk).1).2.2.2
  · rw [hunique m' hm']
    exact (plain_facts htype).2.2.2

/-! ## Replays at the receiver -/

/-- An application message under its number. -/
structure Stored (k : UInt32) (m : FixMessage) : Prop where
  buildable : Buildable m
  type : applicationType (msgType m) = true
  number : m.fields[(34 : Int32)]? = some (seqText k)

theorem strtoul32_seqText (k : UInt32) : strtoul32 (seqText k) = k := by
  have hk := k.toNat_lt
  rw [strtoul32, seqText, strtoull_decimal (by omega)]
  exact UInt32.ofNat_toNat

theorem Stored.seqNum (h : Stored k m) : seqNum m = k := by
  rw [Fix.seqNum, h.number]
  exact strtoul32_seqText k

theorem Stored.plain (h : Stored k m) : plainType (msgType m) = true := by
  rw [plainType, h.type, Bool.or_true]

theorem Buildable.insert (h : Buildable m) (htag : 0 < tag) (hvalue : soh ∉ value) :
    Buildable { m with fields := m.fields.insert tag value } where
  fields := by
    rintro ⟨k, v⟩ hmem
    rw [ExtTreeMap.mem_toList_iff_getElem?_eq_some, getElem?_insert_fields] at hmem
    split at hmem
    · rename_i hkey
      cases hmem
      rw [← hkey]
      exact ⟨htag, hvalue⟩
    · exact h.of_getElem? hmem
  type := mem_insert_fields.mpr (Or.inr h.type)

theorem msgType_insert (h : tag ≠ 35) :
    msgType { m with fields := m.fields.insert tag value } = msgType m := by
  rw [msgType, msgType, ExtTreeMap.getD_eq_getD_getElem?, ExtTreeMap.getD_eq_getD_getElem?,
    getElem?_insert_fields, if_neg h]

theorem Stored.possDup (h : Stored k m) : Stored k (FixSession.possDup m) where
  buildable := h.buildable.insert (by decide) (by decide)
  type := by
    rw [FixSession.possDup, msgType_insert (by decide)]
    exact h.type
  number := by
    rw [FixSession.possDup, getElem?_insert_fields, if_neg (by decide)]
    exact h.number

/-- The number is retained or taken. -/
def Known (x : Exchange) (n : UInt32) : Prop := n ∈ x.session.pending ∨ n ∈ x.processed

theorem Stepped.known {n : UInt32} (h : Stepped x m y) (hn : Known x n) : Known y n := by
  rcases hn with hpending | hprocessed
  · exact h.retained n hpending
  · exact Or.inr (h.logged n hprocessed)

/-- A message at or before the cursor is behind it afterwards. -/
theorem Stepped.past (h : Stepped x m y) (hm : Sequenced m) (hstate : x.session.state = .loggedOn)
    (hle : seqNum m ≤ x.session.nextIn) : seqNum m < y.session.nextIn := by
  by_cases hlt : seqNum m < x.session.nextIn
  · exact UInt32.lt_of_lt_of_le hlt h.forward
  rcases h.arrived hm hstate (UInt32.not_lt.mp hlt) with hpending | hprocessed
  -- a retained message would be behind the new cursor, which did not move back
  · have habove := h.kept.above _ hpending
    exact absurd (UInt32.lt_of_lt_of_le habove (UInt32.le_trans hle h.forward))
      (UInt32.lt_irrefl _)
  · exact h.kept.below _ hprocessed

/-- Configured texts without SOH. -/
structure CleanConfig (cfg : SessionConfig) : Prop where
  beginString : soh ∉ cfg.beginString
  senderCompId : soh ∉ cfg.senderCompId
  targetCompId : soh ∉ cfg.targetCompId

theorem soh_not_mem_seqText (k : UInt32) : soh ∉ seqText k := not_mem_decimal isDigit_soh

/-- The tags every session message carries. -/
def headerTags : List Int32 := [8, 35, 49, 56, 34, 52]

theorem messageWithSeq_facts {s : FixSession} (hcfg : CleanConfig s.cfg) {type : Bytes}
    (htype : soh ∉ type) (seq : UInt32) {extra : List (Int32 × Bytes)}
    (hnodup : (headerTags ++ extra.map Prod.fst).Nodup)
    (hextra : ∀ entry ∈ extra, 0 < entry.1 ∧ soh ∉ entry.2) :
    Buildable (s.messageWithSeq type seq extra) ∧
      msgType (s.messageWithSeq type seq extra) = type ∧
      seqNum (s.messageWithSeq type seq extra) = seq ∧
      ∀ entry ∈ extra, (s.messageWithSeq type seq extra).fields[entry.1]? = some entry.2 := by
  obtain ⟨header, hheader⟩ : ∃ header : List (Int32 × Bytes), header = [(8, s.cfg.beginString),
      (35, type), (49, s.cfg.senderCompId), (56, s.cfg.targetCompId), (34, seqText seq),
      (52, sendingTime)] := ⟨_, rfl⟩
  have hfields : (s.messageWithSeq type seq extra).fields = insertAll ∅ (header ++ extra) := by
    rw [hheader]
    rfl
  have htags : header.map Prod.fst = headerTags := by
    rw [hheader]
    rfl
  have hget : ∀ entry ∈ header ++ extra,
      (s.messageWithSeq type seq extra).fields[entry.1]? = some entry.2 := by
    intro entry hentry
    rw [hfields]
    refine @getElem?_insertAll_of_mem (header ++ extra) entry.1 entry.2 ?_ hentry ∅
    rw [List.map_append, htags]
    exact hnodup
  have h35 : (s.messageWithSeq type seq extra).fields[(35 : Int32)]? = some type :=
    hget (35, type) (by simp [hheader])
  have h34 : (s.messageWithSeq type seq extra).fields[(34 : Int32)]? = some (seqText seq) :=
    hget (34, seqText seq) (by simp [hheader])
  refine ⟨⟨?_, ?_⟩, ?_, ?_, fun entry hentry => hget entry (List.mem_append_right _ hentry)⟩
  · rintro ⟨k, v⟩ hmem
    rw [ExtTreeMap.mem_toList_iff_getElem?_eq_some, hfields] at hmem
    rcases mem_of_getElem?_insertAll hmem with hentry | hempty
    swap
    · simp at hempty
    rcases List.mem_append.mp hentry with hin | hentry
    · have hpos : ∀ tag ∈ headerTags, 0 < tag := by
        simp only [headerTags, List.forall_mem_cons]
        exact ⟨by decide, by decide, by decide, by decide, by decide, by decide, by simp⟩
      have htag : k ∈ headerTags := by
        rw [← htags]
        exact List.mem_map_of_mem (f := Prod.fst) hin
      refine ⟨hpos k htag, ?_⟩
      simp only [hheader, List.mem_cons, List.not_mem_nil, or_false, Prod.mk.injEq] at hin
      rcases hin with ⟨-, rfl⟩ | ⟨-, rfl⟩ | ⟨-, rfl⟩ | ⟨-, rfl⟩ | ⟨-, rfl⟩ | ⟨-, rfl⟩
      · exact hcfg.beginString
      · exact htype
      · exact hcfg.senderCompId
      · exact hcfg.targetCompId
      · exact soh_not_mem_seqText seq
      · show soh ∉ sendingTime
        decide
    · exact hextra _ hentry
  · rw [ExtTreeMap.mem_iff_isSome_getElem?, h35]
    rfl
  · rw [msgType, ExtTreeMap.getD_eq_getD_getElem?, h35]
    rfl
  · rw [seqNum, h34]
    exact strtoul32_seqText seq

/-- What the sender puts on the wire. -/
structure Sendable (limit : UInt32) (m : FixMessage) : Prop where
  buildable : Buildable m
  plain : plainType (msgType m) = true
  number : seqNum m < limit

theorem Sendable.mono (h : Sendable limit m) (hle : limit ≤ limit') : Sendable limit' m :=
  ⟨h.buildable, h.plain, UInt32.lt_of_lt_of_le h.number hle⟩

theorem Stored.sendable (h : Stored k m) (hk : k < limit) : Sendable limit m := by
  refine ⟨h.buildable, h.plain, ?_⟩
  rw [h.seqNum]
  exact hk

/-- A heartbeat, alone or as the reply to a TestRequest. -/
theorem sendable_heartbeat {s : FixSession} (hcfg : CleanConfig s.cfg) {seq limit : UInt32}
    (hlimit : seq < limit) {extra : List (Int32 × Bytes)}
    (hextra : extra = [] ∨ ∃ value, soh ∉ value ∧ extra = [(112, value)]) :
    Sendable limit (s.messageWithSeq (asBytes "0") seq extra) := by
  have hfacts : (headerTags ++ extra.map Prod.fst).Nodup ∧
      ∀ entry ∈ extra, 0 < entry.1 ∧ soh ∉ entry.2 := by
    rcases hextra with rfl | ⟨value, hvalue, rfl⟩
    · exact ⟨by decide, fun entry hentry => by cases hentry⟩
    · refine ⟨show (headerTags ++ [(112 : Int32)]).Nodup by decide, fun entry hentry => ?_⟩
      rw [List.mem_singleton.mp hentry]
      exact ⟨show (0 : Int32) < 112 by decide, hvalue⟩
  obtain ⟨hbuild, htype, hseq, -⟩ :=
    messageWithSeq_facts hcfg (show soh ∉ asBytes "0" by decide) seq hfacts.1 hfacts.2
  refine ⟨hbuild, by rw [htype]; decide, ?_⟩
  rw [hseq]
  exact hlimit

structure Application (app : FixMessage) : Prop where
  buildable : Buildable app
  type : applicationType (msgType app) = true

theorem Application.stored (h : Application app) : Stored s.nextOut (s.numbered app) where
  buildable := h.buildable.insert (by decide) (soh_not_mem_seqText _)
  type := by
    rw [FixSession.numbered, msgType_insert (by decide)]
    exact h.type
  number := by
    rw [FixSession.numbered, getElem?_insert_fields, if_pos rfl]

theorem mem_replayLoop {w : Bytes} (h : w ∈ FixSession.replayLoop store count first) :
    ∃ (k : UInt32) (m : FixMessage), store[k]? = some m ∧ w = build (FixSession.possDup m) := by
  induction count generalizing first with
  | zero => cases h
  | succ count ih =>
    rw [FixSession.replayLoop] at h
    split at h
    · exact ih h
    · rename_i m hget
      rcases List.mem_cons.mp h with rfl | h
      · exact ⟨first, m, hget, rfl⟩
      · exact ih h

/-- The store of a sender: application messages under their numbers, all below `limit`. -/
def StoreOk (limit : UInt32) (store : Pending) : Prop :=
  ∀ (k : UInt32) (m : FixMessage), store[k]? = some m → k < limit ∧ Stored k m

/-! ## The 256 last messages

The store is cut at its smallest number, so the messages since the logon stay as long as there are
at most 256 of them. -/

theorem eraseFirst_getElem? (h : (FixSession.eraseFirst store)[k]? = some m) :
    store[k]? = some m := by
  rw [FixSession.eraseFirst] at h
  split at h
  · exact h
  · rw [getElem?_erase_pending] at h
    split at h
    · cases h
    · exact h

/-- What is erased has the smallest number. -/
theorem eraseFirst_keeps {small : UInt32} (hsmall : small ∈ store) (hlt : small < k) :
    (FixSession.eraseFirst store)[k]? = store[k]? := by
  rw [FixSession.eraseFirst]
  split
  · rfl
  · rename_i first hfirst
    obtain ⟨-, hleast⟩ := ExtTreeMap.minKey?_eq_some_iff_mem_and_forall.mp hfirst
    have hle := hleast small hsmall
    rw [getElem?_erase_pending, if_neg]
    rintro rfl
    rw [Std.isLE_compare] at hle
    exact absurd hlt (UInt32.not_lt.mpr hle)

theorem size_le_of_keys {keys : List UInt32} (h : ∀ k ∈ store, k ∈ keys) :
    store.size ≤ keys.length := by
  rw [← ExtTreeMap.length_keys]
  refine (List.subperm_of_subset ExtTreeMap.nodup_keys fun k hk => h k ?_).length_le
  exact ExtTreeMap.mem_keys.mp hk

/-- The sender since a logon at number `base`: the application messages it has sent are stored. -/
structure Sending (base : UInt32) (apps : List (UInt32 × FixMessage)) (s : FixSession) : Prop where
  state : s.state = .loggedOn
  pending : s.pending = ∅
  cfg : CleanConfig s.cfg
  store : StoreOk s.nextOut s.outboundStore
  sent : ∀ k m, (k, m) ∈ apps → base ≤ k ∧ k < s.nextOut
  origin : ∀ (k : UInt32) (m : FixMessage), s.outboundStore[k]? = some m →
    k < base ∨ (k, m) ∈ apps
  stored : apps.length ≤ 256 → ∀ k m, (k, m) ∈ apps → s.outboundStore[k]? = some m
  base_le : base ≤ s.nextOut

theorem StoreOk.mono (h : StoreOk limit store) (hle : limit ≤ limit') : StoreOk limit' store :=
  fun k m hk => ⟨UInt32.lt_of_lt_of_le (h k m hk).1 hle, (h k m hk).2⟩

/-- The sender moves its counters only. -/
theorem Sending.move {s' : FixSession} (h : Sending base apps s) (hstate : s'.state = s.state)
    (hpending : s'.pending = s.pending) (hcfg : s'.cfg = s.cfg)
    (hstore : s'.outboundStore = s.outboundStore) (hnext : s.nextOut ≤ s'.nextOut) :
    Sending base apps s' where
  state := hstate.trans h.state
  pending := hpending.trans h.pending
  cfg := by rw [hcfg]; exact h.cfg
  store := by rw [hstore]; exact h.store.mono hnext
  sent k m hk := ⟨(h.sent k m hk).1, UInt32.lt_of_lt_of_le (h.sent k m hk).2 hnext⟩
  origin := by rw [hstore]; exact h.origin
  stored := by rw [hstore]; exact h.stored
  base_le := UInt32.le_trans h.base_le hnext

/-- The store after an application message. -/
def storedAfter (s : FixSession) (app : FixMessage) : Pending :=
  s.outboundStore.insert s.nextOut (s.numbered app)

theorem sendApplication_store (s : FixSession) (app : FixMessage) :
    (s.sendApplication app).2.outboundStore =
      if (storedAfter s app).size > 256 then FixSession.eraseFirst (storedAfter s app)
      else storedAfter s app := by
  have hkey : strtoul32 ((s.numbered app).fields.getD 34 []) = s.nextOut := by
    rw [FixSession.numbered, ExtTreeMap.getD_eq_getD_getElem?, getElem?_insert_fields, if_pos rfl]
    exact strtoul32_seqText _
  rw [FixSession.sendApplication]
  simp only [hkey]
  rfl

/-- An application message is stored, and pushes out none that was sent since the logon. -/
theorem Sending.application (h : Sending base apps s) (happ : Application app)
    (hnext : s.nextOut < s.nextOut + 1) :
    Sending base (apps ++ [(s.nextOut, s.numbered app)]) (s.sendApplication app).2 := by
  have hget : ∀ k : UInt32, (storedAfter s app)[k]? =
      if s.nextOut = k then some (s.numbered app) else s.outboundStore[k]? := fun k =>
    getElem?_insert_pending _ _ k _
  have hsub : ∀ (k : UInt32) (m : FixMessage),
      (s.sendApplication app).2.outboundStore[k]? = some m → (storedAfter s app)[k]? = some m := by
    intro k m hk
    rw [sendApplication_store] at hk
    split at hk
    · exact eraseFirst_getElem? hk
    · exact hk
  have horigin : ∀ (k : UInt32) (m : FixMessage), (storedAfter s app)[k]? = some m →
      k < base ∨ (k, m) ∈ apps ++ [(s.nextOut, s.numbered app)] := by
    intro k m hk
    rw [hget] at hk
    split at hk
    · rename_i hkey
      cases hk
      rw [← hkey]
      exact Or.inr (List.mem_append_right _ List.mem_cons_self)
    · exact (h.origin k m hk).imp_right (List.mem_append_left _)
  refine ⟨h.state, h.pending, h.cfg, ?_, ?_, fun k m hk => horigin k m (hsub k m hk), ?_,
    UInt32.le_trans h.base_le (UInt32.le_of_lt hnext)⟩
  · intro k m hk
    have hk' := hsub k m hk
    rw [hget] at hk'
    split at hk'
    · rename_i hkey
      cases hk'
      rw [← hkey]
      exact ⟨hnext, happ.stored⟩
    · exact ⟨UInt32.lt_trans (h.store k m hk').1 hnext, (h.store k m hk').2⟩
  · intro k m hk
    rcases List.mem_append.mp hk with hk | hk
    · exact ⟨(h.sent k m hk).1, UInt32.lt_trans (h.sent k m hk).2 hnext⟩
    · cases List.mem_singleton.mp hk
      exact ⟨h.base_le, hnext⟩
  · intro hcount k m hk
    have hin : (storedAfter s app)[k]? = some m := by
      rw [hget]
      rcases List.mem_append.mp hk with hk | hk
      · rw [if_neg (UInt32.ne_of_lt (h.sent k m hk).2).symm]
        refine h.stored ?_ k m hk
        rw [List.length_append] at hcount
        omega
      · cases List.mem_singleton.mp hk
        rw [if_pos rfl]
    have hbase : base ≤ k := by
      rcases List.mem_append.mp hk with hk | hk
      · exact (h.sent k m hk).1
      · cases List.mem_singleton.mp hk
        exact h.base_le
    rw [sendApplication_store]
    split
    swap
    · exact hin
    -- more than 256 entries: one of them is older than the logon
    rename_i hsize
    have hold : ∃ small ∈ storedAfter s app, small < base := by
      by_contra hnone
      have hkeys : ∀ k' ∈ storedAfter s app,
          k' ∈ (apps ++ [(s.nextOut, s.numbered app)]).map Prod.fst := by
        intro k' hk'
        obtain ⟨m', hm'⟩ := mem_pending_iff.mp hk'
        rcases horigin k' m' hm' with hlt | hmem
        · exact absurd ⟨k', hk', hlt⟩ hnone
        · exact List.mem_map_of_mem (f := Prod.fst) hmem
      have hle := size_le_of_keys hkeys
      rw [List.length_map] at hle
      omega
    obtain ⟨small, hsmall, hlt⟩ := hold
    rw [eraseFirst_keeps hsmall (UInt32.lt_of_lt_of_le hlt hbase), hin]

theorem soh_not_mem_of_parse (h : parse raw = .ok m) {k : Int32} (hk : m.fields[k]? = some value) :
    soh ∉ value := by
  obtain ⟨pieces, entries, haccepted⟩ := exists_accepted h
  rw [haccepted.fields] at hk
  rcases mem_of_getElem?_insertAll hk with hentry | hempty
  swap
  · simp at hempty
  have hsome : some (k, value) ∈ pieces.map parseField := by
    rw [haccepted.parsed]
    exact List.mem_map_of_mem hentry
  obtain ⟨piece, hpiece, hfield⟩ := List.mem_map.mp hsome
  have hfree := haccepted.sohFree piece hpiece
  rw [parseField] at hfield
  split at hfield
  · cases hfield
  split at hfield
  · cases hfield
  · obtain ⟨tag, -, heq⟩ := Option.map_eq_some_iff.mp hfield
    cases heq
    exact fun hin => hfree (List.mem_of_mem_drop hin)

theorem inbound_of_empty (hparse : parse raw = .ok m) (hm : Sequenced m)
    (hhandled : handled (msgType m) = true) (hseq : seqNum m = s.nextIn)
    (hstate : s.state = .loggedOn) (hpending : s.pending = ∅)
    (h : s.start.processInbound fuel raw = some x) : s.start.taken.answer m = some x := by
  rw [Exchange.processInbound, hparse] at h
  rcases fuel with _ | fuel
  · cases h
  rcases Exchange.dispatch_cases hm hstate h with ⟨-, hun, -⟩ | ⟨-, -, z, hz, hdrain⟩ | ⟨hlt, -⟩ |
    ⟨hlt, -⟩
  · exact absurd hhandled hun
  · obtain ⟨-, -, hpend, -⟩ := Exchange.answer_eq_some hseq hz
    rcases fuel with _ | fuel
    · cases hdrain
    have hnot : z.session.nextIn ∉ z.session.pending := by
      rw [hpend, show s.start.session.pending = ∅ from hpending]
      simp
    rw [Exchange.drain_of_not_mem hnot] at hdrain
    cases hdrain
    exact hz
  · exact absurd hlt (by rw [hseq]; exact UInt32.lt_irrefl _)
  · exact absurd hlt (by rw [hseq]; exact UInt32.lt_irrefl _)

end LobReplay.Fix
