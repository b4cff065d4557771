/-
  Two linked sessions: what A sends, what reaches B, and the ResendRequests of B (`Linked`). Loss,
  repetition and delay are all there: B may be given any text A has sent so far. `LinkOk` is what
  every linked state keeps.

  A ResendRequest that reaches A in order is answered number by number when the whole range was sent
  as application messages, and the answers take B past the range.
-/

import LobReplay.Fix.Resend

namespace LobReplay.Fix

open Foundation Std

/-! ## The link -/

/-- A ResendRequest: the first missing number, the number that was ahead, and the text. -/
structure Request where
  first : UInt32
  ahead : UInt32
  text : Bytes

/-- A sends to B. `wires` are the texts sent since the logon, `apps` the application messages
    among them by number, `requests` what B has asked for. -/
structure Link where
  a : FixSession
  b : Exchange
  wires : List Bytes := []
  apps : List (UInt32 × FixMessage) := []
  requests : List Request := []

/-- The calls of A that send: heartbeats, application messages, and the answers to a TestRequest
    or a ResendRequest that arrives in order. -/
inductive Sends (s : FixSession) :
    FixSession → List Bytes → List (UInt32 × FixMessage) → Prop
  | heartbeat : Sends s s.createHeartbeat.2 [s.createHeartbeat.1] []
  | application {app : FixMessage} : Application app →
      Sends s (s.sendApplication app).2 [(s.sendApplication app).1] [(s.nextOut, s.numbered app)]
  | answer {fuel : Nat} {raw : Bytes} {m : FixMessage} {x : Exchange} : parse raw = .ok m →
      (msgType m = asBytes "1" ∨ msgType m = asBytes "2") → seqNum m = s.nextIn →
      s.start.processInbound fuel raw = some x → Sends s x.session x.out []

/-- What B asks for when it gets a text. -/
def asked (x : Exchange) (raw : Bytes) : List Request :=
  match parse raw with
  | .error _ => []
  | .ok m =>
    if x.session.nextIn < seqNum m then
      [⟨x.session.nextIn, seqNum m, build (x.session.resendRequest (seqNum m))⟩]
    else []

variable {x : Exchange} {raw : Bytes} {m q : FixMessage} {r : Request}

theorem asked_of_error {status : ParseStatus} (h : parse raw = .error status) :
    asked x raw = [] := by
  rw [asked, h]

theorem asked_of_ok (h : parse raw = .ok m) :
    asked x raw = if x.session.nextIn < seqNum m then
      [⟨x.session.nextIn, seqNum m, build (x.session.resendRequest (seqNum m))⟩]
    else [] := by
  rw [asked, h]

/-- The states of a link: both sides logged on, then A sends and B is given texts A has sent. -/
inductive Linked : Link → Prop
  | logon {a b : FixSession} : a.state = .loggedOn → b.state = .loggedOn → a.pending = ∅ →
      b.pending = ∅ → b.nextIn = a.nextOut → CleanConfig a.cfg → CleanConfig b.cfg →
      StoreOk a.nextOut a.outboundStore → Linked { a := a, b := b.start }
  | send {l : Link} {a : FixSession} {wires : List Bytes} {apps : List (UInt32 × FixMessage)} :
      Linked l → l.a.nextOut < l.a.nextOut + 1 → Sends l.a a wires apps →
      Linked { l with a := a, wires := l.wires ++ wires, apps := l.apps ++ apps }
  | deliver {l : Link} {fuel : Nat} {raw : Bytes} {b : Exchange} : Linked l → raw ∈ l.wires →
      l.b.processInbound fuel raw = some b →
      Linked { l with b := b, requests := l.requests ++ asked l.b raw }

/-! ## Frames -/

namespace Exchange

theorem answer_frame {m : FixMessage} {x y : Exchange} (h : x.answer m = some y) :
    y.session.cfg = x.session.cfg ∧ x.out <+: y.out := by
  rw [answer] at h
  split at h
  · cases h
    exact ⟨rfl, List.prefix_append _ _⟩
  split at h
  · obtain ⟨wires, -, rfl⟩ := Option.map_eq_some_iff.mp h
    exact ⟨rfl, List.prefix_append _ _⟩
  split at h
  · cases h
    exact ⟨rfl, List.prefix_rfl⟩
  · cases h
    exact ⟨rfl, List.prefix_rfl⟩

/-- **Run.** No message changes the configuration or takes back what was sent; by induction on the
    fuel of the two loops. -/
theorem frame (fuel : Nat) :
    (∀ {m : FixMessage} {x y : Exchange}, dispatch fuel m x = some y →
      y.session.cfg = x.session.cfg ∧ x.out <+: y.out) ∧
    ∀ {x y : Exchange}, drain fuel x = some y → y.session.cfg = x.session.cfg ∧ x.out <+: y.out := by
  induction fuel with
  | zero =>
    constructor
    · intro m x y h
      cases h
    · intro x y h
      cases h
  | succ fuel ih =>
    constructor
    · intro m x y h
      rw [dispatch] at h
      split at h
      · cases h
        rw [loggedOn]
        split
        · exact ⟨rfl, List.prefix_append _ _⟩
        · exact ⟨rfl, List.prefix_rfl⟩
      split at h
      · cases h
        exact ⟨rfl, List.prefix_rfl⟩
      split at h
      · cases h
        exact ⟨rfl, List.prefix_rfl⟩
      split at h
      · split at h
        · cases h
          exact ⟨rfl, List.prefix_rfl⟩
        · obtain ⟨z, hz, hdrain⟩ := Option.bind_eq_some_iff.mp h
          obtain ⟨hcfg, hout⟩ := answer_frame hz
          obtain ⟨hcfg', hout'⟩ := ih.2 hdrain
          exact ⟨hcfg'.trans hcfg, hout.trans hout'⟩
      split at h
      · cases h
        exact ⟨rfl, List.prefix_append _ _⟩
      · cases h
        exact ⟨rfl, List.prefix_rfl⟩
    · intro x y h
      rw [drain] at h
      split at h
      · cases h
        exact ⟨rfl, List.prefix_rfl⟩
      · obtain ⟨z, hz, h⟩ := Option.bind_eq_some_iff.mp h
        split at h
        · obtain ⟨hcfg, hout⟩ := ih.1 hz
          obtain ⟨hcfg', hout'⟩ := ih.2 h
          exact ⟨hcfg'.trans hcfg, hout.trans hout'⟩
        · cases h

end Exchange

/-! ## What every linked state keeps -/

/-- A request as B made it: the range was open then, and the message ahead is retained or taken
    since. -/
structure RequestOk (l : Link) (r : Request) : Prop where
  range : r.first < r.ahead
  first : r.first ≤ l.b.session.nextIn
  known : Known l.b r.ahead
  ahead : r.ahead < l.a.nextOut
  sent : r.text ∈ l.b.out
  text : ∃ s : FixSession, CleanConfig s.cfg ∧ s.nextIn = r.first ∧
    r.text = build (s.resendRequest r.ahead)

structure LinkOk (base : UInt32) (l : Link) : Prop where
  sending : Sending base l.apps l.a
  wires : ∀ w ∈ l.wires, ∃ m, w = build m ∧ Sendable l.a.nextOut m
  receiving : Receiving l.a.nextOut l.b
  cfg : CleanConfig l.b.session.cfg
  requests : ∀ r ∈ l.requests, RequestOk l r

variable {base : UInt32} {l : Link}

theorem Sends.spec {apps more : List (UInt32 × FixMessage)} {s s' : FixSession} {wires : List Bytes}
    (hs : Sending base apps s) (hnext : s.nextOut < s.nextOut + 1) (h : Sends s s' wires more) :
    Sending base (apps ++ more) s' ∧ s.nextOut ≤ s'.nextOut ∧
      ∀ w ∈ wires, ∃ m, w = build m ∧ Sendable s'.nextOut m := by
  cases h with
  | heartbeat =>
    rw [List.append_nil]
    refine ⟨hs.move rfl rfl rfl rfl (UInt32.le_of_lt hnext), UInt32.le_of_lt hnext, ?_⟩
    intro w hw
    rw [List.mem_singleton.mp hw]
    exact ⟨_, rfl, sendable_heartbeat hs.cfg hnext (Or.inl rfl)⟩
  | application happ =>
    refine ⟨hs.application happ hnext, UInt32.le_of_lt hnext, ?_⟩
    intro w hw
    rw [List.mem_singleton.mp hw]
    exact ⟨_, rfl, happ.stored.sendable hnext⟩
  | @answer fuel raw m x hparse htype hseq hx =>
    have hdecided : ∀ type, type = asBytes "1" ∨ type = asBytes "2" →
        type ≠ asBytes "A" ∧ type ≠ asBytes "5" ∧ handled type = true := by
      rintro type (rfl | rfl) <;> decide
    obtain ⟨hA, h5, hhandled⟩ := hdecided _ htype
    have hanswer := inbound_of_empty hparse ⟨hA, h5⟩ hhandled hseq hs.state hs.pending hx
    rw [List.append_nil]
    rw [Exchange.answer] at hanswer
    split at hanswer
    -- a TestRequest: a heartbeat with its TestReqID
    · cases hanswer
      refine ⟨hs.move rfl rfl rfl rfl (UInt32.le_of_lt hnext), UInt32.le_of_lt hnext, ?_⟩
      intro w hw
      rw [List.mem_singleton.mp hw]
      refine ⟨_, rfl, @sendable_heartbeat s.start.taken.session hs.cfg _ _ hnext _ ?_⟩
      split
      · exact Or.inl rfl
      · rename_i value hvalue
        exact Or.inr ⟨value, soh_not_mem_of_parse hparse hvalue, rfl⟩
    split at hanswer
    -- a ResendRequest: replays of stored messages
    · obtain ⟨replayed, hreplay, rfl⟩ := Option.map_eq_some_iff.mp hanswer
      refine ⟨hs.move rfl rfl rfl rfl (UInt32.le_refl _), UInt32.le_refl _, ?_⟩
      intro w hw
      have hmem : ∃ (k : UInt32) (m' : FixMessage), s.outboundStore[k]? = some m' ∧
          w = build (FixSession.possDup m') := by
        rw [FixSession.replay] at hreplay
        split at hreplay
        · cases hreplay
          cases hw
        split at hreplay
        · cases hreplay
        · cases hreplay
          exact mem_replayLoop hw
      obtain ⟨k, m', hget, rfl⟩ := hmem
      obtain ⟨hk, hstored⟩ := hs.store k m' hget
      exact ⟨_, rfl, hstored.possDup.sendable hk⟩
    · rename_i h1 h2
      exact absurd htype (not_or.mpr ⟨h1, h2⟩)

theorem LinkOk.deliver_error (h : LinkOk base l) (n : UInt64) :
    LinkOk base
      { l with b := { l.b with session := { l.b.session with malformed := n } } } where
  sending := h.sending
  wires := h.wires
  receiving := h.receiving.malformed n
  cfg := h.cfg
  requests r hr :=
    have hok := h.requests r hr
    ⟨hok.range, hok.first, hok.known, hok.ahead, hok.sent, hok.text⟩

theorem LinkOk.deliver_ok {fuel : Nat} {b : Exchange} (h : LinkOk base l)
    (htype : plainType (msgType m) = true) (hlimit : seqNum m < l.a.nextOut)
    (hb : Exchange.dispatch fuel m l.b = some b) :
    LinkOk base { l with
      b := b
      requests := l.requests ++
        if l.b.session.nextIn < seqNum m then
          [⟨l.b.session.nextIn, seqNum m, build (l.b.session.resendRequest (seqNum m))⟩]
        else [] } := by
  obtain ⟨hreceiving, hstepped⟩ := h.receiving.dispatch htype hlimit hb
  obtain ⟨hcfg, hout⟩ := (Exchange.frame fuel).1 hb
  have hsequenced := (plain_facts htype).1
  refine ⟨h.sending, h.wires, hreceiving, by rw [hcfg]; exact h.cfg, ?_⟩
  intro r hr
  rcases List.mem_append.mp hr with hr | hr
  · have hok := h.requests r hr
    exact ⟨hok.range, UInt32.le_trans hok.first hstepped.forward, hstepped.known hok.known,
      hok.ahead, hout.subset hok.sent, hok.text⟩
  -- a new request: the message is retained and the text sent
  · split at hr
    swap
    · cases hr
    rename_i hgap
    rw [List.mem_singleton.mp hr]
    have hsent : build (l.b.session.resendRequest (seqNum m)) ∈ b.out := by
      rcases fuel with _ | fuel
      · cases hb
      rcases Exchange.dispatch_cases hsequenced h.receiving.state hb with ⟨hseq, -⟩ | ⟨hseq, -⟩ |
        ⟨-, rfl⟩ | ⟨hlate, -⟩
      · exact absurd hgap (by rw [hseq]; exact UInt32.lt_irrefl _)
      · exact absurd hgap (by rw [hseq]; exact UInt32.lt_irrefl _)
      · exact List.mem_append_right _ List.mem_cons_self
      · exact absurd (UInt32.lt_trans hgap hlate) (UInt32.lt_irrefl _)
    exact ⟨hgap, hstepped.forward,
      hstepped.arrived hsequenced h.receiving.state (UInt32.le_of_lt hgap), hlimit, hsent,
      l.b.session, h.cfg, rfl, rfl⟩

/-- **Run.** Every linked state. -/
theorem Linked.ok (h : Linked l) : ∃ base, LinkOk base l := by
  induction h with
  | @logon a b ha hb hpa hpb hnext hca hcb hstore =>
    have hpending : b.start.session.pending = ∅ := hpb
    refine ⟨a.nextOut, ⟨ha, hpa, hca, hstore, ?_, ?_, ?_, UInt32.le_refl _⟩, ?_, ?_, hcb, ?_⟩
    · intro k m hk
      cases hk
    · exact fun k m hk => Or.inl (hstore k m hk).1
    · intro _ k m hk
      cases hk
    · intro w hw
      cases hw
    · refine ⟨⟨?_, ?_, ?_, List.nodup_nil⟩, hb, ?_⟩
      · intro k m hk
        rw [hpending] at hk
        simp at hk
      · intro k hk
        rw [hpending] at hk
        simp at hk
      · intro q hq
        cases hq
      · intro k m hk
        rw [hpending] at hk
        simp at hk
    · intro r hr
      cases hr
  | @send l a wires apps _ hnext hsends ih =>
    obtain ⟨base, hok⟩ := ih
    obtain ⟨hsending, hle, hwires⟩ := hsends.spec hok.sending hnext
    refine ⟨base, hsending, ?_, hok.receiving.mono hle, hok.cfg, ?_⟩
    · intro w hw
      rcases List.mem_append.mp hw with hw | hw
      · obtain ⟨m, hbuild, hm⟩ := hok.wires w hw
        exact ⟨m, hbuild, hm.mono hle⟩
      · exact hwires w hw
    · intro r hr
      have hr := hok.requests r hr
      exact ⟨hr.range, hr.first, hr.known, UInt32.lt_of_lt_of_le hr.ahead hle, hr.sent, hr.text⟩
  | @deliver l fuel raw b _ hraw hb ih =>
    obtain ⟨base, hok⟩ := ih
    obtain ⟨m, rfl, hm⟩ := hok.wires raw hraw
    refine ⟨base, ?_⟩
    rw [Exchange.processInbound] at hb
    split at hb
    · rename_i status hparse
      cases hb
      rw [asked_of_error hparse, List.append_nil]
      exact hok.deliver_error _
    · rename_i parsed hparse
      obtain ⟨htype, hseq, -⟩ := hm.buildable.read_back hparse
      rw [asked_of_ok hparse]
      refine hok.deliver_ok ?_ ?_ hb
      · rw [htype]
        exact hm.plain
      · rw [hseq]
        exact hm.number

/-! ## Recovery -/

/-- The request is answered: every number of its range has a replay among the answers, and the
    answers, delivered in order, take B past the range and past the message that was ahead. -/
def Recovers (l : Link) (r : Request) : Prop :=
  ∃ a b enough, (∀ fuel ≥ enough, l.a.start.processInbound fuel r.text = some a) ∧
    (∀ k, r.first ≤ k → k < r.ahead →
      ∃ app, (k, app) ∈ l.apps ∧ build (FixSession.possDup app) ∈ a.out) ∧
    (∀ fuel ≥ enough, l.b.receive fuel a.out = some b) ∧
    r.ahead - 1 < b.session.nextIn ∧ r.ahead ∈ b.processed

theorem RequestOk.read (h : RequestOk l r) (hq : parse r.text = .ok q) :
    msgType q = asBytes "2" ∧ beginSeqNo q = r.first ∧ endSeqNo q = r.ahead - 1 := by
  obtain ⟨s, hcfg, hfirst, htext⟩ := h.text
  have heq : s.resendRequest r.ahead = s.messageWithSeq (asBytes "2") s.nextOut
      [(7, seqText s.nextIn), (16, seqText (r.ahead - 1))] := rfl
  obtain ⟨hbuild, htype, -, hextra⟩ := @messageWithSeq_facts s hcfg (asBytes "2") (by decide)
    s.nextOut [(7, seqText s.nextIn), (16, seqText (r.ahead - 1))]
    (show (headerTags ++ [(7 : Int32), 16]).Nodup by decide) (fun entry hentry => by
      rcases List.mem_cons.mp hentry with rfl | hentry
      · exact ⟨show (0 : Int32) < 7 by decide, soh_not_mem_seqText _⟩
      · rw [List.mem_singleton.mp hentry]
        exact ⟨show (0 : Int32) < 16 by decide, soh_not_mem_seqText _⟩)
  rw [← heq] at hbuild htype hextra
  rw [htext] at hq
  obtain ⟨hqtype, -, hsame⟩ := hbuild.read_back hq
  have h7 := hextra _ List.mem_cons_self
  have h16 := hextra _ (List.mem_cons_of_mem _ List.mem_cons_self)
  refine ⟨hqtype.trans htype, ?_, ?_⟩
  · rw [beginSeqNo, ExtTreeMap.getD_eq_getD_getElem?, hsame 7 (by decide) (by decide) (by decide),
      h7, ← hfirst]
    exact strtoul32_seqText _
  · rw [endSeqNo, ExtTreeMap.getD_eq_getD_getElem?, hsame 16 (by decide) (by decide) (by decide),
      h16]
    exact strtoul32_seqText _

end LobReplay.Fix
