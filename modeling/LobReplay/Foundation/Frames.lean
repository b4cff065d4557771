/-
  A journal of framed bodies: a big-endian `u32` length, the body, and the digest of the body. A
  scan visits body after body until the journal ends, a frame is broken, or a body is refused; a
  visit that refuses may have changed the state.
-/

import LobReplay.Foundation.Bytes

namespace LobReplay.Foundation

/-- What can be wrong with a frame. -/
inductive Defect where
  | partialLength
  | length
  | partialBody
  | partialDigest
  | mismatch
  deriving DecidableEq

/-- Why a scan stops before the end. -/
inductive Stop (ε : Type) where
  | broken (defect : Defect)
  | refused (reason : ε)
  deriving DecidableEq

/-- What a journal starts with. -/
inductive Front where
  | done
  | broken (defect : Defect)
  | body (body rest : Bytes)

/-- How a journal is framed: its digest and the lengths its reader takes. -/
structure Framing where
  digest : Bytes → FixedBytes 32
  admits : Nat → Bool
  admits_lt : ∀ {n : Nat}, admits n = true → n < 256 ^ 4

namespace Framing

def frame (f : Framing) (body : Bytes) : Bytes :=
  beBytes 4 body.length ++ body ++ (f.digest body).bytes

def frames (f : Framing) (bodies : List Bytes) : Bytes := bodies.flatMap f.frame

/-- Reading the frame at the front. -/
def front (f : Framing) (stream : Bytes) : Front :=
  if stream = [] then .done
  else if stream.length < 4 then .broken .partialLength
  else
    let length := beValue (stream.take 4)
    let tail := stream.drop 4
    if f.admits length = false then .broken .length
    else if tail.length < length then .broken .partialBody
    else if tail.length < length + 32 then .broken .partialDigest
    else if (f.digest (tail.take length)).bytes ≠ (tail.drop length).take 32 then .broken .mismatch
    else .body (tail.take length) (tail.drop (length + 32))

theorem frame_length (f : Framing) (body : Bytes) :
    (f.frame body).length = 4 + body.length + 32 := by
  rw [frame, List.length_append, List.length_append, beBytes_length, (f.digest body).length_eq]

theorem frame_ne_nil (f : Framing) (body : Bytes) : f.frame body ≠ [] := by
  intro h
  have hlength := f.frame_length body
  rw [h, List.length_nil] at hlength
  omega

@[simp] theorem frames_nil (f : Framing) : f.frames [] = [] := rfl

theorem frames_cons (f : Framing) (body : Bytes) (bodies : List Bytes) :
    f.frames (body :: bodies) = f.frame body ++ f.frames bodies := rfl

theorem frames_concat (f : Framing) (bodies : List Bytes) (body : Bytes) :
    f.frames (bodies ++ [body]) = f.frames bodies ++ f.frame body := by
  rw [frames, List.flatMap_append, List.flatMap_cons, List.flatMap_nil, List.append_nil]
  rfl

section

variable {f : Framing} {body rest : Bytes}

theorem take_frame (f : Framing) (body rest : Bytes) :
    (f.frame body ++ rest).take 4 = beBytes 4 body.length := by
  rw [frame, List.append_assoc, List.append_assoc]
  exact List.take_left' (beBytes_length 4 body.length)

theorem drop_frame (f : Framing) (body rest : Bytes) :
    (f.frame body ++ rest).drop 4 = body ++ ((f.digest body).bytes ++ rest) := by
  rw [frame, List.append_assoc, List.append_assoc]
  exact List.drop_left' (beBytes_length 4 body.length)

theorem beValue_length (h : f.admits body.length = true) :
    beValue (beBytes 4 body.length) = body.length :=
  beValue_beBytes 4 body.length (f.admits_lt h)

/-- A frame is read back. -/
theorem front_frame (h : f.admits body.length = true) (rest : Bytes) :
    f.front (f.frame body ++ rest) = .body body rest := by
  have hlength := f.frame_length body
  have hdigest := (f.digest body).length_eq
  have hne : f.frame body ++ rest ≠ [] := by
    intro hnil
    exact f.frame_ne_nil body (List.append_eq_nil_iff.mp hnil).1
  have h4 : ¬ (f.frame body ++ rest).length < 4 := by
    rw [List.length_append, hlength]
    omega
  have hdrop : (body ++ ((f.digest body).bytes ++ rest)).drop (body.length + 32) = rest := by
    rw [← List.append_assoc]
    exact List.drop_left' (by rw [List.length_append, hdigest])
  unfold front
  rw [if_neg hne, if_neg h4]
  simp only [take_frame, drop_frame, beValue_length h, h, List.take_left, List.drop_left, hdrop,
    List.take_left' hdigest, ne_eq, not_true_eq_false, if_false, Bool.true_eq_false]
  rw [if_neg, if_neg]
  · rw [List.length_append, List.length_append, hdigest]
    omega
  · rw [List.length_append]
    omega

theorem front_eq_body {stream : Bytes} (h : f.front stream = .body body rest) :
    stream = f.frame body ++ rest ∧ f.admits body.length = true := by
  unfold front at h
  split at h
  · cases h
  split at h
  · cases h
  next h4 =>
  dsimp only at h
  split at h
  · cases h
  next hadmits =>
  split at h
  · cases h
  next hbody =>
  split at h
  · cases h
  next hall =>
  split at h
  · cases h
  next hdigest =>
  rw [Front.body.injEq] at h
  obtain ⟨rfl, rfl⟩ := h
  rw [not_ne_iff] at hdigest
  have hlength : ((stream.drop 4).take (beValue (stream.take 4))).length
      = beValue (stream.take 4) := by
    rw [List.length_take]
    omega
  have hvalue : beBytes 4 (beValue (stream.take 4)) = stream.take 4 := by
    have hbytes := beBytes_beValue (stream.take 4)
    rwa [show (stream.take 4).length = 4 by rw [List.length_take]; omega] at hbytes
  refine ⟨?_, ?_⟩
  · rw [frame, hlength, hvalue, hdigest, ← List.drop_drop, List.append_assoc, List.append_assoc,
      List.take_append_drop, List.take_append_drop, List.take_append_drop]
  · rw [hlength]
    exact Bool.not_eq_false _ ▸ hadmits

theorem front_torn (h : f.admits body.length = true) {k : Nat} (hpos : 0 < k)
    (hk : k < (f.frame body).length) : ∃ defect, f.front ((f.frame body).take k) = .broken defect := by
  have hlength := f.frame_length body
  have htake : ((f.frame body).take k).length = k := by
    rw [List.length_take]
    omega
  have hne : (f.frame body).take k ≠ [] := by
    intro hnil
    rw [hnil, List.length_nil] at htake
    omega
  unfold front
  rw [if_neg hne, htake]
  by_cases h4 : k < 4
  · exact ⟨_, if_pos h4⟩
  have hvalue : beValue (((f.frame body).take k).take 4) = body.length := by
    have hfront := f.take_frame body []
    rw [List.append_nil] at hfront
    rw [List.take_take, Nat.min_eq_left (Nat.le_of_not_lt h4), hfront, beValue_length h]
  rw [if_neg h4]
  simp only [hvalue, h, List.length_drop, htake, if_false, Bool.true_eq_false]
  -- the length is read, so the part ends in the body or in the digest
  by_cases hbody : k - 4 < body.length
  · exact ⟨_, if_pos hbody⟩
  · rw [if_neg hbody]
    exact ⟨_, if_pos (by omega)⟩

end

/-! ## Scans -/

section

variable {σ ε : Type} (f : Framing) (visit : σ → Bytes → Option ε × σ) {state : σ}

/-- The scan loop; the fuel is more than the bytes left. -/
def scanLoop : Nat → σ → Bytes → Option (Stop ε) × σ
  | 0, state, _ => (none, state)
  | fuel + 1, state, stream =>
    match f.front stream with
    | .done => (none, state)
    | .broken defect => (some (.broken defect), state)
    | .body body rest =>
      match visit state body with
      | (some reason, state) => (some (.refused reason), state)
      | (none, state) => scanLoop fuel state rest

def scan (state : σ) (stream : Bytes) : Option (Stop ε) × σ :=
  scanLoop f visit (stream.length + 1) state stream

/-- The bodies up to the first frame that is broken. -/
def bodiesLoop : Nat → Bytes → List Bytes
  | 0, _ => []
  | fuel + 1, stream =>
    match f.front stream with
    | .body body rest => body :: bodiesLoop fuel rest
    | _ => []

def bodies (stream : Bytes) : List Bytes := f.bodiesLoop (stream.length + 1) stream

/-- A visit that goes on. -/
def accept (state : σ) (body : Bytes) : Option σ :=
  match visit state body with
  | (none, state) => some state
  | (some _, _) => none

theorem accept_eq_some {visit : σ → Bytes → Option ε × σ} {state' : σ} {body : Bytes} :
    accept visit state body = some state' ↔ visit state body = (none, state') := by
  unfold accept
  split
  next heq => rw [heq, Option.some.injEq, Prod.mk.injEq, eq_self, true_and]
  next reason _ heq =>
    rw [heq, Prod.mk.injEq]
    refine ⟨?_, ?_⟩
    · intro h
      cases h
    · rintro ⟨h, -⟩
      cases h

theorem scanLoop_fuel {f : Framing} {visit : σ → Bytes → Option ε × σ} {fuel : Nat} {stream : Bytes}
    (h : stream.length < fuel) :
    scanLoop f visit fuel state stream = scan f visit state stream := by
  -- any two fuels above the length agree
  suffices hall : ∀ n m s (bytes : Bytes), bytes.length < n → bytes.length < m →
      scanLoop f visit n s bytes = scanLoop f visit m s bytes by
    exact hall _ _ _ _ h (Nat.lt_succ_self _)
  intro n
  induction n with
  | zero =>
    intro m s bytes hn
    omega
  | succ n ih =>
    intro m s bytes hn hm
    obtain ⟨m, rfl⟩ : ∃ k, m = k + 1 := ⟨m - 1, by omega⟩
    rw [scanLoop, scanLoop]
    split
    · rfl
    · rfl
    next body rest hfront =>
      obtain ⟨rfl, -⟩ := front_eq_body hfront
      rw [List.length_append, frame_length] at hn hm
      split
      · rfl
      · apply ih
        · omega
        · omega

section

variable {f : Framing} {visit : σ → Bytes → Option ε × σ} {state state' : σ} {body rest : Bytes}

theorem bodies_frames {bs : List Bytes} (hadmits : ∀ body ∈ bs, f.admits body.length = true) :
    f.bodies (f.frames bs) = bs := by
  suffices hall : ∀ fuel, (f.frames bs).length < fuel → f.bodiesLoop fuel (f.frames bs) = bs by
    exact hall _ (Nat.lt_succ_self _)
  induction bs with
  | nil =>
    intro fuel hfuel
    obtain ⟨fuel, rfl⟩ : ∃ k, fuel = k + 1 := ⟨fuel - 1, by omega⟩
    rfl
  | cons body bs ih =>
    intro fuel hfuel
    obtain ⟨fuel, rfl⟩ : ∃ k, fuel = k + 1 := ⟨fuel - 1, by omega⟩
    rw [frames_cons, List.length_append, frame_length] at hfuel
    rw [frames_cons, bodiesLoop, front_frame (hadmits body List.mem_cons_self)]
    dsimp only
    rw [ih (fun b hb => hadmits b (List.mem_cons_of_mem _ hb)) fuel (by omega)]

@[simp] theorem scan_nil : scan f visit state [] = (none, state) := rfl

theorem scan_append_frame (h : f.admits body.length = true) (state : σ) (rest : Bytes) :
    scan f visit state (f.frame body ++ rest) =
      match visit state body with
      | (some reason, state) => (some (.refused reason), state)
      | (none, state) => scan f visit state rest := by
  rw [scan, scanLoop, front_frame h]
  dsimp only
  split
  · rfl
  · apply scanLoop_fuel
    rw [List.length_append, frame_length]
    omega

variable {stream : Bytes}

theorem scan_broken {defect : Defect} (h : f.front stream = .broken defect) (state : σ) :
    scan f visit state stream = (some (.broken defect), state) := by
  rw [scan, scanLoop, h]

/-- A part of a frame stops a scan and changes nothing. -/
theorem scan_torn (h : f.admits body.length = true) {k : Nat} (hpos : 0 < k)
    (hk : k < (f.frame body).length) (state : σ) :
    ∃ defect, scan f visit state ((f.frame body).take k) = (some (.broken defect), state) := by
  obtain ⟨defect, hfront⟩ := front_torn h hpos hk
  exact ⟨defect, scan_broken hfront state⟩

theorem scan_frames_append {bodies : List Bytes} (rest : Bytes)
    (hadmits : ∀ body ∈ bodies, f.admits body.length = true)
    (haccept : bodies.foldlM (accept visit) state = some state') :
    scan f visit state (f.frames bodies ++ rest) = scan f visit state' rest := by
  induction bodies generalizing state with
  | nil =>
    rw [List.foldlM_nil] at haccept
    cases haccept
    rfl
  | cons body bodies ih =>
    rw [List.foldlM_cons, Option.bind_eq_bind, Option.bind_eq_some_iff] at haccept
    obtain ⟨middle, hbody, hrest⟩ := haccept
    rw [frames_cons, List.append_assoc, scan_append_frame (hadmits body List.mem_cons_self),
      accept_eq_some.mp hbody]
    exact ih (fun b hb => hadmits b (List.mem_cons_of_mem _ hb)) hrest

theorem foldlM_accept_concat {bodies : List Bytes} :
    (bodies ++ [body]).foldlM (accept visit) state = some state' ↔
      ∃ middle, bodies.foldlM (accept visit) state = some middle ∧
        visit middle body = (none, state') := by
  have hone (middle : σ) : [body].foldlM (accept visit) middle = accept visit middle body := by
    rw [List.foldlM_cons]
    cases accept visit middle body with
    | none => rfl
    | some _ => rfl
  rw [List.foldlM_append, Option.bind_eq_bind, Option.bind_eq_some_iff]
  simp only [hone, accept_eq_some]

/-- The journal is one of accepted bodies, behind which the scan is in `state'`. -/
def Scans (f : Framing) (visit : σ → Bytes → Option ε × σ) (state : σ) (stream : Bytes)
    (state' : σ) : Prop :=
  ∃ bodies, stream = f.frames bodies ∧ (∀ body ∈ bodies, f.admits body.length = true) ∧
    bodies.foldlM (accept visit) state = some state'

theorem Scans.nil : Scans f visit state [] state := by
  refine ⟨[], rfl, ?_, rfl⟩
  intro b hb
  cases hb

/-- One more accepted body at the end. -/
theorem Scans.append {middle : σ} (h : Scans f visit state stream middle)
    (hadmits : f.admits body.length = true) (hvisit : visit middle body = (none, state')) :
    Scans f visit state (stream ++ f.frame body) state' := by
  obtain ⟨bodies, rfl, hall, hfold⟩ := h
  refine ⟨bodies ++ [body], (frames_concat f bodies body).symm, ?_,
    foldlM_accept_concat.mpr ⟨middle, hfold, hvisit⟩⟩
  intro b hb
  rcases List.mem_append.mp hb with hb | hb
  · exact hall b hb
  · rw [List.mem_singleton.mp hb]
    exact hadmits

/-- **Accepted.** A journal of accepted bodies is scanned to its end. -/
theorem Scans.scan_append (h : Scans f visit state stream state') (rest : Bytes) :
    scan f visit state (stream ++ rest) = scan f visit state' rest := by
  obtain ⟨bodies, rfl, hall, hfold⟩ := h
  exact scan_frames_append rest hall hfold

theorem Scans.scan_eq (h : Scans f visit state stream state') :
    scan f visit state stream = (none, state') := by
  have hscan := h.scan_append []
  rw [List.append_nil] at hscan
  exact hscan

/-- Only an empty journal is done. -/
theorem front_eq_done (h : f.front stream = .done) : stream = [] := by
  by_contra hne
  unfold front at h
  rw [if_neg hne] at h
  dsimp only at h
  repeat' split at h
  all_goals cases h

/-- Where a scan behind `state` stops: at the end, at a broken frame, or at a refused body. -/
inductive Stops (f : Framing) (visit : σ → Bytes → Option ε × σ) (state : σ) :
    Bytes → Option (Stop ε) × σ → Prop where
  | done : Stops f visit state [] (none, state)
  | broken {stream : Bytes} {defect : Defect} (hfront : f.front stream = .broken defect) :
    Stops f visit state stream (some (.broken defect), state)
  | refused {body rest : Bytes} {reason : ε} {state' : σ} (hadmits : f.admits body.length = true)
    (hvisit : visit state body = (some reason, state')) :
    Stops f visit state (f.frame body ++ rest) (some (.refused reason), state')

/-- **Inversion.** A scan takes the accepted bodies at the front and stops behind them. -/
theorem scan_cases (f : Framing) (visit : σ → Bytes → Option ε × σ) (state : σ)
    (stream : Bytes) :
    ∃ bodies state' rest, stream = f.frames bodies ++ rest ∧
      (∀ body ∈ bodies, f.admits body.length = true) ∧
      bodies.foldlM (accept visit) state = some state' ∧
      Stops f visit state' rest (scan f visit state stream) := by
  induction hn : stream.length using Nat.strongRecOn generalizing state stream with
  | _ n ih =>
    have hnone : ∀ body ∈ ([] : List Bytes), f.admits body.length = true := by
      intro body hbody
      cases hbody
    cases hfront : f.front stream with
    | done =>
      obtain rfl := front_eq_done hfront
      exact ⟨[], state, [], rfl, hnone, rfl, .done⟩
    | broken defect =>
      refine ⟨[], state, stream, rfl, hnone, rfl, ?_⟩
      rw [scan_broken hfront]
      exact .broken hfront
    | body body rest =>
      obtain ⟨rfl, hadmits⟩ := front_eq_body hfront
      rw [scan_append_frame hadmits]
      rcases hvisit : visit state body with ⟨_ | reason, middle⟩
      · have hlt : rest.length < n := by
          rw [← hn, List.length_append, frame_length]
          omega
        obtain ⟨bodies, state', tail, rfl, hall, hfold, hstops⟩ := ih rest.length hlt middle rest rfl
        refine ⟨body :: bodies, state', tail, ?_, ?_, ?_, hstops⟩
        · rw [frames_cons, List.append_assoc]
        · intro b hb
          rcases List.mem_cons.mp hb with rfl | hb
          · exact hadmits
          · exact hall b hb
        · rw [List.foldlM_cons, accept_eq_some.mpr hvisit]
          exact hfold
      · exact ⟨[], state, _, rfl, hnone, rfl, .refused hadmits hvisit⟩

/-- **Only accepted.** A journal that is scanned to its end is one of accepted bodies. -/
theorem scans_of_scan (h : scan f visit state stream = (none, state')) :
    Scans f visit state stream state' := by
  obtain ⟨bodies, middle, rest, rfl, hadmits, hfold, hstops⟩ := scan_cases f visit state stream
  rw [h] at hstops
  cases hstops with
  | done => exact ⟨bodies, List.append_nil _, hadmits, hfold⟩

end

end

end Framing

end LobReplay.Foundation
