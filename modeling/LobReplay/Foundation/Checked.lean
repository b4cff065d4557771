/-
  Computations that keep account of how they use memory and machine sizes. A `Checked` computation
  has an out parameter it may write, may fail, and records every load, every addition, subtraction
  and division of sizes, and every turn of a loop. Sizes are taken modulo 2^64, as the machine takes
  them.

  `Runs` says how one call ends and that its accesses are in order for a buffer of length `len`.
  `Reads` are the computations that leave the out parameter alone: they compose by the rules of a
  sequence, each with a bound on its turns.
-/

import LobReplay.Foundation.Words

namespace LobReplay.Foundation

/-- One use of the buffer or of the arithmetic of sizes. -/
inductive Access where
  | load (i : Nat)
  | add (a b : Nat)
  | sub (a b : Nat)
  | div (a b : Nat)
  | turn
  deriving DecidableEq

/-- The load is in bounds, the arithmetic neither wraps nor divides by zero. -/
def Access.Ok (len : Nat) : Access → Prop
  | .load i => i < len
  | .add a b => a + b < 2 ^ 64
  | .sub a b => b ≤ a
  | .div _ b => b ≠ 0
  | .turn => True

def turns (log : List Access) : Nat := log.count .turn

/-- A computation with an out parameter of type `σ`. -/
def Checked (σ ε α : Type) : Type := σ → Except ε α × σ × List Access

namespace Checked

variable {σ ε α β : Type}

def ret (a : α) : Checked σ ε α := fun s => (.ok a, s, [])

/-- Without a result there is no continuation. -/
def bind (c : Checked σ ε α) (f : α → Checked σ ε β) : Checked σ ε β := fun s =>
  match c s with
  | (.error e, s', log) => (.error e, s', log)
  | (.ok a, s', log) =>
    let rest := f a s'
    (rest.1, rest.2.1, log ++ rest.2.2)

instance : Monad (Checked σ ε) where
  pure := ret
  bind := bind

/-- A return with a status other than success. -/
def fail (e : ε) : Checked σ ε α := fun s => (.error e, s, [])

/-- `p[i]`. -/
def load (p : Bytes) (i : Nat) : Checked σ ε UInt8 := fun s => (.ok (byteAt p i), s, [.load i])

/-- `a + b` of type `size_t`. -/
def add (a b : Nat) : Checked σ ε Nat := fun s => (.ok ((a + b) % 2 ^ 64), s, [.add a b])

/-- `a - b` of type `size_t`. -/
def sub (a b : Nat) : Checked σ ε Nat := fun s =>
  (.ok ((a + 2 ^ 64 - b) % 2 ^ 64), s, [.sub a b])

/-- `a / b` of type `size_t`. -/
def div (a b : Nat) : Checked σ ε Nat := fun s => (.ok (a / b), s, [.div a b])

def turn : Checked σ ε Unit := fun s => (.ok (), s, [.turn])

def write (f : σ → σ) : Checked σ ε Unit := fun s => (.ok (), f s, [])

/-! ## Runs -/

/-- From the out parameter `s` the computation ends in `r` with the out parameter `s'`; all its
    accesses to a buffer of length `len` are in order, and at most `n` are turns of a loop. -/
structure Runs (len : Nat) (c : Checked σ ε α) (s : σ) (r : Except ε α) (s' : σ) (n : Nat) :
    Prop where
  result : (c s).1 = r
  state : (c s).2.1 = s'
  access : ∀ a ∈ (c s).2.2, a.Ok len
  turns : turns (c s).2.2 ≤ n

def Reads (len : Nat) (c : Checked σ ε α) (r : Except ε α) (n : Nat) : Prop :=
  ∀ s, Runs len c s r s n

section

variable {len n m k : Nat} {c : Checked σ ε α} {s s₁ s₂ : σ} {r : Except ε α} {a b : Nat}
  {q : Except ε β}
variable {f : α → Checked σ ε β}

/-- A computation with its accesses written out. -/
theorem Runs.of_eq (log : List Access) (hc : c s = (r, s₁, log)) (hlog : ∀ a ∈ log, a.Ok len)
    (hn : Foundation.turns log ≤ n) : Runs len c s r s₁ n where
  result := by rw [hc]
  state := by rw [hc]
  access := by
    rw [hc]
    exact hlog
  turns := by
    rw [hc]
    exact hn

theorem Runs.bind_ok {a : α} (hc : Runs len c s (.ok a) s₁ n) (hf : Runs len (f a) s₁ q s₂ k)
    (hm : n + k ≤ m) : Runs len (c >>= f) s q s₂ m := by
  have hstep : c s = (.ok a, s₁, (c s).2.2) := Prod.ext hc.result (Prod.ext hc.state rfl)
  have hrun : (c >>= f) s = ((f a s₁).1, (f a s₁).2.1, (c s).2.2 ++ (f a s₁).2.2) := by
    show Checked.bind c f s = _
    rw [Checked.bind, hstep]
  rw [hf.result, hf.state] at hrun
  refine .of_eq _ hrun (fun x hx => ?_) ?_
  · rcases List.mem_append.mp hx with hx | hx
    · exact hc.access x hx
    · exact hf.access x hx
  · rw [Foundation.turns, List.count_append]
    exact Nat.le_trans (Nat.add_le_add hc.turns hf.turns) hm

theorem Runs.bind_error {e : ε} (hc : Runs len c s (.error e) s₁ n) (hm : n ≤ m) :
    Runs len (c >>= f) s (.error e) s₁ m := by
  have hstep : c s = (.error e, s₁, (c s).2.2) := Prod.ext hc.result (Prod.ext hc.state rfl)
  have hrun : (c >>= f) s = (.error e, s₁, (c s).2.2) := by
    show Checked.bind c f s = _
    rw [Checked.bind, hstep]
  exact .of_eq _ hrun hc.access (Nat.le_trans hc.turns hm)

/-! ## Reading -/

theorem Reads.pure (a : α) : Reads len (Pure.pure a : Checked σ ε α) (.ok a) n :=
  fun _ => .of_eq [] rfl (by simp) (Nat.zero_le n)

theorem Reads.fail (e : ε) : Reads len (fail e : Checked σ ε α) (.error e) n :=
  fun _ => .of_eq [] rfl (by simp) (Nat.zero_le n)

theorem Reads.load {p : Bytes} {i : Nat} (h : i < len) :
    Reads len (load p i : Checked σ ε UInt8) (.ok (byteAt p i)) n :=
  fun _ => .of_eq [.load i] rfl (by simpa [Access.Ok] using h) (Nat.zero_le n)

theorem Reads.add (h : a + b < 2 ^ 64) : Reads len (add a b : Checked σ ε Nat) (.ok (a + b)) n :=
  fun _ => .of_eq [.add a b] (by rw [Checked.add, Nat.mod_eq_of_lt h])
    (by simpa [Access.Ok] using h) (Nat.zero_le n)

theorem Reads.sub (h : b ≤ a) (ha : a < 2 ^ 64) :
    Reads len (sub a b : Checked σ ε Nat) (.ok (a - b)) n := by
  have hvalue : (a + 2 ^ 64 - b) % 2 ^ 64 = a - b := by omega
  exact fun _ => .of_eq [.sub a b] (by rw [Checked.sub, hvalue]) (by simpa [Access.Ok] using h)
    (Nat.zero_le n)

theorem Reads.div (h : b ≠ 0) : Reads len (div a b : Checked σ ε Nat) (.ok (a / b)) n :=
  fun _ => .of_eq [.div a b] rfl (by simpa [Access.Ok] using h) (Nat.zero_le n)

theorem Reads.turn : Reads len (turn : Checked σ ε Unit) (.ok ()) 1 :=
  fun _ => .of_eq [.turn] rfl (by simp [Access.Ok]) (Nat.le_refl 1)

theorem Reads.mono (h : Reads len c r n) (hle : n ≤ m) : Reads len c r m :=
  fun s => { h s with turns := Nat.le_trans (h s).turns hle }

/-- **Sequence.** The rest has the turns that are left. -/
theorem Reads.bind {g : α → Except ε β} (hc : Reads len c r n) (hle : n ≤ m)
    (hf : ∀ a, r = .ok a → ∃ k, n + k ≤ m ∧ Reads len (f a) (g a) k) :
    Reads len (c >>= f) (r.bind g) m := by
  intro s
  cases r with
  | error e => exact (hc s).bind_error hle
  | ok a =>
    obtain ⟨k, hk, hfa⟩ := hf a rfl
    exact (hc s).bind_ok (hfa s) hk

/-- **Straight-line code.** -/
theorem Reads.seq {a : α} (hc : Reads len c (.ok a) 0) (hf : Reads len (f a) q n) :
    Reads len (c >>= f) q n :=
  fun s => (hc s).bind_ok (hf s) (by omega)

/-- A last value computed from the result. -/
theorem Reads.map (f : α → β) (hc : Reads len c r n) :
    Reads len (c >>= fun a => Pure.pure (f a)) (r.map f) n := by
  intro s
  cases r with
  | error e => exact (hc s).bind_error (Nat.le_refl n)
  | ok a => exact (hc s).bind_ok (@Reads.pure σ ε β len 0 (f a) s) (Nat.le_refl n)

end

end Checked

end LobReplay.Foundation
