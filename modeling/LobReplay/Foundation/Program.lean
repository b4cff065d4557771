/-
  Programs of atomic actions on a shared state, and the rules to prove them one thread at a time. An
  action is given an input of the environment; it returns a value and the state it leaves, or it
  cannot be taken. `System.run` interleaves the actions of several threads in the order of a
  schedule.

  A thread relies on what the others do to the state and guarantees what it does itself
  (`Protocol`). `Triple` says that a program keeps its guarantee from a precondition to its
  postconditions, whatever the others do between two of its actions.
-/

import Mathlib.Logic.Function.Basic

namespace LobReplay.Foundation

/-- A program with inputs `ι`, shared state `σ` and errors `ε`. -/
inductive Program (ι σ ε α : Type) : Type 1 where
  | ret (a : α)
  | fail (e : ε)
  | act {β : Type} (action : ι → σ → Option (β × σ)) (next : β → Program ι σ ε α)

namespace Program

variable {ι σ ε α β : Type}

def bind : Program ι σ ε α → (α → Program ι σ ε β) → Program ι σ ε β
  | ret a, f => f a
  | fail e, _ => fail e
  | act action next, f => act action fun b => (next b).bind f

instance : Monad (Program ι σ ε) where
  pure := ret
  bind := bind
  map f c := bind c fun a => ret (f a)

def atomic (action : ι → σ → Option (β × σ)) : Program ι σ ε β := act action ret

/-- A program whose error is its value. -/
def attempt : Program ι σ ε α → Program ι σ ε (Except ε α)
  | ret a => ret (.ok a)
  | fail e => ret (.error e)
  | act action next => act action fun b => (next b).attempt

/-- Every action of a program changes the state by `R`. -/
def Each (R : σ → σ → Prop) : Program ι σ ε α → Prop
  | ret _ => True
  | fail _ => True
  | act action next =>
    (∀ i s b s', action i s = some (b, s') → R s s') ∧ ∀ b, (next b).Each R

section

variable {R : σ → σ → Prop} {c : Program ι σ ε α}

theorem Each.ret (a : α) : (pure a : Program ι σ ε α).Each R := trivial

theorem Each.bind {f : α → Program ι σ ε β} (hc : c.Each R) (hf : ∀ a, (f a).Each R) :
    (c >>= f).Each R := by
  induction c with
  | ret a => exact hf a
  | fail e => trivial
  | act action next ih => exact ⟨hc.1, fun b => ih b (hc.2 b)⟩

theorem Each.map (f : α → β) (hc : c.Each R) : (f <$> c).Each R :=
  hc.bind fun a => Each.ret (f a)

theorem Each.attempt (hc : c.Each R) : c.attempt.Each R := by
  induction c with
  | ret a => trivial
  | fail e => trivial
  | act action next ih => exact ⟨hc.1, fun b => ih b (hc.2 b)⟩

theorem Each.atomic {action : ι → σ → Option (α × σ)}
    (h : ∀ i s a s', action i s = some (a, s') → R s s') :
    (Program.atomic action : Program ι σ ε α).Each R :=
  ⟨h, fun _ => trivial⟩

end

end Program

/-! ## One thread -/

/-- What the other threads may do to the state, and what this one may. -/
structure Protocol (σ : Type) where
  rely : σ → σ → Prop
  guarantee : σ → σ → Prop
  refl : ∀ s, rely s s
  trans : ∀ a b c, rely a b → rely b c → rely a c

section

variable {ι σ ε α β : Type} {s : σ}

/-- From `s` on the program keeps the invariant and its guarantee, and ends in its postconditions,
    whatever the other threads do before each of its actions. -/
def Safe (I : σ → Prop) (p : Protocol σ) (Q : α → σ → Prop) (E : ε → σ → Prop) :
    Program ι σ ε α → σ → Prop
  | .ret a, s => Q a s
  | .fail e, s => E e s
  | .act action next, s => ∀ s₁, p.rely s s₁ → I s₁ → ∀ i b s₂, action i s₁ = some (b, s₂) →
      p.guarantee s₁ s₂ ∧ I s₂ ∧ Safe I p Q E (next b) s₂

/-- The other threads keep the assertion. -/
def Stable (I : σ → Prop) (p : Protocol σ) (P : σ → Prop) : Prop :=
  ∀ s s', P s → I s' → p.rely s s' → P s'

/-- From the precondition on the program is safe. -/
def Triple (I : σ → Prop) (p : Protocol σ) (P : σ → Prop) (c : Program ι σ ε α)
    (Q : α → σ → Prop) (E : ε → σ → Prop) : Prop :=
  ∀ s, P s → I s → Safe I p Q E c s

variable {I : σ → Prop} {p : Protocol σ} {P P' : σ → Prop} {Q Q' : α → σ → Prop}
variable {E E' : ε → σ → Prop} {c : Program ι σ ε α}

theorem Safe.bind {M : α → σ → Prop} {R : β → σ → Prop} {f : α → Program ι σ ε β} (hI : I s)
    (h : Safe I p M E c s) (hf : ∀ a s, M a s → I s → Safe I p R E (f a) s) :
    Safe I p R E (c >>= f) s := by
  induction c generalizing s with
  | ret a => exact hf a s h hI
  | fail e => exact h
  | act action next ih =>
    intro s₁ hrely hI₁ i b s₂ haction
    obtain ⟨hguarantee, hI₂, hnext⟩ := h s₁ hrely hI₁ i b s₂ haction
    exact ⟨hguarantee, hI₂, ih b hI₂ hnext⟩

theorem Safe.attempt {R : Except ε α → σ → Prop}
    (h : Safe I p (fun a => R (.ok a)) (fun e => R (.error e)) c s) : Safe I p R E c.attempt s := by
  induction c generalizing s with
  | ret a => exact h
  | fail e => exact h
  | act action next ih =>
    intro s₁ hrely hI₁ i b s₂ haction
    obtain ⟨hguarantee, hI₂, hnext⟩ := h s₁ hrely hI₁ i b s₂ haction
    exact ⟨hguarantee, hI₂, ih b hnext⟩

theorem Safe.mono (hI : I s) (h : Safe I p Q E c s) (hQ : ∀ a s, Q a s → I s → Q' a s)
    (hE : ∀ e s, E e s → I s → E' e s) : Safe I p Q' E' c s := by
  induction c generalizing s with
  | ret a => exact hQ a s h hI
  | fail e => exact hE e s h hI
  | act action next ih =>
    intro s₁ hrely hI₁ i b s₂ haction
    obtain ⟨hguarantee, hI₂, hnext⟩ := h s₁ hrely hI₁ i b s₂ haction
    exact ⟨hguarantee, hI₂, ih b hI₂ hnext⟩

/-- The other threads do not make a program unsafe. -/
theorem Safe.stable {s' : σ} (h : Safe I p Q E c s) (hQ : ∀ a, Stable I p (Q a))
    (hE : ∀ e, Stable I p (E e)) (hI : I s') (hrely : p.rely s s') : Safe I p Q E c s' := by
  cases c with
  | ret a => exact hQ a s s' h hI hrely
  | fail e => exact hE e s s' h hI hrely
  | act action next =>
    intro s₁ hrely₁ hI₁
    exact h s₁ (p.trans s s' s₁ hrely hrely₁) hI₁

namespace Triple

theorem ret {a : α} (h : ∀ s, P s → I s → Q a s) : Triple I p P (pure a : Program ι σ ε α) Q E :=
  h

theorem fail {e : ε} (h : ∀ s, P s → I s → E e s) : Triple I p P (.fail e : Program ι σ ε α) Q E :=
  h

/-- **One action**, the precondition being stable. -/
theorem atomic {action : ι → σ → Option (α × σ)} (hP : Stable I p P)
    (h : ∀ i s a s', P s → I s → action i s = some (a, s') →
      p.guarantee s s' ∧ I s' ∧ Q a s') :
    Triple I p P (.atomic action) Q E := by
  intro s hs hI s₁ hrely hI₁ i a s₂ haction
  exact h i s₁ a s₂ (hP s s₁ hs hI₁ hrely) hI₁ haction

/-- **Sequence.** -/
theorem bind {R : β → σ → Prop} {M : α → σ → Prop} {f : α → Program ι σ ε β}
    (hc : Triple I p P c M E) (hf : ∀ a, Triple I p (M a) (f a) R E) :
    Triple I p P (c >>= f) R E := by
  intro s hs hI
  exact Safe.bind hI (hc s hs hI) fun a s hM hI' => hf a s hM hI'

/-- **Recovery.** -/
theorem attempt {R : Except ε α → σ → Prop}
    (h : Triple I p P c (fun a => R (.ok a)) (fun e => R (.error e))) :
    Triple I p P c.attempt R E := by
  intro s hs hI
  exact (h s hs hI).attempt

theorem consequence (h : Triple I p P' c Q' E') (hP : ∀ s, P s → I s → P' s)
    (hQ : ∀ a s, Q' a s → I s → Q a s) (hE : ∀ e s, E' e s → I s → E e s) :
    Triple I p P c Q E := by
  intro s hs hI
  exact (h s (hP s hs hI) hI).mono hI hQ hE

/-- **Silence.** Actions of a kind that keeps the invariant and the assertion. -/
theorem each {R : σ → σ → Prop} (hc : c.Each R) (hP : Stable I p P)
    (hR : ∀ s s', P s → I s → R s s' → p.guarantee s s' ∧ I s' ∧ P s') :
    Triple I p P c (fun _ => P) fun _ => P := by
  intro s hs hI
  induction c generalizing s with
  | ret a => exact hs
  | fail e => exact hs
  | act action next ih =>
    intro s₁ hrely hI₁ i b s₂ haction
    have hs₁ := hP s s₁ hs hI₁ hrely
    obtain ⟨hguarantee, hI₂, hs₂⟩ := hR s₁ s₂ hs₁ hI₁ (hc.1 i s₁ b s₂ haction)
    exact ⟨hguarantee, hI₂, ih b (hc.2 b) s₂ hs₂ hI₂⟩

/-- What the precondition says of values that are fixed. -/
theorem assume {h : Prop} (hc : h → Triple I p P c Q E) : Triple I p (fun s => h ∧ P s) c Q E :=
  fun s hs hI => hc hs.1 s hs.2 hI

/-- The precondition holds of some value. -/
theorem ofExists {P : β → σ → Prop} (hc : ∀ b, Triple I p (P b) c Q E) :
    Triple I p (fun s => ∃ b, P b s) c Q E := by
  intro s ⟨b, hs⟩ hI
  exact hc b s hs hI

/-- A stronger precondition. -/
theorem strengthen (h : Triple I p P' c Q E) (hP : ∀ s, P s → I s → P' s) :
    Triple I p P c Q E :=
  h.consequence hP (fun _ _ h _ => h) fun _ _ h _ => h

/-- What a triple says of one state. -/
theorem safe (h : Triple I p P c Q E) {s : σ} (hs : P s) (hI : I s) : Safe I p Q E c s := h s hs hI

end Triple

-- a unifier that looks into a triple would run its program
attribute [irreducible] Triple

end

/-! ## Several threads -/

/-- Threads that run blocks of code: a block returns the block that follows it, if any. -/
structure System (τ ι σ ε β : Type) where
  shared : σ
  threads : τ → Program ι σ ε (Option β)

namespace System

variable {τ ι σ ε β : Type} [DecidableEq τ]

/-- What a thread does next: it takes its action, if it can, or goes on to the next block. -/
def step (code : β → Program ι σ ε (Option β)) (sys : System τ ι σ ε β) (turn : τ × ι) :
    System τ ι σ ε β :=
  match sys.threads turn.1 with
  | .ret none => sys
  | .ret (some block) =>
    { sys with threads := Function.update sys.threads turn.1 (code block) }
  | .fail _ => sys
  | .act action next =>
    match action turn.2 sys.shared with
    | none => sys
    | some (b, shared) =>
      { shared, threads := Function.update sys.threads turn.1 (next b) }

def run (code : β → Program ι σ ε (Option β)) (sys : System τ ι σ ε β)
    (schedule : List (τ × ι)) : System τ ι σ ε β :=
  schedule.foldl (step code) sys

/-- Threads that are proved one at a time: what each guarantees the others may rely on, its
    postconditions are stable, and its blocks lead from one to the next. -/
structure Composed (I : σ → Prop) (code : β → Program ι σ ε (Option β)) (protocol : τ → Protocol σ)
    (Q : τ → Option β → σ → Prop) (E : τ → ε → σ → Prop) : Prop where
  compatible : ∀ t t', t ≠ t' → ∀ s s', I s → I s' → (protocol t).guarantee s s' →
    (protocol t').rely s s'
  next : ∀ t r, Stable I (protocol t) (Q t r)
  error : ∀ t e, Stable I (protocol t) (E t e)
  block : ∀ t block, Triple I (protocol t) (Q t (some block)) (code block) (Q t) (E t)

variable {I : σ → Prop} {code : β → Program ι σ ε (Option β)} {protocol : τ → Protocol σ}
variable {Q : τ → Option β → σ → Prop} {E : τ → ε → σ → Prop} {sys : System τ ι σ ε β}

/-- The invariant holds and every thread is safe. -/
def AllSafe (I : σ → Prop) (protocol : τ → Protocol σ) (Q : τ → Option β → σ → Prop)
    (E : τ → ε → σ → Prop) (sys : System τ ι σ ε β) : Prop :=
  I sys.shared ∧ ∀ t, Safe I (protocol t) (Q t) (E t) (sys.threads t) sys.shared

/-- **Step.** -/
theorem step_safe (h : Composed I code protocol Q E) (hsafe : AllSafe I protocol Q E sys)
    (turn : τ × ι) : AllSafe I protocol Q E (step code sys turn) := by
  obtain ⟨hI, hthreads⟩ := hsafe
  have hthread := hthreads turn.1
  unfold step
  split
  · exact ⟨hI, hthreads⟩
  · next block hblock =>
    rw [hblock] at hthread
    refine ⟨hI, fun t => ?_⟩
    by_cases ht : t = turn.1
    · subst ht
      dsimp only
      rw [Function.update_self]
      exact (h.block _ block).safe hthread hI
    · dsimp only
      rw [Function.update_of_ne ht]
      exact hthreads t
  · exact ⟨hI, hthreads⟩
  · next action next hact =>
    rw [hact] at hthread
    split
    · exact ⟨hI, hthreads⟩
    · next b shared haction =>
      obtain ⟨hguarantee, hI', hnext⟩ :=
        hthread sys.shared ((protocol turn.1).refl _) hI turn.2 b shared haction
      refine ⟨hI', fun t => ?_⟩
      by_cases ht : t = turn.1
      · subst ht
        dsimp only
        rw [Function.update_self]
        exact hnext
      · dsimp only
        rw [Function.update_of_ne ht]
        exact (hthreads t).stable (h.next t) (h.error t) hI'
          (h.compatible turn.1 t (Ne.symm ht) _ _ hI hI' hguarantee)

/-- **Run.** Threads that are proved one at a time are safe together, in every schedule. -/
theorem run_safe (h : Composed I code protocol Q E) (hsafe : AllSafe I protocol Q E sys)
    (schedule : List (τ × ι)) : AllSafe I protocol Q E (run code sys schedule) := by
  induction schedule generalizing sys with
  | nil => exact hsafe
  | cons turn schedule ih => exact ih (step_safe h hsafe turn)

end System

end LobReplay.Foundation
