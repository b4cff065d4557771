/-
  Postconditions of computations that may fail. `Ends permitted Q c` says that `c` ends with a value
  that satisfies `Q`, or with an error that is permitted: total correctness up to the errors one is
  willing to accept.

  The rules follow the computation: `Ends.bind` goes through `>>=`, `Ends.foldlM` through a loop
  with an invariant over the elements that are left.
-/

import Mathlib.Data.List.Basic

namespace LobReplay.Foundation

variable {ε α β : Type}

/-- The computation ends with a value that satisfies `Q`, or with a permitted error. -/
def Ends (permitted : ε → Prop) (Q : α → Prop) : Except ε α → Prop
  | .ok a => Q a
  | .error e => permitted e

namespace Ends

variable {permitted : ε → Prop} {Q R : α → Prop} {P : β → Prop} {e : ε}
variable {a : α} {c : Except ε α}

@[simp] theorem ok_iff : Ends permitted Q (.ok a) ↔ Q a := Iff.rfl

@[simp] theorem pure_iff : Ends permitted Q (pure a) ↔ Q a := Iff.rfl

@[simp] theorem error_iff : Ends permitted Q (.error e) ↔ permitted e := Iff.rfl

/-- A weaker postcondition. -/
theorem mono (h : Ends permitted R c) (hle : ∀ a, R a → Q a) : Ends permitted Q c := by
  cases c with
  | ok a => exact hle a h
  | error e => exact h

/-- One computation after the other. -/
theorem bind {c : Except ε β} {f : β → Except ε α} (hc : Ends permitted P c)
    (hf : ∀ b, P b → Ends permitted Q (f b)) : Ends permitted Q (c >>= f) := by
  cases c with
  | ok b => exact hf b hc
  | error e => exact hc

/-- The value of a computation that ends in one. -/
theorem of_eq_ok (h : Ends permitted Q c) (hc : c = .ok a) : Q a := by
  rw [hc] at h
  exact h

theorem of_eq_error (h : Ends permitted Q c) (hc : c = .error e) : permitted e := by
  rw [hc] at h
  exact h

/-- A computation whose value is known. -/
theorem intro_ok (hc : c = .ok a) (h : Q a) : Ends permitted Q c := by
  rw [hc]
  exact h

/-- Every error is permitted: what is left to show is about the value. -/
theorem of_forall (h : ∀ a, c = .ok a → Q a) : Ends (fun _ => True) Q c := by
  cases c with
  | ok a => exact h a rfl
  | error e => exact trivial

/-- **Loop.** An invariant over the elements that are left and the state, kept by the body, holds
    of the empty list at the end. -/
theorem foldlM {σ : Type} {f : σ → β → Except ε σ} (inv : List β → σ → Prop) {xs : List β} {s : σ}
    (hstart : inv xs s)
    (hstep : ∀ x rest s, inv (x :: rest) s → Ends permitted (inv rest) (f s x)) :
    Ends permitted (inv []) (xs.foldlM f s) := by
  induction xs generalizing s with
  | nil => exact hstart
  | cons x xs ih =>
    rw [List.foldlM_cons]
    exact (hstep x xs s hstart).bind fun s hs => ih hs

/-- The loop, when it ends in a value. -/
theorem foldlM_ok {σ : Type} {f : σ → β → Except ε σ} (inv : List β → σ → Prop) {xs : List β}
    {s s' : σ} (h : xs.foldlM f s = .ok s') (hstart : inv xs s)
    (hstep : ∀ x rest s s', inv (x :: rest) s → f s x = .ok s' → inv rest s') : inv [] s' :=
  (@foldlM ε β (fun _ => True) σ f inv xs s hstart fun x rest s hs =>
    of_forall fun s' => hstep x rest s s' hs).of_eq_ok h

end Ends

/-- A chain that ends in a value. -/
theorem bind_ok_iff {c : Except ε β} {f : β → Except ε α} {a : α} :
    (c >>= f) = .ok a ↔ ∃ b, c = .ok b ∧ f b = .ok a := by
  cases c with
  | ok b =>
    constructor
    · exact fun h => ⟨b, rfl, h⟩
    · rintro ⟨b', hb, h⟩
      cases hb
      exact h
  | error e =>
    constructor
    · intro h
      cases h
    · rintro ⟨b, hb, -⟩
      cases hb

end LobReplay.Foundation
