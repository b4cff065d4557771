/-
  Runs of a stateful component. A component is a step function `σ → ι → ο × σ`: the state before a
  call and the call give the call's output and the state after it. `run` feeds a list of calls and
  collects the outputs.

  The rules are the ones every "for each run" statement goes through.
-/

import Mathlib.Data.List.Induction

namespace LobReplay.Foundation

variable {σ ι ο : Type}

/-- Feed the calls one after another, collecting each call's output. -/
def run (step : σ → ι → ο × σ) : σ → List ι → List ο × σ
  | s, [] => ([], s)
  | s, c :: cs =>
    let r := step s c
    let t := run step r.2 cs
    (r.1 :: t.1, t.2)

section

variable {step : σ → ι → ο × σ} {s : σ}

@[simp] theorem run_nil (s : σ) : run step s [] = ([], s) := rfl

theorem run_cons (s : σ) (c : ι) (cs : List ι) :
    run step s (c :: cs)
      = ((step s c).1 :: (run step (step s c).2 cs).1, (run step (step s c).2 cs).2) := rfl

theorem run_append (s : σ) (xs ys : List ι) :
    run step s (xs ++ ys)
      = ((run step s xs).1 ++ (run step (run step s xs).2 ys).1,
         (run step (run step s xs).2 ys).2) := by
  induction xs generalizing s with
  | nil => rfl
  | cons x xs ih => simp only [List.cons_append, run_cons, ih]

/-- One more call at the end of a run. -/
theorem run_concat (s : σ) (xs : List ι) (c : ι) :
    run step s (xs ++ [c])
      = ((run step s xs).1 ++ [(step (run step s xs).2 c).1],
         (step (run step s xs).2 c).2) := by
  rw [run_append]
  rfl

@[simp] theorem run_outputs_length (s : σ) (xs : List ι) :
    (run step s xs).1.length = xs.length := by
  induction xs generalizing s with
  | nil => rfl
  | cons x xs ih => simp only [run_cons, List.length_cons, ih]

/-- The single steps of a run: the state before, the call, its output and the state after. -/
def transitions (step : σ → ι → ο × σ) : σ → List ι → List (σ × ι × ο × σ)
  | _, [] => []
  | s, c :: cs => (s, c, step s c) :: transitions step (step s c).2 cs

theorem transitions_concat (s : σ) (xs : List ι) (c : ι) :
    transitions step s (xs ++ [c])
      = transitions step s xs ++ [((run step s xs).2, c, step (run step s xs).2 c)] := by
  induction xs generalizing s with
  | nil => rfl
  | cons x xs ih => simp only [List.cons_append, transitions, run_cons, ih]

/-- What a run shows, one more call and output at the end. -/
theorem filterMap_zip_concat {κ : Type} (f : ι × ο → Option κ) {cs : List ι} {os : List ο}
    (h : cs.length = os.length) (c : ι) (o : ο) :
    ((cs ++ [c]).zip (os ++ [o])).filterMap f
      = (cs.zip os).filterMap f ++ (f (c, o)).toList := by
  rw [List.zip_append h, List.filterMap_append]
  show _ ++ [(c, o)].filterMap f = _
  rcases hby : f (c, o) with _ | x
  · rw [List.filterMap_cons_none hby]
    rfl
  · rw [List.filterMap_cons_some hby]
    rfl

/-- **Run induction.** A relation between the calls made, their outputs and the
    state reached, which holds before the first call and is kept by every call,
    holds after the run. -/
theorem run_induction {P : List ι → List ο → σ → Prop} {s₀ : σ} (h₀ : P [] [] s₀)
    (hstep : ∀ cs os s c, P cs os s → P (cs ++ [c]) (os ++ [(step s c).1]) (step s c).2)
    (calls : List ι) : P calls (run step s₀ calls).1 (run step s₀ calls).2 := by
  induction calls using List.reverseRecOn with
  | nil => exact h₀
  | append_singleton cs c ih =>
    rw [run_concat]
    exact hstep cs _ _ c ih

/-- A property of the state that every call keeps is kept by a whole run. -/
theorem run_stable {Q : σ → Prop} (hkeep : ∀ s c, Q s → Q (step s c).2) (hs : Q s)
    (calls : List ι) : Q (run step s calls).2 := by
  induction calls generalizing s with
  | nil => exact hs
  | cons c cs ih => exact ih (hkeep s c hs)

/-- **Simulation.** Two components whose related states answer an admitted call
    alike and stay related, unless the first one fails, answer a whole run without
    failure alike. -/
theorem run_simulates {τ : Type} {step' : τ → ι → ο × τ} {R : σ → τ → Prop} {admits : ι → Prop}
    (fails : ο → Prop)
    (hstep : ∀ s t c, R s t → admits c → fails (step s c).1 ∨
      ((step s c).1 = (step' t c).1 ∧ R (step s c).2 (step' t c).2))
    {t : τ} (hrel : R s t) (calls : List ι) (hadmits : ∀ c ∈ calls, admits c)
    (hfails : ∀ out ∈ (run step s calls).1, ¬ fails out) :
    (run step s calls).1 = (run step' t calls).1 ∧
      R (run step s calls).2 (run step' t calls).2 := by
  induction calls generalizing s t with
  | nil => exact ⟨rfl, hrel⟩
  | cons c cs ih =>
    rcases hstep s t c hrel (hadmits c List.mem_cons_self) with hfail | ⟨hout, hnext⟩
    · exact absurd hfail (hfails _ List.mem_cons_self)
    · obtain ⟨houts, hend⟩ := ih hnext (fun c' h => hadmits c' (List.mem_cons_of_mem _ h))
        (fun out h => hfails out (List.mem_cons_of_mem _ h))
      refine ⟨?_, hend⟩
      rw [run_cons, run_cons, hout, houts]

end

/-! ## Histories -/

/-- `Q before x` holds of each element `x` of a history and what came before it. -/
def AtEach {α : Type} (Q : List α → α → Prop) (history : List α) : Prop :=
  ∀ before x after, history = before ++ x :: after → Q before x

theorem atEach_nil {α : Type} {Q : List α → α → Prop} : AtEach Q [] := by
  intro before x after h
  simp at h

/-- One more element at the end of a history. -/
theorem atEach_concat {α : Type} {Q : List α → α → Prop} {history : List α} {x : α} :
    AtEach Q (history ++ [x]) ↔ AtEach Q history ∧ Q history x := by
  refine ⟨fun h => ⟨?_, h history x [] rfl⟩, ?_⟩
  · intro before y after heq
    exact h before y (after ++ [x]) (by rw [heq, List.append_assoc, List.cons_append])
  · rintro ⟨h, hx⟩ before y after heq
    rcases List.eq_nil_or_concat after with rfl | ⟨after', z, rfl⟩
    · obtain ⟨rfl, hxy⟩ := List.append_inj' heq rfl
      cases hxy
      exact hx
    · rw [List.concat_eq_append, ← List.cons_append, ← List.append_assoc] at heq
      exact h before y after' (List.append_inj' heq rfl).1

theorem atEach_iff_places {α : Type} {Q : List α → α → Prop} {history : List α} :
    AtEach Q history ↔ ∀ i : Fin history.length, Q (history.take i) history[i] := by
  constructor
  · intro h i
    exact h (history.take i) history[i] (history.drop (i + 1)) (by
      rw [Fin.getElem_fin, List.getElem_cons_drop, List.take_append_drop])
  · rintro h before x later rfl
    have hplace := h ⟨before.length, by simp⟩
    simpa using hplace

instance {α : Type} {Q : List α → α → Prop} [∀ before x, Decidable (Q before x)]
    (history : List α) : Decidable (AtEach Q history) :=
  decidable_of_iff _ atEach_iff_places.symm

/-- What holds at each element of a history holds at each element of its beginning. -/
theorem AtEach.of_append {α : Type} {Q : List α → α → Prop} {history later : List α}
    (h : AtEach Q (history ++ later)) : AtEach Q history := by
  intro before x after heq
  exact h before x (after ++ later) (by rw [heq, List.append_assoc, List.cons_append])

/-- **Good at every point iff careful at every call.** `K` is what careful calls keep on the
    admissible histories; it makes the history good, and a call that is not careful does not. -/
theorem prefixes_iff_atEach {α : Type} {A K P : List α → Prop} {Q : List α → α → Prop}
    (hclosed : ∀ history x, A (history ++ [x]) → A history) (hstart : K [])
    (hgood : ∀ history, K history → P history)
    (hstep : ∀ history x, A (history ++ [x]) → K history → Q history x → K (history ++ [x]))
    (hbad : ∀ history x, A (history ++ [x]) → K history → P (history ++ [x]) → Q history x)
    {history : List α} (hadmits : A history) :
    (∀ before later, history = before ++ later → P before) ↔ AtEach Q history := by
  -- where all calls have been careful, what they keep holds
  have hboth : ((∀ before later, history = before ++ later → P before) ↔ AtEach Q history) ∧
      (AtEach Q history → K history) := by
    induction history using List.reverseRecOn with
    | nil =>
      refine ⟨⟨fun _ => atEach_nil, fun _ before later heq => ?_⟩, fun _ => hstart⟩
      obtain ⟨rfl, -⟩ := List.append_eq_nil_iff.mp heq.symm
      exact hgood _ hstart
    | append_singleton history x ih =>
      obtain ⟨hiff, hkept⟩ := ih (hclosed history x hadmits)
      rw [atEach_concat]
      refine ⟨⟨?_, ?_⟩, ?_⟩
      · intro hall
        have hearlier := hiff.mp fun before later heq =>
          hall before (later ++ [x]) (by rw [heq, List.append_assoc])
        exact ⟨hearlier, hbad history x hadmits (hkept hearlier)
          (hall (history ++ [x]) [] (List.append_nil _).symm)⟩
      · rintro ⟨hearlier, hcareful⟩ before later heq
        rcases List.eq_nil_or_concat later with rfl | ⟨later, last, rfl⟩
        · rw [List.append_nil] at heq
          rw [← heq]
          exact hgood _ (hstep history x hadmits (hkept hearlier) hcareful)
        · rw [List.concat_eq_append, ← List.append_assoc] at heq
          exact hiff.mpr hearlier before later (List.append_inj' heq rfl).1
      · rintro ⟨hearlier, hcareful⟩
        exact hstep history x hadmits (hkept hearlier) hcareful
  exact hboth.1

end LobReplay.Foundation
