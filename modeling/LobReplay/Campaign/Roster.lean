/-
  The roster of a campaign: which generation is active, which one is its candidate and which one is
  warmed behind the candidate, as the records of a campaign journal make them so. A record is a mark
  here; what a mark requires of the marks before it is `Admits`, and a history is admissible when
  each of its marks was admitted.
-/

import LobReplay.Foundation.Machine
import LobReplay.Foundation.Matching

namespace LobReplay.Campaign

open Foundation

/-! ## Marks -/

/-- What a journal record says about the generations. -/
inductive Mark where
  | launched (generation : Nat) (source : Option (Nat × String))
  | started (generation : Nat) (monoNs : Nat)
  | terminal (generation : Nat)
  | exited (generation : Nat)
  | proofStarted (predecessor successor : Nat)
  | promoted (predecessor successor : Nat) (proofSha256 : String)
  | activated
  | registered (generation : Nat)
  | durable (generation : Nat) (epoch : String)
  | disposed (generation : Nat) (epoch : String)
  | other
  deriving DecidableEq

namespace Mark

def promotion? : Mark → Option (Nat × Nat × String)
  | promoted predecessor successor proof => some (predecessor, successor, proof)
  | _ => none

/-- The server shutdown a mark makes durable: its generation and connection epoch. -/
def shutdown? : Mark → Option (Nat × String)
  | durable generation epoch => some (generation, epoch)
  | _ => none

/-- The server shutdown a mark disposes of: by a launch, or by a notice that there is
    nothing to launch. -/
def disposition? : Mark → Option (Nat × String)
  | launched _ source => source
  | disposed generation epoch => some (generation, epoch)
  | _ => none

theorem shutdown?_disjoint (mark : Mark) (key : Nat × String) (h : mark.shutdown? = some key) :
    mark.disposition? ≠ some key := by
  cases mark <;> simp_all [shutdown?, disposition?]

end Mark

/-! ## Roles -/

/-- The generations that hold a role. -/
structure Roles where
  active : Option Nat := none
  candidate : Option Nat := none
  warmed : Option Nat := none
  deriving DecidableEq

namespace Roles

/-- A launch of the generation after the active one, with nothing else under way. -/
def Immediate (roles : Roles) (generation : Nat) : Prop :=
  generation ≠ 0 ∧ roles.active = some (generation - 1) ∧ roles.candidate = none ∧
    roles.warmed = none

/-- A launch of the generation after the candidate. -/
def WarmAhead (roles : Roles) (generation : Nat) : Prop :=
  2 ≤ generation ∧ roles.active = some (generation - 2) ∧
    roles.candidate = some (generation - 1) ∧ roles.warmed = none

/-- The warmed generation can take the place of the candidate. -/
def Transfers (roles : Roles) (generation : Nat) : Prop :=
  roles.warmed = some generation ∧ roles.candidate = none ∧
    roles.active = some (generation - 1)

instance (roles : Roles) (generation : Nat) : Decidable (roles.WarmAhead generation) :=
  inferInstanceAs (Decidable (_ ∧ _))

instance (roles : Roles) (generation : Nat) : Decidable (roles.Transfers generation) :=
  inferInstanceAs (Decidable (_ ∧ _))

def after (roles : Roles) : Mark → Roles
  | .activated => { roles with active := some 0 }
  | .launched generation _ =>
    if generation = 0 then roles
    else if roles.WarmAhead generation then { roles with warmed := some generation }
    else { roles with candidate := some generation }
  | .registered generation =>
    if roles.Transfers generation then
      { roles with warmed := none, candidate := some generation }
    else roles
  | .promoted _ successor _ => { roles with active := some successor, candidate := none }
  | _ => roles

end Roles

def rolesOf (history : List Mark) : Roles := history.foldl Roles.after {}

@[simp] theorem rolesOf_nil : rolesOf [] = {} := rfl

@[simp] theorem rolesOf_concat (history : List Mark) (mark : Mark) :
    rolesOf (history ++ [mark]) = (rolesOf history).after mark := by
  simp only [rolesOf, List.foldl_append, List.foldl_cons, List.foldl_nil]

/-! ## Admission -/

def Launched (history : List Mark) (generation : Nat) : Prop :=
  ∃ source, .launched generation source ∈ history

def Promoted (history : List Mark) (generation : Nat) : Prop :=
  ∃ predecessor proof, .promoted predecessor generation proof ∈ history

/-- A durable shutdown of this key is not disposed of yet. -/
def Outstanding (history : List Mark) (key : Nat × String) : Prop :=
  tally Mark.disposition? key history < tally Mark.shutdown? key history

/-- What a mark requires of the marks before it. `expected` holds the proof digests of the
    handovers of the campaign. -/
def Admits (expected : Nat × Nat → Option String) (history : List Mark) : Mark → Prop
  | .launched generation source =>
    ¬ Launched history generation ∧
      (generation ≠ 0 → (rolesOf history).Immediate generation ∨
        (rolesOf history).WarmAhead generation) ∧
      ∀ key, source = some key → Outstanding history key
  | .started generation _ => ∀ monoNs, .started generation monoNs ∉ history
  | .terminal generation => .terminal generation ∉ history
  | .exited generation => .exited generation ∉ history ∧ .terminal generation ∈ history
  | .proofStarted predecessor successor =>
    successor = predecessor + 1 ∧ .proofStarted predecessor successor ∉ history ∧
      .exited predecessor ∈ history
  | .promoted predecessor successor proof =>
    successor = predecessor + 1 ∧ (rolesOf history).active = some predecessor ∧
      (rolesOf history).candidate = some successor ∧
      expected (predecessor, successor) = some proof ∧
      .proofStarted predecessor successor ∈ history ∧ .registered successor ∈ history ∧
      .terminal successor ∉ history
  | .activated => .activated ∉ history
  | .registered generation =>
    generation ≠ 0 ∧ .registered generation ∉ history ∧
      ((rolesOf history).after (.registered generation)).candidate = some generation
  | .disposed generation epoch => Outstanding history (generation, epoch)
  | .durable _ _ | .other => True

/-! ## What admission keeps -/

/-- The generation holds a place under the supervisor: it was registered, or it was launched
    when its predecessor was active already. -/
def Seated (history : List Mark) (generation : Nat) : Prop :=
  .registered generation ∈ history ∨
    ∃ before source later, history = before ++ .launched generation source :: later ∧
      (rolesOf before).active = some (generation - 1)

/-- A launched successor that is neither promoted nor still warming. -/
def Candidate (history : List Mark) (generation : Nat) : Prop :=
  generation ≠ 0 ∧ Launched history generation ∧ ¬ Promoted history generation ∧
    Seated history generation

/-- A launched successor that has no place under the supervisor yet. -/
def Warmed (history : List Mark) (generation : Nat) : Prop :=
  generation ≠ 0 ∧ Launched history generation ∧ ¬ Promoted history generation ∧
    ¬ Seated history generation

variable {generation predecessor successor : Nat} {proof : String} {source : Option (Nat × String)}
  {before later : List Mark}

theorem launched_concat {history : List Mark} {mark : Mark} :
    Launched (history ++ [mark]) generation ↔
      Launched history generation ∨ ∃ source, mark = .launched generation source := by
  simp only [Launched, List.mem_append, List.mem_singleton, eq_comm (b := mark), exists_or]

theorem promoted_concat {history : List Mark} {mark : Mark} :
    Promoted (history ++ [mark]) generation ↔
      Promoted history generation ∨
        ∃ predecessor proof, mark = .promoted predecessor generation proof := by
  simp only [Promoted, List.mem_append, List.mem_singleton, eq_comm (b := mark), exists_or]

theorem seated_concat {history : List Mark} {mark : Mark} :
    Seated (history ++ [mark]) generation ↔
      Seated history generation ∨ mark = .registered generation ∨
        (∃ source, mark = .launched generation source) ∧
          (rolesOf history).active = some (generation - 1) := by
  constructor
  · rintro (hmem | ⟨before, source, later, heq, hactive⟩)
    · rcases List.mem_append.mp hmem with hold | hnew
      · exact .inl (.inl hold)
      · exact .inr (.inl (List.mem_singleton.mp hnew).symm)
    · -- the launch is the new mark, or an earlier one
      rcases List.eq_nil_or_concat later with rfl | ⟨later', last, rfl⟩
      · obtain ⟨rfl, hmark⟩ := List.append_inj' heq rfl
        exact .inr (.inr ⟨⟨source, List.singleton_inj.mp hmark⟩, hactive⟩)
      · rw [List.concat_eq_append, ← List.cons_append, ← List.append_assoc] at heq
        exact .inl (.inr ⟨before, source, later', (List.append_inj' heq rfl).1, hactive⟩)
  · rintro ((hmem | ⟨before, source, later, rfl, hactive⟩) | rfl | ⟨⟨source, rfl⟩, hactive⟩)
    · exact .inl (List.mem_append_left _ hmem)
    · exact .inr ⟨before, source, later ++ [mark], by simp, hactive⟩
    · exact .inl (List.mem_append_right _ (List.mem_singleton_self _))
    · exact .inr ⟨history, source, [], rfl, hactive⟩

def promotions (history : List Mark) : List (Nat × Nat × String) :=
  history.filterMap Mark.promotion?

theorem promotions_concat (history : List Mark) (mark : Mark) :
    promotions (history ++ [mark]) = promotions history ++ mark.promotion?.toList := by
  simp only [promotions, List.filterMap_append]
  cases h : mark.promotion? <;> simp [h]

theorem mem_promotions {history : List Mark} :
    (predecessor, successor, proof) ∈ promotions history ↔
      .promoted predecessor successor proof ∈ history := by
  simp only [promotions, List.mem_filterMap]
  constructor
  · rintro ⟨mark, hmem, hmark⟩
    cases mark <;> simp_all [Mark.promotion?]
  · intro hmem
    exact ⟨_, hmem, rfl⟩

/-- What admission keeps: promotions climb one by one to the active generation, the roles
    are held by the generations right after it, and these are all that has been launched. -/
structure Roster (expected : Nat × Nat → Option String) (history : List Mark) : Prop where
  idle : .activated ∉ history → (rolesOf history).active = none
  pairs : (promotions history).map (fun promotion => (promotion.1, promotion.2.1)) =
    (List.range ((rolesOf history).active.getD 0)).map fun i => (i, i + 1)
  proofs : ∀ predecessor successor proof, .promoted predecessor successor proof ∈ history →
    expected (predecessor, successor) = some proof
  candidate : ∀ generation, (rolesOf history).candidate = some generation →
    generation ≠ 0 ∧ (rolesOf history).active = some (generation - 1)
  warmed : ∀ generation, (rolesOf history).warmed = some generation →
    2 ≤ generation ∧ (rolesOf history).active = some (generation - 2) ∧
        (rolesOf history).candidate = some (generation - 1) ∨
      generation ≠ 0 ∧ (rolesOf history).active = some (generation - 1) ∧
        (rolesOf history).candidate = none
  launched : ∀ generation ≠ 0, Launched history generation ↔ Promoted history generation ∨
    (rolesOf history).candidate = some generation ∨ (rolesOf history).warmed = some generation
  seated : ∀ generation ≠ 0, Seated history generation ↔
    Promoted history generation ∨ (rolesOf history).candidate = some generation

variable {expected : Nat × Nat → Option String} {history : List Mark} {mark : Mark}

theorem Roster.promoted_iff (h : Roster expected history) :
    Promoted history generation ↔
      generation ≠ 0 ∧ generation ≤ (rolesOf history).active.getD 0 := by
  have hmem : Promoted history generation ↔ ∃ predecessor, (predecessor, generation) ∈
      (promotions history).map fun promotion => (promotion.1, promotion.2.1) := by
    constructor
    · rintro ⟨predecessor, proof, hmem⟩
      exact ⟨predecessor, List.mem_map.mpr ⟨_, mem_promotions.mpr hmem, rfl⟩⟩
    · rintro ⟨predecessor, hmem⟩
      obtain ⟨⟨p, g, proof⟩, hp, heq⟩ := List.mem_map.mp hmem
      obtain ⟨rfl, rfl⟩ := Prod.mk.inj heq
      exact ⟨_, proof, mem_promotions.mp hp⟩
  rw [hmem, h.pairs]
  simp only [List.mem_map, List.mem_range, Prod.mk.injEq]
  constructor
  · rintro ⟨_, i, hi, -, rfl⟩
    omega
  · rintro ⟨hne, hle⟩
    exact ⟨generation - 1, generation - 1, by omega, rfl, by omega⟩

theorem roster_nil : Roster expected [] where
  idle _ := rfl
  pairs := rfl
  proofs := by simp
  candidate := by simp
  warmed := by simp
  launched := by simp [Launched, Promoted]
  seated := by simp [Seated, Promoted]

section

variable (h : Roster expected history)
include h

/-- A mark that keeps the active generation and does not promote leaves the chain of promotions alone; what is
    left to show is who holds the other roles. -/
theorem Roster.extend (hpromoted : mark.promotion? = none) {roles : Roles}
    (hroles : (rolesOf history).after mark = roles)
    (hactive : roles.active = (rolesOf history).active)
    (hcandidate : ∀ generation, roles.candidate = some generation →
      generation ≠ 0 ∧ roles.active = some (generation - 1))
    (hwarmed : ∀ generation, roles.warmed = some generation →
      2 ≤ generation ∧ roles.active = some (generation - 2) ∧
          roles.candidate = some (generation - 1) ∨
        generation ≠ 0 ∧ roles.active = some (generation - 1) ∧ roles.candidate = none)
    (hlaunched : ∀ generation ≠ 0,
      (Launched history generation ∨ ∃ source, mark = .launched generation source) ↔
        Promoted history generation ∨ roles.candidate = some generation ∨
          roles.warmed = some generation)
    (hseated : ∀ generation ≠ 0,
      (Seated history generation ∨ mark = .registered generation ∨
          (∃ source, mark = .launched generation source) ∧
            roles.active = some (generation - 1)) ↔
        Promoted history generation ∨ roles.candidate = some generation) :
    Roster expected (history ++ [mark]) := by
  have hafter : rolesOf (history ++ [mark]) = roles := by
    rw [rolesOf_concat, hroles]
  have hkept {predecessor successor : Nat} {proof : String} :
      .promoted predecessor successor proof ∈ history ++ [mark] ↔
        .promoted predecessor successor proof ∈ history := by
    rw [← mem_promotions, promotions_concat, hpromoted, Option.toList_none, List.append_nil,
      mem_promotions]
  have hsame (generation : Nat) :
      Promoted (history ++ [mark]) generation ↔ Promoted history generation := by
    simp only [Promoted, hkept]
  refine ⟨?_, ?_, ?_, ?_, ?_, ?_, ?_⟩
  · intro hidle
    rw [hafter, hactive]
    exact h.idle fun hmem => hidle (List.mem_append_left _ hmem)
  · rw [promotions_concat, hpromoted, hafter, hactive, Option.toList_none, List.append_nil, h.pairs]
  · intro predecessor successor proof hmem
    exact h.proofs _ _ _ (hkept.mp hmem)
  · rw [hafter]
    exact hcandidate
  · rw [hafter]
    exact hwarmed
  · intro generation hne
    rw [hafter, launched_concat, hsame]
    exact hlaunched generation hne
  · intro generation hne
    rw [hafter, seated_concat, hsame, ← hactive]
    exact hseated generation hne

theorem Roster.quiet (hpromoted : mark.promotion? = none)
    (hroles : (rolesOf history).after mark = rolesOf history)
    (hlaunched : ∀ generation source, mark ≠ .launched generation source)
    (hregistered : ∀ generation, mark ≠ .registered generation) :
    Roster expected (history ++ [mark]) := by
  refine h.extend hpromoted hroles rfl h.candidate h.warmed ?_ ?_
  · intro generation hne
    simpa [hlaunched] using h.launched generation hne
  · intro generation hne
    simpa [hlaunched, hregistered] using h.seated generation hne

/-- With no active generation nothing is launched as a successor. -/
theorem Roster.rolesOf_eq_of_idle (hactive : (rolesOf history).active = none) :
    rolesOf history = {} := by
  have hcandidate : (rolesOf history).candidate = none := by
    by_contra hsome
    obtain ⟨generation, hcandidate⟩ := Option.ne_none_iff_exists'.mp hsome
    have := (h.candidate generation hcandidate).2
    rw [hactive] at this
    cases this
  have hwarmed : (rolesOf history).warmed = none := by
    by_contra hsome
    obtain ⟨generation, hwarmed⟩ := Option.ne_none_iff_exists'.mp hsome
    rcases h.warmed generation hwarmed with ⟨-, hbehind, -⟩ | ⟨-, hbehind, -⟩
    all_goals
      rw [hactive] at hbehind
      cases hbehind
  cases hroles : rolesOf history with
  | mk active candidate warmed => simp_all

theorem Roster.activate (hadmits : Admits expected history .activated) :
    Roster expected (history ++ [.activated]) := by
  have hroles := h.rolesOf_eq_of_idle (h.idle hadmits)
  have hpairs := h.pairs
  have hlaunched := h.launched
  have hseated := h.seated
  rw [hroles] at hpairs
  simp only [hroles] at hlaunched hseated
  have hafter : rolesOf (history ++ [.activated]) = { active := some 0 } := by
    rw [rolesOf_concat, hroles]
    rfl
  refine ⟨?_, ?_, ?_, ?_, ?_, ?_, ?_⟩
  · intro hidle
    exact absurd (List.mem_append_right _ (List.mem_singleton_self _)) hidle
  · rw [promotions_concat, hafter]
    simpa [Mark.promotion?] using hpairs
  · intro predecessor successor proof hmem
    exact h.proofs _ _ _ (by simpa using hmem)
  · simp [hafter]
  · simp [hafter]
  · intro generation hne
    simpa [launched_concat, promoted_concat, hafter] using hlaunched generation hne
  · intro generation hne
    simpa [seated_concat, promoted_concat, hafter] using hseated generation hne

theorem Roster.launch_first : Roster expected (history ++ [.launched 0 source]) := by
  refine h.extend rfl rfl rfl h.candidate h.warmed ?_ ?_
  · intro generation hne
    rw [Roles.after, if_pos rfl, ← h.launched generation hne]
    simp [hne.symm]
  · intro generation hne
    rw [Roles.after, if_pos rfl, ← h.seated generation hne]
    simp [hne.symm]

theorem Roster.launch_immediate (hroom : (rolesOf history).Immediate generation) :
    Roster expected (history ++ [.launched generation source]) := by
  obtain ⟨hne, hactive, hcandidate, hwarmed⟩ := hroom
  have hafter : (rolesOf history).after (.launched generation source) =
      { rolesOf history with candidate := some generation } := by
    rw [Roles.after, if_neg hne, if_neg]
    rintro ⟨-, -, hpending, -⟩
    rw [hcandidate] at hpending
    cases hpending
  refine h.extend rfl hafter rfl ?_ ?_ ?_ ?_
  · rintro g ⟨⟩
    exact ⟨hne, hactive⟩
  · simp [hwarmed]
  · intro g hg
    rw [h.launched g hg, hcandidate, hwarmed]
    simp
  · intro g hg
    rw [h.seated g hg, hcandidate, hactive]
    constructor
    · rintro ((hpromoted | hnone) | hregistered | ⟨⟨_, heq⟩, -⟩)
      · exact .inl hpromoted
      · cases hnone
      · cases hregistered
      · cases heq
        exact .inr rfl
    · rintro (hpromoted | ⟨⟨⟩⟩)
      · exact .inl (.inl hpromoted)
      · exact .inr (.inr ⟨⟨source, rfl⟩, rfl⟩)

theorem Roster.launch_ahead (hroom : (rolesOf history).WarmAhead generation) :
    Roster expected (history ++ [.launched generation source]) := by
  have hafter : (rolesOf history).after (.launched generation source) =
      { rolesOf history with warmed := some generation } := by
    have htwo := hroom.1
    rw [Roles.after, if_neg (by omega), if_pos hroom]
  obtain ⟨htwo, hactive, hcandidate, hwarmed⟩ := hroom
  refine h.extend rfl hafter rfl h.candidate ?_ ?_ ?_
  · rintro g ⟨⟩
    exact .inl ⟨htwo, hactive, hcandidate⟩
  · intro g hg
    rw [h.launched g hg, hwarmed]
    simp [or_assoc]
  · -- two places behind the active generation is no place under the supervisor
    intro g hg
    rw [h.seated g hg, hactive]
    simp only [Mark.launched.injEq, reduceCtorEq, false_or, Option.some.injEq, or_iff_left_iff_imp]
    rintro ⟨⟨-, rfl, -⟩, hbehind⟩
    omega

theorem Roster.register (hadmits : Admits expected history (.registered generation)) :
    Roster expected (history ++ [.registered generation]) := by
  obtain ⟨hne, -, hcandidate⟩ := hadmits
  by_cases htransfers : (rolesOf history).Transfers generation
  · have hafter : (rolesOf history).after (.registered generation) =
        { rolesOf history with warmed := none, candidate := some generation } := by
      rw [Roles.after, if_pos htransfers]
    obtain ⟨hwarmed, hpending, hactive⟩ := htransfers
    refine h.extend rfl hafter rfl ?_ (by simp) ?_ ?_
    · rintro g ⟨⟩
      exact ⟨hne, hactive⟩
    · intro g hg
      rw [h.launched g hg, hpending, hwarmed]
      simp
    · intro g hg
      rw [h.seated g hg, hpending]
      simp
  · have hafter : (rolesOf history).after (.registered generation) = rolesOf history := by
      rw [Roles.after, if_neg htransfers]
    rw [hafter] at hcandidate
    refine h.extend rfl hafter rfl h.candidate h.warmed ?_ ?_
    · intro g hg
      simpa using h.launched g hg
    · intro g hg
      rw [h.seated g hg, hcandidate]
      simp

theorem Roster.promote (hadmits : Admits expected history (.promoted predecessor successor proof)) :
    Roster expected (history ++ [.promoted predecessor successor proof]) := by
  obtain ⟨hnext, hactive, hcandidate, hexpected, -, -, -⟩ := hadmits
  have hafter : rolesOf (history ++ [.promoted predecessor successor proof]) =
      { rolesOf history with active := some successor, candidate := none } := by
    rw [rolesOf_concat, Roles.after]
  have hpromoted (g : Nat) : Promoted (history ++ [.promoted predecessor successor proof]) g ↔
      Promoted history g ∨ g = successor := by
    rw [promoted_concat]
    simp [eq_comm]
  refine ⟨?_, ?_, ?_, ?_, ?_, ?_, ?_⟩
  · intro hidle
    have := h.idle fun hmem => hidle (List.mem_append_left _ hmem)
    rw [hactive] at this
    cases this
  · rw [promotions_concat, List.map_append, h.pairs, hactive, hafter]
    simp [Mark.promotion?, hnext, List.range_succ]
  · intro p g digest hmem
    rcases List.mem_append.mp hmem with hold | hnew
    · exact h.proofs _ _ _ hold
    · cases List.mem_singleton.mp hnew
      exact hexpected
  · simp [hafter]
  · -- a generation warmed behind the candidate is now right behind the active one
    intro g hwarmed
    rw [hafter] at hwarmed ⊢
    rcases h.warmed g hwarmed with ⟨htwo, -, hbehind⟩ | ⟨-, -, hnone⟩
    · rw [hcandidate] at hbehind
      cases hbehind
      exact .inr ⟨by omega, rfl, rfl⟩
    · rw [hcandidate] at hnone
      cases hnone
  · intro g hg
    rw [launched_concat, hpromoted, hafter, h.launched g hg, hcandidate]
    simp [eq_comm, or_assoc]
  · intro g hg
    rw [seated_concat, hpromoted, hafter, h.seated g hg, hcandidate]
    simp [eq_comm]

/-- **Step.** An admitted mark keeps the roster. -/
theorem Roster.step (hadmits : Admits expected history mark) :
    Roster expected (history ++ [mark]) := by
  cases mark with
  | activated => exact h.activate hadmits
  | launched generation source =>
    obtain ⟨-, hroom, -⟩ := hadmits
    by_cases hzero : generation = 0
    · subst hzero
      exact h.launch_first
    · rcases hroom hzero with hnext | hahead
      · exact h.launch_immediate hnext
      · exact h.launch_ahead hahead
  | registered generation => exact h.register hadmits
  | promoted predecessor successor proof => exact h.promote hadmits
  | _ => exact h.quiet rfl rfl (by simp) (by simp)

end

/-- **Run.** Every admissible history keeps the roster. -/
theorem roster_of_admitted (h : AtEach (Admits expected) history) : Roster expected history := by
  induction history using List.reverseRecOn with
  | nil => exact roster_nil
  | append_singleton history mark ih =>
    obtain ⟨hearlier, hadmits⟩ := atEach_concat.mp h
    exact (ih hearlier).step hadmits

/-! ## What an admissible history is like -/

/-- The launched successors are the ones that hold a role. -/
theorem Roster.candidate_iff (h : Roster expected history) :
    Candidate history generation ↔ (rolesOf history).candidate = some generation := by
  constructor
  · rintro ⟨hne, -, hpromoted, hseated⟩
    rcases (h.seated generation hne).mp hseated with hdone | hcandidate
    · exact absurd hdone hpromoted
    · exact hcandidate
  · intro hcandidate
    obtain ⟨hne, hactive⟩ := h.candidate generation hcandidate
    refine ⟨hne, (h.launched generation hne).mpr (.inr (.inl hcandidate)), ?_,
      (h.seated generation hne).mpr (.inr hcandidate)⟩
    rw [h.promoted_iff, hactive, Option.getD_some]
    omega

theorem Roster.warmed_iff (h : Roster expected history) :
    Warmed history generation ↔ (rolesOf history).warmed = some generation := by
  constructor
  · rintro ⟨hne, hlaunched, hpromoted, hseated⟩
    rcases (h.launched generation hne).mp hlaunched with hdone | hcandidate | hwarmed
    · exact absurd hdone hpromoted
    · exact absurd ((h.seated generation hne).mpr (.inr hcandidate)) hseated
    · exact hwarmed
  · intro hwarmed
    have hbehind : generation ≠ 0 ∧ (rolesOf history).active.getD 0 < generation ∧
        (rolesOf history).candidate ≠ some generation := by
      rcases h.warmed generation hwarmed with ⟨htwo, hactive, hcandidate⟩ | ⟨hne, hactive, hnone⟩
      · rw [hactive, hcandidate, Option.getD_some]
        exact ⟨by omega, by omega, fun heq => by have := Option.some.inj heq; omega⟩
      · rw [hactive, hnone, Option.getD_some]
        exact ⟨hne, by omega, by simp⟩
    obtain ⟨hne, hlt, hcandidate⟩ := hbehind
    have hpromoted : ¬ Promoted history generation := by
      rw [h.promoted_iff]
      omega
    refine ⟨hne, (h.launched generation hne).mpr (.inr (.inr hwarmed)), hpromoted, ?_⟩
    rw [h.seated generation hne]
    exact not_or.mpr ⟨hpromoted, hcandidate⟩

theorem notMem_later (h : AtEach (Admits expected) (before ++ mark :: later))
    (honce : ∀ earlier, Admits expected earlier mark → mark ∉ earlier) : mark ∉ later := by
  intro hmem
  obtain ⟨mid, rest, rfl⟩ := List.append_of_mem hmem
  have hadmits := h (before ++ mark :: mid) mark rest (by simp)
  exact honce _ hadmits (by simp)

/-- **Order of a promotion.** What comes before a promotion, and does not come again. -/
theorem promotion_order
    (h : AtEach (Admits expected) (before ++ .promoted predecessor successor proof :: later)) :
    (.registered successor ∈ before ∧ .registered successor ∉ later) ∧
      (.proofStarted predecessor successor ∈ before ∧
        .proofStarted predecessor successor ∉ later) ∧
      (.exited predecessor ∈ before ∧ .exited predecessor ∉ later) ∧
      .terminal successor ∉ before := by
  obtain ⟨-, -, -, -, hproof, hregistered, hterminal⟩ := h before _ later rfl
  -- the proof was started after the predecessor had exited
  have hexited : .exited predecessor ∈ before := by
    obtain ⟨first, rest, rfl⟩ := List.append_of_mem hproof
    obtain ⟨-, -, hexited⟩ := h first (.proofStarted predecessor successor)
      (rest ++ .promoted predecessor successor proof :: later) (by simp)
    exact List.mem_append_left _ hexited
  -- a mark that stands before the promotion and is admitted once does not stand after it
  have honce (m : Mark) (hmem : m ∈ before)
      (hadmitted : ∀ earlier, Admits expected earlier m → m ∉ earlier) : m ∉ later := by
    obtain ⟨first, rest, rfl⟩ := List.append_of_mem hmem
    rw [List.append_assoc, List.cons_append] at h
    have hnot := notMem_later h hadmitted
    intro hlater
    exact hnot (List.mem_append_right _ (List.mem_cons_of_mem _ hlater))
  exact ⟨⟨hregistered, honce _ hregistered fun _ ha => ha.2.1⟩,
    ⟨hproof, honce _ hproof fun _ ha => ha.2.1⟩,
    ⟨hexited, honce _ hexited fun _ ha => ha.1⟩, hterminal⟩

theorem tally_disposition_le (h : AtEach (Admits expected) history) (key : Nat × String) :
    tally Mark.disposition? key history ≤ tally Mark.shutdown? key history := by
  induction history using List.reverseRecOn with
  | nil => exact Nat.le_refl _
  | append_singleton history mark ih =>
    obtain ⟨hearlier, hadmits⟩ := atEach_concat.mp h
    have hle := ih hearlier
    rw [tally_concat, tally_concat]
    by_cases hkey : mark.disposition? = some key
    · -- a disposition is admitted only where a shutdown is outstanding
      have hout : Outstanding history key := by
        cases mark with
        | launched generation source => exact hadmits.2.2 key hkey
        | disposed generation epoch =>
          cases hkey
          exact hadmits
        | _ => cases hkey
      have hout : tally Mark.disposition? key history < tally Mark.shutdown? key history := hout
      rw [if_pos hkey]
      omega
    · rw [if_neg hkey]
      omega

/-- **Shutdowns and dispositions.** Where nothing is outstanding at the end, every durable
    shutdown has one later disposition and every disposition one earlier shutdown. -/
theorem shutdowns_pairUp (h : AtEach (Admits expected) history)
    (hdone : ∀ key, ¬ Outstanding history key) :
    PairsUp Mark.shutdown? Mark.disposition? history := by
  refine pairsUp_of_balanced Mark.shutdown?_disjoint ?_ ?_
  · intro i key
    have hsplit : AtEach (Admits expected) (history.take i ++ history.drop i) := by
      rwa [List.take_append_drop]
    exact tally_disposition_le hsplit.of_append key
  · intro key
    exact Nat.le_antisymm (tally_disposition_le h key) (Nat.le_of_not_lt (hdone key))

end LobReplay.Campaign
