/-
  A stream of self-delimiting items read one after another by a stateful reader.

  What an item costs is decided by its own symbols (`StreamReader.extend`), and a part of an item is
  never taken for a whole one (`StreamReader.torn`). That is all it takes for reading to be exact at
  a cut (`Reads.cut`).
-/

import Mathlib.Data.List.Basic

namespace LobReplay.Foundation

variable {α σ ι ε : Type} {offset : Nat} {items : List (ι × Nat)}

/-- How one attempt to read an item ends. A failed attempt may have changed the state. -/
inductive Next (σ ι ε : Type) where
  | done
  | item (i : ι) (used : Nat) (state : σ)
  | fail (e : ε) (state : σ)

/-- A reader of self-delimiting items, with the errors it reports for a torn one. -/
structure StreamReader (α σ ι ε : Type) where
  next : σ → List α → Next σ ι ε
  Torn : ε → Prop
  next_nil : ∀ s, next s [] = .done
  used_pos : ∀ {s stream i used s'}, next s stream = .item i used s' → 0 < used
  used_le : ∀ {s stream i used s'}, next s stream = .item i used s' → used ≤ stream.length
  extend : ∀ {s stream i used s'}, next s stream = .item i used s' →
    ∀ rest, next s (stream.take used ++ rest) = .item i used s'
  torn : ∀ {s stream i used s'}, next s stream = .item i used s' →
    ∀ k, 0 < k → k < used → ∃ e s'', Torn e ∧ next s (stream.take k) = .fail e s''

/-- The reader gets through `items`, each with the length it took, and leaves `rest`. -/
inductive Reads (r : StreamReader α σ ι ε) : σ → List α → List (ι × Nat) → σ → List α → Prop
  | nil {s : σ} {stream : List α} : Reads r s stream [] s stream
  | cons {s s' s'' : σ} {stream rest : List α} {i : ι} {used : Nat} {items : List (ι × Nat)}
      (head : r.next s stream = .item i used s')
      (tail : Reads r s' (stream.drop used) items s'' rest) :
      Reads r s stream ((i, used) :: items) s'' rest

/-- The length of a list of items. -/
def span : List (ι × Nat) → Nat
  | [] => 0
  | item :: rest => item.2 + span rest

@[simp] theorem span_nil : span ([] : List (ι × Nat)) = 0 := rfl

@[simp] theorem span_cons (item : ι × Nat) (rest : List (ι × Nat)) :
    span (item :: rest) = item.2 + span rest := rfl

@[simp] theorem span_append (a b : List (ι × Nat)) : span (a ++ b) = span a + span b := by
  induction a with
  | nil => simp
  | cons item rest ih =>
    rw [List.cons_append, span_cons, span_cons, ih]
    omega

section

variable {r : StreamReader α σ ι ε} {s s' s'' : σ} {stream rest more : List α}
  {items items' : List (ι × Nat)}

section

variable (h : Reads r s stream items s' rest)
include h

theorem Reads.trans (h' : Reads r s' rest items' s'' more) :
    Reads r s stream (items ++ items') s'' more := by
  induction h with
  | nil => exact h'
  | cons head tail ih => exact .cons head (ih h')

theorem Reads.extend (more : List α) : Reads r s (stream ++ more) items s' (rest ++ more) := by
  induction h with
  | nil => exact .nil
  | @cons s s₁ s₂ stream rest i used items head tail ih =>
    have hsplit : stream ++ more = stream.take used ++ (stream.drop used ++ more) := by
      rw [← List.append_assoc, List.take_append_drop]
    have hdrop : (stream ++ more).drop used = stream.drop used ++ more :=
      List.drop_append_of_le_length (r.used_le head)
    have hhead : r.next s (stream ++ more) = .item i used s₁ := by
      rw [hsplit]
      exact r.extend head _
    refine .cons hhead ?_
    rw [hdrop]
    exact ih

theorem Reads.rest_eq : span items ≤ stream.length ∧ rest = stream.drop (span items) := by
  induction h with
  | nil => simp
  | cons head tail ih =>
    have hle := r.used_le head
    obtain ⟨hspan, hrest⟩ := ih
    rw [List.length_drop] at hspan
    rw [span_cons]
    refine ⟨by omega, ?_⟩
    rw [hrest, List.drop_drop]

theorem Reads.length_le_span : items.length ≤ span items := by
  induction h with
  | nil => simp
  | cons head tail ih =>
    have := r.used_pos head
    rw [List.length_cons, span_cons]
    simp only
    omega

/-- **What was read is read again.** -/
theorem Reads.front : Reads r s (stream.take (span items)) items s' [] := by
  induction h with
  | nil =>
    rw [span_nil, List.take_zero]
    exact .nil
  | @cons s s₁ s₂ stream rest i used items head tail ih =>
    have htake : stream.take (used + span items)
        = stream.take used ++ (stream.drop used).take (span items) := List.take_add
    have hdrop : (stream.take (used + span items)).drop used
        = (stream.drop used).take (span items) := by
      rw [List.drop_take, Nat.add_sub_cancel_left]
    have hhead : r.next s (stream.take (used + span items)) = .item i used s₁ := by
      rw [htake]
      exact r.extend head _
    rw [span_cons]
    refine .cons hhead ?_
    rw [hdrop]
    exact ih

end

/-- **A cut keeps the items that end before it.** Nothing is torn iff the cut falls at the end
    of an item. -/
theorem Reads.cut (h : Reads r s stream items s' []) {t : Nat} (ht : t ≤ stream.length) :
    ∃ kept lost middle, items = kept ++ lost ∧ span kept ≤ t ∧
      (∀ first ∈ lost.head?, t < span kept + first.2) ∧
      Reads r s (stream.take t) kept middle ((stream.take t).drop (span kept)) ∧
      (t = span kept ∨ ∃ e state, r.Torn e ∧
        r.next middle ((stream.take t).drop (span kept)) = .fail e state) := by
  induction items generalizing s stream t with
  | nil =>
    cases h
    obtain rfl : t = 0 := by simpa using ht
    exact ⟨[], [], s', rfl, Nat.le_refl _, by simp, .nil, Or.inl rfl⟩
  | cons item items ih =>
    rcases h with _ | @⟨_, s₁, _, _, _, i, used, _, head, tail⟩
    by_cases hused : used ≤ t
    -- the first item is kept: cut what follows it
    · obtain ⟨kept, lost, middle, rfl, hspan, hfirst, hreads, hend⟩ :=
        ih tail (t := t - used) (by rw [List.length_drop]; omega)
      have hdrop : (stream.take t).drop used = (stream.drop used).take (t - used) :=
        List.drop_take
      have hhead : r.next s (stream.take t) = .item i used s₁ := by
        have := r.extend head ((stream.drop used).take (t - used))
        rwa [← List.take_add, Nat.add_sub_cancel' hused] at this
      have hrest : (stream.take t).drop (used + span kept)
          = ((stream.drop used).take (t - used)).drop (span kept) := by
        rw [← hdrop, List.drop_drop]
      refine ⟨(i, used) :: kept, lost, middle, rfl, ?_, ?_, ?_, ?_⟩
      · rw [span_cons]
        omega
      · intro first hmem
        have := hfirst first hmem
        rw [span_cons]
        omega
      · rw [span_cons, hrest]
        refine .cons hhead ?_
        rw [hdrop]
        exact hreads
      · rw [span_cons, hrest]
        rcases hend with hend | hend
        · left
          omega
        · exact Or.inr hend
    -- the cut falls before the end of the first item
    · refine ⟨[], (i, used) :: items, s, rfl, Nat.zero_le _, ?_, ?_, ?_⟩
      · intro first hmem
        obtain rfl : (i, used) = first := Option.some.inj hmem
        simpa using hused
      · exact .nil
      · rcases Nat.eq_zero_or_pos t with rfl | hpos
        · exact Or.inl rfl
        · exact Or.inr (r.torn head t hpos (Nat.lt_of_not_le hused))

/-- **A longer reading goes on where a shorter one stopped.** -/
theorem Reads.continues (h : Reads r s stream items s' rest)
    (h' : Reads r s stream items' s'' more) (hle : items.length ≤ items'.length) :
    ∃ later, items' = items ++ later ∧ Reads r s' rest later s'' more := by
  induction h generalizing items' with
  | nil => exact ⟨items', rfl, h'⟩
  | @cons s s₁ s₂ stream rest i used items head tail ih =>
    cases h' with
    | nil => simp at hle
    | @cons _ s₁' _ _ _ i' used' later head' tail' =>
      obtain ⟨rfl, rfl, rfl⟩ : i = i' ∧ used = used' ∧ s₁ = s₁' := by
        rw [head] at head'
        simpa using head'
      obtain ⟨more, rfl, hmore⟩ := ih tail' (by simpa using hle)
      exact ⟨more, rfl, hmore⟩

theorem Reads.le_of_stopped (h : Reads r s stream items s' rest)
    (h' : Reads r s stream items' s'' more)
    (hstop : ∀ i used state, r.next s' rest ≠ .item i used state) :
    items'.length ≤ items.length := by
  by_contra hlt
  obtain ⟨later, rfl, hlater⟩ := h.continues h' (by omega)
  cases hlater with
  | nil => simp at hlt
  | cons head tail => exact hstop _ _ _ head

theorem Reads.unique (h : Reads r s stream items s' rest) (h' : Reads r s stream items' s'' more)
    (hlength : items'.length = items.length) : items' = items ∧ s'' = s' ∧ more = rest := by
  obtain ⟨later, rfl, hlater⟩ := h.continues h' (by omega)
  obtain rfl : later = [] := by
    rw [List.length_append] at hlength
    exact List.eq_nil_of_length_eq_zero (by omega)
  cases hlater
  exact ⟨by simp, rfl, rfl⟩

theorem exists_reads (r : StreamReader α σ ι ε) (s : σ) (stream : List α) :
    ∃ items s' rest, Reads r s stream items s' rest ∧
      (r.next s' rest = .done ∨ ∃ e state, r.next s' rest = .fail e state) := by
  induction hn : stream.length using Nat.strongRecOn generalizing s stream with
  | _ n ih =>
    cases hnext : r.next s stream with
    | done => exact ⟨[], s, stream, .nil, Or.inl hnext⟩
    | fail e state => exact ⟨[], s, stream, .nil, Or.inr ⟨e, state, hnext⟩⟩
    | item i used s' =>
      have hpos := r.used_pos hnext
      have hle := r.used_le hnext
      obtain ⟨items, s'', rest, hreads, hend⟩ :=
        ih (stream.drop used).length (by rw [List.length_drop]; omega) s' (stream.drop used) rfl
      exact ⟨(i, used) :: items, s'', rest, .cons hnext hreads, hend⟩

end

/-! ## Where items end -/

/-- The offset each item ends at, the first starting at `offset`. -/
def ends (offset : Nat) : List (ι × Nat) → List Nat
  | [] => []
  | item :: rest => (offset + item.2) :: ends (offset + item.2) rest

@[simp] theorem ends_length (offset : Nat) (items : List (ι × Nat)) :
    (ends offset items).length = items.length := by
  induction items generalizing offset with
  | nil => rfl
  | cons item rest ih => rw [ends, List.length_cons, List.length_cons, ih]

theorem ends_append (offset : Nat) (a b : List (ι × Nat)) :
    ends offset (a ++ b) = ends offset a ++ ends (offset + span a) b := by
  induction a generalizing offset with
  | nil => rfl
  | cons item rest ih =>
    rw [List.cons_append, ends, ends, ih, span_cons, List.cons_append, Nat.add_assoc]

theorem ends_le : ∀ e ∈ ends offset items, e ≤ offset + span items := by
  induction items generalizing offset with
  | nil => simp [ends]
  | cons item rest ih =>
    intro e he
    rw [span_cons]
    rcases List.mem_cons.mp he with rfl | he
    · omega
    · have := ih e he
      omega

theorem le_ends : ∀ first ∈ items.head?, ∀ e ∈ ends offset items, offset + first.2 ≤ e := by
  induction items generalizing offset with
  | nil => simp
  | cons item rest ih =>
    intro first hfirst e he
    obtain rfl : item = first := Option.some.inj hfirst
    rcases List.mem_cons.mp he with rfl | he
    · exact Nat.le_refl _
    · rcases rest with _ | ⟨second, rest⟩
      · simp [ends] at he
      · have := ih second rfl e he
        omega

theorem foldl_max_ends (offset : Nat) (items : List (ι × Nat)) :
    (ends offset items).foldl max offset = offset + span items := by
  induction items generalizing offset with
  | nil => rfl
  | cons item rest ih =>
    rw [ends, List.foldl_cons, Nat.max_eq_right (Nat.le_add_right _ _), ih, span_cons,
      Nat.add_assoc]

theorem span_eq_zero_or_mem_ends (offset : Nat) (items : List (ι × Nat)) :
    items = [] ∨ offset + span items ∈ ends offset items := by
  induction items generalizing offset with
  | nil => exact Or.inl rfl
  | cons item rest ih =>
    right
    rw [ends, span_cons, ← Nat.add_assoc]
    rcases ih (offset + item.2) with rfl | hmem
    · exact List.mem_cons_self
    · exact List.mem_cons_of_mem _ hmem

end LobReplay.Foundation
