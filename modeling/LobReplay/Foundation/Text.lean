/-
  Decimal numbers in text, searching a text, and texts made of terminated pieces.

  `terminated sep pieces` is every piece followed by the separator. A pattern without the separator
  never reaches over one, so searching a terminated text is searching its pieces
  (`infix_terminated`, `find_terminated_append`).
-/

import Mathlib.Data.List.Infix
import Mathlib.Data.List.TakeWhile
import Mathlib.Data.Nat.Digits.Defs
import LobReplay.Foundation.Bytes

namespace LobReplay.Foundation

/-! ## Decimal numbers -/

/-- `'0' <= b && b <= '9'`. -/
def isDigit (b : UInt8) : Bool := 48 ≤ b && b ≤ 57

/-- The digits of a number, most significant first; `0` has one digit. -/
def decimal (n : Nat) : Bytes :=
  if n = 0 then [48] else (Nat.digits 10 n).reverse.map fun d => UInt8.ofNat (48 + d)

/-- The number a string of digits denotes. -/
def digitsValue (digits : Bytes) : Nat :=
  digits.foldl (fun value b => 10 * value + (b.toNat - 48)) 0

theorem decimal_ne_nil (n : Nat) : decimal n ≠ [] := by
  rw [decimal]
  split
  · simp
  · rename_i hn
    rw [ne_eq, List.map_eq_nil_iff, List.reverse_eq_nil_iff]
    exact Nat.digits_ne_nil_iff_ne_zero.mpr hn

theorem toNat_digit {d : Nat} (hd : d < 10) : (UInt8.ofNat (48 + d)).toNat = 48 + d := by
  rw [UInt8.toNat_ofNat']
  omega

variable {n : Nat} {b : UInt8}

theorem isDigit_of_mem_decimal (h : b ∈ decimal n) : isDigit b = true := by
  rw [decimal] at h
  split at h
  · rw [List.mem_singleton.mp h]
    decide
  · rw [List.mem_map] at h
    obtain ⟨d, hd, rfl⟩ := h
    have hlt : d < 10 := Nat.digits_lt_base (by omega) (List.mem_reverse.mp hd)
    have hnat := toNat_digit hlt
    rw [isDigit, Bool.and_eq_true, decide_eq_true_eq, decide_eq_true_eq, UInt8.le_iff_toNat_le,
      UInt8.le_iff_toNat_le, hnat]
    exact ⟨Nat.le_add_right 48 d, show 48 + d ≤ 57 by omega⟩

theorem not_mem_decimal (hb : isDigit b = false) : b ∉ decimal n := by
  intro h
  rw [isDigit_of_mem_decimal h] at hb
  cases hb

theorem digitsValue_decimal (n : Nat) : digitsValue (decimal n) = n := by
  rw [decimal]
  split
  · rename_i hn
    rw [hn]
    rfl
  · rw [digitsValue, List.foldl_map, List.foldl_reverse]
    conv_rhs => rw [← Nat.ofDigits_digits 10 n, Nat.ofDigits_eq_foldr]
    -- both folds add the same digit at each place
    have hfold : ∀ ds : List Nat, (∀ d ∈ ds, d < 10) →
        ds.foldr (fun d value => 10 * value + ((UInt8.ofNat (48 + d)).toNat - 48)) 0
          = ds.foldr (fun x y => (x : Nat) + 10 * y) 0 := by
      intro ds hds
      induction ds with
      | nil => rfl
      | cons d ds ih =>
        rw [List.foldr_cons, List.foldr_cons, ih fun x hx => hds x (List.mem_cons_of_mem _ hx),
          toNat_digit (hds d List.mem_cons_self)]
        omega
    exact hfold _ fun d hd => Nat.digits_lt_base (by omega) hd

/-! ## `strtoull` -/

/-- `isspace` in the C locale. -/
def isSpace (b : UInt8) : Bool := b = 32 || (9 ≤ b && b ≤ 13)

/-- `strtoull(s, nullptr, 10)`: white space, a sign, digits up to the first other byte. A number
    too large for 64 bits is `ULLONG_MAX`, and a minus sign negates in 64 bits. -/
def strtoull (s : Bytes) : Nat :=
  let s := s.dropWhile isSpace
  let negative := s.head? = some 45
  let s := if negative ∨ s.head? = some 43 then s.drop 1 else s
  let value := digitsValue (s.takeWhile isDigit)
  if 2 ^ 64 ≤ value then 2 ^ 64 - 1
  else if negative then (2 ^ 64 - value) % 2 ^ 64
  else value

theorem strtoull_decimal (hn : n < 2 ^ 64) : strtoull (decimal n) = n := by
  obtain ⟨b, rest, hcons⟩ := List.exists_cons_of_ne_nil (decimal_ne_nil n)
  have hb : isDigit b = true :=
    isDigit_of_mem_decimal (show b ∈ decimal n by rw [hcons]; exact List.mem_cons_self)
  have hne : ∀ c : UInt8, isDigit c = false → b ≠ c := by
    rintro c hc rfl
    rw [hb] at hc
    cases hc
  have hspace : isSpace b = false := by
    rw [isSpace, Bool.or_eq_false_iff, Bool.and_eq_false_iff, decide_eq_false_iff_not,
      decide_eq_false_iff_not, decide_eq_false_iff_not]
    refine ⟨hne 32 (by decide), Or.inr fun h13 => ?_⟩
    rw [isDigit, Bool.and_eq_true, decide_eq_true_eq] at hb
    exact absurd (UInt8.le_trans hb.1 h13) (by decide)
  have hdrop : (decimal n).dropWhile isSpace = decimal n := by
    rw [hcons, List.dropWhile_cons, hspace]
    rfl
  have hhead : (decimal n).head? = some b := by rw [hcons]; rfl
  have hminus : ¬ (some b = some (45 : UInt8)) := fun h => hne 45 (by decide) (Option.some.inj h)
  have hplus : ¬ (some b = some (43 : UInt8)) := fun h => hne 43 (by decide) (Option.some.inj h)
  have htake : (decimal n).takeWhile isDigit = decimal n :=
    List.takeWhile_eq_self_iff.mpr fun c hc => isDigit_of_mem_decimal hc
  simp only [strtoull, hdrop, hhead, hminus, hplus, or_self, if_false, htake, digitsValue_decimal]
  rw [if_neg (by omega)]

/-! ## The first place of a pattern -/

section Find

variable {α : Type} [DecidableEq α]

/-- `text.find(pattern)`. -/
def find (pattern : List α) : List α → Option Nat
  | [] => if pattern = [] then some 0 else none
  | b :: rest =>
    if pattern.isPrefixOf (b :: rest) then some 0 else (find pattern rest).map (· + 1)

variable {p s a b : List α} {sep : α}

theorem find_of_start (h : p <+: s) : find p s = some 0 := by
  cases s with
  | nil => simp [find, List.prefix_nil.mp h]
  | cons b rest => rw [find, if_pos (List.isPrefixOf_iff_prefix.mpr h)]

theorem find_cons_of_not_start {rest : List α} {b : α} (h : ¬ p <+: b :: rest) :
    find p (b :: rest) = (find p rest).map (· + 1) := by
  rw [find, if_neg fun hp => h (List.isPrefixOf_iff_prefix.mp hp)]

/-- A pattern is found exactly when it occurs. -/
theorem find_eq_none_iff : find p s = none ↔ ¬ p <:+: s := by
  induction s with
  | nil =>
    rw [find, List.infix_nil]
    split <;> simp_all
  | cons b rest ih =>
    by_cases hp : p <+: b :: rest
    · rw [find_of_start hp]
      exact ⟨fun h => (nomatch h), fun h => absurd hp.isInfix h⟩
    · rw [find_cons_of_not_start hp, Option.map_eq_none_iff, ih, List.infix_cons_iff]
      exact ⟨fun h => not_or.mpr ⟨hp, h⟩, fun h => (not_or.mp h).2⟩

/-- What is found is an occurrence. -/
theorem prefix_drop_of_find {i : Nat} (h : find p s = some i) : i ≤ s.length ∧ p <+: s.drop i := by
  induction s generalizing i with
  | nil =>
    rw [find] at h
    split at h
    · rename_i hp
      cases h
      simp [hp]
    · cases h
  | cons b rest ih =>
    by_cases hp : p <+: b :: rest
    · rw [find_of_start hp] at h
      cases h
      exact ⟨Nat.zero_le _, hp⟩
    · rw [find_cons_of_not_start hp, Option.map_eq_some_iff] at h
      obtain ⟨j, hj, rfl⟩ := h
      obtain ⟨hle, hpre⟩ := ih hj
      exact ⟨Nat.succ_le_succ hle, hpre⟩

/-- The first place is found in a text that goes on. -/
theorem find_append_of_occurs (h : p <:+: a) (b : List α) : find p (a ++ b) = find p a := by
  induction a with
  | nil =>
    rw [List.infix_nil] at h
    subst h
    rw [find_of_start List.nil_prefix, find_of_start List.nil_prefix]
  | cons x a ih =>
    by_cases hp : p <+: x :: a
    · rw [find_of_start hp, find_of_start (hp.trans (List.prefix_append _ _))]
    · have ha : p <:+: a := (List.infix_cons_iff.mp h).resolve_left hp
      -- the pattern ends inside `a`, so no longer text makes it a prefix
      have hp' : ¬ p <+: x :: (a ++ b) := by
        intro hpre
        have hlen : p.length ≤ (x :: a).length := Nat.le_succ_of_le ha.length_le
        exact hp (List.prefix_of_prefix_length_le hpre (List.prefix_append (x :: a) b) hlen)
      rw [List.cons_append, find_cons_of_not_start hp', find_cons_of_not_start hp, ih ha]

theorem find_append_le (h : p <:+: a) (b : List α) :
    ∃ i, find p (a ++ b) = some i ∧ i + p.length ≤ a.length := by
  rw [find_append_of_occurs h]
  cases hf : find p a with
  | none => exact absurd h (find_eq_none_iff.mp hf)
  | some i =>
    obtain ⟨hle, hpre⟩ := prefix_drop_of_find hf
    have hlen := hpre.length_le
    rw [List.length_drop] at hlen
    exact ⟨i, rfl, by omega⟩

omit [DecidableEq α] in
/-- A prefix of a text with a separator either ends before it or reaches over it. -/
theorem prefix_append_cons (hsep : sep ∉ p) (h : p <+: a ++ sep :: b) : p <+: a := by
  refine List.prefix_of_prefix_length_le h (List.prefix_append a _) ?_
  by_contra hlen
  have hat := (List.prefix_iff_getElem?.mp h) a.length (by omega)
  rw [List.getElem?_append_right (Nat.le_refl _), Nat.sub_self, List.getElem?_cons_zero] at hat
  apply hsep
  rw [Option.some.inj hat]
  exact List.getElem_mem _

/-- A pattern without the separator is searched on both sides of one. -/
theorem find_separated (hne : p ≠ []) (hsep : sep ∉ p) (ha : ¬ p <:+: a) :
    find p (a ++ sep :: b) = (find p b).map (· + (a.length + 1)) := by
  induction a with
  | nil =>
    have hp : ¬ p <+: sep :: b := fun h => hne (List.prefix_nil.mp (prefix_append_cons hsep h))
    rw [List.nil_append, find_cons_of_not_start hp]
    rfl
  | cons x a ih =>
    rw [List.infix_cons_iff, not_or] at ha
    have hp : ¬ p <+: x :: (a ++ sep :: b) := fun h => ha.1 (prefix_append_cons hsep h)
    rw [List.cons_append, find_cons_of_not_start hp, ih ha.2, Option.map_map]
    rfl

/-- The end of a piece. -/
theorem find_terminator {a b : List α} {sep : α} (ha : sep ∉ a) :
    find [sep] (a ++ sep :: b) = some a.length := by
  induction a with
  | nil => exact find_of_start (List.prefix_append [sep] b)
  | cons x a ih =>
    rw [List.mem_cons, not_or] at ha
    have hp : ¬ [sep] <+: x :: (a ++ sep :: b) := fun h => ha.1 (List.cons_prefix_cons.mp h).1
    rw [List.cons_append, find_cons_of_not_start hp, ih ha.2]
    rfl

theorem infix_append_cons_iff (hne : p ≠ []) (hsep : sep ∉ p) :
    p <:+: a ++ sep :: b ↔ p <:+: a ∨ p <:+: b := by
  constructor
  · intro h
    by_cases ha : p <:+: a
    · exact Or.inl ha
    · refine Or.inr (by_contra fun hb => ?_)
      have hnone : find p (a ++ sep :: b) = none := by
        rw [find_separated hne hsep ha, find_eq_none_iff.mpr hb]
        rfl
      exact find_eq_none_iff.mp hnone h
  · rintro (h | h)
    · exact h.trans (List.prefix_append _ _).isInfix
    · exact h.trans (List.suffix_cons sep b).isInfix |>.trans (List.suffix_append a _).isInfix

end Find

/-! ## Terminated pieces -/

section Terminated

variable {α : Type} {p : List α} {sep : α} {pieces : List (List α)}

/-- Every piece followed by the separator. -/
def terminated (sep : α) (pieces : List (List α)) : List α := pieces.flatMap (· ++ [sep])

@[simp] theorem terminated_nil (sep : α) : terminated sep [] = [] := rfl

@[simp] theorem terminated_cons (sep : α) (piece : List α) (pieces : List (List α)) :
    terminated sep (piece :: pieces) = piece ++ sep :: terminated sep pieces := by
  simp [terminated]

@[simp] theorem terminated_append (sep : α) (xs ys : List (List α)) :
    terminated sep (xs ++ ys) = terminated sep xs ++ terminated sep ys := by
  simp [terminated]

theorem length_le_terminated (sep : α) (pieces : List (List α)) :
    pieces.length ≤ (terminated sep pieces).length := by
  induction pieces with
  | nil => simp
  | cons piece pieces ih =>
    rw [terminated_cons, List.length_append, List.length_cons, List.length_cons]
    omega

variable [DecidableEq α]

/-- A text that ends with the separator is made of pieces, and empty text of none. -/
theorem exists_terminated (sep : α) {s : List α} (h : s = [] ∨ s.getLast? = some sep) :
    ∃ pieces, (∀ piece ∈ pieces, sep ∉ piece) ∧ s = terminated sep pieces := by
  induction s with
  | nil => exact ⟨[], by simp, rfl⟩
  | cons b rest ih =>
    have hrest : rest = [] ∨ rest.getLast? = some sep := by
      rcases rest with _ | ⟨c, rest⟩
      · exact Or.inl rfl
      · exact Or.inr (by simpa using h)
    obtain ⟨pieces, hpieces, heq⟩ := ih hrest
    by_cases hb : b = sep
    · refine ⟨[] :: pieces, ?_, by rw [terminated_cons, hb, heq]; rfl⟩
      intro piece hpiece
      rcases List.mem_cons.mp hpiece with rfl | hpiece
      · simp
      · exact hpieces piece hpiece
    -- `b` joins the first piece, which exists because the text ends with the separator
    · rcases pieces with _ | ⟨first, pieces⟩
      · rw [heq, terminated_nil] at h
        rcases h with h | h
        · cases h
        · exact absurd (Option.some.inj h) hb
      · refine ⟨(b :: first) :: pieces, ?_, by rw [heq, terminated_cons, terminated_cons]; rfl⟩
        intro piece hpiece
        rcases List.mem_cons.mp hpiece with rfl | hpiece
        · rw [List.mem_cons, not_or]
          exact ⟨fun h' => hb h'.symm, hpieces first List.mem_cons_self⟩
        · exact hpieces piece (List.mem_cons_of_mem _ hpiece)

/-- The pieces are determined by the text. -/
theorem terminated_injective (sep : α) {xs ys : List (List α)} (hx : ∀ x ∈ xs, sep ∉ x)
    (hy : ∀ y ∈ ys, sep ∉ y) (h : terminated sep xs = terminated sep ys) : xs = ys := by
  induction xs generalizing ys with
  | nil =>
    rcases ys with _ | ⟨y, ys⟩
    · rfl
    · simp at h
  | cons x xs ih =>
    rcases ys with _ | ⟨y, ys⟩
    · simp at h
    · rw [terminated_cons, terminated_cons] at h
      have hlen : x.length = y.length := by
        have hfx := @find_terminator _ _ x (terminated sep xs) sep (hx x List.mem_cons_self)
        rw [h, find_terminator (hy y List.mem_cons_self)] at hfx
        exact (Option.some.inj hfx).symm
      obtain ⟨hxy, hrest⟩ := List.append_inj h hlen
      have htail := ih (fun z hz => hx z (List.mem_cons_of_mem _ hz))
        (fun z hz => hy z (List.mem_cons_of_mem _ hz)) (List.cons.inj hrest).2
      rw [hxy, htail]

/-- A pattern without the separator occurs in a terminated text when it occurs in a piece. -/
theorem infix_terminated (hne : p ≠ []) (hsep : sep ∉ p) :
    p <:+: terminated sep pieces ↔ ∃ piece ∈ pieces, p <:+: piece := by
  induction pieces with
  | nil => simp [hne]
  | cons piece pieces ih =>
    rw [terminated_cons, infix_append_cons_iff hne hsep, ih, List.exists_mem_cons_iff]

/-- Pieces without the pattern are passed over. -/
theorem find_terminated_append {b : List α} (hne : p ≠ []) (hsep : sep ∉ p)
    (h : ∀ piece ∈ pieces, ¬ p <:+: piece) :
    find p (terminated sep pieces ++ b)
      = (find p b).map (· + (terminated sep pieces).length) := by
  induction pieces with
  | nil => simp
  | cons piece pieces ih =>
    rw [terminated_cons, List.append_assoc, List.cons_append,
      find_separated hne hsep (h piece List.mem_cons_self),
      ih fun q hq => h q (List.mem_cons_of_mem _ hq), Option.map_map]
    congr 1
    funext i
    simp only [Function.comp_apply, List.length_append, List.length_cons]
    omega

end Terminated

end LobReplay.Foundation
