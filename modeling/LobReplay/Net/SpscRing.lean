/-
  The single-producer single-consumer ring of cpp/net/include/net/spsc_ring.hpp under every
  interleaving of its two threads. A move is one load, slot access or store of one thread, with the
  local computation up to the next one; a list of moves is an interleaving.

  `Represents` is the invariant: the indices are the numbers of the values pushed and popped so far
  modulo the number of slots, and each thread holds an index of the other side that may be stale,
  but only in the direction that is safe.
-/

import LobReplay.Foundation.Machine
import Mathlib.Data.Nat.Bitwise
import Mathlib.Data.Nat.ModEq
import Mathlib.Logic.Function.Basic

namespace LobReplay.Net.SpscRing

open Foundation

variable {α : Type}

/-! ## The ring -/

/-- Where the producer stands within `try_push`. -/
inductive Producer (α : Type) where
  | idle
  /-- `head_` is loaded. -/
  | loadedHead (value : α) (head : Nat)
  /-- `tail_` is loaded, and the ring was not full. -/
  | ready (value : α) (tail next : Nat)
  /-- The slot is written. -/
  | wrote (value : α) (next : Nat)
  deriving DecidableEq

/-- Where the consumer stands within `try_pop`. -/
inductive Consumer (α : Type) where
  | idle
  /-- `tail_` is loaded. -/
  | loadedTail (tail : Nat)
  /-- `head_` is loaded, and the ring was not empty. -/
  | ready (head : Nat)
  /-- The slot is read. -/
  | copied (head : Nat) (out : α)
  deriving DecidableEq

/-- The ring and its two threads. -/
structure System (α : Type) where
  slots : Nat
  ring : Nat → α
  head : Nat
  tail : Nat
  producer : Producer α
  consumer : Consumer α

/-- The loop of the constructor, `while (cap < capacity + 1) cap <<= 1`, on a budget. -/
def roundUp (capacity : Nat) : Nat → Nat → Nat
  | 0, cap => cap
  | budget + 1, cap =>
    if cap < capacity + 1 then roundUp capacity budget ((cap <<< 1) % 2 ^ 64) else cap

/-- The constructor; `fill` are the values the slots are made with. -/
def System.new (capacity : Nat) (fill : Nat → α) : System α where
  slots := roundUp capacity 64 1
  ring := fill
  head := 0
  tail := 0
  producer := .idle
  consumer := .idle

/-- `capacity()`. -/
def System.capacity (s : System α) : Nat := s.slots - 1

/-- One step of a thread. A producer that is idle begins `try_push` with the value. -/
inductive Move (α : Type) where
  | produce (value : α)
  | consume
  deriving DecidableEq

/-- What a move returns, when it ends a call. -/
inductive Reply (α : Type) where
  | none
  | pushed (value : α) (done : Bool)
  | popped (out : Option α)
  deriving DecidableEq

/-- `try_push`, move by move. -/
def System.produce (s : System α) (value : α) : Reply α × System α :=
  match s.producer with
  | .idle => (.none, { s with producer := .loadedHead value s.head })
  | .loadedHead value head =>
    let tail := s.tail
    let next := (tail + 1) &&& (s.slots - 1)
    if next = head then (.pushed value false, { s with producer := .idle })
    else (.none, { s with producer := .ready value tail next })
  | .ready value tail next =>
    (.none, { s with ring := Function.update s.ring tail value, producer := .wrote value next })
  | .wrote value next => (.pushed value true, { s with tail := next, producer := .idle })

/-- `try_pop`, move by move. -/
def System.consume (s : System α) : Reply α × System α :=
  match s.consumer with
  | .idle => (.none, { s with consumer := .loadedTail s.tail })
  | .loadedTail tail =>
    let head := s.head
    if head = tail then (.popped none, { s with consumer := .idle })
    else (.none, { s with consumer := .ready head })
  | .ready head => (.none, { s with consumer := .copied head (s.ring head) })
  | .copied head out =>
    (.popped (some out), { s with head := (head + 1) &&& (s.slots - 1), consumer := .idle })

def System.step (s : System α) : Move α → Reply α × System α
  | .produce value => s.produce value
  | .consume => s.consume

/-! ## Histories -/

/-- The values whose push returned true. -/
def pushedOf (replies : List (Reply α)) : List α :=
  replies.filterMap fun
    | .pushed value true => some value
    | _ => none

def poppedOf (replies : List (Reply α)) : List α :=
  replies.filterMap fun
    | .popped out => out
    | _ => none

/-- The number of values stored after a history. -/
def storedOf (replies : List (Reply α)) : Nat :=
  (pushedOf replies).length - (poppedOf replies).length

/-! ## The invariant -/

def ProducerOk (pushed popped : List α) (s : System α) : Prop :=
  match s.producer with
  | .idle => True
  | .loadedHead _ head => ∃ taken ≤ popped.length, head = taken % s.slots ∧
      pushed.length + 1 ≤ taken + s.slots
  | .ready _ tail next => tail = pushed.length % s.slots ∧ next = (pushed.length + 1) % s.slots ∧
      pushed.length + 2 ≤ popped.length + s.slots
  | .wrote value next => next = (pushed.length + 1) % s.slots ∧
      pushed.length + 2 ≤ popped.length + s.slots ∧ s.ring (pushed.length % s.slots) = value

def ConsumerOk (pushed popped : List α) (s : System α) : Prop :=
  match s.consumer with
  | .idle => True
  | .loadedTail tail => ∃ given ≤ pushed.length, tail = given % s.slots ∧ popped.length ≤ given
  | .ready head => head = popped.length % s.slots ∧ popped.length < pushed.length
  | .copied head out => head = popped.length % s.slots ∧ pushed[popped.length]? = some out

/-- The ring holds the values that were pushed and not popped yet. -/
structure Represents (pushed popped : List α) (s : System α) : Prop where
  power : ∃ k, s.slots = 2 ^ k
  taken : popped <+: pushed
  tail_eq : s.tail = pushed.length % s.slots
  head_eq : s.head = popped.length % s.slots
  room : pushed.length + 1 ≤ popped.length + s.slots
  contents : ∀ i, popped.length ≤ i → ∀ value, pushed[i]? = some value →
    s.ring (i % s.slots) = value
  producer : ProducerOk pushed popped s
  consumer : ConsumerOk pushed popped s

section

variable {pushed popped : List α} {s : System α}

section

variable (h : Represents pushed popped s)
include h

/-- A move that only changes what the producer knows. -/
theorem Represents.producing {producer : Producer α}
    (hok : ProducerOk pushed popped { s with producer }) :
    Represents (pushed ++ []) (popped ++ []) { s with producer } := by
  rw [List.append_nil, List.append_nil]
  exact ⟨h.power, h.taken, h.tail_eq, h.head_eq, h.room, h.contents, hok, h.consumer⟩

theorem Represents.consuming {consumer : Consumer α}
    (hok : ConsumerOk pushed popped { s with consumer }) :
    Represents (pushed ++ []) (popped ++ []) { s with consumer } := by
  rw [List.append_nil, List.append_nil]
  exact ⟨h.power, h.taken, h.tail_eq, h.head_eq, h.room, h.contents, h.producer, hok⟩

theorem Represents.length_le : popped.length ≤ pushed.length :=
  h.taken.length_le

theorem Represents.and_mask (n : Nat) :
    (n % s.slots + 1) &&& (s.slots - 1) = (n + 1) % s.slots := by
  obtain ⟨k, hk⟩ := h.power
  rw [hk, Nat.and_two_pow_sub_one_eq_mod, Nat.add_mod, Nat.mod_mod, ← Nat.add_mod]

end

/-- Two numbers less than a round apart share a slot only when they are equal. -/
theorem eq_of_mod_eq {a b n : Nat} (hle : a ≤ b) (hlt : b < a + n) (h : a % n = b % n) : a = b := by
  have hdvd : n ∣ b - a := (Nat.modEq_iff_dvd' hle).mp h
  have hzero : b - a = 0 := Nat.eq_zero_of_dvd_of_lt hdvd (by omega)
  omega

/-! ## The producer -/

section

variable (h : Represents pushed popped s)
include h

/-- The full test: the producer sees the ring full when the head it has loaded is a round
    behind. -/
theorem Represents.next_eq_iff {taken : Nat} (hle : taken ≤ popped.length)
    (hroom : pushed.length + 1 ≤ taken + s.slots) :
    (s.tail + 1) &&& (s.slots - 1) = taken % s.slots ↔ pushed.length + 1 = taken + s.slots := by
  have hlength := h.length_le
  rw [h.tail_eq, h.and_mask]
  constructor
  · intro heq
    by_contra hne
    have := eq_of_mod_eq (a := taken) (b := pushed.length + 1) (by omega) (by omega) heq.symm
    omega
  · intro heq
    rw [heq, Nat.add_mod_right]

/-- **Step.** A move of the producer. -/
theorem Represents.produce (value : α) :
    Represents (pushed ++ pushedOf [(s.produce value).1]) (popped ++ poppedOf [(s.produce value).1])
      (s.produce value).2 := by
  have hok := h.producer
  have hlength := h.length_le
  unfold System.produce
  unfold ProducerOk at hok
  cases hproducer : s.producer with
  | idle =>
    exact h.producing ⟨popped.length, Nat.le_refl _, h.head_eq, h.room⟩
  | loadedHead value head =>
    rw [hproducer] at hok
    obtain ⟨taken, hle, rfl, hroom⟩ := hok
    dsimp only
    split
    · exact h.producing trivial
    · rename_i hnext
      rw [h.next_eq_iff hle hroom] at hnext
      refine h.producing ⟨h.tail_eq, ?_, by dsimp only; omega⟩
      dsimp only
      rw [h.tail_eq, h.and_mask]
  | ready value tail next =>
    rw [hproducer] at hok
    obtain ⟨rfl, hnext, hroom⟩ := hok
    dsimp only
    show Represents (pushed ++ []) (popped ++ []) _
    rw [List.append_nil, List.append_nil]
    refine ⟨h.power, h.taken, h.tail_eq, h.head_eq, h.room, ?_, ?_, h.consumer⟩
    · -- the slot that is written holds none of the stored values
      intro i hi v hv
      have hlt : i < pushed.length := (List.getElem?_eq_some_iff.mp hv).1
      dsimp only
      rw [Function.update_of_ne]
      · exact h.contents i hi v hv
      · intro heq
        have := eq_of_mod_eq (a := i) (b := pushed.length) (by omega) (by omega) heq
        omega
    · exact ⟨hnext, hroom, Function.update_self ..⟩
  | wrote value next =>
    rw [hproducer] at hok
    obtain ⟨rfl, hroom, hslot⟩ := hok
    dsimp only
    show Represents (pushed ++ [value]) (popped ++ []) _
    rw [List.append_nil]
    have hone : (pushed ++ [value]).length = pushed.length + 1 := by simp
    refine ⟨h.power, h.taken.trans (List.prefix_append _ _), ?_, h.head_eq, ?_, ?_, trivial, ?_⟩
    · rw [hone]
    · rw [hone]
      dsimp only
      omega
    · intro i hi v hv
      rcases Nat.lt_or_ge i pushed.length with hlt | hge
      · rw [List.getElem?_append_left hlt] at hv
        exact h.contents i hi v hv
      · have hlast : i < pushed.length + 1 := hone ▸ (List.getElem?_eq_some_iff.mp hv).1
        obtain rfl : i = pushed.length := by omega
        rw [List.getElem?_concat_length] at hv
        cases hv
        exact hslot
    · -- the consumer's tail is stale from now on, and what it copied stays
      have hconsumer := h.consumer
      unfold ConsumerOk at hconsumer ⊢
      dsimp only
      cases hc : s.consumer with
      | idle => trivial
      | loadedTail tail =>
        rw [hc] at hconsumer
        obtain ⟨given, hgiven, htail, hpop⟩ := hconsumer
        exact ⟨given, by rw [hone]; omega, htail, hpop⟩
      | ready head =>
        rw [hc] at hconsumer
        exact ⟨hconsumer.1, by rw [hone]; have := hconsumer.2; omega⟩
      | copied head out =>
        rw [hc] at hconsumer
        refine ⟨hconsumer.1, ?_⟩
        rw [List.getElem?_append_left (List.getElem?_eq_some_iff.mp hconsumer.2).1]
        exact hconsumer.2

/-! ## The consumer -/

/-- The empty test: the consumer sees the ring empty when nothing was pushed beyond what is
    popped. -/
theorem Represents.head_eq_iff {given : Nat} (hle : given ≤ pushed.length)
    (hpopped : popped.length ≤ given) : s.head = given % s.slots ↔ given = popped.length := by
  have hroom := h.room
  rw [h.head_eq]
  constructor
  · intro heq
    exact (eq_of_mod_eq hpopped (by omega) heq).symm
  · rintro rfl
    rfl

/-- **Step.** A move of the consumer. -/
theorem Represents.consume :
    Represents (pushed ++ pushedOf [s.consume.1]) (popped ++ poppedOf [s.consume.1])
      s.consume.2 := by
  have hok := h.consumer
  have hlength := h.length_le
  unfold System.consume
  unfold ConsumerOk at hok
  cases hconsumer : s.consumer with
  | idle =>
    exact h.consuming ⟨pushed.length, Nat.le_refl _, h.tail_eq, hlength⟩
  | loadedTail tail =>
    rw [hconsumer] at hok
    obtain ⟨given, hle, rfl, hpopped⟩ := hok
    dsimp only
    split
    · exact h.consuming trivial
    · rename_i hhead
      rw [h.head_eq_iff hle hpopped] at hhead
      exact h.consuming ⟨h.head_eq, by omega⟩
  | ready head =>
    rw [hconsumer] at hok
    obtain ⟨rfl, hlt⟩ := hok
    have hget : pushed[popped.length]? = some pushed[popped.length] := List.getElem?_eq_getElem hlt
    refine h.consuming ⟨rfl, ?_⟩
    rw [h.contents _ (Nat.le_refl _) _ hget, hget]
  | copied head out =>
    rw [hconsumer] at hok
    obtain ⟨rfl, hget⟩ := hok
    have hlt : popped.length < pushed.length := (List.getElem?_eq_some_iff.mp hget).1
    show Represents (pushed ++ []) (popped ++ [out]) _
    rw [List.append_nil]
    have hone : (popped ++ [out]).length = popped.length + 1 := by simp
    have hroom := h.room
    refine ⟨h.power, ?_, h.tail_eq, ?_, ?_, ?_, ?_, trivial⟩
    · -- the next value of those that were pushed
      rw [List.prefix_iff_eq_take, hone, List.take_add_one, hget,
        ← List.prefix_iff_eq_take.mp h.taken]
      rfl
    · dsimp only
      rw [h.and_mask, hone]
    · rw [hone]
      dsimp only
      omega
    · intro i hi value hvalue
      exact h.contents i (by omega) value hvalue
    · -- the producer's head is stale from now on
      have hproducer := h.producer
      unfold ProducerOk at hproducer ⊢
      dsimp only
      cases hp : s.producer with
      | idle => trivial
      | loadedHead value head =>
        rw [hp] at hproducer
        obtain ⟨taken, hle, hhead, hback⟩ := hproducer
        exact ⟨taken, by omega, hhead, hback⟩
      | ready value tail next =>
        rw [hp] at hproducer
        obtain ⟨htail, hnext, hfree⟩ := hproducer
        exact ⟨htail, hnext, by omega⟩
      | wrote value next =>
        rw [hp] at hproducer
        obtain ⟨hnext, hfree, hslot⟩ := hproducer
        exact ⟨hnext, by omega, hslot⟩

theorem Represents.step (move : Move α) :
    Represents (pushed ++ pushedOf [(s.step move).1]) (popped ++ poppedOf [(s.step move).1])
      (s.step move).2 := by
  cases move with
  | produce value => exact h.produce value
  | consume => exact h.consume

end

end

/-! ## Runs -/

/-- The constructor makes a power of two of slots, more than the capacity asked for. -/
theorem roundUp_spec {capacity : Nat} (hmax : capacity ≤ 2 ^ 62) (budget j : Nat) (hj : j ≤ 63)
    (hbudget : 64 ≤ j + budget) :
    ∃ k ≤ 63, roundUp capacity budget (2 ^ j) = 2 ^ k ∧ capacity + 1 ≤ 2 ^ k := by
  induction budget generalizing j with
  | zero => omega
  | succ budget ih =>
    rw [roundUp]
    split
    · rename_i hsmall
      -- the capacity is reached at the latest with 2^63
      have hlt : j < 63 := by
        by_contra hlast
        obtain rfl : j = 63 := by omega
        omega
      have hpow : (2 ^ j <<< 1) % 2 ^ 64 = 2 ^ (j + 1) := by
        rw [Nat.shiftLeft_eq, ← Nat.pow_succ, Nat.mod_eq_of_lt]
        exact Nat.pow_lt_pow_right (by decide) (by omega)
      rw [hpow]
      exact ih (j + 1) (by omega) (by omega)
    · rename_i hlarge
      exact ⟨j, hj, rfl, by omega⟩

theorem represents_new {capacity : Nat} (hmax : capacity ≤ 2 ^ 62) (fill : Nat → α) :
    Represents [] [] (System.new capacity fill) ∧
      capacity ≤ (System.new capacity fill).capacity := by
  obtain ⟨k, -, hslots, hle⟩ := roundUp_spec hmax 64 0 (by omega) (by omega)
  have hslots : (System.new capacity fill).slots = 2 ^ k := hslots
  have hpos : 0 < 2 ^ k := Nat.two_pow_pos k
  refine ⟨⟨⟨k, hslots⟩, List.prefix_refl _, ?_, ?_, ?_, ?_, trivial, trivial⟩, ?_⟩
  · rw [hslots]
    exact (Nat.zero_mod _).symm
  · rw [hslots]
    exact (Nat.zero_mod _).symm
  · rw [hslots]
    show 0 + 1 ≤ 0 + 2 ^ k
    omega
  · intro i _ value hvalue
    cases hvalue
  · rw [System.capacity, hslots]
    omega

theorem pushedOf_concat (replies : List (Reply α)) (reply : Reply α) :
    pushedOf (replies ++ [reply]) = pushedOf replies ++ pushedOf [reply] :=
  List.filterMap_append

theorem poppedOf_concat (replies : List (Reply α)) (reply : Reply α) :
    poppedOf (replies ++ [reply]) = poppedOf replies ++ poppedOf [reply] :=
  List.filterMap_append

/-- **Run.** The ring represents the values pushed and popped in any interleaving. -/
theorem represents_run {capacity : Nat} (hmax : capacity ≤ 2 ^ 62) (fill : Nat → α)
    (moves : List (Move α)) :
    Represents (pushedOf (run System.step (System.new capacity fill) moves).1)
      (poppedOf (run System.step (System.new capacity fill) moves).1)
      (run System.step (System.new capacity fill) moves).2 := by
  refine run_induction (P := fun _ replies s => Represents (pushedOf replies) (poppedOf replies) s)
    (represents_new hmax fill).1 ?_ moves
  intro _ replies s move h
  rw [pushedOf_concat, poppedOf_concat]
  exact h.step move

/-! ## Calls that fail -/

theorem consume_frame (s : System α) :
    s.consume.2.producer = s.producer ∧ s.consume.2.tail = s.tail ∧ s.consume.2.slots = s.slots := by
  unfold System.consume
  split
  · exact ⟨rfl, rfl, rfl⟩
  · dsimp only
    split
    · exact ⟨rfl, rfl, rfl⟩
    · exact ⟨rfl, rfl, rfl⟩
  · exact ⟨rfl, rfl, rfl⟩
  · exact ⟨rfl, rfl, rfl⟩

theorem produce_frame (s : System α) (value : α) :
    (s.produce value).2.consumer = s.consumer ∧ (s.produce value).2.head = s.head ∧
      (s.produce value).2.slots = s.slots := by
  unfold System.produce
  split
  · exact ⟨rfl, rfl, rfl⟩
  · dsimp only
    split
    · exact ⟨rfl, rfl, rfl⟩
    · exact ⟨rfl, rfl, rfl⟩
  · exact ⟨rfl, rfl, rfl⟩
  · exact ⟨rfl, rfl, rfl⟩

variable {moves : List (Move α)}

theorem run_consume_frame (h : ∀ move ∈ moves, move = .consume) (s : System α) :
    (run System.step s moves).2.producer = s.producer ∧
      (run System.step s moves).2.tail = s.tail ∧ (run System.step s moves).2.slots = s.slots := by
  induction moves generalizing s with
  | nil => exact ⟨rfl, rfl, rfl⟩
  | cons move moves ih =>
    obtain rfl := h move List.mem_cons_self
    obtain ⟨hproducer, htail, hslots⟩ := ih (fun m hm => h m (List.mem_cons_of_mem _ hm)) s.consume.2
    obtain ⟨hproducer', htail', hslots'⟩ := consume_frame s
    exact ⟨hproducer.trans hproducer', htail.trans htail', hslots.trans hslots'⟩

theorem run_produce_frame (h : ∀ move ∈ moves, move ≠ .consume) (s : System α) :
    (run System.step s moves).2.consumer = s.consumer ∧
      (run System.step s moves).2.head = s.head := by
  induction moves generalizing s with
  | nil => exact ⟨rfl, rfl⟩
  | cons move moves ih =>
    cases move with
    | consume => exact absurd rfl (h _ List.mem_cons_self)
    | produce value =>
      obtain ⟨hconsumer, hhead⟩ :=
        ih (fun m hm => h m (List.mem_cons_of_mem _ hm)) (s.produce value).2
      obtain ⟨hconsumer', hhead', -⟩ := produce_frame s value
      exact ⟨hconsumer.trans hconsumer', hhead.trans hhead'⟩

theorem step_slots (s : System α) (move : Move α) : (s.step move).2.slots = s.slots := by
  cases move with
  | consume => exact (consume_frame s).2.2
  | produce value => exact (produce_frame s value).2.2

section

variable {pushed popped : List α} {s : System α} {between : List (Move α)}

/-- A push that fails has found the ring full when it loaded `head_`. -/
theorem Represents.full_of_refused (h : Represents pushed popped s) (hidle : s.producer = .idle)
    {value other refused : α} (hbetween : ∀ move ∈ between, move = .consume)
    (hrefused : ((run System.step (s.step (.produce value)).2 between).2.step
      (.produce other)).1 = .pushed refused false) :
    pushed.length = popped.length + s.capacity := by
  obtain ⟨hproducer, htail, hslots⟩ := run_consume_frame hbetween (s.step (.produce value)).2
  have hloaded : (s.step (.produce value)).2 = { s with producer := .loadedHead value s.head } := by
    unfold System.step System.produce
    rw [hidle]
  rw [hloaded] at hproducer htail hslots hrefused
  dsimp only at hproducer htail hslots
  generalize (run System.step _ between).2 = later at hproducer htail hslots hrefused
  change (later.produce other).1 = _ at hrefused
  unfold System.produce at hrefused
  rw [hproducer] at hrefused
  dsimp only at hrefused
  rw [htail, hslots, h.head_eq] at hrefused
  have hlength := h.length_le
  split at hrefused
  · rename_i hnext
    have hfull := (h.next_eq_iff (Nat.le_refl _) h.room).mp hnext
    unfold System.capacity
    omega
  · cases hrefused

/-- A pop that fails has found the ring empty when it loaded `tail_`. -/
theorem Represents.empty_of_refused (h : Represents pushed popped s) (hidle : s.consumer = .idle)
    (hbetween : ∀ move ∈ between, move ≠ .consume)
    (hrefused : ((run System.step (s.step .consume).2 between).2.step .consume).1 = .popped none) :
    popped = pushed := by
  obtain ⟨hconsumer, hhead⟩ := run_produce_frame hbetween (s.step .consume).2
  have hloaded : (s.step .consume).2 = { s with consumer := .loadedTail s.tail } := by
    unfold System.step System.consume
    rw [hidle]
  rw [hloaded] at hconsumer hhead hrefused
  dsimp only at hconsumer hhead
  generalize (run System.step _ between).2 = later at hconsumer hhead hrefused
  change later.consume.1 = _ at hrefused
  unfold System.consume at hrefused
  rw [hconsumer] at hrefused
  dsimp only at hrefused
  rw [hhead, h.tail_eq] at hrefused
  split at hrefused
  · rename_i hsame
    have hempty := (h.head_eq_iff (Nat.le_refl _) h.length_le).mp hsame
    exact h.taken.eq_of_length hempty.symm
  · cases hrefused

end

/-- **The ring is a bounded FIFO under every interleaving**; a push fails only when the ring was
    full at its load of `head_`, and a pop only when it was empty at its load of `tail_`. -/
theorem ring_is_bounded_fifo (capacity : Nat) (hmax : capacity ≤ 2 ^ 62) (fill : Nat → α)
    (moves : List (Move α)) :
    let s₀ := System.new capacity fill
    let replies := (run System.step s₀ moves).1
    let s := (run System.step s₀ moves).2
    capacity ≤ s₀.capacity ∧
    poppedOf replies <+: pushedOf replies ∧
    storedOf replies ≤ s₀.capacity ∧
    (∀ value other refused between, s.producer = .idle → (∀ move ∈ between, move = .consume) →
      ((run System.step (s.step (.produce value)).2 between).2.step (.produce other)).1
        = .pushed refused false →
      storedOf replies = s₀.capacity) ∧
    (∀ between, s.consumer = .idle → (∀ move ∈ between, move ≠ .consume) →
      ((run System.step (s.step .consume).2 between).2.step .consume).1 = .popped none →
      storedOf replies = 0) := by
  dsimp only
  have hrun := represents_run hmax fill moves
  have hslots : (run System.step (System.new capacity fill) moves).2.capacity
      = (System.new capacity fill).capacity := by
    refine run_induction (P := fun _ _ (s : System α) =>
      s.capacity = (System.new capacity fill).capacity) rfl ?_ moves
    intro _ _ s move hsame
    rw [← hsame]
    exact congrArg (· - 1) (step_slots s move)
  have hlength := hrun.length_le
  have hroom := hrun.room
  refine ⟨(represents_new hmax fill).2, hrun.taken, ?_, ?_, ?_⟩
  · rw [← hslots]
    unfold storedOf System.capacity
    omega
  · intro value other refused between hidle hbetween hrefused
    have hfull := hrun.full_of_refused hidle hbetween hrefused
    rw [← hslots]
    unfold storedOf
    omega
  · intro between hidle hbetween hrefused
    have hempty := hrun.empty_of_refused hidle hbetween hrefused
    unfold storedOf
    rw [hempty, Nat.sub_self]

/-- A ring of one slot: the second push finds it full, while the pop is under way. -/
def sampleMoves : List (Move Nat) :=
  [.produce 1, .produce 1, .produce 1, .produce 1, .consume, .consume, .consume]

theorem sample_ring_is_full :
    (System.new 1 (fun _ => 0)).capacity = 1 ∧
    storedOf (run System.step (System.new 1 fun _ => 0) sampleMoves).1 = 1 := by
  obtain ⟨-, -, -, hfull, -⟩ := ring_is_bounded_fifo 1 (by decide) (fun _ => 0) sampleMoves
  refine ⟨by decide, ?_⟩
  have hstored := hfull 2 2 2 [.consume] (by decide) (by decide) (by decide)
  rw [hstored]
  decide

end LobReplay.Net.SpscRing
