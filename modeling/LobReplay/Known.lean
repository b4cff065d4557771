/-
  serde_json and SHA-256 as they act on a given list of records: the compact text of each record,
  its parse, and its digest as a number. The samples of the journals are written and read with such
  a table.
-/

import LobReplay.Json
import Mathlib.Data.List.Nodup

namespace LobReplay

open Foundation

variable {α : Type}

theorem find?_text_eq {text : α → Bytes} {known : List (α × Nat)}
    (h : (known.map fun k => text k.1).Nodup) {k : α × Nat} (hk : k ∈ known) :
    known.find? (fun other => decide (text other.1 = text k.1)) = some k := by
  have hfind : known.find? (fun other => decide (text other.1 = text k.1)) ≠ none := by
    rw [ne_eq, List.find?_eq_none]
    intro hall
    exact hall k hk (decide_eq_true rfl)
  obtain ⟨found, hfound⟩ := Option.ne_none_iff_exists'.mp hfind
  have htext : text found.1 = text k.1 := by simpa using List.find?_some hfound
  rw [hfound, List.inj_on_of_nodup_map h (List.mem_of_find?_eq_some hfound) hk htext]

def knownToVec [DecidableEq α] (text : α → Bytes) (known : List (α × Nat)) (record : α) :
    Except String Bytes :=
  if record ∈ known.map (·.1) then .ok (text record) else .error "unknown record"

def knownFromSlice (text : α → Bytes) (known : List (α × Nat)) (body : Bytes) : Except String α :=
  match known.find? fun k => decide (text k.1 = body) with
  | some k => .ok k.1
  | none => .error "expected value at line 1 column 1"

def knownDigest (text : α → Bytes) (known : List (α × Nat)) (body : Bytes) : FixedBytes 32 :=
  digestOfNat ((known.map fun k => (text k.1, k.2)).lookup body |>.getD 0)

section

variable [DecidableEq α] {text : α → Bytes} {known : List (α × Nat)} {record : α} {body : Bytes}

theorem knownToVec_eq_ok (h : knownToVec text known record = .ok body) :
    body = text record ∧ ∃ k ∈ known, k.1 = record := by
  unfold knownToVec at h
  split at h
  case isFalse => cases h
  case isTrue hmem =>
    cases h
    exact ⟨rfl, List.mem_map.mp hmem⟩

/-- The parser undoes the serializer. -/
theorem knownFromSlice_of_toVec (hnodup : (known.map fun k => text k.1).Nodup)
    (h : knownToVec text known record = .ok body) : knownFromSlice text known body = .ok record := by
  obtain ⟨rfl, k, hk, rfl⟩ := knownToVec_eq_ok h
  rw [knownFromSlice, find?_text_eq hnodup hk]

theorem knownToVec_ne_nil (hne : ∀ k ∈ known, text k.1 ≠ [])
    (h : knownToVec text known record = .ok body) : body ≠ [] := by
  obtain ⟨rfl, k, hk, rfl⟩ := knownToVec_eq_ok h
  exact hne k hk

end

end LobReplay
