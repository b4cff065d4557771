/-
  A regular file as its bytes. The length is bounded by the greatest file offset the operating
  systems serve (`i64::MAX`), so that every length and every offset inside a file fits the `u64` the
  readers compute with.
-/

import LobReplay.Foundation.Bytes

namespace LobReplay.Foundation

/-- `i64::MAX`, the greatest file length. -/
def maxFileLength : Nat := 2 ^ 63 - 1

/-- The contents of a regular file. -/
structure File where
  bytes : Bytes
  length_le : bytes.length ≤ maxFileLength
  deriving DecidableEq

namespace File

variable {f : File}

@[ext] theorem ext {g : File} (h : f.bytes = g.bytes) : f = g := by
  cases f
  cases g
  simp_all

/-- `metadata.len()`. -/
def len (f : File) : Nat := f.bytes.length

def empty : File := ⟨[], by simp⟩

/-- Seek to `offset` and `read_exact` `n` bytes; `none` when the file ends first. -/
def readExactAt (f : File) (offset n : Nat) : Option (FixedBytes n) :=
  if h : offset + n ≤ f.len then
    some ⟨(f.bytes.drop offset).take n, by
      rw [len] at h
      simp only [List.length_take, List.length_drop]
      omega⟩
  else none

/-- Whether `n` more bytes fit below the greatest file length. -/
def fits (f : File) (n : Nat) : Prop := f.len + n ≤ maxFileLength

instance (f : File) (n : Nat) : Decidable (f.fits n) := inferInstanceAs (Decidable (_ ≤ _))

/-- Seek to the end and `write_all`. The write fails unless all of `data` fits, and
    then what fits has been written. -/
def append (f : File) (data : Bytes) : File := ⟨(f.bytes ++ data).take maxFileLength, by simp⟩

/-- Seek to the start and overwrite the first bytes. -/
def overwriteFront (f : File) (data : Bytes) (h : data.length ≤ f.len) : File :=
  ⟨data ++ f.bytes.drop data.length, by
    have hlen := f.length_le
    rw [len] at h
    simp only [List.length_append, List.length_drop]
    omega⟩

/-- The first `t` bytes, as a crash or a truncation leaves them. -/
def cut (f : File) (t : Nat) : File :=
  ⟨f.bytes.take t, Nat.le_trans (List.length_take_le' t f.bytes) f.length_le⟩

@[simp] theorem cut_bytes (f : File) (t : Nat) : (f.cut t).bytes = f.bytes.take t := rfl

theorem readExactAt_eq_some {offset n : Nat} (h : offset + n ≤ f.len) :
    ∃ b, f.readExactAt offset n = some b ∧ b.bytes = (f.bytes.drop offset).take n := by
  refine ⟨_, dif_pos h, rfl⟩

theorem append_bytes {data : Bytes} (h : f.fits data.length) :
    (f.append data).bytes = f.bytes ++ data := by
  refine List.take_of_length_le ?_
  rw [List.length_append]
  exact h

/-- Even a failed write leaves what was there before it. -/
theorem exists_append_bytes (f : File) (data : Bytes) :
    ∃ written, (f.append data).bytes = f.bytes ++ written := by
  refine ⟨data.take (maxFileLength - f.bytes.length), ?_⟩
  show (f.bytes ++ data).take maxFileLength = _
  rw [List.take_append, List.take_of_length_le f.length_le]

theorem len_le_append_len (f : File) (data : Bytes) : f.len ≤ (f.append data).len := by
  obtain ⟨written, h⟩ := f.exists_append_bytes data
  rw [len, len, h, List.length_append]
  omega

@[simp] theorem overwriteFront_len (f : File) (data : Bytes) (h : data.length ≤ f.len) :
    (f.overwriteFront data h).len = f.len := by
  rw [len] at h
  simp only [len, overwriteFront, List.length_append, List.length_drop]
  omega

end File

end LobReplay.Foundation
