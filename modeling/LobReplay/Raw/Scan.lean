/-
  What a scan reports. A scan of a file that begins with the magic reads as many records as there
  are and stops in front of what is no record; it reports their number, where they end and the
  digest of the last one (`scanRawLogFrom_of_reads`).

  A scan of a whole log never aborts: the frame indices it counts are bounded by the length of the
  file (`exists_scan`).
-/

import LobReplay.Raw.Log

namespace LobReplay.Raw

open Foundation Std RawLogWriter

def scanLog (codec : RawCodec) (path : String) (file : File) :
    Option RawSegmentGenesisV1 → Result RawLogScanV1
  | none => scanRawLog codec path file
  | some genesis => scanRawSegment codec path file genesis

/-- The scan found `items` and the chain state `chain` behind them, and nothing else iff it is
    clean. -/
structure Reports (scan : RawLogScanV1) (items : List (ReadRecord × Nat)) (chain : ChainState)
    (rest : Bytes) : Prop where
  records_eq : scan.records = items.length
  offset_eq : scan.lastGoodOffset = magic.length + span items
  digest_eq : scan.lastRecordSha256 = chain.previous
  clean_iff : scan.cleanEof = true ↔ rest = []

theorem readMagic_append (log : Bytes) : readMagic (magic ++ log) = .ok log := by
  unfold readMagic
  rw [if_neg (by simp), List.take_left' magic_length, if_neg (by simp), List.drop_left' magic_length]

theorem readMagic_eq_ok {reader log : Bytes} (h : readMagic reader = .ok log) :
    reader = magic ++ log := by
  obtain ⟨-, h⟩ := ite_err_eq_ok.mp h
  obtain ⟨htake, h⟩ := ite_err_eq_ok.mp h
  rw [← Except.ok.inj h, ← not_not.mp htake, List.take_append_drop]

section

variable {codec : RawCodec} {lockedIdentity : Option Identity} {chain chain' : ChainState}
  {log rest : Bytes} {items : List (ReadRecord × Nat)} {file : File}

/-- The loop of a scan reads the items of a file and has budget left for the end. -/
theorem scanLoop_log (hbytes : file.bytes = magic ++ log)
    (h : Reads (rawReader codec lockedIdentity) chain log items chain' rest) :
    scanLoop codec lockedIdentity (log.length + 1) log
        ⟨chain.previous, 0, magic.length, chain.expected, none⟩
      = scanLoop codec lockedIdentity (log.length - items.length + 1) rest
          ⟨chain'.previous, 0 + items.length, magic.length + span items, chain'.expected, none⟩ := by
  have hspan := h.rest_eq.1
  have hcount := h.length_le_span
  have hlength := file.length_le
  rw [hbytes, List.length_append, magic_length] at hlength
  have hu64 : maxFileLength < u64Max := by decide
  have hbudget : log.length + 1 = items.length + (log.length - items.length + 1) := by omega
  rw [hbudget]
  exact scanLoop_of_reads (log.length - items.length + 1) h 0 magic.length none (by omega)
    (by rw [magic_length]; omega)

/-- **The report of a scan** that reads `items` and stops in front of `rest`. -/
theorem scanRawLogFrom_of_reads (path : String) (hbytes : file.bytes = magic ++ log)
    (h : Reads (rawReader codec lockedIdentity) chain log items chain' rest)
    (hend : rest = [] ∨
      ∃ message state, nextRecord codec lockedIdentity chain' rest = .fail (.err message) state) :
    ∃ scan, scanRawLogFrom codec path file chain.previous chain.expected lockedIdentity = .ok scan ∧
      Reports scan items chain' rest := by
  have hloop := scanLoop_log hbytes h
  unfold scanRawLogFrom
  simp only [hbytes, readMagic_append, hloop]
  rcases hend with rfl | ⟨message, state, hfail⟩
  · rw [scanLoop_nil]
    exact ⟨_, rfl, ⟨Nat.zero_add _, rfl, rfl, iff_of_true rfl rfl⟩⟩
  · rw [scanLoop_fail hfail]
    refine ⟨_, rfl, ⟨Nat.zero_add _, rfl, rfl, iff_of_false Bool.false_ne_true ?_⟩⟩
    rintro rfl
    cases hfail

/-! ## No abort -/

def Returns {α : Type} (x : Result α) : Prop := x ≠ .error .abort

theorem returns_ok {α : Type} (a : α) : Returns (.ok a) := by
  intro h
  cases h

theorem returns_err {α : Type} (message : String) : Returns (err message : Result α) := by
  intro h
  cases h

theorem returns_okOr {α : Type} (o : Option α) (message : String) : Returns (okOr o message) := by
  cases o
  · exact returns_err message
  · exact returns_ok _

theorem returns_bind {α β : Type} {x : Result α} {f : α → Result β} (hx : Returns x)
    (hf : ∀ a, Returns (f a)) : Returns (x >>= f) := by
  rcases x with e | a
  · intro h
    exact hx (congrArg Except.error (Except.error.inj h))
  · exact hf a

theorem returns_ite {α : Type} {c : Prop} [Decidable c] {x y : Result α} (hx : Returns x)
    (hy : Returns y) : Returns (if c then x else y) := by
  split
  · exact hx
  · exact hy

theorem returns_readFramed (reader : Bytes) : Returns (readFramed reader) := by
  unfold readFramed
  refine returns_ite (returns_ok _) (returns_ite (returns_err _) (returns_ite (returns_err _)
    (returns_ite (returns_err _) ?_)))
  split
  · exact returns_err _
  · exact returns_ok _

theorem returns_verifyBody (previous : String) (body : Bytes) (digest : FixedBytes 32) :
    Returns (verifyBody codec previous body digest) := by
  unfold verifyBody
  refine returns_ite (returns_err _) ?_
  split
  · exact returns_err _
  refine returns_bind (returns_okOr _ _) fun _ => returns_ite (returns_err _) ?_
  refine returns_bind (returns_okOr _ _) fun _ => returns_ite (returns_err _) ?_
  refine returns_bind (returns_okOr _ _) fun _ => returns_ite (returns_err _) ?_
  refine returns_bind (returns_okOr _ _) fun _ => ?_
  split
  · exact returns_err _
  refine returns_bind (returns_okOr _ _) fun _ => returns_ite (returns_err _) ?_
  refine returns_bind (returns_okOr _ _) fun _ => returns_ite (returns_err _) ?_
  exact returns_bind (returns_okOr _ _) fun _ => returns_bind (returns_okOr _ _) fun _ =>
    returns_bind (returns_okOr _ _) fun _ => returns_ok _

theorem returns_frame (record : VerifiedBody) : Returns record.frame := by
  unfold VerifiedBody.frame requiredStr requiredU64
  iterate 10 refine returns_bind (returns_okOr _ _) fun _ => ?_
  exact returns_ok _

/-- A read aborts only on a frame index that cannot be counted any further. -/
theorem nextRecord_abort {state : ChainState}
    (h : nextRecord codec lockedIdentity chain log = .fail .abort state) :
    ∃ key, chain.expected.next key = maxU64 := by
  unfold nextRecord readNextRawRecord at h
  rcases hframed : readFramed log with e | _ | ⟨body, digest, rest⟩
  · simp only [hframed] at h
    cases h
    exact absurd hframed (returns_readFramed log)
  · simp [hframed] at h
  rcases hverify : verifyBody codec chain.previous body digest with e | verified
  · simp only [hframed, hverify] at h
    cases h
    exact absurd hverify (returns_verifyBody _ _ _)
  refine ⟨verified.identity, ?_⟩
  by_contra hmax
  simp only [hframed, hverify, countRecord] at h
  by_cases hindex : verified.frameIndex = chain.expected.next verified.identity
  · rw [if_neg (not_not.mpr hindex), if_neg hmax] at h
    rcases hframe : verified.frame with e | frame
    · simp only [hframe, Except.map] at h
      cases h
      exact absurd hframe (returns_frame verified)
    · simp only [hframe, Except.map] at h
      split at h <;> cases h
  · rw [if_pos hindex] at h
    simp [err, Except.map] at h

/-! ## Frame indices are bounded -/

theorem next_insert (expected : Expected) (key key' : Identity) (next : UInt64) :
    Expected.next (expected.insert key next) key'
      = if key = key' then next else expected.next key' := by
  unfold Expected.next
  rw [ExtTreeMap.getElem?_insert]
  by_cases h : key = key'
  · subst h
    simp
  · rw [if_neg h, if_neg (fun hcmp => h (LawfulEqCmp.eq_of_compare hcmp))]

/-- **Run.** Reading counts each identity at most once a record. -/
theorem reads_next_le (h : Reads (rawReader codec lockedIdentity) chain log items chain' rest)
    (key : Identity) :
    (chain'.expected.next key).toNat ≤ (chain.expected.next key).toNat + items.length := by
  induction h with
  | nil => simp
  | @cons chain middle chain' log rest record used items head tail ih =>
    obtain ⟨body, digest, _, -, -, -, -, -, verified, -, hcount⟩ := nextRecord_eq_item.mp head
    obtain ⟨-, hmax, hexpected, -⟩ := countRecord_eq_ok.mp hcount
    have hstep : (middle.expected.next key).toNat ≤ (chain.expected.next key).toNat + 1 := by
      rw [hexpected, next_insert]
      split
      · next heq =>
        subst heq
        rw [UInt64.toNat_add]
        exact Nat.mod_le _ _
      · exact Nat.le_succ _
    rw [List.length_cons]
    omega

/-- **Every file that begins with the magic is scanned to an end**, and what the scan stops in
    front of is no record. -/
theorem exists_scan (codec : RawCodec) (path : String) (hbytes : file.bytes = magic ++ log) :
    ∃ scan items chain' rest, scanRawLog codec path file = .ok scan ∧
      Reads (rawReader codec none) (startChain none) log items chain' rest ∧
      Reports scan items chain' rest := by
  obtain ⟨items, chain', rest, hreads, hend⟩ :=
    exists_reads (rawReader codec none) (startChain none) log
  have hend' : rest = [] ∨
      ∃ message state, nextRecord codec none chain' rest = .fail (.err message) state := by
    rcases hend with hdone | ⟨_ | _, state, hfail⟩
    · exact Or.inl (nextRecord_done.mp hdone)
    · exact Or.inr ⟨_, state, hfail⟩
    · exfalso
      obtain ⟨key, hmax⟩ := nextRecord_abort hfail
      have hle := reads_next_le hreads key
      have hstart : (startChain none).expected.next key = 0 := rfl
      have hspan := hreads.rest_eq.1
      have hcount := hreads.length_le_span
      have hlength := file.length_le
      rw [hbytes, List.length_append] at hlength
      have hu64 : maxFileLength < u64Max := by decide
      rw [hmax, hstart, maxU64_toNat] at hle
      simp only [UInt64.toNat_zero] at hle
      omega
  obtain ⟨scan, hscan, hreports⟩ := scanRawLogFrom_of_reads path hbytes hreads hend'
  exact ⟨scan, items, chain', rest, hscan, hreads, hreports⟩

end

end LobReplay.Raw
