/-
  When the watermarks of a scan describe the records it counted. The reader counts the frame index
  of a record before it has read the fields behind it and before the scan has compared its identity,
  so a record that is refused there has left its mark (`RefusedLate`). And a successor segment is
  scanned with the frame index its predecessor ended at, which is a watermark of its own until a
  record is counted.
-/

import LobReplay.Raw.TornTail

namespace LobReplay.Raw

open Foundation Std RawLogWriter

/-! ## Watermarks -/

def StreamDurabilityWatermarkV1.identity (w : StreamDurabilityWatermarkV1) : Identity :=
  (w.connectionEpoch, w.stream)

def lastIndex (frames : List RawFrame) (key : Identity) : Option UInt64 :=
  ((frames.filter fun frame => decide (frame.identity = key)).getLast?).map (·.frameIndex)

/-- The watermarks are one for each identity of the frames, at its last frame. -/
def Describes (streams : List StreamDurabilityWatermarkV1) (frames : List RawFrame) : Prop :=
  (streams.map (·.identity)).Nodup ∧
    ∀ w, w ∈ streams ↔ lastIndex frames w.identity = some w.durableThroughFrameIndex

theorem lastIndex_nil (key : Identity) : lastIndex [] key = none := rfl

theorem lastIndex_cons (frame : RawFrame) (rest : List RawFrame) (key : Identity) :
    lastIndex (frame :: rest) key
      = (lastIndex rest key).or (if frame.identity = key then some frame.frameIndex else none) := by
  unfold lastIndex
  rw [List.filter_cons]
  by_cases hkey : frame.identity = key
  · simp [hkey, List.getLast?_cons]
  · simp [hkey]

/-- The watermark the next index of an identity stands for. -/
def mark (expected : Expected) (key : Identity) : Option UInt64 :=
  (expected[key]?).bind fun next => if next = 0 then none else some (next - 1)

variable {expected : Expected}

/-- What `durability_watermarks` lists. -/
theorem mem_durabilityWatermarks {w : StreamDurabilityWatermarkV1} :
    w ∈ durabilityWatermarks expected ↔
      mark expected w.identity = some w.durableThroughFrameIndex := by
  unfold durabilityWatermarks mark
  rw [List.mem_filterMap, Option.bind_eq_some_iff]
  constructor
  · rintro ⟨⟨key, next⟩, hmem, hw⟩
    rw [ExtTreeMap.mem_toList_iff_getElem?_eq_some] at hmem
    split at hw
    · cases hw
    · next hne =>
      obtain rfl := Option.some.inj hw
      exact ⟨next, hmem, if_neg hne⟩
  · rintro ⟨next, hget, hw⟩
    refine ⟨(w.identity, next), ExtTreeMap.mem_toList_iff_getElem?_eq_some.mpr hget, ?_⟩
    split at hw
    · cases hw
    · next hne =>
      rw [if_neg hne, Option.some.inj hw]
      rfl

theorem nodup_durabilityWatermarks (expected : Expected) :
    ((durabilityWatermarks expected).map (·.identity)).Nodup := by
  have hkeys : (expected.toList.map (·.1)).Nodup := by
    rw [List.nodup_iff_pairwise_ne, List.pairwise_map]
    refine ExtTreeMap.distinct_keys_toList.imp fun hne heq => hne ?_
    rw [heq]
    exact ReflCmp.compare_self
  refine hkeys.sublist ?_
  unfold durabilityWatermarks
  induction expected.toList with
  | nil => exact List.Sublist.refl _
  | cons entry rest ih =>
    rw [List.filterMap_cons]
    split
    · exact ih.cons _
    · next hw =>
      split at hw
      · cases hw
      · obtain rfl := Option.some.inj hw
        exact ih.cons_cons _

theorem describes_iff {frames : List RawFrame} :
    Describes (durabilityWatermarks expected) frames ↔
      ∀ key, mark expected key = lastIndex frames key := by
  constructor
  · rintro ⟨-, hmem⟩ key
    refine Option.ext fun index => ?_
    have h := hmem ⟨key.1, key.2, index⟩
    rw [mem_durabilityWatermarks] at h
    exact h
  · intro h
    refine ⟨nodup_durabilityWatermarks expected, fun w => ?_⟩
    rw [mem_durabilityWatermarks, h]

theorem next_ne_of_mark {key : Identity} {index : UInt64} (h : mark expected key = some index) :
    expected.next key ≠ index := by
  obtain ⟨next, hget, hmark⟩ := Option.bind_eq_some_iff.mp h
  split at hmark
  · cases hmark
  · rw [Expected.next, hget, Option.getD_some, ← Option.some.inj hmark]
    intro heq
    have hnat := congrArg UInt64.toNat heq
    have hlt := UInt64.toNat_lt next
    rw [UInt64.toNat_sub, UInt64.toNat_one] at hnat
    omega

theorem mark_insert (expected : Expected) (key key' : Identity) (next : UInt64) :
    mark (expected.insert key next) key'
      = if key = key' then (if next = 0 then none else some (next - 1))
        else mark expected key' := by
  unfold mark
  rw [ExtTreeMap.getElem?_insert, if_congr LawfulEqCmp.compare_eq_iff_eq rfl rfl]
  split <;> rfl

/-! ## Readings -/

section

variable {codec : RawCodec} {lockedIdentity : Option Identity} {chain chain' : ChainState}
  {log rest : Bytes} {items : List (ReadRecord × Nat)} {state : ChainState} {file : File}

def framesOf (items : List (ReadRecord × Nat)) : List RawFrame := items.map (·.1.frame)

theorem frame_of_verified {record : VerifiedBody} {frame : RawFrame}
    (h : record.frame = .ok frame) :
    frame.identity = record.identity ∧ frame.frameIndex = record.frameIndex := by
  unfold VerifiedBody.frame at h
  iterate 10 obtain ⟨_, -, h⟩ := bind_eq_ok.mp h
  obtain rfl := Except.ok.inj h
  exact ⟨rfl, rfl⟩

/-- **Step.** An item counts its frame index and no other. -/
theorem item_expected {record : ReadRecord} {used : Nat}
    (h : nextRecord codec lockedIdentity chain log = .item record used chain') :
    record.frame.frameIndex ≠ maxU64 ∧ chain'.expected
      = chain.expected.insert record.frame.identity (record.frame.frameIndex + 1) := by
  obtain ⟨body, digest, _, -, -, -, -, -, verified, -, hcount⟩ := nextRecord_eq_item.mp h
  obtain ⟨hindex, hmax, hexpected, frame, hframe, rfl⟩ := countRecord_eq_ok.mp hcount
  obtain ⟨hidentity, hframeIndex⟩ := frame_of_verified hframe
  refine ⟨by rw [hframeIndex, hindex]; exact hmax, ?_⟩
  rw [hexpected, hidentity, hframeIndex, hindex]

theorem succ_ne_zero_of_ne_max {n : UInt64} (h : n ≠ maxU64) : n + 1 ≠ 0 ∧ n + 1 - 1 = n := by
  have hlt : n.toNat + 1 < 2 ^ 64 := by
    have hle := toNat_le_u64Max n
    have hne : n.toNat ≠ u64Max := fun heq => h (UInt64.toNat_inj.mp (heq.trans maxU64_toNat.symm))
    simp only [u64Max] at hle hne
    omega
  have hsucc : (n + 1).toNat = n.toNat + 1 := by
    rw [UInt64.toNat_add]
    exact Nat.mod_eq_of_lt hlt
  refine ⟨fun hzero => ?_, by simp⟩
  rw [hzero] at hsucc
  simp at hsucc

theorem mark_counted (expected : Expected) (key key' : Identity) {index : UInt64}
    (h : index ≠ maxU64) :
    mark (expected.insert key (index + 1)) key'
      = if key = key' then some index else mark expected key' := by
  obtain ⟨hne, hpred⟩ := succ_ne_zero_of_ne_max h
  rw [mark_insert, if_neg hne, hpred]

/-- **Run.** After a reading an identity is marked at its last frame, or as it was before. -/
theorem reads_mark (h : Reads (rawReader codec lockedIdentity) chain log items chain' rest)
    (key : Identity) :
    mark chain'.expected key
      = (lastIndex (framesOf items) key).or (mark chain.expected key) := by
  induction h with
  | nil => rfl
  | @cons chain middle chain' log rest record used items head tail ih =>
    obtain ⟨hmax, hexpected⟩ := item_expected head
    rw [ih, hexpected, mark_counted _ _ _ hmax]
    show _ = (lastIndex (record.frame :: framesOf items) key).or _
    rw [lastIndex_cons, Option.or_assoc]
    congr 1
    split <;> rfl

/-- A record that is refused behind its frame index: it lacks a later field, or it belongs to
    another identity than the segment. -/
def RefusedLate (codec : RawCodec) (lockedIdentity : Option Identity) (chain : ChainState)
    (rest : Bytes) : Prop :=
  ∃ body digest behind verified, rest = framed body digest ++ behind ∧
    body.length ≤ maxRecordBytes ∧ verifyBody codec chain.previous body digest = .ok verified ∧
    verified.frameIndex = chain.expected.next verified.identity ∧ verified.frameIndex ≠ maxU64 ∧
    ∀ frame, verified.frame = .ok frame → lockAllows lockedIdentity frame = false

theorem RefusedLate.read (h : RefusedLate codec lockedIdentity chain rest) :
    ∃ body digest behind verified, readFramed rest = .ok (some (body, digest, behind)) ∧
      verifyBody codec chain.previous body digest = .ok verified ∧
      verified.frameIndex = chain.expected.next verified.identity := by
  obtain ⟨body, digest, behind, verified, hrest, hmax, hverify, hindex, -⟩ := h
  exact ⟨body, digest, behind, verified, readFramed_eq_some.mpr ⟨hrest, hmax⟩, hverify, hindex⟩

/-- **A refused record** leaves the watermarks, unless it is refused late: then it is marked. -/
theorem nextRecord_fail {message : String}
    (h : nextRecord codec lockedIdentity chain rest = .fail (.err message) state) :
    (¬ RefusedLate codec lockedIdentity chain rest ∧
      ∀ key, mark state.expected key = mark chain.expected key) ∨
    (∃ key index, index ≠ maxU64 ∧ chain.expected.next key = index ∧
      RefusedLate codec lockedIdentity chain rest ∧
      ∀ key', mark state.expected key'
        = if key = key' then some index else mark chain.expected key') := by
  unfold nextRecord readNextRawRecord at h
  rcases hframed : readFramed rest with e | _ | ⟨body, digest, behind⟩
  · simp only [hframed] at h
    cases h
    refine Or.inl ⟨fun hlate => ?_, fun _ => rfl⟩
    obtain ⟨_, _, _, _, hread, -⟩ := hlate.read
    rw [hframed] at hread
    cases hread
  · simp [hframed] at h
  rcases hverify : verifyBody codec chain.previous body digest with e | verified
  · simp only [hframed, hverify] at h
    cases h
    refine Or.inl ⟨fun hlate => ?_, fun _ => rfl⟩
    obtain ⟨_, _, _, _, hread, hverified, -⟩ := hlate.read
    rw [hframed] at hread
    cases hread
    rw [hverify] at hverified
    cases hverified
  simp only [hframed, hverify, countRecord, insert_orInsert] at h
  by_cases hindex : verified.frameIndex = chain.expected.next verified.identity
  · rw [if_neg (not_not.mpr hindex)] at h
    by_cases hmax : chain.expected.next verified.identity = maxU64
    · rw [if_pos hmax] at h
      simp [Except.map] at h
    rw [if_neg hmax] at h
    refine Or.inr ⟨verified.identity, chain.expected.next verified.identity, hmax, rfl,
      ⟨body, digest, behind, verified, (readFramed_eq_some.mp hframed).1,
        (readFramed_eq_some.mp hframed).2, hverify, hindex, by rw [hindex]; exact hmax, ?_⟩, ?_⟩
    · intro frame hframe
      rw [hframe] at h
      simp only [Except.map] at h
      by_contra hlock
      simp [Bool.not_eq_false _ ▸ hlock] at h
    · have hstate : state.expected
          = chain.expected.insert verified.identity (chain.expected.next verified.identity + 1) := by
        rcases hframe : verified.frame with e | frame
        · simp only [hframe, Except.map] at h
          cases h
          rfl
        · simp only [hframe, Except.map] at h
          split at h
          · cases h
          · cases h
            rfl
      intro key'
      rw [hstate, mark_counted _ _ _ hmax]
  · -- the index is refused; an identity that is new is noted without one
    rw [if_pos hindex] at h
    have hstate : state.expected = if verified.identity ∈ chain.expected then chain.expected
        else chain.expected.insert verified.identity 0 := by
      simp only [err, Except.map] at h
      cases h
      rfl
    refine Or.inl ⟨fun hlate => ?_, fun key => ?_⟩
    · obtain ⟨_, _, _, _, hread, hverified, hcounted⟩ := hlate.read
      rw [hframed] at hread
      cases hread
      rw [hverify] at hverified
      cases hverified
      exact hindex hcounted
    rw [hstate]
    split
    · rfl
    · next hnot =>
      rw [mark_insert]
      split
      · next heq =>
        rw [mark, ← heq, ExtTreeMap.getElem?_eq_none hnot]
        rfl
      · rfl

theorem RefusedLate.fails (h : RefusedLate codec lockedIdentity chain rest) :
    ∃ message state, nextRecord codec lockedIdentity chain rest = .fail (.err message) state := by
  obtain ⟨body, digest, behind, verified, rfl, hmax, hverify, hindex, hne, hrefused⟩ := h
  unfold nextRecord readNextRawRecord
  simp only [readFramed_eq_some.mpr ⟨rfl, hmax⟩, hverify, countRecord, insert_orInsert]
  rw [if_neg (not_not.mpr hindex), if_neg (by rw [← hindex]; exact hne)]
  rcases hframe : verified.frame with ⟨message | _⟩ | frame
  · exact ⟨message, _, rfl⟩
  · exact absurd hframe (returns_frame verified)
  · simp only [Except.map, hrefused frame hframe]
    exact ⟨_, _, rfl⟩

/-! ## Scans -/

/-- **The watermarks of a scan** are those of the indices its last read left. -/
theorem scan_streams {final : Expected} (path : String) (hbytes : file.bytes = magic ++ log)
    (h : Reads (rawReader codec lockedIdentity) chain log items chain' rest)
    (hend : (rest = [] ∧ final = chain'.expected) ∨ ∃ message state,
      nextRecord codec lockedIdentity chain' rest = .fail (.err message) state ∧
        final = state.expected) :
    ∃ scan, scanRawLogFrom codec path file chain.previous chain.expected lockedIdentity = .ok scan ∧
      scan.records = items.length ∧ scan.streams = durabilityWatermarks final := by
  have hloop := scanLoop_log hbytes h
  unfold scanRawLogFrom
  simp only [hbytes, readMagic_append, hloop]
  rcases hend with ⟨rfl, rfl⟩ | ⟨message, state, hfail, rfl⟩
  · rw [scanLoop_nil]
    exact ⟨_, rfl, Nat.zero_add _, rfl⟩
  · rw [scanLoop_fail hfail]
    exact ⟨_, rfl, Nat.zero_add _, rfl⟩

/-- A scan that meets an index it cannot count aborts. -/
theorem scan_aborts (path : String) (hbytes : file.bytes = magic ++ log)
    (h : Reads (rawReader codec lockedIdentity) chain log items chain' rest)
    (hend : nextRecord codec lockedIdentity chain' rest = .fail .abort state) :
    scanRawLogFrom codec path file chain.previous chain.expected lockedIdentity
      = .error .abort := by
  have hloop := scanLoop_log hbytes h
  have hread : ∃ expected, readNextRawRecord codec rest chain'.previous chain'.expected
      = (.error .abort, expected) := by
    unfold nextRecord at hend
    rcases hcase : readNextRawRecord codec rest chain'.previous chain'.expected with
      ⟨e | _ | ⟨record, behind⟩, expected⟩
    · simp only [hcase] at hend
      cases hend
      exact ⟨_, rfl⟩
    · simp [hcase] at hend
    · simp only [hcase] at hend
      split at hend <;> cases hend
  obtain ⟨expected, hread⟩ := hread
  have hstop := hloop.trans (show _ = Except.error Failure.abort by simp only [scanLoop, hread])
  unfold scanRawLogFrom
  simp only [hbytes, readMagic_append, hstop]
  rfl

end

/-! ## The theorem -/

section

variable {codec : RawCodec} {file : File} {genesis : Option RawSegmentGenesisV1}

/-- The records a scan of the file counts: none without the magic, and otherwise records its
    reader takes one after another. -/
def Counted (codec : RawCodec) (file : File) (genesis : Option RawSegmentGenesisV1)
    (items : List (ReadRecord × Nat)) : Prop :=
  (items = [] ∧ ∀ log, file.bytes ≠ magic ++ log) ∨
    ∃ log chain rest, file.bytes = magic ++ log ∧
      Reads (rawReader codec (lockOf genesis)) (startChain genesis) log items chain rest

/-- The watermarks a scan of the file returns describe the records it counts. -/
def WatermarksDescribe (codec : RawCodec) (path : String) (file : File)
    (genesis : Option RawSegmentGenesisV1) : Prop :=
  ∀ scan, scanLog codec path file genesis = .ok scan →
    ∃ items, Counted codec file genesis items ∧ items.length = scan.records ∧
      Describes scan.streams (framesOf items)

/-- The file ends its records with one that is refused late. -/
def EndsLate (codec : RawCodec) (file : File) (genesis : Option RawSegmentGenesisV1) : Prop :=
  ∃ log items chain rest, file.bytes = magic ++ log ∧
    Reads (rawReader codec (lockOf genesis)) (startChain genesis) log items chain rest ∧
    RefusedLate codec (lockOf genesis) chain rest

def EmptySuccessor (codec : RawCodec) (file : File) (genesis : Option RawSegmentGenesisV1) :
    Prop :=
  ∃ successor log, genesis = some successor ∧ successor.nextFrameIndex ≠ 0 ∧
    file.bytes = magic ++ log ∧
    (log = [] ∨ ∃ message state, nextRecord codec (lockOf genesis) (startChain genesis) log
      = .fail (.err message) state)

theorem mark_start (key : Identity) :
    mark (startChain genesis).expected key
      = genesis.bind fun g => if g.identity = key then
          (if g.nextFrameIndex = 0 then none else some (g.nextFrameIndex - 1)) else none := by
  rcases genesis with _ | g
  · rfl
  · show mark ((∅ : Expected).insert g.identity g.nextFrameIndex) key = _
    rw [mark_insert]
    rfl

/-- A genesis that is refused is not scanned. -/
theorem scanLog_ne_ok (path : String)
    (hinvalid : ¬ ∀ g ∈ genesis, validateSegmentGenesis g = .ok ())
    (scan : RawLogScanV1) : scanLog codec path file genesis ≠ .ok scan := by
  intro h
  apply hinvalid
  rintro g rfl
  obtain ⟨⟨⟩, hok, -⟩ := bind_eq_ok.mp h
  exact hok

section

variable {log rest : Bytes} {items : List (ReadRecord × Nat)} {chain : ChainState}

theorem watermarksDescribe_of_scan {path : String} {scan : RawLogScanV1}
    (hbytes : file.bytes = magic ++ log)
    (h : Reads (rawReader codec (lockOf genesis)) (startChain genesis) log items chain rest)
    (hscan : scanLog codec path file genesis = .ok scan) (hrecords : scan.records = items.length) :
    WatermarksDescribe codec path file genesis ↔ Describes scan.streams (framesOf items) := by
  constructor
  · intro hdescribe
    obtain ⟨items', hcounted, hlength, hstreams⟩ := hdescribe scan hscan
    rcases hcounted with ⟨-, hnone⟩ | ⟨log', chain', rest', hbytes', hreads⟩
    · exact absurd hbytes (hnone log)
    · obtain rfl : log = log' := List.append_cancel_left (hbytes.symm.trans hbytes')
      obtain ⟨rfl, -⟩ := h.unique hreads (hlength.trans hrecords)
      exact hstreams
  · intro hstreams scan' hscan'
    obtain rfl := Except.ok.inj (hscan.symm.trans hscan')
    exact ⟨items, Or.inr ⟨log, chain, rest, hbytes, h⟩, hrecords.symm, hstreams⟩

theorem endsLate_iff (hbytes : file.bytes = magic ++ log)
    (h : Reads (rawReader codec (lockOf genesis)) (startChain genesis) log items chain rest)
    (hstop : ∀ record used state, nextRecord codec (lockOf genesis) chain rest
      ≠ .item record used state) :
    EndsLate codec file genesis ↔ RefusedLate codec (lockOf genesis) chain rest := by
  constructor
  · rintro ⟨log', items', chain', rest', hbytes', hreads, hlate⟩
    obtain rfl : log = log' := List.append_cancel_left (hbytes.symm.trans hbytes')
    obtain ⟨message, state, hfail⟩ := hlate.fails
    have hstop' : ∀ record used state, nextRecord codec (lockOf genesis) chain' rest'
        ≠ .item record used state := by
      intro record used state hitem
      rw [hfail] at hitem
      cases hitem
    have hle := h.le_of_stopped hreads hstop
    have hge := hreads.le_of_stopped h hstop'
    obtain ⟨rfl, rfl, rfl⟩ := h.unique hreads (Nat.le_antisymm hle hge)
    exact hlate
  · intro hlate
    exact ⟨log, items, chain, rest, hbytes, h, hlate⟩

theorem emptySuccessor_iff (hbytes : file.bytes = magic ++ log)
    (h : Reads (rawReader codec (lockOf genesis)) (startChain genesis) log items chain rest)
    (hend : rest = [] ∨ ∃ message state, nextRecord codec (lockOf genesis) chain rest
      = .fail (.err message) state) :
    EmptySuccessor codec file genesis ↔
      ∃ g, genesis = some g ∧ g.nextFrameIndex ≠ 0 ∧ items = [] := by
  constructor
  · rintro ⟨g, log', hgenesis, hnext, hbytes', hstop⟩
    obtain rfl : log = log' := List.append_cancel_left (hbytes.symm.trans hbytes')
    refine ⟨g, hgenesis, hnext, ?_⟩
    cases h with
    | nil => rfl
    | cons head tail =>
      change nextRecord _ _ _ _ = _ at head
      rcases hstop with rfl | ⟨message, state, hfail⟩
      · cases head
      · rw [hfail] at head
        cases head
  · rintro ⟨g, hgenesis, hnext, rfl⟩
    cases h
    exact ⟨g, log, hgenesis, hnext, hbytes, hend⟩

theorem mark_read_iff
    (h : Reads (rawReader codec (lockOf genesis)) (startChain genesis) log items chain rest) :
    (∀ key, mark chain.expected key = lastIndex (framesOf items) key) ↔
      ¬ ∃ g, genesis = some g ∧ g.nextFrameIndex ≠ 0 ∧ items = [] := by
  simp only [reads_mark h, mark_start]
  constructor
  · rintro hall ⟨g, rfl, hnext, rfl⟩
    have := hall g.identity
    simp [framesOf, lastIndex, hnext] at this
  · intro hnot key
    rcases genesis with _ | g
    · simp
    rw [Option.bind_some]
    by_cases hkey : g.identity = key
    swap
    · rw [if_neg hkey, Option.or_none]
    by_cases hnext : g.nextFrameIndex = 0
    · rw [if_pos hkey, if_pos hnext, Option.or_none]
    -- the last item has the identity of the segment
    have hitems : items ≠ [] := fun hnil => hnot ⟨g, rfl, hnext, hnil⟩
    obtain ⟨front, last, rfl⟩ := (List.eq_nil_or_concat items).resolve_left hitems
    have hallows := reads_lockAllows h last (by simp)
    have hlast : last.1.frame.identity = key := by
      rw [← hkey]
      simpa [lockAllows, lockOf, genesisState, RawFrame.identity, eq_comm] using hallows
    have hmarked : lastIndex (framesOf (front.concat last)) key = some last.1.frame.frameIndex := by
      simp [lastIndex, framesOf, hlast]
    rw [hmarked, Option.some_or]

end

/-- **Watermarks describe the counted records exactly if none is refused late and a successor
    counts one.** A genesis that is refused is not scanned. -/
theorem watermarks_describe_iff (codec : RawCodec) (path : String) (file : File)
    (genesis : Option RawSegmentGenesisV1) :
    WatermarksDescribe codec path file genesis ↔
      ((∀ g ∈ genesis, validateSegmentGenesis g = .ok ()) →
        ¬ EndsLate codec file genesis ∧ ¬ EmptySuccessor codec file genesis) := by
  by_cases hvalid : ∀ g ∈ genesis, validateSegmentGenesis g = .ok ()
  swap
  · exact iff_of_true (fun scan hscan => absurd hscan (scanLog_ne_ok path hvalid scan))
      fun h => absurd h hvalid
  rw [imp_iff_right hvalid]
  have hscanLog := @scanLog_eq codec genesis hvalid path file
  by_cases hmagic : ∃ log, file.bytes = magic ++ log
  swap
  · -- nothing is read behind a wrong magic
    have hnone : ∀ log, file.bytes ≠ magic ++ log := fun log hbytes => hmagic ⟨log, hbytes⟩
    refine iff_of_true (fun scan hscan => ?_) ⟨?_, ?_⟩
    · rcases hread : readMagic file.bytes with e | log
      · rw [hscanLog, scanRawLogFrom, hread] at hscan
        obtain rfl := Except.ok.inj hscan
        exact ⟨[], Or.inl ⟨rfl, hnone⟩, rfl, List.nodup_nil, fun w => by simp [framesOf, lastIndex]⟩
      · exact absurd (readMagic_eq_ok hread) (hnone log)
    · rintro ⟨log, _, _, _, hbytes, -⟩
      exact hnone log hbytes
    · rintro ⟨_, log, _, _, hbytes, -⟩
      exact hnone log hbytes
  obtain ⟨log, hbytes⟩ := hmagic
  obtain ⟨items, chain, rest, hreads, hend⟩ :=
    exists_reads (rawReader codec (lockOf genesis)) (startChain genesis) log
  have hstop : ∀ record used state, nextRecord codec (lockOf genesis) chain rest
      ≠ .item record used state := by
    intro record used state hitem
    change nextRecord _ _ _ _ = _ ∨ ∃ e state, nextRecord _ _ _ _ = _ at hend
    rcases hend with hdone | ⟨e, state', hfail⟩
    · rw [hdone] at hitem
      cases hitem
    · rw [hfail] at hitem
      cases hitem
  rw [endsLate_iff hbytes hreads hstop]
  rcases hend with hdone | ⟨message | _, state, hfail⟩
  · -- read to the end
    obtain rfl := nextRecord_done.mp hdone
    have hlate : ¬ RefusedLate codec (lockOf genesis) chain [] := by
      intro hlate
      obtain ⟨message, state, hfail⟩ := hlate.fails
      cases hfail
    obtain ⟨scan, hscan, hrecords, hstreams⟩ :=
      scan_streams path hbytes hreads (Or.inl ⟨rfl, rfl⟩)
    rw [watermarksDescribe_of_scan hbytes hreads (hscanLog.trans hscan) hrecords, hstreams,
      describes_iff, mark_read_iff hreads, emptySuccessor_iff hbytes hreads (Or.inl rfl)]
    simp only [hlate, not_false_eq_true, true_and]
  · obtain ⟨scan, hscan, hrecords, hstreams⟩ :=
      scan_streams path hbytes hreads (Or.inr ⟨message, state, hfail, rfl⟩)
    rw [watermarksDescribe_of_scan hbytes hreads (hscanLog.trans hscan) hrecords, hstreams,
      describes_iff]
    rcases nextRecord_fail hfail with ⟨hlate, hmark⟩ | ⟨key, index, hmax, hnext, hlate, hmark⟩
    · rw [emptySuccessor_iff hbytes hreads (Or.inr ⟨message, state, hfail⟩), ← mark_read_iff hreads]
      simp only [hmark, hlate, not_false_eq_true, true_and]
    · -- the refused record is marked at the index behind the last counted one
      refine iff_of_false (fun hall => ?_) fun h => h.1 hlate
      have hlast : some index = lastIndex (framesOf items) key := by
        rw [← hall key, hmark key, if_pos rfl]
      have hmarked : mark chain.expected key = some index := by
        rw [reads_mark hreads key, ← hlast, Option.some_or]
      exact next_ne_of_mark hmarked hnext
  · -- no scan is returned
    refine iff_of_true (fun scan hscan => ?_) ⟨fun hlate => ?_, ?_⟩
    · rw [hscanLog, scan_aborts path hbytes hreads hfail] at hscan
      cases hscan
    · obtain ⟨message, state', hfail'⟩ := hlate.fails
      rw [show nextRecord _ _ _ _ = _ from hfail] at hfail'
      cases hfail'
    · rintro ⟨g, log', -, -, hbytes', hatOnce⟩
      obtain rfl : log = log' := List.append_cancel_left (hbytes.symm.trans hbytes')
      have hfirst : ∃ message state, nextRecord codec (lockOf genesis) (startChain genesis) log
          = .fail (.err message) state ∨ nextRecord codec (lockOf genesis) (startChain genesis) log
          = .done := by
        rcases hatOnce with rfl | ⟨message, state', hfail'⟩
        · exact ⟨"", startChain genesis, Or.inr rfl⟩
        · exact ⟨message, state', Or.inl hfail'⟩
      obtain ⟨message, state', hfirst⟩ := hfirst
      cases hreads with
      | nil =>
        change nextRecord _ _ _ _ = _ at hfail
        rw [hfail] at hfirst
        rcases hfirst with h | h <;> cases h
      | cons head tail =>
        change nextRecord _ _ _ _ = _ at head
        rw [head] at hfirst
        rcases hfirst with h | h <;> cases h

end

/-! ## A foreign record -/

/-- The root segment of the trades of the sample. -/
def tradeGenesis : RawSegmentGenesisV1 where
  schema := "RawSegmentGenesisV1"
  segmentIndex := 0
  previousSegmentTerminalSha256 := zeroDigest
  connectionEpoch := "a"
  stream := "t"
  nextFrameIndex := 0

/-- **The depth record behind the trade is refused, and marked.** -/
theorem foreign_record_is_marked :
    ∃ writer receipts writer', openLog (Sink.fresh []) 1 none = .ok writer ∧
      writer.appendAll sampleCodec sampleFrames = .ok (receipts, writer') ∧
      ¬ WatermarksDescribe sampleCodec "trade.bnraw" writer'.sink.file (some tradeGenesis) := by
  have hrun : ((openLog (Sink.fresh []) 1 none) >>= fun writer =>
      (writer.appendAll sampleCodec sampleFrames).map fun result =>
        (scanLog sampleCodec "trade.bnraw" result.2.sink.file (some tradeGenesis)).map
          fun scan => (scan.records, scan.streams))
      = .ok (.ok (1, [⟨"a", "d", 0⟩, ⟨"a", "t", 0⟩])) := by
    decide +kernel
  obtain ⟨writer, hopen, hrun⟩ := bind_eq_ok.mp hrun
  obtain ⟨⟨receipts, writer'⟩, happend, hrun⟩ := map_eq_ok.mp hrun
  obtain ⟨scan, hscan, hscanned⟩ := map_eq_ok.mp hrun
  obtain ⟨hrecords, hstreams⟩ := Prod.mk.inj hscanned
  refine ⟨writer, receipts, writer', hopen, happend, fun hdescribe => ?_⟩
  obtain ⟨items, -, hlength, -, hmem⟩ := hdescribe scan hscan
  rw [hrecords] at hlength
  obtain ⟨item, rfl⟩ := List.length_eq_one_iff.mp hlength
  rw [hstreams] at hmem
  -- one frame cannot be of both streams
  have hdepth := (hmem ⟨"a", "d", 0⟩).mp (by simp)
  have htrade := (hmem ⟨"a", "t", 0⟩).mp (by simp)
  simp only [framesOf, List.map_cons, List.map_nil, lastIndex_cons, lastIndex_nil, Option.none_or,
    StreamDurabilityWatermarkV1.identity] at hdepth htrade
  split at hdepth
  · next hidentity =>
    rw [hidentity, if_neg (by decide)] at htrade
    cases htrade
  · cases hdepth

end LobReplay.Raw
