/-
  What the identity log holds after a crash. A crash between `insert` and `sync` leaves trailing
  bytes behind the records the header commits; the log is then opened, inserted into, synced and
  perhaps opened again.

  `insert` appends at the end of the file while `lookup` and `validate` count records from the
  header on, so the new records are found only when nothing trails, or when the trailing bytes
  happen to be what the inserts write.
-/

import LobReplay.Foundation.Machine
import LobReplay.Identity.Image

namespace LobReplay

open Foundation

namespace TradeIdentityLog

/-! ## A crash image -/

/-- The file holds a header that commits exactly the records `committed`, and then
    the trailing bytes `tail`. Nothing reads the reserved header bytes. -/
def Commits (file : File) (committed : List IdentityRecord) (tail : Bytes) : Prop :=
  ∃ reserved : Bytes, reserved.length = 12 ∧
    file.bytes = identityLogMagic ++ leBytes 4 identityLogVersion
      ++ leBytes 8 committed.length ++ reserved ++ (encodeRecords committed ++ tail)

variable {file : File} {committed : List IdentityRecord} {tail : Bytes}

theorem Commits.image (h : Commits file committed tail) : Image file committed := by
  obtain ⟨reserved, hlen, hbytes⟩ := h
  refine ⟨_, tail, ?_, hbytes⟩
  simp [hlen, identityLogMagic, identityLogHeaderBytes]

theorem Commits.count_lt (h : Commits file committed tail) : committed.length < 256 ^ 8 := by
  have hle := h.image.len_le
  have hmax := file.length_le
  simp only [File.len, maxFileLength, identityLogRecordBytes] at hle hmax
  omega

/-- `headerBytes` is a header with nothing in the reserved bytes. -/
theorem commits_headerBytes
    (h : file.bytes = headerBytes committed.length ++ (encodeRecords committed ++ tail)) :
    Commits file committed tail :=
  ⟨List.replicate 12 0, by simp, h⟩

/-- `open` accepts every crash image and ignores what trails. -/
theorem open_commits (path : String) (h : Commits file committed tail) :
    ∃ log, «open» path file = .ok log ∧ log.file = file ∧ log.count = committed.length ∧
      log.lastId = committed.getLast?.map (·.1) ∧ log.dirty = false := by
  obtain ⟨reserved, hreserved, hbytes⟩ := id h
  have hlen := h.image.len_le
  have hmax := file.length_le
  have hroom : 0 + identityLogHeaderBytes ≤ file.len := by omega
  obtain ⟨header, hread, hheader⟩ := File.readExactAt_eq_some hroom
  -- the header as one byte list, so that its fields are read off by computation
  have hfields : header.bytes
      = [76, 79, 66, 73, 68, 76, 79, 71, 1, 0, 0, 0] ++ (leBytes 8 committed.length ++ reserved) := by
    rw [hheader, hbytes, List.drop_zero, List.take_left' (by
      simp [hreserved, identityLogMagic, identityLogHeaderBytes])]
    rfl
  have hmagic : header.bytes.take 8 = identityLogMagic := by
    rw [hfields]
    rfl
  have hversion : leValue ((header.bytes.drop 8).take 4) = identityLogVersion := by
    rw [hfields]
    rfl
  have hcount : leValue ((header.bytes.drop 12).take 8) = committed.length := by
    have hdrop : header.bytes.drop 12 = leBytes 8 committed.length ++ reserved := by
      rw [hfields]
      rfl
    rw [hdrop, List.take_left' (leBytes_length ..), leValue_leBytes 8 _ h.count_lt]
  -- no length arithmetic saturates below the greatest file length
  have hnosat : min (committed.length * identityLogRecordBytes) u64Max
      = committed.length * identityLogRecordBytes := by
    simp only [File.len, maxFileLength, u64Max] at *
    omega
  have hfit : ¬ u64Max < identityLogHeaderBytes + committed.length * identityLogRecordBytes := by
    simp only [File.len, maxFileLength, u64Max] at *
    omega
  have hlast : (if committed.length = 0 then .ok none
        else (readRecordAt file (committed.length - 1)).map fun record => some record.1
          : Result (Option UInt64)) = .ok (committed.getLast?.map (·.1)) := by
    rcases List.eq_nil_or_concat committed with rfl | ⟨front, last, rfl⟩
    · rfl
    · rw [List.concat_eq_append] at h ⊢
      have hpos : (front ++ [last]).length - 1 = front.length := by simp
      rw [if_neg (by simp), hpos, readRecordAt_image h.image front.length (by simp)]
      simp [Except.map]
  unfold «open»
  simp only [hread, hmagic, hversion, hcount, ne_eq, not_true_eq_false, or_self, if_false,
    hnosat, hfit, hlen, dif_pos, hlast]
  exact ⟨_, rfl, rfl, rfl, rfl, rfl⟩

/-! ## A run of inserts -/

/-- One `insert` call, as a step of a run. -/
def insertCall (log : TradeIdentityLog) (c : UInt64 × String) : Result Unit × TradeIdentityLog :=
  log.insert c.1 c.2

/-- The records of the inserts that returned `Ok`, in order. -/
def insertedRecords (inserts : List (UInt64 × String)) (results : List (Result Unit)) :
    List IdentityRecord :=
  (inserts.zip results).filterMap fun (c, result) =>
    match result, hexDecode32 c.2 with
    | .ok (), .ok digest => some (c.1, digest)
    | _, _ => none

/-- The inserts that can be accepted when the file has `room` bytes left: those with
    a well-formed digest, as long as a whole record fits. -/
def acceptableInserts : Nat → List (UInt64 × String) → List IdentityRecord
  | _, [] => []
  | room, (id, digestHex) :: rest =>
    match hexDecode32 digestHex with
    | .error _ => acceptableInserts room rest
    | .ok digest =>
      if identityLogRecordBytes ≤ room then
        (id, digest) :: acceptableInserts (room - identityLogRecordBytes) rest
      else acceptableInserts 0 rest

@[simp] theorem acceptableInserts_full (inserts : List (UInt64 × String)) :
    acceptableInserts 0 inserts = [] := by
  induction inserts with
  | nil => rfl
  | cons c rest ih =>
    obtain ⟨id, digestHex⟩ := c
    rw [acceptableInserts]
    split
    · exact ih
    · rwa [if_neg (by decide)]

theorem acceptableInserts_ids (room : Nat) (inserts : List (UInt64 × String)) :
    ((acceptableInserts room inserts).map (·.1)).Sublist (inserts.map (·.1)) := by
  induction inserts generalizing room with
  | nil => exact List.Sublist.refl _
  | cons c rest ih =>
    obtain ⟨id, digestHex⟩ := c
    rw [acceptableInserts]
    split
    · exact (ih room).cons id
    · split
      · exact (ih _).cons_cons id
      · exact (ih 0).cons id

/-- The bytes left below the greatest file length. -/
def room (file : File) : Nat := maxFileLength - file.len

/-- One insert with an ID above the last one: refused for its digest, written whole,
    or cut short by the file length. -/
theorem insert_cases {log : TradeIdentityLog} {id : UInt64} (digestHex : String)
    (habove : ∀ last ∈ log.lastId, last < id) :
    (∃ e, hexDecode32 digestHex = .error e ∧ log.insert id digestHex = (.error e, log)) ∨
    ∃ digest, hexDecode32 digestHex = .ok digest ∧
      ((identityLogRecordBytes ≤ room log.file ∧ ∃ log',
          log.insert id digestHex = (.ok (), log') ∧
          log'.file.bytes = log.file.bytes ++ identityRecordBytes id digest ∧
          log'.count = log.count + 1 ∧ log'.lastId = some id ∧ log'.dirty = true) ∨
       (¬ identityLogRecordBytes ≤ room log.file ∧ ∃ log' written,
          log.insert id digestHex
            = (err "write trade identity record: file too large", log') ∧
          log'.file.bytes = log.file.bytes ++ written ∧ room log'.file = 0 ∧
          log'.count = log.count ∧ log'.lastId = log.lastId ∧ log'.dirty = log.dirty)) := by
  have horder : log.insert id digestHex = insert.insertRecord log id digestHex := by
    unfold insert
    rcases hlast : log.lastId with _ | last
    · rfl
    · have hlt : ¬ id ≤ last := UInt64.not_le.mpr (habove last hlast)
      simp only [hlt, if_false]
  have hroom : log.file.fits identityLogRecordBytes ↔ identityLogRecordBytes ≤ room log.file := by
    have := log.file.length_le
    simp only [File.fits, room, File.len, identityLogRecordBytes] at *
    omega
  rw [horder]
  unfold insert.insertRecord
  rcases hdec : hexDecode32 digestHex with e | digest
  · exact Or.inl ⟨e, rfl, rfl⟩
  · refine Or.inr ⟨digest, rfl, ?_⟩
    by_cases hfits : log.file.fits identityLogRecordBytes
    · refine Or.inl ⟨hroom.mp hfits, ?_⟩
      simp only [hfits, dif_pos]
      exact ⟨_, rfl, File.append_bytes (by rwa [identityRecordBytes_length]), rfl, rfl, rfl⟩
    · refine Or.inr ⟨fun h => hfits (hroom.mpr h), ?_⟩
      obtain ⟨written, hwritten⟩ := log.file.exists_append_bytes (identityRecordBytes id digest)
      simp only [hfits, dif_neg, not_false_eq_true]
      refine ⟨_, written, rfl, hwritten, ?_, rfl, rfl, rfl⟩
      -- the write stopped at the greatest length
      simp only [File.fits, room, File.append, File.len, List.length_take, List.length_append,
        identityRecordBytes_length] at hfits ⊢
      omega

/-- **A run of inserts** appends the acceptable records behind everything the file
    held, and counts them. -/
theorem inserts_run (inserts : List (UInt64 × String)) (log : TradeIdentityLog)
    (hids : (log.lastId.toList ++ inserts.map (·.1)).Pairwise (· < ·)) :
    let r := run insertCall log inserts
    let accepted := acceptableInserts (room log.file) inserts
    insertedRecords inserts r.1 = accepted ∧
    (∃ junk, r.2.file.bytes = log.file.bytes ++ (encodeRecords accepted ++ junk)) ∧
    r.2.count = log.count + accepted.length ∧
    (r.2.dirty = true ∨ (accepted = [] ∧ r.2.dirty = log.dirty)) := by
  induction inserts generalizing log with
  | nil => exact ⟨rfl, ⟨[], by simp [acceptableInserts]⟩, rfl, Or.inr ⟨rfl, rfl⟩⟩
  | cons c rest ih =>
    obtain ⟨id, digestHex⟩ := c
    simp only [List.map_cons] at hids
    have habove : ∀ last ∈ log.lastId, last < id := by
      intro last hlast
      exact (List.pairwise_append.mp hids).2.2 last (by simpa using hlast) id (by simp)
    have hkeep : (log.lastId.toList ++ rest.map (·.1)).Pairwise (· < ·) :=
      hids.sublist (List.Sublist.append (List.Sublist.refl _) (List.sublist_cons_self _ _))
    simp only [run_cons, insertCall, acceptableInserts]
    rcases insert_cases digestHex habove with ⟨e, hdec, hins⟩ | ⟨digest, hdec,
      ⟨hroom, log', hins, hbytes, hcount, hlast, hdirty⟩ |
      ⟨hroom, log', written, hins, hbytes, hfull, hcount, hlast, hdirty⟩⟩
    · obtain ⟨h1, h2, h3, h4⟩ := ih log hkeep
      simp only [hins, hdec]
      refine ⟨?_, h2, h3, h4⟩
      simpa only [insertedRecords, List.zip_cons_cons, List.filterMap_cons] using h1
    · have hkeep' : (log'.lastId.toList ++ rest.map (·.1)).Pairwise (· < ·) := by
        rw [hlast]
        exact (List.pairwise_append.mp hids).2.1
      have hroom' : room log'.file = room log.file - identityLogRecordBytes := by
        simp only [room, File.len, hbytes, List.length_append, identityRecordBytes_length]
        omega
      obtain ⟨h1, ⟨junk, h2⟩, h3, h4⟩ := ih log' hkeep'
      simp only [hins, hdec, hroom, if_true]
      rw [hroom'] at h1 h2 h3 h4
      refine ⟨?_, ⟨junk, ?_⟩, ?_, ?_⟩
      · simp only [insertedRecords, List.zip_cons_cons, List.filterMap_cons, hdec] at h1 ⊢
        rw [h1]
      · rw [h2, hbytes, encodeRecords_cons]
        simp only [List.append_assoc]
      · rw [h3, hcount, List.length_cons]
        omega
      · refine Or.inl ?_
        rcases h4 with h4 | ⟨-, h4⟩
        · exact h4
        · rw [h4, hdirty]
    · obtain ⟨h1, ⟨junk, h2⟩, h3, h4⟩ := ih log' (by rwa [hlast])
      simp only [hins, hdec, hroom, if_false]
      rw [hfull] at h1 h2 h3 h4
      refine ⟨?_, ⟨?_, ?_⟩, ?_, ?_⟩
      · simpa only [insertedRecords, List.zip_cons_cons, List.filterMap_cons, err] using h1
      · exact written ++ junk
      · rw [h2, hbytes, acceptableInserts_full]
        simp only [encodeRecords_nil, List.nil_append, List.append_assoc]
      · rw [h3, hcount]
      · rwa [hdirty] at h4

/-! ## What a log holds -/

/-- The log answers for exactly the records `rs`: the count, a clean validation, the
    digest of each record and nothing for any other ID. -/
structure Holds (log : TradeIdentityLog) (rs : List IdentityRecord) : Prop where
  records_eq : log.records = rs.length
  validates : log.validate = .ok ()
  lookup_mem : ∀ r ∈ rs, log.lookup r.1 = .ok (some (hexEncode32 r.2))
  lookup_other : ∀ id, (∀ r ∈ rs, r.1 ≠ id) → log.lookup id = .ok none

/-- No record has the all-zero digest `validate` refuses. -/
def NoZeroDigest (rs : List IdentityRecord) : Prop :=
  ∀ r ∈ rs, r.2.bytes ≠ List.replicate 32 0

/-- A log holds the strictly increasing records `rs` iff these are the records its
    file has behind the header, and none has a zero digest. -/
theorem holds_iff (log : TradeIdentityLog) {actual rs : List IdentityRecord}
    (himage : Image log.file actual) (hcount : log.count = actual.length)
    (hlen : actual.length = rs.length) (hsorted : rs.Pairwise fun a b => a.1 < b.1) :
    log.Holds rs ↔ actual = rs ∧ NoZeroDigest rs := by
  refine ⟨fun h => ?_, ?_⟩
  · obtain ⟨hids, hzero⟩ := (validate_image himage hcount).mp h.validates
    have hactual : actual.Pairwise fun a b => a.1 < b.1 := List.pairwise_map.mp hids
    have hlookup := lookup_image himage hcount hactual
    -- equal answers for every ID give equal sets of records
    have hsub : ∀ r ∈ rs, r ∈ actual := by
      intro r hr
      by_cases hex : ∃ r' ∈ actual, r'.1 = r.1
      · obtain ⟨r', hr', hid⟩ := hex
        have hsame := ((hlookup r.1).1 r' hr' hid).symm.trans (h.lookup_mem r hr)
        simp only [Except.ok.injEq, Option.some.injEq, hexEncode32] at hsame
        have : r' = r := Prod.ext hid (FixedBytes.ext (hex_injective hsame))
        exact this ▸ hr'
      · have hnone := (hlookup r.1).2 fun r' hr' hid => hex ⟨r', hr', hid⟩
        rw [h.lookup_mem r hr] at hnone
        simp at hnone
    have hnodup : rs.Nodup := hsorted.imp fun {a b} hab heq => by
      rw [heq] at hab
      exact UInt64.lt_irrefl _ hab
    have hperm : rs.Perm actual :=
      (List.subperm_of_subset hnodup hsub).perm_of_length_le (by omega)
    have heq : rs = actual := hperm.eq_of_pairwise (fun a b _ _ hab hba =>
      absurd (UInt64.lt_trans hab hba) (UInt64.lt_irrefl _)) hsorted hactual
    exact ⟨heq.symm, heq ▸ hzero⟩
  · rintro ⟨rfl, hzero⟩
    have hlookup := lookup_image himage hcount hsorted
    exact ⟨hcount, (validate_image himage hcount).mpr ⟨List.pairwise_map.mpr hsorted, hzero⟩,
      fun r hr => (hlookup r.1).1 r hr rfl, fun id hid => (hlookup id).2 hid⟩

/-! ## Crash, inserts, sync, reopen -/

/-- The log opened from `file` after a crash, with `inserts` made and synced, holds the
    committed and the inserted records, and so does the log opened again. -/
def SurvivesCrash (path : String) (file : File) (committed : List IdentityRecord)
    (inserts : List (UInt64 × String)) : Prop :=
  ∃ log, «open» path file = .ok log ∧
    let r := run insertCall log inserts
    let held := committed ++ insertedRecords inserts r.1
    r.2.sync.Holds held ∧
    ∃ reopened, «open» path r.2.sync.file = .ok reopened ∧ reopened.Holds held

/-- `sync` commits, behind the committed records, as many records as were inserted:
    whatever the file holds there. -/
theorem sync_commits (log : TradeIdentityLog) (committed accepted : List IdentityRecord)
    {reserved rest : Bytes} (hreserved : reserved.length = 12)
    (hbytes : log.file.bytes = identityLogMagic ++ leBytes 4 identityLogVersion
      ++ leBytes 8 committed.length ++ reserved
      ++ (encodeRecords committed ++ (encodeRecords accepted ++ rest)))
    (hcount : log.count = committed.length + accepted.length)
    (hdirty : log.dirty = true ∨ accepted = []) :
    Commits log.sync.file (committed ++ accepted) rest ∧ log.sync.count = log.count := by
  unfold sync
  by_cases h : log.dirty = true
  · simp only [h, if_true, and_true]
    apply commits_headerBytes
    show headerBytes log.count ++ log.file.bytes.drop (headerBytes log.count).length = _
    rw [hbytes, headerBytes_length, List.drop_left' (by
      simp [hreserved, identityLogMagic, identityLogHeaderBytes]), hcount, encodeRecords_append,
      List.length_append, List.append_assoc]
  · obtain rfl : accepted = [] := hdirty.resolve_left h
    rw [if_neg h]
    refine ⟨⟨reserved, hreserved, ?_⟩, rfl⟩
    rw [hbytes]
    simp

/-- **Crash safety of the identity log, exactly**: the committed and the inserted records survive
    iff no digest is zero and the bytes right behind the committed records, once the inserts are
    appended, are the inserted records. -/
theorem survivesCrash_iff (path : String) (file : File) (committed : List IdentityRecord)
    (tail : Bytes) (inserts : List (UInt64 × String)) (hfile : Commits file committed tail)
    (hids : (committed.map (·.1) ++ inserts.map (·.1)).Pairwise (· < ·)) :
    SurvivesCrash path file committed inserts ↔
      (let accepted := acceptableInserts (room file) inserts
       NoZeroDigest (committed ++ accepted) ∧
       encodeRecords accepted <+: tail ++ encodeRecords accepted) := by
  obtain ⟨log, hopen, rfl, hcount, hlast, hclean⟩ := open_commits path hfile
  obtain ⟨reserved, hreserved, hbytes⟩ := hfile
  have hrunIds : (log.lastId.toList ++ inserts.map (·.1)).Pairwise (· < ·) := by
    refine hids.sublist (List.Sublist.append ?_ (List.Sublist.refl _))
    rw [hlast]
    rcases List.eq_nil_or_concat committed with rfl | ⟨front, last, rfl⟩ <;> simp
  obtain ⟨hresults, ⟨junk, hrunBytes⟩, hrunCount, hrunDirty⟩ := inserts_run inserts log hrunIds
  generalize haccepted : acceptableInserts (room log.file) inserts = accepted at *
  -- the records the file ends up with behind the committed ones
  obtain ⟨actual, hactualLen, hactual⟩ := exists_records accepted.length
    ((tail ++ encodeRecords accepted).take (encodeRecords accepted).length) (by
      rw [List.length_take, List.length_append, encodeRecords_length]
      omega)
  have hsplit : tail ++ (encodeRecords accepted ++ junk) = encodeRecords actual
      ++ ((tail ++ encodeRecords accepted).drop (encodeRecords accepted).length ++ junk) := by
    rw [hactual, ← List.append_assoc, ← List.append_assoc, List.take_append_drop]
  obtain ⟨hcommits, hsyncCount⟩ := sync_commits (run insertCall log inserts).2
    committed actual hreserved (by
      rw [hrunBytes, hbytes, ← hsplit]
      simp only [List.append_assoc]) (by rw [hrunCount, hcount, hactualLen]) (by
      refine hrunDirty.imp id fun h => ?_
      rw [h.1] at hactualLen
      exact List.length_eq_zero_iff.mp hactualLen)
  obtain ⟨reopened, hreopen, hfile', hcount', -, -⟩ := open_commits path hcommits
  have hsorted : (committed ++ accepted).Pairwise fun a b => a.1 < b.1 := by
    rw [← List.pairwise_map, List.map_append, ← haccepted]
    exact hids.sublist ((List.Sublist.refl _).append (acceptableInserts_ids ..))
  have hsame : encodeRecords accepted <+: tail ++ encodeRecords accepted ↔ actual = accepted := by
    rw [List.prefix_iff_eq_take, ← hactual]
    exact ⟨fun h => (encodeRecords_injective h).symm, fun h => by rw [h]⟩
  have hsynced := holds_iff _ hcommits.image (by simp [hsyncCount, hrunCount, hcount, hactualLen])
    (by simp [hactualLen]) hsorted
  have hagain := holds_iff reopened (hfile' ▸ hcommits.image) hcount'
    (by simp [hactualLen]) hsorted
  rw [List.append_cancel_left_eq] at hsynced hagain
  show _ ↔ NoZeroDigest (committed ++ accepted) ∧ _
  rw [hsame]
  refine ⟨?_, ?_⟩
  · rintro ⟨log', hopen', hheld, -⟩
    obtain rfl : log = log' := Except.ok.inj (hopen.symm.trans hopen')
    rw [hresults] at hheld
    exact (hsynced.mp hheld).symm
  · rintro ⟨hzero, rfl⟩
    refine ⟨log, hopen, ?_⟩
    simp only [hresults]
    exact ⟨hsynced.mpr ⟨rfl, hzero⟩, reopened, hreopen, hagain.mpr ⟨rfl, hzero⟩⟩

theorem sampleLog_length (record : UInt64 × FixedBytes 32) {tail : Bytes} (h : tail.length ≤ 1) :
    (headerBytes 1 ++ (encodeRecords [record] ++ tail)).length ≤ maxFileLength := by
  simp only [List.length_append, headerBytes_length, encodeRecords_length, maxFileLength,
    identityLogHeaderBytes, identityLogRecordBytes, List.length_cons, List.length_nil]
  omega

/-- A log of one committed record, followed by `tail`. -/
def sampleLog (tail : Bytes) (h : tail.length ≤ 1) : File :=
  ⟨headerBytes 1 ++ (encodeRecords [(5, ⟨List.replicate 32 17, rfl⟩)] ++ tail),
    sampleLog_length _ h⟩

/-- The digest text of the inserted record. -/
def sampleDigestHex : String :=
  "2222222222222222222222222222222222222222222222222222222222222222"

/-- With nothing behind the committed records the log survives an insert. -/
theorem clean_log_survives_an_insert :
    SurvivesCrash "identity.log" (sampleLog [] (by decide))
      [(5, ⟨List.replicate 32 17, rfl⟩)] [(7, sampleDigestHex)] := by
  refine (survivesCrash_iff "identity.log" _ _ [] _ (commits_headerBytes rfl) (by decide)).mpr ?_
  have haccepted : acceptableInserts (room (sampleLog [] (by decide))) [(7, sampleDigestHex)]
      = [(7, ⟨List.replicate 32 34, rfl⟩)] := by decide +kernel
  rw [haccepted]
  refine ⟨?_, List.prefix_refl _⟩
  intro r hr
  rcases List.mem_cons.mp hr with rfl | hr
  · decide
  · obtain rfl := List.mem_singleton.mp hr
    decide

/-- One torn byte behind the committed record loses the next insert: it returns `Ok`,
    and a lookup of its ID finds nothing. -/
theorem torn_byte_loses_an_insert :
    Commits (sampleLog [9] (by decide)) [(5, ⟨List.replicate 32 17, rfl⟩)] [9] ∧
    ¬ SurvivesCrash "identity.log" (sampleLog [9] (by decide))
      [(5, ⟨List.replicate 32 17, rfl⟩)] [(7, sampleDigestHex)] := by
  refine ⟨commits_headerBytes rfl, ?_⟩
  rintro ⟨log, hopen, hheld, -⟩
  have hlost : («open» "identity.log" (sampleLog [9] (by decide))).map (fun log =>
        let r := run insertCall log [(7, sampleDigestHex)]
        (insertedRecords [(7, sampleDigestHex)] r.1, r.2.sync.lookup 7))
      = .ok ([(7, ⟨List.replicate 32 34, rfl⟩)], .ok none) := by decide +kernel
  rw [hopen] at hlost
  simp only [Except.map, Except.ok.injEq, Prod.mk.injEq] at hlost
  have hfound := hheld.lookup_mem (7, ⟨List.replicate 32 34, rfl⟩) (by simp [hlost.1])
  rw [hlost.2] at hfound
  simp at hfound

end TradeIdentityLog

end LobReplay
