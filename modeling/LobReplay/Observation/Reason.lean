/-
  The reasons a depth window can fail for. A window that replays all of its records and has no
  observation fails with a text of its own; no error of a record, of the snapshot or of the book has
  that text. So the text of a failed window tells which of the two it was.
-/

import LobReplay.Observation.Materialize

namespace LobReplay.Observation

open Foundation Book
open Raw (requiredStr requiredU64)

/-- The text of a window that stayed behind its snapshot. -/
def neverLive : String := "depth window never reached LIVE"

/-- The characters of that text. -/
def neverLiveChars : List Char :=
  ['d', 'e', 'p', 't', 'h', ' ', 'w', 'i', 'n', 'd', 'o', 'w', ' ', 'n', 'e', 'v', 'e', 'r', ' ',
    'r', 'e', 'a', 'c', 'h', 'e', 'd', ' ', 'L', 'I', 'V', 'E']

theorem neverLive_toList : neverLive.toList = neverLiveChars :=
  String.toList_ofList

/-- The text differs from that of a window without observations, whatever follows it. -/
def Unlike (message : String) : Prop := ¬ message.toList <+: neverLive.toList

variable {cs : List Char}

/-- A text literal is compared by its characters. -/
theorem unlike_ofList (h : ¬ cs <+: neverLiveChars) : Unlike (String.ofList cs) := by
  unfold Unlike
  rw [String.toList_ofList, neverLive_toList]
  exact h

theorem unlike_ofList_append {ds : List Char} (h : ¬ cs ++ ds <+: neverLiveChars) :
    Unlike (String.ofList cs ++ String.ofList ds) := by
  unfold Unlike
  rw [String.toList_append, String.toList_ofList, String.toList_ofList, neverLive_toList]
  exact h

theorem unlike_append {message : String} (h : Unlike message) (rest : String) :
    Unlike (message ++ rest) := by
  intro hpre
  apply h
  rw [String.toList_append] at hpre
  exact (List.prefix_append _ _).trans hpre

/-- The call does not end in the text of a window without observations. -/
def Apart {α : Type} (x : Result α) : Prop := x ≠ err neverLive

/-! ## Rules -/

section

variable {α β : Type} {message : String} {x : Result α} {f : α → Result β} {e : Failure}

theorem apart_ok (a : α) : Apart (.ok a : Result α) := by
  intro h
  cases h

theorem apart_err (h : Unlike message) : Apart (err message : Result α) := by
  intro heq
  obtain rfl : message = neverLive := by simpa [err] using heq
  exact h (List.prefix_refl _)

theorem apart_okOr (o : Option α) (h : Unlike message) : Apart (okOr o message) := by
  cases o
  · exact apart_err h
  · exact apart_ok _

theorem apart_bind (hx : Apart x) (hf : ∀ a, Apart (f a)) : Apart (x >>= f) := by
  rcases x with e | a
  · intro h
    exact hx (congrArg Except.error (Except.error.inj h))
  · exact hf a

theorem apart_ite {c : Prop} [Decidable c] {y : Result α} (hx : Apart x) (hy : Apart y) :
    Apart (if c then x else y) := by
  split
  · exact hx
  · exact hy

theorem apart_map {f : α → β} (hx : Apart x) : Apart (x.map f) := by
  rcases x with e | a
  · intro h
    exact hx (congrArg Except.error (Except.error.inj h))
  · exact apart_ok _

theorem apart_error (hx : Apart x) (h : x = .error e) : Apart (.error e : Result β) := by
  intro heq
  exact hx (h.trans (congrArg Except.error (Except.error.inj heq)))

theorem apart_ne (hx : Apart x) (h : x = .error e) : e ≠ .err neverLive := by
  rintro rfl
  exact hx h

theorem apart_mapM (hf : ∀ a, Apart (f a)) (xs : List α) : Apart (xs.mapM f) := by
  induction xs with
  | nil => exact apart_ok _
  | cons x rest ih =>
    rw [List.mapM_cons]
    exact apart_bind (hf x) fun _ => apart_bind ih fun _ => apart_ok _

end

/-! ## The book -/

section

variable (codec : BookCodec)

theorem apart_parse (debug : String → String) (text : String) :
    Apart (FixedDecimal.parse debug text) := by
  unfold FixedDecimal.parse
  refine apart_ite (apart_err (unlike_append (unlike_ofList (by decide)) _)) ?_
  dsimp only
  split
  · exact apart_err (unlike_ofList (by decide))
  refine apart_ite (apart_err (unlike_append (unlike_ofList (by decide)) _)) ?_
  split
  · exact apart_err (unlike_append (unlike_ofList (by decide)) _)
  refine apart_ite (apart_err (unlike_append (unlike_ofList (by decide)) _)) ?_
  unfold FixedDecimal.ofDigits
  refine apart_ite (apart_err (unlike_ofList (by decide))) ?_
  split
  · exact apart_err (unlike_ofList (by decide))
  · exact apart_ok _

theorem apart_requiredU64 (value : Value) (field : String) : Apart (requiredU64 value field) :=
  apart_okOr _ (unlike_append (unlike_ofList (by decide)) _)

theorem apart_requiredStr (value : Value) (field : String) : Apart (requiredStr value field) :=
  apart_okOr _ (unlike_append (unlike_ofList (by decide)) _)

theorem apart_parseLevel (side : String) (value : Value) :
    Apart (parseLevel codec side value) := by
  have hside (rest : String) : Unlike ("invalid " ++ side ++ rest) :=
    unlike_append (unlike_append (unlike_ofList (by decide)) _) _
  unfold parseLevel
  split
  · refine apart_bind (apart_okOr _ (hside _)) fun _ => ?_
    refine apart_bind (apart_parse _ _) fun _ => ?_
    refine apart_bind (apart_okOr _ (hside _)) fun _ => ?_
    refine apart_bind (apart_parse _ _) fun _ => ?_
    exact apart_ite (apart_err (hside _)) (apart_ok _)
  · exact apart_err (hside _)

theorem apart_loadLevels (side : String) (values : List Value) (result : Side) :
    Apart (loadLevels codec side values result) := by
  induction values generalizing result with
  | nil => exact apart_ok _
  | cons value rest ih =>
    unfold loadLevels
    refine apart_bind (apart_parseLevel codec side value) fun level => ?_
    refine apart_ite (ih _) (apart_ite (apart_err ?_) (ih _))
    exact unlike_append (unlike_append (unlike_ofList (by decide)) _) _

theorem apart_loadSide (side : String) (value : Option Value) :
    Apart (loadSide codec side value) := by
  refine apart_bind (apart_okOr _ (unlike_append (unlike_append (unlike_ofList (by decide)) _) _)) fun _ => ?_
  refine apart_bind (apart_loadLevels codec side _ _) fun _ => ?_
  exact apart_ite (apart_err (unlike_append (unlike_append (unlike_ofList (by decide)) _) _)) (apart_ok _)

namespace LocalOrderBook

open Book.LocalOrderBook

variable (book : LocalOrderBook)

theorem apart_new (symbol : String) : Apart (new symbol) :=
  apart_ite (apart_err (unlike_append (unlike_ofList (by decide)) _)) (apart_ok _)

theorem apart_checkInvariants : Apart book.checkInvariants.1 := by
  unfold checkInvariants bestBid bestAsk
  rcases book.bids.keys.getLast? with _ | bid
  · exact apart_err (unlike_ofList (by decide))
  rcases book.asks.keys.head? with _ | ask
  · exact apart_err (unlike_ofList (by decide))
  simp only [okOr]
  split
  · exact apart_ok _
  · exact apart_err (unlike_append (unlike_append (unlike_append (unlike_ofList (by decide)) _) _) _)

theorem apart_loadSnapshot (payload : Bytes) : Apart (book.loadSnapshot codec payload).1 := by
  unfold loadSnapshot
  split
  · exact apart_err (unlike_ofList (by decide))
  split
  · exact apart_err (unlike_append (unlike_ofList (by decide)) _)
  split
  · next h => exact apart_error (apart_requiredU64 _ _) h
  split
  · next h => exact apart_error (apart_loadSide codec _ _) h
  dsimp only
  split
  · next h => exact apart_error (apart_loadSide codec _ _) h
  · exact apart_map (apart_checkInvariants _)

theorem apart_expectedId : Apart book.expectedId :=
  apart_bind (apart_okOr _ (unlike_ofList (by decide))) fun _ => apart_ite (apart_err (unlike_ofList (by decide))) (apart_ok _)

theorem apart_depthIds (value : Value) : Apart (book.depthIds value) := by
  unfold LocalOrderBook.depthIds
  refine apart_ite (apart_err (unlike_ofList (by decide))) ?_
  refine apart_bind (apart_requiredStr _ _) fun _ => apart_ite (apart_err (unlike_ofList (by decide))) ?_
  refine apart_bind (apart_requiredStr _ _) fun _ => apart_ite (apart_err (unlike_ofList (by decide))) ?_
  refine apart_bind (apart_requiredU64 _ _) fun _ => apart_bind (apart_requiredU64 _ _) fun _ => ?_
  refine apart_ite (apart_err (unlike_ofList (by decide))) ?_
  exact apart_bind (apart_expectedId book) fun _ => apart_ok _

theorem apart_depthLevels (value : Value) : Apart (depthLevels codec value) := by
  refine apart_bind (apart_okOr _ (unlike_ofList (by decide))) fun _ => ?_
  refine apart_bind (apart_okOr _ (unlike_ofList (by decide))) fun _ => ?_
  refine apart_bind (apart_mapM (apart_parseLevel codec _) _) fun _ => ?_
  exact apart_bind (apart_mapM (apart_parseLevel codec _) _) fun _ => apart_ok _

theorem apart_prepareDepthValue (value : Value) :
    Apart (book.prepareDepthValue codec value).1 := by
  unfold prepareDepthValue
  split
  · next h => exact apart_error (apart_depthIds book value) h
  split
  · exact apart_ok _
  split
  · exact apart_err (unlike_append (unlike_append (unlike_append (unlike_append
      (unlike_append (unlike_ofList (by decide)) _) _) _) _) _)
  · exact apart_map (apart_depthLevels codec value)

theorem apart_applyPreparedDepth (update : PreparedDepthUpdate) :
    Apart (book.applyPreparedDepth codec update).1 := by
  unfold applyPreparedDepth
  split
  · exact apart_err (unlike_ofList (by decide))
  split
  · next h => exact apart_error (apart_expectedId book) h
  split
  · split
    · exact apart_err (unlike_ofList (by decide))
    · exact apart_ok _
  · split
    · exact apart_err (unlike_ofList (by decide))
    · exact apart_map (apart_checkInvariants _)

theorem apart_applyDepth (payload : Bytes) : Apart (book.applyDepth codec payload).1 := by
  unfold applyDepth
  split
  · exact apart_err (unlike_append (unlike_ofList (by decide)) _)
  · next value _ =>
    unfold applyDepthValue
    have hprepare := apart_prepareDepthValue codec book value
    rcases hvalue : book.prepareDepthValue codec value with ⟨e | prepared, next⟩
    · exact apart_error hprepare (congrArg Prod.fst hvalue)
    · exact apart_applyPreparedDepth codec next prepared

end LocalOrderBook

/-! ## Records -/

theorem apart_strictObject {label : String} (payload : Bytes) (h : Unlike (label ++ " payload ")) :
    Apart (strictObject codec payload label) := by
  have hlabel (rest : String) : Unlike (label ++ (" payload " ++ rest)) := by
    rw [← String.append_assoc]
    exact unlike_append h rest
  unfold strictObject
  split
  · exact apart_err (unlike_append (hlabel "is not valid JSON: ") _)
  · exact apart_ite (apart_ok _) (apart_err (hlabel "root must be object"))

theorem apart_fieldU64 (value : Value) (field : String) : Apart (fieldU64 value field) :=
  apart_okOr _ (unlike_append (unlike_ofList (by decide)) _)

theorem apart_serverShutdownPayload (payload : Bytes) :
    Apart (serverShutdownPayload codec payload) := by
  refine apart_bind (apart_strictObject codec payload (unlike_ofList_append (by decide))) fun _ => ?_
  exact apart_ite (apart_ok _) (apart_bind (apart_fieldU64 _ _) fun _ => apart_ok _)

theorem apart_recordIds (payload : Bytes) : Apart (depthIds codec payload) := by
  refine apart_bind (apart_strictObject codec payload (unlike_ofList_append (by decide))) fun _ => ?_
  refine apart_ite (apart_err (unlike_ofList (by decide))) ?_
  exact apart_bind (apart_fieldU64 _ _) fun _ => apart_bind (apart_fieldU64 _ _) fun _ => apart_ok _

/-- **No record of a window fails with the text of a window without observations.** -/
theorem apart_depthWindowLoop (identity : RecordIdentity)
    (records : List Raw.RawRecordEnvelopeV1) (book : LocalOrderBook)
    (observations : List CanonicalObservationV1) :
    Apart (depthWindowLoop codec identity records book observations) := by
  induction records generalizing book observations with
  | nil => exact apart_ok _
  | cons record rest ih =>
    unfold depthWindowLoop
    split
    · next h => exact apart_error (apart_serverShutdownPayload codec _) h
    · exact ih _ _
    split
    · next h => exact apart_error (apart_recordIds codec _) h
    have happly := LocalOrderBook.apart_applyDepth codec book record.frame.payload
    rcases hbook : book.applyDepth codec record.frame.payload with ⟨e | _ | _, next⟩
    · exact apart_error happly (congrArg Prod.fst hbook)
    · exact ih _ _
    · exact apart_ite (apart_err (unlike_ofList (by decide))) (ih _ _)

end

end LobReplay.Observation
