/-
  JSON values as `serde_json::Value` holds them, the accessors the readers use (`get`, `as_str`,
  `as_u64`, `as_i64`, `as_bool`, `as_array`), the compact text `to_vec` writes, and the comparison
  of two values.
-/

import LobReplay.Common

namespace LobReplay

open Foundation

/-- `serde_json::Number`: an integer keeps its sign class, a float its bits. -/
inductive Number where
  | posInt (n : UInt64)
  | negInt (n : Int)
  | float (bits : UInt64)
  deriving DecidableEq

/-- `serde_json::Value`. An object is the sorted list of its members. -/
inductive Value where
  | null
  | bool (b : Bool)
  | number (n : Number)
  | string (s : String)
  | array (items : List Value)
  | object (members : List (String × Value))

namespace Value

/-- `Value::get` with a string key: `None` on anything but an object. -/
def get (v : Value) (key : String) : Option Value :=
  match v with
  | object members => members.lookup key
  | _ => none

/-- `Value::as_str`. -/
def asStr : Value → Option String
  | string s => some s
  | _ => none

/-- `Value::as_u64`: a nonnegative integer, never a float. -/
def asU64 : Value → Option UInt64
  | number (.posInt n) => some n
  | _ => none

/-- `Value::as_i64`: an integer in the range of `i64`. -/
def asI64 : Value → Option Int
  | number (.posInt n) => if n.toNat < 2 ^ 63 then some n.toNat else none
  | number (.negInt n) => some n
  | _ => none

/-- `Value::as_bool`. -/
def asBool : Value → Option Bool
  | bool b => some b
  | _ => none

/-- `Value::as_array`. -/
def asArray : Value → Option (List Value)
  | array items => some items
  | _ => none

/-- `Value::is_object`. -/
def isObject : Value → Bool
  | object _ => true
  | _ => false

/-- `payload.get(field).and_then(Value::as_str)`. -/
def strField (v : Value) (field : String) : Option String := (v.get field).bind asStr

/-- `payload.get(field).and_then(Value::as_u64)`. -/
def u64Field (v : Value) (field : String) : Option UInt64 := (v.get field).bind asU64

/-- `value[field].as_i64()`. -/
def i64Field (v : Value) (field : String) : Option Int := (v.get field).bind asI64

/-- One byte of a JSON string, escaped as serde_json escapes it. -/
def escapeByte (b : UInt8) : Bytes :=
  if b < 32 then
    if b = 8 then asBytes "\\b"
    else if b = 9 then asBytes "\\t"
    else if b = 10 then asBytes "\\n"
    else if b = 12 then asBytes "\\f"
    else if b = 13 then asBytes "\\r"
    else asBytes "\\u00" ++ asBytes (hex [b])
  else if b = 34 then asBytes "\\\""
  else if b = 92 then asBytes "\\\\"
  else [b]

/-- A JSON string literal. -/
def quote (s : String) : Bytes := 34 :: (asBytes s).flatMap escapeByte ++ [34]

mutual

/-- The compact text of a value, as `serde_json::to_vec` writes it. Floats, which no record
    of the journals carries, are written as their bits. -/
def toVec : Value → Bytes
  | null => asBytes "null"
  | bool true => asBytes "true"
  | bool false => asBytes "false"
  | number (.posInt n) => asBytes (toString n.toNat)
  | number (.negInt n) => asBytes (toString n)
  | number (.float bits) => asBytes (toString bits.toNat)
  | string s => quote s
  | array items => 91 :: toVecItems items
  | object members => 123 :: toVecMembers members

/-- The items of an array and the closing bracket. -/
def toVecItems : List Value → Bytes
  | [] => [93]
  | [v] => toVec v ++ [93]
  | v :: rest => toVec v ++ 44 :: toVecItems rest

/-- The members of an object and the closing brace. -/
def toVecMembers : List (String × Value) → Bytes
  | [] => [125]
  | [(key, v)] => quote key ++ 58 :: (toVec v ++ [125])
  | (key, v) :: rest => quote key ++ 58 :: (toVec v ++ 44 :: toVecMembers rest)

end

mutual

/-- `Value::eq`. -/
def beq : Value → Value → Bool
  | null, null => true
  | bool a, bool b => a == b
  | number a, number b => decide (a = b)
  | string a, string b => decide (a = b)
  | array a, array b => beqItems a b
  | object a, object b => beqMembers a b
  | _, _ => false

/-- Items compared in order. -/
def beqItems : List Value → List Value → Bool
  | [], [] => true
  | v :: rest, w :: others => beq v w && beqItems rest others
  | _, _ => false

/-- Members compared in order, key and value. -/
def beqMembers : List (String × Value) → List (String × Value) → Bool
  | [], [] => true
  | (key, v) :: rest, (name, w) :: others =>
    decide (key = name) && beq v w && beqMembers rest others
  | _, _ => false

end

mutual

theorem beq_iff : ∀ a b : Value, beq a b = true ↔ a = b
  | null, b => by cases b <;> simp [beq]
  | bool _, b => by cases b <;> simp [beq]
  | number _, b => by cases b <;> simp [beq]
  | string _, b => by cases b <;> simp [beq]
  | array items, b => by
    cases b with
    | array others => simp [beq, beqItems_iff items others]
    | _ => simp [beq]
  | object members, b => by
    cases b with
    | object others => simp [beq, beqMembers_iff members others]
    | _ => simp [beq]

theorem beqItems_iff : ∀ items others : List Value, beqItems items others = true ↔ items = others
  | [], others => by cases others <;> simp [beqItems]
  | v :: rest, others => by
    cases others with
    | nil => simp [beqItems]
    | cons w others => simp [beqItems, beq_iff v w, beqItems_iff rest others]

theorem beqMembers_iff : ∀ members others : List (String × Value),
    beqMembers members others = true ↔ members = others
  | [], others => by cases others <;> simp [beqMembers]
  | (key, v) :: rest, others => by
    cases others with
    | nil => simp [beqMembers]
    | cons w others =>
      obtain ⟨name, w⟩ := w
      simp [beqMembers, beq_iff v w, beqMembers_iff rest others, and_assoc]

end

instance : DecidableEq Value := fun a b => decidable_of_iff _ (beq_iff a b)

/-- A nonnegative integer. -/
def nat (n : UInt64) : Value := number (.posInt n)

end Value

end LobReplay
