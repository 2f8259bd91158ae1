import NetReconcile.Decimal.Binary64
import NetReconcile.Text.Quoted

/-!
# JSON values

A JSON value keeps the kind of number it was read as: a non-negative integer, a
negative integer, or a binary64 number kept as its bit pattern. The kinds matter
because a decoder that expects an unsigned integer reports a fraction differently
from a negative integer. An object is a list of fields; read from text it is sorted
by key with one field per key.
-/

namespace NetReconcile.Json

/-- A number with the kind it was read as. -/
inductive Number where
  /-- A non-negative integer. -/
  | nat (n : Nat)
  /-- A negative integer. -/
  | neg (n : Int)
  /-- A binary64 number, as its bit pattern. -/
  | float (bits : UInt64)
  deriving DecidableEq, Repr, Inhabited

/-- A JSON value. -/
inductive Value where
  | null
  | bool (b : Bool)
  | num (n : Number)
  | str (s : String)
  | arr (items : List Value)
  | obj (fields : List (String × Value))
  deriving Repr, Inhabited

namespace Value

/-- A natural number value. -/
def ofNat (n : Nat) : Value := .num (.nat n)

/-- An integer value, negative ones as negative integers. -/
def ofInt (n : Int) : Value := if n ≥ 0 then .num (.nat n.toNat) else .num (.neg n)

/-- An optional string: `null` for none. -/
def ofOption (s : Option String) : Value := match s with
  | some s => .str s
  | none => .null

/-- The value of the first field named `key` of an object. -/
def field? (v : Value) (key : String) : Option Value :=
  match v with
  | .obj fs => (fs.find? (·.1 == key)).map (·.2)
  | _ => none

/-- The fields of an object, none for any other value. -/
def fields? : Value → Option (List (String × Value))
  | .obj fs => some fs
  | _ => none

/-- The text of a string value. -/
def str? : Value → Option String
  | .str s => some s
  | _ => none

/-- Whether a value is `null`. -/
def isNull : Value → Bool
  | .null => true
  | _ => false

/-- How a value is named when it is not what a decoder expects. -/
def unexpected : Value → String
  | .null => "null"
  | .bool b => s!"boolean `{b}`"
  | .num (.nat n) => s!"integer `{n}`"
  | .num (.neg n) => s!"integer `{n}`"
  | .num (.float b) => "floating point `" ++ Decimal.renderBits Decimal.Layout.quoted b ++ "`"
  | .str s => "string " ++ Text.quoted s
  | .arr _ => "sequence"
  | .obj _ => "map"

end Value

/-- Insert a field into a key-sorted field list, replacing a field of the same key. -/
def insertSorted (k : String) (v : Value) : List (String × Value) → List (String × Value)
  | [] => [(k, v)]
  | (k', v') :: rest =>
    if k = k' then (k, v) :: rest
    else if k < k' then (k, v) :: (k', v') :: rest
    else (k', v') :: insertSorted k v rest

/-- Fields sorted by key, a later field replacing an earlier one of the same key. -/
def sortFields (fs : List (String × Value)) : List (String × Value) :=
  fs.foldl (fun acc kv => insertSorted kv.1 kv.2 acc) []

/-- Shallow merge: each field of the patch replaces or adds the field of that key. -/
def mergeFields (base patch : List (String × Value)) : List (String × Value) :=
  patch.foldl (fun acc kv => insertSorted kv.1 kv.2 acc) (sortFields base)

/-- Four lowercase hexadecimal digits of a code unit. -/
def hex4 (n : Nat) : String :=
  let d (k : Nat) : Char := Nat.digitChar ((n / Nat.pow 16 k) % 16)
  String.ofList [d 3, d 2, d 1, d 0]

/-- A character inside a written string: quote, backslash and control characters escaped. -/
def escapeChar (c : Char) : String :=
  if c = '"' then "\\\""
  else if c = '\\' then "\\\\"
  else if c = '\n' then "\\n"
  else if c = '\r' then "\\r"
  else if c = '\t' then "\\t"
  else if c.toNat < 0x20 then "\\u" ++ hex4 c.toNat
  else String.singleton c

/-- A string written with quotes. -/
def writeString (s : String) : String :=
  "\"" ++ String.join (s.toList.map escapeChar) ++ "\""

/-- The text of a number. -/
def Number.write : Number → String
  | .nat n => toString n
  | .neg n => toString n
  | .float bits => Decimal.renderBits Decimal.Layout.quoted bits

/-- Compact text of a value, fields in their stored order. -/
def Value.write : Value → String
  | .null => "null"
  | .bool true => "true"
  | .bool false => "false"
  | .num n => n.write
  | .str s => writeString s
  | .arr items => "[" ++ ",".intercalate (items.attach.map fun ⟨x, _⟩ => x.write) ++ "]"
  | .obj fs =>
    "\x7b" ++ ",".intercalate (fs.attach.map fun ⟨kv, _⟩ => writeString kv.1 ++ ":" ++ kv.2.write) ++ "\x7d"
termination_by v => sizeOf v
decreasing_by
  all_goals simp_wf
  · have := List.sizeOf_lt_of_mem ‹_ ∈ items›; omega
  · rename_i h
    have := List.sizeOf_lt_of_mem h
    cases kv
    simp_all
    omega

end NetReconcile.Json
