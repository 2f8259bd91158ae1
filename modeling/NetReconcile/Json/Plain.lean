import NetReconcile.Json.Value

/-!
# Plain JSON forms

A plain form is an object with a fixed set of keys, each optional: an absent key reads
as the empty text, `false` or zero. A key outside the set, or a value of the wrong kind,
is refused with a message naming the key. Plain forms are written with every key.
-/

namespace NetReconcile.Json.Plain

/-- The fields of a plain form, refusing keys outside `known`. -/
def fields (what : String) (known : List String) : Value → Except String (List (String × Value))
  | .obj fs =>
    match fs.find? (fun kv => !known.contains kv.1) with
    | some (k, _) => .error s!"unknown field {k} in {what}"
    | none => .ok fs
  | _ => .error s!"{what} must be an object"

/-- A text under `key`, empty when absent. -/
def text (fs : List (String × Value)) (key : String) : Except String String :=
  match fs.find? (·.1 == key) with
  | none => .ok ""
  | some (_, .str s) => .ok s
  | some _ => .error s!"field {key} must be a string"

/-- A flag under `key`, false when absent. -/
def flag (fs : List (String × Value)) (key : String) : Except String Bool :=
  match fs.find? (·.1 == key) with
  | none => .ok false
  | some (_, .bool b) => .ok b
  | some _ => .error s!"field {key} must be a boolean"

/-- An unsigned integer below `2 ^ bits` under `key`, zero when absent. -/
def unsigned (bits : Nat) (fs : List (String × Value)) (key : String) : Except String Nat :=
  match fs.find? (·.1 == key) with
  | none => .ok 0
  | some (_, .num (.nat n)) =>
    if n < Nat.pow 2 bits then .ok n else .error s!"field {key} is out of range"
  | some _ => .error s!"field {key} must be an unsigned integer"

/-- A signed integer within `bits` bits under `key`, zero when absent. -/
def signed (bits : Nat) (fs : List (String × Value)) (key : String) : Except String Int :=
  match fs.find? (·.1 == key) with
  | none => .ok 0
  | some (_, .num (.nat n)) =>
    if n < Nat.pow 2 (bits - 1) then .ok n else .error s!"field {key} is out of range"
  | some (_, .num (.neg n)) =>
    if n ≥ -(Int.pow 2 (bits - 1)) then .ok n else .error s!"field {key} is out of range"
  | some _ => .error s!"field {key} must be an integer"

end NetReconcile.Json.Plain

namespace NetReconcile.Json

/-- A field written only when set. -/
def optionalField (key : String) : Option String → List (String × Value)
  | some s => [(key, .str s)]
  | none => []

end NetReconcile.Json
