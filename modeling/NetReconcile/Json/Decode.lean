import NetReconcile.Json.Value

/-!
# Decoding values into typed data

A decoder turns a JSON value into typed data or explains why it cannot. A record is
read from an object or from a list of its field values in order. From an object, the
fields are visited in key order and the first value that does not decode is reported;
only then is a missing field reported, the first one in field order. Unknown keys are
skipped, and a field may also be found under one of its aliases, but only once. From
a list, the items are decoded in field order, a missing item is reported by its
position, and items left over are refused.
-/

namespace NetReconcile.Json

/-- Why a value does not decode. -/
inductive DecodeError where
  /-- A value of the wrong kind, named, and what was expected. -/
  | invalidType (found expected : String)
  /-- A value of the right kind out of range, named, and what was expected. -/
  | invalidValue (found expected : String)
  /-- A list or object of the wrong length. -/
  | invalidLength (length : Nat) (expected : String)
  | missingField (field : String)
  | duplicateField (field : String)
  /-- A name that is none of the expected ones. -/
  | unknownVariant (variant : String) (expected : List String)
  /-- A message of its own. -/
  | custom (message : String)
  deriving DecidableEq, Repr

/-- The list of expected names: one, two joined by `or`, or `one of` a list. -/
def expectedNames : List String → String
  | [] => "there are no variants"
  | [a] => s!"`{a}`"
  | [a, b] => s!"`{a}` or `{b}`"
  | xs => "one of " ++ ", ".intercalate (xs.map fun x => s!"`{x}`")

/-- The text of a decoding error. -/
def DecodeError.message : DecodeError → String
  | .invalidType f e => s!"invalid type: {f}, expected {e}"
  | .invalidValue f e => s!"invalid value: {f}, expected {e}"
  | .invalidLength n e => s!"invalid length {n}, expected {e}"
  | .missingField f => s!"missing field `{f}`"
  | .duplicateField f => s!"duplicate field `{f}`"
  | .unknownVariant v es => s!"unknown variant `{v}`, expected {expectedNames es}"
  | .custom m => m

/-- A way to read typed data from a value. -/
abbrev Decoder (α : Type) := Value → Except DecodeError α

namespace Decode

/-- A string. -/
def string : Decoder String
  | .str s => .ok s
  | v => .error (.invalidType v.unexpected "a string")

/-- A boolean. -/
def bool : Decoder Bool
  | .bool b => .ok b
  | v => .error (.invalidType v.unexpected "a boolean")

/-- An unsigned integer below `2 ^ bits`, named `name` in errors. -/
def unsigned (name : String) (bits : Nat) : Decoder Nat
  | .num (.nat n) =>
    if n < Nat.pow 2 bits then .ok n else .error (.invalidValue s!"integer `{n}`" name)
  | .num (.neg n) => .error (.invalidValue s!"integer `{n}`" name)
  | v => .error (.invalidType v.unexpected name)

/-- A 64-bit unsigned integer. -/
def u64 : Decoder Nat := unsigned "u64" 64

/-- A 32-bit unsigned integer. -/
def u32 : Decoder UInt32 := fun v => Nat.toUInt32 <$> unsigned "u32" 32 v

/-- A 32-bit signed integer. -/
def i32 : Decoder Int32
  | .num (.nat n) =>
    if n < Nat.pow 2 31 then .ok (Int.toInt32 n) else .error (.invalidValue s!"integer `{n}`" "i32")
  | .num (.neg n) =>
    if n ≥ -(Int.pow 2 31) then .ok n.toInt32 else .error (.invalidValue s!"integer `{n}`" "i32")
  | v => .error (.invalidType v.unexpected "i32")

/-- An optional value: `null` is none. -/
def option (d : Decoder α) : Decoder (Option α)
  | .null => .ok none
  | v => some <$> d v

/-- One of several names, given as a string or as an object with that single key and a
`null` value. -/
def variant (names : List (String × α)) : Decoder α
  | .str s => pick s
  | .obj [(k, v)] =>
    match v with
    | .null => pick k
    | v => .error (.invalidType v.unexpected "unit variant")
  | .obj _ => .error (.invalidValue "map" "map with a single key")
  | v => .error (.invalidType v.unexpected "string or map")
where
  pick (s : String) : Except DecodeError α :=
    match names.find? (·.1 == s) with
    | some (_, a) => .ok a
    | none => .error (.unknownVariant s (names.map (·.1)))

end Decode

/-- A field of a record: its name, other names it may be found under, its position,
how its value decodes, and the value it takes when absent (none when required). -/
structure Field (α : Type) where
  name : String
  aliases : List String
  index : Nat
  decode : Decoder α
  absent : Option α

/-- A required field. -/
def Field.required (name : String) (index : Nat) (d : Decoder α) : Field α :=
  ⟨name, [], index, d, none⟩

/-- A field with a value for when it is absent. -/
def Field.withDefault (name : String) (index : Nat) (d : Decoder α) (dflt : α) : Field α :=
  ⟨name, [], index, d, some dflt⟩

/-- An optional field: absent or `null` is none. -/
def Field.optional (name : String) (index : Nat) (d : Decoder α) : Field (Option α) :=
  ⟨name, [], index, Decode.option d, some none⟩

/-- What visiting an object needs of a field: its names and a check of its value. -/
structure FieldCheck where
  names : List String
  check : Value → Option DecodeError

/-- Forget the type of a field, keeping its names and its check. -/
def Field.erase (f : Field α) : FieldCheck :=
  ⟨f.name :: f.aliases, fun v => match f.decode v with
    | .ok _ => none
    | .error e => some e⟩

/-- Where a record's field values are: an object's fields, or list items. -/
inductive Source where
  | fields (fs : List (String × Value))
  | items (xs : List Value) (expected : String)

/-- The value of a field from its source. -/
def Source.get (src : Source) (f : Field α) : Except DecodeError α :=
  match src with
  | .fields fs =>
    match fs.find? (fun kv => kv.1 == f.name || f.aliases.contains kv.1) with
    | some (_, v) => f.decode v
    | none => match f.absent with
      | some a => .ok a
      | none => .error (.missingField f.name)
  | .items xs expected =>
    match xs[f.index]? with
    | some v => f.decode v
    | none => match f.absent with
      | some a => .ok a
      | none => .error (.invalidLength f.index expected)

/-- Visit an object's fields in key order: the first value that fails its field's check,
or a field met a second time under another name, is the error. -/
def visitFields (checks : List FieldCheck) : List (String × Value) → List String →
    Option DecodeError
  | [], _ => none
  | (k, v) :: rest, seen =>
    match checks.find? (·.names.contains k) with
    | none => visitFields checks rest seen
    | some c =>
      let primary := c.names.headD k
      if seen.contains primary then some (.duplicateField primary)
      else match c.check v with
        | some e => some e
        | none => visitFields checks rest (primary :: seen)

/-- A record named `name` with the given fields, built by `build` from a source. -/
def record (name : String) (checks : List FieldCheck) (build : Source → Except DecodeError α) :
    Decoder α
  | .obj fs =>
    let sorted := sortFields fs
    match visitFields checks sorted [] with
    | some e => .error e
    | none => build (.fields sorted)
  | .arr xs => do
    let a ← build (.items xs s!"struct {name} with {checks.length} elements")
    if xs.length > checks.length then
      .error (.invalidLength xs.length "fewer elements in array")
    else .ok a
  | v => .error (.invalidType v.unexpected s!"struct {name}")

end NetReconcile.Json
