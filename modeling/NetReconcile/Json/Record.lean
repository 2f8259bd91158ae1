import NetReconcile.Json.Reader

/-!
# Reading whole texts

A text holds one value and nothing after it but whitespace. Besides reading any value,
a text can be read as a record whose fields are all strings: either an object keyed by
the field names, where unknown keys are skipped and a key may appear once, or a list
of the field values in order. A missing or repeated field, a list too short, or a value
of another kind is a shape fault, placed where the record ends.
-/

namespace NetReconcile.Json

namespace Scan

/-- Nothing but whitespace may follow a value. -/
def finish : Scan Unit := do
  match ← blanks with
  | some _ => failAhead .trailingCharacters
  | none => pure ()

/-- The values of a record's fields, read from a list in field order. -/
def recordItems (name : String) (count : Nat) : List String → Nat → List String → Scan (List String)
  | [], _, acc => pure acc.reverse
  | _ :: rest, i, acc => do
    if ← value.hasElement (i == 0) then
      let v ← expectString "a string"
      recordItems name count rest (i + 1) (v :: acc)
    else failShape s!"invalid length {i}, expected struct {name} with {count} elements"

/-- Set the value found for the field at an index. -/
def setAt : List (Option String) → Nat → String → List (Option String)
  | [], _, _ => []
  | _ :: rest, 0, v => some v :: rest
  | x :: rest, i + 1, v => x :: setAt rest i v

/-- The values of a record's fields, read from an object. -/
def recordMembers (fields : List String) :
    Nat → Bool → List (Option String) → Scan (List String)
  | 0, _, _ => failAhead .eofWhileParsingObject
  | fuel + 1, first, found => do
    match ← value.nextKey first with
    | none =>
      (fields.zip found).foldlM (fun acc (f, v) =>
        match v with
        | some v => pure (acc ++ [v])
        | none => failShape s!"missing field `{f}`") []
    | some k =>
      match fields.idxOf? k with
      | some i =>
        if (found[i]?).join.isSome then failShape s!"duplicate field `{k}`" else
        value.colon
        let v ← expectString "a string"
        recordMembers fields fuel false (setAt found i v)
      | none =>
        value.colon
        skipValue fuel []
        recordMembers fields fuel false found

/-- Read a record of string fields named `name`, with its fields in order. -/
def stringRecord (name : String) (fields : List String) : Scan (List String) := do
  match ← blanks with
  | none => failAhead .eofWhileParsingValue
  | some b =>
    placed do
    if b == 0x5B then
      eat
      let items ← attempt (recordItems name fields.length fields 0 [])
      let close ← attempt value.closeList
      match items, close with
      | .ok items, .ok () => pure items
      | .error e, _ => throw e
      | _, .error e => throw e
    else if b == 0x7B then
      eat
      let fuel := 2 * (← get).rest.length + 2
      let items ← attempt (recordMembers fields fuel true (fields.map fun _ => none))
      let close ← attempt value.closeObject
      match items, close with
      | .ok items, .ok () => pure items
      | .error e, _ => throw e
      | _, .error e => throw e
    else mismatch s!"struct {name}"

end Scan

/-- Read a text holding one JSON value. -/
def Value.read (text : String) : Except ReadError Value :=
  let c := Cursor.ofString text
  let fuel := 2 * c.rest.length + 4
  (Id.run ((do let v ← Scan.value 128 fuel; Scan.finish; pure v : Scan Value).run.run c)).1

/-- Read a text holding one record of string fields. -/
def readStringRecord (name : String) (fields : List String) (text : String) :
    Except ReadError (List String) :=
  (Id.run ((do let v ← Scan.stringRecord name fields; Scan.finish; pure v : Scan (List String)).run.run
    (Cursor.ofString text))).1

end NetReconcile.Json
