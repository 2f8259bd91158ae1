import NetReconcile.Json.Decode

/-!
# Answers to requests

A request is a JSON object; its answer is a JSON object too. A failed request is
answered with the dotted name of the error's kind and its message; some answers carry
further fields, and a few kinds are reported without a message. A request that lacks
what it needs is answered as bad input; a value that does not decode into its type is
answered with the decoding message.
-/

namespace NetReconcile.Service

open Json

/-- A failed request: the dotted kind of its error, the message if one is reported, and
further fields of the answer. -/
structure Failure where
  kind : String
  message : Option String
  extra : List (String × Value)

/-- A failure with a kind and a message. -/
def Failure.of (kind message : String) : Failure := ⟨kind, some message, []⟩

/-- A request that lacks what it needs. -/
def Failure.badInput (message : String) : Failure := Failure.of "BadInput" message

/-- A value that does not decode into its type. -/
def Failure.ofDecode (e : DecodeError) : Failure := Failure.of "Deserialize" e.message

/-- The answer of a failure. -/
def Failure.toValue (f : Failure) : Value :=
  .obj ([("error", .str f.kind)] ++
    (match f.message with
      | some m => [("message", .str m)]
      | none => []) ++ f.extra)

/-- The outcome of a request. -/
abbrev Reply := Except Failure Value

/-- The answer of an outcome. -/
def Reply.toValue : Reply → Value
  | .ok v => v
  | .error f => f.toValue

/-- A field of the request. -/
def need (req : Value) (key : String) : Except Failure Value :=
  match req.field? key with
  | some v => .ok v
  | none => .error (.badInput s!"missing field {key}")

/-- A text field of the request. -/
def needText (req : Value) (key : String) : Except Failure String := do
  match ← need req key with
  | .str s => .ok s
  | _ => .error (.badInput s!"field {key} must be a string")

/-- An optional text field of the request; absent and `null` are none. -/
def optText (req : Value) (key : String) : Except Failure (Option String) :=
  match req.field? key with
  | none | some .null => .ok none
  | some (.str s) => .ok (some s)
  | some _ => .error (.badInput s!"field {key} must be a string")

/-- A list field of the request. -/
def needList (req : Value) (key : String) : Except Failure (List Value) := do
  match ← need req key with
  | .arr xs => .ok xs
  | _ => .error (.badInput s!"field {key} must be a list")

/-- A flag field of the request; absent is false. -/
def optFlag (req : Value) (key : String) : Except Failure Bool :=
  match req.field? key with
  | none | some .null => .ok false
  | some (.bool b) => .ok b
  | some _ => .error (.badInput s!"field {key} must be a boolean")

/-- Decode a value, answering a decoding failure. -/
def decodeWith (d : Decoder α) (v : Value) : Except Failure α :=
  match d v with
  | .ok a => .ok a
  | .error e => .error (.ofDecode e)

/-- A list of texts as a value. -/
def textList (xs : List String) : Value := .arr (xs.map .str)

end NetReconcile.Service
