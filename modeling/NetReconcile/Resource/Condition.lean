import NetReconcile.Json.Decode

/-!
# Conditions and status tables

A managed resource is in one of four conditions. A provider reports its own status
word; a status table turns that word into a condition by looking it up in four lists,
checked in the order available, creating, deleting, unavailable, with a fallback for
words in none of them. Matching is exact.
-/

namespace NetReconcile.Resource

open Json

/-- The condition of a managed resource. -/
inductive Condition where
  | available
  | creating
  | deleting
  | unavailable
  deriving DecidableEq, Repr, Inhabited

/-- The name of a condition on the wire. -/
def Condition.name : Condition → String
  | .available => "Available"
  | .creating => "Creating"
  | .deleting => "Deleting"
  | .unavailable => "Unavailable"

/-- The conditions with their names, in declaration order. -/
def Condition.all : List (String × Condition) :=
  [("Available", .available), ("Creating", .creating), ("Deleting", .deleting),
   ("Unavailable", .unavailable)]

/-- A condition read from its name. -/
def Condition.decode : Decoder Condition := Decode.variant Condition.all

/-- A condition as a value. -/
def Condition.encode (c : Condition) : Value := .str c.name

/-- A table from provider status words to conditions. -/
structure StatusTable where
  available : List String
  creating : List String
  deleting : List String
  unavailable : List String
  otherwise : Condition
  deriving DecidableEq, Repr

/-- The condition of a status word: the first list holding it decides. -/
def StatusTable.condition (t : StatusTable) (raw : String) : Condition :=
  if t.available.contains raw then .available
  else if t.creating.contains raw then .creating
  else if t.deleting.contains raw then .deleting
  else if t.unavailable.contains raw then .unavailable
  else t.otherwise

/-- A table giving every word the same condition. -/
def StatusTable.constant (c : Condition) : StatusTable := ⟨[], [], [], [], c⟩

/-- A constant table gives its condition to every word. -/
@[simp] theorem StatusTable.condition_constant (c : Condition) (raw : String) :
    (StatusTable.constant c).condition raw = c := by
  simp [StatusTable.condition, StatusTable.constant]

end NetReconcile.Resource
