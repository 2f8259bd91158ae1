import NetReconcile.Json.Decode
import NetReconcile.Resource.Condition
import NetReconcile.Time.Timestamp

/-!
# Status written back after a cycle

After each cycle the engine writes back the resource's condition, whether the cycle
succeeded (with the error's text when it did not) and when that was recorded, and the
provider's observation.

The JSON form of a sync status is one object: `reason` is `ReconcileSuccess` or
`ReconcileError`, an error adds its `message`, and `lastTransitionTime` is the time.
Reading it first looks for the time among the object's fields and only then at the
reason; other fields are ignored.
-/

namespace NetReconcile.Resource

open Json Time

/-- Outcome of the latest cycle. -/
inductive SyncState where
  | success
  | failure (message : String)
  deriving DecidableEq, Repr

/-- The outcome of the latest cycle and when it was recorded. -/
structure SyncStatus where
  state : SyncState
  time : Timestamp
  deriving DecidableEq, Repr

namespace SyncStatus

/-- Whether the latest cycle succeeded. -/
def isSuccess (s : SyncStatus) : Bool :=
  match s.state with
  | .success => true
  | .failure _ => false

/-- The names of the outcomes, in order. -/
def reasons : List String := ["ReconcileSuccess", "ReconcileError"]

/-- A timestamp read from its text. -/
def decodeTime : Decoder Timestamp
  | .str s =>
    match Timestamp.read s with
    | .ok t => .ok t
    | .error e => .error (.custom e.message)
  | v => .error (.invalidType v.unexpected "an RFC 3339 formatted date and time string")

/-- The outcome named by a reason, given by name or by position. -/
def decodeReason : Decoder Bool
  | .str "ReconcileSuccess" => .ok true
  | .str "ReconcileError" => .ok false
  | .str s => .error (.unknownVariant s reasons)
  | .num (.nat 0) => .ok true
  | .num (.nat 1) => .ok false
  | .num (.nat n) => .error (.invalidValue s!"integer `{n}`" "variant index 0 <= i < 2")
  | v => .error (.invalidType v.unexpected "variant identifier")

/-- A sync status read from its JSON form. -/
def decode : Decoder SyncStatus
  | .obj fs => do
    let fs := sortFields fs
    let time ← match fs.find? (·.1 == "lastTransitionTime") with
      | some (_, v) => decodeTime v
      | none => .error (.missingField "lastTransitionTime")
    let rest := fs.filter (·.1 != "lastTransitionTime")
    let success ← match rest.find? (·.1 == "reason") with
      | some (_, v) => decodeReason v
      | none => .error (.missingField "reason")
    if success then return ⟨.success, time⟩
    match rest.find? (·.1 == "message") with
    | some (_, v) => return ⟨.failure (← Decode.string v), time⟩
    | none => .error (.missingField "message")
  | v => .error (.invalidType v.unexpected "struct SyncStatus")

/-- The JSON form of the outcome alone. -/
def stateFields : SyncState → List (String × Value)
  | .success => [("reason", .str "ReconcileSuccess")]
  | .failure m => [("reason", .str "ReconcileError"), ("message", .str m)]

/-- The JSON form of a sync status. -/
def encode (s : SyncStatus) : Value :=
  .obj (stateFields s.state ++ [("lastTransitionTime", .str s.time.write)])

end SyncStatus

/-- The status of a resource: its condition, the latest cycle's outcome, and the
provider's observation. -/
structure ResourceStatus (O : Type) where
  condition : Option Condition
  synced : Option SyncStatus
  atProvider : O
  deriving DecidableEq, Repr

namespace ResourceStatus

variable {O : Type}

/-- The status of a resource no cycle has seen. -/
def initial (o : O) : ResourceStatus O := ⟨none, none, o⟩

/-- A status read from its JSON form, with the kind's observation. -/
def decode (obs : Decoder O) : Decoder (ResourceStatus O) :=
  let condition := Field.optional "condition" 0 Condition.decode
  let synced := Field.optional "synced" 1 SyncStatus.decode
  let atProvider := Field.required "atProvider" 2 obs
  record "ResourceStatus" [condition.erase, synced.erase, atProvider.erase] fun src => do
    return ⟨← src.get condition, ← src.get synced, ← src.get atProvider⟩

/-- The JSON form of a status; an absent condition or outcome is left out. -/
def encode (obs : O → Value) (s : ResourceStatus O) : Value :=
  .obj ((match s.condition with
    | some c => [("condition", c.encode)]
    | none => []) ++
    (match s.synced with
    | some y => [("synced", y.encode)]
    | none => []) ++ [("atProvider", obs s.atProvider)])

end ResourceStatus

end NetReconcile.Resource
