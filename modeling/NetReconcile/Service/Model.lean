import NetReconcile.Service.Kinds
import NetReconcile.Resource.Managed

/-!
# Requests about the resource model

Identity of declared resources and the recording of external names, references to
configurations, configurations themselves, secret selectors, sync outcomes, status
tables, and managed resources read and written back.
-/

namespace NetReconcile.Service

open Json Resource Config

/-- The answer describing an identity. -/
def metaAnswer (m : ObjectMeta) (extra : List (String × Value)) : Value :=
  .obj ([("meta", m.encode), ("key", .str m.key), ("externalName", Value.ofOption m.recorded)] ++
    extra)

/-- The answer of one attempt to record an external name. -/
def recordAnswer : Except NameConflict ObjectMeta → Value
  | .ok _ => .obj [("ok", .bool true)]
  | .error c => .obj [("error", .str "ExternalNameConflict"), ("message", .str c.message),
      ("recorded", .str c.recorded), ("attempted", .str c.attempted)]

/-- Record each identifier in turn, keeping the identity of the last success. -/
def recordAll (m : ObjectMeta) : List String → ObjectMeta × List Value
  | [] => (m, [])
  | id :: ids =>
    let r := m.recordExternalName id
    let m' := match r with
      | .ok m' => m'
      | .error _ => m
    let (final, answers) := recordAll m' ids
    (final, recordAnswer r :: answers)

/-- The answer describing a reference. -/
def refAnswer (r : ConfigRef) : Value :=
  .obj [("ref", r.encode), ("display", .str r.display)]

/-- The answer describing a managed resource. -/
def managedAnswer {k : Kind} (m : Managed k) : Value :=
  .obj [("managed", m.encode), ("key", .str m.metadata.key),
    ("externalName", Value.ofOption m.externalName),
    ("condition", match m.condition with
      | some c => c.encode
      | none => .null)]

/-- The status table a request describes: a constant condition, or lists of words for
each condition and a condition for every other word. -/
def tableOf (req : Value) : Except Failure StatusTable := do
  match req.field? "constant" with
  | some c => return StatusTable.constant (← decodeWith Condition.decode c)
  | none =>
    let words (key : String) : Except Failure (List String) :=
      match req.field? key with
      | none | some .null => .ok []
      | some v => decodeWith (fun v => match v with
          | .arr xs => xs.mapM Decode.string
          | v => .error (.invalidType v.unexpected "a sequence")) v
    let otherwise ← decodeWith Condition.decode (← need req "otherwise")
    return ⟨← words "available", ← words "creating", ← words "deleting", ← words "unavailable",
      otherwise⟩

/-- The reference a request names, or the default one. -/
def refOf (req : Value) : Except Failure ConfigRef :=
  match req.field? "ref" with
  | some v => decodeWith ConfigRef.decode v
  | none => .ok ConfigRef.default

/-- Answer a request about the resource model. -/
def modelRequest (op : String) (req : Value) : Option Reply :=
  match op with
  | "meta" => some do
    let m ← decodeWith ObjectMeta.decode (← need req "meta")
    let ids ← needList req "record"
    let ids ← ids.mapM fun v => match v with
      | .str s => .ok s
      | _ => .error (.badInput "field record must hold strings")
    let (m, results) := recordAll m ids
    return metaAnswer m [("results", .arr results)]
  | "object_meta" => some do
    let name ← needText req "name"
    let m := match ← optText req "namespace" with
      | some ns => ObjectMeta.namespaced ns name
      | none => ObjectMeta.cluster name
    return metaAnswer m []
  | "config_ref" => some do
    return refAnswer (← refOf req)
  | "provider_ref" => some do
    let scope ← needText req "scope"
    let name ← needText req "name"
    match scope with
    | "scoped" => return refAnswer (ConfigRef.inNamespace name)
    | "cluster" => return refAnswer (ConfigRef.cluster name)
    | s => .error (.badInput s!"unknown scope {s}")
  | "config_spec" => some do
    let spec ← decodeWith ConfigSpec.decode (← need req "spec")
    return .obj [("spec", spec.encode), ("source", .str spec.credentials.source.name),
      ("secretKey", Value.ofOption (spec.credentials.secretRef.map (·.storeKey)))]
  | "secret_selector" => some do
    let sel : SecretSelector := ⟨← needText req "namespace", ← needText req "name",
      ← needText req "key"⟩
    let creds := CredentialSettings.fromSecret sel
    return .obj [("key", .str sel.storeKey), ("credentials", creds.encode),
      ("source", .str creds.source.name)]
  | "sync_status" => some do
    let state := match ← optText req "message" with
      | some m => SyncState.failure m
      | none => SyncState.success
    return .obj [("status", .obj (SyncStatus.stateFields state)),
      ("isSuccess", .bool (state matches .success))]
  | "status_table" => some do
    let table ← tableOf req
    let raws ← needList req "raws"
    let raws ← raws.mapM fun v => match v with
      | .str s => .ok s
      | _ => .error (.badInput "field raws must hold strings")
    return .obj [("conditions", .arr (raws.map fun r => (table.condition r).encode))]
  | "managed_new" => some <| withKind req fun k => do
    let metadata ← decodeWith ObjectMeta.decode (← need req "metadata")
    let ref ← refOf req
    let spec ← decodeWith k.decodeParams (← need req "spec")
    return managedAnswer (Managed.new metadata ref spec)
  | "managed_roundtrip" => some <| withKind req fun k => do
    let m ← decodeWith (Managed.decode k) (← need req "managed")
    return managedAnswer m
  | _ => none

end NetReconcile.Service
