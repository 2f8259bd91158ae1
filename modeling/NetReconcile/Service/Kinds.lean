import NetReconcile.Service.Answer
import NetReconcile.Kinds.Catalog

/-!
# Requests about one resource kind

Each request names a kind by its tag and asks one question of that kind's rules: the
condition of a status word, the observation or status of a provider record, late
initialization, drift, the immutability check, the create and update requests, the
parent, or the JSON form of parameters read and written back.
-/

namespace NetReconcile.Service

open Json Resource

/-- Answer a request with the kind it names. -/
def withKind (req : Value) (f : Kind → Reply) : Reply :=
  match needText req "kind" with
  | .error e => .error e
  | .ok tag =>
    match Kind.ofTag? tag with
    | some k => f k
    | none => .error (.badInput s!"unknown kind {tag}")

/-- The answer naming a lifecycle error. -/
def lifecycleFailure (e : LifecycleError) : Failure :=
  Failure.of ("Lifecycle." ++ e.caseName) e.message

/-- The provider record of a request. -/
def needRecord (k : Kind) (req : Value) (key : String) : Except Failure k.Rec := do
  match k.decodeRec (← need req key) with
  | .ok r => .ok r
  | .error m => .error (.badInput m)

/-- The declared parameters of a request. -/
def needParams (k : Kind) (req : Value) : Except Failure k.Params := do
  decodeWith k.decodeParams (← need req "params")

/-- Answer a request about one kind, by its operation name. -/
def kindRequest (op : String) (req : Value) : Option Reply :=
  let run (f : Kind → Reply) : Option Reply := some (withKind req f)
  match op with
  | "status" => run fun k => do
    let raw ← needText req "raw"
    return .obj [("condition", (k.statusTable.condition raw).encode)]
  | "raw_status" => run fun k => do
    let r ← needRecord k req "remote"
    return .obj [("raw", .str (k.rawStatus r)), ("condition", (k.condition r).encode),
                 ("id", .str (k.remoteId r))]
  | "observation" => run fun k => do
    let r ← needRecord k req "remote"
    return .obj [("observation", k.encodeObs (k.observe r))]
  | "late_init" => run fun k => do
    let p ← needParams k req
    let r ← needRecord k req "remote"
    let (p', fields) := k.lateInit p r
    return .obj [("fields", textList fields), ("changed", .bool !fields.isEmpty),
                 ("params", k.encodeParams p')]
  | "drift" => run fun k => do
    let p ← needParams k req
    let r ← needRecord k req "remote"
    let fields := k.drift p r
    return .obj [("fields", textList fields), ("upToDate", .bool fields.isEmpty)]
  | "check_immutable" => run fun k => do
    let p ← needParams k req
    let o ← match req.field? "remote" with
      | some _ => k.observe <$> needRecord k req "remote"
      | none => decodeWith k.decodeObs (← need req "observed")
    match k.checkImmutable p o with
    | .ok () => return .obj [("ok", .bool true)]
    | .error e => .error (lifecycleFailure e)
  | "create_opts" => run fun k => do
    let p ← needParams k req
    return .obj [("opts", k.encodeCreate (k.createOpts p))]
  | "update_opts" => run fun k => do
    let p ← needParams k req
    match k.updateRequest p with
    | .ok o => return .obj [("opts", k.encodeUpdate o)]
    | .error e => .error (lifecycleFailure e)
  | "parent" => run fun k => do
    let p ← needParams k req
    return .obj [("parent", Value.ofOption (k.parent p))]
  | "params_roundtrip" => run fun k => do
    let p ← needParams k req
    return .obj [("params", k.encodeParams p)]
  | _ => none

end NetReconcile.Service
