import NetReconcile.Service.Answer
import NetReconcile.Secrets.Credentials

/-!
# Requests about credentials and secret stores

Credentials read from a payload or built from two keys, credentials resolved for a
configuration from a store of secrets, and a sequence of steps run against a secret
store, each answered in turn. Seeding a secret by its selector and counting the
secrets are steps only a memory store used as such can take.
-/

namespace NetReconcile.Service

open Json Secrets Config

/-- The answer naming a credential error. -/
def credentialFailure (e : CredentialError) : Failure :=
  Failure.of ("Credentials." ++ e.caseName) e.message

/-- The answer naming a store error. -/
def storeFailure (e : StoreError) : Failure :=
  Failure.of ("Store." ++ e.caseName) e.message

/-- Lift a credential outcome into a reply. -/
def withCredentials (r : Except CredentialError Credentials) : Except Failure Credentials :=
  r.mapError credentialFailure

/-- The answer of one store step, or of its failure. -/
def stepValue (r : Except StoreError (List (String × Value))) : Value :=
  match r with
  | .ok fs => .obj fs
  | .error e => (storeFailure e).toValue

/-- Run one step against a store: the new store and the step's answer. With `full`,
the memory-only steps are allowed. -/
def storeStep (full : Bool) (st : SecretStore) (step : Value) :
    Except Failure (SecretStore × Value) := do
  let text (key : String) : Except Failure String := needText step key
  if step.field? "set" |>.isSome then
    let key ← text "set"
    let value ← text "value"
    match st.set key value with
    | .ok st' => return (st', .obj [("ok", .bool true)])
    | .error e => return (st, (storeFailure e).toValue)
  else if step.field? "get" |>.isSome then
    let key ← text "get"
    return (st, stepValue ((fun v => [("value", Value.ofOption v)]) <$> st.get key))
  else if step.field? "delete" |>.isSome then
    let key ← text "delete"
    match st.delete key with
    | .ok st' => return (st', .obj [("ok", .bool true)])
    | .error e => return (st, (storeFailure e).toValue)
  else if step.field? "exists" |>.isSome then
    let key ← text "exists"
    return (st, stepValue ((fun b => [("exists", .bool b)]) <$> st.contains key))
  else if step.field? "list" |>.isSome then
    let p ← text "list"
    return (st, stepValue ((fun ks => [("keys", textList ks)]) <$> st.listKeys p))
  else if step.field? "seed" |>.isSome then
    if !full then throw (.badInput "this store cannot be seeded")
    let sel ← decodeWith SecretSelector.decode (← need step "seed")
    let value ← text "value"
    match st.set sel.storeKey value with
    | .ok st' => return (st', .obj [("ok", .bool true)])
    | .error e => return (st, (storeFailure e).toValue)
  else if step.field? "len" |>.isSome then
    if !full then throw (.badInput "this store cannot be counted")
    let n := match st with
      | .memory s => s.length
      | .keyring _ => 0
    return (st, .obj [("len", Value.ofNat n), ("isEmpty", .bool (n == 0))])
  else throw (.badInput "unknown store step")

/-- Run steps against a store in order, answering each. -/
def storeSteps (full : Bool) : SecretStore → List Value → Except Failure (List Value)
  | _, [] => .ok []
  | st, step :: rest => do
    let (st', answer) ← storeStep full st step
    return answer :: (← storeSteps full st' rest)

/-- The answer describing credentials. -/
def credentialsAnswer (c : Credentials) (extra : List (String × Value)) : Value :=
  .obj ([("accessKey", .str c.accessKey), ("secretKey", .str c.secretKey)] ++ extra)

/-- The secrets of a request, as a memory store. -/
def secretsOf (req : Value) : Except Failure SecretStore :=
  match req.field? "secrets" with
  | none | some .null => .ok SecretStore.empty
  | some (.obj fs) => do
    let pairs ← fs.mapM fun (k, v) => match v with
      | .str s => .ok (k, s)
      | _ => .error (.badInput s!"secret {k} must be a string")
    return SecretStore.ofList pairs
  | some _ => .error (.badInput "field secrets must be an object")

/-- Answer a request about credentials or secret stores. -/
def secretRequest (op : String) (req : Value) : Option Reply :=
  match op with
  | "credentials_payload" => some do
    let c ← withCredentials (Credentials.fromPayload (← needText req "payload"))
    return credentialsAnswer c [("debug", .str Credentials.debugText)]
  | "credentials_new" => some do
    let c ← withCredentials (Credentials.make (← needText req "accessKey") (← needText req "secretKey"))
    return credentialsAnswer c [("display", .str "[REDACTED]")]
  | "resolve_credentials" => some do
    let store ← secretsOf req
    let spec ← decodeWith ConfigSpec.decode (← need req "spec")
    return credentialsAnswer (← withCredentials (Credentials.resolve store.source spec)) []
  | "secret_store" => some do
    return .obj [("steps", .arr (← storeSteps true SecretStore.empty (← needList req "steps")))]
  | "keyring_store" => some do
    let store := SecretStore.keyring (← needText req "service")
    let steps ← storeSteps false store (← needList req "steps")
    return .obj [("steps", .arr steps), ("debug", .str store.debugText)]
  | "create_store" => some do
    let store := SecretStore.create (← optFlag req "preferKeyring")
    return .obj [("steps", .arr (← storeSteps false store (← needList req "steps")))]
  | _ => none

end NetReconcile.Service
