import NetReconcile.Service.Model
import NetReconcile.Service.Secrets
import NetReconcile.Service.Sessions
import NetReconcile.Service.Configs
import NetReconcile.Engine.Cycle

/-!
# Reconcile scenarios

A scenario runs steps against one managed resource and the engine around it: whole
cycles, single lifecycle steps, and changes to the resource, the provider, the secrets,
the configurations and the session cache made between them. After each step the answer
shows the step's result and the state: the resource, the provider calls and client
regions of the step, the provider's records, the counts of authentications, sessions and
stored resources, and the stored copy of the resource (`true` when it is the resource
itself). Times stamped by cycles are not shown.

An error inside a step is that step's result; later steps still run.

Unless a scenario says otherwise, the secret store holds one credentials secret and two
configurations point to it: `team-a/default` in region `eu-de` and the cluster-wide
`shared` in region `eu-nl`.
-/

namespace NetReconcile.Service

open Json Resource Config Secrets Session Engine

/-- The key of the default credentials secret. -/
def defaultSecretKey : String := "crossplane-system/otc-creds/credentials"

/-- The default credentials secret. -/
def defaultSecrets : List (String × String) :=
  [(defaultSecretKey, "\x7b\"accessKey\":\"AK\",\"secretKey\":\"SK\"\x7d")]

/-- The default configuration in a region. -/
def defaultSpec (region : String) : ConfigSpec :=
  ⟨"OTC-EU-DE-0001", "project", region, none,
    CredentialSettings.fromSecret ⟨"crossplane-system", "otc-creds", "credentials"⟩⟩

/-- The configuration `team-a/default`. -/
def teamRegistry : Registry :=
  Registry.empty.insert (.inNamespace "team-a" "default") (defaultSpec "eu-de")

/-- The default configurations. -/
def defaultRegistry : Registry :=
  teamRegistry.insert (.cluster "shared") (defaultSpec "eu-nl")

/-- The entries of a list field; absent means none. -/
def entriesOf (v : Value) (key : String) : Except Failure (List Value) :=
  match v.field? key with
  | none | some .null => .ok []
  | some _ => needList v key

/-- The configurations a scenario declares, or the default ones. -/
def registryOf (req : Value) : Except Failure Registry := do
  match req.field? "configs" with
  | none | some .null => return defaultRegistry
  | some cfg =>
    let inNamespaces ← (← entriesOf cfg "scoped").mapM fun e => do
      return (ConfigKey.inNamespace (← needText e "namespace") (← needText e "name"),
        ← decodeWith ConfigSpec.decode (← need e "spec"))
    let cluster ← (← entriesOf cfg "cluster").mapM fun e => do
      return (ConfigKey.cluster (← needText e "name"), ← decodeWith ConfigSpec.decode (← need e "spec"))
    return (inNamespaces ++ cluster).foldl (fun r (key, spec) => r.insert key spec) Registry.empty

/-- The secrets a scenario declares, or the default one. -/
def scenarioSecrets (req : Value) : Except Failure SecretStore :=
  match req.field? "secrets" with
  | none | some .null => .ok (SecretStore.ofList defaultSecrets)
  | some _ => secretsOf req

/-- An engine with nothing stored and no failures set. -/
def freshEngine (k : Kind) (registry : Registry) (secrets : SecretStore) (policy : SessionPolicy) :
    Reconciler k :=
  ⟨⟨registry, secrets.source, libraries, SessionCache.empty Authenticator.fresh policy clockReading⟩,
    Provider.empty, [], none, none⟩

/-- The answer naming a failed cycle, with its operation. -/
def reconcileFailure (e : ReconcileError) : Value :=
  (⟨e.caseName, some e.message,
    [("operation", match e.operation with
      | some op => .str op.name
      | none => .null)]⟩ : Failure).toValue

/-- The answer of a cycle's outcome. -/
def outcomeValue (o : Outcome) : Value :=
  .obj [("action", .str o.action.name), ("specChanged", .bool o.specChanged)]

/-- The answer naming a failed connection: the failed step's own error. -/
def connectFailure (e : ConnectError) : Value :=
  (Failure.of e.caseName e.message).toValue

/-- The answer naming a failed provider call. -/
def providerFailure (e : ProviderError) : Value :=
  (Failure.of ("Provider." ++ e.caseName) e.message).toValue

/-- A JSON form with the times of sync outcomes left out. -/
def withoutTime (v : Value) : Value :=
  match v with
  | .obj fs => .obj (fs.map fun (key, s) =>
      if key = "status" then
        match s with
        | .obj ss => (key, .obj (ss.map fun (key2, y) =>
            if key2 = "synced" then
              match y with
              | .obj ys => (key2, .obj (ys.filter (·.1 != "lastTransitionTime")))
              | y => (key2, y)
            else (key2, y)))
        | s => (key, s)
      else (key, s))
  | v => v

/-- A value with fields of a patch merged into it. -/
def patched (base patch : Value) : Except Failure Value :=
  match base, patch with
  | .obj bs, .obj ps => .ok (.obj (mergeFields bs ps))
  | _, _ => .error (.badInput "a patch must be an object")

/-- The answer of success. -/
def okValue : Value := .obj [("ok", .bool true)]

/-- A resource, the engine around it, and the memory store the engine reads its secrets
from. -/
structure Scene (k : Kind) where
  engine : Reconciler k
  managed : Managed k
  secrets : SecretStore

namespace Scene

variable {k : Kind}

/-- Replace the provider of the scene. -/
def withProvider (s : Scene k) (p : Provider k) : Scene k := { s with engine := s.engine.withProvider p }

/-- Replace the connector of the scene. -/
def withConnector (s : Scene k) (c : Connector) : Scene k :=
  { s with engine := { s.engine with connector := c } }

/-- Replace the secrets of the scene, which the engine then reads. -/
def withSecrets (s : Scene k) (st : SecretStore) : Scene k :=
  { s.withConnector { s.engine.connector with secrets := st.source } with secrets := st }

/-- An optional message of a step; absent and `null` are none. -/
def messageOf (step : Value) : Except Failure (Option String) := optText step "message"

/-- Run a step that changes the resource, the provider or the engine. -/
def changeStep (s : Scene k) (action : String) (step : Value) : Except Failure (Scene k × Value) := do
  let m := s.managed
  let c := s.engine.connector
  let p := s.engine.provider
  match action with
  | "set_managed" => return ({ s with managed := ← decodeWith (Managed.decode k) (← need step "managed") }, okValue)
  | "set_spec" => return ({ s with managed := { m with spec := ← decodeWith k.decodeParams (← need step "spec") } }, okValue)
  | "patch_spec" =>
    let v ← patched (k.encodeParams m.spec) (← need step "patch")
    return ({ s with managed := { m with spec := ← decodeWith k.decodeParams v } }, okValue)
  | "patch_meta" =>
    let v ← patched m.metadata.encode (← need step "patch")
    return ({ s with managed := { m with metadata := ← decodeWith ObjectMeta.decode v } }, okValue)
  | "record_external_name" =>
    let r := m.metadata.recordExternalName (← needText step "id")
    let m := match r with
      | .ok metadata => { m with metadata }
      | .error _ => m
    return ({ s with managed := m }, recordAnswer r)
  | "set_ref" => return ({ s with managed := { m with configRef := ← decodeWith ConfigRef.decode (← need step "ref") } }, okValue)
  | "provider_insert" =>
    return (s.withProvider (p.insert (← needText step "id") (← needRecord k step "record")), okValue)
  | "provider_modify" =>
    let id ← needText step "id"
    let patch ← need step "patch"
    match p.find? id with
    | none => return (s, .obj [("modified", .bool false)])
    | some r =>
      match k.decodeRec (← patched (k.encodeRec r) patch) with
      | .ok r => return (s.withProvider (p.insert id r), .obj [("modified", .bool true)])
      | .error msg => throw (.badInput msg)
  | "provider_remove" =>
    let (p, removed) := p.remove (← needText step "id")
    return (s.withProvider p, .obj [("removed", .bool removed)])
  | "fail_next" => return (s.withProvider (p.failNext (← needText step "message")), okValue)
  | "reject_auth" =>
    let sessions := { c.sessions with authenticator := c.sessions.authenticator.rejectNext (← needText step "message") }
    return (s.withConnector { c with sessions }, okValue)
  | "set_secret" =>
    match s.secrets.set (← needText step "key") (← needText step "payload") with
    | .ok secrets => return (s.withSecrets secrets, okValue)
    | .error e => return (s, (storeFailure e).toValue)
  | "delete_secret" =>
    match s.secrets.delete (← needText step "key") with
    | .ok secrets => return (s.withSecrets secrets, okValue)
    | .error e => return (s, (storeFailure e).toValue)
  | "insert_scoped" =>
    let key := ConfigKey.inNamespace (← needText step "namespace") (← needText step "name")
    let spec ← decodeWith ConfigSpec.decode (← need step "spec")
    return (s.withConnector { c with registry := c.registry.insert key spec }, okValue)
  | "insert_cluster" =>
    let key := ConfigKey.cluster (← needText step "name")
    let spec ← decodeWith ConfigSpec.decode (← need step "spec")
    return (s.withConnector { c with registry := c.registry.insert key spec }, okValue)
  | "invalidate" =>
    let (sessions, removed) := c.sessions.invalidate (← needText step "identity")
    return (s.withConnector { c with sessions }, .obj [("removed", .bool removed)])
  | "fail_client" =>
    let msg ← messageOf step
    return ({ s with engine := { s.engine with clientFailure := msg } }, okValue)
  | "fail_persist" =>
    let fail := (← messageOf step).map fun msg key => StoreError.backend key msg
    return ({ s with engine := { s.engine with persistFailure := fail } }, okValue)
  | other => throw (.badInput s!"unknown step {other}")

/-- The namespace a connect step names: the resource's own when absent, none when
`null`. -/
def namespaceOf (s : Scene k) (step : Value) : Except Failure (Option String) :=
  match step.field? "namespace" with
  | none => .ok s.managed.metadata.ns
  | some _ => optText step "namespace"

/-- Run one step: the scene after it and the step's result. -/
def run (s : Scene k) (step : Value) : Except Failure (Scene k × Value) := do
  let m := s.managed
  let p := s.engine.provider
  match ← needText step "do" with
  | "reconcile" =>
    let (engine, managed, r) := s.engine.reconcile m
    return ({ s with engine, managed }, match r with
      | .ok o => outcomeValue o
      | .error e => reconcileFailure e)
  | "observe" =>
    let (p, m, r) := m.observe p
    return ({ s.withProvider p with managed := m }, match r with
      | .ok o => .obj [("exists", .bool o.found), ("upToDate", .bool o.upToDate),
          ("lateInitialized", .bool o.lateInitialized)]
      | .error e => (lifecycleFailure e).toValue)
  | "create" =>
    let (p, m, r) := m.create p
    return ({ s.withProvider p with managed := m }, match r with
      | .ok id => .obj [("id", .str id)]
      | .error e => (lifecycleFailure e).toValue)
  | "update" =>
    let (p, r) := m.update p
    return (s.withProvider p, match r with
      | .ok () => okValue
      | .error e => (lifecycleFailure e).toValue)
  | "delete" =>
    let (p, m, r) := m.delete p
    return ({ s.withProvider p with managed := m }, match r with
      | .ok () => okValue
      | .error e => (lifecycleFailure e).toValue)
  | "provider_get" =>
    let (p, r) := p.get (← needText step "id")
    return (s.withProvider p, match r with
      | .ok rec => .obj [("record", k.encodeRec rec)]
      | .error e => providerFailure e)
  | "connect" =>
    let ref ← match step.field? "ref" with
      | none | some .null => pure m.configRef
      | some v => decodeWith ConfigRef.decode v
    let (c, r) := s.engine.connector.connect ref (← s.namespaceOf step)
    return (s.withConnector c, match r with
      | .ok conn => .obj [("identity", .str conn.identity), ("region", .str conn.region),
          ("handle", tokenValue conn.token)]
      | .error e => connectFailure e)
  | action => s.changeStep action step

/-- The state after a step, with the calls and regions since an earlier provider. -/
def snapshot (s : Scene k) (before : Provider k) (result : Value) : Value :=
  let e := s.engine
  let key := s.managed.metadata.key
  .obj [("result", result), ("managed", withoutTime s.managed.encode),
    ("calls", .arr ((e.provider.calls.drop before.calls.length).map Call.encode)),
    ("regions", textList (e.provider.regions.drop before.regions.length)),
    ("records", .obj (e.provider.records.map fun (id, r) => (id, k.encodeRec r))),
    ("recordCount", Value.ofNat e.provider.records.length),
    ("authCalls", Value.ofNat e.connector.sessions.authenticator.calls.toNat),
    ("sessions", Value.ofNat e.connector.sessions.size),
    ("persistedCount", Value.ofNat e.stored.length),
    ("persisted", match e.storedAt? key with
      | none => .null
      | some stored =>
        let v := stored.encode
        if v.write == s.managed.encode.write then .bool true else withoutTime v)]

/-- Run steps in order, answering each with a snapshot. -/
def runAll : Scene k → List Value → List Value
  | _, [] => []
  | s, step :: rest =>
    let (s', result) := match s.run step with
      | .ok r => r
      | .error f => (s, f.toValue)
    s'.snapshot s.engine.provider result :: runAll s' rest

end Scene

/-- Answer a reconcile scenario. -/
def scenarioRequest (op : String) (req : Value) : Option Reply :=
  match op with
  | "reconcile" => some <| withKind req fun k => do
    let managed ← decodeWith (Managed.decode k) (← need req "managed")
    let secrets ← scenarioSecrets req
    let engine := freshEngine k (← registryOf req) secrets (← policyOf req)
    return .obj [("steps", .arr (Scene.runAll ⟨engine, managed, secrets⟩ (← needList req "steps")))]
  | _ => none

end NetReconcile.Service
