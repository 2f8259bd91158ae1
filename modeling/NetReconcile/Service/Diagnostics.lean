import NetReconcile.Service.Scenario
import NetReconcile.Engine.LibraryError

/-!
# Debugging texts and library-wide errors

Debugging texts show what a value is without its secrets: secrets and credentials are
redacted, a memory store shows how many secrets it holds, a session cache shows its
policy, and a connector shows its session cache.

A library-wide error is an error of one part, reported with the part's name; each
source below runs one operation of its part and answers its value when nothing fails.
A configuration file that is not valid TOML is reported without a message.
-/

namespace NetReconcile.Service

open Json Resource Config Secrets Session Engine

/-- The answer of a debugging text. -/
def debugValue (text : String) : Value := .obj [("debug", .str text)]

/-- Answer a request for a debugging text. -/
def debugRequest (op : String) (req : Value) : Option Reply :=
  match op with
  | "debug" => some do
    match ← needText req "what" with
    | "secret" => return debugValue Credentials.secretDebugText
    | "credentials" =>
      let _ ← withCredentials (Credentials.make (← needText req "accessKey") (← needText req "secretKey"))
      return debugValue Credentials.debugText
    | "memory_store" =>
      let keys ← match req.field? "keys" with
        | none | some .null => pure []
        | some v => decodeWith (Registry.listOf Decode.string) v
      return debugValue (SecretStore.ofList (keys.map (·, "")) ).debugText
    | "credential_resolver" => return debugValue Credentials.resolverDebugText
    | "session_cache" =>
      return debugValue (SessionCache.empty Authenticator.fresh (← policyOf req) clockReading :
        SessionCache Authenticator Token).debugText
    | "connector" =>
      let c : Connector := ⟨Registry.empty, SecretStore.empty.source, libraries,
        SessionCache.empty Authenticator.fresh (← policyOf req) clockReading⟩
      return debugValue c.debugText
    | "keyring_store" => return debugValue (SecretStore.keyring (← needText req "service")).debugText
    | what => throw (.badInput s!"unknown debug target {what}")
  | _ => none

/-- The answer of a library-wide error. -/
def libraryFailure (f : LibraryError) : Failure :=
  match f with
  | .config (.parse _ _) => ⟨"Driftforge.Config", none, [("parse", .bool true)]⟩
  | f => Failure.of ("Driftforge." ++ f.part) f.message

/-- Report the error of an operation as a library-wide error. -/
def reported (wrap : ε → LibraryError) (r : Except ε α) : Except Failure α :=
  r.mapError (libraryFailure ∘ wrap)

/-- Run one operation of a part of the library, answering its value. -/
def librarySource (req : Value) : Except Failure Value := do
  match ← needText req "source" with
  | "store" =>
    let store := SecretStore.keyring (← needText req "service")
    let keys ← reported .store (store.listKeys (← needText req "prefix"))
    return textList keys
  | "credentials" =>
    let creds ← reported .credentials (Credentials.fromPayload (← needText req "payload"))
    return .str creds.accessKey
  | "config" =>
    let some text ← optText req "toml"
      | throw (libraryFailure (.config (.io filePath "No such file or directory (os error 2)")))
    let reg ← reported .config (Registry.load Toml.readDocument filePath text)
    return Value.ofNat reg.size
  | "session" =>
    let spec ← decodeWith ConfigSpec.decode (← need req "spec")
    let creds ← reported .credentials
      (Credentials.make (← needText req "accessKey") (← needText req "secretKey"))
    let opts ← reported .session (AuthOptions.make libraries.parseUrl spec creds)
    return .str opts.endpoint.write
  | "connect" =>
    let ref ← decodeWith ConfigRef.decode (← need req "ref")
    let c : Connector := ⟨Registry.empty, SecretStore.empty.source, libraries,
      SessionCache.empty Authenticator.fresh SessionPolicy.default clockReading⟩
    let conn ← reported .connect (c.connect ref (← optText req "namespace")).2
    return .str conn.identity
  | "provider" =>
    let p : Provider Vpc.kind := match ← optText req "fail" with
      | some m => Provider.empty.failNext m
      | none => Provider.empty
    let r ← reported .provider (p.get (← needText req "id")).2
    return Vpc.kind.encodeRec r
  | "lifecycle" =>
    withKind req fun k => do
      let params ← needParams k req
      let opts ← reported .lifecycle (k.updateRequest params)
      return k.encodeUpdate opts
  | "reconcile" =>
    let m ← decodeWith (Managed.decode Vpc.kind) (← need req "managed")
    let e := if ← optFlag req "defaults" then
        freshEngine Vpc.kind teamRegistry (SecretStore.ofList defaultSecrets) SessionPolicy.default
      else freshEngine Vpc.kind Registry.empty SecretStore.empty SessionPolicy.default
    let o ← reported .reconcile (e.reconcile m).2.2
    return .str o.action.name
  | source => throw (.badInput s!"unknown error source {source}")

/-- Answer a request for a library-wide error. -/
def libraryRequest (op : String) (req : Value) : Option Reply :=
  match op with
  | "top_error" => some do
    return .obj [("ok", ← librarySource req)]
  | _ => none

end NetReconcile.Service
