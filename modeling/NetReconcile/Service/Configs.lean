import NetReconcile.Service.Sessions
import NetReconcile.Config.Registry
import NetReconcile.Toml.Parse

/-!
# Requests about configuration

Controller settings read and checked; registries loaded from a configuration file, or
from the default location, and asked to resolve references; and a sequence of steps run
against a registry. The file holding a configuration is the text a request gives, at the
path `providers.toml`; the default location is `$XDG_CONFIG_HOME/driftforge/providers.toml`,
where no file means an empty registry.
-/

namespace NetReconcile.Service

open Json Config

/-- The answer naming a configuration error; a file that cannot be read as TOML is
reported without a message. -/
def configFailure (e : ConfigError) : Failure :=
  match e with
  | .parse _ _ => ⟨"Config.Parse", none, []⟩
  | e => Failure.of ("Config." ++ e.caseName) e.message

/-- The fields describing settings. -/
def settingsFields (s : Settings) : List (String × Value) :=
  [("settings", s.encode), ("pollIntervalSecs", Value.ofNat s.pollInterval),
   ("policy", policyValue s.policy)]

/-- The answer of resolving a reference. -/
def resolvedValue (r : Except ConfigError Resolved) : Value :=
  match r with
  | .ok res => .obj [("identity", .str res.identity), ("spec", res.spec.encode)]
  | .error e => (configFailure e).toValue

/-- Resolve the reference a query names. -/
def resolveQuery (reg : Registry) (q : Value) : Except Failure Value := do
  let ref : ConfigRef := ⟨← needText q "kind", ← needText q "name"⟩
  return resolvedValue (reg.resolve ref (← optText q "namespace"))

/-- The answer describing a loaded registry and its answers to queries. -/
def registryAnswer (reg : Registry) (queries : List Value) : Except Failure (List (String × Value)) := do
  let results ← queries.mapM (resolveQuery reg)
  return settingsFields reg.settings ++
    [("len", Value.ofNat reg.size), ("isEmpty", .bool (reg.size == 0)), ("results", .arr results)]

/-- The queries of a request; absent means none. -/
def queriesOf (req : Value) : Except Failure (List Value) :=
  match req.field? "queries" with
  | none | some .null => .ok []
  | some _ => needList req "queries"

/-- The path of the file a request's text is written to. -/
def filePath : String := "providers.toml"

/-- The default location of the configuration file, under the configuration directory
the environment names. -/
def defaultPath : Except ConfigError String := Registry.defaultPath (some "$XDG_CONFIG_HOME/driftforge")

/-- Run one step against a registry: the new registry and the step's answer. -/
def registryStep (reg : Registry) (step : Value) : Except Failure (Registry × Value) := do
  let ok : Value := .obj [("ok", .bool true)]
  if let some body := step.field? "insert_scoped" then
    let ns ← needText body "namespace"
    let name ← needText body "name"
    match ConfigSpec.decode (← need body "spec") with
    | .ok spec => return (reg.insert (.inNamespace ns name) spec, ok)
    | .error e => return (reg, (Failure.ofDecode e).toValue)
  else if let some body := step.field? "insert_cluster" then
    let name ← needText body "name"
    match ConfigSpec.decode (← need body "spec") with
    | .ok spec => return (reg.insert (.cluster name) spec, ok)
    | .error e => return (reg, (Failure.ofDecode e).toValue)
  else if let some q := step.field? "resolve" then
    return (reg, ← resolveQuery reg q)
  else if (step.field? "len").isSome then
    return (reg, .obj [("len", Value.ofNat reg.size), ("isEmpty", .bool (reg.size == 0))])
  else throw (.badInput "unknown registry step")

/-- Run steps against a registry in order, answering each. -/
def registrySteps : Registry → List Value → Except Failure (List Value)
  | _, [] => .ok []
  | reg, step :: rest => do
    let (reg, answer) ← registryStep reg step
    return answer :: (← registrySteps reg rest)

/-- Answer a request about configuration. -/
def configRequest (op : String) (req : Value) : Option Reply :=
  match op with
  | "controller_settings" => some do
    let s ← match req.field? "settings" with
      | none => pure Settings.default
      | some v => decodeWith Settings.decode v
    let check := match s.excess with
      | some (field, value) =>
        (configFailure (.outOfRange field value maxSessionSecs filePath)).toValue
      | none => .obj [("ok", .bool true)]
    return .obj (settingsFields s ++ [("validate", check)])
  | "config_file" => some do
    let queries ← queriesOf req
    match ← optText req "toml" with
    | none => .error (configFailure (.io filePath "No such file or directory (os error 2)"))
    | some text =>
      let reg ← (Registry.load Toml.readDocument filePath text).mapError configFailure
      return .obj (← registryAnswer reg queries)
  | "config_load_default" => some do
    let queries ← queriesOf req
    let path ← defaultPath.mapError configFailure
    if ← optFlag req "asDirectory" then
      .error (configFailure (.io path "Is a directory (os error 21)"))
    let reg ← match ← optText req "toml" with
      | none => pure Registry.empty
      | some text => (Registry.load Toml.readDocument path text).mapError configFailure
    return .obj ((← registryAnswer reg queries) ++ [("defaultPath", .str path)])
  | "registry" => some do
    return .obj [("steps", .arr (← registrySteps Registry.empty (← needList req "steps")))]
  | _ => none

end NetReconcile.Service
