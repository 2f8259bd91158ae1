import NetReconcile.Config.Settings
import NetReconcile.Config.Spec
import NetReconcile.Text.Quoted

/-!
# The configuration registry

The registry holds the controller settings and the provider configurations, each under
its key: a `ProviderConfig` under its namespace and name, a `ClusterProviderConfig` under
its name. A reference from a resource is resolved to the configuration and its identity,
the key the session cache uses: `ProviderConfig/namespace/name` or
`ClusterProviderConfig/name`. A `ProviderConfig` is looked up in the resource's own
namespace, so a cluster-wide resource cannot use one.

A registry is loaded from a TOML file with a `[controller]` table and
`[[provider_config]]` and `[[cluster_provider_config]]` entries, whose fields are those
of a configuration next to `namespace` and `name`. The file is read with a TOML library
that is a parameter here (`readToml`): it gives the document, or its own account of why
the text is not TOML. Loading refuses, in this order, a file that is not valid TOML of
that shape, settings out of range, and a configuration declared twice (namespaced ones
are checked before cluster-wide ones). The default file is `providers.toml` in the
user's configuration directory for the program, and there is none without such a
directory.
-/

namespace NetReconcile.Config

open Json

/-- Why a configuration cannot be had. -/
inductive ConfigError where
  | unsupportedKind (kind : String)
  | namespaceRequired (name : String)
  | providerConfigNotFound (ns name : String)
  | clusterProviderConfigNotFound (name : String)
  | duplicate (identity path : String)
  | io (path reason : String)
  | parse (path reason : String)
  | configDirUnavailable
  | outOfRange (field : String) (value max : Nat) (path : String)
  deriving DecidableEq, Repr

/-- The text of a configuration error; paths are quoted. -/
def ConfigError.message : ConfigError → String
  | .unsupportedKind k => s!"unsupported provider config kind: {k}"
  | .namespaceRequired n => s!"ProviderConfig '{n}' can only be referenced from a namespaced resource"
  | .providerConfigNotFound ns n => s!"cannot get ProviderConfig {ns}/{n}: not found"
  | .clusterProviderConfigNotFound n => s!"cannot get ClusterProviderConfig {n}: not found"
  | .duplicate i p => s!"duplicate configuration {i} in " ++ Text.quoted p
  | .io p r => "failed to read config from " ++ Text.quoted p ++ ": " ++ r
  | .parse p r => "failed to parse config from " ++ Text.quoted p ++ ": " ++ r
  | .configDirUnavailable => "configuration directory not available"
  | .outOfRange f v m p => s!"{f} = {v} in " ++ Text.quoted p ++ s!" exceeds the maximum of {m}"

/-- The name of a configuration error's case. -/
def ConfigError.caseName : ConfigError → String
  | .unsupportedKind _ => "UnsupportedKind"
  | .namespaceRequired _ => "NamespaceRequired"
  | .providerConfigNotFound _ _ => "ProviderConfigNotFound"
  | .clusterProviderConfigNotFound _ => "ClusterProviderConfigNotFound"
  | .duplicate _ _ => "Duplicate"
  | .io _ _ => "Io"
  | .parse _ _ => "Parse"
  | .configDirUnavailable => "ConfigDirUnavailable"
  | .outOfRange _ _ _ _ => "OutOfRange"

/-- The key of a configuration. -/
inductive ConfigKey where
  | inNamespace (ns name : String)
  | cluster (name : String)
  deriving DecidableEq, Repr

/-- The identity of a configuration, as the session cache knows it. -/
def ConfigKey.identity : ConfigKey → String
  | .inNamespace ns n => scopedKind ++ "/" ++ ns ++ "/" ++ n
  | .cluster n => clusterKind ++ "/" ++ n

/-- A configuration resolved for a resource, with its identity. -/
structure Resolved where
  identity : String
  spec : ConfigSpec
  deriving DecidableEq, Repr

/-- Controller settings and configurations by key. -/
structure Registry where
  settings : Settings
  configs : List (ConfigKey × ConfigSpec)
  deriving DecidableEq, Repr

namespace Registry

/-- A registry with default settings and no configurations. -/
def empty : Registry := ⟨Settings.default, []⟩

/-- Declare or replace a configuration. -/
def insert (r : Registry) (key : ConfigKey) (spec : ConfigSpec) : Registry :=
  { r with configs := r.configs.filter (·.1 != key) ++ [(key, spec)] }

/-- The configuration under a key. -/
def find? (r : Registry) (key : ConfigKey) : Option ConfigSpec :=
  (r.configs.find? (·.1 == key)).map (·.2)

/-- The number of configurations. -/
def size (r : Registry) : Nat := r.configs.length

/-- Resolve a reference for a resource in a namespace, or a cluster-wide one. -/
def resolve (r : Registry) (ref : ConfigRef) (ns : Option String) : Except ConfigError Resolved :=
  if ref.kind = scopedKind then
    match ns with
    | none => .error (.namespaceRequired ref.name)
    | some ns =>
      let key := ConfigKey.inNamespace ns ref.name
      match r.find? key with
      | some spec => .ok ⟨key.identity, spec⟩
      | none => .error (.providerConfigNotFound ns ref.name)
  else if ref.kind = clusterKind then
    let key := ConfigKey.cluster ref.name
    match r.find? key with
    | some spec => .ok ⟨key.identity, spec⟩
    | none => .error (.clusterProviderConfigNotFound ref.name)
  else .error (.unsupportedKind ref.kind)

/-- A list of values, each read by a decoder. -/
def listOf (d : Decoder α) : Decoder (List α)
  | .arr xs => xs.mapM d
  | v => .error (.invalidType v.unexpected "a sequence")

/-- An entry of a file: its namespace and name when given, and its configuration. -/
def entry (namespaced : Bool) : Decoder (ConfigKey × ConfigSpec)
  | .obj fs => do
    let ns := Field.required "namespace" 0 Decode.string
    let name := Field.required "name" 1 Decode.string
    let key ← if namespaced then
        record "ProviderConfigEntry" [ns.erase, name.erase] (fun src => do
          return ConfigKey.inNamespace (← src.get ns) (← src.get name)) (.obj fs)
      else
        record "ClusterProviderConfigEntry" [name.erase] (fun src => do
          return ConfigKey.cluster (← src.get name)) (.obj fs)
    return (key, ← ConfigSpec.decode (.obj fs))
  | v => .error (.invalidType v.unexpected "a map")

/-- The contents of a configuration file: settings, then namespaced and cluster-wide
entries in order. -/
def fileContents : Decoder (Settings × List (ConfigKey × ConfigSpec)) :=
  let controller := Field.withDefault "controller" 0 Settings.decode Settings.default
  let inNamespaces := Field.withDefault "provider_config" 1 (listOf (entry true)) []
  let cluster := Field.withDefault "cluster_provider_config" 2 (listOf (entry false)) []
  record "ConfigFile" [controller.erase, inNamespaces.erase, cluster.erase] fun src => do
    return (← src.get controller, (← src.get inNamespaces) ++ (← src.get cluster))

/-- Add entries in order, refusing a key met twice. -/
def addAll (path : String) (r : Registry) : List (ConfigKey × ConfigSpec) → Except ConfigError Registry
  | [] => .ok r
  | (key, spec) :: rest =>
    if (r.find? key).isSome then .error (.duplicate key.identity path)
    else addAll path (r.insert key spec) rest

/-- A registry loaded from the text of a file at a path, read with a TOML library; a
document of another shape is refused with the decoder's account of it. -/
def load (readToml : String → Except String Value) (path text : String) : Except ConfigError Registry := do
  let doc ← (readToml text).mapError (.parse path)
  let (settings, entries) ← (fileContents doc).mapError fun e => .parse path e.message
  if let some (field, value) := settings.excess then
    throw (.outOfRange field value maxSessionSecs path)
  addAll path ⟨settings, []⟩ entries

/-- The default location of the configuration file, in the user's configuration
directory for the program; refused when there is none. -/
def defaultPath : Option String → Except ConfigError String
  | some dir => .ok (dir ++ "/providers.toml")
  | none => .error .configDirUnavailable

end Registry

end NetReconcile.Config
