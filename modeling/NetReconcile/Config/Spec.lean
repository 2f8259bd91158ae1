import NetReconcile.Json.Decode
import NetReconcile.Json.Plain

/-!
# Provider configurations

A provider configuration names the account domain, project and region to work in, may
override the identity service's address, and says where credentials come from. A
resource refers to a configuration by kind and name: a `ProviderConfig` lives in the
resource's namespace, a `ClusterProviderConfig` is shared by all. The kind is kept as
text, so an unknown kind survives reading and is refused only when resolved.
-/

namespace NetReconcile.Config

open Json

/-- The kind of a configuration in a namespace. -/
def scopedKind : String := "ProviderConfig"

/-- The kind of a cluster-wide configuration. -/
def clusterKind : String := "ClusterProviderConfig"

/-- A reference from a resource to the configuration it uses. -/
structure ConfigRef where
  kind : String
  name : String
  deriving DecidableEq, Repr

namespace ConfigRef

/-- A reference to a configuration in the resource's namespace. -/
def inNamespace (name : String) : ConfigRef := ⟨scopedKind, name⟩

/-- A reference to a cluster-wide configuration. -/
def cluster (name : String) : ConfigRef := ⟨clusterKind, name⟩

/-- The reference used when a resource names none. -/
def default : ConfigRef := inNamespace "default"

/-- The text of a reference: `kind/name`. -/
def display (r : ConfigRef) : String := r.kind ++ "/" ++ r.name

/-- A reference read from its JSON form. -/
def decode : Decoder ConfigRef :=
  let kind := Field.required "kind" 0 Decode.string
  let name := Field.required "name" 1 Decode.string
  record "ProviderConfigRef" [kind.erase, name.erase] fun src => do
    return ⟨← src.get kind, ← src.get name⟩

/-- The JSON form of a reference. -/
def encode (r : ConfigRef) : Value := .obj [("kind", .str r.kind), ("name", .str r.name)]

end ConfigRef

/-- Where the credentials of a configuration come from. -/
inductive CredentialsSource where
  | secret
  | environment
  | filesystem
  | injectedIdentity
  | none
  deriving DecidableEq, Repr

namespace CredentialsSource

/-- The name of a source. -/
def name : CredentialsSource → String
  | .secret => "Secret"
  | .environment => "Environment"
  | .filesystem => "Filesystem"
  | .injectedIdentity => "InjectedIdentity"
  | .none => "None"

/-- Every source, in order. -/
def all : List CredentialsSource := [.secret, .environment, .filesystem, .injectedIdentity, .none]

/-- A source read from its name. -/
def decode : Decoder CredentialsSource := Decode.variant (all.map fun s => (s.name, s))

end CredentialsSource

/-- One key of one secret: the secret's namespace and name, and the key within it. -/
structure SecretSelector where
  ns : String
  name : String
  key : String
  deriving DecidableEq, Repr

namespace SecretSelector

/-- The key of the selected value in a secret store: `namespace/name/key`. -/
def storeKey (s : SecretSelector) : String := s.ns ++ "/" ++ s.name ++ "/" ++ s.key

/-- A selector read from its JSON form. -/
def decode : Decoder SecretSelector :=
  let ns := Field.required "namespace" 0 Decode.string
  let name := Field.required "name" 1 Decode.string
  let key := Field.required "key" 2 Decode.string
  record "SecretKeySelector" [ns.erase, name.erase, key.erase] fun src => do
    return ⟨← src.get ns, ← src.get name, ← src.get key⟩

/-- The JSON form of a selector. -/
def encode (s : SecretSelector) : Value :=
  .obj [("namespace", .str s.ns), ("name", .str s.name), ("key", .str s.key)]

end SecretSelector

/-- The credential settings of a configuration: their source and, for a secret, which
key of which secret holds them. -/
structure CredentialSettings where
  source : CredentialsSource
  secretRef : Option SecretSelector
  deriving DecidableEq, Repr

namespace CredentialSettings

/-- Credentials kept in a secret. -/
def fromSecret (s : SecretSelector) : CredentialSettings := ⟨.secret, some s⟩

/-- Credential settings read from their JSON form. -/
def decode : Decoder CredentialSettings :=
  let source := Field.required "source" 0 CredentialsSource.decode
  let secretRef := Field.optional "secretRef" 1 SecretSelector.decode
  record "ProviderCredentials" [source.erase, secretRef.erase] fun src => do
    return ⟨← src.get source, ← src.get secretRef⟩

/-- The JSON form of credential settings; an absent selector is left out. -/
def encode (c : CredentialSettings) : Value :=
  .obj ([("source", .str c.source.name)] ++
    match c.secretRef with
    | some s => [("secretRef", s.encode)]
    | none => [])

end CredentialSettings

/-- A provider configuration. -/
structure ConfigSpec where
  domainName : String
  projectId : String
  region : String
  /-- The identity service's address, overriding the default when set and not empty. -/
  identityEndpoint : Option String
  credentials : CredentialSettings
  deriving DecidableEq, Repr

namespace ConfigSpec

/-- A configuration read from its JSON form; the project may also be given as `projectId`. -/
def decode : Decoder ConfigSpec :=
  let domainName := Field.required "domainName" 0 Decode.string
  let projectId : Json.Field String := ⟨"projectID", ["projectId"], 1, Decode.string, none⟩
  let region := Field.required "region" 2 Decode.string
  let identityEndpoint := Field.optional "identityEndpoint" 3 Decode.string
  let credentials := Field.required "credentials" 4 CredentialSettings.decode
  record "ProviderConfigSpec"
    [domainName.erase, projectId.erase, region.erase, identityEndpoint.erase, credentials.erase]
    fun src => do
      return ⟨← src.get domainName, ← src.get projectId, ← src.get region,
        ← src.get identityEndpoint, ← src.get credentials⟩

/-- The JSON form of a configuration; an absent identity address is left out. -/
def encode (c : ConfigSpec) : Value :=
  .obj ([("domainName", .str c.domainName), ("projectID", .str c.projectId),
    ("region", .str c.region)] ++ optionalField "identityEndpoint" c.identityEndpoint ++
    [("credentials", c.credentials.encode)])

end ConfigSpec

end NetReconcile.Config
