import NetReconcile.Resource.Kind
import NetReconcile.Resource.Meta
import NetReconcile.Resource.Status
import NetReconcile.Config.Spec

/-!
# Managed resources

A managed resource is one declared instance of a kind: its identity, the configuration
it uses (`ProviderConfig/default` unless it names one), its declared parameters and the
status the engine writes back. A new resource has no condition, no outcome and the
kind's empty observation.
-/

namespace NetReconcile.Resource

open Json Config

/-- A declared instance of a resource kind. -/
structure Managed (k : Kind) where
  metadata : ObjectMeta
  configRef : ConfigRef
  spec : k.Params
  status : ResourceStatus k.Obs

namespace Managed

variable {k : Kind}

/-- A new resource with the initial status. -/
def new (metadata : ObjectMeta) (configRef : ConfigRef) (spec : k.Params) : Managed k :=
  ⟨metadata, configRef, spec, ResourceStatus.initial k.emptyObs⟩

/-- The recorded external name; an empty one counts as none. -/
def externalName (m : Managed k) : Option String := m.metadata.recorded

/-- The condition of the latest cycle. -/
def condition (m : Managed k) : Option Condition := m.status.condition

/-- A resource read from its JSON form. -/
def decode (k : Kind) : Decoder (Managed k) :=
  let metadata := Field.required "metadata" 0 ObjectMeta.decode
  let configRef := Field.withDefault "providerConfigRef" 1 ConfigRef.decode ConfigRef.default
  let spec := Field.required "spec" 2 k.decodeParams
  let status := Field.withDefault "status" 3 (ResourceStatus.decode k.decodeObs)
    (ResourceStatus.initial k.emptyObs)
  record "Managed" [metadata.erase, configRef.erase, spec.erase, status.erase] fun src => do
    return ⟨← src.get metadata, ← src.get configRef, ← src.get spec, ← src.get status⟩

/-- The JSON form of a resource. -/
def encode (m : Managed k) : Value :=
  .obj [("metadata", m.metadata.encode), ("providerConfigRef", m.configRef.encode),
    ("spec", k.encodeParams m.spec), ("status", m.status.encode k.encodeObs)]

end Managed

end NetReconcile.Resource
