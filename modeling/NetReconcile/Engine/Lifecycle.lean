import NetReconcile.Engine.Provider
import NetReconcile.Resource.Managed

/-!
# Observe, create, update and delete

The four lifecycle steps of a managed resource against its provider, the same for every
kind. Each returns the provider after its calls, and the steps that write status return
the resource too, also when they fail: a create marks the resource `Creating` and a
delete marks it `Deleting` before calling the provider.

* Observing a resource with no external name, or one the provider does not know, finds
  nothing and is no error. Otherwise the record's observation and condition go into the
  status, unset optional parameters are adopted from the record, and the adopted
  parameters are compared with it.
* Creating records the new identifier as the external name, refused when another one is
  recorded, and keeps the record's observation.
* Updating needs an external name, checks the immutable fields against the last
  observation, and needs an update request the kind can make.
* Deleting a resource never created, or already gone, succeeds.
-/

namespace NetReconcile.Engine

open Resource

/-- What observing found: whether the resource exists, whether it matches its
parameters, and whether parameters were adopted from the provider. -/
structure Observation where
  found : Bool
  upToDate : Bool
  lateInitialized : Bool
  deriving DecidableEq, Repr

/-- Nothing found at the provider. -/
def Observation.missing : Observation := ⟨false, false, false⟩

end NetReconcile.Engine

namespace NetReconcile.Resource.Managed

open Engine

variable {k : Kind}

/-- Set the condition of a resource. -/
def setCondition (m : Managed k) (c : Condition) : Managed k :=
  { m with status := { m.status with condition := some c } }

/-- How the provider addresses a resource with an identifier. -/
def locator (m : Managed k) (id : String) : Locator := ⟨id, k.parent m.spec⟩

/-- Observe a resource at its provider. -/
def observe (m : Managed k) (p : Provider k) :
    Provider k × Managed k × Except LifecycleError Observation :=
  match m.externalName with
  | none => (p, m, .ok .missing)
  | some id =>
    match p.get id with
    | (p, .error .notFound) => (p, m, .ok .missing)
    | (p, .error e) => (p, m, .error (.provider .observe k.tag e))
    | (p, .ok r) =>
      let (spec, adopted) := k.lateInit m.spec r
      let status := { m.status with atProvider := k.observe r, condition := some (k.condition r) }
      (p, { m with spec, status }, .ok ⟨true, (k.drift spec r).isEmpty, !adopted.isEmpty⟩)

/-- Create a resource at its provider, answering the new identifier. -/
def create (m : Managed k) (p : Provider k) :
    Provider k × Managed k × Except LifecycleError String :=
  let m := m.setCondition .creating
  match p.create (k.createOpts m.spec) with
  | (p, .error e) => (p, m, .error (.provider .create k.tag e))
  | (p, .ok r) =>
    let id := k.remoteId r
    match m.metadata.recordExternalName id with
    | .error c => (p, m, .error (.externalName c))
    | .ok metadata =>
      (p, { m with metadata, status := { m.status with atProvider := k.observe r } }, .ok id)

/-- Push a resource's mutable fields to its provider. -/
def update (m : Managed k) (p : Provider k) : Provider k × Except LifecycleError Unit :=
  match m.externalName with
  | none => (p, .error (.noExternalName k.tag))
  | some id =>
    match k.checkImmutable m.spec m.status.atProvider, k.updateRequest m.spec with
    | .error e, _ => (p, .error e)
    | .ok (), .error e => (p, .error e)
    | .ok (), .ok opts =>
      match p.update (m.locator id) opts with
      | (p, .error e) => (p, .error (.provider .update k.tag e))
      | (p, .ok ()) => (p, .ok ())

/-- Delete a resource at its provider. -/
def delete (m : Managed k) (p : Provider k) :
    Provider k × Managed k × Except LifecycleError Unit :=
  let m := m.setCondition .deleting
  match m.externalName with
  | none => (p, m, .ok ())
  | some id =>
    match p.delete (m.locator id) with
    | (p, .error .notFound) => (p, m, .ok ())
    | (p, .error e) => (p, m, .error (.provider .delete k.tag e))
    | (p, .ok ()) => (p, m, .ok ())

end NetReconcile.Resource.Managed
