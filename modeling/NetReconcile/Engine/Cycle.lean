import NetReconcile.Engine.Lifecycle
import NetReconcile.Engine.Connector

/-!
# One reconcile cycle

A cycle brings one resource closer to its parameters:

1. connect (configuration, credentials, session) and build a client for the region;
2. when deletion is requested, delete, and the cycle is done;
3. observe, adopting unset parameters from the provider;
4. a resource that does not exist and was never created is created;
5. a resource that does not exist although an external name is recorded is reported
   missing and marked `Unavailable`: the name is permanent, so it is never created
   again;
6. a resource that drifted is updated.

After every cycle the outcome goes into the status, stamped with the time, and the
resource is written to the resource store under its key. A cycle that failed keeps its
own error when the store fails too; a cycle that succeeded reports the store's failure.
Nothing is stored when the store fails.

Every error names the operation it belongs to: connecting and building the client
belong to `connect`, a provider failure to its own operation, a name conflict to
`create`, any other lifecycle refusal to `update`, and a missing resource to `observe`;
a failure of the store belongs to none.
-/

namespace NetReconcile.Engine

open Resource Config Secrets Session Time

/-- Why a cycle failed. -/
inductive ReconcileError where
  | connect (e : ConnectError)
  | client (e : ProviderError)
  | lifecycle (e : LifecycleError)
  | externalResourceMissing (kind externalName : String)
  | persist (key : String) (e : StoreError)

namespace ReconcileError

/-- The text of a cycle's error. -/
def message : ReconcileError → String
  | .connect e => "cannot connect: " ++ e.message
  | .client e => "cannot create provider client: " ++ e.message
  | .lifecycle e => e.message
  | .externalResourceMissing k n => s!"{k} {n} no longer exists at the provider"
  | .persist key e => s!"cannot persist {key}: {e.message}"

/-- The dotted name of a cycle error's case. -/
def caseName : ReconcileError → String
  | .connect e => "Connect." ++ e.caseName
  | .client _ => "Client"
  | .lifecycle e => "Lifecycle." ++ e.caseName
  | .externalResourceMissing _ _ => "ExternalResourceMissing"
  | .persist _ _ => "Persist"

/-- The operation an error belongs to. -/
def operation : ReconcileError → Option Operation
  | .connect _ | .client _ => some .connect
  | .lifecycle e => some e.operation
  | .externalResourceMissing _ _ => some .observe
  | .persist _ _ => none

end ReconcileError

/-- What a successful cycle did. -/
inductive Action where
  | deleted
  | created
  | updated
  | upToDate
  deriving DecidableEq, Repr

/-- The name of an action. -/
def Action.name : Action → String
  | .deleted => "Deleted"
  | .created => "Created"
  | .updated => "Updated"
  | .upToDate => "UpToDate"

/-- The outcome of a successful cycle: its action, and whether parameters were adopted
from the provider. -/
structure Outcome where
  action : Action
  specChanged : Bool
  deriving DecidableEq, Repr

/-- A reconciler for one kind: its connector, the provider, the resource store by key,
and failures set for building clients and for storing. -/
structure Reconciler (k : Kind) where
  connector : Connector
  provider : Provider k
  /-- The latest stored copy of each resource, by key in order. -/
  stored : List (String × Managed k)
  clientFailure : Option String
  /-- While set, storing a resource fails with the error this gives for its key. -/
  persistFailure : Option (String → StoreError)

namespace Reconciler

variable {k : Kind}

/-- The time a cycle is stamped with: the clock of the session cache. -/
def now (e : Reconciler k) : Timestamp := Timestamp.ofNanos e.connector.sessions.clock

/-- The stored copy of the resource under a key. -/
def storedAt? (e : Reconciler k) (key : String) : Option (Managed k) :=
  (e.stored.find? (·.1 == key)).map (·.2)

/-- Replace the provider of the reconciler. -/
def withProvider (e : Reconciler k) (provider : Provider k) : Reconciler k := { e with provider }

/-- The steps of a cycle after connecting, against the provider. -/
def converge (m : Managed k) (p : Provider k) :
    Provider k × Managed k × Except ReconcileError Outcome :=
  if m.metadata.deletionRequested then
    match m.delete p with
    | (p, m, .error err) => (p, m, .error (.lifecycle err))
    | (p, m, .ok ()) => (p, m, .ok ⟨.deleted, false⟩)
  else
    match m.observe p with
    | (p, m, .error err) => (p, m, .error (.lifecycle err))
    | (p, m, .ok obs) =>
      if !obs.found then
        match m.externalName with
        | some name => (p, m.setCondition .unavailable, .error (.externalResourceMissing k.tag name))
        | none =>
          match m.create p with
          | (p, m, .error err) => (p, m, .error (.lifecycle err))
          | (p, m, .ok _) => (p, m, .ok ⟨.created, obs.lateInitialized⟩)
      else if !obs.upToDate then
        match m.update p with
        | (p, .error err) => (p, m, .error (.lifecycle err))
        | (p, .ok ()) => (p, m, .ok ⟨.updated, obs.lateInitialized⟩)
      else (p, m, .ok ⟨.upToDate, obs.lateInitialized⟩)

/-- A cycle without its bookkeeping: connect, build a client, converge. -/
def cycle (e : Reconciler k) (m : Managed k) : Reconciler k × Managed k × Except ReconcileError Outcome :=
  match e.connector.connect m.configRef m.metadata.ns with
  | (connector, .error err) => ({ e with connector }, m, .error (.connect err))
  | (connector, .ok conn) =>
    let e := { e with connector }
    match e.clientFailure with
    | some msg => (e, m, .error (.client (.api msg)))
    | none =>
      let (p, m, r) := converge m (e.provider.client conn.region)
      (e.withProvider p, m, r)

/-- One cycle with its bookkeeping: the outcome goes into the status and the resource
into the store. -/
def reconcile (e : Reconciler k) (m : Managed k) : Reconciler k × Managed k × Except ReconcileError Outcome :=
  let (e, m, r) := e.cycle m
  let state := match r with
    | .ok _ => SyncState.success
    | .error err => SyncState.failure err.message
  let m := { m with status := { m.status with synced := some ⟨state, e.now⟩ } }
  let key := m.metadata.key
  match e.persistFailure with
  | some fail =>
    (e, m, match r with
      | .ok _ => .error (.persist key (fail key))
      | .error err => .error err)
  | none => ({ e with stored := putRecord key m e.stored }, m, r)

end Reconciler

end NetReconcile.Engine
