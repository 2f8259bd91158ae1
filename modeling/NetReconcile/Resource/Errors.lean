/-!
# Errors of the resource lifecycle

A provider call fails because the resource is not there or because the provider's API
refused it. A lifecycle step fails because an immutable field would change, because the
kind cannot be updated at all, because no external name is recorded yet, because a
different external name is already recorded, or because a provider call failed; the
last one names the operation and the kind.
-/

namespace NetReconcile.Resource

/-- An operation of the lifecycle. -/
inductive Operation where
  | connect
  | observe
  | create
  | update
  | delete
  deriving DecidableEq, Repr

/-- The name of an operation. -/
def Operation.name : Operation → String
  | .connect => "connect"
  | .observe => "observe"
  | .create => "create"
  | .update => "update"
  | .delete => "delete"

/-- Why a provider call failed. -/
inductive ProviderError where
  | notFound
  | api (message : String)
  deriving DecidableEq, Repr

/-- The text of a provider error. -/
def ProviderError.message : ProviderError → String
  | .notFound => "resource not found"
  | .api m => s!"provider API error: {m}"

/-- The name of a provider error's case. -/
def ProviderError.caseName : ProviderError → String
  | .notFound => "NotFound"
  | .api _ => "Api"

/-- A refusal to replace a recorded external name. -/
structure NameConflict where
  recorded : String
  attempted : String
  deriving DecidableEq, Repr

/-- The text of a name conflict. -/
def NameConflict.message (c : NameConflict) : String :=
  s!"external name already recorded as '{c.recorded}', refusing to replace it with '{c.attempted}'"

/-- Why a lifecycle step failed. -/
inductive LifecycleError where
  | immutableField (kind field : String)
  | immutable (kind : String)
  | noExternalName (kind : String)
  | externalName (conflict : NameConflict)
  | provider (op : Operation) (kind : String) (source : ProviderError)
  deriving DecidableEq, Repr

/-- The text of a lifecycle error. -/
def LifecycleError.message : LifecycleError → String
  | .immutableField k f => s!"cannot update immutable field {f} of {k}"
  | .immutable k => s!"{k} is immutable"
  | .noExternalName k => s!"{k} has no external name"
  | .externalName c => c.message
  | .provider op k e => s!"cannot {op.name} {k}: {e.message}"

/-- The name of a lifecycle error's case. -/
def LifecycleError.caseName : LifecycleError → String
  | .immutableField _ _ => "ImmutableField"
  | .immutable _ => "Immutable"
  | .noExternalName _ => "NoExternalName"
  | .externalName _ => "ExternalNameConflict"
  | .provider _ _ _ => "Provider"

/-- The operation a lifecycle error is reported under: a provider failure carries its
own, a name conflict arises on create, and every other refusal on update. -/
def LifecycleError.operation : LifecycleError → Operation
  | .provider op _ _ => op
  | .externalName _ => .create
  | _ => .update

end NetReconcile.Resource
