import NetReconcile.Engine.Cycle

/-!
# Errors of the whole library

Any error of the library, tagged with the part it comes from: the secret store,
credentials, configuration, sessions, connecting, the provider, the lifecycle, or a
reconcile cycle. Its text is the part's name before the error's own text.
-/

namespace NetReconcile.Engine

open Resource Config Secrets Session

/-- An error of some part of the library. -/
inductive LibraryError where
  | store (e : StoreError)
  | credentials (e : CredentialError)
  | config (e : ConfigError)
  | session (e : SessionError)
  | connect (e : ConnectError)
  | provider (e : ProviderError)
  | lifecycle (e : LifecycleError)
  | reconcile (e : ReconcileError)

namespace LibraryError

/-- The name of the part an error comes from. -/
def part : LibraryError → String
  | .store _ => "Store"
  | .credentials _ => "Credentials"
  | .config _ => "Config"
  | .session _ => "Session"
  | .connect _ => "Connect"
  | .provider _ => "Provider"
  | .lifecycle _ => "Lifecycle"
  | .reconcile _ => "Reconcile"

/-- The text of an error, after the name of its part. -/
def message : LibraryError → String
  | .store e => "store error: " ++ e.message
  | .credentials e => "credentials error: " ++ e.message
  | .config e => "configuration error: " ++ e.message
  | .session e => "session error: " ++ e.message
  | .connect e => "connect error: " ++ e.message
  | .provider e => "provider error: " ++ e.message
  | .lifecycle e => "lifecycle error: " ++ e.message
  | .reconcile e => "reconcile error: " ++ e.message

end LibraryError

end NetReconcile.Engine
