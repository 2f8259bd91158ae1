import NetReconcile.Config.Registry
import NetReconcile.Secrets.Credentials
import NetReconcile.Session.Cache

/-!
# Connecting to a provider

A resource's configuration reference leads to an authenticated session in three steps,
in this order: the configuration is resolved for the resource's namespace, the
credentials it points to are read from the secret store, and the session cache gives a
session for the configuration's identity, authenticating when it has none to use. The
first step that fails is the error; only the last one changes anything, the cache.

The connector reads any secret store and has sessions with any URL library and digest:
they are part of it, as the world it connects through.
-/

namespace NetReconcile.Engine

open Config Secrets Session

/-- Why a connection could not be made. -/
inductive ConnectError where
  | config (e : ConfigError)
  | credentials (e : CredentialError)
  | session (e : SessionError)

/-- The text of a connection error: the failed step's own. -/
def ConnectError.message : ConnectError → String
  | .config e => e.message
  | .credentials e => e.message
  | .session e => e.message

/-- The dotted name of a connection error's case. -/
def ConnectError.caseName : ConnectError → String
  | .config e => "Config." ++ e.caseName
  | .credentials e => "Credentials." ++ e.caseName
  | .session e => "Session." ++ e.caseName

/-- An authenticated session for a configuration. -/
structure Connection where
  /-- The configuration's identity in the session cache. -/
  identity : String
  region : String
  token : Token

/-- Configurations, secrets, the libraries sessions are had with, and sessions: what
connecting needs. -/
structure Connector where
  registry : Registry
  secrets : SecretSource
  libs : Libraries
  sessions : SessionCache Authenticator Token

namespace Connector

/-- Connect on behalf of a resource in a namespace, or a cluster-wide one. -/
def connect (c : Connector) (ref : ConfigRef) (ns : Option String) :
    Connector × Except ConnectError Connection :=
  match c.registry.resolve ref ns with
  | .error e => (c, .error (.config e))
  | .ok res =>
    match Credentials.resolve c.secrets res.spec with
    | .error e => (c, .error (.credentials e))
    | .ok creds =>
      match c.sessions.get c.libs res.identity res.spec creds with
      | (sessions, .error e) => ({ c with sessions }, .error (.session e))
      | (sessions, .ok token) => ({ c with sessions }, .ok ⟨res.identity, res.spec.region, token⟩)

/-- The debug text of a connector: its session cache, and nothing of its secrets. -/
def debugText (c : Connector) : String :=
  "Connector \x7b sessions: " ++ c.sessions.debugText ++ ", .. \x7d"

end Connector

end NetReconcile.Engine
