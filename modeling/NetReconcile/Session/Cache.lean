import NetReconcile.Session.Auth
import NetReconcile.Time.Span

/-!
# The session cache

The cache keeps one authenticated session per configuration identity, with the
fingerprint of the inputs it was made from and the instant it expires. A session is
used again when the fingerprint is the same and it expires after the current instant
plus the safety margin; a margin that leaves the calendar makes no session usable.

On a miss the address is read with the URL library, and when it is a URL the identity
service is asked; a refusal is passed
on and nothing is stored. After a success, sessions expired by now are dropped and the
new one stored, expiring after the validity, or never (at the calendar's last instant)
when that leaves the calendar, whatever the sign of the validity.

The cache works with any identity service, any kind of handle it gives, and any URL
library and digest. All
instants are read from one clock reading, so the outcome of a sequence of requests
does not depend on how long they take.
-/

namespace NetReconcile.Session

open Config Secrets Time

/-- How long sessions live, and how long before their expiry they are made again. -/
structure SessionPolicy where
  validity : Span
  margin : Span
  deriving DecidableEq, Repr

/-- The default policy: sessions live 23 hours and are made again 5 minutes early. -/
def SessionPolicy.default : SessionPolicy := ⟨Span.ofSeconds 82800, Span.ofSeconds 300⟩

/-- The debugging text of a span: whole seconds rounded down, and the nanoseconds left. -/
def spanDebugText (d : Span) : String :=
  "TimeDelta \x7b secs: " ++ toString d.secondsPart ++ ", nanos: " ++ toString d.nanosPart ++ " \x7d"

/-- The debugging text of a policy. -/
def SessionPolicy.debugText (p : SessionPolicy) : String :=
  "SessionPolicy \x7b validity: " ++ spanDebugText p.validity ++ ", safety_margin: " ++
    spanDebugText p.margin ++ " \x7d"

/-- A cached session with its handle. -/
structure CachedSession (H : Type) where
  token : H
  /-- The instant it expires, in nanoseconds since 1970-01-01T00:00:00Z. -/
  expiresAt : Int
  fingerprint : String
  deriving DecidableEq, Repr

/-- The session cache over an identity service `A` whose handles are `H`. -/
structure SessionCache (A H : Type) where
  policy : SessionPolicy
  authenticator : A
  /-- Sessions by configuration identity, each identity once. -/
  sessions : List (String × CachedSession H)
  /-- The clock reading, in nanoseconds since 1970-01-01T00:00:00Z. -/
  clock : Int
  deriving DecidableEq, Repr

namespace SessionCache

variable {A H : Type}

/-- An empty cache over an identity service, with a policy and a clock reading. -/
def empty (authenticator : A) (policy : SessionPolicy) (clock : Int) : SessionCache A H :=
  ⟨policy, authenticator, [], clock⟩

/-- The session held for an identity. -/
def lookup (c : SessionCache A H) (identity : String) : Option (CachedSession H) :=
  (c.sessions.find? (·.1 == identity)).map (·.2)

/-- Whether a session may be used for inputs with a fingerprint. -/
def usable (c : SessionCache A H) (s : CachedSession H) (fp : String) : Bool :=
  s.fingerprint == fp &&
    match Instant.shift? c.clock c.policy.margin with
    | some deadline => decide (deadline < s.expiresAt)
    | none => false

/-- Store a session under an identity, replacing any earlier one. -/
def store (identity : String) (s : CachedSession H) (sessions : List (String × CachedSession H)) :
    List (String × CachedSession H) :=
  sessions.filter (·.1 != identity) ++ [(identity, s)]

/-- Authenticate anew for an identity and store the session. -/
def renew [IdentityService A H] (c : SessionCache A H) (libs : Libraries) (identity : String)
    (spec : ConfigSpec) (creds : Credentials) (fp : String) : SessionCache A H × Except SessionError H :=
  match AuthOptions.make libs.parseUrl spec creds with
  | .error e => (c, .error e)
  | .ok opts =>
    let (a, r) := IdentityService.authenticate c.authenticator opts
    let c := { c with authenticator := a }
    match r with
    | .error e => (c, .error (.auth e))
    | .ok token =>
      let live := c.sessions.filter fun (_, s) => decide (s.expiresAt > c.clock)
      let expiresAt := (Instant.shift? c.clock c.policy.validity).getD Instant.last
      ({ c with sessions := store identity ⟨token, expiresAt, fp⟩ live }, .ok token)

/-- A session for an identity: the cached one when usable, otherwise a new
authentication. -/
def get [IdentityService A H] (c : SessionCache A H) (libs : Libraries) (identity : String)
    (spec : ConfigSpec) (creds : Credentials) : SessionCache A H × Except SessionError H :=
  let fp := fingerprint libs.digest spec creds
  match c.lookup identity with
  | some s => if c.usable s fp then (c, .ok s.token) else c.renew libs identity spec creds fp
  | none => c.renew libs identity spec creds fp

/-- Drop the session of an identity; whether there was one. -/
def invalidate (c : SessionCache A H) (identity : String) : SessionCache A H × Bool :=
  ({ c with sessions := c.sessions.filter (·.1 != identity) },
    c.sessions.any (·.1 == identity))

/-- The number of sessions held, expired ones included. -/
def size (c : SessionCache A H) : Nat := c.sessions.length

/-- The debugging text of a cache, which shows only its policy. -/
def debugText (c : SessionCache A H) : String :=
  "SessionCache \x7b policy: " ++ c.policy.debugText ++ ", .. \x7d"

end SessionCache

end NetReconcile.Session
