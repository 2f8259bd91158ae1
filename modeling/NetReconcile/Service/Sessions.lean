import NetReconcile.Service.Secrets
import NetReconcile.Session.Cache

/-!
# Requests about sessions

The fingerprint of authentication inputs, the inputs themselves, and a sequence of
steps run against a session cache: getting a session, dropping one, making the identity
service refuse the next attempt, and counting sessions. Every step's answer also tells
how many attempts the identity service has seen.

A policy gives the validity and the margin in whole seconds, or as `max` or `min`, the
longest and most negative spans; an absent one takes its default.
-/

namespace NetReconcile.Service

open Json Secrets Config Session Time

/-- The clock reading sessions are timed by: 2026-01-01T00:00:00Z. -/
def clockReading : Int := daysFromCivil 2026 1 1 * secondsPerDay * nanosPerSecond

/-- The libraries the program has sessions with: addresses read as web browsers read
them, and SHA-256. -/
def libraries : Libraries := ⟨Web.Url.parse, Digest.sha256⟩

/-- The answer naming a session error. -/
def sessionFailure (e : SessionError) : Failure :=
  Failure.of ("Session." ++ e.caseName) e.message

/-- A span of a policy field: whole seconds, `max` or `min`, or the default. -/
def spanOf (v : Option Value) (dflt : Span) : Except Failure Span :=
  match v with
  | none | some .null => .ok dflt
  | some (.str "max") => .ok Span.max
  | some (.str "min") => .ok Span.min
  | some (.num (.nat n)) =>
    if n ≤ 9223372036854775 then .ok (Span.ofSeconds n) else .error (.badInput "policy out of range")
  | some (.num (.neg n)) =>
    if n ≥ -9223372036854775 then .ok (Span.ofSeconds n) else .error (.badInput "policy out of range")
  | some _ => .error (.badInput "policy values are seconds, max or min")

/-- The session policy of a request, or the default one. -/
def policyOf (req : Value) : Except Failure SessionPolicy := do
  match req.field? "policy" with
  | none | some .null => return SessionPolicy.default
  | some p =>
    let d := SessionPolicy.default
    return ⟨← spanOf (p.field? "validitySecs") d.validity, ← spanOf (p.field? "marginSecs") d.margin⟩

/-- A policy in whole seconds. -/
def policyValue (p : SessionPolicy) : Value :=
  .obj [("validitySecs", Value.ofInt p.validity.wholeSeconds),
    ("marginSecs", Value.ofInt p.margin.wholeSeconds)]

/-- The configuration and credentials of a request. -/
def inputsOf (req : Value) : Except Failure (ConfigSpec × Credentials) := do
  let spec ← decodeWith ConfigSpec.decode (← need req "spec")
  let creds ← withCredentials (Credentials.make (← needText req "accessKey") (← needText req "secretKey"))
  return (spec, creds)

/-- The answer describing a token. -/
def tokenValue (t : Token) : Value :=
  .obj [("serial", Value.ofNat t.serial.toNat), ("projectId", .str t.projectId), ("region", .str t.region)]

/-- Run one step against a session cache: the new cache and the step's answer. -/
def cacheStep (c : SessionCache Authenticator Token) (step : Value) :
    Except Failure (SessionCache Authenticator Token × Value) := do
  let withCalls (c : SessionCache Authenticator Token) (fields : List (String × Value)) :
      SessionCache Authenticator Token × Value :=
    (c, .obj (fields ++ [("authCalls", Value.ofNat c.authenticator.calls.toNat)]))
  if (step.field? "get").isSome then
    let identity ← needText step "get"
    match inputsOf step with
    | .error f => return withCalls c (match f.toValue with
        | .obj fs => fs
        | _ => [])
    | .ok (spec, creds) =>
      let (c, r) := c.get libraries identity spec creds
      match r with
      | .ok t => return withCalls c [("handle", tokenValue t)]
      | .error e => return withCalls c (match (sessionFailure e).toValue with
          | .obj fs => fs
          | _ => [])
  else if (step.field? "invalidate").isSome then
    let (c, removed) := c.invalidate (← needText step "invalidate")
    return withCalls c [("removed", .bool removed)]
  else if (step.field? "reject_next").isSome then
    let m ← needText step "reject_next"
    return withCalls { c with authenticator := c.authenticator.rejectNext m } [("ok", .bool true)]
  else if (step.field? "len").isSome then
    return withCalls c [("len", Value.ofNat c.size), ("isEmpty", .bool (c.size == 0))]
  else throw (.badInput "unknown session step")

/-- Run steps against a session cache in order, answering each. -/
def cacheSteps : SessionCache Authenticator Token → List Value → Except Failure (List Value)
  | _, [] => .ok []
  | c, step :: rest => do
    let (c, answer) ← cacheStep c step
    return answer :: (← cacheSteps c rest)

/-- Answer a request about sessions. -/
def sessionRequest (op : String) (req : Value) : Option Reply :=
  match op with
  | "fingerprint" => some do
    let (spec, creds) ← inputsOf req
    return .obj [("fingerprint", .str (fingerprint libraries.digest spec creds))]
  | "auth_options" => some do
    let (spec, creds) ← inputsOf req
    let opts ← (AuthOptions.make libraries.parseUrl spec creds).mapError sessionFailure
    return .obj [("identityEndpoint", .str opts.endpoint.write), ("domainName", .str opts.domainName),
      ("projectId", .str opts.projectId), ("region", .str opts.region)]
  | "session_cache" => some do
    let policy ← policyOf req
    let steps ← cacheSteps (SessionCache.empty Authenticator.fresh policy clockReading)
      (← needList req "steps")
    return .obj [("steps", .arr steps), ("policy", policyValue policy)]
  | _ => none

end NetReconcile.Service
