import NetReconcile.Secrets.Credentials
import NetReconcile.Digest.Sha256
import NetReconcile.Web.Url

/-!
# Authentication inputs

Authenticating needs the identity service's address, the account domain, project and
region, and the credential pair. The address is the configuration's when it sets a
non-empty one, otherwise the default service; it must be a valid URL. Addresses are read
with a URL library and fingerprints are made with a digest, both parameters here
(`Libraries`): nothing below depends on how the library reads an address, only on whether
it gives a URL or a reason why not, and nothing on the digest but what is assumed of it
where it is used.

The fingerprint of the inputs that decide the authenticated identity (domain, project,
region and both keys, each preceded by its byte length) tells when a cached session was
made for other inputs. The identity service's address is not part of it.

An identity service is anything whose state an authentication attempt changes and that
answers with a handle or a refusal (`IdentityService`). The one used here is a counting
stand-in: it numbers every attempt with a 64-bit counter that wraps, and refuses the next
attempt with a given message when told to.
-/

namespace NetReconcile.Session

open Config Secrets Web Digest

/-- The identity service used when a configuration names none. -/
def defaultEndpoint : String := "https://iam.eu-de.otc.t-systems.com/v3"

/-- The outside libraries sessions are had with: a URL library that reads the identity
service's address as a URL or says why it is not one, and the digest fingerprints are
made with (SHA-256 in the program). -/
structure Libraries where
  parseUrl : String → Except UrlError Url
  digest : List UInt8 → List UInt8

/-- Why the identity service did not authenticate. -/
inductive AuthError where
  | rejected (message : String)
  | unreachable (message : String)
  deriving DecidableEq, Repr

/-- The text of an authentication error. -/
def AuthError.message : AuthError → String
  | .rejected m => s!"identity provider rejected credentials: {m}"
  | .unreachable m => s!"identity provider unreachable: {m}"

/-- The name of an authentication error's case. -/
def AuthError.caseName : AuthError → String
  | .rejected _ => "Rejected"
  | .unreachable _ => "Unreachable"

/-- Why a session cannot be had. -/
inductive SessionError where
  | invalidEndpoint (endpoint : String) (reason : UrlError)
  | auth (e : AuthError)
  deriving DecidableEq, Repr

/-- The text of a session error. -/
def SessionError.message : SessionError → String
  | .invalidEndpoint ep r => s!"invalid identity endpoint '{ep}': {r.message}"
  | .auth e => s!"cannot authenticate with the identity provider: {e.message}"

/-- The name of a session error's case. -/
def SessionError.caseName : SessionError → String
  | .invalidEndpoint _ _ => "InvalidEndpoint"
  | .auth e => "Auth." ++ e.caseName

/-- The inputs of one authentication. -/
structure AuthOptions where
  endpoint : Url
  domainName : String
  projectId : String
  region : String
  accessKey : String
  secretKey : String
  deriving DecidableEq, Repr

/-- The address of the identity service a configuration uses. -/
def endpointText (spec : ConfigSpec) : String :=
  match spec.identityEndpoint with
  | some e => if e.isEmpty then defaultEndpoint else e
  | none => defaultEndpoint

/-- The inputs of an authentication, refused when the URL library does not read the
address as a URL. -/
def AuthOptions.make (parseUrl : String → Except UrlError Url) (spec : ConfigSpec) (creds : Credentials) :
    Except SessionError AuthOptions :=
  let text := endpointText spec
  match parseUrl text with
  | .error r => .error (.invalidEndpoint text r)
  | .ok url => .ok ⟨url, spec.domainName, spec.projectId, spec.region, creds.accessKey, creds.secretKey⟩

/-- A text as its byte length in eight big-endian bytes, then its bytes. -/
def lengthPrefixed (s : String) : List UInt8 :=
  let bytes := s.toUTF8.toList
  bigEndian 8 bytes.length ++ bytes

/-- The inputs that decide the authenticated identity, in the order they are hashed:
domain, project, region, access key and secret key. -/
def identityFields (spec : ConfigSpec) (creds : Credentials) : List String :=
  [spec.domainName, spec.projectId, spec.region, creds.accessKey, creds.secretKey]

/-- The identity fields an authentication's inputs carry, in the same order. -/
def AuthOptions.identityFields (o : AuthOptions) : List String :=
  [o.domainName, o.projectId, o.region, o.accessKey, o.secretKey]

/-- The bytes a fingerprint hashes: every field preceded by its byte length. -/
def fingerprintMessage (fields : List String) : List UInt8 := fields.flatMap lengthPrefixed

/-- The fingerprint of the inputs that decide the authenticated identity: the digest of
their message, in lowercase hexadecimal. -/
def fingerprint (digest : List UInt8 → List UInt8) (spec : ConfigSpec) (creds : Credentials) : String :=
  hexOf (digest (fingerprintMessage (identityFields spec creds)))

/-- What an authentication gives: its number among all attempts (modulo 2^64), and the
project and region it was made for. -/
structure Token where
  serial : UInt64
  projectId : String
  region : String
  deriving DecidableEq, Repr

/-- The identity service: the attempts so far, and a refusal waiting for the next one. -/
structure Authenticator where
  /-- The attempts so far, modulo 2^64. -/
  calls : UInt64
  reject : Option String
  deriving DecidableEq, Repr

namespace Authenticator

/-- An identity service no one has called. -/
def fresh : Authenticator := ⟨0, none⟩

/-- Refuse the next attempt with a message. -/
def rejectNext (a : Authenticator) (message : String) : Authenticator := { a with reject := some message }

/-- One attempt: it is counted even when refused, and a waiting refusal is used up. The
count wraps to 0 after 2^64 - 1. -/
def authenticate (a : Authenticator) (opts : AuthOptions) : Authenticator × Except AuthError Token :=
  let serial := a.calls + 1
  match a.reject with
  | some m => (⟨serial, none⟩, .error (.rejected m))
  | none => (⟨serial, none⟩, .ok ⟨serial, opts.projectId, opts.region⟩)

end Authenticator

/-- An identity service as the session cache sees it: an attempt to authenticate with
some inputs changes the service's state and gives a handle or a refusal. -/
class IdentityService (A : Type) (H : outParam Type) where
  authenticate : A → AuthOptions → A × Except AuthError H

instance : IdentityService Authenticator Token := ⟨Authenticator.authenticate⟩

end NetReconcile.Session
