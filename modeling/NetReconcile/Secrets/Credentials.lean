import NetReconcile.Secrets.Store
import NetReconcile.Config.Spec
import NetReconcile.Json.Record

/-!
# Credentials

A credential pair is an access key and a secret key, neither empty. A configuration
whose credentials come from a secret names the secret's key; the payload stored there is
a JSON object with the keys `accessKey` and `secretKey` (or a list of the two). A payload
that is not such a document is refused with the class and position of the first fault,
never with its text, since the text may hold the secret.

Resolution reads from any secret store, as a `SecretSource`, and refuses, in this order: a
source other than a secret, a missing selector, a failure of the store, a missing secret,
a malformed payload, and an empty key.
-/

namespace NetReconcile.Secrets

open Config Json

/-- An access key and a secret key. -/
structure Credentials where
  accessKey : String
  secretKey : String
  deriving DecidableEq, Repr

/-- Why credentials cannot be had. -/
inductive CredentialError where
  | unsupportedSource (source : CredentialsSource)
  | missingSecretRef
  | secretNotFound (key : String)
  | malformed (message : String)
  | emptyKey
  | store (e : StoreError)
  deriving DecidableEq, Repr

/-- The text of a credential error. -/
def CredentialError.message : CredentialError → String
  | .unsupportedSource s => s!"unsupported credentials source: {s.name}"
  | .missingSecretRef => "secretRef is required"
  | .secretNotFound k => s!"cannot get credentials from secret: {k} not found"
  | .malformed m => s!"cannot unmarshal credentials JSON, expect keys: accessKey, secretKey: {m}"
  | .emptyKey => "accessKey and secretKey are required in credentials secret"
  | .store e => s!"cannot get credentials from secret: {e.message}"

/-- The name of a credential error's case. -/
def CredentialError.caseName : CredentialError → String
  | .unsupportedSource _ => "UnsupportedSource"
  | .missingSecretRef => "MissingSecretRef"
  | .secretNotFound _ => "SecretNotFound"
  | .malformed _ => "Malformed"
  | .emptyKey => "EmptyKey"
  | .store e => "Store." ++ e.caseName

namespace Credentials

/-- A credential pair, refused when either key is empty. -/
def make (accessKey secretKey : String) : Except CredentialError Credentials :=
  if accessKey.isEmpty || secretKey.isEmpty then .error .emptyKey
  else .ok ⟨accessKey, secretKey⟩

/-- The position of a reading fault, as reported for a malformed payload. -/
def faultText (e : ReadError) : String :=
  s!"{e.fault.classOf.name} error at line {e.line} column {e.column}"

/-- Credentials read from a secret's payload. -/
def fromPayload (payload : String) : Except CredentialError Credentials :=
  match readStringRecord "Credentials" ["accessKey", "secretKey"] payload with
  | .error e => .error (.malformed (faultText e))
  | .ok keys => make (keys.getD 0 "") (keys.getD 1 "")

/-- The debugging text of a secret value, which hides it. -/
def secretDebugText : String := "Secret([REDACTED])"

/-- The debugging text of credentials, which hides both keys. -/
def debugText : String :=
  "Credentials \x7b access_key: " ++ secretDebugText ++ ", secret_key: " ++ secretDebugText ++ " \x7d"

/-- The debugging text of the credential reader, which shows nothing of its store. -/
def resolverDebugText : String := "CredentialResolver \x7b .. \x7d"

/-- The credentials a configuration points at, read from a secret store. -/
def resolve (store : SecretSource) (spec : ConfigSpec) : Except CredentialError Credentials := do
  let source := spec.credentials.source
  if source ≠ .secret then throw (.unsupportedSource source)
  let some selector := spec.credentials.secretRef | throw .missingSecretRef
  let key := selector.storeKey
  match store.get key with
  | .error e => throw (.store e)
  | .ok none => throw (.secretNotFound key)
  | .ok (some payload) => fromPayload payload

end Credentials

end NetReconcile.Secrets
