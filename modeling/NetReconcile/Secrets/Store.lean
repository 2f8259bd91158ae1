import NetReconcile.Text.Quoted

/-!
# Secret stores

A secret store keeps credential payloads under keys of the form
`namespace/name/key`. The engine only ever reads a store, so what it sees of one is a
`SecretSource`: the payload under a key, none, or the store's failure. Any store can be
read so, and two kinds exist here.

* A memory store holds its secrets in key order (the order of their bytes); listing
  the keys under a prefix gives them in that order.
* A keyring store stands for the operating system's keyring, here its in-process stand-in:
  every entry is fresh and empty, so reading gives nothing, writing and deleting succeed
  without effect, and listing is refused because a keyring cannot enumerate entries.
-/

namespace NetReconcile.Secrets

/-- Failure reading or writing a secret. -/
inductive StoreError where
  | accessDenied (key : String)
  | backend (key message : String)
  | keyringUnavailable (message : String)
  deriving DecidableEq, Repr

/-- The text of a store failure. -/
def StoreError.message : StoreError → String
  | .accessDenied k => s!"no permission to read secret {k}"
  | .backend k m => s!"secret backend failed on {k}: {m}"
  | .keyringUnavailable m => s!"keyring not available: {m}"

/-- The name of a store failure's case. -/
def StoreError.caseName : StoreError → String
  | .accessDenied _ => "AccessDenied"
  | .backend _ _ => "Backend"
  | .keyringUnavailable _ => "KeyringUnavailable"

/-- Insert or replace a secret, keeping the keys in order. -/
def insertSecret (key value : String) : List (String × String) → List (String × String)
  | [] => [(key, value)]
  | (k, v) :: rest =>
    if key = k then (key, value) :: rest
    else if key < k then (key, value) :: (k, v) :: rest
    else (k, v) :: insertSecret key value rest

/-- The secrets from a key on, in key order: a range of an ordered map. -/
def rangeFrom (key : String) (secrets : List (String × String)) : List (String × String) :=
  secrets.filter fun kv => decide (key ≤ kv.1)

/-- What reading a secret store gives: the payload under a key, none when there is none,
or the store's failure. -/
structure SecretSource where
  get : String → Except StoreError (Option String)

/-- A secret store. -/
inductive SecretStore where
  /-- Secrets held in memory, in key order, each key once. -/
  | memory (secrets : List (String × String))
  /-- The keyring under a service name. -/
  | keyring (service : String)
  deriving DecidableEq, Repr

namespace SecretStore

/-- An empty memory store. -/
def empty : SecretStore := .memory []

/-- A memory store holding the given secrets; a later value for a key replaces an
earlier one. -/
def ofList (secrets : List (String × String)) : SecretStore :=
  .memory (secrets.foldl (fun acc kv => insertSecret kv.1 kv.2 acc) [])

/-- The store chosen by preference: the keyring under the service `driftforge`, or
memory. -/
def create (preferKeyring : Bool) : SecretStore :=
  if preferKeyring then .keyring "driftforge" else empty

/-- The secret under a key, if any. -/
def get : SecretStore → String → Except StoreError (Option String)
  | .memory s, key => .ok ((s.find? (·.1 == key)).map (·.2))
  | .keyring _, _ => .ok none

/-- Store a secret under a key, replacing any earlier one. -/
def set : SecretStore → String → String → Except StoreError SecretStore
  | .memory s, key, value => .ok (.memory (insertSecret key value s))
  | .keyring n, _, _ => .ok (.keyring n)

/-- Remove the secret under a key; removing a missing one succeeds. -/
def delete : SecretStore → String → Except StoreError SecretStore
  | .memory s, key => .ok (.memory (s.filter (·.1 != key)))
  | .keyring n, _ => .ok (.keyring n)

/-- The keys starting with a prefix, in order: the secrets from the prefix on, read while
their keys start with it. -/
def listKeys : SecretStore → String → Except StoreError (List String)
  | .memory s, p => .ok (((rangeFrom p s).takeWhile (·.1.startsWith p)).map (·.1))
  | .keyring _, p => .error (.backend p "the keyring cannot enumerate entries")

/-- The store as the engine reads it. -/
def source (st : SecretStore) : SecretSource := ⟨st.get⟩

/-- Whether a secret is stored under a key. -/
def contains (st : SecretStore) (key : String) : Except StoreError Bool :=
  Option.isSome <$> st.get key

/-- The debugging text of a store: the number of secrets held in memory, or the
keyring's service name, never a secret. -/
def debugText : SecretStore → String
  | .memory s => "MemoryStore \x7b secrets: " ++ toString s.length ++ " \x7d"
  | .keyring n => "KeyringStore \x7b service_name: " ++ Text.quoted n ++ " \x7d"

end SecretStore

end NetReconcile.Secrets
