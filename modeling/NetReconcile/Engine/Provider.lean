import NetReconcile.Resource.Kind

/-!
# A provider held in memory

The provider's resource API for one kind, kept as data: its records by identifier, the
calls it has received, failures queued for the next calls, and the regions clients were
built for. Every call is logged first; a queued failure then answers it with an API
error, whatever the call. A created record gets the identifier `kind-n`, the kind's tag
in lower case and `n` counting successful creates from 1 with a 64-bit counter that
wraps, and is stored as the kind says a provider keeps it. Updating or deleting a record that is not there answers that
the resource is not found.

Records are kept sorted by identifier, which is the order they are listed in.
-/

namespace NetReconcile.Engine

open Json Resource

/-- How an update or delete addresses a record: its identifier and, for kinds filed
under a parent, the parent's identifier. -/
structure Locator where
  id : String
  parent : Option String
  deriving DecidableEq, Repr

/-- The JSON form of a locator. -/
def Locator.encode (l : Locator) : Value :=
  .obj [("id", .str l.id), ("parent", Value.ofOption l.parent)]

/-- A call the provider received. -/
inductive Call where
  | get (id : String)
  | create
  | update (loc : Locator)
  | delete (loc : Locator)
  deriving DecidableEq, Repr

/-- The JSON form of a call. -/
def Call.encode : Call → Value
  | .get id => .obj [("get", .str id)]
  | .create => .str "create"
  | .update l => .obj [("update", l.encode)]
  | .delete l => .obj [("delete", l.encode)]

/-- Put a record under an identifier, replacing one there and keeping identifiers in
order. -/
def putRecord (id : String) (r : ρ) : List (String × ρ) → List (String × ρ)
  | [] => [(id, r)]
  | (j, s) :: rest =>
    if id = j then (id, r) :: rest
    else if id < j then (id, r) :: (j, s) :: rest
    else (j, s) :: putRecord id r rest

/-- The provider of one kind. -/
structure Provider (k : Kind) where
  /-- Live records by identifier, in order of identifier. -/
  records : List (String × k.Rec)
  /-- Calls received, oldest first. -/
  calls : List Call
  /-- Messages of failures for the next calls, first one first. -/
  failures : List String
  /-- Regions clients were built for, oldest first. -/
  regions : List String
  /-- Successful creates so far, modulo 2^64. -/
  created : UInt64

namespace Provider

variable {k : Kind}

/-- A provider with nothing in it. -/
def empty : Provider k := ⟨[], [], [], [], 0⟩

/-- The record under an identifier. -/
def find? (p : Provider k) (id : String) : Option k.Rec :=
  (p.records.find? (·.1 == id)).map (·.2)

/-- Store a record as if it had always been there. -/
def insert (p : Provider k) (id : String) (r : k.Rec) : Provider k :=
  { p with records := putRecord id r p.records }

/-- Change a record behind the engine's back; false when there is none. -/
def modify (p : Provider k) (id : String) (f : k.Rec → k.Rec) : Provider k × Bool :=
  match p.find? id with
  | some r => (p.insert id (f r), true)
  | none => (p, false)

/-- Remove a record behind the engine's back; false when there is none. -/
def remove (p : Provider k) (id : String) : Provider k × Bool :=
  ((⟨p.records.filter (·.1 != id), p.calls, p.failures, p.regions, p.created⟩ : Provider k),
    (p.find? id).isSome)

/-- Queue a failure for the next call. -/
def failNext (p : Provider k) (message : String) : Provider k :=
  { p with failures := p.failures ++ [message] }

/-- Log a call and take the failure queued for it, if any. -/
def receive (p : Provider k) (c : Call) : Provider k × Option String :=
  match p.failures with
  | [] => ({ p with calls := p.calls ++ [c] }, none)
  | m :: rest => ({ p with calls := p.calls ++ [c], failures := rest }, some m)

/-- Fetch a record. -/
def get (p : Provider k) (id : String) : Provider k × Except ProviderError k.Rec :=
  match p.receive (.get id) with
  | (p, some m) => (p, .error (.api m))
  | (p, none) =>
    match p.find? id with
    | some r => (p, .ok r)
    | none => (p, .error .notFound)

/-- The identifier of the `n`-th created record. -/
def idFor (n : UInt64) : String := String.map Char.toLower k.tag ++ "-" ++ toString n

/-- Create a record from a request. -/
def create (p : Provider k) (opts : k.CreateOpts) : Provider k × Except ProviderError k.Rec :=
  match p.receive .create with
  | (p, some m) => (p, .error (.api m))
  | (p, none) =>
    let n := p.created + 1
    let r := k.simulateCreate (idFor (k := k) n) opts
    ({ p.insert (idFor (k := k) n) r with created := n }, .ok r)

/-- Apply an update request to a record. -/
def update (p : Provider k) (l : Locator) (opts : k.UpdateOpts) :
    Provider k × Except ProviderError Unit :=
  match p.receive (.update l) with
  | (p, some m) => (p, .error (.api m))
  | (p, none) =>
    match p.modify l.id (k.simulateUpdate · opts) with
    | (p, true) => (p, .ok ())
    | (p, false) => (p, .error .notFound)

/-- Delete a record. -/
def delete (p : Provider k) (l : Locator) : Provider k × Except ProviderError Unit :=
  match p.receive (.delete l) with
  | (p, some m) => (p, .error (.api m))
  | (p, none) =>
    match p.remove l.id with
    | (p, true) => (p, .ok ())
    | (p, false) => (p, .error .notFound)

/-- Build a client for a region; the provider notes the region. -/
def client (p : Provider k) (region : String) : Provider k :=
  { p with regions := p.regions ++ [region] }

end Provider

end NetReconcile.Engine
