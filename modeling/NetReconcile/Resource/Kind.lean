import NetReconcile.Resource.Condition
import NetReconcile.Resource.Rules
import NetReconcile.Resource.Errors

/-!
# Resource kinds

A resource kind says what its declared parameters, its observation and the provider's
record look like, how a provider status word maps to a condition, which fields drift,
which are adopted from the provider, which may never change, how create and update
requests are built, and how the provider answers them. An update request that the kind
cannot make at all (`updateOpts` gives none) means the kind is immutable.

Every kind also carries its wire forms: the JSON of its parameters and observation,
and the plain JSON form of provider records and requests.
-/

namespace NetReconcile.Resource

open Json

/-- Everything the engine needs to know about one kind of resource. -/
structure Kind where
  /-- The tag naming the kind, as used in messages. -/
  tag : String
  Params : Type
  Obs : Type
  Rec : Type
  CreateOpts : Type
  UpdateOpts : Type
  /-- How provider status words map to conditions. -/
  statusTable : StatusTable
  /-- The provider's identifier of a record. -/
  remoteId : Rec → String
  /-- The provider's status word of a record. -/
  rawStatus : Rec → String
  /-- What the engine keeps of a record. -/
  observe : Rec → Obs
  /-- Optional fields adopted from the provider, in order. -/
  adoptions : List (Adoption Params Rec)
  /-- Fields compared by drift detection, in order. -/
  comparisons : List (Comparison Params Rec)
  /-- Fields that may never change, in order. -/
  guards : List (Guard Params Obs)
  createOpts : Params → CreateOpts
  /-- The update request; none when the kind cannot be updated. -/
  updateOpts : Params → Option UpdateOpts
  /-- The parent the provider files a resource under. -/
  parent : Params → Option String
  /-- The record a provider holds after creating from a request. -/
  simulateCreate : String → CreateOpts → Rec
  /-- The record a provider holds after applying an update request. -/
  simulateUpdate : Rec → UpdateOpts → Rec
  decodeParams : Decoder Params
  encodeParams : Params → Value
  decodeObs : Decoder Obs
  encodeObs : Obs → Value
  /-- The observation of a resource never seen at the provider. -/
  emptyObs : Obs
  /-- A record from its plain JSON form; an error names the offending field. -/
  decodeRec : Value → Except String Rec
  encodeRec : Rec → Value
  encodeCreate : CreateOpts → Value
  encodeUpdate : UpdateOpts → Value

namespace Kind

/-- The condition of a record. -/
def condition (k : Kind) (r : k.Rec) : Condition := k.statusTable.condition (k.rawStatus r)

/-- The fields of desired parameters that drift from a record. -/
def drift (k : Kind) (p : k.Params) (r : k.Rec) : List String := Resource.drift k.comparisons p r

/-- Late initialization of desired parameters from a record. -/
def lateInit (k : Kind) (p : k.Params) (r : k.Rec) : k.Params × List String :=
  Resource.lateInit k.adoptions p r

/-- The first immutable field the desired parameters would change. -/
def changedImmutable (k : Kind) (p : k.Params) (o : k.Obs) : Option String :=
  firstChanged k.guards p o

/-- The immutability check: refused with the first immutable field that would change. -/
def checkImmutable (k : Kind) (p : k.Params) (o : k.Obs) : Except LifecycleError Unit :=
  match k.changedImmutable p o with
  | some f => .error (.immutableField k.tag f)
  | none => .ok ()

/-- The update request, refused when the kind cannot be updated. -/
def updateRequest (k : Kind) (p : k.Params) : Except LifecycleError k.UpdateOpts :=
  match k.updateOpts p with
  | some o => .ok o
  | none => .error (.immutable k.tag)

end Kind

end NetReconcile.Resource
