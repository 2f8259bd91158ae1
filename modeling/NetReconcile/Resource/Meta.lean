import NetReconcile.Json.Decode
import NetReconcile.Json.Plain
import NetReconcile.Resource.Errors

/-!
# Identity of declared resources

A declared resource has a name, a namespace unless it is cluster-wide, the external
name the provider gave it once it was created, and a flag its owner sets to ask for its
removal. The external name is the only key used to find the resource again, so once
recorded it may be recorded again but never replaced; an empty external name counts as
none.
-/

namespace NetReconcile.Resource

open Json

/-- Identity of a declared resource. -/
structure ObjectMeta where
  name : String
  /-- The namespace; none for a cluster-wide resource. -/
  ns : Option String
  /-- The provider's identifier, recorded after a successful create. -/
  externalName : Option String
  deletionRequested : Bool
  deriving DecidableEq, Repr

namespace ObjectMeta

/-- Identity of a resource in a namespace. -/
def namespaced (ns name : String) : ObjectMeta := ⟨name, some ns, none, false⟩

/-- Identity of a cluster-wide resource. -/
def cluster (name : String) : ObjectMeta := ⟨name, none, none, false⟩

/-- The recorded external name; an empty one counts as none. -/
def recorded (m : ObjectMeta) : Option String :=
  m.externalName.filter (!·.isEmpty)

/-- Record the provider's identifier: refused when a different one is recorded. -/
def recordExternalName (m : ObjectMeta) (id : String) : Except NameConflict ObjectMeta :=
  match m.recorded with
  | some r => if r = id then .ok { m with externalName := some id } else .error ⟨r, id⟩
  | none => .ok { m with externalName := some id }

/-- The key of a resource: `namespace/name`, or the name alone when cluster-wide. -/
def key (m : ObjectMeta) : String :=
  match m.ns with
  | some ns => ns ++ "/" ++ m.name
  | none => m.name

/-- Identity read from its JSON form. -/
def decode : Decoder ObjectMeta :=
  let name := Field.required "name" 0 Decode.string
  let ns := Field.optional "namespace" 1 Decode.string
  let ext := Field.optional "externalName" 2 Decode.string
  let del := Field.withDefault "deletionRequested" 3 Decode.bool false
  record "ObjectMeta" [name.erase, ns.erase, ext.erase, del.erase] fun src => do
    return ⟨← src.get name, ← src.get ns, ← src.get ext, ← src.get del⟩

/-- The JSON form of an identity; an absent namespace or external name is left out. -/
def encode (m : ObjectMeta) : Value :=
  .obj ([("name", .str m.name)] ++ optionalField "namespace" m.ns ++
    optionalField "externalName" m.externalName ++ [("deletionRequested", .bool m.deletionRequested)])

end ObjectMeta

end NetReconcile.Resource
