import NetReconcile.Resource.Kind
import NetReconcile.Json.Plain

/-!
# Virtual private clouds

A VPC has a name, a CIDR block fixed at creation, and an optional description that the
provider may fill in. Name and description can be updated.
-/

namespace NetReconcile.Vpc

open Json Resource

/-- Declared parameters of a VPC. -/
structure Params where
  name : String
  cidr : String
  description : Option String
  deriving DecidableEq, Repr

/-- What the engine keeps of a provider's VPC. -/
structure Observation where
  id : String
  status : String
  cidr : String
  deriving DecidableEq, Repr

/-- A VPC as the provider holds it. -/
structure Record where
  id : String
  name : String
  cidr : String
  description : String
  status : String
  deriving DecidableEq, Repr

/-- A create request. -/
structure CreateOpts where
  name : String
  cidr : String
  description : Option String
  deriving DecidableEq, Repr

/-- An update request. -/
structure UpdateOpts where
  name : String
  description : Option String
  deriving DecidableEq, Repr

/-- Provider status words: `ACTIVE` and `OK` are available, `CREATING` and
`PENDING_UPDATE` creating, `PENDING_DELETE` deleting, anything else unavailable. -/
def statusTable : StatusTable :=
  ⟨["ACTIVE", "OK"], ["CREATING", "PENDING_UPDATE"], ["PENDING_DELETE"], [], .unavailable⟩

/-- Parameters read from their JSON form. -/
def Params.decode : Decoder Params :=
  let name := Field.required "name" 0 Decode.string
  let cidr := Field.required "cidr" 1 Decode.string
  let description := Field.optional "description" 2 Decode.string
  record "VpcParameters" [name.erase, cidr.erase, description.erase] fun src => do
    return { name := ← src.get name, cidr := ← src.get cidr, description := ← src.get description }

/-- The JSON form of parameters; an unset description is left out. -/
def Params.encode (p : Params) : Value :=
  .obj ([("name", .str p.name), ("cidr", .str p.cidr)] ++ optionalField "description" p.description)

/-- An observation read from its JSON form; every field may be absent. -/
def Observation.decode : Decoder Observation :=
  let id := Field.withDefault "id" 0 Decode.string ""
  let status := Field.withDefault "status" 1 Decode.string ""
  let cidr := Field.withDefault "cidr" 2 Decode.string ""
  record "VpcObservation" [id.erase, status.erase, cidr.erase] fun src => do
    return { id := ← src.get id, status := ← src.get status, cidr := ← src.get cidr }

/-- The JSON form of an observation. -/
def Observation.encode (o : Observation) : Value :=
  .obj [("id", .str o.id), ("status", .str o.status), ("cidr", .str o.cidr)]

/-- A record read from its plain form. -/
def Record.decode (v : Value) : Except String Record := do
  let fs ← Plain.fields "VPC record" ["id", "name", "cidr", "description", "status"] v
  return { id := ← Plain.text fs "id", name := ← Plain.text fs "name",
           cidr := ← Plain.text fs "cidr", description := ← Plain.text fs "description",
           status := ← Plain.text fs "status" }

/-- The plain form of a record. -/
def Record.encode (r : Record) : Value :=
  .obj [("id", .str r.id), ("name", .str r.name), ("cidr", .str r.cidr),
        ("description", .str r.description), ("status", .str r.status)]

/-- The VPC kind: the CIDR block is immutable; a created VPC is `OK` and keeps an
absent description as empty; an update sets the name and a given description. -/
def kind : Kind where
  tag := "VPC"
  Params := Params
  Obs := Observation
  Rec := Record
  CreateOpts := CreateOpts
  UpdateOpts := UpdateOpts
  statusTable := statusTable
  remoteId r := r.id
  rawStatus r := r.status
  observe r := { id := r.id, status := r.status, cidr := r.cidr }
  adoptions := [Adoption.text "description" (·.description) (fun p v => { p with description := some v })
    (·.description)]
  comparisons := [Comparison.required "name" (·.name) (·.name),
    Comparison.required "cidr" (·.cidr) (·.cidr),
    Comparison.optional "description" (·.description) (·.description)]
  guards := [Guard.required "cidr" (fun (p : Params) => p.cidr) (fun (o : Observation) => o.cidr)]
  createOpts p := { name := p.name, cidr := p.cidr, description := p.description }
  updateOpts p := some { name := p.name, description := p.description }
  parent _ := none
  simulateCreate id o :=
    { id := id, name := o.name, cidr := o.cidr, description := o.description.getD "", status := "OK" }
  simulateUpdate r o :=
    { r with name := o.name, description := o.description.getD r.description }
  decodeParams := Params.decode
  encodeParams := Params.encode
  decodeObs := Observation.decode
  encodeObs := Observation.encode
  emptyObs := { id := "", status := "", cidr := "" }
  decodeRec := Record.decode
  encodeRec := Record.encode
  encodeCreate o :=
    .obj [("name", .str o.name), ("cidr", .str o.cidr), ("description", Value.ofOption o.description)]
  encodeUpdate o := .obj [("name", .str o.name), ("description", Value.ofOption o.description)]

end NetReconcile.Vpc
