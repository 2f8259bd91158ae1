import NetReconcile.Resource.Kind
import NetReconcile.Json.Plain

/-!
# Security groups

A security group has a name and an optional description, both updatable. The provider
reports no status for it, so it is always available.
-/

namespace NetReconcile.SecurityGroup

open Json Resource

/-- Declared parameters of a security group. -/
structure Params where
  name : String
  description : Option String
  deriving DecidableEq, Repr

/-- What the engine keeps of a provider's security group. -/
structure Observation where
  id : String
  status : String
  deriving DecidableEq, Repr

/-- A security group as the provider holds it. -/
structure Record where
  id : String
  name : String
  description : String
  status : String
  deriving DecidableEq, Repr

/-- A create or update request. -/
structure Opts where
  name : String
  description : Option String
  deriving DecidableEq, Repr

/-- Parameters read from their JSON form. -/
def Params.decode : Decoder Params :=
  let name := Field.required "name" 0 Decode.string
  let description := Field.optional "description" 1 Decode.string
  record "SecurityGroupParameters" [name.erase, description.erase] fun src => do
    return { name := ← src.get name, description := ← src.get description }

/-- The JSON form of parameters; an unset description is left out. -/
def Params.encode (p : Params) : Value :=
  .obj ([("name", .str p.name)] ++ optionalField "description" p.description)

/-- An observation read from its JSON form; every field may be absent. -/
def Observation.decode : Decoder Observation :=
  let id := Field.withDefault "id" 0 Decode.string ""
  let status := Field.withDefault "status" 1 Decode.string ""
  record "SecurityGroupObservation" [id.erase, status.erase] fun src => do
    return { id := ← src.get id, status := ← src.get status }

/-- The JSON form of an observation. -/
def Observation.encode (o : Observation) : Value :=
  .obj [("id", .str o.id), ("status", .str o.status)]

/-- A record read from its plain form. -/
def Record.decode (v : Value) : Except String Record := do
  let fs ← Plain.fields "SecurityGroup record" ["id", "name", "description", "status"] v
  return { id := ← Plain.text fs "id", name := ← Plain.text fs "name",
           description := ← Plain.text fs "description", status := ← Plain.text fs "status" }

/-- The plain form of a record. -/
def Record.encode (r : Record) : Value :=
  .obj [("id", .str r.id), ("name", .str r.name), ("description", .str r.description),
        ("status", .str r.status)]

/-- The plain form of a request. -/
def Opts.encode (o : Opts) : Value :=
  .obj [("name", .str o.name), ("description", Value.ofOption o.description)]

/-- The security group kind: nothing is immutable; a created group has an empty status;
an update sets the name and a given description. -/
def kind : Kind where
  tag := "SecurityGroup"
  Params := Params
  Obs := Observation
  Rec := Record
  CreateOpts := Opts
  UpdateOpts := Opts
  statusTable := StatusTable.constant .available
  remoteId r := r.id
  rawStatus r := r.status
  observe r := { id := r.id, status := r.status }
  adoptions := [Adoption.text "description" (·.description) (fun p v => { p with description := some v })
    (·.description)]
  comparisons := [Comparison.required "name" (·.name) (·.name),
    Comparison.optional "description" (·.description) (·.description)]
  guards := []
  createOpts p := { name := p.name, description := p.description }
  updateOpts p := some { name := p.name, description := p.description }
  parent _ := none
  simulateCreate id o := { id := id, name := o.name, description := o.description.getD "", status := "" }
  simulateUpdate r o := { r with name := o.name, description := o.description.getD r.description }
  decodeParams := Params.decode
  encodeParams := Params.encode
  decodeObs := Observation.decode
  encodeObs := Observation.encode
  emptyObs := { id := "", status := "" }
  decodeRec := Record.decode
  encodeRec := Record.encode
  encodeCreate := Opts.encode
  encodeUpdate := Opts.encode

end NetReconcile.SecurityGroup
