import NetReconcile.Resource.Kind
import NetReconcile.Json.Plain
import NetReconcile.Kinds.Codes

/-!
# NAT gateways

A NAT gateway sits in a VPC and a subnet, both fixed at creation. Its size is declared
in words or digits and sent as a size code; drift compares the code with the provider's.
Name, description and size can be updated.
-/

namespace NetReconcile.NatGateway

open Json Resource

/-- Declared parameters of a NAT gateway. -/
structure Params where
  name : String
  description : Option String
  spec : String
  vpcId : String
  subnetId : String
  deriving DecidableEq, Repr

/-- What the engine keeps of a provider's NAT gateway. -/
structure Observation where
  id : String
  status : String
  adminStateUp : Bool
  vpcId : String
  subnetId : String
  deriving DecidableEq, Repr

/-- A NAT gateway as the provider holds it. -/
structure Record where
  id : String
  name : String
  description : String
  spec : String
  routerId : String
  internalNetworkId : String
  adminStateUp : Bool
  status : String
  deriving DecidableEq, Repr

/-- A create request. -/
structure CreateOpts where
  name : String
  description : Option String
  spec : String
  routerId : String
  internalNetworkId : String
  deriving DecidableEq, Repr

/-- An update request. -/
structure UpdateOpts where
  name : String
  description : Option String
  spec : String
  deriving DecidableEq, Repr

/-- Provider status words: `ACTIVE` and `OK` are available, `PENDING_CREATE` and
`PENDING_UPDATE` creating, `PENDING_DELETE` deleting, anything else unavailable. -/
def statusTable : StatusTable :=
  ⟨["ACTIVE", "OK"], ["PENDING_CREATE", "PENDING_UPDATE"], ["PENDING_DELETE"], [], .unavailable⟩

/-- Parameters read from their JSON form. -/
def Params.decode : Decoder Params :=
  let name := Field.required "name" 0 Decode.string
  let description := Field.optional "description" 1 Decode.string
  let spec := Field.required "spec" 2 Decode.string
  let vpcId := Field.withDefault "vpcId" 3 Decode.string ""
  let subnetId := Field.withDefault "subnetId" 4 Decode.string ""
  record "NatGatewayParameters" [name.erase, description.erase, spec.erase, vpcId.erase,
      subnetId.erase] fun src => do
    return { name := ← src.get name, description := ← src.get description, spec := ← src.get spec,
             vpcId := ← src.get vpcId, subnetId := ← src.get subnetId }

/-- The JSON form of parameters; an unset description is left out. -/
def Params.encode (p : Params) : Value :=
  .obj ([("name", .str p.name)] ++ optionalField "description" p.description ++
        [("spec", .str p.spec), ("vpcId", .str p.vpcId), ("subnetId", .str p.subnetId)])

/-- An observation read from its JSON form; every field may be absent. -/
def Observation.decode : Decoder Observation :=
  let id := Field.withDefault "id" 0 Decode.string ""
  let status := Field.withDefault "status" 1 Decode.string ""
  let adminStateUp := Field.withDefault "adminStateUp" 2 Decode.bool false
  let vpcId := Field.withDefault "vpcId" 3 Decode.string ""
  let subnetId := Field.withDefault "subnetId" 4 Decode.string ""
  record "NatGatewayObservation" [id.erase, status.erase, adminStateUp.erase, vpcId.erase,
      subnetId.erase] fun src => do
    return { id := ← src.get id, status := ← src.get status, adminStateUp := ← src.get adminStateUp,
             vpcId := ← src.get vpcId, subnetId := ← src.get subnetId }

/-- The JSON form of an observation. -/
def Observation.encode (o : Observation) : Value :=
  .obj [("id", .str o.id), ("status", .str o.status), ("adminStateUp", .bool o.adminStateUp),
        ("vpcId", .str o.vpcId), ("subnetId", .str o.subnetId)]

/-- A record read from its plain form. -/
def Record.decode (v : Value) : Except String Record := do
  let fs ← Plain.fields "NATGateway record" ["id", "name", "description", "spec", "routerId",
    "internalNetworkId", "adminStateUp", "status"] v
  return { id := ← Plain.text fs "id", name := ← Plain.text fs "name",
           description := ← Plain.text fs "description", spec := ← Plain.text fs "spec",
           routerId := ← Plain.text fs "routerId",
           internalNetworkId := ← Plain.text fs "internalNetworkId",
           adminStateUp := ← Plain.flag fs "adminStateUp", status := ← Plain.text fs "status" }

/-- The plain form of a record. -/
def Record.encode (r : Record) : Value :=
  .obj [("id", .str r.id), ("name", .str r.name), ("description", .str r.description),
        ("spec", .str r.spec), ("routerId", .str r.routerId),
        ("internalNetworkId", .str r.internalNetworkId), ("adminStateUp", .bool r.adminStateUp),
        ("status", .str r.status)]

/-- The NAT gateway kind: VPC and subnet are immutable; the size is compared and sent as
its code; a created gateway is `ACTIVE` and up; an update sets name and size and a
given description. -/
def kind : Kind where
  tag := "NATGateway"
  Params := Params
  Obs := Observation
  Rec := Record
  CreateOpts := CreateOpts
  UpdateOpts := UpdateOpts
  statusTable := statusTable
  remoteId r := r.id
  rawStatus r := r.status
  observe r := { id := r.id, status := r.status, adminStateUp := r.adminStateUp,
                 vpcId := r.routerId, subnetId := r.internalNetworkId }
  adoptions := [Adoption.text "description" (·.description) (fun p v => { p with description := some v })
    (·.description)]
  comparisons := [Comparison.required "name" (·.name) (·.name),
    Comparison.optional "description" (·.description) (·.description),
    Comparison.required "spec" (fun (p : Params) => Codes.sizeCode p.spec) (·.spec),
    Comparison.required "vpcId" (·.vpcId) (·.routerId),
    Comparison.required "subnetId" (·.subnetId) (·.internalNetworkId)]
  guards := [Guard.required "vpcId" (fun (p : Params) => p.vpcId) (fun (o : Observation) => o.vpcId),
    Guard.required "subnetId" (fun (p : Params) => p.subnetId) (fun (o : Observation) => o.subnetId)]
  createOpts p := { name := p.name, description := p.description, spec := Codes.sizeCode p.spec,
                    routerId := p.vpcId, internalNetworkId := p.subnetId }
  updateOpts p := some { name := p.name, description := p.description, spec := Codes.sizeCode p.spec }
  parent _ := none
  simulateCreate id o :=
    { id := id, name := o.name, description := o.description.getD "", spec := o.spec,
      routerId := o.routerId, internalNetworkId := o.internalNetworkId, adminStateUp := true,
      status := "ACTIVE" }
  simulateUpdate r o :=
    { r with name := o.name, spec := o.spec, description := o.description.getD r.description }
  decodeParams := Params.decode
  encodeParams := Params.encode
  decodeObs := Observation.decode
  encodeObs := Observation.encode
  emptyObs := { id := "", status := "", adminStateUp := false, vpcId := "", subnetId := "" }
  decodeRec := Record.decode
  encodeRec := Record.encode
  encodeCreate o :=
    .obj [("name", .str o.name), ("description", Value.ofOption o.description),
          ("spec", .str o.spec), ("routerId", .str o.routerId),
          ("internalNetworkId", .str o.internalNetworkId)]
  encodeUpdate o :=
    .obj [("name", .str o.name), ("description", Value.ofOption o.description), ("spec", .str o.spec)]

end NetReconcile.NatGateway
