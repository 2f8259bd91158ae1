import NetReconcile.Resource.Kind
import NetReconcile.Json.Plain

/-!
# Subnets

A subnet lives in a VPC and has a CIDR block and gateway address, all three fixed at
creation. DHCP, the two DNS servers and the description may be filled in by the
provider and updated later. The provider files a subnet under its VPC.
-/

namespace NetReconcile.Subnet

open Json Resource

/-- Declared parameters of a subnet. -/
structure Params where
  name : String
  cidr : String
  gatewayIp : String
  vpcId : String
  dhcpEnable : Option Bool
  primaryDns : Option String
  secondaryDns : Option String
  availabilityZone : Option String
  description : Option String
  deriving DecidableEq, Repr

/-- What the engine keeps of a provider's subnet. -/
structure Observation where
  id : String
  status : String
  cidr : String
  gatewayIp : String
  vpcId : String
  deriving DecidableEq, Repr

/-- A subnet as the provider holds it. -/
structure Record where
  id : String
  name : String
  cidr : String
  gatewayIp : String
  vpcId : String
  dhcpEnable : Bool
  primaryDns : String
  secondaryDns : String
  availabilityZone : String
  description : String
  status : String
  deriving DecidableEq, Repr

/-- A create request. -/
structure CreateOpts where
  name : String
  cidr : String
  gatewayIp : String
  vpcId : String
  dhcpEnable : Option Bool
  primaryDns : Option String
  secondaryDns : Option String
  availabilityZone : Option String
  description : Option String
  deriving DecidableEq, Repr

/-- An update request. -/
structure UpdateOpts where
  name : String
  dhcpEnable : Option Bool
  primaryDns : Option String
  secondaryDns : Option String
  description : Option String
  deriving DecidableEq, Repr

/-- Provider status words: `ACTIVE` and `OK` are available, `CREATING` and `UNKNOWN`
creating, anything else unavailable. -/
def statusTable : StatusTable :=
  ⟨["ACTIVE", "OK"], ["CREATING", "UNKNOWN"], [], [], .unavailable⟩

/-- Parameters read from their JSON form. -/
def Params.decode : Decoder Params :=
  let name := Field.required "name" 0 Decode.string
  let cidr := Field.required "cidr" 1 Decode.string
  let gatewayIp := Field.required "gatewayIp" 2 Decode.string
  let vpcId := Field.withDefault "vpcId" 3 Decode.string ""
  let dhcpEnable := Field.optional "dhcpEnable" 4 Decode.bool
  let primaryDns := Field.optional "primaryDns" 5 Decode.string
  let secondaryDns := Field.optional "secondaryDns" 6 Decode.string
  let availabilityZone := Field.optional "availabilityZone" 7 Decode.string
  let description := Field.optional "description" 8 Decode.string
  record "SubnetParameters" [name.erase, cidr.erase, gatewayIp.erase, vpcId.erase,
      dhcpEnable.erase, primaryDns.erase, secondaryDns.erase, availabilityZone.erase,
      description.erase] fun src => do
    return { name := ← src.get name, cidr := ← src.get cidr, gatewayIp := ← src.get gatewayIp,
             vpcId := ← src.get vpcId, dhcpEnable := ← src.get dhcpEnable,
             primaryDns := ← src.get primaryDns, secondaryDns := ← src.get secondaryDns,
             availabilityZone := ← src.get availabilityZone,
             description := ← src.get description }

/-- The JSON form of parameters; unset optional fields are left out. -/
def Params.encode (p : Params) : Value :=
  .obj ([("name", .str p.name), ("cidr", .str p.cidr), ("gatewayIp", .str p.gatewayIp),
         ("vpcId", .str p.vpcId)] ++
        (match p.dhcpEnable with
          | some b => [("dhcpEnable", .bool b)]
          | none => []) ++
        optionalField "primaryDns" p.primaryDns ++ optionalField "secondaryDns" p.secondaryDns ++
        optionalField "availabilityZone" p.availabilityZone ++
        optionalField "description" p.description)

/-- An observation read from its JSON form; every field may be absent. -/
def Observation.decode : Decoder Observation :=
  let id := Field.withDefault "id" 0 Decode.string ""
  let status := Field.withDefault "status" 1 Decode.string ""
  let cidr := Field.withDefault "cidr" 2 Decode.string ""
  let gatewayIp := Field.withDefault "gatewayIp" 3 Decode.string ""
  let vpcId := Field.withDefault "vpcId" 4 Decode.string ""
  record "SubnetObservation" [id.erase, status.erase, cidr.erase, gatewayIp.erase, vpcId.erase]
    fun src => do
      return { id := ← src.get id, status := ← src.get status, cidr := ← src.get cidr,
               gatewayIp := ← src.get gatewayIp, vpcId := ← src.get vpcId }

/-- The JSON form of an observation. -/
def Observation.encode (o : Observation) : Value :=
  .obj [("id", .str o.id), ("status", .str o.status), ("cidr", .str o.cidr),
        ("gatewayIp", .str o.gatewayIp), ("vpcId", .str o.vpcId)]

/-- A record read from its plain form. -/
def Record.decode (v : Value) : Except String Record := do
  let fs ← Plain.fields "Subnet record" ["id", "name", "cidr", "gatewayIp", "vpcId", "dhcpEnable",
    "primaryDns", "secondaryDns", "availabilityZone", "description", "status"] v
  return { id := ← Plain.text fs "id", name := ← Plain.text fs "name",
           cidr := ← Plain.text fs "cidr", gatewayIp := ← Plain.text fs "gatewayIp",
           vpcId := ← Plain.text fs "vpcId", dhcpEnable := ← Plain.flag fs "dhcpEnable",
           primaryDns := ← Plain.text fs "primaryDns", secondaryDns := ← Plain.text fs "secondaryDns",
           availabilityZone := ← Plain.text fs "availabilityZone",
           description := ← Plain.text fs "description", status := ← Plain.text fs "status" }

/-- The plain form of a record. -/
def Record.encode (r : Record) : Value :=
  .obj [("id", .str r.id), ("name", .str r.name), ("cidr", .str r.cidr),
        ("gatewayIp", .str r.gatewayIp), ("vpcId", .str r.vpcId), ("dhcpEnable", .bool r.dhcpEnable),
        ("primaryDns", .str r.primaryDns), ("secondaryDns", .str r.secondaryDns),
        ("availabilityZone", .str r.availabilityZone), ("description", .str r.description),
        ("status", .str r.status)]

/-- The subnet kind: VPC, CIDR block and gateway are immutable, in that order; a
created subnet is `ACTIVE` with DHCP on unless asked otherwise, and empty texts for
absent fields; an update sets the name and each given optional field. -/
def kind : Kind where
  tag := "Subnet"
  Params := Params
  Obs := Observation
  Rec := Record
  CreateOpts := CreateOpts
  UpdateOpts := UpdateOpts
  statusTable := statusTable
  remoteId r := r.id
  rawStatus r := r.status
  observe r := { id := r.id, status := r.status, cidr := r.cidr, gatewayIp := r.gatewayIp,
                 vpcId := r.vpcId }
  adoptions := [
    Adoption.value "dhcpEnable" (·.dhcpEnable) (fun p v => { p with dhcpEnable := some v })
      (·.dhcpEnable),
    Adoption.text "primaryDns" (·.primaryDns) (fun p v => { p with primaryDns := some v })
      (·.primaryDns),
    Adoption.text "secondaryDns" (·.secondaryDns) (fun p v => { p with secondaryDns := some v })
      (·.secondaryDns),
    Adoption.text "description" (·.description) (fun p v => { p with description := some v })
      (·.description)]
  comparisons := [Comparison.required "name" (·.name) (·.name),
    Comparison.required "cidr" (·.cidr) (·.cidr),
    Comparison.required "gatewayIp" (·.gatewayIp) (·.gatewayIp),
    Comparison.required "vpcId" (·.vpcId) (·.vpcId),
    Comparison.optional "description" (·.description) (·.description),
    Comparison.optional "dhcpEnable" (·.dhcpEnable) (·.dhcpEnable),
    Comparison.optional "primaryDns" (·.primaryDns) (·.primaryDns),
    Comparison.optional "secondaryDns" (·.secondaryDns) (·.secondaryDns)]
  guards := [Guard.required "vpcId" (fun (p : Params) => p.vpcId) (fun (o : Observation) => o.vpcId),
    Guard.required "cidr" (fun (p : Params) => p.cidr) (fun (o : Observation) => o.cidr),
    Guard.required "gatewayIp" (fun (p : Params) => p.gatewayIp)
      (fun (o : Observation) => o.gatewayIp)]
  createOpts p := { name := p.name, cidr := p.cidr, gatewayIp := p.gatewayIp, vpcId := p.vpcId,
                    dhcpEnable := p.dhcpEnable, primaryDns := p.primaryDns,
                    secondaryDns := p.secondaryDns, availabilityZone := p.availabilityZone,
                    description := p.description }
  updateOpts p := some { name := p.name, dhcpEnable := p.dhcpEnable, primaryDns := p.primaryDns,
                         secondaryDns := p.secondaryDns, description := p.description }
  parent p := some p.vpcId
  simulateCreate id o :=
    { id := id, name := o.name, cidr := o.cidr, gatewayIp := o.gatewayIp, vpcId := o.vpcId,
      dhcpEnable := o.dhcpEnable.getD true, primaryDns := o.primaryDns.getD "",
      secondaryDns := o.secondaryDns.getD "", availabilityZone := o.availabilityZone.getD "",
      description := o.description.getD "", status := "ACTIVE" }
  simulateUpdate r o :=
    { r with name := o.name, dhcpEnable := o.dhcpEnable.getD r.dhcpEnable,
             primaryDns := o.primaryDns.getD r.primaryDns,
             secondaryDns := o.secondaryDns.getD r.secondaryDns,
             description := o.description.getD r.description }
  decodeParams := Params.decode
  encodeParams := Params.encode
  decodeObs := Observation.decode
  encodeObs := Observation.encode
  emptyObs := { id := "", status := "", cidr := "", gatewayIp := "", vpcId := "" }
  decodeRec := Record.decode
  encodeRec := Record.encode
  encodeCreate o :=
    .obj [("name", .str o.name), ("cidr", .str o.cidr), ("gatewayIp", .str o.gatewayIp),
          ("vpcId", .str o.vpcId),
          ("dhcpEnable", match o.dhcpEnable with | some b => .bool b | none => .null),
          ("primaryDns", Value.ofOption o.primaryDns), ("secondaryDns", Value.ofOption o.secondaryDns),
          ("availabilityZone", Value.ofOption o.availabilityZone),
          ("description", Value.ofOption o.description)]
  encodeUpdate o :=
    .obj [("name", .str o.name),
          ("dhcpEnable", match o.dhcpEnable with | some b => .bool b | none => .null),
          ("primaryDns", Value.ofOption o.primaryDns), ("secondaryDns", Value.ofOption o.secondaryDns),
          ("description", Value.ofOption o.description)]

end NetReconcile.Subnet
