import NetReconcile.Resource.Kind
import NetReconcile.Json.Plain

/-!
# SNAT rules

A SNAT rule ties a NAT gateway to an elastic IP for a subnet or a CIDR block. Nothing of
a rule can be updated; subnet and CIDR left out are adopted from the provider and only
guarded once set.
-/

namespace NetReconcile.SnatRule

open Json Resource

/-- Declared parameters of a SNAT rule; they are also its create request. -/
structure Params where
  natGatewayId : String
  elasticIpId : String
  subnetId : Option String
  cidr : Option String
  deriving DecidableEq, Repr

/-- What the engine keeps of a provider's SNAT rule. -/
structure Observation where
  id : String
  status : String
  elasticIpAddress : String
  adminStateUp : Bool
  natGatewayId : String
  elasticIpId : String
  subnetId : String
  cidr : String
  deriving DecidableEq, Repr

/-- A SNAT rule as the provider holds it. -/
structure Record where
  id : String
  status : String
  natGatewayId : String
  floatingIpId : String
  floatingIpAddress : String
  networkId : String
  cidr : String
  adminStateUp : Bool
  deriving DecidableEq, Repr

/-- Provider status words: `ACTIVE` is available, `PENDING_CREATE` and `PENDING_UPDATE`
creating, `PENDING_DELETE` deleting, anything else unavailable. -/
def statusTable : StatusTable :=
  ⟨["ACTIVE"], ["PENDING_CREATE", "PENDING_UPDATE"], ["PENDING_DELETE"], [], .unavailable⟩

/-- Parameters read from their JSON form. -/
def Params.decode : Decoder Params :=
  let natGatewayId := Field.required "natGatewayId" 0 Decode.string
  let elasticIpId := Field.required "elasticIpId" 1 Decode.string
  let subnetId := Field.optional "subnetId" 2 Decode.string
  let cidr := Field.optional "cidr" 3 Decode.string
  record "SnatRuleParameters" [natGatewayId.erase, elasticIpId.erase, subnetId.erase, cidr.erase]
    fun src => do
      return { natGatewayId := ← src.get natGatewayId, elasticIpId := ← src.get elasticIpId,
               subnetId := ← src.get subnetId, cidr := ← src.get cidr }

/-- The JSON form of parameters; unset optional fields are left out. -/
def Params.encode (p : Params) : Value :=
  .obj ([("natGatewayId", .str p.natGatewayId), ("elasticIpId", .str p.elasticIpId)] ++
        optionalField "subnetId" p.subnetId ++ optionalField "cidr" p.cidr)

/-- An observation read from its JSON form; every field may be absent. -/
def Observation.decode : Decoder Observation :=
  let id := Field.withDefault "id" 0 Decode.string ""
  let status := Field.withDefault "status" 1 Decode.string ""
  let elasticIpAddress := Field.withDefault "elasticIpAddress" 2 Decode.string ""
  let adminStateUp := Field.withDefault "adminStateUp" 3 Decode.bool false
  let natGatewayId := Field.withDefault "natGatewayId" 4 Decode.string ""
  let elasticIpId := Field.withDefault "elasticIpId" 5 Decode.string ""
  let subnetId := Field.withDefault "subnetId" 6 Decode.string ""
  let cidr := Field.withDefault "cidr" 7 Decode.string ""
  record "SnatRuleObservation" [id.erase, status.erase, elasticIpAddress.erase, adminStateUp.erase,
      natGatewayId.erase, elasticIpId.erase, subnetId.erase, cidr.erase] fun src => do
    return { id := ← src.get id, status := ← src.get status,
             elasticIpAddress := ← src.get elasticIpAddress, adminStateUp := ← src.get adminStateUp,
             natGatewayId := ← src.get natGatewayId, elasticIpId := ← src.get elasticIpId,
             subnetId := ← src.get subnetId, cidr := ← src.get cidr }

/-- The JSON form of an observation. -/
def Observation.encode (o : Observation) : Value :=
  .obj [("id", .str o.id), ("status", .str o.status), ("elasticIpAddress", .str o.elasticIpAddress),
        ("adminStateUp", .bool o.adminStateUp), ("natGatewayId", .str o.natGatewayId),
        ("elasticIpId", .str o.elasticIpId), ("subnetId", .str o.subnetId), ("cidr", .str o.cidr)]

/-- A record read from its plain form. -/
def Record.decode (v : Value) : Except String Record := do
  let fs ← Plain.fields "SNATRule record" ["id", "status", "natGatewayId", "floatingIpId",
    "floatingIpAddress", "networkId", "cidr", "adminStateUp"] v
  return { id := ← Plain.text fs "id", status := ← Plain.text fs "status",
           natGatewayId := ← Plain.text fs "natGatewayId", floatingIpId := ← Plain.text fs "floatingIpId",
           floatingIpAddress := ← Plain.text fs "floatingIpAddress",
           networkId := ← Plain.text fs "networkId", cidr := ← Plain.text fs "cidr",
           adminStateUp := ← Plain.flag fs "adminStateUp" }

/-- The plain form of a record. -/
def Record.encode (r : Record) : Value :=
  .obj [("id", .str r.id), ("status", .str r.status), ("natGatewayId", .str r.natGatewayId),
        ("floatingIpId", .str r.floatingIpId), ("floatingIpAddress", .str r.floatingIpAddress),
        ("networkId", .str r.networkId), ("cidr", .str r.cidr), ("adminStateUp", .bool r.adminStateUp)]

/-- The SNAT rule kind: gateway, elastic IP, and subnet and CIDR when set are immutable in
that order, and there is no update request. A created rule is `ACTIVE` and up, with the
documentation address `198.51.100.10`. -/
def kind : Kind where
  tag := "SNATRule"
  Params := Params
  Obs := Observation
  Rec := Record
  CreateOpts := Params
  UpdateOpts := Empty
  statusTable := statusTable
  remoteId r := r.id
  rawStatus r := r.status
  observe r := { id := r.id, status := r.status, elasticIpAddress := r.floatingIpAddress,
                 adminStateUp := r.adminStateUp, natGatewayId := r.natGatewayId,
                 elasticIpId := r.floatingIpId, subnetId := r.networkId, cidr := r.cidr }
  adoptions := [
    Adoption.text "subnetId" (·.subnetId) (fun p v => { p with subnetId := some v }) (·.networkId),
    Adoption.text "cidr" (·.cidr) (fun p v => { p with cidr := some v }) (·.cidr)]
  comparisons := [Comparison.required "natGatewayId" (·.natGatewayId) (·.natGatewayId),
    Comparison.required "elasticIpId" (·.elasticIpId) (·.floatingIpId),
    Comparison.optional "subnetId" (·.subnetId) (·.networkId),
    Comparison.optional "cidr" (·.cidr) (·.cidr)]
  guards := [
    Guard.required "natGatewayId" (fun (p : Params) => p.natGatewayId)
      (fun (o : Observation) => o.natGatewayId),
    Guard.required "elasticIpId" (fun (p : Params) => p.elasticIpId)
      (fun (o : Observation) => o.elasticIpId),
    Guard.optional "subnetId" (fun (p : Params) => p.subnetId) (fun (o : Observation) => o.subnetId),
    Guard.optional "cidr" (fun (p : Params) => p.cidr) (fun (o : Observation) => o.cidr)]
  createOpts p := p
  updateOpts _ := none
  parent _ := none
  simulateCreate id o :=
    { id := id, status := "ACTIVE", natGatewayId := o.natGatewayId, floatingIpId := o.elasticIpId,
      floatingIpAddress := "198.51.100.10", networkId := o.subnetId.getD "", cidr := o.cidr.getD "",
      adminStateUp := true }
  simulateUpdate r _ := r
  decodeParams := Params.decode
  encodeParams := Params.encode
  decodeObs := Observation.decode
  encodeObs := Observation.encode
  emptyObs := { id := "", status := "", elasticIpAddress := "", adminStateUp := false,
                natGatewayId := "", elasticIpId := "", subnetId := "", cidr := "" }
  decodeRec := Record.decode
  encodeRec := Record.encode
  encodeCreate := Params.encode
  encodeUpdate e := nomatch e

end NetReconcile.SnatRule
