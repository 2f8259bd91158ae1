import NetReconcile.Resource.Kind
import NetReconcile.Json.Plain

/-!
# Security group rules

A rule belongs to a security group and can never be updated: a different rule is a new
rule. The provider fills in what the declaration leaves out (an ethertype of `IPv4`, an
action of `allow`, priority 1), and late initialization adopts those values. The
provider reports no status for a rule, so it is always available.
-/

namespace NetReconcile.SecurityGroupRule

open Json Resource

/-- Declared parameters of a rule; they are also its create request. -/
structure Params where
  securityGroupId : String
  direction : String
  description : Option String
  ethertype : Option String
  protocol : Option String
  multiport : Option String
  remoteIpPrefix : Option String
  remoteGroupId : Option String
  remoteAddressGroupId : Option String
  action : Option String
  priority : Option Int32
  deriving DecidableEq, Repr

/-- What the engine keeps of a provider's rule. -/
structure Observation where
  id : String
  securityGroupId : String
  deriving DecidableEq, Repr

/-- A rule as the provider holds it. -/
structure Record where
  id : String
  securityGroupId : String
  direction : String
  description : String
  ethertype : String
  protocol : String
  multiport : String
  remoteIpPrefix : String
  remoteGroupId : String
  remoteAddressGroupId : String
  action : String
  priority : Int32
  deriving DecidableEq, Repr

/-- The optional text fields of a rule, with their wire names. -/
def textFields : List String :=
  ["description", "ethertype", "protocol", "multiport", "remoteIpPrefix", "remoteGroupId",
   "remoteAddressGroupId", "action"]

/-- Parameters read from their JSON form. -/
def Params.decode : Decoder Params :=
  let securityGroupId := Field.withDefault "securityGroupId" 0 Decode.string ""
  let direction := Field.required "direction" 1 Decode.string
  let description := Field.optional "description" 2 Decode.string
  let ethertype := Field.optional "ethertype" 3 Decode.string
  let protocol := Field.optional "protocol" 4 Decode.string
  let multiport := Field.optional "multiport" 5 Decode.string
  let remoteIpPrefix := Field.optional "remoteIpPrefix" 6 Decode.string
  let remoteGroupId := Field.optional "remoteGroupId" 7 Decode.string
  let remoteAddressGroupId := Field.optional "remoteAddressGroupId" 8 Decode.string
  let action := Field.optional "action" 9 Decode.string
  let priority := Field.optional "priority" 10 Decode.i32
  record "SecurityGroupRuleParameters" [securityGroupId.erase, direction.erase,
      description.erase, ethertype.erase, protocol.erase, multiport.erase, remoteIpPrefix.erase,
      remoteGroupId.erase, remoteAddressGroupId.erase, action.erase, priority.erase] fun src => do
    return { securityGroupId := ← src.get securityGroupId, direction := ← src.get direction,
             description := ← src.get description, ethertype := ← src.get ethertype,
             protocol := ← src.get protocol, multiport := ← src.get multiport,
             remoteIpPrefix := ← src.get remoteIpPrefix, remoteGroupId := ← src.get remoteGroupId,
             remoteAddressGroupId := ← src.get remoteAddressGroupId, action := ← src.get action,
             priority := ← src.get priority }

/-- The JSON form of parameters; unset optional fields are left out. -/
def Params.encode (p : Params) : Value :=
  .obj ([("securityGroupId", .str p.securityGroupId), ("direction", .str p.direction)] ++
        optionalField "description" p.description ++ optionalField "ethertype" p.ethertype ++
        optionalField "protocol" p.protocol ++ optionalField "multiport" p.multiport ++
        optionalField "remoteIpPrefix" p.remoteIpPrefix ++
        optionalField "remoteGroupId" p.remoteGroupId ++
        optionalField "remoteAddressGroupId" p.remoteAddressGroupId ++
        optionalField "action" p.action ++
        (match p.priority with
          | some n => [("priority", Value.ofInt n.toInt)]
          | none => []))

/-- An observation read from its JSON form; every field may be absent. -/
def Observation.decode : Decoder Observation :=
  let id := Field.withDefault "id" 0 Decode.string ""
  let securityGroupId := Field.withDefault "securityGroupId" 1 Decode.string ""
  record "SecurityGroupRuleObservation" [id.erase, securityGroupId.erase] fun src => do
    return { id := ← src.get id, securityGroupId := ← src.get securityGroupId }

/-- The JSON form of an observation. -/
def Observation.encode (o : Observation) : Value :=
  .obj [("id", .str o.id), ("securityGroupId", .str o.securityGroupId)]

/-- A record read from its plain form. -/
def Record.decode (v : Value) : Except String Record := do
  let fs ← Plain.fields "SecurityGroupRule record" (["id", "securityGroupId", "direction"] ++
    textFields ++ ["priority"]) v
  return { id := ← Plain.text fs "id", securityGroupId := ← Plain.text fs "securityGroupId",
           direction := ← Plain.text fs "direction", description := ← Plain.text fs "description",
           ethertype := ← Plain.text fs "ethertype", protocol := ← Plain.text fs "protocol",
           multiport := ← Plain.text fs "multiport",
           remoteIpPrefix := ← Plain.text fs "remoteIpPrefix",
           remoteGroupId := ← Plain.text fs "remoteGroupId",
           remoteAddressGroupId := ← Plain.text fs "remoteAddressGroupId",
           action := ← Plain.text fs "action", priority := (← Plain.signed 32 fs "priority").toInt32 }

/-- The plain form of a record. -/
def Record.encode (r : Record) : Value :=
  .obj [("id", .str r.id), ("securityGroupId", .str r.securityGroupId),
        ("direction", .str r.direction), ("description", .str r.description),
        ("ethertype", .str r.ethertype), ("protocol", .str r.protocol),
        ("multiport", .str r.multiport), ("remoteIpPrefix", .str r.remoteIpPrefix),
        ("remoteGroupId", .str r.remoteGroupId),
        ("remoteAddressGroupId", .str r.remoteAddressGroupId), ("action", .str r.action),
        ("priority", Value.ofInt r.priority.toInt)]

/-- The rule kind: its security group is immutable, and it has no update request. A
created rule takes `IPv4`, `allow` and priority 1 for what its request leaves out, and
empty texts for the rest. -/
def kind : Kind where
  tag := "SecurityGroupRule"
  Params := Params
  Obs := Observation
  Rec := Record
  CreateOpts := Params
  UpdateOpts := Empty
  statusTable := StatusTable.constant .available
  remoteId r := r.id
  rawStatus _ := ""
  observe r := { id := r.id, securityGroupId := r.securityGroupId }
  adoptions := [
    Adoption.text "description" (·.description) (fun p v => { p with description := some v })
      (·.description),
    Adoption.text "ethertype" (·.ethertype) (fun p v => { p with ethertype := some v }) (·.ethertype),
    Adoption.text "protocol" (·.protocol) (fun p v => { p with protocol := some v }) (·.protocol),
    Adoption.text "multiport" (·.multiport) (fun p v => { p with multiport := some v }) (·.multiport),
    Adoption.text "remoteIpPrefix" (·.remoteIpPrefix) (fun p v => { p with remoteIpPrefix := some v })
      (·.remoteIpPrefix),
    Adoption.text "remoteGroupId" (·.remoteGroupId) (fun p v => { p with remoteGroupId := some v })
      (·.remoteGroupId),
    Adoption.text "remoteAddressGroupId" (·.remoteAddressGroupId)
      (fun p v => { p with remoteAddressGroupId := some v }) (·.remoteAddressGroupId),
    Adoption.text "action" (·.action) (fun p v => { p with action := some v }) (·.action),
    Adoption.value "priority" (·.priority) (fun p v => { p with priority := some v }) (·.priority)]
  comparisons := [
    Comparison.required "securityGroupId" (·.securityGroupId) (·.securityGroupId),
    Comparison.required "direction" (·.direction) (·.direction),
    Comparison.optional "description" (·.description) (·.description),
    Comparison.optional "ethertype" (·.ethertype) (·.ethertype),
    Comparison.optional "protocol" (·.protocol) (·.protocol),
    Comparison.optional "multiport" (·.multiport) (·.multiport),
    Comparison.optional "remoteIpPrefix" (·.remoteIpPrefix) (·.remoteIpPrefix),
    Comparison.optional "remoteGroupId" (·.remoteGroupId) (·.remoteGroupId),
    Comparison.optional "remoteAddressGroupId" (·.remoteAddressGroupId) (·.remoteAddressGroupId),
    Comparison.optional "action" (·.action) (·.action),
    Comparison.optional "priority" (·.priority) (·.priority)]
  guards := [Guard.required "securityGroupId" (fun (p : Params) => p.securityGroupId)
    (fun (o : Observation) => o.securityGroupId)]
  createOpts p := p
  updateOpts _ := none
  parent _ := none
  simulateCreate id o :=
    { id := id, securityGroupId := o.securityGroupId, direction := o.direction,
      description := o.description.getD "", ethertype := o.ethertype.getD "IPv4",
      protocol := o.protocol.getD "", multiport := o.multiport.getD "",
      remoteIpPrefix := o.remoteIpPrefix.getD "", remoteGroupId := o.remoteGroupId.getD "",
      remoteAddressGroupId := o.remoteAddressGroupId.getD "", action := o.action.getD "allow",
      priority := o.priority.getD 1 }
  simulateUpdate r _ := r
  decodeParams := Params.decode
  encodeParams := Params.encode
  decodeObs := Observation.decode
  encodeObs := Observation.encode
  emptyObs := { id := "", securityGroupId := "" }
  decodeRec := Record.decode
  encodeRec := Record.encode
  encodeCreate := Params.encode
  encodeUpdate e := nomatch e

end NetReconcile.SecurityGroupRule
