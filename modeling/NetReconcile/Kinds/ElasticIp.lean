import NetReconcile.Resource.Kind
import NetReconcile.Json.Plain
import NetReconcile.Kinds.Codes

/-!
# Elastic IP addresses

An elastic IP has a type, an optional fixed address and a bandwidth of some size and
share type. Type and share type are declared in words and sent as codes. Nothing of an
elastic IP can be updated, so every declared field is also immutable; an address left
out is adopted from the provider and only guarded once set.
-/

namespace NetReconcile.ElasticIp

open Json Resource

/-- The public address part of an elastic IP's parameters. -/
structure PublicIp where
  ipType : String
  ipAddress : Option String
  deriving DecidableEq, Repr

/-- The bandwidth part of an elastic IP's parameters. -/
structure Bandwidth where
  size : UInt32
  shareType : String
  deriving DecidableEq, Repr

/-- Declared parameters of an elastic IP. -/
structure Params where
  publicIp : PublicIp
  bandwidth : Bandwidth
  deriving DecidableEq, Repr

/-- What the engine keeps of a provider's elastic IP. -/
structure Observation where
  id : String
  status : String
  ipType : String
  ipAddress : String
  privateIpAddress : String
  portId : String
  bandwidthId : String
  bandwidthSize : UInt32
  bandwidthShareType : String
  deriving DecidableEq, Repr

/-- An elastic IP as the provider holds it. -/
structure Record where
  id : String
  status : String
  ipType : String
  publicAddress : String
  privateAddress : String
  portId : String
  bandwidthId : String
  bandwidthSize : UInt32
  bandwidthShareType : String
  deriving DecidableEq, Repr

/-- A create request. -/
structure CreateOpts where
  ipType : String
  ipAddress : Option String
  bandwidthSize : UInt32
  bandwidthShareType : String
  deriving DecidableEq, Repr

/-- Provider status words: `ACTIVE` and `DOWN` are available, `ERROR` unavailable, and
anything else still creating. -/
def statusTable : StatusTable := ⟨["ACTIVE", "DOWN"], [], [], ["ERROR"], .creating⟩

/-- The public address part read from its JSON form. -/
def PublicIp.decode : Decoder PublicIp :=
  let ipType := Field.required "type" 0 Decode.string
  let ipAddress := Field.optional "ipAddress" 1 Decode.string
  record "PublicIp" [ipType.erase, ipAddress.erase] fun src => do
    return { ipType := ← src.get ipType, ipAddress := ← src.get ipAddress }

/-- The bandwidth part read from its JSON form. -/
def Bandwidth.decode : Decoder Bandwidth :=
  let size := Field.required "size" 0 Decode.u32
  let shareType := Field.required "shareType" 1 Decode.string
  record "Bandwidth" [size.erase, shareType.erase] fun src => do
    return { size := ← src.get size, shareType := ← src.get shareType }

/-- Parameters read from their JSON form. -/
def Params.decode : Decoder Params :=
  let publicIp := Field.required "publicIP" 0 PublicIp.decode
  let bandwidth := Field.required "bandwidth" 1 Bandwidth.decode
  record "ElasticIpParameters" [publicIp.erase, bandwidth.erase] fun src => do
    return { publicIp := ← src.get publicIp, bandwidth := ← src.get bandwidth }

/-- The JSON form of parameters; an unset address is left out. -/
def Params.encode (p : Params) : Value :=
  .obj [("publicIP", .obj ([("type", .str p.publicIp.ipType)] ++
          optionalField "ipAddress" p.publicIp.ipAddress)),
        ("bandwidth", .obj [("size", Value.ofNat p.bandwidth.size.toNat),
          ("shareType", .str p.bandwidth.shareType)])]

/-- An observation read from its JSON form; every field may be absent. -/
def Observation.decode : Decoder Observation :=
  let id := Field.withDefault "id" 0 Decode.string ""
  let status := Field.withDefault "status" 1 Decode.string ""
  let ipType := Field.withDefault "ipType" 2 Decode.string ""
  let ipAddress := Field.withDefault "ipAddress" 3 Decode.string ""
  let privateIpAddress := Field.withDefault "privateIpAddress" 4 Decode.string ""
  let portId := Field.withDefault "portId" 5 Decode.string ""
  let bandwidthId := Field.withDefault "bandwidthId" 6 Decode.string ""
  let bandwidthSize := Field.withDefault "bandwidthSize" 7 Decode.u32 0
  let bandwidthShareType := Field.withDefault "bandwidthShareType" 8 Decode.string ""
  record "ElasticIpObservation" [id.erase, status.erase, ipType.erase, ipAddress.erase,
      privateIpAddress.erase, portId.erase, bandwidthId.erase, bandwidthSize.erase,
      bandwidthShareType.erase] fun src => do
    return { id := ← src.get id, status := ← src.get status, ipType := ← src.get ipType,
             ipAddress := ← src.get ipAddress, privateIpAddress := ← src.get privateIpAddress,
             portId := ← src.get portId, bandwidthId := ← src.get bandwidthId,
             bandwidthSize := ← src.get bandwidthSize,
             bandwidthShareType := ← src.get bandwidthShareType }

/-- The JSON form of an observation. -/
def Observation.encode (o : Observation) : Value :=
  .obj [("id", .str o.id), ("status", .str o.status), ("ipType", .str o.ipType),
        ("ipAddress", .str o.ipAddress), ("privateIpAddress", .str o.privateIpAddress),
        ("portId", .str o.portId), ("bandwidthId", .str o.bandwidthId),
        ("bandwidthSize", Value.ofNat o.bandwidthSize.toNat),
        ("bandwidthShareType", .str o.bandwidthShareType)]

/-- A record read from its plain form. -/
def Record.decode (v : Value) : Except String Record := do
  let fs ← Plain.fields "ElasticIP record" ["id", "status", "ipType", "publicAddress",
    "privateAddress", "portId", "bandwidthId", "bandwidthSize", "bandwidthShareType"] v
  return { id := ← Plain.text fs "id", status := ← Plain.text fs "status",
           ipType := ← Plain.text fs "ipType", publicAddress := ← Plain.text fs "publicAddress",
           privateAddress := ← Plain.text fs "privateAddress", portId := ← Plain.text fs "portId",
           bandwidthId := ← Plain.text fs "bandwidthId",
           bandwidthSize := (← Plain.unsigned 32 fs "bandwidthSize").toUInt32,
           bandwidthShareType := ← Plain.text fs "bandwidthShareType" }

/-- The plain form of a record. -/
def Record.encode (r : Record) : Value :=
  .obj [("id", .str r.id), ("status", .str r.status), ("ipType", .str r.ipType),
        ("publicAddress", .str r.publicAddress), ("privateAddress", .str r.privateAddress),
        ("portId", .str r.portId), ("bandwidthId", .str r.bandwidthId),
        ("bandwidthSize", Value.ofNat r.bandwidthSize.toNat),
        ("bandwidthShareType", .str r.bandwidthShareType)]

/-- The elastic IP kind: type, a set address, bandwidth size and share type are
immutable in that order, and there is no update request. A created address is `DOWN`,
takes the documentation address `198.51.100.10` unless one is asked for, and gets a
bandwidth named after it. -/
def kind : Kind where
  tag := "ElasticIP"
  Params := Params
  Obs := Observation
  Rec := Record
  CreateOpts := CreateOpts
  UpdateOpts := Empty
  statusTable := statusTable
  remoteId r := r.id
  rawStatus r := r.status
  observe r := { id := r.id, status := r.status, ipType := r.ipType, ipAddress := r.publicAddress,
                 privateIpAddress := r.privateAddress, portId := r.portId,
                 bandwidthId := r.bandwidthId, bandwidthSize := r.bandwidthSize,
                 bandwidthShareType := r.bandwidthShareType }
  adoptions := [Adoption.text "ipAddress" (·.publicIp.ipAddress)
    (fun p v => { p with publicIp := { p.publicIp with ipAddress := some v } }) (·.publicAddress)]
  comparisons := [
    Comparison.required "type" (fun (p : Params) => Codes.ipTypeCode p.publicIp.ipType) (·.ipType),
    Comparison.optional "ipAddress" (·.publicIp.ipAddress) (·.publicAddress),
    Comparison.required "bandwidth.size" (·.bandwidth.size) (·.bandwidthSize),
    Comparison.required "bandwidth.shareType"
      (fun (p : Params) => Codes.shareTypeCode p.bandwidth.shareType) (·.bandwidthShareType)]
  guards := [
    Guard.required "type" (fun (p : Params) => Codes.ipTypeCode p.publicIp.ipType)
      (fun (o : Observation) => o.ipType),
    Guard.optional "ipAddress" (fun (p : Params) => p.publicIp.ipAddress)
      (fun (o : Observation) => o.ipAddress),
    Guard.required "bandwidth.size" (fun (p : Params) => p.bandwidth.size)
      (fun (o : Observation) => o.bandwidthSize),
    Guard.required "bandwidth.shareType" (fun (p : Params) => Codes.shareTypeCode p.bandwidth.shareType)
      (fun (o : Observation) => o.bandwidthShareType)]
  createOpts p := { ipType := Codes.ipTypeCode p.publicIp.ipType, ipAddress := p.publicIp.ipAddress,
                    bandwidthSize := p.bandwidth.size,
                    bandwidthShareType := Codes.shareTypeCode p.bandwidth.shareType }
  updateOpts _ := none
  parent _ := none
  simulateCreate id o :=
    { id := id, status := "DOWN", ipType := o.ipType, publicAddress := o.ipAddress.getD "198.51.100.10",
      privateAddress := "", portId := "", bandwidthId := "bw-" ++ id,
      bandwidthSize := o.bandwidthSize, bandwidthShareType := o.bandwidthShareType }
  simulateUpdate r _ := r
  decodeParams := Params.decode
  encodeParams := Params.encode
  decodeObs := Observation.decode
  encodeObs := Observation.encode
  emptyObs := { id := "", status := "", ipType := "", ipAddress := "", privateIpAddress := "",
                portId := "", bandwidthId := "", bandwidthSize := 0, bandwidthShareType := "" }
  decodeRec := Record.decode
  encodeRec := Record.encode
  encodeCreate o :=
    .obj [("ipType", .str o.ipType), ("ipAddress", Value.ofOption o.ipAddress),
          ("bandwidthSize", Value.ofNat o.bandwidthSize.toNat),
          ("bandwidthShareType", .str o.bandwidthShareType)]
  encodeUpdate e := nomatch e

end NetReconcile.ElasticIp
