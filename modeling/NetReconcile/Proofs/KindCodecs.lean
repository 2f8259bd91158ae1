import NetReconcile.Proofs.Records
import NetReconcile.Kinds.Catalog

/-!
# The wire format of the seven kinds

Each kind's parameters and observation are read back from the JSON objects written for
them: the renamed fields (`publicIP`, `type`) under their written names, the optional
fields whether written or left out, the fields with defaults, the nested records of an
elastic IP, and the 32-bit numbers. A kind whose parameters and observations are read
back is wire-lawful, and so is every kind of the catalog.

Every proof has the same shape: the object written has distinct keys that its decoder
accepts (`record_obj_eq_ok`), so each field is read as a lookup of its name in the object
as written (`Source.get_sortFields`), which `simp` then evaluates.
-/

namespace NetReconcile

open Json Resource

/-! ## Parameters and observations -/

theorem Vpc.Params.decode_encode (p : Vpc.Params) : Vpc.Params.decode p.encode = .ok p := by
  unfold Vpc.Params.decode Vpc.Params.encode
  refine record_obj_eq_ok (by simp [Option.toList_nodup])
    (by simp only [List.cons_append, List.nil_append, List.forall_mem_cons, forall_mem_optionalField]
        simp [FieldCheck.Accepts, Field.erase, Field.required, Field.optional]) fun hnd => ?_
  simp only [Field.required, Field.optional, Source.get_sortFields_nil hnd]
  simp [bind, Except.bind, List.lookup_cons, pure, Except.pure]

theorem Vpc.Observation.decode_encode (o : Vpc.Observation) : Vpc.Observation.decode o.encode = .ok o := by
  unfold Vpc.Observation.decode Vpc.Observation.encode
  refine record_obj_eq_ok (by simp) (by simp [FieldCheck.Accepts, Field.erase, Field.withDefault])
    fun hnd => ?_
  simp only [Field.withDefault, Source.get_sortFields_nil hnd]
  simp [bind, Except.bind, List.lookup_cons, pure, Except.pure]

theorem Subnet.Params.decode_encode (p : Subnet.Params) : Subnet.Params.decode p.encode = .ok p := by
  unfold Subnet.Params.decode Subnet.Params.encode
  obtain ⟨name, cidr, gatewayIp, vpcId, _ | dhcp, primaryDns, secondaryDns, zone, description⟩ := p <;>
  · refine record_obj_eq_ok (by simp [Option.toList_nodup])
      (by simp only [List.cons_append, List.nil_append, List.append_assoc, List.forall_mem_cons,
            List.forall_mem_append, forall_mem_optionalField]
          simp [FieldCheck.Accepts, Field.erase, Field.required, Field.optional, Field.withDefault])
      fun hnd => ?_
    simp only [Field.required, Field.optional, Field.withDefault, Source.get_sortFields_nil hnd]
    simp [bind, Except.bind, List.lookup_cons, List.lookup_append, pure, Except.pure]

theorem Subnet.Observation.decode_encode (o : Subnet.Observation) :
    Subnet.Observation.decode o.encode = .ok o := by
  unfold Subnet.Observation.decode Subnet.Observation.encode
  refine record_obj_eq_ok (by simp) (by simp [FieldCheck.Accepts, Field.erase, Field.withDefault])
    fun hnd => ?_
  simp only [Field.withDefault, Source.get_sortFields_nil hnd]
  simp [bind, Except.bind, List.lookup_cons, pure, Except.pure]

theorem SecurityGroup.Params.decode_encode (p : SecurityGroup.Params) :
    SecurityGroup.Params.decode p.encode = .ok p := by
  unfold SecurityGroup.Params.decode SecurityGroup.Params.encode
  refine record_obj_eq_ok (by simp [Option.toList_nodup])
    (by simp only [List.cons_append, List.nil_append, List.forall_mem_cons, forall_mem_optionalField]
        simp [FieldCheck.Accepts, Field.erase, Field.required, Field.optional]) fun hnd => ?_
  simp only [Field.required, Field.optional, Source.get_sortFields_nil hnd]
  simp [bind, Except.bind, List.lookup_cons, pure, Except.pure]

theorem SecurityGroup.Observation.decode_encode (o : SecurityGroup.Observation) :
    SecurityGroup.Observation.decode o.encode = .ok o := by
  unfold SecurityGroup.Observation.decode SecurityGroup.Observation.encode
  refine record_obj_eq_ok (by simp) (by simp [FieldCheck.Accepts, Field.erase, Field.withDefault])
    fun hnd => ?_
  simp only [Field.withDefault, Source.get_sortFields_nil hnd]
  simp [bind, Except.bind, List.lookup_cons, pure, Except.pure]

theorem SecurityGroupRule.Params.decode_encode (p : SecurityGroupRule.Params) :
    SecurityGroupRule.Params.decode p.encode = .ok p := by
  unfold SecurityGroupRule.Params.decode SecurityGroupRule.Params.encode
  obtain ⟨sg, direction, description, ethertype, protocol, multiport, remoteIpPrefix, remoteGroupId,
    remoteAddressGroupId, action, _ | priority⟩ := p <;> dsimp only <;>
  · refine record_obj_eq_ok (by simp [Option.toList_nodup])
      (by simp only [List.cons_append, List.nil_append, List.append_assoc, List.forall_mem_cons,
            List.forall_mem_append, forall_mem_optionalField]
          simp [FieldCheck.Accepts, Field.erase, Field.required, Field.optional, Field.withDefault,
            Decode.option_of_ok (Decode.i32_ofInt _) (Value.ofInt_ne_null _)]) fun hnd => ?_
    simp only [Field.required, Field.optional, Field.withDefault, Source.get_sortFields_nil hnd]
    simp [bind, Except.bind, List.lookup_cons, List.lookup_append, pure, Except.pure,
      Decode.option_of_ok (Decode.i32_ofInt _) (Value.ofInt_ne_null _)]

theorem SecurityGroupRule.Observation.decode_encode (o : SecurityGroupRule.Observation) :
    SecurityGroupRule.Observation.decode o.encode = .ok o := by
  unfold SecurityGroupRule.Observation.decode SecurityGroupRule.Observation.encode
  refine record_obj_eq_ok (by simp) (by simp [FieldCheck.Accepts, Field.erase, Field.withDefault])
    fun hnd => ?_
  simp only [Field.withDefault, Source.get_sortFields_nil hnd]
  simp [bind, Except.bind, List.lookup_cons, pure, Except.pure]

theorem NatGateway.Params.decode_encode (p : NatGateway.Params) :
    NatGateway.Params.decode p.encode = .ok p := by
  unfold NatGateway.Params.decode NatGateway.Params.encode
  refine record_obj_eq_ok (by simp)
    (by simp only [List.cons_append, List.nil_append, List.forall_mem_cons,
          List.forall_mem_append, forall_mem_optionalField]
        simp [FieldCheck.Accepts, Field.erase, Field.required, Field.optional, Field.withDefault])
    fun hnd => ?_
  simp only [Field.required, Field.optional, Field.withDefault, Source.get_sortFields_nil hnd]
  simp [bind, Except.bind, List.lookup_cons, List.lookup_append, pure, Except.pure]

theorem NatGateway.Observation.decode_encode (o : NatGateway.Observation) :
    NatGateway.Observation.decode o.encode = .ok o := by
  unfold NatGateway.Observation.decode NatGateway.Observation.encode
  refine record_obj_eq_ok (by simp) (by simp [FieldCheck.Accepts, Field.erase, Field.withDefault])
    fun hnd => ?_
  simp only [Field.withDefault, Source.get_sortFields_nil hnd]
  simp [bind, Except.bind, List.lookup_cons, pure, Except.pure]

theorem ElasticIp.PublicIp.decode_written (p : ElasticIp.PublicIp) :
    ElasticIp.PublicIp.decode (.obj (("type", .str p.ipType) :: optionalField "ipAddress" p.ipAddress)) =
      .ok p := by
  unfold ElasticIp.PublicIp.decode
  refine record_obj_eq_ok (by simp [Option.toList_nodup])
    (by simp only [List.forall_mem_cons, forall_mem_optionalField]
        simp [FieldCheck.Accepts, Field.erase, Field.required, Field.optional]) fun hnd => ?_
  simp only [Field.required, Field.optional, Source.get_sortFields_nil hnd]
  simp [bind, Except.bind, List.lookup_cons, pure, Except.pure]

theorem ElasticIp.Bandwidth.decode_written (b : ElasticIp.Bandwidth) :
    ElasticIp.Bandwidth.decode (.obj [("size", Value.ofNat b.size.toNat), ("shareType", .str b.shareType)]) =
      .ok b := by
  unfold ElasticIp.Bandwidth.decode
  refine record_obj_eq_ok (by simp) (by simp [FieldCheck.Accepts, Field.erase, Field.required])
    fun hnd => ?_
  simp only [Field.required, Source.get_sortFields_nil hnd]
  simp [bind, Except.bind, List.lookup_cons, pure, Except.pure]

theorem ElasticIp.Params.decode_encode (p : ElasticIp.Params) :
    ElasticIp.Params.decode p.encode = .ok p := by
  unfold ElasticIp.Params.decode ElasticIp.Params.encode
  refine record_obj_eq_ok (by simp) (by simp [FieldCheck.Accepts, Field.erase, Field.required,
    ElasticIp.PublicIp.decode_written, ElasticIp.Bandwidth.decode_written]) fun hnd => ?_
  simp only [Field.required, Source.get_sortFields_nil hnd]
  simp [bind, Except.bind, List.lookup_cons, pure, Except.pure, ElasticIp.PublicIp.decode_written,
    ElasticIp.Bandwidth.decode_written]

theorem ElasticIp.Observation.decode_encode (o : ElasticIp.Observation) :
    ElasticIp.Observation.decode o.encode = .ok o := by
  unfold ElasticIp.Observation.decode ElasticIp.Observation.encode
  refine record_obj_eq_ok (by simp) (by simp [FieldCheck.Accepts, Field.erase, Field.withDefault])
    fun hnd => ?_
  simp only [Field.withDefault, Source.get_sortFields_nil hnd]
  simp [bind, Except.bind, List.lookup_cons, pure, Except.pure]

theorem SnatRule.Params.decode_encode (p : SnatRule.Params) : SnatRule.Params.decode p.encode = .ok p := by
  unfold SnatRule.Params.decode SnatRule.Params.encode
  refine record_obj_eq_ok (by simp [Option.toList_nodup])
    (by simp only [List.cons_append, List.nil_append, List.forall_mem_cons,
          List.forall_mem_append, forall_mem_optionalField]
        simp [FieldCheck.Accepts, Field.erase, Field.required, Field.optional]) fun hnd => ?_
  simp only [Field.required, Field.optional, Source.get_sortFields_nil hnd]
  simp [bind, Except.bind, List.lookup_cons, List.lookup_append, pure, Except.pure]

theorem SnatRule.Observation.decode_encode (o : SnatRule.Observation) :
    SnatRule.Observation.decode o.encode = .ok o := by
  unfold SnatRule.Observation.decode SnatRule.Observation.encode
  refine record_obj_eq_ok (by simp) (by simp [FieldCheck.Accepts, Field.erase, Field.withDefault])
    fun hnd => ?_
  simp only [Field.withDefault, Source.get_sortFields_nil hnd]
  simp [bind, Except.bind, List.lookup_cons, pure, Except.pure]

/-! ## Wire-lawful kinds -/

namespace Resource

/-- A kind whose parameters and observations are read back from their JSON forms. -/
structure Kind.WireLawful (k : Kind) : Prop where
  params : ∀ p, k.decodeParams (k.encodeParams p) = .ok p
  obs : ∀ o, k.decodeObs (k.encodeObs o) = .ok o

end Resource

theorem catalog_wireLawful {k : Kind} (hk : k ∈ catalog) : k.WireLawful := by
  simp only [catalog, List.mem_cons, List.not_mem_nil, or_false] at hk
  rcases hk with rfl | rfl | rfl | rfl | rfl | rfl | rfl
  · refine ⟨fun p => ?_, fun o => ?_⟩ <;> dsimp only [Vpc.kind]
    exacts [Vpc.Params.decode_encode p, Vpc.Observation.decode_encode o]
  · refine ⟨fun p => ?_, fun o => ?_⟩ <;> dsimp only [Subnet.kind]
    exacts [Subnet.Params.decode_encode p, Subnet.Observation.decode_encode o]
  · refine ⟨fun p => ?_, fun o => ?_⟩ <;> dsimp only [SecurityGroup.kind]
    exacts [SecurityGroup.Params.decode_encode p, SecurityGroup.Observation.decode_encode o]
  · refine ⟨fun p => ?_, fun o => ?_⟩ <;> dsimp only [SecurityGroupRule.kind]
    exacts [SecurityGroupRule.Params.decode_encode p, SecurityGroupRule.Observation.decode_encode o]
  · refine ⟨fun p => ?_, fun o => ?_⟩ <;> dsimp only [NatGateway.kind]
    exacts [NatGateway.Params.decode_encode p, NatGateway.Observation.decode_encode o]
  · refine ⟨fun p => ?_, fun o => ?_⟩ <;> dsimp only [ElasticIp.kind]
    exacts [ElasticIp.Params.decode_encode p, ElasticIp.Observation.decode_encode o]
  · refine ⟨fun p => ?_, fun o => ?_⟩ <;> dsimp only [SnatRule.kind]
    exacts [SnatRule.Params.decode_encode p, SnatRule.Observation.decode_encode o]

end NetReconcile
