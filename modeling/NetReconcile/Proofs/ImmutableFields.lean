import Mathlib.Data.List.Find
import Mathlib.Data.List.Nodup
import NetReconcile.Proofs.Settling

/-!
# The immutability check agrees with drift

The immutability check compares desired parameters with the observation the engine kept
of a record; drift compares them with the record itself. Every immutable field is a
compared field whose guard watches, through the observation, what the comparison of the
same name watches in the record, and no two comparisons of a kind share a name. So the
check refuses exactly when some immutable field drifts, and it names the first one in the
order it checks them; it passes otherwise.
-/

namespace NetReconcile

open Resource

namespace Resource

variable {P R O : Type}

/-- On comparisons with distinct names, a compared field drifts exactly when its
comparison sees a difference. -/
theorem mem_drift_iff {cs : List (Comparison P R)} (hnd : (cs.map (·.field)).Nodup)
    {c : Comparison P R} (hc : c ∈ cs) (p : P) (r : R) :
    c.field ∈ drift cs p r ↔ c.differs p r = true := by
  unfold drift
  constructor
  · intro h
    obtain ⟨c', hc', hfield⟩ := List.mem_map.mp h
    have hkept := List.mem_filter.mp hc'
    have hsame : c' = c := List.inj_on_of_nodup_map hnd hkept.1 hc hfield
    rw [← hsame]
    exact hkept.2
  · intro h
    exact List.mem_map_of_mem (List.mem_filter.mpr ⟨hc, h⟩)

/-- When each guard sees a change exactly when its field is among `fields`, the first
guard that sees one is the first guarded field among `fields`. -/
theorem firstChanged_eq_find? {gs : List (Guard P O)} {p : P} {o : O} {fields : List String}
    (h : ∀ g ∈ gs, g.changed p o = decide (g.field ∈ fields)) :
    firstChanged gs p o = (gs.map (·.field)).find? (· ∈ fields) := by
  rw [firstChanged, List.find?_map, List.find?_congr h]
  rfl

namespace Kind

/-- The immutable fields of a kind, in the order the immutability check visits them. -/
def immutableFields (k : Kind) : List String := k.guards.map (·.field)

variable {k : Kind}

/-- When a kind's guards mirror its comparisons and these have distinct names, a guard
sees a change in the observation of a record exactly when its field drifts from the
record. -/
theorem GuardsMirrored.changed_eq (hm : k.GuardsMirrored)
    (hnd : (k.comparisons.map (·.field)).Nodup) (d : k.Params) (r : k.Rec) :
    ∀ g ∈ k.guards, g.changed d (k.observe r) = decide (g.field ∈ k.drift d r) := by
  intro g hg
  obtain ⟨c, hc, hgc⟩ := hm g hg
  have hfield : c.field = g.field := by simpa using List.find?_some hc
  rw [hgc, ← hfield, Kind.drift]
  simp only [mem_drift_iff hnd (List.mem_of_find?_eq_some hc), Bool.decide_eq_true]

/-- The immutability check against the observation of a record refuses with the first
immutable field, in check order, that drifts from the record, and passes when none does. -/
theorem GuardsMirrored.checkImmutable_observe (hm : k.GuardsMirrored)
    (hnd : (k.comparisons.map (·.field)).Nodup) (d : k.Params) (r : k.Rec) :
    k.checkImmutable d (k.observe r) =
      match k.immutableFields.find? (· ∈ k.drift d r) with
      | some f => .error (.immutableField k.tag f)
      | none => .ok () := by
  rw [immutableFields, ← firstChanged_eq_find? (hm.changed_eq hnd d r)]
  rfl

end Kind

end Resource

/-- No two comparisons of a kind of the catalog share a name. -/
theorem catalog_comparisons_nodup {k : Kind} (hk : k ∈ catalog) :
    (k.comparisons.map (·.field)).Nodup := by
  simp only [catalog, List.mem_cons, List.not_mem_nil, or_false] at hk
  rcases hk with rfl | rfl | rfl | rfl | rfl | rfl | rfl <;> decide

/-- The immutability check agrees with drift. The immutable fields of the kinds are the
VPC's CIDR block; a subnet's VPC, CIDR block and gateway; none of a security group; a
rule's security group; a NAT gateway's VPC and subnet; an elastic IP's type, address,
bandwidth size and share type; and an SNAT rule's gateway, elastic IP, subnet and CIDR
block. For every kind, desired parameters and record, the check against the record's
observation refuses with the first immutable field, in this order, that drifts from the
record, and passes when none does. -/
theorem checkImmutable_refuses_first_drifted :
    catalog.map (fun k => (k.tag, k.immutableFields)) =
        [("VPC", ["cidr"]), ("Subnet", ["vpcId", "cidr", "gatewayIp"]), ("SecurityGroup", []),
         ("SecurityGroupRule", ["securityGroupId"]), ("NATGateway", ["vpcId", "subnetId"]),
         ("ElasticIP", ["type", "ipAddress", "bandwidth.size", "bandwidth.shareType"]),
         ("SNATRule", ["natGatewayId", "elasticIpId", "subnetId", "cidr"])] ∧
      ∀ k ∈ catalog, ∀ (d : k.Params) (r : k.Rec),
        k.checkImmutable d (k.observe r) =
          match k.immutableFields.find? (· ∈ k.drift d r) with
          | some f => .error (.immutableField k.tag f)
          | none => .ok () :=
  ⟨rfl, fun _ hk d r =>
    (catalog_guardsMirrored hk).checkImmutable_observe (catalog_comparisons_nodup hk) d r⟩

theorem checkImmutable_refuses_moved_subnet :
    Subnet.kind ∈ catalog ∧
      Subnet.kind.checkImmutable
          ⟨"app", "10.0.0.0/24", "192.168.1.1", "vpc-2", none, none, none, none, none⟩
          (Subnet.kind.observe ⟨"subnet-1", "app", "192.168.1.0/24", "192.168.1.1", "vpc-1", false,
            "100.125.4.25", "", "eu-de-01", "", "ACTIVE"⟩) =
        match Subnet.kind.immutableFields.find? (· ∈ Subnet.kind.drift
            ⟨"app", "10.0.0.0/24", "192.168.1.1", "vpc-2", none, none, none, none, none⟩
            ⟨"subnet-1", "app", "192.168.1.0/24", "192.168.1.1", "vpc-1", false, "100.125.4.25", "",
              "eu-de-01", "", "ACTIVE"⟩) with
        | some f => .error (.immutableField Subnet.kind.tag f)
        | none => .ok () :=
  ⟨by simp [catalog], checkImmutable_refuses_first_drifted.2 Subnet.kind (by simp [catalog]) _ _⟩

/-- A subnet moved to another VPC and CIDR block is refused for its VPC, checked first. -/
example :
    Subnet.kind.checkImmutable ⟨"app", "10.0.0.0/24", "192.168.1.1", "vpc-2", none, none, none, none, none⟩
        (Subnet.kind.observe ⟨"subnet-1", "app", "192.168.1.0/24", "192.168.1.1", "vpc-1", false,
          "100.125.4.25", "", "eu-de-01", "", "ACTIVE"⟩) =
      .error (.immutableField "Subnet" "vpcId") := by
  rfl

end NetReconcile
