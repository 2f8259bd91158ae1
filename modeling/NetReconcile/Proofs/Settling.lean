import NetReconcile.Proofs.Kinds

/-!
# Records the provider writes settle their parameters

A record the provider creates from a resource's parameters, or updates from parameters
that change no immutable field, is one the next cycle finds settled: nothing drifts
from it, and the immutability check still passes against its observation. A created
record also carries the identifier it was created under.

The immutability check follows from drift because every immutable field is also a
compared field: each guard watches, through the observation kept of a record, the field
that a comparison of the same name watches in the record itself. A record with no drift
therefore passes every guard, and both results come down to the drift laws of lawful
kinds.
-/

namespace NetReconcile

open Resource

namespace Resource

/-- Every immutable field of a kind is also compared by drift detection: for each guard,
drift has a comparison of the same field, and the guard, looking at the observation kept
of a record, sees a change exactly when that comparison sees a difference in the
record. -/
def Kind.GuardsMirrored (k : Kind) : Prop :=
  ∀ g ∈ k.guards, ∃ c, k.comparisons.find? (·.field == g.field) = some c ∧
    ∀ d r, g.changed d (k.observe r) = c.differs d r

namespace Kind

variable {k : Kind}

/-- A record that does not drift from the parameters passes the immutability check
against its observation. -/
theorem GuardsMirrored.checkImmutable_of_drift_eq_nil (hk : k.GuardsMirrored) {d : k.Params}
    {r : k.Rec} (h : k.drift d r = []) : k.checkImmutable d (k.observe r) = .ok () := by
  rw [checkImmutable_eq_ok_iff]
  intro g hg
  obtain ⟨c, hc, hgc⟩ := hk g hg
  rw [hgc]
  exact (drift_eq_nil_iff _ _ _).mp h c (List.mem_of_find?_eq_some hc)

/-- The update request is made exactly when the kind has one for the parameters. -/
theorem updateRequest_eq_ok_iff (k : Kind) (d : k.Params) (o : k.UpdateOpts) :
    k.updateRequest d = .ok o ↔ k.updateOpts d = some o := by
  unfold updateRequest
  cases k.updateOpts d <;> simp

end Kind

end Resource

/-! ## The seven kinds

Each guard finds the comparison of its field; the observation copies that field of the
record (under another name for NAT gateways, elastic IPs and SNAT rules), so the two
see the same difference. -/

theorem Vpc.kind_guardsMirrored : Vpc.kind.GuardsMirrored := by
  unfold Kind.GuardsMirrored
  rw [← List.forall_iff_forall_mem]
  simp [Vpc.kind, Comparison.required, Comparison.optional, Guard.required]

theorem Subnet.kind_guardsMirrored : Subnet.kind.GuardsMirrored := by
  unfold Kind.GuardsMirrored
  rw [← List.forall_iff_forall_mem]
  simp [Subnet.kind, Comparison.required, Comparison.optional, Guard.required]

theorem SecurityGroup.kind_guardsMirrored : SecurityGroup.kind.GuardsMirrored := by
  unfold Kind.GuardsMirrored
  rw [← List.forall_iff_forall_mem]
  simp [SecurityGroup.kind]

theorem SecurityGroupRule.kind_guardsMirrored : SecurityGroupRule.kind.GuardsMirrored := by
  unfold Kind.GuardsMirrored
  rw [← List.forall_iff_forall_mem]
  simp [SecurityGroupRule.kind, Comparison.required, Comparison.optional, Guard.required]

theorem NatGateway.kind_guardsMirrored : NatGateway.kind.GuardsMirrored := by
  unfold Kind.GuardsMirrored
  rw [← List.forall_iff_forall_mem]
  simp [NatGateway.kind, Comparison.required, Comparison.optional, Guard.required]

theorem ElasticIp.kind_guardsMirrored : ElasticIp.kind.GuardsMirrored := by
  unfold Kind.GuardsMirrored
  rw [← List.forall_iff_forall_mem]
  simp [ElasticIp.kind, Comparison.required, Comparison.optional, Guard.required, Guard.optional]

theorem SnatRule.kind_guardsMirrored : SnatRule.kind.GuardsMirrored := by
  unfold Kind.GuardsMirrored
  rw [← List.forall_iff_forall_mem]
  simp [SnatRule.kind, Comparison.required, Comparison.optional, Guard.required, Guard.optional]

/-- Every immutable field of every kind of the catalog is a compared field. -/
theorem catalog_guardsMirrored {k : Kind} (hk : k ∈ catalog) : k.GuardsMirrored := by
  simp only [catalog, List.mem_cons, List.not_mem_nil, or_false] at hk
  rcases hk with rfl | rfl | rfl | rfl | rfl | rfl | rfl
  · exact Vpc.kind_guardsMirrored
  · exact Subnet.kind_guardsMirrored
  · exact SecurityGroup.kind_guardsMirrored
  · exact SecurityGroupRule.kind_guardsMirrored
  · exact NatGateway.kind_guardsMirrored
  · exact ElasticIp.kind_guardsMirrored
  · exact SnatRule.kind_guardsMirrored

/-! ## Created and updated records -/

variable {k : Kind}

/-- Creating converges for every kind: the record the provider creates from a resource's
parameters carries the identifier it was created under, nothing drifts from it, and it
passes the immutability check. -/
theorem created_record_settles (hk : k ∈ catalog) (d : k.Params) (id : String) :
    k.drift d (k.simulateCreate id (k.createOpts d)) = [] ∧
      k.checkImmutable d (k.observe (k.simulateCreate id (k.createOpts d))) = .ok () ∧
      k.remoteId (k.simulateCreate id (k.createOpts d)) = id := by
  have hl := catalog_lawful hk
  have hdrift := hl.drift_simulateCreate id d
  exact ⟨hdrift, (catalog_guardsMirrored hk).checkImmutable_of_drift_eq_nil hdrift,
    hl.remoteId_simulateCreate id _⟩

theorem created_record_settles_sample :
    Vpc.kind ∈ catalog ∧
      (Vpc.kind.drift ⟨"web", "10.0.0.0/16", none⟩
          (Vpc.kind.simulateCreate "vpc-1" (Vpc.kind.createOpts ⟨"web", "10.0.0.0/16", none⟩)) = [] ∧
        Vpc.kind.checkImmutable ⟨"web", "10.0.0.0/16", none⟩ (Vpc.kind.observe
          (Vpc.kind.simulateCreate "vpc-1" (Vpc.kind.createOpts ⟨"web", "10.0.0.0/16", none⟩))) = .ok () ∧
        Vpc.kind.remoteId
          (Vpc.kind.simulateCreate "vpc-1" (Vpc.kind.createOpts ⟨"web", "10.0.0.0/16", none⟩)) = "vpc-1") :=
  ⟨by simp [catalog], created_record_settles (by simp [catalog]) _ _⟩

/-- Updating converges for every kind that can be updated: when the parameters change no
immutable field of a record and the kind makes an update request from them, nothing
drifts from the updated record, and it still passes the immutability check. -/
theorem updated_record_settles (hk : k ∈ catalog) {d : k.Params} {r : k.Rec} {o : k.UpdateOpts}
    (hi : k.checkImmutable d (k.observe r) = .ok ()) (hu : k.updateRequest d = .ok o) :
    k.drift d (k.simulateUpdate r o) = [] ∧
      k.checkImmutable d (k.observe (k.simulateUpdate r o)) = .ok () := by
  have hdrift := (catalog_lawful hk).drift_simulateUpdate hi ((k.updateRequest_eq_ok_iff d o).mp hu)
  exact ⟨hdrift, (catalog_guardsMirrored hk).checkImmutable_of_drift_eq_nil hdrift⟩

theorem updated_record_settles_sample :
    Vpc.kind ∈ catalog ∧
      Vpc.kind.checkImmutable ⟨"web", "10.0.0.0/16", none⟩
        (Vpc.kind.observe ⟨"vpc-1", "old", "10.0.0.0/16", "", "OK"⟩) = .ok () ∧
      Vpc.kind.updateRequest ⟨"web", "10.0.0.0/16", none⟩ = .ok ⟨"web", none⟩ ∧
      (Vpc.kind.drift ⟨"web", "10.0.0.0/16", none⟩
          (Vpc.kind.simulateUpdate ⟨"vpc-1", "old", "10.0.0.0/16", "", "OK"⟩ ⟨"web", none⟩) = [] ∧
        Vpc.kind.checkImmutable ⟨"web", "10.0.0.0/16", none⟩ (Vpc.kind.observe
          (Vpc.kind.simulateUpdate ⟨"vpc-1", "old", "10.0.0.0/16", "", "OK"⟩ ⟨"web", none⟩)) = .ok ()) :=
  have hi : Vpc.kind.checkImmutable ⟨"web", "10.0.0.0/16", none⟩
      (Vpc.kind.observe ⟨"vpc-1", "old", "10.0.0.0/16", "", "OK"⟩) = .ok () := by decide
  have hu : Vpc.kind.updateRequest ⟨"web", "10.0.0.0/16", none⟩ = .ok ⟨"web", none⟩ := rfl
  ⟨by simp [catalog], hi, hu, updated_record_settles (by simp [catalog]) hi hu⟩

end NetReconcile
