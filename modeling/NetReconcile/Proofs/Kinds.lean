import Mathlib.Data.List.Basic
import NetReconcile.Proofs.Rules
import NetReconcile.Kinds.Catalog

/-!
# Lawful kinds

A kind is lawful when its provider and its field rules agree, so that a resource left
alone settles:

* a record created from the parameters matches them, and carries the identifier it was
  created under;
* adopting from a record changes no comparison's verdict, and adopting twice adopts
  nothing new;
* a record updated from parameters that pass the immutability check matches them, and
  an update leaves nothing to adopt that was not there before;
* adopting never changes where the provider files the resource.

Each condition is stated field rule by field rule, which is how each of the seven kinds
of the catalog is checked; the laws of whole kinds follow from the laws of the field
rules.
-/

namespace NetReconcile

open Resource

namespace Resource

/-- The conditions under which a kind's provider and field rules agree. -/
structure Kind.Lawful (k : Kind) : Prop where
  /-- A created record carries the identifier it was created under. -/
  remoteId_simulateCreate : ∀ id o, k.remoteId (k.simulateCreate id o) = id
  /-- A record created from parameters matches them on every compared field. -/
  created_matches : ∀ id d, ∀ c ∈ k.comparisons, c.differs d (k.simulateCreate id (k.createOpts d)) = false
  adoptions_keep_verdicts : ∀ a ∈ k.adoptions, ∀ c ∈ k.comparisons, a.KeepsVerdict c
  adoptions_settle : ∀ a ∈ k.adoptions, a.SettlesItself
  adoptions_keep_settled : ∀ a ∈ k.adoptions, ∀ b ∈ k.adoptions, b.KeepsSettled a
  /-- A record updated from parameters that change no immutable field matches them. -/
  updated_matches : ∀ d r o, (∀ g ∈ k.guards, g.changed d (k.observe r) = false) →
    k.updateOpts d = some o → ∀ c ∈ k.comparisons, c.differs d (k.simulateUpdate r o) = false
  /-- An update gives an adoption nothing to fill that the record before it did not. -/
  update_keeps_settled : ∀ d r o, k.updateOpts d = some o →
    ∀ a ∈ k.adoptions, a.adopt d r = none → a.adopt d (k.simulateUpdate r o) = none
  adoptions_keep_parent : ∀ a ∈ k.adoptions, a.Preserves k.parent

theorem Kind.checkImmutable_eq_ok_iff (k : Kind) (p : k.Params) (o : k.Obs) :
    k.checkImmutable p o = .ok () ↔ ∀ g ∈ k.guards, g.changed p o = false := by
  rw [← firstChanged_eq_none_iff]
  unfold checkImmutable changedImmutable
  cases firstChanged k.guards p o <;> simp

namespace Kind.Lawful

variable {k : Kind} (hk : k.Lawful)
include hk

/-- A created record shows no drift from the parameters it was created from. -/
theorem drift_simulateCreate (id : String) (d : k.Params) :
    k.drift d (k.simulateCreate id (k.createOpts d)) = [] :=
  (drift_eq_nil_iff _ _ _).mpr (hk.created_matches id d)

/-- Late initialization does not change what drifts. -/
theorem drift_lateInit (d : k.Params) (r : k.Rec) : k.drift (k.lateInit d r).1 r = k.drift d r :=
  Resource.drift_lateInit hk.adoptions_keep_verdicts d r

/-- Late initialization adopts nothing the second time. -/
theorem lateInit_lateInit (d : k.Params) (r : k.Rec) :
    k.lateInit (k.lateInit d r).1 r = ((k.lateInit d r).1, []) :=
  Resource.lateInit_lateInit hk.adoptions_settle hk.adoptions_keep_settled d r

/-- An update accepted by the immutability check leaves no drift. -/
theorem drift_simulateUpdate {d : k.Params} {r : k.Rec} {o : k.UpdateOpts}
    (hi : k.checkImmutable d (k.observe r) = .ok ()) (ho : k.updateOpts d = some o) :
    k.drift d (k.simulateUpdate r o) = [] :=
  (drift_eq_nil_iff _ _ _).mpr
    (hk.updated_matches d r o ((k.checkImmutable_eq_ok_iff d (k.observe r)).mp hi) ho)

/-- Parameters with nothing to adopt from a record have nothing to adopt after updating
it from them. -/
theorem lateInit_simulateUpdate {d : k.Params} {r : k.Rec} {o : k.UpdateOpts}
    (hs : k.lateInit d r = (d, [])) (ho : k.updateOpts d = some o) :
    k.lateInit d (k.simulateUpdate r o) = (d, []) := by
  have hnone : ∀ a ∈ k.adoptions, a.adopt d r = none :=
    (lateInit_snd_eq_nil_iff _ _ _).mp (congrArg Prod.snd hs)
  exact lateInit_of_settled fun a ha => hk.update_keeps_settled d r o ho a ha (hnone a ha)

/-- Late initialization keeps the parent a resource is filed under. -/
theorem parent_lateInit (d : k.Params) (r : k.Rec) : k.parent (k.lateInit d r).1 = k.parent d :=
  lateInit_preserves hk.adoptions_keep_parent d r

end Kind.Lawful

/-- A condition on every pair of elements of two lists, as one list fact per element. -/
private theorem forall_mem_pairs_iff {α β : Type} {l₁ : List α} {l₂ : List β} {q : α → β → Prop} :
    (∀ a ∈ l₁, ∀ b ∈ l₂, q a b) ↔ l₁.Forall fun a => l₂.Forall (q a) := by
  simp only [List.forall_iff_forall_mem]

end Resource

/-! ## The seven kinds

Each condition is checked one field rule at a time. The binders name each kind's own
types, so that the field rules' lemmas see the parameters they are about. -/

theorem Vpc.kind_lawful : Vpc.kind.Lawful where
  remoteId_simulateCreate _ _ := rfl
  created_matches id (d : Vpc.Params) := by
    rw [← List.forall_iff_forall_mem]
    simp +contextual [Vpc.kind]
  adoptions_keep_verdicts := by
    rw [forall_mem_pairs_iff]
    simp +contextual [Vpc.kind, Comparison.optional_differs]
  adoptions_settle := by
    rw [← List.forall_iff_forall_mem]
    simp [Vpc.kind]
  adoptions_keep_settled := by
    rw [forall_mem_pairs_iff]
    simp +contextual [Vpc.kind]
  updated_matches (d : Vpc.Params) (r : Vpc.Record) (o : Vpc.UpdateOpts) hg ho := by
    rw [← List.forall_iff_forall_mem] at hg ⊢
    simp only [Vpc.kind, List.Forall, Option.some.injEq] at hg ho ⊢
    subst ho
    simp_all +contextual
  update_keeps_settled (d : Vpc.Params) (r : Vpc.Record) (o : Vpc.UpdateOpts) ho := by
    rw [← List.forall_iff_forall_mem]
    simp only [Vpc.kind, List.Forall, Option.some.injEq] at ho ⊢
    subst ho
    simp +contextual
  adoptions_keep_parent := by
    rw [← List.forall_iff_forall_mem]
    simp [Vpc.kind]

theorem Subnet.kind_lawful : Subnet.kind.Lawful where
  remoteId_simulateCreate _ _ := rfl
  created_matches id (d : Subnet.Params) := by
    rw [← List.forall_iff_forall_mem]
    simp +contextual [Subnet.kind]
  adoptions_keep_verdicts := by
    rw [forall_mem_pairs_iff]
    simp +contextual [Subnet.kind, Comparison.optional_differs]
  adoptions_settle := by
    rw [← List.forall_iff_forall_mem]
    simp [Subnet.kind]
  adoptions_keep_settled := by
    rw [forall_mem_pairs_iff]
    simp +contextual [Subnet.kind]
  updated_matches (d : Subnet.Params) (r : Subnet.Record) (o : Subnet.UpdateOpts) hg ho := by
    rw [← List.forall_iff_forall_mem] at hg ⊢
    simp only [Subnet.kind, List.Forall, Option.some.injEq] at hg ho ⊢
    subst ho
    simp_all +contextual
  update_keeps_settled (d : Subnet.Params) (r : Subnet.Record) (o : Subnet.UpdateOpts) ho := by
    rw [← List.forall_iff_forall_mem]
    simp only [Subnet.kind, List.Forall, Option.some.injEq] at ho ⊢
    subst ho
    simp +contextual
  adoptions_keep_parent := by
    rw [← List.forall_iff_forall_mem]
    simp [Subnet.kind]

theorem SecurityGroup.kind_lawful : SecurityGroup.kind.Lawful where
  remoteId_simulateCreate _ _ := rfl
  created_matches id (d : SecurityGroup.Params) := by
    rw [← List.forall_iff_forall_mem]
    simp +contextual [SecurityGroup.kind]
  adoptions_keep_verdicts := by
    rw [forall_mem_pairs_iff]
    simp +contextual [SecurityGroup.kind, Comparison.optional_differs]
  adoptions_settle := by
    rw [← List.forall_iff_forall_mem]
    simp [SecurityGroup.kind]
  adoptions_keep_settled := by
    rw [forall_mem_pairs_iff]
    simp +contextual [SecurityGroup.kind]
  updated_matches (d : SecurityGroup.Params) (r : SecurityGroup.Record) (o : SecurityGroup.Opts) hg ho := by
    rw [← List.forall_iff_forall_mem] at hg ⊢
    simp only [SecurityGroup.kind, List.Forall, Option.some.injEq] at hg ho ⊢
    subst ho
    simp_all +contextual
  update_keeps_settled (d : SecurityGroup.Params) (r : SecurityGroup.Record) (o : SecurityGroup.Opts) ho := by
    rw [← List.forall_iff_forall_mem]
    simp only [SecurityGroup.kind, List.Forall, Option.some.injEq] at ho ⊢
    subst ho
    simp +contextual
  adoptions_keep_parent := by
    rw [← List.forall_iff_forall_mem]
    simp [SecurityGroup.kind]

theorem SecurityGroupRule.kind_lawful : SecurityGroupRule.kind.Lawful where
  remoteId_simulateCreate _ _ := rfl
  created_matches id (d : SecurityGroupRule.Params) := by
    rw [← List.forall_iff_forall_mem]
    simp +contextual [SecurityGroupRule.kind]
  adoptions_keep_verdicts := by
    rw [forall_mem_pairs_iff]
    simp +contextual [SecurityGroupRule.kind, Comparison.optional_differs]
  adoptions_settle := by
    rw [← List.forall_iff_forall_mem]
    simp [SecurityGroupRule.kind]
  adoptions_keep_settled := by
    rw [forall_mem_pairs_iff]
    simp +contextual [SecurityGroupRule.kind]
  updated_matches _ _ o := nomatch (o : Empty)
  update_keeps_settled _ _ o := nomatch (o : Empty)
  adoptions_keep_parent := by
    rw [← List.forall_iff_forall_mem]
    simp [SecurityGroupRule.kind]

theorem NatGateway.kind_lawful : NatGateway.kind.Lawful where
  remoteId_simulateCreate _ _ := rfl
  created_matches id (d : NatGateway.Params) := by
    rw [← List.forall_iff_forall_mem]
    simp +contextual [NatGateway.kind]
  adoptions_keep_verdicts := by
    rw [forall_mem_pairs_iff]
    simp +contextual [NatGateway.kind, Comparison.optional_differs]
  adoptions_settle := by
    rw [← List.forall_iff_forall_mem]
    simp [NatGateway.kind]
  adoptions_keep_settled := by
    rw [forall_mem_pairs_iff]
    simp +contextual [NatGateway.kind]
  updated_matches (d : NatGateway.Params) (r : NatGateway.Record) (o : NatGateway.UpdateOpts) hg ho := by
    rw [← List.forall_iff_forall_mem] at hg ⊢
    simp only [NatGateway.kind, List.Forall, Option.some.injEq] at hg ho ⊢
    subst ho
    simp_all +contextual
  update_keeps_settled (d : NatGateway.Params) (r : NatGateway.Record) (o : NatGateway.UpdateOpts) ho := by
    rw [← List.forall_iff_forall_mem]
    simp only [NatGateway.kind, List.Forall, Option.some.injEq] at ho ⊢
    subst ho
    simp +contextual
  adoptions_keep_parent := by
    rw [← List.forall_iff_forall_mem]
    simp [NatGateway.kind]

theorem ElasticIp.kind_lawful : ElasticIp.kind.Lawful where
  remoteId_simulateCreate _ _ := rfl
  created_matches id (d : ElasticIp.Params) := by
    rw [← List.forall_iff_forall_mem]
    simp +contextual [ElasticIp.kind]
  adoptions_keep_verdicts := by
    rw [forall_mem_pairs_iff]
    simp +contextual [ElasticIp.kind, Comparison.optional_differs]
  adoptions_settle := by
    rw [← List.forall_iff_forall_mem]
    simp [ElasticIp.kind]
  adoptions_keep_settled := by
    rw [forall_mem_pairs_iff]
    simp +contextual [ElasticIp.kind]
  updated_matches _ _ o := nomatch (o : Empty)
  update_keeps_settled _ _ o := nomatch (o : Empty)
  adoptions_keep_parent := by
    rw [← List.forall_iff_forall_mem]
    simp [ElasticIp.kind]

theorem SnatRule.kind_lawful : SnatRule.kind.Lawful where
  remoteId_simulateCreate _ _ := rfl
  created_matches id (d : SnatRule.Params) := by
    rw [← List.forall_iff_forall_mem]
    simp +contextual [SnatRule.kind]
  adoptions_keep_verdicts := by
    rw [forall_mem_pairs_iff]
    simp +contextual [SnatRule.kind, Comparison.optional_differs]
  adoptions_settle := by
    rw [← List.forall_iff_forall_mem]
    simp [SnatRule.kind]
  adoptions_keep_settled := by
    rw [forall_mem_pairs_iff]
    simp +contextual [SnatRule.kind]
  updated_matches _ _ o := nomatch (o : Empty)
  update_keeps_settled _ _ o := nomatch (o : Empty)
  adoptions_keep_parent := by
    rw [← List.forall_iff_forall_mem]
    simp [SnatRule.kind]

/-- Every kind of the catalog is lawful. -/
theorem catalog_lawful {k : Kind} (hk : k ∈ catalog) : k.Lawful := by
  simp only [catalog, List.mem_cons, List.not_mem_nil, or_false] at hk
  rcases hk with rfl | rfl | rfl | rfl | rfl | rfl | rfl
  · exact Vpc.kind_lawful
  · exact Subnet.kind_lawful
  · exact SecurityGroup.kind_lawful
  · exact SecurityGroupRule.kind_lawful
  · exact NatGateway.kind_lawful
  · exact ElasticIp.kind_lawful
  · exact SnatRule.kind_lawful

end NetReconcile
