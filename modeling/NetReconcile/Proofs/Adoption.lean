import NetReconcile.Proofs.Healthy

/-!
# The engine changes declared parameters only by adoption

A reconcile never rewrites what the owner of a resource declared. After a reconcile,
successful or failed and whatever the provider answered, the parameters are the ones
before it, or the ones late initialization adopted from the record the reconcile's lookup
found; either way every field the owner set keeps its value. The name, namespace and
deletion request of the resource are kept too, and a successful reconcile reports a
change of the parameters exactly when there was one.

"Every field set keeps its value" is said of the JSON form of the parameters, which
lists each required field and each optional field that is set, and leaves out the unset
ones: each leaf of it, reached by a path of keys, is still there after adoption.
Adoption fills an unset field, so it only adds leaves.
-/

namespace NetReconcile

/-! ## Leaves of JSON values -/

namespace Json

/-- A value holds `x` at the end of a path of keys: following the keys through nested
objects leads to `x`, which is no object. -/
inductive Value.At : Value → List String → Value → Prop
  | leaf {v : Value} : v.fields? = none → Value.At v [] v
  | field {fs : List (String × Value)} {key : String} {v x : Value} {path : List String} :
      (key, v) ∈ fs → Value.At v path x → Value.At (.obj fs) (key :: path) x

namespace Value

/-- Every leaf of `v` is a leaf of `w`, at the same path of keys. -/
def Within (v w : Value) : Prop := ∀ path x, v.At path x → w.At path x

theorem Within.refl (v : Value) : v.Within v := fun _ _ h => h

theorem Within.trans {u v w : Value} (h₁ : u.Within v) (h₂ : v.Within w) : u.Within w :=
  fun path x h => h₂ path x (h₁ path x h)

/-- An object lies within another when each of its fields lies within a field of the
same key of the other. -/
theorem within_obj {fs gs : List (String × Value)}
    (h : ∀ kv ∈ fs, ∃ w, (kv.1, w) ∈ gs ∧ kv.2.Within w) : (Value.obj fs).Within (.obj gs) := by
  intro path x hat
  cases hat with
  | leaf hobj => simp [fields?] at hobj
  | field hmem hrest =>
    obtain ⟨w, hw, hsub⟩ := h _ hmem
    exact .field hw (hsub _ _ hrest)

/-- An object lies within one that has its fields and more. -/
theorem within_obj_of_sublist {fs gs : List (String × Value)} (h : fs.Sublist gs) :
    (Value.obj fs).Within (.obj gs) :=
  within_obj fun kv hkv => ⟨kv.2, h.subset hkv, Within.refl _⟩

end Value

end Json

/-! ## Adoption only adds fields -/

open Json Resource

namespace Resource

/-- Adoption only adds to the JSON form of a kind's parameters: after an adoption, every
leaf of the JSON form of the parameters before is still there. -/
def Kind.AdoptionsExtend (k : Kind) : Prop :=
  ∀ a ∈ k.adoptions, a.Respects fun p q => (k.encodeParams p).Within (k.encodeParams q)

namespace Kind

variable {k : Kind}

/-- Late initialization keeps every leaf of the JSON form of the parameters. -/
theorem AdoptionsExtend.lateInit_within (hk : k.AdoptionsExtend) (d : k.Params) (r : k.Rec) :
    (k.encodeParams d).Within (k.encodeParams (k.lateInit d r).1) :=
  lateInit_respects (fun p q => (k.encodeParams p).Within (k.encodeParams q))
    (fun _ => Value.Within.refl _) (fun _ _ _ h₁ h₂ => h₁.trans h₂) hk d r

/-- Late initialization by a lawful kind changes the parameters exactly when it reports
a field. -/
theorem Lawful.lateInit_fst_eq_self_iff (hk : k.Lawful) (d : k.Params) (r : k.Rec) :
    (k.lateInit d r).1 = d ↔ (k.lateInit d r).2 = [] :=
  Resource.lateInit_fst_eq_self_iff hk.adoptions_settle hk.adoptions_keep_settled d r

end Kind

end Resource

/-! ### The seven kinds

Each adoption fills an unset optional field, which the JSON form left out before and
lists after; the elastic IP's address sits inside its public address object. -/

theorem Vpc.kind_adoptionsExtend : Vpc.kind.AdoptionsExtend := by
  unfold Kind.AdoptionsExtend
  rw [← List.forall_iff_forall_mem]
  simp only [Vpc.kind, List.Forall, Adoption.respects_text]
  intro p _ hp _
  apply Value.within_obj_of_sublist
  simp [hp, optionalField]

theorem Subnet.kind_adoptionsExtend : Subnet.kind.AdoptionsExtend := by
  unfold Kind.AdoptionsExtend
  rw [← List.forall_iff_forall_mem]
  simp only [Subnet.kind, List.Forall, Adoption.respects_text, Adoption.respects_value]
  refine ⟨?_, ?_, ?_, ?_⟩ <;>
  · intro p _ hp
    try intro _
    apply Value.within_obj_of_sublist
    simp [hp, optionalField]

theorem SecurityGroup.kind_adoptionsExtend : SecurityGroup.kind.AdoptionsExtend := by
  unfold Kind.AdoptionsExtend
  rw [← List.forall_iff_forall_mem]
  simp only [SecurityGroup.kind, List.Forall, Adoption.respects_text]
  intro p _ hp _
  apply Value.within_obj_of_sublist
  simp [hp, optionalField]

theorem SecurityGroupRule.kind_adoptionsExtend : SecurityGroupRule.kind.AdoptionsExtend := by
  unfold Kind.AdoptionsExtend
  rw [← List.forall_iff_forall_mem]
  simp only [SecurityGroupRule.kind, List.Forall, Adoption.respects_text, Adoption.respects_value]
  refine ⟨?_, ?_, ?_, ?_, ?_, ?_, ?_, ?_, ?_⟩ <;>
  · intro p _ hp
    try intro _
    apply Value.within_obj_of_sublist
    simp [hp, optionalField]

theorem NatGateway.kind_adoptionsExtend : NatGateway.kind.AdoptionsExtend := by
  unfold Kind.AdoptionsExtend
  rw [← List.forall_iff_forall_mem]
  simp only [NatGateway.kind, List.Forall, Adoption.respects_text]
  intro p _ hp _
  apply Value.within_obj_of_sublist
  simp [hp, optionalField]

theorem ElasticIp.kind_adoptionsExtend : ElasticIp.kind.AdoptionsExtend := by
  unfold Kind.AdoptionsExtend
  rw [← List.forall_iff_forall_mem]
  simp only [ElasticIp.kind, List.Forall, Adoption.respects_text]
  intro p _ hp _
  apply Value.within_obj
  intro kv hkv
  simp only [List.mem_cons, List.not_mem_nil, or_false] at hkv
  rcases hkv with rfl | rfl
  · refine ⟨_, List.mem_cons_self, Value.within_obj_of_sublist ?_⟩
    simp [hp, optionalField]
  · exact ⟨_, List.mem_cons_of_mem _ List.mem_cons_self, Value.Within.refl _⟩

theorem SnatRule.kind_adoptionsExtend : SnatRule.kind.AdoptionsExtend := by
  unfold Kind.AdoptionsExtend
  rw [← List.forall_iff_forall_mem]
  simp only [SnatRule.kind, List.Forall, Adoption.respects_text]
  refine ⟨?_, ?_⟩ <;>
  · intro p _ hp _
    apply Value.within_obj_of_sublist
    simp [hp, optionalField]

/-- Adoption only adds fields, for every kind of the catalog. -/
theorem catalog_adoptionsExtend {k : Kind} (hk : k ∈ catalog) : k.AdoptionsExtend := by
  simp only [catalog, List.mem_cons, List.not_mem_nil, or_false] at hk
  rcases hk with rfl | rfl | rfl | rfl | rfl | rfl | rfl
  · exact Vpc.kind_adoptionsExtend
  · exact Subnet.kind_adoptionsExtend
  · exact SecurityGroup.kind_adoptionsExtend
  · exact SecurityGroupRule.kind_adoptionsExtend
  · exact NatGateway.kind_adoptionsExtend
  · exact ElasticIp.kind_adoptionsExtend
  · exact SnatRule.kind_adoptionsExtend

/-! ## What a pass does to the parameters -/

namespace Engine

open Reconciler

variable {k : Kind}

namespace Reconciler

variable (m : Managed k) (p : Provider k)

/-- A pass keeps the parameters, or it found a record under the recorded name and left
the resource observed from it. -/
theorem converge_spec_cases :
    (converge m p).2.1.spec = m.spec ∨
      ∃ x r, m.metadata.deletionRequested = false ∧ m.externalName = some x ∧ (p.get x).2 = .ok r ∧
        (converge m p).2.1 = m.observed r := by
  cases hd : m.metadata.deletionRequested with
  | true => exact .inl (by simp [converge_of_deletionRequested m p hd])
  | false =>
    rcases hx : m.externalName with _ | x
    · exact .inl (by simp [converge_of_unnamed m p hd hx])
    rcases hg : (p.get x).2 with e | r
    · cases e with
      | notFound => exact .inl (by simp [converge_of_missing m p hd hx hg])
      | api msg => exact .inl (by simp [converge_of_get_api m p hd hx hg])
    · refine .inr ⟨x, r, rfl, rfl, hg, ?_⟩
      rw [converge_of_found m p hd hx hg]
      split <;> rfl

/-- A pass changes no part of the resource's identity but its external name. -/
theorem converge_metadata :
    (converge m p).2.1.metadata =
      { m.metadata with externalName := (converge m p).2.1.metadata.externalName } := by
  cases hd : m.metadata.deletionRequested with
  | true => simp [converge_of_deletionRequested m p hd]
  | false =>
    rcases hx : m.externalName with _ | x
    · rw [converge_of_unnamed m p hd hx]
      rcases hc : (p.create (k.createOpts m.spec)).2 with e | r
      · simp [Managed.create_of_error hc]
      · simp [Managed.create_of_ok hx hc]
    rcases hg : (p.get x).2 with e | r
    · cases e with
      | notFound => simp [converge_of_missing m p hd hx hg]
      | api msg => simp [converge_of_get_api m p hd hx hg]
    · rw [converge_of_found m p hd hx hg]
      split <;> simp

/-- What a successful pass reports about the parameters: a delete or a create adopts
nothing and keeps them; any other outcome found a record and reports whether late
initialization adopted from it. -/
theorem converge_outcome_cases {o : Outcome} (h : (converge m p).2.2 = .ok o) :
    ((o.action = .deleted ∨ o.action = .created) ∧ o.specChanged = false ∧
        (converge m p).2.1.spec = m.spec) ∨
      ∃ r, (o.action = .updated ∨ o.action = .upToDate) ∧ (converge m p).2.1 = m.observed r ∧
        o.specChanged = !(k.lateInit m.spec r).2.isEmpty := by
  cases hd : m.metadata.deletionRequested with
  | true =>
    rw [converge_of_deletionRequested m p hd] at h ⊢
    split at h
    · cases h
      exact .inl ⟨.inl rfl, rfl, rfl⟩
    · cases h
  | false =>
    rcases hx : m.externalName with _ | x
    · rw [converge_of_unnamed m p hd hx] at h ⊢
      split at h
      · cases h
        exact .inl ⟨.inr rfl, rfl, Managed.create_spec m p⟩
      · cases h
    rcases hg : (p.get x).2 with e | r
    · cases e with
      | notFound => simp [converge_of_missing m p hd hx hg] at h
      | api msg => simp [converge_of_get_api m p hd hx hg] at h
    · rw [converge_of_found m p hd hx hg] at h ⊢
      refine .inr ⟨r, ?_⟩
      by_cases he : (k.drift (m.observed r).spec r).isEmpty
      · rw [if_pos he] at h ⊢
        cases h
        exact ⟨.inr rfl, rfl, rfl⟩
      · rw [if_neg he] at h ⊢
        split at h
        · cases h
          exact ⟨.inl rfl, rfl, rfl⟩
        · cases h

/-! ## What a reconcile does to the parameters -/

/-- The lookup of a reconcile found `r`: the reconcile connected and built a client, the
resource is not being deleted, and the provider answered the lookup of its recorded
name with `r`. -/
def Found (e : Reconciler k) (m : Managed k) (r : k.Rec) : Prop :=
  ∃ conn x, (e.connector.connect m.configRef m.metadata.ns).2 = .ok conn ∧ e.clientFailure = none ∧
    m.metadata.deletionRequested = false ∧ m.externalName = some x ∧
    ((e.provider.client conn.region).get x).2 = .ok r

variable (e : Reconciler k)

/-- A reconcile keeps the parameters, or adopts into them from the record its lookup
found. -/
theorem reconcile_spec_cases :
    (e.reconcile m).2.1.spec = m.spec ∨
      ∃ r, e.Found m r ∧ (e.reconcile m).2.1.spec = (k.lateInit m.spec r).1 := by
  rw [reconcile_spec]
  rcases cycle_cases m e with ⟨-, hm, -⟩ | ⟨conn, hc, hcl, -, hm⟩
  · exact .inl (by rw [hm])
  have hspec : (e.cycle m).2.1.spec = (converge m (e.provider.client conn.region)).2.1.spec := by
    rw [hm]
  rcases converge_spec_cases m (e.provider.client conn.region) with h | ⟨x, r, hd, hx, hg, hobs⟩
  · exact .inl (by rw [hspec, h])
  · exact .inr ⟨r, ⟨conn, x, hc, hcl, hd, hx, hg⟩, by rw [hspec, hobs, Managed.observed_spec]⟩

/-- A reconcile changes no part of the resource's identity but its external name. -/
theorem reconcile_metadata_eq :
    (e.reconcile m).2.1.metadata =
      { m.metadata with externalName := (e.reconcile m).2.1.metadata.externalName } := by
  rw [reconcile_metadata]
  rcases cycle_cases m e with ⟨-, hm, -⟩ | ⟨conn, -, -, -, hm⟩
  · rw [hm]
  · rw [hm]
    exact converge_metadata m _

/-- A successful reconcile of a lawful kind reports a change of the parameters exactly
when there was one, and never for a delete or a create. -/
theorem reconcile_specChanged (hk : k.Lawful) {o : Outcome} (h : (e.reconcile m).2.2 = .ok o) :
    (o.specChanged = true ↔ (e.reconcile m).2.1.spec ≠ m.spec) ∧
      (o.action = .deleted ∨ o.action = .created → o.specChanged = false) := by
  obtain ⟨-, hcyc⟩ := (reconcile_result_eq_ok m e).mp h
  obtain ⟨conn, -, -, -, hm⟩ := cycle_of_result_ok m e hcyc
  rw [hm] at hcyc
  rw [reconcile_spec, hm]
  rcases converge_outcome_cases m _ hcyc with ⟨-, hsc, hspec⟩ | ⟨r, hact, hobs, hsc⟩
  · rw [hsc, hspec]
    simp
  · rw [hobs, Managed.observed_spec, hsc, Ne, hk.lateInit_fst_eq_self_iff]
    refine ⟨by cases (k.lateInit m.spec r).2 <;> simp, ?_⟩
    rintro (hdel | hcre) <;> rcases hact with hact | hact <;> simp_all

end Reconciler

/-- The engine changes the declared parameters only by late initialization. After any
reconcile of a resource of a kind of the catalog, successful or failed and whatever the
provider answered:

* every leaf of the JSON form of the parameters is still there, so every required field
  and every optional field that was set keeps its value;
* the parameters are the ones before, or the ones late initialization adopted from the
  record the reconcile's lookup found;
* the name, namespace and deletion request of the resource are kept;
* a successful reconcile reports a change of the parameters exactly when there was one,
  and never for a delete or a create. -/
theorem reconcile_changes_spec_only_by_adoption (hk : k ∈ catalog) (e : Reconciler k)
    (m : Managed k) :
    (k.encodeParams m.spec).Within (k.encodeParams (e.reconcile m).2.1.spec) ∧
      ((e.reconcile m).2.1.spec = m.spec ∨
        ∃ r, e.Found m r ∧ (e.reconcile m).2.1.spec = (k.lateInit m.spec r).1) ∧
      (e.reconcile m).2.1.metadata.name = m.metadata.name ∧
      (e.reconcile m).2.1.metadata.ns = m.metadata.ns ∧
      (e.reconcile m).2.1.metadata.deletionRequested = m.metadata.deletionRequested ∧
      ∀ o, (e.reconcile m).2.2 = .ok o →
        (o.specChanged = true ↔ (e.reconcile m).2.1.spec ≠ m.spec) ∧
          (o.action = .deleted ∨ o.action = .created → o.specChanged = false) := by
  have hspec := reconcile_spec_cases m e
  have hmeta := reconcile_metadata_eq m e
  refine ⟨?_, hspec, by rw [hmeta], by rw [hmeta], by rw [hmeta],
    fun o ho => reconcile_specChanged m e (catalog_lawful hk) ho⟩
  rcases hspec with h | ⟨r, -, h⟩
  · rw [h]
    exact Value.Within.refl _
  · rw [h]
    exact (catalog_adoptionsExtend hk).lateInit_within m.spec r

theorem reconcile_changes_spec_only_by_adoption_sample :
    let e := sampleReconciler Vpc.kind
    let m := sampleVpc
    Vpc.kind ∈ catalog ∧
      ((Vpc.kind.encodeParams m.spec).Within (Vpc.kind.encodeParams (e.reconcile m).2.1.spec) ∧
        ((e.reconcile m).2.1.spec = m.spec ∨
          ∃ r, e.Found m r ∧ (e.reconcile m).2.1.spec = (Vpc.kind.lateInit m.spec r).1) ∧
        (e.reconcile m).2.1.metadata.name = m.metadata.name ∧
        (e.reconcile m).2.1.metadata.ns = m.metadata.ns ∧
        (e.reconcile m).2.1.metadata.deletionRequested = m.metadata.deletionRequested ∧
        ∀ o, (e.reconcile m).2.2 = .ok o →
          (o.specChanged = true ↔ (e.reconcile m).2.1.spec ≠ m.spec) ∧
            (o.action = .deleted ∨ o.action = .created → o.specChanged = false)) :=
  ⟨by simp [catalog], reconcile_changes_spec_only_by_adoption (by simp [catalog]) _ _⟩

end Engine

end NetReconcile
