import NetReconcile.Config.Registry

/-!
# Configuration identities

The identity of a configuration, under which the session cache keeps its sessions, is the
configuration's kind, then its namespace for a `ProviderConfig`, then its name, joined by
slashes. A namespaced identity and a cluster-wide one differ in their first letter. Within
a kind the identity is read back from its text: the namespace is what stands before the
first slash after the kind, as long as it holds no slash itself, and the name is all that
follows, slashes included.

So keys whose namespaces hold no slash have distinct identities, and two resolutions of
references from such namespaces give one identity exactly when they select one
configuration (`configuration_identities_separate`). A slash in a namespace breaks this:
namespace `a/b` with name `c` and namespace `a` with name `b/c` share the identity
`ProviderConfig/a/b/c` (`identity_collision`), so two configurations, with different
identity services, share their cached sessions.
-/

namespace NetReconcile.Config

/-! ## Reading back the part before a slash -/

/-- The characters before the first slash of a text are read back from it. -/
theorem takeWhile_ne_slash {u v : List Char} (h : '/' ∉ u) :
    (u ++ '/' :: v).takeWhile (· != '/') = u := by
  induction u with
  | nil => simp
  | cons c cs ih =>
    simp only [List.mem_cons, not_or] at h
    rw [List.cons_append, List.takeWhile_cons, if_pos (by simpa using Ne.symm h.1), ih h.2]

/-- A text without a slash, a slash, and any rest are read back from their
concatenation. -/
theorem append_slash_inj {u v u' v' : List Char} (hu : '/' ∉ u) (hu' : '/' ∉ u')
    (h : u ++ '/' :: v = u' ++ '/' :: v') : u = u' ∧ v = v' := by
  have hfirst : u = u' := by
    rw [← takeWhile_ne_slash (v := v) hu, h, takeWhile_ne_slash hu']
  subst hfirst
  exact ⟨rfl, by simpa using List.append_cancel_left h⟩

/-! ## Identities of keys -/

namespace ConfigKey

/-- A key whose namespace, if it has one, holds no slash. -/
def PlainNamespace : ConfigKey → Prop
  | .inNamespace ns _ => '/' ∉ ns.toList
  | .cluster _ => True

theorem identity_toList_inNamespace (ns n : String) :
    (inNamespace ns n).identity.toList = "ProviderConfig/".toList ++ (ns.toList ++ '/' :: n.toList) := by
  simp [identity, scopedKind]

theorem identity_toList_cluster (n : String) :
    (cluster n).identity.toList = "ClusterProviderConfig/".toList ++ n.toList := by
  simp [identity, clusterKind]

/-- A namespaced identity is never a cluster-wide one: they begin with different letters. -/
theorem identity_inNamespace_ne_cluster (ns n n' : String) :
    (inNamespace ns n).identity ≠ (cluster n').identity := by
  intro h
  have hfirst := congrArg (fun s : String => s.toList.head?) h
  simp [identity_toList_inNamespace, identity_toList_cluster] at hfirst

/-- Keys whose namespaces hold no slash are read back from their identities. -/
theorem identity_inj {k₁ k₂ : ConfigKey} (h₁ : k₁.PlainNamespace) (h₂ : k₂.PlainNamespace)
    (h : k₁.identity = k₂.identity) : k₁ = k₂ := by
  cases k₁ with
  | inNamespace ns n =>
    cases k₂ with
    | inNamespace ns' n' =>
      have htext := congrArg String.toList h
      rw [identity_toList_inNamespace, identity_toList_inNamespace] at htext
      obtain ⟨hns, hn⟩ := append_slash_inj h₁ h₂ (List.append_cancel_left htext)
      rw [String.toList_inj.mp hns, String.toList_inj.mp hn]
    | cluster n' => exact absurd h (identity_inNamespace_ne_cluster ns n n')
  | cluster n =>
    cases k₂ with
    | inNamespace ns' n' => exact absurd h.symm (identity_inNamespace_ne_cluster ns' n' n)
    | cluster n' =>
      have htext := congrArg String.toList h
      rw [identity_toList_cluster, identity_toList_cluster] at htext
      rw [String.toList_inj.mp (List.append_cancel_left htext)]

theorem identity_eq_iff_of_plain {k₁ k₂ : ConfigKey} (h₁ : k₁.PlainNamespace) (h₂ : k₂.PlainNamespace) :
    k₁.identity = k₂.identity ↔ k₁ = k₂ :=
  ⟨identity_inj h₁ h₂, fun h => h ▸ rfl⟩

end ConfigKey

/-! ## Identities of resolutions -/

namespace Registry

/-- A successful resolution found the configuration under the key its reference selects,
the namespace and name for a `ProviderConfig` and the name for a `ClusterProviderConfig`,
and answers that key's identity. -/
theorem resolve_eq_ok {r : Registry} {ref : ConfigRef} {ns : Option String} {res : Resolved}
    (h : r.resolve ref ns = .ok res) :
    (∃ n, ref.kind = scopedKind ∧ ns = some n ∧ r.find? (.inNamespace n ref.name) = some res.spec ∧
        res.identity = (ConfigKey.inNamespace n ref.name).identity) ∨
      (ref.kind = clusterKind ∧ r.find? (.cluster ref.name) = some res.spec ∧
        res.identity = (ConfigKey.cluster ref.name).identity) := by
  unfold resolve at h
  by_cases hs : ref.kind = scopedKind
  · rw [if_pos hs] at h
    rcases ns with _ | n
    · cases h
    rcases hf : r.find? (.inNamespace n ref.name) with _ | spec
    · simp [hf] at h
    · simp only [hf, Except.ok.injEq] at h
      subst h
      exact .inl ⟨n, hs, rfl, hf, rfl⟩
  rw [if_neg hs] at h
  by_cases hc : ref.kind = clusterKind
  · rw [if_pos hc] at h
    rcases hf : r.find? (.cluster ref.name) with _ | spec
    · simp [hf] at h
    · simp only [hf, Except.ok.injEq] at h
      subst h
      exact .inr ⟨hc, rfl, rfl⟩
  · rw [if_neg hc] at h
    cases h

/-- The kinds of the two configurations differ. -/
theorem scopedKind_ne_clusterKind : scopedKind ≠ clusterKind := by decide

/-- Two successful resolutions from namespaces without a slash give one identity exactly
when they select one configuration: the same kind and name, and for a `ProviderConfig` the
same namespace. -/
theorem resolve_identity_eq_iff (r : Registry) {ref ref' : ConfigRef} {ns ns' : Option String}
    {res res' : Resolved} (h : r.resolve ref ns = .ok res) (h' : r.resolve ref' ns' = .ok res')
    (hns : ∀ n ∈ ns, '/' ∉ n.toList) (hns' : ∀ n ∈ ns', '/' ∉ n.toList) :
    res.identity = res'.identity ↔
      ref.kind = ref'.kind ∧ ref.name = ref'.name ∧ (ref.kind = scopedKind → ns = ns') := by
  have hsc := scopedKind_ne_clusterKind
  rcases resolve_eq_ok h with ⟨n, hk, rfl, -, hid⟩ | ⟨hk, -, hid⟩ <;>
    rcases resolve_eq_ok h' with ⟨n', hk', rfl, -, hid'⟩ | ⟨hk', -, hid'⟩ <;> rw [hid, hid']
  · have hplain : (ConfigKey.inNamespace n ref.name).PlainNamespace := hns n rfl
    have hplain' : (ConfigKey.inNamespace n' ref'.name).PlainNamespace := hns' n' rfl
    rw [ConfigKey.identity_eq_iff_of_plain hplain hplain']
    simp only [ConfigKey.inNamespace.injEq, Option.some.injEq, hk, hk', true_and, forall_const]
    exact ⟨fun ⟨hn, hname⟩ => ⟨hname, hn⟩, fun ⟨hname, hn⟩ => ⟨hn, hname⟩⟩
  · exact ⟨fun he => absurd he (ConfigKey.identity_inNamespace_ne_cluster _ _ _),
      fun hsame => absurd (hk.symm.trans (hsame.1.trans hk')) hsc⟩
  · exact ⟨fun he => absurd he.symm (ConfigKey.identity_inNamespace_ne_cluster _ _ _),
      fun hsame => absurd (hk'.symm.trans (hsame.1.symm.trans hk)) hsc⟩
  · have hplain : (ConfigKey.cluster ref.name).PlainNamespace := trivial
    have hplain' : (ConfigKey.cluster ref'.name).PlainNamespace := trivial
    rw [ConfigKey.identity_eq_iff_of_plain hplain hplain', ConfigKey.cluster.injEq, hk, hk']
    exact ⟨fun hname => ⟨rfl, hname, fun hkind => absurd hkind.symm hsc⟩, fun hsame => hsame.2.1⟩

end Registry

/-- Distinct configurations get distinct identities as long as no namespace holds a slash:
distinct keys with such namespaces have distinct identities, and two successful
resolutions of references from such namespaces give one identity exactly when they select
one configuration, of the same kind and name, and in the same namespace for a
`ProviderConfig`. -/
theorem configuration_identities_separate :
    (∀ k₁ k₂ : ConfigKey, k₁.PlainNamespace → k₂.PlainNamespace → k₁ ≠ k₂ → k₁.identity ≠ k₂.identity) ∧
    ∀ (r : Registry) (ref ref' : ConfigRef) (ns ns' : Option String) (res res' : Resolved),
      r.resolve ref ns = .ok res → r.resolve ref' ns' = .ok res' →
      (∀ n ∈ ns, '/' ∉ n.toList) → (∀ n ∈ ns', '/' ∉ n.toList) →
      (res.identity = res'.identity ↔
        ref.kind = ref'.kind ∧ ref.name = ref'.name ∧ (ref.kind = scopedKind → ns = ns')) :=
  ⟨fun _ _ h₁ h₂ hne hid => hne (ConfigKey.identity_inj h₁ h₂ hid),
    fun r _ _ _ _ _ _ h h' hns hns' => Registry.resolve_identity_eq_iff r h h' hns hns'⟩

/-- A namespaced configuration and a cluster-wide one resolved for one resource have
different identities. -/
theorem configuration_identities_separate_sample :
    let spec : ConfigSpec :=
      ⟨"OTC-EU-DE-0001", "project", "eu-de", none, ⟨.secret, some ⟨"crossplane-system", "otc-creds", "credentials"⟩⟩⟩
    let r := (Registry.empty.insert (.inNamespace "team-a" "default") spec).insert (.cluster "shared") spec
    r.resolve ⟨scopedKind, "default"⟩ (some "team-a") = .ok ⟨"ProviderConfig/team-a/default", spec⟩ ∧
      r.resolve ⟨clusterKind, "shared"⟩ (some "team-a") = .ok ⟨"ClusterProviderConfig/shared", spec⟩ ∧
      "ProviderConfig/team-a/default" ≠ "ClusterProviderConfig/shared" := by
  intro spec r
  have hscoped : r.resolve ⟨scopedKind, "default"⟩ (some "team-a") =
      .ok ⟨"ProviderConfig/team-a/default", spec⟩ := rfl
  have hcluster : r.resolve ⟨clusterKind, "shared"⟩ (some "team-a") =
      .ok ⟨"ClusterProviderConfig/shared", spec⟩ := rfl
  have hplain : ∀ n ∈ some "team-a", '/' ∉ n.toList := by simp
  refine ⟨hscoped, hcluster, fun he => ?_⟩
  have hsame := (configuration_identities_separate.2 r _ _ _ _ _ _ hscoped hcluster hplain hplain).mp he
  exact Registry.scopedKind_ne_clusterKind hsame.1

/-- A slash in a namespace lets two configurations share an identity: `a/b` with `c` and
`a` with `b/c`, each with its own identity service, both resolve to
`ProviderConfig/a/b/c`. -/
theorem identity_collision :
    let spec₁ : ConfigSpec :=
      ⟨"OTC-EU-DE-0001", "project", "eu-de", none, ⟨.secret, some ⟨"crossplane-system", "otc-creds", "credentials"⟩⟩⟩
    let spec₂ : ConfigSpec := { spec₁ with identityEndpoint := some "https://iam.example.com/v3" }
    let r := (Registry.empty.insert (.inNamespace "a/b" "c") spec₁).insert (.inNamespace "a" "b/c") spec₂
    r.resolve ⟨scopedKind, "c"⟩ (some "a/b") = .ok ⟨"ProviderConfig/a/b/c", spec₁⟩ ∧
      r.resolve ⟨scopedKind, "b/c"⟩ (some "a") = .ok ⟨"ProviderConfig/a/b/c", spec₂⟩ ∧
      ConfigKey.inNamespace "a/b" "c" ≠ .inNamespace "a" "b/c" ∧
      (ConfigKey.inNamespace "a/b" "c").identity = (ConfigKey.inNamespace "a" "b/c").identity :=
  ⟨rfl, rfl, by decide, by decide⟩

end NetReconcile.Config
