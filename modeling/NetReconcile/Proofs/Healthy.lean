import Mathlib.Logic.Function.Iterate
import NetReconcile.Proofs.Cycle
import NetReconcile.Proofs.Connection

/-!
# Reconciling in a healthy world

A reconciler is healthy for a resource when nothing is set to fail: connecting succeeds,
building a client and storing succeed, and the provider has no failure queued. A
healthy reconcile is a pass of the lifecycle against the provider's client, and it
answers what the pass did. Nothing the engine does makes the world unhealthy: a
connection made once is made again, and a pass that uses up no failure leaves none.

Deleting in a healthy world is idempotent whatever the provider holds: the record may be
there, never have been created, or be gone already. Every reconcile of a resource whose
deletion is requested answers `Deleted`, marks it `Deleting`, sends one delete to the
recorded name and nothing else, or nothing when no name is recorded, and leaves no
record under the name; and so does the next one.
-/

namespace NetReconcile.Engine

open Resource Reconciler

variable {k : Kind}

/-- Nothing is set to fail for reconciling a resource. -/
structure Healthy (e : Reconciler k) (m : Managed k) : Prop where
  connects : ∃ conn, (e.connector.connect m.configRef m.metadata.ns).2 = .ok conn
  noClientFailure : e.clientFailure = none
  noPersistFailure : e.persistFailure = none
  noProviderFailures : e.provider.failures = []

namespace Healthy

variable {e : Reconciler k} {m : Managed k}

/-- A healthy cycle converges against the provider's client for the connected region. -/
theorem cycle_eq (h : Healthy e m) :
    ∃ region, (e.cycle m).1.provider = (converge m (e.provider.client region)).1 ∧
      (e.cycle m).2 = (converge m (e.provider.client region)).2 := by
  obtain ⟨conn, hconn⟩ := h.connects
  rcases hc : e.connector.connect m.configRef m.metadata.ns with ⟨c, r⟩
  rw [hc] at hconn
  subst hconn
  rw [cycle_of_connected m e hc h.noClientFailure]
  exact ⟨conn.region, rfl, rfl⟩

/-- A healthy reconcile answers what its cycle did. -/
theorem outcome_eq (h : Healthy e m) : outcome (e, m) = (e.cycle m).2.2 :=
  reconcile_result_of_persistFailure m e h.noPersistFailure

/-- A reconcile keeps the world healthy when its cycle used up no failure and kept the
resource's configuration and namespace. -/
theorem preserved (h : Healthy e m) (hf : (e.cycle m).1.provider.failures = [])
    (hcfg : (e.cycle m).2.1.configRef = m.configRef) (hns : (e.cycle m).2.1.metadata.ns = m.metadata.ns) :
    Healthy (next (e, m)).1 (next (e, m)).2 := by
  obtain ⟨conn, hconn⟩ := h.connects
  refine ⟨?_, ?_, ?_, ?_⟩
  · simpa [Reconciler.next, hcfg, hns] using Connector.connect_connect _ _ _ hconn
  · simpa [Reconciler.next] using h.noClientFailure
  · simpa [Reconciler.next] using h.noPersistFailure
  · simpa [Reconciler.next] using hf

end Healthy

/-! ## A healthy world

A world to run the theorems on: one configuration, `ProviderConfig/default` in namespace
`default`, its credentials in a secret, a session for it cached until the end of the
calendar, an empty provider, and nothing set to fail. -/

section Sample

open Config Secrets Session

/-- The sample configuration. -/
def sampleSpec : ConfigSpec :=
  ⟨"domain", "project", "eu-de", none, ⟨.secret, some ⟨"default", "creds", "payload"⟩⟩⟩

/-- A session for the sample configuration and the credentials of its secret. -/
def sampleSession : CachedSession Token :=
  ⟨⟨1, "project", "eu-de"⟩, Time.Instant.last, fingerprint Digest.sha256 sampleSpec ⟨"AK", "SK"⟩⟩

/-- A connector that knows the sample configuration, reads its credentials from a memory
store, has sessions with the sample libraries, and holds a session for it. -/
def sampleConnector : Connector :=
  ⟨Registry.empty.insert (ConfigKey.inNamespace "default" "default") sampleSpec,
   (SecretStore.memory [("default/creds/payload", "\x7b\"accessKey\":\"AK\",\"secretKey\":\"SK\"\x7d")]).source,
   Libraries.sample,
   ⟨SessionPolicy.default, Authenticator.fresh, [("ProviderConfig/default/default", sampleSession)], 0⟩⟩

/-- A reconciler of the sample world. -/
def sampleReconciler (k : Kind) : Reconciler k := ⟨sampleConnector, Provider.empty, [], none, none⟩

/-- A new VPC declared in namespace `default` with the default configuration. -/
def sampleVpc : Managed Vpc.kind :=
  Managed.new (ObjectMeta.namespaced "default" "web") ConfigRef.default
    ({ name := "web", cidr := "10.0.0.0/16", description := none } : Vpc.Params)

/-- The sample world is healthy for every resource of the default configuration in
namespace `default`: its connector answers from the cached session. -/
theorem sampleReconciler_healthy (m : Managed k) (hcfg : m.configRef = ConfigRef.default)
    (hns : m.metadata.ns = some "default") : Healthy (sampleReconciler k) m := by
  have hu : sampleConnector.sessions.usable sampleSession (fingerprint Digest.sha256 sampleSpec ⟨"AK", "SK"⟩) = true :=
    (SessionCache.usable_iff _ _ _).mpr ⟨rfl, 300000000000, by decide +kernel, by decide +kernel⟩
  have hc := @Connector.connect_of_usable sampleConnector ConfigRef.default (some "default")
    ⟨"ProviderConfig/default/default", sampleSpec⟩ ⟨"AK", "SK"⟩ sampleSession
    (by decide +kernel) (by decide +kernel) rfl hu
  refine ⟨?_, rfl, rfl, rfl⟩
  rw [hcfg, hns]
  exact ⟨_, congrArg Prod.snd hc⟩

end Sample

/-! ## Deleting -/

/-- One healthy reconcile of a resource whose deletion is requested. -/
theorem Healthy.delete {e : Reconciler k} {m : Managed k} (h : Healthy e m)
    (hdel : m.metadata.deletionRequested = true) :
    outcome (e, m) = .ok ⟨.deleted, false⟩ ∧ (next (e, m)).2.condition = some .deleting ∧
      (next (e, m)).1.provider.calls =
        e.provider.calls ++ (m.externalName.map fun x => Call.delete (m.locator x)).toList ∧
      (∀ x, m.externalName = some x → (next (e, m)).1.provider.find? x = none) ∧
      Healthy (next (e, m)).1 (next (e, m)).2 ∧ (next (e, m)).2.metadata = m.metadata ∧
      (next (e, m)).2.spec = m.spec := by
  obtain ⟨region, hp, hm⟩ := h.cycle_eq
  have hf : (e.provider.client region).failures = [] := by simpa using h.noProviderFailures
  have hconv := converge_of_deletionRequested m (e.provider.client region) hdel
  have hok := Managed.delete_ok_of_failures_nil m (e.provider.client region) hf
  rw [hok] at hconv
  rw [hconv] at hp hm
  have hcycle : (e.cycle m).2.1 = m.setCondition .deleting := by rw [hm]
  refine ⟨?_, ?_, ?_, ?_, h.preserved ?_ ?_ ?_, ?_, ?_⟩
  · rw [h.outcome_eq, hm]
  · simp [Reconciler.next, hcycle]
  · rcases hx : m.externalName with _ | x <;> simp [Reconciler.next, hp, hx]
  · intro x hx
    simpa [Reconciler.next, hp, hx, Managed.locator] using
      Provider.find?_delete_self (m.locator x) hf
  · rcases hx : m.externalName with _ | x <;> simp [hp, hx, h.noProviderFailures]
  · simp [hcycle]
  · simp [hcycle]
  · simp [Reconciler.next, hcycle]
  · simp [Reconciler.next, hcycle]

/-- Deletion is idempotent: in a healthy world, every reconcile of a resource whose
deletion is requested, the first and every repetition alike, answers `Deleted` without
adopting anything, marks the resource `Deleting`, sends exactly one delete, to the
recorded name under the parent of its parameters, when a name is recorded and no call at
all otherwise, and leaves the provider with no record under that name. -/
theorem deletion_idempotent (e : Reconciler k) (m : Managed k) (h : Healthy e m)
    (hdel : m.metadata.deletionRequested = true) (n : Nat) :
    outcome (next^[n] (e, m)) = .ok ⟨.deleted, false⟩ ∧
      (next (next^[n] (e, m))).2.condition = some .deleting ∧
      (next (next^[n] (e, m))).1.provider.calls = (next^[n] (e, m)).1.provider.calls ++
        (m.externalName.map fun x => Call.delete ⟨x, k.parent m.spec⟩).toList ∧
      ∀ x, m.externalName = some x → (next (next^[n] (e, m))).1.provider.find? x = none := by
  have hrun : ∀ n, Healthy (next^[n] (e, m)).1 (next^[n] (e, m)).2 ∧
      (next^[n] (e, m)).2.metadata = m.metadata ∧ (next^[n] (e, m)).2.spec = m.spec := by
    intro n
    induction n with
    | zero => exact ⟨h, rfl, rfl⟩
    | succ n ih =>
      obtain ⟨hn, hmeta, hspec⟩ := ih
      obtain ⟨-, -, -, -, hnext, hmeta', hspec'⟩ := hn.delete (hmeta ▸ hdel)
      rw [Function.iterate_succ_apply']
      exact ⟨hnext, hmeta'.trans hmeta, hspec'.trans hspec⟩
  obtain ⟨hn, hmeta, hspec⟩ := hrun n
  have hname : (next^[n] (e, m)).2.externalName = m.externalName := by
    simp [Managed.externalName, hmeta]
  obtain ⟨hout, hcond, hcalls, hgone, -⟩ := hn.delete (hmeta ▸ hdel)
  refine ⟨hout, hcond, ?_, fun x hx => hgone x (hname.trans hx)⟩
  rw [hcalls, hname]
  simp [Managed.locator, hspec]

/-- The sample VPC, recorded as `vpc-1` and asked to be deleted. -/
def sampleVpcToDelete : Managed Vpc.kind :=
  { sampleVpc with metadata := { sampleVpc.metadata with externalName := some "vpc-1",
                                                          deletionRequested := true } }

theorem deletion_idempotent_sample :
    let s := (sampleReconciler Vpc.kind, sampleVpcToDelete)
    outcome (next^[1] s) = .ok ⟨.deleted, false⟩ ∧ (next (next^[1] s)).2.condition = some .deleting ∧
      (next (next^[1] s)).1.provider.calls = (next^[1] s).1.provider.calls ++
        (s.2.externalName.map fun x => Call.delete ⟨x, Vpc.kind.parent s.2.spec⟩).toList ∧
      ∀ x, s.2.externalName = some x → (next (next^[1] s)).1.provider.find? x = none :=
  deletion_idempotent _ _ (sampleReconciler_healthy _ rfl rfl) rfl 1

end NetReconcile.Engine
