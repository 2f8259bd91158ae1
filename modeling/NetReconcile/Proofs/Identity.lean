import NetReconcile.Proofs.Healthy

/-!
# A resource keeps its identity

Reconciling never makes a second copy of a resource and never turns to another one,
whatever happens between cycles. A run interleaves reconciles with any change of the
world: records added, changed or removed at the provider, failures queued for its next
calls, and new parameters or a deletion request from whoever declared the resource. The
only thing no one but the engine may change is the recorded external name.

Every cycle of such a run is safe: it sends at most one call that changes the
provider, and none unless it connected and built a client; it creates only a resource
with no recorded name whose deletion is not requested; every other call goes to the
name recorded when the cycle began, filed under the parent of the parameters it began
with; and it never refuses over the recorded name. Safety needs no invariant: it holds
of every cycle from every state. The invariant of a run is the name itself: once
recorded, it stays.
-/

namespace NetReconcile.Engine

open Resource Reconciler

variable {k : Kind}

/-- The states a run reaches from a start: reconciles, and between them any change of
the reconciler and the resource that keeps the recorded external name. -/
inductive Reachable (s₀ : Reconciler k × Managed k) : Reconciler k × Managed k → Prop
  | start : Reachable s₀ s₀
  | reconcile {s : Reconciler k × Managed k} : Reachable s₀ s → Reachable s₀ (next s)
  | interfere {e e' : Reconciler k} {m m' : Managed k} : Reachable s₀ (e, m) →
      m'.metadata.externalName = m.metadata.externalName → Reachable s₀ (e', m')

/-- What a safe reconcile of a resource does at the provider and to the resource's name. -/
structure SafeCycle (e : Reconciler k) (m : Managed k) : Prop where
  /-- The provider's log only grows, by the calls the reconcile sent. -/
  appends : (e.reconcile m).1.provider.calls = e.provider.calls ++ e.issued m
  one_mutation : ((e.issued m).filter Call.mutates).length ≤ 1
  connected : e.issued m ≠ [] →
    (∃ conn, (e.connector.connect m.configRef m.metadata.ns).2 = .ok conn) ∧ e.clientFailure = none
  create_unnamed : Call.create ∈ e.issued m →
    m.externalName = none ∧ m.metadata.deletionRequested = false
  addressed : ∀ c ∈ e.issued m, c ≠ .create →
    ∃ x, m.externalName = some x ∧ c.AddressedTo ⟨x, k.parent m.spec⟩
  keeps_name : ∀ x, m.externalName = some x → (e.reconcile m).2.1.externalName = some x
  no_conflict : ∀ c, (e.reconcile m).2.2 ≠ .error (.lifecycle (.externalName c))

/-- Every reconcile of a lawful kind is safe, from any state. -/
theorem safeCycle (hk : k.Lawful) (e : Reconciler k) (m : Managed k) : SafeCycle e m := by
  obtain ⟨happ, hcalls, hconn⟩ := reconcile_calls m e hk
  refine ⟨happ, hcalls.mutations_le_one, hconn, hcalls.unnamed_of_create, hcalls.addressed, ?_, ?_⟩
  · intro x hx
    rcases cycle_cases m e with ⟨-, hm, -⟩ | ⟨conn, -, -, -, hm⟩
    · simp [hm, hx]
    · simpa [hm] using converge_externalName m (e.provider.client conn.region) hx
  · intro c
    rcases reconcile_result_cases m e with hr | ⟨key, err, hr⟩
    · rw [hr]
      rcases cycle_cases m e with ⟨-, -, err, he, hne⟩ | ⟨conn, -, -, -, hm⟩
      · rw [he]
        simpa using hne c
      · rw [show (e.cycle m).2.2 = (converge m (e.provider.client conn.region)).2.2 by rw [hm]]
        exact converge_ne_externalName m _ c
    · simp [hr]

/-- A recorded name is kept by every state a run reaches. -/
theorem Reachable.externalName {s₀ s : Reconciler k × Managed k} (hs : Reachable s₀ s) {x : String}
    (hx : s₀.2.externalName = some x) : s.2.externalName = some x := by
  induction hs with
  | start => exact hx
  | @reconcile s _ ih =>
    rcases cycle_cases s.2 s.1 with ⟨-, hm, -⟩ | ⟨conn, -, -, -, hm⟩
    · simpa [next, hm] using ih
    · simpa [next, hm] using converge_externalName s.2 (s.1.provider.client conn.region) ih
  | interfere _ hname ih =>
    simpa [Managed.externalName, ObjectMeta.recorded, hname] using ih

/-- Reconciling never duplicates or re-targets a resource: along any run, with any
changes of the world between cycles that keep the recorded name, every cycle is safe,
and a recorded name stays recorded. -/
theorem reconcile_keeps_identity (hk : k ∈ catalog) {s₀ s : Reconciler k × Managed k}
    (hs : Reachable s₀ s) :
    SafeCycle s.1 s.2 ∧ ∀ x, s₀.2.externalName = some x → s.2.externalName = some x :=
  ⟨safeCycle (catalog_lawful hk) s.1 s.2, fun _ hx => hs.externalName hx⟩

/-- A run of the sample world: the new VPC is reconciled, then its description is changed
and a failure is queued at the provider, and it is reconciled again. -/
theorem reconcile_keeps_identity_sample :
    let s₀ := (sampleReconciler Vpc.kind, sampleVpc)
    let s₁ := next s₀
    let s₂ : Reconciler Vpc.kind × Managed Vpc.kind :=
      (s₁.1.withProvider (s₁.1.provider.failNext "busy"),
        { s₁.2 with spec := ({ (s₁.2.spec : Vpc.Params) with description := some "edge" } : Vpc.Params) })
    let s := next s₂
    SafeCycle s.1 s.2 ∧ ∀ x, s₀.2.externalName = some x → s.2.externalName = some x :=
  reconcile_keeps_identity (by simp [catalog]) (.reconcile (.interfere (.reconcile .start) rfl))

end NetReconcile.Engine
