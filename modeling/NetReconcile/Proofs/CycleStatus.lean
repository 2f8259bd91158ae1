import NetReconcile.Proofs.Healthy

/-!
# The status a reconcile leaves

A cycle writes a resource's condition and its observation of the provider at the place
where it stops. Deleting marks the resource `Deleting`; creating marks it `Creating` before
asking the provider, and keeps the observation of the record created; a record found is
observed, its condition read off the kind's status table, whether or not the update that
may follow succeeds; a recorded name the provider does not know marks it `Unavailable`. A
cycle that cannot connect, build a client or look the record up writes neither. Every
reconcile then records its cycle's outcome, stamped with the time.
-/

namespace NetReconcile.Engine

open Resource

namespace Reconciler

variable {k : Kind} (m : Managed k) (p : Provider k)

/-! ## One pass -/

/-- A pass that deletes marks the resource `Deleting`, whether or not the delete
succeeds. -/
theorem converge_status_of_deletionRequested (h : m.metadata.deletionRequested = true) :
    (converge m p).2.1.status = { m.status with condition := some .deleting } := by
  rw [converge_of_deletionRequested m p h]
  rfl

/-- A pass that creates marks the resource `Creating`, and keeps the observation of the
record the provider created, if it created one. -/
theorem converge_status_of_unnamed (hd : m.metadata.deletionRequested = false)
    (hn : m.externalName = none) :
    (converge m p).2.1.status.condition = some .creating ∧
      ∀ c, (p.create (k.createOpts m.spec)).2 = .ok c →
        (converge m p).2.1.status.atProvider = k.observe c := by
  rw [converge_of_unnamed m p hd hn]
  refine ⟨?_, fun c hc => by simp [Managed.create_of_ok hn hc]⟩
  rcases hc : (p.create (k.createOpts m.spec)).2 with e | c
  · simp [Managed.create_of_error hc, Managed.setCondition]
  · simp [Managed.create_of_ok hn hc, Managed.setCondition]

/-- A pass whose lookup finds a record observes it, whether or not it then updates. -/
theorem converge_status_of_found {x : String} {r : k.Rec} (hd : m.metadata.deletionRequested = false)
    (hx : m.externalName = some x) (hg : (p.get x).2 = .ok r) :
    (converge m p).2.1.status =
      { m.status with atProvider := k.observe r, condition := some (k.condition r) } := by
  rw [converge_of_found m p hd hx hg]
  split <;> rfl

/-- A pass whose recorded name the provider does not know marks the resource
`Unavailable`. -/
theorem converge_status_of_missing {x : String} (hd : m.metadata.deletionRequested = false)
    (hx : m.externalName = some x) (hg : (p.get x).2 = .error .notFound) :
    (converge m p).2.1.status = { m.status with condition := some .unavailable } := by
  rw [converge_of_missing m p hd hx hg]
  rfl

/-! ## A cycle and its bookkeeping -/

variable (e : Reconciler k)

/-- A cycle that cannot connect or build a client leaves the resource as it was. -/
theorem cycle_managed_of_unconnected
    (h : (∃ err, (e.connector.connect m.configRef m.metadata.ns).2 = .error err) ∨
      ∃ msg, e.clientFailure = some msg) :
    (e.cycle m).2.1 = m := by
  rcases cycle_cases m e with ⟨-, hm, -⟩ | ⟨conn, hc, hcl, -, -⟩
  · exact hm
  · rcases h with ⟨err, herr⟩ | ⟨msg, hmsg⟩
    · rw [hc] at herr
      cases herr
    · rw [hcl] at hmsg
      cases hmsg

/-- A cycle that connects and builds a client leaves the resource as its pass against
the client's provider does. -/
theorem cycle_managed_of_connected {conn : Connection}
    (hc : (e.connector.connect m.configRef m.metadata.ns).2 = .ok conn) (hcl : e.clientFailure = none) :
    (e.cycle m).2.1 = (converge m (e.provider.client conn.region)).2.1 := by
  rcases hcc : e.connector.connect m.configRef m.metadata.ns with ⟨c, res⟩
  rw [hcc] at hc
  subst hc
  rw [cycle_of_connected m e hcc hcl]

/-- A reconcile leaves its cycle's status, with the cycle's outcome recorded and stamped
with the time. -/
theorem reconcile_status :
    (e.reconcile m).2.1.status =
      { (e.cycle m).2.1.status with
          synced := some ⟨match (e.cycle m).2.2 with
            | .ok _ => .success
            | .error err => .failure err.message, (e.cycle m).1.now⟩ } := by
  rcases h : e.cycle m with ⟨e', m', r⟩
  cases hp : e'.persistFailure <;> cases r <;> simp [reconcile, h, hp]

end Reconciler

variable {k : Kind}

open Reconciler in
/-- The status after a reconcile is fixed by where its cycle stopped. When connecting or
building the client fails, the condition and the observation are kept. Otherwise, against
the provider `p` of the client: a resource whose deletion is requested is left `Deleting`;
one with no recorded name is left `Creating`, holding the observation of the record `p`
created, if it created one; one whose recorded name `p` finds is left with the record's
condition, by the kind's status table, and its observation, whether or not an update
followed; one whose recorded name `p` does not know is left `Unavailable` with its
observation kept; and one whose lookup failed keeps both. In every case the cycle's
outcome is recorded, stamped with the time. -/
theorem reconcile_status_by_stop (e : Reconciler k) (m : Managed k) :
    ((∃ err, (e.connector.connect m.configRef m.metadata.ns).2 = .error err) ∨
        (∃ msg, e.clientFailure = some msg) →
      (e.reconcile m).2.1.status.condition = m.status.condition ∧
        (e.reconcile m).2.1.status.atProvider = m.status.atProvider) ∧
    (∀ conn, (e.connector.connect m.configRef m.metadata.ns).2 = .ok conn → e.clientFailure = none →
      (m.metadata.deletionRequested = true → (e.reconcile m).2.1.status.condition = some .deleting) ∧
      (m.metadata.deletionRequested = false →
        (m.externalName = none → (e.reconcile m).2.1.status.condition = some .creating ∧
          ∀ c, ((e.provider.client conn.region).create (k.createOpts m.spec)).2 = .ok c →
            (e.reconcile m).2.1.status.atProvider = k.observe c) ∧
        ∀ x, m.externalName = some x →
          (∀ r, ((e.provider.client conn.region).get x).2 = .ok r →
            (e.reconcile m).2.1.status.condition = some (k.statusTable.condition (k.rawStatus r)) ∧
              (e.reconcile m).2.1.status.atProvider = k.observe r) ∧
          (((e.provider.client conn.region).get x).2 = .error .notFound →
            (e.reconcile m).2.1.status.condition = some .unavailable ∧
              (e.reconcile m).2.1.status.atProvider = m.status.atProvider) ∧
          (∀ msg, ((e.provider.client conn.region).get x).2 = .error (.api msg) →
            (e.reconcile m).2.1.status.condition = m.status.condition ∧
              (e.reconcile m).2.1.status.atProvider = m.status.atProvider))) ∧
    (e.reconcile m).2.1.status.synced =
      some ⟨match (e.cycle m).2.2 with
        | .ok _ => .success
        | .error err => .failure err.message, (e.cycle m).1.now⟩ := by
  have hstatus := reconcile_status m e
  refine ⟨?_, ?_, by rw [hstatus]⟩
  · intro hfail
    simp [hstatus, cycle_managed_of_unconnected m e hfail]
  intro conn hc hcl
  simp only [hstatus, cycle_managed_of_connected m e hc hcl]
  refine ⟨fun hd => by simp [converge_status_of_deletionRequested m _ hd], fun hd => ⟨?_, ?_⟩⟩
  · intro hn
    exact converge_status_of_unnamed m _ hd hn
  intro x hx
  refine ⟨fun r hg => ?_, fun hg => ?_, fun msg hg => ?_⟩
  · simp [converge_status_of_found m _ hd hx hg, Kind.condition]
  · simp [converge_status_of_missing m _ hd hx hg]
  · simp [converge_of_get_api m _ hd hx hg]

/-- A new VPC of the sample world, where connecting succeeds and no name is recorded, is
left `Creating`. -/
theorem reconcile_status_of_new_vpc :
    (∃ conn, ((sampleReconciler Vpc.kind).connector.connect sampleVpc.configRef
        sampleVpc.metadata.ns).2 = .ok conn) ∧
      (sampleReconciler Vpc.kind).clientFailure = none ∧
      sampleVpc.metadata.deletionRequested = false ∧ sampleVpc.externalName = none ∧
      ((sampleReconciler Vpc.kind).reconcile sampleVpc).2.1.status.condition = some .creating := by
  obtain ⟨conn, hc⟩ := (sampleReconciler_healthy sampleVpc rfl rfl).connects
  exact ⟨⟨conn, hc⟩, rfl, rfl, rfl,
    (((reconcile_status_by_stop (sampleReconciler Vpc.kind) sampleVpc).2.1 conn hc rfl).2 rfl).1 rfl |>.1⟩

end NetReconcile.Engine
