import NetReconcile.Proofs.Adoption
import NetReconcile.Proofs.CycleStatus

/-!
# What a reconcile reports

A reconcile records its cycle's outcome in the resource's status and hands the resource,
as the cycle left it, to the store once; its answer is the cycle's, unless only the store
failed. A failed cycle names the operation that was under way where it stopped:
connecting, for the configuration, the credentials, the session and the client;
observing, for a failed lookup and for a recorded resource that is gone; creating;
updating, for the immutability check, a kind that cannot be updated and the provider's
refusal; deleting.

`PassFailure` and `CycleFailure` list those places from a cycle's inputs, each with the
operation under way there. The main statement, `reconcile_reports_faithfully`, says that
every failure of a cycle is one of them, that the failure's own tag names that
operation, and that no cycle fails over the recorded name or for the lack of one.
-/

namespace NetReconcile.Engine

open Resource

variable {k : Kind}

/-- Where a pass against a provider fails, with the operation under way there: the delete
of the recorded name; its lookup; a recorded resource the provider does not know; the
create of a resource with no recorded name; and the update of a drifted record, refused by
the immutability check, by a kind that cannot be updated, or by the provider. -/
inductive PassFailure (m : Managed k) (p : Provider k) : ReconcileError → Operation → Prop
  | delete {x msg : String} : m.metadata.deletionRequested = true → m.externalName = some x →
      (p.delete (m.locator x)).2 = .error (.api msg) →
      PassFailure m p (.lifecycle (.provider .delete k.tag (.api msg))) .delete
  | lookup {x msg : String} : m.metadata.deletionRequested = false → m.externalName = some x →
      (p.get x).2 = .error (.api msg) →
      PassFailure m p (.lifecycle (.provider .observe k.tag (.api msg))) .observe
  | vanished {x : String} : m.metadata.deletionRequested = false → m.externalName = some x →
      (p.get x).2 = .error .notFound → PassFailure m p (.externalResourceMissing k.tag x) .observe
  | create {err : ProviderError} : m.metadata.deletionRequested = false → m.externalName = none →
      (p.create (k.createOpts m.spec)).2 = .error err →
      PassFailure m p (.lifecycle (.provider .create k.tag err)) .create
  | immutableField {x f : String} {r : k.Rec} : m.metadata.deletionRequested = false →
      m.externalName = some x → (p.get x).2 = .ok r → (k.drift (m.observed r).spec r).isEmpty = false →
      k.changedImmutable (m.observed r).spec (k.observe r) = some f →
      PassFailure m p (.lifecycle (.immutableField k.tag f)) .update
  | immutable {x : String} {r : k.Rec} : m.metadata.deletionRequested = false →
      m.externalName = some x → (p.get x).2 = .ok r → (k.drift (m.observed r).spec r).isEmpty = false →
      k.changedImmutable (m.observed r).spec (k.observe r) = none →
      k.updateOpts (m.observed r).spec = none →
      PassFailure m p (.lifecycle (.immutable k.tag)) .update
  | update {x : String} {r : k.Rec} {o : k.UpdateOpts} {err : ProviderError} :
      m.metadata.deletionRequested = false → m.externalName = some x → (p.get x).2 = .ok r →
      (k.drift (m.observed r).spec r).isEmpty = false →
      k.changedImmutable (m.observed r).spec (k.observe r) = none →
      k.updateOpts (m.observed r).spec = some o →
      ((p.get x).1.update ((m.observed r).locator x) o).2 = .error err →
      PassFailure m p (.lifecycle (.provider .update k.tag err)) .update

/-- Where a cycle fails, with the operation under way there: connecting, building the
client, or a pass against the client's provider. -/
inductive CycleFailure (e : Reconciler k) (m : Managed k) : ReconcileError → Operation → Prop
  | connect {err : ConnectError} : (e.connector.connect m.configRef m.metadata.ns).2 = .error err →
      CycleFailure e m (.connect err) .connect
  | client {conn : Connection} {msg : String} :
      (e.connector.connect m.configRef m.metadata.ns).2 = .ok conn → e.clientFailure = some msg →
      CycleFailure e m (.client (.api msg)) .connect
  | pass {conn : Connection} {err : ReconcileError} {op : Operation} :
      (e.connector.connect m.configRef m.metadata.ns).2 = .ok conn → e.clientFailure = none →
      PassFailure m (e.provider.client conn.region) err op → CycleFailure e m err op

/-! ## The tag of a failure -/

namespace PassFailure

variable {m : Managed k} {p : Provider k} {err : ReconcileError} {op : Operation}

/-- A failing pass tags its error with the operation under way. -/
theorem operation_eq (h : PassFailure m p err op) : err.operation = some op := by
  cases h <;> rfl

/-- A pass fails neither over the recorded name nor for the lack of one. -/
theorem not_nameError (h : PassFailure m p err op) :
    (∀ c, err ≠ .lifecycle (.externalName c)) ∧ ∀ t, err ≠ .lifecycle (.noExternalName t) := by
  cases h <;> simp

end PassFailure

namespace CycleFailure

variable {e : Reconciler k} {m : Managed k} {err : ReconcileError} {op : Operation}

theorem operation_eq (h : CycleFailure e m err op) : err.operation = some op := by
  cases h with
  | connect _ | client _ _ => rfl
  | pass _ _ hp => exact hp.operation_eq

theorem not_nameError (h : CycleFailure e m err op) :
    (∀ c, err ≠ .lifecycle (.externalName c)) ∧ ∀ t, err ≠ .lifecycle (.noExternalName t) := by
  cases h with
  | connect _ | client _ _ => simp
  | pass _ _ hp => exact hp.not_nameError

end CycleFailure

/-! ## Every failure has its place -/

namespace PassFailure

variable {m : Managed k} {p : Provider k}

/-- An update refused after the lookup found a drifted record is one of the three refusals
`PassFailure` lists for updating. -/
theorem of_update_error {x : String} {r : k.Rec} {err : LifecycleError}
    (hd : m.metadata.deletionRequested = false) (hx : m.externalName = some x) (hg : (p.get x).2 = .ok r)
    (hdrift : (k.drift (m.observed r).spec r).isEmpty = false)
    (hu : ((m.observed r).update (p.get x).1).2 = .error err) :
    ∃ op, PassFailure m p (.lifecycle err) op := by
  rcases Managed.update_of_error hu with ⟨hn, -⟩ | ⟨y, hy, hcase⟩
  · simp [hx] at hn
  obtain rfl : y = x := by simpa [hx] using hy.symm
  rw [Managed.observed_atProvider] at hcase
  rcases hcase with ⟨f, hf, rfl⟩ | ⟨hf, ho, rfl⟩ | ⟨o, pe, hf, ho, hsent, rfl⟩
  · exact ⟨_, .immutableField hd hx hg hdrift hf⟩
  · exact ⟨_, .immutable hd hx hg hdrift hf ho⟩
  · exact ⟨_, .update hd hx hg hdrift hf ho hsent⟩

end PassFailure

namespace Reconciler

variable (m : Managed k) (p : Provider k)

/-- Every failure of a pass is one of the places `PassFailure` lists. -/
theorem converge_failure {err : ReconcileError} (h : (converge m p).2.2 = .error err) :
    ∃ op, PassFailure m p err op := by
  cases hd : m.metadata.deletionRequested with
  | true =>
    rw [converge_of_deletionRequested m p hd] at h
    rcases hdel : (m.delete p).2.2 with le | u
    · rw [hdel] at h
      obtain ⟨x, msg, hx, hsent, rfl⟩ := Managed.delete_of_error hdel
      obtain rfl : ReconcileError.lifecycle (.provider .delete k.tag (.api msg)) = err := by
        simpa using h
      exact ⟨_, .delete hd hx hsent⟩
    · rw [hdel] at h
      cases h
  | false =>
    rcases hx : m.externalName with _ | x
    · rw [converge_of_unnamed m p hd hx] at h
      rcases hc : (p.create (k.createOpts m.spec)).2 with pe | r
      · obtain rfl : ReconcileError.lifecycle (.provider .create k.tag pe) = err := by
          simpa [Managed.create_of_error hc] using h
        exact ⟨_, .create hd hx hc⟩
      · simp [Managed.create_of_ok hx hc] at h
    rcases hg : (p.get x).2 with pe | r
    · cases pe with
      | notFound =>
        rw [converge_of_missing m p hd hx hg] at h
        cases h
        exact ⟨_, .vanished hd hx hg⟩
      | api msg =>
        rw [converge_of_get_api m p hd hx hg] at h
        cases h
        exact ⟨_, .lookup hd hx hg⟩
    rw [converge_of_found m p hd hx hg] at h
    by_cases he : (k.drift (m.observed r).spec r).isEmpty
    · rw [if_pos he] at h
      cases h
    rw [if_neg he] at h
    rcases hu : ((m.observed r).update (p.get x).1).2 with le | u
    · rw [hu] at h
      cases h
      exact PassFailure.of_update_error hd hx hg (by simpa using he) hu
    · rw [hu] at h
      cases h

variable (e : Reconciler k)

/-- Every failure of a cycle is one of the places `CycleFailure` lists. -/
theorem cycle_failure {err : ReconcileError} (h : (e.cycle m).2.2 = .error err) :
    ∃ op, CycleFailure e m err op := by
  rcases hc : e.connector.connect m.configRef m.metadata.ns with ⟨c, ce | conn⟩
  · obtain rfl : ReconcileError.connect ce = err := by simpa [cycle, hc] using h
    exact ⟨_, .connect (by rw [hc])⟩
  rcases hcl : e.clientFailure with _ | msg
  · rw [cycle_of_connected m e hc hcl] at h
    obtain ⟨op, hop⟩ := converge_failure m _ h
    exact ⟨op, .pass (by rw [hc]) hcl hop⟩
  · obtain rfl : ReconcileError.client (.api msg) = err := by simpa [cycle, hc, hcl] using h
    exact ⟨_, .client (by rw [hc]) hcl⟩

/-! ## The bookkeeping -/

/-- A reconcile stores the resource it answers, under its key, unless the store fails. -/
theorem reconcile_stored :
    (e.reconcile m).1.stored =
      match e.persistFailure with
      | none => putRecord (e.reconcile m).2.1.metadata.key (e.reconcile m).2.1 e.stored
      | some _ => e.stored := by
  rw [← cycle_persistFailure m e, ← cycle_stored m e]
  rcases hc : e.cycle m with ⟨e', m', r⟩
  rcases hp : e'.persistFailure with _ | fail <;> simp [reconcile, hc, hp]

/-- The resource a reconcile answers is its cycle's, with only the latest outcome
added. -/
theorem reconcile_managed_eq :
    (e.reconcile m).2.1 =
      { (e.cycle m).2.1 with
          status := { (e.cycle m).2.1.status with synced := (e.reconcile m).2.1.status.synced } } := by
  rcases hc : e.cycle m with ⟨e', m', r⟩
  rcases hp : e'.persistFailure with _ | fail <;> simp [reconcile, hc, hp]

/-- A reconcile keeps the resource's key. -/
theorem reconcile_key : (e.reconcile m).2.1.metadata.key = m.metadata.key := by
  rw [reconcile_metadata_eq m e]
  rfl

theorem cycle_key : (e.cycle m).2.1.metadata.key = m.metadata.key := by
  rw [← reconcile_metadata m e, reconcile_key]

/-- A cycle that failed keeps its error, whatever the store does. -/
theorem reconcile_result_of_cycle_error {err : ReconcileError} (h : (e.cycle m).2.2 = .error err) :
    (e.reconcile m).2.2 = .error err := by
  rcases hc : e.cycle m with ⟨e', m', r⟩
  rw [hc] at h
  cases h
  rcases hp : e'.persistFailure with _ | fail <;> simp [reconcile, hc, hp]

/-- A cycle that succeeded answers the store's failure, under the resource's key. -/
theorem reconcile_result_of_store_failure {o : Outcome} {fail : String → Secrets.StoreError}
    (h : (e.cycle m).2.2 = .ok o) (hp : e.persistFailure = some fail) :
    (e.reconcile m).2.2 = .error (.persist m.metadata.key (fail m.metadata.key)) := by
  have hkey := cycle_key m e
  rw [← cycle_persistFailure m e] at hp
  rcases hc : e.cycle m with ⟨e', m', r⟩
  rw [hc] at h hp hkey
  dsimp only at h hp hkey
  subst h
  simp [reconcile, hc, hp, hkey]

/-- The status a reconcile leaves records its cycle's outcome: success when the cycle
succeeded, and the error's text when it failed. -/
theorem reconcile_synced_of_ok {o : Outcome} (h : (e.cycle m).2.2 = .ok o) :
    (e.reconcile m).2.1.status.synced = some ⟨.success, (e.cycle m).1.now⟩ := by
  rw [reconcile_status m e, h]

theorem reconcile_synced_of_error {err : ReconcileError} (h : (e.cycle m).2.2 = .error err) :
    (e.reconcile m).2.1.status.synced = some ⟨.failure err.message, (e.cycle m).1.now⟩ := by
  rw [reconcile_status m e, h]

end Reconciler

open Reconciler in
/-- A reconcile reports its cycle faithfully. It stores the resource once, as the cycle
left it with the outcome recorded, unless the store fails; the outcome is a success
exactly when the cycle succeeded, and otherwise the text of the cycle's error. It answers
success exactly when the cycle and the store both succeeded; the store's failure, under
the resource's key, when only the store failed; and the cycle's error whenever the cycle
failed. Every failure of a cycle arose at one of the places `CycleFailure` lists, and its
tag names the operation under way there; none is a refusal over the recorded name or for
the lack of one. -/
theorem reconcile_reports_faithfully (e : Reconciler k) (m : Managed k) :
    (e.reconcile m).1.stored =
      (match e.persistFailure with
        | none => putRecord m.metadata.key (e.reconcile m).2.1 e.stored
        | some _ => e.stored) ∧
    (e.reconcile m).2.1 =
      { (e.cycle m).2.1 with
          status := { (e.cycle m).2.1.status with synced := (e.reconcile m).2.1.status.synced } } ∧
    (∀ o, (e.cycle m).2.2 = .ok o →
      (e.reconcile m).2.1.status.synced = some ⟨.success, (e.cycle m).1.now⟩) ∧
    (∀ err, (e.cycle m).2.2 = .error err →
      (e.reconcile m).2.1.status.synced = some ⟨.failure err.message, (e.cycle m).1.now⟩) ∧
    (∀ o, (e.reconcile m).2.2 = .ok o ↔ e.persistFailure = none ∧ (e.cycle m).2.2 = .ok o) ∧
    (∀ o fail, (e.cycle m).2.2 = .ok o → e.persistFailure = some fail →
      (e.reconcile m).2.2 = .error (.persist m.metadata.key (fail m.metadata.key))) ∧
    (∀ err, (e.cycle m).2.2 = .error err → (e.reconcile m).2.2 = .error err) ∧
    (∀ err, (e.cycle m).2.2 = .error err →
      ∃ op, CycleFailure e m err op ∧ err.operation = some op ∧
        (∀ c, err ≠ .lifecycle (.externalName c)) ∧ ∀ t, err ≠ .lifecycle (.noExternalName t)) := by
  have hstored := reconcile_stored m e
  rw [reconcile_key m e] at hstored
  refine ⟨hstored, reconcile_managed_eq m e, fun _ h => reconcile_synced_of_ok m e h,
    fun _ h => reconcile_synced_of_error m e h, fun _ => reconcile_result_eq_ok m e,
    fun _ _ h hp => reconcile_result_of_store_failure m e h hp,
    fun _ h => reconcile_result_of_cycle_error m e h, fun err h => ?_⟩
  obtain ⟨op, hop⟩ := cycle_failure m e h
  exact ⟨op, hop, hop.operation_eq, hop.not_nameError⟩

/-- A reconciler whose registry has no configuration for the sample VPC fails to connect,
answers that failure, and tags it with connecting. -/
theorem reconcile_reports_unknown_configuration :
    let e : Reconciler Vpc.kind :=
      { sampleReconciler Vpc.kind with connector := { sampleConnector with registry := Config.Registry.empty } }
    let err : ReconcileError := .connect (.config (.providerConfigNotFound "default" "default"))
    (e.cycle sampleVpc).2.2 = .error err ∧ (e.reconcile sampleVpc).2.2 = .error err ∧
      ∃ op, CycleFailure e sampleVpc err op ∧ err.operation = some op := by
  intro e err
  have hc : (e.cycle sampleVpc).2.2 = .error err := rfl
  obtain ⟨-, -, -, -, -, -, hcycle, hfail⟩ := reconcile_reports_faithfully e sampleVpc
  obtain ⟨op, hop, htag, -⟩ := hfail err hc
  exact ⟨hc, hcycle err hc, op, hop, htag⟩

end NetReconcile.Engine
