import NetReconcile.Engine.Cycle
import NetReconcile.Proofs.Lifecycle
import NetReconcile.Proofs.Kinds

/-!
# Laws of a reconcile cycle
-/

namespace NetReconcile.Engine

open Resource

/-- A call that changes the provider's records: anything but a lookup. -/
def Call.mutates : Call → Bool
  | .get _ => false
  | .create => true
  | .update _ => true
  | .delete _ => true

/-- A call made to the record a locator names. A create names none. -/
def Call.AddressedTo : Call → Locator → Prop
  | .get id, l => id = l.id
  | .create, _ => False
  | .update l', l => l' = l
  | .delete l', l => l' = l

/-- The calls one cycle may send, by the resource it started from: nothing, a delete of
the recorded name when deletion is requested, and otherwise a create when no name is
recorded, or a lookup of the recorded name, followed by an update of it. -/
inductive CycleCalls {k : Kind} (m : Managed k) : List Call → Prop
  | quiet : CycleCalls m []
  | delete {x : String} : m.metadata.deletionRequested = true → m.externalName = some x →
      CycleCalls m [.delete (m.locator x)]
  | create : m.metadata.deletionRequested = false → m.externalName = none → CycleCalls m [.create]
  | observe {x : String} : m.metadata.deletionRequested = false → m.externalName = some x →
      CycleCalls m [.get x]
  | update {x : String} : m.metadata.deletionRequested = false → m.externalName = some x →
      CycleCalls m [.get x, .update (m.locator x)]

namespace CycleCalls

variable {k : Kind} {m : Managed k} {cs : List Call}

theorem mutations_le_one (h : CycleCalls m cs) : (cs.filter Call.mutates).length ≤ 1 := by
  cases h <;> simp [List.filter_cons, Call.mutates]

theorem unnamed_of_create (h : CycleCalls m cs) (hc : Call.create ∈ cs) :
    m.externalName = none ∧ m.metadata.deletionRequested = false := by
  cases h with
  | create hd hn => exact ⟨hn, hd⟩
  | quiet | delete _ _ | observe _ _ | update _ _ => simp at hc

theorem addressed (h : CycleCalls m cs) :
    ∀ c ∈ cs, c ≠ .create → ∃ x, m.externalName = some x ∧ c.AddressedTo (m.locator x) := by
  cases h with
  | quiet => simp
  | create _ _ => simp
  | delete _ hx | observe _ hx =>
    intro c hc _
    rw [List.mem_singleton.mp hc]
    exact ⟨_, hx, rfl⟩
  | update _ hx =>
    intro c hc _
    rcases List.mem_pair.mp hc with rfl | rfl
    · exact ⟨_, hx, rfl⟩
    · exact ⟨_, hx, rfl⟩

end CycleCalls

namespace Reconciler

variable {k : Kind} (m : Managed k) (p : Provider k)

theorem converge_of_deletionRequested (h : m.metadata.deletionRequested = true) :
    converge m p = ((m.delete p).1, m.setCondition .deleting,
      match (m.delete p).2.2 with
      | .ok () => .ok ⟨.deleted, false⟩
      | .error err => .error (.lifecycle err)) := by
  have hm := Managed.delete_managed m p
  rcases hd : m.delete p with ⟨q, m', res⟩
  rw [hd] at hm
  cases hm
  cases res <;> simp [converge, h, hd, Managed.setCondition]

theorem converge_of_unnamed (hd : m.metadata.deletionRequested = false) (hn : m.externalName = none) :
    converge m p = ((m.create p).1, (m.create p).2.1,
      match (m.create p).2.2 with
      | .ok _ => .ok ⟨.created, false⟩
      | .error err => .error (.lifecycle err)) := by
  rcases hc : m.create p with ⟨q, m', res⟩
  cases res <;> simp [converge, hd, Managed.observe_of_externalName_none hn, hn, hc, Observation.missing]

theorem converge_of_found {x : String} {r : k.Rec} (hd : m.metadata.deletionRequested = false)
    (hx : m.externalName = some x) (hg : (p.get x).2 = .ok r) :
    converge m p =
      if (k.drift (m.observed r).spec r).isEmpty then
        ((p.get x).1, m.observed r, .ok ⟨.upToDate, !(k.lateInit m.spec r).2.isEmpty⟩)
      else
        (((m.observed r).update (p.get x).1).1, m.observed r,
          match ((m.observed r).update (p.get x).1).2 with
          | .ok () => .ok ⟨.updated, !(k.lateInit m.spec r).2.isEmpty⟩
          | .error err => .error (.lifecycle err)) := by
  rcases hu : (m.observed r).update (p.get x).1 with ⟨q, res⟩
  cases res <;> by_cases he : (k.drift (m.observed r).spec r).isEmpty <;>
    simp_all [converge, Managed.observe_of_get_ok hx hg]

theorem converge_of_missing {x : String} (hd : m.metadata.deletionRequested = false)
    (hx : m.externalName = some x) (hg : (p.get x).2 = .error .notFound) :
    converge m p = ((p.get x).1, m.setCondition .unavailable,
      .error (.externalResourceMissing k.tag x)) := by
  simp [converge, hd, Managed.observe_of_get_notFound hx hg, hx, Observation.missing]

theorem converge_of_get_api {x msg : String} (hd : m.metadata.deletionRequested = false)
    (hx : m.externalName = some x) (hg : (p.get x).2 = .error (.api msg)) :
    converge m p = ((p.get x).1, m, .error (.lifecycle (.provider .observe k.tag (.api msg)))) := by
  simp [converge, hd, Managed.observe_of_get_api hx hg]

/-! ## What one pass sends and what it keeps -/

/-- One pass sends the calls its starting resource allows, addressed to the name
recorded at its start and to the parent of the parameters it started with. -/
theorem converge_calls (hk : k.Lawful) :
    ∃ cs, (converge m p).1.calls = p.calls ++ cs ∧ CycleCalls m cs := by
  cases hd : m.metadata.deletionRequested with
  | true =>
    rw [converge_of_deletionRequested m p hd]
    rcases hx : m.externalName with _ | x
    · exact ⟨[], by simp [hx], .quiet⟩
    · exact ⟨[.delete (m.locator x)], by simp [hx], .delete hd hx⟩
  | false =>
    rcases hx : m.externalName with _ | x
    · rw [converge_of_unnamed m p hd hx]
      exact ⟨[.create], by simp, .create hd hx⟩
    rcases hg : (p.get x).2 with e | r
    · cases e with
      | notFound =>
        rw [converge_of_missing m p hd hx hg]
        exact ⟨[.get x], by simp, .observe hd hx⟩
      | api msg =>
        rw [converge_of_get_api m p hd hx hg]
        exact ⟨[.get x], by simp, .observe hd hx⟩
    rw [converge_of_found m p hd hx hg]
    by_cases he : (k.drift (m.observed r).spec r).isEmpty
    · rw [if_pos he]
      exact ⟨[.get x], by simp, .observe hd hx⟩
    rw [if_neg he]
    rcases Managed.update_calls (m.observed r) (p.get x).1 with h | ⟨y, hy, h⟩
    · exact ⟨[.get x], by simp [h], .observe hd hx⟩
    have hyx : y = x := by simpa [hx] using hy.symm
    subst hyx
    have hloc : (m.observed r).locator y = m.locator y := by
      simp [Managed.locator, hk.parent_lateInit]
    exact ⟨[.get y, .update (m.locator y)], by simp [h, hloc], .update hd hx⟩

/-- A recorded name survives a pass. -/
theorem converge_externalName {x : String} (hx : m.externalName = some x) :
    (converge m p).2.1.externalName = some x := by
  cases hd : m.metadata.deletionRequested with
  | true => simp [converge_of_deletionRequested m p hd, hx]
  | false =>
    rcases hg : (p.get x).2 with e | r
    · cases e with
      | notFound => simp [converge_of_missing m p hd hx hg, hx]
      | api msg => simp [converge_of_get_api m p hd hx hg, hx]
    · rw [converge_of_found m p hd hx hg]
      split <;> simp [hx]

/-- A pass never fails over the recorded name. -/
theorem converge_ne_externalName (c : NameConflict) :
    (converge m p).2.2 ≠ .error (.lifecycle (.externalName c)) := by
  cases hd : m.metadata.deletionRequested with
  | true =>
    rw [converge_of_deletionRequested m p hd]
    have hne := Managed.delete_ne_externalName m p c
    rcases hr : (m.delete p).2.2 with e | u
    · rw [hr] at hne
      simpa using hne
    · simp
  | false =>
    rcases hx : m.externalName with _ | x
    · rw [converge_of_unnamed m p hd hx]
      have hne := Managed.create_no_conflict (p := p) hx c
      rcases hr : (m.create p).2.2 with e | u
      · rw [hr] at hne
        simpa using hne
      · simp
    rcases hg : (p.get x).2 with e | r
    · cases e with
      | notFound => simp [converge_of_missing m p hd hx hg]
      | api msg => simp [converge_of_get_api m p hd hx hg]
    rw [converge_of_found m p hd hx hg]
    split
    · simp
    · have hne := Managed.update_ne_externalName (m.observed r) (p.get x).1 c
      rcases hr : ((m.observed r).update (p.get x).1).2 with e | u
      · rw [hr] at hne
        simpa using hne
      · simp

/-! ## A cycle -/

variable (e : Reconciler k)

/-- A cycle either stops before the provider, leaving it and the resource as they were
and failing, or it connects, builds a client, and converges against it. -/
theorem cycle_cases :
    ((e.cycle m).1.provider = e.provider ∧ (e.cycle m).2.1 = m ∧
      ∃ err, (e.cycle m).2.2 = .error err ∧ ∀ c, err ≠ .lifecycle (.externalName c)) ∨
    ∃ conn, (e.connector.connect m.configRef m.metadata.ns).2 = .ok conn ∧ e.clientFailure = none ∧
      (e.cycle m).1.provider = (converge m (e.provider.client conn.region)).1 ∧
      (e.cycle m).2 = (converge m (e.provider.client conn.region)).2 := by
  rcases hc : e.connector.connect m.configRef m.metadata.ns with ⟨c, err | conn⟩
  · exact Or.inl ⟨by simp [cycle, hc], by simp [cycle, hc], .connect err, by simp [cycle, hc], by simp⟩
  rcases hcl : e.clientFailure with _ | msg
  · exact Or.inr ⟨conn, rfl, rfl, by simp [cycle, hc, hcl, withProvider], by simp [cycle, hc, hcl]⟩
  · exact Or.inl ⟨by simp [cycle, hc, hcl], by simp [cycle, hc, hcl], .client (.api msg),
      by simp [cycle, hc, hcl], by simp⟩

/-- A cycle that connects and builds a client converges against the provider's client. -/
theorem cycle_of_connected {c : Connector} {conn : Connection}
    (hc : e.connector.connect m.configRef m.metadata.ns = (c, .ok conn)) (hcl : e.clientFailure = none) :
    e.cycle m = ({ e with connector := c, provider := (converge m (e.provider.client conn.region)).1 },
      (converge m (e.provider.client conn.region)).2) := by
  simp [cycle, hc, hcl, withProvider]

/-- The cycle's connector is the one connecting left. -/
@[simp] theorem cycle_connector :
    (e.cycle m).1.connector = (e.connector.connect m.configRef m.metadata.ns).1 := by
  rcases hc : e.connector.connect m.configRef m.metadata.ns with ⟨c, err | conn⟩
  · simp [cycle, hc]
  · cases hcl : e.clientFailure <;> simp [cycle, hc, hcl, withProvider]

@[simp] theorem cycle_clientFailure : (e.cycle m).1.clientFailure = e.clientFailure := by
  rcases hc : e.connector.connect m.configRef m.metadata.ns with ⟨c, err | conn⟩
  · simp [cycle, hc]
  · cases hcl : e.clientFailure <;> simp [cycle, hc, hcl, withProvider]

@[simp] theorem cycle_persistFailure : (e.cycle m).1.persistFailure = e.persistFailure := by
  rcases hc : e.connector.connect m.configRef m.metadata.ns with ⟨c, err | conn⟩
  · simp [cycle, hc]
  · cases hcl : e.clientFailure <;> simp [cycle, hc, hcl, withProvider]

/-- A cycle leaves the store alone: only the bookkeeping after it writes there. -/
@[simp] theorem cycle_stored : (e.cycle m).1.stored = e.stored := by
  rcases hc : e.connector.connect m.configRef m.metadata.ns with ⟨c, err | conn⟩
  · simp [cycle, hc]
  · cases hcl : e.clientFailure <;> simp [cycle, hc, hcl, withProvider]

/-! ## A reconcile: a cycle and its bookkeeping

The bookkeeping writes the outcome into the status and the resource into the store; it
touches neither the provider nor the connector, nor any part of the resource but its
latest outcome. -/

@[simp] theorem reconcile_provider : (e.reconcile m).1.provider = (e.cycle m).1.provider := by
  rcases h : e.cycle m with ⟨e', m', r⟩
  cases hp : e'.persistFailure <;> simp [reconcile, h, hp]

@[simp] theorem reconcile_connector : (e.reconcile m).1.connector = (e.cycle m).1.connector := by
  rcases h : e.cycle m with ⟨e', m', r⟩
  cases hp : e'.persistFailure <;> simp [reconcile, h, hp]

@[simp] theorem reconcile_clientFailure :
    (e.reconcile m).1.clientFailure = (e.cycle m).1.clientFailure := by
  rcases h : e.cycle m with ⟨e', m', r⟩
  cases hp : e'.persistFailure <;> simp [reconcile, h, hp]

@[simp] theorem reconcile_persistFailure :
    (e.reconcile m).1.persistFailure = (e.cycle m).1.persistFailure := by
  rcases h : e.cycle m with ⟨e', m', r⟩
  cases hp : e'.persistFailure <;> simp [reconcile, h, hp]

@[simp] theorem reconcile_metadata : (e.reconcile m).2.1.metadata = (e.cycle m).2.1.metadata := by
  rcases h : e.cycle m with ⟨e', m', r⟩
  cases hp : e'.persistFailure <;> simp [reconcile, h, hp]

@[simp] theorem reconcile_configRef : (e.reconcile m).2.1.configRef = (e.cycle m).2.1.configRef := by
  rcases h : e.cycle m with ⟨e', m', r⟩
  cases hp : e'.persistFailure <;> simp [reconcile, h, hp]

@[simp] theorem reconcile_spec : (e.reconcile m).2.1.spec = (e.cycle m).2.1.spec := by
  rcases h : e.cycle m with ⟨e', m', r⟩
  cases hp : e'.persistFailure <;> simp [reconcile, h, hp]

@[simp] theorem reconcile_condition : (e.reconcile m).2.1.condition = (e.cycle m).2.1.condition := by
  rcases h : e.cycle m with ⟨e', m', r⟩
  cases hp : e'.persistFailure <;> simp [reconcile, h, hp, Managed.condition]

@[simp] theorem reconcile_externalName :
    (e.reconcile m).2.1.externalName = (e.cycle m).2.1.externalName := by
  simp [Managed.externalName]

/-- Without a store failure a reconcile answers what its cycle did. -/
theorem reconcile_result_of_persistFailure (h : e.persistFailure = none) :
    (e.reconcile m).2.2 = (e.cycle m).2.2 := by
  rcases hc : e.cycle m with ⟨e', m', r⟩
  have hp : e'.persistFailure = none := by simpa [hc] using (cycle_persistFailure m e).trans h
  simp [reconcile, hc, hp]

/-- A reconcile answers what its cycle did, or that the store failed. -/
theorem reconcile_result_cases :
    (e.reconcile m).2.2 = (e.cycle m).2.2 ∨ ∃ key err, (e.reconcile m).2.2 = .error (.persist key err) := by
  rcases hc : e.cycle m with ⟨e', m', r⟩
  rcases hp : e'.persistFailure with _ | fail
  · exact Or.inl (by simp [reconcile, hc, hp])
  · rcases r with err | o
    · exact Or.inl (by simp [reconcile, hc, hp])
    · exact Or.inr ⟨m'.metadata.key, fail m'.metadata.key, by simp [reconcile, hc, hp]⟩

/-! ## Runs of reconciles -/

/-- The reconciler and the resource after one reconcile. -/
def next (s : Reconciler k × Managed k) : Reconciler k × Managed k :=
  ((s.1.reconcile s.2).1, (s.1.reconcile s.2).2.1)

/-- What a reconcile from a state answers. -/
def outcome (s : Reconciler k × Managed k) : Except ReconcileError Outcome :=
  (s.1.reconcile s.2).2.2

/-- A reconcile succeeds exactly when its cycle did and storing did not fail. -/
theorem reconcile_result_eq_ok {o : Outcome} :
    (e.reconcile m).2.2 = .ok o ↔ e.persistFailure = none ∧ (e.cycle m).2.2 = .ok o := by
  rw [← cycle_persistFailure m e]
  rcases hc : e.cycle m with ⟨e', m', r⟩
  rcases hp : e'.persistFailure with _ | fail
  · simp [reconcile, hc, hp]
  · cases r <;> simp [reconcile, hc, hp]

/-- A cycle that succeeded connected, built a client and converged. -/
theorem cycle_of_result_ok {o : Outcome} (h : (e.cycle m).2.2 = .ok o) :
    ∃ conn, (e.connector.connect m.configRef m.metadata.ns).2 = .ok conn ∧ e.clientFailure = none ∧
      (e.cycle m).1.provider = (converge m (e.provider.client conn.region)).1 ∧
      (e.cycle m).2 = (converge m (e.provider.client conn.region)).2 := by
  rcases cycle_cases m e with ⟨-, -, err, herr, -⟩ | hc
  · rw [herr] at h
    cases h
  · exact hc

/-- The calls a reconcile sent: what its provider's log gained. -/
def issued (e : Reconciler k) (m : Managed k) : List Call :=
  (e.reconcile m).1.provider.calls.drop e.provider.calls.length

/-- A reconcile sends what its starting resource allows, and nothing unless it connected
and built a client. -/
theorem reconcile_calls (hk : k.Lawful) :
    (e.reconcile m).1.provider.calls = e.provider.calls ++ e.issued m ∧ CycleCalls m (e.issued m) ∧
      (e.issued m ≠ [] → (∃ conn, (e.connector.connect m.configRef m.metadata.ns).2 = .ok conn) ∧
        e.clientFailure = none) := by
  rcases cycle_cases m e with ⟨hp, -, -⟩ | ⟨conn, hc, hcl, hp, -⟩
  · have hnil : e.issued m = [] := by simp [issued, hp]
    exact ⟨by simp [hnil, hp], hnil ▸ .quiet, fun h => absurd hnil h⟩
  · obtain ⟨cs, hcs, hcalls⟩ := converge_calls m (e.provider.client conn.region) hk
    have hissued : e.issued m = cs := by simp [issued, hp, hcs]
    exact ⟨by simp [hissued, hp, hcs], hissued ▸ hcalls, fun _ => ⟨⟨conn, hc⟩, hcl⟩⟩

end Reconciler

end NetReconcile.Engine
