import NetReconcile.Proofs.Healthy

/-!
# Convergence

Left alone in a healthy world, a new resource of a lawful kind settles: its first
reconcile creates it, its second finds it matching its parameters, and from then on
every reconcile only looks it up and finds it up to date, with nothing left to adopt.
An update settles the same way: the reconcile after one that updated finds the
resource up to date.

Both rest on one invariant, that the resource is in sync: the world is healthy, the
resource is not being deleted, its name is recorded, the provider holds a record under
the name, and the parameters do not drift from it. A reconcile in sync only looks the
record up, keeps the world in sync, and adopts from the record; the kind's laws make the
adoption change no verdict, and make a second adoption adopt nothing.
-/

namespace NetReconcile.Engine

open Resource Reconciler

variable {k : Kind}

/-! ## One pass of the lifecycle -/

namespace Reconciler

variable (m : Managed k) (p : Provider k)

/-- Creating a new resource in a provider with no failure queued records the new
identifier, under which the provider holds a record that matches the parameters. -/
theorem converge_of_create (hk : k.Lawful) (hd : m.metadata.deletionRequested = false)
    (hn : m.externalName = none) (hf : p.failures = []) :
    (converge m p).2.2 = .ok ⟨.created, false⟩ ∧
      (converge m p).1.find? (@Provider.idFor k (p.created + 1)) =
        some (k.simulateCreate (@Provider.idFor k (p.created + 1)) (k.createOpts m.spec)) ∧
      (converge m p).1.failures = [] ∧
      (converge m p).2.1.externalName = some (@Provider.idFor k (p.created + 1)) ∧
      (converge m p).2.1.spec = m.spec ∧ (converge m p).2.1.configRef = m.configRef ∧
      (converge m p).2.1.metadata.ns = m.metadata.ns ∧
      (converge m p).2.1.metadata.deletionRequested = false := by
  have hc := (Provider.create_of_failures_nil (k.createOpts m.spec) hf)
  have hok : (p.create (k.createOpts m.spec)).2 =
      .ok (k.simulateCreate (@Provider.idFor k (p.created + 1)) (k.createOpts m.spec)) := by
    rw [hc]
  have hcreate := Managed.create_of_ok hn hok
  rw [hk.remoteId_simulateCreate] at hcreate
  rw [converge_of_unnamed m p hd hn, hcreate]
  refine ⟨rfl, Provider.find?_create_self _ hf, by simp [hf], ?_, rfl, rfl, rfl, hd⟩
  simp [Managed.externalName, ObjectMeta.recorded, Provider.idFor_ne_empty]

/-- An update that a pass made had every check pass, and left the record updated from
the adopted parameters under the recorded name. -/
theorem converge_of_updated {b : Bool} (h : (converge m p).2.2 = .ok ⟨.updated, b⟩) :
    ∃ x r o, m.metadata.deletionRequested = false ∧ m.externalName = some x ∧ p.failures = [] ∧
      p.find? x = some r ∧ (converge m p).2.1 = m.observed r ∧
      k.checkImmutable (m.observed r).spec (k.observe r) = .ok () ∧
      k.updateOpts (m.observed r).spec = some o ∧
      (converge m p).1.find? x = some (k.simulateUpdate r o) ∧ (converge m p).1.failures = [] := by
  cases hd : m.metadata.deletionRequested with
  | true =>
    rw [converge_of_deletionRequested m p hd] at h
    split at h <;> simp at h
  | false =>
  rcases hx : m.externalName with _ | x
  · rw [converge_of_unnamed m p hd hx] at h
    split at h <;> simp at h
  rcases hg : (p.get x).2 with err | r
  · cases err with
    | notFound => simp [converge_of_missing m p hd hx hg] at h
    | api msg => simp [converge_of_get_api m p hd hx hg] at h
  obtain ⟨hf, hr⟩ := (Provider.get_snd_eq_ok_iff p x).mp hg
  rw [converge_of_found m p hd hx hg] at h ⊢
  by_cases he : (k.drift (m.observed r).spec r).isEmpty
  · rw [if_pos he] at h
    simp at h
  rw [if_neg he] at h ⊢
  rcases hu : ((m.observed r).update (p.get x).1).2 with err | u
  · simp [hu] at h
  obtain ⟨y, o, hy, hi, ho, -, hq⟩ := Managed.update_of_ok hu
  have hyx : y = x := by simpa [hx] using hy.symm
  subst hyx
  have hf' : (p.get y).1.failures = [] := by simp [hf]
  have hr' : (p.get y).1.find? ((m.observed r).locator y).id = some r := by
    simpa [Managed.locator] using hr
  refine ⟨y, r, o, rfl, rfl, hf, hr, rfl, by simpa using hi, ho, ?_, ?_⟩
  · rw [hq, Provider.update_of_find? _ o hf' hr']
    simp [Managed.locator]
  · rw [hq, Provider.update_of_find? _ o hf' hr']
    simp [hf]

end Reconciler

/-! ## In sync -/

/-- A resource is in sync with a record: the world is healthy, the resource is not being
deleted, its name is recorded, the provider holds the record under it, and the
parameters do not drift from the record. -/
structure InSync (e : Reconciler k) (m : Managed k) (x : String) (r : k.Rec) : Prop where
  healthy : Healthy e m
  notDeleting : m.metadata.deletionRequested = false
  named : m.externalName = some x
  found : e.provider.find? x = some r
  noDrift : k.drift m.spec r = []

/-- A reconcile in sync only looks the record up, finds it up to date, adopts from it,
and stays in sync. -/
theorem InSync.step (hk : k.Lawful) {e : Reconciler k} {m : Managed k} {x : String} {r : k.Rec}
    (h : InSync e m x r) :
    outcome (e, m) = .ok ⟨.upToDate, !(k.lateInit m.spec r).2.isEmpty⟩ ∧
      (next (e, m)).1.provider.calls = e.provider.calls ++ [.get x] ∧
      (next (e, m)).2.spec = (k.lateInit m.spec r).1 ∧ InSync (next (e, m)).1 (next (e, m)).2 x r := by
  obtain ⟨region, hp, hm⟩ := h.healthy.cycle_eq
  have hf : (e.provider.client region).failures = [] := by simpa using h.healthy.noProviderFailures
  have hg : ((e.provider.client region).get x).2 = .ok r :=
    (Provider.get_snd_eq_ok_iff _ x).mpr ⟨hf, by simpa using h.found⟩
  have hdrift : k.drift (k.lateInit m.spec r).1 r = [] := by
    rw [hk.drift_lateInit]
    exact h.noDrift
  have hconv := converge_of_found m (e.provider.client region) h.notDeleting h.named hg
  rw [if_pos (by simp [hdrift])] at hconv
  rw [hconv] at hp hm
  have hcycle : (e.cycle m).2.1 = m.observed r := by rw [hm]
  refine ⟨?_, by simp [Reconciler.next, hp], by simp [Reconciler.next, hcycle],
    ⟨h.healthy.preserved ?_ ?_ ?_, ?_, ?_, ?_, ?_⟩⟩
  · rw [h.healthy.outcome_eq, hm]
  · simp [hp, h.healthy.noProviderFailures]
  · simp [hcycle]
  · simp [hcycle]
  · simpa [Reconciler.next, hcycle] using h.notDeleting
  · simpa [Reconciler.next, hcycle] using h.named
  · simpa [Reconciler.next, hp] using h.found
  · simpa [Reconciler.next, hcycle, hk.drift_lateInit] using h.noDrift

/-- A reconcile in sync with nothing left to adopt finds the resource up to date without
adopting anything, and leaves it so. -/
theorem InSync.settled_step (hk : k.Lawful) {e : Reconciler k} {m : Managed k} {x : String}
    {r : k.Rec} (h : InSync e m x r) (hs : k.lateInit m.spec r = (m.spec, [])) :
    outcome (e, m) = .ok ⟨.upToDate, false⟩ ∧
      (next (e, m)).1.provider.calls = e.provider.calls ++ [.get x] ∧
      InSync (next (e, m)).1 (next (e, m)).2 x r ∧
      k.lateInit (next (e, m)).2.spec r = ((next (e, m)).2.spec, []) := by
  obtain ⟨hout, hcalls, hspec, hsync⟩ := h.step hk
  rw [hs] at hout hspec
  exact ⟨hout, hcalls, hsync, by rw [hspec, hs]⟩

/-- The first reconcile of a new resource in a healthy world creates it, and leaves it in
sync with the created record. -/
theorem Healthy.create (hk : k.Lawful) {e : Reconciler k} {m : Managed k} (h : Healthy e m)
    (hd : m.metadata.deletionRequested = false) (hn : m.externalName = none) :
    outcome (e, m) = .ok ⟨.created, false⟩ ∧
      ∃ x r, InSync (next (e, m)).1 (next (e, m)).2 x r := by
  obtain ⟨region, hp, hm⟩ := h.cycle_eq
  have hf : (e.provider.client region).failures = [] := by simpa using h.noProviderFailures
  obtain ⟨hout, hfound, hfail, hname, hspec, hcfg, hns, hdel⟩ :=
    converge_of_create m (e.provider.client region) hk hd hn hf
  have hcycle : (e.cycle m).2.1 = (converge m (e.provider.client region)).2.1 := by rw [hm]
  refine ⟨by rw [h.outcome_eq, hm, hout], @Provider.idFor k ((e.provider.client region).created + 1),
    k.simulateCreate (@Provider.idFor k ((e.provider.client region).created + 1)) (k.createOpts m.spec),
    ⟨h.preserved (by rw [hp, hfail]) (by rw [hcycle, hcfg]) (by rw [hcycle, hns]), ?_, ?_, ?_, ?_⟩⟩
  · simpa [Reconciler.next, hcycle] using hdel
  · simpa [Reconciler.next, hcycle] using hname
  · simpa [Reconciler.next, hp] using hfound
  · simpa [Reconciler.next, hcycle, hspec] using hk.drift_simulateCreate _ m.spec

/-- The reconcile after one that updated starts in sync with the updated record, with
nothing left to adopt from it. -/
theorem InSync.of_updated (hk : k.Lawful) {e : Reconciler k} {m : Managed k} {b : Bool}
    (h : outcome (e, m) = .ok ⟨.updated, b⟩) :
    ∃ x r, InSync (next (e, m)).1 (next (e, m)).2 x r ∧
      k.lateInit (next (e, m)).2.spec r = ((next (e, m)).2.spec, []) := by
  obtain ⟨hpersist, hcyc⟩ := (reconcile_result_eq_ok m e).mp h
  obtain ⟨conn, hconn, hclient, hp, hm⟩ := cycle_of_result_ok m e hcyc
  rw [hm] at hcyc
  obtain ⟨x, r, o, hd, hx, hf, -, hobs, hi, ho, hfound, hfail⟩ :=
    converge_of_updated m (e.provider.client conn.region) hcyc
  have healthy : Healthy e m := ⟨⟨conn, hconn⟩, hclient, hpersist, by simpa using hf⟩
  have hcycle : (e.cycle m).2.1 = m.observed r := by rw [hm, hobs]
  have hspec : (next (e, m)).2.spec = (k.lateInit m.spec r).1 := by
    simp [Reconciler.next, hcycle]
  refine ⟨x, k.simulateUpdate r o, ⟨healthy.preserved (by rw [hp, hfail]) (by simp [hcycle])
    (by simp [hcycle]), ?_, ?_, ?_, ?_⟩, ?_⟩
  · simpa [Reconciler.next, hcycle] using hd
  · simpa [Reconciler.next, hcycle] using hx
  · simpa [Reconciler.next, hp] using hfound
  · rw [hspec]
    exact hk.drift_simulateUpdate (by simpa using hi) (by simpa using ho)
  · rw [hspec]
    exact hk.lateInit_simulateUpdate (hk.lateInit_lateInit m.spec r) (by simpa using ho)

/-- Reconciling converges and then stays quiet. In a healthy world, a new resource of any
kind of the catalog, neither named nor being deleted, is created by its first reconcile
and found up to date by its second; every reconcile from the third on finds it up to
date without adopting anything, and only looks up the name the first one recorded. And
whenever a reconcile updates a resource, the next one finds it up to date. -/
theorem reconcile_converges (hk : k ∈ catalog) (e : Reconciler k) (m : Managed k) (h : Healthy e m)
    (hd : m.metadata.deletionRequested = false) (hn : m.externalName = none) :
    outcome (e, m) = .ok ⟨.created, false⟩ ∧
      (∃ b, outcome (next (e, m)) = .ok ⟨.upToDate, b⟩) ∧
      (∃ x, (next (e, m)).2.externalName = some x ∧ ∀ n, 2 ≤ n →
        outcome (next^[n] (e, m)) = .ok ⟨.upToDate, false⟩ ∧
          (next (next^[n] (e, m))).1.provider.calls = (next^[n] (e, m)).1.provider.calls ++ [.get x]) ∧
      ∀ (e' : Reconciler k) (m' : Managed k) (b : Bool), outcome (e', m') = .ok ⟨.updated, b⟩ →
        outcome (next (e', m')) = .ok ⟨.upToDate, false⟩ := by
  have hl := catalog_lawful hk
  obtain ⟨hcreated, x, r, hsync⟩ := h.create hl hd hn
  obtain ⟨hsecond, -, hspec, hsync₂⟩ := hsync.step hl
  have hrun : ∀ j, InSync (next^[j + 2] (e, m)).1 (next^[j + 2] (e, m)).2 x r ∧
      k.lateInit (next^[j + 2] (e, m)).2.spec r = ((next^[j + 2] (e, m)).2.spec, []) := by
    intro j
    induction j with
    | zero =>
      refine ⟨hsync₂, ?_⟩
      simp only [Function.iterate_succ_apply', Function.iterate_zero_apply] at hspec ⊢
      rw [hspec]
      exact hl.lateInit_lateInit _ r
    | succ j ih =>
      obtain ⟨-, -, hsync', hsettled'⟩ := ih.1.settled_step hl ih.2
      rw [show j + 1 + 2 = (j + 2) + 1 by omega, Function.iterate_succ_apply']
      exact ⟨hsync', hsettled'⟩
  refine ⟨hcreated, ⟨_, hsecond⟩, ⟨x, hsync.named, fun n hn2 => ?_⟩, fun e' m' b hup => ?_⟩
  · obtain ⟨j, rfl⟩ : ∃ j, n = j + 2 := ⟨n - 2, by omega⟩
    obtain ⟨hout, hcalls, -, -⟩ := (hrun j).1.settled_step hl (hrun j).2
    exact ⟨hout, hcalls⟩
  · obtain ⟨y, r', hsync', hsettled'⟩ := InSync.of_updated hl hup
    exact (hsync'.settled_step hl hsettled').1

theorem reconcile_converges_sample :
    let e := sampleReconciler Vpc.kind
    let m := sampleVpc
    outcome (e, m) = .ok ⟨.created, false⟩ ∧
      (∃ b, outcome (next (e, m)) = .ok ⟨.upToDate, b⟩) ∧
      (∃ x, (next (e, m)).2.externalName = some x ∧ ∀ n, 2 ≤ n →
        outcome (next^[n] (e, m)) = .ok ⟨.upToDate, false⟩ ∧
          (next (next^[n] (e, m))).1.provider.calls = (next^[n] (e, m)).1.provider.calls ++ [.get x]) ∧
      ∀ (e' : Reconciler Vpc.kind) (m' : Managed Vpc.kind) (b : Bool),
        outcome (e', m') = .ok ⟨.updated, b⟩ → outcome (next (e', m')) = .ok ⟨.upToDate, false⟩ :=
  reconcile_converges (by simp [catalog]) _ _ (sampleReconciler_healthy _ rfl rfl) rfl rfl

end NetReconcile.Engine
