import Mathlib.Data.List.Induction
import NetReconcile.Proofs.Reporting
import NetReconcile.Proofs.ConfigIdentity
import NetReconcile.Proofs.Provider

/-!
# One stored copy per resource

After each cycle the engine stores the resource under its key, the namespace and the name
joined by a slash, or the name alone for a cluster-wide resource, replacing the copy held
there (`reconcile_stored_eq_persist`). Over any sequence of stores, the copy under a key is
the last resource stored with that key (`storedAt?_foldl_persist`).

Whether that is the last copy of one resource depends on the key telling resources apart.
A name holding no slash is what follows the last slash of a namespaced key, and a
cluster-wide key holds no slash at all, so resources whose names hold no slash have
distinct keys (`ObjectMeta.key_inj`): each keeps its own copy, and storing one never
replaces another's (`stored_copy_per_resource`). A slash in a name breaks this: the
cluster-wide resource `a/b` and the resource `b` of namespace `a` share the key `a/b`
(`cluster_key_collides`).
-/

namespace NetReconcile

namespace Resource.ObjectMeta

@[simp] theorem key_toList_namespaced (name ns : String) (ext : Option String) (del : Bool) :
    (ObjectMeta.key ⟨name, some ns, ext, del⟩).toList = ns.toList ++ '/' :: name.toList := by
  simp [key]

@[simp] theorem key_toList_cluster (name : String) (ext : Option String) (del : Bool) :
    (ObjectMeta.key ⟨name, none, ext, del⟩).toList = name.toList := rfl

/-- Resources whose names hold no slash are told apart by their keys: read from its end,
a namespaced key gives the name up to its last slash and the namespace before it, and a
cluster-wide key, unlike a namespaced one, holds no slash. -/
theorem key_inj {m m' : ObjectMeta} (h : '/' ∉ m.name.toList) (h' : '/' ∉ m'.name.toList)
    (hk : m.key = m'.key) : m.ns = m'.ns ∧ m.name = m'.name := by
  obtain ⟨n, ns, x, d⟩ := m
  obtain ⟨n', ns', x', d'⟩ := m'
  have htext := congrArg String.toList hk
  cases ns with
  | some ns =>
    cases ns' with
    | some ns' =>
      simp only [key_toList_namespaced] at htext
      have hrev : n.toList.reverse ++ '/' :: ns.toList.reverse =
          n'.toList.reverse ++ '/' :: ns'.toList.reverse := by
        simpa using congrArg List.reverse htext
      obtain ⟨hn, hns⟩ := Config.append_slash_inj (by simpa using h) (by simpa using h') hrev
      simp only [List.reverse_inj, String.toList_inj] at hn hns
      exact ⟨congrArg some hns, hn⟩
    | none =>
      simp only [key_toList_namespaced, key_toList_cluster] at htext
      exact absurd (htext ▸ by simp) h'
  | none =>
    cases ns' with
    | some ns' =>
      simp only [key_toList_namespaced, key_toList_cluster] at htext
      exact absurd (htext.symm ▸ by simp) h
    | none =>
      simp only [key_toList_cluster, String.toList_inj] at htext
      exact ⟨rfl, htext⟩

/-- A slash in a name lets two resources share a key: the cluster-wide resource `a/b` and
the resource `b` of namespace `a` are both stored under `a/b`. -/
theorem cluster_key_collides :
    (cluster "a/b").key = (namespaced "a" "b").key ∧ (cluster "a/b").ns ≠ (namespaced "a" "b").ns := by
  decide

end Resource.ObjectMeta

namespace Engine

open Resource

variable {k : Kind}

namespace Reconciler

/-- Store a resource as the bookkeeping of a cycle does: its copy goes under its key,
replacing the copy held there. -/
def persist (e : Reconciler k) (m : Managed k) : Reconciler k :=
  { e with stored := putRecord m.metadata.key m e.stored }

/-- Storing a resource decides what its key holds, and no other key. -/
theorem storedAt?_persist (e : Reconciler k) (m : Managed k) (key : String) :
    (e.persist m).storedAt? key = if m.metadata.key = key then some m else e.storedAt? key :=
  find?_putRecord _ _ _ _

/-- A reconcile whose store works stores the resource it answers. -/
theorem reconcile_stored_eq_persist (e : Reconciler k) (m : Managed k)
    (h : e.persistFailure = none) :
    (e.reconcile m).1.stored = (e.persist (e.reconcile m).2.1).stored := by
  rw [reconcile_stored, h]
  rfl

/-- After any sequence of stores, a key holds the last resource stored with that key, or
what it held before when none was. -/
theorem storedAt?_foldl_persist (e : Reconciler k) (ms : List (Managed k)) (key : String) :
    (ms.foldl persist e).storedAt? key =
      (ms.filter (·.metadata.key == key)).getLast?.or (e.storedAt? key) := by
  induction ms using List.reverseRecOn with
  | nil => simp
  | append_singleton ms m ih =>
    rw [List.foldl_append, List.foldl_cons, List.foldl_nil, storedAt?_persist, List.filter_append]
    by_cases h : m.metadata.key = key
    · simp [h]
    · simp [h, ih]

/-- The store keeps one copy per resource when names hold no slash. After any sequence of
stores, the key of a resource holds the last copy stored of that resource, the one with
its namespace and name, or what it held before when none was; and storing a resource with another
namespace or name leaves that key's copy as it was. -/
theorem stored_copy_per_resource (e : Reconciler k) (ms : List (Managed k)) (m : ObjectMeta)
    (hm : '/' ∉ m.name.toList) (hms : ∀ x ∈ ms, '/' ∉ x.metadata.name.toList) :
    (ms.foldl persist e).storedAt? m.key =
        (ms.filter fun x => x.metadata.ns == m.ns && x.metadata.name == m.name).getLast?.or
          (e.storedAt? m.key) ∧
      ∀ (e' : Reconciler k) (x : Managed k), '/' ∉ x.metadata.name.toList →
        (x.metadata.ns ≠ m.ns ∨ x.metadata.name ≠ m.name) →
        (e'.persist x).storedAt? m.key = e'.storedAt? m.key := by
  have hsame : ∀ x : Managed k, '/' ∉ x.metadata.name.toList →
      (x.metadata.key = m.key ↔ x.metadata.ns = m.ns ∧ x.metadata.name = m.name) := by
    intro x hx
    constructor
    · exact ObjectMeta.key_inj hx hm
    · intro hxm
      simp [ObjectMeta.key, hxm.1, hxm.2]
  constructor
  · have hfilter : ms.filter (·.metadata.key == m.key) =
        ms.filter fun x => x.metadata.ns == m.ns && x.metadata.name == m.name := by
      apply List.filter_congr
      intro x hx
      rw [Bool.eq_iff_iff, beq_iff_eq, Bool.and_eq_true, beq_iff_eq, beq_iff_eq]
      exact hsame x (hms x hx)
    rw [storedAt?_foldl_persist, hfilter]
  · intro e' x hx hother
    rw [storedAt?_persist, if_neg]
    rw [hsame x hx]
    tauto

/-- The resource `web` of namespace `default` keeps its copy when the resource `web` of
namespace `other` is stored after it. -/
theorem stored_copy_per_resource_of_namesakes :
    let other : Managed Vpc.kind := { sampleVpc with metadata := .namespaced "other" "web" }
    ([sampleVpc, other].foldl persist (sampleReconciler Vpc.kind)).storedAt? sampleVpc.metadata.key =
      some sampleVpc := by
  intro other
  rw [(stored_copy_per_resource (sampleReconciler Vpc.kind) [sampleVpc, other] sampleVpc.metadata
    (by decide) (by decide)).1]
  rfl

end Reconciler

end Engine

end NetReconcile
