import NetReconcile.Resource.Meta

/-!
# The external name is written once

The external name of an identity is a register written once. It is unset while no name
or an empty one is stored; the first non-empty identifier recorded sets it for good.
Recording the recorded identifier again succeeds and changes nothing, and recording
another is refused, naming both, with the identity left as it was. Nothing of the
identity but its external name is ever touched.

A sequence of attempts runs as calls on a mutable identity do: a refused attempt keeps
the identity, a successful one replaces it (`afterRecord`).
-/

namespace NetReconcile.Resource.ObjectMeta

/-- The identity after an attempt to record `id`: the one the attempt returns, or the
same identity when the attempt is refused. -/
def afterRecord (m : ObjectMeta) (id : String) : ObjectMeta :=
  match m.recordExternalName id with
  | .ok m' => m'
  | .error _ => m

/-- A recorded name is stored, and it is never empty. -/
theorem recorded_eq_some {m : ObjectMeta} {x : String} (h : m.recorded = some x) :
    m.externalName = some x ∧ x ≠ "" := by
  cases hm : m.externalName with
  | none => simp [recorded, hm] at h
  | some y =>
    simp only [recorded, hm, Option.filter_some] at h
    split at h
    · cases h
      exact ⟨rfl, by simpa using ‹(!x.isEmpty) = true›⟩
    · cases h

/-- Storing an identifier sets the register to it, unless it is empty. -/
@[simp] theorem recorded_store (m : ObjectMeta) (id : String) :
    ({ m with externalName := some id } : ObjectMeta).recorded = if id = "" then none else some id := by
  by_cases h : id = "" <;> simp [recorded, h]

/-- An attempt is refused, naming both identifiers, when another name is recorded. -/
theorem recordExternalName_of_conflict {m : ObjectMeta} {id x : String} (hx : m.recorded = some x)
    (hne : x ≠ id) : m.recordExternalName id = .error ⟨x, id⟩ := by
  simp [recordExternalName, hx, hne]

/-- An attempt succeeds and stores the identifier when no other name is recorded. -/
theorem recordExternalName_of_agrees {m : ObjectMeta} {id : String}
    (h : ∀ x, m.recorded = some x → x = id) :
    m.recordExternalName id = .ok { m with externalName := some id } := by
  cases hr : m.recorded with
  | none => simp [recordExternalName, hr]
  | some x => simp [recordExternalName, hr, h x hr]

/-- The two outcomes of an attempt: refused when another name is recorded, with the
identity left as it was, and otherwise the identifier stored. -/
theorem afterRecord_cases (m : ObjectMeta) (id : String) :
    (∃ x, m.recorded = some x ∧ x ≠ id ∧ m.afterRecord id = m) ∨
    ((∀ x, m.recorded = some x → x = id) ∧ m.afterRecord id = { m with externalName := some id }) := by
  by_cases hagree : ∀ x, m.recorded = some x → x = id
  · exact .inr ⟨hagree, by simp [afterRecord, recordExternalName_of_agrees hagree]⟩
  · obtain ⟨x, hx, hne⟩ : ∃ x, m.recorded = some x ∧ x ≠ id := by simpa using hagree
    exact .inl ⟨x, hx, hne, by simp [afterRecord, recordExternalName_of_conflict hx hne]⟩

/-- An attempt touches nothing but the external name. -/
theorem afterRecord_frame (m : ObjectMeta) (id : String) :
    m.afterRecord id = { m with externalName := (m.afterRecord id).externalName } := by
  rcases afterRecord_cases m id with ⟨x, -, -, h⟩ | ⟨-, h⟩ <;> rw [h]

/-- The register after one attempt: what was recorded, or else the identifier when it is
not empty. -/
theorem recorded_afterRecord (m : ObjectMeta) (id : String) :
    (m.afterRecord id).recorded = m.recorded.or (if id = "" then none else some id) := by
  rcases afterRecord_cases m id with ⟨x, hx, -, h⟩ | ⟨hagree, h⟩
  · simp [h, hx]
  · rw [h, recorded_store]
    cases hr : m.recorded with
    | none => simp
    | some x =>
      obtain rfl := hagree x hr
      simp [(recorded_eq_some hr).2]

/-- Over a sequence of attempts only the external name changes. -/
theorem foldl_afterRecord_frame (m : ObjectMeta) (ids : List String) :
    ids.foldl afterRecord m = { m with externalName := (ids.foldl afterRecord m).externalName } := by
  induction ids generalizing m with
  | nil => rfl
  | cons id ids ih =>
    rw [List.foldl_cons, ih, afterRecord_frame m id]

/-- The register after a sequence of attempts: the name recorded before them, or else the
first non-empty identifier tried. -/
theorem recorded_foldl_afterRecord (m : ObjectMeta) (ids : List String) :
    (ids.foldl afterRecord m).recorded = m.recorded.or (ids.find? (!·.isEmpty)) := by
  induction ids generalizing m with
  | nil => simp
  | cons id ids ih =>
    rw [List.foldl_cons, ih, recorded_afterRecord, Option.or_assoc]
    by_cases h : id = "" <;> simp [h]

/-- The external name is a write-once register. Before each attempt of any sequence, the
identity is the starting one with only its external name changed, and the register holds
the name recorded at the start, or else the first non-empty identifier tried before. The
attempt is refused, naming both, exactly when another name is recorded, and then leaves
the identity as it was; otherwise it stores the identifier, which sets the register unless
it is empty. -/
theorem externalName_write_once (m : ObjectMeta) (tried : List String) (id : String) :
    let b := tried.foldl afterRecord m
    b = { m with externalName := b.externalName } ∧
    b.recorded = m.recorded.or (tried.find? (!·.isEmpty)) ∧
    (∀ x, b.recorded = some x → x ≠ id →
      b.recordExternalName id = .error ⟨x, id⟩ ∧ b.afterRecord id = b) ∧
    ((∀ x, b.recorded = some x → x = id) →
      b.recordExternalName id = .ok { b with externalName := some id } ∧
      (b.afterRecord id).recorded = if id = "" then none else some id) := by
  intro b
  refine ⟨foldl_afterRecord_frame m tried, recorded_foldl_afterRecord m tried, ?_, ?_⟩
  · intro x hx hne
    have herr := recordExternalName_of_conflict hx hne
    exact ⟨herr, by simp [afterRecord, herr]⟩
  · intro hagree
    have hok := recordExternalName_of_agrees hagree
    exact ⟨hok, by simp [afterRecord, hok]⟩

/-- Recording `vpc-1` twice and then `vpc-2` on a fresh identity: the third attempt is
refused, naming both, and `vpc-1` stays recorded. -/
theorem externalName_write_once_refuses_second :
    (["vpc-1", "vpc-1"].foldl afterRecord (namespaced "team-a" "web")).recordExternalName "vpc-2" =
      .error ⟨"vpc-1", "vpc-2"⟩ :=
  ((externalName_write_once (namespaced "team-a" "web") ["vpc-1", "vpc-1"] "vpc-2").2.2.1 "vpc-1"
    (by decide) (by decide)).1

end NetReconcile.Resource.ObjectMeta
