import NetReconcile.Engine.Lifecycle
import NetReconcile.Proofs.Provider

/-!
# Laws of the four lifecycle steps

Each step of a resource's lifecycle is described here by what it asks the provider and
what it writes into the resource, so that the cycle's proofs cite these lemmas and never
open the steps.

* Observing asks for the record under the recorded name, and nothing when none is
  recorded. A record found goes into the status and fills unset parameters; anything
  else leaves the resource as it was.
* Creating sends one create request and records the new identifier, which cannot
  conflict when no name was recorded before.
* Updating sends at most one update, to the recorded name.
* Deleting sends at most one delete, to the recorded name, and a record already gone is
  no error.

No step but creating touches the resource's identity.
-/

namespace NetReconcile.Resource

open Engine

namespace ObjectMeta

/-- With no name recorded, recording one always succeeds. -/
theorem recordExternalName_of_recorded_none {m : ObjectMeta} (id : String) (h : m.recorded = none) :
    m.recordExternalName id = .ok { m with externalName := some id } := by
  simp [recordExternalName, h]

end ObjectMeta

namespace Managed

variable {k : Kind} (m : Managed k) (p : Provider k)

@[simp] theorem setCondition_metadata (c : Condition) : (m.setCondition c).metadata = m.metadata := rfl

@[simp] theorem setCondition_spec (c : Condition) : (m.setCondition c).spec = m.spec := rfl

@[simp] theorem setCondition_configRef (c : Condition) : (m.setCondition c).configRef = m.configRef :=
  rfl

@[simp] theorem setCondition_externalName (c : Condition) :
    (m.setCondition c).externalName = m.externalName := rfl

@[simp] theorem setCondition_condition (c : Condition) : (m.setCondition c).condition = some c := rfl

@[simp] theorem locator_setCondition (c : Condition) (x : String) :
    (m.setCondition c).locator x = m.locator x := rfl

/-! ## Observing -/

/-- A resource after a record was observed: the record's observation and condition are
in its status, and its parameters are late-initialized from the record. -/
def observed (r : k.Rec) : Managed k :=
  { m with spec := (k.lateInit m.spec r).1,
           status := { m.status with atProvider := k.observe r, condition := some (k.condition r) } }

@[simp] theorem observed_metadata (r : k.Rec) : (m.observed r).metadata = m.metadata := rfl

@[simp] theorem observed_configRef (r : k.Rec) : (m.observed r).configRef = m.configRef := rfl

@[simp] theorem observed_externalName (r : k.Rec) : (m.observed r).externalName = m.externalName := rfl

@[simp] theorem observed_spec (r : k.Rec) : (m.observed r).spec = (k.lateInit m.spec r).1 := rfl

@[simp] theorem observed_atProvider (r : k.Rec) : (m.observed r).status.atProvider = k.observe r := rfl

variable {m p}

theorem observe_of_externalName_none (h : m.externalName = none) : m.observe p = (p, m, .ok .missing) := by
  simp [observe, h]

/-- A record found is observed: its observation and condition go into the status, the
parameters are late-initialized from it, and drift is judged on the adopted
parameters. -/
theorem observe_of_get_ok {x : String} {r : k.Rec} (hx : m.externalName = some x)
    (hg : (p.get x).2 = .ok r) :
    m.observe p = ((p.get x).1, m.observed r,
      .ok ⟨true, (k.drift (k.lateInit m.spec r).1 r).isEmpty, !(k.lateInit m.spec r).2.isEmpty⟩) := by
  rcases hget : p.get x with ⟨q, a⟩
  rw [hget] at hg
  subst hg
  simp [observe, observed, hx, hget]

/-- A record the provider does not know is no error, and changes nothing. -/
theorem observe_of_get_notFound {x : String} (hx : m.externalName = some x)
    (hg : (p.get x).2 = .error .notFound) : m.observe p = ((p.get x).1, m, .ok .missing) := by
  rcases hget : p.get x with ⟨q, a⟩
  rw [hget] at hg
  subst hg
  simp [observe, hx, hget]

/-- Any other failure of the lookup is an error of observing, and changes nothing. -/
theorem observe_of_get_api {x msg : String} (hx : m.externalName = some x)
    (hg : (p.get x).2 = .error (.api msg)) :
    m.observe p = ((p.get x).1, m, .error (.provider .observe k.tag (.api msg))) := by
  rcases hget : p.get x with ⟨q, a⟩
  rw [hget] at hg
  subst hg
  simp [observe, hx, hget]

/-- Every outcome of observing: nothing asked, or one lookup of the recorded name whose
answer decides the rest. -/
theorem observe_cases (m : Managed k) (p : Provider k) :
    (m.externalName = none ∧ m.observe p = (p, m, .ok .missing)) ∨
    ∃ x, m.externalName = some x ∧
      ((∃ r, (p.get x).2 = .ok r ∧ m.observe p = ((p.get x).1, m.observed r,
        .ok ⟨true, (k.drift (k.lateInit m.spec r).1 r).isEmpty, !(k.lateInit m.spec r).2.isEmpty⟩)) ∨
       (m.observe p).2.1 = m ∧ (m.observe p).1 = (p.get x).1 ∧
         ((m.observe p).2.2 = .ok .missing ∨ ∃ e, (m.observe p).2.2 = .error e)) := by
  rcases hx : m.externalName with _ | x
  · exact Or.inl ⟨rfl, observe_of_externalName_none hx⟩
  · refine Or.inr ⟨x, rfl, ?_⟩
    rcases hg : (p.get x).2 with e | r
    · cases e with
      | notFound =>
        rw [observe_of_get_notFound hx hg]
        exact Or.inr ⟨rfl, rfl, Or.inl rfl⟩
      | api msg =>
        rw [observe_of_get_api hx hg]
        exact Or.inr ⟨rfl, rfl, Or.inr ⟨_, rfl⟩⟩
    · exact Or.inl ⟨r, rfl, observe_of_get_ok hx hg⟩

variable (m p)

/-- Observing asks for the recorded name, and nothing else. -/
@[simp] theorem observe_calls :
    (m.observe p).1.calls = p.calls ++ (m.externalName.map Call.get).toList := by
  rcases observe_cases m p with ⟨hx, h⟩ | ⟨x, hx, ⟨r, -, h⟩ | ⟨-, h, -⟩⟩ <;> simp [hx, h]

@[simp] theorem observe_failures : (m.observe p).1.failures =
    if m.externalName.isSome then p.failures.tail else p.failures := by
  rcases observe_cases m p with ⟨hx, h⟩ | ⟨x, hx, ⟨r, -, h⟩ | ⟨-, h, -⟩⟩ <;> simp [hx, h]

@[simp] theorem observe_metadata : (m.observe p).2.1.metadata = m.metadata := by
  rcases observe_cases m p with ⟨-, h⟩ | ⟨x, -, ⟨r, -, h⟩ | ⟨h, -⟩⟩ <;> simp [h]

@[simp] theorem observe_configRef : (m.observe p).2.1.configRef = m.configRef := by
  rcases observe_cases m p with ⟨-, h⟩ | ⟨x, -, ⟨r, -, h⟩ | ⟨h, -⟩⟩ <;> simp [h]

@[simp] theorem observe_externalName : (m.observe p).2.1.externalName = m.externalName := by
  simp [externalName]

/-- What observing found tells which case it was in: a missing resource was left as it
was. -/
theorem observe_of_not_found {obs : Observation} (h : (m.observe p).2.2 = .ok obs)
    (hf : obs.found = false) : (m.observe p).2.1 = m := by
  rcases observe_cases m p with ⟨-, hm⟩ | ⟨x, -, ⟨r, -, hm⟩ | ⟨hm, -⟩⟩
  · simp [hm]
  · rw [hm] at h
    cases h
    cases hf
  · exact hm

/-- A resource found had a recorded name. -/
theorem externalName_of_found {obs : Observation} (h : (m.observe p).2.2 = .ok obs)
    (hf : obs.found = true) : ∃ x, m.externalName = some x := by
  rcases observe_cases m p with ⟨-, hm⟩ | ⟨x, hx, -⟩
  · rw [hm] at h
    cases h
    cases hf
  · exact ⟨x, hx⟩

/-! ## Creating -/

@[simp] theorem create_fst : (m.create p).1 = (p.create (k.createOpts m.spec)).1 := by
  unfold create
  rcases hc : p.create (k.createOpts m.spec) with ⟨q, _ | r⟩
  · simp [hc]
  · simp only [hc, setCondition_spec]
    split <;> rfl

/-- Creating never touches the parameters. -/
@[simp] theorem create_spec : (m.create p).2.1.spec = m.spec := by
  unfold create
  dsimp only
  split
  · rfl
  · split <;> rfl

variable {m p}

/-- A create that the provider answers records the new identifier over an unset name. -/
theorem create_of_ok {r : k.Rec} (hn : m.externalName = none)
    (hc : (p.create (k.createOpts m.spec)).2 = .ok r) :
    m.create p = ((p.create (k.createOpts m.spec)).1,
      { m.setCondition .creating with
          metadata := { m.metadata with externalName := some (k.remoteId r) },
          status := { (m.setCondition .creating).status with atProvider := k.observe r } },
      .ok (k.remoteId r)) := by
  rcases hcr : p.create (k.createOpts m.spec) with ⟨q, a⟩
  rw [hcr] at hc
  subst hc
  have hrec := ObjectMeta.recordExternalName_of_recorded_none (k.remoteId r) hn
  simp [create, hcr, hrec]

/-- A create that fails leaves the resource marked `Creating` and nothing recorded. -/
theorem create_of_error {e : ProviderError} (hc : (p.create (k.createOpts m.spec)).2 = .error e) :
    m.create p = ((p.create (k.createOpts m.spec)).1, m.setCondition .creating,
      .error (.provider .create k.tag e)) := by
  rcases hcr : p.create (k.createOpts m.spec) with ⟨q, a⟩
  rw [hcr] at hc
  subst hc
  simp [create, hcr]

/-- Creating over an unset name never refuses the new identifier. -/
theorem create_no_conflict (hn : m.externalName = none) (c : NameConflict) :
    (m.create p).2.2 ≠ .error (.externalName c) := by
  rcases hc : (p.create (k.createOpts m.spec)).2 with e | r
  · simp [create_of_error hc]
  · simp [create_of_ok hn hc]

/-! ## Updating -/

/-- An update that succeeded went through every check, and was one update request to
the recorded name that the provider accepted. -/
theorem update_of_ok (h : (m.update p).2 = .ok ()) :
    ∃ x o, m.externalName = some x ∧ k.checkImmutable m.spec m.status.atProvider = .ok () ∧
      k.updateOpts m.spec = some o ∧ (p.update (m.locator x) o).2 = .ok () ∧
      (m.update p).1 = (p.update (m.locator x) o).1 := by
  rcases hx : m.externalName with _ | x
  · simp [update, hx] at h
  · rcases hi : k.checkImmutable m.spec m.status.atProvider with e | u
    · simp [update, hx, hi] at h
    · rcases ho : k.updateOpts m.spec with _ | o
      · simp [update, hx, hi, Kind.updateRequest, ho] at h
      · rcases hu : p.update (m.locator x) o with ⟨q, a⟩
        rcases a with e | u'
        · simp [update, hx, hi, Kind.updateRequest, ho, hu] at h
        · exact ⟨x, o, rfl, rfl, rfl, by simp [hu], by simp [update, hx, hi, Kind.updateRequest, ho, hu]⟩

/-- An update that failed was refused for want of a recorded name, or, with one, by the
immutability check, by a kind that cannot be updated, or by the provider's answer to its
one request. -/
theorem update_of_error {err : LifecycleError} (h : (m.update p).2 = .error err) :
    (m.externalName = none ∧ err = .noExternalName k.tag) ∨
    ∃ x, m.externalName = some x ∧
      ((∃ f, k.changedImmutable m.spec m.status.atProvider = some f ∧ err = .immutableField k.tag f) ∨
       (k.changedImmutable m.spec m.status.atProvider = none ∧ k.updateOpts m.spec = none ∧
          err = .immutable k.tag) ∨
       ∃ o e, k.changedImmutable m.spec m.status.atProvider = none ∧ k.updateOpts m.spec = some o ∧
          (p.update (m.locator x) o).2 = .error e ∧ err = .provider .update k.tag e) := by
  rcases hx : m.externalName with _ | x
  · simp only [update, hx, Except.error.injEq] at h
    exact .inl ⟨rfl, h.symm⟩
  refine .inr ⟨x, rfl, ?_⟩
  rcases hf : k.changedImmutable m.spec m.status.atProvider with _ | f
  · rcases ho : k.updateOpts m.spec with _ | o
    · simp only [update, hx, Kind.checkImmutable, hf, Kind.updateRequest, ho, Except.error.injEq] at h
      exact .inr (.inl ⟨rfl, rfl, h.symm⟩)
    · rcases hu : p.update (m.locator x) o with ⟨q, e | u⟩
      · simp only [update, hx, Kind.checkImmutable, hf, Kind.updateRequest, ho, hu,
          Except.error.injEq] at h
        exact .inr (.inr ⟨o, e, rfl, rfl, by rw [hu], h.symm⟩)
      · simp [update, hx, Kind.checkImmutable, hf, Kind.updateRequest, ho, hu] at h
  · simp only [update, hx, Kind.checkImmutable, hf, Except.error.injEq] at h
    exact .inl ⟨f, rfl, h.symm⟩

variable (m p)

/-- Updating calls nothing, or sends one update to the recorded name. -/
theorem update_calls :
    (m.update p).1.calls = p.calls ∨
      ∃ x, m.externalName = some x ∧ (m.update p).1.calls = p.calls ++ [.update (m.locator x)] := by
  rcases hx : m.externalName with _ | x
  · simp [update, hx]
  · rcases hi : k.checkImmutable m.spec m.status.atProvider with e | u
    · simp [update, hx, hi]
    · rcases ho : k.updateRequest m.spec with e | o
      · simp [update, hx, hi, ho]
      · refine Or.inr ⟨x, rfl, ?_⟩
        have hc := Provider.update_calls p (m.locator x) o
        rcases hu : p.update (m.locator x) o with ⟨q, a⟩
        rw [hu] at hc
        rcases a with e | u'
        · simpa [update, hx, hi, ho, hu] using hc
        · simpa [update, hx, hi, ho, hu] using hc

@[simp] theorem update_failures_of_nil (h : p.failures = []) : (m.update p).1.failures = [] := by
  rcases hx : m.externalName with _ | x
  · simp [update, hx, h]
  · rcases hi : k.checkImmutable m.spec m.status.atProvider with e | u
    · simp [update, hx, hi, h]
    · rcases ho : k.updateRequest m.spec with e | o
      · simp [update, hx, hi, ho, h]
      · have hf := Provider.update_failures p (m.locator x) o
        rcases hu : p.update (m.locator x) o with ⟨q, a⟩
        rw [hu, h] at hf
        rcases a with e | u'
        · simpa [update, hx, hi, ho, hu] using hf
        · simpa [update, hx, hi, ho, hu] using hf

/-- Updating never refuses over the recorded name: that is creating's refusal alone. -/
theorem update_ne_externalName (c : NameConflict) : (m.update p).2 ≠ .error (.externalName c) := by
  rcases hx : m.externalName with _ | x
  · simp [update, hx]
  · rcases hf : k.changedImmutable m.spec m.status.atProvider with _ | f
    · rcases ho : k.updateOpts m.spec with _ | o
      · simp [update, hx, Kind.checkImmutable, hf, Kind.updateRequest, ho]
      · rcases hu : p.update (m.locator x) o with ⟨q, e | u⟩ <;>
          simp [update, hx, Kind.checkImmutable, hf, Kind.updateRequest, ho, hu]
    · simp [update, hx, Kind.checkImmutable, hf]

/-! ## Deleting -/

@[simp] theorem delete_managed : (m.delete p).2.1 = m.setCondition .deleting := by
  rcases hx : m.externalName with _ | x
  · simp [delete, hx]
  · rcases hd : p.delete (m.locator x) with ⟨q, e | u⟩
    · cases e <;> simp [delete, hx, hd]
    · simp [delete, hx, hd]

@[simp] theorem delete_fst :
    (m.delete p).1 = match m.externalName with
      | some x => (p.delete (m.locator x)).1
      | none => p := by
  rcases hx : m.externalName with _ | x
  · simp [delete, hx]
  · rcases hd : p.delete (m.locator x) with ⟨q, e | u⟩
    · cases e <;> simp [delete, hx, hd]
    · simp [delete, hx, hd]

/-- Deleting sends one delete to the recorded name, or nothing when none is recorded. -/
theorem delete_calls :
    (m.delete p).1.calls = p.calls ++ (m.externalName.map fun x => Call.delete (m.locator x)).toList := by
  rcases hx : m.externalName with _ | x <;> simp [hx]

/-- Deleting fails only with the provider's error. -/
theorem delete_ne_externalName (c : NameConflict) : (m.delete p).2.2 ≠ .error (.externalName c) := by
  rcases hx : m.externalName with _ | x
  · simp [delete, hx]
  · rcases hd : p.delete (m.locator x) with ⟨q, e | u⟩
    · cases e <;> simp [delete, hx, hd]
    · simp [delete, hx, hd]

variable {m p} in
/-- A delete that failed sent one delete to the recorded name, and the provider refused it
with an error other than not knowing the record. -/
theorem delete_of_error {err : LifecycleError} (h : (m.delete p).2.2 = .error err) :
    ∃ x msg, m.externalName = some x ∧ (p.delete (m.locator x)).2 = .error (.api msg) ∧
      err = .provider .delete k.tag (.api msg) := by
  rcases hx : m.externalName with _ | x
  · simp [delete, hx] at h
  · rcases hd : p.delete (m.locator x) with ⟨q, (_ | msg) | u⟩
    · simp [delete, hx, hd] at h
    · simp only [delete, setCondition_externalName, hx, locator_setCondition, hd,
        Except.error.injEq] at h
      exact ⟨x, msg, rfl, by rw [hd], h.symm⟩
    · simp [delete, hx, hd] at h

/-- Without a queued failure deleting succeeds, whether the record was there or not. -/
theorem delete_ok_of_failures_nil (h : p.failures = []) : (m.delete p).2.2 = .ok () := by
  rcases hx : m.externalName with _ | x
  · simp [delete, hx]
  · by_cases hr : (p.find? (m.locator x).id).isSome <;>
      simp [delete, hx, Provider.delete_of_failures_nil _ h, hr]

end Managed

end NetReconcile.Resource
