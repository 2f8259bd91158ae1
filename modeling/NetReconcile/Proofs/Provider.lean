import NetReconcile.Engine.Provider

/-!
# Laws of the in-memory provider

What each call does to the provider, said once so that no later proof opens the
provider's definitions. Every call is appended to the log whatever happens. Without a
queued failure a lookup answers from the records, a create stores the new record under
the next identifier, an update rewrites the record in place and a delete removes it;
a queued failure is used up by the call and changes nothing else.

Records are looked up by `find?`, which sees the first entry under an identifier: a
record just stored is what a lookup finds, and storing or removing under one identifier
leaves every other identifier's record as it was.
-/

namespace NetReconcile.Engine

open Resource

variable {ρ : Type}

/-- Putting a record under an identifier decides what a lookup of that identifier sees,
and no other. -/
theorem find?_putRecord (id j : String) (r : ρ) (l : List (String × ρ)) :
    ((putRecord id r l).find? (·.1 == j)).map (·.2) =
      if id = j then some r else (l.find? (·.1 == j)).map (·.2) := by
  induction l with
  | nil => by_cases h : id = j <;> simp [putRecord, h]
  | cons e rest ih =>
    obtain ⟨i, s⟩ := e
    by_cases hi : id = i
    · subst hi
      by_cases h : id = j <;> simp [putRecord, h]
    · by_cases hlt : id < i
      · by_cases h : id = j
        · subst h
          simp [putRecord, hi, hlt]
        · simp [putRecord, hi, hlt, h]
      · by_cases hij : i = j
        · subst hij
          simp [putRecord, hi, hlt]
        · simpa [putRecord, hi, hlt, hij] using ih

namespace Provider

variable {k : Kind} (p : Provider k)

/-! ## Records -/

@[simp] theorem find?_insert_self (id : String) (r : k.Rec) : (p.insert id r).find? id = some r := by
  simp [find?, insert, find?_putRecord]

@[simp] theorem insert_calls (id : String) (r : k.Rec) : (p.insert id r).calls = p.calls := rfl

@[simp] theorem insert_failures (id : String) (r : k.Rec) : (p.insert id r).failures = p.failures := rfl

theorem find?_insert_of_ne {id j : String} (r : k.Rec) (h : id ≠ j) :
    (p.insert id r).find? j = p.find? j := by
  simp [find?, insert, find?_putRecord, h]

@[simp] theorem remove_snd (id : String) : (p.remove id).2 = (p.find? id).isSome := rfl

@[simp] theorem find?_remove_self (id : String) : (p.remove id).1.find? id = none := by
  simp [find?, remove, List.find?_filter]

theorem find?_remove_of_ne {id j : String} (h : id ≠ j) : (p.remove id).1.find? j = p.find? j := by
  have hfilter : (p.records.filter (·.1 != id)).find? (·.1 == j) = p.records.find? (·.1 == j) := by
    rw [List.find?_filter]
    congr 1
    funext e
    by_cases hj : e.1 = j
    · simp [hj, Ne.symm h]
    · simp [hj]
  simp [find?, remove, hfilter]

/-- A lookup sees only the records, so one in a provider with other fields changed
is the original's lookup. -/
@[simp] theorem find?_mk_records (cs : List Call) (fs gs : List String) (n : UInt64) (id : String) :
    (⟨p.records, cs, fs, gs, n⟩ : Provider k).find? id = p.find? id := rfl

/-! ## The log and the failure queue -/

@[simp] theorem get_calls (id : String) : (p.get id).1.calls = p.calls ++ [.get id] := by
  cases hf : p.failures <;> cases hr : p.find? id <;> simp [get, receive, hf, hr]

@[simp] theorem get_failures (id : String) : (p.get id).1.failures = p.failures.tail := by
  cases hf : p.failures <;> cases hr : p.find? id <;> simp [get, receive, hf, hr]

@[simp] theorem get_find? (id j : String) : (p.get id).1.find? j = p.find? j := by
  cases hf : p.failures <;> cases hr : p.find? id <;> simp [get, receive, hf, hr]

@[simp] theorem create_calls (o : k.CreateOpts) : (p.create o).1.calls = p.calls ++ [.create] := by
  cases hf : p.failures <;> simp [create, receive, hf, insert]

@[simp] theorem create_failures (o : k.CreateOpts) : (p.create o).1.failures = p.failures.tail := by
  cases hf : p.failures <;> simp [create, receive, hf, insert]

@[simp] theorem update_calls (l : Locator) (o : k.UpdateOpts) :
    (p.update l o).1.calls = p.calls ++ [.update l] := by
  cases hf : p.failures <;> cases hr : p.find? l.id <;> simp [update, receive, modify, hf, hr, insert]

@[simp] theorem update_failures (l : Locator) (o : k.UpdateOpts) :
    (p.update l o).1.failures = p.failures.tail := by
  cases hf : p.failures <;> cases hr : p.find? l.id <;> simp [update, receive, modify, hf, hr, insert]

@[simp] theorem delete_calls (l : Locator) : (p.delete l).1.calls = p.calls ++ [.delete l] := by
  cases hf : p.failures <;> cases hr : p.find? l.id <;> simp [delete, receive, remove, hf, hr]

@[simp] theorem delete_failures (l : Locator) : (p.delete l).1.failures = p.failures.tail := by
  cases hf : p.failures <;> cases hr : p.find? l.id <;> simp [delete, receive, remove, hf, hr]

/-! ## Answers when no failure is queued -/

/-- A lookup answers a record exactly when no failure is queued and the record is
there. -/
theorem get_snd_eq_ok_iff (id : String) {r : k.Rec} :
    (p.get id).2 = .ok r ↔ p.failures = [] ∧ p.find? id = some r := by
  cases hf : p.failures <;> cases hr : p.find? id <;> simp [get, receive, hf, hr]

/-- An accepted update had no failure queued and a record to change. -/
theorem update_snd_eq_ok {l : Locator} {o : k.UpdateOpts} (h : (p.update l o).2 = .ok ()) :
    p.failures = [] ∧ ∃ r, p.find? l.id = some r := by
  cases hf : p.failures <;> cases hr : p.find? l.id <;>
    simp_all [update, receive, modify]

/-- Identifiers of created records are never empty. -/
theorem idFor_ne_empty (n : UInt64) : @idFor k n ≠ "" := by
  intro h
  have := congrArg String.length h
  simp [idFor] at this

section Healthy

variable {p}

/-- Without a queued failure a lookup answers from the records. -/
theorem get_snd_of_failures_nil (id : String) (h : p.failures = []) :
    (p.get id).2 = match p.find? id with
      | some r => .ok r
      | none => .error .notFound := by
  cases hr : p.find? id <;> simp [get, receive, h, hr]

/-- Without a queued failure a create stores the record made from the request under
the next identifier, and answers it. -/
theorem create_of_failures_nil (o : k.CreateOpts) (h : p.failures = []) :
    p.create o =
      ({ ({ p with calls := p.calls ++ [.create] } : Provider k).insert (@idFor k (p.created + 1))
          (k.simulateCreate (@idFor k (p.created + 1)) o) with created := p.created + 1 },
        .ok (k.simulateCreate (@idFor k (p.created + 1)) o)) := by
  simp [create, receive, h]

/-- Without a queued failure a created record is found under its new identifier. -/
theorem find?_create_self (o : k.CreateOpts) (h : p.failures = []) :
    (p.create o).1.find? (@idFor k (p.created + 1)) =
      some (k.simulateCreate (@idFor k (p.created + 1)) o) := by
  rw [create_of_failures_nil o h]
  exact find?_insert_self _ _ _

/-- Without a queued failure an update of a stored record rewrites it in place. -/
theorem update_of_find? (l : Locator) (o : k.UpdateOpts) {r : k.Rec} (h : p.failures = [])
    (hr : p.find? l.id = some r) :
    p.update l o =
      (({ p with calls := p.calls ++ [.update l] } : Provider k).insert l.id (k.simulateUpdate r o),
        .ok ()) := by
  simp [update, receive, modify, h, hr]

/-- Without a queued failure a delete removes the record, answering whether there was
one. -/
theorem delete_of_failures_nil (l : Locator) (h : p.failures = []) :
    p.delete l =
      ((({ p with calls := p.calls ++ [.delete l] } : Provider k).remove l.id).1,
        if (p.find? l.id).isSome then .ok () else .error .notFound) := by
  cases hr : p.find? l.id <;> simp [delete, receive, remove, h, hr]

/-- Without a queued failure no record is left under a deleted identifier. -/
theorem find?_delete_self (l : Locator) (h : p.failures = []) : (p.delete l).1.find? l.id = none := by
  rw [delete_of_failures_nil l h]
  exact find?_remove_self _ l.id

end Healthy

@[simp] theorem client_calls (region : String) : (p.client region).calls = p.calls := rfl

@[simp] theorem client_records (region : String) : (p.client region).records = p.records := rfl

@[simp] theorem client_failures (region : String) : (p.client region).failures = p.failures := rfl

@[simp] theorem client_created (region : String) : (p.client region).created = p.created := rfl

@[simp] theorem client_find? (region id : String) : (p.client region).find? id = p.find? id := rfl

end Provider

end NetReconcile.Engine
