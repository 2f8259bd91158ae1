/-!
# Field rules: drift, late initialization and immutable fields

Each resource kind states its field rules as lists, one entry per field:

* a *comparison* says whether a desired field differs from the provider's record; a
  required field differs when the values differ, an optional field only when it is set
  and differs, so an unset optional field never drifts;
* an *adoption* fills an unset optional field from the record: a text is adopted only
  when the provider's text is not empty, any other value always;
* a *guard* says whether the desired value would change an immutable field of the
  observation.

Drift lists the fields that differ in comparison order, late initialization adopts in
order and lists what it adopted, and the immutability check reports the first guarded
field that would change.
-/

namespace NetReconcile.Resource

variable {P R O α : Type}

/-- One field compared by drift detection. -/
structure Comparison (P R : Type) where
  field : String
  differs : P → R → Bool

/-- A required field drifts when the desired and observed values differ. -/
def Comparison.required [BEq α] (field : String) (desired : P → α) (observed : R → α) :
    Comparison P R :=
  ⟨field, fun p r => desired p != observed r⟩

/-- An optional field drifts only when it is set and differs from the observed value. -/
def Comparison.optional [BEq α] (field : String) (desired : P → Option α) (observed : R → α) :
    Comparison P R :=
  ⟨field, fun p r => match desired p with
    | some d => d != observed r
    | none => false⟩

/-- The fields that drift, in comparison order. -/
def drift (cs : List (Comparison P R)) (p : P) (r : R) : List String :=
  (cs.filter fun c => c.differs p r).map (·.field)

/-- One optional field that may be filled from the provider's record. -/
structure Adoption (P R : Type) where
  field : String
  adopt : P → R → Option P

/-- A text field is filled when unset and the provider's text is not empty. -/
def Adoption.text (field : String) (get : P → Option String) (put : P → String → P)
    (observed : R → String) : Adoption P R :=
  ⟨field, fun p r => if (get p).isNone && observed r != "" then some (put p (observed r)) else none⟩

/-- A value field is filled whenever it is unset. -/
def Adoption.value (field : String) (get : P → Option α) (put : P → α → P)
    (observed : R → α) : Adoption P R :=
  ⟨field, fun p r => if (get p).isNone then some (put p (observed r)) else none⟩

/-- One adoption applied to the parameters so far, noting its field when it fires. -/
def adoptStep (r : R) (acc : P × List String) (a : Adoption P R) : P × List String :=
  match a.adopt acc.1 r with
  | some p' => (p', acc.2 ++ [a.field])
  | none => acc

/-- Late initialization: the adoptions applied in order, with the fields adopted. -/
def lateInit (as : List (Adoption P R)) (p : P) (r : R) : P × List String :=
  as.foldl (adoptStep r) (p, [])

/-- A guard on an immutable field. -/
structure Guard (P O : Type) where
  field : String
  changed : P → O → Bool

/-- A required immutable field changes when the values differ. -/
def Guard.required [BEq α] (field : String) (desired : P → α) (observed : O → α) : Guard P O :=
  ⟨field, fun p o => desired p != observed o⟩

/-- An optional immutable field changes only when it is set and differs. -/
def Guard.optional [BEq α] (field : String) (desired : P → Option α) (observed : O → α) :
    Guard P O :=
  ⟨field, fun p o => match desired p with
    | some d => d != observed o
    | none => false⟩

/-- The first guarded field that the desired parameters would change. -/
def firstChanged (gs : List (Guard P O)) (p : P) (o : O) : Option String :=
  (gs.find? fun g => g.changed p o).map (·.field)

end NetReconcile.Resource
