import NetReconcile.Resource.Rules

/-!
# Laws of the field rules

Drift, late initialization and the immutability check are folds over a kind's lists of
field rules. Their laws here are stated once for any lists:

* drift is empty exactly when no comparison differs, and late initialization keeps the
  drift verdict when no adoption changes what a comparison sees;
* late initialization reports nothing exactly when no adoption fires, and then changes
  nothing; it keeps every property that each firing adoption keeps, and moves the
  parameters along every preorder that each firing moves them along;
* once every adoption is settled (would not fire), late initialization is the identity,
  and it settles every adoption that settles itself and that the others never unsettle;
  then it changes the parameters exactly when it reports a field;
* the immutability check passes exactly when no guard sees a change.

The kinds' own laws are then checks of these conditions, one field rule at a time.
-/

namespace NetReconcile.Resource

variable {P R O α : Type}

/-! ## Drift -/

theorem drift_eq_nil_iff (cs : List (Comparison P R)) (p : P) (r : R) :
    drift cs p r = [] ↔ ∀ c ∈ cs, c.differs p r = false := by
  simp [drift, List.filter_eq_nil_iff]

/-- Drift depends only on what each comparison sees. -/
theorem drift_congr {cs : List (Comparison P R)} {p p' : P} {r : R}
    (h : ∀ c ∈ cs, c.differs p' r = c.differs p r) : drift cs p' r = drift cs p r := by
  unfold drift
  rw [List.filter_congr h]

@[simp] theorem Comparison.required_differs [BEq α] (field : String) (des : P → α) (obs : R → α) (p : P)
    (r : R) : (Comparison.required field des obs).differs p r = (des p != obs r) := rfl

theorem Comparison.optional_differs [BEq α] (field : String) (des : P → Option α) (obs : R → α)
    (p : P) (r : R) : (Comparison.optional field des obs).differs p r =
      match des p with
      | some d => d != obs r
      | none => false := rfl

/-- An optional field does not drift when it is unset or set to what the record holds. -/
@[simp] theorem Comparison.optional_differs_eq_false_iff [BEq α] [LawfulBEq α] {field : String}
    {des : P → Option α} {obs : R → α} {p : P} {r : R} :
    (Comparison.optional field des obs).differs p r = false ↔ ∀ d, des p = some d → d = obs r := by
  rw [Comparison.optional_differs]
  cases des p <;> simp

/-! ## Late initialization -/

@[simp] theorem Adoption.text_adopt (field : String) (get : P → Option String) (put : P → String → P)
    (obs : R → String) (p : P) (r : R) : (Adoption.text field get put obs).adopt p r =
      if (get p).isNone && obs r != "" then some (put p (obs r)) else none := rfl

@[simp] theorem Adoption.value_adopt (field : String) (get : P → Option α) (put : P → α → P)
    (obs : R → α) (p : P) (r : R) : (Adoption.value field get put obs).adopt p r =
      if (get p).isNone then some (put p (obs r)) else none := rfl

/-- A text adoption fires exactly on an unset field and a non-empty provider text. -/
theorem Adoption.text_adopt_eq_some {field : String} {get : P → Option String}
    {put : P → String → P} {obs : R → String} {p : P} {r : R} {p' : P} :
    (Adoption.text field get put obs).adopt p r = some p' ↔
      get p = none ∧ obs r ≠ "" ∧ put p (obs r) = p' := by
  simp [and_assoc]

/-- A value adoption fires exactly on an unset field. -/
theorem Adoption.value_adopt_eq_some {field : String} {get : P → Option α} {put : P → α → P}
    {obs : R → α} {p : P} {r : R} {p' : P} :
    (Adoption.value field get put obs).adopt p r = some p' ↔ get p = none ∧ put p (obs r) = p' := by
  simp

/-- Late initialization from a list of fields already reported: the report only grows. -/
private theorem foldl_adoptStep (as : List (Adoption P R)) (r : R) (p : P) (acc : List String) :
    as.foldl (adoptStep r) (p, acc) = ((lateInit as p r).1, acc ++ (lateInit as p r).2) := by
  unfold lateInit
  induction as generalizing p acc with
  | nil => simp
  | cons a rest ih =>
    simp only [List.foldl_cons, adoptStep]
    cases a.adopt p r with
    | none => exact ih p acc
    | some p' =>
      simp only [List.nil_append]
      rw [ih p' (acc ++ [a.field]), ih p' [a.field]]
      simp

@[simp] theorem lateInit_nil (p : P) (r : R) : lateInit ([] : List (Adoption P R)) p r = (p, []) := rfl

/-- Late initialization runs the first adoption, then the rest on what it gave. -/
theorem lateInit_cons (a : Adoption P R) (as : List (Adoption P R)) (p : P) (r : R) :
    lateInit (a :: as) p r = match a.adopt p r with
      | some p' => ((lateInit as p' r).1, a.field :: (lateInit as p' r).2)
      | none => lateInit as p r := by
  conv => lhs; unfold lateInit
  simp only [List.foldl_cons, adoptStep, List.nil_append]
  cases a.adopt p r with
  | none => simpa using foldl_adoptStep as r p []
  | some p' => simpa using foldl_adoptStep as r p' [a.field]

/-- Whatever each firing adoption keeps, late initialization keeps. -/
theorem lateInit_induct (Inv : P → Prop) {as : List (Adoption P R)} {r : R}
    (h : ∀ a ∈ as, ∀ p p', a.adopt p r = some p' → Inv p → Inv p') {p : P} (hp : Inv p) :
    Inv (lateInit as p r).1 := by
  induction as generalizing p with
  | nil => exact hp
  | cons a rest ih =>
    have hrest : ∀ b ∈ rest, ∀ q q', b.adopt q r = some q' → Inv q → Inv q' :=
      fun b hb => h b (List.mem_cons_of_mem a hb)
    rw [lateInit_cons]
    cases ha : a.adopt p r with
    | none => exact ih hrest hp
    | some p' => exact ih hrest (h a List.mem_cons_self p p' ha hp)

/-- A value that no firing adoption changes is the same after late initialization. -/
theorem lateInit_invariant {β : Type} (f : P → β) {as : List (Adoption P R)} {r : R}
    (h : ∀ a ∈ as, ∀ p p', a.adopt p r = some p' → f p' = f p) (p : P) :
    f (lateInit as p r).1 = f p :=
  lateInit_induct (fun q => f q = f p) (fun a ha q q' hq hi => (h a ha q q' hq).trans hi) rfl

/-- Nothing is reported exactly when no adoption fires. -/
theorem lateInit_snd_eq_nil_iff (as : List (Adoption P R)) (p : P) (r : R) :
    (lateInit as p r).2 = [] ↔ ∀ a ∈ as, a.adopt p r = none := by
  induction as with
  | nil => simp
  | cons a rest ih =>
    rw [lateInit_cons]
    cases ha : a.adopt p r with
    | none => simp [ih, ha]
    | some p' => simp [ha]

/-- When no adoption fires, late initialization changes nothing. -/
theorem lateInit_of_settled {as : List (Adoption P R)} {p : P} {r : R}
    (h : ∀ a ∈ as, a.adopt p r = none) : lateInit as p r = (p, []) := by
  induction as with
  | nil => rfl
  | cons a rest ih =>
    rw [lateInit_cons, h a List.mem_cons_self]
    exact ih fun b hb => h b (List.mem_cons_of_mem a hb)

/-- An adoption settles itself when, once it has fired, it would not fire again. -/
def Adoption.SettlesItself (a : Adoption P R) : Prop :=
  ∀ p r p', a.adopt p r = some p' → a.adopt p' r = none

/-- An adoption `b` leaves `a` settled when firing `b` never makes `a` fire again. -/
def Adoption.KeepsSettled (b a : Adoption P R) : Prop :=
  ∀ p r p', b.adopt p r = some p' → a.adopt p r = none → a.adopt p' r = none

/-- Late initialization settles every adoption that settles itself and that no other
one unsettles, so running it again changes nothing. -/
theorem lateInit_settles {as : List (Adoption P R)} (hself : ∀ a ∈ as, a.SettlesItself)
    (hkeep : ∀ a ∈ as, ∀ b ∈ as, b.KeepsSettled a) (p : P) (r : R) :
    ∀ a ∈ as, a.adopt (lateInit as p r).1 r = none := by
  induction as generalizing p with
  | nil => simp
  | cons a rest ih =>
    have ih' := ih (fun b hb => hself b (List.mem_cons_of_mem a hb))
      (fun b hb c hc => hkeep b (List.mem_cons_of_mem a hb) c (List.mem_cons_of_mem a hc))
    have hsettled : ∀ q, a.adopt q r = none → a.adopt (lateInit rest q r).1 r = none := fun q hq =>
      lateInit_induct (fun q => a.adopt q r = none)
        (fun b hb q q' hq' hi => hkeep a List.mem_cons_self b (List.mem_cons_of_mem a hb) q r q' hq' hi)
        hq
    rw [lateInit_cons]
    intro b hb
    cases ha : a.adopt p r with
    | none =>
      rcases List.mem_cons.mp hb with rfl | hb
      · exact hsettled p ha
      · exact ih' p b hb
    | some p' =>
      rcases List.mem_cons.mp hb with rfl | hb
      · exact hsettled p' (hself b List.mem_cons_self p r p' ha)
      · exact ih' p' b hb

/-- Late initialization is idempotent when every adoption settles itself and none
unsettles another. -/
theorem lateInit_lateInit {as : List (Adoption P R)} (hself : ∀ a ∈ as, a.SettlesItself)
    (hkeep : ∀ a ∈ as, ∀ b ∈ as, b.KeepsSettled a) (p : P) (r : R) :
    lateInit as (lateInit as p r).1 r = ((lateInit as p r).1, []) :=
  lateInit_of_settled (lateInit_settles hself hkeep p r)

/-- An adoption keeps a comparison's verdict when firing it never changes whether that
comparison sees a difference. -/
def Adoption.KeepsVerdict (a : Adoption P R) (c : Comparison P R) : Prop :=
  ∀ p r p', a.adopt p r = some p' → c.differs p' r = c.differs p r

/-- Late initialization keeps the drift verdict when every adoption keeps every
comparison's verdict. -/
theorem drift_lateInit {as : List (Adoption P R)} {cs : List (Comparison P R)}
    (h : ∀ a ∈ as, ∀ c ∈ cs, a.KeepsVerdict c) (p : P) (r : R) :
    drift cs (lateInit as p r).1 r = drift cs p r :=
  lateInit_invariant (fun q => drift cs q r)
    (fun a ha q q' hq => drift_congr fun c hc => h a ha c hc q r q' hq) p

/-- An adoption preserves a value of the parameters when firing it never changes it. -/
def Adoption.Preserves {β : Type} (a : Adoption P R) (f : P → β) : Prop :=
  ∀ p r p', a.adopt p r = some p' → f p' = f p

/-- Late initialization keeps every value that each adoption preserves. -/
theorem lateInit_preserves {β : Type} {as : List (Adoption P R)} {f : P → β}
    (h : ∀ a ∈ as, a.Preserves f) (p : P) (r : R) : f (lateInit as p r).1 = f p :=
  lateInit_invariant f (fun a ha q q' hq => h a ha q r q' hq) p

/-- When every adoption settles itself and none unsettles another, late initialization
changes the parameters exactly when it reports a field. -/
theorem lateInit_fst_eq_self_iff {as : List (Adoption P R)} (hself : ∀ a ∈ as, a.SettlesItself)
    (hkeep : ∀ a ∈ as, ∀ b ∈ as, b.KeepsSettled a) (p : P) (r : R) :
    (lateInit as p r).1 = p ↔ (lateInit as p r).2 = [] := by
  constructor
  · intro h
    have hsettled := lateInit_settles hself hkeep p r
    rw [h] at hsettled
    exact (lateInit_snd_eq_nil_iff as p r).mpr hsettled
  · intro h
    rw [lateInit_of_settled ((lateInit_snd_eq_nil_iff as p r).mp h)]

/-- An adoption moves parameters along a relation when each firing goes from `p` to a
`p'` related to it. -/
def Adoption.Respects (a : Adoption P R) (rel : P → P → Prop) : Prop :=
  ∀ p r p', a.adopt p r = some p' → rel p p'

/-- Late initialization moves parameters along every reflexive and transitive relation
that each adoption moves them along. -/
theorem lateInit_respects {as : List (Adoption P R)} (rel : P → P → Prop) (hrefl : ∀ p, rel p p)
    (htrans : ∀ p q s, rel p q → rel q s → rel p s) (h : ∀ a ∈ as, a.Respects rel) (p : P) (r : R) :
    rel p (lateInit as p r).1 :=
  lateInit_induct (rel p) (fun a ha q q' hq hpq => htrans _ _ _ hpq (h a ha q r q' hq)) (hrefl p)

/-! ### The conditions for the two kinds of adoption

Each condition above quantifies over every firing of an adoption; for a text or a value
adoption that is one firing per unset field, whose result is known. -/

section Firing

variable {β : Type} {field : String} {put : P → α → P} {obs : R → α}

@[simp] theorem Adoption.keepsVerdict_text {get : P → Option String} {put : P → String → P}
    {obs : R → String} {c : Comparison P R} :
    (Adoption.text field get put obs).KeepsVerdict c ↔
      ∀ p r, get p = none → obs r ≠ "" → c.differs (put p (obs r)) r = c.differs p r := by
  simp only [Adoption.KeepsVerdict, Adoption.text_adopt_eq_some]
  constructor
  · intro h p r hg ho
    exact h p r _ ⟨hg, ho, rfl⟩
  · rintro h p r p' ⟨hg, ho, rfl⟩
    exact h p r hg ho

@[simp] theorem Adoption.keepsVerdict_value {get : P → Option α} {c : Comparison P R} :
    (Adoption.value field get put obs).KeepsVerdict c ↔
      ∀ p r, get p = none → c.differs (put p (obs r)) r = c.differs p r := by
  simp only [Adoption.KeepsVerdict, Adoption.value_adopt_eq_some]
  constructor
  · intro h p r hg
    exact h p r _ ⟨hg, rfl⟩
  · rintro h p r p' ⟨hg, rfl⟩
    exact h p r hg

@[simp] theorem Adoption.settlesItself_text {get : P → Option String} {put : P → String → P}
    {obs : R → String} :
    (Adoption.text field get put obs).SettlesItself ↔
      ∀ p r, get p = none → obs r ≠ "" → get (put p (obs r)) ≠ none := by
  simp only [Adoption.SettlesItself, Adoption.text_adopt_eq_some]
  constructor
  · intro h p r hg ho
    simpa [Option.isNone_iff_eq_none, ho] using h p r _ ⟨hg, ho, rfl⟩
  · rintro h p r p' ⟨hg, ho, rfl⟩
    simp [h p r hg ho]

@[simp] theorem Adoption.settlesItself_value {get : P → Option α} :
    (Adoption.value field get put obs).SettlesItself ↔
      ∀ p r, get p = none → get (put p (obs r)) ≠ none := by
  simp only [Adoption.SettlesItself, Adoption.value_adopt_eq_some]
  constructor
  · intro h p r hg
    simpa [Option.isNone_iff_eq_none] using h p r _ ⟨hg, rfl⟩
  · rintro h p r p' ⟨hg, rfl⟩
    simp [h p r hg]

@[simp] theorem Adoption.keepsSettled_text {get : P → Option String} {put : P → String → P}
    {obs : R → String} {a : Adoption P R} :
    (Adoption.text field get put obs).KeepsSettled a ↔
      ∀ p r, get p = none → obs r ≠ "" → a.adopt p r = none → a.adopt (put p (obs r)) r = none := by
  simp only [Adoption.KeepsSettled, Adoption.text_adopt_eq_some]
  constructor
  · intro h p r hg ho
    exact h p r _ ⟨hg, ho, rfl⟩
  · rintro h p r p' ⟨hg, ho, rfl⟩
    exact h p r hg ho

@[simp] theorem Adoption.keepsSettled_value {get : P → Option α} {a : Adoption P R} :
    (Adoption.value field get put obs).KeepsSettled a ↔
      ∀ p r, get p = none → a.adopt p r = none → a.adopt (put p (obs r)) r = none := by
  simp only [Adoption.KeepsSettled, Adoption.value_adopt_eq_some]
  constructor
  · intro h p r hg
    exact h p r _ ⟨hg, rfl⟩
  · rintro h p r p' ⟨hg, rfl⟩
    exact h p r hg

@[simp] theorem Adoption.preserves_text {get : P → Option String} {put : P → String → P}
    {obs : R → String} {f : P → β} :
    (Adoption.text field get put obs).Preserves f ↔
      ∀ p r, get p = none → obs r ≠ "" → f (put p (obs r)) = f p := by
  simp only [Adoption.Preserves, Adoption.text_adopt_eq_some]
  constructor
  · intro h p r hg ho
    exact h p r _ ⟨hg, ho, rfl⟩
  · rintro h p r p' ⟨hg, ho, rfl⟩
    exact h p r hg ho

@[simp] theorem Adoption.preserves_value {get : P → Option α} {f : P → β} :
    (Adoption.value field get put obs).Preserves f ↔
      ∀ p r, get p = none → f (put p (obs r)) = f p := by
  simp only [Adoption.Preserves, Adoption.value_adopt_eq_some]
  constructor
  · intro h p r hg
    exact h p r _ ⟨hg, rfl⟩
  · rintro h p r p' ⟨hg, rfl⟩
    exact h p r hg

@[simp] theorem Adoption.respects_text {get : P → Option String} {put : P → String → P}
    {obs : R → String} {rel : P → P → Prop} :
    (Adoption.text field get put obs).Respects rel ↔
      ∀ p r, get p = none → obs r ≠ "" → rel p (put p (obs r)) := by
  simp only [Adoption.Respects, Adoption.text_adopt_eq_some]
  constructor
  · intro h p r hg ho
    exact h p r _ ⟨hg, ho, rfl⟩
  · rintro h p r p' ⟨hg, ho, rfl⟩
    exact h p r hg ho

@[simp] theorem Adoption.respects_value {get : P → Option α} {rel : P → P → Prop} :
    (Adoption.value field get put obs).Respects rel ↔ ∀ p r, get p = none → rel p (put p (obs r)) := by
  simp only [Adoption.Respects, Adoption.value_adopt_eq_some]
  constructor
  · intro h p r hg
    exact h p r _ ⟨hg, rfl⟩
  · rintro h p r p' ⟨hg, rfl⟩
    exact h p r hg

end Firing

/-! ## Immutable fields -/

@[simp] theorem Guard.required_changed [BEq α] (field : String) (des : P → α) (obs : O → α) (p : P)
    (o : O) : (Guard.required field des obs).changed p o = (des p != obs o) := rfl

/-- An optional immutable field is unchanged when it is unset or set to what is observed. -/
@[simp] theorem Guard.optional_changed_eq_false_iff [BEq α] [LawfulBEq α] {field : String}
    {des : P → Option α} {obs : O → α} {p : P} {o : O} :
    (Guard.optional field des obs).changed p o = false ↔ ∀ d, des p = some d → d = obs o := by
  simp only [Guard.optional]
  cases des p <;> simp

theorem firstChanged_eq_none_iff (gs : List (Guard P O)) (p : P) (o : O) :
    firstChanged gs p o = none ↔ ∀ g ∈ gs, g.changed p o = false := by
  simp [firstChanged]

end NetReconcile.Resource
