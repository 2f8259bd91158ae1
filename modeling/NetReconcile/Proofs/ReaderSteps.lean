import NetReconcile.Json.Record
import NetReconcile.Proofs.Utf8Order

/-!
# Reading step by step

A reading step is a computation over a cursor. Here it is described by what it does to the
bytes ahead: `Leads m m' bs rest` says that `m`, started before `bs ++ rest`, reads `bs` and
then goes on exactly as `m'` started before `rest`. The line and column of a cursor only
place faults, so the description leaves them open. Descriptions compose (`Leads.trans`),
carry over to what is bound after a step (`Leads.bind`), and a step that ends with a value
leads to `pure` of it.

The primitive steps are described here: looking at and reading one byte, stepping over
whitespace where there is none, reading a keyword, and the combinators that only matter
once something fails (`placed`, `attempt`).

What a step returns when it succeeds, from whatever input, is described apart:
`Yields m P` says that every value `m` returns satisfies `P`. Failures return nothing, so
they yield anything.
-/

namespace NetReconcile.Json

namespace Scan

/-- A reading step run from a cursor: its result and the cursor it leaves. -/
def exec (m : Scan α) (c : Cursor) : Except ReadError α × Cursor := m.run.run c

@[simp] theorem exec_pure (a : α) (c : Cursor) : exec (pure a : Scan α) c = (.ok a, c) := rfl

@[simp] theorem exec_get (c : Cursor) : exec (get : Scan Cursor) c = (.ok c, c) := rfl

@[simp] theorem exec_set (c c' : Cursor) : exec (set c' : Scan PUnit) c = (.ok ⟨⟩, c') := rfl

@[simp] theorem exec_modify (f : Cursor → Cursor) (c : Cursor) :
    exec (modify f : Scan PUnit) c = (.ok ⟨⟩, f c) := rfl

@[simp] theorem exec_throw (e : ReadError) (c : Cursor) :
    exec (throw e : Scan α) c = (.error e, c) :=
  rfl

theorem exec_bind (m : Scan α) (f : α → Scan β) (c : Cursor) :
    exec (m >>= f) c = match exec m c with
      | (.ok a, c') => exec (f a) c'
      | (.error e, c') => (.error e, c') := by
  simp only [exec, bind, ExceptT.bind, ExceptT.run, ExceptT.mk, StateT.run, StateT.bind]
  rcases m c with ⟨_ | a, c'⟩ <;> rfl

theorem exec_tryCatch (m : Scan α) (h : ReadError → Scan α) (c : Cursor) :
    exec (tryCatch m h) c = match exec m c with
      | (.ok a, c') => (.ok a, c')
      | (.error e, c') => exec (h e) c' := by
  simp only [exec, tryCatch, tryCatchThe, MonadExceptOf.tryCatch, ExceptT.tryCatch, ExceptT.run,
    ExceptT.mk, StateT.run, bind, StateT.bind]
  rcases m c with ⟨_ | a, c'⟩ <;> rfl

theorem exec_map (f : α → β) (m : Scan α) (c : Cursor) :
    exec (f <$> m) c = match exec m c with
      | (.ok a, c') => (.ok (f a), c')
      | (.error e, c') => (.error e, c') := by
  rw [← bind_pure_comp, exec_bind]
  rcases exec m c with ⟨_ | a, c'⟩ <;> rfl

/-- `m` reads `bs` and goes on as `m'`: from every cursor before `bs ++ rest`, running `m`
is running `m'` from a cursor before `rest`. -/
def Leads (m m' : Scan α) (bs rest : List UInt8) : Prop :=
  ∀ c : Cursor, c.rest = bs ++ rest → ∃ c' : Cursor, c'.rest = rest ∧ exec m c = exec m' c'

namespace Leads

variable {m m' m'' : Scan α} {bs bs' rest : List UInt8}

theorem refl (m : Scan α) (rest : List UInt8) : Leads m m [] rest :=
  fun c hc => ⟨c, hc, rfl⟩

theorem trans (h₁ : Leads m m' bs (bs' ++ rest)) (h₂ : Leads m' m'' bs' rest) :
    Leads m m'' (bs ++ bs') rest := by
  intro c hc
  obtain ⟨c₁, hc₁, he₁⟩ := h₁ c (by rw [hc, List.append_assoc])
  obtain ⟨c₂, hc₂, he₂⟩ := h₂ c₁ hc₁
  exact ⟨c₂, hc₂, he₁.trans he₂⟩

/-- What is bound after a step follows it. -/
theorem bind (h : Leads m m' bs rest) (f : α → Scan β) :
    Leads (m >>= f) (m' >>= f) bs rest := by
  intro c hc
  obtain ⟨c', hc', he⟩ := h c hc
  exact ⟨c', hc', by rw [exec_bind, exec_bind, he]⟩

/-- After a step that ends with a value, what is bound to it goes on. -/
theorem bind_pure {a : α} (h : Leads m (pure a) bs rest) (f : α → Scan β) :
    Leads (m >>= f) (f a) bs rest := by
  simpa only [pure_bind] using h.bind f

/-- A step that only looks ahead, then one that reads. -/
theorem trans_nil (h₁ : Leads m m' [] (bs ++ rest)) (h₂ : Leads m' m'' bs rest) :
    Leads m m'' bs rest := by
  simpa using h₁.trans h₂

theorem congr_right (h : Leads m m' bs rest) (he : m' = m'') : Leads m m'' bs rest :=
  he ▸ h

/-- A value computed from a step's result follows it. -/
theorem map {a : α} (h : Leads m (pure a) bs rest) (f : α → β) :
    Leads (f <$> m) (pure (f a)) bs rest := by
  intro c hc
  obtain ⟨c', hc', he⟩ := h c hc
  exact ⟨c', hc', by simp only [exec_map, he, exec_pure]⟩

/-- A step that starts by looking at the cursor: what it does from every cursor before the
bytes. -/
theorem of_get {g : Cursor → Scan α}
    (h : ∀ c : Cursor, c.rest = bs ++ rest → Leads (g c) m' bs rest) :
    Leads (get >>= g) m' bs rest := by
  intro c hc
  obtain ⟨c', hc', he⟩ := h c hc c hc
  exact ⟨c', hc', by rw [exec_bind, exec_get]; exact he⟩

/-- Two steps that agree wherever `rest` lies ahead. -/
theorem of_exec (h : ∀ c : Cursor, c.rest = rest → exec m c = exec m' c) : Leads m m' [] rest :=
  fun c hc => ⟨c, hc, h c hc⟩

/-- A step that ends with a value still does inside a handler. -/
theorem tryCatch {a : α} (hm : Leads m (pure a) bs rest) (h : ReadError → Scan α) :
    Leads (tryCatch m h) (pure a) bs rest := by
  intro c hc
  obtain ⟨c', hc', he⟩ := hm c hc
  exact ⟨c', hc', by simp only [exec_tryCatch, he, exec_pure]⟩

end Leads

/-! ## Primitive steps -/

theorem advance_rest {c : Cursor} {b : UInt8} {r : List UInt8} (h : c.rest = b :: r) :
    c.advance.rest = r := by
  unfold Cursor.advance
  split <;> simp_all

/-- Looking ahead sees the next byte, if any. -/
theorem peek_leads_head (r : List UInt8) : Leads peek (pure r.head?) [] r :=
  Leads.of_exec fun c hc => by simp [peek, exec_map, hc]

theorem peek_leads (b : UInt8) (r : List UInt8) : Leads peek (pure (some b)) [] (b :: r) :=
  peek_leads_head (b :: r)

theorem eat_leads (b : UInt8) (r : List UInt8) : Leads eat (pure ()) [b] r :=
  fun c hc => ⟨c.advance, advance_rest hc, rfl⟩

theorem next_leads (b : UInt8) (r : List UInt8) : Leads next (pure (some b)) [b] r :=
  fun c hc => ⟨c.advance, advance_rest hc, by simp [next, peek, eat, exec_bind, exec_map, hc]⟩

theorem skipBlanks_of_not_blank {b : UInt8} (hb : isBlank b = false) (r : List UInt8)
    (line col : Nat) :
    skipBlanks (b :: r) line col = ⟨b :: r, line, col⟩ := by
  simp [skipBlanks, hb]

/-- Without whitespace ahead, stepping over whitespace reads nothing and sees the next
byte. -/
theorem blanks_leads {b : UInt8} (hb : isBlank b = false) (r : List UInt8) :
    Leads blanks (pure (some b)) [] (b :: r) :=
  Leads.of_exec fun c hc => by
    obtain ⟨rest, line, col⟩ := c
    subst hc
    simp [blanks, exec_bind, exec_map, skipBlanks_of_not_blank hb, peek]

theorem blanks_leads_nil : Leads blanks (pure none) [] [] :=
  Leads.of_exec fun c hc => by
    obtain ⟨rest, line, col⟩ := c
    subst hc
    simp [blanks, exec_bind, exec_map, skipBlanks, peek]

theorem keyword_leads (bs rest : List UInt8) : Leads (keyword bs) (pure ()) bs rest := by
  induction bs with
  | nil => exact Leads.refl _ _
  | cons b bs ih =>
    rw [keyword]
    refine ((next_leads b (bs ++ rest)).bind_pure _).trans ?_
    simpa using ih

theorem placed_leads {m : Scan α} {a : α} {bs rest : List UInt8} (h : Leads m (pure a) bs rest) :
    Leads (placed m) (pure a) bs rest :=
  h.tryCatch _

theorem attempt_leads {m : Scan α} {a : α} {bs rest : List UInt8} (h : Leads m (pure a) bs rest) :
    Leads (attempt m) (pure (.ok a)) bs rest := by
  unfold attempt
  refine Leads.tryCatch ?_ _
  intro c hc
  obtain ⟨c', hc', he⟩ := h c hc
  exact ⟨c', hc', by simp only [exec_map, he, exec_pure]⟩

/-! ## What a step returns -/

/-- Every value `m` returns, from any cursor, satisfies `P`. -/
def Yields (m : Scan α) (P : α → Prop) : Prop :=
  ∀ c a c', exec m c = (.ok a, c') → P a

namespace Yields

variable {m : Scan α} {P Q : α → Prop}

theorem of_pure {a : α} (h : P a) : Yields (pure a) P := by
  intro c a' c' he
  simp only [exec_pure, Prod.mk.injEq, Except.ok.injEq] at he
  exact he.1 ▸ h

theorem bind {f : α → Scan β} {R : β → Prop} (hm : Yields m Q)
    (hf : ∀ a, Q a → Yields (f a) R) : Yields (m >>= f) R := by
  intro c b c' he
  rw [exec_bind] at he
  rcases hex : exec m c with ⟨_ | a, c₁⟩
  · simp [hex] at he
  · rw [hex] at he
    exact hf a (hm c a c₁ hex) c₁ b c' he

theorem of_throw (e : ReadError) : Yields (throw e : Scan α) P := by
  intro c a c' he
  simp at he

/-- Nothing is said of what a step returns. -/
theorem any (m : Scan α) : Yields m fun _ => True :=
  fun _ _ _ _ => trivial

theorem mono (h : Yields m P) (hPQ : ∀ a, P a → Q a) : Yields m Q :=
  fun c a c' he => hPQ a (h c a c' he)

theorem tryCatch {h : ReadError → Scan α} (hm : Yields m P) (hh : ∀ e, Yields (h e) P) :
    Yields (tryCatch m h) P := by
  intro c a c' he
  rw [exec_tryCatch] at he
  rcases hex : exec m c with ⟨e | a', c₁⟩
  · rw [hex] at he
    exact hh e c₁ a c' he
  · rw [hex] at he
    simp only [Prod.mk.injEq, Except.ok.injEq] at he
    exact he.1 ▸ hm c a' c₁ hex

end Yields

theorem failAhead_yields (f : Fault) (P : α → Prop) : Yields (failAhead f : Scan α) P :=
  (Yields.any _).bind fun _ _ => Yields.of_throw _

theorem failShape_yields (message : String) (P : α → Prop) :
    Yields (failShape message : Scan α) P :=
  Yields.of_throw _

/-- Placing a fault changes no value returned. -/
theorem placed_yields {m : Scan α} {P : α → Prop} (h : Yields m P) : Yields (placed m) P := by
  refine h.tryCatch fun e => ?_
  cases e.place with
  | some _ => exact Yields.of_throw _
  | none => exact (Yields.any _).bind fun _ _ => Yields.of_throw _

theorem attempt_yields {m : Scan α} {P : α → Prop} (h : Yields m P) :
    Yields (attempt m) fun r => ∀ a, r = .ok a → P a := by
  refine Yields.tryCatch ?_ fun e => Yields.of_pure fun a h => by cases h
  intro c r c' he
  rw [exec_map] at he
  rcases hex : exec m c with ⟨e | a', c₁⟩
  · simp [hex] at he
  · simp only [hex, Prod.mk.injEq, Except.ok.injEq] at he
    rintro a rfl
    obtain ⟨⟨⟩, -⟩ := he
    exact h c a' c₁ hex

/-- A shape fault never returns a value. -/
theorem mismatch_yields (expected : String) (P : α → Prop) :
    Yields (mismatch expected : Scan α) P :=
  (Yields.any _).bind fun _ _ => placed_yields (failShape_yields _ _)

end Scan

end NetReconcile.Json
