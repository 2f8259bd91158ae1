import NetReconcile.Proofs.JsonStrings

/-!
# Written numbers stepped over

A number is written as JSON has it: a lone zero or digits not starting with zero, then
possibly a point and digits, then possibly `e`, a sign and digits. Stepping over such a
number reads all of it when a delimiter or the end of the text follows
(`skipNumber_leads`).
-/

namespace NetReconcile.Json

open Text

namespace Scan

/-- What may follow a value inside a list or an object: a comma, a closing bracket or
brace, or the end of the text. -/
def Delimits (rest : List UInt8) : Prop := rest.head? ∈ [none, some 0x2C, some 0x5D, some 0x7D]

/-- One decimal digit or more. -/
def Digits (ds : List UInt8) : Prop := ds ≠ [] ∧ ∀ x ∈ ds, isDigit x = true

/-- The integer part of a number: a lone zero, or digits not starting with zero. -/
def IntPart (bs : List UInt8) : Prop :=
  bs = [0x30] ∨ ∃ d ds, bs = d :: ds ∧ d ≠ 0x30 ∧ Digits (d :: ds)

/-- The exponent of a number, if any: `e`, a sign or none, and digits. -/
def ExpPart (x : List UInt8) : Prop :=
  x = [] ∨
    ∃ s ds, x = 0x65 :: (s ++ ds) ∧ (s = [] ∨ s = [0x2B] ∨ s = [0x2D]) ∧ Digits ds

/-- What follows the integer part: a point and digits, if any, then the exponent. -/
def FracPart (t : List UInt8) : Prop :=
  ExpPart t ∨ ∃ ds x, t = 0x2E :: (ds ++ x) ∧ Digits ds ∧ ExpPart x

/-- The text of a number without its sign, in the grammar of JSON numbers. -/
def NumberBytes (bs : List UInt8) : Prop := ∃ i t, bs = i ++ t ∧ IntPart i ∧ FracPart t

/-- The fraction `.0` that marks a whole number written as a float. -/
theorem FracPart.point_zero : FracPart [0x2E, 0x30] :=
  .inr ⟨[0x30], [], rfl,
    ⟨List.cons_ne_nil _ _, by simp only [List.mem_singleton, forall_eq]; rfl⟩, .inl rfl⟩

theorem Delimits.head {rest : List UInt8} (h : Delimits rest) :
    rest.head? = none ∨ rest.head? = some 0x2C ∨ rest.head? = some 0x5D ∨
      rest.head? = some 0x7D := by
  simpa [Delimits] using h

theorem Delimits.not_digit {rest : List UInt8} (h : Delimits rest) :
    ∀ b ∈ rest.head?, isDigit b = false := by
  intro b hb
  rcases h.head with h | h | h | h <;> rw [h] at hb <;> cases hb <;> rfl

/-- A number starts with a digit. -/
theorem NumberBytes.head {bs : List UInt8} (h : NumberBytes bs) :
    ∃ d t, bs = d :: t ∧ isDigit d = true := by
  obtain ⟨i, t, rfl, hi, -⟩ := h
  rcases hi with rfl | ⟨d, ds, rfl, -, hds⟩
  · exact ⟨0x30, t, rfl, rfl⟩
  · exact ⟨d, ds ++ t, rfl, hds.2 d (List.mem_cons_self ..)⟩

/-- A digit is no whitespace, no closing bracket, and none of the bytes that start a
keyword or a negative number. -/
theorem isDigit_facts {d : UInt8} (h : isDigit d = true) :
    isBlank d = false ∧ (d == 0x6E) = false ∧ (d == 0x74) = false ∧ (d == 0x66) = false ∧
      (d == 0x2D) = false ∧ d ≠ 0x5D ∧ d ≠ 0x7D := by
  have hd : 0x30 ≤ d.toNat ∧ d.toNat ≤ 0x39 := by
    simpa [isDigit, UInt8.le_iff_toNat_le] using h
  have hne : ∀ c : UInt8, (c.toNat < 0x30 ∨ 0x39 < c.toNat) → d ≠ c := by
    rintro c hc rfl
    omega
  simp only [isBlank, Bool.or_eq_false_iff, beq_eq_false_iff_ne]
  refine ⟨⟨⟨⟨?_, ?_⟩, ?_⟩, ?_⟩, ?_, ?_, ?_, ?_, ?_, ?_⟩
  all_goals exact hne _ (by decide)

variable {rest : List UInt8}

/-- Digits are stepped over one by one, up to the first byte that is not one. -/
theorem skipDigits_leads (ds : List UInt8) (hds : ∀ x ∈ ds, isDigit x = true)
    (hr : ∀ b ∈ rest.head?, isDigit b = false) :
    ∀ fuel k, ds.length < fuel → Leads (skipDigits fuel k) (pure (k + ds.length)) ds rest := by
  induction ds with
  | nil =>
    intro fuel k hf
    obtain ⟨fuel, rfl⟩ : ∃ f, fuel = f + 1 := ⟨fuel - 1, by simp at hf; omega⟩
    rw [skipDigits]
    refine ((peek_leads_head rest).bind_pure _).trans_nil ?_
    cases h : rest.head? with
    | none => exact Leads.refl _ _
    | some b =>
      simp only [hr b h, Bool.false_eq_true, if_false, List.length_nil, Nat.add_zero]
      exact Leads.refl _ _
  | cons d ds ih =>
    intro fuel k hf
    obtain ⟨fuel, rfl⟩ : ∃ f, fuel = f + 1 := ⟨fuel - 1, by simp at hf; omega⟩
    rw [skipDigits]
    refine ((peek_leads d _).bind_pure _).trans_nil ?_
    simp only [hds d (List.mem_cons_self ..), if_true]
    refine ((eat_leads d (ds ++ rest)).bind_pure _).trans ?_
    have := ih (fun x hx => hds x (List.mem_cons_of_mem _ hx)) fuel (k + 1) (by simp at hf; omega)
    simpa [Nat.add_assoc, Nat.add_comm 1] using this

/-- A point, an exponent mark or a delimiter follows the integer part: never a digit. -/
theorem FracPart.not_digit {t : List UInt8} (ht : FracPart t) (hr : Delimits rest) :
    ∀ b ∈ (t ++ rest).head?, isDigit b = false := by
  rcases ht with (rfl | ⟨s, ds, rfl, -⟩) | ⟨ds, x, rfl, -⟩
  · exact hr.not_digit
  all_goals
    intro b hb
    cases hb
    rfl

theorem ExpPart.not_digit {x : List UInt8} (hx : ExpPart x) (hr : Delimits rest) :
    ∀ b ∈ (x ++ rest).head?, isDigit b = false :=
  FracPart.not_digit (.inl hx) hr

/-- The exponent: its mark, a sign if any, and its digits. -/
theorem exponentDigits_leads {ds : List UInt8} (hds : Digits ds)
    (hr : ∀ b ∈ rest.head?, isDigit b = false) {fuel : Nat} (hf : ds.length < fuel) :
    Leads (skipNumber.exponentDigits fuel) (pure ()) ds rest := by
  obtain ⟨hne, hdig⟩ := hds
  obtain ⟨d, ds, rfl⟩ := List.exists_cons_of_ne_nil hne
  rw [skipNumber.exponentDigits]
  refine ((next_leads d _).bind_pure _).trans ?_
  simp only [hdig d (List.mem_cons_self ..), if_true]
  have := (skipDigits_leads ds (fun x hx => hdig x (List.mem_cons_of_mem _ hx)) hr fuel 0
    (by simp at hf; omega)).bind_pure fun _ => pure ()
  simpa using this

theorem skipExponent_leads {s ds : List UInt8} (hs : s = [] ∨ s = [0x2B] ∨ s = [0x2D])
    (hds : Digits ds)
    (hr : ∀ b ∈ rest.head?, isDigit b = false) {fuel : Nat} (hf : ds.length < fuel) :
    Leads (skipNumber.skipExponent fuel) (pure ()) (0x65 :: (s ++ ds)) rest := by
  have hdigits := exponentDigits_leads hds hr hf
  obtain ⟨d, ds', rfl⟩ := List.exists_cons_of_ne_nil hds.1
  have hd := hds.2 d (List.mem_cons_self ..)
  rw [skipNumber.skipExponent]
  refine ((eat_leads 0x65 _).bind_pure _).trans ?_
  rcases hs with rfl | rfl | rfl
  · refine ((peek_leads d _).bind_pure _).trans_nil ?_
    split
    · rename_i h
      cases h
      simp [isDigit] at hd
    · rename_i h
      cases h
      simp [isDigit] at hd
    · exact hdigits
  · refine ((peek_leads 0x2B _).bind_pure _).trans_nil ?_
    exact ((eat_leads 0x2B _).bind_pure _).trans hdigits
  · refine ((peek_leads 0x2D _).bind_pure _).trans_nil ?_
    exact ((eat_leads 0x2D _).bind_pure _).trans hdigits

/-- After the integer part: a fraction if any, then an exponent if any. -/
theorem afterInteger_leads {t : List UInt8} (ht : FracPart t) (hr : Delimits rest) (fuel : Nat)
    (hf : t.length < fuel) : Leads (skipNumber.afterInteger fuel) (pure ()) t rest := by
  rw [skipNumber.afterInteger]
  rcases ht with hx | ⟨ds, x, rfl, hds, hx⟩
  · rcases hx with rfl | ⟨s, ds, rfl, hs, hds⟩
    · refine ((peek_leads_head rest).bind_pure _).trans_nil ?_
      rcases hr.head with h | h | h | h <;> rw [h] <;> exact Leads.refl _ _
    · refine ((peek_leads 0x65 _).bind_pure _).trans_nil ?_
      exact skipExponent_leads hs hds hr.not_digit (by simp at hf; omega)
  · refine ((peek_leads 0x2E _).bind_pure _).trans_nil ?_
    refine ((eat_leads 0x2E _).bind_pure _).trans ?_
    refine ((skipDigits_leads ds hds.2 (hx.not_digit hr) fuel 0
      (by simp at hf; omega)).bind_pure _).trans ?_
    have hlen : 0 + ds.length ≠ 0 := by simpa using hds.1
    simp only [hlen, if_false]
    rcases hx with rfl | ⟨s, ds', rfl, hs, hds'⟩
    · refine ((peek_leads_head rest).bind_pure _).trans_nil ?_
      rcases hr.head with h | h | h | h <;> rw [h] <;> exact Leads.refl _ _
    · refine ((peek_leads 0x65 _).bind_pure _).trans_nil ?_
      exact skipExponent_leads hs hds' hr.not_digit (by simp at hf; omega)

/-- A number written in the grammar of JSON numbers is stepped over whole. -/
theorem skipNumber_leads {bs : List UInt8} (h : NumberBytes bs) (hr : Delimits rest) :
    Leads skipNumber (pure ()) bs rest := by
  obtain ⟨i, t, rfl, hi, ht⟩ := h
  rw [skipNumber]
  refine Leads.of_get fun c hc => ?_
  have hfuel : (i ++ t).length < c.rest.length + 1 := by
    rw [hc]
    simp only [List.length_append]
    omega
  dsimp only
  generalize c.rest.length + 1 = fuel at hfuel ⊢
  have htail := afterInteger_leads ht hr fuel (by simp at hfuel; omega)
  rcases hi with rfl | ⟨d, ds, rfl, hd0, hds⟩
  · refine ((next_leads 0x30 _).bind_pure _).trans ?_
    refine ((peek_leads_head _).bind_pure _).trans_nil ?_
    cases h : (t ++ rest).head? with
    | none => exact htail
    | some b =>
      simp only [ht.not_digit hr b h, Bool.false_eq_true, if_false]
      exact htail
  · refine ((next_leads d _).bind_pure _).trans ?_
    split
    · rename_i h
      cases h
      exact absurd rfl hd0
    · rename_i h
      cases h
      rw [if_pos (hds.2 _ (List.mem_cons_self ..))]
      refine ((skipDigits_leads ds (fun x hx => hds.2 x (List.mem_cons_of_mem _ hx))
        (ht.not_digit hr) fuel 0 (by simp at hfuel; omega)).bind_pure _).trans htail
    · rename_i h
      cases h

/-! ## Texts of numbers -/

/-- The text of a number: the grammar's bytes, behind a minus sign if negative. -/
def NumberText (bs : List UInt8) : Prop :=
  NumberBytes bs ∨ ∃ u, bs = 0x2D :: u ∧ NumberBytes u

/-- The byte of an ASCII character. -/
def charByte (c : Char) : UInt8 := UInt8.ofNat c.toNat

theorem toNat_of_isDigit {c : Char} (h : c.isDigit) : 48 ≤ c.toNat ∧ c.toNat ≤ 57 := by
  simpa [Char.isDigit, UInt32.le_iff_toNat_le] using h

theorem isDigit_charByte {c : Char} (h : c.isDigit) : isDigit (charByte c) = true := by
  have := toNat_of_isDigit h
  simp only [isDigit, charByte, Bool.and_eq_true, decide_eq_true_eq, UInt8.le_iff_toNat_le,
    UInt8.toNat_ofNat', Nat.mod_eq_of_lt (show c.toNat < 256 by omega)]
  constructor <;> simp <;> omega

theorem charByte_eq_zero_iff {c : Char} (h : c.isDigit) : charByte c = 0x30 ↔ c = '0' := by
  have := toNat_of_isDigit h
  constructor
  · intro he
    apply Char.toNat_inj.mp
    have := congrArg UInt8.toNat he
    simp only [charByte, UInt8.toNat_ofNat', Nat.mod_eq_of_lt (show c.toNat < 256 by omega)] at this
    simpa using this
  · rintro rfl
    rfl

theorem bytes_ofList_digits {l : List Char} (h : ∀ c ∈ l, c.isDigit) :
    bytes (String.ofList l) = l.map charByte := by
  rw [bytes_ofList]
  induction l with
  | nil => rfl
  | cons c l ih =>
    have hc := toNat_of_isDigit (h c (List.mem_cons_self ..))
    rw [List.flatMap_cons, utf8EncodeChar_of_lt (by omega),
      ih fun x hx => h x (List.mem_cons_of_mem _ hx)]
    rfl

theorem digits_map {l : List Char} (hne : l ≠ []) (h : ∀ c ∈ l, c.isDigit) :
    Digits (l.map charByte) := by
  refine ⟨by simpa using hne, ?_⟩
  intro x hx
  obtain ⟨c, hc, rfl⟩ := List.mem_map.mp hx
  exact isDigit_charByte (h c hc)

/-- Digits as an integer part: a lone zero, or not starting with zero. -/
theorem intPart_map {l : List Char} (hne : l ≠ []) (h : ∀ c ∈ l, c.isDigit)
    (h0 : l = ['0'] ∨ l.head? ≠ some '0') : IntPart (l.map charByte) := by
  rcases h0 with rfl | h0
  · exact .inl rfl
  · obtain ⟨c, l, rfl⟩ := List.exists_cons_of_ne_nil hne
    refine .inr ⟨charByte c, l.map charByte, rfl, ?_, digits_map hne h⟩
    rw [Ne, charByte_eq_zero_iff (h c (List.mem_cons_self ..))]
    simpa using h0

/-- The decimal digits of a positive number do not start with zero. -/
theorem head_toDigits (n : Nat) (h : 0 < n) : (Nat.toDigits 10 n).head? ≠ some '0' := by
  induction n using Nat.strongRecOn with
  | ind n ih =>
    rw [Nat.toDigits_eq_if (by decide)]
    split
    · have hd : ∀ m, m < 10 → 0 < m → Nat.digitChar m ≠ '0' := by decide
      simpa using hd n ‹_› h
    · have := ih (n / 10) (by omega) (by omega)
      obtain ⟨d, ds, hds⟩ :=
        List.exists_cons_of_ne_nil (Nat.toDigits_ne_nil (n := n / 10) (b := 10))
      rw [hds] at this ⊢
      simpa using this

theorem intPart_toDigits (n : Nat) : IntPart ((Nat.toDigits 10 n).map charByte) := by
  refine intPart_map Nat.toDigits_ne_nil
    (fun c hc => Nat.isDigit_of_mem_toDigits (by decide) (by decide) hc) ?_
  rcases Nat.eq_zero_or_pos n with rfl | h
  · exact .inl (Nat.toDigits_zero 10)
  · exact .inr (head_toDigits n h)

theorem bytes_repr (n : Nat) : bytes n.repr = (Nat.toDigits 10 n).map charByte :=
  bytes_ofList_digits fun _ hc => Nat.isDigit_of_mem_toDigits (by decide) (by decide) hc

/-- A natural number is written as its digits. -/
theorem numberBytes_repr (n : Nat) : NumberBytes (bytes n.repr) :=
  ⟨_, [], by rw [bytes_repr, List.append_nil], intPart_toDigits n, .inl (.inl rfl)⟩

theorem bytes_minus (s : String) : bytes ("-" ++ s) = 0x2D :: bytes s := by
  rw [bytes_append, bytes_eq "-"]
  rfl

/-- An integer is written as its digits, behind a minus sign if negative. -/
theorem numberText_intRepr (n : Int) : NumberText (bytes n.repr) := by
  rw [Int.repr_eq_if]
  split
  · exact .inl (numberBytes_repr _)
  · exact .inr ⟨_, bytes_minus _, numberBytes_repr _⟩

end Scan

end NetReconcile.Json

/-! ## Shortest decimals -/

namespace NetReconcile.Decimal

/-- A decimal `c · 10 ^ e` whose text puts no zero before the point but a lone one: it is
nonzero, or its exponent is outside `1 … 15`, where a zero would be written with zeros
after it. -/
def Unpadded (c : Nat) (e : Int) : Prop := c ≠ 0 ∨ e ≤ 0 ∨ 16 ≤ e

theorem roundHalfEven_pos {a b : Nat} (hb : 0 < b) (hab : b ≤ a) : 0 < roundHalfEven a b := by
  have : 0 < a / b := Nat.div_pos hab hb
  unfold roundHalfEven
  dsimp only
  split_ifs <;> omega

theorem binaryFraction_pos {a : Nat} (ha : 0 < a) (q : Int) :
    0 < (binaryFraction a q).1 ∧ 0 < (binaryFraction a q).2 := by
  unfold binaryFraction
  split
  · exact ⟨Nat.mul_pos ha (Nat.pow_pos (by decide)), Nat.one_pos⟩
  · exact ⟨ha, Nat.pow_pos (by decide)⟩

/-- A finite nonzero magnitude has a positive mantissa. -/
theorem unpack_mantissa_pos {mag : UInt64} (h0 : mag.toNat ≠ 0)
    (hlt : mag.toNat < 9223372036854775808) :
    0 < (unpack mag).mantissa := by
  unfold unpack
  dsimp only
  split
  · rename_i hb
    have h52 : UInt64.toNat 52 % 64 = 52 := rfl
    have h2047 : UInt64.toNat 2047 = 2 ^ 11 - 1 := rfl
    have hmask : UInt64.toNat 4503599627370495 = 2 ^ 52 - 1 := rfl
    rw [UInt64.toNat_and, UInt64.toNat_shiftRight, h52, h2047, Nat.and_two_pow_sub_one_eq_mod,
      Nat.shiftRight_eq_div_pow] at hb
    rw [UInt64.toNat_and, hmask, Nat.and_two_pow_sub_one_eq_mod]
    simp only [Nat.reducePow] at hb ⊢
    omega
  · simp

/-- Where the decimal exponent of a number is positive, the number is at least that power
of ten. -/
theorem floorLog10_le {num den : Nat} (h : 0 < floorLog10 num den) :
    den * Nat.pow 10 (floorLog10 num den).toNat ≤ num := by
  unfold floorLog10 at h ⊢
  split at h
  · rename_i hge
    rw [if_pos hge]
    generalize hL : (Nat.toDigits 10 (num / den)).length = L at h ⊢
    have hlt : ¬ L ≤ L - 1 := by omega
    rw [← hL, Nat.length_toDigits_le_iff (by decide) (by omega), hL] at hlt
    have hk : ((L : Int) - 1).toNat = L - 1 := by omega
    rw [hk, Nat.pow_eq]
    exact Nat.le_trans (Nat.mul_le_mul_left _ (Nat.le_of_not_lt hlt)) (Nat.mul_div_le num den)
  · omega

/-- The search for the shortest decimal gives an unpadded one: a candidate inside the
rounding interval is never zero, and the last digit count, rounded to the grid, is at least
one unit wherever its exponent is positive. -/
theorem search_unpadded (v : Nat × Nat) (inside : Nat → Int → Bool) (e0 : Int)
    (hin : ∀ e, inside 0 e = false) (hlog : 0 < e0 → v.2 * Nat.pow 10 e0.toNat ≤ v.1)
    (hv : 0 < v.2) :
    ∀ fuel n,
      Unpadded (shortest.search v inside e0 fuel n).1 (shortest.search v inside e0 fuel n).2 := by
  intro fuel
  induction fuel with
  | zero => exact fun n => .inr (.inl (by simp [shortest.search]))
  | succ fuel ih =>
    intro n
    rw [shortest.search]
    split
    rename_i tn td hT
    dsimp only
    have hdown : ∀ d e, inside d e = true → d ≠ 0 := by
      rintro d e h rfl
      simp [hin] at h
    split_ifs with h1 h2 h3 h4 h5 h6 h7 h8
    · exact .inl (hdown _ _ ((Bool.and_eq_true _ _).mp h1).2)
    · exact .inl (hdown _ _ ((Bool.and_eq_true _ _).mp h2).1)
    · exact .inl (Nat.succ_ne_zero _)
    · exact .inl (hdown _ _ ((Bool.and_eq_true _ _).mp h2).1)
    · exact .inl (Nat.succ_ne_zero _)
    · exact .inl (hdown _ _ h6)
    · exact .inl (Nat.succ_ne_zero _)
    · by_cases he : e0 - n + 1 ≤ 0
      · exact .inr (.inl he)
      · rw [if_pos (by omega), Prod.mk.injEq] at hT
        obtain ⟨rfl, rfl⟩ := hT
        have hpow : Nat.pow 10 (e0 - n + 1).toNat ≤ Nat.pow 10 e0.toNat :=
          Nat.pow_le_pow_right (by decide) (by omega)
        have htd : 0 < v.2 * Nat.pow 10 (e0 - n + 1).toNat :=
          Nat.mul_pos hv (Nat.pow_pos (by decide))
        refine .inl (Nat.pos_iff_ne_zero.mp (roundHalfEven_pos htd ?_))
        exact Nat.le_trans (Nat.mul_le_mul_left _ hpow) (hlog (by omega))
    · exact ih (n + 1)

theorem stripZeros_unpadded (fuel : Nat) : ∀ c e, Unpadded c e →
    Unpadded (stripZeros c e fuel).1 (stripZeros c e fuel).2 := by
  induction fuel with
  | zero => exact fun c e h => h
  | succ fuel ih =>
    intro c e h
    rw [stripZeros]
    split_ifs with hz
    · exact ih _ _ (.inl (by omega))
    · exact h

/-- The shortest decimal of a finite nonzero number is unpadded. -/
theorem shortest_unpadded (u : Unpacked) (hm : 0 < u.mantissa) :
    Unpadded (shortest u).1 (shortest u).2 := by
  unfold shortest
  dsimp only
  refine stripZeros_unpadded 400 _ _ (search_unpadded _ _ _ ?_ ?_ ?_ 17 1)
  · intro e
    have hlo := (binaryFraction_pos
      (show 0 < 4 * u.mantissa - (if u.narrowBelow = true then 1 else 2) by split <;> omega)
      (u.exponent - 2)).1
    have hx : (decimalFraction 0 e).1 = 0 ∧ 0 < (decimalFraction 0 e).2 := by
      unfold decimalFraction
      split
      · exact ⟨Nat.zero_mul _, Nat.one_pos⟩
      · exact ⟨rfl, Nat.pow_pos (by decide)⟩
    have hpos := Nat.mul_pos hlo hx.2
    split <;>
      simp only [fracLe, fracLt, hx.1, Nat.zero_mul, Bool.and_eq_false_iff,
        decide_eq_false_iff_not] <;>
      omega
  · exact floorLog10_le
  · exact (binaryFraction_pos hm _).2

end NetReconcile.Decimal

namespace NetReconcile.Json

open Text

namespace Scan

/-! ## Texts of binary64 numbers -/

theorem bytes_singleton_digit {d : Char} (h : d.isDigit) :
    bytes (String.singleton d) = [charByte d] := by
  rw [String.singleton_eq_ofList, bytes_ofList_digits (by simpa using h)]
  rfl

theorem isDigit_of_mem_replicate (m : Nat) : ∀ x ∈ List.replicate m '0', x.isDigit := by
  intro x hx
  rw [List.eq_of_mem_replicate hx]
  rfl

theorem digits_repr (m : Nat) : Digits (bytes m.repr) := by
  rw [bytes_repr]
  exact digits_map Nat.toDigits_ne_nil fun _ hx =>
    Nat.isDigit_of_mem_toDigits (by decide) (by decide) hx

/-- The exponent of a number in scientific form is a sign and its digits. -/
theorem expText_bytes (k : Int) :
    ∃ s ds, bytes (if k ≥ 0 then Decimal.Layout.quoted.plusSign ++ toString k.toNat
        else "-" ++ toString (-k).toNat) = s ++ ds ∧
      (s = [] ∨ s = [0x2B] ∨ s = [0x2D]) ∧ Digits ds := by
  split
  · refine ⟨[0x2B], _, ?_, .inr (.inl rfl), digits_repr k.toNat⟩
    rw [bytes_append, show bytes Decimal.Layout.quoted.plusSign = [0x2B] by rw [bytes_eq]; rfl]
    rfl
  · exact ⟨[0x2D], _, bytes_minus _, .inr (.inr rfl), digits_repr (-k).toNat⟩

/-- A lone digit is an integer part, zero included. -/
theorem intPart_digit {d : Char} (hd : d.isDigit) : IntPart [charByte d] := by
  have hmap : IntPart ([d].map charByte) := by
    refine intPart_map (List.cons_ne_nil d []) (by simpa using hd) ?_
    by_cases hd0 : d = '0'
    · exact .inl (by rw [hd0])
    · exact .inr (by simpa using hd0)
  exact hmap

/-- An unpadded decimal is laid out in the grammar of JSON numbers: positionally as digits
with a point, or as one digit, a point and digits if more, and a signed exponent. -/
theorem numberBytes_render (c : Nat) (e : Int) (h : Decimal.Unpadded c e) :
    NumberBytes (bytes (Decimal.Layout.quoted.render c e)) := by
  unfold Decimal.Unpadded at h
  have hdig : ∀ x ∈ Nat.toDigits 10 c, x.isDigit :=
    fun _ hx => Nat.isDigit_of_mem_toDigits (by decide) (by decide) hx
  have hne : Nat.toDigits 10 c ≠ [] := Nat.toDigits_ne_nil
  have hzero : c = 0 → Nat.toDigits 10 c = ['0'] := by
    rintro rfl
    exact Nat.toDigits_zero 10
  have hhead : c ≠ 0 → (Nat.toDigits 10 c).head? ≠ some '0' :=
    fun hc => head_toDigits c (by omega)
  unfold Decimal.Layout.render
  dsimp only
  generalize Nat.toDigits 10 c = ds at *
  generalize hk : e + (ds.length : Int) - 1 = k
  have hlen : 0 < ds.length := List.length_pos_iff.mpr hne
  by_cases hpos :
      Decimal.Layout.quoted.positionalFrom ≤ k ∧ k < Decimal.Layout.quoted.positionalTo
  · rw [if_pos hpos]
    change -5 ≤ k ∧ k < 16 at hpos
    by_cases he : e ≥ 0
    · rw [if_pos he]
      have hrep := isDigit_of_mem_replicate e.toNat
      refine ⟨(ds ++ List.replicate e.toNat '0').map charByte, [0x2E, 0x30], ?_, ?_, ?_⟩
      · rw [bytes_append, bytes_append, bytes_ofList_digits hdig, bytes_ofList_digits hrep,
          List.map_append,
          show bytes Decimal.Layout.quoted.integerSuffix = [0x2E, 0x30] by rw [bytes_eq]; rfl]
      · refine intPart_map (by simp [hne]) (List.forall_mem_append.mpr ⟨hdig, hrep⟩) ?_
        by_cases hc : c = 0
        · have he0 : e = 0 := by
            rw [hzero hc] at hk
            simp at hk
            omega
          left
          simp [hzero hc, he0]
        · right
          obtain ⟨d, ds, rfl⟩ := List.exists_cons_of_ne_nil hne
          simpa using hhead hc
      · exact FracPart.point_zero
    · rw [if_neg he]
      by_cases hk0 : k ≥ 0
      · rw [if_pos hk0]
        have hc : c ≠ 0 := by
          intro hc
          rw [hzero hc] at hk
          simp at hk
          omega
        have htake : ∀ x ∈ ds.take (k.toNat + 1), x.isDigit :=
          fun x hx => hdig x (List.mem_of_mem_take hx)
        have hdrop : ∀ x ∈ ds.drop (k.toNat + 1), x.isDigit :=
          fun x hx => hdig x (List.mem_of_mem_drop hx)
        refine ⟨(ds.take (k.toNat + 1)).map charByte,
          0x2E :: (ds.drop (k.toNat + 1)).map charByte, ?_, ?_, ?_⟩
        · rw [bytes_append, bytes_append, bytes_ofList_digits htake, bytes_ofList_digits hdrop,
            show bytes "." = [0x2E] by rw [bytes_eq]; rfl]
          simp
        · refine intPart_map (by simp [hne]) htake (.inr ?_)
          obtain ⟨d, ds, rfl⟩ := List.exists_cons_of_ne_nil hne
          simpa using hhead hc
        · refine .inr ⟨_, [], by simp, digits_map ?_ hdrop, .inl rfl⟩
          simp
          omega
      · rw [if_neg hk0]
        have hrep := isDigit_of_mem_replicate ((-k).toNat - 1)
        refine ⟨[0x30], 0x2E :: (List.replicate ((-k).toNat - 1) '0' ++ ds).map charByte, ?_,
          .inl rfl, ?_⟩
        · rw [bytes_append, bytes_append, bytes_ofList_digits hrep, bytes_ofList_digits hdig,
            show bytes "0." = [0x30, 0x2E] by rw [bytes_eq]; rfl]
          simp
        · exact .inr ⟨_, [], by simp,
            digits_map (by simp [hne]) (List.forall_mem_append.mpr ⟨hrep, hdig⟩), .inl rfl⟩
  · rw [if_neg hpos]
    obtain ⟨s, ds', hsd, hs, hds'⟩ := expText_bytes k
    obtain ⟨d, r, rfl⟩ := List.exists_cons_of_ne_nil hne
    have hd := hdig d (List.mem_cons_self ..)
    have he : bytes "e" = [0x65] := by rw [bytes_eq]; rfl
    cases r with
    | nil =>
      refine ⟨[charByte d], 0x65 :: (s ++ ds'), ?_, intPart_digit hd,
        .inl (.inr ⟨s, ds', rfl, hs, hds'⟩)⟩
      dsimp only
      rw [bytes_append, bytes_append, hsd, bytes_singleton_digit hd, he]
      rfl
    | cons r rs =>
      have hrs : ∀ x ∈ r :: rs, x.isDigit := fun x hx => hdig x (List.mem_cons_of_mem _ hx)
      refine ⟨[charByte d], 0x2E :: ((r :: rs).map charByte ++ 0x65 :: (s ++ ds')), ?_,
        intPart_digit hd,
        .inr ⟨_, _, rfl, digits_map (by simp) hrs, .inr ⟨s, ds', rfl, hs, hds'⟩⟩⟩
      dsimp only
      rw [bytes_append, bytes_append, bytes_append, bytes_append, hsd, bytes_singleton_digit hd, he,
        bytes_ofList_digits hrs, show bytes "." = [0x2E] by rw [bytes_eq]; rfl]
      simp

/-- The text of a binary64 number neither infinite nor NaN is a JSON number. -/
theorem numberText_renderBits {bits : UInt64}
    (h : bits &&& 0x7FFFFFFFFFFFFFFF < Decimal.infinityBits) :
    NumberText (bytes (Decimal.renderBits Decimal.Layout.quoted bits)) := by
  unfold Decimal.renderBits
  dsimp only
  have hsign : ∀ t, NumberBytes (bytes t) →
      NumberText (bytes ((if Decimal.signBit bits = true then "-" else "") ++ t)) := by
    intro t ht
    split
    · exact .inr ⟨_, bytes_minus t, ht⟩
    · rw [String.empty_append]
      exact .inl ht
  have hlt : (bits &&& 0x7FFFFFFFFFFFFFFF).toNat < 9223372036854775808 := by
    rw [UInt64.toNat_and, show UInt64.toNat 0x7FFFFFFFFFFFFFFF = 2 ^ 63 - 1 from rfl,
      Nat.and_two_pow_sub_one_eq_mod]
    exact Nat.mod_lt _ (by decide)
  generalize bits &&& 0x7FFFFFFFFFFFFFFF = mag at h hlt
  by_cases h0 : mag = 0
  · rw [if_pos h0, String.append_assoc]
    refine hsign _ ⟨[0x30], [0x2E, 0x30], ?_, .inl rfl, FracPart.point_zero⟩
    rw [bytes_eq]
    rfl
  have hfin : ¬ mag ≥ Decimal.infinityBits := by
    rw [UInt64.lt_iff_toNat_lt] at h
    rw [ge_iff_le, UInt64.le_iff_toNat_le]
    omega
  have hm : mag.toNat ≠ 0 := fun he => h0 (UInt64.toNat_inj.mp (by simpa using he))
  rw [if_neg h0, if_neg hfin]
  exact hsign _
    (numberBytes_render _ _ (Decimal.shortest_unpadded _ (Decimal.unpack_mantissa_pos hm hlt)))

end Scan

/-- A number that has a JSON text: an integer, or a binary64 number neither infinite nor
NaN. -/
def Number.Finite : Number → Prop
  | .float bits => bits &&& 0x7FFFFFFFFFFFFFFF < Decimal.infinityBits
  | _ => True

open Scan in
/-- Every number that has a JSON text is written in the grammar of JSON numbers. -/
theorem Number.numberText_write (n : Number) (h : n.Finite) : NumberText (bytes n.write) := by
  cases n with
  | nat n => exact .inl (numberBytes_repr n)
  | neg n => exact numberText_intRepr n
  | float bits => exact numberText_renderBits h

end NetReconcile.Json
