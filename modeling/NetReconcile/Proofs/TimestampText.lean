import NetReconcile.Time.Timestamp
import NetReconcile.Proofs.Calendar

/-!
# Reading back a written timestamp

A timestamp is written in universal time as its date, its time of day and the fraction of
its second, in groups of three digits: `2024-02-29T23:59:60.5Z`. Reading that text gives
the timestamp back, for every timestamp that names a date and time of the calendar, a
leap second included.

Each field is a number padded with zeros to its width. Reading one takes its digits up to
the first character that cannot continue it, so every field is read back as it was
written: the year with or without its sign, the month, the day, the hours, minutes and
seconds, and the fraction, whose digits are scaled to nanoseconds. The text as a whole is
then read field by field, and the range checks the reader makes all pass.
-/

namespace NetReconcile.Time

/-! ## Written numbers -/

/-- The fold that reads digits is the core's reading of digit characters. -/
theorem foldl_digits (l : List Char) (init : Nat) :
    l.foldl (fun acc c => acc * 10 + (c.toNat - '0'.toNat)) init = Nat.ofDigitChars 10 l init := by
  induction l generalizing init with
  | nil => rfl
  | cons c l ih => rw [List.foldl_cons, ih, Nat.ofDigitChars_cons, Nat.mul_comm init 10]

/-- A padded number is its digits after as many zeros as the width still asks for. -/
theorem padded_toList (w n : Nat) :
    (padded w n).toList = List.replicate (w - (Nat.toDigits 10 n).length) '0' ++ Nat.toDigits 10 n := by
  simp [padded]

theorem isDigit_of_mem_padded {w n : Nat} {c : Char} (h : c ∈ (padded w n).toList) : c.isDigit = true := by
  rw [padded_toList, List.mem_append, List.mem_replicate] at h
  rcases h with ⟨-, rfl⟩ | h
  · decide
  · exact Nat.isDigit_of_mem_toDigits (by decide) (by decide) h

theorem ofDigitChars_padded (w n : Nat) : Nat.ofDigitChars 10 (padded w n).toList 0 = n := by
  rw [padded_toList, Nat.ofDigitChars_append]
  simp

/-- A number below `10 ^ w` is written with exactly `w` characters. -/
theorem length_padded {w n : Nat} (hw : 0 < w) (h : n < Nat.pow 10 w) : (padded w n).toList.length = w := by
  have : (Nat.toDigits 10 n).length ≤ w := (Nat.length_toDigits_le_iff (by decide) hw).mpr h
  rw [padded_toList, List.length_append, List.length_replicate]
  omega

theorem le_length_padded (w n : Nat) : w ≤ (padded w n).toList.length := by
  rw [padded_toList, List.length_append, List.length_replicate]
  omega

/-! ## Reading numbers, blanks and literals -/

/-- Digits followed by what cannot continue them are read as their number. -/
theorem readNumber_append {ds rest : List Char} {lo hi : Nat} (hd : ∀ c ∈ ds, c.isDigit = true)
    (hlo : lo ≤ ds.length) (hhi : ds.length ≤ hi)
    (hrest : ds.length < hi → ∀ c ∈ rest.head?, c.isDigit = false)
    (hval : Nat.ofDigitChars 10 ds 0 ≤ 9223372036854775807) :
    readNumber (ds ++ rest) lo hi = .ok (Nat.ofDigitChars 10 ds 0, rest) := by
  have htake : (List.take hi (ds ++ rest)).takeWhile Char.isDigit = ds := by
    rw [List.take_append, List.take_of_length_le hhi, List.takeWhile_append_of_pos hd]
    suffices h : (List.take (hi - ds.length) rest).takeWhile Char.isDigit = [] by simp [h]
    rcases Nat.eq_zero_or_pos (hi - ds.length) with h0 | hpos
    · simp [h0]
    · cases rest with
      | nil => simp
      | cons c r =>
        have hc : c.isDigit = false := hrest (by omega) c rfl
        obtain ⟨k, hk⟩ : ∃ k, hi - ds.length = k + 1 := ⟨_, (Nat.succ_pred_eq_of_pos hpos).symm⟩
        simp [hk, hc]
  unfold readNumber
  simp only [htake, List.length_append, foldl_digits]
  rw [if_neg (by omega), if_neg (by omega), if_neg (by omega), List.drop_left]

/-- A written number followed by what cannot continue it is read back. -/
theorem readNumber_padded (w n lo hi : Nat) (rest : List Char)
    (hlo : lo ≤ (padded w n).toList.length) (hhi : (padded w n).toList.length ≤ hi)
    (hrest : (padded w n).toList.length < hi → ∀ c ∈ rest.head?, c.isDigit = false)
    (hval : n ≤ 9223372036854775807) :
    readNumber ((padded w n).toList ++ rest) lo hi = .ok (n, rest) := by
  have h := readNumber_append (fun c hc => isDigit_of_mem_padded hc) hlo hhi hrest
    (by rwa [ofDigitChars_padded])
  rwa [ofDigitChars_padded] at h

/-- A step that succeeds hands its result to the rest of the reading. -/
theorem ok_bind {ε α β : Type} (a : α) (f : α → Except ε β) : (Except.ok a >>= f) = f a := rfl

theorem isBlank_of_isDigit {c : Char} (h : c.isDigit = true) : isBlank c = false := by
  have hd := Char.isDigit_iff_toNat.mp h
  simp only [isBlank, ← Char.toNat_inj, Char.le_def, UInt32.le_iff_toNat_le, Char.toNat_val] at hd ⊢
  simp at hd ⊢
  omega

/-- Blanks are skipped only up to the first character that is no blank. -/
theorem trimBlanks_cons_of_not_blank {c : Char} (h : isBlank c = false) (cs : List Char) :
    trimBlanks (c :: cs) = c :: cs := by
  simp [trimBlanks, h]

/-- Leading blanks are all that reading a field skips, and a written number has none. -/
theorem trimBlanks_padded {w : Nat} (hw : 0 < w) (n : Nat) (rest : List Char) :
    trimBlanks ((padded w n).toList ++ rest) = (padded w n).toList ++ rest := by
  have hlen := le_length_padded w n
  cases h : (padded w n).toList with
  | nil => simp [h] at hlen; omega
  | cons c cs =>
    have hc : c.isDigit = true := isDigit_of_mem_padded (by rw [h]; exact List.mem_cons_self)
    rw [List.cons_append, trimBlanks_cons_of_not_blank (isBlank_of_isDigit hc)]

@[simp] theorem readLiteral_cons (c : Char) (cs : List Char) : readLiteral c (c :: cs) = .ok cs := by
  simp [readLiteral]

/-! ## The fields of a timestamp -/

/-- A two-digit field within its range is read back. -/
theorem readField_padded {n : Nat} (h : n < 100) {lo hi : Int} (hlo : lo ≤ n) (hhi : n ≤ hi)
    (rest : List Char) : readField ((padded 2 n).toList ++ rest) 2 lo hi = .ok (n, rest) := by
  have hlen : (padded 2 n).toList.length = 2 := length_padded (by decide) (show n < Nat.pow 10 2 from h)
  unfold readField
  rw [trimBlanks_padded (by decide),
    readNumber_padded 2 n 1 2 rest (by omega) (by omega) (by omega) (by omega)]
  simp [bind, Except.bind, hlo, hhi]

/-- A separator and the two-digit field after it are read back. -/
theorem readLiteral_bind_readField {β : Type} (c : Char) (n : Nat) (lo hi : Int) (rest : List Char)
    (hc : isBlank c = false) (h : n < 100) (hlo : lo ≤ n) (hhi : n ≤ hi)
    (k : Int × List Char → Except TimeError β) :
    (readLiteral c (trimBlanks (c :: ((padded 2 n).toList ++ rest))) >>= fun cs =>
      readField cs 2 lo hi >>= k) = k (n, rest) := by
  rw [trimBlanks_cons_of_not_blank hc, readLiteral_cons, ok_bind, readField_padded h hlo hhi, ok_bind]

/-- A year of the calendar is read back: four digits, or a sign and its digits, followed
by what is no digit. -/
theorem readYear_yearText {y : Int} (hlo : calendarFirstYear ≤ y) (hhi : y ≤ calendarLastYear)
    {rest : List Char} (hr : ∀ c ∈ rest.head?, c.isDigit = false) :
    readYear ((yearText y).toList ++ rest) = .ok (y, rest) := by
  unfold calendarFirstYear at hlo
  unfold calendarLastYear at hhi
  unfold readYear yearText
  by_cases hy : 0 ≤ y ∧ y ≤ 9999
  · rw [if_pos hy]
    have h4 : y.toNat < Nat.pow 10 4 := by
      rw [show Nat.pow 10 4 = 10000 from rfl]
      omega
    have hlen : (padded 4 y.toNat).toList.length = 4 := length_padded (by decide) h4
    have hread := readNumber_padded 4 y.toNat 1 4 rest (by omega) (by omega) (by omega) (by omega)
    rw [trimBlanks_padded (by decide)]
    obtain ⟨c, cs, hcs⟩ : ∃ c cs, (padded 4 y.toNat).toList = c :: cs := by
      cases h : (padded 4 y.toNat).toList with
      | nil => simp [h] at hlen
      | cons c cs => exact ⟨c, cs, rfl⟩
    have hc : c.isDigit = true := isDigit_of_mem_padded (by rw [hcs]; exact List.mem_cons_self)
    rw [hcs] at hread ⊢
    split
    next heq => exact absurd ((List.cons.inj heq).1 ▸ hc) (by decide)
    next heq => exact absurd ((List.cons.inj heq).1 ▸ hc) (by decide)
    next =>
      rw [hread]
      simp [bind, Except.bind, Int.toNat_of_nonneg hy.1]
      omega
  · rw [if_neg hy]
    have hread := readNumber_padded 4 y.natAbs 1 ((padded 4 y.natAbs).toList ++ rest).length rest
      (by have := le_length_padded 4 y.natAbs; omega) (by simp) (fun _ => hr) (by omega)
    by_cases hneg : y < 0
    · simp only [hneg, if_true, String.toList_append, show "-".toList = ['-'] from rfl,
        List.cons_append, List.nil_append, trimBlanks_cons_of_not_blank (show isBlank '-' = false by decide)]
      rw [hread]
      simp only [bind, Except.bind, pure, Except.pure]
      have : -((y.natAbs : Nat) : Int) = y := by omega
      simp only [this]
      rw [if_neg (by omega)]
    · simp only [hneg, if_false, String.toList_append, show "+".toList = ['+'] from rfl,
        List.cons_append, List.nil_append, trimBlanks_cons_of_not_blank (show isBlank '+' = false by decide)]
      rw [hread]
      simp only [bind, Except.bind]
      have : ((y.natAbs : Nat) : Int) = y := by omega
      simp only [this]
      rw [if_neg (by omega)]

theorem dropWhile_isDigit_of_head {rest : List Char} (hr : ∀ c ∈ rest.head?, c.isDigit = false) :
    rest.dropWhile Char.isDigit = rest := by
  cases rest with
  | nil => rfl
  | cons c r => simp [hr c rfl]

/-- The digits of a fraction are read back as nanoseconds: `k` digits stand for the
nanoseconds scaled by `10 ^ (9 - k)`. -/
theorem readFraction_padded {k n : Nat} (hk : 0 < k) (hk9 : k ≤ 9) (hn : n < Nat.pow 10 k)
    {rest : List Char} (hr : ∀ c ∈ rest.head?, c.isDigit = false) :
    readFraction ((padded k n).toList ++ rest) = .ok (n * Nat.pow 10 (9 - k), rest) := by
  have hlen := length_padded hk hn
  have hval : n < 9223372036854775807 := by
    have h9 : Nat.pow 10 k ≤ Nat.pow 10 9 := Nat.pow_le_pow_right (by decide) hk9
    have : Nat.pow 10 9 = 1000000000 := rfl
    omega
  have hread := readNumber_padded k n 1 9 rest (by omega) (by omega) (fun _ => hr) (by omega)
  unfold readFraction
  rw [hread]
  simp only [bind, Except.bind, List.length_append, hlen, Nat.add_sub_cancel, Int.toNat_natCast,
    dropWhile_isDigit_of_head hr]

/-- The fraction of a second is written with none, three, six or nine digits. -/
theorem fractionText_cases {f : Nat} (hf : f < 1000000000) :
    (f = 0 ∧ fractionText f = "") ∨
      ∃ k n, 0 < k ∧ k ≤ 9 ∧ n < Nat.pow 10 k ∧ n * Nat.pow 10 (9 - k) = f ∧
        fractionText f = "." ++ padded k n := by
  unfold fractionText
  by_cases h0 : f = 0
  · exact .inl ⟨h0, if_pos h0⟩
  refine .inr ?_
  rw [if_neg h0]
  by_cases h6 : f % 1000000 = 0
  · refine ⟨3, f / 1000000, by decide, by decide, ?_, ?_, if_pos h6⟩ <;>
      simp only [Nat.pow_eq, Nat.reducePow, Nat.reduceSub] <;> omega
  rw [if_neg h6]
  by_cases h3 : f % 1000 = 0
  · refine ⟨6, f / 1000, by decide, by decide, ?_, ?_, if_pos h3⟩ <;>
      simp only [Nat.pow_eq, Nat.reducePow, Nat.reduceSub] <;> omega
  · refine ⟨9, f, by decide, by decide, ?_, ?_, if_neg h3⟩ <;>
      simp only [Nat.pow_eq, Nat.reducePow, Nat.reduceSub] <;> omega

/-! ## Whole timestamps -/

/-- The text `write` lays out for a date and a time of day: the second as it is read, 60
for a leap second, then the given fraction and the zone `Z`. -/
def utcText (y : Int) (m d h mi s : Nat) (fraction : String) : String :=
  yearText y ++ "-" ++ padded 2 m ++ "-" ++ padded 2 d ++ "T" ++ padded 2 h ++ ":" ++
    padded 2 mi ++ ":" ++ padded 2 s ++ fraction ++ "Z"

/-- The second `60` is read as the 59th with a second billion nanoseconds. -/
theorem leapSecond_pair {s : Nat} (hs : s ≤ 60) (f : Nat) :
    (if (s : Int) = 60 then ((59 : Int), f + 1000000000) else ((s : Int), f)) =
      (((min s 59 : Nat) : Int), if s = 60 then f + 1000000000 else f) := by
  by_cases h : s = 60
  · subst h
    rfl
  · have hs' : (s : Int) ≠ 60 := by omega
    rw [if_neg hs', if_neg h, Nat.min_eq_left (by omega)]

/-- A date and time of the calendar, written in universal time, is read back as its second
and nanosecond; a leap second, written as the 60th second of a minute, is read as the 59th
with a second billion nanoseconds. -/
theorem read_utcText {y : Int} {m d h mi s f : Nat} (hy1 : calendarFirstYear ≤ y)
    (hy2 : y ≤ calendarLastYear) (hdate : ValidDate y m d) (hh : h ≤ 23) (hmi : mi ≤ 59)
    (hs : s ≤ 60) (hf : f < 1000000000)
    (hfirst : daysFromCivil calendarFirstYear 1 1 * secondsPerDay ≤
      daysFromCivil y m d * secondsPerDay + h * 3600 + mi * 60 + min s 59)
    (hlast : daysFromCivil y m d * secondsPerDay + h * 3600 + mi * 60 + min s 59 <
      (daysFromCivil calendarLastYear 12 31 + 1) * secondsPerDay) :
    Timestamp.read (utcText y m d h mi s (fractionText f)) =
      .ok ⟨daysFromCivil y m d * secondsPerDay + h * 3600 + mi * 60 + min s 59,
        if s = 60 then f + 1000000000 else f⟩ := by
  obtain ⟨hm1, hm12, hd1, hdm⟩ := hdate
  have hd31 := daysInMonth_le_31 y m
  unfold Timestamp.read utcText
  simp only [String.toList_append, List.append_assoc, show "-".toList = ['-'] from rfl,
    show ":".toList = [':'] from rfl, show "T".toList = ['T'] from rfl,
    show "Z".toList = ['Z'] from rfl, List.cons_append, List.nil_append]
  rw [readYear_yearText hy1 hy2 (by simp), ok_bind]
  dsimp only
  rw [readLiteral_bind_readField '-' m 1 12 _ (by decide) (by omega) (by omega) (by omega)]
  dsimp only
  rw [readLiteral_bind_readField '-' d 1 31 _ (by decide) (by omega) (by omega) (by omega)]
  dsimp only
  simp only [true_or, if_true, pure_bind]
  rw [readField_padded (show h < 100 by omega) (show (0 : Int) ≤ h by omega)
    (show (h : Int) ≤ 23 by omega), ok_bind]
  dsimp only
  rw [readLiteral_bind_readField ':' mi 0 59 _ (by decide) (by omega) (by omega) (by omega)]
  dsimp only
  rw [readLiteral_bind_readField ':' s 0 60 _ (by decide) (by omega) (by omega) (by omega)]
  dsimp only
  split
  case' h_1 rest heq =>
    rcases fractionText_cases hf with ⟨-, hft⟩ | ⟨k, n, hk, hk9, hkn, hval, hft⟩
    · simp [hft] at heq
    obtain rfl : rest = (padded k n).toList ++ ['Z'] := by simpa [hft] using heq.symm
    rw [readFraction_padded hk hk9 hkn (by simp), ok_bind, hval]
  case' h_2 hne =>
    obtain rfl : f = 0 := by
      rcases fractionText_cases hf with ⟨h0, -⟩ | ⟨k, n, -, -, -, -, hft⟩
      · exact h0
      · exact absurd (by simp [hft]) (hne ((padded k n).toList ++ ['Z']))
    simp only [show (fractionText 0).toList = [] from rfl, List.nil_append]
  all_goals
    have hutc : startsWithUtc ['Z'] = false := rfl
    have hoff : readOffset ['Z'] = .ok (0, []) := rfl
    simp only [trimBlanks_cons_of_not_blank (show isBlank 'Z' = false by decide), hutc, hoff,
      Bool.false_eq_true, ↓reduceIte, ok_bind]
    simp only [show trimBlanks [] = [] from rfl, List.isEmpty_nil, Bool.not_true,
      Bool.false_eq_true, ↓reduceIte, Int.toNat_natCast, show ¬ d > daysInMonth y m by omega,
      show ¬ (y < calendarFirstYear ∨ y > calendarLastYear) by omega,
      show ¬ ((0 : Int) ≤ -86400 ∨ (0 : Int) ≥ 86400) by decide]
    rw [leapSecond_pair hs, Int.sub_zero, if_neg (by omega)]

/-- A timestamp that names a date and time of the calendar: its second lies within the
calendar's range, its nanosecond count is below two billion, and a count of a billion or
more, a leap second, falls on the last second of a minute. -/
def Timestamp.Valid (t : Timestamp) : Prop :=
  daysFromCivil calendarFirstYear 1 1 * secondsPerDay ≤ t.seconds ∧
    t.seconds < (daysFromCivil calendarLastYear 12 31 + 1) * secondsPerDay ∧
    t.nanos < 2000000000 ∧ (1000000000 ≤ t.nanos → t.seconds % 60 = 59)

/-- Writing lays a timestamp out as the date of its day and the time of its second of the
day, a leap second as the 60th second of its minute. -/
theorem Timestamp.write_eq_utcText (t : Timestamp) :
    t.write = utcText (civilFromDays (t.seconds.fdiv secondsPerDay)).1
      (civilFromDays (t.seconds.fdiv secondsPerDay)).2.1
      (civilFromDays (t.seconds.fdiv secondsPerDay)).2.2
      ((t.seconds.fmod secondsPerDay).toNat / 3600) ((t.seconds.fmod secondsPerDay).toNat / 60 % 60)
      ((t.seconds.fmod secondsPerDay).toNat % 60 + if t.nanos ≥ 1000000000 then 1 else 0)
      (fractionText (t.nanos % 1000000000)) := by
  dsimp only [Timestamp.write]
  generalize civilFromDays (t.seconds.fdiv secondsPerDay) = date
  obtain ⟨y, m, d⟩ := date
  rfl

/-- Reading what is written gives every valid timestamp back. -/
theorem Timestamp.read_write {t : Timestamp} (h : t.Valid) : Timestamp.read t.write = .ok t := by
  obtain ⟨h1, h2, hn, hleap⟩ := h
  have hfd := Int.fdiv_eq_ediv_of_nonneg t.seconds (show (0 : Int) ≤ secondsPerDay by decide)
  have hfm := Int.fmod_eq_emod_of_nonneg t.seconds (show (0 : Int) ≤ secondsPerDay by decide)
  unfold secondsPerDay at h1 h2 hfd hfm
  obtain ⟨hdate, hdays⟩ := civilFromDays_spec (t.seconds.fdiv secondsPerDay)
  have hz1 : daysFromCivil calendarFirstYear 1 1 ≤ t.seconds.fdiv secondsPerDay := by
    unfold secondsPerDay; omega
  have hz2 : t.seconds.fdiv secondsPerDay ≤ daysFromCivil calendarLastYear 12 31 := by
    unfold secondsPerDay; omega
  obtain ⟨hy1, hy2⟩ := civilFromDays_year_mem hz1 hz2
  rw [Timestamp.write_eq_utcText]
  generalize (civilFromDays (t.seconds.fdiv secondsPerDay)) = date at *
  obtain ⟨y, m, d⟩ := date
  dsimp only at hdate hdays hy1 hy2 ⊢
  unfold secondsPerDay at hdays ⊢
  generalize hsod : (t.seconds.fmod 86400).toNat = sod
  have hsec : t.seconds = t.seconds.fdiv 86400 * 86400 + sod := by omega
  have hsod : sod < 86400 := by omega
  have hs59 : t.nanos ≥ 1000000000 → sod % 60 = 59 := fun hl => by have := hleap hl; omega
  have hh : sod / 3600 ≤ 23 := by omega
  have hmi : sod / 60 % 60 ≤ 59 := by omega
  have hs : sod % 60 + (if t.nanos ≥ 1000000000 then 1 else 0) ≤ 60 := by
    by_cases hl : t.nanos ≥ 1000000000
    · rw [if_pos hl]; omega
    · rw [if_neg hl]; omega
  have hf : t.nanos % 1000000000 < 1000000000 := Nat.mod_lt _ (by decide)
  have hwall : daysFromCivil y m d * secondsPerDay + ((sod / 3600 : Nat) : Int) * 3600 +
      ((sod / 60 % 60 : Nat) : Int) * 60 +
      ((min (sod % 60 + if t.nanos ≥ 1000000000 then 1 else 0) 59 : Nat) : Int) = t.seconds := by
    unfold secondsPerDay
    by_cases hl : t.nanos ≥ 1000000000
    · rw [if_pos hl]; omega
    · rw [if_neg hl]; omega
  have hnano : (if sod % 60 + (if t.nanos ≥ 1000000000 then 1 else 0) = 60 then
      t.nanos % 1000000000 + 1000000000 else t.nanos % 1000000000) = t.nanos := by
    by_cases hl : t.nanos ≥ 1000000000
    · rw [if_pos hl, if_pos (by omega)]
      omega
    · rw [if_neg hl, if_neg (by omega)]
      omega
  rw [read_utcText hy1 hy2 hdate hh hmi hs hf (by rw [hwall]; unfold secondsPerDay; omega)
    (by rw [hwall]; unfold secondsPerDay; omega), hwall, hnano]

end NetReconcile.Time
