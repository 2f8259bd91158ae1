import NetReconcile.Proofs.ReaderSteps

/-!
# Written strings read back

A string is written between quotes with the quote, the backslash and the control
characters escaped: the quote and the backslash behind a backslash, line feed, carriage
return and tab by their letters, any other control character as `\u` and four hexadecimal
digits. Every other character is written as its UTF-8 bytes, none of which is a quote, a
backslash or a control byte. Reading the body of a string takes one step per escape and
one per plain byte, and collects exactly the UTF-8 bytes of the characters written
(`stringBody_written`), which are read back as the text itself (`textOf_bytes`). So a
string that was written is read back as it was (`string_leads`, `expectString_leads`), and
stepped over (`skipString_leads`), whatever characters it holds.
-/

namespace NetReconcile.Json

open Text
open String (utf8EncodeChar)

namespace Scan

/-- The bytes a character is written as inside a string. -/
def escBytes (c : Char) : List UInt8 := bytes (escapeChar c)

/-- Whether a character is written as an escape. -/
def Escaped (c : Char) : Prop := c = '"' ∨ c = '\\' ∨ c.toNat < 0x20

instance (c : Char) : Decidable (Escaped c) := inferInstanceAs (Decidable (_ ∨ _ ∨ _))

/-- The steps reading a written character takes: one for an escape, one per byte
otherwise. -/
def steps (c : Char) : Nat := if Escaped c then 1 else (utf8EncodeChar c).length

/-- A byte that stands for itself inside a string. -/
def Plain (b : UInt8) : Prop := 0x20 ≤ b.toNat ∧ b ≠ 0x22 ∧ b ≠ 0x5C

/-! ## Bytes of texts -/

theorem bytes_append (s t : String) : bytes (s ++ t) = bytes s ++ bytes t := by
  simp [bytes_eq]

theorem bytes_join (l : List String) : bytes (String.join l) = l.flatMap bytes := by
  rw [bytes_eq, String.toList_join, List.flatMap_assoc]
  exact congrArg (List.flatMap · l) (funext fun x => (bytes_eq x).symm)

theorem bytes_ofList (l : List Char) : bytes (String.ofList l) = l.flatMap utf8EncodeChar := by
  simp [bytes_eq]

/-- The bytes of a text are read back as the text. -/
theorem textOf_bytes (s : String) : textOf (bytes s) = s := by
  unfold textOf bytes
  rw [Digest.byteArray_toList, Array.toArray_toList]
  simp only [String.fromUTF8?, String.fromUTF8, dif_pos s.isValidUTF8]
  rfl

theorem utf8Bytes_eq (n : Nat) : utf8Bytes n = utf8EncodeChar (Char.ofNat n) := by
  rw [utf8Bytes, String.toUTF8_eq_toByteArray]
  change bytes _ = _
  simp [bytes_eq]

/-! ## UTF-8 bytes -/

theorem utf8EncodeChar_of_lt {c : Char} (h : c.toNat < 0x80) :
    utf8EncodeChar c = [UInt8.ofNat c.toNat] := by
  have hc : c.utf8Size = 1 := by
    rw [Char.utf8Size_eq_one_iff, UInt32.le_iff_toNat_le]
    exact Nat.le_of_lt_succ h
  rw [String.utf8EncodeChar_eq_singleton hc]
  rfl

/-- Outside ASCII, every byte of a character is at least `0x80`. -/
theorem le_of_mem_utf8EncodeChar {c : Char} (h : 0x80 ≤ c.toNat) {b : UInt8}
    (hb : b ∈ utf8EncodeChar c) : 0x80 ≤ b.toNat := by
  have hv : 0x80 ≤ c.val.toNat := h
  have hlt : c.val.toNat < 0x110000 := by
    rcases c.valid with hd | ⟨-, hd⟩
    · exact Nat.lt_trans hd (by decide)
    · exact hd
  simp only [String.utf8EncodeChar, if_neg (show ¬ c.val.toNat ≤ 0x7f by omega)] at hb
  split_ifs at hb <;>
    simp only [List.mem_cons, List.not_mem_nil, or_false] at hb <;>
    rcases hb with rfl | rfl | rfl | rfl <;>
    simp (disch := omega) only [UInt8.toNat_ofNat', Nat.mod_eq_of_lt] <;>
    omega

/-- A character written as itself is written as plain bytes. -/
theorem plain_of_mem_utf8EncodeChar {c : Char} (hc : ¬ Escaped c) {b : UInt8}
    (hb : b ∈ utf8EncodeChar c) : Plain b := by
  simp only [Escaped, not_or] at hc
  obtain ⟨hq, hs, hlo⟩ := hc
  by_cases h : c.toNat < 0x80
  · rw [utf8EncodeChar_of_lt h, List.mem_singleton] at hb
    subst hb
    have hq' : c.toNat ≠ 0x22 := fun he => hq (Char.toNat_inj.mp he)
    have hs' : c.toNat ≠ 0x5C := fun he => hs (Char.toNat_inj.mp he)
    refine ⟨?_, ?_, ?_⟩ <;>
      simp [← UInt8.toNat_inj, Nat.mod_eq_of_lt (show c.toNat < 256 by omega)] <;>
      omega
  · have := le_of_mem_utf8EncodeChar (by omega) hb
    refine ⟨by omega, ?_, ?_⟩ <;> intro he <;> subst he <;> simp at this

/-! ## Escapes -/

theorem escapeChar_of_not_escaped {c : Char} (hc : ¬ Escaped c) :
    escapeChar c = String.singleton c := by
  simp only [Escaped, not_or] at hc
  obtain ⟨hq, hs, hlo⟩ := hc
  have hn : c ≠ '\n' := by rintro rfl; exact hlo (by decide)
  have hr : c ≠ '\r' := by rintro rfl; exact hlo (by decide)
  have ht : c ≠ '\t' := by rintro rfl; exact hlo (by decide)
  simp [escapeChar, hq, hs, hn, hr, ht, hlo]

theorem escBytes_of_not_escaped {c : Char} (hc : ¬ Escaped c) : escBytes c = utf8EncodeChar c := by
  rw [escBytes, escapeChar_of_not_escaped hc, bytes_eq]
  simp

/-- The hexadecimal digits are ASCII and read back as their values. -/
theorem hexValue_digitChar : ∀ d < 16,
    (Nat.digitChar d).toNat < 0x80 ∧ hexValue (UInt8.ofNat (Nat.digitChar d).toNat) = some d := by
  decide

theorem bytes_hex4 (n : Nat) : bytes (hex4 n) =
    [3, 2, 1, 0].map fun k => UInt8.ofNat (Nat.digitChar (n / Nat.pow 16 k % 16)).toNat := by
  have hd := fun k => (hexValue_digitChar (n / Nat.pow 16 k % 16) (Nat.mod_lt _ (by decide))).1
  unfold hex4
  rw [bytes_ofList]
  simp only [List.flatMap_cons, List.flatMap_nil, utf8EncodeChar_of_lt (hd 3),
    utf8EncodeChar_of_lt (hd 2), utf8EncodeChar_of_lt (hd 1), utf8EncodeChar_of_lt (hd 0),
    List.map_cons, List.map_nil, List.append_nil, List.singleton_append]

/-- A control character other than line feed, carriage return and tab is written by its
code. -/
theorem escBytes_of_control {c : Char} (hc : c.toNat < 0x20) (hn : c ≠ '\n') (hr : c ≠ '\r')
    (ht : c ≠ '\t') : escBytes c = 0x5C :: 0x75 :: bytes (hex4 c.toNat) := by
  have hq : c ≠ '"' := by rintro rfl; exact absurd hc (by decide)
  have hs : c ≠ '\\' := by rintro rfl; exact absurd hc (by decide)
  rw [escBytes, escapeChar, if_neg hq, if_neg hs, if_neg hn, if_neg hr, if_neg ht, if_pos hc,
    bytes_append, show bytes "\\u" = [0x5C, 0x75] by rw [bytes_eq]; rfl]
  rfl

variable {keep : Bool} {n : Nat} {acc rest : List UInt8}

theorem hexEscape_leads (rest : List UInt8) {a b d e : UInt8} {x y z w : Nat}
    (ha : hexValue a = some x) (hb : hexValue b = some y) (hd : hexValue d = some z)
    (he : hexValue e = some w) :
    Leads hexEscape (pure (((x * 16 + y) * 16 + z) * 16 + w)) [a, b, d, e] rest := by
  intro c hc
  refine ⟨c.advance.advance.advance.advance,
    advance_rest (advance_rest (advance_rest (advance_rest hc))), ?_⟩
  simp [hexEscape, exec_bind, exec_map, hc, eat, ha, hb, hd, he]

/-- Four hexadecimal digits written for a code unit are read back as it. -/
theorem hexEscape_hex4 (h : n < 0x10000) : Leads hexEscape (pure n) (bytes (hex4 n)) rest := by
  have hv := fun k => (hexValue_digitChar (n / Nat.pow 16 k % 16) (Nat.mod_lt _ (by decide))).2
  have hn : ((n / Nat.pow 16 3 % 16 * 16 + n / Nat.pow 16 2 % 16) * 16 +
      n / Nat.pow 16 1 % 16) * 16 + n / Nat.pow 16 0 % 16 = n := by
    simp only [Nat.pow_eq, Nat.reducePow, Nat.div_one]
    omega
  rw [bytes_hex4, List.map_cons, List.map_cons, List.map_cons, List.map_cons, List.map_nil]
  simpa only [hn] using hexEscape_leads rest (hv 3) (hv 2) (hv 1) (hv 0)

/-- A `\u` escape of a code point outside the surrogates stands for its UTF-8 bytes. -/
theorem unicodeEscape_hex4 (h : n < 0xD800) :
    Leads unicodeEscape (pure (utf8Bytes n)) (bytes (hex4 n)) rest := by
  rw [unicodeEscape]
  refine ((hexEscape_hex4 (by omega)).bind_pure _).congr_right ?_
  rw [if_neg (by omega), if_pos (by omega)]

theorem escape_hex4 (h : n < 0xD800) :
    Leads (escape keep) (pure (if keep then utf8Bytes n else [])) (0x75 :: bytes (hex4 n))
      rest := by
  rw [escape]
  refine ((next_leads 0x75 (bytes (hex4 n) ++ rest)).bind_pure _).trans ?_
  change Leads (if keep then unicodeEscape else do let _ ← hexEscape; pure []) _ _ _
  cases keep with
  | true => exact unicodeEscape_hex4 h
  | false => exact (hexEscape_hex4 (by omega)).bind_pure _

/-- An escaped character is a backslash and an escape that stands for its bytes. -/
theorem escape_of_escaped (keep : Bool) (rest : List UInt8) {c : Char} (hc : Escaped c) :
    ∃ bs out, escBytes c = 0x5C :: bs ∧ Leads (escape keep) (pure out) bs rest ∧
      (keep = true → out = utf8EncodeChar c) := by
  by_cases hs : c = '"' ∨ c = '\\' ∨ c = '\n' ∨ c = '\r' ∨ c = '\t'
  · rcases hs with rfl | rfl | rfl | rfl | rfl <;>
      exact ⟨_, _, by rw [escBytes, bytes_eq]; rfl,
        by rw [escape]; exact ((next_leads _ rest).bind_pure _).congr_right rfl, fun _ => rfl⟩
  · simp only [not_or] at hs
    obtain ⟨hq, hb, hn, hr, ht⟩ := hs
    have hlt : c.toNat < 0x20 := by simpa [Escaped, hq, hb] using hc
    refine ⟨_, _, escBytes_of_control hlt hn hr ht, escape_hex4 (by omega), fun hk => ?_⟩
    rw [if_pos hk, utf8Bytes_eq, Char.ofNat_toNat]

/-! ## The body of a string -/

/-- A plain byte is collected. -/
theorem stringBody_plain {b : UInt8} (hb : Plain b) :
    Leads (stringBody keep (n + 1) acc) (stringBody keep n (b :: acc)) [b] rest := by
  obtain ⟨hlo, hq, hs⟩ := hb
  have hlt : ¬ b < 0x20 := by
    rw [UInt8.lt_iff_toNat_lt]
    simpa using hlo
  rw [stringBody]
  refine ((peek_leads b rest).bind_pure _).trans_nil ?_
  simp only [beq_iff_eq, hq, hs, hlt, if_false]
  exact (eat_leads b rest).bind_pure _

/-- Plain bytes are collected one step each. -/
theorem stringBody_plains (bs : List UInt8) (hbs : ∀ b ∈ bs, Plain b) :
    ∀ n acc, Leads (stringBody keep (n + bs.length) acc) (stringBody keep n (bs.reverse ++ acc))
      bs rest := by
  induction bs with
  | nil => exact fun n acc => Leads.refl _ _
  | cons b bs ih =>
    intro n acc
    have hstep : Leads (stringBody keep (n + bs.length + 1) acc)
        (stringBody keep (n + bs.length) (b :: acc)) [b] (bs ++ rest) :=
      stringBody_plain (hbs b (List.mem_cons_self ..))
    have := hstep.trans (ih (fun x hx => hbs x (List.mem_cons_of_mem _ hx)) n (b :: acc))
    simpa [Nat.add_assoc, Nat.add_comm 1] using this

/-- A backslash and the escape after it collect what the escape stands for. -/
theorem stringBody_escape {bs out : List UInt8} (h : Leads (escape keep) (pure out) bs rest) :
    Leads (stringBody keep (n + 1) acc) (stringBody keep n (out.reverse ++ acc)) (0x5C :: bs)
      rest := by
  rw [stringBody]
  refine ((peek_leads 0x5C (bs ++ rest)).bind_pure _).trans_nil ?_
  change Leads (do eat; let bs ← escape keep; stringBody keep n (bs.reverse ++ acc)) _ _ _
  exact ((eat_leads 0x5C (bs ++ rest)).bind_pure _).trans (h.bind_pure _)

/-- The closing quote ends the body with the bytes collected. -/
theorem stringBody_close : Leads (stringBody keep (n + 1) acc) (pure acc.reverse) [0x22] rest := by
  rw [stringBody]
  refine ((peek_leads 0x22 rest).bind_pure _).trans_nil ?_
  change Leads (do eat; pure acc.reverse) _ _ _
  exact (eat_leads 0x22 rest).bind_pure _

/-- A written character is read in `steps` steps and collects its UTF-8 bytes. -/
theorem stringBody_char (keep : Bool) (rest : List UInt8) (c : Char) (n : Nat) (acc : List UInt8) :
    ∃ out, Leads (stringBody keep (n + steps c) acc) (stringBody keep n (out.reverse ++ acc))
      (escBytes c) rest ∧ (keep = true → out = utf8EncodeChar c) := by
  by_cases hc : Escaped c
  · rw [steps, if_pos hc]
    obtain ⟨bs, out, hbs, hesc, hout⟩ := escape_of_escaped keep rest hc
    exact ⟨out, hbs ▸ stringBody_escape hesc, hout⟩
  · rw [steps, if_neg hc, escBytes_of_not_escaped hc]
    exact ⟨_, stringBody_plains _ (fun b hb => plain_of_mem_utf8EncodeChar hc hb) n acc,
      fun _ => rfl⟩

/-- The written characters are read one after another and collect their UTF-8 bytes. -/
theorem stringBody_chars (keep : Bool) (rest : List UInt8) (l : List Char) : ∀ n acc, ∃ out,
    Leads (stringBody keep (n + (l.map steps).sum) acc) (stringBody keep n (out.reverse ++ acc))
      (l.flatMap escBytes) rest ∧ (keep = true → out = l.flatMap utf8EncodeChar) := by
  induction l with
  | nil => exact fun n acc => ⟨[], by simpa using Leads.refl _ rest, fun _ => rfl⟩
  | cons c l ih =>
    intro n acc
    obtain ⟨out₁, h₁, hout₁⟩ := stringBody_char keep (l.flatMap escBytes ++ rest) c
      (n + (l.map steps).sum) acc
    obtain ⟨out₂, h₂, hout₂⟩ := ih n (out₁.reverse ++ acc)
    refine ⟨out₁ ++ out₂, ?_, fun hk => by rw [hout₁ hk, hout₂ hk, List.flatMap_cons]⟩
    have := h₁.trans h₂
    simpa [Nat.add_assoc, Nat.add_comm (steps c)] using this

theorem steps_le (c : Char) : steps c ≤ (escBytes c).length := by
  rw [steps]
  split_ifs with hc
  · obtain ⟨bs, -, hbs, -⟩ := escape_of_escaped true [] hc
    simp [hbs]
  · rw [escBytes_of_not_escaped hc]

/-- Reading written characters takes no more steps than they have bytes. -/
theorem sum_steps_le (l : List Char) : (l.map steps).sum ≤ (l.flatMap escBytes).length := by
  induction l with
  | nil => simp
  | cons c l ih =>
    have := steps_le c
    simp only [List.map_cons, List.sum_cons, List.flatMap_cons, List.length_append]
    omega

/-- The body of a written string, read with fuel to spare. -/
theorem stringBody_written (keep : Bool) (l : List Char) (fuel : Nat) (rest : List UInt8)
    (hfuel : (l.flatMap escBytes).length < fuel) : ∃ out,
    Leads (stringBody keep fuel []) (pure out) (l.flatMap escBytes ++ [0x22]) rest ∧
      (keep = true → out = l.flatMap utf8EncodeChar) := by
  have hsum := sum_steps_le l
  obtain ⟨n, rfl⟩ : ∃ n, fuel = n + 1 + (l.map steps).sum :=
    ⟨fuel - 1 - (l.map steps).sum, by omega⟩
  obtain ⟨out, h, hout⟩ := stringBody_chars keep ([0x22] ++ rest) l (n + 1) []
  have hclose : Leads (stringBody keep (n + 1) (out.reverse ++ []))
      (pure (out.reverse ++ []).reverse) [0x22] rest :=
    stringBody_close
  refine ⟨out, ?_, hout⟩
  simpa using h.trans hclose

theorem bytes_writeString (x : String) :
    bytes (writeString x) = 0x22 :: (x.toList.flatMap escBytes ++ [0x22]) := by
  rw [writeString, bytes_append, bytes_append, bytes_join, List.flatMap_map,
    show bytes "\"" = [0x22] by rw [bytes_eq]; rfl]
  rfl

/-- The fuel a string is read with, one step a byte ahead, is to spare. -/
theorem body_lt_fuel {c : Cursor} {l : List Char}
    (hc : c.rest = (l.flatMap escBytes ++ [0x22]) ++ rest) :
    (l.flatMap escBytes).length < c.rest.length + 1 := by
  simp only [hc, List.length_append, List.length_singleton]
  omega

/-- A written string is read back as it was. -/
theorem string_leads (x : String) :
    Leads string (pure x) (x.toList.flatMap escBytes ++ [0x22]) rest := by
  intro c hc
  obtain ⟨out, h, hout⟩ :=
    stringBody_written true x.toList (c.rest.length + 1) rest (body_lt_fuel hc)
  obtain ⟨c', hc', he⟩ := (h.map textOf) c hc
  refine ⟨c', hc', ?_⟩
  rw [hout rfl, ← bytes_eq, textOf_bytes] at he
  simpa [string, exec_bind, exec_map] using he

/-- A written string is stepped over. -/
theorem skipString_leads (x : String) :
    Leads skipString (pure ()) (x.toList.flatMap escBytes ++ [0x22]) rest := by
  intro c hc
  obtain ⟨out, h, -⟩ :=
    stringBody_written false x.toList (c.rest.length + 1) rest (body_lt_fuel hc)
  obtain ⟨c', hc', he⟩ := (h.bind_pure fun _ => pure ()) c hc
  exact ⟨c', hc', by simpa [skipString, exec_bind] using he⟩

/-- Where a string is expected, a written one is read back as it was. -/
theorem expectString_leads (e x : String) :
    Leads (expectString e) (pure x) (bytes (writeString x)) rest := by
  rw [expectString, bytes_writeString]
  refine ((blanks_leads (by decide) _).bind_pure _).trans_nil ?_
  exact placed_leads (((eat_leads 0x22 _).bind_pure _).trans (string_leads x))

end Scan

end NetReconcile.Json
