import Mathlib.Tactic.SplitIfs
import NetReconcile.Proofs.Fingerprint

/-!
# UTF-8 keeps the order of texts

Texts are compared here character by character, by code point; an ordered map of texts
compares its keys by their UTF-8 bytes. UTF-8 is built so that the two agree. A character
with a smaller code point has a smaller first byte when it takes more bytes, and otherwise
the same number of bytes, spelling the code point in base 64 behind a fixed lead; so at the
first byte where two encodings differ the smaller character has the smaller byte, whatever
follows either (`utf8EncodeChar_append_lt`). Hence a text is below another exactly when
its bytes are (`lt_iff_bytes_lt`), and it starts with another exactly when its bytes start
with the other's bytes (`startsWith_iff_bytes`).
-/

namespace NetReconcile.Text

open String

/-- The UTF-8 bytes of a text. -/
def bytes (s : String) : List UInt8 := s.toByteArray.toList

/-- The bytes of a text are the encodings of its characters, one after another. -/
theorem bytes_eq (s : String) : bytes s = s.toList.flatMap utf8EncodeChar := by
  rw [bytes, Digest.byteArray_toList, ← String.utf8Encode_toList, List.utf8Encode,
    List.toList_data_toByteArray]

/-- The encoding of a smaller character is smaller at the first byte where the two
encodings differ, whatever bytes follow each. -/
theorem utf8EncodeChar_append_lt {c d : Char} (h : c < d) (x y : List UInt8) :
    utf8EncodeChar c ++ x < utf8EncodeChar d ++ y := by
  have hv : c.val.toNat < d.val.toNat := h
  have hd : d.val.toNat < 0x110000 := by
    rcases d.valid with hd | ⟨-, hd⟩
    · exact Nat.lt_trans hd (by decide)
    · exact hd
  dsimp only [utf8EncodeChar]
  split_ifs <;>
    simp only [List.cons_append, List.nil_append, List.cons_lt_cons_iff, UInt8.lt_iff_toNat_lt,
      UInt8.toNat_ofNat', ← UInt8.toNat_inj] <;>
    simp (disch := omega) only [Nat.mod_eq_of_lt] <;>
    omega

/-- Lexicographic order on bytes ignores a common beginning. -/
theorem append_lt_append_left_iff (l : List UInt8) {a b : List UInt8} : l ++ a < l ++ b ↔ a < b := by
  induction l with
  | nil => rfl
  | cons x l ih => rw [List.cons_append, List.cons_append, List.cons_lt_cons_self, ih]

/-- Encoding characters one after another keeps their lexicographic order. -/
theorem flatMap_utf8EncodeChar_lt_iff (l m : List Char) :
    l < m ↔ l.flatMap utf8EncodeChar < m.flatMap utf8EncodeChar := by
  induction l generalizing m with
  | nil =>
    cases m with
    | nil => simp
    | cons d m =>
      obtain ⟨b, bs, hb⟩ := List.exists_cons_of_ne_nil (utf8EncodeChar_ne_nil (c := d))
      simp [hb]
  | cons c l ih =>
    cases m with
    | nil => simp
    | cons d m =>
      rw [List.flatMap_cons, List.flatMap_cons, List.cons_lt_cons_iff]
      rcases Nat.lt_trichotomy c.val.toNat d.val.toNat with hlt | heq | hgt
      · have hcd : c < d := hlt
        simp [hcd, utf8EncodeChar_append_lt hcd]
      · obtain rfl : c = d := Char.ext (UInt32.toNat_inj.1 heq)
        rw [append_lt_append_left_iff, ← ih]
        simp
      · have hdc : d < c := hgt
        have hrev := utf8EncodeChar_append_lt hdc (m.flatMap utf8EncodeChar) (l.flatMap utf8EncodeChar)
        have hnot : ¬ c < d := fun h => Nat.lt_asymm hgt h
        have hne : c ≠ d := fun h => Nat.lt_irrefl _ (h ▸ hgt)
        simp [hnot, hne, List.lt_asymm hrev]

/-- A text is below another exactly when its bytes are. -/
theorem lt_iff_bytes_lt {s t : String} : s < t ↔ bytes s < bytes t := by
  rw [String.lt_iff, flatMap_utf8EncodeChar_lt_iff, bytes_eq, bytes_eq]

/-- A text starts with another exactly when its bytes start with the other's bytes. -/
theorem startsWith_iff_bytes {p s : String} : s.startsWith p ↔ bytes p <+: bytes s := by
  rw [String.startsWith_string_iff, bytes_eq, bytes_eq]
  constructor
  · rintro ⟨t, ht⟩
    exact ⟨t.flatMap utf8EncodeChar, by rw [← ht, List.flatMap_append]⟩
  · rintro ⟨t, ht⟩
    apply List.isPrefix_of_utf8Encode_append_eq_utf8Encode t.toByteArray
    rw [List.utf8Encode, List.utf8Encode, ← ht, List.toByteArray_append]

end NetReconcile.Text
