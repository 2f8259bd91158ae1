import Mathlib
import NetReconcile.Unicode.Case
import NetReconcile.Kinds.NatGateway
import NetReconcile.Proofs.Rules

/-!
# NAT gateway sizes

A NAT gateway's size is declared as a word (`micro`, `small`, `medium`, `large`,
`extra-large`) in any letter case, or as its code `0` to `4`, and it is sent as the code;
any other text is sent as it is. The words are matched against the text's lowercase, and
Unicode lowercasing turns two characters outside ASCII into ASCII letters: the Kelvin sign
becomes `k`, and the capital I with dot above becomes `i` followed by a combining dot
(`lower_nonAscii`). Neither can complete a size word, since no word has a `k` and the
combining dot is not ASCII. So matching an ASCII word against the Unicode lowercase of a
text or against its lowercase for ASCII words (`Codes.lowered`) gives one answer
(`lowered_eq_iff_lowercase_eq`), and a text that names a size is ASCII, one of the size
names up to the letter case of ASCII (`ascii_of_sizeCode_mem`).

A size code names itself, so taking the code twice changes nothing. Drift, the create
request and the update request see the size only through its code, so two declarations
that differ only in their size agree on all three exactly when their codes agree
(`sizeCode_normalizes`).
-/

namespace NetReconcile

/-! ## The lowercase table -/

namespace Unicode

theorem caseRuns_eq : caseRuns = ⟨0x41, 0x5A, 1, 0x61⟩ :: caseRuns.tail := rfl

/-- After the capitals of ASCII, every run starts outside ASCII. -/
theorem lo_of_mem_tail : ∀ r ∈ caseRuns.tail, 0xC0 ≤ r.lo := by decide +kernel

/-- Outside ASCII only the Kelvin sign maps into ASCII. -/
theorem target_of_mem_tail :
    ∀ r ∈ caseRuns.tail, 0x80 ≤ r.target ∨ r = ⟨0x212A, 0x212A, 1, 0x6B⟩ := by decide +kernel

/-- Every run maps to scalar values. -/
theorem target_valid : ∀ r ∈ caseRuns,
    r.target + (r.hi - r.lo) < 0xD800 ∨ 0xE000 ≤ r.target ∧ r.target + (r.hi - r.lo) < 0x110000 := by
  decide +kernel

theorem covers_bounds {r : CaseRun} {cp : Nat} (h : r.covers cp = true) : r.lo ≤ cp ∧ cp ≤ r.hi := by
  simp only [CaseRun.covers, Bool.and_eq_true, decide_eq_true_eq] at h
  exact h.1

/-- A code point's lowercase: the capital I with dot above, a run covering it, or itself. -/
theorem lowerCode_cases (cp : Nat) :
    (cp = 0x130 ∧ lowerCode cp = [0x69, 0x307]) ∨
      (∃ r ∈ caseRuns, r.lo ≤ cp ∧ cp ≤ r.hi ∧ cp ≠ 0x130 ∧ lowerCode cp = [r.target + (cp - r.lo)]) ∨
      (cp ≠ 0x130 ∧ lowerCode cp = [cp]) := by
  by_cases hi : cp = 0x130
  · exact .inl ⟨hi, by rw [lowerCode, if_pos hi]⟩
  rcases hf : caseRuns.find? (·.covers cp) with _ | r
  · exact .inr (.inr ⟨hi, by rw [lowerCode, if_neg hi, hf]⟩)
  · have hc := List.find?_some hf
    have hb := covers_bounds hc
    exact .inr (.inl ⟨r, List.mem_of_find?_eq_some hf, hb.1, hb.2, hi, by rw [lowerCode, if_neg hi, hf]⟩)

/-- Below `0x80` only the ASCII capitals change, each to its small letter. -/
theorem lowerCode_of_lt {cp : Nat} (h : cp < 0x80) :
    lowerCode cp = [if 0x41 ≤ cp ∧ cp ≤ 0x5A then cp + 0x20 else cp] := by
  rcases lowerCode_cases cp with ⟨hi, -⟩ | ⟨r, hr, hlo, hhi, -, hcode⟩ | ⟨-, hcode⟩
  · omega
  · rw [hcode]
    rw [caseRuns_eq, List.mem_cons] at hr
    rcases hr with rfl | hr
    · simp only at hlo hhi ⊢
      rw [if_pos ⟨hlo, hhi⟩]
      exact congrArg (· :: []) (by omega)
    · have := lo_of_mem_tail r hr
      omega
  · rw [hcode]
    by_cases hA : 0x41 ≤ cp ∧ cp ≤ 0x5A
    · have hcov : CaseRun.covers ⟨0x41, 0x5A, 1, 0x61⟩ cp = true := by
        simp [CaseRun.covers, hA, Nat.mod_one]
      have hne : lowerCode cp ≠ [cp] := by
        rw [lowerCode, if_neg (by omega), caseRuns_eq, List.find?_cons, hcov]
        simp only [ne_eq, List.cons.injEq, and_true]
        omega
      exact absurd hcode hne
    · rw [if_neg hA]

/-- Outside ASCII, the lowercase of anything but the capital I with dot above and the
Kelvin sign stays outside ASCII. -/
theorem le_of_mem_lowerCode {cp x : Nat} (h : 0x80 ≤ cp) (hi : cp ≠ 0x130) (hk : cp ≠ 0x212A)
    (hx : x ∈ lowerCode cp) : 0x80 ≤ x := by
  rcases lowerCode_cases cp with ⟨hi', -⟩ | ⟨r, hr, hlo, hhi, -, hcode⟩ | ⟨-, hcode⟩
  · exact absurd hi' hi
  · rw [hcode, List.mem_singleton] at hx
    rw [caseRuns_eq, List.mem_cons] at hr
    rcases hr with rfl | hr
    · simp only at hhi
      omega
    · rcases target_of_mem_tail r hr with ht | rfl
      · omega
      · simp only at hlo hhi
        omega
  · rw [hcode, List.mem_singleton] at hx
    omega

/-- The lowercase of a scalar value is made of scalar values. -/
theorem isValidChar_of_mem_lowerCode {cp x : Nat} (h : cp.isValidChar) (hx : x ∈ lowerCode cp) :
    x.isValidChar := by
  simp only [Nat.isValidChar] at h ⊢
  rcases lowerCode_cases cp with ⟨-, hcode⟩ | ⟨r, hr, hlo, hhi, -, hcode⟩ | ⟨-, hcode⟩
  · rw [hcode] at hx
    simp only [List.mem_cons, List.not_mem_nil, or_false] at hx
    omega
  · rw [hcode, List.mem_singleton] at hx
    have := target_valid r hr
    omega
  · rw [hcode, List.mem_singleton] at hx
    omega

/-- Each character of a character's lowercase has the code point the table gives. -/
theorem toNat_mem_lowerCode {c d : Char} (hd : d ∈ lowerChar c) : d.toNat ∈ lowerCode c.toNat := by
  obtain ⟨x, hx, rfl⟩ := List.mem_map.mp hd
  rw [Char.toNat_ofNat, if_pos (isValidChar_of_mem_lowerCode c.valid hx)]
  exact hx

theorem capital_iff (c : Char) : 'A' ≤ c ∧ c ≤ 'Z' ↔ 0x41 ≤ c.toNat ∧ c.toNat ≤ 0x5A := by
  simp only [Char.le_def, UInt32.le_iff_toNat_le]
  rfl

theorem isUpper_iff (c : Char) : c.isUpper = true ↔ 0x41 ≤ c.toNat ∧ c.toNat ≤ 0x5A := by
  simp only [Char.isUpper, ge_iff_le, Bool.decide_and, Bool.and_eq_true, decide_eq_true_eq,
    UInt32.le_iff_toNat_le]
  rfl

/-- An ASCII character lowercases as ASCII lowercasing does. -/
theorem lowerChar_of_lt {c : Char} (h : c.toNat < 0x80) : lowerChar c = [c.toLower] := by
  rw [lowerChar, lowerCode_of_lt h]
  by_cases hA : 0x41 ≤ c.toNat ∧ c.toNat ≤ 0x5A
  · rw [if_pos hA, Char.toLower_eq_of_isUpper ((isUpper_iff c).mpr hA)]
    rfl
  · rw [if_neg hA, Char.toLower_eq_of_not_isUpper (fun hu => hA ((isUpper_iff c).mp hu))]
    simp

/-- The lowercase of a character outside ASCII, other than the capital I with dot above and
the Kelvin sign, lies outside ASCII. -/
theorem lower_nonAscii {c d : Char} (h : 0x80 ≤ c.toNat) (hi : c ≠ '\u0130') (hk : c ≠ '\u212A')
    (hd : d ∈ lowerChar c) : 0x80 ≤ d.toNat := by
  have hi' : c.toNat ≠ 0x130 := fun he => hi (Char.toNat_inj.mp he)
  have hk' : c.toNat ≠ 0x212A := fun he => hk (Char.toNat_inj.mp he)
  exact le_of_mem_lowerCode h hi' hk' (toNat_mem_lowerCode hd)

theorem lowerChar_ne_nil (c : Char) : lowerChar c ≠ [] := by
  rcases lowerCode_cases c.toNat with ⟨-, hcode⟩ | ⟨r, -, -, -, -, hcode⟩ | ⟨-, hcode⟩ <;>
    simp [lowerChar, hcode]

/-! ## Agreement on ASCII words -/

/-- Two lowercasings agree as far as ASCII words can tell: they are equal, or both hold a
character outside ASCII. -/
def AsciiAgree (x y : List Char) : Prop :=
  x = y ∨ (∃ a ∈ x, 0x80 ≤ a.toNat) ∧ (∃ b ∈ y, 0x80 ≤ b.toNat)

theorem AsciiAgree.symm {x y : List Char} (h : AsciiAgree x y) : AsciiAgree y x := by
  rcases h with rfl | ⟨hx, hy⟩
  · exact .inl rfl
  · exact .inr ⟨hy, hx⟩

theorem AsciiAgree.append {x y x' y' : List Char} (h : AsciiAgree x y) (h' : AsciiAgree x' y') :
    AsciiAgree (x ++ x') (y ++ y') := by
  rcases h with rfl | ⟨⟨a, ha, ha8⟩, ⟨b, hb, hb8⟩⟩
  · rcases h' with rfl | ⟨⟨a, ha, ha8⟩, ⟨b, hb, hb8⟩⟩
    · exact .inl rfl
    · exact .inr ⟨⟨a, by simp [ha], ha8⟩, ⟨b, by simp [hb], hb8⟩⟩
  · exact .inr ⟨⟨a, by simp [ha], ha8⟩, ⟨b, by simp [hb], hb8⟩⟩

/-- Where one side is all ASCII, agreement is equality. -/
theorem AsciiAgree.eq_of_ascii {x y : List Char} (h : AsciiAgree x y) (hx : ∀ a ∈ x, a.toNat < 0x80) :
    x = y := by
  rcases h with h | ⟨⟨a, ha, ha8⟩, -⟩
  · exact h
  · exact absurd (hx a ha) (by omega)

/-- A character lowercased for ASCII words and by Unicode: both are the same, or both leave
ASCII. -/
theorem lowerForWords_agree (c : Char) : AsciiAgree (Codes.lowerForWords c) (lowerChar c) := by
  by_cases hA : 'A' ≤ c ∧ c ≤ 'Z'
  · have hlt : c.toNat < 0x80 := by
      have := (capital_iff c).mp hA
      omega
    left
    rw [Codes.lowerForWords, if_pos hA, lowerChar_of_lt hlt]
  by_cases hk : c = '\u212A'
  · subst hk
    left
    decide
  by_cases hi : c = '\u0130'
  · subst hi
    left
    decide
  rw [Codes.lowerForWords, if_neg hA, if_neg hk, if_neg hi]
  by_cases h : c.toNat < 0x80
  · left
    rw [lowerChar_of_lt h,
      Char.toLower_eq_of_not_isUpper fun hu => hA ((capital_iff c).mpr ((isUpper_iff c).mp hu))]
  · obtain ⟨d, hd⟩ := List.exists_mem_of_ne_nil _ (lowerChar_ne_nil c)
    exact .inr ⟨⟨c, by simp, by omega⟩, ⟨d, hd, lower_nonAscii (by omega) hi hk hd⟩⟩

/-- Lowercasing for ASCII words agrees with Unicode lowercasing, whatever the test for a
word-final sigma: character by character, the two are equal or both leave ASCII, the sigma
included. -/
theorem lowerChars_agree (finalSigma : List Char → List Char → Bool) (l : List Char) :
    ∀ before, AsciiAgree (l.flatMap Codes.lowerForWords) (lowerChars finalSigma before l) := by
  induction l with
  | nil => exact fun _ => .inl rfl
  | cons c rest ih =>
    intro before
    rw [List.flatMap_cons, lowerChars]
    refine AsciiAgree.append ?_ (ih _)
    by_cases hs : c = 'Σ'
    · subst hs
      rw [if_pos rfl]
      refine .inr ⟨⟨'Σ', by decide, by decide⟩, ⟨_, List.mem_singleton_self _, ?_⟩⟩
      split <;> decide
    · rw [if_neg hs]
      exact lowerForWords_agree c

/-- Against an ASCII word, a text's lowercase for ASCII words and its Unicode lowercase
match alike. -/
theorem lowered_eq_iff_lowercase_eq (finalSigma : List Char → List Char → Bool) (s w : String)
    (hw : ∀ a ∈ w.toList, a.toNat < 0x80) : Codes.lowered s = w ↔ lowercase finalSigma s = w := by
  have hagree := lowerChars_agree finalSigma s.toList []
  rw [Codes.lowered, lowercase, ← String.toList_inj, ← String.toList_inj, String.toList_ofList,
    String.toList_ofList]
  constructor
  · intro h
    exact (hagree.eq_of_ascii (by rw [h]; exact hw)).symm.trans h
  · intro h
    exact (hagree.symm.eq_of_ascii (by rw [h]; exact hw)).symm.trans h

end Unicode

/-! ## Size codes -/

namespace Codes

/-- The words and digits that name a size. -/
def sizeNames : List String := sizeCodes.flatMap (·.1)

/-- The codes a size is sent as. -/
def codeTexts : List String := sizeCodes.map (·.2)

/-- Each name is found in its own entry. -/
theorem find?_sizeCodes : ∀ p ∈ sizeCodes, ∀ n ∈ p.1, sizeCodes.find? (·.1.contains n) = some p := by
  decide

theorem sizeNames_ascii : ∀ n ∈ sizeNames, ∀ a ∈ n.toList, a.toNat < 0x80 := by
  simp [sizeNames, sizeCodes]

theorem k_not_mem_sizeNames : ∀ n ∈ sizeNames, 'k' ∉ n.toList := by decide

/-- A code names its own size. -/
theorem codeTexts_lowered : ∀ c ∈ codeTexts, lowered c ∈ sizeNames ∧ sizeCode c = c := by
  decide

theorem sizeCode_of_mem {s : String} {p : List String × String} (hp : p ∈ sizeCodes)
    (h : lowered s ∈ p.1) : sizeCode s = p.2 := by
  rw [sizeCode, find?_sizeCodes p hp _ h]

theorem sizeCode_of_not_mem {s : String} (h : lowered s ∉ sizeNames) : sizeCode s = s := by
  have hnone : sizeCodes.find? (·.1.contains (lowered s)) = none := by
    rw [List.find?_eq_none]
    intro p hp hc
    exact h (List.mem_flatMap.mpr ⟨p, hp, by simpa using hc⟩)
  rw [sizeCode, hnone]

/-- A text is sent as a code exactly when it names a size. -/
theorem sizeCode_mem_iff (s : String) : sizeCode s ∈ codeTexts ↔ lowered s ∈ sizeNames := by
  constructor
  · intro h
    by_contra hn
    rw [sizeCode_of_not_mem hn] at h
    exact hn (codeTexts_lowered s h).1
  · intro h
    obtain ⟨p, hp, hn⟩ := List.mem_flatMap.mp h
    rw [sizeCode_of_mem hp hn]
    exact List.mem_map_of_mem hp

theorem sizeCode_sizeCode (s : String) : sizeCode (sizeCode s) = sizeCode s := by
  by_cases h : lowered s ∈ sizeNames
  · exact (codeTexts_lowered _ ((sizeCode_mem_iff s).mpr h)).2
  · rw [sizeCode_of_not_mem h, sizeCode_of_not_mem h]

/-- Characters whose lowercase for ASCII words is ASCII without a `k` are ASCII, and that
lowercase is their ASCII lowercase. -/
theorem ascii_of_flatMap (l : List Char) (h : ∀ a ∈ l.flatMap lowerForWords, a.toNat < 0x80)
    (hk : 'k' ∉ l.flatMap lowerForWords) :
    (∀ c ∈ l, c.toNat < 0x80) ∧ l.map Char.toLower = l.flatMap lowerForWords := by
  induction l with
  | nil => simp
  | cons c rest ih =>
    simp only [List.flatMap_cons, List.mem_append, not_or, List.forall_mem_cons, List.map_cons] at h hk ⊢
    obtain ⟨hascii, hrest⟩ := ih (fun a ha => h a (.inr ha)) hk.2
    rw [hrest]
    by_cases hA : 'A' ≤ c ∧ c ≤ 'Z'
    · have hlt : c.toNat < 0x80 := by
        have := (Unicode.capital_iff c).mp hA
        omega
      rw [lowerForWords, if_pos hA]
      exact ⟨⟨hlt, hascii⟩, rfl⟩
    by_cases hkc : c = '\u212A'
    · subst hkc
      exact absurd (by decide) hk.1
    by_cases hic : c = '\u0130'
    · subst hic
      exact absurd (h '\u0307' (.inl (by decide))) (by decide)
    rw [lowerForWords, if_neg hA, if_neg hkc, if_neg hic] at h ⊢
    have hlt : c.toNat < 0x80 := h c (.inl (List.mem_singleton_self c))
    refine ⟨⟨hlt, hascii⟩, ?_⟩
    rw [Char.toLower_eq_of_not_isUpper
      fun hu => hA ((Unicode.capital_iff c).mpr ((Unicode.isUpper_iff c).mp hu))]
    rfl

/-- A text sent as a code is ASCII, and its ASCII lowercase is a size name. -/
theorem ascii_of_sizeCode_mem {s : String} (h : sizeCode s ∈ codeTexts) :
    (∀ c ∈ s.toList, c.toNat < 0x80) ∧ s.map Char.toLower ∈ sizeNames := by
  have hname := (sizeCode_mem_iff s).mp h
  have hl : (lowered s).toList = s.toList.flatMap lowerForWords := by
    rw [lowered, String.toList_ofList]
  obtain ⟨hascii, hmap⟩ := ascii_of_flatMap s.toList
    (hl ▸ sizeNames_ascii _ hname) (hl ▸ k_not_mem_sizeNames _ hname)
  refine ⟨hascii, ?_⟩
  have heq : s.map Char.toLower = lowered s := by
    rw [← String.toList_inj, String.toList_map, hmap, hl]
  rw [heq]
  exact hname

end Codes

/-! ## What the size code decides -/

namespace NatGateway

open Codes

/-- A record that matches parameters in every compared field. -/
def matching (p : Params) : Record :=
  { id := "", name := p.name, description := p.description.getD "", spec := sizeCode p.spec,
    routerId := p.vpcId, internalNetworkId := p.subnetId, adminStateUp := true, status := "" }

theorem drift_matching (p : Params) (t : String) :
    kind.drift { p with spec := t } (matching p) =
      if sizeCode t = sizeCode p.spec then [] else ["spec"] := by
  cases hd : p.description <;> by_cases h : sizeCode t = sizeCode p.spec <;>
    simp [Resource.Kind.drift, Resource.drift, kind, matching, Resource.Comparison.optional_differs,
      Resource.Comparison.required, hd, h]

/-- Parameters whose sizes have one code drift alike from every record. -/
theorem drift_congr_spec (p : Params) (t : String) (h : sizeCode p.spec = sizeCode t) (r : Record) :
    kind.drift p r = kind.drift { p with spec := t } r := by
  simp [Resource.Kind.drift, Resource.drift, kind, List.filter_cons, Resource.Comparison.optional_differs,
    Resource.Comparison.required, h]

/-- Drift against every record sees the size only through its code. -/
theorem drift_eq_iff (p : Params) (t : String) :
    (∀ r, kind.drift p r = kind.drift { p with spec := t } r) ↔ sizeCode p.spec = sizeCode t := by
  constructor
  · intro h
    have hm := h (matching p)
    have hp : p = { p with spec := p.spec } := rfl
    rw [hp, drift_matching, drift_matching, if_pos rfl] at hm
    by_contra hne
    rw [if_neg (Ne.symm hne)] at hm
    exact List.cons_ne_nil _ _ hm.symm
  · exact fun h r => drift_congr_spec p t h r

theorem createOpts_eq_iff (p : Params) (t : String) :
    kind.createOpts p = kind.createOpts { p with spec := t } ↔ sizeCode p.spec = sizeCode t := by
  simp [kind]

theorem updateOpts_eq_iff (p : Params) (t : String) :
    kind.updateOpts p = kind.updateOpts { p with spec := t } ↔ sizeCode p.spec = sizeCode t := by
  simp [kind]

end NatGateway

open Codes Unicode in
/-- The size code is an idempotent normalizer. Whatever test picks the word-final sigma,
a text is sent as a code exactly when its Unicode lowercase is a size name, and then as
that name's code; any other text is sent unchanged, and a text sent as a code is ASCII and
one of the names up to ASCII letter case. Two NAT gateway declarations that differ only in
their size have the same drift against every record and the same create and update
requests exactly when their codes agree. -/
theorem sizeCode_normalizes (finalSigma : List Char → List Char → Bool) (s : String) :
    sizeCode (sizeCode s) = sizeCode s ∧
    (sizeCode s ∈ codeTexts ↔ lowercase finalSigma s ∈ sizeNames) ∧
    (∀ p ∈ sizeCodes, lowercase finalSigma s ∈ p.1 → sizeCode s = p.2) ∧
    (lowercase finalSigma s ∉ sizeNames → sizeCode s = s) ∧
    (sizeCode s ∈ codeTexts → (∀ c ∈ s.toList, c.toNat < 0x80) ∧ s.map Char.toLower ∈ sizeNames) ∧
    ∀ (p : NatGateway.Params) (t : String),
      ((∀ r, NatGateway.kind.drift p r = NatGateway.kind.drift { p with spec := t } r) ∧
        NatGateway.kind.createOpts p = NatGateway.kind.createOpts { p with spec := t } ∧
        NatGateway.kind.updateOpts p = NatGateway.kind.updateOpts { p with spec := t }) ↔
      sizeCode p.spec = sizeCode t := by
  have hname : ∀ n ∈ sizeNames, lowered s = n ↔ lowercase finalSigma s = n :=
    fun n hn => lowered_eq_iff_lowercase_eq finalSigma s n (sizeNames_ascii n hn)
  have hmem : lowered s ∈ sizeNames ↔ lowercase finalSigma s ∈ sizeNames := by
    constructor
    · intro h
      rwa [(hname _ h).mp rfl]
    · intro h
      rwa [(hname _ h).mpr rfl]
  refine ⟨sizeCode_sizeCode s, (sizeCode_mem_iff s).trans hmem, ?_, ?_, ascii_of_sizeCode_mem, ?_⟩
  · intro p hp hl
    have hn : lowercase finalSigma s ∈ sizeNames := List.mem_flatMap.mpr ⟨p, hp, hl⟩
    exact sizeCode_of_mem hp ((hname _ hn).mpr rfl ▸ hl)
  · intro hn
    exact sizeCode_of_not_mem (mt hmem.mp hn)
  · intro p t
    rw [NatGateway.drift_eq_iff, NatGateway.createOpts_eq_iff, NatGateway.updateOpts_eq_iff]
    exact ⟨fun h => h.1, fun h => ⟨h, h, h⟩⟩

end NetReconcile
