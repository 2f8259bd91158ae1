import Mathlib.Data.List.Nodup
import NetReconcile.Json.Decode
import NetReconcile.Json.Plain

/-!
# Reading back a written record

A record's decoder, given an object, sorts its fields by key, visits them to refuse a
value its field does not accept or a field met twice, and then builds the record by
looking each field up. The objects that record encoders write have distinct keys, each
the first name of one of the record's fields with a value that field accepts. On such an
object the visit finds no fault, sorting only reorders the fields, and each field is
read as a lookup of its name in the object as written: its value decoded, or the field's
value for when it is absent. A field is also found under its aliases, so this holds of a
field whose aliases the object does not use.

The last section gives the written forms of optional fields and plain values the small
lemmas that let `simp` read them back.
-/

namespace NetReconcile.Json

/-! ## Sorting the fields -/

/-- Inserting a key not yet present adds one field. -/
theorem insertSorted_perm (k : String) (v : Value) :
    ∀ (fs : List (String × Value)), k ∉ fs.map Prod.fst → (insertSorted k v fs).Perm ((k, v) :: fs)
  | [], _ => List.Perm.refl _
  | (k', v') :: rest, h => by
    simp only [List.map_cons, List.mem_cons, not_or] at h
    simp only [insertSorted, if_neg h.1]
    split
    · exact List.Perm.refl _
    · exact ((insertSorted_perm k v rest h.2).cons (k', v')).trans (List.Perm.swap _ _ _)

theorem foldl_insertSorted_perm :
    ∀ (fs acc : List (String × Value)), ((fs ++ acc).map Prod.fst).Nodup →
      (fs.foldl (fun acc kv => insertSorted kv.1 kv.2 acc) acc).Perm (fs ++ acc)
  | [], _, _ => List.Perm.refl _
  | x :: xs, acc, h => by
    have hx : x.1 ∉ acc.map Prod.fst := by
      intro hmem
      simp only [List.cons_append, List.map_cons, List.nodup_cons, List.map_append,
        List.mem_append] at h
      exact h.1 (.inr hmem)
    have hmid : (xs ++ insertSorted x.1 x.2 acc).Perm ((x :: xs) ++ acc) :=
      ((insertSorted_perm x.1 x.2 acc hx).append_left xs).trans (by simp)
    have hnd : ((xs ++ insertSorted x.1 x.2 acc).map Prod.fst).Nodup :=
      ((hmid.map Prod.fst).nodup_iff).mpr h
    exact (foldl_insertSorted_perm xs _ hnd).trans hmid

/-- Sorting fields with distinct keys only reorders them. -/
theorem sortFields_perm {fs : List (String × Value)} (h : (fs.map Prod.fst).Nodup) :
    (sortFields fs).Perm fs := by
  unfold sortFields
  simpa using foldl_insertSorted_perm fs [] (by simpa using h)

/-- A lookup in fields with distinct keys does not depend on their order. -/
theorem lookup_eq_of_perm {l l' : List (String × Value)} (hperm : l.Perm l')
    (hnd : (l.map Prod.fst).Nodup) (k : String) : l.lookup k = l'.lookup k := by
  induction hperm with
  | nil => rfl
  | cons x _ ih =>
    simp only [List.map_cons, List.nodup_cons] at hnd
    obtain ⟨a, b⟩ := x
    simp only [List.lookup_cons, ih hnd.2]
  | swap x y l =>
    obtain ⟨a, b⟩ := x
    obtain ⟨a', b'⟩ := y
    have hne : a' ≠ a := by
      simp only [List.map_cons, List.nodup_cons, List.mem_cons, not_or] at hnd
      exact hnd.1.1
    simp only [List.lookup_cons]
    split <;> split <;> simp_all [beq_iff_eq]
  | trans h₁ _ ih₁ ih₂ => rw [ih₁ hnd, ih₂ ((h₁.map Prod.fst).nodup_iff.mp hnd)]

/-! ## Visiting the fields -/

/-- A key of an object that a record's checks accept: the first check naming the key has
it as its first name, and passes the key's value. -/
def FieldCheck.Accepts (checks : List FieldCheck) (kv : String × Value) : Prop :=
  ∃ c, checks.find? (·.names.contains kv.1) = some c ∧ c.names.headD kv.1 = kv.1 ∧
    c.check kv.2 = none

/-- Visiting distinct keys, none seen before and all accepted, finds no fault. -/
theorem visitFields_eq_none {checks : List FieldCheck} :
    ∀ {l : List (String × Value)} {seen : List String}, (l.map Prod.fst).Nodup →
      (∀ kv ∈ l, kv.1 ∉ seen) → (∀ kv ∈ l, FieldCheck.Accepts checks kv) →
      visitFields checks l seen = none
  | [], _, _, _, _ => rfl
  | (k, v) :: rest, seen, hnd, hseen, hacc => by
    obtain ⟨c, hc, hhead, hcheck⟩ := hacc (k, v) List.mem_cons_self
    have hk : seen.contains k = false := by simpa using hseen (k, v) List.mem_cons_self
    simp only [List.map_cons, List.nodup_cons] at hnd
    simp only [visitFields, hc, hhead, hk, hcheck, Bool.false_eq_true, if_false]
    refine visitFields_eq_none hnd.2 (fun kv hkv => ?_)
      (fun kv hkv => hacc kv (List.mem_cons_of_mem _ hkv))
    simp only [List.mem_cons, not_or]
    exact ⟨fun h => hnd.1 (h ▸ List.mem_map_of_mem hkv), hseen kv (List.mem_cons_of_mem _ hkv)⟩

/-- A record read from an object with distinct keys, all accepted by its checks, is
built from the object's sorted fields. -/
theorem record_obj {α : Type} {name : String} {checks : List FieldCheck}
    {build : Source → Except DecodeError α} {fs : List (String × Value)}
    (hnd : (fs.map Prod.fst).Nodup) (hacc : ∀ kv ∈ fs, FieldCheck.Accepts checks kv) :
    record name checks build (.obj fs) = build (.fields (sortFields fs)) := by
  have hperm := sortFields_perm hnd
  have hnd' : ((sortFields fs).map Prod.fst).Nodup := ((hperm.map Prod.fst).nodup_iff).mpr hnd
  simp only [record]
  rw [visitFields_eq_none hnd' (by simp) (fun kv hkv => hacc kv (hperm.subset hkv))]

/-- The form of `record_obj` that a decoding proof starts from: the build is proved
knowing the keys distinct, which reading each field needs again. -/
theorem record_obj_eq_ok {α : Type} {name : String} {checks : List FieldCheck}
    {build : Source → Except DecodeError α} {fs : List (String × Value)} {a : α}
    (hnd : (fs.map Prod.fst).Nodup) (hacc : ∀ kv ∈ fs, FieldCheck.Accepts checks kv)
    (hbuild : (fs.map Prod.fst).Nodup → build (.fields (sortFields fs)) = .ok a) :
    record name checks build (.obj fs) = .ok a := by
  rw [record_obj hnd hacc]
  exact hbuild hnd

/-! ## Reading a field -/

/-- A field whose aliases are not among the keys is read by looking up its name: the
value found is decoded, and a missing one gives the field's value for when it is absent. -/
theorem Source.get_fields {α : Type} (l : List (String × Value)) (name : String)
    (aliases : List String) (index : Nat) (d : Decoder α) (absent : Option α)
    (hali : ∀ a ∈ aliases, a ∉ l.map Prod.fst) :
    (Source.fields l).get ⟨name, aliases, index, d, absent⟩ =
      (l.lookup name).elim (absent.elim (.error (.missingField name)) .ok) d := by
  induction l with
  | nil => cases absent <;> rfl
  | cons kv l ih =>
    obtain ⟨k, v⟩ := kv
    have hk : k ∉ aliases := fun h => hali k h (by simp)
    have hl : ∀ a ∈ aliases, a ∉ l.map Prod.fst := fun a ha hmem => hali a ha (by simp [hmem])
    have ih := ih hl
    simp only [Source.get] at ih ⊢
    by_cases hkn : k = name
    · subst hkn
      simp
    · have hp : (k == name || aliases.contains k) = false := by simp [hkn, hk]
      have hq : (name == k) = false := by simp [Ne.symm hkn]
      simp only [List.find?_cons, hp, List.lookup_cons, hq]
      exact ih

/-- Reading a field from the sorted fields of an object with distinct keys is reading it
from the object's fields as written. -/
theorem Source.get_sortFields {fs : List (String × Value)} (hnd : (fs.map Prod.fst).Nodup)
    {α : Type} (name : String) (aliases : List String) (index : Nat) (d : Decoder α)
    (absent : Option α) (hali : ∀ a ∈ aliases, a ∉ fs.map Prod.fst) :
    (Source.fields (sortFields fs)).get ⟨name, aliases, index, d, absent⟩ =
      (fs.lookup name).elim (absent.elim (.error (.missingField name)) .ok) d := by
  have hperm := sortFields_perm hnd
  rw [Source.get_fields _ _ _ _ _ _ (fun a ha hmem => hali a ha ((hperm.map Prod.fst).subset hmem)),
    lookup_eq_of_perm hperm ((hperm.map Prod.fst).nodup_iff.mpr hnd)]

/-- A field without aliases is read by looking up its name. -/
theorem Source.get_sortFields_nil {fs : List (String × Value)} (hnd : (fs.map Prod.fst).Nodup)
    {α : Type} (name : String) (index : Nat) (d : Decoder α) (absent : Option α) :
    (Source.fields (sortFields fs)).get ⟨name, [], index, d, absent⟩ =
      (fs.lookup name).elim (absent.elim (.error (.missingField name)) .ok) d :=
  Source.get_sortFields hnd name [] index d absent (fun _ h => absurd h List.not_mem_nil)

/-! ## Finding a field by its key

A decoder that does not go through `record` finds its fields by searching the sorted
fields for a key, possibly after filtering others out. That search is again a lookup in
the object as written. -/

/-- Searching fields for a key is looking the key up. -/
theorem find?_key_eq_lookup (l : List (String × Value)) (k : String) :
    l.find? (·.1 == k) = (l.lookup k).map (k, ·) := by
  induction l with
  | nil => rfl
  | cons kv l ih =>
    obtain ⟨a, v⟩ := kv
    by_cases h : a = k
    · subst h
      simp
    · have h' : (k == a) = false := beq_eq_false_iff_ne.mpr (Ne.symm h)
      simp [List.lookup_cons, h, h', ih]

/-- Leaving out the fields of one key does not change the lookup of another. -/
theorem lookup_filter_ne (l : List (String × Value)) {k k' : String} (h : k ≠ k') :
    (l.filter (·.1 != k')).lookup k = l.lookup k := by
  induction l with
  | nil => rfl
  | cons kv l ih =>
    obtain ⟨a, v⟩ := kv
    by_cases ha : a = k'
    · subst ha
      simp [List.lookup_cons, ih, beq_eq_false_iff_ne.mpr h]
    · simp [List.lookup_cons, ih, ha]

theorem find?_sortFields {fs : List (String × Value)} (hnd : (fs.map Prod.fst).Nodup)
    (k : String) : (sortFields fs).find? (·.1 == k) = (fs.lookup k).map (k, ·) := by
  rw [find?_key_eq_lookup, lookup_eq_of_perm (sortFields_perm hnd).symm hnd k]

theorem find?_filter_sortFields {fs : List (String × Value)} (hnd : (fs.map Prod.fst).Nodup)
    {k k' : String} (h : k ≠ k') :
    ((sortFields fs).filter (·.1 != k')).find? (·.1 == k) = (fs.lookup k).map (k, ·) := by
  rw [find?_key_eq_lookup, lookup_filter_ne _ h, lookup_eq_of_perm (sortFields_perm hnd).symm hnd k]

/-! ## Written forms of fields and values -/

@[simp] theorem lookup_optionalField (key k : String) (o : Option String) :
    (optionalField key o).lookup k = if k = key then o.map .str else none := by
  cases o with
  | none => simp [optionalField]
  | some s =>
    by_cases h : k = key
    · subst h
      simp [optionalField]
    · simp [optionalField, List.lookup_cons, beq_eq_false_iff_ne.mpr h, h]

@[simp] theorem map_fst_optionalField (key : String) (o : Option String) :
    (optionalField key o).map Prod.fst = (o.map fun _ => key).toList := by
  cases o <;> rfl

/-- The key of an optional field, when written, is written before the others only once. -/
@[simp] theorem nodup_toList_map_append (k : String) (o : Option String) (l : List String) :
    ((o.map fun _ => k).toList ++ l).Nodup ↔ (o.isSome → k ∉ l) ∧ l.Nodup := by
  cases o <;> simp

@[simp] theorem forall_mem_optionalField {key : String} {o : Option String}
    {P : String × Value → Prop} :
    (∀ kv ∈ optionalField key o, P kv) ↔ ∀ s, o = some s → P (key, .str s) := by
  cases o <;> simp [optionalField]

@[simp] theorem Decode.string_str (s : String) : Decode.string (.str s) = .ok s := rfl

@[simp] theorem Decode.bool_bool (b : Bool) : Decode.bool (.bool b) = .ok b := rfl

@[simp] theorem Decode.option_string_str (s : String) :
    Decode.option Decode.string (.str s) = .ok (some s) := rfl

@[simp] theorem Decode.option_bool_bool (b : Bool) :
    Decode.option Decode.bool (.bool b) = .ok (some b) := rfl

/-- An optional text field reads back what was written, nothing when it was left out. -/
@[simp] theorem Decode.option_string_elim (o : Option String) :
    o.elim (.ok none) (Decode.option Decode.string ∘ Value.str) = .ok o := by
  cases o <;> rfl

/-- A present optional field reads back a value its decoder reads back. -/
theorem Decode.option_of_ok {α : Type} {d : Decoder α} {v : Value} {a : α} (h : d v = .ok a)
    (hn : v ≠ .null) : Decode.option d v = .ok (some a) := by
  unfold Decode.option
  split
  · exact absurd rfl hn
  · simp [h, Functor.map, Except.map]

theorem Value.ofInt_ne_null (n : Int) : Value.ofInt n ≠ .null := by
  unfold Value.ofInt
  split <;> simp

/-- A signed 32-bit number is read back from the integer value written for it. -/
@[simp] theorem Decode.i32_ofInt (n : Int32) : Decode.i32 (Value.ofInt n.toInt) = .ok n := by
  have hlt := n.toInt_lt
  have hle := n.le_toInt
  have hpow : Int.pow 2 31 = 2 ^ 31 := rfl
  by_cases h : n.toInt ≥ 0
  · have hn : n.toInt.toNat < Nat.pow 2 31 := by rw [Nat.pow_eq]; omega
    simp only [Value.ofInt, if_pos h, Decode.i32, if_pos hn, Int.toNat_of_nonneg h, Int32.ofInt_toInt]
  · have hn : n.toInt ≥ -(Int.pow 2 31) := by omega
    simp only [Value.ofInt, if_neg h, Decode.i32, if_pos hn, Int32.ofInt_toInt]

/-- An unsigned 32-bit number is read back from the natural number value written for it. -/
@[simp] theorem Decode.u32_ofNat (n : UInt32) : Decode.u32 (Value.ofNat n.toNat) = .ok n := by
  have hlt := n.toNat_lt
  simp [Decode.u32, Decode.unsigned, Value.ofNat, Nat.pow_eq, hlt, Functor.map, Except.map]

end NetReconcile.Json
