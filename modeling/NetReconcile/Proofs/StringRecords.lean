import NetReconcile.Proofs.WrittenValues

/-!
# Written objects read as string records

A record of string fields is read from an object one member at a time. The reader keeps a
slot per field: a member named by a field sets that field's slot to its string, any other
member is stepped over whole, and at the closing brace every slot must be set. Over the
text of an object in which each field names at most one member, whose value is a string,
the slots after each member are the string values of the members read so far
(`fieldStrings`), and the record read is the string values of the fields, in field order,
whatever the order of the members and whatever other members the object has
(`readStringRecord_write`). From any text, in the object form as in the list form, a record
that is read has one string per field (`readStringRecord_length`).
-/

namespace NetReconcile.Json

open Text

/-- The string value of each field among the members: the value of the first member the
field names, when it is a string. -/
def fieldStrings (fields : List String) (fs : List (String × Value)) : List (Option String) :=
  fields.map fun f => ((Value.obj fs).field? f).bind Value.str?

/-- Each field names at most one member, and the value of that member is a string. -/
def FieldsOnce (fields : List String) (fs : List (String × Value)) : Prop :=
  ∀ f ∈ fields, fs.filter (·.1 == f) = [] ∨ ∃ s, fs.filter (·.1 == f) = [(f, .str s)]

/-! ## Slots and members -/

theorem field?_append_singleton (p : List (String × Value)) (k f : String) (v : Value) :
    (Value.obj (p ++ [(k, v)])).field? f =
      ((Value.obj p).field? f).or (if k = f then some v else none) := by
  simp only [Value.field?, List.find?_append, List.find?_singleton]
  cases p.find? (·.1 == f) with
  | some kv => rfl
  | none => by_cases hk : k = f <;> simp [hk]

theorem field?_eq_none_of_filter {p : List (String × Value)} {f : String}
    (h : p.filter (·.1 == f) = []) : (Value.obj p).field? f = none := by
  simp only [Value.field?, Option.map_eq_none_iff, List.find?_eq_none]
  intro kv hkv hf
  have : kv ∈ p.filter (·.1 == f) := List.mem_filter.2 ⟨hkv, hf⟩
  simp [h] at this

/-- A field that names one member has that member's value. -/
theorem field?_of_filter {fs : List (String × Value)} {f : String} {v : Value}
    (h : fs.filter (·.1 == f) = [(f, v)]) : (Value.obj fs).field? f = some v := by
  have hfind := congrArg List.head? h
  rw [List.head?_filter] at hfind
  simp [Value.field?, hfind]

/-- A member that no field names leaves every slot as it was. -/
theorem fieldStrings_append_other {fields : List String} {k : String} (hk : k ∉ fields)
    (p : List (String × Value)) (v : Value) :
    fieldStrings fields (p ++ [(k, v)]) = fieldStrings fields p := by
  refine List.map_congr_left fun f hf => ?_
  have hkf : k ≠ f := fun h => hk (h ▸ hf)
  simp [field?_append_singleton, hkf]

/-- Setting the slot at a field's index updates that field alone: the fields are distinct. -/
theorem setAt_map {g : String → Option String} {k : String} (s : String) :
    ∀ {fields : List String} {i : Nat}, fields.Nodup → fields.idxOf? k = some i →
      Scan.setAt (fields.map g) i s = fields.map fun f => if f = k then some s else g f
  | [], _, _, hi => by simp at hi
  | f :: fields, i, hnd, hi => by
    obtain ⟨hf, hnd⟩ := List.nodup_cons.1 hnd
    rw [List.idxOf?_cons] at hi
    by_cases hfk : f = k
    · subst hfk
      obtain rfl : i = 0 := by simpa using hi.symm
      have hrest : fields.map (fun f' => if f' = f then some s else g f') = fields.map g :=
        List.map_congr_left fun f' hf' => if_neg fun (h : f' = f) => hf (h ▸ hf')
      simp [Scan.setAt, hrest]
    · rw [beq_false_of_ne hfk, if_neg Bool.false_ne_true, Option.map_eq_some_iff] at hi
      obtain ⟨j, hj, rfl⟩ := hi
      rw [List.map_cons, Scan.setAt, setAt_map s hnd hj, List.map_cons, if_neg hfk]

/-- The slot at a field's index holds the string of the field's first member. -/
theorem getElem?_fieldStrings {fields : List String} {k : String} {i : Nat}
    (hi : fields.idxOf? k = some i) (p : List (String × Value)) :
    (fieldStrings fields p)[i]? = some (((Value.obj p).field? k).bind Value.str?) := by
  obtain ⟨hlt, hk, -⟩ := List.idxOf?_eq_some_iff.1 hi
  simp [fieldStrings, List.getElem?_eq_getElem hlt, hk]

/-- A field's first member sets that field's slot to its string. -/
theorem fieldStrings_append_field {fields : List String} {p : List (String × Value)}
    (hnd : fields.Nodup) {k s : String} {i : Nat} (hi : fields.idxOf? k = some i)
    (hp : p.filter (·.1 == k) = []) :
    Scan.setAt (fieldStrings fields p) i s = fieldStrings fields (p ++ [(k, .str s)]) := by
  rw [fieldStrings, setAt_map s hnd hi]
  refine List.map_congr_left fun f _ => ?_
  by_cases hfk : f = k
  · subst hfk
    simp [field?_append_singleton, field?_eq_none_of_filter hp, Value.str?]
  · have hkf : k ≠ f := Ne.symm hfk
    simp [field?_append_singleton, hfk, hkf]

/-- In an object where each field names at most one member, a member named by a field has a
string value and is the first the field names. -/
theorem FieldsOnce.member {fields : List String} {p q : List (String × Value)} {k : String}
    {v : Value} (h : FieldsOnce fields (p ++ (k, v) :: q)) (hk : k ∈ fields) :
    ∃ s, v = .str s ∧ p.filter (·.1 == k) = [] := by
  have hsplit : (p ++ (k, v) :: q).filter (·.1 == k) =
      p.filter (·.1 == k) ++ (k, v) :: q.filter (·.1 == k) := by
    simp [List.filter_append]
  rcases h k hk with h0 | ⟨s, hs⟩
  · simp [hsplit] at h0
  · rw [hsplit, List.append_eq_singleton_iff] at hs
    rcases hs with ⟨hp, hkv⟩ | ⟨-, hkv⟩
    · obtain ⟨hv, -⟩ := List.cons_eq_cons.1 hkv
      exact ⟨s, (Prod.mk.inj hv).2, hp⟩
    · simp at hkv

namespace Scan

/-! ## Tokens of an object -/

/-- A closing brace ends the members. -/
theorem nextKey_close (first : Bool) (rest : List UInt8) :
    Leads (value.nextKey first) (pure none) [] (0x7D :: rest) := by
  rw [value.nextKey]
  refine ((blanks_leads (by decide) rest).bind_pure _).trans_nil ?_
  exact Leads.refl _ _

/-- The key of a member is read behind its comma, or without one for the first member. -/
theorem nextKey_key (first : Bool) (k : String) (rest : List UInt8) :
    Leads (value.nextKey first) (pure (some k))
      ((if first then [] else [0x2C]) ++ bytes (writeString k)) rest := by
  rw [value.nextKey, bytes_writeString]
  have hkey : Leads (do eat; let x ← string; pure (some x)) (pure (some k))
      (0x22 :: (k.toList.flatMap escBytes ++ [0x22])) rest :=
    ((eat_leads 0x22 _).bind_pure _).trans ((string_leads k).bind_pure _)
  cases first with
  | true =>
    refine ((blanks_leads (by decide) _).bind_pure _).trans_nil ?_
    split
    · rename_i h; simp at h
    · rename_i h; simp at h
    · rename_i h
      cases h
      simpa only [if_true, pure_bind, List.nil_append] using hkey
    · rename_i h; simp at h
  | false =>
    refine ((blanks_leads (by decide) _).bind_pure _).trans_nil ?_
    split
    · rename_i h; simp at h
    · rename_i h
      cases h
      simp only [Bool.false_eq_true, if_false, pure_bind]
      refine ((eat_leads 0x2C _).bind_pure _).trans ?_
      refine ((blanks_leads (by decide) _).bind_pure _).trans_nil ?_
      simpa only using hkey
    · rename_i h; cases h; exact absurd rfl ‹(0x2C : UInt8) = 0x2C → False›
    · rename_i h; simp at h

theorem colon_leads (rest : List UInt8) : Leads value.colon (pure ()) [0x3A] rest := by
  rw [value.colon]
  refine ((blanks_leads (by decide) rest).bind_pure _).trans_nil ?_
  exact eat_leads _ rest

theorem closeObject_leads (rest : List UInt8) : Leads value.closeObject (pure ()) [0x7D] rest := by
  rw [value.closeObject]
  refine ((blanks_leads (by decide) rest).bind_pure _).trans_nil ?_
  exact eat_leads _ rest

theorem finish_leads : Leads finish (pure ()) [] [] := by
  rw [finish]
  exact (blanks_leads_nil.bind_pure _).trans_nil (Leads.refl _ _)

/-! ## Members -/

variable {fields : List String} {found : List (Option String)}

/-- The first member named by a field: its string is read and set in the field's slot. -/
theorem recordMembers_field {k : String} {i : Nat} (hi : fields.idxOf? k = some i)
    (hnew : (found[i]?).join = none) (first : Bool) (fuel : Nat) (s : String) (rest : List UInt8) :
    Leads (recordMembers fields (fuel + 1) first found)
      (recordMembers fields fuel false (setAt found i s))
      ((if first then [] else [0x2C]) ++ memberBytes (k, .str s)) rest := by
  have hbytes : (if first then [] else [0x2C]) ++ memberBytes (k, .str s) =
      ((if first then [] else [0x2C]) ++ bytes (writeString k)) ++
        ([0x3A] ++ bytes (writeString s)) := by
    simp [memberBytes, Value.write]
  rw [recordMembers, hbytes]
  refine ((nextKey_key first k _).bind_pure _).trans ?_
  simp only [hi, hnew, Option.isSome_none, Bool.false_eq_true, if_false]
  refine ((colon_leads _).bind_pure _).trans ?_
  exact (expectString_leads _ s).bind_pure _

/-- A member no field names is stepped over whole. -/
theorem recordMembers_other {k : String} {v : Value} {rest : List UInt8}
    (hk : fields.idxOf? k = none) (hv : v.Writable) (hr : Delimits rest) (first : Bool) (F : Nat) :
    Leads (recordMembers fields (F + v.skipCost + 1) first found)
      (recordMembers fields (F + v.skipCost) false found)
      ((if first then [] else [0x2C]) ++ memberBytes (k, v)) rest := by
  have hbytes : (if first then [] else [0x2C]) ++ memberBytes (k, v) =
      ((if first then [] else [0x2C]) ++ bytes (writeString k)) ++ ([0x3A] ++ bytes v.write) := by
    simp [memberBytes]
  rw [recordMembers, hbytes]
  refine ((nextKey_key first k _).bind_pure _).trans ?_
  simp only [hk]
  refine ((colon_leads _).bind_pure _).trans ?_
  simpa only [skipValue.afterScalar, pure_bind] using
    (skipValue_write v F [] rest hv hr).bind fun _ =>
      recordMembers fields (F + v.skipCost) false found

/-- Set slots are collected in field order. -/
theorem foldlM_zip_some {step : List String → String × Option String → Scan (List String)}
    (hstep : ∀ acc f v, step acc (f, some v) = pure (acc ++ [v])) :
    ∀ (fields vals acc : List String), fields.length = vals.length →
      (fields.zip (vals.map some)).foldlM step acc = pure (acc ++ vals)
  | [], [], acc, _ => by simp
  | f :: fields, v :: vals, acc, h => by
    simp only [List.map_cons, List.zip_cons_cons, List.foldlM_cons, hstep, pure_bind]
    rw [foldlM_zip_some hstep fields vals (acc ++ [v]) (by simpa using h)]
    simp
  | [], _ :: _, _, h | _ :: _, [], _, h => by simp at h

/-- At the closing brace, with every slot set, the record is the slots' strings. -/
theorem recordMembers_close {vals : List String} (hlen : fields.length = vals.length)
    (first : Bool) (fuel : Nat) (rest : List UInt8) :
    Leads (recordMembers fields (fuel + 1) first (vals.map some)) (pure vals) []
      (0x7D :: rest) := by
  rw [recordMembers]
  refine ((nextKey_close first rest).bind_pure _).trans_nil ?_
  simp only []
  rw [foldlM_zip_some (fun _ _ _ => rfl) fields vals [] hlen, List.nil_append]
  exact Leads.refl _ _

/-- One member of an object in which each field names at most one member: a field's member
sets the field's slot to its string, any other member is stepped over within the fuel. -/
theorem recordMembers_member (hnd : fields.Nodup) (first : Bool) {p q : List (String × Value)}
    {k : String} {v : Value} {rest : List UInt8} (honce : FieldsOnce fields (p ++ (k, v) :: q))
    (hv : v.Writable) (hr : Delimits rest) (fuel : Nat)
    (hfuel : 2 * (memberBytes (k, v)).length ≤ fuel) :
    Leads (recordMembers fields (fuel + 1) first (fieldStrings fields p))
      (recordMembers fields fuel false (fieldStrings fields (p ++ [(k, v)])))
      ((if first then [] else [0x2C]) ++ memberBytes (k, v)) rest := by
  by_cases hk : k ∈ fields
  · obtain ⟨s, rfl, hp⟩ := honce.member hk
    obtain ⟨i, hi⟩ := Option.isSome_iff_exists.1 (List.isSome_idxOf?.2 hk)
    have hnew : ((fieldStrings fields p)[i]?).join = none := by
      simp [getElem?_fieldStrings hi, field?_eq_none_of_filter hp]
    rw [← fieldStrings_append_field hnd hi hp]
    exact recordMembers_field hi hnew first fuel s rest
  · rw [fieldStrings_append_other hk]
    have hcost : v.skipCost ≤ fuel := by
      have := skipCost_le v hv
      simp only [memberBytes, List.length_append, List.length_cons] at hfuel
      omega
    obtain ⟨F, rfl⟩ : ∃ F, fuel = F + v.skipCost := ⟨fuel - v.skipCost, by omega⟩
    exact recordMembers_other (List.idxOf?_eq_none_iff.2 hk) hv hr first F

/-- The bytes of the members of an object from one of them on: each behind a comma but the
object's first. -/
def membersBytes : Bool → List (String × Value) → List UInt8
  | _, [] => []
  | first, kv :: q => ((if first then [] else [0x2C]) ++ memberBytes kv) ++ membersBytes false q

theorem membersBytes_false (q : List (String × Value)) :
    membersBytes false q = q.flatMap fun kv => 0x2C :: memberBytes kv := by
  induction q with
  | nil => rfl
  | cons kv q ih => simp [membersBytes, ih]

/-- An object is written as its members between braces. -/
theorem bytes_write_obj_members (fs : List (String × Value)) :
    bytes (Value.obj fs).write = 0x7B :: (membersBytes true fs ++ [0x7D]) := by
  cases fs with
  | nil => exact bytes_write_obj_nil
  | cons kv q => simp [bytes_write_obj_cons, membersBytes, membersBytes_false]

/-- After a member come a comma or the closing brace. -/
theorem delimits_membersBytes (q : List (String × Value)) (rest : List UInt8) :
    Delimits (membersBytes false q ++ 0x7D :: rest) := by
  simpa [membersBytes_false] using delimits_fields q rest

/-- The members are read up to the closing brace, each setting its field's slot or stepped
over; at the brace every slot is set. The slots hold the strings of the members read so far,
and the fuel counts two steps a byte. -/
theorem recordMembers_members (hnd : fields.Nodup) (vals : List String) (rest : List UInt8) :
    ∀ (q p : List (String × Value)) (first : Bool) (fuel : Nat), FieldsOnce fields (p ++ q) →
      Value.FieldsWritable q → fieldStrings fields (p ++ q) = vals.map some →
      2 * (membersBytes first q).length ≤ fuel →
      Leads (recordMembers fields (fuel + 1) first (fieldStrings fields p)) (pure vals)
        (membersBytes first q) (0x7D :: rest)
  | [], p, first, fuel, _, _, hvals, _ => by
    have hlen : fields.length = vals.length := by
      simpa [fieldStrings] using congrArg List.length hvals
    rw [List.append_nil] at hvals
    rw [hvals]
    exact recordMembers_close hlen first fuel rest
  | (k, v) :: q, p, first, fuel, honce, hw, hvals, hfuel => by
    have hlen : (memberBytes (k, v)).length + (membersBytes false q).length ≤
        (membersBytes first ((k, v) :: q)).length := by
      cases first <;> simp only [membersBytes, List.length_append, List.length_cons,
        List.length_nil, if_true, Bool.false_eq_true, if_false] <;> omega
    have hb : 0 < (memberBytes (k, v)).length := by simp [memberBytes]
    obtain ⟨fuel, rfl⟩ : ∃ n, fuel = n + 1 := ⟨fuel - 1, by omega⟩
    exact (recordMembers_member hnd first honce hw.1 (delimits_membersBytes q rest) (fuel + 1)
      (by omega)).trans
      (recordMembers_members hnd vals rest q (p ++ [(k, v)]) false fuel (by simpa using honce)
        hw.2 (by simpa using hvals) (by omega))

/-! ## Whole records -/

/-- The text of an object in which each field names at most one member, with a string
value, and every field names one, is read as the record of the fields' strings. -/
theorem stringRecord_write (hnd : fields.Nodup) {fs : List (String × Value)}
    {vals : List String}
    (honce : FieldsOnce fields fs) (hw : (Value.obj fs).Writable)
    (hvals : fieldStrings fields fs = vals.map some) (name : String) (rest : List UInt8) :
    Leads (stringRecord name fields) (pure vals) (bytes (Value.obj fs).write) rest := by
  have hempty : fields.map (fun _ => none) = fieldStrings fields [] := by
    simp [fieldStrings, Value.field?]
  rw [stringRecord, bytes_write_obj_members]
  refine ((blanks_leads (by decide) _).bind_pure _).trans_nil ?_
  refine placed_leads ?_
  simp +decide only [if_false, if_true]
  refine ((eat_leads 0x7B _).bind_pure _).trans ?_
  refine Leads.of_get fun c hc => ?_
  have hfuel : 2 * (membersBytes true fs).length ≤ 2 * c.rest.length + 1 := by
    rw [hc]
    simp only [List.append_eq, List.length_append, List.length_cons, List.length_nil]
    omega
  have hmembers := recordMembers_members hnd vals rest fs [] true _ honce hw hvals hfuel
  rw [← hempty] at hmembers
  refine ((attempt_leads hmembers).bind_pure _).trans ?_
  exact ((attempt_leads (closeObject_leads rest)).bind_pure _)

/-- Read as a whole text, the written object gives the record of its fields' strings. -/
theorem readStringRecord_write (hnd : fields.Nodup) {fs : List (String × Value)}
    {vals : List String}
    (honce : FieldsOnce fields fs) (hw : (Value.obj fs).Writable)
    (hvals : fieldStrings fields fs = vals.map some) (name : String) :
    readStringRecord name fields (Value.obj fs).write = .ok vals := by
  have hrecord : Leads (do let v ← stringRecord name fields; finish; pure v)
      (do finish; pure vals) (bytes (Value.obj fs).write) ([] ++ []) :=
    (stringRecord_write hnd honce hw hvals name []).bind_pure _
  have h : Leads (do let v ← stringRecord name fields; finish; pure v) (pure vals)
      (bytes (Value.obj fs).write) [] := by
    simpa only [List.append_nil] using hrecord.trans (finish_leads.bind_pure _)
  obtain ⟨c', -, he⟩ := h (Cursor.ofString (Value.obj fs).write) (by
    simp [Cursor.ofString, bytes, String.toUTF8_eq_toByteArray])
  exact congrArg Prod.fst he

/-! ## One string per field -/

theorem length_setAt :
    ∀ (l : List (Option String)) (i : Nat) (v : String), (setAt l i v).length = l.length
  | [], _, _ => rfl
  | _ :: _, 0, _ => rfl
  | _ :: rest, i + 1, v => by simp [setAt, length_setAt rest i v]

/-- Read from a list, a record has one string per field. -/
theorem recordItems_yields (name : String) (count : Nat) :
    ∀ (l : List String) (i : Nat) (acc : List String),
      Yields (recordItems name count l i acc) fun r => r.length = acc.length + l.length
  | [], _, acc => by
    rw [recordItems]
    exact Yields.of_pure (by simp)
  | _ :: rest, i, acc => by
    rw [recordItems]
    refine (Yields.any _).bind fun b _ => ?_
    split
    · refine (Yields.any _).bind fun v _ => ?_
      refine (recordItems_yields name count rest (i + 1) (v :: acc)).mono fun r hr => ?_
      simp only [hr, List.length_cons]
      omega
    · exact failShape_yields _ _

/-- Collecting the slots gives one string per slot, or fails. -/
theorem foldlM_yields {step : List String → String × Option String → Scan (List String)}
    (hstep : ∀ acc x, Yields (step acc x) fun r => r.length = acc.length + 1) :
    ∀ (l : List (String × Option String)) (acc : List String),
      Yields (l.foldlM step acc) fun r => r.length = acc.length + l.length
  | [], acc => Yields.of_pure (by simp)
  | x :: l, acc => by
    rw [List.foldlM_cons]
    refine (hstep acc x).bind fun acc' h => (foldlM_yields hstep l acc').mono fun r hr => ?_
    simp only [hr, h, List.length_cons]
    omega

/-- Read from an object, a record has one string per field. -/
theorem recordMembers_yields (fields : List String) :
    ∀ (fuel : Nat) (first : Bool) (found : List (Option String)), found.length = fields.length →
      Yields (recordMembers fields fuel first found) fun r => r.length = fields.length
  | 0, _, _, _ => by
    rw [recordMembers]
    exact failAhead_yields _ _
  | fuel + 1, first, found, hlen => by
    rw [recordMembers]
    refine (Yields.any _).bind fun key _ => ?_
    split
    · refine (foldlM_yields ?_ _ []).mono fun r hr => by simp [hr, hlen]
      rintro acc ⟨f, _ | v⟩
      · exact failShape_yields _ _
      · exact Yields.of_pure (by simp)
    · split
      · split
        · exact failShape_yields _ _
        · refine (Yields.any _).bind fun _ _ => (Yields.any _).bind fun v _ => ?_
          exact recordMembers_yields fields fuel false _ (by rw [length_setAt, hlen])
      · exact (Yields.any _).bind fun _ _ => (Yields.any _).bind fun _ _ =>
          recordMembers_yields fields fuel false found hlen

/-- A record read has one string per field, in the list form as in the object form. -/
theorem stringRecord_yields (name : String) (fields : List String) :
    Yields (stringRecord name fields) fun r => r.length = fields.length := by
  rw [stringRecord]
  refine (Yields.any _).bind fun b _ => ?_
  split
  · exact failAhead_yields _ _
  · refine placed_yields ?_
    split_ifs
    · refine (Yields.any _).bind fun _ _ => ?_
      refine (attempt_yields (recordItems_yields name fields.length fields 0 [])).bind
        fun items hitems => (Yields.any _).bind fun close _ => ?_
      split
      · exact Yields.of_pure (by simpa using hitems _ rfl)
      · exact Yields.of_throw _
      · exact Yields.of_throw _
    · refine (Yields.any _).bind fun _ _ => (Yields.any _).bind fun c _ => ?_
      refine (attempt_yields (recordMembers_yields fields _ true _ (by simp))).bind
        fun items hitems => (Yields.any _).bind fun close _ => ?_
      split
      · exact Yields.of_pure (hitems _ rfl)
      · exact Yields.of_throw _
      · exact Yields.of_throw _
    · exact mismatch_yields _ _

/-- A text read as a record gives one string per field. -/
theorem readStringRecord_length {name : String} {fields : List String} {text : String}
    {keys : List String} (h : readStringRecord name fields text = .ok keys) :
    keys.length = fields.length := by
  have hy : Yields (do let v ← stringRecord name fields; finish; pure v)
      fun r => r.length = fields.length :=
    (stringRecord_yields name fields).bind fun _ hv =>
      (Yields.any _).bind fun _ _ => Yields.of_pure hv
  exact hy (Cursor.ofString text) keys _ (by rw [← h]; rfl)

end Scan

end NetReconcile.Json
