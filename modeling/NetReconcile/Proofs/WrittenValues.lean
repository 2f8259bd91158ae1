import NetReconcile.Proofs.WrittenNumbers

/-!
# Written values stepped over

Stepping over a value keeps the brackets entered in a stack and reads one token a step.
Over the text of any value whose numbers have JSON texts, it reads the whole value and
goes on as it would after a scalar (`skipValue_write`); inside a list or an object, the
items after the first are read behind their commas up to the closing bracket
(`closeOrNext_items`, `closeOrNext_fields`). The fuel spent is counted by `skipCost`: one
step per token that opens a value or a frame, and one per comma or closing bracket.
-/

namespace NetReconcile.Json

open Text

namespace Value

mutual
/-- Whether every number in a value has a JSON text. -/
def Writable : Value → Prop
  | .num n => n.Finite
  | .arr items => ItemsWritable items
  | .obj fs => FieldsWritable fs
  | _ => True

/-- Whether every number in a list of values has a JSON text. -/
def ItemsWritable : List Value → Prop
  | [] => True
  | v :: vs => Writable v ∧ ItemsWritable vs

/-- Whether every number in the values of the members has a JSON text. -/
def FieldsWritable : List (String × Value) → Prop
  | [] => True
  | (_, v) :: fs => Writable v ∧ FieldsWritable fs
end

mutual
/-- The steps stepping over a written value takes. -/
def skipCost : Value → Nat
  | .arr items => itemsCost items + 1
  | .obj fs => fieldsCost fs + 1
  | _ => 1

/-- The steps over the items of a list, each behind its comma or first, and the closing
bracket. -/
def itemsCost : List Value → Nat
  | [] => 1
  | v :: vs => skipCost v + itemsCost vs + 1

/-- The steps over the members of an object, as over the items of a list. -/
def fieldsCost : List (String × Value) → Nat
  | [] => 1
  | (_, v) :: fs => skipCost v + fieldsCost fs + 1
end

theorem write_arr (items : List Value) :
    (Value.arr items).write = "[" ++ ",".intercalate (items.map Value.write) ++ "]" := by
  rw [Value.write, List.map_attach_eq_pmap, List.pmap_eq_map]

theorem write_obj (fs : List (String × Value)) :
    (Value.obj fs).write =
      "\x7b" ++ ",".intercalate (fs.map fun kv => writeString kv.1 ++ ":" ++ kv.2.write) ++
        "\x7d" := by
  rw [Value.write, List.map_attach_eq_pmap, List.pmap_eq_map]

end Value

namespace Scan

/-- The bytes of a member of an object. -/
def memberBytes (kv : String × Value) : List UInt8 :=
  bytes (writeString kv.1) ++ 0x3A :: bytes kv.2.write

theorem bytes_intercalate_comma (w : String) (ws : List String) :
    bytes (",".intercalate (w :: ws)) = bytes w ++ ws.flatMap (fun x => 0x2C :: bytes x) := by
  induction ws generalizing w with
  | nil => simp
  | cons x ws ih =>
    rw [String.intercalate_cons_cons, bytes_append, bytes_append, ih, List.flatMap_cons,
      show bytes "," = [0x2C] by rw [bytes_eq]; rfl]
    simp

theorem bytes_write_arr_nil : bytes (Value.arr []).write = [0x5B, 0x5D] := by
  rw [Value.write_arr, bytes_eq]
  rfl

theorem bytes_write_arr_cons (v : Value) (vs : List Value) : bytes (Value.arr (v :: vs)).write =
    0x5B :: (bytes v.write ++ ((vs.flatMap fun w => 0x2C :: bytes w.write) ++ [0x5D])) := by
  rw [Value.write_arr, bytes_append, bytes_append, List.map_cons, bytes_intercalate_comma,
    List.flatMap_map, show bytes "[" = [0x5B] by rw [bytes_eq]; rfl,
    show bytes "]" = [0x5D] by rw [bytes_eq]; rfl]
  simp

theorem bytes_write_obj_nil : bytes (Value.obj []).write = [0x7B, 0x7D] := by
  rw [Value.write_obj, bytes_eq]
  rfl

theorem bytes_write_obj_cons (kv : String × Value) (fs : List (String × Value)) :
    bytes (Value.obj (kv :: fs)).write =
      0x7B :: (memberBytes kv ++ ((fs.flatMap fun kv => 0x2C :: memberBytes kv) ++ [0x7D])) := by
  rw [Value.write_obj, bytes_append, bytes_append, List.map_cons, bytes_intercalate_comma,
    List.flatMap_map, show bytes "\x7b" = [0x7B] by rw [bytes_eq]; rfl,
    show bytes "\x7d" = [0x7D] by rw [bytes_eq]; rfl]
  simp [memberBytes, bytes_append, show bytes ":" = [0x3A] by rw [bytes_eq]; rfl]

theorem bytes_write_null : bytes Value.null.write = [0x6E, 0x75, 0x6C, 0x6C] := by
  rw [Value.write, bytes_eq]
  rfl

theorem bytes_write_true : bytes (Value.bool true).write = [0x74, 0x72, 0x75, 0x65] := by
  rw [Value.write, bytes_eq]
  rfl

theorem bytes_write_false : bytes (Value.bool false).write = [0x66, 0x61, 0x6C, 0x73, 0x65] := by
  rw [Value.write, bytes_eq]
  rfl

/-- A written value starts with a byte that is no whitespace and no closing bracket. -/
theorem head_write (v : Value) (hv : v.Writable) :
    ∃ b t, bytes v.write = b :: t ∧ isBlank b = false ∧ b ≠ 0x5D ∧ b ≠ 0x7D := by
  match v, hv with
  | .null, _ => exact ⟨_, _, bytes_write_null, by decide, by decide, by decide⟩
  | .bool true, _ => exact ⟨_, _, bytes_write_true, by decide, by decide, by decide⟩
  | .bool false, _ => exact ⟨_, _, bytes_write_false, by decide, by decide, by decide⟩
  | .num n, hn =>
    rw [Value.write]
    rcases n.numberText_write hn with hu | ⟨u, hu', -⟩
    · obtain ⟨d, t, hdt, hd⟩ := hu.head
      have := isDigit_facts hd
      exact ⟨d, t, hdt, this.1, this.2.2.2.2.2⟩
    · exact ⟨_, _, hu', by decide, by decide, by decide⟩
  | .str s, _ =>
    exact ⟨_, _, by rw [Value.write, bytes_writeString], by decide, by decide, by decide⟩
  | .arr [], _ => exact ⟨_, _, bytes_write_arr_nil, by decide, by decide, by decide⟩
  | .arr (_ :: _), _ => exact ⟨_, _, bytes_write_arr_cons .., by decide, by decide, by decide⟩
  | .obj [], _ => exact ⟨_, _, bytes_write_obj_nil, by decide, by decide, by decide⟩
  | .obj (_ :: _), _ => exact ⟨_, _, bytes_write_obj_cons .., by decide, by decide, by decide⟩

/-! ## One token a step -/

variable {rest : List UInt8}

theorem afterScalar_cons (fuel : Nat) (frame : UInt8) (outer : List UInt8) :
    skipValue.afterScalar fuel (frame :: outer) = skipValue.closeOrNext fuel frame outer true := by
  rw [skipValue.afterScalar]

/-- A closing bracket that matches the frame closes it. -/
theorem closeOrNext_close {frame b : UInt8}
    (hb : frame = 0x5B ∧ b = 0x5D ∨ frame = 0x7B ∧ b = 0x7D)
    (fuel : Nat) (outer : List UInt8) (acceptComma : Bool) :
    Leads (skipValue.closeOrNext (fuel + 1) frame outer acceptComma)
      (skipValue.afterScalar fuel outer) [b] rest := by
  rcases hb with ⟨rfl, rfl⟩ | ⟨rfl, rfl⟩ <;> cases outer <;>
    rw [skipValue.closeOrNext, skipValue.afterScalar] <;>
    refine ((blanks_leads (by decide) _).bind_pure _).trans_nil ?_ <;>
    simp +decide only [if_false, if_true] <;>
    exact (eat_leads _ rest).bind_pure _

/-- After an item, a comma starts the next. -/
theorem closeOrNext_comma (fuel : Nat) (frame : UInt8) (outer : List UInt8) :
    Leads (skipValue.closeOrNext (fuel + 1) frame outer true) (skipValue.entry fuel frame outer)
      [0x2C] rest := by
  cases outer <;> rw [skipValue.closeOrNext] <;>
    refine ((blanks_leads (by decide) _).bind_pure _).trans_nil ?_ <;>
    simp +decide only [if_true] <;>
    exact (eat_leads _ rest).bind_pure _

/-- Right after an opening bracket, anything but a closing one starts the first item. -/
theorem closeOrNext_first (b : UInt8) (hb : isBlank b = false) (h5D : b ≠ 0x5D) (h7D : b ≠ 0x7D)
    (fuel : Nat) (frame : UInt8) (outer rest' : List UInt8) :
    Leads (skipValue.closeOrNext (fuel + 1) frame outer false) (skipValue.entry fuel frame outer) []
      (b :: rest') := by
  have h1 : (b == 0x5D) = false := beq_eq_false_iff_ne.mpr h5D
  have h2 : (b == 0x7D) = false := beq_eq_false_iff_ne.mpr h7D
  cases outer <;> rw [skipValue.closeOrNext] <;>
    refine ((blanks_leads hb _).bind_pure _).trans_nil ?_ <;>
    simp only [h1, h2, Bool.and_false, Bool.false_and, Bool.false_or, Bool.false_eq_true,
      if_false] <;>
    exact Leads.refl _ _

/-- An item of a list is a value inside the list. -/
theorem entry_list (fuel : Nat) (outer : List UInt8) :
    skipValue.entry fuel 0x5B outer = skipValue fuel (0x5B :: outer) := by
  rw [skipValue.entry]
  rfl

/-- A member of an object is its key, a colon, and a value inside the object. -/
theorem entry_object (k : String) (fuel : Nat) (outer : List UInt8) :
    Leads (skipValue.entry fuel 0x7B outer) (skipValue fuel (0x7B :: outer))
      (bytes (writeString k) ++ [0x3A]) rest := by
  rw [skipValue.entry, if_pos (show ((0x7B : UInt8) == 0x7B) = true from rfl), bytes_writeString]
  refine ((blanks_leads (by decide) _).bind_pure _).trans_nil ?_
  refine ((eat_leads 0x22 _).bind_pure _).trans ?_
  dsimp only
  refine ((skipString_leads k).bind_pure _).trans ?_
  refine ((blanks_leads (by decide) _).bind_pure _).trans_nil ?_
  exact (eat_leads 0x3A rest).bind_pure _

/-! ## Scalars -/

/-- A keyword is read by its first letter and the rest of it. -/
theorem skipValue_keyword {b : UInt8} {kw : List UInt8} (F : Nat) (S : List UInt8)
    (h : (b, kw) = (0x6E, [0x75, 0x6C, 0x6C]) ∨ (b, kw) = (0x74, [0x72, 0x75, 0x65]) ∨
      (b, kw) = (0x66, [0x61, 0x6C, 0x73, 0x65])) :
    Leads (skipValue (F + 1) S) (skipValue.afterScalar F S) (b :: kw) rest := by
  have hk : Leads (do eat; keyword kw; skipValue.afterScalar F S) (skipValue.afterScalar F S)
      (b :: kw) rest := by
    refine ((eat_leads b _).bind_pure _).trans ?_
    simpa using (keyword_leads kw rest).bind_pure fun _ => skipValue.afterScalar F S
  rw [skipValue]
  rcases h with h | h | h <;> obtain ⟨rfl, rfl⟩ := Prod.mk.inj h <;>
    exact ((blanks_leads (by decide) _).bind_pure _).trans_nil hk

theorem skipValue_string (s : String) (F : Nat) (S : List UInt8) :
    Leads (skipValue (F + 1) S) (skipValue.afterScalar F S) (bytes (writeString s)) rest := by
  rw [skipValue, bytes_writeString]
  refine ((blanks_leads (by decide) _).bind_pure _).trans_nil ?_
  change Leads (do eat; skipString; skipValue.afterScalar F S) _ _ _
  refine ((eat_leads 0x22 _).bind_pure _).trans ?_
  simpa using (skipString_leads s).bind_pure fun _ => skipValue.afterScalar F S

/-- A number is read by its sign, if any, and its digits, when a delimiter follows. -/
theorem skipValue_number {n : Number} (hn : n.Finite) (F : Nat) (S : List UInt8)
    (hr : Delimits rest) :
    Leads (skipValue (F + 1) S) (skipValue.afterScalar F S) (bytes n.write) rest := by
  rcases n.numberText_write hn with hu | ⟨u, hu', hu⟩
  · obtain ⟨d, t, hdt, hd⟩ := hu.head
    obtain ⟨hb, h6E, h74, h66, h2D, -⟩ := isDigit_facts hd
    rw [skipValue, hdt]
    refine ((blanks_leads hb _).bind_pure _).trans_nil ?_
    simp only [h6E, h74, h66, h2D, hd, Bool.false_eq_true, if_false, if_true]
    exact (skipNumber_leads (hdt ▸ hu) hr).bind_pure _
  · rw [skipValue, hu']
    refine ((blanks_leads (by decide) _).bind_pure _).trans_nil ?_
    change Leads (do eat; skipNumber; skipValue.afterScalar F S) _ _ _
    refine ((eat_leads 0x2D _).bind_pure _).trans ?_
    exact (skipNumber_leads hu hr).bind_pure _

/-! ## Lists and objects -/

/-- An opening bracket starts a frame. -/
theorem skipValue_open {b : UInt8} (hb : b = 0x5B ∨ b = 0x7B) (fuel : Nat) (S : List UInt8) :
    Leads (skipValue (fuel + 1) S) (skipValue.closeOrNext fuel b S false) [b] rest := by
  rw [skipValue]
  rcases hb with rfl | rfl <;>
    refine ((blanks_leads (by decide) _).bind_pure _).trans_nil ?_ <;>
    simp +decide only [if_false, if_true] <;>
    exact (eat_leads _ rest).bind_pure _

/-- After an item come a comma or the closing bracket. -/
theorem delimits_items (vs : List Value) (rest : List UInt8) :
    Delimits ((vs.flatMap fun w => 0x2C :: bytes w.write) ++ [0x5D] ++ rest) := by
  cases vs <;> simp [Delimits]

/-- After a member come a comma or the closing brace. -/
theorem delimits_fields (fs : List (String × Value)) (rest : List UInt8) :
    Delimits ((fs.flatMap fun kv => 0x2C :: memberBytes kv) ++ [0x7D] ++ rest) := by
  cases fs <;> simp [Delimits]

theorem memberBytes_append (kv : String × Value) (r : List UInt8) :
    memberBytes kv ++ r = (bytes (writeString kv.1) ++ [0x3A]) ++ (bytes kv.2.write ++ r) := by
  simp [memberBytes]

mutual
/-- A written value is stepped over whole, in `skipCost` steps, when a delimiter follows. -/
theorem skipValue_write :
    ∀ (v : Value) (F : Nat) (S rest : List UInt8), v.Writable → Delimits rest →
    Leads (skipValue (F + v.skipCost) S) (skipValue.afterScalar F S) (bytes v.write) rest
  | .null, F, S, rest, _, _ => by
    rw [bytes_write_null]
    exact skipValue_keyword F S (.inl rfl)
  | .bool true, F, S, rest, _, _ => by
    rw [bytes_write_true]
    exact skipValue_keyword F S (.inr (.inl rfl))
  | .bool false, F, S, rest, _, _ => by
    rw [bytes_write_false]
    exact skipValue_keyword F S (.inr (.inr rfl))
  | .num n, F, S, rest, hn, hr => by
    rw [Value.write]
    exact skipValue_number hn F S hr
  | .str s, F, S, rest, _, _ => by
    rw [Value.write]
    exact skipValue_string s F S
  | .arr [], F, S, rest, _, _ => by
    rw [bytes_write_arr_nil]
    exact (skipValue_open (.inl rfl) (F + 1) S).trans
      (closeOrNext_close (.inl ⟨rfl, rfl⟩) F S false)
  | .arr (v :: vs), F, S, rest, hv, hr => by
    obtain ⟨b, t, hbt, hb, h5D, h7D⟩ := head_write v hv.1
    have hfuel : F + (Value.arr (v :: vs)).skipCost =
        F + Value.itemsCost vs + v.skipCost + 1 + 1 := by
      simp only [Value.skipCost, Value.itemsCost]
      omega
    have hfirst := closeOrNext_first b hb h5D h7D (F + Value.itemsCost vs + v.skipCost) 0x5B S
      (t ++ ((vs.flatMap fun w => 0x2C :: bytes w.write) ++ [0x5D] ++ rest))
    rw [entry_list, ← List.cons_append, ← hbt] at hfirst
    have hitem := skipValue_write v (F + Value.itemsCost vs) (0x5B :: S) _ hv.1
      (delimits_items vs rest)
    rw [afterScalar_cons] at hitem
    rw [hfuel, bytes_write_arr_cons]
    refine (skipValue_open (.inl rfl) _ S).trans
      ((hfirst.trans_nil ?_).trans (closeOrNext_items vs F S rest hv.2 hr))
    simpa using hitem
  | .obj [], F, S, rest, _, _ => by
    rw [bytes_write_obj_nil]
    exact (skipValue_open (.inr rfl) (F + 1) S).trans
      (closeOrNext_close (.inr ⟨rfl, rfl⟩) F S false)
  | .obj (kv :: fs), F, S, rest, hv, hr => by
    have hfuel : F + (Value.obj (kv :: fs)).skipCost =
        F + Value.fieldsCost fs + kv.2.skipCost + 1 + 1 := by
      simp only [Value.skipCost, Value.fieldsCost]
      omega
    have hfirst :
        Leads (skipValue.closeOrNext (F + Value.fieldsCost fs + kv.2.skipCost + 1) 0x7B S false)
        (skipValue.entry (F + Value.fieldsCost fs + kv.2.skipCost) 0x7B S) []
        ((bytes (writeString kv.1) ++ [0x3A]) ++ (bytes kv.2.write ++
          ((fs.flatMap fun kv => 0x2C :: memberBytes kv) ++ [0x7D])) ++ rest) := by
      rw [bytes_writeString]
      exact closeOrNext_first 0x22 (by decide) (by decide) (by decide) _ 0x7B S _
    have hitem := skipValue_write kv.2 (F + Value.fieldsCost fs) (0x7B :: S) _ hv.1
      (delimits_fields fs rest)
    rw [afterScalar_cons] at hitem
    rw [hfuel, bytes_write_obj_cons, memberBytes_append]
    refine (skipValue_open (.inr rfl) _ S).trans (hfirst.trans_nil ?_)
    exact (entry_object kv.1 _ S).trans (hitem.trans (closeOrNext_fields fs F S rest hv.2 hr))

/-- The items of a list after its first are each read behind a comma, up to the closing
bracket. -/
theorem closeOrNext_items :
    ∀ (vs : List Value) (F : Nat) (S rest : List UInt8), Value.ItemsWritable vs →
    Delimits rest →
    Leads (skipValue.closeOrNext (F + Value.itemsCost vs) 0x5B S true) (skipValue.afterScalar F S)
      ((vs.flatMap fun w => 0x2C :: bytes w.write) ++ [0x5D]) rest
  | [], F, S, rest, _, _ => closeOrNext_close (.inl ⟨rfl, rfl⟩) F S true
  | w :: ws, F, S, rest, hw, hr => by
    have hfuel : F + Value.itemsCost (w :: ws) = F + Value.itemsCost ws + w.skipCost + 1 := by
      simp only [Value.itemsCost]
      omega
    have hitem := skipValue_write w (F + Value.itemsCost ws) (0x5B :: S) _ hw.1
      (delimits_items ws rest)
    rw [afterScalar_cons, ← entry_list] at hitem
    have hbytes : ((w :: ws).flatMap fun w => 0x2C :: bytes w.write) ++ [0x5D] =
        [0x2C] ++ (bytes w.write ++ ((ws.flatMap fun w => 0x2C :: bytes w.write) ++ [0x5D])) := by
      simp
    rw [hfuel, hbytes]
    exact (closeOrNext_comma _ 0x5B S).trans (hitem.trans (closeOrNext_items ws F S rest hw.2 hr))

/-- The members of an object after its first are each read behind a comma, up to the
closing brace. -/
theorem closeOrNext_fields : ∀ (fs : List (String × Value)) (F : Nat) (S rest : List UInt8),
    Value.FieldsWritable fs → Delimits rest →
    Leads (skipValue.closeOrNext (F + Value.fieldsCost fs) 0x7B S true) (skipValue.afterScalar F S)
      ((fs.flatMap fun kv => 0x2C :: memberBytes kv) ++ [0x7D]) rest
  | [], F, S, rest, _, _ => closeOrNext_close (.inr ⟨rfl, rfl⟩) F S true
  | kv :: fs, F, S, rest, hw, hr => by
    have hfuel : F + Value.fieldsCost (kv :: fs) = F + Value.fieldsCost fs + kv.2.skipCost + 1 := by
      simp only [Value.fieldsCost]
      omega
    have hitem := skipValue_write kv.2 (F + Value.fieldsCost fs) (0x7B :: S) _ hw.1
      (delimits_fields fs rest)
    rw [afterScalar_cons] at hitem
    have hbytes : ((kv :: fs).flatMap fun kv => 0x2C :: memberBytes kv) ++ [0x7D] =
        [0x2C] ++ ((bytes (writeString kv.1) ++ [0x3A]) ++
          (bytes kv.2.write ++ ((fs.flatMap fun kv => 0x2C :: memberBytes kv) ++ [0x7D]))) := by
      simp [memberBytes]
    rw [hfuel, hbytes]
    exact (closeOrNext_comma _ 0x7B S).trans
      ((entry_object kv.1 _ S).trans (hitem.trans (closeOrNext_fields fs F S rest hw.2 hr)))
end

/-! ## The fuel spent -/

mutual
/-- Stepping over a written value takes at most two steps a byte. -/
theorem skipCost_le : ∀ v : Value, v.Writable → v.skipCost ≤ 2 * (bytes v.write).length
  | .arr [], _ => by
    rw [bytes_write_arr_nil]
    decide
  | .arr (v :: vs), hv => by
    have h₁ := skipCost_le v hv.1
    have h₂ := itemsCost_le vs hv.2
    rw [bytes_write_arr_cons]
    simp only [Value.skipCost, Value.itemsCost, List.length_cons, List.length_append,
      List.length_nil] at h₂ ⊢
    omega
  | .obj [], _ => by
    rw [bytes_write_obj_nil]
    decide
  | .obj (kv :: fs), hv => by
    have h₁ := skipCost_le kv.2 hv.1
    have h₂ := fieldsCost_le fs hv.2
    rw [bytes_write_obj_cons]
    simp only [Value.skipCost, Value.fieldsCost, memberBytes, List.length_cons, List.length_append,
      List.length_nil] at h₂ ⊢
    omega
  | .null, hv | .bool _, hv | .num _, hv | .str _, hv => by
    obtain ⟨b, t, hbt, -⟩ := head_write _ hv
    rw [hbt]
    simp only [Value.skipCost, List.length_cons]
    omega

theorem itemsCost_le : ∀ vs : List Value, Value.ItemsWritable vs →
    Value.itemsCost vs ≤
      2 * ((vs.flatMap fun (w : Value) => 0x2C :: bytes w.write) ++ [0x5D]).length
  | [], _ => by simp [Value.itemsCost]
  | v :: vs, hv => by
    have h₁ := skipCost_le v hv.1
    have h₂ := itemsCost_le vs hv.2
    simp only [Value.itemsCost, List.flatMap_cons, List.length_append, List.length_cons] at h₂ ⊢
    omega

theorem fieldsCost_le : ∀ fs : List (String × Value), Value.FieldsWritable fs →
    Value.fieldsCost fs ≤ 2 * ((fs.flatMap fun kv => 0x2C :: memberBytes kv) ++ [0x7D]).length
  | [], _ => by simp [Value.fieldsCost]
  | kv :: fs, hv => by
    have h₁ := skipCost_le kv.2 hv.1
    have h₂ := fieldsCost_le fs hv.2
    simp only [Value.fieldsCost, memberBytes, List.flatMap_cons, List.length_append,
      List.length_cons] at h₂ ⊢
    omega
end

end Scan

end NetReconcile.Json
