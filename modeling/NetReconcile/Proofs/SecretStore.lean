import Mathlib.Data.List.Induction
import NetReconcile.Proofs.Utf8Order
import NetReconcile.Secrets.Store
import NetReconcile.Config.Spec

/-!
# Listing the keys of a memory store

A memory store keeps its secrets in strictly increasing key order (`Sorted`), and every
write keeps it so. Listing the keys under a prefix scans the store from the prefix on and
stops at the first key that does not start with it. That is the plain filter of the keys
with the prefix, because in lexicographic order the texts with a given prefix form one
interval that begins at the prefix: a text at or above the prefix and below a text with
the prefix has the prefix too (`startsWith_of_between`).

Over any sequence of writes from an empty store (secrets set under a key or seeded under
the key of a selector, keys deleted), the store holds under each key the value of the last
write to it, unless that write deleted it. Listing under a prefix gives exactly the held
keys whose bytes start with the prefix's bytes, in strictly increasing byte order, and a
key exists exactly when reading it gives a secret (`memory_store_listing`).
-/

namespace NetReconcile.Secrets

open Text

/-! ## Texts with a prefix form an interval -/

/-- A list of characters at or above a prefix and below the prefix followed by anything
starts with the prefix. -/
theorem isPrefix_of_between {p a : List Char} (t : List Char) (hp : ¬ a < p) (ha : a < p ++ t) :
    p <+: a := by
  induction p generalizing a with
  | nil => exact List.nil_prefix
  | cons x p ih =>
    cases a with
    | nil => exact absurd (List.nil_lt_cons x p) hp
    | cons y a =>
      rw [List.cons_append, List.cons_lt_cons_iff] at ha
      rw [List.cons_lt_cons_iff, not_or, not_and] at hp
      rcases ha with hyx | ⟨rfl, ha⟩
      · exact absurd hyx hp.1
      · exact List.cons_prefix_cons.2 ⟨rfl, ih (hp.2 rfl) ha⟩

/-- A text at or above a prefix and below a text with that prefix has the prefix too. -/
theorem startsWith_of_between {p a b : String} (hpa : p ≤ a) (hab : a < b) (hb : b.startsWith p) :
    a.startsWith p := by
  obtain ⟨t, ht⟩ := String.startsWith_string_iff.1 hb
  have ha : a.toList < p.toList ++ t := by
    rw [ht]
    exact hab
  exact String.startsWith_string_iff.2 (isPrefix_of_between t hpa ha)

/-- A text with a prefix is at or above it. -/
theorem le_of_startsWith {p a : String} (h : a.startsWith p) : p ≤ a :=
  (String.startsWith_string_iff.1 h).le

/-! ## Sorted secrets -/

/-- Secrets in strictly increasing key order, so each key once. -/
def Sorted (s : List (String × String)) : Prop := s.Pairwise fun a b => a.1 < b.1

/-- The secret held under a key. -/
def lookup (s : List (String × String)) (key : String) : Option String :=
  (s.find? (·.1 == key)).map (·.2)

/-- Inserting a secret adds its key and keeps the others. -/
theorem mem_insertSecret {key value : String} {s : List (String × String)} {e : String × String}
    (h : e ∈ insertSecret key value s) : e = (key, value) ∨ e ∈ s := by
  induction s with
  | nil => simpa [insertSecret] using h
  | cons kv rest ih =>
    simp only [insertSecret] at h
    split at h
    · simp only [List.mem_cons] at h
      rcases h with rfl | h
      · exact .inl rfl
      · exact .inr (List.mem_cons_of_mem _ h)
    · split at h
      · simpa using h
      · simp only [List.mem_cons] at h
        rcases h with rfl | h
        · exact .inr List.mem_cons_self
        · exact (ih h).imp id (List.mem_cons_of_mem _)

/-- Inserting a secret keeps the keys sorted. -/
theorem Sorted.insertSecret {s : List (String × String)} (hs : Sorted s) (key value : String) :
    Sorted (insertSecret key value s) := by
  induction s with
  | nil => simp [Secrets.insertSecret, Sorted]
  | cons kv rest ih =>
    obtain ⟨k, v⟩ := kv
    simp only [Sorted, List.pairwise_cons] at hs
    simp only [Secrets.insertSecret]
    split
    · subst key
      exact List.pairwise_cons.2 ⟨hs.1, hs.2⟩
    · split
      · rename_i hlt
        refine List.pairwise_cons.2 ⟨fun e he => ?_, List.pairwise_cons.2 hs⟩
        rcases List.mem_cons.1 he with rfl | he
        · exact hlt
        · exact String.lt_trans hlt (hs.1 e he)
      · rename_i hne hnlt
        have hk : k < key := Std.lt_of_le_of_ne hnlt (Ne.symm hne)
        refine List.pairwise_cons.2 ⟨fun e he => ?_, ih hs.2⟩
        rcases mem_insertSecret he with rfl | he
        · exact hk
        · exact hs.1 e he

/-- Deleting a key keeps the keys sorted. -/
theorem Sorted.filter {s : List (String × String)} (hs : Sorted s) (f : String × String → Bool) :
    Sorted (s.filter f) :=
  List.Pairwise.filter f hs

@[simp] theorem lookup_nil (x : String) : lookup [] x = none := rfl

@[simp] theorem lookup_cons (k v x : String) (rest : List (String × String)) :
    lookup ((k, v) :: rest) x = if k = x then some v else lookup rest x := by
  by_cases h : k = x <;> simp [lookup, h]

/-- After inserting a secret its key holds it, and every other key holds what it held. -/
theorem lookup_insertSecret (key value x : String) (s : List (String × String)) :
    lookup (insertSecret key value s) x = if x = key then some value else lookup s x := by
  induction s with
  | nil => by_cases h : x = key <;> simp [insertSecret, h, Ne.symm]
  | cons kv rest ih =>
    obtain ⟨k, v⟩ := kv
    simp only [insertSecret]
    split
    · subst key
      by_cases h : x = k <;> simp [h, Ne.symm]
    · split
      · by_cases h : x = key <;> simp [h, Ne.symm]
      · rename_i hne _
        rw [lookup_cons, ih, lookup_cons]
        by_cases h : x = key
        · subst x
          simp [Ne.symm hne]
        · simp [h]

/-- After deleting a key it holds nothing, and every other key holds what it held. -/
theorem lookup_delete (key x : String) (s : List (String × String)) :
    lookup (s.filter (·.1 != key)) x = if x = key then none else lookup s x := by
  by_cases h : x = key
  · subst x
    simp [lookup, List.find?_filter]
  · have hsame : (fun e : String × String => !decide (e.1 = key) && decide (e.1 = x)) =
        (·.1 == x) := by
      funext e
      by_cases he : e.1 = x <;> simp [he, h]
    simp [lookup, List.find?_filter, hsame, h]

/-- A key is among the keys of the secrets exactly when it holds a secret. -/
theorem mem_keys_iff (s : List (String × String)) (x : String) :
    x ∈ s.map (·.1) ↔ (lookup s x).isSome := by
  simp [lookup, List.find?_isSome]

/-! ## The range scan -/

/-- Among sorted secrets whose keys are all at or above a prefix, those read while their
keys start with the prefix are all those whose keys do. -/
theorem takeWhile_startsWith {p : String} :
    ∀ {s : List (String × String)}, Sorted s → (∀ e ∈ s, p ≤ e.1) →
      s.takeWhile (·.1.startsWith p) = s.filter (·.1.startsWith p)
  | [], _, _ => rfl
  | e :: s, hs, hp => by
    simp only [Sorted, List.pairwise_cons] at hs
    by_cases he : e.1.startsWith p
    · have hrest := takeWhile_startsWith hs.2 fun e' h => hp e' (List.mem_cons_of_mem _ h)
      simp [he, hrest]
    · have hnone : s.filter (·.1.startsWith p) = [] :=
        List.filter_eq_nil_iff.2 fun e' he' hstart =>
          he (startsWith_of_between (hp e List.mem_cons_self) (hs.1 e' he') hstart)
      simp [he, hnone]

/-- The range scan under a prefix of sorted secrets is the plain filter of the keys with
the prefix. -/
theorem takeWhile_rangeFrom {s : List (String × String)} (hs : Sorted s) (p : String) :
    (rangeFrom p s).takeWhile (·.1.startsWith p) = s.filter (·.1.startsWith p) := by
  rw [rangeFrom, takeWhile_startsWith (hs.filter _) (fun e he => by simpa using (List.mem_filter.1 he).2),
    List.filter_filter]
  apply List.filter_congr
  intro e _
  by_cases he : e.1.startsWith p
  · simp [he, le_of_startsWith he]
  · simp [he]

/-! ## Writes -/

/-- A write to a memory store: a secret set under a key, a secret seeded under the key of
a selector, or a key deleted. -/
inductive StoreWrite where
  | set (key value : String)
  | seed (selector : Config.SecretSelector) (value : String)
  | delete (key : String)
  deriving DecidableEq, Repr

namespace StoreWrite

/-- The key a write touches. -/
def key : StoreWrite → String
  | .set k _ => k
  | .seed sel _ => sel.storeKey
  | .delete k => k

/-- The secret a write leaves under its key: none for a delete. -/
def value? : StoreWrite → Option String
  | .set _ v => some v
  | .seed _ v => some v
  | .delete _ => none

/-- Run a write against a store. -/
def run (st : SecretStore) : StoreWrite → Except StoreError SecretStore
  | .set k v => st.set k v
  | .seed sel v => st.set sel.storeKey v
  | .delete k => st.delete k

/-- The store after a write, the same store when the write is refused. -/
def apply (st : SecretStore) (w : StoreWrite) : SecretStore :=
  match run st w with
  | .ok st' => st'
  | .error _ => st

/-- What a sequence of writes leaves under a key: the secret of the last write to it, and
none when that write deleted it or no write touched it. -/
def latest (ws : List StoreWrite) (k : String) : Option String :=
  (ws.reverse.find? (·.key == k)).bind (·.value?)

theorem latest_append (ws : List StoreWrite) (w : StoreWrite) (k : String) :
    latest (ws ++ [w]) k = if w.key = k then w.value? else latest ws k := by
  by_cases h : w.key = k <;> simp [latest, h]

/-- A write to a memory store sets or removes its key and keeps every other. -/
theorem lookup_apply (s : List (String × String)) (w : StoreWrite) :
    ∃ s', apply (.memory s) w = .memory s' ∧ (Sorted s → Sorted s') ∧
      ∀ x, lookup s' x = if w.key = x then w.value? else lookup s x := by
  cases w with
  | set k v =>
    refine ⟨insertSecret k v s, rfl, fun hs => hs.insertSecret k v, fun x => ?_⟩
    by_cases h : k = x <;> simp [lookup_insertSecret, key, value?, h, Ne.symm]
  | seed sel v =>
    refine ⟨insertSecret sel.storeKey v s, rfl, fun hs => hs.insertSecret _ v, fun x => ?_⟩
    by_cases h : sel.storeKey = x <;> simp [lookup_insertSecret, key, value?, h, Ne.symm]
  | delete k =>
    refine ⟨s.filter (·.1 != k), rfl, fun hs => hs.filter _, fun x => ?_⟩
    by_cases h : k = x <;> simp [lookup_delete, key, value?, h, Ne.symm]

/-- From an empty store, any sequence of writes leaves a memory store of sorted secrets
holding under each key what the last write to it left. -/
theorem foldl_apply (ws : List StoreWrite) :
    ∃ s, ws.foldl apply SecretStore.empty = .memory s ∧ Sorted s ∧ ∀ x, lookup s x = latest ws x := by
  induction ws using List.reverseRecOn with
  | nil => exact ⟨[], rfl, List.Pairwise.nil, fun x => rfl⟩
  | append_singleton ws w ih =>
    obtain ⟨s, hst, hsorted, hlookup⟩ := ih
    obtain ⟨s', happ, hsorted', hlookup'⟩ := lookup_apply s w
    refine ⟨s', by rw [List.foldl_append, hst, List.foldl_cons, List.foldl_nil, happ],
      hsorted' hsorted, fun x => ?_⟩
    rw [hlookup', latest_append, hlookup]

end StoreWrite

/-! ## Listing, reading and existence -/

open StoreWrite in
/-- The memory store's listing is a plain prefix filter. After any sequence of writes
from an empty store, listing under a prefix gives exactly the keys that hold a secret and
whose bytes start with the prefix's bytes, in strictly increasing byte order, so each
once; reading a key gives the secret of the last write to it unless that write deleted it,
and a key exists exactly when reading it gives a secret. -/
theorem memory_store_listing (ws : List StoreWrite) (p k : String) :
    let st := ws.foldl apply SecretStore.empty
    (∃ keys, st.listKeys p = .ok keys ∧
      (∀ x, x ∈ keys ↔ (latest ws x).isSome ∧ bytes p <+: bytes x) ∧
      keys.Pairwise fun a b => bytes a < bytes b) ∧
    st.get k = .ok (latest ws k) ∧ st.contains k = .ok (latest ws k).isSome := by
  intro st
  obtain ⟨s, hst, hsorted, hlookup⟩ := foldl_apply ws
  replace hst : st = .memory s := hst
  have hget : st.get k = .ok (latest ws k) := by
    rw [hst, SecretStore.get, ← hlookup k]
    rfl
  refine ⟨⟨(s.filter (·.1.startsWith p)).map (·.1), ?_, fun x => ?_, ?_⟩, hget, ?_⟩
  · rw [hst, SecretStore.listKeys, takeWhile_rangeFrom hsorted]
  · rw [← hlookup x, ← mem_keys_iff, ← startsWith_iff_bytes]
    simp only [List.mem_map, List.mem_filter]
    constructor
    · rintro ⟨e, ⟨he, hstart⟩, rfl⟩
      exact ⟨⟨e, he, rfl⟩, hstart⟩
    · rintro ⟨⟨e, he, rfl⟩, hstart⟩
      exact ⟨e, ⟨he, hstart⟩, rfl⟩
  · have hkeys : ((s.filter (·.1.startsWith p)).map (·.1)).Pairwise (· < ·) :=
      List.pairwise_map.2 (hsorted.filter _)
    exact hkeys.imp lt_iff_bytes_lt.1
  · simp [SecretStore.contains, hget]

end NetReconcile.Secrets
