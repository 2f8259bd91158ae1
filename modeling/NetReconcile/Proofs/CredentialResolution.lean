import NetReconcile.Proofs.StringRecords

/-!
# Credential resolution

Credentials come from a secret: the configuration names the secret's key, and the payload
stored there is a JSON object with the string members `accessKey` and `secretKey`. Whatever
the store, resolution refuses, in this order, a source other than a secret, a missing selector, a failing store, a
missing secret, a payload that does not read as such a record, and an empty key; otherwise
it gives the two keys read (`resolve_checks_in_order`). The object's members may stand in
any order and others may stand among them: its text is read back as the two keys
(`fromPayload_write`).
-/

namespace NetReconcile.Secrets

open Config Json

namespace Credentials

/-- A credential pair is refused exactly when a key is empty. -/
theorem make_eq (a s : String) :
    make a s = if a = "" ∨ s = "" then .error .emptyKey else .ok ⟨a, s⟩ := by
  by_cases ha : a = "" <;> by_cases hs : s = "" <;> simp [make, ha, hs]

/-- A payload that is not a record of the two keys is malformed, with its fault's place. -/
theorem fromPayload_of_error {payload : String} {e : ReadError}
    (h : readStringRecord "Credentials" ["accessKey", "secretKey"] payload = .error e) :
    fromPayload payload = .error (.malformed (faultText e)) := by
  simp [fromPayload, h]

/-- A payload read as a record gives exactly two keys, and the pair made of them. -/
theorem fromPayload_of_ok {payload : String} {keys : List String}
    (h : readStringRecord "Credentials" ["accessKey", "secretKey"] payload = .ok keys) :
    ∃ a s, keys = [a, s] ∧ fromPayload payload = make a s := by
  have hlen := Json.Scan.readStringRecord_length h
  match keys, hlen with
  | [a, s], _ => exact ⟨a, s, rfl, by simp [fromPayload, h]⟩

/-- The text of an object whose `accessKey` and `secretKey` members are strings, each the
only member of its name, reads back as those two strings, whatever the order of the
members and whatever other members stand among them. -/
theorem fromPayload_write {a s : String} {fs : List (String × Value)}
    (ha : fs.filter (·.1 == "accessKey") = [("accessKey", .str a)])
    (hs : fs.filter (·.1 == "secretKey") = [("secretKey", .str s)])
    (hw : (Value.obj fs).Writable) :
    fromPayload (Value.obj fs).write = make a s := by
  have honce : FieldsOnce ["accessKey", "secretKey"] fs := by
    intro f hf
    simp only [List.mem_cons, List.not_mem_nil, or_false] at hf
    rcases hf with rfl | rfl
    · exact .inr ⟨a, ha⟩
    · exact .inr ⟨s, hs⟩
  have hvals : fieldStrings ["accessKey", "secretKey"] fs = [a, s].map some := by
    simp [fieldStrings, field?_of_filter ha, field?_of_filter hs, Value.str?]
  have hread := Json.Scan.readStringRecord_write (by decide) honce hw hvals "Credentials"
  simp [fromPayload, hread]

/-! ## The order of the refusals -/

section Resolve

variable {store : SecretSource} {spec : ConfigSpec}

theorem resolve_of_source_ne (h : spec.credentials.source ≠ .secret) :
    resolve store spec = .error (.unsupportedSource spec.credentials.source) := by
  simp [resolve, h]
  rfl

theorem resolve_of_no_ref (hs : spec.credentials.source = .secret)
    (hr : spec.credentials.secretRef = none) :
    resolve store spec = .error .missingSecretRef := by
  simp [resolve, hs, hr]
  rfl

theorem resolve_of_store_error {sel : SecretSelector} {e : StoreError}
    (hs : spec.credentials.source = .secret) (hr : spec.credentials.secretRef = some sel)
    (hg : store.get sel.storeKey = .error e) : resolve store spec = .error (.store e) := by
  simp [resolve, hs, hr, hg]
  rfl

theorem resolve_of_no_secret {sel : SecretSelector} (hs : spec.credentials.source = .secret)
    (hr : spec.credentials.secretRef = some sel) (hg : store.get sel.storeKey = .ok none) :
    resolve store spec = .error (.secretNotFound sel.storeKey) := by
  simp [resolve, hs, hr, hg]
  rfl

theorem resolve_of_payload {sel : SecretSelector} {payload : String}
    (hs : spec.credentials.source = .secret) (hr : spec.credentials.secretRef = some sel)
    (hg : store.get sel.storeKey = .ok (some payload)) :
    resolve store spec = fromPayload payload := by
  simp [resolve, hs, hr, hg]

end Resolve

/-! ## Credentials given out -/

/-- A pair is made only of two keys neither of which is empty. -/
theorem make_eq_ok {a s : String} {c : Credentials} (h : make a s = .ok c) :
    c = ⟨a, s⟩ ∧ a ≠ "" ∧ s ≠ "" := by
  rw [make_eq] at h
  split_ifs at h with hempty
  cases h
  exact ⟨rfl, not_or.1 hempty⟩

/-- Credentials decoded from a payload have two keys, neither empty. -/
theorem fromPayload_keys {payload : String} {c : Credentials} (h : fromPayload payload = .ok c) :
    c.accessKey ≠ "" ∧ c.secretKey ≠ "" := by
  cases hr : readStringRecord "Credentials" ["accessKey", "secretKey"] payload with
  | error e =>
    rw [fromPayload_of_error hr] at h
    cases h
  | ok keys =>
    obtain ⟨a, s, -, hp⟩ := fromPayload_of_ok hr
    obtain ⟨rfl, ha, hs⟩ := make_eq_ok (hp ▸ h)
    exact ⟨ha, hs⟩

/-- Credentials resolved have two keys, neither empty: only a decoded payload gives any. -/
theorem resolve_keys {store : SecretSource} {spec : ConfigSpec} {c : Credentials}
    (h : resolve store spec = .ok c) : c.accessKey ≠ "" ∧ c.secretKey ≠ "" := by
  by_cases hs : spec.credentials.source = .secret
  · cases hr : spec.credentials.secretRef with
    | none =>
      rw [resolve_of_no_ref hs hr] at h
      cases h
    | some sel =>
      match hg : store.get sel.storeKey with
      | .error e =>
        rw [resolve_of_store_error hs hr hg] at h
        cases h
      | .ok none =>
        rw [resolve_of_no_secret hs hr hg] at h
        cases h
      | .ok (some payload) =>
        rw [resolve_of_payload hs hr hg] at h
        exact fromPayload_keys h
  · rw [resolve_of_source_ne hs] at h
    cases h

/-- Credential resolution from any secret store refuses in a fixed order: a source other
than a secret, a missing selector, a failing store, a missing secret, a payload that is not a record of the two keys,
and an empty key; otherwise it gives the two keys read, so no credentials it gives have an
empty key. The text of an object with one string member `accessKey` and one `secretKey`, in
either order and among any other members, is read back as those two strings. -/
theorem resolve_checks_in_order (store : SecretSource) (spec : ConfigSpec) :
    (spec.credentials.source ≠ .secret →
      resolve store spec = .error (.unsupportedSource spec.credentials.source)) ∧
    (spec.credentials.source = .secret → spec.credentials.secretRef = none →
      resolve store spec = .error .missingSecretRef) ∧
    (∀ sel, spec.credentials.source = .secret → spec.credentials.secretRef = some sel →
      (∀ e, store.get sel.storeKey = .error e → resolve store spec = .error (.store e)) ∧
      (store.get sel.storeKey = .ok none →
        resolve store spec = .error (.secretNotFound sel.storeKey)) ∧
      (∀ payload e, store.get sel.storeKey = .ok (some payload) →
        readStringRecord "Credentials" ["accessKey", "secretKey"] payload = .error e →
        resolve store spec = .error (.malformed (faultText e))) ∧
      (∀ payload keys, store.get sel.storeKey = .ok (some payload) →
        readStringRecord "Credentials" ["accessKey", "secretKey"] payload = .ok keys →
        ∃ a s, keys = [a, s] ∧
          resolve store spec = if a = "" ∨ s = "" then .error .emptyKey else .ok ⟨a, s⟩)) ∧
    (∀ c, resolve store spec = .ok c → c.accessKey ≠ "" ∧ c.secretKey ≠ "") ∧
    (∀ a s (fs : List (String × Value)),
      fs.filter (·.1 == "accessKey") = [("accessKey", .str a)] →
      fs.filter (·.1 == "secretKey") = [("secretKey", .str s)] → (Value.obj fs).Writable →
      fromPayload (Value.obj fs).write =
        if a = "" ∨ s = "" then .error .emptyKey else .ok ⟨a, s⟩) := by
  refine ⟨resolve_of_source_ne, resolve_of_no_ref, fun sel hs hr =>
    ⟨fun e hg => resolve_of_store_error hs hr hg, resolve_of_no_secret hs hr,
      fun payload e hg he => ?_, fun payload keys hg hk => ?_⟩,
    fun c => resolve_keys, fun a s fs ha hs hw => ?_⟩
  · rw [resolve_of_payload hs hr hg, fromPayload_of_error he]
  · obtain ⟨a, s, rfl, hp⟩ := fromPayload_of_ok hk
    exact ⟨a, s, rfl, by rw [resolve_of_payload hs hr hg, hp, make_eq]⟩
  · rw [fromPayload_write ha hs hw, make_eq]

/-- A store that refuses access to every key; and a payload with the secret key first and
a number member between the two keys. -/
theorem resolve_checks_in_order_sample :
    resolve ⟨fun key => .error (.accessDenied key)⟩
        ⟨"d", "p", "r", none, ⟨.secret, some ⟨"team", "creds", "payload"⟩⟩⟩ =
      .error (.store (.accessDenied "team/creds/payload")) ∧
    [("secretKey", Value.str "SK"), ("region", .num (.nat 1)), ("accessKey", .str "AK")].filter
        (·.1 == "accessKey") = [("accessKey", .str "AK")] ∧
      [("secretKey", Value.str "SK"), ("region", .num (.nat 1)), ("accessKey", .str "AK")].filter
        (·.1 == "secretKey") = [("secretKey", .str "SK")] ∧
      (Value.obj [("secretKey", .str "SK"), ("region", .num (.nat 1)),
        ("accessKey", .str "AK")]).Writable ∧
      fromPayload (Value.obj [("secretKey", .str "SK"), ("region", .num (.nat 1)),
        ("accessKey", .str "AK")]).write = .ok ⟨"AK", "SK"⟩ := by
  have hw : (Value.obj [("secretKey", .str "SK"), ("region", .num (.nat 1)),
      ("accessKey", .str "AK")]).Writable := ⟨trivial, trivial, trivial, trivial⟩
  refine ⟨(resolve_checks_in_order _ ⟨"d", "p", "r", none, ⟨.secret, some ⟨"team", "creds", "payload"⟩⟩⟩).2.2.1
    _ rfl rfl |>.1 _ rfl, rfl, rfl, hw, ?_⟩
  rw [(resolve_checks_in_order SecretStore.empty.source ⟨"d", "p", "r", none, ⟨.secret, none⟩⟩).2.2.2.2
    "AK" "SK" _ rfl rfl hw]
  decide

end Credentials

end NetReconcile.Secrets
