import NetReconcile.Proofs.KindCodecs
import NetReconcile.Proofs.TimestampText
import NetReconcile.Resource.Managed

/-!
# The wire format reads back what it writes

A managed resource is written as one JSON object: its metadata, the reference to its
provider configuration, its parameters, and its status, with the condition, the outcome
of the latest cycle and the provider's observation. A provider configuration is written
with its project under `projectID` and without an identity endpoint it does not set.
Reading any of these back gives the value that was written.

The outcome of a cycle is written flat, its reason as a tag next to the message and the
time; reading it back goes through the timestamp's text, so it holds of the times that
name a date and time of the calendar (`Timestamp.Valid`), which are all a timestamp can
be in the system this models.
-/

namespace NetReconcile

open Json Resource Config Time

/-! ## Provider configurations -/

theorem Config.ConfigRef.decode_encode (r : ConfigRef) : ConfigRef.decode r.encode = .ok r := by
  unfold ConfigRef.decode ConfigRef.encode
  refine record_obj_eq_ok (by simp) (by simp [FieldCheck.Accepts, Field.erase, Field.required])
    fun hnd => ?_
  simp only [Field.required, Source.get_sortFields_nil hnd]
  simp [bind, Except.bind, List.lookup_cons, pure, Except.pure]

theorem Config.SecretSelector.decode_encode (s : SecretSelector) :
    SecretSelector.decode s.encode = .ok s := by
  unfold SecretSelector.decode SecretSelector.encode
  refine record_obj_eq_ok (by simp) (by simp [FieldCheck.Accepts, Field.erase, Field.required])
    fun hnd => ?_
  simp only [Field.required, Source.get_sortFields_nil hnd]
  simp [bind, Except.bind, List.lookup_cons, pure, Except.pure]

theorem Config.CredentialsSource.decode_name (c : CredentialsSource) :
    CredentialsSource.decode (.str c.name) = .ok c := by
  cases c <;> rfl

theorem Config.CredentialSettings.decode_encode (c : CredentialSettings) :
    CredentialSettings.decode c.encode = .ok c := by
  unfold CredentialSettings.decode CredentialSettings.encode
  obtain ⟨source, _ | secret⟩ := c <;> dsimp only <;>
  · refine record_obj_eq_ok (by simp) (by simp [FieldCheck.Accepts, Field.erase, Field.required,
      Field.optional, CredentialsSource.decode_name,
      Decode.option_of_ok (SecretSelector.decode_encode _) (by simp [SecretSelector.encode])])
      fun hnd => ?_
    simp only [Field.required, Field.optional, Source.get_sortFields_nil hnd]
    simp [bind, Except.bind, List.lookup_cons, pure, Except.pure, CredentialsSource.decode_name,
      Decode.option_of_ok (SecretSelector.decode_encode _) (by simp [SecretSelector.encode])]

/-- A provider configuration is read back, its project from `projectID` and its identity
endpoint only when one was written. -/
theorem Config.ConfigSpec.decode_encode (c : ConfigSpec) : ConfigSpec.decode c.encode = .ok c := by
  unfold ConfigSpec.decode ConfigSpec.encode
  refine record_obj_eq_ok (by simp)
    (by simp only [List.cons_append, List.nil_append, List.forall_mem_cons,
          List.forall_mem_append, forall_mem_optionalField]
        simp [FieldCheck.Accepts, Field.erase, Field.required, Field.optional,
          CredentialSettings.decode_encode]) fun hnd => ?_
  simp (disch := simp [Option.toList_nodup]) only [Field.required, Field.optional,
    Source.get_sortFields_nil hnd, Source.get_sortFields hnd]
  simp [bind, Except.bind, List.lookup_cons, List.lookup_append, pure, Except.pure,
    CredentialSettings.decode_encode]

/-! ## Metadata and status -/

theorem Resource.ObjectMeta.decode_encode (m : ObjectMeta) : ObjectMeta.decode m.encode = .ok m := by
  unfold ObjectMeta.decode ObjectMeta.encode
  refine record_obj_eq_ok (by simp)
    (by simp only [List.cons_append, List.nil_append, List.append_assoc, List.forall_mem_cons,
          List.forall_mem_append, forall_mem_optionalField]
        simp [FieldCheck.Accepts, Field.erase, Field.required, Field.optional, Field.withDefault])
    fun hnd => ?_
  simp only [Field.required, Field.optional, Field.withDefault, Source.get_sortFields_nil hnd]
  simp [bind, Except.bind, List.lookup_cons, List.lookup_append, pure, Except.pure]

theorem Resource.Condition.decode_encode (c : Condition) : Condition.decode c.encode = .ok c := by
  cases c <;> rfl

/-- A timestamp of the calendar is read back from its text. -/
theorem Resource.SyncStatus.decodeTime_write {t : Timestamp} (h : t.Valid) :
    SyncStatus.decodeTime (.str t.write) = .ok t := by
  simp only [SyncStatus.decodeTime, Timestamp.read_write h]

/-- An outcome is read back from its flat form, the reason tagging the message. -/
theorem Resource.SyncStatus.decode_encode {y : SyncStatus} (h : y.time.Valid) :
    SyncStatus.decode y.encode = .ok y := by
  obtain ⟨state, t⟩ := y
  have hnd : ((SyncStatus.stateFields state ++ [("lastTransitionTime", Value.str t.write)]).map
      Prod.fst).Nodup := by
    cases state <;> simp [SyncStatus.stateFields]
  unfold SyncStatus.decode SyncStatus.encode
  simp only [find?_sortFields hnd,
    find?_filter_sortFields hnd (show "reason" ≠ "lastTransitionTime" by decide),
    find?_filter_sortFields hnd (show "message" ≠ "lastTransitionTime" by decide)]
  cases state <;>
    simp [SyncStatus.stateFields, List.lookup_cons, SyncStatus.decodeTime_write h,
      SyncStatus.decodeReason, bind, Except.bind, pure, Except.pure]

/-- A status is read back when its observation and its outcome are. -/
theorem Resource.ResourceStatus.decode_encode {O : Type} {dec : Decoder O} {enc : O → Value}
    (s : ResourceStatus O) (hobs : dec (enc s.atProvider) = .ok s.atProvider)
    (hsync : ∀ y ∈ s.synced, SyncStatus.decode y.encode = .ok y) :
    ResourceStatus.decode dec (s.encode enc) = .ok s := by
  obtain ⟨cond, synced, o⟩ := s
  dsimp only at hobs hsync
  have hcond : ∀ c : Condition, Decode.option Condition.decode c.encode = .ok (some c) :=
    fun c => Decode.option_of_ok (Condition.decode_encode c) (by simp [Condition.encode])
  have hsyn : ∀ y ∈ synced, Decode.option SyncStatus.decode y.encode = .ok (some y) :=
    fun y hy => Decode.option_of_ok (hsync y hy) (by simp [SyncStatus.encode])
  unfold ResourceStatus.decode ResourceStatus.encode
  cases cond <;> cases synced <;> dsimp only <;>
  · refine record_obj_eq_ok (by simp) (by simp [FieldCheck.Accepts, Field.erase, Field.optional,
      Field.required, hobs, hcond, hsyn]) fun hnd => ?_
    simp only [Field.required, Field.optional, Source.get_sortFields_nil hnd]
    simp [bind, Except.bind, List.lookup_cons, pure, Except.pure, hobs, hcond, hsyn]

/-! ## Managed resources -/

/-- A managed resource is read back when its parameters and its status are. -/
theorem Resource.Managed.decode_encode {k : Kind} (m : Managed k)
    (hspec : k.decodeParams (k.encodeParams m.spec) = .ok m.spec)
    (hstatus : ResourceStatus.decode k.decodeObs (m.status.encode k.encodeObs) = .ok m.status) :
    Managed.decode k m.encode = .ok m := by
  unfold Managed.decode Managed.encode
  refine record_obj_eq_ok (by simp) (by simp [FieldCheck.Accepts, Field.erase, Field.required,
    Field.withDefault, hspec, hstatus, ObjectMeta.decode_encode, ConfigRef.decode_encode])
    fun hnd => ?_
  simp only [Field.required, Field.withDefault, Source.get_sortFields_nil hnd]
  simp [bind, Except.bind, List.lookup_cons, pure, Except.pure, hspec, hstatus,
    ObjectMeta.decode_encode, ConfigRef.decode_encode]

/-- A managed resource of a wire-lawful kind is read back from its JSON form, when each
recorded outcome carries a timestamp of the calendar. -/
theorem Resource.Kind.WireLawful.managed_decode_encode {k : Kind} (hk : k.WireLawful) (m : Managed k)
    (hv : ∀ y ∈ m.status.synced, y.time.Valid) : Managed.decode k m.encode = .ok m :=
  Managed.decode_encode m (hk.params m.spec)
    (ResourceStatus.decode_encode m.status (hk.obs m.status.atProvider)
      fun y hy => SyncStatus.decode_encode (hv y hy))

/-- The wire format round-trips: for every kind of the catalog, its parameters, its
observations and its managed resources are read back from what is written for them, and
so is every provider configuration. -/
theorem wire_format_round_trip :
    (∀ k ∈ catalog, (∀ p : k.Params, k.decodeParams (k.encodeParams p) = .ok p) ∧
      (∀ o : k.Obs, k.decodeObs (k.encodeObs o) = .ok o) ∧
      ∀ m : Managed k, (∀ y ∈ m.status.synced, y.time.Valid) → Managed.decode k m.encode = .ok m) ∧
    ∀ c : ConfigSpec, ConfigSpec.decode c.encode = .ok c := by
  refine ⟨fun k hk => ?_, ConfigSpec.decode_encode⟩
  have hw := catalog_wireLawful hk
  exact ⟨hw.params, hw.obs, hw.managed_decode_encode⟩

theorem wire_format_round_trip_sample :
    Vpc.kind ∈ catalog ∧
      (∀ y ∈ (⟨⟨"web", some "prod", some "vpc-1", false⟩, ⟨"ProviderConfig", "default"⟩,
          ⟨"web", "10.0.0.0/16", some "front"⟩,
          ⟨some .available, some ⟨.failure "quota exceeded", ⟨1700000039, 1500000000⟩⟩,
            ⟨"vpc-1", "OK", "10.0.0.0/16"⟩⟩⟩ : Managed Vpc.kind).status.synced, y.time.Valid) ∧
      Managed.decode Vpc.kind (⟨⟨"web", some "prod", some "vpc-1", false⟩,
          ⟨"ProviderConfig", "default"⟩, ⟨"web", "10.0.0.0/16", some "front"⟩,
          ⟨some .available, some ⟨.failure "quota exceeded", ⟨1700000039, 1500000000⟩⟩,
            ⟨"vpc-1", "OK", "10.0.0.0/16"⟩⟩⟩ : Managed Vpc.kind).encode =
        .ok ⟨⟨"web", some "prod", some "vpc-1", false⟩, ⟨"ProviderConfig", "default"⟩,
          ⟨"web", "10.0.0.0/16", some "front"⟩,
          ⟨some .available, some ⟨.failure "quota exceeded", ⟨1700000039, 1500000000⟩⟩,
            ⟨"vpc-1", "OK", "10.0.0.0/16"⟩⟩⟩ := by
  have hk : Vpc.kind ∈ catalog := by simp [catalog]
  have hv : ∀ y ∈ (⟨⟨"web", some "prod", some "vpc-1", false⟩, ⟨"ProviderConfig", "default"⟩,
      ⟨"web", "10.0.0.0/16", some "front"⟩,
      ⟨some .available, some ⟨.failure "quota exceeded", ⟨1700000039, 1500000000⟩⟩,
        ⟨"vpc-1", "OK", "10.0.0.0/16"⟩⟩⟩ : Managed Vpc.kind).status.synced, y.time.Valid := by
    simp only [Option.mem_def, Option.some.injEq, forall_eq']
    unfold Timestamp.Valid
    decide
  exact ⟨hk, hv, (wire_format_round_trip.1 Vpc.kind hk).2.2 _ hv⟩

end NetReconcile
