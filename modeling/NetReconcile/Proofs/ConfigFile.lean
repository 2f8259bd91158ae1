import NetReconcile.Config.Registry
import NetReconcile.Toml.Parse

/-!
# Loading the configuration file

The controller settings bound every session duration by a week. Validation refuses a
duration above it, naming the validity before the margin, and the session policy caps
each duration at a week before it becomes a signed 64-bit count of seconds and then a
span. A capped count fits both, so the conversion keeps it and the fallback to the
longest span is never taken: a policy built from settings holds exactly the capped
durations (`settings_bound_session_durations`).

Loading a configuration file that reads as TOML of the right shape, with any TOML library,
checks the settings first and then builds the map of configurations entry by entry, namespaced entries before
cluster-wide ones. It stops at the first entry whose key an earlier entry already has;
with no such entry it holds every entry under its own key, namespaced and cluster-wide
keys apart (`load_checks_in_order`).
-/

namespace NetReconcile.Config

open Time

/-! ## Controller settings -/

namespace Settings

/-- Settings pass validation exactly when both durations are at most a week. -/
theorem excess_eq_none_iff (s : Settings) :
    s.excess = none ↔ s.validity ≤ maxSessionSecs ∧ s.margin ≤ maxSessionSecs := by
  by_cases hv : maxSessionSecs < s.validity
  · simp only [excess, gt_iff_lt, hv, if_true, reduceCtorEq, false_iff, not_and]
    omega
  · by_cases hm : maxSessionSecs < s.margin
    · simp only [excess, gt_iff_lt, hv, hm, if_true, if_false, reduceCtorEq, false_iff, not_and]
      omega
    · simp only [excess, gt_iff_lt, hv, hm, if_false, true_iff]
      omega

/-- A validity above a week is the excess reported, whatever the margin. -/
theorem excess_of_validity {s : Settings} (h : maxSessionSecs < s.validity) :
    s.excess = some ("session_validity_secs", s.validity) := by
  simp [excess, h]

/-- Seconds capped at a week fit a signed 64-bit count, which keeps them. -/
theorem toInt_capped (secs : Nat) :
    (UInt64.ofNat (min secs maxSessionSecs)).toInt64.toInt = min secs maxSessionSecs := by
  rw [UInt64.toInt64_ofNat', Int64.toInt_ofNat_of_lt]
  exact Nat.lt_of_le_of_lt (Nat.min_le_right _ _) (by decide)

/-- A count of seconds no larger than a week in either direction is a span. -/
theorem trySeconds_of_le {secs : Int} (h : -604800 ≤ secs ∧ secs ≤ 604800) :
    Span.trySeconds secs = some (Span.ofSeconds secs) := by
  have hbound : -Span.bound ≤ secs * nanosPerSecond ∧ secs * nanosPerSecond ≤ Span.bound := by
    simp only [Span.bound, nanosPerSecond]
    omega
  simp [Span.trySeconds, hbound]

/-- Seconds capped at a week become a span with neither the count wrapping nor the span
refused. -/
theorem trySeconds_capped (secs : Nat) :
    Span.trySeconds (UInt64.ofNat (min secs maxSessionSecs)).toInt64.toInt =
      some (Span.ofSeconds ↑(min secs maxSessionSecs)) := by
  have hcap : min secs maxSessionSecs ≤ 604800 := Nat.min_le_right _ _
  rw [toInt_capped, trySeconds_of_le ⟨by omega, by omega⟩]

/-- A session duration of the policy is its seconds capped at a week, exactly. -/
theorem sessionSpan_eq (secs : Nat) : sessionSpan secs = Span.ofSeconds ↑(min secs maxSessionSecs) := by
  rw [sessionSpan, trySeconds_capped, Option.getD_some]

/-- Controller settings bound the session arithmetic. Validation passes exactly when both
durations are at most a week (604800 seconds), and reports the validity when both are
above. A capped duration converts to a signed 64-bit count and then to a span without
wrapping or falling back to the longest span, so the policy holds exactly the capped
durations: no negative margin and no validity beyond a week. -/
theorem settings_bound_session_durations (s : Settings) :
    maxSessionSecs = 604800 ∧
    (s.excess = none ↔ s.validity ≤ maxSessionSecs ∧ s.margin ≤ maxSessionSecs) ∧
    (maxSessionSecs < s.validity → s.excess = some ("session_validity_secs", s.validity)) ∧
    (∀ secs : Nat, Span.trySeconds (UInt64.ofNat (min secs maxSessionSecs)).toInt64.toInt =
      some (Span.ofSeconds ↑(min secs maxSessionSecs))) ∧
    s.policy = ⟨Span.ofSeconds ↑(min s.validity maxSessionSecs),
      Span.ofSeconds ↑(min s.margin maxSessionSecs)⟩ ∧
    0 ≤ s.policy.validity.nanos ∧ s.policy.validity.nanos ≤ (Span.ofSeconds 604800).nanos ∧
    0 ≤ s.policy.margin.nanos ∧ s.policy.margin.nanos ≤ (Span.ofSeconds 604800).nanos := by
  have hpolicy : s.policy = ⟨Span.ofSeconds ↑(min s.validity maxSessionSecs),
      Span.ofSeconds ↑(min s.margin maxSessionSecs)⟩ := by
    rw [policy, sessionSpan_eq, sessionSpan_eq]
  refine ⟨rfl, excess_eq_none_iff s, excess_of_validity, trySeconds_capped, hpolicy, ?_⟩
  have hv : min s.validity maxSessionSecs ≤ 604800 := Nat.min_le_right _ _
  have hm : min s.margin maxSessionSecs ≤ 604800 := Nat.min_le_right _ _
  rw [hpolicy]
  simp only [Span.ofSeconds, nanosPerSecond]
  omega

/-- Settings asking for the largest count of seconds, `2^64 - 1`, as both validity and
margin: validation names the validity, and the policy caps both at a week. -/
theorem settings_bound_session_durations_at_limits :
    let s : Settings := ⟨60, 18446744073709551615, 18446744073709551615⟩
    s.excess = some ("session_validity_secs", 18446744073709551615) ∧
      s.policy = ⟨Span.ofSeconds 604800, Span.ofSeconds 604800⟩ :=
  let h := settings_bound_session_durations ⟨60, 18446744073709551615, 18446744073709551615⟩
  ⟨h.2.2.1 (by decide), h.2.2.2.2.1⟩

end Settings

/-! ## Building the map of configurations -/

namespace Registry

/-- A key is missing from a registry exactly when no configuration is filed under it. -/
theorem find?_eq_none_iff {r : Registry} {key : ConfigKey} :
    r.find? key = none ↔ ∀ e ∈ r.configs, e.1 ≠ key := by
  simp [find?, List.find?_eq_none]

/-- After an insert, the key inserted finds its configuration and every other key finds
what it found before. -/
theorem find?_insert (r : Registry) (key k : ConfigKey) (spec : ConfigSpec) :
    (r.insert key spec).find? k = if k = key then some spec else r.find? k := by
  by_cases h : k = key
  · subst h
    have hnone : r.configs.find? (fun _ => false) = none := List.find?_eq_none.2 (by simp)
    simp [insert, find?, List.find?_append, hnone]
  · have hsame : (fun e : ConfigKey × ConfigSpec => !decide (e.1 = key) && decide (e.1 = k)) =
        (·.1 == k) := by
      funext e
      by_cases he : e.1 = k <;> simp [he, h]
    simp [insert, find?, List.find?_append, h, hsame, Ne.symm h]

/-- Inserting under a new key adds one configuration. -/
theorem size_insert_of_find?_none {r : Registry} {key : ConfigKey} (spec : ConfigSpec)
    (h : r.find? key = none) : (r.insert key spec).size = r.size + 1 := by
  have hkeep : r.configs.filter (·.1 != key) = r.configs :=
    List.filter_eq_self.2 fun e he => by simpa using find?_eq_none_iff.1 h e he
  simp [insert, size, hkeep]

/-- An entry whose key is new is inserted, and the rest added after it. -/
theorem addAll_cons_of_find?_none (path : String) {r : Registry} {key : ConfigKey} (spec : ConfigSpec)
    (rest : List (ConfigKey × ConfigSpec)) (h : r.find? key = none) :
    addAll path r ((key, spec) :: rest) = addAll path (r.insert key spec) rest := by
  simp [addAll, h]

/-- An insert under a key that none of some entries has leaves their keys missing if
they were. -/
theorem find?_insert_of_not_mem {r : Registry} {key : ConfigKey} (spec : ConfigSpec)
    {rest : List (ConfigKey × ConfigSpec)} (hkey : key ∉ rest.map (·.1))
    (hfresh : ∀ e ∈ rest, r.find? e.1 = none) : ∀ e ∈ rest, (r.insert key spec).find? e.1 = none := by
  intro e he
  have hne : e.1 ≠ key := fun h => hkey (h ▸ List.mem_map_of_mem he)
  rw [find?_insert, if_neg hne]
  exact hfresh e he

/-- Entries with distinct keys, none of them in the registry yet, are all added: each is
found under its key, every other key finds what it found before, and the count grows by
their number. -/
theorem addAll_of_nodup (path : String) :
    ∀ (r : Registry) (entries : List (ConfigKey × ConfigSpec)),
      (entries.map (·.1)).Nodup → (∀ e ∈ entries, r.find? e.1 = none) →
      ∃ r', addAll path r entries = .ok r' ∧ r'.settings = r.settings ∧
        r'.size = r.size + entries.length ∧ ∀ k, r'.find? k = (entries.lookup k).or (r.find? k)
  | r, [], _, _ => ⟨r, rfl, rfl, rfl, fun k => by simp⟩
  | r, (key, spec) :: rest, hnodup, hfresh => by
    simp only [List.map_cons, List.nodup_cons] at hnodup
    have hkey : r.find? key = none := hfresh (key, spec) List.mem_cons_self
    have hrest := find?_insert_of_not_mem spec hnodup.1 fun e he => hfresh e (List.mem_cons_of_mem _ he)
    obtain ⟨r', hadd, hsettings, hsize, hfind⟩ := addAll_of_nodup path (r.insert key spec) rest hnodup.2 hrest
    refine ⟨r', ?_, hsettings, ?_, fun k => ?_⟩
    · rw [addAll_cons_of_find?_none path spec rest hkey, hadd]
    · rw [hsize, size_insert_of_find?_none spec hkey, List.length_cons]
      omega
    · rw [hfind, find?_insert]
      by_cases hk : k = key
      · subst hk
        have hlookup : rest.lookup k = none :=
          List.lookup_eq_none_iff.2 fun p hp => by
            have : p.1 ≠ k := fun h => hnodup.1 (h ▸ List.mem_map_of_mem hp)
            simpa using Ne.symm this
        simp [hlookup]
      · simp [hk, List.lookup_cons, beq_false_of_ne hk]

/-- Adding entries stops, naming the key, at the first one whose key is already in the
registry or was met earlier. -/
theorem addAll_of_duplicate (path : String) (key : ConfigKey) (spec : ConfigSpec)
    (post : List (ConfigKey × ConfigSpec)) :
    ∀ (r : Registry) (pre : List (ConfigKey × ConfigSpec)),
      (pre.map (·.1)).Nodup → (∀ e ∈ pre, r.find? e.1 = none) →
      (key ∈ pre.map (·.1) ∨ (r.find? key).isSome) →
      addAll path r (pre ++ (key, spec) :: post) = .error (.duplicate key.identity path)
  | r, [], _, _, hdup => by
    have hfound : (r.find? key).isSome := by simpa using hdup
    simp [addAll, hfound]
  | r, (k, s) :: pre, hnodup, hfresh, hdup => by
    simp only [List.map_cons, List.nodup_cons] at hnodup
    have hk : r.find? k = none := hfresh (k, s) List.mem_cons_self
    have hrest := find?_insert_of_not_mem s hnodup.1 fun e he => hfresh e (List.mem_cons_of_mem _ he)
    have hdup' : key ∈ pre.map (·.1) ∨ ((r.insert k s).find? key).isSome := by
      rw [find?_insert]
      by_cases hkey : key = k
      · simp [hkey]
      · simpa [hkey] using hdup
    have hstep := addAll_of_duplicate path key spec post (r.insert k s) pre hnodup.2 hrest hdup'
    rw [List.cons_append, addAll_cons_of_find?_none path s _ hk, hstep]

/-- A step that succeeded goes on with its value, whatever its failures would have been
turned into. -/
theorem mapError_ok_bind {ε ε' α β : Type} (f : ε → ε') (a : α) (g : α → Except ε' β) :
    (Except.mapError f (.ok a : Except ε α) >>= g) = g a := rfl

/-- Settings out of range refuse the file, whatever its entries. -/
theorem load_of_excess {readToml : String → Except String Json.Value} {path text : String}
    {doc : Json.Value} {settings : Settings} {entries : List (ConfigKey × ConfigSpec)}
    (hdoc : readToml text = .ok doc) (hfile : fileContents doc = .ok (settings, entries))
    {field : String} {value : Nat} (hx : settings.excess = some (field, value)) :
    load readToml path text = .error (.outOfRange field value maxSessionSecs path) := by
  simp only [load, hdoc, hfile, mapError_ok_bind, hx]
  rfl

/-- Settings in range leave the file to the map of its entries. -/
theorem load_of_within {readToml : String → Except String Json.Value} {path text : String}
    {doc : Json.Value} {settings : Settings} {entries : List (ConfigKey × ConfigSpec)}
    (hdoc : readToml text = .ok doc) (hfile : fileContents doc = .ok (settings, entries))
    (hx : settings.excess = none) :
    load readToml path text = addAll path ⟨settings, []⟩ entries := by
  simp only [load, hdoc, hfile, mapError_ok_bind, hx]

/-- Loading a configuration file is a checked map build, whatever TOML library reads it.
For a file that reads as TOML holding settings and entries (namespaced ones, then
cluster-wide ones): settings out of range refuse it before any entry is looked at;
otherwise the first entry whose key an earlier entry has refuses it, naming that key's
identity; otherwise it loads with the settings and one configuration per entry, each key
finding the configuration of its entry and a key of no entry finding none. -/
theorem load_checks_in_order {readToml : String → Except String Json.Value} {path text : String}
    {doc : Json.Value} {settings : Settings} {entries : List (ConfigKey × ConfigSpec)}
    (hdoc : readToml text = .ok doc) (hfile : fileContents doc = .ok (settings, entries)) :
    (∀ field value, settings.excess = some (field, value) →
      load readToml path text = .error (.outOfRange field value maxSessionSecs path)) ∧
    (settings.excess = none → ∀ pre key spec post, entries = pre ++ (key, spec) :: post →
      (pre.map (·.1)).Nodup → key ∈ pre.map (·.1) →
      load readToml path text = .error (.duplicate key.identity path)) ∧
    (settings.excess = none → (entries.map (·.1)).Nodup →
      ∃ r, load readToml path text = .ok r ∧ r.settings = settings ∧ r.size = entries.length ∧
        ∀ key, r.find? key = entries.lookup key) := by
  refine ⟨fun field value hx => load_of_excess hdoc hfile hx, ?_, ?_⟩
  · intro hx pre key spec post hentries hnodup hdup
    rw [load_of_within hdoc hfile hx, hentries]
    exact addAll_of_duplicate path key spec post _ pre hnodup (by simp [find?]) (.inl hdup)
  · intro hx hnodup
    obtain ⟨r, hadd, hsettings, hsize, hfind⟩ :=
      addAll_of_nodup path ⟨settings, []⟩ entries hnodup (by simp [find?])
    refine ⟨r, by rw [load_of_within hdoc hfile hx, hadd], hsettings, by simpa [size] using hsize, ?_⟩
    intro key
    simpa [find?] using hfind key

/-- A step whose value, if any, is some value succeeded with it. -/
theorem ok_of_toOption_eq_some {ε α : Type} {x : Except ε α} {a : α} (h : x.toOption = some a) :
    x = .ok a := by
  cases x <;> simp_all [Except.toOption]

/-- A file declaring the `ProviderConfig` `a/b` twice, in two projects. -/
def twiceDeclared : String :=
  "[[provider_config]]\nnamespace = \"a\"\nname = \"b\"\ndomainName = \"d\"\nprojectID = \"p\"\nregion = \"r\"\ncredentials = \x7b source = \"Secret\" \x7d\n[[provider_config]]\nnamespace = \"a\"\nname = \"b\"\ndomainName = \"d\"\nprojectID = \"q\"\nregion = \"r\"\ncredentials = \x7b source = \"Secret\" \x7d\n"

/-- The file declaring `a/b` twice, read as TOML 1.0, is refused at its second entry,
naming it. -/
theorem load_checks_in_order_twice_declared :
    load Toml.readDocument "providers.toml" twiceDeclared =
      .error (.duplicate "ProviderConfig/a/b" "providers.toml") := by
  let spec (project : String) : ConfigSpec := ⟨"d", project, "r", none, ⟨.secret, none⟩⟩
  have hread : ((Toml.readDocument twiceDeclared).toOption.bind fun doc => (fileContents doc).toOption) =
      some (Settings.default, [(.inNamespace "a" "b", spec "p"), (.inNamespace "a" "b", spec "q")]) := by
    decide +kernel
  obtain ⟨doc, hdoc, hfile⟩ := Option.bind_eq_some_iff.1 hread
  exact (load_checks_in_order (ok_of_toOption_eq_some hdoc) (ok_of_toOption_eq_some hfile)).2.1 rfl
    [(.inNamespace "a" "b", spec "p")]
    (.inNamespace "a" "b") (spec "q") [] rfl (by decide) (by decide)

end Registry

end NetReconcile.Config
