import NetReconcile.Proofs.Fingerprint
import NetReconcile.Proofs.SessionCache

/-!
# The session cache serves only its own handles

A run of the cache is any sequence of requests for sessions and of dropped sessions,
with any identities, configurations and credentials, while the clock is read anew and
the identity service answers as it pleases. To see what the service was asked, the
cache runs over a logged service (`Logged`), which records the inputs and the answer of
every attempt.

Two things hold of every request in such a run, whatever URL library and digest the run
has sessions with. It is served from the cache, changing nothing and asking nothing,
exactly when the cache holds a fresh session for the identity and the request's
fingerprint (`Fresh`); otherwise it makes one attempt with the request's inputs, unless
the library does not read the service's address as a URL (`Renews`). And every handle it
answers was answered by the service to an attempt with the same domain, project, region
and keys, provided the digest tells the request's fingerprinted message apart from those
of earlier attempts (`Separates`). The second rests on an
invariant of runs (`Sound`): each identity is held once, and every held session was
answered to a logged attempt whose fields have the session's fingerprint.
-/

namespace NetReconcile.Session

open Config Secrets Time Web Digest

variable {A H : Type}

/-- An identity service with the log of every attempt made through it: the inputs of
each and what the service answered. -/
structure Logged (A H : Type) where
  service : A
  attempts : List (AuthOptions × Except AuthError H)

namespace Logged

variable [IdentityService A H]

/-- An attempt through the log: the service answers, and the attempt is logged. -/
def attempt (l : Logged A H) (opts : AuthOptions) : Logged A H × Except AuthError H :=
  let answer := IdentityService.authenticate l.service opts
  (⟨answer.1, l.attempts ++ [(opts, answer.2)]⟩, answer.2)

instance : IdentityService (Logged A H) H := ⟨attempt⟩

@[simp] theorem authenticate_eq (l : Logged A H) (opts : AuthOptions) :
    IdentityService.authenticate l opts = l.attempt opts := rfl

@[simp] theorem attempt_attempts (l : Logged A H) (opts : AuthOptions) :
    (l.attempt opts).1.attempts = l.attempts ++ [(opts, (l.attempt opts).2)] := rfl

end Logged

theorem make_of_parse {parseUrl : String → Except UrlError Url} {spec : ConfigSpec}
    {creds : Credentials} {url : Url} (h : parseUrl (endpointText spec) = .ok url) :
    AuthOptions.make parseUrl spec creds =
      .ok ⟨url, spec.domainName, spec.projectId, spec.region, creds.accessKey, creds.secretKey⟩ := by
  simp [AuthOptions.make, h]

theorem make_of_parse_error {parseUrl : String → Except UrlError Url} {spec : ConfigSpec}
    {creds : Credentials} {r : UrlError} (h : parseUrl (endpointText spec) = .error r) :
    AuthOptions.make parseUrl spec creds = .error (.invalidEndpoint (endpointText spec) r) := by
  simp [AuthOptions.make, h]

/-! ## One request -/

namespace SessionCache

variable [IdentityService A H] (c : SessionCache (Logged A H) H) (libs : Libraries)
  (identity : String) (spec : ConfigSpec) (creds : Credentials) {opts : AuthOptions}

/-- A stale request whose attempt is refused answers the refusal and changes only the
service and its log. -/
theorem get_of_refused {e : AuthError} (hf : ¬ c.Fresh identity (fingerprint libs.digest spec creds))
    (hm : AuthOptions.make libs.parseUrl spec creds = .ok opts) (he : (c.authenticator.attempt opts).2 = .error e) :
    c.get libs identity spec creds = ({ c with authenticator := (c.authenticator.attempt opts).1 }, .error (.auth e)) := by
  rw [get_of_stale c libs identity spec creds hf]
  exact renew_of_auth_error c libs identity spec creds _ hm (by rw [Logged.authenticate_eq, ← he])

/-- A stale request whose attempt is answered stores the handle under the identity, after
dropping the sessions expired by now. -/
theorem get_of_accepted {t : H} (hf : ¬ c.Fresh identity (fingerprint libs.digest spec creds))
    (hm : AuthOptions.make libs.parseUrl spec creds = .ok opts) (ht : (c.authenticator.attempt opts).2 = .ok t) :
    c.get libs identity spec creds =
      ({ c with authenticator := (c.authenticator.attempt opts).1,
                sessions := store identity ⟨t, c.expiry, fingerprint libs.digest spec creds⟩
                  (c.sessions.filter fun e => decide (e.2.expiresAt > c.clock)) }, .ok t) := by
  rw [get_of_stale c libs identity spec creds hf]
  exact renew_of_auth_ok c libs identity spec creds _ hm (by rw [Logged.authenticate_eq, ← ht])

/-- Everything a request can do to a logged cache: answer a fresh session; answer that
the service's address is invalid; or make one attempt, refused or answered. -/
theorem get_cases :
    (∃ s, c.lookup identity = some s ∧ s.fingerprint = fingerprint libs.digest spec creds ∧
      c.get libs identity spec creds = (c, .ok s.token)) ∨
    (∃ e, AuthOptions.make libs.parseUrl spec creds = .error e ∧ c.get libs identity spec creds = (c, .error e)) ∨
    (∃ opts e, AuthOptions.make libs.parseUrl spec creds = .ok opts ∧ (c.authenticator.attempt opts).2 = .error e ∧
      c.get libs identity spec creds = ({ c with authenticator := (c.authenticator.attempt opts).1 }, .error (.auth e))) ∨
    (∃ opts t, AuthOptions.make libs.parseUrl spec creds = .ok opts ∧ (c.authenticator.attempt opts).2 = .ok t ∧
      c.get libs identity spec creds =
        ({ c with authenticator := (c.authenticator.attempt opts).1,
                  sessions := store identity ⟨t, c.expiry, fingerprint libs.digest spec creds⟩
                    (c.sessions.filter fun e => decide (e.2.expiresAt > c.clock)) }, .ok t)) := by
  by_cases hf : c.Fresh identity (fingerprint libs.digest spec creds)
  · obtain ⟨s, hl, hget⟩ := get_of_fresh c libs identity spec creds hf
    obtain ⟨s₀, hl₀, hfp, -⟩ := hf
    obtain rfl : s₀ = s := Option.some.inj (hl₀.symm.trans hl)
    exact .inl ⟨s₀, hl, hfp, hget⟩
  rcases hm : AuthOptions.make libs.parseUrl spec creds with e | opts
  · rw [get_of_stale c libs identity spec creds hf, renew_of_make_error c libs identity spec creds _ hm]
    exact .inr (.inl ⟨e, rfl, rfl⟩)
  rcases ht : (c.authenticator.attempt opts).2 with e | t
  · exact .inr (.inr (.inl ⟨opts, e, rfl, ht, get_of_refused c libs identity spec creds hf hm ht⟩))
  · exact .inr (.inr (.inr ⟨opts, t, rfl, ht, get_of_accepted c libs identity spec creds hf hm ht⟩))

/-- A request served from the cache alone: it answers the handle held for the identity,
and the cache, its identity service and the service's log stay as they were. -/
def Hit : Prop := ∃ s, c.lookup identity = some s ∧ c.get libs identity spec creds = (c, .ok s.token)

/-- One attempt with some inputs, as a request makes it: the attempt is logged with the
service's answer; a refusal is answered with nothing else changed; a handle is answered
and stored for the identity, in place of any earlier session, next to the sessions of the
other identities that have not expired by now. -/
structure Attempts (opts : AuthOptions) : Prop where
  logged : (c.get libs identity spec creds).1.authenticator = (c.authenticator.attempt opts).1
  refused : ∀ e, (c.authenticator.attempt opts).2 = .error e →
    c.get libs identity spec creds = ({ c with authenticator := (c.authenticator.attempt opts).1 }, .error (.auth e))
  accepted : ∀ t, (c.authenticator.attempt opts).2 = .ok t →
    (c.get libs identity spec creds).2 = .ok t ∧ (c.get libs identity spec creds).1.policy = c.policy ∧
      (c.get libs identity spec creds).1.clock = c.clock ∧
      ∀ p, p ∈ (c.get libs identity spec creds).1.sessions ↔
        p = (identity, ⟨t, c.expiry, fingerprint libs.digest spec creds⟩) ∨
          p.1 ≠ identity ∧ p ∈ c.sessions ∧ c.clock < p.2.expiresAt

/-- What a request without a fresh session does: when the identity service's address
(the configuration's, or the default one when it sets none or an empty one) is not a
valid URL, nothing but answer so; otherwise one attempt, with that address and the
request's domain, project, region and keys. -/
structure Renews : Prop where
  invalid : ∀ r, libs.parseUrl (endpointText spec) = .error r →
    c.get libs identity spec creds = (c, .error (.invalidEndpoint (endpointText spec) r))
  attempt : ∀ url, libs.parseUrl (endpointText spec) = .ok url →
    Attempts c libs identity spec creds
      ⟨url, spec.domainName, spec.projectId, spec.region, creds.accessKey, creds.secretKey⟩

theorem renews (hf : ¬ c.Fresh identity (fingerprint libs.digest spec creds)) : Renews c libs identity spec creds := by
  constructor
  · intro r hr
    rw [get_of_stale c libs identity spec creds hf,
      renew_of_make_error c libs identity spec creds _ (make_of_parse_error hr)]
  · intro url hurl
    have hm : AuthOptions.make libs.parseUrl spec creds = _ := make_of_parse hurl
    rcases ha : (c.authenticator.attempt ⟨url, spec.domainName, spec.projectId, spec.region,
      creds.accessKey, creds.secretKey⟩).2 with e | t
    · have hget := get_of_refused c libs identity spec creds hf hm ha
      exact ⟨by rw [hget], fun e' he' => by rw [hget, ← Except.error.inj (ha.symm.trans he')],
        fun _ ht => by simp [ha] at ht⟩
    · have hget := get_of_accepted c libs identity spec creds hf hm ha
      refine ⟨by rw [hget], fun _ he => by simp [ha] at he, fun t' ht' => ?_⟩
      cases ha.symm.trans ht'
      rw [hget]
      refine ⟨rfl, rfl, rfl, fun p => ?_⟩
      simp only [mem_store, List.mem_filter, decide_eq_true_eq]

/-- A request is served from the cache exactly when the cache holds a fresh session for
the identity and the request's fingerprint. -/
theorem hit_iff_fresh : Hit c libs identity spec creds ↔ c.Fresh identity (fingerprint libs.digest spec creds) := by
  constructor
  · rintro ⟨s, -, hget⟩
    by_contra hstale
    have hr := renews c libs identity spec creds hstale
    rcases hurl : libs.parseUrl (endpointText spec) with r | url
    · rw [hr.invalid r hurl] at hget
      cases hget
    · have hlog := congrArg (fun l => l.attempts.length) (hr.attempt url hurl).logged
      rw [hget] at hlog
      simp at hlog
  · exact get_of_fresh c libs identity spec creds

end SessionCache

/-! ## Runs -/

open SessionCache

variable [IdentityService A H] (libs : Libraries)

/-- One thing that happens to a cache: a request for a session, a session dropped, the
clock read anew (at any reading), or the identity service's own state changed from
outside, say told to refuse its next attempt, with its log kept. The libraries sessions
are had with stay the same along a run. -/
inductive Step : SessionCache (Logged A H) H → SessionCache (Logged A H) H → Prop
  | get (c : SessionCache (Logged A H) H) (identity : String) (spec : ConfigSpec) (creds : Credentials) :
      Step c (c.get libs identity spec creds).1
  | invalidate (c : SessionCache (Logged A H) H) (identity : String) : Step c (c.invalidate identity).1
  | tick (c : SessionCache (Logged A H) H) (clock : Int) : Step c { c with clock := clock }
  | interfere (c : SessionCache (Logged A H) H) (service : A) :
      Step c { c with authenticator := { c.authenticator with service := service } }

/-- The caches a run reaches from an empty one, whose service has logged nothing. -/
inductive Reachable : SessionCache (Logged A H) H → Prop
  | empty (service : A) (policy : SessionPolicy) (clock : Int) :
      Reachable (SessionCache.empty ⟨service, []⟩ policy clock)
  | step {c c' : SessionCache (Logged A H) H} : Reachable c → Step libs c c' → Reachable c'

/-- What every cache of a run satisfies: each identity is held once, and every held
session's handle was answered to a logged attempt whose identity fields have the
session's fingerprint. -/
structure Sound (c : SessionCache (Logged A H) H) : Prop where
  nodup : (c.sessions.map Prod.fst).Nodup
  provenance : ∀ p ∈ c.sessions, ∃ opts, (opts, .ok p.2.token) ∈ c.authenticator.attempts ∧
    p.2.fingerprint = hexOf (libs.digest (fingerprintMessage opts.identityFields))

namespace Sound

variable {libs} {c : SessionCache (Logged A H) H}

omit [IdentityService A H] in
/-- Sessions kept from a sound cache, with attempts only added to the log, stay sound. -/
theorem of_subset {c' : SessionCache (Logged A H) H} (hc : Sound libs c)
    (hnd : (c'.sessions.map Prod.fst).Nodup) (hsub : ∀ p ∈ c'.sessions, p ∈ c.sessions)
    (hlog : ∃ more, c'.authenticator.attempts = c.authenticator.attempts ++ more) : Sound libs c' := by
  obtain ⟨more, hmore⟩ := hlog
  refine ⟨hnd, fun p hp => ?_⟩
  obtain ⟨opts, hmem, hfp⟩ := hc.provenance p (hsub p hp)
  exact ⟨opts, by simp [hmore, hmem], hfp⟩

/-- A request keeps a cache sound. -/
theorem get (hc : Sound libs c) (identity : String) (spec : ConfigSpec) (creds : Credentials) :
    Sound libs (c.get libs identity spec creds).1 := by
  rcases get_cases c libs identity spec creds with ⟨s, -, -, hget⟩ | ⟨e, -, hget⟩ | ⟨opts, e, -, -, hget⟩ |
      ⟨opts, t, hm, ht, hget⟩ <;> rw [hget]
  · exact hc
  · exact hc
  · exact hc.of_subset hc.nodup (fun _ hp => hp) ⟨_, Logged.attempt_attempts _ _⟩
  · refine ⟨nodup_store identity ((List.filter_sublist.map Prod.fst).nodup hc.nodup), fun p hp => ?_⟩
    rcases (mem_store identity).mp hp with rfl | ⟨-, hold⟩
    · refine ⟨opts, by simp [ht], ?_⟩
      rw [identityFields_of_make hm]
      rfl
    · obtain ⟨o, ho, hfp⟩ := hc.provenance p (List.mem_filter.mp hold).1
      exact ⟨o, by simp [ho], hfp⟩

/-- Every step of a run keeps a cache sound. -/
theorem step (hc : Sound libs c) {c' : SessionCache (Logged A H) H} (hs : Step libs c c') :
    Sound libs c' := by
  cases hs with
  | get identity spec creds => exact hc.get identity spec creds
  | invalidate identity =>
    refine hc.of_subset ?_ (fun p hp => ?_) ⟨[], by simp⟩
    · simpa using (List.filter_sublist.map Prod.fst).nodup hc.nodup
    · simp only [invalidate_sessions, List.mem_filter] at hp
      exact hp.1
  | tick clock => exact hc.of_subset hc.nodup (fun _ hp => hp) ⟨[], by simp⟩
  | interfere service => exact hc.of_subset hc.nodup (fun _ hp => hp) ⟨[], by simp⟩

/-- Every handle a request answers was answered by the identity service to a logged
attempt with the request's identity fields, as long as SHA-256 tells the request's
fingerprinted fields apart from those of every logged attempt. -/
theorem handle_issued (hc : Sound libs c) (identity : String) (spec : ConfigSpec) (creds : Credentials)
    (hsep : Separates libs.digest (identityFields spec creds)
      (c.authenticator.attempts.map fun a => a.1.identityFields))
    {t : H} (ht : (c.get libs identity spec creds).2 = .ok t) :
    ∃ opts, (opts, .ok t) ∈ (c.get libs identity spec creds).1.authenticator.attempts ∧
      opts.identityFields = identityFields spec creds := by
  rcases get_cases c libs identity spec creds with ⟨s, hl, hfp, hget⟩ | ⟨e, -, hget⟩ | ⟨opts, e, -, -, hget⟩ |
      ⟨opts, t', hm, ha, hget⟩ <;> rw [hget] at ht ⊢
  · obtain rfl : s.token = t := Except.ok.inj ht
    obtain ⟨opts, hmem, hsfp⟩ := hc.provenance (identity, s) (mem_of_lookup c identity hl)
    exact ⟨opts, hmem, hsep.eq_of_digest (List.mem_map.mpr ⟨_, hmem, rfl⟩) (hsfp.symm.trans hfp)⟩
  · cases ht
  · cases ht
  · obtain rfl : t' = t := Except.ok.inj ht
    exact ⟨opts, by simp [ha], identityFields_of_make hm⟩

end Sound

/-- Every cache a run reaches is sound. -/
theorem Reachable.sound {c : SessionCache (Logged A H) H} (hc : Reachable libs c) : Sound libs c := by
  induction hc with
  | empty service policy clock => exact ⟨by simp [SessionCache.empty], by simp [SessionCache.empty]⟩
  | step _ hs ih => exact ih.step hs

/-- The session cache never serves a handle for other credentials, and asks the identity
service exactly on misses. Along any run, a request is served from the cache, asking and
changing nothing, exactly when the cache holds a fresh session for the identity and the
request's fingerprint; otherwise it makes one attempt with the request's inputs, unless
the URL library does not read the service's address as a URL. And every handle a request
answers was answered by the service to an attempt with the request's domain, project,
region and keys, as long as the digest tells the request's fingerprinted fields apart from
those of every earlier attempt. This holds whatever URL library and digest the run has
sessions with. -/
theorem session_cache_serves_own_handles {c : SessionCache (Logged A H) H} (hc : Reachable libs c)
    (identity : String) (spec : ConfigSpec) (creds : Credentials) :
    (Separates libs.digest (identityFields spec creds) (c.authenticator.attempts.map fun a => a.1.identityFields) →
      ∀ t, (c.get libs identity spec creds).2 = .ok t →
        ∃ opts, (opts, .ok t) ∈ (c.get libs identity spec creds).1.authenticator.attempts ∧
          opts.identityFields = identityFields spec creds) ∧
    (Hit c libs identity spec creds ↔ c.Fresh identity (fingerprint libs.digest spec creds)) ∧
    (¬ c.Fresh identity (fingerprint libs.digest spec creds) → Renews c libs identity spec creds) :=
  ⟨fun hsep _ ht => hc.sound.handle_issued identity spec creds hsep ht,
    hit_iff_fresh c libs identity spec creds, renews c libs identity spec creds⟩

/-- The cache after one request on an empty cache over the counting identity service,
with the sample libraries. -/
theorem session_cache_serves_own_handles_again :
    let libs := Libraries.sample
    let spec : ConfigSpec := ⟨"domain", "project", "eu-de", none, ⟨.secret, some ⟨"default", "creds", "payload"⟩⟩⟩
    let creds : Credentials := ⟨"AK", "SK"⟩
    let c : SessionCache (Logged Authenticator Token) Token :=
      ((SessionCache.empty ⟨Authenticator.fresh, []⟩ SessionPolicy.default 0).get libs "default" spec creds).1
    (Separates libs.digest (identityFields spec creds) (c.authenticator.attempts.map fun a => a.1.identityFields) →
      ∀ t, (c.get libs "default" spec creds).2 = .ok t →
        ∃ opts, (opts, .ok t) ∈ (c.get libs "default" spec creds).1.authenticator.attempts ∧
          opts.identityFields = identityFields spec creds) ∧
    (Hit c libs "default" spec creds ↔ c.Fresh "default" (fingerprint libs.digest spec creds)) ∧
    (¬ c.Fresh "default" (fingerprint libs.digest spec creds) → Renews c libs "default" spec creds) :=
  session_cache_serves_own_handles _ (.step (.empty _ _ _) (.get _ _ _ _)) _ _ _

end NetReconcile.Session
