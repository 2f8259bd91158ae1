import NetReconcile.Engine.Connector
import NetReconcile.Proofs.SessionCache

/-!
# Connecting again

Connecting changes nothing but the session cache, and a connection made once can be made
again: the configuration and the credentials resolve as before, and the session cache
either still holds the session it answered, or it authenticated, which leaves the
counting identity service with no refusal waiting, so that authenticating again
succeeds.
-/

namespace NetReconcile

open Config Secrets Session Engine

/-- An attempt uses up the refusal waiting for it. -/
theorem Session.Authenticator.authenticate_reject (a : Authenticator) (opts : AuthOptions) :
    (a.authenticate opts).1.reject = none := by
  unfold Authenticator.authenticate
  cases a.reject <;> rfl

namespace Session.SessionCache

variable (c : SessionCache Authenticator Token) (libs : Libraries) (identity : String)
  (spec : ConfigSpec) (creds : Credentials)

/-- With no refusal waiting and an identity service address the URL library reads, a
session is always had. -/
theorem get_ok_of_ready {opts : AuthOptions} (hr : c.authenticator.reject = none)
    (hm : AuthOptions.make libs.parseUrl spec creds = .ok opts) : ∃ t, (c.get libs identity spec creds).2 = .ok t := by
  by_cases hf : c.Fresh identity (fingerprint libs.digest spec creds)
  · obtain ⟨s, -, hget⟩ := get_of_fresh c libs identity spec creds hf
    exact ⟨s.token, by rw [hget]⟩
  · have ha : IdentityService.authenticate c.authenticator opts =
        (⟨c.authenticator.calls + 1, none⟩,
          .ok ⟨c.authenticator.calls + 1, opts.projectId, opts.region⟩) := by
      simp [IdentityService.authenticate, Authenticator.authenticate, hr]
    rw [get_of_stale c libs identity spec creds hf, renew_of_auth_ok c libs identity spec creds _ hm ha]
    exact ⟨_, rfl⟩

/-- A session had once is had again from the cache it left. -/
theorem get_ok_get {t : Token} (h : (c.get libs identity spec creds).2 = .ok t) :
    ∃ t', ((c.get libs identity spec creds).1.get libs identity spec creds).2 = .ok t' := by
  by_cases hf : c.Fresh identity (fingerprint libs.digest spec creds)
  · obtain ⟨s, -, hget⟩ := get_of_fresh c libs identity spec creds hf
    rw [hget]
    exact ⟨s.token, by rw [hget]⟩
  · rw [get_of_stale c libs identity spec creds hf] at h ⊢
    rcases hm : AuthOptions.make libs.parseUrl spec creds with err | opts
    · rw [renew_of_make_error c libs identity spec creds _ hm] at h
      cases h
    rcases ha : IdentityService.authenticate c.authenticator opts with ⟨a, err | t₀⟩
    · rw [renew_of_auth_error c libs identity spec creds _ hm ha] at h
      cases h
    have hr : a.reject = none := by
      have h₁ := Authenticator.authenticate_reject c.authenticator opts
      have h₂ : c.authenticator.authenticate opts = (a, .ok t₀) := ha
      rw [h₂] at h₁
      exact h₁
    rw [renew_of_auth_ok c libs identity spec creds _ hm ha]
    exact get_ok_of_ready _ libs identity spec creds hr hm

end Session.SessionCache

namespace Engine.Connector

variable (c : Connector) (ref : ConfigRef) (ns : Option String)

@[simp] theorem connect_registry : (c.connect ref ns).1.registry = c.registry := by
  unfold connect
  split
  · rfl
  · split
    · rfl
    · split <;> rfl

@[simp] theorem connect_secrets : (c.connect ref ns).1.secrets = c.secrets := by
  unfold connect
  split
  · rfl
  · split
    · rfl
    · split <;> rfl

/-- A connection served from the cache changes nothing. -/
theorem connect_of_usable {res : Resolved} {creds : Credentials} {s : CachedSession Token}
    (hres : c.registry.resolve ref ns = .ok res) (hcred : Credentials.resolve c.secrets res.spec = .ok creds)
    (hl : c.sessions.lookup res.identity = some s)
    (hu : c.sessions.usable s (fingerprint c.libs.digest res.spec creds) = true) :
    c.connect ref ns = (c, .ok ⟨res.identity, res.spec.region, s.token⟩) := by
  simp [connect, hres, hcred, SessionCache.get_of_usable _ _ _ _ _ hl hu]

/-- A connection made once is made again by the connector it left. -/
theorem connect_connect {conn : Connection} (h : (c.connect ref ns).2 = .ok conn) :
    ∃ conn', ((c.connect ref ns).1.connect ref ns).2 = .ok conn' := by
  rcases hres : c.registry.resolve ref ns with err | res
  · simp [connect, hres] at h
  rcases hcred : Credentials.resolve c.secrets res.spec with err | creds
  · simp [connect, hres, hcred] at h
  rcases hget : c.sessions.get c.libs res.identity res.spec creds with ⟨cache, err | t⟩
  · simp [connect, hres, hcred, hget] at h
  obtain ⟨t', ht'⟩ := SessionCache.get_ok_get c.sessions c.libs res.identity res.spec creds
    (by rw [hget])
  rw [hget] at ht'
  rcases hget' : cache.get c.libs res.identity res.spec creds with ⟨cache', err | t''⟩
  · rw [hget'] at ht'
    cases ht'
  · exact ⟨⟨res.identity, res.spec.region, t''⟩, by simp [connect, hres, hcred, hget, hget']⟩

end Engine.Connector

end NetReconcile
