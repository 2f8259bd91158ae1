import Mathlib.Data.List.Nodup
import NetReconcile.Session.Cache

/-!
# Laws of the session cache

A request for a session is a hit when the cache holds a session for the identity that
was made for the same inputs (its fingerprint matches) and that outlives the safety
margin from now; a hit answers the cached handle and changes nothing. Anything else is
a miss, and a miss authenticates anew, unless the URL library does not read the identity
service's address as a URL. A refused authentication changes only the identity service's
state; an accepted one stores the new session under the identity, in place of any
earlier one, and drops every session already expired. The laws hold for every URL
library and digest; the sample runs of this library read addresses with
`Libraries.sample`, which reads the default identity service's address alone.

The stored session expires after the validity from now, or at the calendar's last instant
when that leaves the calendar on either side. So under a validity no longer than the
margin a renewed session is never used again (`fresh_renewed_iff`), except when the
validity reaches below the calendar's first instant, which keeps it to the calendar's end.
-/

namespace NetReconcile.Time

/-- Moving an instant by a span gives the sum when the calendar holds it. -/
theorem Instant.shift?_eq_some_iff {t r : Int} {d : Span} :
    Instant.shift? t d = some r ↔ r = t + d.nanos ∧ Instant.first ≤ r ∧ r ≤ Instant.last := by
  unfold Instant.shift?
  by_cases h : Instant.first ≤ t + d.nanos ∧ t + d.nanos ≤ Instant.last
  · rw [if_pos h, Option.some.injEq]
    constructor
    · rintro rfl
      exact ⟨rfl, h⟩
    · rintro ⟨rfl, -⟩
      rfl
  · rw [if_neg h]
    simp only [reduceCtorEq, false_iff]
    rintro ⟨rfl, hin⟩
    exact h hin

/-- Moving an instant by a span is refused when the sum falls before the calendar's first
instant or after its last. -/
theorem Instant.shift?_eq_none_iff {t : Int} {d : Span} :
    Instant.shift? t d = none ↔ t + d.nanos < Instant.first ∨ Instant.last < t + d.nanos := by
  unfold Instant.shift?
  by_cases h : Instant.first ≤ t + d.nanos ∧ t + d.nanos ≤ Instant.last
  · rw [if_pos h]
    simp only [reduceCtorEq, false_iff]
    omega
  · rw [if_neg h]
    simp only [true_iff]
    omega

theorem Instant.first_lt_last : Instant.first < Instant.last := by decide

end NetReconcile.Time

namespace NetReconcile.Session

open Config Secrets Time

namespace SessionCache

variable {A H : Type} (c : SessionCache A H) (libs : Libraries) (identity : String)
  (spec : ConfigSpec) (creds : Credentials)

/-- A cached session is usable when it was made for the same inputs and outlives the
safety margin from now; a margin that leaves the calendar counts as outliving nothing. -/
theorem usable_iff (s : CachedSession H) (fp : String) :
    c.usable s fp = true ↔
      s.fingerprint = fp ∧ ∃ d, Instant.shift? c.clock c.policy.margin = some d ∧ d < s.expiresAt := by
  unfold usable
  cases Instant.shift? c.clock c.policy.margin <;> simp

/-- The cache holds a fresh session for an identity and a fingerprint: one made for inputs
with that fingerprint, expiring later than now plus the safety margin, where a margin that
leaves the calendar counts as expiring after nothing. -/
def Fresh (fp : String) : Prop :=
  ∃ s, c.lookup identity = some s ∧ s.fingerprint = fp ∧
    ∃ d, Instant.shift? c.clock c.policy.margin = some d ∧ d < s.expiresAt

theorem fresh_iff (fp : String) : c.Fresh identity fp ↔ ∃ s, c.lookup identity = some s ∧ c.usable s fp = true := by
  simp [Fresh, usable_iff]

/-! ### Sessions as a map from identities -/

theorem mem_of_lookup {s : CachedSession H} (h : c.lookup identity = some s) : (identity, s) ∈ c.sessions := by
  obtain ⟨p, hp, rfl⟩ := Option.map_eq_some_iff.mp h
  have hkey : p.1 = identity := by simpa using List.find?_some hp
  simpa [← hkey] using List.mem_of_find?_eq_some hp

/-- With each identity held once, the session held under an identity is the one looked up. -/
theorem lookup_of_mem {s : CachedSession H} (hnd : (c.sessions.map Prod.fst).Nodup)
    (h : (identity, s) ∈ c.sessions) : c.lookup identity = some s := by
  rcases hl : c.lookup identity with _ | s'
  · obtain ⟨p, hp⟩ : ∃ p, c.sessions.find? (·.1 == identity) = some p :=
      Option.isSome_iff_exists.mp (List.find?_isSome.mpr ⟨_, h, by simp⟩)
    simp [lookup, hp] at hl
  · have hsame := List.inj_on_of_nodup_map hnd (mem_of_lookup c identity hl) h rfl
    simp_all

@[simp] theorem mem_store {s : CachedSession H} {l : List (String × CachedSession H)} {p : String × CachedSession H} :
    p ∈ store identity s l ↔ p = (identity, s) ∨ p.1 ≠ identity ∧ p ∈ l := by
  simp [store, or_comm, and_comm]

theorem nodup_store {s : CachedSession H} {l : List (String × CachedSession H)} (h : (l.map Prod.fst).Nodup) :
    ((store identity s l).map Prod.fst).Nodup := by
  rw [store, List.map_append, List.nodup_append]
  refine ⟨(List.filter_sublist.map Prod.fst).nodup h, by simp, ?_⟩
  simp

@[simp] theorem invalidate_sessions :
    (c.invalidate identity).1.sessions = c.sessions.filter (·.1 != identity) := rfl

@[simp] theorem invalidate_authenticator : (c.invalidate identity).1.authenticator = c.authenticator := rfl

variable [IdentityService A H]

/-- A usable session is answered as it is. -/
theorem get_of_usable {s : CachedSession H} (hl : c.lookup identity = some s)
    (hu : c.usable s (fingerprint libs.digest spec creds) = true) : c.get libs identity spec creds = (c, .ok s.token) := by
  simp [get, hl, hu]

/-- Without a usable session the cache renews. -/
theorem get_of_not_usable (h : ∀ s, c.lookup identity = some s → c.usable s (fingerprint libs.digest spec creds) = false) :
    c.get libs identity spec creds = c.renew libs identity spec creds (fingerprint libs.digest spec creds) := by
  rcases hl : c.lookup identity with _ | s
  · simp [get, hl]
  · simp [get, hl, h s hl]

theorem get_of_fresh (h : c.Fresh identity (fingerprint libs.digest spec creds)) :
    ∃ s, c.lookup identity = some s ∧ c.get libs identity spec creds = (c, .ok s.token) := by
  obtain ⟨s, hl, hu⟩ := (fresh_iff c identity _).mp h
  exact ⟨s, hl, get_of_usable c libs identity spec creds hl hu⟩

theorem get_of_stale (h : ¬ c.Fresh identity (fingerprint libs.digest spec creds)) :
    c.get libs identity spec creds = c.renew libs identity spec creds (fingerprint libs.digest spec creds) := by
  refine get_of_not_usable c libs identity spec creds fun s hl => ?_
  simpa using fun hu => h ((fresh_iff c identity _).mpr ⟨s, hl, hu⟩)

variable (fp : String)

theorem renew_of_make_error {err : SessionError} (hm : AuthOptions.make libs.parseUrl spec creds = .error err) :
    c.renew libs identity spec creds fp = (c, .error err) := by
  simp [renew, hm]

theorem renew_of_auth_error {opts : AuthOptions} {a : A} {err : AuthError}
    (hm : AuthOptions.make libs.parseUrl spec creds = .ok opts)
    (ha : IdentityService.authenticate c.authenticator opts = (a, .error err)) :
    c.renew libs identity spec creds fp = ({ c with authenticator := a }, .error (.auth err)) := by
  simp [renew, hm, ha]

/-- The instant a session made now expires: the validity from now, or the end of the
calendar when that leaves it. -/
def expiry (c : SessionCache A H) : Int := (Instant.shift? c.clock c.policy.validity).getD Instant.last

theorem renew_of_auth_ok {opts : AuthOptions} {a : A} {h : H}
    (hm : AuthOptions.make libs.parseUrl spec creds = .ok opts)
    (ha : IdentityService.authenticate c.authenticator opts = (a, .ok h)) :
    c.renew libs identity spec creds fp =
      ({ c with authenticator := a,
                sessions := store identity ⟨h, c.expiry, fp⟩
                  (c.sessions.filter fun e => decide (e.2.expiresAt > c.clock)) },
        .ok h) := by
  simp [renew, hm, ha, expiry]

/-! ### Expiry of a renewed session

A renewal stores its session as expiring after the validity from now, or at the calendar's
last instant when that sum leaves the calendar, whichever side it leaves on. So a validity
no longer than the safety margin makes a session that is never used again, except when the
validity reaches below the calendar's first instant: that session is kept to the end of
the calendar. -/

omit [IdentityService A H] in
theorem expiry_of_shift? {t : Int} (h : Instant.shift? c.clock c.policy.validity = some t) : c.expiry = t := by
  simp [expiry, h]

omit [IdentityService A H] in
theorem expiry_of_shift?_none (h : Instant.shift? c.clock c.policy.validity = none) :
    c.expiry = Instant.last := by
  simp [expiry, h]

omit [IdentityService A H] in
/-- The session stored under an identity is the one looked up. -/
@[simp] theorem lookup_store (s : CachedSession H) (l : List (String × CachedSession H)) :
    ({ c with sessions := store identity s l }).lookup identity = some s := by
  have hnone : (l.filter (·.1 != identity)).find? (·.1 == identity) = none := by
    rw [List.find?_eq_none]
    intro p hp
    simpa using (List.mem_filter.mp hp).2
  simp only [lookup, store, List.find?_append, hnone]
  simp

omit [IdentityService A H] in
/-- Under a validity no longer than the safety margin, a session made at one clock reading
is usable at the same or any later reading exactly when the validity reaches below the
calendar's first instant, the fingerprint matches, and the margin from the later reading
stays within the calendar short of its last instant. -/
theorem usable_renewed_iff (hv : c.policy.validity.nanos ≤ c.policy.margin.nanos) {clock : Int}
    (hclock : c.clock ≤ clock) (token : H) (fp fp' : String) :
    ({ c with clock }).usable ⟨token, c.expiry, fp⟩ fp' = true ↔
      fp = fp' ∧ c.clock + c.policy.validity.nanos < Instant.first ∧
        Instant.first ≤ clock + c.policy.margin.nanos ∧ clock + c.policy.margin.nanos < Instant.last := by
  have hcal := Instant.first_lt_last
  have hdeadline : (∃ d, Instant.shift? clock c.policy.margin = some d ∧ d < c.expiry) ↔
      Instant.first ≤ clock + c.policy.margin.nanos ∧ clock + c.policy.margin.nanos ≤ Instant.last ∧
        clock + c.policy.margin.nanos < c.expiry := by
    simp only [Instant.shift?_eq_some_iff]
    constructor
    · rintro ⟨d, ⟨rfl, hfirst, hlast⟩, hlt⟩
      exact ⟨hfirst, hlast, hlt⟩
    · rintro ⟨hfirst, hlast, hlt⟩
      exact ⟨_, ⟨rfl, hfirst, hlast⟩, hlt⟩
  rw [usable_iff, hdeadline]
  rcases hs : Instant.shift? c.clock c.policy.validity with _ | t
  · rw [expiry_of_shift?_none c hs]
    have hleaves := Instant.shift?_eq_none_iff.mp hs
    constructor
    · rintro ⟨rfl, hfirst, -, hlt⟩
      exact ⟨rfl, by omega, hfirst, hlt⟩
    · rintro ⟨rfl, hbelow, hfirst, hlt⟩
      exact ⟨rfl, hfirst, by omega, hlt⟩
  · obtain ⟨rfl, hfirst, -⟩ := Instant.shift?_eq_some_iff.mp hs
    rw [expiry_of_shift? c hs]
    constructor
    · rintro ⟨-, -, -, hlt⟩
      omega
    · rintro ⟨-, hbelow, -⟩
      omega

/-- Under a validity no longer than the safety margin, after a renewal the cache holds a
fresh session for the identity, at the same or any later clock reading, exactly when the
validity reaches below the calendar's first instant: then the session is kept to the end
of the calendar, and it stays fresh for requests with its fingerprint as long as the margin
from now stays within the calendar short of its last instant. Otherwise every request that
follows renews again. -/
theorem fresh_renewed_iff {opts : AuthOptions} {a : A} {token : H}
    (hm : AuthOptions.make libs.parseUrl spec creds = .ok opts)
    (ha : IdentityService.authenticate c.authenticator opts = (a, .ok token))
    (hv : c.policy.validity.nanos ≤ c.policy.margin.nanos) {clock : Int} (hclock : c.clock ≤ clock)
    (fp' : String) :
    ({ (c.renew libs identity spec creds fp).1 with clock }).Fresh identity fp' ↔
      fp = fp' ∧ c.clock + c.policy.validity.nanos < Instant.first ∧
        Instant.first ≤ clock + c.policy.margin.nanos ∧ clock + c.policy.margin.nanos < Instant.last := by
  rw [renew_of_auth_ok c libs identity spec creds fp hm ha, fresh_iff]
  have hlookup := lookup_store { c with authenticator := a, clock := clock } identity ⟨token, c.expiry, fp⟩
    (c.sessions.filter fun e => decide (e.2.expiresAt > c.clock))
  simp only at hlookup
  rw [hlookup]
  simp only [Option.some.injEq, exists_eq_left']
  exact usable_renewed_iff c hv hclock token fp fp'

end SessionCache

/-- The default identity service's address as a URL. -/
def defaultEndpointUrl : Web.Url :=
  ⟨"https", "", "", some (.domain "iam.eu-de.otc.t-systems.com"), none, .segments ["v3"], none, none⟩

/-- Libraries for sample runs: a URL library that reads the default identity service's
address and refuses every other as having no host, and SHA-256. Samples that use the
default address depend on no URL library in particular. -/
def Libraries.sample : Libraries :=
  ⟨fun text => if text = defaultEndpoint then .ok defaultEndpointUrl else .error .emptyHost,
    Digest.sha256⟩

end NetReconcile.Session
