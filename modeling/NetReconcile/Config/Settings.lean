import NetReconcile.Json.Decode
import NetReconcile.Session.Cache

/-!
# Controller settings

The `[controller]` table sets how often resources are reconciled and the session
policy, in seconds: by default every 60 seconds, with sessions valid for 23 hours and
made again 5 minutes early. A session duration above a week is refused by validation
(the validity first, then the margin) and capped at a week in the policy.
-/

namespace NetReconcile.Config

open Json Session Time

/-- The longest session duration accepted: one week, in seconds. -/
def maxSessionSecs : Nat := 7 * 24 * 60 * 60

/-- Controller tunables, in seconds. -/
structure Settings where
  pollInterval : Nat
  validity : Nat
  margin : Nat
  deriving DecidableEq, Repr

namespace Settings

/-- The default settings. -/
def default : Settings := ⟨60, 82800, 300⟩

/-- Settings read from their JSON form; every field may be absent. -/
def decode : Decoder Settings :=
  let poll := Field.withDefault "poll_interval_secs" 0 Decode.u64 60
  let validity := Field.withDefault "session_validity_secs" 1 Decode.u64 82800
  let margin := Field.withDefault "session_safety_margin_secs" 2 Decode.u64 300
  record "ControllerSettings" [poll.erase, validity.erase, margin.erase] fun src => do
    return ⟨← src.get poll, ← src.get validity, ← src.get margin⟩

/-- The JSON form of settings. -/
def encode (s : Settings) : Value :=
  .obj [("poll_interval_secs", Value.ofNat s.pollInterval),
    ("session_validity_secs", Value.ofNat s.validity),
    ("session_safety_margin_secs", Value.ofNat s.margin)]

/-- The first session duration above a week, with its field name. -/
def excess (s : Settings) : Option (String × Nat) :=
  if s.validity > maxSessionSecs then some ("session_validity_secs", s.validity)
  else if s.margin > maxSessionSecs then some ("session_safety_margin_secs", s.margin)
  else none

/-- A session duration of the policy: the seconds capped at a week, taken as a signed
64-bit count, and the longest span when that count is no span. -/
def sessionSpan (secs : Nat) : Span :=
  (Span.trySeconds (UInt64.ofNat (min secs maxSessionSecs)).toInt64.toInt).getD Span.max

/-- The session policy, with durations capped at a week. -/
def policy (s : Settings) : SessionPolicy := ⟨sessionSpan s.validity, sessionSpan s.margin⟩

end Settings

end NetReconcile.Config
