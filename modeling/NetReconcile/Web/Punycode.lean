/-!
# Punycode

The bootstring encoding of RFC 3492 with its Punycode parameters, which writes a label
of any code points with letters, digits and hyphens. The ASCII code points are copied
first, followed by a hyphen when there are any; then the other code points are written
in increasing order as variable-length base-36 deltas whose digit thresholds adapt to
the deltas seen so far.

Decoding undoes this, and refuses digits that are not letters or digits, a delta cut
short, a code point that is not a character, and intermediate values beyond 32 bits.
-/

namespace NetReconcile.Web.Punycode

/-- The character of a base-36 digit: `a` to `z`, then `0` to `9`. -/
def digitChar (d : Nat) : Char :=
  if d < 26 then Char.ofNat (0x61 + d) else Char.ofNat (0x30 + d - 26)

/-- The value of a base-36 digit, in either letter case. -/
def digitValue (c : Char) : Option Nat :=
  let n := c.toNat
  if 0x61 ≤ n ∧ n ≤ 0x7A then some (n - 0x61)
  else if 0x41 ≤ n ∧ n ≤ 0x5A then some (n - 0x41)
  else if 0x30 ≤ n ∧ n ≤ 0x39 then some (n - 0x30 + 26)
  else none

/-- The threshold of the digit at position `k`, between 1 and 26. -/
def threshold (k bias : Nat) : Nat :=
  if k ≤ bias then 1 else if bias + 26 ≤ k then 26 else k - bias

theorem threshold_pos (k bias : Nat) : 1 ≤ threshold k bias := by
  unfold threshold
  split
  · omega
  · split <;> omega

theorem threshold_le (k bias : Nat) : threshold k bias ≤ 26 := by
  unfold threshold
  split
  · omega
  · split <;> omega

/-- Divide a delta by 35 until it is at most 455, counting steps of 36. -/
def adaptSteps (delta k : Nat) : Nat × Nat :=
  if 455 < delta then adaptSteps (delta / 35) (k + 36) else (delta, k)
termination_by delta
decreasing_by exact Nat.div_lt_self (by omega) (by omega)

/-- The bias after a delta, from the number of code points handled so far. -/
def adapt (delta numpoints : Nat) (firstTime : Bool) : Nat :=
  let d0 := if firstTime then delta / 700 else delta / 2
  let d1 := d0 + d0 / numpoints
  let r := adaptSteps d1 0
  r.2 + 36 * r.1 / (r.1 + 38)

/-- The digits of a delta, least significant first. -/
def deltaDigits (bias k q : Nat) : List Char :=
  let t := threshold k bias
  if q < t then [digitChar q]
  else digitChar (t + (q - t) % (36 - t)) :: deltaDigits bias (k + 36) ((q - t) / (36 - t))
termination_by q
decreasing_by
  have _h1 := threshold_pos k bias
  have _h2 := threshold_le k bias
  calc (q - threshold k bias) / (36 - threshold k bias)
      ≤ q - threshold k bias := Nat.div_le_self _ _
    _ < q := by omega

/-- The state of encoding: output so far, pending delta, bias, code points handled. -/
structure Encoder where
  out : List Char
  delta : Nat
  bias : Nat
  handled : Nat

/-- Look at one input code point while writing the code point `m`. -/
def visit (basicCount m : Nat) (st : Encoder) (c : Nat) : Encoder :=
  if c < m then { st with delta := st.delta + 1 }
  else if c = m then
    { out := st.out ++ deltaDigits st.bias 36 st.delta, delta := 0,
      bias := adapt st.delta (st.handled + 1) (st.handled == basicCount),
      handled := st.handled + 1 }
  else st

/-- Write the non-ASCII code points in increasing order, from the code point `n`. -/
def encodeFrom (input : List Nat) (basicCount : Nat) : List Nat → Nat → Encoder → Encoder
  | [], _, st => st
  | m :: rest, n, st =>
    let st := { st with delta := st.delta + (m - n) * (st.handled + 1) }
    let st := input.foldl (visit basicCount m) st
    encodeFrom input basicCount rest (m + 1) { st with delta := st.delta + 1 }

/-- Insert into an increasing list without repeats. -/
def insertIncreasing (x : Nat) : List Nat → List Nat
  | [] => [x]
  | y :: ys => if x < y then x :: y :: ys else if x = y then y :: ys else y :: insertIncreasing x ys

/-- The Punycode form of a label's code points, without the `xn--` prefix. -/
def encode (input : List Char) : String :=
  let points := input.map Char.toNat
  let basic := input.filter fun c => c.toNat < 0x80
  let others := (points.filter (0x80 ≤ ·)).foldr insertIncreasing []
  let st := encodeFrom points basic.length others 128 ⟨[], 0, 72, basic.length⟩
  String.ofList (basic ++ (if basic.isEmpty then [] else ['-']) ++ st.out)

/-- The largest value of the 32-bit arithmetic decoding is done in. -/
def wordLimit : Nat := Nat.pow 2 32 - 1

/-- Read one delta: the new position and the rest of the input. -/
def readDelta (bias : Nat) : List Char → Nat → Nat → Nat → Option (Nat × List Char)
  | [], _, _, _ => none
  | c :: rest, k, w, i => do
    let d ← digitValue c
    let i := i + d * w
    if i > wordLimit then none
    let t := threshold k bias
    if d < t then some (i, rest)
    else
      let w := w * (36 - t)
      if w > wordLimit then none
      readDelta bias rest (k + 36) w i

theorem readDelta_shorter : ∀ (bias : Nat) (l : List Char) (k w i : Nat) (r : Nat × List Char),
    readDelta bias l k w i = some r → r.2.length < l.length
  | _, [], _, _, _, _, h => by simp [readDelta] at h
  | bias, c :: rest, k, w, i, r, h => by
    simp only [readDelta, Option.bind_eq_bind] at h
    cases hd : digitValue c with
    | none => simp [hd] at h
    | some d =>
      simp only [hd, Option.bind_some] at h
      split at h
      · simp at h
      · split at h
        · simp only [Option.some.injEq] at h
          subst h
          simp
        · split at h
          · simp at h
          · have := readDelta_shorter bias rest (k + 36) _ _ r h
            simp only [List.length_cons]
            omega

/-- Insert the code points the deltas describe. -/
def insertAll (bias n i : Nat) (out : List Char) : List Char → Option (List Char)
  | [] => some out
  | c :: rest =>
    match h : readDelta bias (c :: rest) 36 1 i with
    | none => none
    | some (i', remaining) =>
      let count := out.length + 1
      let n' := n + i' / count
      let pos := i' % count
      if n' > wordLimit then none
      else if n' < 0xD800 ∨ (0xDFFF < n' ∧ n' < 0x110000) then
        insertAll (adapt (i' - i) count (i == 0)) n' (pos + 1) (out.insertIdx pos (Char.ofNat n'))
          remaining
      else none
termination_by l => l.length
decreasing_by
  have := readDelta_shorter bias (c :: rest) 36 1 i (i', remaining) h
  simpa using this

/-- The code points of a Punycode label, without its `xn--` prefix: the part before the
last hyphen is copied, the rest are deltas. A hyphen that opens the label separates
nothing: it is read as a delta digit, and so refused. -/
def decode (input : List Char) : Option (List Char) :=
  let (basic, deltas) := match input.reverse.span (· != '-') with
    | (revDeltas, []) => ([], revDeltas.reverse)
    | (_, [_]) => ([], input)
    | (revDeltas, _ :: revBasic) => (revBasic.reverse, revDeltas.reverse)
  if basic.any (fun c => 0x80 ≤ c.toNat) then none
  else insertAll 72 128 0 basic deltas

end NetReconcile.Web.Punycode
