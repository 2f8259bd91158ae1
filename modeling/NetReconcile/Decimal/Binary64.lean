/-!
# Binary64 numbers from and to decimal text

A binary64 number is kept as its 64-bit pattern. Reading a decimal
`significand · 10 ^ exponent` works in binary64 arithmetic, each step rounded to the
nearest number and a tie to the even mantissa: the significand is rounded first, then
multiplied or divided by the binary64 power of ten; an exponent past 308 divides by
`1e308` until it is in reach, a zero staying zero. A product past the largest finite
number is refused. The result can differ from the decimal's nearest binary64 in the
last place (`3e296` reads as `2.9999999999999998e296`). Writing gives the fewest
decimal digits that read back to the same number, of those the nearest, and an exact
tie the even one. All arithmetic is exact, on natural numbers.
-/

namespace NetReconcile.Decimal

/-- Quotient of `a` by `b` rounded to the nearest natural number, a tie going to the even one. -/
def roundHalfEven (a b : Nat) : Nat :=
  let q := a / b
  let r := a % b
  if 2 * r > b then q + 1
  else if 2 * r < b then q
  else if q % 2 = 0 then q else q + 1

/-- The exponent `E` with `2 ^ E ≤ num / den < 2 ^ (E + 1)`, for positive `num` and `den`. -/
def floorLog2 (num den : Nat) : Int :=
  let e : Int := (Nat.log2 num : Int) - (Nat.log2 den : Int)
  -- the estimate is exact or one too large
  if e ≥ 0 then
    if num ≥ den * Nat.pow 2 e.toNat then e else e - 1
  else
    if num * Nat.pow 2 (-e).toNat ≥ den then e else e - 1

/-- The bit pattern of positive infinity. -/
def infinityBits : UInt64 := 0x7FF0000000000000

/-- Nearest binary64 pattern to the positive fraction `num / den`, or `none` when the
magnitude rounds past the largest finite number. A zero numerator gives zero. -/
def roundFraction (num den : Nat) : Option UInt64 :=
  if num = 0 ∨ den = 0 then some 0 else
  let e := floorLog2 num den
  -- the weight of the last mantissa bit: 52 bits below the leading one, never below 2^-1074
  let q : Int := if e < -1022 then -1074 else e - 52
  let m :=
    if q ≥ 0 then roundHalfEven num (den * Nat.pow 2 q.toNat)
    else roundHalfEven (num * Nat.pow 2 (-q).toNat) den
  if q = -1074 ∧ m < Nat.pow 2 52 then some (UInt64.ofNat m)
  else
    -- a carry out of the mantissa moves to the next binade
    let (m, q) := if m = Nat.pow 2 53 then (Nat.pow 2 52, q + 1) else (m, q)
    let biased := q + 1075
    if biased ≥ 2047 then none
    else some (UInt64.ofNat (biased.toNat * Nat.pow 2 52 + (m - Nat.pow 2 52)))

/-- The sign bit of a pattern. -/
def signBit (bits : UInt64) : Bool := bits >>> 63 == 1

/-- A finite nonzero magnitude as `m · 2 ^ q`, with whether the next lower number is
half as far away as the next higher one (the start of a binade). -/
structure Unpacked where
  /-- Integer mantissa, hidden bit included. -/
  mantissa : Nat
  /-- Weight of the last mantissa bit. -/
  exponent : Int
  /-- The gap below is half the gap above. -/
  narrowBelow : Bool

/-- Split a pattern's magnitude into mantissa and exponent. -/
def unpack (bits : UInt64) : Unpacked :=
  let biased := ((bits >>> 52) &&& 0x7FF).toNat
  let frac := (bits &&& 0xFFFFFFFFFFFFF).toNat
  if biased = 0 then ⟨frac, -1074, false⟩
  else ⟨frac + Nat.pow 2 52, (biased : Int) - 1075, frac = 0 ∧ biased > 1⟩

/-- The value `a · 2 ^ q` as a fraction. -/
def binaryFraction (a : Nat) (q : Int) : Nat × Nat :=
  if q ≥ 0 then (a * Nat.pow 2 q.toNat, 1) else (a, Nat.pow 2 (-q).toNat)

/-- The value of a finite non-negative pattern as a fraction. -/
def toFraction (bits : UInt64) : Nat × Nat :=
  let u := unpack bits
  binaryFraction u.mantissa u.exponent

/-- The rounded product of two finite non-negative patterns; `none` when it overflows. -/
def mulBits (x y : UInt64) : Option UInt64 :=
  let (a, b) := toFraction x
  let (c, d) := toFraction y
  roundFraction (a * c) (b * d)

/-- The rounded quotient of two finite non-negative patterns, the divisor nonzero;
`none` when it overflows. -/
def divBits (x y : UInt64) : Option UInt64 :=
  let (a, b) := toFraction x
  let (c, d) := toFraction y
  roundFraction (a * d) (b * c)

/-- The binary64 number nearest to `10 ^ k`. -/
def powerOfTen (k : Nat) : UInt64 := (roundFraction (Nat.pow 10 k) 1).getD infinityBits

/-- Scale a finite non-negative pattern by `10 ^ e`, one rounded step for an exponent of
at most 308, and steps of `1e308` down before that. Three steps bring any number to
zero, so the fuel is never the limit. -/
def scaleByTen : Nat → UInt64 → Int → Option UInt64
  | 0, f, _ => some f
  | fuel + 1, f, e =>
    if e.natAbs ≤ 308 then
      if e ≥ 0 then mulBits f (powerOfTen e.natAbs) else divBits f (powerOfTen e.natAbs)
    else if f = 0 then some 0
    else if e ≥ 0 then none
    else
      match divBits f (powerOfTen 308) with
      | some g => scaleByTen fuel g (e + 308)
      | none => none

/-- The binary64 pattern read from `significand · 10 ^ exponent`; `none` past the finite
range. -/
def ofDecimal (significand : Nat) (exponent : Int) : Option UInt64 :=
  match roundFraction significand 1 with
  | some f => scaleByTen 8 f exponent
  | none => none

/-- The value `c · 10 ^ e` as a fraction. -/
def decimalFraction (c : Nat) (e : Int) : Nat × Nat :=
  if e ≥ 0 then (c * Nat.pow 10 e.toNat, 1) else (c, Nat.pow 10 (-e).toNat)

/-- Whether the decimal with the digits `ds` (most significant first) times `10 ^ exponent`,
rounded once to the nearest binary64, lies past the largest finite number. A decimal with
at least 310 digits before its point is past it and one with at most 308 is not, so only
the others are rounded. -/
def roundsPastFinite (ds : List Nat) (exponent : Int) : Bool :=
  let ds := ds.dropWhile (· = 0)
  let magnitude := (ds.length : Int) - 1 + exponent
  if ds.isEmpty then false
  else if magnitude ≥ 309 then true
  else if magnitude ≤ 307 then false
  else
    let (num, den) := decimalFraction (ds.foldl (fun acc d => acc * 10 + d) 0) exponent
    (roundFraction num den).isNone

/-- `x ≤ y` for fractions with positive denominators. -/
def fracLe (x y : Nat × Nat) : Bool := x.1 * y.2 ≤ y.1 * x.2

/-- `x < y` for fractions with positive denominators. -/
def fracLt (x y : Nat × Nat) : Bool := x.1 * y.2 < y.1 * x.2

/-- Smallest `k` below the fuel with `num · 10 ^ k ≥ den`. -/
def scaleUp (num den : Nat) : Nat → Nat → Nat
  | 0, k => k
  | fuel + 1, k => if num * Nat.pow 10 k ≥ den then k else scaleUp num den fuel (k + 1)

/-- The exponent `E` with `10 ^ E ≤ num / den < 10 ^ (E + 1)`, for positive `num` and `den`. -/
def floorLog10 (num den : Nat) : Int :=
  if num ≥ den then ((Nat.toDigits 10 (num / den)).length : Int) - 1
  else -(scaleUp num den 400 1 : Int)

/-- Remove trailing zero digits of `c`, raising the exponent to match. -/
def stripZeros (c : Nat) (e : Int) : Nat → Nat × Int
  | 0 => (c, e)
  | fuel + 1 => if c ≠ 0 ∧ c % 10 = 0 then stripZeros (c / 10) (e + 1) fuel else (c, e)

/-- The shortest decimal `(c, e)`, meaning `c · 10 ^ e`, that reads back as the finite
positive number `u`: the first digit count with a candidate inside the rounding interval
wins; of two candidates the nearer, and of two equally near the even one. -/
def shortest (u : Unpacked) : Nat × Int :=
  let v := binaryFraction u.mantissa u.exponent
  let lo := binaryFraction (4 * u.mantissa - (if u.narrowBelow then 1 else 2)) (u.exponent - 2)
  let hi := binaryFraction (4 * u.mantissa + 2) (u.exponent - 2)
  let inside (c : Nat) (e : Int) : Bool :=
    let x := decimalFraction c e
    if u.mantissa % 2 = 0 then fracLe lo x && fracLe x hi else fracLt lo x && fracLt x hi
  let e0 := floorLog10 v.1 v.2
  let rec search : Nat → Nat → Nat × Int
    | 0, _ => (0, 0)
    | fuel + 1, n =>
      let e : Int := e0 - n + 1
      -- the number scaled to the grid 10^e, as the fraction tn / td
      let (tn, td) := if e ≥ 0 then (v.1, v.2 * Nat.pow 10 e.toNat) else (v.1 * Nat.pow 10 (-e).toNat, v.2)
      let down := tn / td
      let up := down + 1
      let exact := tn % td = 0
      let okDown := inside down e
      let okUp := !exact && inside up e
      if exact && okDown then (down, e)
      else if okDown && okUp then
        let dDown := tn - down * td
        let dUp := up * td - tn
        if dDown < dUp then (down, e)
        else if dUp < dDown then (up, e)
        else if down % 2 = 0 then (down, e) else (up, e)
      else if okDown then (down, e)
      else if okUp then (up, e)
      else if n ≥ 17 then (roundHalfEven tn td, e)
      else search fuel (n + 1)
  let (c, e) := search 17 1
  stripZeros c e 400

/-- How a shortest decimal is laid out: positional while the leading digit's exponent is
at least `positionalFrom` and below `positionalTo`, otherwise one digit, a point if more
digits follow, `e`, a sign and the exponent. -/
structure Layout where
  /-- Least exponent of the leading digit written positionally. -/
  positionalFrom : Int
  /-- Least exponent of the leading digit written with an exponent mark. -/
  positionalTo : Int
  /-- Text after a positional integer. -/
  integerSuffix : String
  /-- Sign written before a non-negative exponent. -/
  plusSign : String

/-- Numbers quoted in decoding messages: positional from `1e-5` below `1e16`, a whole
number keeps `.0`, and an exponent always carries its sign. -/
def Layout.quoted : Layout := ⟨-5, 16, ".0", "+"⟩

/-- Text of `c · 10 ^ e` (with `c` free of trailing zeros) in a layout. -/
def Layout.render (l : Layout) (c : Nat) (e : Int) : String :=
  let ds := (Nat.toDigits 10 c)
  let n := ds.length
  let k : Int := e + n - 1
  if l.positionalFrom ≤ k ∧ k < l.positionalTo then
    if e ≥ 0 then
      String.ofList ds ++ String.ofList (List.replicate e.toNat '0') ++ l.integerSuffix
    else if k ≥ 0 then
      String.ofList (ds.take (k.toNat + 1)) ++ "." ++ String.ofList (ds.drop (k.toNat + 1))
    else
      "0." ++ String.ofList (List.replicate ((-k).toNat - 1) '0') ++ String.ofList ds
  else
    let mant := match ds with
      | [] => "0"
      | [d] => String.singleton d
      | d :: rest => String.singleton d ++ "." ++ String.ofList rest
    let expText := if k ≥ 0 then l.plusSign ++ toString k.toNat else "-" ++ toString (-k).toNat
    mant ++ "e" ++ expText

/-- Text of a binary64 pattern in a layout; zero is `0` plus the integer suffix. -/
def renderBits (l : Layout) (bits : UInt64) : String :=
  let sign := if signBit bits then "-" else ""
  let magnitude := bits &&& 0x7FFFFFFFFFFFFFFF
  if magnitude = 0 then sign ++ "0" ++ l.integerSuffix
  else if magnitude ≥ infinityBits then
    if magnitude = infinityBits then sign ++ "inf" else "NaN"
  else
    let (c, e) := shortest (unpack magnitude)
    sign ++ l.render c e

end NetReconcile.Decimal
