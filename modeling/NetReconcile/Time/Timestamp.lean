import NetReconcile.Time.Span

/-!
# Timestamps

A timestamp is a second of coordinated universal time and a nanosecond within it; a
nanosecond count from one to two billion marks a leap second, written as second 60.

Reading accepts dates and times in the form `YYYY-MM-DDTHH:MM:SS[.fraction]` followed by
`Z`, `UTC` or a `±HH:MM` offset. It is lenient where many writers are: fields may have
fewer digits, blanks may stand before numbers and around the separators, the `T` may be
lowercase or a blank, a year may carry a sign and more digits, and a fraction keeps its
first nine digits. The time is converted to universal time by its offset. A wall time
outside the calendar is out of range; one inside whose universal time falls outside is
impossible. The offset's digits are checked byte by byte, so a character of several bytes
where a digit belongs makes the text invalid, not short.

Writing gives `YYYY-MM-DDTHH:MM:SS` with as many fraction digits as needed in groups of
three (none, 3, 6 or 9) and `Z`; a year outside 0 to 9999 is written with its sign.
-/

namespace NetReconcile.Time

/-- A second of universal time since 1970-01-01T00:00:00Z and the nanosecond within it. -/
structure Timestamp where
  seconds : Int
  nanos : Nat
  deriving DecidableEq, Repr

/-- The timestamp of an instant given in nanoseconds since 1970-01-01T00:00:00Z. -/
def Timestamp.ofNanos (t : Int) : Timestamp := ⟨t.fdiv nanosPerSecond, (t.fmod nanosPerSecond).toNat⟩

/-- Why a timestamp cannot be read. -/
inductive TimeError where
  | outOfRange
  | invalid
  | tooShort
  | tooLong
  | impossible
  deriving DecidableEq, Repr

/-- The text of a timestamp reading error. -/
def TimeError.message : TimeError → String
  | .outOfRange => "input is out of range"
  | .invalid => "input contains invalid characters"
  | .tooShort => "premature end of input"
  | .tooLong => "trailing input"
  | .impossible => "no possible date and time matching input"

/-- Whether a character is a blank. -/
def isBlank (c : Char) : Bool :=
  c = ' ' || ('\t' ≤ c && c ≤ '\r') || c = '\u0085' || c = ' ' || c = ' ' ||
  (' ' ≤ c && c ≤ ' ') || c = ' ' || c = ' ' || c = ' ' ||
  c = ' ' || c = '　'

/-- What remains after leading blanks. -/
def trimBlanks (cs : List Char) : List Char := cs.dropWhile isBlank

/-- Digits of a number, at least `lo` and at most `hi` of them, refused past 63 bits. -/
def readNumber (cs : List Char) (lo hi : Nat) : Except TimeError (Int × List Char) :=
  if cs.length < lo then .error .tooShort else
  let ds := (cs.take hi).takeWhile Char.isDigit
  if ds.length < lo then .error .invalid else
  let n := ds.foldl (fun acc c => acc * 10 + (c.toNat - '0'.toNat)) 0
  if n > 9223372036854775807 then .error .outOfRange
  else .ok (n, cs.drop ds.length)

/-- A literal character. -/
def readLiteral (c : Char) : List Char → Except TimeError (List Char)
  | [] => .error .tooShort
  | x :: rest => if x = c then .ok rest else .error .invalid

/-- A field of at most `width` digits after optional blanks, checked against a range. -/
def readField (cs : List Char) (width : Nat) (lo hi : Int) : Except TimeError (Int × List Char) := do
  let (n, rest) ← readNumber (trimBlanks cs) 1 width
  if lo ≤ n ∧ n ≤ hi then .ok (n, rest) else .error .outOfRange

/-- A year: an optional sign with any number of digits, or up to four digits. -/
def readYear (cs : List Char) : Except TimeError (Int × List Char) := do
  let (y, rest) ← match trimBlanks cs with
    | '-' :: rest => do let (n, r) ← readNumber rest 1 rest.length; pure (-n, r)
    | '+' :: rest => readNumber rest 1 rest.length
    | rest => readNumber rest 1 4
  if y < -2147483648 ∨ y > 2147483647 then .error .outOfRange else .ok (y, rest)

/-- A fraction of a second after its point: the nanoseconds of its first nine digits. -/
def readFraction (cs : List Char) : Except TimeError (Nat × List Char) := do
  let (n, rest) ← readNumber cs 1 9
  let used := cs.length - rest.length
  let scaled := n.toNat * Nat.pow 10 (9 - used)
  .ok (scaled, rest.dropWhile Char.isDigit)

/-- The first two bytes of a text's UTF-8 form, if it has two. -/
def twoBytes (cs : List Char) : Option (UInt8 × UInt8) :=
  match (String.ofList (cs.take 2)).toUTF8.toList with
  | a :: b :: _ => some (a, b)
  | _ => none

/-- Whether a byte is an ASCII digit. -/
def isDigitByte (b : UInt8) : Bool := 0x30 ≤ b && b ≤ 0x39

/-- A zone offset in seconds: `Z`, or a sign, two hour digits, optional colons or blanks,
and two minute digits. -/
def readOffset (cs : List Char) : Except TimeError (Int × List Char) := do
  match cs with
  | 'Z' :: rest | 'z' :: rest => .ok (0, rest)
  | [] => .error .tooShort
  | c :: rest =>
    let negative ← if c = '+' then pure false
      else if c = '-' ∨ c = '−' then pure true
      else .error .invalid
    let (h1, h2) ← match twoBytes rest with
      | some p => pure p
      | none => .error .tooShort
    if !(isDigitByte h1 && isDigitByte h2) then .error .invalid
    let hours : Int := (h1.toNat - 48) * 10 + (h2.toNat - 48)
    let rest := (rest.drop 2).dropWhile fun c => c = ':' || isBlank c
    let (m1, m2) ← match twoBytes rest with
      | some p => pure p
      | none => .error .tooShort
    if 0x36 ≤ m1 ∧ m1 ≤ 0x39 ∧ isDigitByte m2 then .error .outOfRange
    if !(0x30 ≤ m1 ∧ m1 ≤ 0x35 ∧ isDigitByte m2) then .error .invalid
    let minutes : Int := (m1.toNat - 48) * 10 + (m2.toNat - 48)
    let seconds := hours * 3600 + minutes * 60
    .ok (if negative then -seconds else seconds, rest.drop 2)

/-- Whether a text starts with `UTC` in any letter case. -/
def startsWithUtc : List Char → Bool
  | a :: b :: c :: _ => a.toUpper = 'U' && b.toUpper = 'T' && c.toUpper = 'C'
  | _ => false

/-- Read a timestamp. -/
def Timestamp.read (s : String) : Except TimeError Timestamp := do
  let cs := s.toList
  let (year, cs) ← readYear cs
  let cs ← readLiteral '-' (trimBlanks cs)
  let (month, cs) ← readField cs 2 1 12
  let cs ← readLiteral '-' (trimBlanks cs)
  let (day, cs) ← readField cs 2 1 31
  let cs ← match cs with
    | c :: rest => if c = 'T' ∨ c = 't' ∨ c = ' ' then pure rest else .error .invalid
    | [] => .error .tooShort
  let (hour, cs) ← readField cs 2 0 23
  let cs ← readLiteral ':' (trimBlanks cs)
  let (minute, cs) ← readField cs 2 0 59
  let cs ← readLiteral ':' (trimBlanks cs)
  let (second, cs) ← readField cs 2 0 60
  let (nano, cs) ← match cs with
    | '.' :: rest => readFraction rest
    | _ => pure (0, cs)
  let cs := trimBlanks cs
  let (offset, cs) ← if startsWithUtc cs then pure (0, cs.drop 3) else readOffset cs
  if !(trimBlanks cs).isEmpty then .error .tooLong
  if day.toNat > daysInMonth year month.toNat then .error .outOfRange
  if year < calendarFirstYear ∨ year > calendarLastYear then .error .outOfRange
  if offset ≤ -86400 ∨ offset ≥ 86400 then .error .outOfRange
  -- a leap second is the 59th second with a second billion nanoseconds
  let (second, nano) := if second = 60 then (59, nano + 1000000000) else (second, nano)
  let wall := daysFromCivil year month.toNat day.toNat * secondsPerDay + hour * 3600 +
    minute * 60 + second
  let utc := wall - offset
  let first := daysFromCivil calendarFirstYear 1 1 * secondsPerDay
  let last := (daysFromCivil calendarLastYear 12 31 + 1) * secondsPerDay - 1
  -- the wall time is in the calendar, but the same instant in universal time is not
  if utc < first ∨ utc > last then .error .impossible
  .ok ⟨utc, nano⟩

/-- A number written with at least `width` digits. -/
def padded (width : Nat) (n : Nat) : String :=
  let ds := Nat.toDigits 10 n
  String.ofList (List.replicate (width - ds.length) '0' ++ ds)

/-- The fraction of a second, in groups of three digits, none when it is zero. -/
def fractionText (nanos : Nat) : String :=
  if nanos = 0 then ""
  else if nanos % 1000000 = 0 then "." ++ padded 3 (nanos / 1000000)
  else if nanos % 1000 = 0 then "." ++ padded 6 (nanos / 1000)
  else "." ++ padded 9 nanos

/-- The text of a year: four digits from 0 to 9999, otherwise signed. -/
def yearText (y : Int) : String :=
  if 0 ≤ y ∧ y ≤ 9999 then padded 4 y.toNat
  else (if y < 0 then "-" else "+") ++ padded 4 y.natAbs

/-- Write a timestamp in universal time. -/
def Timestamp.write (t : Timestamp) : String :=
  let days := t.seconds.fdiv secondsPerDay
  let sod := (t.seconds.fmod secondsPerDay).toNat
  let (y, m, d) := civilFromDays days
  let leap := t.nanos ≥ 1000000000
  let sec := sod % 60 + (if leap then 1 else 0)
  yearText y ++ "-" ++ padded 2 m ++ "-" ++ padded 2 d ++ "T" ++ padded 2 (sod / 3600) ++ ":" ++
    padded 2 (sod / 60 % 60) ++ ":" ++ padded 2 sec ++ fractionText (t.nanos % 1000000000) ++ "Z"

end NetReconcile.Time
