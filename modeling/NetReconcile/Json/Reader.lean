import NetReconcile.Json.Value

/-!
# Reading JSON text

A reader over the UTF-8 bytes of a text. It reads a whole value, or a record whose
fields are all strings, and reports the first fault with the line and column where it
was found. Columns count bytes from the start of the line. A fault found on a byte
already read is placed after it; a fault found by looking at the next byte is placed
one byte further, which puts a fault on a line break at column 0 of the next line.

Faults fall into three classes: the text ended early, the text is not JSON, or the
JSON does not have the expected shape. A shape fault has no
place of its own: it takes the place the reader has reached when the enclosing value
is finished.

Numbers keep their kind: digits without fraction or exponent are a non-negative integer
while they fit in 64 bits, or a negative integer while they fit in 64 signed bits;
`-0` and everything else is a binary64 number built from at most the first 19 or 20
significant digits (the digits that still fit in 64 bits) and a power of ten.
-/

namespace NetReconcile.Json

/-- What went wrong while reading. -/
inductive Fault where
  | eofWhileParsingList
  | eofWhileParsingObject
  | eofWhileParsingString
  | eofWhileParsingValue
  | expectedColon
  | expectedListCommaOrEnd
  | expectedObjectCommaOrEnd
  | expectedSomeIdent
  | expectedSomeValue
  | invalidEscape
  | invalidNumber
  | numberOutOfRange
  | invalidUnicodeCodePoint
  | controlCharacterWhileParsingString
  | keyMustBeAString
  | loneLeadingSurrogateInHexEscape
  | trailingComma
  | trailingCharacters
  | unexpectedEndOfHexEscape
  | recursionLimitExceeded
  /-- The JSON does not have the expected shape. -/
  | shape (message : String)
  deriving DecidableEq, Repr

/-- The class of a fault. -/
inductive FaultClass where
  | malformed
  | wrongShape
  | endedEarly
  deriving DecidableEq, Repr

/-- Which class a fault belongs to. -/
def Fault.classOf : Fault → FaultClass
  | .eofWhileParsingList | .eofWhileParsingObject | .eofWhileParsingString
  | .eofWhileParsingValue => .endedEarly
  | .shape _ => .wrongShape
  | _ => .malformed

/-- The name of a fault class, as it starts a report. -/
def FaultClass.name : FaultClass → String
  | .malformed => "Syntax"
  | .wrongShape => "Data"
  | .endedEarly => "Eof"

/-- A fault at a place; a shape fault has no place until its value is finished. -/
structure ReadError where
  fault : Fault
  place : Option (Nat × Nat)
  deriving DecidableEq, Repr

/-- The line of a reading error, 0 when it has no place. -/
def ReadError.line (e : ReadError) : Nat := (e.place.map (·.1)).getD 0

/-- The column of a reading error, 0 when it has no place. -/
def ReadError.column (e : ReadError) : Nat := (e.place.map (·.2)).getD 0

/-- The position of a reader: the bytes still to read, and the line and column after
the bytes already read. -/
structure Cursor where
  rest : List UInt8
  line : Nat
  column : Nat

/-- A cursor at the start of a text. -/
def Cursor.ofString (s : String) : Cursor := ⟨s.toUTF8.toList, 1, 0⟩

/-- The place after the bytes already read. -/
def Cursor.place (c : Cursor) : Nat × Nat := (c.line, c.column)

/-- The place one byte further than the bytes already read. -/
def Cursor.peekPlace (c : Cursor) : Nat × Nat :=
  match c.rest with
  | 10 :: _ => (c.line + 1, 0)
  | _ :: _ => (c.line, c.column + 1)
  | [] => (c.line, c.column)

/-- Step over one byte. -/
def Cursor.advance (c : Cursor) : Cursor :=
  match c.rest with
  | 10 :: rest => ⟨rest, c.line + 1, 0⟩
  | _ :: rest => ⟨rest, c.line, c.column + 1⟩
  | [] => c

/-- Whether a byte is JSON whitespace. -/
def isBlank (b : UInt8) : Bool := b == 0x20 || b == 0x0A || b == 0x0D || b == 0x09

/-- Step over whitespace. -/
def skipBlanks : List UInt8 → Nat → Nat → Cursor
  | b :: rest, line, col =>
    if isBlank b then
      if b == 10 then skipBlanks rest (line + 1) 0 else skipBlanks rest line (col + 1)
    else ⟨b :: rest, line, col⟩
  | [], line, col => ⟨[], line, col⟩

/-- Reading: a computation over the cursor that may fail, keeping what it read. -/
abbrev Scan := ExceptT ReadError (StateM Cursor)

namespace Scan

/-- The next byte, without reading it. -/
def peek : Scan (Option UInt8) := do return (← get).rest.head?

/-- Read one byte. -/
def eat : Scan Unit := modify Cursor.advance

/-- Read and return the next byte. -/
def next : Scan (Option UInt8) := do
  let b ← peek
  eat
  return b

/-- Fail at the place after the bytes read. -/
def fail (f : Fault) : Scan α := do throw ⟨f, some (← get).place⟩

/-- Fail at the place of the next byte. -/
def failAhead (f : Fault) : Scan α := do throw ⟨f, some (← get).peekPlace⟩

/-- Fail with a shape fault, placed later. -/
def failShape (message : String) : Scan α := throw ⟨.shape message, none⟩

/-- Step over whitespace and return the next byte. -/
def blanks : Scan (Option UInt8) := do
  let c ← get
  set (skipBlanks c.rest c.line c.column)
  peek

/-- Give a fault without a place the place reached now. -/
def placed (m : Scan α) : Scan α :=
  tryCatch m fun e => do
    match e.place with
    | some _ => throw e
    | none => throw { e with place := some (← get).place }

/-- Run a reading step and keep its failure as a value. -/
def attempt (m : Scan α) : Scan (Except ReadError α) :=
  tryCatch (Except.ok <$> m) fun e => pure (.error e)

/-- Read the rest of a keyword whose first byte was read. -/
def keyword : List UInt8 → Scan Unit
  | [] => pure ()
  | b :: bs => do
    match ← next with
    | none => fail .eofWhileParsingValue
    | some x => if x == b then keyword bs else fail .expectedSomeIdent

/-- Whether a byte is a decimal digit. -/
def isDigit (b : UInt8) : Bool := 0x30 ≤ b && b ≤ 0x39

/-- The value of a hexadecimal digit. -/
def hexValue (b : UInt8) : Option Nat :=
  if 0x30 ≤ b && b ≤ 0x39 then some (b - 0x30).toNat
  else if 0x61 ≤ b && b ≤ 0x66 then some (b - 0x61 + 10).toNat
  else if 0x41 ≤ b && b ≤ 0x46 then some (b - 0x41 + 10).toNat
  else none

/-- Read four hexadecimal digits of a `\u` escape. -/
def hexEscape : Scan Nat := do
  let c ← get
  match c.rest with
  | a :: b :: d :: e :: _ =>
    eat; eat; eat; eat
    match hexValue a, hexValue b, hexValue d, hexValue e with
    | some x, some y, some z, some w => pure (((x * 16 + y) * 16 + z) * 16 + w)
    | _, _, _, _ => fail .invalidEscape
  | _ =>
    -- fewer than four bytes remain: all of them are read
    set (c.rest.foldl (fun c _ => c.advance) c)
    fail .eofWhileParsingString

/-- The UTF-8 bytes of a code point. -/
def utf8Bytes (n : Nat) : List UInt8 := (String.singleton (Char.ofNat n)).toUTF8.toList

/-- Read the code point of a `\u` escape whose `u` was read, pairing surrogates. -/
def unicodeEscape : Scan (List UInt8) := do
  let n ← hexEscape
  if 0xDC00 ≤ n ∧ n ≤ 0xDFFF then fail .loneLeadingSurrogateInHexEscape
  else if n < 0xD800 ∨ n > 0xDBFF then pure (utf8Bytes n)
  else
    match ← peek with
    | none => fail .eofWhileParsingString
    | some b =>
      eat
      if b != 0x5C then fail .unexpectedEndOfHexEscape else
      match ← peek with
      | none => fail .eofWhileParsingString
      | some u =>
        eat
        if u != 0x75 then fail .unexpectedEndOfHexEscape else
        let n2 ← hexEscape
        if n2 < 0xDC00 ∨ n2 > 0xDFFF then fail .loneLeadingSurrogateInHexEscape
        else pure (utf8Bytes (0x10000 + (n - 0xD800) * 0x400 + (n2 - 0xDC00)))

/-- Read an escape whose backslash was read. -/
def escape (keep : Bool) : Scan (List UInt8) := do
  match ← next with
  | none => fail .eofWhileParsingString
  | some b =>
    if b == 0x22 then pure [0x22]
    else if b == 0x5C then pure [0x5C]
    else if b == 0x2F then pure [0x2F]
    else if b == 0x62 then pure [0x08]
    else if b == 0x66 then pure [0x0C]
    else if b == 0x6E then pure [0x0A]
    else if b == 0x72 then pure [0x0D]
    else if b == 0x74 then pure [0x09]
    else if b == 0x75 then
      if keep then unicodeEscape else do let _ ← hexEscape; pure []
    else fail .invalidEscape

/-- Read the body of a string whose opening quote was read; the bytes are collected
when `keep` holds, and only checked otherwise. -/
def stringBody (keep : Bool) : Nat → List UInt8 → Scan (List UInt8)
  | 0, _ => fail .eofWhileParsingString
  | fuel + 1, acc => do
    match ← peek with
    | none => fail .eofWhileParsingString
    | some b =>
      if b == 0x22 then do eat; pure acc.reverse
      else if b == 0x5C then do
        eat
        let bs ← escape keep
        stringBody keep fuel (bs.reverse ++ acc)
      else if b < 0x20 then
        if keep then do eat; fail .controlCharacterWhileParsingString
        else fail .controlCharacterWhileParsingString
      else do
        eat
        stringBody keep fuel (b :: acc)

/-- Text of UTF-8 bytes; the bytes read from a text are always valid. -/
def textOf (bs : List UInt8) : String := (String.fromUTF8? (ByteArray.mk bs.toArray)).getD ""

/-- Read a string whose opening quote was read. -/
def string : Scan String := do
  let fuel := (← get).rest.length + 1
  return textOf (← stringBody true fuel [])

/-- Step over a string whose opening quote was read. -/
def skipString : Scan Unit := do
  let fuel := (← get).rest.length + 1
  let _ ← stringBody false fuel []

/-- Read digits into a significand until it would pass 64 bits; returns the significand
and how many digits were read. -/
def digits : Nat → Nat → Nat → Scan (Nat × Nat)
  | 0, sig, count => pure (sig, count)
  | fuel + 1, sig, count => do
    match ← peek with
    | some b =>
      if isDigit b then
        let d := (b - 0x30).toNat
        if sig * 10 + d > 18446744073709551615 then pure (sig, count)
        else do eat; digits fuel (sig * 10 + d) (count + 1)
      else pure (sig, count)
    | none => pure (sig, count)

/-- Step over digits; returns how many. -/
def skipDigits : Nat → Nat → Scan Nat
  | 0, count => pure count
  | fuel + 1, count => do
    match ← peek with
    | some b => if isDigit b then do eat; skipDigits fuel (count + 1) else pure count
    | none => pure count

/-- The binary64 number `± significand · 10 ^ exponent`, refused when out of range. -/
def float (positive : Bool) (significand : Nat) (exponent : Int) : Scan Number :=
  match Decimal.ofDecimal significand exponent with
  | none => fail .numberOutOfRange
  | some bits => pure (.float (if positive then bits else bits ||| 0x8000000000000000))

/-- Read an exponent part whose `e` is next, for a decimal `significand · 10 ^ start`. -/
def exponentPart (positive : Bool) (significand : Nat) (start : Int) : Scan Number := do
  eat
  let expPositive ← match ← peek with
    | some 0x2B => do eat; pure true
    | some 0x2D => do eat; pure false
    | _ => pure true
  match ← next with
  | none => fail .eofWhileParsingValue
  | some b =>
    if !isDigit b then fail .invalidNumber else
    let fuel := (← get).rest.length + 1
    let (e, overflow) ← expDigits fuel (b - 0x30).toNat
    if overflow then
      -- an exponent past 32 signed bits is out of range upwards and zero downwards
      if significand ≠ 0 ∧ expPositive then fail .numberOutOfRange
      else
        let _ ← skipDigits fuel 0
        pure (.float (if positive then 0 else 0x8000000000000000))
    else
      float positive significand (if expPositive then start + e else start - e)
where
  /-- Exponent digits, stopping right after the digit that takes the value past 32
  signed bits. -/
  expDigits : Nat → Nat → Scan (Nat × Bool)
    | 0, e => pure (e, false)
    | fuel + 1, e => do
      match ← peek with
      | some b =>
        if isDigit b then do
          eat
          let e' := e * 10 + (b - 0x30).toNat
          if e' > 2147483647 then pure (e, true) else expDigits fuel e'
        else pure (e, false)
      | none => pure (e, false)

/-- Read a fraction part whose point is next. -/
def fractionPart (positive : Bool) (significand : Nat) (start : Int) : Scan Number := do
  eat
  let fuel := (← get).rest.length + 1
  let (sig, count) ← digits fuel significand 0
  if count = 0 then
    match ← peek with
    | some b =>
      if isDigit b then
        -- the significand is already full: further digits are dropped
        let _ ← skipDigits fuel 0
        afterFraction sig start
      else failAhead .invalidNumber
    | none => failAhead .eofWhileParsingValue
  else
    -- digits beyond 64 bits of significand are read and dropped
    let _ ← skipDigits fuel 0
    afterFraction sig (start - count)
where
  afterFraction (sig : Nat) (e : Int) : Scan Number := do
    match ← peek with
    | some 0x65 | some 0x45 => exponentPart positive sig e
    | _ => float positive sig e

/-- Read a number whose sign, if any, was read. -/
def number (positive : Bool) : Scan Number := do
  match ← next with
  | none => fail .eofWhileParsingValue
  | some b =>
    if b == 0x30 then
      match ← peek with
      | some d => if isDigit d then failAhead .invalidNumber else afterInteger 0 0
      | none => afterInteger 0 0
    else if isDigit b then
      let fuel := (← get).rest.length + 1
      let (sig, _) ← digits fuel (b - 0x30).toNat 0
      -- digits past a full significand only raise the exponent
      let extra ← skipDigits fuel 0
      if extra > 0 then afterLong sig extra else afterInteger sig 0
    else fail .invalidNumber
where
  afterLong (sig : Nat) (e : Nat) : Scan Number := do
    match ← peek with
    | some 0x2E => fractionPart positive sig e
    | some 0x65 | some 0x45 => exponentPart positive sig e
    | _ => float positive sig e
  afterInteger (sig : Nat) (_zero : Nat) : Scan Number := do
    match ← peek with
    | some 0x2E => fractionPart positive sig 0
    | some 0x65 | some 0x45 => exponentPart positive sig 0
    | _ =>
      if positive then pure (.nat sig)
      else if sig ≥ 1 ∧ sig ≤ 9223372036854775808 then pure (.neg (-(sig : Int)))
      else float false sig 0

/-- Step over a number. -/
def skipNumber : Scan Unit := do
  let fuel := (← get).rest.length + 1
  match ← next with
  | some 0x30 =>
    match ← peek with
    | some d => if isDigit d then failAhead .invalidNumber else afterInteger fuel
    | none => afterInteger fuel
  | some b => if isDigit b then do let _ ← skipDigits fuel 0; afterInteger fuel else fail .invalidNumber
  | none => fail .invalidNumber
where
  /-- After the integer part: a fraction, an exponent, or the end of the number. -/
  afterInteger (fuel : Nat) : Scan Unit := do
    match ← peek with
    | some 0x2E =>
      eat
      let n ← skipDigits fuel 0
      if n = 0 then failAhead .invalidNumber
      else
        match ← peek with
        | some 0x65 | some 0x45 => skipExponent fuel
        | _ => pure ()
    | some 0x65 | some 0x45 => skipExponent fuel
    | _ => pure ()
  /-- An exponent: its letter, a sign if any, and its digits. -/
  skipExponent (fuel : Nat) : Scan Unit := do
    eat
    match ← peek with
    | some 0x2B | some 0x2D => do eat; exponentDigits fuel
    | _ => exponentDigits fuel
  /-- The digits of an exponent, at least one. -/
  exponentDigits (fuel : Nat) : Scan Unit := do
    match ← next with
    | some b => if isDigit b then do let _ ← skipDigits fuel 0 else fail .invalidNumber
    | none => fail .invalidNumber

/-- Read a whole value. Nesting deeper than `depth` is refused. -/
def value (depth : Nat) : Nat → Scan Value
  | 0 => failAhead .recursionLimitExceeded
  | fuel + 1 => do
    match ← blanks with
    | none => failAhead .eofWhileParsingValue
    | some b =>
      placed do
      if b == 0x6E then do eat; keyword [0x75, 0x6C, 0x6C]; pure .null
      else if b == 0x74 then do eat; keyword [0x72, 0x75, 0x65]; pure (.bool true)
      else if b == 0x66 then do eat; keyword [0x61, 0x6C, 0x73, 0x65]; pure (.bool false)
      else if b == 0x2D then do eat; pure (.num (← number false))
      else if isDigit b then do pure (.num (← number true))
      else if b == 0x22 then do eat; pure (.str (← string))
      else if b == 0x5B then do
        if depth ≤ 1 then failAhead .recursionLimitExceeded
        eat
        let items ← attempt (elements (depth - 1) fuel true [])
        let close ← attempt closeList
        match items, close with
        | .ok items, .ok () => pure (.arr items)
        | .error e, _ => throw e
        | _, .error e => throw e
      else if b == 0x7B then do
        if depth ≤ 1 then failAhead .recursionLimitExceeded
        eat
        let fs ← attempt (members (depth - 1) fuel true [])
        let close ← attempt closeObject
        match fs, close with
        | .ok fs, .ok () => pure (.obj fs)
        | .error e, _ => throw e
        | _, .error e => throw e
      else failAhead .expectedSomeValue
where
  /-- Whether another element follows in a list. -/
  hasElement (first : Bool) : Scan Bool := do
    match ← blanks with
    | none => failAhead .eofWhileParsingList
    | some 0x5D => pure false
    | some b =>
      if first then pure true
      else if b == 0x2C then do
        eat
        match ← blanks with
        | some 0x5D => failAhead .trailingComma
        | some _ => pure true
        | none => failAhead .eofWhileParsingValue
      else failAhead .expectedListCommaOrEnd
  elements (depth : Nat) : Nat → Bool → List Value → Scan (List Value)
    | 0, _, _ => failAhead .recursionLimitExceeded
    | fuel + 1, first, acc => do
      if ← hasElement first then
        let v ← value depth fuel
        elements depth fuel false (v :: acc)
      else pure acc.reverse
  closeList : Scan Unit := do
    match ← blanks with
    | some 0x5D => eat
    | some 0x2C => do
      eat
      match ← blanks with
      | some 0x5D => failAhead .trailingComma
      | _ => failAhead .trailingCharacters
    | some _ => failAhead .trailingCharacters
    | none => failAhead .eofWhileParsingList
  /-- The key of the next member, if one follows. -/
  nextKey (first : Bool) : Scan (Option String) := do
    let peeked ← match ← blanks with
      | some 0x7D => pure none
      | some 0x2C =>
        if first then pure (some (some (0x2C : UInt8)))
        else do eat; pure (some (← blanks))
      | some b =>
        if first then pure (some (some b)) else failAhead .expectedObjectCommaOrEnd
      | none => failAhead .eofWhileParsingObject
    match peeked with
    | none => pure none
    | some (some 0x22) => do eat; pure (some (← string))
    | some (some 0x7D) => failAhead .trailingComma
    | some (some _) => failAhead .keyMustBeAString
    | some none => failAhead .eofWhileParsingValue
  colon : Scan Unit := do
    match ← blanks with
    | some 0x3A => eat
    | some _ => failAhead .expectedColon
    | none => failAhead .eofWhileParsingObject
  members (depth : Nat) : Nat → Bool → List (String × Value) → Scan (List (String × Value))
    | 0, _, _ => failAhead .recursionLimitExceeded
    | fuel + 1, first, acc => do
      match ← nextKey first with
      | none => pure (sortFields acc.reverse)
      | some k =>
        colon
        let v ← value depth fuel
        members depth fuel false ((k, v) :: acc)
  closeObject : Scan Unit := do
    match ← blanks with
    | some 0x7D => eat
    | some 0x2C => failAhead .trailingComma
    | some _ => failAhead .trailingCharacters
    | none => failAhead .eofWhileParsingObject

/-- Step over a whole value of any nesting, checking its syntax but not the range of its
numbers; `stack` holds the brackets entered so far. -/
def skipValue : Nat → List UInt8 → Scan Unit
  | 0, _ => failAhead .eofWhileParsingValue
  | fuel + 1, stack => do
    match ← blanks with
    | none => failAhead .eofWhileParsingValue
    | some b =>
      if b == 0x6E then do eat; keyword [0x75, 0x6C, 0x6C]; afterScalar fuel stack
      else if b == 0x74 then do eat; keyword [0x72, 0x75, 0x65]; afterScalar fuel stack
      else if b == 0x66 then do eat; keyword [0x61, 0x6C, 0x73, 0x65]; afterScalar fuel stack
      else if b == 0x2D then do eat; skipNumber; afterScalar fuel stack
      else if isDigit b then do skipNumber; afterScalar fuel stack
      else if b == 0x22 then do eat; skipString; afterScalar fuel stack
      else if b == 0x5B || b == 0x7B then do
        eat
        closeOrNext fuel b stack false
      else failAhead .expectedSomeValue
where
  /-- After a complete value: close brackets or move on past a comma. -/
  afterScalar (fuel : Nat) (stack : List UInt8) : Scan Unit :=
    match stack with
    | [] => pure ()
    | frame :: outer => closeOrNext fuel frame outer true
  /-- Inside `frame`: a comma (when allowed) starts the next entry, a matching bracket
  closes the frame. -/
  closeOrNext : Nat → UInt8 → List UInt8 → Bool → Scan Unit
    | 0, _, _, _ => failAhead .eofWhileParsingValue
    | fuel + 1, frame, outer, acceptComma => do
      match ← blanks with
      | some b =>
        if b == 0x2C && acceptComma then do
          eat
          entry fuel frame outer
        else if (b == 0x5D && frame == 0x5B) || (b == 0x7D && frame == 0x7B) then do
          eat
          match outer with
          | [] => pure ()
          | f :: rest => closeOrNext fuel f rest true
        else if acceptComma then
          failAhead (if frame == 0x5B then .expectedListCommaOrEnd else .expectedObjectCommaOrEnd)
        else entry fuel frame outer
      | none =>
        failAhead (if frame == 0x5B then .eofWhileParsingList else .eofWhileParsingObject)
  /-- Start the next entry of `frame`: an object entry begins with its key and colon. -/
  entry (fuel : Nat) (frame : UInt8) (outer : List UInt8) : Scan Unit := do
    if frame == 0x7B then
      match ← blanks with
      | some 0x22 => eat
      | some _ => failAhead .keyMustBeAString
      | none => failAhead .eofWhileParsingObject
      skipString
      match ← blanks with
      | some 0x3A => eat
      | some _ => failAhead .expectedColon
      | none => failAhead .eofWhileParsingObject
    skipValue fuel (frame :: outer)

/-- How the value ahead is named in a shape fault: read first when it is a scalar, named
by kind when it is a list or an object. -/
def unexpectedAhead : Scan String := do
  match ← peek with
  | some 0x6E => do eat; keyword [0x75, 0x6C, 0x6C]; pure (Value.unexpected .null)
  | some 0x74 => do eat; keyword [0x72, 0x75, 0x65]; pure (Value.unexpected (.bool true))
  | some 0x66 => do eat; keyword [0x61, 0x6C, 0x73, 0x65]; pure (Value.unexpected (.bool false))
  | some 0x2D => do eat; pure (Value.unexpected (.num (← number false)))
  | some 0x22 => do eat; pure (Value.unexpected (.str (← string)))
  | some 0x5B => pure (Value.unexpected (.arr []))
  | some 0x7B => pure (Value.unexpected (.obj []))
  | some b =>
    if isDigit b then do pure (Value.unexpected (.num (← number true)))
    else failAhead .expectedSomeValue
  | none => failAhead .expectedSomeValue

/-- The shape fault for a value that is not the expected one, naming the value ahead. -/
def mismatch (expected : String) : Scan α := do
  let found ← unexpectedAhead
  placed (failShape s!"invalid type: {found}, expected {expected}")

/-- Read a string value where a string is expected, naming any other value in a shape
fault that says what was expected. -/
def expectString (expected : String) : Scan String := do
  match ← blanks with
  | none => failAhead .eofWhileParsingValue
  | some b =>
    placed do
    if b == 0x22 then do eat; string
    else mismatch expected

end Scan

end NetReconcile.Json
