import NetReconcile.Toml.Document

/-!
# Reading TOML

The grammar of TOML 1.0: lines holding a key and value, a `[table]` or `[[array]]`
header, a comment, or nothing; keys bare (letters, digits, `_`, `-`) or quoted, joined
by dots; values are basic and literal strings (each also in a multi-line form), integers
(decimal without leading zeros, or hexadecimal, octal and binary), floats, booleans,
dates and times, arrays (over several lines, with comments, and a trailing comma), and
inline tables (on one line, without a trailing comma). Underscores may stand only between
digits. Integers must fit in 64 signed bits, and a float must not round up to positive
infinity (a negative one may round down to negative infinity). Arrays and inline tables
nest fewer than 80 deep, and a dotted key has fewer than 80 parts. Control characters are
refused in strings and comments, except tabs.

Reading gives the document as JSON, or nothing when the text is not valid TOML.
-/

namespace NetReconcile.Toml

/-- A reader over the characters still to read; failure means invalid TOML. -/
abbrev Parser := StateT (List Char) Option

/-- Whether a character is a space or a tab. -/
def isBlank (c : Char) : Bool := c = ' ' || c = '\t'

/-- Skip spaces and tabs. -/
def blanks : Parser Unit := modify (·.dropWhile isBlank)

/-- Read one given character. -/
def expect (c : Char) : Parser Unit := do
  match ← get with
  | x :: rest => if x = c then set rest else failure
  | [] => failure

/-- Whether a character may stand in a comment. -/
def isCommentChar (c : Char) : Bool := c = '\t' || (c.toNat ≥ 0x20 && c.toNat != 0x7F)

/-- Skip a comment, if one starts here. -/
def comment : Parser Unit := do
  match ← get with
  | '#' :: rest =>
    let body := rest.takeWhile (fun c => c != '\n' && c != '\r')
    if body.all isCommentChar then set (rest.drop body.length) else failure
  | _ => pure ()

/-- Read a line break, or the end of the text. -/
def lineBreak : Parser Unit := do
  match ← get with
  | [] => pure ()
  | '\n' :: rest => set rest
  | '\r' :: '\n' :: rest => set rest
  | _ => failure

/-- The end of a line: blanks, an optional comment, then a line break or the end. -/
def lineEnd : Parser Unit := do
  blanks
  comment
  lineBreak

/-- Skip blanks, comments and line breaks, as allowed inside arrays. -/
def gaps : Nat → Parser Unit
  | 0 => pure ()
  | fuel + 1 => do
    blanks
    match ← get with
    | '#' :: _ => comment; gaps fuel
    | '\n' :: rest => set rest; gaps fuel
    | '\r' :: '\n' :: rest => set rest; gaps fuel
    | _ => pure ()

/-- The value of a hexadecimal digit. -/
def hexDigit (c : Char) : Option Nat :=
  if '0' ≤ c ∧ c ≤ '9' then some (c.toNat - 48)
  else if 'a' ≤ c ∧ c ≤ 'f' then some (c.toNat - 87)
  else if 'A' ≤ c ∧ c ≤ 'F' then some (c.toNat - 55)
  else none

/-- A code point from hexadecimal digits, when it is a character. -/
def codePoint (ds : List Char) : Option Char := do
  let n ← ds.foldlM (fun acc c => (acc * 16 + ·) <$> hexDigit c) 0
  if n < 0xD800 ∨ (0xDFFF < n ∧ n ≤ 0x10FFFF) then some (Char.ofNat n) else none

/-- An escape after its backslash: the character and what follows. -/
def escape : List Char → Option (Char × List Char)
  | 'b' :: r => some ('\x08', r)
  | 't' :: r => some ('\t', r)
  | 'n' :: r => some ('\n', r)
  | 'f' :: r => some ('\x0C', r)
  | 'r' :: r => some ('\r', r)
  | '"' :: r => some ('"', r)
  | '\\' :: r => some ('\\', r)
  | 'u' :: r => do let c ← codePoint (r.take 4); if r.length < 4 then none else some (c, r.drop 4)
  | 'U' :: r => do let c ← codePoint (r.take 8); if r.length < 8 then none else some (c, r.drop 8)
  | _ => none

/-- Whether a character may stand unescaped in a basic string. -/
def isBasicChar (c : Char) : Bool :=
  c = '\t' || (c.toNat ≥ 0x20 && c != '"' && c != '\\' && c.toNat != 0x7F)

/-- Whether a character may stand in a literal string. -/
def isLiteralChar (c : Char) : Bool :=
  c = '\t' || (c.toNat ≥ 0x20 && c != '\x27' && c.toNat != 0x7F)

/-- The rest of a basic string after its opening quote. -/
def basicRest : Nat → List Char → List Char → Option (String × List Char)
  | 0, _, _ => none
  | _, _, [] => none
  | _ + 1, acc, '"' :: r => some (String.ofList acc.reverse, r)
  | fuel + 1, acc, '\\' :: r => do
    let (c, r) ← escape r
    basicRest fuel (c :: acc) r
  | fuel + 1, acc, c :: r => if isBasicChar c then basicRest fuel (c :: acc) r else none

/-- The rest of a literal string after its opening quote. -/
def literalRest (acc : List Char) : List Char → Option (String × List Char)
  | [] => none
  | '\x27' :: r => some (String.ofList acc.reverse, r)
  | c :: r => if isLiteralChar c then literalRest (c :: acc) r else none

/-- Drop a line break right after the opening delimiter of a multi-line string. -/
def dropFirstBreak : List Char → List Char
  | '\n' :: r => r
  | '\r' :: '\n' :: r => r
  | r => r

/-- Skip blanks and line breaks after a line-ending backslash. -/
def skipFolded : List Char → List Char
  | ' ' :: r | '\t' :: r | '\n' :: r => skipFolded r
  | '\r' :: '\n' :: r => skipFolded r
  | r => r

/-- Whether a text starts with a line break after blanks. -/
def breaksAfterBlanks (r : List Char) : Bool :=
  match r.dropWhile isBlank with
  | '\n' :: _ | '\r' :: '\n' :: _ => true
  | _ => false

/-- The rest of a multi-line basic string after its opening delimiter. -/
def multiBasicRest : Nat → List Char → List Char → Option (String × List Char)
  | 0, _, _ => none
  | _, _, [] => none
  | _ + 1, acc, '"' :: '"' :: '"' :: r =>
    match r with
    | '"' :: '"' :: r' => some (String.ofList ('"' :: '"' :: acc).reverse, r')
    | '"' :: r' => some (String.ofList ('"' :: acc).reverse, r')
    | _ => some (String.ofList acc.reverse, r)
  | fuel + 1, acc, '\\' :: r =>
    if breaksAfterBlanks r then multiBasicRest fuel acc (skipFolded r)
    else do
      let (c, r) ← escape r
      multiBasicRest fuel (c :: acc) r
  | fuel + 1, acc, '\n' :: r => multiBasicRest fuel ('\n' :: acc) r
  | fuel + 1, acc, '\r' :: '\n' :: r => multiBasicRest fuel ('\n' :: acc) r
  | fuel + 1, acc, c :: r =>
    if c = '"' || isBasicChar c then multiBasicRest fuel (c :: acc) r else none

/-- The rest of a multi-line literal string after its opening delimiter. -/
def multiLiteralRest (acc : List Char) : List Char → Option (String × List Char)
  | [] => none
  | '\x27' :: '\x27' :: '\x27' :: r =>
    match r with
    | '\x27' :: '\x27' :: r' => some (String.ofList ('\x27' :: '\x27' :: acc).reverse, r')
    | '\x27' :: r' => some (String.ofList ('\x27' :: acc).reverse, r')
    | _ => some (String.ofList acc.reverse, r)
  | '\n' :: r => multiLiteralRest ('\n' :: acc) r
  | '\r' :: '\n' :: r => multiLiteralRest ('\n' :: acc) r
  | c :: r => if c = '\x27' || isLiteralChar c then multiLiteralRest (c :: acc) r else none

/-- Whether a character may stand in a bare key. -/
def isBareKeyChar (c : Char) : Bool := c.isAlphanum || c = '_' || c = '-'

/-- One part of a key: bare, or a one-line quoted string. -/
def keyPart : Parser String := do
  let cs ← get
  match cs with
  | '"' :: r =>
    let some (s, r) := basicRest (r.length + 1) [] r | failure
    set r
    pure s
  | '\x27' :: r =>
    let some (s, r) := literalRest [] r | failure
    set r
    pure s
  | _ =>
    let bare := cs.takeWhile isBareKeyChar
    if bare.isEmpty then failure
    set (cs.drop bare.length)
    pure (String.ofList bare)

/-- More parts of a dotted key. -/
def keyParts : Nat → Parser (List String)
  | 0 => failure
  | fuel + 1 => do
    blanks
    match ← get with
    | '.' :: rest =>
      set rest
      blanks
      let k ← keyPart
      return k :: (← keyParts fuel)
    | _ => pure []

/-- How deep arrays and inline tables may nest, and how many parts a key may have: both
must stay below it. -/
def nestingLimit : Nat := 80

/-- A key, possibly dotted: its parts in order, at least one and fewer than the limit. -/
def key : Parser (List String) := do
  let k ← keyPart
  let fuel := (← get).length + 1
  let parts := k :: (← keyParts fuel)
  if parts.length ≥ nestingLimit then failure
  return parts

/-- Whether text is digits with single underscores between them, by a digit test. -/
def groupedDigits (isDigit : Char → Bool) (cs : List Char) : Bool :=
  !cs.isEmpty && cs.head? != some '_' && cs.getLast? != some '_' &&
    cs.all (fun c => isDigit c || c = '_') &&
    !((cs.zip cs.tail).any fun (a, b) => a = '_' && b = '_')

/-- The value of grouped digits in a radix. -/
def groupedValue (radix : Nat) (cs : List Char) : Nat :=
  (cs.filter (· != '_')).foldl (fun acc c => acc * radix + (hexDigit c).getD 0) 0

/-- The exponent written after `e`: grouped digits with an optional sign. -/
def exponentValue : List Char → Int
  | '-' :: ds => -(groupedValue 10 ds : Int)
  | '+' :: ds => groupedValue 10 ds
  | ds => groupedValue 10 ds

/-- Whether text is a decimal integer without a sign and without leading zeros. -/
def isDecimal (cs : List Char) : Bool :=
  groupedDigits Char.isDigit cs && (cs.head? != some '0' || cs = ['0'])

/-- The largest integer. -/
def intMax : Nat := Nat.pow 2 63 - 1

/-- A number: an integer or a float. -/
def number (token : List Char) : Option TomlValue := do
  let (negative, body) := match token with
    | '+' :: r => (false, r)
    | '-' :: r => (true, r)
    | r => (false, r)
  let signed := token.head? == some '+' || token.head? == some '-'
  if body = ['i', 'n', 'f'] || body = ['n', 'a', 'n'] then return .float
  let radixed (radix : Nat) (digits : List Char) : Option TomlValue := do
    if signed then none
    if !groupedDigits (fun c => (hexDigit c).any (· < radix)) digits then none
    let n := groupedValue radix digits
    if n > intMax then none else some (.int n)
  match body with
  | '0' :: 'x' :: ds => radixed 16 ds
  | '0' :: 'o' :: ds => radixed 8 ds
  | '0' :: 'b' :: ds => radixed 2 ds
  | _ =>
    let intPart := body.takeWhile fun c => c != '.' && c != 'e' && c != 'E'
    let rest := body.drop intPart.length
    if !isDecimal intPart then none
    if rest.isEmpty then
      let n := groupedValue 10 intPart
      if negative then (if n > intMax + 1 then none else some (.int (-(n : Int))))
      else if n > intMax then none else some (.int n)
    else
      let (frac, expo) := match rest with
        | '.' :: r => (some (r.takeWhile fun c => c != 'e' && c != 'E'),
                       r.dropWhile fun c => c != 'e' && c != 'E')
        | r => (none, r)
      let fracOk := match frac with
        | some f => groupedDigits Char.isDigit f
        | none => true
      let expoOk := match expo with
        | [] => true
        | e :: r =>
          (e = 'e' || e = 'E') &&
            match r with
            | '+' :: ds | '-' :: ds => groupedDigits Char.isDigit ds
            | ds => groupedDigits Char.isDigit ds
      if !(fracOk && expoOk) then none
      let fracDigits := (frac.getD []).filter (· != '_')
      let digits := ((intPart ++ fracDigits).filter (· != '_')).map (·.toNat - 48)
      let exponent := exponentValue (expo.drop 1) - fracDigits.length
      if !negative && Decimal.roundsPastFinite digits exponent then none
      some .float

/-- Whether characters are all decimal digits, and as many as given. -/
def digitsOf (n : Nat) (cs : List Char) : Bool := cs.length = n && cs.all Char.isDigit

/-- The value of decimal digits. -/
def decimalValue (cs : List Char) : Nat := cs.foldl (fun acc c => acc * 10 + (c.toNat - 48)) 0

/-- Days in a month of a year. -/
def monthDays (y m : Nat) : Nat :=
  if m = 2 then (if (y % 4 = 0 ∧ y % 100 ≠ 0) ∨ y % 400 = 0 then 29 else 28)
  else if m = 4 ∨ m = 6 ∨ m = 9 ∨ m = 11 then 30 else 31

/-- Whether text is a date `YYYY-MM-DD`. -/
def isDate (cs : List Char) : Bool :=
  match cs with
  | [y1, y2, y3, y4, '-', m1, m2, '-', d1, d2] =>
    digitsOf 4 [y1, y2, y3, y4] && digitsOf 2 [m1, m2] && digitsOf 2 [d1, d2] &&
      let y := decimalValue [y1, y2, y3, y4]
      let m := decimalValue [m1, m2]
      let d := decimalValue [d1, d2]
      1 ≤ m && m ≤ 12 && 1 ≤ d && d ≤ monthDays y m
  | _ => false

/-- Whether text is a time `HH:MM:SS` with an optional fraction. -/
def isTime (cs : List Char) : Bool :=
  match cs with
  | h1 :: h2 :: ':' :: m1 :: m2 :: ':' :: s1 :: s2 :: frac =>
    digitsOf 2 [h1, h2] && digitsOf 2 [m1, m2] && digitsOf 2 [s1, s2] &&
      decimalValue [h1, h2] ≤ 23 && decimalValue [m1, m2] ≤ 59 && decimalValue [s1, s2] ≤ 60 &&
      match frac with
      | [] => true
      | '.' :: ds => !ds.isEmpty && ds.all Char.isDigit
      | _ => false
  | _ => false

/-- Whether text is a zone offset: `Z` or `±HH:MM`. -/
def isOffset (cs : List Char) : Bool :=
  match cs with
  | ['Z'] | ['z'] => true
  | [s, h1, h2, ':', m1, m2] =>
    (s = '+' || s = '-') && digitsOf 2 [h1, h2] && digitsOf 2 [m1, m2] &&
      decimalValue [h1, h2] ≤ 23 && decimalValue [m1, m2] ≤ 59
  | _ => false

/-- Whether text is a date, a time, or a date and time with an optional offset. -/
def isDatetime (cs : List Char) : Bool :=
  if cs.length ≥ 3 && cs.getD 2 ' ' = ':' then isTime cs
  else
    let date := cs.take 10
    let rest := cs.drop 10
    isDate date &&
      match rest with
      | [] => true
      | d :: timeAndOffset =>
        (d = 'T' || d = 't' || d = ' ') &&
          let time := timeAndOffset.takeWhile fun c => c != 'Z' && c != 'z' && c != '+' && c != '-'
          let offset := timeAndOffset.drop time.length
          isTime time && (offset.isEmpty || isOffset offset)

/-- Whether a character may stand in a number, date or time. -/
def isScalarChar (c : Char) : Bool := c.isAlphanum || c = '+' || c = '-' || c = '_' || c = '.' || c = ':'

/-- A number, date or time. -/
def scalar : Parser TomlValue := do
  let cs ← get
  let token := cs.takeWhile isScalarChar
  let rest := cs.drop token.length
  -- a date may be followed by a blank and a time
  let (token, rest) := match rest with
    | ' ' :: r =>
      let more := r.takeWhile isScalarChar
      if isDate token && more.length ≥ 3 && more.getD 2 ' ' = ':' then
        (token ++ ' ' :: more, r.drop more.length)
      else (token, rest)
    | _ => (token, rest)
  if token.isEmpty then failure
  let looksDated := (token.length ≥ 5 && token.getD 4 ' ' = '-' && (token.take 4).all Char.isDigit) ||
    (token.length ≥ 3 && token.getD 2 ' ' = ':')
  let v ← if looksDated then
      (if isDatetime token then pure (.datetime (String.ofList token)) else failure)
    else match number token with
      | some v => pure v
      | none => failure
  set rest
  pure v

mutual
/-- A value inside `depth` arrays and inline tables. -/
def value (depth : Nat) : Nat → Parser TomlValue
  | 0 => failure
  | fuel + 1 => do
    let cs ← get
    match cs with
    | '"' :: '"' :: '"' :: r =>
      let some (s, r) := multiBasicRest (r.length + 1) [] (dropFirstBreak r) | failure
      set r
      pure (.str s)
    | '"' :: r =>
      let some (s, r) := basicRest (r.length + 1) [] r | failure
      set r
      pure (.str s)
    | '\x27' :: '\x27' :: '\x27' :: r =>
      let some (s, r) := multiLiteralRest [] (dropFirstBreak r) | failure
      set r
      pure (.str s)
    | '\x27' :: r =>
      let some (s, r) := literalRest [] r | failure
      set r
      pure (.str s)
    | '[' :: r =>
      if depth + 1 ≥ nestingLimit then failure
      set r
      .array <$> arrayItems (depth + 1) fuel
    | '\x7b' :: r =>
      if depth + 1 ≥ nestingLimit then failure
      set r
      inlineTable (depth + 1) fuel
    | 't' :: 'r' :: 'u' :: 'e' :: r =>
      set r
      pure (.bool true)
    | 'f' :: 'a' :: 'l' :: 's' :: 'e' :: r =>
      set r
      pure (.bool false)
    | _ => scalar

/-- The items of an array after its opening bracket, up to its closing bracket; the
array is the innermost of `depth`. -/
def arrayItems (depth : Nat) : Nat → Parser (List TomlValue)
  | 0 => failure
  | fuel + 1 => do
    gaps fuel
    match ← get with
    | ']' :: r => set r; pure []
    | _ =>
      let v ← value depth fuel
      gaps fuel
      match ← get with
      | ',' :: r =>
        set r
        return v :: (← arrayItems depth fuel)
      | ']' :: r => set r; pure [v]
      | _ => failure

/-- The key and value pairs of an inline table, after its opening brace; the table is the
innermost of `depth`. -/
def inlinePairs (depth : Nat) : Nat → Parser (List (List String × TomlValue))
  | 0 => failure
  | fuel + 1 => do
    blanks
    let k ← key
    blanks
    expect '='
    blanks
    let v ← value depth fuel
    blanks
    match ← get with
    | ',' :: r =>
      set r
      return (k, v) :: (← inlinePairs depth fuel)
    | '\x7d' :: r => set r; pure [(k, v)]
    | _ => failure

/-- An inline table after its opening brace, the innermost of `depth`. -/
def inlineTable (depth : Nat) : Nat → Parser TomlValue
  | 0 => failure
  | fuel + 1 => do
    blanks
    let pairs ← match ← get with
      | '\x7d' :: r => do set r; pure []
      | _ => inlinePairs depth fuel
    let built := pairs.foldlM (fun t (k, v) => setKey k.dropLast (k.getLastD "") v t) (false, false, [])
    match built with
    | some (_, _, es) => pure (Node.table false false es).value
    | none => failure
end

/-- A line holding a key and value, applied to the document under the current header. -/
def keyValueLine (fuel : Nat) (header : List String) (doc : Reached) : Parser Reached := do
  let k ← key
  blanks
  expect '='
  blanks
  let v ← value 0 fuel
  lineEnd
  match setKeyUnder header k.dropLast (k.getLastD "") v doc with
  | some doc => pure doc
  | none => failure

/-- The lines of a document, with the current header and the document so far. -/
def lines : Nat → List String → Reached → Parser Reached
  | 0, _, _ => failure
  | fuel + 1, header, doc => do
    blanks
    match ← get with
    | [] => pure doc
    | '\n' :: r => set r; lines fuel header doc
    | '\r' :: '\n' :: r => set r; lines fuel header doc
    | '#' :: _ => lineEnd; lines fuel header doc
    | '[' :: '[' :: r =>
      set r
      blanks
      let path ← key
      blanks
      expect ']'
      expect ']'
      lineEnd
      let some doc := appendTable path.dropLast (path.getLastD "") doc | failure
      lines fuel path doc
    | '[' :: r =>
      set r
      blanks
      let path ← key
      blanks
      expect ']'
      lineEnd
      let some doc := openTable path.dropLast (path.getLastD "") doc | failure
      lines fuel path doc
    | _ =>
      let doc ← keyValueLine fuel header doc
      lines fuel header doc

/-- Read a TOML document as JSON; none when it is not valid TOML. -/
def read (text : String) : Option Json.Value :=
  let cs := match text.toList with
    | '\uFEFF' :: r => r
    | r => r
  match (lines (cs.length + 2) [] (false, false, []) : Parser Reached).run cs with
  | some ((_, _, es), _) => some (Node.table false false es).value.toJson
  | none => none

/-- Read a TOML document as JSON, or refuse a text that is not valid TOML, without saying
where it fails. -/
def readDocument (text : String) : Except String Json.Value :=
  match read text with
  | some doc => .ok doc
  | none => .error "invalid TOML document"

end NetReconcile.Toml
