import NetReconcile.Web.Idna

/-!
# Hosts of URLs

A host is a domain name, an IPv4 address, an IPv6 address, or, for a scheme without
special meaning, an opaque name kept as written.

A host of a special scheme is read as follows: in brackets it must be an IPv6 address;
otherwise it is percent-decoded and brought to its ASCII form, and when its last label
is a number it must be an IPv4 address. IPv4 parts may be decimal, octal (a leading
`0`) or hexadecimal (a leading `0x`), and the last part fills the bytes the others leave.

An IPv6 address is written in lowercase hexadecimal with the longest run of two or more
zero pieces (the first of equal runs) shortened to `::`.
-/

namespace NetReconcile.Web

/-- Why a URL cannot be read. -/
inductive UrlError where
  | emptyHost
  | idna
  | invalidPort
  | invalidIpv4
  | invalidIpv6
  | invalidDomainCharacter
  | relativeWithoutBase
  deriving DecidableEq, Repr

/-- The text of a URL error. -/
def UrlError.message : UrlError → String
  | .emptyHost => "empty host"
  | .idna => "invalid international domain name"
  | .invalidPort => "invalid port number"
  | .invalidIpv4 => "invalid IPv4 address"
  | .invalidIpv6 => "invalid IPv6 address"
  | .invalidDomainCharacter => "invalid domain character"
  | .relativeWithoutBase => "relative URL without a base"

/-- A host of a URL. -/
inductive Host where
  /-- A domain name in ASCII, or an opaque host as written. -/
  | domain (name : String)
  /-- An IPv4 address as a 32-bit number. -/
  | ipv4 (addr : Nat)
  /-- An IPv6 address as eight 16-bit pieces. -/
  | ipv6 (pieces : List Nat)
  deriving DecidableEq, Repr

/-- The value of a hexadecimal digit. -/
def hexValue (c : Char) : Option Nat :=
  if '0' ≤ c ∧ c ≤ '9' then some (c.toNat - 48)
  else if 'a' ≤ c ∧ c ≤ 'f' then some (c.toNat - 87)
  else if 'A' ≤ c ∧ c ≤ 'F' then some (c.toNat - 55)
  else none

/-- The number written by digits in a radix, or none when a digit is out of range. -/
def digitsValue (radix : Nat) (cs : List Char) : Option Nat :=
  cs.foldlM (fun acc c => do
    let d ← hexValue c
    if d < radix then some (acc * radix + d) else none) 0

/-- One part of an IPv4 address: decimal, octal after a leading `0`, hexadecimal after
`0x`. None when it is not a number; `some none` when it is a number that does not fit in
32 bits. -/
def ipv4Number (part : List Char) : Option (Option Nat) := do
  if part.isEmpty then none
  let (radix, digits) := match part with
    | '0' :: 'x' :: rest | '0' :: 'X' :: rest => (16, rest)
    | '0' :: rest@(_ :: _) => (8, rest)
    | _ => (10, part)
  if digits.isEmpty then return some 0
  let n ← digitsValue radix digits
  return if n < Nat.pow 2 32 then some n else none

/-- Split a text at a separator. -/
def splitAt (sep : Char) : List Char → List (List Char)
  | [] => [[]]
  | c :: rest =>
    match splitAt sep rest with
    | [] => [[]]
    | part :: parts => if c = sep then [] :: part :: parts else (c :: part) :: parts

/-- Whether a domain's last label (ignoring one final empty label) is a number. -/
def endsInNumber (name : List Char) : Bool :=
  let parts := (splitAt '.' name).reverse
  let last := match parts with
    | [] :: next :: _ => some next
    | [] :: [] => none
    | last :: _ => some last
    | [] => none
  match last with
  | none => false
  | some l => (!l.isEmpty && l.all Char.isDigit) || (ipv4Number l).isSome

/-- An IPv4 address from its text. -/
def parseIpv4 (name : List Char) : Except UrlError Nat := do
  let parts := splitAt '.' name
  let parts := if parts.getLast? == some [] then parts.dropLast else parts
  if parts.length > 4 then throw .invalidIpv4
  let numbers ← parts.mapM fun p => match ipv4Number p with
    | some (some n) => .ok n
    | _ => .error .invalidIpv4
  let some last := numbers.getLast? | throw .invalidIpv4
  let front := numbers.dropLast
  if last ≥ Nat.pow 256 (4 - front.length) then throw .invalidIpv4
  if front.any (· > 255) then throw .invalidIpv4
  return (front.zipIdx.foldl (fun acc (n, i) => acc + n * Nat.pow 256 (3 - i)) last)

/-- Up to four hexadecimal digits: their value and how many were read. -/
def hexPiece : List Char → Nat → Nat → Nat × Nat × List Char
  | c :: rest, count, value =>
    match hexValue c with
    | some d => if count < 4 then hexPiece rest (count + 1) (value * 16 + d) else (value, count, c :: rest)
    | none => (value, count, c :: rest)
  | [], count, value => (value, count, [])

/-- The state of reading an IPv6 address: pieces so far, and where `::` stood. -/
structure Ipv6State where
  pieces : List Nat
  compress : Option Nat

/-- The slots of an address taken so far: one per piece, and one for `::`, which stands
for at least one zero piece. -/
def Ipv6State.slots (st : Ipv6State) : Nat :=
  st.pieces.length + (if st.compress.isSome then 1 else 0)

/-- The dotted IPv4 tail of an IPv6 address: its two pieces. -/
def ipv4Tail (cs : List Char) : Option (List Nat) := do
  let parts := splitAt '.' cs
  if parts.length != 4 then none
  let bytes ← parts.mapM fun p => do
    if p.isEmpty || !p.all Char.isDigit then none
    if p.length > 1 && p.head? == some '0' then none
    let n ← digitsValue 10 p
    if n > 255 then none else some n
  match bytes with
  | [a, b, c, d] => some [a * 256 + b, c * 256 + d]
  | _ => none

/-- Read the pieces of an IPv6 address after its start, `fuel` steps at most. -/
def ipv6Pieces : Nat → List Char → Ipv6State → Option Ipv6State
  | 0, _, _ => none
  | _, [], st => some st
  | fuel + 1, cs, st => do
    if st.slots = 8 then none
    match cs with
    | ':' :: rest =>
      if st.compress.isSome then none
      ipv6Pieces fuel rest { st with compress := some st.pieces.length }
    | _ =>
      let (value, count, rest) := hexPiece cs 0 0
      match rest with
      | '.' :: _ =>
        if count = 0 then none
        if st.slots > 6 then none
        let tail ← ipv4Tail cs
        some { st with pieces := st.pieces ++ tail }
      | ':' :: rest' =>
        if count = 0 then none
        if rest'.isEmpty then none
        ipv6Pieces fuel rest' { st with pieces := st.pieces ++ [value] }
      | [] =>
        if count = 0 then none
        some { st with pieces := st.pieces ++ [value] }
      | _ => none

/-- An IPv6 address from the text between its brackets. -/
def parseIpv6 (cs : List Char) : Except UrlError (List Nat) := do
  if cs.length < 2 then throw .invalidIpv6
  let (start, rest) ← match cs with
    | ':' :: ':' :: rest => pure (⟨[], some 0⟩, rest)
    | ':' :: _ => throw .invalidIpv6
    | _ => pure (⟨[], none⟩, cs)
  let some st := ipv6Pieces (cs.length + 1) rest start | throw .invalidIpv6
  if st.slots > 8 then throw .invalidIpv6
  match st.compress with
  | some at_ =>
    let fill := List.replicate (8 - st.pieces.length) 0
    return st.pieces.take at_ ++ fill ++ st.pieces.drop at_
  | none => if st.pieces.length = 8 then return st.pieces else throw .invalidIpv6

/-- The longest run of at least two zero pieces: its start and length. -/
def longestZeros (pieces : List Nat) : Option (Nat × Nat) :=
  let step (acc : Option (Nat × Nat) × Option Nat) (p : Nat × Nat) :=
    let (best, start) := acc
    let (piece, i) := p
    if piece = 0 then
      let s := start.getD i
      let len := i + 1 - s
      let best := match best with
        | some (_, l) => if len > l then some (s, len) else best
        | none => some (s, len)
      (best, some s)
    else (best, none)
  match (pieces.zipIdx.foldl step (none, none)).1 with
  | some (s, l) => if l ≥ 2 then some (s, l) else none
  | none => none

/-- Lowercase hexadecimal without leading zeros. -/
def hexText (n : Nat) : String := String.ofList (Nat.toDigits 16 n)

/-- The text of an IPv6 address, without brackets. -/
def ipv6Text (pieces : List Nat) : String :=
  match longestZeros pieces with
  | none => ":".intercalate (pieces.map hexText)
  | some (s, l) =>
    ":".intercalate ((pieces.take s).map hexText) ++ "::" ++
      ":".intercalate ((pieces.drop (s + l)).map hexText)

/-- The text of a host. -/
def Host.text : Host → String
  | .domain n => n
  | .ipv4 a => ".".intercalate ([3, 2, 1, 0].map fun i => toString (a / Nat.pow 256 i % 256))
  | .ipv6 ps => "[" ++ ipv6Text ps ++ "]"

/-- Percent-decode a text into bytes; a `%` not followed by two hexadecimal digits stays. -/
def percentDecode : List UInt8 → List UInt8
  | 0x25 :: a :: b :: rest =>
    match hexValue (Char.ofNat a.toNat), hexValue (Char.ofNat b.toNat) with
    | some x, some y => (x * 16 + y).toUInt8 :: percentDecode rest
    | _, _ => 0x25 :: percentDecode (a :: b :: rest)
  | b :: rest => b :: percentDecode rest
  | [] => []

/-- The host of a special scheme. -/
def parseHost (input : List Char) : Except UrlError Host := do
  if input.head? == some '[' then
    if input.getLast? != some ']' then throw .invalidIpv6
    return .ipv6 (← parseIpv6 ((input.drop 1).dropLast))
  let bytes := percentDecode (String.ofList input).toUTF8.toList
  let some name := Idna.toAscii bytes | throw .idna
  if name.isEmpty then throw .emptyHost
  if endsInNumber name.toList then return .ipv4 (← parseIpv4 name.toList)
  return .domain name

/-- The bytes of a character as `%XX` escapes, in uppercase hexadecimal. -/
def percentEscapes (c : Char) : String :=
  let hex (n : Nat) : Char := if n < 10 then Char.ofNat (48 + n) else Char.ofNat (55 + n)
  String.join ((String.singleton c).toUTF8.toList.map fun b =>
    String.ofList ['%', hex (b.toNat / 16), hex (b.toNat % 16)])

/-- Percent-encode the characters a set selects; characters beyond ASCII always are. -/
def percentEncode (set : Char → Bool) (cs : List Char) : String :=
  String.join (cs.map fun c => if c.toNat ≥ 0x80 || set c then percentEscapes c else String.singleton c)

/-- Controls: the C0 controls and delete. -/
def controlSet (c : Char) : Bool := c.toNat < 0x20 || c.toNat = 0x7F

/-- The host of a scheme without special meaning, kept as written. -/
def parseOpaqueHost (input : List Char) : Except UrlError Host := do
  if input.head? == some '[' then
    if input.getLast? != some ']' then throw .invalidIpv6
    return .ipv6 (← parseIpv6 ((input.drop 1).dropLast))
  if input.any (fun c => "\x00\t\n\r #/:<>?@[\\]^|".toList.contains c) then
    throw .invalidDomainCharacter
  return .domain (percentEncode controlSet input)

end NetReconcile.Web
