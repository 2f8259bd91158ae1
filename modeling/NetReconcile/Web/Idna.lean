import NetReconcile.Web.Punycode
import NetReconcile.Web.Idna.Status
import NetReconcile.Unicode.Normalization
import NetReconcile.Unicode.Category
import NetReconcile.Unicode.Bidi
import NetReconcile.Unicode.Joining

/-!
# Domain names to ASCII

A host name is brought to its ASCII form by the compatibility processing of Unicode
IDNA, nontransitional and without hyphen or length checks:

1. every code point is mapped by its status: kept, replaced, dropped, or refused; a code
   point that the tables leave unassigned is kept, as a later version may assign it;
2. code points that may not stand in a URL host are refused: controls, the space, delete
   and `% # / : < > ? @ [ \ ] ^ |`;
3. the result is put in Normalization Form C and cut into labels at full stops;
4. a label in Punycode (`xn--`) must be ASCII and decode to code points that are valid,
   not all ASCII, already normalized, and none of them refused or a full stop; the label
   is then checked as the code points it stands for, and written as it is;
5. no label may begin with a mark;
6. a zero width joiner must follow a virama; a zero width non-joiner must follow a
   virama, or stand between a code point joining to the left and one joining to the
   right, with only transparent code points between;
7. when some label holds a right-to-left code point, every label must keep its
   direction: a left-to-right label starts left-to-right, holds no right-to-left code
   points, and ends in a left-to-right letter or a digit before its marks; a
   right-to-left label starts right-to-left, holds no left-to-right letters, ends in a
   right-to-left code point or a digit before its marks, and does not mix European and
   Arabic digits;
8. a label with code points beyond ASCII is written in Punycode after `xn--`; a label in
   Punycode, written or read, stands for at most 1000 code points.
-/

namespace NetReconcile.Web.Idna

open Unicode

/-- The ASCII code points a URL host may not hold. -/
def deniedAscii (n : Nat) : Bool :=
  n ≤ 0x20 || n = 0x7F || "%#/:<>?@[\\]^|".toList.any (·.toNat = n)

/-- The code points one code point maps to, or none when it is refused. -/
def mapPoint (cp : Nat) : Option (List Nat) :=
  match status cp with
  | .valid => some [cp]
  | .mapped points => some points
  | .ignored => some []
  | .disallowed => none

/-- The code points of a name after mapping and normalization, or none when one is
refused. -/
def mapName (cps : List Nat) : Option (List Nat) := do
  let mapped := (← cps.mapM mapPoint).flatten
  if mapped.any fun n => n < 0x80 && deniedAscii n then none
  some (nfc mapped)

/-- Split code points into labels at full stops. -/
def splitLabels : List Nat → List (List Nat)
  | [] => [[]]
  | n :: rest =>
    match splitLabels rest with
    | [] => [[]]
    | label :: labels => if n = 0x2E then [] :: label :: labels else (n :: label) :: labels

/-- Whether a label starts with `xn--`. -/
def isPunycodeLabel (label : List Nat) : Bool := label.take 4 == [0x78, 0x6E, 0x2D, 0x2D]

/-- Whether a code point may stand in a label decoded from Punycode: an ASCII code point
that a host may hold and that is not a full stop, or a valid code point beyond ASCII. -/
def decodedPointAllowed (cp : Nat) : Bool :=
  if cp < 0x80 then !deniedAscii cp && cp != 0x2E && status cp == .valid
  else status cp == .valid

/-- The code points a label in Punycode stands for, or none when it is invalid. -/
def decodeLabel (label : List Nat) : Option (List Nat) := do
  let body := label.drop 4
  if !body.all (· < 0x80) then none
  let decoded := (← Punycode.decode (body.map Char.ofNat)).map Char.toNat
  if decoded.all (· < 0x80) then none
  if !isNfc decoded then none
  if !decoded.all decodedPointAllowed then none
  some decoded

/-- Whether a label starts with a mark. -/
def startsWithMark (label : List Nat) : Bool :=
  match label with
  | cp :: _ => isMark cp
  | [] => false

/-- The first code point that is not transparent to joining. -/
def firstJoining (cps : List Nat) : Option JoiningType :=
  (cps.dropWhile (joiningType · == .transparent)).head?.map joiningType

/-- Whether a code point may stand between `before` (nearest first) and `after`: only
the joiners are restricted. -/
def joinerAllowed (before : List Nat) (cp : Nat) (after : List Nat) : Bool :=
  let afterVirama := match before with
    | p :: _ => isVirama p
    | [] => false
  if cp = 0x200D then afterVirama
  else if cp = 0x200C then
    afterVirama ||
      (firstJoining before == some .left || firstJoining before == some .dual) &&
      (firstJoining after == some .right || firstJoining after == some .dual)
  else true

/-- Whether every joiner of a label stands where it may, `before` holding the code points
read so far, nearest first. -/
def joinersAllowed (before : List Nat) : List Nat → Bool
  | [] => true
  | cp :: after => joinerAllowed before cp after && joinersAllowed (cp :: before) after

/-- Whether a code point is right-to-left or an Arabic digit: a name holding one must
keep the direction of every label. -/
def isRightToLeft (cp : Nat) : Bool :=
  match bidiClass cp with
  | .R | .AL | .AN => true
  | _ => false

/-- The classes a left-to-right label may hold. -/
def leftToRightAllowed : BidiClass → Bool
  | .L | .EN | .ES | .CS | .ET | .ON | .BN | .NSM => true
  | _ => false

/-- The classes a right-to-left label may hold. -/
def rightToLeftAllowed : BidiClass → Bool
  | .R | .AL | .AN | .EN | .ES | .CS | .ET | .ON | .BN | .NSM => true
  | _ => false

/-- The class of the last code point of a label that is not a mark. -/
def lastClass (classes : List BidiClass) : Option BidiClass :=
  (classes.reverse.dropWhile (· == .NSM)).head?

/-- Whether a label keeps its direction. An empty label has none to keep. -/
def keepsDirection (label : List Nat) : Bool :=
  let classes := label.map bidiClass
  match classes with
  | [] => true
  | .L :: _ =>
    classes.all leftToRightAllowed &&
      (lastClass classes == some .L || lastClass classes == some .EN)
  | .R :: _ | .AL :: _ =>
    classes.all rightToLeftAllowed &&
      (match lastClass classes with
        | some .R | some .AL | some .EN | some .AN => true
        | _ => false) &&
      !(classes.contains .EN && classes.contains .AN)
  | _ => false

/-- The most code points a label written in Punycode may stand for. -/
def punycodeLimit : Nat := 1000

/-- One label as the code points it stands for, with its ASCII form, or none when it is
invalid. -/
def readLabel (label : List Nat) : Option (List Nat × String) :=
  if isPunycodeLabel label then do
    let decoded ← decodeLabel label
    if decoded.length > punycodeLimit then none
    some (decoded, String.ofList (label.map Char.ofNat))
  else if label.all (· < 0x80) then some (label, String.ofList (label.map Char.ofNat))
  else if label.length > punycodeLimit then none
  else some (label, "xn--" ++ Punycode.encode (label.map Char.ofNat))

/-- Whether a label, as the code points it stands for, may stand in a name; `bidi` says
whether the name holds right-to-left code points. -/
def labelAllowed (bidi : Bool) (label : List Nat) : Bool :=
  !startsWithMark label && joinersAllowed [] label && (!bidi || keepsDirection label)

/-- The ASCII form of a domain name given as code points, or none when it is not a valid
domain name. -/
def nameToAscii (cps : List Nat) : Option String := do
  let labels ← (splitLabels (← mapName cps)).mapM readLabel
  let bidi := labels.any fun (l, _) => l.any isRightToLeft
  if !labels.all fun (l, _) => labelAllowed bidi l then none
  some (".".intercalate (labels.map (·.2)))

/-- The ASCII form of a domain name given as UTF-8 bytes, or none when it is not a valid
domain name. -/
def toAscii (bytes : List UInt8) : Option String := do
  let text ← String.fromUTF8? (ByteArray.mk bytes.toArray)
  nameToAscii (text.toList.map Char.toNat)

end NetReconcile.Web.Idna
