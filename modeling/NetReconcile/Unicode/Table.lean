/-!
# Tables of code points

A property of code points is given as a table of ranges, written compactly as lines of
text: entries are separated by `;`, and an entry is a code point or a range `lo-hi` in
hexadecimal, followed by `:value` when the table carries values. Reading the text gives
the entries in order of their first code point; a lookup finds the entry holding a code
point by halving the table, which needs the entries sorted and disjoint, as every table
of the library is written.

A step table is written the same way with single code points only: each entry holds
from its code point up to the next entry's.
-/

namespace NetReconcile.Unicode

/-- The value of a hexadecimal digit, zero for any other character. -/
def hexDigit (c : Char) : Nat :=
  if '0' ≤ c ∧ c ≤ '9' then c.toNat - 48
  else if 'A' ≤ c ∧ c ≤ 'F' then c.toNat - 55
  else if 'a' ≤ c ∧ c ≤ 'f' then c.toNat - 87
  else 0

/-- The number written in hexadecimal. -/
def hexNumber (s : String) : Nat := s.toList.foldl (fun acc c => acc * 16 + hexDigit c) 0

/-- A range of code points with a value. -/
structure Entry (α : Type) where
  lo : Nat
  hi : Nat
  value : α

/-- One entry from its text: a range or a code point, then the text of its value. -/
def readEntry (text : String) : Entry String :=
  let (range, value) := match text.splitOn ":" with
    | r :: v :: _ => (r, v)
    | r :: [] => (r, "")
    | [] => ("", "")
  match range.splitOn "-" with
  | lo :: hi :: _ => ⟨hexNumber lo, hexNumber hi, value⟩
  | _ => ⟨hexNumber range, hexNumber range, value⟩

/-- The entries written on lines of text. -/
def entryTexts (lines : List String) : List String :=
  (lines.flatMap (·.splitOn ";")).filter (!·.isEmpty)

/-- A table from its lines of text, each value read by `f`. -/
def readTable (f : String → α) (lines : List String) : Array (Entry α) :=
  (entryTexts lines).toArray.map fun t =>
    let e := readEntry t
    ⟨e.lo, e.hi, f e.value⟩

/-- Code points written in hexadecimal and separated by blanks. -/
def readPoints (text : String) : List Nat :=
  ((text.splitOn " ").filter (!·.isEmpty)).map hexNumber

/-- How many entries of `[lo, hi)` start at or below `key`, added to `lo`: the first
position whose entry starts above `key`. -/
def countAtMost (t : Array (Entry α)) (key : Nat) : Nat → Nat → Nat → Nat
  | 0, lo, _ => lo
  | fuel + 1, lo, hi =>
    if lo < hi then
      let mid := lo + (hi - lo) / 2
      match t[mid]? with
      | some e => if e.lo ≤ key then countAtMost t key fuel (mid + 1) hi
        else countAtMost t key fuel lo mid
      | none => lo
    else lo

/-- The last entry starting at or below a code point. -/
def lastStartingAtMost (t : Array (Entry α)) (cp : Nat) : Option (Entry α) :=
  match countAtMost t cp (t.size + 1) 0 t.size with
  | 0 => none
  | n + 1 => t[n]?

/-- The value of the range holding a code point. -/
def lookup (t : Array (Entry α)) (cp : Nat) : Option α :=
  match lastStartingAtMost t cp with
  | some e => if cp ≤ e.hi then some e.value else none
  | none => none

/-- The value of the step holding a code point. -/
def lookupStep (t : Array (Entry α)) (cp : Nat) : Option α :=
  (lastStartingAtMost t cp).map (·.value)

/-- Whether a range holds a code point. -/
def contains (t : Array (Entry Unit)) (cp : Nat) : Bool := (lookup t cp).isSome

end NetReconcile.Unicode
