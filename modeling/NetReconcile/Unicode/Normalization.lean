import NetReconcile.Unicode.CombiningClass
import NetReconcile.Unicode.Decomposition

/-!
# Normalization Form C

Text in Normalization Form C is composed as far as canonical equivalence allows. It is
reached in three steps:

1. every code point is replaced by its full canonical decomposition;
2. each run of marks between starters is sorted by combining class, keeping the order
   of marks of one class;
3. from the left, a mark or starter composes with the last starter when the pair has a
   composite and nothing between them blocks it: the mark right before it has a lower
   class, or there is none (it follows the starter directly).

Text that begins with marks has no starter for them, so they stay as they are.
-/

namespace NetReconcile.Unicode

/-- The full canonical decomposition of a code point, with a bound on the depth. Four
steps suffice for every code point. -/
def decomposeWith : Nat → Nat → List Nat
  | 0, cp => [cp]
  | fuel + 1, cp =>
    match decomposition? cp with
    | some parts => parts.flatMap (decomposeWith fuel)
    | none => [cp]

/-- The full canonical decomposition of a code point. -/
def decompose (cp : Nat) : List Nat := decomposeWith 8 cp

/-- A run of marks sorted by combining class, marks of one class keeping their order. -/
def sortMarks (run : List Nat) : List Nat :=
  run.mergeSort fun a b => combiningClass a ≤ combiningClass b

/-- Sort every run of marks, `run` holding the marks read so far since the last starter. -/
def orderMarks (run : List Nat) : List Nat → List Nat
  | [] => sortMarks run
  | cp :: rest =>
    if combiningClass cp = 0 then sortMarks run ++ cp :: orderMarks [] rest
    else orderMarks (run ++ [cp]) rest

/-- Text decomposed and with its marks in canonical order. -/
def canonicalDecomposition (cps : List Nat) : List Nat :=
  orderMarks [] (cps.flatMap decompose)

/-- The state of composition: the finished code points in reverse, the last starter if
one was seen, the code points after it in reverse, and the class of the last of those
(zero when the starter is last). -/
structure Composer where
  done : List Nat
  starter : Option Nat
  after : List Nat
  lastClass : Nat

namespace Composer

/-- Composition before any code point. -/
def start : Composer := ⟨[], none, [], 0⟩

/-- Take one more code point. -/
def push (s : Composer) (cp : Nat) : Composer :=
  let cls := combiningClass cp
  let composite := match s.starter with
    | some st => if s.lastClass < cls ∨ s.lastClass = 0 then composition? st cp else none
    | none => none
  match composite with
  | some c => { s with starter := some c }
  | none =>
    if cls = 0 then
      let done := match s.starter with
        | some st => s.after ++ st :: s.done
        | none => s.after ++ s.done
      ⟨done, some cp, [], 0⟩
    else { s with after := cp :: s.after, lastClass := cls }

/-- The composed text. -/
def finish (s : Composer) : List Nat :=
  (match s.starter with
    | some st => s.after ++ st :: s.done
    | none => s.after ++ s.done).reverse

end Composer

/-- Compose text that is decomposed and in canonical order. -/
def compose (cps : List Nat) : List Nat := (cps.foldl Composer.push Composer.start).finish

/-- Text in Normalization Form C. -/
def nfc (cps : List Nat) : List Nat := compose (canonicalDecomposition cps)

/-- Whether text is already in Normalization Form C. -/
def isNfc (cps : List Nat) : Bool := nfc cps == cps

end NetReconcile.Unicode
