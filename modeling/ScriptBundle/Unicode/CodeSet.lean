import ScriptBundle.Text

/-!
# Sets of code points

A set of code points is a list of closed ranges.  The sets of the Unicode
character database are written as *runs*: the lengths, in hexadecimal, of the
stretches of code points outside and inside the set, taken in turn from zero.
-/

namespace ScriptBundle

/-- A set of code points as a list of closed ranges. -/
structure CodeSet where
  ranges : List (Nat × Nat)
deriving Repr, Inhabited, DecidableEq

namespace CodeSet

/-- The largest code point. -/
def last : Nat :=
  0x10ffff

def containsCode (set : CodeSet) (code : Nat) : Bool :=
  set.ranges.any fun range => range.1 ≤ code && code ≤ range.2

def contains (set : CodeSet) (character : Char) : Bool :=
  set.containsCode character.toNat

/-- The set without members. -/
def empty : CodeSet :=
  ⟨[]⟩

def all : CodeSet :=
  ⟨[(0, last)]⟩

def range (low high : Nat) : CodeSet :=
  ⟨[(low, high)]⟩

def single (character : Char) : CodeSet :=
  range character.toNat character.toNat

/-- Add a range to ranges in ascending order, latest first, joining it to the
latest one where they touch. -/
def addRange (kept : List (Nat × Nat)) (next : Nat × Nat) : List (Nat × Nat) :=
  match kept with
  | [] => [next]
  | latest :: before =>
    if next.1 ≤ latest.2 + 1 then
      (latest.1, max latest.2 next.2) :: before
    else
      next :: kept

/-- The same set with its ranges in ascending order and none touching the
next. -/
def ordered (set : CodeSet) : CodeSet :=
  let sorted := set.ranges.mergeSort fun left right => left.1 ≤ right.1
  ⟨(sorted.foldl addRange []).reverse⟩

/-- The members of either set. -/
def union (left right : CodeSet) : CodeSet :=
  ordered ⟨left.ranges ++ right.ranges⟩

/-- The members of any of the sets. -/
def unionAll (sets : List CodeSet) : CodeSet :=
  ordered ⟨sets.flatMap CodeSet.ranges⟩

/-- The gaps between ascending ranges from the code point `start` on. -/
def gaps (start : Nat) : List (Nat × Nat) → List (Nat × Nat)
  | [] => if start ≤ last then [(start, last)] else []
  | range :: rest =>
    if start < range.1 then
      (start, range.1 - 1) :: gaps (range.2 + 1) rest
    else
      gaps (range.2 + 1) rest

def complement (set : CodeSet) : CodeSet :=
  ⟨gaps 0 set.ordered.ranges⟩

/-- The members of both sets. -/
def inter (left right : CodeSet) : CodeSet :=
  complement (union (complement left) (complement right))

/-- The members of the first set that are not in the second. -/
def difference (left right : CodeSet) : CodeSet :=
  inter left (complement right)

/-- The members of exactly one of the sets. -/
def symmetricDifference (left right : CodeSet) : CodeSet :=
  union (difference left right) (difference right left)

def rangesOfRuns (inside : Bool) (start : Nat) : List Nat → List (Nat × Nat)
  | [] => []
  | length :: rest =>
    let others := rangesOfRuns (!inside) (start + length) rest
    if inside then (start, start + length - 1) :: others else others

/-- The words of several lines, separated by spaces. -/
def wordsOf (lines : List String) : List (List Char) :=
  lines.flatMap fun line => Text.splitAt ' ' line.toList

def ofRuns (lines : List String) : CodeSet :=
  ⟨rangesOfRuns false 0 ((wordsOf lines).map fun run => (Digits.ofHex? run).getD 0)⟩

/-- Runs that carry a label, as `(label, first, last)`.  Each is written as a
label of letters that starts with a capital, followed by the length of the
run; the runs cover all code points in order. -/
def labelledRanges (labelWidth start : Nat) :
    List (List Char) → List (List Char × Nat × Nat)
  | [] => []
  | run :: rest =>
    let label := run.take labelWidth
    let length := (Digits.ofHex? (run.drop labelWidth)).getD 0
    (label, start, start + length - 1) :: labelledRanges labelWidth (start + length) rest

end CodeSet

end ScriptBundle
