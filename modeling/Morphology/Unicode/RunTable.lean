/-!
# Tables over code points

Character properties are step functions on the code points: they change at a few thousand
places and are constant in between. A table holds the places of change in increasing order, so
that a question is answered by one binary search. Tables are written as text: the code points
in hexadecimal, the entries apart by blanks and line ends.
-/

namespace Morphology.Unicode

/-- The first index in `lo..hi` whose entry exceeds `n`, for entries that increase. -/
def firstAbove (entries : Array Nat) (n lo hi : Nat) : Nat :=
  if lo < hi then
    let mid := lo + (hi - lo) / 2
    if entries.getD mid 0 ≤ n then firstAbove entries n (mid + 1) hi
    else firstAbove entries n lo mid
  else lo
termination_by hi - lo

/-- How many entries are at most `n`. -/
def rank (entries : Array Nat) (n : Nat) : Nat := firstAbove entries n 0 entries.size

def hexValue (c : Char) : Nat :=
  if c.isDigit then c.toNat - '0'.toNat else c.toUpper.toNat - 'A'.toNat + 10

def ofHex (digits : List Char) : Nat := digits.foldl (fun n c ↦ 16 * n + hexValue c) 0

/-- The parts of a text that blanks and line ends separate. -/
def words (text : String) : List (List Char) :=
  (text.toList.splitOnP fun c ↦ c == ' ' || c == '\n').filter fun w ↦ !w.isEmpty

/-- A set of code points, kept as the places where membership changes. -/
structure CodePointSet where
  changes : Array Nat

namespace CodePointSet

/-- A code point is a member when an odd number of changes lie at or below it. -/
def contains (set : CodePointSet) (c : Char) : Bool := rank set.changes c.toNat % 2 == 1

/-- The two changes of one written entry, a code point or two joined by a hyphen. -/
def entry (text : List Char) : List Nat :=
  match text.span (· != '-') with
  | (lo, []) => [ofHex lo, ofHex lo + 1]
  | (lo, _ :: hi) => [ofHex lo, ofHex hi + 1]

/-- Reads entries that are disjoint, not adjacent and in increasing order. -/
def ofText (text : String) : CodePointSet :=
  ⟨((words text).flatMap entry).toArray⟩

end CodePointSet

/-- A function on the code points that is constant on each of finitely many runs. -/
structure RunTable (α : Type) where
  starts : Array Nat
  values : Array α

namespace RunTable

/-- The value of the last run that starts at or before the character. -/
def get? {α : Type} (table : RunTable α) (c : Char) : Option α :=
  table.values[rank table.starts c.toNat - 1]?

/-- Reads entries made of a key of `width` letters and the start of its run. -/
def ofText {α : Type} (width : Nat) (value : List Char → α) (text : String) : RunTable α :=
  let entries := words text
  ⟨(entries.map fun e ↦ ofHex (e.drop width)).toArray,
    (entries.map fun e ↦ value (e.take width)).toArray⟩

end RunTable

end Morphology.Unicode
