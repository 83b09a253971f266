import Morphology.Unicode.Property
import Morphology.Unicode.CaseFolding

/-!
# Sets of characters

The sets that one position of a regular expression can range over, written with ranges, named
properties and the Boolean operations.
-/

namespace Morphology.Regex

inductive CharSet
  | range (lo hi : Char)
  | property (p : Unicode.Property)
  | union (a b : CharSet)
  | inter (a b : CharSet)
  | compl (a : CharSet)
  /-- Every case variant of a member. -/
  | anyCase (a : CharSet)
deriving DecidableEq

namespace CharSet

/-- Whether a character is in the set. -/
def contains : CharSet → Char → Bool
  | range lo hi, c => lo ≤ c && c ≤ hi
  | property p, c => p.holds c
  | union a b, c => a.contains c || b.contains c
  | inter a b, c => a.contains c && b.contains c
  | compl a, c => !a.contains c
  | anyCase a, c => (Unicode.caseVariants c).any a.contains

def single (c : Char) : CharSet := range c c

def all : CharSet := property .any

def none : CharSet := compl all

def ascii : CharSet := property .ascii

def diff (a b : CharSet) : CharSet := inter a (compl b)

def symmDiff (a b : CharSet) : CharSet := union (diff a b) (diff b a)

/-- The union of any number of sets. -/
def unions (sets : List CharSet) : CharSet := sets.foldr union none

/-- The set of some characters. -/
def ofList (members : List Char) : CharSet := unions (members.map single)

/-- A rough count of the states that a byte-wise automaton needs for one member of the set. Most
properties have members all over the scripts. -/
def weight : CharSet → Nat
  | range lo hi =>
    if hi.toNat < 0x80 then 1 else if lo = hi then lo.utf8Size else 10
  | property .ascii => 1
  | property .any => 10
  | property .space => 30
  | property .digit => 160
  | property _ => 1500
  | union a b => a.weight + b.weight
  | inter a b => max a.weight b.weight
  | compl a => 10 + a.weight
  | anyCase a => 2 * a.weight

end CharSet

end Morphology.Regex
