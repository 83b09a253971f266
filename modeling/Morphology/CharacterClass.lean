import Morphology.Unicode.Kind

/-!
# Character classes

A class of characters is given by categories, by single members, or by both, and may be
negated. The categories are coarse: a character can belong to several of them or to none.
-/

namespace Morphology

/-- A set of coarse categories. -/
structure Categories where
  alphabetic : Bool := false
  numeric : Bool := false
  whitespace : Bool := false
  uppercase : Bool := false
  lowercase : Bool := false
  punctuation : Bool := false
deriving DecidableEq

namespace Categories

/-- Every category that a character belongs to. Whatever is neither a letter, a number, white
space nor a control character counts as punctuation. -/
def ofChar (c : Char) : Categories where
  alphabetic := Unicode.isAlphabetic c
  numeric := Unicode.isNumeric c
  whitespace := Unicode.isWhitespace c
  uppercase := Unicode.isUppercase c
  lowercase := Unicode.isLowercase c
  punctuation := Unicode.isAsciiPunctuation c ||
    (!Unicode.isAlphanumeric c && !Unicode.isWhitespace c && !Unicode.isControl c)

/-- The members of a set as flags, in the order of the bits that stand for them. -/
def flags (s : Categories) : List Bool :=
  [s.alphabetic, s.numeric, s.whitespace, s.uppercase, s.lowercase, s.punctuation]

/-- The set whose members are the bits of a number; bits without a category are ignored. -/
def ofBits (bits : Nat) : Categories where
  alphabetic := bits.testBit 0
  numeric := bits.testBit 1
  whitespace := bits.testBit 2
  uppercase := bits.testBit 3
  lowercase := bits.testBit 4
  punctuation := bits.testBit 5

/-- The number whose bits are the members of the set. -/
def toBits (s : Categories) : Nat := s.flags.foldr (fun flag n ↦ flag.toNat + 2 * n) 0

def isEmpty (s : Categories) : Bool := !s.flags.any id

/-- Whether two sets have a member in common. -/
def meets (s t : Categories) : Bool := (s.flags.zip t.flags).any fun (a, b) ↦ a && b

def union (s t : Categories) : Categories where
  alphabetic := s.alphabetic || t.alphabetic
  numeric := s.numeric || t.numeric
  whitespace := s.whitespace || t.whitespace
  uppercase := s.uppercase || t.uppercase
  lowercase := s.lowercase || t.lowercase
  punctuation := s.punctuation || t.punctuation

end Categories

/-- A set of characters. -/
structure CharacterClass where
  categories : Categories := {}
  members : List Char := []
  negated : Bool := false
deriving DecidableEq

namespace CharacterClass

def negate (cls : CharacterClass) : CharacterClass := { cls with negated := !cls.negated }

/-- Whether a character is in the class. -/
def contains (cls : CharacterClass) (c : Char) : Bool :=
  ((Categories.ofChar c).meets cls.categories || cls.members.contains c) != cls.negated

end CharacterClass

end Morphology
