import Morphology.Structure.Basic
import Morphology.Unicode.Kind

/-!
# Written structures

There are two written forms. The display form shows the names of symbols and is meant for
readers of a grammar: `[case: nom, stem: "talo"]`. The raw form shows numbers and the kind of
each value, and needs no symbol table. In both, a text stands between double quotes, with a
backslash before what would end it and numbers for characters that cannot be shown on their own.
-/

namespace Morphology

namespace Text

/-- The number of a character between braces, in lower-case hexadecimal. -/
def escapeNumber (c : Char) : List Char :=
  ['\\', 'u', '\x7b'] ++ Nat.toDigits 16 c.toNat ++ ['\x7d']

/-- The written form of one character. -/
def escape (c : Char) : List Char :=
  match c with
  | '\x00' => ['\\', '0']
  | '\t' => ['\\', 't']
  | '\n' => ['\\', 'n']
  | '\r' => ['\\', 'r']
  | '"' => ['\\', '"']
  | '\\' => ['\\', '\\']
  | c => if Unicode.isGraphemeExtend c || !Unicode.isPrintable c then escapeNumber c else [c]

/-- A text between double quotes, with every character in its written form. -/
def quote (text : String) : String :=
  String.ofList ('"' :: text.toList.flatMap escape ++ ['"'])

end Text

mutual

/-- The display form of a value. -/
def Value.display (table : SymbolTable) : Value → String
  | .atom symbol => table.label symbol
  | .text content => Text.quote content
  | .list items => "<" ++ ", ".intercalate (Value.displayItems table items) ++ ">"
  | .nested pairs => "[" ++ ", ".intercalate (Structure.displayPairs table pairs) ++ "]"

def Value.displayItems (table : SymbolTable) : List Value → List String
  | [] => []
  | v :: rest => v.display table :: Value.displayItems table rest

def Structure.displayPairs (table : SymbolTable) : Structure → List String
  | [] => []
  | (attr, v) :: rest =>
    (table.label attr ++ ": " ++ v.display table) :: Structure.displayPairs table rest

end

/-- The raw form of a symbol. -/
def Symbol.raw (s : Symbol) : String := s!"Symbol({s.id.toNat})"

mutual

/-- The raw form of a value. -/
def Value.raw : Value → String
  | .atom symbol => "Symbol(" ++ symbol.raw ++ ")"
  | .text content => "Text(" ++ Text.quote content ++ ")"
  | .list items => "List([" ++ ", ".intercalate (Value.rawItems items) ++ "])"
  | .nested pairs => "Avs(\x7b" ++ ", ".intercalate (Structure.rawPairs pairs) ++ "\x7d)"

def Value.rawItems : List Value → List String
  | [] => []
  | v :: rest => v.raw :: Value.rawItems rest

def Structure.rawPairs : Structure → List String
  | [] => []
  | (attr, v) :: rest => (attr.raw ++ ": " ++ v.raw) :: Structure.rawPairs rest

end

namespace Structure

/-- The display form of a structure. -/
def display (table : SymbolTable) (s : Structure) : String :=
  "[" ++ ", ".intercalate (displayPairs table s) ++ "]"

/-- The raw form of a structure. -/
def raw (s : Structure) : String := "\x7b" ++ ", ".intercalate (rawPairs s) ++ "\x7d"

end Structure

end Morphology
