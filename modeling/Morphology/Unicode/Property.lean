import Morphology.Unicode.BinaryProperty
import Morphology.Unicode.Script

/-!
# Named properties

The properties of characters that can be asked for by name, and the names themselves. Names are
compared loosely: case, blanks, hyphens, underscores and a leading "is" make no difference.
-/

namespace Morphology.Unicode

inductive Property
  | any
  | ascii
  | assigned
  | digit
  | space
  | word
  | category (members : List GeneralCategory)
  | binary (property : BinaryProperty)
  | script (script : Script)
  | scriptExtension (script : Script)
deriving DecidableEq

namespace Property

/-- Whether a character has the property. -/
def holds (property : Property) (c : Char) : Bool :=
  match property with
  | .any => true
  | .ascii => isAscii c
  | .assigned => GeneralCategory.of c != .unassigned
  | .digit => GeneralCategory.of c == .decimalNumber
  | .space => isWhitespace c
  | .word => isWordPart c
  | .category members => members.contains (GeneralCategory.of c)
  | .binary b => b.holds c
  | .script s => Script.of c == s
  | .scriptExtension s => (Script.extensions c).contains s

/-- The categories that a name stands for, written small and without separators. -/
def categories? : String → Option (List GeneralCategory)
  | "c" | "other" => some [.control, .format, .surrogate, .privateUse, .unassigned]
  | "cc" | "control" | "cntrl" => some [.control]
  | "cf" | "format" => some [.format]
  | "cn" | "unassigned" => some [.unassigned]
  | "co" | "privateuse" => some [.privateUse]
  | "l" | "letter" =>
    some [.uppercaseLetter, .lowercaseLetter, .titlecaseLetter, .modifierLetter, .otherLetter]
  | "lc" | "casedletter" => some [.uppercaseLetter, .lowercaseLetter, .titlecaseLetter]
  | "ll" | "lowercaseletter" => some [.lowercaseLetter]
  | "lm" | "modifierletter" => some [.modifierLetter]
  | "lo" | "otherletter" => some [.otherLetter]
  | "lt" | "titlecaseletter" => some [.titlecaseLetter]
  | "lu" | "uppercaseletter" => some [.uppercaseLetter]
  | "m" | "mark" | "combiningmark" => some [.nonspacingMark, .spacingMark, .enclosingMark]
  | "mc" | "spacingmark" => some [.spacingMark]
  | "me" | "enclosingmark" => some [.enclosingMark]
  | "mn" | "nonspacingmark" => some [.nonspacingMark]
  | "n" | "number" => some [.decimalNumber, .letterNumber, .otherNumber]
  | "nd" | "decimalnumber" | "digit" => some [.decimalNumber]
  | "nl" | "letternumber" => some [.letterNumber]
  | "no" | "othernumber" => some [.otherNumber]
  | "p" | "punctuation" | "punct" =>
    some [.connectorPunctuation, .dashPunctuation, .openPunctuation, .closePunctuation,
      .initialPunctuation, .finalPunctuation, .otherPunctuation]
  | "pc" | "connectorpunctuation" => some [.connectorPunctuation]
  | "pd" | "dashpunctuation" => some [.dashPunctuation]
  | "pe" | "closepunctuation" => some [.closePunctuation]
  | "pf" | "finalpunctuation" => some [.finalPunctuation]
  | "pi" | "initialpunctuation" => some [.initialPunctuation]
  | "po" | "otherpunctuation" => some [.otherPunctuation]
  | "ps" | "openpunctuation" => some [.openPunctuation]
  | "s" | "symbol" => some [.mathSymbol, .currencySymbol, .modifierSymbol, .otherSymbol]
  | "sc" | "currencysymbol" => some [.currencySymbol]
  | "sk" | "modifiersymbol" => some [.modifierSymbol]
  | "sm" | "mathsymbol" => some [.mathSymbol]
  | "so" | "othersymbol" => some [.otherSymbol]
  | "z" | "separator" => some [.lineSeparator, .paragraphSeparator, .spaceSeparator]
  | "zl" | "lineseparator" => some [.lineSeparator]
  | "zp" | "paragraphseparator" => some [.paragraphSeparator]
  | "zs" | "spaceseparator" => some [.spaceSeparator]
  | _ => none

/-- A category by name, or one of the classes that are treated like categories. -/
def ofCategoryName? : String → Option Property
  | "any" => some .any
  | "assigned" => some .assigned
  | "ascii" => some .ascii
  | name => (categories? name).map .category

/-- A name without what loose comparison ignores. The name "isc" is not shortened, because it
belongs to a property of its own. -/
def looseName (name : List Char) : String :=
  let keep (cs : List Char) : List Char :=
    (cs.filter fun c ↦ isAscii c && c != ' ' && c != '_' && c != '-').map Char.toLower
  match name with
  | i :: s :: rest =>
    if i.toLower == 'i' && s.toLower == 's' then
      if keep rest == ['c'] then "isc" else String.ofList (keep rest)
    else String.ofList (keep name)
  | _ => String.ofList (keep name)

/-- The property that a single name stands for: a binary property, a category or a script. -/
def ofName? (name : List Char) : Option Property :=
  let name := looseName name
  match BinaryProperty.ofName? name, ofCategoryName? name, Script.ofName? name with
  | some b, _, _ => some (.binary b)
  | none, some p, _ => some p
  | none, none, some s => some (.script s)
  | none, none, none => none

/-- The property that a name and a value stand for. -/
def ofNameValue? (name value : List Char) : Option Property :=
  let value := looseName value
  match looseName name with
  | "gc" | "generalcategory" => ofCategoryName? value
  | "sc" | "script" => (Script.ofName? value).map .script
  | "scx" | "scriptextensions" => (Script.ofName? value).map .scriptExtension
  | _ => none

end Property

end Morphology.Unicode
