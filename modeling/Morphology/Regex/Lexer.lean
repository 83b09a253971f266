import Morphology.Regex.Syntax

/-!
# Words of regular expressions

Reading the written form of an expression word by word. In verbose mode blanks and comments may
stand between words, and between the characters of some words. Verbose mode is a flag, which a
group can set for itself; so the reader remembers the mode outside of every open group.
-/

namespace Morphology.Regex.Lexer

open Unicode (isWhitespace isAlphabetic isAlphanumeric isAscii)

/-! ## Blanks and comments -/

/-- Skips blanks and comments, which reach from a hash sign to the end of the line. -/
def skipBlanks (inComment : Bool) : List Char → List Char
  | [] => []
  | c :: rest =>
    if inComment then skipBlanks (c != '\n') rest
    else if isWhitespace c then skipBlanks false rest
    else if c == '#' then skipBlanks true rest
    else c :: rest

/-- What follows, without blanks in verbose mode. -/
def next (verbose : Bool) (text : List Char) : List Char :=
  if verbose then skipBlanks false text else text

/-- Collects the characters that satisfy `p`; in verbose mode blanks between and after them are
left out. -/
def collect (verbose : Bool) (p : Char → Bool) (inComment : Bool) :
    List Char → List Char × List Char
  | [] => ([], [])
  | c :: rest =>
    if inComment then collect verbose p (c != '\n') rest
    else if verbose && isWhitespace c then collect verbose p false rest
    else if verbose && c == '#' then collect verbose p true rest
    else if p c then
      let (found, left) := collect verbose p false rest
      (c :: found, left)
    else ([], c :: rest)

/-- The first character that is no blank, where a hash sign opens a comment that nothing but a
further visible character ends. -/
def firstVisible (inComment : Bool) : List Char → Option Char
  | [] => none
  | c :: rest =>
    if isWhitespace c then firstVisible inComment rest
    else if !inComment && c == '#' then firstVisible true rest
    else some c

/-- What a range in a class looks at to see whether a hyphen is its middle. -/
def peek (verbose : Bool) (text : List Char) : Option Char :=
  if verbose then (firstVisible false text).or text.head? else text.head?

/-! ## Numbers -/

def isHexDigit (c : Char) : Bool :=
  c.isDigit || ('a' ≤ c && c ≤ 'f') || ('A' ≤ c && c ≤ 'F')

def ofDecimal (digits : List Char) : Nat :=
  digits.foldl (fun n c ↦ 10 * n + (c.toNat - '0'.toNat)) 0

/-- A count of at most 32 bits, with blanks around it. -/
def count (verbose : Bool) (text : List Char) : Option (Nat × List Char) :=
  let (digits, rest) := collect verbose Char.isDigit false (text.dropWhile isWhitespace)
  let n := ofDecimal digits
  if digits.isEmpty || UInt32.size ≤ n then none else some (n, rest.dropWhile isWhitespace)

/-- The character with a number, if there is one. -/
def charOfHex (digits : List Char) : Option Char :=
  let n := Unicode.ofHex digits
  if n.isValidChar then some (Char.ofNat n) else none

/-- Exactly so many hexadecimal digits. -/
def hexDigits (verbose : Bool) : Nat → List Char → Option (List Char × List Char)
  | 0, text => some ([], text)
  | _ + 1, [] => none
  | n + 1, c :: rest =>
    if isHexDigit c then
      (hexDigits verbose n (next verbose rest)).map fun (digits, rest) ↦ (c :: digits, rest)
    else none

/-- What stands before a closing brace. -/
def untilBrace (verbose : Bool) (text : List Char) : Option (List Char × List Char) :=
  match collect verbose (· != '\x7d') false text with
  | (found, _ :: rest) => some (found, rest)
  | (_, []) => none

/-- A character given by its number, after the letter that says how many digits there are. -/
def hexLiteral (verbose : Bool) (width : Nat) (text : List Char) : Option (Atom × List Char) :=
  match next verbose text with
  | '\x7b' :: rest => do
    let (digits, rest) ← untilBrace verbose rest
    if digits.isEmpty || !digits.all isHexDigit then none
    else return (.literal (← charOfHex digits) false, next verbose rest)
  | text => do
    let (digits, rest) ← hexDigits verbose width text
    return (.literal (← charOfHex digits) (width == 2), rest)

/-! ## Escapes -/

/-- Splits a text at the first occurrence of a separator. -/
def splitAt (separator : List Char) : List Char → Option (List Char × List Char)
  | [] => none
  | c :: rest =>
    if separator.isPrefixOf (c :: rest) then some ([], (c :: rest).drop separator.length)
    else (splitAt separator rest).map fun (before, after) ↦ (c :: before, after)

/-- The property that the text between braces names, and whether its complement is meant. -/
def bracedProperty (name : List Char) : Option (Unicode.Property × Bool) :=
  match splitAt ['!', '='] name, splitAt [':'] name, splitAt ['='] name with
  | some (n, v), _, _ => (Unicode.Property.ofNameValue? n v).map (·, true)
  | none, some (n, v), _ => (Unicode.Property.ofNameValue? n v).map (·, false)
  | none, none, some (n, v) => (Unicode.Property.ofNameValue? n v).map (·, false)
  | none, none, none => (Unicode.Property.ofName? name).map (·, false)

/-- A class of characters with a property, after the letter that opens it. -/
def propertyClass (verbose negated : Bool) (text : List Char) : Option (Atom × List Char) :=
  match next verbose text with
  | [] => none
  | '\x7b' :: rest => do
    let (name, rest) ← untilBrace verbose rest
    let (property, complement) ← bracedProperty name
    return (.property property (negated != complement), rest)
  | c :: rest =>
    if c == '\\' then none
    else (Unicode.Property.ofName? [c]).map fun p ↦ (.property p negated, next verbose rest)

/-- A boundary of words. In braces it can be of a special kind; braces that do not open with a
letter or a hyphen belong to a repetition. -/
def wordBoundary (verbose : Bool) (text : List Char) : Option (Atom × List Char) :=
  let isNamePart (c : Char) : Bool := c.isAlpha || c == '-'
  match text with
  | '\x7b' :: rest =>
    match next verbose rest with
    | [] => none
    | c :: inner =>
      if !isNamePart c then some (.word .edge, text)
      else
        match collect verbose isNamePart false (c :: inner) with
        | (name, '\x7d' :: rest) =>
          match String.ofList name with
          | "start" => some (.word .start, rest)
          | "end" => some (.word .stop, rest)
          | "start-half" => some (.word .startHalf, rest)
          | "end-half" => some (.word .stopHalf, rest)
          | _ => none
        | _ => none
  | _ => some (.word .edge, text)

/-- The characters that mean something outside or inside of classes. -/
def metaCharacters : List Char :=
  ['\\', '.', '+', '*', '?', '(', ')', '|', '[', ']', '\x7b', '\x7d', '^', '$', '#', '&', '-', '~']

/-- Whether a character may be escaped although it stands for itself anyway. -/
def isEscapable (c : Char) : Bool :=
  metaCharacters.contains c || (isAscii c && !c.isAlphanum && c != '<' && c != '>')

/-- What follows a backslash. -/
def escape (verbose : Bool) : List Char → Option (Atom × List Char)
  | [] => none
  | c :: rest =>
    match c with
    | 'x' => hexLiteral verbose 2 rest
    | 'u' => hexLiteral verbose 4 rest
    | 'U' => hexLiteral verbose 8 rest
    | 'p' => propertyClass verbose false rest
    | 'P' => propertyClass verbose true rest
    | 'd' => some (.shorthand .digit false, rest)
    | 's' => some (.shorthand .space false, rest)
    | 'w' => some (.shorthand .word false, rest)
    | 'D' => some (.shorthand .digit true, rest)
    | 'S' => some (.shorthand .space true, rest)
    | 'W' => some (.shorthand .word true, rest)
    | 'a' => some (.literal '\x07' false, rest)
    | 'f' => some (.literal '\x0c' false, rest)
    | 't' => some (.literal '\t' false, rest)
    | 'n' => some (.literal '\n' false, rest)
    | 'r' => some (.literal '\r' false, rest)
    | 'v' => some (.literal '\x0b' false, rest)
    | 'A' => some (.text .start, rest)
    | 'z' => some (.text .stop, rest)
    | 'b' => wordBoundary verbose rest
    | 'B' => some (.word .inner, rest)
    | '<' => some (.word .start, rest)
    | '>' => some (.word .stop, rest)
    | c => if isEscapable c then some (.literal c false, rest) else none

/-! ## Groups and flags -/

def flagOf : Char → Option Flag
  | 'i' => some .caseInsensitive
  | 'm' => some .multiLine
  | 's' => some .dotAll
  | 'U' => some .swapGreed
  | 'u' => some .unicode
  | 'R' => some .crlf
  | 'x' => some .verbose
  | _ => none

/-- Reads flags up to a colon or a parenthesis. A minus sign, which can occur once and not at the
end, switches off the flags after it; no flag can occur twice. -/
def flagSetting (seen : FlagSetting) (negated dangling : Bool) :
    List Char → Option (FlagSetting × Char × List Char)
  | [] => none
  | c :: rest =>
    if c == ':' || c == ')' then if dangling then none else some (seen.reverse, c, rest)
    else if c == '-' then if negated then none else flagSetting seen true true rest
    else
      match flagOf c with
      | none => none
      | some flag =>
        if seen.any (·.1 == flag) then none
        else flagSetting ((flag, !negated) :: seen) negated false rest

/-- The name of a group, up to the closing angle bracket. -/
def groupName (text : List Char) : Option (List Char × List Char) :=
  match text.span (· != '>') with
  | (c :: name, _ :: rest) =>
    if (c == '_' || isAlphabetic c) &&
        name.all fun c ↦ ['_', '.', '[', ']'].contains c || isAlphanumeric c
    then some (c :: name, rest)
    else none
  | _ => none

/-- What follows an opening parenthesis: a group, or flags for the group around it. Conditions on
what precedes or follows are not supported. -/
def group (verbose : Bool) (text : List Char) : Option (Token × List Char) :=
  match next verbose text with
  | '?' :: '=' :: _ | '?' :: '!' :: _ | '?' :: '<' :: '=' :: _ | '?' :: '<' :: '!' :: _ => none
  | '?' :: 'P' :: '<' :: rest | '?' :: '<' :: rest => do
    let (name, rest) ← groupName rest
    return (.groupOpen (some name) [], rest)
  | '?' :: rest =>
    match flagSetting [] false false rest with
    | none => none
    | some (setting, ':', rest) => some (.groupOpen none setting, rest)
    | some (setting, _, rest) =>
      if setting.isEmpty then none else some (.flags setting, rest)
  | text => some (.groupOpen none [], text)

/-! ## Repetition -/

/-- A question mark after a repetition changes the order of attempts, not what is matched. -/
def dropLazy : List Char → List Char
  | '?' :: rest => rest
  | text => text

/-- A counted repetition, after the opening brace. -/
def counted (verbose : Bool) (text : List Char) : Option (Token × List Char) := do
  let (min, rest) ← count verbose (next verbose text)
  let (max, rest) ← match rest with
    | ',' :: rest =>
      match next verbose rest with
      | '\x7d' :: rest => some (none, '\x7d' :: rest)
      | rest => (count verbose rest).map fun (max, rest) ↦ (some max, rest)
    | rest => some (some min, rest)
  match rest with
  | '\x7d' :: rest =>
    if max.any (· < min) then none else some (.repetition min max, dropLazy (next verbose rest))
  | _ => none

/-! ## Classes -/

/-- The ranges of the classes of basic characters that have a name. -/
def namedRanges : String → Option (List (Char × Char))
  | "alnum" => some [('0', '9'), ('A', 'Z'), ('a', 'z')]
  | "alpha" => some [('A', 'Z'), ('a', 'z')]
  | "ascii" => some [('\x00', '\x7f')]
  | "blank" => some [('\t', '\t'), (' ', ' ')]
  | "cntrl" => some [('\x00', '\x1f'), ('\x7f', '\x7f')]
  | "digit" => some [('0', '9')]
  | "graph" => some [('!', '~')]
  | "lower" => some [('a', 'z')]
  | "print" => some [(' ', '~')]
  | "punct" => some [('!', '/'), (':', '@'), ('[', '\x60'), ('\x7b', '~')]
  | "space" => some [('\t', '\r'), (' ', ' ')]
  | "upper" => some [('A', 'Z')]
  | "word" => some [('0', '9'), ('A', 'Z'), ('_', '_'), ('a', 'z')]
  | "xdigit" => some [('0', '9'), ('A', 'F'), ('a', 'f')]
  | _ => none

/-- A named class inside of a class, after the opening bracket. -/
def namedClass (text : List Char) : Option (ClassTree × List Char) :=
  let named (negated : Bool) (text : List Char) : Option (ClassTree × List Char) :=
    match text.span (· != ':') with
    | (name, ':' :: ']' :: rest) =>
      (namedRanges (String.ofList name)).map fun ranges ↦ (.named ranges negated, rest)
    | _ => none
  match text with
  | ':' :: '^' :: rest => named true rest
  | ':' :: rest => named false rest
  | _ => none

/-- The hyphens that stand for themselves at the beginning of a class. -/
def leadingHyphens (verbose : Bool) (text : List Char) : List Char × List Char :=
  collect verbose (· == '-') false text

/-- The beginning of a class, after the opening bracket: a sign of negation, hyphens, and a
closing bracket that stands for itself if nothing precedes it. -/
def classOpen (verbose : Bool) (text : List Char) : Option (Token × List Char) :=
  let (negated, text) := match next verbose text with
    | '^' :: rest => (true, next verbose rest)
    | text => (false, text)
  match leadingHyphens verbose text with
  | (_, []) => none
  | ([], ']' :: rest) =>
    match next verbose rest with
    | [] => none
    | rest => some (.classOpen negated [']'], rest)
  | (hyphens, rest) => some (.classOpen negated hyphens, rest)

/-- One member of a class. -/
def classAtom (verbose : Bool) : List Char → Option (Atom × List Char)
  | [] => none
  | '\\' :: rest => escape verbose rest
  | c :: rest => some (.literal c false, rest)

/-- What a member of a class contributes by itself. -/
def itemOfAtom : Atom → Option ClassTree
  | .literal c _ => some (.range c c)
  | .shorthand s negated => some (.shorthand s negated)
  | .property p negated => some (.property p negated)
  | _ => none

/-- A member of a class, or two of them with a hyphen between as the ends of a range. -/
def classItem (verbose : Bool) (text : List Char) : Option (ClassTree × List Char) := do
  let (first, rest) ← classAtom verbose text
  match next verbose rest with
  | [] => none
  | '-' :: more =>
    if peek verbose more == some ']' || peek verbose more == some '-' then
      return (← itemOfAtom first, '-' :: more)
    else
      let (second, rest) ← classAtom verbose (next verbose more)
      match first, second with
      | .literal lo _, .literal hi _ => if lo ≤ hi then some (.range lo hi, rest) else none
      | _, _ => none
  | rest => return (← itemOfAtom first, rest)

/-! ## The whole text -/

/-- The mode of the reader: verbose or not, the same for the groups that are still open, and the
number of open classes. -/
structure Mode where
  verbose : Bool := false
  outer : List Bool := []
  openClasses : Nat := 0

/-- The mode after some flags. -/
def Mode.set (mode : Mode) (setting : FlagSetting) : Mode :=
  { mode with verbose := (setting.lookup .verbose).getD mode.verbose }

/-- The mode after a word. -/
def Mode.after (mode : Mode) : Token → Mode
  | .classOpen .. => { mode with openClasses := mode.openClasses + 1 }
  | .classClose => { mode with openClasses := mode.openClasses - 1 }
  | .groupOpen _ setting => { mode with outer := mode.verbose :: mode.outer }.set setting
  | .groupClose =>
    { mode with verbose := mode.outer.headD mode.verbose, outer := mode.outer.tail }
  | .flags setting => mode.set setting
  | _ => mode

/-- The next word inside of a class. -/
def classToken (verbose : Bool) : List Char → Option (Token × List Char)
  | [] => none
  | '[' :: rest =>
    match namedClass rest with
    | some (item, rest) => some (.classItem item, rest)
    | none => classOpen verbose rest
  | ']' :: rest => some (.classClose, rest)
  | '&' :: '&' :: rest => some (.classOperator .intersection, rest)
  | '-' :: '-' :: rest => some (.classOperator .difference, rest)
  | '~' :: '~' :: rest => some (.classOperator .symmetricDifference, rest)
  | text => (classItem verbose text).map fun (item, rest) ↦ (.classItem item, rest)

/-- The next word outside of classes. -/
def plainToken (verbose : Bool) : List Char → Option (Token × List Char)
  | [] => none
  | '(' :: rest => group verbose rest
  | ')' :: rest => some (.groupClose, rest)
  | '|' :: rest => some (.bar, rest)
  | '[' :: rest => classOpen verbose rest
  | '?' :: rest => some (.repetition 0 (some 1), dropLazy rest)
  | '*' :: rest => some (.repetition 0 none, dropLazy rest)
  | '+' :: rest => some (.repetition 1 none, dropLazy rest)
  | '\x7b' :: rest => counted verbose rest
  | '\\' :: rest => (escape verbose rest).map fun (atom, rest) ↦ (.atom atom, rest)
  | '.' :: rest => some (.atom .dot, rest)
  | '^' :: rest => some (.atom (.line .start), rest)
  | '$' :: rest => some (.atom (.line .stop), rest)
  | c :: rest => some (.atom (.literal c false), rest)

/-- Reads at most `fuel` words. -/
def tokensWithin : Nat → Mode → List Char → Option (List Token)
  | 0, _, _ => none
  | fuel + 1, mode, text =>
    match next mode.verbose text with
    | [] => if mode.openClasses = 0 then some [] else none
    | text => do
      let (token, rest) ←
        if mode.openClasses = 0 then plainToken mode.verbose text
        else classToken mode.verbose text
      return token :: (← tokensWithin fuel (mode.after token) rest)

/-- The words of a text, if it consists of words. Every word has at least one character, so that
there are no more words than characters. -/
def tokens (text : List Char) : Option (List Token) := tokensWithin (text.length + 1) {} text

end Morphology.Regex.Lexer
