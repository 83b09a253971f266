import Morphology.Regex.Parser

/-!
# What written expressions mean

Turning the tree of an expression into an expression over characters. Flags take effect from
where they stand to the end of the group around them, across the bars of the group.
-/

namespace Morphology.Regex

/-- The flags that change what is matched. -/
structure Flags where
  caseInsensitive : Bool := false
  multiLine : Bool := false
  dotAll : Bool := false
  unicode : Bool := true
  crlf : Bool := false

namespace Flags

def set (flags : Flags) : Flag × Bool → Flags
  | (.caseInsensitive, on) => { flags with caseInsensitive := on }
  | (.multiLine, on) => { flags with multiLine := on }
  | (.dotAll, on) => { flags with dotAll := on }
  | (.unicode, on) => { flags with unicode := on }
  | (.crlf, on) => { flags with crlf := on }
  | (.swapGreed, _) | (.verbose, _) => flags

def apply (flags : Flags) (setting : FlagSetting) : Flags := setting.foldl set flags

/-- Adds the case variants of members where case does not matter. Without the flag for all
scripts only basic characters have variants, and they have basic ones only. -/
def fold (flags : Flags) (s : CharSet) : CharSet :=
  if !flags.caseInsensitive then s
  else if flags.unicode then .anyCase s
  else .inter (.anyCase s) .ascii

/-- The complement of a class. Without the flag for all scripts it would hold bytes that are no
characters, which is refused. -/
def negate? (flags : Flags) (negated : Bool) (s : CharSet) : Option CharSet :=
  if !negated then some s else if flags.unicode then some (.compl s) else none

end Flags

/-- The characters of a class with a one-letter escape. -/
def Shorthand.members (s : Shorthand) (allScripts : Bool) : CharSet :=
  let members : CharSet := match s with
    | .digit => .property .digit
    | .space => .property .space
    | .word => .property .word
  if allScripts then members else .inter members .ascii

def Shorthand.elaborate (s : Shorthand) (negated : Bool) (flags : Flags) : Option CharSet :=
  flags.negate? negated (s.members flags.unicode)

/-- The characters with a property, which can be asked for in all scripts only. -/
def elaborateProperty (p : Unicode.Property) (negated : Bool) (flags : Flags) : Option CharSet :=
  if flags.unicode then flags.negate? negated (flags.fold (.property p)) else none

def SetOperator.apply : SetOperator → CharSet → CharSet → CharSet
  | .intersection => .inter
  | .difference => .diff
  | .symmetricDifference => .symmDiff

namespace ClassTree

mutual

/-- The characters of the contents of a class. -/
def elaborate (flags : Flags) : ClassTree → Option CharSet
  | range lo hi => if flags.unicode || hi.toNat < 0x80 then some (.range lo hi) else none
  | shorthand s negated => s.elaborate negated flags
  | property p negated => elaborateProperty p negated flags
  | named ranges negated =>
    flags.negate? negated (flags.fold (.unions (ranges.map fun (lo, hi) ↦ .range lo hi)))
  | bracket negated contents =>
    (contents.elaborate flags).bind fun s ↦ flags.negate? negated (flags.fold s)
  | union items => (elaborateItems flags items).map .unions
  | operation operator left right =>
    (left.elaborate flags).bind fun a ↦ (right.elaborate flags).map fun b ↦
      operator.apply (flags.fold a) (flags.fold b)

def elaborateItems (flags : Flags) : List ClassTree → Option (List CharSet)
  | [] => some []
  | item :: items =>
    (item.elaborate flags).bind fun s ↦ (elaborateItems flags items).map (s :: ·)

end

end ClassTree

/-- What an atom matches. Without the flag for all scripts a byte above 0x7F and the dot, which
would match such bytes, are refused. -/
def Atom.elaborate (flags : Flags) : Atom → Option Regex
  | .literal c byte =>
    if flags.unicode then some (.set (flags.fold (.single c)))
    else if byte && 0x80 ≤ c.toNat then none
    else if Unicode.isAscii c then some (.set (flags.fold (.single c)))
    else some (.set (.single c))
  | .dot =>
    if !flags.unicode then none
    else if flags.dotAll then some (.set .all)
    else if flags.crlf then some (.set (.compl (.ofList ['\n', '\r'])))
    else some (.set (.compl (.single '\n')))
  | .line .start => some (.assert (if flags.multiLine then .lineStart flags.crlf else .textStart))
  | .line .stop => some (.assert (if flags.multiLine then .lineEnd flags.crlf else .textEnd))
  | .text .start => some (.assert .textStart)
  | .text .stop => some (.assert .textEnd)
  | .word kind => some (.assert (.word kind flags.unicode))
  | .shorthand s negated => (s.elaborate negated flags).map .set
  | .property p negated => (elaborateProperty p negated flags).map .set

namespace Tree

mutual

/-- What a tree matches, and the flags in force after it. -/
def elaborate (flags : Flags) : Tree → Option (Regex × Flags)
  | empty => some (.empty, flags)
  | Tree.flags setting => some (.empty, flags.apply setting)
  | atom a => (a.elaborate flags).map (·, flags)
  | bracket negated contents =>
    ((contents.elaborate flags).bind fun s ↦ flags.negate? negated (flags.fold s)).map
      fun s ↦ (.set s, flags)
  | repetition body min max =>
    (body.elaborate flags).map fun (r, flags) ↦ (.repeat r min max, flags)
  | group setting body => (body.elaborate (flags.apply setting)).map fun (r, _) ↦ (r, flags)
  | sequence items => (elaborateItems flags items).map fun (rs, flags) ↦ (.seqs rs, flags)
  | alternation branches =>
    (elaborateItems flags branches).map fun (rs, flags) ↦ (.alts rs, flags)

def elaborateItems (flags : Flags) : List Tree → Option (List Regex × Flags)
  | [] => some ([], flags)
  | item :: items =>
    (item.elaborate flags).bind fun (r, flags) ↦
      (elaborateItems flags items).map fun (rs, flags) ↦ (r :: rs, flags)

end

end Tree

/-- The heaviest expression that this engine has room for. -/
def weightLimit : Nat := 327680

/-- The expression that a text writes, if it writes one. -/
def ofText? (text : List Char) : Option Regex := do
  let (r, _) ← (← Tree.parse text).elaborate {}
  if r.weight ≤ weightLimit then some r else none

end Morphology.Regex
