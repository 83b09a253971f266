import Morphology.Symbol

/-!
# Attribute-value structures

A structure gives values to attributes. A value is atomic, a text, a list of values or again a
structure. The pairs of a structure are kept in increasing order of their attributes, so that
equal structures are equal lists. Values and structures contain each other, and a constructor of
values cannot ask for the order of the pairs it is given. So the order, at every depth, is not part
of the type: it is kept by every operation that makes structures.
-/

namespace Morphology

inductive Value
  | atom (symbol : Symbol)
  | text (content : String)
  | list (items : List Value)
  | nested (pairs : List (Symbol × Value))

/-- The attributes that have a value, with their values. -/
abbrev Structure := List (Symbol × Value)

namespace Value

mutual

/-- Decides equality of values. -/
def decEq : (v w : Value) → Decidable (v = w)
  | .atom s, .atom t => decidable_of_iff (s = t) (by simp)
  | .text s, .text t => decidable_of_iff (s = t) (by simp)
  | .list vs, .list ws =>
    match decEqList vs ws with
    | isTrue h => isTrue (by rw [h])
    | isFalse h => isFalse (by simpa using h)
  | .nested a, .nested b =>
    match decEqPairs a b with
    | isTrue h => isTrue (by rw [h])
    | isFalse h => isFalse (by simpa using h)
  | .atom _, .text _ | .atom _, .list _ | .atom _, .nested _
  | .text _, .atom _ | .text _, .list _ | .text _, .nested _
  | .list _, .atom _ | .list _, .text _ | .list _, .nested _
  | .nested _, .atom _ | .nested _, .text _ | .nested _, .list _ => isFalse (by simp)

/-- Decides equality of lists of values. -/
def decEqList : (vs ws : List Value) → Decidable (vs = ws)
  | [], [] => isTrue rfl
  | [], _ :: _ => isFalse (by simp)
  | _ :: _, [] => isFalse (by simp)
  | v :: vs, w :: ws =>
    match decEq v w with
    | isFalse h => isFalse (by simp [h])
    | isTrue h =>
      match decEqList vs ws with
      | isFalse h' => isFalse (by simp [h'])
      | isTrue h' => isTrue (by rw [h, h'])

/-- Decides equality of structures. -/
def decEqPairs : (a b : List (Symbol × Value)) → Decidable (a = b)
  | [], [] => isTrue rfl
  | [], _ :: _ => isFalse (by simp)
  | _ :: _, [] => isFalse (by simp)
  | (s, v) :: a, (t, w) :: b =>
    if hs : s = t then
      match decEq v w with
      | isFalse h => isFalse (by simp [h])
      | isTrue h =>
        match decEqPairs a b with
        | isFalse h' => isFalse (by simp [h'])
        | isTrue h' => isTrue (by rw [hs, h, h'])
    else isFalse (by simp [hs])

end

instance : DecidableEq Value := decEq

instance : Inhabited Value := ⟨.nested []⟩

end Value

mutual

/-- How many levels of lists and structures a value has; atoms and texts have none. -/
def Value.depth : Value → Nat
  | .atom _ => 0
  | .text _ => 0
  | .list items => 1 + Value.maxDepth items
  | .nested pairs => 1 + Structure.maxDepth pairs

/-- The greatest depth among the items of a list. -/
def Value.maxDepth : List Value → Nat
  | [] => 0
  | v :: rest => max v.depth (Value.maxDepth rest)

/-- The greatest depth among the values of a structure. -/
def Structure.maxDepth : Structure → Nat
  | [] => 0
  | (_, v) :: rest => max v.depth (Structure.maxDepth rest)

end

mutual

/-- The symbols in a value, in the order in which they are written. -/
def Value.symbols : Value → List Symbol
  | .atom symbol => [symbol]
  | .text _ => []
  | .list items => Value.symbolsOfItems items
  | .nested pairs => Structure.symbolsOfPairs pairs

def Value.symbolsOfItems : List Value → List Symbol
  | [] => []
  | v :: rest => v.symbols ++ Value.symbolsOfItems rest

def Structure.symbolsOfPairs : Structure → List Symbol
  | [] => []
  | (attr, v) :: rest => attr :: v.symbols ++ Structure.symbolsOfPairs rest

end

namespace Structure

def empty : Structure := []

def single (attr : Symbol) (value : Value) : Structure := [(attr, value)]

/-- The value of an attribute. The search stops at the first attribute beyond the one sought. -/
def get? : Structure → Symbol → Option Value
  | [], _ => none
  | (a, v) :: rest, attr =>
    if a < attr then get? rest attr else if a = attr then some v else none

/-- The number of levels of a structure; the empty structure is one level by itself. -/
def depth (s : Structure) : Nat := 1 + maxDepth s

/-- The symbols of a structure, each attribute before the symbols of its value. -/
def symbols (s : Structure) : List Symbol := symbolsOfPairs s

end Structure

end Morphology
