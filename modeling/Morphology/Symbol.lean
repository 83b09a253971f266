import Std.Data.TreeMap.Lemmas

/-!
# Symbols

Attribute names, atomic values and class tags are named once, in a symbol table, and are
numbers from then on. Ids are given out in the order in which names are first seen. A symbol
may also be made from a bare number; whether a table knows it is a separate question.
-/

namespace Morphology

/-- An interned name. -/
structure Symbol where
  id : UInt32
deriving DecidableEq

namespace Symbol

instance : LT Symbol := ⟨fun s t ↦ s.id < t.id⟩
instance : LE Symbol := ⟨fun s t ↦ s.id ≤ t.id⟩

instance (s t : Symbol) : Decidable (s < t) := inferInstanceAs (Decidable (s.id < t.id))
instance (s t : Symbol) : Decidable (s ≤ t) := inferInstanceAs (Decidable (s.id ≤ t.id))

/-- The symbol at a position of a table; positions beyond 32 bits wrap around. -/
def ofIndex (index : Nat) : Symbol := ⟨UInt32.ofNat index⟩

/-- The position in a table that a symbol stands for. -/
def index (s : Symbol) : Nat := s.id.toNat

theorem lt_iff {s t : Symbol} : s < t ↔ s.index < t.index := UInt32.lt_iff_toNat_lt

theorem le_iff {s t : Symbol} : s ≤ t ↔ s.index ≤ t.index := UInt32.le_iff_toNat_le

theorem index_inj {s t : Symbol} : s.index = t.index ↔ s = t := by
  cases s; cases t; simp [index, UInt32.toNat_inj]

theorem lt_irrefl (s : Symbol) : ¬s < s := fun h ↦ Nat.lt_irrefl _ (lt_iff.mp h)

theorem lt_trans {s t u : Symbol} (hst : s < t) (htu : t < u) : s < u :=
  lt_iff.mpr (Nat.lt_trans (lt_iff.mp hst) (lt_iff.mp htu))

theorem lt_of_not_lt {s t : Symbol} (h : ¬s < t) (hne : s ≠ t) : t < s :=
  lt_iff.mpr (Nat.lt_of_le_of_ne (Nat.le_of_not_lt fun hlt ↦ h (lt_iff.mpr hlt))
    fun heq ↦ hne (index_inj.mp heq.symm))

end Symbol

/-- The names in use, in the order of their ids, and the symbols by their names. -/
structure SymbolTable where
  names : List String
  byName : Std.TreeMap String Symbol
  getElem?_byName : ∀ name : String, byName[name]? = (names.idxOf? name).map Symbol.ofIndex

namespace SymbolTable

/-- The symbols of names that are numbered from a given number on; of the places of a repeated
name, the first counts. -/
def symbolsFrom (start : Nat) (names : List String) : Std.TreeMap String Symbol :=
  (names.zipIdx start).foldr (fun (name, index) byName ↦ byName.insert name (.ofIndex index)) ∅

theorem getElem?_symbolsFrom (start : Nat) (names : List String) (name : String) :
    (symbolsFrom start names)[name]? =
      (names.idxOf? name).map fun index ↦ Symbol.ofIndex (index + start) := by
  induction names generalizing start with
  | nil => simp [symbolsFrom]
  | cons first rest ih =>
    have hmore : symbolsFrom start (first :: rest) =
        (symbolsFrom (start + 1) rest).insert first (.ofIndex start) := rfl
    rw [hmore, Std.TreeMap.getElem?_insert, List.idxOf?_cons, ih]
    by_cases hsame : first = name
    · simp [hsame]
    · simp [hsame, Function.comp_def, Nat.add_assoc, Nat.add_comm 1]

/-- The table of some names. -/
def ofNames (names : List String) : SymbolTable where
  names
  byName := symbolsFrom 0 names
  getElem?_byName := getElem?_symbolsFrom 0 names

def empty : SymbolTable := ofNames []

instance : EmptyCollection SymbolTable := ⟨empty⟩
instance : Inhabited SymbolTable := ⟨empty⟩

def size (table : SymbolTable) : Nat := table.names.length

def isEmpty (table : SymbolTable) : Bool := table.names.isEmpty

/-- The symbol of a name that is already in use. -/
def find? (table : SymbolTable) (name : String) : Option Symbol := table.byName[name]?

theorem find?_eq_none_iff {table : SymbolTable} {name : String} :
    table.find? name = none ↔ name ∉ table.names := by
  rw [find?, table.getElem?_byName, Option.map_eq_none_iff, List.idxOf?_eq_none_iff]

theorem idxOf?_concat (names : List String) (name other : String) :
    (names ++ [name]).idxOf? other =
      (names.idxOf? other).or (if name = other then some names.length else none) := by
  rw [List.idxOf?, List.findIdx?_append]
  by_cases hsame : name = other <;> simp [hsame]

/-- Gives the next symbol to a name that is not in use. -/
def push (table : SymbolTable) (name : String) (hnew : name ∉ table.names) : SymbolTable where
  names := table.names ++ [name]
  byName := table.byName.insert name (.ofIndex table.size)
  getElem?_byName := by
    intro other
    rw [Std.TreeMap.getElem?_insert, table.getElem?_byName, idxOf?_concat]
    by_cases hsame : name = other
    · have hunused : table.names.idxOf? other = none := List.idxOf?_eq_none_iff.mpr (hsame ▸ hnew)
      simp [hsame, hunused, size]
    · simp [hsame]

/-- The symbol of a name, together with the table in which the name is in use. -/
def intern (table : SymbolTable) (name : String) : Symbol × SymbolTable :=
  match hnone : table.find? name with
  | some s => (s, table)
  | none => (.ofIndex table.size, table.push name (find?_eq_none_iff.mp hnone))

def name? (table : SymbolTable) (s : Symbol) : Option String := table.names[s.index]?

def contains (table : SymbolTable) (s : Symbol) : Bool := s.index < table.size

/-- What is written for a symbol: its name, or its number where the table knows no name. -/
def label (table : SymbolTable) (s : Symbol) : String :=
  (table.name? s).getD s!"#{s.id.toNat}"

/-- All symbols of the table with their names, in id order. -/
def toList (table : SymbolTable) : List (Symbol × String) :=
  table.names.zipIdx.map fun (name, index) ↦ (Symbol.ofIndex index, name)

end SymbolTable

end Morphology
