import Morphology.Structure.Printer
import Morphology.Structure.Trait

/-!
# Symbols of values

That all symbols of a value are of a certain kind is a trait of the value. If all of them are in a
table, then the display form of the value is made of their names, and of no number.
-/

namespace Morphology

variable {P : Symbol → Prop} {table : SymbolTable} {symbol : Symbol}

theorem Value.mem_symbols_list {items : List Value} :
    symbol ∈ (Value.list items).symbols ↔ ∃ v ∈ items, symbol ∈ v.symbols := by
  rw [symbols]
  induction items with
  | nil => simp [symbolsOfItems]
  | cons v rest ih => simp [symbolsOfItems, ih]

theorem Structure.mem_symbols {s : Structure} :
    symbol ∈ s.symbols ↔ ∃ p ∈ s, symbol = p.1 ∨ symbol ∈ p.2.symbols := by
  rw [symbols]
  induction s with
  | nil => simp [symbolsOfPairs]
  | cons p rest ih => simp [symbolsOfPairs, ih, or_assoc]

theorem Value.symbols_nested (s : Structure) : (Value.nested s).symbols = s.symbols := rfl

/-- Having symbols of a certain kind only. -/
def Trait.ofSymbols (P : Symbol → Prop) : Trait where
  value v := ∀ symbol ∈ v.symbols, P symbol
  attr := P
  length _ := True
  layout s := ∀ p ∈ s, P p.1
  list_iff {items} := by
    simp only [Value.mem_symbols_list, true_and]
    exact ⟨fun h v hv symbol hs ↦ h symbol ⟨v, hv, hs⟩, fun h symbol ⟨v, hv, hs⟩ ↦ h v hv symbol hs⟩
  nested_iff {s} := by
    simp only [Value.symbols_nested, Structure.mem_symbols]
    constructor
    · exact fun h ↦ ⟨fun p hp ↦ h p.1 ⟨p, hp, .inl rfl⟩,
        fun p hp symbol hs ↦ h symbol ⟨p, hp, .inr hs⟩⟩
    · rintro ⟨hattrs, hvalues⟩ symbol ⟨p, hp, rfl | hs⟩
      · exact hattrs p hp
      · exact hvalues p hp symbol hs
  layout_empty := by simp [Structure.empty]
  attr_of_mem := id
  layout_insertWith ha hs h :=
    Structure.insertWith_pairs (P := fun p ↦ P p.1) ha (fun _ _ hp _ ↦ hp) hs h

/-! ## Names -/

namespace SymbolTable

theorem name?_eq_label (h : table.contains symbol) :
    table.name? symbol = some (table.label symbol) := by
  have hname : ∃ name, table.name? symbol = some name :=
    ⟨_, List.getElem?_eq_getElem (of_decide_eq_true h)⟩
  obtain ⟨name, hname⟩ := hname
  rw [label, hname, Option.getD_some]

end SymbolTable

mutual

/-- The display form of a value, if the table has a name for each of its symbols. -/
def Value.spell? (table : SymbolTable) : Value → Option String
  | .atom symbol => table.name? symbol
  | .text content => some (Text.quote content)
  | .list items => (Value.spellItems? table items).map fun written ↦
      "<" ++ ", ".intercalate written ++ ">"
  | .nested pairs => (Structure.spellPairs? table pairs).map fun written ↦
      "[" ++ ", ".intercalate written ++ "]"

def Value.spellItems? (table : SymbolTable) : List Value → Option (List String)
  | [] => some []
  | v :: rest => do return (← v.spell? table) :: (← Value.spellItems? table rest)

def Structure.spellPairs? (table : SymbolTable) : Structure → Option (List String)
  | [] => some []
  | (attr, v) :: rest => do
    let name ← table.name? attr
    return (name ++ ": " ++ (← v.spell? table)) :: (← Structure.spellPairs? table rest)

end

mutual

/-- The display form of a value whose symbols are all in the table shows their names. -/
theorem Value.spell?_eq_display :
    ∀ {v : Value}, (∀ symbol ∈ v.symbols, table.contains symbol) →
      v.spell? table = some (v.display table)
  | .atom symbol, h => by
    rw [Value.spell?, Value.display]
    exact SymbolTable.name?_eq_label (h symbol List.mem_cons_self)
  | .text content, _ => by rw [Value.spell?, Value.display]
  | .list items, h => by
    rw [Value.spell?, Value.display, Value.spellItems?_eq_displayItems h, Option.map_some]
  | .nested pairs, h => by
    rw [Value.spell?, Value.display, Structure.spellPairs?_eq_displayPairs h, Option.map_some]

theorem Value.spellItems?_eq_displayItems :
    ∀ {items : List Value}, (∀ symbol ∈ Value.symbolsOfItems items, table.contains symbol) →
      Value.spellItems? table items = some (Value.displayItems table items)
  | [], _ => by rw [Value.spellItems?, Value.displayItems]
  | v :: rest, h => by
    rw [Value.symbolsOfItems, List.forall_mem_append] at h
    rw [Value.spellItems?, Value.displayItems, Value.spell?_eq_display h.1,
      Value.spellItems?_eq_displayItems h.2]
    rfl

theorem Structure.spellPairs?_eq_displayPairs :
    ∀ {pairs : Structure}, (∀ symbol ∈ Structure.symbolsOfPairs pairs, table.contains symbol) →
      Structure.spellPairs? table pairs = some (Structure.displayPairs table pairs)
  | [], _ => by rw [Structure.spellPairs?, Structure.displayPairs]
  | (attr, v) :: rest, h => by
    rw [Structure.symbolsOfPairs, List.cons_append, List.forall_mem_cons,
      List.forall_mem_append] at h
    obtain ⟨hattr, hv, hrest⟩ := h
    rw [Structure.spellPairs?, Structure.displayPairs, SymbolTable.name?_eq_label hattr,
      Value.spell?_eq_display hv, Structure.spellPairs?_eq_displayPairs hrest]
    rfl

end

/-- A table has a name for each symbol of a value, so that the display form of the value consists of
names and shows no number. -/
structure SymbolTable.Covers (table : SymbolTable) (v : Value) : Prop where
  contains : ∀ symbol ∈ v.symbols, table.contains symbol
  name?_eq : ∀ symbol ∈ v.symbols, table.name? symbol = some (table.label symbol)
  spell?_eq : v.spell? table = some (v.display table)

theorem SymbolTable.covers_of_contains {v : Value} (h : ∀ symbol ∈ v.symbols, table.contains symbol) :
    table.Covers v :=
  ⟨h, fun symbol hs ↦ name?_eq_label (h symbol hs), Value.spell?_eq_display h⟩

end Morphology
