import Mathlib.Data.List.Infix
import Morphology.Grammar.Builder

/-!
# Interned names

A symbol table only grows, and a name that is in use keeps its symbol. As long as there are not more
names than symbols, no two names have the same one. Pairs of names that were interned can therefore
be told from their symbols, whatever was interned later.
-/

namespace Morphology

/-- While there are symbols left, a symbol stands for its number. -/
theorem Symbol.index_ofIndex {index : Nat} (h : index < UInt32.size) :
    (Symbol.ofIndex index).index = index := UInt32.toNat_ofNat_of_lt' h

theorem Symbol.ofIndex_index (s : Symbol) : Symbol.ofIndex s.index = s := by
  cases s
  simp [ofIndex, index]

namespace SymbolTable

/-- The later table has the names of the earlier one, under the same symbols. -/
def Extends (later table : SymbolTable) : Prop := table.names <+: later.names

variable {table middle later : SymbolTable} {name other : String} {s : Symbol}

theorem Extends.refl (table : SymbolTable) : table.Extends table := List.prefix_refl _

theorem Extends.trans (hlater : later.Extends middle) (hmiddle : middle.Extends table) :
    later.Extends table :=
  List.IsPrefix.trans hmiddle hlater

theorem find?_eq_some_iff : table.find? name = some s ↔
    ∃ index, table.names.idxOf? name = some index ∧ Symbol.ofIndex index = s := by
  rw [find?, table.getElem?_byName, Option.map_eq_some_iff]

/-- A name keeps its symbol. -/
theorem Extends.find?_eq (h : later.Extends table) (hname : table.find? name = some s) :
    later.find? name = some s := by
  obtain ⟨index, hindex, rfl⟩ := find?_eq_some_iff.mp hname
  obtain ⟨more, hmore⟩ := h
  refine find?_eq_some_iff.mpr ⟨index, ?_, rfl⟩
  rw [← hmore, List.idxOf?, List.findIdx?_append]
  rw [List.idxOf?] at hindex
  rw [hindex, Option.some_or]

theorem extends_intern (table : SymbolTable) (name : String) :
    (table.intern name).2.Extends table := by
  unfold intern
  split
  · exact .refl table
  · exact List.prefix_append _ _

theorem find?_intern (table : SymbolTable) (name : String) :
    (table.intern name).2.find? name = some (table.intern name).1 := by
  unfold intern
  split
  next s hname => exact hname
  next hnone =>
    have hnew : table.names.idxOf? name = none :=
      List.idxOf?_eq_none_iff.mpr (find?_eq_none_iff.mp hnone)
    refine find?_eq_some_iff.mpr ⟨table.size, ?_, rfl⟩
    simp [push, idxOf?_concat, hnew, size]

/-- While there are symbols left, the symbol of a name stands for that name. -/
theorem name?_of_find? (hsize : table.size ≤ UInt32.size) (h : table.find? name = some s) :
    table.name? s = some name := by
  obtain ⟨index, hindex, rfl⟩ := find?_eq_some_iff.mp h
  obtain ⟨hlt, hname, -⟩ := List.idxOf?_eq_some_iff.mp hindex
  rw [name?, Symbol.index_ofIndex (Nat.lt_of_lt_of_le hlt hsize), List.getElem?_eq_getElem hlt, hname]

/-- While there are symbols left, no two names have the same one. -/
theorem eq_of_find? (hsize : table.size ≤ UInt32.size) (h : table.find? name = some s)
    (hother : table.find? other = some s) : name = other :=
  Option.some.inj ((name?_of_find? hsize h).symm.trans (name?_of_find? hsize hother))

/-- An attribute and an atomic value are what two names stand for. -/
def Spells (table : SymbolTable) (written : String × String) (p : Symbol × Value) : Prop :=
  table.find? written.1 = some p.1 ∧ ∃ s, table.find? written.2 = some s ∧ p.2 = .atom s

variable {written : String × String} {p : Symbol × Value}

theorem Spells.unique {q : Symbol × Value} (hp : table.Spells written p)
    (hq : table.Spells written q) : p = q := by
  obtain ⟨hattr, s, hs, hvalue⟩ := hp
  obtain ⟨hattr', t, ht, hvalue'⟩ := hq
  obtain rfl := Option.some.inj (hs.symm.trans ht)
  exact Prod.ext (Option.some.inj (hattr.symm.trans hattr')) (hvalue.trans hvalue'.symm)

theorem Spells.attr_eq_iff (hsize : table.size ≤ UInt32.size) {others : String × String}
    {q : Symbol × Value} (hp : table.Spells written p) (hq : table.Spells others q) :
    p.1 = q.1 ↔ written.1 = others.1 := by
  constructor
  · exact fun heq ↦ eq_of_find? hsize hp.1 (heq ▸ hq.1)
  · exact fun heq ↦ Option.some.inj (hp.1.symm.trans (heq ▸ hq.1))

theorem Spells.value_eq_iff (hsize : table.size ≤ UInt32.size) {others : String × String}
    {q : Symbol × Value} (hp : table.Spells written p) (hq : table.Spells others q) :
    p.2 = q.2 ↔ written.2 = others.2 := by
  obtain ⟨-, s, hs, hvalue⟩ := hp
  obtain ⟨-, t, ht, hvalue'⟩ := hq
  rw [hvalue, hvalue', Value.atom.injEq]
  constructor
  · exact fun heq ↦ eq_of_find? hsize hs (heq ▸ ht)
  · exact fun heq ↦ Option.some.inj (hs.symm.trans (heq ▸ ht))

end SymbolTable

namespace GrammarBuilder

open SymbolTable (Extends)

theorem extends_internPairs (table : SymbolTable) (pairs : List (String × String)) :
    (internPairs table pairs).2.Extends table := by
  induction pairs generalizing table with
  | nil => exact .refl table
  | cons written rest ih =>
    obtain ⟨attr, value⟩ := written
    have hattr := SymbolTable.extends_intern table attr
    have hvalue := SymbolTable.extends_intern (table.intern attr).2 value
    exact ((ih _).trans hvalue).trans hattr

/-- Pairs are interned as what they stand for, in this table and in all later ones. -/
theorem forall₂_internPairs {table later : SymbolTable} {pairs : List (String × String)}
    (h : later.Extends (internPairs table pairs).2) :
    List.Forall₂ later.Spells pairs (internPairs table pairs).1 := by
  induction pairs generalizing table with
  | nil => exact .nil
  | cons written rest ih =>
    obtain ⟨attr, value⟩ := written
    have hrest : later.Extends ((table.intern attr).2.intern value).2 :=
      h.trans (extends_internPairs _ rest)
    refine .cons ⟨?_, _, hrest.find?_eq (SymbolTable.find?_intern _ value), rfl⟩ (ih h)
    have hattr := hrest.trans (SymbolTable.extends_intern _ value)
    exact hattr.find?_eq (SymbolTable.find?_intern table attr)

/-- The interned pairs are those that some written pair stands for. -/
theorem mem_internPairs {table later : SymbolTable} {pairs : List (String × String)}
    (h : later.Extends (internPairs table pairs).2) {p : Symbol × Value} :
    p ∈ (internPairs table pairs).1 ↔ ∃ written ∈ pairs, later.Spells written p := by
  have hall := forall₂_internPairs h
  generalize (internPairs table pairs).1 = interned at hall
  clear h
  induction hall with
  | nil => simp
  | @cons written q rest interned hspells _ ih =>
    rw [List.mem_cons, List.exists_mem_cons_iff]
    exact or_congr ⟨fun heq ↦ heq ▸ hspells, fun hp ↦ hp.unique hspells⟩ ih

theorem atoms_of_internPairs (table : SymbolTable) (pairs : List (String × String)) :
    ∀ p ∈ (internPairs table pairs).1, ∃ symbol, p.2 = .atom symbol := by
  intro p hp
  obtain ⟨written, -, -, symbol, -, hvalue⟩ := (mem_internPairs (.refl _)).mp hp
  exact ⟨symbol, hvalue⟩

/-- Every written pair is interned. -/
theorem exists_mem_internPairs {table later : SymbolTable} {pairs : List (String × String)}
    (h : later.Extends (internPairs table pairs).2) {written : String × String}
    (hmem : written ∈ pairs) : ∃ p ∈ (internPairs table pairs).1, later.Spells written p := by
  have hall := forall₂_internPairs h
  generalize (internPairs table pairs).1 = interned at hall
  clear h
  induction hall with
  | nil => exact absurd hmem List.not_mem_nil
  | @cons other q rest interned hspells _ ih =>
    rcases List.mem_cons.mp hmem with rfl | hmem
    · exact ⟨q, List.mem_cons_self, hspells⟩
    · obtain ⟨p, hp, hwritten⟩ := ih hmem
      exact ⟨p, List.mem_cons_of_mem q hp, hwritten⟩

end GrammarBuilder

end Morphology
