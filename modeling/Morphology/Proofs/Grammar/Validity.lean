import Mathlib.Data.List.Nodup
import Morphology.Grammar.Basic

/-!
# Validity of the rules of a grammar

The rules of a grammar were checked one after the other, so each of them passes its own check. No
two of them have the same name, and so none is listed twice.
-/

namespace Morphology

namespace Reference

theorem checkAll_eq_ok_iff {table : SymbolTable} {arity : Nat} {references : List Reference} :
    checkAll table arity references = .ok () ↔
      ∀ reference ∈ references, reference.defect? table arity = none := by
  rw [checkAll]
  cases hfind : references.findSome? (defect? table arity) with
  | none => simpa using List.findSome?_eq_none_iff.mp hfind
  | some defect =>
    have hsome := List.exists_of_findSome?_eq_some hfind
    simp only [reduceCtorEq, false_iff]
    intro hall
    obtain ⟨reference, hmem, hdefect⟩ := hsome
    exact absurd ((hall reference hmem).symm.trans hdefect) nofun

theorem defect?_symbol_eq_none_iff {table : SymbolTable} {arity : Nat} {s : Symbol} :
    (symbol s).defect? table arity = none ↔ table.contains s := by
  rw [defect?]
  split <;> simp_all

theorem defect?_child_eq_none_iff {table : SymbolTable} {arity index : Nat} :
    (child index).defect? table arity = none ↔ index < arity := by
  rw [defect?]
  split <;> simp_all

theorem defect?_symbol_eq_some_iff {table : SymbolTable} {arity : Nat} {s : Symbol}
    {defect : Defect} : (symbol s).defect? table arity = some defect ↔
      ¬table.contains s ∧ .undefinedSymbol s = defect := by
  rw [defect?]
  split <;> simp_all

theorem defect?_child_eq_some_iff {table : SymbolTable} {arity index : Nat} {defect : Defect} :
    (child index).defect? table arity = some defect ↔
      arity ≤ index ∧ .childOutOfRange index arity = defect := by
  rw [defect?]
  split
  next hlt => exact iff_of_false nofun fun h ↦ Nat.not_le.mpr hlt h.1
  next hbeyond =>
    rw [Option.some.injEq]
    exact (and_iff_right (Nat.le_of_not_lt hbeyond)).symm

end Reference

namespace Rules

theorem firstError_eq_ok {seen : List String} {outcomes : List (String × Except Defect Unit)}
    (h : firstError seen outcomes = .ok ()) : ∀ outcome ∈ outcomes, outcome.2 = .ok () := by
  induction outcomes generalizing seen with
  | nil => exact fun _ hmem ↦ absurd hmem List.not_mem_nil
  | cons first rest ih =>
    obtain ⟨name, _ | _⟩ := first
    · rw [firstError] at h
      split at h <;> exact absurd h nofun
    · rw [firstError] at h
      split at h
      · exact absurd h nofun
      · exact List.forall_mem_cons.mpr ⟨rfl, ih h⟩

theorem outcomes_of_validate {table : SymbolTable} {rules : Rules}
    (h : rules.validate table = .ok ()) :
    ∀ outcome ∈ rules.outcomes table, outcome.2 = .ok () := by
  unfold validate at h
  cases hfirst : firstError [] (rules.outcomes table) with
  | error e => simp [hfirst, bind, Except.bind] at h
  | ok => exact firstError_eq_ok hfirst

theorem nodup_of_firstError {seen : List String} {outcomes : List (String × Except Defect Unit)}
    (h : firstError seen outcomes = .ok ()) :
    (outcomes.map (·.1)).Nodup ∧ ∀ name ∈ outcomes.map (·.1), name ∉ seen := by
  induction outcomes generalizing seen with
  | nil => exact ⟨List.nodup_nil, fun _ hmem ↦ absurd hmem List.not_mem_nil⟩
  | cons first rest ih =>
    obtain ⟨name, _ | _⟩ := first
    · rw [firstError] at h
      split at h <;> exact absurd h nofun
    · rw [firstError] at h
      split at h
      · exact absurd h nofun
      next hseen =>
        obtain ⟨hnodup, hnew⟩ := ih h
        rw [List.contains_iff_mem] at hseen
        refine ⟨List.nodup_cons.mpr ⟨fun hmem ↦ hnew name hmem List.mem_cons_self, hnodup⟩, ?_⟩
        exact List.forall_mem_cons.mpr
          ⟨hseen, fun other hmem hother ↦ hnew other hmem (List.mem_cons_of_mem name hother)⟩

theorem nodup_names {table : SymbolTable} {rules : Rules} (h : rules.validate table = .ok ()) :
    (rules.morphs.map (·.name) ++ rules.productions.map (·.name)).Nodup := by
  unfold validate at h
  cases hfirst : firstError [] (rules.outcomes table) with
  | error e => simp [hfirst, bind, Except.bind] at h
  | ok =>
    have hnodup := (nodup_of_firstError hfirst).1
    unfold outcomes at hnodup
    simp only [List.map_append, List.map_map] at hnodup
    exact hnodup

end Rules

namespace Grammar

/-- A grammar has the parts that it was put together from. -/
theorem parts_of_make {table : SymbolTable} {lexicon : Lexicon} {rules : Rules} {grammar : Grammar}
    (h : make table lexicon rules = .ok grammar) :
    grammar.symbols = table ∧ grammar.lexicon = lexicon ∧ grammar.rules = rules := by
  unfold make at h
  split at h
  next => exact absurd h nofun
  next =>
    split at h
    next => exact absurd h nofun
    next =>
      obtain rfl := Except.ok.inj h
      exact ⟨rfl, rfl, rfl⟩

theorem validate_morphRule (grammar : Grammar) {rule : MorphRule}
    (h : rule ∈ grammar.rules.morphs) : rule.validate grammar.symbols = .ok () := by
  refine Rules.outcomes_of_validate grammar.rules_valid (rule.name, _) ?_
  exact List.mem_append_left _ (List.mem_map.mpr ⟨rule, h, rfl⟩)

theorem validate_production (grammar : Grammar) {rule : Production}
    (h : rule ∈ grammar.rules.productions) : rule.validate grammar.symbols = .ok () := by
  refine Rules.outcomes_of_validate grammar.rules_valid (rule.name, _) ?_
  exact List.mem_append_right _ (List.mem_map.mpr ⟨rule, h, rfl⟩)

theorem nodup_morphs (grammar : Grammar) : grammar.rules.morphs.Nodup :=
  List.Nodup.of_map (·.name) (List.nodup_append.mp (Rules.nodup_names grammar.rules_valid)).1

theorem nodup_productions (grammar : Grammar) : grammar.rules.productions.Nodup :=
  List.Nodup.of_map (·.name) (List.nodup_append.mp (Rules.nodup_names grammar.rules_valid)).2.1

end Grammar

namespace Production

variable {table : SymbolTable} {rule : Production}

theorem pattern_ne_nil (h : rule.validate table = .ok ()) : rule.pattern ≠ [] := by
  intro hnil
  simp [validate, hnil] at h

/-- The children that an operation of a valid production refers to exist. -/
theorem child_lt_length (h : rule.validate table = .ok ()) {op : Operation}
    (hop : op ∈ rule.operations) {index : Nat} (href : .child index ∈ op.references) :
    index < rule.pattern.length := by
  unfold validate at h
  split at h
  · exact absurd h nofun
  · refine Reference.defect?_child_eq_none_iff.mp (Reference.checkAll_eq_ok_iff.mp h _ ?_)
    exact List.mem_append_right _ (List.mem_flatMap.mpr ⟨op, hop, href⟩)

/-- The symbols that a valid production refers to are in the table. -/
theorem contains_of_validate (h : rule.validate table = .ok ()) {symbol : Symbol}
    (href : .symbol symbol ∈ rule.references) : table.contains symbol := by
  unfold validate at h
  split at h
  · exact absurd h nofun
  · exact Reference.defect?_symbol_eq_none_iff.mp (Reference.checkAll_eq_ok_iff.mp h _ href)

end Production

/-- The symbols of a valid morph rule are in the table. -/
theorem MorphRule.contains_of_validate {table : SymbolTable} {rule : MorphRule}
    (h : rule.validate table = .ok ()) {symbol : Symbol} (hsymbol : symbol ∈ rule.symbols) :
    table.contains symbol := by
  unfold validate at h
  cases hrefs : Reference.checkAll table 0 (rule.symbols.map .symbol) with
  | error defect => simp [hrefs, bind, Except.bind] at h
  | ok =>
    exact Reference.defect?_symbol_eq_none_iff.mp (Reference.checkAll_eq_ok_iff.mp hrefs _
      (List.mem_map.mpr ⟨symbol, hsymbol, rfl⟩))

/-- The symbols of the readings of a valid lexicon are in the table. -/
theorem Lexicon.contains_of_validate {table : SymbolTable} {lexicon : Lexicon}
    (h : lexicon.validate table = .ok ()) {entry : String × Reading} (hentry : entry ∈ lexicon.toList)
    {symbol : Symbol} (hsymbol : symbol ∈ entry.2.symbols) : table.contains symbol := by
  unfold validate at h
  simp only at h
  split at h
  next => exact absurd h nofun
  next hnone =>
    have hentry := List.findSome?_eq_none_iff.mp hnone entry hentry
    rw [Option.map_eq_none_iff, List.find?_eq_none] at hentry
    simpa using hentry symbol hsymbol

end Morphology
