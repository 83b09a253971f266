import Morphology.Proofs.Grammar.Interning
import Morphology.Proofs.Structure.Atoms

/-!
# Calls of a builder

A grammar is put together by calls of a builder, which come one after the other and in any order. A
structure that is handed to a builder was made by the operations on structures. Whatever is called,
the names that are in use keep their symbols, the lexicon collects the readings that are added, and
the rule of the lexicon is named by the last call that asks for one.
-/

namespace Morphology.GrammarBuilder

/-- A call of a builder, with what it is given. -/
inductive Call
  | symbol (name : String)
  | features (pairs : List (String × String))
  | addReading (stem : String) (reading : Reading) (obtainable : reading.features.Obtainable)
  | addLexeme (stem tag : String) (pairs : List (String × String))
  | addMorphRule (rule : MorphRule)
  | addProduction (rule : Production)
  | withLexiconRule (name : String)
  | accept (tag : String)
  | addRemark (line : String)

namespace Call

/-- The builder after a call. -/
def perform (b : GrammarBuilder) : Call → GrammarBuilder
  | symbol name => (b.symbol name).2
  | features pairs => (b.features pairs).2
  | addReading stem reading _ => b.addReading stem reading
  | addLexeme stem tag pairs => b.addLexeme stem tag pairs
  | addMorphRule rule => b.addMorphRule rule
  | addProduction rule => b.addProduction rule
  | withLexiconRule name => b.withLexiconRule name
  | accept tag => b.accept tag
  | addRemark line => b.addRemark line

/-- The pairs of which a call makes a structure, if it makes one. -/
def pairs? : Call → Option (List (String × String))
  | features pairs => some pairs
  | addLexeme _ _ pairs => some pairs
  | symbol _ | addReading _ _ _ | addMorphRule _ | addProduction _ | withLexiconRule _ | accept _
  | addRemark _ => none

/-- The builder of which a call asks its structure: for a lexeme, the tag is named before. -/
def asks (b : GrammarBuilder) : Call → GrammarBuilder
  | addLexeme _ tag _ => (b.symbol tag).2
  | symbol _ | features _ | addReading _ _ _ | addMorphRule _ | addProduction _ | withLexiconRule _
  | accept _ | addRemark _ => b

/-- The reading that a call adds, with its stem, if it adds one. -/
def entry? (b : GrammarBuilder) : Call → Option (String × Reading)
  | addReading stem reading _ => some (stem, reading)
  | addLexeme stem tag pairs =>
    some (stem, { features := ((b.symbol tag).2.features pairs).1, tag := (b.symbol tag).1 })
  | symbol _ | features _ | addMorphRule _ | addProduction _ | withLexiconRule _ | accept _
  | addRemark _ => none

end Call

/-- The builder after some calls. -/
def after (b : GrammarBuilder) (calls : List Call) : GrammarBuilder := calls.foldl Call.perform b

/-- The readings that some calls add, in their order. -/
def entries (b : GrammarBuilder) : List Call → List (String × Reading)
  | [] => []
  | call :: rest => (call.entry? b).toList ++ (call.perform b).entries rest

variable {b : GrammarBuilder} {call : Call} {calls : List Call} {pairs : List (String × String)}

theorem after_cons (b : GrammarBuilder) (call : Call) (rest : List Call) :
    b.after (call :: rest) = (call.perform b).after rest := List.foldl_cons ..

theorem after_append (b : GrammarBuilder) (first rest : List Call) :
    b.after (first ++ rest) = (b.after first).after rest := List.foldl_append

/-! ## Symbols -/

theorem features_eq (b : GrammarBuilder) (pairs : List (String × String)) :
    b.features pairs = match Structure.ofPairs? (internPairs b.symbols pairs).1 with
      | some s => (s, { b with symbols := (internPairs b.symbols pairs).2 })
      | none => (Structure.empty,
        { b with
          symbols := (internPairs b.symbols pairs).2
          conflict := b.conflict.or (firstConflict [] pairs) }) := rfl

theorem addLexeme_eq (b : GrammarBuilder) (stem tag : String) (pairs : List (String × String)) :
    b.addLexeme stem tag pairs = ((b.symbol tag).2.features pairs).2.addReading stem
      { features := ((b.symbol tag).2.features pairs).1, tag := (b.symbol tag).1 } := rfl

/-- Making a structure can name symbols and find a conflict. -/
theorem features_frame (b : GrammarBuilder) (pairs : List (String × String)) :
    (b.features pairs).2 = { b with
      symbols := (b.features pairs).2.symbols
      conflict := (b.features pairs).2.conflict } := by
  rw [features_eq]
  split <;> rfl

/-- Accepting a tag can name a symbol and add to the rules. -/
theorem accept_frame (b : GrammarBuilder) (tag : String) : b.accept tag =
    { b with symbols := (b.accept tag).symbols, rules := (b.accept tag).rules } := by
  rw [accept]
  simp only
  split <;> rfl

theorem symbols_features (b : GrammarBuilder) (pairs : List (String × String)) :
    (b.features pairs).2.symbols = (internPairs b.symbols pairs).2 := by
  rw [features_eq]
  split <;> rfl

theorem symbols_accept (b : GrammarBuilder) (tag : String) :
    (b.accept tag).symbols = (b.symbols.intern tag).2 := by
  have heq : b.accept tag =
      if (b.symbol tag).2.rules.accepted.contains (b.symbol tag).1 then (b.symbol tag).2
      else { (b.symbol tag).2 with rules := { (b.symbol tag).2.rules with
        accepted := (b.symbol tag).2.rules.accepted ++ [(b.symbol tag).1] } } := rfl
  rw [heq]
  split <;> rfl

theorem symbols_perform_of_pairs? (h : call.pairs? = some pairs) :
    (call.perform b).symbols = (internPairs (call.asks b).symbols pairs).2 := by
  cases call with
  | features written =>
    obtain rfl := Option.some.inj h
    exact symbols_features b written
  | addLexeme stem tag written =>
    obtain rfl := Option.some.inj h
    exact symbols_features (b.symbol tag).2 written
  | _ => exact absurd h nofun

theorem extends_features (b : GrammarBuilder) (pairs : List (String × String)) :
    (b.features pairs).2.symbols.Extends b.symbols :=
  symbols_features b pairs ▸ extends_internPairs b.symbols pairs

/-- No call changes the symbol of a name. -/
theorem extends_perform (b : GrammarBuilder) (call : Call) :
    (call.perform b).symbols.Extends b.symbols := by
  cases call with
  | symbol name => exact SymbolTable.extends_intern b.symbols name
  | features pairs => exact extends_features b pairs
  | addLexeme stem tag pairs =>
    exact (extends_features _ pairs).trans (SymbolTable.extends_intern b.symbols tag)
  | accept tag =>
    rw [Call.perform, symbols_accept]
    exact SymbolTable.extends_intern b.symbols tag
  | addReading | addMorphRule | addProduction | withLexiconRule | addRemark =>
    exact .refl b.symbols

theorem extends_after (b : GrammarBuilder) (calls : List Call) :
    (b.after calls).symbols.Extends b.symbols := by
  induction calls generalizing b with
  | nil => exact .refl b.symbols
  | cons call rest ih => exact (ih (call.perform b)).trans (extends_perform b call)

/-- What a call names for its structure is in use ever after. -/
theorem extends_of_split {before rest : List Call} (hsplit : calls = before ++ call :: rest)
    (h : call.pairs? = some pairs) :
    (b.after calls).symbols.Extends (internPairs (call.asks (b.after before)).symbols pairs).2 := by
  rw [hsplit, after_append, after_cons, ← symbols_perform_of_pairs? h]
  exact extends_after _ rest

/-! ## Readings -/

theorem canonical_features (b : GrammarBuilder) (pairs : List (String × String)) :
    (b.features pairs).1.Canonical := by
  rw [features_eq]
  split
  next s hs =>
    exact Structure.canonical_of_ofPairs?
      (Structure.canonical_of_atoms (atoms_of_internPairs b.symbols pairs)) hs
  next => exact Structure.canonical_empty

/-- A call adds one reading to the lexicon, or none. -/
theorem lexicon_perform (b : GrammarBuilder) (call : Call) : (call.perform b).lexicon =
    (call.entry? b).toList.foldl (fun lexicon entry ↦ lexicon.insert entry.1 entry.2) b.lexicon := by
  cases call with
  | features pairs =>
    rw [Call.perform, features_frame]
    rfl
  | addLexeme stem tag pairs =>
    rw [Call.perform, addLexeme_eq, addReading, features_frame]
    rfl
  | accept tag =>
    rw [Call.perform, accept_frame]
    rfl
  | symbol | addReading | addMorphRule | addProduction | withLexiconRule | addRemark => rfl

theorem lexicon_after (b : GrammarBuilder) (calls : List Call) : (b.after calls).lexicon =
    (b.entries calls).foldl (fun lexicon entry ↦ lexicon.insert entry.1 entry.2) b.lexicon := by
  induction calls generalizing b with
  | nil => rfl
  | cons call rest ih => rw [after_cons, ih, lexicon_perform, entries, List.foldl_append]

/-- The structures of the readings that are added have no two values for an attribute. -/
theorem canonical_of_mem_entries {entry : String × Reading} (h : entry ∈ b.entries calls) :
    entry.2.features.Canonical := by
  induction calls generalizing b with
  | nil => exact absurd h List.not_mem_nil
  | cons call rest ih =>
    rcases List.mem_append.mp h with h | h
    · cases call with
      | addReading stem reading obtainable =>
        obtain rfl := Option.some.inj (Option.mem_toList.mp h)
        exact obtainable.canonical
      | addLexeme stem tag pairs =>
        obtain rfl := Option.some.inj (Option.mem_toList.mp h)
        exact canonical_features _ pairs
      | _ => exact absurd h List.not_mem_nil
    · exact ih h

/-! ## The rule of the lexicon -/

theorem lexiconRule_perform (h : ∀ name, call ≠ .withLexiconRule name) :
    (call.perform b).lexiconRule = b.lexiconRule := by
  cases call with
  | features pairs => rw [Call.perform, features_frame]
  | addLexeme stem tag pairs =>
    rw [Call.perform, addLexeme_eq, addReading, features_frame]
    rfl
  | accept tag => rw [Call.perform, accept_frame]
  | withLexiconRule name => exact absurd rfl (h name)
  | symbol | addReading | addMorphRule | addProduction | addRemark => rfl

theorem lexiconRule_after (h : ∀ name, .withLexiconRule name ∉ calls) :
    (b.after calls).lexiconRule = b.lexiconRule := by
  induction calls generalizing b with
  | nil => rfl
  | cons call rest ih =>
    have hrest : ∀ name, .withLexiconRule name ∉ rest :=
      fun name hmem ↦ h name (List.mem_cons_of_mem call hmem)
    have hcall : ∀ name, call ≠ .withLexiconRule name :=
      fun name heq ↦ h name (heq ▸ List.mem_cons_self)
    rw [after_cons, ih hrest, lexiconRule_perform hcall]

/-- The last of the calls that ask for a rule of the lexicon. -/
theorem exists_last_withLexiconRule {name : String} (h : .withLexiconRule name ∈ calls) :
    ∃ before last rest, calls = before ++ .withLexiconRule last :: rest ∧
      ∀ other, .withLexiconRule other ∉ rest := by
  induction calls generalizing name with
  | nil => exact absurd h List.not_mem_nil
  | cons call rest ih =>
    by_cases hlater : ∃ other, .withLexiconRule other ∈ rest
    · obtain ⟨other, hother⟩ := hlater
      obtain ⟨before, last, others, rfl, hnone⟩ := ih hother
      exact ⟨call :: before, last, others, rfl, hnone⟩
    · have hnone := not_exists.mp hlater
      rcases List.mem_cons.mp h with rfl | hmem
      · exact ⟨[], name, rest, rfl, hnone⟩
      · exact absurd hmem (hnone name)

/-- The rule of the lexicon has the name that was given last. -/
theorem lexiconRule_of_last {before rest : List Call} {name : String}
    (hrest : ∀ other, .withLexiconRule other ∉ rest) :
    (b.after (before ++ .withLexiconRule name :: rest)).lexiconRule = some name := by
  rw [after_append, after_cons, lexiconRule_after hrest]
  rfl

end Morphology.GrammarBuilder
