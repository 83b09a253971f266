import Morphology.Proofs.Grammar.Validity
import Morphology.Proofs.Rule.Mentions

/-!
# Well-formed grammars

A grammar can be put together exactly if it is well-formed: its rules have names of their own, all
symbols that occur in it are in its table, its programs use captures properly and its productions
combine something and refer to what they combine. Otherwise the first rule is blamed that repeats
the name of an earlier one or that is not well-formed, then the first tag that is accepted but not
in the table, and then a reading.
-/

namespace Morphology

/-- A symbol occurs in a reading. -/
def Reading.Mentions (reading : Reading) (s : Symbol) : Prop :=
  reading.tag = s ∨ reading.features.Mentions s

/-! ## Well-formed rules -/

structure MorphRule.WellFormed (table : SymbolTable) (rule : MorphRule) : Prop where
  defined : ∀ s, rule.Mentions s → table.contains s
  flows : Flow.check rule.program rule.tag.isSome = .ok ()

structure Production.WellFormed (table : SymbolTable) (rule : Production) : Prop where
  pattern_ne : rule.pattern ≠ []
  defined : ∀ s, rule.Mentions s → table.contains s
  children : ∀ op ∈ rule.operations, ∀ index, op.RefersTo index → index < rule.pattern.length

/-- What can be wrong with a morph rule. -/
inductive MorphRule.HasDefect (table : SymbolTable) (rule : MorphRule) : Defect → Prop
  | undefinedSymbol {s : Symbol} (mentions : rule.Mentions s) (missing : ¬table.contains s) :
      HasDefect table rule (.undefinedSymbol s)
  | flow {defect : Defect} (h : Flow.check rule.program rule.tag.isSome = .error defect) :
      HasDefect table rule defect

/-- What can be wrong with a production. -/
inductive Production.HasDefect (table : SymbolTable) (rule : Production) : Defect → Prop
  | emptyPattern (h : rule.pattern = []) : HasDefect table rule .emptyPattern
  | undefinedSymbol {s : Symbol} (mentions : rule.Mentions s) (missing : ¬table.contains s) :
      HasDefect table rule (.undefinedSymbol s)
  | childOutOfRange {op : Operation} {index : Nat} (mem : op ∈ rule.operations)
      (refers : op.RefersTo index) (beyond : rule.pattern.length ≤ index) :
      HasDefect table rule (.childOutOfRange index rule.pattern.length)

/-- A rule of either kind. -/
inductive Rule
  | morph (rule : MorphRule)
  | production (rule : Production)

namespace Rule

def name : Rule → String
  | morph rule => rule.name
  | production rule => rule.name

def validate (table : SymbolTable) : Rule → Except Defect Unit
  | morph rule => rule.validate table
  | production rule => rule.validate table

def WellFormed (table : SymbolTable) : Rule → Prop
  | morph rule => rule.WellFormed table
  | production rule => rule.WellFormed table

def HasDefect (table : SymbolTable) (defect : Defect) : Rule → Prop
  | morph rule => rule.HasDefect table defect
  | production rule => rule.HasDefect table defect

end Rule

/-- All rules in the order in which they are checked. -/
def Rules.all (rules : Rules) : List Rule :=
  rules.morphs.map .morph ++ rules.productions.map .production

/-- Rules have names of their own and are well-formed. -/
structure Rule.AllWellFormed (table : SymbolTable) (rules : List Rule) : Prop where
  nodup_names : (rules.map Rule.name).Nodup
  wellFormed : ∀ rule ∈ rules, rule.WellFormed table

/-- The first rule is blamed that repeats the name of an earlier one or has a defect. A name that is
repeated counts for more than a defect. -/
inductive Rule.Blames (table : SymbolTable) (rules : List Rule) : GrammarError → Prop
  | repeated {before after : List Rule} {rule : Rule} (split : rules = before ++ rule :: after)
      (earlier : AllWellFormed table before) (known : rule.name ∈ before.map Rule.name) :
      Blames table rules (.duplicateRule rule.name)
  | defective {before after : List Rule} {rule : Rule} {defect : Defect}
      (split : rules = before ++ rule :: after) (earlier : AllWellFormed table before)
      (new : rule.name ∉ before.map Rule.name) (hasDefect : rule.HasDefect table defect) :
      Blames table rules (.defectiveRule rule.name defect)

namespace Grammar

/-- Symbols, lexicon and rules fit together. -/
structure WellFormed (table : SymbolTable) (lexicon : Lexicon) (rules : Rules) : Prop where
  rules_wellFormed : Rule.AllWellFormed table rules.all
  accepted : ∀ tag ∈ rules.accepted, table.contains tag
  lexicon : ∀ entry ∈ lexicon.toList, ∀ s, entry.2.Mentions s → table.contains s

/-- What is reported when symbols, lexicon and rules do not fit together. -/
inductive Blames (table : SymbolTable) (lexicon : Lexicon) (rules : Rules) : GrammarError → Prop
  | rule {e : GrammarError} (h : Rule.Blames table rules.all e) : Blames table lexicon rules e
  | accepted {before after : List Symbol} {tag : Symbol}
      (fine : Rule.AllWellFormed table rules.all) (split : rules.accepted = before ++ tag :: after)
      (earlier : ∀ other ∈ before, table.contains other) (missing : ¬table.contains tag) :
      Blames table lexicon rules (.undefinedAccepted tag)
  | reading {stem : String} {reading : Reading} {s : Symbol}
      (fine : Rule.AllWellFormed table rules.all)
      (accepted : ∀ tag ∈ rules.accepted, table.contains tag)
      (mem : (stem, reading) ∈ lexicon.toList) (mentions : reading.Mentions s)
      (missing : ¬table.contains s) :
      Blames table lexicon rules (.defectiveRule (entryName stem) (.undefinedSymbol s))

end Grammar

/-! ## Single rules -/

variable {table : SymbolTable}

namespace Reference

theorem defect_of_checkAll {arity : Nat} {references : List Reference} {defect : Defect}
    (h : checkAll table arity references = .error defect) :
    ∃ reference ∈ references, reference.defect? table arity = some defect := by
  rw [checkAll] at h
  split at h
  next found hfound =>
    obtain rfl := Except.error.inj h
    exact List.exists_of_findSome?_eq_some hfound
  next => simp at h

end Reference

namespace MorphRule

variable {rule : MorphRule}

theorem checkAll_symbols_eq_ok_iff :
    Reference.checkAll table 0 (rule.symbols.map .symbol) = .ok () ↔
      ∀ s, rule.Mentions s → table.contains s := by
  rw [Reference.checkAll_eq_ok_iff, List.forall_mem_map]
  simp only [Reference.defect?_symbol_eq_none_iff, mem_symbols_iff]

theorem validate_eq_ok_iff : rule.validate table = .ok () ↔ rule.WellFormed table := by
  unfold validate
  cases hsymbols : Reference.checkAll table 0 (rule.symbols.map .symbol) with
  | error defect =>
    refine iff_of_false nofun fun h ↦ ?_
    exact absurd (hsymbols.symm.trans (checkAll_symbols_eq_ok_iff.mpr h.defined)) nofun
  | ok => exact ⟨fun h ↦ ⟨checkAll_symbols_eq_ok_iff.mp hsymbols, h⟩, WellFormed.flows⟩

theorem hasDefect_of_validate {defect : Defect} (h : rule.validate table = .error defect) :
    rule.HasDefect table defect := by
  unfold validate at h
  cases hsymbols : Reference.checkAll table 0 (rule.symbols.map .symbol) with
  | error other =>
    rw [hsymbols] at h
    obtain rfl : other = defect := Except.error.inj h
    obtain ⟨reference, hmem, hdefect⟩ := Reference.defect_of_checkAll hsymbols
    obtain ⟨s, hs, rfl⟩ := List.mem_map.mp hmem
    obtain ⟨hmissing, rfl⟩ := Reference.defect?_symbol_eq_some_iff.mp hdefect
    exact .undefinedSymbol (mem_symbols_iff.mp hs) hmissing
  | ok =>
    rw [hsymbols] at h
    exact .flow h

end MorphRule

namespace Production

variable {rule : Production}

theorem checkAll_references_eq_ok_iff :
    Reference.checkAll table rule.pattern.length rule.references = .ok () ↔
      (∀ s, rule.Mentions s → table.contains s) ∧
        ∀ op ∈ rule.operations, ∀ index, op.RefersTo index → index < rule.pattern.length := by
  rw [Reference.checkAll_eq_ok_iff]
  constructor
  · intro h
    refine ⟨fun s hs ↦ ?_, fun op hop index hindex ↦ ?_⟩
    · exact Reference.defect?_symbol_eq_none_iff.mp (h _ (symbol_mem_references.mpr hs))
    · have hreference := child_mem_references.mpr ⟨op, hop, hindex⟩
      exact Reference.defect?_child_eq_none_iff.mp (h _ hreference)
  · rintro ⟨hsymbols, hchildren⟩ (s | index) hmem
    · exact Reference.defect?_symbol_eq_none_iff.mpr (hsymbols s (symbol_mem_references.mp hmem))
    · obtain ⟨op, hop, hindex⟩ := child_mem_references.mp hmem
      exact Reference.defect?_child_eq_none_iff.mpr (hchildren op hop index hindex)

theorem validate_eq_ok_iff : rule.validate table = .ok () ↔ rule.WellFormed table := by
  unfold validate
  split
  next hempty =>
    exact iff_of_false nofun fun h ↦ h.pattern_ne (List.isEmpty_iff.mp hempty)
  next hpattern =>
    rw [checkAll_references_eq_ok_iff]
    refine ⟨fun ⟨hdefined, hchildren⟩ ↦ ⟨?_, hdefined, hchildren⟩, fun h ↦ ⟨h.defined, h.children⟩⟩
    exact fun hempty ↦ hpattern (List.isEmpty_iff.mpr hempty)

theorem hasDefect_of_validate {defect : Defect} (h : rule.validate table = .error defect) :
    rule.HasDefect table defect := by
  unfold validate at h
  split at h
  next hempty => exact Except.error.inj h ▸ .emptyPattern (List.isEmpty_iff.mp hempty)
  next =>
    obtain ⟨s | index, hmem, hdefect⟩ := Reference.defect_of_checkAll h
    · obtain ⟨hmissing, rfl⟩ := Reference.defect?_symbol_eq_some_iff.mp hdefect
      exact .undefinedSymbol (symbol_mem_references.mp hmem) hmissing
    · obtain ⟨op, hop, hindex⟩ := child_mem_references.mp hmem
      obtain ⟨hbeyond, rfl⟩ := Reference.defect?_child_eq_some_iff.mp hdefect
      exact .childOutOfRange hop hindex hbeyond

end Production

theorem Rules.firstError_cons (seen : List String) (name : String) (outcome : Except Defect Unit)
    (rest : List (String × Except Defect Unit)) :
    firstError seen ((name, outcome) :: rest) =
      if seen.contains name then .error (.duplicateRule name)
      else match outcome with
        | .error defect => .error (.defectiveRule name defect)
        | .ok () => firstError (name :: seen) rest := by
  cases outcome <;> rfl

namespace Rule

variable {rule : Rule}

theorem validate_eq_ok_iff : rule.validate table = .ok () ↔ rule.WellFormed table := by
  cases rule with
  | morph rule => exact MorphRule.validate_eq_ok_iff
  | production rule => exact Production.validate_eq_ok_iff

theorem hasDefect_of_validate {defect : Defect} (h : rule.validate table = .error defect) :
    rule.HasDefect table defect := by
  cases rule with
  | morph rule => exact MorphRule.hasDefect_of_validate h
  | production rule => exact Production.hasDefect_of_validate h

/-! ## All rules -/

/-- What is kept of a rule while rules are checked. -/
def outcome (table : SymbolTable) (rule : Rule) : String × Except Defect Unit :=
  (rule.name, rule.validate table)

theorem AllWellFormed.append_singleton {before : List Rule} (h : AllWellFormed table before)
    (hnew : rule.name ∉ before.map Rule.name) (hrule : rule.WellFormed table) :
    AllWellFormed table (before ++ [rule]) where
  nodup_names := by
    rw [List.map_append, List.map_singleton, ← List.concat_eq_append]
    exact h.nodup_names.concat hnew
  wellFormed := by
    intro other hother
    rcases List.mem_append.mp hother with hbefore | hlast
    · exact h.wellFormed other hbefore
    · exact List.mem_singleton.mp hlast ▸ hrule

/-- Checking the rest of some rules accepts all of them if they are well-formed, and otherwise
blames the first that is not. -/
theorem firstError_spec {before : List Rule} (hbefore : AllWellFormed table before)
    {seen : List String} (hseen : ∀ name, name ∈ seen ↔ name ∈ before.map Rule.name)
    (rest : List Rule) :
    match Rules.firstError seen (rest.map (outcome table)) with
    | .ok () => AllWellFormed table (before ++ rest)
    | .error e => Blames table (before ++ rest) e := by
  induction rest generalizing before seen with
  | nil =>
    rw [List.append_nil]
    exact hbefore
  | cons rule rest ih =>
    rw [List.map_cons, outcome, Rules.firstError_cons]
    by_cases hknown : rule.name ∈ seen
    · rw [if_pos (List.contains_iff_mem.mpr hknown)]
      exact .repeated rfl hbefore ((hseen _).mp hknown)
    · have hnew : rule.name ∉ before.map Rule.name := fun hmem ↦ hknown ((hseen _).mpr hmem)
      rw [if_neg fun hcontains ↦ hknown (List.contains_iff_mem.mp hcontains)]
      cases houtcome : rule.validate table with
      | error defect => exact .defective rfl hbefore hnew (hasDefect_of_validate houtcome)
      | ok =>
        have hrule := validate_eq_ok_iff.mp houtcome
        have hnames (name : String) : name ∈ rule.name :: seen ↔
            name ∈ (before ++ [rule]).map Rule.name := by
          simp [hseen, or_comm]
        have hlater := ih (hbefore.append_singleton hnew hrule) hnames
        rwa [List.append_assoc] at hlater

/-- Rules that are not all well-formed are not fine. -/
theorem Blames.not_allWellFormed {rules : List Rule} {e : GrammarError} (h : Blames table rules e) :
    ¬AllWellFormed table rules := by
  intro hall
  cases h with
  | repeated split _ known =>
    have hnodup := hall.nodup_names
    rw [split, List.map_append, List.map_cons] at hnodup
    exact (List.nodup_append.mp hnodup).2.2 _ known _ List.mem_cons_self rfl
  | @defective before after rule defect split _ _ hasDefect =>
    have hrule := hall.wellFormed rule (split ▸ List.mem_append_right _ List.mem_cons_self)
    cases rule with
    | morph rule =>
      cases hasDefect with
      | undefinedSymbol mentions missing => exact missing (hrule.defined _ mentions)
      | flow h => exact absurd (h.symm.trans hrule.flows) nofun
    | production rule =>
      cases hasDefect with
      | emptyPattern h => exact hrule.pattern_ne h
      | undefinedSymbol mentions missing => exact missing (hrule.defined _ mentions)
      | childOutOfRange mem refers beyond =>
        exact Nat.not_lt.mpr beyond (hrule.children _ mem _ refers)

end Rule

namespace Rules

theorem outcomes_eq (table : SymbolTable) (rules : Rules) :
    rules.outcomes table = rules.all.map (Rule.outcome table) := by
  rw [outcomes, all, List.map_append, List.map_map, List.map_map]
  rfl

theorem firstError_outcomes (table : SymbolTable) (rules : Rules) :
    match firstError [] (rules.outcomes table) with
    | .ok () => Rule.AllWellFormed table rules.all
    | .error e => Rule.Blames table rules.all e := by
  have hnone : Rule.AllWellFormed table [] := ⟨List.nodup_nil, fun _ h ↦ absurd h List.not_mem_nil⟩
  rw [outcomes_eq]
  exact Rule.firstError_spec hnone (fun _ ↦ Iff.rfl) rules.all

/-- Rules are accepted if they are well-formed and the accepted tags are in the table. -/
theorem validate_spec (table : SymbolTable) (lexicon : Lexicon) (rules : Rules) :
    match rules.validate table with
    | .ok () => Rule.AllWellFormed table rules.all ∧ ∀ tag ∈ rules.accepted, table.contains tag
    | .error e => Grammar.Blames table lexicon rules e := by
  have hspec := firstError_outcomes table rules
  unfold validate
  cases hfirst : firstError [] (rules.outcomes table) with
  | error e =>
    rw [hfirst] at hspec
    exact .rule hspec
  | ok =>
    rw [hfirst] at hspec
    cases hfind : rules.accepted.find? fun tag ↦ !table.contains tag with
    | some tag =>
      obtain ⟨hmissing, before, after, hsplit, hearlier⟩ := List.find?_eq_some_iff_append.mp hfind
      simp only [bind, Except.bind]
      exact .accepted hspec hsplit (by simpa using hearlier) (by simpa using hmissing)
    | none =>
      simp only [bind, Except.bind]
      exact ⟨hspec, by simpa using List.find?_eq_none.mp hfind⟩

end Rules

/-! ## Grammars -/

theorem Reading.mem_symbols_iff {reading : Reading} {s : Symbol} :
    s ∈ reading.symbols ↔ reading.Mentions s := by
  rw [symbols, List.mem_cons, Structure.mem_symbols_iff, Mentions, eq_comm]

theorem Lexicon.exists_entry_of_validate {lexicon : Lexicon} {e : GrammarError}
    (h : lexicon.validate table = .error e) :
    ∃ stem reading s, (stem, reading) ∈ lexicon.toList ∧ reading.Mentions s ∧ ¬table.contains s ∧
      e = .defectiveRule (entryName stem) (.undefinedSymbol s) := by
  unfold validate at h
  simp only at h
  split at h
  next stem s hfound =>
    obtain ⟨⟨other, reading⟩, hentry, hfirst⟩ := List.exists_of_findSome?_eq_some hfound
    obtain ⟨t, hfind, heq⟩ := Option.map_eq_some_iff.mp hfirst
    obtain ⟨rfl, rfl⟩ := Prod.mk.inj heq
    have hmissing : ¬table.contains t := by simpa using List.find?_some hfind
    exact ⟨other, reading, t, hentry, Reading.mem_symbols_iff.mp (List.mem_of_find?_eq_some hfind),
      hmissing, (Except.error.inj h).symm⟩
  next => exact absurd h nofun

namespace Grammar

theorem blames_of_make {lexicon : Lexicon} {rules : Rules} {e : GrammarError}
    (h : make table lexicon rules = .error e) : Blames table lexicon rules e := by
  unfold make at h
  split at h
  next other hrules =>
    obtain rfl : other = e := Except.error.inj h
    have hspec := Rules.validate_spec table lexicon rules
    rw [hrules] at hspec
    exact hspec
  next hrules =>
    split at h
    next other hlexicon =>
      obtain rfl : other = e := Except.error.inj h
      have hspec := Rules.validate_spec table lexicon rules
      rw [hrules] at hspec
      obtain ⟨hfine, haccepted⟩ := hspec
      obtain ⟨stem, reading, s, hmem, hmentions, hmissing, rfl⟩ :=
        Lexicon.exists_entry_of_validate hlexicon
      exact .reading hfine haccepted hmem hmentions hmissing
    next => exact absurd h nofun

theorem Blames.not_wellFormed {lexicon : Lexicon} {rules : Rules} {e : GrammarError}
    (h : Blames table lexicon rules e) : ¬WellFormed table lexicon rules := by
  intro hall
  cases h with
  | rule h => exact h.not_allWellFormed hall.rules_wellFormed
  | accepted _ split _ missing =>
    exact missing (hall.accepted _ (split ▸ List.mem_append_right _ List.mem_cons_self))
  | reading _ _ mem mentions missing => exact missing (hall.lexicon _ mem _ mentions)

theorem wellFormed (grammar : Grammar) :
    WellFormed grammar.symbols grammar.lexicon grammar.rules := by
  have hspec := Rules.validate_spec grammar.symbols grammar.lexicon grammar.rules
  rw [grammar.rules_valid] at hspec
  refine ⟨hspec.1, hspec.2, fun entry hentry s hmentions ↦ ?_⟩
  exact Lexicon.contains_of_validate grammar.lexicon_valid hentry
    (Reading.mem_symbols_iff.mpr hmentions)

/-- Symbols, lexicon and rules can be put together exactly if they are well-formed, and then the
grammar has these and no others. If they cannot, the first rule is blamed that repeats a name or has
a defect of its own; only if there is none, the first tag that is accepted and not in the table; and
only if there is none either, a reading. -/
theorem make_accepts_wellFormed (table : SymbolTable) (lexicon : Lexicon) (rules : Rules) :
    ((∃ grammar, make table lexicon rules = .ok grammar) ↔ WellFormed table lexicon rules) ∧
      (∀ grammar, make table lexicon rules = .ok grammar →
        grammar.symbols = table ∧ grammar.lexicon = lexicon ∧ grammar.rules = rules) ∧
      ∀ e, make table lexicon rules = .error e → Blames table lexicon rules e := by
  refine ⟨⟨?_, fun hall ↦ ?_⟩, fun grammar ↦ parts_of_make, fun e ↦ blames_of_make⟩
  · rintro ⟨grammar, h⟩
    obtain ⟨rfl, rfl, rfl⟩ := parts_of_make h
    exact grammar.wellFormed
  · cases h : make table lexicon rules with
    | ok grammar => exact ⟨grammar, rfl⟩
    | error e => exact absurd hall (blames_of_make h).not_wellFormed

/-- A rule that uses a symbol in a list in a branch. -/
def branchRule (name : String) (s : Symbol) : MorphRule where
  name
  tag := some ⟨0⟩
  program := [.choice [[], [.assign ⟨0⟩ (.constant (.list [.nested [(⟨0⟩, .atom s)]]))]]]

/-- The name is repeated in the rule that has the defect, which counts for more; with a name of its
own it is blamed for the symbol, which is deep inside of it. -/
theorem make_accepts_wellFormed_branches :
    make (.ofNames ["noun"]) ∅ { morphs := [branchRule "noun" ⟨0⟩, branchRule "noun" ⟨1⟩] } =
        .error (.duplicateRule "noun") ∧
      make (.ofNames ["noun"]) ∅
          { morphs := [branchRule "noun" ⟨0⟩, branchRule "verb" ⟨1⟩], accepted := [⟨2⟩] } =
        .error (.defectiveRule "verb" (.undefinedSymbol ⟨1⟩)) ∧
      WellFormed (.ofNames ["noun"]) ∅ { morphs := [branchRule "noun" ⟨0⟩, branchRule "verb" ⟨0⟩] } := by
  refine ⟨rfl, rfl, ?_⟩
  exact (make_accepts_wellFormed _ _ _).1.mp ⟨_, rfl⟩

end Grammar

end Morphology
