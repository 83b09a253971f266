import Morphology.Proofs.Analysis.Trees
import Morphology.Proofs.Rule.Mentions

/-!
# Defined symbols

The checks of a grammar look at every place of its rules and its lexicon where a symbol is written.
Nothing else brings symbols into a search, so that every symbol of a result is in the symbol table
of the grammar, and has a name.
-/

namespace Morphology

/-! ## Symbols of rules -/

namespace Instruction

/-- A symbol that occurs in an instruction occurs wherever that instruction is a part. -/
theorem mentions_of_mem_basics {symbol : Symbol} {i j : Instruction} (hj : j ∈ i.basics)
    (h : j.Mentions symbol) : i.Mentions symbol := by
  match i with
  | .choice branches =>
    rw [basics] at hj
    obtain ⟨branch, hbranch, hj⟩ := mem_basicsOfBranches.mp hj
    obtain ⟨first, hfirst, hj⟩ := mem_basicsOfProgram.mp hj
    exact .branch hbranch hfirst (mentions_of_mem_basics hj h)
  | .read _ | .openCapture _ | .closeCapture _ | .lookup _ | .unify _ | .assign _ _ | .tag _ =>
    exact List.mem_singleton.mp hj ▸ h
termination_by i
decreasing_by
  have hfirstSize := List.sizeOf_lt_of_mem hfirst
  have hbranchSize := List.sizeOf_lt_of_mem hbranch
  rw [choice.sizeOf_spec]
  omega

theorem fits_ofSymbols {P : Symbol → Prop} {i : Instruction} (h : ∀ symbol ∈ i.symbols, P symbol) :
    i.Fits (.ofSymbols P) := by
  cases i with
  | unify features => exact h
  | assign attr source =>
    cases source with
    | constant value =>
      rw [symbols, List.forall_mem_cons] at h
      exact h
    | capture | surface => exact h attr List.mem_cons_self
  | read | openCapture | closeCapture | lookup | tag | choice => exact trivial

end Instruction

/-- The symbols of a morph rule are those of the instructions that make up its program. -/
theorem MorphRule.mem_symbols_of_mem_basics {rule : MorphRule} {i : Instruction} {symbol : Symbol}
    (hi : i ∈ Instruction.basicsOfProgram rule.program) (hs : symbol ∈ i.symbols) :
    symbol ∈ rule.symbols := by
  obtain ⟨first, hfirst, hi⟩ := Instruction.mem_basicsOfProgram.mp hi
  have hmentions := Instruction.mentions_of_mem_basics hi (Instruction.mem_symbols_iff.mp hs)
  exact MorphRule.mem_symbols_iff.mpr (.inr ⟨first, hfirst, hmentions⟩)

theorem Operation.fits_ofSymbols {P : Symbol → Prop} {op : Operation}
    (h : ∀ symbol, .symbol symbol ∈ op.references → P symbol) : op.Fits (.ofSymbols P) := by
  cases op with
  | fixed features => exact fun symbol hs ↦ h symbol (List.mem_map.mpr ⟨symbol, hs, rfl⟩)
  | copy index attr => exact h attr (by simp [references])
  | agree attr left right => exact h attr (by simp [references])
  | nest attr index => exact h attr (by simp [references])
  | collect attr indices => exact ⟨h attr List.mem_cons_self, trivial⟩
  | child | check => exact trivial

namespace Grammar

variable {grammar : Grammar} {text : List Char}

/-- Whatever a grammar brings along has symbols of its table only. -/
theorem fits_defined (grammar : Grammar) (text : List Char) :
    grammar.Fits text (.ofSymbols fun symbol ↦ grammar.symbols.contains symbol) where
  instructions rule hrule i hi := by
    refine Instruction.fits_ofSymbols fun symbol hs ↦ ?_
    exact MorphRule.contains_of_validate (grammar.validate_morphRule hrule)
      (MorphRule.mem_symbols_of_mem_basics hi hs)
  operations rule hrule op hop := by
    refine Operation.fits_ofSymbols fun symbol hs ↦ ?_
    exact Production.contains_of_validate (grammar.validate_production hrule)
      (List.mem_append_right _ (List.mem_flatMap.mpr ⟨op, hop, hs⟩))
  readings entry hentry symbol hs :=
    Lexicon.contains_of_validate grammar.lexicon_valid hentry (List.mem_cons_of_mem _ hs)
  pieces piece _ symbol hs := absurd hs List.not_mem_nil

/-! ## Tags -/

theorem contains_tag_of_mem_ways {rule : MorphRule} (hrule : rule ∈ grammar.rules.morphs)
    {start : Nat} {s : Execution.State} (hs : s ∈ rule.ways text grammar.lexicon start) {tag : Symbol}
    (htag : s.tag = some tag) : grammar.symbols.contains tag := by
  have hrules {symbol : Symbol} (hsymbol : symbol ∈ rule.symbols) :
      grammar.symbols.contains symbol :=
    MorphRule.contains_of_validate (grammar.validate_morphRule hrule) hsymbol
  have hinitial (tag : Symbol) (htag : (rule.initial start).tag = some tag) :
      grammar.symbols.contains tag := hrules (List.mem_append_left _ (Option.mem_toList.mpr htag))
  have hbasics : ∀ i ∈ Instruction.basicsOfProgram rule.program,
      Execution.Preserves (rule.setting text grammar.lexicon start)
        (fun s ↦ ∀ tag, s.tag = some tag → grammar.symbols.contains tag) i := by
    intro i hi hbasic s t hs ht tag htag
    cases Execution.leads_of_mem hbasic ht with
    | read | openCapture | closeCapture | unify | assign => exact hs tag htag
    | lookup _ hreading _ =>
      obtain rfl := Option.some.inj htag
      exact Lexicon.contains_of_validate grammar.lexicon_valid (Lexicon.mem_toList hreading)
        List.mem_cons_self
    | tag symbol =>
      obtain rfl := Option.some.inj htag
      exact hrules (MorphRule.mem_symbols_of_mem_basics hi List.mem_cons_self)
  exact Execution.preserves_program hinitial rule.program hbasics hs tag htag

theorem contains_tag_of_justified {chart : Chart} (h : chart.Justified grammar text) {id : Nat}
    {node : Node} (hnode : chart.get? id = some node) : grammar.symbols.contains node.tag := by
  cases h id node hnode with
  | morph number origin_eq found start_le cuts_eq =>
    obtain ⟨rule, hrule, -, s, hs, hend⟩ := found.exists_way
    obtain ⟨tag, htag, hmorph⟩ := Option.map_eq_some_iff.mp hend
    rw [← (Morph.mk.inj hmorph).2.2]
    exact contains_tag_of_mem_ways (List.mem_of_getElem? hrule) hs htag
  | production route rule nodes admits earlier made =>
    have htag : node.tag = rule.result := (Grammar.makes_of_admits admits made).1.tag_eq
    rw [htag]
    exact Production.contains_of_validate
      (grammar.validate_production (List.mem_of_getElem? admits.rule_eq)) List.mem_cons_self

/-! ## Symbols of results -/

/-- The tag and the structure of a node have defined symbols only. -/
theorem covers_of_justified {chart : Chart} (h : chart.Justified grammar text) {id : Nat}
    {node : Node} (hnode : chart.get? id = some node) :
    grammar.symbols.Covers (.atom node.tag) ∧ grammar.symbols.Covers (.nested node.features) := by
  constructor
  · refine SymbolTable.covers_of_contains fun symbol hs ↦ ?_
    rw [List.mem_singleton.mp hs]
    exact contains_tag_of_justified h hnode
  · exact SymbolTable.covers_of_contains ((fits_defined grammar text).of_justified h hnode)

/-- The symbols of every result of an analysis are in the table of the grammar: those of all parts
of its trees, of the entries of its chart, and of the list of its structures. -/
theorem covers_of_analyzeWith {options : Options} {text : String} {a : Analysis}
    (h : grammar.analyzeWith options text = .ok a) :
    (∀ tree ∈ a.trees, ∀ part : Derivation, part.IsPartOf tree →
      grammar.symbols.Covers (.atom part.tag) ∧ grammar.symbols.Covers (.nested part.features)) ∧
    (∀ report, a.chart = some report → ∀ entry ∈ report.entries,
      grammar.symbols.Covers (.atom entry.tag) ∧ grammar.symbols.Covers (.nested entry.features)) ∧
    ∀ list, a.list = some list → grammar.symbols.Covers list := by
  obtain ⟨s, hyields, htrees, hlist, hchart⟩ := shown_of_analyzeWith h
  have hjustified := justified_of_search hyields
  have hparts : ∀ tree ∈ a.trees, ∀ part : Derivation, part.IsPartOf tree →
      grammar.symbols.Covers (.atom part.tag) ∧
        grammar.symbols.Covers (.nested part.features) := by
    intro tree htree part hpart
    rw [htrees] at htree
    obtain ⟨id, -, htree⟩ := List.mem_filterMap.mp htree
    obtain ⟨number, hnumber⟩ := exists_of_isPartOf hjustified rfl ⟨id, htree⟩ hpart
    obtain ⟨node, hnode, rfl⟩ := Chart.exists_node_of_derivations hjustified hnumber
    exact covers_of_justified hjustified hnode
  refine ⟨hparts, fun report hreport entry hentry ↦ ?_, fun list hshown ↦ ?_⟩
  · rw [hchart] at hreport
    split at hreport
    next =>
      obtain rfl := Option.some.inj hreport
      obtain ⟨⟨id, node⟩, hnode, rfl⟩ := List.mem_map.mp hentry
      exact covers_of_justified hjustified (Chart.mem_entries.mp hnode)
    next => exact absurd hreport nofun
  · rw [hlist] at hshown
    split at hshown
    next =>
      obtain rfl := Option.some.inj hshown
      refine SymbolTable.covers_of_contains fun symbol hs ↦ ?_
      obtain ⟨v, hv, hs⟩ := Value.mem_symbols_list.mp hs
      obtain ⟨tree, htree, rfl⟩ := List.mem_map.mp hv
      exact (hparts tree htree tree .refl).2.contains symbol hs
    next => exact absurd hshown nofun

/-- A grammar of nouns that consist of the letter a. A pair of nouns is a noun that has the
structures of both in a list, and the first one also by itself. -/
def pairs : Grammar where
  symbols := .ofNames ["word", "class", "noun", "parts", "first"]
  lexicon := ∅
  rules :=
    { morphs :=
        [{  name := "letter"
            tag := some ⟨0⟩
            program := [.read (.literal ['a']), .unify [(⟨1⟩, .atom ⟨2⟩)]] }]
      productions :=
        [{  name := "pair"
            pattern := [.exactly ⟨0⟩, .exactly ⟨0⟩]
            result := ⟨0⟩
            operations := [.nest ⟨4⟩ 0, .collect ⟨3⟩ [0, 1]] }]
      accepted := [⟨0⟩] }
  rules_valid := by rfl
  lexicon_valid := by rfl

theorem pairs_analysis : ∃ a, pairs.analyzeWith { asList := true, retainChart := true } "aa" = .ok a ∧
    a.trees.map (·.features) = [[
      (⟨3⟩, .list [.nested [(⟨1⟩, .atom ⟨2⟩)], .nested [(⟨1⟩, .atom ⟨2⟩)]]),
      (⟨4⟩, .nested [(⟨1⟩, .atom ⟨2⟩)])]] := by
  have htrees : (pairs.treesIn { asList := true, retainChart := true } "aa" 3).map
      (·.map (·.features)) = some [[
        (⟨3⟩, .list [.nested [(⟨1⟩, .atom ⟨2⟩)], .nested [(⟨1⟩, .atom ⟨2⟩)]]),
        (⟨4⟩, .nested [(⟨1⟩, .atom ⟨2⟩)])]] := by
    decide +kernel
  obtain ⟨trees, hin, htrees⟩ := Option.map_eq_some_iff.mp htrees
  obtain ⟨a, ha, rfl⟩ := analyzeWith_of_treesIn hin
  exact ⟨a, ha, htrees⟩

/-- The structure of a pair is written with names at every level. -/
theorem covers_of_analyzeWith_pairs : ∃ a list report,
    pairs.analyzeWith { asList := true, retainChart := true } "aa" = .ok a ∧
      a.list = some list ∧ a.chart = some report ∧
      list.spell? pairs.symbols =
        some "<[parts: <[class: noun], [class: noun]>, first: [class: noun]]>" ∧
      ∀ entry ∈ report.entries, pairs.symbols.Covers (.nested entry.features) := by
  obtain ⟨a, ha, hfeatures⟩ := pairs_analysis
  obtain ⟨s, -, -, hlist, hchart⟩ := shown_of_analyzeWith ha
  obtain ⟨-, hentries, hcovers⟩ := covers_of_analyzeWith ha
  have hvalues : a.trees.map (fun tree ↦ Value.nested tree.features) =
      (a.trees.map (·.features)).map Value.nested := by
    rw [List.map_map]
    rfl
  rw [if_pos rfl, hvalues, hfeatures] at hlist
  rw [if_pos rfl] at hchart
  refine ⟨a, _, _, ha, hlist, hchart, ?_, fun entry hentry ↦ (hentries _ hchart entry hentry).2⟩
  rw [(hcovers _ hlist).spell?_eq]
  decide +kernel

end Grammar

end Morphology
