import Morphology.Proofs.Analysis.OrderIndependence
import Morphology.Proofs.Analysis.Transfer
import Morphology.Proofs.Search.SharedWays

/-!
# Analyses with extended grammars

A grammar can be extended by further rules and by further readings of stems, put anywhere between
those that it has. Then more places of a text may be visited, nodes get other numbers, and what was
found in one pass may be found in another one. Still, whatever the grammar has found before is
found.
-/

namespace Morphology

/-- Whatever a program can do, it can do with a lexicon that has more readings. -/
theorem Execution.shares_of_readings {e : Execution.Setting} {lexicon : Lexicon}
    (h : ∀ stem, e.lexicon.readings stem ⊆ lexicon.readings stem) (i : Instruction) :
    Execution.Shares e { e with lexicon } (fun _ ↦ True) (fun _ ↦ True) i where
  keeps_known _ _ _ _ _ := trivial
  keeps_outside _ _ _ houtside _ := absurd trivial houtside
  leads hbasic s t _ _ ht := by
    apply Leads.mem
    cases leads_of_mem hbasic ht with
    | read hn => exact .read hn
    | openCapture id => exact .openCapture id
    | closeCapture hopened => exact .closeCapture hopened
    | lookup hcaptured hreading hunify => exact .lookup hcaptured (h _ hreading) hunify
    | unify hunify => exact .unify hunify
    | @assign _ source _ _ hvalue hadd =>
      have hsource : sourceValue { e with lexicon } s source = sourceValue e s source := by
        cases source <;> rfl
      exact .assign (hsource.trans hvalue) hadd
    | tag symbol => exact .tag symbol

namespace Grammar

variable {a b : Grammar}

/-- A grammar has all rules and all readings of another one, and maybe more; the symbols and the
accepted tags are the same. -/
structure Extends (b a : Grammar) : Prop where
  symbols_eq : b.symbols = a.symbols
  accepted_eq : b.rules.accepted = a.rules.accepted
  morphs : a.rules.morphs ⊆ b.rules.morphs
  productions : a.rules.productions ⊆ b.rules.productions
  readings : ∀ stem, a.lexicon.readings stem ⊆ b.lexicon.readings stem

theorem Extends.transfers (h : b.Extends a) (text : List Char) (bound : Nat) :
    a.Transfers b text text bound where
  morphs _ hrule := h.morphs hrule
  productions _ hrule := h.productions hrule
  ways rule _ place _ hs _ :=
    Execution.shared_program (e := rule.setting text a.lexicon place) trivial trivial rule.program
      (fun i _ ↦ Execution.shares_of_readings h.readings i) hs

/-- Extending a grammar loses no analysis: where a text can be analysed with the extended grammar,
it can be analysed with the grammar itself, and the trees that this finds are found with the
extended grammar, with the same tags, structures and boundaries of morphs. -/
theorem outlines_of_extends {a b : Grammar} (h : b.Extends a) (options : Options) {text : String}
    {y : Analysis} (hy : b.analyzeWith { options with budget := none } text = .ok y) :
    ∃ x, a.analyzeWith { options with budget := none } text = .ok x ∧
      x.trees.map Derivation.outline ⊆ y.trees.map Derivation.outline := by
  have htransfers := h.transfers text.toList text.toList.length
  have hshallow : b.Shallow text.toList := (exists_analysis_iff _ _ _).mp ⟨y, hy⟩
  obtain ⟨x, hx⟩ := (exists_analysis_iff a options text).mpr
    (htransfers.shallow hshallow (Nat.le_refl _))
  obtain ⟨items, hx_outlines, -, hx_items⟩ := outlines_of_analyzeWith hx
  obtain ⟨others, hy_outlines, -, hy_items⟩ := outlines_of_analyzeWith hy
  refine ⟨x, hx, ?_⟩
  rw [hx_outlines, hy_outlines]
  refine List.map_subset _ fun item hmem ↦ ?_
  obtain ⟨hitem, hstart, hstop, haccepts⟩ := (hx_items item).mp hmem
  refine (hy_items item).mpr ⟨?_, hstart, hstop, ?_⟩
  · have hbeginning : Segmentation.Reachable a text.toList item.start :=
      hstart.symm ▸ .beginning
    exact htransfers.derivable hshallow hitem hbeginning (Nat.le_of_eq hstop)
  · unfold Rules.accepts at haccepts ⊢
    rw [h.accepted_eq]
    exact haccepts

/-- A part of the grammar `stems`, in which the letter a can be a verb only by conversion. -/
def nouns : Grammar where
  symbols := stems.symbols
  lexicon := .ofEntries [("a", ⟨.empty, ⟨0⟩⟩)]
  rules :=
    { morphs := [.ofLexicon "stem" 1]
      productions :=
        [⟨"compound", [.exactly ⟨1⟩, .any], ⟨0⟩, []⟩, ⟨"conversion", [.exactly ⟨0⟩], ⟨1⟩, []⟩] }
  rules_valid := by rfl
  lexicon_valid := by decide +kernel

theorem stems_extends : stems.Extends nouns where
  symbols_eq := rfl
  accepted_eq := rfl
  morphs := by simp [nouns, stems]
  productions := by simp [nouns, stems]
  readings stem reading hreading := by
    have hmem := ((Lexicon.readings_ofEntries _ stem).2 reading).mp hreading
    exact ((Lexicon.readings_ofEntries _ stem).2 reading).mpr (List.mem_append_left _ hmem)

/-- Two letters are a compound of a converted noun and a noun, for both grammars. -/
theorem outlines_of_extends_stems : stems.Extends nouns ∧
    ∃ x y, nouns.analyzeWith { budget := none } "aa" = .ok x ∧
      stems.analyzeWith { budget := none } "aa" = .ok y ∧
      x.trees.map Derivation.outline ⊆ y.trees.map Derivation.outline ∧
        x.trees.map (fun tree ↦ (tree.rule, tree.boundaries)) =
          [("compound", [1]), ("conversion", [1])] := by
  have hnouns : (nouns.treesIn { budget := none } "aa" 4).map
      (·.map fun tree ↦ (tree.rule, tree.boundaries)) =
        some [("compound", [1]), ("conversion", [1])] := by
    decide +kernel
  have hstems : (stems.treesIn { budget := none } "aa" 4).isSome := by decide +kernel
  obtain ⟨trees, hin, htrees⟩ := Option.map_eq_some_iff.mp hnouns
  obtain ⟨x, hx, rfl⟩ := analyzeWith_of_treesIn hin
  obtain ⟨trees', hin'⟩ := Option.isSome_iff_exists.mp hstems
  obtain ⟨y, hy, -⟩ := analyzeWith_of_treesIn hin'
  obtain ⟨x', hx', hsubset⟩ := outlines_of_extends stems_extends {} hy
  obtain rfl : x = x' := Except.ok.inj (hx.symm.trans hx')
  exact ⟨stems_extends, x, y, hx, hy, hsubset, htrees⟩

end Grammar

end Morphology
