import Morphology.Proofs.Analysis.Boundaries
import Morphology.Proofs.Analysis.Completeness
import Morphology.Proofs.Analysis.StepLimit
import Morphology.Proofs.Search.ReorderedSaturation

/-!
# Analyses with reordered grammars

In which order a grammar lists its rules, and in which order the readings of its lexicon were added,
has no influence on what is found in a text, nor on the work that it takes. Only the numbers of the
nodes, the order of the trees, and which of several derivations stands for a node may differ.
-/

namespace Morphology

/-- What a derivation tells about the text that it covers, apart from how it was found. -/
def Derivation.outline (d : Derivation) : Symbol × Structure × List Nat :=
  (d.tag, d.features, d.boundaries)

def Item.outline (item : Item) : Symbol × Structure × List Nat :=
  (item.tag, item.features, item.cuts)

/-- Two analyses have found the same with the same work; their trees may be in different orders. -/
structure Analysis.Matches (x y : Analysis) : Prop where
  trees : (x.trees.map Derivation.outline).Perm (y.trees.map Derivation.outline)
  steps : x.steps = y.steps
  segmentation : x.segmentation = y.segmentation
  passes : x.passes = y.passes

/-- The trees of a search show the items that cover the text and have an accepted tag. -/
theorem Chart.map_outline_derivations {grammar : Grammar} {text : List Char} {chart : Chart}
    (h : chart.Justified grammar text) {ids : List Nat} {nodes : List Node}
    (hlists : chart.Lists ids nodes) :
    (ids.filterMap ((chart.derivations grammar.rules text)[·]?)).map Derivation.outline =
      (nodes.map Node.toItem).map Item.outline := by
  induction hlists with
  | nil => rfl
  | @cons id node ids nodes hnode _ ih =>
    have hfirst : (derivation grammar.rules text (chart.derivations grammar.rules text) id
        node).outline = node.toItem.outline := by
      unfold Derivation.outline Item.outline
      rw [boundaries_derivation h hnode]
      rfl
    rw [List.filterMap_cons_some (getElem?_derivations h hnode), List.map_cons, List.map_cons,
      List.map_cons, hfirst, ih]

namespace Grammar

variable {a b : Grammar}

/-- Both grammars make the same search. -/
theorem Reorders.agree_search (h : a.Reorders b) (text : List Char) :
    Search.Agree (fun found found' ↦ found.1 = found'.1 ∧
        Saturation.Alike a b found.2.1 found'.2.1 ∧ found.2.2 = found'.2.2)
      (a.search text) (b.search text) := by
  unfold search
  apply (Segmentation.agree_run h text).bind
  intro p q _ _ hpq
  have hinitial : Saturation.Alike a b { chart := p.chart } { chart := q.chart } :=
    ⟨hpq.items, List.Perm.refl [], Saturation.current_initial _ p.chart,
      Saturation.current_initial _ q.chart⟩
  apply (hinitial.agree_run h).bind
  intro (s, passes) (t, passes') _ _ ⟨hst, hpasses⟩
  exact Search.agree_pure ⟨hpq.counts, hst, hpasses⟩

/-- The trees of an analysis have the outlines of the derivable items that cover the text and have
an accepted tag, each of them once. -/
theorem outlines_of_analyzeWith {grammar : Grammar} {options : Options} {text : String}
    {x : Analysis} (h : grammar.analyzeWith options text = .ok x) :
    ∃ items : List Item, x.trees.map Derivation.outline = items.map Item.outline ∧ items.Nodup ∧
      ∀ item, item ∈ items ↔ grammar.Derivable text.toList item ∧ item.start = 0 ∧
        item.stop = text.toList.length ∧ grammar.rules.accepts item.tag := by
  obtain ⟨s, hyields, htrees⟩ := yields_of_analyzeWith h
  obtain ⟨nodes, hlists⟩ := s.chart.exists_lists_accepting grammar.rules text.toList.length
  refine ⟨nodes.map Node.toItem, ?_, hlists.nodup_items (s.chart.nodup_accepting _ _), fun item ↦ ?_⟩
  · rw [htrees]
    exact Chart.map_outline_derivations (justified_of_search hyields) hlists
  · rw [Chart.mem_accepting_items hlists]
    exact and_congr_left fun hplaced ↦ mem_items_iff_derivable hyields hplaced.1

/-- The same items are accepted by both grammars. -/
theorem Reorders.perm_trees (h : a.Reorders b) {text : List Char} {s t : Saturation}
    (hs : s.chart.Justified a text) (ht : t.chart.Justified b text)
    (hitems : s.chart.items.Perm t.chart.items) :
    ((a.trees text s).map Derivation.outline).Perm ((b.trees text t).map Derivation.outline) := by
  obtain ⟨nodes, hnodes⟩ := s.chart.exists_lists_accepting a.rules text.length
  obtain ⟨others, hothers⟩ := t.chart.exists_lists_accepting b.rules text.length
  have haccepts (tag : Symbol) : a.rules.accepts tag = b.rules.accepts tag := by
    unfold Rules.accepts
    rw [h.accepted_eq]
  have hsame : (nodes.map Node.toItem).Perm (others.map Node.toItem) := by
    apply (List.perm_ext_iff_of_nodup (hnodes.nodup_items (s.chart.nodup_accepting _ _))
      (hothers.nodup_items (t.chart.nodup_accepting _ _))).mpr
    intro item
    rw [Chart.mem_accepting_items hnodes, Chart.mem_accepting_items hothers, hitems.mem_iff,
      haccepts]
  unfold trees
  rw [Chart.map_outline_derivations hs hnodes, Chart.map_outline_derivations ht hothers]
  exact hsame.map Item.outline

/-- Two grammars that differ only in the order of their rules and readings find the same in every
text and make the same number of steps and passes on the way, or both of them fail. -/
theorem analyses_match {a b : Grammar} (h : a.Reorders b) (options : Options) (text : String) :
    let unlimited := { options with budget := none }
    (∃ x y, a.analyzeWith unlimited text = .ok x ∧ b.analyzeWith unlimited text = .ok y ∧
      x.Matches y) ∨
    ∃ d e, a.analyzeWith unlimited text = .error d ∧ b.analyzeWith unlimited text = .error e := by
  intro unlimited
  rcases (h.agree_search text.toList).outcome_unlimited with
    ⟨steps, ⟨segmentation, s, passes⟩, ⟨segmentation', t, passes'⟩, hfound, hfound', hsame⟩ |
      ⟨d, e, before, after, herror, herror'⟩
  · obtain ⟨rfl, hst, rfl⟩ : segmentation = segmentation' ∧ Saturation.Alike a b s t ∧
      passes = passes' := hsame
    obtain ⟨x, hx, hfindings⟩ :=
      exists_of_map_eq_ok (map_findings_analyzeWith a unlimited text hfound)
    obtain ⟨y, hy, hfindings'⟩ :=
      exists_of_map_eq_ok (map_findings_analyzeWith b unlimited text hfound')
    have htrees := h.perm_trees (justified_of_search ⟨_, _, hfound⟩)
      (justified_of_search ⟨_, _, hfound'⟩) hst.items
    refine .inl ⟨x, y, hx, hy, ?_, ?_, ?_, ?_⟩
    · have htrees_x : a.trees text.toList s = x.trees := congrArg Findings.trees hfindings
      have htrees_y : b.trees text.toList t = y.trees := congrArg Findings.trees hfindings'
      rw [← htrees_x, ← htrees_y]
      exact htrees
    · exact (congrArg Findings.steps hfindings).symm.trans (congrArg Findings.steps hfindings')
    · exact (congrArg Findings.segmentation hfindings).symm.trans
        (congrArg Findings.segmentation hfindings')
    · exact (congrArg Findings.passes hfindings).symm.trans (congrArg Findings.passes hfindings')
  · exact .inr ⟨d, e, analyzeWith_of_error herror, analyzeWith_of_error herror'⟩

/-- A grammar in which the letter a is a noun and, by the lexicon and by a rule of its own, a
verb. -/
def stems : Grammar where
  symbols := .ofNames ["noun", "verb"]
  lexicon := .ofEntries [("a", ⟨.empty, ⟨0⟩⟩), ("a", ⟨.empty, ⟨1⟩⟩)]
  rules :=
    { morphs := [.ofLexicon "stem" 1, ⟨"letter", some ⟨1⟩, [.read (.literal ['a'])]⟩]
      productions :=
        [⟨"conversion", [.exactly ⟨0⟩], ⟨1⟩, []⟩, ⟨"compound", [.exactly ⟨1⟩, .any], ⟨0⟩, []⟩] }
  rules_valid := by rfl
  lexicon_valid := by decide +kernel

/-- The same grammar in the reverse order. -/
def stemsReversed : Grammar where
  symbols := .ofNames ["noun", "verb"]
  lexicon := .ofEntries [("a", ⟨.empty, ⟨1⟩⟩), ("a", ⟨.empty, ⟨0⟩⟩)]
  rules :=
    { morphs := [⟨"letter", some ⟨1⟩, [.read (.literal ['a'])]⟩, .ofLexicon "stem" 1]
      productions :=
        [⟨"compound", [.exactly ⟨1⟩, .any], ⟨0⟩, []⟩, ⟨"conversion", [.exactly ⟨0⟩], ⟨1⟩, []⟩] }
  rules_valid := by rfl
  lexicon_valid := by decide +kernel

theorem stems_reorders : stems.Reorders stemsReversed where
  symbols_eq := rfl
  morphs_perm := .swap _ _ []
  productions_perm := .swap _ _ []
  accepted_eq := rfl
  lexicon := ⟨_, [("a", ⟨.empty, ⟨1⟩⟩), ("a", ⟨.empty, ⟨0⟩⟩)], .swap _ _ [], rfl, rfl⟩

/-- Two letters are a compound, which can be converted; both grammars find that. -/
theorem analyses_match_stems : stems.Reorders stemsReversed ∧
    ∃ x y, stems.analyzeWith { budget := none } "aa" = .ok x ∧
      stemsReversed.analyzeWith { budget := none } "aa" = .ok y ∧ x.Matches y ∧
        x.trees.map (fun tree ↦ (tree.rule, tree.boundaries)) =
          [("compound", [1]), ("conversion", [1])] := by
  have htrees : (stems.treesIn { budget := none } "aa" 3).map
      (·.map fun tree ↦ (tree.rule, tree.boundaries)) =
        some [("compound", [1]), ("conversion", [1])] := by
    decide +kernel
  obtain ⟨trees, hin, htrees⟩ := Option.map_eq_some_iff.mp htrees
  obtain ⟨z, hz, rfl⟩ := analyzeWith_of_treesIn hin
  refine ⟨stems_reorders, ?_⟩
  rcases analyses_match stems_reorders {} "aa" with ⟨x, y, hx, hy, hmatches⟩ | ⟨d, e, hd, -⟩
  · obtain rfl : z = x := Except.ok.inj (hz.symm.trans hx)
    exact ⟨z, y, hx, hy, hmatches, htrees⟩
  · exact absurd (hz.symm.trans hd) nofun

end Grammar

end Morphology
