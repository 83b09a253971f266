import Morphology.Proofs.Analysis.Outcome
import Morphology.Proofs.Search.Bounds
import Morphology.Proofs.Search.PartialRoutes
import Morphology.Proofs.Search.Threads

/-!
# Termination of unlimited analyses

An analysis that may use any number of steps comes to an end, for all grammars and texts. The loops
over threads and over partial routes end because each round leaves less of a program or of a
pattern; the passes end because there are finitely many items that a search can find, whatever
productions feed each other and however structures are put into structures.
-/

namespace Morphology

namespace Grammar

variable {grammar : Grammar} {options : Options} {text : String}

/-- Limits that are not smaller than the cost of a search do not matter. -/
theorem analyzeWith_eq_of_cost_le {limit : Nat} (h : (grammar.search text.toList).cost ≤ limit) :
    grammar.analyzeWith { options with budget := some limit } text =
      grammar.analyzeWith { options with budget := none } text := by
  have hlimited := (metered_search grammar text.toList).outcome_limited limit
  have hunlimited := (metered_search grammar text.toList).outcome_unlimited
  rw [if_pos h] at hlimited
  unfold analyzeWith
  simp only [hlimited, hunlimited]
  cases (grammar.search text.toList).result <;> rfl

/-- Where all items that a search can find come from a list, one pass for each of them and one more
are enough. -/
theorem searchIn_eq_search {possible : List Item}
    (hpossible : ∀ item, item.Within (grammar.scope text.toList) → item ∈ possible) {n : Nat}
    (hn : possible.length < n) :
    grammar.searchIn text.toList n = some <$> grammar.search text.toList := by
  unfold searchIn search
  rw [map_bind]
  refine Search.bind_congr_of_yields fun segmented hsegmented ↦ ?_
  rw [Saturation.passes_eq_run (grammar.Reaches text.toList) (fun s t counts ↦ .passed s t counts)
    (fun s hs item hitem ↦ hpossible item (hs.within item hitem)) (.segmented segmented hsegmented)
    (Nat.lt_of_lt_of_le hn (Nat.le_add_left ..))]
  simp only [map_eq_pure_bind, bind_assoc, pure_bind, Option.map_some]

/-- What it means that analysing a text without a limit comes to an end. -/
structure Terminates (grammar : Grammar) (options : Options) (text : String) : Prop where
  /-- A rule is run in finitely many rounds of a loop over threads, wherever it starts. -/
  threads : ∀ (rule : MorphRule) (place : Nat),
    Search.Settles (rule.runThreads text.toList grammar.lexicon place)
      (rule.run text.toList grammar.lexicon place)
  /-- The routes of a pass are found in finitely many rounds of a loop over partial routes. -/
  routes : ∀ (chart : Chart) (frontier : Nat),
    Search.Settles
      (chart.matchRounds frontier grammar.rules.productions (.ofRules grammar.rules.productions))
      (pure (chart.freshRoutes frontier grammar.rules.productions
        (.ofRules grammar.rules.productions)))
  /-- All items that can be found, whatever productions are applied in what order, are among
  finitely many. Each pass but the last adds one of them, so that there are not more passes. -/
  passes : ∃ possible : List Item,
    (∀ item, item.Within (grammar.scope text.toList) → item ∈ possible) ∧
    (∀ s, grammar.Reaches text.toList s →
      (∀ item ∈ s.chart.items, item.Within (grammar.scope text.toList)) ∧
      ∀ t counts,
        (s.pass grammar.rules.productions (.ofRules grammar.rules.productions)).Yields (t, counts) →
          counts.produced ≠ 0 → ∃ item ∈ t.chart.items, item ∉ s.chart.items) ∧
    ∀ n, possible.length < n →
      grammar.searchIn text.toList n = some <$> grammar.search text.toList
  /-- Finitely many steps are made: a limit that is large enough does not matter. -/
  steps : ∃ steps, ∀ limit, steps ≤ limit →
    grammar.analyzeWith { options with budget := some limit } text =
      grammar.analyzeWith { options with budget := none } text
  /-- The analysis succeeds, or some rule makes a structure of more than 64 levels. -/
  outcome : (∃ analysis, grammar.analyzeWith { options with budget := none } text = .ok analysis) ∨
    ∃ name ∈ grammar.rules.morphs.map (·.name) ++ grammar.rules.productions.map (·.name),
      grammar.analyzeWith { options with budget := none } text =
        .error (.defectiveRule name (.tooDeep 64))

/-- Every analysis without a limit comes to an end. -/
theorem analysis_terminates (grammar : Grammar) (options : Options) (text : String) :
    grammar.Terminates options text where
  threads rule place := rule.settles_runThreads text.toList grammar.lexicon place
  routes chart frontier := chart.settles_matchRounds frontier _ _
  passes := by
    obtain ⟨possible, hpossible⟩ := Item.listable (grammar.scope text.toList)
    refine ⟨possible, hpossible, fun s hs ↦ ⟨hs.within, fun t counts ↦ Saturation.exists_new_item⟩, ?_⟩
    exact fun n ↦ searchIn_eq_search hpossible
  steps := ⟨(grammar.search text.toList).cost, fun limit ↦ analyzeWith_eq_of_cost_le⟩
  outcome := by
    cases houtcome : grammar.analyzeWith { options with budget := none } text with
    | ok analysis => exact .inl ⟨analysis, rfl⟩
    | error e =>
      rcases error_of_analyzeWith houtcome with ⟨limit, hbudget, -⟩ | ⟨name, hname, rfl⟩
      · exact absurd hbudget nofun
      · exact .inr ⟨name, hname, rfl⟩

end Grammar

end Morphology
