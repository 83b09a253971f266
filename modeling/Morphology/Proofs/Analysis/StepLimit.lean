import Morphology.Proofs.Analysis.Outcome

/-!
# Limits on the steps of an analysis

Of all options, only the limit on the steps decides about what an analysis finds. There is a number
of steps, which depends on the grammar and the text alone, so that an analysis that may use as many
finds what an unlimited one does, and every other analysis is given up because of its limit. This
holds also where an unlimited analysis fails: which of the two errors comes first depends on that
number, too.
-/

namespace Morphology

/-- What an analysis has found and counted, whatever else the caller wants to have with it. -/
structure Findings where
  trees : List Derivation
  segmentation : PassCounts
  passes : List PassCounts
  steps : Nat

def Analysis.findings (a : Analysis) : Findings where
  trees := a.trees
  segmentation := a.segmentation
  passes := a.passes
  steps := a.steps

namespace Grammar

/-- What an analysis finds is read off the outcome of its search. -/
theorem map_findings_analyzeWith (grammar : Grammar) (options : Options) (text : String)
    {result : Except AnalysisError (PassCounts × Saturation × List PassCounts)} {after : Budget}
    (h : (grammar.search text.toList).outcome { limit := options.budget } = (result, after)) :
    (grammar.analyzeWith options text).map Analysis.findings = result.map fun found ↦
      { trees := grammar.trees text.toList found.2.1
        segmentation := found.1
        passes := found.2.2
        steps := after.used } := by
  unfold analyzeWith
  simp only [h]
  cases result with
  | error e => rfl
  | ok found => rfl

/-- The structures of the trees, if they are wanted as a list. -/
theorem list_of_analyzeWith {grammar : Grammar} {options : Options} {text : String} {a : Analysis}
    (h : grammar.analyzeWith options text = .ok a) :
    a.list =
      if options.asList then some (.list (a.trees.map fun tree ↦ .nested tree.features)) else none := by
  unfold analyzeWith at h
  simp only at h
  split at h
  · exact absurd h nofun
  · rw [← Except.ok.inj h]

/-- An analysis may use as many steps as an unlimited one makes, or it is given up because of its
limit; what it finds does not depend on the other options, which only decide about the list of the
structures and the chart. -/
theorem findings_of_limit (grammar : Grammar) (options : Options) (text : String) :
    let steps := (grammar.search text.toList).cost
    let unlimited := grammar.analyzeWith { budget := none } text
    ((∃ a, unlimited = .ok a ∧ a.steps = steps) ∨
      ∃ name ∈ grammar.rules.morphs.map (·.name) ++ grammar.rules.productions.map (·.name),
        unlimited = .error (.defectiveRule name (.tooDeep 64))) ∧
    (grammar.analyzeWith options text).map Analysis.findings =
      (match options.budget with
      | none => unlimited.map Analysis.findings
      | some limit =>
        if steps ≤ limit then unlimited.map Analysis.findings else .error (.budgetExceeded limit)) ∧
    ∀ a, grammar.analyzeWith options text = .ok a → a.list =
      if options.asList then some (.list (a.trees.map fun tree ↦ .nested tree.features)) else none := by
  intro steps unlimited
  have hmetered := metered_search grammar text.toList
  have hunlimited := hmetered.outcome_unlimited
  have hfindings := map_findings_analyzeWith grammar { budget := none } text hunlimited
  refine ⟨?_, ?_, fun a ↦ list_of_analyzeWith⟩
  · rcases analyzeWith_outcome grammar { budget := none } text with
      ⟨a, ha⟩ | ⟨limit, hlimit, -⟩ | hdeep
    · refine .inl ⟨a, ha, ?_⟩
      have hsteps := congrArg (Except.map Findings.steps) hfindings
      rw [ha] at hsteps
      cases hresult : (grammar.search text.toList).result with
      | error e => simp [hresult, Except.map] at hsteps
      | ok found => simpa [hresult, Except.map, Analysis.findings] using hsteps
    · exact absurd hlimit nofun
    · exact .inr hdeep
  · cases hbudget : options.budget with
    | none =>
      have hsame := map_findings_analyzeWith grammar options text (hbudget ▸ hunlimited)
      exact hsame.trans hfindings.symm
    | some limit =>
      have hlimited := hmetered.outcome_limited limit
      rw [← hbudget] at hlimited
      by_cases henough : steps ≤ limit
      · rw [if_pos henough] at hlimited
        calc
          _ = _ := map_findings_analyzeWith grammar options text hlimited
          _ = unlimited.map Analysis.findings := hfindings.symm
          _ = _ := (if_pos henough).symm
      · rw [if_neg henough] at hlimited
        calc
          _ = _ := map_findings_analyzeWith grammar options text hlimited
          _ = .error (.budgetExceeded limit) := rfl
          _ = _ := (if_neg henough).symm

end Grammar

end Morphology
