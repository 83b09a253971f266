import Morphology.Proofs.Search.Bounds

/-!
# Outcomes of analyses

The checks that a grammar has passed leave two reasons to give an analysis up: the limit of steps
was passed, or a structure is too deep. No rule refers to a capture that is not closed or to a
child that is not there, and no morph is without a tag.
-/

namespace Morphology.Grammar

theorem metered_search (grammar : Grammar) (text : List Char) : (grammar.search text).Metered := by
  unfold search
  refine (Segmentation.metered_run grammar text).bind fun segmented _ ↦ ?_
  exact Search.metered_map (Saturation.metered_run _ _) _

/-- Apart from its budget, a search fails only where a structure is too deep. -/
theorem error_of_search {grammar : Grammar} {text : List Char} {e : AnalysisError}
    (h : (grammar.search text).result = .error e) :
    ∃ name ∈ grammar.rules.morphs.map (·.name) ++ grammar.rules.productions.map (·.name),
      e = .defectiveRule name (.tooDeep depthLimit) := by
  unfold search at h
  rcases Search.error_of_bind (Segmentation.metered_run grammar text)
    (fun segmented _ ↦ Search.metered_map (Saturation.metered_run _ _) _) h with
    hsegmentation | ⟨segmented, -, hlater⟩
  · obtain ⟨rule, hrule, he⟩ := Segmentation.error_of_run hsegmentation
    exact ⟨rule.name, List.mem_append_left _ (List.mem_map.mpr ⟨rule, hrule, rfl⟩), he⟩
  · rcases Search.error_of_bind (Saturation.metered_run _ _) (fun _ _ ↦ Search.metered_pure _)
      hlater with hrun | ⟨_, -, hpure⟩
    · obtain ⟨rule, hrule, he⟩ :=
        Saturation.error_of_run (fun _ ↦ grammar.validate_production) hrun
      exact ⟨rule.name, List.mem_append_right _ (List.mem_map.mpr ⟨rule, hrule, rfl⟩), he⟩
    · exact absurd hpure nofun

/-- The derivations of all nodes of a search that are analyses. -/
def trees (grammar : Grammar) (text : List Char) (s : Saturation) : List Derivation :=
  (s.chart.accepting grammar.rules text.length).filterMap
    ((s.chart.derivations grammar.rules text)[·]?)

section

variable {grammar : Grammar} {options : Options} {text : String} {after : Budget}

theorem analyzeWith_of_error {e : AnalysisError}
    (h : (grammar.search text.toList).outcome { limit := options.budget } = (.error e, after)) :
    grammar.analyzeWith options text = .error e := by
  unfold analyzeWith
  simp only [h]

/-- The trees of an analysis are the derivations of the accepting nodes. -/
theorem analyzeWith_of_ok {segmentation : PassCounts} {s : Saturation} {passes : List PassCounts}
    (h : (grammar.search text.toList).outcome { limit := options.budget } =
      (.ok (segmentation, s, passes), after)) :
    ∃ a, grammar.analyzeWith options text = .ok a ∧
      a.trees = (s.chart.accepting grammar.rules text.toList.length).filterMap
        ((s.chart.derivations grammar.rules text.toList)[·]?) := by
  unfold analyzeWith
  simp only [h]
  exact ⟨_, rfl, rfl⟩

/-- Besides its trees, an analysis shows their structures as a list and the chart, if these are
wanted. -/
theorem shown_of_analyzeWith {a : Analysis} (h : grammar.analyzeWith options text = .ok a) :
    ∃ s, (grammar.search text.toList).Yields (a.segmentation, s, a.passes) ∧
      a.trees = grammar.trees text.toList s ∧
      a.list = (if options.asList then some (.list (a.trees.map fun tree ↦ .nested tree.features))
        else none) ∧
      a.chart = if options.retainChart then
        some (s.chart.report grammar.rules text.toList s.rejected) else none := by
  cases houtcome : (grammar.search text.toList).outcome { limit := options.budget } with
  | mk result after =>
    cases result with
    | error e => exact absurd ((analyzeWith_of_error houtcome).symm.trans h) nofun
    | ok found =>
      obtain ⟨segmentation, s, passes⟩ := found
      unfold analyzeWith at h
      simp only [houtcome] at h
      obtain rfl := Except.ok.inj h
      exact ⟨s, ⟨_, _, houtcome⟩, rfl, rfl, rfl⟩

theorem yields_of_analyzeWith {a : Analysis} (h : grammar.analyzeWith options text = .ok a) :
    ∃ s, (grammar.search text.toList).Yields (a.segmentation, s, a.passes) ∧
      a.trees = grammar.trees text.toList s :=
  let ⟨s, hyields, htrees, _⟩ := shown_of_analyzeWith h
  ⟨s, hyields, htrees⟩

/-- An analysis that succeeds shows what its search has found. -/
theorem exists_search_of_analyzeWith {a : Analysis}
    (h : grammar.analyzeWith options text = .ok a) :
    ∃ s, (grammar.search text.toList).result = .ok (a.segmentation, s, a.passes) ∧
      a.trees = grammar.trees text.toList s :=
  let ⟨s, hyields, htrees⟩ := yields_of_analyzeWith h
  ⟨s, (metered_search grammar text.toList).yields_iff.mp hyields, htrees⟩

/-- An analysis that succeeds has searched the text. -/
theorem search_of_analyzeWith {a : Analysis} (h : grammar.analyzeWith options text = .ok a) :
    ∃ segmentation s passes,
      (grammar.search text.toList).result = .ok (segmentation, s, passes) ∧
        a.trees = (s.chart.accepting grammar.rules text.toList.length).filterMap
          ((s.chart.derivations grammar.rules text.toList)[·]?) :=
  let ⟨s, hsearch, htrees⟩ := exists_search_of_analyzeWith h
  ⟨a.segmentation, s, a.passes, hsearch, htrees⟩

/-- The trees of an analysis, if its search comes to an end within so many passes. -/
def treesIn (grammar : Grammar) (options : Options) (text : String) (n : Nat) :
    Option (List Derivation) :=
  match ((grammar.searchIn text.toList n).outcome { limit := options.budget }).1 with
  | .ok (some (_, s, _)) => some ((s.chart.accepting grammar.rules text.toList.length).filterMap
      ((s.chart.derivations grammar.rules text.toList)[·]?))
  | _ => none

theorem analyzeWith_of_treesIn {n : Nat} {trees : List Derivation}
    (h : grammar.treesIn options text n = some trees) :
    ∃ a, grammar.analyzeWith options text = .ok a ∧ a.trees = trees := by
  unfold treesIn at h
  cases houtcome : (grammar.searchIn text.toList n).outcome { limit := options.budget } with
  | mk result after =>
    rw [houtcome] at h
    split at h
    next segmentation s passes hresult =>
      obtain rfl : result = _ := hresult
      obtain ⟨a, ha, htrees⟩ := analyzeWith_of_ok (search_of_searchIn houtcome)
      exact ⟨a, ha, htrees.trans (Option.some.inj h)⟩
    next => exact absurd h nofun

/-- What the search of an analysis has found, if it comes to an end within so many passes. -/
def foundIn (grammar : Grammar) (options : Options) (text : String) (n : Nat) :
    Option (PassCounts × Saturation × List PassCounts) :=
  ((grammar.searchIn text.toList n).outcome { limit := options.budget }).1.toOption.join

/-- What a search has found can be told from its analysis, chart and all. -/
theorem analyzeWith_of_foundIn {n : Nat} {γ : Type}
    {told : PassCounts × Saturation × List PassCounts → γ} {expected : γ}
    (h : (grammar.foundIn options text n).map told = some expected) :
    ∃ a s, grammar.analyzeWith options text = .ok a ∧
      (a.chart = if options.retainChart then
        some (s.chart.report grammar.rules text.toList s.rejected) else none) ∧
      told (a.segmentation, s, a.passes) = expected := by
  unfold foundIn at h
  cases houtcome : (grammar.searchIn text.toList n).outcome { limit := options.budget } with
  | mk result after =>
    obtain ⟨found, hfound, htold⟩ := Option.map_eq_some_iff.mp h
    rw [houtcome] at hfound
    obtain rfl : result = .ok (some found) := by
      cases result with
      | error e => exact absurd hfound nofun
      | ok ended => exact congrArg Except.ok hfound
    have hsearch := search_of_searchIn houtcome
    obtain ⟨a, ha, -⟩ := analyzeWith_of_ok hsearch
    obtain ⟨s, hyields, -, -, hchart⟩ := shown_of_analyzeWith ha
    have hmetered := metered_search grammar text.toList
    have hsame : (a.segmentation, s, a.passes) = found := Except.ok.inj
      ((hmetered.yields_iff.mp hyields).symm.trans (hmetered.yields_iff.mp ⟨_, after, hsearch⟩))
    exact ⟨a, s, ha, hchart, hsame ▸ htold⟩

/-- An analysis fails because of the limit of steps, or because some rule makes too deep a
structure. -/
theorem error_of_analyzeWith {e : AnalysisError} (h : grammar.analyzeWith options text = .error e) :
    (∃ limit, options.budget = some limit ∧ e = .budgetExceeded limit) ∨
      ∃ name ∈ grammar.rules.morphs.map (·.name) ++ grammar.rules.productions.map (·.name),
        e = .defectiveRule name (.tooDeep depthLimit) := by
  cases houtcome : (grammar.search text.toList).outcome { limit := options.budget } with
  | mk result after =>
    cases result with
    | ok found =>
      obtain ⟨a, ha, -⟩ := analyzeWith_of_ok houtcome
      exact absurd (ha.symm.trans h) nofun
    | error d =>
      obtain rfl := Except.error.inj ((analyzeWith_of_error houtcome).symm.trans h)
      rcases (metered_search grammar text.toList).outcome_error houtcome with hresult | hlimit
      · exact .inr (error_of_search hresult)
      · exact .inl hlimit

end

/-- An analysis succeeds, or it needs more steps than it was given, or some rule makes a structure
of more than 64 levels. -/
theorem analyzeWith_outcome (grammar : Grammar) (options : Options) (text : String) :
    (∃ analysis, grammar.analyzeWith options text = .ok analysis) ∨
      (∃ limit, options.budget = some limit ∧
        grammar.analyzeWith options text = .error (.budgetExceeded limit)) ∨
      ∃ name ∈ grammar.rules.morphs.map (·.name) ++ grammar.rules.productions.map (·.name),
        grammar.analyzeWith options text = .error (.defectiveRule name (.tooDeep 64)) := by
  cases houtcome : grammar.analyzeWith options text with
  | ok analysis => exact .inl ⟨analysis, rfl⟩
  | error e =>
    refine .inr ?_
    rcases error_of_analyzeWith houtcome with ⟨limit, hbudget, rfl⟩ | ⟨name, hname, rfl⟩
    · exact .inl ⟨limit, hbudget, rfl⟩
    · exact .inr ⟨name, hname, rfl⟩

end Morphology.Grammar
