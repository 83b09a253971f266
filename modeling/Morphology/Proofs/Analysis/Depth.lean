import Morphology.Proofs.Analysis.Outcome
import Morphology.Proofs.Search.Derivability
import Morphology.Proofs.Search.PlainSegmentation

/-!
# Depth and failure

A search without a limit fails for one reason only: something that can be found at a place to which
a chain of morphs leads has a structure that is too deep. Whether there is such a thing is a
property of the grammar and of the text, and does not depend on how the search proceeds.
-/

namespace Morphology

section

variable {ε α β : Type} {f : β → α → Except ε β} {l : List α} {s t : β} {e : ε}

theorem exists_error_of_foldlM (h : l.foldlM f s = .error e) : ∃ u, ∃ a ∈ l, f u a = .error e := by
  induction l generalizing s with
  | nil => exact absurd h nofun
  | cons a rest ih =>
    rw [List.foldlM_cons] at h
    cases hfirst : f s a with
    | error d =>
      rw [hfirst] at h
      obtain rfl : d = e := Except.error.inj h
      exact ⟨s, a, List.mem_cons_self, hfirst⟩
    | ok u =>
      rw [hfirst] at h
      obtain ⟨v, b, hb, herror⟩ := ih h
      exact ⟨v, b, List.mem_cons_of_mem a hb, herror⟩

theorem exists_ok_of_foldlM (h : l.foldlM f s = .ok t) : ∀ a ∈ l, ∃ u v, f u a = .ok v := by
  induction l generalizing s with
  | nil => exact fun a ha ↦ absurd ha List.not_mem_nil
  | cons a rest ih =>
    rw [List.foldlM_cons] at h
    cases hfirst : f s a with
    | error d =>
      rw [hfirst] at h
      exact absurd h nofun
    | ok u =>
      rw [hfirst] at h
      exact List.forall_mem_cons.mpr ⟨⟨s, u, hfirst⟩, ih h⟩

end

/-! ## Morphs -/

namespace MorphRule

variable {table : SymbolTable} {rule : MorphRule} {text : List Char} {lexicon : Lexicon}
  {start : Nat}

/-- A valid rule succeeds at a place exactly if none of its ways builds too deep a structure. -/
theorem result_run_eq_ok_iff (h : rule.validate table = .ok ()) :
    (∃ morphs, (rule.run text lexicon start).result = .ok morphs) ↔
      ∀ s ∈ rule.ways text lexicon start, s.features.depth ≤ depthLimit := by
  rw [result_run h]
  split
  next hshallow => exact iff_of_true ⟨_, rfl⟩ hshallow
  next hdeep => exact iff_of_false (fun ⟨_, hok⟩ ↦ absurd hok nofun) hdeep

end MorphRule

namespace Segmentation

variable {grammar : Grammar} {text : List Char} {place : Nat}

theorem plainRun_eq_of_run {result : Except AnalysisError Progress}
    (h : (run grammar text).result = result) : plainRun grammar text = result.map (·.chart) := by
  have hresult : (run grammar text).result.map (·.chart) = plainRun grammar text :=
    (result_visits (Nat.le_refl (text.length + 1))).1
  rw [← hresult, h]

/-- Where a segmentation succeeds, so do all rules at all places that a chain of morphs leads to. -/
theorem exists_morphs_of_run {progress : Progress} (h : (run grammar text).result = .ok progress)
    (hplace : Reachable grammar text place) {rule : MorphRule} (hrule : rule ∈ grammar.rules.morphs) :
    ∃ morphs, (rule.run text grammar.lexicon place).result = .ok morphs := by
  have hplain : plainRun grammar text = .ok progress.chart := plainRun_eq_of_run h
  obtain ⟨before, after, hvisit⟩ := exists_ok_of_foldlM hplain place
    (List.mem_range.mpr (Nat.lt_succ_of_le hplace.le_length))
  unfold plainVisit at hvisit
  rw [if_pos hplace] at hvisit
  obtain ⟨id, hid⟩ := List.mem_iff_getElem?.mp hrule
  obtain ⟨chart, later, htry⟩ := exists_ok_of_foldlM hvisit (rule, id)
    (List.mem_zipIdx_iff_getElem?.mpr hid)
  obtain ⟨morphs, hmorphs, -⟩ := exists_of_map_eq_ok htry
  exact ⟨morphs, hmorphs⟩

/-- Where a segmentation fails, so does some rule at a place to which a chain of morphs leads. -/
theorem failing_rule_of_run {e : AnalysisError} (h : (run grammar text).result = .error e) :
    ∃ place, Reachable grammar text place ∧ ∃ rule ∈ grammar.rules.morphs,
      (rule.run text grammar.lexicon place).result = .error e := by
  have hplain : plainRun grammar text = .error e := plainRun_eq_of_run h
  obtain ⟨chart, place, -, hvisit⟩ := exists_error_of_foldlM hplain
  unfold plainVisit at hvisit
  split at hvisit
  next hplace =>
    obtain ⟨later, ⟨rule, id⟩, hentry, htry⟩ := exists_error_of_foldlM hvisit
    have hrule := List.mem_of_getElem? (List.mem_zipIdx_iff_getElem?.mp hentry)
    unfold plainTry at htry
    refine ⟨place, hplace, rule, hrule, ?_⟩
    cases hrun : (rule.run text grammar.lexicon place).result with
    | ok morphs =>
      rw [hrun] at htry
      exact absurd htry nofun
    | error d =>
      rw [hrun] at htry
      exact congrArg Except.error (Except.error.inj htry)
  next => exact absurd hvisit nofun

end Segmentation

namespace Grammar

variable {grammar : Grammar} {text : List Char}

/-! ## Nodes -/

theorem Derivable.start_le {item : Item} (h : grammar.Derivable text item) :
    item.start ≤ item.stop := by
  induction h with
  | morph rule place morph place_le found => exact (found.placed place_le).1
  | production rule children item rule_mem _ makes ih => exact (makes.adjacent.stop_le ih).1

/-- If a chain of morphs leads to where a derivable item starts, one leads to where it stops. -/
theorem Derivable.reachable_stop {item : Item} (h : grammar.Derivable text item)
    (hstart : Segmentation.Reachable grammar text item.start) :
    Segmentation.Reachable grammar text item.stop := by
  induction h with
  | morph rule place morph place_le found => exact .morph rule place morph hstart found
  | production rule children item rule_mem _ makes ih => exact (makes.adjacent.chain hstart ih).2

/-- Chains of morphs lead to all nodes of a search. -/
theorem Reaches.reachable {s : Saturation} (h : grammar.Reaches text s) :
    ∀ node ∈ s.chart.nodes, Segmentation.Reachable grammar text node.start := by
  induction h with
  | segmented progress h =>
    have hresult := (Segmentation.metered_run grammar text).yields_iff.mp h
    exact ((Segmentation.result_visits (Nat.le_refl _)).2 progress hresult).reachable
  | passed s t counts _ h ih =>
    obtain ⟨p, hp, hchart, -⟩ := Saturation.chart_of_pass h
    have hmade := Saturation.made_of_pass
      (fun route hroute ↦ (Chart.mem_freshRoutes.mp hroute).1) rfl hp
    intro node hnode
    rw [hchart] at hnode
    rcases Chart.mem_nodes_insertAll hnode with hold | hnew
    · exact ih node hold
    · obtain ⟨route, rule, nodes, hadmits, hmakes⟩ := hmade node (List.mem_reverse.mp hnew)
      have hvalid := grammar.validate_production (List.mem_of_getElem? hadmits.rule_eq)
      obtain ⟨_, hfirst, hstart⟩ := (makes_of_admits hadmits hmakes).1.exists_start hvalid
      obtain ⟨first, hmem, rfl⟩ := List.mem_map.mp hfirst
      rw [← hstart]
      exact ih first (hadmits.lists.mem_nodes first hmem)

/-- At any time, what a search has found can be derived, at places that chains of morphs lead to. -/
theorem Reaches.found {s : Saturation} (h : grammar.Reaches text s) : ∀ item ∈ s.chart.items,
    grammar.Derivable text item ∧ Segmentation.Reachable grammar text item.start := by
  intro item hitem
  obtain ⟨id, node, hnode, rfl⟩ := Chart.mem_items.mp hitem
  exact ⟨derivable_of_justified h.justified hnode,
    h.reachable node (Chart.mem_nodes_iff.mpr ⟨id, hnode⟩)⟩

/-! ## Success -/

/-- Nothing that can be found at a place to which a chain of morphs leads is too deep. -/
structure Shallow (grammar : Grammar) (text : List Char) : Prop where
  ways : ∀ place, Segmentation.Reachable grammar text place → ∀ rule ∈ grammar.rules.morphs,
    ∀ s ∈ rule.ways text grammar.lexicon place, s.features.depth ≤ depthLimit
  items : ∀ item, grammar.Derivable text item →
    Segmentation.Reachable grammar text item.start → item.features.depth ≤ depthLimit

/-- What can be derived at a place to which a chain of morphs leads is found by a search. -/
theorem mem_items_of_search {segmentation : PassCounts} {s : Saturation} {passes : List PassCounts}
    (h : (grammar.search text).Yields (segmentation, s, passes)) {item : Item}
    (hitem : grammar.Derivable text item)
    (hstart : Segmentation.Reachable grammar text item.start) : item ∈ s.chart.items := by
  obtain ⟨progress, hprogress, hextends, hclosed⟩ := closed_of_search h
  have hresult := (Segmentation.metered_run grammar text).yields_iff.mp hprogress
  have htracks := (Segmentation.result_visits (Nat.le_refl _)).2 progress hresult
  have hvisited : Segmentation.Visited progress.chart item.start :=
    htracks.visited_of_reachable hstart (Nat.le_succ_of_le hstart.le_length)
  exact (mem_items_of_derivable htracks.covers hextends hclosed hitem hvisited).1

/-- A search finds what can be derived at the places to which chains of morphs lead. -/
theorem mem_items_iff {segmentation : PassCounts} {s : Saturation} {passes : List PassCounts}
    (h : (grammar.search text).Yields (segmentation, s, passes)) {item : Item} :
    item ∈ s.chart.items ↔
      grammar.Derivable text item ∧ Segmentation.Reachable grammar text item.start :=
  ⟨(reaches_of_search h).found item, fun ⟨hitem, hstart⟩ ↦ mem_items_of_search h hitem hstart⟩

/-- Where no node can be made along a route, what the production makes is too deep. -/
theorem exists_deep_item {chart : Chart} {route : Route} {rule : Production} {nodes : List Node}
    {defect : Defect} (hadmits : chart.Admits grammar.rules.productions route rule nodes)
    (hfailed : Saturation.makeNode rule route nodes = .error defect) :
    ∃ item, rule.Makes (nodes.map Node.toItem) item ∧ depthLimit < item.features.depth := by
  have hvalid := grammar.validate_production (List.mem_of_getElem? hadmits.rule_eq)
  obtain ⟨first, last, hadjacent, outcome, hcombine, heq⟩ :=
    Saturation.makeNode_of_admits hvalid hadmits
  rw [hfailed] at heq
  cases outcome with
  | none => exact absurd heq nofun
  | some features =>
    simp only at heq
    split at heq
    next hdeep =>
      refine ⟨⟨first, last, rule.result, features, Saturation.innerCuts first last nodes⟩, ?_, hdeep⟩
      refine ⟨hadmits.acceptEach, ?_, rfl, ?_, pairwise_insertAllIncreasing .nil,
        fun cut ↦ Saturation.mem_innerCuts⟩
      · rw [List.map_map]
        exact hadjacent
      · rw [← Saturation.map_features]
        exact hcombine
    next => exact absurd heq nofun

/-- Where a pass fails, what a production makes of derivable items is too deep. -/
theorem exists_deep_of_pass {s : Saturation} {e : AnalysisError} (hs : grammar.Reaches text s)
    (h : (s.pass grammar.rules.productions (.ofRules grammar.rules.productions)).result = .error e) :
    ∃ item, grammar.Derivable text item ∧ Segmentation.Reachable grammar text item.start ∧
      depthLimit < item.features.depth := by
  obtain ⟨route, rule, nodes, defect, admits, failed, -⟩ := Saturation.failing_route_of_pass h
  obtain ⟨item, makes, hdeep⟩ := exists_deep_item admits failed
  have hfound (child : Item) (hchild : child ∈ nodes.map Node.toItem) :
      grammar.Derivable text child ∧ Segmentation.Reachable grammar text child.start := by
    obtain ⟨node, hnode, rfl⟩ := List.mem_map.mp hchild
    exact hs.found node.toItem (admits.lists.mem_items node hnode)
  have hrule := List.mem_of_getElem? admits.rule_eq
  obtain ⟨first, hfirst, hstart⟩ := makes.exists_start (grammar.validate_production hrule)
  refine ⟨item, .production rule _ item hrule (fun child hchild ↦ (hfound child hchild).1) makes, ?_,
    hdeep⟩
  rw [← hstart]
  exact (hfound first hfirst).2

/-- Where a search fails although no way of a rule builds too deep a structure, a production
does. -/
theorem exists_deep_of_search {e : AnalysisError} (h : (grammar.search text).result = .error e)
    (hways : ∀ place, Segmentation.Reachable grammar text place → ∀ rule ∈ grammar.rules.morphs,
      ∀ s ∈ rule.ways text grammar.lexicon place, s.features.depth ≤ depthLimit) :
    ∃ item, grammar.Derivable text item ∧ Segmentation.Reachable grammar text item.start ∧
      depthLimit < item.features.depth := by
  unfold search at h
  rcases Search.error_of_bind (Segmentation.metered_run grammar text)
    (fun _ _ ↦ Search.metered_map (Saturation.metered_run _ _) _) h with
    hsegmentation | ⟨segmented, hsegmented, hlater⟩
  · obtain ⟨place, hplace, rule, hrule, hrun⟩ := Segmentation.failing_rule_of_run hsegmentation
    obtain ⟨morphs, hmorphs⟩ := (MorphRule.result_run_eq_ok_iff
      (grammar.validate_morphRule hrule)).mpr (hways place hplace rule hrule)
    exact absurd (hmorphs.symm.trans hrun) nofun
  · rcases Search.error_of_bind (Saturation.metered_run _ _) (fun _ _ ↦ Search.metered_pure _)
      hlater with hrun | ⟨_, -, hpure⟩
    · have hyields := (Segmentation.metered_run grammar text).yields_iff.mpr hsegmented
      obtain ⟨s, hs, hpass⟩ := Saturation.failing_pass_of_run (grammar.Reaches text)
        (fun s t counts ↦ .passed s t counts) (.segmented segmented hyields) hrun
      exact exists_deep_of_pass hs hpass
    · exact absurd hpure nofun

/-- A search without a limit succeeds exactly if nothing that it can come across is too deep. -/
theorem result_search_eq_ok_iff : (∃ found, (grammar.search text).result = .ok found) ↔
    grammar.Shallow text := by
  have hmetered := metered_search grammar text
  constructor
  · intro ⟨⟨segmentation, s, passes⟩, hfound⟩
    have hyields := hmetered.yields_iff.mpr hfound
    obtain ⟨progress, hprogress, -⟩ := parts_of_search hyields
    have hresult := (Segmentation.metered_run grammar text).yields_iff.mp hprogress
    constructor
    · intro place hplace rule hrule
      exact (MorphRule.result_run_eq_ok_iff (grammar.validate_morphRule hrule)).mp
        (Segmentation.exists_morphs_of_run hresult hplace hrule)
    · intro item hitem hstart
      have hmem := (mem_items_iff hyields).mpr ⟨hitem, hstart⟩
      obtain ⟨id, node, hnode, rfl⟩ := Chart.mem_items.mp hmem
      exact (justified_of_search hyields id node hnode).depth_le
  · intro hshallow
    cases hresult : (grammar.search text).result with
    | ok found => exact ⟨found, rfl⟩
    | error e =>
      obtain ⟨item, hitem, hstart, hdeep⟩ := exists_deep_of_search hresult hshallow.ways
      exact absurd (hshallow.items item hitem hstart) (Nat.not_le.mpr hdeep)

/-- An analysis without a limit succeeds exactly if nothing that it can come across is too deep. -/
theorem exists_analysis_iff (grammar : Grammar) (options : Options) (text : String) :
    (∃ a, grammar.analyzeWith { options with budget := none } text = .ok a) ↔
      grammar.Shallow text.toList := by
  rw [← result_search_eq_ok_iff]
  constructor
  · intro ⟨a, ha⟩
    obtain ⟨s, hsearch, -⟩ := exists_search_of_analyzeWith ha
    exact ⟨_, hsearch⟩
  · intro ⟨⟨segmentation, s, passes⟩, hsearch⟩
    have houtcome := (metered_search grammar text.toList).outcome_unlimited
    rw [hsearch] at houtcome
    exact (analyzeWith_of_ok houtcome).imp fun _ ↦ And.left

end Grammar

end Morphology
