import Mathlib.Order.Bounds.Basic
import Morphology.Proofs.Analysis.StepLimit
import Morphology.Proofs.Analysis.Trees
import Morphology.Proofs.Search.Passes

/-!
# Saturation without shortcuts

A saturation that in every pass goes through all routes of the chart and tries those that no
earlier pass has tried. The saturation that is made lists only the routes through nodes that the
last pass has added; it makes the same passes, which leave the same nodes under the same numbers.
Over a whole run each route of the last chart is tried exactly once, in the first pass in which its
nodes are there.
-/

namespace Morphology

/-- The state of a saturation without shortcuts between two passes. -/
structure Naive where
  chart : Chart
  /-- The routes that were tried, in the order in which they were tried. -/
  tried : List Route := []

namespace Naive

/-- The routes of the chart that were not tried before. -/
def due (rules : List Production) (n : Naive) : List Route :=
  (n.chart.allRoutes rules).filter (· ∉ n.tried)

/-- Tries every route of the chart that was not tried before. -/
def pass (rules : List Production) (n : Naive) : Search (Naive × PassCounts) := do
  let due := n.due rules
  let made ← due.mapM (Saturation.tryAlong rules n.chart)
  let (produced, chart) := n.chart.insertAll made.reduceOption
  let rejected := made.countP (·.isNone)
  return ({ chart, tried := n.tried ++ due }, { attempts := due.length, produced, rejected })

end Naive

namespace Saturation

variable {rules : List Production} {s t : Saturation} {n : Naive} {counts : PassCounts}

/-- A state without shortcuts that has the same chart and has tried the same routes. -/
structure Shadows (rules : List Production) (n : Naive) (s : Saturation) : Prop where
  chart_eq : n.chart = s.chart
  current : Current rules s
  tried_iff : ∀ route, route ∈ n.tried ↔ s.attempted.contains route.key

theorem shadows_initial (rules : List Production) (chart : Chart) :
    Shadows rules { chart } { chart } where
  chart_eq := rfl
  current := current_initial rules chart
  tried_iff route := by simp

/-- The routes that were not tried before are those through a new node, in the same order. -/
theorem Shadows.due_eq (h : Shadows rules n s) : n.due rules = s.due rules := by
  unfold Naive.due due
  rw [h.chart_eq, Chart.freshRoutes_eq_filter]
  apply List.filter_congr
  intro route hroute
  rw [Bool.eq_iff_iff, decide_eq_true_eq, h.tried_iff, h.current route]
  simp [hroute]

/-- Without shortcuts, a pass does what it does with them. -/
theorem Shadows.pass_eq (h : Shadows rules n s) : n.pass rules = do
    let (t, counts) ← s.pass rules (.ofRules rules)
    return ({ chart := t.chart, tried := n.tried ++ n.due rules }, counts) := by
  rw [Saturation.pass_eq h.current]
  unfold Naive.pass finish
  simp only [h.due_eq, h.chart_eq, bind_assoc, pure_bind]

/-- A pass without shortcuts keeps up with one that takes them. -/
theorem Shadows.pass (h : Shadows rules n s)
    (hpass : (s.pass rules (.ofRules rules)).result = .ok (t, counts)) :
    ∃ m, (n.pass rules).result = .ok (m, counts) ∧ Shadows rules m t := by
  have hmetered := metered_pass rules (.ofRules rules) s
  obtain ⟨made, hpassed⟩ := h.current.passed (hmetered.yields_iff.mpr hpass)
  refine ⟨{ chart := t.chart, tried := n.tried ++ n.due rules }, ?_, rfl,
    hpassed.current h.current, fun route ↦ ?_⟩
  · rw [h.pass_eq, Search.result_map hmetered, hpass]
    rfl
  · rw [List.mem_append, h.tried_iff, h.due_eq, hpassed.contains_iff]

/-! ## Runs -/

/-- A run of passes and one without shortcuts, side by side; the states are those before the first
pass, between two passes, and after the last one. -/
structure Tandem (rules : List Production) (s t : Saturation) (n : Naive)
    (passes : List PassCounts) (state : Nat → Saturation) (naive : Nat → Naive) : Prop where
  first : state 0 = s
  naive_first : naive 0 = n
  last : state passes.length = t
  pass : ∀ k counts, passes[k]? = some counts →
    ((state k).pass rules (.ofRules rules)).result = .ok (state (k + 1), counts)
  naive_pass : ∀ k counts, passes[k]? = some counts →
    ((naive k).pass rules).result = .ok (naive (k + 1), counts)
  shadows : ∀ k ≤ passes.length, Shadows rules (naive k) (state k)
  /-- Only the last pass finds nothing new. -/
  produced_iff : ∀ k counts, passes[k]? = some counts →
    (counts.produced = 0 ↔ k + 1 = passes.length)

theorem tandem_nil (h : Shadows rules n s) : Tandem rules s s n [] (fun _ ↦ s) fun _ ↦ n where
  first := rfl
  naive_first := rfl
  last := rfl
  pass _ _ hk := absurd hk nofun
  naive_pass _ _ hk := absurd hk nofun
  shadows _ _ := h
  produced_iff _ _ hk := absurd hk nofun

/-- Two passes are put in front of two runs. -/
theorem Tandem.cons {middle : Saturation} {m : Naive} {later : List PassCounts}
    {state : Nat → Saturation} {naive : Nat → Naive} (h : Tandem rules middle t m later state naive)
    (hn : Shadows rules n s) (hpass : (s.pass rules (.ofRules rules)).result = .ok (middle, counts))
    (hnaive : (n.pass rules).result = .ok (m, counts)) (hlast : counts.produced = 0 ↔ later = []) :
    Tandem rules s t n (counts :: later) (fun | 0 => s | k + 1 => state k)
      (fun | 0 => n | k + 1 => naive k) where
  first := rfl
  naive_first := rfl
  last := h.last
  pass k other hk := by
    cases k with
    | zero =>
      obtain rfl : counts = other := Option.some.inj hk
      simp only [h.first]
      exact hpass
    | succ k => exact h.pass k other hk
  naive_pass k other hk := by
    cases k with
    | zero =>
      obtain rfl : counts = other := Option.some.inj hk
      simp only [h.naive_first]
      exact hnaive
    | succ k => exact h.naive_pass k other hk
  shadows k hk := by
    cases k with
    | zero => exact hn
    | succ k => exact h.shadows k (Nat.le_of_succ_le_succ hk)
  produced_iff k other hk := by
    cases k with
    | zero =>
      obtain rfl : counts = other := Option.some.inj hk
      rw [hlast, List.length_cons, ← List.length_eq_zero_iff]
      omega
    | succ k =>
      rw [h.produced_iff k other hk, List.length_cons]
      omega

theorem Runs.passes_ne_nil {passes : List PassCounts} (h : Runs rules s passes t) : passes ≠ [] := by
  cases h <;> exact List.cons_ne_nil _ _

theorem passes_ne_nil_of_run {passes : List PassCounts} (h : (s.run rules).Yields (t, passes)) :
    passes ≠ [] :=
  (runs_of_run h).passes_ne_nil

/-- A run without shortcuts can be made next to every run. -/
theorem tandem_of_run {passes : List PassCounts} (hn : Shadows rules n s)
    (h : (s.run rules).Yields (t, passes)) :
    ∃ state naive, Tandem rules s t n passes state naive := by
  have hruns := runs_of_run h
  clear h
  induction hruns generalizing n with
  | last hyields hlast =>
    have hpass := (metered_pass rules _ _).yields_iff.mp hyields
    obtain ⟨m, hnaive, hm⟩ := hn.pass hpass
    exact ⟨_, _, (tandem_nil hm).cons hn hpass hnaive (by simp [hlast])⟩
  | next hyields hproductive hrest ih =>
    have hpass := (metered_pass rules _ _).yields_iff.mp hyields
    obtain ⟨m, hnaive, hm⟩ := hn.pass hpass
    obtain ⟨state, naive, htandem⟩ := ih hm
    have hlater := hrest.passes_ne_nil
    exact ⟨_, _, htandem.cons hn hpass hnaive (by simp [hproductive, hlater])⟩

/-- The routes that a pass attempts, in their order: each of them once, none of them before. -/
structure Attempts (rules : List Production) (s t : Saturation) (counts : PassCounts)
    (routes : List Route) : Prop where
  listed : s.chart.freshRoutes s.frontier rules (.ofRules rules) = routes
  nodup : routes.Nodup
  length_eq : counts.attempts = routes.length
  skipped_eq : counts.skipped = 0
  new : ∀ route ∈ routes, ¬ s.attempted.contains route.key
  contains_iff : ∀ route : Route,
    t.attempted.contains route.key ↔ s.attempted.contains route.key ∨ route ∈ routes

namespace Tandem

variable {passes : List PassCounts} {state : Nat → Saturation} {naive : Nat → Naive} {k : Nat}

/-- What each pass of a run does. -/
theorem passed (h : Tandem rules s t n passes state naive) (hk : passes[k]? = some counts) :
    ∃ made, Passed rules (state k) (state (k + 1)) counts made := by
  have hle : k ≤ passes.length := Nat.le_of_lt (List.getElem?_eq_some_iff.mp hk).1
  have hmetered := metered_pass rules (.ofRules rules) (state k)
  exact (h.shadows k hle).current.passed (hmetered.yields_iff.mpr (h.pass k counts hk))

theorem attempts (h : Tandem rules s t n passes state naive) (hk : passes[k]? = some counts) :
    Attempts rules (state k) (state (k + 1)) counts ((naive k).due rules) := by
  have hle : k ≤ passes.length := Nat.le_of_lt (List.getElem?_eq_some_iff.mp hk).1
  have hshadows := h.shadows k hle
  obtain ⟨made, hpassed⟩ := h.passed hk
  rw [hshadows.due_eq]
  refine ⟨rfl, nodup_due rules (state k), ?_, ?_, fun route ↦ hshadows.current.not_contains,
    hpassed.contains_iff⟩
  · rw [hpassed.counts_eq]
  · rw [hpassed.counts_eq]

/-- The chart of a run never loses a node. -/
theorem extends_chart (h : Tandem rules s t n passes state naive) {j : Nat} (hjk : j ≤ k)
    (hk : k ≤ passes.length) : (state k).chart.Extends (state j).chart := by
  induction k, hjk using Nat.le_induction with
  | base => exact .refl _
  | succ k hjk ih =>
    have hget : passes[k]? = some passes[k] := List.getElem?_eq_getElem hk
    obtain ⟨made, hpassed⟩ := h.passed hget
    exact hpassed.extends_chart.trans (ih (Nat.le_of_lt hk))

/-- The nodes that are new to a pass are those that were not there before the pass before it. -/
theorem frontier_le_iff {chart : Chart} (h : Tandem rules { chart } t n passes state naive)
    (hk : k ≤ passes.length) {ids : List Nat} (hids : ids ≠ []) :
    (∃ id ∈ ids, (state k).frontier ≤ id) ↔
      ∀ j < k, ∃ id ∈ ids, (state j).chart.size ≤ id := by
  cases k with
  | zero =>
    rw [h.first]
    simp only [Nat.zero_le, and_true, Nat.not_lt_zero, false_imp_iff, implies_true, iff_true]
    exact List.exists_mem_of_ne_nil ids hids
  | succ k =>
    have hget : passes[k]? = some passes[k] := List.getElem?_eq_getElem hk
    obtain ⟨made, hpassed⟩ := h.passed hget
    rw [hpassed.frontier_eq]
    constructor
    · intro ⟨id, hid, hnew⟩ j hj
      have hgrown := (h.extends_chart (Nat.le_of_lt_succ hj) (Nat.le_of_lt hk)).size_le
      exact ⟨id, hid, Nat.le_trans hgrown hnew⟩
    · intro hall
      exact hall k (Nat.lt_succ_self k)

/-- A route of the last chart is tried in the first pass in which its nodes are there. -/
theorem mem_due_iff {chart : Chart} {table : SymbolTable}
    (hvalid : ∀ rule ∈ rules, rule.validate table = .ok ())
    (h : Tandem rules { chart } t n passes state naive) (hk : k < passes.length) {route : Route} :
    route ∈ (naive k).due rules ↔ (∃ rule nodes, t.chart.Admits rules route rule nodes) ∧
      IsLeast {j | ∀ id ∈ route.nodes, id < (state j).chart.size} k := by
  have hle : k ≤ passes.length := Nat.le_of_lt hk
  have hlater : t.chart.Extends (state k).chart := by
    rw [← h.last]
    exact h.extends_chart hle (Nat.le_refl _)
  rw [(h.shadows k hle).due_eq, mem_due, Chart.mem_allRoutes]
  constructor
  · intro ⟨⟨⟨rule, nodes, hadmits⟩, hnodes⟩, hnew⟩
    refine ⟨⟨rule, nodes, hadmits.mono hlater⟩, hadmits.lists.lt_size, ?_⟩
    intro j hj
    by_contra hless
    obtain ⟨id, hid, hlarge⟩ := (h.frontier_le_iff hle hnodes).mp hnew j (Nat.lt_of_not_le hless)
    exact absurd (hj id hid) (Nat.not_lt.mpr hlarge)
  · intro ⟨⟨rule, nodes, hadmits⟩, hthere, hleast⟩
    have hnodes := nodes_ne_nil_of_admits hvalid hadmits
    refine ⟨⟨⟨rule, nodes, admits_of_lt_size hlater hadmits hthere⟩, hnodes⟩, ?_⟩
    apply (h.frontier_le_iff hle hnodes).mpr
    intro j hj
    by_contra hall
    push Not at hall
    exact absurd (hleast hall) (Nat.not_le.mpr hj)

/-- Each route of the last chart is tried in one pass and in no other. -/
theorem existsUnique_due {chart : Chart} {table : SymbolTable}
    (hvalid : ∀ rule ∈ rules, rule.validate table = .ok ()) (hpasses : passes ≠ [])
    (h : Tandem rules { chart } t n passes state naive) {route : Route} {rule : Production}
    {nodes : List Node} (hroute : t.chart.Admits rules route rule nodes) :
    ∃! k, k < passes.length ∧ route ∈ (naive k).due rules := by
  -- The last pass adds no node, so that all nodes are there before it.
  obtain ⟨last, hlength⟩ : ∃ last, passes.length = last + 1 :=
    Nat.exists_eq_add_one.mpr (List.length_pos_iff.mpr hpasses)
  have hlast : last < passes.length := by omega
  have hget : passes[last]? = some passes[last] := List.getElem?_eq_getElem hlast
  obtain ⟨made, hpassed⟩ := h.passed hget
  have hsize : t.chart.size = (state last).chart.size := by
    rw [← h.last, hlength, hpassed.size_eq, (h.produced_iff last _ hget).mpr hlength.symm,
      Nat.add_zero]
  have hthere : ∃ j, ∀ id ∈ route.nodes, id < (state j).chart.size :=
    ⟨last, hsize ▸ hroute.lists.lt_size⟩
  have hleast : IsLeast {j | ∀ id ∈ route.nodes, id < (state j).chart.size} (Nat.find hthere) :=
    ⟨Nat.find_spec hthere, fun j hj ↦ Nat.find_min' hthere hj⟩
  have hfirst : Nat.find hthere < passes.length := by
    have hle : Nat.find hthere ≤ last := Nat.find_min' hthere (hsize ▸ hroute.lists.lt_size)
    omega
  have hdue := (h.mem_due_iff hvalid hfirst).mpr ⟨⟨rule, nodes, hroute⟩, hleast⟩
  refine ⟨Nat.find hthere, ⟨hfirst, hdue⟩, ?_⟩
  intro k ⟨hk, htried⟩
  exact ((h.mem_due_iff hvalid hk).mp htried).2.unique hleast

end Tandem

/-- A run from a chart does the same as one without shortcuts, and it does nothing twice. -/
structure Retraces (rules : List Production) (chart : Chart) (final : Saturation)
    (passes : List PassCounts) (state : Nat → Saturation) (naive : Nat → Naive) : Prop where
  tandem : Tandem rules { chart } final { chart } passes state naive
  attempts : ∀ k counts, passes[k]? = some counts →
    Attempts rules (state k) (state (k + 1)) counts ((naive k).due rules)
  /-- The routes that a pass attempts are those whose nodes are there for the first time. -/
  due_iff : ∀ k < passes.length, ∀ route, route ∈ (naive k).due rules ↔
    (∃ rule nodes, final.chart.Admits rules route rule nodes) ∧
      IsLeast {j | ∀ id ∈ route.nodes, id < (state j).chart.size} k
  once : ∀ route rule nodes, final.chart.Admits rules route rule nodes →
    ∃! k, k < passes.length ∧ route ∈ (naive k).due rules

end Saturation

namespace Grammar

/-- After each pass of an analysis, the chart has the same nodes under the same numbers as without
shortcuts; each route of the last chart is attempted exactly once, in the first pass in which its
nodes are there, and no pass skips a route. -/
theorem retraces_of_analyzeWith {grammar : Grammar} {options : Options} {text : String}
    {a : Analysis} (h : grammar.analyzeWith options text = .ok a) :
    ∃ progress final state naive, (Segmentation.run grammar text.toList).result = .ok progress ∧
      a.trees = grammar.trees text.toList final ∧
      Saturation.Retraces grammar.rules.productions progress.chart final a.passes state naive := by
  have hvalid (rule : Production) (hrule : rule ∈ grammar.rules.productions) :
      rule.validate grammar.symbols = .ok () := grammar.validate_production hrule
  obtain ⟨final, hsearch, htrees⟩ := exists_search_of_analyzeWith h
  obtain ⟨progress, hprogress, hrun⟩ :=
    parts_of_search ((metered_search grammar text.toList).yields_iff.mpr hsearch)
  have hresult := (Segmentation.metered_run grammar text.toList).yields_iff.mp hprogress
  obtain ⟨state, naive, htandem⟩ :=
    Saturation.tandem_of_run (Saturation.shadows_initial _ progress.chart) hrun
  refine ⟨progress, final, state, naive, hresult, htrees, htandem, ?_, ?_, ?_⟩
  · intro k counts hk
    exact htandem.attempts hk
  · intro k hk route
    exact htandem.mem_due_iff hvalid hk
  · intro route rule nodes hroute
    exact htandem.existsUnique_due hvalid (Saturation.passes_ne_nil_of_run hrun) hroute

/-- Three letters take three passes, of which the last one finds nothing new. -/
theorem retraces_of_analyzeWith_letters : ∃ a,
    letters.analyzeWith { budget := none } "aaa" = .ok a ∧
      a.passes.map (fun counts ↦ (counts.attempts, counts.produced)) = [(5, 2), (4, 1), (1, 0)] ∧
      ∃ progress final state naive,
        (Segmentation.run letters "aaa".toList).result = .ok progress ∧
        a.trees = letters.trees "aaa".toList final ∧
        Saturation.Retraces letters.rules.productions progress.chart final a.passes state naive := by
  have hpasses : (((letters.searchIn "aaa".toList 3).outcome { limit := none }).1.toOption.join.map
      fun found ↦ found.2.2.map fun counts ↦ (counts.attempts, counts.produced)) =
        some [(5, 2), (4, 1), (1, 0)] := by
    decide +kernel
  obtain ⟨found, hfound, hcounts⟩ := Option.map_eq_some_iff.mp hpasses
  cases houtcome : (letters.searchIn "aaa".toList 3).outcome { limit := none } with
  | mk result after =>
    rw [houtcome] at hfound
    obtain rfl : result = .ok (some found) := by
      cases result with
      | error e => exact absurd hfound nofun
      | ok ended => exact congrArg Except.ok hfound
    have hsearch := search_of_searchIn houtcome
    obtain ⟨a, ha⟩ : ∃ a, letters.analyzeWith { budget := none } "aaa" = .ok a :=
      (analyzeWith_of_ok hsearch).imp fun _ ↦ And.left
    obtain ⟨s, hresult, -⟩ := exists_search_of_analyzeWith ha
    have hsame : (a.segmentation, s, a.passes) = found :=
      Except.ok.inj (hresult.symm.trans (congrArg Prod.fst hsearch))
    refine ⟨a, ha, ?_, retraces_of_analyzeWith ha⟩
    rw [← hcounts, ← hsame]

end Grammar

end Morphology
