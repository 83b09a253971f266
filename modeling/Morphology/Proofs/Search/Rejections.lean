import Mathlib.Algebra.GroupWithZero.Nat
import Morphology.Proofs.Search.Passes

/-!
# Rejected routes

A pass notes the routes along which no node can be made because the structures contradict each
other, and it counts them. Since a run tries every route of its last chart, and no route twice, what
it has noted in the end is exactly the routes of that chart whose structures contradict each other,
each of them once. The counts of the passes add up to what the run has left.
-/

namespace Morphology.Saturation

variable {table : SymbolTable} {rules : List Production} {chart later : Chart}
  {s t : Saturation} {counts : PassCounts} {passes : List PassCounts} {route : Route}

/-- Whether no node is made along a route because the structures contradict each other. -/
def contradicts (rules : List Production) (chart : Chart) (route : Route) : Bool :=
  match (tryAlong rules chart route).result with
  | .ok made => made.isNone
  | .error _ => false

theorem contradicts_of_yields {made : Option Node}
    (h : (tryAlong rules chart route).Yields made) :
    contradicts rules chart route = made.isNone := by
  unfold contradicts
  rw [(metered_tryAlong rules chart route).yields_iff.mp h]

/-- The structures along a route contradict each other if its production finds that they do. -/
theorem contradicts_iff {rule : Production} {nodes : List Node}
    (hvalid : rule.validate table = .ok ()) (h : chart.Admits rules route rule nodes) :
    contradicts rules chart route ↔ rule.combine (nodes.map (·.features)) = .ok none := by
  obtain ⟨first, last, -, outcome, hcombine, hmake⟩ := makeNode_of_admits hvalid h
  have hresult : (tryAlong rules chart route).result =
      (Search.orFail rule.name (makeNode rule route nodes)).result := by
    unfold tryAlong
    simp only [h.rule_eq, h.lists.filterMap_eq]
    exact Search.result_step_bind (Search.metered_orFail _ _)
  unfold contradicts
  rw [hresult, hmake, hcombine]
  cases outcome with
  | none => simp [Search.orFail]
  | some features =>
    by_cases hdeep : depthLimit < features.depth
    · simp [hdeep, Search.orFail]
    · simp [hdeep, Search.orFail]

/-- Whether the structures along a route contradict each other does not change when the chart
grows. -/
theorem contradicts_mono (hvalid : ∀ rule ∈ rules, rule.validate table = .ok ())
    (hlater : later.Extends chart) (hroute : route ∈ chart.allRoutes rules) :
    contradicts rules later route = contradicts rules chart route := by
  obtain ⟨⟨rule, nodes, hadmits⟩, -⟩ := Chart.mem_allRoutes.mp hroute
  have hrule := hvalid rule (List.mem_of_getElem? hadmits.rule_eq)
  rw [Bool.eq_iff_iff, contradicts_iff hrule hadmits, contradicts_iff hrule (hadmits.mono hlater)]

/-! ## Passes -/

namespace Pass

variable {p : Pass} {routes : List Route} {made : List (Option Node)}

theorem rejected_noteAll
    (h : List.Forall₂ (fun route result ↦ (tryAlong rules chart route).Yields result) routes made) :
    (p.noteAll routes made).rejected =
      (routes.filter (contradicts rules chart)).reverse ++ p.rejected := by
  induction h generalizing p with
  | nil => rfl
  | @cons route result routes made hresult _ ih =>
    have hlater := ih (p := p.note route result)
    have hcontradicts := contradicts_of_yields hresult
    cases result with
    | none =>
      rw [List.filter_cons_of_pos hcontradicts, List.reverse_cons, List.append_assoc]
      exact hlater
    | some node =>
      rw [List.filter_cons_of_neg (by simp [hcontradicts])]
      exact hlater

end Pass

theorem countP_isNone {routes : List Route} {made : List (Option Node)}
    (h : List.Forall₂ (fun route result ↦ (tryAlong rules chart route).Yields result) routes made) :
    made.countP (·.isNone) = (routes.filter (contradicts rules chart)).length := by
  rw [← List.countP_eq_length_filter]
  induction h with
  | nil => rfl
  | cons hresult _ ih => rw [List.countP_cons, List.countP_cons, ih, contradicts_of_yields hresult]

/-- A pass notes the routes among those that it lists whose structures contradict each other, and
it counts them. -/
theorem rejected_of_pass (hs : Current rules s)
    (h : (s.pass rules (.ofRules rules)).Yields (t, counts)) :
    t.rejected = ((s.due rules).filter (contradicts rules s.chart)).reverse ++ s.rejected ∧
      counts.rejected = ((s.due rules).filter (contradicts rules s.chart)).length := by
  rw [pass_eq hs] at h
  obtain ⟨made, hmade, h⟩ := h.of_bind
  obtain ⟨rfl, rfl⟩ := Prod.mk.inj (Search.yields_pure.mp h)
  have hall := Search.forall₂_of_mapM hmade
  exact ⟨Pass.rejected_noteAll hall, countP_isNone hall⟩

theorem length_rejected_of_pass (hs : Current rules s)
    (h : (s.pass rules (.ofRules rules)).Yields (t, counts)) :
    t.rejected.length = s.rejected.length + counts.rejected := by
  obtain ⟨hrejected, hcount⟩ := rejected_of_pass hs h
  rw [hrejected, hcount, List.length_append, List.length_reverse, Nat.add_comm]

/-- Between two passes, the rejected routes are those among the routes that have been tried whose
structures contradict each other, and none of them is noted twice. -/
structure Ledger (rules : List Production) (s : Saturation) : Prop where
  current : Current rules s
  nodup : s.rejected.Nodup
  mem_iff : ∀ route, route ∈ s.rejected ↔
    s.attempted.contains route.key ∧ contradicts rules s.chart route

theorem ledger_initial (rules : List Production) (chart : Chart) : Ledger rules { chart } where
  current := current_initial rules chart
  nodup := .nil
  mem_iff route := by simp

theorem Ledger.pass (hvalid : ∀ rule ∈ rules, rule.validate table = .ok ()) (hs : Ledger rules s)
    (h : (s.pass rules (.ofRules rules)).Yields (t, counts)) : Ledger rules t := by
  obtain ⟨made, hpassed⟩ := hs.current.passed h
  have hrejected := (rejected_of_pass hs.current h).1
  refine ⟨hpassed.current hs.current, ?_, fun route ↦ ?_⟩
  · rw [hrejected, List.nodup_append]
    refine ⟨List.nodup_reverse.mpr ((nodup_due rules s).filter _), hs.nodup, ?_⟩
    -- What was noted before had been tried, and a pass does not list what has been tried.
    rintro route hnew _ hold rfl
    have hdue := (List.mem_filter.mp (List.mem_reverse.mp hnew)).1
    exact hs.current.not_contains hdue ((hs.mem_iff route).mp hold).1
  · rw [hrejected, List.mem_append, List.mem_reverse, List.mem_filter, hs.mem_iff,
      hpassed.contains_iff]
    have hsame (hroute : route ∈ s.chart.allRoutes rules) :
        contradicts rules t.chart route = contradicts rules s.chart route :=
      contradicts_mono hvalid hpassed.extends_chart hroute
    constructor
    · rintro (⟨hdue, hcontradicts⟩ | ⟨htried, hcontradicts⟩)
      · exact ⟨.inr hdue, hsame (mem_due.mp hdue).1 ▸ hcontradicts⟩
      · exact ⟨.inl htried, hsame ((hs.current route).mp htried).1 ▸ hcontradicts⟩
    · rintro ⟨htried | hdue, hcontradicts⟩
      · exact .inr ⟨htried, hsame ((hs.current route).mp htried).1 ▸ hcontradicts⟩
      · exact .inl ⟨hdue, hsame (mem_due.mp hdue).1 ▸ hcontradicts⟩

/-! ## Runs -/

/-- What a run has left, and how its passes add up to it. -/
structure Balanced (rules : List Production) (s t : Saturation) (passes : List PassCounts) :
    Prop where
  ledger : Ledger rules t
  frontier_eq : t.frontier = t.chart.size
  size_eq : t.chart.size = s.chart.size + (passes.map (·.produced)).sum
  rejected_eq : t.rejected.length = s.rejected.length + (passes.map (·.rejected)).sum

theorem Ledger.balanced (hvalid : ∀ rule ∈ rules, rule.validate table = .ok ())
    (hs : Ledger rules s) (h : Runs rules s passes t) : Balanced rules s t passes := by
  induction h with
  | @last s t counts hpass hlast =>
    obtain ⟨made, hpassed⟩ := hs.current.passed hpass
    refine ⟨hs.pass hvalid hpass, ?_, ?_, ?_⟩
    · rw [hpassed.frontier_eq, hpassed.size_eq, hlast, Nat.add_zero]
    · rw [hpassed.size_eq, List.map_singleton, List.sum_singleton]
    · rw [length_rejected_of_pass hs.current hpass, List.map_singleton, List.sum_singleton]
  | @next s middle t counts later hpass _ _ ih =>
    obtain ⟨made, hpassed⟩ := hs.current.passed hpass
    have hrest := ih (hs.pass hvalid hpass)
    refine ⟨hrest.ledger, hrest.frontier_eq, ?_, ?_⟩
    · calc
        t.chart.size = middle.chart.size + (later.map (·.produced)).sum := hrest.size_eq
        _ = s.chart.size + (counts.produced + (later.map (·.produced)).sum) := by
          rw [hpassed.size_eq, Nat.add_assoc]
        _ = s.chart.size + ((counts :: later).map (·.produced)).sum := by
          rw [List.map_cons, List.sum_cons]
    · calc
        t.rejected.length = middle.rejected.length + (later.map (·.rejected)).sum :=
          hrest.rejected_eq
        _ = s.rejected.length + (counts.rejected + (later.map (·.rejected)).sum) := by
          rw [length_rejected_of_pass hs.current hpass, Nat.add_assoc]
        _ = s.rejected.length + ((counts :: later).map (·.rejected)).sum := by
          rw [List.map_cons, List.sum_cons]

/-- In the end, the rejected routes are all routes of the chart whose structures contradict each
other. -/
theorem Balanced.mem_rejected_iff (h : Balanced rules s t passes) :
    route ∈ t.rejected ↔ route ∈ t.chart.allRoutes rules ∧ contradicts rules t.chart route := by
  rw [h.ledger.mem_iff, h.ledger.current, h.frontier_eq]
  refine and_congr_left fun _ ↦ and_iff_left_of_imp ?_
  exact Chart.lt_size_of_mem_allRoutes

/-- All passes of a run but the last one find something new. -/
theorem Runs.exists_append (h : Runs rules s passes t) : ∃ earlier last,
    passes = earlier ++ [last] ∧ (∀ counts ∈ earlier, 0 < counts.produced) ∧ last.produced = 0 := by
  induction h with
  | last _ hlast => exact ⟨[], _, rfl, fun _ hcounts ↦ absurd hcounts List.not_mem_nil, hlast⟩
  | next _ hproductive _ ih =>
    obtain ⟨earlier, last, rfl, hearlier, hlast⟩ := ih
    exact ⟨_ :: earlier, last, rfl,
      List.forall_mem_cons.mpr ⟨Nat.pos_of_ne_zero hproductive, hearlier⟩, hlast⟩

end Morphology.Saturation
