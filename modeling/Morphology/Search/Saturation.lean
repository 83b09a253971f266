import Morphology.Increasing
import Morphology.Search.Combination
import Morphology.Search.Route
import Morphology.Search.Segmentation
import Std.Data.TreeSet

/-!
# Saturation

The second part of a search applies productions, pass after pass. A pass sees the chart as it was
before; what it finds is added when it is over. No route is tried twice.
-/

namespace Morphology

/-- The state of a search between two passes. -/
structure Saturation where
  chart : Chart
  /-- The number of the first node that the last pass has added. -/
  frontier : Nat := 0
  /-- The routes that were tried, each as the list of its numbers. -/
  attempted : Std.TreeSet (List Nat) := ∅
  /-- The routes whose structures contradict each other, latest first. -/
  rejected : List Route := []

/-- The numbers of a route, which tell it from every other route. -/
def Route.key (route : Route) : List Nat := route.rule :: route.nodes

namespace Saturation

/-- The places strictly inside of a stretch where nodes end or have cuts. -/
def innerCuts (start stop : Nat) (children : List Node) : List Nat :=
  let cuts := children.flatMap fun child ↦ child.cuts ++ [child.stop]
  insertAllIncreasing (cuts.filter fun cut ↦ start < cut && cut < stop) []

theorem mem_innerCuts {start stop cut : Nat} {children : List Node} :
    cut ∈ innerCuts start stop children ↔ start < cut ∧ cut < stop ∧
      ∃ child ∈ children.map Node.toItem, cut ∈ child.cuts ∨ cut = child.stop := by
  unfold innerCuts
  simp only [mem_insertAllIncreasing, List.mem_filter, List.mem_flatMap, List.mem_append,
    List.mem_singleton, Bool.and_eq_true, decide_eq_true_eq, List.not_mem_nil, or_false,
    List.mem_map]
  constructor
  · rintro ⟨⟨child, hchild, hcut⟩, hstart, hstop⟩
    exact ⟨hstart, hstop, child.toItem, ⟨child, hchild, rfl⟩, hcut⟩
  · rintro ⟨hstart, hstop, _, ⟨child, hchild, rfl⟩, hcut⟩
    exact ⟨⟨child, hchild, hcut⟩, hstart, hstop⟩

/-- The node that a production makes of some nodes; none, if their structures contradict each
other. -/
def makeNode (rule : Production) (route : Route) (children : List Node) :
    Except Defect (Option Node) :=
  match children.head?, children.getLast? with
  | some first, some last =>
    match rule.combine (children.map (·.features)) with
    | .error defect => .error defect
    | .ok none => .ok none
    | .ok (some features) =>
      if depthLimit < features.depth then .error (.tooDeep depthLimit)
      else .ok (some
        { start := first.start
          stop := last.stop
          tag := rule.result
          features
          cuts := innerCuts first.start last.stop children
          origin := .production route.rule route.nodes })
  | _, _ => .error .emptyPattern

/-- A node that was made reaches from its first child to its last one, it has the structure that the
production builds, and it is not too deep. -/
theorem exists_of_makeNode {rule : Production} {route : Route} {children : List Node} {node : Node}
    (h : makeNode rule route children = .ok (some node)) :
    ∃ first last features, children.head? = some first ∧ children.getLast? = some last ∧
      rule.combine (children.map (·.features)) = .ok (some features) ∧
      features.depth ≤ depthLimit ∧
      node =
        { start := first.start
          stop := last.stop
          tag := rule.result
          features
          cuts := innerCuts first.start last.stop children
          origin := .production route.rule route.nodes } := by
  unfold makeNode at h
  cases hfirst : children.head? with
  | none => simp [hfirst] at h
  | some first =>
    cases hlast : children.getLast? with
    | none => simp [hfirst, hlast] at h
    | some last =>
      cases hcombine : rule.combine (children.map (·.features)) with
      | error defect => simp [hfirst, hlast, hcombine] at h
      | ok outcome =>
        cases outcome with
        | none => simp [hfirst, hlast, hcombine] at h
        | some features =>
          simp only [hfirst, hlast, hcombine] at h
          by_cases hdeep : depthLimit < features.depth
          · simp [hdeep] at h
          · rw [if_neg hdeep] at h
            exact ⟨first, last, features, rfl, rfl, rfl, Nat.le_of_not_lt hdeep,
              (Option.some.inj (Except.ok.inj h)).symm⟩

/-- A pass over the chart, so far. -/
structure Pass where
  attempted : Std.TreeSet (List Nat)
  rejected : List Route
  /-- What was found, latest first. -/
  found : List Node := []
  counts : PassCounts := {}

namespace Pass

/-- Notes that a route has been tried. -/
def attempt (p : Pass) (route : Route) : Pass :=
  { p with
    attempted := p.attempted.insert route.key
    counts := { p.counts with attempts := p.counts.attempts + 1 } }

/-- Notes that the structures along a route contradict each other. -/
def reject (p : Pass) (route : Route) : Pass :=
  { p with
    rejected := route :: p.rejected
    counts := { p.counts with rejected := p.counts.rejected + 1 } }

/-- Notes that a route was tried before. -/
def skip (p : Pass) : Pass :=
  { p with counts := { p.counts with skipped := p.counts.skipped + 1 } }

/-- Tries a route, unless it was tried before. -/
def tryRoute (rules : List Production) (chart : Chart) (p : Pass) (route : Route) : Search Pass :=
  if p.attempted.contains route.key then pure p.skip
  else
    match rules[route.rule]? with
    | none => pure p
    | some rule => do
      Search.step
      let p := p.attempt route
      match ← Search.orFail rule.name (makeNode rule route (route.nodes.filterMap chart.get?)) with
      | none => return p.reject route
      | some node => return { p with found := node :: p.found }

/-- What trying a route does to a pass: nothing is found along a route that was attempted before or
has no rule; along any other one, what is made is found, and the route is attempted from now on. -/
theorem tryRoute_cases {rules : List Production} {chart : Chart} {p q : Pass} {route : Route}
    (h : (p.tryRoute rules chart route).Yields q) :
    (p.attempted.contains route.key ∨ rules[route.rule]? = none) ∧ q.attempted = p.attempted ∧
        q.found = p.found ∨
      ∃ rule made, rules[route.rule]? = some rule ∧
        makeNode rule route (route.nodes.filterMap chart.get?) = .ok made ∧
        q.attempted = p.attempted.insert route.key ∧ q.found = made.toList ++ p.found := by
  unfold tryRoute at h
  by_cases hattempted : p.attempted.contains route.key
  · rw [if_pos hattempted] at h
    obtain rfl := Search.yields_pure.mp h
    exact .inl ⟨.inl hattempted, rfl, rfl⟩
  · rw [if_neg hattempted] at h
    cases hrule : rules[route.rule]? with
    | none =>
      simp only [hrule] at h
      obtain rfl := Search.yields_pure.mp h
      exact .inl ⟨.inr rfl, rfl, rfl⟩
    | some rule =>
      simp only [hrule] at h
      obtain ⟨_, -, h⟩ := h.of_bind
      obtain ⟨made, hmade, h⟩ := h.of_bind
      refine .inr ⟨rule, made, rfl, Search.yields_orFail hmade, ?_⟩
      cases made with
      | none => exact Search.yields_pure.mp h ▸ ⟨rfl, rfl⟩
      | some node => exact Search.yields_pure.mp h ▸ ⟨rfl, rfl⟩

end Pass

/-- Tries every route that the last pass has made possible. -/
def pass (rules : List Production) (index : ProductionIndex) (s : Saturation) :
    Search (Saturation × PassCounts) := do
  let p : Pass := { attempted := s.attempted, rejected := s.rejected }
  let p ← (s.chart.freshRoutes s.frontier rules index).foldlM (Pass.tryRoute rules s.chart) p
  let (produced, chart) := s.chart.insertAll p.found.reverse
  let after : Saturation :=
    { chart, frontier := s.chart.size, attempted := p.attempted, rejected := p.rejected }
  return (after, { p.counts with produced })

end Saturation

end Morphology
