import Morphology.Search.Universe

/-!
# Fixpoint of a search

Passes are made until one finds nothing new. This comes to an end for all productions, however
they feed each other: every pass but the last adds an item, and all items lie in a universe that
is finite.
-/

namespace Morphology

namespace Saturation

/-- The later state has more nodes, and the nodes it has more were made of the earlier ones. -/
structure Advances (rules : List Production) (s t : Saturation) : Prop where
  size_lt : s.chart.size < t.chart.size
  items : ∀ item ∈ t.chart.items, item ∈ s.chart.items ∨
    ∃ rule ∈ rules, ∃ route node, node.toItem = item ∧
      makeNode rule route (route.nodes.filterMap s.chart.get?) = .ok (some node)

/-- Advancing does not leave bounds that productions cannot leave. -/
theorem Advances.within {rules : List Production} {s t : Saturation} {scope : Scope}
    (hadvances : Advances rules s t) (hclosed : scope.Closed rules)
    (hwithin : ∀ item ∈ s.chart.items, item.Within scope) :
    ∀ item ∈ t.chart.items, item.Within scope := by
  intro item hitem
  rcases hadvances.items item hitem with hold | ⟨rule, hrule, route, node, rfl, hmade⟩
  · exact hwithin item hold
  · refine hclosed.within_makeNode hrule (fun child hchild ↦ ?_) hmade
    obtain ⟨id, -, hget⟩ := List.mem_filterMap.mp hchild
    exact hwithin child.toItem (Chart.mem_items.mpr ⟨id, child, hget, rfl⟩)

/-- A pass that finds something new advances. -/
theorem advances_of_pass {rules : List Production} {index : ProductionIndex} {s t : Saturation}
    {counts : PassCounts} (h : (s.pass rules index).Yields (t, counts))
    (hproductive : counts.produced ≠ 0) : Advances rules s t := by
  obtain ⟨p, htried, h⟩ := h.of_bind
  have hmade : ∀ node ∈ p.found, ∃ rule ∈ rules, ∃ route,
      makeNode rule route (route.nodes.filterMap s.chart.get?) = .ok (some node) := by
    refine htried.foldlM (fun p : Pass ↦ ∀ node ∈ p.found, ∃ rule ∈ rules, ∃ route,
      makeNode rule route (route.nodes.filterMap s.chart.get?) = .ok (some node)) ?_ (by simp)
    intro p q route _ hp htry node hnode
    rcases Pass.tryRoute_cases htry with ⟨-, -, hfound⟩ | ⟨rule, made, hrule, hmade, -, hfound⟩
    · exact hp node (hfound ▸ hnode)
    · rw [hfound] at hnode
      rcases List.mem_append.mp hnode with hnew | hold
      · exact ⟨rule, List.mem_of_getElem? hrule, route, Option.mem_toList.mp hnew ▸ hmade⟩
      · exact hp node hold
  obtain ⟨rfl, rfl⟩ := Prod.mk.inj (Search.yields_pure.mp h)
  constructor
  · have hsize := Chart.size_insertAll s.chart p.found.reverse
    rw [hsize]
    exact Nat.lt_add_of_pos_right (Nat.pos_of_ne_zero hproductive)
  · intro item hitem
    refine (Chart.mem_items_insertAll.mp hitem).imp id ?_
    rintro ⟨node, hnode, heq⟩
    obtain ⟨rule, hrule, route, hmakes⟩ := hmade node (List.mem_reverse.mp hnode)
    exact ⟨rule, hrule, route, node, heq, hmakes⟩

/-- No search can advance for ever. -/
theorem wellFounded_advances (rules : List Production) :
    WellFounded fun t s : Saturation ↦ Advances rules s t := by
  refine ⟨fun s ↦ ?_⟩
  obtain ⟨capacity, hcapacity⟩ := (Item.listable (.of s.chart.items rules)).bound
  have hclosed := Scope.closed_of s.chart.items rules
  -- The induction is on the number of items that there is still room for.
  have hroom (room : Nat) : ∀ t : Saturation, capacity ≤ t.chart.size + room →
      (∀ item ∈ t.chart.items, item.Within (.of s.chart.items rules)) →
        Acc (fun t s : Saturation ↦ Advances rules s t) t := by
    induction room with
    | zero =>
      intro t hfull hwithin
      refine Acc.intro t fun u hadvances ↦ ?_
      have hsize : t.chart.size < u.chart.size := hadvances.size_lt
      have hfits : u.chart.size ≤ capacity := by
        rw [← u.chart.length_items]
        exact hcapacity u.chart.items u.chart.distinct (hadvances.within hclosed hwithin)
      exact absurd (Nat.lt_of_lt_of_le hsize hfits) (Nat.not_lt.mpr hfull)
    | succ room ih =>
      intro t hleft hwithin
      refine Acc.intro t fun u hadvances ↦ ih u ?_ (hadvances.within hclosed hwithin)
      have hsize : t.chart.size < u.chart.size := hadvances.size_lt
      omega
  exact hroom capacity s (Nat.le_add_left ..) fun item ↦ Scope.within_of

/-- Makes passes until one finds nothing new, on a budget. -/
def fixpoint (rules : List Production) (index : ProductionIndex) (s : Saturation)
    (budget : Budget) : Except AnalysisError (Saturation × List PassCounts) × Budget :=
  match _ : (s.pass rules index).outcome budget with
  | (.error e, budget) => (.error e, budget)
  | (.ok (t, counts), budget) =>
    if _ : counts.produced = 0 then (.ok (t, [counts]), budget)
    else
      match fixpoint rules index t budget with
      | (.error e, budget) => (.error e, budget)
      | (.ok (final, later), budget) => (.ok (final, counts :: later), budget)
termination_by (wellFounded_advances rules).wrap s
decreasing_by exact advances_of_pass ⟨_, _, by assumption⟩ (by assumption)

/-- Makes passes until one finds nothing new. -/
def run (rules : List Production) (s : Saturation) : Search (Saturation × List PassCounts) :=
  .ofFunction (s.fixpoint rules (.ofRules rules))

/-- A search for the fixpoint is a pass, and another search unless the pass found nothing new. -/
theorem run_eq (rules : List Production) (s : Saturation) :
    s.run rules = do
      let (t, counts) ← s.pass rules (.ofRules rules)
      if counts.produced = 0 then return (t, [counts])
      else
        let (final, later) ← t.run rules
        return (final, counts :: later) := by
  refine Search.ext fun budget ↦ ?_
  rw [run, Search.outcome_ofFunction, fixpoint, Search.outcome_bind]
  split
  next hpass => simp [hpass]
  next t counts after hpass =>
    simp only [hpass]
    by_cases hlast : counts.produced = 0
    · simp [hlast]
    · simp only [dif_neg hlast, if_neg hlast, Search.outcome_bind, run, Search.outcome_ofFunction]
      split <;> simp_all

end Saturation

end Morphology
