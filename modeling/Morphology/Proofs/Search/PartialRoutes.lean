import Morphology.Proofs.Search.Rounds
import Morphology.Search.Route

/-!
# Matching in rounds

The routes of a chart can be found by a loop over routes that are not yet complete: in each round,
one of them is continued with every node that matches the next element of its pattern. Patterns are
finite, so the loop comes to an end, also where nodes are empty and the same place is come to again.
-/

namespace Morphology

theorem Execution.inTurn_pure {α β : Type} (f : α → List β) (l : List α) :
    inTurn (fun a ↦ pure (f a)) l = pure (l.flatMap f) := by
  induction l with
  | nil => rfl
  | cons a rest ih => simp [inTurn, ih]

/-- The beginning of a route, with what is left of the pattern. -/
structure PartialRoute where
  rule : Nat
  nodes : List Nat
  /-- The place where the next node must start. -/
  position : Nat
  /-- Whether one of the nodes is new. -/
  fresh : Bool
  rest : List TagPattern

namespace PartialRoute

variable {chart : Chart} {frontier : Nat}

/-- Goes on with a node, unless that makes a whole route without a new node. -/
def extend (frontier : Nat) (r : PartialRoute) (rest : List TagPattern) (id : Nat) (node : Node) :
    List PartialRoute :=
  let fresh := r.fresh || frontier ≤ id
  if rest.isEmpty && !fresh then []
  else [{ rule := r.rule, nodes := r.nodes ++ [id], position := node.stop, fresh, rest }]

/-- Goes on with every node that matches the next element of the pattern; without such an element
the route is complete. -/
def visit (chart : Chart) (frontier : Nat) (r : PartialRoute) : List Route × List PartialRoute :=
  match r.rest with
  | [] => ([⟨r.rule, r.nodes⟩], [])
  | pattern :: rest => ([], (chart.startingAt r.position).flatMap fun id ↦
      match chart.get? id with
      | none => []
      | some node => if pattern.accepts node.tag then r.extend frontier rest id node else [])

/-- All routes with this beginning. -/
def follow (chart : Chart) (frontier : Nat) (r : PartialRoute) : List Route :=
  match r.rest with
  | [] => [⟨r.rule, r.nodes⟩]
  | pattern :: rest => (chart.paths frontier r.position r.fresh (pattern :: rest)).map fun ids ↦
      ⟨r.rule, r.nodes ++ ids⟩

/-- Going on with a node leads to the routes that go on through it. -/
theorem flatMap_extend (chart : Chart) (r : PartialRoute) (rest : List TagPattern) (id : Nat)
    (node : Node) : (r.extend frontier rest id node).flatMap (follow chart frontier) =
      (chart.paths frontier node.stop (r.fresh || frontier ≤ id) rest).map fun ids ↦
        ⟨r.rule, r.nodes ++ id :: ids⟩ := by
  unfold extend
  cases rest with
  | nil =>
    rw [Chart.paths]
    cases r.fresh || frontier ≤ id with
    | false => rfl
    | true => rfl
  | cons pattern rest => simp [follow]

theorem follow_eq (chart : Chart) (frontier : Nat) (r : PartialRoute) : follow chart frontier r =
    (r.visit chart frontier).1 ++ (r.visit chart frontier).2.flatMap (follow chart frontier) := by
  obtain ⟨rule, nodes, position, fresh, rest⟩ := r
  cases rest with
  | nil => simp [follow, visit]
  | cons pattern rest =>
    rw [follow, visit, List.nil_append, List.flatMap_assoc]
    simp only
    rw [Chart.paths, List.map_flatMap]
    congr 1
    funext id
    cases chart.get? id with
    | none => rfl
    | some node =>
      simp only
      split
      · rw [flatMap_extend, List.map_map]
        rfl
      · rfl

/-- Whatever a partial route leads to has less of the pattern left. -/
theorem length_visit {r : PartialRoute} :
    ∀ later ∈ (r.visit chart frontier).2, later.rest.length < r.rest.length := by
  intro later hlater
  unfold visit at hlater
  split at hlater
  next => exact absurd hlater List.not_mem_nil
  next pattern rest hrest =>
    obtain ⟨id, -, hlater⟩ := List.mem_flatMap.mp hlater
    split at hlater
    next => exact absurd hlater List.not_mem_nil
    next node _ =>
      split at hlater
      next =>
        unfold extend at hlater
        simp only at hlater
        split at hlater
        next => exact absurd hlater List.not_mem_nil
        next =>
          obtain rfl := List.mem_singleton.mp hlater
          rw [hrest]
          exact Nat.lt_succ_self _
      next => exact absurd hlater List.not_mem_nil

end PartialRoute

namespace Chart

/-- The beginning of a route with a node and a production whose pattern it can start. -/
def partialRoutesFrom (frontier : Nat) (rules : List Production) (id : Nat) (node : Node)
    (rule : Nat) : List PartialRoute :=
  match rules[rule]? with
  | some { pattern := pattern :: rest, .. } =>
    if pattern.accepts node.tag then
      PartialRoute.extend frontier
        { rule, nodes := [], position := node.start, fresh := false, rest := [] } rest id node
    else []
  | _ => []

theorem flatMap_partialRoutesFrom (chart : Chart) (frontier : Nat) (rules : List Production)
    (id : Nat) (node : Node) (number : Nat) :
    (partialRoutesFrom frontier rules id node number).flatMap (PartialRoute.follow chart frontier) =
      chart.routesFrom frontier rules id node number := by
  unfold partialRoutesFrom routesFrom
  cases rules[number]? with
  | none => rfl
  | some rule =>
    obtain ⟨name, pattern, result, operations⟩ := rule
    cases pattern with
    | nil => rfl
    | cons pattern rest =>
      simp only
      split
      · rw [PartialRoute.flatMap_extend, Bool.false_or]
        rfl
      · rfl

/-- The beginnings of all routes. -/
def partialRoutes (chart : Chart) (frontier : Nat) (rules : List Production)
    (index : ProductionIndex) : List PartialRoute :=
  chart.entries.flatMap fun (id, node) ↦
    (index.candidates node.tag).flatMap (partialRoutesFrom frontier rules id node)

/-- The routes through new nodes, found by a loop over partial routes. -/
def matchRounds (chart : Chart) (frontier : Nat) (rules : List Production)
    (index : ProductionIndex) : Nat → Search (Option (List Route)) :=
  Search.rounds (fun r ↦ pure (r.visit chart frontier)) (chart.partialRoutes frontier rules index)

/-- The loop over partial routes comes to an end, with the routes through new nodes. -/
theorem settles_matchRounds (chart : Chart) (frontier : Nat) (rules : List Production)
    (index : ProductionIndex) : Search.Settles (chart.matchRounds frontier rules index)
      (pure (chart.freshRoutes frontier rules index)) := by
  have hroutes :
      (chart.partialRoutes frontier rules index).flatMap (PartialRoute.follow chart frontier) =
      chart.freshRoutes frontier rules index := by
    unfold partialRoutes freshRoutes
    simp only [List.flatMap_assoc, flatMap_partialRoutesFrom]
  rw [← hroutes, ← Execution.inTurn_pure]
  refine Search.settles_rounds (fun r ↦ Search.metered_pure _) (fun r ↦ ?_) (·.rest.length)
    (fun r found next hyields ↦ ?_) _
  · rw [PartialRoute.follow_eq]
    simp [Execution.inTurn_pure]
  · have hnext := Search.yields_pure.mp hyields
    obtain rfl : (r.visit chart frontier).2 = next := congrArg Prod.snd hnext
    exact PartialRoute.length_visit

end Chart

end Morphology
