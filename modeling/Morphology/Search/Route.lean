import Morphology.Search.Chart
import Morphology.Search.Index

/-!
# Routes

A route is a sequence of adjacent nodes whose tags match the pattern of a production. After a
pass over the chart only routes through a new node are worth trying: all others were tried
before. Routes are listed by their first node, then by the production, then node by node.
-/

namespace Morphology

/-- A production, by its number, and the nodes to which it can be applied. -/
structure Route where
  rule : Nat
  nodes : List Nat
deriving DecidableEq

namespace Chart

/-- The ways to match patterns with adjacent nodes from a place on. Nodes from number `frontier`
on are new; `fresh` tells whether there was a new node before this place. -/
def paths (chart : Chart) (frontier : Nat) (position : Nat) (fresh : Bool) :
    List TagPattern → List (List Nat)
  | [] => if fresh then [[]] else []
  | pattern :: rest =>
    (chart.startingAt position).flatMap fun id ↦
      match chart.get? id with
      | none => []
      | some node =>
        if pattern.accepts node.tag then
          (chart.paths frontier node.stop (fresh || frontier ≤ id) rest).map (id :: ·)
        else []

/-- The routes that start with a node and a production. -/
def routesFrom (chart : Chart) (frontier : Nat) (rules : List Production) (id : Nat) (node : Node)
    (rule : Nat) : List Route :=
  match rules[rule]? with
  | some { pattern := pattern :: rest, .. } =>
    if pattern.accepts node.tag then
      (chart.paths frontier node.stop (frontier ≤ id) rest).map fun nodes ↦ ⟨rule, id :: nodes⟩
    else []
  | _ => []

/-- All routes through a node that is new. -/
def freshRoutes (chart : Chart) (frontier : Nat) (rules : List Production)
    (index : ProductionIndex) : List Route :=
  chart.entries.flatMap fun (id, node) ↦
    (index.candidates node.tag).flatMap (chart.routesFrom frontier rules id node)

end Chart

end Morphology
