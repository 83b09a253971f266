import Morphology.Proofs.Search.AllRoutes
import Morphology.Proofs.Search.PartialRoutes

/-!
# The order of routes

A pass finds the routes through new nodes by depth-first search with a stack: the partial route on
top of it is taken off, and what continues it is put on, the last first, so that the first is taken
next. The search comes to an end with exactly the routes that go through a new node, each of them
once, sorted by their first node, then by the production, then by the other nodes.
-/

namespace Morphology

namespace Chart

/-- The numbers of the nodes that start at a place and match an element of a pattern. -/
def matching (chart : Chart) (pattern : TagPattern) (position : Nat) : List Nat :=
  (chart.startingAt position).filter fun id ↦
    (chart.get? id).any fun node ↦ pattern.accepts node.tag

end Chart

/-- How far the search has come: the routes that are complete, and a stack of those that are not.
The top of the stack is its last element. -/
structure RouteSearch where
  found : Array Route
  stack : Array PartialRoute

namespace RouteSearch

variable {chart : Chart} {frontier : Nat} {s : RouteSearch} {r : PartialRoute}

/-- The partial route that goes on with a node, if there is one. -/
def onward (chart : Chart) (frontier : Nat) (r : PartialRoute) (rest : List TagPattern) (id : Nat) :
    List PartialRoute :=
  match chart.get? id with
  | none => []
  | some node => r.extend frontier rest id node

/-- Puts what a node leads to on top of a stack. -/
def put (onward : Nat → List PartialRoute) (stack : Array PartialRoute) (id : Nat) :
    Array PartialRoute :=
  stack ++ onward id

/-- Takes the top off the stack. A complete route is found; another one is continued with all nodes
that match, the last first. -/
def step (chart : Chart) (frontier : Nat) (s : RouteSearch) : Option RouteSearch :=
  s.stack.back?.map fun r ↦
    match r.rest with
    | [] => { found := s.found.push ⟨r.rule, r.nodes⟩, stack := s.stack.pop }
    | pattern :: rest =>
      let ids := (chart.matching pattern r.position).reverse
      { s with stack := ids.foldl (put (onward chart frontier r rest)) s.stack.pop }

/-- Takes so many steps at most; there is no result if the stack is not empty after them. -/
def run (chart : Chart) (frontier : Nat) (s : RouteSearch) : Nat → Option (List Route)
  | 0 => if s.stack.isEmpty then some s.found.toList else none
  | n + 1 =>
    match s.step chart frontier with
    | none => some s.found.toList
    | some next => next.run chart frontier n

/-- Nothing is found yet, and the stack has the beginnings of all routes, the first on top. -/
def start (chart : Chart) (frontier : Nat) (rules : List Production) (index : ProductionIndex) :
    RouteSearch where
  found := #[]
  stack := (chart.partialRoutes frontier rules index).reverse.toArray

/-- The partial routes on the stack, in the order in which they are taken off it. -/
def pending (s : RouteSearch) : List PartialRoute := s.stack.toList.reverse

theorem pending_start (chart : Chart) (frontier : Nat) (rules : List Production)
    (index : ProductionIndex) :
    (start chart frontier rules index).pending = chart.partialRoutes frontier rules index := by
  simp [start, pending]

theorem reverse_onward (rest : List TagPattern) (id : Nat) :
    (onward chart frontier r rest id).reverse = onward chart frontier r rest id := by
  unfold onward PartialRoute.extend
  split
  · rfl
  · dsimp only
    split <;> rfl

/-- What is put on the stack the last first is taken off it the first first. -/
theorem reverse_foldl_put {onward : Nat → List PartialRoute}
    (hreverse : ∀ id, (onward id).reverse = onward id) (stack : Array PartialRoute)
    (ids : List Nat) :
    (ids.reverse.foldl (put onward) stack).toList.reverse =
      ids.flatMap onward ++ stack.toList.reverse := by
  induction ids with
  | nil => rfl
  | cons id ids ih =>
    rw [List.reverse_cons, List.foldl_append, List.foldl_cons, List.foldl_nil, put,
      Array.toList_appendList, List.reverse_append, hreverse, ih, List.flatMap_cons,
      List.append_assoc]

/-- A partial route is continued with the nodes that match. -/
theorem visit_of_rest {pattern : TagPattern} {rest : List TagPattern} (h : r.rest = pattern :: rest) :
    r.visit chart frontier =
      ([], (chart.matching pattern r.position).flatMap (onward chart frontier r rest)) := by
  rw [PartialRoute.visit, h, Chart.matching, Chart.flatMap_filter_eq]
  refine congrArg (Prod.mk _) (List.flatMap_congr fun id _ ↦ ?_)
  unfold onward
  cases chart.get? id <;> simp

theorem step_eq_none (chart : Chart) (frontier : Nat) (h : s.pending = []) :
    s.step chart frontier = none := by
  have hstack : s.stack = #[] := by simpa [pending] using h
  simp [step, hstack]

/-- A step takes one partial route off the stack, and adds what it leads to: the route itself, if it
is complete, and otherwise the partial routes that continue it, in their order. -/
theorem step_eq_some (chart : Chart) (frontier : Nat) {rest : List PartialRoute}
    (h : s.pending = r :: rest) : ∃ next, s.step chart frontier = some next ∧
      next.found.toList = s.found.toList ++ (r.visit chart frontier).1 ∧
      next.pending = (r.visit chart frontier).2 ++ rest := by
  have hlist : s.stack.toList = rest.reverse ++ [r] := by
    rw [← List.reverse_reverse s.stack.toList, show s.stack.toList.reverse = r :: rest from h,
      List.reverse_cons]
  have htop : s.stack.back? = some r := by
    rw [← Array.getLast?_toList, hlist, List.getLast?_concat]
  have hpop : s.stack.pop.toList.reverse = rest := by
    rw [Array.toList_pop, hlist, List.dropLast_concat, List.reverse_reverse]
  rw [step, htop, Option.map_some]
  refine ⟨_, rfl, ?_⟩
  cases hrest : r.rest with
  | nil =>
    have hvisit : r.visit chart frontier = ([⟨r.rule, r.nodes⟩], []) := by
      rw [PartialRoute.visit, hrest]
    rw [hvisit]
    exact ⟨Array.toList_push, hpop⟩
  | cons pattern patterns =>
    rw [visit_of_rest hrest]
    refine ⟨(List.append_nil _).symm, ?_⟩
    rw [← hpop]
    exact reverse_foldl_put (reverse_onward patterns) s.stack.pop _

/-- The search with a stack is the loop over what is left to do. -/
theorem run_eq_rounds (chart : Chart) (frontier : Nat) (s : RouteSearch) (n : Nat) :
    ∃ later, Search.rounds (fun r ↦ pure (r.visit chart frontier)) s.pending n = pure later ∧
      s.run chart frontier n = later.map (s.found.toList ++ ·) := by
  induction n generalizing s with
  | zero =>
    cases h : s.pending with
    | nil =>
      have hstack : s.stack = #[] := by simpa [pending] using h
      exact ⟨some [], rfl, by simp [run, hstack]⟩
    | cons r rest =>
      have hstack : s.stack ≠ #[] := fun heq ↦ by simp [pending, heq] at h
      exact ⟨none, rfl, by simp [run, hstack]⟩
  | succ n ih =>
    cases h : s.pending with
    | nil => exact ⟨some [], rfl, by simp [run, step_eq_none chart frontier h]⟩
    | cons r rest =>
      obtain ⟨next, hstep, hfound, hpending⟩ := step_eq_some chart frontier h
      obtain ⟨later, hrounds, hrun⟩ := ih next
      refine ⟨later.map ((r.visit chart frontier).1 ++ ·), ?_, ?_⟩
      · rw [Search.rounds, pure_bind]
        simp only
        rw [← hpending, hrounds, pure_bind]
      · rw [run, hstep]
        simp only
        rw [hrun, hfound, Option.map_map]
        exact congrArg (later.map ·) (funext fun routes ↦ List.append_assoc ..)

/-- The search with a stack comes to an end, with the routes that are listed. -/
theorem run_start (chart : Chart) (frontier : Nat) (rules : List Production)
    (index : ProductionIndex) : ∃ enough, ∀ n, enough ≤ n →
      (start chart frontier rules index).run chart frontier n =
        some (chart.freshRoutes frontier rules index) := by
  obtain ⟨enough, hsettles⟩ := chart.settles_matchRounds frontier rules index
  refine ⟨enough, fun n hn ↦ ?_⟩
  obtain ⟨later, hrounds, hrun⟩ :=
    run_eq_rounds chart frontier (start chart frontier rules index) n
  have hlater : some <$> pure (chart.freshRoutes frontier rules index) = (pure later : Search _) := by
    rw [← hrounds, pending_start]
    exact (hsettles n hn).symm
  rw [map_pure] at hlater
  have hyields : (pure later : Search _).Yields (some (chart.freshRoutes frontier rules index)) :=
    hlater ▸ Search.yields_pure.mpr rfl
  rw [hrun, Search.yields_pure.mp hyields]
  rfl

end RouteSearch

/-! ## Sorted routes -/

/-- What the routes of a pass are sorted by: the first node, the production, and the other nodes. -/
def Route.rank (route : Route) : List Nat :=
  match route.nodes with
  | [] => [route.rule]
  | id :: ids => id :: route.rule :: ids

namespace Chart

variable {chart : Chart} {rules : List Production} {frontier : Nat}

theorem pairwise_continuations (chart : Chart) (position : Nat) (patterns : List TagPattern) :
    (chart.continuations position patterns).Pairwise (· < ·) := by
  induction patterns generalizing position with
  | nil => exact List.pairwise_singleton _ _
  | cons pattern rest ih =>
    rw [continuations, List.pairwise_flatMap]
    constructor
    · intro entry _
      split
      · exact List.pairwise_map.mpr ((ih entry.2.stop).imp fun hlt ↦
          List.cons_lt_cons_iff.mpr (.inr ⟨rfl, hlt⟩))
      · exact .nil
    · refine (List.pairwise_map.mp (pairwise_map_fst_entries chart)).imp fun hlt ids ha others hb ↦ ?_
      split at ha
      · split at hb
        · obtain ⟨_, -, rfl⟩ := List.mem_map.mp ha
          obtain ⟨_, -, rfl⟩ := List.mem_map.mp hb
          exact List.cons_lt_cons_iff.mpr (.inl hlt)
        · exact absurd hb List.not_mem_nil
      · exact absurd ha List.not_mem_nil

theorem pairwise_routesOf (chart : Chart) (entry : Nat × Node) (numbered : Production × Nat) :
    (chart.routesOf entry numbered).Pairwise (·.rank < ·.rank) := by
  unfold routesOf
  split
  · exact .nil
  · split
    · refine List.pairwise_map.mpr ((pairwise_continuations chart _ _).imp fun hlt ↦ ?_)
      exact List.cons_lt_cons_iff.mpr (.inr ⟨rfl, List.cons_lt_cons_iff.mpr (.inr ⟨rfl, hlt⟩)⟩)
    · exact .nil

/-- The rank of a route starts with the node and the production that the route starts with. -/
theorem exists_rank_of_mem_routesOf {entry : Nat × Node} {numbered : Production × Nat} {route : Route}
    (h : route ∈ chart.routesOf entry numbered) :
    ∃ ids, route.rank = entry.1 :: numbered.2 :: ids := by
  unfold routesOf at h
  split at h
  · exact absurd h List.not_mem_nil
  · split at h
    · obtain ⟨ids, -, rfl⟩ := List.mem_map.mp h
      exact ⟨ids, rfl⟩
    · exact absurd h List.not_mem_nil

/-- All routes of a chart are listed in the order of their ranks. -/
theorem pairwise_allRoutes (chart : Chart) (rules : List Production) :
    (chart.allRoutes rules).Pairwise (·.rank < ·.rank) := by
  have hnumbers : (rules.zipIdx.map (·.2)).Pairwise (· < ·) := by
    rw [List.zipIdx_map_snd]
    exact List.pairwise_lt_range'
  unfold allRoutes
  rw [List.pairwise_flatMap]
  constructor
  · intro entry _
    rw [List.pairwise_flatMap]
    refine ⟨fun numbered _ ↦ pairwise_routesOf chart entry numbered, ?_⟩
    refine (List.pairwise_map.mp hnumbers).imp fun hlt route ha other hb ↦ ?_
    obtain ⟨_, hroute⟩ := exists_rank_of_mem_routesOf ha
    obtain ⟨_, hother⟩ := exists_rank_of_mem_routesOf hb
    rw [hroute, hother]
    exact List.cons_lt_cons_iff.mpr (.inr ⟨rfl, List.cons_lt_cons_iff.mpr (.inl hlt)⟩)
  · refine (List.pairwise_map.mp (pairwise_map_fst_entries chart)).imp fun hlt route ha other hb ↦ ?_
    obtain ⟨_, -, ha⟩ := List.mem_flatMap.mp ha
    obtain ⟨_, -, hb⟩ := List.mem_flatMap.mp hb
    obtain ⟨_, hroute⟩ := exists_rank_of_mem_routesOf ha
    obtain ⟨_, hother⟩ := exists_rank_of_mem_routesOf hb
    rw [hroute, hother]
    exact List.cons_lt_cons_iff.mpr (.inl hlt)

/-- Nodes match a pattern, told place by place: there are as many of them as elements, each has a
tag that its element accepts, and each starts where the one before it stops. -/
structure FitTogether (pattern : List TagPattern) (nodes : List Node) : Prop where
  length_eq : nodes.length = pattern.length
  accepts {k : Nat} {element : TagPattern} {node : Node} :
    pattern[k]? = some element → nodes[k]? = some node → element.accepts node.tag
  adjacent {k : Nat} {node next : Node} :
    nodes[k]? = some node → nodes[k + 1]? = some next → next.start = node.stop

theorem acceptEach_iff {pattern : List TagPattern} {nodes : List Node} :
    TagPattern.AcceptEach pattern (nodes.map Node.toItem) ↔ nodes.length = pattern.length ∧
      ∀ (k : Nat) (element : TagPattern) (node : Node), pattern[k]? = some element →
        nodes[k]? = some node → element.accepts node.tag := by
  unfold TagPattern.AcceptEach
  rw [List.forall₂_map_right_iff, List.forall₂_iff_get, eq_comm]
  refine and_congr_right fun _ ↦ ⟨fun h k element node helement hnode ↦ ?_, fun h k hk hk' ↦ ?_⟩
  · obtain ⟨hk, rfl⟩ := List.getElem?_eq_some_iff.mp helement
    obtain ⟨hk', rfl⟩ := List.getElem?_eq_some_iff.mp hnode
    exact h k hk hk'
  · exact h k _ _ (List.getElem?_eq_getElem hk) (List.getElem?_eq_getElem hk')

theorem adjacent_iff : ∀ {nodes : List Node},
    (∃ start stop, Adjacent start (nodes.map (·.span)) stop) ↔
      ∀ (k : Nat) (node next : Node), nodes[k]? = some node → nodes[k + 1]? = some next →
        next.start = node.stop
  | [] => by simp [Adjacent]
  | [node] => by simp [Adjacent, Item.span]
  | node :: next :: rest => by
    have hrest := @adjacent_iff (next :: rest)
    constructor
    · rintro ⟨start, stop, -, hnext, hadjacent⟩ k
      cases k with
      | zero =>
        intro _ _ hfirst hsecond
        obtain rfl := Option.some.inj hfirst
        obtain rfl := Option.some.inj hsecond
        exact hnext
      | succ k => exact hrest.mp ⟨_, stop, hnext, hadjacent⟩ k
    · intro h
      obtain ⟨_, stop, rfl, hadjacent⟩ := hrest.mpr fun k ↦ h (k + 1)
      exact ⟨node.start, stop, rfl, h 0 _ _ rfl rfl, hadjacent⟩

theorem fitTogether_iff {pattern : List TagPattern} {nodes : List Node} :
    FitTogether pattern nodes ↔ TagPattern.AcceptEach pattern (nodes.map Node.toItem) ∧
      ∃ start stop, Adjacent start (nodes.map (·.span)) stop := by
  rw [acceptEach_iff, adjacent_iff]
  constructor
  · intro ⟨hlength, haccepts, hadjacent⟩
    exact ⟨⟨hlength, fun _ _ _ ↦ haccepts⟩, fun _ _ _ ↦ hadjacent⟩
  · intro ⟨⟨hlength, haccepts⟩, hadjacent⟩
    exact ⟨hlength, haccepts _ _ _, hadjacent _ _ _⟩

end Chart

/-- Depth-first search with a stack comes to an end on every chart, and finds what a pass lists:
exactly the routes of a production through adjacent nodes that match its pattern, at least one of
which is new. No route is found twice, and they are sorted by their first node, then by the
production, then by their other nodes. -/
theorem RouteSearch.run_enumerates (chart : Chart) (frontier : Nat) (rules : List Production) :
    ∃ routes, (∃ enough, ∀ n, enough ≤ n →
        (start chart frontier rules (.ofRules rules)).run chart frontier n = some routes) ∧
      routes = chart.freshRoutes frontier rules (.ofRules rules) ∧
      (∀ route, route ∈ routes ↔ ∃ rule nodes, rules[route.rule]? = some rule ∧
        chart.Lists route.nodes nodes ∧ Chart.FitTogether rule.pattern nodes ∧
        ∃ id ∈ route.nodes, frontier ≤ id) ∧
      routes.Nodup ∧ routes.Pairwise (·.rank < ·.rank) := by
  refine ⟨_, run_start chart frontier rules (.ofRules rules), rfl, fun route ↦ ?_, ?_, ?_⟩
  · rw [Chart.mem_freshRoutes]
    constructor
    · rintro ⟨⟨rule, nodes, hrule, hlists, haccepts, hadjacent⟩, hfresh⟩
      exact ⟨rule, nodes, hrule, hlists, Chart.fitTogether_iff.mpr ⟨haccepts, hadjacent⟩, hfresh⟩
    · rintro ⟨rule, nodes, hrule, hlists, hfit, hfresh⟩
      obtain ⟨haccepts, hadjacent⟩ := Chart.fitTogether_iff.mp hfit
      exact ⟨⟨rule, nodes, hrule, hlists, haccepts, hadjacent⟩, hfresh⟩
  · rw [Chart.freshRoutes_eq_filter]
    exact (chart.nodup_allRoutes rules).filter _
  · rw [Chart.freshRoutes_eq_filter]
    exact (chart.pairwise_allRoutes rules).filter _

end Morphology
