import Morphology.Proofs.Search.Route

/-!
# All routes of a chart

The routes of a chart, new or old, in the order in which they are listed: by their first node, then
by the production, then node by node. They are found by trying every production on every node and
going on with every node that starts where the last one stops, without an index and without regard
to what is new. The routes that a pass lists are those of them that go through a new node, in the
same order.
-/

namespace Morphology

namespace Chart

/-- The ways to match patterns with adjacent nodes from a place on, whether or not they are new. -/
def continuations (chart : Chart) (position : Nat) : List TagPattern → List (List Nat)
  | [] => [[]]
  | pattern :: rest =>
    chart.entries.flatMap fun entry ↦
      if entry.2.start = position ∧ pattern.accepts entry.2.tag then
        (chart.continuations entry.2.stop rest).map (entry.1 :: ·)
      else []

/-- The routes that apply a production, given with its number, to a node and the nodes after it. -/
def routesOf (chart : Chart) (entry : Nat × Node) (numbered : Production × Nat) : List Route :=
  match numbered.1.pattern with
  | [] => []
  | pattern :: rest =>
    if pattern.accepts entry.2.tag then
      (chart.continuations entry.2.stop rest).map fun ids ↦ ⟨numbered.2, entry.1 :: ids⟩
    else []

/-- All routes of a chart. -/
def allRoutes (chart : Chart) (rules : List Production) : List Route :=
  chart.entries.flatMap fun entry ↦ rules.zipIdx.flatMap (chart.routesOf entry)

variable {chart : Chart} {rules : List Production} {frontier : Nat}

/-! ## Entries -/

theorem map_fst_entries (chart : Chart) : chart.entries.map (·.1) = List.range chart.size := by
  unfold entries size
  rw [List.map_map, ← Array.length_toList]
  exact (List.zipIdx_map_snd 0 _).trans (List.range_eq_range' ..).symm

theorem pairwise_map_fst_entries (chart : Chart) : (chart.entries.map (·.1)).Pairwise (· < ·) := by
  rw [map_fst_entries]
  exact List.pairwise_lt_range

/-- The nodes that start at a place can be found by looking at all of them. -/
theorem startingAt_eq (chart : Chart) (place : Nat) :
    chart.startingAt place = (chart.entries.filter fun entry ↦ entry.2.start = place).map (·.1) := by
  have hfiltered : ((chart.entries.filter fun entry ↦ entry.2.start = place).map (·.1)).Pairwise
      (· < ·) :=
    (pairwise_map_fst_entries chart).sublist (List.filter_sublist.map _)
  refine List.Pairwise.eq_of_mem_iff (r := (· < ·)) (pairwise_startingAt chart place) hfiltered
    fun id ↦ ?_
  rw [mem_startingAt, List.mem_map]
  constructor
  · rintro ⟨node, hnode, hstart⟩
    exact ⟨(id, node), List.mem_filter.mpr ⟨mem_entries.mpr hnode, decide_eq_true hstart⟩, rfl⟩
  · rintro ⟨⟨other, node⟩, hentry, rfl⟩
    obtain ⟨hentry, hstart⟩ := List.mem_filter.mp hentry
    exact ⟨node, mem_entries.mp hentry, of_decide_eq_true hstart⟩

theorem flatMap_filter_eq {α β : Type} (l : List α) (keep : α → Bool) (f : α → List β) :
    (l.filter keep).flatMap f = l.flatMap fun a ↦ if keep a then f a else [] := by
  induction l with
  | nil => rfl
  | cons a rest ih =>
    cases hkeep : keep a with
    | false => simp [hkeep, ih]
    | true => simp [hkeep, ih]

/-! ## Routes through new nodes -/

/-- Going on through new nodes is going on, and then leaving out the ways without a new node. -/
theorem paths_eq_filter (chart : Chart) (frontier position : Nat) (fresh : Bool)
    (patterns : List TagPattern) : chart.paths frontier position fresh patterns =
      (chart.continuations position patterns).filter fun ids ↦ fresh || ids.any (frontier ≤ ·) := by
  induction patterns generalizing position fresh with
  | nil => cases fresh <;> rfl
  | cons pattern rest ih =>
    rw [paths, continuations, startingAt_eq, List.flatMap_map, flatMap_filter_eq,
      List.filter_flatMap]
    apply List.flatMap_congr
    rintro ⟨id, node⟩ hentry
    have hnode : chart.get? id = some node := mem_entries.mp hentry
    by_cases hstart : node.start = position
    · by_cases haccepts : pattern.accepts node.tag
      · simp [hnode, hstart, haccepts, ih, List.filter_map, Function.comp_def, Bool.or_assoc]
      · simp [hnode, haccepts]
    · simp [hstart]

/-- The routes with a given beginning that go through a new node. -/
theorem routesFrom_eq_filter {id number : Nat} {node : Node} {rule : Production}
    (hrule : rules[number]? = some rule) : chart.routesFrom frontier rules id node number =
      (chart.routesOf (id, node) (rule, number)).filter fun route ↦
        route.nodes.any (frontier ≤ ·) := by
  obtain ⟨name, patterns, result, operations⟩ := rule
  cases patterns with
  | nil => simp [routesFrom, routesOf, hrule]
  | cons pattern rest =>
    by_cases haccepts : pattern.accepts node.tag
    · simp [routesFrom, routesOf, hrule, haccepts, paths_eq_filter, List.filter_map,
        Function.comp_def]
    · simp [routesFrom, routesOf, hrule, haccepts]

/-- A pass lists the routes through a new node, in the order in which all routes are listed. -/
theorem freshRoutes_eq_filter (chart : Chart) (frontier : Nat) (rules : List Production) :
    chart.freshRoutes frontier rules (.ofRules rules) =
      (chart.allRoutes rules).filter fun route ↦ route.nodes.any (frontier ≤ ·) := by
  unfold freshRoutes allRoutes
  rw [List.filter_flatMap]
  apply List.flatMap_congr
  rintro ⟨id, node⟩ -
  have hoffered := eq_map_filter_zipIdx (ProductionIndex.pairwise_candidates rules node.tag)
    fun number ↦ ProductionIndex.exists_rule_of_mem_candidates
  simp only
  rw [hoffered, List.flatMap_map, flatMap_filter_eq, List.filter_flatMap]
  apply List.flatMap_congr
  rintro ⟨rule, number⟩ hnumbered
  have hrule : rules[number]? = some rule := List.mem_zipIdx_iff_getElem?.mp hnumbered
  cases hcontains : ((ProductionIndex.ofRules rules).candidates node.tag).contains number with
  | true => exact routesFrom_eq_filter hrule
  | false =>
    -- The first child cannot have the tag of the node, so that there are no routes to leave out.
    rw [← routesFrom_eq_filter hrule]
    apply Eq.symm
    apply List.eq_nil_iff_forall_not_mem.mpr
    intro route hroute
    obtain ⟨other, pattern, rest, _, hother, hpattern, haccepts, _⟩ := mem_routesFrom.mp hroute
    have hfirst : other.pattern.head? = some pattern := by rw [hpattern, List.head?_cons]
    have hmem := ProductionIndex.mem_candidates.mpr ⟨other, hother, pattern, hfirst, haccepts⟩
    rw [List.contains_iff_mem.mpr hmem] at hcontains
    exact absurd hcontains nofun

/-! ## Members -/

theorem exists_of_mem_allRoutes {route : Route} (h : route ∈ chart.allRoutes rules) :
    ∃ id node rule ids, (id, node) ∈ chart.entries ∧ rules[route.rule]? = some rule ∧
      route.nodes = id :: ids := by
  unfold allRoutes at h
  obtain ⟨⟨id, node⟩, hentry, h⟩ := List.mem_flatMap.mp h
  obtain ⟨⟨rule, number⟩, hnumbered, h⟩ := List.mem_flatMap.mp h
  unfold routesOf at h
  split at h
  · exact absurd h List.not_mem_nil
  · split at h
    · obtain ⟨ids, -, rfl⟩ := List.mem_map.mp h
      exact ⟨id, node, rule, ids, hentry, List.mem_zipIdx_iff_getElem?.mp hnumbered, rfl⟩
    · exact absurd h List.not_mem_nil

/-- All routes that some nodes admit are listed. -/
theorem mem_allRoutes {route : Route} : route ∈ chart.allRoutes rules ↔
    (∃ rule nodes, chart.Admits rules route rule nodes) ∧ route.nodes ≠ [] := by
  have hfresh : route ∈ chart.freshRoutes 0 rules (.ofRules rules) ↔
      route ∈ chart.allRoutes rules := by
    rw [freshRoutes_eq_filter, List.mem_filter, and_iff_left_iff_imp]
    intro h
    obtain ⟨id, _, _, ids, _, _, hnodes⟩ := exists_of_mem_allRoutes h
    simp [hnodes]
  rw [← hfresh, mem_freshRoutes]
  refine and_congr_right fun _ ↦ ?_
  simp [List.eq_nil_iff_forall_not_mem]

/-- A route of a chart is a route of every later chart. -/
theorem mem_allRoutes_mono {later : Chart} (hlater : later.Extends chart) {route : Route}
    (h : route ∈ chart.allRoutes rules) : route ∈ later.allRoutes rules := by
  obtain ⟨⟨rule, nodes, hadmits⟩, hnodes⟩ := mem_allRoutes.mp h
  exact mem_allRoutes.mpr ⟨⟨rule, nodes, hadmits.mono hlater⟩, hnodes⟩

theorem lt_size_of_mem_allRoutes {route : Route} (h : route ∈ chart.allRoutes rules) :
    ∀ id ∈ route.nodes, id < chart.size :=
  let ⟨⟨_, _, hadmits⟩, _⟩ := mem_allRoutes.mp h
  hadmits.lists.lt_size

/-! ## No route is listed twice -/

theorem pairwise_entries (chart : Chart) : chart.entries.Pairwise fun a b ↦ a.1 ≠ b.1 :=
  (List.pairwise_map.mp (pairwise_map_fst_entries chart)).imp Nat.ne_of_lt

theorem nodup_continuations (chart : Chart) (position : Nat) (patterns : List TagPattern) :
    (chart.continuations position patterns).Nodup := by
  induction patterns generalizing position with
  | nil => exact List.nodup_singleton _
  | cons pattern rest ih =>
    rw [continuations, List.nodup_flatMap]
    constructor
    · intro entry _
      split
      · exact (ih entry.2.stop).map List.cons_injective
      · exact List.nodup_nil
    · refine (pairwise_entries chart).imp fun hne ids ha hb ↦ hne ?_
      simp only at ha hb
      split at ha
      · split at hb
        · obtain ⟨_, -, rfl⟩ := List.mem_map.mp ha
          obtain ⟨_, -, hids⟩ := List.mem_map.mp hb
          exact (List.cons.inj hids).1.symm
        · exact absurd hb List.not_mem_nil
      · exact absurd ha List.not_mem_nil

theorem mem_routesOf_eq {entry : Nat × Node} {numbered : Production × Nat} {route : Route}
    (h : route ∈ chart.routesOf entry numbered) :
    route.rule = numbered.2 ∧ route.nodes.head? = some entry.1 := by
  unfold routesOf at h
  split at h
  · exact absurd h List.not_mem_nil
  · split at h
    · obtain ⟨ids, -, rfl⟩ := List.mem_map.mp h
      exact ⟨rfl, rfl⟩
    · exact absurd h List.not_mem_nil

theorem nodup_routesOf (chart : Chart) (entry : Nat × Node) (numbered : Production × Nat) :
    (chart.routesOf entry numbered).Nodup := by
  unfold routesOf
  split
  · exact List.nodup_nil
  · split
    · refine (nodup_continuations chart _ _).map fun ids others h ↦ ?_
      exact (List.cons.inj (Route.mk.inj h).2).2
    · exact List.nodup_nil

theorem nodup_allRoutes (chart : Chart) (rules : List Production) :
    (chart.allRoutes rules).Nodup := by
  unfold allRoutes
  rw [List.nodup_flatMap]
  constructor
  · intro entry _
    rw [List.nodup_flatMap]
    refine ⟨fun numbered _ ↦ nodup_routesOf chart entry numbered, ?_⟩
    have hnumbers : (rules.zipIdx.map (·.2)).Nodup := by
      rw [List.zipIdx_map_snd]
      exact List.nodup_range'
    refine (List.pairwise_map.mp hnumbers).imp fun hne route ha hb ↦ hne ?_
    exact (mem_routesOf_eq ha).1.symm.trans (mem_routesOf_eq hb).1
  · refine (pairwise_entries chart).imp fun hne route ha hb ↦ hne ?_
    obtain ⟨_, -, ha⟩ := List.mem_flatMap.mp ha
    obtain ⟨_, -, hb⟩ := List.mem_flatMap.mp hb
    exact Option.some.inj ((mem_routesOf_eq ha).2.symm.trans (mem_routesOf_eq hb).2)

end Chart

end Morphology
