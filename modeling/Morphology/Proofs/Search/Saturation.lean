import Morphology.Proofs.Search.Combination
import Morphology.Proofs.Search.Metering
import Morphology.Search.Fixpoint

/-!
# Saturated charts

A pass tries the routes through new nodes that were not tried before. Since every other route was
tried by an earlier pass, nothing is left to try when a pass finds nothing new: the chart then has
whatever some production makes of its nodes.
-/

namespace Morphology

theorem Route.key_injective {route other : Route} (h : route.key = other.key) : route = other := by
  obtain ⟨rule, nodes⟩ := route
  obtain ⟨rule', nodes'⟩ := other
  obtain ⟨rfl, rfl⟩ := List.cons.inj h
  rfl

namespace Saturation

variable {rules : List Production} {chart : Chart}

/-! ## One route -/

theorem Pass.metered_tryRoute (rules : List Production) (chart : Chart) (p : Pass) (route : Route) :
    (p.tryRoute rules chart route).Metered := by
  unfold tryRoute
  split
  · exact Search.metered_pure _
  · split
    · exact Search.metered_pure _
    · refine Search.metered_step_bind ((Search.metered_orFail _ _).bind fun made _ ↦ ?_)
      cases made <;> exact Search.metered_pure _

/-- What trying a route of the chart does to a pass: the route has been attempted before, or it is
now, and what is made of it is found. -/
theorem Pass.cases_of_admits {p q : Pass} {route : Route} {rule : Production} {nodes : List Node}
    (hroute : chart.Admits rules route rule nodes)
    (h : (p.tryRoute rules chart route).Yields q) :
    p.attempted.contains route.key ∧ q.attempted = p.attempted ∧ q.found = p.found ∨
      ∃ made, makeNode rule route nodes = .ok made ∧
        q.attempted = p.attempted.insert route.key ∧ q.found = made.toList ++ p.found := by
  have hcases := tryRoute_cases h
  simp only [hroute.rule_eq, hroute.lists.filterMap_eq] at hcases
  rcases hcases with ⟨hbefore, hsame⟩ | ⟨_, made, hrule, hmade, hnew⟩
  · exact .inl ⟨hbefore.resolve_right nofun, hsame⟩
  · obtain rfl := Option.some.inj hrule
    exact .inr ⟨made, hmade, hnew⟩

/-! ## Tried routes -/

/-- A route of the chart has been tried, and if something was made of it, it is one of `found`. -/
def Tried (rules : List Production) (chart : Chart) (found : Item → Prop) (route : Route) : Prop :=
  ∃ rule nodes made, chart.Admits rules route rule nodes ∧ makeNode rule route nodes = .ok made ∧
    ∀ node, made = some node → found node.toItem

theorem Tried.mono {later : Chart} {found found' : Item → Prop} {route : Route}
    (h : Tried rules chart found route) (hlater : later.Extends chart)
    (hfound : ∀ item, found item → found' item) : Tried rules later found' route := by
  obtain ⟨rule, nodes, made, hadmits, hmade, hnode⟩ := h
  exact ⟨rule, nodes, made, hadmits.mono hlater, hmade, fun node hsome ↦ hfound _ (hnode node hsome)⟩

/-- The items that a pass over a chart will leave in it. -/
def Pass.Finds (chart : Chart) (p : Pass) (item : Item) : Prop :=
  item ∈ chart.items ∨ ∃ node ∈ p.found, node.toItem = item

/-- The routes that a pass has noted as attempted have been tried. -/
def Pass.Notes (rules : List Production) (chart : Chart) (p : Pass) : Prop :=
  ∀ route, p.attempted.contains route.key → Tried rules chart (p.Finds chart) route

/-- Trying a route adds it to the attempted ones and forgets none of them. -/
theorem Pass.notes_of_tryRoute {p q : Pass} {route : Route} {rule : Production} {nodes : List Node}
    (hroute : chart.Admits rules route rule nodes) (hp : p.Notes rules chart)
    (h : (p.tryRoute rules chart route).Yields q) :
    q.Notes rules chart ∧ q.attempted.contains route.key ∧
      ∀ key, p.attempted.contains key → q.attempted.contains key := by
  rcases cases_of_admits hroute h with ⟨hbefore, hattempted, hfound⟩ | ⟨made, hmade, hattempted, hfound⟩
  · unfold Notes Finds
    rw [hattempted, hfound]
    exact ⟨hp, hbefore, fun _ hkey ↦ hkey⟩
  · have hcontains (key : List Nat) :
        q.attempted.contains key ↔ route.key = key ∨ p.attempted.contains key := by
      rw [hattempted, Std.TreeSet.contains_insert, Bool.or_eq_true, beq_iff_eq,
        Std.LawfulEqOrd.compare_eq_iff_eq]
    have hmore (item : Item) (hitem : p.Finds chart item) : q.Finds chart item := by
      refine hitem.imp_right fun ⟨node, hnode, heq⟩ ↦ ⟨node, ?_, heq⟩
      rw [hfound]
      exact List.mem_append_right _ hnode
    refine ⟨fun other hother ↦ ?_, (hcontains _).mpr (.inl rfl),
      fun key hkey ↦ (hcontains key).mpr (.inr hkey)⟩
    rcases (hcontains _).mp hother with hsame | hbefore
    · obtain rfl := Route.key_injective hsame
      refine ⟨rule, nodes, made, hroute, hmade, fun node hnode ↦ .inr ⟨node, ?_, rfl⟩⟩
      rw [hfound]
      exact List.mem_append_left _ (Option.mem_toList.mpr hnode)
    · exact (hp other hbefore).mono (.refl chart) hmore

/-- When routes of the chart have been tried one after the other, all of them are attempted. -/
theorem Pass.notes_of_tryRoutes {routes : List Route} {p q : Pass}
    (hroutes : ∀ route ∈ routes, ∃ rule nodes, chart.Admits rules route rule nodes)
    (hp : p.Notes rules chart) (h : (routes.foldlM (Pass.tryRoute rules chart) p).Yields q) :
    q.Notes rules chart ∧ (∀ route ∈ routes, q.attempted.contains route.key) ∧
      ∀ key, p.attempted.contains key → q.attempted.contains key := by
  induction routes generalizing p with
  | nil =>
    obtain rfl := Search.yields_pure.mp h
    exact ⟨hp, fun _ hroute ↦ absurd hroute List.not_mem_nil, fun _ hkey ↦ hkey⟩
  | cons route rest ih =>
    obtain ⟨⟨rule, nodes, hroute⟩, hrest⟩ := List.forall_mem_cons.mp hroutes
    rw [List.foldlM_cons] at h
    obtain ⟨middle, hfirst, hlater⟩ := h.of_bind
    obtain ⟨hnotes, hattempted, hkept⟩ := notes_of_tryRoute hroute hp hfirst
    obtain ⟨hnotes', hattempted', hkept'⟩ := ih hrest hnotes hlater
    exact ⟨hnotes', List.forall_mem_cons.mpr ⟨hkept' _ hattempted, hattempted'⟩,
      fun key hkey ↦ hkept' key (hkept key hkey)⟩

/-! ## Passes -/

theorem metered_pass (rules : List Production) (index : ProductionIndex) (s : Saturation) :
    (s.pass rules index).Metered := by
  unfold pass
  exact Search.metered_map (Search.metered_foldlM (Pass.metered_tryRoute rules s.chart) _ _) _

/-- Between two passes, every route through nodes that the last pass has seen has been tried, and
so has every route that is noted as attempted. -/
structure Settled (rules : List Production) (s : Saturation) : Prop where
  seen : ∀ route rule nodes, s.chart.Admits rules route rule nodes →
    (∀ id ∈ route.nodes, id < s.frontier) → Tried rules s.chart (· ∈ s.chart.items) route
  attempted : ∀ route, s.attempted.contains route.key →
    Tried rules s.chart (· ∈ s.chart.items) route

/-- Productions that can be used have something to combine. -/
theorem nodes_ne_nil_of_admits {table : SymbolTable}
    (hvalid : ∀ rule ∈ rules, rule.validate table = .ok ()) {route : Route} {rule : Production}
    {nodes : List Node} (hroute : chart.Admits rules route rule nodes) : route.nodes ≠ [] := by
  intro hnil
  have hlists := hroute.lists
  rw [hnil] at hlists
  obtain rfl := List.forall₂_nil_left_iff.mp hlists
  have hpattern := List.forall₂_nil_right_iff.mp hroute.acceptEach
  exact Production.pattern_ne_nil (hvalid rule (List.mem_of_getElem? hroute.rule_eq)) hpattern

/-- Before the first pass no route has been seen. -/
theorem settled_initial {table : SymbolTable}
    (hvalid : ∀ rule ∈ rules, rule.validate table = .ok ()) (chart : Chart) :
    Settled rules { chart } where
  seen route rule nodes hroute hids := by
    have hnil : route.nodes = [] :=
      List.eq_nil_iff_forall_not_mem.mpr fun id hid ↦ absurd (hids id hid) (Nat.not_lt_zero id)
    exact absurd hnil (nodes_ne_nil_of_admits hvalid hroute)
  attempted route h := by simp at h

/-- A route through nodes of a chart is a route of the chart already. -/
theorem admits_of_lt_size {later : Chart} {route : Route} {rule : Production} {nodes : List Node}
    (hlater : later.Extends chart) (h : later.Admits rules route rule nodes)
    (hids : ∀ id ∈ route.nodes, id < chart.size) : chart.Admits rules route rule nodes where
  rule_eq := h.rule_eq
  lists := h.lists.restrict hlater hids
  acceptEach := h.acceptEach
  adjacent := h.adjacent

/-- A pass has seen all nodes that were there before it. -/
theorem chart_of_pass {s t : Saturation} {counts : PassCounts}
    (h : (s.pass rules (.ofRules rules)).Yields (t, counts)) :
    ∃ p : Pass, ((s.chart.freshRoutes s.frontier rules (.ofRules rules)).foldlM
        (Pass.tryRoute rules s.chart) { attempted := s.attempted, rejected := s.rejected }).Yields p ∧
      t.chart = (s.chart.insertAll p.found.reverse).2 ∧ t.frontier = s.chart.size ∧
        t.attempted = p.attempted ∧ counts.produced = (s.chart.insertAll p.found.reverse).1 := by
  unfold pass at h
  obtain ⟨p, hp, h⟩ := h.of_bind
  obtain ⟨rfl, rfl⟩ := Prod.mk.inj (Search.yields_pure.mp h)
  exact ⟨p, hp, rfl, rfl, rfl, rfl⟩

/-- A pass only adds to the chart. -/
theorem extends_of_pass {s t : Saturation} {counts : PassCounts}
    (h : (s.pass rules (.ofRules rules)).Yields (t, counts)) : t.chart.Extends s.chart := by
  obtain ⟨p, -, hchart, -⟩ := chart_of_pass h
  rw [hchart]
  exact Chart.extends_insertAll _ _

theorem settled_of_pass {s t : Saturation} {counts : PassCounts} (hs : Settled rules s)
    (h : (s.pass rules (.ofRules rules)).Yields (t, counts)) : Settled rules t := by
  obtain ⟨p, hp, hchart, hfrontier, hattempted, -⟩ := chart_of_pass h
  have hextends := extends_of_pass h
  have hfinds (item : Item) (hitem : p.Finds s.chart item) : item ∈ t.chart.items := by
    rw [hchart]
    refine Chart.mem_items_insertAll.mpr (hitem.imp_right fun ⟨node, hnode, heq⟩ ↦ ?_)
    exact ⟨node, List.mem_reverse.mpr hnode, heq⟩
  have hbefore : ({ attempted := s.attempted, rejected := s.rejected } : Pass).Notes rules s.chart :=
    fun route hroute ↦ (hs.attempted route hroute).mono (.refl s.chart) fun _ ↦ .inl
  obtain ⟨hnotes, hfresh, -⟩ := Pass.notes_of_tryRoutes
    (fun route hroute ↦ (Chart.mem_freshRoutes.mp hroute).1) hbefore hp
  constructor
  · intro route rule nodes hroute hids
    rw [hfrontier] at hids
    have hadmits := admits_of_lt_size hextends hroute hids
    by_cases hold : ∀ id ∈ route.nodes, id < s.frontier
    · exact (hs.seen route rule nodes hadmits hold).mono hextends fun _ ↦ hextends.mem_items
    · have hnew : ∃ id ∈ route.nodes, s.frontier ≤ id := by simpa using hold
      have hmem := Chart.mem_freshRoutes.mpr ⟨⟨rule, nodes, hadmits⟩, hnew⟩
      exact (hnotes route (hfresh route hmem)).mono hextends hfinds
  · intro route hroute
    rw [hattempted] at hroute
    exact (hnotes route hroute).mono hextends hfinds

/-! ## Runs -/

theorem metered_run (rules : List Production) (s : Saturation) : (s.run rules).Metered := by
  induction s using (wellFounded_advances rules).induction with
  | _ s ih =>
    rw [run_eq]
    refine (metered_pass rules _ s).bind fun (t, counts) hpass ↦ ?_
    by_cases hlast : counts.produced = 0
    · simp only [if_pos hlast]
      exact Search.metered_pure _
    · simp only [if_neg hlast]
      refine Search.metered_map (ih t ?_) _
      exact advances_of_pass ((metered_pass rules _ s).yields_iff.mpr hpass) hlast

/-- Passes that lead from one state to another, each with its counts. All of them but the last find
something new. -/
inductive Runs (rules : List Production) : Saturation → List PassCounts → Saturation → Prop
  | last {s t : Saturation} {counts : PassCounts}
      (pass : (s.pass rules (.ofRules rules)).Yields (t, counts))
      (produced_eq : counts.produced = 0) : Runs rules s [counts] t
  | next {s middle t : Saturation} {counts : PassCounts} {later : List PassCounts}
      (pass : (s.pass rules (.ofRules rules)).Yields (middle, counts))
      (produced_ne : counts.produced ≠ 0) (rest : Runs rules middle later t) :
      Runs rules s (counts :: later) t

theorem runs_of_run {s t : Saturation} {passes : List PassCounts}
    (h : (s.run rules).Yields (t, passes)) : Runs rules s passes t := by
  induction s using (wellFounded_advances rules).induction generalizing passes with
  | _ s ih =>
    rw [run_eq] at h
    obtain ⟨⟨middle, counts⟩, hpass, h⟩ := h.of_bind
    by_cases hlast : counts.produced = 0
    · simp only [if_pos hlast] at h
      obtain ⟨rfl, rfl⟩ := Prod.mk.inj (Search.yields_pure.mp h)
      exact .last hpass hlast
    · simp only [if_neg hlast] at h
      obtain ⟨⟨final, later⟩, hrest, h⟩ := h.of_bind
      obtain ⟨rfl, rfl⟩ := Prod.mk.inj (Search.yields_pure.mp h)
      exact .next hpass hlast (ih middle (advances_of_pass hpass hlast) hrest)

/-- A run ends with a pass that finds nothing new, after passes that keep what every pass keeps. -/
theorem last_pass_of_run (keeps : Saturation → Prop)
    (hstep : ∀ s t counts, keeps s → (s.pass rules (.ofRules rules)).Yields (t, counts) → keeps t)
    {s t : Saturation} {passes : List PassCounts} (hs : keeps s)
    (h : (s.run rules).Yields (t, passes)) :
    ∃ before counts, keeps before ∧ (before.pass rules (.ofRules rules)).Yields (t, counts) ∧
      counts.produced = 0 := by
  have hruns := runs_of_run h
  clear h
  induction hruns with
  | last hpass hlast => exact ⟨_, _, hs, hpass, hlast⟩
  | next hpass _ _ ih => exact ih (hstep _ _ _ hs hpass)

theorem keeps_of_run (keeps : Saturation → Prop)
    (hstep : ∀ s t counts, keeps s → (s.pass rules (.ofRules rules)).Yields (t, counts) → keeps t)
    {s t : Saturation} {passes : List PassCounts} (hs : keeps s)
    (h : (s.run rules).Yields (t, passes)) : keeps t := by
  obtain ⟨before, counts, hbefore, hpass, -⟩ := last_pass_of_run keeps hstep hs h
  exact hstep before t counts hbefore hpass

/-- What a production makes of adjacent items of the chart is in the chart. -/
def Closed (rules : List Production) (chart : Chart) : Prop :=
  ∀ rule ∈ rules, ∀ children : List Item, (∀ child ∈ children, child ∈ chart.items) →
    ∀ item, rule.Makes children item → item ∈ chart.items

/-- A run leaves nothing to be made. -/
theorem closed_of_run {table : SymbolTable} (hvalid : ∀ rule ∈ rules, rule.validate table = .ok ())
    {s t : Saturation} {passes : List PassCounts} (hs : Settled rules s)
    (h : (s.run rules).Yields (t, passes)) : Closed rules t.chart := by
  obtain ⟨before, counts, hbefore, hpass, hlast⟩ :=
    last_pass_of_run (Settled rules) (fun _ _ _ ↦ settled_of_pass) hs h
  have hsettled := settled_of_pass hbefore hpass
  obtain ⟨p, -, hchart, hfrontier, -, hproduced⟩ := chart_of_pass hpass
  have hsize : t.chart.size = t.frontier := by
    rw [hchart, hfrontier, Chart.size_insertAll, ← hproduced, hlast, Nat.add_zero]
  intro rule hrule children hchildren item hmakes
  obtain ⟨number, hnumber⟩ := List.mem_iff_getElem?.mp hrule
  obtain ⟨ids, nodes, hlists, rfl⟩ := Chart.Lists.exists_of_items hchildren
  have hadjacent := hmakes.adjacent
  rw [List.map_map] at hadjacent
  have hroute : t.chart.Admits rules ⟨number, ids⟩ rule nodes :=
    ⟨hnumber, hlists, hmakes.acceptEach, item.start, item.stop, hadjacent⟩
  obtain ⟨rule', nodes', made, hroute', hmade, hfound⟩ :=
    hsettled.seen _ rule nodes hroute (hsize ▸ hlists.lt_size)
  obtain rfl : rule = rule' := Option.some.inj (hnumber.symm.trans hroute'.rule_eq)
  obtain rfl : nodes = nodes' := hlists.filterMap_eq.symm.trans hroute'.lists.filterMap_eq
  obtain ⟨node, hsome, rfl⟩ := makeNode_of_makes (hvalid rule hrule) hroute hmakes hmade
  exact hfound node hsome

/-! ## Errors -/

/-- Where a pass fails, there is a route of the chart along which no node can be made. -/
theorem failing_route_of_pass {s : Saturation} {e : AnalysisError}
    (h : (s.pass rules (.ofRules rules)).result = .error e) :
    ∃ route rule nodes defect, s.chart.Admits rules route rule nodes ∧
      makeNode rule route nodes = .error defect ∧ e = .defectiveRule rule.name defect := by
  have hmetered := Search.metered_foldlM (Pass.metered_tryRoute rules s.chart)
    (s.chart.freshRoutes s.frontier rules (.ofRules rules))
    { attempted := s.attempted, rejected := s.rejected }
  unfold pass at h
  rcases Search.error_of_bind hmetered (fun _ _ ↦ Search.metered_pure _) h with hroutes | ⟨_, -, hpure⟩
  · obtain ⟨p, -, route, hmem, htry⟩ := Search.error_of_foldlM
      (Pass.metered_tryRoute rules s.chart) (fun _ ↦ True) (fun _ _ _ _ _ _ ↦ trivial) trivial hroutes
    obtain ⟨⟨rule, nodes, hadmits⟩, -⟩ := Chart.mem_freshRoutes.mp hmem
    unfold Pass.tryRoute at htry
    split at htry
    next => exact absurd htry nofun
    next =>
      simp only [hadmits.rule_eq, hadmits.lists.filterMap_eq] at htry
      cases hmade : makeNode rule route nodes with
      | error defect =>
        rw [hmade] at htry
        exact ⟨route, rule, nodes, defect, hadmits, hmade, (Except.error.inj htry).symm⟩
      | ok made =>
        rw [hmade] at htry
        cases made <;> exact absurd htry nofun
  · exact absurd hpure nofun

/-- A run fails in one of its passes, after passes that keep what every pass keeps. -/
theorem failing_pass_of_run (keeps : Saturation → Prop)
    (hstep : ∀ s t counts, keeps s → (s.pass rules (.ofRules rules)).Yields (t, counts) → keeps t)
    {s : Saturation} {e : AnalysisError} (hs : keeps s) (h : (s.run rules).result = .error e) :
    ∃ t, keeps t ∧ (t.pass rules (.ofRules rules)).result = .error e := by
  induction s using (wellFounded_advances rules).induction with
  | _ s ih =>
    rw [run_eq] at h
    have hmetered := metered_pass rules (.ofRules rules) s
    have hbind := Search.error_of_bind hmetered (fun p _ ↦ by
      obtain ⟨t, counts⟩ := p
      by_cases hlast : counts.produced = 0
      · simp only [if_pos hlast]
        exact Search.metered_pure _
      · simp only [if_neg hlast]
        exact Search.metered_map (metered_run rules t) _) h
    rcases hbind with hpass | ⟨⟨t, counts⟩, hpass, hlater⟩
    · exact ⟨s, hs, hpass⟩
    · by_cases hlast : counts.produced = 0
      · simp only [if_pos hlast] at hlater
        simp at hlater
      · simp only [if_neg hlast] at hlater
        have hyields := hmetered.yields_iff.mpr hpass
        rcases Search.error_of_bind (metered_run rules t) (fun _ _ ↦ Search.metered_pure _) hlater with
          hrun | ⟨_, -, hpure⟩
        · exact ih t (advances_of_pass hyields hlast) (hstep s t counts hs hyields) hrun
        · simp at hpure

/-- Where a run fails, the structure of a node would be too deep. -/
theorem error_of_run {table : SymbolTable} (hvalid : ∀ rule ∈ rules, rule.validate table = .ok ())
    {s : Saturation} {e : AnalysisError} (h : (s.run rules).result = .error e) :
    ∃ rule ∈ rules, e = .defectiveRule rule.name (.tooDeep depthLimit) := by
  obtain ⟨t, -, hpass⟩ := failing_pass_of_run (fun _ ↦ True) (fun _ _ _ _ _ ↦ trivial) trivial h
  obtain ⟨route, rule, nodes, defect, hadmits, hmade, rfl⟩ := failing_route_of_pass hpass
  have hrule := List.mem_of_getElem? hadmits.rule_eq
  exact ⟨rule, hrule, by rw [error_of_makeNode (hvalid rule hrule) hadmits hmade]⟩

end Saturation

end Morphology
