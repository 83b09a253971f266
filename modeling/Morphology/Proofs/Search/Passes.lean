import Mathlib.Data.List.ReduceOption
import Morphology.Proofs.Search.AllRoutes
import Morphology.Proofs.Search.Saturation

/-!
# Passes without memory

A pass asks of each route whether it was tried before. It never was: the routes of a pass go
through a new node, and those that were tried before do not. So a pass is the same as trying all
its routes, one after the other, without asking.
-/

namespace Morphology

namespace Search

variable {α β : Type} {f : α → Search β}

/-- Carrying out a search for each member of a list gives a result of each of them, in order. -/
theorem forall₂_of_mapM {l : List α} {results : List β} (h : (l.mapM f).Yields results) :
    List.Forall₂ (fun a b ↦ (f a).Yields b) l results := by
  induction l generalizing results with
  | nil =>
    rw [List.mapM_nil] at h
    exact yields_pure.mp h ▸ .nil
  | cons a rest ih =>
    rw [List.mapM_cons] at h
    obtain ⟨b, hfirst, h⟩ := h.of_bind
    obtain ⟨later, hlater, h⟩ := h.of_bind
    exact yields_pure.mp h ▸ .cons hfirst (ih hlater)

theorem length_of_mapM {l : List α} {results : List β} (h : (l.mapM f).Yields results) :
    results.length = l.length :=
  (forall₂_of_mapM h).length_eq.symm

end Search

namespace Saturation

variable {rules : List Production} {chart : Chart} {s t : Saturation} {counts : PassCounts}

/-- Applies the production of a route to its nodes. -/
def tryAlong (rules : List Production) (chart : Chart) (route : Route) : Search (Option Node) :=
  match rules[route.rule]? with
  | none => pure none
  | some rule => do
    Search.step
    Search.orFail rule.name (makeNode rule route (route.nodes.filterMap chart.get?))

theorem metered_tryAlong (rules : List Production) (chart : Chart) (route : Route) :
    (tryAlong rules chart route).Metered := by
  unfold tryAlong
  split
  · exact Search.metered_pure _
  · exact Search.metered_step_bind (Search.metered_orFail _ _)

namespace Pass

/-- Notes what was made along a route. -/
def note (p : Pass) (route : Route) : Option Node → Pass
  | none => (p.attempt route).reject route
  | some node => { p.attempt route with found := node :: p.found }

/-- Notes what was made along several routes. -/
def noteAll (p : Pass) (routes : List Route) (made : List (Option Node)) : Pass :=
  (routes.zip made).foldl (fun p tried ↦ p.note tried.1 tried.2) p

/-- Trying a route that was not tried before is applying its production. -/
theorem tryRoute_of_new {p : Pass} {route : Route} {rule : Production}
    (hrule : rules[route.rule]? = some rule) (hnew : ¬ p.attempted.contains route.key) :
    p.tryRoute rules chart route = do return p.note route (← tryAlong rules chart route) := by
  unfold tryRoute tryAlong
  rw [if_neg hnew]
  simp only [hrule, bind_assoc]
  congr 1
  funext _
  congr 1
  funext made
  cases made <;> rfl

theorem attempted_note (p : Pass) (route : Route) (made : Option Node) :
    (p.note route made).attempted = p.attempted.insert route.key := by
  cases made <;> rfl

theorem contains_note {p : Pass} {route other : Route} {made : Option Node} :
    (p.note route made).attempted.contains other.key ↔
      p.attempted.contains other.key ∨ route = other := by
  rw [attempted_note, Std.TreeSet.contains_insert, Bool.or_eq_true, beq_iff_eq,
    Std.LawfulEqOrd.compare_eq_iff_eq, or_comm]
  exact or_congr_right ⟨Route.key_injective, congrArg Route.key⟩

/-- Trying routes none of which was tried before is applying their productions. -/
theorem foldlM_tryRoute (chart : Chart) {routes : List Route} {p : Pass} (hnodup : routes.Nodup)
    (hrules : ∀ route ∈ routes, ∃ rule, rules[route.rule]? = some rule)
    (hnew : ∀ route ∈ routes, ¬ p.attempted.contains route.key) :
    routes.foldlM (tryRoute rules chart) p =
      do return p.noteAll routes (← routes.mapM (tryAlong rules chart)) := by
  induction routes generalizing p with
  | nil => simp [noteAll]
  | cons route rest ih =>
    obtain ⟨hroute, hnodup⟩ := List.nodup_cons.mp hnodup
    obtain ⟨⟨rule, hrule⟩, hrules⟩ := List.forall_mem_cons.mp hrules
    obtain ⟨hfirst, hrest⟩ := List.forall_mem_cons.mp hnew
    have hlater (made : Option Node) :
        rest.foldlM (tryRoute rules chart) (p.note route made) =
          do return (p.note route made).noteAll rest (← rest.mapM (tryAlong rules chart)) := by
      apply ih hnodup hrules
      intro other hother hcontains
      -- The route that has just been tried does not come again.
      rcases contains_note.mp hcontains with hold | rfl
      · exact hrest other hother hold
      · exact hroute hother
    rw [List.foldlM_cons, tryRoute_of_new hrule hfirst, List.mapM_cons]
    simp only [bind_assoc, pure_bind, hlater]
    rfl

section

variable {p : Pass} {routes : List Route} {made : List (Option Node)}

theorem contains_noteAll (hlength : made.length = routes.length) {route : Route} :
    (p.noteAll routes made).attempted.contains route.key ↔
      p.attempted.contains route.key ∨ route ∈ routes := by
  induction routes generalizing p made with
  | nil => simp [noteAll]
  | cons first rest ih =>
    obtain ⟨result, later, rfl⟩ := List.exists_cons_of_length_eq_add_one hlength
    have hlater := ih (p := p.note first result) (Nat.succ.inj hlength)
    rw [contains_note, or_assoc] at hlater
    rw [List.mem_cons, eq_comm (a := route)]
    exact hlater

theorem found_noteAll (hlength : made.length = routes.length) :
    (p.noteAll routes made).found = made.reduceOption.reverse ++ p.found := by
  induction routes generalizing p made with
  | nil =>
    rw [List.length_eq_zero_iff.mp hlength]
    rfl
  | cons first rest ih =>
    obtain ⟨result, later, rfl⟩ := List.exists_cons_of_length_eq_add_one hlength
    have hlater := ih (p := p.note first result) (Nat.succ.inj hlength)
    cases result with
    | none => exact hlater
    | some node =>
      rw [List.reduceOption_cons_of_some, List.reverse_cons, List.append_assoc]
      exact hlater

theorem counts_noteAll (hlength : made.length = routes.length) :
    (p.noteAll routes made).counts = { p.counts with
      attempts := p.counts.attempts + routes.length
      rejected := p.counts.rejected + made.countP (·.isNone) } := by
  induction routes generalizing p made with
  | nil =>
    rw [List.length_eq_zero_iff.mp hlength]
    rfl
  | cons first rest ih =>
    obtain ⟨result, later, rfl⟩ := List.exists_cons_of_length_eq_add_one hlength
    have hlater := ih (p := p.note first result) (Nat.succ.inj hlength)
    have hstep : (p.noteAll (first :: rest) (result :: later)).counts =
        ((p.note first result).noteAll rest later).counts := rfl
    rw [hstep, hlater, List.length_cons, List.countP_cons]
    cases result <;> simp [note, attempt, reject] <;> omega

end

end Pass

/-! ## Passes -/

/-- The routes that a pass lists. -/
def due (rules : List Production) (s : Saturation) : List Route :=
  s.chart.freshRoutes s.frontier rules (.ofRules rules)

/-- The routes that have been tried are those through nodes that are not new. -/
def Current (rules : List Production) (s : Saturation) : Prop :=
  ∀ route, s.attempted.contains route.key ↔
    route ∈ s.chart.allRoutes rules ∧ ∀ id ∈ route.nodes, id < s.frontier

theorem current_initial (rules : List Production) (chart : Chart) : Current rules { chart } := by
  intro route
  constructor
  · intro h
    simp at h
  · rintro ⟨hroute, hids⟩
    have hnil : route.nodes = [] :=
      List.eq_nil_iff_forall_not_mem.mpr fun id hid ↦ absurd (hids id hid) (Nat.not_lt_zero id)
    exact absurd hnil (Chart.mem_allRoutes.mp hroute).2

theorem mem_due {route : Route} : route ∈ s.due rules ↔
    route ∈ s.chart.allRoutes rules ∧ ∃ id ∈ route.nodes, s.frontier ≤ id := by
  unfold due
  rw [Chart.freshRoutes_eq_filter, List.mem_filter, List.any_eq_true]
  simp only [decide_eq_true_eq]

theorem nodup_due (rules : List Production) (s : Saturation) : (s.due rules).Nodup := by
  unfold due
  rw [Chart.freshRoutes_eq_filter]
  exact (Chart.nodup_allRoutes s.chart rules).filter _

/-- None of the routes that a pass lists has been tried before. -/
theorem Current.not_contains (h : Current rules s) {route : Route} (hroute : route ∈ s.due rules) :
    ¬ s.attempted.contains route.key := by
  intro hcontains
  obtain ⟨-, id, hid, hnew⟩ := mem_due.mp hroute
  exact absurd (((h route).mp hcontains).2 id hid) (Nat.not_lt.mpr hnew)

/-- What a pass leaves when nodes were made along its routes. -/
def finish (s : Saturation) (routes : List Route) (made : List (Option Node)) :
    Saturation × PassCounts :=
  let p := ({ attempted := s.attempted, rejected := s.rejected } : Pass).noteAll routes made
  ({ chart := (s.chart.insertAll made.reduceOption).2
     frontier := s.chart.size
     attempted := p.attempted
     rejected := p.rejected },
   { attempts := routes.length
     produced := (s.chart.insertAll made.reduceOption).1
     rejected := made.countP (·.isNone) })

/-- A pass tries all routes that it lists, and skips none of them. -/
theorem pass_eq (h : Current rules s) : s.pass rules (.ofRules rules) =
    do return s.finish (s.due rules) (← (s.due rules).mapM (tryAlong rules s.chart)) := by
  have hrules : ∀ route ∈ s.due rules, ∃ rule, rules[route.rule]? = some rule := by
    intro route hroute
    obtain ⟨⟨rule, nodes, hadmits⟩, -⟩ := Chart.mem_allRoutes.mp (mem_due.mp hroute).1
    exact ⟨rule, hadmits.rule_eq⟩
  have htries := Pass.foldlM_tryRoute s.chart
    (p := { attempted := s.attempted, rejected := s.rejected })
    (nodup_due rules s) hrules fun route ↦ h.not_contains
  unfold pass
  simp only
  rw [← due, htries, bind_assoc]
  apply Search.bind_congr_of_yields
  intro made hmade
  have hlength := Search.length_of_mapM hmade
  have hfound := Pass.found_noteAll (p := { attempted := s.attempted, rejected := s.rejected })
    hlength
  have hcounts := Pass.counts_noteAll (p := { attempted := s.attempted, rejected := s.rejected })
    hlength
  rw [List.append_nil] at hfound
  simp only [pure_bind, hfound, hcounts, List.reverse_reverse, Nat.zero_add]
  rfl

/-- What a pass has done: the routes it has tried, and what it has left. -/
structure Passed (rules : List Production) (s t : Saturation) (counts : PassCounts)
    (made : List (Option Node)) : Prop where
  tries : ((s.due rules).mapM (tryAlong rules s.chart)).Yields made
  chart_eq : t.chart = (s.chart.insertAll made.reduceOption).2
  frontier_eq : t.frontier = s.chart.size
  counts_eq : counts =
    { attempts := (s.due rules).length
      produced := (s.chart.insertAll made.reduceOption).1
      rejected := made.countP (·.isNone) }
  contains_iff : ∀ route : Route,
    t.attempted.contains route.key ↔ s.attempted.contains route.key ∨ route ∈ s.due rules

theorem passed_finish {made : List (Option Node)}
    (h : ((s.due rules).mapM (tryAlong rules s.chart)).Yields made) :
    Passed rules s (s.finish (s.due rules) made).1 (s.finish (s.due rules) made).2 made where
  tries := h
  chart_eq := rfl
  frontier_eq := rfl
  counts_eq := rfl
  contains_iff _ := Pass.contains_noteAll (Search.length_of_mapM h)

theorem Current.passed (hs : Current rules s)
    (h : (s.pass rules (.ofRules rules)).Yields (t, counts)) :
    ∃ made, Passed rules s t counts made := by
  rw [pass_eq hs] at h
  obtain ⟨made, hmade, h⟩ := h.of_bind
  obtain ⟨rfl, rfl⟩ := Prod.mk.inj (Search.yields_pure.mp h)
  exact ⟨made, passed_finish hmade⟩

namespace Passed

variable {made : List (Option Node)}

theorem extends_chart (h : Passed rules s t counts made) : t.chart.Extends s.chart := by
  rw [h.chart_eq]
  exact Chart.extends_insertAll _ _

theorem size_eq (h : Passed rules s t counts made) :
    t.chart.size = s.chart.size + counts.produced := by
  rw [h.chart_eq, Chart.size_insertAll, h.counts_eq]

/-- After a pass, the routes that have been tried are again those through nodes that are not new. -/
theorem current (hs : Current rules s) (h : Passed rules s t counts made) : Current rules t := by
  intro route
  rw [h.contains_iff, hs route, h.frontier_eq]
  constructor
  · intro htried
    have hroute : route ∈ s.chart.allRoutes rules :=
      htried.elim And.left fun hnew ↦ (mem_due.mp hnew).1
    exact ⟨Chart.mem_allRoutes_mono h.extends_chart hroute, Chart.lt_size_of_mem_allRoutes hroute⟩
  · intro ⟨hroute, hids⟩
    obtain ⟨⟨rule, nodes, hadmits⟩, hnodes⟩ := Chart.mem_allRoutes.mp hroute
    have hearlier : route ∈ s.chart.allRoutes rules :=
      Chart.mem_allRoutes.mpr ⟨⟨rule, nodes, admits_of_lt_size h.extends_chart hadmits hids⟩, hnodes⟩
    by_cases hold : ∀ id ∈ route.nodes, id < s.frontier
    · exact .inl ⟨hearlier, hold⟩
    · have hnew : ∃ id ∈ route.nodes, s.frontier ≤ id := by simpa using hold
      exact .inr (mem_due.mpr ⟨hearlier, hnew⟩)

end Passed

end Saturation

end Morphology
