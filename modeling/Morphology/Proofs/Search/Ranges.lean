import Morphology.Proofs.Analysis.Depth
import Morphology.Proofs.Search.RouteOrder
import Morphology.Proofs.Search.Stages
import Morphology.Proofs.Search.ThreadRanges
import Morphology.Proofs.Text.Stretch

/-!
# Ranges of a search

Rules, nodes and places are told by numbers, and looked up in tables by them. At every stage of a
search all of these numbers are in range: the rules that the indexes offer and that nodes and routes
name are there, routes and nodes have children that are in the chart, and nodes lie within the text.
So no lookup of a search ever misses.
-/

namespace Morphology

theorem lt_length_of_getElem? {α : Type} {l : List α} {i : Nat} {a : α} (h : l[i]? = some a) :
    i < l.length :=
  (List.getElem?_eq_some_iff.mp h).1

/-! ## Rules -/

/-- For each morph rule, whether it can apply somewhere in a text. -/
def Segmentation.activeFlags (grammar : Grammar) (text : List Char) : List Bool :=
  grammar.rules.morphs.map (TextTraits.of text).admits

/-- All numbers that the indexes file are numbers of rules. -/
structure Rules.Filed (rules : Rules) : Prop where
  everywhere : ∀ id ∈ (MorphIndex.ofRules rules.morphs).everywhere, id < rules.morphs.length
  byFirstChar (c : Char) :
    ∀ id ∈ filed (MorphIndex.ofRules rules.morphs).byFirstChar c, id < rules.morphs.length
  candidates (tag : Symbol) :
    ∀ id ∈ (ProductionIndex.ofRules rules.productions).candidates tag, id < rules.productions.length

theorem Rules.filed (rules : Rules) : rules.Filed where
  everywhere _ hid :=
    let ⟨_, hrule, _⟩ := MorphIndex.mem_everywhere.mp hid
    lt_length_of_getElem? hrule
  byFirstChar _ _ hid :=
    let ⟨_, hrule, _⟩ := MorphIndex.mem_byFirstChar.mp hid
    lt_length_of_getElem? hrule
  candidates _ _ hid :=
    let ⟨_, hrule⟩ := ProductionIndex.exists_rule_of_mem_candidates hid
    lt_length_of_getElem? hrule

/-- The number of a rule finds its flag, which says whether the rule is active. -/
theorem Segmentation.getElem?_activeFlags {grammar : Grammar} {text : List Char} {id : Nat}
    (h : id < grammar.rules.morphs.length) :
    (activeFlags grammar text)[id]? = some ((activeRules grammar text).contains id) := by
  obtain ⟨rule, hrule⟩ : ∃ rule, grammar.rules.morphs[id]? = some rule :=
    ⟨_, List.getElem?_eq_getElem h⟩
  rw [activeFlags, List.getElem?_map, hrule, Option.map_some]
  congr 1
  rw [Bool.eq_iff_iff, List.contains_iff_mem, MorphRule.mem_activeRules]
  constructor
  · exact fun hadmits ↦ ⟨rule, hrule, hadmits⟩
  · rintro ⟨other, hother, hadmits⟩
    obtain rfl := Option.some.inj (hrule.symm.trans hother)
    exact hadmits

/-! ## Nodes -/

namespace Chart

/-- For each place of a text, whether the text starts or a node stops there. -/
def reachable (chart : Chart) (length : Nat) : List Bool :=
  (List.range (length + 1)).map fun place ↦ place = 0 || chart.reaches place

/-- For each place of a text, the nodes that start there. -/
def starts (chart : Chart) (length : Nat) : List (List Nat) :=
  (List.range (length + 1)).map chart.startingAt

/-- The rule that made a node is there, and the nodes it was made of come before the node. -/
def OriginInRange (rules : Rules) (id : Nat) : Origin → Prop
  | .morph rule => rule < rules.morphs.length
  | .production rule children => rule < rules.productions.length ∧ ∀ child ∈ children, child < id

/-- The nodes of a chart lie within the text, so that the tables with an entry for each place of the
text have one for each start and for each stop. The numbers by which nodes, children and rules are
looked up are in range. -/
structure InRange (chart : Chart) (rules : Rules) (length : Nat) : Prop where
  span {id : Nat} {node : Node} (h : chart.get? id = some node) :
    node.start ≤ node.stop ∧ node.stop ≤ length
  origin {id : Nat} {node : Node} (h : chart.get? id = some node) :
    OriginInRange rules id node.origin
  startingAt {place id : Nat} (h : id ∈ chart.startingAt place) : place ≤ length ∧ id < chart.size
  starts {id : Nat} {node : Node} (h : chart.get? id = some node) :
    (chart.starts length)[node.start]? = some (chart.startingAt node.start) ∧
      id ∈ chart.startingAt node.start
  reachable {id : Nat} {node : Node} (h : chart.get? id = some node) :
    (chart.reachable length)[node.stop]? = some true
  accepting : ∀ id ∈ chart.accepting rules length, id < chart.size

theorem getElem?_range_map {α : Type} (f : Nat → α) {place length : Nat} (h : place ≤ length) :
    ((List.range (length + 1)).map f)[place]? = some (f place) := by
  rw [List.getElem?_map, List.getElem?_range (Nat.lt_succ_of_le h), Option.map_some]

/-- The numbers of a justified chart are in range. -/
theorem Justified.inRange {grammar : Grammar} {text : List Char} {chart : Chart}
    (h : chart.Justified grammar text) : chart.InRange grammar.rules text.length := by
  have hspan {id : Nat} {node : Node} (hnode : chart.get? id = some node) :
      node.start ≤ node.stop ∧ node.stop ≤ text.length :=
    ⟨(Grammar.derivable_of_justified h hnode).start_le,
      (Grammar.within_of_justified h hnode).stop_le⟩
  have hstart {place id : Nat} (hid : id ∈ chart.startingAt place) :
      place ≤ text.length ∧ id < chart.size := by
    obtain ⟨node, hnode, rfl⟩ := mem_startingAt.mp hid
    exact ⟨Nat.le_trans (hspan hnode).1 (hspan hnode).2, lt_size_of_get? hnode⟩
  constructor
  · exact hspan
  · intro id node hnode
    cases h id node hnode with
    | morph rule origin_eq found =>
      obtain ⟨_, hrule, -⟩ := found.exists_way
      rw [origin_eq]
      exact lt_length_of_getElem? hrule
    | production route rule nodes admits earlier made =>
      rw [(Grammar.makes_of_admits admits made).2.2]
      exact ⟨lt_length_of_getElem? admits.rule_eq, earlier⟩
  · exact hstart
  · intro id node hnode
    have hid : id ∈ chart.startingAt node.start := mem_startingAt.mpr ⟨node, hnode, rfl⟩
    exact ⟨getElem?_range_map _ (hstart hid).1, hid⟩
  · intro id node hnode
    have hreaches := reaches_iff.mpr ⟨node, mem_nodes_iff.mpr ⟨id, hnode⟩, rfl⟩
    rw [reachable, getElem?_range_map _ (hspan hnode).2, hreaches, Bool.or_true]
  · exact fun id hid ↦ (hstart (List.mem_filter.mp hid).1).2

end Chart

/-! ## Routes -/

/-- The production of a route and all of its nodes are there. -/
structure Route.InRange (rules : List Production) (chart : Chart) (route : Route) : Prop where
  rule_lt : route.rule < rules.length
  nodes_lt : ∀ id ∈ route.nodes, id < chart.size

/-- The production of a partial route and all of its nodes are there, and it goes on at a place of
the text. -/
structure PartialRoute.InRange (rules : List Production) (chart : Chart) (length : Nat)
    (r : PartialRoute) : Prop where
  rule_lt : r.rule < rules.length
  nodes_lt : ∀ id ∈ r.nodes, id < chart.size
  position_le : r.position ≤ length

/-- All routes that a search has found, and all partial routes on its stack, are in range. -/
structure RouteSearch.InRange (rules : List Production) (chart : Chart) (length : Nat)
    (s : RouteSearch) : Prop where
  found : ∀ route ∈ s.found.toList, route.InRange rules chart
  pending : ∀ r ∈ s.pending, r.InRange rules chart length

/-- The states that a search for routes goes through. -/
inductive RouteSearch.GoesThrough (chart : Chart) (frontier : Nat) (rules : List Production) :
    RouteSearch → Prop
  | start : GoesThrough chart frontier rules (.start chart frontier rules (.ofRules rules))
  | step (s next : RouteSearch) (h : GoesThrough chart frontier rules s)
      (stepped : s.step chart frontier = some next) : GoesThrough chart frontier rules next

section

variable {rules : List Production} {chart : Chart} {frontier length : Nat}

theorem Chart.Admits.inRange {route : Route} {rule : Production} {nodes : List Node}
    (h : chart.Admits rules route rule nodes) : route.InRange rules chart :=
  ⟨lt_length_of_getElem? h.rule_eq, h.lists.lt_size⟩

namespace PartialRoute

variable {r : PartialRoute}

theorem inRange_of_extend (hrule : r.rule < rules.length) (hnodes : ∀ id ∈ r.nodes, id < chart.size)
    {id : Nat} {node : Node} (hnode : chart.get? id = some node) (hstop : node.stop ≤ length)
    {rest : List TagPattern} :
    ∀ later ∈ r.extend frontier rest id node, later.InRange rules chart length := by
  intro later hlater
  unfold extend at hlater
  dsimp only at hlater
  split at hlater
  next => exact absurd hlater List.not_mem_nil
  next =>
    obtain rfl := List.mem_singleton.mp hlater
    refine ⟨hrule, fun other hother ↦ ?_, hstop⟩
    rcases List.mem_append.mp hother with hold | hnew
    · exact hnodes other hold
    · rw [List.mem_singleton.mp hnew]
      exact Chart.lt_size_of_get? hnode

/-- Whatever a partial route in range leads to is in range. -/
theorem InRange.visit (h : r.InRange rules chart length)
    (hstop : ∀ id node, chart.get? id = some node → node.stop ≤ length) :
    (∀ route ∈ (r.visit chart frontier).1, route.InRange rules chart) ∧
      ∀ later ∈ (r.visit chart frontier).2, later.InRange rules chart length := by
  unfold PartialRoute.visit
  split
  next =>
    refine ⟨List.forall_mem_singleton.mpr ⟨h.rule_lt, h.nodes_lt⟩, fun later hlater ↦ ?_⟩
    exact absurd hlater List.not_mem_nil
  next pattern rest _ =>
    refine ⟨fun route hroute ↦ absurd hroute List.not_mem_nil, fun later hlater ↦ ?_⟩
    obtain ⟨id, -, hlater⟩ := List.mem_flatMap.mp hlater
    split at hlater
    next => exact absurd hlater List.not_mem_nil
    next node hnode =>
      split at hlater
      next => exact inRange_of_extend h.rule_lt h.nodes_lt hnode (hstop id node hnode) later hlater
      next => exact absurd hlater List.not_mem_nil

end PartialRoute

namespace RouteSearch

/-- The beginnings of all routes are in range. -/
theorem inRange_start (hstop : ∀ id node, chart.get? id = some node → node.stop ≤ length) :
    (start chart frontier rules (.ofRules rules)).InRange rules chart length := by
  refine ⟨fun route hroute ↦ absurd hroute List.not_mem_nil, fun r hr ↦ ?_⟩
  rw [pending_start, Chart.partialRoutes] at hr
  obtain ⟨⟨id, node⟩, hentry, hr⟩ := List.mem_flatMap.mp hr
  obtain ⟨number, -, hr⟩ := List.mem_flatMap.mp hr
  have hnode := Chart.mem_entries.mp hentry
  unfold Chart.partialRoutesFrom at hr
  split at hr
  next hrule =>
    split at hr
    next =>
      refine PartialRoute.inRange_of_extend (lt_length_of_getElem? hrule) ?_ hnode
        (hstop id node hnode) r hr
      exact fun other hother ↦ absurd hother List.not_mem_nil
    next => exact absurd hr List.not_mem_nil
  next => exact absurd hr List.not_mem_nil

/-- A step of a search for routes leaves everything in range. -/
theorem InRange.step {s next : RouteSearch} (h : s.InRange rules chart length)
    (hstop : ∀ id node, chart.get? id = some node → node.stop ≤ length)
    (hstep : s.step chart frontier = some next) : next.InRange rules chart length := by
  cases hpending : s.pending with
  | nil => exact absurd (hstep.symm.trans (step_eq_none chart frontier hpending)) nofun
  | cons r rest =>
    obtain ⟨after, hafter, hfound, hlater⟩ := step_eq_some chart frontier hpending
    obtain rfl := Option.some.inj (hstep.symm.trans hafter)
    have hall := h.pending
    rw [hpending] at hall
    obtain ⟨hr, hrest⟩ := List.forall_mem_cons.mp hall
    obtain ⟨hroutes, hextended⟩ := hr.visit hstop
    constructor
    · rw [hfound]
      exact List.forall_mem_append.mpr ⟨h.found, hroutes⟩
    · rw [hlater]
      exact List.forall_mem_append.mpr ⟨hextended, hrest⟩

theorem GoesThrough.inRange {s : RouteSearch} (h : GoesThrough chart frontier rules s)
    (hstop : ∀ id node, chart.get? id = some node → node.stop ≤ length) :
    s.InRange rules chart length := by
  induction h with
  | start => exact inRange_start hstop
  | step s next _ hstep ih => exact ih.step hstop hstep

end RouteSearch

end

/-! ## Rejected routes -/

namespace Saturation

variable {rules : List Production} {chart : Chart} {s t : Saturation}

theorem Pass.rejected_of_tryRoute {p q : Pass} {route : Route}
    (h : (p.tryRoute rules chart route).Yields q) :
    ∀ other ∈ q.rejected, other ∈ p.rejected ∨ other = route := by
  unfold tryRoute at h
  split at h
  next =>
    obtain rfl := Search.yields_pure.mp h
    exact fun other ↦ .inl
  next =>
    split at h
    next =>
      obtain rfl := Search.yields_pure.mp h
      exact fun other ↦ .inl
    next =>
      obtain ⟨_, -, h⟩ := h.of_bind
      obtain ⟨made, -, h⟩ := h.of_bind
      cases made with
      | none =>
        obtain rfl := Search.yields_pure.mp h
        exact fun other hother ↦ (List.mem_cons.mp hother).symm
      | some node =>
        obtain rfl := Search.yields_pure.mp h
        exact fun other ↦ .inl

/-- While a pass tries the routes that it lists, the rejected ones are in range. -/
theorem rejected_inRange_of_tryRoutes {routes : List Route} {p : Pass}
    (hs : ∀ route ∈ s.rejected, route.InRange rules s.chart)
    (hroutes : routes ⊆ s.chart.freshRoutes s.frontier rules (.ofRules rules))
    (h : (routes.foldlM (Pass.tryRoute rules s.chart)
      { attempted := s.attempted, rejected := s.rejected }).Yields p) :
    ∀ route ∈ p.rejected, route.InRange rules s.chart := by
  refine h.foldlM (fun p : Pass ↦ ∀ route ∈ p.rejected, route.InRange rules s.chart) ?_ hs
  intro p q route hroute hp htry other hother
  rcases Pass.rejected_of_tryRoute htry other hother with hold | rfl
  · exact hp other hold
  · obtain ⟨⟨rule, nodes, hadmits⟩, -⟩ := Chart.mem_freshRoutes.mp (hroutes hroute)
    exact hadmits.inRange

theorem rejected_inRange_of_pass {counts : PassCounts}
    (hs : ∀ route ∈ s.rejected, route.InRange rules s.chart)
    (h : (s.pass rules (.ofRules rules)).Yields (t, counts)) :
    ∀ route ∈ t.rejected, route.InRange rules t.chart := by
  have hextends := extends_of_pass h
  unfold pass at h
  obtain ⟨p, hp, h⟩ := h.of_bind
  obtain ⟨rfl, -⟩ := Prod.mk.inj (Search.yields_pure.mp h)
  intro route hroute
  have hbefore := rejected_inRange_of_tryRoutes hs (fun _ ↦ id) hp route hroute
  exact ⟨hbefore.rule_lt, fun id hid ↦
    Nat.lt_of_lt_of_le (hbefore.nodes_lt id hid) hextends.size_le⟩

end Saturation

/-! ## Searches -/

namespace Grammar

/-- At every stage of a search of a text, the places of the text, the rules and the nodes that are
looked up are in range. -/
structure StaysInRange (grammar : Grammar) (text : List Char) : Prop where
  /-- Whatever is in the indexes is a rule, and has a flag that says whether the rule is active. -/
  filed : grammar.rules.Filed
  flags : ∀ id < grammar.rules.morphs.length, (Segmentation.activeFlags grammar text)[id]? =
    some ((Segmentation.activeRules grammar text).contains id)
  /-- Rules are tried at places of the text. A rule that is offered there is found by its number,
  and all threads of the machine that runs it stay within the text. -/
  running {place : Nat} {tried : List Nat} {progress : Progress}
    (h : Segmentation.Tries grammar text place tried progress) : place ≤ text.length ∧
      ∀ id ∈ Segmentation.offered grammar text place, ∃ rule, grammar.rules.morphs[id]? = some rule ∧
        ∀ stack, Machine.GoesThrough (rule.setting text grammar.lexicon place)
          [⟨rule.initial place, [rule.program]⟩] stack →
            ∀ thread ∈ stack, thread.InRange (rule.setting text grammar.lexicon place)
  /-- Patterns move on to places of the text. -/
  moving {position : Nat} (h : position ≤ text.length) (pattern : TextPattern) :
    ∀ stop ∈ pattern.stops text position, position ≤ stop ∧ stop ≤ text.length
  /-- A regular expression is cut off between two characters. -/
  beginnings (r : AnchoredRegex) (rest : String) : ∀ size ∈ r.prefixSizes rest,
    (⟨size⟩ : String.Pos.Raw).IsValid rest ∧ ∃ first, beginning? rest size = some first ∧
      first.toList.length ∈ r.prefixLengths rest.toList
  /-- A stretch of the text is cut out between two byte offsets, which are there. -/
  cutting {start stop : Nat} (h : start ≤ stop) (hstop : stop ≤ text.length) :
    ∃ first last, (byteOffsets 0 text)[start]? = some first ∧
      (byteOffsets 0 text)[stop]? = some last ∧
      (String.ofList (slice text start stop)).toUTF8 = (String.ofList text).toUTF8.extract first last
  /-- All charts are in range, whenever the search is stopped. -/
  charts {chart : Chart} (h : grammar.GoesThrough text chart) :
    chart.InRange grammar.rules text.length
  /-- So are the routes through a chart, while they are looked for. -/
  matching {chart : Chart} (h : grammar.GoesThrough text chart) {frontier : Nat} {s : RouteSearch}
    (hs : s.GoesThrough chart frontier grammar.rules.productions) :
    s.InRange grammar.rules.productions chart text.length
  /-- So are the routes that were rejected, also during a pass. -/
  rejecting {s : Saturation} (h : grammar.Reaches text s) {routes : List Route}
    (hroutes : routes <+: s.chart.freshRoutes s.frontier grammar.rules.productions
      (.ofRules grammar.rules.productions)) {p : Saturation.Pass}
    (hp : (routes.foldlM (Saturation.Pass.tryRoute grammar.rules.productions s.chart)
      { attempted := s.attempted, rejected := s.rejected }).Yields p) :
    ∀ route ∈ p.rejected, route.InRange grammar.rules.productions s.chart

theorem Reaches.rejected_inRange {grammar : Grammar} {text : List Char} {s : Saturation}
    (h : grammar.Reaches text s) :
    ∀ route ∈ s.rejected, route.InRange grammar.rules.productions s.chart := by
  induction h with
  | segmented progress _ => exact fun route hroute ↦ absurd hroute List.not_mem_nil
  | passed s t counts _ hpass ih => exact Saturation.rejected_inRange_of_pass ih hpass

/-- Every search of every text stays in range, and so does every part of it that a limit leaves. -/
theorem staysInRange (grammar : Grammar) (text : List Char) : grammar.StaysInRange text where
  filed := grammar.rules.filed
  flags _ := Segmentation.getElem?_activeFlags
  running htries := by
    refine ⟨htries.place_le, fun id hid ↦ ?_⟩
    obtain ⟨rule, hrule⟩ := MorphIndex.exists_rule_of_mem_candidates hid
    exact ⟨rule, hrule, fun stack ↦ rule.inRange_of_goesThrough grammar.lexicon htries.place_le⟩
  moving hposition pattern _ := TextPattern.le_of_mem_stops hposition
  beginnings r rest _ := AnchoredRegex.cut_of_mem_prefixSizes
  cutting h hstop :=
    ⟨_, _, getElem?_byteOffsets (Nat.le_trans h hstop) 0, getElem?_byteOffsets hstop 0, by
      rw [Nat.zero_add, Nat.zero_add]
      exact toUTF8_slice h⟩
  charts hchart := hchart.justified.inRange
  matching hchart _ _ hsearch :=
    hsearch.inRange fun _ _ hnode ↦ (hchart.justified.inRange.span hnode).2
  rejecting hreaches _ hroutes _ :=
    Saturation.rejected_inRange_of_tryRoutes hreaches.rejected_inRange hroutes.subset

end Grammar

end Morphology
