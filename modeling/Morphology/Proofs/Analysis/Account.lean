import Morphology.Proofs.Analysis.Completeness
import Morphology.Proofs.Search.Rejections

/-!
# Account of a search

An analysis can show the chart of its search, and it shows the counts of the segmentation and of
each pass. Together they are an account of the search without gaps: the nodes that were counted are
the entries, the analyses are the accepting ones of them, and the rejected routes that were counted
are those along which the structures of the entries contradict each other, each of them once.
-/

namespace Morphology

/-- The stretch of text that an entry covers. -/
def ChartEntry.span (entry : ChartEntry) : Nat × Nat := (entry.start, entry.stop)

/-- The entries with given numbers, in their order. -/
def ChartReport.Lists (report : ChartReport) (ids : List Nat) (entries : List ChartEntry) : Prop :=
  List.Forall₂ (fun id entry ↦ report.entries[id]? = some entry) ids entries

/-- A production can be applied to adjacent entries from one place to another, but it finds that
their structures contradict each other. -/
structure Production.Refuses (rule : Production) (start stop : Nat) (children : List ChartEntry) :
    Prop where
  acceptEach : List.Forall₂ (fun pattern child ↦ pattern.accepts child.tag) rule.pattern children
  adjacent : Adjacent start (children.map ChartEntry.span) stop
  combine_eq : rule.combine (children.map (·.features)) = .ok none

/-- The chart that an analysis shows, and its counts, account for everything that was tried. -/
structure ChartReport.Accounts (report : ChartReport) (grammar : Grammar) (a : Analysis) :
    Prop where
  /-- Entries have their places in the list as numbers, and their children come before them. -/
  numbered : ∀ (i : Nat) (entry : ChartEntry), report.entries[i]? = some entry →
    entry.node = i ∧ ∀ child ∈ entry.children, child < i
  length_entries : report.entries.length = a.segmentation.produced + (a.passes.map (·.produced)).sum
  accepting_eq : (report.entries.filter (·.accepting)).map (·.node) = a.trees.map (·.node)
  length_rejected : report.rejected.length = (a.passes.map (·.rejected)).sum
  nodup_rejected : (report.rejected.map fun route ↦ (route.rule, route.children)).Nodup
  mem_rejected_iff : ∀ route : RejectedRoute, route ∈ report.rejected ↔
    ∃ rule ∈ grammar.rules.productions, route.rule = rule.name ∧
      ∃ children, report.Lists route.children children ∧
        rule.Refuses route.start route.stop children
  /-- All passes but the last one find something new. -/
  passes_eq : ∃ earlier last, a.passes = earlier ++ [last] ∧
    (∀ counts ∈ earlier, 0 < counts.produced) ∧ last.produced = 0

theorem Rules.nameOfOrigin_production {rules : Rules} {number : Nat} {rule : Production}
    {children : List Nat} (h : rules.productions[number]? = some rule) :
    rules.nameOfOrigin (.production number children) = rule.name := by
  rw [nameOfOrigin, h, Option.map_some, Option.getD_some]

namespace Chart

variable {chart : Chart} {rules : Rules} {text : List Char} {rejected : List Route}
  {ids accepting : List Nat} {nodes : List Node}

/-! ## Entries -/

theorem getElem?_report (i : Nat) : (chart.report rules text rejected).entries[i]? =
    (chart.get? i).map (entry rules text (chart.accepting rules text.length) i) := by
  unfold report
  rw [List.getElem?_map, getElem?_entries, Option.map_map]
  rfl

theorem length_report : (chart.report rules text rejected).entries.length = chart.size := by
  simp [report, entries, size]

/-- The entries with given numbers show the nodes with these numbers. -/
theorem lists_report {children : List ChartEntry} :
    (chart.report rules text rejected).Lists ids children ↔ ∃ nodes, chart.Lists ids nodes ∧
      children = List.zipWith (entry rules text (chart.accepting rules text.length)) ids nodes := by
  constructor
  · intro h
    induction h with
    | nil => exact ⟨[], .nil, rfl⟩
    | cons hchild _ ih =>
      obtain ⟨nodes, hlists, rfl⟩ := ih
      rw [getElem?_report] at hchild
      obtain ⟨node, hnode, rfl⟩ := Option.map_eq_some_iff.mp hchild
      exact ⟨node :: nodes, .cons hnode hlists, rfl⟩
  · rintro ⟨nodes, hlists, rfl⟩
    induction hlists with
    | nil => exact .nil
    | cons hnode _ ih =>
      refine .cons ?_ ih
      rw [getElem?_report, hnode, Option.map_some]

/-- What can be told from single entries can be told from the nodes that they show. -/
theorem map_entry (rules : Rules) (text : List Char) (accepting : List Nat) {γ : Type}
    (told : ChartEntry → γ) (known : Node → γ)
    (htold : ∀ id node, told (entry rules text accepting id node) = known node)
    (hlists : chart.Lists ids nodes) :
    (List.zipWith (entry rules text accepting) ids nodes).map told = nodes.map known := by
  induction hlists with
  | nil => rfl
  | cons _ _ ih => rw [List.zipWith_cons_cons, List.map_cons, htold, ih, List.map_cons]

/-- A production refuses entries exactly if it refuses the nodes that they show. -/
theorem refuses_entries_iff {rule : Production} {start stop : Nat}
    (hlists : chart.Lists ids nodes) :
    rule.Refuses start stop (List.zipWith (entry rules text accepting) ids nodes) ↔
      TagPattern.AcceptEach rule.pattern (nodes.map Node.toItem) ∧
        Adjacent start (nodes.map (·.span)) stop ∧
        rule.combine (nodes.map (·.features)) = .ok none := by
  have htags := map_entry rules text accepting (·.tag) (·.tag) (fun _ _ ↦ rfl) hlists
  have hspans := map_entry rules text accepting ChartEntry.span (·.span) (fun _ _ ↦ rfl) hlists
  have hfeatures := map_entry rules text accepting (·.features) (·.features) (fun _ _ ↦ rfl) hlists
  have haccepts : List.Forall₂ (fun pattern child ↦ pattern.accepts child.tag) rule.pattern
        (List.zipWith (entry rules text accepting) ids nodes) ↔
      TagPattern.AcceptEach rule.pattern (nodes.map Node.toItem) := by
    rw [← List.forall₂_map_right_iff (R := fun pattern tag ↦ TagPattern.accepts pattern tag), htags,
      List.forall₂_map_right_iff, TagPattern.AcceptEach, List.forall₂_map_right_iff]
  constructor
  · rintro ⟨hacceptEach, hadjacent, hcombine⟩
    exact ⟨haccepts.mp hacceptEach, hspans ▸ hadjacent, hfeatures ▸ hcombine⟩
  · rintro ⟨hacceptEach, hadjacent, hcombine⟩
    exact ⟨haccepts.mpr hacceptEach, hspans ▸ hadjacent, hfeatures ▸ hcombine⟩

/-- The accepting entries are those of the accepting nodes. -/
theorem accepting_report :
    ((chart.report rules text rejected).entries.filter (·.accepting)).map (·.node) =
      chart.accepting rules text.length := by
  have hnumbers : ((chart.report rules text rejected).entries.filter (·.accepting)).map (·.node) =
      (List.range chart.size).filter (chart.accepting rules text.length).contains := by
    rw [← map_fst_entries]
    simp only [report, List.filter_map, List.map_map]
    rfl
  rw [hnumbers]
  refine List.Pairwise.eq_of_mem_iff (r := (· < ·)) (List.pairwise_lt_range.filter _)
    (chart.pairwise_accepting rules text.length) fun id ↦ ?_
  rw [List.mem_filter, List.mem_range, List.contains_iff_mem, and_iff_right_iff_imp]
  intro hid
  obtain ⟨node, hnode, -⟩ := mem_accepting.mp hid
  exact lt_size_of_get? hnode

/-! ## Rejected routes -/

theorem Lists.head?_bind (h : chart.Lists ids nodes) : ids.head?.bind chart.get? = nodes.head? := by
  cases h with
  | nil => rfl
  | cons hnode _ => exact hnode

theorem Lists.getLast?_bind (h : chart.Lists ids nodes) :
    ids.getLast?.bind chart.get? = nodes.getLast? := by
  induction h with
  | nil => rfl
  | cons hnode hrest ih =>
    cases hrest with
    | nil => exact hnode
    | cons _ _ => rw [List.getLast?_cons_cons, ih, List.getLast?_cons_cons]

/-- A rejected route leads from the start of its first node to the stop of its last one. -/
theorem rejectedRoute_eq {route : Route} {rule : Production} {start stop : Nat}
    (h : chart.Admits rules.productions route rule nodes) (hroute : route.nodes ≠ [])
    (hadjacent : Adjacent start (nodes.map (·.span)) stop) :
    chart.rejectedRoute rules route = ⟨rule.name, start, stop, route.nodes⟩ := by
  have hne : nodes ≠ [] := by
    rintro rfl
    exact hroute (List.forall₂_nil_right_iff.mp h.lists)
  have hfirst := List.head?_eq_some_head hne
  have hlast := List.getLast?_eq_some_getLast hne
  obtain ⟨hstart, hstop⟩ := hadjacent.ends_of_nodes hne
  unfold rejectedRoute
  simp only [h.lists.head?_bind, h.lists.getLast?_bind, hfirst, hlast, hstart, hstop,
    Rules.nameOfOrigin_production h.rule_eq, Option.map_some, Option.getD_some]

end Chart

namespace Grammar

variable {grammar : Grammar} {text : List Char} {chart : Chart} {rejected : List Route}

/-- The productions of a grammar have different names. -/
theorem rule_unique {i j : Nat} {rule other : Production}
    (hi : grammar.rules.productions[i]? = some rule)
    (hj : grammar.rules.productions[j]? = some other) (hname : rule.name = other.name) : i = j := by
  have hnames := (List.nodup_append.mp (Rules.nodup_names grammar.rules_valid)).2.1
  have hlt : i < (grammar.rules.productions.map (·.name)).length := by
    rw [List.length_map]
    exact (List.getElem?_eq_some_iff.mp hi).1
  refine (List.getElem?_inj hlt hnames).mp ?_
  rw [List.getElem?_map, List.getElem?_map, hi, hj, Option.map_some, Option.map_some, hname]

/-- What is shown of a rejected route tells it from every other one. -/
theorem nodup_rejectedRoutes (hnodup : rejected.Nodup)
    (hroutes : ∀ route ∈ rejected, route ∈ chart.allRoutes grammar.rules.productions) :
    ((chart.report grammar.rules text rejected).rejected.map
      fun route ↦ (route.rule, route.children)).Nodup := by
  unfold Chart.report
  rw [List.map_map]
  refine (List.nodup_reverse.mpr hnodup).map_on fun route hroute other hother hsame ↦ ?_
  obtain ⟨⟨rule, nodes, hadmits⟩, -⟩ :=
    Chart.mem_allRoutes.mp (hroutes route (List.mem_reverse.mp hroute))
  obtain ⟨⟨rule', nodes', hadmits'⟩, -⟩ :=
    Chart.mem_allRoutes.mp (hroutes other (List.mem_reverse.mp hother))
  obtain ⟨hnames, hnodes⟩ := Prod.mk.inj hsame
  have hname : rule.name = rule'.name := calc
    rule.name = grammar.rules.nameOfOrigin (.production route.rule route.nodes) :=
      (Rules.nameOfOrigin_production hadmits.rule_eq).symm
    _ = grammar.rules.nameOfOrigin (.production other.rule other.nodes) := hnames
    _ = rule'.name := Rules.nameOfOrigin_production hadmits'.rule_eq
  obtain ⟨number, ids⟩ := route
  obtain ⟨number', ids'⟩ := other
  obtain rfl : ids = ids' := hnodes
  obtain rfl : number = number' := rule_unique hadmits.rule_eq hadmits'.rule_eq hname
  rfl

/-- If the rejected routes are those whose structures contradict each other, then what is shown of
them are the productions that refuse adjacent entries. -/
theorem mem_rejectedRoutes_iff
    (hrejected : ∀ route, route ∈ rejected ↔ route ∈ chart.allRoutes grammar.rules.productions ∧
      Saturation.contradicts grammar.rules.productions chart route) (route : RejectedRoute) :
    route ∈ (chart.report grammar.rules text rejected).rejected ↔
      ∃ rule ∈ grammar.rules.productions, route.rule = rule.name ∧
        ∃ children, (chart.report grammar.rules text rejected).Lists route.children children ∧
          rule.Refuses route.start route.stop children := by
  have hmem : route ∈ (chart.report grammar.rules text rejected).rejected ↔
      ∃ tried ∈ rejected, chart.rejectedRoute grammar.rules tried = route := by
    simp only [Chart.report, List.mem_map, List.mem_reverse]
  rw [hmem]
  constructor
  · rintro ⟨tried, htried, rfl⟩
    obtain ⟨hroute, hcontradicts⟩ := (hrejected tried).mp htried
    obtain ⟨⟨rule, nodes, hadmits⟩, hne⟩ := Chart.mem_allRoutes.mp hroute
    obtain ⟨start, stop, hadjacent⟩ := hadmits.adjacent
    have hrule := List.mem_of_getElem? hadmits.rule_eq
    have hcombine :=
      (Saturation.contradicts_iff (grammar.validate_production hrule) hadmits).mp hcontradicts
    rw [Chart.rejectedRoute_eq hadmits hne hadjacent]
    exact ⟨rule, hrule, rfl, _, Chart.lists_report.mpr ⟨nodes, hadmits.lists, rfl⟩,
      (Chart.refuses_entries_iff hadmits.lists).mpr ⟨hadmits.acceptEach, hadjacent, hcombine⟩⟩
  · rintro ⟨rule, hrule, hname, children, hchildren, hrefuses⟩
    obtain ⟨number, hnumber⟩ := List.mem_iff_getElem?.mp hrule
    obtain ⟨nodes, hlists, rfl⟩ := Chart.lists_report.mp hchildren
    obtain ⟨hacceptEach, hadjacent, hcombine⟩ := (Chart.refuses_entries_iff hlists).mp hrefuses
    have hadmits : chart.Admits grammar.rules.productions ⟨number, route.children⟩ rule nodes :=
      ⟨hnumber, hlists, hacceptEach, route.start, route.stop, hadjacent⟩
    have hne := Saturation.nodes_ne_nil_of_admits (fun _ ↦ grammar.validate_production) hadmits
    have hcontradicts :=
      (Saturation.contradicts_iff (grammar.validate_production hrule) hadmits).mpr hcombine
    refine ⟨_, (hrejected _).mpr
      ⟨Chart.mem_allRoutes.mpr ⟨⟨rule, nodes, hadmits⟩, hne⟩, hcontradicts⟩, ?_⟩
    rw [Chart.rejectedRoute_eq hadmits hne hadjacent, ← hname]

/-- The trees of an analysis are those of the accepting nodes, in their order. -/
theorem map_node_trees {s : Saturation} (h : s.chart.Justified grammar text) :
    (grammar.trees text s).map (·.node) = s.chart.accepting grammar.rules text.length := by
  unfold trees
  rw [List.map_filterMap]
  have hnodes : ∀ id ∈ s.chart.accepting grammar.rules text.length,
      ((s.chart.derivations grammar.rules text)[id]?).map (·.node) = some id := by
    intro id hid
    obtain ⟨node, hnode, -⟩ := Chart.mem_accepting.mp hid
    rw [Chart.getElem?_derivations h hnode]
    rfl
  rw [List.filterMap_congr hnodes, List.filterMap_some]

/-- The entries of a justified chart are numbered one after the other, and children come first. -/
theorem numbered_of_justified (h : chart.Justified grammar text) {i : Nat} {entry : ChartEntry}
    (hentry : (chart.report grammar.rules text rejected).entries[i]? = some entry) :
    entry.node = i ∧ ∀ child ∈ entry.children, child < i := by
  rw [Chart.getElem?_report] at hentry
  obtain ⟨node, hnode, rfl⟩ := Option.map_eq_some_iff.mp hentry
  exact ⟨rfl, (h i node hnode).children_lt⟩

/-- The chart that an analysis shows when it is asked to, together with its counts, is an exact
account of the search. -/
theorem accounts_of_analyzeWith {options : Options} {text : String} {a : Analysis}
    (h : grammar.analyzeWith options text = .ok a) (hretain : options.retainChart) :
    ∃ report, a.chart = some report ∧ report.Accounts grammar a := by
  obtain ⟨s, hyields, htrees, -, hchart⟩ := shown_of_analyzeWith h
  rw [if_pos hretain] at hchart
  have hjustified := justified_of_search hyields
  obtain ⟨progress, hprogress, hcounts, hrun⟩ := counted_parts_of_search hyields
  have hruns := Saturation.runs_of_run hrun
  have hbalanced := (Saturation.ledger_initial _ progress.chart).balanced
    (fun _ ↦ grammar.validate_production) hruns
  have hrejected (route : Route) : route ∈ s.rejected ↔
      route ∈ s.chart.allRoutes grammar.rules.productions ∧
        Saturation.contradicts grammar.rules.productions s.chart route :=
    hbalanced.mem_rejected_iff
  refine ⟨_, hchart, fun i entry ↦ numbered_of_justified hjustified, ?_, ?_, ?_, ?_,
    mem_rejectedRoutes_iff hrejected, hruns.exists_append⟩
  · calc
      (s.chart.report grammar.rules text.toList s.rejected).entries.length = s.chart.size :=
        Chart.length_report
      _ = progress.chart.size + (a.passes.map (·.produced)).sum := hbalanced.size_eq
      _ = a.segmentation.produced + (a.passes.map (·.produced)).sum := by
        rw [← hcounts, Segmentation.produced_of_run hprogress]
  · rw [Chart.accepting_report, htrees, map_node_trees hjustified]
  · have hlength := hbalanced.rejected_eq
    simp only [List.length_nil, Nat.zero_add] at hlength
    simpa [Chart.report] using hlength
  · exact nodup_rejectedRoutes hbalanced.ledger.nodup fun route hroute ↦
      ((hrejected route).mp hroute).1

/-- A grammar of a noun that is in the nominative by itself, and in the inessive with a suffix. A
word that has a case cannot take a suffix again. -/
def inflections : Grammar where
  symbols := .ofNames ["stem", "suffix", "word", "case", "nominative", "inessive"]
  lexicon := ∅
  rules :=
    { morphs :=
        [{  name := "noun"
            tag := some ⟨0⟩
            program := [.read (.literal ['t', 'a', 'l', 'o'])] },
          { name := "ending"
            tag := some ⟨1⟩
            program := [.read (.literal ['s', 's', 'a']), .unify [(⟨3⟩, .atom ⟨5⟩)]] }]
      productions :=
        [{  name := "bare"
            pattern := [.exactly ⟨0⟩]
            result := ⟨2⟩
            operations := [.child 0, .fixed [(⟨3⟩, .atom ⟨4⟩)]] },
          { name := "inflected", pattern := [.exactly ⟨0⟩, .exactly ⟨1⟩], result := ⟨2⟩, operations := [] },
          { name := "again", pattern := [.exactly ⟨2⟩, .exactly ⟨1⟩], result := ⟨2⟩, operations := [] }]
      accepted := [⟨2⟩] }
  rules_valid := by rfl
  lexicon_valid := by rfl

/-- The second of two passes tries to add a suffix to a word, and that is all that is rejected. -/
theorem accounts_of_analyzeWith_inflections : ∃ a report,
    inflections.analyzeWith { retainChart := true } "talossa" = .ok a ∧ a.chart = some report ∧
      a.passes.map (·.rejected) = [0, 1] ∧
      report.rejected.map (fun route ↦ (route.rule, route.start, route.stop, route.children)) =
        [("again", 0, 7, [2, 1])] ∧
      report.Accounts inflections a := by
  have hfound : (inflections.foundIn { retainChart := true } "talossa" 2).map (fun (_, s, passes) ↦
      (passes.map (·.rejected),
        (s.chart.report inflections.rules "talossa".toList s.rejected).rejected.map
          fun route ↦ (route.rule, route.start, route.stop, route.children))) =
      some ([0, 1], [("again", 0, 7, [2, 1])]) := by
    decide +kernel
  obtain ⟨a, s, ha, hchart, htold⟩ := analyzeWith_of_foundIn hfound
  obtain ⟨report, hreport, haccounts⟩ := accounts_of_analyzeWith ha rfl
  obtain rfl := Option.some.inj (hreport.symm.trans hchart)
  obtain ⟨hpasses, hrejected⟩ := Prod.mk.inj htold
  exact ⟨a, _, ha, hreport, hpasses, hrejected, haccounts⟩

end Grammar

end Morphology
