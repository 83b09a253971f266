import Mathlib.Logic.Relation
import Morphology.Proofs.Analysis.Outcome
import Morphology.Proofs.Search.Justification

/-!
# Trees of an analysis

The trees of an analysis are read off the chart, where nodes refer to each other by their numbers.
Everything in such a tree is as the rules of the grammar have it: a leaf is a morph that a morph
rule finds at its place, and any other node is what a production makes of the nodes below it.
-/

namespace Morphology

/-- In an array that is filled one element after the other, each element is what was made of the
elements before it. -/
theorem getElem?_foldl_push {α β : Type} (make : Array β → α → β) {l : List α} (filled : Array β) :
    (l.foldl (fun filled a ↦ filled.push (make filled a)) filled).size = filled.size + l.length ∧
      (∀ i < filled.size,
        (l.foldl (fun filled a ↦ filled.push (make filled a)) filled)[i]? = filled[i]?) ∧
      ∀ i a, l[i]? = some a → ∃ earlier : Array β,
        (l.foldl (fun filled a ↦ filled.push (make filled a)) filled)[filled.size + i]? =
            some (make earlier a) ∧
          ∀ j < filled.size + i, earlier[j]? =
            (l.foldl (fun filled a ↦ filled.push (make filled a)) filled)[j]? := by
  induction l generalizing filled with
  | nil => exact ⟨rfl, fun _ _ ↦ rfl, fun i a h ↦ absurd h nofun⟩
  | cons first rest ih =>
    obtain ⟨hsize, hkept, hmade⟩ := ih (filled.push (make filled first))
    rw [Array.size_push] at hsize hkept hmade
    rw [List.foldl_cons]
    refine ⟨?_, fun i hi ↦ ?_, fun i a ha ↦ ?_⟩
    · rw [hsize, List.length_cons]
      omega
    · rw [hkept i (Nat.lt_succ_of_lt hi), Array.getElem?_push_lt hi, Array.getElem?_eq_getElem hi]
    · cases i with
      | zero =>
        obtain rfl : first = a := Option.some.inj ha
        refine ⟨filled, ?_, fun j hj ↦ ?_⟩
        · rw [Nat.add_zero, hkept _ (Nat.lt_succ_self _), Array.getElem?_push_size]
        · rw [Nat.add_zero] at hj
          rw [hkept j (Nat.lt_succ_of_lt hj), Array.getElem?_push_lt hj, Array.getElem?_eq_getElem hj]
      | succ i =>
        obtain ⟨earlier, hlast, hearlier⟩ := hmade i a ha
        have hindex : filled.size + 1 + i = filled.size + (i + 1) := by omega
        rw [hindex] at hlast hearlier
        exact ⟨earlier, hlast, hearlier⟩

namespace Chart

variable {grammar : Grammar} {text : List Char} {chart : Chart} {id : Nat}

/-- The derivation of a node, given those of other nodes. -/
def derivation (rules : Rules) (text : List Char) (trees : Array Derivation) (id : Nat)
    (node : Node) : Derivation where
  node := id
  start := node.start
  stop := node.stop
  tag := node.tag
  features := node.features
  rule := rules.nameOfOrigin node.origin
  surface := node.surface text
  children := node.children.filterMap fun child ↦ trees[child]?

theorem getElem?_entries (chart : Chart) (i : Nat) :
    chart.entries[i]? = (chart.get? i).map fun node ↦ (i, node) := by
  unfold entries get?
  rw [List.getElem?_map, List.getElem?_zipIdx, Array.getElem?_toList, Option.map_map, Nat.zero_add]
  rfl

theorem size_derivations (chart : Chart) (rules : Rules) (text : List Char) :
    (chart.derivations rules text).size = chart.size := by
  have hsize := (getElem?_foldl_push (fun trees entry ↦ derivation rules text trees entry.1 entry.2)
    (l := chart.entries) #[]).1
  have hentries : chart.entries.length = chart.size := by simp [entries, size]
  rw [Array.size_empty, Nat.zero_add, hentries] at hsize
  exact hsize

/-- In a justified chart the derivation of a node has the derivations of its children below it. -/
theorem getElem?_derivations (h : chart.Justified grammar text) {rules : Rules} {node : Node}
    (hnode : chart.get? id = some node) : (chart.derivations rules text)[id]? =
      some (derivation rules text (chart.derivations rules text) id node) := by
  have hentry : chart.entries[id]? = some (id, node) := by
    rw [getElem?_entries, hnode, Option.map_some]
  obtain ⟨earlier, hmade, hearlier⟩ := (getElem?_foldl_push
    (fun trees entry ↦ derivation rules text trees entry.1 entry.2) (l := chart.entries) #[]).2.2
      id (id, node) hentry
  rw [Array.size_empty, Nat.zero_add] at hmade hearlier
  have hchildren : node.children.filterMap (fun child ↦ earlier[child]?) =
      node.children.filterMap fun child ↦ (chart.derivations rules text)[child]? :=
    List.filterMap_congr fun child hchild ↦ hearlier child ((h id node hnode).children_lt child hchild)
  calc
    (chart.derivations rules text)[id]? = some (derivation rules text earlier id node) := hmade
    _ = _ := by simp only [derivation, hchildren]

theorem exists_node_of_derivations (h : chart.Justified grammar text) {rules : Rules}
    {d : Derivation} (hd : (chart.derivations rules text)[id]? = some d) :
    ∃ node, chart.get? id = some node ∧
      d = derivation rules text (chart.derivations rules text) id node := by
  have hid : id < chart.size := by
    rw [← size_derivations chart rules text]
    exact (Array.getElem?_eq_some_iff.mp hd).1
  have hnode : chart.get? id = some chart.nodes[id] := Array.getElem?_eq_getElem hid
  exact ⟨_, hnode, Option.some.inj (hd.symm.trans (getElem?_derivations h hnode))⟩

/-- What can be told from single derivations is the same for the children of a derivation as for
the nodes that its node was made of. -/
theorem map_children_derivation (h : chart.Justified grammar text) (rules : Rules) (id : Nat)
    {node : Node} {nodes : List Node} (hlists : chart.Lists node.children nodes) {γ : Type}
    (told : Derivation → γ) (known : Node → γ)
    (htold : ∀ trees id node, told (derivation rules text trees id node) = known node) :
    (derivation rules text (chart.derivations rules text) id node).children.map told =
      nodes.map known := by
  unfold derivation
  simp only
  generalize node.children = ids at hlists
  induction hlists with
  | nil => rfl
  | @cons id node ids nodes hnode _ ih =>
    rw [List.filterMap_cons_some (getElem?_derivations h hnode), List.map_cons, htold, ih,
      List.map_cons]

end Chart

namespace Derivation

/-- A derivation is a part of another one: the whole, a child, or a child of a child, and so on. -/
def IsPartOf (part whole : Derivation) : Prop :=
  Relation.ReflTransGen (fun parent child ↦ child ∈ parent.children) whole part

/-- The stretch of text that a derivation covers. -/
def span (d : Derivation) : Nat × Nat := (d.start, d.stop)

end Derivation

namespace Grammar

variable {grammar : Grammar}

/-- A node of a tree, with the nodes right below it, is as the rules have it. -/
structure Licenses (grammar : Grammar) (text : List Char) (d : Derivation) : Prop where
  depth_le : d.features.depth ≤ 64
  /-- A leaf is one of the morphs that the rule it names finds where it starts. -/
  leaf : d.children = [] → ∃ rule ∈ grammar.rules.morphs, rule.name = d.rule ∧
    ∃ morphs, (rule.run text grammar.lexicon d.start).result = .ok morphs ∧
      ⟨d.stop, d.features, d.tag⟩ ∈ morphs
  /-- Any other node is made by the production it names. -/
  inner : d.children ≠ [] → ∃ rule ∈ grammar.rules.productions, rule.name = d.rule ∧
    List.Forall₂ (fun pattern child ↦ pattern.accepts child.tag) rule.pattern d.children ∧
      Adjacent d.start (d.children.map (·.span)) d.stop ∧ d.tag = rule.result ∧
        rule.combine (d.children.map (·.features)) = .ok (some d.features)

theorem licenses_derivation {text : List Char} {chart : Chart}
    (h : chart.Justified grammar text) {id : Nat} {node : Node} (hnode : chart.get? id = some node) :
    grammar.Licenses text
      (Chart.derivation grammar.rules text (chart.derivations grammar.rules text) id node) := by
  have hjustified := h id node hnode
  have hdepth := hjustified.depth_le
  cases hjustified with
  | morph number origin_eq found =>
    have hchildren : node.children = [] := by rw [Node.children, origin_eq]
    obtain ⟨rule, morphs, hrule, hrun, hmorph⟩ := found
    have hname : rule.name = grammar.rules.nameOfOrigin node.origin := by
      rw [origin_eq, Rules.nameOfOrigin, hrule]
      rfl
    refine ⟨hdepth, fun _ ↦ ?_, fun hinner ↦ absurd ?_ hinner⟩
    · exact ⟨rule, List.mem_of_getElem? hrule, hname, morphs, hrun, hmorph⟩
    · simp only [Chart.derivation, hchildren, List.filterMap_nil]
  | production route rule nodes admits earlier made =>
    obtain ⟨makes, -, origin_eq⟩ := makes_of_admits admits made
    have hrule := List.mem_of_getElem? admits.rule_eq
    have hname : rule.name = grammar.rules.nameOfOrigin node.origin := by
      rw [origin_eq, Rules.nameOfOrigin, admits.rule_eq]
      rfl
    have hlists : chart.Lists node.children nodes := by
      rw [Node.children, origin_eq]
      exact admits.lists
    have htags := Chart.map_children_derivation h grammar.rules id hlists (·.tag) (·.tag)
      fun _ _ _ ↦ rfl
    have hspans := Chart.map_children_derivation h grammar.rules id hlists (·.span) (·.span)
      fun _ _ _ ↦ rfl
    have hfeatures := Chart.map_children_derivation h grammar.rules id hlists (·.features)
      (·.features) fun _ _ _ ↦ rfl
    refine ⟨hdepth, fun hleaf ↦ absurd hleaf ?_,
      fun _ ↦ ⟨rule, hrule, hname, ?_, ?_, makes.tag_eq, ?_⟩⟩
    · intro hnil
      rw [hnil] at htags
      have hnodes : nodes = [] := List.map_eq_nil_iff.mp htags.symm
      subst hnodes
      have hpattern := List.forall₂_nil_right_iff.mp makes.acceptEach
      exact Production.pattern_ne_nil (grammar.validate_production hrule) hpattern
    · rw [← List.forall₂_map_right_iff (R := fun pattern tag ↦ TagPattern.accepts pattern tag), htags,
        List.forall₂_map_right_iff]
      exact List.forall₂_map_right_iff.mp makes.acceptEach
    · have hadjacent := makes.adjacent
      rw [List.map_map] at hadjacent
      rw [hspans]
      exact hadjacent
    · rw [hfeatures, Saturation.map_features]
      exact makes.combine_eq

/-- Whatever is part of the derivation of a node is the derivation of some node. -/
theorem exists_of_isPartOf {text : List Char} {chart : Chart} (h : chart.Justified grammar text)
    {trees : Array Derivation} (htrees : trees = chart.derivations grammar.rules text)
    {whole part : Derivation} (hwhole : ∃ id : Nat, trees[id]? = some whole)
    (hpart : part.IsPartOf whole) : ∃ id : Nat, trees[id]? = some part := by
  induction hpart with
  | refl => exact hwhole
  | tail _ hchild ih =>
    obtain ⟨id, hparent⟩ := ih
    rw [htrees] at hparent
    obtain ⟨node, -, rfl⟩ := Chart.exists_node_of_derivations h hparent
    obtain ⟨child, -, hderivation⟩ := List.mem_filterMap.mp hchild
    exact ⟨child, htrees ▸ hderivation⟩

/-- A grammar of words that consist of the letter a: the letter is a word, and so is whatever is
made of one word or of two. -/
def letters : Grammar where
  symbols := .ofNames ["word"]
  lexicon := ∅
  rules :=
    { morphs := [{ name := "letter", tag := some ⟨0⟩, program := [.read (.literal ['a'])] }]
      productions :=
        [{ name := "single", pattern := [.exactly ⟨0⟩], result := ⟨0⟩, operations := [] },
          { name := "pair", pattern := [.exactly ⟨0⟩, .any], result := ⟨0⟩, operations := [] }]
      accepted := [⟨0⟩] }
  rules_valid := by rfl
  lexicon_valid := by rfl

/-- Three letters can be put together in two ways, which count as one analysis. -/
theorem letters_analysis : ∃ a, letters.analyzeWith {} "aaa" = .ok a ∧
    a.trees.map (fun tree ↦ (tree.rule, tree.start, tree.stop)) = [("pair", 0, 3)] := by
  have htrees : (letters.treesIn {} "aaa" 4).map
      (·.map fun tree ↦ (tree.rule, tree.start, tree.stop)) = some [("pair", 0, 3)] := by
    decide +kernel
  obtain ⟨trees, hin, htrees⟩ := Option.map_eq_some_iff.mp htrees
  obtain ⟨a, ha, rfl⟩ := analyzeWith_of_treesIn hin
  exact ⟨a, ha, htrees⟩

/-- Every tree of an analysis covers the text, has an accepted tag, and is at each of its nodes as
the rules of the grammar have it. -/
theorem licenses_of_mem_trees {options : Options} {text : String} {a : Analysis}
    (h : grammar.analyzeWith options text = .ok a) :
    ∀ tree ∈ a.trees, tree.start = 0 ∧ tree.stop = text.length ∧ grammar.rules.accepts tree.tag ∧
      ∀ part, part.IsPartOf tree → grammar.Licenses text.toList part := by
  obtain ⟨segmentation, s, passes, hsearch, htrees⟩ := search_of_analyzeWith h
  have hjustified :=
    justified_of_search ((metered_search grammar text.toList).yields_iff.mpr hsearch)
  intro tree htree
  rw [htrees] at htree
  obtain ⟨id, haccepting, htree⟩ := List.mem_filterMap.mp htree
  have hparts (part : Derivation) (hpart : part.IsPartOf tree) :
      grammar.Licenses text.toList part := by
    obtain ⟨number, hnumber⟩ := exists_of_isPartOf hjustified rfl ⟨id, htree⟩ hpart
    obtain ⟨node, hnode, rfl⟩ := Chart.exists_node_of_derivations hjustified hnumber
    exact licenses_derivation hjustified hnode
  obtain ⟨hstart, haccepts⟩ := List.mem_filter.mp haccepting
  obtain ⟨node, hnode, hzero⟩ := Chart.mem_startingAt.mp hstart
  rw [hnode, Option.any_some, Bool.and_eq_true, beq_iff_eq] at haccepts
  obtain ⟨other, hother, rfl⟩ := Chart.exists_node_of_derivations hjustified htree
  obtain rfl : node = other := Option.some.inj (hnode.symm.trans hother)
  exact ⟨hzero, haccepts.1.trans String.length_toList, haccepts.2, hparts⟩

theorem licenses_of_mem_trees_letters : ∃ a, letters.analyzeWith {} "aaa" = .ok a ∧
    a.trees.length = 1 ∧ ∀ tree ∈ a.trees, tree.start = 0 ∧ tree.stop = "aaa".length ∧
      letters.rules.accepts tree.tag ∧
        ∀ part, part.IsPartOf tree → letters.Licenses "aaa".toList part := by
  obtain ⟨a, ha, htrees⟩ := letters_analysis
  refine ⟨a, ha, ?_, licenses_of_mem_trees ha⟩
  simpa using congrArg List.length htrees

end Grammar

end Morphology
