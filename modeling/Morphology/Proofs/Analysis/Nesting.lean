import Morphology.Proofs.Analysis.Depth
import Morphology.Proofs.Search.Nesting
import Morphology.Proofs.Search.Stages

/-!
# The limit of nesting

A search is given up as too deep because of a rule that nests: a morph rule that comes to an
instruction which is too deep by itself, or a production that makes structures values or has too
deep a structure written down in it. All other productions can be applied to what they have made
themselves, again and again, and never come near the limit.
-/

namespace Morphology.Grammar

/-- A rule of this name nests: a morph rule that brings along too deep a structure at a place of the
text, or a production with an operation that makes structures too deep. -/
inductive Nests (grammar : Grammar) (text : List Char) (name : String) : Prop
  | morph (rule : MorphRule) (place : Nat) (mem : rule ∈ grammar.rules.morphs)
      (name_eq : rule.name = name) (reachable : Segmentation.Reachable grammar text place)
      (brings : rule.BringsDeep text grammar.lexicon place)
  | production (rule : Production) (op : Operation) (mem : rule ∈ grammar.rules.productions)
      (name_eq : rule.name = name) (op_mem : op ∈ rule.operations) (deepens : op.Deepens)

variable {grammar : Grammar} {text : List Char}

theorem nests_of_segmentation {e : AnalysisError}
    (h : (Segmentation.run grammar text).result = .error e) :
    ∃ name, e = .defectiveRule name (.tooDeep depthLimit) ∧ grammar.Nests text name := by
  obtain ⟨place, hplace, rule, hrule, hrun⟩ := Segmentation.failing_rule_of_run h
  have hvalid := grammar.validate_morphRule hrule
  exact ⟨rule.name, MorphRule.error_of_run hvalid hrun,
    .morph rule place hrule rfl hplace (MorphRule.bringsDeep_of_run hvalid hrun)⟩

theorem nests_of_pass {s : Saturation} {e : AnalysisError} (hs : grammar.Reaches text s)
    (h : (s.pass grammar.rules.productions (.ofRules grammar.rules.productions)).result = .error e) :
    ∃ name, e = .defectiveRule name (.tooDeep depthLimit) ∧ grammar.Nests text name := by
  obtain ⟨route, rule, nodes, defect, admits, failed, rfl⟩ := Saturation.failing_route_of_pass h
  have hrule := List.mem_of_getElem? admits.rule_eq
  have hvalid := grammar.validate_production hrule
  obtain rfl := Saturation.error_of_makeNode hvalid admits failed
  refine ⟨rule.name, rfl, ?_⟩
  by_cases hops : ∃ op ∈ rule.operations, op.Deepens
  · obtain ⟨op, hop, hdeepens⟩ := hops
    exact .production rule op hrule rfl hop hdeepens
  · have hflat : ∀ op ∈ rule.operations, ¬op.Deepens := fun op hop hdeepens ↦
      hops ⟨op, hop, hdeepens⟩
    have hnodes : ∀ node ∈ nodes, node.features.depth ≤ depthLimit := by
      intro node hnode
      obtain ⟨id, hid⟩ := Chart.mem_nodes_iff.mp (admits.lists.mem_nodes node hnode)
      exact (hs.justified id node hid).depth_le
    obtain ⟨made, hmade⟩ := Saturation.makeNode_total hvalid hflat hnodes admits
    exact absurd (failed.symm.trans hmade) nofun

/-- Where a search fails, the rule that it fails in nests. -/
theorem nests_of_search {e : AnalysisError} (h : (grammar.search text).result = .error e) :
    ∃ name, e = .defectiveRule name (.tooDeep depthLimit) ∧ grammar.Nests text name := by
  unfold search at h
  rcases Search.error_of_bind (Segmentation.metered_run grammar text)
    (fun _ _ ↦ Search.metered_map (Saturation.metered_run _ _) _) h with
    hsegmentation | ⟨segmented, hsegmented, hlater⟩
  · exact nests_of_segmentation hsegmentation
  · rcases Search.error_of_bind (Saturation.metered_run _ _) (fun _ _ ↦ Search.metered_pure _)
      hlater with hrun | ⟨_, -, hpure⟩
    · have hyields := (Segmentation.metered_run grammar text).yields_iff.mpr hsegmented
      obtain ⟨s, hs, hpass⟩ := Saturation.failing_pass_of_run (grammar.Reaches text)
        (fun s t counts ↦ .passed s t counts) (.segmented segmented hyields) hrun
      exact nests_of_pass hs hpass
    · exact absurd hpure nofun

/-- Where an analysis fails because something is too deep, the rule that it fails in nests. -/
theorem nests_of_analyzeWith {options : Options} {text : String} {name : String} {limit : Nat}
    (h : grammar.analyzeWith options text = .error (.defectiveRule name (.tooDeep limit))) :
    limit = depthLimit ∧ grammar.Nests text.toList name := by
  cases houtcome : (grammar.search text.toList).outcome { limit := options.budget } with
  | mk result after =>
    cases result with
    | ok found =>
      obtain ⟨a, ha, -⟩ := analyzeWith_of_ok houtcome
      exact absurd (ha.symm.trans h) nofun
    | error e =>
      obtain rfl := Except.error.inj ((analyzeWith_of_error houtcome).symm.trans h)
      rcases (metered_search grammar text.toList).outcome_error houtcome with hresult | ⟨_, -, he⟩
      · obtain ⟨other, hother, hnests⟩ := nests_of_search hresult
        obtain ⟨rfl, hdefect⟩ := AnalysisError.defectiveRule.inj hother
        exact ⟨Defect.tooDeep.inj hdefect, hnests⟩
      · exact absurd he nofun

/-- The names of rules tell them apart, so a production without operations that nest is not the one
that a name of a rule that nests refers to. -/
theorem Nests.name_ne {name : String} (h : grammar.Nests text name) {rule : Production}
    (hrule : rule ∈ grammar.rules.productions) (hops : ∀ op ∈ rule.operations, ¬op.Deepens) :
    rule.name ≠ name := by
  obtain ⟨-, hproductions, hdisjoint⟩ :=
    List.nodup_append.mp (Rules.nodup_names grammar.rules_valid)
  cases h with
  | morph other place mem name_eq =>
    intro hname
    exact hdisjoint other.name (List.mem_map_of_mem mem) rule.name (List.mem_map_of_mem hrule)
      (name_eq.trans hname.symm)
  | production other op mem name_eq op_mem deepens =>
    intro hname
    obtain rfl := List.inj_on_of_nodup_map hproductions hrule mem (hname.trans name_eq.symm)
    exact hops op op_mem deepens

/-- Unification does not nest. So whatever a search puts into its chart has at most 64 levels, and
if an analysis fails because something has more, the rule it fails in is one that nests. A
production without operations that nest never makes an analysis fail, however long it takes, but
comes to a conclusion along every route of every chart that a search goes through. -/
theorem too_deep_only_by_nesting :
    (∀ a b c : Structure, a.unify b = some c → c.depth = max a.depth b.depth) ∧
    ∀ (grammar : Grammar) (text : String),
      (∀ chart, grammar.GoesThrough text.toList chart →
        ∀ node ∈ chart.nodes, node.features.depth ≤ 64) ∧
      (∀ options name limit,
        grammar.analyzeWith options text = .error (.defectiveRule name (.tooDeep limit)) →
          limit = 64 ∧ grammar.Nests text.toList name) ∧
      ∀ rule ∈ grammar.rules.productions, (∀ op ∈ rule.operations, ¬op.Deepens) →
        (∀ options limit,
          grammar.analyzeWith options text ≠ .error (.defectiveRule rule.name (.tooDeep limit))) ∧
        ∀ chart, grammar.GoesThrough text.toList chart → ∀ route nodes,
          chart.Admits grammar.rules.productions route rule nodes →
            ∃ made, Saturation.makeNode rule route nodes = .ok made := by
  refine ⟨fun a b c ↦ Structure.depth_unify, fun grammar text ↦ ?_⟩
  have hshallow : ∀ chart, grammar.GoesThrough text.toList chart →
      ∀ node ∈ chart.nodes, node.features.depth ≤ depthLimit := by
    intro chart hchart node hnode
    obtain ⟨id, hid⟩ := Chart.mem_nodes_iff.mp hnode
    exact (hchart.justified id node hid).depth_le
  refine ⟨hshallow, fun options name limit ↦ nests_of_analyzeWith, fun rule hrule hops ↦ ⟨?_, ?_⟩⟩
  · intro options limit hfails
    exact (nests_of_analyzeWith hfails).2.name_ne hrule hops rfl
  · intro chart hchart route nodes admits
    exact Saturation.makeNode_total (grammar.validate_production hrule) hops
      (fun node hnode ↦ hshallow chart hchart node (admits.lists.mem_nodes node hnode)) admits

/-- How a search fails, if it does within so many passes. -/
def failureIn (grammar : Grammar) (options : Options) (text : String) (n : Nat) :
    Option AnalysisError :=
  match ((grammar.searchIn text.toList n).outcome { limit := options.budget }).1 with
  | .error e => some e
  | .ok _ => none

theorem analyzeWith_of_failureIn {options : Options} {text : String} {n : Nat} {e : AnalysisError}
    (h : grammar.failureIn options text n = some e) :
    grammar.analyzeWith options text = .error e := by
  unfold failureIn at h
  cases houtcome : (grammar.searchIn text.toList n).outcome { limit := options.budget } with
  | mk result after =>
    rw [houtcome] at h
    cases result with
    | ok found => exact absurd h nofun
    | error d =>
      obtain rfl := Option.some.inj h
      exact analyzeWith_of_error (error_of_searchIn houtcome)

/-- Structures in structures, over one attribute. -/
def tower : Nat → Structure
  | 0 => .empty
  | n + 1 => .single ⟨0⟩ (.nested (tower n))

/-- A grammar of words with a deep structure and of phrases, which may be put into other phrases. -/
def phrases : Grammar where
  symbols := .ofNames ["of", "word", "phrase"]
  lexicon := ∅
  rules :=
    { morphs := [⟨"word", some ⟨1⟩, [.unify (tower 61), .read (.literal ['a'])]⟩]
      productions := [⟨"again", [.any], ⟨2⟩, [.child 0]⟩, ⟨"wrap", [.any], ⟨2⟩, [.nest ⟨0⟩ 0]⟩] }
  rules_valid := by decide +kernel
  lexicon_valid := by rfl

/-- Wrapping phrases fails in the end; making phrases of phrases beside it does not. -/
theorem too_deep_only_by_nesting_phrases :
    phrases.analyzeWith {} "a" = .error (.defectiveRule "wrap" (.tooDeep 64)) ∧
      phrases.Nests "a".toList "wrap" ∧
      ∀ options limit,
        phrases.analyzeWith options "a" ≠ .error (.defectiveRule "again" (.tooDeep limit)) := by
  have hfails : phrases.analyzeWith {} "a" = .error (.defectiveRule "wrap" (.tooDeep 64)) :=
    analyzeWith_of_failureIn (n := 4) (by decide +kernel)
  obtain ⟨-, hgrammars⟩ := too_deep_only_by_nesting
  obtain ⟨-, hnests, hflat⟩ := hgrammars phrases "a"
  refine ⟨hfails, (hnests {} "wrap" 64 hfails).2, ?_⟩
  have hops : ∀ op ∈ [Operation.child 0], ¬op.Deepens := by simp [Operation.Deepens]
  exact (hflat _ List.mem_cons_self hops).1

end Morphology.Grammar
