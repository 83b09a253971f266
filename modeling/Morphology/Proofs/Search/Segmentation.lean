import Morphology.Proofs.Search.Chart
import Morphology.Proofs.Search.Gating
import Morphology.Proofs.Search.MorphResults

/-!
# Morphs of a text

The segmentation of a text finds morphs only, and all of them: wherever the text begins or a morph
ends, every morph that some rule finds there is in the chart, although rules are set aside and not
all of them are offered everywhere.
-/

namespace Morphology

/-- A morph rule, given by its number, finds a morph at a place of a text. -/
def Grammar.FindsMorph (grammar : Grammar) (text : List Char) (id place : Nat) (morph : Morph) :
    Prop :=
  ∃ rule morphs, grammar.rules.morphs[id]? = some rule ∧
    (rule.run text grammar.lexicon place).result = .ok morphs ∧ morph ∈ morphs

namespace Grammar.FindsMorph

variable {grammar : Grammar} {text : List Char} {id place : Nat} {morph : Morph}

theorem exists_way (h : grammar.FindsMorph text id place morph) :
    ∃ rule, grammar.rules.morphs[id]? = some rule ∧ morph.features.depth ≤ depthLimit ∧
      ∃ s ∈ rule.ways text grammar.lexicon place, s.morph? = some morph := by
  obtain ⟨rule, morphs, hrule, hrun, hmorph⟩ := h
  have hvalid := grammar.validate_morphRule (List.mem_of_getElem? hrule)
  exact ⟨rule, hrule, MorphRule.exists_way_of_mem hvalid hrun hmorph⟩

/-- A morph lies inside of the text, behind the place where it was found. -/
theorem placed (h : grammar.FindsMorph text id place morph) (hplace : place ≤ text.length) :
    place ≤ morph.stop ∧ morph.stop ≤ text.length := by
  obtain ⟨rule, -, -, s, hs, hend⟩ := h.exists_way
  obtain ⟨tag, -, rfl⟩ := Option.map_eq_some_iff.mp hend
  exact MorphRule.placed_of_mem_ways hplace hs

/-- A rule that finds a morph is offered at the place where it does. -/
theorem mem_candidates (h : grammar.FindsMorph text id place morph) :
    id ∈ (MorphIndex.ofRules grammar.rules.morphs).candidates
      (Segmentation.activeRules grammar text) text[place]? := by
  obtain ⟨rule, hrule, -, s, hs, -⟩ := h.exists_way
  exact MorphRule.mem_candidates_of_mem_ways hrule hs

end Grammar.FindsMorph

namespace Segmentation

variable {grammar : Grammar} {text : List Char}

/-- A node that a morph rule makes at a place. -/
def IsLeaf (grammar : Grammar) (text : List Char) (place : Nat) (node : Node) : Prop :=
  ∃ id morph, grammar.FindsMorph text id place morph ∧ node = Segmentation.node id place morph

theorem IsLeaf.placed {place : Nat} {node : Node} (h : IsLeaf grammar text place node)
    (hplace : place ≤ text.length) : place ≤ node.stop ∧ node.stop ≤ text.length := by
  obtain ⟨id, morph, hmorph, rfl⟩ := h
  exact hmorph.placed hplace

/-! ## Metering -/

theorem metered_tryRule (grammar : Grammar) (text : List Char) (place : Nat) (progress : Progress)
    (id : Nat) : (tryRule grammar text place progress id).Metered := by
  unfold tryRule
  split
  · exact Search.metered_pure _
  · exact Search.metered_step_bind
      ((MorphRule.metered_run _ text grammar.lexicon place).bind fun _ _ ↦ Search.metered_pure _)

theorem metered_visit (grammar : Grammar) (text : List Char) (index : MorphIndex)
    (active : List Nat) (progress : Progress) (place : Nat) :
    (visit grammar text index active progress place).Metered := by
  unfold visit
  split
  · exact Search.metered_foldlM (metered_tryRule grammar text place) _ _
  · exact Search.metered_pure _

theorem metered_run (grammar : Grammar) (text : List Char) : (run grammar text).Metered :=
  Search.metered_foldlM (metered_visit grammar text _ _) _ _

/-! ## One rule at one place -/

/-- What running a rule at a place does to the chart. -/
theorem chart_of_tryRule {place id : Nat} {progress after : Progress} {rule : MorphRule}
    (hrule : grammar.rules.morphs[id]? = some rule)
    (h : (tryRule grammar text place progress id).Yields after) :
    ∃ morphs, (rule.run text grammar.lexicon place).result = .ok morphs ∧
      after.chart = (progress.chart.insertAll (morphs.map (node id place))).2 := by
  rw [tryRule, hrule] at h
  obtain ⟨_, -, h⟩ := h.of_bind
  obtain ⟨morphs, hrun, h⟩ := h.of_bind
  obtain rfl := Search.yields_pure.mp h
  exact ⟨morphs, (rule.metered_run text grammar.lexicon place).yields_iff.mp hrun, rfl⟩

theorem tryRule_of_none {place id : Nat} {progress after : Progress}
    (hrule : grammar.rules.morphs[id]? = none)
    (h : (tryRule grammar text place progress id).Yields after) : after = progress := by
  rw [tryRule, hrule] at h
  exact (Search.yields_pure.mp h).symm

/-- The chart after some work at a place has the nodes it had, and others that are leaves there. -/
structure Grows (grammar : Grammar) (text : List Char) (place : Nat) (later chart : Chart) :
    Prop where
  extends_chart : later.Extends chart
  isLeaf : ∀ node ∈ later.nodes, node ∈ chart.nodes ∨ IsLeaf grammar text place node

theorem Grows.refl (place : Nat) (chart : Chart) : Grows grammar text place chart chart :=
  ⟨.refl chart, fun _ h ↦ .inl h⟩

theorem Grows.trans {place : Nat} {last later chart : Chart}
    (h : Grows grammar text place last later) (h' : Grows grammar text place later chart) :
    Grows grammar text place last chart where
  extends_chart := h.extends_chart.trans h'.extends_chart
  isLeaf node hnode := (h.isLeaf node hnode).elim (h'.isLeaf node) .inr

theorem grows_of_tryRule {place id : Nat} {progress after : Progress}
    (h : (tryRule grammar text place progress id).Yields after) :
    Grows grammar text place after.chart progress.chart := by
  cases hrule : grammar.rules.morphs[id]? with
  | none => exact tryRule_of_none hrule h ▸ .refl place after.chart
  | some rule =>
    obtain ⟨morphs, hrun, hchart⟩ := chart_of_tryRule hrule h
    rw [hchart]
    refine ⟨Chart.extends_insertAll _ _, fun node hnode ↦ ?_⟩
    refine (Chart.mem_nodes_insertAll hnode).imp_right fun hnew ↦ ?_
    obtain ⟨morph, hmorph, rfl⟩ := List.mem_map.mp hnew
    exact ⟨id, morph, ⟨rule, morphs, hrule, hrun, hmorph⟩, rfl⟩

/-! ## All rules at one place -/

theorem grows_of_tryRules {place : Nat} {ids : List Nat} {progress after : Progress}
    (h : (ids.foldlM (tryRule grammar text place) progress).Yields after) :
    Grows grammar text place after.chart progress.chart :=
  h.foldlM (fun p ↦ Grows grammar text place p.chart progress.chart)
    (fun _ _ _ _ hgrows hstep ↦ (grows_of_tryRule hstep).trans hgrows) (.refl place progress.chart)

/-- All rules that are tried at a place leave their morphs in the chart. -/
theorem mem_items_of_tryRules {place id : Nat} {morph : Morph} {ids : List Nat}
    {progress after : Progress} (h : (ids.foldlM (tryRule grammar text place) progress).Yields after)
    (hid : id ∈ ids) (hmorph : grammar.FindsMorph text id place morph) :
    (node id place morph).toItem ∈ after.chart.items := by
  induction ids generalizing progress with
  | nil => exact absurd hid List.not_mem_nil
  | cons first rest ih =>
    rw [List.foldlM_cons] at h
    obtain ⟨middle, hfirst, hrest⟩ := h.of_bind
    rcases List.mem_cons.mp hid with rfl | hid
    · obtain ⟨rule, morphs, hrule, hrun, hmem⟩ := hmorph
      obtain ⟨found, hfound, hchart⟩ := chart_of_tryRule hrule hfirst
      obtain rfl := Except.ok.inj (hrun.symm.trans hfound)
      refine (grows_of_tryRules hrest).extends_chart.mem_items ?_
      rw [hchart]
      exact Chart.mem_items_insertAll.mpr (.inr ⟨_, List.mem_map.mpr ⟨morph, hmem, rfl⟩, rfl⟩)
    · exact ih hrest hid

/-! ## All places -/

/-- The text starts or a node stops at a place. -/
def Visited (chart : Chart) (place : Nat) : Prop := place = 0 ∨ chart.reaches place

/-- The places before `bound` have been worked through: all nodes are leaves there, and where the
text starts or a node stops, no morph is missing. -/
structure Covers (grammar : Grammar) (text : List Char) (bound : Nat) (chart : Chart) : Prop where
  isLeaf : ∀ node ∈ chart.nodes, ∃ place, place < bound ∧ IsLeaf grammar text place node
  complete : ∀ place, place < bound → Visited chart place →
    ∀ id morph, grammar.FindsMorph text id place morph →
      (node id place morph).toItem ∈ chart.items

/-- Working at a place does not make an earlier place reachable. -/
theorem reaches_of_grows {place earlier : Nat} {later chart : Chart}
    (h : Grows grammar text place later chart) (hplace : place ≤ text.length)
    (hearlier : earlier < place) (hreaches : later.reaches earlier) : chart.reaches earlier := by
  obtain ⟨node, hnode, hstop⟩ := Chart.reaches_iff.mp hreaches
  rcases h.isLeaf node hnode with hold | hleaf
  · exact Chart.reaches_iff.mpr ⟨node, hold, hstop⟩
  · have hplaced := hleaf.placed hplace
    omega

theorem covers_of_visit {place : Nat} {progress after : Progress} (hplace : place ≤ text.length)
    (h : Covers grammar text place progress.chart)
    (hvisit : (visit grammar text (.ofRules grammar.rules.morphs) (activeRules grammar text)
      progress place).Yields after) : Covers grammar text (place + 1) after.chart := by
  unfold visit at hvisit
  split at hvisit
  next =>
    have hgrows := grows_of_tryRules hvisit
    constructor
    · intro node hnode
      rcases hgrows.isLeaf node hnode with hold | hleaf
      · obtain ⟨earlier, hearlier, hleaf⟩ := h.isLeaf node hold
        exact ⟨earlier, Nat.lt_succ_of_lt hearlier, hleaf⟩
      · exact ⟨place, Nat.lt_succ_self place, hleaf⟩
    · intro earlier hearlier hreached id morph hmorph
      rcases Nat.lt_succ_iff_lt_or_eq.mp hearlier with hlt | rfl
      · have hbefore : earlier = 0 ∨ progress.chart.reaches earlier :=
          hreached.imp_right (reaches_of_grows hgrows hplace hlt)
        exact hgrows.extends_chart.mem_items (h.complete earlier hlt hbefore id morph hmorph)
      · exact mem_items_of_tryRules hvisit hmorph.mem_candidates hmorph
  next hunreached =>
    obtain rfl := Search.yields_pure.mp hvisit
    constructor
    · intro node hnode
      obtain ⟨earlier, hearlier, hleaf⟩ := h.isLeaf node hnode
      exact ⟨earlier, Nat.lt_succ_of_lt hearlier, hleaf⟩
    · intro earlier hearlier hreached
      rcases Nat.lt_succ_iff_lt_or_eq.mp hearlier with hlt | rfl
      · exact h.complete earlier hlt hreached
      · simp only [Bool.or_eq_true, decide_eq_true_eq] at hunreached
        exact absurd hreached hunreached

/-- The segmentation of a text works through its places one after the other. -/
theorem covers_of_visits {bound : Nat} {progress : Progress} (hbound : bound ≤ text.length + 1)
    (h : ((List.range bound).foldlM (visit grammar text (.ofRules grammar.rules.morphs)
      (activeRules grammar text)) { chart := ∅ }).Yields progress) :
    Covers grammar text bound progress.chart := by
  induction bound generalizing progress with
  | zero =>
    obtain rfl := Search.yields_pure.mp h
    constructor
    · intro node hnode
      exact absurd hnode (Chart.not_mem_nodes_empty node)
    · exact fun place hplace ↦ absurd hplace (Nat.not_lt_zero place)
  | succ bound ih =>
    rw [List.range_succ, List.foldlM_append] at h
    obtain ⟨middle, hfirst, hlast⟩ := h.of_bind
    rw [List.foldlM_cons] at hlast
    obtain ⟨last, hvisit, hpure⟩ := hlast.of_bind
    obtain rfl := Search.yields_pure.mp hpure
    exact covers_of_visit (Nat.le_of_succ_le_succ hbound)
      (ih (Nat.le_of_succ_le hbound) hfirst) hvisit

theorem covers_of_run {progress : Progress} (h : (run grammar text).Yields progress) :
    Covers grammar text (text.length + 1) progress.chart :=
  covers_of_visits (Nat.le_refl _) h

/-- The nodes that a segmentation counts are those of its chart. -/
theorem produced_of_run {progress : Progress} (h : (run grammar text).Yields progress) :
    progress.counts.produced = progress.chart.size := by
  have hstep (before after : Progress) (place id : Nat)
      (hbefore : before.counts.produced = before.chart.size)
      (hafter : (tryRule grammar text place before id).Yields after) :
      after.counts.produced = after.chart.size := by
    unfold tryRule at hafter
    split at hafter
    · exact Search.yields_pure.mp hafter ▸ hbefore
    · obtain ⟨_, -, hafter⟩ := hafter.of_bind
      obtain ⟨morphs, -, hafter⟩ := hafter.of_bind
      obtain rfl := Search.yields_pure.mp hafter
      simp only [Chart.size_insertAll, hbefore]
  refine h.foldlM (fun progress ↦ progress.counts.produced = progress.chart.size) ?_ rfl
  intro before after place _ hbefore hvisit
  unfold visit at hvisit
  split at hvisit
  · exact hvisit.foldlM (fun progress ↦ progress.counts.produced = progress.chart.size)
      (fun before after id _ ↦ hstep before after place id) hbefore
  · exact Search.yields_pure.mp hvisit ▸ hbefore

/-- Where the segmentation fails, the structure of a morph is too deep. -/
theorem error_of_run {e : AnalysisError} (h : (run grammar text).result = .error e) :
    ∃ rule ∈ grammar.rules.morphs, e = .defectiveRule rule.name (.tooDeep depthLimit) := by
  obtain ⟨before, -, place, -, hvisit⟩ := Search.error_of_foldlM
    (metered_visit grammar text _ _) (fun _ ↦ True) (fun _ _ _ _ _ _ ↦ trivial) trivial h
  unfold visit at hvisit
  split at hvisit
  next =>
    obtain ⟨progress, -, id, -, htry⟩ := Search.error_of_foldlM
      (metered_tryRule grammar text place) (fun _ ↦ True) (fun _ _ _ _ _ _ ↦ trivial) trivial hvisit
    unfold tryRule at htry
    split at htry
    next => exact absurd htry nofun
    next rule hrule =>
      have hmem := List.mem_of_getElem? hrule
      have hmetered := rule.metered_run text grammar.lexicon place
      rw [Search.result_step_bind (hmetered.bind fun _ _ ↦ Search.metered_pure _)] at htry
      rcases Search.error_of_bind hmetered (fun _ _ ↦ Search.metered_pure _) htry with hrun | hrest
      · exact ⟨rule, hmem, MorphRule.error_of_run (grammar.validate_morphRule hmem) hrun⟩
      · obtain ⟨morphs, -, hpure⟩ := hrest
        exact absurd hpure nofun
  next => exact absurd hvisit nofun

end Segmentation

end Morphology
