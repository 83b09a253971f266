import Morphology.Proofs.Search.Segmentation

/-!
# Segmentation without shortcuts

A segmentation that runs every rule, in the order of the rules, at every place to which a chain of
adjacent morphs leads. The segmentation that is made sets rules aside and asks the chart which
places are worth a visit; it leaves the same nodes under the same numbers, or it fails in the same
way. Only its counts and its steps differ.
-/

namespace Morphology

namespace Segmentation

variable {grammar : Grammar} {text : List Char}

/-- The places to which a chain of adjacent morphs leads from the beginning of the text. -/
inductive Reachable (grammar : Grammar) (text : List Char) : Nat → Prop
  | beginning : Reachable grammar text 0
  | morph (id place : Nat) (morph : Morph) (reachable : Reachable grammar text place)
      (found : grammar.FindsMorph text id place morph) : Reachable grammar text morph.stop

/-- Runs a rule, given with its number, at a place and adds what it finds. -/
def plainTry (grammar : Grammar) (text : List Char) (place : Nat) (chart : Chart)
    (entry : MorphRule × Nat) : Except AnalysisError Chart :=
  (entry.1.run text grammar.lexicon place).result.map fun morphs ↦
    (chart.insertAll (morphs.map (node entry.2 place))).2

open Classical in
/-- Runs all rules at a place, if a chain of morphs leads there. -/
noncomputable def plainVisit (grammar : Grammar) (text : List Char) (chart : Chart) (place : Nat) :
    Except AnalysisError Chart :=
  if Reachable grammar text place then
    grammar.rules.morphs.zipIdx.foldlM (plainTry grammar text place) chart
  else .ok chart

/-- Runs all rules at all places to which a chain of morphs leads, and nothing else. -/
noncomputable def plainRun (grammar : Grammar) (text : List Char) : Except AnalysisError Chart :=
  (List.range (text.length + 1)).foldlM (plainVisit grammar text) ∅

/-! ## Rules that are not offered -/

/-- A rule that is not offered at a place finds nothing there, and does not fail there. -/
theorem result_run_of_not_mem_candidates {id place : Nat} {rule : MorphRule}
    (hrule : grammar.rules.morphs[id]? = some rule)
    (hid : id ∉ (MorphIndex.ofRules grammar.rules.morphs).candidates
      (activeRules grammar text) text[place]?) :
    (rule.run text grammar.lexicon place).result = .ok [] := by
  have hnone : rule.ways text grammar.lexicon place = [] := by
    apply List.eq_nil_iff_forall_not_mem.mpr
    intro s hs
    exact hid (MorphRule.mem_candidates_of_mem_ways hrule hs)
  rw [MorphRule.result_run (grammar.validate_morphRule (List.mem_of_getElem? hrule)), hnone]
  simp

/-- Trying some of the rules comes to the same as running all of them if the others find none. -/
theorem result_tryRules (place : Nat) (offered : MorphRule × Nat → Bool)
    {entries : List (MorphRule × Nat)}
    (hentries : ∀ entry ∈ entries, grammar.rules.morphs[entry.2]? = some entry.1)
    (hothers : ∀ entry ∈ entries, offered entry = false →
      (entry.1.run text grammar.lexicon place).result = .ok []) (progress : Progress) :
    (((entries.filter offered).map (·.2)).foldlM (tryRule grammar text place) progress).result.map
      (·.chart) = entries.foldlM (plainTry grammar text place) progress.chart := by
  induction entries generalizing progress with
  | nil => rfl
  | cons entry rest ih =>
    obtain ⟨hentry, hentries⟩ := List.forall_mem_cons.mp hentries
    obtain ⟨hother, hothers⟩ := List.forall_mem_cons.mp hothers
    rw [List.foldlM_cons]
    cases hoffered : offered entry with
    | false =>
      have htry : plainTry grammar text place progress.chart entry = .ok progress.chart := by
        rw [plainTry, hother hoffered]
        rfl
      rw [List.filter_cons_of_neg (by simp [hoffered]), ih hentries hothers, htry]
      rfl
    | true =>
      have hmetered := metered_tryRule grammar text place
      have hrun := entry.1.metered_run text grammar.lexicon place
      rw [List.filter_cons_of_pos hoffered, List.map_cons, List.foldlM_cons,
        (hmetered progress entry.2).result_bind fun p _ ↦ Search.metered_foldlM hmetered _ p]
      unfold tryRule plainTry
      simp only [hentry]
      rw [Search.result_step_bind (hrun.bind fun _ _ ↦ Search.metered_pure _),
        hrun.result_bind fun _ _ ↦ Search.metered_pure _]
      cases (entry.1.run text grammar.lexicon place).result with
      | error e => rfl
      | ok morphs => exact ih hentries hothers _

/-! ## Places that are visited -/

theorem Reachable.le_length {place : Nat} (h : Reachable grammar text place) :
    place ≤ text.length := by
  induction h with
  | beginning => exact Nat.zero_le _
  | morph id place morph _ found ih => exact (found.placed ih).2

/-- The places before `bound` have been worked through, and chains of morphs lead to all nodes. -/
structure Tracks (grammar : Grammar) (text : List Char) (bound : Nat) (chart : Chart) : Prop where
  covers : Covers grammar text bound chart
  reachable : ∀ node ∈ chart.nodes, Reachable grammar text node.start

namespace Tracks

variable {bound place : Nat} {chart : Chart}

theorem reachable_of_visited (h : Tracks grammar text bound chart) (hvisited : Visited chart place) :
    Reachable grammar text place := by
  rcases hvisited with rfl | hreaches
  · exact .beginning
  · obtain ⟨node, hnode, hstop⟩ := Chart.reaches_iff.mp hreaches
    obtain ⟨earlier, -, id, morph, hmorph, rfl⟩ := h.covers.isLeaf node hnode
    rw [← hstop]
    exact .morph id earlier morph (h.reachable _ hnode) hmorph

/-- Wherever a chain of morphs leads, the chart knows so in time. -/
theorem visited_of_reachable (h : Tracks grammar text bound chart)
    (hreachable : Reachable grammar text place) (hplace : place ≤ bound) : Visited chart place := by
  induction hreachable with
  | beginning => exact .inl rfl
  | morph id earlier morph reachable found ih =>
    have hbefore := (found.placed reachable.le_length).1
    -- An empty morph leads to where it starts, which may be the place whose turn it is.
    rcases Nat.lt_or_eq_of_le hbefore with hlt | heq
    · have hvisited := ih (Nat.le_trans hbefore hplace)
      have hmem := h.covers.complete earlier (Nat.lt_of_lt_of_le hlt hplace) hvisited id morph found
      obtain ⟨number, node, hnode, hitem⟩ := Chart.mem_items.mp hmem
      have hstop : node.stop = morph.stop := congrArg Item.stop hitem
      exact .inr (Chart.reaches_iff.mpr ⟨node, Chart.mem_nodes_iff.mpr ⟨number, hnode⟩, hstop⟩)
    · rw [← heq] at hplace ⊢
      exact ih hplace

/-- When it is the turn of a place, it is visited exactly if a chain of morphs leads to it. -/
theorem visited_iff (h : Tracks grammar text place chart) :
    Visited chart place ↔ Reachable grammar text place :=
  ⟨h.reachable_of_visited, fun hreachable ↦ h.visited_of_reachable hreachable (Nat.le_refl place)⟩

end Tracks

theorem tracks_of_visit {place : Nat} {progress after : Progress} (hplace : place ≤ text.length)
    (h : Tracks grammar text place progress.chart)
    (hvisit : (visit grammar text (.ofRules grammar.rules.morphs) (activeRules grammar text)
      progress place).Yields after) : Tracks grammar text (place + 1) after.chart := by
  refine ⟨covers_of_visit hplace h.covers hvisit, ?_⟩
  unfold visit at hvisit
  split at hvisit
  next hreached =>
    simp only [Bool.or_eq_true, decide_eq_true_eq] at hreached
    intro node hnode
    rcases (grows_of_tryRules hvisit).isLeaf node hnode with hold | ⟨id, morph, -, rfl⟩
    · exact h.reachable node hold
    · exact h.reachable_of_visited hreached
  next =>
    obtain rfl := Search.yields_pure.mp hvisit
    exact h.reachable

/-- A visit does what running all rules does. -/
theorem result_visit {place : Nat} {progress : Progress}
    (h : Tracks grammar text place progress.chart) :
    (visit grammar text (.ofRules grammar.rules.morphs) (activeRules grammar text)
      progress place).result.map (·.chart) = plainVisit grammar text progress.chart place := by
  have hvisited := h.visited_iff
  unfold visit plainVisit
  by_cases hreachable : Reachable grammar text place
  · have hreached : place = 0 ∨ progress.chart.reaches place := hvisited.mpr hreachable
    rw [if_pos hreachable, if_pos (by simpa using hreached)]
    have hsorted := MorphIndex.pairwise_candidates grammar.rules.morphs (activeRules grammar text)
      text[place]?
    rw [eq_map_filter_zipIdx hsorted fun id ↦ MorphIndex.exists_rule_of_mem_candidates]
    apply result_tryRules
    · intro entry hentry
      exact List.mem_zipIdx_iff_getElem?.mp hentry
    · intro entry hentry hoffered
      apply result_run_of_not_mem_candidates (List.mem_zipIdx_iff_getElem?.mp hentry)
      intro hid
      exact absurd ((List.contains_iff_mem.mpr hid).symm.trans hoffered) nofun
  · have hunreached : ¬ (place = 0 ∨ progress.chart.reaches place) :=
      fun hreached ↦ hreachable (hvisited.mp hreached)
    rw [if_neg hreachable, if_neg (by simpa using hunreached), Search.result_pure]
    rfl

theorem tracks_empty : Tracks grammar text 0 ∅ where
  covers :=
    { isLeaf := fun node hnode ↦ absurd hnode (Chart.not_mem_nodes_empty node)
      complete := fun place hplace ↦ absurd hplace (Nat.not_lt_zero place) }
  reachable node hnode := absurd hnode (Chart.not_mem_nodes_empty node)

/-- Working through the places one after the other does what running all rules does. -/
theorem result_visits {bound : Nat} (hbound : bound ≤ text.length + 1) :
    ((List.range bound).foldlM (visit grammar text (.ofRules grammar.rules.morphs)
        (activeRules grammar text)) { chart := ∅ }).result.map (·.chart) =
      (List.range bound).foldlM (plainVisit grammar text) ∅ ∧
    ∀ progress, ((List.range bound).foldlM (visit grammar text (.ofRules grammar.rules.morphs)
      (activeRules grammar text)) { chart := ∅ }).result = .ok progress →
        Tracks grammar text bound progress.chart := by
  have hmetered := metered_visit grammar text (.ofRules grammar.rules.morphs)
    (activeRules grammar text)
  induction bound with
  | zero =>
    refine ⟨rfl, fun progress h ↦ ?_⟩
    obtain rfl := Except.ok.inj h
    exact tracks_empty
  | succ bound ih =>
    have hplace : bound ≤ text.length := Nat.le_of_succ_le_succ hbound
    obtain ⟨hresult, htracks⟩ := ih (Nat.le_of_succ_le hbound)
    have hfirst := Search.metered_foldlM hmetered (List.range bound) { chart := ∅ }
    simp only [List.range_succ, List.foldlM_append, List.foldlM_cons, List.foldlM_nil, bind_pure]
    rw [hfirst.result_bind fun progress _ ↦ hmetered progress bound, ← hresult]
    cases hbefore : ((List.range bound).foldlM (visit grammar text (.ofRules grammar.rules.morphs)
        (activeRules grammar text)) { chart := ∅ }).result with
    | error e => exact ⟨rfl, fun progress h ↦ absurd h nofun⟩
    | ok progress =>
      have hprogress := htracks progress hbefore
      refine ⟨result_visit hprogress, fun after h ↦ ?_⟩
      exact tracks_of_visit hplace hprogress ((hmetered progress bound).yields_iff.mpr h)

/-- Setting rules aside, and asking the chart for the places to visit, changes nothing about the
nodes that are found and about the error in which a segmentation ends. A rule that is set aside
would have found nothing. -/
theorem run_eq_plainRun (grammar : Grammar) (text : List Char) :
    (run grammar text).result.map (·.chart) = plainRun grammar text ∧
      ∀ (id place : Nat) (rule : MorphRule), grammar.rules.morphs[id]? = some rule →
        id ∉ (MorphIndex.ofRules grammar.rules.morphs).candidates
          (activeRules grammar text) text[place]? →
        (rule.run text grammar.lexicon place).result = .ok [] :=
  ⟨(result_visits (Nat.le_refl _)).1, fun _ _ _ ↦ result_run_of_not_mem_candidates⟩

end Segmentation

end Morphology
