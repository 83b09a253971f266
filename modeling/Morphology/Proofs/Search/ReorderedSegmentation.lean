import Morphology.Listable
import Morphology.Proofs.Grammar.Reordering
import Morphology.Proofs.Search.Agreement
import Morphology.Proofs.Search.Segmentation

/-!
# Segmentation with reordered grammars

Grammars that differ only in the order of their rules and readings find the same morphs in a text,
with the same work. They find them in different orders, so that the nodes have other numbers, and
where several rules find the same item another one of them may be noted as its origin.
-/

namespace Morphology

/-! ## Morph rules -/

namespace Execution

mutual

theorem agree_runInstruction {e : Setting} {lexicon : Lexicon}
    {next next' : State → Search (List Morph)}
    (hreadings : ∀ stem, (e.lexicon.readings stem).Perm (lexicon.readings stem)) (s : State)
    (hnext : ∀ t, Search.Agree List.Perm (next t) (next' t)) : ∀ i,
      Search.Agree List.Perm (runInstruction e s next i)
        (runInstruction { e with lexicon } s next' i)
  | .read pattern => by
    rw [runInstruction, runInstruction]
    exact (agree_inTurn_perm (List.Perm.refl _) hnext).step
  | .openCapture id => by
    rw [runInstruction, runInstruction]
    exact (hnext _).step
  | .closeCapture id => by
    rw [runInstruction, runInstruction]
    apply Search.Agree.step
    apply (Search.metered_orFail _ _).agree_refl.bind
    intro t t' _ _ heq
    exact heq ▸ hnext t
  | .lookup id => by
    rw [runInstruction, runInstruction]
    apply Search.Agree.step
    apply (Search.metered_orFail _ _).agree_refl.bind
    intro stem stem' _ _ heq
    subst heq
    exact agree_inTurn_perm ((hreadings _).filterMap _) hnext
  | .unify features => by
    rw [runInstruction, runInstruction]
    exact (agree_inTurn_perm (List.Perm.refl _) hnext).step
  | .assign attr source => by
    rw [runInstruction, runInstruction]
    apply Search.Agree.step
    apply (Search.metered_orFail _ _).agree_refl.bind
    intro value value' _ _ heq
    subst heq
    exact agree_inTurn_perm (List.Perm.refl _) hnext
  | .tag symbol => by
    rw [runInstruction, runInstruction]
    exact (hnext _).step
  | .choice branches => by
    rw [runInstruction, runInstruction]
    exact (agree_runBranches hreadings s hnext branches).step

theorem agree_runProgram {e : Setting} {lexicon : Lexicon}
    {next next' : State → Search (List Morph)}
    (hreadings : ∀ stem, (e.lexicon.readings stem).Perm (lexicon.readings stem)) (s : State)
    (hnext : ∀ t, Search.Agree List.Perm (next t) (next' t)) : ∀ program,
      Search.Agree List.Perm (runProgram e s next program)
        (runProgram { e with lexicon } s next' program)
  | [] => by
    rw [runProgram, runProgram]
    exact hnext s
  | i :: rest => by
    rw [runProgram, runProgram]
    exact agree_runInstruction hreadings s (fun t ↦ agree_runProgram hreadings t hnext rest) i

theorem agree_runBranches {e : Setting} {lexicon : Lexicon}
    {next next' : State → Search (List Morph)}
    (hreadings : ∀ stem, (e.lexicon.readings stem).Perm (lexicon.readings stem)) (s : State)
    (hnext : ∀ t, Search.Agree List.Perm (next t) (next' t)) : ∀ branches,
      Search.Agree List.Perm (runBranches e s next branches)
        (runBranches { e with lexicon } s next' branches)
  | [] => by
    rw [runBranches, runBranches]
    exact Search.agree_pure (List.Perm.refl [])
  | branch :: rest => by
    rw [runBranches, runBranches]
    apply (agree_runProgram hreadings s hnext branch).bind
    intro found found' _ _ hfound
    apply (agree_runBranches hreadings s hnext rest).bind
    intro more more' _ _ hmore
    exact Search.agree_pure (hfound.append hmore)

end

end Execution

/-- A rule finds the same morphs with the same work when the readings of stems come in other
orders. -/
theorem MorphRule.agree_run (rule : MorphRule) (text : List Char) {lexicon other : Lexicon}
    (hreadings : ∀ stem, (lexicon.readings stem).Perm (other.readings stem)) (place : Nat) :
    Search.Agree List.Perm (rule.run text lexicon place) (rule.run text other place) := by
  apply Execution.agree_runProgram (e := rule.setting text lexicon place) hreadings
  intro s
  apply (Execution.metered_finish (rule.setting text lexicon place) s).agree_refl.mono
  intro found found' heq
  exact heq ▸ List.Perm.refl found

/-! ## Charts -/

namespace Chart

variable {chart other : Chart} {nodes others : List Node}

/-- Charts with the same items keep having the same items when nodes with the same items are added
to them, and as many of these are new. -/
theorem perm_items_insertAll (hchart : chart.items.Perm other.items)
    (hnodes : SameUnder Node.toItem Node.toItem nodes others) :
    (chart.insertAll nodes).2.items.Perm (other.insertAll others).2.items ∧
      (chart.insertAll nodes).1 = (other.insertAll others).1 := by
  have hitems : (chart.insertAll nodes).2.items.Perm (other.insertAll others).2.items := by
    apply (List.perm_ext_iff_of_nodup (nodup_items _) (nodup_items _)).mpr
    intro item
    have hadded : item ∈ nodes.map Node.toItem ↔ item ∈ others.map Node.toItem :=
      List.Perm.mem_iff hnodes
    rw [List.mem_map, List.mem_map] at hadded
    rw [mem_items_insertAll, mem_items_insertAll, hchart.mem_iff, hadded]
  refine ⟨hitems, ?_⟩
  have hsize := hitems.length_eq
  have hbefore := hchart.length_eq
  rw [length_items, length_items, size_insertAll, size_insertAll] at hsize
  rw [length_items, length_items] at hbefore
  omega

theorem reaches_eq (hchart : chart.items.Perm other.items) (place : Nat) :
    chart.reaches place = other.reaches place := by
  have hstops (chart : Chart) : chart.reaches place = chart.items.any (·.stop == place) := by
    unfold reaches items
    rw [List.any_map, ← Array.any_toList]
    rfl
  rw [hstops, hstops, hchart.any_eq]

end Chart

namespace Segmentation

variable {a b : Grammar} {text : List Char} {place : Nat}

/-- The nodes that a rule finds at a place. -/
def leavesAt (grammar : Grammar) (text : List Char) (place id : Nat) : Search (List Node) :=
  match grammar.rules.morphs[id]? with
  | none => pure []
  | some rule => do
    Search.step
    return (← rule.run text grammar.lexicon place).map (node id place)

theorem metered_leavesAt (grammar : Grammar) (text : List Char) (place id : Nat) :
    (leavesAt grammar text place id).Metered := by
  unfold leavesAt
  split
  · exact Search.metered_pure _
  · exact Search.metered_step_bind
      (Search.metered_map (MorphRule.metered_run _ text grammar.lexicon place) _)

/-- Trying rules one after the other is finding all their nodes and adding them. -/
theorem foldlM_tryRule {grammar : Grammar} {ids : List Nat}
    (hids : ∀ id ∈ ids, ∃ rule, grammar.rules.morphs[id]? = some rule) (progress : Progress) :
    ids.foldlM (tryRule grammar text place) progress = do
      let found ← Execution.inTurn (leavesAt grammar text place) ids
      let (new, chart) := progress.chart.insertAll found
      return { chart, counts := { progress.counts with
        attempts := progress.counts.attempts + ids.length
        produced := progress.counts.produced + new } } := by
  induction ids generalizing progress with
  | nil => simp [Execution.inTurn, Chart.insertAll]
  | cons id rest ih =>
    obtain ⟨⟨rule, hrule⟩, hrest⟩ := List.forall_mem_cons.mp hids
    rw [List.foldlM_cons, tryRule, Execution.inTurn, leavesAt, hrule]
    simp only [bind_assoc, pure_bind, ih hrest, Chart.insertAll_append, List.length_cons,
      Nat.add_assoc, Nat.add_comm 1]

/-- Two segmentations have found the same items with the same work. -/
structure Alike (p q : Progress) : Prop where
  items : p.chart.items.Perm q.chart.items
  counts : p.counts = q.counts

variable (h : a.Reorders b)
include h

theorem agree_leavesAt {id number : Nat} (hrule : a.rules.morphs[id]? = b.rules.morphs[number]?) :
    Search.Agree (SameUnder Node.toItem Node.toItem) (leavesAt a text place id)
      (leavesAt b text place number) := by
  unfold leavesAt
  rw [hrule]
  cases b.rules.morphs[number]? with
  | none => exact Search.agree_pure (List.Perm.refl [])
  | some rule =>
    apply Search.Agree.step
    apply (rule.agree_run text h.perm_readings place).bind
    intro morphs morphs' _ _ hmorphs
    apply Search.agree_pure
    unfold SameUnder
    rw [List.map_map, List.map_map]
    exact hmorphs.map fun morph ↦ (node id place morph).toItem

/-- A rule that is offered in one grammar is offered in the other. -/
theorem exists_candidate {id : Nat} {next : Option Char}
    (hid : id ∈ (MorphIndex.ofRules a.rules.morphs).candidates (activeRules a text) next) :
    ∃ number ∈ (MorphIndex.ofRules b.rules.morphs).candidates (activeRules b text) next,
      b.rules.morphs[number]? = a.rules.morphs[id]? := by
  obtain ⟨hactive, rule, hrule, hfirst⟩ := MorphIndex.mem_candidates.mp hid
  obtain ⟨rule', hrule', hadmits⟩ := MorphRule.mem_activeRules.mp hactive
  obtain rfl : rule = rule' := Option.some.inj (hrule.symm.trans hrule')
  obtain ⟨number, hnumber⟩ :=
    List.mem_iff_getElem?.mp (h.morphs_perm.mem_iff.mp (List.mem_of_getElem? hrule))
  refine ⟨number, ?_, hnumber.trans hrule.symm⟩
  exact MorphIndex.mem_candidates.mpr
    ⟨MorphRule.mem_activeRules.mpr ⟨rule, hnumber, hadmits⟩, rule, hnumber, hfirst⟩

/-- Both grammars offer the same rules. -/
theorem sameUnder_candidates (text : List Char) (next : Option Char) :
    SameUnder (a.rules.morphs[·]?) (b.rules.morphs[·]?)
      ((MorphIndex.ofRules a.rules.morphs).candidates (activeRules a text) next)
      ((MorphIndex.ofRules b.rules.morphs).candidates (activeRules b text) next) := by
  have hnodup (grammar : Grammar) : ((MorphIndex.ofRules grammar.rules.morphs).candidates
      (activeRules grammar text) next).Nodup :=
    (MorphIndex.pairwise_candidates grammar.rules.morphs _ next).imp Nat.ne_of_lt
  -- Rules have different names, so that a rule has one number in each of the grammars.
  have hkey (grammar : Grammar) (id : Nat)
      (hid : id ∈ (MorphIndex.ofRules grammar.rules.morphs).candidates
        (activeRules grammar text) next) (number : Nat)
      (hsame : grammar.rules.morphs[id]? = grammar.rules.morphs[number]?) : id = number := by
    obtain ⟨rule, hrule⟩ := MorphIndex.exists_rule_of_mem_candidates hid
    exact eq_of_getElem?_eq grammar.nodup_morphs hrule (hsame.symm.trans hrule)
  apply sameUnder_of_keys (hnodup a) (hnodup b) (fun id hid number _ ↦ hkey a id hid number)
    fun id hid number _ ↦ hkey b id hid number
  · intro id hid
    exact exists_candidate h hid
  · intro id hid
    exact exists_candidate h.symm hid

/-- A place is reached, and is visited with the same work, in one grammar as in the other. -/
theorem agree_visit {p q : Progress} (hpq : Alike p q) :
    Search.Agree Alike
      (visit a text (.ofRules a.rules.morphs) (activeRules a text) p place)
      (visit b text (.ofRules b.rules.morphs) (activeRules b text) q place) := by
  have hcandidates := sameUnder_candidates h text text[place]?
  unfold visit
  rw [Chart.reaches_eq hpq.items]
  split
  · rw [foldlM_tryRule fun id ↦ MorphIndex.exists_rule_of_mem_candidates,
      foldlM_tryRule fun id ↦ MorphIndex.exists_rule_of_mem_candidates]
    apply (Execution.agree_inTurn (metered_leavesAt b text place) hcandidates
      fun id _ number _ hrule ↦ agree_leavesAt h hrule).bind
    intro found found' _ _ hfound
    obtain ⟨hitems, hproduced⟩ := Chart.perm_items_insertAll hpq.items hfound
    have hattempts := List.Perm.length_eq hcandidates
    rw [List.length_map, List.length_map] at hattempts
    apply Search.agree_pure
    refine ⟨hitems, ?_⟩
    simp only [hpq.counts, hproduced, hattempts]
  · exact Search.agree_pure hpq

/-- Both grammars find the same morphs in a text, with the same work. -/
theorem agree_run (text : List Char) : Search.Agree Alike (run a text) (run b text) := by
  unfold run
  apply Search.agree_foldlM
  · intro p q place _ hpq
    exact agree_visit h hpq
  · exact ⟨List.Perm.refl _, rfl⟩

end Segmentation

end Morphology
