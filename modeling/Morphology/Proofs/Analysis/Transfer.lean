import Morphology.Proofs.Analysis.Depth

/-!
# Transfer between searches

Two searches, with grammars and texts of their own, can be compared by the ways that their rules go.
If the ways of the first one that end before some place are ways of the second one as well, then
whatever the first one can derive up to that place can be derived in the second one. The order of
rules, the places that are visited and the numbers of nodes play no part in this.
-/

namespace Morphology.Grammar

/-- Up to a place, the rules of one grammar are used in one text just as those of another grammar
can be used in another text. -/
structure Transfers (a b : Grammar) (text text' : List Char) (bound : Nat) : Prop where
  morphs : ∀ rule ∈ a.rules.morphs, rule ∈ b.rules.morphs
  productions : ∀ rule ∈ a.rules.productions, rule ∈ b.rules.productions
  ways : ∀ rule ∈ a.rules.morphs, ∀ place, ∀ s ∈ rule.ways text a.lexicon place,
    s.position ≤ bound → s ∈ rule.ways text' b.lexicon place

namespace Transfers

variable {a b : Grammar} {text text' : List Char} {bound place : Nat}

/-- A morph that is found up to the place is found in the other search, if this gets to where the
morph starts. -/
theorem exists_findsMorph (h : a.Transfers b text text' bound) (hb : b.Shallow text')
    (hplace : Segmentation.Reachable b text' place) {id : Nat} {morph : Morph}
    (found : a.FindsMorph text id place morph) (hstop : morph.stop ≤ bound) :
    ∃ number, b.FindsMorph text' number place morph := by
  obtain ⟨rule, hid, -, s, hs, hend⟩ := found.exists_way
  have hrule := List.mem_of_getElem? hid
  have hposition : s.position ≤ bound := by
    obtain ⟨tag, -, rfl⟩ := Option.map_eq_some_iff.mp hend
    exact hstop
  have hway := h.ways rule hrule place s hs hposition
  have hvalid := b.validate_morphRule (h.morphs rule hrule)
  have hshallow := hb.ways place hplace rule (h.morphs rule hrule)
  obtain ⟨number, hnumber⟩ := List.mem_iff_getElem?.mp (h.morphs rule hrule)
  refine ⟨number, rule, _, hnumber, (MorphRule.result_run hvalid).trans (if_pos hshallow), ?_⟩
  exact List.mem_filterMap.mpr ⟨s, hway, hend⟩

theorem reachable (h : a.Transfers b text text' bound) (hb : b.Shallow text')
    (hplace : Segmentation.Reachable a text place) (hbound : place ≤ bound) :
    Segmentation.Reachable b text' place := by
  induction hplace with
  | beginning => exact .beginning
  | morph id earlier morph reachable found ih =>
    have hearlier : earlier ≤ bound :=
      Nat.le_trans (found.placed reachable.le_length).1 hbound
    have hreachable := ih hearlier
    obtain ⟨number, hfound⟩ := h.exists_findsMorph hb hreachable found hbound
    exact .morph number earlier morph hreachable hfound

/-- What can be derived up to the place can be derived in the other search, if a chain of morphs
leads to where it starts. -/
theorem derivable (h : a.Transfers b text text' bound) (hb : b.Shallow text') {item : Item}
    (hitem : a.Derivable text item) (hstart : Segmentation.Reachable a text item.start)
    (hstop : item.stop ≤ bound) : b.Derivable text' item := by
  induction hitem with
  | morph rule place morph place_le found =>
    have hplace : place ≤ bound := Nat.le_trans (found.placed place_le).1 hstop
    have hreachable := h.reachable hb hstart hplace
    obtain ⟨number, hfound⟩ := h.exists_findsMorph hb hreachable found hstop
    exact .morph number place morph hreachable.le_length hfound
  | production rule children item rule_mem derivable makes ih =>
    have hstarts := (makes.adjacent.chain hstart fun child hchild ↦
      (derivable child hchild).reachable_stop).1
    have hstops := (makes.adjacent.stop_le fun child hchild ↦ (derivable child hchild).start_le).2
    refine .production rule children item (h.productions rule rule_mem) (fun child hchild ↦ ?_) makes
    exact ih child hchild (hstarts child hchild) (Nat.le_trans (hstops child hchild) hstop)

/-- What the one search finds up to the place is found by the other one. -/
theorem found (h : a.Transfers b text text' bound) (hb : b.Shallow text') {item : Item}
    (hitem : a.Derivable text item ∧ Segmentation.Reachable a text item.start)
    (hstop : item.stop ≤ bound) :
    b.Derivable text' item ∧ Segmentation.Reachable b text' item.start := by
  have hstart := Nat.le_trans hitem.1.start_le hstop
  exact ⟨h.derivable hb hitem.1 hitem.2 hstop, h.reachable hb hitem.2 hstart⟩

/-- If the other search is nowhere too deep, neither is the one whose whole text is transferred. -/
theorem shallow (h : a.Transfers b text text' bound) (hb : b.Shallow text')
    (hbound : text.length ≤ bound) : a.Shallow text where
  ways place hplace rule hrule s hs := by
    have hposition := (MorphRule.placed_of_mem_ways hplace.le_length hs).2
    have hreachable := h.reachable hb hplace (Nat.le_trans hplace.le_length hbound)
    exact hb.ways place hreachable rule (h.morphs rule hrule) s
      (h.ways rule hrule place s hs (Nat.le_trans hposition hbound))
  items item hitem hstart := by
    have hstop := Nat.le_trans (hitem.reachable_stop hstart).le_length hbound
    have hreachable := h.reachable hb hstart (Nat.le_trans hitem.start_le hstop)
    exact hb.items item (h.derivable hb hitem hstart hstop) hreachable

end Transfers

end Morphology.Grammar
