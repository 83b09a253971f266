import Morphology.Proofs.Search.Justification
import Morphology.Search.Inheritance

/-!
# Inheritance of traits in a search

The structures that a search finds come from the rules and the lexicon of a grammar and from pieces
of the text. A trait that all of these have is therefore a trait of every structure of the chart.
-/

namespace Morphology

/-! ## Ways -/

/-- Whether nothing that an instruction brings along, readings and pieces of the text apart, is
without a trait. -/
def Instruction.Fits (trait : Trait) : Instruction → Prop
  | .unify features => trait.features features
  | .assign attr (.constant value) => trait.attr attr ∧ trait.value value
  | .assign attr (.capture _) => trait.attr attr
  | .assign attr .surface => trait.attr attr
  | .read _ => True
  | .openCapture _ => True
  | .closeCapture _ => True
  | .lookup _ => True
  | .tag _ => True
  | .choice _ => True

theorem Lexicon.mem_toList {lexicon : Lexicon} {stem : String} {reading : Reading}
    (h : reading ∈ lexicon.readings stem) : (stem, reading) ∈ lexicon.toList := by
  unfold readings at h
  rw [Std.TreeMap.getD_eq_getD_getElem?] at h
  cases hknown : lexicon.stems[stem]? with
  | none => simp [hknown] at h
  | some known =>
    rw [hknown, Option.getD_some] at h
    refine List.mem_flatMap.mpr ⟨(stem, known), ?_, List.mem_map.mpr ⟨reading, h, rfl⟩⟩
    exact Std.TreeMap.mem_toList_iff_getElem?_eq_some.mpr hknown

/-- All pieces of a text. -/
def pieces (text : List Char) : List String :=
  (List.range (text.length + 1)).flatMap fun start ↦
    (List.range (text.length + 1)).map fun length ↦ String.ofList ((text.drop start).take length)

theorem slice_mem_pieces (text : List Char) (start stop : Nat) :
    String.ofList (slice text start stop) ∈ pieces text := by
  have hslice : slice text start stop =
      (text.drop (min start text.length)).take (min (stop - start) text.length) := by
    unfold slice
    by_cases hstart : start ≤ text.length
    · rw [Nat.min_eq_left hstart, List.take_eq_take_iff, List.length_drop]
      omega
    · have hlarge : text.length ≤ start := by omega
      rw [Nat.min_eq_right hlarge, List.drop_eq_nil_of_le hlarge, List.drop_length]
      simp
  rw [hslice]
  refine List.mem_flatMap.mpr ⟨min start text.length, List.mem_range.mpr (by omega), ?_⟩
  exact List.mem_map.mpr ⟨min (stop - start) text.length, List.mem_range.mpr (by omega), rfl⟩

/-- Whatever a source stands for is a constant or a piece of the text. -/
theorem Execution.sourceValue_cases {e : Setting} {s : State} {source : Source} {value : Value}
    (h : sourceValue e s source = .ok value) :
    source = .constant value ∨ ∃ piece ∈ pieces e.text, value = .text piece := by
  cases source with
  | constant constant => exact .inl (congrArg _ (Except.ok.inj h))
  | surface => exact .inr ⟨_, slice_mem_pieces e.text _ _, (Except.ok.inj h).symm⟩
  | capture id =>
    obtain ⟨stem, hstem, rfl⟩ := exists_of_map_eq_ok h
    unfold State.captured at hstem
    split at hstem
    next start stop _ =>
      exact .inr ⟨_, Except.ok.inj hstem ▸ slice_mem_pieces e.text _ _, rfl⟩
    next => simp at hstem

namespace Trait

variable {trait : Trait} {text : List Char} {lexicon : Lexicon}

/-- An instruction passes a trait on, if it and the lexicon bring along nothing without it. -/
theorem preserves {e : Execution.Setting} {i : Instruction} (hfits : i.Fits trait)
    (hlexicon : ∀ entry ∈ e.lexicon.toList, trait.features entry.2.features)
    (htext : ∀ piece ∈ pieces e.text, trait.value (.text piece)) :
    Execution.Preserves e (fun s ↦ trait.features s.features) i := by
  intro hbasic s t hs ht
  cases Execution.leads_of_mem hbasic ht with
  | read | openCapture | closeCapture | tag => exact hs
  | lookup _ hreading hunify => exact unify hs (hlexicon _ (Lexicon.mem_toList hreading)) hunify
  | unify hunify => exact unify hs hfits hunify
  | @assign attr source _ _ hvalue hadd =>
    rcases Execution.sourceValue_cases hvalue with rfl | ⟨piece, hpiece, rfl⟩
    · exact add? hs hfits.1 hfits.2 hadd
    · have hattr : trait.attr attr := by
        cases source with
        | constant => exact hfits.1
        | capture | surface => exact hfits
      exact add? hs hattr (htext piece hpiece) hadd

theorem of_mem_ways {rule : MorphRule} {start : Nat}
    (hfits : ∀ i ∈ Instruction.basicsOfProgram rule.program, i.Fits trait)
    (hlexicon : ∀ entry ∈ lexicon.toList, trait.features entry.2.features)
    (htext : ∀ piece ∈ pieces text, trait.value (.text piece)) {s : Execution.State}
    (hs : s ∈ rule.ways text lexicon start) : trait.features s.features :=
  Execution.preserves_program (e := rule.setting text lexicon start) (s := rule.initial start)
    empty rule.program (fun i hi ↦ preserves (hfits i hi) hlexicon htext) hs

end Trait

/-! ## Charts -/

/-- Whether nothing that a grammar and a text bring along is without a trait. -/
structure Grammar.Fits (grammar : Grammar) (text : List Char) (trait : Trait) : Prop where
  instructions : ∀ rule ∈ grammar.rules.morphs,
    ∀ i ∈ Instruction.basicsOfProgram rule.program, i.Fits trait
  operations : ∀ rule ∈ grammar.rules.productions, ∀ op ∈ rule.operations, op.Fits trait
  readings : ∀ entry ∈ grammar.lexicon.toList, trait.features entry.2.features
  pieces : ∀ piece ∈ pieces text, trait.value (.text piece)

/-- The structures of a justified chart have every trait that the grammar and the text have. -/
theorem Grammar.Fits.of_justified {grammar : Grammar} {text : List Char} {trait : Trait}
    (hfits : grammar.Fits text trait) {chart : Chart} (h : chart.Justified grammar text) {id : Nat}
    {node : Node} (hnode : chart.get? id = some node) : trait.features node.features := by
  induction id using Nat.strongRecOn generalizing node with
  | _ id ih =>
    cases h id node hnode with
    | morph number origin_eq found start_le cuts_eq =>
      obtain ⟨rule, hrule, -, s, hs, hend⟩ := found.exists_way
      obtain ⟨tag, -, hmorph⟩ := Option.map_eq_some_iff.mp hend
      rw [← (Morph.mk.inj hmorph).2.1]
      exact Trait.of_mem_ways (hfits.instructions rule (List.mem_of_getElem? hrule)) hfits.readings
        hfits.pieces hs
    | production route rule nodes admits earlier made =>
      have hcombine := (Grammar.makes_of_admits admits made).1.combine_eq
      refine Trait.combine (fun features hfeatures ↦ ?_)
        (hfits.operations rule (List.mem_of_getElem? admits.rule_eq)) hcombine
      rw [List.map_map] at hfeatures
      obtain ⟨child, hchild, rfl⟩ := List.mem_map.mp hfeatures
      rw [← admits.lists.filterMap_eq] at hchild
      obtain ⟨number, hnumber, hget⟩ := List.mem_filterMap.mp hchild
      exact ih number (earlier number hnumber) hget

end Morphology
