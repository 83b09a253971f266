import Morphology.Proofs.Grammar.Validity
import Morphology.Proofs.Search.Flow

/-!
# Results of morph rules

A valid rule finds one morph at the end of each of its ways, in their order, unless the structure
of one of them is too deep.
-/

namespace Morphology

namespace Execution

/-- The morph that a way ends with. -/
def State.morph? (s : State) : Option Morph :=
  s.tag.map fun tag ↦ { stop := s.position, features := s.features, tag }

theorem result_finish {e : Setting} {s : State} (h : s.tag.isSome) :
    (finish e s).result =
      if s.features.depth ≤ depthLimit then .ok s.morph?.toList
      else .error (.defectiveRule e.rule (.tooDeep depthLimit)) := by
  obtain ⟨tag, htag⟩ := Option.isSome_iff_exists.mp h
  have hmorph : s.morph? = some { stop := s.position, features := s.features, tag } := by
    rw [State.morph?, htag]
    rfl
  unfold finish
  simp only [htag]
  by_cases hdeep : depthLimit < s.features.depth
  · rw [if_pos hdeep, if_neg (Nat.not_le.mpr hdeep),
      Search.result_step_bind (Search.metered_fail _ _), Search.result_fail]
  · rw [if_neg hdeep, if_pos (Nat.not_lt.mp hdeep), hmorph,
      Search.result_step_bind (Search.metered_pure _), Search.result_pure]
    rfl

theorem result_inTurn_finish {e : Setting} {l : List State} (h : ∀ s ∈ l, s.tag.isSome) :
    (inTurn (finish e) l).result =
      if ∀ s ∈ l, s.features.depth ≤ depthLimit then .ok (l.filterMap State.morph?)
      else .error (.defectiveRule e.rule (.tooDeep depthLimit)) := by
  induction l with
  | nil => simp [inTurn]
  | cons s rest ih =>
    have hrest := ih fun t ht ↦ h t (List.mem_cons_of_mem s ht)
    have hs := h s List.mem_cons_self
    rw [result_inTurn_cons fun t _ ↦ metered_finish e t, result_finish hs, hrest]
    by_cases hdeep : s.features.depth ≤ depthLimit
    · by_cases hall : ∀ t ∈ rest, t.features.depth ≤ depthLimit
      · have hcons : ∀ t ∈ s :: rest, t.features.depth ≤ depthLimit :=
          List.forall_mem_cons.mpr ⟨hdeep, hall⟩
        rw [if_pos hdeep, if_pos hall, if_pos hcons, List.filterMap_cons]
        cases s.morph? <;> rfl
      · have hcons : ¬ ∀ t ∈ s :: rest, t.features.depth ≤ depthLimit :=
          fun hcons ↦ hall (List.forall_mem_cons.mp hcons).2
        rw [if_pos hdeep, if_neg hall, if_neg hcons]
        rfl
    · have hcons : ¬ ∀ t ∈ s :: rest, t.features.depth ≤ depthLimit :=
        fun hcons ↦ hdeep (List.forall_mem_cons.mp hcons).1
      rw [if_neg hdeep, if_neg hcons]
      rfl

end Execution

namespace MorphRule

variable {table : SymbolTable} {rule : MorphRule} {text : List Char} {lexicon : Lexicon}
  {start : Nat}

theorem checkFlow_of_validate (h : rule.validate table = .ok ()) :
    Flow.check rule.program rule.tag.isSome = .ok () := by
  unfold validate at h
  cases hrefs : Reference.checkAll table 0 (rule.symbols.map .symbol) with
  | error defect => simp [hrefs, bind, Except.bind] at h
  | ok => simpa [hrefs, bind, Except.bind] using h

/-- The ways of a valid rule end with a tag, and running the rule is ending each of them. -/
theorem simulates_run (h : rule.validate table = .ok ()) :
    (∀ s ∈ rule.ways text lexicon start, s.tag.isSome) ∧
      (rule.run text lexicon start).result =
        (Execution.inTurn (Execution.finish (rule.setting text lexicon start))
          (rule.ways text lexicon start)).result := by
  have hcheck := checkFlow_of_validate h
  have hinitial : ({ tagged := rule.tag.isSome } : Flow).Describes text (rule.initial start) :=
    ⟨fun _ hid ↦ absurd hid List.not_mem_nil, fun _ hid ↦ absurd hid List.not_mem_nil, id⟩
  let e := rule.setting text lexicon start
  rw [Flow.check] at hcheck
  cases hexit : ({ tagged := rule.tag.isSome } : Flow).afterProgram rule.program with
  | error defect => simp [hexit] at hcheck
  | ok exit =>
    have hsim := Flow.simulates_program (e := e) (Execution.metered_finish e) hinitial
      rule.program hexit
    refine ⟨fun s hs ↦ ?_, hsim.2⟩
    obtain ⟨flow, rfl, hdescribes⟩ := hsim.1 s hs
    refine hdescribes.tagged ?_
    simpa [hexit] using hcheck

/-- What a valid rule finds: the morphs of its ways, unless one of them is too deep. -/
theorem result_run (h : rule.validate table = .ok ()) :
    (rule.run text lexicon start).result =
      if ∀ s ∈ rule.ways text lexicon start, s.features.depth ≤ depthLimit then
        .ok ((rule.ways text lexicon start).filterMap Execution.State.morph?)
      else .error (.defectiveRule rule.name (.tooDeep depthLimit)) := by
  obtain ⟨htagged, hresult⟩ := simulates_run h
  rw [hresult, Execution.result_inTurn_finish htagged]
  rfl

/-- A morph that was found is the end of a way, and it is not too deep. -/
theorem exists_way_of_mem (h : rule.validate table = .ok ()) {morphs : List Morph} {morph : Morph}
    (hrun : (rule.run text lexicon start).result = .ok morphs) (hmorph : morph ∈ morphs) :
    morph.features.depth ≤ depthLimit ∧
      ∃ s ∈ rule.ways text lexicon start, s.morph? = some morph := by
  rw [result_run h] at hrun
  split at hrun
  next hshallow =>
    obtain rfl := Except.ok.inj hrun
    obtain ⟨s, hs, hend⟩ := List.mem_filterMap.mp hmorph
    obtain ⟨tag, -, rfl⟩ := Option.map_eq_some_iff.mp hend
    exact ⟨hshallow s hs, s, hs, hend⟩
  next => exact absurd hrun nofun

/-- The only error of a valid rule is that a structure is too deep. -/
theorem error_of_run (h : rule.validate table = .ok ()) {error : AnalysisError}
    (hrun : (rule.run text lexicon start).result = .error error) :
    error = .defectiveRule rule.name (.tooDeep depthLimit) := by
  rw [result_run h] at hrun
  split at hrun
  · exact absurd hrun nofun
  · exact (Except.error.inj hrun).symm

end MorphRule

end Morphology
