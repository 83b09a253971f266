import Mathlib.Data.List.Sort
import Mathlib.Logic.Function.Basic
import Morphology.Proofs.Rule.TextPattern
import Morphology.Proofs.Search.Gating
import Morphology.Proofs.Search.MorphResults
import Morphology.Proofs.Search.Threads

/-!
# Meaning of programs

What a program means, said without the way it is carried out: an ordered list of final states. A
pattern is read once for every end of a stretch in its language, the nearest first; a lookup goes on
once for every reading that fits; a choice goes on with each of its branches followed by the rest.
Captures are known by their numbers alone. The ways of an execution end in exactly these states.
-/

namespace Morphology

/-! ## Languages of patterns -/

namespace TextPattern

/-- Whether a number of characters is within bounds, of which the upper one may be missing. -/
def Between (min : Nat) (max : Option Nat) (n : Nat) : Prop :=
  min ≤ n ∧ max.all (n ≤ ·)

instance (min : Nat) (max : Option Nat) (n : Nat) : Decidable (Between min max n) :=
  inferInstanceAs (Decidable (_ ∧ _))

/-- Whether a stretch of a text is in the language of a pattern. -/
def InLanguage (text : List Char) (start stop : Nat) : TextPattern → Prop
  | literal word => slice text start stop = word
  | run cls min max =>
    Between min max (stop - start) ∧ ∀ c ∈ slice text start stop, cls.contains c
  | any min max => Between min max (stop - start)
  | regex r => stop - start ∈ r.prefixLengths (text.drop start)

instance (text : List Char) (start stop : Nat) :
    (pattern : TextPattern) → Decidable (pattern.InLanguage text start stop)
  | literal word => inferInstanceAs (Decidable (slice text start stop = word))
  | run _ min max => inferInstanceAs (Decidable (Between min max (stop - start) ∧ _))
  | any min max => inferInstanceAs (Decidable (Between min max (stop - start)))
  | regex _ => inferInstanceAs (Decidable (_ ∈ _))

/-- The ends of the stretches from a place on that are in the language of a pattern, the nearest
first. -/
def ends (pattern : TextPattern) (text : List Char) (start : Nat) : List Nat :=
  (List.range (text.length + 1)).filter fun stop ↦
    start ≤ stop ∧ pattern.InLanguage text start stop

variable {pattern : TextPattern} {text rest : List Char} {start n : Nat}

theorem between_iff {min : Nat} {max : Option Nat} :
    Between min max n ↔ min ≤ n ∧ ∀ most, max = some most → n ≤ most := by
  cases max <;> simp [Between]

theorem slice_add : slice text start (start + n) = (text.drop start).take n := by
  rw [slice, Nat.add_sub_cancel_left]

/-- The stretches in the language of a pattern are those that it is found to fit. -/
theorem mem_lengths_iff_inLanguage (hn : n ≤ (text.drop start).length) :
    n ∈ pattern.lengths (text.drop start) ↔ pattern.InLanguage text start (start + n) := by
  cases pattern with
  | literal word =>
    rw [mem_lengths_literal, InLanguage, slice_add]
    constructor
    · rintro ⟨rfl, hprefix⟩
      exact (List.prefix_iff_eq_take.mp hprefix).symm
    · rintro rfl
      exact ⟨(List.length_take_of_le hn).symm, List.take_prefix n _⟩
  | any min max =>
    rw [mem_lengths_any, InLanguage, Nat.add_sub_cancel_left, between_iff]
    simp only [hn, true_and]
  | run cls min max =>
    rw [mem_lengths_run, mem_lengths_any, InLanguage, slice_add, Nat.add_sub_cancel_left,
      between_iff]
    simp only [hn, true_and]
  | regex r => rw [lengths, InLanguage, Nat.add_sub_cancel_left]

theorem pairwise_lengths : (pattern.lengths rest).Pairwise (· < ·) := by
  have hbetween (min longest : Nat) : (lengthsBetween min longest).Pairwise (· < ·) := by
    unfold lengthsBetween
    split
    · exact List.Pairwise.nil
    · exact List.pairwise_lt_range'
  cases pattern with
  | literal word =>
    rw [lengths]
    split
    · exact List.pairwise_singleton _ _
    · exact List.Pairwise.nil
  | any min max => exact hbetween _ _
  | run cls min max => exact hbetween _ _
  | regex r =>
    rw [lengths, AnchoredRegex.prefixLengths]
    split
    · exact List.pairwise_lt_range.filter _
    · exact List.Pairwise.nil

/-- Reading a pattern finds the ends of all stretches in its language, in their order. -/
theorem ends_eq (hstart : start ≤ text.length) :
    pattern.ends text start = (pattern.lengths (text.drop start)).map (start + ·) := by
  have hends : (pattern.ends text start).Pairwise (· < ·) := List.pairwise_lt_range.filter _
  have hlengths : ((pattern.lengths (text.drop start)).map (start + ·)).Pairwise (· < ·) :=
    pairwise_lengths.map _ fun _ _ h ↦ Nat.add_lt_add_left h start
  refine List.Pairwise.eq_of_mem_iff hends hlengths fun stop ↦ ?_
  simp only [ends, List.mem_filter, List.mem_range, decide_eq_true_eq, List.mem_map]
  constructor
  · rintro ⟨hstop, hle, hfits⟩
    obtain ⟨n, rfl⟩ := Nat.exists_eq_add_of_le hle
    have hn : n ≤ (text.drop start).length := by
      rw [List.length_drop]
      omega
    exact ⟨n, (mem_lengths_iff_inLanguage hn).mpr hfits, rfl⟩
  · rintro ⟨n, hn, rfl⟩
    have hlength := le_length hn
    have hfits := (mem_lengths_iff_inLanguage hlength).mp hn
    rw [List.length_drop] at hlength
    exact ⟨by omega, Nat.le_add_right start n, hfits⟩

end TextPattern

/-! ## Final states -/

namespace Meaning

open Execution (Setting)

/-- What is known at some point of a program. -/
structure State where
  position : Nat
  features : Structure
  tag : Option Symbol
  /-- Where the captures start that have been opened, and where those stop that are closed. -/
  captures : UInt8 → Option (Nat × Option Nat)

namespace State

/-- The text of a capture that is closed. -/
def captured (s : State) (text : List Char) (id : UInt8) : Option (List Char) :=
  match s.captures id with
  | some (start, some stop) => some (slice text start stop)
  | _ => none

/-- The morph that a final state stands for. -/
def morph? (s : State) : Option Morph :=
  s.tag.map fun tag ↦ { stop := s.position, features := s.features, tag }

end State

/-- The value that a source stands for. -/
def sourceValue (e : Setting) (s : State) : Source → Option Value
  | .constant value => some value
  | .capture id => (s.captured e.text id).map fun text ↦ .text (String.ofList text)
  | .surface => some (.text (String.ofList (slice e.text e.start s.position)))

/-- The states after an instruction that does not branch. Nothing goes on where structures
contradict each other, nor where a capture is missing. -/
def step (e : Setting) (s : State) : Instruction → List State
  | .read pattern => (pattern.ends e.text s.position).map fun stop ↦ { s with position := stop }
  | .openCapture id =>
    [{ s with captures := Function.update s.captures id (some (s.position, none)) }]
  | .closeCapture id =>
    match s.captures id with
    | some (start, _) =>
      [{ s with captures := Function.update s.captures id (some (start, some s.position)) }]
    | none => []
  | .lookup id =>
    match s.captured e.text id with
    | some stem => (e.lexicon.readings (String.ofList stem)).filterMap fun reading ↦
        (s.features.unify reading.features).map fun features ↦
          { s with features, tag := some reading.tag }
    | none => []
  | .unify added => ((s.features.unify added).map fun features ↦ { s with features }).toList
  | .assign attr source =>
    match sourceValue e s source with
    | some value => ((s.features.add? attr value).map fun features ↦ { s with features }).toList
    | none => []
  | .tag symbol => [{ s with tag := some symbol }]
  | .choice _ => []

/-- The final states of a program, in order. -/
def finals (e : Setting) (s : State) : List Instruction → List State
  | [] => [s]
  | .choice branches :: rest => branches.flatMap fun branch ↦ finals e s (branch ++ rest)
  | i :: rest => (step e s i).flatMap fun t ↦ finals e t rest
termination_by program => sizeOf program
decreasing_by
  · exact Execution.Thread.sizeOf_branch ‹_›
  · rw [List.cons.sizeOf_spec]
    omega

end Meaning

/-! ## Ways and final states -/

namespace Execution

open TextPattern (ends_eq)

/-- What is known in a state of an execution. -/
def State.known (s : State) : Meaning.State where
  position := s.position
  features := s.features
  tag := s.tag
  captures id := (s.captures.find? (·.id == id)).map fun c ↦ (c.start, c.stop)

namespace State

variable {s t : State}

theorem known_features (s : State) : s.known.features = s.features := rfl

theorem known_captures (s : State) (id : UInt8) : s.known.captures id =
    (s.capture? id).map fun c ↦ (c.start, c.stop) := rfl

theorem known_openCapture (s : State) (id : UInt8) : (s.openCapture id).known =
    { s.known with captures := Function.update s.known.captures id (some (s.position, none)) } := by
  have hcaptures : (s.openCapture id).known.captures =
      Function.update s.known.captures id (some (s.position, none)) := by
    funext other
    rw [known_captures]
    by_cases hother : other = id
    · subst hother
      rw [capture?_openCapture_self, Function.update_self]
      rfl
    · rw [capture?_openCapture_of_ne hother, Function.update_of_ne hother, known_captures]
  rw [← hcaptures]
  rfl

theorem known_closeCapture {id : UInt8} (h : s.closeCapture id = .ok t) :
    ∃ start stop, s.known.captures id = some (start, stop) ∧ t.known =
      { s.known with
        captures := Function.update s.known.captures id (some (start, some s.position)) } := by
  obtain ⟨hopened, rfl⟩ := closeCapture_eq_ok_iff.mp h
  obtain ⟨c, hc⟩ := Option.isSome_iff_exists.mp (isSome_capture?.mpr hopened)
  refine ⟨c.start, c.stop, by rw [known_captures, hc, Option.map_some], ?_⟩
  have hcaptures : (s.stopCapture id).known.captures =
      Function.update s.known.captures id (some (c.start, some s.position)) := by
    funext other
    rw [known_captures]
    by_cases hother : other = id
    · subst hother
      rw [capture?_stopCapture_self hc, Function.update_self]
      rfl
    · rw [capture?_stopCapture_of_ne hother, Function.update_of_ne hother, known_captures]
  rw [← hcaptures]
  rfl

theorem known_of_closeCapture_error {id : UInt8} {defect : Defect}
    (h : s.closeCapture id = .error defect) : s.known.captures id = none := by
  rw [known_captures, Option.map_eq_none_iff, ← Option.not_isSome_iff_eq_none, isSome_capture?]
  intro hopened
  rw [closeCapture_eq_ok_iff.mpr ⟨hopened, rfl⟩] at h
  exact absurd h nofun

theorem captured_known (s : State) (text : List Char) (id : UInt8) :
    s.known.captured text id = (s.captured text id).toOption := by
  unfold Meaning.State.captured captured
  rw [known_captures, capture?]
  cases s.captures.find? (·.id == id) with
  | none => rfl
  | some c =>
    obtain ⟨_, start, stop⟩ := c
    cases stop <;> rfl

end State

theorem sourceValue_known (e : Setting) (s : State) (source : Source) :
    Meaning.sourceValue e s.known source = (sourceValue e s source).toOption := by
  cases source with
  | constant value => rfl
  | surface => rfl
  | capture id =>
    rw [Meaning.sourceValue, sourceValue, State.captured_known]
    cases s.captured e.text id <;> rfl

/-- An instruction that does not branch goes on from what is known to what is known. -/
theorem step_known {e : Setting} {s : State} {i : Instruction} (hbasic : i.isBasic)
    (hs : s.position ≤ e.text.length) :
    Meaning.step e s.known i = (waysOfInstruction e s i).map State.known := by
  cases i with
  | read pattern =>
    have hplace : s.known.position = s.position := rfl
    rw [Meaning.step, waysOfInstruction, State.read, hplace, ends_eq hs, List.map_map, List.map_map]
    rfl
  | openCapture id =>
    rw [Meaning.step, waysOfInstruction, List.map_singleton, State.known_openCapture]
    rfl
  | closeCapture id =>
    rw [Meaning.step, waysOfInstruction]
    cases hclose : s.closeCapture id with
    | ok t =>
      obtain ⟨start, stop, hcapture, hknown⟩ := State.known_closeCapture hclose
      simp only [hcapture, List.map_singleton, hknown]
      rfl
    | error defect => simp only [State.known_of_closeCapture_error hclose, List.map_nil]
  | lookup id =>
    rw [Meaning.step, waysOfInstruction, State.captured_known]
    cases s.captured e.text id with
    | error defect => rfl
    | ok stem =>
      simp only [Except.toOption, List.map_filterMap]
      refine congrArg (List.filterMap · _) (funext fun reading ↦ ?_)
      rw [State.takeReading, State.unify, Option.map_map, Option.map_map]
      rfl
  | unify added =>
    rw [Meaning.step, waysOfInstruction, State.unify, State.known_features]
    cases s.features.unify added <;> rfl
  | assign attr source =>
    rw [Meaning.step, waysOfInstruction, sourceValue_known]
    cases sourceValue e s source with
    | error defect => rfl
    | ok value =>
      simp only [Except.toOption, State.assign, State.known_features]
      cases s.features.add? attr value <;> rfl
  | tag symbol => rfl
  | choice branches => exact absurd hbasic Bool.false_ne_true

theorem waysOfBranches_eq_flatMap (e : Setting) (s : State) (branches : List (List Instruction)) :
    waysOfBranches e s branches = branches.flatMap (waysOfProgram e s) := by
  induction branches with
  | nil => rw [waysOfBranches, List.flatMap_nil]
  | cons branch rest ih => rw [waysOfBranches, ih, List.flatMap_cons]

theorem waysOfProgram_append (e : Setting) (s : State) (first rest : List Instruction) :
    waysOfProgram e s (first ++ rest) =
      (waysOfProgram e s first).flatMap fun t ↦ waysOfProgram e t rest := by
  induction first generalizing s with
  | nil => rw [List.nil_append, waysOfProgram, List.flatMap_singleton]
  | cons i later ih =>
    rw [List.cons_append, waysOfProgram, waysOfProgram, List.flatMap_assoc]
    exact congrArg (List.flatMap · _) (funext fun t ↦ ih t)

theorem finals_cons {e : Setting} {s : Meaning.State} {i : Instruction} (hbasic : i.isBasic)
    (rest : List Instruction) : Meaning.finals e s (i :: rest) =
      (Meaning.step e s i).flatMap fun t ↦ Meaning.finals e t rest := by
  rw [Meaning.finals]
  rintro branches rfl
  exact absurd hbasic Bool.false_ne_true

/-- The ways through a program end in its final states, in their order. -/
theorem finals_known {e : Setting} {s : State} (hs : Placed e s) (program : List Instruction) :
    Meaning.finals e s.known program = (waysOfProgram e s program).map State.known := by
  cases program with
  | nil => rw [Meaning.finals, waysOfProgram, List.map_singleton]
  | cons i rest =>
    by_cases hbasic : i.isBasic
    · have hnext (t : State) (ht : t ∈ waysOfInstruction e s i) :
          Meaning.finals e t.known rest = (waysOfProgram e t rest).map State.known :=
        finals_known (preserves_placed e i hbasic s t hs ht) rest
      rw [finals_cons hbasic, step_known hbasic hs.2, waysOfProgram, List.map_flatMap,
        List.flatMap_map]
      exact List.flatMap_congr hnext
    · obtain ⟨branches, rfl⟩ : ∃ branches, i = .choice branches := by
        cases i <;> simp_all [Instruction.isBasic]
      have hbranch (branch : List Instruction) (hmem : branch ∈ branches) :
          Meaning.finals e s.known (branch ++ rest) =
            ((waysOfProgram e s branch).flatMap fun t ↦ waysOfProgram e t rest).map State.known := by
        rw [finals_known hs (branch ++ rest), waysOfProgram_append]
      rw [Meaning.finals, waysOfProgram, waysOfInstruction, waysOfBranches_eq_flatMap,
        List.flatMap_assoc, List.map_flatMap]
      exact List.flatMap_congr hbranch
termination_by sizeOf program
decreasing_by
  · rw [List.cons.sizeOf_spec]
    omega
  · subst_vars
    exact Thread.sizeOf_branch hmem

end Execution

namespace MorphRule

/-- The final states of a rule that is run at a place of a text. -/
def finals (rule : MorphRule) (text : List Char) (lexicon : Lexicon) (start : Nat) :
    List Meaning.State :=
  Meaning.finals (rule.setting text lexicon start)
    { position := start, features := .empty, tag := rule.tag, captures := fun _ ↦ none } rule.program

variable {table : SymbolTable} {rule : MorphRule} {text : List Char} {lexicon : Lexicon}
  {start : Nat}

theorem finals_eq (hstart : start ≤ text.length) :
    rule.finals text lexicon start =
      (rule.ways text lexicon start).map Execution.State.known :=
  Execution.finals_known (e := rule.setting text lexicon start) (s := rule.initial start)
    ⟨Nat.le_refl start, hstart⟩ rule.program

theorem map_some_filterMap {states : List Execution.State} (h : ∀ s ∈ states, s.tag.isSome) :
    (states.filterMap Execution.State.morph?).map some = states.map Execution.State.morph? := by
  induction states with
  | nil => rfl
  | cons s later ih =>
    rw [List.forall_mem_cons] at h
    obtain ⟨tag, htag⟩ := Option.isSome_iff_exists.mp h.1
    simp [Execution.State.morph?, htag, ← ih h.2]

/-- A valid rule finds the morphs of its final states, if none of them is too deep. -/
theorem result_run_eq_finals (hvalid : rule.validate table = .ok ()) (hstart : start ≤ text.length) :
    ∃ morphs, (rule.finals text lexicon start).map Meaning.State.morph? = morphs.map some ∧
      (rule.run text lexicon start).result =
        if ∀ s ∈ rule.finals text lexicon start, s.features.depth ≤ depthLimit then .ok morphs
        else .error (.defectiveRule rule.name (.tooDeep depthLimit)) := by
  have htagged : ∀ s ∈ rule.ways text lexicon start, s.tag.isSome := (simulates_run hvalid).1
  refine ⟨(rule.ways text lexicon start).filterMap Execution.State.morph?, ?_, ?_⟩
  · rw [finals_eq hstart, List.map_map]
    exact (map_some_filterMap htagged).symm
  · rw [result_run hvalid, finals_eq hstart]
    simp only [List.forall_mem_map, Execution.State.known_features]

end MorphRule

end Morphology
