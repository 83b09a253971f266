import Morphology.Proofs.Regex.ByteLengths
import Morphology.Proofs.Rule.TextPattern
import Morphology.Proofs.Search.Machine

/-!
# Ranges of threads

A thread that was started at a place of a text never goes back behind this place, nor beyond the end
of the text. Its captures lie between the place where it was started and the place where it is. So
whatever it cuts out of the text is a stretch of the text, and however far a pattern may be
repeated, the places to which it can move on are places of the text.
-/

namespace Morphology

/-! ## Places to which patterns move on -/

namespace TextPattern

/-- The places of a text to which a pattern can move on from a place. Those of a regular expression
are found as numbers of bytes, and then counted in characters. -/
def stops (text : List Char) (position : Nat) : TextPattern → List Nat
  | regex r =>
    let rest := String.ofList (text.drop position)
    (r.prefixSizes rest).filterMap fun size ↦
      (beginning? rest size).map (position + ·.toList.length)
  | pattern => (pattern.lengths (text.drop position)).map (position + ·)

theorem stops_eq (text : List Char) (position : Nat) (pattern : TextPattern) :
    pattern.stops text position = (pattern.lengths (text.drop position)).map (position + ·) := by
  cases pattern with
  | literal | run | any => rfl
  | regex r =>
    have hcut (size : Nat) (hsize : size ∈ r.prefixLengths (text.drop position)) :
        (beginning? (String.ofList (text.drop position))
          (AnchoredRegex.byteLength (text.drop position) size)).map (position + ·.toList.length) =
            some (position + size) := by
      have hlength := (AnchoredRegex.mem_prefixLengths_iff.mp hsize).1
      have hfirst := beginning?_byteLength (String.ofList (text.drop position)) size
      rw [String.toList_ofList] at hfirst
      rw [hfirst, Option.map_some, String.toList_ofList, List.length_take, Nat.min_eq_left hlength]
    rw [stops, AnchoredRegex.prefixSizes_eq, String.toList_ofList, List.filterMap_map, lengths,
      ← List.filterMap_eq_map]
    exact List.filterMap_congr hcut

/-- Patterns move on to places of the text that are not before the place where they start. -/
theorem le_of_mem_stops {text : List Char} {position stop : Nat} {pattern : TextPattern}
    (hposition : position ≤ text.length) (h : stop ∈ pattern.stops text position) :
    position ≤ stop ∧ stop ≤ text.length := by
  rw [stops_eq] at h
  obtain ⟨n, hn, rfl⟩ := List.mem_map.mp h
  have hlength := le_length hn
  rw [List.length_drop] at hlength
  omega

end TextPattern

/-! ## Captures -/

/-- A capture starts between two places, and stops between its start and the second of them. -/
structure Capture.InRange (start position : Nat) (c : Capture) : Prop where
  start_le : start ≤ c.start
  le_position : c.start ≤ position
  stop_le {stop : Nat} (h : c.stop = some stop) : c.start ≤ stop ∧ stop ≤ position

theorem Capture.InRange.mono {start position later : Nat} {c : Capture}
    (h : c.InRange start position) (hlater : position ≤ later) : c.InRange start later where
  start_le := h.start_le
  le_position := Nat.le_trans h.le_position hlater
  stop_le hstop := ⟨(h.stop_le hstop).1, Nat.le_trans (h.stop_le hstop).2 hlater⟩

namespace Execution

/-- The stretches that are cut out of the text where an instruction is carried out. -/
def State.stretches (e : Setting) (s : State) : Instruction → List (Nat × Nat)
  | .lookup id | .assign _ (.capture id) =>
    match s.captures.find? (·.id == id) with
    | some ⟨_, start, some stop⟩ => [(start, stop)]
    | _ => []
  | .assign _ .surface => [(e.start, s.position)]
  | _ => []

theorem exists_stretch_of_captured {e : Setting} {s : State} {id : UInt8} {stem : List Char}
    (h : s.captured e.text id = .ok stem) :
    ∃ stretch ∈ s.stretches e (.lookup id), stem = slice e.text stretch.1 stretch.2 := by
  unfold State.captured at h
  split at h
  next number start stop hfound =>
    obtain rfl := Except.ok.inj h
    simp only [State.stretches, hfound]
    exact ⟨(start, stop), List.mem_singleton.mpr rfl, rfl⟩
  next => exact absurd h nofun

/-- A value that is assigned is constant, or the text of a stretch. -/
theorem exists_stretch_of_sourceValue {e : Setting} {s : State} {source : Source} {value : Value}
    (attr : Symbol) (h : sourceValue e s source = .ok value) :
    source = .constant value ∨ ∃ stretch ∈ s.stretches e (.assign attr source),
      value = .text (String.ofList (slice e.text stretch.1 stretch.2)) := by
  cases source with
  | constant v =>
    obtain rfl := Except.ok.inj h
    exact .inl rfl
  | capture id =>
    obtain ⟨stem, hstem, rfl⟩ := exists_of_map_eq_ok h
    obtain ⟨stretch, hstretch, rfl⟩ := exists_stretch_of_captured hstem
    exact .inr ⟨stretch, hstretch, rfl⟩
  | surface =>
    obtain rfl := Except.ok.inj h
    exact .inr ⟨(e.start, s.position), List.mem_singleton.mpr rfl, rfl⟩

/-- A state is at a place of the text that is not before the start, and its captures lie between
these two places. -/
structure State.InRange (e : Setting) (s : State) : Prop where
  start_le : e.start ≤ s.position
  position_le : s.position ≤ e.text.length
  captures : ∀ c ∈ s.captures, c.InRange e.start s.position

namespace State.InRange

variable {e : Setting} {s t : State} {id : UInt8}

/-- Structures and tags make no difference. -/
theorem congr (h : s.InRange e) (hposition : t.position = s.position)
    (hcaptures : t.captures = s.captures) : t.InRange e where
  start_le := hposition ▸ h.start_le
  position_le := hposition ▸ h.position_le
  captures := by
    rw [hposition, hcaptures]
    exact h.captures

theorem read (h : s.InRange e) {pattern : TextPattern} (ht : t ∈ s.read e.text pattern) :
    t.InRange e := by
  obtain ⟨n, hn, rfl⟩ := List.mem_map.mp ht
  have hlength := TextPattern.le_length hn
  have hposition := h.position_le
  rw [List.length_drop] at hlength
  constructor
  · exact Nat.le_trans h.start_le (Nat.le_add_right _ _)
  · change s.position + n ≤ e.text.length
    omega
  · exact fun c hc ↦ (h.captures c hc).mono (Nat.le_add_right _ _)

theorem openCapture (h : s.InRange e) (id : UInt8) : (s.openCapture id).InRange e where
  start_le := h.start_le
  position_le := h.position_le
  captures c hc := by
    rcases List.mem_append.mp hc with hold | hnew
    · exact h.captures c (List.mem_filter.mp hold).1
    · obtain rfl := List.mem_singleton.mp hnew
      exact ⟨h.start_le, Nat.le_refl _, nofun⟩

theorem closeCapture (h : s.InRange e) (ht : s.closeCapture id = .ok t) : t.InRange e := by
  obtain ⟨-, rfl⟩ := State.closeCapture_eq_ok_iff.mp ht
  refine ⟨h.start_le, h.position_le, fun c hc ↦ ?_⟩
  obtain ⟨before, hbefore, rfl⟩ := List.mem_map.mp hc
  have hrange := h.captures before hbefore
  split
  next =>
    refine ⟨hrange.start_le, hrange.le_position, fun hstop ↦ ?_⟩
    obtain rfl := Option.some.inj hstop
    exact ⟨hrange.le_position, Nat.le_refl _⟩
  next => exact hrange

theorem unify (h : s.InRange e) {features : Structure} (ht : s.unify features = some t) :
    t.InRange e := by
  obtain ⟨_, -, rfl⟩ := Option.map_eq_some_iff.mp ht
  exact h.congr rfl rfl

theorem takeReading (h : s.InRange e) {reading : Reading} (ht : s.takeReading reading = some t) :
    t.InRange e := by
  obtain ⟨u, hu, rfl⟩ := Option.map_eq_some_iff.mp ht
  exact (h.unify hu).congr rfl rfl

theorem assign (h : s.InRange e) {attr : Symbol} {value : Value}
    (ht : s.assign attr value = some t) : t.InRange e := by
  obtain ⟨_, -, rfl⟩ := Option.map_eq_some_iff.mp ht
  exact h.congr rfl rfl

/-- Whatever is cut out of the text is a stretch of the text. -/
theorem stretches (h : s.InRange e) {i : Instruction} :
    ∀ stretch ∈ s.stretches e i, stretch.1 ≤ stretch.2 ∧ stretch.2 ≤ e.text.length := by
  have hcapture (id : UInt8) : ∀ stretch ∈ s.stretches e (.lookup id),
      stretch.1 ≤ stretch.2 ∧ stretch.2 ≤ e.text.length := by
    intro stretch hstretch
    unfold State.stretches at hstretch
    simp only at hstretch
    split at hstretch
    next number start stop hfound =>
      obtain rfl := List.mem_singleton.mp hstretch
      have hstop := (h.captures _ (List.mem_of_find?_eq_some hfound)).stop_le rfl
      exact ⟨hstop.1, Nat.le_trans hstop.2 h.position_le⟩
    next => exact absurd hstretch List.not_mem_nil
  cases i with
  | lookup id => exact hcapture id
  | assign attr source =>
    cases source with
    | constant value => exact fun stretch hstretch ↦ absurd hstretch List.not_mem_nil
    | capture id => exact hcapture id
    | surface =>
      intro stretch hstretch
      obtain rfl := List.mem_singleton.mp hstretch
      exact ⟨h.start_le, h.position_le⟩
  | read | openCapture | closeCapture | unify | tag | choice =>
    exact fun stretch hstretch ↦ absurd hstretch List.not_mem_nil

end State.InRange

end Execution

/-! ## Threads -/

namespace Machine

open Execution (Setting State)

variable {e : Setting} {s : State} {initial stack : List Thread}

/-- The stacks of threads that a machine goes through. -/
inductive GoesThrough (e : Setting) (initial : List Thread) : List Thread → Prop
  | initial : GoesThrough e initial initial
  | turn (thread : Thread) (stack threads : List Thread) (found : List Morph)
      (h : GoesThrough e initial (thread :: stack)) (turned : (thread.turn e).Yields (found, threads)) :
      GoesThrough e initial (push threads stack)

/-- A thread is within the text, and so is all that it reads of it: the stretches that it cuts out,
which are what it looks up and assigns, and the places to which it moves on, however many characters
a pattern asks for at most. -/
structure Thread.InRange (e : Setting) (thread : Thread) : Prop where
  state : thread.state.InRange e
  stretches (i : Instruction) : ∀ stretch ∈ thread.state.stretches e i,
    stretch.1 ≤ stretch.2 ∧ stretch.2 ≤ e.text.length
  captured {id : UInt8} {stem : List Char} (h : thread.state.captured e.text id = .ok stem) :
    ∃ stretch ∈ thread.state.stretches e (.lookup id), stem = slice e.text stretch.1 stretch.2
  assigned {source : Source} {value : Value} (attr : Symbol)
    (h : Execution.sourceValue e thread.state source = .ok value) :
    source = .constant value ∨ ∃ stretch ∈ thread.state.stretches e (.assign attr source),
      value = .text (String.ofList (slice e.text stretch.1 stretch.2))
  counts (max : Option Nat) :
    thread.state.position + TextPattern.atMost max (e.text.length - thread.state.position) ≤
      e.text.length
  stops (pattern : TextPattern) : ∀ stop ∈ pattern.stops e.text thread.state.position,
    thread.state.position ≤ stop ∧ stop ≤ e.text.length

theorem Thread.inRange_of_state {thread : Thread} (h : thread.state.InRange e) :
    thread.InRange e where
  state := h
  stretches _ := h.stretches
  captured := Execution.exists_stretch_of_captured
  assigned := Execution.exists_stretch_of_sourceValue
  counts max := by
    have hposition := h.position_le
    have hmost := TextPattern.atMost_le max (e.text.length - thread.state.position)
    omega
  stops _ _ := TextPattern.le_of_mem_stops h.position_le

/-- Every instruction leaves the threads within the text and not before their start. -/
theorem inRange_afterInstruction (h : s.InRange e) {i : Instruction}
    {frames : List (List Instruction)} {threads : List Thread}
    (hafter : Thread.afterInstruction e s frames i = .ok threads) :
    ∀ thread ∈ threads, thread.state.InRange e := by
  cases i with
  | read pattern =>
    obtain rfl := Except.ok.inj hafter
    exact List.forall_mem_map.mpr fun t ht ↦ h.read ht
  | openCapture id =>
    obtain rfl := Except.ok.inj hafter
    exact List.forall_mem_singleton.mpr (h.openCapture id)
  | closeCapture id =>
    obtain ⟨t, ht, rfl⟩ := exists_of_map_eq_ok hafter
    exact List.forall_mem_singleton.mpr (h.closeCapture ht)
  | lookup id =>
    obtain ⟨stem, -, rfl⟩ := exists_of_map_eq_ok hafter
    refine List.forall_mem_map.mpr fun t ht ↦ ?_
    obtain ⟨reading, -, ht⟩ := List.mem_filterMap.mp ht
    exact h.takeReading ht
  | unify features =>
    obtain rfl := Except.ok.inj hafter
    exact List.forall_mem_map.mpr fun t ht ↦ h.unify (Option.mem_toList.mp ht)
  | assign attr source =>
    obtain ⟨value, -, rfl⟩ := exists_of_map_eq_ok hafter
    exact List.forall_mem_map.mpr fun t ht ↦ h.assign (Option.mem_toList.mp ht)
  | tag symbol =>
    obtain rfl := Except.ok.inj hafter
    exact List.forall_mem_singleton.mpr (h.congr rfl rfl)
  | choice branches =>
    obtain rfl := Except.ok.inj hafter
    exact List.forall_mem_map.mpr fun branch _ ↦ h

/-- So does every turn; a thread that comes to its end leaves none. -/
theorem inRange_of_turn {thread : Thread} (h : thread.state.InRange e) {found : List Morph}
    {threads : List Thread} (hturn : (thread.turn e).Yields (found, threads)) :
    ∀ thread ∈ threads, thread.state.InRange e := by
  unfold Thread.turn at hturn
  split at hturn
  next =>
    obtain ⟨morphs, -, hturn⟩ := hturn.of_bind
    obtain ⟨-, rfl⟩ := Prod.mk.inj (Search.yields_pure.mp hturn)
    exact fun thread hthread ↦ absurd hthread List.not_mem_nil
  next i frames _ =>
    obtain ⟨_, -, hturn⟩ := hturn.of_bind
    obtain ⟨after, hafter, hturn⟩ := hturn.of_bind
    obtain ⟨-, rfl⟩ := Prod.mk.inj (Search.yields_pure.mp hturn)
    exact inRange_afterInstruction h (Search.yields_orFail hafter)

theorem GoesThrough.state_inRange (hinitial : ∀ thread ∈ initial, thread.state.InRange e)
    (h : GoesThrough e initial stack) : ∀ thread ∈ stack, thread.state.InRange e := by
  induction h with
  | initial => exact hinitial
  | turn thread stack threads found _ hturn ih =>
    obtain ⟨hthread, hstack⟩ := List.forall_mem_cons.mp ih
    rw [push_eq]
    exact List.forall_mem_append.mpr ⟨inRange_of_turn hthread hturn, hstack⟩

end Machine

/-- A machine that runs a rule at a place of a text keeps all its threads within the text. -/
theorem MorphRule.inRange_of_goesThrough (rule : MorphRule) {text : List Char} (lexicon : Lexicon)
    {place : Nat} (hplace : place ≤ text.length) {stack : List Machine.Thread}
    (h : Machine.GoesThrough (rule.setting text lexicon place)
      [⟨rule.initial place, [rule.program]⟩] stack) :
    ∀ thread ∈ stack, thread.InRange (rule.setting text lexicon place) := by
  have hinitial : (rule.initial place).InRange (rule.setting text lexicon place) :=
    ⟨Nat.le_refl place, hplace, fun c hc ↦ absurd hc List.not_mem_nil⟩
  intro thread hthread
  exact Machine.Thread.inRange_of_state
    (h.state_inRange (List.forall_mem_singleton.mpr hinitial) thread hthread)

end Morphology
