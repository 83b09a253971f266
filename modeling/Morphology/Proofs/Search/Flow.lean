import Morphology.Proofs.Search.Ways
import Morphology.Rule.Flow

/-!
# Execution of checked programs

What the flow check knows about a place of a program is true of every state in which a way gets
there. A checked program therefore never misses a capture and never ends without a tag: all that
can go wrong is that the structure of a morph is too deep.
-/

namespace Morphology

open Execution

namespace Flow

/-- What is known is true of a state. -/
structure Describes (text : List Char) (flow : Flow) (s : State) : Prop where
  opened : ∀ id ∈ flow.opened, s.captures.any (·.id == id)
  closed : ∀ id ∈ flow.closed, ∃ stem, s.captured text id = .ok stem
  tagged : flow.tagged → s.tag.isSome

/-- A program can be left with this knowledge, and it is true of a state. -/
def Reaches (text : List Char) (exit : Option Flow) (s : State) : Prop :=
  ∃ flow, exit = some flow ∧ flow.Describes text s

namespace Describes

variable {text : List Char} {flow other : Flow} {s : State} {id : UInt8}

/-- Only captures and the tag matter. -/
theorem of_eq {t : State} (h : flow.Describes text s) (hcaptures : t.captures = s.captures)
    (htag : s.tag.isSome → t.tag.isSome) : flow.Describes text t where
  opened := by
    rw [hcaptures]
    exact h.opened
  closed := by
    unfold State.captured
    rw [hcaptures]
    exact h.closed
  tagged := fun htagged ↦ htag (h.tagged htagged)

theorem setTag {t : State} (h : flow.Describes text s) (hcaptures : t.captures = s.captures)
    (htag : t.tag.isSome) : flow.setTag.Describes text t where
  opened := (h.of_eq hcaptures fun _ ↦ htag).opened
  closed := (h.of_eq hcaptures fun _ ↦ htag).closed
  tagged := fun _ ↦ htag

theorem meet_left (h : flow.Describes text s) : (flow.meet other).Describes text s where
  opened id hid := h.opened id (List.mem_filter.mp hid).1
  closed id hid := h.closed id (List.mem_filter.mp hid).1
  tagged htagged := h.tagged (Bool.and_eq_true_iff.mp htagged).1

theorem meet_right (h : other.Describes text s) : (flow.meet other).Describes text s where
  opened id hid := h.opened id (List.contains_iff_mem.mp (List.mem_filter.mp hid).2)
  closed id hid := h.closed id (List.contains_iff_mem.mp (List.mem_filter.mp hid).2)
  tagged htagged := h.tagged (Bool.and_eq_true_iff.mp htagged).2

/-- What is known of a capture is true of every state with that capture. -/
theorem opened_congr {t : State} (h : flow.Describes text s)
    (hsame : t.capture? id = s.capture? id) (hopened : id ∈ flow.opened) :
    t.captures.any (·.id == id) := by
  rw [← State.isSome_capture?, hsame, State.isSome_capture?]
  exact h.opened id hopened

theorem closed_congr {t : State} (h : flow.Describes text s)
    (hsame : t.capture? id = s.capture? id) (hclosed : id ∈ flow.closed) :
    ∃ stem, t.captured text id = .ok stem := by
  rw [State.captured_congr hsame]
  exact h.closed id hclosed

/-- A capture that is opened again is not known to be closed any more. -/
theorem openCapture (h : flow.Describes text s) :
    (flow.openCapture id).Describes text (s.openCapture id) where
  opened other hother := by
    by_cases hsame : other = id
    · subst hsame
      rw [← State.isSome_capture?, State.capture?_openCapture_self]
      rfl
    · exact h.opened_congr (State.capture?_openCapture_of_ne hsame)
        ((List.mem_insert_iff.mp hother).resolve_left hsame)
  closed other hother := by
    obtain ⟨hclosed, hne⟩ := List.mem_filter.mp hother
    exact h.closed_congr (State.capture?_openCapture_of_ne (bne_iff_ne.mp hne)) hclosed
  tagged := h.tagged

/-- A capture that was opened can be closed, and is then known to be closed. -/
theorem closeCapture {after : Flow} (h : flow.Describes text s)
    (hflow : flow.closeCapture id = .ok after) :
    ∃ t, s.closeCapture id = .ok t ∧ after.Describes text t := by
  unfold Flow.closeCapture at hflow
  split at hflow
  next hopen =>
    obtain rfl := Except.ok.inj hflow
    have hany : s.captures.any (·.id == id) := h.opened id (List.contains_iff_mem.mp hopen)
    obtain ⟨c, hc⟩ := Option.isSome_iff_exists.mp (State.isSome_capture?.mpr hany)
    have hstopped := State.capture?_stopCapture_self hc
    refine ⟨_, State.closeCapture_eq_ok_iff.mpr ⟨hany, rfl⟩, ?_, ?_, h.tagged⟩
    · intro other hother
      by_cases hsame : other = id
      · subst hsame
        rw [← State.isSome_capture?, hstopped]
        rfl
      · exact h.opened_congr (State.capture?_stopCapture_of_ne hsame) hother
    · intro other hother
      by_cases hsame : other = id
      · subst hsame
        exact ⟨_, State.captured_of_capture? hstopped rfl⟩
      · exact h.closed_congr (State.capture?_stopCapture_of_ne hsame)
          ((List.mem_insert_iff.mp hother).resolve_left hsame)
  next => exact absurd hflow nofun

/-- A capture that may be used has a text. -/
theorem useCapture {after : Flow} (h : flow.Describes text s)
    (hflow : flow.useCapture id = .ok after) :
    after = flow ∧ ∃ stem, s.captured text id = .ok stem := by
  unfold Flow.useCapture at hflow
  split at hflow
  next hclosed =>
    exact ⟨(Except.ok.inj hflow).symm, h.closed id (List.contains_iff_mem.mp hclosed)⟩
  next => exact absurd hflow nofun

end Describes

namespace Reaches

variable {text : List Char} {known branch : Option Flow} {s : State}

theorem join_left (h : Reaches text known s) : Reaches text (join known branch) s := by
  obtain ⟨flow, rfl, hflow⟩ := h
  cases branch with
  | none => exact ⟨flow, rfl, hflow⟩
  | some other => exact ⟨flow.meet other, rfl, hflow.meet_left⟩

theorem join_right (h : Reaches text branch s) : Reaches text (join known branch) s := by
  obtain ⟨flow, rfl, hflow⟩ := h
  cases known with
  | none => exact ⟨flow, rfl, hflow⟩
  | some other => exact ⟨other.meet flow, rfl, hflow.meet_right⟩

end Reaches

/-! ## Simulation -/

section

variable {e : Setting} {s : State} {next : State → Search (List Morph)} {flow after : Flow}
  {exit : Option Flow} {id : UInt8}

/-- From a state, an instruction is carried out without a defect, and what is known afterwards is
true wherever it leads. -/
structure Simulates (e : Setting) (s : State) (next : State → Search (List Morph))
    (exit : Option Flow) (i : Instruction) : Prop where
  reaches : ∀ t ∈ waysOfInstruction e s i, Reaches e.text exit t
  result_eq : (runInstruction e s next i).result = (inTurn next (waysOfInstruction e s i)).result

theorem simulates_read (hnext : ∀ t, (next t).Metered) (h : flow.Describes e.text s)
    (pattern : TextPattern) : Simulates e s next (some flow) (.read pattern) where
  reaches t ht := by
    cases leads_of_mem rfl ht with
    | read => exact ⟨flow, rfl, h.of_eq rfl id⟩
  result_eq := by
    rw [waysOfInstruction, runInstruction]
    exact Search.result_step_bind (metered_inTurn fun t _ ↦ hnext t)

theorem simulates_openCapture (hnext : ∀ t, (next t).Metered) (h : flow.Describes e.text s)
    (id : UInt8) : Simulates e s next (some (flow.openCapture id)) (.openCapture id) where
  reaches t ht := by
    cases leads_of_mem rfl ht with
    | openCapture => exact ⟨_, rfl, h.openCapture⟩
  result_eq := by
    rw [waysOfInstruction, runInstruction, inTurn_singleton]
    exact Search.result_step_bind (hnext _)

theorem simulates_closeCapture (hnext : ∀ t, (next t).Metered) (h : flow.Describes e.text s)
    (hafter : flow.closeCapture id = .ok after) :
    Simulates e s next (some after) (.closeCapture id) := by
  obtain ⟨t, hclose, ht⟩ := h.closeCapture hafter
  have hways : waysOfInstruction e s (.closeCapture id) = [t] := by
    rw [waysOfInstruction, hclose]
  constructor
  · rw [hways, List.forall_mem_singleton]
    exact ⟨after, rfl, ht⟩
  · rw [hways, runInstruction, inTurn_singleton]
    simp only [hclose, Search.orFail, pure_bind]
    exact Search.result_step_bind (hnext t)

/-- A reading gives a tag, whichever one is taken. -/
theorem simulates_lookup (hnext : ∀ t, (next t).Metered) (h : flow.Describes e.text s)
    (hafter : flow.useCapture id = .ok after) :
    Simulates e s next (some after.setTag) (.lookup id) := by
  obtain ⟨rfl, stem, hstem⟩ := h.useCapture hafter
  constructor
  · intro t ht
    cases leads_of_mem rfl ht with
    | lookup => exact ⟨_, rfl, h.setTag rfl rfl⟩
  · rw [waysOfInstruction, runInstruction]
    simp only [hstem, Search.orFail, pure_bind]
    exact Search.result_step_bind (metered_inTurn fun t _ ↦ hnext t)

theorem simulates_unify (hnext : ∀ t, (next t).Metered) (h : flow.Describes e.text s)
    (features : Structure) : Simulates e s next (some flow) (.unify features) where
  reaches t ht := by
    cases leads_of_mem rfl ht with
    | unify => exact ⟨flow, rfl, h.of_eq rfl id⟩
  result_eq := by
    rw [waysOfInstruction, runInstruction]
    exact Search.result_step_bind (metered_inTurn fun t _ ↦ hnext t)

/-- Where an assignment is let through, its source has a value, and nothing more is known. -/
theorem exists_sourceValue (h : flow.Describes e.text s) {attr : Symbol} {source : Source}
    (hcheck : flow.afterInstruction (.assign attr source) = .ok exit) :
    exit = some flow ∧ ∃ value, sourceValue e s source = .ok value := by
  cases source with
  | constant value => exact ⟨(Except.ok.inj hcheck).symm, value, rfl⟩
  | surface => exact ⟨(Except.ok.inj hcheck).symm, _, rfl⟩
  | capture id =>
    obtain ⟨after, hafter, rfl⟩ := exists_of_map_eq_ok hcheck
    obtain ⟨rfl, stem, hstem⟩ := h.useCapture hafter
    exact ⟨rfl, .text (String.ofList stem), by rw [sourceValue, hstem]; rfl⟩

theorem simulates_assign (hnext : ∀ t, (next t).Metered) (h : flow.Describes e.text s)
    (attr : Symbol) {source : Source} {value : Value}
    (hsource : sourceValue e s source = .ok value) :
    Simulates e s next (some flow) (.assign attr source) := by
  constructor
  · intro t ht
    cases leads_of_mem rfl ht with
    | assign => exact ⟨flow, rfl, h.of_eq rfl id⟩
  · rw [waysOfInstruction, runInstruction]
    simp only [hsource, Search.orFail, pure_bind]
    exact Search.result_step_bind (metered_inTurn fun t _ ↦ hnext t)

theorem simulates_tag (hnext : ∀ t, (next t).Metered) (h : flow.Describes e.text s)
    (symbol : Symbol) : Simulates e s next (some flow.setTag) (.tag symbol) where
  reaches t ht := by
    cases leads_of_mem rfl ht with
    | tag => exact ⟨_, rfl, h.setTag rfl rfl⟩
  result_eq := by
    rw [waysOfInstruction, runInstruction, inTurn_singleton]
    exact Search.result_step_bind (hnext _)

end

mutual

/-- An instruction that the check lets through is simulated; the check tells what is known after
it. -/
theorem simulates_instruction {e : Setting} {s : State} {next : State → Search (List Morph)}
    {flow : Flow} {exit : Option Flow} (hnext : ∀ t, (next t).Metered)
    (h : flow.Describes e.text s) :
    ∀ i, flow.afterInstruction i = .ok exit → Simulates e s next exit i
  | .read pattern, hcheck => Except.ok.inj hcheck ▸ simulates_read hnext h pattern
  | .openCapture id, hcheck => Except.ok.inj hcheck ▸ simulates_openCapture hnext h id
  | .closeCapture id, hcheck => by
    obtain ⟨after, hafter, rfl⟩ := exists_of_map_eq_ok hcheck
    exact simulates_closeCapture hnext h hafter
  | .lookup id, hcheck => by
    obtain ⟨after, hafter, rfl⟩ := exists_of_map_eq_ok hcheck
    exact simulates_lookup hnext h hafter
  | .unify features, hcheck => Except.ok.inj hcheck ▸ simulates_unify hnext h features
  | .assign attr source, hcheck => by
    obtain ⟨rfl, value, hsource⟩ := exists_sourceValue h hcheck
    exact simulates_assign hnext h attr hsource
  | .tag symbol, hcheck => Except.ok.inj hcheck ▸ simulates_tag hnext h symbol
  | .choice branches, hcheck => by
    obtain ⟨hreaches, -, hresult⟩ := simulates_branches hnext h branches hcheck
    constructor
    · rw [waysOfInstruction]
      exact hreaches
    · rw [waysOfInstruction, runInstruction,
        Search.result_step_bind (metered_runBranches hnext branches), hresult]

theorem simulates_program {e : Setting} {s : State} {next : State → Search (List Morph)}
    {flow : Flow} {exit : Option Flow} (hnext : ∀ t, (next t).Metered)
    (h : flow.Describes e.text s) :
    ∀ program, flow.afterProgram program = .ok exit →
      (∀ t ∈ waysOfProgram e s program, Reaches e.text exit t) ∧
        (runProgram e s next program).result = (inTurn next (waysOfProgram e s program)).result
  | [], hcheck => by
    obtain rfl := Except.ok.inj hcheck
    rw [waysOfProgram, runProgram, inTurn_singleton]
    refine ⟨fun t ht ↦ ?_, rfl⟩
    obtain rfl := List.mem_singleton.mp ht
    exact ⟨flow, rfl, h⟩
  | i :: rest, hcheck => by
    have hrest : ∀ t, (runProgram e t next rest).Metered := fun t ↦ metered_runProgram hnext rest
    rw [waysOfProgram, runProgram]
    rw [afterProgram] at hcheck
    split at hcheck
    next => exact absurd hcheck nofun
    -- Where no way goes on, the rest of the program has not been checked, and it is not needed.
    next hfirst =>
      have hi := simulates_instruction hrest h i hfirst
      have hnone : waysOfInstruction e s i = [] := by
        refine List.eq_nil_iff_forall_not_mem.mpr fun t ht ↦ ?_
        obtain ⟨_, hexit, _⟩ := hi.reaches t ht
        exact absurd hexit nofun
      rw [hi.result_eq, hnone]
      exact ⟨fun t ht ↦ absurd ht List.not_mem_nil, rfl⟩
    next after hfirst =>
      have hi := simulates_instruction hrest h i hfirst
      have hlater : ∀ t ∈ waysOfInstruction e s i,
          (∀ u ∈ waysOfProgram e t rest, Reaches e.text exit u) ∧
            (runProgram e t next rest).result = (inTurn next (waysOfProgram e t rest)).result := by
        intro t ht
        obtain ⟨_, hexit, hdescribes⟩ := hi.reaches t ht
        obtain rfl := Option.some.inj hexit
        exact simulates_program hnext hdescribes rest hcheck
      constructor
      · intro u hu
        obtain ⟨t, ht, hu⟩ := List.mem_flatMap.mp hu
        exact (hlater t ht).1 u hu
      · rw [hi.result_eq]
        exact result_inTurn_flatMap (fun t _ ↦ hrest t) hnext fun t ht ↦ (hlater t ht).2

theorem simulates_branches {e : Setting} {s : State} {next : State → Search (List Morph)}
    {flow : Flow} {known exit : Option Flow} (hnext : ∀ t, (next t).Metered)
    (h : flow.Describes e.text s) :
    ∀ branches, flow.afterBranches known branches = .ok exit →
      (∀ t ∈ waysOfBranches e s branches, Reaches e.text exit t) ∧
        (∀ t, Reaches e.text known t → Reaches e.text exit t) ∧
        (runBranches e s next branches).result = (inTurn next (waysOfBranches e s branches)).result
  | [], hcheck => by
    obtain rfl := Except.ok.inj hcheck
    rw [waysOfBranches, runBranches, inTurn]
    exact ⟨fun t ht ↦ absurd ht List.not_mem_nil, fun _ ht ↦ ht, rfl⟩
  | branch :: rest, hcheck => by
    rw [afterBranches] at hcheck
    split at hcheck
    next => exact absurd hcheck nofun
    next after hfirst =>
      have hbranch := simulates_program hnext h branch hfirst
      have hrest := simulates_branches hnext h rest hcheck
      have hmetered := metered_runBranches (e := e) (s := s) hnext rest
      rw [waysOfBranches, runBranches]
      refine ⟨fun t ht ↦ ?_, fun t ht ↦ hrest.2.1 t ht.join_left, ?_⟩
      · rcases List.mem_append.mp ht with ht | ht
        · exact hrest.2.1 t (hbranch.1 t ht).join_right
        · exact hrest.1 t ht
      · calc
          _ = (runProgram e s next branch).result.bind fun found ↦
              (runBranches e s next rest).result.map (found ++ ·) := by
            rw [(metered_runProgram hnext branch).result_bind fun found _ ↦
              Search.metered_map hmetered (found ++ ·)]
            simp only [Search.result_map hmetered]
          _ = (inTurn next (waysOfProgram e s branch)).result.bind fun found ↦
              (inTurn next (waysOfBranches e s rest)).result.map (found ++ ·) := by
            rw [hbranch.2, hrest.2.2]
          _ = _ := (result_inTurn_append (fun t _ ↦ hnext t) (fun t _ ↦ hnext t)).symm

end

end Flow

end Morphology
