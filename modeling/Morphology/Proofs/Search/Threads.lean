import Morphology.Proofs.Search.Rounds

/-!
# Threads of a program

The ways through a program can be followed by a loop over threads. A thread is a state with the
part of the program that is left to be carried out; an instruction ends the thread, moves it on, or
splits it up. Since less of the program is left each time, the loop comes to an end for every
program, however it branches and whatever it finds in the text and in the lexicon.
-/

namespace Morphology

namespace Execution

/-- A way that is being followed, and what is left of its program. -/
structure Thread where
  state : State
  rest : List Instruction

namespace Thread

/-- The threads after an instruction, when `rest` is left after it. -/
def afterInstruction (e : Setting) (s : State) (rest : List Instruction) :
    Instruction → Except Defect (List Thread)
  | .read pattern => .ok ((s.read e.text pattern).map (⟨·, rest⟩))
  | .openCapture id => .ok [⟨s.openCapture id, rest⟩]
  | .closeCapture id => (s.closeCapture id).map fun t ↦ [⟨t, rest⟩]
  | .lookup id => (s.captured e.text id).map fun stem ↦
      ((e.lexicon.readings (String.ofList stem)).filterMap s.takeReading).map (⟨·, rest⟩)
  | .unify features => .ok ((s.unify features).toList.map (⟨·, rest⟩))
  | .assign attr source => (sourceValue e s source).map fun value ↦
      (s.assign attr value).toList.map (⟨·, rest⟩)
  | .tag symbol => .ok [⟨{ s with tag := some symbol }, rest⟩]
  | .choice branches => .ok (branches.map fun branch ↦ ⟨s, branch ++ rest⟩)

/-- Carries out the next instruction of a thread, or ends the thread with a morph. -/
def visit (e : Setting) (thread : Thread) : Search (List Morph × List Thread) :=
  match thread.rest with
  | [] => do return (← finish e thread.state, [])
  | i :: rest => do
    Search.step
    return ([], ← Search.orFail e.rule (afterInstruction e thread.state rest i))

/-- All morphs that a thread leads to. -/
def follow (e : Setting) (thread : Thread) : Search (List Morph) :=
  runProgram e thread.state (finish e) thread.rest

end Thread

theorem runProgram_append (e : Setting) (s : State) (next : State → Search (List Morph))
    (first rest : List Instruction) : runProgram e s next (first ++ rest) =
      runProgram e s (fun t ↦ runProgram e t next rest) first := by
  induction first generalizing s with
  | nil => rw [List.nil_append, runProgram]
  | cons i later ih =>
    rw [List.cons_append, runProgram, runProgram]
    simp only [ih]

theorem orFail_map {α β : Type} (rule : String) (x : Except Defect α) (f : α → β) :
    Search.orFail rule (x.map f) = Search.orFail rule x >>= fun a ↦ pure (f a) := by
  cases x with
  | ok a => simp [Search.orFail, Except.map]
  | error defect => rfl

namespace Thread

/-- What an instruction and the rest of a program find is found by the threads after it. -/
theorem runInstruction_eq (e : Setting) (s : State) (rest : List Instruction) (i : Instruction) :
    runInstruction e s (fun t ↦ runProgram e t (finish e) rest) i = (do
      Search.step
      let next ← Search.orFail e.rule (afterInstruction e s rest i)
      inTurn (follow e) next) := by
  have hbranch (branch : List Instruction) : follow e ⟨s, branch ++ rest⟩ =
      runProgram e s (fun t ↦ runProgram e t (finish e) rest) branch :=
    runProgram_append e s (finish e) branch rest
  cases i with
  | read pattern => simp [runInstruction, afterInstruction, Search.orFail, inTurn_map, follow]
  | openCapture id => simp [runInstruction, afterInstruction, Search.orFail, inTurn_singleton, follow]
  | closeCapture id => simp [runInstruction, afterInstruction, orFail_map, inTurn_singleton, follow]
  | lookup id => simp [runInstruction, afterInstruction, orFail_map, inTurn_map, follow]
  | unify features => simp [runInstruction, afterInstruction, Search.orFail, inTurn_map, follow]
  | assign attr source => simp [runInstruction, afterInstruction, orFail_map, inTurn_map, follow]
  | tag symbol => simp [runInstruction, afterInstruction, Search.orFail, inTurn_singleton, follow]
  | choice branches =>
    simp [runInstruction, afterInstruction, Search.orFail, inTurn_map, hbranch, runBranches_eq_inTurn]

theorem follow_eq (e : Setting) (thread : Thread) : thread.follow e = do
    let (found, next) ← thread.visit e
    return found ++ (← inTurn (follow e) next) := by
  obtain ⟨s, program⟩ := thread
  cases program with
  | nil => simp [follow, visit, runProgram, inTurn]
  | cons i rest => simp [follow, visit, runProgram, runInstruction_eq]

theorem metered_visit (e : Setting) (thread : Thread) : (thread.visit e).Metered := by
  unfold visit
  split
  · exact Search.metered_map (metered_finish e _) _
  · exact Search.metered_step_bind (Search.metered_map (Search.metered_orFail _ _) _)

theorem sizeOf_append (first rest : List Instruction) :
    sizeOf (first ++ rest) + 1 = sizeOf first + sizeOf rest := by
  induction first with
  | nil =>
    rw [List.nil_append, List.nil.sizeOf_spec]
    omega
  | cons i later ih =>
    rw [List.cons_append, List.cons.sizeOf_spec, List.cons.sizeOf_spec]
    omega

/-- A branch with the rest is less than a choice with the rest. -/
theorem sizeOf_branch {branch rest : List Instruction} {branches : List (List Instruction)}
    (h : branch ∈ branches) : sizeOf (branch ++ rest) < sizeOf (.choice branches :: rest) := by
  have happend := sizeOf_append branch rest
  have hsize := List.sizeOf_lt_of_mem h
  rw [List.cons.sizeOf_spec, Instruction.choice.sizeOf_spec]
  omega

/-- After an instruction, less of the program is left. -/
theorem sizeOf_afterInstruction {e : Setting} {s : State} {rest : List Instruction} {i : Instruction}
    {next : List Thread} (h : afterInstruction e s rest i = .ok next) :
    ∀ thread ∈ next, sizeOf thread.rest < sizeOf (i :: rest) := by
  have hrest : sizeOf rest < sizeOf (i :: rest) := by
    rw [List.cons.sizeOf_spec]
    omega
  have hmap (states : List State) : ∀ thread ∈ states.map (Thread.mk · rest),
      sizeOf thread.rest < sizeOf (i :: rest) := by
    intro thread hthread
    obtain ⟨t, -, rfl⟩ := List.mem_map.mp hthread
    exact hrest
  have hsingle (t : State) : ∀ thread ∈ [Thread.mk t rest], sizeOf thread.rest < sizeOf (i :: rest) :=
    hmap [t]
  cases i with
  | read pattern => exact Except.ok.inj h ▸ hmap _
  | openCapture id => exact Except.ok.inj h ▸ hsingle _
  | closeCapture id =>
    obtain ⟨t, -, rfl⟩ := exists_of_map_eq_ok h
    exact hsingle t
  | lookup id =>
    obtain ⟨stem, -, rfl⟩ := exists_of_map_eq_ok h
    exact hmap _
  | unify features => exact Except.ok.inj h ▸ hmap _
  | assign attr source =>
    obtain ⟨value, -, rfl⟩ := exists_of_map_eq_ok h
    exact hmap _
  | tag symbol => exact Except.ok.inj h ▸ hsingle _
  | choice branches =>
    obtain rfl := Except.ok.inj h
    intro thread hthread
    obtain ⟨branch, hbranch, rfl⟩ := List.mem_map.mp hthread
    exact sizeOf_branch hbranch

/-- Whatever a thread leads to has less left to do. -/
theorem sizeOf_visit {e : Setting} {thread : Thread} {found : List Morph} {next : List Thread}
    (h : (thread.visit e).Yields (found, next)) :
    ∀ later ∈ next, sizeOf later.rest < sizeOf thread.rest := by
  obtain ⟨s, program⟩ := thread
  cases program with
  | nil =>
    obtain ⟨morphs, -, h⟩ := h.of_bind
    obtain ⟨-, rfl⟩ := Prod.mk.inj (Search.yields_pure.mp h)
    exact fun later hlater ↦ absurd hlater List.not_mem_nil
  | cons i rest =>
    obtain ⟨_, -, h⟩ := h.of_bind
    obtain ⟨threads, hthreads, h⟩ := h.of_bind
    obtain ⟨-, rfl⟩ := Prod.mk.inj (Search.yields_pure.mp h)
    exact sizeOf_afterInstruction (Search.yields_orFail hthreads)

end Thread

end Execution

/-- A rule, run at a place by a loop over threads. -/
def MorphRule.runThreads (rule : MorphRule) (text : List Char) (lexicon : Lexicon) (start : Nat) :
    Nat → Search (Option (List Morph)) :=
  Search.rounds (Execution.Thread.visit (rule.setting text lexicon start))
    [⟨rule.initial start, rule.program⟩]

/-- The loop over the threads of a rule comes to an end, with what the rule finds. -/
theorem MorphRule.settles_runThreads (rule : MorphRule) (text : List Char) (lexicon : Lexicon)
    (start : Nat) :
    Search.Settles (rule.runThreads text lexicon start) (rule.run text lexicon start) := by
  let e := rule.setting text lexicon start
  have hsettles := Search.settles_rounds (Execution.Thread.metered_visit e)
    (Execution.Thread.follow_eq e) (sizeOf ·.rest) (fun _ _ _ ↦ Execution.Thread.sizeOf_visit)
    [⟨rule.initial start, rule.program⟩]
  rw [Execution.inTurn_singleton] at hsettles
  exact hsettles

end Morphology
