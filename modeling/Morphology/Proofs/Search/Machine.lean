import Morphology.Proofs.Search.Meaning

/-!
# A machine with frames

A program can be carried out by a machine that keeps threads on a stack. A thread has a frame for
the program and for every branch that it is in, so that a branch need not be put together with what
follows it. What a thread leads to is pushed in reverse order, so that the first of it is on top.
The machine finds the meaning of the program.
-/

namespace Morphology

namespace Machine

open Execution (Setting State finish)

/-- A state, and the frames with what is left to do in them, the innermost one first. -/
structure Thread where
  state : State
  frames : List (List Instruction)

/-- The next instruction, with the frames after it. Frames that have come to an end are left. -/
def next? : List (List Instruction) → Option (Instruction × List (List Instruction))
  | [] => none
  | [] :: outer => next? outer
  | (i :: rest) :: outer => some (i, rest :: outer)

namespace Thread

/-- The threads after an instruction; a choice opens a frame for each of its branches. -/
def afterInstruction (e : Setting) (s : State) (frames : List (List Instruction)) :
    Instruction → Except Defect (List Thread)
  | .read pattern => .ok ((s.read e.text pattern).map (⟨·, frames⟩))
  | .openCapture id => .ok [⟨s.openCapture id, frames⟩]
  | .closeCapture id => (s.closeCapture id).map fun t ↦ [⟨t, frames⟩]
  | .lookup id => (s.captured e.text id).map fun stem ↦
      ((e.lexicon.readings (String.ofList stem)).filterMap s.takeReading).map (⟨·, frames⟩)
  | .unify features => .ok ((s.unify features).toList.map (⟨·, frames⟩))
  | .assign attr source => (Execution.sourceValue e s source).map fun value ↦
      (s.assign attr value).toList.map (⟨·, frames⟩)
  | .tag symbol => .ok [⟨{ s with tag := some symbol }, frames⟩]
  | .choice branches => .ok (branches.map fun branch ↦ ⟨s, branch :: frames⟩)

/-- Carries out the next instruction of a thread, or ends the thread with a morph. -/
def turn (e : Setting) (thread : Thread) : Search (List Morph × List Thread) :=
  match next? thread.frames with
  | none => do return (← finish e thread.state, [])
  | some (i, frames) => do
    Search.step
    return ([], ← Search.orFail e.rule (afterInstruction e thread.state frames i))

/-- The thread in which all frames are put together. -/
def joined (thread : Thread) : Execution.Thread := ⟨thread.state, thread.frames.flatten⟩

end Thread

/-- Pushes threads in reverse order. -/
def push (threads stack : List Thread) : List Thread :=
  threads.reverse.foldl (fun stack thread ↦ thread :: stack) stack

theorem push_eq (threads stack : List Thread) : push threads stack = threads ++ stack := by
  simp [push]

/-- Runs the machine for so many turns at most; there is no result if threads are left then. -/
def run (e : Setting) : Nat → List Thread → List Morph → Search (Option (List Morph))
  | _, [], morphs => pure (some morphs)
  | 0, _ :: _, _ => pure none
  | n + 1, thread :: stack, morphs => do
    let (found, threads) ← thread.turn e
    run e n (push threads stack) (morphs ++ found)

/-! ## Frames and threads -/

theorem flatten_of_next? {frames : List (List Instruction)} :
    frames.flatten = match next? frames with
      | none => []
      | some (i, after) => i :: after.flatten := by
  induction frames with
  | nil => rfl
  | cons frame outer ih =>
    cases frame with
    | nil => exact ih
    | cons i rest => rfl

theorem afterInstruction_joined (e : Setting) (s : State) (frames : List (List Instruction))
    (i : Instruction) : Execution.Thread.afterInstruction e s frames.flatten i =
      (Thread.afterInstruction e s frames i).map fun threads ↦ threads.map Thread.joined := by
  cases i with
  | read | unify | choice =>
    simp [Execution.Thread.afterInstruction, Thread.afterInstruction, Except.map, Thread.joined]
  | openCapture | tag => rfl
  | closeCapture id =>
    cases hclose : s.closeCapture id <;>
      simp [Execution.Thread.afterInstruction, Thread.afterInstruction, Except.map, hclose,
        Thread.joined]
  | lookup id =>
    cases hstem : s.captured e.text id <;>
      simp [Execution.Thread.afterInstruction, Thread.afterInstruction, Except.map, hstem,
        Thread.joined]
  | assign attr source =>
    cases hvalue : Execution.sourceValue e s source <;>
      simp [Execution.Thread.afterInstruction, Thread.afterInstruction, Except.map, hvalue,
        Thread.joined]

/-- Putting frames together makes no difference to a turn. -/
theorem visit_joined (e : Setting) (thread : Thread) : thread.joined.visit e =
    (fun (found, threads) ↦ (found, threads.map Thread.joined)) <$> thread.turn e := by
  unfold Execution.Thread.visit Thread.turn
  obtain ⟨s, frames⟩ := thread
  have hrest : (Thread.joined ⟨s, frames⟩).rest = frames.flatten := rfl
  rw [hrest, flatten_of_next?]
  cases next? frames with
  | none => simp [Thread.joined]
  | some later =>
    obtain ⟨i, after⟩ := later
    simp [Thread.joined, afterInstruction_joined, Execution.orFail_map]

/-- The machine makes the rounds of a loop over threads. -/
theorem run_eq_rounds (e : Setting) (n : Nat) (stack : List Thread) (morphs : List Morph) :
    run e n stack morphs = (fun found ↦ found.map (morphs ++ ·)) <$>
      Search.rounds (Execution.Thread.visit e) (stack.map Thread.joined) n := by
  induction n generalizing stack morphs with
  | zero =>
    cases stack with
    | nil => simp [run, Search.rounds]
    | cons thread stack => simp [run, Search.rounds]
  | succ n ih =>
    cases stack with
    | nil => simp [run, Search.rounds]
    | cons thread stack =>
      rw [run, List.map_cons, Search.rounds, visit_joined]
      simp only [ih, push_eq, List.map_append, map_eq_pure_bind, bind_assoc, pure_bind,
        Option.map_map, Function.comp_def, List.append_assoc]

end Machine

namespace MorphRule

/-- A rule, run at a place by the machine. -/
def runMachine (rule : MorphRule) (text : List Char) (lexicon : Lexicon) (start n : Nat) :
    Search (Option (List Morph)) :=
  Machine.run (rule.setting text lexicon start) n [⟨rule.initial start, [rule.program]⟩] []

/-- The machine comes to an end, with what the rule finds. -/
theorem settles_runMachine (rule : MorphRule) (text : List Char) (lexicon : Lexicon)
    (start : Nat) :
    Search.Settles (rule.runMachine text lexicon start) (rule.run text lexicon start) := by
  have hthreads (n : Nat) :
      rule.runMachine text lexicon start n = rule.runThreads text lexicon start n := by
    simp [runMachine, Machine.run_eq_rounds, runThreads, Machine.Thread.joined]
  obtain ⟨enough, hsettles⟩ := rule.settles_runThreads text lexicon start
  exact ⟨enough, fun n hn ↦ (hthreads n).trans (hsettles n hn)⟩

/-- The machine finds the meaning of a valid rule, at every place of every text: a morph for each
final state, in their order, if none of these is too deep, and otherwise the error that one is. -/
theorem machine_finds_finals {table : SymbolTable} {rule : MorphRule}
    (hvalid : rule.validate table = .ok ()) {text : List Char} {start : Nat}
    (hstart : start ≤ text.length) (lexicon : Lexicon) :
    Search.Settles (rule.runMachine text lexicon start) (rule.run text lexicon start) ∧
      ∃ morphs, (rule.finals text lexicon start).map Meaning.State.morph? = morphs.map some ∧
        (rule.run text lexicon start).result =
          if ∀ s ∈ rule.finals text lexicon start, s.features.depth ≤ depthLimit then .ok morphs
          else .error (.defectiveRule rule.name (.tooDeep depthLimit)) :=
  ⟨rule.settles_runMachine text lexicon start, result_run_eq_finals hvalid hstart⟩

/-- Captures two characters at most, or, in a capture that is opened again, what follows one; a
branch with contradictory bounds finds nothing. -/
def branching : MorphRule where
  name := "branching"
  tag := none
  program := [.openCapture 0,
    .choice [[.read (.any 0 (some 2))],
      [.read (.literal ['a']), .openCapture 0,
        .choice [[.read (.any 2 (some 1))], [.read (.literal ['b'])]]]],
    .closeCapture 0, .assign ⟨0⟩ (.capture 0), .tag ⟨1⟩]

theorem result_run_branching : (branching.run ['x', 'a', 'b'] ∅ 1).result =
    .ok [⟨1, [(⟨0⟩, .text "")], ⟨1⟩⟩, ⟨2, [(⟨0⟩, .text "a")], ⟨1⟩⟩, ⟨3, [(⟨0⟩, .text "ab")], ⟨1⟩⟩,
      ⟨3, [(⟨0⟩, .text "b")], ⟨1⟩⟩] := by
  decide +kernel

/-- The final states are in the order of the branches, and within a branch the nearest is first. -/
theorem machine_finds_finals_branching :
    branching.validate (.ofNames ["text", "word"]) = .ok () ∧ 1 ≤ ['x', 'a', 'b'].length ∧
      ((∀ s ∈ branching.finals ['x', 'a', 'b'] ∅ 1, s.features.depth ≤ depthLimit) ∧
        (branching.finals ['x', 'a', 'b'] ∅ 1).map Meaning.State.morph? =
          [some ⟨1, [(⟨0⟩, .text "")], ⟨1⟩⟩, some ⟨2, [(⟨0⟩, .text "a")], ⟨1⟩⟩,
            some ⟨3, [(⟨0⟩, .text "ab")], ⟨1⟩⟩, some ⟨3, [(⟨0⟩, .text "b")], ⟨1⟩⟩]) := by
  have hvalid : branching.validate (.ofNames ["text", "word"]) = .ok () := by decide
  have hstart : 1 ≤ ['x', 'a', 'b'].length := by decide
  refine ⟨hvalid, hstart, ?_⟩
  obtain ⟨-, morphs, hmorphs, hresult⟩ := machine_finds_finals hvalid hstart ∅
  rw [result_run_branching] at hresult
  split at hresult
  next hshallow =>
    rw [hmorphs, ← Except.ok.inj hresult]
    exact ⟨hshallow, rfl⟩
  next => exact absurd hresult nofun

end MorphRule

end Morphology
