import Morphology.Proofs.Search.Captures
import Morphology.Proofs.Search.Metering

/-!
# Ways through a program

What a program means, apart from steps and errors: the list of the states in which its ways end,
in the order in which they are followed. A way ends early where structures contradict each other,
where a pattern fits nothing, or where a capture is missing.
-/

namespace Morphology

namespace Execution

mutual

/-- The states after an instruction. -/
def waysOfInstruction (e : Setting) (s : State) : Instruction → List State
  | .read pattern => s.read e.text pattern
  | .openCapture id => [s.openCapture id]
  | .closeCapture id =>
    match s.closeCapture id with
    | .ok t => [t]
    | .error _ => []
  | .lookup id =>
    match s.captured e.text id with
    | .ok stem => (e.lexicon.readings (String.ofList stem)).filterMap s.takeReading
    | .error _ => []
  | .unify features => (s.unify features).toList
  | .assign attr source =>
    match sourceValue e s source with
    | .ok value => (s.assign attr value).toList
    | .error _ => []
  | .tag symbol => [{ s with tag := some symbol }]
  | .choice branches => waysOfBranches e s branches

/-- The states after a program. -/
def waysOfProgram (e : Setting) (s : State) : List Instruction → List State
  | [] => [s]
  | i :: rest => (waysOfInstruction e s i).flatMap fun t ↦ waysOfProgram e t rest

/-- The states after one or another of several programs. -/
def waysOfBranches (e : Setting) (s : State) : List (List Instruction) → List State
  | [] => []
  | branch :: rest => waysOfProgram e s branch ++ waysOfBranches e s rest

end

end Execution

/-! ## Single instructions -/

namespace Instruction

/-- Whether an instruction does not branch. -/
def isBasic : Instruction → Bool
  | choice _ => false
  | _ => true

mutual

/-- The instructions that make up an instruction and do not branch themselves. -/
def basics : Instruction → List Instruction
  | choice branches => basicsOfBranches branches
  | i => [i]

def basicsOfProgram : List Instruction → List Instruction
  | [] => []
  | i :: rest => i.basics ++ basicsOfProgram rest

def basicsOfBranches : List (List Instruction) → List Instruction
  | [] => []
  | branch :: rest => basicsOfProgram branch ++ basicsOfBranches rest

end

theorem mem_basicsOfProgram {j : Instruction} {program : List Instruction} :
    j ∈ basicsOfProgram program ↔ ∃ i ∈ program, j ∈ i.basics := by
  induction program with
  | nil => simp [basicsOfProgram]
  | cons i rest ih => simp [basicsOfProgram, ih]

theorem mem_basicsOfBranches {j : Instruction} {branches : List (List Instruction)} :
    j ∈ basicsOfBranches branches ↔ ∃ branch ∈ branches, j ∈ basicsOfProgram branch := by
  induction branches with
  | nil => simp [basicsOfBranches]
  | cons branch rest ih => simp [basicsOfBranches, ih]

end Instruction

namespace Execution

/-- Where an instruction that does not branch leads: only reading moves on, only a reading of a stem
and a tag give a tag, and structures grow by unification alone. -/
inductive Leads (e : Setting) (s : State) : Instruction → State → Prop
  | read {pattern : TextPattern} {n : Nat} (mem : n ∈ pattern.lengths (e.text.drop s.position)) :
      Leads e s (.read pattern) { s with position := s.position + n }
  | openCapture (id : UInt8) : Leads e s (.openCapture id) (s.openCapture id)
  | closeCapture {id : UInt8} (opened : s.captures.any (·.id == id)) :
      Leads e s (.closeCapture id) (s.stopCapture id)
  | lookup {id : UInt8} {stem : List Char} {reading : Reading} {features : Structure}
      (captured : s.captured e.text id = .ok stem)
      (mem : reading ∈ e.lexicon.readings (String.ofList stem))
      (unify : s.features.unify reading.features = some features) :
      Leads e s (.lookup id) { s with features, tag := some reading.tag }
  | unify {added features : Structure} (unify : s.features.unify added = some features) :
      Leads e s (.unify added) { s with features }
  | assign {attr : Symbol} {source : Source} {value : Value} {features : Structure}
      (source_eq : sourceValue e s source = .ok value)
      (add : s.features.add? attr value = some features) :
      Leads e s (.assign attr source) { s with features }
  | tag (symbol : Symbol) : Leads e s (.tag symbol) { s with tag := some symbol }

section

variable {e : Setting} {s t : State} {i : Instruction}

theorem leads_of_mem (hbasic : i.isBasic) (ht : t ∈ waysOfInstruction e s i) : Leads e s i t := by
  cases i with
  | read pattern =>
    obtain ⟨n, hn, rfl⟩ := List.mem_map.mp ht
    exact .read hn
  | openCapture id =>
    obtain rfl := List.mem_singleton.mp ht
    exact .openCapture id
  | closeCapture id =>
    rw [waysOfInstruction] at ht
    split at ht
    next u hclose =>
      obtain ⟨hopened, rfl⟩ := State.closeCapture_eq_ok_iff.mp hclose
      obtain rfl := List.mem_singleton.mp ht
      exact .closeCapture hopened
    next => exact absurd ht List.not_mem_nil
  | lookup id =>
    rw [waysOfInstruction] at ht
    split at ht
    next stem hstem =>
      obtain ⟨reading, hreading, htake⟩ := List.mem_filterMap.mp ht
      obtain ⟨u, hunify, rfl⟩ := Option.map_eq_some_iff.mp htake
      obtain ⟨features, hfeatures, rfl⟩ := Option.map_eq_some_iff.mp hunify
      exact .lookup hstem hreading hfeatures
    next => exact absurd ht List.not_mem_nil
  | unify added =>
    obtain ⟨features, hfeatures, rfl⟩ := Option.map_eq_some_iff.mp (Option.mem_toList.mp ht)
    exact .unify hfeatures
  | assign attr source =>
    rw [waysOfInstruction] at ht
    split at ht
    next value hvalue =>
      obtain ⟨features, hfeatures, rfl⟩ := Option.map_eq_some_iff.mp (Option.mem_toList.mp ht)
      exact .assign hvalue hfeatures
    next => exact absurd ht List.not_mem_nil
  | tag symbol =>
    obtain rfl := List.mem_singleton.mp ht
    exact .tag symbol
  | choice branches => exact absurd hbasic nofun

namespace Leads

/-- Wherever an instruction leads is a state after it. -/
theorem mem (h : Leads e s i t) : t ∈ waysOfInstruction e s i := by
  cases h with
  | read hn => exact List.mem_map.mpr ⟨_, hn, rfl⟩
  | openCapture id => exact List.mem_singleton_self _
  | closeCapture hopened =>
    rw [waysOfInstruction, State.closeCapture_eq_ok_iff.mpr ⟨hopened, rfl⟩]
    exact List.mem_singleton_self _
  | lookup hstem hreading hunify =>
    simp only [waysOfInstruction, hstem]
    refine List.mem_filterMap.mpr ⟨_, hreading, ?_⟩
    rw [State.takeReading, State.unify, hunify]
    rfl
  | unify hunify =>
    rw [waysOfInstruction, State.unify, hunify]
    exact List.mem_singleton_self _
  | assign hvalue hadd =>
    simp only [waysOfInstruction, hvalue, State.assign, hadd]
    exact List.mem_singleton_self _
  | tag symbol => exact List.mem_singleton_self _

/-- No instruction goes back. -/
theorem position_le (h : Leads e s i t) : s.position ≤ t.position := by
  cases h with
  | read => exact Nat.le_add_right _ _
  | openCapture | closeCapture | lookup | unify | assign | tag => exact Nat.le_refl _

end Leads

end

/-! ## What ways keep -/

section

variable {e : Setting} {keeps : State → Prop}

/-- A property of states is kept by an instruction that does not branch. -/
def Preserves (e : Setting) (keeps : State → Prop) (i : Instruction) : Prop :=
  i.isBasic → ∀ s t, keeps s → t ∈ waysOfInstruction e s i → keeps t

mutual

theorem preserves_instruction {s t : State} (hs : keeps s) :
    ∀ i, (∀ j ∈ i.basics, Preserves e keeps j) → t ∈ waysOfInstruction e s i → keeps t
  | .read _, h, ht => h _ List.mem_cons_self rfl s t hs ht
  | .openCapture _, h, ht => h _ List.mem_cons_self rfl s t hs ht
  | .closeCapture _, h, ht => h _ List.mem_cons_self rfl s t hs ht
  | .lookup _, h, ht => h _ List.mem_cons_self rfl s t hs ht
  | .unify _, h, ht => h _ List.mem_cons_self rfl s t hs ht
  | .assign _ _, h, ht => h _ List.mem_cons_self rfl s t hs ht
  | .tag _, h, ht => h _ List.mem_cons_self rfl s t hs ht
  | .choice branches, h, ht => by
    rw [waysOfInstruction] at ht
    exact preserves_branches hs branches h ht

/-- What all instructions of a program keep is kept along its ways. -/
theorem preserves_program {s t : State} (hs : keeps s) :
    ∀ program, (∀ j ∈ Instruction.basicsOfProgram program, Preserves e keeps j) →
      t ∈ waysOfProgram e s program → keeps t
  | [], _, ht => by
    rw [waysOfProgram] at ht
    exact List.mem_singleton.mp ht ▸ hs
  | i :: rest, h, ht => by
    rw [waysOfProgram] at ht
    rw [Instruction.basicsOfProgram] at h
    obtain ⟨u, hu, ht⟩ := List.mem_flatMap.mp ht
    have hfirst : keeps u :=
      preserves_instruction hs i (fun j hj ↦ h j (List.mem_append_left _ hj)) hu
    exact preserves_program hfirst rest (fun j hj ↦ h j (List.mem_append_right _ hj)) ht

theorem preserves_branches {s t : State} (hs : keeps s) :
    ∀ branches, (∀ j ∈ Instruction.basicsOfBranches branches, Preserves e keeps j) →
      t ∈ waysOfBranches e s branches → keeps t
  | [], _, ht => by
    rw [waysOfBranches] at ht
    exact absurd ht List.not_mem_nil
  | branch :: rest, h, ht => by
    rw [waysOfBranches] at ht
    rw [Instruction.basicsOfBranches] at h
    rcases List.mem_append.mp ht with ht | ht
    · exact preserves_program hs branch (fun j hj ↦ h j (List.mem_append_left _ hj)) ht
    · exact preserves_branches hs rest (fun j hj ↦ h j (List.mem_append_right _ hj)) ht

end

end

/-! ## Several ways in turn -/

section

variable {α γ : Type} {follow g : α → Search (List γ)}

theorem metered_inTurn {l : List α} (h : ∀ a ∈ l, (follow a).Metered) :
    (inTurn follow l).Metered := by
  induction l with
  | nil => exact Search.metered_pure []
  | cons a rest ih =>
    have hrest : (inTurn follow rest).Metered := ih fun b hb ↦ h b (List.mem_cons_of_mem a hb)
    exact (h a List.mem_cons_self).bind fun found _ ↦ Search.metered_map hrest (found ++ ·)

theorem result_inTurn_cons {a : α} {rest : List α} (h : ∀ b ∈ a :: rest, (follow b).Metered) :
    (inTurn follow (a :: rest)).result =
      (follow a).result.bind fun found ↦ (inTurn follow rest).result.map (found ++ ·) := by
  have hrest : (inTurn follow rest).Metered :=
    metered_inTurn fun b hb ↦ h b (List.mem_cons_of_mem a hb)
  rw [inTurn, (h a List.mem_cons_self).result_bind fun found _ ↦
    Search.metered_map hrest (found ++ ·)]
  simp only [Search.result_map hrest]

theorem inTurn_singleton (follow : α → Search (List γ)) (a : α) :
    inTurn follow [a] = follow a := by
  simp [inTurn]

theorem inTurn_append (follow : α → Search (List γ)) (l m : List α) :
    inTurn follow (l ++ m) = do
      let found ← inTurn follow l
      return found ++ (← inTurn follow m) := by
  induction l with
  | nil => simp [inTurn]
  | cons a rest ih =>
    simp only [List.cons_append, inTurn, ih, bind_assoc, pure_bind, List.append_assoc]

theorem result_inTurn_append {l m : List α} (hl : ∀ a ∈ l, (follow a).Metered)
    (hm : ∀ a ∈ m, (follow a).Metered) :
    (inTurn follow (l ++ m)).result =
      (inTurn follow l).result.bind fun found ↦ (inTurn follow m).result.map (found ++ ·) := by
  have hmetered := metered_inTurn hm
  rw [inTurn_append, (metered_inTurn hl).result_bind fun found _ ↦
    Search.metered_map hmetered (found ++ ·)]
  simp only [Search.result_map hmetered]

theorem inTurn_map {β : Type} (follow : β → Search (List γ)) (w : α → β) (l : List α) :
    inTurn follow (l.map w) = inTurn (fun a ↦ follow (w a)) l := by
  induction l with
  | nil => simp [inTurn]
  | cons a rest ih => simp [inTurn, ih]

/-- Following ways that split up into further ways is following all of these in turn. -/
theorem result_inTurn_flatMap {β : Type} {follow : β → Search (List γ)} {w : α → List β}
    {l : List α} (hg : ∀ a ∈ l, (g a).Metered) (hfollow : ∀ b, (follow b).Metered)
    (h : ∀ a ∈ l, (g a).result = (inTurn follow (w a)).result) :
    (inTurn g l).result = (inTurn follow (l.flatMap w)).result := by
  induction l with
  | nil => simp [inTurn]
  | cons a rest ih =>
    have hrest := ih (fun b hb ↦ hg b (List.mem_cons_of_mem a hb))
      (fun b hb ↦ h b (List.mem_cons_of_mem a hb))
    calc
      (inTurn g (a :: rest)).result =
          (g a).result.bind fun found ↦ (inTurn g rest).result.map (found ++ ·) :=
        result_inTurn_cons hg
      _ = (inTurn follow (w a)).result.bind fun found ↦
          (inTurn follow (rest.flatMap w)).result.map (found ++ ·) := by
        rw [h a List.mem_cons_self, hrest]
      _ = (inTurn follow (w a ++ rest.flatMap w)).result :=
        (result_inTurn_append (fun b _ ↦ hfollow b) (fun b _ ↦ hfollow b)).symm
      _ = _ := by rw [List.flatMap_cons]

end

theorem runBranches_eq_inTurn (e : Setting) (s : State) (next : State → Search (List Morph))
    (branches : List (List Instruction)) :
    runBranches e s next branches = inTurn (runProgram e s next) branches := by
  induction branches with
  | nil => simp [runBranches, inTurn]
  | cons branch rest ih => simp [runBranches, inTurn, ih]

/-! ## Metering -/

theorem metered_finish (e : Setting) (s : State) : (finish e s).Metered := by
  refine Search.metered_step_bind ?_
  split
  · exact Search.metered_fail _ _
  · split
    · exact Search.metered_fail _ _
    · exact Search.metered_pure _

mutual

theorem metered_runInstruction {e : Setting} {s : State} {next : State → Search (List Morph)}
    (hnext : ∀ t, (next t).Metered) : ∀ i, (runInstruction e s next i).Metered
  | .read pattern => by
    rw [runInstruction]
    exact Search.metered_step_bind (metered_inTurn fun t _ ↦ hnext t)
  | .openCapture id => by
    rw [runInstruction]
    exact Search.metered_step_bind (hnext _)
  | .closeCapture id => by
    rw [runInstruction]
    exact Search.metered_step_bind ((Search.metered_orFail _ _).bind fun t _ ↦ hnext t)
  | .lookup id => by
    rw [runInstruction]
    exact Search.metered_step_bind
      ((Search.metered_orFail _ _).bind fun _ _ ↦ metered_inTurn fun t _ ↦ hnext t)
  | .unify features => by
    rw [runInstruction]
    exact Search.metered_step_bind (metered_inTurn fun t _ ↦ hnext t)
  | .assign attr source => by
    rw [runInstruction]
    exact Search.metered_step_bind
      ((Search.metered_orFail _ _).bind fun _ _ ↦ metered_inTurn fun t _ ↦ hnext t)
  | .tag symbol => by
    rw [runInstruction]
    exact Search.metered_step_bind (hnext _)
  | .choice branches => by
    rw [runInstruction]
    exact Search.metered_step_bind (metered_runBranches hnext branches)

theorem metered_runProgram {e : Setting} {s : State} {next : State → Search (List Morph)}
    (hnext : ∀ t, (next t).Metered) : ∀ program, (runProgram e s next program).Metered
  | [] => by
    rw [runProgram]
    exact hnext s
  | i :: rest => by
    rw [runProgram]
    exact metered_runInstruction (fun _ ↦ metered_runProgram hnext rest) i

theorem metered_runBranches {e : Setting} {s : State} {next : State → Search (List Morph)}
    (hnext : ∀ t, (next t).Metered) : ∀ branches, (runBranches e s next branches).Metered
  | [] => by
    rw [runBranches]
    exact Search.metered_pure []
  | branch :: rest => by
    rw [runBranches]
    exact (metered_runProgram hnext branch).bind fun found _ ↦
      Search.metered_map (metered_runBranches hnext rest) (found ++ ·)

end

end Execution

namespace MorphRule

/-- The setting of a rule that is run at a place of a text. -/
def setting (rule : MorphRule) (text : List Char) (lexicon : Lexicon) (start : Nat) :
    Execution.Setting := { rule := rule.name, text, lexicon, start }

/-- The state in which a rule starts. -/
def initial (rule : MorphRule) (start : Nat) : Execution.State :=
  { position := start, features := .empty, tag := rule.tag, captures := [] }

/-- The states in which the ways of a rule from a place of a text end. -/
def ways (rule : MorphRule) (text : List Char) (lexicon : Lexicon) (start : Nat) :
    List Execution.State :=
  Execution.waysOfProgram (rule.setting text lexicon start) (rule.initial start) rule.program

theorem metered_run (rule : MorphRule) (text : List Char) (lexicon : Lexicon) (start : Nat) :
    (rule.run text lexicon start).Metered :=
  Execution.metered_runProgram (Execution.metered_finish _) rule.program

end MorphRule

end Morphology
