import Morphology.Proofs.Search.Ways

/-!
# Shared ways

A program can be run in two settings: with other readings, or in another text. If every single
instruction leads in the second setting wherever it leads in the first one, so does the program. It
is enough when this holds for states of which something is known, and of which it is known that ways
have not left certain bounds; bounds that a way has left are never entered again.
-/

namespace Morphology.Execution

/-- An instruction that does not branch leads in another setting wherever it leads in this one, as
long as ways stay within some bounds. -/
structure Shares (e e' : Setting) (known within : State → Prop) (i : Instruction) : Prop where
  keeps_known : Preserves e known i
  keeps_outside : Preserves e (fun s ↦ ¬ within s) i
  leads : i.isBasic → ∀ s t, known s → within t → t ∈ waysOfInstruction e s i →
    t ∈ waysOfInstruction e' s i

section

variable {e e' : Setting} {known within : State → Prop}

mutual

theorem shared_instruction {s t : State} (hs : known s) (ht : within t) :
    ∀ i, (∀ j ∈ i.basics, Shares e e' known within j) → t ∈ waysOfInstruction e s i →
      t ∈ waysOfInstruction e' s i
  | .read _, h, hway => (h _ List.mem_cons_self).leads rfl s t hs ht hway
  | .openCapture _, h, hway => (h _ List.mem_cons_self).leads rfl s t hs ht hway
  | .closeCapture _, h, hway => (h _ List.mem_cons_self).leads rfl s t hs ht hway
  | .lookup _, h, hway => (h _ List.mem_cons_self).leads rfl s t hs ht hway
  | .unify _, h, hway => (h _ List.mem_cons_self).leads rfl s t hs ht hway
  | .assign _ _, h, hway => (h _ List.mem_cons_self).leads rfl s t hs ht hway
  | .tag _, h, hway => (h _ List.mem_cons_self).leads rfl s t hs ht hway
  | .choice branches, h, hway => by
    rw [waysOfInstruction] at hway ⊢
    exact shared_branches hs ht branches h hway

/-- A way that ends within the bounds is a way in the other setting, too. -/
theorem shared_program {s t : State} (hs : known s) (ht : within t) :
    ∀ program, (∀ j ∈ Instruction.basicsOfProgram program, Shares e e' known within j) →
      t ∈ waysOfProgram e s program → t ∈ waysOfProgram e' s program
  | [], _, hway => by
    rw [waysOfProgram] at hway ⊢
    exact hway
  | i :: rest, h, hway => by
    rw [waysOfProgram] at hway ⊢
    rw [Instruction.basicsOfProgram] at h
    obtain ⟨u, hu, hway⟩ := List.mem_flatMap.mp hway
    have hfirst : ∀ j ∈ i.basics, Shares e e' known within j :=
      fun j hj ↦ h j (List.mem_append_left _ hj)
    have hrest : ∀ j ∈ Instruction.basicsOfProgram rest, Shares e e' known within j :=
      fun j hj ↦ h j (List.mem_append_right _ hj)
    -- A way that is outside of the bounds in between would end outside of them.
    have hwithin : within u := by
      apply Classical.byContradiction
      intro houtside
      exact preserves_program houtside rest (fun j hj ↦ (hrest j hj).keeps_outside) hway ht
    have hknown : known u :=
      preserves_instruction hs i (fun j hj ↦ (hfirst j hj).keeps_known) hu
    exact List.mem_flatMap.mpr ⟨u, shared_instruction hs hwithin i hfirst hu,
      shared_program hknown ht rest hrest hway⟩

theorem shared_branches {s t : State} (hs : known s) (ht : within t) :
    ∀ branches, (∀ j ∈ Instruction.basicsOfBranches branches, Shares e e' known within j) →
      t ∈ waysOfBranches e s branches → t ∈ waysOfBranches e' s branches
  | [], _, hway => by
    rw [waysOfBranches] at hway
    exact absurd hway List.not_mem_nil
  | branch :: rest, h, hway => by
    rw [waysOfBranches] at hway ⊢
    rw [Instruction.basicsOfBranches] at h
    rcases List.mem_append.mp hway with hway | hway
    · exact List.mem_append_left _
        (shared_program hs ht branch (fun j hj ↦ h j (List.mem_append_left _ hj)) hway)
    · exact List.mem_append_right _
        (shared_branches hs ht rest (fun j hj ↦ h j (List.mem_append_right _ hj)) hway)

end

end

end Morphology.Execution
