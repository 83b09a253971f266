import Morphology.Proofs.Grammar.Validity
import Morphology.Proofs.Search.Ways

/-!
# Paths through a program

A path takes one branch at every choice that it comes to. The flow check looks at each place of a
program once, although the number of paths that lead there can grow exponentially with the choices
before it. Still it is exact: what is known at a place is precisely what holds on all of these
paths, because whatever a path does to captures and to the tag, it does whatever came before. So the
check fails only where some path is improper.
-/

namespace Morphology

/-- The instructions along a path through a program, which do not branch, and what is left of the
program where the path stops. Nothing follows a choice without branches. -/
inductive Path : Program → List Instruction → Program → Prop
  | stop (program : Program) : Path program [] program
  | step {i : Instruction} {rest left : Program} {path : List Instruction} (basic : i.isBasic)
      (later : Path rest path left) : Path (i :: rest) (i :: path) left
  | branch {branches : List Program} {branch rest left : Program} {path : List Instruction}
      (mem : branch ∈ branches) (later : Path (branch ++ rest) path left) :
      Path (.choice branches :: rest) path left

/-- Whether a capture is closed after a path, and not opened again since. -/
def ClosedAfter (path : List Instruction) (id : UInt8) : Prop :=
  ∃ before after, path = before ++ .closeCapture id :: after ∧ .openCapture id ∉ after

namespace Instruction

/-- Whether an instruction finds what it needs after a path: a capture must be opened before it is
closed, and be closed where it is used. -/
def AllowedAfter (path : List Instruction) : Instruction → Prop
  | closeCapture id => .openCapture id ∈ path
  | lookup id => ClosedAfter path id
  | assign _ (.capture id) => ClosedAfter path id
  | _ => True

/-- Whether an instruction gives morphs a tag. -/
def Tags : Instruction → Prop
  | lookup _ => True
  | tag _ => True
  | _ => False

end Instruction

/-- Whether every instruction on a path finds what it needs. -/
def Proper (path : List Instruction) : Prop :=
  ∀ before i after, path = before ++ i :: after → i.AllowedAfter before

/-! ## Longer paths -/

namespace Path

variable {p q left : Program} {path later : List Instruction}

theorem append (h : Path p path left) (q : Program) : Path (p ++ q) path (left ++ q) := by
  induction h with
  | stop p => exact .stop (p ++ q)
  | step basic _ ih => exact .step basic ih
  | branch mem _ ih =>
    rw [List.append_assoc] at ih
    exact .branch mem ih

theorem trans (h : Path p path q) (hlater : Path q later left) : Path p (path ++ later) left := by
  induction h with
  | stop p => exact hlater
  | step basic _ ih => exact .step basic (ih hlater)
  | branch mem _ ih => exact .branch mem (ih hlater)

/-- A path through two programs stops in the first one, or goes through it to its end. -/
theorem cases_append (h : Path (p ++ q) path left) :
    (∃ rest, Path p path rest ∧ left = rest ++ q) ∨
      ∃ first second, path = first ++ second ∧ Path p first [] ∧ Path q second left := by
  generalize hprogram : p ++ q = program at h
  induction h generalizing p with
  | stop program => exact .inl ⟨p, .stop p, hprogram.symm⟩
  | @step i rest left path basic later ih =>
    cases p with
    | nil =>
      obtain rfl : q = i :: rest := hprogram
      exact .inr ⟨[], i :: path, rfl, .stop [], .step basic later⟩
    | cons j p =>
      obtain ⟨rfl, rfl⟩ := List.cons.inj hprogram
      rcases ih rfl with ⟨rest, hfirst, hleft⟩ | ⟨first, second, rfl, hfirst, hsecond⟩
      · exact .inl ⟨rest, .step basic hfirst, hleft⟩
      · exact .inr ⟨j :: first, second, rfl, .step basic hfirst, hsecond⟩
  | @branch branches branch rest left path mem later ih =>
    cases p with
    | nil =>
      obtain rfl : q = .choice branches :: rest := hprogram
      exact .inr ⟨[], path, rfl, .stop [], .branch mem later⟩
    | cons j p =>
      obtain ⟨rfl, rfl⟩ := List.cons.inj hprogram
      rcases ih (List.append_assoc branch p q) with
        ⟨rest, hfirst, hleft⟩ | ⟨first, second, rfl, hfirst, hsecond⟩
      · exact .inl ⟨rest, .branch mem hfirst, hleft⟩
      · exact .inr ⟨first, second, rfl, .branch mem hfirst, hsecond⟩

/-- A path through two programs to the end goes through one after the other. -/
theorem through_append (h : Path (p ++ q) path []) :
    ∃ first second, path = first ++ second ∧ Path p first [] ∧ Path q second [] := by
  rcases h.cases_append with ⟨rest, hfirst, hrest⟩ | hboth
  · obtain ⟨rfl, rfl⟩ := List.append_eq_nil_iff.mp hrest.symm
    exact ⟨path, [], (List.append_nil path).symm, hfirst, .stop []⟩
  · exact hboth

theorem cases_basic {i : Instruction} (hbasic : i.isBasic) (h : Path [i] path left) :
    path = [] ∧ left = [i] ∨ path = [i] ∧ left = [] := by
  cases h with
  | stop => exact .inl ⟨rfl, rfl⟩
  | step _ later =>
    cases later
    exact .inr ⟨rfl, rfl⟩
  | branch => exact absurd hbasic nofun

theorem cases_choice {branches : List Program} (h : Path [.choice branches] path left) :
    path = [] ∧ left = [.choice branches] ∨ ∃ branch ∈ branches, Path branch path left := by
  cases h with
  | stop => exact .inl ⟨rfl, rfl⟩
  | step basic => exact absurd basic nofun
  | branch mem later =>
    rw [List.append_nil] at later
    exact .inr ⟨_, mem, later⟩

theorem of_branch {branches : List Program} {branch : Program} (hmem : branch ∈ branches)
    (h : Path branch path left) : Path [.choice branches] path left :=
  .branch hmem (by rwa [List.append_nil])

end Path

section

variable {path : List Instruction} {i : Instruction} {id : UInt8}

/-- Where a path ends in an instruction, that instruction is met last. -/
theorem snoc_eq_iff {before after : List Instruction} {j : Instruction} :
    path ++ [i] = before ++ j :: after ↔
      path = before ∧ i = j ∧ after = [] ∨
        ∃ more, path = before ++ j :: more ∧ after = more ++ [i] := by
  constructor
  · intro heq
    rcases List.eq_nil_or_concat' after with rfl | ⟨more, k, rfl⟩
    · obtain ⟨rfl, rfl⟩ := List.append_singleton_inj.mp heq
      exact .inl ⟨rfl, rfl, rfl⟩
    · rw [← List.cons_append, ← List.append_assoc, List.append_singleton_inj] at heq
      obtain ⟨rfl, rfl⟩ := heq
      exact .inr ⟨more, rfl, rfl⟩
  · rintro (⟨rfl, rfl, rfl⟩ | ⟨more, rfl, rfl⟩)
    · rfl
    · rw [List.append_assoc, List.cons_append]

theorem closedAfter_snoc : ClosedAfter (path ++ [i]) id ↔
    i = .closeCapture id ∨ i ≠ .openCapture id ∧ ClosedAfter path id := by
  constructor
  · rintro ⟨before, after, heq, hnot⟩
    rcases snoc_eq_iff.mp heq with ⟨-, hi, -⟩ | ⟨more, hpath, rfl⟩
    · exact .inl hi
    · rw [List.mem_append, not_or, List.mem_singleton] at hnot
      exact .inr ⟨fun hopen ↦ hnot.2 hopen.symm, before, more, hpath, hnot.1⟩
  · rintro (rfl | ⟨hother, before, more, hpath, hnot⟩)
    · exact ⟨path, [], rfl, List.not_mem_nil⟩
    · refine ⟨before, more ++ [i], snoc_eq_iff.mpr (.inr ⟨more, hpath, rfl⟩), ?_⟩
      rw [List.mem_append, not_or, List.mem_singleton]
      exact ⟨hnot, fun hopen ↦ hother hopen.symm⟩

theorem proper_snoc : Proper (path ++ [i]) ↔ Proper path ∧ i.AllowedAfter path := by
  constructor
  · intro h
    constructor
    · intro before j more hpath
      exact h before j (more ++ [i]) (snoc_eq_iff.mpr (.inr ⟨more, hpath, rfl⟩))
    · exact h path i [] rfl
  · rintro ⟨hpath, hi⟩ before j after heq
    rcases snoc_eq_iff.mp heq with ⟨rfl, rfl, -⟩ | ⟨more, hmore, -⟩
    · exact hi
    · exact hpath before j more hmore

end

end Morphology
