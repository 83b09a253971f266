import Morphology.Proofs.Rule.Paths

/-!
# What is known at a place

The flow check enters a program with knowledge about the paths that lead to it. If this is exactly
what holds on all of them, then the same is true at the end of the program, with the paths that go
through it to its end. A defect is found just where one of these paths is improper, and nothing is
known where no path gets.
-/

namespace Morphology

namespace Flow

variable {tagged : Bool} {paths : List Instruction → Prop}

/-- What is known is exactly what holds on each of some paths. -/
structure Summarizes (tagged : Bool) (paths : List Instruction → Prop) (flow : Flow) : Prop where
  exists_path : ∃ path, paths path
  opened_iff : ∀ id, id ∈ flow.opened ↔ ∀ path, paths path → .openCapture id ∈ path
  closed_iff : ∀ id, id ∈ flow.closed ↔ ∀ path, paths path → ClosedAfter path id
  tagged_iff : flow.tagged ↔ ∀ path, paths path → tagged ∨ ∃ i ∈ path, i.Tags

/-- What is known, if anything, is exactly what holds on each of some paths. -/
def Sums (tagged : Bool) (paths : List Instruction → Prop) : Option Flow → Prop
  | none => ¬∃ path, paths path
  | some flow => flow.Summarizes tagged paths

/-! ## Single instructions -/

/-- Whether an instruction is allowed by what is known. -/
def Allows (flow : Flow) : Instruction → Prop
  | .closeCapture id => id ∈ flow.opened
  | .lookup id => id ∈ flow.closed
  | .assign _ (.capture id) => id ∈ flow.closed
  | _ => True

/-- What is known after an instruction, as compared with what was known before it. -/
structure Follows (flow : Flow) (i : Instruction) (next : Flow) : Prop where
  opened_iff : ∀ id, id ∈ next.opened ↔ i = .openCapture id ∨ id ∈ flow.opened
  closed_iff : ∀ id, id ∈ next.closed ↔
    i = .closeCapture id ∨ i ≠ .openCapture id ∧ id ∈ flow.closed
  tagged_iff : next.tagged ↔ i.Tags ∨ flow.tagged

/-- An instruction that does not branch is either refused or passed. -/
theorem afterInstruction_basic (flow : Flow) {i : Instruction} (hbasic : i.isBasic) :
    (∃ defect, flow.afterInstruction i = .error defect) ∧ ¬flow.Allows i ∨
      ∃ next, flow.afterInstruction i = .ok (some next) ∧ flow.Allows i ∧ flow.Follows i next := by
  cases i with
  | openCapture id =>
    refine .inr ⟨_, rfl, trivial, ⟨fun other ↦ ?_, fun other ↦ ?_, ?_⟩⟩
    · simp [openCapture, eq_comm]
    · rw [openCapture, List.mem_filter, and_comm, bne_iff_ne, ne_comm]
      simp
    · simp [openCapture, Instruction.Tags]
  | closeCapture id =>
    rw [afterInstruction, closeCapture]
    by_cases hopen : id ∈ flow.opened
    · rw [if_pos (List.contains_iff_mem.mpr hopen)]
      refine .inr ⟨_, rfl, hopen, ⟨fun other ↦ ?_, fun other ↦ ?_, ?_⟩⟩
      · simp
      · simp [eq_comm]
      · simp [Instruction.Tags]
    · rw [if_neg fun hcontains ↦ hopen (List.contains_iff_mem.mp hcontains)]
      exact .inl ⟨⟨_, rfl⟩, hopen⟩
  | lookup id =>
    rw [afterInstruction, useCapture]
    by_cases hclosed : id ∈ flow.closed
    · rw [if_pos (List.contains_iff_mem.mpr hclosed)]
      exact .inr ⟨_, rfl, hclosed, ⟨by simp [setTag], by simp [setTag],
        by simp [setTag, Instruction.Tags]⟩⟩
    · rw [if_neg fun hcontains ↦ hclosed (List.contains_iff_mem.mp hcontains)]
      exact .inl ⟨⟨_, rfl⟩, hclosed⟩
  | assign attr source =>
    cases source with
    | capture id =>
      rw [afterInstruction, useCapture]
      by_cases hclosed : id ∈ flow.closed
      · rw [if_pos (List.contains_iff_mem.mpr hclosed)]
        exact .inr ⟨_, rfl, hclosed, ⟨by simp, by simp, by simp [Instruction.Tags]⟩⟩
      · rw [if_neg fun hcontains ↦ hclosed (List.contains_iff_mem.mp hcontains)]
        exact .inl ⟨⟨_, rfl⟩, hclosed⟩
    | constant | surface =>
      exact .inr ⟨flow, rfl, trivial, ⟨by simp, by simp, by simp [Instruction.Tags]⟩⟩
  | tag symbol =>
    exact .inr ⟨_, rfl, trivial, ⟨by simp [setTag], by simp [setTag],
      by simp [setTag, Instruction.Tags]⟩⟩
  | read | unify =>
    exact .inr ⟨flow, rfl, trivial, ⟨by simp, by simp, by simp [Instruction.Tags]⟩⟩
  | choice => exact absurd hbasic nofun

namespace Summarizes

variable {flow next : Flow} {i : Instruction} {path : List Instruction}

/-- What is known allows an instruction if every path does. -/
theorem allows_iff (h : flow.Summarizes tagged paths) (hbasic : i.isBasic) :
    flow.Allows i ↔ ∀ path, paths path → i.AllowedAfter path := by
  cases i with
  | closeCapture id => exact h.opened_iff id
  | lookup id => exact h.closed_iff id
  | assign attr source =>
    cases source with
    | capture id => exact h.closed_iff id
    | constant | surface => exact iff_of_true trivial fun _ _ ↦ trivial
  | openCapture | tag | read | unify => exact iff_of_true trivial fun _ _ ↦ trivial
  | choice => exact absurd hbasic nofun

/-- What is known follows the paths from one instruction to the next. -/
theorem snoc (h : flow.Summarizes tagged paths) (hnext : flow.Follows i next) :
    next.Summarizes tagged fun path ↦ ∃ before, paths before ∧ path = before ++ [i] := by
  have hlonger {P : List Instruction → Prop} :
      (∀ path, (∃ before, paths before ∧ path = before ++ [i]) → P path) ↔
        ∀ before, paths before → P (before ++ [i]) :=
    ⟨fun hall before hbefore ↦ hall _ ⟨before, hbefore, rfl⟩,
      fun hall _ ⟨before, hbefore, heq⟩ ↦ heq ▸ hall before hbefore⟩
  obtain ⟨before, hbefore⟩ := h.exists_path
  refine ⟨⟨before ++ [i], before, hbefore, rfl⟩, fun id ↦ ?_, fun id ↦ ?_, ?_⟩
  · rw [hnext.opened_iff, h.opened_iff, hlonger]
    by_cases hopen : i = .openCapture id
    · simp [hopen]
    · simp [hopen, Ne.symm hopen]
  · rw [hnext.closed_iff, h.closed_iff, hlonger]
    simp only [closedAfter_snoc]
    by_cases hclose : i = .closeCapture id
    · simp [hclose]
    · by_cases hopen : i = .openCapture id
      · simpa [hopen] using ⟨before, hbefore⟩
      · simp [hclose, hopen]
  · rw [hnext.tagged_iff, h.tagged_iff, hlonger]
    by_cases htags : i.Tags
    · simp [htags]
    · simp [htags]

end Summarizes

/-! ## Branches -/

/-- What is known on each of two sets of paths is known on all of these paths. -/
theorem sums_join {others : List Instruction → Prop} {known branch : Option Flow}
    (h : Sums tagged paths known) (hbranch : Sums tagged others branch) :
    Sums tagged (fun path ↦ paths path ∨ others path) (join known branch) := by
  cases known with
  | none =>
    have heq : (fun path ↦ paths path ∨ others path) = others :=
      funext fun path ↦ propext (or_iff_right fun hpath ↦ h ⟨path, hpath⟩)
    rw [heq]
    exact hbranch
  | some flow =>
    cases branch with
    | none =>
      have heq : (fun path ↦ paths path ∨ others path) = paths :=
        funext fun path ↦ propext (or_iff_left fun hpath ↦ hbranch ⟨path, hpath⟩)
      rw [heq]
      exact h
    | some other =>
      obtain ⟨path, hpath⟩ := h.exists_path
      refine ⟨⟨path, .inl hpath⟩, fun id ↦ ?_, fun id ↦ ?_, ?_⟩
      · rw [meet, List.mem_filter, List.contains_iff_mem, h.opened_iff, hbranch.opened_iff]
        simp only [or_imp, forall_and]
      · rw [meet, List.mem_filter, List.contains_iff_mem, h.closed_iff, hbranch.closed_iff]
        simp only [or_imp, forall_and]
      · rw [meet, Bool.and_eq_true, h.tagged_iff, hbranch.tagged_iff]
        simp only [or_imp, forall_and]

/-! ## Programs -/

/-- The paths that go on through a program to its end. -/
def Through (paths : List Instruction → Prop) (program : Program) (path : List Instruction) :
    Prop :=
  ∃ before later, paths before ∧ Path program later [] ∧ path = before ++ later

/-- Whether all paths that go on into a program are proper, wherever they stop in it. -/
def Safe (paths : List Instruction → Prop) (program : Program) : Prop :=
  ∀ before later left, paths before → Path program later left → Proper (before ++ later)

/-- The outcome of a check is right: there is a defect just where a path into the program is
improper, and what is known afterwards is what holds on the paths through it. -/
def Judges (tagged : Bool) (paths : List Instruction → Prop) (program : Program) :
    Except Defect (Option Flow) → Prop
  | .error _ => ¬Safe paths program
  | .ok exit => Safe paths program ∧ Sums tagged (Through paths program) exit

variable {flow : Flow}

theorem Safe.head {i : Instruction} {rest : Program} (h : Safe paths (i :: rest)) :
    Safe paths [i] :=
  fun before later left hbefore hlater ↦ h before later (left ++ rest) hbefore (hlater.append rest)

theorem Safe.proper {program : Program} (h : Safe paths program) :
    ∀ path, Through paths program path → Proper path :=
  fun _ ⟨before, later, hbefore, hlater, heq⟩ ↦ heq ▸ h before later [] hbefore hlater

theorem judges_nil (h : flow.Summarizes tagged paths) (hproper : ∀ path, paths path → Proper path) :
    Judges tagged paths [] (.ok (some flow)) := by
  have hthrough : Through paths [] = paths := by
    funext path
    apply propext
    constructor
    · rintro ⟨before, later, hbefore, hlater, rfl⟩
      cases hlater
      rw [List.append_nil]
      exact hbefore
    · intro hpath
      exact ⟨path, [], hpath, .stop [], (List.append_nil path).symm⟩
  constructor
  · rintro before later left hbefore hlater
    cases hlater
    rw [List.append_nil]
    exact hproper before hbefore
  · rw [hthrough]
    exact h

/-- A program is checked right if its first instruction is, and then the rest of it. -/
theorem judges_cons {i : Instruction} {rest : Program} {outcome : Except Defect (Option Flow)}
    (hfirst : Safe paths [i]) (hrest : Judges tagged (Through paths [i]) rest outcome) :
    Judges tagged paths (i :: rest) outcome := by
  have hsafe : Safe paths (i :: rest) ↔ Safe (Through paths [i]) rest := by
    constructor
    · rintro h _ later left ⟨before, first, hbefore, hpath, rfl⟩ hlater
      rw [List.append_assoc]
      exact h before (first ++ later) left hbefore ((hpath.append rest).trans hlater)
    · intro h before later left hbefore hlater
      rcases hlater.cases_append (p := [i]) with
        ⟨left, hpath, -⟩ | ⟨first, later, rfl, hpath, hlater⟩
      · exact hfirst before later left hbefore hpath
      · rw [← List.append_assoc]
        exact h _ later left ⟨before, first, hbefore, hpath, rfl⟩ hlater
  have hthrough : Through paths (i :: rest) = Through (Through paths [i]) rest := by
    funext path
    apply propext
    constructor
    · rintro ⟨before, later, hbefore, hlater, rfl⟩
      obtain ⟨first, later, rfl, hpath, hlater⟩ := hlater.through_append (p := [i])
      exact ⟨_, later, ⟨before, first, hbefore, hpath, rfl⟩, hlater, (List.append_assoc ..).symm⟩
    · rintro ⟨_, later, ⟨before, first, hbefore, hpath, rfl⟩, hlater, rfl⟩
      exact ⟨before, first ++ later, hbefore, (hpath.append rest).trans hlater,
        List.append_assoc ..⟩
  cases outcome with
  | error => exact fun h ↦ hrest (hsafe.mp h)
  | ok exit =>
    have hsums := hrest.2
    rw [← hthrough] at hsums
    exact ⟨hsafe.mpr hrest.1, hsums⟩

/-- An instruction that does not branch is checked right. -/
theorem judges_basic (h : flow.Summarizes tagged paths) (hproper : ∀ path, paths path → Proper path)
    {i : Instruction} (hbasic : i.isBasic) : Judges tagged paths [i] (flow.afterInstruction i) := by
  have hone : Path [i] [i] [] := .step hbasic (.stop [])
  rcases flow.afterInstruction_basic hbasic with
    ⟨⟨defect, heq⟩, hrefused⟩ | ⟨next, heq, hallowed, hnext⟩
  · rw [heq]
    rw [h.allows_iff hbasic] at hrefused
    intro hsafe
    refine hrefused fun before hbefore ↦ ?_
    exact (proper_snoc.mp (hsafe before [i] [] hbefore hone)).2
  · rw [heq]
    rw [h.allows_iff hbasic] at hallowed
    have hthrough :
        Through paths [i] = fun path ↦ ∃ before, paths before ∧ path = before ++ [i] := by
      funext path
      apply propext
      constructor
      · rintro ⟨before, later, hbefore, hlater, rfl⟩
        rcases hlater.cases_basic hbasic with ⟨-, hleft⟩ | ⟨rfl, -⟩
        · exact absurd hleft nofun
        · exact ⟨before, hbefore, rfl⟩
      · rintro ⟨before, hbefore, rfl⟩
        exact ⟨before, [i], hbefore, hone, rfl⟩
    constructor
    · intro before later left hbefore hlater
      rcases hlater.cases_basic hbasic with ⟨rfl, -⟩ | ⟨rfl, -⟩
      · rw [List.append_nil]
        exact hproper before hbefore
      · exact proper_snoc.mpr ⟨hproper before hbefore, hallowed before hbefore⟩
    · rw [hthrough]
      exact h.snoc hnext

/-- The outcome of a check of branches is right, where some paths have come to the same place
before. -/
def JudgesBranches (tagged : Bool) (paths ended : List Instruction → Prop)
    (branches : List Program) : Except Defect (Option Flow) → Prop
  | .error _ => ∃ branch ∈ branches, ¬Safe paths branch
  | .ok exit => (∀ branch ∈ branches, Safe paths branch) ∧
      Sums tagged (fun path ↦ ended path ∨ ∃ branch ∈ branches, Through paths branch path) exit

theorem judges_choice {branches : List Program} {outcome : Except Defect (Option Flow)}
    (hproper : ∀ path, paths path → Proper path)
    (h : JudgesBranches tagged paths (fun _ ↦ False) branches outcome) :
    Judges tagged paths [.choice branches] outcome := by
  have hsafe : Safe paths [.choice branches] ↔ ∀ branch ∈ branches, Safe paths branch := by
    constructor
    · intro h branch hmem before later left hbefore hlater
      exact h before later left hbefore (.of_branch hmem hlater)
    · intro h before later left hbefore hlater
      rcases hlater.cases_choice with ⟨rfl, -⟩ | ⟨branch, hmem, hlater⟩
      · rw [List.append_nil]
        exact hproper before hbefore
      · exact h branch hmem before later left hbefore hlater
  have hthrough : Through paths [.choice branches] =
      fun path ↦ False ∨ ∃ branch ∈ branches, Through paths branch path := by
    funext path
    apply propext
    rw [false_or]
    constructor
    · rintro ⟨before, later, hbefore, hlater, rfl⟩
      rcases hlater.cases_choice with ⟨-, hleft⟩ | ⟨branch, hmem, hlater⟩
      · exact absurd hleft nofun
      · exact ⟨branch, hmem, before, later, hbefore, hlater, rfl⟩
    · rintro ⟨branch, hmem, before, later, hbefore, hlater, rfl⟩
      exact ⟨before, later, hbefore, .of_branch hmem hlater, rfl⟩
  cases outcome with
  | error =>
    obtain ⟨branch, hmem, hunsafe⟩ := h
    exact fun hall ↦ hunsafe (hsafe.mp hall branch hmem)
  | ok exit =>
    refine ⟨hsafe.mpr h.1, ?_⟩
    rw [hthrough]
    exact h.2

theorem judgesBranches_cons {ended : List Instruction → Prop} {branch : Program}
    {rest : List Program} {outcome : Except Defect (Option Flow)} (hfirst : Safe paths branch)
    (hrest : JudgesBranches tagged paths (fun path ↦ ended path ∨ Through paths branch path) rest
      outcome) : JudgesBranches tagged paths ended (branch :: rest) outcome := by
  cases outcome with
  | error =>
    obtain ⟨other, hmem, hunsafe⟩ := hrest
    exact ⟨other, List.mem_cons_of_mem branch hmem, hunsafe⟩
  | ok exit =>
    refine ⟨List.forall_mem_cons.mpr ⟨hfirst, hrest.1⟩, ?_⟩
    have hsums := hrest.2
    simp only [or_assoc] at hsums
    simp only [List.exists_mem_cons_iff]
    exact hsums

mutual

/-- Knowledge that is exact where a program is entered is exact wherever it goes. -/
theorem judges_instruction {tagged : Bool} {paths : List Instruction → Prop} {flow : Flow}
    (h : flow.Summarizes tagged paths)
    (hproper : ∀ path, paths path → Proper path) :
    ∀ i, Judges tagged paths [i] (flow.afterInstruction i)
  | .choice branches => by
    have hnone : Sums tagged (fun _ ↦ False) none := fun ⟨_, hended⟩ ↦ hended
    rw [afterInstruction]
    exact judges_choice hproper (judges_branches h hproper hnone branches)
  | .read _ | .openCapture _ | .closeCapture _ | .lookup _ | .unify _ | .assign _ _ | .tag _ =>
    judges_basic h hproper rfl

theorem judges_program {tagged : Bool} {paths : List Instruction → Prop} {flow : Flow}
    (h : flow.Summarizes tagged paths)
    (hproper : ∀ path, paths path → Proper path) :
    ∀ program, Judges tagged paths program (flow.afterProgram program)
  | [] => judges_nil h hproper
  | i :: rest => by
    have hi := judges_instruction h hproper i
    rw [afterProgram]
    split
    next defect heq =>
      rw [heq] at hi
      exact fun hsafe ↦ hi hsafe.head
    next heq =>
      -- The rest has not been looked at, but no path gets there.
      rw [heq] at hi
      refine judges_cons hi.1 ⟨fun before later left hbefore _ ↦ ?_, ?_⟩
      · exact absurd ⟨before, hbefore⟩ hi.2
      · rintro ⟨_, before, later, hbefore, -⟩
        exact hi.2 ⟨before, hbefore⟩
    next next heq =>
      rw [heq] at hi
      exact judges_cons hi.1 (judges_program hi.2 hi.1.proper rest)

theorem judges_branches {tagged : Bool} {paths ended : List Instruction → Prop} {flow : Flow}
    {known : Option Flow} (h : flow.Summarizes tagged paths)
    (hproper : ∀ path, paths path → Proper path) (hknown : Sums tagged ended known) :
    ∀ branches, JudgesBranches tagged paths ended branches (flow.afterBranches known branches)
  | [] => by
    refine ⟨fun branch hmem ↦ absurd hmem List.not_mem_nil, ?_⟩
    simpa using hknown
  | branch :: rest => by
    have hbranch := judges_program h hproper branch
    rw [afterBranches]
    split
    next defect heq =>
      rw [heq] at hbranch
      exact ⟨branch, List.mem_cons_self, hbranch⟩
    next exit heq =>
      rw [heq] at hbranch
      exact judgesBranches_cons hbranch.1
        (judges_branches h hproper (sums_join hknown hbranch.2) rest)

end

/-! ## Rules -/

/-- Where a rule starts, nothing has been done yet. -/
theorem summarizes_start (tagged : Bool) :
    Flow.Summarizes tagged (fun path ↦ path = []) { tagged } where
  exists_path := ⟨[], rfl⟩
  opened_iff id := by simp
  closed_iff id := by simp [ClosedAfter]
  tagged_iff := by simp

/-- A program passes the check just if every path is proper and gives a tag where it is complete. -/
theorem check_eq_ok_iff {program : Program} : check program tagged = .ok () ↔
    (∀ path left, Path program path left → Proper path) ∧
      ∀ path, Path program path [] → tagged ∨ ∃ i ∈ path, i.Tags := by
  have hproper : Proper [] := fun before i after heq ↦ absurd heq (by simp)
  have hjudges := judges_program (summarizes_start tagged) (by simpa using hproper) program
  have hsafe : Safe (fun path ↦ path = []) program ↔
      ∀ path left, Path program path left → Proper path := by
    constructor
    · exact fun h path left hpath ↦ h [] path left rfl hpath
    · rintro h _ later left rfl hlater
      exact h later left hlater
  have hthrough : Through (fun path ↦ path = []) program = fun path ↦ Path program path [] := by
    funext path
    simp [Through]
  rw [check, ← hsafe]
  split
  next defect heq =>
    rw [heq] at hjudges
    simp [show ¬Safe (fun path ↦ path = []) program from hjudges]
  next heq =>
    rw [heq] at hjudges
    have hnone := hjudges.2
    rw [hthrough] at hnone
    refine iff_of_true rfl ⟨hjudges.1, fun path hpath ↦ absurd ⟨path, hpath⟩ hnone⟩
  next exit heq =>
    rw [heq] at hjudges
    have hexit := hjudges.2
    rw [hthrough] at hexit
    rw [and_iff_right hjudges.1, ← hexit.tagged_iff]
    simp

end Flow

namespace MorphRule

variable {table : SymbolTable} {rule : MorphRule}

/-- Where all symbols are defined, only captures and tags are left to check. -/
theorem validate_of_defined (hdefined : ∀ s ∈ rule.symbols, table.contains s) :
    rule.validate table = Flow.check rule.program rule.tag.isSome := by
  have hsymbols : Reference.checkAll table 0 (rule.symbols.map .symbol) = .ok () := by
    refine Reference.checkAll_eq_ok_iff.mpr fun reference hmem ↦ ?_
    obtain ⟨s, hs, rfl⟩ := List.mem_map.mp hmem
    exact if_pos (hdefined s hs)
  unfold validate
  rw [hsymbols]
  rfl

/-- A rule with defined symbols is accepted exactly if no path through its program, complete or not,
closes a capture that was not opened or uses one that is not closed, and if every complete path
gives a tag where the rule has none. -/
theorem validate_eq_ok_iff_paths (hdefined : ∀ s ∈ rule.symbols, table.contains s) :
    rule.validate table = .ok () ↔
      (∀ path left, Path rule.program path left → Proper path) ∧
        ∀ path, Path rule.program path [] → rule.tag.isSome ∨ ∃ i ∈ path, i.Tags := by
  rw [validate_of_defined hdefined, Flow.check_eq_ok_iff]

/-- A capture that is used after two branches, on one or both of which it is closed; a third branch
leads nowhere. -/
def captureOfBranches (tag : Option Symbol) (onBoth : Bool) : MorphRule where
  name := "capture"
  tag
  program :=
    [.choice
      [[.openCapture 2, .read (.literal ['s']), .closeCapture 2, .tag ⟨0⟩],
        [.openCapture 2, .read (.literal ['s', 's']), .tag ⟨0⟩] ++
          (if onBoth then [.closeCapture 2] else []),
        [.choice [], .closeCapture 7]],
      .assign ⟨0⟩ (.capture 2)]

/-- Closed on both branches, the capture can be used; closed on one of them, it is missing on some
path. -/
theorem validate_eq_ok_iff_paths_branches :
    ((∀ path left, Path (captureOfBranches none true).program path left → Proper path) ∧
      ∀ path, Path (captureOfBranches none true).program path [] → ∃ i ∈ path, i.Tags) ∧
    ¬∀ path left, Path (captureOfBranches (some ⟨0⟩) false).program path left → Proper path := by
  have htagless : ∀ s ∈ (captureOfBranches none true).symbols,
      SymbolTable.contains (.ofNames ["noun"]) s := by
    decide
  have htagged : ∀ s ∈ (captureOfBranches (some ⟨0⟩) false).symbols,
      SymbolTable.contains (.ofNames ["noun"]) s := by
    decide
  constructor
  · obtain ⟨hproper, htags⟩ := (validate_eq_ok_iff_paths htagless).mp rfl
    exact ⟨hproper, fun path hpath ↦ (htags path hpath).resolve_left nofun⟩
  · intro hproper
    exact absurd ((validate_eq_ok_iff_paths htagged).mpr ⟨hproper, fun _ _ ↦ .inl rfl⟩) nofun

end MorphRule

end Morphology
