import Morphology.Proofs.Rule.Paths
import Morphology.Proofs.Search.Contribution
import Morphology.Proofs.Search.Meaning
import Morphology.Proofs.Structure.Depth

/-!
# Where depth comes from

Programs and productions build structures by unification, which does not nest. Where something too
deep comes out, something too deep has gone in: an instruction brings along a structure that is too
deep by itself, or an operation has one written down in it. The only other way to get deeper is an
operation that makes a whole structure the value of an attribute.
-/

namespace Morphology

/-! ## Paths and ways -/

theorem Path.isBasic_of_mem {program left : Program} {path : List Instruction}
    (h : Path program path left) : ∀ i ∈ path, i.isBasic := by
  induction h with
  | stop => exact fun i hi ↦ absurd hi List.not_mem_nil
  | step basic _ ih => exact List.forall_mem_cons.mpr ⟨basic, ih⟩
  | branch _ _ ih => exact ih

namespace Execution

variable {e : Setting} {s t : State}

theorem waysOfProgram_singleton (e : Setting) (s : State) (i : Instruction) :
    waysOfProgram e s [i] = waysOfInstruction e s i := by
  rw [waysOfProgram]
  exact List.flatMap_singleton' _

theorem exists_path_of_basic {i : Instruction} (hbasic : i.isBasic)
    (ht : t ∈ waysOfInstruction e s i) :
    ∃ path, Path [i] path [] ∧ t ∈ waysOfProgram e s path :=
  ⟨[i], .step hbasic (.stop []), by rwa [waysOfProgram_singleton]⟩

mutual

theorem exists_path_of_instruction {s t : State} : ∀ i, t ∈ waysOfInstruction e s i →
    ∃ path, Path [i] path [] ∧ t ∈ waysOfProgram e s path
  | .read _, ht => exists_path_of_basic rfl ht
  | .openCapture _, ht => exists_path_of_basic rfl ht
  | .closeCapture _, ht => exists_path_of_basic rfl ht
  | .lookup _, ht => exists_path_of_basic rfl ht
  | .unify _, ht => exists_path_of_basic rfl ht
  | .assign _ _, ht => exists_path_of_basic rfl ht
  | .tag _, ht => exists_path_of_basic rfl ht
  | .choice branches, ht => by
    rw [waysOfInstruction] at ht
    obtain ⟨branch, hbranch, path, hpath, ht⟩ := exists_path_of_branches branches ht
    exact ⟨path, .of_branch hbranch hpath, ht⟩

/-- Every way through a program goes along one of its paths. -/
theorem exists_path_of_program {s t : State} : ∀ program, t ∈ waysOfProgram e s program →
    ∃ path, Path program path [] ∧ t ∈ waysOfProgram e s path
  | [], ht => ⟨[], .stop [], ht⟩
  | i :: rest, ht => by
    rw [waysOfProgram] at ht
    obtain ⟨u, hu, ht⟩ := List.mem_flatMap.mp ht
    obtain ⟨first, hfirst, hu⟩ := exists_path_of_instruction i hu
    obtain ⟨later, hlater, ht⟩ := exists_path_of_program rest ht
    refine ⟨first ++ later, (hfirst.append rest).trans hlater, ?_⟩
    rw [waysOfProgram_append]
    exact List.mem_flatMap.mpr ⟨u, hu, ht⟩

theorem exists_path_of_branches {s t : State} : ∀ branches, t ∈ waysOfBranches e s branches →
    ∃ branch ∈ branches, ∃ path, Path branch path [] ∧ t ∈ waysOfProgram e s path
  | [], ht => by
    rw [waysOfBranches] at ht
    exact absurd ht List.not_mem_nil
  | branch :: rest, ht => by
    rw [waysOfBranches] at ht
    rcases List.mem_append.mp ht with ht | ht
    · exact ⟨branch, List.mem_cons_self, exists_path_of_program branch ht⟩
    · obtain ⟨other, hother, hpath⟩ := exists_path_of_branches rest ht
      exact ⟨other, List.mem_cons_of_mem branch hother, hpath⟩

end

/-- Where something is lost along a path, some instruction of the path loses it. -/
theorem exists_losing_instruction (keeps : State → Prop) {path : List Instruction} (hs : keeps s)
    (ht : t ∈ waysOfProgram e s path) (hlost : ¬keeps t) :
    ∃ before i after, path = before ++ i :: after ∧ ∃ u ∈ waysOfProgram e s before,
      ∃ v ∈ waysOfInstruction e u i, keeps u ∧ ¬keeps v := by
  induction path generalizing s with
  | nil =>
    rw [waysOfProgram, List.mem_singleton] at ht
    exact absurd (ht ▸ hs) hlost
  | cons i rest ih =>
    rw [waysOfProgram] at ht
    obtain ⟨u, hu, ht⟩ := List.mem_flatMap.mp ht
    by_cases hkeeps : keeps u
    · obtain ⟨before, j, after, rfl, v, hv, hstep⟩ := ih hkeeps ht
      refine ⟨i :: before, j, after, rfl, v, ?_, hstep⟩
      rw [waysOfProgram]
      exact List.mem_flatMap.mpr ⟨u, hu, hv⟩
    · refine ⟨[], i, rest, rfl, s, ?_, u, hu, hs, hkeeps⟩
      rw [waysOfProgram]
      exact List.mem_singleton_self s

end Execution

theorem Structure.depth_empty_le : Structure.empty.depth ≤ depthLimit := by decide

/-! ## Morph rules -/

/-- An instruction, carried out in some state, brings along a structure that is too deep by itself:
one that is written down, a value on an attribute, or a reading of the captured text. -/
inductive Instruction.BringsDeep (e : Execution.Setting) (s : Execution.State) : Instruction → Prop
  | features {added : Structure} (deep : depthLimit < added.depth) : BringsDeep e s (.unify added)
  | constant {attr : Symbol} {value : Value} (deep : depthLimit < 1 + value.depth) :
      BringsDeep e s (.assign attr (.constant value))
  | reading {id : UInt8} {stem : List Char} {reading : Reading}
      (captured : s.captured e.text id = .ok stem)
      (mem : reading ∈ e.lexicon.readings (String.ofList stem))
      (deep : depthLimit < reading.features.depth) : BringsDeep e s (.lookup id)

/-- An instruction that makes a structure too deep has brought along one that is. -/
theorem Instruction.bringsDeep_of_mem {e : Execution.Setting} {s t : Execution.State}
    {i : Instruction} (hbasic : i.isBasic) (ht : t ∈ Execution.waysOfInstruction e s i)
    (hs : s.features.depth ≤ depthLimit) (hdeep : depthLimit < t.features.depth) :
    i.BringsDeep e s := by
  have hadded {a c : Structure} (hunify : s.features.unify a = some c)
      (hc : depthLimit < c.depth) : depthLimit < a.depth := by
    rw [Structure.depth_unify hunify] at hc
    omega
  have htext (content : String) : ¬depthLimit < 1 + (Value.text content).depth := by
    rw [Value.depth]
    decide
  cases Execution.leads_of_mem hbasic ht with
  | read | openCapture | closeCapture | tag => exact absurd hs (Nat.not_le.mpr hdeep)
  | lookup hcaptured hreading hunify => exact .reading hcaptured hreading (hadded hunify hdeep)
  | unify hunify => exact .features (hadded hunify hdeep)
  | @assign attr source value _ hsource hadd =>
    have hvalue := hadded hadd hdeep
    rw [Structure.depth_single] at hvalue
    cases source with
    | constant constant => exact .constant (Except.ok.inj hsource ▸ hvalue)
    | surface =>
      obtain rfl := Except.ok.inj hsource
      exact absurd hvalue (htext _)
    | capture id =>
      obtain ⟨text, -, rfl⟩ := exists_of_map_eq_ok hsource
      exact absurd hvalue (htext _)

namespace MorphRule

/-- On a way from a place of a text, a rule comes to an instruction that brings along too deep a
structure by itself. -/
def BringsDeep (rule : MorphRule) (text : List Char) (lexicon : Lexicon) (start : Nat) : Prop :=
  ∃ before i after, Path rule.program (before ++ i :: after) [] ∧
    ∃ s ∈ Execution.waysOfProgram (rule.setting text lexicon start) (rule.initial start) before,
      i.BringsDeep (rule.setting text lexicon start) s

variable {rule : MorphRule} {text : List Char} {lexicon : Lexicon} {start : Nat}

/-- A way that ends in too deep a structure has come to an instruction that brings one along. -/
theorem bringsDeep_of_mem_ways {t : Execution.State} (ht : t ∈ rule.ways text lexicon start)
    (hdeep : depthLimit < t.features.depth) : rule.BringsDeep text lexicon start := by
  obtain ⟨path, hpath, ht⟩ := Execution.exists_path_of_program rule.program ht
  have hinitial : (rule.initial start).features.depth ≤ depthLimit := Structure.depth_empty_le
  obtain ⟨before, i, after, rfl, s, hs, u, hu, hshallow, hlost⟩ :=
    Execution.exists_losing_instruction (fun s ↦ s.features.depth ≤ depthLimit)
      hinitial ht (Nat.not_le.mpr hdeep)
  have hbasic : i.isBasic := hpath.isBasic_of_mem i (by simp)
  exact ⟨before, i, after, hpath, s, hs,
    Instruction.bringsDeep_of_mem hbasic hu hshallow (Nat.lt_of_not_le hlost)⟩

/-- Where a valid rule fails, one of its instructions has brought along too deep a structure. -/
theorem bringsDeep_of_run {table : SymbolTable} (hvalid : rule.validate table = .ok ())
    {error : AnalysisError} (hrun : (rule.run text lexicon start).result = .error error) :
    rule.BringsDeep text lexicon start := by
  rw [result_run hvalid] at hrun
  split at hrun
  next => exact absurd hrun nofun
  next hsome =>
    simp only [not_forall, Nat.not_le] at hsome
    obtain ⟨t, ht, hdeep⟩ := hsome
    exact bringsDeep_of_mem_ways ht hdeep

end MorphRule

/-! ## Productions -/

namespace Operation

/-- Whether an operation can make a structure too deep although no child is: it makes structures
values, or has too deep a structure written down in it. -/
def Deepens : Operation → Prop
  | child _ => False
  | fixed features => depthLimit < features.depth
  | copy _ _ => False
  | check _ _ => False
  | agree _ _ _ => False
  | nest _ _ => True
  | collect _ _ => True

variable {children : List Structure} {op : Operation} {s built next : Structure}

/-- What an operation contributes that does not nest is not deeper than the children. -/
theorem Contributes.depth_le (h : op.Contributes children s) (hop : ¬op.Deepens)
    (hchildren : ∀ c ∈ children, c.depth ≤ depthLimit) : s.depth ≤ depthLimit := by
  have hvalue {index : Nat} {attr : Symbol} {c : Structure} {v : Value}
      (hchild : children[index]? = some c) (hv : c.get? attr = some v) :
      1 + v.depth ≤ depthLimit :=
    Nat.le_trans (Structure.depth_get? hv) (hchildren c (List.mem_of_getElem? hchild))
  cases h with
  | child hchild => exact hchildren s (List.mem_of_getElem? hchild)
  | fixed => exact Nat.le_of_not_lt hop
  | copy hchild hv => rw [Structure.depth_single]; exact hvalue hchild hv
  | agreed hleft hright hv hw hunify =>
    have hfirst := hvalue hleft hv
    have hsecond := hvalue hright hw
    rw [Structure.depth_single, Value.depth_unify hunify]
    omega
  | onlyLeft hleft _ hv => rw [Structure.depth_single]; exact hvalue hleft hv
  | onlyRight _ hright _ hw => rw [Structure.depth_single]; exact hvalue hright hw
  | nest | collect => exact absurd trivial hop

/-- An operation that does not nest leaves no structure too deep. -/
theorem depth_apply_le (href : ∀ index, .child index ∈ op.references → index < children.length)
    (hop : ¬op.Deepens) (hchildren : ∀ c ∈ children, c.depth ≤ depthLimit)
    (hbuilt : built.depth ≤ depthLimit) (h : op.apply children built = .ok (some next)) :
    next.depth ≤ depthLimit := by
  by_cases hrejects : op.Rejects children
  · rw [hrejects.apply_eq] at h
    exact absurd (Except.ok.inj h) nofun
  · by_cases hsome : ∃ s, op.Contributes children s
    · obtain ⟨s, hs⟩ := hsome
      rw [hs.apply_eq] at h
      rw [Structure.depth_unify (Except.ok.inj h)]
      exact Nat.max_le.mpr ⟨hbuilt, hs.depth_le hop hchildren⟩
    · rw [apply_eq_of_no_contribution href hrejects (not_exists.mp hsome)] at h
      exact Option.some.inj (Except.ok.inj h) ▸ hbuilt

theorem depth_applyAll_le {ops : List Operation}
    (href : ∀ op ∈ ops, ∀ index, .child index ∈ op.references → index < children.length)
    (hops : ∀ op ∈ ops, ¬op.Deepens) (hchildren : ∀ c ∈ children, c.depth ≤ depthLimit)
    (hbuilt : built.depth ≤ depthLimit) (h : applyAll children built ops = .ok (some next)) :
    next.depth ≤ depthLimit := by
  induction ops generalizing built with
  | nil => exact Option.some.inj (Except.ok.inj h) ▸ hbuilt
  | cons op rest ih =>
    obtain ⟨hfirst, hrest⟩ := List.forall_mem_cons.mp hops
    obtain ⟨hrefFirst, hrefRest⟩ := List.forall_mem_cons.mp href
    rw [applyAll] at h
    split at h
    next => simp at h
    next => simp at h
    next between hbetween =>
      exact ih hrefRest hrest (depth_apply_le hrefFirst hfirst hchildren hbuilt hbetween) h

end Operation

theorem Structure.depth_unifyAll_le {all : List Structure} {built next : Structure}
    (hall : ∀ s ∈ all, s.depth ≤ depthLimit) (hbuilt : built.depth ≤ depthLimit)
    (h : built.unifyAll all = some next) : next.depth ≤ depthLimit := by
  induction all generalizing built with
  | nil => exact Option.some.inj h ▸ hbuilt
  | cons s rest ih =>
    obtain ⟨hs, hrest⟩ := List.forall_mem_cons.mp hall
    rw [unifyAll] at h
    obtain ⟨between, hbetween, h⟩ := Option.bind_eq_some_iff.mp h
    refine ih hrest ?_ h
    rw [depth_unify hbetween]
    exact Nat.max_le.mpr ⟨hbuilt, hs⟩

/-- A production without operations that nest makes nothing too deep of what is not. -/
theorem Production.depth_combine_le {rule : Production} {children : List Structure}
    {features : Structure}
    (href : ∀ op ∈ rule.operations, ∀ index, .child index ∈ op.references →
      index < children.length)
    (hops : ∀ op ∈ rule.operations, ¬op.Deepens) (hchildren : ∀ c ∈ children, c.depth ≤ depthLimit)
    (h : rule.combine children = .ok (some features)) : features.depth ≤ depthLimit := by
  rw [combine] at h
  split at h
  · exact Structure.depth_unifyAll_le hchildren Structure.depth_empty_le (Except.ok.inj h)
  · exact Operation.depth_applyAll_le href hops hchildren Structure.depth_empty_le h

/-- Along a route through nodes that are not too deep, a production without operations that nest
comes to a conclusion. -/
theorem Saturation.makeNode_total {table : SymbolTable} {chart : Chart} {rules : List Production}
    {route : Route} {rule : Production} {nodes : List Node} (hvalid : rule.validate table = .ok ())
    (hops : ∀ op ∈ rule.operations, ¬op.Deepens)
    (hnodes : ∀ node ∈ nodes, node.features.depth ≤ depthLimit)
    (h : chart.Admits rules route rule nodes) : ∃ made, makeNode rule route nodes = .ok made := by
  obtain ⟨first, last, -, outcome, hcombine, hmake⟩ := makeNode_of_admits hvalid h
  rw [hmake]
  cases outcome with
  | none => exact ⟨none, rfl⟩
  | some features =>
    have hlength : rule.pattern.length = (nodes.map (·.features)).length := by
      rw [h.acceptEach.length_eq, List.length_map, List.length_map]
    have hshallow := Production.depth_combine_le (Production.lt_of_reference hvalid hlength) hops
      (List.forall_mem_map.mpr hnodes) hcombine
    exact ⟨_, if_neg (Nat.not_lt.mpr hshallow)⟩

end Morphology
