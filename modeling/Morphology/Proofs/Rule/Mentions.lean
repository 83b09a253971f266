import Morphology.Proofs.Structure.Symbols
import Morphology.Rule.Validation

/-!
# Mentioned symbols

Where a symbol can be written: in a value or a structure at any depth, in an instruction or in the
branches of a choice, in a pattern or in an operation. What is checked when a grammar is put
together is a list of symbols and children in the order in which they are written. It has each of
these places, and no others.
-/

namespace Morphology

/-! ## Occurrences -/

/-- A symbol occurs in a value, at any depth. -/
inductive Value.Mentions (s : Symbol) : Value → Prop
  | atom : Mentions s (.atom s)
  | item {items : List Value} {v : Value} (mem : v ∈ items) (h : Mentions s v) :
      Mentions s (.list items)
  | attr {pairs : Structure} {v : Value} (mem : (s, v) ∈ pairs) : Mentions s (.nested pairs)
  | value {pairs : Structure} {attr : Symbol} {v : Value} (mem : (attr, v) ∈ pairs)
      (h : Mentions s v) : Mentions s (.nested pairs)

/-- A symbol occurs in a structure, as an attribute or in a value. -/
def Structure.Mentions (s : Symbol) (features : Structure) : Prop :=
  ∃ p ∈ features, p.1 = s ∨ p.2.Mentions s

/-- A symbol occurs in an instruction, or in an instruction of one of its branches. -/
inductive Instruction.Mentions (s : Symbol) : Instruction → Prop
  | features {added : Structure} (h : added.Mentions s) : Mentions s (.unify added)
  | attr (source : Source) : Mentions s (.assign s source)
  | constant {attr : Symbol} {value : Value} (h : value.Mentions s) :
      Mentions s (.assign attr (.constant value))
  | tag : Mentions s (.tag s)
  | branch {branches : List Program} {branch : Program} {i : Instruction} (mem : branch ∈ branches)
      (instruction_mem : i ∈ branch) (h : Mentions s i) : Mentions s (.choice branches)

/-- A symbol occurs in a condition on a tag. -/
inductive TagPattern.Mentions (s : Symbol) : TagPattern → Prop
  | exactly : Mentions s (.exactly s)
  | oneOf {tags : List Symbol} (mem : s ∈ tags) : Mentions s (.oneOf tags)

namespace Operation

/-- A symbol occurs in an operation. -/
inductive Mentions (s : Symbol) : Operation → Prop
  | fixed {features : Structure} (h : features.Mentions s) : Mentions s (.fixed features)
  | copy (index : Nat) : Mentions s (.copy index s)
  | check (index : Nat) {features : Structure} (h : features.Mentions s) :
      Mentions s (.check index features)
  | agree (left right : Nat) : Mentions s (.agree s left right)
  | nest (index : Nat) : Mentions s (.nest s index)
  | collect (indices : List Nat) : Mentions s (.collect s indices)

/-- An operation refers to a child. -/
inductive RefersTo (index : Nat) : Operation → Prop
  | child : RefersTo index (.child index)
  | copy (attr : Symbol) : RefersTo index (.copy index attr)
  | check (features : Structure) : RefersTo index (.check index features)
  | left (attr : Symbol) (right : Nat) : RefersTo index (.agree attr index right)
  | right (attr : Symbol) (left : Nat) : RefersTo index (.agree attr left index)
  | nest (attr : Symbol) : RefersTo index (.nest attr index)
  | collect (attr : Symbol) {indices : List Nat} (mem : index ∈ indices) :
      RefersTo index (.collect attr indices)

end Operation

/-- A symbol occurs in a morph rule. -/
def MorphRule.Mentions (rule : MorphRule) (s : Symbol) : Prop :=
  rule.tag = some s ∨ ∃ i ∈ rule.program, i.Mentions s

/-- A symbol occurs in a production. -/
def Production.Mentions (rule : Production) (s : Symbol) : Prop :=
  rule.result = s ∨ (∃ pattern ∈ rule.pattern, pattern.Mentions s) ∨
    ∃ op ∈ rule.operations, op.Mentions s

/-! ## Values and structures -/

section

variable {s : Symbol}

mutual

theorem Value.mentions_of_mem : ∀ v : Value, s ∈ v.symbols → v.Mentions s
  | .atom t, h => by
    rw [Value.symbols] at h
    exact List.mem_singleton.mp h ▸ .atom
  | .text _, h => by
    rw [Value.symbols] at h
    exact absurd h List.not_mem_nil
  | .list items, h => by
    rw [Value.symbols] at h
    obtain ⟨v, hv, hmentions⟩ := Value.exists_item_of_mem items h
    exact .item hv hmentions
  | .nested pairs, h => by
    rw [Value.symbols] at h
    obtain ⟨⟨attr, v⟩, hpair, rfl | hmentions⟩ := Structure.mentions_of_mem pairs h
    · exact .attr hpair
    · exact .value hpair hmentions

theorem Value.exists_item_of_mem : ∀ items : List Value, s ∈ Value.symbolsOfItems items →
    ∃ v ∈ items, v.Mentions s
  | [], h => by
    rw [Value.symbolsOfItems] at h
    exact absurd h List.not_mem_nil
  | v :: rest, h => by
    rw [Value.symbolsOfItems] at h
    rcases List.mem_append.mp h with h | h
    · exact ⟨v, List.mem_cons_self, Value.mentions_of_mem v h⟩
    · obtain ⟨w, hw, hmentions⟩ := Value.exists_item_of_mem rest h
      exact ⟨w, List.mem_cons_of_mem v hw, hmentions⟩

theorem Structure.mentions_of_mem : ∀ pairs : Structure, s ∈ Structure.symbolsOfPairs pairs →
    Structure.Mentions s pairs
  | [], h => by
    rw [Structure.symbolsOfPairs] at h
    exact absurd h List.not_mem_nil
  | (attr, v) :: rest, h => by
    rw [Structure.symbolsOfPairs, List.cons_append] at h
    rcases List.mem_cons.mp h with rfl | h
    · exact ⟨(s, v), List.mem_cons_self, .inl rfl⟩
    · rcases List.mem_append.mp h with h | h
      · exact ⟨(attr, v), List.mem_cons_self, .inr (Value.mentions_of_mem v h)⟩
      · obtain ⟨p, hp, hmentions⟩ := Structure.mentions_of_mem rest h
        exact ⟨p, List.mem_cons_of_mem _ hp, hmentions⟩

end

theorem Value.mem_symbols_iff {v : Value} : s ∈ v.symbols ↔ v.Mentions s := by
  refine ⟨Value.mentions_of_mem v, fun h ↦ ?_⟩
  induction h with
  | atom => exact List.mem_singleton_self s
  | item mem _ ih => exact Value.mem_symbols_list.mpr ⟨_, mem, ih⟩
  | attr mem => exact Structure.mem_symbols.mpr ⟨_, mem, .inl rfl⟩
  | value mem _ ih => exact Structure.mem_symbols.mpr ⟨_, mem, .inr ih⟩

theorem Structure.mem_symbols_iff {features : Structure} :
    s ∈ features.symbols ↔ features.Mentions s := by
  rw [Structure.mem_symbols, Structure.Mentions]
  simp only [Value.mem_symbols_iff, eq_comm]

/-! ## Instructions -/

namespace Instruction

mutual

theorem mentions_of_mem : ∀ i : Instruction, s ∈ i.symbols → i.Mentions s
  | .read _, h => absurd h List.not_mem_nil
  | .openCapture _, h => absurd h List.not_mem_nil
  | .closeCapture _, h => absurd h List.not_mem_nil
  | .lookup _, h => absurd h List.not_mem_nil
  | .unify _, h => .features (Structure.mem_symbols_iff.mp h)
  | .assign attr (.constant value), h => by
    rw [symbols] at h
    rcases List.mem_cons.mp h with rfl | h
    · exact .attr (.constant value)
    · exact .constant (Value.mem_symbols_iff.mp h)
  | .assign attr (.capture id), h => List.mem_singleton.mp h ▸ .attr (.capture id)
  | .assign attr .surface, h => List.mem_singleton.mp h ▸ .attr .surface
  | .tag symbol, h => List.mem_singleton.mp h ▸ .tag
  | .choice branches, h => by
    rw [symbols] at h
    obtain ⟨branch, hbranch, i, hi, hmentions⟩ := exists_branch_of_mem branches h
    exact .branch hbranch hi hmentions

theorem exists_instruction_of_mem : ∀ program : List Instruction,
    s ∈ symbolsOfProgram program → ∃ i ∈ program, i.Mentions s
  | [], h => by
    rw [symbolsOfProgram] at h
    exact absurd h List.not_mem_nil
  | i :: rest, h => by
    rw [symbolsOfProgram] at h
    rcases List.mem_append.mp h with h | h
    · exact ⟨i, List.mem_cons_self, mentions_of_mem i h⟩
    · obtain ⟨j, hj, hmentions⟩ := exists_instruction_of_mem rest h
      exact ⟨j, List.mem_cons_of_mem i hj, hmentions⟩

theorem exists_branch_of_mem : ∀ branches : List (List Instruction),
    s ∈ symbolsOfBranches branches → ∃ branch ∈ branches, ∃ i ∈ branch, i.Mentions s
  | [], h => by
    rw [symbolsOfBranches] at h
    exact absurd h List.not_mem_nil
  | branch :: rest, h => by
    rw [symbolsOfBranches] at h
    rcases List.mem_append.mp h with h | h
    · exact ⟨branch, List.mem_cons_self, exists_instruction_of_mem branch h⟩
    · obtain ⟨other, hother, hmentions⟩ := exists_branch_of_mem rest h
      exact ⟨other, List.mem_cons_of_mem branch hother, hmentions⟩

end

theorem mem_symbolsOfProgram_of_mem {program : List Instruction} {i : Instruction}
    (hi : i ∈ program) (h : s ∈ i.symbols) : s ∈ symbolsOfProgram program := by
  induction program with
  | nil => exact absurd hi List.not_mem_nil
  | cons j rest ih =>
    rw [symbolsOfProgram]
    rcases List.mem_cons.mp hi with rfl | hi
    · exact List.mem_append_left _ h
    · exact List.mem_append_right _ (ih hi)

theorem mem_symbolsOfBranches_of_mem {branches : List (List Instruction)}
    {branch : List Instruction} (hbranch : branch ∈ branches) (h : s ∈ symbolsOfProgram branch) :
    s ∈ symbolsOfBranches branches := by
  induction branches with
  | nil => exact absurd hbranch List.not_mem_nil
  | cons other rest ih =>
    rw [symbolsOfBranches]
    rcases List.mem_cons.mp hbranch with rfl | hbranch
    · exact List.mem_append_left _ h
    · exact List.mem_append_right _ (ih hbranch)

theorem mem_symbols_iff {i : Instruction} : s ∈ i.symbols ↔ i.Mentions s := by
  refine ⟨mentions_of_mem i, fun h ↦ ?_⟩
  induction h with
  | features h => exact Structure.mem_symbols_iff.mpr h
  | attr source => cases source <;> simp [symbols]
  | constant h =>
    rw [symbols]
    exact List.mem_cons_of_mem _ (Value.mem_symbols_iff.mpr h)
  | tag => exact List.mem_singleton_self s
  | branch mem instruction_mem _ ih =>
    rw [symbols]
    exact mem_symbolsOfBranches_of_mem mem (mem_symbolsOfProgram_of_mem instruction_mem ih)

end Instruction

theorem MorphRule.mem_symbols_iff {rule : MorphRule} : s ∈ rule.symbols ↔ rule.Mentions s := by
  have hprogram : s ∈ Instruction.symbolsOfProgram rule.program ↔
      ∃ i ∈ rule.program, i.Mentions s :=
    ⟨Instruction.exists_instruction_of_mem rule.program, fun ⟨_, hi, h⟩ ↦
      Instruction.mem_symbolsOfProgram_of_mem hi (Instruction.mem_symbols_iff.mpr h)⟩
  rw [symbols, List.mem_append, Option.mem_toList, hprogram, Mentions]

/-! ## Operations -/

theorem TagPattern.mem_symbols_iff {pattern : TagPattern} :
    s ∈ pattern.symbols ↔ pattern.Mentions s := by
  cases pattern with
  | exactly tag =>
    rw [symbols, List.mem_singleton]
    exact ⟨fun h ↦ h ▸ .exactly, fun h ↦ by cases h; rfl⟩
  | oneOf tags => exact ⟨.oneOf, fun h ↦ by cases h; assumption⟩
  | any => exact ⟨fun h ↦ absurd h List.not_mem_nil, nofun⟩

namespace Operation

theorem symbol_mem_references {op : Operation} : .symbol s ∈ op.references ↔ op.Mentions s := by
  constructor
  · intro h
    cases op with
    | child index => simp [references] at h
    | fixed features =>
      have hmem : s ∈ features.symbols := by simpa [references] using h
      exact .fixed (Structure.mem_symbols_iff.mp hmem)
    | copy index attr =>
      obtain rfl : s = attr := by simpa [references] using h
      exact .copy index
    | check index features =>
      have hmem : s ∈ features.symbols := by simpa [references] using h
      exact .check index (Structure.mem_symbols_iff.mp hmem)
    | agree attr left right =>
      obtain rfl : s = attr := by simpa [references] using h
      exact .agree left right
    | nest attr index =>
      obtain rfl : s = attr := by simpa [references] using h
      exact .nest index
    | collect attr indices =>
      obtain rfl : s = attr := by simpa [references] using h
      exact .collect indices
  · intro h
    cases h <;> simp_all [references, Structure.mem_symbols_iff]

theorem child_mem_references {op : Operation} {index : Nat} :
    .child index ∈ op.references ↔ op.RefersTo index := by
  constructor
  · intro h
    cases op with
    | child other =>
      obtain rfl : index = other := by simpa [references] using h
      exact .child
    | fixed features => simp [references] at h
    | copy other attr =>
      obtain rfl : index = other := by simpa [references] using h
      exact .copy attr
    | check other features =>
      obtain rfl : index = other := by simpa [references] using h
      exact .check features
    | agree attr left right =>
      obtain rfl | rfl : index = left ∨ index = right := by simpa [references] using h
      · exact .left attr right
      · exact .right attr left
    | nest attr other =>
      obtain rfl : index = other := by simpa [references] using h
      exact .nest attr
    | collect attr indices => exact .collect attr (by simpa [references] using h)
  · intro h
    cases h <;> simp_all [references]

end Operation

namespace Production

variable {rule : Production}

theorem symbol_mem_references : .symbol s ∈ rule.references ↔ rule.Mentions s := by
  simp only [references, List.cons_append, List.mem_cons, List.mem_append, List.mem_map,
    List.mem_flatMap, Reference.symbol.injEq, exists_eq_right, TagPattern.mem_symbols_iff,
    Operation.symbol_mem_references]
  rw [Mentions, eq_comm]

theorem child_mem_references {index : Nat} :
    .child index ∈ rule.references ↔ ∃ op ∈ rule.operations, op.RefersTo index := by
  simp [references, Operation.child_mem_references]

end Production

end

end Morphology
