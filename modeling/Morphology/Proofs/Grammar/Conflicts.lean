import Morphology.Proofs.Grammar.Calls
import Morphology.Proofs.Grammar.WellFormed
import Morphology.Proofs.Structure.Atoms

/-!
# Conflicting values

Whether pairs make a structure is decided on their symbols, and which attribute is reported if they
do not is found by comparing their names. Both agree, because no two names share a symbol: pairs
make a structure exactly if no attribute is given two values. So no conflict is lost, and the first
one is reported when the grammar is built.
-/

namespace Morphology

namespace GrammarBuilder

/-- Two of the pairs give an attribute different values. -/
def Contradicts (pairs : List (String × String)) : Prop :=
  ∃ p ∈ pairs, ∃ q ∈ pairs, p.1 = q.1 ∧ p.2 ≠ q.2

/-- The earliest pair that disagrees with a pair before it is of this attribute. -/
def DisagreesFirst (pairs : List (String × String)) (attr : String) : Prop :=
  ∃ before value after, pairs = before ++ (attr, value) :: after ∧ ¬Contradicts before ∧
    ∃ earlier, (attr, earlier) ∈ before ∧ earlier ≠ value

/-! ## Pairs of names -/

section

variable {pairs earlier : List (String × String)} {attr value : String}

theorem not_contradicts_iff : ¬Contradicts pairs ↔
    ∀ p ∈ pairs, ∀ q ∈ pairs, p.1 = q.1 → p.2 = q.2 := by
  simp only [Contradicts, not_exists, not_and, not_not]

theorem any_disagrees_iff : (earlier.any fun (a, v) ↦ a == attr && v != value) ↔
    ∃ v, (attr, v) ∈ earlier ∧ v ≠ value := by
  simp only [List.any_eq_true, Bool.and_eq_true, beq_iff_eq, bne_iff_ne, Prod.exists]
  constructor
  · rintro ⟨_, v, hmem, rfl, hne⟩
    exact ⟨v, hmem, hne⟩
  · rintro ⟨v, hmem, hne⟩
    exact ⟨attr, v, hmem, rfl, hne⟩

theorem not_contradicts_append_singleton (h : ¬Contradicts earlier)
    (hagrees : ∀ v, (attr, v) ∈ earlier → v = value) :
    ¬Contradicts (earlier ++ [(attr, value)]) := by
  rw [not_contradicts_iff] at h ⊢
  intro p hp q hq hsame
  rcases List.mem_append.mp hp with hearlier | hlast
  · rcases List.mem_append.mp hq with hother | hlast
    · exact h p hearlier q hother hsame
    · obtain rfl := List.mem_singleton.mp hlast
      obtain rfl : p.1 = attr := hsame
      exact hagrees p.2 hearlier
  · obtain rfl := List.mem_singleton.mp hlast
    rcases List.mem_append.mp hq with hother | hlast
    · obtain rfl : attr = q.1 := hsame
      exact (hagrees q.2 hother).symm
    · exact List.mem_singleton.mp hlast ▸ rfl

/-- Looking through the rest of some pairs finds the first that disagrees, if one does. -/
theorem firstConflict_spec (h : ¬Contradicts earlier) (rest : List (String × String)) :
    match firstConflict earlier rest with
    | some attr => DisagreesFirst (earlier ++ rest) attr
    | none => ¬Contradicts (earlier ++ rest) := by
  induction rest generalizing earlier with
  | nil =>
    rw [firstConflict, List.append_nil]
    exact h
  | cons p rest ih =>
    obtain ⟨attr, value⟩ := p
    rw [firstConflict]
    by_cases hany : earlier.any fun (a, v) ↦ a == attr && v != value
    · rw [if_pos hany]
      exact ⟨earlier, value, rest, rfl, h, any_disagrees_iff.mp hany⟩
    · rw [if_neg hany]
      have hagrees (v : String) (hv : (attr, v) ∈ earlier) : v = value :=
        Classical.not_not.mp fun hne ↦ hany (any_disagrees_iff.mpr ⟨v, hv, hne⟩)
      have hlater := ih (not_contradicts_append_singleton h hagrees)
      rwa [List.append_assoc] at hlater

theorem contradicts_append {other : String} (hother : (attr, other) ∈ earlier)
    (hne : other ≠ value) (rest : List (String × String)) :
    Contradicts (earlier ++ (attr, value) :: rest) :=
  ⟨_, List.mem_append_left _ hother, (attr, value), List.mem_append_right _ List.mem_cons_self,
    rfl, hne⟩

theorem DisagreesFirst.contradicts (h : DisagreesFirst pairs attr) : Contradicts pairs := by
  obtain ⟨before, value, after, rfl, -, other, hother, hne⟩ := h
  exact contradicts_append hother hne after

theorem not_contradicts_nil : ¬Contradicts [] := fun ⟨_, hp, _⟩ ↦ absurd hp List.not_mem_nil

theorem disagreesFirst_of_firstConflict (h : firstConflict [] pairs = some attr) :
    DisagreesFirst pairs attr := by
  have hspec := firstConflict_spec not_contradicts_nil pairs
  rw [h] at hspec
  exact hspec

/-- A conflict is found exactly if there is one. -/
theorem contradicts_iff_firstConflict :
    Contradicts pairs ↔ ∃ attr, firstConflict [] pairs = some attr := by
  refine ⟨fun h ↦ ?_, fun ⟨_, h⟩ ↦ (disagreesFirst_of_firstConflict h).contradicts⟩
  cases hfirst : firstConflict [] pairs with
  | some attr => exact ⟨attr, rfl⟩
  | none =>
    have hspec := firstConflict_spec not_contradicts_nil pairs
    rw [hfirst] at hspec
    exact absurd h hspec

/-- Pairs without a contradiction stop before one that disagrees with them. -/
theorem eq_nil_of_not_contradicts {other : String} {more after rest : List (String × String)}
    (hother : (attr, other) ∈ earlier) (hne : other ≠ value)
    (hsplit : (attr, value) :: after = more ++ rest) (h : ¬Contradicts (earlier ++ more)) :
    more = [] := by
  cases more with
  | nil => rfl
  | cons p more =>
    obtain ⟨rfl, -⟩ := List.cons.inj hsplit
    exact absurd (contradicts_append hother hne more) h

/-- The earliest disagreement is in one place. -/
theorem DisagreesFirst.unique {other : String} (h : DisagreesFirst pairs attr)
    (hother : DisagreesFirst pairs other) : attr = other := by
  obtain ⟨before, value, after, rfl, hbefore, v, hv, hne⟩ := h
  obtain ⟨before', value', after', hsplit, hbefore', v', hv', hne'⟩ := hother
  rcases List.append_eq_append_iff.mp hsplit with ⟨more, rfl, hmore⟩ | ⟨more, rfl, hmore⟩
  · obtain rfl := eq_nil_of_not_contradicts hv hne hmore hbefore'
    exact congrArg Prod.fst (List.cons.inj hmore).1
  · obtain rfl := eq_nil_of_not_contradicts hv' hne' hmore hbefore
    exact congrArg Prod.fst (List.cons.inj hmore).1.symm

theorem firstConflict_eq_some_iff :
    firstConflict [] pairs = some attr ↔ DisagreesFirst pairs attr := by
  refine ⟨disagreesFirst_of_firstConflict, fun h ↦ ?_⟩
  obtain ⟨other, hother⟩ := contradicts_iff_firstConflict.mp h.contradicts
  rw [hother, (disagreesFirst_of_firstConflict hother).unique h]

end

/-! ## Pairs of symbols -/

section

variable {table later : SymbolTable} {pairs : List (String × String)}

/-- Interned pairs make a structure unless two of them give an attribute different values. -/
theorem ofPairs?_internPairs_eq_none_iff (hsize : later.size ≤ UInt32.size)
    (h : later.Extends (internPairs table pairs).2) :
    Structure.ofPairs? (internPairs table pairs).1 = none ↔ Contradicts pairs := by
  have hfunctional : (∀ p ∈ (internPairs table pairs).1, ∀ q ∈ (internPairs table pairs).1,
      p.1 = q.1 → p.2 = q.2) ↔ ¬Contradicts pairs := by
    rw [not_contradicts_iff]
    constructor
    · intro hpairs p hp q hq hsame
      obtain ⟨r, hr, hrp⟩ := exists_mem_internPairs h hp
      obtain ⟨s, hs, hsq⟩ := exists_mem_internPairs h hq
      have hattr := (hrp.attr_eq_iff hsize hsq).mpr hsame
      exact (hrp.value_eq_iff hsize hsq).mp (hpairs r hr s hs hattr)
    · intro hpairs r hr s hs hsame
      obtain ⟨p, hp, hrp⟩ := (mem_internPairs h).mp hr
      obtain ⟨q, hq, hsq⟩ := (mem_internPairs h).mp hs
      have hattr := (hrp.attr_eq_iff hsize hsq).mp hsame
      exact (hrp.value_eq_iff hsize hsq).mpr (hpairs p hp q hq hattr)
  rw [← not_iff_not, ← hfunctional,
    ← Structure.exists_ofPairs?_iff_of_atoms (atoms_of_internPairs table pairs)]
  exact Option.ne_none_iff_exists'

/-- Interned pairs that make a structure are what it consists of. -/
theorem mem_features_iff (hsize : later.size ≤ UInt32.size) {b : GrammarBuilder}
    (h : later.Extends (internPairs b.symbols pairs).2) (hfine : ¬Contradicts pairs) :
    (b.features pairs).1.Canonical ∧
      ∀ p, p ∈ (b.features pairs).1 ↔ ∃ written ∈ pairs, later.Spells written p := by
  have hatoms := atoms_of_internPairs b.symbols pairs
  obtain ⟨s, hs⟩ := Option.ne_none_iff_exists'.mp
    (mt (ofPairs?_internPairs_eq_none_iff hsize h).mp hfine)
  have hfeatures : (b.features pairs).1 = s := by rw [features_eq, hs]
  rw [hfeatures]
  refine ⟨Structure.canonical_of_ofPairs? (Structure.canonical_of_atoms hatoms) hs, fun p ↦ ?_⟩
  rw [Structure.mem_iff_of_atoms hatoms hs, mem_internPairs h]

/-- A conflict is kept unless there was one before. -/
theorem conflict_features (hsize : later.size ≤ UInt32.size) {b : GrammarBuilder}
    (h : later.Extends (internPairs b.symbols pairs).2) :
    (b.features pairs).2.conflict = b.conflict.or (firstConflict [] pairs) := by
  rw [features_eq]
  split
  next s hs =>
    have hfine : ¬Contradicts pairs := by
      rw [← ofPairs?_internPairs_eq_none_iff hsize h, hs]
      exact nofun
    have hnone : firstConflict [] pairs = none := Option.eq_none_iff_forall_ne_some.mpr
      fun attr hattr ↦ hfine (contradicts_iff_firstConflict.mpr ⟨attr, hattr⟩)
    rw [hnone, Option.or_none]
  next => rfl

end

/-! ## Calls -/

variable {b : GrammarBuilder} {call : Call} {calls : List Call} {attr : String}

/-- The attribute that the pairs of a call give two values, if they do. -/
def Call.conflict? (call : Call) : Option String := call.pairs?.bind (firstConflict [])

theorem conflict_perform {later : SymbolTable} (hsize : later.size ≤ UInt32.size)
    (h : later.Extends (call.perform b).symbols) :
    (call.perform b).conflict = b.conflict.or call.conflict? := by
  cases call with
  | features pairs =>
    rw [Call.perform, symbols_features] at h
    exact conflict_features hsize h
  | addLexeme stem tag pairs =>
    have hlexeme : later.Extends (internPairs (b.symbol tag).2.symbols pairs).2 := by
      rw [← symbols_features]
      exact h
    exact conflict_features hsize hlexeme
  | accept tag =>
    rw [Call.perform, accept_frame]
    exact (Option.or_none).symm
  | symbol | addReading | addMorphRule | addProduction | withLexiconRule | addRemark =>
    exact (Option.or_none).symm

/-- The first conflict of some calls is kept. -/
theorem conflict_after (hsize : (b.after calls).symbols.size ≤ UInt32.size) :
    (b.after calls).conflict = b.conflict.or (calls.findSome? Call.conflict?) := by
  induction calls generalizing b with
  | nil => exact (Option.or_none).symm
  | cons call rest ih =>
    rw [after_cons] at hsize ⊢
    rw [ih hsize, conflict_perform hsize (extends_after _ rest), List.findSome?_cons,
      Option.or_assoc]
    cases call.conflict? <;> rfl

theorem Call.conflict?_eq_some_iff : call.conflict? = some attr ↔
    ∃ pairs, call.pairs? = some pairs ∧ DisagreesFirst pairs attr := by
  simp only [conflict?, Option.bind_eq_some_iff, firstConflict_eq_some_iff]

theorem Call.conflict?_eq_none_iff : call.conflict? = none ↔
    ∀ pairs, call.pairs? = some pairs → ¬Contradicts pairs := by
  simp only [conflict?, Option.bind_eq_none_iff, contradicts_iff_firstConflict,
    ← Option.ne_none_iff_exists', ne_eq, not_not]

/-- Putting a grammar together reports a conflict exactly if one was kept. -/
theorem build_eq_conflictingValues_iff :
    b.build = .error (.conflictingValues attr) ↔ b.conflict = some attr := by
  unfold build
  split
  next other hother => rw [hother, Except.error.injEq, GrammarError.conflictingValues.injEq,
    Option.some.injEq]
  next hnone =>
    rw [hnone]
    refine iff_of_false (fun h ↦ ?_) nofun
    cases hmake : Grammar.make b.symbols b.lexicon b.allRules with
    | ok grammar =>
      rw [hmake] at h
      exact absurd h nofun
    | error e =>
      rw [hmake] at h
      obtain rfl : e = .conflictingValues attr := Except.error.inj h
      obtain ⟨⟨⟩⟩ := Grammar.blames_of_make hmake

/-- No conflicting structure is lost while a grammar is put together by any calls, as long as there
are fewer names than symbols. Pairs make no structure exactly if two of them give an attribute
different values, and then such an attribute is found; otherwise they make the structure that
consists of them. What is reported is the attribute of the earliest pair that disagrees with a pair
before it, in the first call with such pairs. -/
theorem conflicts_are_reported {calls : List Call}
    (hsize : (after {} calls).symbols.size < UInt32.size) :
    (∀ before call rest pairs, calls = before ++ call :: rest → call.pairs? = some pairs →
      let b := call.asks (after {} before)
      (Structure.ofPairs? (internPairs b.symbols pairs).1 = none ↔ Contradicts pairs) ∧
        (Contradicts pairs ↔ ∃ attr, firstConflict [] pairs = some attr) ∧
        (¬Contradicts pairs → (b.features pairs).1.Canonical ∧ ∀ p, p ∈ (b.features pairs).1 ↔
          ∃ written ∈ pairs, (after {} calls).symbols.Spells written p)) ∧
    ((∃ attr, (after {} calls).build = .error (.conflictingValues attr)) ↔
      ∃ call ∈ calls, ∃ pairs, call.pairs? = some pairs ∧ Contradicts pairs) ∧
    ∀ attr, (after {} calls).build = .error (.conflictingValues attr) ↔
      ∃ before call rest pairs, calls = before ++ call :: rest ∧ call.pairs? = some pairs ∧
        (∀ earlier ∈ before, ∀ others, earlier.pairs? = some others → ¬Contradicts others) ∧
        DisagreesFirst pairs attr := by
  have hsize : (after {} calls).symbols.size ≤ UInt32.size := Nat.le_of_lt hsize
  have hconflict : (after {} calls).conflict = calls.findSome? Call.conflict? :=
    conflict_after hsize
  refine ⟨fun before call rest pairs hsplit hpairs ↦ ?_, ?_, fun attr ↦ ?_⟩
  · have hextends := extends_of_split (b := {}) hsplit hpairs
    exact ⟨ofPairs?_internPairs_eq_none_iff hsize hextends, contradicts_iff_firstConflict,
      mem_features_iff hsize hextends⟩
  · simp only [build_eq_conflictingValues_iff, hconflict]
    constructor
    · rintro ⟨attr, hfound⟩
      obtain ⟨call, hcall, hattr⟩ := List.exists_of_findSome?_eq_some hfound
      obtain ⟨pairs, hpairs, hdisagrees⟩ := Call.conflict?_eq_some_iff.mp hattr
      exact ⟨call, hcall, pairs, hpairs, hdisagrees.contradicts⟩
    · rintro ⟨call, hcall, pairs, hpairs, hcontradicts⟩
      refine Option.ne_none_iff_exists'.mp fun hnone ↦ ?_
      have hfine := List.findSome?_eq_none_iff.mp hnone call hcall
      exact Call.conflict?_eq_none_iff.mp hfine pairs hpairs hcontradicts
  · rw [build_eq_conflictingValues_iff, hconflict, List.findSome?_eq_some_iff]
    simp only [Call.conflict?_eq_some_iff, Call.conflict?_eq_none_iff]
    constructor
    · rintro ⟨before, call, rest, hsplit, ⟨pairs, hpairs, hdisagrees⟩, hbefore⟩
      exact ⟨before, call, rest, pairs, hsplit, hpairs, hbefore, hdisagrees⟩
    · rintro ⟨before, call, rest, pairs, hsplit, hpairs, hbefore, hdisagrees⟩
      exact ⟨before, call, rest, hsplit, ⟨pairs, hpairs, hdisagrees⟩, hbefore⟩

/-- Calls that name a symbol, accept a tag and make the structure of a noun. -/
def fineCalls : List Call :=
  [.symbol "noun", .accept "word", .features [("number", "plural"), ("class", "noun")]]

/-- Pairs with two numbers and, after these, two cases. -/
def twoNumbers : List (String × String) :=
  [("case", "nominative"), ("number", "plural"), ("number", "singular"), ("case", "genitive")]

/-- The number is reported, although a case is given before it, and although only the case is wrong
in the last call. -/
theorem conflicts_are_reported_numbers :
    let calls := fineCalls ++ [.addLexeme "talo" "noun" twoNumbers,
      .features [("case", "nominative"), ("case", "genitive")]]
    (after {} calls).symbols.size < UInt32.size ∧
      (after {} calls).build = .error (.conflictingValues "number") ∧
      ∀ p, p ∈ ((after {} [.symbol "noun", .accept "word"]).features
          [("number", "plural"), ("class", "noun")]).1 ↔
        ∃ written ∈ [("number", "plural"), ("class", "noun")],
          (after {} calls).symbols.Spells written p := by
  intro calls
  have hsize : (after {} calls).symbols.size < UInt32.size := by decide
  obtain ⟨hcalls, -, hreported⟩ := conflicts_are_reported hsize
  have hfine : ∀ call ∈ fineCalls, call.conflict? = none := by decide
  have htwo : firstConflict [] twoNumbers = some "number" := by decide
  have hnoun := Call.conflict?_eq_none_iff.mp
    (hfine (.features [("number", "plural"), ("class", "noun")]) (by simp [fineCalls])) _ rfl
  refine ⟨hsize, (hreported "number").mpr ?_, ?_⟩
  · exact ⟨fineCalls, _, _, twoNumbers, rfl, rfl,
      fun earlier hearlier ↦ Call.conflict?_eq_none_iff.mp (hfine earlier hearlier),
      firstConflict_eq_some_iff.mp htwo⟩
  · exact ((hcalls [.symbol "noun", .accept "word"] _ _ _ rfl rfl).2.2 hnoun).2

end GrammarBuilder

end Morphology
