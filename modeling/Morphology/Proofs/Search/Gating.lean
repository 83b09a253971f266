import Morphology.Proofs.Rule.TextPattern
import Morphology.Proofs.Search.Index
import Morphology.Proofs.Search.Ways
import Morphology.Search.Segmentation

/-!
# Rules that are set aside

A rule is set aside for a text, or not offered at a place of it, only where none of its ways comes
to an end. Ways stay inside of the text and do not go back.
-/

namespace Morphology

/-! ## Places -/

namespace Execution

/-- A way is at a place of the text that is not before its start. -/
def Placed (e : Setting) (s : State) : Prop := e.start ≤ s.position ∧ s.position ≤ e.text.length

theorem preserves_placed (e : Setting) (i : Instruction) : Preserves e (Placed e) i := by
  intro hbasic s t hs ht
  cases leads_of_mem hbasic ht with
  | read hn =>
    have hlength := TextPattern.le_length hn
    rw [List.length_drop] at hlength
    obtain ⟨hstart, hstop⟩ := hs
    constructor
    · exact Nat.le_trans hstart (Nat.le_add_right _ _)
    · change s.position + _ ≤ e.text.length
      omega
  | openCapture | closeCapture | lookup | unify | assign | tag => exact hs

/-- Whatever a program reads without a condition has been read on each of its ways. -/
theorem exists_reading {e : Setting} {s t : State} {pattern : TextPattern} {program : Program}
    (h : .read pattern ∈ program) (ht : t ∈ waysOfProgram e s program) :
    ∃ place, ∃ n, n ∈ pattern.lengths (e.text.drop place) := by
  induction program generalizing s with
  | nil => exact absurd h List.not_mem_nil
  | cons i rest ih =>
    rw [waysOfProgram] at ht
    obtain ⟨u, hu, ht⟩ := List.mem_flatMap.mp ht
    rcases List.mem_cons.mp h with rfl | h
    · obtain ⟨n, hn, -⟩ := List.mem_map.mp hu
      exact ⟨s.position, n, hn⟩
    · exact ih h ht

end Execution

namespace MorphRule

variable {rule : MorphRule} {text : List Char} {lexicon : Lexicon} {start : Nat}

/-- A way ends inside of the text and not before its start. -/
theorem placed_of_mem_ways {s : Execution.State} (hstart : start ≤ text.length)
    (hs : s ∈ rule.ways text lexicon start) : start ≤ s.position ∧ s.position ≤ text.length :=
  Execution.preserves_program (e := rule.setting text lexicon start) (s := rule.initial start)
    ⟨Nat.le_refl start, hstart⟩ rule.program
    (fun i _ ↦ Execution.preserves_placed _ i) hs

/-! ## Gating -/

theorem firstChar_of_mem_ways {s : Execution.State} {c : Char} (hfirst : rule.firstChar? = some c)
    (hs : s ∈ rule.ways text lexicon start) : text[start]? = some c := by
  unfold firstChar? at hfirst
  split at hfirst
  next literal rest hprogram =>
    unfold ways at hs
    rw [hprogram, Execution.waysOfProgram] at hs
    obtain ⟨t, ht, -⟩ := List.mem_flatMap.mp hs
    obtain ⟨n, hn, -⟩ := List.mem_map.mp ht
    obtain ⟨after, hafter⟩ := TextPattern.literal_prefix hn
    obtain ⟨tail, rfl⟩ := List.head?_eq_some_iff.mp hfirst
    have hdrop : text.drop start = c :: (tail ++ after) := hafter.symm
    rw [← List.head?_drop, hdrop]
    rfl
  next => exact absurd hfirst nofun

end MorphRule

theorem occursIn_of_prefix_drop {part text : List Char} {place : Nat}
    (h : part <+: text.drop place) : occursIn part text := by
  induction text generalizing place with
  | nil =>
    rw [List.drop_nil, List.prefix_nil] at h
    simp [h, occursIn]
  | cons c rest ih =>
    rw [occursIn, Bool.or_eq_true]
    cases place with
    | zero => exact .inl (List.isPrefixOf_iff_prefix.mpr h)
    | succ place => exact .inr (ih h)

namespace Categories

theorem union_meets (a b c : Categories) : (a.union b).meets c = (a.meets c || b.meets c) := by
  simp only [meets, flags, union, List.zip_cons_cons, List.zip_nil_left, List.any_cons,
    List.any_nil, Bool.or_false, Bool.and_or_distrib_right]
  ac_rfl

theorem foldl_union_meets {text : List Char} {s required : Categories}
    (h : s.meets required ∨ ∃ c ∈ text, (ofChar c).meets required) :
    (text.foldl (fun s c ↦ s.union (.ofChar c)) s).meets required := by
  induction text generalizing s with
  | nil => exact h.resolve_right fun ⟨_, hc, _⟩ ↦ absurd hc List.not_mem_nil
  | cons d rest ih =>
    rw [List.foldl_cons]
    refine ih ?_
    rw [union_meets, Bool.or_eq_true]
    rcases h with h | ⟨c, hc, hmeets⟩
    · exact .inl (.inl h)
    · rcases List.mem_cons.mp hc with rfl | hc
      · exact .inl (.inr hmeets)
      · exact .inr ⟨c, hc, hmeets⟩

end Categories

namespace MorphRule

variable {rule : MorphRule} {text : List Char} {lexicon : Lexicon} {start : Nat}

theorem occursIn_of_mem_ways {s : Execution.State} (hs : s ∈ rule.ways text lexicon start)
    {literal : List Char} (hliteral : literal ∈ rule.requiredLiterals) : occursIn literal text := by
  obtain ⟨i, hi, hsome⟩ := List.mem_filterMap.mp hliteral
  split at hsome
  next text =>
    have heq : text = literal := by
      split at hsome
      · exact absurd hsome nofun
      · exact Option.some.inj hsome
    obtain ⟨place, n, hn⟩ := Execution.exists_reading hi hs
    exact occursIn_of_prefix_drop (heq ▸ TextPattern.literal_prefix hn)
  next => exact absurd hsome nofun

theorem exists_meets_of_mem_ways {s : Execution.State} (hs : s ∈ rule.ways text lexicon start)
    {required : Categories} (hrequired : required ∈ rule.requiredCategories) :
    ∃ c ∈ text, (Categories.ofChar c).meets required := by
  obtain ⟨i, hi, hsome⟩ := List.mem_filterMap.mp hrequired
  split at hsome
  next cls min max =>
    split at hsome
    next hasks =>
      obtain rfl := Option.some.inj hsome
      simp only [Bool.and_eq_true, decide_eq_true_eq, Bool.not_eq_true', List.isEmpty_iff] at hasks
      obtain ⟨⟨⟨hmin, hpositive⟩, hmembers⟩, -⟩ := hasks
      obtain ⟨place, n, hn⟩ := Execution.exists_reading hi hs
      obtain ⟨c, hc, hcontains⟩ := TextPattern.run_exists hmin hn
      refine ⟨c, List.mem_of_mem_drop hc, ?_⟩
      simpa [CharacterClass.contains, hpositive, hmembers] using hcontains
    next => exact absurd hsome nofun
  next => exact absurd hsome nofun

/-- A text in which some way of a rule comes to an end has everything that the rule asks for. -/
theorem admits_of_mem_ways {s : Execution.State} (hs : s ∈ rule.ways text lexicon start) :
    (TextTraits.of text).admits rule := by
  simp only [TextTraits.admits, TextTraits.of, Bool.and_eq_true]
  refine ⟨⟨?_, ?_⟩, ?_⟩
  · cases hfirst : rule.firstChar? with
    | none => rfl
    | some c =>
      have hc := List.mem_of_getElem? (firstChar_of_mem_ways hfirst hs)
      simpa using hc
  · exact List.all_eq_true.mpr fun literal ↦ occursIn_of_mem_ways hs
  · refine List.all_eq_true.mpr fun required hrequired ↦ ?_
    exact Categories.foldl_union_meets (.inr (exists_meets_of_mem_ways hs hrequired))

theorem mem_activeRules {grammar : Grammar} {id : Nat} : id ∈ Segmentation.activeRules grammar text ↔
    ∃ rule, grammar.rules.morphs[id]? = some rule ∧ (TextTraits.of text).admits rule := by
  unfold Segmentation.activeRules
  simp only [List.mem_filterMap]
  constructor
  · intro ⟨⟨rule, number⟩, hnumbered, hid⟩
    split at hid
    next hadmits =>
      obtain rfl := Option.some.inj hid
      exact ⟨rule, List.mem_zipIdx_iff_getElem?.mp hnumbered, hadmits⟩
    next => exact absurd hid nofun
  · intro ⟨rule, hrule, hadmits⟩
    exact ⟨(rule, id), List.mem_zipIdx_iff_getElem?.mpr hrule, if_pos hadmits⟩

/-- A rule with a way that comes to an end is offered where the way starts. -/
theorem mem_candidates_of_mem_ways {grammar : Grammar} {id : Nat} {s : Execution.State}
    (hrule : grammar.rules.morphs[id]? = some rule)
    (hs : s ∈ rule.ways text grammar.lexicon start) :
    id ∈ (MorphIndex.ofRules grammar.rules.morphs).candidates
      (Segmentation.activeRules grammar text) text[start]? := by
  refine MorphIndex.mem_candidates.mpr ⟨?_, rule, hrule, fun c hc ↦ firstChar_of_mem_ways hc hs⟩
  exact mem_activeRules.mpr ⟨rule, hrule, admits_of_mem_ways hs⟩

end MorphRule

end Morphology
