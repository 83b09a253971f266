import Morphology.Proofs.Analysis.Leaves
import Morphology.Proofs.Analysis.Transfer
import Morphology.Proofs.Search.SharedWays
import Morphology.Proofs.Text.Stretch

/-!
# Beginnings of texts

What is found in the beginning of a text does not depend on what follows it, as long as no rule uses
a regular expression: no other pattern looks at the characters behind the stretch that it fits. The
end of the beginning, where morphs without any characters may be, is the end of the text in the one
search but not in the other; gating and the index of first characters take different decisions
there, which do not matter.
-/

namespace Morphology

namespace Execution

/-! ## Captures -/

/-- The captures that are closed stop at places that the way has passed. -/
def State.CapturesPassed (s : State) : Prop :=
  ∀ c ∈ s.captures, ∀ stop, c.stop = some stop → stop ≤ s.position

theorem preserves_capturesPassed (e : Setting) (i : Instruction) :
    Preserves e State.CapturesPassed i := by
  intro hbasic s t hs ht
  have hlead := leads_of_mem hbasic ht
  have hkept (c : Capture) (hc : c ∈ s.captures) (stop : Nat) (hstop : c.stop = some stop) :
      stop ≤ t.position := Nat.le_trans (hs c hc stop hstop) hlead.position_le
  cases hlead with
  | read | lookup | unify | assign | tag => exact hkept
  | openCapture id =>
    intro c hc stop hstop
    rcases List.mem_append.mp hc with hold | hnew
    · exact hkept c (List.mem_filter.mp hold).1 stop hstop
    · obtain rfl := List.mem_singleton.mp hnew
      exact absurd hstop nofun
  | closeCapture =>
    intro c hc stop hstop
    obtain ⟨d, hd, rfl⟩ := List.mem_map.mp hc
    split at hstop
    · exact Nat.le_of_eq (Option.some.inj hstop).symm
    · exact hkept d hd stop hstop

/-- Captures that stop in the beginning of a text do not depend on what follows it. -/
theorem State.captured_append {s : State} {v : List Char} (h : s.CapturesPassed)
    (hposition : s.position ≤ v.length) (w : List Char) (id : UInt8) :
    s.captured (v ++ w) id = s.captured v id := by
  unfold State.captured
  split
  next number start stop hfind =>
    have hstop := h _ (List.mem_of_find?_eq_some hfind) stop rfl
    rw [slice_append (Nat.le_trans hstop hposition)]
  next => rfl

theorem sourceValue_append {e : Setting} {s : State} {v : List Char} (h : s.CapturesPassed)
    (hposition : s.position ≤ v.length) (w : List Char) (source : Source) :
    sourceValue { e with text := v ++ w } s source = sourceValue { e with text := v } s source := by
  cases source with
  | constant value => rfl
  | capture id => simp only [sourceValue, s.captured_append h hposition w id]
  | surface => simp only [sourceValue, slice_append hposition]

theorem mem_read_append {s t : State} {v : List Char} {pattern : TextPattern}
    (hregex : ∀ r, pattern ≠ .regex r) (hposition : s.position ≤ v.length)
    (ht : t.position ≤ v.length) (w : List Char) :
    t ∈ s.read (v ++ w) pattern ↔ t ∈ s.read v pattern := by
  unfold State.read
  rw [List.mem_map, List.mem_map, List.drop_append_of_le_length hposition]
  refine exists_congr fun n ↦ and_congr_left fun hn ↦ ?_
  subst hn
  apply TextPattern.mem_lengths_append hregex
  rw [List.length_drop]
  exact Nat.le_sub_of_add_le' ht

/-! ## Single instructions -/

/-- As long as ways stay in the beginning of a text, an instruction without a regular expression
leads to the same states whatever follows. -/
theorem mem_ways_append {e : Setting} {s t : State} {v : List Char} {i : Instruction}
    (hbasic : i.isBasic) (hregex : ∀ r, i ≠ .read (.regex r)) (h : s.CapturesPassed)
    (hposition : s.position ≤ v.length) (ht : t.position ≤ v.length) (w : List Char) :
    t ∈ waysOfInstruction { e with text := v ++ w } s i ↔
      t ∈ waysOfInstruction { e with text := v } s i := by
  cases i with
  | read pattern =>
    rw [waysOfInstruction, waysOfInstruction]
    exact mem_read_append (fun r hr ↦ hregex r (congrArg _ hr)) hposition ht w
  | lookup id =>
    rw [waysOfInstruction, waysOfInstruction]
    simp only [s.captured_append h hposition w id]
  | assign attr source =>
    rw [waysOfInstruction, waysOfInstruction, sourceValue_append h hposition w source]
  | openCapture | closeCapture | unify | tag => rw [waysOfInstruction, waysOfInstruction]
  | choice branches => simp [Instruction.isBasic] at hbasic

theorem shares_of_beginning (e : Setting) (v w w' : List Char) {i : Instruction}
    (hregex : ∀ r, i ≠ .read (.regex r)) :
    Shares { e with text := v ++ w } { e with text := v ++ w' } State.CapturesPassed
      (fun s ↦ s.position ≤ v.length) i where
  keeps_known := preserves_capturesPassed _ i
  keeps_outside hbasic s t hs ht := by
    have hle := (leads_of_mem hbasic ht).position_le
    omega
  leads hbasic s t hs ht hway := by
    have hposition := Nat.le_trans (leads_of_mem hbasic hway).position_le ht
    rw [mem_ways_append hbasic hregex hs hposition ht] at hway ⊢
    exact hway

end Execution

/-- A rule uses no regular expression, in none of its branches. -/
def MorphRule.RegexFree (rule : MorphRule) : Prop :=
  ∀ i ∈ Instruction.basicsOfProgram rule.program, ∀ r, i ≠ .read (.regex r)

namespace Grammar

variable {grammar : Grammar}

theorem transfers_of_beginning (h : ∀ rule ∈ grammar.rules.morphs, rule.RegexFree)
    (v w w' : List Char) : grammar.Transfers grammar (v ++ w) (v ++ w') v.length where
  morphs _ hrule := hrule
  productions _ hrule := hrule
  ways rule hrule place s hs hposition := by
    have hinitial : (rule.initial place).CapturesPassed := fun c hc ↦ absurd hc List.not_mem_nil
    refine Execution.shared_program hinitial ?_ rule.program (fun i hi ↦
      Execution.shares_of_beginning (rule.setting (v ++ w) grammar.lexicon place) v w w'
        (h rule hrule i hi)) hs
    exact hposition

/-- If a text can be analysed, so can each of its beginnings, and the search of the beginning finds
what the search of the text finds in it, as long as no rule uses a regular expression. -/
theorem items_of_beginning {grammar : Grammar} (h : ∀ rule ∈ grammar.rules.morphs, rule.RegexFree)
    (options : Options) {v w : String} {a : Analysis}
    (ha : grammar.analyzeWith { options with budget := none } (v ++ w) = .ok a) :
    ∃ b s t, grammar.analyzeWith { options with budget := none } v = .ok b ∧
      (grammar.search (v ++ w).toList).result = .ok (a.segmentation, s, a.passes) ∧
      (grammar.search v.toList).result = .ok (b.segmentation, t, b.passes) ∧
      ∀ item : Item, item.stop ≤ v.length → (item ∈ s.chart.items ↔ item ∈ t.chart.items) := by
  -- Within the beginning, the rules are used in either text as they are in the other one.
  have hthere := transfers_of_beginning h v.toList [] w.toList
  have hback := transfers_of_beginning h v.toList w.toList []
  rw [List.append_nil, ← String.toList_append] at hthere hback
  have hwhole : grammar.Shallow (v ++ w).toList := (exists_analysis_iff _ _ _).mp ⟨a, ha⟩
  have hpart : grammar.Shallow v.toList := hthere.shallow hwhole (Nat.le_refl _)
  obtain ⟨b, hb⟩ := (exists_analysis_iff grammar options v).mpr hpart
  obtain ⟨s, hs, -⟩ := yields_of_analyzeWith ha
  obtain ⟨t, ht, -⟩ := yields_of_analyzeWith hb
  refine ⟨b, s, t, hb, (metered_search grammar _).yields_iff.mp hs,
    (metered_search grammar _).yields_iff.mp ht, fun item hstop ↦ ?_⟩
  rw [← String.length_toList] at hstop
  rw [mem_items_iff hs, mem_items_iff ht]
  exact ⟨fun hitem ↦ hback.found hpart hitem hstop, fun hitem ↦ hthere.found hwhole hitem hstop⟩

theorem regexFree_marked : ∀ rule ∈ marked.rules.morphs, rule.RegexFree := by
  simp [marked, MorphRule.RegexFree, Instruction.basicsOfProgram, Instruction.basics]

/-- A mark is found behind the first of two letters, and it is found where a text of one letter
ends. -/
theorem items_of_beginning_marked : (∀ rule ∈ marked.rules.morphs, rule.RegexFree) ∧
    ∃ a b s t, marked.analyzeWith { budget := none } ("é" ++ "ß") = .ok a ∧
      marked.analyzeWith { budget := none } "é" = .ok b ∧
      (marked.search ("é" ++ "ß").toList).result = .ok (a.segmentation, s, a.passes) ∧
      (marked.search "é".toList).result = .ok (b.segmentation, t, b.passes) ∧
      (∀ item : Item, item.stop ≤ "é".length → (item ∈ s.chart.items ↔ item ∈ t.chart.items)) ∧
      ⟨1, 1, ⟨1⟩, .empty, []⟩ ∈ s.chart.items := by
  have htrees : (marked.treesIn { budget := none } ("é" ++ "ß") 2).isSome := by decide +kernel
  obtain ⟨trees, hin⟩ := Option.isSome_iff_exists.mp htrees
  obtain ⟨a, ha, -⟩ := analyzeWith_of_treesIn hin
  obtain ⟨b, s, t, hb, hs, ht, hitems⟩ := items_of_beginning regexFree_marked {} ha
  refine ⟨regexFree_marked, a, b, s, t, ha, hb, hs, ht, hitems, ?_⟩
  have hyields := (metered_search marked ("é" ++ "ß").toList).yields_iff.mpr hs
  have hletter : marked.FindsMorph ("é" ++ "ß").toList 0 0 ⟨1, .empty, ⟨0⟩⟩ :=
    ⟨_, _, rfl, rfl, List.mem_singleton.mpr rfl⟩
  have hmark : marked.FindsMorph ("é" ++ "ß").toList 1 1 ⟨1, .empty, ⟨1⟩⟩ :=
    ⟨_, _, rfl, rfl, List.mem_singleton.mpr rfl⟩
  exact (mem_items_iff hyields).mpr
    ⟨.morph 1 1 _ (by decide) hmark, .morph 0 0 _ .beginning hletter⟩

end Grammar

end Morphology
