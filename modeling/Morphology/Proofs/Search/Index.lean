import Mathlib.Data.List.Sort
import Morphology.Search.Index

/-!
# Exactness of the rule indexes

A rule is offered at a place exactly if its first character is the one that follows, or if it has
none; a production is offered for a tag exactly if its first child can have it. Rules are offered
in their order, so that an index offers what is left of the list of all rules when the others are
taken out. Sorting what is filed in different places is enough for that, as no rule is filed twice.
-/

namespace Morphology

section

variable {α : Type} [DecidableEq α]

theorem filed_cons (entry : α × List Nat) (table : List (α × List Nat)) (key : α) :
    filed (entry :: table) key = if entry.1 = key then entry.2 else filed table key := by
  unfold filed
  rw [List.find?_cons]
  split
  next h => simp [of_decide_eq_true h]
  next h => simp [of_decide_eq_false h]

theorem filed_fileUnder (key other : α) (id : Nat) (table : List (α × List Nat)) :
    filed (fileUnder key id table) other =
      if key = other then filed table other ++ [id] else filed table other := by
  induction table with
  | nil =>
    rw [fileUnder, filed_cons]
    rfl
  | cons entry rest ih =>
    obtain ⟨k, ids⟩ := entry
    rw [fileUnder]
    by_cases hk : k = key
    · subst hk
      rw [if_pos rfl, filed_cons, filed_cons]
      by_cases hother : k = other <;> simp [hother]
    · rw [if_neg hk, filed_cons, filed_cons]
      by_cases hother : k = other
      · have hne : key ≠ other := fun heq ↦ hk (hother.trans heq.symm)
        simp [hother, hne]
      · simp only [if_neg hother]
        exact ih

theorem filed_fileOnce (key other : α) (id : Nat) (table : List (α × List Nat)) :
    filed (fileOnce key id table) other =
      if key = other ∧ (filed table other).getLast? ≠ some id then filed table other ++ [id]
      else filed table other := by
  unfold fileOnce
  split
  next hlast =>
    rw [if_neg]
    rintro ⟨rfl, hnew⟩
    exact hnew hlast
  next hnew =>
    rw [filed_fileUnder]
    by_cases hkey : key = other
    · subst hkey
      rw [if_pos rfl, if_pos ⟨rfl, hnew⟩]
    · rw [if_neg hkey, if_neg fun h ↦ hkey h.1]

/-- A rule is filed once under each of some keys, however often a key is repeated. -/
theorem filed_foldl_fileOnce (id : Nat) (other : α) (keys : List α) (table : List (α × List Nat)) :
    filed (keys.foldl (fun table key ↦ fileOnce key id table) table) other =
      if other ∈ keys ∧ (filed table other).getLast? ≠ some id then filed table other ++ [id]
      else filed table other := by
  induction keys generalizing table with
  | nil => simp
  | cons key rest ih =>
    rw [List.foldl_cons, ih, filed_fileOnce]
    by_cases hkey : key = other
    · subst hkey
      by_cases hlast : (filed table key).getLast? = some id <;> simp [hlast]
    · have hmem : other ∈ key :: rest ↔ other ∈ rest := by simp [Ne.symm hkey]
      have hsame : ¬(key = other ∧ (filed table other).getLast? ≠ some id) := fun h ↦ hkey h.1
      simp only [if_neg hsame, hmem]

end

section

variable {ρ σ : Type} (view : σ → List Nat) (add : σ → ρ → Nat → σ)

theorem mem_foldl_add (files : ρ → Prop)
    (hadd : ∀ s rule id n, n ∈ view (add s rule id) ↔ n ∈ view s ∨ files rule ∧ n = id)
    (entries : List (ρ × Nat)) (s : σ) (n : Nat) :
    n ∈ view (entries.foldl (fun s (rule, id) ↦ add s rule id) s) ↔
      n ∈ view s ∨ ∃ rule, (rule, n) ∈ entries ∧ files rule := by
  induction entries generalizing s with
  | nil => simp
  | cons entry rest ih =>
    rw [List.foldl_cons, ih, hadd, or_assoc]
    refine or_congr_right ?_
    constructor
    · rintro (⟨hfiles, rfl⟩ | ⟨rule, hmem, hfiles⟩)
      · exact ⟨entry.1, List.mem_cons_self, hfiles⟩
      · exact ⟨rule, List.mem_cons_of_mem _ hmem, hfiles⟩
    · rintro ⟨rule, hmem, hfiles⟩
      rcases List.mem_cons.mp hmem with rfl | hmem
      · exact .inl ⟨hfiles, rfl⟩
      · exact .inr ⟨rule, hmem, hfiles⟩

/-- An index that is built from rules one by one offers a rule somewhere exactly if the rule is
filed there. -/
theorem mem_of_indexed (files : ρ → Prop)
    (hadd : ∀ s rule id n, n ∈ view (add s rule id) ↔ n ∈ view s ∨ files rule ∧ n = id)
    (rules : List ρ) (s : σ) (n : Nat) :
    n ∈ view (rules.zipIdx.foldl (fun s (rule, id) ↦ add s rule id) s) ↔
      n ∈ view s ∨ ∃ rule, rules[n]? = some rule ∧ files rule := by
  rw [mem_foldl_add view add files hadd]
  simp only [List.mem_zipIdx_iff_getElem?]

/-- Numbers in increasing order, all of them below a bound. -/
def IncreasingBelow (bound : Nat) (ids : List Nat) : Prop :=
  ids.Pairwise (· < ·) ∧ ∀ id ∈ ids, id < bound

theorem IncreasingBelow.succ {bound : Nat} {ids : List Nat} (h : IncreasingBelow bound ids) :
    IncreasingBelow (bound + 1) ids :=
  ⟨h.1, fun id hid ↦ Nat.lt_succ_of_lt (h.2 id hid)⟩

theorem IncreasingBelow.concat {bound : Nat} {ids : List Nat} (h : IncreasingBelow bound ids) :
    IncreasingBelow (bound + 1) (ids ++ [bound]) := by
  refine ⟨List.pairwise_append.mpr ⟨h.1, List.pairwise_singleton _ _, ?_⟩, fun id hid ↦ ?_⟩
  · intro id hid last hlast
    rw [List.mem_singleton.mp hlast]
    exact h.2 id hid
  · rw [List.mem_append, List.mem_singleton] at hid
    rcases hid with hid | rfl
    · exact h.succ.2 id hid
    · exact Nat.lt_succ_self id

theorem increasing_foldl_add
    (hadd : ∀ s rule id, view (add s rule id) = view s ∨ view (add s rule id) = view s ++ [id])
    (rules : List ρ) (n : Nat) (s : σ) (h : IncreasingBelow n (view s)) :
    IncreasingBelow (n + rules.length)
      (view ((rules.zipIdx n).foldl (fun s (rule, id) ↦ add s rule id) s)) := by
  induction rules generalizing n s with
  | nil => exact h
  | cons rule rest ih =>
    have hstep : IncreasingBelow (n + 1) (view (add s rule n)) := by
      rcases hadd s rule n with hsame | hmore
      · exact hsame ▸ h.succ
      · exact hmore ▸ h.concat
    rw [List.zipIdx_cons, List.foldl_cons, List.length_cons, Nat.add_comm rest.length,
      ← Nat.add_assoc]
    exact ih (n + 1) _ hstep

/-- The rules that are filed in one place of an index are in their order. -/
theorem pairwise_of_indexed
    (hadd : ∀ s rule id, view (add s rule id) = view s ∨ view (add s rule id) = view s ++ [id])
    (rules : List ρ) (s : σ) (hs : view s = []) :
    (view (rules.zipIdx.foldl (fun s (rule, id) ↦ add s rule id) s)).Pairwise (· < ·) := by
  have hempty : IncreasingBelow 0 (view s) := by
    rw [hs]
    exact ⟨.nil, fun id hid ↦ absurd hid List.not_mem_nil⟩
  exact (increasing_foldl_add view add hadd rules 0 s hempty).1

end

/-- Offering rules in their order is going through all rules and leaving some of them out. -/
theorem eq_map_filter_zipIdx {ρ : Type} {rules : List ρ} {ids : List Nat}
    (hsorted : ids.Pairwise (· < ·)) (hids : ∀ id ∈ ids, ∃ rule, rules[id]? = some rule) :
    ids = (rules.zipIdx.filter fun entry ↦ ids.contains entry.2).map (·.2) := by
  have hall : (rules.zipIdx.map (·.2)).Pairwise (· < ·) := by
    rw [List.zipIdx_map_snd]
    exact List.pairwise_lt_range'
  have hpart : ((rules.zipIdx.filter fun entry ↦ ids.contains entry.2).map (·.2)).Pairwise (· < ·) :=
    hall.sublist (List.filter_sublist.map _)
  refine List.Pairwise.eq_of_mem_iff (r := (· < ·)) hsorted hpart fun id ↦ ?_
  rw [List.mem_map]
  constructor
  · intro hid
    obtain ⟨rule, hrule⟩ := hids id hid
    refine ⟨(rule, id), List.mem_filter.mpr ⟨List.mem_zipIdx_iff_getElem?.mpr hrule, ?_⟩, rfl⟩
    exact List.contains_iff_mem.mpr hid
  · rintro ⟨entry, hentry, rfl⟩
    exact List.contains_iff_mem.mp (List.mem_filter.mp hentry).2

/-! ## Morph rules -/

namespace MorphIndex

variable {rules : List MorphRule} {id : Nat} {next : Option Char}

theorem filed_add (index : MorphIndex) (rule : MorphRule) (id : Nat) (c : Char) :
    filed (index.add rule id).byFirstChar c =
      if rule.firstChar? = some c then filed index.byFirstChar c ++ [id]
      else filed index.byFirstChar c := by
  rw [add]
  split
  next d hfirst => simp [hfirst, filed_fileUnder]
  next hfirst => simp [hfirst]

theorem mem_everywhere : id ∈ (ofRules rules).everywhere ↔
    ∃ rule, rules[id]? = some rule ∧ rule.firstChar? = none := by
  have hadd (index : MorphIndex) (rule : MorphRule) (n m : Nat) :
      m ∈ (index.add rule n).everywhere ↔
        m ∈ index.everywhere ∨ rule.firstChar? = none ∧ m = n := by
    cases hfirst : rule.firstChar? <;> simp [add, hfirst]
  have hindexed := mem_of_indexed everywhere add _ hadd rules {} id
  exact hindexed.trans (by simp)

theorem mem_byFirstChar {c : Char} : id ∈ filed (ofRules rules).byFirstChar c ↔
    ∃ rule, rules[id]? = some rule ∧ rule.firstChar? = some c := by
  have hadd (index : MorphIndex) (rule : MorphRule) (n m : Nat) :
      m ∈ filed (index.add rule n).byFirstChar c ↔
        m ∈ filed index.byFirstChar c ∨ rule.firstChar? = some c ∧ m = n := by
    rw [filed_add]
    split
    next hfirst => simp [hfirst]
    next hfirst => simp [hfirst]
  have hindexed := mem_of_indexed (fun index ↦ filed index.byFirstChar c) add _ hadd rules {} id
  have hempty : filed ({} : MorphIndex).byFirstChar c = [] := rfl
  simp only [hempty, List.not_mem_nil, false_or] at hindexed
  exact hindexed

theorem mem_startingWith : id ∈ (ofRules rules).startingWith next ↔
    ∃ rule c, rules[id]? = some rule ∧ rule.firstChar? = some c ∧ next = some c := by
  cases next with
  | none => simp [startingWith]
  | some d =>
    rw [startingWith, mem_byFirstChar]
    constructor
    · rintro ⟨rule, hrule, hfirst⟩
      exact ⟨rule, d, hrule, hfirst, rfl⟩
    · rintro ⟨rule, c, hrule, hfirst, hnext⟩
      exact ⟨rule, hrule, hfirst.trans hnext.symm⟩

theorem pairwise_everywhere (rules : List MorphRule) :
    (ofRules rules).everywhere.Pairwise (· < ·) := by
  refine pairwise_of_indexed everywhere add (fun index rule id ↦ ?_) rules {} rfl
  cases hfirst : rule.firstChar? <;> simp [add, hfirst]

theorem pairwise_startingWith (rules : List MorphRule) (next : Option Char) :
    ((ofRules rules).startingWith next).Pairwise (· < ·) := by
  cases next with
  | none => exact .nil
  | some c =>
    refine pairwise_of_indexed (fun index ↦ filed index.byFirstChar c) add
      (fun index rule id ↦ ?_) rules {} rfl
    simp only [filed_add]
    split
    · exact .inr rfl
    · exact .inl rfl

/-- No rule is filed both everywhere and under a character. -/
theorem nodup_filed (rules : List MorphRule) (next : Option Char) :
    ((ofRules rules).everywhere ++ (ofRules rules).startingWith next).Nodup := by
  refine List.nodup_append.mpr ⟨(pairwise_everywhere rules).imp Nat.ne_of_lt,
    (pairwise_startingWith rules next).imp Nat.ne_of_lt, ?_⟩
  rintro id hid _ hstarting rfl
  obtain ⟨rule, hrule, hnone⟩ := mem_everywhere.mp hid
  obtain ⟨other, c, hother, hfirst, -⟩ := mem_startingWith.mp hstarting
  obtain rfl := Option.some.inj (hrule.symm.trans hother)
  exact absurd (hnone.symm.trans hfirst) nofun

/-- The rules offered at a place are the active ones whose first character, if they have one, is
the one that follows. -/
theorem mem_candidates {active : List Nat} :
    id ∈ (ofRules rules).candidates active next ↔ id ∈ active ∧
      ∃ rule, rules[id]? = some rule ∧ ∀ c, rule.firstChar? = some c → next = some c := by
  unfold candidates
  rw [(perm_inOrder _).mem_iff, List.mem_filter, List.contains_iff_mem, and_comm, List.mem_append,
    mem_everywhere, mem_startingWith]
  refine and_congr_right fun _ ↦ ?_
  constructor
  · rintro (⟨rule, hrule, hnone⟩ | ⟨rule, d, hrule, hfirst, hnext⟩)
    · exact ⟨rule, hrule, fun c hc ↦ absurd (hnone.symm.trans hc) nofun⟩
    · exact ⟨rule, hrule, fun c hc ↦ hnext.trans (hfirst.symm.trans hc)⟩
  · rintro ⟨rule, hrule, hfits⟩
    cases hfirst : rule.firstChar? with
    | none => exact .inl ⟨rule, hrule, hfirst⟩
    | some c => exact .inr ⟨rule, c, hrule, hfirst, hfits c hfirst⟩

theorem exists_rule_of_mem_candidates {rules : List MorphRule} {active : List Nat}
    {next : Option Char} {id : Nat} (h : id ∈ (ofRules rules).candidates active next) :
    ∃ rule, rules[id]? = some rule :=
  let ⟨_, rule, hrule, _⟩ := mem_candidates.mp h
  ⟨rule, hrule⟩

/-- Rules are offered in their order. -/
theorem pairwise_candidates (rules : List MorphRule) (active : List Nat) (next : Option Char) :
    ((ofRules rules).candidates active next).Pairwise (· < ·) :=
  increasing_inOrder ((nodup_filed rules next).filter _)

end MorphIndex

/-! ## Productions -/

theorem TagPattern.accepts_iff (pattern : TagPattern) {tag : Symbol} :
    pattern.accepts tag ↔ pattern = .any ∨ tag ∈ pattern.symbols := by
  cases pattern with
  | exactly t =>
    rw [accepts, symbols, beq_iff_eq, List.mem_singleton, eq_comm]
    simp
  | oneOf tags => simp [accepts, symbols]
  | any => simp [accepts]

namespace ProductionIndex

variable {rules : List Production} {tag : Symbol} {id : Nat}

theorem mem_everywhere : id ∈ (ofRules rules).everywhere ↔
    ∃ rule, rules[id]? = some rule ∧ rule.pattern.head? = some .any := by
  have hadd (index : ProductionIndex) (rule : Production) (n m : Nat) :
      m ∈ (index.add rule n).everywhere ↔
        m ∈ index.everywhere ∨ rule.pattern.head? = some .any ∧ m = n := by
    rw [add]
    split <;> simp_all
  have hindexed := mem_of_indexed everywhere add _ hadd rules {} id
  exact hindexed.trans (by simp)

theorem mem_filed_add {index : ProductionIndex} {rule : Production} {n : Nat} :
    n ∈ filed (index.add rule id).byFirstTag tag ↔ n ∈ filed index.byFirstTag tag ∨
      (∃ first, rule.pattern.head? = some first ∧ tag ∈ first.symbols) ∧ n = id := by
  rw [add]
  split
  next t hfirst =>
    rw [filed_fileUnder]
    split
    next htag => simp [hfirst, TagPattern.symbols, htag]
    next htag => simp [hfirst, TagPattern.symbols, Ne.symm htag]
  next tags hfirst =>
    rw [filed_foldl_fileOnce]
    split
    next htag => simp [hfirst, TagPattern.symbols, htag.1]
    next hknown =>
      -- Under a tag that is listed, the rule has been filed before.
      have hmem (htag : tag ∈ tags) : id ∈ filed index.byFirstTag tag :=
        List.mem_of_getLast? (not_not.mp fun hnew ↦ hknown ⟨htag, hnew⟩)
      refine ⟨.inl, fun h ↦ h.elim (fun h ↦ h) ?_⟩
      rintro ⟨⟨first, hhead, htag⟩, rfl⟩
      obtain rfl := Option.some.inj (hfirst.symm.trans hhead)
      exact hmem htag
  next hfirst => simp [hfirst, TagPattern.symbols]
  next hfirst => simp [hfirst]

theorem filed_add_cases (index : ProductionIndex) (rule : Production) (id : Nat) (tag : Symbol) :
    filed (index.add rule id).byFirstTag tag = filed index.byFirstTag tag ∨
      filed (index.add rule id).byFirstTag tag = filed index.byFirstTag tag ++ [id] := by
  rw [add]
  split
  next =>
    rw [filed_fileUnder]
    split
    · exact .inr rfl
    · exact .inl rfl
  next =>
    rw [filed_foldl_fileOnce]
    split
    · exact .inr rfl
    · exact .inl rfl
  next => exact .inl rfl
  next => exact .inl rfl

theorem mem_byFirstTag : id ∈ filed (ofRules rules).byFirstTag tag ↔
    ∃ rule, rules[id]? = some rule ∧
      ∃ first, rule.pattern.head? = some first ∧ tag ∈ first.symbols := by
  have hindexed := mem_of_indexed (fun index ↦ filed index.byFirstTag tag) add _
    (fun _ _ _ _ ↦ mem_filed_add) rules {} id
  have hempty : filed ({} : ProductionIndex).byFirstTag tag = [] := rfl
  simp only [hempty, List.not_mem_nil, false_or] at hindexed
  exact hindexed

theorem pairwise_everywhere (rules : List Production) :
    (ofRules rules).everywhere.Pairwise (· < ·) := by
  refine pairwise_of_indexed everywhere add (fun index rule id ↦ ?_) rules {} rfl
  rw [add]
  split <;> simp

/-- A production is filed once under a tag, also if its first element names the tag repeatedly. -/
theorem pairwise_byFirstTag (rules : List Production) (tag : Symbol) :
    (filed (ofRules rules).byFirstTag tag).Pairwise (· < ·) :=
  pairwise_of_indexed (fun index ↦ filed index.byFirstTag tag) add
    (fun index rule id ↦ filed_add_cases index rule id tag) rules {} rfl

/-- No production is filed both everywhere and under a tag. -/
theorem nodup_filed (rules : List Production) (tag : Symbol) :
    (filed (ofRules rules).byFirstTag tag ++ (ofRules rules).everywhere).Nodup := by
  refine List.nodup_append.mpr ⟨(pairwise_byFirstTag rules tag).imp Nat.ne_of_lt,
    (pairwise_everywhere rules).imp Nat.ne_of_lt, ?_⟩
  rintro id htagged _ hid rfl
  obtain ⟨rule, hrule, first, hfirst, htag⟩ := mem_byFirstTag.mp htagged
  obtain ⟨other, hother, hany⟩ := mem_everywhere.mp hid
  obtain rfl := Option.some.inj (hrule.symm.trans hother)
  obtain rfl := Option.some.inj (hfirst.symm.trans hany)
  exact absurd htag List.not_mem_nil

/-- The productions offered for a tag are those whose first child can have it. -/
theorem mem_candidates : id ∈ (ofRules rules).candidates tag ↔
    ∃ rule, rules[id]? = some rule ∧
      ∃ first, rule.pattern.head? = some first ∧ first.accepts tag := by
  unfold candidates
  rw [(perm_inOrder _).mem_iff, List.mem_append, mem_byFirstTag, mem_everywhere]
  constructor
  · rintro (⟨rule, hrule, first, hfirst, htag⟩ | ⟨rule, hrule, hany⟩)
    · exact ⟨rule, hrule, first, hfirst, first.accepts_iff.mpr (.inr htag)⟩
    · exact ⟨rule, hrule, .any, hany, rfl⟩
  · rintro ⟨rule, hrule, first, hfirst, haccepts⟩
    rcases first.accepts_iff.mp haccepts with rfl | htag
    · exact .inr ⟨rule, hrule, hfirst⟩
    · exact .inl ⟨rule, hrule, first, hfirst, htag⟩

theorem exists_rule_of_mem_candidates (h : id ∈ (ofRules rules).candidates tag) :
    ∃ rule, rules[id]? = some rule :=
  let ⟨rule, hrule, _⟩ := mem_candidates.mp h
  ⟨rule, hrule⟩

/-- Productions are offered in their order. -/
theorem pairwise_candidates (rules : List Production) (tag : Symbol) :
    ((ofRules rules).candidates tag).Pairwise (· < ·) :=
  increasing_inOrder (nodup_filed rules tag)

/-- The productions offered for a tag are exactly those whose first element accepts it. They come in
their order, and none comes twice, however often its first element names the tag. -/
theorem offers_first_matches (rules : List Production) (tag : Symbol) :
    ((ofRules rules).candidates tag).Pairwise (· < ·) ∧
      ∀ id, id ∈ (ofRules rules).candidates tag ↔ ∃ rule, rules[id]? = some rule ∧
        ∃ first rest, rule.pattern = first :: rest ∧ first.accepts tag := by
  refine ⟨pairwise_candidates rules tag, fun id ↦ ?_⟩
  rw [mem_candidates]
  simp only [List.head?_eq_some_iff]
  constructor
  · rintro ⟨rule, hrule, first, ⟨rest, hpattern⟩, haccepts⟩
    exact ⟨rule, hrule, first, rest, hpattern, haccepts⟩
  · rintro ⟨rule, hrule, first, rest, hpattern, haccepts⟩
    exact ⟨rule, hrule, first, ⟨rest, hpattern⟩, haccepts⟩

example :
    (ofRules [⟨"noun", [.exactly ⟨0⟩], ⟨0⟩, []⟩, ⟨"any", [.any, .any], ⟨0⟩, []⟩,
      ⟨"listed", [.oneOf [⟨0⟩, ⟨1⟩, ⟨0⟩]], ⟨0⟩, []⟩]).candidates ⟨0⟩ = [0, 1, 2] := by
  decide

end ProductionIndex

end Morphology
