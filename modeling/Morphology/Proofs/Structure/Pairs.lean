import Morphology.Proofs.Structure.Joins

/-!
# Structures from pairs

A structure can be made of pairs all at once, by sorting them and unifying the values of neighbours,
or of one pair after the other. Both ways find the least structure above all pairs, so that neither
their order nor their repetition matters. Its attributes are those of the pairs, each with what its
values unify to.
-/

namespace Morphology

/-- What some values unify to, one after the other; nothing, where there are none. -/
def Value.unifyAll : List Value → Option Value
  | [] => none
  | v :: rest => rest.foldlM Value.unify v

namespace Structure

/-- The values that some pairs give to an attribute, in their order. -/
def valuesOf (attr : Symbol) (pairs : List (Symbol × Value)) : List Value :=
  (pairs.filter (·.1 = attr)).map (·.2)

/-- Adds pairs to a structure one after the other, until one of them contradicts it. -/
def addAll (s : Structure) (pairs : List (Symbol × Value)) : Option Structure :=
  pairs.foldlM (fun s p ↦ s.add? p.1 p.2) s

variable {attr : Symbol} {v : Value} {s t x : Structure} {pairs : List (Symbol × Value)}

/-! ## Bounds -/

theorem single_below_iff : (single attr v).Below x ↔ ∃ y, x.get? attr = some y ∧ v.Below y := by
  rw [single, below_cons, and_iff_left (below_nil x)]

/-- A value of two is above an attribute just if both of them are. -/
theorem single_unify_below_iff {w : Value} :
    (∃ u, v.unify w = some u ∧ (single attr u).Below x) ↔
      (single attr v).Below x ∧ (single attr w).Below x := by
  simp only [single_below_iff]
  constructor
  · rintro ⟨u, hu, y, hy, hbelow⟩
    obtain ⟨hv, hw⟩ := Value.unify_below_iff.mp ⟨u, hu, hbelow⟩
    exact ⟨⟨y, hy, hv⟩, y, hy, hw⟩
  · rintro ⟨⟨y, hy, hv⟩, z, hz, hw⟩
    obtain rfl := Option.some.inj (hy.symm.trans hz)
    obtain ⟨u, hu, hbelow⟩ := Value.unify_below_iff.mpr ⟨hv, hw⟩
    exact ⟨u, hu, y, hy, hbelow⟩

/-- What is above the merged pairs is above each of them, whether they are sorted or not. -/
theorem go_below_iff : (∃ s, mergeRuns.go attr v pairs = some s ∧ s.Below x) ↔
    (single attr v).Below x ∧ ∀ p ∈ pairs, (single p.1 p.2).Below x := by
  induction pairs generalizing attr v with
  | nil => simp [mergeRuns.go, single]
  | cons p rest ih =>
    obtain ⟨a, w⟩ := p
    rw [mergeRuns.go, List.forall_mem_cons]
    split
    next hsame =>
      subst hsame
      rw [exists_of_bind_iff, ← and_assoc, ← single_unify_below_iff]
      simp only [ih, ← and_assoc, exists_and_right]
    next hother =>
      rw [← ih]
      constructor
      · rintro ⟨s, hs, hbelow⟩
        obtain ⟨t, ht, rfl⟩ := Option.map_eq_some_iff.mp hs
        obtain ⟨hfirst, hlater⟩ := below_cons.mp hbelow
        exact ⟨single_below_iff.mpr hfirst, t, ht, hlater⟩
      · rintro ⟨hfirst, t, ht, hlater⟩
        exact ⟨(attr, v) :: t, by rw [ht, Option.map_some],
          below_cons.mpr ⟨single_below_iff.mp hfirst, hlater⟩⟩

/-- What is above the structure of some pairs is what is above each of them. -/
theorem ofPairs?_below_iff : (∃ s, ofPairs? pairs = some s ∧ s.Below x) ↔
    ∀ p ∈ pairs, (single p.1 p.2).Below x := by
  have hsorted : (∀ p ∈ sortPairs pairs, (single p.1 p.2).Below x) ↔
      ∀ p ∈ pairs, (single p.1 p.2).Below x := by
    simp only [mem_sortPairs]
  rw [ofPairs?, ← hsorted]
  cases sortPairs pairs with
  | nil => simp [mergeRuns, below_nil]
  | cons p rest =>
    rw [mergeRuns, go_below_iff, List.forall_mem_cons]

theorem addAll_eq_foldlM : s.addAll pairs = (pairs.map fun p ↦ single p.1 p.2).foldlM unify s := by
  rw [addAll, List.foldlM_map]
  rfl

/-- Making a structure of all pairs at once is adding them one by one. -/
theorem ofPairs?_eq_addAll (hvalues : ∀ p ∈ pairs, p.2.Canonical) :
    ofPairs? pairs = empty.addAll pairs := by
  have hsingles : ∀ s ∈ pairs.map fun p ↦ single p.1 p.2, s.Canonical := by
    intro s hs
    obtain ⟨p, hp, rfl⟩ := List.mem_map.mp hs
    exact canonical_single (hvalues p hp)
  rw [addAll_eq_foldlM]
  refine eq_of_same_bounds findsJoins_unify.below_refl findsJoins_unify.below_antisymm
    (fun s ↦ canonical_of_ofPairs? hvalues)
    (fun s ↦ findsJoins_unify.holds_foldlM canonical_empty hsingles) fun x ↦ ?_
  rw [ofPairs?_below_iff, findsJoins_unify.foldlM_below_iff canonical_empty hsingles,
    and_iff_right (show empty.Below x from below_nil x), List.forall_mem_map]

/-- The structure of some pairs is told by which pairs there are. -/
theorem ofPairs?_congr {others : List (Symbol × Value)} (hvalues : ∀ p ∈ pairs, p.2.Canonical)
    (hsame : ∀ p, p ∈ others ↔ p ∈ pairs) : ofPairs? others = ofPairs? pairs := by
  refine eq_of_same_bounds findsJoins_unify.below_refl findsJoins_unify.below_antisymm
    (fun s ↦ canonical_of_ofPairs? fun p hp ↦ hvalues p ((hsame p).mp hp))
    (fun s ↦ canonical_of_ofPairs? hvalues) fun x ↦ ?_
  simp only [ofPairs?_below_iff, hsame]

/-! ## Values -/

/-- An attribute that is given a value has it, or what is made of its old value. -/
theorem get?_insertWith_self {merge : Value → Option Value} :
    ∀ {s t : Structure}, insertWith merge attr v s = some t → ∃ u, t.get? attr = some u ∧
      (match s.get? attr with
        | none => some v
        | some w => merge w) = some u
  | [], t, h => by
    obtain rfl := Option.some.inj h
    exact ⟨v, by simp [get?, Symbol.lt_irrefl], rfl⟩
  | (a, w) :: rest, t, h => by
    rw [insertWith] at h
    rw [get?]
    split at h
    next hbefore =>
      obtain ⟨u, hu, rfl⟩ := Option.map_eq_some_iff.mp h
      rw [get?, if_pos hbefore, if_pos hbefore]
      exact get?_insertWith_self hu
    next hbefore =>
      rw [if_neg hbefore]
      split at h
      next hsame =>
        subst hsame
        obtain ⟨u, hu, rfl⟩ := Option.map_eq_some_iff.mp h
        exact ⟨u, by simp [get?, Symbol.lt_irrefl], by simpa using hu⟩
      next hother =>
        obtain rfl := Option.some.inj h
        exact ⟨v, by simp [get?, Symbol.lt_irrefl], by simp [hother]⟩

theorem get?_insertWith_of_ne {merge : Value → Option Value} {other : Symbol} (hne : other ≠ attr) :
    ∀ {s t : Structure}, insertWith merge attr v s = some t → t.get? other = s.get? other
  | [], t, h => by
    obtain rfl := Option.some.inj h
    simp [get?, hne.symm]
  | (a, w) :: rest, t, h => by
    rw [insertWith] at h
    split at h
    next hbefore =>
      obtain ⟨u, hu, rfl⟩ := Option.map_eq_some_iff.mp h
      rw [get?, get?, get?_insertWith_of_ne hne hu]
    next hbefore =>
      split at h
      next hsame =>
        subst hsame
        obtain ⟨u, hu, rfl⟩ := Option.map_eq_some_iff.mp h
        simp [get?, hne.symm]
      next hother =>
        obtain rfl := Option.some.inj h
        rw [get?, if_neg (c := attr = other) hne.symm]
        split
        next => rfl
        next hafter =>
          -- The search stops at the new pair, and would have stopped at the old one.
          have hfirst : other < a := Symbol.lt_trans (Symbol.lt_of_not_lt hafter hne.symm)
            (Symbol.lt_of_not_lt hbefore hother)
          have hstop : ¬a < other := fun hlt ↦ Symbol.lt_irrefl _ (Symbol.lt_trans hlt hfirst)
          have hmiss : a ≠ other := fun heq ↦ Symbol.lt_irrefl _ (heq ▸ hfirst)
          rw [get?, if_neg hstop, if_neg hmiss]

/-- Adding pairs gives each attribute what its old value, if any, and its new ones unify to. -/
theorem get?_addAll (h : s.addAll pairs = some t) (attr : Symbol) :
    t.get? attr = Value.unifyAll ((s.get? attr).toList ++ valuesOf attr pairs) := by
  induction pairs generalizing s with
  | nil =>
    obtain rfl := Option.some.inj h
    cases s.get? attr <;> rfl
  | cons p rest ih =>
    obtain ⟨a, v⟩ := p
    obtain ⟨next, hnext, h⟩ := Option.bind_eq_some_iff.mp h
    have hinsert : insertWith (·.unify v) a v s = some next := by
      simpa [add?, single, unify] using hnext
    rw [ih h]
    by_cases hsame : a = attr
    · subst hsame
      obtain ⟨u, hu, hmerge⟩ := get?_insertWith_self hinsert
      have hvalues : valuesOf a ((a, v) :: rest) = v :: valuesOf a rest := by simp [valuesOf]
      rw [hu, hvalues]
      cases hold : s.get? a with
      | none =>
        rw [hold] at hmerge
        obtain rfl := Option.some.inj hmerge
        rfl
      | some w =>
        rw [hold] at hmerge
        have hmerge : w.unify v = some u := hmerge
        simp [Value.unifyAll, hmerge]
    · have hvalues : valuesOf attr ((a, v) :: rest) = valuesOf attr rest := by
        simp [valuesOf, hsame]
      rw [get?_insertWith_of_ne (Ne.symm hsame) hinsert, hvalues]

/-- A structure of pairs has the attributes that are listed. -/
theorem get?_ofPairs?_eq_none_iff (hvalues : ∀ p ∈ pairs, p.2.Canonical)
    (h : ofPairs? pairs = some s) (attr : Symbol) :
    s.get? attr = none ↔ attr ∉ pairs.map (·.1) := by
  constructor
  · intro hnone hlisted
    obtain ⟨p, hp, rfl⟩ := List.mem_map.mp hlisted
    have hs := (canonical_of_ofPairs? hvalues h).below_refl
    obtain ⟨y, hy, -⟩ := single_below_iff.mp (ofPairs?_below_iff.mp ⟨s, h, hs⟩ p hp)
    exact absurd (hnone.symm.trans hy) nofun
  · intro hmissing
    have hempty : valuesOf attr pairs = [] := by
      rw [valuesOf, List.map_eq_nil_iff, List.filter_eq_nil_iff]
      intro p hp
      simpa using fun heq ↦ hmissing (List.mem_map.mpr ⟨p, hp, heq⟩)
    rw [ofPairs?_eq_addAll hvalues] at h
    rw [get?_addAll h attr, hempty]
    rfl

end Structure

/-- A structure of pairs does not depend on their order: it is what adding them one by one makes,
failures included. Each of its attributes has what all values listed for it unify to, and it has no
attributes that are not listed. -/
theorem pairs_make_join {pairs : List (Symbol × Value)} (hvalues : ∀ p ∈ pairs, p.2.Obtainable) :
    (∀ others, others.Perm pairs → Structure.ofPairs? others = Structure.ofPairs? pairs) ∧
      Structure.ofPairs? pairs = Structure.empty.addAll pairs ∧
      ∀ s, Structure.ofPairs? pairs = some s → ∀ attr,
        s.get? attr = Value.unifyAll (Structure.valuesOf attr pairs) ∧
          (s.get? attr = none ↔ attr ∉ pairs.map (·.1)) := by
  have hcanonical : ∀ p ∈ pairs, p.2.Canonical := fun p hp ↦ (hvalues p hp).canonical
  have hadd := Structure.ofPairs?_eq_addAll hcanonical
  refine ⟨fun others hperm ↦ Structure.ofPairs?_congr hcanonical fun p ↦ hperm.mem_iff, hadd, ?_⟩
  intro s hs attr
  exact ⟨Structure.get?_addAll (hadd ▸ hs) attr,
    Structure.get?_ofPairs?_eq_none_iff hcanonical hs attr⟩

/-- The agreement of a noun, given in two parts with its class between them. -/
def nounInParts : List (Symbol × Value) :=
  [(⟨1⟩, .nested [(⟨3⟩, .atom ⟨13⟩)]), (⟨0⟩, .atom ⟨10⟩), (⟨1⟩, .nested [(⟨2⟩, .atom ⟨11⟩)])]

/-- The parts make the same noun in any order, and its agreement has both of them. -/
theorem pairs_make_join_noun :
    Structure.ofPairs? nounInParts.reverse = Structure.ofPairs? nounInParts ∧
      ∃ s, Structure.ofPairs? nounInParts = some s ∧
        s.get? ⟨1⟩ = some (.nested [(⟨2⟩, .atom ⟨11⟩), (⟨3⟩, .atom ⟨13⟩)]) ∧
        s.get? ⟨2⟩ = none := by
  have hvalues : ∀ p ∈ nounInParts, p.2.Obtainable := by
    have hnumber : Value.Obtainable (.nested [(⟨3⟩, .atom ⟨13⟩)]) := .nested (.single _ (.atom _))
    have hcase : Value.Obtainable (.nested [(⟨2⟩, .atom ⟨11⟩)]) := .nested (.single _ (.atom _))
    simpa [nounInParts] using ⟨hnumber, .atom _, hcase⟩
  obtain ⟨horder, -, hget⟩ := pairs_make_join hvalues
  refine ⟨horder _ (List.reverse_perm _), _, rfl, ?_, ?_⟩
  · exact (hget _ rfl ⟨1⟩).1
  · exact (hget _ rfl ⟨2⟩).2.mpr (by decide)

end Morphology
