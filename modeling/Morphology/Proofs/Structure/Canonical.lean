import Mathlib.Data.List.Sort
import Morphology.Structure.Trait

/-!
# Canonical structures

Structures are only made by the operations on structures, and these leave the attributes in
increasing order at every level. Such structures are called canonical here. There are no others
that the operations cannot make, so that what can be made is exactly what is canonical.
-/

namespace Morphology

namespace Structure

/-- The attributes of a structure increase, so that none of them is repeated. -/
def Increasing (s : Structure) : Prop := s.Pairwise fun p q ↦ p.1 < q.1

theorem increasing_cons {p : Symbol × Value} {rest : Structure} :
    Increasing (p :: rest) ↔ (∀ q ∈ rest, p.1 < q.1) ∧ rest.Increasing :=
  List.pairwise_cons

theorem get?_of_mem {attr : Symbol} {v : Value} :
    ∀ {s : Structure}, s.Increasing → (attr, v) ∈ s → s.get? attr = some v
  | (a, u) :: rest, hs, h => by
    obtain ⟨hleast, hrest⟩ := increasing_cons.mp hs
    rw [get?]
    rcases List.mem_cons.mp h with heq | h
    · obtain ⟨rfl, rfl⟩ := Prod.mk.inj heq
      rw [if_neg (Symbol.lt_irrefl _), if_pos rfl]
    · rw [if_pos (hleast _ h)]
      exact get?_of_mem hrest h

/-- Structures with increasing attributes are equal if they have the same pairs. -/
theorem Increasing.eq_of_subset {s t : Structure} (hs : s.Increasing) (ht : t.Increasing)
    (hst : s ⊆ t) (hts : t ⊆ s) : s = t := by
  have : Std.Irrefl fun p q : Symbol × Value ↦ p.1 < q.1 := ⟨fun p ↦ Symbol.lt_irrefl p.1⟩
  have : Std.Antisymm fun p q : Symbol × Value ↦ p.1 < q.1 :=
    ⟨fun p q hpq hqp ↦ absurd (Symbol.lt_trans hpq hqp) (Symbol.lt_irrefl p.1)⟩
  exact List.Subset.antisymm_of_pairwise hs ht hst hts

theorem increasing_insertWith {merge : Value → Option Value} {attr : Symbol} {value : Value} :
    ∀ {s t : Structure}, s.Increasing → insertWith merge attr value s = some t → t.Increasing
  | [], t, _, h => by
    obtain rfl := Option.some.inj h
    exact List.pairwise_singleton _ _
  | (a, v) :: rest, t, hs, h => by
    obtain ⟨hleast, hrest⟩ := increasing_cons.mp hs
    rw [insertWith] at h
    split at h
    next hbefore =>
      obtain ⟨u, hfound, rfl⟩ := Option.map_eq_some_iff.mp h
      refine increasing_cons.mpr ⟨?_, increasing_insertWith hrest hfound⟩
      exact insertWith_pairs (P := fun p ↦ a < p.1) hbefore (fun _ _ h _ ↦ h) hleast hfound
    next hbefore =>
      split at h
      next =>
        obtain ⟨u, -, rfl⟩ := Option.map_eq_some_iff.mp h
        exact increasing_cons.mpr ⟨hleast, hrest⟩
      next hother =>
        obtain rfl := Option.some.inj h
        have hfirst : attr < a := Symbol.lt_of_not_lt hbefore hother
        exact increasing_cons.mpr ⟨List.forall_mem_cons.mpr
          ⟨hfirst, fun q hq ↦ Symbol.lt_trans hfirst (hleast q hq)⟩, hs⟩

end Structure

/-- The attributes of a value increase at every level. -/
inductive Value.Canonical : Value → Prop
  | atom (symbol : Symbol) : Canonical (.atom symbol)
  | text (content : String) : Canonical (.text content)
  | list {items : List Value} (items_canonical : ∀ v ∈ items, Canonical v) : Canonical (.list items)
  | nested {s : Structure} (increasing : s.Increasing) (values_canonical : ∀ p ∈ s, Canonical p.2) :
      Canonical (.nested s)

/-- The attributes of a structure and of its values increase at every level. -/
structure Structure.Canonical (s : Structure) : Prop where
  increasing : s.Increasing
  values : ∀ p ∈ s, p.2.Canonical

theorem Value.canonical_list {items : List Value} :
    (Value.list items).Canonical ↔ ∀ v ∈ items, v.Canonical :=
  ⟨fun (.list h) ↦ h, .list⟩

theorem Value.canonical_nested {s : Structure} : (Value.nested s).Canonical ↔ s.Canonical :=
  ⟨fun (.nested h hvalues) ↦ ⟨h, hvalues⟩, fun h ↦ .nested h.increasing h.values⟩

/-- Being canonical. -/
def Trait.canonical : Trait where
  value v := v.Canonical
  attr _ := True
  length _ := True
  layout s := s.Increasing
  list_iff := by simp [Value.canonical_list]
  nested_iff := Value.canonical_nested.trans ⟨fun h ↦ ⟨h.increasing, h.values⟩, fun h ↦ ⟨h.1, h.2⟩⟩
  layout_empty := List.Pairwise.nil
  attr_of_mem _ _ _ := trivial
  layout_insertWith _ := Structure.increasing_insertWith

theorem Value.Canonical.unify {v w u : Value} (hv : v.Canonical) (hw : w.Canonical)
    (h : v.unify w = some u) : u.Canonical :=
  @Trait.unify_value .canonical v u hv w hw h

namespace Structure

theorem canonical_iff_features {s : Structure} : s.Canonical ↔ Trait.canonical.features s :=
  Value.canonical_nested.symm

theorem Canonical.cons_iff {p : Symbol × Value} {rest : Structure} :
    Canonical (p :: rest) ↔ (∀ q ∈ rest, p.1 < q.1) ∧ p.2.Canonical ∧ rest.Canonical := by
  constructor
  · intro ⟨hincreasing, hvalues⟩
    obtain ⟨hleast, hrest⟩ := increasing_cons.mp hincreasing
    rw [List.forall_mem_cons] at hvalues
    exact ⟨hleast, hvalues.1, hrest, hvalues.2⟩
  · intro ⟨hleast, hvalue, hrest⟩
    exact ⟨increasing_cons.mpr ⟨hleast, hrest.increasing⟩,
      List.forall_mem_cons.mpr ⟨hvalue, hrest.values⟩⟩

theorem Canonical.unify {a b c : Structure} (ha : a.Canonical) (hb : b.Canonical)
    (h : a.unify b = some c) : c.Canonical := by
  rw [canonical_iff_features] at ha hb ⊢
  exact Trait.unify ha hb h

theorem Canonical.get? {s : Structure} {attr : Symbol} {v : Value} (hs : s.Canonical)
    (h : s.get? attr = some v) : v.Canonical :=
  hs.values _ (mem_of_get? h)

theorem canonical_empty : empty.Canonical := ⟨List.Pairwise.nil, by simp [empty]⟩

theorem canonical_single {attr : Symbol} {v : Value} (hv : v.Canonical) :
    (single attr v).Canonical :=
  ⟨List.pairwise_singleton _ _, by simpa [single] using hv⟩

/-! ## Structures from pairs in any order -/

/-- The attributes of some pairs do not decrease. -/
def Sorted (pairs : List (Symbol × Value)) : Prop := pairs.Pairwise fun p q ↦ p.1 ≤ q.1

theorem mem_insertSorted {p q : Symbol × Value} {pairs : List (Symbol × Value)} :
    q ∈ insertSorted p pairs ↔ q = p ∨ q ∈ pairs := by
  induction pairs with
  | nil => simp [insertSorted]
  | cons r rest ih =>
    rw [insertSorted]
    split
    · simp [ih, or_left_comm]
    · simp

theorem mem_sortPairs {q : Symbol × Value} {pairs : List (Symbol × Value)} :
    q ∈ sortPairs pairs ↔ q ∈ pairs := by
  induction pairs with
  | nil => simp [sortPairs]
  | cons p rest ih =>
    rw [sortPairs] at ih ⊢
    rw [List.foldr_cons, mem_insertSorted, ih, List.mem_cons]

theorem sorted_insertSorted {p : Symbol × Value} {pairs : List (Symbol × Value)}
    (h : Sorted pairs) : Sorted (insertSorted p pairs) := by
  induction pairs with
  | nil => exact List.pairwise_singleton _ _
  | cons r rest ih =>
    obtain ⟨hleast, hrest⟩ := List.pairwise_cons.mp h
    rw [insertSorted]
    split
    next hbefore =>
      refine List.pairwise_cons.mpr ⟨fun q hq ↦ ?_, ih hrest⟩
      rcases mem_insertSorted.mp hq with rfl | hq
      · exact Symbol.le_iff.mpr (Nat.le_of_lt (Symbol.lt_iff.mp hbefore))
      · exact hleast q hq
    next hafter =>
      have hfirst : p.1 ≤ r.1 :=
        Symbol.le_iff.mpr (Nat.le_of_not_lt fun hlt ↦ hafter (Symbol.lt_iff.mpr hlt))
      refine List.pairwise_cons.mpr ⟨List.forall_mem_cons.mpr ⟨hfirst, fun q hq ↦ ?_⟩, h⟩
      exact Symbol.le_iff.mpr
        (Nat.le_trans (Symbol.le_iff.mp hfirst) (Symbol.le_iff.mp (hleast q hq)))

theorem sorted_sortPairs (pairs : List (Symbol × Value)) : Sorted (sortPairs pairs) := by
  induction pairs with
  | nil => exact List.Pairwise.nil
  | cons p rest ih => exact sorted_insertSorted ih

/-- Neighbours with the same attribute become one pair, so that the attributes increase. -/
theorem canonical_go {attr : Symbol} {v : Value} {pairs : List (Symbol × Value)} {s : Structure}
    (hpairs : Sorted ((attr, v) :: pairs)) (hv : v.Canonical) (hvalues : ∀ p ∈ pairs, p.2.Canonical)
    (h : mergeRuns.go attr v pairs = some s) : s.Canonical ∧ ∀ p ∈ s, attr ≤ p.1 := by
  induction pairs generalizing attr v s with
  | nil =>
    obtain rfl := Option.some.inj h
    exact ⟨⟨List.pairwise_singleton _ _, by simpa using hv⟩, by simp [Symbol.le_iff]⟩
  | cons p rest ih =>
    obtain ⟨a, w⟩ := p
    obtain ⟨hleast, hsorted⟩ := List.pairwise_cons.mp hpairs
    rw [List.forall_mem_cons] at hvalues hleast
    rw [mergeRuns.go] at h
    split at h
    next hsame =>
      subst hsame
      obtain ⟨u, hu, hrest⟩ := Option.bind_eq_some_iff.mp h
      refine ih ?_ (hv.unify hvalues.1 hu) hvalues.2 hrest
      exact List.pairwise_cons.mpr ⟨hleast.2, (List.pairwise_cons.mp hsorted).2⟩
    next hother =>
      obtain ⟨t, ht, rfl⟩ := Option.map_eq_some_iff.mp h
      obtain ⟨hcanonical, hlater⟩ := ih hsorted hvalues.1 hvalues.2 ht
      have hfirst : attr.index < a.index :=
        Nat.lt_of_le_of_ne (Symbol.le_iff.mp hleast.1)
          fun heq ↦ hother (Symbol.index_inj.mp heq.symm)
      have hbefore (q : Symbol × Value) (hq : q ∈ t) : attr.index < q.1.index :=
        Nat.lt_of_lt_of_le hfirst (Symbol.le_iff.mp (hlater q hq))
      refine ⟨Canonical.cons_iff.mpr ⟨fun q hq ↦ Symbol.lt_iff.mpr (hbefore q hq), hv, hcanonical⟩,
        List.forall_mem_cons.mpr ⟨Symbol.le_iff.mpr (Nat.le_refl _), fun q hq ↦ ?_⟩⟩
      exact Symbol.le_iff.mpr (Nat.le_of_lt (hbefore q hq))

theorem canonical_of_ofPairs? {pairs : List (Symbol × Value)} {s : Structure}
    (hvalues : ∀ p ∈ pairs, p.2.Canonical) (h : ofPairs? pairs = some s) : s.Canonical := by
  have hsorted := sorted_sortPairs pairs
  have hvalues : ∀ p ∈ sortPairs pairs, p.2.Canonical :=
    fun p hp ↦ hvalues p (mem_sortPairs.mp hp)
  unfold ofPairs? at h
  generalize sortPairs pairs = sorted at *
  cases sorted with
  | nil =>
    obtain rfl := Option.some.inj h
    exact ⟨List.Pairwise.nil, by simp⟩
  | cons p rest =>
    rw [List.forall_mem_cons] at hvalues
    exact (canonical_go hsorted hvalues.1 hvalues.2 h).1

theorem go_of_increasing {attr : Symbol} {v : Value} {rest : Structure}
    (h : Increasing ((attr, v) :: rest)) : mergeRuns.go attr v rest = some ((attr, v) :: rest) := by
  induction rest generalizing attr v with
  | nil => rfl
  | cons p rest ih =>
    obtain ⟨hleast, hrest⟩ := increasing_cons.mp h
    have hother : p.1 ≠ attr := fun heq ↦
      Symbol.lt_irrefl attr (heq ▸ hleast p List.mem_cons_self)
    rw [mergeRuns.go, if_neg hother, ih hrest, Option.map_some]

theorem sortPairs_of_increasing {s : Structure} (h : s.Increasing) : sortPairs s = s := by
  induction s with
  | nil => rfl
  | cons p rest ih =>
    obtain ⟨hleast, hrest⟩ := increasing_cons.mp h
    have htail : List.foldr insertSorted [] rest = rest := ih hrest
    rw [sortPairs, List.foldr_cons, htail]
    cases rest with
    | nil => rfl
    | cons q rest =>
      have hfirst := hleast q List.mem_cons_self
      rw [insertSorted, if_neg fun hlt ↦ Symbol.lt_irrefl _ (Symbol.lt_trans hfirst hlt)]

/-- The pairs of a structure make that structure again. -/
theorem ofPairs?_of_increasing {s : Structure} (h : s.Increasing) : ofPairs? s = some s := by
  rw [ofPairs?, sortPairs_of_increasing h]
  cases s with
  | nil => rfl
  | cons p rest => exact go_of_increasing h

end Structure

/-! ## What the operations make -/

mutual

/-- The structures that come out of the operations on structures. -/
inductive Structure.Obtainable : Structure → Prop
  | empty : Structure.Obtainable .empty
  | single (attr : Symbol) {v : Value} (hv : v.Obtainable) : Structure.Obtainable (.single attr v)
  | ofPairs {pairs : List (Symbol × Value)} {s : Structure} (hpairs : ∀ p ∈ pairs, p.2.Obtainable)
      (h : Structure.ofPairs? pairs = some s) : Structure.Obtainable s
  | add {s t : Structure} {attr : Symbol} {v : Value} (hs : s.Obtainable) (hv : v.Obtainable)
      (h : s.add? attr v = some t) : Structure.Obtainable t
  | unify {a b c : Structure} (ha : a.Obtainable) (hb : b.Obtainable)
      (h : a.unify b = some c) : Structure.Obtainable c
  | content {s : Structure} (h : Value.Obtainable (.nested s)) : Structure.Obtainable s

/-- The values that come out of the operations on structures and values. -/
inductive Value.Obtainable : Value → Prop
  | atom (symbol : Symbol) : Value.Obtainable (.atom symbol)
  | text (content : String) : Value.Obtainable (.text content)
  | list {items : List Value} (h : ∀ v ∈ items, v.Obtainable) : Value.Obtainable (.list items)
  | nested {s : Structure} (hs : s.Obtainable) : Value.Obtainable (.nested s)
  | unify {v w u : Value} (hv : v.Obtainable) (hw : w.Obtainable) (h : v.unify w = some u) :
      Value.Obtainable u
  | get {s : Structure} {attr : Symbol} {v : Value} (hs : s.Obtainable)
      (h : s.get? attr = some v) : Value.Obtainable v
  | item {items : List Value} {v : Value} (h : Value.Obtainable (.list items)) (hv : v ∈ items) :
      Value.Obtainable v

end

mutual

theorem Structure.Obtainable.canonical : ∀ {s : Structure}, s.Obtainable → s.Canonical
  | _, .empty => ⟨List.Pairwise.nil, by simp [Structure.empty]⟩
  | _, .single attr hv =>
    ⟨List.pairwise_singleton _ _, by simpa [Structure.single] using hv.canonical⟩
  | _, .ofPairs hpairs h => Structure.canonical_of_ofPairs? (fun p hp ↦ (hpairs p hp).canonical) h
  | _, .add hs hv h => Structure.canonical_iff_features.mpr
      (Trait.add? (Structure.canonical_iff_features.mp hs.canonical) trivial hv.canonical h)
  | _, .unify ha hb h => ha.canonical.unify hb.canonical h
  | _, .content h => Value.canonical_nested.mp h.canonical

theorem Value.Obtainable.canonical : ∀ {v : Value}, v.Obtainable → v.Canonical
  | _, .atom symbol => .atom symbol
  | _, .text content => .text content
  | _, .list h => .list fun v hv ↦ (h v hv).canonical
  | _, .nested hs => Value.canonical_nested.mpr hs.canonical
  | _, .unify hv hw h => hv.canonical.unify hw.canonical h
  | _, .get hs h => hs.canonical.get? h
  | _, .item h hv => Value.canonical_list.mp h.canonical _ hv

end

/-- What can be made are the canonical values. -/
theorem Value.obtainable_iff_canonical {v : Value} : v.Obtainable ↔ v.Canonical := by
  refine ⟨Value.Obtainable.canonical, fun h ↦ ?_⟩
  induction h with
  | atom symbol => exact .atom symbol
  | text content => exact .text content
  | list _ ih => exact .list ih
  | nested hincreasing _ ih =>
    exact .nested (.ofPairs ih (Structure.ofPairs?_of_increasing hincreasing))

/-- What can be made are the canonical structures. -/
theorem Structure.obtainable_iff_canonical {s : Structure} : s.Obtainable ↔ s.Canonical :=
  ⟨Structure.Obtainable.canonical, fun h ↦
    .content (Value.obtainable_iff_canonical.mpr (Value.canonical_nested.mpr h))⟩

end Morphology
