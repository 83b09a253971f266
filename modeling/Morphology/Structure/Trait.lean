import Morphology.Structure.Unification

/-!
# Traits of values

A trait is a property that a list or a structure has when its parts have it and it is laid out in a
certain way. Unification takes whatever it makes from its operands, so that it passes every trait
on.
-/

namespace Morphology

/-- A property of values that comes from properties of their parts. -/
structure Trait where
  /-- Which values have the trait. -/
  value : Value → Prop
  /-- Which attributes structures with the trait have. -/
  attr : Symbol → Prop
  /-- How long lists with the trait are. -/
  length : Nat → Prop
  /-- How the attributes of a structure with the trait stand. -/
  layout : Structure → Prop
  list_iff {items : List Value} :
    value (.list items) ↔ length items.length ∧ ∀ v ∈ items, value v
  nested_iff {s : Structure} : value (.nested s) ↔ layout s ∧ ∀ p ∈ s, value p.2
  layout_empty : layout .empty
  attr_of_mem {s : Structure} : layout s → ∀ p ∈ s, attr p.1
  layout_insertWith {merge : Value → Option Value} {a : Symbol} {v : Value} {s t : Structure} :
    attr a → layout s → Structure.insertWith merge a v s = some t → layout t

namespace Structure

/-- A property of the new pair that merging keeps spreads from the pairs of a structure. -/
theorem insertWith_pairs {merge : Value → Option Value} {attr : Symbol} {value : Value}
    {P : Symbol × Value → Prop} (hadded : P (attr, value))
    (hmerged : ∀ v u, P (attr, v) → merge v = some u → P (attr, u)) :
    ∀ {s t : Structure}, (∀ p ∈ s, P p) → insertWith merge attr value s = some t → ∀ p ∈ t, P p
  | [], t, _, h => by
    obtain rfl := Option.some.inj h
    simpa using hadded
  | (a, v) :: rest, t, hall, h => by
    have hhead : P (a, v) := hall (a, v) (by simp)
    have htail : ∀ p ∈ rest, P p := fun p hp ↦ hall p (by simp [hp])
    rw [insertWith] at h
    split at h
    · obtain ⟨u, hfound, rfl⟩ := Option.map_eq_some_iff.mp h
      exact List.forall_mem_cons.mpr ⟨hhead, insertWith_pairs hadded hmerged htail hfound⟩
    · split at h
      next hsame =>
        subst hsame
        obtain ⟨u, hfound, rfl⟩ := Option.map_eq_some_iff.mp h
        exact List.forall_mem_cons.mpr ⟨hmerged v u hhead hfound, htail⟩
      · obtain rfl := Option.some.inj h
        exact List.forall_mem_cons.mpr ⟨hadded, hall⟩

theorem mem_of_get? {attr : Symbol} {value : Value} :
    ∀ {s : Structure}, s.get? attr = some value → (attr, value) ∈ s
  | [], h => nomatch h
  | (a, v) :: rest, h => by
    rw [get?] at h
    split at h
    · exact List.mem_cons_of_mem _ (mem_of_get? h)
    · split at h
      next hsame =>
        obtain rfl := Option.some.inj h
        exact hsame ▸ List.mem_cons_self
      · contradiction

end Structure

namespace Trait

/-- Whether a structure, as a value, has the trait. -/
def features (trait : Trait) (s : Structure) : Prop := trait.value (.nested s)

variable {trait : Trait}

theorem features_iff {s : Structure} :
    trait.features s ↔ trait.layout s ∧ ∀ p ∈ s, trait.value p.2 := trait.nested_iff

theorem empty : trait.features .empty :=
  features_iff.mpr ⟨trait.layout_empty, by simp [Structure.empty]⟩

theorem single {attr : Symbol} {value : Value} (hattr : trait.attr attr)
    (hvalue : trait.value value) : trait.features (.single attr value) := by
  have hone : Structure.insertWith some attr value .empty = some (.single attr value) := rfl
  exact features_iff.mpr ⟨trait.layout_insertWith hattr trait.layout_empty hone,
    by simpa [Structure.single] using hvalue⟩

theorem get? {s : Structure} {attr : Symbol} {value : Value} (hs : trait.features s)
    (h : s.get? attr = some value) : trait.value value :=
  (features_iff.mp hs).2 _ (Structure.mem_of_get? h)

mutual

/-- Unifying values passes a trait on. -/
theorem unify_value {v u : Value} (hv : trait.value v) :
    ∀ {w : Value}, trait.value w → v.unify w = some u → trait.value u
  | .atom symbol, hw, h => (Value.unify_atom_eq_some_iff.mp h).2 ▸ hw
  | .text content, hw, h => (Value.unify_text_eq_some_iff.mp h).2 ▸ hw
  | .list ws, hw, h => by
    obtain ⟨vs, us, rfl, rfl, hus⟩ := Value.unify_list_eq_some_iff.mp h
    rw [trait.list_iff] at hv hw ⊢
    obtain ⟨hlength, hitems⟩ := unify_items hv.2 hw.2 hus
    exact ⟨hlength ▸ hv.1, hitems⟩
  | .nested b, hw, h => by
    obtain ⟨a, c, rfl, rfl, hc⟩ := Value.unify_nested_eq_some_iff.mp h
    rw [trait.nested_iff] at hv hw ⊢
    exact unify_pairs hv hw.2 (trait.attr_of_mem hw.1) hc

theorem unify_items {vs us : List Value} (hv : ∀ v ∈ vs, trait.value v) :
    ∀ {ws : List Value}, (∀ w ∈ ws, trait.value w) → Value.unifyItems vs ws = some us →
      us.length = vs.length ∧ ∀ u ∈ us, trait.value u
  | [], _, h => by
    obtain ⟨rfl, rfl⟩ := Value.unifyItems_nil_eq_some_iff.mp h
    exact ⟨rfl, hv⟩
  | w :: ws, hw, h => by
    obtain ⟨v, rest, u, later, rfl, rfl, hu, hlater⟩ := Value.unifyItems_cons_eq_some_iff.mp h
    rw [List.forall_mem_cons] at hv hw ⊢
    obtain ⟨hlength, hitems⟩ := unify_items hv.2 hw.2 hlater
    exact ⟨congrArg (· + 1) hlength, unify_value hv.1 hw.1 hu, hitems⟩

theorem unify_pairs {a c : Structure} (ha : trait.layout a ∧ ∀ p ∈ a, trait.value p.2) :
    ∀ {b : Structure}, (∀ p ∈ b, trait.value p.2) → (∀ p ∈ b, trait.attr p.1) →
      a.unify b = some c → trait.layout c ∧ ∀ p ∈ c, trait.value p.2
  | [], _, _, h => Structure.unify_nil_eq_some_iff.mp h ▸ ha
  | (attr, w) :: rest, hb, hattrs, h => by
    obtain ⟨d, hd, hc⟩ := Structure.unify_cons_eq_some_iff.mp h
    rw [List.forall_mem_cons] at hb hattrs
    refine unify_pairs ⟨trait.layout_insertWith hattrs.1 ha.1 hd, ?_⟩ hb.2 hattrs.2 hc
    exact Structure.insertWith_pairs (P := fun p ↦ trait.value p.2) hb.1
      (fun v u hv hu ↦ unify_value hv hb.1 hu) ha.2 hd

end

/-- Unifying structures passes a trait on. -/
theorem unify {a b c : Structure} (ha : trait.features a) (hb : trait.features b)
    (h : a.unify b = some c) : trait.features c := by
  rw [features_iff] at ha hb ⊢
  exact unify_pairs ha hb.2 (trait.attr_of_mem hb.1) h

/-- Giving an attribute a value passes a trait on. -/
theorem add? {s t : Structure} {attr : Symbol} {value : Value} (hs : trait.features s)
    (hattr : trait.attr attr) (hvalue : trait.value value)
    (h : s.add? attr value = some t) : trait.features t :=
  unify hs (single hattr hvalue) h

end Trait

end Morphology
