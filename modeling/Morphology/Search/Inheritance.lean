import Morphology.Search.Combination
import Morphology.Structure.Trait

/-!
# Inheritance of traits

What a production makes has a trait if the structures of the children have it and the production
brings along nothing without it.
-/

namespace Morphology

/-- Whether nothing that an operation brings along is without a trait. -/
def Operation.Fits (trait : Trait) : Operation → Prop
  | .fixed features => trait.features features
  | .copy _ attr => trait.attr attr
  | .agree attr _ _ => trait.attr attr
  | .nest attr _ => trait.attr attr
  | .collect attr indices => trait.attr attr ∧ trait.length indices.length
  | .child _ => True
  | .check _ _ => True

theorem childFeatures_mem {children : List Structure} {index : Nat} {s : Structure}
    (h : childFeatures children index = .ok s) : s ∈ children :=
  List.mem_of_getElem? (childFeatures_eq_ok_iff.mp h)

/-- What goes on after a first part has succeeded went on from the outcome of that part. -/
theorem exists_of_bind_eq_ok {ε α β : Type} {x : Except ε α} {f : α → Except ε β} {b : β}
    (h : x >>= f = .ok b) : ∃ a, x = .ok a ∧ f a = .ok b := by
  cases x with
  | error e => exact absurd h nofun
  | ok a => exact ⟨a, rfl, h⟩

theorem mapM_childFeatures {children : List Structure} :
    ∀ {indices : List Nat} {all : List Structure},
      indices.mapM (childFeatures children) = .ok all →
        all.length = indices.length ∧ ∀ s ∈ all, s ∈ children
  | [], all, h => by
    obtain rfl := Except.ok.inj h
    simp
  | index :: rest, all, h => by
    rw [List.mapM_cons] at h
    obtain ⟨s, hfirst, h⟩ := exists_of_bind_eq_ok h
    obtain ⟨others, hothers, h⟩ := exists_of_bind_eq_ok h
    obtain rfl := Except.ok.inj h
    obtain ⟨hlength, hmem⟩ := mapM_childFeatures hothers
    exact ⟨congrArg (· + 1) hlength, List.forall_mem_cons.mpr ⟨childFeatures_mem hfirst, hmem⟩⟩

namespace Trait

variable {trait : Trait} {children : List Structure}

/-- What two structures with a trait say of an attribute passes the trait on. -/
theorem agreeOn {built result s t : Structure} {attr : Symbol} (hattr : trait.attr attr)
    (hbuilt : trait.features built) (hs : trait.features s) (ht : trait.features t)
    (h : Operation.agreeOn built attr (s.get? attr) (t.get? attr) = some result) :
    trait.features result := by
  cases hleft : s.get? attr with
  | none =>
    cases hright : t.get? attr with
    | none =>
      rw [hleft, hright] at h
      exact Option.some.inj h ▸ hbuilt
    | some w =>
      rw [hleft, hright] at h
      exact add? hbuilt hattr (get? ht hright) h
  | some v =>
    cases hright : t.get? attr with
    | none =>
      rw [hleft, hright] at h
      exact add? hbuilt hattr (get? hs hleft) h
    | some w =>
      rw [hleft, hright] at h
      obtain ⟨u, hboth, hadd⟩ := Option.bind_eq_some_iff.mp h
      exact add? hbuilt hattr (unify_value (get? hs hleft) (get? ht hright) hboth) hadd

theorem apply (hchildren : ∀ s ∈ children, trait.features s) {op : Operation}
    (hfits : op.Fits trait) {built result : Structure} (hbuilt : trait.features built)
    (h : op.apply children built = .ok (some result)) : trait.features result := by
  cases op with
  | child index =>
    obtain ⟨s, hs, h⟩ := exists_of_bind_eq_ok h
    exact unify hbuilt (hchildren s (childFeatures_mem hs)) (Except.ok.inj h)
  | fixed features => exact unify hbuilt hfits (Except.ok.inj h)
  | copy index attr =>
    obtain ⟨s, hs, -⟩ := exists_of_bind_eq_ok h
    rw [Operation.apply_copy built attr (childFeatures_eq_ok_iff.mp hs)] at h
    have hadd := Except.ok.inj h
    cases hvalue : s.get? attr with
    | none =>
      rw [hvalue] at hadd
      exact Option.some.inj hadd ▸ hbuilt
    | some value =>
      rw [hvalue] at hadd
      exact add? hbuilt hfits (get? (hchildren s (childFeatures_mem hs)) hvalue) hadd
  | check index features =>
    obtain ⟨s, hs, h⟩ := exists_of_bind_eq_ok h
    obtain ⟨_, -, rfl⟩ := Option.map_eq_some_iff.mp (Except.ok.inj h)
    exact hbuilt
  | agree attr left right =>
    obtain ⟨s, hs, h⟩ := exists_of_bind_eq_ok h
    obtain ⟨t, ht, h⟩ := exists_of_bind_eq_ok h
    exact agreeOn hfits hbuilt (hchildren s (childFeatures_mem hs))
      (hchildren t (childFeatures_mem ht)) (Except.ok.inj h)
  | nest attr index =>
    obtain ⟨s, hs, h⟩ := exists_of_bind_eq_ok h
    exact add? hbuilt hfits (hchildren s (childFeatures_mem hs)) (Except.ok.inj h)
  | collect attr indices =>
    obtain ⟨all, hall, h⟩ := exists_of_bind_eq_ok h
    obtain ⟨hlength, hmem⟩ := mapM_childFeatures hall
    have hlist : trait.value (.list (all.map .nested)) := by
      refine trait.list_iff.mpr ⟨?_, List.forall_mem_map.mpr fun s hs ↦ hchildren s (hmem s hs)⟩
      rw [List.length_map, hlength]
      exact hfits.2
    exact add? hbuilt hfits.1 hlist (Except.ok.inj h)

theorem applyAll (hchildren : ∀ s ∈ children, trait.features s) :
    ∀ {ops : List Operation} {built result : Structure}, (∀ op ∈ ops, op.Fits trait) →
      trait.features built → Operation.applyAll children built ops = .ok (some result) →
        trait.features result
  | [], built, result, _, hbuilt, h => Option.some.inj (Except.ok.inj h) ▸ hbuilt
  | op :: rest, built, result, hfits, hbuilt, h => by
    rw [List.forall_mem_cons] at hfits
    cases hfirst : op.apply children built with
    | error defect => simp [Operation.applyAll, hfirst] at h
    | ok outcome =>
      cases outcome with
      | none => simp [Operation.applyAll, hfirst] at h
      | some next =>
        rw [Operation.applyAll, hfirst] at h
        exact applyAll hchildren hfits.2 (apply hchildren hfits.1 hbuilt hfirst) h

theorem unifyAll :
    ∀ {children : List Structure} {built result : Structure}, (∀ s ∈ children, trait.features s) →
      trait.features built → built.unifyAll children = some result → trait.features result
  | [], built, result, _, hbuilt, h => Option.some.inj h ▸ hbuilt
  | s :: rest, built, result, hchildren, hbuilt, h => by
    obtain ⟨next, hfirst, h⟩ := Option.bind_eq_some_iff.mp h
    rw [List.forall_mem_cons] at hchildren
    exact unifyAll hchildren.2 (unify hbuilt hchildren.1 hfirst) h

/-- A production passes a trait on from the children. -/
theorem combine {rule : Production} (hchildren : ∀ s ∈ children, trait.features s)
    (hfits : ∀ op ∈ rule.operations, op.Fits trait) {result : Structure}
    (h : rule.combine children = .ok (some result)) : trait.features result := by
  rw [Production.combine] at h
  split at h
  next => exact unifyAll hchildren empty (Except.ok.inj h)
  next => exact applyAll hchildren hfits empty h

end Trait

end Morphology
