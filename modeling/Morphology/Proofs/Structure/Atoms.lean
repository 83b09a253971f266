import Morphology.Proofs.Structure.Pairs

/-!
# Structures of atoms

Atoms do not unify with anything but themselves. So pairs whose values are atoms make a structure
just if none of their attributes has two values, and then the structure has exactly these pairs.
-/

namespace Morphology

namespace Structure

variable {pairs : List (Symbol × Value)} {s : Structure}

theorem exists_insertWith {merge : Value → Option Value} (hmerge : ∀ v, ∃ u, merge v = some u)
    (attr : Symbol) (value : Value) (s : Structure) :
    ∃ t, insertWith merge attr value s = some t := by
  induction s with
  | nil => exact ⟨_, rfl⟩
  | cons p rest ih =>
    obtain ⟨a, v⟩ := p
    rw [insertWith]
    split
    · obtain ⟨t, ht⟩ := ih
      exact ⟨(a, v) :: t, by rw [ht, Option.map_some]⟩
    · split
      · obtain ⟨u, hu⟩ := hmerge v
        exact ⟨(a, u) :: rest, by rw [hu, Option.map_some]⟩
      · exact ⟨_, rfl⟩

/-- Where no attribute has two values, some structure gives all of them theirs. -/
theorem exists_get?_of_functional (h : ∀ p ∈ pairs, ∀ q ∈ pairs, p.1 = q.1 → p.2 = q.2) :
    ∃ x : Structure, ∀ p ∈ pairs, x.get? p.1 = some p.2 := by
  induction pairs with
  | nil => exact ⟨[], fun p hp ↦ absurd hp List.not_mem_nil⟩
  | cons p rest ih =>
    obtain ⟨x, hx⟩ := ih fun q hq r hr ↦
      h q (List.mem_cons_of_mem p hq) r (List.mem_cons_of_mem p hr)
    obtain ⟨t, ht⟩ := exists_insertWith (fun _ ↦ ⟨p.2, rfl⟩) p.1 p.2 x
    have hself : t.get? p.1 = some p.2 := by
      obtain ⟨u, hu, hvalue⟩ := get?_insertWith_self ht
      rw [hu, ← hvalue]
      cases x.get? p.1 <;> rfl
    refine ⟨t, List.forall_mem_cons.mpr ⟨hself, fun q hq ↦ ?_⟩⟩
    by_cases hsame : q.1 = p.1
    · have hvalue := h q (List.mem_cons_of_mem p hq) p List.mem_cons_self hsame
      rw [hsame, hself, hvalue]
    · rw [get?_insertWith_of_ne hsame ht]
      exact hx q hq

theorem canonical_of_atoms (hatoms : ∀ p ∈ pairs, ∃ symbol, p.2 = .atom symbol) :
    ∀ p ∈ pairs, p.2.Canonical := by
  intro p hp
  obtain ⟨symbol, hvalue⟩ := hatoms p hp
  exact hvalue ▸ .atom symbol

theorem single_below_iff_of_atoms (hatoms : ∀ p ∈ pairs, ∃ symbol, p.2 = .atom symbol)
    {p : Symbol × Value} (hp : p ∈ pairs) {x : Structure} :
    (single p.1 p.2).Below x ↔ x.get? p.1 = some p.2 := by
  obtain ⟨symbol, hvalue⟩ := hatoms p hp
  rw [single_below_iff, hvalue]
  simp only [Value.below_atom_iff, exists_eq_right]

/-- A structure of atoms gives every attribute the value that is listed for it. -/
theorem get?_of_atoms (hatoms : ∀ p ∈ pairs, ∃ symbol, p.2 = .atom symbol)
    (h : ofPairs? pairs = some s) : ∀ p ∈ pairs, s.get? p.1 = some p.2 := by
  intro p hp
  have hs := (canonical_of_ofPairs? (canonical_of_atoms hatoms) h).below_refl
  exact (single_below_iff_of_atoms hatoms hp).mp (ofPairs?_below_iff.mp ⟨s, h, hs⟩ p hp)

/-- Atoms make a structure unless some attribute has two of them. -/
theorem exists_ofPairs?_iff_of_atoms (hatoms : ∀ p ∈ pairs, ∃ symbol, p.2 = .atom symbol) :
    (∃ s, ofPairs? pairs = some s) ↔ ∀ p ∈ pairs, ∀ q ∈ pairs, p.1 = q.1 → p.2 = q.2 := by
  constructor
  · rintro ⟨s, hs⟩ p hp q hq hsame
    have hvalue := get?_of_atoms hatoms hs p hp
    rw [hsame, get?_of_atoms hatoms hs q hq] at hvalue
    exact (Option.some.inj hvalue).symm
  · intro h
    obtain ⟨x, hx⟩ := exists_get?_of_functional h
    have hbelow : ∀ p ∈ pairs, (single p.1 p.2).Below x := fun p hp ↦
      (single_below_iff_of_atoms hatoms hp).mpr (hx p hp)
    obtain ⟨s, hs, -⟩ := ofPairs?_below_iff.mpr hbelow
    exact ⟨s, hs⟩

/-- A structure of atoms has exactly the pairs that are listed. -/
theorem mem_iff_of_atoms (hatoms : ∀ p ∈ pairs, ∃ symbol, p.2 = .atom symbol)
    (h : ofPairs? pairs = some s) (p : Symbol × Value) : p ∈ s ↔ p ∈ pairs := by
  have hcanonical := canonical_of_ofPairs? (canonical_of_atoms hatoms) h
  constructor
  · intro hp
    have hvalue := get?_of_mem hcanonical.increasing hp
    have hlisted : p.1 ∈ pairs.map (·.1) := Classical.not_not.mp fun hmissing ↦ by
      rw [(get?_ofPairs?_eq_none_iff (canonical_of_atoms hatoms) h p.1).mpr hmissing] at hvalue
      exact absurd hvalue nofun
    obtain ⟨q, hq, hsame⟩ := List.mem_map.mp hlisted
    have hother := get?_of_atoms hatoms h q hq
    rw [hsame, hvalue] at hother
    exact Prod.ext hsame (Option.some.inj hother).symm ▸ hq
  · exact fun hp ↦ mem_of_get? (get?_of_atoms hatoms h p hp)

end Structure

end Morphology
