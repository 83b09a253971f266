import Morphology.Structure.Material

/-!
# Depth of unified structures

Unification does not nest: what it makes is exactly as deep as the deeper one of its operands. A
structure only gets deeper than what it is made of where a value becomes that of an attribute, which
is one level for the structure that has the attribute.
-/

namespace Morphology

namespace Structure

theorem maxDepth_insertWith {merge : Value → Option Value} {attr : Symbol} {value : Value}
    (hmerge : ∀ v u, merge v = some u → u.depth = max v.depth value.depth) :
    ∀ {s t : Structure}, insertWith merge attr value s = some t →
      t.maxDepth = max s.maxDepth value.depth
  | [], t, h => by
    obtain rfl := Option.some.inj h
    simp [maxDepth]
  | (a, v) :: rest, t, h => by
    rw [insertWith] at h
    split at h
    · obtain ⟨u, hu, rfl⟩ := Option.map_eq_some_iff.mp h
      rw [maxDepth, maxDepth, maxDepth_insertWith hmerge hu, Nat.max_assoc]
    · split at h
      · obtain ⟨u, hu, rfl⟩ := Option.map_eq_some_iff.mp h
        rw [maxDepth, maxDepth, hmerge v u hu, Nat.max_right_comm]
      · obtain rfl := Option.some.inj h
        rw [maxDepth, Nat.max_comm]

end Structure

mutual

/-- Two values unify to one that is as deep as the deeper one of them. -/
theorem Value.depth_unify {v u : Value} :
    ∀ {w : Value}, v.unify w = some u → u.depth = max v.depth w.depth
  | .atom symbol, h => by
    obtain ⟨rfl, rfl⟩ := Value.unify_atom_eq_some_iff.mp h
    exact (Nat.max_self _).symm
  | .text content, h => by
    obtain ⟨rfl, rfl⟩ := Value.unify_text_eq_some_iff.mp h
    exact (Nat.max_self _).symm
  | .list ws, h => by
    obtain ⟨vs, us, rfl, rfl, hus⟩ := Value.unify_list_eq_some_iff.mp h
    rw [Value.depth, Value.depth, Value.depth, Value.maxDepth_unifyItems hus, Nat.add_max_add_left]
  | .nested b, h => by
    obtain ⟨a, c, rfl, rfl, hc⟩ := Value.unify_nested_eq_some_iff.mp h
    rw [Value.depth, Value.depth, Value.depth, Structure.maxDepth_unify hc, Nat.add_max_add_left]

theorem Value.maxDepth_unifyItems {vs us : List Value} :
    ∀ {ws : List Value}, Value.unifyItems vs ws = some us →
      Value.maxDepth us = max (Value.maxDepth vs) (Value.maxDepth ws)
  | [], h => by
    obtain ⟨rfl, rfl⟩ := Value.unifyItems_nil_eq_some_iff.mp h
    exact (Nat.max_self _).symm
  | w :: ws, h => by
    obtain ⟨v, rest, u, later, rfl, rfl, hu, hlater⟩ := Value.unifyItems_cons_eq_some_iff.mp h
    rw [Value.maxDepth, Value.maxDepth, Value.maxDepth, Value.depth_unify hu,
      Value.maxDepth_unifyItems hlater]
    omega

theorem Structure.maxDepth_unify {a c : Structure} :
    ∀ {b : Structure}, a.unify b = some c → c.maxDepth = max a.maxDepth b.maxDepth
  | [], h => by
    obtain rfl := Structure.unify_nil_eq_some_iff.mp h
    exact (Nat.max_zero _).symm
  | (attr, w) :: rest, h => by
    obtain ⟨d, hd, hc⟩ := Structure.unify_cons_eq_some_iff.mp h
    have hfirst : d.maxDepth = max a.maxDepth w.depth :=
      Structure.maxDepth_insertWith (fun _ _ ↦ Value.depth_unify) hd
    rw [Structure.maxDepth, Structure.maxDepth_unify hc, hfirst, Nat.max_assoc]

end

namespace Structure

variable {s : Structure} {attr : Symbol} {v : Value}

/-- Two structures unify to one that is as deep as the deeper one of them. -/
theorem depth_unify {a b c : Structure} (h : a.unify b = some c) :
    c.depth = max a.depth b.depth := by
  rw [depth, depth, depth, maxDepth_unify h, Nat.add_max_add_left]

/-- A value is one level deeper where it is the value of an attribute. -/
theorem depth_single (attr : Symbol) (v : Value) : (single attr v).depth = 1 + v.depth := by
  rw [single, depth, maxDepth, maxDepth, Nat.max_zero]

/-- The value of an attribute is less deep than the structure that has it. -/
theorem depth_get? (h : s.get? attr = some v) : 1 + v.depth ≤ s.depth :=
  Nat.add_le_add_left (depth_le_maxDepth (mem_of_get? h)) 1

end Structure

end Morphology
