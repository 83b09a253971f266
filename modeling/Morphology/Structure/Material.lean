import Morphology.Listable
import Morphology.Structure.Trait

/-!
# Material of structures

What values are made of: the texts in them, and how wide their lists and structures are.
Unification makes nothing out of nothing: its result needs no more material than its operands.
Only finitely many values of a given depth can be made of given material, although the attributes
and atoms in them are arbitrary, because there are only finitely many symbols.
-/

namespace Morphology

/-- An upper bound of texts and of widths. -/
structure Material where
  texts : List String := []
  width : Nat := 0

namespace Material

def join (m n : Material) : Material := ⟨m.texts ++ n.texts, max m.width n.width⟩

/-- Whether everything that can be made of `m` can be made of `n`. -/
instance : LE Material := ⟨fun m n ↦ m.texts ⊆ n.texts ∧ m.width ≤ n.width⟩

theorem le_iff {m n : Material} : m ≤ n ↔ m.texts ⊆ n.texts ∧ m.width ≤ n.width := Iff.rfl

theorem le_refl (m : Material) : m ≤ m := ⟨fun _ h ↦ h, Nat.le_refl _⟩

theorem le_trans {l m n : Material} (hlm : l ≤ m) (hmn : m ≤ n) : l ≤ n :=
  ⟨fun _ h ↦ hmn.1 (hlm.1 h), Nat.le_trans hlm.2 hmn.2⟩

theorem join_le {l m n : Material} : l.join m ≤ n ↔ l ≤ n ∧ m ≤ n := by
  simp only [le_iff, join, List.append_subset, Nat.max_le]
  constructor
  · exact fun ⟨⟨ha, hb⟩, hc, hd⟩ ↦ ⟨⟨ha, hc⟩, hb, hd⟩
  · exact fun ⟨⟨ha, hc⟩, hb, hd⟩ ↦ ⟨⟨ha, hb⟩, hc, hd⟩

theorem left_le_join (m n : Material) : m ≤ m.join n := (join_le.mp (le_refl _)).1

theorem right_le_join (m n : Material) : n ≤ m.join n := (join_le.mp (le_refl _)).2

theorem width_le {n : Nat} {m : Material} : (⟨[], n⟩ : Material) ≤ m ↔ n ≤ m.width := by
  simp [le_iff]

theorem text_le {text : String} {m : Material} : (⟨[text], 0⟩ : Material) ≤ m ↔ text ∈ m.texts := by
  simp [le_iff]

/-- Joins material of everything in a list. -/
def joinAll {α : Type} (f : α → Material) : List α → Material
  | [] => {}
  | a :: rest => (f a).join (joinAll f rest)

theorem joinAll_le {α : Type} {f : α → Material} {m : Material} {l : List α} :
    joinAll f l ≤ m ↔ ∀ a ∈ l, f a ≤ m := by
  induction l with
  | nil => simp [joinAll, width_le]
  | cons a rest ih => simp [joinAll, join_le, ih]

end Material

namespace Structure

/-- The pairs whose attribute does not exceed all attributes before it, when those before the
structure are smaller than `bound`. In a structure that was properly made there are none. -/
def misplaced (bound : Nat) : Structure → Nat
  | [] => 0
  | (attr, _) :: rest =>
    if bound ≤ attr.index then misplaced (attr.index + 1) rest else misplaced bound rest + 1

end Structure

mutual

/-- The material of a value. -/
def Value.material : Value → Material
  | .atom _ => {}
  | .text content => ⟨[content], 0⟩
  | .list items => .join ⟨[], items.length⟩ (Value.materialOfItems items)
  | .nested pairs => .join ⟨[], Structure.misplaced 0 pairs⟩ (Structure.materialOfPairs pairs)

def Value.materialOfItems : List Value → Material
  | [] => {}
  | v :: rest => v.material.join (Value.materialOfItems rest)

def Structure.materialOfPairs : Structure → Material
  | [] => {}
  | (_, v) :: rest => v.material.join (Structure.materialOfPairs rest)

end

namespace Structure

/-- The material of a structure. -/
def material (s : Structure) : Material := .join ⟨[], s.misplaced 0⟩ s.materialOfPairs

theorem material_le {s : Structure} {m : Material} :
    s.material ≤ m ↔ s.misplaced 0 ≤ m.width ∧ ∀ p ∈ s, p.2.material ≤ m := by
  have hpairs : s.materialOfPairs ≤ m ↔ ∀ p ∈ s, p.2.material ≤ m := by
    induction s with
    | nil => simp [materialOfPairs, Material.width_le]
    | cons p rest ih => simp [materialOfPairs, Material.join_le, ih]
  rw [material, Material.join_le, Material.width_le, hpairs]

end Structure

namespace Value

theorem nested_material_le {s : Structure} {m : Material} :
    (Value.nested s).material ≤ m ↔ s.material ≤ m := Iff.rfl

theorem list_material_le {items : List Value} {m : Material} :
    (Value.list items).material ≤ m ↔ items.length ≤ m.width ∧ ∀ v ∈ items, v.material ≤ m := by
  have hall : materialOfItems items ≤ m ↔ ∀ v ∈ items, v.material ≤ m := by
    induction items with
    | nil => simp [materialOfItems, Material.width_le]
    | cons v rest ih => simp [materialOfItems, Material.join_le, ih]
  rw [material, Material.join_le, Material.width_le, hall]

end Value

/-! ## Unification -/

namespace Structure

theorem misplaced_insertWith {merge : Value → Option Value} {attr : Symbol} {value : Value} :
    ∀ {s t : Structure} {bound : Nat}, bound ≤ attr.index →
      insertWith merge attr value s = some t → t.misplaced bound = s.misplaced bound
  | [], t, bound, hsmall, h => by
    obtain rfl := Option.some.inj h
    simp [misplaced, hsmall]
  | (a, v) :: rest, t, bound, hsmall, h => by
    rw [insertWith] at h
    by_cases hbefore : a < attr
    · rw [if_pos hbefore] at h
      obtain ⟨u, hfound, rfl⟩ := Option.map_eq_some_iff.mp h
      have hstep : a.index + 1 ≤ attr.index := Symbol.lt_iff.mp hbefore
      by_cases hplaced : bound ≤ a.index
      · simp only [misplaced, if_pos hplaced]
        exact misplaced_insertWith hstep hfound
      · simp only [misplaced, if_neg hplaced]
        rw [misplaced_insertWith hsmall hfound]
    · rw [if_neg hbefore] at h
      by_cases hsame : a = attr
      · rw [if_pos hsame] at h
        obtain ⟨u, _, rfl⟩ := Option.map_eq_some_iff.mp h
        rfl
      · rw [if_neg hsame] at h
        obtain rfl := Option.some.inj h
        have hafter : attr.index < a.index := Symbol.lt_iff.mp (Symbol.lt_of_not_lt hbefore hsame)
        have hplaced : attr.index + 1 ≤ a.index := hafter
        have hplaced' : bound ≤ a.index := Nat.le_trans hsmall (Nat.le_of_lt hafter)
        simp [misplaced, hsmall, hplaced, hplaced']

end Structure

/-- Being made of given material. -/
def Material.trait (m : Material) : Trait where
  value v := v.material ≤ m
  attr _ := True
  length n := n ≤ m.width
  layout s := s.misplaced 0 ≤ m.width
  list_iff := Value.list_material_le
  nested_iff := Value.nested_material_le.trans Structure.material_le
  layout_empty := Nat.zero_le _
  attr_of_mem _ _ _ := trivial
  layout_insertWith _ hs h := (Structure.misplaced_insertWith (Nat.zero_le _) h).symm ▸ hs

namespace Structure

/-! ## Counting -/

/-- Attributes that are not misplaced increase, so that there are at most as many as symbols. -/
theorem length_le (s : Structure) (bound : Nat) (hsmall : bound ≤ UInt32.size) :
    s.length + bound ≤ s.misplaced bound + UInt32.size := by
  induction s generalizing bound with
  | nil => simpa [misplaced] using hsmall
  | cons p rest ih =>
    have hsize : p.1.index + 1 ≤ UInt32.size := p.1.id.toNat_lt
    rw [misplaced]
    split
    next hplaced =>
      have hrest := ih (p.1.index + 1) hsize
      rw [List.length_cons]
      omega
    next =>
      have hrest := ih bound hsmall
      rw [List.length_cons]
      omega

end Structure

theorem Symbol.listable : Listable fun _ : Symbol ↦ True :=
  (Listable.le UInt32.size).map (fun n ↦ ⟨UInt32.ofNat n⟩) fun s _ ↦
    ⟨s.index, Nat.le_of_lt s.id.toNat_lt, by cases s; simp [index]⟩

namespace Value

theorem depth_le_maxDepth {v : Value} : ∀ {items : List Value}, v ∈ items →
    v.depth ≤ maxDepth items
  | _ :: _, h => by
    rw [maxDepth]
    rcases List.mem_cons.mp h with rfl | h
    · exact Nat.le_max_left ..
    · exact Nat.le_trans (depth_le_maxDepth h) (Nat.le_max_right ..)

end Value

namespace Structure

theorem depth_le_maxDepth {p : Symbol × Value} : ∀ {s : Structure}, p ∈ s → p.2.depth ≤ s.maxDepth
  | _ :: _, h => by
    rw [maxDepth]
    rcases List.mem_cons.mp h with rfl | h
    · exact Nat.le_max_left ..
    · exact Nat.le_trans (depth_le_maxDepth h) (Nat.le_max_right ..)

end Structure

/-- Only finitely many values of bounded depth can be made of given material. -/
theorem Value.listable (m : Material) :
    ∀ depth : Nat, Listable fun v : Value ↦ v.material ≤ m ∧ v.depth ≤ depth
  | 0 => by
    refine ((Symbol.listable.map (Q := fun v ↦ ∃ s, v = .atom s) Value.atom ?_).or
      ((Listable.mem m.texts).map (Q := fun v ↦ ∃ t ∈ m.texts, v = .text t) Value.text ?_)).mono ?_
    · rintro _ ⟨s, rfl⟩
      exact ⟨s, trivial, rfl⟩
    · rintro _ ⟨t, hmem, rfl⟩
      exact ⟨t, hmem, rfl⟩
    · rintro (s | t | items | pairs) ⟨hmade, hshallow⟩
      · exact .inl ⟨s, rfl⟩
      · exact .inr ⟨t, Material.text_le.mp hmade, rfl⟩
      · simp [depth] at hshallow
      · simp [depth] at hshallow
  | depth + 1 => by
    have hvalues := listable m depth
    refine ((listable m 0).or (((hvalues.lists m.width).map (Q := fun v ↦ ∃ items : List Value,
      v = .list items ∧ items.length ≤ m.width ∧ ∀ u ∈ items, u.material ≤ m ∧ u.depth ≤ depth)
        Value.list ?_).or (((Symbol.listable.prod hvalues).lists (m.width + UInt32.size)).map
          (Q := fun v ↦ ∃ pairs : Structure, v = .nested pairs ∧
            pairs.length ≤ m.width + UInt32.size ∧
              ∀ p ∈ pairs, p.2.material ≤ m ∧ p.2.depth ≤ depth) Value.nested ?_))).mono ?_
    · rintro _ ⟨items, rfl, hshort, hmembers⟩
      exact ⟨items, ⟨hshort, hmembers⟩, rfl⟩
    · rintro _ ⟨pairs, rfl, hshort, hmembers⟩
      exact ⟨pairs, ⟨hshort, fun p hp ↦ ⟨trivial, hmembers p hp⟩⟩, rfl⟩
    · rintro (s | t | items | pairs) ⟨hmade, hshallow⟩
      · exact .inl ⟨hmade, Nat.le_refl 0⟩
      · exact .inl ⟨hmade, Nat.le_refl 0⟩
      · rw [list_material_le] at hmade
        refine .inr (.inl ⟨items, rfl, hmade.1, fun v hv ↦ ⟨hmade.2 v hv, ?_⟩⟩)
        have hdepth := depth_le_maxDepth hv
        rw [Value.depth] at hshallow
        omega
      · rw [nested_material_le, Structure.material_le] at hmade
        refine .inr (.inr ⟨pairs, rfl, ?_, fun p hp ↦ ⟨hmade.2 p hp, ?_⟩⟩)
        · have hlength := Structure.length_le pairs 0 (Nat.zero_le _)
          omega
        · have hdepth := Structure.depth_le_maxDepth hp
          rw [Value.depth] at hshallow
          omega

/-- Only finitely many structures of bounded depth can be made of given material. -/
theorem Structure.listable (m : Material) (depth : Nat) :
    Listable fun s : Structure ↦ s.material ≤ m ∧ s.depth ≤ depth :=
  (Value.listable m depth).map
    (fun v ↦ match v with
      | .nested pairs => pairs
      | .atom _ | .text _ | .list _ => [])
    fun s hmade ↦ ⟨.nested s, hmade, rfl⟩

end Morphology
