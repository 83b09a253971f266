import Morphology.Proofs.Structure.Pairs
import Morphology.Proofs.Structure.Sharing

/-!
# Looking up attributes

The value of an attribute may be looked for from the front, or by halving the stretch of pairs in
which it can be until one pair is left. Halving only finds what is there if the attributes increase,
which they do in every structure that the operations make. So it finds exactly the pairs of the
structure, and these tell the structure, however it was made.
-/

namespace Morphology

namespace Structure

variable {s t : Structure} {attr : Symbol} {v : Value}

/-- The one pair among `size` pairs from `base` on that can have the attribute, by halving. -/
def narrow (s : Structure) (attr : Symbol) (base size : Nat) : Nat :=
  if size ≤ 1 then base
  else
    let middle := base + size / 2
    let beyond := s[middle]?.any (attr < ·.1)
    narrow s attr (if beyond then base else middle) (size - size / 2)
termination_by size

/-- The value of an attribute, found by halving. -/
def bisect? (s : Structure) (attr : Symbol) : Option Value :=
  s[narrow s attr 0 s.length]?.bind fun p ↦ if p.1 = attr then some p.2 else none

theorem mem_of_bisect? (h : s.bisect? attr = some v) : (attr, v) ∈ s := by
  obtain ⟨p, hp, hvalue⟩ := Option.bind_eq_some_iff.mp h
  split at hvalue
  next hattr =>
    obtain rfl := Option.some.inj hvalue
    exact hattr ▸ List.mem_of_getElem? hp
  next => contradiction

/-- Earlier pairs of a structure have smaller attributes. -/
theorem Increasing.lt_of_lt (hs : s.Increasing) {i j : Nat} {p q : Symbol × Value}
    (hp : s[i]? = some p) (hq : s[j]? = some q) (hlt : i < j) : p.1 < q.1 := by
  obtain ⟨hi, rfl⟩ := List.getElem?_eq_some_iff.mp hp
  obtain ⟨hj, rfl⟩ := List.getElem?_eq_some_iff.mp hq
  exact List.pairwise_iff_getElem.mp hs i j hi hj hlt

/-- Halving never loses the pair that has the attribute. -/
theorem narrow_eq (hs : s.Increasing) {place : Nat} (hplace : s[place]? = some (attr, v))
    {base size : Nat} (hbase : base ≤ place) (hsize : place < base + size)
    (hlength : base + size ≤ s.length) : narrow s attr base size = place := by
  induction size using Nat.strongRecOn generalizing base with
  | ind size ih =>
    rw [narrow]
    split
    next hone => omega
    next hmany =>
      have hmiddle : base + size / 2 < s.length := by omega
      have hfound := List.getElem?_eq_getElem hmiddle
      generalize s[base + size / 2] = p at hfound
      simp only [hfound, Option.any_some, decide_eq_true_eq]
      split
      next hbeyond =>
        -- The pair in the middle is too far, so that the attribute comes before it.
        have hbefore : place < base + size / 2 := by
          by_contra hge
          rcases Nat.eq_or_lt_of_le (Nat.le_of_not_lt hge) with heq | hlt
          · obtain rfl := Option.some.inj (hfound.symm.trans (heq ▸ hplace))
            exact Symbol.lt_irrefl _ hbeyond
          · exact Symbol.lt_irrefl _ (Symbol.lt_trans hbeyond (hs.lt_of_lt hfound hplace hlt))
        exact ih _ (by omega) hbase (by omega) (by omega)
      next hwithin =>
        have hafter : base + size / 2 ≤ place :=
          Nat.le_of_not_lt fun hlt ↦ hwithin (hs.lt_of_lt hplace hfound hlt)
        exact ih _ (by omega) hafter (by omega) (by omega)

/-- Halving finds exactly the pairs of a structure whose attributes increase. -/
theorem bisect?_eq_some_iff (hs : s.Increasing) : s.bisect? attr = some v ↔ (attr, v) ∈ s := by
  refine ⟨mem_of_bisect?, fun hmem ↦ ?_⟩
  obtain ⟨place, hplace⟩ := List.mem_iff_getElem?.mp hmem
  have hlt : place < 0 + s.length := by simpa using (List.getElem?_eq_some_iff.mp hplace).1
  rw [bisect?, narrow_eq hs hplace (Nat.zero_le place) hlt (by omega), hplace, Option.bind_some,
    if_pos rfl]

theorem get?_eq_some_iff (hs : s.Increasing) : s.get? attr = some v ↔ (attr, v) ∈ s :=
  ⟨mem_of_get?, get?_of_mem hs⟩

/-- Halving a structure whose attributes increase finds what the search from the front finds. -/
theorem bisect?_eq_get? (hs : s.Increasing) (attr : Symbol) : s.bisect? attr = s.get? attr :=
  Option.ext fun _ ↦ (bisect?_eq_some_iff hs).trans (get?_eq_some_iff hs).symm

theorem Increasing.eq_iff_mem (hs : s.Increasing) (ht : t.Increasing) :
    s = t ↔ ∀ p, p ∈ s ↔ p ∈ t :=
  ⟨fun h _ ↦ h ▸ Iff.rfl, fun h ↦ hs.eq_of_subset ht (fun p ↦ (h p).mp) fun p ↦ (h p).mpr⟩

theorem Increasing.eq_iff_bisect? (hs : s.Increasing) (ht : t.Increasing) :
    s = t ↔ ∀ attr, s.bisect? attr = t.bisect? attr := by
  refine ⟨fun h attr ↦ h ▸ rfl, fun h ↦ (hs.eq_iff_mem ht).mpr fun p ↦ ?_⟩
  rw [← bisect?_eq_some_iff hs, ← bisect?_eq_some_iff ht, h]

/-- A structure is told by what it says of its attributes, at every level in any order. -/
theorem Canonical.eq_iff_below (hs : s.Canonical) (ht : t.Canonical) :
    s = t ↔ s.Below t ∧ t.Below s :=
  ⟨fun h ↦ h ▸ ⟨hs.below_refl, hs.below_refl⟩, fun h ↦ h.1.antisymm hs ht h.2⟩

end Structure

/-! ## What values have inside -/

/-- A structure is a value, or stands somewhere inside of it. -/
inductive Value.Holds : Value → Structure → Prop
  | here (s : Structure) : Holds (.nested s) s
  | item {items : List Value} {v : Value} {s : Structure} (hv : v ∈ items) (h : Holds v s) :
      Holds (.list items) s
  | attr {t : Structure} {p : Symbol × Value} {s : Structure} (hp : p ∈ t) (h : Holds p.2 s) :
      Holds (.nested t) s

theorem Value.Canonical.of_holds {v : Value} {s : Structure} (hv : v.Canonical) (h : v.Holds s) :
    s.Canonical := by
  induction h with
  | here => exact Value.canonical_nested.mp hv
  | item hitem _ ih => exact ih (Value.canonical_list.mp hv _ hitem)
  | attr hp _ ih => exact ih ((Value.canonical_nested.mp hv).values _ hp)

namespace Structure

/-- A structure's attributes increase strictly, so that halving finds exactly its pairs, and the
search from the front the same. -/
structure Findable (s : Structure) : Prop where
  increasing : s.Increasing
  bisect?_eq_some_iff (attr : Symbol) (v : Value) : s.bisect? attr = some v ↔ (attr, v) ∈ s
  bisect?_eq_get? (attr : Symbol) : s.bisect? attr = s.get? attr

theorem Increasing.findable {s : Structure} (hs : s.Increasing) : s.Findable :=
  ⟨hs, fun _ _ ↦ Structure.bisect?_eq_some_iff hs, Structure.bisect?_eq_get? hs⟩

/-- Everything that the operations make has its attributes in strictly increasing order at every
level, whatever shortcuts they take, so that attributes can be looked up by halving. Two such
structures are the same just if they have the same pairs, or give every attribute the same value, or
if each says what the other says. -/
theorem obtainable_findable {s t : Structure} (hs : s.Obtainable) (ht : t.Obtainable) :
    (∀ x, (Value.nested s).Holds x → x.Findable) ∧
      (∀ taken u, Structure.merge taken s t = some u → u.Obtainable) ∧
      (∀ taken (v w u : Value), v.Obtainable → w.Obtainable → Value.merge taken v w = some u →
        u.Obtainable ∧ ∀ x, u.Holds x → x.Findable) ∧
      (s = t ↔ ∀ p, p ∈ s ↔ p ∈ t) ∧
      (s = t ↔ ∀ attr, s.bisect? attr = t.bisect? attr) ∧
      (s = t ↔ s.Below t ∧ t.Below s) := by
  have hs' := hs.canonical
  have ht' := ht.canonical
  have hholds {u : Value} (hu : u.Obtainable) (x : Structure) (hx : u.Holds x) : x.Findable :=
    (hu.canonical.of_holds hx).increasing.findable
  refine ⟨hholds (.nested hs), fun taken u hu ↦ ?_, fun taken v w u hv hw hu ↦ ?_,
    hs'.increasing.eq_iff_mem ht'.increasing, hs'.increasing.eq_iff_bisect? ht'.increasing,
    hs'.eq_iff_below ht'⟩
  · exact .unify hs ht (Structure.merge_eq_unify taken hs' ht' ▸ hu)
  · have hobtained : u.Obtainable :=
      .unify hv hw (Value.merge_eq_unify taken hv.canonical hw.canonical ▸ hu)
    exact ⟨hobtained, hholds hobtained⟩

/-- A noun that is made of parts is the one that is made by unification, and halving finds its
agreement. -/
theorem obtainable_findable_noun :
    ∃ s t, ofPairs? nounInParts = some s ∧ nominativeNoun.unify singular = some t ∧ s = t ∧
      s.bisect? ⟨1⟩ = some (.nested [(⟨2⟩, .atom ⟨11⟩), (⟨3⟩, .atom ⟨13⟩)]) := by
  have hnumber : Value.Obtainable (.nested [(⟨3⟩, .atom ⟨13⟩)]) := .nested (.single _ (.atom _))
  have hcase : Value.Obtainable (.nested [(⟨2⟩, .atom ⟨11⟩)]) := .nested (.single _ (.atom _))
  have hparts : ∀ p ∈ nounInParts, p.2.Obtainable := by
    simpa [nounInParts] using ⟨hnumber, .atom _, hcase⟩
  have hsingular : singular.Obtainable := .single _ hnumber
  obtain ⟨hholds, -, -, hsame, -, -⟩ :=
    obtainable_findable (.ofPairs hparts rfl) (.unify obtainable_nominativeNoun hsingular rfl)
  exact ⟨_, _, rfl, rfl, hsame.mpr fun p ↦ Iff.rfl,
    ((hholds _ (.here _)).bisect?_eq_some_iff _ _).mpr (by decide)⟩

end Structure

end Morphology
