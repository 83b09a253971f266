import Morphology.Proofs.Structure.Subsumption

/-!
# Partial joins

An operation that may fail finds joins if it gives the least thing above two others and only fails
where nothing is above both. It is then commutative, associative and idempotent, failures included,
because each side of such a law is settled by what is above it. Unification is such an operation on
the structures, and on the values, that can be made.
-/

namespace Morphology

/-- On the things with a property, `below` is a partial order and `join` finds the least thing above
two others, or nothing where there is none. -/
structure FindsJoins {α : Type} (holds : α → Prop) (below : α → α → Prop)
    (join : α → α → Option α) : Prop where
  below_refl {a : α} : holds a → below a a
  below_trans {a b c : α} : below a b → below b c → below a c
  below_antisymm {a b : α} : holds a → holds b → below a b → below b a → a = b
  holds_join {a b c : α} : holds a → holds b → join a b = some c → holds c
  left_below {a b c : α} : holds a → holds b → join a b = some c → below a c
  right_below {a b c : α} : holds a → holds b → join a b = some c → below b c
  join_below {a b c d : α} : join a b = some c → below a d → below b d → below c d
  none_above {a b : α} : join a b = none → ¬∃ d, below a d ∧ below b d
  comm {a b : α} : holds a → holds b → join a b = join b a
  assoc {a b c : α} : holds a → holds b → holds c →
    ((join a b).bind fun ab ↦ join ab c) = (join b c).bind fun bc ↦ join a bc
  idem {a : α} : holds a → join a a = some a

section

variable {α : Type} {holds : α → Prop} {below : α → α → Prop} {join : α → α → Option α}

theorem exists_of_bind_iff {β : Type} {o : Option α} {f : α → Option β} {P : β → Prop} :
    (∃ b, o.bind f = some b ∧ P b) ↔ ∃ a, o = some a ∧ ∃ b, f a = some b ∧ P b := by
  cases o <;> simp

/-- Two outcomes are equal if the same things are above them. -/
theorem eq_of_same_bounds (hrefl : ∀ {a}, holds a → below a a)
    (hantisymm : ∀ {a b}, holds a → holds b → below a b → below b a → a = b) {o p : Option α}
    (ho : ∀ a, o = some a → holds a) (hp : ∀ a, p = some a → holds a)
    (h : ∀ d, (∃ a, o = some a ∧ below a d) ↔ ∃ a, p = some a ∧ below a d) : o = p := by
  cases o with
  | none =>
    cases p with
    | none => rfl
    | some b =>
      obtain ⟨a, ha, -⟩ := (h b).mpr ⟨b, rfl, hrefl (hp b rfl)⟩
      exact absurd ha nofun
  | some a =>
    obtain ⟨b, rfl, hba⟩ := (h a).mp ⟨a, rfl, hrefl (ho a rfl)⟩
    obtain ⟨c, hc, hab⟩ := (h b).mpr ⟨b, rfl, hrefl (hp b rfl)⟩
    obtain rfl := Option.some.inj hc
    exact congrArg some (hantisymm (ho a rfl) (hp b rfl) hab hba)

/-- An outcome that is below exactly the things with a property is the least of them, and there is
none just if no thing has the property. -/
theorem least_of_bounds {P : α → Prop} {o : Option α} (hrefl : ∀ a, o = some a → below a a)
    (h : ∀ d, (∃ a, o = some a ∧ below a d) ↔ P d) :
    (o = none ↔ ¬∃ d, P d) ∧ ∀ a, o = some a → P a ∧ ∀ d, P d → below a d := by
  cases o with
  | none => simp [← h]
  | some a =>
    have ha := (h a).mp ⟨a, rfl, hrefl a rfl⟩
    refine ⟨iff_of_false nofun (not_not.mpr ⟨a, ha⟩), fun b hb ↦ ?_⟩
    obtain rfl := Option.some.inj hb
    refine ⟨ha, fun d hd ↦ ?_⟩
    obtain ⟨c, hc, hbelow⟩ := (h d).mpr hd
    exact Option.some.inj hc ▸ hbelow

/-- An operation finds joins if what is above its result is exactly what is above both operands. -/
theorem FindsJoins.of_bounds (hrefl : ∀ {a}, holds a → below a a)
    (htrans : ∀ {a b c}, below a b → below b c → below a c)
    (hantisymm : ∀ {a b}, holds a → holds b → below a b → below b a → a = b)
    (hholds : ∀ {a b c}, holds a → holds b → join a b = some c → holds c)
    (hbounds : ∀ {a b d}, (∃ c, join a b = some c ∧ below c d) ↔ below a d ∧ below b d) :
    FindsJoins holds below join where
  below_refl := hrefl
  below_trans := htrans
  below_antisymm := hantisymm
  holds_join := hholds
  left_below ha hb h := (hbounds.mp ⟨_, h, hrefl (hholds ha hb h)⟩).1
  right_below ha hb h := (hbounds.mp ⟨_, h, hrefl (hholds ha hb h)⟩).2
  join_below h ha hb := by
    obtain ⟨c, hc, hbelow⟩ := hbounds.mpr ⟨ha, hb⟩
    exact Option.some.inj (h.symm.trans hc) ▸ hbelow
  none_above h := fun ⟨d, hd⟩ ↦ by
    obtain ⟨c, hc, -⟩ := hbounds.mpr hd
    exact absurd (h.symm.trans hc) nofun
  comm ha hb := by
    refine eq_of_same_bounds hrefl hantisymm (fun c ↦ hholds ha hb) (fun c ↦ hholds hb ha)
      fun d ↦ ?_
    rw [hbounds, hbounds, and_comm]
  assoc {a b c} ha hb hc := by
    refine eq_of_same_bounds hrefl hantisymm ?_ ?_ fun d ↦ ?_
    · intro abc h
      obtain ⟨ab, hab, habc⟩ := Option.bind_eq_some_iff.mp h
      exact hholds (hholds ha hb hab) hc habc
    · intro abc h
      obtain ⟨bc, hbc, habc⟩ := Option.bind_eq_some_iff.mp h
      exact hholds ha (hholds hb hc hbc) habc
    · -- Both sides are below exactly what all three are below.
      calc
        (∃ u, ((join a b).bind fun ab ↦ join ab c) = some u ∧ below u d) ↔
            ∃ ab, join a b = some ab ∧ below ab d ∧ below c d := by
          simp only [exists_of_bind_iff, hbounds]
        _ ↔ (below a d ∧ below b d) ∧ below c d := by
          simp only [← and_assoc, exists_and_right, hbounds]
        _ ↔ below a d ∧ ∃ bc, join b c = some bc ∧ below bc d := by
          rw [hbounds, and_assoc]
        _ ↔ ∃ bc, join b c = some bc ∧ below a d ∧ below bc d := by
          simp only [and_left_comm, exists_and_left]
        _ ↔ ∃ u, ((join b c).bind fun bc ↦ join a bc) = some u ∧ below u d := by
          simp only [exists_of_bind_iff, hbounds]
  idem ha := by
    refine eq_of_same_bounds hrefl hantisymm (fun c ↦ hholds ha ha) ?_ fun d ↦ ?_
    · intro c hc
      exact Option.some.inj hc ▸ ha
    · simp [hbounds]

/-- What is above a join is what is above both operands. -/
theorem FindsJoins.below_iff (h : FindsJoins holds below join) {a b d : α} (ha : holds a)
    (hb : holds b) : (∃ c, join a b = some c ∧ below c d) ↔ below a d ∧ below b d := by
  constructor
  · rintro ⟨c, hc, hbelow⟩
    exact ⟨h.below_trans (h.left_below ha hb hc) hbelow, h.below_trans (h.right_below ha hb hc) hbelow⟩
  · intro hbounds
    cases hc : join a b with
    | none => exact absurd ⟨d, hbounds⟩ (h.none_above hc)
    | some c => exact ⟨c, rfl, h.join_below hc hbounds.1 hbounds.2⟩

/-- What is above the join of a list is what is above all of its members. -/
theorem FindsJoins.foldlM_below_iff (h : FindsJoins holds below join) {d : α} :
    ∀ {l : List α} {a : α}, holds a → (∀ b ∈ l, holds b) →
      ((∃ c, l.foldlM join a = some c ∧ below c d) ↔ below a d ∧ ∀ b ∈ l, below b d)
  | [], a, _, _ => by simp
  | b :: rest, a, ha, hl => by
    obtain ⟨hb, hrest⟩ := List.forall_mem_cons.mp hl
    rw [List.foldlM_cons, List.forall_mem_cons, ← and_assoc, ← h.below_iff ha hb]
    constructor
    · rintro ⟨c, hc, hbelow⟩
      obtain ⟨ab, hab, hc⟩ := Option.bind_eq_some_iff.mp hc
      obtain ⟨hfirst, hothers⟩ :=
        (h.foldlM_below_iff (h.holds_join ha hb hab) hrest).mp ⟨c, hc, hbelow⟩
      exact ⟨⟨ab, hab, hfirst⟩, hothers⟩
    · rintro ⟨⟨ab, hab, hfirst⟩, hothers⟩
      obtain ⟨c, hc, hbelow⟩ :=
        (h.foldlM_below_iff (h.holds_join ha hb hab) hrest).mpr ⟨hfirst, hothers⟩
      exact ⟨c, Option.bind_eq_some_iff.mpr ⟨ab, hab, hc⟩, hbelow⟩

theorem FindsJoins.holds_foldlM (h : FindsJoins holds below join) :
    ∀ {l : List α} {a c : α}, holds a → (∀ b ∈ l, holds b) → l.foldlM join a = some c → holds c
  | [], a, c, ha, _, hc => Option.some.inj hc ▸ ha
  | b :: rest, a, c, ha, hl, hc => by
    obtain ⟨hb, hrest⟩ := List.forall_mem_cons.mp hl
    obtain ⟨ab, hab, hc⟩ := Option.bind_eq_some_iff.mp hc
    exact h.holds_foldlM (h.holds_join ha hb hab) hrest hc

end

namespace Value

/-- Unification finds the joins of values. -/
theorem findsJoins_unify : FindsJoins Value.Canonical Value.Below Value.unify :=
  .of_bounds Canonical.below_refl Below.trans (fun hv hw hvw ↦ hvw.antisymm hv hw)
    (fun hv hw ↦ hv.unify hw) unify_below_iff

end Value

namespace Structure

/-- Unification finds the joins of structures. -/
theorem findsJoins_unify : FindsJoins Structure.Canonical Structure.Below Structure.unify :=
  .of_bounds Canonical.below_refl Below.trans (fun ha hb hab ↦ hab.antisymm ha hb)
    Canonical.unify unify_below_iff

theorem unify_empty (a : Structure) : a.unify .empty = some a := by
  rw [empty, unify]

theorem empty_unify {a : Structure} (ha : a.Canonical) : empty.unify a = some a := by
  have hempty : empty.Canonical := ⟨List.Pairwise.nil, by simp [empty]⟩
  rw [findsJoins_unify.comm hempty ha, unify_empty]

end Structure

end Morphology
