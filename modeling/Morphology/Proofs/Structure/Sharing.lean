import Morphology.Proofs.Structure.Joins

/-!
# Merging with shortcuts

Structures with increasing attributes are unified by merging their pairs. On the way, structures and
lists that are known to be equal need not be gone through, nor those that are empty. Whether two
equal ones are known to be equal depends on how they were made, so that any of the shortcuts may be
taken or not. It makes no difference, as unification is idempotent.
-/

namespace Morphology

/-- Which shortcuts are taken, for every place where structures or lists meet. A place is given by
the indices of attributes and by the positions in lists that lead to it. -/
abbrev Shortcuts := List Nat → Bool

/-- The shortcuts that are taken inside of a place. -/
def Shortcuts.inside (taken : Shortcuts) (place : Nat) : Shortcuts :=
  fun places ↦ taken (place :: places)

mutual

/-- Unifies two values, with shortcuts. -/
def Value.merge (taken : Shortcuts) : Value → Value → Option Value
  | .atom s, .atom t => if s = t then some (.atom s) else none
  | .text s, .text t => if s = t then some (.text s) else none
  | .list vs, .list ws =>
    if vs.length ≠ ws.length then none
    else if taken [] ∧ vs = ws then some (.list vs)
    else (Value.mergeItems taken 0 vs ws).map .list
  | .nested a, .nested b => (Structure.merge taken a b).map .nested
  | _, _ => none
termination_by v w => (sizeOf v + sizeOf w, 0)

/-- Unifies the items of two lists from a position on, as long as both lists have items. -/
def Value.mergeItems (taken : Shortcuts) (position : Nat) :
    List Value → List Value → Option (List Value)
  | v :: vs, w :: ws =>
    (Value.merge (taken.inside position) v w).bind fun u ↦
      (Value.mergeItems taken (position + 1) vs ws).map (u :: ·)
  | _, _ => some []
termination_by vs ws => (sizeOf vs + sizeOf ws, 0)

/-- Unifies two structures, with shortcuts. -/
def Structure.merge (taken : Shortcuts) (a b : Structure) : Option Structure :=
  if taken [] ∧ (a = b ∨ b = []) then some a
  else if taken [] ∧ a = [] then some b
  else Structure.mergePairs taken a b
termination_by (sizeOf a + sizeOf b, 1)

/-- Merges the pairs of two structures, the smaller attribute first. -/
def Structure.mergePairs (taken : Shortcuts) : Structure → Structure → Option Structure
  | [], b => some b
  | a, [] => some a
  | (s, v) :: a, (t, w) :: b =>
    if s < t then (Structure.mergePairs taken a ((t, w) :: b)).map ((s, v) :: ·)
    else if t < s then (Structure.mergePairs taken ((s, v) :: a) b).map ((t, w) :: ·)
    else
      (Value.merge (taken.inside s.index) v w).bind fun u ↦
        (Structure.mergePairs taken a b).map ((s, u) :: ·)
termination_by a b => (sizeOf a + sizeOf b, 0)

end

namespace Structure

/-! ## Unification pair by pair -/

variable {a b : Structure} {attr : Symbol} {v w : Value}

theorem insertWith_of_lt {merge : Value → Option Value} (h : ∀ p ∈ a, attr < p.1) :
    insertWith merge attr v a = some ((attr, v) :: a) := by
  cases a with
  | nil => rfl
  | cons p rest =>
    have hfirst := h p List.mem_cons_self
    have hafter : ¬p.1 < attr := fun hlt ↦ Symbol.lt_irrefl _ (Symbol.lt_trans hfirst hlt)
    have hother : p.1 ≠ attr := fun heq ↦ Symbol.lt_irrefl attr (heq ▸ hfirst)
    rw [insertWith, if_neg hafter, if_neg hother]

/-- A pair with the smallest attribute stays in front. -/
theorem unify_cons_left (h : ∀ q ∈ b, attr < q.1) :
    unify ((attr, v) :: a) b = (a.unify b).map ((attr, v) :: ·) := by
  induction b generalizing a with
  | nil => simp [unify]
  | cons q rest ih =>
    rw [List.forall_mem_cons] at h
    rw [unify, unify, insertWith, if_pos h.1, Option.bind_map, Option.map_bind]
    exact congrArg _ (funext fun d ↦ ih h.2)

/-- A new pair with the smallest attribute comes in front. -/
theorem unify_cons_right (ha : ∀ p ∈ a, attr < p.1) (hb : ∀ q ∈ b, attr < q.1) :
    a.unify ((attr, w) :: b) = (a.unify b).map ((attr, w) :: ·) := by
  rw [unify, insertWith_of_lt ha, Option.bind_some, unify_cons_left hb]

/-- Values of the smallest attribute are unified first. -/
theorem unify_cons_same (hb : ∀ q ∈ b, attr < q.1) :
    unify ((attr, v) :: a) ((attr, w) :: b) =
      (v.unify w).bind fun u ↦ (a.unify b).map ((attr, u) :: ·) := by
  rw [unify, insertWith, if_neg (Symbol.lt_irrefl attr), if_pos rfl, Option.bind_map]
  exact congrArg _ (funext fun u ↦ unify_cons_left hb)

end Structure

theorem Value.unifyItems_self {vs : List Value} (h : (Value.list vs).Canonical) :
    Value.unifyItems vs vs = some vs := by
  have hself := Value.findsJoins_unify.idem h
  rw [Value.unify] at hself
  obtain ⟨us, hus, heq⟩ := Option.map_eq_some_iff.mp hself
  rw [hus, Value.list.inj heq]

theorem Value.unifyItems_of_length_ne {vs ws : List Value} (h : vs.length ≠ ws.length) :
    Value.unifyItems vs ws = none := by
  induction ws generalizing vs with
  | nil =>
    cases vs with
    | nil => exact absurd rfl h
    | cons v vs => rfl
  | cons w ws ih =>
    cases vs with
    | nil => rfl
    | cons v vs =>
      rw [Value.unifyItems, ih fun heq ↦ h (congrArg (· + 1) heq)]
      cases v.unify w <;> rfl

mutual

/-- Whatever shortcuts are taken, merging values is unifying them. -/
theorem Value.merge_eq_unify (taken : Shortcuts) :
    ∀ {v w : Value}, v.Canonical → w.Canonical → Value.merge taken v w = v.unify w
  | .list vs, .list ws, hv, hw => by
    rw [Value.merge, Value.unify]
    split
    next hlength => rw [Value.unifyItems_of_length_ne hlength, Option.map_none]
    next hlength =>
      split
      next hshared =>
        obtain ⟨-, rfl⟩ := hshared
        rw [Value.unifyItems_self hv, Option.map_some]
      next =>
        rw [Value.canonical_list] at hv hw
        rw [Value.mergeItems_eq_unifyItems taken 0 (not_not.mp hlength) hv hw]
  | .nested a, .nested b, hv, hw => by
    rw [Value.canonical_nested] at hv hw
    rw [Value.merge, Value.unify, Structure.merge_eq_unify taken hv hw]
  | .atom s, .atom t, _, _ => by rw [Value.merge, Value.unify]
  | .text s, .text t, _, _ => by rw [Value.merge, Value.unify]
  | .atom _, .text _, _, _ | .atom _, .list _, _, _ | .atom _, .nested _, _, _
  | .text _, .atom _, _, _ | .text _, .list _, _, _ | .text _, .nested _, _, _
  | .list _, .atom _, _, _ | .list _, .text _, _, _ | .list _, .nested _, _, _
  | .nested _, .atom _, _, _ | .nested _, .text _, _, _ | .nested _, .list _, _, _ => by
    simp [Value.merge, Value.unify]
termination_by v w => (sizeOf v + sizeOf w, 0)

theorem Value.mergeItems_eq_unifyItems (taken : Shortcuts) (position : Nat) :
    ∀ {vs ws : List Value}, vs.length = ws.length → (∀ v ∈ vs, v.Canonical) →
      (∀ w ∈ ws, w.Canonical) → Value.mergeItems taken position vs ws = Value.unifyItems vs ws
  | [], [], _, _, _ => by simp [Value.mergeItems, Value.unifyItems]
  | v :: vs, w :: ws, hlength, hvs, hws => by
    rw [List.forall_mem_cons] at hvs hws
    rw [Value.mergeItems, Value.unifyItems, Value.merge_eq_unify _ hvs.1 hws.1,
      Value.mergeItems_eq_unifyItems taken (position + 1) (Nat.succ.inj hlength) hvs.2 hws.2]
termination_by vs ws => (sizeOf vs + sizeOf ws, 0)

/-- Whatever shortcuts are taken, merging structures is unifying them. -/
theorem Structure.merge_eq_unify (taken : Shortcuts) {a b : Structure} (ha : a.Canonical)
    (hb : b.Canonical) : Structure.merge taken a b = a.unify b := by
  rw [Structure.merge]
  split
  next hshared =>
    rcases hshared.2 with rfl | rfl
    · exact (Structure.findsJoins_unify.idem ha).symm
    · exact (Structure.unify_empty a).symm
  next =>
    split
    next hshared =>
      obtain ⟨-, rfl⟩ := hshared
      exact (Structure.empty_unify hb).symm
    next => exact Structure.mergePairs_eq_unify taken ha hb
termination_by (sizeOf a + sizeOf b, 1)

theorem Structure.mergePairs_eq_unify (taken : Shortcuts) :
    ∀ {a b : Structure}, a.Canonical → b.Canonical → Structure.mergePairs taken a b = a.unify b
  | [], b, _, hb => by
    rw [Structure.mergePairs]
    exact (Structure.empty_unify hb).symm
  | p :: a, [], _, _ => by
    rw [Structure.mergePairs, Structure.unify]
    exact nofun
  | (s, v) :: a, (t, w) :: b, ha, hb => by
    obtain ⟨hleast, hv, ha'⟩ := Structure.Canonical.cons_iff.mp ha
    obtain ⟨hleast', hw, hb'⟩ := Structure.Canonical.cons_iff.mp hb
    rw [Structure.mergePairs]
    split
    next hlt =>
      rw [Structure.mergePairs_eq_unify taken ha' hb, Structure.unify_cons_left]
      exact List.forall_mem_cons.mpr ⟨hlt, fun q hq ↦ Symbol.lt_trans hlt (hleast' q hq)⟩
    next hle =>
      split
      next hlt =>
        rw [Structure.mergePairs_eq_unify taken ha hb', Structure.unify_cons_right _ hleast']
        exact List.forall_mem_cons.mpr ⟨hlt, fun p hp ↦ Symbol.lt_trans hlt (hleast p hp)⟩
      next hge =>
        obtain rfl : s = t := Classical.byContradiction fun hne ↦ hge (Symbol.lt_of_not_lt hle hne)
        rw [Structure.mergePairs_eq_unify taken ha' hb', Structure.unify_cons_same hleast',
          Value.merge_eq_unify _ hv hw]
termination_by a b => (sizeOf a + sizeOf b, 0)

end

/-! ## Least upper bounds -/

/-- On everything that the operations make, subsumption is a partial order and unification finds the
least thing above its operands, or fails where nothing is above both. The empty structure is its
unit, and its outcome does not depend on shortcuts. -/
theorem unification_finds_joins :
    FindsJoins Structure.Obtainable Structure.Below Structure.unify ∧
      FindsJoins Value.Obtainable Value.Below Value.unify ∧
      (∀ a : Structure, a.Obtainable → a.unify .empty = some a ∧ Structure.empty.unify a = some a) ∧
      (∀ (taken : Shortcuts) (a b : Structure), a.Obtainable → b.Obtainable →
        Structure.merge taken a b = a.unify b) ∧
      ∀ (taken : Shortcuts) (v w : Value), v.Obtainable → w.Obtainable →
        Value.merge taken v w = v.unify w := by
  have hstructures : Structure.Obtainable = Structure.Canonical :=
    funext fun _ ↦ propext Structure.obtainable_iff_canonical
  have hvalues : Value.Obtainable = Value.Canonical :=
    funext fun _ ↦ propext Value.obtainable_iff_canonical
  rw [hstructures, hvalues]
  refine ⟨Structure.findsJoins_unify, Value.findsJoins_unify, fun a ha ↦ ?_, ?_, ?_⟩
  · exact ⟨Structure.unify_empty a, Structure.empty_unify ha⟩
  · exact fun taken a b ↦ Structure.merge_eq_unify taken
  · exact fun taken v w ↦ Value.merge_eq_unify taken

/-- `[class: noun, agreement: [case: nominative]]` -/
def nominativeNoun : Structure := [(⟨0⟩, .atom ⟨10⟩), (⟨1⟩, .nested [(⟨2⟩, .atom ⟨11⟩)])]

/-- `[agreement: [case: inessive]]` -/
def inessive : Structure := [(⟨1⟩, .nested [(⟨2⟩, .atom ⟨12⟩)])]

/-- `[agreement: [number: singular]]` -/
def singular : Structure := [(⟨1⟩, .nested [(⟨3⟩, .atom ⟨13⟩)])]

theorem obtainable_nominativeNoun : nominativeNoun.Obtainable := by
  have hagreement : Value.Obtainable (.nested [(⟨2⟩, .atom ⟨11⟩)]) := .nested (.single _ (.atom _))
  have hvalues : ∀ p ∈ nominativeNoun, p.2.Obtainable :=
    List.forall_mem_cons.mpr ⟨.atom _, List.forall_mem_cons.mpr ⟨hagreement, by simp⟩⟩
  exact .ofPairs hvalues (by decide)

/-- Nominative and singular go together in one agreement, nominative and inessive do not. -/
theorem unification_finds_joins_nominativeNoun :
    (∃ c, nominativeNoun.unify singular = some c ∧ nominativeNoun.Below c ∧ singular.Below c ∧
      ∀ d, nominativeNoun.Below d → singular.Below d → c.Below d) ∧
    ¬∃ d, nominativeNoun.Below d ∧ inessive.Below d := by
  have hjoins := unification_finds_joins.1
  have hsingular : singular.Obtainable := .single _ (.nested (.single _ (.atom _)))
  refine ⟨⟨_, rfl, ?_, ?_, fun d ↦ hjoins.join_below rfl⟩, hjoins.none_above (by decide)⟩
  · exact hjoins.left_below obtainable_nominativeNoun hsingular rfl
  · exact hjoins.right_below obtainable_nominativeNoun hsingular rfl

end Morphology
