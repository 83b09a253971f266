import Mathlib.Data.List.Forall2
import Morphology.Proofs.Structure.Canonical

/-!
# Subsumption

A value is below another one if it says less: atoms and texts are below themselves only, lists below
lists of the same length item by item, and a structure is below one that has all of its attributes,
with values that are above its own. On canonical values this is a partial order. What unification
makes is below exactly the values that both operands are below.
-/

namespace Morphology

/-- Whether everything that the first value says is also said by the second one. -/
inductive Value.Below : Value → Value → Prop
  | atom (symbol : Symbol) : Below (.atom symbol) (.atom symbol)
  | text (content : String) : Below (.text content) (.text content)
  | list {vs ws : List Value} (length_eq : vs.length = ws.length)
      (items : ∀ v w, (v, w) ∈ vs.zip ws → Below v w) : Below (.list vs) (.list ws)
  | nested {a b : Structure} (present : ∀ p ∈ a, ∃ w, b.get? p.1 = some w)
      (values : ∀ p ∈ a, ∀ w, b.get? p.1 = some w → Below p.2 w) : Below (.nested a) (.nested b)

/-- Whether every attribute of the first structure is present in the second one, with a value that
is above its own. -/
def Structure.Below (a b : Structure) : Prop :=
  ∀ p ∈ a, ∃ w, b.get? p.1 = some w ∧ p.2.Below w

namespace Value

theorem below_list_iff {vs ws : List Value} :
    (Value.list vs).Below (.list ws) ↔ List.Forall₂ Below vs ws := by
  rw [List.forall₂_iff_zip]
  exact ⟨fun (.list hlength hitems) ↦ ⟨hlength, hitems _ _⟩,
    fun ⟨hlength, hitems⟩ ↦ .list hlength fun _ _ ↦ hitems⟩

theorem below_nested_iff {a b : Structure} :
    (Value.nested a).Below (.nested b) ↔ a.Below b := by
  constructor
  · intro (.nested hpresent hvalues) p hp
    obtain ⟨w, hw⟩ := hpresent p hp
    exact ⟨w, hw, hvalues p hp w hw⟩
  · intro h
    refine .nested (fun p hp ↦ (h p hp).imp fun _ ↦ And.left) fun p hp w hw ↦ ?_
    obtain ⟨u, hu, hbelow⟩ := h p hp
    exact Option.some.inj (hu.symm.trans hw) ▸ hbelow

theorem below_atom_iff {symbol : Symbol} {x : Value} :
    (atom symbol).Below x ↔ x = .atom symbol :=
  ⟨fun (.atom _) ↦ rfl, fun h ↦ h ▸ .atom symbol⟩

theorem below_text_iff {content : String} {x : Value} :
    (text content).Below x ↔ x = .text content :=
  ⟨fun (.text _) ↦ rfl, fun h ↦ h ▸ .text content⟩

/-- What is above a list is a list. -/
theorem Below.exists_list {vs : List Value} {x : Value} (h : (Value.list vs).Below x) :
    ∃ xs, x = .list xs ∧ List.Forall₂ Below vs xs := by
  cases h with
  | list hlength hitems => exact ⟨_, rfl, below_list_iff.mp (.list hlength hitems)⟩

/-- What is above a structure is a structure. -/
theorem Below.exists_nested {a : Structure} {x : Value} (h : (Value.nested a).Below x) :
    ∃ b : Structure, x = .nested b ∧ a.Below b := by
  cases h with
  | nested hpresent hvalues => exact ⟨_, rfl, below_nested_iff.mp (.nested hpresent hvalues)⟩

/-- What is below a list is a list. -/
theorem Below.exists_items {v : Value} {xs : List Value} (h : v.Below (.list xs)) :
    ∃ vs, v = .list vs ∧ List.Forall₂ Below vs xs := by
  cases h with
  | list hlength hitems => exact ⟨_, rfl, below_list_iff.mp (.list hlength hitems)⟩

/-- What is below a structure is a structure. -/
theorem Below.exists_pairs {v : Value} {b : Structure} (h : v.Below (.nested b)) :
    ∃ a : Structure, v = .nested a ∧ a.Below b := by
  cases h with
  | nested hpresent hvalues => exact ⟨_, rfl, below_nested_iff.mp (.nested hpresent hvalues)⟩

/-! ## A partial order -/

theorem Canonical.below_refl {v : Value} (hv : v.Canonical) : v.Below v := by
  induction hv with
  | atom symbol => exact .atom symbol
  | text content => exact .text content
  | list _ ih => exact below_list_iff.mpr (List.forall₂_same.mpr ih)
  | nested hincreasing _ ih =>
    exact below_nested_iff.mpr fun p hp ↦ ⟨p.2, Structure.get?_of_mem hincreasing hp, ih p hp⟩

theorem Below.trans {v w x : Value} (hvw : v.Below w) (hwx : w.Below x) : v.Below x := by
  induction hvw generalizing x with
  | atom | text => exact hwx
  | @list vs ws hlength hitems ih =>
    cases hwx with
    | @list _ xs hlength' hitems' =>
      have hfirst : List.Forall₂ (fun v w ↦ ∀ {x}, w.Below x → v.Below x) vs ws :=
        List.forall₂_iff_zip.mpr ⟨hlength, ih _ _⟩
      have hsecond : List.Forall₂ Below ws xs :=
        List.forall₂_iff_zip.mpr ⟨hlength', hitems' _ _⟩
      clear ih hitems hitems' hlength hlength'
      refine below_list_iff.mpr ?_
      induction hfirst generalizing xs with
      | nil => exact hsecond
      | cons hhead _ iht =>
        cases hsecond with
        | cons hhead' htail' => exact .cons (hhead hhead') (iht htail')
  | nested hpresent hvalues ih =>
    cases hwx with
    | nested hpresent' hvalues' =>
      refine below_nested_iff.mpr fun p hp ↦ ?_
      obtain ⟨w, hw⟩ := hpresent p hp
      obtain ⟨x, hx⟩ := hpresent' _ (Structure.mem_of_get? hw)
      exact ⟨x, hx, ih p hp w hw (hvalues' _ (Structure.mem_of_get? hw) x hx)⟩

theorem Below.antisymm {v w : Value} (hvw : v.Below w) (hv : v.Canonical) (hw : w.Canonical)
    (hwv : w.Below v) : v = w := by
  induction hvw with
  | atom | text => rfl
  | @list vs ws hlength _ ih =>
    have hback := List.Forall₂.flip (below_list_iff.mp hwv)
    rw [canonical_list] at hv hw
    refine congrArg Value.list (List.forall₂_eq_eq_eq ▸ List.forall₂_iff_zip.mpr ⟨hlength, ?_⟩)
    intro v w hmem
    obtain ⟨hv', hw'⟩ := List.of_mem_zip hmem
    exact ih v w hmem (hv v hv') (hw w hw') (List.forall₂_zip hback hmem)
  | @nested a b hpresent _ ih =>
    rw [below_nested_iff] at hwv
    rw [canonical_nested] at hv hw
    have hsubset : a ⊆ b := by
      intro p hp
      obtain ⟨w, hget⟩ := hpresent p hp
      have hmem := Structure.mem_of_get? hget
      obtain ⟨u, hu, hbelow⟩ := hwv _ hmem
      obtain rfl : p.2 = u :=
        Option.some.inj ((Structure.get?_of_mem hv.increasing hp).symm.trans hu)
      rw [← ih p hp w hget (hv.values p hp) (hw.values _ hmem) hbelow] at hmem
      exact hmem
    refine congrArg Value.nested (hv.increasing.eq_of_subset hw.increasing hsubset fun q hq ↦ ?_)
    obtain ⟨u, hu, -⟩ := hwv q hq
    have hmem := Structure.mem_of_get? hu
    obtain rfl : q.2 = u := Option.some.inj ((Structure.get?_of_mem hw.increasing hq).symm.trans
      (Structure.get?_of_mem hw.increasing (hsubset hmem)))
    exact hmem

end Value

namespace Structure

theorem Canonical.below_refl {a : Structure} (ha : a.Canonical) : a.Below a :=
  Value.below_nested_iff.mp (Value.canonical_nested.mpr ha).below_refl

theorem Below.trans {a b c : Structure} (hab : a.Below b) (hbc : b.Below c) : a.Below c :=
  Value.below_nested_iff.mp
    ((Value.below_nested_iff.mpr hab).trans (Value.below_nested_iff.mpr hbc))

theorem Below.antisymm {a b : Structure} (hab : a.Below b) (ha : a.Canonical) (hb : b.Canonical)
    (hba : b.Below a) : a = b :=
  Value.nested.inj ((Value.below_nested_iff.mpr hab).antisymm (Value.canonical_nested.mpr ha)
    (Value.canonical_nested.mpr hb) (Value.below_nested_iff.mpr hba))

theorem below_nil (x : Structure) : Below [] x := fun _ hp ↦ absurd hp List.not_mem_nil

theorem below_cons {p : Symbol × Value} {rest x : Structure} :
    Below (p :: rest) x ↔ (∃ w, x.get? p.1 = some w ∧ p.2.Below w) ∧ rest.Below x :=
  List.forall_mem_cons

/-! ## Bounds of what unification makes -/

/-- Giving an attribute a value makes what is below a structure exactly if the old structure and the
new value are below it. -/
theorem insertWith_below_iff {merge : Value → Option Value} {attr : Symbol} {value : Value}
    {x : Structure}
    (hmerge : ∀ v y, (∃ u, merge v = some u ∧ u.Below y) ↔ v.Below y ∧ value.Below y) :
    ∀ {a : Structure}, (∃ d, insertWith merge attr value a = some d ∧ d.Below x) ↔
      a.Below x ∧ ∃ y, x.get? attr = some y ∧ value.Below y
  | [] => by simp [insertWith, below_cons, below_nil]
  | (b, v) :: rest => by
    rw [insertWith]
    split
    next hbefore =>
      constructor
      · rintro ⟨d, hd, hbelow⟩
        obtain ⟨e, he, rfl⟩ := Option.map_eq_some_iff.mp hd
        obtain ⟨hfirst, hlater⟩ := below_cons.mp hbelow
        obtain ⟨hrest, hvalue⟩ := (insertWith_below_iff hmerge).mp ⟨e, he, hlater⟩
        exact ⟨below_cons.mpr ⟨hfirst, hrest⟩, hvalue⟩
      · rintro ⟨hbelow, hvalue⟩
        obtain ⟨hfirst, hrest⟩ := below_cons.mp hbelow
        obtain ⟨e, he, hlater⟩ := (insertWith_below_iff hmerge).mpr ⟨hrest, hvalue⟩
        exact ⟨(b, v) :: e, by rw [he, Option.map_some], below_cons.mpr ⟨hfirst, hlater⟩⟩
    next =>
      split
      next hsame =>
        subst hsame
        constructor
        · rintro ⟨d, hd, hbelow⟩
          obtain ⟨u, hu, rfl⟩ := Option.map_eq_some_iff.mp hd
          obtain ⟨⟨y, hy, hfirst⟩, hrest⟩ := below_cons.mp hbelow
          obtain ⟨hv, hvalue⟩ := (hmerge v y).mp ⟨u, hu, hfirst⟩
          exact ⟨below_cons.mpr ⟨⟨y, hy, hv⟩, hrest⟩, y, hy, hvalue⟩
        · rintro ⟨hbelow, y, hy, hvalue⟩
          obtain ⟨⟨z, hz, hv⟩, hrest⟩ := below_cons.mp hbelow
          obtain rfl : y = z := Option.some.inj (hy.symm.trans hz)
          obtain ⟨u, hu, hfirst⟩ := (hmerge v y).mpr ⟨hv, hvalue⟩
          exact ⟨(b, u) :: rest, by rw [hu, Option.map_some],
            below_cons.mpr ⟨⟨y, hy, hfirst⟩, hrest⟩⟩
      next => simp [below_cons, and_comm, and_left_comm]

end Structure

mutual

/-- What unification makes of two values is below exactly what both are below; where they are both
below something, it makes something. -/
theorem Value.unify_below_iff {v x : Value} :
    ∀ {w : Value}, (∃ u, v.unify w = some u ∧ u.Below x) ↔ v.Below x ∧ w.Below x
  | .atom symbol => by
    constructor
    · rintro ⟨u, hu, hbelow⟩
      obtain ⟨rfl, rfl⟩ := Value.unify_atom_eq_some_iff.mp hu
      exact ⟨hbelow, hbelow⟩
    · intro ⟨hv, hw⟩
      obtain rfl := Value.below_atom_iff.mp hw
      cases hv
      exact ⟨_, Value.unify_atom_eq_some_iff.mpr ⟨rfl, rfl⟩, hw⟩
  | .text content => by
    constructor
    · rintro ⟨u, hu, hbelow⟩
      obtain ⟨rfl, rfl⟩ := Value.unify_text_eq_some_iff.mp hu
      exact ⟨hbelow, hbelow⟩
    · intro ⟨hv, hw⟩
      obtain rfl := Value.below_text_iff.mp hw
      cases hv
      exact ⟨_, Value.unify_text_eq_some_iff.mpr ⟨rfl, rfl⟩, hw⟩
  | .list ws => by
    constructor
    · rintro ⟨u, hu, hbelow⟩
      obtain ⟨vs, us, rfl, rfl, hus⟩ := Value.unify_list_eq_some_iff.mp hu
      obtain ⟨xs, rfl, hitems⟩ := hbelow.exists_list
      obtain ⟨hvs, hws⟩ := Value.unifyItems_below_iff.mp ⟨us, hus, hitems⟩
      exact ⟨Value.below_list_iff.mpr hvs, Value.below_list_iff.mpr hws⟩
    · rintro ⟨hv, hw⟩
      obtain ⟨xs, rfl, hws⟩ := hw.exists_list
      obtain ⟨vs, rfl, hvs⟩ := hv.exists_items
      obtain ⟨us, hus, hbelow⟩ := Value.unifyItems_below_iff.mpr ⟨hvs, hws⟩
      exact ⟨.list us, Value.unify_list_eq_some_iff.mpr ⟨vs, us, rfl, rfl, hus⟩,
        Value.below_list_iff.mpr hbelow⟩
  | .nested b => by
    constructor
    · rintro ⟨u, hu, hbelow⟩
      obtain ⟨a, c, rfl, rfl, hc⟩ := Value.unify_nested_eq_some_iff.mp hu
      obtain ⟨x, rfl, hpairs⟩ := hbelow.exists_nested
      obtain ⟨ha, hb⟩ := Structure.unify_below_iff.mp ⟨c, hc, hpairs⟩
      exact ⟨Value.below_nested_iff.mpr ha, Value.below_nested_iff.mpr hb⟩
    · rintro ⟨hv, hw⟩
      obtain ⟨x, rfl, hb⟩ := hw.exists_nested
      obtain ⟨a, rfl, ha⟩ := hv.exists_pairs
      obtain ⟨c, hc, hbelow⟩ := Structure.unify_below_iff.mpr ⟨ha, hb⟩
      exact ⟨.nested c, Value.unify_nested_eq_some_iff.mpr ⟨a, c, rfl, rfl, hc⟩,
        Value.below_nested_iff.mpr hbelow⟩

theorem Value.unifyItems_below_iff {vs xs : List Value} :
    ∀ {ws : List Value}, (∃ us, Value.unifyItems vs ws = some us ∧ List.Forall₂ Value.Below us xs) ↔
      List.Forall₂ Value.Below vs xs ∧ List.Forall₂ Value.Below ws xs
  | [] => by
    constructor
    · rintro ⟨us, hus, hbelow⟩
      obtain ⟨rfl, rfl⟩ := Value.unifyItems_nil_eq_some_iff.mp hus
      exact ⟨hbelow, hbelow⟩
    · rintro ⟨hvs, hws⟩
      cases hws with
      | nil =>
        cases hvs with
        | nil => exact ⟨[], Value.unifyItems_nil_eq_some_iff.mpr ⟨rfl, rfl⟩, .nil⟩
  | w :: ws => by
    constructor
    · rintro ⟨us, hus, hbelow⟩
      obtain ⟨v, rest, u, later, rfl, rfl, hu, hlater⟩ :=
        Value.unifyItems_cons_eq_some_iff.mp hus
      cases hbelow with
      | cons hfirst hothers =>
        obtain ⟨hv, hw⟩ := Value.unify_below_iff.mp ⟨u, hu, hfirst⟩
        obtain ⟨hvs, hws⟩ := Value.unifyItems_below_iff.mp ⟨later, hlater, hothers⟩
        exact ⟨.cons hv hvs, .cons hw hws⟩
    · rintro ⟨hvs, hws⟩
      cases hws with
      | cons hw hws =>
        cases hvs with
        | cons hv hvs =>
          obtain ⟨u, hu, hfirst⟩ := Value.unify_below_iff.mpr ⟨hv, hw⟩
          obtain ⟨later, hlater, hothers⟩ := Value.unifyItems_below_iff.mpr ⟨hvs, hws⟩
          exact ⟨u :: later,
            Value.unifyItems_cons_eq_some_iff.mpr ⟨_, _, u, later, rfl, rfl, hu, hlater⟩,
            .cons hfirst hothers⟩

theorem Structure.unify_below_iff {a x : Structure} :
    ∀ {b : Structure}, (∃ c, a.unify b = some c ∧ c.Below x) ↔ a.Below x ∧ b.Below x
  | [] => by simp [Structure.unify, Structure.below_nil]
  | (attr, w) :: rest => by
    have hinsert : (∃ d, Structure.insertWith (·.unify w) attr w a = some d ∧ d.Below x) ↔
        a.Below x ∧ ∃ y, x.get? attr = some y ∧ w.Below y :=
      Structure.insertWith_below_iff fun v y ↦ Value.unify_below_iff
    rw [Structure.below_cons]
    constructor
    · intro ⟨c, hc, hbelow⟩
      obtain ⟨d, hd, hc⟩ := Structure.unify_cons_eq_some_iff.mp hc
      obtain ⟨hd', hrest⟩ := Structure.unify_below_iff.mp ⟨c, hc, hbelow⟩
      obtain ⟨ha, hw⟩ := hinsert.mp ⟨d, hd, hd'⟩
      exact ⟨ha, hw, hrest⟩
    · intro ⟨ha, hw, hrest⟩
      obtain ⟨d, hd, hd'⟩ := hinsert.mpr ⟨ha, hw⟩
      obtain ⟨c, hc, hbelow⟩ := Structure.unify_below_iff.mpr ⟨hd', hrest⟩
      exact ⟨c, Structure.unify_cons_eq_some_iff.mpr ⟨d, hd, hc⟩, hbelow⟩

end

end Morphology
