import Morphology.Proofs.Search.Combination
import Morphology.Proofs.Structure.Pairs
import Morphology.Search.Inheritance

/-!
# Contributions to a combination

What an operation contributes to a new structure depends on the children only, not on what was
built before. Carrying operations out one after the other therefore finds the least structure above
all contributions, and fails if there is none or if one of the operations rejects the children; in
which order the operations stand, and how often, makes no difference.
-/

namespace Morphology

/-! ## Operations -/

namespace Operation

/-- What an operation contributes to a structure that is built from these children. -/
inductive Contributes (children : List Structure) : Operation → Structure → Prop
  | child {index : Nat} {s : Structure} (child_eq : children[index]? = some s) :
      Contributes children (.child index) s
  | fixed (features : Structure) : Contributes children (.fixed features) features
  | copy {index : Nat} {attr : Symbol} {s : Structure} {v : Value}
      (child_eq : children[index]? = some s) (value_eq : s.get? attr = some v) :
      Contributes children (.copy index attr) (.single attr v)
  | agreed {attr : Symbol} {left right : Nat} {s t : Structure} {v w u : Value}
      (left_eq : children[left]? = some s) (right_eq : children[right]? = some t)
      (left_value : s.get? attr = some v) (right_value : t.get? attr = some w)
      (unify_eq : v.unify w = some u) :
      Contributes children (.agree attr left right) (.single attr u)
  | onlyLeft {attr : Symbol} {left right : Nat} {s t : Structure} {v : Value}
      (left_eq : children[left]? = some s) (right_eq : children[right]? = some t)
      (left_value : s.get? attr = some v) (right_value : t.get? attr = none) :
      Contributes children (.agree attr left right) (.single attr v)
  | onlyRight {attr : Symbol} {left right : Nat} {s t : Structure} {w : Value}
      (left_eq : children[left]? = some s) (right_eq : children[right]? = some t)
      (left_value : s.get? attr = none) (right_value : t.get? attr = some w) :
      Contributes children (.agree attr left right) (.single attr w)
  | nest {attr : Symbol} {index : Nat} {s : Structure} (child_eq : children[index]? = some s) :
      Contributes children (.nest attr index) (.single attr (.nested s))
  | collect {attr : Symbol} {indices : List Nat} {all : List Structure}
      (children_eq : List.Forall₂ (fun index s ↦ children[index]? = some s) indices all) :
      Contributes children (.collect attr indices) (.single attr (.list (all.map .nested)))

/-- Whether an operation rejects these children, whatever was built before. -/
inductive Rejects (children : List Structure) : Operation → Prop
  | check {index : Nat} {features s : Structure} (child_eq : children[index]? = some s)
      (unify_eq : s.unify features = none) : Rejects children (.check index features)
  | agree {attr : Symbol} {left right : Nat} {s t : Structure} {v w : Value}
      (left_eq : children[left]? = some s) (right_eq : children[right]? = some t)
      (left_value : s.get? attr = some v) (right_value : t.get? attr = some w)
      (unify_eq : v.unify w = none) : Rejects children (.agree attr left right)

/-- The structures that are written down in an operation. -/
def written : Operation → List Structure
  | .child _ => []
  | .fixed features => [features]
  | .copy _ _ => []
  | .check _ features => [features]
  | .agree _ _ _ => []
  | .nest _ _ => []
  | .collect _ _ => []

end Operation

section

variable {children : List Structure}

theorem mapM_childFeatures_eq_ok_iff {indices : List Nat} {all : List Structure} :
    indices.mapM (childFeatures children) = .ok all ↔
      List.Forall₂ (fun index s ↦ childFeatures children index = .ok s) indices all := by
  induction indices generalizing all with
  | nil => cases all <;> simp [pure, Except.pure]
  | cons index rest ih =>
    rw [List.mapM_cons]
    cases hfirst : childFeatures children index with
    | error => cases all <;> simp [hfirst, bind, Except.bind]
    | ok s =>
      cases hrest : rest.mapM (childFeatures children) with
      | error => cases all <;> simp [hfirst, hrest, ← ih, bind, Except.bind]
      | ok others =>
        cases all <;> simp [hfirst, hrest, ← ih, bind, Except.bind, pure, Except.pure]

namespace Operation

variable {op : Operation} {s t : Structure}

theorem mapM_of_forall₂ {indices : List Nat} {all : List Structure}
    (h : List.Forall₂ (fun index s ↦ children[index]? = some s) indices all) :
    indices.mapM (childFeatures children) = .ok all :=
  mapM_childFeatures_eq_ok_iff.mpr (h.imp fun _ _ ↦ childFeatures_eq_ok_iff.mpr)

/-- A contribution is unified with what was built before, whatever that is. -/
theorem Contributes.apply_eq (h : op.Contributes children s) (built : Structure) :
    op.apply children built = .ok (built.unify s) := by
  cases h with
  | child hchild => exact apply_child built hchild
  | fixed => rfl
  | copy hchild hvalue => rw [apply_copy built _ hchild, hvalue]; rfl
  | agreed hleft hright hv hw hunify =>
    rw [apply_agree built _ hleft hright, hv, hw, agreeOn, hunify]
    rfl
  | onlyLeft hleft hright hv hw => rw [apply_agree built _ hleft hright, hv, hw]; rfl
  | onlyRight hleft hright hv hw => rw [apply_agree built _ hleft hright, hv, hw]; rfl
  | nest hchild => exact apply_nest built _ hchild
  | collect hall => exact apply_collect built _ (mapM_of_forall₂ hall)

theorem Rejects.apply_eq (h : op.Rejects children) (built : Structure) :
    op.apply children built = .ok none := by
  cases h with
  | check hchild hunify => rw [apply_check built _ hchild, hunify]; rfl
  | agree hleft hright hv hw hunify =>
    rw [apply_agree built _ hleft hright, hv, hw, agreeOn, hunify]
    rfl

theorem Contributes.unique (hs : op.Contributes children s) (ht : op.Contributes children t) :
    s = t := by
  cases hs with
  | collect hall =>
    cases ht with
    | collect hother =>
      obtain rfl := Except.ok.inj ((mapM_of_forall₂ hall).symm.trans (mapM_of_forall₂ hother))
      rfl
  | _ => cases ht <;> simp_all

/-- Without a value to copy nothing changes. -/
theorem apply_copy_of_no_contribution {index : Nat} {attr : Symbol}
    (hs : children[index]? = some s) (hnone : ∀ x, ¬(copy index attr).Contributes children x)
    (built : Structure) : (copy index attr).apply children built = .ok (some built) := by
  rw [apply_copy built attr hs]
  cases hvalue : s.get? attr with
  | none => rfl
  | some v => exact absurd (.copy hs hvalue) (hnone _)

/-- A check that is passed changes nothing. -/
theorem apply_check_of_not_rejects {index : Nat} {features : Structure}
    (hs : children[index]? = some s) (hrejects : ¬(check index features).Rejects children)
    (built : Structure) : (check index features).apply children built = .ok (some built) := by
  rw [apply_check built features hs]
  cases hunify : s.unify features with
  | none => exact absurd (.check hs hunify) hrejects
  | some u => rfl

/-- Where none of two children has a value nothing changes. -/
theorem apply_agree_of_no_contribution {attr : Symbol} {left right : Nat}
    (hs : children[left]? = some s) (ht : children[right]? = some t)
    (hrejects : ¬(agree attr left right).Rejects children)
    (hnone : ∀ x, ¬(agree attr left right).Contributes children x) (built : Structure) :
    (agree attr left right).apply children built = .ok (some built) := by
  rw [apply_agree built attr hs ht]
  cases hv : s.get? attr with
  | none =>
    cases hw : t.get? attr with
    | none => rfl
    | some w => exact absurd (.onlyRight hs ht hv hw) (hnone _)
  | some v =>
    cases hw : t.get? attr with
    | none => exact absurd (.onlyLeft hs ht hv hw) (hnone _)
    | some w =>
      cases hunify : v.unify w with
      | none => exact absurd (.agree hs ht hv hw hunify) hrejects
      | some u => exact absurd (.agreed hs ht hv hw hunify) (hnone _)

theorem exists_contributes_collect {attr : Symbol} {indices : List Nat}
    (h : ∀ index ∈ indices, index < children.length) :
    ∃ x, (collect attr indices).Contributes children x := by
  obtain ⟨all, hall⟩ := mapM_childFeatures_total h
  exact ⟨_, .collect ((mapM_childFeatures_eq_ok_iff.mp hall).imp
    fun _ _ ↦ childFeatures_eq_ok_iff.mp)⟩

/-- An operation that has no contribution and does not reject the children changes nothing. -/
theorem apply_eq_of_no_contribution
    (href : ∀ index, .child index ∈ op.references → index < children.length)
    (hrejects : ¬op.Rejects children) (hnone : ∀ s, ¬op.Contributes children s)
    (built : Structure) : op.apply children built = .ok (some built) := by
  have hthere {index : Nat} (h : .child index ∈ op.references) :
      ∃ s, children[index]? = some s := ⟨_, List.getElem?_eq_getElem (href index h)⟩
  cases op with
  | child index =>
    obtain ⟨s, hs⟩ := hthere List.mem_cons_self
    exact absurd (.child hs) (hnone s)
  | fixed features => exact absurd (.fixed features) (hnone features)
  | copy index attr =>
    obtain ⟨s, hs⟩ := hthere List.mem_cons_self
    exact apply_copy_of_no_contribution hs hnone built
  | check index features =>
    obtain ⟨s, hs⟩ := hthere List.mem_cons_self
    exact apply_check_of_not_rejects hs hrejects built
  | agree attr left right =>
    obtain ⟨s, hs⟩ := hthere List.mem_cons_self
    obtain ⟨t, ht⟩ := hthere (List.mem_cons_of_mem _ List.mem_cons_self)
    exact apply_agree_of_no_contribution hs ht hrejects hnone built
  | nest attr index =>
    obtain ⟨s, hs⟩ := hthere List.mem_cons_self
    exact absurd (.nest hs) (hnone _)
  | collect attr indices =>
    have hindices : ∀ index ∈ indices, index < children.length := fun index hindex ↦
      href index (List.mem_cons_of_mem _ (List.mem_map.mpr ⟨index, hindex, rfl⟩))
    obtain ⟨x, hx⟩ := exists_contributes_collect hindices
    exact absurd hx (hnone x)

/-- Whether a structure can be above the result of an operation: the operation does not reject the
children, and the structure is above what it contributes. -/
def Allows (children : List Structure) (x : Structure) (op : Operation) : Prop :=
  ¬op.Rejects children ∧ ∀ s, op.Contributes children s → s.Below x

variable {built x : Structure}

theorem apply_below_iff (href : ∀ index, .child index ∈ op.references → index < children.length) :
    (∃ next, op.apply children built = .ok (some next) ∧ next.Below x) ↔
      built.Below x ∧ op.Allows children x := by
  by_cases hrejects : op.Rejects children
  · rw [hrejects.apply_eq]
    simp [Allows, hrejects]
  · by_cases hsome : ∃ s, op.Contributes children s
    · obtain ⟨s, hs⟩ := hsome
      have honly : op.Allows children x ↔ s.Below x :=
        ⟨fun h ↦ h.2 s hs, fun h ↦ ⟨hrejects, fun t ht ↦ hs.unique ht ▸ h⟩⟩
      simp only [hs.apply_eq, Except.ok.injEq, honly]
      exact Structure.unify_below_iff
    · have hnone : ∀ s, ¬op.Contributes children s := not_exists.mp hsome
      have hall : op.Allows children x := ⟨hrejects, fun s hs ↦ absurd hs (hnone s)⟩
      simp [apply_eq_of_no_contribution href hrejects hnone, hall]

/-- What is above the result of some operations is what is above all their contributions, provided
that none of them rejects the children. -/
theorem applyAll_below_iff {ops : List Operation}
    (href : ∀ op ∈ ops, ∀ index, .child index ∈ op.references → index < children.length) :
    (∃ last, applyAll children built ops = .ok (some last) ∧ last.Below x) ↔
      built.Below x ∧ ∀ op ∈ ops, op.Allows children x := by
  induction ops generalizing built with
  | nil => simp [applyAll]
  | cons op rest ih =>
    obtain ⟨hop, hrest⟩ := List.forall_mem_cons.mp href
    rw [List.forall_mem_cons, ← and_assoc, ← apply_below_iff hop, applyAll]
    obtain ⟨outcome, houtcome⟩ := apply_total built hop
    rw [houtcome]
    cases outcome with
    | none => simp
    | some next => simpa using ih hrest

theorem fits_canonical (hwritten : ∀ s ∈ op.written, s.Canonical) : op.Fits .canonical := by
  cases op with
  | fixed features =>
    exact Structure.canonical_iff_features.mp (hwritten features List.mem_cons_self)
  | collect => exact ⟨trivial, trivial⟩
  | child | copy | check | agree | nest => exact trivial

end Operation

theorem Structure.unifyAll_eq_foldlM {built : Structure} {all : List Structure} :
    built.unifyAll all = all.foldlM unify built := by
  induction all generalizing built with
  | nil => rfl
  | cons s rest ih =>
    rw [unifyAll, List.foldlM_cons]
    exact Option.bind_congr fun next _ ↦ ih

end

/-! ## Productions -/

namespace Production

/-- The operations of a production; where none are given, all children are unified. -/
def steps (rule : Production) : List Operation :=
  if rule.operations.isEmpty then (List.range rule.pattern.length).map .child else rule.operations

/-- Whether a structure is above everything that a production gathers from its children. -/
def BoundedBy (rule : Production) (children : List Structure) (x : Structure) : Prop :=
  ∀ op ∈ rule.steps, ∀ s, op.Contributes children s → s.Below x

variable {rule : Production} {children : List Structure} {x : Structure}

theorem forall_steps_allows_iff : (∀ op ∈ rule.steps, op.Allows children x) ↔
    (¬∃ op ∈ rule.steps, op.Rejects children) ∧ rule.BoundedBy children x := by
  simp only [Operation.Allows, BoundedBy, not_exists, not_and]
  exact ⟨fun h ↦ ⟨fun op hop ↦ (h op hop).1, fun op hop ↦ (h op hop).2⟩,
    fun h op hop ↦ ⟨h.1 op hop, h.2 op hop⟩⟩

/-- Children that are all unified are allowed to be what is above each of them. -/
theorem forall_child_allows_iff : (∀ op ∈ (List.range children.length).map Operation.child,
    op.Allows children x) ↔ ∀ s ∈ children, s.Below x := by
  simp only [List.forall_mem_map, List.mem_range]
  constructor
  · intro h s hs
    obtain ⟨index, hindex, rfl⟩ := List.getElem_of_mem hs
    exact (h index hindex).2 _ (.child (List.getElem?_eq_getElem hindex))
  · intro h index hindex
    refine ⟨nofun, ?_⟩
    rintro s ⟨hchild⟩
    exact h s (List.mem_of_getElem? hchild)

/-- A production has a pattern for each of the children and refers to no others, and the structures
that are written in it are canonical, as those of the children are. -/
structure Suits (rule : Production) (children : List Structure) : Prop where
  length_eq : rule.pattern.length = children.length
  lt_of_reference : ∀ op ∈ rule.operations, ∀ index, .child index ∈ op.references →
    index < children.length
  children_canonical : ∀ s ∈ children, s.Canonical
  written_canonical : ∀ op ∈ rule.operations, ∀ s ∈ op.written, s.Canonical

namespace Suits

/-- What is above the result of a production is what all of its steps allow. -/
theorem combine_below_iff (h : rule.Suits children) :
    (∃ features, rule.combine children = .ok (some features) ∧ features.Below x) ↔
      ∀ op ∈ rule.steps, op.Allows children x := by
  have hempty : Structure.empty.Below x := Structure.below_nil x
  rw [combine, steps]
  split
  · rw [h.length_eq, forall_child_allows_iff, Structure.unifyAll_eq_foldlM]
    simp only [Except.ok.injEq]
    rw [Structure.findsJoins_unify.foldlM_below_iff Structure.canonical_empty h.children_canonical,
      and_iff_right hempty]
  · rw [Operation.applyAll_below_iff h.lt_of_reference, and_iff_right hempty]

theorem canonical_of_combine (h : rule.Suits children) {features : Structure}
    (hcombine : rule.combine children = .ok (some features)) : features.Canonical := by
  refine Structure.canonical_iff_features.mpr (Trait.combine ?_ ?_ hcombine)
  · exact fun s hs ↦ Structure.canonical_iff_features.mp (h.children_canonical s hs)
  · exact fun op hop ↦ Operation.fits_canonical (h.written_canonical op hop)

/-- A production makes nothing of its children just if one of its steps rejects them or nothing is
above all contributions; otherwise it makes the least structure above all contributions. -/
theorem least_of_combine (h : rule.Suits children) {outcome : Option Structure}
    (hcombine : rule.combine children = .ok outcome) :
    (outcome = none ↔ (∃ op ∈ rule.steps, op.Rejects children) ∨
        ¬∃ x, rule.BoundedBy children x) ∧
      ∀ features, outcome = some features → features.Canonical ∧ rule.BoundedBy children features ∧
        ∀ x, rule.BoundedBy children x → features.Below x := by
  have hmade (features : Structure) (hsome : outcome = some features) : features.Canonical :=
    h.canonical_of_combine (hcombine.trans (congrArg _ hsome))
  have hbounds (x : Structure) : (∃ features, outcome = some features ∧ features.Below x) ↔
      (¬∃ op ∈ rule.steps, op.Rejects children) ∧ rule.BoundedBy children x := by
    simpa only [hcombine, Except.ok.injEq, forall_steps_allows_iff] using
      h.combine_below_iff (x := x)
  obtain ⟨hnone, hleast⟩ :=
    least_of_bounds (fun features hsome ↦ (hmade features hsome).below_refl) hbounds
  constructor
  · rw [hnone, exists_and_left, not_and_or, not_not]
  · intro features hsome
    obtain ⟨⟨haccepts, hbounded⟩, hbelow⟩ := hleast features hsome
    exact ⟨hmade features hsome, hbounded, fun x hx ↦ hbelow x ⟨haccepts, hx⟩⟩

/-- Productions with the same steps, in whatever order and however often, make the same of their
children. -/
theorem combine_congr {other : Production} (h : rule.Suits children) (hother : other.Suits children)
    (hsteps : ∀ op, op ∈ other.steps ↔ op ∈ rule.steps) :
    other.combine children = rule.combine children := by
  obtain ⟨outcome, houtcome⟩ := combine_total h.lt_of_reference
  obtain ⟨changed, hchanged⟩ := combine_total hother.lt_of_reference
  rw [houtcome, hchanged]
  refine congrArg _ (eq_of_same_bounds Structure.findsJoins_unify.below_refl
    Structure.findsJoins_unify.below_antisymm ?_ ?_ fun x ↦ ?_)
  · rintro features rfl
    exact hother.canonical_of_combine hchanged
  · rintro features rfl
    exact h.canonical_of_combine houtcome
  · have hall := hother.combine_below_iff (x := x)
    have hbounds := h.combine_below_iff (x := x)
    simp only [hchanged, houtcome, Except.ok.injEq, hsteps] at hall hbounds
    exact hall.trans hbounds.symm

/-- The order of the operations and their repetition make no difference. -/
theorem combine_of_mem_iff (h : rule.Suits children) {ops : List Operation}
    (hsame : ∀ op, op ∈ ops ↔ op ∈ rule.operations) :
    { rule with operations := ops }.combine children = rule.combine children := by
  have hother : { rule with operations := ops }.Suits children :=
    { h with
      lt_of_reference := fun op hop ↦ h.lt_of_reference op ((hsame op).mp hop)
      written_canonical := fun op hop ↦ h.written_canonical op ((hsame op).mp hop) }
  refine h.combine_congr hother fun op ↦ ?_
  have hempty : ops = [] ↔ rule.operations = [] := by
    simp only [List.eq_nil_iff_forall_not_mem, hsame]
  simp only [steps, List.isEmpty_iff, hempty]
  split
  next => rfl
  next => exact hsame op

/-- A production without operations unifies all children. -/
theorem combine_of_nil (h : rule.Suits children) (hnil : rule.operations = []) :
    { rule with operations := (List.range rule.pattern.length).map .child }.combine children =
      rule.combine children := by
  have hother :
      { rule with operations := (List.range rule.pattern.length).map .child }.Suits children :=
    { h with
      lt_of_reference := by
        intro op hop index hindex
        obtain ⟨number, hnumber, rfl⟩ := List.mem_map.mp hop
        obtain ⟨rfl⟩ := List.mem_singleton.mp hindex
        exact h.length_eq ▸ List.mem_range.mp hnumber
      written_canonical := by
        intro op hop
        obtain ⟨number, -, rfl⟩ := List.mem_map.mp hop
        exact fun s hs ↦ absurd hs List.not_mem_nil }
  refine h.combine_congr hother fun op ↦ ?_
  simp only [steps, hnil]
  split <;> rfl

end Suits

end Production

/-- A valid production comes to a conclusion about as many children as it has patterns. It makes
nothing of them just if one of its steps rejects them or nothing is above all contributions, and the
least structure above all contributions otherwise. The same operations in another order, or
repeated, make the same, and no operations at all make what unifying all children makes. -/
theorem combination_makes_join {table : SymbolTable} {rule : Production} {children : List Structure}
    (hvalid : rule.validate table = .ok ()) (hlength : rule.pattern.length = children.length)
    (hchildren : ∀ s ∈ children, s.Obtainable)
    (hwritten : ∀ op ∈ rule.operations, ∀ s ∈ op.written, s.Obtainable) :
    ∃ outcome, rule.combine children = .ok outcome ∧
      (outcome = none ↔ (∃ op ∈ rule.steps, op.Rejects children) ∨
        ¬∃ x, rule.BoundedBy children x) ∧
      (∀ features, outcome = some features → features.Obtainable ∧
        rule.BoundedBy children features ∧
        ∀ x, rule.BoundedBy children x → features.Below x) ∧
      (∀ ops, (∀ op, op ∈ ops ↔ op ∈ rule.operations) →
        { rule with operations := ops }.combine children = .ok outcome) ∧
      (rule.operations = [] →
        { rule with operations := (List.range rule.pattern.length).map .child }.combine children =
          .ok outcome) := by
  have hsuits : rule.Suits children :=
    { length_eq := hlength
      lt_of_reference := Production.lt_of_reference hvalid hlength
      children_canonical := fun s hs ↦ (hchildren s hs).canonical
      written_canonical := fun op hop s hs ↦ (hwritten op hop s hs).canonical }
  obtain ⟨outcome, houtcome⟩ := Production.combine_total hsuits.lt_of_reference
  obtain ⟨hnone, hleast⟩ := hsuits.least_of_combine houtcome
  refine ⟨outcome, houtcome, hnone, fun features hsome ↦ ?_, fun ops hsame ↦ ?_, fun hnil ↦ ?_⟩
  · obtain ⟨hfeatures, hbest⟩ := hleast features hsome
    exact ⟨Structure.obtainable_iff_canonical.mpr hfeatures, hbest⟩
  · rw [hsuits.combine_of_mem_iff hsame, houtcome]
  · rw [hsuits.combine_of_nil hnil, houtcome]

/-- A phrase of two words that agree in number; it has the case of the second one, its head. -/
def phraseRule : Production where
  name := "phrase"
  pattern := [.any, .any]
  result := ⟨5⟩
  operations := [.agree ⟨1⟩ 0 1, .copy 1 ⟨0⟩, .nest ⟨2⟩ 1]

/-- An adjective and a noun, both in the singular. -/
def adjectiveAndNoun : List Structure := [[(⟨1⟩, .atom ⟨4⟩)], [(⟨0⟩, .atom ⟨3⟩), (⟨1⟩, .atom ⟨4⟩)]]

/-- The phrase is made in any order of the operations, also if some of them are repeated. -/
theorem combination_makes_join_phrase : ∃ features,
    { phraseRule with
        operations := [.nest ⟨2⟩ 1, .copy 1 ⟨0⟩, .nest ⟨2⟩ 1, .agree ⟨1⟩ 0 1] }.combine
          adjectiveAndNoun = .ok (some features) ∧
      phraseRule.BoundedBy adjectiveAndNoun features ∧
      features.get? ⟨0⟩ = some (.atom ⟨3⟩) ∧ features.get? ⟨1⟩ = some (.atom ⟨4⟩) := by
  have hchildren : ∀ s ∈ adjectiveAndNoun, s.Obtainable := by
    have hadjective : Structure.Obtainable [(⟨1⟩, .atom ⟨4⟩)] := .single _ (.atom _)
    have hadd : (Structure.single ⟨0⟩ (.atom ⟨3⟩)).add? ⟨1⟩ (.atom ⟨4⟩) =
        some [(⟨0⟩, .atom ⟨3⟩), (⟨1⟩, .atom ⟨4⟩)] := by rfl
    have hnoun : Structure.Obtainable [(⟨0⟩, .atom ⟨3⟩), (⟨1⟩, .atom ⟨4⟩)] :=
      .add (.single _ (.atom _)) (.atom _) hadd
    simpa [adjectiveAndNoun] using ⟨hadjective, hnoun⟩
  have hvalid : phraseRule.validate
      (.ofNames ["case", "number", "head", "nominative", "singular", "phrase"]) = .ok () := rfl
  have hwritten : ∀ op ∈ phraseRule.operations, ∀ s ∈ op.written, s.Obtainable := by
    simp [phraseRule, Operation.written]
  obtain ⟨outcome, hcombine, -, hleast, hsame, -⟩ :=
    combination_makes_join hvalid rfl hchildren hwritten
  obtain rfl : some _ = outcome := Except.ok.inj hcombine
  refine ⟨_, hsame _ ?_, (hleast _ rfl).2.1, rfl, rfl⟩
  simp [phraseRule, or_comm, or_left_comm]

end Morphology
