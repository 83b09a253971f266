import Morphology.Rule.Production
import Morphology.Error
import Morphology.Structure.Unification

/-!
# Combination of structures

Building the structure of a new node from the structures of its children, operation by
operation. The structures may contradict each other; then there is no new node.
-/

namespace Morphology

/-- The structure of a child. -/
def childFeatures (children : List Structure) (index : Nat) : Except Defect Structure :=
  match children[index]? with
  | some features => .ok features
  | none => .error (.childOutOfRange index children.length)

theorem childFeatures_eq_ok_iff {children : List Structure} {index : Nat} {s : Structure} :
    childFeatures children index = .ok s ↔ children[index]? = some s := by
  rw [childFeatures]
  cases children[index]? <;> simp

namespace Operation

/-- Adds what two children have as the value of an attribute, each of which may have none. -/
def agreeOn (built : Structure) (attr : Symbol) : Option Value → Option Value → Option Structure
  | some v, some w => (v.unify w).bind (built.add? attr)
  | some v, none => built.add? attr v
  | none, some w => built.add? attr w
  | none, none => some built

/-- Carries an operation out on the structure built so far; none tells of a contradiction. -/
def apply (children : List Structure) (built : Structure) :
    Operation → Except Defect (Option Structure)
  | child index => do
    return built.unify (← childFeatures children index)
  | fixed features => return built.unify features
  | copy index attr => do
    match (← childFeatures children index).get? attr with
    | some value => return built.add? attr value
    | none => return some built
  | check index features => do
    return ((← childFeatures children index).unify features).map fun _ ↦ built
  | agree attr left right => do
    let a := (← childFeatures children left).get? attr
    let b := (← childFeatures children right).get? attr
    return agreeOn built attr a b
  | nest attr index => do
    return built.add? attr (.nested (← childFeatures children index))
  | collect attr indices => do
    return built.add? attr (.list ((← indices.mapM (childFeatures children)).map .nested))

section

variable {children : List Structure} {index left right : Nat} {s t : Structure} (built : Structure)

theorem apply_child (h : children[index]? = some s) :
    (child index).apply children built = .ok (built.unify s) := by
  rw [apply, childFeatures_eq_ok_iff.mpr h]
  rfl

theorem apply_copy (attr : Symbol) (h : children[index]? = some s) :
    (copy index attr).apply children built =
      .ok ((s.get? attr).elim (some built) (built.add? attr)) := by
  rw [apply, childFeatures_eq_ok_iff.mpr h]
  cases hvalue : s.get? attr <;> simp only [bind, Except.bind, hvalue] <;> rfl

theorem apply_check (features : Structure) (h : children[index]? = some s) :
    (check index features).apply children built = .ok ((s.unify features).map fun _ ↦ built) := by
  rw [apply, childFeatures_eq_ok_iff.mpr h]
  rfl

theorem apply_agree (attr : Symbol) (hleft : children[left]? = some s)
    (hright : children[right]? = some t) :
    (agree attr left right).apply children built =
      .ok (agreeOn built attr (s.get? attr) (t.get? attr)) := by
  rw [apply, childFeatures_eq_ok_iff.mpr hleft, childFeatures_eq_ok_iff.mpr hright]
  rfl

theorem apply_nest (attr : Symbol) (h : children[index]? = some s) :
    (nest attr index).apply children built = .ok (built.add? attr (.nested s)) := by
  rw [apply, childFeatures_eq_ok_iff.mpr h]
  rfl

theorem apply_collect {indices : List Nat} {all : List Structure} (attr : Symbol)
    (h : indices.mapM (childFeatures children) = .ok all) :
    (collect attr indices).apply children built =
      .ok (built.add? attr (.list (all.map .nested))) := by
  rw [apply, h]
  rfl

end

/-- Carries operations out one after the other. -/
def applyAll (children : List Structure) (built : Structure) :
    List Operation → Except Defect (Option Structure)
  | [] => .ok (some built)
  | op :: rest =>
    match op.apply children built with
    | .error defect => .error defect
    | .ok none => .ok none
    | .ok (some built) => applyAll children built rest

end Operation

namespace Structure

/-- Unifies structures one after the other. -/
def unifyAll (built : Structure) : List Structure → Option Structure
  | [] => some built
  | s :: rest => (built.unify s).bind fun built ↦ unifyAll built rest

end Structure

/-- The structure that a production builds from the structures of its children. -/
def Production.combine (rule : Production) (children : List Structure) :
    Except Defect (Option Structure) :=
  if rule.operations.isEmpty then .ok (Structure.empty.unifyAll children)
  else Operation.applyAll children .empty rule.operations

end Morphology
