import Morphology.Structure.Basic

/-!
# Unification

Two structures unify when they do not contradict each other; the result says what both say and
no more. Atoms and texts contradict each other unless they are equal, lists unless they have
equal length and their items agree, and values of different kinds always.
-/

namespace Morphology

namespace Structure

/-- Gives `attr` the value `value`, or, where it has a value already, what `merge` makes of that. -/
def insertWith (merge : Value → Option Value) (attr : Symbol) (value : Value) :
    Structure → Option Structure
  | [] => some [(attr, value)]
  | (a, v) :: rest =>
    if a < attr then (insertWith merge attr value rest).map ((a, v) :: ·)
    else if a = attr then (merge v).map fun merged ↦ (a, merged) :: rest
    else some ((attr, value) :: (a, v) :: rest)

end Structure

mutual

/-- The value that says what both values say, if they do not contradict each other. -/
def Value.unify (v : Value) : Value → Option Value
  | .atom t =>
    match v with
    | .atom s => if s = t then some (.atom s) else none
    | _ => none
  | .text t =>
    match v with
    | .text s => if s = t then some (.text s) else none
    | _ => none
  | .list ws =>
    match v with
    | .list vs => (Value.unifyItems vs ws).map .list
    | _ => none
  | .nested b =>
    match v with
    | .nested a => (Structure.unify a b).map .nested
    | _ => none

/-- Unifies two lists item by item. -/
def Value.unifyItems (vs : List Value) : List Value → Option (List Value)
  | [] => if vs.isEmpty then some [] else none
  | w :: ws =>
    match vs with
    | [] => none
    | v :: vs => (Value.unify v w).bind fun u ↦ (Value.unifyItems vs ws).map (u :: ·)

/-- Adds the pairs of the second structure to the first one, one after the other. -/
def Structure.unify (a : Structure) : Structure → Option Structure
  | [] => some a
  | (attr, w) :: rest =>
    (Structure.insertWith (fun v ↦ Value.unify v w) attr w a).bind fun a ↦ Structure.unify a rest

end

/-! ## What comes out -/

namespace Value

variable {v w u : Value} {vs ws us : List Value}

theorem unify_atom_eq_some_iff {symbol : Symbol} :
    v.unify (.atom symbol) = some u ↔ v = .atom symbol ∧ u = .atom symbol := by
  cases v with
  | atom s =>
    rw [unify, Option.ite_none_right_eq_some, Option.some.injEq, atom.injEq]
    exact and_congr_right fun h ↦ h ▸ eq_comm
  | text | list | nested => simp [unify]

theorem unify_text_eq_some_iff {content : String} :
    v.unify (.text content) = some u ↔ v = .text content ∧ u = .text content := by
  cases v with
  | text s =>
    rw [unify, Option.ite_none_right_eq_some, Option.some.injEq, text.injEq]
    exact and_congr_right fun h ↦ h ▸ eq_comm
  | atom | list | nested => simp [unify]

theorem unify_list_eq_some_iff : v.unify (.list ws) = some u ↔
    ∃ vs us, v = .list vs ∧ u = .list us ∧ unifyItems vs ws = some us := by
  cases v with
  | list vs =>
    rw [unify, Option.map_eq_some_iff]
    constructor
    · rintro ⟨us, hus, rfl⟩
      exact ⟨vs, us, rfl, rfl, hus⟩
    · rintro ⟨_, us, hvs, rfl, hus⟩
      exact ⟨us, list.inj hvs ▸ hus, rfl⟩
  | atom | text | nested => simp [unify]

theorem unify_nested_eq_some_iff {b : Structure} : v.unify (.nested b) = some u ↔
    ∃ a c : Structure, v = .nested a ∧ u = .nested c ∧ a.unify b = some c := by
  cases v with
  | nested a =>
    rw [unify, Option.map_eq_some_iff]
    constructor
    · rintro ⟨c, hc, rfl⟩
      exact ⟨a, c, rfl, rfl, hc⟩
    · rintro ⟨_, c, ha, rfl, hc⟩
      exact ⟨c, nested.inj ha ▸ hc, rfl⟩
  | atom | text | list => simp [unify]

theorem unifyItems_nil_eq_some_iff : unifyItems vs [] = some us ↔ vs = [] ∧ us = [] := by
  cases vs <;> simp [unifyItems, eq_comm]

theorem unifyItems_cons_eq_some_iff : unifyItems vs (w :: ws) = some us ↔
    ∃ v rest u later, vs = v :: rest ∧ us = u :: later ∧ v.unify w = some u ∧
      unifyItems rest ws = some later := by
  cases vs with
  | nil => simp [unifyItems]
  | cons v rest =>
    rw [unifyItems, Option.bind_eq_some_iff]
    constructor
    · rintro ⟨u, hu, h⟩
      obtain ⟨later, hlater, rfl⟩ := Option.map_eq_some_iff.mp h
      exact ⟨v, rest, u, later, rfl, rfl, hu, hlater⟩
    · rintro ⟨_, _, u, later, hcons, rfl, hu, hlater⟩
      obtain ⟨rfl, rfl⟩ := List.cons.inj hcons
      exact ⟨u, hu, by rw [hlater, Option.map_some]⟩

end Value

theorem Structure.unify_nil_eq_some_iff {a c : Structure} : a.unify [] = some c ↔ a = c := by
  rw [unify, Option.some.injEq]

theorem Structure.unify_cons_eq_some_iff {a c rest : Structure} {attr : Symbol} {w : Value} :
    a.unify ((attr, w) :: rest) = some c ↔
      ∃ d, insertWith (·.unify w) attr w a = some d ∧ d.unify rest = some c := by
  rw [unify, Option.bind_eq_some_iff]

/-! ## Structures from pairs -/

namespace Structure

/-- Unifies one attribute into a structure. -/
def add? (s : Structure) (attr : Symbol) (value : Value) : Option Structure :=
  s.unify (single attr value)

/-- Puts a pair before the first one whose attribute is not smaller. -/
def insertSorted (pair : Symbol × Value) : List (Symbol × Value) → List (Symbol × Value)
  | [] => [pair]
  | p :: rest => if p.1 < pair.1 then p :: insertSorted pair rest else pair :: p :: rest

/-- Sorts pairs by attribute; pairs with the same attribute keep their order. -/
def sortPairs (pairs : List (Symbol × Value)) : List (Symbol × Value) :=
  pairs.foldr insertSorted []

/-- Unifies the values of neighbours that have the same attribute. -/
def mergeRuns : List (Symbol × Value) → Option Structure
  | [] => some []
  | (attr, v) :: rest => go attr v rest
where
  /-- Continues a run of `attr` whose values so far unify to `v`. -/
  go (attr : Symbol) (v : Value) : List (Symbol × Value) → Option Structure
    | [] => some [(attr, v)]
    | (a, w) :: rest =>
      if a = attr then (v.unify w).bind fun u ↦ go attr u rest
      else (go a w rest).map ((attr, v) :: ·)

/-- The structure of some pairs in any order, if the values of repeated attributes unify. -/
def ofPairs? (pairs : List (Symbol × Value)) : Option Structure := mergeRuns (sortPairs pairs)

end Structure

end Morphology
