import Morphology.Proofs.Regex.Promises

/-!
# Expressions over letters

A small engine that keeps what engines promise. Its expressions are made of letters, digits,
anchors, bars and groups. They are read from left to right with the groups that are open, and they
are found by trying all places of a text.
-/

namespace Morphology

inductive Letters
  | empty
  | letter (c : Char)
  | textStart
  | textEnd
  | seq (e f : Letters)
  | alt (e f : Letters)

namespace Letters

def toExpression : Letters → Expression
  | empty => .empty
  | letter c => .one (· == c)
  | textStart => .textStart
  | textEnd => .textEnd
  | seq e f => .seq e.toExpression f.toExpression
  | alt e f => .alt e.toExpression f.toExpression

/-! ## Reading -/

/-- A group that is being read: the branches that are finished, if any, and the last one so far. -/
structure Open where
  branches : Option Letters := none
  last : Letters := empty

namespace Open

def add (group : Open) (e : Letters) : Open := { group with last := seq group.last e }

def contents (group : Open) : Letters :=
  match group.branches with
  | none => group.last
  | some e => alt e group.last

/-- Reads a character that neither opens nor closes a group. -/
def take? (group : Open) (c : Char) : Option Open :=
  if c = '|' then some { branches := some group.contents }
  else if c = '^' then some (group.add textStart)
  else if c = '$' then some (group.add textEnd)
  else if c.isAlphanum then some (group.add (letter c))
  else none

end Open

/-- Reads on in a group, inside of other groups that are open. -/
def read (outer : List Open) (group : Open) : List Char → Option Letters
  | [] => if outer.isEmpty then some group.contents else none
  | '(' :: rest =>
    match rest with
    | '?' :: ':' :: rest => read (group :: outer) {} rest
    | _ => none
  | ')' :: rest =>
    match outer with
    | [] => none
    | next :: outer => read outer (next.add group.contents) rest
  | c :: rest => (group.take? c).bind fun group ↦ read outer group rest

/-- The expression that a text writes. -/
def parse (text : List Char) : Option Expression := (read [] {} text).map toExpression

variable {outer others levels : List Open} {group other level : Open} {text rest : List Char}
  {c : Char} {e : Letters}

theorem read_take (h : group.take? c = some other) :
    read outer group (c :: text) = read outer other text := by
  rw [read]
  · rw [h, Option.bind_some]
  all_goals
    rintro rfl
    exact absurd h nofun

/-- What is read by itself is also read in a group, which can be closed behind it. -/
theorem read_within (h : read outer group text = some e) :
    read (outer ++ level :: levels) group (text ++ ')' :: rest) =
      read levels (level.add e) rest := by
  fun_induction read outer group text with
  | case1 outer group houter =>
    obtain rfl := List.isEmpty_iff.mp houter
    obtain rfl := Option.some.inj h
    rfl
  | case2 | case4 | case5 => cases h
  | case3 outer group rest ih => exact ih h
  | case6 group rest next outer ih => exact ih h
  | case7 outer group c rest _ _ ih =>
    obtain ⟨next, htake, h⟩ := Option.bind_eq_some_iff.mp h
    rw [List.cons_append, read_take htake]
    exact ih next h

/-- What is read in a group closes it somewhere, behind something that is read by itself. -/
theorem exists_of_read_within {whole : Letters}
    (h : read (outer ++ level :: levels) group text = some whole) :
    ∃ inner rest e, text = inner ++ ')' :: rest ∧ read outer group inner = some e := by
  generalize hall : outer ++ level :: levels = all at h
  fun_induction read all group text generalizing outer with
  | case1 all group hnone =>
    obtain rfl := List.isEmpty_iff.mp hnone
    exact absurd hall (by simp)
  | case2 | case4 | case5 => cases h
  | case3 all group rest ih =>
    subst hall
    obtain ⟨inner, rest, e, rfl, hinner⟩ := @ih (group :: outer) rfl h
    exact ⟨'(' :: '?' :: ':' :: inner, rest, e, rfl, hinner⟩
  | case6 group rest next all ih =>
    cases outer with
    | nil => exact ⟨[], rest, group.contents, rfl, rfl⟩
    | cons first outer =>
      obtain ⟨rfl, rfl⟩ := List.cons.inj hall
      obtain ⟨inner, rest, e, rfl, hinner⟩ := ih rfl h
      exact ⟨')' :: inner, rest, e, rfl, hinner⟩
  | case7 all group c rest _ _ ih =>
    obtain ⟨next, htake, h⟩ := Option.bind_eq_some_iff.mp h
    obtain ⟨inner, rest, e, rfl, hinner⟩ := ih next hall h
    exact ⟨c :: inner, rest, e, rfl, (read_take htake).trans hinner⟩

/-- Behind something that is read by itself, there is no group to close. -/
theorem read_unopened (h : read outer group text = some e) :
    read outer group (text ++ ')' :: rest) = none := by
  fun_induction read outer group text with
  | case1 outer group houter =>
    obtain rfl := List.isEmpty_iff.mp houter
    rfl
  | case2 | case4 | case5 => cases h
  | case3 outer group rest ih => exact ih h
  | case6 group rest next outer ih => exact ih h
  | case7 outer group c rest _ _ ih =>
    obtain ⟨next, htake, h⟩ := Option.bind_eq_some_iff.mp h
    rw [List.cons_append, read_take htake]
    exact ih next h

theorem exists_take? (h : group.take? c = some level) (other : Open) :
    ∃ next, other.take? c = some next := by
  unfold Open.take? at h ⊢
  grind

/-- Whether a text can be read depends on how many groups are open, not on what is in them. -/
theorem exists_read (h : read outer group text = some e) (hlength : outer.length = others.length)
    (other : Open) : ∃ f, read others other text = some f := by
  fun_induction read outer group text generalizing others other with
  | case1 outer group houter =>
    obtain rfl := List.isEmpty_iff.mp houter
    obtain rfl := List.eq_nil_of_length_eq_zero hlength.symm
    exact ⟨_, rfl⟩
  | case2 | case4 | case5 => cases h
  | case3 outer group rest ih => exact ih h (congrArg (· + 1) hlength) {}
  | case6 group rest next outer ih =>
    cases others with
    | nil => cases hlength
    | cons first others => exact ih h (Nat.succ.inj hlength) _
  | case7 outer group c rest _ _ ih =>
    obtain ⟨next, htake, h⟩ := Option.bind_eq_some_iff.mp h
    obtain ⟨now, hnow⟩ := exists_take? htake other
    rw [read_take hnow]
    exact ih next h hlength now

/-! ## Anchors around groups -/

theorem parse_eq_some_iff {f : Expression} :
    parse text = some f ↔ ∃ e, read [] {} text = some e ∧ e.toExpression = f :=
  Option.map_eq_some_iff

theorem complete_of_read (h : read [] {} text = some e) : Complete parse text := by
  constructor
  · rw [parse, h]
    rfl
  · rw [parse, read_unopened h]
    rfl

/-- A group and the anchors around it are read into the group that they stand in. -/
theorem read_anchoredGroup {f : Expression} (h : AnchoredGroup parse text f) (group : Open)
    (rest : List Char) : ∃ next, read [] group (text ++ rest) = read [] next rest ∧
      next.branches = group.branches ∧
        next.last.toExpression.Equivalent (.seq group.last.toExpression f) := by
  induction h generalizing group rest with
  | @group inner f _ hparse =>
    obtain ⟨e, he, rfl⟩ := parse_eq_some_iff.mp hparse
    refine ⟨group.add e, ?_, rfl, .refl _⟩
    have hclose : read ([] ++ [group]) {} (inner ++ ')' :: rest) = read [] (group.add e) rest :=
      read_within he
    rw [List.cons_append, List.cons_append, List.cons_append, List.append_assoc]
    exact hclose
  | @start text f _ ih =>
    obtain ⟨next, hread, hbranches, hlast⟩ := ih (group.add textStart) rest
    refine ⟨next, ?_, hbranches, hlast.trans (Expression.equivalent_assoc _ _ _)⟩
    have hanchor : group.take? '^' = some (group.add textStart) := rfl
    rw [List.cons_append, read_take hanchor, hread]
  | @stop text f _ ih =>
    obtain ⟨next, hread, hbranches, hlast⟩ := ih group ('$' :: rest)
    refine ⟨next.add textEnd, ?_, hbranches, ?_⟩
    · have hanchor : next.take? '$' = some (next.add textEnd) := rfl
      rw [List.append_assoc, List.singleton_append, hread, read_take hanchor]
    · exact (hlast.seq (.refl .textEnd)).trans (Expression.equivalent_assoc _ _ _)

theorem parse_anchoredGroup {f : Expression} (h : AnchoredGroup parse text f) :
    ∃ g, parse text = some g ∧ g.Equivalent f := by
  obtain ⟨next, hread, hbranches, hlast⟩ := read_anchoredGroup h {} []
  rw [List.append_nil] at hread
  have hcontents : next.contents = next.last := by
    rw [Open.contents, hbranches]
  refine ⟨next.contents.toExpression, ?_, ?_⟩
  · rw [parse, hread]
    rfl
  · rw [hcontents]
    exact hlast.trans (Expression.equivalent_empty_seq f)

/-! ## Finding -/

/-- The places to which an expression can match from a place. -/
def stops (text : List Char) : Letters → Nat → List Nat
  | empty, i => [i]
  | letter c, i => if text[i]? = some c then [i + 1] else []
  | textStart, i => if Expression.charBefore text i = none then [i] else []
  | textEnd, i => if text[i]? = none then [i] else []
  | seq e f, i => (e.stops text i).flatMap (f.stops text)
  | alt e f, i => e.stops text i ++ f.stops text i

theorem mem_if_singleton {p : Prop} [Decidable p] {i j : Nat} :
    j ∈ (if p then [i] else []) ↔ j = i ∧ p := by
  split
  next h => simp [h]
  next h => simp [h]

theorem mem_stops_iff {i j : Nat} : j ∈ e.stops text i ↔ e.toExpression.Matches text i j := by
  induction e generalizing i j with
  | empty => rw [stops, List.mem_singleton, eq_comm]; rfl
  | letter c =>
    rw [stops, mem_if_singleton, toExpression, Expression.Matches]
    simp
  | textStart =>
    rw [stops, mem_if_singleton, toExpression, Expression.textStart, Expression.Matches,
      Option.isNone_iff_eq_none, eq_comm (a := j)]
  | textEnd =>
    rw [stops, mem_if_singleton, toExpression, Expression.textEnd, Expression.Matches,
      Option.isNone_iff_eq_none, eq_comm (a := j)]
  | seq e f ihe ihf => simp [stops, toExpression, Expression.Matches, ihe, ihf]
  | alt e f ihe ihf => simp [stops, toExpression, Expression.Matches, ihe, ihf]

/-- Tries all places of a text. -/
def found (e : Letters) : Matcher := fun text ↦
  (List.range (text.length + 1)).any fun i ↦ !(e.stops text i).isEmpty

theorem found_iff : e.found text ↔ e.toExpression.FoundIn text := by
  simp only [found, Expression.FoundIn, List.any_eq_true, List.mem_range, Nat.lt_succ_iff,
    Bool.not_eq_true', List.isEmpty_eq_false_iff_exists_mem, mem_stops_iff]

def engine : RegexEngine where
  compile pattern := (read [] {} pattern.toList).map found

theorem engine_follows : engine.Follows parse where
  compiled h := by
    obtain ⟨e, he, rfl⟩ := Option.map_eq_some_iff.mp h
    exact ⟨e.toExpression, parse_eq_some_iff.mpr ⟨e, he, rfl⟩, fun text ↦ found_iff⟩
  anchored := parse_anchoredGroup
  unanchored {text} h := by
    rw [parse, Option.isSome_map, Option.isSome_iff_exists] at h ⊢
    obtain ⟨e, he⟩ := h
    have hanchor : Open.take? {} '^' = some (Open.add {} textStart) := rfl
    rw [read_take hanchor] at he
    exact exists_read he rfl {}
  closed {text} h := by
    rw [parse, Option.isSome_map, Option.isSome_iff_exists] at h
    obtain ⟨e, he⟩ := h
    have hgroup : read ([] ++ [({} : Open)]) {} text = some e := he
    obtain ⟨inner, rest, f, rfl, hinner⟩ := exists_of_read_within hgroup
    exact ⟨inner, rest, rfl, complete_of_read hinner⟩
  unopened {inner rest} h := by
    obtain ⟨e, he⟩ := Option.isSome_iff_exists.mp h.1
    obtain ⟨e, he, -⟩ := parse_eq_some_iff.mp he
    rw [parse, read_unopened he]
    rfl

theorem engine_hasRoomFor (pattern : String) : engine.HasRoomFor parse pattern := by
  intro h
  rw [parse, Option.isSome_map] at h
  rw [engine, Option.isSome_map]
  exact h

end Letters

end Morphology
