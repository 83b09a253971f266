import Mathlib.Data.List.Forall2
import Morphology.Listable
import Morphology.Proofs.Grammar.Interning

/-!
# Numbers of names

Names that are interned one after the other are numbered from zero in the order in which they come
up for the first time. As long as there are not more names than symbols, names and symbols tell
each other, and whatever is interned later does not change that.
-/

namespace Morphology.SymbolTable

/-- Interns names one after the other. -/
def internAll (table : SymbolTable) : List String → List Symbol × SymbolTable
  | [] => ([], table)
  | name :: rest =>
    let (s, table) := table.intern name
    let (symbols, table) := table.internAll rest
    (s :: symbols, table)

/-- What symbols names are given, and what table they leave behind. -/
structure Numbers (names : List String) (symbols : List Symbol) (table : SymbolTable) : Prop where
  /-- A name has the number that it has among the distinct names, from zero on and in the order in
  which these first occur. -/
  symbols_eq : symbols.map Symbol.index = names.map names.eraseDups.idxOf
  size_eq : table.size = names.eraseDups.length
  /-- Names are given the same symbol just if they are the same. -/
  same_iff {i j : Nat} {name other : String} {s t : Symbol} :
    names[i]? = some name → symbols[i]? = some s → names[j]? = some other → symbols[j]? = some t →
      (s = t ↔ name = other)
  /-- A name has a symbol just if the symbol has that name. -/
  find?_iff {name : String} {s : Symbol} : table.find? name = some s ↔ table.name? s = some name
  /-- Whatever else is interned, a symbol keeps its name. -/
  stays {name : String} {s : Symbol} (more : List String) : table.name? s = some name →
    (table.internAll more).2.name? s = some name
  contains_iff {s : Symbol} : table.contains s ↔ s.index < table.size
  /-- The symbols are listed from zero on, each with its name. -/
  listed : table.toList.map (·.1.index) = List.range table.size
  named {entry : Symbol × String} : entry ∈ table.toList → table.name? entry.1 = some entry.2

variable {table later : SymbolTable} {name : String} {names : List String} {s : Symbol}

theorem names_intern (table : SymbolTable) (name : String) :
    (table.intern name).2.names =
      if name ∈ table.names then table.names else table.names ++ [name] := by
  unfold intern
  split
  next s hfound =>
    have hmem : name ∈ table.names := by
      by_contra hnew
      rw [find?_eq_none_iff.mpr hnew] at hfound
      exact absurd hfound nofun
    rw [if_pos hmem]
  next hnone =>
    rw [if_neg (find?_eq_none_iff.mp hnone)]
    rfl

theorem extends_internAll (table : SymbolTable) (names : List String) :
    (table.internAll names).2.Extends table := by
  induction names generalizing table with
  | nil => exact .refl table
  | cons name rest ih => exact (ih _).trans (extends_intern table name)

/-- The names in use are those that were interned, each of them once. -/
theorem names_internAll (table : SymbolTable) (earlier names : List String)
    (h : table.names = earlier.eraseDups) :
    (table.internAll names).2.names = (earlier ++ names).eraseDups := by
  induction names generalizing table earlier with
  | nil => rw [List.append_nil, ← h]; rfl
  | cons name rest ih =>
    have hnames : (table.intern name).2.names = (earlier ++ [name]).eraseDups := by
      rw [names_intern, h, eraseDups_concat]
      simp only [List.mem_eraseDups]
    rw [internAll, ih _ _ hnames, List.append_assoc]
    rfl

/-- The symbols that are given are those by which the names can be found from then on. -/
theorem forall₂_internAll (h : later.Extends (table.internAll names).2) :
    List.Forall₂ (fun name s ↦ later.find? name = some s) names (table.internAll names).1 := by
  induction names generalizing table with
  | nil => exact .nil
  | cons name rest ih =>
    refine .cons ?_ (ih h)
    exact (h.trans (extends_internAll _ rest)).find?_eq (find?_intern table name)

theorem find?_of_internAll (h : later.Extends (table.internAll names).2) {i : Nat}
    (hname : names[i]? = some name) (hs : (table.internAll names).1[i]? = some s) :
    later.find? name = some s := by
  have hanswers := List.forall₂_iff_get.mp (forall₂_internAll h)
  obtain ⟨hi, rfl⟩ := List.getElem?_eq_some_iff.mp hname
  obtain ⟨hi', rfl⟩ := List.getElem?_eq_some_iff.mp hs
  exact hanswers.2 i hi hi'

/-! ## Names and symbols -/

theorem find?_iff_name? (hsize : table.size ≤ UInt32.size) (hdistinct : table.names.Nodup) :
    table.find? name = some s ↔ table.name? s = some name := by
  refine ⟨name?_of_find? hsize, fun h ↦ ?_⟩
  cases hfound : table.names.idxOf? name with
  | none => exact absurd (List.mem_of_getElem? h) (List.idxOf?_eq_none_iff.mp hfound)
  | some index =>
    obtain ⟨hindex, hname, -⟩ := List.idxOf?_eq_some_iff.mp hfound
    have hsame : index = s.index :=
      eq_of_getElem?_eq hdistinct (List.getElem?_eq_some_iff.mpr ⟨hindex, hname⟩) h
    exact find?_eq_some_iff.mpr ⟨index, hfound, hsame ▸ s.ofIndex_index⟩

/-- The number of a symbol is the place of its name. -/
theorem index_eq_idxOf (hdistinct : table.names.Nodup) (h : table.name? s = some name) :
    s.index = table.names.idxOf name :=
  eq_of_getElem?_eq hdistinct h (List.getElem?_idxOf (List.mem_of_getElem? h))

theorem Extends.name?_eq (h : later.Extends table) (hname : table.name? s = some name) :
    later.name? s = some name := by
  obtain ⟨more, hmore⟩ := h
  obtain ⟨hs, -⟩ := List.getElem?_eq_some_iff.mp hname
  rw [name?, ← hmore, List.getElem?_append_left hs]
  exact hname

theorem map_index_toList (hsize : table.size ≤ UInt32.size) :
    table.toList.map (·.1.index) = List.range table.size := by
  have hindex : ∀ entry ∈ table.names.zipIdx, (Symbol.ofIndex entry.2).index = entry.2 := by
    intro entry hentry
    obtain ⟨hlt, -⟩ := List.getElem?_eq_some_iff.mp (List.mem_zipIdx_iff_getElem?.mp hentry)
    exact Symbol.index_ofIndex (Nat.lt_of_lt_of_le hlt hsize)
  calc
    table.toList.map (·.1.index) =
        table.names.zipIdx.map fun entry ↦ (Symbol.ofIndex entry.2).index := List.map_map
    _ = table.names.zipIdx.map (·.2) := List.map_congr_left hindex
    _ = List.range table.size := (List.zipIdx_map_snd 0 _).trans (List.range_eq_range' ..).symm

theorem name?_of_mem_toList (hsize : table.size ≤ UInt32.size) {entry : Symbol × String}
    (h : entry ∈ table.toList) : table.name? entry.1 = some entry.2 := by
  obtain ⟨⟨name, index⟩, hmem, rfl⟩ := List.mem_map.mp h
  have hname : table.names[index]? = some name := List.mem_zipIdx_iff_getElem?.mp hmem
  obtain ⟨hlt, -⟩ := List.getElem?_eq_some_iff.mp hname
  rw [name?, Symbol.index_ofIndex (Nat.lt_of_lt_of_le hlt hsize)]
  exact hname

/-- As long as there are fewer names than symbols, interning numbers them. Names can be looked up at
any time, as that leaves the table as it is. -/
theorem numbers_internAll {names : List String} (hfew : names.eraseDups.length < UInt32.size) :
    Numbers names ((∅ : SymbolTable).internAll names).1 ((∅ : SymbolTable).internAll names).2 := by
  let table := ((∅ : SymbolTable).internAll names).2
  have hnames : table.names = names.eraseDups := names_internAll ∅ [] names rfl
  have hsize : table.size ≤ UInt32.size := by
    rw [size, hnames]
    exact Nat.le_of_lt hfew
  have hdistinct : table.names.Nodup := hnames ▸ nodup_eraseDups names
  have hfound {i : Nat} {name : String} {s : Symbol} (hname : names[i]? = some name)
      (hs : ((∅ : SymbolTable).internAll names).1[i]? = some s) : table.find? name = some s :=
    find?_of_internAll (.refl table) hname hs
  refine
    { symbols_eq := ?_
      size_eq := congrArg List.length hnames
      same_iff := fun hname hs hother ht ↦ ?_
      find?_iff := find?_iff_name? hsize hdistinct
      stays := fun more ↦ (extends_internAll table more).name?_eq
      contains_iff := decide_eq_true_iff
      listed := map_index_toList hsize
      named := name?_of_mem_toList hsize }
  · apply Eq.symm
    rw [← List.forall₂_eq_eq_eq, List.forall₂_map_left_iff, List.forall₂_map_right_iff]
    refine (forall₂_internAll (.refl table)).imp fun name s hfind ↦ ?_
    rw [← hnames]
    exact (index_eq_idxOf hdistinct (name?_of_find? hsize hfind)).symm
  · constructor
    · rintro rfl
      exact eq_of_find? hsize (hfound hname hs) (hfound hother ht)
    · rintro rfl
      exact Option.some.inj ((hfound hname hs).symm.trans (hfound hother ht))

/-- Names with repetitions, one of them empty. -/
def repeatedNames : List String := ["talo", "noun", "talo", "", "noun", "case"]

/-- A name that is repeated has the symbol that it was given first. -/
theorem numbers_internAll_repeated : repeatedNames.eraseDups.length < UInt32.size ∧
    ((∅ : SymbolTable).internAll repeatedNames).1.map Symbol.index = [0, 1, 0, 2, 1, 3] ∧
    ((∅ : SymbolTable).internAll repeatedNames).2.find? "case" = some ⟨3⟩ := by
  have hfew : repeatedNames.eraseDups.length < UInt32.size := by decide
  have hnumbers := numbers_internAll hfew
  refine ⟨hfew, ?_, ?_⟩
  · rw [hnumbers.symbols_eq]
    decide
  · rw [hnumbers.find?_iff]
    decide

end Morphology.SymbolTable
