import Morphology.Proofs.Analysis.Boundaries
import Morphology.Proofs.Analysis.Completeness
import Morphology.Proofs.Text.Stretch

/-!
# Leaves

The leaves of a tree are morphs, which follow one another from the start of what the tree covers to
its end, and the texts that they cover make up the text that the tree covers. This holds of every
part of a tree, whether or not some of the morphs have no characters.
-/

namespace Morphology

namespace Derivation

/-! ## Traversal -/

theorem sizeOf_append_le (ds es : List Derivation) : sizeOf (ds ++ es) ≤ sizeOf ds + sizeOf es := by
  induction ds with
  | nil => exact Nat.le_add_left ..
  | cons d rest ih =>
    rw [List.cons_append, List.cons.sizeOf_spec, List.cons.sizeOf_spec]
    omega

theorem sizeOf_children_lt (d : Derivation) : sizeOf d.children < sizeOf d := by
  cases d
  simp only [mk.sizeOf_spec]
  omega

/-- The leaves of some derivations, found in a loop: one derivation after the other is taken from a
stack, and its children are put in its place. -/
def leavesOfStack : List Derivation → List Derivation
  | [] => []
  | d :: rest =>
    if d.isMorph then d :: leavesOfStack rest else leavesOfStack (d.children ++ rest)
termination_by stack => sizeOf stack
decreasing_by
  · rw [List.cons.sizeOf_spec]
    omega
  -- All children together are smaller than the derivation in whose place they are put.
  · have happend := sizeOf_append_le d.children rest
    have hchildren := d.sizeOf_children_lt
    rw [List.cons.sizeOf_spec]
    omega

theorem leavesOfStack_eq (stack : List Derivation) : leavesOfStack stack = stack.flatMap leaves := by
  fun_induction leavesOfStack stack with
  | case1 => rfl
  | case2 d rest hmorph ih =>
    rw [List.flatMap_cons, leaves_of_nil (List.isEmpty_iff.mp hmorph), ih]
    rfl
  | case3 d rest hmorph ih =>
    have hchildren : d.children ≠ [] := fun hnil ↦ hmorph (List.isEmpty_iff.mpr hnil)
    rw [ih, List.flatMap_append, List.flatMap_cons, leaves_of_ne_nil hchildren]

/-- What holds of a derivation whenever it holds of its children holds of every derivation. -/
theorem induction_children {P : Derivation → Prop}
    (h : ∀ d, (∀ child ∈ d.children, P child) → P d) (d : Derivation) : P d :=
  h d fun child _ ↦ induction_children h child
termination_by sizeOf d
decreasing_by
  rename_i hchild
  exact Nat.lt_trans (List.sizeOf_lt_of_mem hchild) d.sizeOf_children_lt

theorem leaves_nonempty (d : Derivation) : d.leaves ≠ [] := by
  induction d using induction_children with
  | h d ih =>
    by_cases hchildren : d.children = []
    · rw [leaves_of_nil hchildren]
      exact List.cons_ne_nil d []
    · obtain ⟨child, hchild⟩ := List.exists_mem_of_ne_nil _ hchildren
      obtain ⟨leaf, hleaf⟩ := List.exists_mem_of_ne_nil _ (ih child hchild)
      rw [leaves_of_ne_nil hchildren]
      exact List.ne_nil_of_mem (List.mem_flatMap.mpr ⟨child, hchild, hleaf⟩)

/-- The leaves of a derivation are the parts of it that have no children. -/
theorem mem_leaves_iff {d leaf : Derivation} :
    leaf ∈ d.leaves ↔ leaf.IsPartOf d ∧ leaf.children = [] := by
  induction d using induction_children with
  | h d ih =>
    by_cases hchildren : d.children = []
    · rw [leaves_of_nil hchildren, List.mem_singleton]
      constructor
      · rintro rfl
        exact ⟨.refl, hchildren⟩
      · rintro ⟨hpart, -⟩
        rcases hpart.cases_head with rfl | ⟨child, hchild, -⟩
        · rfl
        · rw [hchildren] at hchild
          exact absurd hchild List.not_mem_nil
    · rw [leaves_of_ne_nil hchildren, List.mem_flatMap]
      constructor
      · rintro ⟨child, hchild, hleaf⟩
        obtain ⟨hpart, hnil⟩ := (ih child hchild).mp hleaf
        exact ⟨hpart.head hchild, hnil⟩
      · rintro ⟨hpart, hnil⟩
        rcases hpart.cases_head with rfl | ⟨child, hchild, hpart⟩
        · exact absurd hnil hchildren
        · exact ⟨child, hchild, (ih child hchild).mpr ⟨hpart, hnil⟩⟩

/-! ## Places -/

/-- The children of every part of a derivation cover what the part covers, from left to right. -/
def Tiled (d : Derivation) : Prop :=
  ∀ part : Derivation, part.IsPartOf d → part.children ≠ [] →
    Adjacent part.start (part.children.map span) part.stop

theorem adjacent_flatMap_leaves {ds : List Derivation} {start stop : Nat}
    (h : Adjacent start (ds.map span) stop)
    (hds : ∀ d ∈ ds, Adjacent d.start (d.leaves.map span) d.stop) :
    Adjacent start ((ds.flatMap leaves).map span) stop := by
  induction ds generalizing start with
  | nil => exact h
  | cons d rest ih =>
    obtain ⟨hfirst, hrest⟩ := List.forall_mem_cons.mp hds
    obtain ⟨rfl, hlater⟩ := h
    rw [List.flatMap_cons, List.map_append]
    exact hfirst.append (ih hlater hrest)

/-- The leaves of a derivation cover what it covers, from left to right. -/
theorem Tiled.adjacent_leaves {d : Derivation} (h : d.Tiled) :
    Adjacent d.start (d.leaves.map span) d.stop := by
  induction d using induction_children with
  | h d ih =>
    by_cases hchildren : d.children = []
    · rw [leaves_of_nil hchildren]
      exact ⟨rfl, rfl⟩
    · rw [leaves_of_ne_nil hchildren]
      refine adjacent_flatMap_leaves (h d .refl hchildren) fun child hchild ↦ ?_
      exact ih child hchild fun part hpart ↦ h part (hpart.head hchild)

/-! ## Texts -/

/-- A derivation covers a stretch of a text and shows the characters of the stretch. -/
structure Covers (text : List Char) (d : Derivation) : Prop where
  start_le : d.start ≤ d.stop
  stop_le : d.stop ≤ text.length
  surface : d.surface = String.ofList (slice text d.start d.stop)

/-- Adjacent derivations show the characters of the stretch that they cover together. -/
theorem flatMap_surface {text : List Char} {ds : List Derivation} {start stop : Nat}
    (h : Adjacent start (ds.map span) stop) (hds : ∀ d ∈ ds, d.Covers text) :
    start ≤ stop ∧ ds.flatMap (·.surface.toList) = slice text start stop := by
  induction ds generalizing start with
  | nil =>
    obtain rfl : start = stop := h
    exact ⟨Nat.le_refl _, (slice_self text start).symm⟩
  | cons d rest ih =>
    obtain ⟨hcovers, hrest⟩ := List.forall_mem_cons.mp hds
    obtain ⟨rfl, hlater⟩ := h
    obtain ⟨hstop, hjoin⟩ := ih hlater hrest
    refine ⟨Nat.le_trans hcovers.start_le hstop, ?_⟩
    rw [List.flatMap_cons, hjoin, hcovers.surface, String.toList_ofList]
    exact slice_append_slice hcovers.start_le hstop

/-- The bytes that a derivation shows are those between the offsets of its ends. -/
theorem Covers.bytes {text : String} {d : Derivation} (h : d.Covers text.toList) :
    ∃ first last, (byteOffsets 0 text.toList)[d.start]? = some first ∧
      (byteOffsets 0 text.toList)[d.stop]? = some last ∧
        d.surface.toUTF8 = text.toUTF8.extract first last := by
  refine ⟨_, _, getElem?_byteOffsets (Nat.le_trans h.start_le h.stop_le) 0,
    getElem?_byteOffsets h.stop_le 0, ?_⟩
  rw [h.surface, toUTF8_slice h.start_le, String.ofList_toList, Nat.zero_add, Nat.zero_add]

/-- The leaves of a derivation partition what it covers in a text. -/
structure Partitioned (text : String) (d : Derivation) : Prop where
  leaves_ne_nil : d.leaves ≠ []
  /-- The first leaf starts where the derivation does, each other one where the one before it stops,
  and the last one stops where the derivation does. -/
  adjacent : Adjacent d.start (d.leaves.map span) d.stop
  surface : String.join (d.leaves.map (·.surface)) = d.surface
  /-- A loop with a stack comes across the leaves in this order. -/
  traversal : leavesOfStack [d] = d.leaves
  /-- What is shown are the bytes between two offsets. -/
  bytes : ∃ first last, (byteOffsets 0 text.toList)[d.start]? = some first ∧
    (byteOffsets 0 text.toList)[d.stop]? = some last ∧
      d.surface.toUTF8 = text.toUTF8.extract first last

theorem Tiled.partitioned {text : String} {d : Derivation} (h : d.Tiled)
    (hcovers : ∀ part : Derivation, part.IsPartOf d → part.Covers text.toList) :
    d.Partitioned text where
  leaves_ne_nil := d.leaves_nonempty
  adjacent := h.adjacent_leaves
  surface := by
    have hleaves (leaf : Derivation) (hleaf : leaf ∈ d.leaves) : leaf.Covers text.toList :=
      hcovers leaf (mem_leaves_iff.mp hleaf).1
    apply String.toList_inj.mp
    rw [String.toList_join, List.flatMap_map, (flatMap_surface h.adjacent_leaves hleaves).2,
      (hcovers d .refl).surface, String.toList_ofList]
  traversal := by rw [leavesOfStack_eq, List.flatMap_singleton]
  bytes := (hcovers d .refl).bytes

end Derivation

/-! ## Trees -/

namespace Chart

variable {grammar : Grammar} {text : List Char} {chart : Chart} {id : Nat} {d : Derivation}

theorem covers_of_derivations (h : chart.Justified grammar text)
    (hd : (chart.derivations grammar.rules text)[id]? = some d) : d.Covers text := by
  obtain ⟨node, hnode, rfl⟩ := exists_node_of_derivations h hd
  exact ⟨(marks_ends h id hnode).start_le, (Grammar.within_of_justified h hnode).stop_le, rfl⟩

theorem tiled_of_derivations (h : chart.Justified grammar text)
    (hd : (chart.derivations grammar.rules text)[id]? = some d) : d.Tiled := by
  intro part hpart hchildren
  obtain ⟨number, hnumber⟩ := Grammar.exists_of_isPartOf h rfl ⟨id, hd⟩ hpart
  obtain ⟨node, hnode, rfl⟩ := exists_node_of_derivations h hnumber
  obtain ⟨_, -, -, -, hadjacent, -⟩ := (Grammar.licenses_derivation h hnode).inner hchildren
  exact hadjacent

end Chart

namespace Grammar

variable {grammar : Grammar}

/-- The leaves of every tree of an analysis are morphs that make up the text, and the leaves of each
of its parts make up what the part covers. -/
theorem partitioned_of_mem_trees {options : Options} {text : String} {a : Analysis}
    (h : grammar.analyzeWith options text = .ok a) :
    ∀ tree ∈ a.trees, tree.start = 0 ∧ tree.stop = text.length ∧ tree.surface = text ∧
      (∀ part : Derivation, part.IsPartOf tree → part.Partitioned text) ∧
      ∀ leaf ∈ tree.leaves, leaf.children = [] ∧ ∃ rule ∈ grammar.rules.morphs,
        rule.name = leaf.rule ∧ ∃ morphs,
          (rule.run text.toList grammar.lexicon leaf.start).result = .ok morphs ∧
            ⟨leaf.stop, leaf.features, leaf.tag⟩ ∈ morphs := by
  obtain ⟨s, hyields, htrees⟩ := yields_of_analyzeWith h
  have hjustified := justified_of_search hyields
  intro tree htree
  rw [htrees] at htree
  have hends := ends_of_mem_trees hjustified tree htree
  obtain ⟨id, -, htree⟩ := List.mem_filterMap.mp htree
  have hparts (part : Derivation) (hpart : part.IsPartOf tree) :
      ∃ number : Nat, (s.chart.derivations grammar.rules text.toList)[number]? = some part :=
    exists_of_isPartOf hjustified rfl ⟨id, htree⟩ hpart
  have hcovers (part : Derivation) (hpart : part.IsPartOf tree) : part.Covers text.toList := by
    obtain ⟨number, hnumber⟩ := hparts part hpart
    exact Chart.covers_of_derivations hjustified hnumber
  refine ⟨hends.1, hends.2.trans String.length_toList, ?_, fun part hpart ↦ ?_, fun leaf hleaf ↦ ?_⟩
  · rw [(hcovers tree .refl).surface, hends.1, hends.2, slice_length, String.ofList_toList]
  · obtain ⟨number, hnumber⟩ := hparts part hpart
    exact (Chart.tiled_of_derivations hjustified hnumber).partitioned fun inner hinner ↦
      hcovers inner (hpart.trans hinner)
  · obtain ⟨hpart, hnil⟩ := Derivation.mem_leaves_iff.mp hleaf
    obtain ⟨number, hnumber⟩ := hparts leaf hpart
    obtain ⟨node, hnode, rfl⟩ := Chart.exists_node_of_derivations hjustified hnumber
    exact ⟨hnil, (licenses_derivation hjustified hnode).leaf hnil⟩

/-- A grammar of words that have two letters, any characters, and a mark between them that is not
written. -/
def marked : Grammar where
  symbols := .ofNames ["letter", "mark", "word"]
  lexicon := ∅
  rules :=
    { morphs := [⟨"letter", some ⟨0⟩, [.read (.any 1 (some 1))]⟩, ⟨"mark", some ⟨1⟩, []⟩]
      productions := [⟨"word", [.exactly ⟨0⟩, .exactly ⟨1⟩, .exactly ⟨0⟩], ⟨2⟩, []⟩]
      accepted := [⟨2⟩] }
  rules_valid := by rfl
  lexicon_valid := by rfl

/-- The mark starts and stops where the letters meet. -/
theorem partitioned_of_mem_trees_marked : ∃ a, marked.analyzeWith {} "éß" = .ok a ∧
    a.trees.map (fun tree ↦ tree.leaves.map fun leaf ↦ (leaf.rule, leaf.start, leaf.stop)) =
      [[("letter", 0, 1), ("mark", 1, 1), ("letter", 1, 2)]] ∧
    ∀ tree ∈ a.trees, tree.start = 0 ∧ tree.stop = "éß".length ∧ tree.surface = "éß" ∧
      (∀ part : Derivation, part.IsPartOf tree → part.Partitioned "éß") ∧
      ∀ leaf ∈ tree.leaves, leaf.children = [] ∧ ∃ rule ∈ marked.rules.morphs,
        rule.name = leaf.rule ∧ ∃ morphs,
          (rule.run "éß".toList marked.lexicon leaf.start).result = .ok morphs ∧
            ⟨leaf.stop, leaf.features, leaf.tag⟩ ∈ morphs := by
  have htrees : (marked.treesIn {} "éß" 2).map
      (·.map fun tree ↦ tree.leaves.map fun leaf ↦ (leaf.rule, leaf.start, leaf.stop)) =
        some [[("letter", 0, 1), ("mark", 1, 1), ("letter", 1, 2)]] := by
    decide +kernel
  obtain ⟨trees, hin, htrees⟩ := Option.map_eq_some_iff.mp htrees
  obtain ⟨a, ha, rfl⟩ := analyzeWith_of_treesIn hin
  exact ⟨a, ha, htrees, partitioned_of_mem_trees ha⟩

end Grammar

end Morphology
