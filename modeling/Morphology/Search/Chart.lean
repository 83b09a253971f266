import Morphology.Structure.Basic
import Std.Data.TreeMap.Lemmas

/-!
# Chart

The chart holds the nodes that a search has found. Nodes are numbered in the order in which they
are found. A node is an item together with its origin; two nodes with the same item count as one,
and the first of them is kept.
-/

namespace Morphology

/-- What a node says about the text: a stretch, its tag and its structure, and the places
strictly inside of the stretch where one morph ends and the next one starts. -/
structure Item where
  start : Nat
  stop : Nat
  tag : Symbol
  features : Structure
  cuts : List Nat
deriving DecidableEq

/-- How a node was found: by a morph rule, or by a production from other nodes. -/
inductive Origin
  | morph (rule : Nat)
  | production (rule : Nat) (children : List Nat)
deriving DecidableEq

structure Node extends Item where
  origin : Origin
deriving DecidableEq

/-- The nodes that a node was made of. -/
def Node.children (node : Node) : List Nat :=
  match node.origin with
  | .morph _ => []
  | .production _ children => children

/-- The positions of the nodes that start at a place of the text. -/
def positionsOfStart (nodes : Array Node) (place : Nat) : List Nat :=
  (List.range nodes.size).filter fun id ↦ nodes[id]?.any (·.start == place)

theorem positionsOfStart_push (nodes : Array Node) (node : Node) (place : Nat) :
    positionsOfStart (nodes.push node) place =
      positionsOfStart nodes place ++ if node.start = place then [nodes.size] else [] := by
  have hearlier : (List.range nodes.size).filter
      (fun id ↦ (nodes.push node)[id]?.any (·.start == place)) =
        positionsOfStart nodes place := by
    refine List.filter_congr fun id hid ↦ ?_
    have hbound : id ≠ nodes.size := Nat.ne_of_lt (List.mem_range.mp hid)
    simp [Array.getElem?_push, hbound]
  simp only [positionsOfStart, Array.size_push, List.range_succ, List.filter_append]
  rw [hearlier]
  by_cases hstart : node.start = place <;> simp [positionsOfStart, hstart]

/-- Numbers of items. Items that start at the same place are kept together. -/
structure ItemMap where
  byStart : Std.TreeMap Nat (List (Item × Nat))

namespace ItemMap

def empty : ItemMap := ⟨∅⟩

/-- The number of an item, if it has one. -/
def get? (map : ItemMap) (item : Item) : Option Nat := (map.byStart.getD item.start []).lookup item

/-- Gives a number to an item. -/
def insert (map : ItemMap) (item : Item) (id : Nat) : ItemMap :=
  ⟨map.byStart.insert item.start ((item, id) :: map.byStart.getD item.start [])⟩

theorem get?_insert (map : ItemMap) (item other : Item) (id : Nat) :
    (map.insert item id).get? other = if item = other then some id else map.get? other := by
  rw [get?, insert, Std.TreeMap.getD_insert]
  by_cases hsame : item = other
  · simp [hsame]
  · have hdiffers : (other == item) = false := beq_eq_false_iff_ne.mpr (Ne.symm hsame)
    by_cases hstart : item.start = other.start <;>
      simp [hstart, hsame, hdiffers, List.lookup_cons, get?]

end ItemMap

structure Chart where
  nodes : Array Node
  /-- The numbers of the nodes by the place where they start. -/
  byStart : Std.TreeMap Nat (List Nat)
  /-- The numbers of the nodes by their items. -/
  seen : ItemMap
  getD_byStart : ∀ place, byStart.getD place [] = positionsOfStart nodes place
  get?_seen : ∀ item id, seen.get? item = some id ↔ nodes[id]?.map Node.toItem = some item
  /-- No two nodes have the same item. -/
  distinct : (nodes.toList.map Node.toItem).Nodup

namespace Chart

/-- A chart without nodes. -/
def empty : Chart where
  nodes := #[]
  byStart := ∅
  seen := .empty
  getD_byStart := by simp [positionsOfStart]
  get?_seen := by simp [ItemMap.empty, ItemMap.get?]
  distinct := by simp

instance : EmptyCollection Chart := ⟨empty⟩
instance : Inhabited Chart := ⟨empty⟩

def size (chart : Chart) : Nat := chart.nodes.size

def get? (chart : Chart) (id : Nat) : Option Node := chart.nodes[id]?

/-- The items of all nodes, in the order of the nodes. -/
def items (chart : Chart) : List Item := chart.nodes.toList.map Node.toItem

@[simp] theorem length_items (chart : Chart) : chart.items.length = chart.size := by
  simp [items, size]

/-- The numbers of the nodes that start at a place, in increasing order. -/
def startingAt (chart : Chart) (place : Nat) : List Nat := chart.byStart.getD place []

/-- The number of the node with an item, if there is one. -/
def find? (chart : Chart) (item : Item) : Option Nat := chart.seen.get? item

theorem mem_startingAt {chart : Chart} {place id : Nat} :
    id ∈ chart.startingAt place ↔ ∃ node, chart.get? id = some node ∧ node.start = place := by
  simp only [startingAt, chart.getD_byStart, positionsOfStart, List.mem_filter, List.mem_range,
    get?, Option.any_eq_true, beq_iff_eq]
  constructor
  · exact fun hnode ↦ hnode.2
  · rintro ⟨node, hnode, hplace⟩
    exact ⟨(Array.getElem?_eq_some_iff.mp hnode).1, node, hnode, hplace⟩

theorem mem_items {chart : Chart} {item : Item} :
    item ∈ chart.items ↔ ∃ id node, chart.get? id = some node ∧ node.toItem = item := by
  simp only [items, List.mem_map, Array.mem_toList_iff, Array.mem_iff_getElem?, get?]
  constructor
  · rintro ⟨node, ⟨id, hnode⟩, heq⟩
    exact ⟨id, node, hnode, heq⟩
  · rintro ⟨id, node, hnode, heq⟩
    exact ⟨node, ⟨id, hnode⟩, heq⟩

theorem find?_eq_some_iff {chart : Chart} {item : Item} {id : Nat} :
    chart.find? item = some id ↔ ∃ node, chart.get? id = some node ∧ node.toItem = item := by
  rw [find?, chart.get?_seen, Option.map_eq_some_iff, get?]

theorem find?_eq_none_iff {chart : Chart} {item : Item} :
    chart.find? item = none ↔ item ∉ chart.items := by
  rw [mem_items, Option.eq_none_iff_forall_ne_some, not_exists]
  exact forall_congr' fun _ ↦ not_congr find?_eq_some_iff

/-- Adds a node with an item of its own under the next number. -/
def push (chart : Chart) (node : Node) (hnew : node.toItem ∉ chart.items) : Chart where
  nodes := chart.nodes.push node
  byStart := chart.byStart.insert node.start (chart.startingAt node.start ++ [chart.size])
  seen := chart.seen.insert node.toItem chart.size
  getD_byStart := by
    intro place
    rw [positionsOfStart_push, Std.TreeMap.getD_insert, ← chart.getD_byStart]
    by_cases hstart : node.start = place <;> simp [hstart, startingAt, size]
  get?_seen := by
    intro item id
    rw [ItemMap.get?_insert, Array.getElem?_push]
    by_cases hsame : node.toItem = item
    · have hother : chart.nodes[id]?.map Node.toItem ≠ some item := by
        intro hfound
        obtain ⟨earlier, hget, rfl⟩ := Option.map_eq_some_iff.mp hfound
        exact hnew (hsame ▸ mem_items.mpr ⟨id, earlier, hget, rfl⟩)
      by_cases hnext : id = chart.nodes.size
      · simp [hsame, hnext, size]
      · simp [hsame, hnext, Ne.symm hnext, size, hother]
    · by_cases hnext : id = chart.nodes.size <;> simp [hsame, hnext, chart.get?_seen]
  distinct := by
    rw [Array.toList_push, List.map_append, List.map_singleton]
    refine List.nodup_append.mpr ⟨chart.distinct, List.pairwise_singleton _ _, ?_⟩
    rintro item hitem _ hlast rfl
    obtain rfl := List.mem_singleton.mp hlast
    exact hnew hitem

/-- Adds a node and tells its number, unless there is a node with the same item. -/
def insert (chart : Chart) (node : Node) : Option Nat × Chart :=
  match h : chart.find? node.toItem with
  | some _ => (none, chart)
  | none => (some chart.size, chart.push node (find?_eq_none_iff.mp h))

theorem insert_of_mem {chart : Chart} {node : Node} (hknown : node.toItem ∈ chart.items) :
    chart.insert node = (none, chart) := by
  rw [insert]
  split
  · rfl
  next hnew => exact absurd hknown (find?_eq_none_iff.mp hnew)

theorem insert_of_not_mem {chart : Chart} {node : Node} (hnew : node.toItem ∉ chart.items) :
    chart.insert node = (some chart.size, chart.push node hnew) := by
  rw [insert]
  split
  next id hfound =>
    obtain ⟨other, hother, hsame⟩ := find?_eq_some_iff.mp hfound
    exact absurd (mem_items.mpr ⟨id, other, hother, hsame⟩) hnew
  · rfl

/-- Adds nodes one after the other and counts those that are new. -/
def insertAll (chart : Chart) : List Node → Nat × Chart
  | [] => (0, chart)
  | node :: rest =>
    let (id, chart) := chart.insert node
    let (count, chart) := chart.insertAll rest
    (count + (if id.isSome then 1 else 0), chart)

theorem items_insert (chart : Chart) (node : Node) :
    (chart.insert node).2.items =
      if node.toItem ∈ chart.items then chart.items else chart.items ++ [node.toItem] := by
  by_cases hknown : node.toItem ∈ chart.items
  · rw [insert_of_mem hknown, if_pos hknown]
  · rw [insert_of_not_mem hknown, if_neg hknown]
    simp [items, push]

theorem size_insert (chart : Chart) (node : Node) :
    (chart.insert node).2.size =
      chart.size + if (chart.insert node).1.isSome then 1 else 0 := by
  by_cases hknown : node.toItem ∈ chart.items
  · simp [insert_of_mem hknown]
  · simp [insert_of_not_mem hknown, push, size]

theorem mem_items_insertAll {chart : Chart} {nodes : List Node} {item : Item} :
    item ∈ (chart.insertAll nodes).2.items ↔
      item ∈ chart.items ∨ ∃ node ∈ nodes, node.toItem = item := by
  induction nodes generalizing chart with
  | nil => simp [insertAll]
  | cons node rest ih =>
    simp only [insertAll, ih, items_insert, List.mem_cons, exists_eq_or_imp, ← or_assoc]
    refine or_congr_left ?_
    split
    next hknown => exact ⟨.inl, fun h ↦ h.elim id fun heq ↦ heq ▸ hknown⟩
    · simp [eq_comm]

theorem size_insertAll (chart : Chart) (nodes : List Node) :
    (chart.insertAll nodes).2.size = chart.size + (chart.insertAll nodes).1 := by
  induction nodes generalizing chart with
  | nil => simp [insertAll]
  | cons node rest ih =>
    simp only [insertAll, ih, size_insert]
    omega

/-- All nodes with their numbers. -/
def entries (chart : Chart) : List (Nat × Node) :=
  chart.nodes.toList.zipIdx.map fun (node, id) ↦ (id, node)

/-- Whether a node ends at a place. -/
def reaches (chart : Chart) (place : Nat) : Bool := chart.nodes.any (·.stop == place)

end Chart

end Morphology
