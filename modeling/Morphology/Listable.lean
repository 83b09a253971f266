/-!
# Listable properties

A property is listable when some list contains everything that has it. Listable properties are
closed under the ways in which larger things are put together from smaller ones, and a list
without repetitions of things that have such a property cannot grow beyond all bounds.

In a list without repetitions every member has its own place. What is collected without repetitions
from any list stays in the order in which it first occurs, and one more member changes the
collection only if it is new.
-/

namespace Morphology

/-- Some list contains everything that has the property. -/
def Listable {α : Type} (P : α → Prop) : Prop := ∃ all : List α, ∀ a, P a → a ∈ all

namespace Listable

theorem mono {α : Type} {P Q : α → Prop} (h : Listable P) (hle : ∀ a, Q a → P a) : Listable Q :=
  let ⟨all, hcomplete⟩ := h
  ⟨all, fun a hq ↦ hcomplete a (hle a hq)⟩

theorem mem {α : Type} (all : List α) : Listable (· ∈ all) := ⟨all, fun _ h ↦ h⟩

theorem le (n : Nat) : Listable (· ≤ n) :=
  ⟨List.range (n + 1), fun _ h ↦ List.mem_range.mpr (Nat.lt_succ_of_le h)⟩

theorem or {α : Type} {P Q : α → Prop} (hP : Listable P) (hQ : Listable Q) :
    Listable fun a ↦ P a ∨ Q a :=
  let ⟨ps, hp⟩ := hP
  let ⟨qs, hq⟩ := hQ
  ⟨ps ++ qs, fun a h ↦ List.mem_append.mpr (h.imp (hp a) (hq a))⟩

/-- The images of what has a listable property are listable. -/
theorem map {α β : Type} {P : α → Prop} {Q : β → Prop} (f : α → β) (h : Listable P)
    (hcover : ∀ b, Q b → ∃ a, P a ∧ f a = b) : Listable Q :=
  let ⟨all, hcomplete⟩ := h
  ⟨all.map f, fun b hq ↦
    let ⟨a, hp, heq⟩ := hcover b hq
    List.mem_map.mpr ⟨a, hcomplete a hp, heq⟩⟩

theorem prod {α β : Type} {P : α → Prop} {Q : β → Prop} (hP : Listable P) (hQ : Listable Q) :
    Listable fun p : α × β ↦ P p.1 ∧ Q p.2 :=
  let ⟨as, ha⟩ := hP
  let ⟨bs, hb⟩ := hQ
  ⟨as.flatMap fun a ↦ bs.map (a, ·), fun (a, b) ⟨hp, hq⟩ ↦
    List.mem_flatMap.mpr ⟨a, ha a hp, List.mem_map.mpr ⟨b, hb b hq, rfl⟩⟩⟩

/-- Lists of bounded length over a listable property are listable. -/
theorem lists {α : Type} {P : α → Prop} (h : Listable P) :
    ∀ n : Nat, Listable fun l : List α ↦ l.length ≤ n ∧ ∀ a ∈ l, P a
  | 0 => ⟨[[]], fun l ⟨hbound, _⟩ ↦ by simp [List.length_eq_zero_iff.mp (Nat.le_zero.mp hbound)]⟩
  | n + 1 => by
    refine ((mem [[]]).or ((h.prod (lists h n)).map (Q := fun l ↦ ∃ a t, l = a :: t ∧ P a ∧
      t.length ≤ n ∧ ∀ b ∈ t, P b) (fun p ↦ p.1 :: p.2) ?_)).mono ?_
    · rintro _ ⟨a, t, rfl, hp, hbound, hrest⟩
      exact ⟨(a, t), ⟨hp, hbound, hrest⟩, rfl⟩
    · rintro (_ | ⟨a, t⟩) ⟨hbound, hmembers⟩
      · exact .inl (by simp)
      · refine .inr ⟨a, t, rfl, hmembers a (by simp), ?_, fun b hb ↦ hmembers b (by simp [hb])⟩
        simpa using hbound

/-- What has a listable property fits into finitely many places. -/
theorem bound {α : Type} {P : α → Prop} (h : Listable P) :
    ∃ n : Nat, ∀ l : List α, l.Nodup → (∀ a ∈ l, P a) → l.length ≤ n :=
  let ⟨all, hcomplete⟩ := h
  ⟨all.length, fun _ hdistinct hmembers ↦
    hdistinct.length_le_of_subset fun a ha ↦ hcomplete a (hmembers a ha)⟩

end Listable

/-! ## Lists without repetitions -/

/-- In a list without repetition, a member is at one place only. -/
theorem eq_of_getElem?_eq {α : Type} {l : List α} (h : l.Nodup) {i j : Nat} {a : α}
    (hi : l[i]? = some a) (hj : l[j]? = some a) : i = j :=
  (List.getElem?_inj (List.getElem?_eq_some_iff.mp hi).1 h).mp (hi.trans hj.symm)

variable {α : Type} [DecidableEq α]

theorem eraseDups_concat (l : List α) (a : α) :
    (l ++ [a]).eraseDups = if a ∈ l then l.eraseDups else l.eraseDups ++ [a] := by
  rw [List.eraseDups_append]
  by_cases hmem : a ∈ l
  · simp [List.removeAll, hmem]
  · simp [List.removeAll, List.eraseDups_cons, hmem]

theorem nodup_eraseDups (l : List α) : l.eraseDups.Nodup := by
  match l with
  | [] => exact List.nodup_nil
  | a :: rest =>
    rw [List.eraseDups_cons]
    refine List.nodup_cons.mpr ⟨?_, nodup_eraseDups (rest.filter fun b ↦ !b == a)⟩
    rw [List.mem_eraseDups, List.mem_filter]
    simp
termination_by l.length
decreasing_by exact Nat.lt_succ_of_le (List.length_filter_le _ rest)

end Morphology
