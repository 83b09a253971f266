import Morphology.Proofs.Search.Ways
import Morphology.Search.Universe

/-!
# Loops over what is left to do

A recursion that follows several things in turn can be carried out by a loop: in each round, one
thing is taken from what is left to do, and what it leads to is put in its place. The loop need not
come to an end. It does when whatever a thing leads to is smaller than the thing itself.
-/

namespace Morphology

namespace Search

variable {α β : Type}

/-- Carries out so many rounds of a loop at most; there is no result if something is left to do
after them. -/
def rounds (visit : α → Search (List β × List α)) : List α → Nat → Search (Option (List β))
  | [], _ => pure (some [])
  | _ :: _, 0 => pure none
  | a :: rest, n + 1 => do
    let (found, next) ← visit a
    let later ← rounds visit (next ++ rest) n
    return later.map (found ++ ·)

/-- A search that is made in rounds comes to what another search comes to, once there are enough
rounds. -/
def Settles (search : Nat → Search (Option α)) (outcome : Search α) : Prop :=
  ∃ enough, ∀ n, enough ≤ n → search n = some <$> outcome

section

variable {visit : α → Search (List β × List α)} {follow : α → Search (List β)} {a : α}
  {rest : List α}

/-- One round takes care of one thing, if the loop takes care of what this leads to. -/
theorem settles_rounds_cons (hmetered : ∀ a, (visit a).Metered)
    (hfollow : ∀ a, follow a = do
      let (found, next) ← visit a
      return found ++ (← Execution.inTurn follow next))
    (h : ∀ found next, (visit a).Yields (found, next) →
      Settles (rounds visit (next ++ rest)) (Execution.inTurn follow (next ++ rest))) :
    Settles (rounds visit (a :: rest)) (Execution.inTurn follow (a :: rest)) := by
  have henough : ∃ enough, ∀ n, enough ≤ n → ∀ found next, (visit a).Yields (found, next) →
      rounds visit (next ++ rest) n = some <$> Execution.inTurn follow (next ++ rest) := by
    cases hresult : (visit a).result with
    | error e =>
      refine ⟨0, fun n _ found next hyields ↦ ?_⟩
      exact absurd (hresult.symm.trans ((hmetered a).yields_iff.mp hyields)) nofun
    | ok value =>
      obtain ⟨enough, hrounds⟩ := h value.1 value.2 ((hmetered a).yields_iff.mpr hresult)
      refine ⟨enough, fun n hn found next hyields ↦ ?_⟩
      obtain rfl := Except.ok.inj (hresult.symm.trans ((hmetered a).yields_iff.mp hyields))
      exact hrounds n hn
  obtain ⟨enough, hrounds⟩ := henough
  refine ⟨enough + 1, fun n hn ↦ ?_⟩
  obtain ⟨n, rfl⟩ : ∃ m, n = m + 1 := ⟨n - 1, by omega⟩
  have hcontinue : rounds visit (a :: rest) (n + 1) = visit a >>= fun (found, next) ↦ do
      let later ← some <$> Execution.inTurn follow (next ++ rest)
      return later.map (found ++ ·) := by
    rw [rounds]
    refine bind_congr_of_yields fun (found, next) hyields ↦ ?_
    simp only [hrounds n (Nat.le_of_succ_le_succ hn) found next hyields]
  rw [hcontinue, Execution.inTurn, hfollow a]
  simp only [Execution.inTurn_append, map_eq_pure_bind, bind_assoc, pure_bind, Option.map_some,
    List.append_assoc]

/-- A loop whose things lead to smaller ones takes care of all of them. -/
theorem settles_rounds (hmetered : ∀ a, (visit a).Metered)
    (hfollow : ∀ a, follow a = do
      let (found, next) ← visit a
      return found ++ (← Execution.inTurn follow next))
    (size : α → Nat)
    (hsmaller : ∀ a found next, (visit a).Yields (found, next) → ∀ b ∈ next, size b < size a)
    (pending : List α) : Settles (rounds visit pending) (Execution.inTurn follow pending) := by
  suffices hbound : ∀ bound : Nat, ∀ first rest, (∀ a ∈ first, size a < bound) →
      Settles (rounds visit rest) (Execution.inTurn follow rest) →
        Settles (rounds visit (first ++ rest)) (Execution.inTurn follow (first ++ rest)) by
    have hnil : Settles (rounds visit []) (Execution.inTurn follow []) :=
      ⟨0, fun n _ ↦ by simp [rounds, Execution.inTurn]⟩
    have hlarge : ∀ a ∈ pending, size a < (pending.map size).foldr max 0 + 1 := fun a ha ↦
      Nat.lt_succ_of_le (le_foldr_max (.inr (List.mem_map.mpr ⟨a, ha, rfl⟩)))
    have hall := hbound _ pending [] hlarge hnil
    rw [List.append_nil] at hall
    exact hall
  intro bound
  induction bound with
  | zero =>
    intro first rest hfirst hrest
    have hnil : first = [] := List.eq_nil_iff_forall_not_mem.mpr fun a ha ↦
      absurd (hfirst a ha) (Nat.not_lt_zero _)
    rw [hnil]
    exact hrest
  | succ bound ih =>
    intro first rest hfirst hrest
    -- The things in front are taken care of one by one; what one leads to has a smaller bound.
    induction first with
    | nil => exact hrest
    | cons a first iha =>
      obtain ⟨hsize, hfirst⟩ := List.forall_mem_cons.mp hfirst
      refine settles_rounds_cons hmetered hfollow fun found next hyields ↦ ?_
      refine ih next (first ++ rest) (fun b hb ↦ ?_) (iha hfirst)
      exact Nat.lt_of_lt_of_le (hsmaller a found next hyields b hb) (Nat.le_of_lt_succ hsize)

end

end Search

end Morphology
