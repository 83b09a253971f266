import Mathlib.Data.List.Nodup
import Morphology.Proofs.Search.Ways

/-!
# Agreement of searches

Two searches agree if both fail, or if both succeed with results that belong together and at the
same cost. Which of several failures comes first is left open, and so is when. Whatever is composed
of agreeing parts agrees; when results are put together from those of several searches, it does not
matter in which order these are made.
-/

namespace Morphology

/-- Lists whose members look the same, in some order. -/
def SameUnder {α β κ : Type} (view : α → κ) (look : β → κ) (l : List α) (m : List β) : Prop :=
  (l.map view).Perm (m.map look)

/-- Lists without repetition look the same if each of them has a member with every key that the
other one has, and no two members have the same key. -/
theorem sameUnder_of_keys {α β κ : Type} {key : α → κ} {code : β → κ} {l : List α} {m : List β}
    (hl : l.Nodup) (hm : m.Nodup) (hkey : ∀ a ∈ l, ∀ a' ∈ l, key a = key a' → a = a')
    (hcode : ∀ b ∈ m, ∀ b' ∈ m, code b = code b' → b = b')
    (h : ∀ a ∈ l, ∃ b ∈ m, code b = key a) (h' : ∀ b ∈ m, ∃ a ∈ l, key a = code b) :
    SameUnder key code l m := by
  apply (List.perm_ext_iff_of_nodup (hl.map_on hkey) (hm.map_on hcode)).mpr
  intro k
  rw [List.mem_map, List.mem_map]
  constructor
  · intro ⟨a, ha, hk⟩
    obtain ⟨b, hb, hsame⟩ := h a ha
    exact ⟨b, hb, hsame.trans hk⟩
  · intro ⟨b, hb, hk⟩
    obtain ⟨a, ha, hsame⟩ := h' b hb
    exact ⟨a, ha, hsame.trans hk⟩

namespace Search

variable {α β γ δ : Type}

/-- Two searches succeed at the same cost with results that are related, or both of them fail. -/
inductive Agree (R : α → β → Prop) (x : Search α) (y : Search β) : Prop
  | ok (cost : Nat) (a : α) (b : β) (hx : x.Charges cost (.ok a)) (hy : y.Charges cost (.ok b))
      (related : R a b)
  | error (m n : Nat) (d e : AnalysisError) (hx : x.Charges m (.error d))
      (hy : y.Charges n (.error e))

variable {R : α → β → Prop} {S : γ → δ → Prop} {x : Search α} {y : Search β}

theorem Agree.mono {T : α → β → Prop} (h : Agree R x y) (hRT : ∀ a b, R a b → T a b) :
    Agree T x y := by
  cases h with
  | ok cost a b hx hy related => exact .ok cost a b hx hy (hRT a b related)
  | error m n d e hx hy => exact .error m n d e hx hy

theorem Agree.metered_right (h : Agree R x y) : y.Metered := by
  cases h with
  | ok cost a b hx hy related => exact hy.metered
  | error m n d e hx hy => exact hy.metered

theorem agree_pure {a : α} {b : β} (h : R a b) : Agree R (pure a) (pure b) :=
  .ok 0 a b (charges_pure a) (charges_pure b) h

theorem Metered.agree_refl (hx : x.Metered) : Agree Eq x x := by
  unfold Metered at hx
  cases hresult : x.result with
  | ok a => exact .ok x.cost a a (hresult ▸ hx) (hresult ▸ hx) rfl
  | error e => exact .error x.cost x.cost e e (hresult ▸ hx) (hresult ▸ hx)

/-- What follows agreeing searches must agree only for results that they come to. -/
theorem Agree.bind {f : α → Search γ} {g : β → Search δ} (h : Agree R x y)
    (hf : ∀ a b, x.result = .ok a → y.result = .ok b → R a b → Agree S (f a) (g b)) :
    Agree S (x >>= f) (y >>= g) := by
  cases h with
  | ok cost a b hx hy related =>
    cases hf a b hx.result_eq hy.result_eq related with
    | ok more c d hc hd related =>
      exact .ok (cost + more) c d (hx.bind_ok hc) (hy.bind_ok hd) related
    | error m n d e hd he => exact .error (cost + m) (cost + n) d e (hx.bind_ok hd) (hy.bind_ok he)
  | error m n d e hx hy => exact .error m n d e hx.bind_error hy.bind_error

theorem Agree.step (h : Agree R x y) :
    Agree R (Search.step >>= fun _ ↦ x) (Search.step >>= fun _ ↦ y) :=
  metered_step.agree_refl.bind fun _ _ _ _ _ ↦ h

theorem Agree.trans {z : Search γ} {T : β → γ → Prop} {U : α → γ → Prop} (h : Agree R x y)
    (h' : Agree T y z) (hU : ∀ a b c, R a b → T b c → U a c) : Agree U x z := by
  cases h with
  | ok cost a b hx hy related =>
    cases h' with
    | ok more b' c hy' hz related' =>
      obtain rfl : b = b' := Except.ok.inj (hy.result_eq.symm.trans hy'.result_eq)
      obtain rfl : cost = more := hy.cost_eq.symm.trans hy'.cost_eq
      exact .ok cost a c hx hz (hU a b c related related')
    | error m n d e hy' hz => exact absurd (hy.result_eq.symm.trans hy'.result_eq) nofun
  | error m n d e hx hy =>
    cases h' with
    | ok cost b c hy' hz related => exact absurd (hy.result_eq.symm.trans hy'.result_eq) nofun
    | error m' n' d' e' hy' hz => exact .error m n' d e' hx hz

/-- It does not matter which of two searches is made first. -/
theorem agree_swap (hx : x.Metered) (hy : y.Metered) {f : α → β → Search γ}
    {g : α → β → Search δ} (h : ∀ a b, Agree S (f a b) (g a b)) :
    Agree S (x >>= fun a ↦ y >>= fun b ↦ f a b) (y >>= fun b ↦ x >>= fun a ↦ g a b) := by
  unfold Metered at hx hy
  cases hresult : x.result with
  | error d =>
    rw [hresult] at hx
    cases hother : y.result with
    | error e =>
      rw [hother] at hy
      exact .error _ _ d e hx.bind_error hy.bind_error
    | ok b =>
      rw [hother] at hy
      exact .error _ _ d d hx.bind_error (hy.bind_ok hx.bind_error)
  | ok a =>
    rw [hresult] at hx
    cases hother : y.result with
    | error e =>
      rw [hother] at hy
      exact .error _ _ e e (hx.bind_ok hy.bind_error) hy.bind_error
    | ok b =>
      rw [hother] at hy
      cases h a b with
      | ok cost c d hc hd related =>
        refine .ok (x.cost + (y.cost + cost)) c d (hx.bind_ok (hy.bind_ok hc)) ?_ related
        rw [Nat.add_left_comm]
        exact hy.bind_ok (hx.bind_ok hd)
      | error m n d e hd he =>
        exact .error _ _ d e (hx.bind_ok (hy.bind_ok hd)) (hy.bind_ok (hx.bind_ok he))

/-- A value and a defect are not distinguished further by going on with them. -/
theorem agree_orFail {κ : Type} {view : α → κ} {look : β → κ} {value : Except Defect α}
    {other : Except Defect β} (rule : String) (h : value.map view = other.map look) :
    Agree (fun a b ↦ view a = look b) (orFail rule value) (orFail rule other) := by
  cases value with
  | error d =>
    cases other with
    | error e => exact .error 0 0 _ _ (charges_fail rule d) (charges_fail rule e)
    | ok b => exact absurd h nofun
  | ok a =>
    cases other with
    | error e => exact absurd h nofun
    | ok b => exact agree_pure (Except.ok.inj h)

theorem agree_foldlM {f : α → γ → Search α} {g : β → γ → Search β} {l : List γ}
    (h : ∀ a b, ∀ c ∈ l, R a b → Agree R (f a c) (g b c)) {a : α} {b : β} (hab : R a b) :
    Agree R (l.foldlM f a) (l.foldlM g b) := by
  induction l generalizing a b with
  | nil => exact agree_pure hab
  | cons c rest ih =>
    obtain ⟨hfirst, hrest⟩ : (∀ a b, R a b → Agree R (f a c) (g b c)) ∧
        ∀ a b, ∀ c ∈ rest, R a b → Agree R (f a c) (g b c) :=
      ⟨fun a b ↦ h a b c List.mem_cons_self, fun a b d hd ↦ h a b d (List.mem_cons_of_mem c hd)⟩
    rw [List.foldlM_cons, List.foldlM_cons]
    exact (hfirst a b hab).bind fun a b _ _ hab ↦ ih hrest hab

/-- Agreeing searches do the same when nothing limits them. -/
theorem Agree.outcome_unlimited (h : Agree R x y) :
    (∃ cost a b, x.outcome { limit := none } = (.ok a, { limit := none, used := cost }) ∧
      y.outcome { limit := none } = (.ok b, { limit := none, used := cost }) ∧ R a b) ∨
    ∃ d e before after, x.outcome { limit := none } = (.error d, before) ∧
      y.outcome { limit := none } = (.error e, after) := by
  cases h with
  | ok cost a b hx hy related =>
    exact .inl ⟨cost, a, b, hx.outcome_unlimited, hy.outcome_unlimited, related⟩
  | error m n d e hx hy =>
    exact .inr ⟨d, e, _, _, hx.outcome_unlimited, hy.outcome_unlimited⟩

end Search

/-! ## Searches in any order -/

section

variable {α β γ δ κ ι : Type}

/-- The search that is made first may as well be made in between. -/
theorem Execution.agree_inTurn_middle {follow : α → Search (List γ)}
    (h : ∀ a, (follow a).Metered) (a : α) (before after : List α) :
    Search.Agree List.Perm (inTurn follow (a :: (before ++ after)))
      (inTurn follow (before ++ a :: after)) := by
  have hafter : Search.Agree Eq (inTurn follow after) (inTurn follow after) :=
    (metered_inTurn fun b _ ↦ h b).agree_refl
  have hswap : Search.Agree List.Perm
      (do
        let first ← follow a
        let second ← inTurn follow before
        let third ← inTurn follow after
        return first ++ (second ++ third))
      (do
        let second ← inTurn follow before
        let first ← follow a
        let third ← inTurn follow after
        return second ++ (first ++ third)) := by
    apply Search.agree_swap (h a) (metered_inTurn fun b _ ↦ h b)
    intro first second
    apply hafter.bind
    intro third third' _ _ heq
    subst heq
    exact Search.agree_pure (List.perm_append_comm_assoc first second third)
  simp only [inTurn, inTurn_append, bind_assoc, pure_bind]
  exact hswap

/-- Searches that are made in turn for members with the same keys find the same, if those for
members with the same key do. -/
theorem Execution.agree_inTurn {follow : α → Search (List γ)} {other : β → Search (List δ)}
    {key : α → κ} {code : β → κ} {view : γ → ι} {look : δ → ι} {l : List α} {m : List β}
    (hmetered : ∀ b, (other b).Metered) (hperm : SameUnder key code l m)
    (hagree : ∀ a ∈ l, ∀ b ∈ m, key a = code b →
      Search.Agree (SameUnder view look) (follow a) (other b)) :
    Search.Agree (SameUnder view look) (inTurn follow l) (inTurn other m) := by
  induction l generalizing m with
  | nil =>
    obtain rfl : m = [] := List.map_eq_nil_iff.mp (List.nil_perm.mp hperm)
    exact Search.agree_pure (List.Perm.refl [])
  | cons a rest ih =>
    -- The partner of the first member is taken out of the middle of the other list.
    have hmem : key a ∈ m.map code := List.Perm.subset hperm List.mem_cons_self
    obtain ⟨b, hb, hcode⟩ := List.mem_map.mp hmem
    obtain ⟨before, after, rfl⟩ := List.append_of_mem hb
    have hrest : SameUnder key code rest (before ++ after) := by
      unfold SameUnder at hperm ⊢
      rw [List.map_append, List.map_cons, List.map_cons, hcode] at hperm
      rw [List.map_append]
      exact (hperm.trans List.perm_middle).cons_inv
    have hlater : Search.Agree (SameUnder view look) (inTurn follow rest)
        (inTurn other (before ++ after)) := by
      apply ih hrest
      intro c hc d hd
      apply hagree c (List.mem_cons_of_mem a hc) d
      exact List.mem_append.mpr ((List.mem_append.mp hd).imp_right (List.mem_cons_of_mem b))
    have hfirst : Search.Agree (SameUnder view look) (inTurn follow (a :: rest))
        (inTurn other (b :: (before ++ after))) := by
      apply (hagree a List.mem_cons_self b hb hcode.symm).bind
      intro found found' _ _ hfound
      apply hlater.bind
      intro more more' _ _ hmore
      apply Search.agree_pure
      unfold SameUnder
      rw [List.map_append, List.map_append]
      exact hfound.append hmore
    exact hfirst.trans (agree_inTurn_middle hmetered b before after)
      fun found more last hmore hlast ↦ hmore.trans (hlast.map look)

/-- The same searches, or agreeing ones, find the same when they are made in another order. -/
theorem Execution.agree_inTurn_perm {follow other : α → Search (List γ)} {l m : List α}
    (hperm : l.Perm m) (hagree : ∀ a, Search.Agree List.Perm (follow a) (other a)) :
    Search.Agree List.Perm (inTurn follow l) (inTurn other m) := by
  have hsame : SameUnder id id l m := by
    unfold SameUnder
    rw [List.map_id, List.map_id]
    exact hperm
  have hviews : Search.Agree (SameUnder id id) (inTurn follow l) (inTurn other m) := by
    apply agree_inTurn (fun a ↦ (hagree a).metered_right) hsame
    intro a _ b _ hab
    subst hab
    apply (hagree a).mono
    intro found found' hfound
    exact hfound.map id
  apply hviews.mono
  intro found found' hfound
  unfold SameUnder at hfound
  rw [List.map_id, List.map_id] at hfound
  exact hfound

theorem Search.mapM_eq_inTurn (f : α → Search γ) (l : List α) :
    l.mapM f = Execution.inTurn (fun a ↦ do return [← f a]) l := by
  induction l with
  | nil => rfl
  | cons a rest ih =>
    rw [List.mapM_cons, Execution.inTurn, ih]
    simp only [bind_assoc, pure_bind, List.cons_append, List.nil_append]

/-- Searches that are made one by one come to results that look the same, in some order. -/
theorem Search.agree_mapM {f : α → Search γ} {g : β → Search δ} {key : α → κ} {code : β → κ}
    {view : γ → ι} {look : δ → ι} {l : List α} {m : List β} (hmetered : ∀ b, (g b).Metered)
    (hperm : SameUnder key code l m)
    (hagree : ∀ a ∈ l, ∀ b ∈ m, key a = code b →
      Search.Agree (fun c d ↦ view c = look d) (f a) (g b)) :
    Search.Agree (SameUnder view look) (l.mapM f) (m.mapM g) := by
  rw [mapM_eq_inTurn, mapM_eq_inTurn]
  apply Execution.agree_inTurn (fun b ↦ metered_map (hmetered b) _) hperm
  intro a ha b hb hcode
  apply (hagree a ha b hb hcode).bind
  intro c d _ _ hcd
  apply agree_pure
  unfold SameUnder
  rw [List.map_singleton, List.map_singleton, hcd]

end

end Morphology
