import Morphology.Search.Budget

/-!
# Metering

A search does not look at its budget: it has a result, which it comes to when nothing limits it,
and a cost, the number of steps on the way there. A limit can only cut the search short. Results
and costs of composed searches are put together from those of their parts, so that what a search
finds can be studied without its budget.
-/

namespace Morphology

variable {α β : Type}

theorem exists_of_map_eq_ok {ε : Type} {x : Except ε α} {f : α → β} {b : β}
    (h : x.map f = .ok b) : ∃ a, x = .ok a ∧ b = f a := by
  cases x with
  | error e => exact absurd h nofun
  | ok a => exact ⟨a, rfl, (Except.ok.inj h).symm⟩

/-- What becomes of a budget when a search of known cost and result is made on it. A search that
costs nothing does not notice a budget that is used up. -/
def Budget.charge (b : Budget) (cost : Nat) (result : Except AnalysisError α) :
    Except AnalysisError α × Budget :=
  match b.limit with
  | none => (result, { b with used := b.used + cost })
  | some limit =>
    if cost = 0 ∨ b.used + cost ≤ limit then (result, { b with used := b.used + cost })
    else (.error (.budgetExceeded limit), { b with used := max b.used limit + 1 })

@[simp] theorem Budget.charge_zero (b : Budget) (result : Except AnalysisError α) :
    b.charge 0 result = (result, b) := by
  obtain ⟨limit, used⟩ := b
  cases limit <;> simp [charge]

namespace Search

theorem outcome_bind_of_ok {x : Search α} {a : α} {before middle : Budget} (f : α → Search β)
    (h : x.outcome before = (.ok a, middle)) : (x >>= f).outcome before = (f a).outcome middle := by
  rw [outcome_bind, h]

theorem exists_outcome_of_bind {x : Search α} {f : α → Search β} {b : β} {before after : Budget}
    (h : (x >>= f).outcome before = (.ok b, after)) :
    ∃ a middle, x.outcome before = (.ok a, middle) ∧ (f a).outcome middle = (.ok b, after) := by
  rw [outcome_bind] at h
  split at h
  next a middle hfirst => exact ⟨a, middle, hfirst, h⟩
  next => exact absurd (congrArg Prod.fst h) nofun

theorem outcome_bind_of_error {x : Search α} {e : AnalysisError} {before after : Budget}
    (f : α → Search β) (h : x.outcome before = (.error e, after)) :
    (x >>= f).outcome before = (.error e, after) := by
  rw [outcome_bind, h]

/-- Two searches one after the other fail where the first one does, or where the second one does. -/
theorem cases_error_of_bind {x : Search α} {f : α → Search β} {e : AnalysisError}
    {before after : Budget} (h : (x >>= f).outcome before = (.error e, after)) :
    x.outcome before = (.error e, after) ∨ ∃ a middle, x.outcome before = (.ok a, middle) ∧
      (f a).outcome middle = (.error e, after) := by
  rw [outcome_bind] at h
  split at h
  next a middle hfirst => exact .inr ⟨a, middle, hfirst, h⟩
  next hfirst =>
    obtain ⟨herror, rfl⟩ := Prod.mk.inj h
    exact .inl (Except.error.inj herror ▸ hfirst)

/-- What a search comes to when nothing limits it. -/
def result (x : Search α) : Except AnalysisError α := (x.outcome { limit := none }).1

/-- How many steps a search makes when nothing limits it. -/
def cost (x : Search α) : Nat := (x.outcome { limit := none }).2.used

/-- On every budget, a search goes like one of this cost and result. -/
def Charges (x : Search α) (cost : Nat) (result : Except AnalysisError α) : Prop :=
  ∀ b : Budget, x.outcome b = b.charge cost result

/-- A budget limits a search but has no other influence on it. -/
def Metered (x : Search α) : Prop := x.Charges x.cost x.result

section

variable {x : Search α} {f : α → Search β} {a : α} {e : AnalysisError} {m n : Nat}
  {r : Except AnalysisError α}

theorem Charges.result_eq (h : x.Charges n r) : x.result = r := by
  unfold result
  rw [h]
  rfl

theorem Charges.cost_eq (h : x.Charges n r) : x.cost = n := by
  unfold cost
  rw [h]
  exact Nat.zero_add n

theorem Charges.metered (h : x.Charges n r) : x.Metered := by
  unfold Metered
  rw [h.result_eq, h.cost_eq]
  exact h

theorem charges_pure (a : α) : (pure a : Search α).Charges 0 (.ok a) := by
  intro b
  rw [Budget.charge_zero, outcome_pure]

theorem charges_step : step.Charges 1 (.ok ()) := by
  rintro ⟨limit, used⟩
  cases limit with
  | none => simp [step, Budget.charge]
  | some limit =>
    simp only [step, outcome_ofFunction, Budget.charge]
    by_cases hlimit : limit < used + 1
    · have hmax : max used limit = used := by omega
      simp [hlimit, Nat.not_le.mpr hlimit, hmax]
    · simp [hlimit, Nat.not_lt.mp hlimit]

theorem charges_fail (rule : String) (defect : Defect) :
    (fail rule defect : Search α).Charges 0 (.error (.defectiveRule rule defect)) := by
  intro b
  rw [Budget.charge_zero]
  rfl

/-- The steps of two searches that are made one after the other add up. -/
theorem Charges.bind_ok {s : Except AnalysisError β} (hx : x.Charges m (.ok a))
    (hf : (f a).Charges n s) : (x >>= f).Charges (m + n) s := by
  rintro ⟨limit, used⟩
  rw [outcome_bind, hx]
  cases limit with
  | none => simp only [Budget.charge, hf _, Nat.add_assoc]
  | some limit =>
    simp only [Budget.charge]
    by_cases hm : m = 0 ∨ used + m ≤ limit
    · rw [if_pos hm]
      simp only [hf _, Budget.charge]
      by_cases hn : n = 0 ∨ used + m + n ≤ limit
      · have hsum : m + n = 0 ∨ used + (m + n) ≤ limit := by omega
        rw [if_pos hn, if_pos hsum, Nat.add_assoc]
      · have hsum : ¬ (m + n = 0 ∨ used + (m + n) ≤ limit) := by omega
        have hmax : max (used + m) limit = max used limit := by omega
        rw [if_neg hn, if_neg hsum, hmax]
    · have hsum : ¬ (m + n = 0 ∨ used + (m + n) ≤ limit) := by omega
      rw [if_neg hm, if_neg hsum]

/-- A search that is given up is not continued. -/
theorem Charges.bind_error (hx : x.Charges m (.error e)) : (x >>= f).Charges m (.error e) := by
  rintro ⟨limit, used⟩
  rw [outcome_bind, hx]
  cases limit with
  | none => rfl
  | some limit =>
    simp only [Budget.charge]
    by_cases hm : m = 0 ∨ used + m ≤ limit
    · simp only [if_pos hm]
    · simp only [if_neg hm]

theorem Metered.charges_bind (hx : x.Metered) (hf : ∀ a, x.result = .ok a → (f a).Metered) :
    ∃ n, (x >>= f).Charges n (x.result.bind fun a ↦ (f a).result) := by
  cases hresult : x.result with
  | error e => exact ⟨x.cost, Charges.bind_error (hresult ▸ hx)⟩
  | ok a => exact ⟨x.cost + (f a).cost, Charges.bind_ok (hresult ▸ hx) (hf a hresult)⟩

/-- What follows a search need only be metered where the search gets to. -/
theorem Metered.bind (hx : x.Metered) (hf : ∀ a, x.result = .ok a → (f a).Metered) :
    (x >>= f).Metered :=
  let ⟨_, h⟩ := hx.charges_bind hf
  h.metered

theorem Metered.result_bind (hx : x.Metered) (hf : ∀ a, x.result = .ok a → (f a).Metered) :
    (x >>= f).result = x.result.bind fun a ↦ (f a).result :=
  let ⟨_, h⟩ := hx.charges_bind hf
  h.result_eq

/-- A metered search yields its result and nothing else, however large the budget. -/
theorem Metered.yields_iff (hx : x.Metered) : x.Yields a ↔ x.result = .ok a := by
  constructor
  · rintro ⟨before, after, h⟩
    rw [hx before, Budget.charge] at h
    split at h
    · exact (Prod.mk.inj h).1
    · split at h
      · exact (Prod.mk.inj h).1
      · exact absurd (Prod.mk.inj h).1 nofun
  · intro h
    exact ⟨{ limit := none }, _, Prod.ext h rfl⟩

theorem Charges.outcome_unlimited (h : x.Charges n r) :
    x.outcome { limit := none } = (r, { limit := none, used := n }) := by
  rw [h, Budget.charge, Nat.zero_add]

theorem Metered.outcome_unlimited (hx : x.Metered) :
    x.outcome { limit := none } = (x.result, { limit := none, used := x.cost }) :=
  Charges.outcome_unlimited hx

/-- A limit matters to a search exactly if it is smaller than the cost of the search. -/
theorem Metered.outcome_limited (hx : x.Metered) (limit : Nat) :
    x.outcome { limit := some limit } =
      if x.cost ≤ limit then (x.result, { limit := some limit, used := x.cost })
      else (.error (.budgetExceeded limit), { limit := some limit, used := limit + 1 }) := by
  rw [hx]
  simp only [Budget.charge, Nat.zero_add]
  by_cases hlimit : x.cost ≤ limit
  · rw [if_pos (.inr hlimit), if_pos hlimit]
  · have hcharge : ¬ (x.cost = 0 ∨ x.cost ≤ limit) := by omega
    rw [if_neg hcharge, if_neg hlimit, Nat.zero_max]

/-- Where a metered search ends with an error, either the limit was passed or the error is the
result of the search. -/
theorem Metered.outcome_error (hx : x.Metered) {b after : Budget}
    (h : x.outcome b = (.error e, after)) :
    x.result = .error e ∨ ∃ limit, b.limit = some limit ∧ e = .budgetExceeded limit := by
  rw [hx b, Budget.charge] at h
  split at h
  · exact .inl (Prod.mk.inj h).1
  next limit hlimit =>
    split at h
    · exact .inl (Prod.mk.inj h).1
    · exact .inr ⟨limit, hlimit, (Except.error.inj (Prod.mk.inj h).1).symm⟩

end

/-! ## Building blocks -/

theorem metered_pure (a : α) : (pure a : Search α).Metered := (charges_pure a).metered

theorem metered_step : step.Metered := charges_step.metered

theorem metered_fail (rule : String) (defect : Defect) : (fail rule defect : Search α).Metered :=
  (charges_fail rule defect).metered

@[simp] theorem result_pure (a : α) : (pure a : Search α).result = .ok a :=
  (charges_pure a).result_eq

@[simp] theorem result_step : step.result = .ok () := charges_step.result_eq

@[simp] theorem result_fail (rule : String) (defect : Defect) :
    (fail rule defect : Search α).result = .error (.defectiveRule rule defect) :=
  (charges_fail rule defect).result_eq

theorem metered_orFail (rule : String) (x : Except Defect α) : (orFail rule x).Metered := by
  cases x with
  | ok a => exact metered_pure a
  | error defect => exact metered_fail rule defect

/-- A step delays a search and changes nothing else. -/
theorem result_step_bind {x : Search α} (hx : x.Metered) : (step >>= fun _ ↦ x).result = x.result := by
  rw [metered_step.result_bind fun _ _ ↦ hx, result_step]
  rfl

theorem metered_step_bind {x : Search α} (hx : x.Metered) : (step >>= fun _ ↦ x).Metered :=
  metered_step.bind fun _ _ ↦ hx

theorem metered_map {x : Search α} (hx : x.Metered) (g : α → β) :
    (x >>= fun a ↦ pure (g a)).Metered :=
  hx.bind fun a _ ↦ metered_pure (g a)

theorem result_map {x : Search α} (hx : x.Metered) (g : α → β) :
    (x >>= fun a ↦ pure (g a)).result = x.result.map g := by
  rw [hx.result_bind fun a _ ↦ metered_pure (g a)]
  cases x.result <;> simp [Except.bind, Except.map]

theorem metered_foldlM {f : β → α → Search β} (hf : ∀ s a, (f s a).Metered) (l : List α) (s : β) :
    (l.foldlM f s).Metered := by
  induction l generalizing s with
  | nil => exact metered_pure s
  | cons a rest ih =>
    rw [List.foldlM_cons]
    exact (hf s a).bind fun t _ ↦ ih t

theorem metered_mapM {f : α → Search β} (hf : ∀ a, (f a).Metered) (l : List α) :
    (l.mapM f).Metered := by
  induction l with
  | nil => exact metered_pure []
  | cons a rest ih =>
    rw [List.mapM_cons]
    exact (hf a).bind fun b _ ↦ metered_map ih (b :: ·)

/-- What follows a search matters only where the search gets to. -/
theorem bind_congr_of_yields {x : Search α} {f g : α → Search β} (h : ∀ a, x.Yields a → f a = g a) :
    x >>= f = x >>= g := by
  refine ext fun b ↦ ?_
  rw [outcome_bind, outcome_bind]
  cases houtcome : x.outcome b with
  | mk result after =>
    cases result with
    | error e => rfl
    | ok a => simp only [h a ⟨b, after, houtcome⟩]

/-- A composed search fails where one of its parts does. -/
theorem error_of_bind {x : Search α} {f : α → Search β} {e : AnalysisError} (hx : x.Metered)
    (hf : ∀ a, x.result = .ok a → (f a).Metered) (h : (x >>= f).result = .error e) :
    x.result = .error e ∨ ∃ a, x.result = .ok a ∧ (f a).result = .error e := by
  rw [hx.result_bind hf] at h
  cases hresult : x.result with
  | error d =>
    rw [hresult] at h
    exact .inl (congrArg Except.error (Except.error.inj h))
  | ok a =>
    rw [hresult] at h
    exact .inr ⟨a, rfl, h⟩

/-- A repetition fails in one of its steps, after a state that the steps before it keep. -/
theorem error_of_foldlM {f : β → α → Search β} (hf : ∀ s a, (f s a).Metered) (keeps : β → Prop)
    {l : List α} {s : β} {e : AnalysisError}
    (hstep : ∀ s t, ∀ a ∈ l, keeps s → (f s a).Yields t → keeps t) (hs : keeps s)
    (h : (l.foldlM f s).result = .error e) :
    ∃ t, keeps t ∧ ∃ a ∈ l, (f t a).result = .error e := by
  induction l generalizing s with
  | nil => exact absurd h nofun
  | cons a rest ih =>
    rw [List.foldlM_cons] at h
    rcases error_of_bind (hf s a) (fun t _ ↦ metered_foldlM hf rest t) h with hfirst | ⟨t, ht, hrest⟩
    · exact ⟨s, hs, a, List.mem_cons_self, hfirst⟩
    · have hkeeps := hstep s t a List.mem_cons_self hs ((hf s a).yields_iff.mpr ht)
      obtain ⟨u, hu, b, hb, herror⟩ :=
        ih (fun s t b hb ↦ hstep s t b (List.mem_cons_of_mem a hb)) hkeeps hrest
      exact ⟨u, hu, b, List.mem_cons_of_mem a hb, herror⟩

end Search

end Morphology
