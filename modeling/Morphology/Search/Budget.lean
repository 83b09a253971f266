import Morphology.Error

/-!
# Step budget

Every unit of work of a search costs one step. A search can be given a number of steps; when it
needs one more it is given up. How many steps were used is known in either case.
-/

namespace Morphology

/-- The steps that a search may use, if they are limited, and those it has used. -/
structure Budget where
  limit : Option Nat
  used : Nat := 0

/-- A computation that uses up steps and may be given up. -/
abbrev Search := ExceptT AnalysisError (StateM Budget)

namespace Search

/-- The outcome of a search, with the budget after it. -/
def outcome {α : Type} (search : Search α) (budget : Budget) : Except AnalysisError α × Budget :=
  StateT.run (ExceptT.run search) budget

/-- A search from the way in which it uses a budget. -/
def ofFunction {α : Type} (f : Budget → Except AnalysisError α × Budget) : Search α :=
  ExceptT.mk f

/-- Uses one step, or gives up when the limit is passed. -/
def step : Search Unit := ofFunction fun budget ↦
  let used := budget.used + 1
  match budget.limit with
  | none => (.ok (), { budget with used })
  | some limit =>
    (if limit < used then .error (.budgetExceeded limit) else .ok (), { budget with used })

/-- Gives up because of a defect of a rule. -/
def fail {α : Type} (rule : String) (defect : Defect) : Search α :=
  throw (.defectiveRule rule defect)

/-- Goes on with a value, or gives up because of a defect of a rule. -/
def orFail {α : Type} (rule : String) : Except Defect α → Search α
  | .ok a => pure a
  | .error defect => fail rule defect

/-! ## Outcomes -/

variable {α β : Type}

/-- Searches with the same outcomes are the same. -/
theorem ext {x y : Search α} (h : ∀ b, x.outcome b = y.outcome b) : x = y := funext h

@[simp] theorem outcome_ofFunction (f : Budget → Except AnalysisError α × Budget) (b : Budget) :
    (ofFunction f).outcome b = f b := rfl

@[simp] theorem outcome_pure (a : α) (b : Budget) : (pure a : Search α).outcome b = (.ok a, b) :=
  rfl

theorem outcome_bind (x : Search α) (f : α → Search β) (b : Budget) :
    (x >>= f).outcome b =
      match x.outcome b with
      | (.ok a, b) => (f a).outcome b
      | (.error e, b) => (.error e, b) := by
  simp only [outcome, ExceptT.run_bind, StateT.run_bind]
  generalize (ExceptT.run x).run b = result
  obtain ⟨_ | _, _⟩ := result <;> rfl

/-- A search succeeds with a value, given a suitable budget. -/
def Yields (x : Search α) (a : α) : Prop := ∃ before after, x.outcome before = (.ok a, after)

theorem yields_pure {a b : α} : (pure a : Search α).Yields b ↔ a = b := by
  constructor
  · rintro ⟨before, after, h⟩
    simpa using congrArg Prod.fst h
  · rintro rfl
    exact ⟨⟨none, 0⟩, _, rfl⟩

theorem Yields.of_bind {x : Search α} {f : α → Search β} {b : β} (h : (x >>= f).Yields b) :
    ∃ a, x.Yields a ∧ (f a).Yields b := by
  obtain ⟨before, after, h⟩ := h
  rw [outcome_bind] at h
  split at h
  next a middle hfirst => exact ⟨a, ⟨before, middle, hfirst⟩, middle, after, h⟩
  · simp at h

theorem not_yields_fail {rule : String} {defect : Defect} {a : α} :
    ¬ (fail rule defect : Search α).Yields a := by
  rintro ⟨before, after, h⟩
  exact absurd (congrArg Prod.fst h) nofun

theorem yields_orFail {rule : String} {x : Except Defect α} {a : α}
    (h : (orFail rule x).Yields a) : x = .ok a := by
  cases x with
  | ok b => exact congrArg _ (yields_pure.mp h)
  | error defect => exact absurd h not_yields_fail

/-- What every step of a repetition keeps is kept by the repetition. -/
theorem Yields.foldlM {f : β → α → Search β} {l : List α} (keeps : β → Prop)
    (hstep : ∀ s t, ∀ a ∈ l, keeps s → (f s a).Yields t → keeps t) :
    ∀ {s t : β}, keeps s → (l.foldlM f s).Yields t → keeps t := by
  induction l with
  | nil =>
    intro s t hs h
    exact yields_pure.mp h ▸ hs
  | cons a rest ih =>
    intro s t hs h
    rw [List.foldlM_cons] at h
    obtain ⟨m, hfirst, hlater⟩ := h.of_bind
    exact ih (fun s t b hb ↦ hstep s t b (by simp [hb])) (hstep s m a (by simp) hs hfirst) hlater

end Search

end Morphology
