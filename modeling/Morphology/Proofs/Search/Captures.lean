import Morphology.Search.Execution

/-!
# Captures

A state knows at most one capture of each number. Opening it starts it anew and closing it stops it,
and neither affects the captures of other numbers.
-/

namespace Morphology.Execution.State

variable {s t : State} {id other : UInt8} {c : Capture} {text stem : List Char}

/-- The capture with a number, if it was opened. -/
def capture? (s : State) (id : UInt8) : Option Capture := s.captures.find? (·.id == id)

/-- Stops a capture here, if it was opened. -/
def stopCapture (s : State) (id : UInt8) : State :=
  { s with captures := s.captures.map fun c ↦
      if c.id == id then { c with stop := some s.position } else c }

theorem id_of_capture? (h : s.capture? id = some c) : c.id = id := by
  rw [capture?] at h
  simpa using List.find?_some h

theorem isSome_capture? : (s.capture? id).isSome ↔ s.captures.any (·.id == id) := by
  rw [capture?, List.find?_isSome, List.any_eq_true]

/-- The text of a capture depends on that capture alone. -/
theorem captured_congr (h : s.capture? id = t.capture? id) :
    s.captured text id = t.captured text id := by
  rw [capture?, capture?] at h
  rw [captured, captured, h]

theorem captured_of_capture? {stop : Nat} (h : s.capture? id = some c) (hstop : c.stop = some stop) :
    s.captured text id = .ok (slice text c.start stop) := by
  obtain ⟨number, start, _⟩ := c
  obtain rfl := hstop
  rw [capture?] at h
  rw [captured, h]

/-! ## Opening -/

theorem capture?_openCapture_self :
    (s.openCapture id).capture? id = some ⟨id, s.position, none⟩ := by
  have hold : (s.captures.filter (·.id != id)).find? (·.id == id) = none := by
    simp [List.find?_eq_none]
  rw [capture?, openCapture, List.find?_append, hold, Option.none_or]
  exact List.find?_cons_of_pos (beq_self_eq_true id)

theorem capture?_openCapture_of_ne (h : other ≠ id) :
    (s.openCapture id).capture? other = s.capture? other := by
  have hnew : [(⟨id, s.position, none⟩ : Capture)].find? (·.id == other) = none := by
    simpa using h.symm
  rw [capture?, openCapture, List.find?_append, hnew, Option.or_none, List.find?_filter, capture?]
  congr 1
  funext c
  by_cases hc : c.id = other <;> simp [hc, h]

/-! ## Closing -/

theorem closeCapture_eq_ok_iff :
    s.closeCapture id = .ok t ↔ s.captures.any (·.id == id) ∧ s.stopCapture id = t := by
  unfold closeCapture
  split
  next hopened => simp [hopened, stopCapture]
  next hmissing => simp [hmissing]

/-- What is found after a capture is stopped is what was found before, stopped if it is that one. -/
theorem capture?_stopCapture : (s.stopCapture id).capture? other =
    (s.capture? other).map fun c ↦
      if c.id == id then { c with stop := some s.position } else c := by
  rw [capture?, stopCapture, List.find?_map, capture?]
  congr 2
  funext c
  by_cases hc : c.id = id <;> simp [hc]

theorem capture?_stopCapture_self (h : s.capture? id = some c) :
    (s.stopCapture id).capture? id = some { c with stop := some s.position } := by
  rw [capture?_stopCapture, h, Option.map_some, if_pos (beq_iff_eq.mpr (id_of_capture? h))]

theorem capture?_stopCapture_of_ne (h : other ≠ id) :
    (s.stopCapture id).capture? other = s.capture? other := by
  rw [capture?_stopCapture]
  cases hfound : s.capture? other with
  | none => rfl
  | some c =>
    have hid : ¬ (c.id == id) = true := by simpa [id_of_capture? hfound] using h
    rw [Option.map_some, if_neg hid]

end Morphology.Execution.State
