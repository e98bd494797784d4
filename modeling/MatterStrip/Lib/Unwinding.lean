import MatterStrip.Lib.Run

/-!
What an observer who sees a part of the state can tell of the actions.

An action is hidden from a view if it never changes it, and a view is closed if what a seen action
does to it, and whether the action can be taken, depends on the view alone (`Unwinds`). Then the
hidden actions can be left out of any sequence: what is left can be taken, and leads to the same
view (`Unwinds.exec_filter`).
-/

namespace MatterStrip.Lib

variable {σ α ν : Type*} {step : σ → α → Option σ} {s s' t : σ}

/-- The unwinding conditions on a view of the state and the actions that are seen. -/
structure Unwinds (step : σ → α → Option σ) (view : σ → ν) (seen : α → Bool) : Prop where
  /-- a hidden action leaves the view as it is -/
  hidden : ∀ {s a t}, seen a = false → step s a = some t → view t = view s
  /-- a seen action does to the view what the view says -/
  closed : ∀ {s s' a t}, seen a = true → view s = view s' → step s a = some t →
    ∃ t', step s' a = some t' ∧ view t = view t'

/-- **The unwinding rule.** The actions that a view does not see can be left out. -/
theorem Unwinds.exec_filter {view : σ → ν} {seen : α → Bool} (h : Unwinds step view seen)
    {as : List α} (hview : view s = view s') (hexec : exec step s as = some t) :
    ∃ t', exec step s' (as.filter seen) = some t' ∧ view t = view t' := by
  induction as generalizing s s' with
  | nil =>
    obtain rfl : s = t := Option.some.inj hexec
    exact ⟨s', rfl, hview⟩
  | cons a as ih =>
    obtain ⟨u, hu, hexec⟩ := Option.bind_eq_some_iff.1 hexec
    cases hseen : seen a with
    | false =>
      rw [List.filter_cons_of_neg (by simp [hseen])]
      exact ih ((h.hidden hseen hu).trans hview) hexec
    | true =>
      obtain ⟨u', hu', hview'⟩ := h.closed hseen hview hu
      obtain ⟨t', ht', hviewt⟩ := ih hview' hexec
      refine ⟨t', ?_, hviewt⟩
      rw [List.filter_cons_of_pos hseen, exec, hu']
      exact ht'

end MatterStrip.Lib
