import MatterStrip.Light.Backing

/-!
The light comes to rest on its own.

Each handler of a timer event may start the timer again, whose expiry posts the next event: an ON
that is completed starts auto turn-off, whose event initiates OFF, whose event completes it. The
chain ends there. `work` counts what is left of it; an expiry or a dispatch always leaves less.
-/

namespace MatterStrip

open Lib LightingManager

/-- The steps that the system takes without a command. -/
def LightAct.Own (a : LightAct) : Prop := a = .expire ∨ a = .dispatch

/-- The steps that a state still has ahead of it: an expiry and a dispatch for each time that it can
start the timer. -/
def LightState.ahead : LightState → ℕ
  | .offInitiated => 0
  | .offCompleted => 0
  | .onInitiated => 4
  | .onCompleted => 2

namespace LightSystem

/-- The steps that the system can take on its own. -/
def work (s : LightSystem) : ℕ :=
  s.queue.length + (if s.timer = none then 0 else 2) + s.light.mState.ahead

def AtRest (s : LightSystem) : Prop := s.timer = none ∧ s.queue = []

variable {s t : LightSystem} {a : LightAct} {log : List (LightSystem × LightAct)}

/-- **An expiry or a dispatch leaves less to do.** -/
theorem work_own (ha : a.Own) (hstep : s.step a = some t) : t.work < s.work := by
  obtain ⟨calls, htrans⟩ := step_transition hstep
  have hone : (if s.timer = none then 0 else 2) ≤ 2 := by split <;> omega
  cases htrans with
  | on aActor _ => simp [LightAct.Own] at ha
  | off aActor _ => simp [LightAct.Own] at ha
  | refused aActor aAction _ _ => simp [LightAct.Own] at ha
  | trigger effect => simp [LightAct.Own] at ha
  | enable aOn => simp [LightAct.Own] at ha
  | setDuration d => simp [LightAct.Own] at ha
  | expire purpose htimer => simp [work, htimer]
  | autoSpent queue hq _ => simp [work, hq]
  | autoOff queue hq _ hoff => simp [work, hq, hoff.1, LightState.ahead]; omega
  | autoRefused queue hq _ _ => simp [work, hq]
  | effectSpent queue hq _ => simp [work, hq]
  | effectOff queue hq _ hon => simp [work, hq, hon, LightState.ahead]; omega
  | effectRefused queue hq _ _ => simp [work, hq]
  | movementSpent queue hq _ => simp [work, hq]
  | completeOff queue hq hstate => simp [work, hq, hstate, LightState.ahead]
  | completeOn queue hq hstate _ => simp [work, hq, hstate, LightState.ahead]; omega
  | completeOnAuto queue hq hstate _ => simp [work, hq, hstate, LightState.ahead]; omega

/-- A system that is not at rest has a step of its own to take. -/
lemma exists_own (h : ¬ s.AtRest) : ∃ a t, a.Own ∧ s.step a = some t := by
  by_cases htimer : s.timer = none
  · obtain ⟨handler, queue, hq⟩ := List.exists_cons_of_ne_nil fun hq => h ⟨htimer, hq⟩
    obtain ⟨t, ht⟩ := exists_dispatch hq
    exact ⟨.dispatch, t, Or.inr rfl, ht⟩
  · obtain ⟨t, ht⟩ := exists_expire htimer
    exact ⟨.expire, t, Or.inl rfl, ht⟩

lemma work_le (s : LightSystem) : s.work ≤ s.queue.length + 6 := by
  have hahead : s.light.mState.ahead ≤ 4 := by cases s.light.mState <;> simp [LightState.ahead]
  have hone : (if s.timer = none then 0 else 2) ≤ 2 := by split <;> omega
  unfold work
  omega

/-- The runs of the system on its own. -/
lemma own_runs (s : LightSystem) :
    (∀ log t, Run step s log t → (∀ p ∈ log, p.2.Own) →
      log.length ≤ s.work ∧ ((∀ a, a.Own → t.step a = none) → t.AtRest)) ∧
    ∃ log t, Run step s log t ∧ (∀ p ∈ log, p.2.Own) ∧ t.AtRest :=
  rests (I := fun _ => True) LightAct.Own AtRest work
    (fun _ _ _ _ ha hstep => ⟨trivial, work_own ha hstep⟩) (fun _ _ => exists_own) trivial

/-- **The light comes to rest.** From any state, however expiries and dispatches follow one another,
there are at most six more of them than events in the queue; where none can follow, the timer is
stopped and the queue empty; and they do lead there. The starts of the timer are taken to succeed. -/
theorem settles (s : LightSystem) :
    (∀ log t, Run step s log t → (∀ p ∈ log, p.2.Own) →
      log.length ≤ s.queue.length + 6 ∧ ((∀ a, a.Own → t.step a = none) → t.AtRest)) ∧
    ∃ log t, Run step s log t ∧ (∀ p ∈ log, p.2.Own) ∧ t.AtRest := by
  obtain ⟨hruns, hrest⟩ := s.own_runs
  refine ⟨?_, hrest⟩
  intro log t hrun hown
  obtain ⟨hlen, hstuck⟩ := hruns log t hrun hown
  have hwork := s.work_le
  exact ⟨by omega, hstuck⟩

end LightSystem

end MatterStrip
