import MatterStrip.Light.System

/-!
Whether pending work is always backed by the timer or by a queued event.

The three uses of the timer overwrite one another, and one expiry stands for all that was pending:
an armed auto turn-off for a pending off effect or action, an armed off effect for a pending action
(`Kept`). That chain breaks where the event of an armed flag is dispatched, its action is refused,
the timer does not run, and what was hidden behind the flag has no event of its own in the queue.
`pending_backed_unless` says that nothing else breaks it, and that this does.
-/

namespace MatterStrip

open Lib LightingManager

namespace LightSystem

/-- There is something to be done at a later time. -/
def Pending (light : LightingManager) : Prop :=
  light.isActionInProgress = true ∨ light.mAutoTurnOffTimerArmed = true ∨
    light.mOffEffectArmed = true

/-- Pending work has the timer running or an event in the queue. -/
def Backed (s : LightSystem) : Prop := Pending s.light → s.timer ≠ none ∨ s.queue ≠ []

/-- What an armed flag hides has an event of its own when the flag's event is dispatched. -/
def Carried (s : LightSystem) : LightAct → Prop
  | .dispatch => s.timer = none →
    match s.queue with
    | .autoTurnOffTimerEventHandler :: queue => s.light.mAutoTurnOffTimerArmed = true →
        (s.light.mOffEffectArmed = true → .offEffectTimerEventHandler ∈ queue) ∧
        (s.light.isActionInProgress = true → s.light.mOffEffectArmed = false →
          .actuatorMovementTimerEventHandler ∈ queue)
    | .offEffectTimerEventHandler :: queue => s.light.mOffEffectArmed = true →
        s.light.isActionInProgress = true → s.light.mAutoTurnOffTimerArmed = false →
          .actuatorMovementTimerEventHandler ∈ queue
    | _ => True
  | _ => True

/-- What backs each piece of pending work. -/
structure Kept (s : LightSystem) : Prop where
  /-- Auto turn-off has the timer or its event. -/
  auto : s.light.mAutoTurnOffTimerArmed = true →
    s.timer ≠ none ∨ .autoTurnOffTimerEventHandler ∈ s.queue
  /-- An off effect has the timer, its event, or auto turn-off before it. -/
  effect : s.light.mOffEffectArmed = true →
    s.timer ≠ none ∨ .offEffectTimerEventHandler ∈ s.queue ∨
      s.light.mAutoTurnOffTimerArmed = true
  /-- An action has the timer, its event, or one of the other two before it. -/
  action : s.light.isActionInProgress = true →
    s.timer ≠ none ∨ .actuatorMovementTimerEventHandler ∈ s.queue ∨
      s.light.mAutoTurnOffTimerArmed = true ∨ s.light.mOffEffectArmed = true

variable {s t : LightSystem} {a : LightAct} {handler handler' : TimerHandler}
  {queue : List TimerHandler}

/-! ### Sufficiency -/

theorem Kept.backed (h : Kept s) : Backed s := by
  have hmem : ∀ handler, handler ∈ s.queue → s.queue ≠ [] := fun _ hmem => List.ne_nil_of_mem hmem
  have hauto : s.light.mAutoTurnOffTimerArmed = true → s.timer ≠ none ∨ s.queue ≠ [] := by
    intro harmed
    rcases h.auto harmed with hrun | hq
    · exact Or.inl hrun
    · exact Or.inr (hmem _ hq)
  have heffect : s.light.mOffEffectArmed = true → s.timer ≠ none ∨ s.queue ≠ [] := by
    intro harmed
    rcases h.effect harmed with hrun | hq | harmed
    · exact Or.inl hrun
    · exact Or.inr (hmem _ hq)
    · exact hauto harmed
  rintro (hprog | harmed | harmed)
  · rcases h.action hprog with hrun | hq | harmed | harmed
    · exact Or.inl hrun
    · exact Or.inr (hmem _ hq)
    · exact hauto harmed
    · exact heffect harmed
  · exact hauto harmed
  · exact heffect harmed

lemma kept_of_running (h : t.timer ≠ none) : Kept t :=
  ⟨fun _ => Or.inl h, fun _ => Or.inl h, fun _ => Or.inl h⟩

lemma mem_of_ne (hq : s.queue = handler :: queue) (hne : handler' ≠ handler)
    (h : handler' ∈ s.queue) : handler' ∈ queue := by
  rw [hq] at h
  exact (List.mem_cons.1 h).resolve_left hne

/-- An event that finds nothing to do for it leaves the rest as it was backed before. -/
lemma Kept.spent (h : Kept s) (hq : s.queue = handler :: queue) {light : LightingManager}
    (hauto : light.mAutoTurnOffTimerArmed = s.light.mAutoTurnOffTimerArmed)
    (heffect : light.mOffEffectArmed = s.light.mOffEffectArmed)
    (hprog : light.isActionInProgress = true → s.light.isActionInProgress = true)
    (hnot : (light.mAutoTurnOffTimerArmed = true → handler ≠ .autoTurnOffTimerEventHandler) ∧
      (light.mOffEffectArmed = true → handler ≠ .offEffectTimerEventHandler) ∧
      (light.isActionInProgress = true → handler ≠ .actuatorMovementTimerEventHandler)) :
    Kept ⟨light, s.timer, queue⟩ := by
  obtain ⟨hnauto, hneffect, hnaction⟩ := hnot
  constructor <;> intro h'
  · exact (h.auto (hauto ▸ h')).imp_right (mem_of_ne hq (hnauto h').symm)
  · exact (h.effect (heffect ▸ h')).imp_right
      (Or.imp (mem_of_ne hq (hneffect h').symm) hauto.trans)
  · exact (h.action (hprog h')).imp_right
      (Or.imp (mem_of_ne hq (hnaction h').symm) (Or.imp hauto.trans heffect.trans))

/-- The expiry posts the event of what comes first. -/
lemma Kept.expire (s : LightSystem) :
    Kept { s with timer := none, queue := s.queue ++ [s.light.timerEventHandler] } := by
  constructor <;> intro h
  · have hauto : s.light.mAutoTurnOffTimerArmed = true := h
    simp [timerEventHandler, hauto]
  · have heffect : s.light.mOffEffectArmed = true := h
    cases hauto : s.light.mAutoTurnOffTimerArmed <;> simp [timerEventHandler, hauto, heffect]
  · cases hauto : s.light.mAutoTurnOffTimerArmed <;>
      cases heffect : s.light.mOffEffectArmed <;> simp [timerEventHandler, hauto, heffect]

/-- **One step that is carried keeps everything backed.** -/
theorem Kept.step (h : Kept s) (hok : Carried s a) (hstep : s.step a = some t) : Kept t := by
  obtain ⟨calls, htrans⟩ := step_transition hstep
  cases htrans with
  | on aActor _ => exact kept_of_running (by simp)
  | off aActor _ => exact kept_of_running (by simp)
  | refused aActor aAction _ _ => exact h
  | trigger effect => exact kept_of_running (by simp)
  | enable aOn => exact ⟨h.auto, h.effect, h.action⟩
  | setDuration d => exact ⟨h.auto, h.effect, h.action⟩
  | expire purpose _ => exact Kept.expire s
  | autoSpent queue hq harmed =>
    exact h.spent hq rfl rfl id ⟨by simp [harmed], by simp, by simp⟩
  | autoOff queue _ _ _ => exact kept_of_running (by simp)
  | autoRefused queue hq harmed _ =>
    by_cases hrun : s.timer = none
    · simp only [Carried, hq] at hok
      obtain ⟨heffect, haction⟩ := hok hrun harmed
      constructor
      · intro h'
        cases h'
      · intro h'
        exact Or.inr (Or.inl (heffect h'))
      · intro h'
        cases h'' : s.light.mOffEffectArmed with
        | true => exact Or.inr (Or.inr (Or.inr rfl))
        | false => exact Or.inr (Or.inl (haction h' h''))
    · exact kept_of_running hrun
  | effectSpent queue hq harmed =>
    exact h.spent hq rfl rfl id ⟨by simp, by simp [harmed], by simp⟩
  | effectOff queue _ _ _ => exact kept_of_running (by simp)
  | effectRefused queue hq harmed _ =>
    by_cases hrun : s.timer = none
    · simp only [Carried, hq] at hok
      constructor
      · intro h'
        exact (h.auto h').imp_right (mem_of_ne hq (by simp))
      · intro h'
        cases h'
      · intro h'
        cases h'' : s.light.mAutoTurnOffTimerArmed with
        | true => exact Or.inr (Or.inr (Or.inl rfl))
        | false => exact Or.inr (Or.inl (hok hrun harmed h' h''))
    · exact kept_of_running hrun
  | movementSpent queue hq hstate =>
    have hidle : s.light.isActionInProgress = false := by
      rcases hstate with hstate | hstate <;> simp [isActionInProgress, hstate]
    exact h.spent hq rfl rfl id ⟨by simp, by simp, by simp [hidle]⟩
  | completeOff queue hq _ =>
    exact h.spent hq rfl rfl (by simp [isActionInProgress]) ⟨by simp, by simp,
      by simp [isActionInProgress]⟩
  | completeOn queue hq _ _ =>
    exact h.spent hq rfl rfl (by simp [isActionInProgress]) ⟨by simp, by simp,
      by simp [isActionInProgress]⟩
  | completeOnAuto queue _ _ _ => exact kept_of_running (by simp)

theorem kept_start (currentLedState initiatedCB completedCB : Bool) :
    Kept (start currentLedState initiatedCB completedCB) := by
  constructor
  · simp [start, setCallbacks, init]
  · simp [start, setCallbacks, init]
  · cases currentLedState <;> simp [start, setCallbacks, init, isActionInProgress]

/-! ### Necessity -/

/-- Left to expiries and dispatches alone, the system can come to a state with pending work that
nothing backs. -/
def Strands (s : LightSystem) : Prop :=
  ∃ log u, Run LightSystem.step s log u ∧ (∀ p ∈ log, p.2 = .expire ∨ p.2 = .dispatch) ∧ ¬ Backed u

lemma exists_dispatch (hq : s.queue = handler :: queue) : ∃ t, s.step .dispatch = some t := by
  simp [LightSystem.step, outcome, hq]

lemma exists_expire (htimer : s.timer ≠ none) : ∃ t, s.step .expire = some t := by
  obtain ⟨purpose, hp⟩ := Option.ne_none_iff_exists'.1 htimer
  simp [LightSystem.step, outcome, hp]

/-- With the timer stopped and the queue empty, what is pending is not backed. -/
lemma not_backed_of_empty (hpending : Pending s.light) (htimer : s.timer = none)
    (hq : s.queue = []) : ¬ Backed s := by
  intro hbacked
  rcases hbacked hpending with hrun | hne
  · exact hrun htimer
  · exact hne hq

/-- A system that keeps to `I` strands, if `I` keeps something pending and a measure goes down with
every step that it can take on its own. -/
lemma strands_of_descent {I : LightSystem → Prop} (measure : LightSystem → ℕ)
    (hpending : ∀ s, I s → Pending s.light)
    (hexpire : ∀ s t, I s → s.timer ≠ none → s.step .expire = some t →
      I t ∧ measure t < measure s)
    (hdispatch : ∀ s t, I s → s.timer = none → s.step .dispatch = some t →
      I t ∧ measure t < measure s) (hs : I s) : Strands s := by
  have hstep : ∀ s, I s → ¬ (s.timer = none ∧ s.queue = []) → ∃ a t,
      (a = .expire ∨ a = .dispatch) ∧ s.step a = some t ∧ I t ∧ measure t < measure s := by
    intro s hs hgoal
    by_cases htimer : s.timer = none
    · -- the timer is stopped, so that there is an event
      have hne : s.queue ≠ [] := fun hq => hgoal ⟨htimer, hq⟩
      obtain ⟨handler, queue, hq⟩ := List.exists_cons_of_ne_nil hne
      obtain ⟨t, ht⟩ := exists_dispatch hq
      exact ⟨.dispatch, t, Or.inr rfl, ht, hdispatch s t hs htimer ht⟩
    · obtain ⟨t, ht⟩ := exists_expire htimer
      exact ⟨.expire, t, Or.inl rfl, ht, hexpire s t hs htimer ht⟩
  obtain ⟨log, u, hrun, hlog, hu, htimer, hq⟩ := exists_run_of_descent
    (fun a : LightAct => a = .expire ∨ a = .dispatch)
    (fun s : LightSystem => s.timer = none ∧ s.queue = []) measure hstep hs
  exact ⟨log, u, hrun, hlog, not_backed_of_empty (hpending u hu) htimer hq⟩

/-- An action whose event is lost, with no flag armed, is never completed. -/
lemma strands_action (hq : .actuatorMovementTimerEventHandler ∉ s.queue) (htimer : s.timer = none)
    (hprog : s.light.isActionInProgress = true) (hauto : s.light.mAutoTurnOffTimerArmed = false)
    (heffect : s.light.mOffEffectArmed = false) : Strands s := by
  refine strands_of_descent
    (I := fun s => .actuatorMovementTimerEventHandler ∉ s.queue ∧ s.timer = none ∧
      s.light.isActionInProgress = true ∧ s.light.mAutoTurnOffTimerArmed = false ∧
      s.light.mOffEffectArmed = false)
    (fun s => s.queue.length) ?_ ?_ ?_ ⟨hq, htimer, hprog, hauto, heffect⟩
  · intro s hs
    exact Or.inl hs.2.2.1
  · intro s t hs hrun
    exact absurd hs.2.1 hrun
  · rintro s t ⟨hq, htimer, hprog, hauto, heffect⟩ - ht
    obtain ⟨calls, htrans⟩ := step_transition ht
    cases htrans <;> simp_all

/-- What is left to do of a lost off effect: an event each, the expiry of the timer, which posts
one, and the action in progress, which may start the timer. -/
def effectMeasure (s : LightSystem) : ℕ :=
  s.queue.length + (if s.timer = none then 0 else 2) +
    if s.light.mState = .onInitiated then 2 else 0

/-- An event less makes the measure smaller, unless ON comes to be in progress. -/
lemma effectMeasure_tail (hq : s.queue = handler :: queue) {light : LightingManager}
    (hstate : light.mState = .onInitiated → s.light.mState = .onInitiated) :
    effectMeasure ⟨light, s.timer, queue⟩ < effectMeasure s := by
  have hle : (if light.mState = .onInitiated then 2 else 0) ≤
      if s.light.mState = .onInitiated then 2 else 0 := by
    split_ifs with h h' <;> simp_all
  show queue.length + (if s.timer = none then 0 else 2) +
    (if light.mState = .onInitiated then 2 else 0) < _
  rw [effectMeasure, hq, List.length_cons]
  omega

/-- An armed off effect that will not be dispatched: no event of it is queued, and the timer runs
for auto turn-off at most. -/
structure EffectLost (s : LightSystem) : Prop where
  notQueued : .offEffectTimerEventHandler ∉ s.queue
  armed : s.light.mOffEffectArmed = true
  auto : s.timer ≠ none → s.light.mAutoTurnOffTimerArmed = true

lemma EffectLost.tail (h : EffectLost s) (htimer : s.timer = none) (hq : s.queue = handler :: queue)
    {light : LightingManager} (heffect : light.mOffEffectArmed = true) :
    EffectLost ⟨light, s.timer, queue⟩ := by
  have hmem := h.notQueued
  rw [hq, List.mem_cons, not_or] at hmem
  exact ⟨hmem.2, heffect, fun hrun => absurd htimer hrun⟩

/-- ON may still be completed and auto turn-off started, but OFF is refused, and the effect stays
lost. -/
lemma EffectLost.dispatch (h : EffectLost s) (htimer : s.timer = none)
    (hstep : s.step .dispatch = some t) : EffectLost t ∧ effectMeasure t < effectMeasure s := by
  have hnot := h.notQueued
  have heffect := h.armed
  obtain ⟨calls, htrans⟩ := step_transition hstep
  cases htrans with
  | autoSpent queue hq _ => exact ⟨h.tail htimer hq heffect, effectMeasure_tail hq id⟩
  | autoOff queue _ _ hoff => exact absurd hoff.2 (by simp [heffect])
  | autoRefused queue hq _ _ => exact ⟨h.tail htimer hq heffect, effectMeasure_tail hq id⟩
  | effectSpent queue hq _ => exact absurd hnot (by simp [hq])
  | effectOff queue hq _ _ => exact absurd hnot (by simp [hq])
  | effectRefused queue hq _ _ => exact absurd hnot (by simp [hq])
  | movementSpent queue hq _ => exact ⟨h.tail htimer hq heffect, effectMeasure_tail hq id⟩
  | completeOff queue hq _ =>
    exact ⟨h.tail htimer hq heffect, effectMeasure_tail hq (by simp)⟩
  | completeOn queue hq _ _ =>
    exact ⟨h.tail htimer hq heffect, effectMeasure_tail hq (by simp)⟩
  | completeOnAuto queue hq hstate _ =>
    rw [hq, List.mem_cons, not_or] at hnot
    refine ⟨⟨hnot.2, heffect, fun _ => rfl⟩, ?_⟩
    -- the timer is started, and ON is no longer in progress
    simp [effectMeasure, hq, hstate, htimer]

lemma EffectLost.expire (h : EffectLost s) (hrun : s.timer ≠ none)
    (hstep : s.step .expire = some t) : EffectLost t ∧ effectMeasure t < effectMeasure s := by
  have hauto : s.light.mAutoTurnOffTimerArmed = true := h.auto hrun
  obtain ⟨calls, htrans⟩ := step_transition hstep
  cases htrans with
  | expire purpose htimer =>
    constructor
    · refine ⟨?_, h.armed, by simp⟩
      simpa [timerEventHandler, hauto] using h.notQueued
    · simp [effectMeasure, htimer]

lemma strands_effect (hq : .offEffectTimerEventHandler ∉ s.queue) (htimer : s.timer = none)
    (heffect : s.light.mOffEffectArmed = true) : Strands s := by
  have hlost : EffectLost s := ⟨hq, heffect, fun hrun => absurd htimer hrun⟩
  refine strands_of_descent effectMeasure ?_ ?_ ?_ hlost
  · intro s h
    exact Or.inr (Or.inr h.armed)
  · intro s t h hrun hstep
    exact h.expire hrun hstep
  · intro s t h htimer hstep
    exact h.dispatch htimer hstep

/-- **A step that is not carried strands the system.** -/
theorem strands_of_not_carried (hbad : ¬ Carried s a) (hstep : s.step a = some t) :
    Strands t := by
  cases a with
  | dispatch =>
    obtain ⟨calls, htrans⟩ := step_transition hstep
    simp only [Carried, Classical.not_imp] at hbad
    obtain ⟨htimer, hbad⟩ := hbad
    cases htrans with
    | autoRefused queue hq harmed _ =>
      simp only [hq, Classical.not_imp, not_and_or] at hbad
      obtain ⟨-, ⟨heffect, hmem⟩ | ⟨hprog, heffect, hmem⟩⟩ := hbad
      · exact strands_effect hmem htimer heffect
      · exact strands_action hmem htimer hprog rfl heffect
    | effectRefused queue hq harmed _ =>
      simp only [hq, Classical.not_imp] at hbad
      obtain ⟨-, hprog, hauto, hmem⟩ := hbad
      exact strands_action hmem htimer hprog hauto rfl
    | autoSpent queue hq harmed => simp [hq, harmed] at hbad
    | autoOff queue hq _ hoff => simp [hq, isActionInProgress, hoff.1, hoff.2] at hbad
    | effectSpent queue hq harmed => simp [hq, harmed] at hbad
    | effectOff queue hq _ hon => simp [hq, isActionInProgress, hon] at hbad
    | _ => simp_all
  | _ => exact absurd trivial hbad

/-! ### Runs -/

/-- ON, an off effect before the movement is over, and its event: ON stays in progress for good. -/
theorem onInitiated_stuck :
    ¬ ∀ (currentLedState initiatedCB completedCB : Bool) (log : List (LightSystem × LightAct))
      (t : LightSystem), Run step (start currentLedState initiatedCB completedCB) log t →
        Backed t := by
  intro h
  let effect : OnOffEffect := ⟨OnOffEffect.kDelayedAllOff, OnOffEffect.kDelayedOffFastFade⟩
  obtain ⟨t, ht⟩ : ∃ t, exec step (start false true true)
      [.initiateAction kEventTypeLight .onAction, .onTriggerOffWithEffect effect, .expire,
        .dispatch] = some t := ⟨_, rfl⟩
  have hbacked := h false true true _ t (run_execLog ht)
  obtain rfl := Option.some.inj ht
  exact absurd (hbacked (Or.inl rfl)) (by decide)

/-- **When pending work is backed.** In a run whose dispatches are all carried, pending work has
the timer running or an event in the queue in every state; and a step of such a run that is not
carried strands the system. -/
theorem pending_backed_unless (currentLedState initiatedCB completedCB : Bool) :
    (∀ log t, Run step (start currentLedState initiatedCB completedCB) log t →
      Meets Carried log → Always Backed log t) ∧
    ∀ log s a t, Run step (start currentLedState initiatedCB completedCB) log s →
      ¬ Carried s a → s.step a = some t → Strands t := by
  constructor
  · intro log t hrun hok
    have hkept : Always Kept log t :=
      hrun.guarded (kept_start _ _ _) (fun _ _ _ h hok hstep => h.step hok hstep) hok
    exact hkept.imp fun _ h => h.backed
  · intro log s a t _ hbad hstep
    exact strands_of_not_carried hbad hstep

end LightSystem

end MatterStrip
