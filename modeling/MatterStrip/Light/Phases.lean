import MatterStrip.Light.Delays
import MatterStrip.Light.Purpose
import MatterStrip.Light.Settle

/-!
The light without off effects: one piece of work at a time.

As long as no off effect is triggered, the timer runs for one thing only, and the light goes through
a few phases that say what the timer and the queue hold (`Phase`). Nothing else is queued than the
event that the phase waits for, behind at most one event of an auto turn-off that OFF has overtaken.
So pending work and a running timer or a queued event are the same thing, and an auto turn-off that
is enabled, with a duration that the timer can be started with, does turn the light off.
-/

namespace MatterStrip

open Lib LightingManager

/-- The act is not the trigger of an off effect. -/
def LightAct.Plain (a : LightAct) : Prop := ∀ effect, a ≠ .onTriggerOffWithEffect effect

namespace LightSystem

/-- The event of an auto turn-off that OFF has overtaken, if there is one. -/
def Late (queue : List TimerHandler) : Prop :=
  queue = [] ∨ queue = [.autoTurnOffTimerEventHandler]

/-- Where a light without off effects is. -/
inductive Phase (s : LightSystem) : Prop
  | rest : s.light.isActionInProgress = false → s.light.mAutoTurnOffTimerArmed = false →
      s.timer = none → s.queue = [] → Phase s
  /-- the actuator moves -/
  | moving : s.light.isActionInProgress = true → s.light.mAutoTurnOffTimerArmed = false →
      s.timer = some .actuatorMovement → Late s.queue → Phase s
  /-- the end of the movement is still to be handled -/
  | moved (late : List TimerHandler) : s.light.isActionInProgress = true →
      s.light.mAutoTurnOffTimerArmed = false → s.timer = none → Late late →
      s.queue = late ++ [.actuatorMovementTimerEventHandler] → Phase s
  /-- auto turn-off is armed -/
  | waiting : s.light.mState = .onCompleted → s.light.mAutoTurnOffTimerArmed = true →
      s.timer = some .autoTurnOff → s.queue = [] → Phase s
  /-- auto turn-off is still to be handled -/
  | due : s.light.mState = .onCompleted → s.light.mAutoTurnOffTimerArmed = true →
      s.timer = none → s.queue = [.autoTurnOffTimerEventHandler] → Phase s

/-- A light without off effects is in one of its phases. -/
structure InPhase (s : LightSystem) : Prop where
  unarmed : s.light.mOffEffectArmed = false
  phase : Phase s

variable {s t : LightSystem} {a : LightAct}

/-! ### One step -/

/-- The settings do not show in the phase. -/
lemma Phase.congr (h : Phase s) {light : LightingManager}
    (hstate : light.mState = s.light.mState)
    (harmed : light.mAutoTurnOffTimerArmed = s.light.mAutoTurnOffTimerArmed) :
    Phase { s with light := light } := by
  have hprog : light.isActionInProgress = s.light.isActionInProgress := by
    simp [isActionInProgress, hstate]
  cases h with
  | rest h h' htimer hqueue => exact .rest (hprog.trans h) (harmed.trans h') htimer hqueue
  | moving h h' htimer hlate => exact .moving (hprog.trans h) (harmed.trans h') htimer hlate
  | moved late h h' htimer hlate hqueue =>
    exact .moved late (hprog.trans h) (harmed.trans h') htimer hlate hqueue
  | waiting h h' htimer hqueue => exact .waiting (hstate.trans h) (harmed.trans h') htimer hqueue
  | due h h' htimer hqueue => exact .due (hstate.trans h) (harmed.trans h') htimer hqueue

/-- In no phase is an event of an off effect queued. -/
lemma InPhase.head_ne (h : InPhase s) {queue : List TimerHandler} :
    s.queue ≠ .offEffectTimerEventHandler :: queue := by
  intro hq
  cases h.phase with
  | rest _ _ _ hqueue => simp [hqueue] at hq
  | moving _ _ _ hlate => rcases hlate with hqueue | hqueue <;> simp [hqueue] at hq
  | moved late _ _ _ hlate hqueue =>
    rcases hlate with rfl | rfl <;> simp [hqueue] at hq
  | waiting _ _ _ hqueue => simp [hqueue] at hq
  | due _ _ _ hqueue => simp [hqueue] at hq

/-- The event of an armed auto turn-off is alone. -/
lemma InPhase.auto_due (h : InPhase s) (harmed : s.light.mAutoTurnOffTimerArmed = true)
    {handler : TimerHandler} {queue : List TimerHandler} (hq : s.queue = handler :: queue) :
    s.light.mState = .onCompleted ∧ s.timer = none ∧ queue = [] := by
  cases h.phase with
  | rest _ hauto => simp [harmed] at hauto
  | moving _ hauto => simp [harmed] at hauto
  | moved late _ hauto => simp [harmed] at hauto
  | waiting _ _ _ hqueue => simp [hqueue] at hq
  | due hstate _ htimer hqueue =>
    rw [hqueue] at hq
    exact ⟨hstate, htimer, (List.cons.inj hq).2.symm⟩

/-- The event of the actuator is the last one. -/
lemma InPhase.movement_last (h : InPhase s) {queue : List TimerHandler}
    (hq : s.queue = .actuatorMovementTimerEventHandler :: queue) :
    s.light.isActionInProgress = true ∧ s.light.mAutoTurnOffTimerArmed = false ∧ s.timer = none ∧
      queue = [] := by
  cases h.phase with
  | rest _ _ _ hqueue => simp [hqueue] at hq
  | moving _ _ _ hlate => rcases hlate with hqueue | hqueue <;> simp [hqueue] at hq
  | moved late hprog hauto htimer hlate hqueue =>
    rcases hlate with rfl | rfl <;> simp [hqueue] at hq
    exact ⟨hprog, hauto, htimer, hq⟩
  | waiting _ _ _ hqueue => simp [hqueue] at hq
  | due _ _ _ hqueue => simp [hqueue] at hq

/-- A late event of auto turn-off is dropped. -/
lemma InPhase.spent (h : InPhase s) (hauto : s.light.mAutoTurnOffTimerArmed = false)
    {queue : List TimerHandler} (hq : s.queue = .autoTurnOffTimerEventHandler :: queue) :
    Phase { s with queue := queue } := by
  cases h.phase with
  | rest _ _ _ hqueue => simp [hqueue] at hq
  | moving hprog hauto htimer hlate =>
    rcases hlate with hqueue | hqueue <;> simp [hqueue] at hq
    exact .moving hprog hauto htimer (Or.inl hq)
  | moved late hprog hauto htimer hlate hqueue =>
    rcases hlate with rfl | rfl <;> simp [hqueue] at hq
    exact .moved [] hprog hauto htimer (Or.inl rfl) hq.symm
  | waiting _ harmed => simp [hauto] at harmed
  | due _ harmed => simp [hauto] at harmed

/-- What is queued when OFF is accepted is late. -/
lemma InPhase.late (h : InPhase s) (hstate : s.light.mState = .onCompleted) : Late s.queue := by
  cases h.phase with
  | rest _ _ _ hqueue => exact Or.inl hqueue
  | moving hprog => simp [isActionInProgress, hstate] at hprog
  | moved late hprog => simp [isActionInProgress, hstate] at hprog
  | waiting _ _ _ hqueue => exact Or.inl hqueue
  | due _ _ _ hqueue => exact Or.inr hqueue

/-- The expiry posts the event that the phase waits for. -/
lemma InPhase.expire (h : InPhase s) (htimer : s.timer ≠ none) :
    Phase { s with timer := none, queue := s.queue ++ [s.light.timerEventHandler] } := by
  cases h.phase with
  | rest _ _ hnone => exact absurd hnone htimer
  | moving hprog hauto _ hlate =>
    have hhandler : s.light.timerEventHandler = .actuatorMovementTimerEventHandler := by
      simp [timerEventHandler, hauto, h.unarmed]
    exact .moved s.queue hprog hauto rfl hlate (by rw [hhandler])
  | moved late _ _ hnone => exact absurd hnone htimer
  | waiting hstate harmed _ hqueue =>
    exact .due hstate harmed rfl (by simp [hqueue, timerEventHandler, harmed])
  | due _ _ hnone => exact absurd hnone htimer

/-- **One step** that triggers no off effect leads from phase to phase. -/
theorem InPhase.step (h : InPhase s) (ha : a.Plain) (hstep : s.step a = some t) : InPhase t := by
  obtain ⟨calls, htrans⟩ := step_transition hstep
  have hunarmed := h.unarmed
  cases htrans with
  | on aActor hon =>
    have hstate : s.light.mState = .offCompleted := hon.resolve_right (by simp [hunarmed])
    -- an off light is at rest
    have hrest : s.light.mAutoTurnOffTimerArmed = false ∧ s.queue = [] := by
      cases h.phase with
      | rest _ hauto _ hqueue => exact ⟨hauto, hqueue⟩
      | moving hprog => simp [isActionInProgress, hstate] at hprog
      | moved late hprog => simp [isActionInProgress, hstate] at hprog
      | waiting hon => simp [hstate] at hon
      | due hon => simp [hstate] at hon
    exact ⟨rfl, .moving rfl hrest.1 rfl (Or.inl hrest.2)⟩
  | off aActor hoff => exact ⟨hunarmed, .moving rfl rfl rfl (h.late hoff.1)⟩
  | refused aActor aAction _ _ => exact h
  | trigger effect => exact absurd rfl (ha effect)
  | enable aOn => exact ⟨hunarmed, h.phase.congr rfl rfl⟩
  | setDuration d => exact ⟨hunarmed, h.phase.congr rfl rfl⟩
  | expire purpose htimer => exact ⟨hunarmed, h.expire (by simp [htimer])⟩
  | autoSpent queue hq hauto => exact ⟨hunarmed, h.spent hauto hq⟩
  | autoOff queue hq harmed hoff =>
    obtain ⟨-, -, rfl⟩ := h.auto_due harmed hq
    exact ⟨hunarmed, .moving rfl rfl rfl (Or.inl rfl)⟩
  | autoRefused queue hq harmed hoff =>
    exact absurd ⟨(h.auto_due harmed hq).1, hunarmed⟩ hoff
  | effectSpent queue hq _ => exact absurd hq h.head_ne
  | effectOff queue hq _ _ => exact absurd hq h.head_ne
  | effectRefused queue hq _ _ => exact absurd hq h.head_ne
  | movementSpent queue hq hstate =>
    have hprog := (h.movement_last hq).1
    rcases hstate with hstate | hstate <;> simp [isActionInProgress, hstate] at hprog
  | completeOff queue hq _ =>
    obtain ⟨-, hauto, htimer, rfl⟩ := h.movement_last hq
    exact ⟨hunarmed, .rest rfl hauto htimer rfl⟩
  | completeOn queue hq _ _ =>
    obtain ⟨-, hauto, htimer, rfl⟩ := h.movement_last hq
    exact ⟨hunarmed, .rest rfl hauto htimer rfl⟩
  | completeOnAuto queue hq _ _ =>
    obtain ⟨-, -, -, rfl⟩ := h.movement_last hq
    exact ⟨hunarmed, .waiting rfl rfl rfl rfl⟩

theorem inPhase_start (currentLedState initiatedCB completedCB : Bool) :
    InPhase (start currentLedState initiatedCB completedCB) := by
  refine ⟨rfl, .rest ?_ rfl rfl rfl⟩
  cases currentLedState <;> rfl

/-! ### What a phase says -/

lemma InPhase.length_queue_le (h : InPhase s) : s.queue.length ≤ 2 := by
  cases h.phase with
  | rest _ _ _ hqueue => simp [hqueue]
  | moving _ _ _ hlate => rcases hlate with hqueue | hqueue <;> simp [hqueue]
  | moved late _ _ _ hlate hqueue => rcases hlate with rfl | rfl <;> simp [hqueue]
  | waiting _ _ _ hqueue => simp [hqueue]
  | due _ _ _ hqueue => simp [hqueue]

lemma InPhase.pending_iff (h : InPhase s) :
    Pending s.light ↔ s.timer ≠ none ∨ s.queue ≠ [] := by
  have hunarmed := h.unarmed
  cases h.phase with
  | rest hprog hauto htimer hqueue => simp [Pending, hprog, hauto, hunarmed, htimer, hqueue]
  | moving hprog hauto htimer hlate => simp [Pending, hprog, htimer]
  | moved late hprog hauto htimer hlate hqueue => simp [Pending, hprog, hqueue]
  | waiting hstate harmed htimer hqueue => simp [Pending, harmed, htimer]
  | due hstate harmed htimer hqueue => simp [Pending, harmed, hqueue]

lemma InPhase.handlersMatch (h : InPhase s) : HandlersMatch s := by
  intro purpose hrun
  have hunarmed := h.unarmed
  cases h.phase with
  | rest hprog hauto htimer hqueue => simp [htimer] at hrun
  | moving hprog hauto htimer hlate =>
    obtain rfl := Option.some.inj (htimer.symm.trans hrun)
    simp [timerEventHandler, hauto, hunarmed, Purpose.handler]
  | moved late hprog hauto htimer hlate hqueue => simp [htimer] at hrun
  | waiting hstate harmed htimer hqueue =>
    obtain rfl := Option.some.inj (htimer.symm.trans hrun)
    simp [timerEventHandler, harmed, Purpose.handler]
  | due hstate harmed htimer hqueue => simp [htimer] at hrun

/-! ### Runs -/

/-- Every state of a run without off effects is in a phase. -/
lemma inPhase_of_run {currentLedState initiatedCB completedCB : Bool}
    {log : List (LightSystem × LightAct)}
    (hrun : Run LightSystem.step (start currentLedState initiatedCB completedCB) log t)
    (hplain : Meets (fun _ a => a.Plain) log) : InPhase t :=
  (hrun.guarded (inPhase_start _ _ _) (fun _ _ _ h ha hstep => h.step ha hstep) hplain).2

/-- **Without off effects the timer and the queue are what is pending.** In every run that triggers
none, work is pending exactly while the timer runs or an event is queued; at most two events are ever
queued; and the timer's expiry is handled for what it was started for. -/
theorem pending_iff_of_plain (currentLedState initiatedCB completedCB : Bool)
    (log : List (LightSystem × LightAct)) (t : LightSystem)
    (hrun : Run LightSystem.step (start currentLedState initiatedCB completedCB) log t)
    (hplain : Meets (fun _ a => a.Plain) log) :
    (Pending t.light ↔ t.timer ≠ none ∨ t.queue ≠ []) ∧ t.queue.length ≤ 2 ∧ HandlersMatch t := by
  have h := inPhase_of_run hrun hplain
  exact ⟨h.pending_iff, h.length_queue_le, h.handlersMatch⟩

/-- A late event of auto turn-off: the timer has expired, and OFF is initiated before it is handled. -/
theorem pending_iff_of_plain_late :
    ∃ log t, Run LightSystem.step (start false true true) log t ∧
      log.map Prod.snd = [.enableAutoTurnOff true, .setAutoTurnOffDuration 60,
        .initiateAction kEventTypeLight .onAction, .expire, .dispatch, .expire,
        .initiateAction kEventTypeLight .offAction, .expire] ∧ t.queue.length = 2 ∧
      (Pending t.light ↔ t.timer ≠ none ∨ t.queue ≠ []) := by
  have hexec : exec LightSystem.step (start false true true) [.enableAutoTurnOff true,
      .setAutoTurnOffDuration 60, .initiateAction kEventTypeLight .onAction, .expire, .dispatch,
      .expire, .initiateAction kEventTypeLight .offAction, .expire] = some _ := rfl
  refine ⟨_, _, run_execLog hexec, map_snd_execLog hexec, rfl,
    (pending_iff_of_plain false true true _ _ (run_execLog hexec) ?_).1⟩
  exact meets_acts LightAct.Plain hexec (by simp [LightAct.Plain])

/-! ### Auto turn-off -/

section AutoTurnOff

variable {pdMsToTicks : UInt32 → UInt32}

/-- Auto turn-off is enabled, with a duration that the timer can be started with, and armed whenever
the light is on. -/
structure TurnsOff (pdMsToTicks : UInt32 → UInt32) (s : LightSystem) : Prop where
  inPhase : InPhase s
  enabled : s.light.mAutoTurnOff = true
  duration : 0 < pdMsToTicks (s.light.mAutoTurnOffDuration * 1000)
  armed : s.light.mState = .onCompleted → s.light.mAutoTurnOffTimerArmed = true

/-- The act triggers no off effect, does not disable auto turn-off, and sets no duration that the
timer cannot be started with. -/
structure LightAct.KeepsAutoTurnOff (pdMsToTicks : UInt32 → UInt32) (a : LightAct) : Prop where
  plain : a.Plain
  enabled : a ≠ .enableAutoTurnOff false
  duration : ∀ d, a = .setAutoTurnOffDuration d → 0 < pdMsToTicks (d * 1000)

lemma TurnsOff.step (h : TurnsOff pdMsToTicks s) (ha : LightAct.KeepsAutoTurnOff pdMsToTicks a)
    (hstep : s.step a = some t) : TurnsOff pdMsToTicks t := by
  have hphase := h.inPhase.step ha.plain hstep
  have henabled := h.enabled
  have hduration := h.duration
  have harmed := h.armed
  obtain ⟨calls, htrans⟩ := step_transition hstep
  cases htrans with
  | on aActor hon => exact ⟨hphase, henabled, hduration, by simp⟩
  | off aActor hoff => exact ⟨hphase, henabled, hduration, by simp⟩
  | refused aActor aAction _ _ => exact h
  | trigger effect => exact absurd rfl (ha.plain effect)
  | enable aOn =>
    refine ⟨hphase, ?_, hduration, harmed⟩
    show aOn = true
    by_contra hoff
    exact ha.enabled (by simp_all)
  | setDuration d => exact ⟨hphase, henabled, ha.duration d rfl, harmed⟩
  | expire purpose htimer => exact ⟨hphase, henabled, hduration, harmed⟩
  | autoSpent queue hq _ => exact ⟨hphase, henabled, hduration, harmed⟩
  | autoOff queue hq _ hoff => exact ⟨hphase, henabled, hduration, by simp⟩
  | autoRefused queue hq hauto hoff =>
    -- armed, the light is on, and OFF is accepted
    exact absurd ⟨(h.inPhase.auto_due hauto hq).1, h.inPhase.unarmed⟩ hoff
  | effectSpent queue hq _ => exact absurd hq h.inPhase.head_ne
  | effectOff queue hq _ _ => exact absurd hq h.inPhase.head_ne
  | effectRefused queue hq _ _ => exact absurd hq h.inPhase.head_ne
  | movementSpent queue hq _ => exact ⟨hphase, henabled, hduration, harmed⟩
  | completeOff queue hq _ => exact ⟨hphase, henabled, hduration, by simp⟩
  | completeOn queue hq _ hauto => simp [henabled] at hauto
  | completeOnAuto queue hq _ _ => exact ⟨hphase, henabled, hduration, fun _ => rfl⟩

/-- No start of the timer fails. -/
lemma TurnsOff.starts (h : TurnsOff pdMsToTicks s) (ha : a.Plain) :
    s.Starts (TimerStart.Succeeds pdMsToTicks) a := by
  cases a with
  | onTriggerOffWithEffect effect => exact absurd rfl (ha effect)
  | dispatch => exact fun _ _ _ => h.duration
  | _ => exact trivial

/-- At rest the light is off. -/
lemma TurnsOff.off_at_rest (h : TurnsOff pdMsToTicks s) (hrest : s.AtRest) :
    s.light.mState = .offCompleted := by
  obtain ⟨htimer, hqueue⟩ := hrest
  cases h.inPhase.phase with
  | rest hprog hauto _ _ =>
    cases hstate : s.light.mState with
    | offCompleted => rfl
    | onCompleted => exact absurd (hauto.symm.trans (h.armed hstate)) (by simp)
    | offInitiated => simp [isActionInProgress, hstate] at hprog
    | onInitiated => simp [isActionInProgress, hstate] at hprog
  | moving _ _ hrun _ => simp [htimer] at hrun
  | moved late _ _ _ _ hq => simp [hqueue] at hq
  | waiting _ _ hrun _ => simp [htimer] at hrun
  | due _ _ _ hq => simp [hqueue] at hq

/-- The expiries and dispatches keep auto turn-off as it is. -/
lemma keepsAutoTurnOff_of_own (h : a.Own) : LightAct.KeepsAutoTurnOff pdMsToTicks a := by
  rcases h with rfl | rfl
  · exact ⟨fun effect => by simp, by simp, by simp⟩
  · exact ⟨fun effect => by simp, by simp, by simp⟩

lemma TurnsOff.run {log : List (LightSystem × LightAct)} (h : TurnsOff pdMsToTicks s)
    (hrun : Run LightSystem.step s log t)
    (hkeeps : Meets (fun _ a => LightAct.KeepsAutoTurnOff pdMsToTicks a) log) :
    TurnsOff pdMsToTicks t ∧ Meets (Starts (TimerStart.Succeeds pdMsToTicks)) log := by
  obtain ⟨hlog, ht⟩ : Always (TurnsOff pdMsToTicks) log t :=
    hrun.guarded h (fun _ _ _ h ha hstep => h.step ha hstep) hkeeps
  exact ⟨ht, fun p hp => (hlog p hp).starts (hkeeps p hp).plain⟩

end AutoTurnOff

end LightSystem

end MatterStrip
