import MatterStrip.App.Between

/-!
Preemption without off effects and auto turn-off.

Nothing in the program enables auto turn-off. As long as no off effect is triggered either, nothing
is ever armed, no statement stops the timer, and every expiry of it is that of a movement. So the
condition on the other tasks falls away, and an action in progress is always going to be completed
(`plain_harmless`): the event that completes it is taken from the queue by the application task
itself, which cannot be inside `InitiateAction` at that time.
-/

namespace MatterStrip

open Lib LightingManager

/-- No off effect is triggered, and auto turn-off is not enabled. -/
def InterruptAct.Plain : InterruptAct → Prop
  | .other (.onTriggerOffWithEffect _) => False
  | .other (.enableAutoTurnOff aOn) => aOn = false
  | _ => True

/-- The statements that are executed only if something is armed. -/
def TaskPc.armed : TaskPc → Bool
  | .initiating .clearAutoTurnOff _ _ _ => true
  | .initiating .cancelAutoTurnOff _ _ _ => true
  | .initiating .cancelOffEffect _ _ _ => true
  | .initiating .clearOffEffect _ _ _ => true
  | .clearAutoTurnOffTimerArmed => true
  | .clearOffEffectArmed => true
  | .startAutoTurnOff => true
  | .armAutoTurnOff => true
  | _ => false

/-- The statements at which the event that completes the action has been taken from the queue. -/
def TaskPc.completes : TaskPc → Bool
  | .actuatorMovementTimerEventHandler => true
  | .setCompleted _ _ => true
  | _ => false

namespace Interrupted

variable {n : ℕ}

section Plain

variable {linear : UInt16 → ℚ} {w w' : AppTask n} {s t : Interrupted n} {a : InterruptAct}

/-- Nothing is armed, and every expiry of the timer is that of a movement. -/
structure Disarmed (w : AppTask n) : Prop where
  autoOff : w.light.mAutoTurnOff = false
  auto : w.light.mAutoTurnOffTimerArmed = false
  effect : w.light.mOffEffectArmed = false
  handlers : ∀ handler, .timerEvent handler ∈ w.queue → handler = .actuatorMovementTimerEventHandler

/-- The timer runs, or its event is queued. -/
def MovementDue (w : AppTask n) : Prop :=
  w.timer ≠ none ∨ .timerEvent .actuatorMovementTimerEventHandler ∈ w.queue

/-- Everywhere in a plain run: whatever is in progress, or about to be, is going to be completed. -/
structure Underway (s : Interrupted n) : Prop where
  kept : Kept s
  disarmed : Disarmed s.app
  pc : s.pc.armed = false
  due : s.app.light.isActionInProgress = true → MovementDue s.app ∨ s.pc.completes = true
  started : ∀ aActor aAction newState, s.pc = .initiating .setState aActor aAction newState →
    MovementDue s.app

lemma acts_plain {aActor : Int32} {aAction : Action} (h : w.Acts aActor aAction w')
    (hw : Disarmed w) : Disarmed w' ∧ (MovementDue w → MovementDue w') ∧
      (w'.light.mState = w.light.mState ∨ MovementDue w') := by
  cases h with
  | on _ =>
    exact ⟨⟨hw.autoOff, hw.auto, rfl, hw.handlers⟩,
      fun _ => Or.inl (by simp [AppTask.actionInitiated]),
      Or.inr (Or.inl (by simp [AppTask.actionInitiated]))⟩
  | off _ =>
    exact ⟨⟨hw.autoOff, rfl, hw.effect, hw.handlers⟩,
      fun _ => Or.inl (by simp [AppTask.actionInitiated]),
      Or.inr (Or.inl (by simp [AppTask.actionInitiated]))⟩
  | refused _ _ => exact ⟨hw, id, Or.inl rfl⟩

/-- Another task arms nothing, and starts an action only with the timer. -/
lemma other_plain {act : AppAct} (hset : CallbacksSet w.light) (hw : Disarmed w)
    (hplain : InterruptAct.Plain (.other act)) (hact : act ≠ .dispatch)
    (h : w.step linear act = some w') : Disarmed w' ∧ (MovementDue w → MovementDue w') ∧
      (w'.light.mState = w.light.mState ∨ MovementDue w') := by
  cases act with
  | attributeChange clusterId attributeId value =>
    obtain rfl := Option.some.inj h
    by_cases honoff : clusterId = onOffId ∧ attributeId = onOffAttributeId
    · have heq : w.matterPostAttributeChangeCallback linear clusterId attributeId value =
          w.initiateAction kEventTypeLight (if value 0 ≠ 0 then .onAction else .offAction) :=
        if_pos honoff
      rw [heq]
      exact acts_plain (w.acts_initiateAction hset _ _) hw
    · rw [AppTask.attributeChange_eq w honoff]
      exact ⟨⟨hw.autoOff, hw.auto, hw.effect, hw.handlers⟩, id, Or.inl rfl⟩
  | lightButton =>
    obtain rfl := Option.some.inj h
    refine ⟨⟨hw.autoOff, hw.auto, hw.effect, fun handler hmem => hw.handlers handler ?_⟩,
      fun hdue => hdue.imp id fun hmem => by simp [hmem], Or.inl rfl⟩
    simpa using hmem
  | onTriggerOffWithEffect effect => exact absurd hplain id
  | enableAutoTurnOff aOn =>
    obtain rfl : aOn = false := hplain
    obtain rfl := Option.some.inj h
    exact ⟨⟨rfl, hw.auto, hw.effect, hw.handlers⟩, id, Or.inl rfl⟩
  | setAutoTurnOffDuration d =>
    obtain rfl := Option.some.inj h
    exact ⟨⟨hw.autoOff, hw.auto, hw.effect, hw.handlers⟩, id, Or.inl rfl⟩
  | expire =>
    obtain ⟨purpose, -, rfl⟩ := Option.map_eq_some_iff.1 h
    have hhandler : w.light.timerEventHandler = .actuatorMovementTimerEventHandler := by
      simp [LightingManager.timerEventHandler, hw.auto, hw.effect]
    refine ⟨⟨hw.autoOff, hw.auto, hw.effect, ?_⟩, fun _ => Or.inr ?_, Or.inl rfl⟩
    · intro handler hmem
      rcases List.mem_append.1 hmem with hmem | hmem
      · exact hw.handlers handler hmem
      · rw [hhandler] at hmem
        simpa using hmem
    · simp [hhandler]
  | dispatch => exact absurd rfl hact
  | stripHandler =>
    obtain rfl := Option.some.inj h
    exact ⟨⟨hw.autoOff, hw.auto, hw.effect, hw.handlers⟩, id, Or.inl rfl⟩

lemma Underway.other {act : AppAct} (h : Underway s) (hplain : InterruptAct.Plain (.other act))
    (hstep : s.step linear (.other act) = some t) : Underway t := by
  by_cases hact : act = .dispatch
  · subst hact
    cases hstep
  · have hok : Orderly s (.other act) := by
      intro _ _ harmed
      rw [h.disarmed.effect] at harmed
      cases harmed
    have hkept := h.kept.step hok hstep
    obtain ⟨w', hw', rfl⟩ := exists_of_other hact hstep
    obtain ⟨hdisarmed, hdue, hstate⟩ := other_plain h.kept.set h.disarmed hplain hact hw'
    refine ⟨hkept, hdisarmed, h.pc, fun hprogress => ?_,
      fun _ _ _ hpc => hdue (h.started _ _ _ hpc)⟩
    rcases hstate with hstate | hstate
    · have hbefore : s.app.light.isActionInProgress = true := by
        rw [← hprogress]
        simp only [isActionInProgress, hstate]
      exact (h.due hbefore).imp hdue id
    · exact Or.inl hstate

lemma Underway.initiating {pc : ActionPc} {aActor : Int32} {aAction : Action}
    {newState : LightState} (h : Underway ⟨w, .initiating pc aActor aAction newState⟩) :
    Underway (next ⟨w, .initiating pc aActor aAction newState⟩) := by
  have hkept := h.kept.next
  obtain ⟨⟨⟨hcb, -⟩, -⟩, hw, hpc, hdue, hstarted⟩ := h
  have hauto : w.light.mAutoTurnOffTimerArmed = false := hw.auto
  have heffect : w.light.mOffEffectArmed = false := hw.effect
  have hmoves : w.light.isActionInProgress = true → MovementDue w := by
    intro hprogress
    refine (hdue hprogress).resolve_right ?_
    simp [TaskPc.completes]
  cases pc with
  | testAutoTurnOff =>
    simp only [Interrupted.next, initiatingNext, hauto, Bool.false_eq_true, false_and, if_false,
      Option.elim_some] at hkept ⊢
    exact ⟨hkept, hw, rfl, fun hprogress => Or.inl (hmoves hprogress), by simp⟩
  | clearAutoTurnOff => cases hpc
  | cancelAutoTurnOff => cases hpc
  | testOffEffect =>
    simp only [Interrupted.next, initiatingNext, heffect, Bool.false_eq_true, false_and, if_false,
      Option.elim_some] at hkept ⊢
    exact ⟨hkept, hw, rfl, fun hprogress => Or.inl (hmoves hprogress), by simp⟩
  | cancelOffEffect => cases hpc
  | clearOffEffect => cases hpc
  | startTimer =>
    have htimer :
        MovementDue (w.perform (.osTimerStart .actuatorMovement actuatorMovementPeriosMs)) :=
      Or.inl (by simp [AppTask.perform])
    exact ⟨hkept, ⟨hw.autoOff, hw.auto, hw.effect, hw.handlers⟩, rfl, fun _ => Or.inl htimer,
      fun _ _ _ _ => htimer⟩
  | setState =>
    have hmovement : MovementDue w := hstarted _ _ _ rfl
    exact ⟨hkept, ⟨hw.autoOff, hw.auto, hw.effect, hw.handlers⟩, rfl, fun _ => Or.inl hmovement,
      by simp [Interrupted.next, initiatingNext]⟩
  | testCallback =>
    have hcb : w.light.mActionInitiatedCB = true := hcb
    simp only [Interrupted.next, initiatingNext, hcb, if_true, Option.elim_some] at hkept ⊢
    exact ⟨hkept, hw, rfl, fun hprogress => Or.inl (hmoves hprogress), by simp⟩
  | setLed =>
    exact ⟨hkept, ⟨hw.autoOff, hw.auto, hw.effect, hw.handlers⟩, rfl,
      fun hprogress => Or.inl (hmoves hprogress),
      by simp [Interrupted.next, initiatingNext]⟩
  | turnOnOff =>
    exact ⟨hkept, ⟨hw.autoOff, hw.auto, hw.effect, hw.handlers⟩, rfl,
      fun hprogress => Or.inl (hmoves hprogress),
      by simp [Interrupted.next, initiatingNext]⟩
  | setSync =>
    exact ⟨hkept, ⟨hw.autoOff, hw.auto, hw.effect, hw.handlers⟩, rfl,
      fun hprogress => Or.inl (hmoves hprogress),
      by simp [Interrupted.next, initiatingNext]⟩

lemma Underway.get (h : Underway ⟨w, .get⟩) : Underway (next ⟨w, .get⟩) := by
  have hkept := h.kept.next
  cases hq : w.queue with
  | nil =>
    simp only [Interrupted.next, hq]
    exact h
  | cons event queue =>
    simp only [Interrupted.next, hq] at hkept ⊢
    obtain ⟨-, hw, -, hdue, -⟩ := h
    have hhandlers : ∀ handler, .timerEvent handler ∈ event :: queue →
        handler = .actuatorMovementTimerEventHandler :=
      fun handler hmem => hw.handlers handler (hq ▸ hmem)
    have hrest : Disarmed { w with queue := queue } :=
      ⟨hw.autoOff, hw.auto, hw.effect, fun handler hmem => hhandlers handler (by simp [hmem])⟩
    have hdue' : w.light.isActionInProgress = true →
        event ≠ .timerEvent .actuatorMovementTimerEventHandler →
          MovementDue { w with queue := queue } := by
      intro hprogress hne
      rcases (hdue hprogress).resolve_right Bool.false_ne_true with htimer | hmem
      · exact Or.inl htimer
      · have hmem' : .timerEvent .actuatorMovementTimerEventHandler ∈ event :: queue := hq ▸ hmem
        exact Or.inr ((List.mem_cons.1 hmem').resolve_left fun heq => hne heq.symm)
    cases event with
    | timerEvent handler =>
      obtain rfl := hhandlers handler (by simp)
      exact ⟨hkept, hrest, rfl, fun _ => Or.inr rfl, by simp [entry]⟩
    | buttonEvent =>
      exact ⟨hkept, hrest, rfl, fun hprogress => Or.inl (hdue' hprogress (by simp)),
        by simp [entry]⟩
    | lightEvent action actor =>
      exact ⟨hkept, hrest, rfl, fun hprogress => Or.inl (hdue' hprogress (by simp)),
        by simp [entry]⟩

/-- **A statement of the task keeps what is under way.** -/
theorem Underway.next (h : Underway s) : Underway s.next := by
  have hkept := h.kept.next
  obtain ⟨w, pc⟩ := s
  have hautoOff : w.light.mAutoTurnOff = false := h.disarmed.autoOff
  have hauto : w.light.mAutoTurnOffTimerArmed = false := h.disarmed.auto
  have heffect : w.light.mOffEffectArmed = false := h.disarmed.effect
  cases pc with
  | get => exact h.get
  | initiating pc aActor aAction newState => exact h.initiating
  | lightActionEventHandler => exact ⟨hkept, h.disarmed, rfl, h.due, by simp [Interrupted.next]⟩
  | initiateAction aActor aAction =>
    simp only [Interrupted.next] at hkept ⊢
    cases hnew : w.light.newState aAction with
    | none =>
      simp only [hnew] at hkept ⊢
      exact ⟨hkept, h.disarmed, rfl, h.due, by simp⟩
    | some newState =>
      simp only [hnew] at hkept ⊢
      exact ⟨hkept, h.disarmed, rfl, h.due, by simp⟩
  | autoTurnOffTimerEventHandler =>
    simp only [Interrupted.next, hauto, if_true] at hkept ⊢
    exact ⟨hkept, h.disarmed, rfl, h.due, by simp⟩
  | clearAutoTurnOffTimerArmed => cases h.pc
  | offEffectTimerEventHandler =>
    simp only [Interrupted.next, heffect, if_true] at hkept ⊢
    exact ⟨hkept, h.disarmed, rfl, h.due, by simp⟩
  | clearOffEffectArmed => cases h.pc
  | actuatorMovementTimerEventHandler =>
    simp only [Interrupted.next] at hkept ⊢
    split_ifs at hkept ⊢ with hoff hon
    · exact ⟨hkept, h.disarmed, rfl, fun _ => Or.inr rfl, by simp⟩
    · exact ⟨hkept, h.disarmed, rfl, fun _ => Or.inr rfl, by simp⟩
    · -- nothing is in progress
      exact ⟨hkept, h.disarmed, rfl,
        fun hprogress => by simp [isActionInProgress, hoff, hon] at hprogress, by simp⟩
  | setCompleted state actionCompleted =>
    obtain ⟨-, hstate, -⟩ := h.kept.promise
    have hdone : { w.light with mState := state }.isActionInProgress = false := by
      rw [hstate]
      exact isActionInProgress_completed w.light
    refine ⟨hkept, ⟨hautoOff, hauto, heffect, h.disarmed.handlers⟩, rfl, fun hprogress => ?_,
      by simp [Interrupted.next]⟩
    exact absurd (hdone.symm.trans hprogress) Bool.false_ne_true
  | completedCallback actionCompleted =>
    have hcb : w.light.mActionCompletedCB = true := h.kept.set.completed
    simp only [Interrupted.next, hcb, if_true, AppTask.actionCompleted] at hkept ⊢
    cases hsync : w.mSyncClusterToButtonAction with
    | false =>
      simp only [hsync, Bool.false_eq_true, if_false] at hkept ⊢
      exact ⟨hkept, h.disarmed, rfl, h.due, by simp⟩
    | true =>
      simp only [hsync, if_true] at hkept ⊢
      exact ⟨hkept, ⟨hautoOff, hauto, heffect, h.disarmed.handlers⟩, rfl, h.due, by simp⟩
  | testAutoTurnOff actionCompleted =>
    simp only [Interrupted.next, hautoOff, Bool.false_eq_true, false_and, if_false] at hkept ⊢
    exact ⟨hkept, h.disarmed, rfl, h.due, by simp⟩
  | startAutoTurnOff => cases h.pc
  | armAutoTurnOff => cases h.pc

lemma underway_start (n : ℕ) (buffer : Memory UInt8) (currentLedState : Bool) :
    Underway (start n buffer currentLedState) := by
  have hkept := kept_start n buffer currentLedState
  have hdisarmed : Disarmed (start n buffer currentLedState).app :=
    ⟨rfl, rfl, rfl, by simp [start, AppTask.init]⟩
  refine ⟨hkept, hdisarmed, rfl, fun hprogress => ?_, by simp [start]⟩
  cases currentLedState <;> cases hprogress

/-- **Without off effects and auto turn-off, preemption does no harm.** In every run that triggers
none and does not enable the other, wherever the task is preempted: outside of `ActionInitiated` the
LED and the strip are switched as the light is; and an action that is in progress while the task
waits for an event has the timer running, or its event in the queue, to complete it. -/
theorem plain_harmless (linear : UInt16 → ℚ) (n : ℕ) (buffer : Memory UInt8)
    (currentLedState : Bool) (log : List (Interrupted n × InterruptAct)) (t : Interrupted n)
    (hrun : Run (step linear) (start n buffer currentLedState) log t)
    (hplain : Meets (fun _ a => a.Plain) log) :
    (t.pc.inCallback = false → t.app.sLightLED = t.app.light.mState.isOn ∧
      t.app.strip.ctl.turnedOn = t.app.light.mState.isOn) ∧
    (t.pc = .get → t.app.light.isActionInProgress = true →
      t.app.timer ≠ none ∨ .timerEvent .actuatorMovementTimerEventHandler ∈ t.app.queue) := by
  have hunderway : Always Underway log t := by
    refine hrun.guarded (underway_start n buffer currentLedState) ?_ hplain
    intro s a u h ha hstep
    cases a with
    | task =>
      obtain rfl := Option.some.inj hstep
      exact h.next
    | other act => exact h.other ha hstep
  refine ⟨hunderway.2.kept.promise.agrees, fun hpc hprogress => ?_⟩
  have hdue := hunderway.2.due hprogress
  rw [hpc] at hdue
  exact hdue.resolve_right Bool.false_ne_true

/-- Both tasks turn the light off, and the timer expires in between. -/
theorem plain_harmless_twice :
    ∃ log t, Run (step linearExact) (start 1 (fun _ => 0) true) log t ∧
      log.map Prod.snd = [.other .lightButton] ++ List.replicate 3 .task ++
        [.other (.attributeChange onOffId onOffAttributeId fun _ => 0), .other .expire] ++
        List.replicate 8 .task ∧
      t.app.light.mState = .offInitiated ∧ t.app.queue.length = 1 ∧
      (t.app.timer ≠ none ∨ .timerEvent .actuatorMovementTimerEventHandler ∈ t.app.queue) := by
  obtain ⟨t, ht, hpc, hstate, hqueue⟩ : ∃ t, exec (step linearExact) (start 1 (fun _ => 0) true)
      ([.other .lightButton] ++ List.replicate 3 .task ++
        [.other (.attributeChange onOffId onOffAttributeId fun _ => 0), .other .expire] ++
        List.replicate 8 .task) = some t ∧ t.pc = .get ∧ t.app.light.mState = .offInitiated ∧
        t.app.queue.length = 1 := ⟨_, rfl, rfl, rfl, rfl⟩
  have hplain := meets_acts InterruptAct.Plain ht (by simp [InterruptAct.Plain])
  exact ⟨_, t, run_execLog ht, map_snd_execLog ht, hstate, hqueue,
    (plain_harmless linearExact 1 (fun _ => 0) true _ t (run_execLog ht) hplain).2 hpc
      (by simp [isActionInProgress, hstate])⟩

end Plain

end Interrupted

end MatterStrip
