import MatterStrip.App.Node

/-!
Whether the OnOff attribute and the light agree when nothing is left to be done.

The light goes where its last accepted action sends it, unless an off effect is to end that or the
event that completes the action is lost (`HeadsOn`); the attribute keeps what was last written. The
two are kept together by accepting the action of a write, or by a write-back that is still owed
(`Owed`). They come apart where that fails: a write or a button is refused for an action in
progress, the event of an armed off effect cuts in on a light that is turning on, or a write-back
runs while the light is turning on, and nothing is owed afterwards. `agree_at_rest` says that where
none of this happens they agree at rest, and that where it does the node, left alone, comes to a
rest at which they do not.
-/

namespace MatterStrip

open Lib LightingManager

namespace Node

variable {n : ℕ}

/-- The action in progress will be completed: the timer runs, or its event is queued. -/
def Completing (app : AppTask n) : Prop :=
  app.timer ≠ none ∨ .timerEvent .actuatorMovementTimerEventHandler ∈ app.queue

/-- The light is heading for on: it is on or will be, and no off effect is to end that. -/
def HeadsOn (app : AppTask n) : Prop :=
  app.light.mOffEffectArmed = false ∧
    (app.light.mState = .onCompleted ∨ app.light.mState = .onInitiated ∧ Completing app)

/-- The state of the light will be written back: the work is scheduled, a button is still to be
handled, or the action of a button will be completed. -/
def Owed (app : AppTask n) : Prop :=
  0 < app.scheduled ∨ .buttonEvent ∈ app.queue ∨
    app.mSyncClusterToButtonAction = true ∧ Completing app

/-- The attribute is where the light is heading, or a write-back is owed. -/
def OnTarget (d : Node n) : Prop := Owed d.app ∨ (d.onOff = true ↔ HeadsOn d.app)

/-- With no timer, no event and no work left, the attribute is on exactly if the light is. -/
def AgreesAtRest (d : Node n) : Prop :=
  d.app.timer = none → d.app.queue = [] → d.app.scheduled = 0 →
    (d.onOff = true ↔ d.app.light.mState = .onCompleted)

/-- The step forgets nothing. -/
def Remembered (d : Node n) : NodeAct → Prop
  -- a write during an action is not against it
  | .write newValue => d.onOff ≠ newValue → d.app.light.mOffEffectArmed = false →
      d.app.light.isActionInProgress = true → OnTarget ⟨d.app, newValue⟩
  | .dispatch =>
    match d.app.queue with
    -- the event of an armed off effect does not let the light come on
    | .timerEvent .offEffectTimerEventHandler :: queue =>
        d.app.light.mOffEffectArmed = true → d.app.light.mState = .onInitiated →
          Completing { d.app with queue := queue } → Owed { d.app with queue := queue }
    -- a button is not refused where a write-back is needed
    | .buttonEvent :: queue => d.app.light.mOffEffectArmed = false →
        d.app.light.isActionInProgress = true → OnTarget ⟨{ d.app with queue := queue }, d.onOff⟩
    | _ => True
  -- a write-back while the light is turning on is not the last one
  | .updateClusterState => d.app.light.mOffEffectArmed = false →
      d.app.light.mState = .onInitiated → Completing d.app →
        Owed { d.app with scheduled := d.app.scheduled - 1 }
  | _ => True

/-- What holds of the node whatever the attribute is heading for. -/
structure Sound (d : Node n) : Prop where
  set : CallbacksSet d.app.light
  /-- Auto turn-off is disabled. -/
  autoOff : d.app.light.mAutoTurnOff = false
  autoUnarmed : d.app.light.mAutoTurnOffTimerArmed = false
  /-- Only the button and the timer post events. -/
  events : ∀ action actor, .lightEvent action actor ∉ d.app.queue
  /-- An armed effect has the timer or its event. -/
  backed : d.app.light.mOffEffectArmed = true →
    d.app.timer ≠ none ∨ .timerEvent .offEffectTimerEventHandler ∈ d.app.queue
  /-- An effect is armed only by a command that writes off. -/
  effect : d.app.light.mOffEffectArmed = true → d.onOff = false
  /-- The sync flag is set only while an action is in progress. -/
  sync : d.app.mSyncClusterToButtonAction = true → d.app.light.isActionInProgress = true

variable {linear : UInt16 → ℚ} {d d' : Node n} {newValue : Bool} {w : AppTask n}

/-! ### At rest -/

lemma headsOn_iff_of_rest (h : Sound d) (htimer : d.app.timer = none) (hqueue : d.app.queue = []) :
    HeadsOn d.app ↔ d.app.light.mState = .onCompleted := by
  -- nothing backs an armed effect, and nothing completes an action
  have hunarmed : d.app.light.mOffEffectArmed = false := by
    rw [Bool.eq_false_iff]
    intro harmed
    rcases h.backed harmed with hrun | hmem
    · exact hrun htimer
    · simp [hqueue] at hmem
  have hnot : ¬ Completing d.app := by simp [Completing, htimer, hqueue]
  simp [HeadsOn, hunarmed, hnot]

lemma not_owed_of_rest (htimer : w.timer = none) (hqueue : w.queue = [])
    (hscheduled : w.scheduled = 0) : ¬ Owed w := by
  simp [Owed, Completing, htimer, hqueue, hscheduled]

/-- **Sound and on target, a node at rest agrees.** -/
theorem Sound.agreesAtRest (h : Sound d) (ht : OnTarget d) : AgreesAtRest d := by
  intro htimer hqueue hscheduled
  have hon := ht.resolve_left (not_owed_of_rest htimer hqueue hscheduled)
  exact hon.trans (headsOn_iff_of_rest h htimer hqueue)

/-- An armed effect was armed with the attribute written off, and the light is heading there. -/
lemma Sound.onTarget_of_armed (h : Sound d) (harmed : d.app.light.mOffEffectArmed = true) :
    OnTarget d := by
  right
  simp [HeadsOn, harmed, h.effect harmed]

/-! ### An accepted action -/

/-- After an accepted action the timer runs, and that is all that soundness asks for. -/
lemma sound_accepted (light : LightingManager) (hset : CallbacksSet light)
    (hauto : light.mAutoTurnOff = false) (harmed : light.mAutoTurnOffTimerArmed = false)
    (hevents : ∀ action actor, .lightEvent action actor ∉ w.queue)
    (heffect : light.mOffEffectArmed = true → newValue = false)
    (hprog : light.isActionInProgress = true) (aAction : Action) (aActor : Int32) :
    Sound ⟨{ w with light := light, timer := some .actuatorMovement }.actionInitiated aAction
      aActor, newValue⟩ :=
  ⟨hset, hauto, harmed, hevents, fun _ => Or.inl (by simp [AppTask.actionInitiated]), heffect,
    fun _ => hprog⟩

lemma Sound.on (h : Sound d) (newValue : Bool) (aActor : Int32) :
    Sound ⟨{ d.app with light := { d.app.light with mState := .onInitiated
                                                    mOffEffectArmed := false }
                        timer := some .actuatorMovement }.actionInitiated .onAction aActor,
      newValue⟩ := by
  refine sound_accepted _ ?_ ?_ ?_ ?_ ?_ ?_ _ _
  · exact ⟨h.set.initiated, h.set.completed⟩
  · exact h.autoOff
  · exact h.autoUnarmed
  · exact h.events
  · intro harmed
    cases harmed
  · rfl

/-- OFF, accepted with no effect armed. -/
lemma Sound.off (h : Sound d) (heffect : d.app.light.mOffEffectArmed = false) (newValue : Bool)
    (aActor : Int32) :
    Sound ⟨{ d.app with light := { d.app.light with mState := .offInitiated
                                                    mAutoTurnOffTimerArmed := false }
                        timer := some .actuatorMovement }.actionInitiated .offAction aActor,
      newValue⟩ := by
  refine sound_accepted _ ?_ ?_ ?_ ?_ ?_ ?_ _ _
  · exact ⟨h.set.initiated, h.set.completed⟩
  · exact h.autoOff
  · rfl
  · exact h.events
  · intro harmed
    have hfalse : d.app.light.mOffEffectArmed = true := harmed
    rw [heffect] at hfalse
    cases hfalse
  · rfl

/-! ### Writes -/

/-- **What a write leaves**: an accepted action on target, which was not against an action in
progress; or the application as it was, with the new value. -/
lemma Sound.setOnOffValue (h : Sound d) (linear : UInt16 → ℚ) (newValue : Bool) :
    Sound (d.setOnOffValue linear newValue) ∧
      (OnTarget (d.setOnOffValue linear newValue) ∧
          (d.app.light.mOffEffectArmed = true ∨ d.app.light.isActionInProgress = false) ∨
        d.setOnOffValue linear newValue = ⟨d.app, newValue⟩ ∧ (d.onOff = newValue ∨
          ¬ (newValue = true ∧ d.app.light.AcceptsOn) ∧
            ¬ (newValue = false ∧ d.app.light.AcceptsOff))) := by
  by_cases hsame : d.onOff = newValue
  · rw [setOnOffValue_same linear hsame]
    refine ⟨h, Or.inr ⟨?_, Or.inl hsame⟩⟩
    rw [← hsame]
  · rw [setOnOffValue_other linear hsame]
    rcases d.app.initiateAction_cases h.set kEventTypeLight
      (if newValue then .onAction else .offAction) with ⟨ha, hon, hr⟩ | ⟨ha, hoff, hr⟩ | ⟨hon, hoff, hr⟩
    · obtain rfl : newValue = true := by cases newValue <;> simp_all
      rw [hr]
      refine ⟨h.on true _, Or.inl ⟨Or.inr ?_, ?_⟩⟩
      · simp [HeadsOn, Completing, AppTask.actionInitiated]
      · rcases hon with hstate | harmed
        · exact Or.inr (by simp [isActionInProgress, hstate])
        · exact Or.inl harmed
    · obtain rfl : newValue = false := by cases newValue <;> simp_all
      rw [hr]
      refine ⟨h.off hoff.2 false _, Or.inl ⟨Or.inr ?_, Or.inr ?_⟩⟩
      · simp [HeadsOn, AppTask.actionInitiated]
      · simp [isActionInProgress, hoff.1]
    · rw [hr]
      have hnot : ¬ (newValue = true ∧ d.app.light.AcceptsOn) ∧
          ¬ (newValue = false ∧ d.app.light.AcceptsOff) := by
        cases newValue <;> simp_all
      -- ON is never refused with an effect armed
      have heffect : d.app.light.mOffEffectArmed = true → newValue = false := by
        intro harmed
        by_contra hnew
        have htrue : newValue = true := by simpa using hnew
        exact hnot.1 ⟨htrue, Or.inr harmed⟩
      constructor
      · exact ⟨h.set, h.autoOff, h.autoUnarmed, h.events, h.backed, heffect, h.sync⟩
      · exact Or.inr ⟨rfl, Or.inr hnot⟩

/-- A write that is refused with no action in progress is of what the light is. -/
lemma headsOn_of_refused (hon : ¬ (newValue = true ∧ w.light.AcceptsOn))
    (hoff : ¬ (newValue = false ∧ w.light.AcceptsOff))
    (heffect : w.light.mOffEffectArmed = false) (hprog : w.light.isActionInProgress = false) :
    newValue = true ↔ HeadsOn w := by
  cases newValue <;> cases hstate : w.light.mState <;>
    simp_all [HeadsOn, AcceptsOn, AcceptsOff, isActionInProgress]

theorem agreement_write (h : Sound d) :
    Sound (d.setOnOffValue linear newValue) ∧ (OnTarget d →
      (OnTarget (d.setOnOffValue linear newValue) ↔ Remembered d (.write newValue))) := by
  obtain ⟨hsound, ⟨ht', hidle⟩ | ⟨heq, hcases⟩⟩ := h.setOnOffValue linear newValue
  · refine ⟨hsound, fun _ => iff_of_true ht' ?_⟩
    intro _ heffect hprog
    rcases hidle with harmed | hidle
    · exact absurd (heffect.symm.trans harmed) (by simp)
    · exact absurd (hidle.symm.trans hprog) (by simp)
  · refine ⟨hsound, fun ht => ?_⟩
    rw [heq] at hsound ⊢
    constructor
    · intro ht' _ _ _
      exact ht'
    · intro hok
      by_cases hsame : d.onOff = newValue
      · rw [← hsame]
        exact ht
      · obtain ⟨hon, hoff⟩ := hcases.resolve_left hsame
        cases heffect : d.app.light.mOffEffectArmed with
        | true => exact hsound.onTarget_of_armed heffect
        | false =>
          cases hprog : d.app.light.isActionInProgress with
          | true => exact hok hsame heffect hprog
          | false => exact Or.inr (headsOn_of_refused hon hoff heffect hprog)

/-- A write-back that starts no action is on target, unless the light is turning on. -/
lemma onTarget_isLightOn (h : Sound ⟨w, w.light.isLightOn⟩) :
    OnTarget ⟨w, w.light.isLightOn⟩ ↔ (w.light.mOffEffectArmed = false →
      w.light.mState = .onInitiated → Completing w → Owed w) := by
  constructor
  · intro ht heffect hstate hcompleting
    rcases ht with howed | hon
    · exact howed
    · have hlight : w.light.isLightOn = true := hon.2 ⟨heffect, Or.inr ⟨hstate, hcompleting⟩⟩
      simp [isLightOn, hstate] at hlight
  · intro hok
    cases heffect : w.light.mOffEffectArmed with
    | true => exact h.onTarget_of_armed heffect
    | false =>
      by_cases hcomes : w.light.mState = .onInitiated ∧ Completing w
      · exact Or.inl (hok heffect hcomes.1 hcomes.2)
      · right
        simp only [HeadsOn, heffect, hcomes, isLightOn, true_and, or_false, decide_eq_true_eq]

theorem agreement_update (h : Sound d) (hstep : d.updateClusterState linear = some d') :
    Sound d' ∧ (OnTarget d' ↔ Remembered d .updateClusterState) := by
  unfold updateClusterState at hstep
  split at hstep
  · cases hstep
  · next scheduled hscheduled =>
    obtain rfl := Option.some.inj hstep
    have hbase : Sound { d with app := { d.app with scheduled := scheduled } } :=
      ⟨h.set, h.autoOff, h.autoUnarmed, h.events, h.backed, h.effect, h.sync⟩
    have hless : d.app.scheduled - 1 = scheduled := by omega
    simp only [Remembered, hless]
    obtain ⟨hsound, ⟨ht, hidle⟩ | ⟨heq, -⟩⟩ := hbase.setOnOffValue linear d.app.light.isLightOn
    · refine ⟨hsound, iff_of_true ht ?_⟩
      intro heffect hstate _
      rcases hidle with harmed | hidle
      · exact absurd (heffect.symm.trans harmed) (by simp)
      · simp [isActionInProgress, hstate] at hidle
    · refine ⟨hsound, ?_⟩
      rw [heq] at hsound ⊢
      exact onTarget_isLightOn (w := { d.app with scheduled := scheduled }) hsound

/-- The command on a light that is on arms the effect and writes off. -/
theorem agreement_offWithEffect (linear : UInt16 → ℚ) (h : Sound d) (effect : OnOffEffect) :
    Sound (d.offWithEffect linear effect) ∧
      (OnTarget d → OnTarget (d.offWithEffect linear effect)) := by
  by_cases hon : d.onOff = true
  · rw [offWithEffect_of_on linear h.set hon]
    have hsound : Sound (⟨{ d.app with light := { d.app.light with mOffEffectArmed := true }
                                       timer := some .offEffect }, false⟩ : Node n) :=
      ⟨⟨h.set.initiated, h.set.completed⟩, h.autoOff, h.autoUnarmed, h.events,
        fun _ => Or.inl (by simp), fun _ => rfl, h.sync⟩
    exact ⟨hsound, fun _ => hsound.onTarget_of_armed rfl⟩
  · rw [offWithEffect, if_neg hon]
    exact ⟨h, id⟩

/-! ### The timer -/

theorem agreement_expire (h : Sound d) {purpose : Purpose} (htimer : d.app.timer = some purpose) :
    Sound ⟨{ d.app with timer := none
                        queue := d.app.queue ++ [.timerEvent d.app.light.timerEventHandler] },
      d.onOff⟩ ∧
    (OnTarget ⟨{ d.app with timer := none
                            queue := d.app.queue ++ [.timerEvent d.app.light.timerEventHandler] },
      d.onOff⟩ ↔ OnTarget d) := by
  have hauto := h.autoUnarmed
  have hsound : Sound (⟨{ d.app with timer := none
                                     queue := d.app.queue ++
                                       [.timerEvent d.app.light.timerEventHandler] },
      d.onOff⟩ : Node n) := by
    refine ⟨h.set, h.autoOff, h.autoUnarmed, ?_, ?_, h.effect, h.sync⟩
    · intro action actor hmem
      rcases List.mem_append.1 hmem with hmem | hmem
      · exact h.events action actor hmem
      · simp at hmem
    · intro harmed
      have heffect : d.app.light.mOffEffectArmed = true := harmed
      right
      simp [timerEventHandler, hauto, heffect]
  refine ⟨hsound, ?_⟩
  cases heffect : d.app.light.mOffEffectArmed with
  | true => exact iff_of_true (hsound.onTarget_of_armed heffect) (h.onTarget_of_armed heffect)
  | false =>
    -- the event of the action is posted, so that it will be completed as before
    simp [OnTarget, Owed, HeadsOn, Completing, timerEventHandler, hauto, heffect, htimer]

/-- An event is taken from the queue, and the light changes its state or its effect at most. -/
lemma Sound.event (h : Sound d) {event : AppEvent} {queue : List AppEvent}
    (hq : d.app.queue = event :: queue) {light : LightingManager}
    (hset : CallbacksSet light) (hauto : light.mAutoTurnOff = d.app.light.mAutoTurnOff)
    (harmed : light.mAutoTurnOffTimerArmed = d.app.light.mAutoTurnOffTimerArmed)
    (heffect : light.mOffEffectArmed = true → d.app.light.mOffEffectArmed = true ∧
      event ≠ .timerEvent .offEffectTimerEventHandler)
    (hprog : d.app.mSyncClusterToButtonAction = true → light.isActionInProgress = true) :
    Sound ⟨{ d.app with light := light, queue := queue }, d.onOff⟩ := by
  refine ⟨hset, hauto.trans h.autoOff, harmed.trans h.autoUnarmed, ?_, ?_, ?_, hprog⟩
  · intro action actor hmem
    exact h.events action actor (hq ▸ List.mem_cons_of_mem _ hmem)
  · intro harmed
    obtain ⟨hold, hne⟩ := heffect harmed
    rcases h.backed hold with hrun | hmem
    · exact Or.inl hrun
    · rw [hq] at hmem
      exact Or.inr ((List.mem_cons.1 hmem).resolve_left hne.symm)
  · intro harmed
    exact h.effect (heffect harmed).1

section TimerEvent

variable {handler : TimerHandler} {queue : List AppEvent}

/-- An event that finds nothing to do. -/
lemma onTarget_spent (h : Sound d) (hq : d.app.queue = .timerEvent handler :: queue)
    (hidle : handler ≠ .actuatorMovementTimerEventHandler ∨
      d.app.light.isActionInProgress = false) :
    OnTarget ⟨{ d.app with queue := queue }, d.onOff⟩ ↔ OnTarget d := by
  rcases hidle with hne | hidle
  · have hne' := hne.symm
    simp [OnTarget, Owed, HeadsOn, Completing, hq, hne']
  · have hsync : d.app.mSyncClusterToButtonAction = false := by
      rw [Bool.eq_false_iff]
      intro hsync
      exact absurd (hidle.symm.trans (h.sync hsync)) (by simp)
    have hstate : d.app.light.mState ≠ .onInitiated := by
      intro hstate
      simp [isActionInProgress, hstate] at hidle
    simp [OnTarget, Owed, HeadsOn, hq, hsync, hstate]

/-- The action is completed: the light comes to where it was heading, and the sync flag becomes
scheduled work. -/
lemma agreement_completed (h : Sound d)
    (hq : d.app.queue = .timerEvent .actuatorMovementTimerEventHandler :: queue)
    {state : LightState}
    (hstate : d.app.light.mState = .offInitiated ∧ state = .offCompleted ∨
      d.app.light.mState = .onInitiated ∧ state = .onCompleted) (aAction : Action) :
    Sound ⟨{ d.app with light := { d.app.light with mState := state }
                        queue := queue }.actionCompleted aAction, d.onOff⟩ ∧
    (OnTarget ⟨{ d.app with light := { d.app.light with mState := state }
                            queue := queue }.actionCompleted aAction, d.onOff⟩ ↔
      OnTarget d) := by
  have hcompleting : Completing d.app := Or.inr (by simp [hq])
  unfold AppTask.actionCompleted
  cases hsync : d.app.mSyncClusterToButtonAction with
  | true =>
    simp only [if_true]
    have hbase : Sound (⟨{ d.app with light := { d.app.light with mState := state }
                                      queue := queue
                                      mSyncClusterToButtonAction := false }, d.onOff⟩ : Node n) :=
      Sound.event (d := ⟨{ d.app with mSyncClusterToButtonAction := false }, d.onOff⟩)
        ⟨h.set, h.autoOff, h.autoUnarmed, h.events, h.backed, h.effect, by simp⟩ hq
        ⟨h.set.initiated, h.set.completed⟩ rfl rfl (fun harmed => ⟨harmed, by simp⟩) (by simp)
    constructor
    · exact ⟨hbase.set, hbase.autoOff, hbase.autoUnarmed, hbase.events, hbase.backed,
        hbase.effect, hbase.sync⟩
    · exact iff_of_true (Or.inl (Or.inl (Nat.succ_pos _)))
        (Or.inl (Or.inr (Or.inr ⟨hsync, hcompleting⟩)))
  | false =>
    simp only [Bool.false_eq_true, if_false]
    constructor
    · refine h.event hq ⟨h.set.initiated, h.set.completed⟩ rfl rfl
        (fun harmed => ⟨harmed, by simp⟩) ?_
      intro hsync'
      exact absurd (hsync.symm.trans hsync') (by simp)
    · rcases hstate with ⟨hstate, rfl⟩ | ⟨hstate, rfl⟩ <;>
        simp [OnTarget, Owed, HeadsOn, hq, hsync, hstate, hcompleting]

/-- The event of the movement completes the action in progress, if there is one. -/
lemma agreement_movement (h : Sound d)
    (hq : d.app.queue = .timerEvent .actuatorMovementTimerEventHandler :: queue) :
    let w := { d.app with queue := queue }.dispatchEvent
      (.timerEvent .actuatorMovementTimerEventHandler)
    Sound ⟨w, d.onOff⟩ ∧ (OnTarget ⟨w, d.onOff⟩ ↔ OnTarget d) ∧ w.timer = d.app.timer ∧
      w.queue = queue := by
  have hcompleted : ∀ w : AppTask n, ∀ aAction, (w.actionCompleted aAction).timer = w.timer ∧
      (w.actionCompleted aAction).queue = w.queue := by
    intro w aAction
    unfold AppTask.actionCompleted
    split <;> exact ⟨rfl, rfl⟩
  simp only [AppTask.dispatchEvent]
  rcases d.app.light.actuatorMovement_cases with
    ⟨hstate, hr⟩ | ⟨hstate, -, hr⟩ | ⟨-, hauto, -⟩ | ⟨hstate, hr⟩
  · rw [handle, hr, AppTask.absorb_completed { d.app with queue := queue } h.set.completed]
    obtain ⟨hsound, hiff⟩ := agreement_completed h hq (Or.inl ⟨hstate, rfl⟩) .offAction
    exact ⟨hsound, hiff, hcompleted _ _⟩
  · rw [handle, hr, AppTask.absorb_completed { d.app with queue := queue } h.set.completed]
    obtain ⟨hsound, hiff⟩ := agreement_completed h hq (Or.inr ⟨hstate, rfl⟩) .onAction
    exact ⟨hsound, hiff, hcompleted _ _⟩
  · exact absurd (h.autoOff.symm.trans hauto) (by simp)
  · have hidle : d.app.light.isActionInProgress = false := by
      rcases hstate with hstate | hstate <;> simp [isActionInProgress, hstate]
    rw [handle, hr]
    exact ⟨h.event hq h.set rfl rfl (fun harmed => ⟨harmed, by simp⟩) h.sync,
      onTarget_spent h hq (Or.inr hidle), rfl, rfl⟩

/-- **A timer event that is not of an armed effect** changes nothing about where attribute and
light are heading, and starts no timer. -/
lemma agreement_unarmed (h : Sound d) (hq : d.app.queue = .timerEvent handler :: queue)
    (hidle : d.app.light.mOffEffectArmed = true → handler ≠ .offEffectTimerEventHandler) :
    let w := { d.app with queue := queue }.dispatchEvent (.timerEvent handler)
    Sound ⟨w, d.onOff⟩ ∧ (OnTarget ⟨w, d.onOff⟩ ↔ OnTarget d) ∧ w.timer = d.app.timer ∧
      w.queue = queue := by
  have htail : Sound ⟨{ d.app with queue := queue }, d.onOff⟩ :=
    h.event hq h.set rfl rfl (fun harmed => ⟨harmed, by simpa using hidle harmed⟩) h.sync
  cases handler with
  | autoTurnOffTimerEventHandler =>
    have hr : d.app.light.autoTurnOffTimerEventHandler = (d.app.light, []) := by
      simp [autoTurnOffTimerEventHandler, h.autoUnarmed]
    simp only [AppTask.dispatchEvent]
    rw [handle, hr]
    exact ⟨htail, onTarget_spent h hq (Or.inl (by simp)), rfl, rfl⟩
  | offEffectTimerEventHandler =>
    have hunarmed : d.app.light.mOffEffectArmed = false := by
      rw [Bool.eq_false_iff]
      exact fun harmed => hidle harmed rfl
    have hr : d.app.light.offEffectTimerEventHandler = (d.app.light, []) := by
      simp [offEffectTimerEventHandler, hunarmed]
    simp only [AppTask.dispatchEvent]
    rw [handle, hr]
    exact ⟨htail, onTarget_spent h hq (Or.inl (by simp)), rfl, rfl⟩
  | actuatorMovementTimerEventHandler => exact agreement_movement h hq

/-- **The event of an armed effect** turns a light off that is on, and finds the attribute off;
otherwise it disarms the effect, and the light may come on. -/
lemma agreement_effect (h : Sound d) (harmed : d.app.light.mOffEffectArmed = true)
    (hq : d.app.queue = .timerEvent .offEffectTimerEventHandler :: queue) :
    let w := { d.app with queue := queue }.dispatchEvent (.timerEvent .offEffectTimerEventHandler)
    Sound ⟨w, d.onOff⟩ ∧ (OnTarget ⟨w, d.onOff⟩ ↔ Remembered d .dispatch) := by
  have hoff : d.onOff = false := h.effect harmed
  have hok : Remembered d .dispatch ↔ (d.app.light.mState = .onInitiated →
      Completing { d.app with queue := queue } → Owed { d.app with queue := queue }) := by
    simp only [Remembered, hq, harmed, true_imp_iff]
  simp only [AppTask.dispatchEvent]
  rw [hok]
  rcases d.app.light.offEffect_cases with ⟨hunarmed, -⟩ | ⟨-, hstate, hr⟩ | ⟨-, hstate, hr⟩
  · exact absurd (hunarmed.symm.trans harmed) (by simp)
  · rw [handle, hr, AppTask.absorb_initiated { d.app with queue := queue } h.set.initiated]
    constructor
    · refine sound_accepted _ ?_ ?_ ?_ ?_ ?_ ?_ _ _
      · exact ⟨h.set.initiated, h.set.completed⟩
      · exact h.autoOff
      · rfl
      · intro action actor hmem
        exact h.events action actor (hq ▸ List.mem_cons_of_mem _ hmem)
      · intro harmed
        cases harmed
      · rfl
    · refine iff_of_true (Or.inr ?_) (by simp [hstate])
      simp [HeadsOn, AppTask.actionInitiated, hoff]
  · have happ : { d.app with queue := queue }.absorb
        ({ d.app.light with mOffEffectArmed := false }, []) =
      { d.app with light := { d.app.light with mOffEffectArmed := false }, queue := queue } := rfl
    rw [handle, hr, happ]
    constructor
    · exact h.event hq ⟨h.set.initiated, h.set.completed⟩ rfl rfl (by simp) h.sync
    · constructor
      · intro ht hinit hcompleting
        rcases ht with howed | hon
        · exact howed
        · have hlit : d.onOff = true := hon.2 ⟨rfl, Or.inr ⟨hinit, hcompleting⟩⟩
          exact absurd (hoff.symm.trans hlit) (by simp)
      · intro hok
        by_cases hcomes : d.app.light.mState = .onInitiated ∧
            Completing { d.app with queue := queue }
        · exact Or.inl (hok hcomes.1 hcomes.2)
        · right
          refine iff_of_false (by simp [hoff]) ?_
          rintro ⟨-, hon | hcomes'⟩
          · exact hstate hon
          · exact hcomes hcomes'

/-- **The timer events.** -/
theorem agreement_timerEvent (h : Sound d) (hq : d.app.queue = .timerEvent handler :: queue) :
    let w := { d.app with queue := queue }.dispatchEvent (.timerEvent handler)
    Sound ⟨w, d.onOff⟩ ∧
      (OnTarget d → (OnTarget ⟨w, d.onOff⟩ ↔ Remembered d .dispatch)) := by
  by_cases heffect : d.app.light.mOffEffectArmed = true ∧ handler = .offEffectTimerEventHandler
  · obtain ⟨harmed, rfl⟩ := heffect
    obtain ⟨hsound, hiff⟩ := agreement_effect h harmed hq
    exact ⟨hsound, fun _ => hiff⟩
  · obtain ⟨hsound, hiff, -⟩ := agreement_unarmed h hq fun harmed heq => heffect ⟨harmed, heq⟩
    refine ⟨hsound, fun ht => iff_of_true (hiff.2 ht) ?_⟩
    simp only [Remembered, hq]
    cases handler with
    | offEffectTimerEventHandler => exact fun harmed => absurd ⟨harmed, rfl⟩ heffect
    | autoTurnOffTimerEventHandler => trivial
    | actuatorMovementTimerEventHandler => trivial

/-! ### The button -/

/-- The button's action is refused during an action, or with an effect armed. -/
lemma busy_of_button_refused (hon : ¬ (w.buttonAction = .onAction ∧ w.light.AcceptsOn))
    (hoff : ¬ (w.buttonAction = .offAction ∧ w.light.AcceptsOff)) :
    w.light.mOffEffectArmed = true ∨ w.light.isActionInProgress = true := by
  cases hstate : w.light.mState <;>
    simp_all [AppTask.buttonAction, isLightOn, AcceptsOn, AcceptsOff, isActionInProgress]

/-- **The button's event** toggles the light, and the write-back is owed; or it is refused. -/
theorem agreement_button (h : Sound d) (hq : d.app.queue = .buttonEvent :: queue) :
    let w := { d.app with queue := queue }.dispatchEvent .buttonEvent
    Sound ⟨w, d.onOff⟩ ∧ (OnTarget ⟨w, d.onOff⟩ ↔ Remembered d .dispatch) := by
  have htail : Sound ⟨{ d.app with queue := queue }, d.onOff⟩ :=
    h.event hq h.set rfl rfl (fun harmed => ⟨harmed, by simp⟩) h.sync
  have hok : Remembered d .dispatch ↔ (d.app.light.mOffEffectArmed = false →
      d.app.light.isActionInProgress = true →
        OnTarget ⟨{ d.app with queue := queue }, d.onOff⟩) := by
    simp only [Remembered, hq]
  simp only [AppTask.dispatchEvent]
  rw [hok]
  rcases { d.app with queue := queue }.initiateAction_cases h.set kEventTypeButton
      { d.app with queue := queue }.buttonAction with
    ⟨-, hon, hr⟩ | ⟨-, hoff, hr⟩ | ⟨hon, hoff, hr⟩
  · rw [hr]
    refine ⟨htail.on d.onOff _, iff_of_true ?_ ?_⟩
    · exact Or.inl (Or.inr (Or.inr ⟨rfl, Or.inl (by simp [AppTask.actionInitiated])⟩))
    · intro hunarmed hprog
      rcases hon with hstate | harmed
      · have hstate' : d.app.light.mState = .offCompleted := hstate
        simp [isActionInProgress, hstate'] at hprog
      · exact absurd (hunarmed.symm.trans harmed) (by simp)
  · rw [hr]
    refine ⟨htail.off hoff.2 d.onOff _, iff_of_true ?_ ?_⟩
    · exact Or.inl (Or.inr (Or.inr ⟨rfl, Or.inl (by simp [AppTask.actionInitiated])⟩))
    · intro _ hprog
      have hstate : d.app.light.mState = .onCompleted := hoff.1
      simp [isActionInProgress, hstate] at hprog
  · rw [hr]
    refine ⟨htail, ?_⟩
    constructor
    · intro ht _ _
      exact ht
    · intro hok
      rcases busy_of_button_refused hon hoff with harmed | hprog
      · exact htail.onTarget_of_armed harmed
      · cases hunarmed : d.app.light.mOffEffectArmed with
        | true => exact htail.onTarget_of_armed hunarmed
        | false => exact hok hunarmed hprog

end TimerEvent

/-! ### One step -/

theorem agreement_dispatch (h : Sound d) (hstep : d.step linear .dispatch = some d') :
    Sound d' ∧ (OnTarget d → (OnTarget d' ↔ Remembered d .dispatch)) := by
  obtain ⟨app, happ, rfl⟩ := Option.map_eq_some_iff.1 hstep
  unfold AppTask.dispatch at happ
  split at happ
  · cases happ
  · next event queue hq =>
    obtain rfl := Option.some.inj happ
    cases event with
    | timerEvent handler => exact agreement_timerEvent h hq
    | buttonEvent =>
      obtain ⟨hsound, hiff⟩ := agreement_button h hq
      exact ⟨hsound, fun _ => hiff⟩
    | lightEvent action actor => exact absurd (hq ▸ List.mem_cons_self) (h.events action actor)

/-- **One step** stays sound; and from a state on target the next one is on target exactly if the
step forgets nothing. -/
theorem agreement_step (h : Sound d) {a : NodeAct} (hstep : d.step linear a = some d') :
    Sound d' ∧ (OnTarget d → (OnTarget d' ↔ Remembered d a)) := by
  cases a with
  | write newValue =>
    obtain rfl := Option.some.inj hstep
    exact agreement_write h
  | offWithEffect effect =>
    obtain rfl := Option.some.inj hstep
    obtain ⟨hsound, ht'⟩ := agreement_offWithEffect linear h effect
    exact ⟨hsound, fun ht => iff_of_true (ht' ht) trivial⟩
  | lightButton =>
    obtain rfl := Option.some.inj hstep
    constructor
    · refine ⟨h.set, h.autoOff, h.autoUnarmed, ?_, ?_, h.effect, h.sync⟩
      · intro action actor hmem
        rcases List.mem_append.1 hmem with hmem | hmem
        · exact h.events action actor hmem
        · simp at hmem
      · intro harmed
        exact (h.backed harmed).imp_right (List.mem_append_left _)
    · exact fun _ => iff_of_true (Or.inl (Or.inr (Or.inl (by simp)))) trivial
  | expire =>
    obtain ⟨app, happ, rfl⟩ := Option.map_eq_some_iff.1 hstep
    obtain ⟨purpose, htimer, rfl⟩ := Option.map_eq_some_iff.1 happ
    obtain ⟨hsound, hiff⟩ := agreement_expire h htimer
    exact ⟨hsound, fun ht => iff_of_true (hiff.2 ht) trivial⟩
  | dispatch => exact agreement_dispatch h hstep
  | updateClusterState =>
    obtain ⟨hsound, hiff⟩ := agreement_update h hstep
    exact ⟨hsound, fun _ => hiff⟩

theorem sound_start (n : ℕ) (buffer : Memory UInt8) (onOff : Bool) :
    Sound (start n buffer onOff) := by
  have hevents : ∀ action actor, .lightEvent action actor ∉ (start n buffer onOff).app.queue := by
    simp [start, AppTask.init]
  have hunarmed : (start n buffer onOff).app.light.mOffEffectArmed = false := rfl
  have hsync : (start n buffer onOff).app.mSyncClusterToButtonAction = true →
      (start n buffer onOff).app.light.isActionInProgress = true := by
    simp [start, AppTask.init]
  exact ⟨⟨rfl, rfl⟩, rfl, rfl, hevents, by simp [hunarmed], by simp [hunarmed], hsync⟩

lemma onTarget_start (n : ℕ) (buffer : Memory UInt8) (onOff : Bool) :
    OnTarget (start n buffer onOff) := by
  right
  cases onOff <;> simp [HeadsOn, start, AppTask.init, setCallbacks, LightingManager.init]

/-- **Every state that a run reaches is sound.** -/
theorem sound_of_run {buffer : Memory UInt8} {onOff : Bool} {log : List (Node n × NodeAct)}
    (h : Run (step linear) (start n buffer onOff) log d) : Sound d :=
  h.invariant (sound_start n buffer onOff) fun _ _ _ h hstep => (agreement_step h hstep).1

/-! ### What a forgotten step leads to -/

/-- How far the node is from rest: an event each, and an expiry that posts one. -/
def unrest (d : Node n) : ℕ := d.app.queue.length + if d.app.timer = none then 0 else 2

/-- Off target, no work is scheduled, no button is queued and no effect is armed: expiries and
timer events alone bring the node to rest, and leave it off target. -/
lemma astray_step (linear : UInt16 → ℚ) (h : Sound d) (ht : ¬ OnTarget d)
    (hrest : ¬ (d.app.timer = none ∧ d.app.queue = [])) :
    ∃ a d', (a = .expire ∨ a = .dispatch) ∧ d.step linear a = some d' ∧
      (Sound d' ∧ ¬ OnTarget d') ∧ unrest d' < unrest d := by
  cases htimer : d.app.timer with
  | some purpose =>
    obtain ⟨hsound, hiff⟩ := agreement_expire h htimer
    refine ⟨.expire, _, Or.inl rfl, ?_, ⟨hsound, fun ht' => ht (hiff.1 ht')⟩, ?_⟩
    · simp [step, AppTask.expire, htimer]
    · simp [unrest, htimer]
  | none =>
    obtain ⟨event, queue, hq⟩ := List.exists_cons_of_ne_nil fun hq => hrest ⟨htimer, hq⟩
    cases event with
    | timerEvent handler =>
      have hunarmed : d.app.light.mOffEffectArmed = true → handler ≠ .offEffectTimerEventHandler :=
        fun harmed => absurd (h.onTarget_of_armed harmed) ht
      obtain ⟨hsound, hiff, htimer', hqueue'⟩ := agreement_unarmed h hq hunarmed
      refine ⟨.dispatch, _, Or.inr rfl, ?_, ⟨hsound, fun ht' => ht (hiff.1 ht')⟩, ?_⟩
      · simp [step, AppTask.dispatch, hq]
      · unfold unrest
        rw [hqueue', htimer', hq, List.length_cons]
        omega
    | buttonEvent => exact absurd (Or.inl (Or.inr (Or.inl (by simp [hq])))) ht
    | lightEvent action actor => exact absurd (hq ▸ List.mem_cons_self) (h.events action actor)

/-- **Off target, the node comes to a rest at which it does not agree.** -/
theorem astray_of_not_onTarget (h : Sound d) (ht : ¬ OnTarget d) :
    ∃ log d', Run (step linear) d log d' ∧ (∀ p ∈ log, p.2 = .expire ∨ p.2 = .dispatch) ∧
      ¬ AgreesAtRest d' := by
  obtain ⟨log, d', hrun, hlog, ⟨hsound, ht'⟩, htimer, hqueue⟩ := exists_run_of_descent
    (fun a : NodeAct => a = .expire ∨ a = .dispatch)
    (fun d : Node n => d.app.timer = none ∧ d.app.queue = []) unrest
    (I := fun d => Sound d ∧ ¬ OnTarget d)
    (fun d hd hrest => astray_step linear hd.1 hd.2 hrest) ⟨h, ht⟩
  refine ⟨log, d', hrun, hlog, ?_⟩
  intro hagrees
  have hscheduled : d'.app.scheduled = 0 := by
    by_contra hne
    exact ht' (Or.inl (Or.inl (Nat.pos_of_ne_zero hne)))
  have hon := hagrees htimer hqueue hscheduled
  exact ht' (Or.inr (hon.trans (headsOn_iff_of_rest hsound htimer hqueue).symm))

/-! ### Runs -/

/-- On and Off, written within the time of the movement: the light stays on. -/
theorem off_forgotten :
    ∃ log d, Run (step linearExact) (start 1 (fun _ => 0) false) log d ∧
      log.map Prod.snd = [.write true, .write false, .expire, .dispatch] ∧
      d.app.timer = none ∧ d.app.queue = [] ∧ d.app.scheduled = 0 ∧
      d.onOff = false ∧ d.app.light.mState = .onCompleted := by
  obtain ⟨log, hrun, hlog⟩ := exists_run_of_exec (step linearExact) (start 1 (fun _ => 0) false)
    [.write true, .write false, .expire, .dispatch] rfl
  exact ⟨log, _, hrun, hlog, rfl, rfl, rfl, rfl, rfl⟩

/-- **When attribute and light agree at rest.** In a run whose steps forget nothing, the attribute
is on exactly if the light is on, in every state with no timer, no event and no work left; and the
first step that forgets something leads to such a state in which it is not, if the timer and the
queue are left to themselves. -/
theorem agree_at_rest (linear : UInt16 → ℚ) (n : ℕ) (buffer : Memory UInt8) (onOff : Bool) :
    (∀ log d, Run (step linear) (start n buffer onOff) log d → Meets Remembered log →
      Always AgreesAtRest log d) ∧
    ∀ log d a d', Run (step linear) (start n buffer onOff) log d → Meets Remembered log →
      ¬ Remembered d a → d.step linear a = some d' →
      ∃ log' v, Run (step linear) d' log' v ∧ (∀ p ∈ log', p.2 = .expire ∨ p.2 = .dispatch) ∧
        ¬ AgreesAtRest v := by
  have hinv : ∀ log d, Run (step linear) (start n buffer onOff) log d → Meets Remembered log →
      Always (fun d => Sound d ∧ OnTarget d) log d := by
    intro log d hrun hok
    refine hrun.guarded ⟨sound_start n buffer onOff, onTarget_start n buffer onOff⟩ ?_ hok
    intro t a u h hok hstep
    obtain ⟨hsound, hiff⟩ := agreement_step h.1 hstep
    exact ⟨hsound, (hiff h.2).2 hok⟩
  constructor
  · intro log d hrun hok
    exact (hinv log d hrun hok).imp fun _ h => h.1.agreesAtRest h.2
  · intro log d a d' hrun hok hbad hstep
    obtain ⟨-, h, ht⟩ := hinv log d hrun hok
    obtain ⟨hsound, hiff⟩ := agreement_step h hstep
    exact astray_of_not_onTarget hsound fun ht' => hbad ((hiff ht).1 ht')

end Node

end MatterStrip
