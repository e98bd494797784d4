import MatterStrip.App.Moves

/-!
The node comes to rest on its own, and every press of its button is written back.

Left alone, the node lets its timer expire, handles its events and does its scheduled work. `work`
prices each thing that is pending by the steps that it can still cause, and each of these steps
leaves less. The write-backs are counted against the presses that asked for them: at any time the
difference is what is scheduled, and the one that waits for its action to be completed.
-/

namespace MatterStrip

open Lib LightingManager

/-- The steps that an event can cause, its own among them: a button starts the timer, whose event is
to be handled, and asks for a write-back. -/
def AppEvent.cost : AppEvent → ℕ
  | .timerEvent _ => 1
  | .buttonEvent => 4
  | .lightEvent _ _ => 4

variable {n : ℕ}

namespace AppTask

/-- The steps that what is pending can still cause; an armed off effect may start the timer. -/
def work (w : AppTask n) : ℕ :=
  (w.queue.map AppEvent.cost).sum + (if w.timer = none then 0 else 2) +
    (if w.light.mOffEffectArmed then 2 else 0) + w.mSyncClusterToButtonAction.toNat + w.scheduled

variable {w w' : AppTask n} {aActor : Int32} {aAction : Action}

/-- Completing an action turns a note that a write-back is wanted into one that is scheduled. -/
lemma work_actionCompleted (w : AppTask n) (aAction : Action) :
    (w.actionCompleted aAction).work = w.work := by
  unfold actionCompleted
  cases hsync : w.mSyncClusterToButtonAction with
  | true =>
    simp [work, hsync]
    omega
  | false => simp

/-- An action starts the timer, and that of a button asks for a write-back. -/
lemma Acts.work_le (h : w.Acts aActor aAction w') : w'.work ≤ w.work + 3 := by
  have htimer : (if w.timer = none then 0 else 2) ≤ 2 := by split <;> omega
  have hsync : ∀ b : Bool, b.toNat ≤ 1 := Bool.toNat_le
  cases h with
  | on hon =>
    have hnew := hsync (if aActor = kEventTypeButton then true else w.mSyncClusterToButtonAction)
    simp only [work, actionInitiated, reduceCtorEq, if_false, Bool.false_eq_true]
    omega
  | off hoff =>
    have hnew := hsync (if aActor = kEventTypeButton then true else w.mSyncClusterToButtonAction)
    simp only [work, actionInitiated, reduceCtorEq, if_false]
    omega
  | refused _ _ => omega

/-- An action that is not of a button, and ON only in place of an off effect, adds nothing. -/
lemma Acts.work_le_of_effect (h : w.Acts kEventTypeLight aAction w')
    (hon : aAction = .onAction → w.light.AcceptsOn → w.light.mOffEffectArmed = true)
    (hoff : aAction = .offAction → ¬ w.light.AcceptsOff) : w'.work ≤ w.work := by
  cases h with
  | on haccepts =>
    have harmed := hon rfl haccepts
    have hactor : ¬ kEventTypeLight = kEventTypeButton := by decide
    simp [work, actionInitiated, harmed, hactor]
  | off haccepts => exact absurd haccepts (hoff rfl)
  | refused _ _ => omega

/-- The write-backs that are still to come. -/
def owed (w : AppTask n) : ℕ := w.scheduled + w.mSyncClusterToButtonAction.toNat

lemma owed_actionCompleted (w : AppTask n) (aAction : Action) :
    (w.actionCompleted aAction).owed = w.owed := by
  unfold actionCompleted owed
  cases hsync : w.mSyncClusterToButtonAction <;> simp [hsync]

/-- An action that is not of a button owes nothing. -/
lemma owed_actionInitiated (aAction : Action) (h : aActor ≠ kEventTypeButton) :
    (w.actionInitiated aAction aActor).owed = w.owed := by
  rw [owed, actionInitiated, if_neg h]
  rfl

lemma Acts.owed (h : w.Acts kEventTypeLight aAction w') : w'.owed = w.owed := by
  cases h with
  | on _ => exact owed_actionInitiated _ (by decide)
  | off _ => exact owed_actionInitiated _ (by decide)
  | refused _ _ => rfl

end AppTask

/-- The steps that the node takes without the network or a button. -/
def NodeAct.Own (a : NodeAct) : Prop := a = .expire ∨ a = .dispatch ∨ a = .updateClusterState

lemma NodeAct.Own.ne_offWithEffect {a : NodeAct} (h : a.Own) (effect : OnOffEffect) :
    a ≠ .offWithEffect effect := by
  rcases h with rfl | rfl | rfl <;> simp

namespace Node

def AtRest (d : Node n) : Prop := d.app.timer = none ∧ d.app.queue = [] ∧ d.app.scheduled = 0

variable {linear : UInt16 → ℚ} {d d' : Node n} {a : NodeAct} {buffer : Memory UInt8} {onOff : Bool}
  {log log' : List (Node n × NodeAct)}

/-- **Each own step leaves less work.** -/
lemma Move.work_lt (h : Move d a d') (ha : a.Own) : d'.app.work < d.app.work := by
  cases h with
  | same _ => simp [NodeAct.Own] at ha
  | write _ _ => simp [NodeAct.Own] at ha
  | armed effect _ => simp [NodeAct.Own] at ha
  | noEffect effect _ => simp [NodeAct.Own] at ha
  | pressed => simp [NodeAct.Own] at ha
  | expired htimer => simp [AppTask.work, htimer, AppEvent.cost]
  | spent hq _ _ => simp [AppTask.work, hq, AppEvent.cost]
  | effectOff hq harmed hstate =>
    have hactor : ¬ kEventTypeTimer = kEventTypeButton := by decide
    simp [AppTask.work, AppTask.actionInitiated, hq, harmed, hactor, AppEvent.cost]
    omega
  | effectRefused hq harmed hstate => simp [AppTask.work, hq, harmed, AppEvent.cost]; omega
  | completedOff hq hstate =>
    rw [AppTask.work_actionCompleted]
    simp [AppTask.work, hq, AppEvent.cost]
  | completedOn hq hstate =>
    rw [AppTask.work_actionCompleted]
    simp [AppTask.work, hq, AppEvent.cost]
  | button hq hacts =>
    have hle := hacts.work_le
    simp only [AppTask.work, hq, AppEvent.cost, List.map_cons, List.sum_cons] at hle ⊢
    omega
  | upToDate hscheduled hsame => simp [AppTask.work, hscheduled]
  | writeBack hscheduled hne hacts =>
    -- a light that is on accepts ON only in place of an off effect, and one that is not refuses OFF
    have hle := hacts.work_le_of_effect
      (by
        intro _ haccepts
        rcases haccepts with hstate | harmed
        · simp_all [isLightOn]
        · exact harmed)
      (by
        rintro hoff ⟨hstate, -⟩
        simp_all [isLightOn])
    simp only [AppTask.work, hscheduled] at hle ⊢
    omega

/-- A node that is not at rest has a step of its own to take. -/
lemma exists_own (linear : UInt16 → ℚ) (h : ¬ d.AtRest) : ∃ a d', a.Own ∧ d.step linear a = some d' := by
  by_cases htimer : d.app.timer = none
  · by_cases hqueue : d.app.queue = []
    · cases hscheduled : d.app.scheduled with
      | zero => exact absurd ⟨htimer, hqueue, hscheduled⟩ h
      | succ scheduled =>
        refine ⟨.updateClusterState, { d with app := { d.app with scheduled := scheduled } }.setOnOffValue
          linear d.app.light.isLightOn, Or.inr (Or.inr rfl), ?_⟩
        simp only [step, updateClusterState, hscheduled]
    · obtain ⟨event, queue, hq⟩ := List.exists_cons_of_ne_nil hqueue
      refine ⟨.dispatch, ⟨{ d.app with queue := queue }.dispatchEvent event, d.onOff⟩,
        Or.inr (Or.inl rfl), ?_⟩
      simp only [step, AppTask.dispatch, hq, Option.map_some]
  · obtain ⟨purpose, htimer⟩ := Option.ne_none_iff_exists'.1 htimer
    refine ⟨.expire, ⟨{ d.app with timer := none
                                   queue := d.app.queue ++
                                     [.timerEvent d.app.light.timerEventHandler] }, d.onOff⟩,
      Or.inl rfl, ?_⟩
    simp only [step, AppTask.expire, htimer, Option.map_some]

/-- **The node comes to rest.** From every state that a run reaches, however expiries, events and
scheduled work follow one another, there are no more of them than `work` says; where none can follow,
nothing is pending; and they do lead there. The starts of the timer are taken to succeed
(`startsSucceed_of_run` says when they do). -/
theorem comes_to_rest (linear : UInt16 → ℚ) (n : ℕ) (buffer : Memory UInt8) (onOff : Bool)
    (log : List (Node n × NodeAct)) (d : Node n)
    (hrun : Run (step linear) (start n buffer onOff) log d) :
    (∀ log' d', Run (step linear) d log' d' → (∀ p ∈ log', p.2.Own) →
      log'.length ≤ d.app.work ∧ ((∀ a, a.Own → d'.step linear a = none) → d'.AtRest)) ∧
    ∃ log' d', Run (step linear) d log' d' ∧ (∀ p ∈ log', p.2.Own) ∧ d'.AtRest := by
  refine rests NodeAct.Own AtRest (fun d => d.app.work) ?_ ?_ (sound_of_run hrun)
  · intro d a d' h ha hstep
    exact ⟨(agreement_step h hstep).1, (h.step_move hstep).work_lt ha⟩
  · exact fun d _ hrest => exists_own linear hrest

/-- A light that is switched on by its button has at most four steps to take. -/
theorem comes_to_rest_button :
    ∃ log d, Run (step linearExact) (start 1 (fun _ => 0) false) log d ∧
      log.map Prod.snd = [.lightButton] ∧ ∀ log' d', Run (step linearExact) d log' d' →
        (∀ p ∈ log', p.2.Own) → log'.length ≤ 4 := by
  obtain ⟨log, hrun, hlog⟩ := exists_run_of_exec (step linearExact) (start 1 (fun _ => 0) false)
    [.lightButton] rfl
  obtain ⟨hlen, -⟩ := comes_to_rest linearExact 1 (fun _ => 0) false log _ hrun
  exact ⟨log, _, hrun, hlog, fun log' d' hrun' hown => (hlen log' d' hrun' hown).1⟩

/-! ### The write-backs, counted -/

/-- The step is an action of the button that is accepted. -/
def accepts (d : Node n) (a : NodeAct) : Bool :=
  a = .dispatch && d.app.queue.head? = some .buttonEvent &&
    (d.app.light.initiateAction kEventTypeButton d.app.buttonAction).1

/-- The step is an accepted action of the button that finds no other waiting for its write-back. -/
def asks (d : Node n) (a : NodeAct) : Bool := accepts d a && !d.app.mSyncClusterToButtonAction

def writesBack (a : NodeAct) : Bool := a = .updateClusterState

lemma accepts_of_timerEvent {handler : TimerHandler} {queue : List AppEvent}
    (hq : d.app.queue = .timerEvent handler :: queue) : accepts d .dispatch = false := by
  simp [accepts, hq]

/-- An action of the button is accepted exactly if it changes the light. -/
lemma accepts_of_button {queue : List AppEvent} (hq : d.app.queue = .buttonEvent :: queue) :
    accepts d .dispatch = (d.app.light.initiateAction kEventTypeButton d.app.buttonAction).1 := by
  simp [accepts, hq]

/-- An accepted action of the button owes a write-back, if none was owed for one already. -/
lemma owed_button {w' : AppTask n} {queue : List AppEvent} (hq : d.app.queue = .buttonEvent :: queue)
    (h : { d.app with queue := queue }.Acts kEventTypeButton d.app.buttonAction w') :
    w'.owed = d.app.owed + (asks d .dispatch).toNat := by
  rw [asks, accepts_of_button hq]
  generalize haction : d.app.buttonAction = aAction at h
  cases h with
  | on hon =>
    have hr := LightingManager.initiateAction_on d.app.light hon kEventTypeButton
    cases hsync : d.app.mSyncClusterToButtonAction <;>
      simp [AppTask.owed, AppTask.actionInitiated, hr, hsync]
  | off hoff =>
    have hr := LightingManager.initiateAction_off d.app.light hoff kEventTypeButton
    cases hsync : d.app.mSyncClusterToButtonAction <;>
      simp [AppTask.owed, AppTask.actionInitiated, hr, hsync]
  | refused hon hoff =>
    have hr := LightingManager.initiateAction_refused d.app.light ⟨hon, hoff⟩ kEventTypeButton
    simp [AppTask.owed, hr]

/-- **What a step owes and what it writes back.** -/
lemma Move.owed (h : Move d a d') :
    d'.app.owed + (writesBack a).toNat = d.app.owed + (asks d a).toNat := by
  cases h with
  | same _ => rfl
  | write _ hacts =>
    rw [hacts.owed]
    rfl
  | armed effect _ => rfl
  | noEffect effect _ => rfl
  | pressed => rfl
  | expired _ => rfl
  | spent hq _ _ =>
    rw [asks, accepts_of_timerEvent hq]
    rfl
  | effectOff hq _ _ =>
    rw [asks, accepts_of_timerEvent hq, AppTask.owed_actionInitiated _ (by decide)]
    rfl
  | effectRefused hq _ _ =>
    rw [asks, accepts_of_timerEvent hq]
    rfl
  | completedOff hq _ =>
    rw [asks, accepts_of_timerEvent hq, AppTask.owed_actionCompleted]
    rfl
  | completedOn hq _ =>
    rw [asks, accepts_of_timerEvent hq, AppTask.owed_actionCompleted]
    rfl
  | button hq hacts => exact owed_button hq hacts
  | upToDate hscheduled _ =>
    rw [AppTask.owed, AppTask.owed, hscheduled]
    exact Nat.add_right_comm _ _ _
  | writeBack hscheduled _ hacts =>
    rw [hacts.owed, AppTask.owed, AppTask.owed, hscheduled]
    exact Nat.add_right_comm _ _ _

/-- An action that is accepted during another replaces an off effect. -/
lemma Sound.armed_of_accepts (h : Sound d) (haccepts : accepts d a = true)
    (hasks : asks d a = false) : d.app.light.mOffEffectArmed = true := by
  have hsync : d.app.mSyncClusterToButtonAction = true := by simpa [asks, haccepts] using hasks
  have hprog := h.sync hsync
  by_contra harmed
  have hon : ¬ d.app.light.AcceptsOn := by
    rintro (hstate | harmed')
    · simp [isActionInProgress, hstate] at hprog
    · exact harmed harmed'
  have hoff : ¬ d.app.light.AcceptsOff := by
    rintro ⟨hstate, -⟩
    simp [isActionInProgress, hstate] at hprog
  have hr : d.app.light.initiateAction kEventTypeButton d.app.buttonAction =
      (false, d.app.light, []) :=
    LightingManager.initiateAction_refused _ ⟨fun h => hon h.2, fun h => hoff h.2⟩ _
  simp [accepts, hr] at haccepts

/-- **No write-back is lost, and none is made twice.** In every run there have been as many
write-backs as accepted presses of the button, less the one that waits for its action and those that
are scheduled; but that a press that cancels an off effect may share the write-back of the one
before it. -/
theorem write_backs_of_presses (linear : UInt16 → ℚ) (n : ℕ) (buffer : Memory UInt8) (onOff : Bool)
    (log : List (Node n × NodeAct)) (d : Node n)
    (hrun : Run (step linear) (start n buffer onOff) log d) :
    log.countP (fun p => writesBack p.2) + d.app.scheduled + d.app.mSyncClusterToButtonAction.toNat =
      log.countP (fun p => asks p.1 p.2) ∧
    ∀ p ∈ log, accepts p.1 p.2 = true → asks p.1 p.2 = false →
      p.1.app.light.mOffEffectArmed = true := by
  have hJ : Sound d ∧ log.countP (fun p => writesBack p.2) + d.app.owed =
        log.countP (fun p => asks p.1 p.2) ∧
      ∀ p ∈ log, accepts p.1 p.2 = true → asks p.1 p.2 = false →
        p.1.app.light.mOffEffectArmed = true := by
    refine Run.history (J := fun log d => Sound d ∧ log.countP (fun p => writesBack p.2) + d.app.owed =
        log.countP (fun p => asks p.1 p.2) ∧
      ∀ p ∈ log, accepts p.1 p.2 = true → asks p.1 p.2 = false →
        p.1.app.light.mOffEffectArmed = true) ⟨sound_start n buffer onOff, rfl, by simp⟩ ?_ hrun
    rintro log d a d' ⟨hsound, hcount, hall⟩ hstep
    refine ⟨(agreement_step hsound hstep).1, ?_, ?_⟩
    · have hmove := (hsound.step_move hstep).owed
      rw [List.countP_append, List.countP_append, List.countP_singleton, List.countP_singleton]
      cases hw : writesBack a <;> cases ha : asks d a <;> simp [hw, ha] at hmove ⊢ <;> omega
    · intro p hp
      rcases List.mem_append.1 hp with hp | hp
      · exact hall p hp
      · rw [List.mem_singleton.1 hp]
        exact hsound.armed_of_accepts
  obtain ⟨-, hcount, hall⟩ := hJ
  rw [AppTask.owed, ← Nat.add_assoc] at hcount
  exact ⟨hcount, hall⟩

/-- Two presses, the second during the first action: one is accepted, and written back. -/
theorem write_backs_of_presses_two :
    ∃ log d, Run (step linearExact) (start 1 (fun _ => 0) false) log d ∧
      log.map Prod.snd = [.lightButton, .lightButton, .dispatch, .dispatch, .expire, .dispatch,
        .updateClusterState] ∧ d.app.scheduled = 0 ∧ d.app.mSyncClusterToButtonAction = false ∧
      log.countP (fun p => asks p.1 p.2) = 1 := by
  obtain ⟨log, hrun, hlog⟩ := exists_run_of_exec (step linearExact) (start 1 (fun _ => 0) false)
    [.lightButton, .lightButton, .dispatch, .dispatch, .expire, .dispatch, .updateClusterState] rfl
  refine ⟨log, _, hrun, hlog, rfl, rfl, ?_⟩
  obtain ⟨hcount, -⟩ := write_backs_of_presses linearExact 1 (fun _ => 0) false log _ hrun
  rw [← hcount]
  have hwrites : log.countP (fun p => writesBack p.2) = (log.map Prod.snd).countP writesBack := by
    rw [List.countP_map]
    rfl
  rw [hwrites, hlog]
  rfl

/-! ### The off effect -/

/-- An off effect on its way: it is armed on a light that is on, or the light is turning off and will
be off, or is off; and nothing is left that would turn it on again. -/
structure GoingOff (d : Node n) : Prop where
  off : d.onOff = false
  unscheduled : d.app.scheduled = 0
  unasked : d.app.mSyncClusterToButtonAction = false
  buttons : .buttonEvent ∉ d.app.queue
  phase : d.app.light.mOffEffectArmed = true ∧ d.app.light.mState = .onCompleted ∨
    d.app.light.mOffEffectArmed = false ∧ (d.app.light.mState = .offInitiated ∧ Completing d.app ∨
      d.app.light.mState = .offCompleted)

/-- **An off effect goes on, step by step.** -/
lemma GoingOff.move (hg : GoingOff d) (h : Sound d) (hmove : Move d a d') (ha : a.Own) :
    GoingOff d' := by
  obtain ⟨hoff, hscheduled, hsync, hbuttons, hphase⟩ := hg
  cases hmove with
  | same _ => simp [NodeAct.Own] at ha
  | write _ _ => simp [NodeAct.Own] at ha
  | armed effect _ => simp [NodeAct.Own] at ha
  | noEffect effect _ => simp [NodeAct.Own] at ha
  | pressed => simp [NodeAct.Own] at ha
  | expired htimer =>
    refine ⟨hoff, hscheduled, hsync, by simpa using hbuttons, ?_⟩
    refine hphase.imp id ?_
    rintro ⟨hunarmed, ⟨hstate, -⟩ | hstate⟩
    · -- with no effect armed, the event posted is that of the movement
      exact ⟨hunarmed, Or.inl ⟨hstate, Or.inr (by simp [timerEventHandler, h.autoUnarmed, hunarmed])⟩⟩
    · exact ⟨hunarmed, Or.inr hstate⟩
  | @spent handler queue hq _ hidle =>
    have hbuttons' : .buttonEvent ∉ queue := fun hmem => hbuttons (hq ▸ List.mem_cons_of_mem _ hmem)
    refine ⟨hoff, hscheduled, hsync, hbuttons', ?_⟩
    refine hphase.imp id ?_
    rintro ⟨hunarmed, ⟨hstate, hcompleting⟩ | hstate⟩
    · refine ⟨hunarmed, Or.inl ⟨hstate, hcompleting.imp id ?_⟩⟩
      intro hmem
      rw [hq] at hmem
      refine (List.mem_cons.1 hmem).resolve_left ?_
      intro heq
      have hprog := hidle (AppEvent.timerEvent.inj heq).symm
      simp [isActionInProgress, hstate] at hprog
    · exact ⟨hunarmed, Or.inr hstate⟩
  | @effectOff queue hq _ _ =>
    have hbuttons' : .buttonEvent ∉ queue := fun hmem => hbuttons (hq ▸ List.mem_cons_of_mem _ hmem)
    have hactor : ¬ kEventTypeTimer = kEventTypeButton := by decide
    refine ⟨hoff, hscheduled, ?_, hbuttons', Or.inr ⟨rfl, Or.inl ⟨rfl, Or.inl ?_⟩⟩⟩
    swap
    · exact Option.some_ne_none Purpose.actuatorMovement
    simpa [AppTask.actionInitiated, hactor] using hsync
  | effectRefused hq harmed hne =>
    rcases hphase with ⟨-, hstate⟩ | ⟨hunarmed, -⟩
    · exact absurd hstate hne
    · exact absurd (hunarmed.symm.trans harmed) (by simp)
  | @completedOff queue hq hstate =>
    have hbuttons' : .buttonEvent ∉ queue := fun hmem => hbuttons (hq ▸ List.mem_cons_of_mem _ hmem)
    rw [AppTask.actionCompleted, if_neg (by simp [hsync])]
    refine ⟨hoff, hscheduled, hsync, hbuttons', Or.inr ⟨?_, Or.inr rfl⟩⟩
    rcases hphase with ⟨-, hon⟩ | ⟨hunarmed, -⟩
    · rw [hstate] at hon
      cases hon
    · exact hunarmed
  | completedOn hq hstate =>
    rcases hphase with ⟨-, hon⟩ | ⟨-, ⟨hoff', -⟩ | hoff'⟩
    all_goals simp_all
  | button hq _ => exact absurd (hq ▸ List.mem_cons_self) hbuttons
  | upToDate hsucc _ => simp [hscheduled] at hsucc
  | writeBack hsucc _ _ => simp [hscheduled] at hsucc

/-- At rest it is over. -/
lemma GoingOff.atRest (hg : GoingOff d) (h : Sound d) (hrest : d.AtRest) :
    d.app.light.mState = .offCompleted := by
  obtain ⟨htimer, hqueue, -⟩ := hrest
  rcases hg.phase with ⟨harmed, -⟩ | ⟨-, ⟨-, hcompleting⟩ | hstate⟩
  · exact absurd (h.backed harmed) (by simp [htimer, hqueue])
  · exact absurd hcompleting (by simp [Completing, htimer, hqueue])
  · exact hstate

/-- **An off effect turns everything off.** In every state that a run reaches, the OffWithEffect
command on a light that is on, with no press of the button and no write-back under way, and with an
effect that the timer can be started for: no start of the timer fails from there on, and the steps of
the node's own lead only to a rest at which the attribute, the light and the LED are off. -/
theorem off_effect_completes (pdMsToTicks : UInt32 → UInt32)
    (hmovement : 0 < pdMsToTicks actuatorMovementPeriosMs)
    (linear : UInt16 → ℚ) (n : ℕ) (buffer : Memory UInt8) (onOff : Bool)
    (log : List (Node n × NodeAct)) (d d' : Node n) (effect : OnOffEffect)
    (hrun : Run (step linear) (start n buffer onOff) log d)
    (hon : d.onOff = true) (hstate : d.app.light.mState = .onCompleted)
    (hbuttons : .buttonEvent ∉ d.app.queue) (hscheduled : d.app.scheduled = 0)
    (heffect : 0 < pdMsToTicks effect.offEffectDuration)
    (hstep : d.step linear (.offWithEffect effect) = some d') :
    ∀ log' v, Run (step linear) d' log' v → (∀ p ∈ log', p.2.Own) →
      LightSystem.StartsSucceed pdMsToTicks (lightLog ((d, .offWithEffect effect) :: log')) ∧
      (v.AtRest →
        v.onOff = false ∧ v.app.light.mState = .offCompleted ∧ v.app.sLightLED = false) := by
  intro log' v hrun' hown
  have hrun₁ := hrun.snoc hstep
  have hsound' := sound_of_run hrun₁
  have hstarts : LightSystem.StartsSucceed pdMsToTicks
      (lightLog ((d, .offWithEffect effect) :: log')) := by
    refine startsSucceed_of_run linear hmovement (sound_of_run hrun).autoOff (hrun'.cons hstep) ?_
    intro p hp effect' heffect'
    rcases List.mem_cons.1 hp with rfl | hp
    · obtain rfl := NodeAct.offWithEffect.inj heffect'
      exact heffect
    · exact absurd heffect' (NodeAct.Own.ne_offWithEffect (hown p hp) effect')
  refine ⟨hstarts, fun hrest => ?_⟩
  have hgoing : GoingOff d' := by
    have hsync : d.app.mSyncClusterToButtonAction = false := by
      rw [Bool.eq_false_iff]
      intro hsync
      have hprog := (sound_of_run hrun).sync hsync
      simp [isActionInProgress, hstate] at hprog
    obtain rfl := Option.some.inj hstep
    rw [offWithEffect_of_on linear (sound_of_run hrun).set hon]
    exact ⟨rfl, hscheduled, hsync, hbuttons, Or.inl ⟨rfl, hstate⟩⟩
  have hmeets : Meets (fun (_ : Node n) a => a.Own) log' := hown
  obtain ⟨-, hsound, hgoing⟩ : Always (fun d : Node n => Sound d ∧ GoingOff d) log' v := by
    refine hrun'.guarded ⟨hsound', hgoing⟩ ?_ hmeets
    rintro t a u ⟨ht, hg⟩ ha hu
    exact ⟨(agreement_step ht hu).1, hg.move ht (ht.step_move hu) ha⟩
  have hv := hgoing.atRest hsound hrest
  refine ⟨hgoing.off, hv, ?_⟩
  rw [led_of_run (hrun₁.append hrun'), hv]
  rfl

/-- Switched on from the network, and off with an effect, which is left alone. -/
theorem off_effect_completes_on :
    ∃ log d, Run (step linearExact) (start 1 (fun _ => 0) false) log d ∧
      log.map Prod.snd = [.write true, .expire, .dispatch,
        .offWithEffect ⟨OnOffEffect.kDelayedAllOff, OnOffEffect.kDelayedOffFastFade⟩, .expire,
        .dispatch, .expire, .dispatch] ∧
      d.onOff = false ∧ d.app.light.mState = .offCompleted ∧ d.app.sLightLED = false := by
  obtain ⟨d, hd, hon, hstate, hqueue, hscheduled, d', hstep, v, hv, hrest⟩ :
      ∃ d, exec (step linearExact) (start 1 (fun _ => 0) false) [.write true, .expire, .dispatch] =
          some d ∧ d.onOff = true ∧ d.app.light.mState = .onCompleted ∧ d.app.queue = [] ∧
        d.app.scheduled = 0 ∧ ∃ d', d.step linearExact (.offWithEffect
          ⟨OnOffEffect.kDelayedAllOff, OnOffEffect.kDelayedOffFastFade⟩) = some d' ∧
        ∃ v, exec (step linearExact) d' [.expire, .dispatch, .expire, .dispatch] = some v ∧
          v.AtRest :=
    ⟨_, rfl, rfl, rfl, rfl, rfl, _, rfl, _, rfl, rfl, rfl, rfl⟩
  obtain ⟨log, hrun, hlog⟩ := exists_run_of_exec _ _ _ hd
  have hown := meets_acts NodeAct.Own hv (by simp [NodeAct.Own])
  refine ⟨_, _, (hrun.snoc hstep).append (run_execLog hv), by simp [hlog, map_snd_execLog hv], ?_⟩
  -- the clock ticks 1024 times a second
  exact (off_effect_completes (fun ms => ms * 1024 / 1000) (by decide) linearExact 1 (fun _ => 0)
    false log d d' _ hrun hon hstate (by simp [hqueue]) hscheduled (by decide) hstep _ v
    (run_execLog hv) hown).2 hrest

end Node

end MatterStrip
