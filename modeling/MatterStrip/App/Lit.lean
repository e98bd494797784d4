import MatterStrip.App.Task
import MatterStrip.Strip.LastWriter

/-!
The strip is lit exactly when the state machine of the light is on.

Between the steps of the application the strip holds some registers of the last-writer-wins
specification, and their on register is what `mState` stands for (`Shows`): every accepted action
switches the strip with the state, and nothing else switches either. A handler iteration then sends
the frame of these registers, and no hue, saturation or level but 0 makes it dark.
-/

namespace MatterStrip

open Lib LightingManager

/-- The strip holds registers that are on exactly in the on states. -/
def ShowsState {n : ℕ} (strip : Strip n) (state : LightState) : Prop :=
  ∃ spec, Refines strip spec true ∧ spec.on = state.isOn

namespace AppTask

variable {n : ℕ} {linear : UInt16 → ℚ} {strip : Strip n} {state : LightState} {w w' : AppTask n}

/-- Both callbacks are set, and the strip shows the state. -/
structure Shows (w : AppTask n) : Prop where
  set : CallbacksSet w.light
  shown : ShowsState w.strip w.light.mState

/-! ### The strip under the calls -/

lemma showsState_turnOnOff (h : ShowsState strip state) (new : LightState) :
    ShowsState { strip with ctl := strip.ctl.turnOnOff new.isOn } new := by
  obtain ⟨spec, href, -⟩ := h
  exact ⟨_, href.call linearExact (.turnOnOff new.isOn), rfl⟩

lemma showsState_call (h : ShowsState strip state) {op : StripOp}
    (hop : ∀ b, op ≠ .turnOnOff b) : ShowsState (strip.call linear op) state := by
  obtain ⟨spec, href, hon⟩ := h
  refine ⟨_, href.call linear op, ?_⟩
  cases op with
  | turnOnOff b => exact absurd rfl (hop b)
  | setLevel v =>
    rw [← hon]
    simp only [LastWriter.write]
    split_ifs <;> rfl
  | setHue hue => exact hon
  | setSaturation saturation => exact hon
  | setColorTemperature t => exact hon

/-- **The callbacks of a change of state switch the strip with it.** -/
lemma showsState_announced {light : LightingManager} {new : LightState} {cbs : List Callback}
    (h : ShowsState strip light.mState) (hann : Announced light new cbs) :
    ShowsState (stripAfter strip cbs) new := by
  cases hann with
  | nothing hnew => exact hnew ▸ h
  | on _ hnew =>
    subst hnew
    exact showsState_turnOnOff h .onInitiated
  | off _ hnew =>
    subst hnew
    exact showsState_turnOnOff h .offInitiated
  | completedOn hstate hnew =>
    subst hnew
    rw [hstate] at h
    exact h
  | completedOff hstate hnew =>
    subst hnew
    rw [hstate] at h
    exact h

/-! ### One step -/

/-- What a transition of the light leaves is shown. -/
lemma Shows.absorb (h : Shows w) {result : LightingManager × List LightCall} {s t : LightSystem}
    {a : LightAct} (hs : s.light = w.light) (ht : t.light = result.1)
    (htrans : Transition s a t result.2) : Shows (w.absorb result) := by
  obtain ⟨hann, hset⟩ := htrans.announced (hs ▸ h.set)
  rw [hs, ht] at hann
  rw [ht] at hset
  constructor
  · rwa [absorb_light]
  · rw [absorb_strip, absorb_light]
    exact showsState_announced h.shown hann

lemma Shows.initiateAction (h : Shows w) (aActor : Int32) (aAction : Action) :
    Shows (w.initiateAction aActor aAction) :=
  h.absorb rfl rfl (LightSystem.outcome_transition (s := w.toSystem)
    (a := .initiateAction aActor aAction) rfl)

lemma Shows.trigger (h : Shows w) (effect : OnOffEffect) :
    Shows (w.absorb (w.light.onTriggerOffWithEffect effect)) :=
  h.absorb rfl rfl (LightSystem.outcome_transition (s := w.toSystem)
    (a := .onTriggerOffWithEffect effect) rfl)

lemma Shows.dispatchEvent (h : Shows w) (event : AppEvent) : Shows (w.dispatchEvent event) := by
  cases event with
  | timerEvent handler =>
    exact h.absorb rfl rfl (LightSystem.dispatch_transition
      (s := ⟨w.light, w.timer, [handler]⟩) rfl)
  | buttonEvent => exact h.initiateAction _ _
  | lightEvent action actor => exact h.initiateAction _ _

lemma Shows.attributeChange (h : Shows w) (clusterId attributeId : UInt32)
    (value : Memory UInt8) :
    Shows (w.matterPostAttributeChangeCallback linear clusterId attributeId value) := by
  have hcall : ∀ {w : AppTask n} {op : StripOp}, Shows w → (∀ b, op ≠ .turnOnOff b) →
      Shows { w with strip := w.strip.call linear op } := by
    intro w op h hop
    exact ⟨h.set, showsState_call h.shown hop⟩
  unfold matterPostAttributeChangeCallback
  split_ifs
  all_goals first
    | exact h.initiateAction _ _
    | exact h
    | exact hcall h (by simp)
    | exact hcall (hcall h (by simp)) (by simp)
    | exact hcall (hcall (hcall h (by simp)) (by simp)) (by simp)

/-- A handler iteration sends what the strip holds. -/
lemma showsState_handler (h : ShowsState strip state) :
    ShowsState strip.handlerIteration state := by
  obtain ⟨spec, href, hon⟩ := h
  exact ⟨spec, href.handler.1, hon⟩

/-- **Every step keeps the strip and the state together.** -/
theorem Shows.step (h : Shows w) {a : AppAct} (hstep : w.step linear a = some w') : Shows w' := by
  cases a with
  | attributeChange clusterId attributeId value =>
    obtain rfl := Option.some.inj hstep
    exact h.attributeChange clusterId attributeId value
  | lightButton =>
    obtain rfl := Option.some.inj hstep
    exact ⟨h.set, h.shown⟩
  | onTriggerOffWithEffect effect =>
    obtain rfl := Option.some.inj hstep
    exact h.trigger effect
  | enableAutoTurnOff aOn =>
    obtain rfl := Option.some.inj hstep
    exact ⟨⟨h.set.initiated, h.set.completed⟩, h.shown⟩
  | setAutoTurnOffDuration d =>
    obtain rfl := Option.some.inj hstep
    exact ⟨⟨h.set.initiated, h.set.completed⟩, h.shown⟩
  | expire =>
    obtain ⟨purpose, -, rfl⟩ := Option.map_eq_some_iff.1 hstep
    exact ⟨h.set, h.shown⟩
  | dispatch =>
    simp only [AppTask.step, dispatch] at hstep
    split at hstep
    · cases hstep
    · next event queue _ =>
      obtain rfl := Option.some.inj hstep
      exact Shows.dispatchEvent (w := { w with queue := queue }) ⟨h.set, h.shown⟩ event
  | stripHandler =>
    obtain rfl := Option.some.inj hstep
    exact ⟨h.set, showsState_handler h.shown⟩

theorem shows_init (n : ℕ) (buffer : Memory UInt8) (currentLedState : Bool) :
    Shows (init n buffer currentLedState) := by
  refine ⟨⟨rfl, rfl⟩, _, (refines_init buffer).call linearExact (.turnOnOff _), ?_⟩
  cases currentLedState <;> rfl

/-! ### The last frame -/

/-- The frame of registers that are on, with a level that is not 0, is lit at every device; off, it
is dark at every device. -/
lemma decodeFrame_shown {spec : LastWriter} (hlvl : spec.lvl ≠ 0) :
    (decodeFrame (spec.shown n)).length = n ∧
      ∀ c ∈ decodeFrame (spec.shown n), if spec.on then c.Lit else c = ⟨0, 0, 0⟩ := by
  rw [LastWriter.shown, decodeFrame_frame, List.map_replicate]
  constructor
  · exact List.length_replicate
  · intro c hc
    rw [List.eq_of_mem_replicate hc]
    cases hon : spec.on with
    | true =>
      rw [if_pos rfl, LastWriter.level, hon, if_pos rfl, RGB.lit_atLevel_iff]
      exact ⟨convertHStoRGB_lit _, hlvl⟩
    | false => simp [LastWriter.level, hon, RGB.atLevel_zero]

/-- **Lit exactly when on.** After any run of the application that ends with an iteration of the
strip handler, the last frame has a colour for each device, which is lit if the light is on or
turning on, and black if it is not. -/
theorem lit_iff_on (linear : UInt16 → ℚ) (n : ℕ) (buffer : Memory UInt8) (currentLedState : Bool)
    (log : List (AppTask n × AppAct)) (w w' : AppTask n)
    (hrun : Run (step linear) (init n buffer currentLedState) log w)
    (hlast : w.step linear .stripHandler = some w') :
    ∃ sent, w'.strip.sent.head? = some sent ∧ (decodeFrame sent).length = n ∧
      ∀ c ∈ decodeFrame sent,
        if w'.light.mState = .onInitiated ∨ w'.light.mState = .onCompleted then
          c.R ≠ 0 ∨ c.G ≠ 0 ∨ c.B ≠ 0
        else c.R = 0 ∧ c.G = 0 ∧ c.B = 0 := by
  obtain ⟨-, spec, href, hon⟩ :=
    hrun.invariant (shows_init n buffer currentLedState) fun _ _ _ h hstep => h.step hstep
  obtain rfl := Option.some.inj hlast
  obtain ⟨href', -, hpend, hfresh⟩ := href.handler
  have hsent := hfresh rfl
  rw [Strip.Fresh, href'.currentFrame hpend] at hsent
  have hlvl : spec.lvl ≠ 0 := href.onLevel ▸ href.level.onLevel_ne
  obtain ⟨hlen, hall⟩ := decodeFrame_shown (n := n) hlvl
  refine ⟨_, hsent, hlen, ?_⟩
  intro c hc
  have hcolour := hall c hc
  rw [hon] at hcolour
  cases hstate : w.light.mState <;> simp_all [LightState.isOn, RGB.Lit]

/-- A strip of two devices, its light switched on at level 1. -/
theorem lit_iff_on_dim :
    ∃ log w w', Run (step linearExact) (init 2 (fun _ => 0) false) log w ∧
      log.map Prod.snd = [.attributeChange levelControlId 0 fun _ => 1,
        .attributeChange onOffId onOffAttributeId fun _ => 1] ∧
      w.step linearExact .stripHandler = some w' ∧ w'.light.mState = .onInitiated ∧
      ∃ sent, w'.strip.sent.head? = some sent ∧ (decodeFrame sent).length = 2 ∧
        ∀ c ∈ decodeFrame sent, c.R ≠ 0 ∨ c.G ≠ 0 ∨ c.B ≠ 0 := by
  obtain ⟨log, hrun, hlog⟩ := exists_run_of_exec (step linearExact) (init 2 (fun _ => 0) false)
    [.attributeChange levelControlId 0 fun _ => 1,
      .attributeChange onOffId onOffAttributeId fun _ => 1] rfl
  obtain ⟨sent, hsent, hlen, hall⟩ := lit_iff_on linearExact 2 (fun _ => 0) false log _ _ hrun rfl
  exact ⟨log, _, _, hrun, hlog, rfl, rfl, sent, hsent, hlen, hall⟩

end AppTask

end MatterStrip
