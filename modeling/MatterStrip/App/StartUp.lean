import MatterStrip.App.Node

/-!
The start-up of the application, statement by statement, while the network already writes.

`LightingManager::Init` and the part of `AppTask::Init` that follows copy the state of the light in
three places, into `mState`, the LED and the strip, one statement after the other; a write of the
OnOff attribute may fall between any two of them. Left alone they end in the `start` of the node
(`start_undisturbed`). A write of Off in between does no harm, for the copies that follow find the
light off; a write of On does, because a light that is turning on is not yet on for `IsLightOn`.
`handed_over_in_time` says that this is all that can go wrong, and that it does.
-/

namespace MatterStrip

open Lib LightingManager

/-! ### The statements -/

/-- The statement that is executed next. -/
inductive BootPc
  | createTimer
  | readAttribute
  | setState
  | clearFlags
  | setCallbacks
  | setLed
  | setStrip
  | done
  deriving DecidableEq, Repr

namespace BootPc

/-- How many statements are left. -/
def left : BootPc → ℕ
  | createTimer => 7
  | readAttribute => 6
  | setState => 5
  | clearFlags => 4
  | setCallbacks => 3
  | setLed => 2
  | setStrip => 1
  | done => 0

/-- The statement has been executed. -/
def after (pc statement : BootPc) : Bool := pc.left < statement.left

lemma after_trans {pc statement statement' : BootPc} (h : pc.after statement = true)
    (h' : statement.after statement' = true) : pc.after statement' = true := by
  simp only [after, decide_eq_true_eq] at h h' ⊢
  exact h.trans h'

end BootPc

/-- The state in which an action comes to its end. -/
def LightState.completed : LightState → LightState
  | .offInitiated => .offCompleted
  | .offCompleted => .offCompleted
  | .onInitiated => .onCompleted
  | .onCompleted => .onCompleted

lemma LightState.isOn_completed (state : LightState) : state.completed.isOn = state.isOn := by
  cases state <;> rfl

lemma isActionInProgress_completed (light : LightingManager) :
    { light with mState := light.mState.completed }.isActionInProgress = false := by
  obtain ⟨state, _, _, _, _, _, _⟩ := light
  cases state <;> rfl

/-- Only while it turns on is the light on for the callbacks and off for `IsLightOn`. -/
lemma isLightOn_eq_isOn {light : LightingManager} (h : light.mState ≠ .onInitiated) :
    light.isLightOn = light.mState.isOn := by
  cases hstate : light.mState <;> simp_all [isLightOn, LightState.isOn]

/-- A node in its start-up. -/
structure Booting (n : ℕ) where
  pc : BootPc
  /-- the local variable of `LightingManager::Init` -/
  currentLedState : Bool
  node : Node n

inductive BootAct
  /-- the next statement of the start-up -/
  | next
  /-- a network write of On or Off -/
  | write (newValue : Bool)
  | expire
  | dispatch
  deriving DecidableEq, Repr

namespace Booting

variable {n : ℕ} (linear : UInt16 → ℚ) (b : Booting n)

/-- A statement that changes the application. -/
def advance (pc : BootPc) (app : AppTask n) : Booting n :=
  { b with pc := pc, node := { b.node with app := app } }

/-- The next statement. The timer object is part of the model from the beginning; what its creation
changes is that the network may write. -/
def next : Option (Booting n) :=
  let app := b.node.app
  let light := app.light
  match b.pc with
  | .createTimer => some (b.advance .readAttribute app)
  | .readAttribute => some { b with pc := .setState, currentLedState := b.node.onOff }
  | .setState => some (b.advance .clearFlags
      { app with light :=
        { light with mState := if b.currentLedState then .onCompleted else .offCompleted } })
  | .clearFlags => some (b.advance .setCallbacks
      { app with light :=
        { light with
          mAutoTurnOffTimerArmed := false
          mAutoTurnOff := false
          mAutoTurnOffDuration := 0
          mOffEffectArmed := false } })
  | .setCallbacks => some (b.advance .setLed { app with light := light.setCallbacks true true })
  | .setLed => some (b.advance .setStrip { app with sLightLED := light.isLightOn })
  | .setStrip => some (b.advance .done
      { app with strip :=
        { app.strip with ctl := app.strip.ctl.turnOnOff light.isLightOn } })
  | .done => none

/-- The network writes once the timer exists, the timer expires, and the task of the application
dispatches the events when its start-up is done. -/
def step : BootAct → Option (Booting n)
  | .next => b.next
  | .write newValue =>
    if b.pc = .createTimer then none
    else (b.node.step linear (.write newValue)).map fun node => { b with node := node }
  | .expire => (b.node.step linear .expire).map fun node => { b with node := node }
  | .dispatch =>
    if b.pc = .done then (b.node.step linear .dispatch).map fun node => { b with node := node }
    else none

/-- The static objects before the start-up, with any value of the attribute, of the LED and of the
pulse buffer. -/
def start (n : ℕ) (buffer : Memory UInt8) (led onOff : Bool) : Booting n where
  pc := .createTimer
  currentLedState := false
  node :=
    { app :=
        { light := LightingManager.zero
          timer := none
          queue := []
          mSyncClusterToButtonAction := false
          sLightLED := led
          strip := Strip.init n buffer
          scheduled := 0 }
      onOff := onOff }

/-- **Left alone, the start-up ends in the start of the node.** -/
theorem start_undisturbed (buffer : Memory UInt8) (led onOff : Bool) :
    exec (step linear) (start n buffer led onOff)
      [.next, .next, .next, .next, .next, .next, .next] =
        some ⟨.done, onOff, Node.start n buffer onOff⟩ := rfl

/-- After start-up, with no timer and no event left, the strip and the LED are on exactly if the
light is. -/
def HandedOver (b : Booting n) : Prop :=
  b.pc = .done → b.node.app.timer = none → b.node.app.queue = [] →
    b.node.app.strip.ctl.turnedOn = b.node.app.light.isLightOn ∧
      b.node.app.sLightLED = b.node.app.light.isLightOn

/-- No write turns the light on before the start-up is done. -/
def InTime (b : Booting n) : BootAct → Prop
  | .next => True
  | .write newValue => newValue = true → b.node.onOff = false →
      b.node.app.light.mState = .offCompleted → b.pc = .done
  | .expire => True
  | .dispatch => True

/-- What holds throughout, whatever the network writes. -/
structure Calm (b : Booting n) : Prop where
  autoOff : b.node.app.light.mAutoTurnOff = false
  autoUnarmed : b.node.app.light.mAutoTurnOffTimerArmed = false
  unarmed : b.node.app.light.mOffEffectArmed = false
  /-- The timer is started for movements alone. -/
  events : ∀ event ∈ b.node.app.queue, event = .timerEvent .actuatorMovementTimerEventHandler
  /-- Before `mState` is set it refuses every action. -/
  early : b.pc.after .setState = false → b.node.app.light.mState = .offInitiated
  /-- After that an action in progress has the timer or its event. -/
  backed : b.pc.after .setState = true → b.node.app.timer = none → b.node.app.queue = [] →
    b.node.app.light.isActionInProgress = false
  set : b.pc.after .setCallbacks = true → CallbacksSet b.node.app.light

variable {linear} {b b' : Booting n}

/-- A statement is one less that is left, and concerns neither the timer nor the queue. -/
lemma next_left (hstep : b.next = some b') : b'.pc.left + 1 = b.pc.left ∧
    b'.node.app.timer = b.node.app.timer ∧ b'.node.app.queue = b.node.app.queue := by
  obtain ⟨pc, currentLedState, node⟩ := b
  cases pc with
  | done => cases hstep
  | _ =>
    obtain rfl := Option.some.inj hstep
    exact ⟨rfl, rfl, rfl⟩

/-! ### Writes -/

/-- `w'` is `w` after an accepted action. -/
structure Switched (w w' : AppTask n) (on : Bool) : Prop where
  light : w'.light = { w.light with mState := if on then .onInitiated else .offInitiated }
  timer : w'.timer = some .actuatorMovement
  queue : w'.queue = w.queue
  /-- The callback, once it is set, switches the LED and the strip. -/
  shown : w.light.mActionInitiatedCB = true → w'.sLightLED = on ∧ w'.strip.ctl.turnedOn = on

lemma switched_on {w : AppTask n} (h : w.light.AcceptsOn) (hunarmed : w.light.mOffEffectArmed = false)
    (aActor : Int32) : Switched w (w.initiateAction aActor .onAction) true := by
  have hlight : { w.light with mState := LightState.onInitiated, mOffEffectArmed := false } =
      { w.light with mState := LightState.onInitiated } := by rw [← hunarmed]
  rw [AppTask.initiateAction, initiateAction_on _ h]
  refine ⟨by simpa using hlight, by simp, by simp, fun hset => ?_⟩
  rw [w.absorb_initiated hset]
  exact ⟨rfl, rfl⟩

lemma switched_off {w : AppTask n} (h : w.light.AcceptsOff)
    (hunarmed : w.light.mAutoTurnOffTimerArmed = false) (aActor : Int32) :
    Switched w (w.initiateAction aActor .offAction) false := by
  have hlight : { w.light with mState := LightState.offInitiated, mAutoTurnOffTimerArmed := false } =
      { w.light with mState := LightState.offInitiated } := by rw [← hunarmed]
  rw [AppTask.initiateAction, initiateAction_off _ h]
  refine ⟨by simpa using hlight, by simp, by simp, fun hset => ?_⟩
  rw [w.absorb_initiated hset]
  exact ⟨rfl, rfl⟩

/-- **What a write does**: nothing to the application, or it switches a light at rest over. -/
lemma Calm.write (h : Calm b) (linear : UInt16 → ℚ) (newValue : Bool) :
    (b.node.setOnOffValue linear newValue).app = b.node.app ∨
      b.node.onOff = (!newValue) ∧
        b.node.app.light.mState = (if newValue then .offCompleted else .onCompleted) ∧
        Switched b.node.app (b.node.setOnOffValue linear newValue).app newValue := by
  by_cases hsame : b.node.onOff = newValue
  · rw [Node.setOnOffValue_same linear hsame]
    exact Or.inl rfl
  · have hother : b.node.onOff = (!newValue) := by
      cases hon : b.node.onOff <;> cases newValue <;> simp_all
    rw [Node.setOnOffValue_other linear hsame]
    cases newValue with
    | true =>
      by_cases hon : b.node.app.light.AcceptsOn
      · have hstate := hon.resolve_right (by simp [h.unarmed])
        exact Or.inr ⟨hother, hstate, switched_on hon h.unarmed _⟩
      · exact Or.inl (b.node.app.initiateAction_refused ⟨fun ha => hon ha.2, by simp⟩ _)
    | false =>
      by_cases hoff : b.node.app.light.AcceptsOff
      · exact Or.inr ⟨hother, hoff.1, switched_off hoff h.autoUnarmed _⟩
      · exact Or.inl (b.node.app.initiateAction_refused ⟨by simp, fun ha => hoff ha.2⟩ _)

/-! ### Timer events -/

/-- `w'` is `w` after the expiry of the timer. -/
structure Expired (w w' : AppTask n) : Prop where
  light : w'.light = w.light
  timer : w.timer ≠ none ∧ w'.timer = none
  queue : w'.queue = w.queue ++ [.timerEvent .actuatorMovementTimerEventHandler]
  led : w'.sLightLED = w.sLightLED
  strip : w'.strip = w.strip

/-- `w'` is `w` after the event of a movement, which was the oldest. -/
structure Completed (w w' : AppTask n) : Prop where
  light : w'.light = { w.light with mState := w.light.mState.completed }
  timer : w'.timer = w.timer
  queue : ∃ event, w.queue = event :: w'.queue
  led : w'.sLightLED = w.sLightLED
  strip : w'.strip = w.strip

/-- No flag is set, so that every expiry is taken for the end of a movement. -/
lemma Calm.expire (h : Calm b) {app : AppTask n} (happ : b.node.app.expire = some app) :
    Expired b.node.app app := by
  obtain ⟨purpose, htimer, rfl⟩ := Option.map_eq_some_iff.1 happ
  have hmovement : b.node.app.light.timerEventHandler = .actuatorMovementTimerEventHandler := by
    simp [timerEventHandler, h.autoUnarmed, h.unarmed]
  exact ⟨rfl, ⟨by simp [htimer], rfl⟩, by rw [hmovement], rfl, rfl⟩

/-- An event dispatched after the start-up completes the action in progress, if there is one. -/
lemma Calm.dispatch (h : Calm b) (hdone : b.pc = .done) {app : AppTask n}
    (happ : b.node.app.dispatch = some app) : Completed b.node.app app := by
  have hset : CallbacksSet b.node.app.light := h.set (by rw [hdone]; rfl)
  have hevents := h.events
  unfold AppTask.dispatch at happ
  split at happ
  · cases happ
  · next event queue hq =>
    obtain rfl := Option.some.inj happ
    obtain rfl := hevents event (hq ▸ List.mem_cons_self)
    have hcompleted : ∀ (state : LightState) (aAction : Action),
        state = b.node.app.light.mState.completed →
        Completed b.node.app ({ b.node.app with queue := queue }.absorb
          ({ b.node.app.light with mState := state },
            b.node.app.light.completedCall aAction)) := by
      rintro state aAction rfl
      rw [AppTask.absorb_completed { b.node.app with queue := queue } hset.completed,
        AppTask.actionCompleted]
      split <;> exact ⟨rfl, rfl, ⟨_, hq⟩, rfl, rfl⟩
    simp only [AppTask.dispatchEvent, handle]
    rcases b.node.app.light.actuatorMovement_cases with
      ⟨hstate, hr⟩ | ⟨hstate, -, hr⟩ | ⟨-, hauto, -⟩ | ⟨hstate, hr⟩
    · rw [hr]
      exact hcompleted .offCompleted .offAction (by rw [hstate]; rfl)
    · rw [hr]
      exact hcompleted .onCompleted .onAction (by rw [hstate]; rfl)
    · exact absurd (h.autoOff.symm.trans hauto) (by simp)
    · have hsame : b.node.app.light.mState.completed = b.node.app.light.mState := by
        rcases hstate with hstate | hstate <;> rw [hstate] <;> rfl
      rw [hr]
      exact ⟨by rw [hsame]; rfl, rfl, ⟨_, hq⟩, rfl, rfl⟩

/-! ### What a step can do -/

/-- `Change b a b'`: the ways in which step `a` leads from a calm `b` to `b'`. -/
inductive Change (b : Booting n) : BootAct → Booting n → Prop
  | statement {b' : Booting n} : b.next = some b' → Change b .next b'
  /-- a write of the stored value, or one that the light refuses -/
  | kept (newValue : Bool) (node : Node n) : node.app = b.node.app →
      Change b (.write newValue) { b with node := node }
  | switched (newValue : Bool) (node : Node n) : b.node.onOff = (!newValue) →
      b.node.app.light.mState = (if newValue then .offCompleted else .onCompleted) →
      Switched b.node.app node.app newValue → Change b (.write newValue) { b with node := node }
  | expired (node : Node n) : Expired b.node.app node.app →
      Change b .expire { b with node := node }
  | completed (node : Node n) : b.pc = .done → Completed b.node.app node.app →
      Change b .dispatch { b with node := node }

theorem Calm.change (h : Calm b) {a : BootAct} (hstep : b.step linear a = some b') :
    Change b a b' := by
  cases a with
  | next => exact .statement hstep
  | write newValue =>
    simp only [step] at hstep
    split at hstep
    · cases hstep
    · obtain rfl := Option.some.inj hstep
      rcases h.write linear newValue with happ | ⟨hother, hstate, hsw⟩
      · exact .kept newValue _ happ
      · exact .switched newValue _ hother hstate hsw
  | expire =>
    obtain ⟨node, hnode, rfl⟩ := Option.map_eq_some_iff.1 hstep
    obtain ⟨app, happ, rfl⟩ := Option.map_eq_some_iff.1 hnode
    exact .expired _ (h.expire happ)
  | dispatch =>
    simp only [step] at hstep
    split at hstep
    · next hdone =>
      obtain ⟨node, hnode, rfl⟩ := Option.map_eq_some_iff.1 hstep
      obtain ⟨app, happ, rfl⟩ := Option.map_eq_some_iff.1 hnode
      exact .completed _ hdone (h.dispatch hdone happ)
    · cases hstep

/-! ### The calm invariant -/

lemma Calm.after_of_state (h : Calm b) (hne : b.node.app.light.mState ≠ .offInitiated) :
    b.pc.after .setState = true := by
  by_contra hbefore
  exact hne (h.early (Bool.eq_false_iff.2 hbefore))

lemma Calm.next (h : Calm b) (hstep : b.next = some b') : Calm b' := by
  obtain ⟨pc, currentLedState, node⟩ := b
  cases pc with
  | createTimer | readAttribute =>
    obtain rfl := Option.some.inj hstep
    exact ⟨h.autoOff, h.autoUnarmed, h.unarmed, h.events, fun _ => h.early rfl, nofun, nofun⟩
  | setState =>
    obtain rfl := Option.some.inj hstep
    refine ⟨h.autoOff, h.autoUnarmed, h.unarmed, h.events, nofun, fun _ _ _ => ?_, nofun⟩
    cases currentLedState <;> rfl
  | clearFlags =>
    obtain rfl := Option.some.inj hstep
    exact ⟨rfl, rfl, rfl, h.events, nofun, fun _ => h.backed rfl, nofun⟩
  | setCallbacks =>
    obtain rfl := Option.some.inj hstep
    exact ⟨h.autoOff, h.autoUnarmed, h.unarmed, h.events, nofun, fun _ => h.backed rfl,
      fun _ => ⟨rfl, rfl⟩⟩
  | setLed | setStrip =>
    obtain rfl := Option.some.inj hstep
    exact ⟨h.autoOff, h.autoUnarmed, h.unarmed, h.events, nofun, fun _ => h.backed rfl,
      fun _ => h.set rfl⟩
  | done => cases hstep

/-- The light differs in its state at most; the new state is not left in progress for good, and the
new queue holds events of movements alone. -/
lemma Calm.moved (h : Calm b) (hafter : b.pc.after .setState = true) {node : Node n}
    {state : LightState} (hlight : node.app.light = { b.node.app.light with mState := state })
    (hevents : ∀ event ∈ node.app.queue, event = .timerEvent .actuatorMovementTimerEventHandler)
    (hbacked : node.app.timer = none → node.app.queue = [] →
      node.app.light.isActionInProgress = false) :
    Calm { b with node := node } := by
  refine ⟨?_, ?_, ?_, hevents, fun hbefore => absurd (hafter.symm.trans hbefore) (by simp),
    fun _ => hbacked, ?_⟩
  · rw [hlight]
    exact h.autoOff
  · rw [hlight]
    exact h.autoUnarmed
  · rw [hlight]
    exact h.unarmed
  · intro hset
    rw [hlight]
    exact ⟨(h.set hset).initiated, (h.set hset).completed⟩

/-- **Every step keeps calm.** -/
theorem Calm.step (h : Calm b) {a : BootAct} (hstep : b.step linear a = some b') : Calm b' := by
  have hchange := h.change hstep
  clear hstep
  cases hchange with
  | statement hnext => exact h.next hnext
  | kept newValue node happ =>
    obtain ⟨app, onOff⟩ := node
    obtain rfl : app = b.node.app := happ
    exact ⟨h.autoOff, h.autoUnarmed, h.unarmed, h.events, h.early, h.backed, h.set⟩
  | switched newValue node _ hstate hsw =>
    have hafter : b.pc.after .setState = true := by
      apply h.after_of_state
      rw [hstate]
      cases newValue <;> simp
    refine h.moved hafter hsw.light ?_ ?_
    · rw [hsw.queue]
      exact h.events
    · intro htimer
      rw [hsw.timer] at htimer
      cases htimer
  | expired node hexp =>
    refine ⟨?_, ?_, ?_, ?_, ?_, ?_, ?_⟩
    · rw [hexp.light]
      exact h.autoOff
    · rw [hexp.light]
      exact h.autoUnarmed
    · rw [hexp.light]
      exact h.unarmed
    · rw [hexp.queue]
      intro event hmem
      rcases List.mem_append.1 hmem with hmem | hmem
      · exact h.events event hmem
      · exact List.mem_singleton.1 hmem
    · rw [hexp.light]
      exact h.early
    · intro _ _ hqueue
      simp [hexp.queue] at hqueue
    · rw [hexp.light]
      exact h.set
  | completed node hdone hcompleted =>
    refine h.moved (by rw [hdone]; rfl) hcompleted.light ?_ ?_
    · obtain ⟨event, hq⟩ := hcompleted.queue
      intro event' hmem
      exact h.events event' (hq ▸ List.mem_cons_of_mem _ hmem)
    · intro _ _
      rw [hcompleted.light]
      exact isActionInProgress_completed _

lemma calm_start (buffer : Memory UInt8) (led onOff : Bool) :
    Calm (start n buffer led onOff) := by
  refine ⟨rfl, rfl, rfl, ?_, fun _ => rfl, nofun, nofun⟩
  intro event hmem
  cases hmem

/-! ### The copies -/

/-- The copies of the state that have been made show what the light is heading for. -/
structure Consistent (b : Booting n) : Prop where
  /-- Until all are made the light is not turning on. -/
  settled : b.pc ≠ .done → b.node.app.light.mState ≠ .onInitiated
  led : b.pc.after .setLed = true → b.node.app.sLightLED = b.node.app.light.mState.isOn
  strip : b.pc.after .setStrip = true →
    b.node.app.strip.ctl.turnedOn = b.node.app.light.mState.isOn

theorem Consistent.handedOver (h : Calm b) (hc : Consistent b) : HandedOver b := by
  intro hdone htimer hqueue
  have hidle := h.backed (by rw [hdone]; rfl) htimer hqueue
  have hlight : b.node.app.light.isLightOn = b.node.app.light.mState.isOn := by
    apply isLightOn_eq_isOn
    intro hstate
    simp [isActionInProgress, hstate] at hidle
  rw [hlight]
  exact ⟨hc.strip (by rw [hdone]; rfl), hc.led (by rw [hdone]; rfl)⟩

lemma Consistent.next (hc : Consistent b) (hstep : b.next = some b') : Consistent b' := by
  obtain ⟨pc, currentLedState, node⟩ := b
  cases pc with
  | createTimer | readAttribute | clearFlags | setCallbacks =>
    obtain rfl := Option.some.inj hstep
    exact ⟨fun _ => hc.settled (by simp), nofun, nofun⟩
  | setState =>
    obtain rfl := Option.some.inj hstep
    refine ⟨fun _ => ?_, nofun, nofun⟩
    cases currentLedState <;> simp [advance]
  | setLed =>
    obtain rfl := Option.some.inj hstep
    have hsettled := hc.settled (by simp)
    exact ⟨fun _ => hsettled, fun _ => isLightOn_eq_isOn hsettled, nofun⟩
  | setStrip =>
    obtain rfl := Option.some.inj hstep
    have hsettled := hc.settled (by simp)
    refine ⟨fun hne => absurd rfl hne, fun _ => hc.led rfl, fun _ => ?_⟩
    exact (StripController.turnOnOff_turnedOn _).trans (isLightOn_eq_isOn hsettled)
  | done => cases hstep

/-- The light, the LED and the strip are as they were. -/
lemma Consistent.same (hc : Consistent b) {node : Node n}
    (hlight : node.app.light = b.node.app.light)
    (hled : node.app.sLightLED = b.node.app.sLightLED)
    (hstrip : node.app.strip = b.node.app.strip) : Consistent { b with node := node } := by
  refine ⟨?_, ?_, ?_⟩
  · rw [hlight]
    exact hc.settled
  · rw [hled, hlight]
    exact hc.led
  · rw [hstrip, hlight]
    exact hc.strip

/-- An accepted action shows in all the copies that are made after the callbacks are set. -/
lemma Consistent.switched (h : Calm b) {newValue : Bool} {node : Node n}
    (hok : newValue = true → b.pc = .done) (hsw : Switched b.node.app node.app newValue) :
    Consistent { b with node := node } := by
  have hon : node.app.light.mState.isOn = newValue := by
    rw [hsw.light]
    cases newValue <;> rfl
  have hshown : b.pc.after .setCallbacks = true →
      node.app.sLightLED = newValue ∧ node.app.strip.ctl.turnedOn = newValue :=
    fun hset => hsw.shown (h.set hset).initiated
  refine ⟨?_, ?_, ?_⟩
  · intro hboot
    rw [hsw.light]
    cases newValue with
    | true => exact absurd (hok rfl) hboot
    | false => simp
  · intro hafter
    rw [hon]
    exact (hshown (BootPc.after_trans hafter rfl)).1
  · intro hafter
    rw [hon]
    exact (hshown (BootPc.after_trans hafter rfl)).2

/-- **A step in time keeps the copies consistent.** -/
theorem Consistent.step (h : Calm b) (hc : Consistent b) {a : BootAct} (hok : InTime b a)
    (hstep : b.step linear a = some b') : Consistent b' := by
  have hchange := h.change hstep
  clear hstep
  cases hchange with
  | statement hnext => exact hc.next hnext
  | kept newValue node happ => exact hc.same (by rw [happ]) (by rw [happ]) (by rw [happ])
  | switched newValue node hother hstate hsw =>
    refine Consistent.switched h ?_ hsw
    rintro rfl
    exact hok rfl hother hstate
  | expired node hexp => exact hc.same hexp.light hexp.led hexp.strip
  | completed node hdone hcompleted =>
    refine ⟨fun hboot => absurd hdone hboot, ?_, ?_⟩
    · rw [hcompleted.led, hcompleted.light, LightState.isOn_completed]
      exact hc.led
    · rw [hcompleted.strip, hcompleted.light, LightState.isOn_completed]
      exact hc.strip

lemma consistent_start (buffer : Memory UInt8) (led onOff : Bool) :
    Consistent (start n buffer led onOff) := by
  refine ⟨?_, nofun, nofun⟩
  intro _ hstate
  cases hstate

/-! ### What a write of On in between leads to -/

/-- The light is turning on, or has come on, and the strip is or will be switched off. -/
structure Doomed (b : Booting n) : Prop where
  calm : Calm b
  after : b.pc.after .setState = true
  state : b.node.app.light.mState = .onInitiated ∨
    b.pc = .done ∧ b.node.app.light.mState = .onCompleted
  dark : b.pc = .done → b.node.app.strip.ctl.turnedOn = false

lemma Doomed.not_handedOver (h : Doomed b) (hdone : b.pc = .done) (htimer : b.node.app.timer = none)
    (hqueue : b.node.app.queue = []) : ¬ HandedOver b := by
  intro hover
  have hidle := h.calm.backed h.after htimer hqueue
  have hstate : b.node.app.light.mState = .onCompleted := by
    rcases h.state with hstate | ⟨-, hstate⟩
    · simp [isActionInProgress, hstate] at hidle
    · exact hstate
  have hlight := (hover hdone htimer hqueue).1
  rw [h.dark hdone] at hlight
  simp [isLightOn, hstate] at hlight

/-- The statements that are left do not switch the light, and the last one switches the strip off,
for `IsLightOn` is not yet true. -/
lemma Doomed.next (h : Doomed b) (hboot : b.pc ≠ .done) : ∃ b', b.next = some b' ∧ Doomed b' := by
  have hstate : b.node.app.light.mState = .onInitiated :=
    h.state.resolve_right fun hdone => hboot hdone.1
  have hcalm := h.calm
  have hafter := h.after
  obtain ⟨pc, currentLedState, node⟩ := b
  cases pc with
  | createTimer | readAttribute | setState => cases hafter
  | clearFlags | setCallbacks | setLed =>
    exact ⟨_, rfl, hcalm.next rfl, rfl, Or.inl hstate, nofun⟩
  | setStrip =>
    refine ⟨_, rfl, hcalm.next rfl, rfl, Or.inl hstate, fun _ => ?_⟩
    have hstate' : node.app.light.mState = .onInitiated := hstate
    refine (StripController.turnOnOff_turnedOn _).trans ?_
    simp [isLightOn, hstate']
  | done => exact absurd rfl hboot

/-- How far the start-up is from its rest. -/
def unsettled (b : Booting n) : ℕ :=
  b.pc.left + b.node.app.queue.length + if b.node.app.timer = none then 0 else 2

/-- A step that leaves the statements alone keeps doom, if the light only completes its action and
the strip is as it was. -/
lemma Doomed.later (h : Doomed b) (hdone : b.pc = .done) {node : Node n}
    (hcalm : Calm { b with node := node })
    (hstate : node.app.light.mState = b.node.app.light.mState ∨
      node.app.light.mState = b.node.app.light.mState.completed)
    (hstrip : node.app.strip = b.node.app.strip) : Doomed { b with node := node } := by
  refine ⟨hcalm, h.after, ?_, ?_⟩
  · rcases hstate with hstate | hstate <;> rw [hstate]
    · exact h.state
    · refine Or.inr ⟨hdone, ?_⟩
      rcases h.state with hon | ⟨-, hon⟩ <;> rw [hon] <;> rfl
  · rw [hstrip]
    exact h.dark

/-- Statement by statement, expiry by expiry and event by event it comes to its rest. -/
lemma Doomed.step (linear : UInt16 → ℚ) (h : Doomed b)
    (hrest : ¬ (b.pc = .done ∧ b.node.app.timer = none ∧ b.node.app.queue = [])) :
    ∃ a b', (a = .next ∨ a = .expire ∨ a = .dispatch) ∧ b.step linear a = some b' ∧ Doomed b' ∧
      unsettled b' < unsettled b := by
  by_cases hdone : b.pc = .done
  · cases htimer : b.node.app.timer with
    | some purpose =>
      obtain ⟨app, happ⟩ : ∃ app, b.node.app.expire = some app := by simp [AppTask.expire, htimer]
      have hstep : b.step linear .expire = some { b with node := { b.node with app := app } } := by
        simp [Booting.step, Node.step, happ]
      have hexp := h.calm.expire happ
      refine ⟨.expire, _, Or.inr (Or.inl rfl), hstep,
        h.later hdone (h.calm.step hstep) (Or.inl (by rw [hexp.light])) hexp.strip, ?_⟩
      simp only [unsettled, hexp.timer.2, hexp.queue, htimer, List.length_append,
        List.length_singleton, reduceCtorEq, if_true, if_false]
      omega
    | none =>
      obtain ⟨event, queue, hq⟩ := List.exists_cons_of_ne_nil fun hq => hrest ⟨hdone, htimer, hq⟩
      obtain ⟨app, happ⟩ : ∃ app, b.node.app.dispatch = some app := by
        simp [AppTask.dispatch, hq]
      have hstep : b.step linear .dispatch =
          some { b with node := { b.node with app := app } } := by
        simp [Booting.step, Node.step, hdone, happ]
      have hcompleted := h.calm.dispatch hdone happ
      obtain ⟨event', hq'⟩ := hcompleted.queue
      refine ⟨.dispatch, _, Or.inr (Or.inr rfl), hstep,
        h.later hdone (h.calm.step hstep) (Or.inr (by rw [hcompleted.light])) hcompleted.strip, ?_⟩
      simp only [unsettled, hcompleted.timer, hq', List.length_cons]
      omega
  · obtain ⟨b', hnext, hdoomed⟩ := h.next hdone
    obtain ⟨hleft, htimer, hqueue⟩ := next_left hnext
    refine ⟨.next, b', Or.inl rfl, hnext, hdoomed, ?_⟩
    unfold unsettled
    rw [htimer, hqueue]
    omega

/-- A write that is not in time starts it. -/
lemma doomed_of_not_inTime (h : Calm b) {a : BootAct} (hbad : ¬ InTime b a)
    (hstep : b.step linear a = some b') : Doomed b' := by
  have hcalm := h.step hstep
  cases a with
  | next => exact absurd trivial hbad
  | write newValue =>
    simp only [InTime, Classical.not_imp] at hbad
    obtain ⟨rfl, hoff, hstate, hboot⟩ := hbad
    have hsw : Switched b.node.app (b.node.setOnOffValue linear true).app true := by
      rw [Node.setOnOffValue_other linear (by simp [hoff])]
      exact switched_on (Or.inl hstate) h.unarmed _
    simp only [Booting.step] at hstep
    split at hstep
    · cases hstep
    · obtain rfl := Option.some.inj hstep
      refine ⟨hcalm, h.after_of_state (by simp [hstate]), Or.inl ?_, fun hdone => absurd hdone hboot⟩
      rw [hsw.light]
      rfl
  | expire => exact absurd trivial hbad
  | dispatch => exact absurd trivial hbad

/-! ### Runs -/

/-- On is written just after `mState` is set: the light comes on, and the LED and the strip stay
off. -/
theorem write_during_start :
    ∃ log b, Run (step linearExact) (start 1 (fun _ => 0) false false) log b ∧
      log.map Prod.snd =
        [.next, .next, .next, .write true, .next, .next, .next, .next, .expire, .dispatch] ∧
      b.pc = .done ∧ b.node.app.timer = none ∧ b.node.app.queue = [] ∧
      b.node.app.light.isLightOn = true ∧ b.node.app.strip.ctl.turnedOn = false ∧
      b.node.app.sLightLED = false := by
  obtain ⟨log, hrun, hlog⟩ := exists_run_of_exec (step linearExact)
    (start 1 (fun _ => 0) false false)
    [.next, .next, .next, .write true, .next, .next, .next, .next, .expire, .dispatch] rfl
  exact ⟨log, _, hrun, hlog, rfl, rfl, rfl, rfl, rfl, rfl⟩

/-- **When start-up hands over a consistent state.** In a run whose steps are all in time, strip and
LED are on exactly if the light is, in every state after start-up with no timer and no event left;
and after any step that is not in time, the statements that are left, expiries and dispatches lead
to such a state in which they are not. -/
theorem handed_over_in_time (linear : UInt16 → ℚ) (n : ℕ) (buffer : Memory UInt8)
    (led onOff : Bool) :
    (∀ log b, Run (step linear) (start n buffer led onOff) log b → Meets InTime log →
      Always HandedOver log b) ∧
    ∀ log b a b', Run (step linear) (start n buffer led onOff) log b → ¬ InTime b a →
      b.step linear a = some b' →
      ∃ log' v, Run (step linear) b' log' v ∧
        (∀ p ∈ log', p.2 = .next ∨ p.2 = .expire ∨ p.2 = .dispatch) ∧ ¬ HandedOver v := by
  constructor
  · intro log b hrun hok
    have hinv : Always (fun b => Calm b ∧ Consistent b) log b := by
      refine hrun.guarded ⟨calm_start buffer led onOff, consistent_start buffer led onOff⟩ ?_ hok
      intro t a u h hok hstep
      exact ⟨h.1.step hstep, h.2.step h.1 hok hstep⟩
    exact hinv.imp fun _ h => h.2.handedOver h.1
  · intro log b a b' hrun hbad hstep
    have hcalm : Calm b :=
      hrun.invariant (calm_start buffer led onOff) fun _ _ _ h hstep => h.step hstep
    obtain ⟨log', v, hrun', hlog', hdoomed, hdone, htimer, hqueue⟩ := exists_run_of_descent
      (fun a : BootAct => a = .next ∨ a = .expire ∨ a = .dispatch)
      (fun b : Booting n => b.pc = .done ∧ b.node.app.timer = none ∧ b.node.app.queue = [])
      unsettled (I := Doomed) (fun b h hrest => h.step linear hrest)
      (doomed_of_not_inTime hcalm hbad hstep)
    exact ⟨log', v, hrun', hlog', hdoomed.not_handedOver hdone htimer hqueue⟩

end Booting

end MatterStrip
