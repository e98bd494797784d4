import MatterStrip.Light.System

/-!
The protocol of the two callbacks of the light.

Late timer events, an off effect that lets ON pre-empt any state and the actions that the timer
handlers themselves initiate all act on `mState`, and every change of `mState` makes exactly one
callback (`callbacks_cases`). So the last callback tells the state (`Tied`), and that decides which
callback can come next (`MayFollow`).
-/

namespace MatterStrip

open Lib LightingManager

inductive Callback
  | initiated (aAction : Action)
  | completed (aAction : Action)
  deriving DecidableEq, Repr

/-- The callback that a call is, if it is one. -/
def LightCall.callback : LightCall → Option Callback
  | .actionInitiated aAction _ => some (.initiated aAction)
  | .actionCompleted aAction => some (.completed aAction)
  | .osTimerStart _ _ => none
  | .osTimerStop => none

def callbacks (calls : List LightCall) : List Callback := calls.filterMap LightCall.callback

/-- A callback, and whether an off effect was armed when the step that makes it began. -/
structure TraceEvent where
  callback : Callback
  offEffectArmed : Bool
  deriving DecidableEq, Repr

namespace LightSystem

/-- The callbacks of a step. -/
def stepTrace (s : LightSystem) (a : LightAct) : List TraceEvent :=
  match s.outcome a with
  | none => []
  | some (_, calls) => (callbacks calls).map fun cb => ⟨cb, s.light.mOffEffectArmed⟩

def trace (log : List (LightSystem × LightAct)) : List TraceEvent := emitted stepTrace log

end LightSystem

def lastCallback (trace : List TraceEvent) : Option Callback := trace.getLast?.map (·.callback)

/-- What may come after the callbacks of `before`, in a run that started with the light on or
off. -/
structure MayFollow (startedOn : Bool) (before : List TraceEvent) (event : TraceEvent) : Prop where
  /-- A completion comes right after the initiation of the same action. -/
  completed : ∀ aAction, event.callback = .completed aAction →
    lastCallback before = some (.initiated aAction)
  /-- OFF is initiated right after ON is completed, or first in a run that started on. -/
  off : event.callback = .initiated .offAction →
    lastCallback before = some (.completed .onAction) ∨ before = [] ∧ startedOn = true
  /-- A second initiation in a row is of ON, with an off effect armed. -/
  twice : ∀ aAction bAction, event.callback = .initiated aAction →
    lastCallback before = some (.initiated bAction) →
    aAction = .onAction ∧ event.offEffectArmed = true

/-! ### The callbacks of a step -/

@[simp] theorem callbacks_append (calls calls' : List LightCall) :
    callbacks (calls ++ calls') = callbacks calls ++ callbacks calls' :=
  List.filterMap_append

@[simp] theorem callbacks_stopIf (armed : Bool) : callbacks (stopIf armed) = [] := by
  cases armed <;> rfl

@[simp] theorem callbacks_start (purpose : Purpose) (ms : UInt32) :
    callbacks [.osTimerStart purpose ms] = [] := rfl

theorem callbacks_initiatedCall {light : LightingManager}
    (h : light.mActionInitiatedCB = true) (aActor : Int32) (aAction : Action) :
    callbacks (light.initiatedCall aActor aAction) = [.initiated aAction] := by
  rw [initiatedCall, if_pos h]
  rfl

theorem callbacks_completedCall {light : LightingManager}
    (h : light.mActionCompletedCB = true) (aAction : Action) :
    callbacks (light.completedCall aAction) = [.completed aAction] := by
  rw [completedCall, if_pos h]
  rfl

/-- `Announced light new cbs`: the callbacks `cbs` that go with the change of `mState` to `new`. -/
inductive Announced (light : LightingManager) (new : LightState) : List Callback → Prop
  | nothing : new = light.mState → Announced light new []
  | on : light.AcceptsOn → new = .onInitiated → Announced light new [.initiated .onAction]
  | off : light.mState = .onCompleted → new = .offInitiated →
      Announced light new [.initiated .offAction]
  | completedOn : light.mState = .onInitiated → new = .onCompleted →
      Announced light new [.completed .onAction]
  | completedOff : light.mState = .offInitiated → new = .offCompleted →
      Announced light new [.completed .offAction]

structure CallbacksSet (light : LightingManager) : Prop where
  initiated : light.mActionInitiatedCB = true
  completed : light.mActionCompletedCB = true

variable {s t : LightSystem} {a : LightAct} {calls : List LightCall}

/-- **One callback for each change of `mState`.** -/
theorem Transition.announced (hset : CallbacksSet s.light) (h : Transition s a t calls) :
    Announced s.light t.light.mState (callbacks calls) ∧ CallbacksSet t.light := by
  constructor
  · cases h with
    | on aActor hon =>
      simp only [callbacks_append, callbacks_stopIf, callbacks_start,
        callbacks_initiatedCall hset.initiated]
      exact .on hon rfl
    | off aActor hoff =>
      simp only [callbacks_append, callbacks_stopIf, callbacks_start,
        callbacks_initiatedCall hset.initiated]
      exact .off hoff.1 rfl
    | autoOff queue _ _ hoff =>
      simp only [callbacks_append, callbacks_start, callbacks_initiatedCall hset.initiated]
      exact .off hoff.1 rfl
    | effectOff queue _ _ hon =>
      simp only [callbacks_append, callbacks_stopIf, callbacks_start,
        callbacks_initiatedCall hset.initiated]
      exact .off hon rfl
    | completeOff queue _ hstate =>
      rw [callbacks_completedCall hset.completed]
      exact .completedOff hstate rfl
    | completeOn queue _ hstate _ =>
      rw [callbacks_completedCall hset.completed]
      exact .completedOn hstate rfl
    | completeOnAuto queue _ hstate _ =>
      simp only [callbacks_append, callbacks_start, callbacks_completedCall hset.completed]
      exact .completedOn hstate rfl
    | _ => exact .nothing rfl
  · cases h <;> exact ⟨hset.initiated, hset.completed⟩

/-! ### The last callback tells the state -/

/-- The callbacks that may be the last one in a state. -/
def Tells (startedOn : Bool) (last : Option Callback) : LightState → Prop
  | .onInitiated => last = some (.initiated .onAction)
  | .offInitiated => last = some (.initiated .offAction)
  | .onCompleted => last = some (.completed .onAction) ∨ last = none ∧ startedOn = true
  | .offCompleted => last = some (.completed .offAction) ∨ last = none ∧ startedOn = false

/-- The invariant of a run: the trace so far obeys the protocol, and its last callback tells
`mState`. -/
structure Tied (startedOn : Bool) (trace : List TraceEvent) (light : LightingManager) : Prop where
  set : CallbacksSet light
  obeys : EachAllowed (MayFollow startedOn) trace
  tells : Tells startedOn (lastCallback trace) light.mState

lemma lastCallback_snoc (trace : List TraceEvent) (event : TraceEvent) :
    lastCallback (trace ++ [event]) = some event.callback := by
  simp [lastCallback]

lemma eq_nil_of_lastCallback {trace : List TraceEvent} (h : lastCallback trace = none) :
    trace = [] := by
  simpa [lastCallback] using h

variable {startedOn : Bool} {before : List TraceEvent} {light light' : LightingManager}
  {cbs : List Callback}

/-- What a step announces is allowed after a trace whose last callback tells the state, and tells
the next state. -/
lemma Tied.announced (h : Tied startedOn before light) (hset : CallbacksSet light')
    (hcbs : Announced light light'.mState cbs) :
    Tied startedOn (before ++ cbs.map fun cb => ⟨cb, light.mOffEffectArmed⟩) light' := by
  obtain ⟨-, hobeys, htells⟩ := h
  cases hcbs with
  | nothing hnew =>
    rw [List.map_nil, List.append_nil]
    exact ⟨hset, hobeys, hnew ▸ htells⟩
  | on hon hnew =>
    refine ⟨hset, hobeys.snoc ⟨by simp, by simp, ?_⟩, ?_⟩
    · rintro _ bAction ⟨⟩ hlast
      -- after an initiation the light is not at rest, and only an armed effect accepts ON
      rcases hon with hstate | harmed
      · rw [hstate] at htells
        rcases htells with h | ⟨h, -⟩ <;> rw [hlast] at h <;> cases h
      · exact ⟨rfl, harmed⟩
    · rw [hnew]
      exact lastCallback_snoc _ _
  | off hstate hnew =>
    rw [hstate] at htells
    refine ⟨hset, hobeys.snoc ⟨by simp, ?_, ?_⟩, ?_⟩
    · intro _
      rcases htells with hlast | ⟨hlast, hon⟩
      · exact Or.inl hlast
      · exact Or.inr ⟨eq_nil_of_lastCallback hlast, hon⟩
    · rintro _ bAction ⟨⟩ hlast
      rcases htells with h | ⟨h, -⟩ <;> rw [hlast] at h <;> cases h
    · rw [hnew]
      exact lastCallback_snoc _ _
  | completedOn hstate hnew =>
    rw [hstate] at htells
    refine ⟨hset, hobeys.snoc ⟨?_, by simp, by simp⟩, ?_⟩
    · rintro _ ⟨⟩
      exact htells
    · rw [hnew]
      exact Or.inl (lastCallback_snoc _ _)
  | completedOff hstate hnew =>
    rw [hstate] at htells
    refine ⟨hset, hobeys.snoc ⟨?_, by simp, by simp⟩, ?_⟩
    · rintro _ ⟨⟩
      exact htells
    · rw [hnew]
      exact Or.inl (lastCallback_snoc _ _)

namespace LightSystem

theorem tied_step (h : Tied startedOn before s.light) (hstep : s.step a = some t) :
    Tied startedOn (before ++ s.stepTrace a) t.light := by
  obtain ⟨⟨u, calls⟩, hout, rfl⟩ := Option.map_eq_some_iff.1 hstep
  obtain ⟨hann, hset⟩ := (outcome_transition hout).announced h.set
  rw [stepTrace, hout]
  exact h.announced hset hann

theorem tied_start (currentLedState : Bool) :
    Tied currentLedState [] (start currentLedState true true).light := by
  refine ⟨⟨rfl, rfl⟩, eachAllowed_nil, ?_⟩
  cases currentLedState
  · exact Or.inr ⟨rfl, rfl⟩
  · exact Or.inr ⟨rfl, rfl⟩

/-- **The callback protocol.** In every run of the light with both callbacks set, each callback may
follow the callbacks before it. -/
theorem callback_protocol (currentLedState : Bool) (log : List (LightSystem × LightAct))
    (t : LightSystem) (hrun : Run step (start currentLedState true true) log t)
    (before : List TraceEvent) (event : TraceEvent) (after : List TraceEvent)
    (htrace : trace log = before ++ event :: after) : MayFollow currentLedState before event := by
  have htied : Tied currentLedState (trace log) t.light := by
    refine Run.history (J := fun log t => Tied currentLedState (trace log) t.light)
      (tied_start currentLedState) ?_ hrun
    intro log t a u h hstep
    rw [trace, emitted_snoc]
    exact tied_step h hstep
  exact htied.obeys before event after htrace

/-- ON while the light is still turning off: it is accepted because an off effect is armed. -/
theorem callback_protocol_preempted :
    ∃ log t, Run step (start true true true) log t ∧
      log.map Prod.snd = [.initiateAction kEventTypeLight .offAction,
        .onTriggerOffWithEffect ⟨OnOffEffect.kDyingLight, OnOffEffect.kDyingLightFadeOff⟩,
        .initiateAction kEventTypeLight .onAction] ∧
      trace log = [⟨.initiated .offAction, false⟩, ⟨.initiated .onAction, true⟩] ∧
      MayFollow true [⟨.initiated .offAction, false⟩] ⟨.initiated .onAction, true⟩ := by
  have hexec : exec step (start true true true) [.initiateAction kEventTypeLight .offAction,
      .onTriggerOffWithEffect ⟨OnOffEffect.kDyingLight, OnOffEffect.kDyingLightFadeOff⟩,
      .initiateAction kEventTypeLight .onAction] = some _ := rfl
  exact ⟨_, _, run_execLog hexec, map_snd_execLog hexec, rfl,
    callback_protocol true _ _ (run_execLog hexec) [⟨.initiated .offAction, false⟩]
      ⟨.initiated .onAction, true⟩ [] rfl⟩

end LightSystem

end MatterStrip
