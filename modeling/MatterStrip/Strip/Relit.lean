import MatterStrip.Lib.Run
import MatterStrip.Strip.Controller

/-!
The handler task, preempted: `verifyLevel` split into its test and its two assignments.

The handler runs below the priority of the tasks that call `turnOnOff` and `setLevel`, so that a
call can fall between the test of `verifyLevel` and the assignment `currentLevel = onLevel`. If
that call switches the strip off, the assignment sets the level of a strip that is off, and
nothing sets it back: the strip is lit again (`relit_after_turnOff`). As long as every such
assignment still finds the strip on, a strip that is off is at level 0 in every state
(`off_dark_while_guarded`).
-/

namespace MatterStrip

open Lib

/-- Where the handler task is: before the step that is named. -/
inductive HandlerPc
  /-- evaluate `turnedOn && (currentLevel != onLevel)` -/
  | checkLevel
  /-- `currentLevel = onLevel` -/
  | assignLevel
  /-- `transmitRequest = true` -/
  | assignRequest
  /-- `if(stripController.transmitRequest)` -/
  | testRequest
  /-- `dataTransmit()` -/
  | transmit
  /-- `transmitRequest = false` -/
  | clearRequest
  /-- `osDelay(SC_LOOP_PERIOD)` -/
  | delay
  deriving DecidableEq, Repr

inductive TaskAct
  | handler
  | call (op : StripOp)
  deriving DecidableEq, Repr

/-- The strip and the place of the handler task. -/
structure Preempted (n : ℕ) where
  pc : HandlerPc
  strip : Strip n

namespace Preempted

variable {n : ℕ}

def init (n : ℕ) (buffer : Memory UInt8) : Preempted n := ⟨.checkLevel, Strip.init n buffer⟩

def handlerStep (s : Preempted n) : Preempted n :=
  match s.pc with
  | .checkLevel =>
    { s with pc := if s.strip.ctl.levelPending then .assignLevel else .testRequest }
  | .assignLevel =>
    { pc := .assignRequest
      strip := { s.strip with
        ctl := { s.strip.ctl with currentLevel := s.strip.ctl.onLevel } } }
  | .assignRequest =>
    { pc := .testRequest
      strip := { s.strip with ctl := { s.strip.ctl with transmitRequest := true } } }
  | .testRequest => { s with pc := if s.strip.ctl.transmitRequest then .transmit else .delay }
  | .transmit => { pc := .clearRequest, strip := s.strip.dataTransmit }
  | .clearRequest =>
    { pc := .delay
      strip := { s.strip with ctl := { s.strip.ctl with transmitRequest := false } } }
  | .delay => { s with pc := .checkLevel }

def step (linear : UInt16 → ℚ) (s : Preempted n) : TaskAct → Option (Preempted n)
  | .handler => some s.handlerStep
  | .call op => some { s with strip := s.strip.call linear op }

def OffDark (s : Preempted n) : Prop :=
  s.strip.ctl.turnedOn = false → s.strip.ctl.currentLevel = 0

/-- What is asked of the handler at its delay. -/
def DarkAtDelay (s : Preempted n) : Prop := s.pc = .delay → s.OffDark

/-- The condition on a step: an assignment of `verifyLevel` finds the strip still on. -/
def Guarded (s : Preempted n) (a : TaskAct) : Prop :=
  a = .handler → s.pc = .assignLevel → s.strip.ctl.turnedOn = true

section Runs

variable {linear : UInt16 → ℚ} {s t u : Preempted n} {a : TaskAct}

lemma onLevel_ne_step (h : s.strip.ctl.onLevel ≠ 0) (hstep : step linear s a = some t) :
    t.strip.ctl.onLevel ≠ 0 := by
  cases a with
  | call op =>
    obtain rfl : _ = t := Option.some.inj hstep
    exact StripController.call_onLevel_ne h linear op
  | handler =>
    obtain rfl : _ = t := Option.some.inj hstep
    unfold handlerStep
    split <;> exact h

lemma offDark_step (h : s.OffDark) (hok : Guarded s a) (hstep : step linear s a = some t) :
    t.OffDark := by
  cases a with
  | call op =>
    obtain rfl : _ = t := Option.some.inj hstep
    exact StripController.call_off_dark h linear op
  | handler =>
    obtain rfl : _ = t := Option.some.inj hstep
    have hon : s.pc = .assignLevel → s.strip.ctl.turnedOn = true := hok rfl
    unfold handlerStep OffDark
    split
    · exact h
    · -- the assignment finds the strip on
      rename_i hpc
      intro hoff
      have hturned : s.strip.ctl.turnedOn = false := hoff
      rw [hon hpc] at hturned
      cases hturned
    all_goals exact h

/-- An assignment that finds the strip off relights it: by its next delay the handler, left alone,
has sent a frame and the level is not 0. -/
lemma relit_of_not_guarded (hlevel : s.strip.ctl.onLevel ≠ 0) (hbad : ¬ Guarded s a)
    (hstep : step linear s a = some t) :
    ∃ log v, Run (step linear) t log v ∧ (∀ p ∈ log, p.2 = .handler) ∧ ¬ v.DarkAtDelay := by
  obtain ⟨pc, strip⟩ := s
  simp only [Guarded, Classical.not_imp, Bool.not_eq_true] at hbad
  obtain ⟨rfl, rfl, hoff⟩ := hbad
  obtain rfl : _ = t := Option.some.inj hstep
  obtain ⟨log, hrun, hlog⟩ := exists_run_of_exec (step linear) _
    [.handler, .handler, .handler, .handler] rfl
  refine ⟨log, _, hrun, ?_, ?_⟩
  · intro p hp
    have hmem : p.2 ∈ log.map Prod.snd := List.mem_map_of_mem hp
    rw [hlog] at hmem
    simpa using hmem
  · intro hdark
    exact hlevel (hdark rfl hoff)

end Runs

/-- A call of `turnOnOff(false)` between the test and the assignment of `verifyLevel`. -/
theorem relit_after_turnOff :
    ∃ log t, Run (step linearExact) (init 1 fun _ => 0) log t ∧
      log.map Prod.snd = [.call (.turnOnOff true), .handler, .call (.turnOnOff false), .handler,
        .handler, .handler, .handler, .handler] ∧
      t.pc = .delay ∧ t.strip.ctl.turnedOn = false ∧ t.strip.ctl.currentLevel = 100 := by
  obtain ⟨log, hrun, hlog⟩ := exists_run_of_exec (step linearExact)
    (init 1 fun _ => 0) [.call (.turnOnOff true), .handler, .call (.turnOnOff false),
      .handler, .handler, .handler, .handler, .handler] rfl
  exact ⟨log, _, hrun, hlog, rfl, rfl, rfl⟩

/-- **When a strip that is off stays dark.** In a run whose assignments of `verifyLevel` all find
the strip on, a strip that is off is at level 0 whenever the handler is at its delay; and the first
assignment that finds it off leads to a delay at which it is not, if the handler is left alone. -/
theorem off_dark_while_guarded {n : ℕ} (linear : UInt16 → ℚ) (buffer : Memory UInt8) :
    (∀ log t, Run (step linear) (init n buffer) log t → Meets Guarded log →
      Always DarkAtDelay log t) ∧
    ∀ log t a u, Run (step linear) (init n buffer) log t → ¬ Guarded t a →
      step linear t a = some u →
      ∃ log' v, Run (step linear) u log' v ∧ (∀ p ∈ log', p.2 = .handler) ∧ ¬ v.DarkAtDelay := by
  constructor
  · intro log t hrun hok
    have hdark : Always OffDark log t :=
      hrun.guarded (fun _ => rfl) (fun _ _ _ h hok hstep => offDark_step h hok hstep) hok
    exact hdark.imp fun _ h _ => h
  · intro log t a u hrun hbad hstep
    have hlevel : t.strip.ctl.onLevel ≠ 0 :=
      hrun.invariant (I := fun s : Preempted n => s.strip.ctl.onLevel ≠ 0)
        StripController.levelInv_init.onLevel_ne (fun _ _ _ h hstep => onLevel_ne_step h hstep)
    exact relit_of_not_guarded hlevel hbad hstep

end Preempted

end MatterStrip
