import MatterStrip.Strip.LostUpdate
import MatterStrip.Strip.Trace

/-!
The preempted handler is linearizable.

A pass of the handler task takes many steps, and calls of other tasks fall between them. In a run
whose calls are orderly, each pass can be put at one place in the order of the calls, as the whole
iteration that `Strip.handlerIteration` is: after all the calls made during it, or, where the strip
is switched on while a dark frame is under way, before that call. The frames sent are the same, and
the registers too; only the flag that says that a frame is due may be kept differently
(`StripController.settled`).
-/

namespace MatterStrip

open Lib

/-! ### Controllers that differ in the flag alone -/

namespace StripController

variable {n : ℕ} {linear : UInt16 → ℚ} {c c' : StripController n} {op : StripOp}

/-- The controller with a due frame requested. -/
def settled (c : StripController n) : StripController n := { c with transmitRequest := c.dirty }

lemma verifyLevel_settled : c.settled.verifyLevel = c.verifyLevel := by
  cases hp : c.levelPending with
  | true =>
    have hp' : c.settled.levelPending = true := hp
    rw [verifyLevel_of_pending hp, verifyLevel_of_pending hp']
    rfl
  | false =>
    have hp' : c.settled.levelPending = false := hp
    rw [verifyLevel_of_not_pending hp, verifyLevel_of_not_pending hp', settled, dirty, hp,
      Bool.or_false]

/-- Controllers that settle alike are verified alike. -/
lemma verifyLevel_congr (h : c.settled = c'.settled) : c.verifyLevel = c'.verifyLevel := by
  rw [← verifyLevel_settled, h, verifyLevel_settled]

/-- What a call leaves, up to the flag, does not depend on how the flag is kept. -/
lemma settled_call_settled : (c.settled.call linear op).settled = (c.call linear op).settled := by
  by_cases hop : op = .turnOnOff true
  · subst hop
    obtain ⟨request, cur, on, turned, buffer, mode, colour, hs⟩ := c
    cases turned <;> simp [settled, dirty, call, turnOnOff, levelPending]
  · have hreq : (c.call linear op).transmitRequest = true := transmitRequest_call hop
    have hreq' : (c.settled.call linear op).transmitRequest = true := transmitRequest_call hop
    unfold settled dirty at *
    rw [hreq, hreq']
    cases op with
    | turnOnOff state => cases state <;> rfl
    | setLevel v => simp only [call, setLevel]; split <;> rfl
    | setHue hue => rfl
    | setSaturation sat => rfl
    | setColorTemperature t => rfl

lemma settled_call_congr (h : c.settled = c'.settled) :
    (c.call linear op).settled = (c'.call linear op).settled := by
  rw [← settled_call_settled, h, settled_call_settled]

/-- **Verifying the level before a call or after it** makes no difference, or only that it is still
to be done: what was pending before the call is then pending after it. -/
lemma call_verifyLevel (linear : UInt16 → ℚ) (c : StripController n) (op : StripOp) :
    c.verifyLevel.call linear op = c.call linear op ∨
    c.verifyLevel.call linear op = (c.call linear op).verifyLevel := by
  cases hp : c.levelPending with
  | false =>
    left
    rw [verifyLevel_of_not_pending hp]
  | true =>
    obtain ⟨hon, hne⟩ := levelPending_iff.1 hp
    rw [verifyLevel_of_pending hp]
    -- the calls that set the level themselves leave nothing of it
    have hlater : ∀ d : StripController n, d.levelPending = true →
        c.call linear op = d →
        { c with currentLevel := c.onLevel, transmitRequest := true }.call linear op =
          { d with currentLevel := d.onLevel, transmitRequest := true } →
        { c with currentLevel := c.onLevel, transmitRequest := true }.call linear op =
          (c.call linear op).verifyLevel := by
      intro d hd hcall heq
      rw [hcall, verifyLevel_of_pending hd, heq]
    cases op with
    | turnOnOff state =>
      cases state with
      | false => exact Or.inl rfl
      | true =>
        right
        have hsame : c.call linear (.turnOnOff true) = c := turnOnOff_true_of_on hon
        exact hlater c hp hsame (turnOnOff_true_of_on hon)
    | setLevel v =>
      left
      simp only [call, setLevel]
      split <;> simp [hon]
    | setHue hue => exact Or.inr (hlater (c.setHue hue) hp rfl rfl)
    | setSaturation sat => exact Or.inr (hlater (c.setSaturation sat) hp rfl rfl)
    | setColorTemperature t => exact Or.inr (hlater (c.setColorTemperature linear t) hp rfl rfl)

/-- Several calls, one after the other. -/
def calls (linear : UInt16 → ℚ) (c : StripController n) (ops : List StripOp) : StripController n :=
  ops.foldl (StripController.call linear) c

variable {ops : List StripOp}

/-- Calls made after the level is verified: the level is verified, or to be verified, after them. -/
lemma calls_verifyLevel (linear : UInt16 → ℚ) (c : StripController n) (ops : List StripOp) :
    c.verifyLevel.calls linear ops = c.calls linear ops ∨
    c.verifyLevel.calls linear ops = (c.calls linear ops).verifyLevel := by
  induction ops generalizing c with
  | nil => exact Or.inr rfl
  | cons op ops ih =>
    show (c.verifyLevel.call linear op).calls linear ops = (c.call linear op).calls linear ops ∨
      (c.verifyLevel.call linear op).calls linear ops =
        ((c.call linear op).calls linear ops).verifyLevel
    rcases call_verifyLevel linear c op with h | h
    · rw [h]
      exact Or.inl rfl
    · rw [h]
      exact ih _

/-- Where nothing is pending after the calls, the level may as well be verified after them. -/
lemma calls_verifyLevel_of_not_pending
    (hp : (c.verifyLevel.calls linear ops).levelPending = false) :
    (c.calls linear ops).verifyLevel = c.verifyLevel.calls linear ops := by
  rcases calls_verifyLevel linear c ops with h | h
  · rw [h] at hp ⊢
    exact verifyLevel_of_not_pending hp
  · exact h.symm

/-- A call that leaves the level pending, where it was not, switches on a strip that is off. -/
lemma off_of_call_pending (hp : c.levelPending = false)
    (hp' : (c.call linear op).levelPending = true) : c.turnedOn = false := by
  cases op with
  | turnOnOff state =>
    cases state with
    | false => cases hp'
    | true =>
      by_contra hon
      have hon' : c.turnedOn = true := by simpa using hon
      have hsame : c.call linear (.turnOnOff true) = c := turnOnOff_true_of_on hon'
      rw [hsame, hp] at hp'
      cases hp'
  | setLevel v =>
    obtain ⟨hon, hne⟩ := levelPending_iff.1 hp'
    have hcur := setLevel_currentLevel (s := c) v
    have hon' : c.turnedOn = true := (setLevel_turnedOn v).symm.trans hon
    rw [hon', if_pos rfl] at hcur
    exact absurd hcur hne
  | setHue hue => exact absurd (hp.symm.trans hp') (by simp)
  | setSaturation sat => exact absurd (hp.symm.trans hp') (by simp)
  | setColorTemperature t => exact absurd (hp.symm.trans hp') (by simp)

/-- No call takes a request back. -/
lemma transmitRequest_call_mono (h : c.transmitRequest = true) (op : StripOp) :
    (c.call linear op).transmitRequest = true := by
  by_cases hop : op = .turnOnOff true
  · subst hop
    exact h
  · exact transmitRequest_call hop

/-- The flag changes nothing that a call does but the flag. -/
lemma calls_setRequest (linear : UInt16 → ℚ) (c : StripController n) (ops : List StripOp) (b : Bool) :
    ∃ b', StripController.calls linear { c with transmitRequest := b } ops =
      { c.calls linear ops with transmitRequest := b' } := by
  induction ops generalizing c b with
  | nil => exact ⟨b, rfl⟩
  | cons op ops ih =>
    have hcall : ∃ b', ({ c with transmitRequest := b } : StripController n).call linear op =
        { c.call linear op with transmitRequest := b' } := by
      cases op with
      | turnOnOff state =>
        cases state with
        | true => exact ⟨b, rfl⟩
        | false => exact ⟨true, rfl⟩
      | setLevel v =>
        refine ⟨true, ?_⟩
        simp only [call, setLevel]
        split <;> rfl
      | setHue hue => exact ⟨true, rfl⟩
      | setSaturation sat => exact ⟨true, rfl⟩
      | setColorTemperature t => exact ⟨true, rfl⟩
    obtain ⟨b', hb'⟩ := hcall
    obtain ⟨b'', hb''⟩ := ih (c.call linear op) b'
    refine ⟨b'', ?_⟩
    show StripController.calls linear (StripController.call linear { c with transmitRequest := b } op)
      ops = _
    rw [hb']
    exact hb''

/-- Where the level is pending, a frame is due whatever the flag says. -/
lemma settled_setRequest (hp : c.levelPending = true) (b b' : Bool) :
    ({ c with transmitRequest := b } : StripController n).settled =
      ({ c with transmitRequest := b' } : StripController n).settled := by
  have hdirty : ∀ b, ({ c with transmitRequest := b } : StripController n).dirty = true := by
    intro b
    have hp' : ({ c with transmitRequest := b } : StripController n).levelPending = true := hp
    rw [dirty, hp', Bool.or_true]
  unfold settled
  rw [hdirty, hdirty]

lemma LevelInv.calls (h : c.LevelInv) : (c.calls linear ops).LevelInv := by
  induction ops generalizing c with
  | nil => exact h
  | cons op ops ih => exact ih (h.call linear op)

/-- A frame is dark while the strip is off, and as long as its level is pending. -/
lemma LevelInv.currentFrame_dark (h : c.LevelInv) (h' : c'.LevelInv) (hoff : c.turnedOn = false)
    (hp : c'.levelPending = true) : c.currentFrame = c'.currentFrame := by
  have hdark := h'.level.resolve_right (levelPending_iff.1 hp).2
  rw [← part_all, ← part_all]
  exact part_of_dark (h.off hoff) hdark n

end StripController

/-! ### What is compared -/

def TransmitAct.op? : TransmitAct → Option StripOp
  | .handler => none
  | .call op => some op

def StripStep.op? : StripStep → Option StripOp
  | .call op => some op
  | .handler => none

namespace Transmitting

variable {n : ℕ} {linear : UInt16 → ℚ} {s t u : Transmitting n} {a : TransmitAct}
  {log : List (Transmitting n × TransmitAct)}

/-- The calls made in a run, in order. -/
def callsMade (log : List (Transmitting n × TransmitAct)) : List StripOp :=
  (log.map Prod.snd).filterMap TransmitAct.op?

/-- A step of the handler that begins a pass. -/
def beginsPass (p : Transmitting n × TransmitAct) : Bool :=
  p.1.pc = .verifyLevel && p.2 = .handler

/-- The condition on a step: a call leaves the pulses of the devices already encoded as they are, and
between `verifyLevel` and the test of the request it leaves no level pending. -/
def OrderlyCall (linear : UInt16 → ℚ) (s : Transmitting n) (a : TransmitAct) : Prop :=
  Undisturbed linear s a ∧ ∀ op, a = .call op → s.pc = .testRequest →
    (s.strip.ctl.call linear op).levelPending = false

/-- The strip after some whole steps. -/
def whole (linear : UInt16 → ℚ) (n : ℕ) (buffer : Memory UInt8) (steps : List StripStep) : Strip n :=
  steps.foldl (Strip.exec linear) (Strip.init n buffer)

/-- A pass of the whole steps may be put where the strip was off, with a frame requested. -/
def OffBefore (linear : UInt16 → ℚ) (c : StripController n) (ops : List StripOp) : Prop :=
  ∃ ops₁ ops₂, ops = ops₁ ++ ops₂ ∧ (c.calls linear ops₁).turnedOn = false ∧
    (c.calls linear ops₁).transmitRequest = true

/-- During a pass: `steps` are the whole steps before it and `ops` the calls made in it. -/
structure During (linear : UInt16 → ℚ) (buffer : Memory UInt8) (steps : List StripStep)
    (ops : List StripOp) (s : Transmitting n) : Prop where
  /-- the level was verified before the calls -/
  ctl : s.strip.ctl = (whole linear n buffer steps).ctl.verifyLevel.calls linear ops
  /-- what has been sent since the pass began -/
  sent : s.strip.sent = (if s.pc = .clearRequest then [s.strip.ctl.currentFrame] else []) ++
    (whole linear n buffer steps).sent
  /-- past the test, a frame is requested -/
  requested : s.pc ≠ .testRequest → s.strip.ctl.transmitRequest = true
  /-- a level is pending only if the strip was off during the pass -/
  pending : s.strip.ctl.levelPending = true →
    s.pc ≠ .testRequest ∧ OffBefore linear (whole linear n buffer steps).ctl.verifyLevel ops

/-- Between passes: what `steps` leave is what the handler leaves. -/
structure Between (linear : UInt16 → ℚ) (buffer : Memory UInt8) (steps : List StripStep)
    (s : Transmitting n) : Prop where
  ctl : s.strip.ctl.settled = (whole linear n buffer steps).ctl.settled
  sent : s.strip.sent = (whole linear n buffer steps).sent

/-- The handler is not in a pass. -/
def Idle (s : Transmitting n) : Prop := s.pc = .verifyLevel ∨ s.pc = .delay

/-- What relates a run of the preempted handler to a sequence of whole steps with the same calls. -/
def Linearized (linear : UInt16 → ℚ) (buffer : Memory UInt8)
    (log : List (Transmitting n × TransmitAct)) (s : Transmitting n) : Prop :=
  ∃ steps ops, steps.filterMap StripStep.op? ++ ops = callsMade log ∧
    (s.Idle ∧ ops = [] ∧ Between linear buffer steps s ∧
        steps.countP StripStep.isHandler = log.countP beginsPass ∨
      ¬ s.Idle ∧ During linear buffer steps ops s ∧
        steps.countP StripStep.isHandler + 1 = log.countP beginsPass)

/-! ### The whole steps -/

variable {buffer : Memory UInt8} {steps : List StripStep} {ops : List StripOp}

lemma whole_calls (ops : List StripOp) : whole linear n buffer (steps ++ ops.map StripStep.call) =
    { whole linear n buffer steps with
      ctl := (whole linear n buffer steps).ctl.calls linear ops } := by
  unfold whole
  rw [List.foldl_append]
  generalize steps.foldl (Strip.exec linear) (Strip.init n buffer) = w
  induction ops generalizing w with
  | nil => rfl
  | cons op ops ih => exact ih _

lemma whole_handler : whole linear n buffer (steps ++ [.handler]) =
    (whole linear n buffer steps).handlerIteration := by
  unfold whole
  rw [List.foldl_append]
  rfl

lemma ops_calls : (ops.map StripStep.call).filterMap StripStep.op? = ops := by
  induction ops with
  | nil => rfl
  | cons op ops ih => simp [StripStep.op?, ih]

lemma countP_calls : (ops.map StripStep.call).countP StripStep.isHandler = 0 := by
  simp [StripStep.isHandler]

/-- An iteration after calls that leave nothing pending, if the level was verified before them. -/
lemma whole_pass {c : StripController n}
    (hctl : c = (whole linear n buffer steps).ctl.verifyLevel.calls linear ops)
    (hp : c.levelPending = false) :
    let w := whole linear n buffer (steps ++ ops.map StripStep.call ++ [.handler])
    w.ctl = { c with transmitRequest := false } ∧
      w.sent = (if c.transmitRequest then [c.currentFrame] else []) ++
        (whole linear n buffer steps).sent := by
  intro w
  have hverify := StripController.calls_verifyLevel_of_not_pending (hctl ▸ hp)
  rw [← hctl] at hverify
  have hw : w = Strip.handlerIteration { whole linear n buffer steps with
      ctl := (whole linear n buffer steps).ctl.calls linear ops } := by
    rw [← whole_calls, ← whole_handler]
  obtain ⟨hctl', hsent'⟩ := Strip.handlerIteration_eq { whole linear n buffer steps with
      ctl := (whole linear n buffer steps).ctl.calls linear ops }
  rw [← hw, hverify] at hctl' hsent'
  refine ⟨hctl', hsent'.trans ?_⟩
  split <;> rfl

/-! ### One step -/

lemma Between.call (h : Between linear buffer steps s) (op : StripOp) :
    Between linear buffer (steps ++ [.call op])
      { s with strip := s.strip.call linear op, switched := s.switched || isSwitch op } := by
  have hw : whole linear n buffer (steps ++ [.call op]) =
      (whole linear n buffer steps).call linear op := whole_calls [op]
  constructor
  · rw [hw]
    exact StripController.settled_call_congr h.ctl
  · rw [hw]
    exact h.sent

/-- A pass begins with the level verified, on both sides. -/
lemma Between.begins (h : Between linear buffer steps s) (hpc : s.pc = .verifyLevel) :
    During linear buffer steps [] s.handlerStep := by
  have hstep : s.handlerStep = ⟨.testRequest, { s.strip with ctl := s.strip.ctl.verifyLevel },
      s.switched⟩ := by
    unfold handlerStep
    rw [hpc]
  rw [hstep]
  refine ⟨StripController.verifyLevel_congr h.ctl, h.sent, fun hne => absurd rfl hne, ?_⟩
  intro hpend
  rw [StripController.levelPending_verifyLevel] at hpend
  cases hpend

lemma During.call (h : During linear buffer steps ops s) {op : StripOp}
    (hok : OrderlyCall linear s (.call op)) :
    During linear buffer steps (ops ++ [op])
      { s with strip := s.strip.call linear op, switched := s.switched || isSwitch op } := by
  have hctl : s.strip.ctl.call linear op =
      (whole linear n buffer steps).ctl.verifyLevel.calls linear (ops ++ [op]) := by
    rw [StripController.calls, List.foldl_append]
    exact congrArg (fun c => c.call linear op) h.ctl
  refine ⟨hctl, ?_, fun hne => StripController.transmitRequest_call_mono (h.requested hne) op, ?_⟩
  · -- a frame that is already sent is not disturbed
    show s.strip.sent = (if s.pc = .clearRequest then [(s.strip.ctl.call linear op).currentFrame]
      else []) ++ (whole linear n buffer steps).sent
    rw [h.sent]
    by_cases hpc : s.pc = .clearRequest
    · have hpart := hok.1 op rfl
      have hall : s.encoded = n := by simp [encoded, hpc]
      rw [hall, StripController.part_all, StripController.part_all] at hpart
      rw [hpart]
    · rw [if_neg hpc, if_neg hpc]
  · intro hpend
    have htest : s.pc ≠ .testRequest := by
      intro hpc
      have hnot := hok.2 op rfl hpc
      exact absurd (hpend.symm.trans hnot) (by simp)
    refine ⟨htest, ?_⟩
    cases hp : s.strip.ctl.levelPending with
    | true =>
      obtain ⟨-, ops₁, ops₂, rfl, hoff⟩ := h.pending hp
      exact ⟨ops₁, ops₂ ++ [op], by rw [List.append_assoc], hoff⟩
    | false =>
      have hoff := StripController.off_of_call_pending hp hpend
      refine ⟨ops, [op], rfl, ?_⟩
      rw [← h.ctl]
      exact ⟨hoff, h.requested htest⟩

/-- What a step of the handler that stays in the pass keeps. -/
lemma During.keep (h : During linear buffer steps ops s) {pc : TransmitPc} {strip : Strip n}
    (hctl : strip.ctl = s.strip.ctl) (hreq : s.strip.ctl.transmitRequest = true)
    (hsent : strip.sent = (if pc = .clearRequest then [s.strip.ctl.currentFrame] else []) ++
      (whole linear n buffer steps).sent) (hne : pc ≠ .testRequest) :
    During linear buffer steps ops ⟨pc, strip, s.switched⟩ := by
  refine ⟨hctl.trans h.ctl, ?_, fun _ => (congrArg _ hctl).trans hreq, ?_⟩
  · show strip.sent = (if pc = .clearRequest then [strip.ctl.currentFrame] else []) ++ _
    rw [hctl]
    exact hsent
  · intro hp
    have hp' : s.strip.ctl.levelPending = true := by rw [← hctl]; exact hp
    exact ⟨hne, (h.pending hp').2⟩

lemma levelInv_whole : (whole linear n buffer steps).ctl.LevelInv :=
  (refines_run n linear buffer steps).level

/-- **A pass has a place among its calls.** The steps before it, its calls and one iteration send
what it sends, and leave what it leaves. -/
lemma During.exists_whole_pass (h : During linear buffer steps ops s) (hinv : s.InStep) :
    ∃ steps', steps'.filterMap StripStep.op? = steps.filterMap StripStep.op? ++ ops ∧
      steps'.countP StripStep.isHandler = steps.countP StripStep.isHandler + 1 ∧
      (whole linear n buffer steps').ctl.settled =
        ({ s.strip.ctl with transmitRequest := false } : StripController n).settled ∧
      (whole linear n buffer steps').sent =
        (if s.strip.ctl.transmitRequest then [s.strip.ctl.currentFrame] else []) ++
          (whole linear n buffer steps).sent := by
  cases hp : s.strip.ctl.levelPending with
  | false =>
    obtain ⟨hctl, hsent⟩ := whole_pass h.ctl hp
    refine ⟨steps ++ ops.map StripStep.call ++ [.handler], ?_, ?_, by rw [hctl], hsent⟩
    · rw [List.filterMap_append, List.filterMap_append, ops_calls]
      exact List.append_nil _
    · rw [List.countP_append, List.countP_append, countP_calls]
      rfl
  | true =>
    obtain ⟨htest, ops₁, ops₂, rfl, hoff, hreq₁⟩ := h.pending hp
    have hctl := h.ctl
    rw [StripController.calls, List.foldl_append] at hctl
    generalize hc : (whole linear n buffer steps).ctl.verifyLevel.calls linear ops₁ = c at *
    have hctl' : s.strip.ctl = c.calls linear ops₂ := by
      rw [hctl, ← hc]
      rfl
    have hnot : c.levelPending = false := by simp [StripController.levelPending, hoff]
    obtain ⟨hwctl, hwsent⟩ := whole_pass hc.symm hnot
    have hinvc : c.LevelInv := hc ▸ levelInv_whole.verifyLevel.calls
    refine ⟨steps ++ ops₁.map StripStep.call ++ [.handler] ++ ops₂.map StripStep.call,
      ?_, ?_, ?_, ?_⟩
    · simp only [List.filterMap_append, ops_calls, List.append_assoc]
      rfl
    · simp only [List.countP_append, countP_calls]
      rfl
    · rw [whole_calls]
      show (StripController.calls linear (whole linear n buffer
        (steps ++ ops₁.map StripStep.call ++ [.handler])).ctl ops₂).settled = _
      rw [hwctl]
      obtain ⟨b', hb'⟩ := StripController.calls_setRequest linear c ops₂ false
      rw [hb', ← hctl']
      exact StripController.settled_setRequest hp _ _
    · rw [whole_calls]
      show (whole linear n buffer (steps ++ ops₁.map StripStep.call ++ [.handler])).sent = _
      rw [hwsent, hreq₁, h.requested htest, hinvc.currentFrame_dark hinv.level hoff hp]

/-! ### Runs -/

lemma callsMade_snoc : callsMade (log ++ [(s, a)]) = callsMade log ++ a.op?.toList := by
  unfold callsMade
  rw [List.map_append, List.filterMap_append]
  cases a <;> rfl

lemma countP_beginsPass_snoc : (log ++ [(s, a)]).countP beginsPass =
    log.countP beginsPass + if beginsPass (s, a) then 1 else 0 := by
  rw [List.countP_append, List.countP_cons, List.countP_nil, Nat.zero_add]

/-- A call is made between the passes, or during one. -/
lemma Linearized.call (h : Linearized linear buffer log s) {op : StripOp}
    (hok : OrderlyCall linear s (.call op)) : Linearized linear buffer (log ++ [(s, .call op)])
      { s with strip := s.strip.call linear op, switched := s.switched || isSwitch op } := by
  have hcount : (log ++ [(s, TransmitAct.call op)]).countP beginsPass = log.countP beginsPass := by
    rw [countP_beginsPass_snoc]
    simp [beginsPass]
  obtain ⟨steps, ops, hops, ⟨hidle, rfl, hbetween, hn⟩ | ⟨hbusy, hduring, hn⟩⟩ := h
  · refine ⟨steps ++ [.call op], [], ?_, Or.inl ⟨hidle, rfl, hbetween.call op, ?_⟩⟩
    · rw [callsMade_snoc, ← hops, List.filterMap_append, List.append_nil, List.append_nil]
      rfl
    · rw [hcount, ← hn, List.countP_append]
      rfl
  · refine ⟨steps, ops ++ [op], ?_, Or.inr ⟨hbusy, hduring.call hok, hcount ▸ hn⟩⟩
    rw [callsMade_snoc, ← hops, List.append_assoc]
    rfl

/-- A pass that is over has been put among the whole steps. -/
lemma During.over (h : During linear buffer steps ops s) (hinv : s.InStep) {t : Transmitting n}
    (hidle : t.Idle)
    (hctl : t.strip.ctl = { s.strip.ctl with transmitRequest := false })
    (hsent : t.strip.sent = (if s.strip.ctl.transmitRequest then [s.strip.ctl.currentFrame] else [])
      ++ (whole linear n buffer steps).sent)
    (hops : steps.filterMap StripStep.op? ++ ops = callsMade log)
    (hn : steps.countP StripStep.isHandler + 1 = log.countP beginsPass) :
    Linearized linear buffer log t := by
  obtain ⟨steps', hops', hn', hwctl, hwsent⟩ := h.exists_whole_pass hinv
  refine ⟨steps', [], ?_, Or.inl ⟨hidle, rfl, ⟨?_, hsent.trans hwsent.symm⟩, hn'.trans hn⟩⟩
  · rw [List.append_nil, hops', hops]
  · rw [hctl, hwctl]

/-- A step of the handler begins a pass, goes on with it, or ends it. -/
lemma Linearized.handler (h : Linearized linear buffer log s) (hinv : s.InStep) :
    Linearized linear buffer (log ++ [(s, .handler)]) s.handlerStep := by
  obtain ⟨steps, ops, hops, hcases⟩ := h
  have hops' : steps.filterMap StripStep.op? ++ ops = callsMade (log ++ [(s, .handler)]) := by
    rw [hops, callsMade_snoc]
    exact (List.append_nil _).symm
  have hcount : s.pc ≠ .verifyLevel →
      (log ++ [(s, TransmitAct.handler)]).countP beginsPass = log.countP beginsPass := by
    intro hpc
    rw [countP_beginsPass_snoc]
    simp [beginsPass, hpc]
  have hprog := hinv.progress
  obtain ⟨pc, strip, switched⟩ := s
  cases pc with
  | verifyLevel =>
    obtain ⟨-, rfl, hbetween, hn⟩ | ⟨hbusy, -⟩ := hcases
    · refine ⟨steps, [], hops', Or.inr ⟨?_, hbetween.begins rfl, ?_⟩⟩
      · simp [handlerStep, Idle]
      · rw [countP_beginsPass_snoc, ← hn]
        rfl
    · exact absurd (Or.inl rfl) hbusy
  | delay =>
    obtain ⟨-, rfl, hbetween, hn⟩ | ⟨hbusy, -⟩ := hcases
    · refine ⟨steps, [], hops', Or.inl ⟨Or.inl rfl, rfl,
        ⟨hbetween.ctl, hbetween.sent⟩, ?_⟩⟩
      rw [hn, hcount (by simp)]
    · exact absurd (Or.inr rfl) hbusy
  | testRequest =>
    obtain ⟨hidle, -⟩ | ⟨-, hduring, hn⟩ := hcases
    · simp [Idle] at hidle
    · rw [← hcount (by simp)] at hn
      cases hreq : strip.ctl.transmitRequest with
      | true =>
        have hstep : handlerStep (⟨.testRequest, strip, switched⟩ : Transmitting n) =
            ⟨.encode 0, strip, switched⟩ := by simp [handlerStep, hreq]
        rw [hstep]
        exact ⟨steps, ops, hops', Or.inr ⟨by simp [Idle],
          hduring.keep rfl hreq hduring.sent (by simp), hn⟩⟩
      | false =>
        have hstep : handlerStep (⟨.testRequest, strip, switched⟩ : Transmitting n) =
            ⟨.delay, strip, switched⟩ := by simp [handlerStep, hreq]
        rw [hstep]
        refine hduring.over hinv (Or.inr rfl) ?_ ?_ hops' hn
        · show strip.ctl = { strip.ctl with transmitRequest := false }
          rw [← hreq]
        · rw [hreq]
          exact hduring.sent
  | encode dev =>
    obtain ⟨hidle, -⟩ | ⟨-, hduring, hn⟩ := hcases
    · simp [Idle] at hidle
    · rw [← hcount (by simp)] at hn
      have hreq := hduring.requested (by simp)
      unfold handlerStep
      simp only
      split
      · exact ⟨steps, ops, hops', Or.inr ⟨by simp [Idle],
          hduring.keep rfl hreq hduring.sent (by simp), hn⟩⟩
      · exact ⟨steps, ops, hops', Or.inr ⟨by simp [Idle],
          hduring.keep rfl hreq hduring.sent (by simp), hn⟩⟩
  | send =>
    obtain ⟨hidle, -⟩ | ⟨-, hduring, hn⟩ := hcases
    · simp [Idle] at hidle
    · rw [← hcount (by simp)] at hn
      have hreq := hduring.requested (by simp)
      -- the buffer holds the whole frame
      have hframe : read strip.buffer 0 (9 * n) = strip.ctl.currentFrame :=
        Eq.trans hprog StripController.part_all
      refine ⟨steps, ops, hops', Or.inr ⟨by simp [handlerStep, Idle], ?_, hn⟩⟩
      have hctl : strip.send.ctl = strip.ctl := rfl
      refine hduring.keep hctl hreq ?_ (by simp)
      show read strip.buffer 0 (9 * n) :: strip.sent = _
      rw [hframe, hduring.sent]
      rfl
  | clearRequest =>
    obtain ⟨hidle, -⟩ | ⟨-, hduring, hn⟩ := hcases
    · simp [Idle] at hidle
    · rw [← hcount (by simp)] at hn
      refine hduring.over hinv (Or.inr rfl) rfl ?_ hops' hn
      rw [hduring.requested (by simp)]
      exact hduring.sent

lemma linearized_init (buffer : Memory UInt8) : Linearized linear buffer [] (init n buffer) :=
  ⟨[], [], rfl, Or.inl ⟨Or.inl rfl, rfl, ⟨rfl, rfl⟩, rfl⟩⟩

lemma orderly_handler : OrderlyCall linear s .handler :=
  ⟨fun _ h => (nomatch h), fun _ h => (nomatch h)⟩

/-- A call is orderly as long as no device is encoded, except at the test. -/
lemma orderly_early (henc : s.encoded = 0) (hpc : s.pc ≠ .testRequest) : OrderlyCall linear s a :=
  ⟨fun _ _ => by rw [henc, StripController.part_zero, StripController.part_zero],
    fun _ _ h => absurd h hpc⟩

end Transmitting

end MatterStrip
