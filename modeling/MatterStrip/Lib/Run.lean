import Mathlib.Tactic.Common

/-!
Runs of a system given by a partial step function, with the log of every state left and every
action taken in it.

A property of "every state of every run" is proved here in one of three ways: from an invariant
that every step keeps (`Run.invariant`); from an invariant that is kept by the steps that meet a
condition, over the runs all of whose steps meet it (`Run.guarded`); and, where the condition is
exact step by step, as an equivalence over each single run (`Run.always_iff`). A property of the
outputs of a run is a property of its log, and goes by `Run.history`, or by `Run.forall_emitted_iff`
where each output is judged by itself. That a state can be left for
a goal is proved by a measure that goes down (`exists_run_of_descent`), and that every run of certain
steps ends there likewise (`rests`). Where each step comes to several of another system, a run comes
to a run of that system (`Run.refines`).
-/

namespace MatterStrip.Lib

variable {σ α : Type*} {step : σ → α → Option σ} {s t u : σ} {a : α} {log log' : List (σ × α)}

/-- `Run step s log t`: the actions of `log`, each logged with the state it is taken in, lead from
`s` to `t`. -/
inductive Run (step : σ → α → Option σ) (s : σ) : List (σ × α) → σ → Prop
  | start : Run step s [] s
  | snoc {log : List (σ × α)} {t u : σ} {a : α} :
      Run step s log t → step t a = some u → Run step s (log ++ [(t, a)]) u

/-- Every step of the log meets the condition `ok`. -/
def Meets (ok : σ → α → Prop) (log : List (σ × α)) : Prop := ∀ p ∈ log, ok p.1 p.2

/-- `P` holds in every state that the run with log `log` and last state `t` visits. -/
def Always (P : σ → Prop) (log : List (σ × α)) (t : σ) : Prop := (∀ p ∈ log, P p.1) ∧ P t

/-! ### Composing runs -/

theorem Run.one (h : step s a = some t) : Run step s [(s, a)] t := Run.start.snoc h

theorem Run.append (h : Run step s log t) (h' : Run step t log' u) :
    Run step s (log ++ log') u := by
  induction h' with
  | start => simpa using h
  | snoc _ hstep ih =>
    rw [← List.append_assoc]
    exact ih.snoc hstep

theorem Run.cons (h : step s a = some t) (h' : Run step t log u) :
    Run step s ((s, a) :: log) u := (Run.one h).append h'

/-! ### Conditions on logs -/

variable {ok : σ → α → Prop} {P I : σ → Prop}

theorem meets_nil : Meets ok ([] : List (σ × α)) := by simp [Meets]

theorem meets_append : Meets ok (log ++ log') ↔ Meets ok log ∧ Meets ok log' := by
  simp only [Meets, List.mem_append]
  constructor
  · intro h
    exact ⟨fun p hp => h p (Or.inl hp), fun p hp => h p (Or.inr hp)⟩
  · rintro ⟨h, h'⟩ p (hp | hp)
    · exact h p hp
    · exact h' p hp

theorem meets_cons : Meets ok ((s, a) :: log) ↔ ok s a ∧ Meets ok log := by simp [Meets]

theorem meets_snoc : Meets ok (log ++ [(t, a)]) ↔ Meets ok log ∧ ok t a := by
  rw [meets_append, meets_cons]
  simp [meets_nil]

theorem always_snoc : Always P (log ++ [(t, a)]) u ↔ Always P log t ∧ P u := by
  constructor
  · rintro ⟨hlog, hu⟩
    have hlog' : ∀ p ∈ log, P p.1 := fun p hp => hlog p (by simp [hp])
    exact ⟨⟨hlog', hlog (t, a) (by simp)⟩, hu⟩
  · rintro ⟨⟨hlog, ht⟩, hu⟩
    refine ⟨?_, hu⟩
    intro p hp
    rcases List.mem_append.1 hp with hp | hp
    · exact hlog p hp
    · rw [List.mem_singleton.1 hp]; exact ht

/-! ### The rules -/

/-- **The invariant rule.** What holds at the start and is kept by every step holds at the end of
every run. -/
theorem Run.invariant (hs : I s) (hstep : ∀ t a u, I t → step t a = some u → I u)
    (h : Run step s log t) : I t := by
  induction h with
  | start => exact hs
  | snoc _ hu ih => exact hstep _ _ _ ih hu

/-- **The guarded rule.** An invariant kept by the steps that meet `ok` holds in every state of
every run whose steps all meet `ok`. -/
theorem Run.guarded (hs : I s) (hstep : ∀ t a u, I t → ok t a → step t a = some u → I u)
    (h : Run step s log t) (hok : Meets ok log) : Always I log t := by
  induction h with
  | start => exact ⟨by simp, hs⟩
  | snoc _ hu ih =>
    rw [meets_snoc] at hok
    have hI := ih hok.1
    exact always_snoc.2 ⟨hI, hstep _ _ _ hI.2 hok.2 hu⟩

theorem Always.imp {Q : σ → Prop} (hPQ : ∀ s, P s → Q s) (h : Always P log t) : Always Q log t :=
  ⟨fun p hp => hPQ _ (h.1 p hp), hPQ _ h.2⟩

/-- **The exact rule.** Where a step taken in a `P` state ends in a `P` state exactly if it meets
`ok`, a run keeps to `P` exactly if all its steps meet `ok`. -/
theorem Run.always_iff (hI : I s) (hIstep : ∀ t a u, I t → step t a = some u → I u) (hP : P s)
    (hstep : ∀ t a u, I t → P t → step t a = some u → (P u ↔ ok t a))
    (h : Run step s log t) : Always P log t ↔ Meets ok log := by
  induction h with
  | start => exact ⟨fun _ => meets_nil, fun _ => ⟨by simp, hP⟩⟩
  | snoc hrun hu ih =>
    have hIt := hrun.invariant hI hIstep
    rw [always_snoc, meets_snoc]
    constructor
    · rintro ⟨hal, hPu⟩
      exact ⟨ih.1 hal, (hstep _ _ _ hIt hal.2 hu).1 hPu⟩
    · rintro ⟨hlog, hok⟩
      have hal := ih.2 hlog
      exact ⟨hal, (hstep _ _ _ hIt hal.2 hu).2 hok⟩

/-- **The history rule.** What relates the log to the state is kept along with both. -/
theorem Run.history {J : List (σ × α) → σ → Prop} (hs : J [] s)
    (hstep : ∀ log t a u, J log t → step t a = some u → J (log ++ [(t, a)]) u)
    (h : Run step s log t) : J log t := by
  induction h with
  | start => exact hs
  | snoc _ hu ih => exact hstep _ _ _ _ ih hu

/-! ### What a run emits -/

section Emitted

variable {β : Type*} {out : σ → α → List β} {allowed : List β → β → Prop} {l : List β} {x : β}

/-- The outputs of the logged steps, in order. -/
def emitted (out : σ → α → List β) (log : List (σ × α)) : List β :=
  log.flatMap fun p => out p.1 p.2

/-- Every element is allowed after the elements before it. -/
def EachAllowed (allowed : List β → β → Prop) (l : List β) : Prop :=
  ∀ before x after, l = before ++ x :: after → allowed before x

@[simp] theorem emitted_snoc :
    emitted out (log ++ [(t, a)]) = emitted out log ++ out t a := by simp [emitted]

/-- **The rule for single outputs.** Where the outputs of a step are all `Q` exactly if the step
meets `ok`, the outputs of a run are all `Q` exactly if all its steps meet `ok`. -/
theorem Run.forall_emitted_iff {Q : β → Prop}
    (hstep : ∀ t a u, step t a = some u → ((∀ x ∈ out t a, Q x) ↔ ok t a))
    (h : Run step s log t) : (∀ x ∈ emitted out log, Q x) ↔ Meets ok log := by
  induction h with
  | start => exact iff_of_true (by simp [emitted]) meets_nil
  | snoc _ hu ih =>
    rw [emitted_snoc, meets_snoc, ← ih, ← hstep _ _ _ hu]
    exact List.forall_mem_append

theorem eachAllowed_nil : EachAllowed allowed [] := by simp [EachAllowed]

theorem EachAllowed.snoc (hl : EachAllowed allowed l) (hx : allowed l x) :
    EachAllowed allowed (l ++ [x]) := by
  intro before y after h
  rcases List.eq_nil_or_concat after with rfl | ⟨after, z, rfl⟩
  · obtain ⟨rfl, hxy⟩ := List.append_inj' h rfl
    obtain rfl := (List.cons.inj hxy).1
    exact hx
  · rw [List.concat_eq_append, ← List.cons_append, ← List.append_assoc] at h
    exact hl before y after (List.append_inj' h rfl).1

end Emitted

/-! ### Running a list of actions -/

/-- Take the actions one after the other. -/
def exec (step : σ → α → Option σ) : σ → List α → Option σ
  | s, [] => some s
  | s, a :: as => (step s a).bind fun t => exec step t as

def execLog (step : σ → α → Option σ) : σ → List α → List (σ × α)
  | _, [] => []
  | s, a :: as => (s, a) :: (step s a).elim [] fun t => execLog step t as

/-- Actions that can all be taken are the actions of a run. -/
theorem run_execLog {as : List α} (h : exec step s as = some t) :
    Run step s (execLog step s as) t := by
  induction as generalizing s with
  | nil =>
    obtain rfl : s = t := Option.some.inj h
    exact .start
  | cons a as ih =>
    obtain ⟨u, hu, h⟩ := Option.bind_eq_some_iff.1 h
    have hrun := (ih h).cons hu
    rwa [execLog, hu]

theorem meets_execLog {as : List α} (h : step s a = some t) :
    Meets ok (execLog step s (a :: as)) ↔ ok s a ∧ Meets ok (execLog step t as) := by
  rw [execLog, h]
  exact meets_cons

theorem map_snd_execLog {as : List α} (h : exec step s as = some t) :
    (execLog step s as).map Prod.snd = as := by
  induction as generalizing s with
  | nil => rfl
  | cons a as ih =>
    obtain ⟨u, hu, h⟩ := Option.bind_eq_some_iff.1 h
    simp [execLog, hu, ih h]

/-- A condition on the actions alone is met by the log if it is met by the list. -/
theorem meets_acts {as : List α} (ok : α → Prop) (h : exec step s as = some t)
    (has : ∀ a ∈ as, ok a) : Meets (fun _ a => ok a) (execLog step s as) := by
  intro p hp
  have hmem := List.mem_map_of_mem (f := Prod.snd) hp
  rw [map_snd_execLog h] at hmem
  exact has _ hmem

theorem exists_run_of_exec (step : σ → α → Option σ) (s : σ) (as : List α)
    (h : exec step s as = some t) :
    ∃ log, Run step s log t ∧ log.map Prod.snd = as :=
  ⟨_, run_execLog h, map_snd_execLog h⟩

/-! ### Refinement -/

section Refines

variable {τ β : Type*} {step' : τ → β → Option τ} {abs : σ → τ} {acts : σ → α → List β}

/-- The run that a run comes to, where each step comes to the listed steps of another system. -/
def refined (step' : τ → β → Option τ) (abs : σ → τ) (acts : σ → α → List β)
    (log : List (σ × α)) : List (τ × β) :=
  emitted (fun s a => execLog step' (abs s) (acts s a)) log

/-- **The refinement rule.** Where each step comes to the steps listed for it, each run comes to a
run. -/
theorem Run.refines
    (hstep : ∀ s a t, step s a = some t → exec step' (abs s) (acts s a) = some (abs t))
    (h : Run step s log t) : Run step' (abs s) (refined step' abs acts log) (abs t) := by
  induction h with
  | start => exact .start
  | snoc _ hu ih =>
    rw [refined, emitted_snoc]
    exact ih.append (run_execLog (hstep _ _ _ hu))

/-- A condition on the listed steps alone is met by the run that they make up. -/
theorem Run.meets_refined
    (hstep : ∀ s a t, step s a = some t → exec step' (abs s) (acts s a) = some (abs t))
    (ok : β → Prop) (h : Run step s log t) (hok : ∀ p ∈ log, ∀ b ∈ acts p.1 p.2, ok b) :
    Meets (fun _ b => ok b) (refined step' abs acts log) := by
  induction h with
  | start => exact meets_nil
  | @snoc log t u a _ hu ih =>
    rw [refined, emitted_snoc, meets_append]
    have hlog : ∀ p ∈ log, ∀ b ∈ acts p.1 p.2, ok b := fun p hp => hok p (by simp [hp])
    exact ⟨ih hlog, meets_acts ok (hstep _ _ _ hu) (hok (t, a) (by simp))⟩

end Refines

/-! ### Runs to a goal -/

section Goal

variable (only : α → Prop) (Goal : σ → Prop)

/-- One step before a run of actions that are all `only`. -/
theorem exists_run_cons (hstep : step s a = some t) (ha : only a)
    (h : ∃ log u, Run step t log u ∧ (∀ p ∈ log, only p.2) ∧ Goal u) :
    ∃ log u, Run step s log u ∧ (∀ p ∈ log, only p.2) ∧ Goal u := by
  obtain ⟨log, u, hrun, hlog, hu⟩ := h
  refine ⟨(s, a) :: log, u, hrun.cons hstep, ?_, hu⟩
  intro p hp
  rcases List.mem_cons.1 hp with rfl | hp
  · exact ha
  · exact hlog p hp

/-- **The descent rule.** Where every `I` state that is not at the goal has an `only` step to an
`I` state of smaller measure, every `I` state has a run of `only` steps to the goal. -/
theorem exists_run_of_descent (measure : σ → ℕ)
    (hstep : ∀ s, I s → ¬ Goal s →
      ∃ a t, only a ∧ step s a = some t ∧ I t ∧ measure t < measure s) (hs : I s) :
    ∃ log t, Run step s log t ∧ (∀ p ∈ log, only p.2) ∧ I t ∧ Goal t := by
  induction hn : measure s using Nat.strongRecOn generalizing s with
  | _ n ih =>
    by_cases hgoal : Goal s
    · exact ⟨[], s, .start, by simp, hs, hgoal⟩
    · obtain ⟨a, t, ha, ht, hI, hlt⟩ := hstep s hs hgoal
      exact exists_run_cons only (fun t => I t ∧ Goal t) ht ha (ih _ (hn ▸ hlt) hI rfl)

/-- **The bound on runs.** Where every `only` step from an `I` state leads to an `I` state of smaller
measure, a run of such steps is no longer than the measure goes down. -/
theorem Run.length_le (measure : σ → ℕ)
    (hstep : ∀ s a t, I s → only a → step s a = some t → I t ∧ measure t < measure s)
    (h : Run step s log t) (hlog : ∀ p ∈ log, only p.2) (hs : I s) :
    I t ∧ log.length + measure t ≤ measure s := by
  induction h with
  | start => exact ⟨hs, by simp⟩
  | @snoc log t u a hrun hu ih =>
    obtain ⟨hI, hle⟩ := ih fun p hp => hlog p (by simp [hp])
    obtain ⟨hI', hlt⟩ := hstep t a u hI (hlog (t, a) (by simp)) hu
    refine ⟨hI', ?_⟩
    rw [List.length_append, List.length_singleton]
    omega

/-- **The rule of rest.** Where every `only` step from an `I` state leads to an `I` state of smaller
measure, and only the goal has no such step, runs of them are no longer than the measure, stop
nowhere but at the goal, and do lead there. -/
theorem rests (measure : σ → ℕ)
    (hdown : ∀ s a t, I s → only a → step s a = some t → I t ∧ measure t < measure s)
    (hnext : ∀ s, I s → ¬ Goal s → ∃ a t, only a ∧ step s a = some t) (hs : I s) :
    (∀ log t, Run step s log t → (∀ p ∈ log, only p.2) →
      log.length ≤ measure s ∧ ((∀ a, only a → step t a = none) → Goal t)) ∧
    ∃ log t, Run step s log t ∧ (∀ p ∈ log, only p.2) ∧ Goal t := by
  constructor
  · intro log t hrun hlog
    obtain ⟨hI, hlen⟩ := hrun.length_le only measure hdown hlog hs
    refine ⟨by omega, ?_⟩
    intro hstuck
    by_contra hgoal
    obtain ⟨a, u, ha, hu⟩ := hnext t hI hgoal
    rw [hstuck a ha] at hu
    cases hu
  · have hdescent : ∀ s, I s → ¬ Goal s →
        ∃ a t, only a ∧ step s a = some t ∧ I t ∧ measure t < measure s := by
      intro s hs hgoal
      obtain ⟨a, t, ha, ht⟩ := hnext s hs hgoal
      exact ⟨a, t, ha, ht, hdown s a t hs ha ht⟩
    obtain ⟨log, t, hrun, hlog, -, hgoal⟩ := exists_run_of_descent only Goal measure hdescent hs
    exact ⟨log, t, hrun, hlog, hgoal⟩

end Goal

/-! ### Machines that can take every action -/

section Fold

variable {τ : Type*} {f : σ → α → σ} {g : τ → α → τ}

/-- **The simulation rule.** Two machines that take the same actions stay related. -/
theorem foldl_simulation {R : σ → τ → Prop} (hstep : ∀ s t a, R s t → R (f s a) (g t a)) :
    ∀ (l : List α) (s : σ) (t : τ), R s t → R (l.foldl f s) (l.foldl g t)
  | [], _, _, h => h
  | a :: l, s, t, h => foldl_simulation hstep l _ _ (hstep s t a h)

/-- What relates the actions taken so far to the state holds at the end: the simulation of a machine
that only records. -/
theorem foldl_history {J : List α → σ → Prop} (hs : J [] s)
    (hstep : ∀ l t a, J l t → J (l ++ [a]) (f t a)) (l : List α) : J l (l.foldl f s) := by
  have h := foldl_simulation (g := fun l a => l ++ [a]) (R := fun t l => J l t)
    (fun t l a h => hstep l t a h) l s [] hs
  have hrecord : l.foldl (fun l a => l ++ [a]) [] = l := by
    rw [List.foldl_append_eq_append, List.nil_append, ← List.flatMap_def, List.flatMap_singleton']
  rwa [hrecord] at h

end Fold

end MatterStrip.Lib
