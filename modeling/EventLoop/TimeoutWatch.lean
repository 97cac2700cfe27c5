import EventLoop.Periodic
import EventLoop.TimeoutRuns

/-!
# A timeout while it lasts

From its creation until it is cancelled, or until its callback has returned for the last time, a
timeout keeps its block and its timer. This file follows one timeout through a run of the event loop
in which any period may be asked for: each step is a sequence of the event loop's own operations
(`SysOp.Trace`), none of which cancels the timer, so the timer stays on its timetable (`Watched`).
-/

namespace EventLoop

open Lib

/-! ## Steps -/

namespace System

/-- What a caller owes the interface; any period may be asked for. -/
def Permits (σ : System) : SysOp → Prop
  | .timeoutEveryMs _ _ _ answers =>
    (∀ p ∈ answers.toList, Fresh σ.core p) ∧ answers.toList.Nodup ∧
      (σ.timeoutTaskletId = -1 → σ.core.armCoreTaskletList.length < 128)
  | op => σ.Valid op

instance (σ : System) (op : SysOp) : Decidable (σ.Permits op) :=
  match op with
  | .timeoutEveryMs _ _ _ _ => inferInstanceAs (Decidable (_ ∧ _ ∧ (_ → _)))
  | .core op => inferInstanceAs (Decidable (σ.Valid (.core op)))
  | .timeoutMs callback ms arg answers =>
    inferInstanceAs (Decidable (σ.Valid (.timeoutMs callback ms arg answers)))
  | .timeoutCancel t => inferInstanceAs (Decidable (σ.Valid (.timeoutCancel t)))

/-- The callback that `timeout_tasklet` reads from the block of an event's timeout to call it, and
its argument. -/
def callOf (σ : System) (event : Ptr) : Option (Option FuncPtr × ℕ) :=
  if (σ.core.event event).data.eventType = timerEvent then
    (σ.core.event event).data.dataPtr.map fun t => ((σ.entries t).callback, (σ.entries t).arg)
  else none

end System

/-- Tick updates of at most half the circle. -/
def SysOp.Bounded : SysOp → Prop
  | .core op => BoundedTicks op
  | _ => True

instance (op : SysOp) : Decidable op.Bounded :=
  match op with
  | .core op => inferInstanceAs (Decidable (BoundedTicks op))
  | .timeoutMs .. | .timeoutEveryMs .. | .timeoutCancel _ => isTrue trivial

/-- The ticks that an operation lets pass. -/
def SysOp.ticks : SysOp → Option (BitVec 32)
  | .core op => op.ticks
  | _ => none

/-- The handler of the storage's event returns. -/
def SysOp.Returns (σ : System) (p : Ptr) (op : SysOp) : Prop :=
  op = .core .handlerReturn ∧ σ.core.running.head? = some p

instance (σ : System) (p : Ptr) (op : SysOp) : Decidable (op.Returns σ p) :=
  inferInstanceAs (Decidable (_ ∧ _))

section

variable [NsList]

/-- One permitted operation that runs into no undefined behaviour. -/
structure SystemStep (σ : System) (label : SysOp × Ret) (σ' : System) : Prop where
  permits : σ.Permits label.1
  bounded : label.1.Bounded
  exec : System.exec label.1 σ = .ok (σ', label.2)

/-- The operations of the event loop that an operation on timeouts is made of. -/
def SysOp.Trace (σ : System) (op : SysOp) (r : Ret) (s' : State) : Prop :=
  match op with
  | .core .handlerReturn => ∃ s₁, LeadsBy (fun op => ∃ t, op = .clientFree t) σ.core s₁ ∧
      Step s₁ (.handlerReturn, r) s'
  | .core op => Step σ.core (op, r) s'
  | .timeoutMs _ _ _ _ | .timeoutEveryMs _ _ _ _ => LeadsBy Op.Builds σ.core s'
  | .timeoutCancel none => s' = σ.core
  | .timeoutCancel (some t) => LeadsBy (Op.GivesUp (σ.entries t).event) σ.core s'

namespace System

variable {σ σ' : System}

/-- A dispatch that calls `timeout_tasklet` keeps its local. -/
lemma dispatch_spec {event : Ptr} {tasklet : ArmCoreTasklet}
    (h : σ.dispatch = .ok (σ', .call (some (event, tasklet))))
    (hfun : tasklet.funcPtr = timeoutTasklet) : ∃ timer,
      timeoutTaskletCall event { σ with core := σ'.core } = .ok timer ∧
        σ'.locals = timer :: σ.locals ∧ σ'.entries = σ.entries := by
  cases hread : dispatchRead σ.core with
  | error fault => simp [dispatch, hread] at h
  | ok result =>
    obtain ⟨core, _ | ⟨event', tasklet'⟩⟩ := result
    · simp [dispatch, hread] at h
    · by_cases hfun' : tasklet'.funcPtr = timeoutTasklet
      · cases hcall : timeoutTaskletCall event' { σ with core := core } with
        | error fault => simp [dispatch, hread, hfun', hcall] at h
        | ok timer =>
          simp only [dispatch, hread, hfun', hcall, ok_bind, ↓reduceIte, Except.ok.injEq,
            Prod.mk.injEq, Ret.call.injEq, Option.some.injEq] at h
          obtain ⟨rfl, rfl, rfl⟩ := h
          exact ⟨timer, hcall, rfl, rfl⟩
      · simp only [dispatch, hread, hfun', ok_bind, ↓reduceIte, Except.ok.injEq,
          Prod.mk.injEq, Ret.call.injEq, Option.some.injEq] at h
        obtain ⟨-, -, rfl⟩ := h
        exact absurd hfun hfun'

/-- What a step keeps. -/
structure Keeps (σ σ' : System) (op : SysOp) (r : Ret) : Prop where
  consistent : σ'.Consistent none
  stacked : σ'.Stacked
  trace : op.Trace σ r σ'.core
  called : op ≠ .core .dispatch → r.called? = none
  entries : ∀ u, σ.Live u → σ'.entries u = σ.entries u
  /-- a block is freed only by its cancellation or when the callback of a one-shot returns -/
  live : ∀ u, σ.Live u → op ≠ .timeoutCancel (some u) →
    (∀ p, (σ.entries u).event = some p → op.Returns σ p → (σ.core.mem p).period ≠ 0) → σ'.Live u

lemma Creates.keeps {op : SysOp} {callback : Option FuncPtr} {arg : ℕ} {at_ period : BitVec 32}
    {answers : Answers} {r : Option Ptr} (h : σ.Creates σ' callback arg at_ period answers r)
    (htrace : op.Trace σ (.handle r) σ'.core) : σ.Keeps σ' op (.handle r) :=
  ⟨h.consistent, h.stacked, htrace, fun _ => rfl, h.entries,
    fun u hu _ _ => (h.live u).mpr (Or.inl hu)⟩

/-- A permitted step keeps the invariant, and the timeouts that it does not end. -/
theorem Consistent.keeps (con : σ.Consistent none) (stacked : σ.Stacked) {op : SysOp} {r : Ret}
    (step : SystemStep σ (op, r) σ') : σ.Keeps σ' op r := by
  obtain ⟨permits, -, hexec⟩ := step
  cases op with
  | timeoutMs callback ms arg answers =>
    obtain ⟨fresh, hdistinct, hlen⟩ := permits
    obtain ⟨σ₁, r₁, hat, hcreates⟩ := con.timeoutAt stacked fresh hdistinct hlen callback arg
      (eventOSEventTimerMsToTicks ms + eventOSEventTimerTicks σ.core) 0
    simp only [System.exec, eventOSTimeoutMs, hat, ok_bind, Except.ok.injEq, Prod.mk.injEq] at hexec
    obtain ⟨rfl, rfl⟩ := hexec
    exact hcreates.keeps hcreates.leads
  | timeoutEveryMs callback every arg answers =>
    obtain ⟨fresh, hdistinct, hlen⟩ := permits
    obtain ⟨σ₁, r₁, hat, hcreates⟩ := con.timeoutAt stacked fresh hdistinct hlen callback arg 0
      (eventOSEventTimerMsToTicks every)
    simp only [System.exec, eventOSTimeoutEveryMs, hat, ok_bind, Except.ok.injEq,
      Prod.mk.injEq] at hexec
    obtain ⟨rfl, rfl⟩ := hexec
    exact hcreates.keeps hcreates.leads
  | timeoutCancel t =>
    cases t with
    | none =>
      simp only [System.exec, eventOSTimeoutCancel, ok_bind, Except.ok.injEq,
        Prod.mk.injEq] at hexec
      obtain ⟨rfl, rfl⟩ := hexec
      exact ⟨con, stacked, rfl, fun _ => rfl, fun _ _ => rfl, fun _ hu _ _ => hu⟩
    | some t =>
      obtain ⟨σ₁, p, hentry, hcancel, hcon, hstacked, hlive, -, hleads, hentries⟩ :=
        con.cancel stacked (permits t rfl)
      simp only [System.exec, hcancel, ok_bind, Except.ok.injEq, Prod.mk.injEq] at hexec
      obtain ⟨rfl, rfl⟩ := hexec
      refine ⟨hcon, hstacked, ?_, fun _ => rfl, fun u _ => congrFun hentries u,
        fun u hu hne _ => ?_⟩
      · rw [SysOp.Trace, hentry]
        exact hleads
      · exact (hlive u).mpr ⟨hu, fun h => absurd (h ▸ rfl) hne⟩
  | core op =>
    have valid : σ.Valid (.core op) := permits
    -- the return may free a timeout and the dispatch calls one; nothing else touches them
    by_cases hreturn : op = .handlerReturn
    · subst hreturn
      obtain ⟨σ₁, hok, hcon, hstacked, hlive, -, hentries, s₁, hleads, hstep⟩ :=
        con.handlerReturn stacked valid.1
      simp only [System.exec, hok, Except.ok.injEq, Prod.mk.injEq] at hexec
      obtain ⟨rfl, rfl⟩ := hexec
      refine ⟨hcon, hstacked, ⟨s₁, hleads, hstep⟩, fun _ => rfl, fun u _ => congrFun hentries u,
        fun u hu _ hperiod => (hlive u).mpr ⟨hu, fun p hp hentry => ?_⟩⟩
      exact hperiod p hentry ⟨rfl, hp⟩
    by_cases hdispatch : op = .dispatch
    · subst hdispatch
      rcases con.dispatch stacked with ⟨σ₁, r₁, hok, hcon, hstacked, hsame, hstep⟩ | ⟨herror, -⟩
      · simp only [System.exec, hok, Except.ok.injEq, Prod.mk.injEq] at hexec
        obtain ⟨rfl, rfl⟩ := hexec
        exact ⟨hcon, hstacked, hstep, fun h => absurd rfl h, fun u _ => congrFun hsame.entries u,
          fun u hu _ _ => (hsame.live u).mpr hu⟩
      · simp [System.exec, herror] at hexec
    · obtain ⟨s', r', hok, hstep, hcalled, hcon, hstacked, hsame⟩ :=
        con.core_exec stacked valid hdispatch hreturn
      simp only [hok, Except.ok.injEq, Prod.mk.injEq] at hexec
      obtain ⟨rfl, rfl⟩ := hexec
      refine ⟨hcon, hstacked, ?_, fun _ => hcalled, fun u _ => congrFun hsame.entries u,
        fun u hu _ _ => (hsame.live u).mpr hu⟩
      cases op <;> first | exact hstep | contradiction

end System

/-! ## The timetable of a timer -/

/-- A storage runs after a step if it ran before and did not return, or was handed over. -/
lemma Step.mem_running {s s' : State} {op : Op} {r : Ret} {p : Ptr} (own : Owned s)
    (step : Step s (op, r) s') (hreturn : ¬ Completes s p op) :
    p ∈ s'.running ↔ p ∈ s.running ∨ r.called? = some p := by
  obtain ⟨acts, heffect, run⟩ := step.effect own
  by_cases hdispatch : op = .dispatch
  · subst hdispatch
    cases heffect with
    | dispatchIdle =>
      simp only [Run.cons_iff, Run.nil_iff] at run
      obtain ⟨t, hactive, rfl⟩ := run
      cases hactive
      simp [Ret.called?]
    | @dispatch q rest tasklet =>
      simp only [Run.cons_iff, Run.nil_iff] at run
      obtain ⟨t, hdeliver, u, hactive, rfl⟩ := run
      cases hactive
      cases hdeliver
      simp only [State.move_running, ↓reduceIte, reduceCtorEq, Ret.called?, List.mem_append,
        List.mem_singleton, Option.some.injEq]
      rw [or_comm, eq_comm (a := p)]
  · rw [heffect.called hdispatch]
    by_cases hop : op = .handlerReturn
    · subst hop
      cases heffect with
      | @handlerReturn q rest hrun =>
        simp only [Run.cons_iff, Run.nil_iff] at run
        obtain ⟨t, hfinish, u, hactive, rfl⟩ := run
        have htail := finishAct_running hrun hfinish
        have hne : p ≠ q := by
          rintro rfl
          exact hreturn ⟨rfl, by simp [hrun]⟩
        cases hactive
        show p ∈ t.running ↔ _
        simp [htail, hrun, hne]
    · simp [heffect.running run hdispatch hop]

omit [NsList] in
lemma Op.Builds.ticks_eq {op : Op} (h : op.Builds) : op.ticks = none := by
  cases op <;> first | rfl | exact h.elim

omit [NsList] in
lemma Op.GivesUp.ticks_eq {event : Option Ptr} {op : Op} (h : op.GivesUp event) :
    op.ticks = none := by
  cases op <;> first | rfl | exact h.elim

/-- Operations that leave a timer's timetable alone. -/
def Op.Aside (p : Ptr) (op : Op) : Prop :=
  (∀ s, ¬ Cancels s p op) ∧ op.ticks = none ∧ op ≠ .handlerReturn ∧ op ≠ .dispatch

omit [NsList] in
lemma Op.Builds.aside {p : Ptr} {op : Op} (h : op.Builds) : op.Aside p := by
  cases op <;> first | exact h.elim | simp [Op.Aside, Cancels, Op.ticks]

omit [NsList] in
/-- Freeing a timeout leaves every timetable alone. -/
lemma aside_of_clientFree {p : Ptr} {op : Op} (h : ∃ t, op = .clientFree t) : op.Aside p := by
  obtain ⟨t, rfl⟩ := h
  simp [Op.Aside, Cancels, Op.ticks]

omit [NsList] in
lemma Op.GivesUp.aside {p q : Ptr} (hqp : q ≠ p) {op : Op} (h : op.GivesUp (some q)) :
    op.Aside p := by
  cases op with
  | cancel event =>
    obtain rfl : event = some q := h
    simp [Op.Aside, Cancels, Op.ticks, hqp]
  | clientFree t => exact aside_of_clientFree ⟨t, rfl⟩
  | _ => exact h.elim

namespace PeriodicHistory.OnTime

variable {timer : Ptr} {start period field : BitVec 32} {s s' : State} {elapsed started : ℕ}

/-- A run of operations that leave the timetable alone. -/
lemma aside {P : Op → Prop} (hhalf : period.toNat < 2 ^ 31)
    (onTime : OnTime timer start period field ⟨s, elapsed, started⟩)
    (hP : ∀ op, P op → op.Aside timer) (leads : LeadsBy P s s') :
    OnTime timer start period field ⟨s', elapsed, started⟩ ∧ s'.running = s.running := by
  obtain ⟨l, run⟩ := leads
  unfold RunOf at run
  induction run with
  | nil => exact ⟨onTime, rfl⟩
  | @snoc l t u label _ last ih =>
    obtain ⟨hon, hrunning⟩ := ih
    obtain ⟨step, -, hop⟩ := last
    obtain ⟨hcancel, hticks, hreturn, hdispatch⟩ := hP _ hop
    obtain ⟨acts, heffect, run⟩ := Step.effect hon.owned step
    have hbounded : BoundedTicks label.1 := by
      generalize label.1 = op at hticks
      cases op <;> trivial
    have hadvance := (hon.advance hhalf step hbounded (hcancel t)
      fun h => absurd h.1 hreturn).2
    have hcalled := heffect.called hdispatch
    refine ⟨?_, (heffect.running run hdispatch hreturn).trans hrunning⟩
    simpa [PeriodicHistory.next, hticks, hcalled] using hadvance

end PeriodicHistory.OnTime

/-! ## Runs -/

/-- Operations that do not let ticks pass. -/
lemma LeadsBy.untimed {P : Op → Prop} {s s' : State} (own : Owned s) (ordered : s.Ordered)
    (hP : ∀ op, P op → op.ticks = none) (leads : LeadsBy P s s') :
    Owned s' ∧ s'.Ordered ∧ s'.timerSysTicks = s.timerSysTicks := by
  obtain ⟨l, run⟩ := leads
  unfold RunOf at run
  induction run with
  | nil => exact ⟨own, ordered, rfl⟩
  | @snoc l t u label _ last ih =>
    obtain ⟨own, ordered, hsame⟩ := ih
    obtain ⟨step, -, hop⟩ := last
    have hticks := hP _ hop
    have hbounded : BoundedTicks label.1 := by
      generalize label.1 = op at hticks
      cases op <;> trivial
    obtain ⟨acts, heffect, run⟩ := Step.effect own step
    exact ⟨own.step step, ordered.step own step hbounded,
      (heffect.ticks_eq own run hticks).trans hsame⟩

namespace System

/-- The invariant of every run. -/
structure Coherent (σ : System) : Prop where
  consistent : σ.Consistent none
  stacked : σ.Stacked
  ordered : σ.core.Ordered

lemma Coherent.step {σ σ' : System} {label : SysOp × Ret} (coherent : σ.Coherent)
    (step : SystemStep σ label σ') : σ'.Coherent := by
  obtain ⟨op, r⟩ := label
  have hkeeps := coherent.consistent.keeps coherent.stacked step
  have own := coherent.consistent.ground.owned
  refine ⟨hkeeps.consistent, hkeeps.stacked, ?_⟩
  cases op with
  | timeoutMs | timeoutEveryMs =>
    have htrace : LeadsBy Op.Builds σ.core σ'.core := hkeeps.trace
    exact (htrace.untimed own coherent.ordered fun op h => h.ticks_eq).2.1
  | timeoutCancel u =>
    cases u with
    | none =>
      have hsame : σ'.core = σ.core := hkeeps.trace
      rw [hsame]
      exact coherent.ordered
    | some u =>
      have htrace : LeadsBy (Op.GivesUp (σ.entries u).event) σ.core σ'.core := hkeeps.trace
      exact (htrace.untimed own coherent.ordered fun op h => h.ticks_eq).2.1
  | core op =>
    by_cases hop : op = .handlerReturn
    · subst hop
      obtain ⟨s₁, leads, hstep⟩ := hkeeps.trace
      obtain ⟨own₁, ordered₁, -⟩ := leads.untimed own coherent.ordered (by rintro _ ⟨t, rfl⟩; rfl)
      exact ordered₁.step own₁ hstep trivial
    · have hstep : Step σ.core (op, r) σ'.core := by
        have htrace := hkeeps.trace
        cases op <;> first | exact htrace | contradiction
      exact coherent.ordered.step own hstep step.bounded

lemma coherent_of_run {s : State} {σ : System} {l : List (SysOp × Ret)} (init : Initial s)
    (run : Run SystemStep (.start s) l σ) : σ.Coherent := by
  have sound := TimeoutHistory.start_sound init
  have hstart : (System.start s).Coherent :=
    ⟨sound.consistent, sound.stacked, .start s, rfl, init.ordered⟩
  exact run.invariant hstart fun _ _ _ coherent step => coherent.step step

end System

/-! ## One timeout -/

/-- The system, with the ticks since a timeout was created and the calls of its callback. -/
structure TimeoutWatch where
  system : System
  elapsed : ℕ
  started : ℕ

/-- The event loop below. -/
def TimeoutWatch.core (w : TimeoutWatch) : PeriodicHistory := ⟨w.system.core, w.elapsed, w.started⟩

/-- The watch after a step; `p` is the timer. -/
def TimeoutWatch.next (w : TimeoutWatch) (p : Ptr) (label : SysOp × Ret) (σ' : System) :
    TimeoutWatch where
  system := σ'
  elapsed := w.elapsed + label.1.ticks.elim 0 BitVec.toNat
  started := if label.2.called? = some p then w.started + 1 else w.started

/-- The timeout `t` is allocated, with the entry it was created with, and its timer is on time. -/
structure Watched (t p : Ptr) (entry : TimeoutEntry) (start period field : BitVec 32)
    (w : TimeoutWatch) : Prop where
  consistent : w.system.Consistent none
  stacked : w.system.Stacked
  live : w.system.Live t
  entry_eq : w.system.entries t = entry
  event_eq : entry.event = some p
  onTime : w.core.OnTime p start period field

namespace Watched

variable {t p : Ptr} {entry : TimeoutEntry} {start period field : BitVec 32} {w : TimeoutWatch}

omit [NsList] in
/-- The timer is outstanding, and it is that of the timeout. -/
lemma timer (watched : Watched t p entry start period field w) :
    Pending w.system.core p ∧ w.system.Timed p ∧
      (w.system.core.event p).data.dataPtr = some t := by
  obtain ⟨q, hentry, hpending, htimed, hdata⟩ := watched.consistent.timer watched.live (by simp)
  obtain rfl : q = p := by
    rw [watched.entry_eq, watched.event_eq] at hentry
    exact (Option.some.inj hentry).symm
  exact ⟨hpending, htimed, hdata⟩

omit [NsList] in
/-- The event of the timer is a call of the callback. -/
lemma callOf_eq (watched : Watched t p entry start period field w) :
    w.system.callOf p = some (entry.callback, entry.arg) := by
  obtain ⟨-, htimed, hdata⟩ := watched.timer
  rw [System.callOf, if_pos htimed.2.2, hdata, Option.map_some, watched.entry_eq]

omit [NsList] in
/-- Another timeout has another timer. -/
lemma other_timer (watched : Watched t p entry start period field w) {u : Ptr}
    (hu : w.system.Live u) (hut : u ≠ t) :
    ∃ q, (w.system.entries u).event = some q ∧ q ≠ p := by
  obtain ⟨q, hentry, -, -, hdata⟩ := watched.consistent.timer hu (by simp)
  refine ⟨q, hentry, ?_⟩
  rintro rfl
  exact hut (Option.some.inj (hdata.symm.trans watched.timer.2.2))

omit [NsList] in
/-- Other code does not cancel the timer. -/
lemma not_cancels (watched : Watched t p entry start period field w) {op : Op}
    (halone : w.system.LeavesAlone op) : ¬ Cancels w.system.core p op := by
  intro hcancels
  cases op with
  | cancel event => exact halone p hcancels watched.timer.2.1
  | timerCancel eventId taskletId => exact halone p hcancels watched.timer.2.1
  | _ => exact hcancels

/-- **A step keeps a timeout, its entry and the timetable of its timer**, unless it cancels it or
its callback returns for the last time. -/
theorem step (hhalf : period.toNat < 2 ^ 31) (watched : Watched t p entry start period field w)
    {label : SysOp × Ret} {σ' : System} (step : SystemStep w.system label σ')
    (hcancel : label.1 ≠ .timeoutCancel (some t))
    (hreturn : label.1.Returns w.system p → 0 < period.toInt ∧ field = period ∧
      w.elapsed < w.started * period.toNat + 2 ^ 31) :
    (label.2.called? = some p → (w.started + 1) * period.toNat ≤ w.elapsed) ∧
      Watched t p entry start period field (w.next p label σ') ∧
      (¬ label.1.Returns w.system p →
        (p ∈ σ'.core.running ↔ p ∈ w.system.core.running ∨ label.2.called? = some p)) := by
  obtain ⟨op, r⟩ := label
  have hkeeps := watched.consistent.keeps watched.stacked step
  have hperiod : op.Returns w.system p → (w.system.core.mem p).period ≠ 0 := by
    intro h
    obtain ⟨hpos, hfield, -⟩ := hreturn h
    have hmem : (w.system.core.mem p).period = period :=
      watched.onTime.scheduled.period_eq.trans hfield
    rw [hmem]
    rintro rfl
    simp at hpos
  have hlive : σ'.Live t := by
    refine hkeeps.live t watched.live hcancel fun q hq hreturns => ?_
    rw [watched.entry_eq, watched.event_eq] at hq
    obtain rfl := Option.some.inj hq
    exact hperiod hreturns
  have hwatched : ∀ {w' : TimeoutWatch}, w'.system = σ' → w'.core.OnTime p start period field →
      Watched t p entry start period field w' := by
    rintro w' rfl honTime
    exact ⟨hkeeps.consistent, hkeeps.stacked, hlive,
      (hkeeps.entries t watched.live).trans watched.entry_eq, watched.event_eq, honTime⟩
  have honTime := watched.onTime
  -- operations on other timeouts leave the timer alone
  have haside : ∀ {P : Op → Prop}, (∀ op, P op → op.Aside p) → op.ticks = none →
      op ≠ .core .dispatch → LeadsBy P w.system.core σ'.core →
      (r.called? = some p → (w.started + 1) * period.toNat ≤ w.elapsed) ∧
        Watched t p entry start period field (w.next p (op, r) σ') ∧
        (¬ op.Returns w.system p →
          (p ∈ σ'.core.running ↔ p ∈ w.system.core.running ∨ r.called? = some p)) := by
    intro P hP hticks hdispatch hleads
    have hcalled := hkeeps.called hdispatch
    obtain ⟨hnext, hrunning⟩ := honTime.aside hhalf hP hleads
    refine ⟨by simp [hcalled], hwatched rfl ?_, fun _ => by simp [hcalled, hrunning]⟩
    simpa [TimeoutWatch.core, TimeoutWatch.next, hticks, hcalled] using hnext
  -- a step of the event loop itself
  have hcore : ∀ {op' : Op} {s₁ : State}, op = .core op' →
      PeriodicHistory.OnTime p start period field ⟨s₁, w.elapsed, w.started⟩ →
      s₁.running = w.system.core.running → Step s₁ (op', r) σ'.core → ¬ Cancels s₁ p op' →
      (r.called? = some p → (w.started + 1) * period.toNat ≤ w.elapsed) ∧
        Watched t p entry start period field (w.next p (op, r) σ') ∧
        (¬ op.Returns w.system p →
          (p ∈ σ'.core.running ↔ p ∈ w.system.core.running ∨ r.called? = some p)) := by
    rintro op' s₁ rfl hon hrunning hstep hcancels
    obtain ⟨hdue, hnext⟩ := hon.advance hhalf hstep step.bounded hcancels fun h => by
      obtain ⟨rfl, hhead⟩ := h
      exact hreturn ⟨rfl, by rw [← hrunning]; exact hhead⟩
    refine ⟨hdue, hwatched rfl hnext, fun hnot => ?_⟩
    rw [← hrunning]
    refine hstep.mem_running hon.owned fun h => hnot ?_
    obtain ⟨rfl, hhead⟩ := h
    exact ⟨rfl, by rw [← hrunning]; exact hhead⟩
  cases op with
  | timeoutMs | timeoutEveryMs =>
    exact haside (fun op h => h.aside) rfl (by simp) hkeeps.trace
  | timeoutCancel u =>
    cases u with
    | none =>
      have hsame : σ'.core = w.system.core := hkeeps.trace
      refine haside (P := fun _ => False) (fun _ h => h.elim) rfl (by simp) ?_
      rw [hsame]
      exact .refl _
    | some u =>
      have hlive : w.system.Live u := step.permits u rfl
      obtain ⟨q, hentry, hqp⟩ := watched.other_timer hlive fun h => hcancel (h ▸ rfl)
      have htrace : LeadsBy (Op.GivesUp (some q)) w.system.core σ'.core := hentry ▸ hkeeps.trace
      exact haside (fun op h => h.aside hqp) rfl (by simp) htrace
  | core op =>
    have halone : w.system.LeavesAlone op := step.permits.2.2
    by_cases hop : op = .handlerReturn
    · subst hop
      obtain ⟨s₁, hleads, hstep⟩ := hkeeps.trace
      obtain ⟨hon, hrunning⟩ := honTime.aside hhalf (fun _ => aside_of_clientFree) hleads
      exact hcore rfl hon hrunning hstep id
    · have hstep : Step w.system.core (op, r) σ'.core := by
        have htrace := hkeeps.trace
        cases op <;> first | exact htrace | contradiction
      exact hcore rfl honTime rfl hstep (watched.not_cancels halone)

/-- A dispatch of the timer calls `timeout_tasklet`. -/
lemma tasklet_eq (watched : Watched t p entry start period field w) {tasklet : ArmCoreTasklet}
    {s' : State} (step : Step w.system.core (.dispatch, .call (some (p, tasklet))) s') :
    tasklet.funcPtr = timeoutTasklet := by
  have ground := watched.consistent.ground
  obtain ⟨-, htimed, -⟩ := watched.timer
  obtain ⟨acts, heffect, -⟩ := step.effect ground.owned
  cases heffect with
  | dispatch hqueue htasklet =>
    obtain ⟨hmem, hid, -⟩ := eventTaskletHandlerGet_eq_some htasklet
    exact (ground.tasklet tasklet hmem).mpr (hid.trans htimed.2.1)

/-- A dispatch of the timer leaves `timeout_tasklet` in its callback, the timer in its local. -/
lemma locals_eq (hhalf : period.toNat < 2 ^ 31) (watched : Watched t p entry start period field w)
    {tasklet : ArmCoreTasklet} {σ' : System}
    (step : SystemStep w.system (.core .dispatch, .call (some (p, tasklet))) σ') :
    σ'.locals = some p :: w.system.locals := by
  have hfun := watched.tasklet_eq (watched.consistent.keeps watched.stacked step).trace
  obtain ⟨timer, hcall, hlocals, hentries⟩ := System.dispatch_spec step.exec hfun
  obtain ⟨-, hnext, -⟩ := watched.step hhalf step (by simp) fun h => by cases h.1
  obtain ⟨-, htimed, hdata⟩ := hnext.timer
  have htype : (σ'.core.event p).data.eventType = timerEvent := htimed.2.2
  have hdata' : (σ'.core.event p).data.dataPtr = some t := hdata
  have hlive : System.Live { w.system with core := σ'.core } t := hnext.live
  have hevent : (w.system.entries t).event = some p := watched.entry_eq ▸ watched.event_eq
  simp only [timeoutTaskletCall, htype, hdata', hlive, hevent, ne_eq, not_true_eq_false,
    ↓reduceIte] at hcall
  split at hcall
  · cases hcall
  · rw [hlocals, ← Except.ok.inj hcall]

/-- The timer can be dispatched when it is at the head of the queue. -/
lemma dispatch (watched : Watched t p entry start period field w)
    (hcallback : entry.callback ≠ none)
    (hhead : w.system.core.eventQueueActive.head? = some p) :
    ∃ tasklet σ', SystemStep w.system (.core .dispatch, .call (some (p, tasklet))) σ' := by
  rcases watched.consistent.dispatch watched.stacked with
    ⟨σ', r, hexec, -, -, -, hstep⟩ | ⟨-, q, u, hq, -, hdata, hnull⟩
  · obtain ⟨acts, heffect, -⟩ := hstep.effect watched.consistent.ground.owned
    cases heffect with
    | dispatchIdle hqueue => simp [hqueue] at hhead
    | @dispatch q rest tasklet hqueue =>
      obtain rfl : q = p := by simpa [hqueue] using hhead
      exact ⟨tasklet, σ', ⟨trivial, trivial, trivial⟩, trivial, hexec⟩
  · -- the callback of this timeout is not `NULL`
    obtain rfl : q = p := Option.some.inj (hq.symm.trans hhead)
    obtain rfl : u = t := Option.some.inj (hdata.symm.trans watched.timer.2.2)
    rw [watched.entry_eq] at hnull
    exact absurd hnull hcallback

end Watched

/-- The timer of a new timeout, which is requested last. -/
lemma System.Creates.timer {σ σ' : System} {callback : Option FuncPtr} {arg : ℕ}
    {at_ field : BitVec 32} {answers : Answers} {t : Ptr} (coherent : σ.Coherent)
    (h : σ.Creates σ' callback arg at_ field answers (some t)) : ∃ s₁ p acts,
      σ'.entries t = { callback := callback, arg := arg, event := some p } ∧
      (Owned s₁ ∧ s₁.Ordered ∧ s₁.timerSysTicks = σ.core.timerSysTicks) ∧
      Requested s₁ (timeoutEvent σ'.timeoutTaskletId t)
        (if field = 0 then at_ else σ.core.timerSysTicks + field) field answers.timer (some p)
        acts ∧
      Run Move s₁ acts σ'.core ∧ (Owned σ'.core ∧ σ'.core.Ordered) ∧
      (σ'.core.mem p).period = field ∧ p ∉ σ'.core.running := by
  obtain ⟨s₁, p, hentry, leads, hstep⟩ := h.built t rfl
  obtain ⟨own₁, ordered₁, hticks⟩ :=
    leads.untimed coherent.consistent.ground.owned coherent.ordered fun op h => h.ticks_eq
  obtain ⟨acts, heffect, run⟩ := hstep.effect own₁
  obtain ⟨hbuilds, -, -, hdispatch, hreturn, -⟩ :=
    timeoutRequest_spec σ'.timeoutTaskletId t at_ field answers.timer s₁
  have hbounded : BoundedTicks (timeoutRequest σ'.timeoutTaskletId t at_ field answers.timer) := by
    unfold timeoutRequest
    split <;> trivial
  have hrunning := heffect.running run hdispatch hreturn
  rcases timeoutRequest_effect heffect with ⟨-, hnone, -⟩ | hreq
  · cases hnone
  · obtain ⟨u, B, hB, hgrow, hfill⟩ := requested_fill hreq run
    obtain ⟨hfree, -, hmem, -⟩ := fill_spec (own₁.run hgrow) hB hfill
    refine ⟨s₁, p, acts, hentry, ⟨own₁, ordered₁, hticks⟩, hticks ▸ hreq, run,
      ⟨own₁.step hstep, ordered₁.step own₁ hstep hbounded⟩, by rw [hmem]; rfl, ?_⟩
    rw [hrunning]
    exact fun hp => grow_not_pending own₁ hgrow hfree (Or.inr (Or.inr hp))

/-- A new timeout is on its timetable from the start. -/
lemma System.Creates.watched {σ σ' : System} {callback : Option FuncPtr} {arg : ℕ}
    {at_ period field : BitVec 32} {answers : Answers} {t : Ptr} (coherent : σ.Coherent)
    (h : σ.Creates σ' callback arg at_ field answers (some t)) (hhalf : period.toNat < 2 ^ 31)
    (hfirst : (if field = 0 then at_ else σ.core.timerSysTicks + field)
      = σ.core.timerSysTicks + period) :
    ∃ p, p ∉ σ'.core.running ∧ Watched t p { callback := callback, arg := arg, event := some p }
      σ.core.timerSysTicks period field ⟨σ', 0, 0⟩ := by
  obtain ⟨s₁, p, acts, hentry, ⟨own₁, -, hticks⟩, hreq, run, ⟨own', ordered'⟩, -, hrunning⟩ :=
    h.timer coherent
  rw [hfirst, ← hticks] at hreq
  refine ⟨p, hrunning, h.consistent, h.stacked, (h.live t).mpr (Or.inr rfl), hentry, rfl,
    own', ordered', ?_⟩
  rw [← hticks]
  exact .of_requested own₁ hhalf hreq run

/-! ## When no timeout can be created -/

/-- No timeout and no timer of a timeout is left behind. -/
def System.NothingNew (σ σ' : System) : Prop :=
  (∀ u, σ'.Live u ↔ σ.Live u) ∧
    ∀ p, Pending σ'.core p ∧ σ'.Timed p ↔ Pending σ.core p ∧ σ.Timed p

/-- Without a free id for the timeout tasklet nothing is created. -/
lemma System.Consistent.timeoutAt_full {σ : System} (con : σ.Consistent none) {answers : Answers}
    (fresh : ∀ p ∈ answers.toList, Fresh σ.core p) (hdistinct : answers.toList.Nodup)
    (hid : σ.timeoutTaskletId = -1) (hlen : 128 ≤ σ.core.armCoreTaskletList.length)
    (callback : Option FuncPtr) (arg : ℕ) (at_ period : BitVec 32) :
    ∃ σ', eventOSTimeoutAt_ callback arg at_ period answers σ = .ok (σ', none) ∧
      σ.NothingNew σ' := by
  have hfreeId : taskletGetFreeId σ.core = -1 :=
    con.ground.deliverable.registered.freeId_full (by simp only [int8Max]; omega)
  cases htimeout : answers.timeout with
  | none =>
    exact ⟨σ, by simp only [eventOSTimeoutAt_, htimeout], fun _ => Iff.rfl, fun _ => Iff.rfl⟩
  | some t =>
    have hfresh : Fresh σ.core t := fresh t (Answers.mem_toList (by simp) htimeout)
    have hdead : ¬ σ.Live t := by simp [System.Live, hfresh.free]
    obtain ⟨hfirst, -, -⟩ := Answers.distinct hdistinct
    obtain ⟨hnetasklet, hneevent, -⟩ := hfirst t htimeout
    have hbegin := con.begin hfresh { callback := callback, arg := arg
                                      event := (σ.entries t).event }
    obtain ⟨s', c, acts, hstart, hstep, heffect, run⟩ := hbegin.registers
      (Answers.fresh_of_alloc fresh (by simp) hnetasklet)
      (Answers.fresh_of_alloc fresh (by simp) hneevent) hdistinct hid
    -- the registration fails, or registers the tasklet under the id -1
    obtain ⟨hcode, hsame⟩ : (BitVec.ofInt 8 c).toInt < 0 ∧ System.Same
        { σ with
          core := { σ.core with heap := Function.update σ.core.heap t (some .timeout) }
          entries := Function.update σ.entries t
            { callback := callback, arg := arg, event := (σ.entries t).event } }
        { σ with
          core := s'
          entries := Function.update σ.entries t
            { callback := callback, arg := arg, event := (σ.entries t).event } } := by
      generalize answers.tasklet = newTasklet at heffect
      cases heffect with
      | handlerCreateDuplicate =>
        obtain rfl := Run.nil_iff.mp run
        exact ⟨by decide, .refl _⟩
      | handlerCreateFull =>
        obtain rfl := Run.nil_iff.mp run
        exact ⟨by decide, .refl _⟩
      | handlerCreate =>
        refine ⟨?_, hbegin.same_of_register hid run⟩
        have hfree : taskletGetFreeId { σ.core with
            heap := Function.update σ.core.heap t (some .timeout) } = -1 := hfreeId
        rw [hfree]
        decide
    rw [if_pos hcode] at hstart
    have hlive : ∀ u, s'.heap u = some .timeout ↔ u = t ∨ σ.Live u := by
      intro u
      refine (hsame.live u).trans ?_
      by_cases hut : u = t
      · simp [hut, System.Live]
      · simp [hut, System.Live]
    obtain ⟨hfree, -⟩ := free_step ((hlive t).mpr (Or.inl rfl))
    have hat : eventOSTimeoutAt_ callback arg at_ period answers σ = .ok ({ σ with
        core := { s' with heap := Function.update s'.heap t none }
        timeoutTaskletId := -1
        entries := Function.update σ.entries t
          { callback := callback, arg := arg, event := (σ.entries t).event } }, none) := by
      simp only [eventOSTimeoutAt_, htimeout, nsDynMemAlloc, hstart, ok_bind, armTimeout,
        ↓reduceIte, failTimeout, hfree]
    refine ⟨_, hat, fun u => ?_, fun q => ?_⟩
    · show Function.update s'.heap t none u = some .timeout ↔ _
      by_cases hut : u = t
      · simp [hut, hdead]
      · simpa [hut] using hlive u
    · exact iff_of_false (fun h => h.2.1 rfl) (fun h => h.2.1 hid)

/-! ## Running the model -/

/-- Carry out an operation, if it makes a step. -/
def System.attempt (σ : System) (op : SysOp) : Option System :=
  if σ.Permits op ∧ op.Bounded then
    match System.exec op σ with
    | .ok (σ', _) => some σ'
    | .error _ => none
  else none

lemma System.attempt_step (σ : System) (op : SysOp) (σ' : System)
    (hattempt : σ.attempt op = some σ') : ∃ r, SystemStep σ (op, r) σ' := by
  unfold System.attempt at hattempt
  split at hattempt
  · next hpermits =>
    split at hattempt
    · next σ₁ r hexec =>
      obtain rfl := Option.some.inj hattempt
      exact ⟨r, hpermits.1, hpermits.2, hexec⟩
    · cases hattempt
  · cases hattempt

end

end EventLoop
