import EventLoop.TimeoutWatch

/-!
# Periodic timeouts

`eventOS_timeout_every_ms` passes its period to a helper that takes a period of 0 for a one-shot at
an absolute time. A period that converts to 0 ticks therefore makes a one-shot for tick 0: no
milliseconds at all, and from 2³² - 9 on, where the rounding overflows. For every other period the
call yields a periodic timeout or nothing (`timeout_every_iff`).
-/

namespace EventLoop

open Lib

section

variable [NsList]

/-! ## What a periodic timeout is -/

/-- A step that does not cancel the timeout; its callback returns less than 2³¹ ticks after the time
it was due. -/
structure EveryStep (t p : Ptr) (period : ℕ) (w : TimeoutWatch) (label : SysOp × Ret)
    (w' : TimeoutWatch) : Prop where
  step : SystemStep w.system label w'.system
  uncancelled : label.1 ≠ .timeoutCancel (some t)
  prompt : label.1.Returns w.system p → w.elapsed < w.started * period + 2 ^ 31
  next : w' = w.next p label w'.system

/-- The handle `t` is valid, and the callback is called every `period` ticks from `start` on. -/
structure KeepsCalling (t p : Ptr) (callback : Option FuncPtr) (arg : ℕ) (start : BitVec 32)
    (period : ℕ) (w : TimeoutWatch) : Prop where
  live : w.system.Live t
  entry : w.system.entries t = { callback := callback, arg := arg, event := some p }
  once : (w.system.core.eventQueueActive ++ w.system.core.systemTimerList ++
    w.system.core.running).count p = 1
  waits : p ∈ w.system.core.systemTimerList → w.elapsed < (w.started + 1) * period
  /-- a dispatch of the timer is a call of the callback, in an activation of `timeout_tasklet` whose
  local is the timer, and its time has come -/
  called : ∀ tasklet σ', SystemStep w.system (.core .dispatch, .call (some (p, tasklet))) σ' →
    (w.started + 1) * period ≤ w.elapsed ∧ tasklet.funcPtr = timeoutTasklet ∧
      w.system.callOf p = some (callback, arg) ∧ σ'.locals = some p :: w.system.locals
  /-- a timer at the head of the queue can be dispatched -/
  calls : callback ≠ none → w.system.core.eventQueueActive.head? = some p →
    ∃ tasklet σ', SystemStep w.system (.core .dispatch, .call (some (p, tasklet))) σ'
  /-- when the callback returns, the next call is one period after the time of this one -/
  again : ∀ r σ', w.system.core.running.head? = some p →
    w.elapsed < w.started * period + 2 ^ 31 →
    SystemStep w.system (.core .handlerReturn, r) σ' →
    (σ'.core.mem p).launchTime = start + BitVec.ofNat 32 ((w.started + 1) * period) ∧
      if (w.started + 1) * period ≤ w.elapsed then p ∈ σ'.core.eventQueueActive
      else p ∈ σ'.core.systemTimerList

/-- The timeout `t` with the timer `p` was created, with a period of `period` ticks. -/
structure System.PeriodicTimeout (σ σ' : System) (t p : Ptr) (callback : Option FuncPtr) (arg : ℕ)
    (period : ℕ) : Prop where
  new : ¬ σ.Live t
  live : ∀ u, σ'.Live u ↔ σ.Live u ∨ u = t
  positive : 1 ≤ period
  period_eq : (σ'.core.mem p).period.toNat = period
  waits : p ∈ σ'.core.systemTimerList
  launch : (σ'.core.mem p).launchTime = σ.core.timerSysTicks + BitVec.ofNat 32 period
  keeps : ∀ l w, Run (EveryStep t p period) ⟨σ', 0, 0⟩ l w →
    KeepsCalling t p callback arg σ.core.timerSysTicks period w

/-- `eventOS_timeout_every_ms` yields a periodic timeout or nothing. -/
def System.YieldsEvery (σ : System) (callback : Option FuncPtr) (every : BitVec 32) (arg : ℕ)
    (answers : Answers) : Prop :=
  ∃ σ' r, eventOSTimeoutEveryMs callback every arg answers σ = .ok (σ', r) ∧
    match r with
    | none => σ.NothingNew σ'
    | some t => ∃ p, σ.PeriodicTimeout σ' t p callback arg (every.toNat ⌈/⌉ 10)

/-! ## While it lasts -/

namespace Watched

variable {t p : Ptr} {entry : TimeoutEntry} {start period : BitVec 32} {w : TimeoutWatch}

/-- The return of the callback of a periodic timeout. -/
lemma again (hpos : 0 < period.toInt) (watched : Watched t p entry start period period w) {r : Ret}
    {σ' : System} (hrun : w.system.core.running.head? = some p)
    (hprompt : w.elapsed < w.started * period.toNat + 2 ^ 31)
    (step : SystemStep w.system (.core .handlerReturn, r) σ') :
    (σ'.core.mem p).launchTime = launchAt start period (w.started + 1) ∧
      if (w.started + 1) * period.toNat ≤ w.elapsed then p ∈ σ'.core.eventQueueActive
      else p ∈ σ'.core.systemTimerList := by
  obtain ⟨s₁, hleads, hstep⟩ := (watched.consistent.keeps watched.stacked step).trace
  obtain ⟨hon, hrunning⟩ := watched.onTime.aside (toNat_of_toInt_pos hpos).2
    (fun _ => aside_of_clientFree) hleads
  have hrun₁ : s₁.running.head? = some p := by rw [hrunning]; exact hrun
  obtain ⟨hlaunch, -, hplace⟩ := PeriodicHistory.Regular.completes hpos hon hrun₁ hprompt hstep
  exact ⟨hlaunch, hplace⟩

/-- What holds of a periodic timeout in every state. -/
lemma keepsCalling {callback : Option FuncPtr} {arg : ℕ} (hpos : 0 < period.toInt)
    (watched : Watched t p { callback := callback, arg := arg, event := some p } start period period
      w) : KeepsCalling t p callback arg start period.toNat w where
  live := watched.live
  entry := watched.entry_eq
  once := PeriodicHistory.Regular.count_eq_one watched.onTime
  waits := watched.onTime.waits
  called tasklet σ' step := by
    have htrace : Step w.system.core (.dispatch, .call (some (p, tasklet))) σ'.core :=
      (watched.consistent.keeps watched.stacked step).trace
    obtain ⟨hdue, -⟩ := watched.step (toNat_of_toInt_pos hpos).2 step (by simp)
      fun h => by cases h.1
    exact ⟨hdue rfl, watched.tasklet_eq htrace, watched.callOf_eq,
      watched.locals_eq (toNat_of_toInt_pos hpos).2 step⟩
  calls := watched.dispatch
  again r σ' := watched.again hpos

/-- A step of the runs of `KeepsCalling`. -/
lemma everyStep {w' : TimeoutWatch} {label : SysOp × Ret} (hpos : 0 < period.toInt)
    (watched : Watched t p entry start period period w)
    (step : EveryStep t p period.toNat w label w') : Watched t p entry start period period w' := by
  rw [step.next]
  exact (watched.step (toNat_of_toInt_pos hpos).2 step.step step.uncancelled
    fun h => ⟨hpos, rfl, step.prompt h⟩).2.1

end Watched

/-! ## Creation -/

/-- With a period of at least one tick, what is created is a periodic timeout. -/
lemma System.Creates.periodicTimeout {σ σ' : System} {callback : Option FuncPtr} {arg : ℕ}
    {at_ period : BitVec 32} {answers : Answers} {t : Ptr} (coherent : σ.Coherent)
    (h : σ.Creates σ' callback arg at_ period answers (some t)) (hpos : 0 < period.toInt) :
    ∃ p, σ.PeriodicTimeout σ' t p callback arg period.toNat := by
  obtain ⟨hnonzero, hhalf⟩ := toNat_of_toInt_pos hpos
  have hne : period ≠ 0 := by
    rintro rfl
    simp at hpos
  obtain ⟨p, hrunning, watched⟩ := h.watched coherent hhalf (if_neg hne)
  have hscheduled : Scheduled p σ.core.timerSysTicks period σ'.core 0 0 := watched.onTime.scheduled
  obtain ⟨hwaits, hlaunch⟩ : p ∈ σ'.core.systemTimerList ∧
      (σ'.core.mem p).launchTime = launchAt σ.core.timerSysTicks period 1 := by
    cases hscheduled.phase with
    | waiting hp hlaunch => exact ⟨hp, hlaunch⟩
    | queued hp hlaunch hdue => omega
    | running hp => exact absurd (List.mem_filter.mp hp).1 hrunning
  refine ⟨p, h.new t rfl, fun u => ?_, hnonzero, by rw [hscheduled.period_eq], hwaits, ?_,
    fun l w run => ?_⟩
  · rw [h.live u, Option.some.injEq, eq_comm (a := t)]
  · rw [hlaunch, launchAt, one_mul]
  · have hkeeps := run.invariant watched fun _ _ _ watched step => watched.everyStep hpos step
    exact hkeeps.keepsCalling hpos

/-- With a period of 0 ticks, what is created is not periodic. -/
lemma System.Creates.not_periodicTimeout {σ σ' : System} {callback : Option FuncPtr} {arg : ℕ}
    {at_ : BitVec 32} {answers : Answers} {t p : Ptr} {period : ℕ} (coherent : σ.Coherent)
    (h : σ.Creates σ' callback arg at_ 0 answers (some t)) :
    ¬ σ.PeriodicTimeout σ' t p callback arg period := by
  intro hperiodic
  obtain ⟨s₁, q, acts, hentry, -, -, -, -, hzero, -⟩ := h.timer coherent
  have hkept := (hperiodic.keeps [] _ .nil).entry
  obtain rfl : p = q := by
    have hevent := congrArg TimeoutEntry.event (hkept.symm.trans hentry)
    exact Option.some.inj hevent
  have hpositive := hperiodic.positive
  rw [← hperiodic.period_eq, hzero] at hpositive
  exact absurd hpositive (by decide)

/-! ## The result -/

/-- **A periodic timeout or nothing**, exactly when nothing can be allocated for it or the period
is from 1 to 2³² - 10 milliseconds. -/
theorem timeout_every_iff {s : State} {l : List (SysOp × Ret)} {σ : System} (init : Initial s)
    (run : Run SystemStep (.start s) l σ) {answers : Answers}
    (fresh : ∀ p ∈ answers.toList, Fresh σ.core p) (distinct : answers.toList.Nodup)
    (callback : Option FuncPtr) (every : BitVec 32) (arg : ℕ) :
    σ.YieldsEvery callback every arg answers ↔
      (σ.Refuses answers ∨ σ.timeoutTaskletId = -1 ∧ 128 ≤ σ.core.armCoreTaskletList.length) ∨
        1 ≤ every.toNat ∧ every.toNat ≤ 2 ^ 32 - 10 := by
  have coherent := System.coherent_of_run init run
  by_cases hfull : σ.timeoutTaskletId = -1 ∧ 128 ≤ σ.core.armCoreTaskletList.length
  · obtain ⟨σ', hat, hnothing⟩ := coherent.consistent.timeoutAt_full fresh distinct hfull.1 hfull.2
      callback arg 0 (eventOSEventTimerMsToTicks every)
    exact iff_of_true ⟨σ', none, hat, hnothing⟩ (Or.inl (Or.inr hfull))
  · obtain ⟨σ', r, hat, hcreates⟩ := coherent.consistent.timeoutAt coherent.stacked fresh distinct
      (fun hid => not_le.mp fun hlen => hfull ⟨hid, hlen⟩) callback arg 0
      (eventOSEventTimerMsToTicks every)
    have hlt := msToTicks_lt every
    have hrefused := hcreates.refused (by rw [BitVec.toInt_eq_toNat_of_lt (by omega)]; omega)
    rw [or_iff_left hfull]
    cases r with
    | none =>
      refine iff_of_true ⟨σ', none, hat, fun u => ?_, hcreates.failed rfl⟩
        (Or.inl (hrefused.mp rfl))
      rw [hcreates.live u, or_iff_left (by simp)]
    | some t =>
      have hgrants : ¬ σ.Refuses answers := hrefused.not.mp (by simp)
      rw [or_iff_right hgrants]
      constructor
      · rintro ⟨σ₁, r, hat', hyields⟩
        by_contra hrange
        obtain ⟨rfl, rfl⟩ : σ' = σ₁ ∧ some t = r := by
          have hsame := hat.symm.trans hat'
          simpa using hsame
        obtain ⟨p, hperiodic⟩ := hyields
        rw [msToTicks_eq_zero hrange] at hcreates
        exact hcreates.not_periodicTimeout coherent hperiodic
      · rintro ⟨hpos, hle⟩
        have hperiod : 0 < (eventOSEventTimerMsToTicks every).toInt := by
          have hne := (BitVec.toNat_ne_iff_ne (n := 32)).mpr (msToTicks_ne_zero hpos hle)
          rw [BitVec.toInt_eq_toNat_of_lt (by omega)]
          show (0 : ℤ) < _
          have hzero : (0 : BitVec 32).toNat = 0 := rfl
          omega
        obtain ⟨p, hperiodic⟩ := hcreates.periodicTimeout coherent hperiod
        rw [toNat_msToTicks_of_lt (by omega)] at hperiodic
        exact ⟨σ', some t, hat, p, hperiodic⟩

end

/-- A period of 0 milliseconds makes a timeout that is not periodic. -/
theorem not_yieldsEvery_zero :
    Run SystemStep (.start (eventOSSchedulerInit (.boot 0))) []
      (.start (eventOSSchedulerInit (.boot 0))) ∧
    ¬ (System.start (eventOSSchedulerInit (.boot 0))).YieldsEvery (some 6) 0 0
      { timeout := some (.heap 0), tasklet := some (.heap 1), event := none, timer := none } := by
  refine ⟨.nil, ?_⟩
  rintro ⟨σ', r, hexec, hyields⟩
  have hhandle : (eventOSTimeoutEveryMs (some 6) 0 0
      { timeout := some (.heap 0), tasklet := some (.heap 1), event := none, timer := none }
      (.start (eventOSSchedulerInit (.boot 0)))).toOption.map Prod.snd = some (some (.heap 0)) := by
    decide +kernel
  rw [hexec] at hhandle
  obtain rfl : r = some (.heap 0) := by simpa [Except.toOption] using hhandle
  obtain ⟨p, hperiodic⟩ := hyields
  exact absurd hperiodic.positive (by decide)

/-- A period of 25 milliseconds, 3 ticks, asked for after a one-shot was called. -/
theorem timeout_every_iff_sample : ∃ l σ,
    Run SystemStep (.start (eventOSSchedulerInit (.boot 0xFFFFFFFE))) l σ ∧
    σ.core.timerSysTicks = 2 ∧ σ.YieldsEvery (some 6) 25 0
      { timeout := some (.heap 2), tasklet := none, event := none, timer := none } := by
  let answers : Answers :=
    { timeout := some (.heap 2), tasklet := none, event := none, timer := none }
  have hsome : (([.timeoutMs (some 5) 40 0
        { timeout := some (.heap 0), tasklet := some (.heap 1), event := none, timer := none },
      .core .dispatch, .core .handlerReturn, .core (.tickUpdate 4), .core .dispatch,
      .core .handlerReturn] : List SysOp).foldlM System.attempt
        (.start (eventOSSchedulerInit (.boot 0xFFFFFFFE)))).map (fun σ =>
          (σ.core.timerSysTicks, decide (∀ p ∈ answers.toList, Fresh σ.core p)))
      = some (2, true) := by decide +kernel
  obtain ⟨σ, hσ, hvalues⟩ := Option.map_eq_some_iff.mp hsome
  obtain ⟨hticks, hfresh⟩ := Prod.mk.inj hvalues
  obtain ⟨l, run, -⟩ := Run.of_foldlM System.attempt_step hσ
  refine ⟨l, σ, run, hticks, ?_⟩
  exact (timeout_every_iff (boot_initial _) run (of_decide_eq_true hfresh) (by decide) (some 6) 25
    0).mpr (Or.inr (by decide))

end EventLoop
