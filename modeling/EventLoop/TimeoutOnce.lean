import EventLoop.TimeoutWatch

/-!
# One-shot timeouts

`eventOS_timeout_ms` adds a number of ticks to the tick counter and requests a timer for that time.
The timer keeps a period of 0, and the return of its callback frees both it and the timeout. Up to
2³² - 10 milliseconds the callback is called once, when the time has come; from there on the
rounding to ticks overflows, and the event is queued at once (`timeout_once_iff`).
-/

namespace EventLoop

open Lib

/-! ## Runs -/

/-- One timeout, and whether its callback has returned; nothing is counted after that. -/
structure OnceHistory where
  watch : TimeoutWatch
  ended : Bool

/-- The history after a step; `p` is the timer. -/
def OnceHistory.next (h : OnceHistory) (p : Ptr) (label : SysOp × Ret) (σ' : System) :
    OnceHistory :=
  if h.ended then { h with watch := { h.watch with system := σ' } }
  else
    { watch := h.watch.next p label σ'
      ended := decide (label.1.Returns h.watch.system p) }

/-- A history at the creation of a timeout. -/
def OnceHistory.start (σ : System) : OnceHistory := ⟨⟨σ, 0, 0⟩, false⟩

section

variable [NsList]

/-- A step that does not cancel the timeout. -/
structure OnceStep (t p : Ptr) (h : OnceHistory) (label : SysOp × Ret) (h' : OnceHistory) :
    Prop where
  step : SystemStep h.watch.system label h'.watch.system
  uncancelled : h.ended = false → label.1 ≠ .timeoutCancel (some t)
  next : h' = h.next p label h'.watch.system

/-- Until the callback has returned: the timer waits for `delay` ticks, is then queued, and calls
the callback. -/
structure OnceHistory.Lasts (t p : Ptr) (callback : Option FuncPtr) (arg delay : ℕ)
    (h : OnceHistory) : Prop where
  live : h.watch.system.Live t
  entry : h.watch.system.entries t = { callback := callback, arg := arg, event := some p }
  waits : h.watch.started = 0 → h.watch.elapsed < delay →
    p ∈ h.watch.system.core.systemTimerList
  queued : h.watch.started = 0 → delay ≤ h.watch.elapsed →
    p ∈ h.watch.system.core.eventQueueActive
  runs : h.watch.started = 1 → p ∈ h.watch.system.core.running
  /-- a dispatch of the timer is the first, it calls the callback, in an activation of
  `timeout_tasklet` whose local is the timer, and the time has come -/
  called : ∀ tasklet σ', SystemStep h.watch.system (.core .dispatch, .call (some (p, tasklet))) σ' →
    h.watch.started = 0 ∧ delay ≤ h.watch.elapsed ∧ tasklet.funcPtr = timeoutTasklet ∧
      h.watch.system.callOf p = some (callback, arg) ∧
      σ'.locals = some p :: h.watch.system.locals
  /-- a timer at the head of the queue can be dispatched -/
  calls : callback ≠ none → h.watch.system.core.eventQueueActive.head? = some p →
    ∃ tasklet σ', SystemStep h.watch.system (.core .dispatch, .call (some (p, tasklet))) σ'
  /-- the return of the callback ends the timeout -/
  ends : ∀ r σ', h.watch.system.core.running.head? = some p →
    SystemStep h.watch.system (.core .handlerReturn, r) σ' → ¬ σ'.Live t ∧ ¬ Pending σ'.core p

/-- The callback is called at most once, and `delay` ticks after the creation. -/
structure OnceHistory.Kept (t p : Ptr) (callback : Option FuncPtr) (arg delay : ℕ)
    (h : OnceHistory) : Prop where
  once : h.watch.started ≤ 1
  lasts : h.ended = false → h.Lasts t p callback arg delay

/-- In every run, the callback of the new timeout is called at most once, and `delay` ticks after
its creation. -/
def System.CallsOnce (σ : System) (t : Ptr) (callback : Option FuncPtr) (arg delay : ℕ) : Prop :=
  ∃ p, ∀ l h, Run (OnceStep t p) (.start σ) l h → h.Kept t p callback arg delay

/-! ## The invariant -/

/-- A timer with a period of 0 is free when its handler has returned. -/
lemma not_pending_of_return {s s' : State} {p : Ptr} {r : Ret} (own : Owned s)
    (hrun : s.running.head? = some p) (hclass : s.classOf p = .timer)
    (hzero : (s.mem p).period = 0) (step : Step s (.handlerReturn, r) s') : ¬ Pending s' p := by
  obtain ⟨acts, heffect, run⟩ := step.effect own
  have own' := own.run run
  cases heffect with
  | @handlerReturn q rest hq =>
    obtain rfl : q = p := by simpa [hq] using hrun
    simp only [finishAct, hclass, hzero, ↓reduceIte, Run.cons_iff, Run.nil_iff] at run
    obtain ⟨u, hfinish, v, hactive, rfl⟩ := run
    have hfree : q ∈ s'.at_ .timerFree := by
      cases hactive
      cases hfinish with
      | relocate row => simp [State.at_, State.move_timerFree]
    have htimer : s'.classOf q = .timer := own'.admits .timerFree q hfree
    exact own'.not_pending id hfree (by simp [htimer])

namespace Watched

variable {t p : Ptr} {entry : TimeoutEntry} {start delay : BitVec 32} {w : TimeoutWatch}

/-- A timer whose handler runs is not dispatched again. -/
lemma not_called_of_running (watched : Watched t p entry start delay 0 w) {label : SysOp × Ret}
    {σ' : System} (step : SystemStep w.system label σ') (hp : p ∈ w.system.core.running) :
    label.2.called? ≠ some p := by
  obtain ⟨op, r⟩ := label
  intro hcalled
  have hkeeps := watched.consistent.keeps watched.stacked step
  have own := watched.consistent.ground.owned
  by_cases hdispatch : op = .core .dispatch
  · subst hdispatch
    have hstep : Step w.system.core (.dispatch, r) σ'.core := hkeeps.trace
    obtain ⟨acts, heffect, -⟩ := hstep.effect own
    cases heffect with
    | dispatchIdle => simp [Ret.called?] at hcalled
    | @dispatch q rest tasklet hqueue =>
      obtain rfl : q = p := by simpa [Ret.called?] using hcalled
      have hclass : w.system.core.classOf q = .timer := watched.onTime.scheduled.class_eq
      have hrunning : q ∈ w.system.core.at_ .running := by simp [State.at_, hp, hclass]
      have hqueued : q ∈ w.system.core.at_ .queue := by simp [State.at_, hqueue]
      cases own.place_unique hrunning hqueued
  · simp [hkeeps.called hdispatch] at hcalled

/-- The return of the callback frees the timeout and its timer. -/
lemma ends (hhalf : delay.toNat < 2 ^ 31) (watched : Watched t p entry start delay 0 w) {r : Ret}
    {σ' : System} (hrun : w.system.core.running.head? = some p)
    (step : SystemStep w.system (.core .handlerReturn, r) σ') :
    ¬ σ'.Live t ∧ ¬ Pending σ'.core p := by
  have hevent : (w.system.entries t).event = some p := by rw [watched.entry_eq, watched.event_eq]
  have hperiod : (w.system.core.mem p).period = 0 := watched.onTime.scheduled.period_eq
  obtain ⟨σ₁, hreturn, hcon, -, hlive, -, -, s₁, hleads, hstep⟩ :=
    watched.consistent.handlerReturn watched.stacked (by rintro h; simp [h] at hrun)
  obtain rfl : σ₁ = σ' := by
    have hexec := step.exec
    simp only [System.exec, hreturn, Except.ok.injEq, Prod.mk.injEq] at hexec
    exact hexec.1
  obtain ⟨hon, hrunning⟩ := watched.onTime.aside hhalf (fun _ => aside_of_clientFree) hleads
  obtain ⟨hclass, hzero⟩ : s₁.classOf p = .timer ∧ (s₁.mem p).period = 0 :=
    ⟨hon.scheduled.class_eq, hon.scheduled.period_eq⟩
  refine ⟨fun h => ((hlive t).mp h).2 p hrun hevent hperiod, ?_⟩
  exact not_pending_of_return hon.owned (by rw [hrunning]; exact hrun) hclass hzero hstep

end Watched

/-- The invariant of the runs. -/
structure OnceHistory.Sound (t p : Ptr) (entry : TimeoutEntry) (start delay : BitVec 32)
    (h : OnceHistory) : Prop where
  once : h.watch.started ≤ 1
  watched : h.ended = false → Watched t p entry start delay 0 h.watch
  runs : h.ended = false → (p ∈ h.watch.system.core.running ↔ h.watch.started = 1)

namespace OnceHistory.Sound

variable {t p : Ptr} {entry : TimeoutEntry} {start delay : BitVec 32} {h h' : OnceHistory}
  {label : SysOp × Ret}

/-- What a step does to a timeout whose callback has not returned. -/
lemma advance (hhalf : delay.toNat < 2 ^ 31) (sound : h.Sound t p entry start delay)
    (hover : h.ended = false) {σ' : System} (step : SystemStep h.watch.system label σ')
    (hcancel : label.1 ≠ .timeoutCancel (some t))
    (hreturn : ¬ label.1.Returns h.watch.system p) :
    (label.2.called? = some p → h.watch.started = 0 ∧ delay.toNat ≤ h.watch.elapsed) ∧
      (h.next p label σ').Sound t p entry start delay := by
  obtain ⟨hdue, hwatched, hrunning⟩ :=
    (sound.watched hover).step hhalf step hcancel fun h => absurd h hreturn
  have hfirst : label.2.called? = some p → h.watch.started = 0 := by
    intro hcalled
    have hnot : p ∉ h.watch.system.core.running := fun hp =>
      (sound.watched hover).not_called_of_running step hp hcalled
    have honce := sound.once
    have hne := (sound.runs hover).not.mp hnot
    omega
  have hnext : h.next p label σ' = ⟨h.watch.next p label σ', false⟩ := by
    simp [OnceHistory.next, hover, hreturn]
  rw [hnext]
  refine ⟨fun hcalled => ⟨hfirst hcalled, ?_⟩, ?_, fun _ => hwatched, fun _ => ?_⟩
  · have hle := hdue hcalled
    rwa [hfirst hcalled, zero_add, one_mul] at hle
  · show (if _ then _ else _) ≤ 1
    split
    · next hcalled => rw [hfirst hcalled]
    · exact sound.once
  · show p ∈ σ'.core.running ↔ (if _ then _ else _) = 1
    rw [hrunning hreturn, sound.runs hover]
    split
    · next hcalled => simp [hcalled, hfirst hcalled]
    · next hcalled => simp [hcalled]

/-- A step keeps the invariant. -/
lemma step (hhalf : delay.toNat < 2 ^ 31) (sound : h.Sound t p entry start delay)
    (step : OnceStep t p h label h') : h'.Sound t p entry start delay := by
  rw [step.next]
  cases hover : h.ended with
  | true =>
    -- nothing is counted once the callback has returned
    have hnext : h.next p label h'.watch.system
        = { h with watch := { h.watch with system := h'.watch.system } } := by
      simp [OnceHistory.next, hover]
    rw [hnext]
    exact ⟨sound.once, fun h => by simp [hover] at h, fun h => by simp [hover] at h⟩
  | false =>
    by_cases hreturn : label.1.Returns h.watch.system p
    · have watched := sound.watched hover
      have hnone : label.2.called? = none :=
        (watched.consistent.keeps watched.stacked step.step).called (by rw [hreturn.1]; simp)
      have hnext : h.next p label h'.watch.system
          = ⟨h.watch.next p label h'.watch.system, true⟩ := by
        simp [OnceHistory.next, hover, hreturn]
      rw [hnext]
      refine ⟨?_, fun h => by simp at h, fun h => by simp at h⟩
      simpa [TimeoutWatch.next, hnone] using sound.once
    · exact (sound.advance hhalf hover step.step (step.uncancelled hover) hreturn).2

/-- What the invariant says of the timeout. -/
lemma kept {callback : Option FuncPtr} {arg : ℕ} (hhalf : delay.toNat < 2 ^ 31)
    (sound : h.Sound t p { callback := callback, arg := arg, event := some p } start delay) :
    h.Kept t p callback arg delay.toNat := by
  refine ⟨sound.once, fun hover => ?_⟩
  have watched := sound.watched hover
  obtain ⟨hclock, hclass, hperiod, phase⟩ := watched.onTime.scheduled
  have hidle : h.watch.started = 0 → p ∉ h.watch.system.core.running := by
    intro hzero hp
    have hone := (sound.runs hover).mp hp
    omega
  have hwaits : p ∈ h.watch.system.core.systemTimerList →
      h.watch.elapsed < (h.watch.started + 1) * delay.toNat := watched.onTime.waits
  exact {
    live := watched.live
    entry := watched.entry_eq
    waits := fun hzero hlt => by
      cases phase with
      | waiting hp => exact hp
      | queued hp hlaunch hdue =>
        have hle : (h.watch.started + 1) * delay.toNat ≤ h.watch.elapsed := hdue
        rw [hzero] at hle
        omega
      | running hp => exact absurd (List.mem_filter.mp hp).1 (hidle hzero)
    queued := fun hzero hle => by
      cases phase with
      | waiting hp =>
        have hlt := hwaits hp
        rw [hzero] at hlt
        omega
      | queued hp => exact hp
      | running hp => exact absurd (List.mem_filter.mp hp).1 (hidle hzero)
    runs := (sound.runs hover).mpr
    called := fun tasklet σ' hstep => by
      have htrace : Step h.watch.system.core (.dispatch, .call (some (p, tasklet))) σ'.core :=
        (watched.consistent.keeps watched.stacked hstep).trace
      obtain ⟨hfirst, hdue⟩ := (sound.advance hhalf hover hstep (by simp)
        fun hreturns => by cases hreturns.1).1 rfl
      exact ⟨hfirst, hdue, watched.tasklet_eq htrace, watched.callOf_eq,
        watched.locals_eq hhalf hstep⟩
    calls := watched.dispatch
    ends := fun r σ' hrun hstep => watched.ends hhalf hrun hstep }

end OnceHistory.Sound

/-! ## The result -/

/-- **A one-shot timeout runs exactly once and never early**, if and only if its milliseconds are
at most 2³² - 10. -/
theorem timeout_once_iff {s : State} {l : List (SysOp × Ret)} {σ σ' : System} (init : Initial s)
    (run : Run SystemStep (.start s) l σ) {answers : Answers}
    (fresh : ∀ p ∈ answers.toList, Fresh σ.core p) (distinct : answers.toList.Nodup)
    {callback : Option FuncPtr} {ms : BitVec 32} {arg : ℕ} {t : Ptr}
    (created : eventOSTimeoutMs callback ms arg answers σ = .ok (σ', some t)) :
    σ'.CallsOnce t callback arg (ms.toNat ⌈/⌉ 10) ↔ ms.toNat ≤ 2 ^ 32 - 10 := by
  have coherent := System.coherent_of_run init run
  have hlen : σ.timeoutTaskletId = -1 → σ.core.armCoreTaskletList.length < 128 := by
    intro hid
    by_contra hlen
    obtain ⟨σ₁, hat, -⟩ := coherent.consistent.timeoutAt_full fresh distinct hid
      (not_lt.mp hlen) callback arg
      (eventOSEventTimerMsToTicks ms + eventOSEventTimerTicks σ.core) 0
    rw [eventOSTimeoutMs, hat] at created
    simp at created
  obtain ⟨σ₁, r, hat, hcreates⟩ := coherent.consistent.timeoutAt coherent.stacked fresh distinct
    hlen callback arg (eventOSEventTimerMsToTicks ms + eventOSEventTimerTicks σ.core) 0
  obtain ⟨rfl, rfl⟩ : σ₁ = σ' ∧ r = some t := by
    rw [eventOSTimeoutMs, hat] at created
    simpa using created
  have hhalf := msToTicks_lt ms
  obtain ⟨p, hidle, watched⟩ := hcreates.watched coherent hhalf
    ((if_pos rfl).trans (add_comm _ _))
  constructor
  · rintro ⟨q, hkept⟩
    have hlasts := (hkept [] _ .nil).lasts rfl
    obtain rfl : q = p := by
      have hentry := hlasts.entry.symm.trans watched.entry_eq
      exact Option.some.inj (congrArg TimeoutEntry.event hentry)
    by_contra hrange
    -- the delay is 0 ticks, so the event is queued at once
    have hzero : (eventOSEventTimerMsToTicks ms).toNat = 0 := by
      rw [msToTicks_eq_zero fun h => hrange h.2]
      rfl
    have hlist : q ∈ σ₁.core.systemTimerList := by
      refine hlasts.waits rfl ?_
      show 0 < _
      rw [Nat.ceilDiv_eq_add_pred_div]
      have hlt := ms.isLt
      omega
    have hwaits : (0 : ℕ) < (0 + 1) * _ := watched.onTime.waits hlist
    omega
  · intro hrange
    refine ⟨p, fun l h hrun => ?_⟩
    have hstart : (OnceHistory.start σ₁).Sound t p
        { callback := callback, arg := arg, event := some p } σ.core.timerSysTicks
        (eventOSEventTimerMsToTicks ms) :=
      ⟨Nat.zero_le _, fun _ => watched, fun _ => iff_of_false hidle (by simp [OnceHistory.start])⟩
    have hsound := hrun.invariant hstart fun _ _ _ sound step => sound.step hhalf step
    have hkept := hsound.kept hhalf
    rwa [toNat_msToTicks_of_lt (by omega)] at hkept

end

/-- A timeout of 2³² - 1 milliseconds is queued at once. -/
theorem not_callsOnce_max : ∃ σ',
    eventOSTimeoutMs (some 5) 0xFFFFFFFF 0
      { timeout := some (.heap 0), tasklet := some (.heap 1), event := none, timer := none }
      (.start (eventOSSchedulerInit (.boot 0))) = .ok (σ', some (.heap 0)) ∧
    ¬ σ'.CallsOnce (.heap 0) (some 5) 0 ((0xFFFFFFFF : BitVec 32).toNat ⌈/⌉ 10) := by
  have hsome : (eventOSTimeoutMs (some 5) 0xFFFFFFFF 0
      { timeout := some (.heap 0), tasklet := some (.heap 1), event := none, timer := none }
      (.start (eventOSSchedulerInit (.boot 0)))).toOption.map (fun result =>
        (result.2, result.1.core.systemTimerList)) = some (some (.heap 0), []) := by
    decide +kernel
  obtain ⟨⟨σ', r⟩, hexec, hvalues⟩ := Option.map_eq_some_iff.mp hsome
  obtain ⟨rfl, hlist⟩ : r = some (.heap 0) ∧ σ'.core.systemTimerList = [] := by
    simpa using hvalues
  refine ⟨σ', toOption_eq_some.mp hexec, ?_⟩
  rintro ⟨p, hkept⟩
  have hwaits : p ∈ σ'.core.systemTimerList :=
    ((hkept [] _ .nil).lasts rfl).waits rfl (show 0 < _ by decide)
  simp [hlist] at hwaits

/-- A timeout of 25 milliseconds, 3 ticks, two ticks before the counter wraps. -/
theorem timeout_once_iff_wrap : ∃ l σ σ',
    Run SystemStep (.start (eventOSSchedulerInit (.boot 0xFFFFFFF0))) l σ ∧
    σ.core.timerSysTicks = 0xFFFFFFFE ∧
    eventOSTimeoutMs (some 5) 25 0
      { timeout := some (.heap 0), tasklet := some (.heap 1), event := none, timer := none } σ
        = .ok (σ', some (.heap 0)) ∧
    σ'.CallsOnce (.heap 0) (some 5) 0 3 := by
  let answers : Answers :=
    { timeout := some (.heap 0), tasklet := some (.heap 1), event := none, timer := none }
  have hsome : ((([.core (.tickUpdate 14)] : List SysOp).foldlM System.attempt
      (.start (eventOSSchedulerInit (.boot 0xFFFFFFF0)))).bind fun σ =>
        (eventOSTimeoutMs (some 5) 25 0 answers σ).toOption.map fun result => (σ, result)).map
          (fun x => (x.1.core.timerSysTicks, x.2.2,
            decide (∀ p ∈ answers.toList, Fresh x.1.core p)))
      = some (0xFFFFFFFE, some (.heap 0), true) := by decide +kernel
  obtain ⟨⟨σ, σ', r⟩, hx, hvalues⟩ := Option.map_eq_some_iff.mp hsome
  obtain ⟨σ₁, hσ, hexec⟩ := Option.bind_eq_some_iff.mp hx
  obtain ⟨result, hok, hpair⟩ := Option.map_eq_some_iff.mp hexec
  simp only [Prod.mk.injEq] at hvalues hpair
  obtain ⟨rfl, rfl⟩ := hpair
  obtain ⟨hticks, rfl, hfresh⟩ := hvalues
  obtain ⟨l, run, -⟩ := Run.of_foldlM System.attempt_step hσ
  have hcreated := toOption_eq_some.mp hok
  exact ⟨l, σ₁, σ', run, hticks, hcreated, (timeout_once_iff (boot_initial _) run
    (of_decide_eq_true hfresh) (by decide) hcreated).mpr (by decide)⟩

end EventLoop
