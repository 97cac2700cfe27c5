import EventLoop.CallbackTimerRuns
import EventLoop.CatchUp
import EventLoop.TickTimer

/-!
# The tick timer keeps the time

The tick timer starts itself again in its own handler, while the loop of the interrupt handler goes
on with other timers. Its deadlines are the multiples of 200 slots after it was first started: at
every moment the next one is 200 slots after the last tick update, whatever the other timers do.
-/

namespace EventLoop

open Lib

/-- An operation on the other callback timers; their starts have at least 1 slot. -/
def TickOp.Others (tickTimerId : BitVec 8) : TickOp → Prop
  | .callback (.start timerId slots) => timerId ≠ tickTimerId ∧ slots ≠ 0
  | .callback (.stop timerId) => timerId ≠ tickTimerId
  | .callback (.unregister timerId) => timerId ≠ tickTimerId
  | .callback .sleep => False
  | .callback _ => True
  | .schedulerTimerStop => False
  | .schedulerTimerSynchAfterSleep _ => False

instance (tickTimerId : BitVec 8) (op : TickOp) : Decidable (op.Others tickTimerId) :=
  match op with
  | .callback (.start _ _) => inferInstanceAs (Decidable (_ ∧ _))
  | .callback (.stop _) | .callback (.unregister _) => inferInstanceAs (Decidable (_ ≠ _))
  | .callback .sleep | .schedulerTimerStop | .schedulerTimerSynchAfterSleep _ => isFalse id
  | .callback (.register _ _) | .callback .slot | .callback .interrupt
  | .callback .handlerReturn => isTrue trivial

lemma ordinary_of_others {tickTimerId : BitVec 8} {op : CallbackOp}
    (h : (TickOp.callback op).Others tickTimerId) : op.Ordinary := by
  cases op with
  | start timerId slots => exact h.2
  | sleep => exact h.elim
  | _ => exact trivial

/-- The other operations do not end the tick timer. -/
lemma not_ends_of_others {tickTimerId : BitVec 8} {op : CallbackOp} {ret : CallbackRet}
    (h : (TickOp.callback op).Others tickTimerId) : ¬ CallbackLabel.Ends tickTimerId (op, ret) := by
  rintro (⟨slots, heq⟩ | ⟨c, heq⟩ | ⟨c, heq⟩)
  · obtain ⟨rfl, -⟩ := Prod.mk.inj heq
    exact h.1 rfl
  · obtain ⟨rfl, -⟩ := Prod.mk.inj heq
    exact h rfl
  · obtain ⟨rfl, -⟩ := Prod.mk.inj heq
    exact h rfl

/-- The slots of a tick. -/
abbrev slotsPerTick : ℕ := 200

namespace CallbackTimers

variable {s : CallbackTimers}

lemma Armed.ids (armed : s.Armed) : (s.nsTimerList.map (·.nsTimerId)).Nodup := by
  rcases armed with ⟨expired, -⟩ | ⟨ticking, -⟩
  · exact expired.ids
  · exact ticking.ids

/-- The id of a timer determines its handler. -/
lemma handler_eq_of_identity (hids : (s.nsTimerList.map (·.nsTimerId)).Nodup)
    {timerId : BitVec 8} {handler handler' : FuncPtr} (h : (timerId, handler) ∈ s.identities)
    (h' : (timerId, handler') ∈ s.identities) : handler = handler' := by
  obtain ⟨t, ht, heq⟩ := List.mem_map.mp h
  obtain ⟨u, hu, heq'⟩ := List.mem_map.mp h'
  have hid : t.nsTimerId = u.nsTimerId :=
    (congrArg Prod.fst heq).trans (congrArg Prod.fst heq').symm
  obtain rfl := List.inj_on_of_nodup_map hids ht hu hid
  exact (congrArg Prod.snd heq).symm.trans (congrArg Prod.snd heq')

/-- A start with at least 1 slot, with the deadlines after it. -/
lemma Armed.deadline_start (armed : s.Armed) (h : s.control ≠ .expired) {timerId : BitVec 8}
    (idle slots : BitVec 16) (hslots : slots ≠ 0)
    (hfound : (nsTimerGetPointerToTimerStruct timerId s).isSome) (now : ℕ) :
    (eventOSCallbackTimerStart idle timerId slots s).1.Armed ∧
      (eventOSCallbackTimerStart idle timerId slots s).1.control = s.control ∧
      (eventOSCallbackTimerStart idle timerId slots s).1.deadline now
        = Function.update (s.deadline now) timerId (some (now + max 1 slots.toNat, slots)) := by
  obtain ⟨-, f, sets⟩ := (armed.ticking h).1.start idle slots hfound fun h0 => absurd h0 hslots
  have hcontrol := control_start idle timerId slots s
  refine ⟨armed.of_sets h sets hcontrol, hcontrol, ?_⟩
  rw [sets.deadline_eq hfound now]
  rfl

end CallbackTimers

open CallbackTimers

section

variable [NsList]

omit [NsList] in
/-- The last of `n + 1` calls in a row. -/
lemma times_succ (f : State → Except Fault State) (n : ℕ) (s : State) :
    times f (n + 1) s = times f n s >>= f := by
  induction n generalizing s with
  | zero =>
    simp only [times, ok_bind]
    cases f s <;> rfl
  | succ n ih =>
    rw [times]
    cases hf : f s with
    | error fault => simp [times, hf]
    | ok s' =>
      simp only [ok_bind, ih s']
      rw [times, hf, ok_bind]

/-- Each tick update by one moves the clock by one. -/
lemma ticks_of_times {n : ℕ} {s s' : State} (h : times timerSysInterrupt n s = .ok s') :
    s'.timerSysTicks = s.timerSysTicks + BitVec.ofNat 32 n := by
  induction n generalizing s' with
  | zero =>
    obtain rfl : s = s' := by simpa [times] using h
    simp
  | succ n ih =>
    rw [times_succ] at h
    cases ht : times timerSysInterrupt n s with
    | error fault => simp [ht] at h
    | ok t =>
      rw [ht, ok_bind, timerSysInterrupt, systemTimerTickUpdate_eq] at h
      obtain rfl := Except.ok.inj h
      simp [ih ht, State.advance, BitVec.ofNat_add, BitVec.add_assoc]

namespace TickSystem

/-- What a call of a handler does: that of the tick timer is carried out. -/
lemma exec_callback {idle : BitVec 16} {op : CallbackOp} {m m' : TickSystem} {ret : CallbackRet}
    (h : exec idle (.callback op) m = .ok (m', ret)) :
    ret = (CallbackTimers.exec idle op m.timers).2 ∧
      ((∃ call, ret = .call (some call) ∧ call.interruptHandler = tickTimerEventOSCallbackPtr ∧
          tickTimerEventOSCallback idle call.nsTimerId
            { m with timers := (CallbackTimers.exec idle op m.timers).1 } = .ok m') ∨
        (∀ call, ret = .call (some call) →
            call.interruptHandler ≠ tickTimerEventOSCallbackPtr) ∧
          m' = { m with timers := (CallbackTimers.exec idle op m.timers).1 }) := by
  simp only [exec] at h
  split at h
  · next call hcall =>
    split at h
    · next hptr =>
      cases hbody : tickTimerEventOSCallback idle call.nsTimerId
          { m with timers := (CallbackTimers.exec idle op m.timers).1 } with
      | error fault => simp [hbody] at h
      | ok m₁ =>
        rw [hbody, ok_bind] at h
        obtain ⟨rfl, rfl⟩ := Prod.mk.inj (Except.ok.inj h)
        exact ⟨rfl, Or.inl ⟨call, hcall, hptr, hbody⟩⟩
    · next hptr =>
      obtain ⟨rfl, rfl⟩ := Prod.mk.inj (Except.ok.inj h)
      refine ⟨rfl, Or.inr ⟨fun call' hcall' => ?_, rfl⟩⟩
      obtain rfl : call = call' := by simpa [hcall] using hcall'
      exact hptr
  · next hcall =>
    obtain ⟨rfl, rfl⟩ := Prod.mk.inj (Except.ok.inj h)
    exact ⟨rfl, Or.inr ⟨fun call hcall' => absurd hcall' (hcall call), rfl⟩⟩

/-- No operation runs into undefined behaviour. -/
lemma exists_exec (idle : BitVec 16) (op : TickOp) (m : TickSystem)
    (hcallback : m.tickTimerCallback = some timerSysInterrupt) :
    ∃ m' ret, exec idle op m = .ok (m', ret) := by
  cases op with
  | callback op =>
    simp only [exec]
    split
    · next call _ =>
      split
      · have hbody : ∃ m₁, tickTimerEventOSCallback idle call.nsTimerId
            { m with timers := (CallbackTimers.exec idle op m.timers).1 } = .ok m₁ := by
          simp only [tickTimerEventOSCallback, hcallback]
          split
          · rw [platformTickTimerStart]
            simp only [timerSysInterrupt, systemTimerTickUpdate_eq, ok_bind]
            exact ⟨_, rfl⟩
          · exact ⟨_, rfl⟩
        obtain ⟨m₁, hbody⟩ := hbody
        rw [hbody]
        exact ⟨_, _, rfl⟩
      · exact ⟨_, _, rfl⟩
    · exact ⟨_, _, rfl⟩
  | schedulerTimerStop => exact ⟨_, _, rfl⟩
  | schedulerTimerSynchAfterSleep sleepTicks =>
    simp only [exec, eventOSSchedulerTimerSynchAfterSleep, systemTimerTickUpdate_eq, ok_bind]
    exact ⟨_, _, rfl⟩

end TickSystem

/-- `k` tick updates by one were made in `n` slots, and the next one is due 200 slots after the
last. -/
structure Counting (core₀ : State) (tickTimerId : BitVec 8) (n k : ℕ) (m : TickSystem) :
    Prop where
  armed : m.timers.Armed
  id : m.tickTimerId = tickTimerId
  callback : m.tickTimerCallback = some timerSysInterrupt
  registered : (tickTimerId, tickTimerEventOSCallbackPtr) ∈ m.timers.identities
  deadline : m.timers.deadline n tickTimerId
    = some (slotsPerTick * (k + 1), BitVec.ofNat 16 slotsPerTick)
  begun : slotsPerTick * k ≤ n
  core : times timerSysInterrupt k core₀ = .ok m.core

/-- The handler of the timer is called. -/
def CallbackRet.callsTimer (timerId : BitVec 8) : CallbackRet → Bool
  | .call (some timer) => timer.nsTimerId = timerId
  | _ => false

namespace Counting

variable {core₀ : State} {tickTimerId : BitVec 8} {n k : ℕ} {m : TickSystem}

/-- Time may pass as long as the deadline of the tick timer stays. -/
lemma keep (counting : Counting core₀ tickTimerId n k m) {t : CallbackTimers} {n' : ℕ}
    (armed : t.Armed)
    (hregistered : (tickTimerId, tickTimerEventOSCallbackPtr) ∈ t.identities)
    (hdeadline : t.deadline n' tickTimerId = m.timers.deadline n tickTimerId) (hn : n ≤ n') :
    Counting core₀ tickTimerId n' k { m with timers := t } where
  armed := armed
  id := counting.id
  callback := counting.callback
  registered := hregistered
  deadline := hdeadline.trans counting.deadline
  begun := counting.begun.trans hn
  core := counting.core

/-- The tick timer runs out 200 slots after the last tick update, and starts itself again. -/
lemma tick (counting : Counting core₀ tickTimerId n k m) {t : CallbackTimers}
    {idle slots : BitVec 16}
    (armed : t.Armed) (hcontrol : t.control ≠ .expired)
    (hregistered : (tickTimerId, tickTimerEventOSCallbackPtr) ∈ t.identities)
    (hdue : m.timers.deadline n tickTimerId = some (n, slots)) {m' : TickSystem}
    (hbody : TickSystem.tickTimerEventOSCallback idle tickTimerId { m with timers := t }
      = .ok m') :
    Counting core₀ tickTimerId n (k + 1) m' ∧ timerSysInterrupt m.core = .ok m'.core := by
  have hn : n = slotsPerTick * (k + 1) := by
    have hpair := hdue.symm.trans counting.deadline
    exact congrArg Prod.fst (Option.some.inj hpair)
  have hslots : (timerSlotsPerMs * timerSysTickPeriod).setWidth 16 = BitVec.ofNat 16 slotsPerTick :=
    rfl
  simp only [TickSystem.tickTimerEventOSCallback, counting.callback, counting.id, ↓reduceIte,
    TickSystem.platformTickTimerStart, hslots] at hbody
  cases hcore : timerSysInterrupt m.core with
  | error fault => simp [hcore] at hbody
  | ok core =>
    rw [hcore, ok_bind] at hbody
    obtain rfl := Except.ok.inj hbody
    obtain ⟨harmed, -, hdeadline⟩ := armed.deadline_start hcontrol idle
      (BitVec.ofNat 16 slotsPerTick) (by decide) (pointer_of_identity hregistered) n
    refine ⟨{ armed := harmed, id := rfl, callback := rfl, registered := ?_, deadline := ?_
              begun := hn.ge, core := ?_ }, rfl⟩
    · rwa [identities_start]
    · rw [hdeadline, Function.update_self, hn]
      rfl
    · rw [times_succ, counting.core, ok_bind, hcore]

/-- **One step**: the tick timer makes a tick update and is due again 200 slots later, or neither
changes. -/
lemma step (counting : Counting core₀ tickTimerId n k m) {label : TickOp × CallbackRet}
    {m' : TickSystem} (step : TickStep m label m') (hothers : label.1.Others tickTimerId) :
    ∃ k', Counting core₀ tickTimerId (n + [label].count (.callback .slot, .void)) k' m' ∧
      if label.2.callsTimer tickTimerId then
        k' = k + 1 ∧ timerSysInterrupt m.core = .ok m'.core
      else k' = k ∧ m'.core = m.core := by
  obtain ⟨op, ret⟩ := label
  cases op with
  | schedulerTimerStop => exact hothers.elim
  | schedulerTimerSynchAfterSleep => exact hothers.elim
  | callback op =>
    obtain ⟨allows, idle, hexec⟩ := step
    obtain ⟨hret, hcases⟩ := TickSystem.exec_callback hexec
    generalize ht : (CallbackTimers.exec idle op m.timers).1 = t at hcases
    have timed : TimedStep m.timers (op, ret) t :=
      ⟨⟨allows, idle, by rw [hret, ← ht]⟩, calm_of_ordinary (ordinary_of_others hothers)⟩
    have hunregister : op ≠ .unregister tickTimerId := by
      rintro rfl
      exact hothers rfl
    have hregistered := timed.toCallbackStep.mem_identities counting.registered hunregister
    obtain ⟨armed, n', hstep⟩ := timed.follows counting.armed n
    have hn' : n' = n + [(TickOp.callback op, ret)].count (.callback .slot, .void) := by
      have helapsed := elapsed_eq_slotsPassed [(op, ret)]
      rw [DeadlineMap.elapsed_singleton _ rfl] at helapsed
      rw [show n' = n + _ from hstep.now_eq, helapsed, slotsPassed]
      simp [List.count_singleton]
    -- the callback of the tick timer is the only one that makes a tick update
    by_cases hcall : ∃ call, ret = .call (some call) ∧ call.nsTimerId = tickTimerId
    · obtain ⟨call, rfl, hid⟩ := hcall
      have hmem := timed.toCallbackStep.mem_of_call rfl
      rw [hid] at hmem
      have hptr := handler_eq_of_identity counting.armed.ids hmem counting.registered
      rcases hcases with ⟨call', heq, -, hbody⟩ | ⟨hnot, -⟩
      · obtain rfl : call = call' := by simpa using heq
        rw [CallbackLabel.action_eq_fire.mpr ⟨call, rfl, hid, rfl⟩] at hstep
        have hdue : m.timers.deadline n tickTimerId = some (n, call.slots) := by
          generalize t.deadline n' = d at hstep
          cases hstep with
          | fire _ _ hdue => exact hdue
        rw [hid] at hbody
        have hnext :=
          counting.tick armed (timed.toCallbackStep.control_of_call rfl) hregistered hdue
          hbody
        refine ⟨k + 1, by simpa using hnext.1, ?_⟩
        rw [if_pos (by simpa [CallbackRet.callsTimer] using hid)]
        exact ⟨rfl, hnext.2⟩
      · exact absurd hptr (hnot call rfl)
    · have hm' : m' = { m with timers := t } := by
        rcases hcases with ⟨call, rfl, -, hbody⟩ | ⟨-, hm'⟩
        · have hne : call.nsTimerId ≠ tickTimerId := fun hid => hcall ⟨call, rfl, hid⟩
          simp only [TickSystem.tickTimerEventOSCallback, counting.callback, counting.id, hne,
            ↓reduceIte] at hbody
          rw [← Except.ok.inj hbody, counting.callback, counting.id]
        · exact hm'
      subst hm'
      have hnone : ¬ ret.callsTimer tickTimerId := by
        cases ret with
        | call call =>
          cases call with
          | none => simp [CallbackRet.callsTimer]
          | some call => simpa [CallbackRet.callsTimer] using hcall
        | _ => simp [CallbackRet.callsTimer]
      refine ⟨k, hn' ▸ counting.keep armed hregistered (hstep.deadline_eq fun b hb hon => ?_) ?_,
        by rw [if_neg hnone]; exact ⟨rfl, rfl⟩⟩
      · rcases CallbackLabel.action_on_iff.mp ⟨b, hb, hon⟩ with hends | ⟨call, hret', hid⟩
        · exact not_ends_of_others hothers hends
        · exact hcall ⟨call, hret', hid⟩
      · omega

/-- A run of operations on the other timers. -/
lemma run (counting : Counting core₀ tickTimerId n k m) {l : List (TickOp × CallbackRet)}
    {m' : TickSystem} (run : Run TickStep m l m')
    (hothers : ∀ label ∈ l, label.1.Others tickTimerId) :
    ∃ k', Counting core₀ tickTimerId (n + l.count (.callback .slot, .void)) k' m' := by
  induction run with
  | nil => exact ⟨k, counting⟩
  | @snoc l _ _ label _ last ih =>
    obtain ⟨k₁, hcounting⟩ := ih fun a ha => hothers a (List.mem_append_left _ ha)
    obtain ⟨k₂, hnext, -⟩ := hcounting.step last
      (hothers label (List.mem_append_right _ List.mem_cons_self))
    rw [List.count_append, ← Nat.add_assoc]
    exact ⟨k₂, hnext⟩

/-- In the main program the tick updates are as many as the time that passed asks for. -/
lemma count_eq (counting : Counting core₀ tickTimerId n k m) (hmain : m.timers.control = .main) :
    k = n / slotsPerTick := by
  have hlt : n < 200 * (k + 1) := ((counting.armed.slot hmain).2.2 n).1 _ _ _ counting.deadline
  have hle : 200 * k ≤ n := counting.begun
  show k = n / 200
  omega

end Counting

/-- The tick timer after `timer_sys_init`, if it could be registered. -/
lemma counting_of_init {m : TickSystem} (armed : m.timers.Armed) (hmain : m.timers.control = .main)
    (idle : BitVec 16) (newTimer : Option (BitVec 16))
    (hregistered : (m.timerSysInit idle newTimer).tickTimerId ≠ -1) :
    Counting (m.timerSysInit idle newTimer).core (m.timerSysInit idle newTimer).tickTimerId 0 0
      (m.timerSysInit idle newTimer) := by
  have hcontrol : m.timers.control ≠ .expired := by simp [hmain]
  rcases eventOSCallbackTimerRegister_eq (some tickTimerEventOSCallbackPtr) newTimer m.timers with
    ⟨b, heq⟩ | ⟨t, hstop, hhandler, hlt, hnone, heq⟩
  · refine absurd ?_ hregistered
    simp only [TickSystem.timerSysInit, TickSystem.platformTickTimerRegister,
      TickSystem.platformTickTimerStart, heq]
    rfl
  · obtain ⟨harmed, -⟩ := armed.register hcontrol (some tickTimerEventOSCallbackPtr) newTimer 0
    rw [heq] at harmed
    have hid : BitVec.ofInt 8 (t.nsTimerId.toNat : ℤ) = t.nsTimerId := by
      rw [BitVec.ofInt_natCast, BitVec.ofNat_toNat, BitVec.setWidth_eq]
    have hmem : (t.nsTimerId, tickTimerEventOSCallbackPtr) ∈ CallbackTimers.identities
        { m.timers with
          nsTimerInitialized := true
          nsTimerList := m.timers.nsTimerList ++ [t] } := by
      refine List.mem_map.mpr ⟨t, by simp, ?_⟩
      rw [NsTimerStruct.identity, Option.some.inj hhandler]
    have hinit : m.timerSysInit idle newTimer =
        { timers := (eventOSCallbackTimerStart idle t.nsTimerId (BitVec.ofNat 16 slotsPerTick)
            { m.timers with
              nsTimerInitialized := true, nsTimerList := m.timers.nsTimerList ++ [t] }).1
          tickTimerCallback := some timerSysInterrupt
          tickTimerId := t.nsTimerId
          core := EventLoop.timerSysInit m.core } := by
      simp only [TickSystem.timerSysInit, TickSystem.platformTickTimerRegister,
        TickSystem.platformTickTimerStart, heq, hid]
      rfl
    obtain ⟨hstarted, -, hdeadline⟩ := Armed.deadline_start harmed hcontrol idle
      (BitVec.ofNat 16 slotsPerTick) (by decide) (pointer_of_identity hmem) 0
    rw [hinit]
    refine { armed := hstarted, id := rfl, callback := rfl, registered := ?_, deadline := ?_
             begun := le_refl _, core := rfl }
    · rwa [identities_start]
    · rw [hdeadline, Function.update_self]
      rfl

/-- **The tick clock neither loses nor gains a tick.** In the `N` slots after `timer_sys_init`,
whatever is done with the other callback timers, the tick timer makes exactly `N / 200` tick updates
by one, and nothing else changes the event core. -/
theorem tick_updates_exact {s₀ : CallbackTimers} {l₀ : List CallbackLabel}
    (run₀ : Run CallbackStep boot l₀ s₀) (h₀ : ∀ label ∈ l₀, label.1.Ordinary)
    (hmain₀ : s₀.control = .main) {m₀ : TickSystem} (hm₀ : m₀.timers = s₀) (idle : BitVec 16)
    (newTimer : Option (BitVec 16)) (hregistered : (m₀.timerSysInit idle newTimer).tickTimerId ≠ -1)
    {l : List (TickOp × CallbackRet)} {m : TickSystem}
    (run : Run TickStep (m₀.timerSysInit idle newTimer) l m)
    (hothers : ∀ label ∈ l, label.1.Others (m₀.timerSysInit idle newTimer).tickTimerId) :
    (m.timers.control = .main →
      times timerSysInterrupt (l.count (.callback .slot, .void) / slotsPerTick)
          (m₀.timerSysInit idle newTimer).core = .ok m.core ∧
        m.core.timerSysTicks = m₀.core.timerSysTicks
          + BitVec.ofNat 32 (l.count (.callback .slot, .void) / slotsPerTick)) ∧
      ∀ idle op, ∃ m' ret, TickSystem.exec idle op m = .ok (m', ret) := by
  subst hm₀
  have harmed := (callbackTimers_refine ((run₀.restrict h₀).mono
    fun _ _ _ ⟨step, hordinary⟩ => ⟨step, calm_of_ordinary hordinary⟩)).1
  obtain ⟨k, counting⟩ := (counting_of_init harmed hmain₀ idle newTimer hregistered).run run hothers
  refine ⟨fun hmain => ?_, fun idle op => m.exists_exec idle op counting.callback⟩
  have hcount := counting.count_eq hmain
  rw [Nat.zero_add] at hcount
  have hcore := counting.core
  rw [hcount] at hcore
  have hticks : (m₀.timerSysInit idle newTimer).core.timerSysTicks = m₀.core.timerSysTicks := rfl
  exact ⟨hcore, hticks ▸ ticks_of_times hcore⟩

instance (m : TickSystem) (op : TickOp) : Decidable (m.Allows op) :=
  match op with
  | .callback op => inferInstanceAs (Decidable (m.timers.Allows op))
  | .schedulerTimerStop | .schedulerTimerSynchAfterSleep _ => inferInstanceAs (Decidable (_ ≠ _))

/-- An operation that can come and is on the other timers. -/
def TickSystem.attempt (tickTimerId : BitVec 8) (m : TickSystem) (op : TickOp) :
    Option (TickSystem × CallbackRet) :=
  if m.Allows op ∧ op.Others tickTimerId then (exec 0 op m).toOption else none

lemma TickSystem.attempt_step {tickTimerId : BitVec 8} {m m' : TickSystem} {op : TickOp}
    {ret : CallbackRet} (h : m.attempt tickTimerId op = some (m', ret)) :
    TickStep m (op, ret) m' ∧ op.Others tickTimerId := by
  unfold TickSystem.attempt at h
  split at h
  · next hallows => exact ⟨⟨hallows.1, 0, toOption_eq_some.mp h⟩, hallows.2⟩
  · cases h

end

/-- Another timer that starts itself again, and runs out together with the tick timer. -/
def sampleTickOps : List TickOp :=
  List.map TickOp.callback <| [.register (some 1) (some 0), .start 1 150]
    ++ List.replicate 150 .slot ++ [.interrupt, .start 1 50, .handlerReturn]
    ++ List.replicate 50 .slot ++ [.interrupt, .handlerReturn, .start 1 3, .handlerReturn]

/-- The program before `timer_sys_init`. -/
def TickSystem.boot : TickSystem where
  timers := .boot
  tickTimerCallback := none
  tickTimerId := -1
  core := .boot 0

theorem tick_updates_exact_sample : ∃ l m, l.map Prod.fst = sampleTickOps ∧
    Run TickStep (TickSystem.boot.timerSysInit 0 (some 0)) l m ∧ m.timers.control = .main ∧
    l.count (.callback .slot, .void) = 200 ∧
    times timerSysInterrupt 1 (TickSystem.boot.timerSysInit 0 (some 0)).core = .ok m.core ∧
    m.core.timerSysTicks = 0 + BitVec.ofNat 32 1 ∧
    ∀ idle op, ∃ m' ret, TickSystem.exec idle op m = .ok (m', ret) := by
  have hsome : (Run.trace (TickSystem.attempt 0) sampleTickOps
      (TickSystem.boot.timerSysInit 0 (some 0))).map
      (fun p => (p.2.timers.control, p.1.count (.callback .slot, .void)))
      = some (.main, 200) := by decide +kernel
  obtain ⟨⟨l, m⟩, htrace, heq⟩ := Option.map_eq_some_iff.mp hsome
  obtain ⟨hmain, hcount⟩ : m.timers.control = .main ∧ l.count (.callback .slot, .void) = 200 :=
    Prod.mk.inj heq
  obtain ⟨hrun, hops⟩ : Run (fun m label m' => TickStep m label m' ∧ label.1.Others 0)
      (TickSystem.boot.timerSysInit 0 (some 0)) l m ∧ l.map Prod.fst = sampleTickOps :=
    Run.of_trace (fun _ _ _ _ => TickSystem.attempt_step) htrace
  have run : Run TickStep (TickSystem.boot.timerSysInit 0 (some 0)) l m :=
    hrun.mono fun _ _ _ h => h.1
  have hboot : TickSystem.boot.timers = CallbackTimers.boot := rfl
  obtain ⟨hexact, htotal⟩ := tick_updates_exact .nil (by simp) rfl hboot 0 (some 0) (by decide) run
    (hrun.forall_labels fun _ _ _ h => h.2)
  obtain ⟨htimes, hticks⟩ := hexact hmain
  rw [hcount] at htimes hticks
  exact ⟨l, m, hops, run, hmain, hcount, htimes, hticks, htotal⟩

end EventLoop
