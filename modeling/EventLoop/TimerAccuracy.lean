import EventLoop.LoopRefinement
import EventLoop.TickTimerTheorems

/-!
# The timers of the event loop in slots of the HAL timer

The whole chain from the HAL timer to the event queue: the interrupts of the HAL timer drive the
callback timers, one of these is the tick timer, its handler makes the tick updates, and these send
the timers that are due. A program takes operations of the callback timers and of the event core in
any order. In it the tick updates come every 200 slots to the slot, so a timer that is put on the
list with `n` ticks to wait is written to the event queue at the `n`-th multiple of 200 slots that
follows.
-/

namespace EventLoop

open Lib
open Lib.DeadlineMap (elapsed Kept Untouched)
open Lib.TimedQueue (Action)

/-- What happens in a program, seen from outside: a slot passes, or something is done to the event
queue or to the deadlines of the system timers. -/
inductive ProgramAction where
  | slot
  | loop (action : Action Ptr ArmEvent)

namespace ProgramAction

/-- What is done to the queue and the deadlines. -/
def onLoop : ProgramAction → Option (Action Ptr ArmEvent)
  | slot => none
  | loop action => some action

/-- What is done to the deadlines. -/
def onTimers : ProgramAction → Option (DeadlineMap.Action Ptr ArmEvent)
  | slot => none
  | loop action => action.onTimers

/-- A slot passes. -/
def isSlot : ProgramAction → Bool
  | slot => true
  | loop _ => false

/-- The slots that pass in a part of a program. -/
def slots (l : List ProgramAction) : ℕ := l.countP isSlot

/-- The ticks that pass in a part of a program. -/
def ticks (l : List ProgramAction) : ℕ := elapsed onTimers l

@[simp] lemma slots_append (l l' : List ProgramAction) :
    slots (l ++ l') = slots l + slots l' :=
  List.countP_append

@[simp] lemma ticks_append (l l' : List ProgramAction) :
    ticks (l ++ l') = ticks l + ticks l' :=
  DeadlineMap.elapsed_append onTimers l l'

variable (l l' : List ProgramAction) (p : Ptr) (n : ℕ) (event : ArmEvent)

/-- To start a timer takes no slot. -/
lemma slots_start : slots (l ++ .loop (.timer (.start p n event)) :: l') = slots l + slots l' := by
  simp [slots, isSlot]

/-- To start a timer takes no tick. -/
lemma ticks_start : ticks (l ++ .loop (.timer (.start p n event)) :: l') = ticks l + ticks l' := by
  simp [ticks, elapsed, onTimers, Action.onTimers, DeadlineMap.Action.isTick]

lemma eq_of_onTimers {a : ProgramAction} {b : DeadlineMap.Action Ptr ArmEvent}
    (h : a.onTimers = some b) : a = .loop (.timer b) := by
  rcases a with _ | (_ | a)
  · cases h
  · cases h
  · exact congrArg (fun b => ProgramAction.loop (.timer b)) (Option.some.inj h)

lemma filterMap_onLoop (actions : List (Action Ptr ArmEvent)) :
    (actions.map loop).filterMap onLoop = actions := by
  rw [List.filterMap_map]
  exact List.filterMap_some

/-- The actions of a program on the deadlines are those of its queue and timers. -/
lemma run_onTimers {loop₀ loop : TimedQueue.Loop Ptr ArmEvent}
    (run : Run (TimedQueue.Step ArmEvent.rank) loop₀ (l.filterMap onLoop) loop) :
    Run (fun d a => d.Step (onTimers a)) loop₀.timers l loop.timers := by
  refine (TimedQueue.run_timers run).of_filterMap (fun d a ha => ?_) fun d a b d' ha step => ?_
  · cases a with
    | slot => exact .idle
    | loop => cases ha
  · cases a with
    | slot => cases ha
    | loop => exact Option.some.inj ha ▸ step

end ProgramAction

open ProgramAction (slots ticks onLoop onTimers slots_start ticks_start filterMap_onLoop
  run_onTimers)

namespace TickSystem

variable [NsList]

/-- What an operation of the callback timers does in a program: a slot passes, or the handler of
the tick timer is called, which makes a tick update. -/
def programActions (m : TickSystem) (op : TickOp) (ret : CallbackRet) : List ProgramAction :=
  match op with
  | .callback .slot => [.slot]
  | _ =>
    if ret.callsTimer m.tickTimerId then
      (loopActions m.core (.tickUpdate 1) .void).map .loop
    else []

end TickSystem

section

variable [NsList]

/-- A step of a program: an operation of the callback timers, but not one on the tick timer, nor a
start with 0 slots; or an operation of the event core that addresses what it sends to a registered
tasklet, but not a tick update. -/
inductive ProgramStep (m : TickSystem) : List ProgramAction → TickSystem → Prop
  | timers {op : TickOp} {ret : CallbackRet} {m' : TickSystem} (step : TickStep m (op, ret) m')
      (others : op.Others m.tickTimerId) : ProgramStep m (m.programActions op ret) m'
  | core {op : Op} {r : Ret} {core : State} (step : Step m.core (op, r) core)
      (addressed : AddressedOp m.core op) (timeless : op.ticks = none) :
      ProgramStep m ((loopActions m.core op r).map .loop) { m with core := core }

/-! ## The timers apart from the event core -/

/-- An interrupt moves the clock. -/
lemma timerSysInterrupt_ne (s : State) : timerSysInterrupt s ≠ .ok s := by
  intro h
  have htimes : times timerSysInterrupt 1 s = .ok s := by
    rw [times, h]
    rfl
  have hticks := ticks_of_times htimes
  simp at hticks

/-- What the event core is at does not matter to the callback timers. -/
lemma TickSystem.exec_shadow {idle : BitVec 16} {op : CallbackOp} {m m' : TickSystem}
    {ret : CallbackRet} (hcallback : m.tickTimerCallback = some timerSysInterrupt)
    (h : exec idle (.callback op) m = .ok (m', ret)) (core : State) : ∃ core',
      exec idle (.callback op) { m with core := core } = .ok ({ m' with core := core' }, ret) ∧
      (timerSysInterrupt m.core = .ok m'.core ∧ timerSysInterrupt core = .ok core' ∨
        m'.core = m.core ∧ core' = core) := by
  obtain ⟨rfl, ⟨call, hcall, hptr, hbody⟩ | ⟨hnot, rfl⟩⟩ := exec_callback h
  · simp only [tickTimerEventOSCallback, hcallback] at hbody
    have hshadow : exec idle (.callback op) { m with core := core }
        = tickTimerEventOSCallback idle call.nsTimerId
            { m with timers := (CallbackTimers.exec idle op m.timers).1, core := core } >>=
          fun m' => .ok (m', (CallbackTimers.exec idle op m.timers).2) := by
      simp only [exec, hcall, hptr, ↓reduceIte]
    rw [hshadow]
    simp only [tickTimerEventOSCallback, hcallback]
    split at hbody
    · next hid =>
      obtain ⟨core', hcore⟩ : ∃ core', timerSysInterrupt core = .ok core' :=
        ⟨_, systemTimerTickUpdate_eq 1 core⟩
      refine ⟨core', ?_⟩
      simp only [platformTickTimerStart] at hbody ⊢
      cases hm : timerSysInterrupt m.core with
      | error fault => simp [hm] at hbody
      | ok c =>
        rw [hm, ok_bind] at hbody
        obtain rfl := Except.ok.inj hbody
        rw [if_pos hid, hcore]
        exact ⟨rfl, Or.inl ⟨rfl, rfl⟩⟩
    · next hid =>
      obtain rfl := Except.ok.inj hbody
      refine ⟨core, ?_⟩
      rw [if_neg hid]
      exact ⟨rfl, Or.inr ⟨rfl, rfl⟩⟩
  · refine ⟨core, ?_, Or.inr ⟨rfl, rfl⟩⟩
    simp only [exec]
    split
    · next call hcall => rw [if_neg (hnot call hcall)]
    · rfl

end

/-! ## The pace of the ticks -/

/-- At every action of a program the ticks so far are those of the slots so far, but for the one
that is due at this very slot; and when a timer fires it is not due any more. -/
def Paced (l : List ProgramAction) : Prop :=
  ∀ l₁ a l₂, l = l₁ ++ a :: l₂ →
    slotsPerTick * ticks l₁ ≤ slots l₁ ∧ slots l₁ ≤ slotsPerTick * (ticks l₁ + 1) ∧
      ∀ p event, a = .loop (.timer (.fire p event)) → slots l₁ = slotsPerTick * ticks l₁

namespace Paced

variable {l : List ProgramAction} {a : ProgramAction}

lemma nil : Paced [] := by
  intro l₁ a l₂ h
  simp at h

lemma snoc (paced : Paced l) (hlow : slotsPerTick * ticks l ≤ slots l)
    (hhigh : slots l ≤ slotsPerTick * (ticks l + 1))
    (hfire : ∀ p event, a = .loop (.timer (.fire p event)) → slots l = slotsPerTick * ticks l) :
    Paced (l ++ [a]) := by
  intro l₁ b l₂ h
  rcases List.eq_nil_or_concat l₂ with rfl | ⟨l₂, c, rfl⟩
  · obtain ⟨rfl, hab⟩ := List.append_inj' h rfl
    obtain rfl := List.singleton_inj.mp hab
    exact ⟨hlow, hhigh, hfire⟩
  · have hl : l ++ [a] = (l₁ ++ b :: l₂) ++ [c] := by simpa using h
    exact paced l₁ b l₂ (List.append_inj' hl rfl).1

/-- No time passes. -/
lemma append_loop (paced : Paced l) (hlow : slotsPerTick * ticks l ≤ slots l)
    (hhigh : slots l ≤ slotsPerTick * (ticks l + 1)) {actions : List (Action Ptr ArmEvent)}
    (htick : ∀ a ∈ actions, a.onTimers.any DeadlineMap.Action.isTick = false)
    (hfire : ∀ p event, .timer (.fire p event) ∈ actions → slots l = slotsPerTick * ticks l) :
    Paced (l ++ actions.map .loop) ∧ slots (l ++ actions.map .loop) = slots l ∧
      ticks (l ++ actions.map .loop) = ticks l := by
  induction actions using List.reverseRecOn with
  | nil => simpa using paced
  | append_singleton actions a ih =>
    obtain ⟨hpaced, hslots, hticks⟩ := ih (fun b hb => htick b (List.mem_append_left _ hb))
      fun p event h => hfire p event (List.mem_append_left _ h)
    have ha := htick a (by simp)
    have hone : ticks [.loop a] = 0 := by
      rw [ticks, DeadlineMap.elapsed_singleton onTimers rfl]
      exact if_neg (by simp [onTimers, ha])
    rw [List.map_append, ← List.append_assoc]
    refine ⟨hpaced.snoc (by rwa [hslots, hticks]) (by rwa [hslots, hticks]) fun p event h => ?_,
      ?_, ?_⟩
    · obtain rfl : a = .timer (.fire p event) := ProgramAction.loop.inj h
      rw [hslots, hticks]
      exact hfire p event (by simp)
    · rw [List.map_singleton, ProgramAction.slots_append, hslots]
      rfl
    · rw [List.map_singleton, ProgramAction.ticks_append, hticks, hone, Nat.add_zero]

end Paced

/-! ## Runs -/

/-- A timer has not run out before now. -/
lemma le_of_deadline {t : CallbackTimers} {now d : ℕ} {timerId : BitVec 8} {v : BitVec 16}
    (h : t.deadline now timerId = some (d, v)) : now ≤ d := by
  obtain ⟨timer, -, htimer⟩ := Option.bind_eq_some_iff.mp h
  obtain ⟨n, -, hn⟩ := Option.map_eq_some_iff.mp htimer
  obtain ⟨rfl, -⟩ := Prod.mk.inj hn
  exact Nat.le_add_right now n

section

variable [NsList]

/-- The whole chain, after the actions of a program that began at `ticks₀`. -/
structure Chained (ticks₀ : BitVec 32) (l : List ProgramAction) (m : TickSystem) : Prop where
  counting : ∃ core₀ core,
    Counting core₀ m.tickTimerId (slots l) (ticks l) { m with core := core }
  holds : ∃ loop, Run (TimedQueue.Step ArmEvent.rank) .empty (l.filterMap onLoop) loop ∧
    Holds ticks₀ m.core loop
  paced : Paced l

omit [NsList] in
/-- An operation that lets no time pass. -/
lemma loopActions_timeless {s : State} {op : Op} {r : Ret} (timeless : op.ticks = none)
    {a : Action Ptr ArmEvent} (ha : a ∈ loopActions s op r) :
    a.onTimers.any DeadlineMap.Action.isTick = false ∧ ∀ p event, a ≠ .timer (.fire p event) := by
  rw [loopActions, timeless] at ha
  rcases List.mem_append.mp ha with ha | ha
  · obtain ⟨b, -, rfl⟩ := List.mem_map.mp ha
    exact ⟨rfl, by simp⟩
  · obtain ⟨b, hb, rfl⟩ := List.mem_map.mp ha
    obtain ⟨htick, hfire⟩ := timerActions_timeless r timeless b hb
    refine ⟨htick, ?_⟩
    rintro p event heq
    obtain rfl : b = .fire p event := Action.timer.inj heq
    cases hfire

namespace Chained

variable {ticks₀ : BitVec 32} {l : List ProgramAction} {m m' : TickSystem}

lemma low (chained : Chained ticks₀ l m) : slotsPerTick * ticks l ≤ slots l := by
  obtain ⟨core₀, core, counting⟩ := chained.counting
  exact counting.begun

lemma high (chained : Chained ticks₀ l m) : slots l ≤ slotsPerTick * (ticks l + 1) := by
  obtain ⟨core₀, core, counting⟩ := chained.counting
  exact le_of_deadline counting.deadline

/-- The deadlines, in the ticks of the program. -/
lemma deadlines (chained : Chained ticks₀ l m) :
    Run (fun d a => d.Step (onTimers a)) DeadlineMap.empty l (m.core.deadlines (ticks l)) := by
  obtain ⟨loop, run, holds⟩ := chained.holds
  have htimers := run_onTimers l run
  have hnow : loop.timers.now = ticks l := (DeadlineMap.now_of_run htimers).trans (Nat.zero_add _)
  rw [← holds.timers, hnow] at htimers
  exact htimers

/-- The tick counter counts the ticks. -/
lemma clock (chained : Chained ticks₀ l m) :
    m.core.timerSysTicks = ticks₀ + BitVec.ofNat 32 (ticks l) := by
  obtain ⟨loop, run, holds⟩ := chained.holds
  have hnow : loop.timers.now = ticks l :=
    (DeadlineMap.now_of_run (run_onTimers l run)).trans (Nat.zero_add _)
  rw [holds.clock, hnow]

/-- What a step of the event core does to the queue and the timers. -/
lemma holds_step (chained : Chained ticks₀ l m) {actions : List (Action Ptr ArmEvent)}
    {core : State} (step : LoopStep m.core actions core) :
    ∃ loop, Run (TimedQueue.Step ArmEvent.rank) .empty
        ((l ++ actions.map ProgramAction.loop).filterMap onLoop) loop ∧ Holds ticks₀ core loop := by
  obtain ⟨loop, run, holds⟩ := chained.holds
  obtain ⟨loop', run', holds'⟩ := holds.step step
  refine ⟨loop', ?_, holds'⟩
  rw [List.filterMap_append, filterMap_onLoop]
  exact run.append run'

/-- A step of the event core. -/
lemma core (chained : Chained ticks₀ l m) {op : Op} {r : Ret} {core : State}
    (step : Step m.core (op, r) core) (addressed : AddressedOp m.core op)
    (timeless : op.ticks = none) :
    Chained ticks₀ (l ++ (loopActions m.core op r).map .loop) { m with core := core } := by
  obtain ⟨paced, hslots, hticks⟩ := chained.paced.append_loop chained.low chained.high
    (fun a ha => (loopActions_timeless timeless ha).1) fun p event ha =>
      absurd rfl ((loopActions_timeless timeless ha).2 p event)
  refine ⟨?_, chained.holds_step ⟨op, r, step, addressed, bounded_of_timeless timeless, rfl⟩, paced⟩
  rw [hslots, hticks]
  exact chained.counting

/-- A step in which neither a slot passes nor the tick timer is called. -/
lemma congr (chained : Chained ticks₀ l m) (hid : m'.tickTimerId = m.tickTimerId)
    (hcore : m'.core = m.core) (hcounting : ∃ core₀ core,
      Counting core₀ m.tickTimerId (slots l) (ticks l) { m' with core := core }) :
    Chained ticks₀ l m' where
  counting := hid ▸ hcounting
  holds := hcore ▸ chained.holds
  paced := chained.paced

/-- A slot passes. -/
lemma slot (chained : Chained ticks₀ l m) (hid : m'.tickTimerId = m.tickTimerId)
    (hcore : m'.core = m.core) (hcounting : ∃ core₀ core,
      Counting core₀ m.tickTimerId (slots l + 1) (ticks l) { m' with core := core }) :
    Chained ticks₀ (l ++ [.slot]) m' := by
  have hslots : slots (l ++ [.slot]) = slots l + 1 := ProgramAction.slots_append l [.slot]
  have hticks : ticks (l ++ [.slot]) = ticks l := ProgramAction.ticks_append l [.slot]
  have hloop : (l ++ [ProgramAction.slot]).filterMap onLoop = l.filterMap onLoop := by
    rw [List.filterMap_append]
    exact List.append_nil _
  refine ⟨?_, ?_, chained.paced.snoc chained.low chained.high fun _ _ h => by cases h⟩
  · rw [hslots, hticks]
    exact hid ▸ hcounting
  · rw [hloop, hcore]
    exact chained.holds

/-- The tick timer is called. -/
lemma tick (chained : Chained ticks₀ l m) (hid : m'.tickTimerId = m.tickTimerId)
    (hupdate : timerSysInterrupt m.core = .ok m'.core) (hcounting : ∃ core₀ core,
      Counting core₀ m.tickTimerId (slots l) (ticks l + 1) { m' with core := core }) :
    Chained ticks₀ (l ++ (loopActions m.core (.tickUpdate 1) .void).map .loop) m' := by
  have hstep : Step m.core (.tickUpdate 1, .void) m'.core := by
    refine ⟨trivial, ?_⟩
    rw [timerSysInterrupt] at hupdate
    simp only [exec, hupdate, ok_bind]
  obtain ⟨fires, hactions, hfires⟩ : ∃ fires : List (Action Ptr ArmEvent),
      loopActions m.core (.tickUpdate 1) .void = .timer .tick :: fires ∧
        ∀ a ∈ fires, ∃ p event, a = .timer (.fire p event) := by
    refine ⟨(m.core.systemTimerList.filter fun p => m.core.remaining p = 1).map fun p =>
      .timer (.fire p (m.core.event p).data), ?_, fun a ha => ?_⟩
    · simp [loopActions, Op.ticks, timerActions, DeadlineMap.expiry]
    · obtain ⟨p, -, rfl⟩ := List.mem_map.mp ha
      exact ⟨p, _, rfl⟩
  -- the tick is at the boundary, and what fires comes after it
  have hboundary : slots l = slotsPerTick * (ticks l + 1) := by
    obtain ⟨core₀, core, counting⟩ := hcounting
    exact le_antisymm chained.high counting.begun
  have hslots : slots (l ++ [.loop (.timer .tick)]) = slots l :=
    ProgramAction.slots_append l [.loop (.timer .tick)]
  have hticks : ticks (l ++ [.loop (.timer .tick)]) = ticks l + 1 :=
    ProgramAction.ticks_append l [.loop (.timer .tick)]
  have hsame : slots (l ++ [.loop (.timer .tick)])
      = slotsPerTick * ticks (l ++ [.loop (.timer .tick)]) := by
    rw [hslots, hticks, hboundary]
  have hpaced := chained.paced.snoc (a := .loop (.timer .tick)) chained.low chained.high
    fun _ _ h => by cases h
  have htimeless : ∀ a ∈ fires, a.onTimers.any DeadlineMap.Action.isTick = false := by
    intro a ha
    obtain ⟨p, event, rfl⟩ := hfires a ha
    rfl
  obtain ⟨paced, hslots', hticks'⟩ := hpaced.append_loop hsame.ge
    (hsame ▸ Nat.mul_le_mul_left _ (Nat.le_succ _)) htimeless fun _ _ _ => hsame
  have hholds := chained.holds_step
    ⟨.tickUpdate 1, .void, hstep, trivial, by simp [BoundedTicks], rfl⟩
  have hsplit : l ++ (loopActions m.core (.tickUpdate 1) .void).map .loop
      = (l ++ [.loop (.timer .tick)]) ++ fires.map .loop := by
    rw [hactions, List.map_cons, List.append_assoc, List.singleton_append]
  refine ⟨?_, hholds, hsplit ▸ paced⟩
  rw [hsplit, hslots', hticks', hslots, hticks]
  exact hid ▸ hcounting

/-- **One step of a program** keeps the whole chain. -/
theorem step (chained : Chained ticks₀ l m) {actions : List ProgramAction}
    (step : ProgramStep m actions m') : Chained ticks₀ (l ++ actions) m' := by
  cases step with
  | core step addressed timeless => exact chained.core step addressed timeless
  | @timers op ret _ step others =>
    obtain ⟨core₀, core, counting⟩ := chained.counting
    cases op with
    | schedulerTimerStop => exact others.elim
    | schedulerTimerSynchAfterSleep => exact others.elim
    | callback op =>
      obtain ⟨allows, idle, hexec⟩ := step
      obtain ⟨core', hshadow, hcores⟩ :=
        TickSystem.exec_shadow (m := m) counting.callback hexec core
      have hstep : TickStep { m with core := core } (.callback op, ret)
          { m' with core := core' } := ⟨allows, idle, hshadow⟩
      obtain ⟨k, hcounting, hk⟩ := counting.step hstep others
      have hid : m'.tickTimerId = m.tickTimerId := hcounting.id
      by_cases hcall : ret.callsTimer m.tickTimerId
      · rw [if_pos hcall] at hk
        obtain ⟨rfl, hupdate⟩ := hk
        have hm : timerSysInterrupt m.core = .ok m'.core := by
          rcases hcores with ⟨hm, -⟩ | ⟨-, rfl⟩
          · exact hm
          · exact absurd hupdate (timerSysInterrupt_ne _)
        have hslot : op ≠ .slot := by
          rintro rfl
          have hvoid : ret = .void := (TickSystem.exec_callback hexec).1
          rw [hvoid] at hcall
          cases hcall
        have hactions : m.programActions (.callback op) ret
            = (loopActions m.core (.tickUpdate 1) .void).map .loop := by
          cases op <;> first | exact absurd rfl hslot | exact if_pos hcall
        rw [hactions]
        exact chained.tick hid hm ⟨core₀, core', by simpa [hslot] using hcounting⟩
      · rw [if_neg hcall] at hk
        obtain ⟨rfl, hsame⟩ := hk
        have hm : m'.core = m.core := by
          rcases hcores with ⟨-, hupdate⟩ | ⟨hm, -⟩
          · rw [show core' = core from hsame] at hupdate
            exact absurd hupdate (timerSysInterrupt_ne _)
          · exact hm
        by_cases hslot : op = .slot
        · subst hslot
          obtain rfl : ret = .void := (TickSystem.exec_callback hexec).1
          exact chained.slot hid hm ⟨core₀, core', by simpa using hcounting⟩
        · have hactions : m.programActions (.callback op) ret = [] := by
            cases op <;> first | exact absurd rfl hslot | exact if_neg hcall
          rw [hactions, List.append_nil]
          exact chained.congr hid hm ⟨core₀, core', by simpa [hslot] using hcounting⟩

/-- A run of a program. -/
lemma run {l' : List (List ProgramAction)} (chained : Chained ticks₀ l m)
    (run : Run ProgramStep m l' m') : Chained ticks₀ (l ++ l'.flatten) m' := by
  induction run with
  | nil => simpa using chained
  | snoc _ last ih =>
    rw [List.flatten_append, List.flatten_singleton, ← List.append_assoc]
    exact ih.step last

/-- After initialisation. -/
lemma init {m₀ : TickSystem} (boot : Boot m₀.core) (armed : m₀.timers.Armed)
    (hmain : m₀.timers.control = .main) (idle : BitVec 16) (newTimer : Option (BitVec 16))
    (hregistered : (m₀.timerSysInit idle newTimer).tickTimerId ≠ -1) :
    Chained m₀.core.timerSysTicks [] (m₀.eventOSSchedulerInit idle newTimer) := by
  have initial : Initial (m₀.eventOSSchedulerInit idle newTimer).core := ⟨_, boot, rfl⟩
  exact ⟨⟨_, _, counting_of_init armed hmain idle newTimer hregistered⟩,
    ⟨.empty, .nil, initial.holds⟩, .nil⟩

/-- In the main program no tick is due. -/
lemma ticks_eq (chained : Chained ticks₀ l m) (hmain : m.timers.control = .main) :
    ticks l = slots l / slotsPerTick := by
  obtain ⟨core₀, core, counting⟩ := chained.counting
  exact counting.count_eq hmain

/-- A timer that was started and kept waits, or has fired to the slot. -/
lemma started {l₁ l₂ : List ProgramAction} {p : Ptr} {n : ℕ} {event : ArmEvent}
    (chained : Chained ticks₀ (l₁ ++ .loop (.timer (.start p n event)) :: l₂) m)
    (hkept : Kept onTimers p l₂) :
    (p ∈ m.core.systemTimerList ∧
        slots l₁ + slots l₂ ≤ slotsPerTick * (ticks l₁ + n)) ∨
      ∃ m₁ m₂, l₂ = m₁ ++ .loop (.timer (.fire p event)) :: m₂ ∧
        slots l₁ + slots m₁ = slotsPerTick * (ticks l₁ + n) := by
  rcases DeadlineMap.fires_once chained.deadlines rfl hkept with
    ⟨-, hdeadline, -⟩ | ⟨m₁, b, m₂, rfl, hb, helapsed, -, -⟩
  · have hhigh := chained.high
    obtain ⟨loop, -, holds⟩ := chained.holds
    obtain ⟨h, hh, ordered⟩ := holds.ordered
    simp only [State.deadlines] at hdeadline
    split at hdeadline
    · next hp =>
      obtain ⟨hleft, -⟩ := Prod.mk.inj (Option.some.inj hdeadline)
      have hpos : 0 < m.core.remaining p := hh ▸ (ordered.window p (hh ▸ hp)).1
      rw [slots_start] at hhigh
      refine Or.inl ⟨hp, hhigh.trans (Nat.mul_le_mul_left _ ?_)⟩
      show ticks _ + 1 ≤ elapsed onTimers l₁ + n
      rw [← hleft]
      exact Nat.add_le_add_left hpos _
    · cases hdeadline
  · obtain rfl := ProgramAction.eq_of_onTimers hb
    right
    refine ⟨m₁, m₂, rfl, ?_⟩
    have hsplit : l₁ ++ .loop (.timer (.start p n event)) ::
          (m₁ ++ .loop (.timer (.fire p event)) :: m₂)
        = (l₁ ++ .loop (.timer (.start p n event)) :: m₁)
          ++ .loop (.timer (.fire p event)) :: m₂ := by simp
    have hfire := (chained.paced _ _ _ hsplit).2.2 p event rfl
    rw [slots_start, ticks_start] at hfire
    rw [hfire]
    exact congrArg (fun k => slotsPerTick * (ticks l₁ + k)) helapsed

/-- What fires was started, and fires to the slot. -/
lemma fired {l₁ l₂ : List ProgramAction} {p : Ptr} {event : ArmEvent}
    (chained : Chained ticks₀ (l₁ ++ .loop (.timer (.fire p event)) :: l₂) m) :
    ∃ m₁ n m₂, l₁ = m₁ ++ .loop (.timer (.start p n event)) :: m₂ ∧ Untouched onTimers p m₂ ∧
      slots m₁ + slots m₂ = slotsPerTick * (ticks m₁ + n) := by
  obtain ⟨d, hbefore, hafter⟩ := chained.deadlines.split
  obtain ⟨d', hfire, -⟩ := Run.cons_iff.mp hafter
  obtain ⟨m₁, b, m₂, n, rfl, hb, huntouched, helapsed⟩ :=
    DeadlineMap.fired_exactly (v := event) (k := p) hbefore hfire rfl
  obtain rfl := ProgramAction.eq_of_onTimers hb
  refine ⟨m₁, n, m₂, rfl, huntouched, ?_⟩
  have hpace := (chained.paced _ _ _ rfl).2.2 p event rfl
  rw [slots_start, ticks_start] at hpace
  rw [hpace]
  exact congrArg (fun k => slotsPerTick * (ticks m₁ + k)) helapsed

/-- What fires is in the event queue, until it is dispatched or cancelled. -/
lemma queued {l₁ l₂ : List ProgramAction} {p : Ptr} {event : ArmEvent}
    (chained : Chained ticks₀ (l₁ ++ .loop (.timer (.fire p event)) :: l₂) m) :
    (p ∈ m.core.eventQueueActive ∧ (m.core.event p).data = event) ∨
      .loop (.queue (.deliver p event)) ∈ l₂ ∨ .loop (.queue (.cancel p)) ∈ l₂ := by
  obtain ⟨loop, run, holds⟩ := chained.holds
  obtain ⟨es, impl, hkeys, hes⟩ := holds.queue
  have hmem : ∀ a ∈ l₂.filterMap onLoop, .loop a ∈ l₂ := by
    intro a ha
    obtain ⟨b, hb, hba⟩ := List.mem_filterMap.mp ha
    cases b with
    | slot => cases hba
    | loop => exact Option.some.inj hba ▸ hb
  have hfire : onLoop (.loop (.timer (.fire p event))) = some (.timer (.fire p event)) := rfl
  rw [List.filterMap_append, List.filterMap_cons_some hfire] at run
  rcases TimedQueue.pending_of_fired run with ⟨e, he, rfl, rfl⟩ | hdeliver | hcancel
  · have he' := (impl.mem_iff e).mpr he
    exact Or.inl ⟨hkeys ▸ List.mem_map_of_mem he', (hes e he').symm⟩
  · exact Or.inr (Or.inl (hmem _ hdeliver))
  · exact Or.inr (Or.inr (hmem _ hcancel))

end Chained

/-! ## Timers in slots -/

/-- What became of the timers of a program in which `l` happened, when the tick counter was at
`ticks₀` in the beginning. -/
structure TimersInSlots (ticks₀ : BitVec 32) (l : List ProgramAction) (m : TickSystem) : Prop where
  /-- the event core does what a priority queue with timers does, and the tick counter counts -/
  refines : ∃ loop, Run (TimedQueue.Step ArmEvent.rank) .empty (l.filterMap onLoop) loop ∧
    Holds ticks₀ m.core loop
  clock : m.core.timerSysTicks = ticks₀ + BitVec.ofNat 32 (ticks l)
  /-- at every moment the ticks are those of the slots, but for one that is due at this slot -/
  paced : ∀ l₁ l₂, l = l₁ ++ l₂ →
    slotsPerTick * ticks l₁ ≤ slots l₁ ∧ slots l₁ ≤ slotsPerTick * (ticks l₁ + 1)
  /-- in the main program no tick is due -/
  main : m.timers.control = .main → ticks l = slots l / slotsPerTick
  /-- a timer that is put on the list waits, or has left it to the slot -/
  started : ∀ l₁ p n event l₂, l = l₁ ++ .loop (.timer (.start p n event)) :: l₂ →
    Kept onTimers p l₂ →
    (p ∈ m.core.systemTimerList ∧ slots l₁ + slots l₂ ≤ slotsPerTick * (ticks l₁ + n)) ∨
      ∃ m₁ m₂, l₂ = m₁ ++ .loop (.timer (.fire p event)) :: m₂ ∧
        slots l₁ + slots m₁ = slotsPerTick * (ticks l₁ + n)
  /-- nothing leaves the list for the queue at another slot -/
  fired : ∀ l₁ p event l₂, l = l₁ ++ .loop (.timer (.fire p event)) :: l₂ →
    ∃ m₁ n m₂, l₁ = m₁ ++ .loop (.timer (.start p n event)) :: m₂ ∧ Untouched onTimers p m₂ ∧
      slots m₁ + slots m₂ = slotsPerTick * (ticks m₁ + n)
  /-- what leaves the list for the queue is there, until it is dispatched or cancelled -/
  queued : ∀ l₁ p event l₂, l = l₁ ++ .loop (.timer (.fire p event)) :: l₂ →
    (p ∈ m.core.eventQueueActive ∧ (m.core.event p).data = event) ∨
      .loop (.queue (.deliver p event)) ∈ l₂ ∨ .loop (.queue (.cancel p)) ∈ l₂

/-- **The timers of the event loop are exact in slots of the HAL timer.** Whatever a program does
with the event core, but for sleeps and tick updates of its own, and with the other callback timers,
but for starts of 0 slots, and in whatever order: a timer that is put on the list to wait for `n`
ticks leaves it for the event queue at the `n`-th multiple of 200 slots that follows, unless it is
cancelled before, and no timer leaves it for the queue at another time. The queue and the tick
counter of the code are those of a priority queue with timers that does what the program did. -/
theorem timers_in_slots {s₀ : CallbackTimers} {l₀ : List CallbackLabel}
    (run₀ : Run CallbackStep .boot l₀ s₀) (h₀ : ∀ label ∈ l₀, label.1.Ordinary)
    (hmain₀ : s₀.control = .main) {m₀ : TickSystem} (hm₀ : m₀.timers = s₀) (boot : Boot m₀.core)
    (idle : BitVec 16) (newTimer : Option (BitVec 16))
    (hregistered : (m₀.timerSysInit idle newTimer).tickTimerId ≠ -1)
    {l : List (List ProgramAction)} {m : TickSystem}
    (run : Run ProgramStep (m₀.eventOSSchedulerInit idle newTimer) l m) :
    TimersInSlots m₀.core.timerSysTicks l.flatten m := by
  subst hm₀
  have harmed := (callbackTimers_refine ((run₀.restrict h₀).mono
    fun _ _ _ ⟨step, hordinary⟩ => ⟨step, calm_of_ordinary hordinary⟩)).1
  have chained := (Chained.init boot harmed hmain₀ idle newTimer hregistered).run run
  rw [List.nil_append] at chained
  refine ⟨chained.holds, chained.clock, fun l₁ l₂ hl => ?_, chained.ticks_eq,
    fun l₁ p n event l₂ hl hkept => ?_, fun l₁ p event l₂ hl => ?_, fun l₁ p event l₂ hl => ?_⟩
  · cases l₂ with
    | nil =>
      rw [hl, List.append_nil] at chained
      exact ⟨chained.low, chained.high⟩
    | cons a l₂ =>
      obtain ⟨hlow, hhigh, -⟩ := chained.paced l₁ a l₂ hl
      exact ⟨hlow, hhigh⟩
  · rw [hl] at chained
    exact chained.started hkept
  · rw [hl] at chained
    exact chained.fired
  · rw [hl] at chained
    exact chained.queued

/-- An operation of a program, if it can come, with what happens in it. -/
def TickSystem.attemptProgram (m : TickSystem) :
    TickOp ⊕ Op → Option (TickSystem × List ProgramAction)
  | .inl op =>
    (m.attempt m.tickTimerId op).map fun (m', ret) => (m', m.programActions op ret)
  | .inr op =>
    (m.core.attemptWith (fun s op => AddressedOp s op ∧ op.ticks = none) loopActions op).map
      fun (core, actions) => ({ m with core := core }, actions.map .loop)

lemma TickSystem.attemptProgram_step {m m' : TickSystem} {op : TickOp ⊕ Op}
    {actions : List ProgramAction} (h : m.attemptProgram op = some (m', actions)) :
    ProgramStep m actions m' := by
  cases op with
  | inl op =>
    obtain ⟨⟨m₁, ret⟩, hattempt, heq⟩ := Option.map_eq_some_iff.mp h
    obtain ⟨rfl, rfl⟩ := Prod.mk.inj heq
    obtain ⟨step, others⟩ := attempt_step hattempt
    exact .timers step others
  | inr op =>
    obtain ⟨⟨core, done⟩, hattempt, heq⟩ := Option.map_eq_some_iff.mp h
    obtain ⟨rfl, rfl⟩ := Prod.mk.inj heq
    obtain ⟨r, step, ⟨addressed, timeless⟩, rfl⟩ := State.attemptWith_step hattempt
    exact .core step addressed timeless

end

/-- A timer for the second tick that is requested in the middle of the first, while another callback
timer runs. -/
def slotsOps : List (TickOp ⊕ Op) :=
  let event : ArmEvent :=
    { receiver := 0, sender := 0, eventType := 2, eventId := 3, dataPtr := none
      priority := .med, eventData := 4 }
  let slots (n : ℕ) : List (TickOp ⊕ Op) := List.replicate n (.inl (.callback .slot))
  [.inr (.handlerCreate 7 1 (some (.heap 0)) none), .inl (.callback (.register (some 1) (some 0))),
    .inl (.callback (.start 1 150))] ++ slots 150 ++
  [.inl (.callback .interrupt), .inr (.requestAt event 2 none), .inl (.callback .handlerReturn)] ++
  slots 50 ++ [.inl (.callback .interrupt), .inl (.callback .handlerReturn)] ++
  slots 200 ++ [.inl (.callback .interrupt), .inl (.callback .handlerReturn)]

/-- The timer is sent at the 400th slot, with the second tick, and queued before the init event. -/
theorem timers_in_slots_sample : ∃ l m,
    Run ProgramStep (TickSystem.boot.eventOSSchedulerInit 0 (some 0)) l m ∧
    m.core.systemTimerList = [] ∧ slots l.flatten = 400 ∧ m.core.timerSysTicks = 2 ∧
    m.core.eventQueueActive = [.startupSysTimerPool 5, .startupEventPool 9] ∧
    TimersInSlots 0 l.flatten m := by
  have hsome : (Run.trace TickSystem.attemptProgram slotsOps
      (TickSystem.boot.eventOSSchedulerInit 0 (some 0))).map (fun p =>
        (p.2.core.systemTimerList, slots (p.1.map Prod.snd).flatten, p.2.core.timerSysTicks,
          p.2.core.eventQueueActive))
      = some ([], 400, 2, [.startupSysTimerPool 5, .startupEventPool 9]) := by decide +kernel
  obtain ⟨⟨l, m⟩, htrace, heq⟩ := Option.map_eq_some_iff.mp hsome
  simp only [Prod.mk.injEq] at heq
  obtain ⟨hlist, hslots, hticks, hqueue⟩ := heq
  obtain ⟨hrun, -⟩ : Run (fun m label m' => ProgramStep m label.2 m')
      (TickSystem.boot.eventOSSchedulerInit 0 (some 0)) l m ∧ l.map Prod.fst = slotsOps :=
    Run.of_trace (fun _ _ _ _ => TickSystem.attemptProgram_step) htrace
  have run : Run ProgramStep (TickSystem.boot.eventOSSchedulerInit 0 (some 0))
      (l.map Prod.snd) m := hrun.map fun _ _ _ step => step
  have boot : Boot TickSystem.boot.core :=
    ⟨fun _ => rfl, fun _ => rfl, fun _ => rfl, rfl, rfl, rfl⟩
  have hboot : TickSystem.boot.timers = CallbackTimers.boot := rfl
  exact ⟨_, m, run, hlist, hslots, hticks, hqueue, timers_in_slots .nil (by simp) rfl hboot boot 0
    (some 0) (by decide) run⟩

end EventLoop
