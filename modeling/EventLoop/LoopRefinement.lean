import EventLoop.Lib.TimedQueue
import EventLoop.TimerRefinement

/-!
# The event core is a priority queue with timers

`event.c` and `system_timer.c` together implement `Lib.TimedQueue`: the event queue is the queue,
the timer list holds the deadlines in true ticks, and a timer that fires is written to the queue in
the same step. So what holds of a priority queue with timers holds of the event loop: the event of a
timer is queued exactly when its time comes, and its handler is called after the events that were
there before it.
-/

namespace EventLoop

open Lib
open Lib.TimedQueue (Action deliveriesIn overtakingIn)
open Lib.TimedQueue.Action (onQueue onTimers)
open Lib.DeadlineMap (elapsed Kept Untouched)

/-- What an operation does to the queue and the timers: an operation that lets time pass writes to
the queue what it fires, and nothing else. -/
def loopActions (s : State) (op : Op) (r : Ret) : List (Action Ptr ArmEvent) :=
  match op.ticks with
  | some _ => (timerActions s op r).map .timer
  | none => (observe s op r).map .queue ++ (timerActions s op r).map .timer

section

variable {s s' : State} {op : Op} {r : Ret}

/-- What it does to the timers. -/
lemma loopActions_onTimers (s : State) (op : Op) (r : Ret) :
    (loopActions s op r).filterMap onTimers = timerActions s op r := by
  have htimer : ∀ l : List (DeadlineMap.Action Ptr ArmEvent),
      (l.map Action.timer).filterMap onTimers = l := by
    intro l
    rw [List.filterMap_map]
    exact List.filterMap_some
  have hqueue : ∀ l : List (StableQueue.Action Ptr ArmEvent),
      (l.map Action.queue).filterMap onTimers = [] := by
    intro l
    rw [List.filterMap_map]
    exact List.filterMap_eq_nil_iff.mpr fun _ _ => rfl
  unfold loopActions
  split
  · exact htimer _
  · rw [List.filterMap_append, hqueue, htimer, List.nil_append]

/-- What fires is written to the queue. -/
lemma filterMap_onQueue_timers (l : List (DeadlineMap.Action Ptr ArmEvent)) :
    (l.map Action.timer).filterMap onQueue
      = (l.filterMap DeadlineMap.Action.fired).map fun a => .write a.1 a.2 := by
  rw [List.filterMap_map, List.map_filterMap]
  refine List.filterMap_congr fun a _ => ?_
  cases a <;> rfl

/-- What it does to the queue. -/
lemma loopActions_onQueue (ordered : s.Ordered) (hbounded : BoundedTicks op) :
    (loopActions s op r).filterMap onQueue = observe s op r := by
  unfold loopActions
  split
  · next t ht =>
    obtain ⟨h, rfl, ordered⟩ := ordered
    obtain ⟨hactions, hobserve⟩ := timerActions_of_ticks ht h.state r
    rw [filterMap_onQueue_timers, hactions, hobserve, ordered.observeTicks_eq (hbounded.le ht)]
  · next ht =>
    have hnone : (timerActions s op r).filterMap DeadlineMap.Action.fired = [] :=
      List.filterMap_eq_nil_iff.mpr fun a ha => (timerActions_timeless r ht a ha).2
    have hqueue : ((observe s op r).map Action.queue).filterMap onQueue = observe s op r := by
      rw [List.filterMap_map]
      exact List.filterMap_some
    rw [List.filterMap_append, filterMap_onQueue_timers, hnone, hqueue, List.map_nil,
      List.append_nil]

variable [NsList]

/-- A step of a run, seen from the queue and the timers. -/
def LoopStep (s : State) (actions : List (Action Ptr ArmEvent)) (s' : State) : Prop :=
  ∃ op r, Step s (op, r) s' ∧ AddressedOp s op ∧ BoundedTicks op ∧ actions = loopActions s op r

/-- The state of the code holds the queue and the timers, when the tick counter was at `ticks` in
the beginning. -/
structure Holds (ticks : BitVec 32) (s : State) (loop : TimedQueue.Loop Ptr ArmEvent) : Prop where
  owned : Owned s
  deliverable : Deliverable s
  ordered : s.Ordered
  queue : Represents s loop.queue
  timers : s.deadlines loop.timers.now = loop.timers
  clock : s.timerSysTicks = ticks + BitVec.ofNat 32 loop.timers.now

lemma Initial.holds (init : Initial s) : Holds s.timerSysTicks s .empty where
  owned := init.owned
  deliverable := init.deliverable
  ordered := ⟨_, rfl, init.ordered⟩
  queue := init.represents
  timers := init.deadlines
  clock := (BitVec.add_zero _).symm

/-- **One step of the code is a run of the queue and the timers.** -/
lemma Holds.step {ticks : BitVec 32} {loop : TimedQueue.Loop Ptr ArmEvent}
    {actions : List (Action Ptr ArmEvent)} (holds : Holds ticks s loop)
    (step : LoopStep s actions s') :
    ∃ loop', Run (TimedQueue.Step ArmEvent.rank) loop actions loop' ∧ Holds ticks s' loop' := by
  obtain ⟨op, r, step, haddressed, hbounded, rfl⟩ := step
  obtain ⟨q', hqueue, own', deliverable', rep'⟩ :=
    QueueStep.simulate holds.owned holds.deliverable holds.queue ⟨op, r, step, haddressed, rfl⟩
  obtain ⟨n, htimers, hticks, -, ordered'⟩ := DeadlineStep.simulate loop.timers.now holds.owned
    holds.ordered ⟨op, r, step, hbounded, rfl⟩
  rw [holds.timers] at htimers
  refine ⟨⟨q', s'.deadlines (loop.timers.now + n)⟩, TimedQueue.run_both ?_ ?_, own', deliverable',
    ordered', rep', rfl, ?_⟩
  · rwa [loopActions_onQueue holds.ordered hbounded]
  · rwa [loopActions_onTimers]
  · rw [hticks, holds.clock, add_assoc, ← BitVec.ofNat_add]
    rfl

/-- What becomes of a timer that is started with `n` ticks to wait after `l₁`, while `l₂` happens:
it waits for `n` ticks; then its event is queued; and its handler is called after the events that
are in the queue then, and those of a higher priority that are written later. -/
def ServedInTime (l₁ : List (Action Ptr ArmEvent)) (p : Ptr) (n : ℕ) (event : ArmEvent)
    (l₂ : List (Action Ptr ArmEvent)) : Prop :=
  (Untouched onTimers p l₂ ∧ elapsed onTimers l₂ ≤ n) ∨
  ∃ m₁ m₂ loop, l₂ = m₁ ++ .timer (.fire p event) :: m₂ ∧ elapsed onTimers m₁ = n ∧
    Run (TimedQueue.Step ArmEvent.rank) .empty (l₁ ++ .timer (.start p n event) :: m₁) loop ∧
    (deliveriesIn m₂ ≤ loop.queue.pendingBefore ArmEvent.rank event
        + overtakingIn ArmEvent.rank event m₂ ∨
      ∃ k₁ k₂, m₂ = k₁ ++ .queue (.deliver p event) :: k₂ ∧
        deliveriesIn k₁ ≤ loop.queue.pendingBefore ArmEvent.rank event
          + overtakingIn ArmEvent.rank event k₁)

/-- **The event core refines a priority queue with timers.** In every run in which events are
addressed to registered tasklets and tick updates are of at most 2³¹ ticks, the queue of the code
and its timer list hold what a stable priority queue and a map of deadlines in true ticks do, where
what fires is written to the queue. Hence every timer that is put on the list is served in time,
from then on for as long as it is not cancelled. -/
theorem eventCore_refines {s₀ s : State} {l : List (List (Action Ptr ArmEvent))}
    (init : Initial s₀) (run : Run LoopStep s₀ l s) :
    (∃ loop, Run (TimedQueue.Step ArmEvent.rank) .empty l.flatten loop ∧
      Holds s₀.timerSysTicks s loop) ∧
    ∀ l₁ p n event l₂ l₃, l.flatten = l₁ ++ .timer (.start p n event) :: (l₂ ++ l₃) →
      Kept onTimers p l₂ → .queue (.cancel p) ∉ l₂ → ServedInTime l₁ p n event l₂ := by
  obtain ⟨loop, hrun, holds⟩ := Run.simulate (R := Holds s₀.timerSysTicks) (f := id)
    (fun s actions s' loop holds step => holds.step step) init.holds run
  rw [List.flatMap_id] at hrun
  refine ⟨⟨loop, hrun, holds⟩, fun l₁ p n event l₂ l₃ hl hkept hcancel => ?_⟩
  have hsplit : l.flatten = (l₁ ++ .timer (.start p n event) :: l₂) ++ l₃ := by simp [hl]
  rw [hsplit] at hrun
  obtain ⟨loop', hbefore, -⟩ := hrun.split
  rcases TimedQueue.served hbefore hkept hcancel with
    hwaits | ⟨m₁, m₂, t, rfl, helapsed, hstarted, hserved⟩
  · exact Or.inl hwaits
  · exact Or.inr ⟨m₁, m₂, t, rfl, helapsed, hstarted, hserved.imp_left And.right⟩

end

/-- The timers of the sample program all expire in one tick update, and two events are handled. -/
def expireOps : List Op :=
  wrapOps ++ [.tickUpdate 20, .dispatch, .handlerReturn, .dispatch, .handlerReturn]

/-- In the sample run at the wrap-around the periodic timer, which is due first, is handed over
first, and then the first of the two that were requested for the same time. -/
theorem eventCore_refines_wrap : ∃ l s loop,
    Run LoopStep (eventOSSchedulerInit (.boot 0xFFFFFFF0)) l s ∧ s.timerSysTicks = 10 ∧
    ((l.flatten.filterMap onQueue).filterMap StableQueue.Action.delivered).map Prod.fst
      = [.startupSysTimerPool 3, .startupSysTimerPool 5] ∧
    Run (TimedQueue.Step ArmEvent.rank) .empty l.flatten loop ∧ Holds 0xFFFFFFF0 s loop := by
  have hsome : (Run.trace
      (State.attemptWith (fun s op => AddressedOp s op ∧ BoundedTicks op) loopActions) expireOps
      (eventOSSchedulerInit (.boot 0xFFFFFFF0))).map (fun p => (p.2.timerSysTicks,
        (((p.1.map Prod.snd).flatten.filterMap onQueue).filterMap
          StableQueue.Action.delivered).map Prod.fst))
      = some (10, [.startupSysTimerPool 3, .startupSysTimerPool 5]) := by decide +kernel
  obtain ⟨⟨l, s⟩, htrace, heq⟩ := Option.map_eq_some_iff.mp hsome
  obtain ⟨hticks, hdelivered⟩ := Prod.mk.inj heq
  obtain ⟨hrun, -⟩ : Run (fun s label s' => LoopStep s label.2 s')
      (eventOSSchedulerInit (.boot 0xFFFFFFF0)) l s ∧ l.map Prod.fst = expireOps :=
    Run.of_trace (fun _ _ _ _ h => by
      obtain ⟨r, step, ⟨haddressed, hbounded⟩, heq⟩ := State.attemptWith_step h
      exact ⟨_, r, step, haddressed, hbounded, heq⟩) htrace
  have run : Run LoopStep (eventOSSchedulerInit (.boot 0xFFFFFFF0)) (l.map Prod.snd) s :=
    hrun.map fun _ _ _ step => step
  obtain ⟨⟨loop, hloop, holds⟩, -⟩ := eventCore_refines (boot_initial _) run
  exact ⟨_, s, loop, run, hticks, hdelivered, hloop, holds⟩

end EventLoop
