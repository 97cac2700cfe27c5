import EventLoop.Interrupt
import EventLoop.QueueRefinement

/-!
# Sending from threads and interrupts

`eventOS_event_send` and `eventOS_event_send_user_allocated` at the grain at which the main loop,
other threads and interrupts can come in: a step is one critical section, or one statement outside
of them. Any number of these calls may be under way at once, the main loop is at any point of a
dispatch, and the calls that are one critical section as a whole (the timer requests, the cancels
and the tick update) come in anywhere between. The list of the tasklets is read without a lock: it
is set up before.
-/

namespace EventLoop

open Lib.StableQueue (Action)

/-- The next step of a call that sends an event. -/
inductive SendPoint where
  /-- `event_tasklet_handler_get` -/
  | lookup
  /-- `event_core_get` -/
  | get
  /-- `event_tmp->data = *event` -/
  | fill (eventTmp : Ptr)
  /-- `event->allocator = ARM_LIB_EVENT_USER` -/
  | allocator (event : Ptr)
  /-- the critical section of `event_core_write` -/
  | write (event : Ptr)
  /-- `eventOS_scheduler_signal` -/
  | signal
  /-- the call has returned -/
  | returned (ret : Ret)
  deriving DecidableEq, Repr

/-- The storage that a call has got and not written to the queue. -/
def SendPoint.held : SendPoint → Option Ptr
  | fill p | allocator p | write p => some p
  | _ => none

/-- A call that sends `event`: `eventOS_event_send`, or `eventOS_event_send_user_allocated` when
the caller allocated the storage. -/
structure Send where
  event : ArmEvent
  userAllocated : Bool
  point : SendPoint
  deriving DecidableEq, Repr

/-- What a call returns after it has written its event. -/
def Send.ret (send : Send) : Ret := if send.userAllocated then .void else .code 0

/-- The event loop with its main loop at some point of a dispatch, and the calls that were made to
send events, the first one first. -/
structure Threads where
  machine : Machine
  sends : List Send

/-- A step of the main loop or of one of the calls, or a call that is one critical section. -/
inductive ThreadOp where
  | main
  | locked (op : Op)
  /-- `eventOS_event_send` is called -/
  | send (event : ArmEvent)
  /-- `eventOS_event_send_user_allocated` is called -/
  | sendUserAllocated (event : Ptr) (contents : SysTimerStruct)
  /-- the next step of the call number `i`, with the answer of the allocator -/
  | next (i : ℕ) (answer : Option Ptr)
  deriving DecidableEq, Repr

/-- What a step does that others can see: what it writes to the queue, takes out of it and delivers,
the call of a handler, and the calls of `eventOS_scheduler_signal`. -/
structure Seen where
  actions : List (Action Ptr ArmEvent)
  handled : Option (ArmCoreTasklet × Ptr × ArmEvent)
  signals : ℕ
  deriving DecidableEq

/-- Nothing is seen. -/
def Seen.nothing : Seen where
  actions := []
  handled := none
  signals := 0

/-- The writes to the queue. -/
def writes (actions : List (Action Ptr ArmEvent)) : ℕ := (actions.filterMap Action.written).length

/-- The events that have come into the queue between two states. -/
def State.queuedSince (s s' : State) : ℕ :=
  s'.eventQueueActive.countP fun p => p ∉ s.eventQueueActive

/-- A critical section that goes from `s` to `s'` is seen by what it does to the queue. Nothing but
`event_core_write` puts an event there, and each time it calls `eventOS_scheduler_signal`. -/
def Seen.locked (actions : List (Action Ptr ArmEvent)) (s s' : State) : Seen where
  actions := actions
  handled := none
  signals := s.queuedSince s'

/-- The calls that are one critical section. -/
def Op.Locked : Op → Prop
  | .requestAt _ _ _ | .requestIn _ _ _ | .requestEvery _ _ _ | .request _ _ _ _ _ => True
  | .timerCancel _ _ | .cancel _ | .tickUpdate _ => True
  | _ => False

/-- What the allocator answers in a call. -/
def Op.answer : Op → Option Ptr
  | .requestAt _ _ answer | .requestIn _ _ answer | .requestEvery _ _ answer
  | .request _ _ _ _ answer => answer
  | _ => none

namespace Threads

/-- The event loop between two dispatches, before other threads are started. -/
def start (s : State) : Threads where
  machine := .idle s
  sends := []

abbrev core (c : Threads) : State := c.machine.core

abbrev point (c : Threads) : DispatchPoint := c.machine.point

/-- The storages that the calls have got and not written to the queue. -/
def held (c : Threads) : List Ptr := c.sends.filterMap (·.point.held)

/-- The calls that have written their event and not signalled. -/
def unsignalled (c : Threads) : ℕ := c.sends.countP fun send => send.point = .signal

/-- What the allocator answers is free, and nobody is about to send it. -/
def FreshAnswer (c : Threads) (answer : Option Ptr) : Prop :=
  EventLoop.FreshAnswer c.core answer ∧ ∀ p ∈ answer, p ∉ c.held

/-- What the callers owe the interface: to cancel what a request has handed out or the caller has
allocated; and to send a storage of their own to a registered tasklet, and only while nobody else
uses it. -/
def Valid (c : Threads) : ThreadOp → Prop
  | .main => True
  | .locked op => op.Locked ∧ EventLoop.Valid c.core op ∧ c.FreshAnswer op.answer ∧
      ∀ p, op = .cancel (some p) → c.core.classOf p ≠ .pool ∧ c.core.classOf p ≠ .dynamic
  | .send _ => True
  | .sendUserAllocated p contents => (∃ a, p = .heap a) ∧ c.core.heap p = none ∧
      p ∉ c.core.eventQueueActive ∧ p ∉ c.core.running ∧ p ∉ c.held ∧
      eventTaskletHandlerIdValid contents.event.data.receiver c.core
  | .next _ answer => c.FreshAnswer answer

/-- The timer event is cancelled that the main loop is giving back, between
`free->state = ARM_LIB_EVENT_UNQUEUED` in `event_core_free_push` and the critical section of
`timer_sys_event_free`. The callers owe nothing that would keep them from it. -/
def InWindow (c : Threads) (op : ThreadOp) : Prop :=
  ∃ p, op = .locked (.cancel (some p)) ∧ c.point = .pushTimer p

/-- The calls with the `i`-th one at another point. -/
def advance (c : Threads) (i : ℕ) (send : Send) (point : SendPoint) : List Send :=
  c.sends.set i { send with point := point }

variable [NsList]

/-- What a step of the main loop shows. -/
def seenMain (c : Threads) : Seen :=
  match c.point with
  | .read =>
    match c.core.eventQueueActive with
    | [] => .nothing
    | p :: _ => { Seen.nothing with actions := [.deliver p (c.core.event p).data] }
  | .call p tasklet => { Seen.nothing with handled := some (tasklet, p, (c.core.event p).data) }
  | .pushTimer p => .locked (observeReturn c.core) c.core
      (timerSysEventFree p { c.core with running := c.core.running.tail })
  | _ => .nothing

/-- The next step of a call that sends an event. -/
def next (c : Threads) (i : ℕ) (send : Send) (answer : Option Ptr) :
    Except Fault (Threads × Seen) :=
  let s := c.core
  match send.point with
  | .lookup =>
    let point := if (eventTaskletHandlerGet send.event.receiver s).isSome then SendPoint.get
      else .returned (.code (-1))
    .ok ({ c with sends := c.advance i send point }, .nothing)
  | .get => do
    let (s, eventTmp) ← eventCoreGet answer s
    let point := match eventTmp with
      | some eventTmp => SendPoint.fill eventTmp
      | none => .returned (.code (-1))
    .ok ({ machine := { c.machine with core := s }, sends := c.advance i send point }, .nothing)
  | .fill eventTmp =>
    let s := s.setData eventTmp send.event
    .ok ({ machine := { c.machine with core := s }, sends := c.advance i send (.write eventTmp) },
      .nothing)
  | .allocator event =>
    let s := s.setAllocator event .user
    .ok ({ machine := { c.machine with core := s }, sends := c.advance i send (.write event) },
      .nothing)
  | .write event =>
    .ok ({ machine := { c.machine with core := eventCoreWrite event s }
           sends := c.advance i send .signal },
      { Seen.nothing with actions := [.write event (s.event event).data] })
  | .signal =>
    .ok ({ c with sends := c.advance i send (.returned send.ret) },
      { Seen.nothing with signals := 1 })
  | .returned _ => .ok (c, .nothing)

/-- A step of the event loop with its threads and interrupts, with what is seen of it. -/
def exec (c : Threads) : ThreadOp → Except Fault (Threads × Seen)
  | .main => do
    let (machine, _) ← c.machine.main
    .ok ({ c with machine := machine }, c.seenMain)
  | .locked op => do
    let result ← EventLoop.exec op c.core
    .ok ({ c with machine := { c.machine with core := result.1 } },
      .locked (observe c.core op result.2) c.core result.1)
  | .send event =>
    let send : Send := { event := event, userAllocated := false, point := .lookup }
    .ok ({ c with sends := c.sends ++ [send] }, .nothing)
  | .sendUserAllocated event contents =>
    let send : Send :=
      { event := contents.event.data, userAllocated := true, point := .allocator event }
    .ok ({ machine := { c.machine with core := c.core.store event contents }
           sends := c.sends ++ [send] }, .nothing)
  | .next i answer =>
    match c.sends[i]? with
    | none => .ok (c, .nothing)
    | some send => c.next i send answer

/-- A valid step outside the window that runs into no undefined behaviour. -/
structure Step (c : Threads) (label : ThreadOp × Seen) (c' : Threads) : Prop where
  valid : c.Valid label.1
  calm : ¬ c.InWindow label.1
  exec : c.exec label.1 = .ok (c', label.2)

/-! ## Running the model -/

instance (c : Threads) (answer : Option Ptr) : Decidable (c.FreshAnswer answer) :=
  inferInstanceAs (Decidable (_ ∧ _))

instance (op : Op) : Decidable op.Locked :=
  match op with
  | .requestAt _ _ _ | .requestIn _ _ _ | .requestEvery _ _ _ | .request _ _ _ _ _
  | .timerCancel _ _ | .cancel _ | .tickUpdate _ => isTrue trivial
  | .handlerCreate _ _ _ _ | .send _ _ | .sendUserAllocated _ _ | .sendTimerAllocated _ _
  | .synchAfterSleep _ _ | .setActiveTasklet _ | .dispatch | .handlerReturn | .handlerWrite _
  | .clientAlloc _ | .clientFree _ => isFalse id

/-- What is asked of a cancel. -/
instance (op : Op) (P : Ptr → Prop) [DecidablePred P] :
    Decidable (∀ p, op = .cancel (some p) → P p) :=
  match op with
  | .cancel (some p) => decidable_of_iff (P p)
      ⟨fun h _ hq => Option.some.inj (Op.cancel.inj hq) ▸ h, fun h => h p rfl⟩
  | .cancel none | .requestAt _ _ _ | .requestIn _ _ _ | .requestEvery _ _ _
  | .request _ _ _ _ _ | .timerCancel _ _ | .tickUpdate _ | .handlerCreate _ _ _ _ | .send _ _
  | .sendUserAllocated _ _ | .sendTimerAllocated _ _ | .synchAfterSleep _ _
  | .setActiveTasklet _ | .dispatch | .handlerReturn | .handlerWrite _ | .clientAlloc _
  | .clientFree _ => isTrue fun _ h => by cases h

instance (c : Threads) (op : ThreadOp) : Decidable (c.Valid op) :=
  match op with
  | .main => isTrue trivial
  | .locked op => inferInstanceAs (Decidable (op.Locked ∧ EventLoop.Valid c.core op ∧
      c.FreshAnswer op.answer ∧ ∀ p, op = .cancel (some p) → c.core.classOf p ≠ .pool ∧
        c.core.classOf p ≠ .dynamic))
  | .send _ => isTrue trivial
  | .sendUserAllocated _ _ => inferInstanceAs (Decidable (_ ∧ _ ∧ _ ∧ _ ∧ _ ∧ _ = true))
  | .next _ answer => inferInstanceAs (Decidable (c.FreshAnswer answer))

instance (c : Threads) (op : ThreadOp) : Decidable (c.InWindow op) :=
  match op with
  | .locked op => decidable_of_iff (¬ ∀ p, op = .cancel (some p) → c.point ≠ .pushTimer p)
      (by simp [InWindow])
  | .main | .send _ | .sendUserAllocated _ _ | .next _ _ => isFalse (by simp [InWindow])

/-- One step, if it is valid, outside the window and does not fault. -/
def attempt (c : Threads) (op : ThreadOp) : Option (Threads × Seen) :=
  if c.Valid op ∧ ¬ c.InWindow op then (c.exec op).toOption else none

lemma attempt_step {c c' : Threads} {op : ThreadOp} {seen : Seen}
    (hattempt : c.attempt op = some (c', seen)) : c.Step (op, seen) c' := by
  unfold attempt at hattempt
  split at hattempt
  · next h => exact ⟨h.1, h.2, toOption_eq_some.mp hattempt⟩
  · cases hattempt

end Threads

end EventLoop
