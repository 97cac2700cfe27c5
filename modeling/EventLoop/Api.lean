import EventLoop.EventCore
import EventLoop.Lib.Transition

/-!
# The event loop as a state machine

The calls that a program makes on the event loop are the operations `Op`; a dispatch is two of
them, the read of the next event up to the call of its tasklet, and the return of that call, so
that whatever runs in between (the handler, and interrupts during it) is again a sequence of
operations. `Valid` says what a caller owes the interface, and `Step` is one valid operation
that runs into no undefined behaviour.
-/

namespace EventLoop

open Lib

/-- Who a storage belongs to: the startup pool, a dynamically allocated event, the timer
system, or nobody in the event loop. -/
inductive StorageClass where
  | pool
  | dynamic
  | timer
  | foreign
  deriving DecidableEq, Repr

/-- The class of the storage at an address. -/
def State.classOf (s : State) : Ptr → StorageClass
  | .startupEventPool _ => .pool
  | .startupSysTimerPool _ => .timer
  | .heap a =>
    match s.heap (.heap a) with
    | some .event => .dynamic
    | some .sysTimer => .timer
    | _ => .foreign

/-- The `allocator` field that marks a class of storages. -/
@[simp] def StorageClass.allocator : StorageClass → Allocator
  | pool => .startupPool
  | dynamic => .dynamic
  | timer => .timer
  | foreign => .user

/-- An operation on the event loop. `answer` is what the allocator answers if it is asked. -/
inductive Op where
  | handlerCreate (handlerFuncPtr : FuncPtr) (initEventType : BitVec 8)
      (newTasklet newEvent : Option Ptr)
  | send (event : ArmEvent) (answer : Option Ptr)
  /-- the application fills a storage of its own and sends it -/
  | sendUserAllocated (event : Ptr) (contents : SysTimerStruct)
  /-- a timer structure that was not allocated by the timer system is filled and sent; from
  then on the timer system owns it -/
  | sendTimerAllocated (event : Ptr) (contents : SysTimerStruct)
  | requestAt (event : ArmEvent) (at_ : BitVec 32) (answer : Option Ptr)
  | requestIn (event : ArmEvent) (in_ : BitVec 32) (answer : Option Ptr)
  | requestEvery (event : ArmEvent) (period : BitVec 32) (answer : Option Ptr)
  | request (eventId eventType taskletId : BitVec 8) (time : BitVec 32) (answer : Option Ptr)
  | timerCancel (eventId taskletId : BitVec 8)
  | cancel (event : Option Ptr)
  | tickUpdate (ticks : BitVec 32)
  | synchAfterSleep (sleepTicks : BitVec 32) (wakeup : ℤ)
  | setActiveTasklet (tasklet : BitVec 8)
  /-- `eventOS_scheduler_dispatch_event` up to the call of the handler -/
  | dispatch
  /-- `eventOS_scheduler_dispatch_event` from the return of the handler on -/
  | handlerReturn
  /-- the handler writes to the event it was given -/
  | handlerWrite (data : ArmEvent)
  /-- a client of the event loop allocates a block of its own: the `timeout_t` of `ns_timeout.c` -/
  | clientAlloc (answer : Option Ptr)
  | clientFree (block : Ptr)
  deriving DecidableEq, Repr

/-- What an operation hands back to its caller. -/
inductive Ret where
  | void
  | code (c : ℤ)
  | handle (event : Option Ptr)
  | call (next : Option (Ptr × ArmCoreTasklet))
  deriving DecidableEq, Repr

/-- The return code of a call. -/
def Ret.code? : Ret → Option ℤ
  | code c => some c
  | _ => none

/-- The event pointer that a call returns. -/
def Ret.handle? : Ret → Option Ptr
  | handle event => event
  | _ => none

/-- The event that a dispatch hands to its handler. -/
def Ret.called? : Ret → Option Ptr
  | call (some (event, _)) => some event
  | _ => none

/-- A block that the allocator may hand out: memory outside the static pools that is not
allocated and holds no event in use. -/
structure Fresh (s : State) (p : Ptr) : Prop where
  isHeap : ∃ a, p = .heap a
  free : s.heap p = none
  notQueued : p ∉ s.eventQueueActive
  notRunning : p ∉ s.running

/-- What the allocator answers is free. -/
def FreshAnswer (s : State) (answer : Option Ptr) : Prop := ∀ p, answer = some p → Fresh s p

/-- An event pointer is valid from the time it is queued (or put on the timer list) until the
event has finished running or is cancelled. A user-allocated event belongs to its handler when
it runs, and is the handler's running event as long as it has not been sent again. -/
def ValidEvent (s : State) (p : Ptr) : Prop :=
  p ∈ s.eventQueueActive ∨ p ∈ s.systemTimerList ∨
    (p ∈ s.running ∧ (s.classOf p = .foreign → (s.event p).state = .running))

/-- What the caller of an operation owes the interface. -/
def Valid (s : State) : Op → Prop
  | .handlerCreate _ _ newTasklet newEvent =>
    FreshAnswer s newTasklet ∧ FreshAnswer s newEvent ∧
      (newTasklet = newEvent → newTasklet = none)
  | .send _ answer => FreshAnswer s answer
  | .sendUserAllocated event _ =>
    (∃ a, event = .heap a) ∧ s.heap event = none ∧ event ∉ s.eventQueueActive
  | .sendTimerAllocated event _ => Fresh s event
  | .requestAt _ _ answer => FreshAnswer s answer
  | .requestIn _ _ answer => FreshAnswer s answer
  | .requestEvery _ _ answer => FreshAnswer s answer
  | .request _ _ _ _ answer => FreshAnswer s answer
  | .timerCancel _ _ => True
  | .cancel event => ∀ p, event = some p → ValidEvent s p
  | .tickUpdate _ => True
  | .synchAfterSleep _ _ => True
  | .setActiveTasklet _ => True
  | .dispatch => True
  | .handlerReturn => s.running ≠ []
  | .handlerWrite _ => ∃ p rest, s.running = p :: rest ∧ p ∉ s.eventQueueActive
  | .clientAlloc answer => FreshAnswer s answer
  | .clientFree block => s.heap block = some .timeout

variable [NsList]

/-- The effect of an operation. -/
def exec : Op → State → Except Fault (State × Ret)
  | .handlerCreate handlerFuncPtr initEventType newTasklet newEvent, s => do
    let (s, c) ← eventOSEventHandlerCreate handlerFuncPtr initEventType newTasklet newEvent s
    .ok (s, .code c)
  | .send event answer, s => do
    let (s, c) ← eventOSEventSend event answer s
    .ok (s, .code c)
  | .sendUserAllocated event contents, s =>
    .ok (eventOSEventSendUserAllocated event (s.store event contents), .void)
  | .sendTimerAllocated event contents, s =>
    let s := { s with heap := Function.update s.heap event (some .sysTimer) }
    .ok (eventOSEventSendTimerAllocated event (s.store event contents), .void)
  | .requestAt event at_ answer, s => do
    let (s, p) ← eventOSEventTimerRequestAt event at_ answer s
    .ok (s, .handle p)
  | .requestIn event in_ answer, s => do
    let (s, p) ← eventOSEventTimerRequestIn event in_ answer s
    .ok (s, .handle p)
  | .requestEvery event period answer, s => do
    let (s, p) ← eventOSEventTimerRequestEvery event period answer s
    .ok (s, .handle p)
  | .request eventId eventType taskletId time answer, s => do
    let (s, c) ← eventOSEventTimerRequest eventId eventType taskletId time answer s
    .ok (s, .code c)
  | .timerCancel eventId taskletId, s => do
    let (s, c) ← eventOSEventTimerCancel eventId taskletId s
    .ok (s, .code c)
  | .cancel event, s => do
    let s ← eventOSCancel event s
    .ok (s, .void)
  | .tickUpdate ticks, s => do
    let s ← systemTimerTickUpdate ticks s
    .ok (s, .void)
  | .synchAfterSleep sleepTicks wakeup, s => do
    let (s, c) ← eventOSSchedulerTimerSynchAfterSleep sleepTicks wakeup s
    .ok (s, .code c)
  | .setActiveTasklet tasklet, s => .ok (eventOSSchedulerSetActiveTasklet tasklet s, .void)
  | .dispatch, s => do
    let (s, next) ← dispatchRead s
    .ok (s, .call next)
  | .handlerReturn, s =>
    match s.running with
    | [] => .ok (s, .void)
    | curEvent :: _ => do
      let s ← dispatchReturn curEvent s
      .ok (s, .void)
  | .handlerWrite data, s =>
    match s.running with
    | [] => .ok (s, .void)
    | curEvent :: _ => .ok (s.setData curEvent data, .void)
  | .clientAlloc answer, s => .ok (nsDynMemAlloc answer .timeout s, .handle answer)
  | .clientFree block, s => do
    let s ← nsDynMemFree block s
    .ok (s, .void)

/-- One valid operation that runs into no undefined behaviour; the label records the operation
and what it handed back. -/
structure Step (s : State) (label : Op × Ret) (s' : State) : Prop where
  valid : Valid s label.1
  exec : exec label.1 s = .ok (s', label.2)

/-- The static variables before the first call of `eventOS_scheduler_init`: static storage is
zero, nothing is allocated and nothing is in progress. The tick counter is arbitrary. -/
structure Boot (s : State) : Prop where
  eventPool : ∀ i, s.mem (.startupEventPool i) = .zero
  timerPool : ∀ i, s.mem (.startupSysTimerPool i) = .zero
  heap : ∀ p, s.heap p = none
  systemTimerFree : s.systemTimerFree = []
  systemTimerList : s.systemTimerList = []
  running : s.running = []

/-- The state after one `eventOS_scheduler_init`. -/
def Initial (s : State) : Prop := ∃ s₀, Boot s₀ ∧ s = eventOSSchedulerInit s₀

/-- Runs in which every operation also satisfies `P` in the state it is called in. -/
def RunOf (P : State → Op → Prop) : State → List (Op × Ret) → State → Prop :=
  Run (fun s label s' => Step s label s' ∧ P s label.1)

/-- The states reached from initialisation by valid operations. -/
def Reachable (s : State) : Prop := ∃ s₀ l, Initial s₀ ∧ Run Step s₀ l s

theorem Reachable.next {s s' : State} {label : Op × Ret} (reachable : Reachable s)
    (step : Step s label s') : Reachable s' := by
  obtain ⟨s₀, l, init, run⟩ := reachable
  exact ⟨s₀, _, init, .snoc run step⟩

/-! ## Running the model -/

instance (s : State) (p : Ptr) : Decidable (Fresh s p) :=
  match p with
  | .heap a => decidable_of_iff
      (s.heap (.heap a) = none ∧ .heap a ∉ s.eventQueueActive ∧ .heap a ∉ s.running)
      ⟨fun ⟨h₁, h₂, h₃⟩ => ⟨⟨a, rfl⟩, h₁, h₂, h₃⟩, fun ⟨_, h₁, h₂, h₃⟩ => ⟨h₁, h₂, h₃⟩⟩
  | .startupEventPool _ => isFalse fun h => by obtain ⟨⟨a, ha⟩, -⟩ := h; cases ha
  | .startupSysTimerPool _ => isFalse fun h => by obtain ⟨⟨a, ha⟩, -⟩ := h; cases ha

instance (s : State) (answer : Option Ptr) : Decidable (FreshAnswer s answer) :=
  match answer with
  | none => isTrue fun _ h => by cases h
  | some p => decidable_of_iff (Fresh s p)
      ⟨fun h _ hq => Option.some.inj hq ▸ h, fun h => h p rfl⟩

instance (s : State) (p : Ptr) : Decidable (ValidEvent s p) :=
  inferInstanceAs (Decidable (_ ∨ _ ∨ (_ ∧ (_ → _))))

instance (p : Ptr) : Decidable (∃ a, p = .heap a) :=
  match p with
  | .heap a => isTrue ⟨a, rfl⟩
  | .startupEventPool _ => isFalse fun ⟨_, h⟩ => by cases h
  | .startupSysTimerPool _ => isFalse fun ⟨_, h⟩ => by cases h

instance (s : State) (op : Op) : Decidable (Valid s op) :=
  match op with
  | .handlerCreate _ _ newTasklet newEvent => inferInstanceAs (Decidable
      (FreshAnswer s newTasklet ∧ FreshAnswer s newEvent ∧
        (newTasklet = newEvent → newTasklet = none)))
  | .send _ answer => inferInstanceAs (Decidable (FreshAnswer s answer))
  | .sendUserAllocated event _ => inferInstanceAs (Decidable
      ((∃ a, event = .heap a) ∧ s.heap event = none ∧ event ∉ s.eventQueueActive))
  | .sendTimerAllocated event _ => inferInstanceAs (Decidable (Fresh s event))
  | .requestAt _ _ answer => inferInstanceAs (Decidable (FreshAnswer s answer))
  | .requestIn _ _ answer => inferInstanceAs (Decidable (FreshAnswer s answer))
  | .requestEvery _ _ answer => inferInstanceAs (Decidable (FreshAnswer s answer))
  | .request _ _ _ _ answer => inferInstanceAs (Decidable (FreshAnswer s answer))
  | .timerCancel _ _ => isTrue trivial
  | .cancel none => isTrue fun _ h => by cases h
  | .cancel (some p) => decidable_of_iff (ValidEvent s p)
      ⟨fun h _ hq => Option.some.inj hq ▸ h, fun h => h p rfl⟩
  | .tickUpdate _ => isTrue trivial
  | .synchAfterSleep _ _ => isTrue trivial
  | .setActiveTasklet _ => isTrue trivial
  | .dispatch => isTrue trivial
  | .handlerReturn => inferInstanceAs (Decidable (s.running ≠ []))
  | .handlerWrite _ => decidable_of_iff (∃ p ∈ s.running.head?, p ∉ s.eventQueueActive) (by
      cases h : s.running <;> simp [Valid, h])
  | .clientAlloc answer => inferInstanceAs (Decidable (FreshAnswer s answer))
  | .clientFree block => inferInstanceAs (Decidable (s.heap block = some .timeout))

/-- Run a list of operations, as long as they are valid, satisfy `P` and do not fault. -/
def drive (P : State → Op → Prop) [∀ s op, Decidable (P s op)] : List Op → State → Option State
  | [], s => some s
  | op :: ops, s =>
    if Valid s op ∧ P s op then
      match exec op s with
      | .ok (s', _) => drive P ops s'
      | .error _ => none
    else none

theorem drive_runOf {P : State → Op → Prop} [∀ s op, Decidable (P s op)] {ops : List Op}
    {s s' : State} (h : drive P ops s = some s') :
    ∃ l, RunOf P s l s' ∧ l.map Prod.fst = ops := by
  induction ops generalizing s with
  | nil =>
    obtain rfl := Option.some.inj h
    exact ⟨[], .nil, rfl⟩
  | cons op ops ih =>
    simp only [drive] at h
    split at h
    · next hvalid =>
      split at h
      · next t r hexec =>
        obtain ⟨l, run, hops⟩ := ih h
        exact ⟨(op, r) :: l, .cons ⟨⟨hvalid.1, hexec⟩, hvalid.2⟩ run, by simp [hops]⟩
      · cases h
    · cases h

/-- Carries out an operation that is valid and satisfies `P`, and notes what `f` says of it. -/
def State.attemptWith {α : Type} (P : State → Op → Prop) [∀ s op, Decidable (P s op)]
    (f : State → Op → Ret → α) (s : State) (op : Op) : Option (State × α) :=
  if Valid s op ∧ P s op then
    match exec op s with
    | .ok (s', r) => some (s', f s op r)
    | .error _ => none
  else none

theorem State.attemptWith_step {α : Type} {P : State → Op → Prop} [∀ s op, Decidable (P s op)]
    {f : State → Op → Ret → α} {s s' : State} {op : Op} {a : α}
    (h : s.attemptWith P f op = some (s', a)) : ∃ r, Step s (op, r) s' ∧ P s op ∧ a = f s op r := by
  unfold State.attemptWith at h
  split at h
  · next hvalid =>
    split at h
    · next t r hexec =>
      obtain ⟨rfl, rfl⟩ := Prod.mk.inj (Option.some.inj h)
      exact ⟨r, ⟨hvalid.1, hexec⟩, hvalid.2, rfl⟩
    · cases h
  · cases h

/-- Cold start at a given tick count. -/
def State.boot (ticks : BitVec 32) : State where
  mem _ := .zero
  heap _ := none
  armCoreTaskletList := []
  eventQueueActive := []
  freeEventEntry := []
  systemTimerFree := []
  systemTimerList := []
  timerSysTicks := ticks
  currTasklet := 0
  running := []

theorem boot_initial (ticks : BitVec 32) : Initial (eventOSSchedulerInit (.boot ticks)) :=
  ⟨.boot ticks, ⟨fun _ => rfl, fun _ => rfl, fun _ => rfl, rfl, rfl, rfl⟩, rfl⟩

theorem reachable_of_drive {P : State → Op → Prop} [∀ s op, Decidable (P s op)] {ops : List Op}
    {ticks : BitVec 32} {s : State}
    (h : drive P ops (eventOSSchedulerInit (.boot ticks)) = some s) :
    Reachable s := by
  obtain ⟨l, run, -⟩ := drive_runOf h
  exact ⟨_, l, boot_initial ticks, run.mono fun _ _ _ hstep => hstep.1⟩

/-- A sample program: a tasklet is registered, an event and a timer of period 5 are sent to it,
the timer expires, and all of them are handled; then the timer is overdue once. -/
def sampleOps : List Op :=
  let event : ArmEvent :=
    { receiver := 0, sender := 0, eventType := 2, eventId := 3, dataPtr := none
      priority := .med, eventData := 4 }
  [.handlerCreate 7 1 (some (.heap 0)) none, .dispatch, .handlerReturn, .send event none,
    .requestEvery event 5 none, .tickUpdate 5, .dispatch, .handlerReturn, .dispatch,
    .tickUpdate 6, .handlerReturn, .dispatch]

end EventLoop
