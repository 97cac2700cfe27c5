import EventLoop.Receivers
import Mathlib.Algebra.Group.Nat.Defs

/-!
# Timeouts

The functions of `ns_timeout.c`, on top of the event loop. A `timeout_t` is a block of dynamic
memory whose event is a timer of the event loop; the timer's event carries the `timeout_t` back in
its `data_ptr`. The timeout tasklet is registered with the first timeout.

An activation of `timeout_tasklet` has one local that it uses after its callback, the timer. Since
the callback is again a sequence of operations, these locals are part of the state, one for each
dispatch in progress.
-/

namespace EventLoop

/-- `STARTUP_EVENT` -/
abbrev startupEvent : BitVec 8 := 0

/-- `TIMER_EVENT` -/
abbrev timerEvent : BitVec 8 := 1

/-- The function `timeout_tasklet`, as a pointer. -/
def timeoutTasklet : FuncPtr := 0

/-- `timeout_entry_t` -/
structure TimeoutEntry where
  callback : Option FuncPtr
  arg : ℕ
  event : Option Ptr
  deriving DecidableEq, Repr

/-- The event loop with the static variable of `ns_timeout.c` and the contents of the `timeout_t`
blocks. `locals` goes with `running`: the local `timer` of an activation of `timeout_tasklet` that
is in its callback, and `none` for any other handler. -/
structure System where
  core : State
  timeoutTaskletId : BitVec 8
  entries : Ptr → TimeoutEntry
  locals : List (Option Ptr)

namespace System

/-- `ns_timeout.c` before its first call. -/
def start (s : State) : System where
  core := s
  timeoutTaskletId := -1
  entries _ := { callback := none, arg := 0, event := none }
  locals := []

/-- A `timeout_t` that is allocated. -/
def Live (σ : System) (t : Ptr) : Prop := σ.core.heap t = some .timeout

instance (σ : System) (t : Ptr) : Decidable (σ.Live t) := inferInstanceAs (Decidable (_ = _))

end System

/-- What the allocator answers when a timeout is created, if it is asked. -/
structure Answers where
  timeout : Option Ptr
  tasklet : Option Ptr
  event : Option Ptr
  timer : Option Ptr
  deriving DecidableEq, Repr

def Answers.toList (answers : Answers) : List Ptr :=
  [answers.timeout, answers.tasklet, answers.event, answers.timer].filterMap id

variable [NsList]

/-! ## The tasklet -/

/-- `timeout_tasklet` up to the call of the callback: its local `timer`, or `none` if it returns at
once. -/
def timeoutTaskletCall (event : Ptr) (σ : System) : Except Fault (Option Ptr) :=
  if (σ.core.event event).data.eventType ≠ timerEvent then .ok none
  else
    match (σ.core.event event).data.dataPtr with
    | none => .error .dangling
    | some t =>
      if σ.Live t then
        if (σ.entries t).callback.isNone then .error .assertion
        else
          match (σ.entries t).event with
          | none => .error .dangling
          | some storage => .ok (some storage)
      else .error .dangling

/-- `timeout_tasklet` from the return of the callback on. -/
def timeoutTaskletReturn (event timer : Ptr) (σ : System) : Except Fault System :=
  -- Check if this was periodic timer
  if (σ.core.mem timer).period = 0 then
    match (σ.core.event event).data.dataPtr with
    | none => .ok σ
    | some t => do
      let core ← nsDynMemFree t σ.core
      .ok { σ with core := core }
  else .ok σ

/-! ## Creation and cancellation -/

/-- The event of a timeout's timer. -/
def timeoutEvent (timeoutTaskletId : BitVec 8) (timeout : Ptr) : ArmEvent where
  receiver := timeoutTaskletId
  sender := timeoutTaskletId
  eventType := timerEvent
  eventId := timerEvent
  dataPtr := some timeout
  priority := .high
  eventData := 0

/-- Start the timeout tasklet if it is not running. -/
def startTimeoutTasklet (answers : Answers) (σ : System) : Except Fault System :=
  if σ.timeoutTaskletId = -1 then do
    let (core, c) ← eventOSEventHandlerCreate timeoutTasklet startupEvent answers.tasklet
      answers.event σ.core
    let id := BitVec.ofInt 8 c
    .ok { σ with core := core, timeoutTaskletId := if id.toInt < 0 then -1 else id }
  else .ok σ

/-- The exit `FAIL`. -/
def failTimeout (timeout : Ptr) (σ : System) : Except Fault (System × Option Ptr) := do
  let core ← nsDynMemFree timeout σ.core
  .ok ({ σ with core := core }, none)

/-- Request the timer of a timeout: periodic, or at a given time. -/
def requestTimeout (timeout : Ptr) (at_ period : BitVec 32) (answers : Answers) (σ : System) :
    Except Fault (State × Option Ptr) :=
  let event := timeoutEvent σ.timeoutTaskletId timeout
  if period ≠ 0 then eventOSEventTimerRequestEvery event period answers.timer σ.core
  else eventOSEventTimerRequestAt event at_ answers.timer σ.core

/-- `eventOS_timeout_at_` once the tasklet was started or not: the timer is requested and the
`timeout_t`, whose other members are those of `entry`, is handed out. -/
def armTimeout (timeout : Ptr) (entry : TimeoutEntry) (at_ period : BitVec 32)
    (answers : Answers) (σ : System) : Except Fault (System × Option Ptr) :=
  if σ.timeoutTaskletId = -1 then failTimeout timeout σ
  else do
    let (core, storage) ← requestTimeout timeout at_ period answers σ
    let σ := { σ with
      core := core
      entries := Function.update σ.entries timeout { entry with event := storage } }
    match storage with
    | some _ => .ok (σ, some timeout)
    | none => failTimeout timeout σ

/-- `eventOS_timeout_at_` -/
def eventOSTimeoutAt_ (callback : Option FuncPtr) (arg : ℕ) (at_ period : BitVec 32)
    (answers : Answers) (σ : System) : Except Fault (System × Option Ptr) :=
  match answers.timeout with
  | none => .ok (σ, none)
  | some timeout => do
    let entry : TimeoutEntry :=
      { callback := callback, arg := arg, event := (σ.entries timeout).event }
    let σ ← startTimeoutTasklet answers
      { σ with
        core := nsDynMemAlloc answers.timeout .timeout σ.core
        entries := Function.update σ.entries timeout entry }
    armTimeout timeout entry at_ period answers σ

/-- `eventOS_timeout_ms` -/
def eventOSTimeoutMs (callback : Option FuncPtr) (ms : BitVec 32) (arg : ℕ) (answers : Answers)
    (σ : System) : Except Fault (System × Option Ptr) :=
  eventOSTimeoutAt_ callback arg
    (eventOSEventTimerMsToTicks ms + eventOSEventTimerTicks σ.core) 0 answers σ

/-- `eventOS_timeout_every_ms` -/
def eventOSTimeoutEveryMs (callback : Option FuncPtr) (every : BitVec 32) (arg : ℕ)
    (answers : Answers) (σ : System) : Except Fault (System × Option Ptr) :=
  eventOSTimeoutAt_ callback arg 0 (eventOSEventTimerMsToTicks every) answers σ

/-- `eventOS_timeout_cancel` -/
def eventOSTimeoutCancel (t : Option Ptr) (σ : System) : Except Fault System :=
  match t with
  | none => .ok σ
  | some t =>
    if σ.Live t then do
      let core ← eventOSCancel (σ.entries t).event σ.core
      match (σ.entries t).event with
      | none => .error .dangling
      | some event =>
        -- Defer the freeing until returning from the callback
        if (core.event event).state ≠ .running then do
          let core ← nsDynMemFree t core
          .ok { σ with core := core }
        else .ok { σ with core := core }
    else .error .dangling

/-! ## Operations -/

/-- An operation on the event loop or on timeouts. -/
inductive SysOp where
  | core (op : Op)
  | timeoutMs (callback : Option FuncPtr) (ms : BitVec 32) (arg : ℕ) (answers : Answers)
  | timeoutEveryMs (callback : Option FuncPtr) (every : BitVec 32) (arg : ℕ) (answers : Answers)
  | timeoutCancel (t : Option Ptr)
  deriving DecidableEq, Repr

namespace System

/-- `eventOS_scheduler_dispatch_event` up to the call of the handler, and of the callback if the
handler is `timeout_tasklet`. -/
def dispatch (σ : System) : Except Fault (System × Ret) := do
  let (core, next) ← dispatchRead σ.core
  match next with
  | none => .ok ({ σ with core := core }, .call none)
  | some (event, tasklet) => do
    let σ := { σ with core := core }
    let timer ← if tasklet.funcPtr = timeoutTasklet then timeoutTaskletCall event σ else .ok none
    .ok ({ σ with locals := timer :: σ.locals }, .call (some (event, tasklet)))

/-- The rest of a dispatch when the handler, or the callback in it, returns. -/
def handlerReturn (σ : System) : Except Fault (System × Ret) :=
  match σ.core.running with
  | [] => .ok (σ, .void)
  | curEvent :: _ => do
    let σ ←
      match σ.locals.head? with
      | some (some timer) => timeoutTaskletReturn curEvent timer σ
      | _ => .ok σ
    let core ← dispatchReturn curEvent σ.core
    .ok ({ σ with core := core, locals := σ.locals.tail }, .void)

/-- The effect of an operation. -/
def exec : SysOp → System → Except Fault (System × Ret)
  | .core .dispatch, σ => σ.dispatch
  | .core .handlerReturn, σ => σ.handlerReturn
  | .core op, σ => do
    let (core, r) ← EventLoop.exec op σ.core
    .ok ({ σ with core := core }, r)
  | .timeoutMs callback ms arg answers, σ => do
    let (σ, t) ← eventOSTimeoutMs callback ms arg answers σ
    .ok (σ, .handle t)
  | .timeoutEveryMs callback every arg answers, σ => do
    let (σ, t) ← eventOSTimeoutEveryMs callback every arg answers σ
    .ok (σ, .handle t)
  | .timeoutCancel t, σ => do
    let σ ← eventOSTimeoutCancel t σ
    .ok (σ, .void)

omit [NsList]

/-- The event is one of a timeout's timer. -/
def TimesOut (σ : System) (data : ArmEvent) : Prop :=
  σ.timeoutTaskletId ≠ -1 ∧ data.receiver = σ.timeoutTaskletId ∧ data.eventType = timerEvent

/-- The storage is the timer of a timeout. -/
def Timed (σ : System) (p : Ptr) : Prop := σ.TimesOut (σ.core.event p).data

instance (σ : System) (data : ArmEvent) : Decidable (σ.TimesOut data) :=
  inferInstanceAs (Decidable (_ ∧ _ ∧ _))

instance (σ : System) (p : Ptr) : Decidable (σ.Timed p) :=
  inferInstanceAs (Decidable (σ.TimesOut _))

/-- What other code does not do: register `timeout_tasklet`, which is static, send timer events to
the timeout tasklet, or touch the timers and the blocks of timeouts. -/
def LeavesAlone (σ : System) : Op → Prop
  | .handlerCreate handlerFuncPtr _ _ _ => handlerFuncPtr ≠ timeoutTasklet
  | .send event _ => ¬ σ.TimesOut event
  | .sendUserAllocated _ contents => ¬ σ.TimesOut contents.event.data
  | .sendTimerAllocated _ contents => ¬ σ.TimesOut contents.event.data
  | .requestAt event _ _ => ¬ σ.TimesOut event
  | .requestIn event _ _ => ¬ σ.TimesOut event
  | .requestEvery event _ _ => ¬ σ.TimesOut event
  | .request eventId eventType taskletId _ _ =>
    ¬ σ.TimesOut (legacyEvent eventId eventType taskletId)
  | .cancel event => ∀ p, event = some p → ¬ σ.Timed p
  | .timerCancel eventId taskletId =>
    ∀ p, timerCancelTarget σ.core eventId taskletId = some p → ¬ σ.Timed p
  | .handlerWrite data => ¬ σ.TimesOut data ∧ ∀ p ∈ σ.core.running.head?, ¬ σ.Timed p
  | .clientAlloc _ | .clientFree _ => False
  | _ => True

/-- What a caller owes the interface. -/
def Valid (σ : System) : SysOp → Prop
  | .core op => EventLoop.Valid σ.core op ∧ AddressedOp σ.core op ∧ σ.LeavesAlone op
  | .timeoutMs _ _ _ answers =>
    (∀ p ∈ answers.toList, Fresh σ.core p) ∧ answers.toList.Nodup ∧
      (σ.timeoutTaskletId = -1 → σ.core.armCoreTaskletList.length < 128)
  | .timeoutEveryMs _ every _ answers =>
    (∀ p ∈ answers.toList, Fresh σ.core p) ∧ answers.toList.Nodup ∧
      (σ.timeoutTaskletId = -1 → σ.core.armCoreTaskletList.length < 128) ∧
      1 ≤ every.toNat ∧ every.toNat ≤ 2 ^ 32 - 10
  | .timeoutCancel t => ∀ p, t = some p → σ.Live p

instance (Q : Ptr → Prop) [DecidablePred Q] (o : Option Ptr) :
    Decidable (∀ p, o = some p → Q p) := inferInstanceAs (Decidable (∀ p ∈ o, Q p))

instance (σ : System) (op : Op) : Decidable (σ.LeavesAlone op) :=
  match op with
  | .handlerCreate _ _ _ _ => inferInstanceAs (Decidable (_ ≠ _))
  | .send _ _ | .sendUserAllocated _ _ | .sendTimerAllocated _ _ | .requestAt _ _ _
  | .requestIn _ _ _ | .requestEvery _ _ _ | .request _ _ _ _ _ => inferInstanceAs (Decidable (¬ _))
  | .cancel event => inferInstanceAs (Decidable (∀ p, event = some p → ¬ σ.Timed p))
  | .timerCancel eventId taskletId => inferInstanceAs (Decidable
      (∀ p, timerCancelTarget σ.core eventId taskletId = some p → ¬ σ.Timed p))
  | .handlerWrite data => inferInstanceAs (Decidable
      (¬ σ.TimesOut data ∧ ∀ p ∈ σ.core.running.head?, ¬ σ.Timed p))
  | .clientAlloc _ | .clientFree _ => isFalse id
  | .tickUpdate _ | .synchAfterSleep _ _ | .setActiveTasklet _ | .dispatch | .handlerReturn =>
    isTrue trivial

instance (σ : System) (op : SysOp) : Decidable (σ.Valid op) :=
  match op with
  | .core _ => inferInstanceAs (Decidable (_ ∧ _ ∧ _))
  | .timeoutMs _ _ _ _ => inferInstanceAs (Decidable (_ ∧ _ ∧ (_ → _)))
  | .timeoutEveryMs _ _ _ _ => inferInstanceAs (Decidable (_ ∧ _ ∧ (_ → _) ∧ _ ∧ _))
  | .timeoutCancel t => inferInstanceAs (Decidable (∀ p, t = some p → σ.Live p))

end System

end EventLoop
