import EventLoop.Types

/-!
# The event core and the system timers

The functions of `event.c` and `system_timer.c`, in the order a caller needs them. A function
that allocates takes the answer of the allocator as an argument (`none` when the allocation
fails); one that can run into undefined behaviour returns in `Except Fault`. Critical sections
leave no trace here: a function is one step of the caller.
-/

namespace EventLoop

variable [NsList]

/-! ## Lists and dynamic memory -/

/-- `ns_list_remove(list, entry)`, whose entry has to be on the list. -/
def nsListRemove (list : List Ptr) (entry : Ptr) : Except Fault (List Ptr) :=
  if entry ∈ list then .ok (NsList.remove list entry) else .error .notOnList

/-- `ns_dyn_mem_alloc(size)` and `ns_dyn_mem_temporary_alloc(size)` with the answer of the
allocator. -/
def nsDynMemAlloc (answer : Option Ptr) (object : HeapObject) (s : State) : State :=
  match answer with
  | none => s
  | some block => { s with heap := Function.update s.heap block (some object) }

/-- `ns_dyn_mem_free(block)` -/
def nsDynMemFree (block : Ptr) (s : State) : Except Fault State :=
  if (s.heap block).isSome then .ok { s with heap := Function.update s.heap block none }
  else .error .notAllocated

/-! ## Tick comparison (`eventOS_event_timer.h`) -/

/-- `TICKS_BEFORE(a, b)` -/
def ticksBefore (a b : BitVec 32) : Prop := (a - b).toInt < 0

/-- `TICKS_BEFORE_OR_AT(a, b)` -/
def ticksBeforeOrAt (a b : BitVec 32) : Prop := (a - b).toInt ≤ 0

instance (a b : BitVec 32) : Decidable (ticksBefore a b) := inferInstanceAs (Decidable (_ < _))

instance (a b : BitVec 32) : Decidable (ticksBeforeOrAt a b) :=
  inferInstanceAs (Decidable (_ ≤ _))

/-- `eventOS_event_timer_ticks_to_ms` -/
def eventOSEventTimerTicksToMs (ticks : BitVec 32) : BitVec 32 := ticks * 10

/-- `eventOS_event_timer_ms_to_ticks` -/
def eventOSEventTimerMsToTicks (ms : BitVec 32) : BitVec 32 := (ms + 10 - 1) / 10

/-! ## Tasklets -/

/-- `event_tasklet_handler_get`: a signed id is compared with an unsigned one. -/
def eventTaskletHandlerGet (taskletId : BitVec 8) (s : State) : Option ArmCoreTasklet :=
  s.armCoreTaskletList.find? (fun cur => cur.id.toInt = taskletId.toNat)

/-- `event_tasklet_handler_id_valid` -/
def eventTaskletHandlerIdValid (taskletId : BitVec 8) (s : State) : Bool :=
  (eventTaskletHandlerGet taskletId s).isSome

/-- `INT8_MAX` -/
abbrev int8Max : ℕ := 127

/-- `tasklet_get_free_id` -/
def taskletGetFreeId (s : State) : BitVec 8 :=
  match (List.range (int8Max + 1)).find?
      (fun i => (eventTaskletHandlerGet (BitVec.ofNat 8 i) s).isNone) with
  | some i => BitVec.ofNat 8 i
  | none => -1

/-! ## The event queue -/

/-- `event_core_write`: in front of the first event of lower priority, or at the end. -/
def eventCoreWrite (event : Ptr) (s : State) : State :=
  let queue :=
    match s.eventQueueActive.find? (fun tmp => s.priority event < s.priority tmp) with
    | some tmp => NsList.addBefore s.eventQueueActive tmp event
    | none => NsList.addToEnd s.eventQueueActive event
  { s with eventQueueActive := queue }.setState event .queued

/-- `event_core_read` -/
def eventCoreRead (s : State) : Except Fault (State × Option Ptr) :=
  match s.eventQueueActive.head? with
  | none => .ok (s, none)
  | some event => do
    let s := s.setState event .running
    let queue ← nsListRemove s.eventQueueActive event
    .ok ({ s with eventQueueActive := queue }, some event)

/-- `event_dynamically_allocate` -/
def eventDynamicallyAllocate (answer : Option Ptr) (s : State) : State :=
  match answer with
  | none => s
  | some event => (nsDynMemAlloc answer .event s).setAllocator event .dynamic

/-- `event_core_get` -/
def eventCoreGet (answer : Option Ptr) (s : State) : Except Fault (State × Option Ptr) := do
  let (s, event) ←
    match s.freeEventEntry.head? with
    | some event => do
      let free ← nsListRemove s.freeEventEntry event
      .ok ({ s with freeEventEntry := free }, some event)
    | none => .ok (eventDynamicallyAllocate answer s, answer)
  match event with
  | none => .ok (s, none)
  | some event =>
    let data := { (s.event event).data with dataPtr := none, priority := .low }
    .ok (s.setData event data, some event)

/-- `eventOS_event_find_by_id_critical`: the receiver is signed, the id asked for unsigned. -/
def eventOSEventFindByIdCritical (taskletId eventId : BitVec 8) (s : State) : Option Ptr :=
  s.eventQueueActive.find? (fun cur =>
    (s.event cur).data.receiver.toInt = taskletId.toNat ∧ (s.event cur).data.eventId = eventId)

/-! ## Sending -/

/-- `eventOS_event_send_user_allocated` -/
def eventOSEventSendUserAllocated (event : Ptr) (s : State) : State :=
  eventCoreWrite event (s.setAllocator event .user)

/-- `eventOS_event_send_timer_allocated` -/
def eventOSEventSendTimerAllocated (event : Ptr) (s : State) : State :=
  eventCoreWrite event (s.setAllocator event .timer)

/-- `eventOS_event_send`, with its return code. -/
def eventOSEventSend (event : ArmEvent) (answer : Option Ptr) (s : State) :
    Except Fault (State × ℤ) :=
  if (eventTaskletHandlerGet event.receiver s).isSome then do
    let (s, eventTmp) ← eventCoreGet answer s
    match eventTmp with
    | some eventTmp => .ok (eventCoreWrite eventTmp (s.setData eventTmp event), 0)
    | none => .ok (s, -1)
  else .ok (s, -1)

/-- `eventOS_event_handler_create`, with its return code; `newTasklet` and `newEvent` answer
the allocation of the tasklet and of its init event. -/
def eventOSEventHandlerCreate (handlerFuncPtr : FuncPtr) (initEventType : BitVec 8)
    (newTasklet newEvent : Option Ptr) (s : State) : Except Fault (State × ℤ) :=
  if s.armCoreTaskletList.any (fun cur => cur.funcPtr = handlerFuncPtr) then .ok (s, -1)
  else
    match newTasklet with
    | none => .ok (s, -2)
    | some new => do
      let s := nsDynMemAlloc newTasklet .tasklet s
      let (s, eventTmp) ← eventCoreGet newEvent s
      match eventTmp with
      | none =>
        let s ← nsDynMemFree new s
        .ok (s, -2)
      | some eventTmp =>
        let id := taskletGetFreeId s
        let tasklet : ArmCoreTasklet := { id := id, funcPtr := handlerFuncPtr }
        let s := { s with armCoreTaskletList := NsList.addToEnd s.armCoreTaskletList tasklet }
        let data :=
          { (s.event eventTmp).data with
            receiver := id, sender := 0, eventType := initEventType, eventId := 0
            eventData := 0 }
        .ok (eventCoreWrite eventTmp (s.setData eventTmp data), id.toInt)

/-! ## The timer list -/

/-- `timer_sys_add`: in front of the first timer that runs after this one, or at the end. -/
def timerSysAdd (timer : Ptr) (s : State) : State :=
  let at_ := (s.mem timer).launchTime
  let list :=
    match s.systemTimerList.find? (fun t => ticksBefore at_ (s.mem t).launchTime) with
    | some t => NsList.addBefore s.systemTimerList t timer
    | none => NsList.addToEnd s.systemTimerList timer
  { s with systemTimerList := list }

/-- `timer_struct_get` -/
def timerStructGet (answer : Option Ptr) (s : State) : Except Fault (State × Option Ptr) :=
  match s.systemTimerFree.head? with
  | some timer => do
    let free ← nsListRemove s.systemTimerFree timer
    .ok ({ s with systemTimerFree := free }, some timer)
  | none => .ok (nsDynMemAlloc answer .sysTimer s, answer)

/-- `timer_sys_event_free` -/
def timerSysEventFree (event : Ptr) (s : State) : State :=
  if (s.mem event).period = 0 then
    -- Non-periodic - return to free list
    { s with systemTimerFree := NsList.addToStart s.systemTimerFree event }
  else
    let s := s.setLaunchTime event ((s.mem event).launchTime + (s.mem event).period)
    if ticksBeforeOrAt (s.mem event).launchTime s.timerSysTicks then
      -- next event is overdue - queue event now
      eventOSEventSendTimerAllocated event s
    else timerSysAdd event s

/-- `timer_sys_event_cancel_critical` -/
def timerSysEventCancelCritical (event : Ptr) (s : State) : Except Fault State := do
  let s := s.setPeriod event 0
  if (s.event event).state = .unqueued then do
    let list ← nsListRemove s.systemTimerList event
    .ok { s with systemTimerList := list }
  else .ok s

/-- `eventOS_event_timer_ticks` -/
def eventOSEventTimerTicks (s : State) : BitVec 32 := s.timerSysTicks

/-- `eventOS_event_timer_request_at_` -/
def eventOSEventTimerRequestAt_ (event : ArmEvent) (at_ period : BitVec 32)
    (answer : Option Ptr) (s : State) : Except Fault (State × Option Ptr) :=
  if !eventTaskletHandlerIdValid event.receiver s then .ok (s, none)
  else do
    let (s, timer) ← timerStructGet answer s
    match timer with
    | none => .ok (s, none)
    | some timer =>
      let s := s.store timer
        { event := { data := event, allocator := .timer, state := .unqueued }
          launchTime := at_
          period := period }
      if ticksBeforeOrAt at_ s.timerSysTicks then
        .ok (eventOSEventSendTimerAllocated timer s, some timer)
      else .ok (timerSysAdd timer s, some timer)

/-- `eventOS_event_timer_request_at` -/
def eventOSEventTimerRequestAt (event : ArmEvent) (at_ : BitVec 32) (answer : Option Ptr)
    (s : State) : Except Fault (State × Option Ptr) :=
  eventOSEventTimerRequestAt_ event at_ 0 answer s

/-- `eventOS_event_timer_request_in`; the delay is signed. -/
def eventOSEventTimerRequestIn (event : ArmEvent) (in_ : BitVec 32) (answer : Option Ptr)
    (s : State) : Except Fault (State × Option Ptr) :=
  eventOSEventTimerRequestAt_ event (s.timerSysTicks + in_) 0 answer s

/-- `eventOS_event_timer_request_every`; the period is signed. -/
def eventOSEventTimerRequestEvery (event : ArmEvent) (period : BitVec 32) (answer : Option Ptr)
    (s : State) : Except Fault (State × Option Ptr) :=
  if period.toInt ≤ 0 then .ok (s, none)
  else eventOSEventTimerRequestAt_ event (s.timerSysTicks + period) period answer s

/-- `TIMER_SYS_TICK_PERIOD`, in milliseconds. -/
abbrev timerSysTickPeriod : BitVec 32 := 10

/-- The tick count that the legacy request makes of its milliseconds. -/
def legacyTicks (time : BitVec 32) : BitVec 32 :=
  if time > 2 * timerSysTickPeriod then time / timerSysTickPeriod + 1 else 2

/-- `eventOS_event_timer_request`, with its return code. -/
def eventOSEventTimerRequest (eventId eventType taskletId : BitVec 8) (time : BitVec 32)
    (answer : Option Ptr) (s : State) : Except Fault (State × ℤ) := do
  let event : ArmEvent :=
    { eventId := eventId, eventType := eventType, receiver := taskletId, sender := 0
      dataPtr := none, eventData := 0, priority := .med }
  let (s, ret) ←
    eventOSEventTimerRequestAt_ event (s.timerSysTicks + legacyTicks time) 0 answer s
  .ok (s, if ret.isSome then 0 else -1)

/-! ## Completion and cancellation -/

/-- `event_core_free_push` -/
def eventCoreFreePush (free : Ptr) (s : State) : Except Fault State :=
  match (s.event free).allocator with
  | .startupPool =>
    let s := s.setState free .unqueued
    .ok { s with freeEventEntry := NsList.addToStart s.freeEventEntry free }
  | .dynamic => nsDynMemFree free s
  | .timer => .ok (timerSysEventFree free (s.setState free .unqueued))
  | .user => .ok s
  | .other _ => .ok s

/-- `eventOS_event_cancel_critical` -/
def eventOSEventCancelCritical (event : Ptr) (s : State) : Except Fault State := do
  let queue ← nsListRemove s.eventQueueActive event
  .ok { s with eventQueueActive := queue }

/-- `eventOS_cancel` -/
def eventOSCancel (event : Option Ptr) (s : State) : Except Fault State :=
  match event with
  | none => .ok s
  | some event => do
    -- Notify timer of cancellation.
    let s ← if (s.event event).allocator = .timer then timerSysEventCancelCritical event s
      else .ok s
    -- Only queued can be removed, RUNNING cannot: we are currently "in" that event.
    let s ← if (s.event event).state = .queued then eventOSEventCancelCritical event s
      else .ok s
    -- Push back to "free" state
    if (s.event event).state ≠ .running then eventCoreFreePush event s else .ok s

/-- `eventOS_event_timer_cancel`, with its return code. -/
def eventOSEventTimerCancel (eventId taskletId : BitVec 8) (s : State) :
    Except Fault (State × ℤ) :=
  -- First check pending timers
  match s.systemTimerList.find? (fun cur =>
      (s.event cur).data.receiver = taskletId ∧ (s.event cur).data.eventId = eventId) with
  | some cur => do
    let s ← eventOSCancel cur s
    .ok (s, 0)
  | none =>
    -- No pending timer, so check for already-pending event
    match eventOSEventFindByIdCritical taskletId eventId s with
    | some event =>
      if (s.event event).allocator = .timer then do
        let s ← eventOSCancel event s
        .ok (s, 0)
      else .ok (s, -1)
    | none => .ok (s, -1)

/-- `eventOS_event_timer_shortest_active_timer` -/
def eventOSEventTimerShortestActiveTimer (s : State) : BitVec 32 :=
  let retVal :=
    match s.systemTimerList.head? with
    | none => 0
    | some first =>
      if ticksBeforeOrAt (s.mem first).launchTime s.timerSysTicks then 1
      else (s.mem first).launchTime - s.timerSysTicks
  eventOSEventTimerTicksToMs retVal

/-! ## Ticks -/

/-- The `ns_list_foreach_safe` loop of `system_timer_tick_update` over the entries from `cur`
on: the list is ordered, so the first timer that is not due ends it. -/
def tickUpdateLoop : List Ptr → State → Except Fault State
  | [], s => .ok s
  | cur :: rest, s =>
    if ticksBeforeOrAt (s.mem cur).launchTime s.timerSysTicks then do
      let list ← nsListRemove s.systemTimerList cur
      tickUpdateLoop rest
        (eventOSEventSendTimerAllocated cur { s with systemTimerList := list })
    else .ok s

/-- `system_timer_tick_update` -/
def systemTimerTickUpdate (ticks : BitVec 32) (s : State) : Except Fault State :=
  let s := { s with timerSysTicks := s.timerSysTicks + ticks }
  tickUpdateLoop s.systemTimerList s

/-- `timer_sys_interrupt` -/
def timerSysInterrupt (s : State) : Except Fault State := systemTimerTickUpdate 1 s

/-- `eventOS_scheduler_timer_synch_after_sleep`, with its return code; `wakeup` answers
`timer_sys_wakeup`, the restart of the platform's tick timer. -/
def eventOSSchedulerTimerSynchAfterSleep (sleepTicks : BitVec 32) (wakeup : ℤ) (s : State) :
    Except Fault (State × ℤ) := do
  let s ← systemTimerTickUpdate (sleepTicks / 10 + 1) s
  .ok (s, if wakeup = 0 then 0 else -1)

/-! ## Initialisation and dispatch -/

/-- `timer_sys_init`, up to the start of the platform's tick timer. -/
def timerSysInit (s : State) : State :=
  let free := (List.finRange stMax).foldl
    (fun free i => NsList.addToStart free (.startupSysTimerPool i)) s.systemTimerFree
  { s with systemTimerFree := free }

/-- `eventOS_scheduler_init` -/
def eventOSSchedulerInit (s : State) : State :=
  let s := { s with freeEventEntry := [], eventQueueActive := [], armCoreTaskletList := [] }
  let s := (List.finRange startupEventPoolSize).foldl
    (fun (s : State) i =>
      { s.setAllocator (.startupEventPool i) .startupPool with
        freeEventEntry := NsList.addToStart s.freeEventEntry (.startupEventPool i) }) s
  let s := timerSysInit s
  { s with currTasklet := 0 }

/-- `eventOS_scheduler_get_active_tasklet` -/
def eventOSSchedulerGetActiveTasklet (s : State) : BitVec 8 := s.currTasklet

/-- `eventOS_scheduler_set_active_tasklet` -/
def eventOSSchedulerSetActiveTasklet (tasklet : BitVec 8) (s : State) : State :=
  { s with currTasklet := tasklet }

/-- `eventOS_scheduler_dispatch_event` up to the call of the tasklet's function: the event and
the tasklet to call, or `none` when the queue is empty. -/
def dispatchRead (s : State) : Except Fault (State × Option (Ptr × ArmCoreTasklet)) := do
  let (s, curEvent) ← eventCoreRead { s with currTasklet := 0 }
  match curEvent with
  | none => .ok (s, none)
  | some curEvent =>
    let s := { s with currTasklet := (s.event curEvent).data.receiver }
    match eventTaskletHandlerGet s.currTasklet s with
    -- the result is dereferenced unchecked
    | none => .error .noTasklet
    | some tasklet => .ok ({ s with running := curEvent :: s.running }, some (curEvent, tasklet))

/-- `eventOS_scheduler_dispatch_event` from the return of the tasklet's function on. -/
def dispatchReturn (curEvent : Ptr) (s : State) : Except Fault State := do
  let s ← eventCoreFreePush curEvent { s with running := s.running.tail }
  .ok { s with currTasklet := 0 }

section

variable {m : Type → Type} [Monad m] [MonadLiftT (Except Fault) m]

/-- `eventOS_scheduler_dispatch_event`, where `call` runs the function of a tasklet on an event.
What else the functions do, besides changing the state of the event loop, is left to the monad. -/
def eventOSSchedulerDispatchEvent (call : ArmCoreTasklet → Ptr → State → m State) (s : State) :
    m (State × Bool) := do
  let (s, next) ← dispatchRead s
  match next with
  | none => pure (s, false)
  | some (curEvent, tasklet) => do
    let s ← call tasklet curEvent s
    let s ← dispatchReturn curEvent s
    pure (s, true)

end

end EventLoop
