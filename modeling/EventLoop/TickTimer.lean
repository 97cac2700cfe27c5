import EventLoop.CallbackTimer
import EventLoop.EventCore

/-!
# The tick timer

The part of `system_timer.c` and `event.c` that drives the system timers from a callback timer: the
tick timer is a callback timer whose handler starts it again, and then does a tick update. The
program consists of the event core, the callback timers, and this link between them.
-/

namespace EventLoop

/-- `TIMER_SLOTS_PER_MS` -/
abbrev timerSlotsPerMs : BitVec 32 := 20

/-- The address of `tick_timer_eventOS_callback`. -/
abbrev tickTimerEventOSCallbackPtr : FuncPtr := 0

/-- The static variables of `system_timer.c` that belong to the tick timer, with the callback
timers and the event core. -/
structure TickSystem where
  timers : CallbackTimers
  tickTimerCallback : Option (State → Except Fault State)
  tickTimerId : BitVec 8
  core : State

namespace TickSystem

/-- `platform_tick_timer_start` -/
def platformTickTimerStart (idle : BitVec 16) (periodMs : BitVec 32) (m : TickSystem) :
    TickSystem × ℤ :=
  let (timers, c) := eventOSCallbackTimerStart idle m.tickTimerId
    ((timerSlotsPerMs * periodMs).setWidth 16) m.timers
  ({ m with timers := timers }, c)

/-- `platform_tick_timer_stop` -/
def platformTickTimerStop (idle : BitVec 16) (m : TickSystem) : TickSystem × ℤ :=
  let (timers, c) := eventOSCallbackTimerStop idle m.tickTimerId m.timers
  ({ m with timers := timers }, c)

/-- `tick_timer_eventOS_callback` -/
def tickTimerEventOSCallback (idle : BitVec 16) (timerId : BitVec 8) (m : TickSystem) :
    Except Fault TickSystem :=
  match m.tickTimerCallback with
  | some tickTimerCallback =>
    if timerId = m.tickTimerId then do
      let m := (platformTickTimerStart idle timerSysTickPeriod m).1
      let core ← tickTimerCallback m.core
      .ok { m with core := core }
    else .ok m
  | none => .ok m

/-- `platform_tick_timer_register` -/
def platformTickTimerRegister (tickTimerCb : State → Except Fault State)
    (newTimer : Option (BitVec 16)) (m : TickSystem) : TickSystem × ℤ :=
  let m := { m with tickTimerCallback := some tickTimerCb }
  let (timers, c) :=
    eventOSCallbackTimerRegister (some tickTimerEventOSCallbackPtr) newTimer m.timers
  ({ m with timers := timers, tickTimerId := BitVec.ofInt 8 c }, c)

/-! ## The functions of the event core that use it -/

variable [NsList]

/-- `timer_sys_init` -/
def timerSysInit (idle : BitVec 16) (newTimer : Option (BitVec 16)) (m : TickSystem) :
    TickSystem :=
  let m := { m with core := EventLoop.timerSysInit m.core }
  let m := (platformTickTimerRegister timerSysInterrupt newTimer m).1
  (platformTickTimerStart idle timerSysTickPeriod m).1

/-- `eventOS_scheduler_init` -/
def eventOSSchedulerInit (idle : BitVec 16) (newTimer : Option (BitVec 16)) (m : TickSystem) :
    TickSystem :=
  let core :=
    { m.core with freeEventEntry := [], eventQueueActive := [], armCoreTaskletList := [] }
  let core := (List.finRange startupEventPoolSize).foldl
    (fun (s : State) i =>
      { s.setAllocator (.startupEventPool i) .startupPool with
        freeEventEntry := NsList.addToStart s.freeEventEntry (.startupEventPool i) }) core
  let m := timerSysInit idle newTimer { m with core := core }
  { m with core := { m.core with currTasklet := 0 } }

/-- `timer_sys_disable` -/
def timerSysDisable (idle : BitVec 16) (m : TickSystem) : TickSystem :=
  (platformTickTimerStop idle m).1

/-- `timer_sys_wakeup` -/
def timerSysWakeup (idle : BitVec 16) (m : TickSystem) : TickSystem × ℤ :=
  platformTickTimerStart idle timerSysTickPeriod m

/-- `eventOS_scheduler_timer_stop` -/
def eventOSSchedulerTimerStop (idle : BitVec 16) (m : TickSystem) : TickSystem × ℤ :=
  let m := timerSysDisable idle m
  let (timers, c) := nsTimerSleep m.timers
  ({ m with timers := timers }, if c ≠ 0 then 1 else 0)

/-- `eventOS_scheduler_timer_synch_after_sleep` -/
def eventOSSchedulerTimerSynchAfterSleep (idle : BitVec 16) (sleepTicks : BitVec 32)
    (m : TickSystem) : Except Fault (TickSystem × ℤ) := do
  let sleepTicks := sleepTicks / 10 + 1
  let core ← systemTimerTickUpdate sleepTicks m.core
  let (m, c) := timerSysWakeup idle { m with core := core }
  .ok (m, if c = 0 then 0 else -1)

end TickSystem

/-! ## Operations -/

/-- An operation on the callback timers, or one of the event core that stops or starts them. -/
inductive TickOp where
  | callback (op : CallbackOp)
  | schedulerTimerStop
  | schedulerTimerSynchAfterSleep (sleepTicks : BitVec 32)
  deriving DecidableEq, Repr

namespace TickSystem

variable [NsList]

/-- The effect of an operation. The handler of the tick timer is part of the call; that of another
timer is a sequence of operations. -/
def exec (idle : BitVec 16) : TickOp → TickSystem → Except Fault (TickSystem × CallbackRet)
  | .callback op, m => do
    let (timers, ret) := CallbackTimers.exec idle op m.timers
    let m := { m with timers := timers }
    match ret with
    | .call (some call) =>
      if call.interruptHandler = tickTimerEventOSCallbackPtr then do
        let m ← tickTimerEventOSCallback idle call.nsTimerId m
        .ok (m, ret)
      else .ok (m, ret)
    | ret => .ok (m, ret)
  | .schedulerTimerStop, m =>
    let (m, c) := eventOSSchedulerTimerStop idle m
    .ok (m, .code c)
  | .schedulerTimerSynchAfterSleep sleepTicks, m => do
    let (m, c) ← eventOSSchedulerTimerSynchAfterSleep idle sleepTicks m
    .ok (m, .code c)

/-- When an operation can come: those of the event core come from the main program, or from a
handler. -/
def Allows (m : TickSystem) : TickOp → Prop
  | .callback op => m.timers.Allows op
  | .schedulerTimerStop | .schedulerTimerSynchAfterSleep _ => m.timers.control ≠ .expired

end TickSystem

/-- One operation that runs into no undefined behaviour, at a time at which it can come. -/
structure TickStep [NsList] (m : TickSystem) (label : TickOp × CallbackRet) (m' : TickSystem) :
    Prop where
  allows : m.Allows label.1
  exec : ∃ idle, TickSystem.exec idle label.1 m = .ok (m', label.2)

end EventLoop
