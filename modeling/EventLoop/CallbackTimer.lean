import EventLoop.Types

/-!
# Callback timers

The functions of `ns_timer.c`, in the default build. Any number of timers share the one timer of the
hardware abstraction layer (HAL): an ACTIVE timer runs out with the period of the HAL timer, a HOLD
timer `remaining_slots` after it. The HAL timer is an ideal one-shot: its period is replaced by a
start, ends after exactly its slots, and is then interrupted at once.

The interrupt handler calls the handlers of timers from a loop over the list of timers. Such a
handler is again a sequence of operations, so the position of the loop is part of the state.
-/

namespace EventLoop

/-- `ns_timer_state_e` -/
inductive NsTimerState where
  | active
  | hold
  | runInterrupt
  | stop
  deriving DecidableEq, Repr

/-- `ns_timer_struct` -/
structure NsTimerStruct where
  nsTimerId : BitVec 8
  timerState : NsTimerState
  slots : BitVec 16
  remainingSlots : BitVec 16
  interruptHandler : FuncPtr
  deriving DecidableEq, Repr

/-- A call of a timer's handler. -/
structure TimerCall where
  interruptHandler : FuncPtr
  nsTimerId : BitVec 8
  slots : BitVec 16
  deriving DecidableEq, Repr

/-- Where the program is: in the main program, at the expiry of the HAL timer, or in a handler that
the loop of `ns_timer_interrupt_handler` called. `next` is the position that the loop looks at
next, `i` its counter. -/
inductive TimerControl where
  | main
  | expired
  | handler (next i : ℕ)
  deriving DecidableEq, Repr

/-- The static variables of `ns_timer.c`, the slots left of the period of the HAL timer, if it is
running, and where the program is. -/
structure CallbackTimers where
  nsTimerList : List NsTimerStruct
  /-- `ns_timer_state & NS_TIMER_RUNNING` -/
  nsTimerRunning : Bool
  nsTimerInitialized : Bool
  hal : Option (BitVec 16)
  control : TimerControl
  deriving DecidableEq, Repr

namespace CallbackTimers

/-- Before the first call. -/
def boot : CallbackTimers where
  nsTimerList := []
  nsTimerRunning := false
  nsTimerInitialized := false
  hal := none
  control := .main

/-- A write through the pointer to a timer, which is the only one with its id. -/
def update (s : CallbackTimers) (timerId : BitVec 8) (f : NsTimerStruct → NsTimerStruct) :
    CallbackTimers :=
  { s with nsTimerList := s.nsTimerList.map fun t => if t.nsTimerId = timerId then f t else t }

end CallbackTimers

/-! ## The HAL timer -/

/-- `platform_timer_start` -/
def platformTimerStart (slots : BitVec 16) (s : CallbackTimers) : CallbackTimers :=
  { s with hal := some slots }

/-- `platform_timer_disable` -/
def platformTimerDisable (s : CallbackTimers) : CallbackTimers := { s with hal := none }

/-- `platform_timer_get_remaining_slots`; `idle` is what it answers when no period is running. -/
def platformTimerGetRemainingSlots (idle : BitVec 16) (s : CallbackTimers) : BitVec 16 :=
  s.hal.getD idle

/-! ## Constants of the default build -/

/-- `COMPENSATION` -/
abbrev compensation : BitVec 16 := 0

/-- `COMPENSATION_TUNE` -/
abbrev compensationTune : BitVec 16 := 0

/-- Take the time spent in a function from the remaining slots, if that leaves any. -/
def compensate (time remainingSlots : BitVec 16) : BitVec 16 :=
  if time < remainingSlots then remainingSlots - time else remainingSlots

/-! ## Registration -/

/-- `ns_timer_get_pointer_to_timer_struct` -/
def nsTimerGetPointerToTimerStruct (timerId : BitVec 8) (s : CallbackTimers) :
    Option NsTimerStruct :=
  s.nsTimerList.find? (fun currentTimer => currentTimer.nsTimerId = timerId)

/-- `eventOS_callback_timer_register`; `newTimer` is the answer of the allocator, with what the
block contains at `slots`, which is not initialised. -/
def eventOSCallbackTimerRegister (timerInterruptHandler : Option FuncPtr)
    (newTimer : Option (BitVec 16)) (s : CallbackTimers) : CallbackTimers × ℤ :=
  match timerInterruptHandler with
  | none => (s, -1)
  | some handler =>
    let s := { s with nsTimerInitialized := true }
    match (List.range 128).find?
        (fun i => (nsTimerGetPointerToTimerStruct (BitVec.ofNat 8 i) s).isNone) with
    | none => (s, -1)
    | some i =>
      match newTimer with
      | none => (s, -1)
      | some slots =>
        let timer : NsTimerStruct :=
          { nsTimerId := BitVec.ofNat 8 i, timerState := .stop, slots := slots
            remainingSlots := 0, interruptHandler := handler }
        ({ s with nsTimerList := s.nsTimerList ++ [timer] }, i)

/-- `eventOS_callback_timer_unregister` -/
def eventOSCallbackTimerUnregister (nsTimerId : BitVec 8) (s : CallbackTimers) :
    CallbackTimers × ℤ :=
  match nsTimerGetPointerToTimerStruct nsTimerId s with
  | none => (s, -1)
  | some _ =>
    ({ s with nsTimerList := s.nsTimerList.eraseP fun t => t.nsTimerId = nsTimerId }, 0)

/-! ## Starting the HAL timer -/

/-- `ns_timer_start_pl_timer`: not with 0 slots. -/
def nsTimerStartPlTimer (plTimerStartSlots : BitVec 16) (s : CallbackTimers) : CallbackTimers :=
  let s := platformTimerStart (if plTimerStartSlots = 0 then 1 else plTimerStartSlots) s
  { s with nsTimerRunning := true }

/-- `ns_timer_sleep` -/
def nsTimerSleep (s : CallbackTimers) : CallbackTimers × ℤ :=
  if s.nsTimerRunning then ({ platformTimerDisable s with nsTimerRunning := false }, 0)
  else (s, -1)

/-- One turn of the loop that looks for the HOLD timer with the least remaining slots, and counts
the HOLD timers. -/
def findHold (found : Option NsTimerStruct × ℕ) (currentTimer : NsTimerStruct) :
    Option NsTimerStruct × ℕ :=
  if currentTimer.timerState = .hold then
    (match found.1 with
      | none => some currentTimer
      | some firstTimer =>
        if currentTimer.remainingSlots < firstTimer.remainingSlots then some currentTimer
        else some firstTimer,
      found.2 + 1)
  else found

/-- The loop that updates the other HOLD timers, with the slots of the first one; it ends when
`holdCount` of them were seen. -/
def updateHolds (firstSlots : BitVec 16) : ℕ → List NsTimerStruct → List NsTimerStruct
  | _, [] => []
  | holdCount, currentTimer :: rest =>
    if holdCount = 0 then currentTimer :: rest
    else if currentTimer.timerState = .hold then
      (if currentTimer.remainingSlots = firstSlots then { currentTimer with timerState := .active }
        else { currentTimer with
          remainingSlots := compensate compensation (currentTimer.remainingSlots - firstSlots) })
        :: updateHolds firstSlots (holdCount - 1) rest
    else currentTimer :: updateHolds firstSlots holdCount rest

/-- `ns_timer_get_next_running_to` -/
def nsTimerGetNextRunningTo (s : CallbackTimers) : CallbackTimers :=
  match s.nsTimerList.foldl findHold (none, 0) with
  | (none, _) => s
  | (some firstTimer, holdCount) =>
    let remainingSlots := compensate compensation firstTimer.remainingSlots
    let s := s.update firstTimer.nsTimerId fun t =>
      { t with timerState := .active, remainingSlots := remainingSlots }
    let s := nsTimerStartPlTimer remainingSlots s
    { s with nsTimerList := updateHolds remainingSlots (holdCount - 1) s.nsTimerList }

/-! ## Starting and stopping a timer -/

/-- One turn of the loop that counts the deadlines from the end of a period that is `shift` slots
shorter. -/
def rebase (shift : BitVec 16) (currentTimer : NsTimerStruct) : NsTimerStruct :=
  let t :=
    if currentTimer.timerState = .active then
      { currentTimer with timerState := .hold, remainingSlots := 0 }
    else currentTimer
  if t.timerState = .hold then
    { t with
      remainingSlots := compensate (compensation - compensationTune) (t.remainingSlots + shift) }
  else t

/-- `eventOS_callback_timer_start` -/
def eventOSCallbackTimerStart (idle : BitVec 16) (nsTimerId : BitVec 8) (slots : BitVec 16)
    (s : CallbackTimers) : CallbackTimers × ℤ :=
  match nsTimerGetPointerToTimerStruct nsTimerId s with
  | none => (s, -1)
  | some _ =>
    if s.nsTimerRunning then
      let plTimerRemainingSlots := platformTimerGetRemainingSlots idle s
      if slots < plTimerRemainingSlots then
        let s := nsTimerStartPlTimer (slots - 0) s
        let s := { s with
          nsTimerList := s.nsTimerList.map (rebase (plTimerRemainingSlots - slots)) }
        (s.update nsTimerId fun t =>
          { t with timerState := .active, slots := slots, remainingSlots := slots }, 0)
      else if plTimerRemainingSlots < slots then
        (s.update nsTimerId fun t =>
          { t with
            timerState := .hold, slots := slots
            remainingSlots := slots - plTimerRemainingSlots }, 0)
      else
        (s.update nsTimerId fun t =>
          { t with timerState := .active, slots := slots, remainingSlots := slots }, 0)
    else
      -- No timers running
      let s := s.update nsTimerId fun t =>
        { t with timerState := .hold, slots := slots, remainingSlots := slots }
      (nsTimerGetNextRunningTo s, 0)

/-- One turn of the loop that counts the remaining slots of a HOLD timer from now on. -/
def addRemaining (plTimerRemainingSlots : BitVec 16) (t : NsTimerStruct) : NsTimerStruct :=
  if t.timerState = .hold then
    { t with remainingSlots := t.remainingSlots + plTimerRemainingSlots }
  else t

/-- One turn of the loop that counts them from the end of the new period. -/
def reduceHold (firstSlots : BitVec 16) (t : NsTimerStruct) : NsTimerStruct :=
  if t.timerState = .hold then
    if t.remainingSlots = firstSlots then { t with timerState := .active }
    else { t with remainingSlots := t.remainingSlots - firstSlots }
  else t

/-- `eventOS_callback_timer_stop` -/
def eventOSCallbackTimerStop (idle : BitVec 16) (nsTimerId : BitVec 8) (s : CallbackTimers) :
    CallbackTimers × ℤ :=
  match nsTimerGetPointerToTimerStruct nsTimerId s with
  | none => (s, -1)
  | some currentTimer =>
    if currentTimer.timerState = .stop then (s, 0)
    else
      let s := s.update nsTimerId fun t => { t with timerState := .stop, remainingSlots := 0 }
      if s.nsTimerList.any (fun t => t.timerState = .active) then (s, 0)
      else
        -- If no active timers found, start one
        let plTimerRemainingSlots := platformTimerGetRemainingSlots idle s
        let s := { s with nsTimerList := s.nsTimerList.map (addRemaining plTimerRemainingSlots) }
        match (s.nsTimerList.foldl findHold (none, 0)).1 with
        | none => (s, 0)
        | some firstTimer =>
          let s := s.update firstTimer.nsTimerId fun t => { t with timerState := .active }
          let s := nsTimerStartPlTimer firstTimer.remainingSlots s
          ({ s with nsTimerList := s.nsTimerList.map (reduceHold firstTimer.remainingSlots) }, 0)

/-! ## The interrupt handler -/

/-- The next timer to call, from the position `pos` on, with its position. -/
def nextInterrupt (i : ℕ) : ℕ → List NsTimerStruct → Option (ℕ × NsTimerStruct)
  | _, [] => none
  | pos, currentTimer :: rest =>
    if i = 0 then none
    else if currentTimer.timerState = .runInterrupt then some (pos, currentTimer)
    else nextInterrupt i (pos + 1) rest

/-- The loop of `ns_timer_interrupt_handler` from a position on, up to the next call of a
handler. -/
def nsTimerCallInterrupts (next i : ℕ) (s : CallbackTimers) : CallbackTimers × Option TimerCall :=
  match nextInterrupt i next (s.nsTimerList.drop next) with
  | none => ({ s with control := .main }, none)
  | some (pos, timer) =>
    ({ s.update timer.nsTimerId fun t => { t with timerState := .stop } with
        control := .handler (pos + 1) i },
      some ⟨timer.interruptHandler, timer.nsTimerId, timer.slots⟩)

/-- `ns_timer_interrupt_handler` up to the first call of a handler. -/
def nsTimerInterruptHandler (s : CallbackTimers) : CallbackTimers × Option TimerCall :=
  let i := s.nsTimerList.countP fun t => t.timerState = .active
  let s := { s with
    nsTimerRunning := false
    nsTimerList := s.nsTimerList.map fun t =>
      if t.timerState = .active then { t with timerState := .runInterrupt } else t }
  nsTimerCallInterrupts 0 i (nsTimerGetNextRunningTo s)

/-! ## Operations -/

/-- An operation on the callback timers. -/
inductive CallbackOp where
  | register (timerInterruptHandler : Option FuncPtr) (newTimer : Option (BitVec 16))
  | unregister (nsTimerId : BitVec 8)
  | start (nsTimerId : BitVec 8) (slots : BitVec 16)
  | stop (nsTimerId : BitVec 8)
  | sleep
  /-- one slot passes -/
  | slot
  /-- the interrupt handler is entered -/
  | interrupt
  /-- the handler of a timer returns -/
  | handlerReturn
  deriving DecidableEq, Repr

/-- What an operation returns; `call` is a handler that is called. -/
inductive CallbackRet where
  | void
  | code (c : ℤ)
  | call (call : Option TimerCall)
  deriving DecidableEq, Repr

namespace CallbackTimers

/-- One slot of time passes. -/
def passSlot (s : CallbackTimers) : CallbackTimers :=
  match s.hal with
  | none => s
  | some slots =>
    if slots ≤ 1 then { s with hal := none, control := .expired }
    else { s with hal := some (slots - 1) }

/-- The rest of the loop when the handler of a timer returns. -/
def handlerReturn (s : CallbackTimers) : CallbackTimers × Option TimerCall :=
  match s.control with
  | .handler next i => nsTimerCallInterrupts next (i - 1) s
  | _ => (s, none)

/-- The effect of an operation; `idle` is what the HAL answers when no period is running. -/
def exec (idle : BitVec 16) : CallbackOp → CallbackTimers → CallbackTimers × CallbackRet
  | .register timerInterruptHandler newTimer, s =>
    let (s, c) := eventOSCallbackTimerRegister timerInterruptHandler newTimer s
    (s, .code c)
  | .unregister nsTimerId, s =>
    let (s, c) := eventOSCallbackTimerUnregister nsTimerId s
    (s, .code c)
  | .start nsTimerId slots, s =>
    let (s, c) := eventOSCallbackTimerStart idle nsTimerId slots s
    (s, .code c)
  | .stop nsTimerId, s =>
    let (s, c) := eventOSCallbackTimerStop idle nsTimerId s
    (s, .code c)
  | .sleep, s =>
    let (s, c) := nsTimerSleep s
    (s, .code c)
  | .slot, s => (s.passSlot, .void)
  | .interrupt, s =>
    let (s, call) := nsTimerInterruptHandler s
    (s, .call call)
  | .handlerReturn, s =>
    let (s, call) := s.handlerReturn
    (s, .call call)

/-- When an operation can come: the interrupt is handled before anything else, time passes in the
main program, and timers are not unregistered while the interrupt handler goes over the list. -/
def Allows (s : CallbackTimers) : CallbackOp → Prop
  | .register _ _ | .start _ _ | .stop _ | .sleep => s.control ≠ .expired
  | .unregister _ | .slot => s.control = .main
  | .interrupt => s.control = .expired
  | .handlerReturn => ∃ next i, s.control = .handler next i

end CallbackTimers

/-- One operation at a time at which it can come. -/
structure CallbackStep (s : CallbackTimers) (label : CallbackOp × CallbackRet)
    (s' : CallbackTimers) :
    Prop where
  allows : s.Allows label.1
  exec : ∃ idle, CallbackTimers.exec idle label.1 s = (s', label.2)

end EventLoop
