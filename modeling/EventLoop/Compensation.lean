import EventLoop.CallbackTimer

/-!
# The two builds of the callback timers

The functions of `ns_timer.c` that start a new period of the HAL timer for the HOLD timers, in both
builds: on an ATMEGA256RFR2 they take the time that is spent in them from the remaining slots. Their
subtractions on `uint16_t` are a parameter, so that the same text is read with the wrapping
subtraction of the sources and with one that gives up where it would underflow.
-/

namespace EventLoop

/-- The builds that `ns_timer.c` distinguishes. -/
inductive Build where
  | default
  | atmega256rfr2
  deriving DecidableEq, Repr

namespace Build

/-- `COMPENSATION` -/
def compensation : Build → BitVec 16
  | default => 0
  | atmega256rfr2 => 3

end Build

/-- `a - b` on `uint16_t`. -/
def subWrap (a b : BitVec 16) : Id (BitVec 16) := a - b

/-- `a - b` on `uint16_t`, unless it underflows. -/
def subChecked (a b : BitVec 16) : Option (BitVec 16) := if b ≤ a then some (a - b) else none

section

variable {m : Type → Type} [Monad m] (sub : BitVec 16 → BitVec 16 → m (BitVec 16))

namespace Build

/-- Take the time spent in a function from the remaining slots, if that leaves any. -/
def compensate (b : Build) (remainingSlots : BitVec 16) : m (BitVec 16) :=
  if b.compensation < remainingSlots then sub remainingSlots b.compensation
  else pure remainingSlots

/-- One turn of the loop that updates the other HOLD timers, with the slots of the first one. -/
def updateHold (b : Build) (firstSlots : BitVec 16) (currentTimer : NsTimerStruct) :
    m NsTimerStruct :=
  if currentTimer.remainingSlots = firstSlots then
    pure { currentTimer with timerState := .active }
  else do
    let remainingSlots ← sub currentTimer.remainingSlots firstSlots
    let remainingSlots ← b.compensate sub remainingSlots
    pure { currentTimer with remainingSlots := remainingSlots }

/-- The loop ends when `holdCount`, a `uint8_t`, has come to 0. -/
def updateHolds (b : Build) (firstSlots : BitVec 16) :
    BitVec 8 → List NsTimerStruct → m (List NsTimerStruct)
  | _, [] => pure []
  | holdCount, currentTimer :: rest =>
    if holdCount = 0 then pure (currentTimer :: rest)
    else if currentTimer.timerState = .hold then do
      let currentTimer ← b.updateHold sub firstSlots currentTimer
      let rest ← b.updateHolds firstSlots (holdCount - 1) rest
      pure (currentTimer :: rest)
    else do
      let rest ← b.updateHolds firstSlots holdCount rest
      pure (currentTimer :: rest)

/-- `ns_timer_get_next_running_to` -/
def nsTimerGetNextRunningTo (b : Build) (s : CallbackTimers) : m CallbackTimers :=
  match s.nsTimerList.foldl findHold (none, 0) with
  | (none, _) => pure s
  | (some firstTimer, holdCount) => do
    let remainingSlots ← b.compensate sub firstTimer.remainingSlots
    let s := s.update firstTimer.nsTimerId fun t =>
      { t with timerState := .active, remainingSlots := remainingSlots }
    let s := nsTimerStartPlTimer remainingSlots s
    let nsTimerList ←
      b.updateHolds sub remainingSlots (BitVec.ofNat 8 holdCount - 1) s.nsTimerList
    pure { s with nsTimerList := nsTimerList }

end Build

/-- One turn of the loop of `eventOS_callback_timer_stop` that counts the HOLD timers from the end
of the new period. -/
def reduceHoldWith (firstSlots : BitVec 16) (t : NsTimerStruct) : m NsTimerStruct :=
  if t.timerState = .hold then
    if t.remainingSlots = firstSlots then pure { t with timerState := .active }
    else do
      let remainingSlots ← sub t.remainingSlots firstSlots
      pure { t with remainingSlots := remainingSlots }
  else pure t

/-- `eventOS_callback_timer_stop`, the same in both builds. -/
def eventOSCallbackTimerStopWith (idle : BitVec 16) (nsTimerId : BitVec 8) (s : CallbackTimers) :
    m (CallbackTimers × ℤ) :=
  match nsTimerGetPointerToTimerStruct nsTimerId s with
  | none => pure (s, -1)
  | some currentTimer =>
    if currentTimer.timerState = .stop then pure (s, 0)
    else
      let s := s.update nsTimerId fun t => { t with timerState := .stop, remainingSlots := 0 }
      if s.nsTimerList.any (fun t => t.timerState = .active) then pure (s, 0)
      else
        let plTimerRemainingSlots := platformTimerGetRemainingSlots idle s
        let s := { s with nsTimerList := s.nsTimerList.map (addRemaining plTimerRemainingSlots) }
        match (s.nsTimerList.foldl findHold (none, 0)).1 with
        | none => pure (s, 0)
        | some firstTimer => do
          let s := s.update firstTimer.nsTimerId fun t => { t with timerState := .active }
          let s := nsTimerStartPlTimer firstTimer.remainingSlots s
          let nsTimerList ← s.nsTimerList.mapM (reduceHoldWith sub firstTimer.remainingSlots)
          pure ({ s with nsTimerList := nsTimerList }, 0)

end

end EventLoop
