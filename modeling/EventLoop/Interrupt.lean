import EventLoop.Receivers

/-!
# Dispatch under interrupts

The main loop of `eventOS_scheduler_dispatch_event` at the grain at which interrupts can come in: a
step is one critical section, or one statement outside of them. Between any two steps an interrupt
may update the ticks or cancel a periodic timer event; each of these calls is one critical section.
-/

namespace EventLoop

/-- The next step of the main loop. -/
inductive DispatchPoint where
  /-- `curr_tasklet = 0` -/
  | start
  /-- `event_core_read` -/
  | read
  /-- `curr_tasklet = cur_event->data.receiver` -/
  | receive (curEvent : Ptr)
  /-- `event_tasklet_handler_get` -/
  | lookup (curEvent : Ptr)
  /-- the call of the handler, which makes no calls of its own -/
  | call (curEvent : Ptr) (tasklet : ArmCoreTasklet)
  /-- `event_core_free_push`, up to its first statement -/
  | push (curEvent : Ptr)
  /-- the critical section of `event_core_free_push` for the startup pool -/
  | pushPool (curEvent : Ptr)
  /-- `timer_sys_event_free`, called by `event_core_free_push` -/
  | pushTimer (curEvent : Ptr)
  /-- `curr_tasklet = 0` -/
  | finish
  deriving DecidableEq, Repr

/-- The event that the main loop has taken from the queue and not given back. -/
def DispatchPoint.held : DispatchPoint → Option Ptr
  | receive p | lookup p | call p _ | push p | pushPool p | pushTimer p => some p
  | _ => none

/-- The event that the main loop holds and has marked as unqueued. -/
def DispatchPoint.unmarked : DispatchPoint → Option Ptr
  | pushPool p | pushTimer p => some p
  | _ => none

/-- The event loop with the main loop at some point of a dispatch. -/
structure Machine where
  core : State
  point : DispatchPoint

/-- A step of the main loop, or a call in an interrupt. -/
inductive MachineOp where
  | main
  | tickUpdate (ticks : BitVec 32)
  | cancel (event : Ptr)
  deriving DecidableEq, Repr

namespace Machine

/-- The main loop between two dispatches. -/
def idle (s : State) : Machine where
  core := s
  point := .start

/-- A timer event that is periodic and was not cancelled. -/
def LivePeriodic (s : State) (p : Ptr) : Prop :=
  s.classOf p = .timer ∧ (s.mem p).period ≠ 0 ∧ Pending s p

/-- Interrupts cancel live periodic timer events only, so each of them once. -/
def Valid (m : Machine) : MachineOp → Prop
  | .cancel p => LivePeriodic m.core p
  | _ => True

/-- The event is cancelled between `free->state = ARM_LIB_EVENT_UNQUEUED` in `event_core_free_push`
and the critical section of `timer_sys_event_free`. -/
def InWindow (m : Machine) (op : MachineOp) : Prop :=
  ∃ p, op = .cancel p ∧ m.point = .pushTimer p

instance (s : State) (p : Ptr) : Decidable (Pending s p) :=
  inferInstanceAs (Decidable (_ ∨ _ ∨ _))

instance (m : Machine) (op : MachineOp) : Decidable (m.Valid op) := by
  cases op <;> unfold Valid LivePeriodic <;> infer_instance

instance (m : Machine) (op : MachineOp) : Decidable (m.InWindow op) :=
  match op with
  | .cancel p => decidable_of_iff (m.point = .pushTimer p) (by simp [InWindow])
  | .main => isFalse (by simp [InWindow])
  | .tickUpdate _ => isFalse (by simp [InWindow])

variable [NsList]

/-- One step of the main loop, with the event it takes from the queue. -/
def main (m : Machine) : Except Fault (Machine × Option Ptr) :=
  let s := m.core
  match m.point with
  | .start => .ok ({ core := { s with currTasklet := 0 }, point := .read }, none)
  | .read => do
    let (s, curEvent) ← eventCoreRead s
    match curEvent with
    | none => .ok ({ core := s, point := .start }, none)
    | some curEvent =>
      .ok ({ core := { s with running := curEvent :: s.running }, point := .receive curEvent },
        some curEvent)
  | .receive curEvent =>
    .ok ({ core := { s with currTasklet := (s.event curEvent).data.receiver }
           point := .lookup curEvent }, none)
  | .lookup curEvent =>
    match eventTaskletHandlerGet s.currTasklet s with
    | none => .error .noTasklet
    | some tasklet => .ok ({ core := s, point := .call curEvent tasklet }, none)
  | .call curEvent _ => .ok ({ core := s, point := .push curEvent }, none)
  | .push curEvent =>
    match (s.event curEvent).allocator with
    | .startupPool =>
      .ok ({ core := s.setState curEvent .unqueued, point := .pushPool curEvent }, none)
    | .dynamic => do
      let s ← nsDynMemFree curEvent { s with running := s.running.tail }
      .ok ({ core := s, point := .finish }, none)
    | .timer =>
      .ok ({ core := s.setState curEvent .unqueued, point := .pushTimer curEvent }, none)
    | .user | .other _ =>
      .ok ({ core := { s with running := s.running.tail }, point := .finish }, none)
  | .pushPool curEvent =>
    .ok ({ core := { s with
             freeEventEntry := NsList.addToStart s.freeEventEntry curEvent
             running := s.running.tail }
           point := .finish }, none)
  | .pushTimer curEvent =>
    .ok ({ core := timerSysEventFree curEvent { s with running := s.running.tail }
           point := .finish }, none)
  | .finish => .ok ({ core := { s with currTasklet := 0 }, point := .start }, none)

/-- A step of the main loop or an interrupt, with the event that was taken from the queue. -/
def exec (m : Machine) : MachineOp → Except Fault (Machine × Option Ptr)
  | .main => m.main
  | .tickUpdate ticks => do
    let s ← systemTimerTickUpdate ticks m.core
    .ok ({ m with core := s }, none)
  | .cancel event => do
    let s ← eventOSCancel (some event) m.core
    .ok ({ m with core := s }, none)

/-- A valid step outside the window that runs into no undefined behaviour. -/
structure Step (m : Machine) (label : MachineOp × Option Ptr) (m' : Machine) : Prop where
  valid : m.Valid label.1
  calm : ¬ m.InWindow label.1
  exec : m.exec label.1 = .ok (m', label.2)

end Machine

end EventLoop
