import EventLoop.NsList
import Mathlib.Logic.Function.Basic

/-!
# Data model of the event loop

The structures of `eventOS_event.h`, `timer_sys.h` and `event.c`, and the static variables of
`event.c` and `system_timer.c` gathered in one `State`.

* A `sys_timer_struct_s` begins with its `arm_event_storage_t`, so a pointer to the one is a
  pointer to the other (`NS_CONTAINER_OF` with offset 0). `State.mem` holds a `SysTimerStruct`
  at every address; the last two fields of a plain event storage are never read.
* `int8_t`, `uint8_t` and `uint32_t` are bit vectors: `toInt` reads them signed, `toNat`
  unsigned, and a conversion between the two keeps the bits.
* What C leaves undefined is a `Fault`.
-/

namespace EventLoop

/-- `STARTUP_EVENT_POOL_SIZE` -/
abbrev startupEventPoolSize : ℕ := 10

/-- `ST_MAX`, the size of `startup_sys_timer_pool`. -/
abbrev stMax : ℕ := 6

/-- Addresses of event storages: an element of one of the two static pools, or any other
memory (the dynamic memory and what the application allocates itself). -/
inductive Ptr where
  | startupEventPool (i : Fin startupEventPoolSize)
  | startupSysTimerPool (i : Fin stMax)
  | heap (a : ℕ)
  deriving DecidableEq, Repr

/-- A function pointer `void (*)(arm_event_s *)`. -/
abbrev FuncPtr := ℕ

/-- `arm_library_event_priority_e` -/
inductive EventPriority where
  | high
  | med
  | low
  deriving DecidableEq, Repr

/-- The value of the enumerator, which the queue compares. -/
def EventPriority.toNat : EventPriority → ℕ
  | high => 0
  | med => 1
  | low => 2

/-- `arm_event_s` -/
structure ArmEvent where
  receiver : BitVec 8
  sender : BitVec 8
  eventType : BitVec 8
  eventId : BitVec 8
  dataPtr : Option Ptr
  priority : EventPriority
  eventData : ℕ
  deriving DecidableEq, Repr

/-- The `allocator` field of `arm_event_storage`. Memory that holds something else can read as none
of the enumerators. -/
inductive Allocator where
  | startupPool
  | dynamic
  | user
  | timer
  | other (value : ℕ)
  deriving DecidableEq, Repr

/-- The `state` field of `arm_event_storage`. -/
inductive EventState where
  | unqueued
  | queued
  | running
  deriving DecidableEq, Repr

/-- `arm_event_storage_t`; the link is not modelled, a list is the sequence of its entries. -/
structure ArmEventStorage where
  data : ArmEvent
  allocator : Allocator
  state : EventState
  deriving DecidableEq, Repr

/-- `sys_timer_struct_s` -/
structure SysTimerStruct where
  event : ArmEventStorage
  launchTime : BitVec 32
  period : BitVec 32
  deriving DecidableEq, Repr

/-- A zero-initialised `sys_timer_struct_s`, as the static pools are at start. -/
def SysTimerStruct.zero : SysTimerStruct where
  event :=
    { data :=
        { receiver := 0, sender := 0, eventType := 0, eventId := 0, dataPtr := none
          priority := .high, eventData := 0 }
      allocator := .startupPool
      state := .unqueued }
  launchTime := 0
  period := 0

/-- `arm_core_tasklet_t` -/
structure ArmCoreTasklet where
  id : BitVec 8
  funcPtr : FuncPtr
  deriving DecidableEq, Repr

/-- What a block of dynamic memory was allocated for. -/
inductive HeapObject where
  | event
  | sysTimer
  | tasklet
  | timeout
  deriving DecidableEq, Repr

/-- Undefined behaviour that the code could run into. -/
inductive Fault where
  /-- `ns_list_remove` of an entry that is not on the list -/
  | notOnList
  /-- `ns_dyn_mem_free` of a block that is not allocated -/
  | notAllocated
  /-- the tasklet looked up for an event is `NULL` -/
  | noTasklet
  /-- a failed `assert` -/
  | assertion
  /-- access through a null pointer or to a `timeout_t` that is not allocated -/
  | dangling
  deriving DecidableEq, Repr

/-- The static variables of `event.c` and `system_timer.c`, the storages, and the blocks of
dynamic memory in use. `running` is the `cur_event` of every dispatch in progress, the
innermost first. -/
@[ext]
structure State where
  mem : Ptr → SysTimerStruct
  heap : Ptr → Option HeapObject
  armCoreTaskletList : List ArmCoreTasklet
  eventQueueActive : List Ptr
  freeEventEntry : List Ptr
  systemTimerFree : List Ptr
  systemTimerList : List Ptr
  timerSysTicks : BitVec 32
  currTasklet : BitVec 8
  running : List Ptr

namespace State

/-- The event at an address. -/
abbrev event (s : State) (p : Ptr) : ArmEventStorage := (s.mem p).event

/-- The numerical priority of the event at an address. -/
def priority (s : State) (p : Ptr) : ℕ := (s.event p).data.priority.toNat

/-- Write a whole structure. -/
def store (s : State) (p : Ptr) (v : SysTimerStruct) : State :=
  { s with mem := Function.update s.mem p v }

/-- Write the `data` of an event. -/
def setData (s : State) (p : Ptr) (data : ArmEvent) : State :=
  s.store p { s.mem p with event := { s.event p with data := data } }

/-- Write the `allocator` of an event. -/
def setAllocator (s : State) (p : Ptr) (allocator : Allocator) : State :=
  s.store p { s.mem p with event := { s.event p with allocator := allocator } }

/-- Write the `state` of an event. -/
def setState (s : State) (p : Ptr) (state : EventState) : State :=
  s.store p { s.mem p with event := { s.event p with state := state } }

/-- Write the `launch_time` of a timer. -/
def setLaunchTime (s : State) (p : Ptr) (launchTime : BitVec 32) : State :=
  s.store p { s.mem p with launchTime := launchTime }

/-- Write the `period` of a timer. -/
def setPeriod (s : State) (p : Ptr) (period : BitVec 32) : State :=
  s.store p { s.mem p with period := period }

end State

end EventLoop
