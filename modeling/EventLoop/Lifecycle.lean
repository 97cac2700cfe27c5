import EventLoop.Api

/-!
# The life cycle of an event storage

Between the operations every storage of the event loop is in one place: a free list, the event
queue, the timer list, or running in a handler. This file describes the event loop as a machine
that moves storages between places (the state diagram of `eventOS_event.h`, with the places of
the timer system added). `Row` lists what moves the sources make, and `Move` adds the steps that
move no storage. That each operation is a sequence of these moves is proved in
`EventCoreTheorems`.
-/

namespace EventLoop

/-- Where a storage is. `outside` is memory that the event loop does not hold. -/
inductive Place where
  | free
  | queue
  | running
  | timerFree
  | timerList
  | outside
  deriving DecidableEq, Repr

/-- The `state` field that goes with a place. -/
@[simp] def Place.tag : Place → EventState
  | queue => .queued
  | running => .running
  | _ => .unqueued

/-- Which storages may be in a place. -/
def Place.Admits : Place → StorageClass → Prop
  | free, c => c = .pool
  | timerFree, c => c = .timer
  | timerList, c => c = .timer
  | running, c => c ≠ .foreign
  | _, _ => True

/-- Places whose storages hold an event. -/
def Place.Busy : Place → Prop
  | queue | timerList | running => True
  | _ => False

instance (A : Place) : Decidable A.Busy := by
  cases A <;> unfold Place.Busy <;> infer_instance

namespace State

/-- The storages in a place. A user-allocated event that runs belongs to its handler. -/
def at_ (s : State) : Place → List Ptr
  | .free => s.freeEventEntry
  | .queue => s.eventQueueActive
  | .running => s.running.filter (fun p => s.classOf p ≠ .foreign)
  | .timerFree => s.systemTimerFree
  | .timerList => s.systemTimerList
  | .outside => []

/-- In how many places a storage occurs, with multiplicity. -/
def total (s : State) (p : Ptr) : ℕ :=
  (s.at_ .free).count p + (s.at_ .queue).count p + (s.at_ .running).count p
    + (s.at_ .timerFree).count p + (s.at_ .timerList).count p

/-- Take a storage out of a place. -/
def leave (s : State) (p : Ptr) : Place → State
  | .free => { s with freeEventEntry := s.freeEventEntry.erase p }
  | .queue => { s with eventQueueActive := s.eventQueueActive.erase p }
  | .running => { s with running := s.running.erase p }
  | .timerFree => { s with systemTimerFree := s.systemTimerFree.erase p }
  | .timerList => { s with systemTimerList := s.systemTimerList.erase p }
  | .outside => s

/-- Put a storage into a place: the queue is ordered by priority and the timer list by launch
time, with a new entry after its equals. -/
def enter (s : State) (p : Ptr) : Place → State
  | .free => { s with freeEventEntry := p :: s.freeEventEntry }
  | .queue =>
    { s with
      eventQueueActive :=
        s.eventQueueActive.orderedInsert (fun a b => s.priority a < s.priority b) p }
  | .running => { s with running := p :: s.running }
  | .timerFree => { s with systemTimerFree := p :: s.systemTimerFree }
  | .timerList =>
    { s with
      systemTimerList :=
        s.systemTimerList.orderedInsert
          (fun a b => ticksBefore (s.mem a).launchTime (s.mem b).launchTime) p }
  | .outside => s

/-- Move `p` from `A` to `B`, leaving it with contents `v` and with `h` recorded for its block
of dynamic memory. -/
def move (s : State) (p : Ptr) (A B : Place) (v : SysTimerStruct) (h : Option HeapObject) :
    State :=
  enter
    { s.leave p A with mem := Function.update s.mem p v, heap := Function.update s.heap p h } p B

end State

/-- The contents of a storage with another `state`. -/
def SysTimerStruct.tagged (v : SysTimerStruct) (B : Place) : SysTimerStruct :=
  { v with event := { v.event with state := B.tag } }

/-- The moves of the event loop: `Row s p A B v h` when `p` goes from `A` to `B`. -/
inductive Row (s : State) : Ptr → Place → Place → SysTimerStruct → Option HeapObject → Prop
  /-- an event of the startup pool is filled and written to the queue -/
  | sendPool {p : Ptr} (data : ArmEvent) (hp : p ∈ s.freeEventEntry) :
      Row s p .free .queue
        { s.mem p with event := { s.event p with data := data, state := .queued } } (s.heap p)
  /-- an event is allocated, filled and written to the queue -/
  | sendDynamic {p : Ptr} (data : ArmEvent) (fresh : Fresh s p) :
      Row s p .outside .queue
        { s.mem p with event := { data := data, allocator := .dynamic, state := .queued } }
        (some .event)
  /-- a user-allocated event is written to the queue -/
  | sendUser {p : Ptr} (v : SysTimerStruct) (isHeap : ∃ a, p = .heap a) (hheap : s.heap p = none)
      (hq : p ∉ s.eventQueueActive) (halloc : v.event.allocator = .user)
      (hstate : v.event.state = .queued) : Row s p .outside .queue v none
  /-- a block is allocated for a timer -/
  | grow {p : Ptr} (v : SysTimerStruct) (fresh : Fresh s p) (hstate : v.event.state = .unqueued) :
      Row s p .outside .timerFree v (some .sysTimer)
  /-- a timer is filled and written to the queue at once -/
  | fire {p : Ptr} (v : SysTimerStruct) (hp : p ∈ s.systemTimerFree)
      (halloc : v.event.allocator = .timer) (hstate : v.event.state = .queued) :
      Row s p .timerFree .queue v (s.heap p)
  /-- a timer is filled and put on the timer list -/
  | arm {p : Ptr} (v : SysTimerStruct) (hp : p ∈ s.systemTimerFree)
      (halloc : v.event.allocator = .timer) (hstate : v.event.state = .unqueued)
      (hdue : ¬ ticksBeforeOrAt v.launchTime s.timerSysTicks) :
      Row s p .timerFree .timerList v (s.heap p)
  /-- the first timer of the list is due and is written to the queue -/
  | expire {p : Ptr} {rest : List Ptr} (hp : s.systemTimerList = p :: rest)
      (hdue : ticksBeforeOrAt (s.mem p).launchTime s.timerSysTicks) :
      Row s p .timerList .queue ((s.mem p).tagged .queue) (s.heap p)
  /-- the first event of the queue is handed to its handler -/
  | deliver {p : Ptr} {rest : List Ptr} (hp : s.eventQueueActive = p :: rest) :
      Row s p .queue .running ((s.mem p).tagged .running) (s.heap p)
  | finishPool {p : Ptr} {rest : List Ptr} (hp : s.running = p :: rest)
      (hclass : s.classOf p = .pool) :
      Row s p .running .free ((s.mem p).tagged .free) (s.heap p)
  | finishDynamic {p : Ptr} {rest : List Ptr} (hp : s.running = p :: rest)
      (hclass : s.classOf p = .dynamic) : Row s p .running .outside (s.mem p) none
  | finishUser {p : Ptr} {rest : List Ptr} (hp : s.running = p :: rest)
      (hclass : s.classOf p = .foreign) : Row s p .running .outside (s.mem p) (s.heap p)
  | finishOneShot {p : Ptr} {rest : List Ptr} (hp : s.running = p :: rest)
      (hclass : s.classOf p = .timer) (hperiod : (s.mem p).period = 0) :
      Row s p .running .timerFree ((s.mem p).tagged .timerFree) (s.heap p)
  /-- a periodic timer whose next launch time has passed is written to the queue again -/
  | requeue {p : Ptr} {rest : List Ptr} (hp : s.running = p :: rest)
      (hclass : s.classOf p = .timer) (hperiod : (s.mem p).period ≠ 0)
      (hdue : ticksBeforeOrAt ((s.mem p).launchTime + (s.mem p).period) s.timerSysTicks) :
      Row s p .running .queue
        { (s.mem p).tagged .queue with launchTime := (s.mem p).launchTime + (s.mem p).period }
        (s.heap p)
  /-- a periodic timer goes back on the timer list -/
  | rearm {p : Ptr} {rest : List Ptr} (hp : s.running = p :: rest)
      (hclass : s.classOf p = .timer) (hperiod : (s.mem p).period ≠ 0)
      (hdue : ¬ ticksBeforeOrAt ((s.mem p).launchTime + (s.mem p).period) s.timerSysTicks) :
      Row s p .running .timerList
        { (s.mem p).tagged .timerList with
          launchTime := (s.mem p).launchTime + (s.mem p).period } (s.heap p)
  | cancelPool {p : Ptr} (hp : p ∈ s.eventQueueActive) (hclass : s.classOf p = .pool) :
      Row s p .queue .free ((s.mem p).tagged .free) (s.heap p)
  | cancelDynamic {p : Ptr} (hp : p ∈ s.eventQueueActive) (hclass : s.classOf p = .dynamic) :
      Row s p .queue .outside (s.mem p) none
  | cancelUser {p : Ptr} (hp : p ∈ s.eventQueueActive) (hclass : s.classOf p = .foreign) :
      Row s p .queue .outside (s.mem p) (s.heap p)
  | cancelQueued {p : Ptr} (hp : p ∈ s.eventQueueActive) (hclass : s.classOf p = .timer) :
      Row s p .queue .timerFree { (s.mem p).tagged .timerFree with period := 0 } (s.heap p)
  | cancelWaiting {p : Ptr} (hp : p ∈ s.systemTimerList) :
      Row s p .timerList .timerFree { (s.mem p).tagged .timerFree with period := 0 } (s.heap p)

/-- What a step of the life cycle does. -/
inductive Act where
  | relocate (p : Ptr) (A B : Place) (v : SysTimerStruct)
  | clock (ticks : BitVec 32)
  | register (tasklet : ArmCoreTasklet) (block : Ptr)
  /-- a running timer event is cancelled: it will not be periodic any more -/
  | unperiod (p : Ptr)
  | write (p : Ptr) (data : ArmEvent)
  | active (tasklet : BitVec 8)
  | clientAlloc (block : Ptr)
  | clientFree (block : Ptr)
  deriving DecidableEq, Repr

/-- The steps of the life cycle. -/
inductive Move (s : State) : Act → State → Prop
  | relocate {p : Ptr} {A B : Place} {v : SysTimerStruct} {h : Option HeapObject}
      (row : Row s p A B v h) : Move s (.relocate p A B v) (s.move p A B v h)
  | clock (ticks : BitVec 32) :
      Move s (.clock ticks) { s with timerSysTicks := s.timerSysTicks + ticks }
  | register (tasklet : ArmCoreTasklet) {block : Ptr} (fresh : Fresh s block)
      (hid : tasklet.id = taskletGetFreeId s)
      (hfun : ∀ t ∈ s.armCoreTaskletList, t.funcPtr ≠ tasklet.funcPtr) :
      Move s (.register tasklet block)
        { s with
          armCoreTaskletList := s.armCoreTaskletList ++ [tasklet]
          heap := Function.update s.heap block (some .tasklet) }
  | unperiod {p : Ptr} (hp : p ∈ s.running) (hclass : s.classOf p = .timer) :
      Move s (.unperiod p) (s.setPeriod p 0)
  | write {p : Ptr} {rest : List Ptr} (data : ArmEvent) (hp : s.running = p :: rest)
      (hq : p ∉ s.eventQueueActive) : Move s (.write p data) (s.setData p data)
  | active (tasklet : BitVec 8) : Move s (.active tasklet) { s with currTasklet := tasklet }
  | clientAlloc {block : Ptr} (fresh : Fresh s block) :
      Move s (.clientAlloc block)
        { s with heap := Function.update s.heap block (some .timeout) }
  | clientFree {block : Ptr} (hblock : s.heap block = some .timeout) :
      Move s (.clientFree block) { s with heap := Function.update s.heap block none }

end EventLoop
