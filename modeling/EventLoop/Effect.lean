import EventLoop.Lifecycle

/-!
# What each operation does to the life cycle

`Effect s op ret acts`: called in `s`, the operation `op` may hand back `ret` after the moves
`acts`. The moves of a cancel, a completion and a tick update are functions of the state; the
others depend on what the allocator answers.
-/

namespace EventLoop

/-! ## Where storages come from -/

/-- Where `event_core_get` finds an event: the first of the free list, or what is allocated. -/
def eventSource (s : State) (answer : Option Ptr) : Option (Ptr × Place × Allocator) :=
  match s.freeEventEntry with
  | p :: _ => some (p, .free, .startupPool)
  | [] => answer.map fun p => (p, .outside, .dynamic)

/-- The contents of an event that is filled and written to the queue. -/
def written (s : State) (p : Ptr) (data : ArmEvent) (allocator : Allocator) : SysTimerStruct :=
  { s.mem p with event := { data := data, allocator := allocator, state := .queued } }

/-- The init event of a new tasklet. -/
def initEvent (id initEventType : BitVec 8) : ArmEvent where
  receiver := id
  sender := 0
  eventType := initEventType
  eventId := 0
  dataPtr := none
  priority := .low
  eventData := 0

/-- Where `timer_struct_get` finds a timer: the first of the free list, or what is allocated. -/
def timerSource (s : State) (answer : Option Ptr) : Option Ptr :=
  match s.systemTimerFree with
  | p :: _ => some p
  | [] => answer

/-- The contents that a request gives to a timer which it puts in `B`. -/
def requested (event : ArmEvent) (at_ period : BitVec 32) (B : Place) : SysTimerStruct where
  event := { data := event, allocator := .timer, state := B.tag }
  launchTime := at_
  period := period

/-- A timer that has to be allocated goes through the free list. -/
def growActs (s : State) (p : Ptr) (v : SysTimerStruct) : List Act :=
  match s.systemTimerFree with
  | _ :: _ => []
  | [] => [.relocate p .outside .timerFree (v.tagged .timerFree)]

/-- `eventOS_event_timer_request_at_`: what it returns and the moves it makes. -/
inductive Requested (s : State) (event : ArmEvent) (at_ period : BitVec 32)
    (answer : Option Ptr) : Option Ptr → List Act → Prop
  | unknown (hreceiver : eventTaskletHandlerGet event.receiver s = none) :
      Requested s event at_ period answer none []
  | full (hsource : timerSource s answer = none) : Requested s event at_ period answer none []
  | fire {p : Ptr} (hreceiver : (eventTaskletHandlerGet event.receiver s).isSome)
      (hsource : timerSource s answer = some p) (hdue : ticksBeforeOrAt at_ s.timerSysTicks) :
      Requested s event at_ period answer (some p)
        (growActs s p (requested event at_ period .queue) ++
          [.relocate p .timerFree .queue (requested event at_ period .queue)])
  | arm {p : Ptr} (hreceiver : (eventTaskletHandlerGet event.receiver s).isSome)
      (hsource : timerSource s answer = some p) (hdue : ¬ ticksBeforeOrAt at_ s.timerSysTicks) :
      Requested s event at_ period answer (some p)
        (growActs s p (requested event at_ period .timerList) ++
          [.relocate p .timerFree .timerList (requested event at_ period .timerList)])

/-! ## Moves that the state decides -/

/-- The timers that a tick update finds due. -/
def State.due (s : State) : List Ptr :=
  s.systemTimerList.takeWhile fun p => ticksBeforeOrAt (s.mem p).launchTime s.timerSysTicks

/-- The loop of `system_timer_tick_update`. -/
def expireActs (s : State) : List Act :=
  s.due.map fun p => .relocate p .timerList .queue ((s.mem p).tagged .queue)

/-- A timer with its launch time moved on by one period. -/
def SysTimerStruct.advanced (v : SysTimerStruct) (B : Place) : SysTimerStruct :=
  { v.tagged B with launchTime := v.launchTime + v.period }

/-- `event_core_free_push` of the event whose handler has returned. -/
def finishAct (s : State) (p : Ptr) : Act :=
  match s.classOf p with
  | .pool => .relocate p .running .free ((s.mem p).tagged .free)
  | .dynamic => .relocate p .running .outside (s.mem p)
  | .foreign => .relocate p .running .outside (s.mem p)
  | .timer =>
    if (s.mem p).period = 0 then
      .relocate p .running .timerFree ((s.mem p).tagged .timerFree)
    else if ticksBeforeOrAt ((s.mem p).launchTime + (s.mem p).period) s.timerSysTicks then
      .relocate p .running .queue ((s.mem p).advanced .queue)
    else .relocate p .running .timerList ((s.mem p).advanced .timerList)

/-- A timer that is given back and will not be periodic any more. -/
def SysTimerStruct.cancelled (v : SysTimerStruct) : SysTimerStruct :=
  { v.tagged .timerFree with period := 0 }

/-- `eventOS_cancel` of a queued event, a waiting timer or a running event. -/
def cancelActs (s : State) (p : Ptr) : List Act :=
  if p ∈ s.eventQueueActive then
    match s.classOf p with
    | .pool => [.relocate p .queue .free ((s.mem p).tagged .free)]
    | .dynamic => [.relocate p .queue .outside (s.mem p)]
    | .foreign => [.relocate p .queue .outside (s.mem p)]
    | .timer => [.relocate p .queue .timerFree (s.mem p).cancelled]
  else if p ∈ s.systemTimerList then
    [.relocate p .timerList .timerFree (s.mem p).cancelled]
  else if s.classOf p = .timer then [.unperiod p]
  else []

/-- The event that `eventOS_event_timer_cancel` finds and may cancel. -/
def timerCancelTarget (s : State) (eventId taskletId : BitVec 8) : Option Ptr :=
  match s.systemTimerList.find? (fun cur =>
      (s.event cur).data.receiver = taskletId ∧ (s.event cur).data.eventId = eventId) with
  | some cur => some cur
  | none =>
    (eventOSEventFindByIdCritical taskletId eventId s).filter fun event =>
      (s.event event).allocator = .timer

/-! ## The effect of an operation -/

/-- The event of the legacy timer request. -/
def legacyEvent (eventId eventType taskletId : BitVec 8) : ArmEvent where
  receiver := taskletId
  sender := 0
  eventType := eventType
  eventId := eventId
  dataPtr := none
  priority := .med
  eventData := 0

/-- The contents of a storage that was sent by its owner. -/
def sent (contents : SysTimerStruct) (allocator : Allocator) : SysTimerStruct :=
  { contents with
    event := { contents.event with allocator := allocator, state := .queued } }

/-- What an operation hands back and the moves it makes. -/
inductive Effect (s : State) : Op → Ret → List Act → Prop
  | handlerCreate {handlerFuncPtr : FuncPtr} {initEventType : BitVec 8}
      {block : Ptr} {newEvent : Option Ptr} {p : Ptr} {A : Place} {allocator : Allocator}
      (hfun : ∀ t ∈ s.armCoreTaskletList, t.funcPtr ≠ handlerFuncPtr)
      (hsource : eventSource s newEvent = some (p, A, allocator)) :
      Effect s (.handlerCreate handlerFuncPtr initEventType (some block) newEvent)
        (.code (taskletGetFreeId s).toInt)
        [.register { id := taskletGetFreeId s, funcPtr := handlerFuncPtr } block,
          .relocate p A .queue
            (written s p (initEvent (taskletGetFreeId s) initEventType) allocator)]
  | handlerCreateDuplicate {handlerFuncPtr : FuncPtr} {initEventType : BitVec 8}
      {newTasklet newEvent : Option Ptr} {t : ArmCoreTasklet} (ht : t ∈ s.armCoreTaskletList)
      (hfun : t.funcPtr = handlerFuncPtr) :
      Effect s (.handlerCreate handlerFuncPtr initEventType newTasklet newEvent) (.code (-1)) []
  | handlerCreateFull {handlerFuncPtr : FuncPtr} {initEventType : BitVec 8}
      {newTasklet newEvent : Option Ptr}
      (hfull : newTasklet = none ∨ eventSource s newEvent = none) :
      Effect s (.handlerCreate handlerFuncPtr initEventType newTasklet newEvent) (.code (-2)) []
  | send {event : ArmEvent} {answer : Option Ptr} {p : Ptr} {A : Place} {allocator : Allocator}
      (hreceiver : (eventTaskletHandlerGet event.receiver s).isSome)
      (hsource : eventSource s answer = some (p, A, allocator)) :
      Effect s (.send event answer) (.code 0)
        [.relocate p A .queue (written s p event allocator)]
  | sendFail {event : ArmEvent} {answer : Option Ptr}
      (hfail : eventTaskletHandlerGet event.receiver s = none ∨ eventSource s answer = none) :
      Effect s (.send event answer) (.code (-1)) []
  | sendUserAllocated (event : Ptr) (contents : SysTimerStruct) :
      Effect s (.sendUserAllocated event contents) .void
        [.relocate event .outside .queue (sent contents .user)]
  | sendTimerAllocated (event : Ptr) (contents : SysTimerStruct) :
      Effect s (.sendTimerAllocated event contents) .void
        [.relocate event .outside .timerFree ((sent contents .timer).tagged .timerFree),
          .relocate event .timerFree .queue (sent contents .timer)]
  | requestAt {event : ArmEvent} {at_ : BitVec 32} {answer r : Option Ptr} {acts : List Act}
      (h : Requested s event at_ 0 answer r acts) :
      Effect s (.requestAt event at_ answer) (.handle r) acts
  | requestIn {event : ArmEvent} {in_ : BitVec 32} {answer r : Option Ptr} {acts : List Act}
      (h : Requested s event (s.timerSysTicks + in_) 0 answer r acts) :
      Effect s (.requestIn event in_ answer) (.handle r) acts
  | requestEvery {event : ArmEvent} {period : BitVec 32} {answer r : Option Ptr}
      {acts : List Act} (hperiod : 0 < period.toInt)
      (h : Requested s event (s.timerSysTicks + period) period answer r acts) :
      Effect s (.requestEvery event period answer) (.handle r) acts
  | requestEveryFail {event : ArmEvent} {period : BitVec 32} {answer : Option Ptr}
      (hperiod : period.toInt ≤ 0) :
      Effect s (.requestEvery event period answer) (.handle none) []
  | request {eventId eventType taskletId : BitVec 8} {time : BitVec 32}
      {answer r : Option Ptr} {acts : List Act}
      (h : Requested s (legacyEvent eventId eventType taskletId)
        (s.timerSysTicks + legacyTicks time) 0 answer r acts) :
      Effect s (.request eventId eventType taskletId time answer)
        (.code (if r.isSome then 0 else -1)) acts
  | timerCancel {eventId taskletId : BitVec 8} {p : Ptr}
      (hp : timerCancelTarget s eventId taskletId = some p) :
      Effect s (.timerCancel eventId taskletId) (.code 0) (cancelActs s p)
  | timerCancelFail {eventId taskletId : BitVec 8}
      (hp : timerCancelTarget s eventId taskletId = none) :
      Effect s (.timerCancel eventId taskletId) (.code (-1)) []
  | cancel (p : Ptr) : Effect s (.cancel (some p)) .void (cancelActs s p)
  | cancelNull : Effect s (.cancel none) .void []
  | tickUpdate (ticks : BitVec 32) :
      Effect s (.tickUpdate ticks) .void
        (.clock ticks :: expireActs { s with timerSysTicks := s.timerSysTicks + ticks })
  | synchAfterSleep (sleepTicks : BitVec 32) (wakeup : ℤ) :
      Effect s (.synchAfterSleep sleepTicks wakeup) (.code (if wakeup = 0 then 0 else -1))
        (.clock (sleepTicks / 10 + 1) ::
          expireActs { s with timerSysTicks := s.timerSysTicks + (sleepTicks / 10 + 1) })
  | setActiveTasklet (tasklet : BitVec 8) :
      Effect s (.setActiveTasklet tasklet) .void [.active tasklet]
  | dispatchIdle (hqueue : s.eventQueueActive = []) :
      Effect s .dispatch (.call none) [.active 0]
  | dispatch {p : Ptr} {rest : List Ptr} {tasklet : ArmCoreTasklet}
      (hqueue : s.eventQueueActive = p :: rest)
      (htasklet : eventTaskletHandlerGet (s.event p).data.receiver s = some tasklet) :
      Effect s .dispatch (.call (some (p, tasklet)))
        [.relocate p .queue .running ((s.mem p).tagged .running),
          .active (s.event p).data.receiver]
  | handlerReturn {p : Ptr} {rest : List Ptr} (hrun : s.running = p :: rest) :
      Effect s .handlerReturn .void [finishAct s p, .active 0]
  | handlerWrite {p : Ptr} {rest : List Ptr} (data : ArmEvent) (hrun : s.running = p :: rest) :
      Effect s (.handlerWrite data) .void [.write p data]
  | clientAlloc (block : Ptr) :
      Effect s (.clientAlloc (some block)) (.handle (some block)) [.clientAlloc block]
  | clientAllocFail : Effect s (.clientAlloc none) (.handle none) []
  | clientFree (block : Ptr) : Effect s (.clientFree block) .void [.clientFree block]

/-! ## The moves of an operation, all at once -/

lemma growActs_forall {Q : Act → Prop} (hgrow : ∀ p v, Q (.relocate p .outside .timerFree v))
    (s : State) (p : Ptr) (v : SysTimerStruct) : ∀ act ∈ growActs s p v, Q act := by
  intro act hact
  unfold growActs at hact
  split at hact
  · simp at hact
  · obtain rfl := List.mem_singleton.mp hact
    exact hgrow _ _

lemma Requested.forall_acts {s : State} {event : ArmEvent} {at_ period : BitVec 32}
    {answer r : Option Ptr} {acts : List Act} (h : Requested s event at_ period answer r acts)
    {Q : Act → Prop} (hgrow : ∀ p v, Q (.relocate p .outside .timerFree v))
    (hfill : (eventTaskletHandlerGet event.receiver s).isSome → ∀ p B, B = .queue ∨ B = .timerList →
      Q (.relocate p .timerFree B (requested event at_ period B))) : ∀ act ∈ acts, Q act := by
  cases h with
  | unknown | full => simp
  | fire hreceiver =>
    intro act hact
    rcases List.mem_append.mp hact with hact | hact
    · exact growActs_forall hgrow _ _ _ act hact
    · obtain rfl := List.mem_singleton.mp hact
      exact hfill hreceiver _ _ (Or.inl rfl)
  | arm hreceiver =>
    intro act hact
    rcases List.mem_append.mp hact with hact | hact
    · exact growActs_forall hgrow _ _ _ act hact
    · obtain rfl := List.mem_singleton.mp hact
      exact hfill hreceiver _ _ (Or.inr rfl)

lemma cancelActs_forall {s : State} {p : Ptr} {Q : Act → Prop}
    (htake : ∀ A B v, A = .queue ∨ A = .timerList → ¬ B.Busy → Q (.relocate p A B v))
    (hunperiod : Q (.unperiod p)) : ∀ act ∈ cancelActs s p, Q act := by
  intro act hact
  unfold cancelActs at hact
  split_ifs at hact <;> (try split at hact) <;>
    simp only [List.mem_singleton, List.not_mem_nil] at hact <;> subst hact <;>
    first
    | exact hunperiod
    | exact htake _ _ _ (by simp) (by decide)

lemma expireActs_forall {s : State} {Q : Act → Prop}
    (h : ∀ p v, Q (.relocate p .timerList .queue v)) : ∀ act ∈ expireActs s, Q act := by
  intro act hact
  obtain ⟨p, -, rfl⟩ := List.mem_map.mp hact
  exact h _ _

/-- What ends a handler takes its storage from those that run. -/
lemma finishAct_relocates (s : State) (p : Ptr) :
    ∃ B v, finishAct s p = .relocate p .running B v := by
  unfold finishAct
  split <;> (try split_ifs) <;> exact ⟨_, _, rfl⟩

/-- Only a dispatch hands an event to a handler. -/
lemma Effect.called {s : State} {op : Op} {r : Ret} {acts : List Act} (h : Effect s op r acts)
    (hdispatch : op ≠ .dispatch) : r.called? = none := by
  cases h <;> first | rfl | exact absurd rfl hdispatch

end EventLoop
