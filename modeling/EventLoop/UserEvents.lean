import EventLoop.Api
import EventLoop.EventCoreTheorems

/-!
# User-allocated events belong to their handler

The event loop gives a user-allocated event up when it calls the handler, which may overwrite, free
or send it again. After the call `event_core_free_push` still reads the `allocator` field of that
storage: it does nothing exactly if it finds `ARM_LIB_EVENT_USER` there, or no enumerator at all,
whatever the handler did.
-/

namespace EventLoop

section

variable [NsList]

/-! ## The cleanup after a handler -/

/-- A timer that is given to `timer_sys_event_free` is put on a list or gets another launch time. -/
lemma timerSysEventFree_ne (p : Ptr) (s : State) :
    timerSysEventFree p (s.setState p .unqueued) ≠ s := by
  intro hfree
  have hperiod : ((s.setState p .unqueued).mem p).period = (s.mem p).period := by
    simp [State.setState, State.store]
  by_cases hzero : (s.mem p).period = 0
  · simp only [timerSysEventFree, hperiod, hzero, ↓reduceIte, NsList.addToStart_eq] at hfree
    exact absurd (congrArg State.systemTimerFree hfree) (List.cons_ne_self _ _)
  · have hlaunch : ((timerSysEventFree p (s.setState p .unqueued)).mem p).launchTime
        = (s.mem p).launchTime + (s.mem p).period := by
      simp only [timerSysEventFree, hperiod, hzero, ↓reduceIte]
      split <;>
        simp [eventOSEventSendTimerAllocated, eventCoreWrite, timerSysAdd, State.setState,
          State.setAllocator, State.setLaunchTime, State.store]
    rw [hfree] at hlaunch
    exact hzero (by simpa using hlaunch.symm)

lemma eventCoreFreePush_eq_self_iff (p : Ptr) (s : State) :
    eventCoreFreePush p s = .ok s ↔
      (s.event p).allocator = .user ∨ ∃ value, (s.event p).allocator = .other value := by
  constructor
  · intro hpush
    cases halloc : (s.event p).allocator with
    | user => exact Or.inl rfl
    | other value => exact Or.inr ⟨value, rfl⟩
    | startupPool =>
      simp only [eventCoreFreePush, halloc, NsList.addToStart_eq, Except.ok.injEq] at hpush
      have hfree := congrArg State.freeEventEntry hpush
      exact absurd hfree (List.cons_ne_self _ _)
    | dynamic =>
      simp only [eventCoreFreePush, halloc, nsDynMemFree] at hpush
      split at hpush
      · next hsome =>
        have hheap := congrFun (congrArg State.heap (Except.ok.inj hpush)) p
        simp [← hheap] at hsome
      · cases hpush
    | timer =>
      simp only [eventCoreFreePush, halloc, Except.ok.injEq] at hpush
      exact absurd hpush (timerSysEventFree_ne p s)
  · rintro (halloc | ⟨value, halloc⟩) <;> simp only [eventCoreFreePush, halloc]

lemma eventCoreFreePush_currTasklet {p : Ptr} {s s' : State}
    (hpush : eventCoreFreePush p s = .ok s') : s'.currTasklet = s.currTasklet := by
  unfold eventCoreFreePush at hpush
  split at hpush
  · obtain rfl := Except.ok.inj hpush
    rfl
  · unfold nsDynMemFree at hpush
    split at hpush
    · obtain rfl := Except.ok.inj hpush
      rfl
    · cases hpush
  · obtain rfl := Except.ok.inj hpush
    unfold timerSysEventFree
    split
    · rfl
    · dsimp only
      split <;> rfl
  · obtain rfl := Except.ok.inj hpush
    rfl
  · obtain rfl := Except.ok.inj hpush
    rfl

/-! ## Dispatch -/

/-- Whatever the handler of an event does (`call` is any function on states): after it has returned,
`eventOS_scheduler_dispatch_event` does nothing but reset `curr_tasklet` exactly if the `allocator`
field of the storage still says that it is user-allocated, or has no value of its enumeration. -/
theorem dispatch_leaves_userEvent_iff {s s₁ t : State} {curEvent : Ptr} {tasklet : ArmCoreTasklet}
    (hread : dispatchRead s = .ok (s₁, some (curEvent, tasklet)))
    (call : ArmCoreTasklet → Ptr → State → Except Fault State)
    (hcall : call tasklet curEvent s₁ = .ok t) :
    eventOSSchedulerDispatchEvent call s
        = .ok ({ t with running := t.running.tail, currTasklet := 0 }, true) ↔
      (t.event curEvent).allocator = .user ∨
        ∃ value, (t.event curEvent).allocator = .other value := by
  let left : State := { t with running := t.running.tail }
  rw [← eventCoreFreePush_eq_self_iff curEvent left]
  simp only [dispatchEvent_of_read hread, hcall, dispatchReturn, ok_bind, monadLift_self]
  cases hpush : eventCoreFreePush curEvent left with
  | error fault => simp
  | ok u =>
    have hcurr : u.currTasklet = left.currTasklet := eventCoreFreePush_currTasklet hpush
    simp only [ok_bind, pure, Except.pure, Except.ok.injEq, Prod.mk.injEq, and_true]
    constructor
    · intro hreset
      have hset : { u with currTasklet := left.currTasklet } = left :=
        congrArg (fun v : State => { v with currTasklet := left.currTasklet }) hreset
      rw [← hset, ← hcurr]
    · rintro rfl
      rfl

end

/-! ## Handlers that reuse the storage -/

/-- A handler that frees the storage of its event and sends another one, for which the allocator
hands out the same memory. -/
def reusingHandler (event : ArmEvent) (_ : ArmCoreTasklet) (curEvent : Ptr) (s : State) :
    Except Fault State := do
  let (s, _) ← eventOSEventSend event (some curEvent) s
  .ok s

/-- A handler that sends its event again. -/
def resendingHandler (_ : ArmCoreTasklet) (curEvent : Ptr) (s : State) : Except Fault State :=
  .ok (eventOSEventSendUserAllocated curEvent s)

/-- A tasklet with all events of the startup pool queued behind a user-allocated event. -/
def userEventOps : List Op :=
  let event (priority : EventPriority) : ArmEvent :=
    { receiver := 0, sender := 0, eventType := 2, eventId := 3, dataPtr := none
      priority := priority, eventData := 4 }
  [.handlerCreate 7 1 (some (.heap 0)) none, .dispatch, .handlerReturn] ++
    List.replicate startupEventPoolSize (.send (event .low) none) ++
    [.sendUserAllocated (.heap 9)
      { SysTimerStruct.zero with event := { SysTimerStruct.zero.event with data := event .high } }]

/-- Dispatch the next event with a handler: the states before and after the handler, and the one
after the dispatch. -/
def dispatchTrace (call : ArmCoreTasklet → Ptr → State → Except Fault State) (s : State) :
    Option (Ptr × ArmCoreTasklet × State × State × State) := do
  let (s₁, next) ← (dispatchRead s).toOption
  let (curEvent, tasklet) ← next
  let t ← (call tasklet curEvent s₁).toOption
  let u ← (dispatchReturn curEvent t).toOption
  some (curEvent, tasklet, s₁, t, u)

lemma dispatchTrace_eq {call : ArmCoreTasklet → Ptr → State → Except Fault State}
    {s s₁ t u : State} {curEvent : Ptr} {tasklet : ArmCoreTasklet}
    (h : dispatchTrace call s = some (curEvent, tasklet, s₁, t, u)) :
    dispatchRead s = .ok (s₁, some (curEvent, tasklet)) ∧ call tasklet curEvent s₁ = .ok t ∧
      eventOSSchedulerDispatchEvent call s = .ok (u, true) := by
  simp only [dispatchTrace, Option.bind_eq_bind, Option.bind_eq_some_iff, toOption_eq_some,
    Option.some.injEq, Prod.mk.injEq] at h
  obtain ⟨⟨s₁, next⟩, hread, ⟨p, tasklet⟩, rfl, t, hcall, u, hreturn, rfl, rfl, rfl, rfl, rfl⟩ := h
  refine ⟨hread, hcall, ?_⟩
  simp only [dispatchEvent_of_read hread, hcall, hreturn, ok_bind, monadLift_self]
  rfl

/-- The memory of a user-allocated event is freed by its handler and holds the next event that the
handler sends: that event is freed while it is queued. -/
theorem reused_userEvent_freed : ∃ event s tasklet s₁ t u, Reachable s ∧
    (s.event (.heap 9)).allocator = .user ∧
    dispatchRead s = .ok (s₁, some (.heap 9, tasklet)) ∧
    s₁.heap (.heap 9) = none ∧ .heap 9 ∉ s₁.eventQueueActive ∧
    reusingHandler event tasklet (.heap 9) s₁ = .ok t ∧
    .heap 9 ∈ t.eventQueueActive ∧ t.heap (.heap 9) = some .event ∧
    eventOSSchedulerDispatchEvent (reusingHandler event) s = .ok (u, true) ∧
    .heap 9 ∈ u.eventQueueActive ∧ u.heap (.heap 9) = none := by
  let event : ArmEvent :=
    { receiver := 0, sender := 0, eventType := 2, eventId := 5, dataPtr := none
      priority := .med, eventData := 0 }
  have hsome : ((drive (fun _ _ => True) userEventOps (eventOSSchedulerInit (.boot 0))).bind
      fun s => (dispatchTrace (reusingHandler event) s).map fun result => (s, result)).map
        (fun (s, curEvent, _, s₁, t, u) => ((s.event (.heap 9)).allocator, curEvent,
          [s₁, t, u].map fun v => (decide (.heap 9 ∈ v.eventQueueActive), v.heap (.heap 9))))
      = some (.user, .heap 9, [(false, none), (true, some .event), (true, none)]) := by
    decide +kernel
  obtain ⟨⟨s, curEvent, tasklet, s₁, t, u⟩, hrun, hvalues⟩ := Option.map_eq_some_iff.mp hsome
  simp only [List.map_cons, List.map_nil, List.cons.injEq, Prod.mk.injEq, decide_eq_true_eq,
    decide_eq_false_iff_not, and_true] at hvalues
  obtain ⟨huser, rfl, ⟨hnot, hfree⟩, ⟨hqueued, hevent⟩, hstill, hfreed⟩ := hvalues
  obtain ⟨s', hs, hresult⟩ := Option.bind_eq_some_iff.mp hrun
  obtain ⟨result, htrace, heq⟩ := Option.map_eq_some_iff.mp hresult
  obtain ⟨rfl, rfl⟩ := Prod.mk.inj heq
  obtain ⟨hread, hcall, hdispatch⟩ := dispatchTrace_eq htrace
  exact ⟨event, s', tasklet, s₁, t, u, reachable_of_drive hs, huser, hread, hfree, hnot, hcall,
    hqueued, hevent, hdispatch, hstill, hfreed⟩

/-- A user-allocated event that its handler sends again is left in the queue. -/
theorem dispatch_leaves_resent : ∃ s t : State, Reachable s ∧ .heap 9 ∈ t.eventQueueActive ∧
    eventOSSchedulerDispatchEvent resendingHandler s
      = .ok ({ t with running := t.running.tail, currTasklet := 0 }, true) := by
  have hsome : ((drive (fun _ _ => True) userEventOps (eventOSSchedulerInit (.boot 0))).bind
      fun s => (dispatchTrace resendingHandler s).map fun result => (s, result)).map
        (fun (_, curEvent, _, _, t, _) => (curEvent, (t.event (.heap 9)).allocator,
          decide (.heap 9 ∈ t.eventQueueActive)))
      = some (.heap 9, .user, true) := by decide +kernel
  obtain ⟨⟨s, curEvent, tasklet, s₁, t, u⟩, hrun, hvalues⟩ := Option.map_eq_some_iff.mp hsome
  simp only [Prod.mk.injEq, decide_eq_true_eq] at hvalues
  obtain ⟨rfl, huser, hqueued⟩ := hvalues
  obtain ⟨s', hs, hresult⟩ := Option.bind_eq_some_iff.mp hrun
  obtain ⟨result, htrace, heq⟩ := Option.map_eq_some_iff.mp hresult
  obtain ⟨rfl, rfl⟩ := Prod.mk.inj heq
  obtain ⟨hread, hcall, -⟩ := dispatchTrace_eq htrace
  exact ⟨s', t, reachable_of_drive hs, hqueued,
    (dispatch_leaves_userEvent_iff hread resendingHandler hcall).mpr (Or.inl huser)⟩

end EventLoop
