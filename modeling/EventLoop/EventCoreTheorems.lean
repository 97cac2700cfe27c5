import EventLoop.Effect
import EventLoop.Lib.ListLemmas
import EventLoop.Ownership

/-!
# What the operations do

The functions of `event.c` and `system_timer.c`, run symbolically once. Each operation that the
event loop is asked for in an owned state either is a dispatch that finds no tasklet, or it
returns, and what it did is a sequence of moves (`Effect`). Nothing later unfolds the code.
-/

namespace EventLoop

open Lib

/-! ## Single functions -/

@[simp] lemma ok_bind {ε α β : Type} (a : α) (f : α → Except ε β) :
    (Except.ok a >>= f) = f a := rfl

@[simp] lemma error_bind {ε α β : Type} (e : ε) (f : α → Except ε β) :
    ((Except.error e : Except ε α) >>= f) = .error e := rfl

lemma toOption_eq_some {ε α : Type} {result : Except ε α} {a : α} :
    result.toOption = some a ↔ result = .ok a := by
  cases result <;> simp [Except.toOption]

@[simp] lemma State.setState_priority (s : State) (p q : Ptr) (state : EventState) :
    (s.setState p state).priority q = s.priority q := by
  simp only [State.priority, State.setState, State.store_event]
  split <;> simp_all

@[simp] lemma State.setPeriod_event (s : State) (p q : Ptr) (period : BitVec 32) :
    (s.setPeriod p period).event q = s.event q := by
  simp only [State.setPeriod, State.store_event]
  split <;> simp_all

/-- A move, as the code makes it: the storage is taken out, rewritten, and put in. -/
lemma State.enter_eq_move {s t : State} {p : Ptr} {A : Place} {v : SysTimerStruct}
    {h : Option HeapObject} (B : Place)
    (ht : t = { s.leave p A with
      mem := Function.update s.mem p v, heap := Function.update s.heap p h }) :
    t.enter p B = s.move p A B v h := by
  subst ht
  rfl

/-- An event to send is not in use. -/
lemma eventSource_place {s : State} {answer : Option Ptr} {p : Ptr} {A B : Place}
    {allocator : Allocator} (h : eventSource s answer = some (p, A, allocator)) (hB : B.Busy) :
    A ≠ B := by
  unfold eventSource at h
  split at h
  · obtain ⟨-, rfl, -⟩ : _ ∧ Place.free = A ∧ _ := by simpa using h
    rintro rfl
    exact hB
  · obtain ⟨-, rfl, -⟩ : answer = some p ∧ Place.outside = A ∧ _ := by simpa using h
    rintro rfl
    exact hB

lemma eventSource_ne_timerFree {s : State} {answer : Option Ptr} {p : Ptr} {A : Place}
    {allocator : Allocator} (h : eventSource s answer = some (p, A, allocator)) :
    A ≠ .timerFree := by
  unfold eventSource at h
  split at h
  · obtain ⟨-, rfl, -⟩ : _ ∧ Place.free = A ∧ _ := by simpa using h
    decide
  · obtain ⟨-, rfl, -⟩ : answer = some p ∧ Place.outside = A ∧ _ := by simpa using h
    decide

/-- The block of an event after it was sent from its source. -/
def sourceHeap (s : State) (p : Ptr) (A : Place) : Option HeapObject :=
  if A = .free then s.heap p else some .event

/-- The source of a send is a storage the event loop may take. -/
lemma eventSource_row {s : State} (own : Owned s) {answer : Option Ptr}
    (fresh : FreshAnswer s answer) {p : Ptr} {A : Place} {allocator : Allocator}
    (hsource : eventSource s answer = some (p, A, allocator)) (data : ArmEvent) :
    Row s p A .queue (written s p data allocator) (sourceHeap s p A) := by
  unfold eventSource at hsource
  cases hfree : s.freeEventEntry with
  | cons q rest =>
    simp only [hfree, Option.some.injEq, Prod.mk.injEq] at hsource
    obtain ⟨rfl, rfl, rfl⟩ := hsource
    have hmem : q ∈ s.at_ .free := by simp [State.at_, hfree]
    have hclass : s.classOf q = .pool := own.admits _ _ hmem
    have halloc : (s.event q).allocator = .startupPool := by
      simpa [hclass, StorageClass.allocator] using own.allocator _ (by decide) _ hmem
    have hrow := Row.sendPool data hmem
    simpa [written, sourceHeap, State.event, ← halloc] using hrow
  | nil =>
    simp only [hfree, Option.map_eq_some_iff, Prod.mk.injEq] at hsource
    obtain ⟨q, hanswer, rfl, rfl, rfl⟩ := hsource
    exact Row.sendDynamic data (fresh q hanswer)

variable [NsList]

lemma nsListRemove_of_mem {l : List Ptr} {p : Ptr} (hp : p ∈ l) :
    nsListRemove l p = .ok (l.erase p) := by
  rw [nsListRemove, if_pos hp, NsList.remove_eq l p hp]

lemma nsListRemove_head (p : Ptr) (rest : List Ptr) : nsListRemove (p :: rest) p = .ok rest := by
  rw [nsListRemove_of_mem List.mem_cons_self, List.erase_cons_head]

/-- `event_core_write` tags the event and puts it into the queue. -/
lemma eventCoreWrite_eq (event : Ptr) (s : State) :
    eventCoreWrite event s = (s.setState event .queued).enter event .queue := by
  unfold eventCoreWrite State.enter
  simp only [State.setState_priority, ← NsList.addBefore_find]
  simp only [State.setState, State.store]
  congr 1
  cases s.eventQueueActive.find? _ <;> rfl

/-- `timer_sys_add` puts the timer on the timer list. -/
lemma timerSysAdd_eq (timer : Ptr) (s : State) :
    timerSysAdd timer s = s.enter timer .timerList := by
  unfold timerSysAdd State.enter
  simp only [← NsList.addBefore_find]
  congr 1
  cases s.systemTimerList.find? _ <;> rfl

/-- `event_core_write` as a move. -/
lemma eventCoreWrite_eq_move {s t : State} {p : Ptr} {A : Place} {v : SysTimerStruct}
    {h : Option HeapObject}
    (ht : t.setState p .queued = { s.leave p A with
      mem := Function.update s.mem p v, heap := Function.update s.heap p h }) :
    eventCoreWrite p t = s.move p A .queue v h := by
  rw [eventCoreWrite_eq, State.enter_eq_move .queue ht]

/-- `eventOS_event_send_timer_allocated` as a move. -/
lemma sendTimerAllocated_eq_move {s t : State} {p : Ptr} {A : Place} {v : SysTimerStruct}
    {h : Option HeapObject}
    (ht : (t.setAllocator p .timer).setState p .queued = { s.leave p A with
      mem := Function.update s.mem p v, heap := Function.update s.heap p h }) :
    eventOSEventSendTimerAllocated p t = s.move p A .queue v h :=
  eventCoreWrite_eq_move ht

/-! ## Sending -/

/-- `event_core_get` when there is no event to be had. -/
lemma eventCoreGet_none {s : State} {answer : Option Ptr} (hsource : eventSource s answer = none) :
    eventCoreGet answer s = .ok (s, none) := by
  unfold eventSource at hsource
  cases hfree : s.freeEventEntry with
  | cons q rest => simp [hfree] at hsource
  | nil =>
    have hanswer : answer = none := by simpa [hfree] using hsource
    simp [eventCoreGet, hfree, hanswer, eventDynamicallyAllocate]

/-- `event_core_get` when there is one: filled and written to the queue it has moved there. The
tasklet list may change in between. -/
lemma eventCoreGet_some {s : State} (own : Owned s) {answer : Option Ptr} {p : Ptr} {A : Place}
    {allocator : Allocator} (hsource : eventSource s answer = some (p, A, allocator)) :
    ∃ t, eventCoreGet answer s = .ok (t, some p) ∧
      t.armCoreTaskletList = s.armCoreTaskletList ∧
      (t.event p).data.dataPtr = none ∧ (t.event p).data.priority = .low ∧
      ∀ data l, eventCoreWrite p (State.setData { t with armCoreTaskletList := l } p data)
        = State.move { s with armCoreTaskletList := l } p A .queue (written s p data allocator)
            (sourceHeap s p A) := by
  unfold eventSource at hsource
  cases hfree : s.freeEventEntry with
  | cons q rest =>
    simp only [hfree, Option.some.injEq, Prod.mk.injEq] at hsource
    obtain ⟨rfl, rfl, rfl⟩ := hsource
    have hmem : q ∈ s.at_ .free := by simp [State.at_, hfree]
    have hclass : s.classOf q = .pool := own.admits _ _ hmem
    have halloc : (s.event q).allocator = .startupPool := by
      simpa [hclass, StorageClass.allocator] using own.allocator _ (by decide) _ hmem
    let got : ArmEvent := { (s.event q).data with dataPtr := none, priority := .low }
    refine ⟨{ s with freeEventEntry := rest }.setData q got, ?_, rfl, ?_, ?_, fun data l => ?_⟩
    · simp [eventCoreGet, hfree, nsListRemove_head, got]
    · simp [State.setData, got]
    · simp [State.setData, got]
    · refine eventCoreWrite_eq_move ?_
      ext1 <;> simp [State.setState, State.setData, State.store, State.leave, State.event,
        written, sourceHeap, ← halloc]
  | nil =>
    simp only [hfree, Option.map_eq_some_iff, Prod.mk.injEq] at hsource
    obtain ⟨q, rfl, rfl, rfl, rfl⟩ := hsource
    let got : ArmEvent := { (s.event q).data with dataPtr := none, priority := .low }
    refine ⟨((nsDynMemAlloc (some q) .event s).setAllocator q .dynamic).setData q got,
      ?_, rfl, ?_, ?_, fun data l => ?_⟩
    · simp [eventCoreGet, hfree, eventDynamicallyAllocate, got, State.setAllocator,
        nsDynMemAlloc]
    · simp [State.setData, got]
    · simp [State.setData, got]
    · refine eventCoreWrite_eq_move ?_
      ext1 <;> simp [State.setState, State.setData, State.setAllocator, State.store, State.leave,
        State.event, written, sourceHeap, nsDynMemAlloc, hfree]

/-- An operation returns, and what it does is a sequence of moves. -/
def Performs (s : State) (op : Op) : Prop :=
  ∃ s' r acts, exec op s = .ok (s', r) ∧ Effect s op r acts ∧ Run Move s acts s'

theorem send_performs {s : State} (own : Owned s) {event : ArmEvent} {answer : Option Ptr}
    (valid : Valid s (.send event answer)) : Performs s (.send event answer) := by
  cases hreceiver : eventTaskletHandlerGet event.receiver s with
  | none =>
    refine ⟨s, .code (-1), [], ?_, .sendFail (Or.inl hreceiver), .nil⟩
    simp [exec, eventOSEventSend, hreceiver]
  | some tasklet =>
    cases hsource : eventSource s answer with
    | none =>
      refine ⟨s, .code (-1), [], ?_, .sendFail (Or.inr hsource), .nil⟩
      simp [exec, eventOSEventSend, hreceiver, eventCoreGet_none hsource]
    | some source =>
      obtain ⟨p, A, allocator⟩ := source
      obtain ⟨t, hget, htasklets, -, -, hwrite⟩ := eventCoreGet_some own hsource
      have hmove := hwrite event t.armCoreTaskletList
      rw [htasklets] at hmove
      refine ⟨_, .code 0, _, ?_, .send (by simp [hreceiver]) hsource,
        .single (.relocate (eventSource_row own valid hsource event))⟩
      simp [exec, eventOSEventSend, hreceiver, hget, ← hmove, ← htasklets]

theorem handlerCreate_performs {s : State} (own : Owned s) {handlerFuncPtr : FuncPtr}
    {initEventType : BitVec 8} {newTasklet newEvent : Option Ptr}
    (valid : Valid s (.handlerCreate handlerFuncPtr initEventType newTasklet newEvent)) :
    Performs s (.handlerCreate handlerFuncPtr initEventType newTasklet newEvent) := by
  obtain ⟨freshTasklet, freshEvent, hdistinct⟩ := valid
  by_cases hfun : ∃ t ∈ s.armCoreTaskletList, t.funcPtr = handlerFuncPtr
  · obtain ⟨t, ht, hfun⟩ := hfun
    refine ⟨s, .code (-1), [], ?_, .handlerCreateDuplicate ht hfun, .nil⟩
    have hany : s.armCoreTaskletList.any (fun cur => cur.funcPtr = handlerFuncPtr) = true :=
      List.any_eq_true.mpr ⟨t, ht, by simpa using hfun⟩
    simp only [exec, eventOSEventHandlerCreate, hany, ↓reduceIte, ok_bind]
  · push Not at hfun
    have hany : s.armCoreTaskletList.any (fun cur => cur.funcPtr = handlerFuncPtr) = false := by
      simpa using hfun
    cases newTasklet with
    | none =>
      refine ⟨s, .code (-2), [], ?_, .handlerCreateFull (Or.inl rfl), .nil⟩
      simp [exec, eventOSEventHandlerCreate, hany]
    | some new =>
      have hnew := freshTasklet new rfl
      let s₁ : State := { s with heap := Function.update s.heap new (some .tasklet) }
      have own₁ : Owned s₁ := own.tasklet_block hnew
      cases hsource : eventSource s newEvent with
      | none =>
        refine ⟨s, .code (-2), [], ?_, .handlerCreateFull (Or.inr hsource), .nil⟩
        have hget : eventCoreGet newEvent s₁ = .ok (s₁, none) := eventCoreGet_none hsource
        have hfree : nsDynMemFree new s₁ = .ok s := by
          simp [nsDynMemFree, s₁, ← hnew.free]
        simp [exec, eventOSEventHandlerCreate, hany, nsDynMemAlloc, s₁] at hget hfree ⊢
        simp [hget, hfree]
      | some source =>
        obtain ⟨p, A, allocator⟩ := source
        obtain ⟨t, hget, htasklets, hdata, hprio, hwrite⟩ := eventCoreGet_some own₁ hsource
        let tasklet : ArmCoreTasklet :=
          { id := taskletGetFreeId s, funcPtr := handlerFuncPtr }
        have hregister := Move.register tasklet hnew rfl hfun
        have own₂ := own.preserved hregister
        -- the two answers are different blocks
        have fresh₂ : FreshAnswer { s with
            armCoreTaskletList := s.armCoreTaskletList ++ [tasklet]
            heap := Function.update s.heap new (some .tasklet) } newEvent := by
          intro q hq
          have hne : q ≠ new := by
            rintro rfl
            exact absurd (hdistinct hq.symm) (by simp)
          obtain ⟨isHeap, hheap, hqueue, hrun⟩ := freshEvent q hq
          exact ⟨isHeap, by simpa [hne] using hheap, hqueue, hrun⟩
        refine ⟨_, _, _, ?_, .handlerCreate hfun hsource, .cons hregister
          (.single (.relocate (eventSource_row own₂ fresh₂ hsource
            (initEvent (taskletGetFreeId s) initEventType))))⟩
        have hid : taskletGetFreeId t = taskletGetFreeId s := by
          simp only [taskletGetFreeId, eventTaskletHandlerGet, htasklets, s₁]
        have hmove := hwrite (initEvent (taskletGetFreeId s) initEventType)
          (s.armCoreTaskletList ++ [tasklet])
        have hget' : eventCoreGet newEvent (nsDynMemAlloc (some new) .tasklet s)
            = .ok (t, some p) := hget
        have hinit : ({ (t.event p).data with
            receiver := taskletGetFreeId s, sender := 0, eventType := initEventType,
            eventId := 0, eventData := 0 } : ArmEvent)
            = initEvent (taskletGetFreeId s) initEventType := by
          simp [initEvent, hdata, hprio]
        simp only [exec, eventOSEventHandlerCreate, hany, hget', hid, htasklets, ok_bind,
          NsList.addToEnd_eq, Bool.false_eq_true, ↓reduceIte, Except.ok.injEq, Prod.mk.injEq,
          and_true]
        refine Eq.trans ?_ hmove
        rw [← hinit]

theorem sendUserAllocated_performs {s : State} {event : Ptr} {contents : SysTimerStruct}
    (valid : Valid s (.sendUserAllocated event contents)) :
    Performs s (.sendUserAllocated event contents) := by
  obtain ⟨isHeap, hheap, hqueue⟩ := valid
  refine ⟨_, _, _, ?_, .sendUserAllocated event contents,
    .single (.relocate (.sendUser _ isHeap hheap hqueue rfl rfl))⟩
  have hmove : eventOSEventSendUserAllocated event (s.store event contents)
      = s.move event .outside .queue (sent contents .user) none := by
    refine eventCoreWrite_eq_move ?_
    ext1 <;> simp [State.setState, State.setAllocator, State.store, State.leave, State.event, sent,
      hheap]
  simp [exec, hmove]

theorem sendTimerAllocated_performs {s : State} {event : Ptr} {contents : SysTimerStruct}
    (valid : Valid s (.sendTimerAllocated event contents)) :
    Performs s (.sendTimerAllocated event contents) := by
  have hgrow := Row.grow ((sent contents .timer).tagged .timerFree) valid rfl
  let t := s.move event .outside .timerFree ((sent contents .timer).tagged .timerFree)
    (some .sysTimer)
  have hfire := Row.fire (s := t) (p := event) (sent contents .timer)
    (by simp [t, State.move_timerFree]) rfl rfl
  refine ⟨_, _, _, ?_, .sendTimerAllocated event contents,
    .cons (.relocate hgrow) (.single (.relocate hfire))⟩
  simp only [exec, Except.ok.injEq, Prod.mk.injEq, and_true]
  refine sendTimerAllocated_eq_move ?_
  ext1 <;> simp [State.setState, State.setAllocator, State.store, State.leave, State.event,
    State.move, State.enter, sent, t]

/-! ## Timer requests -/

/-- `timer_struct_get` when there is a timer: a run to a state where it is free, of which it is
then taken out and filled. -/
lemma timerStructGet_some {s : State} {answer : Option Ptr} (fresh : FreshAnswer s answer)
    {p : Ptr} (hsource : timerSource s answer = some p) (v : SysTimerStruct) :
    ∃ t u, timerStructGet answer s = .ok (t, some p) ∧ Run Move s (growActs s p v) u ∧
      p ∈ u.systemTimerFree ∧ t.timerSysTicks = s.timerSysTicks ∧
      u.timerSysTicks = s.timerSysTicks ∧
      ∀ w, t.store p w = { u.leave p .timerFree with
        mem := Function.update u.mem p w, heap := Function.update u.heap p (u.heap p) } := by
  unfold timerSource at hsource
  cases hfree : s.systemTimerFree with
  | cons q rest =>
    simp only [hfree, Option.some.injEq] at hsource
    subst hsource
    refine ⟨{ s with systemTimerFree := rest }, s, ?_, ?_, ?_, rfl, rfl, fun w => ?_⟩
    · simp [timerStructGet, hfree, nsListRemove_head]
    · simp [growActs, hfree]
    · simp [hfree]
    · ext1 <;> simp [State.store, State.leave, hfree]
  | nil =>
    simp only [hfree] at hsource
    subst hsource
    have hgrow := Row.grow (v.tagged .timerFree) (fresh p rfl) rfl
    refine ⟨nsDynMemAlloc (some p) .sysTimer s,
      s.move p .outside .timerFree (v.tagged .timerFree) (some .sysTimer), ?_, ?_, ?_, rfl, ?_,
      fun w => ?_⟩
    · simp [timerStructGet, hfree]
    · simpa [growActs, hfree] using Run.single (Move.relocate hgrow)
    · simp [State.move_timerFree]
    · simp
    · ext1 <;> simp [State.store, State.leave, State.move, State.enter, nsDynMemAlloc]

/-- `eventOS_event_timer_request_at_` returns, and what it does is a sequence of moves. -/
theorem request_performs {s : State} {answer : Option Ptr} (fresh : FreshAnswer s answer)
    (event : ArmEvent) (at_ period : BitVec 32) :
    ∃ s' r acts, eventOSEventTimerRequestAt_ event at_ period answer s = .ok (s', r) ∧
      Requested s event at_ period answer r acts ∧ Run Move s acts s' := by
  cases hreceiver : eventTaskletHandlerGet event.receiver s with
  | none =>
    refine ⟨s, none, [], ?_, .unknown hreceiver, .nil⟩
    simp [eventOSEventTimerRequestAt_, eventTaskletHandlerIdValid, hreceiver]
  | some tasklet =>
    have hvalid : eventTaskletHandlerIdValid event.receiver s = true := by
      simp [eventTaskletHandlerIdValid, hreceiver]
    have hsome : (eventTaskletHandlerGet event.receiver s).isSome := by simp [hreceiver]
    cases hsource : timerSource s answer with
    | none =>
      refine ⟨s, none, [], ?_, .full hsource, .nil⟩
      unfold timerSource at hsource
      cases hfree : s.systemTimerFree with
      | cons q rest => simp [hfree] at hsource
      | nil =>
        have hanswer : answer = none := by simpa [hfree] using hsource
        simp [eventOSEventTimerRequestAt_, hvalid, timerStructGet, hfree, hanswer, nsDynMemAlloc]
    | some p =>
      -- a timer that is due already goes to the event queue, not to the timer list
      by_cases hdue : ticksBeforeOrAt at_ s.timerSysTicks
      · obtain ⟨t, u, hget, hrun, hfree, hticks, -, hstore⟩ :=
          timerStructGet_some fresh hsource (requested event at_ period .queue)
        refine ⟨_, some p, _, ?_, .fire hsome hsource hdue, hrun.append (.single (.relocate
          (.fire (requested event at_ period .queue) hfree rfl rfl)))⟩
        have hmove : eventOSEventSendTimerAllocated p
            (t.store p { event := { data := event, allocator := .timer, state := .unqueued }
                         launchTime := at_
                         period := period })
            = u.move p .timerFree .queue (requested event at_ period .queue) (u.heap p) := by
          refine sendTimerAllocated_eq_move ?_
          rw [← hstore]
          simp [State.setState, State.setAllocator, State.store, State.event, requested,
            Place.tag]
        have hdue' : ticksBeforeOrAt at_ t.timerSysTicks := by rwa [hticks]
        simp [eventOSEventTimerRequestAt_, hvalid, hget, State.store] at hmove ⊢
        simp [hdue', hmove]
      · obtain ⟨t, u, hget, hrun, hfree, hticks, huticks, hstore⟩ :=
          timerStructGet_some fresh hsource (requested event at_ period .timerList)
        refine ⟨_, some p, _, ?_, .arm hsome hsource hdue, hrun.append (.single (.relocate
          (.arm (requested event at_ period .timerList) hfree rfl rfl ?_)))⟩
        · have hmove := State.enter_eq_move .timerList
            (hstore (requested event at_ period .timerList))
          have hdue' : ¬ ticksBeforeOrAt at_ t.timerSysTicks := by rwa [hticks]
          simp [eventOSEventTimerRequestAt_, hvalid, hget, timerSysAdd_eq, State.store,
            requested, Place.tag] at hmove ⊢
          simp [hdue', hmove]
        · rwa [huticks]

theorem requestAt_performs {s : State} {event : ArmEvent} {at_ : BitVec 32}
    {answer : Option Ptr} (valid : Valid s (.requestAt event at_ answer)) :
    Performs s (.requestAt event at_ answer) := by
  obtain ⟨s', r, acts, hexec, hreq, hrun⟩ := request_performs valid event at_ 0
  refine ⟨s', .handle r, acts, ?_, .requestAt hreq, hrun⟩
  simp only [exec, eventOSEventTimerRequestAt, hexec, ok_bind]

theorem requestIn_performs {s : State} {event : ArmEvent} {in_ : BitVec 32}
    {answer : Option Ptr} (valid : Valid s (.requestIn event in_ answer)) :
    Performs s (.requestIn event in_ answer) := by
  obtain ⟨s', r, acts, hexec, hreq, hrun⟩ := request_performs valid event (s.timerSysTicks + in_) 0
  refine ⟨s', .handle r, acts, ?_, .requestIn hreq, hrun⟩
  simp only [exec, eventOSEventTimerRequestIn, hexec, ok_bind]

theorem requestEvery_performs {s : State} {event : ArmEvent} {period : BitVec 32}
    {answer : Option Ptr} (valid : Valid s (.requestEvery event period answer)) :
    Performs s (.requestEvery event period answer) := by
  by_cases hperiod : period.toInt ≤ 0
  · exact ⟨s, .handle none, [], by simp [exec, eventOSEventTimerRequestEvery, hperiod],
      .requestEveryFail hperiod, .nil⟩
  · obtain ⟨s', r, acts, hexec, hreq, hrun⟩ :=
      request_performs valid event (s.timerSysTicks + period) period
    exact ⟨s', .handle r, acts, by simp [exec, eventOSEventTimerRequestEvery, hexec, hperiod],
      .requestEvery (by omega) hreq, hrun⟩

theorem legacyRequest_performs {s : State} {eventId eventType taskletId : BitVec 8}
    {time : BitVec 32} {answer : Option Ptr}
    (valid : Valid s (.request eventId eventType taskletId time answer)) :
    Performs s (.request eventId eventType taskletId time answer) := by
  obtain ⟨s', r, acts, hexec, hreq, hrun⟩ := request_performs valid
    (legacyEvent eventId eventType taskletId) (s.timerSysTicks + legacyTicks time) 0
  refine ⟨s', _, acts, ?_, .request hreq, hrun⟩
  simp only [legacyEvent] at hexec
  simp only [exec, eventOSEventTimerRequest, hexec, ok_bind]

/-! ## Blocks of clients -/

theorem clientAlloc_performs {s : State} {answer : Option Ptr} (fresh : FreshAnswer s answer) :
    Performs s (.clientAlloc answer) := by
  cases answer with
  | none => exact ⟨s, _, _, rfl, .clientAllocFail, .nil⟩
  | some block => exact ⟨_, _, _, rfl, .clientAlloc block, .single (.clientAlloc (fresh _ rfl))⟩

theorem clientFree_performs {s : State} {block : Ptr} (hblock : s.heap block = some .timeout) :
    Performs s (.clientFree block) := by
  refine ⟨{ s with heap := Function.update s.heap block none }, _, _, ?_, .clientFree block,
    .single (.clientFree hblock)⟩
  simp only [exec, nsDynMemFree, hblock, Option.isSome_some, ↓reduceIte, ok_bind]

/-! ## Completion -/

/-- The state that a storage leaves behind, with new contents. -/
abbrev State.left (s : State) (p : Ptr) (A : Place) (v : SysTimerStruct) (h : Option HeapObject) :
    State :=
  { s.leave p A with mem := Function.update s.mem p v, heap := Function.update s.heap p h }

omit [NsList] in
lemma State.heap_of_dynamic {s : State} {p : Ptr} (hclass : s.classOf p = .dynamic) :
    s.heap p = some .event := by
  cases p with
  | startupEventPool i => simp [State.classOf] at hclass
  | startupSysTimerPool i => simp [State.classOf] at hclass
  | heap a =>
    simp only [State.classOf] at hclass
    split at hclass <;> simp_all

section FreePush

variable {s t : State} {p : Ptr} {A : Place} {v : SysTimerStruct} {h : Option HeapObject}

lemma eventCoreFreePush_pool (halloc : (t.event p).allocator = .startupPool)
    (ht : t.setState p .unqueued = s.left p A v h) :
    eventCoreFreePush p t = .ok (s.move p A .free v h) := by
  rw [← State.enter_eq_move .free ht, eventCoreFreePush, halloc]
  simp [State.enter]

lemma eventCoreFreePush_dynamic (halloc : (t.event p).allocator = .dynamic)
    (hheap : (t.heap p).isSome)
    (ht : { t with heap := Function.update t.heap p none } = s.left p A (s.mem p) none) :
    eventCoreFreePush p t = .ok (s.move p A .outside (s.mem p) none) := by
  rw [← State.enter_eq_move .outside ht, eventCoreFreePush, halloc]
  simp [nsDynMemFree, hheap, State.enter]

lemma eventCoreFreePush_user (halloc : (t.event p).allocator = .user)
    (ht : t = s.left p A (s.mem p) (s.heap p)) :
    eventCoreFreePush p t = .ok (s.move p A .outside (s.mem p) (s.heap p)) := by
  rw [← State.enter_eq_move .outside ht, eventCoreFreePush, halloc]
  simp [State.enter]

lemma eventCoreFreePush_oneShot (halloc : (t.event p).allocator = .timer)
    (hperiod : (t.mem p).period = 0) (ht : t.setState p .unqueued = s.left p A v h) :
    eventCoreFreePush p t = .ok (s.move p A .timerFree v h) := by
  have hzero : ((t.setState p .unqueued).mem p).period = 0 := by
    simpa [State.setState, State.store] using hperiod
  rw [← State.enter_eq_move .timerFree ht, eventCoreFreePush, halloc]
  simp only [timerSysEventFree, hzero, ↓reduceIte, NsList.addToStart_eq, State.enter]

end FreePush

/-- The completion of a periodic timer event. -/
lemma eventCoreFreePush_periodic {s : State} {p : Ptr} {rest : List Ptr}
    (hrun : s.running = p :: rest) (hclass : s.classOf p = .timer)
    (halloc : (s.event p).allocator = .timer) (hperiod : (s.mem p).period ≠ 0) :
    ∃ s', eventCoreFreePush p { s with running := rest } = .ok s' ∧ Move s (finishAct s p) s' := by
  let t : State := State.setLaunchTime (State.setState { s with running := rest } p .unqueued) p
    ((s.mem p).launchTime + (s.mem p).period)
  have hpush : eventCoreFreePush p { s with running := rest }
      = .ok (if ticksBeforeOrAt ((s.mem p).launchTime + (s.mem p).period) s.timerSysTicks
          then eventOSEventSendTimerAllocated p t else timerSysAdd p t) := by
    have hperiod' : (s.mem p).period ≠ 0#32 := hperiod
    simp [eventCoreFreePush, halloc, timerSysEventFree, State.setState, State.setLaunchTime,
      State.store, State.event, hperiod', t]
  by_cases hdue : ticksBeforeOrAt ((s.mem p).launchTime + (s.mem p).period) s.timerSysTicks
  · have hact : finishAct s p = .relocate p .running .queue ((s.mem p).advanced .queue) := by
      simp only [finishAct, hclass, hperiod, hdue, ↓reduceIte]
    have hmove : eventOSEventSendTimerAllocated p t
        = s.move p .running .queue ((s.mem p).advanced .queue) (s.heap p) := by
      refine sendTimerAllocated_eq_move ?_
      ext1 <;> simp [t, State.setState, State.setLaunchTime, State.setAllocator, State.store,
        State.leave, State.event, hrun, SysTimerStruct.advanced, SysTimerStruct.tagged, Place.tag,
        ← halloc]
    rw [hpush, if_pos hdue, hmove, hact]
    exact ⟨_, rfl, .relocate (.requeue hrun hclass hperiod hdue)⟩
  · have hact :
        finishAct s p = .relocate p .running .timerList ((s.mem p).advanced .timerList) := by
      simp only [finishAct, hclass, hperiod, hdue, ↓reduceIte]
    have hmove : timerSysAdd p t
        = s.move p .running .timerList ((s.mem p).advanced .timerList) (s.heap p) := by
      rw [timerSysAdd_eq]
      refine State.enter_eq_move .timerList ?_
      ext1 <;> simp [t, State.setState, State.setLaunchTime, State.store, State.leave, State.event,
        hrun, SysTimerStruct.advanced, SysTimerStruct.tagged, Place.tag]
    rw [hpush, if_neg hdue, hmove, hact]
    exact ⟨_, rfl, .relocate (.rearm hrun hclass hperiod hdue)⟩

/-- What the completion of an event does. -/
lemma eventCoreFreePush_finish {s : State} (own : Owned s) {p : Ptr} {rest : List Ptr}
    (hrun : s.running = p :: rest) :
    ∃ s', eventCoreFreePush p { s with running := rest } = .ok s' ∧ Move s (finishAct s p) s' := by
  have hleave : { s with running := rest } = s.left p .running (s.mem p) (s.heap p) := by
    ext1 <;> simp [State.leave, hrun]
  cases hclass : s.classOf p with
  | foreign =>
    have halloc := own.borrowed p (by simp [hrun]) hclass
    exact ⟨_, eventCoreFreePush_user halloc hleave,
      by simpa [finishAct, hclass] using Move.relocate (.finishUser hrun hclass)⟩
  | pool =>
    have hmem : p ∈ s.at_ .running := by simp [State.at_, hrun, hclass]
    have halloc : (s.event p).allocator = .startupPool := by
      simpa [hclass, StorageClass.allocator] using own.allocator _ (by decide) p hmem
    refine ⟨_, eventCoreFreePush_pool halloc ?_,
      by simpa [finishAct, hclass] using Move.relocate (.finishPool hrun hclass)⟩
    ext1 <;> simp [State.setState, State.store, State.leave, State.event, hrun,
      SysTimerStruct.tagged, Place.tag]
  | dynamic =>
    have hmem : p ∈ s.at_ .running := by simp [State.at_, hrun, hclass]
    have halloc : (s.event p).allocator = .dynamic := by
      simpa [hclass, StorageClass.allocator] using own.allocator _ (by decide) p hmem
    refine ⟨_, eventCoreFreePush_dynamic halloc ?_ ?_,
      by simpa [finishAct, hclass] using Move.relocate (.finishDynamic hrun hclass)⟩
    · simp [State.heap_of_dynamic hclass]
    · ext1 <;> simp [State.leave, hrun]
  | timer =>
    have hmem : p ∈ s.at_ .running := by simp [State.at_, hrun, hclass]
    have halloc : (s.event p).allocator = .timer := by
      simpa [hclass, StorageClass.allocator] using own.allocator _ (by decide) p hmem
    by_cases hperiod : (s.mem p).period = 0
    · refine ⟨_, eventCoreFreePush_oneShot halloc hperiod ?_, by
        simpa [finishAct, hclass, hperiod] using
          Move.relocate (.finishOneShot hrun hclass hperiod)⟩
      ext1 <;> simp [State.setState, State.store, State.leave, State.event, hrun,
        SysTimerStruct.tagged, Place.tag]
    · exact eventCoreFreePush_periodic hrun hclass halloc hperiod

omit [NsList] in
/-- The handler that returns was the innermost. -/
lemma finishAct_running {s s' : State} {p : Ptr} {rest : List Ptr} (hrun : s.running = p :: rest)
    (move : Move s (finishAct s p) s') : s'.running = rest := by
  obtain ⟨B, v, hfinish⟩ := finishAct_relocates s p
  rw [hfinish] at move
  cases move with
  | relocate row => cases row <;> simp [State.move_running, hrun]

theorem handlerReturn_performs {s : State} (own : Owned s) (valid : Valid s .handlerReturn) :
    Performs s .handlerReturn := by
  obtain ⟨p, rest, hrun⟩ := List.exists_cons_of_ne_nil valid
  obtain ⟨s', hpush, hmove⟩ := eventCoreFreePush_finish own hrun
  refine ⟨_, _, _, ?_, .handlerReturn hrun, .cons hmove (.single (.active 0))⟩
  simp [exec, hrun, dispatchReturn, hpush]

/-! ## Dispatch -/

/-- `event_core_read` takes the first event of the queue, to be run by its receiver. -/
lemma eventCoreRead_cons {s : State} {p : Ptr} {rest : List Ptr}
    (hqueue : s.eventQueueActive = p :: rest) :
    ∃ t, eventCoreRead { s with currTasklet := 0 } = .ok (t, some p) ∧
      t.armCoreTaskletList = s.armCoreTaskletList ∧
      (t.event p).data.receiver = (s.event p).data.receiver ∧
      ∀ receiver, { t with currTasklet := receiver, running := p :: t.running }
        = { (s.move p .queue .running ((s.mem p).tagged .running) (s.heap p)) with
            currTasklet := receiver } := by
  refine ⟨{ s.setState p .running with eventQueueActive := rest, currTasklet := 0 }, ?_, rfl, ?_,
    fun receiver => ?_⟩
  · have hremove : ∀ u : State, u.eventQueueActive = p :: rest →
        nsListRemove u.eventQueueActive p = .ok rest := by
      intro u hu
      rw [hu, nsListRemove_head]
    simp only [eventCoreRead, hqueue, List.head?_cons]
    rw [hremove _ rfl]
    rfl
  · simp [State.event, State.setState, State.store]
  · ext1 <;> simp [State.move, State.leave, State.enter, State.setState, State.store, State.event,
      hqueue, SysTimerStruct.tagged, Place.tag]

/-- The lookup of the tasklet, unchecked. -/
lemma dispatchRead_of_read {s t : State} {p : Ptr}
    (hread : eventCoreRead { s with currTasklet := 0 } = .ok (t, some p)) :
    dispatchRead s =
      match eventTaskletHandlerGet (t.event p).data.receiver t with
      | none => .error .noTasklet
      | some tasklet =>
        .ok ({ t with
          currTasklet := (t.event p).data.receiver, running := p :: t.running },
            some (p, tasklet)) := by
  simp only [dispatchRead, hread, ok_bind]
  rfl

theorem dispatch_performs (s : State) :
    Performs s .dispatch ∨ exec .dispatch s = .error .noTasklet ∧ ∃ p rest,
      s.eventQueueActive = p :: rest ∧
        eventTaskletHandlerGet (s.event p).data.receiver s = none := by
  cases hqueue : s.eventQueueActive with
  | nil =>
    refine Or.inl ⟨_, _, _, ?_, .dispatchIdle hqueue, .single (.active 0)⟩
    simp only [exec, dispatchRead, eventCoreRead, hqueue, List.head?_nil, ok_bind]
  | cons p rest =>
    obtain ⟨t, hread, htasklets, hreceiver, hmove⟩ := eventCoreRead_cons hqueue
    have hget : eventTaskletHandlerGet (s.event p).data.receiver t
        = eventTaskletHandlerGet (s.event p).data.receiver s := by
      rw [eventTaskletHandlerGet, htasklets, eventTaskletHandlerGet]
    cases htasklet : eventTaskletHandlerGet (s.event p).data.receiver s with
    | none =>
      refine Or.inr ⟨?_, p, rest, rfl, htasklet⟩
      simp only [exec, dispatchRead_of_read hread, hreceiver, hget, htasklet, error_bind]
    | some tasklet =>
      refine Or.inl ⟨_, _, _, ?_, .dispatch hqueue htasklet,
        .cons (.relocate (.deliver hqueue)) (.single (.active _))⟩
      simp only [exec, dispatchRead_of_read hread, hreceiver, hget, htasklet, ok_bind, hmove]

/-- The first half of a dispatch. -/
lemma dispatchRead_of_exec {s s' : State} {r : Ret} (h : exec .dispatch s = .ok (s', r)) :
    ∃ next, r = .call next ∧ dispatchRead s = .ok (s', next) := by
  simp only [exec] at h
  cases hread : dispatchRead s with
  | error fault => simp [hread] at h
  | ok result =>
    obtain ⟨rfl, rfl⟩ : result.1 = s' ∧ .call result.2 = r := by simpa [hread] using h
    exact ⟨result.2, rfl, rfl⟩

/-- The second half of a dispatch. -/
lemma dispatchReturn_of_exec {s s' : State} {r : Ret} {p : Ptr} {rest : List Ptr}
    (hrun : s.running = p :: rest) (h : exec .handlerReturn s = .ok (s', r)) :
    r = .void ∧ dispatchReturn p s = .ok s' := by
  simp only [exec, hrun] at h
  cases hreturn : dispatchReturn p s with
  | error fault => simp [hreturn] at h
  | ok t =>
    obtain ⟨rfl, rfl⟩ : t = s' ∧ .void = r := by simpa [hreturn] using h
    exact ⟨rfl, rfl⟩

section

variable {m : Type → Type} [Monad m] [LawfulMonad m] [MonadLiftT (Except Fault) m]
  [LawfulMonadLiftT (Except Fault) m] {call : ArmCoreTasklet → Ptr → State → m State} {s s₁ : State}

/-- A dispatch that finds an event calls the function of its tasklet once. -/
lemma dispatchEvent_of_read {curEvent : Ptr} {tasklet : ArmCoreTasklet}
    (hread : dispatchRead s = .ok (s₁, some (curEvent, tasklet))) :
    eventOSSchedulerDispatchEvent call s = (do
      let t ← call tasklet curEvent s₁
      let u ← dispatchReturn curEvent t
      pure (u, true)) := by
  have hlift : (liftM (dispatchRead s) : m _) = pure (s₁, some (curEvent, tasklet)) := by
    rw [hread]
    exact liftM_pure _
  rw [eventOSSchedulerDispatchEvent, hlift, pure_bind]

end

theorem handlerWrite_performs {s : State} {data : ArmEvent} (valid : Valid s (.handlerWrite data)) :
    Performs s (.handlerWrite data) := by
  obtain ⟨p, rest, hrun, hqueue⟩ := valid
  refine ⟨_, _, _, ?_, .handlerWrite data hrun, .single (.write data hrun hqueue)⟩
  simp only [exec, hrun]

theorem setActiveTasklet_performs (s : State) (tasklet : BitVec 8) :
    Performs s (.setActiveTasklet tasklet) :=
  ⟨_, _, _, rfl, .setActiveTasklet tasklet, .single (.active tasklet)⟩

/-! ## Cancellation -/

section Cancel

variable {s : State} {p : Ptr}

lemma eventOSCancel_untimed (halloc : (s.event p).allocator ≠ .timer)
    (hstate : (s.event p).state = .queued) (hqueue : p ∈ s.eventQueueActive) :
    eventOSCancel (some p) s
      = eventCoreFreePush p { s with eventQueueActive := s.eventQueueActive.erase p } := by
  have hne : (State.event { s with eventQueueActive := s.eventQueueActive.erase p } p).state
      ≠ .running := by simp [State.event, hstate]
  simp only [eventOSCancel, halloc, hstate, eventOSEventCancelCritical,
    nsListRemove_of_mem hqueue, ↓reduceIte, ok_bind, if_pos hne]

lemma eventOSCancel_timed (halloc : (s.event p).allocator = .timer)
    (hstate : (s.event p).state = .queued) (hqueue : p ∈ s.eventQueueActive) :
    eventOSCancel (some p) s = eventCoreFreePush p
      { s.setPeriod p 0 with eventQueueActive := s.eventQueueActive.erase p } := by
  have hcancel : timerSysEventCancelCritical p s = .ok (s.setPeriod p 0) := by
    simp [timerSysEventCancelCritical, hstate]
  have hremove : nsListRemove (s.setPeriod p 0).eventQueueActive p
      = .ok (s.eventQueueActive.erase p) := nsListRemove_of_mem hqueue
  have hne : (State.event { s.setPeriod p 0 with
      eventQueueActive := s.eventQueueActive.erase p } p).state ≠ .running := by
    have hsame := congrArg ArmEventStorage.state (s.setPeriod_event p p 0)
    exact fun hrun => absurd (hrun.symm.trans (hsame.trans hstate)) (by decide)
  simp only [eventOSCancel, halloc, hcancel, State.setPeriod_event, hstate,
    eventOSEventCancelCritical, hremove, ↓reduceIte, ok_bind, if_pos hne]

lemma eventOSCancel_waiting (halloc : (s.event p).allocator = .timer)
    (hstate : (s.event p).state = .unqueued) (hlist : p ∈ s.systemTimerList) :
    eventOSCancel (some p) s = eventCoreFreePush p
      { s.setPeriod p 0 with systemTimerList := s.systemTimerList.erase p } := by
  have hremove : nsListRemove (s.setPeriod p 0).systemTimerList p
      = .ok (s.systemTimerList.erase p) := nsListRemove_of_mem hlist
  have hcancel : timerSysEventCancelCritical p s = .ok
      { s.setPeriod p 0 with systemTimerList := s.systemTimerList.erase p } := by
    simp only [timerSysEventCancelCritical, State.setPeriod_event, hstate, hremove, ↓reduceIte,
      ok_bind]
  have hstate' : (State.event { s.setPeriod p 0 with
      systemTimerList := s.systemTimerList.erase p } p).state = .unqueued :=
    (congrArg ArmEventStorage.state (s.setPeriod_event p p 0)).trans hstate
  simp only [eventOSCancel, halloc, hcancel, hstate', ↓reduceIte, ok_bind, reduceCtorEq, ne_eq,
    not_false_eq_true]

lemma eventOSCancel_running (hstate : (s.event p).state = .running) :
    eventOSCancel (some p) s
      = .ok (if (s.event p).allocator = .timer then s.setPeriod p 0 else s) := by
  have hcancel : timerSysEventCancelCritical p s = .ok (s.setPeriod p 0) := by
    simp [timerSysEventCancelCritical, hstate]
  by_cases halloc : (s.event p).allocator = .timer
  · simp [eventOSCancel, halloc, hcancel, hstate]
  · simp [eventOSCancel, halloc, hstate]

/-- `eventOS_cancel` of a timer event that is queued. -/
lemma eventOSCancel_queuedTimer (halloc : (s.event p).allocator = .timer)
    (hstate : (s.event p).state = .queued) (hqueue : p ∈ s.eventQueueActive) :
    eventOSCancel (some p) s = .ok (s.move p .queue .timerFree (s.mem p).cancelled (s.heap p)) := by
  rw [eventOSCancel_timed halloc hstate hqueue]
  apply eventCoreFreePush_oneShot
  · simp [State.setPeriod, State.store, State.event, halloc]
  · simp [State.setPeriod, State.store]
  · ext1 <;> simp [State.setState, State.setPeriod, State.store, State.leave, State.event,
      SysTimerStruct.cancelled, SysTimerStruct.tagged]

/-- `eventOS_cancel` of a timer that has not expired yet. -/
lemma eventOSCancel_waitingTimer (halloc : (s.event p).allocator = .timer)
    (hstate : (s.event p).state = .unqueued) (hlist : p ∈ s.systemTimerList) :
    eventOSCancel (some p) s
      = .ok (s.move p .timerList .timerFree (s.mem p).cancelled (s.heap p)) := by
  rw [eventOSCancel_waiting halloc hstate hlist]
  apply eventCoreFreePush_oneShot
  · simp [State.setPeriod, State.store, State.event, halloc]
  · simp [State.setPeriod, State.store]
  · ext1 <;> simp [State.setState, State.setPeriod, State.store, State.leave, State.event,
      SysTimerStruct.cancelled, SysTimerStruct.tagged]

/-- `eventOS_cancel` of an event of the queue. -/
lemma eventOSCancel_queue (own : Owned s) (hqueue : p ∈ s.eventQueueActive) :
    ∃ s', eventOSCancel (some p) s = .ok s' ∧ Run Move s (cancelActs s p) s' := by
  have hmem : p ∈ s.at_ .queue := hqueue
  have hstate : (s.event p).state = .queued := own.tag _ p hmem
  have halloc := own.allocator _ (by decide) p hmem
  cases hclass : s.classOf p with
  | pool =>
    have halloc' : (s.event p).allocator = .startupPool := by simpa [hclass] using halloc
    have hact : cancelActs s p = [.relocate p .queue .free ((s.mem p).tagged .free)] := by
      simp only [cancelActs, hqueue, hclass, ↓reduceIte]
    rw [hact, eventOSCancel_untimed (by simp [halloc']) hstate hqueue]
    refine ⟨_, eventCoreFreePush_pool halloc' ?_,
      .single (.relocate (.cancelPool hqueue hclass))⟩
    ext1 <;> simp [State.setState, State.store, State.leave, State.event, SysTimerStruct.tagged]
  | dynamic =>
    have halloc' : (s.event p).allocator = .dynamic := by simpa [hclass] using halloc
    have hact : cancelActs s p = [.relocate p .queue .outside (s.mem p)] := by
      simp only [cancelActs, hqueue, hclass, ↓reduceIte]
    rw [hact, eventOSCancel_untimed (by simp [halloc']) hstate hqueue]
    refine ⟨_, eventCoreFreePush_dynamic halloc' (by simp [State.heap_of_dynamic hclass]) ?_,
      .single (.relocate (.cancelDynamic hqueue hclass))⟩
    ext1 <;> simp [State.leave]
  | foreign =>
    have halloc' : (s.event p).allocator = .user := by simpa [hclass] using halloc
    have hact : cancelActs s p = [.relocate p .queue .outside (s.mem p)] := by
      simp only [cancelActs, hqueue, hclass, ↓reduceIte]
    rw [hact, eventOSCancel_untimed (by simp [halloc']) hstate hqueue]
    refine ⟨_, eventCoreFreePush_user halloc' ?_,
      .single (.relocate (.cancelUser hqueue hclass))⟩
    ext1 <;> simp [State.leave]
  | timer =>
    have halloc' : (s.event p).allocator = .timer := by simpa [hclass] using halloc
    have hact : cancelActs s p = [.relocate p .queue .timerFree (s.mem p).cancelled] := by
      simp only [cancelActs, hqueue, hclass, ↓reduceIte]
    rw [hact, eventOSCancel_queuedTimer halloc' hstate hqueue]
    exact ⟨_, rfl, .single (.relocate (.cancelQueued hqueue hclass))⟩

/-- `eventOS_cancel` of an entry of the timer list. -/
lemma eventOSCancel_timerList (own : Owned s) (hlist : p ∈ s.systemTimerList) :
    ∃ s', eventOSCancel (some p) s = .ok s' ∧ Run Move s (cancelActs s p) s' := by
  have hmem : p ∈ s.at_ .timerList := hlist
  have hstate : (s.event p).state = .unqueued := own.tag _ p hmem
  have hclass : s.classOf p = .timer := own.admits _ p hmem
  have halloc : (s.event p).allocator = .timer := by
    simpa [hclass] using own.allocator _ (by decide) p hmem
  have hqueue : p ∉ s.eventQueueActive := fun hq =>
    absurd (own.place_unique (A := .queue) hq hmem) (by decide)
  have hact : cancelActs s p = [.relocate p .timerList .timerFree (s.mem p).cancelled] := by
    simp only [cancelActs, hqueue, hlist, ↓reduceIte]
  rw [hact, eventOSCancel_waitingTimer halloc hstate hlist]
  exact ⟨_, rfl, .single (.relocate (.cancelWaiting hlist))⟩

/-- `eventOS_cancel` of an event that is valid. -/
theorem eventOSCancel_valid (own : Owned s) (valid : ValidEvent s p) :
    ∃ s', eventOSCancel (some p) s = .ok s' ∧ Run Move s (cancelActs s p) s' := by
  by_cases hqueue : p ∈ s.eventQueueActive
  · exact eventOSCancel_queue own hqueue
  by_cases hlist : p ∈ s.systemTimerList
  · exact eventOSCancel_timerList own hlist
  obtain ⟨hrun, hforeign⟩ := (valid.resolve_left hqueue).resolve_left hlist
  have hmem : s.classOf p ≠ .foreign → p ∈ s.at_ .running := by
    intro hclass
    simp [State.at_, hrun, hclass]
  have hstate : (s.event p).state = .running := by
    by_cases hclass : s.classOf p = .foreign
    · exact hforeign hclass
    · exact own.tag _ p (hmem hclass)
  have halloc : (s.event p).allocator = (s.classOf p).allocator := by
    by_cases hclass : s.classOf p = .foreign
    · simpa [hclass] using own.borrowed p hrun hclass
    · exact own.allocator _ (by decide) p (hmem hclass)
  rw [eventOSCancel_running hstate, halloc]
  by_cases hclass : s.classOf p = .timer
  · refine ⟨s.setPeriod p 0, by simp [hclass], ?_⟩
    simpa [cancelActs, hqueue, hlist, hclass] using Run.single (Move.unperiod hrun hclass)
  · refine ⟨s, ?_, by simp [cancelActs, hqueue, hlist, hclass]⟩
    cases hc : s.classOf p <;> simp_all

end Cancel

theorem cancel_performs {s : State} (own : Owned s) {event : Option Ptr}
    (valid : Valid s (.cancel event)) : Performs s (.cancel event) := by
  cases event with
  | none => exact ⟨s, _, _, rfl, .cancelNull, .nil⟩
  | some p =>
    obtain ⟨s', hcancel, hrun⟩ := eventOSCancel_valid own (valid p rfl)
    refine ⟨s', _, _, ?_, .cancel p, hrun⟩
    simp only [exec, hcancel, ok_bind]

omit [NsList] in
/-- What `eventOS_event_timer_cancel` finds is on the timer list or in the queue. -/
lemma timerCancelTarget_mem {s : State} {eventId taskletId : BitVec 8} {p : Ptr}
    (hp : timerCancelTarget s eventId taskletId = some p) :
    p ∈ s.systemTimerList ∨ p ∈ s.eventQueueActive := by
  unfold timerCancelTarget at hp
  split at hp
  · next cur hcur =>
    obtain rfl := Option.some.inj hp
    exact Or.inl (List.mem_of_find?_eq_some hcur)
  · obtain ⟨hfind, -⟩ := Option.filter_eq_some_iff.mp hp
    exact Or.inr (List.mem_of_find?_eq_some hfind)

lemma eventOSEventTimerCancel_eq (eventId taskletId : BitVec 8) (s : State) :
    eventOSEventTimerCancel eventId taskletId s =
      match timerCancelTarget s eventId taskletId with
      | some p => do
        let s ← eventOSCancel (some p) s
        .ok (s, 0)
      | none => .ok (s, -1) := by
  unfold eventOSEventTimerCancel timerCancelTarget
  cases s.systemTimerList.find? _ with
  | some cur => rfl
  | none =>
    cases eventOSEventFindByIdCritical taskletId eventId s with
    | none => rfl
    | some event =>
      by_cases halloc : (s.event event).allocator = .timer
      · simp [halloc, Option.filter]
      · simp [halloc, Option.filter]

theorem timerCancel_performs {s : State} (own : Owned s) (eventId taskletId : BitVec 8) :
    Performs s (.timerCancel eventId taskletId) := by
  cases htarget : timerCancelTarget s eventId taskletId with
  | none =>
    refine ⟨s, _, _, ?_, .timerCancelFail htarget, .nil⟩
    simp only [exec, eventOSEventTimerCancel_eq, htarget, ok_bind]
  | some p =>
    have valid : ValidEvent s p := by
      rcases timerCancelTarget_mem htarget with hlist | hqueue
      · exact Or.inr (Or.inl hlist)
      · exact Or.inl hqueue
    obtain ⟨s', hcancel, hrun⟩ := eventOSCancel_valid own valid
    refine ⟨s', _, _, ?_, .timerCancel htarget, hrun⟩
    simp only [exec, eventOSEventTimerCancel_eq, htarget, hcancel, ok_bind]

/-! ## Ticks -/

omit [NsList] in
/-- The timers behind the first are not written to when it expires. -/
lemma expireActs_cons {s : State} (own : Owned s) {cur : Ptr} {rest : List Ptr}
    (hl : s.systemTimerList = cur :: rest)
    (hdue : ticksBeforeOrAt (s.mem cur).launchTime s.timerSysTicks) :
    expireActs s = .relocate cur .timerList .queue ((s.mem cur).tagged .queue) ::
      expireActs (s.move cur .timerList .queue ((s.mem cur).tagged .queue) (s.heap cur)) := by
  have hnodup := own.nodup .timerList
  simp only [State.at_, hl, List.nodup_cons] at hnodup
  have hmem : ∀ q ∈ rest, (s.move cur .timerList .queue ((s.mem cur).tagged .queue)
      (s.heap cur)).mem q = s.mem q := by
    intro q hq
    have hne : q ≠ cur := fun heq => hnodup.1 (heq ▸ hq)
    simp [hne]
  have hrest : (s.move cur .timerList .queue ((s.mem cur).tagged .queue)
      (s.heap cur)).systemTimerList = rest := by simp [State.move_timerList, hl]
  have htake : rest.takeWhile (fun q => ticksBeforeOrAt ((s.move cur .timerList .queue
        ((s.mem cur).tagged .queue) (s.heap cur)).mem q).launchTime s.timerSysTicks)
      = rest.takeWhile (fun q => ticksBeforeOrAt (s.mem q).launchTime s.timerSysTicks) :=
    takeWhile_congr fun q hq => by rw [hmem q hq]
  simp only [expireActs, State.due, hl, hrest, List.takeWhile_cons, hdue, decide_true, ↓reduceIte,
    List.map_cons, State.move_ticks, htake]
  congr 1
  refine List.map_congr_left fun q hq => ?_
  rw [hmem q ((List.takeWhile_prefix _).subset hq)]

/-- The loop of `system_timer_tick_update` moves the timers that are due. -/
lemma tickUpdateLoop_performs (l : List Ptr) {s : State} (own : Owned s)
    (hl : s.systemTimerList = l) :
    ∃ s', tickUpdateLoop l s = .ok s' ∧ Run Move s (expireActs s) s' := by
  induction l generalizing s with
  | nil => exact ⟨s, rfl, by simp [expireActs, State.due, hl]⟩
  | cons cur rest ih =>
    by_cases hdue : ticksBeforeOrAt (s.mem cur).launchTime s.timerSysTicks
    · have hrow := Row.expire hl hdue
      let s₁ := s.move cur .timerList .queue ((s.mem cur).tagged .queue) (s.heap cur)
      have hrest : s₁.systemTimerList = rest := by simp [s₁, State.move_timerList, hl]
      obtain ⟨s', hloop, hrun⟩ := ih (own.row hrow) hrest
      have hmem : cur ∈ s.at_ .timerList := by simp [State.at_, hl]
      have hclass : s.classOf cur = .timer := own.admits _ _ hmem
      have halloc : (s.event cur).allocator = .timer := by
        simpa [hclass] using own.allocator _ (by decide) cur hmem
      have hsend : eventOSEventSendTimerAllocated cur { s with systemTimerList := rest } = s₁ := by
        refine sendTimerAllocated_eq_move ?_
        ext1 <;> simp [State.setState, State.setAllocator, State.store, State.leave, State.event,
          hl, SysTimerStruct.tagged, ← halloc]
      refine ⟨s', ?_, expireActs_cons own hl hdue ▸ Run.cons (.relocate hrow) hrun⟩
      simp only [tickUpdateLoop, hdue, hl, nsListRemove_head, ↓reduceIte, ok_bind]
      rw [hsend, hloop]
    · refine ⟨s, by simp [tickUpdateLoop, hdue], ?_⟩
      simp [expireActs, State.due, hl, hdue]

theorem systemTimerTickUpdate_performs {s : State} (own : Owned s) (ticks : BitVec 32) :
    ∃ s', systemTimerTickUpdate ticks s = .ok s' ∧ Run Move s
      (.clock ticks :: expireActs { s with timerSysTicks := s.timerSysTicks + ticks }) s' := by
  have hclock := Move.clock (s := s) ticks
  obtain ⟨s', hloop, hrun⟩ := tickUpdateLoop_performs _ (own.preserved hclock) rfl
  exact ⟨s', hloop, .cons hclock hrun⟩

theorem tickUpdate_performs {s : State} (own : Owned s) (ticks : BitVec 32) :
    Performs s (.tickUpdate ticks) := by
  obtain ⟨s', hupdate, hrun⟩ := systemTimerTickUpdate_performs own ticks
  exact ⟨s', _, _, by simp only [exec, hupdate, ok_bind], .tickUpdate ticks, hrun⟩

theorem synchAfterSleep_performs {s : State} (own : Owned s) (sleepTicks : BitVec 32)
    (wakeup : ℤ) : Performs s (.synchAfterSleep sleepTicks wakeup) := by
  obtain ⟨s', hupdate, hrun⟩ := systemTimerTickUpdate_performs own (sleepTicks / 10 + 1)
  refine ⟨s', _, _, ?_, .synchAfterSleep sleepTicks wakeup, hrun⟩
  simp only [exec, eventOSSchedulerTimerSynchAfterSleep, hupdate, ok_bind]

/-! ## Every operation -/

/-- **A valid operation runs into undefined behaviour only when a dispatch finds no tasklet for
the event it has taken. Otherwise what it does is a sequence of moves.** -/
theorem exec_performs {s : State} (own : Owned s) {op : Op} (valid : Valid s op) :
    Performs s op ∨ op = .dispatch ∧ exec op s = .error .noTasklet ∧ ∃ p rest,
      s.eventQueueActive = p :: rest ∧
        eventTaskletHandlerGet (s.event p).data.receiver s = none := by
  cases op with
  | handlerCreate => exact Or.inl (handlerCreate_performs own valid)
  | send => exact Or.inl (send_performs own valid)
  | sendUserAllocated => exact Or.inl (sendUserAllocated_performs valid)
  | sendTimerAllocated => exact Or.inl (sendTimerAllocated_performs valid)
  | requestAt => exact Or.inl (requestAt_performs valid)
  | requestIn => exact Or.inl (requestIn_performs valid)
  | requestEvery => exact Or.inl (requestEvery_performs valid)
  | request => exact Or.inl (legacyRequest_performs valid)
  | timerCancel => exact Or.inl (timerCancel_performs own _ _)
  | cancel => exact Or.inl (cancel_performs own valid)
  | tickUpdate => exact Or.inl (tickUpdate_performs own _)
  | synchAfterSleep => exact Or.inl (synchAfterSleep_performs own _ _)
  | setActiveTasklet => exact Or.inl (setActiveTasklet_performs s _)
  | handlerReturn => exact Or.inl (handlerReturn_performs own valid)
  | handlerWrite => exact Or.inl (handlerWrite_performs valid)
  | clientAlloc => exact Or.inl (clientAlloc_performs valid)
  | clientFree => exact Or.inl (clientFree_performs valid)
  | dispatch =>
    rcases dispatch_performs s with hok | ⟨herror, hqueue⟩
    · exact Or.inl hok
    · exact Or.inr ⟨rfl, herror, hqueue⟩

/-- What a step does. -/
theorem Step.effect {s s' : State} (own : Owned s) {op : Op} {r : Ret}
    (step : Step s (op, r) s') : ∃ acts, Effect s op r acts ∧ Run Move s acts s' := by
  have hexec := step.exec
  rcases exec_performs own step.valid with ⟨t, r', acts, hok, heffect, hrun⟩ | ⟨-, herror, -⟩
  · obtain ⟨rfl, rfl⟩ : t = s' ∧ r' = r := by simpa [hok] using hexec
    exact ⟨acts, heffect, hrun⟩
  · simp [herror] at hexec

omit [NsList] in
/-- A run of moves keeps the ownership invariant. -/
theorem Owned.run {s s' : State} {acts : List Act} (own : Owned s) (run : Run Move s acts s') :
    Owned s' :=
  run.invariant own fun _ _ _ own step => own.preserved step

/-- A step keeps the ownership invariant. -/
theorem Owned.step {s s' : State} {label : Op × Ret} (own : Owned s) (step : Step s label s') :
    Owned s' := by
  obtain ⟨acts, -, hrun⟩ := Step.effect own step
  exact own.run hrun

omit [NsList] in
/-- The rule for invariants of the moves that satisfy `P`. -/
theorem Owned.run_on {I : State → Prop} {P : Act → Prop}
    (hmove : ∀ s act s', Owned s → I s → P act → Move s act s' → I s') {s s' : State}
    {acts : List Act} (own : Owned s) (h : I s) (run : Run Move s acts s')
    (hacts : ∀ act ∈ acts, P act) : I s' := by
  have hboth : Owned s' ∧ I s' := run.invariant_on (I := fun s => Owned s ∧ I s) ⟨own, h⟩ hacts
    fun t act u ⟨hown, hI⟩ hP move => ⟨hown.preserved move, hmove t act u hown hI hP move⟩
  exact hboth.2

omit [NsList] in
/-- The rule for invariants of the life cycle. -/
theorem Owned.run_invariant {I : State → Prop}
    (hmove : ∀ s act s', Owned s → I s → Move s act s' → I s') {s s' : State} {acts : List Act}
    (own : Owned s) (h : I s) (run : Run Move s acts s') : I s' :=
  own.run_on (P := fun _ => True) (fun t act u hown hI _ => hmove t act u hown hI) h run
    fun _ _ => trivial

/-- The rule for invariants of the operations that satisfy `P`. -/
theorem RunOf.invariant {P : State → Op → Prop} {I : State → Prop}
    (hstep : ∀ s op r s' acts, Owned s → I s → Valid s op → P s op → Effect s op r acts →
      Run Move s acts s' → I s') {s₀ s : State} {l : List (Op × Ret)} (own : Owned s₀)
    (h : I s₀) (run : RunOf P s₀ l s) : Owned s ∧ I s := by
  refine Run.invariant (I := fun s => Owned s ∧ I s) run ⟨own, h⟩
    fun t label u ⟨hown, hI⟩ ⟨step, hP⟩ => ?_
  obtain ⟨acts, heffect, hrun⟩ := Step.effect hown step
  exact ⟨hown.run hrun, hstep t _ _ u acts hown hI step.valid hP heffect hrun⟩

/-! ## Initialisation -/

omit [NsList] in
lemma State.setAllocator_self {s : State} {p : Ptr} {allocator : Allocator}
    (h : (s.event p).allocator = allocator) : s.setAllocator p allocator = s := by
  subst h
  ext1 <;> simp [setAllocator, store]

/-- The loop over the startup pool: it starts as zeros, so its `allocator` fields are right. -/
lemma Boot.eventPool_foldl {s : State} (boot : Boot s) (l : List (Fin startupEventPoolSize))
    (t : State) (ht : t.mem = s.mem) :
    l.foldl (fun (s : State) i =>
      { s.setAllocator (.startupEventPool i) .startupPool with
        freeEventEntry := NsList.addToStart s.freeEventEntry (.startupEventPool i) }) t
    = { t with freeEventEntry := (l.map Ptr.startupEventPool).reverse ++ t.freeEventEntry } := by
  induction l generalizing t with
  | nil => rfl
  | cons i l ih =>
    have halloc : (t.event (.startupEventPool i)).allocator = .startupPool := by
      simp [State.event, ht, boot.eventPool i, SysTimerStruct.zero]
    rw [List.foldl_cons, State.setAllocator_self halloc, NsList.addToStart_eq]
    refine (ih { t with freeEventEntry := .startupEventPool i :: t.freeEventEntry } ht).trans ?_
    simp

lemma timerPool_foldl (l : List (Fin stMax)) (free : List Ptr) :
    l.foldl (fun free i => NsList.addToStart free (.startupSysTimerPool i)) free
      = (l.map Ptr.startupSysTimerPool).reverse ++ free := by
  induction l generalizing free with
  | nil => rfl
  | cons i l ih =>
    rw [List.foldl_cons, NsList.addToStart_eq, ih]
    simp

/-- The state after `eventOS_scheduler_init`. -/
lemma Boot.init_eq {s : State} (boot : Boot s) :
    eventOSSchedulerInit s =
      { s with
        freeEventEntry := ((List.finRange startupEventPoolSize).map .startupEventPool).reverse
        eventQueueActive := []
        armCoreTaskletList := []
        systemTimerFree := ((List.finRange stMax).map .startupSysTimerPool).reverse
        currTasklet := 0 } := by
  have hpool := boot.eventPool_foldl (List.finRange startupEventPoolSize)
    { s with freeEventEntry := [], eventQueueActive := [], armCoreTaskletList := [] } rfl
  simp only [List.append_nil] at hpool
  refine Eq.trans (congrArg (fun t => { timerSysInit t with currTasklet := 0 }) hpool) ?_
  simp only [timerSysInit, timerPool_foldl, boot.systemTimerFree, List.append_nil]

omit [NsList] in
/-- A storage of a startup pool is once on its free list. -/
lemma count_pool_self {n : ℕ} {f : Fin n → Ptr} (hf : Function.Injective f) (i : Fin n) :
    ((List.finRange n).map f).reverse.count (f i) = 1 := by
  rw [List.count_reverse]
  exact List.count_eq_one_of_mem ((List.nodup_finRange n).map hf)
    (List.mem_map_of_mem (List.mem_finRange i))

/-- The ownership invariant holds after initialisation. -/
theorem Initial.owned {s : State} (init : Initial s) : Owned s := by
  obtain ⟨s₀, boot, hs⟩ := init
  rw [boot.init_eq] at hs
  have hfree : s.at_ .free
      = ((List.finRange startupEventPoolSize).map .startupEventPool).reverse := by rw [hs]; rfl
  have htimer : s.at_ .timerFree = ((List.finRange stMax).map .startupSysTimerPool).reverse := by
    rw [hs]; rfl
  -- the two free lists hold the startup pools, every other list is empty
  have hempty : ∀ A, A ≠ .free → A ≠ .timerFree → s.at_ A = [] := by
    intro A hA hA'
    cases A <;> simp_all [State.at_, boot.systemTimerList, boot.running]
  have hmem : ∀ A, ∀ p ∈ s.at_ A, (A = .free ∧ ∃ i, p = .startupEventPool i) ∨
      (A = .timerFree ∧ ∃ i, p = .startupSysTimerPool i) := by
    intro A p hp
    by_cases hA : A = .free
    · subst hA
      rw [hfree] at hp
      simpa [eq_comm] using hp
    by_cases hA' : A = .timerFree
    · subst hA'
      rw [htimer] at hp
      simpa [eq_comm] using hp
    · simp [hempty A hA hA'] at hp
  have htotal : ∀ p, s.total p
      = ((List.finRange startupEventPoolSize).map Ptr.startupEventPool).reverse.count p
        + ((List.finRange stMax).map Ptr.startupSysTimerPool).reverse.count p := by
    intro p
    simp only [State.total, hfree, htimer, hempty .queue (by decide) (by decide),
      hempty .running (by decide) (by decide), hempty .timerList (by decide) (by decide)]
    simp
  -- a startup pool is counted on its own free list only, and a heap block nowhere
  have hevent : ∀ i, s.total (.startupEventPool i) = 1 := by
    intro i
    rw [htotal, count_pool_self (fun i j h => by simpa using h), List.count_eq_zero.mpr (by simp)]
  have hsysTimer : ∀ i, s.total (.startupSysTimerPool i) = 1 := by
    intro i
    rw [htotal, count_pool_self (fun i j h => by simpa using h), List.count_eq_zero.mpr (by simp)]
  have hheap : ∀ a, s.total (.heap a) = 0 := by
    intro a
    rw [htotal, List.count_eq_zero.mpr (by simp), List.count_eq_zero.mpr (by simp)]
  have hmem_eq : s.mem = s₀.mem := by rw [hs]
  refine ⟨?_, ?_, ?_, ?_, ?_, ?_⟩
  · intro p
    cases p <;> simp [hevent, hsysTimer, hheap]
  · intro p hp
    cases p with
    | startupEventPool i => exact hevent i
    | startupSysTimerPool i => exact hsysTimer i
    | heap a => exact absurd (by simp [State.classOf, hs, boot.heap]) hp
  · intro A p hp
    rcases hmem A p hp with ⟨rfl, i, rfl⟩ | ⟨rfl, i, rfl⟩
    · simp [State.event, hmem_eq, boot.eventPool i, SysTimerStruct.zero]
    · simp [State.event, hmem_eq, boot.timerPool i, SysTimerStruct.zero]
  · intro A p hp
    rcases hmem A p hp with ⟨rfl, i, rfl⟩ | ⟨rfl, i, rfl⟩ <;> rfl
  · intro A hA p hp
    rcases hmem A p hp with ⟨rfl, i, rfl⟩ | ⟨rfl, i, rfl⟩
    · simp [State.event, hmem_eq, boot.eventPool i, SysTimerStruct.zero, State.classOf]
    · exact absurd rfl hA
  · intro p hp
    simp [hs, boot.running] at hp

/-- **The ownership invariant holds in every reachable state.** -/
theorem Reachable.owned {s : State} (reachable : Reachable s) : Owned s := by
  obtain ⟨s₀, l, init, run⟩ := reachable
  exact run.invariant init.owned fun _ _ _ own step => own.step step

/-- An invariant of the life cycle that holds at the start holds in every reachable state. -/
theorem Reachable.invariant {I : State → Prop} (hinit : ∀ s, Initial s → I s)
    (hmove : ∀ s act s', Owned s → I s → Move s act s' → I s') {s : State}
    (reachable : Reachable s) : I s := by
  obtain ⟨s₀, l, init, run⟩ := reachable
  have hboth : Owned s ∧ I s := run.invariant (I := fun s => Owned s ∧ I s)
    ⟨init.owned, hinit s₀ init⟩ fun t label u ⟨hown, hI⟩ step => by
      obtain ⟨acts, -, hrun⟩ := Step.effect hown step
      exact ⟨hown.run hrun, hown.run_invariant hmove hI hrun⟩
  exact hboth.2

end EventLoop
