import EventLoop.StorageTheorems
import EventLoop.Receivers
import EventLoop.Ticks

/-!
# Initialising again

`eventOS_scheduler_init` resets the lists of `event.c` and then calls `timer_sys_init`, which
adds the startup timers to `system_timer_free` and resets neither that list nor
`system_timer_list`. So the second call gives back a clean state only when no startup timer is
on one of the two timer lists and nothing waits for its time (`init_restores_iff`). Otherwise a
startup timer is free twice, or free and armed, or a timer expires for a tasklet that is no
longer registered (`exists_stray`).
-/

namespace EventLoop

open Lib

section

variable [NsList]

/-- A clean ownership state, as `eventOS_scheduler_init` should leave it: the startup storages
are free, nothing is queued or registered, and no timer that is left over is delivered to a
receiver that is not registered. -/
structure Restored (s : State) : Prop where
  events : ∀ i, s.freeEventEntry.count (.startupEventPool i) = 1
  queue : s.eventQueueActive = []
  tasklets : s.armCoreTaskletList = []
  timers : ∀ i, s.systemTimerFree.count (.startupSysTimerPool i) = 1
  elsewhere : ∀ i, .startupSysTimerPool i ∉ s.systemTimerList ∧
    .startupSysTimerPool i ∉ s.eventQueueActive ∧ .startupSysTimerPool i ∉ s.freeEventEntry
  delivers : ∀ p ∈ s.systemTimerList, ∀ l t rest, Run Step s l t →
    t.eventQueueActive = p :: rest → Known t (t.event p).data.receiver

/-! ## The state after initialisation -/

/-- The loop over the startup pool writes `allocator` fields and adds to the free list. -/
lemma eventPool_foldl (l : List (Fin startupEventPoolSize)) (s : State) :
    ∃ mem, l.foldl (fun (s : State) i =>
      { s.setAllocator (.startupEventPool i) .startupPool with
        freeEventEntry := NsList.addToStart s.freeEventEntry (.startupEventPool i) }) s
    = { s with
        mem := mem
        freeEventEntry := (l.map Ptr.startupEventPool).reverse ++ s.freeEventEntry } := by
  induction l generalizing s with
  | nil => exact ⟨s.mem, rfl⟩
  | cons i l ih =>
    obtain ⟨mem, hmem⟩ := ih
      { s.setAllocator (.startupEventPool i) .startupPool with
        freeEventEntry := NsList.addToStart s.freeEventEntry (.startupEventPool i) }
    refine ⟨mem, ?_⟩
    rw [List.foldl_cons, hmem]
    simp [State.setAllocator, State.store]

/-- What `eventOS_scheduler_init` does to any state: the lists of `event.c` start anew, those of
`system_timer.c` are continued. -/
lemma schedulerInit_eq (s : State) : ∃ mem, eventOSSchedulerInit s =
    { s with
      mem := mem
      freeEventEntry := ((List.finRange startupEventPoolSize).map .startupEventPool).reverse
      eventQueueActive := []
      armCoreTaskletList := []
      systemTimerFree :=
        ((List.finRange stMax).map .startupSysTimerPool).reverse ++ s.systemTimerFree
      currTasklet := 0 } := by
  obtain ⟨mem, hpool⟩ := eventPool_foldl (List.finRange startupEventPoolSize)
    { s with freeEventEntry := [], eventQueueActive := [], armCoreTaskletList := [] }
  simp only [List.append_nil] at hpool
  refine ⟨mem, Eq.trans (congrArg (fun t => { timerSysInit t with currTasklet := 0 }) hpool) ?_⟩
  simp only [timerSysInit, timerPool_foldl]

section Init

variable (s : State)

lemma schedulerInit_freeEventEntry : (eventOSSchedulerInit s).freeEventEntry
    = ((List.finRange startupEventPoolSize).map .startupEventPool).reverse := by
  obtain ⟨mem, hinit⟩ := schedulerInit_eq s
  rw [hinit]

@[simp] lemma schedulerInit_queue : (eventOSSchedulerInit s).eventQueueActive = [] := by
  obtain ⟨mem, hinit⟩ := schedulerInit_eq s
  rw [hinit]

@[simp] lemma schedulerInit_tasklets : (eventOSSchedulerInit s).armCoreTaskletList = [] := by
  obtain ⟨mem, hinit⟩ := schedulerInit_eq s
  rw [hinit]

@[simp] lemma schedulerInit_timerList :
    (eventOSSchedulerInit s).systemTimerList = s.systemTimerList := by
  obtain ⟨mem, hinit⟩ := schedulerInit_eq s
  rw [hinit]

/-- A startup timer is on the free list once more than before. -/
lemma schedulerInit_timerFree_count (i : Fin stMax) :
    (eventOSSchedulerInit s).systemTimerFree.count (.startupSysTimerPool i)
      = 1 + s.systemTimerFree.count (.startupSysTimerPool i) := by
  obtain ⟨mem, hinit⟩ := schedulerInit_eq s
  have hpool := count_pool_self (f := Ptr.startupSysTimerPool)
    (fun i j h => by simpa using h) i
  rw [hinit, List.count_append, hpool]

/-- The events of the startup pool are free again, whatever was before. -/
theorem schedulerInit_events (i : Fin startupEventPoolSize) :
    (eventOSSchedulerInit s).freeEventEntry.count (.startupEventPool i) = 1 := by
  rw [schedulerInit_freeEventEntry]
  exact count_pool_self (fun i j h => by simpa using h) i

/-- No timer gets on the free list of the events. -/
lemma schedulerInit_notMem_events (i : Fin stMax) :
    .startupSysTimerPool i ∉ (eventOSSchedulerInit s).freeEventEntry := by
  rw [schedulerInit_freeEventEntry]
  simp

end Init

/-! ## Timers that are left over -/

/-- With no tasklet registered, the dispatcher has nothing to call for the next event. -/
lemma dispatch_unregistered {s : State} {p : Ptr} {rest : List Ptr}
    (hqueue : s.eventQueueActive = p :: rest) (htasklets : s.armCoreTaskletList = []) :
    exec .dispatch s = .error .noTasklet := by
  obtain ⟨t, hread, htaskletsRead, -, -⟩ := eventCoreRead_cons hqueue
  have hget : eventTaskletHandlerGet (t.event p).data.receiver t = none := by
    rw [eventTaskletHandlerGet, htaskletsRead, htasklets, List.find?_nil]
  simp only [exec, dispatchRead_of_read hread, hget, error_bind]

/-- With no tasklet registered and nothing queued, a timer that is left on the timer list expires
for nobody: once its launch time has come a timer of the list is the next event. -/
theorem exists_stray {s : State} (hqueue : s.eventQueueActive = [])
    (htasklets : s.armCoreTaskletList = []) (hlist : s.systemTimerList ≠ []) :
    ∃ q ∈ s.systemTimerList, ∃ l t rest, Run Step s l t ∧ t.eventQueueActive = q :: rest ∧
      t.armCoreTaskletList = [] := by
  obtain ⟨p, rest, hp⟩ := List.exists_cons_of_ne_nil hlist
  -- the tick update up to the launch time of the first timer
  let ticks := (s.mem p).launchTime - s.timerSysTicks
  let u : State := { s.advance ticks with systemTimerList := (s.advance ticks).waiting }
  let t := sendAll (s.advance ticks).due u
  have hstep : Step s (.tickUpdate ticks, .void) t := by
    refine ⟨trivial, ?_⟩
    show (systemTimerTickUpdate ticks s >>= fun s => .ok (s, Ret.void)) = _
    rw [systemTimerTickUpdate_eq, ok_bind]
  have hdue : ticksBeforeOrAt (s.mem p).launchTime (s.timerSysTicks + ticks) := by
    have hnow : s.timerSysTicks + ticks = (s.mem p).launchTime := by
      show s.timerSysTicks + ((s.mem p).launchTime - s.timerSysTicks) = _
      bv_omega
    rw [hnow]
    simp [ticksBeforeOrAt]
  have hmem : ∀ q, q ∈ t.eventQueueActive ↔ q ∈ (s.advance ticks).due := by
    intro q
    rw [sendAll_mem]
    simp [u, State.advance, hqueue]
  have hsent : p ∈ t.eventQueueActive := by
    rw [hmem]
    simp [State.due, State.advance, hp, hdue]
  obtain ⟨q, rest', hq⟩ := List.exists_cons_of_ne_nil (List.ne_nil_of_mem hsent)
  have hqdue : q ∈ (s.advance ticks).due := (hmem q).mp (by simp [hq])
  refine ⟨q, (List.takeWhile_prefix _).subset hqdue, _, t, rest', .single hstep, hq, ?_⟩
  rw [sendAll_tasklets]
  exact htasklets

/-- No timer may be left on the timer list when no tasklet is registered. -/
lemma Restored.timerList {s : State} (restored : Restored s) : s.systemTimerList = [] := by
  by_contra hlist
  obtain ⟨q, hq, l, t, rest, run, hqueue, htasklets⟩ :=
    exists_stray restored.queue restored.tasklets hlist
  have hknown := restored.delivers q hq l t rest run hqueue
  simp [Known, eventTaskletHandlerGet, htasklets] at hknown

/-- **When initialising again restores a clean ownership state**, with nothing running: exactly
if every startup timer is in the event queue and no timer waits for its time. -/
theorem init_restores_iff {s : State} (reachable : Reachable s) (hrunning : s.running = []) :
    Restored (eventOSSchedulerInit s) ↔
      (∀ i, .startupSysTimerPool i ∈ s.eventQueueActive) ∧ s.systemTimerList = [] := by
  have hcount : ∀ i, s.systemTimerFree.count (.startupSysTimerPool i)
      + s.systemTimerList.count (.startupSysTimerPool i)
      + s.eventQueueActive.count (.startupSysTimerPool i) = 1 := by
    intro i
    have htimer := (reachable.owned.timer_count (p := .startupSysTimerPool i) rfl).1
    simpa [hrunning] using htimer
  constructor
  · intro restored
    have hlist : s.systemTimerList = [] := by simpa using restored.timerList
    refine ⟨fun i => ?_, hlist⟩
    -- a storage that was on the free list is there twice now
    have hfree := restored.timers i
    have hone := hcount i
    rw [schedulerInit_timerFree_count] at hfree
    rw [hlist, List.count_nil] at hone
    exact List.count_pos_iff.mp (by omega)
  · rintro ⟨hqueued, hlist⟩
    refine ⟨schedulerInit_events s, by simp, by simp, fun i => ?_, fun i => ?_, ?_⟩
    · have hone := hcount i
      have hpos := List.count_pos_iff.mpr (hqueued i)
      rw [schedulerInit_timerFree_count]
      omega
    · exact ⟨by simp [hlist], by simp, schedulerInit_notMem_events s i⟩
    · simp [hlist]

end

/-! ## Initialising again on a sample -/

/-- A program that registers a tasklet and requests timers for it: after how many ticks, and
with which answer of the allocator if it is asked. -/
def requestOps (requests : List (BitVec 32 × Option Ptr)) : List Op :=
  let event : ArmEvent :=
    { receiver := 0, sender := 0, eventType := 2, eventId := 3, dataPtr := none
      priority := .med, eventData := 4 }
  .handlerCreate 7 1 (some (.heap 0)) none ::
    requests.map fun (in_, answer) => .requestIn event in_ answer

/-- With all startup timers in the queue, initialising again restores a clean state. -/
theorem init_restores_iff_sample : ∃ s, Reachable s ∧ s.running = [] ∧
    s.eventQueueActive.length = 7 ∧ Restored (eventOSSchedulerInit s) := by
  have hsome : (drive (fun _ _ => True) (requestOps (List.replicate 6 (0, none)))
      (eventOSSchedulerInit (.boot 0))).map (fun s => (s.running, s.eventQueueActive.length,
        decide ((∀ i, .startupSysTimerPool i ∈ s.eventQueueActive) ∧ s.systemTimerList = [])))
      = some ([], 7, true) := by decide +kernel
  obtain ⟨s, hs, heq⟩ := Option.map_eq_some_iff.mp hsome
  simp only [Prod.mk.injEq, decide_eq_true_eq] at heq
  obtain ⟨hrunning, hlength, hqueued⟩ := heq
  have reachable : Reachable s := reachable_of_drive hs
  exact ⟨s, reachable, hrunning, hlength, (init_restores_iff reachable hrunning).mpr hqueued⟩

/-- Five startup timers are in the queue, and the sixth and an allocated one wait. After another
initialisation the sixth is free and armed; and the allocated one, left on the timer list,
expires for a tasklet that is not there. -/
theorem not_init_restores : ∃ s, Reachable s ∧ s.running = [] ∧
    .startupSysTimerPool 0 ∈ (eventOSSchedulerInit s).systemTimerFree ∧
    .startupSysTimerPool 0 ∈ (eventOSSchedulerInit s).systemTimerList ∧
    (∃ t, Step (eventOSSchedulerInit s) (.tickUpdate 1, .void) t ∧
      t.eventQueueActive = [.heap 1] ∧ exec .dispatch t = .error .noTasklet) ∧
    ¬ Restored (eventOSSchedulerInit s) := by
  have hsome : (drive (fun _ _ => True)
      (requestOps (List.replicate 5 (0, none) ++ [(9, none), (1, some (.heap 1))]))
      (eventOSSchedulerInit (.boot 0))).bind (fun s =>
        (exec (.tickUpdate 1) (eventOSSchedulerInit s)).toOption.map fun (t, r) =>
          (r, s.running, s.systemTimerList, t.eventQueueActive, t.armCoreTaskletList))
      = some (.void, [], [.heap 1, .startupSysTimerPool 0], [.heap 1], []) := by
    decide +kernel
  obtain ⟨s, hs, hticked⟩ := Option.bind_eq_some_iff.mp hsome
  obtain ⟨⟨t, r⟩, hexec, heq⟩ := Option.map_eq_some_iff.mp hticked
  simp only [Prod.mk.injEq] at heq
  obtain ⟨rfl, hrunning, hlist, hqueue, htasklets⟩ := heq
  have hstep : Step (eventOSSchedulerInit s) (.tickUpdate 1, .void) t :=
    ⟨trivial, toOption_eq_some.mp hexec⟩
  refine ⟨s, reachable_of_drive hs, hrunning, ?_, by simp [hlist],
    ⟨t, hstep, hqueue, dispatch_unregistered hqueue htasklets⟩, fun restored => ?_⟩
  · have hcount := schedulerInit_timerFree_count s 0
    exact List.count_pos_iff.mp (by omega)
  · exact absurd restored.timerList (by simp [hlist])

end EventLoop
