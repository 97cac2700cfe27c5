import EventLoop.Concurrent
import EventLoop.Ticks
import EventLoop.Lib.ListLemmas
import Mathlib.Data.List.Find

/-!
# What a critical section does not depend on

A storage that is in the hands of another call is on no list. The critical sections neither read
nor write it, and but for those that take an event from the free list or put one there they do not
depend on the free list either. So they can be run in a state in which these storages and the free
list are those of another state (`State.veil`), to the same effect.
-/

namespace EventLoop

open Lib

/-- The state with the storages in `held` and the free list taken from the state `t`. -/
def State.veil (held : List Ptr) (s t : State) : State :=
  { s with
    mem := fun p => if p ∈ held then t.mem p else s.mem p
    heap := fun p => if p ∈ held then t.heap p else s.heap p
    freeEventEntry := t.freeEventEntry }

/-- No list of the timers or the queue has a storage of `held`. -/
structure State.Clear (held : List Ptr) (s : State) : Prop where
  queue : ∀ p ∈ s.eventQueueActive, p ∉ held
  timerList : ∀ p ∈ s.systemTimerList, p ∉ held
  timerFree : ∀ p ∈ s.systemTimerFree, p ∉ held

namespace State

variable {held : List Ptr} {t s : State} {p q : Ptr}

/-! ## Reading behind the veil -/

@[simp] lemma veil_tasklets : (s.veil held t).armCoreTaskletList = s.armCoreTaskletList := rfl

@[simp] lemma veil_queue : (s.veil held t).eventQueueActive = s.eventQueueActive := rfl

@[simp] lemma veil_free : (s.veil held t).freeEventEntry = t.freeEventEntry := rfl

@[simp] lemma veil_timerFree : (s.veil held t).systemTimerFree = s.systemTimerFree := rfl

@[simp] lemma veil_timerList : (s.veil held t).systemTimerList = s.systemTimerList := rfl

@[simp] lemma veil_ticks : (s.veil held t).timerSysTicks = s.timerSysTicks := rfl

@[simp] lemma veil_running : (s.veil held t).running = s.running := rfl

lemma veil_mem (hp : p ∉ held) : (s.veil held t).mem p = s.mem p := if_neg hp

lemma veil_mem_of_held (hp : p ∈ held) : (s.veil held t).mem p = t.mem p := if_pos hp

lemma veil_heap (hp : p ∉ held) : (s.veil held t).heap p = s.heap p := if_neg hp

lemma veil_heap_of_held (hp : p ∈ held) : (s.veil held t).heap p = t.heap p := if_pos hp

lemma veil_event (hp : p ∉ held) : (s.veil held t).event p = s.event p :=
  congrArg SysTimerStruct.event (veil_mem hp)

lemma veil_priority (hp : p ∉ held) : (s.veil held t).priority p = s.priority p := by
  rw [priority, veil_event hp, priority]

/-- A state is behind its own veil. -/
lemma veil_self (held : List Ptr) (s : State) : s.veil held s = s := by
  ext1 <;> simp [veil]

/-- The first veil is the one that is seen. -/
lemma veil_veil (held : List Ptr) (s t : State) : s.veil held (s.veil held t) = s.veil held t := by
  ext1 <;> simp +contextual [veil]

/-! ## Writing behind the veil -/

lemma veil_store (hp : p ∉ held) (v : SysTimerStruct) :
    (s.veil held t).store p v = (s.store p v).veil held t := by
  have hmem : Function.update (s.veil held t).mem p v
      = fun q => if q ∈ held then t.mem q else Function.update s.mem p v q := by
    funext q
    by_cases hqp : q = p
    · subst hqp
      simp [hp]
    · simp [veil, hqp]
  exact congrArg (fun mem => { s.veil held t with mem := mem }) hmem

lemma veil_setHeap (hp : p ∉ held) (h : Option HeapObject) :
    { s.veil held t with heap := Function.update (s.veil held t).heap p h }
      = State.veil held { s with heap := Function.update s.heap p h } t := by
  have hheap : Function.update (s.veil held t).heap p h
      = fun q => if q ∈ held then t.heap q else Function.update s.heap p h q := by
    funext q
    by_cases hqp : q = p
    · subst hqp
      simp [hp]
    · simp [veil, hqp]
  exact congrArg (fun heap => { s.veil held t with heap := heap }) hheap

lemma veil_setState (hp : p ∉ held) (state : EventState) :
    (s.veil held t).setState p state = (s.setState p state).veil held t := by
  rw [setState, veil_event hp, veil_mem hp, veil_store hp, setState]

lemma veil_setAllocator (hp : p ∉ held) (allocator : Allocator) :
    (s.veil held t).setAllocator p allocator = (s.setAllocator p allocator).veil held t := by
  rw [setAllocator, veil_event hp, veil_mem hp, veil_store hp, setAllocator]

lemma veil_setPeriod (hp : p ∉ held) (period : BitVec 32) :
    (s.veil held t).setPeriod p period = (s.setPeriod p period).veil held t := by
  rw [setPeriod, veil_mem hp, veil_store hp, setPeriod]

lemma veil_setLaunchTime (hp : p ∉ held) (launchTime : BitVec 32) :
    (s.veil held t).setLaunchTime p launchTime
      = (s.setLaunchTime p launchTime).veil held t := by
  rw [setLaunchTime, veil_mem hp, veil_store hp, setLaunchTime]

lemma veil_enter_queue (hq : ∀ q ∈ s.eventQueueActive, q ∉ held) (hp : p ∉ held) :
    (s.veil held t).enter p .queue = (s.enter p .queue).veil held t := by
  have hinsert : (s.veil held t).eventQueueActive.orderedInsert
      (fun a b => (s.veil held t).priority a < (s.veil held t).priority b) p
        = s.eventQueueActive.orderedInsert (fun a b => s.priority a < s.priority b) p :=
    orderedInsert_congr fun q hmem => by rw [veil_priority hp, veil_priority (hq q hmem)]
  exact congrArg (fun queue => { s.veil held t with eventQueueActive := queue }) hinsert

lemma veil_enter_timerList (hl : ∀ q ∈ s.systemTimerList, q ∉ held) (hp : p ∉ held) :
    (s.veil held t).enter p .timerList = (s.enter p .timerList).veil held t := by
  have hinsert : (s.veil held t).systemTimerList.orderedInsert
      (fun a b => ticksBefore ((s.veil held t).mem a).launchTime
        ((s.veil held t).mem b).launchTime) p
        = s.systemTimerList.orderedInsert
          (fun a b => ticksBefore (s.mem a).launchTime (s.mem b).launchTime) p :=
    orderedInsert_congr fun q hmem => by rw [veil_mem hp, veil_mem (hl q hmem)]
  exact congrArg (fun list => { s.veil held t with systemTimerList := list }) hinsert

end State

/-! ## Critical sections -/

section

variable [NsList] {held : List Ptr} {t s : State} {p : Ptr}

open State

lemma eventCoreWrite_veil (hq : ∀ q ∈ s.eventQueueActive, q ∉ held) (hp : p ∉ held) :
    eventCoreWrite p (s.veil held t) = (eventCoreWrite p s).veil held t := by
  rw [eventCoreWrite_eq, veil_setState hp, veil_enter_queue (s := s.setState p .queued) hq hp,
    eventCoreWrite_eq]

lemma sendTimerAllocated_veil (hq : ∀ q ∈ s.eventQueueActive, q ∉ held) (hp : p ∉ held) :
    eventOSEventSendTimerAllocated p (s.veil held t)
      = (eventOSEventSendTimerAllocated p s).veil held t := by
  rw [eventOSEventSendTimerAllocated, veil_setAllocator hp,
    eventCoreWrite_veil (s := s.setAllocator p .timer) hq hp, eventOSEventSendTimerAllocated]

lemma timerSysAdd_veil (hl : ∀ q ∈ s.systemTimerList, q ∉ held) (hp : p ∉ held) :
    timerSysAdd p (s.veil held t) = (timerSysAdd p s).veil held t := by
  rw [timerSysAdd_eq, veil_enter_timerList hl hp, timerSysAdd_eq]

/-- `timer_sys_event_free` behind a veil. -/
lemma timerSysEventFree_veil (clear : s.Clear held) (hp : p ∉ held) :
    timerSysEventFree p (s.veil held t) = (timerSysEventFree p s).veil held t := by
  unfold timerSysEventFree
  rw [veil_mem hp]
  split
  · rfl
  · simp only [veil_setLaunchTime hp]
    rw [veil_mem hp, veil_ticks]
    split
    · exact sendTimerAllocated_veil (s := s.setLaunchTime p _) clear.queue hp
    · exact timerSysAdd_veil (s := s.setLaunchTime p _) clear.timerList hp

lemma tickUpdateLoop_veil {l : List Ptr} (hl : ∀ q ∈ l, q ∉ held)
    (hq : ∀ q ∈ s.eventQueueActive, q ∉ held) :
    tickUpdateLoop l (s.veil held t) = (tickUpdateLoop l s).map (·.veil held t) := by
  induction l generalizing s with
  | nil => rfl
  | cons cur rest ih =>
    obtain ⟨hcur, hrest⟩ := List.forall_mem_cons.mp hl
    simp only [tickUpdateLoop, veil_mem hcur, veil_ticks, veil_timerList]
    split
    · cases nsListRemove s.systemTimerList cur with
      | error fault => rfl
      | ok list =>
        have hsend : eventOSEventSendTimerAllocated cur
            { s.veil held t with systemTimerList := list }
              = (eventOSEventSendTimerAllocated cur
                { s with systemTimerList := list }).veil held t :=
          sendTimerAllocated_veil (s := { s with systemTimerList := list }) hq hcur
        simp only [ok_bind]
        refine (congrArg (tickUpdateLoop rest) hsend).trans (ih hrest fun q hmem => ?_)
        rcases List.mem_cons.mp ((send_queue_perm cur _).mem_iff.mp hmem) with rfl | hmem
        · exact hcur
        · exact hq q hmem
    · rfl

/-- `system_timer_tick_update` behind a veil. -/
lemma systemTimerTickUpdate_veil (clear : s.Clear held) (ticks : BitVec 32) :
    systemTimerTickUpdate ticks (s.veil held t)
      = (systemTimerTickUpdate ticks s).map (·.veil held t) :=
  tickUpdateLoop_veil (s := { s with timerSysTicks := s.timerSysTicks + ticks }) clear.timerList
    clear.queue

/-- `timer_struct_get` behind a veil. -/
lemma timerStructGet_veil (clear : s.Clear held) {answer : Option Ptr}
    (hanswer : ∀ p ∈ answer, p ∉ held) :
    ∃ u timer, timerStructGet answer s = .ok (u, timer) ∧
      timerStructGet answer (s.veil held t) = .ok (u.veil held t, timer) ∧
      u.Clear held ∧ ∀ p ∈ timer, p ∉ held := by
  cases hfree : s.systemTimerFree with
  | cons p rest =>
    refine ⟨{ s with systemTimerFree := rest }, some p, ?_, ?_,
      ⟨clear.queue, clear.timerList, fun q hq => ?_⟩, ?_⟩
    · simp [timerStructGet, hfree, nsListRemove_head]
    · simp [timerStructGet, hfree, nsListRemove_head, veil]
    · exact clear.timerFree q (by simp [hfree, show q ∈ rest from hq])
    · intro q hq
      obtain rfl := Option.mem_some.mp hq
      exact clear.timerFree p (by simp [hfree])
  | nil =>
    refine ⟨nsDynMemAlloc answer .sysTimer s, answer, by simp [timerStructGet, hfree], ?_, ?_,
      hanswer⟩
    · cases answer with
      | none => simp [timerStructGet, hfree, nsDynMemAlloc]
      | some block =>
        simp only [timerStructGet, veil_timerFree, hfree, List.head?_nil]
        exact congrArg (fun u => Except.ok (u, some block)) (veil_setHeap (hanswer block rfl) _)
    · cases answer <;> exact ⟨clear.queue, clear.timerList, clear.timerFree⟩

/-- `eventOS_event_timer_request_at_` behind a veil. -/
lemma request_veil (clear : s.Clear held) {answer : Option Ptr}
    (hanswer : ∀ p ∈ answer, p ∉ held) (event : ArmEvent) (at_ period : BitVec 32) :
    eventOSEventTimerRequestAt_ event at_ period answer (s.veil held t)
      = (eventOSEventTimerRequestAt_ event at_ period answer s).map
        fun result => (result.1.veil held t, result.2) := by
  have hvalid : eventTaskletHandlerIdValid event.receiver (s.veil held t)
      = eventTaskletHandlerIdValid event.receiver s := rfl
  obtain ⟨u, timer, hget, hgetVeil, hclear, htimer⟩ := timerStructGet_veil (t := t) clear hanswer
  unfold eventOSEventTimerRequestAt_
  rw [hvalid, hget, hgetVeil, ok_bind, ok_bind]
  split
  · rfl
  · cases timer with
    | none => rfl
    | some timer =>
      have hp := htimer timer rfl
      simp only [veil_store hp, veil_ticks]
      split
      · rw [sendTimerAllocated_veil (s := u.store timer _) hclear.queue hp]
        rfl
      · rw [timerSysAdd_veil (s := u.store timer _) hclear.timerList hp]
        rfl

lemma timerSysEventCancelCritical_veil (hp : p ∉ held) :
    timerSysEventCancelCritical p (s.veil held t)
      = (timerSysEventCancelCritical p s).map (·.veil held t) := by
  simp only [timerSysEventCancelCritical, veil_setPeriod hp, veil_event hp, veil_timerList]
  split
  · cases nsListRemove (s.setPeriod p 0).systemTimerList p <;> rfl
  · rfl

/-- A cancelled timer keeps its event, and no list gets a new entry. -/
lemma timerSysEventCancelCritical_clear {u : State} (clear : s.Clear held)
    (hcancel : timerSysEventCancelCritical p s = .ok u) :
    u.event p = s.event p ∧ u.Clear held := by
  simp only [timerSysEventCancelCritical] at hcancel
  split at hcancel
  · by_cases hmem : p ∈ (s.setPeriod p 0).systemTimerList
    · rw [nsListRemove_of_mem hmem, ok_bind] at hcancel
      obtain rfl := Except.ok.inj hcancel
      exact ⟨s.setPeriod_event p p 0, clear.queue,
        fun q hq => clear.timerList q (List.mem_of_mem_erase hq), clear.timerFree⟩
    · rw [nsListRemove, if_neg hmem, error_bind] at hcancel
      cases hcancel
  · obtain rfl := Except.ok.inj hcancel
    exact ⟨s.setPeriod_event p p 0, clear.queue, clear.timerList, clear.timerFree⟩

/-- `event_core_free_push` behind a veil, of an event that is not of the startup pool. -/
lemma eventCoreFreePush_veil (clear : s.Clear held) (hp : p ∉ held)
    (hpool : (s.event p).allocator ≠ .startupPool) :
    eventCoreFreePush p (s.veil held t) = (eventCoreFreePush p s).map (·.veil held t) := by
  unfold eventCoreFreePush
  rw [veil_event hp]
  split
  · next halloc => exact absurd halloc hpool
  · simp only [nsDynMemFree, veil_heap hp]
    split
    · exact congrArg Except.ok (veil_setHeap hp none)
    · rfl
  · rw [veil_setState hp, timerSysEventFree_veil (s := s.setState p .unqueued)
      ⟨clear.queue, clear.timerList, clear.timerFree⟩ hp]
    rfl
  · rfl
  · rfl

/-- `eventOS_cancel` behind a veil, of an event that is not of the startup pool. -/
lemma eventOSCancel_veil (clear : s.Clear held) (hp : p ∉ held)
    (hpool : (s.event p).allocator ≠ .startupPool) :
    eventOSCancel (some p) (s.veil held t) = (eventOSCancel (some p) s).map (·.veil held t) := by
  -- the three statements of the source, from the last one on
  have hfree : ∀ u : State, u.Clear held → u.event p = s.event p →
      (if ((u.veil held t).event p).state ≠ .running then eventCoreFreePush p (u.veil held t)
        else .ok (u.veil held t))
      = (if (u.event p).state ≠ .running then eventCoreFreePush p u else .ok u).map
        (·.veil held t) := by
    intro u hclear hevent
    rw [veil_event hp, eventCoreFreePush_veil hclear hp (hevent ▸ hpool)]
    split <;> rfl
  have hqueued : ∀ u : State, u.Clear held → u.event p = s.event p →
      (if ((u.veil held t).event p).state = .queued then
        eventOSEventCancelCritical p (u.veil held t) >>= fun s =>
          if (s.event p).state ≠ .running then eventCoreFreePush p s else .ok s
      else .ok (u.veil held t) >>= fun s =>
        if (s.event p).state ≠ .running then eventCoreFreePush p s else .ok s)
      = (if (u.event p).state = .queued then
        eventOSEventCancelCritical p u >>= fun s =>
          if (s.event p).state ≠ .running then eventCoreFreePush p s else .ok s
      else .ok u >>= fun s =>
        if (s.event p).state ≠ .running then eventCoreFreePush p s else .ok s).map
          (·.veil held t) := by
    intro u hclear hevent
    rw [veil_event hp]
    split
    · simp only [eventOSEventCancelCritical, veil_queue]
      by_cases hmem : p ∈ u.eventQueueActive
      · rw [nsListRemove_of_mem hmem]
        exact hfree { u with eventQueueActive := u.eventQueueActive.erase p }
          ⟨fun q hq => hclear.queue q (List.mem_of_mem_erase hq), hclear.timerList,
            hclear.timerFree⟩ hevent
      · rw [nsListRemove, if_neg hmem]
        rfl
    · exact hfree u hclear hevent
  simp only [eventOSCancel]
  rw [veil_event hp, timerSysEventCancelCritical_veil hp]
  split
  · cases hcancel : timerSysEventCancelCritical p s with
    | error fault => rfl
    | ok u =>
      obtain ⟨hevent, hclear⟩ := timerSysEventCancelCritical_clear clear hcancel
      exact hqueued u hclear hevent
  · exact hqueued s clear rfl

omit [NsList] in
/-- `eventOS_event_timer_cancel` cancels a timer that waits, or a queued event of a timer. -/
lemma timerCancelTarget_timer {eventId taskletId : BitVec 8}
    (htarget : timerCancelTarget s eventId taskletId = some p) :
    p ∈ s.systemTimerList ∨ p ∈ s.eventQueueActive ∧ (s.event p).allocator = .timer := by
  unfold timerCancelTarget at htarget
  split at htarget
  · next cur hcur =>
    obtain rfl := Option.some.inj htarget
    exact Or.inl (List.mem_of_find?_eq_some hcur)
  · obtain ⟨hfind, halloc⟩ := Option.filter_eq_some_iff.mp htarget
    exact Or.inr ⟨List.mem_of_find?_eq_some hfind, by simpa using halloc⟩

omit [NsList] in
lemma timerCancelTarget_veil (clear : s.Clear held) (eventId taskletId : BitVec 8) :
    timerCancelTarget (s.veil held t) eventId taskletId
      = timerCancelTarget s eventId taskletId := by
  have hlist : (s.veil held t).systemTimerList.find? (fun cur =>
        ((s.veil held t).event cur).data.receiver = taskletId ∧
          ((s.veil held t).event cur).data.eventId = eventId)
      = s.systemTimerList.find? fun cur =>
        (s.event cur).data.receiver = taskletId ∧ (s.event cur).data.eventId = eventId :=
    List.find?_congr fun cur hcur => by rw [veil_event (clear.timerList cur hcur)]
  have hqueue : eventOSEventFindByIdCritical taskletId eventId (s.veil held t)
      = eventOSEventFindByIdCritical taskletId eventId s :=
    List.find?_congr fun cur hcur => by rw [veil_event (clear.queue cur hcur)]
  simp only [timerCancelTarget, hlist, hqueue]
  split
  · rfl
  · cases hfind : eventOSEventFindByIdCritical taskletId eventId s with
    | none => rfl
    | some p =>
      rw [Option.filter_some, veil_event (clear.queue p (List.mem_of_find?_eq_some hfind)),
        Option.filter_some]

/-- A call that is one critical section, behind a veil. -/
lemma exec_veil (clear : s.Clear held) {op : Op} (hop : op.Locked)
    (hanswer : ∀ p ∈ op.answer, p ∉ held)
    (hcancel : ∀ p, op = .cancel (some p) → p ∉ held ∧ (s.event p).allocator ≠ .startupPool)
    (hlist : ∀ p ∈ s.systemTimerList, (s.event p).allocator ≠ .startupPool) :
    exec op (s.veil held t) = (exec op s).map fun result => (result.1.veil held t, result.2) := by
  have hrequest := request_veil (t := t) clear hanswer
  cases op with
  | requestAt event at_ answer =>
    simp only [Op.answer] at hrequest
    simp only [exec, eventOSEventTimerRequestAt, hrequest]
    cases eventOSEventTimerRequestAt_ event at_ 0 answer s <;> rfl
  | requestIn event in_ answer =>
    simp only [Op.answer] at hrequest
    simp only [exec, eventOSEventTimerRequestIn, hrequest, veil_ticks]
    cases eventOSEventTimerRequestAt_ event (s.timerSysTicks + in_) 0 answer s <;> rfl
  | requestEvery event period answer =>
    simp only [Op.answer] at hrequest
    simp only [exec, eventOSEventTimerRequestEvery, hrequest, veil_ticks]
    split
    · rfl
    · cases eventOSEventTimerRequestAt_ event (s.timerSysTicks + period) period answer s <;> rfl
  | request eventId eventType taskletId time answer =>
    simp only [Op.answer] at hrequest
    simp only [exec, eventOSEventTimerRequest, hrequest, veil_ticks]
    cases eventOSEventTimerRequestAt_ _ (s.timerSysTicks + legacyTicks time) 0 answer s <;> rfl
  | timerCancel eventId taskletId =>
    simp only [exec, eventOSEventTimerCancel_eq, timerCancelTarget_veil clear]
    cases htarget : timerCancelTarget s eventId taskletId with
    | none => rfl
    | some p =>
      obtain ⟨hp, hpool⟩ : p ∉ held ∧ (s.event p).allocator ≠ .startupPool := by
        rcases timerCancelTarget_timer htarget with hmem | ⟨hmem, halloc⟩
        · exact ⟨clear.timerList p hmem, hlist p hmem⟩
        · exact ⟨clear.queue p hmem, by simp [halloc]⟩
      simp only [eventOSCancel_veil clear hp hpool]
      cases eventOSCancel (some p) s <;> rfl
  | cancel event =>
    cases event with
    | none => rfl
    | some p =>
      obtain ⟨hp, hpool⟩ := hcancel p rfl
      simp only [exec, eventOSCancel_veil clear hp hpool]
      cases eventOSCancel (some p) s <;> rfl
  | tickUpdate ticks =>
    simp only [exec, systemTimerTickUpdate_veil clear]
    cases systemTimerTickUpdate ticks s <;> rfl
  | _ => exact hop.elim

omit [NsList] in
/-- What a call does to the queue, seen from behind a veil. -/
lemma observe_veil (clear : s.Clear held) {op : Op} (hop : op.Locked) (r : Ret) :
    observe (s.veil held t) op r = observe s op r := by
  cases op with
  | requestAt | requestIn | requestEvery | request => rfl
  | timerCancel eventId taskletId =>
    simp only [observe, timerCancelTarget_veil clear]
    rfl
  | cancel event => cases event <;> rfl
  | tickUpdate ticks =>
    have hdue : State.due { s.veil held t with timerSysTicks := s.timerSysTicks + ticks }
        = State.due { s with timerSysTicks := s.timerSysTicks + ticks } :=
      takeWhile_congr fun p hp => by rw [veil_mem (clear.timerList p hp)]
    simp only [observe, observeTicks, veil_ticks, hdue]
    refine List.map_congr_left fun p hp => ?_
    rw [veil_event (clear.timerList p ((List.takeWhile_prefix _).subset hp))]
  | _ => exact hop.elim

end

end EventLoop
