import EventLoop.Lib.StableQueue
import EventLoop.Receivers

/-!
# The event queue is a stable priority queue

`event_queue_active` implements the abstract queue of `Lib.StableQueue`, keyed by the address of
the storage: every move of a storage into the queue is a write, every move to a handler is a
delivery, and every other move out of the queue is a cancellation. `observe` says in the terms of
the calls what is written, delivered and cancelled; the moves agree with it.
-/

namespace EventLoop

open Lib
open Lib.StableQueue (Action Entry Implements Queue)

/-- The numerical priority of an event. -/
def ArmEvent.rank (event : ArmEvent) : ℕ := event.priority.toNat

/-- What a move does to the queue. -/
def Act.queueActions : Act → List (Action Ptr ArmEvent)
  | .relocate p _ .queue v => [.write p v.event.data]
  | .relocate p .queue .running v => [.deliver p v.event.data]
  | .relocate p .queue _ _ => [.cancel p]
  | _ => []

/-- The queue of the code holds the pending entries in the order of delivery, each in the storage
that is its key. -/
def Represents (s : State) (q : Queue Ptr ArmEvent) : Prop :=
  ∃ es : List (Entry Ptr ArmEvent), Implements ArmEvent.rank es q ∧
    es.map (·.key) = s.eventQueueActive ∧ ∀ e ∈ es, e.data = (s.event e.key).data

/-! ## Moves -/

lemma Row.queue_ne {s : State} {p : Ptr} {A : Place} {v : SysTimerStruct}
    {h : Option HeapObject} (row : Row s p A .queue v h) : A ≠ .queue := by
  cases row <;> decide

lemma Row.mem_queue {s : State} {p : Ptr} {B : Place} {v : SysTimerStruct}
    {h : Option HeapObject} (row : Row s p .queue B v h) : p ∈ s.eventQueueActive := by
  cases row <;> simp_all

/-- The move to a handler takes the first event of the queue. -/
lemma Row.deliver_head {s : State} {p : Ptr} {v : SysTimerStruct} {h : Option HeapObject}
    (row : Row s p .queue .running v h) : s.eventQueueActive.head? = some p := by
  cases row with
  | deliver hp => simp [hp]

/-- A move that does not concern the queue does not change the event of a queued storage. -/
lemma Row.data_of_queued {s : State} (own : Owned s) {p : Ptr} {A B : Place} {v : SysTimerStruct}
    {h : Option HeapObject} (row : Row s p A B v h) (hA : A ≠ .queue) (hB : B ≠ .queue)
    (hp : p ∈ s.eventQueueActive) : v.event.data = (s.event p).data := by
  by_cases hbusy : A.Busy
  · exact row.data_eq hbusy
  · cases row with
    | grow v fresh hstate => exact absurd hp fresh.notQueued
    | arm v hfree halloc hstate hdue =>
      have hplace := own.place_unique (A := .timerFree) (B := .queue) hfree hp
      exact absurd hplace (by decide)
    | sendPool | sendDynamic | sendUser | fire => exact absurd rfl hB
    | _ => exact absurd trivial hbusy

/-- Nothing happens to the queue when neither it nor its events change. -/
lemma Represents.congr {s s' : State} {q : Queue Ptr ArmEvent} (rep : Represents s q)
    (hqueue : s'.eventQueueActive = s.eventQueueActive)
    (hdata : ∀ p ∈ s.eventQueueActive, (s'.event p).data = (s.event p).data) :
    Represents s' q := by
  obtain ⟨es, impl, hkeys, hes⟩ := rep
  refine ⟨es, impl, hkeys.trans hqueue.symm, fun e he => ?_⟩
  rw [hes e he, hdata]
  exact hkeys ▸ List.mem_map_of_mem he

/-- A storage that enters the queue is a write. -/
lemma Represents.enter {s : State} {q : Queue Ptr ArmEvent} (rep : Represents s q) {p : Ptr}
    {A : Place} {v : SysTimerStruct} {h : Option HeapObject} (hA : A ≠ .queue)
    (hp : p ∉ s.eventQueueActive) :
    ∃ q', StableQueue.Step ArmEvent.rank q (.write p v.event.data) q' ∧
      Represents (s.move p A .queue v h) q' := by
  obtain ⟨es, impl, hkeys, hes⟩ := rep
  have hne : ∀ e ∈ es, e.key ≠ p := by
    rintro e he rfl
    exact hp (hkeys ▸ List.mem_map_of_mem he)
  obtain ⟨q', hstep, impl'⟩ := impl.write v.event.data (hkeys ▸ hp)
  refine ⟨q', hstep, _, impl', ?_, fun e he => ?_⟩
  · have hself : (s.store p v).priority p = v.event.data.rank := by
      simp [State.priority, ArmEvent.rank]
    have hother : ∀ e ∈ es, (s.store p v).priority e.key = e.data.rank := by
      intro e he
      simp [State.priority, ArmEvent.rank, hne e he, hes e he]
    rw [State.move_queue, if_pos rfl, if_neg hA, ← hkeys]
    refine List.map_orderedInsert _ _ _ _ _ (fun e he => ?_) (fun e he => ?_)
    · simp only [Queue.next, hself, hother e he]
    · simp only [Queue.next, hself, hother e he]
  · rcases (List.mem_orderedInsert _).mp he with rfl | he
    · simp [Queue.next, State.event]
    · rw [State.move_event_of_ne _ (hne e he), hes e he]

/-- A storage that leaves the queue takes its entry with it. -/
lemma Represents.leave {s : State} (own : Owned s) {es : List (Entry Ptr ArmEvent)}
    (hkeys : es.map (·.key) = s.eventQueueActive) (hes : ∀ e ∈ es, e.data = (s.event e.key).data)
    {p : Ptr} {B : Place} {v : SysTimerStruct} {h : Option HeapObject} (hB : B ≠ .queue)
    {q : Queue Ptr ArmEvent} (impl : Implements ArmEvent.rank (es.filter (·.key ≠ p)) q) :
    Represents (s.move p .queue B v h) q := by
  refine ⟨_, impl, ?_, fun e he => ?_⟩
  · have hnodup : s.eventQueueActive.Nodup := own.nodup .queue
    rw [State.move_queue, if_neg hB, if_pos rfl, hnodup.erase_eq_filter, ← hkeys, List.filter_map]
    congr 1
    refine List.filter_congr fun e _ => ?_
    simp [bne, beq_eq_decide]
  · obtain ⟨he, hne⟩ := List.mem_filter.mp he
    rw [State.move_event_of_ne _ (by simpa using hne), hes e he]

/-- **A move of a storage is what `queueActions` says of the abstract queue.** -/
theorem Represents.move {s s' : State} (own : Owned s) {q : Queue Ptr ArmEvent}
    (rep : Represents s q) {act : Act} (move : Move s act s') :
    ∃ q', Run (StableQueue.Step ArmEvent.rank) q act.queueActions q' ∧ Represents s' q' := by
  cases move with
  | @relocate p A B v h row =>
    -- into the queue is a send, out of it a delivery or a cancellation
    by_cases hB : B = .queue
    · subst hB
      obtain ⟨q', hstep, rep'⟩ := rep.enter row.queue_ne (own.notMem_queue row row.queue_ne)
      exact ⟨q', by simpa [Act.queueActions] using hstep, rep'⟩
    by_cases hA : A = .queue
    · subst hA
      obtain ⟨es, impl, hkeys, hes⟩ := rep
      have hp := row.mem_queue
      rw [← hkeys] at hp
      obtain ⟨e, he, rfl⟩ := List.mem_map.mp hp
      by_cases hrun : B = .running
      · subst hrun
        have hhead := row.deliver_head
        have hdata : v.event.data = e.data := by rw [row.data_eq trivial, hes e he]
        cases es with
        | nil => simp at he
        | cons e₀ es =>
          obtain rfl : e₀ = e := by
            refine impl.eq_of_key List.mem_cons_self he ?_
            simpa [← hkeys] using hhead
          obtain ⟨q', hstep, impl'⟩ := impl.deliver
          refine ⟨q', ?_, .leave own hkeys hes hB impl'⟩
          simpa [Act.queueActions, hdata] using hstep
      · obtain ⟨q', hstep, impl'⟩ := impl.cancel he
        have hactions : (Act.relocate e.key .queue B v).queueActions = [.cancel e.key] := by
          cases B <;> simp_all [Act.queueActions]
        exact ⟨q', by simpa [hactions] using hstep, .leave own hkeys hes hB impl'⟩
    · have hactions : (Act.relocate p A B v).queueActions = [] := by
        cases A <;> cases B <;> simp_all [Act.queueActions]
      refine ⟨q, by simp [hactions], rep.congr (by simp [State.move_queue, hA, hB]) ?_⟩
      intro q hq
      by_cases hqp : q = p
      · subst hqp
        rw [State.move_event_self, row.data_of_queued own hA hB hq]
      · rw [State.move_event_of_ne _ hqp]
  | write data hp hqueue =>
    refine ⟨q, by simp [Act.queueActions], rep.congr rfl fun q hq => ?_⟩
    rename_i p rest
    have hne : q ≠ p := fun h => hqueue (h ▸ hq)
    simp [State.setData, hne]
  | unperiod hp hclass =>
    exact ⟨q, by simp [Act.queueActions], rep.congr rfl fun q hq => by rw [State.setPeriod_event]⟩
  | clock | register | active | clientAlloc | clientFree =>
    exact ⟨q, by simp [Act.queueActions], rep.congr rfl fun _ _ => rfl⟩

/-- A run of moves is what `queueActions` says of the abstract queue. -/
theorem Represents.run {s s' : State} (own : Owned s) {q : Queue Ptr ArmEvent}
    (rep : Represents s q) {acts : List Act} (run : Run Move s acts s') :
    ∃ q', Run (StableQueue.Step ArmEvent.rank) q (acts.flatMap Act.queueActions) q' ∧
      Represents s' q' := by
  have hsim : ∀ s act q s', (Owned s ∧ Represents s q) → Move s act s' →
      ∃ q', Run (StableQueue.Step ArmEvent.rank) q act.queueActions q' ∧
        (Owned s' ∧ Represents s' q') := by
    rintro s act q s' ⟨own, rep⟩ move
    obtain ⟨q', hrun, rep'⟩ := rep.move own move
    exact ⟨q', hrun, own.preserved move, rep'⟩
  obtain ⟨q', hrun, -, rep'⟩ := Run.simulate (R := fun s q => Owned s ∧ Represents s q)
    (f := Act.queueActions) (fun s act s' q => hsim s act q s') ⟨own, rep⟩ run
  exact ⟨q', hrun, rep'⟩

/-! ## What comes into the queue -/

/-- A move that writes at most puts into the queue what it writes. -/
lemma Move.queue_perm {s s' : State} {act : Act} (move : Move s act s')
    (hwrites : ∀ a ∈ act.queueActions, a.written.isSome) :
    s'.eventQueueActive.Perm
      ((act.queueActions.filterMap Action.written).map Prod.fst ++ s.eventQueueActive) := by
  cases move with
  | @relocate p A B v h row =>
    by_cases hB : B = .queue
    · subst hB
      simp only [State.move_queue, if_neg row.queue_ne, ↓reduceIte, Act.queueActions]
      exact List.perm_orderedInsert _ _ _
    · by_cases hA : A = .queue
      · subst hA
        cases B <;> simp_all [Act.queueActions, Action.written]
      · cases A <;> cases B <;> simp_all [State.move_queue, Act.queueActions]
  | clock | register | active | clientAlloc | clientFree | write | unperiod => exact .refl _

/-- A move that writes nothing puts nothing into the queue. -/
lemma Move.queue_subset {s s' : State} {act : Act} (move : Move s act s')
    (hnone : ∀ a ∈ act.queueActions, a.written = none) :
    s'.eventQueueActive ⊆ s.eventQueueActive := by
  cases move with
  | @relocate p A B v h row =>
    by_cases hB : B = .queue
    · subst hB
      cases hnone (.write p v.event.data) List.mem_cons_self
    · rw [State.move_queue, if_neg hB]
      split
      · exact List.erase_subset
      · exact List.Subset.refl _
  | clock | register | active | clientAlloc | clientFree | write | unperiod =>
    exact List.Subset.refl _

/-- A run that writes at most puts into the queue what it writes. -/
lemma queue_perm_of_run {s s' : State} {acts : List Act} (run : Run Move s acts s')
    (hwrites : ∀ a ∈ acts.flatMap Act.queueActions, a.written.isSome) :
    s'.eventQueueActive.Perm
      (((acts.flatMap Act.queueActions).filterMap Action.written).map Prod.fst
        ++ s.eventQueueActive) := by
  induction run with
  | nil => exact .refl _
  | @snoc acts t u act run last ih =>
    rw [List.flatMap_append, List.flatMap_singleton] at hwrites
    have hbefore := ih fun a ha => hwrites a (List.mem_append_left _ ha)
    have hafter := last.queue_perm fun a ha => hwrites a (List.mem_append_right _ ha)
    rw [List.flatMap_append, List.flatMap_singleton, List.filterMap_append, List.map_append]
    refine hafter.trans ((hbefore.append_left _).trans ?_)
    rw [← List.append_assoc]
    exact List.perm_append_comm.append_right _

/-- A run that writes nothing puts nothing into the queue. -/
lemma queue_subset_of_run {s s' : State} {acts : List Act} (run : Run Move s acts s')
    (hnone : ∀ a ∈ acts.flatMap Act.queueActions, a.written = none) :
    s'.eventQueueActive ⊆ s.eventQueueActive := by
  refine run.invariant_on (I := fun t => t.eventQueueActive ⊆ s.eventQueueActive)
    (P := fun act => ∀ a ∈ act.queueActions, a.written = none) (List.Subset.refl _)
    (fun act hact a ha => hnone a (List.mem_flatMap.mpr ⟨act, hact, ha⟩)) ?_
  intro t act u hsub hnone last
  exact List.Subset.trans (last.queue_subset hnone) hsub

/-! ## Operations -/

/-- What a timer request writes to the queue: the event, if its time has come. -/
def observeRequest (s : State) (event : ArmEvent) (at_ : BitVec 32) :
    Option Ptr → List (Action Ptr ArmEvent)
  | none => []
  | some p => if ticksBeforeOrAt at_ s.timerSysTicks then [.write p event] else []

/-- What a tick update writes to the queue: the timers that are due, in the order of the list. -/
def observeTicks (s : State) (ticks : BitVec 32) : List (Action Ptr ArmEvent) :=
  (State.due { s with timerSysTicks := s.timerSysTicks + ticks }).map fun p =>
    .write p (s.event p).data

/-- What a cancel takes out of the queue. -/
def observeCancel (s : State) (p : Ptr) : List (Action Ptr ArmEvent) :=
  if p ∈ s.eventQueueActive then [.cancel p] else []

/-- What a send writes to the queue. -/
def observeSend (s : State) (event : ArmEvent) (answer : Option Ptr) :
    List (Action Ptr ArmEvent) :=
  match eventSource s answer with
  | some (p, _, _) => [.write p event]
  | none => []

/-- What the return of a handler writes to the queue: a periodic timer event that is overdue is
sent again. -/
def observeReturn (s : State) : List (Action Ptr ArmEvent) :=
  match s.running with
  | p :: _ =>
    if s.classOf p = .timer ∧ (s.mem p).period ≠ 0 ∧
        ticksBeforeOrAt ((s.mem p).launchTime + (s.mem p).period) s.timerSysTicks then
      [.write p (s.event p).data]
    else []
  | [] => []

/-- What an operation writes to the queue, takes out of it, and hands to a handler. An accepted
send is one that returns 0, or an id, or an event, or nothing. -/
def observe (s : State) (op : Op) (r : Ret) : List (Action Ptr ArmEvent) :=
  match op with
  | .send event answer => if r.code? = some 0 then observeSend s event answer else []
  | .sendUserAllocated p contents => [.write p contents.event.data]
  | .sendTimerAllocated p contents => [.write p contents.event.data]
  | .handlerCreate _ initEventType _ newEvent =>
    match r.code? with
    | some c =>
      if 0 ≤ c then observeSend s (initEvent (BitVec.ofInt 8 c) initEventType) newEvent else []
    | none => []
  | .requestAt event at_ _ => observeRequest s event at_ r.handle?
  | .requestIn event in_ _ => observeRequest s event (s.timerSysTicks + in_) r.handle?
  | .requestEvery event period _ => observeRequest s event (s.timerSysTicks + period) r.handle?
  | .request eventId eventType taskletId time answer =>
    if r.code? = some 0 then
      observeRequest s (legacyEvent eventId eventType taskletId)
        (s.timerSysTicks + legacyTicks time) (timerSource s answer)
    else []
  | .timerCancel eventId taskletId =>
    match timerCancelTarget s eventId taskletId with
    | some p => observeCancel s p
    | none => []
  | .cancel (some p) => observeCancel s p
  | .cancel none => []
  | .tickUpdate ticks => observeTicks s ticks
  | .synchAfterSleep sleepTicks _ => observeTicks s (sleepTicks / 10 + 1)
  | .setActiveTasklet _ => []
  | .dispatch =>
    match r.called? with
    | some p => [.deliver p (s.event p).data]
    | none => []
  | .handlerReturn => observeReturn s
  | .handlerWrite _ => []
  | .clientAlloc _ | .clientFree _ => []

/-- The moves of a request that gets its timer. -/
lemma Requested.queueActions {s : State} {event : ArmEvent} {at_ period : BitVec 32}
    {answer r : Option Ptr} {acts : List Act} (h : Requested s event at_ period answer r acts) :
    acts.flatMap Act.queueActions = observeRequest s event at_ r := by
  have hgrow : ∀ p v, (growActs s p v).flatMap Act.queueActions = [] := by
    intro p v
    unfold growActs
    split <;> simp [Act.queueActions]
  cases h with
  | unknown => rfl
  | full => rfl
  | fire hreceiver hsource hdue =>
    simp [hgrow, Act.queueActions, observeRequest, hdue, requested]
  | arm hreceiver hsource hdue => simp [hgrow, Act.queueActions, observeRequest, hdue]

/-- The legacy request does not hand out the timer it got. -/
lemma Requested.source {s : State} {event : ArmEvent} {at_ period : BitVec 32}
    {answer r : Option Ptr} {acts : List Act} (h : Requested s event at_ period answer r acts)
    (hsome : r.isSome) : timerSource s answer = r := by
  cases h with
  | unknown | full => simp at hsome
  | fire hreceiver hsource | arm hreceiver hsource => exact hsource

/-- The moves of a tick update. -/
lemma queueActions_expire {s t : State} (hdata : ∀ p, (t.event p).data = (s.event p).data) :
    (expireActs t).flatMap Act.queueActions
      = t.due.map fun p => Action.write p (s.event p).data := by
  simp only [expireActs, List.flatMap_map, Act.queueActions, SysTimerStruct.tagged, ← hdata]
  exact List.map_eq_flatMap.symm

/-- The moves of a cancel. -/
lemma queueActions_cancel (s : State) (p : Ptr) :
    (cancelActs s p).flatMap Act.queueActions = observeCancel s p := by
  unfold cancelActs observeCancel
  split_ifs
  · split <;> simp [Act.queueActions]
  · simp [Act.queueActions]
  · simp [Act.queueActions]
  · rfl

/-- The moves of an operation are what `observe` says. -/
theorem Effect.queueActions {s : State} {op : Op} {r : Ret} {acts : List Act}
    (heffect : Effect s op r acts) (reg : Registered s) (hop : AddressedOp s op) :
    acts.flatMap Act.queueActions = observe s op r := by
  cases heffect with
  | handlerCreate hfun hsource =>
    obtain ⟨hle, -⟩ := reg.freeId (Nat.le_of_lt_succ hop)
    have hint := toInt_of_le hle
    have hpos : 0 ≤ (taskletGetFreeId s).toInt := by omega
    simp [Act.queueActions, observe, observeSend, Ret.code?, hsource, hpos, written]
  | handlerCreateDuplicate | handlerCreateFull => simp [observe, Ret.code?]
  | send hreceiver hsource =>
    simp [Act.queueActions, observe, observeSend, Ret.code?, hsource, written]
  | sendFail => simp [observe, Ret.code?]
  | sendUserAllocated | sendTimerAllocated => simp [Act.queueActions, observe, sent]
  | requestAt h | requestIn h | requestEvery _ h => exact h.queueActions
  | requestEveryFail => rfl
  | request h =>
    rename_i r
    rw [h.queueActions]
    cases r with
    | none => rfl
    | some p => simp [observe, Ret.code?, h.source rfl]
  | timerCancel hp => simp [observe, hp, queueActions_cancel]
  | timerCancelFail hp => simp [observe, hp]
  | cancel p => exact queueActions_cancel s p
  | cancelNull => rfl
  | tickUpdate ticks =>
    exact queueActions_expire (s := s)
      (t := { s with timerSysTicks := s.timerSysTicks + ticks }) fun _ => rfl
  | synchAfterSleep sleepTicks wakeup =>
    exact queueActions_expire (s := s)
      (t := { s with timerSysTicks := s.timerSysTicks + (sleepTicks / 10 + 1) }) fun _ => rfl
  | setActiveTasklet | dispatchIdle | clientAlloc | clientAllocFail | clientFree => rfl
  | dispatch hqueue htasklet => rfl
  | handlerReturn hrun =>
    rename_i p rest
    simp only [observe, observeReturn, hrun, finishAct]
    cases hclass : s.classOf p with
    | timer =>
      split_ifs <;> simp_all [Act.queueActions, SysTimerStruct.advanced, SysTimerStruct.tagged]
    | _ => simp [Act.queueActions]
  | handlerWrite => rfl

section

variable [NsList]

/-- A step of a run, seen from the queue. -/
def QueueStep (s : State) (actions : List (Action Ptr ArmEvent)) (s' : State) : Prop :=
  ∃ op r, Step s (op, r) s' ∧ AddressedOp s op ∧ actions = observe s op r

/-- A step of a run is matched by the abstract queue. -/
lemma QueueStep.simulate {s s' : State} {actions : List (Action Ptr ArmEvent)}
    {q : Queue Ptr ArmEvent} (own : Owned s) (deliverable : Deliverable s) (rep : Represents s q)
    (step : QueueStep s actions s') :
    ∃ q', Run (StableQueue.Step ArmEvent.rank) q actions q' ∧
      Owned s' ∧ Deliverable s' ∧ Represents s' q' := by
  obtain ⟨op, r, hstep, hop, rfl⟩ := step
  obtain ⟨acts, heffect, hrun⟩ := Step.effect own hstep
  obtain ⟨q', hqueue, rep'⟩ := rep.run own hrun
  rw [heffect.queueActions deliverable.registered hop] at hqueue
  exact ⟨q', hqueue, own.run hrun, deliverable.step own hop heffect hrun, rep'⟩

/-- A run is matched by the abstract queue. -/
lemma QueueStep.simulate_run {s s' : State} {l : List (List (Action Ptr ArmEvent))}
    {q : Queue Ptr ArmEvent} (own : Owned s) (deliverable : Deliverable s) (rep : Represents s q)
    (run : Run QueueStep s l s') :
    ∃ q', Run (StableQueue.Step ArmEvent.rank) q l.flatten q' ∧
      Owned s' ∧ Deliverable s' ∧ Represents s' q' := by
  obtain ⟨q', hqueue, hrelated⟩ := Run.simulate
    (R := fun s q => Owned s ∧ Deliverable s ∧ Represents s q) (f := id)
    (fun s actions s' q ⟨own, deliverable, rep⟩ step => step.simulate own deliverable rep)
    ⟨own, deliverable, rep⟩ run
  rw [List.flatMap_id] at hqueue
  exact ⟨q', hqueue, hrelated⟩

/-- A dispatch finds nothing when nothing is pending. -/
lemma Represents.dispatch_idle {s s' : State} {q : Queue Ptr ArmEvent} {r : Ret}
    (rep : Represents s q) (hexec : exec .dispatch s = .ok (s', r)) :
    r = .call none ↔ q.pending = ∅ := by
  obtain ⟨es, impl, hkeys, -⟩ := rep
  have hpending : q.pending = ∅ ↔ s.eventQueueActive = [] := by
    rw [← hkeys, List.map_eq_nil_iff, Set.eq_empty_iff_forall_notMem,
      List.eq_nil_iff_forall_not_mem]
    exact forall_congr' fun e => not_congr (impl.mem_iff e).symm
  rw [hpending]
  rcases dispatch_performs s with ⟨t, r', acts, hok, heffect, -⟩ | ⟨herror, -⟩
  · obtain ⟨rfl, rfl⟩ : t = s' ∧ r' = r := by simpa [hok] using hexec
    cases heffect with
    | dispatchIdle hqueue => simp [hqueue]
    | dispatch hqueue htasklet => simp [hqueue]
  · simp [herror] at hexec

/-- A run of operations is a run as the queue sees it. -/
lemma queueStep_of_runOf {s s' : State} {l : List (Op × Ret)} (run : RunOf AddressedOp s l s') :
    ∃ actions, Run QueueStep s actions s' := by
  unfold RunOf at run
  induction run with
  | nil => exact ⟨[], .nil⟩
  | @snoc l t u label _ last ih =>
    obtain ⟨actions, hrun⟩ := ih
    exact ⟨_, .snoc hrun ⟨label.1, label.2, last.1, last.2, rfl⟩⟩

lemma Initial.represents {s : State} (init : Initial s) : Represents s .empty := by
  refine ⟨[], .empty, ?_, by simp⟩
  obtain ⟨s₀, boot, rfl⟩ := init
  rw [boot.init_eq]
  rfl

/-- **The event queue refines a stable priority queue with exactly-once delivery.** In a run in
which every event is addressed to a registered tasklet: the queue of the code does, for the
writes and cancellations that the calls make, exactly the deliveries of an abstract stable
priority queue; what it hands to handlers is, in order, what the abstract queue delivers; every
accepted event is pending, or was delivered once with the data it was written with, or was
cancelled; a dispatch finds nothing only if nothing is pending; and no call fails. -/
theorem eventQueue_refines {s₀ s : State} {l : List (List (Action Ptr ArmEvent))}
    (init : Initial s₀) (run : Run QueueStep s₀ l s) :
    ∃ q, Run (StableQueue.Step ArmEvent.rank) .empty l.flatten q ∧
      q.delivered.map (fun e => (e.key, e.data)) = l.flatten.filterMap Action.delivered ∧
      q.written.map (fun e => (e.key, e.data)) = l.flatten.filterMap Action.written ∧
      q.Accounted ∧
      (∀ s' r, exec .dispatch s = .ok (s', r) → (r = .call none ↔ q.pending = ∅)) ∧
      ∀ op, Valid s op → ∃ s' r, exec op s = .ok (s', r) := by
  obtain ⟨q, hqueue, own, deliverable, rep⟩ := Run.simulate
    (R := fun s q => Owned s ∧ Deliverable s ∧ Represents s q) (f := id)
    (fun s actions s' q ⟨own, deliverable, rep⟩ step => step.simulate own deliverable rep)
    ⟨init.owned, init.deliverable, init.represents⟩ run
  rw [List.flatMap_id] at hqueue
  obtain ⟨hwritten, hdelivered⟩ := StableQueue.logs_of_run hqueue
  exact ⟨q, hqueue, hdelivered, hwritten, .run hqueue, fun s' r => rep.dispatch_idle,
    fun op => deliverable.exec_ok own⟩

end

/-- The deliveries of the sample program: the init event, then the event that was sent before the
timer expired, then the timer event twice. -/
theorem eventQueue_refines_sample : ∃ s l q, Run QueueStep (eventOSSchedulerInit (.boot 0)) l s ∧
    s.running.length = 1 ∧ q.Accounted ∧
    Run (StableQueue.Step ArmEvent.rank) .empty l.flatten q := by
  have hsome : (drive AddressedOp sampleOps (eventOSSchedulerInit (.boot 0))).map
      (·.running.length) = some 1 := by decide +kernel
  obtain ⟨s, hs, hrunning⟩ := Option.map_eq_some_iff.mp hsome
  obtain ⟨l, run, -⟩ := drive_runOf hs
  obtain ⟨actions, hrun⟩ := queueStep_of_runOf run
  obtain ⟨q, hqueue, -, -, haccounted, -⟩ := eventQueue_refines (boot_initial 0) hrun
  exact ⟨s, actions, q, hrun, hrunning, haccounted, hqueue⟩

end EventLoop
