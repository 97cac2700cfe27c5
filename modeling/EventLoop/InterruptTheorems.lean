import EventLoop.Cancelled
import EventLoop.Interrupt

/-!
# Cancelling from interrupts

A dispatch that is interrupted at any point does to the storages what the sequential event loop
does: with the storage that the main loop holds marked as running again (`Machine.sequential`), the
steps of the main loop and of the interrupts are moves of the life cycle. The exception is a cancel
of that storage in the window in which it is marked as unqueued but on no list: there
`ns_list_remove` is applied to a list that does not contain it.
-/

namespace EventLoop

open Lib

section

variable [NsList]

namespace State

/-! ## The mark of one storage -/

variable {s : State} {p q : Ptr} {st : EventState}

omit [NsList] in
lemma setState_setState (s : State) (p : Ptr) (st st' : EventState) :
    (s.setState p st).setState p st' = s.setState p st' := by
  ext1 <;> simp [setState, store, event]

omit [NsList] in
lemma setState_self (h : (s.event p).state = st) : s.setState p st = s := by
  subst h
  ext1 <;> simp [setState, store]

omit [NsList] in
lemma setState_comm (h : p ≠ q) (st' : EventState) :
    (s.setState p st).setState q st' = (s.setState q st').setState p st := by
  ext1 <;> simp [setState, store, event, h, h.symm, Function.update_comm h]

omit [NsList] in
@[simp] lemma setState_classOf (s : State) (p q : Ptr) (st : EventState) :
    (s.setState p st).classOf q = s.classOf q := by
  cases q <;> rfl

omit [NsList] in
lemma setState_enter_queue (s : State) (p q : Ptr) (st : EventState) :
    (s.setState p st).enter q .queue = (s.enter q .queue).setState p st := by
  simp only [enter, setState_priority]
  rfl

/-- A timer that is sent does not depend on the mark of another storage. -/
lemma sendTimerAllocated_setState (h : p ≠ q) :
    eventOSEventSendTimerAllocated q (s.setState p st)
      = (eventOSEventSendTimerAllocated q s).setState p st := by
  simp only [eventOSEventSendTimerAllocated, eventCoreWrite_eq]
  rw [← setState_enter_queue, setState_comm h.symm]
  congr 2
  ext1 <;> simp [setState, setAllocator, store, event, h, h.symm, Function.update_comm h]

lemma tickUpdateLoop_setState {l : List Ptr} (hp : p ∉ l) (s : State) :
    tickUpdateLoop l (s.setState p st) = (tickUpdateLoop l s).map (·.setState p st) := by
  induction l generalizing s with
  | nil => rfl
  | cons cur rest ih =>
    obtain ⟨hcur, hrest⟩ : p ≠ cur ∧ p ∉ rest := by simpa using hp
    have hlaunch : ((s.setState p st).mem cur).launchTime = (s.mem cur).launchTime := by
      simp [setState, store, hcur.symm]
    have hlist : (s.setState p st).systemTimerList = s.systemTimerList := rfl
    have hticks : (s.setState p st).timerSysTicks = s.timerSysTicks := rfl
    simp only [tickUpdateLoop, hlaunch, hlist, hticks]
    split
    · cases nsListRemove s.systemTimerList cur with
      | error fault => rfl
      | ok list =>
        simp only [ok_bind]
        rw [← ih hrest, ← sendTimerAllocated_setState hcur]
        rfl
    · rfl

/-- A tick update does not depend on the mark of a storage that does not wait. -/
lemma systemTimerTickUpdate_setState (hp : p ∉ s.systemTimerList) (ticks : BitVec 32) :
    systemTimerTickUpdate ticks (s.setState p st)
      = (systemTimerTickUpdate ticks s).map (·.setState p st) :=
  tickUpdateLoop_setState hp { s with timerSysTicks := s.timerSysTicks + ticks }

omit [NsList] in
lemma setState_move_timerFree (h : p ≠ q) {A : Place} (hA : A = .queue ∨ A = .timerList)
    (v : SysTimerStruct) (o : Option HeapObject) :
    (s.setState p st).move q A .timerFree v o = (s.move q A .timerFree v o).setState p st := by
  rcases hA with rfl | rfl <;> ext1 <;>
    simp [setState, store, move, leave, enter, event, h, Function.update_comm h]

end State

/-- A cancel of a timer event that does not run does not depend on the mark of another storage. -/
lemma eventOSCancel_setState {s s' : State} (own : Owned s) {p q : Ptr} (hpq : q ≠ p)
    (hclass : s.classOf p = .timer) (hplace : p ∈ s.eventQueueActive ∨ p ∈ s.systemTimerList)
    (hcancel : eventOSCancel (some p) s = .ok s') (st : EventState) :
    eventOSCancel (some p) (s.setState q st) = .ok (s'.setState q st) := by
  have hmem : (s.setState q st).mem p = s.mem p := by
    simp [State.setState, State.store, hpq.symm]
  have hevent : (s.setState q st).event p = s.event p := congrArg SysTimerStruct.event hmem
  rcases hplace with hqueue | hlist
  · have halloc : (s.event p).allocator = .timer := by
      simpa [hclass] using own.allocator .queue (by decide) p hqueue
    have hstate : (s.event p).state = .queued := own.tag .queue p hqueue
    rw [eventOSCancel_queuedTimer halloc hstate hqueue] at hcancel
    rw [← Except.ok.inj hcancel, ← State.setState_move_timerFree hpq (Or.inl rfl)]
    rw [eventOSCancel_queuedTimer (s := s.setState q st) (by rw [hevent, halloc])
      (by rw [hevent, hstate]) hqueue, hmem]
    rfl
  · have halloc : (s.event p).allocator = .timer := by
      simpa [hclass] using own.allocator .timerList (by decide) p hlist
    have hstate : (s.event p).state = .unqueued := own.tag .timerList p hlist
    rw [eventOSCancel_waitingTimer halloc hstate hlist] at hcancel
    rw [← Except.ok.inj hcancel, ← State.setState_move_timerFree hpq (Or.inr rfl)]
    rw [eventOSCancel_waitingTimer (s := s.setState q st) (by rw [hevent, halloc])
      (by rw [hevent, hstate]) hlist, hmem]
    rfl

/-! ## The sequential event loop behind the machine -/

/-- Moves that take a storage that is not in use. -/
def Act.Fills : Act → Prop
  | .relocate _ A _ _ => A = .free ∨ A = .timerFree ∨ A = .outside
  | _ => False

omit [NsList] in
lemma Act.Reuses.fills {p : Ptr} {act : Act} (h : act.Reuses p) : act.Fills := by
  cases act with
  | relocate => exact Or.inr (Or.inl h.2)
  | _ => exact h.elim

namespace Machine

/-- The state of the sequential event loop: the storage that the main loop holds is running, also
when it is marked as unqueued already. -/
def sequential (m : Machine) : State :=
  match m.point.unmarked with
  | some p => m.core.setState p .running
  | none => m.core

/-- The invariant of the machine. -/
structure Coherent (m : Machine) : Prop where
  owned : Owned m.sequential
  running : m.core.running = m.point.held.toList
  state : ∀ p, m.point.unmarked = some p → (m.core.event p).state = .unqueued
  pool : ∀ p, m.point = .pushPool p → m.core.classOf p = .pool
  timer : ∀ p, m.point = .pushTimer p → m.core.classOf p = .timer

/-- A step does to the storages what moves of the sequential event loop do. -/
structure Outcome (m : Machine) (m' : Machine) (taken : Option Ptr) : Prop where
  coherent : m'.Coherent
  moves : ∃ acts, Run Move m.sequential acts m'.sequential ∧ ∀ act ∈ acts, ¬ act.Fills
  taken : ∀ p, taken = some p → p ∈ m.core.eventQueueActive

variable {m : Machine}

omit [NsList] in
lemma Coherent.outcome {m' : Machine} {taken : Option Ptr} (coh : m.Coherent) {acts : List Act}
    (run : Run Move m.sequential acts m'.sequential) (hacts : ∀ act ∈ acts, ¬ act.Fills)
    (hrunning : m'.core.running = m'.point.held.toList)
    (htaken : ∀ p, taken = some p → p ∈ m.core.eventQueueActive)
    (hstate : ∀ p, m'.point.unmarked = some p → (m'.core.event p).state = .unqueued)
    (hpool : ∀ p, m'.point = .pushPool p → m'.core.classOf p = .pool)
    (htimer : ∀ p, m'.point = .pushTimer p → m'.core.classOf p = .timer) : m.Outcome m' taken :=
  ⟨⟨coh.owned.run run, hrunning, hstate, hpool, htimer⟩, ⟨acts, run, hacts⟩, htaken⟩

omit [NsList] in
/-- A step to a point where the storage that the main loop holds bears its mark. -/
lemma Coherent.outcome_marked {m' : Machine} {taken : Option Ptr} (coh : m.Coherent)
    {acts : List Act} (run : Run Move m.sequential acts m'.sequential)
    (hacts : ∀ act ∈ acts, ¬ act.Fills) (hrunning : m'.core.running = m'.point.held.toList)
    (hmarked : m'.point.unmarked = none)
    (htaken : ∀ p, taken = some p → p ∈ m.core.eventQueueActive) : m.Outcome m' taken := by
  refine coh.outcome run hacts hrunning htaken ?_ ?_ ?_ <;> intro p hp <;>
    simp_all [DispatchPoint.unmarked]

/-- `event_core_read` under interrupts. -/
lemma Coherent.read (coh : m.Coherent) (hpoint : m.point = .read) :
    ∃ m' r, m.main = .ok (m', r) ∧ m.Outcome m' r := by
  obtain ⟨s, point⟩ := m
  obtain rfl : point = .read := hpoint
  cases hqueue : s.eventQueueActive with
  | nil =>
    refine ⟨{ core := s, point := .start }, none, ?_,
      coh.outcome_marked .nil (by simp) coh.running rfl (by simp)⟩
    simp only [main, eventCoreRead, hqueue, List.head?_nil, ok_bind]
  | cons p rest =>
    have hmove : { s.setState p .running with
        eventQueueActive := rest, running := p :: s.running }
        = s.move p .queue .running ((s.mem p).tagged .running) (s.heap p) := by
      ext1 <;> simp [State.move, State.leave, State.enter, State.setState, State.store,
        State.event, hqueue, SysTimerStruct.tagged]
    refine ⟨{ core := s.move p .queue .running ((s.mem p).tagged .running) (s.heap p)
              point := .receive p }, some p, ?_,
      coh.outcome_marked (.single (.relocate (.deliver hqueue))) (by simp [Act.Fills]) ?_ rfl
        (by simp [hqueue])⟩
    · have hremove : nsListRemove (s.setState p .running).eventQueueActive p = .ok rest := by
        rw [show (s.setState p .running).eventQueueActive = p :: rest from hqueue,
          nsListRemove_head]
      simp only [main, eventCoreRead, hqueue, List.head?_cons, hremove, ok_bind]
      rw [← hmove]
      rfl
    · have hrunning : s.running = [] := coh.running
      simp [State.move_running, hrunning, DispatchPoint.held]

omit [NsList] in
lemma finishAct_not_fills (s : State) (p : Ptr) : ∀ act ∈ [finishAct s p], ¬ act.Fills := by
  intro act hact
  obtain rfl := List.mem_singleton.mp hact
  obtain ⟨B, v, hfinish⟩ := finishAct_relocates s p
  simp [hfinish, Act.Fills]

omit [NsList] in
/-- The allocator of a storage that a handler has run on. -/
lemma allocator_of_running {s : State} (own : Owned s) {p : Ptr} (hrun : s.running = [p]) :
    (s.event p).allocator = (s.classOf p).allocator := by
  by_cases hclass : s.classOf p = .foreign
  · rw [own.borrowed p (by simp [hrun]) hclass, hclass]
    rfl
  · exact own.allocator .running (by decide) p (by simp [State.at_, hrun, hclass])

/-- `event_core_free_push` up to its first statement. -/
lemma Coherent.push (coh : m.Coherent) {p : Ptr} (hpoint : m.point = .push p) :
    ∃ m' r, m.main = .ok (m', r) ∧ m.Outcome m' r := by
  obtain ⟨s, point⟩ := m
  obtain rfl : point = .push p := hpoint
  have own : Owned s := coh.owned
  have hrun : s.running = [p] := coh.running
  have halloc := allocator_of_running own hrun
  obtain ⟨s', hpush, hmove⟩ := eventCoreFreePush_finish own hrun
  have hrest : s'.running = [] := finishAct_running hrun hmove
  have hstate : s.classOf p ≠ .foreign →
      (s.setState p .unqueued).setState p .running = s := by
    intro hclass
    rw [State.setState_setState, State.setState_self]
    exact own.tag .running p (by simp [State.at_, hrun, hclass])
  have hunqueued : ∀ q, some p = some q → ((s.setState p .unqueued).event q).state = .unqueued := by
    intro q hq
    simp [State.setState, Option.some.inj hq]
  -- the two lists are pushed to in a second step, and an interrupt may come before it
  cases hclass : s.classOf p with
  | pool =>
    rw [hclass] at halloc
    refine ⟨{ core := s.setState p .unqueued, point := .pushPool p }, none, ?_,
      coh.outcome (Run.nil_iff.mpr (hstate (by simp [hclass]))) (by simp) hrun (by simp) hunqueued
        ?_ (by simp)⟩
    · simp only [main, halloc, StorageClass.allocator]
    · rintro q hq
      obtain rfl := DispatchPoint.pushPool.inj hq
      simpa using hclass
  | timer =>
    rw [hclass] at halloc
    refine ⟨{ core := s.setState p .unqueued, point := .pushTimer p }, none, ?_,
      coh.outcome (Run.nil_iff.mpr (hstate (by simp [hclass]))) (by simp) hrun (by simp) hunqueued
        (by simp) ?_⟩
    · simp only [main, halloc, StorageClass.allocator]
    · rintro q hq
      obtain rfl := DispatchPoint.pushTimer.inj hq
      simpa using hclass
  | dynamic =>
    -- a dynamic event is freed here, and a user event left alone: both end the dispatch
    rw [hclass] at halloc
    refine ⟨{ core := s', point := .finish }, none, ?_,
      coh.outcome_marked (.single hmove) (finishAct_not_fills s p) hrest rfl (by simp)⟩
    rw [eventCoreFreePush, show (State.event { s with running := [] } p).allocator = _ from halloc]
      at hpush
    simp only [StorageClass.allocator] at hpush
    simp only [main, halloc, StorageClass.allocator, hrun, List.tail_cons, hpush, ok_bind]
  | foreign =>
    rw [hclass] at halloc
    refine ⟨{ core := s', point := .finish }, none, ?_,
      coh.outcome_marked (.single hmove) (finishAct_not_fills s p) hrest rfl (by simp)⟩
    rw [eventCoreFreePush, show (State.event { s with running := [] } p).allocator = _ from halloc]
      at hpush
    simp only [StorageClass.allocator, Except.ok.injEq] at hpush
    simp only [main, halloc, StorageClass.allocator, hrun, List.tail_cons, hpush]

omit [NsList] in
/-- With the mark of the sequential event loop taken back, the state is that of the machine. -/
lemma unqueued_running {s : State} {p : Ptr} (hstate : (s.event p).state = .unqueued)
    (running : List Ptr) :
    State.setState { s.setState p .running with running := running } p .unqueued
      = { s with running := running } := by
  have hself : (s.setState p .running).setState p .unqueued = s := by
    rw [State.setState_setState, State.setState_self hstate]
  exact congrArg (fun t : State => { t with running := running }) hself

/-- What the critical sections of `event_core_free_push` do to a storage that is marked as
unqueued already. -/
lemma pushed {s : State} {p : Ptr} (own : Owned (s.setState p .running)) (hrun : s.running = [p])
    (hstate : (s.event p).state = .unqueued) : ∃ s',
    Move (s.setState p .running) (finishAct (s.setState p .running) p) s' ∧ s'.running = [] ∧
      (s.classOf p = .pool → s' = { s with
        freeEventEntry := NsList.addToStart s.freeEventEntry p, running := [] }) ∧
      (s.classOf p = .timer → s' = timerSysEventFree p { s with running := [] }) := by
  have hrun' : (s.setState p .running).running = [p] := hrun
  have halloc := allocator_of_running own hrun'
  obtain ⟨s', hpush, hmove⟩ := eventCoreFreePush_finish own hrun'
  refine ⟨s', hmove, finishAct_running hrun' hmove, fun hclass => ?_, fun hclass => ?_⟩ <;>
  · rw [State.setState_classOf, hclass] at halloc
    rw [eventCoreFreePush,
      show (State.event { s.setState p .running with running := [] } p).allocator
      = _ from halloc] at hpush
    simp only [StorageClass.allocator, unqueued_running hstate, Except.ok.injEq] at hpush
    exact hpush.symm

/-- The critical section of `event_core_free_push` for the startup pool. -/
lemma Coherent.pushPool (coh : m.Coherent) {p : Ptr} (hpoint : m.point = .pushPool p) :
    ∃ m' r, m.main = .ok (m', r) ∧ m.Outcome m' r := by
  obtain ⟨s, point⟩ := m
  obtain rfl : point = .pushPool p := hpoint
  have hrun : s.running = [p] := coh.running
  obtain ⟨s', hmove, hrest, hpool, -⟩ := pushed coh.owned hrun (coh.state p rfl)
  refine ⟨{ core := s', point := .finish }, none, ?_,
    coh.outcome_marked (.single hmove) (finishAct_not_fills _ p) hrest rfl (by simp)⟩
  rw [hpool (coh.pool p rfl)]
  simp only [main, hrun, List.tail_cons]

/-- `timer_sys_event_free`, called by `event_core_free_push`. -/
lemma Coherent.pushTimer (coh : m.Coherent) {p : Ptr} (hpoint : m.point = .pushTimer p) :
    ∃ m' r, m.main = .ok (m', r) ∧ m.Outcome m' r := by
  obtain ⟨s, point⟩ := m
  obtain rfl : point = .pushTimer p := hpoint
  have hrun : s.running = [p] := coh.running
  obtain ⟨s', hmove, hrest, -, htimer⟩ := pushed coh.owned hrun (coh.state p rfl)
  refine ⟨{ core := s', point := .finish }, none, ?_,
    coh.outcome_marked (.single hmove) (finishAct_not_fills _ p) hrest rfl (by simp)⟩
  rw [htimer (coh.timer p rfl)]
  simp only [main, hrun, List.tail_cons]

/-- A step of the main loop. -/
lemma Coherent.main (coh : m.Coherent) :
    (∃ m' r, m.main = .ok (m', r) ∧ m.Outcome m' r) ∨ m.main = .error .noTasklet := by
  obtain ⟨s, point⟩ := m
  cases point with
  | read => exact Or.inl (coh.read rfl)
  | push p => exact Or.inl (coh.push rfl)
  | pushPool p => exact Or.inl (coh.pushPool rfl)
  | pushTimer p => exact Or.inl (coh.pushTimer rfl)
  | start | finish | receive p =>
    exact Or.inl ⟨_, _, rfl, coh.outcome_marked (.single (.active _)) (by simp [Act.Fills])
      coh.running rfl (by simp)⟩
  | call p tasklet =>
    exact Or.inl ⟨_, _, rfl, coh.outcome_marked .nil (by simp) coh.running rfl (by simp)⟩
  | lookup p =>
    cases hget : eventTaskletHandlerGet s.currTasklet s with
    | none => exact Or.inr (by simp only [Machine.main, hget])
    | some tasklet =>
      exact Or.inl ⟨{ core := s, point := .call p tasklet }, none,
        by simp only [Machine.main, hget],
        coh.outcome_marked .nil (by simp) coh.running rfl (by simp)⟩

/-! ## Interrupts -/

omit [NsList] in
/-- Moves of other storages leave a storage its class and its mark. -/
lemma untouched_of_run {s s' : State} {p : Ptr} {acts : List Act} (run : Run Move s acts s')
    (hacts : ∀ q A B v, .relocate q A B v ∈ acts → q ≠ p) :
    s'.classOf p = s.classOf p ∧ (s'.event p).state = (s.event p).state := by
  have hne : ∀ act ∈ acts, ∀ q A B v, act = .relocate q A B v → q ≠ p := by
    rintro act hact q A B v rfl
    exact hacts q A B v hact
  refine run.invariant_on
    (I := fun t => t.classOf p = s.classOf p ∧ (t.event p).state = (s.event p).state)
    ⟨rfl, rfl⟩ hne fun t act u hsame hact move => ?_
  rw [← hsame.1, ← hsame.2]
  by_cases hrelocate : ∃ q A B v, act = .relocate q A B v
  · obtain ⟨q, A, B, v, rfl⟩ := hrelocate
    have hqp : p ≠ q := (hact q A B v rfl).symm
    cases move with
    | relocate row =>
      exact ⟨t.move_classOf_of_ne hqp A B v _, by rw [t.move_event_of_ne hqp]⟩
  · have still := move.still fun q A B v h => hrelocate ⟨q, A, B, v, h⟩
    exact ⟨still.classOf p, still.state p⟩

omit [NsList] in
/-- A storage that the main loop holds without its mark runs, for the sequential event loop. -/
lemma Coherent.unmarked (coh : m.Coherent) {p : Ptr} (hp : m.point.unmarked = some p) :
    m.sequential = m.core.setState p .running ∧ m.core.running = [p] ∧
      p ∈ m.sequential.at_ .running := by
  have hseq : m.sequential = m.core.setState p .running := by rw [sequential, hp]
  have hheld : m.point.held = some p := by
    cases hpoint : m.point <;> rw [hpoint] at hp <;> first | exact hp | cases hp
  have hrun : m.core.running = [p] := by rw [coh.running, hheld]; rfl
  have hclass : m.core.classOf p ≠ .foreign := by
    cases hpoint : m.point <;> rw [hpoint] at hp <;>
      simp only [DispatchPoint.unmarked, Option.some.injEq, reduceCtorEq] at hp <;> subst hp
    · simp [coh.pool _ hpoint]
    · simp [coh.timer _ hpoint]
  refine ⟨hseq, hrun, ?_⟩
  rw [hseq, State.at_, show (m.core.setState p .running).running = [p] from hrun]
  simp [hclass]

omit [NsList] in
/-- A call in an interrupt that does not depend on the mark of the storage that the main loop holds
does to the machine what it does to the sequential event loop. -/
lemma Coherent.interrupt (coh : m.Coherent) {f : State → Except Fault State} {s' : State}
    {acts : List Act} (hf : f m.sequential = .ok s') (run : Run Move m.sequential acts s')
    (hacts : ∀ act ∈ acts, ¬ act.Fills) (hrunning : s'.running = m.sequential.running)
    (hmark : ∀ p, m.point.unmarked = some p →
      f (m.sequential.setState p .unqueued) = .ok (s'.setState p .unqueued) ∧
        ∀ q A B v, .relocate q A B v ∈ acts → q ≠ p) :
    ∃ s'', f m.core = .ok s'' ∧ m.Outcome { m with core := s'' } none ∧
      sequential { m with core := s'' } = s' := by
  cases hp : m.point.unmarked with
  | none =>
    have hseq : m.sequential = m.core := by rw [sequential, hp]
    have hseq' : sequential { m with core := s' } = s' := by simp only [sequential, hp]
    refine ⟨s', hseq ▸ hf, coh.outcome_marked (hseq'.symm ▸ run) hacts ?_ hp (by simp), hseq'⟩
    rw [hrunning, hseq]
    exact coh.running
  | some p =>
    obtain ⟨hseq, hrun, hmem⟩ := coh.unmarked hp
    obtain ⟨hfp, huntouched⟩ := hmark p hp
    obtain ⟨hclass, hstate⟩ := untouched_of_run run huntouched
    have hcore : m.sequential.setState p .unqueued = m.core := by
      rw [hseq, State.setState_setState, State.setState_self (coh.state p hp)]
    have hseq' : sequential { m with core := s'.setState p .unqueued } = s' := by
      simp only [sequential, hp]
      rw [State.setState_setState, State.setState_self]
      rw [hstate]
      exact coh.owned.tag .running p hmem
    refine ⟨s'.setState p .unqueued, hcore ▸ hfp,
      coh.outcome (hseq'.symm ▸ run) hacts ?_ (by simp) ?_ ?_ ?_, hseq'⟩
    · show s'.running = _
      rw [hrunning, hseq]
      exact coh.running
    · intro q hq
      obtain rfl : p = q := Option.some.inj (hp.symm.trans hq)
      simp [State.setState]
    · intro q hq
      have hqp : some q = some p := (congrArg DispatchPoint.unmarked hq).symm.trans hp
      rw [Option.some.inj hqp, State.setState_classOf, hclass, hseq, State.setState_classOf]
      exact coh.pool p (by rw [← Option.some.inj hqp]; exact hq)
    · intro q hq
      have hqp : some q = some p := (congrArg DispatchPoint.unmarked hq).symm.trans hp
      rw [Option.some.inj hqp, State.setState_classOf, hclass, hseq, State.setState_classOf]
      exact coh.timer p (by rw [← Option.some.inj hqp]; exact hq)

/-- A tick update in an interrupt. -/
lemma Coherent.tickUpdate (coh : m.Coherent) (ticks : BitVec 32) :
    ∃ s', systemTimerTickUpdate ticks m.core = .ok s' ∧ m.Outcome { m with core := s' } none := by
  obtain ⟨s', hupdate, run⟩ := systemTimerTickUpdate_performs coh.owned ticks
  have hfills : ∀ act ∈ Act.clock ticks :: expireActs
      { m.sequential with timerSysTicks := m.sequential.timerSysTicks + ticks }, ¬ act.Fills :=
    List.forall_mem_cons.mpr ⟨id, expireActs_forall (by simp [Act.Fills])⟩
  have hrunning : s'.running = m.sequential.running :=
    running_of_run run
      (List.forall_mem_cons.mpr ⟨trivial, expireActs_forall (by simp [Act.Unstacked])⟩)
  obtain ⟨s'', hok, houtcome, -⟩ := coh.interrupt hupdate run hfills hrunning (by
    intro p hp
    obtain ⟨-, -, hmem⟩ := coh.unmarked hp
    have hlist : p ∉ m.sequential.systemTimerList := fun hl =>
      absurd (coh.owned.place_unique (A := .timerList) hl hmem) (by decide)
    constructor
    · rw [State.systemTimerTickUpdate_setState hlist, hupdate]
      rfl
    · -- what expires was waiting
      intro q A B v hact
      rcases List.mem_cons.mp hact with hact | hact
      · cases hact
      · obtain ⟨r, hr, heq⟩ := List.mem_map.mp hact
        obtain rfl : r = q := (Act.relocate.inj heq).1
        have hwaits : r ∈ m.sequential.systemTimerList := (List.takeWhile_prefix _).subset hr
        exact fun hrp => hlist (hrp ▸ hwaits))
  exact ⟨s'', hok, houtcome⟩

omit [NsList] in
/-- A live periodic timer event, as the sequential event loop sees it. -/
lemma Coherent.livePeriodic (coh : m.Coherent) {p : Ptr} (hp : LivePeriodic m.core p) :
    LivePeriodic m.sequential p := by
  cases hmark : m.point.unmarked with
  | none =>
    rw [sequential, hmark]
    exact hp
  | some q =>
    obtain ⟨hseq, -, -⟩ := coh.unmarked hmark
    obtain ⟨hclass, hperiod, hpending⟩ := hp
    rw [hseq]
    refine ⟨by rw [State.setState_classOf, hclass], ?_, hpending⟩
    simp only [State.setState, State.store, Function.update_apply]
    split
    · next hpq => simpa [hpq] using hperiod
    · exact hperiod

/-- A cancel in an interrupt, outside the window. -/
lemma Coherent.cancel (coh : m.Coherent) {p : Ptr} (hp : LivePeriodic m.core p)
    (hwindow : m.point ≠ .pushTimer p) :
    ∃ s', eventOSCancel (some p) m.core = .ok s' ∧ m.Outcome { m with core := s' } none ∧
      Retired (sequential { m with core := s' }) p := by
  have own := coh.owned
  obtain ⟨hclass, -, hpending⟩ := coh.livePeriodic hp
  have hvalid : ValidEvent m.sequential p := hpending.validEvent hclass
  obtain ⟨s', hcancel, run⟩ := eventOSCancel_valid own hvalid
  have hfills : ∀ act ∈ cancelActs m.sequential p, ¬ act.Fills :=
    cancelActs_forall (by rintro A B v (rfl | rfl) - <;> simp [Act.Fills]) id
  have hrunning : s'.running = m.sequential.running :=
    running_of_run run (cancelActs_unstacked _ p)
  obtain ⟨s'', hok, houtcome, hseq⟩ := coh.interrupt hcancel run hfills hrunning (by
    intro q hq
    obtain ⟨hseq, hrun, hmem⟩ := coh.unmarked hq
    have hpq : q ≠ p := by
      rintro rfl
      cases hpoint : m.point <;> rw [hpoint] at hq <;>
        simp only [DispatchPoint.unmarked, Option.some.injEq, reduceCtorEq] at hq <;> subst hq
      · have hpool := coh.pool _ hpoint
        rw [hseq, State.setState_classOf, hpool] at hclass
        cases hclass
      · exact hwindow hpoint
    have hplace : p ∈ m.sequential.eventQueueActive ∨ p ∈ m.sequential.systemTimerList := by
      rcases hpending with hqueue | hlist | hr
      · exact Or.inl hqueue
      · exact Or.inr hlist
      · rw [hseq, show (m.core.setState q .running).running = [q] from hrun] at hr
        exact absurd (List.mem_singleton.mp hr).symm hpq
    refine ⟨eventOSCancel_setState own hpq hclass hplace hcancel _, fun r A B v hact => ?_⟩
    have hr : ∀ act ∈ cancelActs m.sequential p, ∀ r A B v, act = .relocate r A B v → r = p :=
      cancelActs_forall (by simp +contextual) (by simp)
    rw [hr _ hact r A B v rfl]
    exact hpq.symm)
  exact ⟨s'', hok, houtcome, hseq ▸ retired_of_cancel own hclass hpending run⟩

/-- A cancel in the window removes the storage from a list that does not contain it. -/
lemma Coherent.window (coh : m.Coherent) {p : Ptr} (hpoint : m.point = .pushTimer p) :
    eventOSCancel (some p) m.core = .error .notOnList := by
  obtain ⟨hseq, hrun, hmem⟩ := coh.unmarked (p := p) (by rw [hpoint]; rfl)
  have halloc : (m.core.event p).allocator = .timer := by
    have hsame := coh.owned.allocator .running (by decide) p hmem
    rw [hseq, State.setState_classOf, coh.timer p hpoint] at hsame
    simpa [State.setState] using hsame
  have hlist : p ∉ m.core.systemTimerList := by
    intro hl
    have hwaits : p ∈ m.sequential.at_ .timerList := by
      rw [hseq]
      exact hl
    exact absurd (coh.owned.place_unique hwaits hmem) (by decide)
  have hremove : nsListRemove (m.core.setPeriod p 0).systemTimerList p = .error .notOnList := by
    show nsListRemove m.core.systemTimerList p = _
    rw [nsListRemove, if_neg hlist]
  simp only [eventOSCancel, halloc, ↓reduceIte, timerSysEventCancelCritical, State.setPeriod_event,
    coh.state p (by rw [hpoint]; rfl), hremove, error_bind]

/-! ## Runs -/

/-- A step outside the window. -/
lemma Coherent.step (coh : m.Coherent) {label : MachineOp × Option Ptr} {m' : Machine}
    (step : m.Step label m') :
    m.Outcome m' label.2 ∧ ∀ p, label.1 = .cancel p → Retired m'.sequential p := by
  obtain ⟨op, r⟩ := label
  obtain ⟨hvalid, hcalm, hexec⟩ := step
  cases op with
  | main =>
    refine ⟨?_, by simp⟩
    rcases coh.main with ⟨t, r', hmain, houtcome⟩ | hfault
    · obtain ⟨rfl, rfl⟩ : t = m' ∧ r' = r := by
        simpa [Machine.exec, hmain] using hexec
      exact houtcome
    · simp [Machine.exec, hfault] at hexec
  | tickUpdate ticks =>
    obtain ⟨s', hupdate, houtcome⟩ := coh.tickUpdate ticks
    obtain ⟨rfl, rfl⟩ : { m with core := s' } = m' ∧ none = r := by
      simpa [Machine.exec, hupdate] using hexec
    exact ⟨houtcome, by simp⟩
  | cancel p =>
    obtain ⟨s', hcancel, houtcome, hretired⟩ := coh.cancel hvalid
      fun hpoint => hcalm ⟨p, rfl, hpoint⟩
    obtain ⟨rfl, rfl⟩ : { m with core := s' } = m' ∧ none = r := by
      simpa [Machine.exec, hcancel] using hexec
    refine ⟨houtcome, fun q hq => ?_⟩
    obtain rfl := MachineOp.cancel.inj hq
    exact hretired

/-- A step removes a storage from a list that does not contain it exactly if it is a cancel in the
window. -/
lemma Coherent.notOnList_iff (coh : m.Coherent) {op : MachineOp} (hvalid : m.Valid op) :
    m.exec op = .error .notOnList ↔ m.InWindow op := by
  cases op with
  | main =>
    have hwindow : ¬ m.InWindow .main := by simp [InWindow]
    rcases coh.main with ⟨t, r, hmain, -⟩ | hfault
    · simp [Machine.exec, hmain, hwindow]
    · simp [Machine.exec, hfault, hwindow]
  | tickUpdate ticks =>
    obtain ⟨s', hupdate, -⟩ := coh.tickUpdate ticks
    simp [Machine.exec, hupdate, InWindow]
  | cancel p =>
    by_cases hpoint : m.point = .pushTimer p
    · simp [Machine.exec, coh.window hpoint, InWindow, hpoint]
    · obtain ⟨s', hcancel, -⟩ := coh.cancel hvalid hpoint
      simp [Machine.exec, hcancel, InWindow, hpoint]

omit [NsList] in
/-- A timer event that was cancelled and is not held by the main loop is on the free list of the
timers, and nowhere else. -/
lemma Coherent.retired_free (coh : m.Coherent) {p : Ptr} (ret : Retired m.sequential p)
    (hheld : m.point.held ≠ some p) :
    m.core.systemTimerFree.count p = 1 ∧ p ∉ m.core.eventQueueActive ∧
      p ∉ m.core.systemTimerList ∧ p ∉ m.core.freeEventEntry ∧ p ∉ m.core.running := by
  have hlists : m.sequential.systemTimerFree = m.core.systemTimerFree ∧
      m.sequential.eventQueueActive = m.core.eventQueueActive ∧
      m.sequential.systemTimerList = m.core.systemTimerList ∧
      m.sequential.freeEventEntry = m.core.freeEventEntry ∧
      m.sequential.running = m.core.running := by
    unfold sequential
    split <;> exact ⟨rfl, rfl, rfl, rfl, rfl⟩
  obtain ⟨hfree, hqueue, hlist, hentry, hrunning⟩ := hlists
  have hnot : p ∉ m.core.running := by
    rw [coh.running]
    simpa [Option.mem_toList] using hheld
  have hcount := ret.count coh.owned
  rw [hrunning, if_neg hnot, hfree] at hcount
  have helse := ret.not_pending coh.owned
  rw [hqueue, hlist, hentry] at helse
  exact ⟨hcount, helse.1, helse.2.1, helse.2.2, hnot⟩

/-- What a run outside the window keeps. -/
structure Safe (l : List (MachineOp × Option Ptr)) (m : Machine) : Prop where
  coherent : m.Coherent
  retired : ∀ p r, (.cancel p, r) ∈ l → Retired m.sequential p
  undelivered : l.Pairwise fun before after => ∀ p, before.1 = .cancel p → after.2 ≠ some p

omit [NsList] in
lemma idle_safe {s : State} (own : Owned s) (hidle : s.running = []) : Safe [] (idle s) := by
  refine ⟨⟨own, hidle, ?_, ?_, ?_⟩, by simp, .nil⟩ <;> intro p hp <;> cases hp

lemma Safe.step {l : List (MachineOp × Option Ptr)} {label : MachineOp × Option Ptr}
    {m' : Machine} (safe : Safe l m) (step : m.Step label m') : Safe (l ++ [label]) m' := by
  obtain ⟨⟨hcoherent, ⟨acts, run, hacts⟩, htaken⟩, hcancelled⟩ := safe.coherent.step step
  refine ⟨hcoherent, fun p r hmem => ?_, ?_⟩
  · rcases List.mem_append.mp hmem with hmem | hmem
    · exact (safe.retired p r hmem).run safe.coherent.owned run
        fun act hact hreuses => hacts act hact hreuses.fills
    · exact hcancelled p (by rw [← List.mem_singleton.mp hmem])
  · refine List.pairwise_append.mpr ⟨safe.undelivered, List.pairwise_singleton _ _, ?_⟩
    rintro ⟨op, r⟩ hbefore after hafter p rfl hp
    obtain rfl := List.mem_singleton.mp hafter
    -- what is taken is queued, and a retired timer event is not
    have hqueued : p ∈ m.sequential.at_ .queue := by
      have hqueue := htaken p hp
      unfold sequential
      split <;> exact hqueue
    exact ((safe.retired p r hbefore).not_pending safe.coherent.owned).1 hqueued

theorem safe_of_run {s₀ : State} {l : List (MachineOp × Option Ptr)} (own : Owned s₀)
    (hidle : s₀.running = []) (run : Run Machine.Step (.idle s₀) l m) : Safe l m := by
  induction run with
  | nil => exact idle_safe own hidle
  | snoc _ last ih => exact ih.step last

end Machine

/-- In every interleaving of dispatches with tick updates and cancels of live periodic timer events
from interrupts, where no event is cancelled between its being marked as unqueued and the critical
section of `timer_sys_event_free`: every removal from a list finds its entry, unless the next step
is such a cancel; no event is taken from the queue after it was cancelled; and a cancelled event
that the main loop does not hold is on the free list of the timers once and on no other list. -/
theorem cancelFromInterrupt_safe {s₀ : State} {l : List (MachineOp × Option Ptr)} {m : Machine}
    (reachable : Reachable s₀) (hidle : s₀.running = [])
    (run : Run Machine.Step (.idle s₀) l m) :
    (∀ op, m.Valid op → (m.exec op = .error .notOnList ↔ m.InWindow op)) ∧
    l.Pairwise (fun before after => ∀ p, before.1 = .cancel p → after.2 ≠ some p) ∧
    ∀ p r, (.cancel p, r) ∈ l → m.point.held ≠ some p →
      m.core.systemTimerFree.count p = 1 ∧ p ∉ m.core.eventQueueActive ∧
        p ∉ m.core.systemTimerList ∧ p ∉ m.core.freeEventEntry ∧ p ∉ m.core.running := by
  have safe := Machine.safe_of_run reachable.owned hidle run
  exact ⟨fun op hvalid => safe.coherent.notOnList_iff hvalid, safe.undelivered,
    fun p r hmem hheld => safe.coherent.retired_free (safe.retired p r hmem) hheld⟩

/-! ## Running the model -/

/-- One step of an interleaving, if it is valid, outside the window and does not fault. -/
def Machine.attempt (m : Machine) (op : MachineOp) : Option Machine :=
  if m.Valid op ∧ ¬ m.InWindow op then (m.exec op).toOption.map Prod.fst else none

lemma Machine.attempt_step {m m' : Machine} {op : MachineOp} (hattempt : m.attempt op = some m') :
    ∃ r, m.Step (op, r) m' := by
  unfold attempt at hattempt
  split at hattempt
  · next hop =>
    obtain ⟨result, hexec, rfl⟩ := Option.map_eq_some_iff.mp hattempt
    exact ⟨result.2, hop.1, hop.2, toOption_eq_some.mp hexec⟩
  · cases hattempt

/-- A periodic timer event has expired and is in the queue. -/
def expiredOps : List Op :=
  let event : ArmEvent :=
    { receiver := 0, sender := 0, eventType := 2, eventId := 3, dataPtr := none
      priority := .med, eventData := 4 }
  [.handlerCreate 7 1 (some (.heap 0)) none, .dispatch, .handlerReturn, .requestEvery event 5 none,
    .tickUpdate 5]

/-- Interleave a dispatch of the expired event with calls in interrupts. -/
def interleave (ops : List MachineOp) : Option (State × Machine) :=
  (drive (fun _ _ => True) expiredOps (eventOSSchedulerInit (.boot 0))).bind fun s =>
    (ops.foldlM Machine.attempt (.idle s)).map fun m => (s, m)

lemma interleave_run {ops : List MachineOp} {s : State} {m : Machine}
    (h : interleave ops = some (s, m)) :
    Reachable s ∧ ∃ l, Run Machine.Step (.idle s) l m ∧ l.map Prod.fst = ops := by
  obtain ⟨s', hs, hrest⟩ := Option.bind_eq_some_iff.mp h
  obtain ⟨m', hm, heq⟩ := Option.map_eq_some_iff.mp hrest
  obtain ⟨rfl, rfl⟩ := Prod.mk.inj heq
  exact ⟨reachable_of_drive hs,
    Run.of_foldlM (f := Machine.attempt) (fun _ _ _ => Machine.attempt_step) hm⟩

end

/-- Six steps after the start of a dispatch the event is marked as unqueued and is on no list: to
cancel it then removes it from a timer list that does not contain it. -/
theorem cancelFromInterrupt_not_on_list : ∃ s₀ l m p, Reachable s₀ ∧ s₀.running = [] ∧
    Run Machine.Step (.idle s₀) l m ∧ m.Valid (.cancel p) ∧
    m.exec (.cancel p) = .error .notOnList := by
  have hsome : (interleave (List.replicate 6 .main)).map (fun (s, m) =>
      (s.running, decide (m.Valid (.cancel (.startupSysTimerPool 5))), m.point))
      = some ([], true, .pushTimer (.startupSysTimerPool 5)) := by decide +kernel
  obtain ⟨⟨s, m⟩, hinterleave, hvalues⟩ := Option.map_eq_some_iff.mp hsome
  obtain ⟨reachable, l, run, -⟩ := interleave_run hinterleave
  simp only [Prod.mk.injEq, decide_eq_true_eq] at hvalues
  obtain ⟨hidle, hvalid, hpoint⟩ := hvalues
  have safe := Machine.safe_of_run reachable.owned hidle run
  exact ⟨s, l, m, _, reachable, hidle, run, hvalid,
    (safe.coherent.notOnList_iff hvalid).mpr ⟨_, rfl, hpoint⟩⟩

/-- The event is cancelled while its handler runs, and freed once. -/
theorem cancelFromInterrupt_safe_handler : ∃ s₀ l m r, Reachable s₀ ∧
    Run Machine.Step (.idle s₀) l m ∧ (.cancel (.startupSysTimerPool 5), r) ∈ l ∧
    m.core.systemTimerFree.count (.startupSysTimerPool 5) = 1 := by
  have hsome : (interleave [.main, .main, .main, .main, .cancel (.startupSysTimerPool 5), .main,
      .tickUpdate 5, .main, .main]).map (fun (s, m) => (s.running, m.point.held))
      = some ([], none) := by decide +kernel
  obtain ⟨⟨s, m⟩, hinterleave, hvalues⟩ := Option.map_eq_some_iff.mp hsome
  obtain ⟨reachable, l, run, hops⟩ := interleave_run hinterleave
  obtain ⟨hidle, hheld⟩ := Prod.mk.inj hvalues
  have hcancel : MachineOp.cancel (.startupSysTimerPool 5) ∈ l.map Prod.fst := by simp [hops]
  obtain ⟨⟨_, r⟩, hmem, rfl⟩ := List.mem_map.mp hcancel
  exact ⟨s, l, m, r, reachable, run, hmem,
    ((cancelFromInterrupt_safe reachable hidle run).2.2 _ r hmem (by simp [hheld])).1⟩

end EventLoop
