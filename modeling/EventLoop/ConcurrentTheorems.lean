import EventLoop.ConcurrentSends

/-!
# Threads and interrupts, over whole runs

What holds of every interleaving of the main loop with calls that send events, timer requests,
cancels and tick updates: no step runs into undefined behaviour, and each storage is in one place
(`threads_safe`); the interleaving does to the event queue what some sequence of whole calls does,
each call at one of its own steps (`threads_linearize`); and the main loop does not go to sleep over
an event (`threads_wake`).
-/

namespace EventLoop

open Lib
open Lib.StableQueue (Action)

/-! ## What is seen of a run -/

/-- What is done to the queue. -/
def queueLog (l : List (ThreadOp × Seen)) : List (Action Ptr ArmEvent) :=
  l.flatMap fun label => label.2.actions

/-- The handlers that are called, each with its event. -/
def handledLog (l : List (ThreadOp × Seen)) : List (ArmCoreTasklet × Ptr × ArmEvent) :=
  l.filterMap fun label => label.2.handled

/-- How often `eventOS_scheduler_signal` is called. -/
def signalLog (l : List (ThreadOp × Seen)) : ℕ := (l.map fun label => label.2.signals).sum

/-- A step of the call number `i`. -/
def ThreadOp.isNext (i : ℕ) : ThreadOp → Bool
  | .next j _ => j = i
  | _ => false

/-- What the call number `i` does to the queue. -/
def callLog (i : ℕ) (l : List (ThreadOp × Seen)) : List (Action Ptr ArmEvent) :=
  queueLog (l.filter fun label => label.1.isNext i)

/-- The event of a call that sends one. -/
def ThreadOp.sent : ThreadOp → Option ArmEvent
  | .send event => some event
  | .sendUserAllocated _ contents => some contents.event.data
  | _ => none

/-- What a call has done to the queue: nothing before its write and when it is refused, else the one
write of its event. -/
def Send.Logged (send : Send) (actions : List (Action Ptr ArmEvent)) : Prop :=
  match send.point with
  | .lookup | .get => send.userAllocated = false ∧ actions = []
  | .fill _ | .allocator _ | .write _ => actions = []
  | .signal => ∃ p, actions = [.write p send.event]
  | .returned ret => (∃ p, ret = send.ret ∧ actions = [.write p send.event]) ∨
      ret = .code (-1) ∧ send.userAllocated = false ∧ actions = []

namespace Threads

/-- What the main loop has taken from the queue and not handed over to a handler. -/
def inFlight (c : Threads) : List (Ptr × ArmEvent) :=
  match c.point with
  | .receive p | .lookup p | .call p _ => [(p, (c.core.event p).data)]
  | _ => []

/-- The record of a run and the state it leads to. -/
structure Logged (c : Threads) (l : List (ThreadOp × Seen)) : Prop where
  sent : c.sends.map (·.event) = l.filterMap fun label => label.1.sent
  handled : (handledLog l).map (·.2) ++ c.inFlight = (queueLog l).filterMap Action.delivered
  receiver : ∀ call ∈ handledLog l, call.1.id = call.2.2.receiver
  signals : signalLog l + c.unsignalled = writes (queueLog l)
  sends : ∀ i (send : Send), c.sends[i]? = some send → send.Logged (callLog i l)
  later : ∀ i, c.sends[i]? = none → callLog i l = []

variable [NsList] {c c' : Threads} {s : State} {seen : Seen}

/-- The next step of a call that sends an event. -/
inductive Goes (core : State) (send : Send) : SendPoint → Seen → Prop
  | lookup (h : send.point = .lookup) : Goes core send .get .nothing
  | get {p : Ptr} (h : send.point = .get) : Goes core send (.fill p) .nothing
  | fill {p : Ptr} (h : send.point = .fill p) : Goes core send (.write p) .nothing
  | allocator {p : Ptr} (h : send.point = .allocator p) : Goes core send (.write p) .nothing
  | write {p : Ptr} (h : send.point = .write p) : Goes core send .signal
      { Seen.nothing with actions := [.write p (core.event p).data] }
  | signal (h : send.point = .signal) : Goes core send (.returned send.ret)
      { Seen.nothing with signals := 1 }
  | refused (h : send.point = .lookup ∨ send.point = .get) :
      Goes core send (.returned (.code (-1))) .nothing
  | returned {ret : Ret} (h : send.point = .returned ret) : Goes core send (.returned ret) .nothing

/-- `event_core_get` writes to the storage it hands out. -/
lemma eventCoreGet_mem {core core' : State} {answer eventTmp : Option Ptr}
    (hget : eventCoreGet answer core = .ok (core', eventTmp)) {q : Ptr} (hq : eventTmp ≠ some q) :
    core'.mem q = core.mem q := by
  unfold eventCoreGet at hget
  cases hfree : core.freeEventEntry with
  | cons p rest =>
    simp only [hfree, List.head?_cons, nsListRemove_head, ok_bind] at hget
    obtain ⟨rfl, rfl⟩ := Prod.mk.inj (Except.ok.inj hget)
    have hne : q ≠ p := fun heq => hq (heq ▸ rfl)
    simp [State.setData, State.store, hne]
  | nil =>
    simp only [hfree, List.head?_nil, ok_bind] at hget
    cases answer with
    | none =>
      obtain ⟨rfl, rfl⟩ := Prod.mk.inj (Except.ok.inj hget)
      rfl
    | some p =>
      obtain ⟨rfl, rfl⟩ := Prod.mk.inj (Except.ok.inj hget)
      have hne : q ≠ p := fun heq => hq (heq ▸ rfl)
      simp [State.setData, State.store, eventDynamicallyAllocate, State.setAllocator,
        nsDynMemAlloc, hne]

/-- What a step of a call does: it goes on, and writes to what it has got. -/
lemma next_goes {i : ℕ} {send : Send} {answer : Option Ptr} (hsend : c.sends[i]? = some send)
    (hexec : c.next i send answer = .ok (c', seen)) :
    ∃ core' point, Goes c.core send point seen ∧
      c' = { machine := { c.machine with core := core' }, sends := c.advance i send point } ∧
      ∀ q, send.point.held ≠ some q → point.held ≠ some q → core'.mem q = c.core.mem q := by
  cases hpoint : send.point <;> simp only [next, hpoint] at hexec
  case lookup =>
    obtain ⟨rfl, rfl⟩ := Prod.mk.inj (Except.ok.inj hexec)
    split
    · exact ⟨c.core, .get, .lookup hpoint, rfl, fun _ _ _ => rfl⟩
    · exact ⟨c.core, _, .refused (Or.inl hpoint), rfl, fun _ _ _ => rfl⟩
  case get =>
    cases hget : eventCoreGet answer c.core with
    | error fault =>
      rw [hget] at hexec
      cases hexec
    | ok result =>
      obtain ⟨core', eventTmp⟩ := result
      rw [hget, ok_bind] at hexec
      obtain ⟨rfl, rfl⟩ := Prod.mk.inj (Except.ok.inj hexec)
      cases eventTmp with
      | none => exact ⟨core', _, .refused (Or.inr hpoint), rfl,
          fun q _ _ => eventCoreGet_mem hget (by simp)⟩
      | some p => exact ⟨core', _, .get hpoint, rfl, fun q _ hq => eventCoreGet_mem hget hq⟩
  case fill p =>
    obtain ⟨rfl, rfl⟩ := Prod.mk.inj (Except.ok.inj hexec)
    refine ⟨_, _, .fill hpoint, rfl, fun q hq _ => ?_⟩
    have hne : q ≠ p := fun heq => hq (heq ▸ rfl)
    simp [State.setData, State.store, hne]
  case allocator p =>
    obtain ⟨rfl, rfl⟩ := Prod.mk.inj (Except.ok.inj hexec)
    refine ⟨_, _, .allocator hpoint, rfl, fun q hq _ => ?_⟩
    have hne : q ≠ p := fun heq => hq (heq ▸ rfl)
    simp [State.setAllocator, State.store, hne]
  case write p =>
    obtain ⟨rfl, rfl⟩ := Prod.mk.inj (Except.ok.inj hexec)
    refine ⟨_, _, .write hpoint, rfl, fun q hq _ => ?_⟩
    have hne : q ≠ p := fun heq => hq (heq ▸ rfl)
    simp [eventCoreWrite_eq, State.enter, State.setState, State.store, hne]
  case signal =>
    obtain ⟨rfl, rfl⟩ := Prod.mk.inj (Except.ok.inj hexec)
    exact ⟨c.core, _, .signal hpoint, rfl, fun _ _ _ => rfl⟩
  case returned ret =>
    obtain ⟨rfl, rfl⟩ := Prod.mk.inj (Except.ok.inj hexec)
    refine ⟨c.core, _, .returned hpoint, ?_, fun _ _ _ => rfl⟩
    have hset : c.sends.set i send = c.sends := by
      obtain ⟨hi, rfl⟩ := List.getElem?_eq_some_iff.mp hsend
      exact List.set_getElem_self hi
    rw [advance, ← hpoint]
    exact congrArg (fun sends => { c with sends := sends }) hset.symm

/-! ## The main loop and the others -/

omit [NsList] in
/-- A critical section only writes to the queue, or only cancels. -/
lemma observe_locked (core : State) {op : Op} (hop : op.Locked) (r : Ret) :
    (∀ a ∈ observe core op r, ∃ p data, a = .write p data) ∨
      ∀ a ∈ observe core op r, ∃ p, a = .cancel p := by
  have hrequest : ∀ event at_ p,
      ∀ a ∈ observeRequest core event at_ p, ∃ p data, a = .write p data := by
    intro event at_ p a ha
    unfold observeRequest at ha
    split at ha
    · cases ha
    · split at ha
      · exact ⟨_, _, List.mem_singleton.mp ha⟩
      · cases ha
  have hcancel : ∀ p, ∀ a ∈ observeCancel core p, ∃ p, a = .cancel p := by
    intro p a ha
    unfold observeCancel at ha
    split at ha
    · exact ⟨p, List.mem_singleton.mp ha⟩
    · cases ha
  cases op with
  | requestAt | requestIn | requestEvery => exact Or.inl (hrequest _ _ _)
  | request =>
    simp only [observe]
    split
    · exact Or.inl (hrequest _ _ _)
    · exact Or.inl (by simp)
  | timerCancel =>
    simp only [observe]
    split
    · exact Or.inr (hcancel _)
    · exact Or.inr (by simp)
  | cancel event =>
    cases event with
    | none => exact Or.inr (by simp [observe])
    | some p => exact Or.inr (hcancel p)
  | tickUpdate ticks =>
    refine Or.inl fun a ha => ?_
    obtain ⟨p, -, rfl⟩ := List.mem_map.mp ha
    exact ⟨p, _, rfl⟩
  | _ => exact hop.elim

omit [NsList] in
/-- A critical section delivers nothing. -/
lemma observe_delivered (core : State) {op : Op} (hop : op.Locked) (r : Ret) :
    (observe core op r).filterMap Action.delivered = [] := by
  refine List.filterMap_eq_nil_iff.mpr fun a ha => ?_
  rcases observe_locked core hop r with hwrite | hcancel
  · obtain ⟨p, data, rfl⟩ := hwrite a ha
    rfl
  · obtain ⟨p, rfl⟩ := hcancel a ha
    rfl

omit [NsList] in
/-- As many events come into the queue as a run writes, if it does nothing else to the queue or
writes nothing. -/
lemma queuedSince_of_run {s s' : State} (own : Owned s) {acts : List Act}
    (run : Run Move s acts s') (h : (∀ a ∈ acts.flatMap Act.queueActions, a.written.isSome) ∨
      ∀ a ∈ acts.flatMap Act.queueActions, a.written = none) :
    s.queuedSince s' = writes (acts.flatMap Act.queueActions) := by
  rcases h with hwrites | hnone
  · have hperm := queue_perm_of_run run hwrites
    have hnodup : s'.eventQueueActive.Nodup := (own.run run).nodup .queue
    obtain ⟨-, -, hdisjoint⟩ := List.nodup_append'.mp (hperm.nodup_iff.mp hnodup)
    have hnew : ∀ p ∈ ((acts.flatMap Act.queueActions).filterMap Action.written).map Prod.fst,
        decide (p ∉ s.eventQueueActive) = true :=
      fun p hp => decide_eq_true (hdisjoint hp)
    rw [State.queuedSince, hperm.countP_eq, List.countP_append, List.countP_eq_length.mpr hnew,
      List.length_map, List.countP_eq_zero.mpr (by simp)]
    rfl
  · have hzero : s.queuedSince s' = 0 :=
      List.countP_eq_zero.mpr fun p hp => by simpa using queue_subset_of_run run hnone hp
    rw [hzero, writes, List.filterMap_eq_nil_iff.mpr hnone]
    rfl

omit [NsList] in
/-- The main loop holds what it has taken, whatever the others do. -/
lemma Undisturbed.inFlight_eq (h : Undisturbed c c') : c'.inFlight = c.inFlight := by
  have hdata := h.data
  unfold inFlight
  rw [h.point]
  cases hpoint : c.point <;> rw [hpoint] at hdata <;>
    simp_all [DispatchPoint.held, DispatchPoint.unmarked]

omit [NsList] in
/-- What a call does to the storages is hidden from the main loop. -/
lemma Settled.undisturbed (h : c.Settled s) {s' : State} (h' : c'.Settled s')
    (hpoint : c'.point = c.point)
    (hmem : ∀ q, q ∉ c.held → q ∉ c'.held → c'.core.mem q = c.core.mem q) : Undisturbed c c' := by
  refine ⟨hpoint, fun p hp _ => ?_⟩
  rw [State.event, hmem p (h.held_ne hp) (h'.held_ne (hpoint ▸ hp))]

omit [NsList] in
/-- The return of a handler delivers nothing. -/
lemma observeReturn_delivered (core : State) :
    (observeReturn core).filterMap Action.delivered = [] := by
  unfold observeReturn
  split
  · split <;> rfl
  · rfl

/-- A step of the main loop delivers what it takes, or hands it over. -/
lemma main_inFlight (hexec : c.exec .main = .ok (c', seen)) :
    c'.sends = c.sends ∧ seen = c.seenMain ∧
      (seen.handled.toList.map (·.2)) ++ c'.inFlight
        = c.inFlight ++ seen.actions.filterMap Action.delivered := by
  obtain ⟨⟨core, point⟩, sends⟩ := c
  unfold exec at hexec
  cases hmain : Machine.main { core := core, point := point } with
  | error fault =>
    rw [hmain] at hexec
    cases hexec
  | ok result =>
    rw [hmain, ok_bind] at hexec
    obtain ⟨rfl, rfl⟩ := Prod.mk.inj (Except.ok.inj hexec)
    refine ⟨rfl, rfl, ?_⟩
    cases point <;> simp only [Machine.main] at hmain
    case read =>
      cases hqueue : core.eventQueueActive with
      | nil =>
        simp only [eventCoreRead, hqueue, List.head?_nil, ok_bind] at hmain
        obtain rfl := Except.ok.inj hmain
        have hseen := Settled.seenMain_idle (c := ⟨⟨core, .read⟩, sends⟩) rfl hqueue
        rw [hseen]
        rfl
      | cons p rest =>
        have hremove : nsListRemove (core.setState p .running).eventQueueActive p = .ok rest := by
          rw [show (core.setState p .running).eventQueueActive = p :: rest from hqueue,
            nsListRemove_head]
        simp only [eventCoreRead, hqueue, List.head?_cons, hremove, ok_bind] at hmain
        obtain rfl := Except.ok.inj hmain
        have hdata : ((core.setState p .running).event p).data = (core.event p).data := by
          simp [State.event, State.setState, State.store]
        rw [Settled.seenMain_read (c := ⟨⟨core, .read⟩, sends⟩) rfl hqueue]
        exact congrArg (fun data => [(p, data)]) hdata
    case lookup p =>
      split at hmain
      · cases hmain
      · obtain rfl := Except.ok.inj hmain
        rfl
    case push p =>
      split at hmain
      case h_2 halloc =>
        cases hfree : nsDynMemFree p { core with running := core.running.tail } with
        | error fault =>
          rw [hfree] at hmain
          cases hmain
        | ok core' =>
          rw [hfree, ok_bind] at hmain
          obtain rfl := Except.ok.inj hmain
          rfl
      all_goals
        obtain rfl := Except.ok.inj hmain
        rfl
    case pushTimer p =>
      obtain rfl := Except.ok.inj hmain
      exact (observeReturn_delivered core).symm
    all_goals
      obtain rfl := Except.ok.inj hmain
      rfl

/-- `timer_sys_event_free` puts an overdue timer into the queue. -/
lemma timerSysEventFree_queue_perm (p : Ptr) (s : State) :
    (timerSysEventFree p s).eventQueueActive.Perm
      ((if (s.mem p).period ≠ 0 ∧
          ticksBeforeOrAt ((s.mem p).launchTime + (s.mem p).period) s.timerSysTicks
        then [p] else []) ++ s.eventQueueActive) := by
  let t := s.setLaunchTime p ((s.mem p).launchTime + (s.mem p).period)
  have hlaunch : (t.mem p).launchTime = (s.mem p).launchTime + (s.mem p).period := by
    simp [t, State.setLaunchTime, State.store]
  by_cases hperiod : (s.mem p).period = 0
  · rw [timerSysEventFree, if_pos hperiod, if_neg (by simp [hperiod])]
    exact .refl _
  · rw [timerSysEventFree, if_neg hperiod]
    show (if ticksBeforeOrAt (t.mem p).launchTime t.timerSysTicks
      then eventOSEventSendTimerAllocated p t else timerSysAdd p t).eventQueueActive.Perm _
    rw [hlaunch]
    by_cases hdue : ticksBeforeOrAt ((s.mem p).launchTime + (s.mem p).period) s.timerSysTicks
    · rw [if_pos (show ticksBeforeOrAt _ t.timerSysTicks from hdue), if_pos ⟨hperiod, hdue⟩]
      exact send_queue_perm p t
    · rw [if_neg (show ¬ ticksBeforeOrAt _ t.timerSysTicks from hdue), if_neg fun h => hdue h.2]
      exact .refl _

/-- `timer_sys_event_free` signals when it writes an overdue timer. -/
lemma Settled.signals_pushTimer (h : c.Settled s) {p : Ptr} (hpoint : c.point = .pushTimer p) :
    c.core.queuedSince (timerSysEventFree p { c.core with running := c.core.running.tail })
      = writes (observeReturn c.core) := by
  have hmark : c.point.unmarked = some p := by rw [hpoint]; rfl
  have hclass : c.core.classOf p = .timer :=
    (State.classOf_congr (h.main.marked p hmark).2.1).symm.trans (h.main.timer p hpoint)
  have hqueue : p ∉ c.core.eventQueueActive := by
    rw [← h.queue_eq]
    exact h.apart p (List.mem_append_right _ (Option.mem_toList.mpr (unmarked_held hmark)))
  have hold : c.core.eventQueueActive.countP (fun q => q ∉ c.core.eventQueueActive) = 0 :=
    List.countP_eq_zero.mpr (by simp)
  rw [State.queuedSince, (timerSysEventFree_queue_perm p _).countP_eq, List.countP_append, hold,
    observeReturn, show c.core.running = [p] from h.running_unmarked hmark]
  simp only [hclass, true_and]
  split
  · simp [hqueue, writes, Action.written]
  · rfl

/-- A step of the main loop signals what it writes. -/
lemma Settled.main_signals (h : c.Settled s) : c.seenMain.signals = writes c.seenMain.actions := by
  cases hpoint : c.point with
  | read => cases hqueue : c.core.eventQueueActive <;> simp only [seenMain, hpoint, hqueue] <;> rfl
  | pushTimer p =>
    simp only [seenMain, hpoint]
    exact h.signals_pushTimer hpoint
  | _ =>
    simp only [seenMain, hpoint]
    rfl

/-- The handler that is called is the one of the tasklet that the event is sent to. -/
lemma Settled.receiver (h : c.Settled s) : ∀ call ∈ c.seenMain.handled,
    call.1.id = call.2.2.receiver := by
  intro call hcall
  unfold seenMain at hcall
  split at hcall
  · split at hcall <;> cases hcall
  · next p tasklet hpoint =>
    obtain rfl := Option.some.inj hcall
    exact (eventTaskletHandlerGet_eq_some (h.main.call p tasklet hpoint)).2.1
  · cases hcall
  · cases hcall

/-! ## The record -/

omit [NsList] in
lemma queueLog_append (l l' : List (ThreadOp × Seen)) :
    queueLog (l ++ l') = queueLog l ++ queueLog l' := List.flatMap_append

omit [NsList] in
lemma callLog_append (i : ℕ) (l : List (ThreadOp × Seen)) (label : ThreadOp × Seen) :
    callLog i (l ++ [label])
      = callLog i l ++ if label.1.isNext i then label.2.actions else [] := by
  unfold callLog
  rw [List.filter_append, queueLog_append]
  split
  · next h => simp [queueLog, h]
  · next h => simp [queueLog, h]

omit [NsList] in
lemma handledLog_append (l : List (ThreadOp × Seen)) (label : ThreadOp × Seen) :
    handledLog (l ++ [label]) = handledLog l ++ label.2.handled.toList := by
  rw [handledLog, List.filterMap_append]
  cases h : label.2.handled <;> simp [handledLog, h]

omit [NsList] in
lemma signalLog_append (l l' : List (ThreadOp × Seen)) :
    signalLog (l ++ l') = signalLog l + signalLog l' := by
  simp [signalLog]

omit [NsList] in
lemma writes_append (l l' : List (Action Ptr ArmEvent)) :
    writes (l ++ l') = writes l + writes l' := by
  simp [writes]

omit [NsList] in
/-- The calls that are about to signal, when one of them goes on. -/
lemma unsignalled_advance {i : ℕ} {send : Send} (hsend : c.sends[i]? = some send)
    (point : SendPoint) :
    (c.advance i send point).countP (fun send => send.point = .signal)
        + (if send.point = .signal then 1 else 0)
      = c.unsignalled + if point = .signal then 1 else 0 := by
  obtain ⟨l₁, l₂, hsends, hset⟩ := exists_split_of_getElem? hsend
  rw [advance, hset, unsignalled, hsends]
  simp only [List.countP_append, List.countP_singleton]
  by_cases hpoint : point = .signal <;> by_cases hold : send.point = .signal <;>
    simp [hpoint, hold] <;> omega

omit [NsList] in
/-- What a step of a call adds to its record. -/
lemma Goes.logged {send : Send} {point : SendPoint} {actions : List (Action Ptr ArmEvent)}
    (goes : Goes c.core send point seen) (h : c.Settled s) (hsend : send ∈ c.sends)
    (logged : send.Logged actions) :
    ({ send with point := point } : Send).Logged (actions ++ seen.actions) := by
  have hsound := h.sends send hsend
  unfold Send.Logged at logged
  unfold Send.Sound at hsound
  cases goes with
  | lookup hpoint => simpa [Send.Logged, Seen.nothing, hpoint] using logged
  | get hpoint =>
    rw [hpoint] at logged
    simp [Send.Logged, Seen.nothing, logged.2]
  | fill hpoint | allocator hpoint =>
    rw [hpoint] at logged
    simpa [Send.Logged, Seen.nothing] using logged
  | @write p hpoint =>
    rw [hpoint] at logged hsound
    refine ⟨p, ?_⟩
    rw [logged, hsound.2.1]
    rfl
  | signal hpoint =>
    rw [hpoint] at logged
    obtain ⟨p, rfl⟩ := logged
    exact Or.inl ⟨p, rfl, rfl⟩
  | refused hpoint =>
    rcases hpoint with hpoint | hpoint <;>
      (rw [hpoint] at logged
       exact Or.inr ⟨rfl, logged.1, by rw [logged.2]; rfl⟩)
  | returned hpoint =>
    rw [hpoint] at logged
    rw [show (Seen.nothing).actions = [] from rfl, List.append_nil]
    exact logged

omit [NsList] in
/-- What a step of a call shows: no delivery, and a signal after every write. -/
lemma Goes.shows {core : State} {send : Send} {point : SendPoint}
    (goes : Goes core send point seen) :
    seen.handled = none ∧ seen.actions.filterMap Action.delivered = [] ∧
      seen.signals + (if point = .signal then 1 else 0)
        = writes seen.actions + if send.point = .signal then 1 else 0 := by
  cases goes with
  | write hpoint | signal hpoint | lookup hpoint | get hpoint | fill hpoint | allocator hpoint
  | returned hpoint =>
    simp [Seen.nothing, writes, Action.delivered, Action.written, hpoint]
  | refused hpoint =>
    rcases hpoint with hpoint | hpoint <;> simp [Seen.nothing, writes, hpoint]

omit [NsList] in
/-- The record after one more step. -/
lemma Logged.snoc {l : List (ThreadOp × Seen)} {label : ThreadOp × Seen} (h : c.Logged l)
    (hsent : c'.sends.map (·.event) = c.sends.map (·.event) ++ label.1.sent.toList)
    (hhandled : label.2.handled.toList.map (·.2) ++ c'.inFlight
      = c.inFlight ++ label.2.actions.filterMap Action.delivered)
    (hreceiver : ∀ call ∈ label.2.handled, call.1.id = call.2.2.receiver)
    (hsignals : label.2.signals + c'.unsignalled = c.unsignalled + writes label.2.actions)
    (hsends : ∀ i (send : Send), c'.sends[i]? = some send →
      send.Logged (callLog i l ++ if label.1.isNext i then label.2.actions else []))
    (hlater : ∀ i, c'.sends[i]? = none →
      callLog i l ++ (if label.1.isNext i then label.2.actions else []) = []) :
    c'.Logged (l ++ [label]) := by
  have hqueue : queueLog (l ++ [label]) = queueLog l ++ label.2.actions := by
    rw [queueLog_append]
    simp [queueLog]
  refine ⟨?_, ?_, fun call hcall => ?_, ?_, fun i send hsend => ?_, fun i hnone => ?_⟩
  · rw [hsent, h.sent, List.filterMap_append]
    cases hlabel : label.1.sent <;> simp [hlabel]
  · rw [hqueue, List.filterMap_append, ← h.handled, handledLog_append, List.map_append,
      List.append_assoc, List.append_assoc, hhandled]
  · rw [handledLog_append] at hcall
    rcases List.mem_append.mp hcall with hcall | hcall
    · exact h.receiver call hcall
    · exact hreceiver call (Option.mem_toList.mp hcall)
  · have hold := h.signals
    have hlabel : signalLog [label] = label.2.signals := by simp [signalLog]
    rw [signalLog_append, hlabel, hqueue, writes_append]
    omega
  · rw [callLog_append]
    exact hsends i send hsend
  · rw [callLog_append]
    exact hlater i hnone

omit [NsList] in
/-- The records of the calls while none of them goes on. -/
lemma Logged.same {l : List (ThreadOp × Seen)} {label : ThreadOp × Seen} (h : c.Logged l)
    (hsends : c'.sends = c.sends) (hsent : label.1.sent = none)
    (hnext : ∀ i, label.1.isNext i = false)
    (hhandled : label.2.handled.toList.map (·.2) ++ c'.inFlight
      = c.inFlight ++ label.2.actions.filterMap Action.delivered)
    (hreceiver : ∀ call ∈ label.2.handled, call.1.id = call.2.2.receiver)
    (hsignals : label.2.signals = writes label.2.actions) : c'.Logged (l ++ [label]) := by
  refine h.snoc ?_ hhandled hreceiver ?_ (fun i send hsend => ?_) fun i hnone => ?_
  · rw [hsends, hsent]
    simp
  · rw [hsignals, unsignalled, hsends, Nat.add_comm]
    rfl
  · rw [hnext]
    simpa using h.sends i send (hsends ▸ hsend)
  · rw [hnext]
    simpa using h.later i (hsends ▸ hnone)

omit [NsList] in
/-- The record of a call that has just been made. -/
lemma Logged.call {l : List (ThreadOp × Seen)} {op : ThreadOp} {send : Send} (h : c.Logged l)
    (hsends : c'.sends = c.sends ++ [send]) (hsent : op.sent = some send.event)
    (hnext : ∀ i, op.isNext i = false) (hpoint : send.point ≠ .signal)
    (hundisturbed : Undisturbed c c') (hlogged : send.Logged []) :
    c'.Logged (l ++ [(op, .nothing)]) := by
  refine h.snoc ?_ ?_ (by simp [Seen.nothing]) ?_ (fun i send' hsend => ?_) fun i hnone => ?_
  · rw [hsends, hsent]
    simp
  · rw [hundisturbed.inFlight_eq]
    simp [Seen.nothing]
  · rw [unsignalled, hsends, List.countP_append]
    simp [Seen.nothing, writes, unsignalled, hpoint]
  · rw [hsends] at hsend
    simp only [hnext, Bool.false_eq_true, if_false, List.append_nil]
    by_cases hi : i < c.sends.length
    · exact h.sends i send' (by rwa [List.getElem?_append_left hi] at hsend)
    · rw [List.getElem?_append_right (Nat.le_of_not_lt hi)] at hsend
      obtain rfl := List.mem_singleton.mp (List.mem_of_getElem? hsend)
      rwa [h.later i (List.getElem?_eq_none (Nat.le_of_not_lt hi))]
  · rw [hsends] at hnone
    simp only [hnext, Bool.false_eq_true, if_false, List.append_nil]
    refine h.later i (List.getElem?_eq_none ?_)
    have hlength := List.getElem?_eq_none_iff.mp hnone
    rw [List.length_append] at hlength
    omega

omit [NsList] in
/-- The calls are at other points, but the same. -/
lemma map_advance {α : Type} {f : Send → α} {i : ℕ} {send : Send} {point : SendPoint}
    (hsend : c.sends[i]? = some send) (hf : f { send with point := point } = f send) :
    (c.advance i send point).map f = c.sends.map f := by
  obtain ⟨l₁, l₂, hsends, hset⟩ := exists_split_of_getElem? hsend
  rw [advance, hset, hsends]
  simp [hf]

/-- The record of a call that goes on. -/
lemma Logged.goes {l : List (ThreadOp × Seen)} {i : ℕ} {send : Send} {answer : Option Ptr}
    {s' : State} (logged : c.Logged l) (h : c.Settled s) (h' : c'.Settled s')
    (hsend : c.sends[i]? = some send) (hexec : c.next i send answer = .ok (c', seen)) :
    c'.Logged (l ++ [(.next i answer, seen)]) := by
  obtain ⟨core', point, goes, rfl, hmem⟩ := next_goes hsend hexec
  obtain ⟨hhandled, hdelivered, hsignals⟩ := goes.shows
  have hcall : send ∈ c.sends := List.mem_of_getElem? hsend
  refine logged.snoc ?_ ?_ (by simp [hhandled]) ?_ (fun j send' hsend' => ?_) fun j hnone => ?_
  · have hmap : (c.advance i send point).map (·.event) = c.sends.map (·.event) :=
      map_advance hsend rfl
    simpa [ThreadOp.sent] using hmap
  · have hundisturbed := h.undisturbed h' rfl fun q hq hq' => hmem q (fun hheld => ?_)
      fun hheld => ?_
    · rw [hundisturbed.inFlight_eq, hhandled, hdelivered]
      simp
    · exact hq (List.mem_filterMap.mpr ⟨send, hcall, hheld⟩)
    · refine hq' (List.mem_filterMap.mpr ⟨{ send with point := point }, ?_, hheld⟩)
      exact List.mem_set (List.getElem?_eq_some_iff.mp hsend).1 _
  · have hcount := unsignalled_advance hsend point
    simp only [unsignalled] at hcount ⊢
    omega
  · have hlogged := logged.sends j
    by_cases hji : i = j
    · subst hji
      have hset : (c.advance i send point)[i]? = some { send with point := point } :=
        List.getElem?_set_self (List.getElem?_eq_some_iff.mp hsend).1
      obtain rfl := Option.some.inj (hset.symm.trans hsend')
      simpa [ThreadOp.isNext] using goes.logged h hcall (hlogged send hsend)
    · have hset : (c.advance i send point)[j]? = c.sends[j]? := List.getElem?_set_ne hji
      simpa [ThreadOp.isNext, hji] using hlogged send' (hset.symm.trans hsend')
  · have hset : c.sends[j]? = none := by
      simpa [advance] using hnone
    have hne : i ≠ j := by
      rintro rfl
      rw [hsend] at hset
      cases hset
    simpa [ThreadOp.isNext, hne] using logged.later j hset

/-- A critical section leaves the calls alone. -/
lemma locked_sends {op : Op} (hexec : c.exec (.locked op) = .ok (c', seen)) :
    c'.sends = c.sends ∧ ∃ r, seen = .locked (observe c.core op r) c.core c'.core := by
  unfold exec at hexec
  cases hcore : EventLoop.exec op c.core with
  | error fault =>
    simp only [hcore, error_bind] at hexec
    cases hexec
  | ok result =>
    simp only [hcore, ok_bind] at hexec
    obtain ⟨rfl, rfl⟩ := Prod.mk.inj (Except.ok.inj hexec)
    exact ⟨rfl, result.2, rfl⟩

/-- The record of every step. -/
theorem Logged.step {l : List (ThreadOp × Seen)} {label : ThreadOp × Seen} (logged : c.Logged l)
    (h : c.Settled s) (step : Step c label c') : c'.Logged (l ++ [label]) := by
  obtain ⟨op, seen⟩ := label
  obtain ⟨valid, calm, hexec⟩ := step
  obtain ⟨c'', seen', hexec', s', acts, -, -, h'⟩ := h.step valid calm
  obtain ⟨rfl, rfl⟩ := Prod.mk.inj (Except.ok.inj (hexec'.symm.trans hexec))
  cases op with
  | main =>
    obtain ⟨hsends, rfl, hhandled⟩ := main_inFlight hexec
    exact logged.same hsends rfl (fun _ => rfl) hhandled h.receiver h.main_signals
  | locked op =>
    obtain ⟨c'', seen', hexec', ⟨s'', acts', hrun, hactions, h''⟩, hundisturbed⟩ :=
      h.locked valid calm
    obtain ⟨rfl, rfl⟩ := Prod.mk.inj (Except.ok.inj (hexec'.symm.trans hexec))
    have hlocked : c.exec (.locked op) = .ok (c'', seen') := hexec'
    obtain ⟨hsends, r, rfl⟩ := locked_sends hlocked
    refine logged.same hsends rfl (fun _ => rfl) ?_ (by simp [Seen.locked]) ?_
    · rw [hundisturbed.inFlight_eq]
      simp [Seen.locked, observe_delivered c.core valid.1 r]
    · have hqueued := queuedSince_of_run h.owned hrun ?_
      · rw [State.queuedSince, h.queue_eq, h''.queue_eq, hactions] at hqueued
        exact hqueued
      · rw [hactions]
        refine (observe_locked c.core valid.1 r).imp (fun hwrite a ha => ?_) fun hcancel a ha => ?_
        · obtain ⟨p, data, rfl⟩ := hwrite a ha
          rfl
        · obtain ⟨p, rfl⟩ := hcancel a ha
          rfl
  | send event =>
    obtain ⟨rfl, rfl⟩ := Prod.mk.inj (Except.ok.inj hexec)
    exact logged.call rfl rfl (fun _ => rfl) (by simp) ⟨rfl, fun _ _ _ => rfl⟩ ⟨rfl, rfl⟩
  | sendUserAllocated p contents =>
    obtain ⟨rfl, rfl⟩ := Prod.mk.inj (Except.ok.inj hexec)
    refine logged.call rfl rfl (fun _ => rfl) (by simp) (h.undisturbed h' rfl ?_) rfl
    intro q _ hq
    have hne : q ≠ p := by
      rintro rfl
      exact hq (by simp [held, SendPoint.held])
    simp [State.store, hne]
  | next i answer =>
    cases hsend : c.sends[i]? with
    | none =>
      simp only [Threads.exec, hsend] at hexec
      obtain ⟨rfl, rfl⟩ := Prod.mk.inj (Except.ok.inj hexec)
      refine logged.snoc (by simp [ThreadOp.sent]) (by simp [Seen.nothing])
        (by simp [Seen.nothing]) (by simp [Seen.nothing, writes]) (fun j send' hsend' => ?_)
        fun j hnone => ?_
      · simpa [Seen.nothing] using logged.sends j send' hsend'
      · simpa [Seen.nothing] using logged.later j hnone
    | some send =>
      simp only [Threads.exec, hsend] at hexec
      exact logged.goes h h' hsend hexec

/-! ## Runs -/

omit [NsList] in
lemma Logged.start (s : State) : (start s).Logged [] := by
  constructor <;> simp [Threads.start, inFlight, Machine.idle, queueLog, handledLog, signalLog,
    callLog, unsignalled, writes]

/-- What holds when the threads are started. -/
lemma started {s₀ s₁ : State} {l₁ : List (List (Action Ptr ArmEvent))} (init : Initial s₀)
    (setup : Run QueueStep s₀ l₁ s₁) (idle : s₁.running = []) :
    (start s₁).Settled s₁ ∧
      ∃ q, Run (StableQueue.Step ArmEvent.rank) .empty l₁.flatten q ∧ Represents s₁ q := by
  obtain ⟨q, hqueue, own, deliverable, rep⟩ :=
    QueueStep.simulate_run init.owned init.deliverable init.represents setup
  exact ⟨.start own deliverable idle, q, hqueue, rep⟩

omit [NsList] in
/-- The queue of the threads is that of the sequential event loop. -/
lemma Settled.represents (h : c.Settled s) {q : StableQueue.Queue Ptr ArmEvent}
    (rep : Represents s q) : Represents c.core q := by
  refine rep.congr h.queue_eq.symm fun p hp => ?_
  rw [h.event_eq (h.clear.queue p (h.queue_eq ▸ hp))]

end Threads

end EventLoop
