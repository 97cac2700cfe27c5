import EventLoop.Cancelled
import EventLoop.Tasklets

/-!
# Cancelling timer events

`eventOS_cancel` of a timer event takes back the event in every stage of its life and leaves all
others alone (`cancel_timer_complete`). `eventOS_event_timer_cancel` cancels by key; it finds what
it should unless another event with the same key stands in front of the timer's event in the queue
(`timerCancel_spec_iff`).
-/

namespace EventLoop

open Lib

/-! ## What a cancel does at once -/

/-- The storage of a timer event is given back, and nothing else changes. -/
structure GivenBack (s : State) (p : Ptr) (s' : State) : Prop where
  timerFree : s'.systemTimerFree = p :: s.systemTimerFree
  queue : s'.eventQueueActive = s.eventQueueActive.erase p
  timerList : s'.systemTimerList = s.systemTimerList.erase p
  free : s'.freeEventEntry = s.freeEventEntry
  running : s'.running = s.running
  heap : s'.heap = s.heap
  tasklets : s'.armCoreTaskletList = s.armCoreTaskletList
  ticks : s'.timerSysTicks = s.timerSysTicks
  currTasklet : s'.currTasklet = s.currTasklet
  mem : ∀ q, q ≠ p → s'.mem q = s.mem q

lemma givenBack_of_move {s : State} (own : Owned s) {p : Ptr} {A : Place}
    (hA : A = .queue ∨ A = .timerList) (hp : p ∈ s.at_ A) (v : SysTimerStruct) :
    GivenBack s p (s.move p A .timerFree v (s.heap p)) := by
  have hother : ∀ C, C ≠ A → p ∉ s.at_ C := fun C hC hpC => hC (own.place_unique hpC hp)
  have hheap : Function.update s.heap p (s.heap p) = s.heap := Function.update_eq_self p s.heap
  have hmem : ∀ q, q ≠ p → (s.move p A .timerFree v (s.heap p)).mem q = s.mem q := by
    intro q hq
    rw [State.move_mem, Function.update_of_ne hq]
  rcases hA with rfl | rfl
  · have hlist : s.systemTimerList.erase p = s.systemTimerList :=
      List.erase_of_not_mem (hother .timerList (by decide))
    refine ⟨?_, ?_, ?_, ?_, ?_, ?_, rfl, rfl, rfl, hmem⟩
    · simp [State.move_timerFree]
    · simp [State.move_queue]
    · simp [State.move_timerList, hlist]
    · simp [State.move_free]
    · simp [State.move_running]
    · rw [State.move_heap, hheap]
  · have hqueue : s.eventQueueActive.erase p = s.eventQueueActive :=
      List.erase_of_not_mem (hother .queue (by decide))
    refine ⟨?_, ?_, ?_, ?_, ?_, ?_, rfl, rfl, rfl, hmem⟩
    · simp [State.move_timerFree]
    · simp [State.move_queue, hqueue]
    · simp [State.move_timerList]
    · simp [State.move_free]
    · simp [State.move_running]
    · rw [State.move_heap, hheap]

/-! ## Requests -/

/-- The operations that may hand out the storage of a timer. -/
def Op.RequestsTimer : Op → Prop
  | .requestAt _ _ _ | .requestIn _ _ _ | .requestEvery _ _ _ | .request _ _ _ _ _ => True
  | _ => False

/-- A step that hands out the storage `p` for a new timer event. -/
def HandsOut (p : Ptr) (label : Op × Ret) (s' : State) : Prop :=
  label.1.RequestsTimer ∧ (p ∈ s'.eventQueueActive ∨ p ∈ s'.systemTimerList)

/-- A request that takes the storage of a retired timer event makes it pending. -/
lemma Requested.handsOut {s s' : State} (own : Owned s) {event : ArmEvent}
    {at_ period : BitVec 32} {answer r : Option Ptr} {acts : List Act}
    (fresh : FreshAnswer s answer)
    (h : Requested s event at_ period answer r acts) (run : Run Move s acts s') {p : Ptr}
    (ret : Retired s p) : Retired s' p ∨
      p ∈ s.systemTimerFree ∧ (p ∈ s'.eventQueueActive ∨ p ∈ s'.systemTimerList) := by
  have hfill : ∀ {q : Ptr} {B : Place} {v : SysTimerStruct}, timerSource s answer = some q →
      B = .queue ∨ B = .timerList →
      Run Move s (growActs s q v ++ [.relocate q .timerFree B v]) s' → Retired s' p ∨
        p ∈ s.systemTimerFree ∧ (p ∈ s'.eventQueueActive ∨ p ∈ s'.systemTimerList) := by
    intro q B v hsource hB run
    obtain ⟨t, hgrow, hlast⟩ := run.split
    have hgrown : ∀ act ∈ growActs s q v, ¬ act.Reuses p :=
      growActs_forall (by simp [Act.Reuses]) s q v
    have ret' : Retired t p := ret.run own hgrow hgrown
    simp only [Run.cons_iff, Run.nil_iff] at hlast
    obtain ⟨u, move, rfl⟩ := hlast
    by_cases hqp : q = p
    · subst hqp
      refine Or.inr ⟨?_, ?_⟩
      · unfold timerSource at hsource
        split at hsource
        · next r rest hfree =>
          obtain rfl := Option.some.inj hsource
          simp [hfree]
        · exact absurd (fresh q hsource) (ret.not_fresh own)
      · cases move
        rcases hB with rfl | rfl
        · exact Or.inl (by simp [State.move_queue])
        · exact Or.inr (by simp [State.move_timerList])
    · exact Or.inl (ret'.move (own.run hgrow) move fun h => hqp h.1)
  cases h with
  | unknown | full => exact Or.inl (Run.nil_iff.mp run ▸ ret)
  | fire _ hsource => exact hfill hsource (Or.inl rfl) run
  | arm _ hsource => exact hfill hsource (Or.inr rfl) run

section

variable [NsList]

/-- A timer event that was cancelled stays retired until a request takes its storage. -/
theorem Retired.step {s s' : State} {label : Op × Ret} (own : Owned s) (step : Step s label s')
    {p : Ptr} (ret : Retired s p) :
    Retired s' p ∨ p ∈ s.systemTimerFree ∧ HandsOut p label s' := by
  obtain ⟨op, r⟩ := label
  obtain ⟨acts, heffect, run⟩ := Step.effect own step
  have hvalid := step.valid
  have hrequest : ∀ {event at_ period answer q acts}, FreshAnswer s answer → op.RequestsTimer →
      Requested s event at_ period answer q acts → Run Move s acts s' →
      Retired s' p ∨ p ∈ s.systemTimerFree ∧ HandsOut p (op, r) s' := by
    intro event at_ period answer q acts fresh hop h run
    exact (h.handsOut own fresh run ret).imp_right fun h => ⟨h.1, hop, h.2⟩
  have hkeep : (∀ act ∈ acts, ¬ act.Reuses p) →
      Retired s' p ∨ p ∈ s.systemTimerFree ∧ HandsOut p (op, r) s' :=
    fun hacts => Or.inl (ret.run own run hacts)
  cases heffect with
  | requestAt h | requestIn h | request h => exact hrequest hvalid trivial h run
  | requestEvery _ h => exact hrequest hvalid trivial h run
  | handlerCreate hfun hsource | send hreceiver hsource =>
    have hA := eventSource_ne_timerFree hsource
    exact hkeep (by simp [Act.Reuses, hA])
  | sendTimerAllocated event contents =>
    have hne : event ≠ p := fun h => ret.not_fresh own (h ▸ hvalid)
    exact hkeep (by simp [Act.Reuses, hne])
  | timerCancel | cancel =>
    refine hkeep (cancelActs_forall (fun A B v hA _ => ?_) id)
    rcases hA with rfl | rfl <;> simp [Act.Reuses]
  | tickUpdate | synchAfterSleep =>
    exact hkeep (List.forall_mem_cons.mpr ⟨id, expireActs_forall (by simp [Act.Reuses])⟩)
  | @handlerReturn q rest hrun =>
    obtain ⟨B, v, hfinish⟩ := finishAct_relocates s q
    exact hkeep (by simp [hfinish, Act.Reuses])
  | _ => exact hkeep (by simp [Act.Reuses])

/-- A retired timer event that runs goes on running until its handler returns. -/
lemma Retired.running_step {s s' : State} {label : Op × Ret} (own : Owned s)
    (step : Step s label s') {p : Ptr} (hp : p ∈ s.running) :
    p ∈ s'.running ∨ label.1 = .handlerReturn ∧ s.running.head? = some p := by
  obtain ⟨op, r⟩ := label
  obtain ⟨acts, heffect, run⟩ := Step.effect own step
  by_cases hdispatch : op = .dispatch
  · subst hdispatch
    cases heffect with
    | dispatchIdle =>
      have hsame := running_of_run run (by simp [Act.Unstacked])
      exact Or.inl (hsame ▸ hp)
    | dispatch hqueue =>
      simp only [Run.cons_iff, Run.nil_iff] at run
      obtain ⟨t, hdeliver, u, hactive, rfl⟩ := run
      refine Or.inl ?_
      rw [hactive.running trivial]
      cases hdeliver
      simp [State.move_running, hp]
  · by_cases hreturn : op = .handlerReturn
    · subst hreturn
      cases heffect with
      | @handlerReturn q rest hrun =>
        simp only [Run.cons_iff, Run.nil_iff] at run
        obtain ⟨t, hfinish, u, hactive, rfl⟩ := run
        rw [hrun] at hp
        rcases List.mem_cons.mp hp with rfl | hrest
        · exact Or.inr ⟨rfl, by simp [hrun]⟩
        · refine Or.inl ?_
          rw [hactive.running trivial, finishAct_running hrun hfinish]
          exact hrest
    · exact Or.inl ((heffect.running run hdispatch hreturn).symm ▸ hp)

/-- The return of its handler frees a retired timer event. -/
lemma Retired.handlerReturn {s s' : State} (own : Owned s) {r : Ret}
    (step : Step s (.handlerReturn, r) s') {p : Ptr} (ret : Retired s p)
    (hp : s.running.head? = some p) : p ∈ s'.systemTimerFree := by
  obtain ⟨acts, heffect, run⟩ := Step.effect own step
  cases heffect with
  | @handlerReturn q rest hrun =>
    obtain rfl : q = p := by simpa [hrun] using hp
    simp only [Run.cons_iff, Run.nil_iff] at run
    obtain ⟨t, hfinish, u, hactive, rfl⟩ := run
    have hact : finishAct s q
        = .relocate q .running .timerFree ((s.mem q).tagged .timerFree) := by
      simp [finishAct, ret.classOf, ret.period]
    rw [hact] at hfinish
    cases hactive
    cases hfinish
    simp [State.move_timerFree]

/-- A dispatch does not take a retired timer event. -/
lemma Retired.not_called {s s' : State} {label : Op × Ret} (own : Owned s)
    (step : Step s label s') {p : Ptr} (ret : Retired s p) : label.2.called? ≠ some p := by
  obtain ⟨op, r⟩ := label
  obtain ⟨acts, heffect, -⟩ := Step.effect own step
  intro hcalled
  cases heffect with
  | dispatch hqueue =>
    obtain rfl := Option.some.inj hcalled
    exact (ret.not_pending own).1 (by simp [hqueue])
  | _ => cases hcalled

/-! ## Cancelling by pointer -/

/-- Cancelling a timer event that waits or is queued gives its storage back and changes nothing
else. -/
lemma cancel_givenBack {s : State} (own : Owned s) {p : Ptr} (hclass : s.classOf p = .timer)
    (hp : p ∈ s.eventQueueActive ∨ p ∈ s.systemTimerList) :
    ∃ s', eventOSCancel (some p) s = .ok s' ∧ GivenBack s p s' := by
  rcases hp with hqueue | hlist
  · have halloc : (s.event p).allocator = .timer := by
      simpa [hclass] using own.allocator .queue (by decide) p hqueue
    exact ⟨_, eventOSCancel_queuedTimer halloc (own.tag .queue p hqueue) hqueue,
      givenBack_of_move own (Or.inl rfl) hqueue _⟩
  · have halloc : (s.event p).allocator = .timer := by
      simpa [hclass] using own.allocator .timerList (by decide) p hlist
    exact ⟨_, eventOSCancel_waitingTimer halloc (own.tag .timerList p hlist) hlist,
      givenBack_of_move own (Or.inr rfl) hlist _⟩

/-- Cancelling a timer event that runs clears its period and changes nothing else. -/
lemma cancel_running {s : State} (own : Owned s) {p : Ptr} (hclass : s.classOf p = .timer)
    (hp : p ∈ s.running) : eventOSCancel (some p) s = .ok (s.setPeriod p 0) := by
  have hmem : p ∈ s.at_ .running := by simp [State.at_, hp, hclass]
  have halloc : (s.event p).allocator = .timer := by
    simpa [hclass] using own.allocator .running (by decide) p hmem
  rw [eventOSCancel_running (own.tag .running p hmem), if_pos halloc]

/-- Cancelling a live timer event, one-shot or periodic. One that waits or is queued is given back
at once, one that runs loses its period, and nothing else changes. In every run after that, up to
the request that its storage is handed out for again, no dispatch takes the event; its storage is
on the free list of the timers exactly once, and on no other list, or its handler still runs; when
that handler returns the storage is freed, and it is not handed out before. -/
theorem cancel_timer_complete {s : State} (reachable : Reachable s) {p : Ptr}
    (hclass : s.classOf p = .timer) (hpending : Pending s p) :
    ∃ s', Step s (.cancel (some p), .void) s' ∧
      (p ∉ s.running ∧ GivenBack s p s' ∨ p ∈ s.running ∧ s' = s.setPeriod p 0) ∧
      ∀ l t, Run (fun u label u' => Step u label u' ∧ ¬ HandsOut p label u') s' l t →
        (∀ label ∈ l, label.2.called? ≠ some p) ∧
        t.systemTimerFree.count p = (if p ∈ t.running then 0 else 1) ∧
        p ∉ t.eventQueueActive ∧ p ∉ t.systemTimerList ∧ p ∉ t.freeEventEntry ∧
        ∀ label t', Step t label t' →
          (p ∈ t.running → p ∈ t'.running ∨
            label.1 = .handlerReturn ∧ t.running.head? = some p ∧ p ∈ t'.systemTimerFree) ∧
          (HandsOut p label t' → p ∈ t.systemTimerFree) := by
  have own := reachable.owned
  have hvalid : ValidEvent s p := hpending.validEvent hclass
  obtain ⟨s', hcancel, hacts⟩ := eventOSCancel_valid own hvalid
  have step : Step s (.cancel (some p), .void) s' := by
    refine ⟨fun q hq => Option.some.inj hq ▸ hvalid, ?_⟩
    simp only [exec, hcancel, ok_bind]
  refine ⟨s', step, ?_, fun l t run => ?_⟩
  · by_cases hrun : p ∈ s.running
    · rw [cancel_running own hclass hrun] at hcancel
      exact Or.inr ⟨hrun, (Except.ok.inj hcancel).symm⟩
    · have hplace : p ∈ s.eventQueueActive ∨ p ∈ s.systemTimerList :=
        hpending.imp_right fun h => h.resolve_right hrun
      obtain ⟨u, hok, hgiven⟩ := cancel_givenBack own hclass hplace
      obtain rfl := Except.ok.inj (hok.symm.trans hcancel)
      exact Or.inl ⟨hrun, hgiven⟩
  · have hinit : Retired s' p := retired_of_cancel own hclass hpending hacts
    obtain ⟨own', ret, hcalled⟩ :
        Owned t ∧ Retired t p ∧ ∀ label ∈ l, label.2.called? ≠ some p := by
      induction run with
      | nil => exact ⟨own.step step, hinit, by simp⟩
      | snoc run last ih =>
        obtain ⟨own', ret, hcalled⟩ := ih
        refine ⟨own'.step last.1, (ret.step own' last.1).resolve_right fun h => last.2 h.2, ?_⟩
        intro label hlabel
        rcases List.mem_append.mp hlabel with hlabel | hlabel
        · exact hcalled label hlabel
        · obtain rfl := List.mem_singleton.mp hlabel
          exact ret.not_called own' last.1
    obtain ⟨hqueue, hlist, hfree⟩ := ret.not_pending own'
    refine ⟨hcalled, ret.count own', hqueue, hlist, hfree, fun label u next => ⟨fun hrun => ?_,
      fun hands => ?_⟩⟩
    · refine (Retired.running_step own' next hrun).imp_right fun h => ?_
      obtain ⟨hreturn, hhead⟩ := h
      obtain ⟨op, r⟩ := label
      obtain rfl : op = .handlerReturn := hreturn
      exact ⟨rfl, hhead, ret.handlerReturn own' next hhead⟩
    · -- what is handed out is pending, which a retired timer event is not
      rcases ret.step own' next with ret' | ⟨hmem, -⟩
      · obtain ⟨hqueue', hlist', -⟩ := ret'.not_pending (own'.step next)
        exact (hands.2.elim hqueue' hlist').elim
      · exact hmem

end

/-- In the sample program the periodic event is cancelled while its handler runs: it is not freed
before that handler has returned. -/
theorem cancel_timer_complete_running : ∃ s s', Reachable s ∧
    s.running = [.startupSysTimerPool 5] ∧
    Step s (.cancel (some (.startupSysTimerPool 5)), .void) s' ∧
    s'.running = [.startupSysTimerPool 5] ∧
    s'.systemTimerFree.count (.startupSysTimerPool 5) = 0 := by
  have hsome : (drive (fun _ _ => True) sampleOps (eventOSSchedulerInit (.boot 0))).map
      (fun s => (s.running, s.classOf (.startupSysTimerPool 5)))
      = some ([.startupSysTimerPool 5], .timer) := by decide +kernel
  obtain ⟨s, hs, hvalues⟩ := Option.map_eq_some_iff.mp hsome
  obtain ⟨hrunning, hclass⟩ := Prod.mk.inj hvalues
  have hpending : Pending s (.startupSysTimerPool 5) := Or.inr (Or.inr (by simp [hrunning]))
  obtain ⟨s', step, hcancelled, hruns⟩ :=
    cancel_timer_complete (reachable_of_drive hs) hclass hpending
  obtain ⟨-, rfl⟩ := hcancelled.resolve_left fun h => h.1 (by simp [hrunning])
  obtain ⟨-, hcount, -⟩ := hruns [] _ .nil
  refine ⟨s, _, reachable_of_drive hs, hrunning, step, hrunning, ?_⟩
  rw [hcount, if_pos (by show _ ∈ s.running; simp [hrunning])]

/-! ## Cancelling by key -/

/-- An event with the receiver and the id that are asked for. -/
def HasKey (s : State) (eventId taskletId : BitVec 8) (p : Ptr) : Prop :=
  (s.event p).data.receiver = taskletId ∧ (s.event p).data.eventId = eventId

instance (s : State) (eventId taskletId : BitVec 8) (p : Ptr) :
    Decidable (HasKey s eventId taskletId p) :=
  inferInstanceAs (Decidable (_ ∧ _))

/-- A timer event with the key. -/
def TimedKey (s : State) (eventId taskletId : BitVec 8) (p : Ptr) : Prop :=
  (s.event p).allocator = .timer ∧ HasKey s eventId taskletId p

/-- What `eventOS_event_timer_cancel` should do: it fails if no timer event with the key waits or is
queued, and then leaves everything as it was; otherwise it succeeds, and gives back one of them,
which waits if any of them does. -/
structure TimerCancelSpec (s : State) (eventId taskletId : BitVec 8) (s' : State) (c : ℤ) :
    Prop where
  found : c = 0 ↔
    ∃ p, (p ∈ s.systemTimerList ∨ p ∈ s.eventQueueActive) ∧ TimedKey s eventId taskletId p
  removed : c = 0 → ∃ p, TimedKey s eventId taskletId p ∧ GivenBack s p s' ∧
    (p ∈ s.systemTimerList ∨ p ∈ s.eventQueueActive ∧
      ∀ q ∈ s.systemTimerList, ¬ TimedKey s eventId taskletId q)
  untouched : c ≠ 0 → c = -1 ∧ s' = s

/-- No timer with the key waits, and an event with the key that is no timer event stands in the
queue in front of every timer event with it. -/
def Shadowed (s : State) (eventId taskletId : BitVec 8) : Prop :=
  (∀ p ∈ s.systemTimerList, ¬ HasKey s eventId taskletId p) ∧
    ∃ front q behind, s.eventQueueActive = front ++ q :: behind ∧
      (∀ r ∈ front, ¬ HasKey s eventId taskletId r) ∧ HasKey s eventId taskletId q ∧
      (s.event q).allocator ≠ .timer ∧ ∃ p ∈ behind, TimedKey s eventId taskletId p

/-- For an id of 0..127 the search in the queue is for the key. -/
lemma findById_eq {taskletId : BitVec 8} (hid : taskletId.toNat ≤ int8Max) (eventId : BitVec 8)
    (s : State) : eventOSEventFindByIdCritical taskletId eventId s
      = s.eventQueueActive.find? (fun p => decide (HasKey s eventId taskletId p)) := by
  unfold eventOSEventFindByIdCritical
  congr 1
  funext p
  exact decide_eq_decide.mpr (by simp only [HasKey, toInt_eq_toNat_iff, hid, and_true])

/-- An event that is found stands behind events without the key only. -/
lemma findById_eq_some {taskletId : BitVec 8} (hid : taskletId.toNat ≤ int8Max)
    {eventId : BitVec 8} {s : State} {q : Ptr} :
    eventOSEventFindByIdCritical taskletId eventId s = some q ↔
      HasKey s eventId taskletId q ∧ ∃ front behind, s.eventQueueActive = front ++ q :: behind ∧
        ∀ r ∈ front, ¬ HasKey s eventId taskletId r := by
  rw [findById_eq hid, List.find?_eq_some_iff_append]
  simp

lemma shadowed_iff {s : State} {eventId taskletId : BitVec 8} (hid : taskletId.toNat ≤ int8Max)
    (hlist : ∀ p ∈ s.systemTimerList, ¬ HasKey s eventId taskletId p) {q : Ptr}
    (hq : eventOSEventFindByIdCritical taskletId eventId s = some q)
    (halloc : (s.event q).allocator ≠ .timer) :
    Shadowed s eventId taskletId ↔ ∃ p ∈ s.eventQueueActive, TimedKey s eventId taskletId p := by
  obtain ⟨hkey, front, behind, hqueue, hfront⟩ := (findById_eq_some hid).mp hq
  constructor
  · rintro ⟨-, front', q', behind', hqueue', -, -, -, p, hp, htimed⟩
    exact ⟨p, by simp [hqueue', hp], htimed⟩
  · rintro ⟨p, hp, htimed⟩
    refine ⟨hlist, front, q, behind, hqueue, hfront, hkey, halloc, p, ?_, htimed⟩
    rw [hqueue] at hp
    rcases List.mem_append.mp hp with hp | hp
    · exact absurd htimed.2 (hfront p hp)
    · rcases List.mem_cons.mp hp with rfl | hp
      · exact absurd htimed.1 halloc
      · exact hp

lemma not_shadowed {s : State} {eventId taskletId : BitVec 8} (hid : taskletId.toNat ≤ int8Max)
    {p : Ptr} (hp : timerCancelTarget s eventId taskletId = some p) :
    ¬ Shadowed s eventId taskletId := by
  rintro ⟨hlist, front, q, behind, hqueue, hfront, hkey, halloc, -⟩
  have hfind := (findById_eq_some hid).mpr ⟨hkey, front, behind, hqueue, hfront⟩
  unfold timerCancelTarget at hp
  split at hp
  · next cur hcur =>
    have hcurKey : HasKey s eventId taskletId cur := by simpa [HasKey] using List.find?_some hcur
    exact hlist cur (List.mem_of_find?_eq_some hcur) hcurKey
  · rw [hfind] at hp
    simp [Option.filter, halloc] at hp

/-- What is found is a timer event with the key, and one that waits if there is any. -/
lemma timerCancelTarget_spec {s : State} (own : Owned s) {eventId taskletId : BitVec 8}
    (hid : taskletId.toNat ≤ int8Max) {p : Ptr}
    (hp : timerCancelTarget s eventId taskletId = some p) :
    s.classOf p = .timer ∧ TimedKey s eventId taskletId p ∧ (p ∈ s.systemTimerList ∨
      p ∈ s.eventQueueActive ∧ ∀ q ∈ s.systemTimerList, ¬ TimedKey s eventId taskletId q) := by
  unfold timerCancelTarget at hp
  split at hp
  · next cur hcur =>
    obtain rfl := Option.some.inj hp
    have hmem := List.mem_of_find?_eq_some hcur
    have hclass : s.classOf cur = .timer := own.admits .timerList cur hmem
    have halloc : (s.event cur).allocator = .timer := by
      simpa [hclass] using own.allocator .timerList (by decide) cur hmem
    have hkey : HasKey s eventId taskletId cur := by simpa [HasKey] using List.find?_some hcur
    exact ⟨hclass, ⟨halloc, hkey⟩, Or.inl hmem⟩
  · next hnone =>
    obtain ⟨hfind, halloc⟩ := Option.filter_eq_some_iff.mp hp
    have halloc : (s.event p).allocator = .timer := by simpa using halloc
    obtain ⟨hkey, front, behind, hqueue, -⟩ := (findById_eq_some hid).mp hfind
    have hmem : p ∈ s.eventQueueActive := by simp [hqueue]
    have hclass : s.classOf p = .timer := by
      have hsame := own.allocator .queue (by decide) p hmem
      cases hc : s.classOf p with
      | timer => rfl
      | pool | dynamic | foreign =>
        rw [halloc, hc] at hsame
        cases hsame
    refine ⟨hclass, ⟨halloc, hkey⟩, Or.inr ⟨hmem, fun q hq htimed => ?_⟩⟩
    have hnot := List.find?_eq_none.mp hnone q hq
    exact hnot (decide_eq_true htimed.2)

/-- Nothing is found if no timer with the key waits, and the first event with it in the queue is no
timer event. -/
lemma timerCancelTarget_none {s : State} {eventId taskletId : BitVec 8}
    (hp : timerCancelTarget s eventId taskletId = none) :
    (∀ p ∈ s.systemTimerList, ¬ HasKey s eventId taskletId p) ∧
      ∀ q, eventOSEventFindByIdCritical taskletId eventId s = some q →
        (s.event q).allocator ≠ .timer := by
  unfold timerCancelTarget at hp
  split at hp
  · cases hp
  · next hnone =>
    refine ⟨fun p hpl hkey => List.find?_eq_none.mp hnone p hpl (decide_eq_true hkey), ?_⟩
    intro q hq halloc
    simp [hq, Option.filter, halloc] at hp

section

variable [NsList]

/-- For every id of 0..127, `eventOS_event_timer_cancel` does what it should exactly if no event
that is not a timer's stands in front of the timer events with the key. -/
theorem timerCancel_spec_iff {s : State} (reachable : Reachable s) (eventId : BitVec 8)
    {taskletId : BitVec 8} (hid : taskletId.toNat ≤ int8Max) :
    ∃ s' c, eventOSEventTimerCancel eventId taskletId s = .ok (s', c) ∧
      (TimerCancelSpec s eventId taskletId s' c ↔ ¬ Shadowed s eventId taskletId) := by
  have own := reachable.owned
  cases htarget : timerCancelTarget s eventId taskletId with
  | some p =>
    obtain ⟨hclass, htimed, hplace⟩ := timerCancelTarget_spec own hid htarget
    have hmem : p ∈ s.eventQueueActive ∨ p ∈ s.systemTimerList :=
      hplace.elim Or.inr fun h => Or.inl h.1
    obtain ⟨s', hcancel, hgiven⟩ := cancel_givenBack own hclass hmem
    refine ⟨s', 0, ?_, iff_of_true ⟨?_, fun _ => ⟨p, htimed, hgiven, hplace⟩, by simp⟩
      (not_shadowed hid htarget)⟩
    · simp only [eventOSEventTimerCancel_eq, htarget, hcancel, ok_bind]
    · exact iff_of_true rfl ⟨p, hmem.symm, htimed⟩
  | none =>
    refine ⟨s, -1, by simp only [eventOSEventTimerCancel_eq, htarget], ?_⟩
    -- the call fails: it should if no timer event has the key
    have hspec : TimerCancelSpec s eventId taskletId s (-1) ↔
        ∀ p, (p ∈ s.systemTimerList ∨ p ∈ s.eventQueueActive) →
          ¬ TimedKey s eventId taskletId p := by
      constructor
      · intro spec p hp htimed
        have hzero := spec.found.mpr ⟨p, hp, htimed⟩
        omega
      · intro hnone
        refine ⟨iff_of_false (by omega) ?_, by omega, fun _ => ⟨rfl, rfl⟩⟩
        rintro ⟨p, hp, htimed⟩
        exact hnone p hp htimed
    obtain ⟨hlist, hfirst⟩ := timerCancelTarget_none htarget
    rw [hspec]
    cases hfind : eventOSEventFindByIdCritical taskletId eventId s with
    | none =>
      have hqueue : ∀ p ∈ s.eventQueueActive, ¬ HasKey s eventId taskletId p := by
        intro p hp hkey
        rw [findById_eq hid] at hfind
        exact List.find?_eq_none.mp hfind p hp (decide_eq_true hkey)
      refine iff_of_true (fun p hp htimed => hp.elim (hlist p · htimed.2) (hqueue p · htimed.2)) ?_
      rintro ⟨-, front, q, behind, heq, -, hkey, -⟩
      exact hqueue q (by simp [heq]) hkey
    | some q =>
      rw [shadowed_iff hid hlist hfind (hfirst q hfind)]
      constructor
      · rintro hnone ⟨p, hp, htimed⟩
        exact hnone p (Or.inr hp) htimed
      · intro hnone p hp htimed
        exact hp.elim (hlist p · htimed.2) fun hqueue => hnone ⟨p, hqueue, htimed⟩

end

/-- In the sample program an event stands in front of the event of a timer with the same key: the
timer's event is not found. -/
theorem timerCancel_shadowed : ∃ s s' c, Reachable s ∧
    eventOSEventTimerCancel 3 0 s = .ok (s', c) ∧ ¬ TimerCancelSpec s 3 0 s' c := by
  have hsome : (drive (fun _ _ => True) (sampleOps.take 6) (eventOSSchedulerInit (.boot 0))).map
      (fun s => (s.eventQueueActive, s.systemTimerList, s.eventQueueActive.map fun p =>
        (decide (HasKey s 3 0 p), (s.event p).allocator)))
      = some ([.startupEventPool 9, .startupSysTimerPool 5], [],
          [(true, .startupPool), (true, .timer)]) := by decide +kernel
  obtain ⟨s, hs, hvalues⟩ := Option.map_eq_some_iff.mp hsome
  simp only [Prod.mk.injEq] at hvalues
  obtain ⟨hqueue, hlist, hkeys⟩ := hvalues
  simp only [hqueue, List.map_cons, List.map_nil, List.cons.injEq, Prod.mk.injEq,
    decide_eq_true_eq, and_true] at hkeys
  obtain ⟨⟨hkey, halloc⟩, hkey', halloc'⟩ := hkeys
  have hshadowed : Shadowed s 3 0 := by
    refine ⟨by simp [hlist], [], .startupEventPool 9, [.startupSysTimerPool 5], hqueue, by simp,
      hkey, by simp [halloc], .startupSysTimerPool 5, by simp, halloc', hkey'⟩
  obtain ⟨s', c, hcancel, hiff⟩ :=
    timerCancel_spec_iff (reachable_of_drive hs) 3 (show (0 : BitVec 8).toNat ≤ int8Max by decide)
  exact ⟨s, s', c, reachable_of_drive hs, hcancel, fun spec => hiff.mp spec hshadowed⟩

/-- While the timer of the sample program waits, it is found behind the event with its key. -/
theorem timerCancel_spec_iff_waiting : ∃ s s', Reachable s ∧
    eventOSEventTimerCancel 3 0 s = .ok (s', 0) ∧ TimerCancelSpec s 3 0 s' 0 := by
  have hsome : (drive (fun _ _ => True) (sampleOps.take 5) (eventOSSchedulerInit (.boot 0))).map
      (fun s => (s.systemTimerList, decide (HasKey s 3 0 (.startupSysTimerPool 5)),
        (s.event (.startupSysTimerPool 5)).allocator))
      = some ([.startupSysTimerPool 5], true, .timer) := by decide +kernel
  obtain ⟨s, hs, hvalues⟩ := Option.map_eq_some_iff.mp hsome
  simp only [Prod.mk.injEq, decide_eq_true_eq] at hvalues
  obtain ⟨hlist, hkey, halloc⟩ := hvalues
  obtain ⟨s', c, hcancel, hiff⟩ :=
    timerCancel_spec_iff (reachable_of_drive hs) 3 (show (0 : BitVec 8).toNat ≤ int8Max by decide)
  have spec := hiff.mpr fun h => h.1 (.startupSysTimerPool 5) (by simp [hlist]) hkey
  obtain rfl : c = 0 :=
    spec.found.mpr ⟨.startupSysTimerPool 5, Or.inl (by simp [hlist]), halloc, hkey⟩
  exact ⟨s, s', reachable_of_drive hs, hcancel, spec⟩

end EventLoop
