import EventLoop.Receivers
import EventLoop.StorageTheorems

/-!
# How much memory the event loop takes from the heap

Ten events and six timers are there from the start, and each is free or in use. An event is
allocated when all ten are in use, and freed when its handler returns; a timer is allocated when
all timers are in use, and stays a timer. So the heap holds what was in use at one time, but for
the sixteen.
-/

namespace EventLoop

open Lib

/-- The events of `eventOS_event_send` that are queued or running. -/
def State.eventsInUse (s : State) : List Ptr :=
  (s.eventQueueActive ++ s.running).filter fun p => s.classOf p = .pool ∨ s.classOf p = .dynamic

/-- The timers that wait, are queued or running. -/
def State.timersInUse (s : State) : List Ptr :=
  (s.systemTimerList ++ s.eventQueueActive ++ s.running).filter fun p => s.classOf p = .timer

/-- The events that are allocated. -/
def State.allocatedEvents (s : State) : Set Ptr := {p | s.classOf p = .dynamic}

/-- The timers there are, in the startup pool or allocated. -/
def State.timers (s : State) : Set Ptr := {p | s.classOf p = .timer}

namespace Owned

variable {s : State}

/-- Each timer is free or in use. -/
lemma timers_ncard (own : Owned s) :
    s.timers.Finite ∧ s.timers.ncard = s.systemTimerFree.length + s.timersInUse.length := by
  have hlist := ncard_eq_length_of_count (S := s.timers) (l := s.systemTimerFree ++ s.timersInUse)
    (fun p hclass => ?_) fun p hp => ?_
  · rwa [List.length_append] at hlist
  · have hclass' : s.classOf p = .timer := hclass
    have hcount := (own.timer_count hclass').1
    rw [List.count_append, State.timersInUse, List.count_filter (by simpa using hclass'),
      List.count_append, List.count_append]
    omega
  · rcases List.mem_append.mp hp with hp | hp
    · exact own.admits .timerFree p hp
    · have hclass := (List.mem_filter.mp hp).2
      simp only [decide_eq_true_eq] at hclass
      exact hclass

/-- Each event of the startup pool is free or in use, and each allocated one is in use. -/
lemma events_ncard (own : Owned s) :
    s.allocatedEvents.Finite ∧ s.allocatedEvents.ncard + startupEventPoolSize
      = s.freeEventEntry.length + s.eventsInUse.length := by
  have hpool := ncard_eq_length_of_count (S := {p | s.classOf p = .pool})
    (l := (List.finRange startupEventPoolSize).map Ptr.startupEventPool) (fun p hclass => ?_)
    fun p hp => ?_
  · have hlist := ncard_eq_length_of_count (S := s.allocatedEvents ∪ {p | s.classOf p = .pool})
      (l := s.freeEventEntry ++ s.eventsInUse) (fun p hp => ?_) fun p hp => ?_
    · have hfinite := hlist.1.subset Set.subset_union_left
      have hdisjoint : Disjoint s.allocatedEvents {p | s.classOf p = .pool} := by
        refine Set.disjoint_left.mpr fun p hdynamic hclass => ?_
        exact absurd (hdynamic.symm.trans hclass) (by decide)
      rw [Set.ncard_union_eq hdisjoint hfinite hpool.1, hpool.2, List.length_append] at hlist
      refine ⟨hfinite, ?_⟩
      simpa using hlist.2
    · have hcount : s.freeEventEntry.count p + (s.eventQueueActive.count p + s.running.count p)
          = 1 := by
        rcases hp with hclass | hclass
        · have hcount := own.dynamic_count hclass
          rw [List.count_eq_zero.mpr hcount.2.1, hcount.1]
        · have hcount := (own.pool_count hclass).1
          omega
      have hclass : s.classOf p = .pool ∨ s.classOf p = .dynamic := hp.symm
      rw [List.count_append, State.eventsInUse, List.count_filter (by simpa using hclass),
        List.count_append]
      exact hcount
    · rcases List.mem_append.mp hp with hp | hp
      · exact Or.inr (own.admits .free p hp)
      · have hclass := (List.mem_filter.mp hp).2
        simp only [decide_eq_true_eq] at hclass
        exact hclass.symm
  · have hpool := classOf_pool_iff.mp hclass
    cases p with
    | startupEventPool i =>
      refine List.count_eq_one_of_mem ((List.nodup_finRange _).map fun i j h => ?_)
        (List.mem_map_of_mem (List.mem_finRange i))
      simpa using h
    | startupSysTimerPool i => cases hpool
    | heap a => cases hpool
  · obtain ⟨i, -, rfl⟩ := List.mem_map.mp hp
    rfl

end Owned

/-! ## What is allocated -/

/-- An event is allocated at `p`. -/
def Act.AllocatesEvent (p : Ptr) : Act → Prop
  | .relocate q .outside .queue v => q = p ∧ v.event.allocator = .dynamic
  | _ => False

/-- A timer is allocated at `p`. -/
def Act.AllocatesTimer (p : Ptr) : Act → Prop
  | .relocate q .outside .timerFree _ => q = p
  | _ => False

/-- Only an allocation makes a storage an event or a timer. -/
lemma Move.allocates {s s' : State} {act : Act} (move : Move s act s') (q : Ptr) :
    (s'.classOf q = .dynamic → s.classOf q = .dynamic ∨ act.AllocatesEvent q) ∧
      (s'.classOf q = .timer → s.classOf q = .timer ∨ act.AllocatesTimer q) := by
  by_cases hrelocate : ∃ p A B v, act = .relocate p A B v
  · obtain ⟨p, A, B, v, rfl⟩ := hrelocate
    cases move with
    | @relocate _ _ _ _ h row =>
      by_cases hq : q = p
      · subst hq
        cases row with
        | sendDynamic data fresh =>
          obtain ⟨a, rfl⟩ := fresh.isHeap
          exact ⟨fun _ => Or.inr ⟨rfl, rfl⟩, fun h => by simp [State.classOf] at h⟩
        | grow v fresh hstate =>
          obtain ⟨a, rfl⟩ := fresh.isHeap
          exact ⟨fun h => by simp [State.classOf] at h, fun _ => Or.inr rfl⟩
        | sendUser v isHeap =>
          obtain ⟨a, rfl⟩ := isHeap
          exact ⟨fun h => by simp [State.classOf] at h, fun h => by simp [State.classOf] at h⟩
        | finishDynamic hp hclass | cancelDynamic hp hclass =>
          refine ⟨fun _ => Or.inl hclass, fun h => ?_⟩
          cases q with
          | heap a => simp [State.classOf] at h
          | startupEventPool i => cases hclass
          | startupSysTimerPool i => cases hclass
        | _ =>
          rw [State.move_classOf_same]
          exact ⟨Or.inl, Or.inl⟩
      · rw [s.move_classOf_of_ne hq]
        exact ⟨Or.inl, Or.inl⟩
  · have still := move.still fun p A B v hact => hrelocate ⟨p, A, B, v, hact⟩
    rw [still.classOf]
    exact ⟨Or.inl, Or.inl⟩

lemma allocates_of_run {s s' : State} {acts : List Act} (run : Run Move s acts s') (q : Ptr) :
    (s'.classOf q = .dynamic → s.classOf q = .dynamic ∨ ∃ act ∈ acts, act.AllocatesEvent q) ∧
      (s'.classOf q = .timer → s.classOf q = .timer ∨ ∃ act ∈ acts, act.AllocatesTimer q) := by
  induction run with
  | nil => exact ⟨Or.inl, Or.inl⟩
  | @snoc acts t u act run move ih =>
    obtain ⟨hevent, htimer⟩ := move.allocates q
    simp only [List.mem_append, List.mem_singleton]
    constructor
    · intro h
      rcases hevent h with h | h
      · rcases ih.1 h with h | ⟨act', hact, h⟩
        · exact Or.inl h
        · exact Or.inr ⟨act', Or.inl hact, h⟩
      · exact Or.inr ⟨act, Or.inr rfl, h⟩
    · intro h
      rcases htimer h with h | h
      · rcases ih.2 h with h | ⟨act', hact, h⟩
        · exact Or.inl h
        · exact Or.inr ⟨act', Or.inl hact, h⟩
      · exact Or.inr ⟨act, Or.inr rfl, h⟩

/-- An operation that may fill an event. -/
def Op.Sends : Op → Prop
  | .send _ _ | .handlerCreate _ _ _ _ => True
  | _ => False

/-- An operation that may fill a timer. -/
def Op.Requests : Op → Prop
  | .requestAt _ _ _ | .requestIn _ _ _ | .requestEvery _ _ _ | .request _ _ _ _ _ => True
  | _ => False

/-- What comes from the free list is not allocated. -/
lemma eventSource_allocates {s : State} {answer : Option Ptr} {p : Ptr} {A : Place}
    {allocator : Allocator} (hsource : eventSource s answer = some (p, A, allocator)) :
    A = .free ∨ s.freeEventEntry = [] := by
  unfold eventSource at hsource
  split at hsource
  · simp only [Option.some.injEq, Prod.mk.injEq] at hsource
    exact Or.inl hsource.2.1.symm
  · next hfree => exact Or.inr hfree

/-- An operation allocates an event when it sends one and none is free, and only one. -/
lemma Effect.allocatesEvent {s : State} {op : Op} {r : Ret} {acts : List Act}
    (h : Effect s op r acts) :
    (∀ q, ∀ act ∈ acts, ¬ act.AllocatesEvent q) ∨
      op.Sends ∧ s.freeEventEntry = [] ∧
        ∃ p, ∀ q, ∀ act ∈ acts, act.AllocatesEvent q → q = p := by
  have hfill : ∀ {p A v answer allocator}, eventSource s answer = some (p, A, allocator) →
      (∀ q, ¬ (Act.relocate p A .queue v).AllocatesEvent q) ∨ s.freeEventEntry = [] := by
    intro p A v answer allocator hsource
    rcases eventSource_allocates hsource with rfl | hfree
    · exact Or.inl fun q => id
    · exact Or.inr hfree
  have honly : ∀ {p A B v q}, (Act.relocate p A B v).AllocatesEvent q → q = p := by
    intro p A B v q hact
    cases A <;> cases B <;> first | exact hact.1.symm | exact hact.elim
  have hrequest : ∀ {event at_ period answer r acts},
      Requested s event at_ period answer r acts → ∀ q, ∀ act ∈ acts, ¬ act.AllocatesEvent q :=
    fun h q => h.forall_acts (fun _ _ => id) fun _ _ B hB => by
      rcases hB with rfl | rfl <;> exact id
  have hexpire : ∀ t : State, ∀ q, ∀ act ∈ expireActs t, ¬ act.AllocatesEvent q :=
    fun t q => expireActs_forall fun _ _ => id
  have hcancel : ∀ p q, ∀ act ∈ cancelActs s p, ¬ act.AllocatesEvent q := by
    refine fun p q => cancelActs_forall (fun A B v hA _ => ?_) id
    rcases hA with rfl | rfl <;> exact id
  cases h with
  | send hreceiver hsource =>
    rcases hfill hsource with hno | hfree
    · exact Or.inl fun q act hact => List.mem_singleton.mp hact ▸ hno q
    · exact Or.inr ⟨trivial, hfree, _, fun q act hact h =>
        honly (List.mem_singleton.mp hact ▸ h)⟩
  | @handlerCreate _ _ _ _ p _ _ hfun hsource =>
    rcases hfill hsource with hno | hfree
    · refine Or.inl fun q => ?_
      simp only [List.forall_mem_cons, List.not_mem_nil, false_imp_iff, implies_true, and_true]
      exact ⟨id, hno q⟩
    · refine Or.inr ⟨trivial, hfree, p, fun q => ?_⟩
      simp only [List.forall_mem_cons, List.not_mem_nil, false_imp_iff, implies_true, and_true]
      exact ⟨False.elim, honly⟩
  | requestAt h | requestIn h | requestEvery _ h | request h => exact Or.inl (hrequest h)
  | timerCancel | cancel => exact Or.inl (hcancel _)
  | tickUpdate | synchAfterSleep =>
    exact Or.inl fun q => List.forall_mem_cons.mpr ⟨id, hexpire _ q⟩
  | @handlerReturn p =>
    obtain ⟨B, v, hfinish⟩ := finishAct_relocates s p
    refine Or.inl fun q => ?_
    simp [hfinish, Act.AllocatesEvent]
  | _ => exact Or.inl fun q => by simp [Act.AllocatesEvent, sent]

/-- An operation allocates a timer when it requests one and none is free, and only one. -/
lemma Effect.allocatesTimer {s : State} {op : Op} {r : Ret} {acts : List Act}
    (h : Effect s op r acts) (hop : ∀ p contents, op ≠ .sendTimerAllocated p contents) :
    (∀ q, ∀ act ∈ acts, ¬ act.AllocatesTimer q) ∨
      op.Requests ∧ s.systemTimerFree = [] ∧
        ∃ p, ∀ q, ∀ act ∈ acts, act.AllocatesTimer q → q = p := by
  have hrequest : ∀ {event at_ period answer r acts},
      Requested s event at_ period answer r acts →
        (∀ q, ∀ act ∈ acts, ¬ act.AllocatesTimer q) ∨
          s.systemTimerFree = [] ∧ ∃ p, ∀ q, ∀ act ∈ acts, act.AllocatesTimer q → q = p := by
    intro event at_ period answer r acts h
    have hgrow : ∀ p v, ∀ q, ∀ act ∈ growActs s p v, act.AllocatesTimer q →
        s.systemTimerFree = [] ∧ q = p := by
      intro p v q act hact h
      unfold growActs at hact
      split at hact
      · cases hact
      · next hfree =>
        obtain rfl := List.mem_singleton.mp hact
        exact ⟨hfree, h.symm⟩
    by_cases hfree : s.systemTimerFree = []
    · refine Or.inr ⟨hfree, ?_⟩
      cases h with
      | unknown | full => exact ⟨.heap 0, by simp⟩
      | @fire p | @arm p =>
        refine ⟨p, fun q act hact h => ?_⟩
        rcases List.mem_append.mp hact with hact | hact
        · exact (hgrow p _ q act hact h).2
        · obtain rfl := List.mem_singleton.mp hact
          exact h.elim
    · refine Or.inl fun q act hact h' => hfree ?_
      cases h with
      | unknown | full => cases hact
      | fire | arm =>
        rcases List.mem_append.mp hact with hact | hact
        · exact (hgrow _ _ q act hact h').1
        · obtain rfl := List.mem_singleton.mp hact
          exact h'.elim
  have hexpire : ∀ t : State, ∀ q, ∀ act ∈ expireActs t, ¬ act.AllocatesTimer q :=
    fun t q => expireActs_forall fun _ _ => id
  have hcancel : ∀ p q, ∀ act ∈ cancelActs s p, ¬ act.AllocatesTimer q := by
    refine fun p q => cancelActs_forall (fun A B v hA _ => ?_) id
    rcases hA with rfl | rfl <;> exact id
  cases h with
  | requestAt h | requestIn h | requestEvery _ h | request h =>
    exact (hrequest h).imp_right fun hnew => ⟨trivial, hnew⟩
  | sendTimerAllocated p contents => exact absurd rfl (hop p contents)
  | timerCancel | cancel => exact Or.inl (hcancel _)
  | tickUpdate | synchAfterSleep =>
    exact Or.inl fun q => List.forall_mem_cons.mpr ⟨id, hexpire _ q⟩
  | @handlerReturn p =>
    obtain ⟨B, v, hfinish⟩ := finishAct_relocates s p
    refine Or.inl fun q => ?_
    simp [hfinish, Act.AllocatesTimer]
  | @send _ _ p A _ _ _ | @handlerCreate _ _ _ _ p A _ _ _ =>
    refine Or.inl fun q => ?_
    cases A <;> simp [Act.AllocatesTimer]
  | _ => exact Or.inl fun q => by simp [Act.AllocatesTimer]

/-! ## Runs -/

/-- Fewer than `events` events are in use when one is sent, and fewer than `timers` timers when one
is requested. -/
def Frugal (events timers : ℕ) (s : State) : Op → Prop
  | .send _ _ | .handlerCreate _ _ _ _ => s.eventsInUse.length < events
  | .requestAt _ _ _ | .requestIn _ _ _ | .requestEvery _ _ _ | .request _ _ _ _ _ =>
    s.timersInUse.length < timers
  | .sendTimerAllocated _ _ => False
  | _ => True

instance (events timers : ℕ) (s : State) (op : Op) : Decidable (Frugal events timers s op) :=
  match op with
  | .send _ _ | .handlerCreate _ _ _ _ => inferInstanceAs (Decidable (_ < events))
  | .requestAt _ _ _ | .requestIn _ _ _ | .requestEvery _ _ _ | .request _ _ _ _ _ =>
    inferInstanceAs (Decidable (_ < timers))
  | .sendTimerAllocated _ _ => isFalse id
  | .timerCancel _ _ | .cancel _ | .tickUpdate _ | .sendUserAllocated _ _ | .synchAfterSleep _ _
  | .setActiveTasklet _ | .dispatch | .handlerReturn | .handlerWrite _ | .clientAlloc _
  | .clientFree _ => isTrue trivial

/-- The heap holds what is in use beyond the startup pools. -/
structure Bounded (events timers : ℕ) (s : State) : Prop where
  events : s.allocatedEvents.ncard + startupEventPoolSize ≤ events
  timers : s.timers.ncard ≤ timers

section

variable {events timers : ℕ} {s s' : State}

lemma Bounded.step (h : Bounded events timers s) (own : Owned s) {op : Op} {r : Ret}
    {acts : List Act} (hop : Frugal events timers s op) (heffect : Effect s op r acts)
    (run : Run Move s acts s') : Bounded events timers s' := by
  obtain ⟨hfinite, hevents⟩ := own.events_ncard
  obtain ⟨hfinite', htimers⟩ := own.timers_ncard
  have hkeeps := allocates_of_run run
  constructor
  · rcases heffect.allocatesEvent with hno | ⟨hsends, hfree, p, honly⟩
    · have hsub : s'.allocatedEvents ⊆ s.allocatedEvents := fun q hq =>
        ((hkeeps q).1 hq).resolve_right fun ⟨act, hact, h⟩ => hno q act hact h
      exact (Nat.add_le_add_right (Set.ncard_le_ncard hsub hfinite) _).trans h.events
    · have hsub : s'.allocatedEvents ⊆ insert p s.allocatedEvents := fun q hq =>
        ((hkeeps q).1 hq).symm.imp (fun ⟨act, hact, h⟩ => honly q act hact h) id
      have hle := (Set.ncard_le_ncard hsub (hfinite.insert p)).trans (Set.ncard_insert_le _ _)
      have hlt : s.eventsInUse.length < events := by
        cases op <;> first | exact hop | exact hsends.elim
      rw [hfree, List.length_nil] at hevents
      omega
  · have hinternal : ∀ p contents, op ≠ .sendTimerAllocated p contents := by
      rintro p contents rfl
      exact hop
    rcases heffect.allocatesTimer hinternal with hno | ⟨hrequests, hfree, p, honly⟩
    · have hsub : s'.timers ⊆ s.timers := fun q hq =>
        ((hkeeps q).2 hq).resolve_right fun ⟨act, hact, h⟩ => hno q act hact h
      exact (Set.ncard_le_ncard hsub hfinite').trans h.timers
    · have hsub : s'.timers ⊆ insert p s.timers := fun q hq =>
        ((hkeeps q).2 hq).symm.imp (fun ⟨act, hact, h⟩ => honly q act hact h) id
      have hle := (Set.ncard_le_ncard hsub (hfinite'.insert p)).trans (Set.ncard_insert_le _ _)
      have hlt : s.timersInUse.length < timers := by
        cases op <;> first | exact hop | exact hrequests.elim
      rw [hfree, List.length_nil] at htimers
      omega

/-- Nothing is allocated by the initialisation. -/
lemma Initial.bounded [NsList] (init : Initial s) :
    Bounded startupEventPoolSize stMax s := by
  obtain ⟨-, hevents⟩ := init.owned.events_ncard
  obtain ⟨-, htimers⟩ := init.owned.timers_ncard
  obtain ⟨s₀, boot, rfl⟩ := init
  have hinit := boot.init_eq
  have heventsInUse : (eventOSSchedulerInit s₀).eventsInUse = [] := by
    rw [hinit]
    simp [State.eventsInUse, boot.running]
  have htimersInUse : (eventOSSchedulerInit s₀).timersInUse = [] := by
    rw [hinit]
    simp [State.timersInUse, boot.running, boot.systemTimerList]
  have hfree : (eventOSSchedulerInit s₀).freeEventEntry.length = startupEventPoolSize := by
    rw [hinit]
    simp
  have htimerFree : (eventOSSchedulerInit s₀).systemTimerFree.length = stMax := by
    rw [hinit]
    simp
  rw [heventsInUse, hfree, List.length_nil] at hevents
  rw [htimersInUse, htimerFree, List.length_nil] at htimers
  exact ⟨hevents.le, htimers.le⟩

/-- **The heap holds what is in use beyond the startup pools.** While fewer than `events` events are
in use whenever one is sent, and fewer than `timers` timers whenever one is requested, there are
never more than `events - 10` allocated events, nor more than `timers` timers with those of the
startup pool. -/
theorem memory_bounded [NsList] {s₀ : State} {l : List (Op × Ret)}
    (hevents : startupEventPoolSize ≤ events) (htimers : stMax ≤ timers) (init : Initial s₀)
    (run : RunOf (Frugal events timers) s₀ l s) :
    (s.allocatedEvents.Finite ∧ s.allocatedEvents.ncard ≤ events - startupEventPoolSize) ∧
      s.timers.Finite ∧ s.timers.ncard ≤ timers := by
  have hinit : Bounded events timers s₀ :=
    ⟨init.bounded.events.trans hevents, init.bounded.timers.trans htimers⟩
  obtain ⟨own, hbounded⟩ := RunOf.invariant (I := Bounded events timers)
    (fun s op r s' acts own h _ hop heffect hrun => h.step own hop heffect hrun)
    init.owned hinit run
  exact ⟨⟨own.events_ncard.1, Nat.le_sub_of_add_le hbounded.events⟩, own.timers_ncard.1,
    hbounded.timers⟩

end

/-- Seven timers are requested. -/
def sevenOps : List Op :=
  let event : ArmEvent :=
    { receiver := 0, sender := 0, eventType := 2, eventId := 3, dataPtr := none
      priority := .med, eventData := 4 }
  .handlerCreate 7 1 (some (.heap 0)) none ::
    (List.replicate 6 (.requestAt event 9 none) ++ [.requestAt event 9 (some (.heap 1))])

/-- The seventh of them is allocated. -/
theorem memory_bounded_seven : ∃ s l,
    RunOf (Frugal 10 7) (eventOSSchedulerInit (.boot 0)) l s ∧
    s.heap (.heap 1) = some .sysTimer ∧ s.timers.ncard ≤ 7 := by
  have hsome : (drive (Frugal 10 7) sevenOps (eventOSSchedulerInit (.boot 0))).map
      (·.heap (.heap 1)) = some (some .sysTimer) := by decide +kernel
  obtain ⟨s, hs, hheap⟩ := Option.map_eq_some_iff.mp hsome
  obtain ⟨l, run, -⟩ := drive_runOf hs
  exact ⟨s, l, run, hheap,
    (memory_bounded (by decide) (by decide) (boot_initial 0) run).2.2⟩

section

variable {events timers : ℕ} {s : State}

/-! ## Without a heap -/

/-- The receiver is a registered tasklet, and a period is positive. -/
def Reaches (s : State) : Op → Prop
  | .send event _ | .requestAt event _ _ | .requestIn event _ _ => Known s event.receiver
  | .requestEvery event period _ => 0 < period.toInt ∧ Known s event.receiver
  | .request _ _ taskletId _ _ => Known s taskletId
  | _ => True

/-- A send or a request that is not refused. -/
def Accepted : Op × Ret → Prop
  | (.send _ _, r) | (.request _ _ _ _ _, r) => r = .code 0
  | (.requestAt _ _ _, r) | (.requestIn _ _ _, r) | (.requestEvery _ _ _, r) =>
    ∃ p, r = .handle (some p)
  | _ => True

/-- When not all events are in use, one is free. -/
lemma Bounded.eventSource_isSome (h : Bounded startupEventPoolSize timers s) (own : Owned s)
    (hlt : s.eventsInUse.length < startupEventPoolSize) (answer : Option Ptr) :
    eventSource s answer ≠ none := by
  have hevents := own.events_ncard.2
  have hbound := h.events
  cases hfree : s.freeEventEntry with
  | nil =>
    rw [hfree, List.length_nil] at hevents
    omega
  | cons p rest => simp [eventSource, hfree]

/-- When not all timers are in use, one is free. -/
lemma timerSource_isSome (own : Owned s) (hlt : s.timersInUse.length < stMax)
    (hall : stMax ≤ s.timers.ncard) (answer : Option Ptr) : timerSource s answer ≠ none := by
  have htimers := own.timers_ncard.2
  cases hfree : s.systemTimerFree with
  | nil =>
    rw [hfree, List.length_nil] at htimers
    omega
  | cons p rest => simp [timerSource, hfree]

/-- A request to a registered tasklet is accepted when a timer is free. -/
lemma Requested.accepted {event : ArmEvent} {at_ period : BitVec 32} {answer r : Option Ptr}
    {acts : List Act} (h : Requested s event at_ period answer r acts)
    (known : Known s event.receiver) (hsource : timerSource s answer ≠ none) :
    ∃ p, r = some p := by
  cases h with
  | unknown hreceiver =>
    rw [Known, hreceiver] at known
    cases known
  | full hnone => exact absurd hnone hsource
  | fire | arm => exact ⟨_, rfl⟩

/-- The timers of the startup pool. -/
lemma timerPool_ncard :
    (Set.range Ptr.startupSysTimerPool).Finite ∧
      (Set.range Ptr.startupSysTimerPool).ncard = stMax := by
  have hlist := ncard_eq_length (S := Set.range Ptr.startupSysTimerPool)
    (l := (List.finRange stMax).map Ptr.startupSysTimerPool)
    ((List.nodup_finRange _).map fun i j h => by simpa using h) fun p => by simp
  simpa using hlist

lemma timerPool_subset (s : State) : Set.range Ptr.startupSysTimerPool ⊆ s.timers := by
  rintro p ⟨i, rfl⟩
  rfl

/-- A step that is not refused. -/
lemma Bounded.accepted (h : Bounded startupEventPoolSize stMax s) (own : Owned s) {op : Op}
    {r : Ret} {acts : List Act} (hop : Frugal startupEventPoolSize stMax s op)
    (reaches : Reaches s op) (heffect : Effect s op r acts) : Accepted (op, r) := by
  have hall : stMax ≤ s.timers.ncard :=
    timerPool_ncard.2.symm.le.trans (Set.ncard_le_ncard (timerPool_subset s) own.timers_ncard.1)
  cases heffect with
  | sendFail hfail =>
    rcases hfail with hreceiver | hsource
    · have hknown : Known s _ := reaches
      rw [Known, hreceiver] at hknown
      cases hknown
    · exact absurd hsource (h.eventSource_isSome own hop _)
  | send => rfl
  | requestAt hrequest | requestIn hrequest =>
    obtain ⟨p, rfl⟩ := hrequest.accepted reaches (timerSource_isSome own hop hall _)
    exact ⟨p, rfl⟩
  | requestEvery _ hrequest =>
    obtain ⟨p, rfl⟩ := hrequest.accepted reaches.2 (timerSource_isSome own hop hall _)
    exact ⟨p, rfl⟩
  | requestEveryFail hperiod => exact absurd reaches.1 (not_lt.mpr hperiod)
  | request hrequest =>
    obtain ⟨p, rfl⟩ := hrequest.accepted reaches (timerSource_isSome own hop hall _)
    rfl
  | _ => trivial

/-- **The event loop without a heap.** While fewer than ten events are in use whenever one is sent,
and fewer than six timers whenever one is requested, no event and no timer is ever allocated, and
every send and every request to a registered tasklet is accepted, whatever the allocator would
answer. -/
theorem heapless [NsList] {s₀ : State} {l : List (Op × Ret)} (init : Initial s₀)
    (run : RunOf (fun s op => Frugal startupEventPoolSize stMax s op ∧ Reaches s op) s₀ l s) :
    (∀ a, s.heap (.heap a) ≠ some .event ∧ s.heap (.heap a) ≠ some .sysTimer) ∧
      ∀ label ∈ l, Accepted label := by
  obtain ⟨own, hbounded, haccepted⟩ : Owned s ∧ Bounded startupEventPoolSize stMax s ∧
      ∀ label ∈ l, Accepted label := by
    unfold RunOf at run
    induction run with
    | nil => exact ⟨init.owned, init.bounded, by simp⟩
    | @snoc l t u label run last ih =>
      obtain ⟨own, hbounded, haccepted⟩ := ih
      obtain ⟨step, hop, reaches⟩ := last
      obtain ⟨acts, heffect, hrun⟩ := Step.effect own step
      refine ⟨own.run hrun, hbounded.step own hop heffect hrun, fun label' hlabel => ?_⟩
      rcases List.mem_append.mp hlabel with hlabel | hlabel
      · exact haccepted label' hlabel
      · obtain rfl := List.mem_singleton.mp hlabel
        exact hbounded.accepted own hop reaches heffect
  refine ⟨fun a => ⟨fun hevent => ?_, fun htimer => ?_⟩, haccepted⟩
  · have hmem : Ptr.heap a ∈ s.allocatedEvents := by
      simp [State.allocatedEvents, State.classOf, hevent]
    have hpos := (Set.ncard_pos own.events_ncard.1).mpr ⟨_, hmem⟩
    have hle := hbounded.events
    omega
  · have hpool : Set.range Ptr.startupSysTimerPool = s.timers :=
      Set.eq_of_subset_of_ncard_le (timerPool_subset s)
        (hbounded.timers.trans timerPool_ncard.2.ge) own.timers_ncard.1
    have hmem : Ptr.heap a ∈ s.timers := by
      simp [State.timers, State.classOf, htimer]
    rw [← hpool] at hmem
    obtain ⟨i, hi⟩ := hmem
    cases hi

end

instance (s : State) (id : BitVec 8) : Decidable (Known s id) :=
  inferInstanceAs (Decidable (_ = true))

instance (s : State) (op : Op) : Decidable (Reaches s op) :=
  match op with
  | .send _ _ | .requestAt _ _ _ | .requestIn _ _ _ | .request _ _ _ _ _ =>
    inferInstanceAs (Decidable (Known s _))
  | .requestEvery _ _ _ => inferInstanceAs (Decidable (_ ∧ Known s _))
  | .handlerCreate _ _ _ _ | .timerCancel _ _ | .cancel _ | .tickUpdate _
  | .sendUserAllocated _ _ | .sendTimerAllocated _ _ | .synchAfterSleep _ _
  | .setActiveTasklet _ | .dispatch | .handlerReturn | .handlerWrite _ | .clientAlloc _
  | .clientFree _ => isTrue trivial

/-- The sample program needs no heap. -/
theorem heapless_sample : ∃ s l,
    RunOf (fun s op => Frugal startupEventPoolSize stMax s op ∧ Reaches s op)
      (eventOSSchedulerInit (.boot 0)) l s ∧
    l.map Prod.fst = sampleOps ∧ ∀ label ∈ l, Accepted label := by
  have hsome : (drive (fun s op => Frugal startupEventPoolSize stMax s op ∧ Reaches s op) sampleOps
      (eventOSSchedulerInit (.boot 0))).isSome := by decide +kernel
  obtain ⟨s, hs⟩ := Option.isSome_iff_exists.mp hsome
  obtain ⟨l, run, hops⟩ := drive_runOf hs
  exact ⟨s, l, run, hops, (heapless (boot_initial 0) run).2⟩

end EventLoop
