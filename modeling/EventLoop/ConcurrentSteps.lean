import EventLoop.ConcurrentInvariant

/-!
# The steps of threads and interrupts

Each step of the main loop, of a call that sends an event, and each call that is one critical
section does to the settled state what moves of the life cycle do, and keeps it settled
(`Threads.Advances`). What it shows of the queue is what these moves do.
-/

namespace EventLoop

open Lib
open Lib.StableQueue (Action)

/-! ## What a critical section spares -/

/-- Moves that leave a storage alone, but for its period. -/
def Act.Spares (p : Ptr) : Act → Prop
  | .relocate q _ _ _ => q ≠ p
  | .clock _ | .unperiod _ => True
  | _ => False

/-- What such moves leave as it is. -/
structure Spared (p : Ptr) (s s' : State) : Prop where
  event : s'.event p = s.event p
  heap : s'.heap p = s.heap p
  queue : p ∈ s'.eventQueueActive → p ∈ s.eventQueueActive
  currTasklet : s'.currTasklet = s.currTasklet

lemma Move.spares {s s' : State} {act : Act} {p : Ptr} (move : Move s act s')
    (hact : act.Spares p) : Spared p s s' := by
  cases move with
  | @relocate q A B v h row =>
    have hne : p ≠ q := Ne.symm hact
    refine ⟨s.move_event_of_ne hne A B v h, by simp [hne], fun hmem => ?_, ?_⟩
    · exact (s.move_mem_at_of_ne A B v h hne .queue).mp hmem
    · cases A <;> cases B <;> rfl
  | clock => exact ⟨rfl, rfl, id, rfl⟩
  | unperiod => exact ⟨s.setPeriod_event _ p 0, rfl, id, rfl⟩
  | _ => exact hact.elim

lemma spares_of_run {s s' : State} {acts : List Act} {p : Ptr} (run : Run Move s acts s')
    (hacts : ∀ act ∈ acts, act.Spares p) : Spared p s s' := by
  refine run.invariant_on (I := fun t => Spared p s t) ⟨rfl, rfl, id, rfl⟩ hacts ?_
  intro t act u hspared hact move
  have hspared' := move.spares hact
  exact ⟨hspared'.event.trans hspared.event, hspared'.heap.trans hspared.heap,
    hspared.queue ∘ hspared'.queue, hspared'.currTasklet.trans hspared.currTasklet⟩

/-- A timer comes from the free list or from the allocator. -/
lemma timerSource_mem {s : State} {answer : Option Ptr} {p : Ptr}
    (h : timerSource s answer = some p) : p ∈ s.systemTimerFree ∨ p ∈ answer := by
  unfold timerSource at h
  split at h
  · next q rest hfree =>
    obtain rfl := Option.some.inj h
    exact Or.inl (by simp [hfree])
  · exact Or.inr h

/-- A call that is one critical section relocates what is on a list, or what the allocator
answers. -/
lemma Effect.spares {s : State} {op : Op} {r : Ret} {acts : List Act} (h : Effect s op r acts)
    (hop : op.Locked) {p : Ptr} (hqueue : p ∉ s.eventQueueActive) (hlist : p ∉ s.systemTimerList)
    (hfree : p ∉ s.systemTimerFree) (hanswer : p ∉ op.answer) : ∀ act ∈ acts, act.Spares p := by
  have hrequest : ∀ {event at_ period answer r acts}, p ∉ answer →
      Requested s event at_ period answer r acts → ∀ act ∈ acts, act.Spares p := by
    intro event at_ period answer r acts hanswer h
    have hsource : ∀ q, timerSource s answer = some q → q ≠ p := by
      rintro q hq rfl
      rcases timerSource_mem hq with hmem | hmem
      · exact hfree hmem
      · exact hanswer hmem
    have hgrow : ∀ q v, q ≠ p → ∀ act ∈ growActs s q v, act.Spares p := by
      intro q v hne act hact
      unfold growActs at hact
      split at hact
      · cases hact
      · obtain rfl := List.mem_singleton.mp hact
        exact hne
    cases h with
    | unknown | full => simp
    | @fire q hreceiver hq | @arm q hreceiver hq =>
      intro act hact
      rcases List.mem_append.mp hact with hact | hact
      · exact hgrow _ _ (hsource q hq) act hact
      · obtain rfl := List.mem_singleton.mp hact
        exact hsource q hq
  have hcancel : ∀ q, ∀ act ∈ cancelActs s q, act.Spares p := by
    intro q act hact
    unfold cancelActs at hact
    split_ifs at hact with hq hl
    · have hne : q ≠ p := fun heq => hqueue (heq ▸ hq)
      split at hact <;> (obtain rfl := List.mem_singleton.mp hact; exact hne)
    · have hne : q ≠ p := fun heq => hlist (heq ▸ hl)
      obtain rfl := List.mem_singleton.mp hact
      exact hne
    · obtain rfl := List.mem_singleton.mp hact
      trivial
    · cases hact
  have hexpire : ∀ t : State, t.systemTimerList = s.systemTimerList →
      ∀ act ∈ expireActs t, act.Spares p := by
    intro t ht act hact
    obtain ⟨q, hq, rfl⟩ := List.mem_map.mp hact
    rintro rfl
    exact hlist (ht ▸ (List.takeWhile_prefix _).subset hq)
  cases h with
  | requestAt h | requestIn h | request h => exact hrequest hanswer h
  | requestEvery _ h => exact hrequest hanswer h
  | requestEveryFail | timerCancelFail | cancelNull => simp
  | timerCancel | cancel => exact hcancel _
  | tickUpdate ticks =>
    exact List.forall_mem_cons.mpr ⟨trivial, hexpire _ rfl⟩
  | _ => exact hop.elim

/-! ## Critical sections -/

namespace Threads

variable [NsList]

/-- A step to `c'` that shows `seen` is matched by moves of the sequential event loop. -/
def Advances (s : State) (c' : Threads) (seen : Seen) : Prop :=
  ∃ s' acts, Run Move s acts s' ∧ acts.flatMap Act.queueActions = seen.actions ∧ c'.Settled s'

/-- The main loop finds the event it holds as it left it. -/
structure Undisturbed (c c' : Threads) : Prop where
  point : c'.point = c.point
  data : ∀ p, c.point.held = some p → c.point.unmarked = none →
    (c'.core.event p).data = (c.core.event p).data

namespace Settled

variable {c : Threads} {s : State}

omit [NsList] in
/-- What the allocator answers is in nobody's hands. -/
lemma answer_clear (h : c.Settled s) {answer : Option Ptr} (hfresh : c.FreshAnswer answer) :
    ∀ p ∈ answer, p ∉ c.handed := by
  intro p hp hmem
  rcases List.mem_append.mp hmem with hmem | hmem
  · exact hfresh.2 p hp hmem
  · refine (hfresh.1 p hp).notRunning ?_
    rw [h.main.running]
    exact hmem

omit [NsList] in
/-- What runs and may be cancelled is not the storage that the main loop gives back. -/
lemma running_visible (h : c.Settled s) {p : Ptr} (hrunning : p ∈ c.core.running)
    (hclass : c.core.classOf p ≠ .pool) (hwindow : c.point ≠ .pushTimer p) : p ∉ c.hidden := by
  rw [← h.running_eq] at hrunning
  intro hmem
  rcases List.mem_append.mp hmem with hmem | hmem
  · exact h.idle p hmem hrunning
  · have hunmarked : c.point.unmarked = some p := Option.mem_toList.mp hmem
    have hsame : s.classOf p = c.core.classOf p :=
      State.classOf_congr (h.main.marked p hunmarked).2.1
    cases hpoint : c.point <;> rw [hpoint] at hunmarked <;>
      simp only [DispatchPoint.unmarked, Option.some.injEq, reduceCtorEq] at hunmarked <;>
      subst hunmarked
    · exact hclass (hsame.symm.trans (h.main.pool _ hpoint))
    · exact hwindow hpoint

omit [NsList] in
/-- A valid call of the threads is valid for the sequential event loop. -/
lemma valid_locked (h : c.Settled s) {op : Op} (valid : c.Valid (.locked op))
    (calm : ¬ c.InWindow (.locked op)) : EventLoop.Valid s op := by
  obtain ⟨hop, hvalid, hfresh, hcancel⟩ := valid
  have hanswer : EventLoop.FreshAnswer s op.answer := by
    intro p hp
    have hhidden : p ∉ c.hidden := fun hmem => h.answer_clear hfresh p hp (hidden_handed hmem)
    obtain ⟨isHeap, hheap, hqueue, hrunning⟩ := hfresh.1 p hp
    exact ⟨isHeap, (h.heap_eq hhidden).trans hheap, h.queue_eq ▸ hqueue, h.running_eq ▸ hrunning⟩
  cases op with
  | requestAt | requestIn | requestEvery | request => exact hanswer
  | timerCancel | tickUpdate => trivial
  | cancel event =>
    rintro p rfl
    rcases hvalid p rfl with hqueue | hlist | ⟨hrunning, hforeign⟩
    · exact Or.inl (h.queue_eq ▸ hqueue)
    · exact Or.inr (Or.inl (h.timerList_eq ▸ hlist))
    · -- the storage that the main loop gives back is not a user event
      have hhidden :=
        h.running_visible hrunning (hcancel p rfl).1 fun hpoint => calm ⟨p, rfl, hpoint⟩
      refine Or.inr (Or.inr ⟨h.running_eq ▸ hrunning, fun hclass => ?_⟩)
      rw [h.event_eq hhidden]
      refine hforeign ?_
      rwa [← h.classOf_eq hhidden]
  | _ => exact hop.elim

omit [NsList] in
/-- A timer event, or any other that is queued, does not bear the mark of the startup pool unless it
is of the startup pool. -/
lemma not_startupPool (h : c.Settled s) {p : Ptr} (hp : p ∉ c.hidden)
    (hclass : c.core.classOf p ≠ .pool) (hplace : ValidEvent c.core p) :
    (c.core.event p).allocator ≠ .startupPool := by
  have hallocator : (s.event p).allocator = (s.classOf p).allocator := by
    rcases hplace with hqueue | hlist | ⟨hrunning, -⟩
    · exact h.owned.allocator .queue (by decide) p
        (show p ∈ s.eventQueueActive from h.queue_eq ▸ hqueue)
    · exact h.owned.allocator .timerList (by decide) p
        (show p ∈ s.systemTimerList from h.timerList_eq ▸ hlist)
    · rw [← h.running_eq] at hrunning
      by_cases hforeign : s.classOf p = .foreign
      · rw [h.owned.borrowed p hrunning hforeign, hforeign]
        rfl
      · exact h.owned.allocator .running (by decide) p (by simp [State.at_, hrunning, hforeign])
  rw [← h.event_eq hp, hallocator, h.classOf_eq hp]
  cases hc : c.core.classOf p <;> simp_all

/-- A call that is one critical section does the same behind the veil. -/
lemma exec_veil (h : c.Settled s) {op : Op} (valid : c.Valid (.locked op))
    (calm : ¬ c.InWindow (.locked op)) (t : State) :
    EventLoop.exec op (c.core.veil c.hidden t)
      = (EventLoop.exec op c.core).map fun result => (result.1.veil c.hidden t, result.2) := by
  obtain ⟨hop, hvalid, hfresh, hcancel⟩ := valid
  refine EventLoop.exec_veil h.clear hop (fun p hp hmem => ?_) (fun p hp => ?_) fun p hp => ?_
  · exact h.answer_clear hfresh p hp (hidden_handed hmem)
  · subst hp
    have hvisible : p ∉ c.hidden := by
      rcases hvalid p rfl with hqueue | hlist | ⟨hrunning, -⟩
      · exact h.clear.queue p hqueue
      · exact h.clear.timerList p hlist
      · exact h.running_visible hrunning (hcancel p rfl).1 fun hpoint => calm ⟨p, rfl, hpoint⟩
    exact ⟨hvisible, h.not_startupPool hvisible (hcancel p rfl).1 (hvalid p rfl)⟩
  · have hvisible := h.clear.timerList p hp
    have hclass : s.classOf p = .timer := h.owned.admits .timerList p
      (show p ∈ s.systemTimerList from h.timerList_eq ▸ hp)
    refine h.not_startupPool hvisible ?_ (Or.inr (Or.inl hp))
    rw [← h.classOf_eq hvisible, hclass]
    decide

/-- A cancel in the window removes the storage from a list that does not contain it. -/
lemma window (h : c.Settled s) {op : ThreadOp} (hwindow : c.InWindow op) :
    c.exec op = .error .notOnList := by
  obtain ⟨p, rfl, hpoint⟩ := hwindow
  have hmark : c.point.unmarked = some p := by rw [hpoint]; rfl
  obtain ⟨hmem, -, hstate⟩ := h.main.marked p hmark
  have hrunning : p ∈ s.running := by simp [h.running, unmarked_held hmark]
  have hplace : p ∈ s.at_ .running := by
    have hclass := h.main.timer p hpoint
    simp [State.at_, hrunning, hclass]
  have halloc : (c.core.event p).allocator = .timer := by
    have hallocator := h.owned.allocator .running (by decide) p hplace
    rw [h.main.timer p hpoint, State.event, hmem] at hallocator
    exact hallocator
  have hlist : p ∉ c.core.systemTimerList := by
    intro hl
    have hwaits : p ∈ s.at_ .timerList := (h.timerList_eq ▸ hl : p ∈ s.systemTimerList)
    exact absurd (h.owned.place_unique hwaits hplace) (by decide)
  have hremove : nsListRemove (c.core.setPeriod p 0).systemTimerList p = .error .notOnList := by
    show nsListRemove c.core.systemTimerList p = _
    rw [nsListRemove, if_neg hlist]
  have hcancel : eventOSCancel (some p) c.core = .error .notOnList := by
    simp only [eventOSCancel, halloc, ↓reduceIte, timerSysEventCancelCritical,
      State.setPeriod_event, hstate, hremove, error_bind]
  simp only [exec, EventLoop.exec, hcancel, error_bind]

/-- **A call that is one critical section.** -/
theorem locked (h : c.Settled s) {op : Op} (valid : c.Valid (.locked op))
    (calm : ¬ c.InWindow (.locked op)) :
    ∃ c' seen, c.exec (.locked op) = .ok (c', seen) ∧ Advances s c' seen ∧
      Undisturbed c c' := by
  obtain ⟨s', r, hexec⟩ := h.deliverable.exec_ok h.owned (h.valid_locked valid calm)
  -- what the call does to the threads, read off the sequential event loop
  have hview := h.exec_veil valid calm s
  have hself := h.exec_veil valid calm c.core
  rw [h.view, hexec] at hview
  rw [State.veil_self] at hself
  obtain ⟨core', hcore, hs', hcore'⟩ : ∃ core', EventLoop.exec op c.core = .ok (core', r) ∧
      s' = core'.veil c.hidden s ∧ core' = core'.veil c.hidden c.core := by
    cases hcore : EventLoop.exec op c.core with
    | error fault =>
      rw [hcore] at hview
      cases hview
    | ok result =>
      obtain ⟨core', r'⟩ := result
      rw [hcore] at hview hself
      obtain ⟨rfl, rfl⟩ := Prod.mk.inj (Except.ok.inj hview)
      exact ⟨core', rfl, rfl, (Prod.mk.inj (Except.ok.inj hself)).1⟩
  obtain ⟨acts, heffect, hrun⟩ := Step.effect h.owned ⟨h.valid_locked valid calm, hexec⟩
  have haddressed : AddressedOp s op := by
    cases op <;> first | trivial | exact valid.1.elim
  have hspared : ∀ p ∈ c.handed, Spared p s s' := fun p hp =>
    spares_of_run hrun (heffect.spares valid.1 (h.apart p hp) (h.not_timer hp).1 (h.not_timer hp).2
      fun hanswer => h.answer_clear valid.2.2.1 p hanswer hp)
  have hdata : ∀ p, c.point.held = some p → c.point.unmarked = none →
      (core'.event p).data = (c.core.event p).data := by
    intro p hp hmark
    have hvisible : p ∉ c.hidden := by
      rw [hidden, hmark]
      simpa using h.held_ne hp
    have hevent := (hspared p (List.mem_append_right _ (Option.mem_toList.mpr hp))).event
    rw [hs', State.veil_event hvisible, h.event_eq hvisible] at hevent
    exact congrArg ArmEventStorage.data hevent
  refine ⟨{ c with machine := { c.machine with core := core' } },
    .locked (observe c.core op r) c.core core', by simp only [exec, hcore, ok_bind],
    ⟨s', acts, hrun, ?_, ?_⟩, rfl, hdata⟩
  · rw [heffect.queueActions h.deliverable.registered haddressed]
    have hobserve := observe_veil (t := s) h.clear valid.1 r
    rwa [h.view] at hobserve
  have hrunning : s'.running = s.running := by
    refine heffect.running hrun ?_ ?_ <;> rintro rfl <;> exact valid.1
  have htasklets : core'.armCoreTaskletList = c.core.armCoreTaskletList := by
    rcases heffect.tasklets hrun with hsame | ⟨f, ty, newTasklet, newEvent, rfl, -⟩
    · rwa [hs', State.veil_tasklets, h.tasklets_eq] at hsame
    · exact valid.1.elim
  have hunmoved : ∀ p ∈ c.hidden, Unmoved c.core s core' s' p := by
    intro p hp
    refine ⟨?_, ?_, ?_, ?_⟩
    · rw [hcore', State.veil_mem_of_held hp]
    · rw [hcore', State.veil_heap_of_held hp]
    · rw [hs', State.veil_mem_of_held hp]
    · rw [hs', State.veil_heap_of_held hp]
  refine ⟨h.owned.run hrun, h.deliverable.step h.owned haddressed heffect hrun, ?_, ?_, h.nodup,
    fun p hp hmem => h.apart p hp ((hspared p hp).queue hmem), fun p hp => ?_, ?_,
    fun send hsend => ?_⟩
  · -- what was hidden stays hidden
    show core'.veil c.hidden s' = s'
    rw [hs', State.veil_veil]
  · have hfree : core'.freeEventEntry = c.core.freeEventEntry := by
      rw [hcore', State.veil_free]
    show s'.freeEventEntry.Perm (core'.freeEventEntry ++ _)
    rw [hs', State.veil_free, hfree]
    exact h.free
  · rw [hrunning]
    exact h.idle p hp
  · refine h.main.frame ?_ htasklets (fun p hp => ?_) fun p hp hmark => ?_
    · rw [← h.running_eq, ← hrunning, hs', State.veil_running]
    · exact hunmoved p (List.mem_append_right _ (Option.mem_toList.mpr hp))
    · refine ⟨hdata p hp hmark, ?_⟩
      have hcurr :=
        (hspared p (List.mem_append_right _ (Option.mem_toList.mpr hp))).currTasklet
      rw [← h.view, hs'] at hcurr
      exact hcurr
  · refine (h.sends send hsend).frame htasklets fun p hp => ?_
    exact hunmoved p (List.mem_append_left _ (List.mem_filterMap.mpr ⟨send, hsend, hp⟩))

/-! ## The main loop -/

omit [NsList] in
/-- The settled state after a step of the main loop. -/
lemma of_main (h : c.Settled s) {m' : Machine} {s' : State} {acts : List Act}
    (run : Run Move s acts s')
    (hacts : ∀ act ∈ acts, act.AddressedIn s ∧ (∀ p data, act ≠ .write p data) ∧
      ∀ t block, act ≠ .register t block)
    (hview : m'.core.veil (c.held ++ m'.point.unmarked.toList) s' = s')
    (hfree : s'.freeEventEntry.Perm
      (m'.core.freeEventEntry ++ c.held.filter Ptr.isEventPool))
    (hunmoved : ∀ p ∈ c.held, Unmoved c.core s m'.core s' p ∧ p ∉ s'.eventQueueActive)
    (hheld : ∀ p, m'.point.held = some p → p ∉ c.held ∧ p ∉ s'.eventQueueActive)
    (main' : MainSound m' s') : ({ c with machine := m' } : Threads).Settled s' := by
  have hsame : s'.armCoreTaskletList = s.armCoreTaskletList :=
    tasklets_of_run run fun t block hmem => (hacts _ hmem).2.2 t block rfl
  have htasklets : m'.core.armCoreTaskletList = c.core.armCoreTaskletList := by
    rw [← h.tasklets_eq, ← hsame, ← hview, State.veil_tasklets]
  have hrunning : s'.running = m'.point.held.toList := by
    rw [← main'.running, ← hview, State.veil_running]
  refine ⟨h.owned.run run, ⟨h.deliverable.registered.of_eq hsame, ?_, ?_⟩, hview, hfree, h.nodup,
    fun p hp => ?_, fun p hp hmem => ?_, main', fun send hsend => ?_⟩
  · rw [hsame]
    exact h.deliverable.valid
  · exact h.deliverable.addressed.run h.owned run fun act hact =>
      ⟨(hacts act hact).1, (hacts act hact).2.1⟩
  · rcases List.mem_append.mp hp with hp | hp
    · exact (hunmoved p hp).2
    · exact (hheld p (Option.mem_toList.mp hp)).2
  · rw [hrunning] at hmem
    exact (hheld p (Option.mem_toList.mp hmem)).1 hp
  · refine (h.sends send hsend).frame htasklets fun p hp => ?_
    exact (hunmoved p (List.mem_filterMap.mpr ⟨send, hsend, hp⟩)).1

omit [NsList] in
/-- The main loop writes `curr_tasklet`, or goes on. -/
lemma of_active (h : c.Settled s) {point : DispatchPoint} (tasklet : BitVec 8)
    (hpoint : point.held = c.point.held) (hmark : c.point.unmarked = none)
    (hmark' : point.unmarked = none)
    (hlookup : ∀ p, point = .lookup p → tasklet = (c.core.event p).data.receiver)
    (hcall : ∀ p t, point = .call p t →
      eventTaskletHandlerGet (c.core.event p).data.receiver c.core = some t) :
    ({ c with machine :=
        { core := { c.core with currTasklet := tasklet }, point := point } } : Threads).Settled
      { s with currTasklet := tasklet } := by
  have hview : (c.core.veil c.held s) = s := by
    have hhidden : c.hidden = c.held := by simp [hidden, hmark]
    rw [← hhidden]
    exact h.view
  refine h.of_main (.single (.active tasklet)) (by simp [Act.AddressedIn]) ?_ h.free
    (fun p hp => ⟨⟨rfl, rfl, rfl, rfl⟩, h.apart p (List.mem_append_left _ hp)⟩)
    (fun p hp => ?_) ⟨?_, ?_, ?_, ?_, hlookup, hcall⟩
  · rw [hmark', Option.toList_none, List.append_nil]
    exact congrArg (fun t : State => { t with currTasklet := tasklet }) hview
  · have hp' : c.point.held = some p := hpoint ▸ hp
    exact ⟨h.held_ne hp', h.apart p (List.mem_append_right _ (Option.mem_toList.mpr hp'))⟩
  · show c.core.running = point.held.toList
    rw [hpoint, h.main.running]
  all_goals
    intro p hp
    simp_all [DispatchPoint.unmarked]

omit [NsList] in
/-- Before its mark is taken away, the main loop sees of a storage what is there. -/
lemma veil_of_unmarked (h : c.Settled s) (hmark : c.point.unmarked = none) :
    c.core.veil c.held s = s := by
  have hhidden : c.hidden = c.held := by simp [hidden, hmark]
  rw [← hhidden]
  exact h.view

/-- A step of the main loop that writes `curr_tasklet`, or nothing. -/
lemma active_step (h : c.Settled s) (point : DispatchPoint) (tasklet : BitVec 8)
    {taken : Option Ptr}
    (hmain : c.machine.main
      = .ok ({ core := { c.core with currTasklet := tasklet }, point := point }, taken))
    (hseen : c.seenMain.actions = []) (hpoint : point.held = c.point.held)
    (hmark : c.point.unmarked = none) (hmark' : point.unmarked = none)
    (hlookup : ∀ p, point = .lookup p → tasklet = (c.core.event p).data.receiver)
    (hcall : ∀ p t, point = .call p t →
      eventTaskletHandlerGet (c.core.event p).data.receiver c.core = some t) :
    ∃ c', c.exec .main = .ok (c', c.seenMain) ∧ Advances s c' c.seenMain := by
  refine ⟨_, by rw [exec, hmain, ok_bind], _, [.active tasklet], .single (.active tasklet), ?_,
    h.of_active tasklet hpoint hmark hmark' hlookup hcall⟩
  rw [hseen]
  rfl

/-- A read that finds nothing shows nothing. -/
lemma seenMain_idle (hpoint : c.point = .read) (hqueue : c.core.eventQueueActive = []) :
    c.seenMain = .nothing := by
  simp only [seenMain, hpoint, hqueue]

/-- A read delivers the first event. -/
lemma seenMain_read (hpoint : c.point = .read) {p : Ptr} {rest : List Ptr}
    (hqueue : c.core.eventQueueActive = p :: rest) :
    c.seenMain = { Seen.nothing with actions := [.deliver p (c.core.event p).data] } := by
  simp only [seenMain, hpoint, hqueue]

/-- `event_core_read` takes the first event of the queue. -/
lemma read_step (h : c.Settled s) (hpoint : c.point = .read) {p : Ptr} {rest : List Ptr}
    (hqueue : c.core.eventQueueActive = p :: rest) :
    ∃ c', c.exec .main = .ok (c', c.seenMain) ∧ Advances s c' c.seenMain := by
  have hmark : c.point.unmarked = none := by rw [hpoint]; rfl
  have hview := h.veil_of_unmarked hmark
  have hmem : p ∈ c.core.eventQueueActive := by simp [hqueue]
  have hp : p ∉ c.held := fun hheld =>
    h.apart p (List.mem_append_left _ hheld) (h.queue_eq ▸ hmem)
  have hqueue' : s.eventQueueActive = p :: rest := h.queue_eq.trans hqueue
  let core' : State := { c.core.setState p .running with
    eventQueueActive := rest, running := p :: c.core.running }
  have hmain : c.machine.main = .ok ({ core := core', point := .receive p }, some p) := by
    have hremove : nsListRemove (c.core.setState p .running).eventQueueActive p = .ok rest := by
      rw [show (c.core.setState p .running).eventQueueActive = p :: rest from hqueue,
        nsListRemove_head]
    simp only [Machine.main, hpoint, eventCoreRead, hqueue, List.head?_cons, hremove, ok_bind]
    rfl
  have hs' : s.move p .queue .running ((s.mem p).tagged .running) (s.heap p)
      = core'.veil c.held s := by
    have hset : s.setState p .running = (c.core.setState p .running).veil c.held s := by
      rw [← State.veil_setState hp, hview]
    have hmove : s.move p .queue .running ((s.mem p).tagged .running) (s.heap p)
        = { s.setState p .running with eventQueueActive := rest, running := p :: s.running } := by
      ext1 <;> simp [State.move, State.leave, State.enter, State.setState, State.store,
        State.event, hqueue', SysTimerStruct.tagged]
    rw [hmove, hset, h.running_eq]
    rfl
  have hrow : Row s p .queue .running ((s.mem p).tagged .running) (s.heap p) := .deliver hqueue'
  refine ⟨{ c with machine := { core := core', point := .receive p } },
    by rw [exec, hmain, ok_bind], _, [_], .single (.relocate hrow), ?_,
    h.of_main (.single (.relocate hrow)) ?_ ?_ ?_ (fun q hq => ?_) (fun q hq => ?_)
      ⟨?_, by simp [DispatchPoint.unmarked], by simp, by simp, by simp, by simp⟩⟩
  · have hdata : (s.event p).data = (c.core.event p).data := by
      rw [h.event_eq]
      simpa [hidden, hmark] using hp
    simp [seenMain, hpoint, hqueue, Act.queueActions, SysTimerStruct.tagged, hdata]
  · simp [Act.AddressedIn, Place.Busy]
  · show core'.veil (c.held ++ []) _ = _
    rw [List.append_nil, hs', State.veil_veil]
  · rw [State.move_free]
    exact h.free
  · have hne : q ≠ p := fun heq => hp (heq ▸ hq)
    refine ⟨⟨?_, rfl, ?_, ?_⟩, fun hmem' => ?_⟩
    · simp [core', State.setState, State.store, hne]
    · simp [hne]
    · simp [hne]
    · exact h.apart q (List.mem_append_left _ hq)
        ((Move.relocate hrow).spares (p := q) hne.symm |>.queue hmem')
  · obtain rfl : p = q := Option.some.inj hq
    refine ⟨hp, ?_⟩
    have hnodup := h.owned.nodup .queue
    rw [State.at_, hqueue'] at hnodup
    rw [hs', State.veil_queue]
    exact (List.nodup_cons.mp hnodup).1
  · show p :: c.core.running = [p]
    rw [h.main.running, show c.machine.point = .read from hpoint]
    rfl

/-- `event_core_free_push` up to its first statement, when that marks the event as unqueued. -/
lemma mark_step (h : c.Settled s) {p : Ptr} (hpoint : c.point = .push p) {point : DispatchPoint}
    (hmain : c.machine.main = .ok ({ core := c.core.setState p .unqueued, point := point }, none))
    (hheld : point.held = some p) (hmark : point.unmarked = some p)
    (hclass : s.classOf p ≠ .foreign) (hpool : ∀ q, point = .pushPool q → s.classOf q = .pool)
    (htimer : ∀ q, point = .pushTimer q → s.classOf q = .timer) :
    ∃ c', c.exec .main = .ok (c', c.seenMain) ∧ Advances s c' c.seenMain := by
  have hview := h.veil_of_unmarked (by rw [hpoint]; rfl)
  have hpheld : c.point.held = some p := by rw [hpoint]; rfl
  have hp : p ∉ c.held := h.held_ne hpheld
  have hrunning : s.running = [p] := by rw [h.running, hpheld]; rfl
  have hmem : s.mem p = c.core.mem p := by rw [← hview, State.veil_mem hp]
  refine ⟨{ c with machine := { core := c.core.setState p .unqueued, point := point } },
    by rw [exec, hmain, ok_bind], s, [], .nil, by simp [seenMain, hpoint, Seen.nothing],
    h.of_main .nil (by simp) ?_ h.free (fun q hq => ?_) (fun q hq => ?_)
      ⟨?_, fun q hq => ?_, hpool, htimer, fun q hq => ?_, fun q tasklet hq => ?_⟩⟩
  · -- what differs from now on is the mark of `p`
    rw [hmark, Option.toList_some]
    refine Eq.trans ?_ hview
    ext1
    · funext q
      by_cases hq : q ∈ c.held
      · simp [State.veil, hq]
      · by_cases hqp : q = p
        · subst hqp
          simp [State.veil, hq, hmem]
        · simp [State.veil, hq, hqp, State.setState, State.store]
    · funext q
      by_cases hq : q ∈ c.held
      · simp [State.veil, hq]
      · by_cases hqp : q = p
        · subst hqp
          have hheap := congrFun (congrArg State.heap hview) q
          simpa [State.veil, hq] using hheap.symm
        · simp [State.veil, hq, hqp, State.setState, State.store]
    all_goals rfl
  · have hne : q ≠ p := fun heq => hp (heq ▸ hq)
    refine ⟨⟨?_, rfl, rfl, rfl⟩, h.apart q (List.mem_append_left _ hq)⟩
    simp [State.setState, State.store, hne]
  · obtain rfl : p = q := Option.some.inj (hheld.symm.trans hq)
    exact ⟨hp, h.apart p (List.mem_append_right _ (Option.mem_toList.mpr hpheld))⟩
  · show c.core.running = point.held.toList
    rw [h.main.running, hheld, show c.machine.point.held = some p from hpheld]
  · obtain rfl : p = q := Option.some.inj (hmark.symm.trans hq)
    have hstate : (s.event p).state = .running :=
      h.owned.tag .running p (by simp [State.at_, hrunning, hclass])
    have hheap : s.heap p = c.core.heap p := by rw [← hview, State.veil_heap hp]
    refine ⟨?_, hheap, by simp [State.setState]⟩
    have htag : (c.core.mem p).tagged .running = c.core.mem p := by
      rw [← hmem, SysTimerStruct.tagged, Place.tag, ← hstate]
    show _ = ((c.core.setState p .unqueued).mem p).tagged .running
    rw [hmem, ← htag]
    simp [State.setState, State.store, SysTimerStruct.tagged]
  · have hq' : point = .lookup q := hq
    rw [hq'] at hmark
    cases hmark
  · have hq' : point = .call q tasklet := hq
    rw [hq'] at hmark
    cases hmark

/-- The end of a dispatch: the storage is given back. -/
lemma finish_step (h : c.Settled s) {p : Ptr} (hheld : c.point.held = some p) {core' s' t : State}
    (hmain : c.machine.main = .ok ({ core := core', point := .finish }, none))
    (hmove : Move s (finishAct s p) s') (hrunning : core'.running = [])
    (hseen : (finishAct s p).queueActions = c.seenMain.actions)
    (hs' : s' = core'.veil c.held t)
    (hcore' : ∀ q ∈ c.held, core'.mem q = c.core.mem q ∧ core'.heap q = c.core.heap q)
    (ht : ∀ q ∈ c.held, t.mem q = s.mem q ∧ t.heap q = s.heap q)
    (hfree : s'.freeEventEntry.Perm (core'.freeEventEntry ++ c.held.filter Ptr.isEventPool)) :
    ∃ c', c.exec .main = .ok (c', c.seenMain) ∧ Advances s c' c.seenMain := by
  obtain ⟨B, v, hact⟩ := finishAct_relocates s p
  refine ⟨{ c with machine := { core := core', point := .finish } }, by rw [exec, hmain, ok_bind],
    s', [finishAct s p], .single hmove, by simpa using hseen,
    h.of_main (.single hmove) ?_ ?_ hfree (fun q hq => ?_) (by simp [DispatchPoint.held])
      ⟨hrunning, by simp [DispatchPoint.unmarked], by simp, by simp, by simp, by simp⟩⟩
  · simp [hact, Act.AddressedIn, Place.Busy]
  · show core'.veil (c.held ++ []) s' = s'
    rw [List.append_nil, hs', State.veil_veil]
  · have hne : p ≠ q := by
      rintro rfl
      exact h.held_ne hheld hq
    refine ⟨⟨(hcore' q hq).1, (hcore' q hq).2, ?_, ?_⟩, fun hmem => ?_⟩
    · rw [hs', State.veil_mem_of_held hq, (ht q hq).1]
    · rw [hs', State.veil_heap_of_held hq, (ht q hq).2]
    · refine h.apart q (List.mem_append_left _ hq) ((hmove.spares (p := q) ?_).queue hmem)
      rw [hact]
      exact hne

omit [NsList] in
/-- The storage that the main loop gives back, with the mark that the sequential event loop sees. -/
lemma marked_view (h : c.Settled s) {p : Ptr} (hmark : c.point.unmarked = some p) :
    (c.core.veil c.held s).setState p .running = s := by
  have hheld := unmarked_held hmark
  have hp : p ∉ c.held := h.held_ne hheld
  obtain ⟨hmem, hheap, -⟩ := h.main.marked p hmark
  refine Eq.trans ?_ h.view
  ext1
  · funext q
    by_cases hqp : q = p
    · subst hqp
      simp [State.veil, hidden, hmark, hp, hmem, State.setState, State.store, State.event,
        SysTimerStruct.tagged]
    · simp [State.veil, hidden, hmark, hqp, State.setState, State.store]
  · funext q
    by_cases hqp : q = p
    · subst hqp
      simp [State.veil, hidden, hmark, hp, hheap, State.setState, State.store]
    · simp [State.veil, hidden, hmark, hqp, State.setState, State.store]
  all_goals rfl

/-- The end of a dispatch that does not touch the free list. -/
lemma finish_veil (h : c.Settled s) {p : Ptr} (hheld : c.point.held = some p) {core' s' : State}
    (hmain : c.machine.main = .ok ({ core := core', point := .finish }, none))
    (hmove : Move s (finishAct s p) s')
    (hseen : (finishAct s p).queueActions = c.seenMain.actions)
    (hs' : s' = core'.veil c.held s) (hcore' : core' = core'.veil c.held c.core) :
    ∃ c', c.exec .main = .ok (c', c.seenMain) ∧ Advances s c' c.seenMain := by
  have hrunning : s'.running = [] :=
    finishAct_running (by rw [h.running, hheld]; rfl) hmove
  refine h.finish_step hheld hmain hmove ?_ hseen hs' (fun q hq => ?_) (fun _ _ => ⟨rfl, rfl⟩) ?_
  · rw [← hrunning, hs', State.veil_running]
  · rw [hcore', State.veil_mem_of_held hq, State.veil_heap_of_held hq]
    exact ⟨rfl, rfl⟩
  · rw [hs', hcore', State.veil_free, State.veil_free]
    exact h.free

omit [NsList] in
/-- The event that the main loop holds bears the mark of its class. -/
lemma allocator_held (h : c.Settled s) {p : Ptr} (hheld : c.point.held = some p)
    (hmark : c.point.unmarked = none) :
    s.running = [p] ∧ (c.core.event p).allocator = (s.classOf p).allocator := by
  have hrunning : s.running = [p] := by rw [h.running, hheld]; rfl
  refine ⟨hrunning, ?_⟩
  rw [← Machine.allocator_of_running h.owned hrunning, h.event_eq]
  simpa [hidden, hmark] using h.held_ne hheld

/-- `event_core_free_push`. -/
lemma push_step (h : c.Settled s) {p : Ptr} (hpoint : c.point = .push p) :
    ∃ c', c.exec .main = .ok (c', c.seenMain) ∧ Advances s c' c.seenMain := by
  have hmark : c.point.unmarked = none := by rw [hpoint]; rfl
  have hheld : c.point.held = some p := by rw [hpoint]; rfl
  have hp : p ∉ c.held := h.held_ne hheld
  obtain ⟨hrunning, halloc⟩ := h.allocator_held hheld hmark
  have hpoint' : c.machine.point = .push p := hpoint
  have hrunning' : c.machine.core.running = [p] := h.running_eq ▸ hrunning
  -- a dynamic event is freed and a user event left alone, in one critical section
  have hfree : (c.core.event p).allocator ≠ .startupPool →
      (∀ core', eventCoreFreePush p { c.core with running := [] } = .ok core' →
        c.machine.main = .ok ({ core := core', point := .finish }, none)) →
      (finishAct s p).queueActions = [] →
      ∃ c', c.exec .main = .ok (c', c.seenMain) ∧ Advances s c' c.seenMain := by
    intro hpool hmain hseen
    obtain ⟨s', hpush, hmove⟩ := eventCoreFreePush_finish h.owned hrunning
    have hclear : State.Clear c.held { c.core with running := [] } := by
      have hclear := h.clear
      rw [hidden, hmark, Option.toList_none, List.append_nil] at hclear
      exact ⟨hclear.queue, hclear.timerList, hclear.timerFree⟩
    have hveil := fun t =>
      eventCoreFreePush_veil (t := t) (s := { c.core with running := [] }) hclear hp hpool
    have hs := hveil s
    have hself := hveil c.core
    rw [show State.veil c.held { c.core with running := [] } s = { s with running := [] } from
      congrArg (fun t : State => { t with running := [] }) (h.veil_of_unmarked hmark), hpush] at hs
    rw [show State.veil c.held { c.core with running := [] } c.core
      = { c.core with running := [] } from
      congrArg (fun t : State => { t with running := [] }) (State.veil_self c.held c.core)] at hself
    cases hcore : eventCoreFreePush p { c.core with running := [] } with
    | error fault =>
      rw [hcore] at hs
      cases hs
    | ok core' =>
      rw [hcore] at hs hself
      refine h.finish_veil hheld (hmain core' hcore) hmove ?_ (Except.ok.inj hs)
        (Except.ok.inj hself)
      rw [hseen, seenMain, hpoint]
      rfl
  cases hclass : s.classOf p with
  | pool =>
    rw [hclass] at halloc
    have hmain : c.machine.main
        = .ok ({ core := c.core.setState p .unqueued, point := .pushPool p }, none) := by
      simp only [Machine.main, hpoint', halloc, StorageClass.allocator]
    refine h.mark_step hpoint hmain rfl rfl (by simp [hclass]) (fun q hq => ?_) (by simp)
    rwa [← DispatchPoint.pushPool.inj hq]
  | timer =>
    rw [hclass] at halloc
    have hmain : c.machine.main
        = .ok ({ core := c.core.setState p .unqueued, point := .pushTimer p }, none) := by
      simp only [Machine.main, hpoint', halloc, StorageClass.allocator]
    refine h.mark_step hpoint hmain rfl rfl (by simp [hclass]) (by simp) (fun q hq => ?_)
    rwa [← DispatchPoint.pushTimer.inj hq]
  | dynamic =>
    rw [hclass] at halloc
    refine hfree (by simp [halloc]) (fun core' hcore' => ?_)
      (by simp [finishAct, hclass, Act.queueActions])
    rw [eventCoreFreePush, show (State.event { c.core with running := [] } p).allocator = _
      from halloc] at hcore'
    simp only [StorageClass.allocator] at hcore'
    simp only [Machine.main, hpoint', halloc, StorageClass.allocator, hrunning', List.tail_cons,
      hcore', ok_bind]
  | foreign =>
    rw [hclass] at halloc
    refine hfree (by simp [halloc]) (fun core' hcore' => ?_)
      (by simp [finishAct, hclass, Act.queueActions])
    rw [eventCoreFreePush, show (State.event { c.core with running := [] } p).allocator = _
      from halloc] at hcore'
    simp only [StorageClass.allocator, Except.ok.injEq] at hcore'
    simp only [Machine.main, hpoint', halloc, StorageClass.allocator, hrunning', List.tail_cons,
      hcore']

/-- What the sequential event loop does when the storage is given back. -/
lemma given_back (h : c.Settled s) {p : Ptr} (hmark : c.point.unmarked = some p) : ∃ s',
    Move s (finishAct s p) s' ∧
      (s.classOf p = .pool → s' = { c.core.veil c.held s with
        freeEventEntry := NsList.addToStart s.freeEventEntry p, running := [] }) ∧
      (s.classOf p = .timer →
        s' = timerSysEventFree p (State.veil c.held { c.core with running := [] } s)) := by
  have hheld := unmarked_held hmark
  have hview := h.marked_view hmark
  have hrunning : (c.core.veil c.held s).running = [p] := by
    rw [State.veil_running, h.main.running, show c.machine.point.held = some p from hheld]
    rfl
  have hstate : ((c.core.veil c.held s).event p).state = .unqueued := by
    rw [State.veil_event (h.held_ne hheld)]
    exact (h.main.marked p hmark).2.2
  obtain ⟨s', hmove, -, hpool, htimer⟩ :=
    Machine.pushed (s := c.core.veil c.held s) (by rw [hview]; exact h.owned) hrunning hstate
  have hclass : (c.core.veil c.held s).classOf p = s.classOf p := by
    rw [← State.setState_classOf (c.core.veil c.held s) p p .running, hview]
  rw [hclass] at hpool htimer
  exact ⟨s', hview ▸ hmove, hpool, htimer⟩

omit [NsList] in
/-- While the main loop gives a storage back, no other runs. -/
lemma running_unmarked (h : c.Settled s) {p : Ptr} (hmark : c.point.unmarked = some p) :
    c.machine.core.running = [p] := by
  rw [h.main.running, show c.machine.point.held = some p from unmarked_held hmark]
  rfl

/-- The critical section of `event_core_free_push` for the startup pool. -/
lemma pushPool_step (h : c.Settled s) {p : Ptr} (hpoint : c.point = .pushPool p) :
    ∃ c', c.exec .main = .ok (c', c.seenMain) ∧ Advances s c' c.seenMain := by
  have hmark : c.point.unmarked = some p := by rw [hpoint]; rfl
  have hclass : s.classOf p = .pool := h.main.pool p hpoint
  obtain ⟨s', hmove, hs', -⟩ := h.given_back hmark
  have hmain : c.machine.main = .ok ({
      core := { c.core with
        freeEventEntry := NsList.addToStart c.core.freeEventEntry p, running := [] }
      point := .finish }, none) := by
    simp only [Machine.main, show c.machine.point = .pushPool p from hpoint,
      h.running_unmarked hmark, List.tail_cons]
  refine h.finish_step (unmarked_held hmark) hmain hmove rfl ?_ (hs' hclass)
    (t := { s with freeEventEntry := NsList.addToStart s.freeEventEntry p })
    (fun _ _ => ⟨rfl, rfl⟩) (fun _ _ => ⟨rfl, rfl⟩) ?_
  · rw [seenMain, hpoint]
    simp [finishAct, hclass, Act.queueActions, Seen.nothing]
  · rw [hs' hclass]
    simpa using h.free.cons p

omit [NsList] in
/-- Both event loops see the same return of a handler. -/
lemma observeReturn_eq (h : c.Settled s) {p : Ptr} (hmark : c.point.unmarked = some p) :
    observeReturn s = observeReturn c.core := by
  have hrunning : s.running = [p] := by rw [h.running, unmarked_held hmark]; rfl
  obtain ⟨hmem, hheap, -⟩ := h.main.marked p hmark
  have hclass : s.classOf p = c.core.classOf p := State.classOf_congr hheap
  have hmem' : s.mem p = (c.core.mem p).tagged .running := hmem
  simp only [observeReturn, ← h.running_eq, hrunning, hclass, h.ticks_eq, State.event, hmem',
    SysTimerStruct.tagged]

/-- `timer_sys_event_free`, called by `event_core_free_push`. -/
lemma pushTimer_step (h : c.Settled s) {p : Ptr} (hpoint : c.point = .pushTimer p) :
    ∃ c', c.exec .main = .ok (c', c.seenMain) ∧ Advances s c' c.seenMain := by
  have hmark : c.point.unmarked = some p := by rw [hpoint]; rfl
  have hheld := unmarked_held hmark
  obtain ⟨s', hmove, -, hs'⟩ := h.given_back hmark
  have hmain : c.machine.main = .ok ({
      core := timerSysEventFree p { c.core with running := [] }
      point := .finish }, none) := by
    simp only [Machine.main, show c.machine.point = .pushTimer p from hpoint,
      h.running_unmarked hmark, List.tail_cons]
  have hclear : State.Clear c.held { c.core with running := [] } := by
    have hsub : ∀ q ∈ c.held, q ∈ c.hidden := fun q hq => List.mem_append_left _ hq
    exact ⟨fun q hq hmem => h.clear.queue q hq (hsub q hmem),
      fun q hq hmem => h.clear.timerList q hq (hsub q hmem),
      fun q hq hmem => h.clear.timerFree q hq (hsub q hmem)⟩
  have hveil := fun t =>
    timerSysEventFree_veil (t := t) (s := { c.core with running := [] }) hclear (h.held_ne hheld)
  refine h.finish_veil hheld hmain hmove ?_ ((hs' (h.main.timer p hpoint)).trans (hveil s)) ?_
  · have heffect : Effect s .handlerReturn .void [finishAct s p, .active 0] :=
      .handlerReturn (p := p) (by rw [h.running, hheld]; rfl)
    have hactions := heffect.queueActions h.deliverable.registered trivial
    rw [seenMain, hpoint]
    show _ = observeReturn c.core
    rw [← h.observeReturn_eq hmark]
    simpa [Act.queueActions, observe] using hactions
  · have hself := hveil c.core
    rwa [show State.veil c.held { c.core with running := [] } c.core
      = { c.core with running := [] } from
      congrArg (fun t : State => { t with running := [] }) (State.veil_self c.held c.core)] at hself

/-- `event_tasklet_handler_get` in the main loop finds the tasklet of the event. -/
lemma lookup_step (h : c.Settled s) {p : Ptr} (hpoint : c.point = .lookup p) :
    ∃ c', c.exec .main = .ok (c', c.seenMain) ∧ Advances s c' c.seenMain := by
  have hmark : c.point.unmarked = none := by rw [hpoint]; rfl
  have hheld : c.point.held = some p := by rw [hpoint]; rfl
  have hrunning : p ∈ s.running := by simp [h.running, hheld]
  have hevent : s.event p = c.core.event p :=
    h.event_eq (by simpa [hidden, hmark] using h.held_ne hheld)
  obtain ⟨tasklet, hget, -⟩ := h.deliverable.receiver (Or.inr (Or.inr hrunning))
  rw [eventTaskletHandlerGet, h.tasklets_eq, hevent] at hget
  have hcurr := h.main.lookup p hpoint
  have hmain : c.machine.main
      = .ok ({ core := c.machine.core, point := .call p tasklet }, none) := by
    have hget' : eventTaskletHandlerGet c.machine.core.currTasklet c.machine.core
        = some tasklet := by rw [hcurr]; exact hget
    simp only [Machine.main, show c.machine.point = .lookup p from hpoint, hget']
  refine h.active_step (.call p tasklet) c.core.currTasklet hmain ?_ ?_ hmark rfl (by simp) ?_
  · rw [seenMain, hpoint]
    rfl
  · rw [hheld]
    rfl
  · intro q t hq
    obtain ⟨rfl, rfl⟩ := DispatchPoint.call.inj hq
    exact hget

/-- **A step of the main loop.** -/
theorem main_step (h : c.Settled s) :
    ∃ c', c.exec .main = .ok (c', c.seenMain) ∧ Advances s c' c.seenMain := by
  obtain ⟨⟨core, point⟩, sends⟩ := c
  cases point with
  | start =>
    exact h.active_step .read 0 rfl rfl rfl rfl rfl (by simp) (by simp)
  | finish =>
    exact h.active_step .start 0 rfl rfl rfl rfl rfl (by simp) (by simp)
  | receive p =>
    exact h.active_step (.lookup p) (core.event p).data.receiver rfl rfl rfl rfl rfl
      (fun q hq => by rw [← DispatchPoint.lookup.inj hq]) (by simp)
  | lookup p => exact h.lookup_step rfl
  | call p tasklet =>
    exact h.active_step (.push p) core.currTasklet rfl rfl rfl rfl rfl (by simp) (by simp)
  | read =>
    cases hqueue : core.eventQueueActive with
    | nil =>
      have hmain : Machine.main { core := core, point := .read }
          = .ok ({ core := core, point := .start }, none) := by
        simp only [Machine.main, eventCoreRead, hqueue, List.head?_nil, ok_bind]
      have hseen : (seenMain { machine := { core := core, point := .read }, sends := sends })
          = .nothing := seenMain_idle rfl hqueue
      exact h.active_step .start core.currTasklet hmain (by rw [hseen]; rfl) rfl rfl rfl (by simp)
        (by simp)
    | cons p rest => exact h.read_step rfl hqueue
  | push p => exact h.push_step rfl
  | pushPool p => exact h.pushPool_step rfl
  | pushTimer p => exact h.pushTimer_step rfl

end Settled

end Threads

end EventLoop
