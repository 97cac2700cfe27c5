import EventLoop.InterruptTheorems
import EventLoop.StorageTheorems
import EventLoop.Veil

/-!
# The sequential event loop behind its threads

In every state that the threads and interrupts can reach there is a state of the sequential event
loop (`Settled`) in which no call has got a storage yet that it has not written to the queue, and in
which the storage that the main loop gives back still runs. The calls do to it what the sequential
operations do, each at one of its steps.
-/

namespace EventLoop

open Lib

/-- A storage that `event_core_get` has handed out. For the sequential event loop it is still on the
free list, or not allocated. -/
structure Taken (core s : State) (p : Ptr) : Prop where
  launchTime : (core.mem p).launchTime = (s.mem p).launchTime
  period : (core.mem p).period = (s.mem p).period
  source : p.isEventPool ∧ (core.event p).allocator = (s.event p).allocator ∧
      core.heap p = s.heap p ∨
    core.heap p = some .event ∧ (core.event p).allocator = .dynamic ∧ (∃ a, p = .heap a) ∧
      s.heap p = none

/-- A storage that its owner is about to send. -/
structure Lent (core s : State) (p : Ptr) : Prop where
  isHeap : ∃ a, p = .heap a
  core_heap : core.heap p = none
  heap : s.heap p = none

/-- What holds of a call at each of its points, and for the storage that it has got. -/
def Send.Sound (core s : State) (send : Send) : Prop :=
  match send.point with
  | .get => Known core send.event.receiver
  | .fill p => Known core send.event.receiver ∧ Taken core s p
  | .allocator p => Known core send.event.receiver ∧ Lent core s p ∧
      (core.event p).data = send.event
  | .write p => Known core send.event.receiver ∧ (core.event p).data = send.event ∧
      (Taken core s p ∨ Lent core s p ∧ (core.event p).allocator = .user)
  | _ => True

/-- What holds of the main loop at each of its points. -/
structure MainSound (m : Machine) (s : State) : Prop where
  running : m.core.running = m.point.held.toList
  marked : ∀ p, m.point.unmarked = some p → s.mem p = (m.core.mem p).tagged .running ∧
    s.heap p = m.core.heap p ∧ (m.core.event p).state = .unqueued
  pool : ∀ p, m.point = .pushPool p → s.classOf p = .pool
  timer : ∀ p, m.point = .pushTimer p → s.classOf p = .timer
  lookup : ∀ p, m.point = .lookup p → m.core.currTasklet = (m.core.event p).data.receiver
  call : ∀ p tasklet, m.point = .call p tasklet →
    eventTaskletHandlerGet (m.core.event p).data.receiver m.core = some tasklet

/-- Nothing happens to a storage, for the threads and for the sequential event loop. -/
structure Unmoved (core s core' s' : State) (p : Ptr) : Prop where
  core_mem : core'.mem p = core.mem p
  core_heap : core'.heap p = core.heap p
  mem : s'.mem p = s.mem p
  heap : s'.heap p = s.heap p

section

variable {core s core' s' : State} {p : Ptr}

lemma Known.congr {id : BitVec 8} (known : Known core id)
    (htasklets : core'.armCoreTaskletList = core.armCoreTaskletList) : Known core' id := by
  rwa [Known, eventTaskletHandlerGet, htasklets]

lemma Unmoved.taken (h : Unmoved core s core' s' p) (taken : Taken core s p) :
    Taken core' s' p := by
  obtain ⟨hlaunch, hperiod, hsource⟩ := taken
  refine ⟨?_, ?_, ?_⟩
  · rw [h.core_mem, h.mem, hlaunch]
  · rw [h.core_mem, h.mem, hperiod]
  · rw [State.event, State.event, h.core_mem, h.mem, h.core_heap, h.heap]
    exact hsource

lemma Unmoved.lent (h : Unmoved core s core' s' p) (lent : Lent core s p) : Lent core' s' p :=
  ⟨lent.isHeap, h.core_heap.trans lent.core_heap, h.heap.trans lent.heap⟩

/-- What is known of a call does not depend on what others do to other storages. -/
lemma Send.Sound.frame {send : Send} (h : send.Sound core s)
    (htasklets : core'.armCoreTaskletList = core.armCoreTaskletList)
    (hunmoved : ∀ p, send.point.held = some p → Unmoved core s core' s' p) :
    send.Sound core' s' := by
  unfold Send.Sound at h ⊢
  split at h
  · exact h.congr htasklets
  · next p hpoint =>
    have hp := hunmoved p (by rw [hpoint]; rfl)
    exact ⟨h.1.congr htasklets, hp.taken h.2⟩
  · next p hpoint =>
    have hp := hunmoved p (by rw [hpoint]; rfl)
    refine ⟨h.1.congr htasklets, hp.lent h.2.1, ?_⟩
    rw [State.event, hp.core_mem]
    exact h.2.2
  · next p hpoint =>
    have hp := hunmoved p (by rw [hpoint]; rfl)
    rw [State.event, hp.core_mem]
    refine ⟨h.1.congr htasklets, h.2.1, ?_⟩
    rcases h.2.2 with htaken | ⟨hlent, halloc⟩
    · exact Or.inl (hp.taken htaken)
    · exact Or.inr ⟨hp.lent hlent, halloc⟩
  · trivial

/-- What is known of the main loop does not depend on what others do to other storages. -/
lemma MainSound.frame {m : Machine} (h : MainSound m s) (hrunning : core'.running = m.core.running)
    (htasklets : core'.armCoreTaskletList = m.core.armCoreTaskletList)
    (hunmarked : ∀ p, m.point.unmarked = some p → Unmoved m.core s core' s' p)
    (hheld : ∀ p, m.point.held = some p → m.point.unmarked = none →
      (core'.event p).data = (m.core.event p).data ∧ core'.currTasklet = m.core.currTasklet) :
    MainSound { m with core := core' } s' := by
  refine ⟨hrunning.trans h.running, fun p hp => ?_, fun p hp => ?_, fun p hp => ?_,
    fun p hp => ?_, fun p tasklet hp => ?_⟩
  · have hun := hunmarked p hp
    obtain ⟨hmem, hheap, hstate⟩ := h.marked p hp
    refine ⟨by rw [hun.mem, hun.core_mem, hmem], by rw [hun.heap, hun.core_heap, hheap], ?_⟩
    rw [State.event, hun.core_mem]
    exact hstate
  · have hp' : m.point = .pushPool p := hp
    have hun := hunmarked p (by rw [hp']; rfl)
    rw [State.classOf_congr hun.heap, h.pool p hp']
  · have hp' : m.point = .pushTimer p := hp
    have hun := hunmarked p (by rw [hp']; rfl)
    rw [State.classOf_congr hun.heap, h.timer p hp']
  · have hp' : m.point = .lookup p := hp
    obtain ⟨hdata, hcurr⟩ := hheld p (by rw [hp']; rfl) (by rw [hp']; rfl)
    show core'.currTasklet = (core'.event p).data.receiver
    rw [hdata, hcurr, h.lookup p hp']
  · have hp' : m.point = .call p tasklet := hp
    obtain ⟨hdata, -⟩ := hheld p (by rw [hp']; rfl) (by rw [hp']; rfl)
    show eventTaskletHandlerGet (core'.event p).data.receiver core' = some tasklet
    rw [hdata, eventTaskletHandlerGet, htasklets]
    exact h.call p tasklet hp'

lemma Taken.class (taken : Taken core s p) : s.classOf p = .pool ∨ s.classOf p = .foreign := by
  rcases taken.source with ⟨hpool, -⟩ | ⟨-, -, ⟨a, rfl⟩, hheap⟩
  · exact Or.inl (classOf_pool_iff.mpr hpool)
  · exact Or.inr (by simp [State.classOf, hheap])

lemma Lent.class (lent : Lent core s p) : s.classOf p = .foreign := by
  obtain ⟨a, rfl⟩ := lent.isHeap
  simp [State.classOf, lent.heap]

/-- For the sequential event loop, what a call has got is a free event or memory of others. -/
lemma Send.Sound.class {send : Send} (h : send.Sound core s) (hheld : send.point.held = some p) :
    s.classOf p = .pool ∨ s.classOf p = .foreign := by
  obtain ⟨event, userAllocated, point⟩ := send
  cases point with
  | lookup | get | signal | returned => cases hheld
  | fill q =>
    obtain rfl := Option.some.inj hheld
    exact h.2.class
  | allocator q =>
    obtain rfl := Option.some.inj hheld
    exact Or.inr h.2.1.class
  | write q =>
    obtain rfl := Option.some.inj hheld
    rcases h.2.2 with htaken | ⟨hlent, -⟩
    · exact htaken.class
    · exact Or.inr hlent.class

end

namespace Threads

/-- The storages that the sequential event loop sees otherwise than the threads do. -/
def hidden (c : Threads) : List Ptr := c.held ++ c.point.unmarked.toList

/-- The storages that the calls and the main loop have in their hands. -/
def handed (c : Threads) : List Ptr := c.held ++ c.point.held.toList

/-- The state of the sequential event loop behind that of the threads. -/
structure Settled (c : Threads) (s : State) : Prop where
  owned : Owned s
  deliverable : Deliverable s
  view : c.core.veil c.hidden s = s
  free : s.freeEventEntry.Perm (c.core.freeEventEntry ++ c.held.filter Ptr.isEventPool)
  nodup : c.held.Nodup
  /-- what is in somebody's hands is not queued -/
  apart : ∀ p ∈ c.handed, p ∉ s.eventQueueActive
  /-- a call does not get what runs -/
  idle : ∀ p ∈ c.held, p ∉ s.running
  main : MainSound c.machine s
  sends : ∀ send ∈ c.sends, send.Sound c.core s

/-! ## Reading the settled state -/

namespace Settled

variable {c : Threads} {s : State} {p : Ptr}

lemma mem_eq (h : c.Settled s) (hp : p ∉ c.hidden) : s.mem p = c.core.mem p := by
  rw [← h.view, State.veil_mem hp]

lemma heap_eq (h : c.Settled s) (hp : p ∉ c.hidden) : s.heap p = c.core.heap p := by
  rw [← h.view, State.veil_heap hp]

lemma event_eq (h : c.Settled s) (hp : p ∉ c.hidden) : s.event p = c.core.event p :=
  congrArg SysTimerStruct.event (h.mem_eq hp)

lemma classOf_eq (h : c.Settled s) (hp : p ∉ c.hidden) : s.classOf p = c.core.classOf p :=
  State.classOf_congr (h.heap_eq hp)

lemma tasklets_eq (h : c.Settled s) : s.armCoreTaskletList = c.core.armCoreTaskletList := by
  rw [← h.view, State.veil_tasklets]

lemma queue_eq (h : c.Settled s) : s.eventQueueActive = c.core.eventQueueActive := by
  rw [← h.view, State.veil_queue]

lemma timerList_eq (h : c.Settled s) : s.systemTimerList = c.core.systemTimerList := by
  rw [← h.view, State.veil_timerList]

lemma timerFree_eq (h : c.Settled s) : s.systemTimerFree = c.core.systemTimerFree := by
  rw [← h.view, State.veil_timerFree]

lemma running_eq (h : c.Settled s) : s.running = c.core.running := by
  rw [← h.view, State.veil_running]

lemma ticks_eq (h : c.Settled s) : s.timerSysTicks = c.core.timerSysTicks := by
  rw [← h.view, State.veil_ticks]

lemma currTasklet_eq (h : c.Settled s) : s.currTasklet = c.core.currTasklet := by
  rw [← h.view]
  rfl

/-- The handler that runs is that of the event the main loop holds. -/
lemma running (h : c.Settled s) : s.running = c.point.held.toList :=
  h.running_eq.trans h.main.running

lemma mem_held (hp : p ∈ c.held) : ∃ send ∈ c.sends, send.point.held = some p :=
  List.mem_filterMap.mp hp

lemma class_held (h : c.Settled s) (hp : p ∈ c.held) :
    s.classOf p = .pool ∨ s.classOf p = .foreign := by
  obtain ⟨send, hsend, hheld⟩ := mem_held hp
  exact (h.sends send hsend).class hheld

lemma unmarked_held {point : DispatchPoint} (hp : point.unmarked = some p) :
    point.held = some p := by
  cases point <;> first | exact hp | cases hp

lemma hidden_handed (hp : p ∈ c.hidden) : p ∈ c.handed := by
  rcases List.mem_append.mp hp with hp | hp
  · exact List.mem_append_left _ hp
  · refine List.mem_append_right _ ?_
    rw [Option.mem_toList] at hp ⊢
    exact unmarked_held hp

/-- What is in somebody's hands is on no list of the timers. -/
lemma not_timer (h : c.Settled s) (hp : p ∈ c.handed) :
    p ∉ s.systemTimerList ∧ p ∉ s.systemTimerFree := by
  have hplaces : ∀ A, A = .timerList ∨ A = .timerFree → p ∉ s.at_ A := by
    intro A hA hmem
    have hclass : s.classOf p = .timer := by
      rcases hA with rfl | rfl <;> exact h.owned.admits _ p hmem
    rcases List.mem_append.mp hp with hp | hp
    · rcases h.class_held hp with hpool | hforeign
      · rw [hpool] at hclass
        cases hclass
      · rw [hforeign] at hclass
        cases hclass
    · have hrunning : p ∈ s.at_ .running := by
        simp [State.at_, h.running, hclass, Option.mem_toList.mp hp]
      have hplace := h.owned.place_unique hmem hrunning
      rcases hA with rfl | rfl <;> cases hplace
  exact ⟨hplaces .timerList (Or.inl rfl), hplaces .timerFree (Or.inr rfl)⟩

/-- The critical sections do not meet a storage that is in somebody's hands. -/
lemma clear (h : c.Settled s) : c.core.Clear c.hidden := by
  refine ⟨fun p hp hhidden => ?_, fun p hp hhidden => ?_, fun p hp hhidden => ?_⟩
  · exact h.apart p (hidden_handed hhidden) (h.queue_eq ▸ hp)
  · exact (h.not_timer (hidden_handed hhidden)).1 (h.timerList_eq ▸ hp)
  · exact (h.not_timer (hidden_handed hhidden)).2 (h.timerFree_eq ▸ hp)

/-- What the main loop holds is not what a call has got. -/
lemma held_ne (h : c.Settled s) (hp : c.point.held = some p) : p ∉ c.held := by
  intro hmem
  refine h.idle p hmem ?_
  simp [h.running, hp]

/-- The event loop before other threads are started. -/
theorem start (own : Owned s) (deliverable : Deliverable s) (idle : s.running = []) :
    (Threads.start s).Settled s := by
  refine ⟨own, deliverable, State.veil_self _ s, ?_, List.nodup_nil, fun p hp => ?_, fun p hp => ?_,
    ⟨idle, fun p hp => ?_, fun p hp => ?_, fun p hp => ?_, fun p hp => ?_, fun p t hp => ?_⟩,
    fun send hsend => ?_⟩
  · exact (List.append_nil _).symm ▸ List.Perm.refl _
  all_goals first | cases hp | cases hsend

end Settled

end Threads

end EventLoop
