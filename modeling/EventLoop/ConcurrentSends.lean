import EventLoop.ConcurrentSteps

/-!
# The calls that send an event

The steps of `eventOS_event_send` and `eventOS_event_send_user_allocated`. Until the critical
section of `event_core_write` nothing happens to the sequential event loop: what a call gets and
fills is hidden from it. There the whole call takes place at once, as the move of the storage into
the queue.
-/

namespace EventLoop

open Lib
open Lib.StableQueue (Action)

/-- One element of a list, which is set. -/
lemma exists_split_of_getElem? {α : Type} {l : List α} {i : ℕ} {a : α} (h : l[i]? = some a) :
    ∃ l₁ l₂, l = l₁ ++ [a] ++ l₂ ∧ ∀ b, l.set i b = l₁ ++ [b] ++ l₂ := by
  obtain ⟨hi, rfl⟩ := List.getElem?_eq_some_iff.mp h
  refine ⟨l.take i, l.drop (i + 1), ?_, fun b => ?_⟩
  · simp
  · simp [List.set_eq_take_append_cons_drop, hi]

/-- The storages that some calls have got. -/
def heldBy (sends : List Send) : List Ptr := sends.filterMap (·.point.held)

lemma heldBy_append (l₁ l₂ : List Send) : heldBy (l₁ ++ l₂) = heldBy l₁ ++ heldBy l₂ :=
  List.filterMap_append

lemma heldBy_single (send : Send) : heldBy [send] = send.point.held.toList := by
  cases h : send.point.held <;> simp [heldBy, h]

lemma mem_heldBy {sends : List Send} {p : Ptr} :
    p ∈ heldBy sends ↔ ∃ send ∈ sends, send.point.held = some p := List.mem_filterMap

/-- A call that has got nothing. -/
lemma heldBy_none {l₁ l₂ : List Send} {send : Send} (hnone : send.point.held = none) :
    heldBy (l₁ ++ [send] ++ l₂) = heldBy (l₁ ++ l₂) := by
  rw [heldBy_append, heldBy_append, heldBy_single, hnone, heldBy_append]
  simp

/-- A call that has got a storage. -/
lemma heldBy_perm (l₁ l₂ : List Send) {send : Send} {p : Ptr} (hsome : send.point.held = some p) :
    (heldBy (l₁ ++ [send] ++ l₂)).Perm (p :: heldBy (l₁ ++ l₂)) := by
  rw [heldBy_append, heldBy_append, heldBy_append, heldBy_single, hsome, Option.toList_some,
    List.append_assoc]
  exact List.perm_middle

/-- Two states that differ in storages and in the free list only. -/
structure Beside (core core' : State) : Prop where
  tasklets : core'.armCoreTaskletList = core.armCoreTaskletList
  queue : core'.eventQueueActive = core.eventQueueActive
  timerFree : core'.systemTimerFree = core.systemTimerFree
  timerList : core'.systemTimerList = core.systemTimerList
  ticks : core'.timerSysTicks = core.timerSysTicks
  currTasklet : core'.currTasklet = core.currTasklet
  running : core'.running = core.running

namespace Threads.Settled

variable {c : Threads} {s : State}

/-- The storages in the calls' hands, with one of the calls apart. -/
lemma held_eq {l : List Send} (hsends : c.sends = l) : c.held = heldBy l := hsends ▸ rfl

/-- The settled state while a call goes on to another point, without the sequential event loop. -/
lemma of_send (h : c.Settled s) {l₁ old l₂ : List Send} {send : Send} {core' : State}
    (hsends : c.sends = l₁ ++ old ++ l₂)
    (hgrow : ∀ p ∈ heldBy old, send.point.held = some p)
    (hmem : ∀ q, send.point.held ≠ some q →
      core'.mem q = c.core.mem q ∧ core'.heap q = c.core.heap q)
    (beside : Beside c.core core')
    (hnew : ∀ p, send.point.held = some p →
      p ∉ heldBy (l₁ ++ l₂) ∧ p ∉ s.eventQueueActive ∧ p ∉ s.running)
    (hfree : s.freeEventEntry.Perm
      (core'.freeEventEntry ++ (heldBy (l₁ ++ [send] ++ l₂)).filter Ptr.isEventPool))
    (hsound : send.Sound core' s) :
    ({ machine := { c.machine with core := core' }, sends := l₁ ++ [send] ++ l₂ } : Threads).Settled
      s := by
  have hheld : c.held = heldBy l₁ ++ heldBy old ++ heldBy l₂ := by
    rw [held_eq hsends, heldBy_append, heldBy_append]
  -- the others hold what they held, and nothing happens to that
  have hothers : ∀ p ∈ heldBy (l₁ ++ l₂), p ∈ c.held ∧ send.point.held ≠ some p := by
    intro p hp
    refine ⟨?_, fun hsend => (hnew p hsend).1 hp⟩
    rw [heldBy_append] at hp
    rw [hheld]
    rcases List.mem_append.mp hp with hp | hp
    · exact List.mem_append_left _ (List.mem_append_left _ hp)
    · exact List.mem_append_right _ hp
  have hmain : ∀ p, c.point.held = some p → send.point.held ≠ some p := by
    intro p hp hsend
    refine (hnew p hsend).2.2 ?_
    simp [h.running, hp]
  have hmemHeld : ∀ p, p ∈ heldBy (l₁ ++ [send] ++ l₂) ↔
      p ∈ heldBy (l₁ ++ l₂) ∨ send.point.held = some p := by
    intro p
    simp only [heldBy_append, heldBy_single, List.mem_append, Option.mem_toList]
    tauto
  have hunmoved : ∀ p, send.point.held ≠ some p → Unmoved c.core s core' s p := fun p hp =>
    ⟨(hmem p hp).1, (hmem p hp).2, rfl, rfl⟩
  refine ⟨h.owned, h.deliverable, ?_, hfree, ?_, fun p hp => ?_, fun p hp => ?_, ?_,
    fun send' hsend' => ?_⟩
  · have hvisible : ∀ p, p ∉ heldBy (l₁ ++ [send] ++ l₂) ++ c.point.unmarked.toList →
        p ∉ c.hidden ∧ send.point.held ≠ some p := by
      intro p hp
      rw [List.mem_append, not_or, hmemHeld, not_or] at hp
      refine ⟨fun hhidden => ?_, hp.1.2⟩
      rcases List.mem_append.mp hhidden with hhidden | hhidden
      · rw [hheld, List.mem_append, List.mem_append] at hhidden
        rw [heldBy_append, List.mem_append] at hp
        rcases hhidden with (hmem | hmem) | hmem
        · exact hp.1.1 (Or.inl hmem)
        · exact hp.1.2 (hgrow p hmem)
        · exact hp.1.1 (Or.inr hmem)
      · exact hp.2 hhidden
    show core'.veil (heldBy (l₁ ++ [send] ++ l₂) ++ c.point.unmarked.toList) s = s
    ext1
    · funext p
      by_cases hp : p ∈ heldBy (l₁ ++ [send] ++ l₂) ++ c.point.unmarked.toList
      · exact State.veil_mem_of_held hp
      · obtain ⟨hhidden, hsend⟩ := hvisible p hp
        rw [State.veil_mem hp, (hmem p hsend).1, h.mem_eq hhidden]
    · funext p
      by_cases hp : p ∈ heldBy (l₁ ++ [send] ++ l₂) ++ c.point.unmarked.toList
      · exact State.veil_heap_of_held hp
      · obtain ⟨hhidden, hsend⟩ := hvisible p hp
        rw [State.veil_heap hp, (hmem p hsend).2, h.heap_eq hhidden]
    · exact beside.tasklets.trans h.tasklets_eq.symm
    · exact beside.queue.trans h.queue_eq.symm
    · rfl
    · exact beside.timerFree.trans h.timerFree_eq.symm
    · exact beside.timerList.trans h.timerList_eq.symm
    · exact beside.ticks.trans h.ticks_eq.symm
    · exact beside.currTasklet.trans h.currTasklet_eq.symm
    · exact beside.running.trans h.running_eq.symm
  · have hnodup : (heldBy l₁ ++ heldBy l₂).Nodup := by
      refine h.nodup.sublist ?_
      rw [hheld, List.append_assoc]
      exact (List.sublist_append_right _ _).append_left _
    rw [← heldBy_append] at hnodup
    show (heldBy (l₁ ++ [send] ++ l₂)).Nodup
    cases hsend : send.point.held with
    | none =>
      rw [heldBy_none hsend]
      exact hnodup
    | some p =>
      exact (heldBy_perm l₁ l₂ hsend).nodup_iff.mpr (List.nodup_cons.mpr ⟨(hnew p hsend).1, hnodup⟩)
  · rcases List.mem_append.mp hp with hp | hp
    · rcases (hmemHeld p).mp hp with hp | hp
      · exact h.apart p (List.mem_append_left _ (hothers p hp).1)
      · exact (hnew p hp).2.1
    · exact h.apart p (List.mem_append_right _ hp)
  · rcases (hmemHeld p).mp hp with hp | hp
    · exact h.idle p (hothers p hp).1
    · exact (hnew p hp).2.2
  · refine h.main.frame beside.running beside.tasklets (fun p hp => ?_) fun p hp _ => ?_
    · exact hunmoved p (hmain p (unmarked_held hp))
    · refine ⟨?_, beside.currTasklet⟩
      rw [State.event, (hmem p (hmain p hp)).1]
  · rw [List.mem_append, List.mem_append, List.mem_singleton] at hsend'
    have hother : send' ∈ l₁ ++ l₂ → send'.Sound core' s := by
      intro hmem'
      have hcall : send' ∈ c.sends := by
        rw [hsends]
        simp only [List.mem_append] at hmem' ⊢
        tauto
      refine (h.sends send' hcall).frame beside.tasklets fun p hp => ?_
      exact hunmoved p (hothers p (mem_heldBy.mpr ⟨send', hmem', hp⟩)).2
    rcases hsend' with (hmem' | rfl) | hmem'
    · exact hother (List.mem_append_left _ hmem')
    · exact hsound
    · exact hother (List.mem_append_right _ hmem')

/-- What a call has got is nobody else's. -/
lemma held_alone (h : c.Settled s) {l₁ l₂ : List Send} {send : Send} {p : Ptr}
    (hsends : c.sends = l₁ ++ [send] ++ l₂) (hp : send.point.held = some p) :
    p ∉ heldBy (l₁ ++ l₂) ∧ p ∉ s.eventQueueActive ∧ p ∉ s.running := by
  have hperm := held_eq hsends ▸ heldBy_perm l₁ l₂ hp
  have hmem : p ∈ c.held := hperm.mem_iff.mpr List.mem_cons_self
  exact ⟨(List.nodup_cons.mp (hperm.nodup_iff.mp h.nodup)).1,
    h.apart p (List.mem_append_left _ hmem), h.idle p hmem⟩

/-- A call that keeps what it has got leaves the free list to the others. -/
lemma heldBy_eq {l₁ l₂ : List Send} {send send' : Send} (hsends : c.sends = l₁ ++ [send] ++ l₂)
    (hheld : send'.point.held = send.point.held) : heldBy (l₁ ++ [send'] ++ l₂) = c.held := by
  simp only [held_eq hsends, heldBy_append, heldBy_single, hheld]

/-- The settled state while a call goes on with what it has got. -/
lemma of_send_same (h : c.Settled s) {l₁ l₂ : List Send} {send : Send} {core' : State}
    (point : SendPoint) (hsends : c.sends = l₁ ++ [send] ++ l₂)
    (hheld : point.held = send.point.held)
    (hmem : ∀ q, point.held ≠ some q →
      core'.mem q = c.core.mem q ∧ core'.heap q = c.core.heap q)
    (beside : Beside c.core core') (hfree : core'.freeEventEntry = c.core.freeEventEntry)
    (hsound : ({ send with point := point } : Send).Sound core' s) :
    ({ machine := { c.machine with core := core' }
       sends := l₁ ++ [{ send with point := point }] ++ l₂ } : Threads).Settled s := by
  refine h.of_send hsends (fun p hp => ?_) hmem beside (fun p hp => ?_) ?_ hsound
  · rw [heldBy_single, Option.mem_toList] at hp
    exact hheld.trans hp
  · exact h.held_alone hsends (hheld.symm.trans hp)
  · rw [heldBy_eq hsends hheld, hfree]
    exact h.free

/-- What is not in anybody's hands and does not run is as the threads see it. -/
lemma visible (h : c.Settled s) {p : Ptr} (hp : p ∉ c.held) (hrunning : p ∉ s.running) :
    p ∉ c.hidden := by
  intro hmem
  rcases List.mem_append.mp hmem with hmem | hmem
  · exact hp hmem
  · refine hrunning ?_
    rw [h.running, Option.mem_toList]
    exact unmarked_held (Option.mem_toList.mp hmem)

/-- `event_core_get` takes the first event of the free list. -/
lemma get_pool (h : c.Settled s) {l₁ l₂ : List Send} {send : Send} {p : Ptr} {rest : List Ptr}
    (hsends : c.sends = l₁ ++ [send] ++ l₂) (hpoint : send.point = .get)
    (hfree : c.core.freeEventEntry = p :: rest) (data : ArmEvent) :
    ({ machine :=
        { c.machine with core := { c.core with freeEventEntry := rest }.setData p data }
       sends := l₁ ++ [{ send with point := .fill p }] ++ l₂ } : Threads).Settled s := by
  have hheld : c.held = heldBy (l₁ ++ l₂) :=
    (held_eq hsends).trans (heldBy_none (by rw [hpoint]; rfl))
  have hperm : (heldBy (l₁ ++ [{ send with point := .fill p }] ++ l₂)).Perm
    (p :: heldBy (l₁ ++ l₂)) := heldBy_perm l₁ l₂ rfl
  have hmem : p ∈ s.at_ .free := h.free.mem_iff.mpr (by simp [hfree])
  have hclass : s.classOf p = .pool := h.owned.admits _ _ hmem
  have hpool : p.isEventPool := classOf_pool_iff.mp hclass
  have hp : p ∉ c.held := by
    have hnodup := h.free.nodup_iff.mp (h.owned.nodup .free)
    rw [hfree, List.cons_append, List.nodup_cons, List.mem_append, not_or] at hnodup
    exact fun hmem => hnodup.1.2 (List.mem_filter.mpr ⟨hmem, hpool⟩)
  have hrunning : p ∉ s.running := h.owned.notMem_running hmem (by decide) (by simp [hclass])
  have hvisible := h.visible hp hrunning
  refine h.of_send hsends ?_ (fun q hq => ?_) ⟨rfl, rfl, rfl, rfl, rfl, rfl, rfl⟩ ?_ ?_ ?_
  · simp [heldBy_single, hpoint, SendPoint.held]
  · have hne : q ≠ p := fun heq => hq (heq ▸ rfl)
    simp [State.setData, State.store, hne]
  · intro q hq
    obtain rfl : p = q := Option.some.inj hq
    refine ⟨hheld ▸ hp, fun hqueue => ?_, hrunning⟩
    have hplace := h.owned.place_unique (A := .free) (B := .queue) hmem hqueue
    cases hplace
  · refine h.free.trans ?_
    rw [hfree, hheld]
    show (p :: rest ++ _).Perm (rest ++ _)
    refine (List.perm_middle.symm).trans ((List.Perm.refl rest).append ?_)
    have hfilter := hperm.filter Ptr.isEventPool
    rw [List.filter_cons_of_pos hpool] at hfilter
    exact hfilter.symm
  · have hsound := h.sends send (by rw [hsends]; simp)
    rw [Send.Sound, hpoint] at hsound
    refine ⟨hsound, ?_, ?_, Or.inl ⟨hpool, ?_, ?_⟩⟩
    · simp [State.setData, State.store, h.mem_eq hvisible]
    · simp [State.setData, State.store, h.mem_eq hvisible]
    · simp [State.setData, State.store, State.event, h.mem_eq hvisible]
    · exact (h.heap_eq hvisible).symm

/-- `event_core_get` allocates an event. -/
lemma get_dynamic (h : c.Settled s) {l₁ l₂ : List Send} {send : Send} {p : Ptr}
    (hsends : c.sends = l₁ ++ [send] ++ l₂) (hpoint : send.point = .get)
    (hfresh : c.FreshAnswer (some p)) (data : ArmEvent) :
    ({ machine := { c.machine with
        core := ((nsDynMemAlloc (some p) .event c.core).setAllocator p .dynamic).setData p data }
       sends := l₁ ++ [{ send with point := .fill p }] ++ l₂ } : Threads).Settled s := by
  have hheld : c.held = heldBy (l₁ ++ l₂) :=
    (held_eq hsends).trans (heldBy_none (by rw [hpoint]; rfl))
  have hperm : (heldBy (l₁ ++ [{ send with point := .fill p }] ++ l₂)).Perm
    (p :: heldBy (l₁ ++ l₂)) := heldBy_perm l₁ l₂ rfl
  have fresh := hfresh.1 p rfl
  have hp : p ∉ c.held := hfresh.2 p rfl
  have hrunning : p ∉ s.running := h.running_eq ▸ fresh.notRunning
  have hvisible := h.visible hp hrunning
  have hpool : ¬ p.isEventPool := by
    obtain ⟨a, rfl⟩ := fresh.isHeap
    simp [Ptr.isEventPool]
  refine h.of_send hsends ?_ (fun q hq => ?_) ⟨rfl, rfl, rfl, rfl, rfl, rfl, rfl⟩ ?_ ?_ ?_
  · simp [heldBy_single, hpoint, SendPoint.held]
  · have hne : q ≠ p := fun heq => hq (heq ▸ rfl)
    simp [State.setData, State.setAllocator, State.store, nsDynMemAlloc, hne]
  · intro q hq
    obtain rfl : p = q := Option.some.inj hq
    exact ⟨hheld ▸ hp, h.queue_eq ▸ fresh.notQueued, hrunning⟩
  · refine h.free.trans ((List.Perm.refl c.core.freeEventEntry).append ?_)
    have hfilter := hperm.filter Ptr.isEventPool
    rw [List.filter_cons_of_neg hpool, ← hheld] at hfilter
    exact hfilter.symm
  · have hsound := h.sends send (by rw [hsends]; simp)
    rw [Send.Sound, hpoint] at hsound
    refine ⟨hsound, ?_, ?_, Or.inr ⟨?_, ?_, fresh.isHeap, (h.heap_eq hvisible).trans fresh.free⟩⟩
    · simp [State.setData, State.setAllocator, State.store, nsDynMemAlloc, h.mem_eq hvisible]
    · simp [State.setData, State.setAllocator, State.store, nsDynMemAlloc, h.mem_eq hvisible]
    · simp [State.setData, State.setAllocator, State.store, nsDynMemAlloc]
    · simp [State.setData, State.setAllocator, State.store, nsDynMemAlloc, State.event]

/-- A storage that was filled is what the sequential event loop fills. -/
lemma tagged_eq {v w : SysTimerStruct} {B : Place} {event : ArmEvent} {allocator : Allocator}
    (hdata : v.event.data = event) (halloc : v.event.allocator = allocator)
    (hlaunch : v.launchTime = w.launchTime) (hperiod : v.period = w.period) :
    v.tagged B
      = { w with event := { data := event, allocator := allocator, state := B.tag } } := by
  subst hdata halloc
  rw [SysTimerStruct.tagged, ← hlaunch, ← hperiod]

/-- The storage that a call has filled goes into the queue. -/
lemma write_row (h : c.Settled s) {l₁ l₂ : List Send} {send : Send} {p : Ptr}
    (hsends : c.sends = l₁ ++ [send] ++ l₂) (hpoint : send.point = .write p) :
    ∃ A, (A = .free ∨ A = .outside) ∧
      (A = .free ↔ p.isEventPool) ∧
      Row s p A .queue ((c.core.mem p).tagged .queue) (c.core.heap p) := by
  have hheld : send.point.held = some p := by rw [hpoint]; rfl
  have hmem : p ∈ c.held := List.mem_filterMap.mpr ⟨send, by rw [hsends]; simp, hheld⟩
  obtain ⟨-, hqueue, hrunning⟩ := h.held_alone hsends hheld
  have hsound := h.sends send (by rw [hsends]; simp)
  rw [Send.Sound, hpoint] at hsound
  obtain ⟨-, hdata, htaken | ⟨hlent, halloc⟩⟩ := hsound
  · obtain ⟨hlaunch, hperiod, ⟨hpool, halloc, hheap⟩ | ⟨hheap, halloc, hisHeap, hfree⟩⟩ := htaken
    · have hfree : p ∈ s.freeEventEntry :=
        h.free.mem_iff.mpr (List.mem_append_right _ (List.mem_filter.mpr ⟨hmem, hpool⟩))
      have hrow := Row.sendPool send.event hfree
      refine ⟨.free, Or.inl rfl, by simp [hpool], ?_⟩
      rw [hheap, tagged_eq hdata halloc hlaunch hperiod]
      exact hrow
    · have hrow := Row.sendDynamic send.event (s := s) ⟨hisHeap, hfree, hqueue, hrunning⟩
      refine ⟨.outside, Or.inr rfl, ?_, ?_⟩
      · obtain ⟨a, rfl⟩ := hisHeap
        simp [Ptr.isEventPool]
      · rw [hheap, tagged_eq hdata halloc hlaunch hperiod]
        exact hrow
  · refine ⟨.outside, Or.inr rfl, ?_, ?_⟩
    · obtain ⟨a, rfl⟩ := hlent.isHeap
      simp [Ptr.isEventPool]
    · rw [hlent.core_heap]
      exact .sendUser _ hlent.isHeap hlent.heap hqueue halloc rfl

/-- The storages that are hidden while a call is left out. -/
lemma hidden_but (h : c.Settled s) {l₁ l₂ : List Send} {send : Send} {p : Ptr}
    (hsends : c.sends = l₁ ++ [send] ++ l₂) (hheld : send.point.held = some p) :
    p ∉ heldBy (l₁ ++ l₂) ++ c.point.unmarked.toList ∧
      ∀ q, q ≠ p → (q ∈ heldBy (l₁ ++ l₂) ++ c.point.unmarked.toList ↔ q ∈ c.hidden) := by
  obtain ⟨hothers, -, hrunning⟩ := h.held_alone hsends hheld
  have hmem : ∀ q, q ∈ c.held ↔ q = p ∨ q ∈ heldBy (l₁ ++ l₂) := by
    intro q
    rw [held_eq hsends, (heldBy_perm l₁ l₂ hheld).mem_iff, List.mem_cons]
  constructor
  · rw [List.mem_append, not_or]
    refine ⟨hothers, fun hmark => hrunning ?_⟩
    rw [h.running, Option.mem_toList]
    exact unmarked_held (Option.mem_toList.mp hmark)
  · intro q hne
    rw [hidden, List.mem_append, List.mem_append, hmem]
    simp [hne]

/-- The free list, when a call puts what it has got into the queue. -/
lemma free_but (h : c.Settled s) {l₁ l₂ : List Send} {send : Send} {p : Ptr} {A : Place}
    (hsends : c.sends = l₁ ++ [send] ++ l₂) (hheld : send.point.held = some p)
    (hpool : A = .free ↔ p.isEventPool) :
    (if A = .free then s.freeEventEntry.erase p else s.freeEventEntry).Perm
      (c.core.freeEventEntry ++ (heldBy (l₁ ++ l₂)).filter Ptr.isEventPool) := by
  have hfilter := (held_eq hsends ▸ heldBy_perm l₁ l₂ hheld).filter Ptr.isEventPool
  have hfree := h.free.trans ((List.Perm.refl c.core.freeEventEntry).append hfilter)
  split
  · next hA =>
    rw [List.filter_cons_of_pos (hpool.mp hA)] at hfree
    simpa using (hfree.trans List.perm_middle).erase p
  · next hA =>
    rwa [List.filter_cons_of_neg (mt hpool.mpr hA)] at hfree

section

variable [NsList]

/-- The write, as the threads and the sequential event loop see it. -/
lemma write_view (h : c.Settled s) {l₁ l₂ : List Send} {send : Send} {p : Ptr} {A : Place}
    (hsends : c.sends = l₁ ++ [send] ++ l₂) (hheld : send.point.held = some p)
    (hA : A = .free ∨ A = .outside) :
    s.move p A .queue ((c.core.mem p).tagged .queue) (c.core.heap p)
      = (eventCoreWrite p c.core).veil (heldBy (l₁ ++ l₂) ++ c.point.unmarked.toList)
        (s.leave p A) := by
  obtain ⟨hp, hothers⟩ := h.hidden_but hsends hheld
  have hqueue : ∀ q ∈ c.core.eventQueueActive,
      q ∉ heldBy (l₁ ++ l₂) ++ c.point.unmarked.toList := by
    intro q hq hmem
    by_cases hne : q = p
    · exact hp (hne ▸ hmem)
    · exact h.clear.queue q hq ((hothers q hne).mp hmem)
  generalize heldBy (l₁ ++ l₂) ++ c.point.unmarked.toList = rest at hp hothers hqueue ⊢
  have hmem : (s.leave p A).mem = s.mem := by rcases hA with rfl | rfl <;> rfl
  have hheap : (s.leave p A).heap = s.heap := by rcases hA with rfl | rfl <;> rfl
  rw [← eventCoreWrite_veil hqueue hp]
  refine (eventCoreWrite_eq_move ?_).symm
  ext1
  · funext q
    by_cases hq : q = p
    · subst hq
      simp [State.setState, State.store, State.event, State.veil, hp, SysTimerStruct.tagged]
    · by_cases hrest : q ∈ rest
      · simp [State.setState, State.store, State.veil, hq, hrest, hmem]
      · have hvisible := h.mem_eq (mt (hothers q hq).mpr hrest)
        simp [State.setState, State.store, State.veil, hq, hrest, hvisible]
  · funext q
    by_cases hq : q = p
    · subst hq
      simp [State.setState, State.store, State.veil, hp]
    · by_cases hrest : q ∈ rest
      · simp [State.setState, State.store, State.veil, hq, hrest, hheap]
      · have hvisible := h.heap_eq (mt (hothers q hq).mpr hrest)
        simp [State.setState, State.store, State.veil, hq, hrest, hvisible]
  all_goals
    rcases hA with rfl | rfl <;>
      simp [State.setState, State.store, State.veil, State.leave, h.tasklets_eq, h.queue_eq,
        h.timerFree_eq, h.timerList_eq, h.ticks_eq, h.currTasklet_eq, h.running_eq]

/-- The critical section of `event_core_write`: the call takes place. -/
lemma write_step (h : c.Settled s) {l₁ l₂ : List Send} {send : Send} {p : Ptr}
    (hsends : c.sends = l₁ ++ [send] ++ l₂) (hpoint : send.point = .write p) :
    Advances s { machine := { c.machine with core := eventCoreWrite p c.core }
                 sends := l₁ ++ [{ send with point := .signal }] ++ l₂ }
      { Seen.nothing with actions := [.write p (c.core.event p).data] } := by
  have hheld : send.point.held = some p := by rw [hpoint]; rfl
  obtain ⟨hothers, hqueue, hrunning⟩ := h.held_alone hsends hheld
  obtain ⟨A, hA, hpool, hrow⟩ := h.write_row hsends hpoint
  have hview := h.write_view hsends hheld hA
  have hmove := Move.relocate hrow
  have hgone : heldBy (l₁ ++ [{ send with point := .signal }] ++ l₂) = heldBy (l₁ ++ l₂) :=
    heldBy_none rfl
  have hperm : c.held.Perm (p :: heldBy (l₁ ++ l₂)) := held_eq hsends ▸ heldBy_perm l₁ l₂ hheld
  have hkept : ∀ q ∈ heldBy (l₁ ++ l₂), q ∈ c.held ∧ q ≠ p := fun q hq =>
    ⟨hperm.mem_iff.mpr (List.mem_cons_of_mem _ hq), fun heq => hothers (heq ▸ hq)⟩
  have hrunning' : (s.move p A .queue ((c.core.mem p).tagged .queue) (c.core.heap p)).running
      = s.running := by
    rcases hA with rfl | rfl <;> rfl
  have hmain : ∀ q, c.point.held = some q → q ≠ p := by
    rintro q hq rfl
    exact hrunning (by simp [h.running, hq])
  have hmem : ∀ q, q ≠ p → (eventCoreWrite p c.core).mem q = c.core.mem q ∧
      (eventCoreWrite p c.core).heap q = c.core.heap q := by
    intro q hq
    simp [eventCoreWrite_eq, State.enter, State.setState, State.store, hq]
  have hunmoved : ∀ q, q ≠ p → Unmoved c.core s (eventCoreWrite p c.core)
      (s.move p A .queue ((c.core.mem p).tagged .queue) (c.core.heap p)) q := fun q hq =>
    ⟨(hmem q hq).1, (hmem q hq).2, by simp [hq], by simp [hq]⟩
  refine ⟨_, [.relocate p A .queue ((c.core.mem p).tagged .queue)], .single hmove, ?_,
    h.owned.run (.single hmove), ⟨h.deliverable.registered.of_eq (State.move_tasklets ..), ?_, ?_⟩,
    ?_, ?_, ?_, fun q hq => ?_, fun q hq => ?_, ?_, fun send' hsend' => ?_⟩
  · rcases hA with rfl | rfl <;> rfl
  · rw [State.move_tasklets]
    exact h.deliverable.valid
  · refine h.deliverable.addressed.preserved h.owned hmove fun _ _ => ?_
    have hsound := h.sends send (by rw [hsends]; simp)
    rw [Send.Sound, hpoint] at hsound
    show Known s (c.core.event p).data.receiver
    rw [hsound.2.1]
    exact hsound.1.congr h.tasklets_eq
  · show (eventCoreWrite p c.core).veil (heldBy (l₁ ++ [_] ++ l₂) ++ _) _ = _
    rw [hgone, hview, State.veil_veil]
  · show List.Perm _ (c.core.freeEventEntry ++ (heldBy (l₁ ++ [_] ++ l₂)).filter Ptr.isEventPool)
    rw [hgone, State.move_free, if_neg (by decide), List.nil_append]
    exact h.free_but hsends hheld hpool
  · show (heldBy (l₁ ++ [_] ++ l₂)).Nodup
    rw [hgone]
    exact (List.nodup_cons.mp (hperm.nodup_iff.mp h.nodup)).2
  · obtain ⟨hq', hne⟩ : q ∈ c.handed ∧ q ≠ p := by
      rcases List.mem_append.mp hq with hq | hq
      · exact ⟨List.mem_append_left _ (hkept q (hgone ▸ hq)).1, (hkept q (hgone ▸ hq)).2⟩
      · exact ⟨List.mem_append_right _ hq, hmain q (Option.mem_toList.mp hq)⟩
    exact fun hmem => h.apart q hq' ((hmove.spares (p := q) hne.symm).queue hmem)
  · rw [hrunning']
    exact h.idle q (hkept q (hgone ▸ hq)).1
  · refine h.main.frame rfl rfl (fun q hq => ?_) fun q hq _ => ⟨?_, rfl⟩
    · exact hunmoved q (hmain q (unmarked_held hq))
    · rw [State.event, (hmem q (hmain q hq)).1]
  · rw [List.mem_append, List.mem_append, List.mem_singleton] at hsend'
    have hother : send' ∈ l₁ ++ l₂ → send'.Sound (eventCoreWrite p c.core)
        (s.move p A .queue ((c.core.mem p).tagged .queue) (c.core.heap p)) := by
      intro hmem'
      have hcall : send' ∈ c.sends := by
        rw [hsends]
        simp only [List.mem_append] at hmem' ⊢
        tauto
      refine (h.sends send' hcall).frame rfl fun q hq => ?_
      exact hunmoved q (hkept q (mem_heldBy.mpr ⟨send', hmem', hq⟩)).2
    rcases hsend' with (hmem' | rfl) | hmem'
    · exact hother (List.mem_append_left _ hmem')
    · trivial
    · exact hother (List.mem_append_right _ hmem')

omit [NsList] in
/-- A step that is hidden from the sequential event loop. -/
lemma stay {c' : Threads} (h : c'.Settled s) : Advances s c' .nothing := ⟨s, [], .nil, rfl, h⟩

/-- `event_core_get` in a call. -/
lemma get_step (h : c.Settled s) {l₁ l₂ : List Send} {send : Send} {answer : Option Ptr}
    (hsends : c.sends = l₁ ++ [send] ++ l₂) (hpoint : send.point = .get)
    (hfresh : c.FreshAnswer answer) :
    ∃ core' eventTmp, eventCoreGet answer c.core = .ok (core', eventTmp) ∧
      Advances s { machine := { c.machine with core := core' }
                   sends := l₁ ++ [{ send with point :=
                    match eventTmp with
                    | some eventTmp => .fill eventTmp
                    | none => .returned (.code (-1)) }] ++ l₂ } .nothing := by
  cases hfree : c.core.freeEventEntry with
  | cons p rest =>
    refine ⟨_, some p, by simp [eventCoreGet, hfree, nsListRemove_head]; rfl, stay ?_⟩
    exact h.get_pool hsends hpoint hfree _
  | nil =>
    cases answer with
    | some p =>
      refine ⟨_, some p, by simp [eventCoreGet, hfree, eventDynamicallyAllocate]; rfl, stay ?_⟩
      exact h.get_dynamic hsends hpoint hfresh _
    | none =>
      refine ⟨c.core, none, by simp [eventCoreGet, hfree, eventDynamicallyAllocate],
        stay ?_⟩
      exact h.of_send_same _ hsends (by rw [hpoint]; rfl) (fun _ _ => ⟨rfl, rfl⟩)
        ⟨rfl, rfl, rfl, rfl, rfl, rfl, rfl⟩ rfl trivial

omit [NsList] in
/-- `event_tmp->data = *event`. -/
lemma fill_step (h : c.Settled s) {l₁ l₂ : List Send} {send : Send} {p : Ptr}
    (hsends : c.sends = l₁ ++ [send] ++ l₂) (hpoint : send.point = .fill p) :
    ({ machine := { c.machine with core := c.core.setData p send.event }
       sends := l₁ ++ [{ send with point := .write p }] ++ l₂ } : Threads).Settled s := by
  have hsound := h.sends send (by rw [hsends]; simp)
  rw [Send.Sound, hpoint] at hsound
  obtain ⟨hknown, hlaunch, hperiod, hsource⟩ := hsound
  refine h.of_send_same _ hsends (by rw [hpoint]; rfl) (fun q hq => ?_)
    ⟨rfl, rfl, rfl, rfl, rfl, rfl, rfl⟩ rfl ⟨hknown, ?_, Or.inl ⟨?_, ?_, ?_⟩⟩
  · have hne : q ≠ p := fun heq => hq (heq ▸ rfl)
    simp [State.setData, State.store, hne]
  · simp [State.setData, State.store, State.event]
  · simpa [State.setData, State.store] using hlaunch
  · simpa [State.setData, State.store] using hperiod
  · simpa [State.setData, State.store, State.event] using hsource

omit [NsList] in
/-- `event->allocator = ARM_LIB_EVENT_USER`. -/
lemma allocator_step (h : c.Settled s) {l₁ l₂ : List Send} {send : Send} {p : Ptr}
    (hsends : c.sends = l₁ ++ [send] ++ l₂) (hpoint : send.point = .allocator p) :
    ({ machine := { c.machine with core := c.core.setAllocator p .user }
       sends := l₁ ++ [{ send with point := .write p }] ++ l₂ } : Threads).Settled s := by
  have hsound := h.sends send (by rw [hsends]; simp)
  rw [Send.Sound, hpoint] at hsound
  obtain ⟨hknown, ⟨hheap, hcore, hfree⟩, hdata⟩ := hsound
  refine h.of_send_same _ hsends (by rw [hpoint]; rfl) (fun q hq => ?_)
    ⟨rfl, rfl, rfl, rfl, rfl, rfl, rfl⟩ rfl ⟨hknown, ?_, Or.inr ⟨⟨hheap, hcore, hfree⟩, ?_⟩⟩
  · have hne : q ≠ p := fun heq => hq (heq ▸ rfl)
    simp [State.setAllocator, State.store, hne]
  · simpa [State.setAllocator, State.store, State.event] using hdata
  · simp [State.setAllocator, State.store, State.event]

/-- **The next step of a call that sends an event.** -/
theorem next_step (h : c.Settled s) (i : ℕ) {answer : Option Ptr}
    (hfresh : c.FreshAnswer answer) :
    ∃ c' seen, c.exec (.next i answer) = .ok (c', seen) ∧ Advances s c' seen := by
  cases hsend : c.sends[i]? with
  | none => exact ⟨c, .nothing, by simp only [exec, hsend], stay h⟩
  | some send =>
    obtain ⟨l₁, l₂, hsends, hset⟩ := exists_split_of_getElem? hsend
    cases hpoint : send.point with
    | lookup =>
      refine ⟨_, _, by simp only [exec, hsend, next, hpoint, advance, hset]; rfl, stay ?_⟩
      refine h.of_send_same _ hsends ?_ (fun _ _ => ⟨rfl, rfl⟩)
        ⟨rfl, rfl, rfl, rfl, rfl, rfl, rfl⟩ rfl ?_
      · rw [hpoint]
        split <;> rfl
      · by_cases hknown : (eventTaskletHandlerGet send.event.receiver c.core).isSome
        · rw [if_pos hknown]
          exact hknown
        · rw [if_neg hknown]
          trivial
    | get =>
      obtain ⟨core', eventTmp, hget, hstep⟩ := h.get_step hsends hpoint hfresh
      cases eventTmp <;>
        exact ⟨_, _, by simp only [exec, hsend, next, hpoint, advance, hset, hget, ok_bind], hstep⟩
    | fill p =>
      exact ⟨_, _, by simp only [exec, hsend, next, hpoint, advance, hset],
        stay (h.fill_step hsends hpoint)⟩
    | allocator p =>
      exact ⟨_, _, by simp only [exec, hsend, next, hpoint, advance, hset],
        stay (h.allocator_step hsends hpoint)⟩
    | write p =>
      exact ⟨_, _, by simp only [exec, hsend, next, hpoint, advance, hset],
        h.write_step hsends hpoint⟩
    | signal =>
      refine ⟨_, _, by simp only [exec, hsend, next, hpoint, advance, hset]; rfl, s, [], .nil, rfl,
        ?_⟩
      exact h.of_send_same _ hsends (by rw [hpoint]; rfl) (fun _ _ => ⟨rfl, rfl⟩)
        ⟨rfl, rfl, rfl, rfl, rfl, rfl, rfl⟩ rfl trivial
    | returned ret => exact ⟨c, .nothing, by simp only [exec, hsend, next, hpoint], stay h⟩

omit [NsList] in
/-- The settled state when a call is made. -/
lemma of_call (h : c.Settled s) {send : Send} {core' : State}
    (hmem : ∀ q, send.point.held ≠ some q →
      core'.mem q = c.core.mem q ∧ core'.heap q = c.core.heap q)
    (beside : Beside c.core core')
    (hnew : ∀ p, send.point.held = some p →
      p ∉ c.held ∧ p ∉ s.eventQueueActive ∧ p ∉ s.running)
    (hfree : core'.freeEventEntry = c.core.freeEventEntry)
    (hpool : ∀ p, send.point.held = some p → ¬ p.isEventPool) (hsound : send.Sound core' s) :
    ({ machine := { c.machine with core := core' }, sends := c.sends ++ [send] } : Threads).Settled
      s := by
  have hsends : c.sends = c.sends ++ [] ++ [] := by simp
  have hfilter : (heldBy (c.sends ++ [send] ++ [])).filter Ptr.isEventPool
      = c.held.filter Ptr.isEventPool := by
    rw [List.append_nil, heldBy_append, List.filter_append, heldBy_single]
    cases hsend : send.point.held with
    | none => exact List.append_nil _
    | some p => simp [hpool p hsend, held, heldBy]
  have hstep := h.of_send hsends (by simp [heldBy]) hmem beside
    (fun p hp => (List.append_nil c.sends).symm ▸ hnew p hp) ?_ hsound
  · simpa using hstep
  · rw [hfilter, hfree]
    exact h.free

omit [NsList] in
/-- `eventOS_event_send` is called. -/
lemma call_step (h : c.Settled s) (event : ArmEvent) :
    ({ c with sends := c.sends ++
      [{ event := event, userAllocated := false, point := .lookup }] } : Threads).Settled s :=
  h.of_call (fun _ _ => ⟨rfl, rfl⟩) ⟨rfl, rfl, rfl, rfl, rfl, rfl, rfl⟩ (fun _ hp => by cases hp)
    rfl (fun _ hp => by cases hp) trivial

omit [NsList] in
/-- `eventOS_event_send_user_allocated` is called. -/
lemma callUser_step (h : c.Settled s) {p : Ptr} {contents : SysTimerStruct}
    (valid : c.Valid (.sendUserAllocated p contents)) :
    ({ machine := { c.machine with core := c.core.store p contents }
       sends := c.sends ++ [{ event := contents.event.data, userAllocated := true
                              point := .allocator p }] } : Threads).Settled s := by
  obtain ⟨hheap, hcore, hqueue, hrunning, hheld, hreceiver⟩ := valid
  have hidle : p ∉ s.running := h.running_eq ▸ hrunning
  have hfree := (h.heap_eq (h.visible hheld hidle)).trans hcore
  refine h.of_call (fun q hq => ?_) ⟨rfl, rfl, rfl, rfl, rfl, rfl, rfl⟩ (fun q hq => ?_) rfl
    (fun q hq => ?_) ⟨hreceiver, ⟨hheap, hcore, hfree⟩, ?_⟩
  · have hne : q ≠ p := fun heq => hq (heq ▸ rfl)
    simp [State.store, hne]
  · obtain rfl : p = q := Option.some.inj hq
    exact ⟨hheld, h.queue_eq ▸ hqueue, hidle⟩
  · obtain rfl : p = q := Option.some.inj hq
    obtain ⟨a, rfl⟩ := hheap
    simp [Ptr.isEventPool]
  · simp [State.store, State.event]

/-- **Every valid step outside the window runs into no undefined behaviour**, and does to the
sequential event loop what moves of the life cycle do. -/
theorem step (h : c.Settled s) {op : ThreadOp} (valid : c.Valid op) (calm : ¬ c.InWindow op) :
    ∃ c' seen, c.exec op = .ok (c', seen) ∧ Advances s c' seen := by
  cases op with
  | main =>
    obtain ⟨c', hexec, hadvances⟩ := h.main_step
    exact ⟨c', _, hexec, hadvances⟩
  | locked op =>
    obtain ⟨c', seen, hexec, hadvances, -⟩ := h.locked valid calm
    exact ⟨c', seen, hexec, hadvances⟩
  | send event => exact ⟨_, _, rfl, stay (h.call_step event)⟩
  | sendUserAllocated p contents => exact ⟨_, _, rfl, stay (h.callUser_step valid)⟩
  | next i answer => exact h.next_step i valid

end

end Threads.Settled

end EventLoop
