import EventLoop.EventCoreTheorems

/-!
# Storages that hold an event

A storage is pending while its event is queued, waits for its time, or runs. A move makes at most
the storage that it moves pending, or not pending any more; and only a dispatch and the return of a
handler change which handlers run.
-/

namespace EventLoop

open Lib

/-- A storage whose event is queued, waits for its time, or runs. -/
def Pending (s : State) (p : Ptr) : Prop :=
  p ∈ s.eventQueueActive ∨ p ∈ s.systemTimerList ∨ p ∈ s.running

/-- A pending timer event may be cancelled. -/
lemma Pending.validEvent {s : State} {p : Ptr} (hpending : Pending s p)
    (hclass : s.classOf p = .timer) : ValidEvent s p := by
  rcases hpending with hq | hl | hr
  · exact Or.inl hq
  · exact Or.inr (Or.inl hl)
  · exact Or.inr (Or.inr ⟨hr, by simp [hclass]⟩)

/-! ## What is pending after a move -/

/-- A storage that leaves a busy place was pending. -/
lemma Row.pending {s : State} {p : Ptr} {A B : Place} {v : SysTimerStruct}
    {h : Option HeapObject} (row : Row s p A B v h) (hA : A.Busy) : Pending s p := by
  cases row <;> simp_all [Pending, Place.Busy]

/-- What is pending after a move was pending before, except for what moved. -/
lemma pending_of_move {s : State} {p q : Ptr} {A B : Place} {v : SysTimerStruct}
    {h : Option HeapObject} (hq : Pending (s.move p A B v h) q) (hne : q ≠ p) : Pending s q := by
  have herase : ∀ {l : List Ptr} {c : Prop} [Decidable c],
      q ∈ (if c then l.erase p else l) → q ∈ l := by
    intro l c _ hmem
    split at hmem
    · exact List.mem_of_mem_erase hmem
    · exact hmem
  rcases hq with hq | hq | hq
  · rw [State.move_queue] at hq
    split at hq
    · rcases List.mem_orderedInsert _ |>.mp hq with hqp | hq
      · exact absurd hqp hne
      · exact Or.inl (herase hq)
    · exact Or.inl (herase hq)
  · rw [State.move_timerList] at hq
    split at hq
    · rcases List.mem_orderedInsert _ |>.mp hq with hqp | hq
      · exact absurd hqp hne
      · exact Or.inr (Or.inl (herase hq))
    · exact Or.inr (Or.inl (herase hq))
  · rw [State.move_running] at hq
    rcases List.mem_append.mp hq with hqp | hq
    · split at hqp <;> simp_all
    · exact Or.inr (Or.inr (herase hq))

lemma pending_move_of_ne {s : State} {p q : Ptr} {A B : Place} {v : SysTimerStruct}
    {h : Option HeapObject} (hne : q ≠ p) : Pending (s.move p A B v h) q ↔ Pending s q := by
  refine ⟨fun hq => pending_of_move hq hne, ?_⟩
  have herase : ∀ {l : List Ptr} {c : Prop} [Decidable c],
      q ∈ l → q ∈ (if c then l.erase p else l) := by
    intro l c _ hmem
    split
    · exact (List.mem_erase_of_ne hne).mpr hmem
    · exact hmem
  rintro (hq | hq | hq)
  · refine Or.inl ?_
    rw [State.move_queue]
    split
    · exact (List.mem_orderedInsert _).mpr (Or.inr (herase hq))
    · exact herase hq
  · refine Or.inr (Or.inl ?_)
    rw [State.move_timerList]
    split
    · exact (List.mem_orderedInsert _).mpr (Or.inr (herase hq))
    · exact herase hq
  · refine Or.inr (Or.inr ?_)
    rw [State.move_running]
    exact List.mem_append_right _ (herase hq)

lemma pending_move_busy {s : State} {p : Ptr} {A B : Place} {v : SysTimerStruct}
    {h : Option HeapObject} (hB : B.Busy) : Pending (s.move p A B v h) p := by
  cases B with
  | queue => exact Or.inl (by simp [State.move_queue])
  | timerList => exact Or.inr (Or.inl (by simp [State.move_timerList]))
  | running => exact Or.inr (Or.inr (by simp [State.move_running]))
  | _ => exact hB.elim

lemma Still.pending {s s' : State} (still : Still s s') {p : Ptr} :
    Pending s' p ↔ Pending s p := by
  have hqueue : s'.eventQueueActive = s.eventQueueActive := still.place .queue
  have hlist : s'.systemTimerList = s.systemTimerList := still.place .timerList
  rw [Pending, Pending, hqueue, hlist, still.running]

/-- A storage of the event loop in a place where it is not pending. -/
lemma Owned.not_pending {s : State} (own : Owned s) {p : Ptr} {A : Place} (hA : ¬ A.Busy)
    (hp : p ∈ s.at_ A) (hclass : s.classOf p ≠ .foreign) : ¬ Pending s p := by
  rintro (hq | hq | hq)
  · obtain rfl := own.place_unique (A := .queue) hq hp
    exact hA trivial
  · obtain rfl := own.place_unique (A := .timerList) hq hp
    exact hA trivial
  · have hrun : p ∈ s.at_ .running := by simp [State.at_, hq, hclass]
    obtain rfl := own.place_unique hrun hp
    exact hA trivial

lemma Fresh.not_pending {s : State} (own : Owned s) {p : Ptr} (fresh : Fresh s p) :
    ¬ Pending s p := by
  rintro (hq | hq | hq)
  · exact fresh.notQueued hq
  · exact (List.count_pos_iff.mpr hq).ne' (fresh.count_eq_zero own .timerList)
  · exact fresh.notRunning hq

/-- A storage that comes from elsewhere was not pending, unless it is user-allocated. -/
lemma Row.not_pending {s : State} (own : Owned s) {p : Ptr} {A B : Place} {v : SysTimerStruct}
    {h : Option HeapObject} (row : Row s p A B v h) (hA : ¬ A.Busy)
    (hclass : s.classOf p = .timer) : ¬ Pending s p := by
  cases row with
  | sendPool data hp => exact own.not_pending (A := .free) hA hp (by simp [hclass])
  | sendDynamic data fresh | grow v fresh => exact fresh.not_pending own
  | sendUser v isHeap hheap =>
    obtain ⟨a, rfl⟩ := isHeap
    simp [State.classOf, hheap] at hclass
  | fire v hp | arm v hp => exact own.not_pending (A := .timerFree) hA hp (by simp [hclass])
  | _ => exact absurd trivial hA

/-- A block that is allocated for a timer is not pending. -/
lemma Row.not_pending_after {s : State} (own : Owned s) {p : Ptr} {A B : Place}
    {v : SysTimerStruct} {h : Option HeapObject} (row : Row s p A B v h) (hA : ¬ A.Busy)
    (hB : ¬ B.Busy) : ¬ Pending (s.move p A B v h) p := by
  cases row with
  | grow v fresh =>
    have hpending := fresh.not_pending own
    simpa [Pending, State.move_queue, State.move_timerList, State.move_running] using hpending
  | sendPool | sendDynamic | sendUser | fire | arm => exact absurd trivial hB
  | _ => exact absurd trivial hA

/-- A storage that stays pending keeps its contents and its block. -/
lemma Row.busy_eq {s : State} {p : Ptr} {A B : Place} {v : SysTimerStruct} {h : Option HeapObject}
    (row : Row s p A B v h) (hA : A.Busy) (hB : B.Busy) :
    v.event.data = (s.event p).data ∧ v.period = (s.mem p).period ∧ h = s.heap p := by
  cases row <;> first | exact ⟨rfl, rfl, rfl⟩ | exact hA.elim | exact hB.elim

/-- A move of an event storage does not change which blocks are timeouts. -/
lemma Row.timeout_iff {s : State} {p : Ptr} {A B : Place} {v : SysTimerStruct}
    {h : Option HeapObject} (row : Row s p A B v h) :
    h = some .timeout ↔ s.heap p = some .timeout := by
  cases row with
  | sendDynamic data fresh | grow v fresh => simp [fresh.free]
  | sendUser v isHeap hheap => simp [hheap]
  | finishDynamic hp hclass | cancelDynamic hp hclass => simp [State.heap_of_dynamic hclass]
  | _ => rfl

/-! ## Timers that are requested -/

/-- A request that is granted fills one free timer. -/
lemma requested_fill {s s' : State} {event : ArmEvent} {at_ period : BitVec 32}
    {answer : Option Ptr} {p : Ptr} {acts : List Act}
    (h : Requested s event at_ period answer (some p) acts) (run : Run Move s acts s') :
    ∃ u B, B.Busy ∧ Run Move s (growActs s p (requested event at_ period B)) u ∧
      Move u (.relocate p .timerFree B (requested event at_ period B)) s' := by
  cases h with
  | fire =>
    obtain ⟨u, hgrow, hfill⟩ := run.split
    simp only [Run.cons_iff, Run.nil_iff] at hfill
    obtain ⟨v, hfill, rfl⟩ := hfill
    exact ⟨u, .queue, trivial, hgrow, hfill⟩
  | arm =>
    obtain ⟨u, hgrow, hfill⟩ := run.split
    simp only [Run.cons_iff, Run.nil_iff] at hfill
    obtain ⟨v, hfill, rfl⟩ := hfill
    exact ⟨u, .timerList, trivial, hgrow, hfill⟩

/-- A free timer that is filled. -/
lemma fill_spec {s s' : State} (own : Owned s) {p : Ptr} {B : Place} {v : SysTimerStruct}
    (hB : B.Busy) (move : Move s (.relocate p .timerFree B v) s') :
    ¬ Pending s p ∧ Pending s' p ∧ s'.mem p = v ∧ s'.classOf p = .timer ∧
      ∀ t, s'.heap t = s.heap t := by
  cases move with
  | @relocate _ _ _ _ h row =>
    have hmem : p ∈ s.at_ .timerFree := by cases row <;> assumption
    have hheap : h = s.heap p := by cases row <;> rfl
    subst hheap
    have hclass : s.classOf p = .timer := own.admits .timerFree p hmem
    refine ⟨own.not_pending (A := .timerFree) id hmem (by simp [hclass]), pending_move_busy hB,
      by simp, (State.move_classOf_same ..).trans hclass, by simp⟩

/-- A timer that has to be allocated was not pending before. -/
lemma grow_not_pending {s u : State} (own : Owned s) {p : Ptr} {v : SysTimerStruct}
    (run : Run Move s (growActs s p v) u) (hp : ¬ Pending u p) : ¬ Pending s p := by
  unfold growActs at run
  split at run
  · obtain rfl := Run.nil_iff.mp run
    exact hp
  · simp only [Run.cons_iff, Run.nil_iff] at run
    obtain ⟨t, move, rfl⟩ := run
    cases move with
    | relocate row =>
      cases row with
      | grow v fresh => exact fresh.not_pending own

/-! ## The handlers in progress -/

/-- Moves that start and end no handler. -/
def Act.Unstacked : Act → Prop
  | .relocate _ A B _ => A ≠ .running ∧ B ≠ .running
  | _ => True

lemma Move.running {s s' : State} {act : Act} (move : Move s act s') (hact : act.Unstacked) :
    s'.running = s.running := by
  cases move with
  | relocate row => rw [State.move_running, if_neg hact.1, if_neg hact.2, List.nil_append]
  | _ => rfl

lemma running_of_run {s s' : State} {acts : List Act} (run : Run Move s acts s')
    (hacts : ∀ act ∈ acts, act.Unstacked) : s'.running = s.running := by
  refine run.invariant_on (I := fun t => t.running = s.running) rfl hacts
    fun t act u hsame hact move => ?_
  rw [move.running hact, hsame]

lemma cancelActs_unstacked (s : State) (p : Ptr) : ∀ act ∈ cancelActs s p, act.Unstacked := by
  refine cancelActs_forall (fun A B v hA hB => ⟨?_, ?_⟩) trivial
  · rcases hA with rfl | rfl <;> decide
  · rintro rfl
    exact hB trivial

/-- Only a dispatch starts a handler, and only the return of a handler ends one. -/
lemma Effect.running {s s' : State} {op : Op} {r : Ret} {acts : List Act}
    (heffect : Effect s op r acts) (run : Run Move s acts s') (hdispatch : op ≠ .dispatch)
    (hreturn : op ≠ .handlerReturn) : s'.running = s.running := by
  have hacts : ∀ act ∈ acts, act.Unstacked := by
    have hrequest : ∀ {event at_ period answer r acts},
        Requested s event at_ period answer r acts → ∀ act ∈ acts, act.Unstacked := by
      intro event at_ period answer r acts h
      refine h.forall_acts (by simp [Act.Unstacked]) fun _ p B hB => ?_
      rcases hB with rfl | rfl <;> simp [Act.Unstacked]
    cases heffect with
    | requestAt h | requestIn h | request h => exact hrequest h
    | requestEvery _ h => exact hrequest h
    | timerCancel | cancel => exact cancelActs_unstacked s _
    | tickUpdate | synchAfterSleep =>
      exact List.forall_mem_cons.mpr ⟨trivial, expireActs_forall (by simp [Act.Unstacked])⟩
    | handlerCreate hfun hsource | send hreceiver hsource =>
      have hsrc := eventSource_place hsource (B := .running) trivial
      simp [Act.Unstacked, hsrc]
    | dispatch | dispatchIdle => exact absurd rfl hdispatch
    | handlerReturn => exact absurd rfl hreturn
    | _ => simp [Act.Unstacked]
  exact running_of_run run hacts

end EventLoop
