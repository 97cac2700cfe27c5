import EventLoop.Pending
import EventLoop.Periodic
import EventLoop.QueueRefinement

/-!
# Timers are handed over in the order of their launch times

A timer that stands before another one on the timer list is sent before it, because a tick update
sends from the front; and it stays before it in the event queue, if its priority is not lower. So
of two timers the one with the earlier launch time, and among equals the one that was requested
first, comes to its handler first.
-/

namespace EventLoop

open Lib

/-! ## Standing behind a timer -/

/-- `q` comes after `p`, on the timer list, in the queue, or still on the list while `p` is sent. -/
inductive Behind (s : State) (p q : Ptr) : Prop
  | waiting (h : [p, q].Sublist s.systemTimerList)
  | sent (hp : p ∈ s.eventQueueActive) (hq : q ∈ s.systemTimerList)
  | queued (h : [p, q].Sublist s.eventQueueActive)

/-- Two timers of which the second comes after the first, and has no higher priority. -/
structure InLine (s : State) (p q : Ptr) : Prop where
  behind : Behind s p q
  first : s.classOf p = .timer
  second : s.classOf q = .timer
  priority : s.priority p ≤ s.priority q

/-- The queue is ordered by priority. -/
def State.Sorted (s : State) : Prop :=
  s.eventQueueActive.Pairwise fun a b => s.priority a ≤ s.priority b

/-- The move leaves `p` and `q` in line: it does not take the first to its handler, and neither
back to the free timers. -/
def Act.KeepsLine (p q : Ptr) : Act → Prop
  | .relocate r A B _ =>
    (r = p → A = .timerList ∨ A = .queue → B = .queue) ∧
      (r = q → A = .timerList ∨ A = .queue → B = .queue ∨ B = .running)
  | _ => True

section

variable {s s' : State} {p q : Ptr} {act : Act} {acts : List Act}

lemma Represents.sorted {q : StableQueue.Queue Ptr ArmEvent} (rep : Represents s q) : s.Sorted := by
  obtain ⟨es, impl, hkeys, hes⟩ := rep
  have hpriority : ∀ e ∈ es, s.priority e.key = e.data.rank := by
    intro e he
    rw [State.priority, ← hes e he]
    rfl
  rw [State.Sorted, ← hkeys, List.pairwise_map]
  refine impl.ordered.imp_of_mem fun {a b} ha hb hab => ?_
  rw [hpriority a ha, hpriority b hb]
  exact hab.elim le_of_lt fun h => h.1.le

/-- A timer that is pending moves from where it is. -/
lemma Row.source_eq (own : Owned s) {A B C : Place} {v : SysTimerStruct} {h : Option HeapObject}
    (row : Row s p A B v h) (hclass : s.classOf p = .timer) (hC : C.Busy) (hp : p ∈ s.at_ C) :
    A = C := by
  have hpending : Pending s p := by
    cases C with
    | queue => exact Or.inl hp
    | timerList => exact Or.inr (Or.inl hp)
    | running => exact Or.inr (Or.inr (List.mem_of_mem_filter hp))
    | _ => exact hC.elim
  have hA : A.Busy := by
    by_contra hA
    exact row.not_pending own hA hclass hpending
  have hmem : p ∈ s.at_ A := by
    cases row <;> simp_all [State.at_, Place.Busy]
  exact own.place_unique hmem hp

/-- A storage that stays with the event loop keeps its priority. -/
lemma Row.priority_eq {A B : Place} {v : SysTimerStruct} {h : Option HeapObject}
    (row : Row s p A B v h) (hA : A.Busy) (r : Ptr) :
    (s.move p A B v h).priority r = s.priority r := by
  by_cases hr : r = p
  · subst hr
    rw [State.priority, State.move_event_self, row.data_eq hA, State.priority]
  · rw [State.priority, State.move_event_of_ne _ hr, State.priority]

namespace InLine

/-- A line does not change with what has nothing to do with it. -/
lemma congr (line : InLine s p q) (hbehind : Behind s p q → Behind s' p q)
    (hclass : ∀ r, r = p ∨ r = q → s'.classOf r = s.classOf r)
    (hpriority : ∀ r, r = p ∨ r = q → s'.priority r = s.priority r) : InLine s' p q where
  behind := hbehind line.behind
  first := (hclass p (Or.inl rfl)).trans line.first
  second := (hclass q (Or.inr rfl)).trans line.second
  priority := by
    rw [hpriority p (Or.inl rfl), hpriority q (Or.inr rfl)]
    exact line.priority

lemma places (line : InLine s p q) {r : Ptr} (hr : r = p ∨ r = q) :
    r ∈ s.eventQueueActive ∨ r ∈ s.systemTimerList := by
  cases line.behind with
  | waiting h => exact Or.inr (h.subset (by rcases hr with rfl | rfl <;> simp))
  | sent hp hq =>
    rcases hr with rfl | rfl
    · exact Or.inl hp
    · exact Or.inr hq
  | queued h => exact Or.inl (h.subset (by rcases hr with rfl | rfl <;> simp))

/-- A step that relocates no storage. -/
lemma of_still (line : InLine s p q) (still : Still s s')
    (hdata : ∀ r, r = p ∨ r = q → (s'.event r).data = (s.event r).data) : InLine s' p q := by
  refine line.congr (fun hbehind => ?_) (fun r _ => still.classOf r) fun r hr => ?_
  · have hqueue : s'.eventQueueActive = s.eventQueueActive := still.place .queue
    have hlist : s'.systemTimerList = s.systemTimerList := still.place .timerList
    cases hbehind with
    | waiting h => exact .waiting (hlist ▸ h)
    | sent h h' => exact .sent (hqueue ▸ h) (hlist ▸ h')
    | queued h => exact .queued (hqueue ▸ h)
  · rw [State.priority, hdata r hr, State.priority]

/-- Another storage moves. -/
lemma move_other (line : InLine s p q) {r : Ptr} {A B : Place} {v : SysTimerStruct}
    {h : Option HeapObject} (hp : p ≠ r) (hq : q ≠ r) : InLine (s.move r A B v h) p q := by
  have hsublist : ∀ {l : List Ptr}, [p, q].Sublist l → [p, q].Sublist (l.erase r) := by
    intro l hl
    have herase := hl.erase r
    rwa [List.erase_of_not_mem (by simp [hp.symm, hq.symm])] at herase
  have hpair : ∀ C, [p, q].Sublist (s.at_ C) → C = .queue ∨ C = .timerList →
      [p, q].Sublist ((s.move r A B v h).at_ C) := by
    rintro C hC (rfl | rfl)
    · show [p, q].Sublist (s.move r A B v h).eventQueueActive
      rw [State.move_queue]
      split_ifs
      · exact (hsublist hC).trans (List.sublist_orderedInsert ..)
      · exact List.Sublist.trans hC (List.sublist_orderedInsert ..)
      · exact hsublist hC
      · exact hC
    · show [p, q].Sublist (s.move r A B v h).systemTimerList
      rw [State.move_timerList]
      split_ifs
      · exact (hsublist hC).trans (List.sublist_orderedInsert ..)
      · exact List.Sublist.trans hC (List.sublist_orderedInsert ..)
      · exact hsublist hC
      · exact hC
  refine line.congr (fun hbehind => ?_) (fun t ht => ?_) fun t ht => ?_
  · cases hbehind with
    | waiting h => exact .waiting (hpair .timerList h (Or.inr rfl))
    | sent h h' =>
      exact .sent ((s.move_mem_at_of_ne A B v _ hp .queue).mpr h)
        ((s.move_mem_at_of_ne A B v _ hq .timerList).mpr h')
    | queued h => exact .queued (hpair .queue h (Or.inl rfl))
  · rcases ht with rfl | rfl
    · exact s.move_classOf_of_ne hp A B v h
    · exact s.move_classOf_of_ne hq A B v h
  · rcases ht with rfl | rfl
    · rw [State.priority, State.move_event_of_ne _ hp, State.priority]
    · rw [State.priority, State.move_event_of_ne _ hq, State.priority]

/-- The first timer moves: it is sent. -/
lemma move_first (own : Owned s) (line : InLine s p q) (hne : q ≠ p) {A B : Place}
    {v : SysTimerStruct} {h : Option HeapObject} (row : Row s p A B v h)
    (hact : A = .timerList ∨ A = .queue → B = .queue) : InLine (s.move p A B v h) p q := by
  have hqueued : p ∉ s.eventQueueActive := by
    intro hp
    obtain rfl := row.source_eq own line.first (C := .queue) trivial hp
    obtain rfl := hact (Or.inr rfl)
    exact row.queue_ne rfl
  obtain ⟨hp, hq⟩ : p ∈ s.systemTimerList ∧ q ∈ s.systemTimerList := by
    cases line.behind with
    | waiting h => exact ⟨h.subset (by simp), h.subset (by simp)⟩
    | sent hp => exact absurd hp hqueued
    | queued h => exact absurd (h.subset (by simp)) hqueued
  obtain rfl := row.source_eq own line.first (C := .timerList) trivial hp
  obtain rfl := hact (Or.inl rfl)
  obtain ⟨-, -, rfl⟩ := row.busy_eq trivial trivial
  refine line.congr (fun _ => .sent ?_ ?_) (fun r _ => s.move_classOf_same p r .timerList .queue v)
    fun r _ => row.priority_eq trivial r
  · simp [State.move_queue]
  · exact (s.move_mem_at_of_ne _ _ _ _ hne .timerList).mpr hq

/-- The second timer moves: it is sent when the first one has been. -/
lemma move_second (own : Owned s) (sorted : s.Sorted) (line : InLine s p q) {A B : Place}
    {v : SysTimerStruct} {h : Option HeapObject} (row : Row s q A B v h)
    (hact : A = .timerList ∨ A = .queue → B = .queue ∨ B = .running) :
    InLine (s.move q A B v h) p q := by
  cases line.behind with
  | queued hpair =>
    -- the first of the queue is not the second of two
    obtain rfl := row.source_eq own line.second (C := .queue) trivial (hpair.subset (by simp))
    rcases hact (Or.inr rfl) with rfl | rfl
    · exact absurd rfl row.queue_ne
    · obtain ⟨rest, hrest⟩ := List.head?_eq_some_iff.mp row.deliver_head
      have hnodup : s.eventQueueActive.Nodup := own.nodup .queue
      rw [hrest] at hpair hnodup
      exact absurd rfl (head_ne_of_pair_sublist hnodup hpair)
  | waiting hpair =>
    obtain rfl := row.source_eq own line.second (C := .timerList) trivial (hpair.subset (by simp))
    rcases hact (Or.inl rfl) with rfl | rfl
    · cases row with
      | expire hlist =>
        have hnodup : s.systemTimerList.Nodup := own.nodup .timerList
        rw [hlist] at hpair hnodup
        exact absurd rfl (head_ne_of_pair_sublist hnodup hpair)
    · cases row
  | sent hp hq =>
    obtain rfl := row.source_eq own line.second (C := .timerList) trivial hq
    rcases hact (Or.inl rfl) with rfl | rfl
    · obtain ⟨-, -, rfl⟩ := row.busy_eq trivial trivial
      refine line.congr (fun _ => .queued ?_)
        (fun r _ => s.move_classOf_same q r .timerList .queue v)
        fun r _ => row.priority_eq trivial r
      have hpriority : ∀ r, (s.store q v).priority r = s.priority r := by
        intro r
        rw [← row.priority_eq trivial r]
        simp [State.priority, State.event, State.store]
      rw [State.move_queue, if_pos rfl, if_neg (by decide)]
      simp only [hpriority]
      exact pair_sublist_orderedInsert sorted hp line.priority
    · cases row

lemma ne (own : Owned s) (line : InLine s p q) : p ≠ q := by
  rintro rfl
  cases line.behind with
  | waiting h => exact List.nodup_iff_sublist.mp (own.nodup .timerList) p h
  | sent h h' => cases own.place_unique (A := .queue) (B := .timerList) h h'
  | queued h => exact List.nodup_iff_sublist.mp (own.nodup .queue) p h

/-- **A move keeps two timers in line**, unless it takes one of them away. -/
theorem move (own : Owned s) (sorted : s.Sorted) (line : InLine s p q) (move : Move s act s')
    (hact : act.KeepsLine p q) : InLine s' p q := by
  cases move with
  | @relocate r A B v h row =>
    by_cases hp : r = p
    · subst hp
      exact line.move_first own (line.ne own).symm row (hact.1 rfl)
    by_cases hq : r = q
    · subst hq
      exact line.move_second own sorted row (hact.2 rfl)
    · exact line.move_other (Ne.symm hp) (Ne.symm hq)
  | clock ticks => exact line.of_still (Move.still (.clock ticks) (by simp)) fun _ _ => rfl
  | register tasklet fresh hid hfun =>
    exact line.of_still (Move.still (.register tasklet fresh hid hfun) (by simp)) fun _ _ => rfl
  | @unperiod r hr hclass =>
    refine line.of_still (Move.still (.unperiod hr hclass) (by simp)) fun t _ => ?_
    rw [State.setPeriod_event]
  | @write r rest data hr hqueue =>
    refine line.of_still (Move.still (.write data hr hqueue) (by simp)) fun t ht => ?_
    -- a handler writes to its own event, which is not pending elsewhere
    have hne : t ≠ r := by
      rintro rfl
      rcases line.places ht with hq | hl
      · exact hqueue hq
      · have hclass : s.classOf t = .timer := own.admits .timerList t hl
        have hrunning : t ∈ s.at_ .running := by simp [State.at_, hr, hclass]
        cases own.place_unique (A := .timerList) hl hrunning
    simp [State.setData, State.store, State.event, hne]
  | active tasklet => exact line.of_still (Move.still (.active tasklet) (by simp)) fun _ _ => rfl
  | clientAlloc fresh =>
    exact line.of_still (Move.still (.clientAlloc fresh) (by simp)) fun _ _ => rfl
  | clientFree hblock =>
    exact line.of_still (Move.still (.clientFree hblock) (by simp)) fun _ _ => rfl

/-- A run of moves keeps two timers in line. -/
lemma run (own : Owned s) {queue : StableQueue.Queue Ptr ArmEvent} (rep : Represents s queue)
    (line : InLine s p q) (run : Run Move s acts s') (hacts : ∀ act ∈ acts, act.KeepsLine p q) :
    InLine s' p q := by
  have hstep : (∃ queue, Represents s' queue) ∧ InLine s' p q := by
    refine own.run_on (I := fun t => (∃ queue, Represents t queue) ∧ InLine t p q) ?_
      ⟨⟨queue, rep⟩, line⟩ run hacts
    rintro t act u own ⟨⟨queue, rep⟩, line⟩ hact move
    obtain ⟨queue', -, rep'⟩ := rep.move own move
    exact ⟨⟨queue', rep'⟩, line.move own rep.sorted move hact⟩
  exact hstep.2

/-- The second of two timers is not the first of the queue. -/
lemma not_head (own : Owned s) (line : InLine s p q) {rest : List Ptr} :
    s.eventQueueActive ≠ q :: rest := by
  intro hqueue
  cases line.behind with
  | waiting h =>
    cases own.place_unique (A := .timerList) (B := .queue) (p := q) (h.subset (by simp))
      (by simp [State.at_, hqueue])
  | sent _ hq =>
    cases own.place_unique (A := .timerList) (B := .queue) hq (by simp [State.at_, hqueue])
  | queued h =>
    have hnodup : s.eventQueueActive.Nodup := own.nodup .queue
    rw [hqueue] at h hnodup
    exact head_ne_of_pair_sublist hnodup h rfl

end InLine

/-! ## Operations -/

lemma Requested.keepsLine {event : ArmEvent} {at_ period : BitVec 32} {answer r : Option Ptr}
    (h : Requested s event at_ period answer r acts) : ∀ act ∈ acts, act.KeepsLine p q :=
  h.forall_acts (by simp [Act.KeepsLine]) fun _ _ _ _ => by simp [Act.KeepsLine]

lemma cancelActs_keepsLine {r : Ptr} (hp : r ≠ p) (hq : r ≠ q) :
    ∀ act ∈ cancelActs s r, act.KeepsLine p q :=
  cancelActs_forall (fun _ _ _ _ _ => ⟨fun h => absurd h hp, fun h => absurd h hq⟩) trivial

/-- The moves of an operation that cancels neither timer and does not hand over the first. -/
lemma Effect.keepsLine {op : Op} {r : Ret} (heffect : Effect s op r acts) (hp : ¬ Cancels s p op)
    (hq : ¬ Cancels s q op) (hcall : r.called? ≠ some p) : ∀ act ∈ acts, act.KeepsLine p q := by
  cases heffect with
  | handlerCreate hfun hsource | send hreceiver hsource =>
    have hlist := eventSource_place hsource (B := .timerList) trivial
    have hqueue := eventSource_place hsource (B := .queue) trivial
    simp [Act.KeepsLine, hlist, hqueue]
  | requestAt h | requestIn h | request h => exact h.keepsLine
  | requestEvery _ h => exact h.keepsLine
  | timerCancel htarget =>
    refine cancelActs_keepsLine ?_ ?_
    · rintro rfl
      exact hp htarget
    · rintro rfl
      exact hq htarget
  | cancel r =>
    refine cancelActs_keepsLine ?_ ?_
    · rintro rfl
      exact hp rfl
    · rintro rfl
      exact hq rfl
  | tickUpdate | synchAfterSleep =>
    refine List.forall_mem_cons.mpr ⟨trivial, expireActs_forall fun _ _ => ?_⟩
    simp [Act.KeepsLine]
  | dispatch hqueue htasklet =>
    rename_i r rest tasklet
    have hne : r ≠ p := fun h => hcall (congrArg some h)
    simp [Act.KeepsLine, hne]
  | @handlerReturn r rest hrun =>
    obtain ⟨B, v, hfinish⟩ := finishAct_relocates s r
    simp [hfinish, Act.KeepsLine]
  | _ => simp [Act.KeepsLine]

section

variable [NsList]

/-- A step that cancels neither of two timers. -/
def LineStep (p q : Ptr) (s : State) (label : Op × Ret) (s' : State) : Prop :=
  Step s label s' ∧ ¬ Cancels s p label.1 ∧ ¬ Cancels s q label.1

/-- **One step** hands over the first of two timers, or keeps them in line. -/
lemma InLine.step {label : Op × Ret} (own : Owned s) {queue : StableQueue.Queue Ptr ArmEvent}
    (rep : Represents s queue) (line : InLine s p q) (step : LineStep p q s label s') :
    label.2.called? = some p ∨ InLine s' p q ∧ label.2.called? ≠ some q := by
  obtain ⟨step, hp, hq⟩ := step
  obtain ⟨acts, heffect, hrun⟩ := Step.effect own step
  by_cases hcall : label.2.called? = some p
  · exact Or.inl hcall
  · refine Or.inr ⟨line.run own rep hrun (heffect.keepsLine hp hq hcall), fun hsecond => ?_⟩
    generalize label.1 = op at heffect
    generalize label.2 = r at heffect hsecond
    cases heffect with
    | dispatch hqueue htasklet =>
      obtain rfl := Option.some.inj hsecond
      exact line.not_head own hqueue
    | _ => cases hsecond

/-- Two timers stay in line until the first is handed over. -/
lemma InLine.run_steps {l : List (Op × Ret)} (own : Owned s)
    {queue : StableQueue.Queue Ptr ArmEvent} (rep : Represents s queue) (line : InLine s p q)
    (run : Run (LineStep p q) s l s') :
    (∃ label ∈ l, label.2.called? = some p) ∨
      (∃ queue, Represents s' queue) ∧ Owned s' ∧ InLine s' p q := by
  induction run with
  | nil => exact Or.inr ⟨⟨queue, rep⟩, own, line⟩
  | @snoc l t u label run last ih =>
    rcases ih with ⟨label', hmem, hcall⟩ | ⟨⟨queue, rep⟩, own, line⟩
    · exact Or.inl ⟨label', List.mem_append_left _ hmem, hcall⟩
    · rcases line.step own rep last with hcall | ⟨line', -⟩
      · exact Or.inl ⟨label, by simp, hcall⟩
      · obtain ⟨acts, -, hrun⟩ := Step.effect own last.1
        obtain ⟨queue', -, rep'⟩ := rep.run own hrun
        exact Or.inr ⟨⟨queue', rep'⟩, own.run hrun, line'⟩

/-- **Timers come to their handlers in the order of their launch times.** Of two timers that wait,
the one with fewer ticks left, or as many and requested earlier, is handed over before the other
one, unless its priority is lower or one of the two is cancelled: in every run from there, whatever
else happens in it, a call of the second's handler comes after one of the first's. -/
theorem handed_over_in_order {s₀ s : State} {l₀ l l₁ l₂ : List (Op × Ret)} {h : TimerHistory}
    (init : Initial s₀) (before : Run TimerStep (.start s₀) l₀ h)
    (hp : p ∈ h.state.systemTimerList) (hq : q ∈ h.state.systemTimerList)
    (hlaunch : StableBefore h.state.remaining h.inserted p q)
    (hpriority : h.state.priority p ≤ h.state.priority q) (run : Run (LineStep p q) h.state l s)
    {label : Op × Ret} (hl : l = l₁ ++ label :: l₂) (hcall : label.2.called? = some q) :
    ∃ label' ∈ l₁, label'.2.called? = some p := by
  obtain ⟨own, ordered⟩ := TimerHistory.ordered_of_run init before
  obtain ⟨-, queue, rep⟩ := before.invariant
    (I := fun h => Owned h.state ∧ ∃ queue, Represents h.state queue)
    ⟨init.owned, _, init.represents⟩ fun t label u ⟨own, queue, rep⟩ step => by
      obtain ⟨acts, -, hrun⟩ := Step.effect own step.1
      obtain ⟨queue', -, rep'⟩ := rep.run own hrun
      exact ⟨own.run hrun, queue', rep'⟩
  have hne : p ≠ q := by
    rintro rfl
    rcases hlaunch with hlt | ⟨-, hlt⟩ <;> exact lt_irrefl _ hlt
  have hafter : ¬ StableBefore h.state.remaining h.inserted q p := by
    rintro (hlt | ⟨heq, hlt⟩) <;> rcases hlaunch with hlt' | ⟨heq', hlt'⟩ <;> omega
  have line : InLine h.state p q :=
    ⟨.waiting (pair_sublist_of_pairwise ordered.sorted hp hq hne hafter),
      own.admits .timerList p hp, own.admits .timerList q hq, hpriority⟩
  subst hl
  obtain ⟨t, run₁, run₂⟩ := run.split
  obtain ⟨u, hstep, -⟩ := Run.cons_iff.mp run₂
  rcases line.run_steps own rep run₁ with hfirst | ⟨⟨queue', rep'⟩, own', line'⟩
  · exact hfirst
  · rcases line'.step own' rep' hstep with hcall' | ⟨-, hcall'⟩
    · exact absurd (Option.some.inj (hcall'.symm.trans hcall)) hne
    · exact absurd hcall hcall'

end

end

/-- The sample run at the wrap-around goes on until the last of the two timers for the same time is
handed over. -/
theorem handed_over_in_order_wrap : ∃ l₀ h l₁ label s,
    Run TimerStep (.start (eventOSSchedulerInit (.boot 0xFFFFFFF0))) l₀ h ∧
    StableBefore h.state.remaining h.inserted (.startupSysTimerPool 5) (.startupSysTimerPool 4) ∧
    Run (LineStep (.startupSysTimerPool 5) (.startupSysTimerPool 4)) h.state (l₁ ++ [label]) s ∧
    label.2.called? = some (.startupSysTimerPool 4) ∧
    ∃ label' ∈ l₁, label'.2.called? = some (.startupSysTimerPool 5) := by
  have hsome : ((drive (fun _ op => BoundedTicks op) wrapOps
      (eventOSSchedulerInit (.boot 0xFFFFFFF0))).bind fun s =>
        (drive (fun s op => ¬ Cancels s (.startupSysTimerPool 5) op ∧
            ¬ Cancels s (.startupSysTimerPool 4) op)
          [.dispatch, .handlerReturn, .tickUpdate 20, .dispatch, .handlerReturn, .dispatch,
            .handlerReturn] s).bind fun t =>
          (exec .dispatch t).toOption.map fun p =>
            (s.systemTimerList, s.priority (.startupSysTimerPool 5),
              s.priority (.startupSysTimerPool 4), p.2.called?))
      = some ([.startupSysTimerPool 3, .startupSysTimerPool 5, .startupSysTimerPool 4], 1, 1,
          some (.startupSysTimerPool 4)) := by decide +kernel
  obtain ⟨s, hs, hsome⟩ := Option.bind_eq_some_iff.mp hsome
  obtain ⟨t, ht, hsome⟩ := Option.bind_eq_some_iff.mp hsome
  obtain ⟨⟨u, r⟩, hexec, heq⟩ := Option.map_eq_some_iff.mp hsome
  simp only [Prod.mk.injEq] at heq
  obtain ⟨hlist, hpriority, hpriority', hcall⟩ := heq
  obtain ⟨l, run, -⟩ := drive_runOf hs
  obtain ⟨h, before, rfl⟩ := exists_history run
  obtain ⟨l₁, run₁, -⟩ := drive_runOf ht
  have hlast : LineStep (.startupSysTimerPool 5) (.startupSysTimerPool 4) t (.dispatch, r) u :=
    ⟨⟨trivial, toOption_eq_some.mp hexec⟩, id, id⟩
  have hordered := (TimerHistory.ordered_of_run (boot_initial _) before).2.sorted
  rw [hlist] at hordered
  have hlaunch : StableBefore h.state.remaining h.inserted (.startupSysTimerPool 5)
      (.startupSysTimerPool 4) := by
    have htail := (List.pairwise_cons.mp hordered).2
    exact (List.pairwise_cons.mp htail).1 _ (by simp)
  refine ⟨l, h, l₁, (.dispatch, r), u, before, hlaunch, .snoc run₁ hlast, hcall, ?_⟩
  exact handed_over_in_order (boot_initial _) before (by simp [hlist]) (by simp [hlist]) hlaunch
    (by rw [hpriority, hpriority']) (.snoc run₁ hlast) rfl hcall

end EventLoop
