import EventLoop.LaunchOrder
import EventLoop.NextTimer
import EventLoop.TimerRefinement

/-!
# Timers across sleep

A platform may stop the tick timer, sleep, and tell `eventOS_scheduler_timer_synch_after_sleep` for
how many milliseconds. These are turned into ticks by `sleep_ticks / 10 + 1`, which is too much by
at most one tick, and never too little. So a sleep makes no timer late, as long as the platform does
not sleep past the time that `eventOS_event_timer_shortest_active_timer` reports, and each sleep
makes a timer at most one tick early.
-/

namespace EventLoop

open Lib
open Lib.DeadlineMap (Untouched)

/-- The milliseconds that pass in an operation: a tick takes 10 of them. -/
def Op.milliseconds : Op → ℕ
  | .tickUpdate ticks => 10 * ticks.toNat
  | .synchAfterSleep sleepTicks _ => sleepTicks.toNat
  | .handlerCreate _ _ _ _ | .send _ _ | .sendUserAllocated _ _ | .sendTimerAllocated _ _
  | .requestAt _ _ _ | .requestIn _ _ _ | .requestEvery _ _ _ | .request _ _ _ _ _
  | .timerCancel _ _ | .cancel _ | .setActiveTasklet _ | .dispatch | .handlerReturn
  | .handlerWrite _ | .clientAlloc _ | .clientFree _ => 0

/-- The operation ends a sleep. -/
def Op.isSleep : Op → Bool
  | .synchAfterSleep _ _ => true
  | .handlerCreate _ _ _ _ | .send _ _ | .sendUserAllocated _ _ | .sendTimerAllocated _ _
  | .requestAt _ _ _ | .requestIn _ _ _ | .requestEvery _ _ _ | .request _ _ _ _ _
  | .timerCancel _ _ | .cancel _ | .setActiveTasklet _ | .dispatch | .handlerReturn
  | .handlerWrite _ | .clientAlloc _ | .clientFree _ | .tickUpdate _ => false

/-- The ticks that an operation counts. -/
def Op.counted (op : Op) : ℕ := (op.ticks.map BitVec.toNat).getD 0

/-- The milliseconds that pass in a part of a run. -/
def millisecondsIn (l : List (Op × Ret)) : ℕ := (l.map fun label => label.1.milliseconds).sum

/-- The sleeps in a part of a run. -/
def sleepsIn (l : List (Op × Ret)) : ℕ := l.countP fun label => label.1.isSleep

@[simp] lemma millisecondsIn_append (l l' : List (Op × Ret)) :
    millisecondsIn (l ++ l') = millisecondsIn l + millisecondsIn l' := by
  simp [millisecondsIn]

@[simp] lemma millisecondsIn_singleton (label : Op × Ret) :
    millisecondsIn [label] = label.1.milliseconds := by
  simp [millisecondsIn]

@[simp] lemma sleepsIn_append (l l' : List (Op × Ret)) :
    sleepsIn (l ++ l') = sleepsIn l + sleepsIn l' :=
  List.countP_append

@[simp] lemma sleepsIn_singleton (label : Op × Ret) :
    sleepsIn [label] = if label.1.isSleep then 1 else 0 := by
  simp [sleepsIn, List.countP_singleton]

/-- What is counted covers the time that passes, and is too much by at most a tick for a sleep. -/
lemma Op.counted_bounds (op : Op) : op.milliseconds ≤ 10 * op.counted ∧
    10 * op.counted ≤ op.milliseconds + 10 * (if op.isSleep then 1 else 0) := by
  cases op with
  | synchAfterSleep sleepTicks wakeup =>
    have hlt := sleepTicks.isLt
    have hcounted : (sleepTicks / 10 + 1).toNat = sleepTicks.toNat / 10 + 1 := by
      rw [BitVec.toNat_add, BitVec.toNat_udiv, show (10 : BitVec 32).toNat = 10 from rfl,
        show (1 : BitVec 32).toNat = 1 from rfl]
      omega
    simp only [counted, ticks, Option.map_some, Option.getD_some, milliseconds, isSleep, hcounted,
      ↓reduceIte]
    omega
  | tickUpdate => simp [counted, ticks, milliseconds, isSleep]
  | _ => simp [counted, ticks, milliseconds, isSleep]

/-- The platform lets one tick pass at a time, or sleeps for no longer than
`eventOS_event_timer_shortest_active_timer` reports. -/
def NoOversleep (s : State) : Op → Prop
  | .tickUpdate ticks => ticks = 1
  | .synchAfterSleep sleepTicks _ =>
    sleepTicks.toNat ≤ (eventOSEventTimerShortestActiveTimer s).toNat
  | .handlerCreate _ _ _ _ | .send _ _ | .sendUserAllocated _ _ | .sendTimerAllocated _ _
  | .requestAt _ _ _ | .requestIn _ _ _ | .requestEvery _ _ _ | .request _ _ _ _ _
  | .timerCancel _ _ | .cancel _ | .setActiveTasklet _ | .dispatch | .handlerReturn
  | .handlerWrite _ | .clientAlloc _ | .clientFree _ => True

/-- The move lets no time pass and does not take the timer off the list. -/
def Act.LeavesWaiting (p : Ptr) (act : Act) : Prop :=
  act.Timeless ∧ ∀ B v, act ≠ .relocate p .timerList B v

section

variable {s s' : State} {p : Ptr} {op : Op} {r : Ret} {acts : List Act}

/-! ## Operations that let no time pass -/

/-- A timer that is not taken off the list keeps its deadline. -/
lemma Move.deadline_eq {act : Act} (own : Owned s) (move : Move s act s')
    (hp : p ∈ s.systemTimerList) (hact : act.LeavesWaiting p) :
    (s'.deadlines 0).deadline p = (s.deadlines 0).deadline p := by
  have hrun := (move.deadlines 0 own hact.1).2
  refine DeadlineMap.deadline_of_untouched hrun fun a ha b hb hon => ?_
  obtain rfl := Option.some.inj hb
  cases move with
  | @relocate q A B v h row =>
    by_cases hA : A = .timerList
    · subst hA
      have hne : q ≠ p := by
        rintro rfl
        exact hact.2 B v rfl
      cases B <;> simp only [Act.timerActions, List.mem_singleton] at ha <;>
        subst ha <;> exact hne hon
    · have hnot := own.notMem_timerList row hA
      have hne : q ≠ p := by
        rintro rfl
        exact hnot hp
      cases A <;> cases B <;>
        simp only [Act.timerActions, List.mem_singleton, List.not_mem_nil] at ha <;>
        subst ha <;> exact hne hon
  | _ => simp [Act.timerActions] at ha

/-- The moves of an operation that lets no time pass leave a waiting timer that it does not
cancel. -/
lemma Effect.leavesWaiting (own : Owned s) (heffect : Effect s op r acts)
    (hticks : op.ticks = none) (hp : p ∈ s.systemTimerList) (hcancels : ¬ Cancels s p op) :
    ∀ act ∈ acts, act.LeavesWaiting p := by
  have hcall : r.called? ≠ some p := by
    intro hcall
    cases heffect with
    | dispatch hqueue =>
      obtain rfl := Option.some.inj hcall
      cases own.place_unique (A := .timerList) (B := .queue) hp (by simp [State.at_, hqueue])
    | _ => cases hcall
  have htimeless := (heffect.startsAndStops own hticks).1
  refine fun act hact => ⟨htimeless act hact, ?_⟩
  rintro B v rfl
  obtain rfl := (heffect.keepsLine hcancels hcancels hcall _ hact).1 rfl (Or.inl rfl)
  exact htimeless _ hact

/-- A timer waits on, after `n` ticks. -/
structure WaitsOn (p : Ptr) (s s' : State) (n : ℕ) : Prop where
  mem : p ∈ s'.systemTimerList
  event : (s'.event p).data = (s.event p).data
  remaining : s.remaining p = s'.remaining p + n

lemma waitsOn_of_deadline (hp : p ∈ s.systemTimerList)
    (h : (s'.deadlines 0).deadline p = (s.deadlines 0).deadline p) : WaitsOn p s s' 0 := by
  simp only [State.deadlines, hp, ↓reduceIte, Nat.zero_add] at h
  split at h
  · next hp' =>
    obtain ⟨hleft, hevent⟩ := Prod.mk.inj (Option.some.inj h)
    exact ⟨hp', hevent, hleft.symm⟩
  · cases h

variable [NsList]

/-- An operation that lets no time pass. -/
lemma Step.waitsOn (own : Owned s) (step : Step s (op, r) s') (hticks : op.ticks = none)
    (hp : p ∈ s.systemTimerList) (hcancels : ¬ Cancels s p op) : WaitsOn p s s' 0 := by
  obtain ⟨acts, heffect, run⟩ := Step.effect own step
  refine waitsOn_of_deadline hp ?_
  refine own.run_on (I := fun t => (t.deadlines 0).deadline p = (s.deadlines 0).deadline p) ?_ rfl
    run (heffect.leavesWaiting own hticks hp hcancels)
  intro t act u own hdeadline hact move
  exact (move.deadline_eq own (waitsOn_of_deadline hp hdeadline).mem hact).trans hdeadline

/-! ## Tick updates and sleeps -/

/-- An operation that lets time pass sends a timer, or leaves it with so much less to wait. -/
lemma Step.ticks (ordered : s.Ordered) (step : Step s (op, r) s') (hbounded : BoundedTicks op)
    {t : BitVec 32} (ht : op.ticks = some t) (hp : p ∈ s.systemTimerList) :
    WaitsOn p s s' t.toNat ∨
      s.remaining p ≤ t.toNat ∧ .write p (s.event p).data ∈ observe s op r ∧
        p ∈ s'.eventQueueActive ∧ (s'.event p).data = (s.event p).data := by
  obtain ⟨h, rfl, ordered⟩ := ordered
  have hupdate := exec_ticks step.exec ht
  rw [ordered.tickUpdate_eq (hbounded.le ht)] at hupdate
  obtain rfl := Except.ok.inj hupdate
  rcases Nat.lt_or_ge t.toNat (h.state.remaining p) with hlt | hge
  · have hp' : p ∈ (h.state.ticked t).systemTimerList := by
      simp [State.ticked, State.after, hp, hlt]
    have hremaining := TimerHistory.Ordered.ticked_remaining hp'
    exact Or.inl ⟨hp', sendAll_data _ p h.state, by omega⟩
  · have hdue : p ∈ h.state.upTo t.toNat := by simp [State.upTo, hp, hge]
    refine Or.inr ⟨hge, ?_, (sendAll_mem _ _ _).mpr (Or.inl hdue), sendAll_data _ p h.state⟩
    rw [(timerActions_of_ticks ht h.state r).2, observeTicks]
    refine List.mem_map.mpr ⟨p, ?_, rfl⟩
    exact (ordered.due_eq (hbounded.le ht)).symm ▸ hdue

omit [NsList] in
/-- A platform that does not oversleep lets no more time pass than any timer has left. -/
lemma NoOversleep.le (ordered : s.Ordered) (h : NoOversleep s op) (hp : p ∈ s.systemTimerList) :
    op.milliseconds ≤ 10 * s.remaining p := by
  obtain ⟨h', rfl, ordered⟩ := ordered
  cases op with
  | tickUpdate ticks =>
    obtain rfl : ticks = 1 := h
    have hpos : 0 < h'.state.remaining p := (ordered.window p hp).1
    have hone : (1 : BitVec 32).toNat = 1 := rfl
    simp only [Op.milliseconds, hone]
    omega
  | synchAfterSleep sleepTicks wakeup =>
    obtain ⟨first, rest, hlist⟩ := List.exists_cons_of_ne_nil (List.ne_nil_of_mem hp)
    have hfirst := ordered.head_earliest hlist
    have hreport := ordered.shortest_toNat hfirst
    have hle := hfirst.2 p hp
    have hmod := Nat.mod_le (10 * h'.state.remaining first) (2 ^ 32)
    have hsleep : sleepTicks.toNat ≤ (eventOSEventTimerShortestActiveTimer h'.state).toNat := h
    simp only [Op.milliseconds]
    omega
  | _ => exact Nat.zero_le _

/-! ## Runs -/

/-- A step that does not cancel the timer. -/
def WaitingStep (p : Ptr) (s : State) (label : Op × Ret) (s' : State) : Prop :=
  Step s label s' ∧ BoundedTicks label.1 ∧ ¬ Cancels s p label.1

/-- A timer waits, and what it has left is the time that has not passed yet, but for what was
counted too much. -/
structure StillWaits (p : Ptr) (s : State) (l : List (Op × Ret)) (s' : State) : Prop where
  mem : p ∈ s'.systemTimerList
  event : (s'.event p).data = (s.event p).data
  upper : millisecondsIn l + 10 * s'.remaining p ≤ 10 * s.remaining p
  lower : 10 * s.remaining p ≤ millisecondsIn l + 10 * sleepsIn l + 10 * s'.remaining p

/-- The timer is written to the event queue by the operation with the label, after `l`. -/
structure SentOnTime (p : Ptr) (s : State) (l : List (Op × Ret)) (t : State) (label : Op × Ret)
    (u : State) : Prop where
  /-- it is sent with its event -/
  sent : .write p (s.event p).data ∈ observe t label.1 label.2
  /-- and queued -/
  queued : p ∈ u.eventQueueActive ∧ (u.event p).data = (s.event p).data
  /-- it is not sent after its time has come -/
  due : millisecondsIn l < 10 * s.remaining p
  /-- it is early by at most a tick for each sleep -/
  early : 10 * s.remaining p ≤ millisecondsIn (l ++ [label]) + 10 * sleepsIn (l ++ [label])
  /-- it is not late, if the platform does not oversleep at the end -/
  late : NoOversleep t label.1 → millisecondsIn (l ++ [label]) ≤ 10 * s.remaining p

/-- **One step**: the timer waits on, or it is sent on time. -/
lemma StillWaits.step {l : List (Op × Ret)} {t u : State} {label : Op × Ret} (own : Owned t)
    (ordered : t.Ordered) (waits : StillWaits p s l t) (step : WaitingStep p t label u) :
    StillWaits p s (l ++ [label]) u ∨ SentOnTime p s l t label u := by
  obtain ⟨step, hbounded, hcancels⟩ := step
  obtain ⟨hupper, hlower⟩ := label.1.counted_bounds
  have hup := waits.upper
  have hlow := waits.lower
  have hon : ∀ {n}, WaitsOn p t u n → label.1.counted = n →
      StillWaits p s (l ++ [label]) u := by
    intro n hon hcounted
    have hremaining := hon.remaining
    refine ⟨hon.mem, hon.event.trans waits.event, ?_, ?_⟩ <;>
      simp only [millisecondsIn_append, millisecondsIn_singleton, sleepsIn_append,
        sleepsIn_singleton] <;> omega
  cases ht : label.1.ticks with
  | none =>
    refine Or.inl (hon (step.waitsOn own ht waits.mem hcancels) ?_)
    simp [Op.counted, ht]
  | some n =>
    have hcounted : label.1.counted = n.toNat := by simp [Op.counted, ht]
    rcases step.ticks ordered hbounded ht waits.mem with hwaits | ⟨hdue, hsent, hqueued⟩
    · exact Or.inl (hon hwaits hcounted)
    · obtain ⟨hqueued, hevent⟩ := hqueued
      have hpos : 0 < t.remaining p := by
        obtain ⟨h, rfl, hordered⟩ := ordered
        exact (hordered.window p waits.mem).1
      refine Or.inr ⟨waits.event ▸ hsent, ⟨hqueued, hevent.trans waits.event⟩, by omega, ?_,
        fun hnot => ?_⟩
      · simp only [millisecondsIn_append, millisecondsIn_singleton, sleepsIn_append,
          sleepsIn_singleton]
        omega
      · have hle := hnot.le ordered waits.mem
        simp only [millisecondsIn_append, millisecondsIn_singleton]
        omega

/-- A run in which the timer is not cancelled. -/
lemma stillWaits_or_sent {l : List (Op × Ret)} (own : Owned s) (ordered : s.Ordered)
    (hp : p ∈ s.systemTimerList) (run : Run (WaitingStep p) s l s') :
    Owned s' ∧ s'.Ordered ∧ (StillWaits p s l s' ∨ ∃ l₁ label l₂ t u, l = l₁ ++ label :: l₂ ∧
      Run (WaitingStep p) s l₁ t ∧ WaitingStep p t label u ∧ Run (WaitingStep p) u l₂ s' ∧
      SentOnTime p s l₁ t label u) := by
  induction run with
  | nil => exact ⟨own, ordered, Or.inl ⟨hp, rfl, by simp [millisecondsIn], by simp⟩⟩
  | @snoc l t u label run last ih =>
    obtain ⟨own, ordered, ih⟩ := ih
    refine ⟨own.step last.1, ordered.step own last.1 last.2.1, ?_⟩
    rcases ih with waits | ⟨l₁, label₁, l₂, t₁, u₁, rfl, run₁, step₁, run₂, hsent⟩
    · rcases waits.step own ordered last with waits' | hsent
      · exact Or.inl waits'
      · exact Or.inr ⟨l, label, [], t, u, rfl, run, last, .nil, hsent⟩
    · exact Or.inr ⟨l₁, label₁, l₂ ++ [label], t₁, u₁, by simp, run₁, step₁, .snoc run₂ last, hsent⟩

/-- **Sleeping keeps the time of the timers.** In every run in which a timer on the list is not
cancelled, it waits at least until shortly before its time comes, and then it is sent with its
event: early by at most one tick for each sleep, and not late, unless the platform oversleeps at the
end; and as long as it waits, its time has not come yet. -/
theorem sleep_keeps_time {s₀ : State} {l₀ l : List (Op × Ret)} (init : Initial s₀)
    (before : RunOf (fun _ op => BoundedTicks op) s₀ l₀ s) (hp : p ∈ s.systemTimerList)
    (run : Run (WaitingStep p) s l s') :
    (p ∈ s'.systemTimerList ∧ (s'.event p).data = (s.event p).data ∧
        millisecondsIn l < 10 * s.remaining p) ∨
      ∃ l₁ label l₂ t u, l = l₁ ++ label :: l₂ ∧ Run (WaitingStep p) s l₁ t ∧
        WaitingStep p t label u ∧ Run (WaitingStep p) u l₂ s' ∧ SentOnTime p s l₁ t label u := by
  obtain ⟨h, hrun, rfl⟩ := exists_history before
  obtain ⟨own, ordered⟩ := TimerHistory.ordered_of_run init hrun
  obtain ⟨-, ordered', waits | hsent⟩ := stillWaits_or_sent own ⟨h, rfl, ordered⟩ hp run
  · obtain ⟨h', rfl, ordered'⟩ := ordered'
    have hpos : 0 < h'.state.remaining p := (ordered'.window p waits.mem).1
    have hupper := waits.upper
    exact Or.inl ⟨waits.mem, waits.event, by omega⟩
  · exact Or.inr hsent

end

/-- The platform sleeps until the next timer, and then until shortly before the others. -/
def twoSleepsOps : List Op :=
  [.dispatch, .handlerReturn, .synchAfterSleep 40 0, .dispatch, .handlerReturn,
    .synchAfterSleep 80 0]

/-- In the sample run at the wrap-around a timer that has 14 ticks left is sent after 120
milliseconds in two sleeps. -/
theorem sleep_keeps_time_wrap : ∃ l₀ s l s', RunOf (fun _ op => BoundedTicks op)
      (eventOSSchedulerInit (.boot 0xFFFFFFF0)) l₀ s ∧
    Run (WaitingStep (.startupSysTimerPool 5)) s l s' ∧ l.map Prod.fst = twoSleepsOps ∧
    s.remaining (.startupSysTimerPool 5) = 14 ∧ millisecondsIn l = 120 ∧
    s'.eventQueueActive = [.startupSysTimerPool 5, .startupSysTimerPool 4, .startupSysTimerPool 3] ∧
    ∃ l₁ label l₂ t u, l = l₁ ++ label :: l₂ ∧
      Run (WaitingStep (.startupSysTimerPool 5)) s l₁ t ∧
      WaitingStep (.startupSysTimerPool 5) t label u ∧
      Run (WaitingStep (.startupSysTimerPool 5)) u l₂ s' ∧
      SentOnTime (.startupSysTimerPool 5) s l₁ t label u := by
  have hsome : ((drive (fun _ op => BoundedTicks op) wrapOps
      (eventOSSchedulerInit (.boot 0xFFFFFFF0))).bind fun s =>
        (drive (fun s op => BoundedTicks op ∧ ¬ Cancels s (.startupSysTimerPool 5) op) twoSleepsOps
          s).map fun s' => (s.systemTimerList, s.remaining (.startupSysTimerPool 5),
            s'.systemTimerList, s'.eventQueueActive))
      = some ([.startupSysTimerPool 3, .startupSysTimerPool 5, .startupSysTimerPool 4], 14, [],
        [.startupSysTimerPool 5, .startupSysTimerPool 4, .startupSysTimerPool 3]) := by
    decide +kernel
  obtain ⟨s, hs, hsome⟩ := Option.bind_eq_some_iff.mp hsome
  obtain ⟨s', hs', heq⟩ := Option.map_eq_some_iff.mp hsome
  simp only [Prod.mk.injEq] at heq
  obtain ⟨hlist, hremaining, hlist', hqueue⟩ := heq
  obtain ⟨l₀, before, -⟩ := drive_runOf hs
  obtain ⟨l, run, hops⟩ := drive_runOf hs'
  have hmilliseconds : millisecondsIn l = ((l.map Prod.fst).map Op.milliseconds).sum := by
    rw [List.map_map]
    rfl
  refine ⟨l₀, s, l, s', before, run, hops, hremaining, ?_, hqueue, ?_⟩
  · rw [hmilliseconds, hops]
    rfl
  · rcases sleep_keeps_time (boot_initial _) before (by simp [hlist]) run with ⟨hwaits, -⟩ | hsent
    · simp [hlist'] at hwaits
    · exact hsent

end EventLoop
