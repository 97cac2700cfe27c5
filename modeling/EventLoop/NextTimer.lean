import EventLoop.CatchUp

/-!
# The time to the next timer

`eventOS_event_timer_shortest_active_timer` looks at the head of the timer list only, which is right
because the list is ordered. It multiplies the remaining ticks by 10 in 32 bits, which is right as
long as the product fits (`reportsNextTimer_iff`).
-/

namespace EventLoop

open Lib

/-- The timers that no other timer on the list comes before. -/
def State.earliest (s : State) (p : Ptr) : Prop :=
  p ∈ s.systemTimerList ∧ ∀ q ∈ s.systemTimerList, s.remaining p ≤ s.remaining q

section

variable [NsList]

/-- What `eventOS_event_timer_shortest_active_timer` should report: 0 if no timer waits, and
otherwise the milliseconds to the earliest timers, which are in the queue after a sleep of that
time. -/
structure ReportsNextTimer (s : State) (ms : BitVec 32) : Prop where
  zero_iff : ms = 0 ↔ s.systemTimerList = []
  next : ∀ p, s.earliest p → ms.toNat = 10 * s.remaining p
  sleep : ∀ p, s.earliest p → ∀ wakeup, ∃ s' c,
    eventOSSchedulerTimerSynchAfterSleep ms wakeup s = .ok (s', c) ∧ p ∈ s'.eventQueueActive

/-! ## The head of the timer list -/

namespace TimerHistory.Ordered

variable {h : TimerHistory} {p : Ptr}

omit [NsList] in
/-- The head of the list is an earliest timer. -/
lemma head_earliest (ordered : h.Ordered) {rest : List Ptr}
    (hlist : h.state.systemTimerList = p :: rest) : h.state.earliest p := by
  have hsorted := ordered.sorted
  rw [hlist] at hsorted
  refine ⟨by simp [hlist], fun q hq => ?_⟩
  rw [hlist] at hq
  rcases List.mem_cons.mp hq with rfl | hq
  · exact le_rfl
  · rcases (List.pairwise_cons.mp hsorted).1 q hq with hlt | ⟨heq, -⟩
    · exact hlt.le
    · exact heq.le

omit [NsList] in
/-- What is reported is ten times the ticks that an earliest timer has left, in 32 bits. -/
lemma shortest_toNat (ordered : h.Ordered) (hp : h.state.earliest p) :
    (eventOSEventTimerShortestActiveTimer h.state).toNat = 10 * h.state.remaining p % 2 ^ 32 := by
  obtain ⟨first, rest, hlist⟩ := List.exists_cons_of_ne_nil (List.ne_nil_of_mem hp.1)
  have hfirst := ordered.head_earliest hlist
  have hsame : h.state.remaining p = h.state.remaining first :=
    le_antisymm (hp.2 first hfirst.1) (hfirst.2 p hp.1)
  have hnot : ¬ ticksBeforeOrAt (h.state.mem first).launchTime h.state.timerSysTicks := by
    rw [ticksBeforeOrAt_iff, not_not]
    exact ordered.window first hfirst.1
  have hten : (10 : BitVec 32).toNat = 10 := rfl
  simp only [eventOSEventTimerShortestActiveTimer, hlist, List.head?_cons, hnot, ↓reduceIte,
    eventOSEventTimerTicksToMs]
  rw [BitVec.toNat_mul, hten, hsame, mul_comm]
  rfl

/-- A sleep of the time that an earliest timer has left puts it into the queue. -/
lemma sleep_sends (ordered : h.Ordered) (hp : h.state.earliest p) {ms : BitVec 32}
    (hms : ms.toNat = 10 * h.state.remaining p) (wakeup : ℤ) : ∃ s' c,
    eventOSSchedulerTimerSynchAfterSleep ms wakeup h.state = .ok (s', c) ∧
      p ∈ s'.eventQueueActive := by
  have hten : (10 : BitVec 32).toNat = 10 := rfl
  have hone : (1 : BitVec 32).toNat = 1 := rfl
  have hlt := ms.isLt
  have hticks : (ms / 10 + 1).toNat = h.state.remaining p + 1 := by
    rw [BitVec.toNat_add, BitVec.toNat_udiv, hten, hone, hms, Nat.mul_div_cancel_left _ (by omega)]
    omega
  have hupdate := ordered.tickUpdate_eq (t := ms / 10 + 1) (by omega)
  refine ⟨h.state.ticked (ms / 10 + 1), if wakeup = 0 then 0 else -1, ?_, ?_⟩
  · simp only [eventOSSchedulerTimerSynchAfterSleep, hupdate, ok_bind]
  · refine (sendAll_mem _ _ _).mpr (Or.inl ?_)
    rw [State.upTo, List.mem_filter, hticks]
    exact ⟨hp.1, by simp⟩

end TimerHistory.Ordered

/-- In every state that a run with tick updates of at most 2³¹ ticks reaches, what is reported is
the time to the earliest timer exactly if no timer waits or some timer has so few ticks left that
their milliseconds fit into 32 bits. -/
theorem reportsNextTimer_iff {s₀ s : State} {l : List (Op × Ret)} (init : Initial s₀)
    (run : RunOf (fun _ op => BoundedTicks op) s₀ l s) :
    ReportsNextTimer s (eventOSEventTimerShortestActiveTimer s) ↔
      s.systemTimerList = [] ∨ ∃ p ∈ s.systemTimerList, 10 * s.remaining p < 2 ^ 32 := by
  obtain ⟨h, hrun, rfl⟩ := exists_history run
  obtain ⟨-, ordered⟩ := TimerHistory.ordered_of_run init hrun
  rcases hlist : h.state.systemTimerList with _ | ⟨first, rest⟩
  · have hzero : eventOSEventTimerShortestActiveTimer h.state = 0 := by
      simp [eventOSEventTimerShortestActiveTimer, hlist, eventOSEventTimerTicksToMs]
    have hnone : ∀ p, ¬ h.state.earliest p := fun p hp => by simpa [hlist] using hp.1
    refine iff_of_true ⟨iff_of_true hzero hlist, fun p hp => absurd hp (hnone p),
      fun p hp => absurd hp (hnone p)⟩ (Or.inl rfl)
  · have hfirst := ordered.head_earliest hlist
    rw [← hlist]
    constructor
    · intro reports
      have hnext := reports.next first hfirst
      have hlt := (eventOSEventTimerShortestActiveTimer h.state).isLt
      exact Or.inr ⟨first, hfirst.1, by omega⟩
    · rintro (hnil | ⟨q, hq, hfits⟩)
      · simp [hnil] at hlist
      · have hnext : ∀ p, h.state.earliest p →
            (eventOSEventTimerShortestActiveTimer h.state).toNat = 10 * h.state.remaining p := by
          intro p hp
          have hle := hp.2 q hq
          rw [ordered.shortest_toNat hp, Nat.mod_eq_of_lt (by omega)]
        refine ⟨iff_of_false ?_ (by simp [hlist]), hnext,
          fun p hp => ordered.sleep_sends hp (hnext p hp)⟩
        intro hzero
        have hpos := (ordered.window first hfirst.1).1
        have hten := hnext first hfirst
        rw [hzero] at hten
        have hremaining : h.state.remaining first = 0 := by simpa using hten.symm
        rw [State.remaining] at hremaining
        omega

end

/-- A timer is requested for 429496730 ticks from now, a little less than 50 days. -/
def farOps : List Op :=
  let event : ArmEvent :=
    { receiver := 0, sender := 0, eventType := 2, eventId := 3, dataPtr := none
      priority := .med, eventData := 4 }
  [.handlerCreate 7 1 (some (.heap 0)) none, .requestAt event 429496730 none]

/-- The time to a timer in 429496730 ticks is reported as 4 milliseconds. -/
theorem not_reportsNextTimer_far : ∃ l s,
    RunOf (fun _ op => BoundedTicks op) (eventOSSchedulerInit (.boot 0)) l s ∧
    s.systemTimerList = [.startupSysTimerPool 5] ∧
    s.remaining (.startupSysTimerPool 5) = 429496730 ∧
    eventOSEventTimerShortestActiveTimer s = 4 ∧
    ¬ ReportsNextTimer s (eventOSEventTimerShortestActiveTimer s) := by
  have hsome : (drive (fun _ op => BoundedTicks op) farOps (eventOSSchedulerInit (.boot 0))).map
      (fun s => (s.systemTimerList, s.remaining (.startupSysTimerPool 5),
        eventOSEventTimerShortestActiveTimer s))
      = some ([.startupSysTimerPool 5], 429496730, 4) := by decide +kernel
  obtain ⟨s, hs, hvalues⟩ := Option.map_eq_some_iff.mp hsome
  simp only [Prod.mk.injEq] at hvalues
  obtain ⟨hlist, hremaining, hms⟩ := hvalues
  obtain ⟨l, run, -⟩ := drive_runOf hs
  refine ⟨l, s, run, hlist, hremaining, hms, fun reports => ?_⟩
  have hearliest : s.earliest (.startupSysTimerPool 5) := by simp [State.earliest, hlist]
  have hnext := reports.next _ hearliest
  rw [hms, hremaining] at hnext
  exact absurd hnext (by decide)

/-- The sample run at the wrap-around: the earliest timer has 4 ticks left. -/
theorem reportsNextTimer_wrap : ∃ l s,
    RunOf (fun _ op => BoundedTicks op) (eventOSSchedulerInit (.boot 0xFFFFFFF0)) l s ∧
    eventOSEventTimerShortestActiveTimer s = 40 ∧
    ReportsNextTimer s (eventOSEventTimerShortestActiveTimer s) := by
  have hsome : (drive (fun _ op => BoundedTicks op) wrapOps
      (eventOSSchedulerInit (.boot 0xFFFFFFF0))).map (fun s => (s.systemTimerList,
        s.remaining (.startupSysTimerPool 3), eventOSEventTimerShortestActiveTimer s))
      = some ([.startupSysTimerPool 3, .startupSysTimerPool 5, .startupSysTimerPool 4], 4, 40) := by
    decide +kernel
  obtain ⟨s, hs, hvalues⟩ := Option.map_eq_some_iff.mp hsome
  simp only [Prod.mk.injEq] at hvalues
  obtain ⟨hlist, hremaining, hms⟩ := hvalues
  obtain ⟨l, run, -⟩ := drive_runOf hs
  refine ⟨l, s, run, hms, (reportsNextTimer_iff (boot_initial _) run).mpr (Or.inr ?_)⟩
  exact ⟨.startupSysTimerPool 3, by simp [hlist], by simp [hremaining]⟩

end EventLoop
