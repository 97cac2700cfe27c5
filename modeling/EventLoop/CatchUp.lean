import EventLoop.TimerOrder

/-!
# Catching up after a sleep

One tick update of `n` ticks leaves the state that `n` single ticks leave. Two updates in a row
do what one update over both spans does (`systemTimerTickUpdate_add`), because the timer list is
ordered by the remaining ticks: the first sends the front of what both would send.
-/

namespace EventLoop

open Lib

section

variable [NsList]

/-- `n` calls of `f` in a row. -/
def times (f : State → Except Fault State) : ℕ → State → Except Fault State
  | 0, s => .ok s
  | n + 1, s => do
    let s ← f s
    times f n s

/-- Sending does not touch the clock and the timer list. -/
lemma sendAll_set (l : List Ptr) (s : State) (ticks : BitVec 32) (list : List Ptr) :
    sendAll l { s with timerSysTicks := ticks, systemTimerList := list }
      = { sendAll l s with timerSysTicks := ticks, systemTimerList := list } := by
  induction l generalizing s with
  | nil => rfl
  | cons p l ih => exact ih (eventOSEventSendTimerAllocated p s)

namespace State

/-- The timers with at most `n` ticks left. -/
def upTo (s : State) (n : ℕ) : List Ptr :=
  s.systemTimerList.filter fun p => s.remaining p ≤ n

/-- The timers with more than `n` ticks left. -/
def after (s : State) (n : ℕ) : List Ptr :=
  s.systemTimerList.filter fun p => n < s.remaining p

/-- The state after a tick update. -/
def ticked (s : State) (t : BitVec 32) : State :=
  { sendAll (s.upTo t.toNat) s with
    timerSysTicks := s.timerSysTicks + t
    systemTimerList := s.after t.toNat }

end State

namespace TimerHistory.Ordered

variable {h : TimerHistory}

/-- A tick update on an ordered timer list. -/
lemma tickUpdate_eq (ordered : h.Ordered) {t : BitVec 32} (ht : t.toNat ≤ 2 ^ 31) :
    systemTimerTickUpdate t h.state = .ok (h.state.ticked t) := by
  rw [systemTimerTickUpdate_eq, ordered.due_eq ht, ordered.waiting_eq ht]
  exact congrArg Except.ok (sendAll_set _ h.state _ _)

/-- The timers that a tick update leaves have so many ticks less to wait. -/
lemma ticked_remaining {t : BitVec 32} {p : Ptr}
    (hp : p ∈ (h.state.ticked t).systemTimerList) :
    (h.state.ticked t).remaining p = h.state.remaining p - t.toNat := by
  have hlt : t.toNat < h.state.remaining p := by simpa using (List.mem_filter.mp hp).2
  have hlaunch : ((h.state.ticked t).mem p).launchTime = (h.state.mem p).launchTime := by
    simp [State.ticked]
  rw [State.remaining, hlaunch]
  exact ahead_advance hlt.le

/-- The timers of both spans are those of the first and then those of the second. -/
lemma upTo_add (ordered : h.Ordered) {t u : BitVec 32} {n : ℕ} (hn : n = t.toNat + u.toNat) :
    h.state.upTo n = h.state.upTo t.toNat ++ (h.state.ticked t).upTo u.toNat := by
  have hle : h.state.systemTimerList.Pairwise
      fun a b => h.state.remaining a ≤ h.state.remaining b :=
    ordered.sorted.imp fun hab => hab.elim le_of_lt fun hab => hab.1.le
  rw [State.upTo, filter_le_append hle (show t.toNat ≤ n by omega)]
  congr 1
  refine List.filter_congr fun p hp => ?_
  have hlt : t.toNat < h.state.remaining p := by simpa using (List.mem_filter.mp hp).2
  rw [decide_eq_decide, ticked_remaining hp]
  omega

lemma after_add {t u : BitVec 32} {n : ℕ} (hn : n = t.toNat + u.toNat) :
    h.state.after n = (h.state.ticked t).after u.toNat := by
  have hlater : h.state.after n
      = (h.state.after t.toNat).filter fun p => n < h.state.remaining p := by
    rw [State.after, State.after, List.filter_filter]
    refine List.filter_congr fun p _ => ?_
    rw [← Bool.decide_and, decide_eq_decide]
    omega
  rw [hlater]
  refine List.filter_congr fun p hp => ?_
  rw [decide_eq_decide, ticked_remaining hp]
  omega

/-- Two tick updates in a row do what one over both spans does. -/
theorem tickUpdate_add (ordered : h.Ordered) {t u : BitVec 32}
    (htu : t.toNat + u.toNat ≤ 2 ^ 31) :
    systemTimerTickUpdate (t + u) h.state
      = systemTimerTickUpdate t h.state >>= systemTimerTickUpdate u := by
  have hsum : (t + u).toNat = t.toNat + u.toNat := by
    rw [BitVec.toNat_add]
    exact Nat.mod_eq_of_lt (by omega)
  have hfirst := ordered.tickUpdate_eq (t := t) (by omega)
  have hsecond : systemTimerTickUpdate u (h.state.ticked t) = .ok ((h.state.ticked t).ticked u) :=
    (ordered.ticks (by omega) hfirst).tickUpdate_eq (by omega)
  rw [hfirst, ok_bind, hsecond, ordered.tickUpdate_eq (by omega)]
  have hset := sendAll_set ((h.state.ticked t).upTo u.toNat)
    (sendAll (h.state.upTo t.toNat) h.state) (h.state.timerSysTicks + t) (h.state.after t.toNat)
  rw [State.ticked, ordered.upTo_add hsum, after_add hsum, sendAll_append, ← add_assoc]
  exact congrArg (fun s : State => Except.ok { s with
    timerSysTicks := h.state.timerSysTicks + t + u
    systemTimerList := (h.state.ticked t).after u.toNat }) hset.symm

/-- An update of `n` ticks does what `n` updates of one tick do. -/
lemma tickUpdate_times (ordered : h.Ordered) {n : ℕ} (hn : n ≤ 2 ^ 31) :
    systemTimerTickUpdate (BitVec.ofNat 32 n) h.state
      = times (systemTimerTickUpdate 1) n h.state := by
  induction n generalizing h with
  | zero =>
    have hpos : ∀ p ∈ h.state.systemTimerList, 0 < h.state.remaining p :=
      fun p hp => (ordered.window p hp).1
    have hupTo : h.state.upTo 0 = [] :=
      List.filter_eq_nil_iff.mpr fun p hp => by simpa using (hpos p hp).ne'
    have hafter : h.state.after 0 = h.state.systemTimerList :=
      List.filter_eq_self.mpr fun p hp => by simpa using hpos p hp
    have hzero := ordered.tickUpdate_eq (t := BitVec.ofNat 32 0) (by simp)
    rw [hzero, State.ticked, show (BitVec.ofNat 32 0).toNat = 0 from rfl, hupTo, hafter]
    simp [times, sendAll]
  | succ n ih =>
    have hone := ordered.tickUpdate_eq (t := 1) (by decide)
    have hsum : BitVec.ofNat 32 (n + 1) = 1 + BitVec.ofNat 32 n := by
      rw [BitVec.ofNat_add, add_comm]
      rfl
    rw [hsum, ordered.tickUpdate_add]
    · rw [times, hone, ok_bind, ok_bind]
      exact ih (ordered.ticks (by decide) hone) (by omega)
    · rw [BitVec.toNat_ofNat, Nat.mod_eq_of_lt (by omega)]
      have h1 : (1 : BitVec 32).toNat = 1 := rfl
      omega

end TimerHistory.Ordered

/-- **Catching up agrees with ticking.** In every state that a run with tick updates of at most
2³¹ ticks reaches, an update of `n ≤ 2³¹` ticks leaves the state that `n` updates of one tick
leave; and the update after a sleep of any length leaves the state that as many tick interrupts
leave. -/
theorem catchUp_eq_ticking {s₀ s : State} {l : List (Op × Ret)} (init : Initial s₀)
    (run : RunOf (fun _ op => BoundedTicks op) s₀ l s) :
    (∀ n : BitVec 32, n.toNat ≤ 2 ^ 31 → ∃ s', systemTimerTickUpdate n s = .ok s' ∧
      times (systemTimerTickUpdate 1) n.toNat s = .ok s') ∧
    ∀ (sleepTicks : BitVec 32) (wakeup : ℤ), ∃ s',
      eventOSSchedulerTimerSynchAfterSleep sleepTicks wakeup s
        = .ok (s', if wakeup = 0 then 0 else -1) ∧
      times timerSysInterrupt (sleepTicks.toNat / 10 + 1) s = .ok s' := by
  obtain ⟨h, hrun, rfl⟩ := exists_history run
  obtain ⟨-, ordered⟩ := TimerHistory.ordered_of_run init hrun
  have hticking : ∀ n : BitVec 32, n.toNat ≤ 2 ^ 31 → ∃ s',
      systemTimerTickUpdate n h.state = .ok s' ∧
      times (systemTimerTickUpdate 1) n.toNat h.state = .ok s' := by
    intro n hn
    have hupdate := ordered.tickUpdate_eq hn
    refine ⟨_, hupdate, ?_⟩
    rw [← ordered.tickUpdate_times hn, BitVec.ofNat_toNat, BitVec.setWidth_eq, hupdate]
  refine ⟨hticking, fun sleepTicks wakeup => ?_⟩
  have hticks : (sleepTicks / 10 + 1).toNat = sleepTicks.toNat / 10 + 1 := by
    have hlt := sleepTicks.isLt
    rw [BitVec.toNat_add, BitVec.toNat_udiv, show (10 : BitVec 32).toNat = 10 from rfl,
      show (1 : BitVec 32).toNat = 1 from rfl]
    omega
  have hbounded : BoundedTicks (.synchAfterSleep sleepTicks wakeup) := trivial
  have hle : (sleepTicks / 10 + 1).toNat ≤ 2 ^ 31 := hbounded.le rfl
  obtain ⟨s', hupdate, htimes⟩ := hticking _ hle
  rw [hticks] at htimes
  refine ⟨s', ?_, htimes⟩
  simp only [eventOSSchedulerTimerSynchAfterSleep, hupdate, ok_bind]

end

/-- The sample run at the wrap-around, where three timers wait: 20 ticks send them all, before the
init event. -/
theorem catchUp_eq_ticking_wrap : ∃ s s', s.systemTimerList.length = 3 ∧
    systemTimerTickUpdate 20 s = .ok s' ∧ times (systemTimerTickUpdate 1) 20 s = .ok s' ∧
    s'.systemTimerList = [] ∧ s'.eventQueueActive = [.startupSysTimerPool 3,
      .startupSysTimerPool 5, .startupSysTimerPool 4, .startupEventPool 9] := by
  have hsome : (drive (fun _ op => BoundedTicks op) wrapOps
      (eventOSSchedulerInit (.boot 0xFFFFFFF0))).map (fun s => (s.systemTimerList.length,
        (systemTimerTickUpdate 20 s).toOption.map fun s' => (s'.systemTimerList,
          s'.eventQueueActive)))
      = some (3, some ([], [.startupSysTimerPool 3, .startupSysTimerPool 5, .startupSysTimerPool 4,
        .startupEventPool 9])) := by
    decide +kernel
  obtain ⟨s, hs, hlists⟩ := Option.map_eq_some_iff.mp hsome
  obtain ⟨l, run, -⟩ := drive_runOf hs
  obtain ⟨s', hupdate, htimes⟩ := (catchUp_eq_ticking (boot_initial _) run).1 20 (by decide)
  simp only [hupdate, Except.toOption, Option.map_some, Prod.mk.injEq, Option.some.injEq] at hlists
  exact ⟨s, s', hlists.1, hupdate, htimes, hlists.2.1, hlists.2.2⟩

end EventLoop
