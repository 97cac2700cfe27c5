import EventLoop.CallbackTimerRuns

/-!
# Starting a callback timer with 0 slots

The HAL timer is not started with 0 slots but with 1, while the other timers are counted from a
period of 0 slots. Where one of them waits, it comes one slot later for each such start, and in the
end its remaining slots wrap.
-/

namespace EventLoop

open Lib

namespace CallbackTimers

/-- What a start or a stop adds to the remaining slots of a HOLD timer fits into them, and what is
then taken from them when the HAL timer starts for the first HOLD timer is no more than they are. -/
structure NoWrap (s : CallbackTimers) : Prop where
  start : ∀ plTimerRemainingSlots slots, s.hal = some plTimerRemainingSlots →
    slots.toNat < plTimerRemainingSlots.toNat → ∀ t ∈ s.nsTimerList, t.timerState = .hold →
      (rebase (plTimerRemainingSlots - slots) t).remainingSlots.toNat
        = t.remainingSlots.toNat + (plTimerRemainingSlots.toNat - slots.toNat)
  stop : ∀ plTimerRemainingSlots, s.hal = some plTimerRemainingSlots →
    ∀ t ∈ s.nsTimerList, t.timerState = .hold →
      (addRemaining plTimerRemainingSlots t).remainingSlots.toNat
        = t.remainingSlots.toNat + plTimerRemainingSlots.toNat
  next : ∀ (change : NsTimerStruct → NsTimerStruct) (firstTimer : NsTimerStruct),
    ((s.nsTimerList.map change).foldl findHold (none, 0)).1 = some firstTimer →
      ∀ t ∈ s.nsTimerList.map change, t.timerState = .hold →
        (t.remainingSlots - firstTimer.remainingSlots).toNat + firstTimer.remainingSlots.toNat
          = t.remainingSlots.toNat

variable {s : CallbackTimers} {timerId : BitVec 8}

lemma toNat_sub_of_lt {slots plTimerRemainingSlots : BitVec 16}
    (hlt : slots.toNat < plTimerRemainingSlots.toNat) :
    (plTimerRemainingSlots - slots).toNat = plTimerRemainingSlots.toNat - slots.toNat := by
  have hlt' := plTimerRemainingSlots.isLt
  rw [BitVec.toNat_sub]
  omega

/-- The remaining slots of a HOLD timer, with the slots left of the period. -/
lemma Ticking.fits_hold (ticking : s.Ticking) {plTimerRemainingSlots : BitVec 16}
    (hhal : s.hal = some plTimerRemainingSlots) {t : NsTimerStruct} (ht : t ∈ s.nsTimerList)
    (hold : t.timerState = .hold) :
    plTimerRemainingSlots.toNat + t.remainingSlots.toNat < 2 ^ 16 := by
  have hfits := ticking.fits t ht hold
  simp only [halSlots, hhal, Option.elim_some] at hfits
  exact hfits.2

/-- The first HOLD timer has the least remaining slots. -/
lemma toNat_sub_first {timers : List NsTimerStruct} {firstTimer t : NsTimerStruct}
    (hfirst : (timers.foldl findHold (none, 0)).1 = some firstTimer) (ht : t ∈ timers)
    (hold : t.timerState = .hold) :
    (t.remainingSlots - firstTimer.remainingSlots).toNat + firstTimer.remainingSlots.toNat
      = t.remainingSlots.toNat := by
  have hspec := (findHold_spec timers).2
  simp only [hfirst] at hspec
  have hle := hspec.least t ht hold
  rw [BitVec.toNat_sub_of_le (BitVec.le_def.mpr hle)]
  omega

lemma Ticking.noWrap (ticking : s.Ticking) : s.NoWrap where
  start plTimerRemainingSlots slots hhal hlt t ht hold := by
    have hfits := ticking.fits_hold hhal ht hold
    simp only [rebase_eq, hold, BitVec.toNat_add, toNat_sub_of_lt hlt]
    omega
  stop plTimerRemainingSlots hhal t ht hold := by
    have hfits := ticking.fits_hold hhal ht hold
    simp only [addRemaining, hold, ↓reduceIte, BitVec.toNat_add]
    omega
  next _ _ hfirst _ := toNat_sub_first hfirst

lemma Armed.noWrap (armed : s.Armed) : s.NoWrap := by
  rcases armed with ⟨expired, -⟩ | ⟨ticking, -⟩
  · exact ⟨fun _ _ hhal => by simp [expired.hal] at hhal,
      fun _ hhal => by simp [expired.hal] at hhal, fun _ _ hfirst _ => toNat_sub_first hfirst⟩
  · exact ticking.noWrap

/-- A start with 0 slots makes every other timer that waits one slot late. -/
lemma Ticking.start_zero (ticking : s.Ticking) (idle : BitVec 16)
    (hfound : (nsTimerGetPointerToTimerStruct timerId s).isSome)
    (hrunning : s.nsTimerRunning = true) {t : NsTimerStruct} (ht : t ∈ s.nsTimerList)
    (hne : t.nsTimerId ≠ timerId) (hwaits : t.Waits) (now : ℕ) :
    ∃ d, s.deadline now t.nsTimerId = some (d, t.slots) ∧
      (eventOSCallbackTimerStart idle timerId 0 s).1.deadline now t.nsTimerId
        = some (d + 1, t.slots) := by
  obtain ⟨u, hu⟩ := Option.isSome_iff_exists.mp hfound
  obtain ⟨plTimerRemainingSlots, hhal⟩ : ∃ r, s.hal = some r := by
    rw [← Option.isSome_iff_exists, ← ticking.running]
    exact hrunning
  have hpos := ticking.positive _ hhal
  have hslots : s.halSlots = plTimerRemainingSlots.toNat := by simp [halSlots, hhal]
  have hlt : (0 : BitVec 16) < plTimerRemainingSlots := by
    rw [BitVec.lt_def]
    exact hpos
  -- the branch for a shorter period is taken
  have hstart : (eventOSCallbackTimerStart idle timerId 0 s).1
      = ({ nsTimerStartPlTimer 0 s with
          nsTimerList := s.nsTimerList.map (rebase plTimerRemainingSlots) }).update timerId
        fun t => { t with timerState := .active, slots := 0, remainingSlots := 0 } := by
    have hremaining : platformTimerGetRemainingSlots idle s = plTimerRemainingSlots := by
      simp [platformTimerGetRemainingSlots, hhal]
    have hsame : plTimerRemainingSlots - 0 = plTimerRemainingSlots := by simp
    simp only [eventOSCallbackTimerStart, hu, hrunning, ↓reduceIte, hremaining, hlt, hsame]
    rfl
  have hpointer : nsTimerGetPointerToTimerStruct t.nsTimerId
      (eventOSCallbackTimerStart idle timerId 0 s).1
        = some (rebase plTimerRemainingSlots t) := by
    have maps : s.Maps (eventOSCallbackTimerStart idle timerId 0 s).1 fun t =>
        if (rebase plTimerRemainingSlots t).nsTimerId = timerId then
          { rebase plTimerRemainingSlots t with
            timerState := .active, slots := 0, remainingSlots := 0 }
        else rebase plTimerRemainingSlots t := by
      refine ⟨by rw [hstart]; exact List.map_map .., fun t => ?_, fun t => ?_⟩
      · split <;> exact (rebase_fields _ t).1
      · split <;> exact (rebase_fields _ t).2.2.1
    rw [maps.pointer, pointer_of_mem ticking.ids ht, Option.map_some,
      if_neg (by rwa [(rebase_fields _ t).1])]
  have hnext : (eventOSCallbackTimerStart idle timerId 0 s).1.halSlots = 1 := by
    rw [hstart]
    rfl
  rw [deadline, deadline, hpointer, pointer_of_mem ticking.ids ht, hnext, hslots]
  rcases hwaits with hactive | hold
  · refine ⟨now + plTimerRemainingSlots.toNat, ?_, ?_⟩
    · simp [NsTimerStruct.left, hactive]
    · simp only [rebase_eq, NsTimerStruct.left, hactive, Option.bind_some, Option.map_some,
        Option.some.injEq, Prod.mk.injEq, and_true]
      omega
  · have hfits := ticking.fits_hold hhal ht hold
    refine ⟨now + (plTimerRemainingSlots.toNat + t.remainingSlots.toNat), ?_, ?_⟩
    · simp [NsTimerStruct.left, hold]
    · simp only [rebase_eq, NsTimerStruct.left, hold, Option.bind_some, Option.map_some,
        BitVec.toNat_add, Option.some.injEq, Prod.mk.injEq, and_true]
      omega

/-- A start with 0 slots leaves the deadlines of the other timers exactly if none of them waits. -/
lemma Ticking.start_zero_iff (ticking : s.Ticking) (idle : BitVec 16) (timerId : BitVec 8) :
    (∀ now, ∀ k ≠ timerId,
      (eventOSCallbackTimerStart idle timerId 0 s).1.deadline now k = s.deadline now k) ↔
      s.Calm (.start timerId 0) := by
  constructor
  · intro h _ hfound hrunning t ht hne hwaits
    obtain ⟨d, hbefore, hafter⟩ := ticking.start_zero idle hfound hrunning ht hne hwaits 0
    have hsame := h 0 t.nsTimerId hne
    rw [hbefore, hafter] at hsame
    simp at hsame
  · intro hcalm now k hk
    cases hfind : nsTimerGetPointerToTimerStruct timerId s with
    | none => simp only [eventOSCallbackTimerStart, hfind]
    | some t =>
      have hfound : (nsTimerGetPointerToTimerStruct timerId s).isSome := by
        rw [hfind]
        rfl
      obtain ⟨-, f, sets⟩ := ticking.start idle 0 hfound fun h0 => hcalm h0 hfound
      rw [sets.deadline_eq hfound now, Function.update_of_ne hk]

end CallbackTimers

open CallbackTimers

variable {s : CallbackTimers} {l : List CallbackLabel}

/-- **Starts with 0 slots, where no other timer waits.** Then every timer that is started is called
once, after its slots or after one slot, and no remaining slots wrap; and a start with 0 slots
leaves the deadlines of the other timers exactly if it comes where none of them waits. -/
theorem start_zero_undisturbed (run : Run TimedStep boot l s) :
    ExactCalls (fun slots => max 1 slots.toNat) l s ∧ s.NoWrap ∧
      (s.control ≠ .expired → ∀ idle timerId,
        (∀ now, ∀ k ≠ timerId,
          (eventOSCallbackTimerStart idle timerId 0 s).1.deadline now k = s.deadline now k) ↔
          s.Calm (.start timerId 0)) := by
  have harmed := (callbackTimers_refine run).1
  exact ⟨exactCalls_of_run run, harmed.noWrap,
    fun hcontrol idle timerId => (harmed.ticking hcontrol).1.start_zero_iff idle timerId⟩

/-- A start with 0 slots, first with no timer that waits, then on the only one that does. -/
def zeroOps : List CallbackOp :=
  [.register (some 0) (some 0), .register (some 1) (some 0), .start 1 0, .slot, .interrupt,
    .start 0 7, .handlerReturn, .slot, .start 0 0, .slot, .interrupt, .handlerReturn]

theorem start_zero_undisturbed_sample : ∃ l s, l.map Prod.fst = zeroOps ∧
    (l.map Prod.snd).filter (fun ret => ret matches .call (some _))
      = [.call (some ⟨1, 1, 0⟩), .call (some ⟨0, 0, 0⟩)] ∧
    ExactCalls (fun slots => max 1 slots.toNat) l s ∧ s.NoWrap ∧
      ∀ idle timerId, (∀ now, ∀ k ≠ timerId,
        (eventOSCallbackTimerStart idle timerId 0 s).1.deadline now k = s.deadline now k) ↔
        s.Calm (.start timerId 0) := by
  have hsome : (Run.trace (attempt Calm) zeroOps boot).map
      (fun p => (p.2.control, (p.1.map Prod.snd).filter fun ret => ret matches .call (some _)))
      = some (.main, [.call (some ⟨1, 1, 0⟩), .call (some ⟨0, 0, 0⟩)]) := by
    decide +kernel
  obtain ⟨⟨l, s⟩, htrace, heq⟩ := Option.map_eq_some_iff.mp hsome
  obtain ⟨hcontrol, hcalls⟩ := Prod.mk.inj heq
  obtain ⟨hrun, hops⟩ := run_of_trace htrace
  have run : Run TimedStep boot l s := hrun.mono fun _ _ _ h => ⟨h.1, h.2⟩
  obtain ⟨hexact, hwrap, hiff⟩ := start_zero_undisturbed run
  have hmain : s.control = .main := hcontrol
  exact ⟨l, s, hops, hcalls, hexact, hwrap, hiff (by simp [hmain])⟩

/-- A start with 0 slots while another timer waits: the other timer is moved by one slot, and when
the first one is stopped again, its remaining slots wrap and it runs out after one slot. -/
theorem not_start_zero_undisturbed :
    (∃ l s, Run CallbackStep boot l s ∧ (∀ label ∈ l, label.1 ≠ .sleep) ∧ s.control = .main ∧
      s.deadline 0 0 = some (10, 10) ∧
      (eventOSCallbackTimerStart 0 1 0 s).1.deadline 0 0 = some (11, 10)) ∧
    ∃ l₁ l₂ s, Run CallbackStep boot (l₁ ++ (.start 0 65535, .code 0) :: l₂
        ++ [(.interrupt, .call (some ⟨0, 0, 65535⟩))]) s ∧
      (∀ label ∈ l₁ ++ l₂, label.1 ≠ .sleep) ∧ slotsPassed l₂ = 1 ∧
      ∀ label ∈ l₂, ¬ CallbackLabel.Ends 0 label := by
  constructor
  · have hsome : (Run.trace (attempt fun _ op => op ≠ .sleep)
        [.register (some 0) (some 0), .register (some 1) (some 0), .start 0 10] boot).map
        (fun p => (p.2.control, p.2.deadline 0 0,
          (eventOSCallbackTimerStart 0 1 0 p.2).1.deadline 0 0))
        = some (.main, some (10, 10), some (11, 10)) := by decide +kernel
    obtain ⟨⟨l, s⟩, htrace, heq⟩ := Option.map_eq_some_iff.mp hsome
    obtain ⟨hcontrol, hdeadlines⟩ := Prod.mk.inj heq
    obtain ⟨hbefore, hafter⟩ := Prod.mk.inj hdeadlines
    obtain ⟨run, -⟩ := run_of_trace htrace
    exact ⟨l, s, run.mono fun _ _ _ h => h.1, run.forall_labels fun _ _ _ h => h.2, hcontrol,
      hbefore, hafter⟩
  · have hsome : (Run.trace (attempt fun _ op => op ≠ .sleep)
        [.register (some 0) (some 0), .register (some 1) (some 0), .start 0 65535, .start 1 0,
          .stop 1, .slot, .interrupt] boot).map Prod.fst
        = some [(.register (some 0) (some 0), .code 0), (.register (some 1) (some 0), .code 1),
          (.start 0 65535, .code 0), (.start 1 0, .code 0), (.stop 1, .code 0), (.slot, .void),
          (.interrupt, .call (some ⟨0, 0, 65535⟩))] := by decide +kernel
    obtain ⟨⟨l, s⟩, htrace, rfl⟩ := Option.map_eq_some_iff.mp hsome
    refine ⟨[(.register (some 0) (some 0), .code 0), (.register (some 1) (some 0), .code 1)],
      [(.start 1 0, .code 0), (.stop 1, .code 0), (.slot, .void)], s,
      (run_of_trace htrace).1.mono fun _ _ _ h => h.1, by simp, rfl, by simp [CallbackLabel.Ends]⟩

end EventLoop
