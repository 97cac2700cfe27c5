import EventLoop.TickTimerTheorems

/-!
# Callback timers and the sleep of the HAL timer

`ns_timer_sleep` stops the period of the HAL timer and leaves the timers that wait for it as they
are. What they still have to wait is lost with it, and the start that re-arms the HAL timer counts
them from the new period. A timer is called early exactly where that is too soon for it: beside the
callback timers stands here for how many slots the HAL timer has run since each of them was started.
-/

namespace EventLoop

open Lib CallbackTimers

/-- The slots that a timer was last started with, and those for which the HAL timer has run
since. -/
structure Meter where
  slots : BitVec 16
  ran : ℕ
  deriving DecidableEq, Repr

/-- The HAL timer has run for the slots of the timer once it has run for `n` more. -/
def Meter.Owes (meter : Meter) (n : ℕ) : Prop := meter.slots.toNat ≤ meter.ran + n

instance (meter : Meter) (n : ℕ) : Decidable (meter.Owes n) := inferInstanceAs (Decidable (_ ≤ _))

/-- The callback timers, with a meter for each of them. -/
structure MeteredTimers where
  timers : CallbackTimers
  meters : BitVec 8 → Meter

namespace MeteredTimers

/-- Before the first call. -/
def boot : MeteredTimers := ⟨.boot, fun _ => ⟨0, 0⟩⟩

/-- The meters after an operation. -/
def metersAfter (h : MeteredTimers) : CallbackLabel → BitVec 8 → Meter
  | (.start timerId slots, .code c) =>
    if c = 0 then Function.update h.meters timerId ⟨slots, 0⟩ else h.meters
  | (.slot, .void) =>
    if h.timers.hal.isSome then fun timerId => { h.meters timerId with
      ran := (h.meters timerId).ran + 1 }
    else h.meters
  | _ => h.meters

/-- An operation re-arms the HAL timer for no less than the other timers owe. Before a start, a HOLD
timer has to wait for its remaining slots, and one that is ACTIVE for the first period; before a
stop, a HOLD timer for its remaining slots and those that the HAL answers. -/
def Resumes (h : MeteredTimers) (idle : BitVec 16) : CallbackOp → Prop
  | .start timerId slots =>
    h.timers.nsTimerRunning = false → (nsTimerGetPointerToTimerStruct timerId h.timers).isSome →
      ∀ t ∈ h.timers.nsTimerList, t.nsTimerId ≠ timerId →
        (t.timerState = .hold → (h.meters t.nsTimerId).Owes t.remainingSlots.toNat) ∧
        (t.timerState = .active → (h.meters t.nsTimerId).Owes slots.toNat ∧
          ∀ u ∈ h.timers.nsTimerList, u.nsTimerId ≠ timerId → u.timerState = .hold →
            (h.meters t.nsTimerId).Owes u.remainingSlots.toNat)
  | .stop timerId =>
    h.timers.nsTimerRunning = false →
      (∃ t ∈ h.timers.nsTimerList, t.nsTimerId = timerId ∧ t.timerState ≠ .stop) →
      (∀ t ∈ h.timers.nsTimerList, t.nsTimerId ≠ timerId → t.timerState ≠ .active) →
        ∀ t ∈ h.timers.nsTimerList, t.nsTimerId ≠ timerId → t.timerState = .hold →
          t.remainingSlots + idle ≠ 0 ∧
            (h.meters t.nsTimerId).Owes (t.remainingSlots + idle).toNat
  | _ => True

instance (h : MeteredTimers) (idle : BitVec 16) (op : CallbackOp) :
    Decidable (h.Resumes idle op) :=
  match op with
  | .start _ _ => inferInstanceAs (Decidable (_ → _))
  | .stop _ => inferInstanceAs (Decidable (_ → _))
  | .register _ _ | .unregister _ | .sleep | .slot | .interrupt | .handlerReturn => isTrue trivial

end MeteredTimers

/-- A start has at least 1 slot. -/
def CallbackOp.Nonzero : CallbackOp → Prop
  | .start _ slots => slots ≠ 0
  | _ => True

instance (op : CallbackOp) : Decidable op.Nonzero :=
  match op with
  | .start _ _ => inferInstanceAs (Decidable (_ ≠ _))
  | .register _ _ | .unregister _ | .stop _ | .sleep | .slot | .interrupt | .handlerReturn =>
    isTrue trivial

/-- One operation with its meters, and with the HAL's answer while no period is running. -/
structure MeteredStep (idle : BitVec 16) (h : MeteredTimers) (label : CallbackLabel)
    (h' : MeteredTimers) : Prop where
  allows : h.timers.Allows label.1
  exec : CallbackTimers.exec idle label.1 h.timers = (h'.timers, label.2)
  nonzero : label.1.Nonzero
  meters : h'.meters = h.metersAfter label

/-- One operation that meets the condition. -/
structure ResumingStep (idle : BitVec 16) (h : MeteredTimers) (label : CallbackLabel)
    (h' : MeteredTimers) : Prop extends MeteredStep idle h label h' where
  resumes : h.Resumes idle label.1

namespace MeteredTimers

/-- A timer that runs out with the HAL timer, or is due, owes no more slots than are left. -/
def Covers (h : MeteredTimers) (t : NsTimerStruct) : Prop :=
  (t.Waits → h.timers.hal.isSome ∨ h.timers.control = .expired) →
    ∀ n, h.timers.lefts t = some n → (h.meters t.nsTimerId).Owes n

/-- The invariant: no timer runs out early. -/
structure Punctual (h : MeteredTimers) : Prop where
  aligned : h.timers.Expired ∧ h.timers.control = .expired ∨ h.timers.Aligned ∧ h.timers.Looped
  covers : ∀ t ∈ h.timers.nsTimerList, h.Covers t

variable {s s' : CallbackTimers} {meters meters' : BitVec 8 → Meter} {timerId : BitVec 8}

/-- A timer that does not wait, and has slots left, is due. -/
lemma owes_of_not_waits {t : NsTimerStruct} (hcovers : Covers ⟨s, meters⟩ t) (h : ¬ t.Waits)
    {hal n : ℕ} (hn : t.left hal = some n) : (meters t.nsTimerId).Owes n := by
  rw [NsTimerStruct.left_of_not_waits h hal s.halSlots] at hn
  exact hcovers (fun hwaits => absurd hwaits h) n hn

/-- The timers after an operation that sets one of them. -/
lemma covers_of_sets {value : Option (ℕ × BitVec 16)} {w : NsTimerStruct → Option ℕ}
    {f : NsTimerStruct → NsTimerStruct} (sets : s.Sets s' timerId value w f)
    (hcovers : ∀ t ∈ s.nsTimerList, Covers ⟨s, meters⟩ t) (hcontrol : s'.control ≠ .expired)
    (hmeters : ∀ k ≠ timerId, meters' k = meters k)
    (hset : ∀ n slots, value = some (n, slots) → (meters' timerId).Owes n)
    (hothers : s'.hal.isSome → ∀ t ∈ s.nsTimerList, t.nsTimerId ≠ timerId → (f t).Waits →
      ∀ n, w t = some n → (meters t.nsTimerId).Owes n) :
    ∀ t ∈ s'.nsTimerList, Covers ⟨s', meters'⟩ t := by
  intro u hu hwaits n hn
  rw [sets.list] at hu
  obtain ⟨t, ht, rfl⟩ := List.mem_map.mp hu
  have hleft : (f t).left s'.halSlots = some n := hn
  show (meters' (f t).nsTimerId).Owes n
  rw [sets.id_eq]
  by_cases hid : t.nsTimerId = timerId
  · have hvalue := sets.set_eq t ht hid
    rw [hleft] at hvalue
    rw [hid]
    exact hset n (f t).slots hvalue.symm
  · rw [hmeters _ hid]
    by_cases hwait : (f t).Waits
    · exact hothers ((hwaits hwait).resolve_right hcontrol) t ht hid hwait n
        ((sets.others t ht hid).1.symm.trans hn)
    · -- a timer that does not wait and has slots left is due, and was due before
      have hstate : (f t).timerState = .runInterrupt := by
        unfold NsTimerStruct.left at hleft
        cases hf : (f t).timerState with
        | active => exact absurd (Or.inl hf) hwait
        | hold => exact absurd (Or.inr hf) hwait
        | runInterrupt => rfl
        | stop => simp [hf] at hleft
      have hbefore := sets.interrupt t ht hstate
      have hzero : n = 0 := by simpa [NsTimerStruct.left, hstate] using hleft.symm
      subst hzero
      have hnot : ¬ t.Waits := by simp [NsTimerStruct.Waits, hbefore]
      have hdue : t.left 0 = some 0 := by simp [NsTimerStruct.left, hbefore]
      exact owes_of_not_waits (hcovers t ht) hnot hdue

/-- While the HAL timer is running, every timer owes no more than the slots it has left. -/
lemma covers_of_lefts (hcovers : ∀ t ∈ s.nsTimerList, Covers ⟨s, meters⟩ t) (hhal : s.hal.isSome) :
    ∀ t ∈ s.nsTimerList, ∀ n, s.lefts t = some n → (meters t.nsTimerId).Owes n :=
  fun t ht n hn => hcovers t ht (fun _ => Or.inl hhal) n hn

/-- The timers after an operation that only takes timers out, adds stopped ones, or stops the
period of the HAL timer. -/
lemma covers_mono (hcovers : ∀ t ∈ s.nsTimerList, Covers ⟨s, meters⟩ t)
    (hmem : ∀ t ∈ s'.nsTimerList, t ∈ s.nsTimerList ∨ t.timerState = .stop)
    (hhal : s'.hal.isSome ∨ s'.control = .expired →
      (s.hal.isSome ∨ s.control = .expired) ∧ s'.halSlots = s.halSlots) :
    ∀ t ∈ s'.nsTimerList, Covers ⟨s', meters⟩ t := by
  intro t ht hwaits n hn
  rcases hmem t ht with hold | hstop
  · refine hcovers t hold (fun h => (hhal (hwaits h)).1) n ?_
    rw [← hn]
    show t.left s.halSlots = t.left s'.halSlots
    by_cases h : t.Waits
    · rw [(hhal (hwaits h)).2]
    · exact NsTimerStruct.left_of_not_waits h _ _
  · have hnone : s'.lefts t = none := by simp [lefts, NsTimerStruct.left, hstop]
    cases hnone.symm.trans hn

/-! ## One operation -/

lemma Punctual.looped (punctual : Punctual ⟨s, meters⟩) (h : s.control ≠ .expired) :
    s.Aligned ∧ s.Looped := punctual.aligned.resolve_left fun hexpired => h hexpired.2

lemma Punctual.expired (punctual : Punctual ⟨s, meters⟩) (h : s.control = .expired) : s.Expired :=
  (punctual.aligned.resolve_right fun hlooped => hlooped.2.ne_expired h).1

/-- The invariant after an operation that sets one timer. -/
lemma Punctual.of_sets {value : Option (ℕ × BitVec 16)} {w : NsTimerStruct → Option ℕ}
    {f : NsTimerStruct → NsTimerStruct} (punctual : Punctual ⟨s, meters⟩)
    (sets : s.Sets s' timerId value w f) (hcontrol : s.control ≠ .expired)
    (hcontrol' : s'.control = s.control) (hmeters : ∀ k ≠ timerId, meters' k = meters k)
    (hset : ∀ n slots, value = some (n, slots) → (meters' timerId).Owes n)
    (hothers : s'.hal.isSome → ∀ t ∈ s.nsTimerList, t.nsTimerId ≠ timerId → (f t).Waits →
      ∀ n, w t = some n → (meters t.nsTimerId).Owes n) : Punctual ⟨s', meters'⟩ := by
  obtain ⟨aligned, looped⟩ := punctual.looped hcontrol
  refine ⟨Or.inr ⟨sets.aligned aligned,
    looped.keep hcontrol' fun _ _ loops => sets.loops loops⟩, ?_⟩
  exact covers_of_sets sets punctual.covers (hcontrol'.symm ▸ hcontrol) hmeters hset hothers

lemma Punctual.register (punctual : Punctual ⟨s, meters⟩) (h : s.control ≠ .expired)
    (timerInterruptHandler : Option FuncPtr) (newTimer : Option (BitVec 16)) :
    Punctual ⟨(eventOSCallbackTimerRegister timerInterruptHandler newTimer s).1, meters⟩ := by
  obtain ⟨aligned, looped⟩ := punctual.looped h
  rcases eventOSCallbackTimerRegister_eq timerInterruptHandler newTimer s with
    ⟨b, heq⟩ | ⟨t, hstop, -, hlt, hnone, heq⟩
  · rw [heq]
    refine ⟨Or.inr ⟨aligned.congr rfl rfl rfl, ?_⟩, ?_⟩
    · exact looped.keep rfl fun next n loops => ⟨loops.before, loops.after⟩
    · exact covers_mono punctual.covers (fun _ ht => Or.inl ht) fun hhal => ⟨hhal, rfl⟩
  · rw [heq]
    refine ⟨Or.inr ⟨aligned.append hstop hnone rfl hlt rfl rfl, ?_⟩, ?_⟩
    · exact looped.keep rfl fun next n loops => loops.append hstop rfl
    · refine covers_mono punctual.covers (fun u hu => ?_) fun hhal => ⟨hhal, rfl⟩
      rcases List.mem_append.mp hu with hu | hu
      · exact Or.inl hu
      · exact Or.inr (List.mem_singleton.mp hu ▸ hstop)

lemma Punctual.unregister (punctual : Punctual ⟨s, meters⟩) (hmain : s.control = .main)
    (timerId : BitVec 8) : Punctual ⟨(eventOSCallbackTimerUnregister timerId s).1, meters⟩ := by
  obtain ⟨aligned, looped⟩ := punctual.looped (by simp [hmain])
  unfold eventOSCallbackTimerUnregister
  cases hfind : nsTimerGetPointerToTimerStruct timerId s with
  | none => exact punctual
  | some t =>
    have hlist := eraseP_eq_filter_of_nodup aligned.ids timerId
    have hmem : ∀ u ∈ s.nsTimerList.eraseP fun t => t.nsTimerId = timerId, u ∈ s.nsTimerList :=
      fun u hu => List.mem_of_mem_eraseP hu
    refine ⟨Or.inr ⟨aligned.filter hlist rfl rfl, ?_⟩, ?_⟩
    · simp only [Looped, hmain]
      exact loops_of_quiet fun u hu => (looped.main hmain).quiet u (hmem u hu)
    · exact covers_mono punctual.covers (fun u hu => Or.inl (hmem u hu)) fun hhal => ⟨hhal, rfl⟩

/-- While the HAL timer sleeps only the timers that are due have to have run. -/
lemma Punctual.sleep (punctual : Punctual ⟨s, meters⟩) (h : s.control ≠ .expired) :
    Punctual ⟨(nsTimerSleep s).1, meters⟩ := by
  obtain ⟨aligned, looped⟩ := punctual.looped h
  unfold nsTimerSleep
  split
  · refine ⟨Or.inr ⟨⟨aligned.ids, aligned.range, rfl, by simp [platformTimerDisable], ?_⟩, ?_⟩, ?_⟩
    · intro t ht hold
      have hfits := aligned.fits t ht hold
      show 0 < t.remainingSlots.toNat ∧ 0 + t.remainingSlots.toNat < 2 ^ 16
      omega
    · exact looped.keep rfl fun next n loops => ⟨loops.before, loops.after⟩
    · refine covers_mono punctual.covers (fun t ht => Or.inl ht) fun hhal => ?_
      exact absurd hhal (by simpa [platformTimerDisable] using h)
  · exact punctual

/-- A slot that passes counts for every timer. -/
lemma Punctual.slot (punctual : Punctual ⟨s, meters⟩) (hmain : s.control = .main) :
    Punctual ⟨s.passSlot, metersAfter ⟨s, meters⟩ (.slot, .void)⟩ := by
  obtain ⟨aligned, looped⟩ := punctual.looped (by simp [hmain])
  cases hhal : s.hal with
  | none =>
    simpa only [passSlot, metersAfter, hhal, Option.isSome_none, Bool.false_eq_true, ↓reduceIte]
      using punctual
  | some slots =>
    obtain ⟨hnext, hlist, hslots, hpos⟩ := aligned.slot looped hmain hhal
    have hquiet := (looped.main hmain).quiet
    have hsome : s.hal.isSome := by rw [hhal]; rfl
    refine ⟨hnext.imp_right fun h => ⟨h.1, h.2.1⟩, fun t ht _ n hn => ?_⟩
    rw [hlist] at ht
    have hleft : t.left (s.halSlots - 1) = some n := by rw [← hslots]; exact hn
    have hpred := (left_pred (hquiet t ht) (fun _ => hpos) 0).1
    rw [hleft] at hpred
    obtain ⟨m, hm, hmn⟩ := Option.map_eq_some_iff.mp hpred.symm
    have hmn' : 0 + m = 0 + 1 + n := hmn
    have howes : (meters t.nsTimerId).slots.toNat ≤ (meters t.nsTimerId).ran + m :=
      covers_of_lefts punctual.covers hsome t ht m hm
    have hmeter : metersAfter ⟨s, meters⟩ (.slot, .void) t.nsTimerId
        = ⟨(meters t.nsTimerId).slots, (meters t.nsTimerId).ran + 1⟩ := by
      simp only [metersAfter, hhal, Option.isSome_some, ↓reduceIte]
    show (metersAfter ⟨s, meters⟩ (.slot, .void) t.nsTimerId).Owes n
    rw [hmeter]
    show (meters t.nsTimerId).slots.toNat ≤ (meters t.nsTimerId).ran + 1 + n
    omega

lemma hal_callInterrupts (next i : ℕ) (s : CallbackTimers) :
    (nsTimerCallInterrupts next i s).1.hal = s.hal := by
  unfold nsTimerCallInterrupts
  split <;> rfl

/-- The loop of the interrupt handler calls no timer early. -/
lemma punctual_callInterrupts (aligned : s.Aligned) {next n : ℕ} (loops : s.Loops next n)
    (hcovers : ∀ t ∈ s.nsTimerList, Covers ⟨s, meters⟩ t) :
    Punctual ⟨(nsTimerCallInterrupts next n s).1, meters⟩ ∧
      ∀ call, (nsTimerCallInterrupts next n s).2 = some call →
        (meters call.nsTimerId).Owes 0 := by
  obtain ⟨looped, hcall⟩ := aligned.callInterrupts loops
  have hhal := hal_callInterrupts next n s
  generalize (nsTimerCallInterrupts next n s).2 = call at hcall
  cases call with
  | none =>
    have hmain : (nsTimerCallInterrupts next n s).1 = { s with control := .main } := hcall
    rw [hmain] at looped ⊢
    refine ⟨⟨Or.inr ⟨aligned.congr rfl rfl rfl, looped⟩, ?_⟩, by simp⟩
    exact covers_mono hcovers (fun t ht => Or.inl ht) fun h =>
      ⟨Or.inl (h.resolve_right (by simp)), rfl⟩
  | some call =>
    obtain ⟨t, ht, hstate, rfl, f, sets⟩ := hcall
    refine ⟨⟨Or.inr ⟨sets.aligned aligned, looped⟩, ?_⟩, ?_⟩
    · refine covers_of_sets sets hcovers looped.ne_expired (fun _ _ => rfl) (by simp) ?_
      exact fun hsome u hu _ _ n hn => covers_of_lefts hcovers (hhal ▸ hsome) u hu n hn
    · rintro _ ⟨⟩
      refine hcovers t ht (fun hwaits => ?_) 0 (by simp [lefts, NsTimerStruct.left, hstate])
      simp [NsTimerStruct.Waits, hstate] at hwaits

lemma Punctual.interrupt (punctual : Punctual ⟨s, meters⟩) (hexpired : s.control = .expired) :
    Punctual ⟨(nsTimerInterruptHandler s).1, meters⟩ ∧
      ∀ call, (nsTimerInterruptHandler s).2 = some call →
        (meters call.nsTimerId).Owes 0 := by
  obtain ⟨f, maps, ticking, hlefts, loops⟩ := (punctual.expired hexpired).begin
  rw [nsTimerInterruptHandler_eq]
  refine punctual_callInterrupts ticking.toAligned loops fun u hu _ n hn => ?_
  rw [maps.list] at hu
  obtain ⟨t, ht, rfl⟩ := List.mem_map.mp hu
  show (meters (f t).nsTimerId).Owes n
  rw [maps.id_eq]
  exact punctual.covers t ht (fun _ => Or.inr hexpired) n ((hlefts t ht).1.symm.trans hn)

lemma Punctual.start (punctual : Punctual ⟨s, meters⟩) (h : s.control ≠ .expired)
    (idle : BitVec 16) {timerId : BitVec 8} {slots : BitVec 16} (hnonzero : slots ≠ 0)
    (hresumes : Resumes ⟨s, meters⟩ idle (.start timerId slots)) :
    Punctual ⟨(eventOSCallbackTimerStart idle timerId slots s).1, metersAfter ⟨s, meters⟩
      (.start timerId slots, .code (eventOSCallbackTimerStart idle timerId slots s).2)⟩ := by
  obtain ⟨aligned, looped⟩ := punctual.looped h
  cases hfind : nsTimerGetPointerToTimerStruct timerId s with
  | none =>
    have heq : eventOSCallbackTimerStart idle timerId slots s = (s, -1) := by
      simp only [eventOSCallbackTimerStart, hfind]
    rw [heq]
    exact punctual
  | some t =>
    have hfound : (nsTimerGetPointerToTimerStruct timerId s).isSome := by
      rw [hfind]
      rfl
    have hcontrol := control_start idle timerId slots s
    -- what is set is the timer that is started, with nothing run since
    have hstarted : ∀ {w : NsTimerStruct → Option ℕ} {f : NsTimerStruct → NsTimerStruct},
        (eventOSCallbackTimerStart idle timerId slots s).2 = 0 →
        s.Sets (eventOSCallbackTimerStart idle timerId slots s).1 timerId
          (some (max 1 slots.toNat, slots)) w f →
        (∀ u ∈ s.nsTimerList, u.nsTimerId ≠ timerId → ∀ n, w u = some n →
          (meters u.nsTimerId).Owes n) →
        Punctual ⟨(eventOSCallbackTimerStart idle timerId slots s).1, metersAfter ⟨s, meters⟩
          (.start timerId slots, .code (eventOSCallbackTimerStart idle timerId slots s).2)⟩ := by
      intro w f hcode sets hothers
      simp only [hcode, metersAfter, ↓reduceIte]
      refine punctual.of_sets sets h hcontrol (fun k hk => Function.update_of_ne hk ..) ?_
        fun _ u hu hne _ => hothers u hu hne
      rintro n _ ⟨⟩
      rw [Function.update_self]
      show slots.toNat ≤ 0 + max 1 slots.toNat
      omega
    cases hhal : s.hal with
    | some plTimerRemainingSlots =>
      obtain ⟨hcode, f, sets⟩ := aligned.start_running idle slots hhal hfound fun hzero =>
        absurd hzero hnonzero
      refine hstarted hcode sets fun u hu _ => ?_
      exact covers_of_lefts punctual.covers (by rw [hhal]; rfl) u hu
    | none =>
      have hrunning : s.nsTimerRunning = false := by rw [aligned.running, hhal]; rfl
      obtain ⟨ht, rfl⟩ := mem_of_pointer hfind
      obtain ⟨f, period, sets, hperiod⟩ := aligned.start_resting ht fun hzero =>
        absurd hzero hnonzero
      have heq : eventOSCallbackTimerStart idle t.nsTimerId slots s
          = (nsTimerGetNextRunningTo (s.update t.nsTimerId (started .hold slots slots)), 0) := by
        simp only [eventOSCallbackTimerStart, hfind, hrunning, Bool.false_eq_true, ↓reduceIte]
        rfl
      have hslots : max 1 slots.toNat = slots.toNat := by
        have hpos : slots.toNat ≠ (0 : BitVec 16).toNat := BitVec.toNat_ne_iff_ne.mpr hnonzero
        have hzero : (0 : BitVec 16).toNat = 0 := rfl
        omega
      rw [show nsTimerGetNextRunningTo (s.update t.nsTimerId (started .hold slots slots))
        = (eventOSCallbackTimerStart idle t.nsTimerId slots s).1 by rw [heq]] at sets
      refine hstarted (by rw [heq]) sets fun u hu hne n hn => ?_
      obtain ⟨hholds, hactives⟩ := hresumes hrunning hfound u hu hne
      by_cases hold : u.timerState = .hold
      · rw [if_pos hold] at hn
        obtain rfl := Option.some.inj hn
        exact hholds hold
      · rw [if_neg hold] at hn
        by_cases hactive : u.timerState = .active
        · obtain rfl : period = n := by simpa [NsTimerStruct.left, hactive] using hn
          obtain ⟨howes, howes'⟩ := hactives hactive
          rcases hperiod with rfl | ⟨v, hv, hvne, hvhold, rfl⟩
          · rw [hslots]
            exact howes
          · exact howes' v hv hvne hvhold
        · exact owes_of_not_waits (punctual.covers u hu) (fun hwaits => hwaits.elim hactive hold) hn

lemma Punctual.stop (punctual : Punctual ⟨s, meters⟩) (h : s.control ≠ .expired) (idle : BitVec 16)
    {timerId : BitVec 8} (hresumes : Resumes ⟨s, meters⟩ idle (.stop timerId)) :
    Punctual ⟨(eventOSCallbackTimerStop idle timerId s).1, meters⟩ := by
  obtain ⟨aligned, looped⟩ := punctual.looped h
  cases hfind : nsTimerGetPointerToTimerStruct timerId s with
  | none =>
    have heq : eventOSCallbackTimerStop idle timerId s = (s, -1) := by
      simp only [eventOSCallbackTimerStop, hfind]
    rw [heq]
    exact punctual
  | some t =>
    by_cases hstop : t.timerState = .stop
    · have heq : eventOSCallbackTimerStop idle timerId s = (s, 0) := by
        simp only [eventOSCallbackTimerStop, hfind, hstop, ↓reduceIte]
      rw [heq]
      exact punctual
    have hfound : (nsTimerGetPointerToTimerStruct timerId s).isSome := by
      rw [hfind]
      rfl
    have hcontrol := control_stop idle timerId s
    cases hhal : s.hal with
    | some plTimerRemainingSlots =>
      -- the hardware timer still runs: the deadlines of the others do not move
      obtain ⟨f, sets⟩ := aligned.stop_running idle hhal hfound
      refine punctual.of_sets sets h hcontrol (fun _ _ => rfl) (by simp) fun _ u hu _ _ => ?_
      exact covers_of_lefts punctual.covers (by rw [hhal]; rfl) u hu
    | none =>
      -- the hardware timer is idle: the HOLD timers are lengthened by what it reports
      have hrunning : s.nsTimerRunning = false := by rw [aligned.running, hhal]; rfl
      have hanswer : platformTimerGetRemainingSlots idle s = idle := by
        rw [platformTimerGetRemainingSlots, hhal, Option.getD_none]
      rcases (aligned.stop idle hfound).2 with ⟨⟨f, sets⟩, hhal'⟩ | ⟨-, hactive, hrearms⟩
      · refine punctual.of_sets sets h hcontrol (fun _ _ => rfl) (by simp) fun hsome => ?_
        rw [hhal', hhal] at hsome
        cases hsome
      · obtain ⟨ht, hid⟩ := mem_of_pointer hfind
        rw [hanswer] at hrearms
        have howes := hresumes hrunning ⟨t, ht, hid, hstop⟩ hactive
        obtain ⟨f, sets⟩ := hrearms fun u hu hne hold => by
          have hpos : (u.remainingSlots + idle).toNat ≠ (0 : BitVec 16).toNat :=
            BitVec.toNat_ne_iff_ne.mpr (howes u hu hne hold).1
          have hzero : (0 : BitVec 16).toNat = 0 := rfl
          omega
        refine punctual.of_sets sets h hcontrol (fun _ _ => rfl) (by simp)
          fun _ u hu hne _ n hn => ?_
        by_cases hold : u.timerState = .hold
        · rw [if_pos hold] at hn
          obtain rfl := Option.some.inj hn
          exact (howes u hu hne hold).2
        · rw [if_neg hold] at hn
          exact owes_of_not_waits (punctual.covers u hu)
            (fun hwaits => hwaits.elim (hactive u hu hne) hold) hn

/-- At the start no timer is registered. -/
lemma punctual_boot : boot.Punctual where
  aligned := armed_boot.imp_right fun ⟨ticking, looped⟩ => ⟨ticking.toAligned, looped⟩
  covers := by simp [boot, CallbackTimers.boot]

end MeteredTimers

open MeteredTimers

/-- **One step** that re-arms the HAL timer for no less than the timers owe keeps the invariant. -/
theorem ResumingStep.punctual {idle : BitVec 16} {h h' : MeteredTimers} {label : CallbackLabel}
    (step : ResumingStep idle h label h') (punctual : h.Punctual) : h'.Punctual := by
  obtain ⟨s, meters⟩ := h
  obtain ⟨s', meters'⟩ := h'
  obtain ⟨op, ret⟩ := label
  obtain ⟨⟨allows, hexec, nonzero, hmeters⟩, resumes⟩ := step
  obtain rfl : meters' = metersAfter ⟨s, meters⟩ (op, ret) := hmeters
  obtain rfl : (CallbackTimers.exec idle op s).1 = s' := congrArg Prod.fst hexec
  obtain rfl : (CallbackTimers.exec idle op s).2 = ret := congrArg Prod.snd hexec
  cases op with
  | register timerInterruptHandler newTimer =>
    exact punctual.register allows timerInterruptHandler newTimer
  | unregister timerId => exact punctual.unregister allows timerId
  | start timerId slots => exact punctual.start allows idle nonzero resumes
  | stop timerId => exact punctual.stop allows idle resumes
  | sleep => exact punctual.sleep allows
  | slot => exact punctual.slot allows
  | interrupt => exact (punctual.interrupt allows).1
  | handlerReturn =>
    obtain ⟨next, i, hcontrol⟩ : ∃ next i, s.control = .handler next i := allows
    obtain ⟨aligned, looped⟩ := punctual.looped (by rw [hcontrol]; simp)
    show Punctual ⟨s.handlerReturn.1, meters⟩
    simp only [CallbackTimers.handlerReturn, hcontrol]
    exact (punctual_callInterrupts aligned (looped.handler hcontrol) punctual.covers).1

/-- A timer that is called has got its slots. -/
lemma MeteredTimers.Punctual.owes_of_call {h : MeteredTimers} (punctual : h.Punctual)
    {op : CallbackOp} {call : TimerCall} {s' : CallbackTimers}
    (step : CallbackStep h.timers (op, .call (some call)) s') :
    (h.meters call.nsTimerId).Owes 0 := by
  obtain ⟨s, meters⟩ := h
  obtain ⟨allows, idle, hexec⟩ := step
  have hret := congrArg Prod.snd hexec
  cases op with
  | interrupt => exact (punctual.interrupt allows).2 call (CallbackRet.call.inj hret)
  | handlerReturn =>
    obtain ⟨next, i, hcontrol⟩ : ∃ next i, s.control = .handler next i := allows
    obtain ⟨aligned, looped⟩ := punctual.looped (by rw [hcontrol]; simp)
    have hsome : s.handlerReturn.2 = some call := CallbackRet.call.inj hret
    simp only [CallbackTimers.handlerReturn, hcontrol] at hsome
    exact (punctual_callInterrupts aligned (looped.handler hcontrol) punctual.covers).2 call hsome
  | _ => cases hret

/-! ## The operations of the event core -/

namespace TickSystem

/-- The operations on the callback timers that an operation consists of, with what they return. -/
def labels (idle : BitVec 16) (m : TickSystem) : TickOp → List CallbackLabel
  | .callback op =>
    let (timers, ret) := CallbackTimers.exec idle op m.timers
    (op, ret) ::
      match ret with
      | .call (some call) =>
        if call.interruptHandler = tickTimerEventOSCallbackPtr ∧ m.tickTimerCallback.isSome ∧
            call.nsTimerId = m.tickTimerId then
          [wakeup idle { m with timers := timers }]
        else []
      | _ => []
  | .schedulerTimerStop =>
    [(.stop m.tickTimerId, .code (platformTickTimerStop idle m).2),
      (.sleep, .code (nsTimerSleep (platformTickTimerStop idle m).1.timers).2)]
  | .schedulerTimerSynchAfterSleep _ => [wakeup idle m]
where
  /-- The tick timer is started. -/
  wakeup (idle : BitVec 16) (m : TickSystem) : CallbackLabel :=
    (.start m.tickTimerId 200, .code (platformTickTimerStart idle timerSysTickPeriod m).2)

end TickSystem

/-- The tick timer and the event core, with a meter for each callback timer. -/
structure MeteredSystem where
  system : TickSystem
  meters : BitVec 8 → Meter

/-- One operation whose parts are steps of the callback timers. -/
structure MeteredTickStep [NsList]
    (step : BitVec 16 → MeteredTimers → CallbackLabel → MeteredTimers → Prop) (h : MeteredSystem)
    (label : TickOp × CallbackRet) (h' : MeteredSystem) : Prop where
  allows : h.system.Allows label.1
  exec : ∃ idle, TickSystem.exec idle label.1 h.system = .ok (h'.system, label.2) ∧
    Run (step idle) ⟨h.system.timers, h.meters⟩ (h.system.labels idle label.1)
      ⟨h'.system.timers, h'.meters⟩

namespace TickSystem

/-- An operation does with the callback timers what its labels say. -/
lemma run_labels [NsList] {idle : BitVec 16} {op : TickOp} {m m' : TickSystem} {ret : CallbackRet}
    (allows : m.Allows op) (hexec : exec idle op m = .ok (m', ret)) :
    Run (fun s label s' => s.Allows label.1 ∧ CallbackTimers.exec idle label.1 s = (s', label.2))
      m.timers (m.labels idle op) m'.timers := by
  cases op with
  | callback op =>
    obtain ⟨hret, hcases⟩ := exec_callback hexec
    have hfirst : m.timers.Allows op ∧ CallbackTimers.exec idle op m.timers
        = ((CallbackTimers.exec idle op m.timers).1, ret) := ⟨allows, by rw [hret]⟩
    rcases hcases with ⟨call, rfl, hptr, hbody⟩ | ⟨hnot, rfl⟩
    -- the tick handler restarts its own timer after the interrupt handler called it
    · have hstep : CallbackStep m.timers (op, .call (some call))
          (CallbackTimers.exec idle op m.timers).1 := ⟨allows, idle, hfirst.2⟩
      have hcontrol := hstep.control_of_call rfl
      simp only [labels, ← hret, hptr, true_and]
      cases hcallback : m.tickTimerCallback with
      | none =>
        simp only [tickTimerEventOSCallback, hcallback] at hbody
        obtain rfl := Except.ok.inj hbody
        simpa using hfirst
      | some tickTimerCallback =>
        simp only [tickTimerEventOSCallback, hcallback] at hbody
        by_cases hid : call.nsTimerId = m.tickTimerId
        · simp only [hid, ↓reduceIte] at hbody
          cases hcore : tickTimerCallback m.core with
          | error fault => simp [platformTickTimerStart, hcore] at hbody
          | ok core =>
            rw [platformTickTimerStart, hcore, ok_bind] at hbody
            obtain rfl := Except.ok.inj hbody
            simp only [hid, Option.isSome_some, and_self, ↓reduceIte]
            exact .cons hfirst (.single ⟨hcontrol, rfl⟩)
        · simp only [hid, ↓reduceIte] at hbody
          obtain rfl := Except.ok.inj hbody
          simpa [hid] using hfirst
    · have hlabels : m.labels idle (.callback op) = [(op, ret)] := by
        simp only [labels, ← hret]
        cases ret with
        | call call =>
          cases call with
          | none => rfl
          | some call => simp [hnot call rfl]
        | _ => rfl
      rw [hlabels]
      exact .single hfirst
  | schedulerTimerStop =>
    obtain ⟨rfl, rfl⟩ := Prod.mk.inj (Except.ok.inj hexec)
    -- stopping the tick timer is followed by the sleep
    have hsleep : (platformTickTimerStop idle m).1.timers.Allows .sleep := by
      show (eventOSCallbackTimerStop idle m.tickTimerId m.timers).1.control ≠ .expired
      rw [control_stop]
      exact allows
    exact .cons ⟨allows, rfl⟩ (.single ⟨hsleep, rfl⟩)
  | schedulerTimerSynchAfterSleep sleepTicks =>
    simp only [exec, eventOSSchedulerTimerSynchAfterSleep, systemTimerTickUpdate_eq,
      ok_bind] at hexec
    obtain ⟨rfl, rfl⟩ := Prod.mk.inj (Except.ok.inj hexec)
    exact .single ⟨allows, rfl⟩

end TickSystem

/-- Every run of the callback timers has meters. -/
lemma exists_metered {idle : BitVec 16} {s s' : CallbackTimers} {l : List CallbackLabel}
    (run : Run (fun s label s' => s.Allows label.1 ∧
      CallbackTimers.exec idle label.1 s = (s', label.2)) s l s')
    (hnonzero : ∀ label ∈ l, label.1.Nonzero) (meters : BitVec 8 → Meter) :
    ∃ meters', Run (MeteredStep idle) ⟨s, meters⟩ l ⟨s', meters'⟩ := by
  induction run with
  | nil => exact ⟨meters, .nil⟩
  | @snoc l t _ label _ last ih =>
    obtain ⟨meters₁, hrun⟩ := ih fun a ha => hnonzero a (List.mem_append_left _ ha)
    refine ⟨metersAfter ⟨t, meters₁⟩ label, .snoc hrun ?_⟩
    exact { allows := last.1, exec := last.2, meters := rfl
            nonzero := hnonzero label (List.mem_append_right _ List.mem_cons_self) }

/-- **Metering restricts nothing**: every operation that starts no timer with 0 slots is one with
meters. -/
theorem TickStep.metered [NsList] {m m' : TickSystem} {label : TickOp × CallbackRet}
    (step : TickStep m label m') (hnonzero : ∀ op, label.1 = .callback op → op.Nonzero)
    (meters : BitVec 8 → Meter) :
    ∃ meters', MeteredTickStep MeteredStep ⟨m, meters⟩ label ⟨m', meters'⟩ := by
  obtain ⟨op, ret⟩ := label
  obtain ⟨allows, idle, hexec⟩ := step
  have hlabels : ∀ label ∈ m.labels idle op, label.1.Nonzero := by
    have hwakeup : ∀ m : TickSystem, (TickSystem.labels.wakeup idle m).1.Nonzero := by
      intro m
      show (200 : BitVec 16) ≠ 0
      decide
    cases op with
    | callback op =>
      have hop : op.Nonzero := hnonzero op rfl
      refine List.forall_mem_cons.mpr ⟨hop, ?_⟩
      split
      · split
        · simpa using hwakeup _
        · simp
      · simp
    | schedulerTimerStop => simp [TickSystem.labels, CallbackOp.Nonzero]
    | schedulerTimerSynchAfterSleep sleepTicks => simpa [TickSystem.labels] using hwakeup m
  obtain ⟨meters', run⟩ := exists_metered (TickSystem.run_labels allows hexec) hlabels meters
  exact ⟨meters', allows, idle, hexec, run⟩

/-! ## Sleeping and waking up -/

/-- **No timer is called early, if the starts and stops that re-arm the HAL timer suit the timers
that wait.** -/
theorem resumed_timers_not_early [NsList] {l₀ : List CallbackLabel} {h₀ : MeteredTimers}
    (run₀ : Run (fun h label h' => ∃ idle, ResumingStep idle h label h') .boot l₀ h₀)
    {m₀ : TickSystem} (hm₀ : m₀.timers = h₀.timers) {l : List (TickOp × CallbackRet)}
    {h : MeteredSystem} (run : Run (MeteredTickStep ResumingStep) ⟨m₀, h₀.meters⟩ l h)
    {op : TickOp} {call : TimerCall} {m : TickSystem}
    (last : TickStep h.system (op, .call (some call)) m) :
    (h.meters call.nsTimerId).slots.toNat ≤ (h.meters call.nsTimerId).ran := by
  have hboot : h₀.Punctual := run₀.invariant punctual_boot fun _ _ _ punctual ⟨_, step⟩ =>
    step.punctual punctual
  have hpunctual : Punctual ⟨h.system.timers, h.meters⟩ := by
    have hinit : Punctual ⟨m₀.timers, h₀.meters⟩ := by
      rw [hm₀]
      exact hboot
    refine run.invariant (I := fun h => Punctual ⟨h.system.timers, h.meters⟩) hinit ?_
    rintro h label h' punctual ⟨-, idle, -, hrun⟩
    exact hrun.invariant punctual fun _ _ _ punctual step => step.punctual punctual
  obtain ⟨allows, idle, hexec⟩ := last
  cases op with
  | callback op =>
    have hret := (TickSystem.exec_callback hexec).1
    exact hpunctual.owes_of_call ⟨allows, idle, Prod.ext rfl hret.symm⟩
  | schedulerTimerStop => cases (Prod.mk.inj (Except.ok.inj hexec)).2
  | schedulerTimerSynchAfterSleep sleepTicks =>
    simp only [TickSystem.exec, TickSystem.eventOSSchedulerTimerSynchAfterSleep,
      systemTimerTickUpdate_eq, ok_bind] at hexec
    cases (Prod.mk.inj (Except.ok.inj hexec)).2

/-- An operation that can come and meets a condition, with what it returns; the HAL answers 0 when
no period is running. -/
def MeteredTimers.attempt (P : MeteredTimers → CallbackOp → Prop) [∀ h op, Decidable (P h op)]
    (h : MeteredTimers) (op : CallbackOp) : Option (MeteredTimers × CallbackRet) :=
  if h.timers.Allows op ∧ op.Nonzero ∧ P h op then
    let (timers, ret) := CallbackTimers.exec 0 op h.timers
    some (⟨timers, h.metersAfter (op, ret)⟩, ret)
  else none

lemma MeteredTimers.attempt_step {P : MeteredTimers → CallbackOp → Prop}
    [∀ h op, Decidable (P h op)] {h h' : MeteredTimers} {op : CallbackOp} {ret : CallbackRet}
    (hattempt : h.attempt P op = some (h', ret)) : MeteredStep 0 h (op, ret) h' ∧ P h op := by
  unfold MeteredTimers.attempt at hattempt
  split at hattempt
  · next hallows =>
    obtain ⟨rfl, rfl⟩ := Prod.mk.inj (Option.some.inj hattempt)
    exact ⟨⟨hallows.1, rfl, hallows.2.1, rfl⟩, hallows.2.2⟩
  · cases hattempt

lemma MeteredTimers.run_of_trace {P : MeteredTimers → CallbackOp → Prop}
    [∀ h op, Decidable (P h op)] {h h' : MeteredTimers} {ops : List CallbackOp}
    {l : List CallbackLabel} (htrace : Run.trace (MeteredTimers.attempt P) ops h = some (l, h')) :
    Run (fun h label h' => MeteredStep 0 h label h' ∧ P h label.1) h l h' ∧ l.map Prod.fst = ops :=
  Run.of_trace (fun _ _ _ _ => attempt_step) htrace

/-- The same for an operation whose parts all meet the condition. -/
def MeteredSystem.attempt [NsList] (P : MeteredTimers → CallbackOp → Prop)
    [∀ h op, Decidable (P h op)] (h : MeteredSystem) (op : TickOp) :
    Option (MeteredSystem × CallbackRet) := do
  let (m, ret) ← (TickSystem.exec 0 op h.system).toOption
  let labels := h.system.labels 0 op
  let (l, h') ← Run.trace (MeteredTimers.attempt P) (labels.map Prod.fst)
    ⟨h.system.timers, h.meters⟩
  if h.system.Allows op ∧ l = labels ∧ h'.timers = m.timers then some (⟨m, h'.meters⟩, ret)
  else none

lemma MeteredSystem.attempt_step [NsList] {P : MeteredTimers → CallbackOp → Prop}
    [∀ h op, Decidable (P h op)]
    {step : BitVec 16 → MeteredTimers → CallbackLabel → MeteredTimers → Prop}
    (hstep : ∀ h label h', MeteredStep 0 h label h' → P h label.1 → step 0 h label h')
    {h h' : MeteredSystem} {op : TickOp} {ret : CallbackRet}
    (hattempt : h.attempt P op = some (h', ret)) : MeteredTickStep step h (op, ret) h' := by
  obtain ⟨⟨m, ret'⟩, hexec, hrest⟩ := Option.bind_eq_some_iff.mp hattempt
  obtain ⟨⟨l, timers⟩, htrace, hif⟩ := Option.bind_eq_some_iff.mp hrest
  obtain ⟨⟨hallows, rfl, htimers⟩, heq⟩ := Option.ite_none_right_eq_some.mp hif
  obtain ⟨rfl, rfl⟩ := Prod.mk.inj (Option.some.inj heq)
  refine ⟨hallows, 0, toOption_eq_some.mp hexec, ?_⟩
  rw [← htimers]
  exact (MeteredTimers.run_of_trace htrace).1.mono
    fun _ _ _ ⟨hmetered, hP⟩ => hstep _ _ _ hmetered hP

/-- The program after `timer_sys_init`. -/
def MeteredSystem.init [NsList] : MeteredSystem where
  system := TickSystem.boot.timerSysInit 0 (some 0)
  meters := Function.update (fun _ => ⟨0, 0⟩) 0 ⟨200, 0⟩

lemma run_init [NsList] : Run (fun h label h' => ∃ idle, ResumingStep idle h label h') .boot
    [(.register (some 0) (some 0), .code 0), (.start 0 200, .code 0)]
    ⟨MeteredSystem.init.system.timers, MeteredSystem.init.meters⟩ := by
  have htrace : Run.trace (MeteredTimers.attempt fun h op => h.Resumes 0 op)
      [.register (some 0) (some 0), .start 0 200] .boot
      = some ([(.register (some 0) (some 0), .code 0), (.start 0 200, .code 0)],
          ⟨MeteredSystem.init.system.timers, MeteredSystem.init.meters⟩) := rfl
  exact (MeteredTimers.run_of_trace htrace).1.mono
    fun _ _ _ ⟨hmetered, resumes⟩ => ⟨0, hmetered, resumes⟩

/-- A timer is put to sleep with the HAL timer, and runs out with its first period after it. -/
def sleepOps (slots : BitVec 16) : List TickOp :=
  [.callback (.register (some 1) (some 0)), .callback (.start 1 slots), .schedulerTimerStop,
    .schedulerTimerSynchAfterSleep 100] ++ List.replicate 200 (.callback .slot)
    ++ [.callback .interrupt]

/-- What is called when the handler of the tick timer returns, with the meter of the timer. -/
def MeteredSystem.lastCall [NsList] (timerId : BitVec 8) (h : MeteredSystem) :
    Option (CallbackRet × Meter) := do
  let op : TickOp := .callback .handlerReturn
  let (_, ret) ← (TickSystem.exec 0 op h.system).toOption
  if h.system.timers.control = .handler 1 2 then some (ret, h.meters timerId) else none

lemma MeteredSystem.exists_call [NsList] {P : MeteredTimers → CallbackOp → Prop}
    [∀ h op, Decidable (P h op)]
    {step : BitVec 16 → MeteredTimers → CallbackLabel → MeteredTimers → Prop}
    (hstep : ∀ h label h', MeteredStep 0 h label h' → P h label.1 → step 0 h label h')
    {ops : List TickOp} {timerId : BitVec 8} {ret : CallbackRet} {meter : Meter}
    (hsome : (Run.trace (MeteredSystem.attempt P) ops .init).bind (fun p => p.2.lastCall timerId)
      = some (ret, meter)) :
    ∃ l h m, l.map Prod.fst = ops ∧ Run (MeteredTickStep step) .init l h ∧
      TickStep h.system (.callback .handlerReturn, ret) m ∧ h.meters timerId = meter := by
  obtain ⟨⟨l, h⟩, htrace, hcall⟩ := Option.bind_eq_some_iff.mp hsome
  obtain ⟨⟨m, ret'⟩, hexec, hif⟩ := Option.bind_eq_some_iff.mp hcall
  obtain ⟨hcontrol, heq⟩ := Option.ite_none_right_eq_some.mp hif
  obtain ⟨rfl, hmeter⟩ := Prod.mk.inj (Option.some.inj heq)
  obtain ⟨hrun, hops⟩ : Run (MeteredTickStep step) .init l h ∧ l.map Prod.fst = ops := by
    refine Run.of_trace ?_ htrace
    exact fun _ _ _ _ hattempt => attempt_step hstep hattempt
  exact ⟨l, h, m, hops, hrun, ⟨⟨1, 2, hcontrol⟩, 0, toOption_eq_some.mp hexec⟩, hmeter⟩

theorem resumed_timers_not_early_sample : ∃ l h m, l.map Prod.fst = sleepOps 150 ∧
    Run (MeteredTickStep ResumingStep) .init l h ∧
    TickStep h.system (.callback .handlerReturn, .call (some ⟨1, 1, 150⟩)) m ∧
    (h.meters 1).slots.toNat ≤ (h.meters 1).ran := by
  have hsome : (Run.trace (MeteredSystem.attempt fun h op => h.Resumes 0 op) (sleepOps 150)
      .init).bind (fun p => p.2.lastCall 1)
      = some (.call (some ⟨1, 1, 150⟩), ⟨150, 200⟩) := by decide +kernel
  have hstep : ∀ h label h', MeteredStep 0 h label h' → h.Resumes 0 label.1 →
      ResumingStep 0 h label h' := fun _ _ _ hmetered resumes => ⟨hmetered, resumes⟩
  obtain ⟨l, h, m, hops, hrun, hcall, -⟩ := MeteredSystem.exists_call hstep hsome
  exact ⟨l, h, m, hops, hrun, hcall, resumed_timers_not_early run_init rfl hrun hcall⟩

/-- The tick timer is started again with 200 slots while another timer waits for 1000. -/
theorem not_resumed_timers_not_early : ∃ l h m, l.map Prod.fst = sleepOps 1000 ∧
    Run (MeteredTickStep MeteredStep) .init l h ∧
    TickStep h.system (.callback .handlerReturn, .call (some ⟨1, 1, 1000⟩)) m ∧
    h.meters 1 = ⟨1000, 200⟩ ∧ ¬ (h.meters 1).slots.toNat ≤ (h.meters 1).ran := by
  have hsome : (Run.trace (MeteredSystem.attempt fun _ _ => True) (sleepOps 1000)
      .init).bind (fun p => p.2.lastCall 1)
      = some (.call (some ⟨1, 1, 1000⟩), ⟨1000, 200⟩) := by decide +kernel
  have hstep : ∀ h label h', MeteredStep 0 h label h' → True → MeteredStep 0 h label h' :=
    fun _ _ _ hmetered _ => hmetered
  obtain ⟨l, h, m, hops, hrun, hcall, hmeter⟩ := MeteredSystem.exists_call hstep hsome
  refine ⟨l, h, m, hops, hrun, hcall, hmeter, ?_⟩
  rw [hmeter]
  decide

end EventLoop
