import EventLoop.CallbackTimer
import Mathlib.Data.List.Induction

/-!
# What the callback timer functions do to the list

Each function changes the timers one by one: its loops, which stop early or look for a least
element, amount to a `List.map` over the list of timers and a new period of the HAL timer. The
lemmas here say which.
-/

namespace EventLoop

namespace NsTimerStruct

/-- The timer waits for the HAL timer. -/
def Waits (t : NsTimerStruct) : Prop := t.timerState = .active ∨ t.timerState = .hold

instance (t : NsTimerStruct) : Decidable t.Waits := inferInstanceAs (Decidable (_ ∨ _))

/-- The slots until a timer runs out, `hal` slots before the end of the period of the HAL timer. -/
def left (hal : ℕ) (t : NsTimerStruct) : Option ℕ :=
  match t.timerState with
  | .active => some hal
  | .hold => some (hal + t.remainingSlots.toNat)
  | .runInterrupt => some 0
  | .stop => none

end NsTimerStruct

@[simp] lemma compensate_zero (remainingSlots : BitVec 16) :
    compensate 0#16 remainingSlots = remainingSlots := by
  simp [compensate]

/-- The HAL timer is not started with 0 slots. -/
def plSlots (slots : BitVec 16) : BitVec 16 := if slots = 0 then 1 else slots

lemma toNat_plSlots (slots : BitVec 16) : (plSlots slots).toNat = max 1 slots.toNat := by
  unfold plSlots
  split
  · next h => simp [h]
  · next h =>
    have hne := (BitVec.toNat_ne_iff_ne (n := 16)).mpr h
    have hzero : (0 : BitVec 16).toNat = 0 := rfl
    omega

lemma nsTimerStartPlTimer_eq (slots : BitVec 16) (s : CallbackTimers) :
    nsTimerStartPlTimer slots s = { s with hal := some (plSlots slots), nsTimerRunning := true } :=
  rfl

/-! ## The loop that looks for the first HOLD timer -/

/-- A HOLD timer with the least remaining slots. -/
structure IsFirst (timers : List NsTimerStruct) (firstTimer : NsTimerStruct) : Prop where
  mem : firstTimer ∈ timers
  hold : firstTimer.timerState = .hold
  least : ∀ t ∈ timers, t.timerState = .hold →
    firstTimer.remainingSlots.toNat ≤ t.remainingSlots.toNat

/-- The first loop finds such a timer if there is one, and counts the HOLD timers. -/
lemma findHold_spec (timers : List NsTimerStruct) :
    (timers.foldl findHold (none, 0)).2 = timers.countP (fun t => t.timerState = .hold) ∧
      match (timers.foldl findHold (none, 0)).1 with
      | none => ∀ t ∈ timers, t.timerState ≠ .hold
      | some firstTimer => IsFirst timers firstTimer := by
  induction timers using List.reverseRecOn with
  | nil => simp
  | append_singleton timers t ih =>
    obtain ⟨hcount, hfirst⟩ := ih
    rw [List.foldl_append, List.foldl_cons, List.foldl_nil, List.countP_append]
    generalize timers.foldl findHold (none, 0) = found at hcount hfirst
    obtain ⟨first, count⟩ := found
    obtain rfl : count = timers.countP (fun t => t.timerState = .hold) := hcount
    by_cases hold : t.timerState = .hold
    · simp only [findHold, hold, ↓reduceIte]
      refine ⟨by simp [hold], ?_⟩
      cases first with
      | none =>
        refine ⟨by simp, hold, ?_⟩
        simp only [List.mem_append, List.mem_singleton]
        rintro u (hu | rfl) hu'
        · exact absurd hu' (hfirst u hu)
        · exact le_refl _
      | some firstTimer =>
        obtain ⟨hmem, hstate, hleast⟩ : IsFirst timers firstTimer := hfirst
        -- only a smaller remaining time displaces the timer found so far
        by_cases hlt : t.remainingSlots < firstTimer.remainingSlots
        · simp only [hlt, ↓reduceIte]
          refine ⟨by simp, hold, ?_⟩
          rw [BitVec.lt_def] at hlt
          simp only [List.mem_append, List.mem_singleton]
          rintro u (hu | rfl) hu'
          · exact hlt.le.trans (hleast u hu hu')
          · exact le_refl _
        · simp only [hlt, ↓reduceIte]
          refine ⟨by simp [hmem], hstate, ?_⟩
          rw [BitVec.lt_def, not_lt] at hlt
          simp only [List.mem_append, List.mem_singleton]
          rintro u (hu | rfl) hu'
          · exact hleast u hu hu'
          · exact hlt
    · simp only [findHold, hold, ↓reduceIte]
      refine ⟨by simp [hold], ?_⟩
      cases first with
      | none =>
        simp only [List.mem_append, List.mem_singleton]
        rintro u (hu | rfl)
        · exact hfirst u hu
        · exact hold
      | some firstTimer =>
        obtain ⟨hmem, hstate, hleast⟩ : IsFirst timers firstTimer := hfirst
        refine ⟨by simp [hmem], hstate, ?_⟩
        simp only [List.mem_append, List.mem_singleton]
        rintro u (hu | rfl) hu'
        · exact hleast u hu hu'
        · exact absurd hu' hold

/-! ## The loop that updates the other HOLD timers -/

lemma reduceHold_of_ne {t : NsTimerStruct} (h : t.timerState ≠ .hold) (firstSlots : BitVec 16) :
    reduceHold firstSlots t = t := by
  simp [reduceHold, h]

/-- The count is large enough for all HOLD timers. -/
lemma updateHolds_eq (firstSlots : BitVec 16) (timers : List NsTimerStruct) {holdCount : ℕ}
    (hcount : timers.countP (fun t => t.timerState = .hold) ≤ holdCount) :
    updateHolds firstSlots holdCount timers = timers.map (reduceHold firstSlots) := by
  induction timers generalizing holdCount with
  | nil => simp [updateHolds]
  | cons t rest ih =>
    rw [List.countP_cons] at hcount
    by_cases hzero : holdCount = 0
    · have hnone : ∀ u ∈ t :: rest, reduceHold firstSlots u = u := by
        intro u hu
        refine reduceHold_of_ne (fun hold => ?_) firstSlots
        have hpos : 0 < (t :: rest).countP (fun t => t.timerState = .hold) :=
          List.countP_pos_iff.mpr ⟨u, hu, by simpa using hold⟩
        rw [List.countP_cons] at hpos
        omega
      rw [updateHolds, if_pos hzero, List.map_congr_left hnone, List.map_id']
    · by_cases hold : t.timerState = .hold
      · simp only [hold, decide_true, ↓reduceIte] at hcount
        rw [updateHolds, if_neg hzero, if_pos hold, ih (by omega), List.map_cons]
        simp [reduceHold, hold]
      · simp only [hold, decide_false, Bool.false_eq_true, ↓reduceIte] at hcount
        rw [updateHolds, if_neg hzero, if_neg hold, ih (by omega), List.map_cons,
          reduceHold_of_ne hold]

/-- Ids that do not repeat still do not when the timers are written to. -/
lemma nodup_map_timers {timers : List NsTimerStruct} (hids : (timers.map (·.nsTimerId)).Nodup)
    {f : NsTimerStruct → NsTimerStruct} (hf : ∀ t, (f t).nsTimerId = t.nsTimerId) :
    ((timers.map f).map (·.nsTimerId)).Nodup := by
  have hsame : (timers.map f).map (·.nsTimerId) = timers.map (·.nsTimerId) :=
    (List.map_map ..).trans (List.map_congr_left fun t _ => hf t)
  rw [hsame]
  exact hids

/-- The timer that was found is updated before the others. -/
lemma map_reduceHold_of_first {timers : List NsTimerStruct} {firstTimer : NsTimerStruct}
    (hids : (timers.map (·.nsTimerId)).Nodup) (first : IsFirst timers firstTimer)
    {f : NsTimerStruct → NsTimerStruct}
    (hf : f firstTimer = { firstTimer with timerState := .active }) :
    (timers.map fun t => if t.nsTimerId = firstTimer.nsTimerId then f t else t).map
        (reduceHold firstTimer.remainingSlots)
      = timers.map (reduceHold firstTimer.remainingSlots) := by
  rw [List.map_map]
  refine List.map_congr_left fun t ht => ?_
  by_cases hid : t.nsTimerId = firstTimer.nsTimerId
  · obtain rfl : t = firstTimer := List.inj_on_of_nodup_map hids ht first.mem hid
    simp [hf, reduceHold, first.hold]
  · simp [hid]

/-- Once the timer that was found is active, there is one HOLD timer less. -/
lemma countP_hold_lt {timers : List NsTimerStruct} {firstTimer : NsTimerStruct}
    (first : IsFirst timers firstTimer) {f : NsTimerStruct → NsTimerStruct}
    (hf : ∀ t, (f t).timerState = .active) :
    (timers.map fun t => if t.nsTimerId = firstTimer.nsTimerId then f t else t).countP
        (fun t => t.timerState = .hold) ≤ timers.countP (fun t => t.timerState = .hold) - 1 := by
  obtain ⟨l₁, l₂, rfl⟩ := List.append_of_mem first.mem
  have hle : ∀ l : List NsTimerStruct,
      (l.map fun t => if t.nsTimerId = firstTimer.nsTimerId then f t else t).countP
        (fun t => t.timerState = .hold) ≤ l.countP (fun t => t.timerState = .hold) := by
    intro l
    rw [List.countP_map]
    refine List.countP_mono_left fun t _ ht => ?_
    simp only [Function.comp_apply, decide_eq_true_eq] at ht ⊢
    split at ht
    · simp [hf] at ht
    · exact ht
  have h₁ := hle l₁
  have h₂ := hle l₂
  simp only [List.map_append, List.map_cons, ↓reduceIte, List.countP_append, List.countP_cons, hf,
    first.hold, reduceCtorEq, decide_false, decide_true, Bool.false_eq_true, Nat.add_zero] at *
  omega

/-- `ns_timer_get_next_running_to` starts the HAL timer for the first HOLD timer. -/
lemma nsTimerGetNextRunningTo_eq (s : CallbackTimers)
    (hids : (s.nsTimerList.map (·.nsTimerId)).Nodup) :
    ((∀ t ∈ s.nsTimerList, t.timerState ≠ .hold) ∧ nsTimerGetNextRunningTo s = s) ∨
      ∃ firstTimer, IsFirst s.nsTimerList firstTimer ∧ nsTimerGetNextRunningTo s = { s with
        nsTimerList := s.nsTimerList.map (reduceHold firstTimer.remainingSlots)
        hal := some (plSlots firstTimer.remainingSlots)
        nsTimerRunning := true } := by
  obtain ⟨hcount, hfirst⟩ := findHold_spec s.nsTimerList
  unfold nsTimerGetNextRunningTo
  generalize s.nsTimerList.foldl findHold (none, 0) = found at hcount hfirst
  obtain ⟨first, count⟩ := found
  cases first with
  | none => exact Or.inl ⟨hfirst, rfl⟩
  | some firstTimer =>
    have hfirst : IsFirst s.nsTimerList firstTimer := hfirst
    refine Or.inr ⟨firstTimer, hfirst, ?_⟩
    obtain rfl : count = s.nsTimerList.countP (fun t => t.timerState = .hold) := hcount
    have hsame : compensate compensation firstTimer.remainingSlots = firstTimer.remainingSlots :=
      compensate_zero _
    simp only [hsame, CallbackTimers.update, nsTimerStartPlTimer_eq]
    rw [updateHolds_eq _ _ (countP_hold_lt hfirst (fun _ => rfl)),
      map_reduceHold_of_first hids hfirst rfl]

/-! ## Where the program is -/

namespace CallbackTimers

/-- Only the HAL timer, the interrupt handler and the return of a timer's handler move the program.
-/
lemma control_nsTimerGetNextRunningTo (s : CallbackTimers) :
    (nsTimerGetNextRunningTo s).control = s.control := by
  unfold nsTimerGetNextRunningTo
  split <;> rfl

lemma control_start (idle : BitVec 16) (timerId : BitVec 8) (slots : BitVec 16)
    (s : CallbackTimers) :
    (eventOSCallbackTimerStart idle timerId slots s).1.control = s.control := by
  unfold eventOSCallbackTimerStart
  split
  · rfl
  · split
    · simp only
      split
      · rfl
      · split <;> rfl
    · exact control_nsTimerGetNextRunningTo _

lemma control_stop (idle : BitVec 16) (timerId : BitVec 8) (s : CallbackTimers) :
    (eventOSCallbackTimerStop idle timerId s).1.control = s.control := by
  unfold eventOSCallbackTimerStop
  split
  · rfl
  · split
    · rfl
    · simp only
      split
      · rfl
      · split <;> rfl

end CallbackTimers

/-! ## What no operation changes in a timer -/

/-- The id of a timer, and its handler. -/
def NsTimerStruct.identity (t : NsTimerStruct) : BitVec 8 × FuncPtr :=
  (t.nsTimerId, t.interruptHandler)

namespace CallbackTimers

/-- The identities of the timers in the list. -/
def identities (s : CallbackTimers) : List (BitVec 8 × FuncPtr) :=
  s.nsTimerList.map NsTimerStruct.identity

variable {s : CallbackTimers}

lemma identities_map {f : NsTimerStruct → NsTimerStruct} (hf : ∀ t, (f t).identity = t.identity)
    (timers : List NsTimerStruct) :
    (timers.map f).map NsTimerStruct.identity = timers.map NsTimerStruct.identity := by
  rw [List.map_map]
  exact List.map_congr_left fun t _ => hf t

lemma identities_update {f : NsTimerStruct → NsTimerStruct} (hf : ∀ t, (f t).identity = t.identity)
    (timerId : BitVec 8) : (s.update timerId f).identities = s.identities := by
  refine identities_map (fun t => ?_) s.nsTimerList
  split
  · exact hf t
  · rfl

lemma identities_updateHolds (firstSlots : BitVec 16) (holdCount : ℕ)
    (timers : List NsTimerStruct) : (updateHolds firstSlots holdCount timers).map
      NsTimerStruct.identity = timers.map NsTimerStruct.identity := by
  induction timers generalizing holdCount with
  | nil => rfl
  | cons t rest ih =>
    unfold updateHolds
    split
    · rfl
    · split
      · rw [List.map_cons, ih, List.map_cons]
        split <;> rfl
      · rw [List.map_cons, ih, List.map_cons]

lemma identities_nsTimerGetNextRunningTo (s : CallbackTimers) :
    (nsTimerGetNextRunningTo s).identities = s.identities := by
  unfold nsTimerGetNextRunningTo
  split
  · rfl
  · show List.map _ (updateHolds _ _ _) = _
    rw [identities_updateHolds]
    exact identities_update (by intro t; rfl) _

lemma identities_start (idle : BitVec 16) (timerId : BitVec 8) (slots : BitVec 16)
    (s : CallbackTimers) :
    (eventOSCallbackTimerStart idle timerId slots s).1.identities = s.identities := by
  have hrebase : ∀ shift (t : NsTimerStruct), (rebase shift t).identity = t.identity := by
    intro shift t
    simp only [rebase]
    split <;> split <;> rfl
  unfold eventOSCallbackTimerStart
  split
  · rfl
  · split
    · simp only
      split
      · refine (identities_update (by intro t; rfl) _).trans ?_
        exact identities_map (hrebase _) s.nsTimerList
      · split <;> exact identities_update (by intro t; rfl) _
    · exact (identities_nsTimerGetNextRunningTo _).trans (identities_update (by intro t; rfl) _)

lemma identities_stop (idle : BitVec 16) (timerId : BitVec 8) (s : CallbackTimers) :
    (eventOSCallbackTimerStop idle timerId s).1.identities = s.identities := by
  have hadd : ∀ r (t : NsTimerStruct), (addRemaining r t).identity = t.identity := by
    intro r t
    unfold addRemaining
    split <;> rfl
  have hreduce : ∀ r (t : NsTimerStruct), (reduceHold r t).identity = t.identity := by
    intro r t
    unfold reduceHold
    split
    · split <;> rfl
    · rfl
  have hstopped := identities_update (s := s) (f := fun t =>
    { t with timerState := .stop, remainingSlots := 0 }) (fun _ => rfl) timerId
  unfold eventOSCallbackTimerStop
  split
  · rfl
  · split
    · rfl
    · simp only
      split
      · exact hstopped
      · split
        · exact (identities_map (hadd _) _).trans hstopped
        · refine (identities_map (hreduce _) _).trans ?_
          refine (identities_update (by intro t; rfl) _).trans ?_
          exact (identities_map (hadd _) _).trans hstopped

lemma identities_nsTimerCallInterrupts (next i : ℕ) (s : CallbackTimers) :
    (nsTimerCallInterrupts next i s).1.identities = s.identities := by
  unfold nsTimerCallInterrupts
  split
  · rfl
  · exact identities_update (by intro t; rfl) _

lemma identities_nsTimerInterruptHandler (s : CallbackTimers) :
    (nsTimerInterruptHandler s).1.identities = s.identities := by
  refine (identities_nsTimerCallInterrupts 0 _ _).trans
    ((identities_nsTimerGetNextRunningTo _).trans (identities_map (fun t => ?_) s.nsTimerList))
  split <;> rfl

lemma identities_nsTimerSleep (s : CallbackTimers) :
    (nsTimerSleep s).1.identities = s.identities := by
  unfold nsTimerSleep
  split <;> rfl

lemma identities_passSlot (s : CallbackTimers) : s.passSlot.identities = s.identities := by
  unfold passSlot
  split
  · rfl
  · split <;> rfl

lemma identities_handlerReturn (s : CallbackTimers) :
    s.handlerReturn.1.identities = s.identities := by
  unfold handlerReturn
  split
  · exact identities_nsTimerCallInterrupts _ _ s
  · rfl

/-- Only a registration and its end change which timers there are. -/
lemma identities_exec (idle : BitVec 16) {op : CallbackOp} (s : CallbackTimers)
    (hregister : ∀ h n, op ≠ .register h n) (hunregister : ∀ k, op ≠ .unregister k) :
    (exec idle op s).1.identities = s.identities := by
  cases op with
  | register h n => exact absurd rfl (hregister h n)
  | unregister k => exact absurd rfl (hunregister k)
  | start timerId slots => exact identities_start idle timerId slots s
  | stop timerId => exact identities_stop idle timerId s
  | sleep => exact identities_nsTimerSleep s
  | slot => exact identities_passSlot s
  | interrupt => exact identities_nsTimerInterruptHandler s
  | handlerReturn => exact identities_handlerReturn s

end CallbackTimers

end EventLoop
