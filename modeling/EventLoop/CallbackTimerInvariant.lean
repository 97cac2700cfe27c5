import EventLoop.CallbackTimerTheorems
import Mathlib.Algebra.Group.Nat.Defs

/-!
# The invariant of the callback timers

The deadline of an ACTIVE timer is the end of the period of the HAL timer, that of a HOLD timer lies
`remaining_slots` after it, and a timer in RUN_INTERRUPT is due now. A start, a stop and the
interrupt handler may all replace the period; `Sets` says that such an operation gives one timer its
deadline, and leaves those of the others.
-/

namespace EventLoop

namespace NsTimerStruct

/-- The deadline of a HOLD timer lies after the period of the HAL timer, and so near that its slots
can be counted from now. -/
def Fits (hal : ℕ) (t : NsTimerStruct) : Prop :=
  t.timerState = .hold → 0 < t.remainingSlots.toNat ∧ hal + t.remainingSlots.toNat < 2 ^ 16

variable {t : NsTimerStruct}

lemma left_of_not_waits (h : ¬ t.Waits) (a b : ℕ) : t.left a = t.left b := by
  unfold left
  cases hstate : t.timerState <;> simp_all [Waits]

lemma fits_of_not_waits (h : ¬ t.Waits) (hal : ℕ) : t.Fits hal :=
  fun hold => absurd (Or.inr hold) h

end NsTimerStruct

namespace CallbackTimers

/-- The slots left of the period of the HAL timer. -/
def halSlots (s : CallbackTimers) : ℕ := s.hal.elim 0 BitVec.toNat

/-- When a timer runs out and the slots it was started with, if it is started. -/
def deadline (s : CallbackTimers) (now : ℕ) (timerId : BitVec 8) : Option (ℕ × BitVec 16) :=
  (nsTimerGetPointerToTimerStruct timerId s).bind fun t =>
    (t.left s.halSlots).map fun n => (now + n, t.slots)

/-- The list of timers, and the HAL timer between its interrupts. -/
structure Aligned (s : CallbackTimers) : Prop where
  ids : (s.nsTimerList.map (·.nsTimerId)).Nodup
  range : ∀ t ∈ s.nsTimerList, t.nsTimerId.toNat < 128
  running : s.nsTimerRunning = s.hal.isSome
  positive : ∀ slots, s.hal = some slots → 0 < slots.toNat
  fits : ∀ t ∈ s.nsTimerList, t.Fits s.halSlots

/-- The HAL timer was not put to sleep: no timer waits for it while it is not running. -/
structure Ticking (s : CallbackTimers) : Prop extends Aligned s where
  idle : s.hal = none → ∀ t ∈ s.nsTimerList, ¬ t.Waits

/-- All timers that the interrupt handler has still to call come from the position `next` on, and
there are at most `n`. -/
structure Loops (s : CallbackTimers) (next n : ℕ) : Prop where
  before : ∀ t ∈ s.nsTimerList.take next, t.timerState ≠ .runInterrupt
  after : (s.nsTimerList.drop next).countP (fun t => t.timerState = .runInterrupt) ≤ n

/-- The state is another one, in which the timers were changed one by one. -/
structure Maps (s s' : CallbackTimers) (f : NsTimerStruct → NsTimerStruct) : Prop where
  list : s'.nsTimerList = s.nsTimerList.map f
  id_eq : ∀ t, (f t).nsTimerId = t.nsTimerId
  handler_eq : ∀ t, (f t).interruptHandler = t.interruptHandler

/-- The slots left of every timer. -/
def lefts (s : CallbackTimers) (t : NsTimerStruct) : Option ℕ := t.left s.halSlots

/-- The timer that is set has `value`, its slots left and those it was started with; every other
timer has `w` slots left. -/
structure Sets (s s' : CallbackTimers) (timerId : BitVec 8) (value : Option (ℕ × BitVec 16))
    (w : NsTimerStruct → Option ℕ) (f : NsTimerStruct → NsTimerStruct) : Prop
    extends Maps s s' f where
  running : s'.nsTimerRunning = s'.hal.isSome
  positive : ∀ slots, s'.hal = some slots → 0 < slots.toNat
  idle : (s.hal = none → ∀ t ∈ s.nsTimerList, ¬ t.Waits) →
    s'.hal = none → ∀ t ∈ s.nsTimerList, ¬ (f t).Waits
  fits : ∀ t ∈ s.nsTimerList, (f t).Fits s'.halSlots
  interrupt : ∀ t ∈ s.nsTimerList, (f t).timerState = .runInterrupt → t.timerState = .runInterrupt
  set_eq : ∀ t ∈ s.nsTimerList, t.nsTimerId = timerId →
    ((f t).left s'.halSlots).map (fun n => (n, (f t).slots)) = value
  others : ∀ t ∈ s.nsTimerList, t.nsTimerId ≠ timerId →
    (f t).left s'.halSlots = w t ∧ (f t).slots = t.slots

/-! ## Timers by id -/

variable {s s' : CallbackTimers} {timerId : BitVec 8} {t : NsTimerStruct}

lemma mem_of_pointer (h : nsTimerGetPointerToTimerStruct timerId s = some t) :
    t ∈ s.nsTimerList ∧ t.nsTimerId = timerId := by
  have hid := List.find?_some h
  exact ⟨List.mem_of_find?_eq_some h, by simpa using hid⟩

lemma pointer_of_mem (hids : (s.nsTimerList.map (·.nsTimerId)).Nodup) (h : t ∈ s.nsTimerList) :
    nsTimerGetPointerToTimerStruct t.nsTimerId s = some t := by
  cases hfind : nsTimerGetPointerToTimerStruct t.nsTimerId s with
  | none =>
    have hall := List.find?_eq_none.mp hfind t h
    simp at hall
  | some u =>
    obtain ⟨hmem, hid⟩ := mem_of_pointer hfind
    rw [List.inj_on_of_nodup_map hids hmem h hid]

namespace Maps

variable {f g : NsTimerStruct → NsTimerStruct}

lemma ids (maps : s.Maps s' f) :
    s'.nsTimerList.map (·.nsTimerId) = s.nsTimerList.map (·.nsTimerId) := by
  rw [maps.list, List.map_map]
  exact List.map_congr_left fun t _ => maps.id_eq t

lemma pointer (maps : s.Maps s' f) (timerId : BitVec 8) :
    nsTimerGetPointerToTimerStruct timerId s'
      = (nsTimerGetPointerToTimerStruct timerId s).map f := by
  rw [nsTimerGetPointerToTimerStruct, maps.list, List.find?_map, nsTimerGetPointerToTimerStruct]
  congr 2
  funext t
  simp [maps.id_eq t]

/-- The timers after an operation that changes them one by one. -/
lemma aligned (maps : s.Maps s' f) (hids : (s.nsTimerList.map (·.nsTimerId)).Nodup)
    (hrange : ∀ t ∈ s.nsTimerList, t.nsTimerId.toNat < 128)
    (running : s'.nsTimerRunning = s'.hal.isSome)
    (positive : ∀ slots, s'.hal = some slots → 0 < slots.toNat)
    (fits : ∀ t ∈ s.nsTimerList, (f t).Fits s'.halSlots) : s'.Aligned where
  ids := maps.ids ▸ hids
  range t ht := by
    rw [maps.list] at ht
    obtain ⟨u, hu, rfl⟩ := List.mem_map.mp ht
    rw [maps.id_eq]
    exact hrange u hu
  running := running
  positive := positive
  fits t ht := by
    rw [maps.list] at ht
    obtain ⟨u, hu, rfl⟩ := List.mem_map.mp ht
    exact fits u hu

/-- The deadlines when every timer keeps its own. -/
lemma deadline_eq (maps : s.Maps s' f) {now now' : ℕ}
    (h : ∀ t ∈ s.nsTimerList, ((f t).left s'.halSlots).map (now' + ·)
      = (t.left s.halSlots).map (now + ·) ∧ (f t).slots = t.slots) :
    s'.deadline now' = s.deadline now := by
  funext k
  rw [deadline, deadline, maps.pointer]
  cases hfind : nsTimerGetPointerToTimerStruct k s with
  | none => rfl
  | some t =>
    obtain ⟨hleft, hslots⟩ := h t (mem_of_pointer hfind).1
    have hpair := congrArg (Option.map fun d => (d, t.slots)) hleft
    simp only [Option.map_map, Function.comp_def] at hpair
    simpa [hslots] using hpair

/-- The deadlines when no time passes and every timer keeps its slots left. -/
lemma deadline_keep (maps : s.Maps s' f) (h : ∀ t ∈ s.nsTimerList,
    (f t).left s'.halSlots = s.lefts t ∧ (f t).slots = t.slots) (now : ℕ) :
    s'.deadline now = s.deadline now :=
  maps.deadline_eq fun t ht => ⟨by rw [(h t ht).1, lefts], (h t ht).2⟩

end Maps

namespace Sets

variable {value : Option (ℕ × BitVec 16)} {w : NsTimerStruct → Option ℕ}
  {f : NsTimerStruct → NsTimerStruct}

/-- The timers after an operation that sets one of them. -/
lemma aligned (aligned : s.Aligned) (sets : s.Sets s' timerId value w f) : s'.Aligned :=
  sets.toMaps.aligned aligned.ids aligned.range sets.running sets.positive sets.fits

lemma ticking (ticking : s.Ticking) (sets : s.Sets s' timerId value w f) : s'.Ticking where
  toAligned := sets.aligned ticking.toAligned
  idle hnone t ht := by
    rw [sets.list] at ht
    obtain ⟨u, hu, rfl⟩ := List.mem_map.mp ht
    exact sets.idle ticking.idle hnone u hu

/-- An operation that sets one timer does not add to the calls that are to come. -/
lemma loops {next n : ℕ} (loops : s.Loops next n) (sets : s.Sets s' timerId value w f) :
    s'.Loops next n where
  before t ht := by
    rw [sets.list, ← List.map_take] at ht
    obtain ⟨u, hu, rfl⟩ := List.mem_map.mp ht
    exact fun h => loops.before u hu (sets.interrupt u (List.mem_of_mem_take hu) h)
  after := by
    rw [sets.list, ← List.map_drop, List.countP_map]
    refine (List.countP_mono_left fun t ht h => ?_).trans loops.after
    simp only [Function.comp_apply, decide_eq_true_eq] at h ⊢
    exact sets.interrupt t (List.mem_of_mem_drop ht) h

lemma congr {w' : NsTimerStruct → Option ℕ} (sets : s.Sets s' timerId value w f)
    (h : ∀ t ∈ s.nsTimerList, t.nsTimerId ≠ timerId → w t = w' t) :
    s.Sets s' timerId value w' f :=
  { sets with others := fun t ht hne => h t ht hne ▸ sets.others t ht hne }

/-- The deadlines after an operation that sets one timer and leaves the others. -/
lemma deadline_eq (sets : s.Sets s' timerId value s.lefts f)
    (hfound : (nsTimerGetPointerToTimerStruct timerId s).isSome) (now : ℕ) :
    s'.deadline now
      = Function.update (s.deadline now) timerId (value.map fun v => (now + v.1, v.2)) := by
  funext k
  rw [deadline, sets.pointer]
  by_cases hk : k = timerId
  · subst hk
    obtain ⟨t, ht⟩ := Option.isSome_iff_exists.mp hfound
    obtain ⟨hmem, hid⟩ := mem_of_pointer ht
    rw [Function.update_self, ← sets.set_eq t hmem hid, ht]
    simp [Option.map_map, Function.comp_def]
  · rw [Function.update_of_ne hk, deadline]
    cases hfind : nsTimerGetPointerToTimerStruct k s with
    | none => rfl
    | some t =>
      obtain ⟨hmem, hid⟩ := mem_of_pointer hfind
      obtain ⟨hleft, hslots⟩ := sets.others t hmem (hid ▸ hk)
      simp [hleft, hslots, lefts]

end Sets

/-! ## A new period -/

/-- What a new period changes in a timer. -/
lemma reduceHold_fields (firstSlots : BitVec 16) (t : NsTimerStruct) :
    (reduceHold firstSlots t).nsTimerId = t.nsTimerId ∧
      (reduceHold firstSlots t).slots = t.slots ∧
      (reduceHold firstSlots t).interruptHandler = t.interruptHandler ∧
      ((reduceHold firstSlots t).timerState = .runInterrupt → t.timerState = .runInterrupt) := by
  by_cases hold : t.timerState = .hold
  · simp only [reduceHold, hold, ↓reduceIte]
    split <;> simp
  · simp [reduceHold_of_ne hold]

/-- A timer that runs out with the new period becomes active; the others are counted from there. -/
lemma reduceHold_left {firstSlots : BitVec 16} (hold : t.timerState = .hold)
    (hpos : 0 < firstSlots.toNat) (hle : firstSlots.toNat ≤ t.remainingSlots.toNat) :
    (reduceHold firstSlots t).left firstSlots.toNat = some t.remainingSlots.toNat ∧
      (reduceHold firstSlots t).Fits firstSlots.toNat := by
  simp only [reduceHold, hold, ↓reduceIte]
  split
  · next heq => exact ⟨by simp [NsTimerStruct.left, heq], by simp [NsTimerStruct.Fits]⟩
  · next hne =>
    have hne' := (BitVec.toNat_ne_iff_ne (n := 16)).mpr hne
    have hlt := t.remainingSlots.isLt
    have hsub : (t.remainingSlots - firstSlots).toNat
        = t.remainingSlots.toNat - firstSlots.toNat := by
      rw [BitVec.toNat_sub]
      omega
    simp only [NsTimerStruct.left, NsTimerStruct.Fits, hsub, Option.some.injEq, forall_const]
    omega

/-- The period of a new HAL timer has at least 1 slot, also when the first timer has none left. -/
lemma reduceHold_left_of_first {timers : List NsTimerStruct} {firstTimer : NsTimerStruct}
    (first : IsFirst timers firstTimer) (ht : t ∈ timers) (hold : t.timerState = .hold)
    (hpos : firstTimer.remainingSlots ≠ t.remainingSlots → 0 < firstTimer.remainingSlots.toNat) :
    (reduceHold firstTimer.remainingSlots t).left (max 1 firstTimer.remainingSlots.toNat)
        = some (max 1 t.remainingSlots.toNat) ∧
      (reduceHold firstTimer.remainingSlots t).Fits (max 1 firstTimer.remainingSlots.toNat) := by
  by_cases hsame : firstTimer.remainingSlots = t.remainingSlots
  · simp [reduceHold, hold, hsame, NsTimerStruct.left, NsTimerStruct.Fits]
  · have hfirstpos := hpos hsame
    have hleast := first.least t ht hold
    rw [max_eq_right hfirstpos, max_eq_right (hfirstpos.trans_le hleast)]
    exact reduceHold_left hold hfirstpos hleast

/-! ## Starting a timer -/

/-- No other timer waits for the HAL timer. -/
def Alone (s : CallbackTimers) (timerId : BitVec 8) : Prop :=
  s.nsTimerRunning = true → ∀ t ∈ s.nsTimerList, t.nsTimerId ≠ timerId → ¬ t.Waits

instance (s : CallbackTimers) (timerId : BitVec 8) : Decidable (s.Alone timerId) :=
  inferInstanceAs (Decidable (_ → _))

lemma rebase_eq (shift : BitVec 16) (t : NsTimerStruct) : rebase shift t =
    match t.timerState with
    | .active => { t with timerState := .hold, remainingSlots := shift }
    | .hold => { t with remainingSlots := t.remainingSlots + shift }
    | _ => t := by
  have hsame : ∀ r, compensate (compensation - compensationTune) r = r := fun r => compensate_zero r
  simp only [rebase, hsame]
  cases hstate : t.timerState <;> simp [hstate]

/-- What a shorter period changes in a timer. -/
lemma rebase_fields (shift : BitVec 16) (t : NsTimerStruct) :
    (rebase shift t).nsTimerId = t.nsTimerId ∧ (rebase shift t).slots = t.slots ∧
      (rebase shift t).interruptHandler = t.interruptHandler ∧
      ((rebase shift t).timerState = .runInterrupt → t.timerState = .runInterrupt) := by
  rw [rebase_eq]
  cases hstate : t.timerState <;> simp [hstate]

/-- A shorter period does not move a deadline, as long as it is not 0. -/
lemma rebase_left {slots plTimerRemainingSlots : BitVec 16}
    (hlt : slots.toNat < plTimerRemainingSlots.toNat) (hpos : t.Waits → 0 < slots.toNat)
    (fits : t.Fits plTimerRemainingSlots.toNat) :
    (rebase (plTimerRemainingSlots - slots) t).left (max 1 slots.toNat)
        = t.left plTimerRemainingSlots.toNat ∧
      (rebase (plTimerRemainingSlots - slots) t).Fits (max 1 slots.toNat) := by
  have hsub : (plTimerRemainingSlots - slots).toNat
      = plTimerRemainingSlots.toNat - slots.toNat := by
    have hlt' := plTimerRemainingSlots.isLt
    rw [BitVec.toNat_sub]
    omega
  have hlt' := plTimerRemainingSlots.isLt
  rw [rebase_eq]
  cases hstate : t.timerState with
  | active =>
    have hone := hpos (Or.inl hstate)
    simp only [NsTimerStruct.left, NsTimerStruct.Fits, hstate, hsub, Option.some.injEq,
      forall_const]
    omega
  | hold =>
    have hone := hpos (Or.inr hstate)
    have hfits := fits hstate
    have hadd : (t.remainingSlots + (plTimerRemainingSlots - slots)).toNat
        = t.remainingSlots.toNat + (plTimerRemainingSlots.toNat - slots.toNat) := by
      rw [BitVec.toNat_add, hsub, Nat.mod_eq_of_lt (by omega)]
    simp only [NsTimerStruct.left, NsTimerStruct.Fits, hstate, hadd, Option.some.injEq,
      forall_const]
    omega
  | runInterrupt | stop => simp [NsTimerStruct.left, NsTimerStruct.Fits, hstate]

/-- A write to the timer that is started. -/
def started (state : NsTimerState) (slots remainingSlots : BitVec 16) (t : NsTimerStruct) :
    NsTimerStruct :=
  { t with timerState := state, slots := slots, remainingSlots := remainingSlots }

/-- A start with fewer slots than are left of the period. -/
lemma Aligned.start_shorter (aligned : s.Aligned) {slots plTimerRemainingSlots : BitVec 16}
    (hhal : s.hal = some plTimerRemainingSlots) (hlt : slots.toNat < plTimerRemainingSlots.toNat)
    (hzero : slots = 0 → ∀ t ∈ s.nsTimerList, t.nsTimerId ≠ timerId → ¬ t.Waits)
    (hlist : s'.nsTimerList = (s.nsTimerList.map (rebase (plTimerRemainingSlots - slots))).map
      fun t => if t.nsTimerId = timerId then started .active slots slots t else t)
    (hhal' : s'.hal = some (plSlots slots)) (hrunning : s'.nsTimerRunning = true) :
    ∃ f, s.Sets s' timerId (some (max 1 slots.toNat, slots)) s.lefts f := by
  have hbefore : s.halSlots = plTimerRemainingSlots.toNat := by simp [halSlots, hhal]
  have hafter : s'.halSlots = max 1 slots.toNat := by
    rw [halSlots, hhal', Option.elim_some, toNat_plSlots]
  have hothers : ∀ t ∈ s.nsTimerList, t.nsTimerId ≠ timerId →
      (rebase (plTimerRemainingSlots - slots) t).left (max 1 slots.toNat)
          = t.left plTimerRemainingSlots.toNat ∧
        (rebase (plTimerRemainingSlots - slots) t).Fits (max 1 slots.toNat) := by
    intro t ht hne
    refine rebase_left hlt (fun hwaits => ?_) (hbefore ▸ aligned.fits t ht)
    by_contra hnot
    exact hzero (BitVec.eq_of_toNat_eq (by simpa using hnot)) t ht hne hwaits
  refine ⟨fun t =>
      if t.nsTimerId = timerId then
        started .active slots slots (rebase (plTimerRemainingSlots - slots) t)
      else rebase (plTimerRemainingSlots - slots) t,
    { list := ?_, id_eq := fun t => ?_, handler_eq := fun t => ?_
      running := by rw [hrunning, hhal']; rfl, positive := fun r hr => ?_
      idle := fun _ hnone => by simp [hhal'] at hnone, fits := fun t ht => ?_
      interrupt := fun t ht h => ?_, set_eq := fun t ht hid => ?_
      others := fun t ht hne => ?_ }⟩
  · rw [hlist, List.map_map]
    refine List.map_congr_left fun t _ => ?_
    rw [Function.comp_apply, (rebase_fields _ t).1]
  · split <;> exact (rebase_fields _ t).1
  · split <;> exact (rebase_fields _ t).2.2.1
  · rw [hhal', Option.some.injEq] at hr
    rw [← hr, toNat_plSlots]
    omega
  · rw [hafter]
    split
    · simp [NsTimerStruct.Fits, started]
    · next hne => exact (hothers t ht hne).2
  · split at h
    · cases h
    · exact (rebase_fields _ t).2.2.2 h
  · rw [if_pos hid, hafter]
    rfl
  · rw [if_neg hne, hafter, lefts, hbefore]
    exact ⟨(hothers t ht hne).1, (rebase_fields _ t).2.1⟩

/-- A start that leaves the period of the HAL timer as it is. -/
lemma Aligned.start_keeps (aligned : s.Aligned) (state : NsTimerState)
    {slots remainingSlots plTimerRemainingSlots : BitVec 16}
    (hhal : s.hal = some plTimerRemainingSlots)
    (hleft : (started state slots remainingSlots t).left plTimerRemainingSlots.toNat
      = some (max 1 slots.toNat))
    (hfits : (started state slots remainingSlots t).Fits plTimerRemainingSlots.toNat)
    (hstate : state ≠ .runInterrupt) :
    ∃ f, s.Sets (s.update timerId (started state slots remainingSlots)) timerId
      (some (max 1 slots.toNat, slots)) s.lefts f := by
  have hbefore : s.halSlots = plTimerRemainingSlots.toNat := by simp [halSlots, hhal]
  have hafter : (s.update timerId (started state slots remainingSlots)).halSlots
      = plTimerRemainingSlots.toNat := hbefore
  refine ⟨_, { list := rfl, id_eq := fun t => ?_, handler_eq := fun t => ?_
               running := aligned.running, positive := aligned.positive
               idle := fun _ hnone => ?_, fits := fun u hu => ?_, interrupt := fun u hu h => ?_
               set_eq := fun u hu hid => ?_, others := fun u hu hne => ?_ }⟩
  · split <;> rfl
  · split <;> rfl
  · cases hhal.symm.trans hnone
  · rw [hafter]
    split
    · exact hfits
    · exact hbefore ▸ aligned.fits u hu
  · split at h
    · exact absurd h hstate
    · exact h
  · rw [if_pos hid, hafter]
    show ((started state slots remainingSlots t).left _).map _ = _
    rw [hleft]
    rfl
  · rw [if_neg hne, hafter, lefts, hbefore]
    exact ⟨rfl, rfl⟩

/-- A start while the HAL timer is not running: it is started for the first HOLD timer. A HOLD timer
runs out after its remaining slots, and one that was ACTIVE with the new period. -/
lemma Aligned.start_resting (aligned : s.Aligned) {slots : BitVec 16} (ht : t ∈ s.nsTimerList)
    (hzero : slots = 0 →
      ∀ u ∈ s.nsTimerList, u.nsTimerId ≠ t.nsTimerId → u.timerState ≠ .hold) :
    ∃ f period, s.Sets (nsTimerGetNextRunningTo (s.update t.nsTimerId (started .hold slots slots)))
        t.nsTimerId (some (max 1 slots.toNat, slots))
        (fun u => if u.timerState = .hold then some u.remainingSlots.toNat else u.left period) f ∧
      (period = max 1 slots.toNat ∨ ∃ u ∈ s.nsTimerList, u.nsTimerId ≠ t.nsTimerId ∧
        u.timerState = .hold ∧ period = u.remainingSlots.toNat) := by
  let timers := s.nsTimerList.map fun u =>
    if u.nsTimerId = t.nsTimerId then started .hold slots slots u else u
  have hids : (timers.map (·.nsTimerId)).Nodup :=
    nodup_map_timers aligned.ids fun u => by split <;> rfl
  have hmem : started .hold slots slots t ∈ timers := List.mem_map.mpr ⟨t, ht, if_pos rfl⟩
  have hother : ∀ u ∈ s.nsTimerList, u.nsTimerId ≠ t.nsTimerId → u ∈ timers := fun u hu hne =>
    List.mem_map.mpr ⟨u, hu, if_neg hne⟩
  have hpositive : ∀ u ∈ s.nsTimerList, u.timerState = .hold → 0 < u.remainingSlots.toNat :=
    fun u hu hold => (aligned.fits u hu hold).1
  rcases nsTimerGetNextRunningTo_eq (s.update t.nsTimerId (started .hold slots slots)) hids with
    ⟨hnone, -⟩ | ⟨firstTimer, first, heq⟩
  · exact absurd rfl (hnone _ hmem)
  have hfirst : IsFirst timers firstTimer := first
  have hle : firstTimer.remainingSlots.toNat ≤ slots.toNat := hfirst.least _ hmem rfl
  -- the first timer is the one that was started, or another one
  have hcase : firstTimer.remainingSlots = slots ∨ ∃ u ∈ s.nsTimerList,
      u.nsTimerId ≠ t.nsTimerId ∧ u.timerState = .hold ∧ u = firstTimer := by
    obtain ⟨u, hu, hsame⟩ := List.mem_map.mp hfirst.mem
    split at hsame
    · left
      rw [← hsame]
      rfl
    · next hne => exact Or.inr ⟨u, hu, hne, hsame ▸ hfirst.hold, hsame⟩
  have hlist : (nsTimerGetNextRunningTo
      (s.update t.nsTimerId (started .hold slots slots))).nsTimerList
        = s.nsTimerList.map fun u => reduceHold firstTimer.remainingSlots
          (if u.nsTimerId = t.nsTimerId then started .hold slots slots u else u) := by
    rw [heq]
    exact List.map_map ..
  have hhal' : (nsTimerGetNextRunningTo (s.update t.nsTimerId (started .hold slots slots))).hal
      = some (plSlots firstTimer.remainingSlots) := by rw [heq]
  have hafter : (nsTimerGetNextRunningTo
      (s.update t.nsTimerId (started .hold slots slots))).halSlots
        = max 1 firstTimer.remainingSlots.toNat := by
    rw [halSlots, hhal', Option.elim_some, toNat_plSlots]
  have hset : ∀ u ∈ s.nsTimerList, u.nsTimerId = t.nsTimerId →
      (reduceHold firstTimer.remainingSlots (started .hold slots slots u)).left
          (max 1 firstTimer.remainingSlots.toNat) = some (max 1 slots.toNat) ∧
        (reduceHold firstTimer.remainingSlots (started .hold slots slots u)).Fits
          (max 1 firstTimer.remainingSlots.toNat) := by
    intro u hu hid
    refine reduceHold_left_of_first (t := started .hold slots slots u) hfirst
      (List.mem_map.mpr ⟨u, hu, if_pos hid⟩) rfl fun hne => ?_
    rcases hcase with hfirst | ⟨v, hv, -, hold, rfl⟩
    · exact absurd hfirst hne
    · exact hpositive v hv hold
  have hothers : ∀ u ∈ s.nsTimerList, u.nsTimerId ≠ t.nsTimerId →
      (reduceHold firstTimer.remainingSlots u).left (max 1 firstTimer.remainingSlots.toNat)
          = (if u.timerState = .hold then some u.remainingSlots.toNat
              else u.left (max 1 firstTimer.remainingSlots.toNat)) ∧
        (reduceHold firstTimer.remainingSlots u).Fits
          (max 1 firstTimer.remainingSlots.toNat) := by
    intro u hu hne
    by_cases hold : u.timerState = .hold
    · have hpos : 1 ≤ u.remainingSlots.toNat := hpositive u hu hold
      rw [if_pos hold, ← max_eq_right hpos]
      refine reduceHold_left_of_first hfirst (hother u hu hne) hold fun _ => ?_
      rcases hcase with hfirst | ⟨v, hv, -, hold, rfl⟩
      · rw [hfirst]
        by_contra hnot
        exact hzero (BitVec.eq_of_toNat_eq (by simpa using hnot)) u hu hne hold
      · exact hpositive v hv hold
    · rw [if_neg hold, reduceHold_of_ne hold]
      exact ⟨rfl, fun h => absurd h hold⟩
  refine ⟨_, max 1 firstTimer.remainingSlots.toNat,
    { list := hlist, id_eq := fun u => ?_, handler_eq := fun u => ?_
      running := by rw [heq]; rfl, positive := fun r hr => ?_
      idle := fun _ hnone => by simp [hhal'] at hnone, fits := fun u hu => ?_
      interrupt := fun u hu h => ?_, set_eq := fun u hu hid => ?_
      others := fun u hu hne => ?_ }, ?_⟩
  · rw [(reduceHold_fields _ _).1]
    split <;> rfl
  · rw [(reduceHold_fields _ _).2.2.1]
    split <;> rfl
  · rw [hhal', Option.some.injEq] at hr
    rw [← hr, toNat_plSlots]
    omega
  · rw [hafter]
    split
    · next hid => exact (hset u hu hid).2
    · next hne => exact (hothers u hu hne).2
  · have hbefore := (reduceHold_fields _ _).2.2.2 h
    split at hbefore
    · cases hbefore
    · exact hbefore
  · rw [if_pos hid, hafter, (hset u hu hid).1, (reduceHold_fields _ _).2.1]
    rfl
  · rw [if_neg hne, hafter]
    exact ⟨(hothers u hu hne).1, (reduceHold_fields _ _).2.1⟩
  · rcases hcase with hfirst | ⟨v, hv, hne, hold, rfl⟩
    · exact Or.inl (by rw [hfirst])
    · exact Or.inr ⟨v, hv, hne, hold, max_eq_right (hpositive v hv hold)⟩

/-- A start while the HAL timer is running gives the timer its deadline, and leaves the others. -/
lemma Aligned.start_running (aligned : s.Aligned) (idle slots : BitVec 16)
    {plTimerRemainingSlots : BitVec 16} (hhal : s.hal = some plTimerRemainingSlots)
    (hfound : (nsTimerGetPointerToTimerStruct timerId s).isSome)
    (hzero : slots = 0 → ∀ t ∈ s.nsTimerList, t.nsTimerId ≠ timerId → ¬ t.Waits) :
    (eventOSCallbackTimerStart idle timerId slots s).2 = 0 ∧
      ∃ f, s.Sets (eventOSCallbackTimerStart idle timerId slots s).1 timerId
        (some (max 1 slots.toNat, slots)) s.lefts f := by
  obtain ⟨t, ht⟩ := Option.isSome_iff_exists.mp hfound
  obtain ⟨hmem, rfl⟩ := mem_of_pointer ht
  simp only [eventOSCallbackTimerStart, ht]
  have hrunning : s.nsTimerRunning = true := by rw [aligned.running, hhal]; rfl
  have hremaining : platformTimerGetRemainingSlots idle s = plTimerRemainingSlots := by
    simp [platformTimerGetRemainingSlots, hhal]
  have hpos := aligned.positive _ hhal
  have hsame : slots - 0 = slots := by simp
  simp only [hrunning, hremaining, hsame, ↓reduceIte]
  split
  · next hlt =>
    rw [BitVec.lt_def] at hlt
    exact ⟨rfl, aligned.start_shorter hhal hlt hzero rfl rfl rfl⟩
  · next hle =>
    rw [BitVec.lt_def, not_lt] at hle
    have hslots := slots.isLt
    split
    · next hlt =>
      rw [BitVec.lt_def] at hlt
      have hsub : (slots - plTimerRemainingSlots).toNat
          = slots.toNat - plTimerRemainingSlots.toNat := by
        rw [BitVec.toNat_sub]
        omega
      refine ⟨rfl, aligned.start_keeps .hold (t := t) hhal ?_ ?_ (by simp)⟩
      · simp only [NsTimerStruct.left, started, hsub, Option.some.injEq]
        omega
      · simp only [NsTimerStruct.Fits, started, hsub, forall_const]
        omega
    · next hge =>
      rw [BitVec.lt_def, not_lt] at hge
      refine ⟨rfl, aligned.start_keeps .active (t := t) hhal ?_ ?_ (by simp)⟩
      · simp only [NsTimerStruct.left, started, Option.some.injEq]
        omega
      · simp [NsTimerStruct.Fits, started]

/-- **A start gives the timer its deadline**, and leaves those of the others. -/
theorem Ticking.start (ticking : s.Ticking) (idle slots : BitVec 16)
    (hfound : (nsTimerGetPointerToTimerStruct timerId s).isSome)
    (hzero : slots = 0 → s.Alone timerId) :
    (eventOSCallbackTimerStart idle timerId slots s).2 = 0 ∧
      ∃ f, s.Sets (eventOSCallbackTimerStart idle timerId slots s).1 timerId
        (some (max 1 slots.toNat, slots)) s.lefts f := by
  cases hhal : s.hal with
  | none =>
    obtain ⟨t, ht⟩ := Option.isSome_iff_exists.mp hfound
    obtain ⟨hmem, rfl⟩ := mem_of_pointer ht
    have hidle := ticking.idle hhal
    have hrunning : s.nsTimerRunning = false := by rw [ticking.running, hhal]; rfl
    simp only [eventOSCallbackTimerStart, ht, hrunning, Bool.false_eq_true, ↓reduceIte, true_and]
    obtain ⟨f, period, sets, -⟩ := ticking.toAligned.start_resting hmem fun _ u hu _ hold =>
      hidle u hu (Or.inr hold)
    refine ⟨f, sets.congr fun u hu _ => ?_⟩
    rw [if_neg fun hold => hidle u hu (Or.inr hold)]
    exact NsTimerStruct.left_of_not_waits (hidle u hu) _ _
  | some plTimerRemainingSlots =>
    have hrunning : s.nsTimerRunning = true := by rw [ticking.running, hhal]; rfl
    exact ticking.toAligned.start_running idle slots hhal hfound fun h => hzero h hrunning

/-! ## Stopping a timer -/

/-- The write to the timer that is stopped. -/
def stopped (t : NsTimerStruct) : NsTimerStruct :=
  { t with timerState := .stop, remainingSlots := 0 }

/-- A stop that leaves the period of the HAL timer as it is. -/
lemma Aligned.stop_keeps (aligned : s.Aligned) {g : NsTimerStruct → NsTimerStruct}
    (hg : ∀ t, (g t).timerState = .stop ∧ (g t).nsTimerId = t.nsTimerId ∧
      (g t).interruptHandler = t.interruptHandler)
    (hlist : s'.nsTimerList = s.nsTimerList.map fun t => if t.nsTimerId = timerId then g t else t)
    (hhal : s'.hal = s.hal) (hrunning : s'.nsTimerRunning = s.nsTimerRunning) :
    ∃ f, s.Sets s' timerId none s.lefts f := by
  have hslots : s'.halSlots = s.halSlots := by rw [halSlots, hhal, halSlots]
  refine ⟨_, { list := hlist, id_eq := fun t => ?_, handler_eq := fun t => ?_
               running := by rw [hrunning, hhal, aligned.running]
               positive := hhal ▸ aligned.positive, idle := fun hidle hnone t ht => ?_
               fits := fun t ht => ?_, interrupt := fun t ht h => ?_
               set_eq := fun t ht hid => ?_, others := fun t ht hne => ?_ }⟩
  · split
    · exact (hg t).2.1
    · rfl
  · split
    · exact (hg t).2.2
    · rfl
  · split
    · simp [NsTimerStruct.Waits, (hg t).1]
    · exact hidle (hhal ▸ hnone) t ht
  · rw [hslots]
    split
    · simp [NsTimerStruct.Fits, (hg t).1]
    · exact aligned.fits t ht
  · split at h
    · simp [(hg t).1] at h
    · exact h
  · rw [if_pos hid]
    simp [NsTimerStruct.left, (hg t).1]
  · rw [if_neg hne, hslots]
    exact ⟨rfl, rfl⟩

lemma addRemaining_fields (plTimerRemainingSlots : BitVec 16) (t : NsTimerStruct) :
    (addRemaining plTimerRemainingSlots t).nsTimerId = t.nsTimerId ∧
      (addRemaining plTimerRemainingSlots t).slots = t.slots ∧
      (addRemaining plTimerRemainingSlots t).interruptHandler = t.interruptHandler ∧
      (addRemaining plTimerRemainingSlots t).timerState = t.timerState := by
  unfold addRemaining
  split <;> exact ⟨rfl, rfl, rfl, rfl⟩

lemma addRemaining_of_ne (h : t.timerState ≠ .hold) (plTimerRemainingSlots : BitVec 16) :
    addRemaining plTimerRemainingSlots t = t := by
  simp [addRemaining, h]

lemma addRemaining_of_hold (hold : t.timerState = .hold) (plTimerRemainingSlots : BitVec 16) :
    addRemaining plTimerRemainingSlots t
      = { t with remainingSlots := t.remainingSlots + plTimerRemainingSlots } := by
  simp [addRemaining, hold]

/-- A stop that starts a new period for the HOLD timers: they run out after their remaining slots
with those of the HAL timer. -/
lemma Aligned.stop_rearms {plTimerRemainingSlots : BitVec 16}
    (hactive : ∀ t ∈ s.nsTimerList, t.nsTimerId ≠ timerId → t.timerState ≠ .active)
    (hpositive : ∀ t ∈ s.nsTimerList, t.nsTimerId ≠ timerId → t.timerState = .hold →
      0 < (t.remainingSlots + plTimerRemainingSlots).toNat)
    {firstTimer : NsTimerStruct}
    (first : IsFirst ((s.nsTimerList.map fun t =>
      if t.nsTimerId = timerId then stopped t else t).map (addRemaining plTimerRemainingSlots))
      firstTimer)
    (hlist : s'.nsTimerList = ((s.nsTimerList.map fun t =>
      if t.nsTimerId = timerId then stopped t else t).map (addRemaining plTimerRemainingSlots)).map
        (reduceHold firstTimer.remainingSlots))
    (hhal' : s'.hal = some (plSlots firstTimer.remainingSlots))
    (hrunning : s'.nsTimerRunning = true) :
    ∃ f, s.Sets s' timerId none (fun t =>
      if t.timerState = .hold then some (t.remainingSlots + plTimerRemainingSlots).toNat
      else s.lefts t) f := by
  -- the new period is that of a HOLD timer
  have hpos : 0 < firstTimer.remainingSlots.toNat := by
    rw [List.map_map] at first
    obtain ⟨u, hu, hfirst⟩ := List.mem_map.mp first.mem
    have hstate := first.hold
    by_cases hid : u.nsTimerId = timerId
    · simp only [Function.comp_apply, hid, ↓reduceIte, addRemaining, stopped,
        reduceCtorEq] at hfirst
      simp [← hfirst] at hstate
    · simp only [Function.comp_apply, hid, ↓reduceIte] at hfirst
      rw [← hfirst, (addRemaining_fields _ _).2.2.2] at hstate
      rw [← hfirst, addRemaining_of_hold hstate]
      exact hpositive u hu hid hstate
  have hafter : s'.halSlots = firstTimer.remainingSlots.toNat := by
    rw [halSlots, hhal', Option.elim_some, toNat_plSlots]
    omega
  have hothers : ∀ t ∈ s.nsTimerList, t.nsTimerId ≠ timerId →
      (reduceHold firstTimer.remainingSlots (addRemaining plTimerRemainingSlots t)).left s'.halSlots
          = (if t.timerState = .hold then some (t.remainingSlots + plTimerRemainingSlots).toNat
              else s.lefts t) ∧
        (reduceHold firstTimer.remainingSlots (addRemaining plTimerRemainingSlots t)).Fits
          s'.halSlots := by
    intro t ht hne
    by_cases hold : t.timerState = .hold
    · have hle := first.least (addRemaining plTimerRemainingSlots t)
        (List.mem_map_of_mem (List.mem_map.mpr ⟨t, ht, if_neg hne⟩))
        ((addRemaining_fields _ _).2.2.2.trans hold)
      rw [addRemaining_of_hold hold] at hle ⊢
      rw [if_pos hold, hafter]
      exact reduceHold_left (t := { t with
        remainingSlots := t.remainingSlots + plTimerRemainingSlots }) hold hpos hle
    · have hwaits : ¬ t.Waits := fun h => h.elim (hactive t ht hne) hold
      rw [addRemaining_of_ne hold, reduceHold_of_ne hold, if_neg hold]
      exact ⟨NsTimerStruct.left_of_not_waits hwaits _ _, NsTimerStruct.fits_of_not_waits hwaits _⟩
  have hset : ∀ t : NsTimerStruct, reduceHold firstTimer.remainingSlots
      (addRemaining plTimerRemainingSlots (stopped t)) = stopped t := by
    intro t
    rfl
  refine ⟨fun t => reduceHold firstTimer.remainingSlots
      (addRemaining plTimerRemainingSlots (if t.nsTimerId = timerId then stopped t else t)),
    { list := by rw [hlist, List.map_map, List.map_map]; rfl
      id_eq := fun t => ?_, handler_eq := fun t => ?_
      running := by rw [hrunning, hhal']; rfl, positive := fun r hr => ?_
      idle := fun _ hnone => by simp [hhal'] at hnone, fits := fun t ht => ?_
      interrupt := fun t ht h => ?_, set_eq := fun t ht hid => ?_
      others := fun t ht hne => ?_ }⟩
  · rw [(reduceHold_fields _ _).1, (addRemaining_fields _ _).1]
    split <;> rfl
  · rw [(reduceHold_fields _ _).2.2.1, (addRemaining_fields _ _).2.2.1]
    split <;> rfl
  · rw [hhal', Option.some.injEq] at hr
    rw [← hr, toNat_plSlots]
    omega
  · split
    · rw [hset]
      simp [NsTimerStruct.Fits, stopped]
    · next hne => exact (hothers t ht hne).2
  · split at h
    · rw [hset] at h
      cases h
    · exact (addRemaining_fields _ _).2.2.2.symm.trans ((reduceHold_fields _ _).2.2.2 h)
  · rw [if_pos hid, hset]
    rfl
  · rw [if_neg hne, (reduceHold_fields _ _).2.1]
    exact ⟨(hothers t ht hne).1, (addRemaining_fields _ _).2.1⟩

/-- A timer that is stopped already. -/
lemma Aligned.stop_again (aligned : s.Aligned) (ht : t ∈ s.nsTimerList)
    (hstate : t.timerState = .stop) : ∃ f, s.Sets s t.nsTimerId none s.lefts f := by
  refine ⟨id, { list := (List.map_id _).symm, id_eq := fun _ => rfl, handler_eq := fun _ => rfl
                running := aligned.running, positive := aligned.positive
                idle := fun hidle => hidle, fits := aligned.fits, interrupt := fun _ _ h => h
                set_eq := fun u hu hid => ?_, others := fun _ _ _ => ⟨rfl, rfl⟩ }⟩
  obtain rfl : u = t := List.inj_on_of_nodup_map aligned.ids hu ht hid
  simp [NsTimerStruct.left, hstate]

/-- A stop either leaves the period of the HAL timer, or starts one for the HOLD timers if no timer
is ACTIVE. -/
lemma Aligned.stop (aligned : s.Aligned) (idle : BitVec 16)
    (hfound : (nsTimerGetPointerToTimerStruct timerId s).isSome) :
    (eventOSCallbackTimerStop idle timerId s).2 = 0 ∧
      ((∃ f, s.Sets (eventOSCallbackTimerStop idle timerId s).1 timerId none s.lefts f) ∧
          (eventOSCallbackTimerStop idle timerId s).1.hal = s.hal ∨
        (∃ v ∈ s.nsTimerList, v.nsTimerId ≠ timerId ∧ v.timerState = .hold) ∧
          (∀ t ∈ s.nsTimerList, t.nsTimerId ≠ timerId → t.timerState ≠ .active) ∧
          ((∀ t ∈ s.nsTimerList, t.nsTimerId ≠ timerId → t.timerState = .hold →
              0 < (t.remainingSlots + platformTimerGetRemainingSlots idle s).toNat) →
            ∃ f, s.Sets (eventOSCallbackTimerStop idle timerId s).1 timerId none (fun t =>
              if t.timerState = .hold then
                some (t.remainingSlots + platformTimerGetRemainingSlots idle s).toNat
              else s.lefts t) f)) := by
  obtain ⟨t, ht⟩ := Option.isSome_iff_exists.mp hfound
  obtain ⟨hmem, rfl⟩ := mem_of_pointer ht
  simp only [eventOSCallbackTimerStop, ht]
  split
  · next hstate => exact ⟨rfl, Or.inl ⟨aligned.stop_again hmem hstate, rfl⟩⟩
  · split
    · exact ⟨rfl, Or.inl
        ⟨aligned.stop_keeps (g := stopped) (fun _ => ⟨rfl, rfl, rfl⟩) rfl rfl rfl, rfl⟩⟩
    · next hany =>
      have hactive : ∀ u ∈ s.nsTimerList, u.nsTimerId ≠ t.nsTimerId → u.timerState ≠ .active := by
        intro u hu hne hstate
        refine hany (List.any_eq_true.mpr ⟨u, List.mem_map.mpr ⟨u, hu, if_neg hne⟩, ?_⟩)
        simpa using hstate
      let timers := (s.nsTimerList.map fun u =>
        if u.nsTimerId = t.nsTimerId then stopped u else u).map
          (addRemaining (platformTimerGetRemainingSlots idle s))
      obtain ⟨-, hfirst⟩ := findHold_spec timers
      -- a HOLD timer among them is another one
      have hhold : ∀ u ∈ timers, u.timerState = .hold → ∃ v ∈ s.nsTimerList,
          v.nsTimerId ≠ t.nsTimerId ∧ v.timerState = .hold := by
        intro u hu hstate
        obtain ⟨w, hw, rfl⟩ := List.mem_map.mp hu
        obtain ⟨v, hv, rfl⟩ := List.mem_map.mp hw
        by_cases hid : v.nsTimerId = t.nsTimerId
        · simp [hid, addRemaining, stopped] at hstate
        · rw [if_neg hid, (addRemaining_fields _ _).2.2.2] at hstate
          exact ⟨v, hv, hid, hstate⟩
      split
      · next hnone =>
        have hnone' : (timers.foldl findHold (none, 0)).1 = none := hnone
        rw [hnone'] at hfirst
        refine ⟨rfl, Or.inl ⟨aligned.stop_keeps (g := stopped) (fun _ => ⟨rfl, rfl, rfl⟩) ?_ rfl
          rfl, rfl⟩⟩
        refine (List.map_map ..).trans (List.map_congr_left fun u hu => ?_)
        have hne : (if u.nsTimerId = t.nsTimerId then stopped u else u).timerState ≠ .hold := by
          intro hstate
          exact hfirst (addRemaining _ _) (List.mem_map_of_mem (List.mem_map_of_mem hu))
            ((addRemaining_fields _ _).2.2.2.trans hstate)
        exact addRemaining_of_ne hne _
      · next firstTimer hsome =>
        have hsome' : (timers.foldl findHold (none, 0)).1 = some firstTimer := hsome
        rw [hsome'] at hfirst
        have hfirst : IsFirst timers firstTimer := hfirst
        refine ⟨rfl, Or.inr ⟨hhold _ hfirst.mem hfirst.hold, hactive, fun hpositive => ?_⟩⟩
        have hids : (timers.map (·.nsTimerId)).Nodup :=
          nodup_map_timers (nodup_map_timers aligned.ids fun u => by split <;> rfl)
            fun u => (addRemaining_fields _ u).1
        exact Aligned.stop_rearms hactive hpositive hfirst
          (map_reduceHold_of_first hids hfirst rfl) rfl rfl

/-- A stop while the HAL timer is running leaves the deadlines of the others. -/
lemma Aligned.stop_running (aligned : s.Aligned) (idle : BitVec 16)
    {plTimerRemainingSlots : BitVec 16} (hhal : s.hal = some plTimerRemainingSlots)
    (hfound : (nsTimerGetPointerToTimerStruct timerId s).isSome) :
    ∃ f, s.Sets (eventOSCallbackTimerStop idle timerId s).1 timerId none s.lefts f := by
  have hremaining : platformTimerGetRemainingSlots idle s = plTimerRemainingSlots := by
    simp [platformTimerGetRemainingSlots, hhal]
  have hbefore : s.halSlots = plTimerRemainingSlots.toNat := by simp [halSlots, hhal]
  have hadd : ∀ t ∈ s.nsTimerList, t.timerState = .hold →
      0 < t.remainingSlots.toNat ∧ (t.remainingSlots + plTimerRemainingSlots).toNat
        = plTimerRemainingSlots.toNat + t.remainingSlots.toNat := by
    intro t ht hold
    have hfits := aligned.fits t ht hold
    rw [hbefore] at hfits
    rw [BitVec.toNat_add]
    omega
  rcases (aligned.stop idle hfound).2 with ⟨hsets, -⟩ | ⟨-, hactive, hrearms⟩
  · exact hsets
  · rw [hremaining] at hrearms
    obtain ⟨f, sets⟩ := hrearms fun t ht _ hold => by
      have h := hadd t ht hold
      omega
    refine ⟨f, sets.congr fun t ht _ => ?_⟩
    split
    · next hold => simp [lefts, NsTimerStruct.left, hold, hbefore, (hadd t ht hold).2]
    · rfl

/-- **A stop takes the deadline of the timer**, and leaves those of the others. -/
theorem Ticking.stop (ticking : s.Ticking) (idle : BitVec 16)
    (hfound : (nsTimerGetPointerToTimerStruct timerId s).isSome) :
    ∃ f, s.Sets (eventOSCallbackTimerStop idle timerId s).1 timerId none s.lefts f := by
  cases hhal : s.hal with
  | none =>
    rcases (ticking.toAligned.stop idle hfound).2 with ⟨hsets, -⟩ | ⟨⟨v, hv, -, hold⟩, -⟩
    · exact hsets
    · exact absurd (Or.inr hold) (ticking.idle hhal v hv)
  | some plTimerRemainingSlots => exact ticking.toAligned.stop_running idle hhal hfound

/-! ## The interrupt handler -/

/-- The period of the HAL timer has ended, and the interrupt handler is to be entered. -/
structure Expired (s : CallbackTimers) : Prop where
  ids : (s.nsTimerList.map (·.nsTimerId)).Nodup
  range : ∀ t ∈ s.nsTimerList, t.nsTimerId.toNat < 128
  hal : s.hal = none
  fits : ∀ t ∈ s.nsTimerList, t.Fits 0
  quiet : ∀ t ∈ s.nsTimerList, t.timerState ≠ .runInterrupt

/-- What the interrupt handler makes of a timer that runs out. -/
def markInterrupt (t : NsTimerStruct) : NsTimerStruct :=
  if t.timerState = .active then { t with timerState := .runInterrupt } else t

/-- `ns_timer_interrupt_handler` before its loop. -/
def beginInterrupt (s : CallbackTimers) : CallbackTimers :=
  nsTimerGetNextRunningTo { s with
    nsTimerRunning := false
    nsTimerList := s.nsTimerList.map markInterrupt }

lemma nsTimerInterruptHandler_eq (s : CallbackTimers) : nsTimerInterruptHandler s
    = nsTimerCallInterrupts 0 (s.nsTimerList.countP fun t => t.timerState = .active)
        s.beginInterrupt := rfl

lemma markInterrupt_left (t : NsTimerStruct) (fits : t.Fits 0)
    (hquiet : t.timerState ≠ .runInterrupt) :
    (markInterrupt t).left 0 = t.left 0 ∧ (markInterrupt t).Fits 0 ∧
      (markInterrupt t).timerState ≠ .active ∧
      ((markInterrupt t).timerState = .runInterrupt → t.timerState = .active) := by
  unfold markInterrupt
  cases hstate : t.timerState <;> simp_all [NsTimerStruct.left, NsTimerStruct.Fits]

lemma markInterrupt_fields (t : NsTimerStruct) :
    (markInterrupt t).nsTimerId = t.nsTimerId ∧ (markInterrupt t).slots = t.slots ∧
      (markInterrupt t).interruptHandler = t.interruptHandler := by
  unfold markInterrupt
  split <;> exact ⟨rfl, rfl, rfl⟩

/-- The part of the interrupt handler before the loop keeps every deadline. -/
lemma Expired.begin (expired : s.Expired) :
    ∃ f, s.Maps s.beginInterrupt f ∧ s.beginInterrupt.Ticking ∧
      (∀ t ∈ s.nsTimerList,
        (f t).left s.beginInterrupt.halSlots = s.lefts t ∧ (f t).slots = t.slots) ∧
      s.beginInterrupt.Loops 0 (s.nsTimerList.countP fun t => t.timerState = .active) := by
  have hzero : s.lefts = NsTimerStruct.left 0 := by
    funext t
    simp [lefts, halSlots, expired.hal]
  have hids : ((s.nsTimerList.map markInterrupt).map (·.nsTimerId)).Nodup :=
    nodup_map_timers expired.ids fun t => (markInterrupt_fields t).1
  have hmark := fun t ht => markInterrupt_left t (expired.fits t ht) (expired.quiet t ht)
  -- only timers that were active are to be called
  have hloops : ∀ {f : NsTimerStruct → NsTimerStruct}, s.Maps s.beginInterrupt f →
      (∀ t, (f t).timerState = .runInterrupt → (markInterrupt t).timerState = .runInterrupt) →
      s.beginInterrupt.Loops 0 (s.nsTimerList.countP fun t => t.timerState = .active) := by
    intro f maps hf
    refine ⟨by simp, ?_⟩
    rw [List.drop_zero, maps.list, List.countP_map]
    refine List.countP_mono_left fun t ht h => ?_
    simp only [Function.comp_apply, decide_eq_true_eq] at h ⊢
    exact (hmark t ht).2.2.2 (hf t h)
  rw [hzero]
  rcases nsTimerGetNextRunningTo_eq { s with
    nsTimerRunning := false, nsTimerList := s.nsTimerList.map markInterrupt } hids with
    ⟨hnone, heq⟩ | ⟨firstTimer, first, heq⟩
  · have hstate : s.beginInterrupt.hal = none := by rw [beginInterrupt, heq]; exact expired.hal
    have hslots : s.beginInterrupt.halSlots = 0 := by simp [halSlots, hstate]
    have hlist : s.beginInterrupt.nsTimerList = s.nsTimerList.map markInterrupt := by
      rw [beginInterrupt, heq]
    have maps : s.Maps s.beginInterrupt markInterrupt :=
      { list := hlist
        id_eq := fun t => (markInterrupt_fields t).1
        handler_eq := fun t => (markInterrupt_fields t).2.2 }
    refine ⟨markInterrupt, maps, ⟨maps.aligned expired.ids expired.range ?_ (by simp [hstate])
      (fun t ht => ?_), fun _ t ht hwaits => ?_⟩, fun t ht => ?_, hloops maps fun t h => h⟩
    · rw [hstate, beginInterrupt, heq]
      rfl
    · rw [hslots]
      exact (hmark t ht).2.1
    · rw [hlist] at ht
      obtain ⟨u, hu, rfl⟩ := List.mem_map.mp ht
      exact hwaits.elim (hmark u hu).2.2.1 (hnone _ (List.mem_map_of_mem hu))
    · rw [hslots]
      exact ⟨(hmark t ht).1, (markInterrupt_fields t).2.1⟩
  · have hstate : s.beginInterrupt.hal = some (plSlots firstTimer.remainingSlots) := by
      rw [beginInterrupt, heq]
    have hpos : 0 < firstTimer.remainingSlots.toNat := by
      obtain ⟨t, ht, rfl⟩ := List.mem_map.mp first.mem
      exact ((hmark t ht).2.1 first.hold).1
    have hslots : s.beginInterrupt.halSlots = firstTimer.remainingSlots.toNat := by
      rw [halSlots, hstate, Option.elim_some, toNat_plSlots]
      omega
    have maps : s.Maps s.beginInterrupt
        (fun t => reduceHold firstTimer.remainingSlots (markInterrupt t)) :=
      { list := by rw [beginInterrupt, heq]; exact List.map_map ..
        id_eq := fun t => (reduceHold_fields _ _).1.trans (markInterrupt_fields t).1
        handler_eq := fun t => (reduceHold_fields _ _).2.2.1.trans (markInterrupt_fields t).2.2 }
    have hreduce : ∀ t ∈ s.nsTimerList,
        (reduceHold firstTimer.remainingSlots (markInterrupt t)).left s.beginInterrupt.halSlots
            = t.left 0 ∧
          (reduceHold firstTimer.remainingSlots (markInterrupt t)).Fits
            s.beginInterrupt.halSlots := by
      intro t ht
      obtain ⟨hleft, -, hactive, -⟩ := hmark t ht
      rw [hslots]
      by_cases hold : (markInterrupt t).timerState = .hold
      · obtain ⟨hleft', hfits'⟩ := reduceHold_left hold hpos
          (first.least _ (List.mem_map_of_mem ht) hold)
        refine ⟨hleft'.trans (Eq.trans ?_ hleft), hfits'⟩
        simp [NsTimerStruct.left, hold]
      · have hwaits : ¬ (markInterrupt t).Waits := fun h => h.elim hactive hold
        rw [reduceHold_of_ne hold]
        exact ⟨(NsTimerStruct.left_of_not_waits hwaits _ 0).trans hleft,
          NsTimerStruct.fits_of_not_waits hwaits _⟩
    refine ⟨_, maps, ⟨maps.aligned expired.ids expired.range ?_ (fun r hr => ?_)
      (fun t ht => (hreduce t ht).2), by simp [hstate]⟩, fun t ht => ⟨(hreduce t ht).1, ?_⟩,
      hloops maps fun t h => (reduceHold_fields _ _).2.2.2 h⟩
    · rw [hstate, beginInterrupt, heq]
      rfl
    · rw [hstate, Option.some.injEq] at hr
      rw [← hr, toNat_plSlots]
      omega
    · exact (reduceHold_fields _ _).2.1.trans (markInterrupt_fields t).2.1

/-- No calls are to come outside the interrupt handler. -/
def Looped (s : CallbackTimers) : Prop :=
  match s.control with
  | .main => s.Loops 0 0
  | .expired => False
  | .handler next i => s.Loops next (i - 1)

/-- The invariant of the callback timers, as long as the HAL timer is not put to sleep. -/
def Armed (s : CallbackTimers) : Prop :=
  s.Expired ∧ s.control = .expired ∨ s.Ticking ∧ s.Looped

lemma Looped.ne_expired (looped : s.Looped) : s.control ≠ .expired := by
  intro h
  simp [Looped, h] at looped

lemma Looped.main (looped : s.Looped) (h : s.control = .main) : s.Loops 0 0 := by
  simpa only [Looped, h] using looped

lemma Looped.handler (looped : s.Looped) {next i : ℕ} (h : s.control = .handler next i) :
    s.Loops next (i - 1) := by
  simpa only [Looped, h] using looped

lemma Looped.keep (looped : s.Looped) (hcontrol : s'.control = s.control)
    (hloops : ∀ next n, s.Loops next n → s'.Loops next n) : s'.Looped := by
  unfold Looped at looped ⊢
  rw [hcontrol]
  split at looped
  · exact hloops _ _ looped
  · exact looped
  · exact hloops _ _ looped

lemma Armed.ticking (armed : s.Armed) (h : s.control ≠ .expired) : s.Ticking ∧ s.Looped :=
  armed.resolve_left fun hexpired => h hexpired.2

lemma Armed.expired (armed : s.Armed) (h : s.control = .expired) : s.Expired :=
  (armed.resolve_right fun hticking => hticking.2.ne_expired h).1

lemma Aligned.congr (aligned : s.Aligned) (hlist : s'.nsTimerList = s.nsTimerList)
    (hhal : s'.hal = s.hal) (hrunning : s'.nsTimerRunning = s.nsTimerRunning) : s'.Aligned where
  ids := hlist ▸ aligned.ids
  range := hlist ▸ aligned.range
  running := by rw [hrunning, hhal, aligned.running]
  positive := hhal ▸ aligned.positive
  fits := by
    rw [hlist, halSlots, hhal]
    exact aligned.fits

lemma Ticking.congr (ticking : s.Ticking) (hlist : s'.nsTimerList = s.nsTimerList)
    (hhal : s'.hal = s.hal) (hrunning : s'.nsTimerRunning = s.nsTimerRunning) : s'.Ticking where
  toAligned := ticking.toAligned.congr hlist hhal hrunning
  idle hnone := hlist ▸ ticking.idle (hhal ▸ hnone)

/-- What the loop finds. -/
lemma nextInterrupt_spec (i pos : ℕ) (timers : List NsTimerStruct) :
    match nextInterrupt i pos timers with
    | none => timers.countP (fun t => t.timerState = .runInterrupt) ≤ i →
        ∀ t ∈ timers, t.timerState ≠ .runInterrupt
    | some (p, t) => ∃ l₁ l₂, timers = l₁ ++ t :: l₂ ∧ p = pos + l₁.length ∧
        (∀ u ∈ l₁, u.timerState ≠ .runInterrupt) ∧ t.timerState = .runInterrupt := by
  induction timers generalizing pos with
  | nil => simp [nextInterrupt]
  | cons t rest ih =>
    unfold nextInterrupt
    by_cases hzero : i = 0
    · rw [if_pos hzero]
      intro hcount u hu hstate
      have hpos : 0 < (t :: rest).countP (fun t => t.timerState = .runInterrupt) :=
        List.countP_pos_iff.mpr ⟨u, hu, by simpa using hstate⟩
      omega
    · rw [if_neg hzero]
      by_cases hstate : t.timerState = .runInterrupt
      · rw [if_pos hstate]
        exact ⟨[], rest, rfl, rfl, by simp, hstate⟩
      · rw [if_neg hstate]
        have hrest := ih (pos + 1)
        generalize nextInterrupt i (pos + 1) rest = found at hrest
        cases found with
        | none =>
          intro hcount u hu
          rw [List.countP_cons_of_neg (by simpa using hstate)] at hcount
          rcases List.mem_cons.mp hu with rfl | hu
          · exact hstate
          · exact hrest hcount u hu
        | some found =>
          obtain ⟨l₁, l₂, rfl, hp, hbefore, hfound⟩ := hrest
          refine ⟨t :: l₁, l₂, rfl, by rw [hp, List.length_cons]; omega, ?_, hfound⟩
          exact List.forall_mem_cons.mpr ⟨hstate, hbefore⟩

lemma Loops.quiet (loops : s.Loops 0 0) : ∀ t ∈ s.nsTimerList, t.timerState ≠ .runInterrupt := by
  intro t ht hstate
  have hpos : 0 < (s.nsTimerList.drop 0).countP (fun t => t.timerState = .runInterrupt) :=
    List.countP_pos_iff.mpr ⟨t, ht, by simpa using hstate⟩
  have hzero := loops.after
  omega

lemma loops_of_quiet (h : ∀ t ∈ s.nsTimerList, t.timerState ≠ .runInterrupt) : s.Loops 0 0 :=
  ⟨by simp, by rw [Nat.le_zero, List.countP_eq_zero]; simpa using h⟩

/-- **The loop calls the timers that are due**, and each of them once. -/
theorem Aligned.callInterrupts (aligned : s.Aligned) {next n : ℕ} (loops : s.Loops next n) :
    (nsTimerCallInterrupts next n s).1.Looped ∧
      match (nsTimerCallInterrupts next n s).2 with
      | none => (nsTimerCallInterrupts next n s).1 = { s with control := .main }
      | some call => ∃ t ∈ s.nsTimerList, t.timerState = .runInterrupt ∧
          call = ⟨t.interruptHandler, t.nsTimerId, t.slots⟩ ∧
          ∃ f, s.Sets (nsTimerCallInterrupts next n s).1 t.nsTimerId none s.lefts f := by
  unfold nsTimerCallInterrupts
  have hspec := nextInterrupt_spec n next (s.nsTimerList.drop next)
  generalize nextInterrupt n next (s.nsTimerList.drop next) = found at hspec
  cases found with
  | none =>
    have hquiet : ∀ t ∈ s.nsTimerList, t.timerState ≠ .runInterrupt := by
      intro t ht
      rw [← List.take_append_drop next s.nsTimerList] at ht
      rcases List.mem_append.mp ht with ht | ht
      · exact loops.before t ht
      · exact hspec loops.after t ht
    exact ⟨loops_of_quiet hquiet, rfl⟩
  | some found =>
    obtain ⟨p, t⟩ := found
    obtain ⟨l₁, l₂, hdrop, rfl, hbefore, hstate⟩ := hspec
    -- the list in front of the timer, and behind it
    have hlist : s.nsTimerList = (s.nsTimerList.take next ++ l₁) ++ t :: l₂ := by
      rw [List.append_assoc, ← hdrop, List.take_append_drop]
    have hlength : (s.nsTimerList.take next).length = next := by
      rw [List.length_take, min_eq_left]
      by_contra hlt
      rw [List.drop_eq_nil_of_le (by omega)] at hdrop
      simp at hdrop
    have hmem : t ∈ s.nsTimerList := by
      rw [hlist]
      simp
    obtain ⟨f, sets⟩ : ∃ f, s.Sets
        { s.update t.nsTimerId fun t => { t with timerState := .stop } with
          control := .handler (next + l₁.length + 1) n } t.nsTimerId none s.lefts f :=
      aligned.stop_keeps (g := fun t => { t with timerState := .stop }) (fun _ => ⟨rfl, rfl, rfl⟩)
        rfl rfl rfl
    have hcalled : (f t).timerState ≠ .runInterrupt := by
      intro h
      have hnone := sets.set_eq t hmem rfl
      simp [NsTimerStruct.left, h] at hnone
    have hloops : Loops { s.update t.nsTimerId fun t => { t with timerState := .stop } with
        control := .handler (next + l₁.length + 1) n } (next + l₁.length + 1) (n - 1) := by
      have hsplit : s.nsTimerList = (s.nsTimerList.take next ++ l₁ ++ [t]) ++ l₂ := by
        rw [List.append_assoc (_ ++ l₁), List.singleton_append, ← hlist]
      have hlen : (s.nsTimerList.take next ++ l₁ ++ [t]).length = next + l₁.length + 1 := by
        rw [List.length_append, List.length_append, hlength, List.length_singleton]
      have hlist' := sets.list
      rw [hsplit, List.map_append] at hlist'
      have hlen' : ((s.nsTimerList.take next ++ l₁ ++ [t]).map f).length
          = next + l₁.length + 1 := by rw [List.length_map, hlen]
      constructor
      · rw [hlist', List.take_left' hlen']
        intro u hu hrun
        obtain ⟨v, hv, rfl⟩ := List.mem_map.mp hu
        have hv' : v ∈ s.nsTimerList := by
          rw [hsplit]
          exact List.mem_append_left _ hv
        have hold := sets.interrupt v hv' hrun
        simp only [List.append_assoc, List.mem_append, List.mem_singleton] at hv
        rcases hv with hv | hv | rfl
        · exact loops.before v hv hold
        · exact hbefore v hv hold
        · exact hcalled hrun
      · rw [hlist', List.drop_left' hlen', List.countP_map]
        have hafter := loops.after
        rw [hdrop, List.countP_append, List.countP_cons_of_pos (by simpa using hstate)] at hafter
        have hmono : l₂.countP ((fun t => decide (t.timerState = .runInterrupt)) ∘ f)
            ≤ l₂.countP (fun t => t.timerState = .runInterrupt) := by
          refine List.countP_mono_left fun u hu h => ?_
          simp only [Function.comp_apply, decide_eq_true_eq] at h ⊢
          refine sets.interrupt u ?_ h
          rw [hsplit]
          exact List.mem_append_right _ hu
        omega
    exact ⟨hloops, t, hmem, hstate, rfl, f, sets⟩

/-! ## Time -/

/-- A slot that passes brings every deadline one slot closer. -/
lemma left_pred {t : NsTimerStruct} {hal : ℕ} (hquiet : t.timerState ≠ .runInterrupt)
    (hwaits : t.Waits → 0 < hal) (now : ℕ) :
    (t.left (hal - 1)).map (now + 1 + ·) = (t.left hal).map (now + ·) ∧
      ∀ n, t.left hal = some n → 0 < n := by
  unfold NsTimerStruct.left
  cases hstate : t.timerState with
  | active =>
    have hpos := hwaits (Or.inl hstate)
    refine ⟨congrArg some ?_, by simpa using hpos⟩
    show now + 1 + (hal - 1) = now + hal
    omega
  | hold =>
    have hpos := hwaits (Or.inr hstate)
    refine ⟨congrArg some ?_, ?_⟩
    · show now + 1 + (hal - 1 + _) = now + (hal + _)
      omega
    · rintro n ⟨⟩
      omega
  | runInterrupt => exact absurd hstate hquiet
  | stop => simp

/-- While the HAL timer is running, a slot that passes leaves the list, and brings the end of the
period one slot closer. -/
lemma Aligned.slot (aligned : s.Aligned) (looped : s.Looped) (hmain : s.control = .main)
    {slots : BitVec 16} (hhal : s.hal = some slots) :
    (s.passSlot.Expired ∧ s.passSlot.control = .expired ∨
        s.passSlot.Aligned ∧ s.passSlot.Looped ∧ s.passSlot.hal.isSome) ∧
      s.passSlot.nsTimerList = s.nsTimerList ∧ s.passSlot.halSlots = s.halSlots - 1 ∧
      0 < s.halSlots := by
  have hpos := aligned.positive slots hhal
  have hquiet := (looped.main hmain).quiet
  have hbefore : s.halSlots = slots.toNat := by simp [halSlots, hhal]
  have hfits : ∀ t ∈ s.nsTimerList, t.Fits (slots.toNat - 1) := by
    intro t ht hold
    have hfits := aligned.fits t ht hold
    omega
  simp only [passSlot, hhal]
  by_cases hle : slots ≤ 1
  · have hle' : slots.toNat ≤ 1 := hle
    have hzero : slots.toNat - 1 = 0 := by omega
    simp only [hle, ↓reduceIte]
    refine ⟨Or.inl ⟨⟨aligned.ids, aligned.range, rfl, hzero ▸ hfits, hquiet⟩, trivial⟩, trivial, ?_⟩
    simp only [halSlots, hhal, Option.elim_none, Option.elim_some]
    omega
  · have hle' : ¬ slots.toNat ≤ 1 := hle
    have hsub : (slots - 1).toNat = slots.toNat - 1 := by
      have hone : (1 : BitVec 16).toNat = 1 := rfl
      have hlt := slots.isLt
      rw [BitVec.toNat_sub, hone]
      omega
    have hafter : halSlots { s with hal := some (slots - 1) } = slots.toNat - 1 := hsub
    have hrunning : s.nsTimerRunning = true := by rw [aligned.running, hhal]; rfl
    simp only [hle, ↓reduceIte]
    refine ⟨Or.inr ⟨⟨aligned.ids, aligned.range, hrunning, fun r hr => ?_, ?_⟩, ?_, rfl⟩, trivial,
      by rw [hafter, hbefore], by omega⟩
    · rw [← Option.some.inj hr, hsub]
      omega
    · rw [hafter]
      exact hfits
    · exact looped.keep rfl fun next n loops => ⟨loops.before, loops.after⟩

/-- **Time passes only before the first deadline**, and moves none. -/
theorem Armed.slot (armed : s.Armed) (hmain : s.control = .main) :
    s.passSlot.Armed ∧ s.passSlot.nsTimerList = s.nsTimerList ∧
      ∀ now, (∀ k d v, s.deadline now k = some (d, v) → now < d) ∧
        s.passSlot.deadline (now + 1) = s.deadline now := by
  obtain ⟨ticking, looped⟩ := armed.ticking (by simp [hmain])
  have hquiet := (looped.main hmain).quiet
  obtain ⟨harmed, hlist, hslots, hwaits⟩ : s.passSlot.Armed ∧
      s.passSlot.nsTimerList = s.nsTimerList ∧ s.passSlot.halSlots = s.halSlots - 1 ∧
      ∀ t ∈ s.nsTimerList, t.Waits → 0 < s.halSlots := by
    cases hhal : s.hal with
    | none =>
      have hsame : s.passSlot = s := by simp only [passSlot, hhal]
      rw [hsame]
      exact ⟨armed, rfl, by simp [halSlots, hhal], fun t ht hwaits =>
        absurd hwaits (ticking.idle hhal t ht)⟩
    | some slots =>
      obtain ⟨hnext, hlist, hslots, hpos⟩ := ticking.toAligned.slot looped hmain hhal
      refine ⟨hnext.imp_right fun ⟨aligned, looped', hsome⟩ =>
          ⟨⟨aligned, fun hnone => ?_⟩, looped'⟩,
        hlist, hslots, fun _ _ _ => hpos⟩
      simp [hnone] at hsome
  have maps : s.Maps s.passSlot id := ⟨by rw [hlist, List.map_id], fun _ => rfl, fun _ => rfl⟩
  refine ⟨harmed, hlist, fun now => ⟨fun k d v hd => ?_, maps.deadline_eq fun t ht => ?_⟩⟩
  · rw [deadline] at hd
    obtain ⟨t, ht, hleft⟩ := Option.bind_eq_some_iff.mp hd
    obtain ⟨n, hn, hpair⟩ := Option.map_eq_some_iff.mp hleft
    obtain ⟨hmem, -⟩ := mem_of_pointer ht
    have hpos := (left_pred (hquiet t hmem) (hwaits t hmem) now).2 n hn
    have hd' : now + n = d := congrArg Prod.fst hpair
    omega
  · rw [hslots]
    exact ⟨(left_pred (hquiet t ht) (hwaits t ht) now).1, rfl⟩

end CallbackTimers

end EventLoop
