import EventLoop.CallbackTimerRefinement
import EventLoop.Compensation
import Mathlib.Data.List.Forall2

/-!
# Which HOLD timers become ACTIVE

Both functions that start a new period for the HOLD timers look for the least remaining slots and
then update the other HOLD timers. The subtractions of neither underflow. The timers that have the
least remaining slots are to become ACTIVE together: this fails in `ns_timer_get_next_running_to`
where the compensation has been taken from the first of them before the others are compared with
it.
-/

namespace EventLoop

open CallbackTimers

/-- What is to become of a HOLD timer when a new period is started. -/
structure Activated (timers : List NsTimerStruct) (t t' : NsTimerStruct) : Prop where
  identity : t'.identity = t.identity
  rest : t.timerState ≠ .hold → t' = t
  first : IsFirst timers t → t'.timerState = .active
  later : t.timerState = .hold → ¬ IsFirst timers t →
    t'.timerState = .hold ∧ t'.remainingSlots ≠ 0

/-- The HOLD timers that become ACTIVE are those with the least remaining slots. -/
def Activates (timers timers' : List NsTimerStruct) : Prop :=
  List.Forall₂ (Activated timers) timers timers'

/-- The timers of a stop when it looks for the least remaining slots. -/
def CallbackTimers.counted (s : CallbackTimers) (idle : BitVec 16) (timerId : BitVec 8) :
    List NsTimerStruct :=
  (s.nsTimerList.map fun t => if t.nsTimerId = timerId then stopped t else t).map
    (addRemaining (platformTimerGetRemainingSlots idle s))

/-! ## Without underflow -/

section

variable {m : Type → Type} [Monad m] [LawfulMonad m] {sub : BitVec 16 → BitVec 16 → m (BitVec 16)}
  (hsub : ∀ a b, b ≤ a → sub a b = pure (a - b))

include hsub

namespace Build

variable (b : Build)

omit [LawfulMonad m] in
lemma compensate_eq (remainingSlots : BitVec 16) : b.compensate sub remainingSlots
    = pure (EventLoop.compensate b.compensation remainingSlots) := by
  unfold compensate EventLoop.compensate
  split
  · next hlt => exact hsub _ _ (BitVec.le_of_lt hlt)
  · rfl

omit hsub in
/-- What the loop makes of a HOLD timer. -/
def updated (firstSlots : BitVec 16) (t : NsTimerStruct) : NsTimerStruct :=
  if t.timerState = .hold then
    if t.remainingSlots = firstSlots then { t with timerState := .active }
    else { t with remainingSlots :=
      EventLoop.compensate b.compensation (t.remainingSlots - firstSlots) }
  else t

lemma updateHold_eq {firstSlots : BitVec 16} {t : NsTimerStruct} (hold : t.timerState = .hold)
    (hle : firstSlots ≤ t.remainingSlots) :
    b.updateHold sub firstSlots t = pure (b.updated firstSlots t) := by
  rw [updateHold, updated, if_pos hold]
  split
  · rfl
  · rw [hsub _ _ hle, pure_bind, b.compensate_eq hsub, pure_bind]

/-- The count is large enough for all HOLD timers, and none of them comes before the first. -/
lemma updateHolds_eq (firstSlots : BitVec 16) (timers : List NsTimerStruct) {holdCount : BitVec 8}
    (hcount : timers.countP (fun t => t.timerState = .hold) ≤ holdCount.toNat)
    (hle : ∀ t ∈ timers, t.timerState = .hold → firstSlots ≤ t.remainingSlots) :
    b.updateHolds sub firstSlots holdCount timers = pure (timers.map (b.updated firstSlots)) := by
  have hzero' : (0 : BitVec 8).toNat = 0 := rfl
  induction timers generalizing holdCount with
  | nil => rfl
  | cons t rest ih =>
    have hrest : ∀ u ∈ rest, u.timerState = .hold → firstSlots ≤ u.remainingSlots :=
      fun u hu => hle u (List.mem_cons_of_mem _ hu)
    by_cases hzero : holdCount = 0
    · have hnone : ∀ u ∈ t :: rest, b.updated firstSlots u = u := by
        intro u hu
        have hstate : u.timerState ≠ .hold := by
          intro hold
          have hpos : 0 < (t :: rest).countP (fun t => t.timerState = .hold) :=
            List.countP_pos_iff.mpr ⟨u, hu, by simpa using hold⟩
          rw [hzero] at hcount
          omega
        rw [updated, if_neg hstate]
      rw [updateHolds, if_pos hzero, List.map_congr_left hnone, List.map_id']
    · rw [List.countP_cons] at hcount
      rw [updateHolds, if_neg hzero, List.map_cons]
      by_cases hold : t.timerState = .hold
      · have hne : holdCount.toNat ≠ (0 : BitVec 8).toNat := BitVec.toNat_ne_iff_ne.mpr hzero
        have hpred : (holdCount - 1).toNat = holdCount.toNat - 1 := by
          have hone : (1 : BitVec 8).toNat = 1 := rfl
          have hlt := holdCount.isLt
          rw [BitVec.toNat_sub, hone]
          omega
        simp only [hold, decide_true, ↓reduceIte] at hcount
        rw [if_pos hold, b.updateHold_eq hsub hold (hle t List.mem_cons_self hold), pure_bind,
          ih (by omega) hrest, pure_bind]
      · simp only [hold, decide_false, Bool.false_eq_true, ↓reduceIte] at hcount
        rw [if_neg hold, ih (by omega) hrest, pure_bind, updated, if_neg hold]

omit hsub in
/-- The first timer has the time spent in the function taken from its slots, the others are counted
from there. -/
def rearmed (firstTimer t : NsTimerStruct) : NsTimerStruct :=
  let firstSlots := EventLoop.compensate b.compensation firstTimer.remainingSlots
  if t.nsTimerId = firstTimer.nsTimerId then
    { t with timerState := .active, remainingSlots := firstSlots }
  else b.updated firstSlots t

omit hsub in
/-- `ns_timer_get_next_running_to` as a whole. -/
def rearm (s : CallbackTimers) : CallbackTimers :=
  match (s.nsTimerList.foldl findHold (none, 0)).1 with
  | none => s
  | some firstTimer => { s with
      nsTimerList := s.nsTimerList.map (b.rearmed firstTimer)
      hal := some (plSlots (EventLoop.compensate b.compensation firstTimer.remainingSlots))
      nsTimerRunning := true }

omit hsub [Monad m] [LawfulMonad m] in
lemma compensate_le (time remainingSlots : BitVec 16) :
    (EventLoop.compensate time remainingSlots).toNat ≤ remainingSlots.toNat := by
  unfold EventLoop.compensate
  split
  · next hlt =>
    rw [BitVec.lt_def] at hlt
    have hbound := remainingSlots.isLt
    rw [BitVec.toNat_sub]
    omega
  · exact le_refl _

/-- The subtractions of `ns_timer_get_next_running_to` do not underflow. -/
theorem nsTimerGetNextRunningTo_eq {s : CallbackTimers} (hlength : s.nsTimerList.length ≤ 128) :
    b.nsTimerGetNextRunningTo sub s = pure (b.rearm s) := by
  obtain ⟨hcount, hfirst⟩ := findHold_spec s.nsTimerList
  unfold nsTimerGetNextRunningTo rearm
  generalize s.nsTimerList.foldl findHold (none, 0) = found at hcount hfirst
  obtain ⟨first, count⟩ := found
  cases first with
  | none => rfl
  | some firstTimer =>
    have hfirst : IsFirst s.nsTimerList firstTimer := hfirst
    obtain rfl : count = s.nsTimerList.countP (fun t => t.timerState = .hold) := hcount
    let firstSlots := EventLoop.compensate b.compensation firstTimer.remainingSlots
    let timers := s.nsTimerList.map fun t =>
      if t.nsTimerId = firstTimer.nsTimerId then
        { t with timerState := .active, remainingSlots := firstSlots }
      else t
    -- the first timer has the least remaining time, so no subtraction goes below zero
    have hle : ∀ t ∈ timers, t.timerState = .hold → firstSlots ≤ t.remainingSlots := by
      intro t ht hold
      obtain ⟨u, hu, rfl⟩ := List.mem_map.mp ht
      split at hold
      · cases hold
      · next hne =>
        rw [if_neg hne, BitVec.le_def]
        exact (compensate_le _ _).trans (hfirst.least u hu hold)
    -- the loop stops early only when all HOLD timers are updated
    have hholds : timers.countP (fun t => t.timerState = .hold)
        ≤ (BitVec.ofNat 8 (s.nsTimerList.countP fun t => t.timerState = .hold) - 1).toNat := by
      have hless := countP_hold_lt hfirst
        (f := fun t => { t with timerState := .active, remainingSlots := firstSlots })
        fun _ => rfl
      have hpos : 0 < s.nsTimerList.countP fun t => t.timerState = .hold :=
        List.countP_pos_iff.mpr ⟨firstTimer, hfirst.mem, by simp [hfirst.hold]⟩
      have hbound := (List.countP_le_length (p := fun t => decide (t.timerState = .hold))
        (l := s.nsTimerList)).trans hlength
      have hone : (1 : BitVec 8).toNat = 1 := rfl
      rw [BitVec.toNat_sub, BitVec.toNat_ofNat, hone]
      refine hless.trans ?_
      omega
    have hlist : timers.map (b.updated firstSlots) = s.nsTimerList.map (b.rearmed firstTimer) := by
      rw [List.map_map]
      refine List.map_congr_left fun t _ => ?_
      simp only [Function.comp_apply, rearmed]
      split
      · simp [updated, firstSlots]
      · rfl
    simp only [b.compensate_eq hsub, pure_bind]
    show (do
      let nsTimerList ← b.updateHolds sub firstSlots _ timers
      pure _) = _
    rw [b.updateHolds_eq hsub firstSlots timers hholds hle, pure_bind, hlist]
    rfl

end Build

lemma reduceHoldWith_eq {firstSlots : BitVec 16} {t : NsTimerStruct}
    (hle : t.timerState = .hold → firstSlots ≤ t.remainingSlots) :
    reduceHoldWith sub firstSlots t = pure (reduceHold firstSlots t) := by
  unfold reduceHoldWith reduceHold
  split
  · next hold =>
    split
    · rfl
    · rw [hsub _ _ (hle hold), pure_bind]
  · rfl

/-- The subtractions of `eventOS_callback_timer_stop` do not underflow. -/
theorem eventOSCallbackTimerStopWith_eq (idle : BitVec 16) (timerId : BitVec 8)
    (s : CallbackTimers) : eventOSCallbackTimerStopWith sub idle timerId s
      = pure (eventOSCallbackTimerStop idle timerId s) := by
  unfold eventOSCallbackTimerStopWith eventOSCallbackTimerStop
  cases nsTimerGetPointerToTimerStruct timerId s with
  | none => rfl
  | some t =>
    simp only
    split
    · rfl
    · split
      · rfl
      · generalize hfound : (List.foldl findHold (none, 0) _).1 = found
        cases found with
        | none => rfl
        | some firstTimer =>
          have hfound' : ((s.counted idle timerId).foldl findHold (none, 0)).1 = some firstTimer :=
            hfound
          have hspec := (findHold_spec (s.counted idle timerId)).2
          rw [hfound'] at hspec
          have hfirst : IsFirst (s.counted idle timerId) firstTimer := hspec
          simp only
          rw [Lib.mapM_eq_pure (g := reduceHold firstTimer.remainingSlots) fun u hu =>
            reduceHoldWith_eq hsub fun hold => ?_, pure_bind]
          obtain ⟨v, hv, rfl⟩ := List.mem_map.mp hu
          split at hold
          · cases hold
          · next hne =>
            rw [if_neg hne, BitVec.le_def]
            exact hfirst.least v hv hold

end

/-! ## The least remaining slots -/

lemma activates_map_iff {timers : List NsTimerStruct} {f : NsTimerStruct → NsTimerStruct} :
    Activates timers (timers.map f) ↔ ∀ t ∈ timers, Activated timers t (f t) := by
  rw [Activates, List.forall₂_map_right_iff, List.forall₂_same]

/-- A HOLD timer is one of the first exactly if it has as many slots left as the first. -/
lemma isFirst_iff {timers : List NsTimerStruct} {firstTimer t : NsTimerStruct}
    (first : IsFirst timers firstTimer) (ht : t ∈ timers) (hold : t.timerState = .hold) :
    IsFirst timers t ↔ t.remainingSlots = firstTimer.remainingSlots := by
  constructor
  · intro hfirst
    apply BitVec.eq_of_toNat_eq
    exact le_antisymm (hfirst.least _ first.mem first.hold) (first.least _ ht hold)
  · intro heq
    exact ⟨ht, hold, heq ▸ first.least⟩

/-- Without HOLD timers there is nothing to do. -/
lemma activates_self {timers : List NsTimerStruct} (h : ∀ t ∈ timers, t.timerState ≠ .hold) :
    Activates timers timers := by
  refine List.forall₂_same.mpr fun t ht => ⟨rfl, fun _ => rfl, fun first => ?_, fun hold => ?_⟩
  · exact absurd first.hold (h t ht)
  · exact absurd hold (h t ht)

lemma sub_ne_zero_of_ne {a b : BitVec 16} (h : a ≠ b) : a - b ≠ 0 := by
  intro hzero
  apply h
  simpa [BitVec.sub_eq_iff_eq_add] using hzero

lemma activates_reduceHold {timers : List NsTimerStruct} {firstTimer : NsTimerStruct}
    (first : IsFirst timers firstTimer) :
    Activates timers (timers.map (reduceHold firstTimer.remainingSlots)) := by
  refine activates_map_iff.mpr fun t ht => ⟨?_, fun hne => reduceHold_of_ne hne _, ?_, ?_⟩
  · obtain ⟨hid, -, hhandler, -⟩ := reduceHold_fields firstTimer.remainingSlots t
    rw [NsTimerStruct.identity, hid, hhandler, NsTimerStruct.identity]
  · intro hfirst
    have heq := (isFirst_iff first ht hfirst.hold).mp hfirst
    simp [reduceHold, hfirst.hold, heq]
  · intro hold hnot
    have hne : t.remainingSlots ≠ firstTimer.remainingSlots := fun heq =>
      hnot ((isFirst_iff first ht hold).mpr heq)
    simp only [reduceHold, hold, hne, ↓reduceIte]
    exact ⟨trivial, sub_ne_zero_of_ne hne⟩

lemma nodup_counted {s : CallbackTimers} (hids : (s.nsTimerList.map (·.nsTimerId)).Nodup)
    (idle : BitVec 16) (timerId : BitVec 8) :
    ((s.counted idle timerId).map (·.nsTimerId)).Nodup :=
  nodup_map_timers (nodup_map_timers hids fun t => by split <;> rfl)
    fun t => (addRemaining_fields _ t).1

/-- A stop that finds no ACTIVE timer activates the timers with the least remaining slots. -/
theorem activates_stop {s : CallbackTimers} (hids : (s.nsTimerList.map (·.nsTimerId)).Nodup)
    (idle : BitVec 16) {timerId : BitVec 8} {t : NsTimerStruct}
    (hpointer : nsTimerGetPointerToTimerStruct timerId s = some t) (hstate : t.timerState ≠ .stop)
    (hactive : ∀ u ∈ s.nsTimerList, u.nsTimerId ≠ timerId → u.timerState ≠ .active) :
    ∃ s', eventOSCallbackTimerStop idle timerId s = (s', 0) ∧
      Activates (s.counted idle timerId) s'.nsTimerList := by
  have hany : ¬ (s.update timerId fun t =>
      { t with timerState := .stop, remainingSlots := 0 }).nsTimerList.any
        (fun t => t.timerState = .active) = true := by
    rw [List.any_eq_true]
    rintro ⟨u, hu, hactive'⟩
    obtain ⟨v, hv, rfl⟩ := List.mem_map.mp hu
    split at hactive'
    · simp at hactive'
    · next hne => exact hactive v hv hne (by simpa using hactive')
  simp only [eventOSCallbackTimerStop, hpointer, hstate, hany, ↓reduceIte]
  generalize hfound : (List.foldl findHold (none, 0) _).1 = found
  have hfound' : ((s.counted idle timerId).foldl findHold (none, 0)).1 = found := hfound
  have hspec := (findHold_spec (s.counted idle timerId)).2
  rw [hfound'] at hspec
  cases found with
  | none => exact ⟨_, rfl, activates_self hspec⟩
  | some firstTimer =>
    have hfirst : IsFirst (s.counted idle timerId) firstTimer := hspec
    refine ⟨_, rfl, ?_⟩
    have hlist := map_reduceHold_of_first (nodup_counted hids idle timerId) hfirst
      (f := fun t => { t with timerState := .active }) rfl
    have hactivates := activates_reduceHold hfirst
    rw [← hlist] at hactivates
    exact hactivates

/-! ## The compensation -/

namespace Build

variable (b : Build)

/-- Either the first timer keeps its slots, or no other timer has as few. -/
def TiesKept (timers : List NsTimerStruct) : Prop :=
  b = default ∨ (∀ t, IsFirst timers t → t.remainingSlots ≤ b.compensation) ∨
    ∀ t u, IsFirst timers t → IsFirst timers u → t = u

lemma compensate_ne_zero {time remainingSlots : BitVec 16} (h : remainingSlots ≠ 0) :
    EventLoop.compensate time remainingSlots ≠ 0 := by
  unfold EventLoop.compensate
  split
  · next hlt =>
    refine sub_ne_zero_of_ne fun heq => ?_
    rw [heq] at hlt
    exact absurd hlt (BitVec.lt_irrefl _)
  · exact h

lemma updated_fields (firstSlots : BitVec 16) (t : NsTimerStruct) :
    (b.updated firstSlots t).identity = t.identity ∧
      (t.timerState ≠ .hold → b.updated firstSlots t = t) := by
  unfold updated
  split
  · next hold =>
    refine ⟨?_, fun hne => absurd hold hne⟩
    split <;> rfl
  · exact ⟨rfl, fun _ => rfl⟩

/-- A HOLD timer with other slots than the first one is counted from there. -/
lemma updated_of_ne {firstSlots : BitVec 16} {t : NsTimerStruct} (hold : t.timerState = .hold)
    (hne : t.remainingSlots ≠ firstSlots) : (b.updated firstSlots t).timerState = .hold ∧
      (b.updated firstSlots t).remainingSlots ≠ 0 := by
  simp only [updated, hold, hne, ↓reduceIte]
  exact ⟨trivial, compensate_ne_zero (sub_ne_zero_of_ne hne)⟩

/-- Where the first timer keeps its slots. -/
lemma compensate_eq_self_iff (remainingSlots : BitVec 16) :
    EventLoop.compensate b.compensation remainingSlots = remainingSlots ↔
      b = default ∨ remainingSlots ≤ b.compensation := by
  cases b with
  | default => simp [compensation]
  | atmega256rfr2 =>
    rw [EventLoop.compensate]
    split
    · next hlt =>
      rw [BitVec.lt_def] at hlt
      refine iff_of_false (fun heq => ?_) ?_
      · have hsub := congrArg BitVec.toNat heq
        have hthree : compensation atmega256rfr2 = 3 := rfl
        rw [BitVec.toNat_sub, hthree] at hsub
        have hbound := remainingSlots.isLt
        have hnat : (3 : BitVec 16).toNat = 3 := rfl
        omega
      · rw [BitVec.le_def, not_or]
        exact ⟨by decide, by omega⟩
    · next hle => exact iff_of_true rfl (Or.inr (BitVec.not_lt.mp hle))

/-- **The timers that become ACTIVE are those with the least remaining slots** exactly where the
compensation leaves them equal. -/
theorem activates_rearm_iff {s : CallbackTimers} (hids : (s.nsTimerList.map (·.nsTimerId)).Nodup) :
    Activates s.nsTimerList (b.rearm s).nsTimerList ↔ b.TiesKept s.nsTimerList := by
  have hspec := (findHold_spec s.nsTimerList).2
  unfold rearm
  generalize (s.nsTimerList.foldl findHold (none, 0)).1 = found at hspec
  cases found with
  | none =>
    have hnone : ∀ t ∈ s.nsTimerList, t.timerState ≠ .hold := hspec
    refine iff_of_true (activates_self hnone) (Or.inr (Or.inr fun t _ first => ?_))
    exact absurd first.hold (hnone t first.mem)
  | some firstTimer =>
    have first : IsFirst s.nsTimerList firstTimer := hspec
    let firstSlots := EventLoop.compensate b.compensation firstTimer.remainingSlots
    show Activates s.nsTimerList (s.nsTimerList.map (b.rearmed firstTimer)) ↔ _
    rw [activates_map_iff]
    have hother : ∀ t, t.nsTimerId ≠ firstTimer.nsTimerId →
        b.rearmed firstTimer t = b.updated firstSlots t := fun t hne => if_neg hne
    -- a timer that is compared equal has the least remaining slots
    have hequal : ∀ t ∈ s.nsTimerList, t.timerState = .hold → t.remainingSlots = firstSlots →
        IsFirst s.nsTimerList t := by
      intro t ht hold heq
      refine (isFirst_iff first ht hold).mpr (BitVec.eq_of_toNat_eq (le_antisymm ?_ ?_))
      · exact heq ▸ compensate_le _ _
      · exact first.least t ht hold
    constructor
    · intro hactivates
      by_cases hsame : firstSlots = firstTimer.remainingSlots
      · rcases (b.compensate_eq_self_iff _).mp hsame with hdefault | hle
        · exact Or.inl hdefault
        · refine Or.inr (Or.inl fun t hfirst => ?_)
          rwa [(isFirst_iff first hfirst.mem hfirst.hold).mp hfirst]
      · -- every other one with the least remaining slots would have stayed HOLD
        have honly : ∀ t, IsFirst s.nsTimerList t → t = firstTimer := by
          intro t hfirst
          by_contra hne
          have hid : t.nsTimerId ≠ firstTimer.nsTimerId := fun hid =>
            hne (List.inj_on_of_nodup_map hids hfirst.mem first.mem hid)
          have hactive := (hactivates t hfirst.mem).first hfirst
          have hslots := (isFirst_iff first hfirst.mem hfirst.hold).mp hfirst
          rw [hother t hid, (b.updated_of_ne hfirst.hold fun heq => hsame ?_).1] at hactive
          · cases hactive
          · rw [← hslots, heq]
        exact Or.inr (Or.inr fun t u ht hu => (honly t ht).trans (honly u hu).symm)
    · intro ties t ht
      by_cases hid : t.nsTimerId = firstTimer.nsTimerId
      · obtain rfl : t = firstTimer := List.inj_on_of_nodup_map hids ht first.mem hid
        have hself : b.rearmed t t
            = { t with timerState := .active, remainingSlots := firstSlots } := if_pos rfl
        rw [hself]
        exact ⟨rfl, fun hne => absurd first.hold hne, fun _ => rfl, fun _ hnot => absurd first hnot⟩
      · rw [hother t hid]
        obtain ⟨hidentity, hrest⟩ := b.updated_fields firstSlots t
        refine ⟨hidentity, hrest, fun hfirst => ?_, fun hold hnot => ?_⟩
        · have hslots := (isFirst_iff first ht hfirst.hold).mp hfirst
          have hsame : firstSlots = firstTimer.remainingSlots := by
            refine (b.compensate_eq_self_iff _).mpr ?_
            rcases ties with hdefault | hle | honly
            · exact Or.inl hdefault
            · exact Or.inr (hle _ first)
            · exact absurd (congrArg NsTimerStruct.nsTimerId (honly _ _ hfirst first)) hid
          simp [updated, hfirst.hold, hslots, hsame]
        · exact b.updated_of_ne hold fun heq => hnot (hequal t ht hold heq)

/-- The default build is that of the other results. -/
theorem rearm_default {s : CallbackTimers} (hids : (s.nsTimerList.map (·.nsTimerId)).Nodup) :
    default.rearm s = EventLoop.nsTimerGetNextRunningTo s := by
  have hspec := (findHold_spec s.nsTimerList).2
  unfold rearm
  generalize (s.nsTimerList.foldl findHold (none, 0)).1 = found at hspec
  rcases EventLoop.nsTimerGetNextRunningTo_eq s hids with ⟨hnone, heq⟩ | ⟨firstTimer, first, heq⟩
  · cases found with
    | none => exact heq.symm
    | some firstTimer =>
      have first : IsFirst s.nsTimerList firstTimer := hspec
      exact absurd first.hold (hnone _ first.mem)
  · cases found with
    | none => exact absurd first.hold (hspec _ first.mem)
    | some firstTimer' =>
      have first' : IsFirst s.nsTimerList firstTimer' := hspec
      have hslots := (isFirst_iff first first'.mem first'.hold).mp first'
      have hsame : EventLoop.compensate default.compensation firstTimer'.remainingSlots
          = firstTimer.remainingSlots := by
        rw [← hslots]
        exact compensate_zero _
      have hlist : s.nsTimerList.map (default.rearmed firstTimer')
          = s.nsTimerList.map (reduceHold firstTimer.remainingSlots) := by
        refine List.map_congr_left fun t ht => ?_
        simp only [rearmed, hsame]
        split
        · next hid =>
          obtain rfl : t = firstTimer' := List.inj_on_of_nodup_map hids ht first'.mem hid
          simp [reduceHold, first'.hold, hslots]
        · have hkeep : ∀ r, EventLoop.compensate default.compensation r = r := compensate_zero
          simp only [updated, hkeep]
          rfl
      rw [heq]
      simp only [hsame, hlist]

end Build

/-- **The HOLD timers that become ACTIVE are those with the least remaining slots**, and no
subtraction underflows: always in `eventOS_callback_timer_stop` when it finds no ACTIVE timer, and
in `ns_timer_get_next_running_to` exactly where the compensation leaves equal timers equal. -/
theorem rearm_activates_least (b : Build) {s : CallbackTimers}
    (hids : (s.nsTimerList.map (·.nsTimerId)).Nodup) (hlength : s.nsTimerList.length ≤ 128) :
    (∃ s', Id.run (b.nsTimerGetNextRunningTo subWrap s) = s' ∧
        b.nsTimerGetNextRunningTo subChecked s = some s' ∧
        (Activates s.nsTimerList s'.nsTimerList ↔ b.TiesKept s.nsTimerList)) ∧
      ∀ idle timerId t, nsTimerGetPointerToTimerStruct timerId s = some t →
        t.timerState ≠ .stop →
        (∀ u ∈ s.nsTimerList, u.nsTimerId ≠ timerId → u.timerState ≠ .active) →
        ∃ s', eventOSCallbackTimerStop idle timerId s = (s', 0) ∧
          eventOSCallbackTimerStopWith subChecked idle timerId s = some (s', 0) ∧
          Activates (s.counted idle timerId) s'.nsTimerList := by
  have hchecked : ∀ a b, b ≤ a → subChecked a b = pure (a - b) := fun a b hle => if_pos hle
  constructor
  · refine ⟨b.rearm s, ?_, b.nsTimerGetNextRunningTo_eq hchecked hlength,
      b.activates_rearm_iff hids⟩
    exact b.nsTimerGetNextRunningTo_eq (fun _ _ _ => rfl) hlength
  · intro idle timerId t hpointer hstate hactive
    obtain ⟨s', hstop, hactivates⟩ := activates_stop hids idle hpointer hstate hactive
    refine ⟨s', hstop, ?_, hactivates⟩
    rw [eventOSCallbackTimerStopWith_eq hchecked, hstop]
    rfl

/-- Two HOLD timers in the interrupt handler, before it starts a new period. -/
def holdTimers (first second : BitVec 16) : CallbackTimers where
  nsTimerList :=
    [⟨0, .hold, 27, first, 0⟩, ⟨1, .hold, 27, second, 1⟩, ⟨2, .runInterrupt, 20, 17, 2⟩]
  nsTimerRunning := false
  nsTimerInitialized := true
  hal := none
  control := .expired

theorem rearm_activates_least_sample :
    (∃ s', Build.atmega256rfr2.nsTimerGetNextRunningTo subChecked (holdTimers 10 12) = some s' ∧
      Activates (holdTimers 10 12).nsTimerList s'.nsTimerList) ∧
    ∃ s', eventOSCallbackTimerStop 7 2 (holdTimers 10 10) = (s', 0) ∧
      Activates ((holdTimers 10 10).counted 7 2) s'.nsTimerList := by
  constructor
  · obtain ⟨s', -, hchecked, hiff⟩ := (rearm_activates_least .atmega256rfr2
      (s := holdTimers 10 12) (by decide) (by decide)).1
    refine ⟨s', hchecked, hiff.mpr (Or.inr (Or.inr ?_))⟩
    have honly : ∀ t, IsFirst (holdTimers 10 12).nsTimerList t → t = ⟨0, .hold, 27, 10, 0⟩ := by
      intro t first
      have hle := first.least ⟨0, .hold, 27, 10, 0⟩ (by decide) rfl
      have hmem := first.mem
      have hold := first.hold
      simp only [holdTimers, List.mem_cons, List.not_mem_nil, or_false] at hmem
      rcases hmem with rfl | rfl | rfl
      · rfl
      · exact absurd hle (by decide)
      · cases hold
    exact fun t u ht hu => (honly t ht).trans (honly u hu).symm
  · obtain ⟨s', hstop, -, hactivates⟩ := (rearm_activates_least .atmega256rfr2
      (s := holdTimers 10 10) (by decide) (by decide)).2 7 2 _ rfl (by decide) (by decide)
    exact ⟨s', hstop, hactivates⟩

/-- Two timers with 10 slots left: the first one is compared with the 7 that are left of it. -/
theorem not_rearm_activates_least :
    (Id.run (Build.atmega256rfr2.nsTimerGetNextRunningTo subWrap (holdTimers 10 10))).nsTimerList
        = [⟨0, .active, 27, 7, 0⟩, ⟨1, .hold, 27, 3, 1⟩, ⟨2, .runInterrupt, 20, 17, 2⟩] ∧
      IsFirst (holdTimers 10 10).nsTimerList ⟨1, .hold, 27, 10, 1⟩ ∧
      ¬ Activates (holdTimers 10 10).nsTimerList
        (Id.run (Build.atmega256rfr2.nsTimerGetNextRunningTo subWrap
          (holdTimers 10 10))).nsTimerList := by
  have hlist : (Id.run (Build.atmega256rfr2.nsTimerGetNextRunningTo subWrap
      (holdTimers 10 10))).nsTimerList
        = [⟨0, .active, 27, 7, 0⟩, ⟨1, .hold, 27, 3, 1⟩, ⟨2, .runInterrupt, 20, 17, 2⟩] := rfl
  have first : IsFirst (holdTimers 10 10).nsTimerList ⟨1, .hold, 27, 10, 1⟩ :=
    ⟨by decide, rfl, by decide⟩
  refine ⟨hlist, first, fun hactivates => ?_⟩
  rw [hlist] at hactivates
  cases hactivates with
  | cons _ hrest =>
    cases hrest with
    | cons hsecond _ => cases hsecond.first first

end EventLoop
