import EventLoop.EventCoreTheorems
import EventLoop.Lib.SerialNumber

/-!
# A tick update as a whole

The loop of `system_timer_tick_update` takes timers off its list and sends them one at a time.
Seen as a whole it splits the timer list at the first timer that is not due, and sends the front
part in the order of the list (`systemTimerTickUpdate_eq`).
-/

namespace EventLoop

open Lib

/-- The timers that a tick update leaves on the list. -/
def State.waiting (s : State) : List Ptr :=
  s.systemTimerList.dropWhile fun p => ticksBeforeOrAt (s.mem p).launchTime s.timerSysTicks

/-- How many ticks are left until the launch time of a timer. -/
def State.remaining (s : State) (p : Ptr) : ℕ := ahead s.timerSysTicks (s.mem p).launchTime

lemma ticksBeforeOrAt_iff {a now : BitVec 32} : ticksBeforeOrAt a now ↔ ¬ InWindow now a :=
  toInt_sub_nonpos_iff

/-- `TICKS_BEFORE` between two timers that are less than half the circle ahead. -/
lemma ticksBefore_iff {now a b : BitVec 32} (ha : InWindow now a) (hb : InWindow now b) :
    ticksBefore a b ↔ ahead now a < ahead now b :=
  toInt_sub_neg_iff ha.2 hb.2

variable [NsList]

/-- Send timers one after the other. -/
def sendAll (timers : List Ptr) (s : State) : State :=
  timers.foldl (fun s p => eventOSEventSendTimerAllocated p s) s

section Send

variable (p q : Ptr) (s : State)

@[simp] lemma send_ticks : (eventOSEventSendTimerAllocated p s).timerSysTicks = s.timerSysTicks :=
  rfl

@[simp] lemma send_timerList :
    (eventOSEventSendTimerAllocated p s).systemTimerList = s.systemTimerList := rfl

/-- Sending a timer writes to its event only. -/
lemma send_mem : (eventOSEventSendTimerAllocated p s).mem
    = Function.update s.mem p
        { s.mem p with event := { s.event p with allocator := .timer, state := .queued } } := by
  simp only [eventOSEventSendTimerAllocated, eventCoreWrite, State.setState, State.setAllocator,
    State.store, State.event, Function.update_self, Function.update_idem]

/-- What is sent is queued. -/
lemma send_queue_perm :
    (eventOSEventSendTimerAllocated p s).eventQueueActive.Perm (p :: s.eventQueueActive) := by
  rw [eventOSEventSendTimerAllocated, eventCoreWrite_eq]
  exact List.perm_orderedInsert _ _ _

@[simp] lemma send_launchTime :
    ((eventOSEventSendTimerAllocated p s).mem q).launchTime = (s.mem q).launchTime := by
  rw [send_mem, Function.update_apply]
  split <;> simp_all

end Send

section SendAll

variable (l : List Ptr) (q : Ptr) (s : State)

@[simp] lemma sendAll_ticks : (sendAll l s).timerSysTicks = s.timerSysTicks := by
  induction l generalizing s with
  | nil => rfl
  | cons p l ih => exact ih _

@[simp] lemma sendAll_timerList : (sendAll l s).systemTimerList = s.systemTimerList := by
  induction l generalizing s with
  | nil => rfl
  | cons p l ih => exact ih _

@[simp] lemma sendAll_launchTime : ((sendAll l s).mem q).launchTime = (s.mem q).launchTime := by
  induction l generalizing s with
  | nil => rfl
  | cons p l ih => exact (ih _).trans (send_launchTime p q s)

@[simp] lemma sendAll_tasklets :
    (sendAll l s).armCoreTaskletList = s.armCoreTaskletList := by
  induction l generalizing s with
  | nil => rfl
  | cons p l ih => exact ih _

/-- The queue holds what was sent and what it held before. -/
lemma sendAll_queue_perm :
    (sendAll l s).eventQueueActive.Perm (l ++ s.eventQueueActive) := by
  induction l generalizing s with
  | nil => exact .refl _
  | cons p l ih =>
    have hsent := (send_queue_perm p s).append_left l
    exact (ih _).trans (hsent.trans List.perm_middle)

lemma sendAll_mem :
    q ∈ (sendAll l s).eventQueueActive ↔ q ∈ l ∨ q ∈ s.eventQueueActive :=
  (sendAll_queue_perm l s).mem_iff.trans List.mem_append

end SendAll

lemma sendAll_append (l₁ l₂ : List Ptr) (s : State) :
    sendAll (l₁ ++ l₂) s = sendAll l₂ (sendAll l₁ s) := List.foldl_append

/-- The loop sends the due timers at the front of the list. -/
lemma tickUpdateLoop_eq (l : List Ptr) (s : State) (hl : s.systemTimerList = l) :
    tickUpdateLoop l s = .ok (sendAll s.due { s with systemTimerList := s.waiting }) := by
  induction l generalizing s with
  | nil =>
    have hs : { s with systemTimerList := s.waiting } = s := by
      ext1 <;> simp [State.waiting, hl]
    simp [tickUpdateLoop, State.due, hl, hs, sendAll]
  | cons cur rest ih =>
    by_cases hdue : ticksBeforeOrAt (s.mem cur).launchTime s.timerSysTicks
    · simp only [tickUpdateLoop, hdue, hl, nsListRemove_head, ↓reduceIte, ok_bind]
      rw [ih _ (by simp)]
      simp only [State.due, State.waiting, send_timerList, send_launchTime, send_ticks, hl,
        List.takeWhile_cons, List.dropWhile_cons, hdue, decide_true, ↓reduceIte]
      rfl
    · have hs : { s with systemTimerList := s.waiting } = s := by
        ext1 <;> simp [State.waiting, hl, hdue]
      simp [tickUpdateLoop, State.due, hl, hdue, hs, sendAll]

/-- The clock moved forward. -/
def State.advance (s : State) (ticks : BitVec 32) : State :=
  { s with timerSysTicks := s.timerSysTicks + ticks }

/-- **`system_timer_tick_update` as a whole.** -/
theorem systemTimerTickUpdate_eq (ticks : BitVec 32) (s : State) :
    systemTimerTickUpdate ticks s = .ok (sendAll (s.advance ticks).due
      { s.advance ticks with systemTimerList := (s.advance ticks).waiting }) :=
  tickUpdateLoop_eq _ (s.advance ticks) rfl

end EventLoop
