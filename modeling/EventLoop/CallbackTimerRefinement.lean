import EventLoop.CallbackTimerInvariant
import EventLoop.Lib.DeadlineMap
import EventLoop.Lib.ListLemmas

/-!
# The callback timers are a map of deadlines

Every operation on the callback timers is a step of a deadline map, as long as the HAL timer is not
put to sleep and a timer is started with 0 slots only where no other one waits. What is called, and
when, then follows for whole runs from the facts about deadline maps.
-/

namespace EventLoop

open Lib

/-- What an operation does to the deadlines. A timer that is unregistered is stopped. -/
def CallbackOp.action :
    CallbackOp × CallbackRet → Option (DeadlineMap.Action (BitVec 8) (BitVec 16))
  | (_, .call (some call)) => some (.fire call.nsTimerId call.slots)
  | (.start timerId slots, .code c) =>
    if c = 0 then some (.start timerId (max 1 slots.toNat) slots) else none
  | (.stop timerId, .code _) => some (.stop timerId)
  | (.unregister timerId, .code _) => some (.stop timerId)
  | (.slot, .void) => some .tick
  | _ => none

namespace CallbackTimers

/-- An operation that keeps deadlines: the HAL timer is not put to sleep, and a start with 0 slots
does not find another timer that waits. -/
def Calm (s : CallbackTimers) : CallbackOp → Prop
  | .sleep => False
  | .start timerId slots =>
    slots = 0 → (nsTimerGetPointerToTimerStruct timerId s).isSome → s.Alone timerId
  | _ => True

instance (s : CallbackTimers) (op : CallbackOp) : Decidable (s.Calm op) := by
  cases op <;> unfold Calm <;> infer_instance

end CallbackTimers

/-- A step under which deadlines are kept. -/
structure TimedStep (s : CallbackTimers) (label : CallbackOp × CallbackRet) (s' : CallbackTimers) :
    Prop extends CallbackStep s label s' where
  calm : s.Calm label.1

namespace CallbackTimers

variable {s s' : CallbackTimers} {timerId : BitVec 8}

/-! ## Registration -/

/-- A registration adds a stopped timer at the end, with an id that was free. -/
lemma eventOSCallbackTimerRegister_eq (timerInterruptHandler : Option FuncPtr)
    (newTimer : Option (BitVec 16)) (s : CallbackTimers) :
    (∃ b, eventOSCallbackTimerRegister timerInterruptHandler newTimer s
        = ({ s with nsTimerInitialized := b }, -1)) ∨
      ∃ t : NsTimerStruct, t.timerState = .stop ∧ timerInterruptHandler = some t.interruptHandler ∧
        t.nsTimerId.toNat < 128 ∧ nsTimerGetPointerToTimerStruct t.nsTimerId s = none ∧
        eventOSCallbackTimerRegister timerInterruptHandler newTimer s
          = ({ s with nsTimerInitialized := true, nsTimerList := s.nsTimerList ++ [t] },
              (t.nsTimerId.toNat : ℤ)) := by
  cases timerInterruptHandler with
  | none => exact Or.inl ⟨s.nsTimerInitialized, rfl⟩
  | some handler =>
    unfold eventOSCallbackTimerRegister
    cases hfree : (List.range 128).find?
        (fun i => (nsTimerGetPointerToTimerStruct (BitVec.ofNat 8 i)
          { s with nsTimerInitialized := true }).isNone) with
    | none => exact Or.inl ⟨true, by simp only [hfree]⟩
    | some i =>
      cases newTimer with
      | none => exact Or.inl ⟨true, by simp only [hfree]⟩
      | some slots =>
        have hlt : i < 128 := List.mem_range.mp (List.mem_of_find?_eq_some hfree)
        have hi : (BitVec.ofNat 8 i).toNat = i := by
          rw [BitVec.toNat_ofNat, Nat.mod_eq_of_lt (by omega)]
        refine Or.inr ⟨⟨BitVec.ofNat 8 i, .stop, slots, 0, handler⟩, rfl, rfl, by rwa [hi], ?_, ?_⟩
        · have hnone := List.find?_some hfree
          exact Option.isNone_iff_eq_none.mp hnone
        · simp only [hfree, hi]

/-- The id of a timer that is not in the list. -/
lemma ne_of_pointer_none (h : nsTimerGetPointerToTimerStruct timerId s = none) {t : NsTimerStruct}
    (ht : t ∈ s.nsTimerList) : t.nsTimerId ≠ timerId := by
  have hall := List.find?_eq_none.mp h t ht
  simpa using hall

section Register

variable {t : NsTimerStruct} (hstop : t.timerState = .stop)
  (hnone : nsTimerGetPointerToTimerStruct t.nsTimerId s = none)
  (hlist : s'.nsTimerList = s.nsTimerList ++ [t])

include hstop hnone hlist

/-- A stopped timer at the end of the list changes no deadline. -/
lemma deadline_append (hhal : s'.hal = s.hal) (now : ℕ) : s'.deadline now = s.deadline now := by
  have hslots : s'.halSlots = s.halSlots := by rw [halSlots, hhal, halSlots]
  funext k
  rw [deadline, deadline, hslots]
  have hfind : nsTimerGetPointerToTimerStruct k s' = (nsTimerGetPointerToTimerStruct k s).or
      (if t.nsTimerId = k then some t else none) := by
    rw [nsTimerGetPointerToTimerStruct, hlist, List.find?_append, nsTimerGetPointerToTimerStruct,
      List.find?_singleton]
    simp
  rw [hfind]
  by_cases hk : t.nsTimerId = k
  · subst hk
    simp [hnone, NsTimerStruct.left, hstop]
  · simp [hk]

omit hnone in
/-- It has no part in what the HAL timer does. -/
lemma forall_append {P : NsTimerStruct → Prop} (h : ∀ u ∈ s.nsTimerList, P u)
    (ht : ¬ t.Waits → P t) : ∀ u ∈ s'.nsTimerList, P u := by
  intro u hu
  rw [hlist] at hu
  rcases List.mem_append.mp hu with hu | hu
  · exact h u hu
  · exact List.mem_singleton.mp hu ▸ ht (by simp [NsTimerStruct.Waits, hstop])

lemma Aligned.append (aligned : s.Aligned) (hlt : t.nsTimerId.toNat < 128)
    (hhal : s'.hal = s.hal) (hrunning : s'.nsTimerRunning = s.nsTimerRunning) : s'.Aligned := by
  have hslots : s'.halSlots = s.halSlots := by rw [halSlots, hhal, halSlots]
  refine { ids := ?_, range := forall_append hstop hlist aligned.range fun _ => hlt
           running := by rw [hrunning, hhal, aligned.running], positive := hhal ▸ aligned.positive
           fits := hslots ▸ forall_append hstop hlist aligned.fits fun hquiet =>
             NsTimerStruct.fits_of_not_waits hquiet _ }
  rw [hlist, List.map_append, List.map_singleton, List.nodup_append]
  refine ⟨aligned.ids, by simp, fun k hk b hb => ?_⟩
  obtain ⟨u, hu, rfl⟩ := List.mem_map.mp hk
  rw [List.mem_singleton.mp hb]
  exact ne_of_pointer_none hnone hu

omit hnone in
lemma Loops.append {next n : ℕ} (loops : s.Loops next n) : s'.Loops next n where
  before u hu := by
    rw [hlist, List.take_append] at hu
    rcases List.mem_append.mp hu with hu | hu
    · exact loops.before u hu
    · rw [List.mem_singleton.mp (List.mem_of_mem_take hu), hstop]
      simp
  after := by
    have hzero : ([t].drop (next - s.nsTimerList.length)).countP
        (fun t => t.timerState = .runInterrupt) = 0 := by
      refine List.countP_eq_zero.mpr fun u hu => ?_
      rw [List.mem_singleton.mp (List.mem_of_mem_drop hu), hstop]
      simp
    rw [hlist, List.drop_append, List.countP_append, hzero]
    exact loops.after

end Register

/-! ## Unregistration -/

lemma pointer_filter (hlist : s'.nsTimerList = s.nsTimerList.filter fun t => t.nsTimerId ≠ timerId)
    (k : BitVec 8) : nsTimerGetPointerToTimerStruct k s'
      = if k = timerId then none else nsTimerGetPointerToTimerStruct k s := by
  rw [nsTimerGetPointerToTimerStruct, hlist, List.find?_filter]
  split
  · next hk =>
    rw [List.find?_eq_none]
    intro t _
    simp only [hk, decide_not, Bool.not_eq_true', decide_eq_false_iff_not, decide_eq_true_eq,
      not_and]
    exact fun hne heq => hne heq
  · next hk =>
    rw [nsTimerGetPointerToTimerStruct]
    congr 1
    funext t
    by_cases ht : t.nsTimerId = k
    · simp [ht, hk]
    · simp [ht]

/-- A timer that is taken out of the list loses its deadline. -/
lemma deadline_filter (hlist : s'.nsTimerList = s.nsTimerList.filter fun t => t.nsTimerId ≠ timerId)
    (hhal : s'.hal = s.hal) (now : ℕ) :
    s'.deadline now = Function.update (s.deadline now) timerId none := by
  have hslots : s'.halSlots = s.halSlots := by rw [halSlots, hhal, halSlots]
  funext k
  rw [deadline, pointer_filter hlist, hslots]
  by_cases hk : k = timerId
  · simp [hk]
  · rw [Function.update_of_ne hk, if_neg hk, deadline]

lemma Aligned.filter (aligned : s.Aligned)
    (hlist : s'.nsTimerList = s.nsTimerList.filter fun t => t.nsTimerId ≠ timerId)
    (hhal : s'.hal = s.hal) (hrunning : s'.nsTimerRunning = s.nsTimerRunning) : s'.Aligned := by
  have hslots : s'.halSlots = s.halSlots := by rw [halSlots, hhal, halSlots]
  have hmem : ∀ t ∈ s'.nsTimerList, t ∈ s.nsTimerList := by
    intro t ht
    rw [hlist] at ht
    exact List.mem_of_mem_filter ht
  refine { ids := ?_, range := fun t ht => aligned.range t (hmem t ht)
           running := by rw [hrunning, hhal, aligned.running], positive := hhal ▸ aligned.positive
           fits := fun t ht => hslots ▸ aligned.fits t (hmem t ht) }
  rw [hlist]
  exact aligned.ids.sublist (List.filter_sublist.map _)

/-! ## One step -/

lemma deadline_of_pointer_none (h : nsTimerGetPointerToTimerStruct timerId s = none) (now : ℕ) :
    s.deadline now timerId = none := by
  simp [deadline, h]

/-- The invariant, and the step of the deadlines, after an operation. -/
def Follows (s s' : CallbackTimers) (now : ℕ)
    (action : Option (DeadlineMap.Action (BitVec 8) (BitVec 16))) : Prop :=
  s'.Armed ∧ ∃ now', DeadlineMap.Step ⟨now, s.deadline now⟩ action ⟨now', s'.deadline now'⟩

lemma Follows.idle {now : ℕ} (armed : s'.Armed) (h : s'.deadline now = s.deadline now) :
    s.Follows s' now none := by
  refine ⟨armed, now, ?_⟩
  rw [h]
  exact .idle

lemma Follows.stop {now : ℕ} (armed : s'.Armed)
    (h : s'.deadline now = Function.update (s.deadline now) timerId none) :
    s.Follows s' now (some (.stop timerId)) := by
  refine ⟨armed, now, ?_⟩
  rw [h]
  exact .stop timerId

lemma Follows.fire {now : ℕ} {slots : BitVec 16} (armed : s'.Armed)
    (hdue : s.deadline now timerId = some (now, slots))
    (h : s'.deadline now = Function.update (s.deadline now) timerId none) :
    s.Follows s' now (some (.fire timerId slots)) := by
  refine ⟨armed, now, ?_⟩
  rw [h]
  exact .fire timerId slots hdue

/-- An operation that does nothing, on an id that is not registered. -/
lemma Follows.unknown {now : ℕ} (armed : s.Armed)
    (h : nsTimerGetPointerToTimerStruct timerId s = none) :
    s.Follows s now (some (.stop timerId)) := by
  refine .stop armed ?_
  rw [← deadline_of_pointer_none h now, Function.update_eq_self]

lemma Armed.register (armed : s.Armed) (h : s.control ≠ .expired)
    (timerInterruptHandler : Option FuncPtr) (newTimer : Option (BitVec 16)) (now : ℕ) :
    s.Follows (eventOSCallbackTimerRegister timerInterruptHandler newTimer s).1 now none := by
  obtain ⟨ticking, looped⟩ := armed.ticking h
  rcases eventOSCallbackTimerRegister_eq timerInterruptHandler newTimer s with
    ⟨b, heq⟩ | ⟨t, hstop, -, hlt, hnone, heq⟩
  · rw [heq]
    refine .idle (Or.inr ⟨ticking.congr rfl rfl rfl, ?_⟩) rfl
    exact looped.keep rfl fun next n loops => ⟨loops.before, loops.after⟩
  · rw [heq]
    refine .idle (Or.inr ⟨⟨ticking.toAligned.append hstop hnone rfl hlt rfl rfl, ?_⟩, ?_⟩) ?_
    · exact fun hidle => forall_append hstop rfl (ticking.idle hidle) id
    · exact looped.keep rfl fun next n loops => loops.append hstop rfl
    · apply deadline_append hstop hnone <;> rfl

lemma Armed.unregister (armed : s.Armed) (hmain : s.control = .main) (timerId : BitVec 8)
    (now : ℕ) : s.Follows (eventOSCallbackTimerUnregister timerId s).1 now
      (some (.stop timerId)) := by
  obtain ⟨ticking, looped⟩ := armed.ticking (by simp [hmain])
  unfold eventOSCallbackTimerUnregister
  cases hfind : nsTimerGetPointerToTimerStruct timerId s with
  | none => exact .unknown armed hfind
  | some t =>
    have hlist := eraseP_eq_filter_of_nodup ticking.ids timerId
    have hmem : ∀ u ∈ s.nsTimerList.eraseP fun t => t.nsTimerId = timerId, u ∈ s.nsTimerList :=
      fun u hu => List.mem_of_mem_eraseP hu
    show s.Follows { s with
      nsTimerList := s.nsTimerList.eraseP fun t => t.nsTimerId = timerId } now _
    refine .stop (Or.inr ⟨⟨ticking.toAligned.filter hlist rfl rfl, ?_⟩, ?_⟩)
      (deadline_filter hlist (by rfl) now)
    · exact fun hidle u hu => ticking.idle hidle u (hmem u hu)
    · simp only [Looped, hmain]
      exact loops_of_quiet fun u hu => (looped.main hmain).quiet u (hmem u hu)

/-- The invariant after an operation that sets one timer. -/
lemma Armed.of_sets (armed : s.Armed) (h : s.control ≠ .expired)
    {value : Option (ℕ × BitVec 16)} {w : NsTimerStruct → Option ℕ}
    {f : NsTimerStruct → NsTimerStruct} (sets : s.Sets s' timerId value w f)
    (hcontrol : s'.control = s.control) : s'.Armed := by
  obtain ⟨ticking, looped⟩ := armed.ticking h
  exact Or.inr ⟨sets.ticking ticking, looped.keep hcontrol fun next n loops => sets.loops loops⟩

lemma Armed.start (armed : s.Armed) (h : s.control ≠ .expired) (idle slots : BitVec 16)
    (hcalm : s.Calm (.start timerId slots)) (now : ℕ) :
    s.Follows (eventOSCallbackTimerStart idle timerId slots s).1 now
      (CallbackOp.action
        (.start timerId slots, .code (eventOSCallbackTimerStart idle timerId slots s).2)) := by
  cases hfind : nsTimerGetPointerToTimerStruct timerId s with
  | none =>
    have heq : eventOSCallbackTimerStart idle timerId slots s = (s, -1) := by
      simp only [eventOSCallbackTimerStart, hfind]
    rw [heq]
    exact .idle armed rfl
  | some t =>
    have hfound : (nsTimerGetPointerToTimerStruct timerId s).isSome := by
      rw [hfind]
      rfl
    obtain ⟨hcode, f, sets⟩ :=
      (armed.ticking h).1.start idle slots hfound fun h0 => hcalm h0 hfound
    refine ⟨armed.of_sets h sets (control_start idle timerId slots s), now, ?_⟩
    rw [hcode, sets.deadline_eq hfound now]
    exact .start timerId (max 1 slots.toNat) slots

lemma Armed.stop (armed : s.Armed) (h : s.control ≠ .expired) (idle : BitVec 16)
    (timerId : BitVec 8) (now : ℕ) :
    s.Follows (eventOSCallbackTimerStop idle timerId s).1 now (some (.stop timerId)) := by
  cases hfind : nsTimerGetPointerToTimerStruct timerId s with
  | none =>
    have heq : eventOSCallbackTimerStop idle timerId s = (s, -1) := by
      simp only [eventOSCallbackTimerStop, hfind]
    rw [heq]
    exact .unknown armed hfind
  | some t =>
    have hfound : (nsTimerGetPointerToTimerStruct timerId s).isSome := by
      rw [hfind]
      rfl
    obtain ⟨f, sets⟩ := (armed.ticking h).1.stop idle hfound
    refine .stop (armed.of_sets h sets (control_stop idle timerId s)) ?_
    rw [sets.deadline_eq hfound now]
    rfl

/-- A call from the interrupt handler, or from its loop when a handler returns. -/
lemma action_call (call : Option TimerCall) :
    CallbackOp.action (.interrupt, .call call)
        = call.map (fun call => .fire call.nsTimerId call.slots) ∧
      CallbackOp.action (.handlerReturn, .call call)
        = call.map fun call => .fire call.nsTimerId call.slots := by
  cases call <;> exact ⟨rfl, rfl⟩

/-- The loop of the interrupt handler takes the timer that it calls from the deadlines. -/
lemma Ticking.follows (ticking : s.Ticking) {next n : ℕ} (loops : s.Loops next n) (now : ℕ) :
    s.Follows (nsTimerCallInterrupts next n s).1 now
      ((nsTimerCallInterrupts next n s).2.map fun call => .fire call.nsTimerId call.slots) := by
  obtain ⟨looped, hcall⟩ := ticking.toAligned.callInterrupts loops
  generalize (nsTimerCallInterrupts next n s).2 = call at hcall
  cases call with
  | none =>
    have hmain : (nsTimerCallInterrupts next n s).1 = { s with control := .main } := hcall
    rw [hmain] at looped ⊢
    exact .idle (Or.inr ⟨ticking.congr rfl rfl rfl, looped⟩) rfl
  | some call =>
    obtain ⟨t, ht, hstate, rfl, f, sets⟩ := hcall
    have hpointer := pointer_of_mem ticking.ids ht
    refine .fire (Or.inr ⟨sets.ticking ticking, looped⟩) ?_
      (sets.deadline_eq (by rw [hpointer]; rfl) now)
    rw [deadline, hpointer]
    simp [NsTimerStruct.left, hstate]

lemma Follows.congr {u : CallbackTimers} {now : ℕ}
    {action : Option (DeadlineMap.Action (BitVec 8) (BitVec 16))}
    (h : u.deadline now = s.deadline now) (follows : u.Follows s' now action) :
    s.Follows s' now action := by
  obtain ⟨armed, now', step⟩ := follows
  rw [h] at step
  exact ⟨armed, now', step⟩

lemma Armed.interrupt (armed : s.Armed) (hexpired : s.control = .expired) (now : ℕ) :
    s.Follows (nsTimerInterruptHandler s).1 now
      (CallbackOp.action (.interrupt, .call (nsTimerInterruptHandler s).2)) := by
  obtain ⟨f, maps, ticking, hlefts, loops⟩ := (armed.expired hexpired).begin
  rw [nsTimerInterruptHandler_eq, (action_call _).1]
  exact .congr (maps.deadline_keep hlefts now) (ticking.follows loops now)

/-- At the start no timer is registered. -/
lemma armed_boot : boot.Armed := by
  refine Or.inr ⟨⟨⟨by simp [boot], by simp [boot], rfl, by simp [boot], by simp [boot]⟩,
    by simp [boot]⟩, ?_⟩
  exact loops_of_quiet (by simp [boot])

end CallbackTimers

open CallbackTimers

variable {s s' : CallbackTimers}

/-- **One step of the code is one of the deadline map.** -/
theorem TimedStep.follows {label : CallbackOp × CallbackRet} (step : TimedStep s label s')
    (armed : s.Armed) (now : ℕ) : s.Follows s' now (CallbackOp.action label) := by
  obtain ⟨op, ret⟩ := label
  obtain ⟨⟨allows, idle, hexec⟩, calm⟩ := step
  cases op with
  | register timerInterruptHandler newTimer =>
    obtain ⟨rfl, rfl⟩ := Prod.mk.inj hexec
    exact armed.register allows timerInterruptHandler newTimer now
  | unregister timerId =>
    obtain ⟨rfl, rfl⟩ := Prod.mk.inj hexec
    exact armed.unregister allows timerId now
  | start timerId slots =>
    obtain ⟨rfl, rfl⟩ := Prod.mk.inj hexec
    exact armed.start allows idle slots calm now
  | stop timerId =>
    obtain ⟨rfl, rfl⟩ := Prod.mk.inj hexec
    exact armed.stop allows idle timerId now
  | sleep => exact calm.elim
  | slot =>
    obtain ⟨rfl, rfl⟩ := Prod.mk.inj hexec
    obtain ⟨harmed, -, hslot⟩ := armed.slot allows
    obtain ⟨hdue, hdeadline⟩ := hslot now
    refine ⟨harmed, now + 1, ?_⟩
    rw [hdeadline]
    exact .tick hdue
  | interrupt =>
    obtain ⟨rfl, rfl⟩ := Prod.mk.inj hexec
    exact armed.interrupt allows now
  | handlerReturn =>
    obtain ⟨next, i, hcontrol⟩ := allows
    obtain ⟨rfl, rfl⟩ := Prod.mk.inj hexec
    obtain ⟨ticking, looped⟩ := armed.ticking (by simp [hcontrol])
    rw [(action_call _).2]
    simp only [hcontrol]
    exact ticking.follows (looped.handler hcontrol) now

/-- **Runs of the callback timers are runs of a deadline map.** -/
theorem callbackTimers_refine {l : List (CallbackOp × CallbackRet)} (run : Run TimedStep boot l s) :
    s.Armed ∧ ∃ now, Run (fun m label => m.Step (CallbackOp.action label)) DeadlineMap.empty l
      ⟨now, s.deadline now⟩ := by
  induction run with
  | nil => exact ⟨armed_boot, 0, .nil⟩
  | snoc _ last ih =>
    obtain ⟨armed, now, hrun⟩ := ih
    obtain ⟨harmed, now', hstep⟩ := last.follows armed now
    exact ⟨harmed, now', .snoc hrun hstep⟩

end EventLoop
