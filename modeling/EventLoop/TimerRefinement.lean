import EventLoop.CatchUp
import EventLoop.Lib.DeadlineMap
import EventLoop.QueueRefinement

/-!
# The system timers are a map of deadlines

The timer list implements the map of `Lib.DeadlineMap` in true ticks: a timer on the list has a
deadline as many ticks ahead as its launch time is, the 32-bit tick counter notwithstanding. A tick
update of `n` ticks does in one go what `n` ticks do, so a timer leaves for the event queue exactly
when the ticks that it was started with have passed. `timerActions` says in the terms of the calls
what is started, stopped and fired; the moves of the life cycle agree with it.
-/

namespace EventLoop

open Lib
open Lib.DeadlineMap (Action expiry elapsed Kept Untouched)

/-- The deadlines of the timers on the list, at the true time `now`, with their events. -/
def State.deadlines (s : State) (now : ℕ) : DeadlineMap Ptr ArmEvent where
  now := now
  deadline p :=
    if p ∈ s.systemTimerList then some (now + s.remaining p, (s.event p).data) else none

/-- What a move does to the deadlines when the tick counter is at `ticks`. -/
def Act.timerActions (ticks : BitVec 32) : Act → List (Action Ptr ArmEvent)
  | .relocate p _ .timerList v => [.start p (ahead ticks v.launchTime) v.event.data]
  | .relocate p .timerList _ _ => [.stop p]
  | _ => []

/-- The moves of operations that let no time pass. -/
def Act.Timeless : Act → Prop
  | .relocate _ .timerList .queue _ => False
  | .clock _ => False
  | _ => True

section

variable {s s' : State} {p : Ptr} {act : Act} {acts : List Act} {now : ℕ}

/-- The deadlines depend on the clock, the timer list and the timers on it. -/
lemma State.deadlines_congr (hticks : s'.timerSysTicks = s.timerSysTicks)
    (hlist : s'.systemTimerList = s.systemTimerList)
    (hsame : ∀ p ∈ s.systemTimerList, (s'.mem p).launchTime = (s.mem p).launchTime ∧
      (s'.event p).data = (s.event p).data) : s'.deadlines now = s.deadlines now := by
  unfold State.deadlines
  congr 1
  funext p
  rw [hlist]
  split
  · next hp => rw [State.remaining, State.remaining, hticks, (hsame p hp).1, (hsame p hp).2]
  · rfl

/-- A timer that is put on the list. -/
lemma State.deadlines_enter {A : Place} {v : SysTimerStruct} {h : Option HeapObject}
    (hA : A ≠ .timerList) : (s.move p A .timerList v h).deadlines now
      = { s.deadlines now with
          deadline := Function.update (s.deadlines now).deadline p
            (some (now + ahead s.timerSysTicks v.launchTime, v.event.data)) } := by
  have hmem : ∀ q, q ∈ (s.move p A .timerList v h).systemTimerList ↔
      q = p ∨ q ∈ s.systemTimerList := by
    intro q
    rw [State.move_timerList, if_pos rfl, if_neg hA]
    exact List.mem_orderedInsert _
  refine congrArg (DeadlineMap.mk now) (funext fun q => ?_)
  by_cases hq : q = p
  · subst hq
    simp [State.deadlines, hmem, State.remaining, State.move_event_self]
  · simp [State.deadlines, hmem, hq, State.remaining, State.move_event_of_ne _ hq]

/-- A timer that is taken off the list. -/
lemma State.deadlines_leave {B : Place} {v : SysTimerStruct} {h : Option HeapObject}
    (own : Owned s) (hB : B ≠ .timerList) : (s.move p .timerList B v h).deadlines now
      = { s.deadlines now with
          deadline := Function.update (s.deadlines now).deadline p none } := by
  have hmem : ∀ q, q ∈ (s.move p .timerList B v h).systemTimerList ↔
      q ≠ p ∧ q ∈ s.systemTimerList := by
    intro q
    rw [State.move_timerList, if_neg hB, if_pos rfl]
    exact (own.nodup .timerList).mem_erase_iff
  refine congrArg (DeadlineMap.mk now) (funext fun q => ?_)
  by_cases hq : q = p
  · subst hq
    simp [State.deadlines, hmem]
  · simp [State.deadlines, hmem, hq, State.remaining, State.move_event_of_ne _ hq]

variable (now) in
/-- **A move is what `timerActions` says of the deadlines.** -/
theorem Move.deadlines (own : Owned s) (move : Move s act s') (hact : act.Timeless) :
    s'.timerSysTicks = s.timerSysTicks ∧
      (s.deadlines now).ActionRun (act.timerActions s.timerSysTicks) (s'.deadlines now) := by
  have hsame : s'.timerSysTicks = s.timerSysTicks → act.timerActions s.timerSysTicks = [] →
      s'.systemTimerList = s.systemTimerList →
      (∀ p ∈ s.systemTimerList, (s'.mem p).launchTime = (s.mem p).launchTime ∧
        (s'.event p).data = (s.event p).data) →
      s'.timerSysTicks = s.timerSysTicks ∧
        (s.deadlines now).ActionRun (act.timerActions s.timerSysTicks) (s'.deadlines now) := by
    intro hticks hactions hlist hfields
    rw [hactions, State.deadlines_congr hticks hlist hfields]
    exact ⟨hticks, .nil⟩
  cases move with
  | @relocate p A B v h row =>
    by_cases hA : A = .timerList
    · subst hA
      have hB : B ≠ .timerList := by cases row <;> decide
      have hactions : (Act.relocate p .timerList B v).timerActions s.timerSysTicks
          = [.stop p] := by
        cases B <;> first | rfl | exact absurd rfl hB
      rw [hactions, State.deadlines_leave own hB]
      exact ⟨State.move_ticks .., .single (.stop p)⟩
    have hp := own.notMem_timerList row hA
    by_cases hB : B = .timerList
    · subst hB
      rw [State.deadlines_enter hA]
      exact ⟨State.move_ticks .., .single (.start p _ _)⟩
    · refine hsame (State.move_ticks ..) ?_ ?_ fun q hq => ?_
      · cases A <;> cases B <;> first | rfl | exact absurd rfl hA | exact absurd rfl hB
      · rw [State.move_timerList, if_neg hB, if_neg hA]
      · have hne : q ≠ p := by
          rintro rfl
          exact hp hq
        simp [hne, State.move_event_of_ne]
  | clock => exact hact.elim
  | register | active | clientAlloc | clientFree =>
    exact hsame rfl rfl rfl fun _ _ => ⟨rfl, rfl⟩
  | @unperiod p hp hclass =>
    refine hsame rfl rfl rfl fun q _ => ⟨?_, by rw [State.setPeriod_event]⟩
    simp only [State.setPeriod, State.store, Function.update_apply]
    split <;> simp_all
  | @write p rest data hp hq =>
    refine hsame rfl rfl rfl fun q hqlist => ?_
    have hne : q ≠ p := by
      rintro rfl
      have hclass : s.classOf q = .timer := own.admits .timerList q hqlist
      have hrunning : q ∈ s.at_ .running := by simp [State.at_, hp, hclass]
      cases own.place_unique (A := .timerList) hqlist hrunning
    simp [State.setData, State.store, State.event, hne]

variable (now) in
/-- A run of moves is what `timerActions` says of the deadlines. -/
theorem deadlines_of_run (own : Owned s) (run : Run Move s acts s')
    (hacts : ∀ act ∈ acts, act.Timeless) :
    s'.timerSysTicks = s.timerSysTicks ∧
      (s.deadlines now).ActionRun (acts.flatMap (Act.timerActions s.timerSysTicks))
        (s'.deadlines now) := by
  induction run with
  | nil => exact ⟨rfl, .nil⟩
  | @snoc acts t u act run last ih =>
    obtain ⟨hticks, hrun⟩ := ih fun a ha => hacts a (List.mem_append_left _ ha)
    obtain ⟨hticks', hlast⟩ := last.deadlines now (own.run run)
      (hacts act (List.mem_append_right _ List.mem_cons_self))
    rw [hticks] at hlast
    rw [List.flatMap_append, List.flatMap_singleton]
    exact ⟨hticks'.trans hticks, hrun.append hlast⟩

end

/-! ## Operations -/

/-- What a timer request starts: a timer for the event, if its time has not come yet. -/
def startRequest (s : State) (event : ArmEvent) (at_ : BitVec 32) :
    Option Ptr → List (Action Ptr ArmEvent)
  | none => []
  | some p =>
    if ticksBeforeOrAt at_ s.timerSysTicks then []
    else [.start p (ahead s.timerSysTicks at_) event]

/-- What a cancel stops. -/
def stopCancel (s : State) (p : Ptr) : List (Action Ptr ArmEvent) :=
  if p ∈ s.systemTimerList then [.stop p] else []

/-- What the return of a handler starts: a periodic timer, for its next launch. -/
def startReturn (s : State) : List (Action Ptr ArmEvent) :=
  match s.running with
  | p :: _ =>
    if s.classOf p = .timer ∧ (s.mem p).period ≠ 0 ∧
        ¬ ticksBeforeOrAt ((s.mem p).launchTime + (s.mem p).period) s.timerSysTicks then
      [.start p (ahead s.timerSysTicks ((s.mem p).launchTime + (s.mem p).period))
        (s.event p).data]
    else []
  | [] => []

/-- What an operation does to the deadlines of the timers. -/
def timerActions (s : State) (op : Op) (r : Ret) : List (Action Ptr ArmEvent) :=
  match op with
  | .requestAt event at_ _ => startRequest s event at_ r.handle?
  | .requestIn event in_ _ => startRequest s event (s.timerSysTicks + in_) r.handle?
  | .requestEvery event period _ => startRequest s event (s.timerSysTicks + period) r.handle?
  | .request eventId eventType taskletId time answer =>
    if r.code? = some 0 then
      startRequest s (legacyEvent eventId eventType taskletId)
        (s.timerSysTicks + legacyTicks time) (timerSource s answer)
    else []
  | .timerCancel eventId taskletId =>
    match timerCancelTarget s eventId taskletId with
    | some p => stopCancel s p
    | none => []
  | .cancel (some p) => stopCancel s p
  | .cancel none => []
  | .tickUpdate ticks =>
    expiry s.systemTimerList s.remaining (fun p => (s.event p).data) ticks.toNat
  | .synchAfterSleep sleepTicks _ =>
    expiry s.systemTimerList s.remaining (fun p => (s.event p).data) (sleepTicks / 10 + 1).toNat
  | .handlerReturn => startReturn s
  | .handlerCreate _ _ _ _ | .send _ _ | .sendUserAllocated _ _ | .sendTimerAllocated _ _
  | .setActiveTasklet _ | .dispatch | .handlerWrite _ | .clientAlloc _ | .clientFree _ => []

/-- Without a tick update timers are started and stopped only. -/
lemma timerActions_timeless {s : State} {op : Op} (r : Ret) (hop : op.ticks = none) :
    ∀ a ∈ timerActions s op r, a.isTick = false ∧ a.fired = none := by
  have hrequest : ∀ event at_ p, ∀ a ∈ startRequest s event at_ p,
      a.isTick = false ∧ a.fired = none := by
    intro event at_ p
    unfold startRequest
    split
    · simp
    · split <;> simp [Action.isTick, Action.fired]
  have hcancel : ∀ p, ∀ a ∈ stopCancel s p, a.isTick = false ∧ a.fired = none := by
    intro p
    unfold stopCancel
    split <;> simp [Action.isTick, Action.fired]
  have hreturn : ∀ a ∈ startReturn s, a.isTick = false ∧ a.fired = none := by
    unfold startReturn
    split
    · split <;> simp [Action.isTick, Action.fired]
    · simp
  cases op with
  | tickUpdate | synchAfterSleep => cases hop
  | requestAt | requestIn | requestEvery => exact hrequest _ _ _
  | request eventId eventType taskletId time answer =>
    simp only [timerActions]
    split
    · exact hrequest _ _ _
    · simp
  | timerCancel eventId taskletId =>
    simp only [timerActions]
    split
    · exact hcancel _
    · simp
  | cancel event =>
    cases event with
    | none => simp [timerActions]
    | some p => exact hcancel p
  | handlerReturn => exact hreturn
  | _ => simp [timerActions]

/-- An operation that lets no time pass. -/
lemma bounded_of_timeless {op : Op} (h : op.ticks = none) : BoundedTicks op := by
  cases op <;> trivial

section

variable {s s' : State} {op : Op} {r : Ret} {acts : List Act} {now : ℕ}

/-- The moves of a request that gets its timer. -/
lemma Requested.starts {event : ArmEvent} {at_ period : BitVec 32} {answer p : Option Ptr}
    (h : Requested s event at_ period answer p acts) :
    (∀ act ∈ acts, act.Timeless) ∧
      acts.flatMap (Act.timerActions s.timerSysTicks) = startRequest s event at_ p := by
  have hgrow : ∀ p v, (growActs s p v).flatMap (Act.timerActions s.timerSysTicks) = [] := by
    intro p v
    unfold growActs
    split <;> simp [Act.timerActions]
  refine ⟨h.forall_acts (by simp [Act.Timeless]) fun _ p B hB => by
    rcases hB with rfl | rfl <;> simp [Act.Timeless], ?_⟩
  cases h with
  | unknown | full => rfl
  | fire hreceiver hsource hdue => simp [hgrow, Act.timerActions, startRequest, hdue]
  | arm hreceiver hsource hdue =>
    simp [hgrow, Act.timerActions, startRequest, hdue, requested]

/-- The moves of a cancel. -/
lemma timerActions_cancel (own : Owned s) (p : Ptr) :
    (∀ act ∈ cancelActs s p, act.Timeless) ∧
      (cancelActs s p).flatMap (Act.timerActions s.timerSysTicks) = stopCancel s p := by
  refine ⟨cancelActs_forall (fun A B v hA hB => ?_) trivial, ?_⟩
  · rcases hA with rfl | rfl
    · exact trivial
    · cases B <;> first | exact trivial | exact absurd trivial hB
  · unfold cancelActs stopCancel
    by_cases hq : p ∈ s.eventQueueActive
    · have hlist : p ∉ s.systemTimerList := fun hmem => by
        cases own.place_unique (A := .queue) (B := .timerList) hq hmem
      simp only [hq, hlist, ↓reduceIte]
      split <;> rfl
    · simp only [hq, ↓reduceIte]
      split_ifs <;> rfl

/-- The moves of an operation that lets no time pass are what `timerActions` says. -/
theorem Effect.startsAndStops (own : Owned s) (heffect : Effect s op r acts)
    (hticks : op.ticks = none) : (∀ act ∈ acts, act.Timeless) ∧
      acts.flatMap (Act.timerActions s.timerSysTicks) = timerActions s op r := by
  cases heffect with
  | tickUpdate | synchAfterSleep => cases hticks
  | requestAt h | requestIn h | requestEvery _ h => exact h.starts
  | request h =>
    rename_i p
    obtain ⟨htimeless, hactions⟩ := h.starts
    refine ⟨htimeless, hactions.trans ?_⟩
    cases p with
    | none => rfl
    | some p => simp [timerActions, Ret.code?, h.source rfl]
  | timerCancel hp => simpa [timerActions, hp] using timerActions_cancel own _
  | timerCancelFail hp => simp [timerActions, hp]
  | cancel p => exact timerActions_cancel own p
  | @handlerReturn p rest hrun =>
    simp only [timerActions, startReturn, hrun, finishAct]
    cases hclass : s.classOf p with
    | timer =>
      split_ifs <;> simp_all [Act.timerActions, Act.Timeless, SysTimerStruct.advanced,
        SysTimerStruct.tagged]
    | _ => simp [Act.timerActions, Act.Timeless]
  | handlerCreate hfun hsource =>
    have hsrc := eventSource_place hsource (B := .timerList) trivial
    rename_i A allocator
    cases A <;> simp_all [timerActions, Act.timerActions, Act.Timeless]
  | send hreceiver hsource =>
    have hsrc := eventSource_place hsource (B := .timerList) trivial
    rename_i A allocator
    cases A <;> simp_all [timerActions, Act.timerActions, Act.Timeless]
  | sendUserAllocated | sendTimerAllocated | dispatch | dispatchIdle | setActiveTasklet
  | handlerWrite | clientAlloc | clientFree =>
    simp [timerActions, Act.timerActions, Act.Timeless]
  | requestEveryFail | handlerCreateDuplicate | handlerCreateFull | sendFail | cancelNull
  | clientAllocFail => exact ⟨by simp, rfl⟩

end

/-! ## Tick updates -/

section

variable [NsList] {s s' : State} {now : ℕ}

/-- Sending does not change what is sent. -/
lemma sendAll_data (l : List Ptr) (p : Ptr) (s : State) :
    ((sendAll l s).event p).data = (s.event p).data := by
  induction l generalizing s with
  | nil => rfl
  | cons q l ih =>
    refine (ih _).trans ?_
    rw [State.event, send_mem, Function.update_apply]
    split <;> simp_all

namespace TimerHistory.Ordered

variable {h : TimerHistory}

/-- **A tick update lets time pass**, with the timers fired whose time comes. -/
lemma deadlines_ticked (ordered : h.Ordered) (own : Owned h.state) {t : BitVec 32} :
    (h.state.deadlines now).ActionRun
      (expiry h.state.systemTimerList h.state.remaining (fun p => (h.state.event p).data) t.toNat)
      ((h.state.ticked t).deadlines (now + t.toNat)) := by
  have hrun := DeadlineMap.run_expiry (m := h.state.deadlines now) (own.nodup .timerList) rfl
    (fun p hp => (ordered.window p hp).1) t.toNat
  have hleft : (h.state.ticked t).deadlines (now + t.toNat) = ⟨now + t.toNat, fun p =>
      if p ∈ h.state.systemTimerList ∧ t.toNat < h.state.remaining p then
        some (now + h.state.remaining p, (h.state.event p).data)
      else none⟩ := by
    refine congrArg (DeadlineMap.mk _) (funext fun p => ?_)
    have hmem : p ∈ (h.state.ticked t).systemTimerList ↔
        p ∈ h.state.systemTimerList ∧ t.toNat < h.state.remaining p := by
      simp [State.ticked, State.after]
    by_cases hp : p ∈ (h.state.ticked t).systemTimerList
    · have hlt := (hmem.mp hp).2
      have hdata : ((h.state.ticked t).event p).data = (h.state.event p).data :=
        sendAll_data _ p h.state
      rw [if_pos hp, if_pos (hmem.mp hp), ticked_remaining hp, hdata,
        show now + t.toNat + (h.state.remaining p - t.toNat) = now + h.state.remaining p by omega]
    · rw [if_neg hp, if_neg fun h => hp (hmem.mpr h)]
  rw [hleft]
  exact hrun

omit [NsList] in
/-- What fires is what a tick update writes to the event queue, in the same order. -/
lemma observeTicks_eq (ordered : h.Ordered) {t : BitVec 32} (ht : t.toNat ≤ 2 ^ 31) :
    observeTicks h.state t
      = ((expiry h.state.systemTimerList h.state.remaining (fun p => (h.state.event p).data)
          t.toNat).filterMap Action.fired).map fun a => .write a.1 a.2 := by
  have hle : h.state.systemTimerList.Pairwise
      fun a b => h.state.remaining a ≤ h.state.remaining b :=
    ordered.sorted.imp fun hab => hab.elim le_of_lt fun hab => hab.1.le
  rw [DeadlineMap.fired_expiry _ hle (fun p hp => (ordered.window p hp).1), ← ordered.due_eq ht,
    observeTicks, List.map_map]
  rfl

end TimerHistory.Ordered

/-! ## Runs -/

/-- A step of a run, seen from the timers. -/
def DeadlineStep (s : State) (actions : List (Action Ptr ArmEvent)) (s' : State) : Prop :=
  ∃ op r, Step s (op, r) s' ∧ BoundedTicks op ∧ actions = timerActions s op r

omit [NsList] in
/-- The operations that let time pass. -/
lemma timerActions_of_ticks {op : Op} {t : BitVec 32} (h : op.ticks = some t) (s : State)
    (r : Ret) : timerActions s op r
      = expiry s.systemTimerList s.remaining (fun p => (s.event p).data) t.toNat ∧
    observe s op r = observeTicks s t := by
  cases op <;> cases h <;> exact ⟨rfl, rfl⟩

variable (now) in
/-- A step of a run is matched by the map of deadlines. -/
lemma DeadlineStep.simulate {actions : List (Action Ptr ArmEvent)} (own : Owned s)
    (ordered : s.Ordered) (step : DeadlineStep s actions s') : ∃ n,
      (s.deadlines now).ActionRun actions (s'.deadlines (now + n)) ∧
        s'.timerSysTicks = s.timerSysTicks + BitVec.ofNat 32 n ∧ Owned s' ∧ s'.Ordered := by
  obtain ⟨op, r, hstep, hbounded, rfl⟩ := step
  have own' := own.step hstep
  have ordered' := ordered.step own hstep hbounded
  cases hop : op.ticks with
  | none =>
    obtain ⟨acts, heffect, hrun⟩ := Step.effect own hstep
    obtain ⟨htimeless, hactions⟩ := heffect.startsAndStops own hop
    obtain ⟨hticks, hdeadlines⟩ := deadlines_of_run now own hrun htimeless
    rw [hactions] at hdeadlines
    exact ⟨0, hdeadlines, by simp [hticks], own', ordered'⟩
  | some t =>
    obtain ⟨h, rfl, hordered⟩ := ordered
    have hupdate := exec_ticks hstep.exec hop
    rw [hordered.tickUpdate_eq (hbounded.le hop)] at hupdate
    obtain rfl := Except.ok.inj hupdate
    rw [(timerActions_of_ticks hop _ r).1]
    refine ⟨t.toNat, hordered.deadlines_ticked own, ?_, own', ordered'⟩
    rw [BitVec.ofNat_toNat, BitVec.setWidth_eq]
    rfl

variable (now) in
/-- A run is matched by the map of deadlines. -/
lemma DeadlineStep.simulate_run {l : List (List (Action Ptr ArmEvent))} (own : Owned s)
    (ordered : s.Ordered) (run : Run DeadlineStep s l s') : ∃ n,
      (s.deadlines now).ActionRun l.flatten (s'.deadlines (now + n)) ∧
        s'.timerSysTicks = s.timerSysTicks + BitVec.ofNat 32 n ∧ Owned s' ∧ s'.Ordered := by
  induction run with
  | nil => exact ⟨0, .nil, by simp, own, ordered⟩
  | @snoc l t u actions run last ih =>
    obtain ⟨n, hrun, hticks, own, ordered⟩ := ih
    obtain ⟨n', hlast, hticks', own', ordered'⟩ := last.simulate (now + n) own ordered
    refine ⟨n + n', ?_, ?_, own', ordered'⟩
    · rw [List.flatten_append, List.flatten_singleton, ← Nat.add_assoc]
      exact hrun.append hlast
    · rw [hticks', hticks, BitVec.ofNat_add, add_assoc]

/-- A run of operations is a run as the timers see it. -/
lemma deadlineStep_of_runOf {l : List (Op × Ret)}
    (run : RunOf (fun _ op => BoundedTicks op) s l s') :
    ∃ actions, Run DeadlineStep s actions s' := by
  unfold RunOf at run
  induction run with
  | nil => exact ⟨[], .nil⟩
  | @snoc l t u label _ last ih =>
    obtain ⟨actions, hrun⟩ := ih
    exact ⟨_, .snoc hrun ⟨label.1, label.2, last.1, last.2, rfl⟩⟩

/-- What becomes of the timers in a run, when `actions` is what was done to their deadlines. -/
structure ExactTimers (s₀ : State) (actions : List (Action Ptr ArmEvent)) (s : State) : Prop where
  /-- the run is one of the map of deadlines, and the tick counter counts its time -/
  refines : ∃ now, DeadlineMap.empty.ActionRun actions (s.deadlines now) ∧
    s.timerSysTicks = s₀.timerSysTicks + BitVec.ofNat 32 now
  /-- a timer that is started waits, or has fired once, when its time had passed -/
  started : ∀ l₁ p n event l₂, actions = l₁ ++ .start p n event :: l₂ → Kept some p l₂ →
    (Untouched some p l₂ ∧ p ∈ s.systemTimerList ∧ (s.event p).data = event ∧
      elapsed some l₂ + s.remaining p = n) ∨
    ∃ m₁ m₂, l₂ = m₁ ++ .fire p event :: m₂ ∧ elapsed some m₁ = n ∧ Untouched some p m₁ ∧
      Untouched some p m₂
  /-- nothing else fires -/
  fired : ∀ l₁ p event l₂, actions = l₁ ++ .fire p event :: l₂ →
    ∃ m₁ n m₂, l₁ = m₁ ++ .start p n event :: m₂ ∧ elapsed some m₂ = n ∧ Untouched some p m₂
  /-- what fires next is what is written to the event queue next, in the same order -/
  sent : ∀ op r s', Step s (op, r) s' → BoundedTicks op → op.ticks.isSome →
    observe s op r = ((timerActions s op r).filterMap Action.fired).map fun a => .write a.1 a.2

/-- After initialisation no timer waits. -/
lemma Initial.deadlines {s₀ : State} (init : Initial s₀) : s₀.deadlines 0 = DeadlineMap.empty := by
  obtain ⟨t, boot, rfl⟩ := init
  rw [boot.init_eq]
  simp [State.deadlines, DeadlineMap.empty, boot.systemTimerList]

/-- **The system timers are exact.** In every run with tick updates of at most 2³¹ ticks, however
long it is: a timer that is put on the list to wait for `n` ticks leaves it for the event queue,
with the event it was requested with, exactly when `n` ticks have passed, unless it is cancelled
before; and nothing else that waits leaves it for the queue. -/
theorem systemTimers_exact {s₀ s : State} {l : List (List (Action Ptr ArmEvent))}
    (init : Initial s₀) (run : Run DeadlineStep s₀ l s) : ExactTimers s₀ l.flatten s := by
  obtain ⟨n, hrun, hticks, own, ordered⟩ := DeadlineStep.simulate_run 0 init.owned
    ⟨_, rfl, init.ordered⟩ run
  rw [init.deadlines, Nat.zero_add] at hrun
  refine ⟨⟨n, hrun, hticks⟩, fun l₁ p m event l₂ hl hkept => ?_, fun l₁ p event l₂ hl => ?_,
    fun op r s' step hbounded hsome => ?_⟩
  · rw [hl] at hrun
    rcases DeadlineMap.fires_once hrun rfl hkept with ⟨huntouched, hdeadline, -⟩ | hfired
    · have hnow := DeadlineMap.now_of_run hrun
      rw [← List.singleton_append, DeadlineMap.elapsed_append, DeadlineMap.elapsed_append,
        DeadlineMap.elapsed_singleton some rfl] at hnow
      simp only [State.deadlines, DeadlineMap.empty, Option.any_some, Action.isTick,
        Bool.false_eq_true, ↓reduceIte] at hnow hdeadline
      split at hdeadline
      · next hp =>
        obtain ⟨hleft, hevent⟩ := Prod.mk.inj (Option.some.inj hdeadline)
        exact Or.inl ⟨huntouched, hp, hevent, by omega⟩
      · cases hdeadline
    · obtain ⟨m₁, b, m₂, hl₂, hb, helapsed, h₁, h₂⟩ := hfired
      obtain rfl := Option.some.inj hb
      exact Or.inr ⟨m₁, m₂, hl₂, helapsed, h₁, h₂⟩
  · rw [hl] at hrun
    obtain ⟨t, hbefore, hafter⟩ := hrun.split
    obtain ⟨u, hfire, -⟩ := Run.cons_iff.mp hafter
    obtain ⟨m₁, b, m₂, d, hl₁, hb, huntouched, helapsed⟩ :=
      DeadlineMap.fired_exactly (v := event) (k := p) hbefore hfire rfl
    obtain rfl := Option.some.inj hb
    exact ⟨m₁, d, m₂, hl₁, helapsed, huntouched⟩
  · obtain ⟨t, ht⟩ := Option.isSome_iff_exists.mp hsome
    obtain ⟨h, rfl, hordered⟩ := ordered
    obtain ⟨hactions, hwrites⟩ := timerActions_of_ticks ht h.state r
    rw [hactions, hwrites, hordered.observeTicks_eq (hbounded.le ht)]

end

/-- The sample run at the wrap-around of the tick counter: two one-shot timers that are started with
20 ticks fire after them, and the periodic one before. -/
theorem systemTimers_exact_wrap : ∃ s l,
    Run DeadlineStep (eventOSSchedulerInit (.boot 0xFFFFFFF0)) l s ∧
    s.timerSysTicks = 10 ∧ s.eventQueueActive = [.startupSysTimerPool 3, .startupSysTimerPool 5,
      .startupSysTimerPool 4, .startupEventPool 9] ∧
    ExactTimers (eventOSSchedulerInit (.boot 0xFFFFFFF0)) l.flatten s := by
  have hsome : (drive (fun _ op => BoundedTicks op) (wrapOps ++ [.tickUpdate 20])
      (eventOSSchedulerInit (.boot 0xFFFFFFF0))).map
        (fun s => (s.timerSysTicks, s.eventQueueActive))
      = some (10, [.startupSysTimerPool 3, .startupSysTimerPool 5, .startupSysTimerPool 4,
        .startupEventPool 9]) := by decide +kernel
  obtain ⟨s, hs, heq⟩ := Option.map_eq_some_iff.mp hsome
  obtain ⟨hticks, hqueue⟩ := Prod.mk.inj heq
  obtain ⟨l₀, run, -⟩ := drive_runOf hs
  obtain ⟨l, hrun⟩ := deadlineStep_of_runOf run
  exact ⟨s, l, hrun, hticks, hqueue, systemTimers_exact (boot_initial _) hrun⟩

end EventLoop
