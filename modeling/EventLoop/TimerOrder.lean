import EventLoop.Ticks

/-!
# The timer list is ordered

`timer_sys_add` inserts by `TICKS_BEFORE` and the loop of `system_timer_tick_update` stops at the
first timer that is not due. Both are right because every waiting timer is less than half the
circle of tick counts ahead of the clock (`TimerHistory.Ordered.window`), where `TICKS_BEFORE` is
the order of the remaining ticks. Ties stand in the order of insertion; a `TimerHistory` records
when each timer was put on the list.
-/

namespace EventLoop

open Lib

/-! ## What an operation does to the timer list -/

/-- Nothing was put on the timer list and no time has passed. -/
structure Shrinks (s s' : State) : Prop where
  ticks : s'.timerSysTicks = s.timerSysTicks
  list : s'.systemTimerList.Sublist s.systemTimerList
  launch : ∀ q ∈ s'.systemTimerList, (s'.mem q).launchTime = (s.mem q).launchTime

/-- One timer that is not due was put on the timer list and no time has passed. -/
structure Inserts (s : State) (p : Ptr) (s' : State) : Prop where
  ticks : s'.timerSysTicks = s.timerSysTicks
  notMem : p ∉ s.systemTimerList
  list : s'.systemTimerList = s.systemTimerList.orderedInsert
    (fun a b => ticksBefore (s'.mem a).launchTime (s'.mem b).launchTime) p
  launch : ∀ q ∈ s.systemTimerList, (s'.mem q).launchTime = (s.mem q).launchTime
  window : InWindow s'.timerSysTicks (s'.mem p).launchTime

lemma Shrinks.refl (s : State) : Shrinks s s := ⟨rfl, .refl _, fun _ _ => rfl⟩

lemma Shrinks.trans {s t u : State} (h : Shrinks s t) (h' : Shrinks t u) : Shrinks s u where
  ticks := h'.ticks.trans h.ticks
  list := h'.list.trans h.list
  launch q hq := (h'.launch q hq).trans (h.launch q (h'.list.subset hq))

/-- A storage that comes from elsewhere is not on the timer list. -/
lemma Owned.notMem_timerList {s : State} (own : Owned s) {p : Ptr} {A B : Place}
    {v : SysTimerStruct} {h : Option HeapObject} (row : Row s p A B v h) (hA : A ≠ .timerList) :
    p ∉ s.systemTimerList := by
  intro hmem
  have hclass : s.classOf p = .timer := own.admits .timerList p hmem
  have helse : ∀ {C : Place}, C ≠ .timerList → p ∉ s.at_ C := by
    intro C hC hp
    exact hC (own.place_unique hp hmem)
  have hfresh : ¬ Fresh s p := by
    intro fresh
    exact List.count_pos_iff.mpr hmem |>.ne' (fresh.count_eq_zero own .timerList)
  have hrunning : p ∈ s.running → p ∈ s.at_ .running := by
    intro hp
    simp [State.at_, hp, hclass]
  cases row with
  | sendPool data hp => exact helse (by decide) (show p ∈ s.at_ .free from hp)
  | sendDynamic data fresh => exact hfresh fresh
  | grow v fresh => exact hfresh fresh
  | sendUser v isHeap hheap =>
    obtain ⟨a, rfl⟩ := isHeap
    simp [State.classOf, hheap] at hclass
  | fire v hp => exact helse (by decide) (show p ∈ s.at_ .timerFree from hp)
  | arm v hp => exact helse (by decide) (show p ∈ s.at_ .timerFree from hp)
  | expire => exact hA rfl
  | cancelWaiting => exact hA rfl
  | deliver hp => exact helse (by decide) (show p ∈ s.at_ .queue by simp [State.at_, hp])
  | cancelPool hp => exact helse (by decide) (show p ∈ s.at_ .queue from hp)
  | cancelDynamic hp => exact helse (by decide) (show p ∈ s.at_ .queue from hp)
  | cancelUser hp => exact helse (by decide) (show p ∈ s.at_ .queue from hp)
  | cancelQueued hp => exact helse (by decide) (show p ∈ s.at_ .queue from hp)
  | finishPool hp | finishDynamic hp | finishUser hp | finishOneShot hp | requeue hp | rearm hp =>
    exact helse (by decide) (hrunning (by simp [hp]))

/-- Moves that put nothing on the timer list and leave the clock alone. -/
def Act.Shrinking : Act → Prop
  | .relocate _ _ B _ => B ≠ .timerList
  | .clock _ => False
  | _ => True

lemma Move.shrinks {s s' : State} {act : Act} (own : Owned s) (move : Move s act s')
    (hact : act.Shrinking) : Shrinks s s' := by
  cases move with
  | @relocate p A B v h row =>
    have hlist : (s.move p A B v h).systemTimerList
        = if A = .timerList then s.systemTimerList.erase p else s.systemTimerList := by
      rw [State.move_timerList, if_neg hact]
    refine ⟨State.move_ticks .., ?_, fun q hq => ?_⟩
    · rw [hlist]
      split
      · exact List.erase_sublist
      · exact .refl _
    · have hne : q ≠ p := by
        rintro rfl
        rw [hlist] at hq
        split at hq
        · exact ((own.nodup .timerList).mem_erase_iff.mp hq).1 rfl
        · next hA => exact own.notMem_timerList row hA hq
      simp [hne]
  | clock => exact hact.elim
  | register | active | clientAlloc | clientFree => exact ⟨rfl, .refl _, fun _ _ => rfl⟩
  | unperiod hp hclass =>
    refine ⟨rfl, .refl _, fun q _ => ?_⟩
    simp only [State.setPeriod, State.store, Function.update_apply]
    split <;> simp_all
  | write data hp hq =>
    refine ⟨rfl, .refl _, fun q _ => ?_⟩
    simp only [State.setData, State.store, Function.update_apply]
    split <;> simp_all

lemma Shrinks.of_run {s s' : State} {acts : List Act} (own : Owned s) (run : Run Move s acts s')
    (hacts : ∀ act ∈ acts, act.Shrinking) : Shrinks s s' := by
  refine own.run_on (I := fun t => Shrinks s t) (fun t act u own hshrinks hact move => ?_)
    (.refl s) run hacts
  exact hshrinks.trans (move.shrinks own hact)

lemma Move.inserts {s s' : State} {p : Ptr} {A : Place} {v : SysTimerStruct} (own : Owned s)
    (move : Move s (.relocate p A .timerList v) s') : Inserts s p s' := by
  cases move with
  | @relocate p A B v h row =>
    have hA : A ≠ .timerList := by
      rintro rfl
      cases row
    have hnot := own.notMem_timerList row hA
    have hwindow : InWindow s.timerSysTicks v.launchTime := by
      cases row with
      | arm v hp halloc hstate hdue => simpa [ticksBeforeOrAt_iff] using hdue
      | rearm hp hclass hperiod hdue => simpa [ticksBeforeOrAt_iff] using hdue
    refine ⟨State.move_ticks .., hnot, ?_, fun q hq => ?_, ?_⟩
    · rw [State.move_timerList, if_pos rfl, if_neg hA, State.move_mem]
      rfl
    · have hne : q ≠ p := by
        rintro rfl
        exact hnot hq
      simp [hne]
    · simpa using hwindow

/-- What happens before an insertion on other lists does not matter. -/
lemma Inserts.of_same {s t u : State} {p : Ptr} (h : Inserts t p u)
    (hticks : t.timerSysTicks = s.timerSysTicks) (hlist : t.systemTimerList = s.systemTimerList)
    (hlaunch : ∀ q ∈ s.systemTimerList, (t.mem q).launchTime = (s.mem q).launchTime) :
    Inserts s p u where
  ticks := h.ticks.trans hticks
  notMem := hlist ▸ h.notMem
  list := hlist ▸ h.list
  launch q hq := (h.launch q (hlist ▸ hq)).trans (hlaunch q hq)
  window := h.window

/-- A block that is allocated for a timer goes to the free timers. -/
lemma growActs_same {s t : State} {p : Ptr} {v : SysTimerStruct} (own : Owned s)
    (run : Run Move s (growActs s p v) t) :
    t.timerSysTicks = s.timerSysTicks ∧ t.systemTimerList = s.systemTimerList ∧
      ∀ q ∈ s.systemTimerList, (t.mem q).launchTime = (s.mem q).launchTime := by
  have hshrinks := Shrinks.of_run own run (growActs_forall (by simp [Act.Shrinking]) s p v)
  have hlist : t.systemTimerList = s.systemTimerList := by
    unfold growActs at run
    split at run
    · obtain rfl := Run.nil_iff.mp run
      rfl
    · simp only [Run.cons_iff, Run.nil_iff] at run
      obtain ⟨u, move, rfl⟩ := run
      cases move
      simp [State.move_timerList]
  exact ⟨hshrinks.ticks, hlist, fun q hq => hshrinks.launch q (hlist ▸ hq)⟩

/-- The ticks that an operation lets pass. -/
def Op.ticks : Op → Option (BitVec 32)
  | .tickUpdate ticks => some ticks
  | .synchAfterSleep sleepTicks _ => some (sleepTicks / 10 + 1)
  | _ => none

/-- What an operation does to the timer list. -/
inductive TimerListStep (s : State) (op : Op) (s' : State) : Prop
  | shrinks (h : Shrinks s s')
  | inserts (p : Ptr) (h : Inserts s p s')
  | ticks (t : BitVec 32) (hop : op.ticks = some t)

lemma Requested.timerListStep {s s' : State} {op : Op} {event : ArmEvent} {at_ period : BitVec 32}
    {answer r : Option Ptr} {acts : List Act} (own : Owned s)
    (h : Requested s event at_ period answer r acts) (run : Run Move s acts s') :
    TimerListStep s op s' := by
  cases h with
  | unknown | full => exact .shrinks (.of_run own run (by simp))
  | fire =>
    refine .shrinks (.of_run own run fun act hact => ?_)
    rcases List.mem_append.mp hact with hact | hact
    · exact growActs_forall (by simp [Act.Shrinking]) _ _ _ act hact
    · obtain rfl := List.mem_singleton.mp hact
      simp [Act.Shrinking]
  | arm =>
    obtain ⟨t, hgrow, hlast⟩ := run.split
    simp only [Run.cons_iff, Run.nil_iff] at hlast
    obtain ⟨u, move, rfl⟩ := hlast
    obtain ⟨hticks, hlist, hlaunch⟩ := growActs_same own hgrow
    exact .inserts _ ((move.inserts (own.run hgrow)).of_same hticks hlist hlaunch)

lemma cancelActs_shrinking (s : State) (p : Ptr) : ∀ act ∈ cancelActs s p, act.Shrinking := by
  refine cancelActs_forall (fun A B v _ hB => ?_) trivial
  rintro rfl
  exact hB trivial

/-- The timer list, step by step. -/
theorem Effect.timerListStep {s s' : State} {op : Op} {r : Ret} {acts : List Act} (own : Owned s)
    (heffect : Effect s op r acts) (run : Run Move s acts s') : TimerListStep s op s' := by
  cases heffect with
  | requestAt h | requestIn h | request h => exact h.timerListStep own run
  | requestEvery _ h => exact h.timerListStep own run
  | tickUpdate | synchAfterSleep => exact .ticks _ rfl
  | timerCancel | cancel => exact .shrinks (.of_run own run (cancelActs_shrinking _ _))
  | handlerReturn hrun =>
    rename_i p rest
    simp only [Run.cons_iff, Run.nil_iff] at run
    obtain ⟨t, hfinish, u, hactive, rfl⟩ := run
    cases hactive
    generalize hact : finishAct s p = act at hfinish
    by_cases hshrinking : act.Shrinking
    · exact .shrinks ((hfinish.shrinks own hshrinking).trans ⟨rfl, .refl _, fun _ _ => rfl⟩)
    · have hrearm : act = .relocate p .running .timerList ((s.mem p).advanced .timerList) := by
        unfold finishAct at hact
        split at hact <;> (try split_ifs at hact) <;> subst hact <;>
          first | rfl | exact absurd (by decide : (_ : Place) ≠ _) hshrinking
      subst hrearm
      obtain ⟨hticks, hnot, hlist, hlaunch, hwindow⟩ := hfinish.inserts own
      exact .inserts p ⟨hticks, hnot, hlist, hlaunch, hwindow⟩
  | handlerCreate hfun hsource | sendTimerAllocated | dispatch =>
    exact .shrinks (.of_run own run (by simp [Act.Shrinking]))
  | send | sendUserAllocated | setActiveTasklet | dispatchIdle | handlerWrite | clientAlloc
  | clientFree =>
    exact .shrinks (.of_run own run (by simp [Act.Shrinking]))
  | handlerCreateDuplicate | handlerCreateFull | sendFail | requestEveryFail | timerCancelFail
  | cancelNull | clientAllocFail => exact .shrinks (.of_run own run (by simp))

/-! ## Histories -/

/-- A state with the number of steps taken so far and, for each storage, the number of the step
that last put it on the timer list. -/
structure TimerHistory where
  state : State
  steps : ℕ
  inserted : Ptr → ℕ

def TimerHistory.start (s : State) : TimerHistory where
  state := s
  steps := 0
  inserted _ := 0

/-- The history after a step to `s'`. -/
def TimerHistory.next (h : TimerHistory) (s' : State) : TimerHistory where
  state := s'
  steps := h.steps + 1
  inserted p :=
    if p ∈ s'.systemTimerList ∧ p ∉ h.state.systemTimerList then h.steps + 1 else h.inserted p

/-- The window invariant and the order of the timer list. -/
structure TimerHistory.Ordered (h : TimerHistory) : Prop where
  window : ∀ p ∈ h.state.systemTimerList,
    InWindow h.state.timerSysTicks (h.state.mem p).launchTime
  sorted : h.state.systemTimerList.Pairwise (StableBefore h.state.remaining h.inserted)
  inserted_le : ∀ p ∈ h.state.systemTimerList, h.inserted p ≤ h.steps

namespace TimerHistory.Ordered

variable {h : TimerHistory} {s' : State}

/-- Timers were taken off the list and the clock moved forward, but not to the launch time of any
timer that is left. -/
lemma keeps (ordered : h.Ordered) {t : BitVec 32} (ht : t.toNat ≤ 2 ^ 31)
    (hticks : s'.timerSysTicks = h.state.timerSysTicks + t)
    (hlist : s'.systemTimerList.Sublist h.state.systemTimerList)
    (hlaunch : ∀ q ∈ s'.systemTimerList, (s'.mem q).launchTime = (h.state.mem q).launchTime)
    (hleft : ∀ q ∈ s'.systemTimerList, t.toNat < h.state.remaining q) :
    (h.next s').Ordered := by
  have hmem : ∀ q ∈ s'.systemTimerList, q ∈ h.state.systemTimerList := hlist.subset
  have hremaining : ∀ q ∈ s'.systemTimerList,
      s'.remaining q = h.state.remaining q - t.toNat := by
    intro q hq
    rw [State.remaining, hticks, hlaunch q hq, ahead_advance (hleft q hq).le]
    rfl
  have hinserted : ∀ q ∈ s'.systemTimerList, (h.next s').inserted q = h.inserted q := by
    intro q hq
    exact if_neg fun hnew => hnew.2 (hmem q hq)
  refine ⟨fun q hq => ?_, ?_, fun q hq => ?_⟩
  · show InWindow s'.timerSysTicks (s'.mem q).launchTime
    rw [hticks, hlaunch q hq, (ordered.window q (hmem q hq)).advance_iff (by omega)]
    exact hleft q hq
  · refine (ordered.sorted.sublist hlist).imp_of_mem fun {a b} ha hb hab => ?_
    have hlt := hleft a ha
    have hlt' := hleft b hb
    rw [StableBefore, show (h.next s').state = s' from rfl, hremaining a ha, hremaining b hb,
      hinserted a ha, hinserted b hb]
    rcases hab with hab | ⟨hab, htie⟩
    · exact Or.inl (by omega)
    · exact Or.inr ⟨by omega, htie⟩
  · rw [hinserted q hq]
    exact (ordered.inserted_le q (hmem q hq)).trans (Nat.le_succ _)

lemma shrinks (ordered : h.Ordered) (hs : Shrinks h.state s') : (h.next s').Ordered := by
  refine ordered.keeps (t := 0) (by simp) (by simp [hs.ticks]) hs.list hs.launch fun q hq => ?_
  exact (ordered.window q (hs.list.subset hq)).1

lemma inserts (ordered : h.Ordered) {p : Ptr} (hs : Inserts h.state p s') :
    (h.next s').Ordered := by
  have hmem : ∀ q ∈ s'.systemTimerList, q = p ∨ q ∈ h.state.systemTimerList := by
    intro q hq
    rw [hs.list] at hq
    exact (List.mem_orderedInsert _).mp hq
  have hp : p ∈ s'.systemTimerList := by
    rw [hs.list]
    exact (List.mem_orderedInsert _).mpr (Or.inl rfl)
  have hwindow : ∀ q ∈ s'.systemTimerList, InWindow s'.timerSysTicks (s'.mem q).launchTime := by
    intro q hq
    rcases hmem q hq with rfl | hq
    · exact hs.window
    · rw [hs.ticks, hs.launch q hq]
      exact ordered.window q hq
  have hold : ∀ q ∈ h.state.systemTimerList, s'.remaining q = h.state.remaining q ∧
      (h.next s').inserted q = h.inserted q := by
    intro q hq
    refine ⟨?_, if_neg fun hnew => hnew.2 hq⟩
    rw [State.remaining, State.remaining, hs.ticks, hs.launch q hq]
  have hnew : (h.next s').inserted p = h.steps + 1 := if_pos ⟨hp, hs.notMem⟩
  have hsorted : h.state.systemTimerList.Pairwise
      (StableBefore s'.remaining (h.next s').inserted) := by
    refine ordered.sorted.imp_of_mem fun {a b} ha hb hab => ?_
    rwa [StableBefore, (hold a ha).1, (hold b hb).1, (hold a ha).2, (hold b hb).2]
  -- on timers in the window, the comparison of the code is that of the remaining ticks
  have hlist : s'.systemTimerList = h.state.systemTimerList.orderedInsert
      (fun a b => s'.remaining a < s'.remaining b) p := by
    refine hs.list.trans (orderedInsert_congr fun b hb => ?_)
    refine ticksBefore_iff hs.window (hwindow b ?_)
    rw [hs.list]
    exact (List.mem_orderedInsert _).mpr (Or.inr hb)
  refine ⟨hwindow, ?_, fun q hq => ?_⟩
  · show s'.systemTimerList.Pairwise _
    rw [hlist]
    refine orderedInsert_stable hsorted fun b hb => ?_
    rw [(hold b hb).2, hnew]
    exact Nat.lt_succ_of_le (ordered.inserted_le b hb)
  · rcases hmem q hq with rfl | hq
    · exact hnew.le
    · rw [(hold q hq).2]
      exact (ordered.inserted_le q hq).trans (Nat.le_succ _)

/-- Which timers on the list are due after an advance of at most half the circle. -/
lemma due_iff (ordered : h.Ordered) {t : BitVec 32} (ht : t.toNat ≤ 2 ^ 31) {p : Ptr}
    (hp : p ∈ h.state.systemTimerList) :
    ticksBeforeOrAt (h.state.mem p).launchTime (h.state.timerSysTicks + t)
      ↔ h.state.remaining p ≤ t.toNat := by
  rw [ticksBeforeOrAt_iff, (ordered.window p hp).advance_iff (by omega), not_lt]
  rfl

/-- The timers that are due stand in front of those that are not. -/
lemma due_prefix (ordered : h.Ordered) (n : ℕ) :
    h.state.systemTimerList.Pairwise fun a b =>
      decide (h.state.remaining b ≤ n) = true → decide (h.state.remaining a ≤ n) = true := by
  refine ordered.sorted.imp fun {a b} hab => ?_
  simp only [decide_eq_true_eq]
  rcases hab with hab | ⟨hab, -⟩ <;> omega

/-- The front part of the timer list that a tick update sends. -/
lemma due_eq (ordered : h.Ordered) {t : BitVec 32} (ht : t.toNat ≤ 2 ^ 31) :
    (h.state.advance t).due
      = h.state.systemTimerList.filter fun p => h.state.remaining p ≤ t.toNat := by
  rw [← takeWhile_eq_filter (ordered.due_prefix t.toNat)]
  exact takeWhile_congr fun p hp => decide_eq_decide.mpr (ordered.due_iff ht hp)

/-- The rest of the timer list, which a tick update keeps. -/
lemma waiting_eq (ordered : h.Ordered) {t : BitVec 32} (ht : t.toNat ≤ 2 ^ 31) :
    (h.state.advance t).waiting
      = h.state.systemTimerList.filter fun p => t.toNat < h.state.remaining p := by
  have hdrop := dropWhile_eq_filter (ordered.due_prefix t.toNat)
  have hcongr : (h.state.advance t).waiting
      = h.state.systemTimerList.dropWhile fun p => h.state.remaining p ≤ t.toNat :=
    dropWhile_congr fun p hp => decide_eq_decide.mpr (ordered.due_iff ht hp)
  rw [hcongr, hdrop]
  refine List.filter_congr fun p _ => ?_
  rw [← decide_not, decide_eq_decide, not_le]

variable [NsList] in
/-- A tick update of at most half the circle. -/
lemma ticks (ordered : h.Ordered) {t : BitVec 32} (ht : t.toNat ≤ 2 ^ 31)
    (hs : systemTimerTickUpdate t h.state = .ok s') : (h.next s').Ordered := by
  rw [systemTimerTickUpdate_eq, ordered.due_eq ht, ordered.waiting_eq ht] at hs
  have hlist : s'.systemTimerList
      = h.state.systemTimerList.filter fun p => t.toNat < h.state.remaining p := by
    simp [← Except.ok.inj hs]
  refine ordered.keeps ht ?_ (hlist ▸ List.filter_sublist) ?_ fun q hq => ?_
  · simp [← Except.ok.inj hs, State.advance]
  · simp [← Except.ok.inj hs, State.advance]
  · rw [hlist] at hq
    simpa using (List.mem_filter.mp hq).2

end TimerHistory.Ordered

/-! ## Runs -/

/-- Tick updates of at most half the circle. -/
def BoundedTicks : Op → Prop
  | .tickUpdate ticks => ticks.toNat ≤ 2 ^ 31
  | _ => True

instance (op : Op) : Decidable (BoundedTicks op) :=
  match op with
  | .tickUpdate _ => inferInstanceAs (Decidable (_ ≤ _))
  | .handlerCreate .. | .send .. | .sendUserAllocated .. | .sendTimerAllocated .. | .requestAt ..
  | .requestIn .. | .requestEvery .. | .request .. | .timerCancel .. | .cancel ..
  | .synchAfterSleep .. | .setActiveTasklet .. | .dispatch | .handlerReturn | .handlerWrite ..
  | .clientAlloc .. | .clientFree .. => isTrue trivial

/-- The ticks of a sleep are few enough whatever the sleep. -/
lemma BoundedTicks.le {op : Op} (h : BoundedTicks op) {t : BitVec 32} (ht : op.ticks = some t) :
    t.toNat ≤ 2 ^ 31 := by
  cases op with
  | tickUpdate ticks =>
    obtain rfl := Option.some.inj ht
    exact h
  | synchAfterSleep sleepTicks wakeup =>
    obtain rfl := Option.some.inj ht
    have hlt := sleepTicks.isLt
    rw [BitVec.toNat_add, BitVec.toNat_udiv, show (10 : BitVec 32).toNat = 10 from rfl,
      show (1 : BitVec 32).toNat = 1 from rfl]
    omega
  | _ => cases ht

section

variable [NsList]

/-- A step of a run, with its history. -/
def TimerStep (h : TimerHistory) (label : Op × Ret) (h' : TimerHistory) : Prop :=
  Step h.state label h'.state ∧ BoundedTicks label.1 ∧ h' = h.next h'.state

lemma exec_ticks {s s' : State} {op : Op} {r : Ret} {t : BitVec 32}
    (hexec : exec op s = .ok (s', r)) (ht : op.ticks = some t) :
    systemTimerTickUpdate t s = .ok s' := by
  cases op with
  | tickUpdate ticks =>
    obtain rfl := Option.some.inj ht
    cases hupdate : systemTimerTickUpdate ticks s with
    | error => simp [exec, hupdate] at hexec
    | ok s₁ =>
      simp only [exec, hupdate, ok_bind, Except.ok.injEq, Prod.mk.injEq] at hexec
      rw [hexec.1]
  | synchAfterSleep sleepTicks wakeup =>
    obtain rfl := Option.some.inj ht
    cases hupdate : systemTimerTickUpdate (sleepTicks / 10 + 1) s with
    | error =>
      simp only [exec, eventOSSchedulerTimerSynchAfterSleep, hupdate, error_bind] at hexec
      cases hexec
    | ok s₁ =>
      simp only [exec, eventOSSchedulerTimerSynchAfterSleep, hupdate, ok_bind, Except.ok.injEq,
        Prod.mk.injEq] at hexec
      rw [hexec.1]
  | _ => cases ht

lemma TimerHistory.Ordered.step {h h' : TimerHistory} {label : Op × Ret} (own : Owned h.state)
    (ordered : h.Ordered) (step : TimerStep h label h') : h'.Ordered := by
  obtain ⟨hstep, hbounded, hnext⟩ := step
  rw [hnext]
  obtain ⟨acts, heffect, hrun⟩ := Step.effect own hstep
  cases heffect.timerListStep own hrun with
  | shrinks hs => exact ordered.shrinks hs
  | inserts p hs => exact ordered.inserts hs
  | ticks t ht => exact ordered.ticks (hbounded.le ht) (exec_ticks hstep.exec ht)

lemma Initial.ordered {s : State} (init : Initial s) : (TimerHistory.start s).Ordered := by
  have hlist : s.systemTimerList = [] := by
    obtain ⟨s₀, boot, rfl⟩ := init
    rw [boot.init_eq]
    exact boot.systemTimerList
  constructor <;> simp [TimerHistory.start, hlist]

/-- The order of the timer list holds throughout. -/
lemma TimerHistory.ordered_of_run {s₀ : State} {l : List (Op × Ret)} {h : TimerHistory}
    (init : Initial s₀) (run : Run TimerStep (.start s₀) l h) : Owned h.state ∧ h.Ordered :=
  run.invariant (I := fun h => Owned h.state ∧ h.Ordered) ⟨init.owned, init.ordered⟩
    fun _ _ _ ⟨own, ordered⟩ step => ⟨own.step step.1, ordered.step own step⟩

omit [NsList] in
/-- Only the operations that let ticks pass touch the clock. -/
lemma Effect.ticks_eq {s s' : State} {op : Op} {r : Ret} {acts : List Act} (own : Owned s)
    (heffect : Effect s op r acts) (run : Run Move s acts s') (hticks : op.ticks = none) :
    s'.timerSysTicks = s.timerSysTicks := by
  cases heffect.timerListStep own run with
  | shrinks h => exact h.ticks
  | inserts p h => exact h.ticks
  | ticks t hop => simp [hticks] at hop

/-- The timer list is in order, for some history. -/
def State.Ordered (s : State) : Prop := ∃ h : TimerHistory, h.state = s ∧ h.Ordered

lemma State.Ordered.step {s s' : State} {label : Op × Ret} (own : Owned s) (ordered : s.Ordered)
    (step : Step s label s') (hbounded : BoundedTicks label.1) : s'.Ordered := by
  obtain ⟨h, rfl, ordered⟩ := ordered
  exact ⟨h.next s', rfl, ordered.step own ⟨step, hbounded, rfl⟩⟩

/-- Every run has a history. -/
lemma exists_history {s₀ s : State} {l : List (Op × Ret)}
    (run : RunOf (fun _ op => BoundedTicks op) s₀ l s) :
    ∃ h, Run TimerStep (.start s₀) l h ∧ h.state = s := by
  unfold RunOf at run
  induction run with
  | nil => exact ⟨_, .nil, rfl⟩
  | @snoc l t u label _ last ih =>
    obtain ⟨h, hrun, rfl⟩ := ih
    exact ⟨h.next u, .snoc hrun ⟨last.1, last.2, rfl⟩, rfl⟩

/-- **The timer list stays ordered and complete when the tick counter wraps around.** After any
run with tick updates of at most 2³¹ ticks: every waiting timer is ahead of the clock by less than
2³¹ ticks, the list is ordered by the remaining ticks and, among equals, by insertion; and a tick
update of at most 2³¹ ticks sends exactly the timers whose launch time it reaches, in this order, so
that the event queue holds these and what it held before, each once, and keeps exactly the others,
none of which is due. -/
theorem timerList_ordered {s₀ : State} {l : List (Op × Ret)} {h : TimerHistory}
    (init : Initial s₀) (run : Run TimerStep (.start s₀) l h) :
    (∀ p ∈ h.state.systemTimerList, 0 < h.state.remaining p ∧ h.state.remaining p < 2 ^ 31) ∧
    h.state.systemTimerList.Pairwise (StableBefore h.state.remaining h.inserted) ∧
    ∀ t : BitVec 32, t.toNat ≤ 2 ^ 31 → ∃ due s',
      systemTimerTickUpdate t h.state = .ok s' ∧
      due = h.state.systemTimerList.filter (fun p => h.state.remaining p ≤ t.toNat) ∧
      due.Pairwise (StableBefore h.state.remaining h.inserted) ∧
      s' = sendAll due { h.state.advance t with
        systemTimerList :=
          h.state.systemTimerList.filter (fun p => t.toNat < h.state.remaining p) } ∧
      s'.eventQueueActive.Perm (due ++ h.state.eventQueueActive) ∧
      ∀ p ∈ s'.systemTimerList, ¬ ticksBeforeOrAt (s'.mem p).launchTime s'.timerSysTicks := by
  obtain ⟨-, ordered⟩ := TimerHistory.ordered_of_run init run
  refine ⟨fun p hp => ?_, ordered.sorted, fun t ht => ?_⟩
  · obtain ⟨hpos, hhalf⟩ := ordered.window p hp
    exact ⟨hpos, by rw [State.remaining]; omega⟩
  · have hupdate := systemTimerTickUpdate_eq t h.state
    rw [ordered.due_eq ht, ordered.waiting_eq ht] at hupdate
    refine ⟨_, _, hupdate, rfl, ordered.sorted.filter _, rfl, sendAll_queue_perm _ _,
      fun p hp => ?_⟩
    rw [ticksBeforeOrAt_iff, not_not]
    exact (ordered.ticks ht hupdate).window p hp

end

/-- Requests shortly before the tick counter wraps around: two timers for the same time after the
wrap, then a periodic one that is due before them; some ticks pass. -/
def wrapOps : List Op :=
  let event : ArmEvent :=
    { receiver := 0, sender := 0, eventType := 2, eventId := 3, dataPtr := none
      priority := .med, eventData := 4 }
  [.handlerCreate 7 1 (some (.heap 0)) none, .requestAt event 4 none, .requestAt event 4 none,
    .requestEvery event 10 none, .tickUpdate 6]

/-- The sample run at the wrap-around: the periodic timer has 4 ticks left, the others 14, in the
order in which they were requested. A tick update by 4 sends the first. -/
theorem timerList_ordered_wrap : ∃ l h,
    Run TimerStep (.start (eventOSSchedulerInit (.boot 0xFFFFFFF0))) l h ∧
    h.state.systemTimerList
      = [.startupSysTimerPool 3, .startupSysTimerPool 5, .startupSysTimerPool 4] ∧
    h.state.systemTimerList.Pairwise (StableBefore h.state.remaining h.inserted) ∧
    ∃ s', systemTimerTickUpdate 4 h.state = .ok s' ∧
      s'.systemTimerList = [.startupSysTimerPool 5, .startupSysTimerPool 4] ∧
      s'.eventQueueActive = [.startupSysTimerPool 3, .startupEventPool 9] ∧
      s'.eventQueueActive.Perm (h.state.systemTimerList.filter
        (fun p => h.state.remaining p ≤ 4) ++ h.state.eventQueueActive) := by
  have hsome : (drive (fun _ op => BoundedTicks op) wrapOps
      (eventOSSchedulerInit (.boot 0xFFFFFFF0))).map (fun s => (s.systemTimerList,
        (systemTimerTickUpdate 4 s).toOption.map fun s' =>
          (s'.systemTimerList, s'.eventQueueActive)))
      = some ([.startupSysTimerPool 3, .startupSysTimerPool 5, .startupSysTimerPool 4],
        some ([.startupSysTimerPool 5, .startupSysTimerPool 4],
          [.startupSysTimerPool 3, .startupEventPool 9])) := by
    decide +kernel
  obtain ⟨s, hs, hlists⟩ := Option.map_eq_some_iff.mp hsome
  obtain ⟨l, run, -⟩ := drive_runOf hs
  obtain ⟨h, hrun, rfl⟩ := exists_history run
  obtain ⟨-, hsorted, hupdates⟩ := timerList_ordered (boot_initial _) hrun
  obtain ⟨due, s', hupdate, rfl, -, -, hperm, -⟩ := hupdates 4 (by decide)
  simp only [hupdate, Except.toOption, Option.map_some, Prod.mk.injEq, Option.some.injEq] at hlists
  exact ⟨l, h, hrun, hlists.1, hsorted, s', hupdate, hlists.2.1, hlists.2.2, hperm⟩

end EventLoop
