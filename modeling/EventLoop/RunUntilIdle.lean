import EventLoop.Periodic
import EventLoop.Receivers
import Mathlib.Algebra.Order.BigOperators.Group.Finset

/-!
# Running until the queue is empty

When handlers neither send, request nor cancel anything and the clock stands still,
`eventOS_scheduler_run_until_idle` returns: every event that is not periodic is delivered once, and
a periodic timer as often as its period has passed since its launch time. What is `owed` to an
event, as a number of deliveries, is fixed by where the event is and how late it is; a delivery pays
one, and nothing else changes the debt.
-/

namespace EventLoop

open Lib

/-! ## Periods are not negative -/

/-- The periods of the timer events that are pending are not negative. -/
def SignedPeriods (s : State) : Prop :=
  ∀ p, Pending s p → s.classOf p = .timer → 0 ≤ (s.mem p).period.toInt

/-- What is taken from the free timers gets a period that is not negative. -/
def Act.Signed : Act → Prop
  | .relocate _ A _ v => A = .timerFree → 0 ≤ v.period.toInt
  | _ => True

/-- A timer structure that a caller fills itself is given a period that is not negative. -/
def SignedOp : Op → Prop
  | .sendTimerAllocated _ contents => 0 ≤ contents.period.toInt
  | _ => True

instance (op : Op) : Decidable (SignedOp op) :=
  match op with
  | .sendTimerAllocated _ _ => inferInstanceAs (Decidable (_ ≤ _))
  | .handlerCreate .. | .send .. | .sendUserAllocated .. | .requestAt .. | .requestIn ..
  | .requestEvery .. | .request .. | .timerCancel .. | .cancel .. | .tickUpdate ..
  | .synchAfterSleep .. | .setActiveTasklet .. | .dispatch | .handlerReturn | .handlerWrite ..
  | .clientAlloc .. | .clientFree .. => isTrue trivial

/-- The storage that moves. -/
lemma SignedPeriods.row {s : State} {p : Ptr} {A B : Place} {v : SysTimerStruct}
    {h : Option HeapObject} (signed : SignedPeriods s) (own : Owned s) (row : Row s p A B v h)
    (hact : (Act.relocate p A B v).Signed) (hp : Pending (s.move p A B v h) p)
    (hclass : (s.move p A B v h).classOf p = .timer) : 0 ≤ v.period.toInt := by
  have own' := own.row row
  have hfreed : ∀ {C w k}, p ∈ (s.move p C .timerFree w k).at_ .timerFree := by
    intro C w k
    simp [State.at_, State.move_timerFree]
  cases row with
  | fire | arm => exact hact rfl
  | expire hq | deliver hq | requeue hq | rearm hq =>
    rw [s.move_classOf_same] at hclass
    exact signed p (by simp [Pending, hq]) hclass
  | grow | finishOneShot | cancelQueued | cancelWaiting =>
    exact absurd hp (own'.not_pending (A := .timerFree) id hfreed (by rw [hclass]; decide))
  | sendPool data hq =>
    rw [s.move_classOf_same, own.admits .free p hq] at hclass
    cases hclass
  | finishPool _ hc | cancelPool _ hc | finishUser _ hc | cancelUser _ hc =>
    rw [s.move_classOf_same, hc] at hclass
    cases hclass
  | sendDynamic data fresh =>
    obtain ⟨a, rfl⟩ := fresh.isHeap
    simp [State.classOf] at hclass
  | sendUser v isHeap =>
    obtain ⟨a, rfl⟩ := isHeap
    simp [State.classOf] at hclass
  | finishDynamic _ hc | cancelDynamic _ hc =>
    cases p with
    | heap a => simp [State.classOf] at hclass
    | startupEventPool | startupSysTimerPool => cases hc

lemma SignedPeriods.preserved {s s' : State} {act : Act} (signed : SignedPeriods s)
    (own : Owned s) (move : Move s act s') (hact : act.Signed) : SignedPeriods s' := by
  intro q hq hclass
  by_cases hrelocate : ∃ p A B v, act = .relocate p A B v
  · obtain ⟨p, A, B, v, rfl⟩ := hrelocate
    cases move with
    | relocate row =>
      by_cases hqp : q = p
      · subst hqp
        rw [State.move_mem, Function.update_self]
        exact signed.row own row hact hq hclass
      · rw [State.move_mem, Function.update_of_ne hqp]
        exact signed q (pending_of_move hq hqp) (by rwa [s.move_classOf_of_ne hqp] at hclass)
  · have still := move.still fun p A B v h => hrelocate ⟨p, A, B, v, h⟩
    have hsigned := signed q (still.pending.mp hq) (still.classOf q ▸ hclass)
    cases move with
    | relocate => exact absurd ⟨_, _, _, _, rfl⟩ hrelocate
    | unperiod =>
      simp only [State.setPeriod, State.store, Function.update_apply]
      split
      · exact le_of_eq rfl
      · exact hsigned
    | write =>
      simp only [State.setData, State.store, Function.update_apply]
      split
      · next hqp => exact hqp ▸ hsigned
      · exact hsigned
    | _ => exact hsigned

lemma SignedPeriods.run {s s' : State} {acts : List Act} (signed : SignedPeriods s)
    (own : Owned s) (run : Run Move s acts s') (hacts : ∀ act ∈ acts, act.Signed) :
    SignedPeriods s' := by
  refine own.run_on (I := SignedPeriods) (fun t act u own signed hact move => ?_) signed run hacts
  exact signed.preserved own move hact

lemma Requested.signed {s : State} {event : ArmEvent} {at_ period : BitVec 32}
    {answer r : Option Ptr} {acts : List Act} (h : Requested s event at_ period answer r acts)
    (hperiod : 0 ≤ period.toInt) : ∀ act ∈ acts, act.Signed :=
  h.forall_acts (by simp [Act.Signed]) fun _ _ _ _ _ => hperiod

/-- An operation keeps the periods. -/
theorem SignedPeriods.step {s s' : State} {op : Op} {r : Ret} {acts : List Act}
    (signed : SignedPeriods s) (own : Owned s) (hop : SignedOp op) (heffect : Effect s op r acts)
    (run : Run Move s acts s') : SignedPeriods s' := by
  refine signed.run own run ?_
  cases heffect with
  | requestAt h | requestIn h | request h => exact h.signed (by decide)
  | requestEvery hperiod h => exact h.signed hperiod.le
  | sendTimerAllocated =>
    exact List.forall_mem_cons.mpr
      ⟨fun h => (by cases h), List.forall_mem_singleton.mpr fun _ => hop⟩
  | handlerCreate hfun hsource | send hreceiver hsource =>
    simp [Act.Signed, eventSource_ne_timerFree hsource]
  | timerCancel | cancel =>
    refine cancelActs_forall (fun A B v hA _ => ?_) trivial
    rcases hA with rfl | rfl <;> simp [Act.Signed]
  | tickUpdate | synchAfterSleep =>
    exact List.forall_mem_cons.mpr ⟨trivial, expireActs_forall (by simp [Act.Signed])⟩
  | @handlerReturn p =>
    obtain ⟨B, v, hfinish⟩ := finishAct_relocates s p
    simp [hfinish, Act.Signed]
  | _ => simp [Act.Signed]

section

variable [NsList]

end

/-! ## How often a late event is delivered -/

/-- A timer event that is launched again after its handler has returned. -/
def Periodic (s : State) (p : Ptr) : Prop := s.classOf p = .timer ∧ (s.mem p).period ≠ 0

instance (s : State) (p : Ptr) : Decidable (Periodic s p) := inferInstanceAs (Decidable (_ ∧ _))

/-- How many ticks have passed since the launch time of a timer. -/
def State.late (s : State) (p : Ptr) : ℕ := ahead (s.mem p).launchTime s.timerSysTicks

/-- How often a periodic event is delivered that is `late` ticks late, when the clock stands still.
A launch time that is more than 2³¹ ticks in the past is taken for one in the future. -/
def deliveries (late period : ℕ) : ℕ := if late ≤ 2 ^ 31 + period then late / period + 1 else 1

/-- How often a queued event is delivered. -/
def State.deliveries (s : State) (p : Ptr) : ℕ :=
  if Periodic s p then EventLoop.deliveries (s.late p) (s.mem p).period.toNat else 1

/-- How often an event is still to be delivered, when the handlers of `inner` are to return. -/
def State.owed (s : State) (inner : List Ptr) (p : Ptr) : ℕ :=
  if p ∈ s.eventQueueActive then s.deliveries p
  else if p ∈ inner ∧ Periodic s p then s.deliveries p - 1 else 0

lemma State.deliveries_pos (s : State) (p : Ptr) : 0 < s.deliveries p := by
  unfold State.deliveries EventLoop.deliveries
  split_ifs
  · exact Nat.succ_pos _
  · exact Nat.one_pos
  · exact Nat.one_pos

lemma State.owed_queued {s : State} {inner : List Ptr} {p : Ptr}
    (hqueue : p ∈ s.eventQueueActive) : s.owed inner p = s.deliveries p := if_pos hqueue

lemma State.owed_running {s : State} {inner : List Ptr} {p : Ptr}
    (hqueue : p ∉ s.eventQueueActive) (hinner : p ∈ inner) (hperiodic : Periodic s p) :
    s.owed inner p = s.deliveries p - 1 := by
  rw [State.owed, if_neg hqueue, if_pos ⟨hinner, hperiodic⟩]

lemma State.owed_nothing {s : State} {inner : List Ptr} {p : Ptr}
    (hqueue : p ∉ s.eventQueueActive) (hinner : p ∈ inner → ¬ Periodic s p) :
    s.owed inner p = 0 := by
  rw [State.owed, if_neg hqueue, if_neg fun h => hinner h.1 h.2]

@[simp] lemma SysTimerStruct.tagged_launchTime (v : SysTimerStruct) (B : Place) :
    (v.tagged B).launchTime = v.launchTime := rfl

@[simp] lemma SysTimerStruct.tagged_period (v : SysTimerStruct) (B : Place) :
    (v.tagged B).period = v.period := rfl

lemma ahead_swap {w : ℕ} (a now : BitVec w) :
    ahead a now = if ahead now a = 0 then 0 else 2 ^ w - ahead now a := by
  have hlt := a.isLt
  have hlt' := now.isLt
  rw [ahead, ahead, toNat_sub_eq, toNat_sub_eq]
  split_ifs <;> omega

/-- A time has come if it lies at most half the circle in the past. -/
lemma ticksBeforeOrAt_iff_late {a now : BitVec 32} :
    ticksBeforeOrAt a now ↔ ahead a now ≤ 2 ^ 31 := by
  have hlt := (a - now).isLt
  rw [ticksBeforeOrAt_iff, InWindow, ahead_swap a now]
  change (ahead now a) < 2 ^ 32 at hlt
  split_ifs <;> omega

/-- A delivery after which the next one is due is the first of one more. -/
lemma deliveries_due {launchTime period now : BitVec 32} (hperiod : 0 < period.toInt)
    (hdue : ticksBeforeOrAt (launchTime + period) now) :
    deliveries (ahead launchTime now) period.toNat
      = deliveries (ahead (launchTime + period) now) period.toNat + 1 := by
  obtain ⟨hpos, hhalf⟩ := toNat_of_toInt_pos hperiod
  rw [ticksBeforeOrAt_iff_late] at hdue
  have hadd := ahead_add launchTime period now
  split_ifs at hadd with hle
  · have hdiv : ahead launchTime now / period.toNat
        = (ahead launchTime now - period.toNat) / period.toNat + 1 := by
      rw [Nat.div_eq_sub_div hpos hle]
    rw [deliveries, deliveries, if_pos (by omega), if_pos (by omega), hadd, hdiv]
  · omega

/-- A delivery after which the next one is not due is the last. -/
lemma deliveries_not_due {launchTime period now : BitVec 32} (hperiod : 0 < period.toInt)
    (hdue : ¬ ticksBeforeOrAt (launchTime + period) now) :
    deliveries (ahead launchTime now) period.toNat = 1 := by
  obtain ⟨hpos, hhalf⟩ := toNat_of_toInt_pos hperiod
  rw [ticksBeforeOrAt_iff_late] at hdue
  have hadd := ahead_add launchTime period now
  unfold deliveries
  split_ifs at hadd ⊢ with hle
  · omega
  · rw [Nat.div_eq_of_lt (by omega)]
  · rfl
  · rfl

/-! ## Deliveries and debts -/

/-- One event, between a state `s` in which the loop starts and a state `t` that it reaches: `k`
deliveries were started since, and the handlers of `inner` are to return. -/
structure Tracked (s t : State) (inner : List Ptr) (k : ℕ) (p : Ptr) : Prop where
  periodic : Periodic t p ↔ Periodic s p
  period : (t.mem p).period = (s.mem p).period
  owed : k + t.owed inner p = s.owed [] p
  /-- the launch time is that of the next delivery, or of the one in progress -/
  launch : p ∈ s.eventQueueActive → Periodic s p →
    (p ∈ inner ∧ (t.mem p).launchTime + (t.mem p).period
        = launchAt (s.mem p).launchTime (s.mem p).period k) ∨
    ((p ∈ t.eventQueueActive ∨ p ∈ t.systemTimerList) ∧
      (t.mem p).launchTime = launchAt (s.mem p).launchTime (s.mem p).period k)

/-- What the loop keeps: the clock, the handlers that ran before, and the account of each event. -/
structure Progress (s : State) (started : Ptr → ℕ) (t : State) (inner : List Ptr) : Prop where
  ticks : t.timerSysTicks = s.timerSysTicks
  running : t.running = inner ++ s.running
  tracked : ∀ p, Tracked s t inner (started p) p

/-- An event for which nothing changes. -/
lemma Tracked.congr {s t u : State} {inner inner' : List Ptr} {k : ℕ} {p : Ptr}
    (tracked : Tracked s t inner k p) (hticks : u.timerSysTicks = t.timerSysTicks)
    (hclass : u.classOf p = t.classOf p) (hlaunch : (u.mem p).launchTime = (t.mem p).launchTime)
    (hperiod : (u.mem p).period = (t.mem p).period) (hat : ∀ A, p ∈ u.at_ A ↔ p ∈ t.at_ A)
    (hinner : p ∈ inner' ↔ p ∈ inner) : Tracked s u inner' k p := by
  have hperiodic : Periodic u p ↔ Periodic t p := by rw [Periodic, Periodic, hclass, hperiod]
  have hqueue : p ∈ u.eventQueueActive ↔ p ∈ t.eventQueueActive := hat .queue
  have hlist : p ∈ u.systemTimerList ↔ p ∈ t.systemTimerList := hat .timerList
  have hdeliveries : u.deliveries p = t.deliveries p := by
    simp only [State.deliveries, State.late, hperiodic, hlaunch, hperiod, hticks]
  obtain ⟨periodic, period, owed, launch⟩ := tracked
  refine ⟨hperiodic.trans periodic, hperiod.trans period, ?_, ?_⟩
  · simpa only [State.owed, hqueue, hinner, hperiodic, hdeliveries] using owed
  · simpa only [hqueue, hlist, hinner, hlaunch, hperiod] using launch

/-- A step that relocates nothing. -/
lemma Progress.still {s t u : State} {started : Ptr → ℕ} {inner : List Ptr}
    (prog : Progress s started t inner) (still : Still t u)
    (hticks : u.timerSysTicks = t.timerSysTicks)
    (hperiod : ∀ p, (u.mem p).period = (t.mem p).period) : Progress s started u inner where
  ticks := hticks.trans prog.ticks
  running := still.running.trans prog.running
  tracked p := (prog.tracked p).congr hticks (still.classOf p) (still.launchTime p) (hperiod p)
    (fun A => by rw [still.place A]) Iff.rfl

/-- The first event of the queue is delivered. -/
lemma Progress.deliver {s t : State} {started : Ptr → ℕ} {inner : List Ptr} {p : Ptr}
    {rest : List Ptr} (own : Owned t) (prog : Progress s started t inner)
    (hqueue : t.eventQueueActive = p :: rest) :
    Progress s (Function.update started p (started p + 1))
      (t.move p .queue .running ((t.mem p).tagged .running) (t.heap p)) (p :: inner) := by
  have hclass := fun q => t.move_classOf_same p q .queue .running ((t.mem p).tagged .running)
  refine ⟨by simpa using prog.ticks, by simp [State.move_running, prog.running], fun q => ?_⟩
  by_cases hq : q = p
  · subst hq
    obtain ⟨periodic, period, owed, launch⟩ := prog.tracked q
    have hmem : q ∈ t.eventQueueActive := by simp [hqueue]
    have hnotMem : q ∉ (t.move q .queue .running ((t.mem q).tagged .running)
        (t.heap q)).eventQueueActive := by
      have hnodup := own.nodup .queue
      simp only [State.at_, hqueue, List.nodup_cons] at hnodup
      simpa [State.move_queue, hqueue] using hnodup.1
    have hperiodic : Periodic (t.move q .queue .running ((t.mem q).tagged .running) (t.heap q)) q
        ↔ Periodic t q := by simp [Periodic, hclass]
    refine ⟨hperiodic.trans periodic, by simpa using period, ?_, ?_⟩
    · have hpos := t.deliveries_pos q
      have hdeliveries : (t.move q .queue .running ((t.mem q).tagged .running)
          (t.heap q)).deliveries q = t.deliveries q := by
        simp [State.deliveries, State.late, hperiodic]
      rw [State.owed_queued hmem] at owed
      rw [Function.update_self, ← owed]
      by_cases hper : Periodic t q
      · rw [State.owed_running hnotMem List.mem_cons_self (hperiodic.mpr hper), hdeliveries]
        omega
      · have hone : t.deliveries q = 1 := if_neg hper
        rw [State.owed_nothing hnotMem fun _ h => hper (hperiodic.mp h), hone]
    · intro hs hper
      rw [Function.update_self, launchAt_succ]
      refine Or.inl ⟨List.mem_cons_self, ?_⟩
      rcases launch hs hper with ⟨hinner, -⟩ | ⟨-, hlaunch⟩
      · -- an event that is queued does not run
        have hrunning : q ∈ t.at_ .running := by
          have htimer : t.classOf q = .timer := (periodic.mpr hper).1
          simp [State.at_, prog.running, hinner, htimer]
        cases own.place_unique (A := .queue) hmem hrunning
      · simp [hlaunch, period]
  · rw [Function.update_of_ne hq]
    refine (prog.tracked q).congr (by simp) (hclass q) (by simp [hq]) (by simp [hq])
      (fun A => t.move_mem_at_of_ne _ _ _ _ hq A) (by simp [hq])

/-- The handler of an event that is not periodic returns. -/
lemma Tracked.finish_once {s t : State} {inner : List Ptr} {k : ℕ} {p : Ptr} {B : Place}
    {v : SysTimerStruct} {h : Option HeapObject} (tracked : Tracked s t (p :: inner) k p)
    (hB : ¬ B.Busy) (hperiod : v.period = (t.mem p).period) (hper : ¬ Periodic t p)
    (hper' : ¬ Periodic (t.move p .running B v h) p) :
    Tracked s (t.move p .running B v h) inner k p := by
  have hqueue : (t.move p .running B v h).eventQueueActive = t.eventQueueActive := by
    rw [State.move_queue]
    cases B <;> first | rfl | exact absurd trivial hB
  obtain ⟨periodic, period, owed, -⟩ := tracked
  have hps : ¬ Periodic s p := fun hs => hper (periodic.mpr hs)
  refine ⟨iff_of_false hper' hps, by simpa [hperiod] using period, ?_,
    fun _ hs => absurd hs hps⟩
  rw [← owed]
  congr 1
  by_cases hmem : p ∈ t.eventQueueActive
  · rw [State.owed_queued hmem, State.owed_queued (hqueue ▸ hmem), State.deliveries,
      State.deliveries, if_neg hper, if_neg hper']
  · rw [State.owed_nothing hmem fun _ => hper, State.owed_nothing (hqueue ▸ hmem) fun _ => hper']

/-- The handler of a periodic timer returns. -/
lemma Tracked.finish_periodic {s t : State} {inner : List Ptr} {k : ℕ} {p : Ptr} {B : Place}
    {v : SysTimerStruct} (own : Owned t) (signed : SignedPeriods t)
    (hrun : t.running = p :: (inner ++ s.running)) (tracked : Tracked s t (p :: inner) k p)
    (hper : Periodic t p) (hperiod : v.period = (t.mem p).period)
    (hlaunch : v.launchTime = (t.mem p).launchTime + (t.mem p).period)
    (hB : (B = .queue ∧ ticksBeforeOrAt v.launchTime t.timerSysTicks) ∨
      (B = .timerList ∧ ¬ ticksBeforeOrAt v.launchTime t.timerSysTicks)) :
    Tracked s (t.move p .running B v (t.heap p)) inner k p := by
  have hclass := t.move_classOf_same p p .running B v
  have hmem : p ∈ t.at_ .running := by simp [State.at_, hrun, hper.1]
  have hqueue : p ∉ t.eventQueueActive := fun hq => by
    cases own.place_unique (A := .queue) hq hmem
  have hlist : p ∉ t.systemTimerList := fun hl => by
    cases own.place_unique (A := .timerList) hl hmem
  have hinner : p ∉ inner := fun hi =>
    own.notMem_rest hrun (by simp [hper.1]) (List.mem_append_left _ hi)
  -- a period of zero would make the timer a one-shot
  have hpos : 0 < (t.mem p).period.toInt := by
    have hle := signed p (Or.inr (Or.inr (by simp [hrun]))) hper.1
    refine lt_of_le_of_ne hle fun h => hper.2 ?_
    exact BitVec.eq_of_toInt_eq (by simpa using h.symm)
  have hperiodic : Periodic (t.move p .running B v (t.heap p)) p ↔ Periodic t p := by
    simp [Periodic, hclass, hperiod]
  obtain ⟨periodic, period, owed, launch⟩ := tracked
  refine ⟨hperiodic.trans periodic, by simpa [hperiod] using period, ?_, fun hs hper' => ?_⟩
  · have hbefore : t.deliveries p = deliveries (t.late p) (t.mem p).period.toNat := if_pos hper
    have hafter : (t.move p .running B v (t.heap p)).deliveries p
        = deliveries (ahead v.launchTime t.timerSysTicks) (t.mem p).period.toNat := by
      rw [State.deliveries, if_pos (hperiodic.mpr hper)]
      simp [State.late, hperiod]
    rw [State.owed_running hqueue List.mem_cons_self hper, hbefore, State.late] at owed
    -- one delivery is done: it goes back to the queue exactly while another one is due
    rcases hB with ⟨rfl, hdue⟩ | ⟨rfl, hdue⟩
    · have hmem' : p ∈ (t.move p .running .queue v (t.heap p)).eventQueueActive := by
        simp [State.move_queue]
      rw [hlaunch] at hdue hafter
      rw [deliveries_due hpos hdue, Nat.add_sub_cancel] at owed
      rw [State.owed_queued hmem', hafter, owed]
    · have hqueue' : p ∉ (t.move p .running .timerList v (t.heap p)).eventQueueActive := by
        simpa [State.move_queue] using hqueue
      rw [hlaunch] at hdue
      rw [deliveries_not_due hpos hdue] at owed
      rw [State.owed_nothing hqueue' fun hi => absurd hi hinner, owed]
  · refine Or.inr ⟨?_, ?_⟩
    · rcases hB with ⟨rfl, -⟩ | ⟨rfl, -⟩
      · exact Or.inl (by simp [State.move_queue])
      · exact Or.inr (by simp [State.move_timerList])
    · rcases launch hs hper' with ⟨-, hnext⟩ | ⟨hq | hl, -⟩
      · simpa [hlaunch] using hnext
      · exact absurd hq hqueue
      · exact absurd hl hlist

/-- A handler returns. -/
lemma Progress.finish {s t u : State} {started : Ptr → ℕ} {inner : List Ptr} {p : Ptr}
    (own : Owned t) (signed : SignedPeriods t) (prog : Progress s started t (p :: inner))
    (move : Move t (finishAct t p) u) : Progress s started u inner := by
  have hrun : t.running = p :: (inner ++ s.running) := prog.running
  have hrunning := finishAct_running hrun move
  obtain ⟨B, v, hfinish⟩ := finishAct_relocates t p
  rw [hfinish] at move
  cases move with
  | @relocate _ _ _ _ h row =>
    refine ⟨by simpa using prog.ticks, hrunning, fun q => ?_⟩
    by_cases hq : q = p
    · subst hq
      have htracked := prog.tracked q
      have hsame := t.move_classOf_same q q .running
      cases row with
      | finishPool _ hclass =>
        refine htracked.finish_once id rfl (fun h => ?_) fun h => ?_
        · exact absurd h.1 (by simp [hclass])
        · exact absurd h.1 (by simp [hsame, hclass])
      | finishUser _ hclass =>
        refine htracked.finish_once id rfl (fun h => ?_) fun h => ?_
        · exact absurd h.1 (by simp [hclass])
        · exact absurd h.1 (by simp [hsame, hclass])
      | finishDynamic _ hclass =>
        refine htracked.finish_once id rfl (fun h => ?_) fun h => ?_
        · exact absurd h.1 (by simp [hclass])
        · cases q with
          | heap a => exact absurd h.1 (by simp [State.classOf])
          | startupEventPool | startupSysTimerPool => cases hclass
      | finishOneShot _ hclass hperiod =>
        refine htracked.finish_once id rfl (fun h => h.2 hperiod) fun h => h.2 ?_
        simpa using hperiod
      | requeue _ hclass hperiod hdue =>
        exact htracked.finish_periodic own signed hrun ⟨hclass, hperiod⟩ rfl rfl
          (Or.inl ⟨rfl, hdue⟩)
      | rearm _ hclass hperiod hdue =>
        exact htracked.finish_periodic own signed hrun ⟨hclass, hperiod⟩ rfl rfl
          (Or.inr ⟨rfl, hdue⟩)
    · refine (prog.tracked q).congr (by simp) (t.move_classOf_of_ne hq _ _ _ _) (by simp [hq])
        (by simp [hq]) (fun A => t.move_mem_at_of_ne _ _ _ _ hq A) (by simp [hq])

/-! ## What handlers do -/

/-- What a program may do in a handler that neither sends, requests nor cancels: it may dispatch
events on its own and wait for their handlers, but the handlers below `depth` do not return. -/
def QuietOp (depth : ℕ) (s : State) : Op → Prop
  | .setActiveTasklet _ | .clientAlloc _ | .clientFree _ | .dispatch => True
  | .handlerReturn => depth < s.running.length
  | .handlerWrite data => ∀ p ∈ s.running.head?, data.receiver = (s.event p).data.receiver
  | _ => False

/-- The events that were delivered. -/
def called (l : List (Op × Ret)) : List Ptr := l.filterMap fun label => label.2.called?

lemma Progress.start (s : State) : Progress s (fun p => (called []).count p) s [] where
  ticks := rfl
  running := rfl
  tracked p :=
    { periodic := Iff.rfl
      period := rfl
      owed := by simp [called]
      launch := fun hqueue _ => Or.inr ⟨Or.inl hqueue, by simp [called, launchAt]⟩ }

/-- An operation of a handler keeps the account of every event. -/
lemma Progress.step {s t u : State} {l : List (Op × Ret)} {inner : List Ptr} {op : Op} {r : Ret}
    {acts : List Act} (own : Owned t) (signed : SignedPeriods t)
    (prog : Progress s (fun p => (called l).count p) t inner)
    (hop : QuietOp s.running.length t op) (heffect : Effect t op r acts)
    (run : Run Move t acts u) :
    ∃ inner', Progress s (fun p => (called (l ++ [(op, r)])).count p) u inner' := by
  have hquiet : r.called? = none → called (l ++ [(op, r)]) = called l := by
    intro hr
    simp [called, hr]
  have hstill : ∀ {act : Act} {t' : State}, Move t' act u → (∀ p A B v, act ≠ .relocate p A B v) →
      u.timerSysTicks = t'.timerSysTicks → (∀ p, (u.mem p).period = (t'.mem p).period) →
      ∀ {k inner}, Progress s k t' inner → Progress s k u inner :=
    fun move hact hticks hperiod _ _ prog => prog.still (move.still hact) hticks hperiod
  cases heffect with
  | @dispatch p rest tasklet hqueue htasklet =>
    simp only [Run.cons_iff, Run.nil_iff] at run
    obtain ⟨t', hdeliver, u', hactive, rfl⟩ := run
    cases hdeliver with
    | relocate row =>
      cases row with
      | deliver =>
        have hdelivered := prog.deliver own hqueue
        have hcount : Function.update (fun p => (called l).count p) p ((called l).count p + 1)
            = fun q => (called (l ++ [(.dispatch, .call (some (p, tasklet)))])).count q := by
          funext q
          simp only [called, List.filterMap_append, List.filterMap_cons, List.filterMap_nil,
            Ret.called?, List.count_append, List.count_singleton, Function.update_apply]
          by_cases hq : q = p
          · simp [hq]
          · simp [hq, Ne.symm hq]
        rw [hcount] at hdelivered
        refine ⟨_, hstill hactive (by simp) ?_ ?_ hdelivered⟩
        · cases hactive
          rfl
        · cases hactive
          exact fun _ => rfl
  | dispatchIdle | setActiveTasklet | clientAlloc | clientFree =>
    simp only [Run.cons_iff, Run.nil_iff] at run
    obtain ⟨t', move, rfl⟩ := run
    rw [hquiet rfl]
    refine ⟨inner, hstill move (by simp) ?_ ?_ prog⟩
    · cases move
      rfl
    · cases move
      exact fun _ => rfl
  | clientAllocFail =>
    obtain rfl := Run.nil_iff.mp run
    rw [hquiet rfl]
    exact ⟨inner, prog⟩
  | handlerWrite data hrun =>
    simp only [Run.cons_iff, Run.nil_iff] at run
    obtain ⟨t', move, rfl⟩ := run
    rw [hquiet rfl]
    refine ⟨inner, hstill move (by simp) ?_ ?_ prog⟩
    · cases move
      rfl
    · cases move
      intro q
      simp only [State.setData, State.store, Function.update_apply]
      split <;> simp_all
  | @handlerReturn p rest hrun =>
    simp only [Run.cons_iff, Run.nil_iff] at run
    obtain ⟨t', hfinish, u', hactive, rfl⟩ := run
    rw [hquiet rfl]
    cases inner with
    | nil =>
      -- the handlers that ran before do not return
      have hdepth : s.running.length < t.running.length := hop
      rw [prog.running, List.nil_append] at hdepth
      exact absurd hdepth (lt_irrefl _)
    | cons q inner =>
      obtain rfl : p = q := by
        have hrun' := hrun.symm.trans prog.running
        exact (List.cons.inj hrun').1
      refine ⟨inner, hstill hactive (by simp) ?_ ?_ (prog.finish own signed hfinish)⟩
      · cases hactive
        rfl
      · cases hactive
        exact fun _ => rfl
  | _ => exact hop.elim

section

variable [NsList]

/-- A reachable state in which every pending event has a registered receiver and no pending timer a
negative period. -/
structure Orderly (s : State) : Prop where
  reachable : Reachable s
  deliverable : Deliverable s
  signed : SignedPeriods s

/-- Functions of tasklets, beside a log of the events for which functions were called. -/
abbrev LoggedCall := ArmCoreTasklet → Ptr → State → StateT (List Ptr) (Except Fault) State

/-- Each call is logged when it begins. -/
def logged (call : LoggedCall) : LoggedCall := fun tasklet curEvent s => do
  modify (· ++ [curEvent])
  call tasklet curEvent s

omit [NsList] in
lemma QuietOp.orderly {depth : ℕ} {s : State} {op : Op} (h : QuietOp depth s op) :
    AddressedOp s op ∧ SignedOp op := by
  cases op with
  | handlerWrite => exact ⟨h, trivial⟩
  | setActiveTasklet | clientAlloc | clientFree | dispatch | handlerReturn =>
    exact ⟨trivial, trivial⟩
  | _ => exact h.elim

omit [NsList] in
lemma QuietOp.mono {m n : ℕ} (hle : m ≤ n) {s : State} {op : Op} (h : QuietOp n s op) :
    QuietOp m s op := by
  cases op with
  | handlerReturn => exact lt_of_le_of_lt hle h
  | _ => exact h

namespace Orderly

variable {s t : State}

lemma step {op : Op} {r : Ret} (orderly : Orderly s) (hop : AddressedOp s op ∧ SignedOp op)
    (step : Step s (op, r) t) : Orderly t := by
  have own := orderly.reachable.owned
  obtain ⟨acts, heffect, run⟩ := Step.effect own step
  exact ⟨orderly.reachable.next step, orderly.deliverable.step own hop.1 heffect run,
    orderly.signed.step own hop.2 heffect run⟩

lemma run {depth : ℕ} {l : List (Op × Ret)} (orderly : Orderly s)
    (run : RunOf (QuietOp depth) s l t) : Orderly t :=
  Run.invariant run orderly fun _ _ _ orderly h => orderly.step h.2.orderly h.1

end Orderly

/-! ## The loop -/

end

end EventLoop
