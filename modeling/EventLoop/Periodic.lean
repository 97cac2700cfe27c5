import EventLoop.Pending
import EventLoop.TimerOrder

/-!
# Periodic timers keep their schedule

A periodic timer carries its schedule in one modular `launch_time`, which moves on by one period
when its handler returns. Over a whole run the code is compared with the true time: `elapsed`
counts the ticks since the request, `started` the deliveries. The invariant `Scheduled` relates
the two: the launch time is that of the next delivery, and the place of the timer says whether
that time has come.
-/

namespace EventLoop

open Lib

/-! ## The schedule of one timer -/

section Schedule

variable (timer : Ptr) (start period : BitVec 32)

/-- The launch time of the `k`-th delivery. -/
def launchAt (k : ℕ) : BitVec 32 := start + BitVec.ofNat 32 (k * period.toNat)

/-- Where the timer is, after `elapsed` ticks and `started` deliveries. -/
inductive Phase (s : State) (elapsed started : ℕ) : Prop
  /-- it waits for the next delivery, whose time lies less than half the circle away -/
  | waiting (hp : timer ∈ s.at_ .timerList)
      (hlaunch : (s.mem timer).launchTime = launchAt start period (started + 1))
      (hfar : (started + 1) * period.toNat < elapsed + 2 ^ 31)
      (hnear : elapsed ≤ (started + 1) * period.toNat + 2 ^ 31)
  /-- the time of the next delivery has come -/
  | queued (hp : timer ∈ s.at_ .queue)
      (hlaunch : (s.mem timer).launchTime = launchAt start period (started + 1))
      (hdue : (started + 1) * period.toNat ≤ elapsed)
  /-- its handler runs -/
  | running (hp : timer ∈ s.at_ .running)
      (hlaunch : (s.mem timer).launchTime = launchAt start period started)
      (hdue : started * period.toNat ≤ elapsed)

/-- The timer is on its schedule; `field` is what it has as its period, which is 0 for a timer that
is delivered once. -/
structure Timetable (field : BitVec 32) (s : State) (elapsed started : ℕ) : Prop where
  clock : s.timerSysTicks = start + BitVec.ofNat 32 elapsed
  class_eq : s.classOf timer = .timer
  period_eq : (s.mem timer).period = field
  phase : Phase timer start period s elapsed started

/-- A periodic timer is on its schedule. -/
abbrev Scheduled := Timetable timer start period period

/-- Moves that do not cancel the timer, deliver it, or let time pass; its handler may return if it
is periodic, less than half the circle after the time of the delivery. -/
def Act.Keeps (field : BitVec 32) (elapsed started : ℕ) : Act → Prop
  | .relocate p A B _ => p = timer → B ≠ .running ∧ (A.Busy → B ≠ .timerFree) ∧
      (A = .running → field = period ∧ elapsed < started * period.toNat + 2 ^ 31)
  | .clock _ => False
  | .unperiod p => p ≠ timer
  | _ => True

end Schedule

variable {timer : Ptr} {start period field : BitVec 32} {s s' : State} {elapsed started : ℕ}

lemma launchAt_succ (k : ℕ) :
    launchAt start period (k + 1) = launchAt start period k + period := by
  rw [launchAt, launchAt, Nat.succ_mul, BitVec.ofNat_add, BitVec.ofNat_toNat, BitVec.setWidth_eq,
    add_assoc]

lemma toNat_of_toInt_pos (hperiod : 0 < period.toInt) :
    0 < period.toNat ∧ period.toNat < 2 ^ 31 := by
  rw [BitVec.toInt_eq_toNat_cond] at hperiod
  split at hperiod <;> omega

/-- Whether a launch time has come, in true time. -/
lemma due_launchAt_iff {k : ℕ} (hfar : k * period.toNat < elapsed + 2 ^ 31)
    (hnear : elapsed ≤ k * period.toNat + 2 ^ 31) :
    ticksBeforeOrAt (launchAt start period k) (start + BitVec.ofNat 32 elapsed)
      ↔ k * period.toNat ≤ elapsed := by
  rw [ticksBeforeOrAt_iff, launchAt, inWindow_count_iff (by omega) (by omega), not_lt]

namespace Phase

lemma place (phase : Phase timer start period s elapsed started) :
    ∃ A : Place, A.Busy ∧ timer ∈ s.at_ A := by
  cases phase with
  | waiting hp => exact ⟨.timerList, trivial, hp⟩
  | queued hp => exact ⟨.queue, trivial, hp⟩
  | running hp => exact ⟨.running, trivial, hp⟩

/-- The phase depends on the place and the launch time of the timer only. -/
lemma congr (phase : Phase timer start period s elapsed started)
    (hat : ∀ A, timer ∈ s.at_ A → timer ∈ s'.at_ A)
    (hlaunch : (s'.mem timer).launchTime = (s.mem timer).launchTime) :
    Phase timer start period s' elapsed started := by
  cases phase with
  | waiting hp h hfar hnear => exact .waiting (hat _ hp) (hlaunch.trans h) hfar hnear
  | queued hp h hdue => exact .queued (hat _ hp) (hlaunch.trans h) hdue
  | running hp h hdue => exact .running (hat _ hp) (hlaunch.trans h) hdue

end Phase

namespace Timetable

lemma congr (sch : Timetable timer start period field s elapsed started)
    (hticks : s'.timerSysTicks = s.timerSysTicks) (hclass : s'.classOf timer = s.classOf timer)
    (hat : ∀ A, timer ∈ s.at_ A → timer ∈ s'.at_ A)
    (hlaunch : (s'.mem timer).launchTime = (s.mem timer).launchTime)
    (hperiod : (s'.mem timer).period = (s.mem timer).period) :
    Timetable timer start period field s' elapsed started where
  clock := hticks.trans sch.clock
  class_eq := hclass.trans sch.class_eq
  period_eq := hperiod.trans sch.period_eq
  phase := sch.phase.congr hat hlaunch

/-- A move of the timer itself between the places in which it is outstanding. -/
lemma relocate {A B : Place} {v : SysTimerStruct} {h : Option HeapObject} (own : Owned s)
    (hhalf : period.toNat < 2 ^ 31) (sch : Timetable timer start period field s elapsed started)
    (row : Row s timer A B v h) (hrunning : B ≠ .running) (hcancel : A.Busy → B ≠ .timerFree)
    (hlate : A = .running → field = period ∧ elapsed < started * period.toNat + 2 ^ 31) :
    Timetable timer start period field (s.move timer A B v h) elapsed started := by
  obtain ⟨hclock, hclass, hper, phase⟩ := sch
  obtain ⟨C, hbusy, hC⟩ := phase.place
  have hheap : h = s.heap timer → (s.move timer A B v h).classOf timer = .timer := by
    rintro rfl
    rw [State.move_classOf_same, hclass]
  -- an outstanding timer is neither fresh nor free, which excludes the moves that fill it
  have hfresh : ¬ Fresh s timer := by
    intro fresh
    exact (List.count_pos_iff.mpr hC).ne' (fresh.count_eq_zero own C)
  have hfree : timer ∉ s.systemTimerFree := by
    intro hmem
    obtain rfl := own.place_unique (A := .timerFree) hmem hC
    exact hbusy
  cases row with
  | sendPool data hp =>
    have hpool : s.classOf timer = .pool := own.admits .free timer hp
    simp [hclass] at hpool
  | sendDynamic data fresh => exact absurd fresh hfresh
  | grow v fresh => exact absurd fresh hfresh
  | sendUser v isHeap hnone =>
    obtain ⟨a, rfl⟩ := isHeap
    simp [State.classOf, hnone] at hclass
  | fire v hp => exact absurd hp hfree
  | arm v hp => exact absurd hp hfree
  | deliver => exact absurd rfl hrunning
  | cancelQueued => exact absurd rfl (hcancel trivial)
  | cancelWaiting => exact absurd rfl (hcancel trivial)
  | cancelPool hp hc | cancelDynamic hp hc | cancelUser hp hc | finishPool hp hc
  | finishDynamic hp hc | finishUser hp hc => simp [hclass] at hc
  | finishOneShot => exact absurd rfl (hcancel trivial)
  | expire hp hdue =>
    -- its launch time has come, so the call is owed
    have hmem : timer ∈ s.at_ .timerList := by simp [State.at_, hp]
    cases phase with
    | queued hq => cases own.place_unique hmem hq
    | running hr => cases own.place_unique hmem hr
    | waiting _ hlaunch hfar hnear =>
      refine ⟨by simpa using hclock, hheap rfl, by simpa [SysTimerStruct.tagged] using hper, ?_⟩
      rw [hlaunch, hclock, due_launchAt_iff hfar hnear] at hdue
      refine .queued ?_ (by simpa [SysTimerStruct.tagged] using hlaunch) hdue
      simp [State.at_, State.move_queue]
  | requeue hp hc hne hdue | rearm hp hc hne hdue =>
    have hmem : timer ∈ s.at_ .running := by simp [State.at_, hp, hclass]
    cases phase with
    | waiting hw => cases own.place_unique hmem hw
    | queued hq => cases own.place_unique hmem hq
    | running _ hlaunch hstarted =>
      -- `event_core_free_push` adds one period to the last launch time
      have hnext : (s.mem timer).launchTime + (s.mem timer).period
          = launchAt start period (started + 1) := by
        rw [hlaunch, hper, (hlate rfl).1, launchAt_succ]
      have hsucc : (started + 1) * period.toNat = started * period.toNat + period.toNat :=
        Nat.succ_mul _ _
      have hfar : (started + 1) * period.toNat < elapsed + 2 ^ 31 := by omega
      have hnear : elapsed ≤ (started + 1) * period.toNat + 2 ^ 31 := by
        have hlate := (hlate rfl).2
        omega
      refine ⟨by simpa using hclock, hheap rfl, by simpa [SysTimerStruct.tagged] using hper, ?_⟩
      rw [hnext, hclock, due_launchAt_iff hfar hnear] at hdue
      first
        | exact .queued (by simp [State.at_, State.move_queue]) (by simpa using hnext) hdue
        | exact .waiting (by simp [State.at_, State.move_timerList]) (by simpa using hnext) hfar
            hnear

/-- A move of another storage. -/
lemma relocate_other {p : Ptr} {A B : Place} {v : SysTimerStruct} {h : Option HeapObject}
    (sch : Timetable timer start period field s elapsed started) (hp : timer ≠ p) :
    Timetable timer start period field (s.move p A B v h) elapsed started :=
  sch.congr (State.move_ticks ..) (s.move_classOf_of_ne hp A B v h)
    (fun C hC => (s.move_mem_at_of_ne A B v h hp C).mpr hC) (by simp [hp]) (by simp [hp])

lemma move {act : Act} (own : Owned s) (hhalf : period.toNat < 2 ^ 31)
    (sch : Timetable timer start period field s elapsed started) (move : Move s act s')
    (hact : act.Keeps timer period field elapsed started) :
    Timetable timer start period field s' elapsed started := by
  cases move with
  | @relocate p A B v h row =>
    by_cases hp : timer = p
    · subst hp
      obtain ⟨hrunning, hcancel, hlate⟩ := hact rfl
      exact sch.relocate own hhalf row hrunning hcancel hlate
    · exact sch.relocate_other hp
  | clock => exact hact.elim
  | register tasklet fresh hid hfun =>
    have still := (Move.register tasklet fresh hid hfun).still (by simp)
    exact sch.congr rfl (still.classOf timer) (fun C hC => still.place C ▸ hC) rfl rfl
  | @unperiod p hp hclass =>
    have still := (Move.unperiod hp hclass).still (by simp)
    refine sch.congr rfl (still.classOf timer) (fun C hC => still.place C ▸ hC)
      (still.launchTime timer) ?_
    simp [State.setPeriod, State.store, Ne.symm hact]
  | write data hp hq =>
    have still := (Move.write data hp hq).still (by simp)
    refine sch.congr rfl (still.classOf timer) (fun C hC => still.place C ▸ hC)
      (still.launchTime timer) ?_
    simp only [State.setData, State.store, Function.update_apply]
    split <;> simp_all
  | active tasklet =>
    have still := (Move.active (s := s) tasklet).still (by simp)
    exact sch.congr rfl (still.classOf timer) (fun C hC => still.place C ▸ hC) rfl rfl
  | clientAlloc fresh =>
    have still := (Move.clientAlloc fresh).still (by simp)
    exact sch.congr rfl (still.classOf timer) (fun C hC => still.place C ▸ hC) rfl rfl
  | clientFree hblock =>
    have still := (Move.clientFree hblock).still (by simp)
    exact sch.congr rfl (still.classOf timer) (fun C hC => still.place C ▸ hC) rfl rfl

lemma run {acts : List Act} (own : Owned s) (hhalf : period.toNat < 2 ^ 31)
    (sch : Timetable timer start period field s elapsed started) (run : Run Move s acts s')
    (hacts : ∀ act ∈ acts, act.Keeps timer period field elapsed started) :
    Timetable timer start period field s' elapsed started := by
  refine own.run_on (I := fun s => Timetable timer start period field s elapsed started)
    (fun t act u own sch hact move => ?_) sch run hacts
  exact sch.move own hhalf move hact

/-- A delivery starts when the time of the next delivery has come. -/
lemma deliver {v : SysTimerStruct} (own : Owned s)
    (sch : Timetable timer start period field s elapsed started)
    (move : Move s (.relocate timer .queue .running v) s') :
    (started + 1) * period.toNat ≤ elapsed ∧
      Timetable timer start period field s' elapsed (started + 1) := by
  obtain ⟨hclock, hclass, hper, phase⟩ := sch
  cases move with
  | @relocate _ _ _ _ h row =>
    cases row with
    | deliver hp =>
      have hmem : timer ∈ s.at_ .queue := by simp [State.at_, hp]
      cases phase with
      | waiting hw => cases own.place_unique hmem hw
      | running hr => cases own.place_unique hmem hr
      | queued _ hlaunch hdue =>
        have hclass' := (s.move_classOf_same timer timer .queue .running
          ((s.mem timer).tagged .running)).trans hclass
        refine ⟨hdue, by simpa using hclock, hclass', by simpa [SysTimerStruct.tagged] using hper,
          .running ?_ (by simpa [SysTimerStruct.tagged] using hlaunch) hdue⟩
        simp [State.at_, State.move_running, hclass']

/-- The clock moves on while the timer does not wait for a time that has come. -/
lemma clock_advance (sch : Timetable timer start period field s elapsed started)
    (hwait : timer ∈ s.at_ .timerList → elapsed < (started + 1) * period.toNat) {t : BitVec 32}
    (ht : t.toNat ≤ 2 ^ 31) :
    Timetable timer start period field (s.advance t) (elapsed + t.toNat) started := by
  obtain ⟨hclock, hclass, hper, phase⟩ := sch
  have still := (Move.clock (s := s) t).still (by simp)
  refine ⟨?_, (still.classOf timer).trans hclass, hper, ?_⟩
  · rw [State.advance, hclock, BitVec.ofNat_add, BitVec.ofNat_toNat, BitVec.setWidth_eq, add_assoc]
  · cases phase with
    | waiting hp hlaunch hfar hnear =>
      have hlt := hwait hp
      exact .waiting hp hlaunch (by omega) (by omega)
    | queued hp hlaunch hdue => exact .queued hp hlaunch (by omega)
    | running hp hlaunch hdue =>
      exact .running (still.place .running ▸ hp) hlaunch (by omega)

end Timetable

/-! ## Operations -/

/-- The operation cancels the event. -/
def Cancels (s : State) (timer : Ptr) : Op → Prop
  | .cancel event => event = some timer
  | .timerCancel eventId taskletId => timerCancelTarget s eventId taskletId = some timer
  | _ => False

/-- The handler of the timer's event returns. -/
def Completes (s : State) (timer : Ptr) (op : Op) : Prop :=
  op = .handlerReturn ∧ s.running.head? = some timer

instance (s : State) (timer : Ptr) (op : Op) : Decidable (Cancels s timer op) :=
  match op with
  | .cancel _ | .timerCancel _ _ => inferInstanceAs (Decidable (_ = _))
  | .handlerCreate .. | .send .. | .sendUserAllocated .. | .sendTimerAllocated .. | .requestAt ..
  | .requestIn .. | .requestEvery .. | .request .. | .tickUpdate .. | .synchAfterSleep ..
  | .setActiveTasklet .. | .dispatch | .handlerReturn | .handlerWrite .. | .clientAlloc ..
  | .clientFree .. => isFalse id

instance (s : State) (timer : Ptr) (op : Op) : Decidable (Completes s timer op) :=
  inferInstanceAs (Decidable (_ ∧ _))

lemma Requested.keeps {event : ArmEvent} {at_ period' : BitVec 32} {answer r : Option Ptr}
    {acts : List Act} (h : Requested s event at_ period' answer r acts) :
    ∀ act ∈ acts, act.Keeps timer period field elapsed started := by
  refine h.forall_acts (by simp [Act.Keeps, Place.Busy]) fun _ p B hB => ?_
  rcases hB with rfl | rfl <;> simp [Act.Keeps]

lemma cancelActs_keeps {p : Ptr} (hp : p ≠ timer) :
    ∀ act ∈ cancelActs s p, act.Keeps timer period field elapsed started :=
  cancelActs_forall (fun _ _ _ _ _ => fun hp' => absurd hp' hp) hp

lemma expireActs_keeps : ∀ act ∈ expireActs s, act.Keeps timer period field elapsed started :=
  expireActs_forall (by simp [Act.Keeps])

/-- The timer goes back to the queue or the timer list when its handler returns. -/
lemma finishAct_keeps {p : Ptr} (hperiod : 0 < period.toInt)
    (sch : Timetable timer start period field s elapsed started)
    (hlate : p = timer → field = period ∧ elapsed < started * period.toNat + 2 ^ 31) :
    (finishAct s p).Keeps timer period field elapsed started := by
  by_cases hp : p = timer
  · subst hp
    have hne : (s.mem p).period ≠ 0 := by
      rw [sch.period_eq, (hlate rfl).1]
      rintro rfl
      simp at hperiod
    simp only [finishAct, sch.class_eq, hne, ↓reduceIte]
    split_ifs <;> simpa [Act.Keeps] using hlate
  · obtain ⟨B, v, hfinish⟩ := finishAct_relocates s p
    simp [hfinish, Act.Keeps, hp]

/-- Where the timer is when its handler has returned. -/
lemma Scheduled.finish_place (hperiod : 0 < period.toInt)
    (sch : Scheduled timer start period s elapsed started)
    (move : Move s (finishAct s timer) s') :
    timer ∈ s'.at_ .queue ∨ timer ∈ s'.at_ .timerList := by
  have hne : (s.mem timer).period ≠ 0 := by
    rw [sch.period_eq]
    rintro rfl
    simp at hperiod
  simp only [finishAct, sch.class_eq, hne, ↓reduceIte] at move
  split_ifs at move
  · cases move
    exact Or.inl (by simp [State.at_, State.move_queue])
  · cases move
    exact Or.inr (by simp [State.at_, State.move_timerList])

/-- An operation that lets no time pass and does not cancel the timer. -/
theorem Timetable.effect {op : Op} {r : Ret} {acts : List Act} (own : Owned s)
    (hhalf : period.toNat < 2 ^ 31) (sch : Timetable timer start period field s elapsed started)
    (heffect : Effect s op r acts) (run : Run Move s acts s') (hcancel : ¬ Cancels s timer op)
    (hticks : op.ticks = none)
    (hlate : Completes s timer op → 0 < period.toInt ∧ field = period ∧
      elapsed < started * period.toNat + 2 ^ 31) :
    (r.called? = some timer → (started + 1) * period.toNat ≤ elapsed) ∧
      Timetable timer start period field s' elapsed
        (if r.called? = some timer then started + 1 else started) := by
  have hkeeps : (∀ act ∈ acts, act.Keeps timer period field elapsed started) →
      r.called? ≠ some timer →
      (r.called? = some timer → (started + 1) * period.toNat ≤ elapsed) ∧
        Timetable timer start period field s' elapsed
          (if r.called? = some timer then started + 1 else started) := by
    intro hacts hr
    refine ⟨fun h => absurd h hr, ?_⟩
    rw [if_neg hr]
    exact sch.run own hhalf run hacts
  cases heffect with
  | dispatch hqueue htasklet =>
    rename_i p rest tasklet
    -- only the delivery of the timer itself counts as a call
    by_cases hp : p = timer
    · subst hp
      simp only [Run.cons_iff, Run.nil_iff] at run
      obtain ⟨t, hdeliver, u, hactive, rfl⟩ := run
      obtain ⟨hdue, hsch⟩ := sch.deliver own hdeliver
      have hmoved := hsch.move (own.preserved hdeliver) hhalf hactive trivial
      exact ⟨fun _ => hdue, by simpa [Ret.called?] using hmoved⟩
    · refine hkeeps ?_ (by simpa [Ret.called?] using hp)
      simp [Act.Keeps, hp]
  | tickUpdate | synchAfterSleep => cases hticks
  | handlerCreate hfun hsource =>
    have hsrc := eventSource_place hsource (B := .running) trivial
    exact hkeeps (by simp [Act.Keeps, hsrc]) (by simp [Ret.called?])
  | send hreceiver hsource =>
    have hsrc := eventSource_place hsource (B := .running) trivial
    exact hkeeps (by simp [Act.Keeps, hsrc]) (by simp [Ret.called?])
  | requestAt h | requestIn h | request h => exact hkeeps h.keeps (by simp [Ret.called?])
  | requestEvery _ h => exact hkeeps h.keeps (by simp [Ret.called?])
  | timerCancel hp | cancel =>
    refine hkeeps (cancelActs_keeps ?_) (by simp [Ret.called?])
    rintro rfl
    exact hcancel (by first | exact hp | rfl)
  | @handlerReturn p rest hrun =>
    refine hkeeps ?_ (by simp [Ret.called?])
    have hfinish : (finishAct s p).Keeps timer period field elapsed started := by
      -- its own return sets the next launch time; another return does not touch it
      by_cases hp : p = timer
      · obtain ⟨hperiod, hlate⟩ := hlate ⟨rfl, by rw [hrun, ← hp]; rfl⟩
        exact finishAct_keeps hperiod sch fun _ => hlate
      · obtain ⟨B, v, hfinish⟩ := finishAct_relocates s p
        simp [hfinish, Act.Keeps, hp]
    simpa [Act.Keeps] using hfinish
  | sendUserAllocated | sendTimerAllocated =>
    exact hkeeps (by simp [Act.Keeps, Place.Busy]) (by simp [Ret.called?])
  | setActiveTasklet | dispatchIdle | handlerWrite | clientAlloc | clientFree =>
    exact hkeeps (by simp [Act.Keeps]) (by simp [Ret.called?])
  | handlerCreateDuplicate | handlerCreateFull | sendFail | requestEveryFail | timerCancelFail
  | cancelNull | clientAllocFail => exact hkeeps (by simp) (by simp [Ret.called?])

/-- The schedule starts with the request. -/
lemma Timetable.of_requested {event : ArmEvent} {answer : Option Ptr} {acts : List Act}
    (own : Owned s) (hhalf : period.toNat < 2 ^ 31)
    (h : Requested s event (s.timerSysTicks + period) field answer (some timer) acts)
    (run : Run Move s acts s') : Timetable timer s.timerSysTicks period field s' 0 0 := by
  have own' := own.run run
  have hfirst : s.timerSysTicks + period = launchAt s.timerSysTicks period 1 := by simp [launchAt]
  have hnow : s.timerSysTicks = s.timerSysTicks + BitVec.ofNat 32 0 := by simp
  have hdue : ticksBeforeOrAt (s.timerSysTicks + period) s.timerSysTicks ↔ period.toNat ≤ 0 := by
    rw [hfirst]
    conv_lhs => arg 2; rw [hnow]
    rw [due_launchAt_iff (by omega) (by omega), one_mul]
  -- the timer is filled last, in the place that goes with its time
  have hfilled : ∀ {B : Place}, B.Busy → Run Move s (growActs s timer
      (requested event (s.timerSysTicks + period) field B) ++
        [.relocate timer .timerFree B (requested event (s.timerSysTicks + period) field B)]) s' →
      s'.timerSysTicks = s.timerSysTicks ∧ s'.classOf timer = .timer ∧ timer ∈ s'.at_ B ∧
        s'.mem timer = requested event (s.timerSysTicks + period) field B := by
    intro B hB run
    obtain ⟨t, hgrow, hlast⟩ := run.split
    simp only [Run.cons_iff, Run.nil_iff] at hlast
    obtain ⟨u, hmove, rfl⟩ := hlast
    obtain ⟨-, -, hmem, hclass, -⟩ := fill_spec (own.run hgrow) hB hmove
    have hticks := (growActs_same own hgrow).1
    cases hmove with
    | relocate row =>
      refine ⟨by simpa using hticks, hclass, ?_, hmem⟩
      cases row with
      | fire => simp [State.at_, State.move_queue]
      | arm => simp [State.at_, State.move_timerList]
  cases h with
  | fire _ _ hat =>
    obtain ⟨hticks, hclass, hmem, hfields⟩ := hfilled (B := .queue) trivial run
    have hzero := hdue.mp hat
    refine ⟨by simpa using hticks, hclass, by rw [hfields]; rfl, .queued hmem ?_ (by omega)⟩
    rw [hfields]
    exact hfirst
  | arm =>
    obtain ⟨hticks, hclass, hmem, hfields⟩ := hfilled (B := .timerList) trivial run
    refine ⟨by simpa using hticks, hclass, by rw [hfields]; rfl,
      .waiting hmem ?_ (by omega) (by omega)⟩
    rw [hfields]
    exact hfirst

section

variable [NsList]

/-- The schedule of a periodic timer starts with the request. -/
lemma Scheduled.requestEvery {event : ArmEvent} {answer : Option Ptr} (own : Owned s)
    (step : Step s (.requestEvery event period answer, .handle (some timer)) s') :
    0 < period.toInt ∧ Scheduled timer s.timerSysTicks period s' 0 0 := by
  obtain ⟨acts, heffect, run⟩ := Step.effect own step
  cases heffect with
  | requestEvery hperiod h =>
    exact ⟨hperiod, .of_requested own (toNat_of_toInt_pos hperiod).2 h run⟩

end

/-! ## Runs -/

/-- A state with the true number of ticks since the request and the number of deliveries that
were started. -/
structure PeriodicHistory where
  state : State
  elapsed : ℕ
  started : ℕ

/-- The history after a step. -/
def PeriodicHistory.next (h : PeriodicHistory) (timer : Ptr) (label : Op × Ret) (s' : State) :
    PeriodicHistory where
  state := s'
  elapsed := h.elapsed + label.1.ticks.elim 0 BitVec.toNat
  started := if label.2.called? = some timer then h.started + 1 else h.started

section

variable [NsList]

/-- A step that does not cancel the timer, lets at most 2³¹ ticks pass, and completes a delivery
of the timer less than 2³¹ ticks after its scheduled time. -/
structure PeriodicStep (timer : Ptr) (period : BitVec 32) (h : PeriodicHistory)
    (label : Op × Ret) (h' : PeriodicHistory) : Prop where
  step : Step h.state label h'.state
  ticks : BoundedTicks label.1
  uncancelled : ¬ Cancels h.state timer label.1
  prompt : Completes h.state timer label.1 → h.elapsed < h.started * period.toNat + 2 ^ 31
  next : h' = h.next timer label h'.state

/-- The invariant of such runs. -/
structure PeriodicHistory.OnTime (timer : Ptr) (start period field : BitVec 32)
    (h : PeriodicHistory) : Prop where
  owned : Owned h.state
  ordered : h.state.Ordered
  scheduled : Timetable timer start period field h.state h.elapsed h.started

/-- The invariant for a periodic timer. -/
abbrev PeriodicHistory.Regular (timer : Ptr) (start period : BitVec 32) :=
  PeriodicHistory.OnTime timer start period period

namespace PeriodicHistory.OnTime

variable {h : PeriodicHistory} {label : Op × Ret}

omit [NsList] in
/-- A timer waits only as long as its time has not come. -/
lemma waits (onTime : h.OnTime timer start period field) (hp : timer ∈ h.state.systemTimerList) :
    h.elapsed < (h.started + 1) * period.toNat := by
  obtain ⟨own, ⟨t, ht, ordered⟩, hclock, -, -, phase⟩ := onTime
  cases phase with
  | queued hq => cases own.place_unique (A := .timerList) hp hq
  | running hr => cases own.place_unique (A := .timerList) hp hr
  | waiting _ hlaunch hfar hnear =>
    have hwindow := ordered.window timer (ht ▸ hp)
    rw [ht, hclock, hlaunch] at hwindow
    exact (inWindow_count_iff (by omega) (by omega)).mp hwindow

/-- What one step does to the schedule. -/
lemma advance (hhalf : period.toNat < 2 ^ 31) (onTime : h.OnTime timer start period field)
    {s' : State} (step : Step h.state label s') (hticks : BoundedTicks label.1)
    (hcancel : ¬ Cancels h.state timer label.1)
    (hlate : Completes h.state timer label.1 → 0 < period.toInt ∧ field = period ∧
      h.elapsed < h.started * period.toNat + 2 ^ 31) :
    (label.2.called? = some timer → (h.started + 1) * period.toNat ≤ h.elapsed) ∧
      (h.next timer label s').OnTime timer start period field := by
  have own := onTime.owned
  have hordered := onTime.ordered.step own step hticks
  obtain ⟨acts, heffect, run⟩ := Step.effect own step
  cases hop : label.1.ticks with
  | none =>
    obtain ⟨hdue, hsch⟩ := onTime.scheduled.effect own hhalf heffect run hcancel hop hlate
    refine ⟨hdue, own.step step, hordered, ?_⟩
    simpa [PeriodicHistory.next, hop] using hsch
  | some t =>
    have hclock := onTime.scheduled.clock_advance onTime.waits (hticks.le hop)
    have hexpire : label.2.called? ≠ some timer ∧
        acts = .clock t :: expireActs (h.state.advance t) := by
      generalize label.1 = op at heffect hop
      generalize label.2 = r at heffect
      cases heffect <;> cases hop <;> exact ⟨by simp [Ret.called?], rfl⟩
    obtain ⟨hr, rfl⟩ := hexpire
    refine ⟨fun h => absurd h hr, own.step step, hordered, ?_⟩
    simp only [Run.cons_iff] at run
    obtain ⟨u, hmove, hrest⟩ := run
    have own' := own.preserved hmove
    cases hmove
    have hsch := hclock.run own' hhalf hrest expireActs_keeps
    simpa [PeriodicHistory.next, hop, hr] using hsch

end PeriodicHistory.OnTime

namespace PeriodicHistory.Regular

variable {h h' : PeriodicHistory} {label : Op × Ret}

/-- What one step does to the schedule. -/
lemma scheduled_step (hperiod : 0 < period.toInt) (regular : h.Regular timer start period)
    (step : PeriodicStep timer period h label h') :
    (label.2.called? = some timer → (h.started + 1) * period.toNat ≤ h.elapsed) ∧
      h'.Regular timer start period := by
  rw [step.next]
  exact regular.advance (toNat_of_toInt_pos hperiod).2 step.step step.ticks step.uncancelled
    fun hcompletes => ⟨hperiod, rfl, step.prompt hcompletes⟩

lemma step (hperiod : 0 < period.toInt) (regular : h.Regular timer start period)
    (step : PeriodicStep timer period h label h') : h'.Regular timer start period :=
  (regular.scheduled_step hperiod step).2

omit [NsList] in
/-- The timer is outstanding once. -/
lemma count_eq_one (regular : h.Regular timer start period) :
    (h.state.eventQueueActive ++ h.state.systemTimerList ++ h.state.running).count timer = 1 := by
  obtain ⟨own, -, -, hclass, -, phase⟩ := regular
  obtain ⟨C, hbusy, hC⟩ := phase.place
  have hcount := own.count_of_mem hC
  have hqueue := hcount .queue
  have hlist := hcount .timerList
  have hrunning := hcount .running
  rw [State.at_, List.count_filter (by simpa using hclass ▸ (by decide))] at hrunning
  simp only [State.at_] at hqueue hlist
  rw [List.count_append, List.count_append, hqueue, hlist, hrunning]
  cases C <;> first | rfl | exact hbusy.elim

/-- The return of the timer's handler. -/
lemma completes (hperiod : 0 < period.toInt) (regular : h.Regular timer start period) {r : Ret}
    {s' : State} (hrun : h.state.running.head? = some timer)
    (hprompt : h.elapsed < h.started * period.toNat + 2 ^ 31)
    (step : Step h.state (.handlerReturn, r) s') :
    (s'.mem timer).launchTime = launchAt start period (h.started + 1) ∧
      (s'.mem timer).period = period ∧
      if (h.started + 1) * period.toNat ≤ h.elapsed then timer ∈ s'.eventQueueActive
      else timer ∈ s'.systemTimerList := by
  have own := regular.owned
  obtain ⟨acts, heffect, run⟩ := Step.effect own step
  cases heffect with
  | @handlerReturn p rest hp =>
    obtain rfl : p = timer := by simpa [hp] using hrun
    have hnext : PeriodicStep p period h (.handlerReturn, .void)
        (h.next p (.handlerReturn, .void) s') := ⟨step, trivial, id, fun _ => hprompt, rfl⟩
    have regular' := regular.step hperiod hnext
    simp only [Run.cons_iff, Run.nil_iff] at run
    obtain ⟨t, hfinish, u, hactive, rfl⟩ := run
    have own' := regular'.owned
    have hwaits := regular'.waits
    obtain ⟨-, -, hperiod', phase⟩ := regular'.scheduled
    simp only [PeriodicHistory.next, Op.ticks, Ret.called?, Option.elim_none, add_zero,
      reduceCtorEq, ↓reduceIte] at own' hwaits hperiod' phase
    cases hactive
    rcases Scheduled.finish_place hperiod regular.scheduled hfinish with hqueue | hlist
    · cases phase with
      | waiting hw => cases own'.place_unique (A := .queue) hqueue hw
      | running hr => cases own'.place_unique (A := .queue) hqueue hr
      | queued _ hlaunch hdue =>
        rw [if_pos hdue]
        exact ⟨hlaunch, hperiod', hqueue⟩
    · cases phase with
      | queued hq => cases own'.place_unique (A := .timerList) hlist hq
      | running hr => cases own'.place_unique (A := .timerList) hlist hr
      | waiting _ hlaunch hfar hnear =>
        rw [if_neg (not_le.mpr (hwaits hlist))]
        exact ⟨hlaunch, hperiod', hlist⟩

end PeriodicHistory.Regular

/-- **Periodic timers keep their schedule without skips, early firings or drift.** After a
successful request of a period at some tick count, in every run that does not cancel it: one
instance is outstanding, and it waits on the timer list only as long as the time of the next
delivery has not come; the `k`-th delivery starts only when `k` periods have passed; and when its
handler returns, the launch time is that of delivery `k + 1` counted from the request, and the
timer is queued if that time has come and waits for it otherwise. -/
theorem periodic_schedule {s₀ s s₁ : State} {l₀ l : List (Op × Ret)} {event : ArmEvent}
    {period : BitVec 32} {answer : Option Ptr} {timer : Ptr} {h : PeriodicHistory}
    (init : Initial s₀) (before : RunOf (fun _ op => BoundedTicks op) s₀ l₀ s)
    (request : Step s (.requestEvery event period answer, .handle (some timer)) s₁)
    (run : Run (PeriodicStep timer period) ⟨s₁, 0, 0⟩ l h) :
    (h.state.eventQueueActive ++ h.state.systemTimerList ++ h.state.running).count timer = 1 ∧
    (timer ∈ h.state.systemTimerList → h.elapsed < (h.started + 1) * period.toNat) ∧
    (∀ tasklet s', Step h.state (.dispatch, .call (some (timer, tasklet))) s' →
      (h.started + 1) * period.toNat ≤ h.elapsed) ∧
    ∀ r s', h.state.running.head? = some timer →
      h.elapsed < h.started * period.toNat + 2 ^ 31 →
      Step h.state (.handlerReturn, r) s' →
      (s'.mem timer).launchTime
        = s.timerSysTicks + BitVec.ofNat 32 ((h.started + 1) * period.toNat) ∧
      (s'.mem timer).period = period ∧
      if (h.started + 1) * period.toNat ≤ h.elapsed then timer ∈ s'.eventQueueActive
      else timer ∈ s'.systemTimerList := by
  obtain ⟨t, history, rfl⟩ := exists_history before
  obtain ⟨own, ordered⟩ := TimerHistory.ordered_of_run init history
  obtain ⟨hperiod, scheduled⟩ := Scheduled.requestEvery own request
  have hstart : (⟨s₁, 0, 0⟩ : PeriodicHistory).Regular timer t.state.timerSysTicks period :=
    ⟨own.step request, ⟨t.next s₁, rfl, ordered.step own ⟨request, trivial, rfl⟩⟩, scheduled⟩
  have regular := run.invariant hstart fun _ _ _ regular step => regular.step hperiod step
  refine ⟨regular.count_eq_one, regular.waits, fun tasklet s' step => ?_, fun r s' hrun hprompt =>
    regular.completes hperiod hrun hprompt⟩
  have hnext : PeriodicStep timer period h (.dispatch, .call (some (timer, tasklet)))
      (h.next timer (.dispatch, .call (some (timer, tasklet))) s') :=
    ⟨step, trivial, id, fun hcompletes => (by cases hcompletes.1), rfl⟩
  exact (regular.scheduled_step hperiod hnext).1 rfl

/-- Carry out an operation, if it makes a step. -/
def PeriodicHistory.attempt (timer : Ptr) (period : BitVec 32) (h : PeriodicHistory) (op : Op) :
    Option PeriodicHistory :=
  if Valid h.state op ∧ BoundedTicks op ∧ ¬ Cancels h.state timer op ∧
      (Completes h.state timer op → h.elapsed < h.started * period.toNat + 2 ^ 31) then
    match exec op h.state with
    | .ok (s', r) => some (h.next timer (op, r) s')
    | .error _ => none
  else none

lemma PeriodicHistory.attempt_step {h h' : PeriodicHistory} {op : Op}
    (hattempt : h.attempt timer period op = some h') :
    ∃ r, PeriodicStep timer period h (op, r) h' := by
  unfold attempt at hattempt
  split at hattempt
  · next hvalid =>
    split at hattempt
    · next s' r hexec =>
      obtain rfl := Option.some.inj hattempt
      exact ⟨r, ⟨hvalid.1, hexec⟩, hvalid.2.1, hvalid.2.2.1, hvalid.2.2.2, rfl⟩
    · cases hattempt
  · cases hattempt

end

/-- A timer of period 5 whose first handler call returns after 11 ticks: the second delivery, for
tick 10, follows at once. -/
theorem periodic_schedule_overdue : ∃ s₁ l h,
    Run (PeriodicStep (.startupSysTimerPool 5) 5) ⟨s₁, 0, 0⟩ l h ∧
    h.elapsed = 11 ∧ h.started = 2 ∧ h.state.running = [.startupSysTimerPool 5] ∧
    (h.state.eventQueueActive ++ h.state.systemTimerList ++ h.state.running).count
      (.startupSysTimerPool 5) = 1 := by
  let request : Op := .requestEvery
    { receiver := 0, sender := 0, eventType := 2, eventId := 3, dataPtr := none
      priority := .med, eventData := 4 } 5 none
  have hsome : ((drive (fun _ op => BoundedTicks op)
      [.handlerCreate 7 1 (some (.heap 0)) none, .dispatch, .handlerReturn]
      (eventOSSchedulerInit (.boot 0xFFFFFFF0))).bind fun s =>
        if Valid s request then (exec request s).toOption.bind fun result =>
          if result.2 = .handle (some (.startupSysTimerPool 5)) then
            [.tickUpdate 5, .dispatch, .tickUpdate 6, .handlerReturn, .dispatch].foldlM
              (PeriodicHistory.attempt (.startupSysTimerPool 5) 5) ⟨result.1, 0, 0⟩
          else none
        else none).map (fun h => (h.elapsed, h.started, h.state.running))
      = some (11, 2, [.startupSysTimerPool 5]) := by decide +kernel
  obtain ⟨h, hrun, hhistory⟩ := Option.map_eq_some_iff.mp hsome
  obtain ⟨s, hs, hrequest⟩ := Option.bind_eq_some_iff.mp hrun
  obtain ⟨l₀, before, -⟩ := drive_runOf hs
  split at hrequest
  · next hvalid =>
    obtain ⟨⟨s₁, r⟩, hexec, hsteps⟩ := Option.bind_eq_some_iff.mp hrequest
    split at hsteps
    · next hr =>
      obtain ⟨l, run, -⟩ := Run.of_foldlM (f := PeriodicHistory.attempt _ _)
        (fun _ _ _ h => PeriodicHistory.attempt_step h) hsteps
      have hok : exec request s = .ok (s₁, r) := toOption_eq_some.mp hexec
      simp only [Prod.mk.injEq] at hhistory
      have hcount := (periodic_schedule (boot_initial _) before ⟨hvalid, hr ▸ hok⟩ run).1
      exact ⟨s₁, l, h, run, hhistory.1, hhistory.2.1, hhistory.2.2, hcount⟩
    · cases hsteps
  · cases hrequest

end EventLoop
