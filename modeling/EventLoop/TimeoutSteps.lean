import EventLoop.TimeoutLifetime

/-!
# What the timeout functions do

Each function of `ns_timeout.c` in a consistent state: it runs into no undefined behaviour, and
the state it leaves is consistent again. A function is followed through the calls it makes, the
pairs of timers and `timeout_t` blocks with it.
-/

namespace EventLoop

open Lib

/-! ## What the allocator answers -/

/-- The allocator does not answer the same block twice. -/
lemma Answers.distinct {answers : Answers} (h : answers.toList.Nodup) :
    (∀ p, answers.timeout = some p →
      answers.tasklet ≠ some p ∧ answers.event ≠ some p ∧ answers.timer ≠ some p) ∧
    (∀ p, answers.tasklet = some p → answers.event ≠ some p ∧ answers.timer ≠ some p) ∧
    ∀ p, answers.event = some p → answers.timer ≠ some p := by
  rcases answers with ⟨_ | a, _ | b, _ | c, _ | d⟩ <;> simp_all [Answers.toList, eq_comm]

lemma Answers.mem_toList {answers : Answers} {answer : Option Ptr} {p : Ptr}
    (hanswer : answer ∈ [answers.timeout, answers.tasklet, answers.event, answers.timer])
    (hp : answer = some p) : p ∈ answers.toList :=
  List.mem_filterMap.mpr ⟨answer, hanswer, hp⟩

/-- The allocator keeps its other answers while the block of the timeout is allocated. -/
lemma Answers.fresh_of_alloc {s : State} {answers : Answers}
    (fresh : ∀ p ∈ answers.toList, Fresh s p) {answer : Option Ptr} {t : Ptr}
    (hanswer : answer ∈ [answers.timeout, answers.tasklet, answers.event, answers.timer])
    (hne : answer ≠ some t) :
    FreshAnswer { s with heap := Function.update s.heap t (some .timeout) } answer := by
  intro p hp
  have hpt : p ≠ t := by
    rintro rfl
    exact hne hp
  obtain ⟨hheap, hfree, hqueue, hrun⟩ := fresh p (Answers.mem_toList hanswer hp)
  exact ⟨hheap, by simpa [hpt] using hfree, hqueue, hrun⟩

/-- A block stays free when another storage moves and the block itself is not allocated. -/
lemma Fresh.others {s s' : State} {p q : Ptr} (fresh : Fresh s q) (own : Owned s)
    (hothers : Others p s s') (hqp : q ≠ p) (hheap : s'.heap q = none) : Fresh s' q := by
  have hpending : ¬ Pending s' q := fun hq => fresh.not_pending own ((hothers.pending q hqp).mp hq)
  exact ⟨fresh.isHeap, hheap, fun hq => hpending (Or.inl hq),
    fun hq => hpending (Or.inr (Or.inr hq))⟩

namespace System

variable [NsList]

/-! ## Starting the tasklet -/

omit [NsList] in
/-- What is pending when the timeout tasklet is registered is not for it, except the init event. -/
lemma not_timed_of_register {s s' : State} (deliverable : Deliverable s)
    (hlen : s.armCoreTaskletList.length < 128) {p : Ptr} {A : Place} {tasklet : ArmCoreTasklet}
    {block : Ptr} {allocator : Allocator}
    (run : Run Move s [.register tasklet block, .relocate p A .queue
      (written s p (initEvent (taskletGetFreeId s) startupEvent) allocator)] s') {q : Ptr}
    (hq : Pending s' q) (hreceiver : (s'.event q).data.receiver = taskletGetFreeId s) :
    (s'.event q).data.eventType ≠ timerEvent := by
  have hothers : Others p s s' := .of_run run (by simp [Act.On])
  by_cases hqp : q = p
  · subst hqp
    simp only [Run.cons_iff, Run.nil_iff] at run
    obtain ⟨t, -, u, hfill, rfl⟩ := run
    cases hfill with
    | relocate row =>
      rw [State.move_event_self]
      show startupEvent ≠ timerEvent
      decide
  · -- an event that was there before has a receiver, and that id was free
    have hold := (hothers.pending q hqp).mp hq
    obtain ⟨u, -, hmem, hid, -⟩ := deliverable.receiver hold
    have hevent : s'.event q = s.event q := by
      simp only [State.event, hothers.mem q hqp]
    rw [hevent] at hreceiver
    exact absurd (hid.trans hreceiver)
      ((deliverable.registered.freeId (by simp only [int8Max]; omega)).2 u hmem)

omit [NsList] in
/-- The tasklet that was registered last is the only one with its function and its id. -/
lemma Grounded.register {s s' : State} (ground : Grounded s (-1)) (hother : Owned s')
    (deliverable : Deliverable s') (hknown : Known s' (taskletGetFreeId s))
    (hlen : s.armCoreTaskletList.length < 128)
    (hfun : ∀ t ∈ s.armCoreTaskletList, t.funcPtr ≠ timeoutTasklet)
    (htasklets : s'.armCoreTaskletList =
      s.armCoreTaskletList ++ [{ id := taskletGetFreeId s, funcPtr := timeoutTasklet }]) :
    Grounded s' (taskletGetFreeId s) := by
  refine ⟨hother, deliverable, fun _ => hknown, fun u hu => ?_⟩
  rw [htasklets] at hu
  rcases List.mem_append.mp hu with hu | hu
  · have hfree := (ground.deliverable.registered.freeId (by simp only [int8Max]; omega)).2
    exact iff_of_false (hfun u hu) (hfree u hu)
  · obtain rfl := List.mem_singleton.mp hu
    exact iff_of_true rfl rfl

lemma handlerCreate_of_exec {s s' : State} {f : FuncPtr} {ty : BitVec 8}
    {newTasklet newEvent : Option Ptr} {r : Ret}
    (h : EventLoop.exec (.handlerCreate f ty newTasklet newEvent) s = .ok (s', r)) :
    ∃ c, r = .code c ∧ eventOSEventHandlerCreate f ty newTasklet newEvent s = .ok (s', c) := by
  simp only [EventLoop.exec] at h
  cases hcreate : eventOSEventHandlerCreate f ty newTasklet newEvent s with
  | error fault => simp [hcreate] at h
  | ok result =>
    obtain ⟨rfl, rfl⟩ : result.1 = s' ∧ .code result.2 = r := by simpa [hcreate] using h
    exact ⟨result.2, rfl, rfl⟩

/-- A start of the tasklet is a registration. -/
lemma Consistent.registers {σ : System} {building : Option Ptr} (con : σ.Consistent building)
    {answers : Answers} (freshTasklet : FreshAnswer σ.core answers.tasklet)
    (freshEvent : FreshAnswer σ.core answers.event) (hdistinct : answers.toList.Nodup)
    (hid : σ.timeoutTaskletId = -1) : ∃ s' c acts,
      startTimeoutTasklet answers σ = .ok { σ with
        core := s'
        timeoutTaskletId := if (BitVec.ofInt 8 c).toInt < 0 then -1 else BitVec.ofInt 8 c } ∧
      Step σ.core (.handlerCreate timeoutTasklet startupEvent answers.tasklet answers.event,
        .code c) s' ∧
      Effect σ.core (.handlerCreate timeoutTasklet startupEvent answers.tasklet answers.event)
        (.code c) acts ∧ Run Move σ.core acts s' := by
  obtain ⟨-, hsecond, -⟩ := Answers.distinct hdistinct
  have hvalid : EventLoop.Valid σ.core
      (.handlerCreate timeoutTasklet startupEvent answers.tasklet answers.event) := by
    refine ⟨freshTasklet, freshEvent, fun heq => ?_⟩
    by_contra hne
    obtain ⟨block, hblock⟩ := Option.ne_none_iff_exists'.mp hne
    exact (hsecond block hblock).1 (heq ▸ hblock)
  obtain ⟨s', r, acts, hexec, heffect, run⟩ := handlerCreate_performs con.ground.owned hvalid
  obtain ⟨c, rfl, hcreate⟩ := handlerCreate_of_exec hexec
  refine ⟨s', c, acts, ?_, ⟨hvalid, hexec⟩, heffect, run⟩
  rw [startTimeoutTasklet, if_pos hid, hcreate]
  rfl

omit [NsList] in
/-- A registration leaves the timeouts alone as long as there are none. -/
lemma Consistent.same_of_register {σ : System} {building : Option Ptr}
    (con : σ.Consistent building) (hid : σ.timeoutTaskletId = -1) {tasklet : ArmCoreTasklet}
    {block p : Ptr} {A : Place} {v : SysTimerStruct} {s' : State}
    (run : Run Move σ.core [.register tasklet block, .relocate p A .queue v] s') :
    σ.Same { σ with core := s' } := by
  refine .of_run con.ground.owned con.timers run fun act hact => ?_
  simp only [List.mem_cons, List.not_mem_nil, or_false] at hact
  rcases hact with rfl | rfl
  · exact fun _ => trivial
  · exact fun _ => ⟨fun _ hB => absurd trivial hB, fun _ _ ht => ht.1 hid⟩

omit [NsList] in
/-- The timeout tasklet is registered. -/
lemma Consistent.registered {σ : System} {building : Option Ptr} (con : σ.Consistent building)
    (hid : σ.timeoutTaskletId = -1) (hlt : σ.core.armCoreTaskletList.length < 128)
    {newEvent : Option Ptr} {block p : Ptr} {A : Place} {allocator : Allocator} {s' : State}
    (hfun : ∀ t ∈ σ.core.armCoreTaskletList, t.funcPtr ≠ timeoutTasklet)
    (hsource : eventSource σ.core newEvent = some (p, A, allocator))
    (run : Run Move σ.core
      [.register { id := taskletGetFreeId σ.core, funcPtr := timeoutTasklet } block,
        .relocate p A .queue
          (written σ.core p (initEvent (taskletGetFreeId σ.core) startupEvent) allocator)] s') :
    Consistent { σ with core := s', timeoutTaskletId := taskletGetFreeId σ.core } building ∧
      σ.Same { σ with core := s', timeoutTaskletId := taskletGetFreeId σ.core } := by
  have own := con.ground.owned
  have deliverable := con.ground.deliverable
  -- nothing is a timeout's timer before, since the tasklet is not started, nor after
  have hbefore : ∀ q, ¬ σ.Timed q := fun q ht => ht.1 hid
  have hafter : ∀ q, Pending s' q → ¬ Timed { σ with
      core := s', timeoutTaskletId := taskletGetFreeId σ.core } q :=
    fun q hq ht => not_timed_of_register deliverable hlt run hq ht.2.1 ht.2.2
  have hquiet := con.same_of_register hid run
  have hsame : σ.Same { σ with core := s', timeoutTaskletId := taskletGetFreeId σ.core } := by
    refine ⟨rfl, hquiet.live, fun q => ?_, fun q _ ht => absurd ht (hbefore q),
      fun q _ ht => absurd ht (hbefore q), fun q _ ht => absurd ht (hbefore q)⟩
    exact iff_of_false (fun h => hafter q h.1 h.2) (fun h => hbefore q h.2)
  have hdeliverable : Deliverable s' := by
    refine deliverable.step own ?_ (.handlerCreate hfun hsource) run
    exact hlt
  simp only [Run.cons_iff, Run.nil_iff] at run
  obtain ⟨t, hregister, u, hfill, rfl⟩ := run
  refine ⟨⟨con.toPaired.same hsame, ?_⟩, hsame⟩
  refine Grounded.register (hid ▸ con.ground) ((own.preserved hregister).preserved hfill)
    hdeliverable ?_ hlt hfun ?_
  · exact Known.mono hfill (known_of_register deliverable.registered hlt hregister)
  · cases hfill with
    | relocate row =>
      rw [State.move_tasklets]
      cases hregister
      rfl

omit [NsList] in
/-- A registration takes the two blocks it was given, and no other. -/
lemma fresh_of_register {s s' : State} (own : Owned s) {newEvent : Option Ptr} {block p q : Ptr}
    {A : Place} {allocator : Allocator} {tasklet : ArmCoreTasklet} {v : SysTimerStruct}
    (hsource : eventSource s newEvent = some (p, A, allocator))
    (run : Run Move s [.register tasklet block, .relocate p A .queue v] s') (fresh : Fresh s q)
    (hevent : newEvent ≠ some q) (hblock : q ≠ block) : Fresh s' q := by
  have hothers : Others p s s' := .of_run run (by simp [Act.On])
  have hqp : q ≠ p := by
    rintro rfl
    obtain ⟨a, rfl⟩ := fresh.isHeap
    exact hevent (eventSource_heap own hsource)
  refine fresh.others own hothers hqp ?_
  simp only [Run.cons_iff, Run.nil_iff] at run
  obtain ⟨t, hregister, u, hfill, rfl⟩ := run
  cases hfill with
  | relocate row =>
    rw [State.move_heap, Function.update_of_ne hqp]
    cases hregister
    simpa [hblock] using fresh.free

omit [NsList] in
/-- The timeout tasklet is not running and cannot be started. -/
def NoTasklet (σ : System) (answers : Answers) : Prop :=
  σ.timeoutTaskletId = -1 ∧
    (answers.tasklet = none ∨ eventSource σ.core answers.event = none)

omit [NsList] in
/-- Nothing can be allocated for a timeout. -/
def Refuses (σ : System) (answers : Answers) : Prop :=
  answers.timeout = none ∨ σ.NoTasklet answers ∨ timerSource σ.core answers.timer = none

omit [NsList] in
instance (σ : System) (answers : Answers) : Decidable (σ.NoTasklet answers) :=
  inferInstanceAs (Decidable (_ ∧ (_ ∨ _)))

omit [NsList] in
instance (σ : System) (answers : Answers) : Decidable (σ.Refuses answers) :=
  inferInstanceAs (Decidable (_ ∨ _ ∨ _))

/-- `startTimeoutTasklet` leaves the timeouts alone, whether it starts the tasklet, finds it
started, or fails. -/
lemma Consistent.startTasklet {σ : System} {building : Option Ptr} (con : σ.Consistent building)
    {answers : Answers} (freshTasklet : FreshAnswer σ.core answers.tasklet)
    (freshEvent : FreshAnswer σ.core answers.event) (freshTimer : FreshAnswer σ.core answers.timer)
    (hdistinct : answers.toList.Nodup)
    (hlen : σ.timeoutTaskletId = -1 → σ.core.armCoreTaskletList.length < 128) :
    ∃ σ', startTimeoutTasklet answers σ = .ok σ' ∧ σ'.Consistent building ∧ σ.Same σ' ∧
      σ'.core.running = σ.core.running ∧ σ'.locals = σ.locals ∧
      FreshAnswer σ'.core answers.timer ∧ LeadsBy Op.Builds σ.core σ'.core ∧
      σ'.core.systemTimerFree = σ.core.systemTimerFree ∧
      (σ'.timeoutTaskletId = -1 ↔ σ.NoTasklet answers) := by
  by_cases hid : σ.timeoutTaskletId = -1
  · obtain ⟨-, hsecond, hthird⟩ := Answers.distinct hdistinct
    obtain ⟨s', c, acts, hstart, hstep, heffect, run⟩ :=
      con.registers freshTasklet freshEvent hdistinct hid
    have hrunning := heffect.running run (by simp) (by simp)
    generalize htasklet : answers.tasklet = newTasklet at heffect
    cases heffect with
    | handlerCreateDuplicate ht hfun =>
      -- the timeout tasklet would be registered under the id -1
      have hdup := (con.ground.tasklet _ ht).mp hfun
      exact absurd (hdup.trans hid) (con.ground.deliverable.valid _ ht)
    | handlerCreateFull hfull =>
      obtain rfl := Run.nil_iff.mp run
      refine ⟨σ, hstart.trans ?_, con, .refl σ, rfl, rfl, freshTimer, .refl _, rfl,
        iff_of_true hid ⟨hid, htasklet ▸ hfull⟩⟩
      rw [if_pos (by decide), ← hid]
    | @handlerCreate _ _ block _ p A allocator hfun hsource =>
      obtain ⟨hcon, hsame⟩ := con.registered hid (hlen hid) hfun hsource run
      have hnew : (if (BitVec.ofInt 8 (taskletGetFreeId σ.core).toInt).toInt < 0 then -1
          else BitVec.ofInt 8 (taskletGetFreeId σ.core).toInt) = taskletGetFreeId σ.core := by
        have hlt := hlen hid
        obtain ⟨hle, -⟩ := con.ground.deliverable.registered.freeId
          (by simp only [int8Max]; omega)
        rw [BitVec.ofInt_toInt, if_neg (by rw [toInt_of_le hle]; omega)]
      have hnext : taskletGetFreeId σ.core ≠ -1 := fun h =>
        con.ground.freeId_ne (hlen hid) (h.trans hid.symm)
      refine ⟨_, by rw [hstart, hnew], hcon, hsame, hrunning, rfl, fun q hq => ?_,
        .of_step hstep (hlen hid) trivial, ?_, iff_of_false hnext fun h => ?_⟩
      rotate_left
      · simp only [Run.cons_iff, Run.nil_iff] at run
        obtain ⟨s₁, hregister, s₂, hsend, rfl⟩ := run
        cases hregister
        cases hsend with
        | relocate row =>
          rw [State.move_timerFree, if_neg (eventSource_ne_timerFree hsource)]
          rfl
      · simp [NoTasklet, hsource, htasklet] at h
      refine fresh_of_register con.ground.owned hsource run (freshTimer q hq)
        (fun h => hthird q h hq) ?_
      rintro rfl
      exact (hsecond q htasklet).2 hq
  · exact ⟨σ, by rw [startTimeoutTasklet, if_neg hid], con, .refl σ, rfl, rfl, freshTimer,
      .refl _, rfl, iff_of_false hid fun h => hid h.1⟩

/-! ## Requesting the timer -/

omit [NsList] in
/-- A request that fails does nothing. -/
lemma requested_none {s s' : State} {event : ArmEvent} {at_ period : BitVec 32}
    {answer : Option Ptr} {acts : List Act} (h : Requested s event at_ period answer none acts)
    (run : Run Move s acts s') : s' = s := by
  cases h <;> exact Run.nil_iff.mp run

/-- The request of a timeout's timer. -/
def timeoutRequest (timeoutTaskletId : BitVec 8) (timeout : Ptr) (at_ period : BitVec 32)
    (answer : Option Ptr) : Op :=
  if period = 0 then .requestAt (timeoutEvent timeoutTaskletId timeout) at_ answer
  else .requestEvery (timeoutEvent timeoutTaskletId timeout) period answer

omit [NsList] in
lemma timeoutRequest_spec (id : BitVec 8) (timeout : Ptr) (at_ period : BitVec 32)
    (answer : Option Ptr) (s : State) :
    (timeoutRequest id timeout at_ period answer).Builds ∧
      AddressedOp s (timeoutRequest id timeout at_ period answer) ∧
      (EventLoop.Valid s (timeoutRequest id timeout at_ period answer) ↔ FreshAnswer s answer) ∧
      timeoutRequest id timeout at_ period answer ≠ .dispatch ∧
      timeoutRequest id timeout at_ period answer ≠ .handlerReturn ∧
      ∀ f ty a b, timeoutRequest id timeout at_ period answer ≠ .handlerCreate f ty a b := by
  unfold timeoutRequest
  split <;> simp [Op.Builds, AddressedOp, EventLoop.Valid]

lemma exec_timeoutRequest (timeout : Ptr) (at_ period : BitVec 32) (answers : Answers)
    (σ : System) :
    EventLoop.exec (timeoutRequest σ.timeoutTaskletId timeout at_ period answers.timer) σ.core
      = (do
        let (s, p) ← requestTimeout timeout at_ period answers σ
        .ok (s, .handle p)) := by
  by_cases hperiod : period = 0
  · simp only [timeoutRequest, requestTimeout, hperiod, ne_eq, not_true_eq_false, ↓reduceIte]
    rfl
  · simp only [timeoutRequest, requestTimeout, hperiod, ne_eq, not_false_eq_true, ↓reduceIte]
    rfl

omit [NsList] in
/-- What a request of a timeout's timer does. -/
lemma timeoutRequest_effect {s : State} {id : BitVec 8} {timeout : Ptr} {at_ period : BitVec 32}
    {answer r : Option Ptr} {acts : List Act}
    (h : Effect s (timeoutRequest id timeout at_ period answer) (.handle r) acts) :
    (acts = [] ∧ r = none ∧ period.toInt < 0) ∨
      Requested s (timeoutEvent id timeout) (if period = 0 then at_ else s.timerSysTicks + period)
        period answer r acts := by
  unfold timeoutRequest at h
  split at h
  · next hperiod =>
    subst hperiod
    cases h with
    | requestAt h => exact Or.inr h
  · next hperiod =>
    cases h with
    | requestEvery _ h => exact Or.inr (by rwa [if_neg hperiod])
    | requestEveryFail hsign =>
      have hne : period.toInt ≠ 0 := fun h =>
        hperiod (BitVec.eq_of_toInt_eq (by simpa using h))
      exact Or.inl ⟨rfl, rfl, by omega⟩

/-- The timer of a timeout is requested, now or one period ahead. -/
lemma requestTimeout_spec {σ : System} (ground : Grounded σ.core σ.timeoutTaskletId)
    {answers : Answers} (fresh : FreshAnswer σ.core answers.timer) (timeout : Ptr)
    (at_ period : BitVec 32) : ∃ s' r,
    requestTimeout timeout at_ period answers σ = .ok (s', r) ∧
      Step σ.core (timeoutRequest σ.timeoutTaskletId timeout at_ period answers.timer, .handle r)
        s' ∧
      Grounded s' σ.timeoutTaskletId ∧ s'.running = σ.core.running ∧
      (r = none → s' = σ.core) ∧ ∀ p, r = some p → ∃ first acts,
        Requested σ.core (timeoutEvent σ.timeoutTaskletId timeout) first period answers.timer
          (some p) acts ∧ Run Move σ.core acts s' := by
  obtain ⟨-, hop, hvalid, hdispatch, hreturn, hcreate⟩ :=
    timeoutRequest_spec σ.timeoutTaskletId timeout at_ period answers.timer σ.core
  obtain ⟨s', ret, hexec⟩ := ground.deliverable.exec_ok ground.owned (hvalid.mpr fresh)
  rw [exec_timeoutRequest] at hexec
  cases hrequest : requestTimeout timeout at_ period answers σ with
  | error => simp [hrequest] at hexec
  | ok result =>
    obtain ⟨s', r⟩ := result
    have hstep : Step σ.core
        (timeoutRequest σ.timeoutTaskletId timeout at_ period answers.timer, .handle r) s' := by
      refine ⟨hvalid.mpr fresh, ?_⟩
      rw [exec_timeoutRequest, hrequest]
      rfl
    obtain ⟨acts, heffect, run⟩ := hstep.effect ground.owned
    refine ⟨s', r, rfl, hstep, ground.step hstep hop fun f ty a b h => absurd h (hcreate f ty a b),
      heffect.running run hdispatch hreturn, ?_⟩
    rcases timeoutRequest_effect heffect with ⟨rfl, rfl, -⟩ | hreq
    · exact ⟨fun _ => Run.nil_iff.mp run, by simp⟩
    · constructor
      · rintro rfl
        exact requested_none hreq run
      · rintro p rfl
        exact ⟨_, acts, hreq, run⟩

/-! ## Creation -/

omit [NsList] in
/-- The contents of a block that is being built do not matter yet. -/
lemma Consistent.fill {σ : System} {t : Ptr} (con : σ.Consistent (some t)) (entry : TimeoutEntry) :
    Consistent { σ with entries := Function.update σ.entries t entry } (some t) where
  timers := con.timers
  points p hp ht := by
    obtain ⟨u, hdata, hlive, hb, hentry⟩ := con.points p hp ht
    have hut : u ≠ t := fun h => hb (h ▸ rfl)
    exact ⟨u, hdata, hlive, hb, by simpa [hut] using hentry⟩
  waits := con.waits
  ground := con.ground

/-- What is recorded of a timeout when it is created. -/
def recorded (r : Option Ptr) (value : Bool) (f : Ptr → Bool) : Ptr → Bool :=
  match r with
  | none => f
  | some t => Function.update f t value

/-- The exit `FAIL`: no block and no timer is left. -/
lemma Consistent.fail {σ : System} {t : Ptr} (con : σ.Consistent (some t)) (ht : σ.Live t) :
    failTimeout t σ = .ok ({ σ with core :=
      { σ.core with heap := Function.update σ.core.heap t none } }, none) ∧
    Consistent { σ with core := { σ.core with heap := Function.update σ.core.heap t none } }
      none ∧
    LeadsBy Op.Builds σ.core { σ.core with heap := Function.update σ.core.heap t none } := by
  obtain ⟨hfree, hstep⟩ := free_step ht
  refine ⟨?_, con.abandon ht, .of_step hstep trivial trivial⟩
  rw [failTimeout, hfree]
  rfl

/-- The block that is being built gets its timer, or is given back. -/
lemma Consistent.arm {σ : System} {t : Ptr} (con : σ.Consistent (some t)) (stacked : σ.Stacked)
    (ht : σ.Live t) {answers : Answers} (fresh : FreshAnswer σ.core answers.timer)
    (entry : TimeoutEntry) (at_ period : BitVec 32) :
    ∃ σ' r, armTimeout t entry at_ period answers σ = .ok (σ', r) ∧
      σ'.Consistent none ∧ σ'.Stacked ∧
      (∀ u, σ'.Live u ↔ u ≠ t ∧ σ.Live u ∨ r = some u) ∧ (∀ u, r = some u → u = t) ∧
      (r = none → ∀ p, Pending σ'.core p ∧ σ'.Timed p ↔ Pending σ.core p ∧ σ.Timed p) ∧
      (∀ oneShot cancelled, σ.Kinds oneShot cancelled →
        σ'.Kinds (recorded r (decide (period = 0)) oneShot) (recorded r false cancelled)) ∧
      LeadsBy Op.Builds σ.core σ'.core ∧ (∀ u, u ≠ t → σ'.entries u = σ.entries u) ∧
      (r = some t → ∃ p, σ'.entries t = { entry with event := some p } ∧
        Step σ.core (timeoutRequest σ'.timeoutTaskletId t at_ period answers.timer,
          .handle (some p)) σ'.core) ∧
      (0 ≤ period.toInt →
        (r = none ↔ σ.timeoutTaskletId = -1 ∨ timerSource σ.core answers.timer = none)) := by
  have hfailed : ∀ u, Function.update σ.core.heap t none u = some HeapObject.timeout ↔
      u ≠ t ∧ σ.Live u := by
    intro u
    by_cases hut : u = t
    · simp [hut]
    · simp [hut, Live]
  -- no tasklet could be created: the block is freed and `NULL` returned
  by_cases hid : σ.timeoutTaskletId = -1
  · obtain ⟨hfail, hcon, hleads⟩ := con.fail ht
    refine ⟨_, none, by rw [armTimeout, if_pos hid, hfail], hcon, stacked, fun u => ?_, by simp,
      fun _ _ => Iff.rfl, fun _ _ kinds => kinds, hleads, fun _ _ => rfl, by simp,
      fun _ => iff_of_true rfl (Or.inl hid)⟩
    exact (hfailed u).trans (by simp)
  · obtain ⟨s', r, hrequest, hstep, hground, hrunning, hnone, hsome⟩ :=
      requestTimeout_spec con.ground fresh t at_ period
    obtain ⟨hbuilds, hop, -⟩ :=
      timeoutRequest_spec σ.timeoutTaskletId t at_ period answers.timer σ.core
    -- a nonnegative period is refused only when there is no timer left
    have hrefused : 0 ≤ period.toInt → (r = none ↔ timerSource σ.core answers.timer = none) := by
      intro hsign
      obtain ⟨acts, heffect, -⟩ := hstep.effect con.ground.owned
      have hknown : (eventTaskletHandlerGet (timeoutEvent σ.timeoutTaskletId t).receiver
          σ.core).isSome := con.ground.known hid
      rcases timeoutRequest_effect heffect with ⟨-, hr, hneg⟩ | hreq
      · omega
      · cases hreq with
        | unknown hreceiver => simp [hreceiver] at hknown
        | full hsource => exact iff_of_true rfl hsource
        | fire _ hsource | arm _ hsource => simp [hsource]
    cases r with
    | none =>
      -- the request failed, and `event` is `NULL` when the block is freed
      obtain rfl := hnone rfl
      obtain ⟨hfail, hcon, hleads⟩ := (con.fill { entry with event := none }).fail ht
      refine ⟨_, none, ?_, hcon, stacked, fun u => ?_, by simp, fun _ _ => Iff.rfl,
        fun _ _ kinds => kinds, hleads, fun u hu => ?_, by simp,
        fun hsign => iff_of_true rfl (Or.inr ((hrefused hsign).mp rfl))⟩
      · rw [armTimeout, if_neg hid, hrequest]
        exact hfail
      · exact (hfailed u).trans (by simp)
      · exact Function.update_of_ne hu _ _
    | some p =>
      obtain ⟨first, acts, hreq, run⟩ := hsome p rfl
      obtain ⟨hcon, hlive, hnew, hothers, hkinds⟩ := con.add ht hground hid hreq run entry
      refine ⟨_, some t, ?_, hcon, stacked.congr rfl hrunning fun q hq => ?_, fun u => ?_,
        fun u hu => (Option.some.inj hu).symm, by simp, hkinds, .of_step hstep hop hbuilds,
        fun u hu => Function.update_of_ne hu _ _,
        fun _ => ⟨p, Function.update_self _ _ _, hstep⟩, fun hsign => ?_⟩
      · rw [armTimeout, if_neg hid, hrequest]
        rfl
      -- a running handler was there before, so it is not the one of the new timer
      · have hpending : Pending σ.core q := Or.inr (Or.inr hq)
        have hpending' : Pending s' q := Or.inr (Or.inr (hrunning.symm ▸ hq))
        have hqp : q ≠ p := fun h => hnew (h ▸ hpending)
        exact ⟨fun h => ((hothers q hqp).mp ⟨hpending', h⟩).2,
          fun h => ((hothers q hqp).mpr ⟨hpending, h⟩).2⟩
      · refine (hlive u).trans ?_
        by_cases hut : u = t
        · simp [hut, ht]
        · simp [hut, Ne.symm hut]
      · have hsource := (hrefused hsign).not.mp (by simp)
        exact iff_of_false (by simp) fun h => h.elim hid hsource

/-- What `eventOS_timeout_at_` does, whether it returns a handle or `NULL`. -/
structure Creates (σ σ' : System) (callback : Option FuncPtr) (arg : ℕ) (at_ period : BitVec 32)
    (answers : Answers) (r : Option Ptr) : Prop where
  consistent : σ'.Consistent none
  stacked : σ'.Stacked
  live : ∀ u, σ'.Live u ↔ σ.Live u ∨ r = some u
  new : ∀ t, r = some t → ¬ σ.Live t
  failed : r = none → ∀ p, Pending σ'.core p ∧ σ'.Timed p ↔ Pending σ.core p ∧ σ.Timed p
  kinds : ∀ oneShot cancelled, σ.Kinds oneShot cancelled →
    σ'.Kinds (recorded r (decide (period = 0)) oneShot) (recorded r false cancelled)
  leads : LeadsBy Op.Builds σ.core σ'.core
  entries : ∀ u, σ.Live u → σ'.entries u = σ.entries u
  /-- the timer is requested last -/
  built : ∀ t, r = some t → ∃ s₁ p,
    σ'.entries t = { callback := callback, arg := arg, event := some p } ∧
    LeadsBy Op.Builds σ.core s₁ ∧
    Step s₁ (timeoutRequest σ'.timeoutTaskletId t at_ period answers.timer, .handle (some p))
      σ'.core
  refused : 0 ≤ period.toInt → (r = none ↔ σ.Refuses answers)

/-- `eventOS_timeout_at_` either creates a timeout or leaves everything as it was. -/
lemma Consistent.timeoutAt {σ : System} (con : σ.Consistent none) (stacked : σ.Stacked)
    {answers : Answers} (fresh : ∀ p ∈ answers.toList, Fresh σ.core p)
    (hdistinct : answers.toList.Nodup)
    (hlen : σ.timeoutTaskletId = -1 → σ.core.armCoreTaskletList.length < 128)
    (callback : Option FuncPtr) (arg : ℕ) (at_ period : BitVec 32) :
    ∃ σ' r, eventOSTimeoutAt_ callback arg at_ period answers σ = .ok (σ', r) ∧
      σ.Creates σ' callback arg at_ period answers r := by
  cases htimeout : answers.timeout with
  | none =>
    exact ⟨σ, none, by simp only [eventOSTimeoutAt_, htimeout],
      { consistent := con
        stacked := stacked
        live := by simp
        new := by simp
        failed := by simp
        kinds := fun _ _ kinds => kinds
        leads := .refl _
        entries := fun _ _ => rfl
        built := by simp
        refused := fun _ => iff_of_true rfl (Or.inl htimeout) }⟩
  | some t =>
    -- the block is allocated, then the tasklet is created, and the timer is requested last
    have hfresh : Fresh σ.core t := fresh t (Answers.mem_toList (by simp) htimeout)
    have hdead : ¬ σ.Live t := by simp [Live, hfresh.free]
    obtain ⟨hfirst, -, -⟩ := Answers.distinct hdistinct
    obtain ⟨hnetasklet, hneevent, hnetimer⟩ := hfirst t htimeout
    obtain ⟨σ₁, hstart, hcon, hsame, hrunning, hlocals, htimer, hleads, hfree, hno⟩ :=
      (con.begin hfresh { callback := callback, arg := arg
                          event := (σ.entries t).event }).startTasklet
        (Answers.fresh_of_alloc fresh (by simp) hnetasklet)
        (Answers.fresh_of_alloc fresh (by simp) hneevent)
        (Answers.fresh_of_alloc fresh (by simp) hnetimer)
        hdistinct hlen
    have hlive : ∀ u, σ₁.Live u ↔ u = t ∨ σ.Live u := by
      intro u
      rw [hsame.live u]
      by_cases hut : u = t
      · simp [hut, Live]
      · simp [hut, Live]
    have hstacked : σ₁.Stacked := by
      refine stacked.congr hlocals hrunning fun p hp => ?_
      exact hsame.timed hp (hrunning.symm ▸ hp)
    obtain ⟨σ', r, harm, hcon', hstacked', hlive', hr, htimers, hkinds, hleads', hentries, hbuilt,
        hrefused⟩ :=
      hcon.arm hstacked ((hlive t).mpr (Or.inl rfl)) htimer
        { callback := callback, arg := arg, event := (σ.entries t).event } at_ period
    have hbegin : LeadsBy Op.Builds σ.core { σ.core with
        heap := Function.update σ.core.heap t (some .timeout) } :=
      .of_step (alloc_step hfresh) trivial trivial
    refine ⟨σ', r, ?_, hcon', hstacked', fun u => ?_, ?_, fun hnone p => ?_,
      fun oneShot cancelled kinds => ?_, (hbegin.trans hleads).trans hleads', fun u hu => ?_,
      fun u hu => ?_, fun hsign => ?_⟩
    · simp only [eventOSTimeoutAt_, htimeout, nsDynMemAlloc, hstart, ok_bind]
      exact harm
    · rw [hlive' u, hlive u]
      by_cases hut : u = t
      · subst hut
        simp [hdead]
      · simp [hut]
    · rintro u hu
      rw [hr u hu]
      exact hdead
    · rw [htimers hnone p]
      exact hsame.pending p
    · refine hkinds oneShot cancelled (Kinds.same ?_ hsame)
      exact kinds
    · have hut : u ≠ t := fun h => hdead (h ▸ hu)
      rw [hentries u hut, hsame.entries]
      exact Function.update_of_ne hut _ _
    · obtain rfl := hr u hu
      obtain ⟨p, hentry, hstep⟩ := hbuilt hu
      exact ⟨σ₁.core, p, hentry, hbegin.trans hleads, hstep⟩
    · rw [hrefused hsign, hno, Refuses, htimeout]
      simp only [reduceCtorEq, false_or]
      refine or_congr Iff.rfl ?_
      rw [timerSource, timerSource, hfree]

/-! ## Giving up a timeout -/

omit [NsList] in
/-- The timer of a timeout is given back and its block is freed. -/
lemma Consistent.remove {σ : System} (con : σ.Consistent none) {t p : Ptr} {s' : State}
    (hentry : (σ.entries t).event = some p) (hdata : (σ.core.event p).data.dataPtr = some t)
    (ground : Grounded s' σ.timeoutTaskletId) (hothers : Others p σ.core s')
    (hgone : ¬ Pending s' p) (hheap : ∀ u, s'.heap u = some .timeout ↔ u ≠ t ∧ σ.Live u) :
    Consistent { σ with core := s' } none ∧ ∀ oneShot cancelled value,
      σ.Kinds oneShot cancelled →
        Kinds { σ with core := s' } oneShot (Function.update cancelled t value) := by
  have hevent : ∀ q, q ≠ p → s'.event q = σ.core.event q := fun q hq => by
    simp only [State.event, hothers.mem q hq]
  have hne : ∀ q, Pending s' q → q ≠ p := by
    rintro q hq rfl
    exact hgone hq
  -- another timer belongs to another block
  have hother : ∀ q u, q ≠ p → Pending σ.core q → σ.Timed q →
      (σ.core.event q).data.dataPtr = some u → u ≠ t := by
    rintro q u hqp hq hqt hu rfl
    obtain ⟨w, hw, -, -, hback⟩ := con.points q hq hqt
    obtain rfl : w = u := Option.some.inj (hw.symm.trans hu)
    exact hqp (Option.some.inj (hback.symm.trans hentry))
  refine ⟨⟨⟨fun q hq hqt => ?_, fun q hq hqt => ?_, fun u hu _ => ?_⟩, ground⟩,
    fun oneShot cancelled value kinds q u hq hqt hu => ?_⟩
  · have hqp := hne q hq
    rw [hothers.classOf q hqp]
    simp only [Timed, hevent q hqp] at hqt
    exact con.timers q ((hothers.pending q hqp).mp hq) hqt
  · have hqp := hne q hq
    simp only [Timed, hevent q hqp] at hqt
    have hq' := (hothers.pending q hqp).mp hq
    obtain ⟨u, hu, hlive, -, hback⟩ := con.points q hq' hqt
    refine ⟨u, by rw [hevent q hqp, hu], ?_, by simp, hback⟩
    exact (hheap u).mpr ⟨hother q u hqp hq' hqt hu, hlive⟩
  · obtain ⟨hut, hlive⟩ := (hheap u).mp hu
    obtain ⟨q, hq, hqt, hqu⟩ := con.waits u hlive (by simp)
    have hqp : q ≠ p := by
      rintro rfl
      exact hut (Option.some.inj (hqu.symm.trans hdata))
    refine ⟨q, (hothers.pending q hqp).mpr hq, ?_, by rw [hevent q hqp, hqu]⟩
    show σ.TimesOut (s'.event q).data
    rw [hevent q hqp]
    exact hqt
  · have hqp := hne q hq
    simp only [Timed, hevent q hqp] at hqt hu
    have hq' := (hothers.pending q hqp).mp hq
    have hut := hother q u hqp hq' hqt hu
    simpa [hothers.mem q hqp, hut] using kinds q u hq' hqt hu

omit [NsList] in
/-- A storage that moves is not a `timeout_t`. -/
lemma live_of_relocate {s s' : State} {p : Ptr} {A B : Place} {v : SysTimerStruct}
    (move : Move s (.relocate p A B v) s') (u : Ptr) :
    s'.heap u = some .timeout ↔ s.heap u = some .timeout := by
  cases move with
  | relocate row =>
    rw [State.move_heap]
    by_cases hup : u = p
    · subst hup
      rw [Function.update_self]
      exact row.timeout_iff
    · rw [Function.update_of_ne hup]

omit [NsList] in
/-- A timer that is cancelled before its handler runs is free. -/
lemma cancelled_timer {s s' : State} (own : Owned s) {p : Ptr} (hp : Pending s p)
    (hrun : p ∉ s.running) (hclass : s.classOf p = .timer)
    (run : Run Move s (cancelActs s p) s') :
    (∀ act ∈ cancelActs s p, act.On p ∧ act.Unstacked) ∧ ¬ Pending s' p ∧
      (s'.event p).state = .unqueued ∧
      ∀ u, s'.heap u = some .timeout ↔ s.heap u = some .timeout := by
  obtain ⟨A, v, hact, hstate⟩ : ∃ A v, cancelActs s p = [.relocate p A .timerFree v] ∧
      A ≠ .running := by
    unfold cancelActs
    by_cases hqueue : p ∈ s.eventQueueActive
    · simp [hqueue, hclass]
    · have hlist : p ∈ s.systemTimerList := (hp.resolve_left hqueue).resolve_right hrun
      simp [hqueue, hlist]
  rw [hact] at run ⊢
  simp only [Run.cons_iff, Run.nil_iff] at run
  obtain ⟨u, move, rfl⟩ := run
  have own' := own.preserved move
  have hmem : p ∈ s'.at_ .timerFree := by
    cases move with
    | relocate row => simp [State.at_, State.move_timerFree]
  have hclass' : s'.classOf p = .timer := own'.admits .timerFree p hmem
  refine ⟨by simp [Act.On, Act.Unstacked, hstate],
    own'.not_pending (A := .timerFree) id hmem (by simp [hclass']), own'.tag _ p hmem,
    live_of_relocate move⟩

omit [NsList] in
/-- A timer that is cancelled while its handler runs stays, but is not periodic any more. -/
lemma Consistent.unperiod {σ : System} (con : σ.Consistent none) (stacked : σ.Stacked)
    {t p : Ptr} {s' : State} (move : Move σ.core (.unperiod p) s')
    (ground : Grounded s' σ.timeoutTaskletId) (hentry : (σ.entries t).event = some p)
    (hdata : (σ.core.event p).data.dataPtr = some t) :
    Consistent { σ with core := s' } none ∧ Stacked { σ with core := s' } ∧
      ∀ oneShot cancelled, σ.Kinds oneShot cancelled →
        Kinds { σ with core := s' } oneShot (Function.update cancelled t true) := by
  have still := move.still (by simp)
  cases move with
  | unperiod hp hclass =>
    have htimed : ∀ q, Timed { σ with core := σ.core.setPeriod p 0 } q ↔ σ.Timed q := by
      intro q
      simp only [Timed, State.setPeriod_event]
      exact Iff.rfl
    refine ⟨⟨⟨fun q hq hqt => ?_, fun q hq hqt => ?_, fun u hu hb => ?_⟩, ground⟩,
      stacked.congr rfl rfl fun q _ => htimed q, fun oneShot cancelled kinds q u hq hqt hu => ?_⟩
    · rw [still.classOf q]
      exact con.timers q hq ((htimed q).mp hqt)
    · rw [State.setPeriod_event]
      exact con.points q hq ((htimed q).mp hqt)
    · obtain ⟨q, hq, hqt, hqu⟩ := con.waits u hu hb
      exact ⟨q, hq, (htimed q).mpr hqt, by rw [State.setPeriod_event, hqu]⟩
    · rw [State.setPeriod_event] at hu
      have hqt := (htimed q).mp hqt
      obtain ⟨w, hw, -, -, hback⟩ := con.points q hq hqt
      obtain rfl : w = u := Option.some.inj (hw.symm.trans hu)
      by_cases hqp : q = p
      · subst hqp
        obtain rfl : t = w := Option.some.inj (hdata.symm.trans hu)
        simp [State.setPeriod, State.store]
      · have hwt : w ≠ t := by
          rintro rfl
          exact hqp (Option.some.inj (hback.symm.trans hentry))
        simpa [State.setPeriod, State.store, hqp, hwt] using kinds q w hq hqt hu

/-- `eventOS_timeout_cancel` of a live `timeout_t` frees it, unless its callback is running. -/
lemma Consistent.cancel {σ : System} (con : σ.Consistent none) (stacked : σ.Stacked) {t : Ptr}
    (ht : σ.Live t) : ∃ σ' p, (σ.entries t).event = some p ∧
      eventOSTimeoutCancel (some t) σ = .ok σ' ∧ σ'.Consistent none ∧ σ'.Stacked ∧
      (∀ u, σ'.Live u ↔ σ.Live u ∧ (u = t → p ∈ σ.core.running)) ∧
      (∀ oneShot cancelled, σ.Kinds oneShot cancelled →
        σ'.Kinds oneShot (Function.update cancelled t true)) ∧
      LeadsBy (Op.GivesUp (some p)) σ.core σ'.core ∧ σ'.entries = σ.entries := by
  obtain ⟨p, hentry, hp, htimed, hdata⟩ := con.timer ht (by simp)
  have own := con.ground.owned
  have hclass := con.timers p hp htimed
  have hvalid : ValidEvent σ.core p := by
    rcases hp with hq | hl | hr
    · exact Or.inl hq
    · exact Or.inr (Or.inl hl)
    · exact Or.inr (Or.inr ⟨hr, by simp [hclass]⟩)
  obtain ⟨s₁, hcancel, run⟩ := eventOSCancel_valid own hvalid
  have hstep : Step σ.core (.cancel (some p), .void) s₁ :=
    ⟨fun q hq => Option.some.inj hq ▸ hvalid, by simp only [EventLoop.exec, hcancel, ok_bind]⟩
  have hground : Grounded s₁ σ.timeoutTaskletId := con.ground.step hstep trivial (by simp)
  -- while its callback runs the timer only loses its period: the dispatcher frees the block
  by_cases hrun : p ∈ σ.core.running
  · have hqueue : p ∉ σ.core.eventQueueActive := fun h =>
      own.notMem_running (A := .queue) h (by decide) (by simp [hclass]) hrun
    have hlist : p ∉ σ.core.systemTimerList := fun h =>
      own.notMem_running (A := .timerList) h (by decide) (by simp [hclass]) hrun
    simp only [cancelActs, hqueue, hlist, hclass, ↓reduceIte, Run.cons_iff, Run.nil_iff] at run
    obtain ⟨s₁, move, rfl⟩ := run
    obtain ⟨hcon, hstacked, hkinds⟩ := con.unperiod stacked move hground hentry hdata
    have hstate : (s₁.event p).state = .running := by
      rw [(move.still (by simp)).state p]
      exact own.tag .running p (by simp [State.at_, hrun, hclass])
    refine ⟨_, p, hentry, ?_, hcon, hstacked, fun u => ?_, hkinds, .of_step hstep trivial rfl, rfl⟩
    · simp only [eventOSTimeoutCancel, if_pos ht, hentry, hcancel, ok_bind, hstate, ne_eq,
        not_true_eq_false, ↓reduceIte]
    · cases move
      simp [Live, hrun, State.setPeriod, State.store]
  -- elsewhere the timer is given back at once, and the block after it
  · obtain ⟨hacts, hgone, hstate, hlive⟩ := cancelled_timer own hp hrun hclass run
    have ht₁ : s₁.heap t = some .timeout := (hlive t).mpr ht
    obtain ⟨hfree, hstep'⟩ := free_step ht₁
    have hothers : Others p σ.core { s₁ with heap := Function.update s₁.heap t none } :=
      (Others.of_run run fun act hact => (hacts act hact).1).trans
        ((Move.clientFree ht₁).others trivial)
    have hheap : ∀ u, Function.update s₁.heap t none u = some HeapObject.timeout ↔
        u ≠ t ∧ σ.Live u := by
      intro u
      by_cases hut : u = t
      · simp [hut]
      · rw [Function.update_of_ne hut, hlive u]
        exact (and_iff_right hut).symm
    obtain ⟨hcon, hkinds⟩ := con.remove hentry hdata (hground.step hstep' trivial (by simp))
      hothers hgone hheap
    have hrunning := running_of_run run fun act hact => (hacts act hact).2
    refine ⟨_, p, hentry, ?_, hcon, stacked.congr rfl hrunning fun q hq => ?_, fun u => ?_,
      fun oneShot cancelled => hkinds oneShot cancelled true,
      (LeadsBy.of_step (P := Op.GivesUp (some p)) hstep trivial rfl).trans
        (.of_step hstep' trivial trivial), rfl⟩
    · simp only [eventOSTimeoutCancel, if_pos ht, hentry, hcancel, ok_bind, hstate, ne_eq,
        reduceCtorEq, not_false_eq_true, ↓reduceIte, hfree]
    · have hqp : q ≠ p := fun h => hrun (h ▸ hq)
      show σ.TimesOut (s₁.mem q).event.data ↔ _
      rw [hothers.mem q hqp]
      exact Iff.rfl
    · refine (hheap u).trans ?_
      by_cases hut : u = t <;> simp [hut, hrun]

/-! ## The return of a handler -/

omit [NsList] in
/-- The handlers in progress when one has returned. -/
lemma finish_running {s s' : State} {p : Ptr} {rest : List Ptr} (hrun : s.running = p :: rest)
    (run : Run Move s [finishAct s p, .active 0] s') : s'.running = rest := by
  simp only [Run.cons_iff, Run.nil_iff] at run
  obtain ⟨t, hfinish, u, hactive, rfl⟩ := run
  have htail := finishAct_running hrun hfinish
  cases hactive
  exact htail

omit [NsList] in
/-- A one-shot timer is free when its handler has returned. -/
lemma finished_timer {s s' : State} (own : Owned s) {p : Ptr}
    (hclass : s.classOf p = .timer) (hperiod : (s.mem p).period = 0)
    (run : Run Move s [finishAct s p, .active 0] s') :
    Others p s s' ∧ ¬ Pending s' p ∧ ∀ u, s'.heap u = some .timeout ↔ s.heap u = some .timeout := by
  have hact : finishAct s p = .relocate p .running .timerFree ((s.mem p).tagged .timerFree) := by
    simp [finishAct, hclass, hperiod]
  rw [hact] at run
  have hothers : Others p s s' := .of_run run (by simp [Act.On])
  simp only [Run.cons_iff, Run.nil_iff] at run
  obtain ⟨t, hfinish, u, hactive, rfl⟩ := run
  have own' := own.preserved hfinish
  have hmem : p ∈ t.at_ .timerFree := by
    cases hfinish with
    | relocate row => simp [State.at_, State.move_timerFree]
  have hclass' : t.classOf p = .timer := own'.admits .timerFree p hmem
  have hgone := own'.not_pending (A := .timerFree) id hmem (by simp [hclass'])
  have hlive := live_of_relocate hfinish
  cases hactive
  exact ⟨hothers, hgone, hlive⟩

omit [NsList] in
/-- The locals play no part in the invariant. -/
lemma Consistent.withLocals {σ : System} {building : Option Ptr} (con : σ.Consistent building)
    (locals : List (Option Ptr)) : Consistent { σ with locals := locals } building :=
  ⟨⟨con.timers, con.points, con.waits⟩, con.ground⟩

omit [NsList] in
lemma Same.withLocals {σ σ' : System} (same : σ.Same σ') (locals : List (Option Ptr)) :
    σ.Same { σ' with locals := locals } :=
  ⟨same.entries, same.live, same.pending, same.dataPtr, same.classOf, same.period⟩

/-- The return of a handler that frees nothing. -/
lemma Consistent.keep {σ : System} (con : σ.Consistent none) (stacked : σ.Stacked) {p : Ptr}
    {rest : List Ptr} (hrun : σ.core.running = p :: rest)
    (hkeep : σ.Timed p → (σ.core.mem p).period ≠ 0) :
    ∃ s', dispatchReturn p σ.core = .ok s' ∧ σ.Same { σ with core := s' } ∧
      Consistent { σ with core := s', locals := σ.locals.tail } none ∧
      Stacked { σ with core := s', locals := σ.locals.tail } ∧
      Step σ.core (.handlerReturn, .void) s' := by
  have hvalid : EventLoop.Valid σ.core .handlerReturn := by simp [EventLoop.Valid, hrun]
  obtain ⟨s', r, acts, hexec, heffect, run⟩ := handlerReturn_performs con.ground.owned hvalid
  obtain ⟨rfl, hreturn⟩ := dispatchReturn_of_exec hrun hexec
  have hstep : Step σ.core (.handlerReturn, .void) s' := ⟨hvalid, hexec⟩
  obtain ⟨hsame, hcon⟩ := con.step hstep trivial trivial (fun _ q hq => by simp_all)
  have hrest : s'.running = rest := by
    cases heffect with
    | @handlerReturn q _ hrun' =>
      obtain ⟨rfl, rfl⟩ : p = q ∧ rest = _ := List.cons.inj (hrun.symm.trans hrun')
      exact finish_running hrun run
  refine ⟨s', hreturn, hsame, hcon.withLocals _, ?_, hstep⟩
  show σ.locals.tail = s'.running.map _
  rw [stacked, hrun, hrest, List.map_cons, List.tail_cons]
  refine List.map_congr_left fun q hq => ?_
  have htimed := hsame.timed (p := q) (by simp [hrun, hq]) (by simp [hrest, hq])
  exact if_congr htimed.symm rfl rfl

/-- The return of a callback after which the timeout is freed. -/
lemma Consistent.free {σ : System} (con : σ.Consistent none) (stacked : σ.Stacked) {p t : Ptr}
    {rest : List Ptr} (hrun : σ.core.running = p :: rest) (htimed : σ.Timed p)
    (hperiod : (σ.core.mem p).period = 0) (hdata : (σ.core.event p).data.dataPtr = some t)
    (ht : σ.Live t) (hentry : (σ.entries t).event = some p) :
    ∃ s₁ s', nsDynMemFree t σ.core = .ok s₁ ∧ dispatchReturn p s₁ = .ok s' ∧
      (∀ u, s'.heap u = some .timeout ↔ u ≠ t ∧ σ.Live u) ∧
      Consistent { σ with core := s', locals := σ.locals.tail } none ∧
      Stacked { σ with core := s', locals := σ.locals.tail } ∧
      (∀ oneShot cancelled, σ.Kinds oneShot cancelled →
        Kinds { σ with core := s', locals := σ.locals.tail } oneShot cancelled) ∧
      Step σ.core (.clientFree t, .void) s₁ ∧ Step s₁ (.handlerReturn, .void) s' := by
  have own := con.ground.owned
  have hclass := con.timers p (Or.inr (Or.inr (by simp [hrun]))) htimed
  have hrest : p ∉ rest := own.notMem_rest hrun (by simp [hclass])
  obtain ⟨hfree, hstep⟩ := free_step ht
  -- the block is freed before `event_core_free_push` sees the timer
  set s₁ : State := { σ.core with heap := Function.update σ.core.heap t none } with hs₁
  have hground : Grounded s₁ σ.timeoutTaskletId := con.ground.step hstep trivial (by simp)
  have still := (Move.clientFree ht).still (by simp)
  have hrun₁ : s₁.running = p :: rest := hrun
  have hvalid : EventLoop.Valid s₁ .handlerReturn := by simp [EventLoop.Valid, hrun₁]
  obtain ⟨s', r, acts, hexec, heffect, run⟩ := handlerReturn_performs hground.owned hvalid
  obtain ⟨rfl, hreturn⟩ := dispatchReturn_of_exec hrun₁ hexec
  have hground' := hground.step ⟨hvalid, hexec⟩ trivial (by simp)
  cases heffect with
  | @handlerReturn q _ hrun' =>
    obtain ⟨rfl, rfl⟩ : p = q ∧ rest = _ := List.cons.inj (hrun₁.symm.trans hrun')
    have hrest' := finish_running hrun₁ run
    obtain ⟨hothers, hgone, hlive⟩ :=
      finished_timer hground.owned ((still.classOf p).trans hclass) hperiod run
    have hothers' : Others p σ.core s' := ((Move.clientFree ht).others trivial).trans hothers
    have hheap : ∀ u, s'.heap u = some .timeout ↔ u ≠ t ∧ σ.Live u := by
      intro u
      rw [hlive u]
      by_cases hut : u = t
      · simp [hut, hs₁]
      · simp [hut, hs₁, Live]
    obtain ⟨hcon, hkinds⟩ := con.remove hentry hdata hground' hothers' hgone hheap
    have hstep' : Step s₁ (.handlerReturn, .void) s' := ⟨hvalid, hexec⟩
    refine ⟨s₁, s', hfree, hreturn, hheap, hcon.withLocals _, ?_,
      fun oneShot cancelled kinds => ?_, hstep, hstep'⟩
    · show σ.locals.tail = s'.running.map _
      rw [stacked, hrun, hrest', List.map_cons, List.tail_cons]
      refine List.map_congr_left fun q hq => ?_
      have hqp : q ≠ p := fun h => hrest (h ▸ hq)
      refine if_congr ?_ rfl rfl
      show _ ↔ σ.TimesOut (s'.mem q).event.data
      rw [hothers'.mem q hqp]
      exact Iff.rfl
    -- the block is gone, so its own entry of `cancelled` does not matter
    · have hkinds' := hkinds oneShot cancelled (cancelled t) kinds
      rw [Function.update_eq_self] at hkinds'
      exact hkinds'

/-- When a handler returns, a timeout is freed if its callback returns and its timer is not
periodic. -/
lemma Consistent.handlerReturn {σ : System} (con : σ.Consistent none) (stacked : σ.Stacked)
    (hrunning : σ.core.running ≠ []) : ∃ σ', σ.handlerReturn = .ok (σ', .void) ∧
      σ'.Consistent none ∧ σ'.Stacked ∧
      (∀ u, σ'.Live u ↔ σ.Live u ∧ ∀ p ∈ σ.core.running.head?, (σ.entries u).event = some p →
        (σ.core.mem p).period ≠ 0) ∧
      (∀ oneShot cancelled, σ.Kinds oneShot cancelled → σ'.Kinds oneShot cancelled) ∧
      σ'.entries = σ.entries ∧ ∃ s₁, LeadsBy (fun op => ∃ t, op = .clientFree t) σ.core s₁ ∧
        Step s₁ (.handlerReturn, .void) σ'.core := by
  obtain ⟨p, rest, hrun⟩ := List.exists_cons_of_ne_nil hrunning
  have hlocal : σ.locals.head? = some (σ.handlerLocal p) := by
    rw [stacked, hrun]
    rfl
  -- a live timeout whose event is `p` has `p` as its timer
  have htimer : ∀ u, σ.Live u → (σ.entries u).event = some p →
      σ.Timed p ∧ (σ.core.event p).data.dataPtr = some u := by
    intro u hu hentry
    obtain ⟨q, hq, -, htimed, hdata⟩ := con.timer hu (by simp)
    obtain rfl : q = p := Option.some.inj (hq.symm.trans hentry)
    exact ⟨htimed, hdata⟩
  by_cases hfreed : σ.Timed p ∧ (σ.core.mem p).period = 0
  · obtain ⟨htimed, hperiod⟩ := hfreed
    obtain ⟨t, hdata, ht, -, hentry⟩ := con.points p (Or.inr (Or.inr (by simp [hrun]))) htimed
    obtain ⟨s₁, s', hfree, hreturn, hheap, hcon, hstacked, hkinds, hstep, hstep'⟩ :=
      con.free stacked hrun htimed hperiod hdata ht hentry
    refine ⟨_, ?_, hcon, hstacked, fun u => (hheap u).trans ?_, hkinds, rfl, s₁,
      .of_step hstep trivial ⟨t, rfl⟩, hstep'⟩
    · simp only [System.handlerReturn, hrun, hlocal, handlerLocal, htimed, ↓reduceIte,
        timeoutTaskletReturn, hperiod, hdata, hfree, ok_bind, hreturn]
    · simp only [hrun, List.head?_cons, Option.mem_some_iff, forall_eq', hperiod]
      constructor
      · rintro ⟨hut, hu⟩
        refine ⟨hu, fun hu' => absurd ?_ hut⟩
        exact Option.some.inj ((htimer u hu hu').2.symm.trans hdata)
      · rintro ⟨hu, hne⟩
        refine ⟨?_, hu⟩
        rintro rfl
        exact hne hentry rfl
  · have hkeep : σ.Timed p → (σ.core.mem p).period ≠ 0 := fun h hp => hfreed ⟨h, hp⟩
    obtain ⟨s', hreturn, hsame, hcon, hstacked, hstep⟩ := con.keep stacked hrun hkeep
    refine ⟨_, ?_, hcon, hstacked, fun u => (hsame.live u).trans ?_,
      fun _ _ kinds => Kinds.same kinds (hsame.withLocals _), rfl, _, .refl _, hstep⟩
    · by_cases htimed : σ.Timed p
      · simp only [System.handlerReturn, hrun, hlocal, handlerLocal, htimed, ↓reduceIte,
          timeoutTaskletReturn, hkeep htimed, ok_bind, hreturn]
      · simp only [System.handlerReturn, hrun, hlocal, handlerLocal, htimed, ↓reduceIte, ok_bind,
          hreturn]
    · refine (and_iff_left_of_imp fun hu => ?_).symm
      simp only [hrun, List.head?_cons, Option.mem_some_iff, forall_eq']
      exact fun hentry => hkeep (htimer u hu hentry).1

/-! ## Dispatch -/

/-- A dispatch calls the callback of a live timeout, or the handler of another event. -/
lemma Consistent.dispatch {σ : System} (con : σ.Consistent none) (stacked : σ.Stacked) :
    (∃ σ' r, σ.dispatch = .ok (σ', r) ∧ σ'.Consistent none ∧ σ'.Stacked ∧ σ.Same σ' ∧
        Step σ.core (.dispatch, r) σ'.core) ∨
      σ.dispatch = .error .assertion ∧ ∃ p t, σ.core.eventQueueActive.head? = some p ∧
        σ.Timed p ∧ (σ.core.event p).data.dataPtr = some t ∧ (σ.entries t).callback = none := by
  have hvalid : EventLoop.Valid σ.core .dispatch := trivial
  obtain ⟨s', r, hexec⟩ := con.ground.deliverable.exec_ok con.ground.owned hvalid
  have hstep : Step σ.core (.dispatch, r) s' := ⟨hvalid, hexec⟩
  obtain ⟨hsame, hcon⟩ := con.step hstep trivial trivial (by simp)
  obtain ⟨next, rfl, hread⟩ := dispatchRead_of_exec hexec
  obtain ⟨acts, heffect, run⟩ := hstep.effect con.ground.owned
  cases heffect with
  | dispatchIdle hqueue =>
    refine Or.inl ⟨_, .call none, by simp only [System.dispatch, hread, ok_bind], hcon, ?_, hsame,
      hstep⟩
    simp only [Run.cons_iff, Run.nil_iff] at run
    obtain ⟨t, move, rfl⟩ := run
    cases move
    exact stacked
  | @dispatch p rest tasklet hqueue htasklet =>
    obtain ⟨hmem, hreceiver, -⟩ := eventTaskletHandlerGet_eq_some htasklet
    have hpending : Pending σ.core p := Or.inl (by simp [hqueue])
    simp only [Run.cons_iff, Run.nil_iff] at run
    obtain ⟨t, hdeliver, u, hactive, rfl⟩ := run
    have hdata : (s'.event p).data = (σ.core.event p).data := by
      cases hactive
      cases hdeliver with
      | relocate row =>
        show (State.event _ p).data = _
        rw [State.move_event_self]
        rfl
    have hrunning : s'.running = p :: σ.core.running := by
      cases hactive
      cases hdeliver with
      | relocate row => simp [State.move_running]
    -- the handler is `timeout_tasklet` if the event is for the timeout tasklet
    have htasklet_iff : tasklet.funcPtr = timeoutTasklet ∧
        (σ.core.event p).data.eventType = timerEvent ↔ σ.Timed p := by
      have hvalid := con.ground.deliverable.valid tasklet hmem
      rw [con.ground.tasklet tasklet hmem, hreceiver]
      constructor
      · rintro ⟨hid, htype⟩
        exact ⟨fun h => hvalid (hreceiver.trans (hid.trans h)), hid, htype⟩
      · rintro ⟨-, hid, htype⟩
        exact ⟨hid, htype⟩
    have hstacked : Stacked { σ with core := s', locals := σ.handlerLocal p :: σ.locals } := by
      show σ.handlerLocal p :: σ.locals = s'.running.map _
      rw [hrunning, List.map_cons, stacked]
      congr 1
      · refine if_congr ?_ rfl rfl
        show _ ↔ σ.TimesOut (s'.event p).data
        rw [hdata]
        exact Iff.rfl
      · refine List.map_congr_left fun q hq => ?_
        have htimed := hsame.timed hq (by simp [hrunning, hq])
        exact if_congr htimed.symm rfl rfl
    by_cases hcalled : tasklet.funcPtr = timeoutTasklet ∧
        (σ.core.event p).data.eventType = timerEvent
    · have htimed := htasklet_iff.mp hcalled
      obtain ⟨hfun, htype⟩ := hcalled
      obtain ⟨w, hw, hlive, -, hentry⟩ := con.points p hpending htimed
      have hlive' := (hsame.live w).mpr hlive
      cases hcallback : (σ.entries w).callback with
      | none =>
        refine Or.inr ⟨?_, p, w, by simp [hqueue], htimed, hw, hcallback⟩
        simp only [System.dispatch, hread, ok_bind, hfun, ↓reduceIte, timeoutTaskletCall, hdata,
          htype, hw, hlive', hcallback, Option.isNone_none, ne_eq, not_true_eq_false, error_bind]
      | some callback =>
        refine Or.inl ⟨_, .call (some (p, tasklet)), ?_, hcon.withLocals _, hstacked,
          hsame.withLocals _, hstep⟩
        simp only [System.dispatch, hread, ok_bind, hfun, ↓reduceIte, timeoutTaskletCall, hdata,
          htype, hw, hlive', hcallback, hentry, Option.isNone_some, ne_eq, not_true_eq_false,
          Bool.false_eq_true, handlerLocal, htimed]
    · have htimed : ¬ σ.Timed p := fun h => hcalled (htasklet_iff.mpr h)
      refine Or.inl ⟨_, .call (some (p, tasklet)), ?_, hcon.withLocals _, hstacked,
        hsame.withLocals _, hstep⟩
      by_cases hfun : tasklet.funcPtr = timeoutTasklet
      · have htype : (σ.core.event p).data.eventType ≠ timerEvent := fun h => hcalled ⟨hfun, h⟩
        simp only [System.dispatch, hread, ok_bind, hfun, ↓reduceIte, timeoutTaskletCall, hdata,
          ne_eq, htype, not_false_eq_true, handlerLocal, htimed]
      · simp only [System.dispatch, hread, ok_bind, hfun, ↓reduceIte, handlerLocal, htimed]

/-- An operation of other code, apart from the two halves of a dispatch. -/
theorem Consistent.core_exec {σ : System} (con : σ.Consistent none) (stacked : σ.Stacked) {op : Op}
    (valid : σ.Valid (.core op)) (hdispatch : op ≠ .dispatch) (hreturn : op ≠ .handlerReturn) :
    ∃ s' r, System.exec (.core op) σ = .ok ({ σ with core := s' }, r) ∧ Step σ.core (op, r) s' ∧
      r.called? = none ∧ System.Consistent { σ with core := s' } none ∧
      System.Stacked { σ with core := s' } ∧ σ.Same { σ with core := s' } := by
  obtain ⟨hvalid, hop, halone⟩ := valid
  obtain ⟨s', r, hexec⟩ := con.ground.deliverable.exec_ok con.ground.owned hvalid
  have hstep : Step σ.core (op, r) s' := ⟨hvalid, hexec⟩
  obtain ⟨hsame, hcon⟩ := con.step hstep hop halone fun h => absurd h hreturn
  obtain ⟨acts, heffect, run⟩ := hstep.effect con.ground.owned
  have hrunning := heffect.running run hdispatch hreturn
  have hstacked : System.Stacked { σ with core := s' } :=
    stacked.congr rfl hrunning fun p hp => hsame.timed hp (hrunning.symm ▸ hp)
  refine ⟨s', r, ?_, hstep, heffect.called hdispatch, hcon, hstacked, hsame⟩
  have hcore : System.exec (.core op) σ = (EventLoop.exec op σ.core >>= fun result =>
      .ok ({ σ with core := result.1 }, result.2)) := by
    cases op <;> first | rfl | contradiction
  rw [hcore, hexec, ok_bind]

end System

end EventLoop
