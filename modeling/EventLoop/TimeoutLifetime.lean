import EventLoop.TimeoutTheorems

/-!
# The life of a `timeout_t`

The invariant of the event loop with timeouts, and what each operation does to it. While a timeout
is under construction its block is allocated but has no timer yet; `Consistent` therefore has the
block that is being built as a parameter.
-/

namespace EventLoop

open Lib

/-! ## One storage at a time -/

/-- Every storage but `p` is as before. -/
structure Others (p : Ptr) (s s' : State) : Prop where
  mem : ∀ q, q ≠ p → s'.mem q = s.mem q
  pending : ∀ q, q ≠ p → (Pending s' q ↔ Pending s q)
  classOf : ∀ q, q ≠ p → s'.classOf q = s.classOf q

/-- Moves that concern `p` only. -/
def Act.On (p : Ptr) : Act → Prop
  | .relocate q _ _ _ => q = p
  | .unperiod q => q = p
  | .active _ | .register _ _ | .clientAlloc _ | .clientFree _ => True
  | _ => False

lemma Others.trans {p : Ptr} {s t u : State} (h : Others p s t) (h' : Others p t u) :
    Others p s u where
  mem q hq := (h'.mem q hq).trans (h.mem q hq)
  pending q hq := (h'.pending q hq).trans (h.pending q hq)
  classOf q hq := (h'.classOf q hq).trans (h.classOf q hq)

lemma Move.others {p : Ptr} {s s' : State} {act : Act} (move : Move s act s') (hact : act.On p) :
    Others p s s' := by
  cases move with
  | @relocate q A B v h row =>
    obtain rfl : q = p := hact
    exact ⟨fun r hr => by simp [hr], fun r hr => pending_move_of_ne hr,
      fun r hr => s.move_classOf_of_ne hr A B v h⟩
  | @unperiod q hp hclass =>
    obtain rfl : q = p := hact
    have still := (Move.unperiod hp hclass).still (by simp)
    exact ⟨fun r hr => by simp [State.setPeriod, State.store, hr], fun _ _ => .rfl,
      fun r _ => still.classOf r⟩
  | active tasklet =>
    exact ⟨fun _ _ => rfl, fun _ _ => .rfl, fun r _ => by cases r <;> rfl⟩
  | register tasklet fresh hid hfun =>
    have still := (Move.register tasklet fresh hid hfun).still (by simp)
    exact ⟨fun _ _ => rfl, fun _ _ => .rfl, fun r _ => still.classOf r⟩
  | clientAlloc fresh =>
    have still := (Move.clientAlloc fresh).still (by simp)
    exact ⟨fun _ _ => rfl, fun _ _ => .rfl, fun r _ => still.classOf r⟩
  | clientFree hblock =>
    have still := (Move.clientFree hblock).still (by simp)
    exact ⟨fun _ _ => rfl, fun _ _ => .rfl, fun r _ => still.classOf r⟩
  | clock | write => exact hact.elim

lemma Others.of_run {p : Ptr} {s s' : State} {acts : List Act} (run : Run Move s acts s')
    (hacts : ∀ act ∈ acts, act.On p) : Others p s s' := by
  have hinit : Others p s s := ⟨fun _ _ => rfl, fun _ _ => .rfl, fun _ _ => rfl⟩
  refine run.invariant_on (I := fun t => Others p s t) hinit hacts
    fun t act u others hact move => ?_
  exact others.trans (move.others hact)

section

variable [NsList]

/-- A run of the event loop's own operations leads from one state to the other. -/
def Leads (s s' : State) : Prop := ∃ l, RunOf AddressedOp s l s'

lemma Leads.refl (s : State) : Leads s s := ⟨[], .nil⟩

lemma Leads.trans {s t u : State} (h : Leads s t) (h' : Leads t u) : Leads s u := by
  obtain ⟨l, run⟩ := h
  obtain ⟨l', run'⟩ := h'
  exact ⟨l ++ l', run.append run'⟩

lemma Leads.of_step {s s' : State} {op : Op} {r : Ret} (step : Step s (op, r) s')
    (hop : AddressedOp s op) : Leads s s' := ⟨[(op, r)], .single ⟨step, hop⟩⟩

/-- A run of operations that have the property `P`. -/
def LeadsBy (P : Op → Prop) (s s' : State) : Prop :=
  ∃ l, RunOf (fun s op => AddressedOp s op ∧ P op) s l s'

namespace LeadsBy

variable {P : Op → Prop}

lemma refl (s : State) : LeadsBy P s s := ⟨[], .nil⟩

lemma trans {s t u : State} (h : LeadsBy P s t) (h' : LeadsBy P t u) : LeadsBy P s u := by
  obtain ⟨l, run⟩ := h
  obtain ⟨l', run'⟩ := h'
  exact ⟨l ++ l', run.append run'⟩

lemma of_step {s s' : State} {op : Op} {r : Ret} (step : Step s (op, r) s')
    (hop : AddressedOp s op) (hP : P op) : LeadsBy P s s' := ⟨[(op, r)], .single ⟨step, hop, hP⟩⟩

lemma leads {s s' : State} (h : LeadsBy P s s') : Leads s s' := by
  obtain ⟨l, run⟩ := h
  exact ⟨l, run.mono fun _ _ _ hstep => ⟨hstep.1, hstep.2.1⟩⟩

end LeadsBy

/-- What the creation of a timeout asks of the event loop. -/
def Op.Builds : Op → Prop
  | .clientAlloc _ | .clientFree _ | .handlerCreate _ _ _ _ | .requestAt _ _ _
  | .requestEvery _ _ _ => True
  | _ => False

/-- What gives up a timeout whose timer has the event `event`. -/
def Op.GivesUp (event : Option Ptr) : Op → Prop
  | .cancel p => p = event
  | .clientFree _ => True
  | _ => False

end

namespace System

/-! ## The invariant -/

/-- What the event loop itself guarantees, and that the timeout tasklet, once started, is the one
registered under its id. -/
structure Grounded (s : State) (timeoutTaskletId : BitVec 8) : Prop where
  owned : Owned s
  deliverable : Deliverable s
  known : timeoutTaskletId ≠ -1 → Known s timeoutTaskletId
  tasklet : ∀ u ∈ s.armCoreTaskletList, u.funcPtr = timeoutTasklet ↔ u.id = timeoutTaskletId

/-- The timers of timeouts and the allocated `timeout_t` blocks belong to each other, except for a
block that is being built. -/
structure Paired (σ : System) (building : Option Ptr) : Prop where
  timers : σ.TimersOnly
  /-- an outstanding timer of a timeout refers to an allocated block, which refers to it -/
  points : ∀ p, Pending σ.core p → σ.Timed p → ∃ t,
    (σ.core.event p).data.dataPtr = some t ∧ σ.Live t ∧ some t ≠ building ∧
      (σ.entries t).event = some p
  /-- an allocated block has an outstanding timer -/
  waits : ∀ t, σ.Live t → some t ≠ building → ∃ p, Pending σ.core p ∧ σ.Timed p ∧
    (σ.core.event p).data.dataPtr = some t

/-- The invariant of the event loop with timeouts. -/
structure Consistent (σ : System) (building : Option Ptr) : Prop extends Paired σ building where
  ground : Grounded σ.core σ.timeoutTaskletId

/-- Which timers are periodic: those of periodic timeouts that were not cancelled. -/
def Kinds (σ : System) (oneShot cancelled : Ptr → Bool) : Prop :=
  ∀ p t, Pending σ.core p → σ.Timed p → (σ.core.event p).data.dataPtr = some t →
    ((σ.core.mem p).period = 0 ↔ oneShot t = true ∨ cancelled t = true)

/-- The local of the handler that runs on `p`. -/
def handlerLocal (σ : System) (p : Ptr) : Option Ptr := if σ.Timed p then some p else none

/-- Every callback in progress has the timer of its timeout as its local. -/
def Stacked (σ : System) : Prop := σ.locals = σ.core.running.map σ.handlerLocal

namespace Paired

variable {σ σ' : System} {building : Option Ptr}

/-- The timer of an allocated `timeout_t`. -/
lemma timer (con : σ.Paired building) {t : Ptr} (ht : σ.Live t) (hb : some t ≠ building) :
    ∃ p, (σ.entries t).event = some p ∧ Pending σ.core p ∧ σ.Timed p ∧
      (σ.core.event p).data.dataPtr = some t := by
  obtain ⟨p, hp, htimed, hdata⟩ := con.waits t ht hb
  obtain ⟨t', hdata', -, -, hentry⟩ := con.points p hp htimed
  obtain rfl : t' = t := Option.some.inj (hdata'.symm.trans hdata)
  exact ⟨p, hentry, hp, htimed, hdata⟩

/-- What leaves the timeouts alone keeps the pairs. -/
lemma same (con : σ.Paired building) (same : σ.Same σ') : σ'.Paired building where
  timers := con.timers.same same
  points p hp ht := by
    obtain ⟨hp, ht⟩ := (same.pending p).mp ⟨hp, ht⟩
    obtain ⟨t, hdata, hlive, hb, hentry⟩ := con.points p hp ht
    exact ⟨t, (same.dataPtr p hp ht).trans hdata, (same.live t).mpr hlive, hb,
      by rw [same.entries, hentry]⟩
  waits t ht hb := by
    obtain ⟨p, hp, htimed, hdata⟩ := con.waits t ((same.live t).mp ht) hb
    obtain ⟨hp', htimed'⟩ := (same.pending p).mpr ⟨hp, htimed⟩
    exact ⟨p, hp', htimed', (same.dataPtr p hp htimed).trans hdata⟩

end Paired

lemma Kinds.same {σ σ' : System} {oneShot cancelled : Ptr → Bool}
    (kinds : σ.Kinds oneShot cancelled) (same : σ.Same σ') : σ'.Kinds oneShot cancelled := by
  intro p t hp ht hdata
  obtain ⟨hp, ht⟩ := (same.pending p).mp ⟨hp, ht⟩
  rw [same.period p hp ht]
  exact kinds p t hp ht ((same.dataPtr p hp ht).symm.trans hdata)

lemma Stacked.congr {σ σ' : System} (stacked : σ.Stacked) (hlocals : σ'.locals = σ.locals)
    (hrunning : σ'.core.running = σ.core.running)
    (htimed : ∀ p ∈ σ.core.running, σ'.Timed p ↔ σ.Timed p) : σ'.Stacked := by
  rw [Stacked, hlocals, hrunning, stacked]
  refine List.map_congr_left fun p hp => ?_
  simp only [handlerLocal, htimed p hp]

lemma Same.timed {σ σ' : System} (same : σ.Same σ') {p : Ptr} (hp : p ∈ σ.core.running)
    (hp' : p ∈ σ'.core.running) : σ'.Timed p ↔ σ.Timed p :=
  ⟨fun h => ((same.pending p).mp ⟨Or.inr (Or.inr hp'), h⟩).2,
    fun h => ((same.pending p).mpr ⟨Or.inr (Or.inr hp), h⟩).2⟩

/-! ## Steps of the event loop -/

variable [NsList]

omit [NsList] in
/-- A free id is not that of the timeout tasklet. -/
lemma Grounded.freeId_ne {s : State} {id : BitVec 8} (ground : Grounded s id)
    (hlen : s.armCoreTaskletList.length < 128) : taskletGetFreeId s ≠ id := by
  obtain ⟨hle, hfree⟩ := ground.deliverable.registered.freeId (by simp only [int8Max]; omega)
  rintro rfl
  by_cases hid : taskletGetFreeId s = -1
  · rw [hid] at hle
    exact absurd hle (by decide)
  · obtain ⟨u, hu⟩ := Option.isSome_iff_exists.mp (ground.known hid)
    obtain ⟨hmem, hid, -⟩ := eventTaskletHandlerGet_eq_some hu
    exact hfree u hmem hid

lemma Grounded.step {s s' : State} {id : BitVec 8} (ground : Grounded s id) {op : Op} {r : Ret}
    (step : Step s (op, r) s') (hop : AddressedOp s op)
    (hother : ∀ f ty newTasklet newEvent, op = .handlerCreate f ty newTasklet newEvent →
      f ≠ timeoutTasklet) : Grounded s' id := by
  obtain ⟨acts, heffect, run⟩ := Step.effect ground.owned step
  refine ⟨ground.owned.run run, ground.deliverable.step ground.owned hop heffect run,
    fun hid => Known.mono_run run (ground.known hid), fun u hu => ?_⟩
  rcases heffect.tasklets run with htasklets | ⟨f, ty, newTasklet, newEvent, rfl, htasklets⟩
  · exact ground.tasklet u (htasklets ▸ hu)
  · rw [htasklets] at hu
    rcases List.mem_append.mp hu with hu | hu
    · exact ground.tasklet u hu
    · obtain rfl := List.mem_singleton.mp hu
      exact iff_of_false (hother _ _ _ _ rfl) (ground.freeId_ne hop)

/-- A step of other code. -/
lemma Consistent.step {σ : System} {building : Option Ptr} (con : σ.Consistent building) {op : Op}
    {r : Ret} {s' : State} (step : Step σ.core (op, r) s') (hop : AddressedOp σ.core op)
    (halone : σ.LeavesAlone op)
    (hreturn : op = .handlerReturn → ∀ p ∈ σ.core.running.head?, σ.Timed p →
      (σ.core.mem p).period ≠ 0) :
    σ.Same { σ with core := s' } ∧ Consistent { σ with core := s' } building := by
  obtain ⟨acts, heffect, run⟩ := Step.effect con.ground.owned step
  have hsame := heffect.same con.ground.owned con.ground.deliverable con.timers con.ground.known
    run hop halone hreturn
  refine ⟨hsame, con.toPaired.same hsame, con.ground.step step hop ?_⟩
  rintro f ty newTasklet newEvent rfl
  exact halone

/-! ## Creating a timeout -/

lemma alloc_step {s : State} {t : Ptr} (fresh : Fresh s t) :
    Step s (.clientAlloc (some t), .handle (some t))
      { s with heap := Function.update s.heap t (some .timeout) } :=
  ⟨fun _ hp => Option.some.inj hp ▸ fresh, rfl⟩

/-- A `timeout_t` that is allocated can be freed. -/
lemma free_step {s : State} {t : Ptr} (ht : s.heap t = some .timeout) :
    nsDynMemFree t s = .ok { s with heap := Function.update s.heap t none } ∧
      Step s (.clientFree t, .void) { s with heap := Function.update s.heap t none } := by
  have hfree : nsDynMemFree t s = .ok { s with heap := Function.update s.heap t none } := by
    rw [nsDynMemFree, if_pos (by rw [ht]; rfl)]
  exact ⟨hfree, ht, by simp only [EventLoop.exec, hfree, ok_bind]⟩

/-- A block is allocated for a new timeout. -/
lemma Consistent.begin {σ : System} (con : σ.Consistent none) {t : Ptr} (fresh : Fresh σ.core t)
    (entry : TimeoutEntry) : Consistent { σ with
      core := { σ.core with heap := Function.update σ.core.heap t (some .timeout) }
      entries := Function.update σ.entries t entry } (some t) := by
  have still := (Move.clientAlloc fresh).still (by simp)
  have hstep := alloc_step fresh
  have hne : ∀ u, σ.Live u → u ≠ t := by
    rintro u hu rfl
    simp [Live, fresh.free] at hu
  refine ⟨⟨fun p hp ht => ?_, fun p hp ht => ?_, fun u hu hb => ?_⟩,
    con.ground.step hstep trivial (by simp)⟩
  · exact (still.classOf p).trans (con.timers p hp ht)
  · obtain ⟨u, hdata, hlive, -, hentry⟩ := con.points p hp ht
    have hu := hne u hlive
    exact ⟨u, hdata, by simpa [Live, hu] using hlive, by simpa using hu, by simpa [hu] using hentry⟩
  · have hut : u ≠ t := fun h => hb (h ▸ rfl)
    exact con.waits u (by simpa [Live, hut] using hu) (by simp)

/-- A timeout that could not be built is given up. -/
lemma Consistent.abandon {σ : System} {t : Ptr} (con : σ.Consistent (some t)) (ht : σ.Live t) :
    Consistent { σ with core := { σ.core with heap := Function.update σ.core.heap t none } }
      none := by
  have still := (Move.clientFree ht).still (by simp)
  have hstep := (free_step ht).2
  refine ⟨⟨fun p hp ht => ?_, fun p hp ht => ?_, fun u hu hb => ?_⟩,
    con.ground.step hstep trivial (by simp)⟩
  · exact (still.classOf p).trans (con.timers p hp ht)
  · obtain ⟨u, hdata, hlive, hb, hentry⟩ := con.points p hp ht
    have hut : u ≠ t := fun h => hb (h ▸ rfl)
    exact ⟨u, hdata, by simpa [Live, hut] using hlive, by simp, hentry⟩
  · have hut : u ≠ t := by
      rintro rfl
      simp [Live] at hu
    exact con.waits u (by simpa [Live, hut] using hu) (by simpa using hut)

omit [NsList] in
/-- The timer of a new timeout is requested. -/
lemma Consistent.add {σ : System} {t p : Ptr} {s' : State} (con : σ.Consistent (some t))
    (ht : σ.Live t) {at_ period : BitVec 32} {answer : Option Ptr} {acts : List Act}
    (ground : Grounded s' σ.timeoutTaskletId) (hid : σ.timeoutTaskletId ≠ -1)
    (hrequested : Requested σ.core (timeoutEvent σ.timeoutTaskletId t) at_ period answer (some p)
      acts) (run : Run Move σ.core acts s') (entry : TimeoutEntry) :
    Consistent { σ with
      core := s'
      entries := Function.update σ.entries t { entry with event := some p } } none ∧
    (∀ u, s'.heap u = some .timeout ↔ σ.Live u) ∧ ¬ Pending σ.core p ∧
    (∀ q, q ≠ p → (Pending s' q ∧ σ.TimesOut (s'.event q).data ↔ Pending σ.core q ∧ σ.Timed q)) ∧
    ∀ oneShot cancelled, σ.Kinds oneShot cancelled →
      Kinds { σ with
        core := s'
        entries := Function.update σ.entries t { entry with event := some p } }
        (Function.update oneShot t (decide (period = 0))) (Function.update cancelled t false) := by
  -- first a timer may be allocated, which no timeout sees; then it is filled in
  obtain ⟨u, B, hB, hgrow, hfill⟩ := requested_fill hrequested run
  have own := con.ground.owned
  have hsame : σ.Same { σ with core := u } :=
    .of_run own con.timers hgrow (growActs_forall (σ.quiet_grow) _ _ _)
  obtain ⟨htimers, hpoints, hwaits⟩ := con.toPaired.same hsame
  obtain ⟨hbefore, hafter, hmem, hclass, hheap⟩ := fill_spec (own.run hgrow) hB hfill
  have hothers := hfill.others (p := p) rfl
  have hlive : ∀ w, s'.heap w = some .timeout ↔ σ.Live w := by
    intro w
    rw [hheap]
    exact hsame.live w
  have hne : ∀ q, Pending u q → q ≠ p := by
    rintro q hq rfl
    exact hbefore hq
  have hevent : ∀ q, q ≠ p → s'.event q = u.event q := fun q hq => by
    simp only [State.event, hothers.mem q hq]
  have hfilled : (s'.event p).data = timeoutEvent σ.timeoutTaskletId t := by
    simp [State.event, hmem, requested]
  -- the new timer is paired with `t`; every other one is paired as before
  refine ⟨⟨⟨fun q hq hqt => ?_, fun q hq hqt => ?_, fun w hw _ => ?_⟩, ground⟩, hlive,
    grow_not_pending own hgrow hbefore, fun q hqp => ?_, fun oneShot cancelled kinds => ?_⟩
  · by_cases hqp : q = p
    · rw [hqp, hclass]
    · rw [hothers.classOf q hqp]
      simp only [Timed, hevent q hqp] at hqt
      exact htimers q ((hothers.pending q hqp).mp hq) hqt
  · by_cases hqp : q = p
    · subst hqp
      exact ⟨t, by rw [hfilled]; rfl, (hlive t).mpr ht, by simp, by simp⟩
    · simp only [Timed, hevent q hqp] at hqt
      obtain ⟨w, hdata, hw, hb, hentry⟩ := hpoints q ((hothers.pending q hqp).mp hq) hqt
      have hwt : w ≠ t := fun h => hb (h ▸ rfl)
      exact ⟨w, by rw [hevent q hqp, hdata], (hlive w).mpr ((hsame.live w).mp hw), by simp,
        by simpa [hwt] using hentry⟩
  · by_cases hwt : w = t
    · subst hwt
      exact ⟨p, hafter, ⟨hid, by rw [hfilled]; rfl, by rw [hfilled]; rfl⟩, by rw [hfilled]; rfl⟩
    · obtain ⟨q, hq, hqt, hdata⟩ := hwaits w ((hsame.live w).mpr ((hlive w).mp hw))
        (by simpa using hwt)
      have hqp := hne q hq
      refine ⟨q, (hothers.pending q hqp).mpr hq, ?_, by rw [hevent q hqp, hdata]⟩
      show σ.TimesOut (s'.event q).data
      rw [hevent q hqp]
      exact hqt
  · rw [hothers.pending q hqp, hevent q hqp]
    exact hsame.pending q
  · intro q w hq hqt hdata
    by_cases hqp : q = p
    · subst hqp
      obtain rfl : t = w := by
        rw [hfilled] at hdata
        exact Option.some.inj hdata
      simp [hmem, requested]
    · simp only [Timed, hevent q hqp] at hqt hdata
      have hq' := (hothers.pending q hqp).mp hq
      obtain ⟨w', hdata', -, hb, -⟩ := hpoints q hq' hqt
      obtain rfl : w' = w := Option.some.inj (hdata'.symm.trans hdata)
      have hwt : w' ≠ t := fun h => hb (h ▸ rfl)
      simpa [hothers.mem q hqp, hwt] using kinds.same hsame q w' hq' hqt hdata

end System

end EventLoop
