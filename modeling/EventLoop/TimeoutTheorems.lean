import EventLoop.Timeout

/-!
# What the other operations do to timeouts

The timers of timeouts and the `timeout_t` blocks are left alone by every operation of the event
loop that is not about a timeout (`System.Same`).
-/

namespace EventLoop

open Lib

namespace System

/-- The timers of timeouts and the `timeout_t` blocks are as before. -/
structure Same (σ σ' : System) : Prop where
  entries : σ'.entries = σ.entries
  live : ∀ t, σ'.Live t ↔ σ.Live t
  pending : ∀ p, Pending σ'.core p ∧ σ'.Timed p ↔ Pending σ.core p ∧ σ.Timed p
  dataPtr : ∀ p, Pending σ.core p → σ.Timed p →
    (σ'.core.event p).data.dataPtr = (σ.core.event p).data.dataPtr
  classOf : ∀ p, Pending σ.core p → σ.Timed p → σ'.core.classOf p = σ.core.classOf p
  period : ∀ p, Pending σ.core p → σ.Timed p → (σ'.core.mem p).period = (σ.core.mem p).period

lemma Same.refl (σ : System) : σ.Same σ := by
  constructor <;> simp

lemma Same.trans {σ τ υ : System} (h : σ.Same τ) (h' : τ.Same υ) : σ.Same υ where
  entries := h'.entries.trans h.entries
  live t := (h'.live t).trans (h.live t)
  pending p := (h'.pending p).trans (h.pending p)
  dataPtr p hp ht :=
    have hboth := (h.pending p).mpr ⟨hp, ht⟩
    (h'.dataPtr p hboth.1 hboth.2).trans (h.dataPtr p hp ht)
  classOf p hp ht :=
    have hboth := (h.pending p).mpr ⟨hp, ht⟩
    (h'.classOf p hboth.1 hboth.2).trans (h.classOf p hp ht)
  period p hp ht :=
    have hboth := (h.pending p).mpr ⟨hp, ht⟩
    (h'.period p hboth.1 hboth.2).trans (h.period p hp ht)

/-- The timers of timeouts are timers. -/
def TimersOnly (σ : System) : Prop :=
  ∀ p, Pending σ.core p → σ.Timed p → σ.core.classOf p = .timer

/-- Moves that neither take up nor give up a timeout's timer. -/
def Neutral (σ : System) : Act → Prop
  | .relocate p A B v => (A.Busy → ¬ B.Busy → ¬ σ.Timed p) ∧
      (¬ A.Busy → B.Busy → ¬ σ.TimesOut v.event.data)
  | .unperiod p => ¬ σ.Timed p
  | .write p data => ¬ σ.Timed p ∧ ¬ σ.TimesOut data
  | .clientAlloc _ | .clientFree _ => False
  | _ => True

/-- A storage that moves neutrally. -/
lemma Same.of_row {σ : System} {p : Ptr} {A B : Place} {v : SysTimerStruct}
    {h : Option HeapObject} (own : Owned σ.core) (htimers : σ.TimersOnly)
    (row : Row σ.core p A B v h) (hact : σ.Neutral (.relocate p A B v)) :
    σ.Same { σ with core := σ.core.move p A B v h } := by
  -- the timer of a timeout moves between places that hold an event
  have hself : Pending σ.core p → σ.Timed p → A.Busy ∧ B.Busy := by
    intro hp ht
    by_cases hA : A.Busy
    · by_contra hB
      exact hact.1 hA (fun h => hB ⟨hA, h⟩) ht
    · exact absurd hp (row.not_pending own hA (htimers p hp ht))
  have hevent : ∀ q, q ≠ p → (σ.core.move p A B v h).event q = σ.core.event q :=
    fun q hq => State.move_event_of_ne _ hq ..
  refine ⟨rfl, fun t => ?_, fun q => ?_, fun q hp ht => ?_, fun q hp ht => ?_,
    fun q hp ht => ?_⟩
  · by_cases htp : t = p
    · subst htp
      simpa [Live] using row.timeout_iff
    · simp [Live, htp]
  · by_cases hq : q = p
    · subst hq
      constructor
      · rintro ⟨hp, ht⟩
        simp only [Timed, State.move_event_self] at ht
        by_cases hA : A.Busy
        · rw [row.data_eq hA] at ht
          exact ⟨row.pending hA, ht⟩
        · by_cases hB : B.Busy
          · exact absurd ht (hact.2 hA hB)
          · exact absurd hp (row.not_pending_after own hA hB)
      · rintro ⟨hp, ht⟩
        obtain ⟨hA, hB⟩ := hself hp ht
        refine ⟨pending_move_busy hB, ?_⟩
        show σ.TimesOut (State.event _ q).data
        rw [State.move_event_self, row.data_eq hA]
        exact ht
    · simp only [pending_move_of_ne hq, Timed, hevent q hq, TimesOut]
  · by_cases hq : q = p
    · subst hq
      rw [State.move_event_self, row.data_eq (hself hp ht).1]
    · rw [hevent q hq]
  · by_cases hq : q = p
    · subst hq
      rw [(row.busy_eq (hself hp ht).1 (hself hp ht).2).2.2, State.move_classOf_same]
    · exact σ.core.move_classOf_of_ne hq A B v h
  · by_cases hq : q = p
    · subst hq
      simp [(row.busy_eq (hself hp ht).1 (hself hp ht).2).2.1]
    · simp [hq]

/-- A neutral move leaves the timeouts alone. -/
lemma Same.of_move {σ : System} {s' : State} {act : Act} (own : Owned σ.core)
    (htimers : σ.TimersOnly) (move : Move σ.core act s') (hact : σ.Neutral act) :
    σ.Same { σ with core := s' } := by
  cases move with
  | relocate row => exact .of_row own htimers row hact
  | clock | active => exact ⟨rfl, fun _ => .rfl, fun _ => .rfl, fun _ _ _ => rfl,
      fun q _ _ => by cases q <;> rfl, fun _ _ _ => rfl⟩
  | register tasklet fresh hid hfun =>
    have still := (Move.register tasklet fresh hid hfun).still (by simp)
    refine ⟨rfl, fun t => ?_, fun _ => .rfl, fun _ _ _ => rfl, fun q _ _ => still.classOf q,
      fun _ _ _ => rfl⟩
    rename_i block
    by_cases ht : t = block
    · subst ht
      simp [Live, fresh.free]
    · simp [Live, ht]
  | @unperiod p hp hclass =>
    have still := (Move.unperiod hp hclass).still (by simp)
    have hevent : ∀ q, (σ.core.setPeriod p 0).event q = σ.core.event q :=
      fun q => State.setPeriod_event _ _ _ _
    refine ⟨rfl, fun _ => .rfl, fun q => ?_, fun q _ _ => ?_, fun q _ _ => still.classOf q,
      fun q _ ht => ?_⟩
    · simp only [Timed, hevent, TimesOut]
      rfl
    · rw [hevent]
    · have hq : q ≠ p := by
        rintro rfl
        exact hact ht
      simp [State.setPeriod, State.store, hq]
  | @write p rest data hp hq =>
    have still := (Move.write data hp hq).still (by simp)
    have hevent : ∀ q, q ≠ p → (σ.core.setData p data).event q = σ.core.event q := by
      intro q hq
      simp [State.setData, hq]
    refine ⟨rfl, fun _ => .rfl, fun q => ?_, fun q _ ht => ?_, fun q _ _ => still.classOf q,
      fun q _ _ => ?_⟩
    · by_cases hqp : q = p
      · subst hqp
        have hdata : ((σ.core.setData q data).event q).data = data := by simp [State.setData]
        simp only [Timed, hdata]
        exact iff_of_false (fun h => hact.2 h.2) (fun h => hact.1 h.2)
      · simp only [Timed, hevent q hqp, TimesOut]
        rfl
    · have hqp : q ≠ p := by
        rintro rfl
        exact hact.1 ht
      rw [hevent q hqp]
    · simp only [State.setData, State.store, Function.update_apply]
      split <;> simp_all
  | clientAlloc => exact hact.elim
  | clientFree => exact hact.elim

lemma TimersOnly.same {σ σ' : System} (htimers : σ.TimersOnly) (same : σ.Same σ') :
    σ'.TimersOnly := by
  intro p hp ht
  have hboth := (same.pending p).mp ⟨hp, ht⟩
  rw [same.classOf p hboth.1 hboth.2]
  exact htimers p hboth.1 hboth.2

/-- Moves that are neutral whatever the state. -/
def Quiet (σ : System) (act : Act) : Prop := ∀ core, Neutral { σ with core := core } act

lemma Same.of_run {σ : System} {s' : State} {acts : List Act} (own : Owned σ.core)
    (htimers : σ.TimersOnly) (run : Run Move σ.core acts s') (hacts : ∀ act ∈ acts, σ.Quiet act) :
    σ.Same { σ with core := s' } := by
  refine own.run_on (I := fun t => σ.Same { σ with core := t })
    (fun t act u own hsame hact move => ?_) (.refl σ) run hacts
  exact hsame.trans (.of_move own (htimers.same hsame) move (hact t))

/-- The first move is neutral, those after it are so in any state. -/
lemma Same.of_cons {σ : System} {s' : State} {act : Act} {acts : List Act} (own : Owned σ.core)
    (htimers : σ.TimersOnly) (run : Run Move σ.core (act :: acts) s') (hact : σ.Neutral act)
    (hacts : ∀ act ∈ acts, σ.Quiet act) : σ.Same { σ with core := s' } := by
  obtain ⟨t, move, hrest⟩ := Run.cons_iff.mp run
  have hsame : σ.Same { σ with core := t } := .of_move own htimers move hact
  exact hsame.trans (.of_run (own.preserved move) (htimers.same hsame) hrest hacts)

lemma quiet_busy (σ : System) {p : Ptr} {A B : Place} {v : SysTimerStruct} (hA : A.Busy)
    (hB : B.Busy) : σ.Quiet (.relocate p A B v) :=
  fun _ => ⟨fun _ h => absurd hB h, fun h => absurd hA h⟩

lemma quiet_fill {σ : System} {p : Ptr} {A B : Place} {v : SysTimerStruct} (hA : ¬ A.Busy)
    (hv : ¬ σ.TimesOut v.event.data) : σ.Quiet (.relocate p A B v) :=
  fun _ => ⟨fun h => absurd h hA, fun _ _ => hv⟩

lemma quiet_grow (σ : System) (p : Ptr) (v : SysTimerStruct) :
    σ.Quiet (.relocate p .outside .timerFree v) :=
  fun _ => ⟨fun h => absurd h id, fun _ h => absurd h id⟩

lemma requested_quiet {σ : System} {event : ArmEvent} {at_ period : BitVec 32}
    {answer r : Option Ptr} {acts : List Act} (h : Requested σ.core event at_ period answer r acts)
    (hevent : ¬ σ.TimesOut event) : ∀ act ∈ acts, σ.Quiet act :=
  h.forall_acts (σ.quiet_grow) fun _ _ _ _ => quiet_fill id hevent

end System

/-- A cancel of an event that is not one of a timeout. -/
lemma System.Same.of_cancel {σ : System} {s' : State} {p : Ptr} (own : Owned σ.core)
    (htimers : σ.TimersOnly) (run : Run Move σ.core (cancelActs σ.core p) s')
    (hp : ¬ σ.Timed p) : σ.Same { σ with core := s' } := by
  have hneutral : ∀ act ∈ cancelActs σ.core p, σ.Neutral act :=
    cancelActs_forall (fun A B v hA hB => ⟨fun _ _ => hp, fun h => absurd
      (by rcases hA with rfl | rfl <;> trivial) h⟩) hp
  have hshort : cancelActs σ.core p = [] ∨ ∃ act, cancelActs σ.core p = [act] := by
    unfold cancelActs
    split_ifs <;> (try split) <;> simp
  rcases hshort with hacts | ⟨act, hacts⟩
  · rw [hacts] at run
    obtain rfl := Run.nil_iff.mp run
    exact .refl σ
  · rw [hacts] at run
    exact .of_cons own htimers run (hneutral act (by simp [hacts])) (by simp)

/-- The storage whose handler returns is not given up if it is a timeout's timer and periodic. -/
lemma finishAct_neutral {σ : System} (htimers : σ.TimersOnly) {p : Ptr} {rest : List Ptr}
    (hrun : σ.core.running = p :: rest) (hp : σ.Timed p → (σ.core.mem p).period ≠ 0) :
    σ.Neutral (finishAct σ.core p) := by
  by_cases ht : σ.Timed p
  · have hclass := htimers p (Or.inr (Or.inr (by simp [hrun]))) ht
    simp only [finishAct, hclass, hp ht, ↓reduceIte]
    split_ifs
    · exact σ.quiet_busy (A := .running) (B := .queue) trivial trivial σ.core
    · exact σ.quiet_busy (A := .running) (B := .timerList) trivial trivial σ.core
  · obtain ⟨B, v, hfinish⟩ := finishAct_relocates σ.core p
    rw [hfinish]
    exact ⟨fun _ _ => ht, fun h => absurd trivial h⟩

/-- **Other code leaves the timeouts alone.** -/
theorem Effect.same {σ : System} {s' : State} {op : Op} {r : Ret} {acts : List Act}
    (own : Owned σ.core) (deliverable : Deliverable σ.core) (htimers : σ.TimersOnly)
    (hknown : σ.timeoutTaskletId ≠ -1 → Known σ.core σ.timeoutTaskletId)
    (heffect : Effect σ.core op r acts) (run : Run Move σ.core acts s')
    (hop : AddressedOp σ.core op) (halone : σ.LeavesAlone op)
    (hreturn : op = .handlerReturn → ∀ p ∈ σ.core.running.head?, σ.Timed p →
      (σ.core.mem p).period ≠ 0) : σ.Same { σ with core := s' } := by
  have hquiet : (∀ act ∈ acts, σ.Quiet act) → σ.Same { σ with core := s' } :=
    fun h => .of_run own htimers run h
  cases heffect with
  | handlerCreate hfun hsource =>
    -- the new tasklet has another id, so its init event is not a timeout event
    have hinit : ∀ id' ty, id' = taskletGetFreeId σ.core → ¬ σ.TimesOut (initEvent id' ty) := by
      rintro id' ty rfl ⟨hid, hreceiver, -⟩
      obtain ⟨u, hu⟩ := Option.isSome_iff_exists.mp (hknown hid)
      obtain ⟨hmem, hu, -⟩ := eventTaskletHandlerGet_eq_some hu
      have hlen : σ.core.armCoreTaskletList.length < 128 := hop
      exact (deliverable.registered.freeId (by simp only [int8Max]; omega)).2 u hmem
        (hu.trans hreceiver.symm)
    refine hquiet fun act hact => ?_
    simp only [List.mem_cons, List.not_mem_nil, or_false] at hact
    rcases hact with rfl | rfl
    · exact fun _ => trivial
    · exact System.quiet_fill (fun hA => eventSource_place hsource hA rfl) (hinit _ _ rfl)
  | handlerCreateDuplicate | handlerCreateFull | sendFail | requestEveryFail | timerCancelFail
  | cancelNull | clientAllocFail => exact hquiet (by simp)
  | send hreceiver hsource =>
    refine hquiet fun act hact => ?_
    obtain rfl := List.mem_singleton.mp hact
    exact System.quiet_fill (fun hA => eventSource_place hsource hA rfl) halone
  | sendUserAllocated =>
    refine hquiet fun act hact => ?_
    obtain rfl := List.mem_singleton.mp hact
    exact System.quiet_fill id halone
  | sendTimerAllocated =>
    refine hquiet fun act hact => ?_
    simp only [List.mem_cons, List.not_mem_nil, or_false] at hact
    rcases hact with rfl | rfl
    · exact σ.quiet_grow _ _
    · exact System.quiet_fill id halone
  | requestAt h | requestIn h | request h => exact hquiet (System.requested_quiet h halone)
  | requestEvery _ h => exact hquiet (System.requested_quiet h halone)
  | timerCancel hp =>
    exact System.Same.of_cancel own htimers run (halone _ hp)
  | cancel p => exact System.Same.of_cancel own htimers run (halone p rfl)
  | tickUpdate | synchAfterSleep =>
    exact hquiet (List.forall_mem_cons.mpr ⟨fun _ => trivial, expireActs_forall fun p v =>
      σ.quiet_busy (A := .timerList) (B := .queue) trivial trivial⟩)
  | setActiveTasklet | dispatchIdle => exact hquiet (by simp [System.Quiet, System.Neutral])
  | dispatch hqueue htasklet =>
    exact hquiet (List.forall_mem_cons.mpr ⟨σ.quiet_busy (A := .queue) (B := .running) trivial
      trivial, by simp [System.Quiet, System.Neutral]⟩)
  | handlerReturn hrun =>
    -- a one-shot timeout would give its timer back here, which `hreturn` excludes
    exact .of_cons own htimers run (finishAct_neutral htimers hrun (hreturn rfl _ (by simp [hrun])))
      (by simp [System.Quiet, System.Neutral])
  | handlerWrite data hrun =>
    exact .of_cons own htimers run ⟨halone.2 _ (by simp [hrun]), halone.1⟩ (by simp)
  | clientAlloc | clientFree => exact halone.elim

end EventLoop
