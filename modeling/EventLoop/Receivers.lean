import EventLoop.Pending
import EventLoop.Tasklets

/-!
# Every event has a receiver

The dispatcher looks up the tasklet of an event and calls its function without a check. This
rests on an invariant: whatever is queued, waits for its time, or runs is addressed to a
registered tasklet. Tasklets are never removed, so it is enough that every event that is filled
is addressed to one.
-/

namespace EventLoop

open Lib

/-- A tasklet is registered under an id. -/
def Known (s : State) (id : BitVec 8) : Prop := (eventTaskletHandlerGet id s).isSome

/-- Everything that is pending is addressed to a registered tasklet. -/
def Addressed (s : State) : Prop := ∀ p, Pending s p → Known s (s.event p).data.receiver

/-- What a step fills or writes is addressed to a registered tasklet. -/
def Act.AddressedIn (s : State) : Act → Prop
  | .relocate _ A B v => ¬ A.Busy → B.Busy → Known s v.event.data.receiver
  | .write p data => data.receiver = (s.event p).data.receiver
  | _ => True

/-! ## What moves do -/

lemma Known.mono {s s' : State} {act : Act} (move : Move s act s') {id : BitVec 8}
    (known : Known s id) : Known s' id := by
  rcases move.tasklets with h | ⟨new, block, -, h, -, -⟩
  · simpa [Known, eventTaskletHandlerGet, h] using known
  · simp only [Known, eventTaskletHandlerGet, h, List.find?_append, Option.isSome_or]
    simp only [Known, eventTaskletHandlerGet] at known
    simp [known]

lemma Known.mono_run {s s' : State} {acts : List Act} (run : Run Move s acts s') {id : BitVec 8}
    (known : Known s id) : Known s' id :=
  run.invariant (I := fun s => Known s id) known fun _ _ _ known move => known.mono move

/-- A storage that leaves a busy place keeps its event. -/
lemma Row.data_eq {s : State} {p : Ptr} {A B : Place} {v : SysTimerStruct}
    {h : Option HeapObject} (row : Row s p A B v h) (hA : A.Busy) :
    v.event.data = (s.event p).data := by
  cases row <;> first | rfl | exact hA.elim

/-- A move of what is addressed leaves everything addressed. -/
theorem Addressed.preserved {s s' : State} {act : Act} (addr : Addressed s) (own : Owned s)
    (move : Move s act s') (hact : act.AddressedIn s) : Addressed s' := by
  intro q hq
  cases move with
  | @relocate p A B v h row =>
    refine Known.mono (.relocate row) ?_
    by_cases hqp : q = p
    · subst hqp
      rw [State.move_event_self]
      by_cases hA : A.Busy
      · rw [row.data_eq hA]
        exact addr q (row.pending hA)
      · by_cases hB : B.Busy
        · exact hact hA hB
        -- the only other move from outside is that of a block that nothing uses
        cases row with
        | grow v fresh hstate =>
          have hlist : q ∉ s.systemTimerList := fun hmem =>
            List.count_pos_iff.mpr hmem |>.ne' (fresh.count_eq_zero own .timerList)
          rcases hq with hq | hq | hq
          · exact absurd (by simpa [State.move_queue] using hq) fresh.notQueued
          · exact absurd (by simpa [State.move_timerList] using hq) hlist
          · exact absurd (by simpa [State.move_running] using hq) fresh.notRunning
        | sendPool | sendDynamic | sendUser | fire => exact absurd trivial hB
        | arm => exact absurd trivial hB
        | _ => exact absurd trivial hA
    · rw [State.move_event_of_ne _ hqp]
      exact addr q (pending_of_move hq hqp)
  | register tasklet fresh hid hfun =>
    exact Known.mono (.register tasklet fresh hid hfun) (addr q hq)
  | write data hp hqueue =>
    rename_i p rest
    have hreceiver : ((s.setData p data).event q).data.receiver = (s.event q).data.receiver := by
      simp only [State.setData, State.store_event]
      split
      · next hqp => rw [hqp]; exact hact
      · rfl
    rw [hreceiver]
    exact addr q hq
  | unperiod hp hclass =>
    rw [State.setPeriod_event]
    exact addr q hq
  | clock | active | clientAlloc | clientFree => exact addr q hq

/-- A run of moves that fill events for tasklets known from the start. -/
theorem Addressed.run {s s' : State} {acts : List Act} (addr : Addressed s) (own : Owned s)
    (run : Run Move s acts s')
    (hacts : ∀ act ∈ acts, act.AddressedIn s ∧ ∀ p data, act ≠ .write p data) : Addressed s' := by
  induction run with
  | nil => exact addr
  | @snoc l t u act run move ih =>
    have haddr := ih fun act hact => hacts act (List.mem_append_left _ hact)
    obtain ⟨hact, hwrite⟩ := hacts act (List.mem_append_right _ List.mem_cons_self)
    refine haddr.preserved (own.run run) move ?_
    cases act with
    | relocate p A B v => exact fun hA hB => Known.mono_run run (hact hA hB)
    | write p data => exact absurd rfl (hwrite p data)
    | _ => trivial

/-! ## Operations -/

/-- What a caller does that keeps every event addressed: no registration when all ids are taken,
a known receiver for an event that the caller allocated, and no change of the receiver. -/
def AddressedOp (s : State) : Op → Prop
  | .handlerCreate _ _ _ _ => s.armCoreTaskletList.length < 128
  | .sendUserAllocated _ contents =>
    ∃ t ∈ s.armCoreTaskletList, t.id = contents.event.data.receiver
  | .sendTimerAllocated _ contents =>
    ∃ t ∈ s.armCoreTaskletList, t.id = contents.event.data.receiver
  | .handlerWrite data =>
    ∀ p ∈ s.running.head?, data.receiver = (s.event p).data.receiver
  | _ => True

instance (s : State) (op : Op) : Decidable (AddressedOp s op) := by
  cases op <;> unfold AddressedOp <;> infer_instance

lemma Requested.addressedIn {s : State} {event : ArmEvent} {at_ period : BitVec 32}
    {answer r : Option Ptr} {acts : List Act} (h : Requested s event at_ period answer r acts) :
    ∀ act ∈ acts, act.AddressedIn s ∧ ∀ p data, act ≠ .write p data := by
  refine h.forall_acts (fun _ _ => ⟨fun _ hB => hB.elim, by simp⟩) fun hreceiver _ _ _ => ?_
  exact ⟨fun _ _ => hreceiver, by simp⟩

lemma AddressedOp.fits {s : State} {op : Op} (h : AddressedOp s op) : RegistrationFits s op := by
  cases op <;> first | exact Or.inl h | trivial

/-- The new tasklet is known under its id. -/
lemma known_of_register {s s' : State} (reg : Registered s)
    (hlen : s.armCoreTaskletList.length < 128) {funcPtr : FuncPtr} {block : Ptr}
    (move : Move s (.register { id := taskletGetFreeId s, funcPtr := funcPtr } block) s') :
    Known s' (taskletGetFreeId s) := by
  obtain ⟨hle, -⟩ := reg.freeId (by simp only [int8Max]; omega)
  refine Option.isSome_iff_ne_none.mpr fun hnone => ?_
  refine (eventTaskletHandlerGet_eq_none hle).mp hnone
    { id := taskletGetFreeId s, funcPtr := funcPtr } ?_ rfl
  cases move
  exact List.mem_append_right _ List.mem_cons_self

/-- The lookup finds every tasklet, since no id is negative. -/
lemma known_of_mem {s : State} (reg : Registered s) (hvalid : ∀ t ∈ s.armCoreTaskletList, t.id ≠ -1)
    {id : BitVec 8} (h : ∃ t ∈ s.armCoreTaskletList, t.id = id) : Known s id := by
  obtain ⟨t, ht, rfl⟩ := h
  refine Option.isSome_iff_ne_none.mpr fun hnone => ?_
  exact (eventTaskletHandlerGet_eq_none (reg.range t ht (hvalid t ht))).mp hnone t ht rfl

/-- An operation keeps every event addressed. -/
theorem Addressed.step {s s' : State} {op : Op} {r : Ret} {acts : List Act} (addr : Addressed s)
    (own : Owned s) (reg : Registered s) (hvalid : ∀ t ∈ s.armCoreTaskletList, t.id ≠ -1)
    (hop : AddressedOp s op) (heffect : Effect s op r acts)
    (run : Run Move s acts s') : Addressed s' := by
  have hsingle : ∀ {act : Act}, act.AddressedIn s → (∀ p data, act ≠ .write p data) →
      ∀ act' ∈ [act], act'.AddressedIn s ∧ ∀ p data, act' ≠ .write p data := by
    intro act hact hwrite act' hmem
    obtain rfl := List.mem_singleton.mp hmem
    exact ⟨hact, hwrite⟩
  have hexpire : ∀ (t : State), ∀ act ∈ expireActs t,
      act.AddressedIn s ∧ ∀ p data, act ≠ .write p data :=
    fun _ => expireActs_forall fun _ _ => ⟨fun hA => absurd trivial hA, by simp⟩
  have hcancel : ∀ p, ∀ act ∈ cancelActs s p,
      act.AddressedIn s ∧ ∀ p data, act ≠ .write p data :=
    fun _ => cancelActs_forall (fun _ _ _ _ hB => ⟨fun _ hB' => absurd hB' hB, by simp⟩)
      ⟨trivial, by simp⟩
  have hfinish : ∀ p, (finishAct s p).AddressedIn s ∧ ∀ q data, finishAct s p ≠ .write q data := by
    intro p
    obtain ⟨B, v, hfinish⟩ := finishAct_relocates s p
    rw [hfinish]
    exact ⟨fun hA => absurd trivial hA, by simp⟩
  cases heffect with
  | handlerCreate hfun hsource =>
    simp only [Run.cons_iff, Run.nil_iff] at run
    obtain ⟨s₁, hregister, s₂, hrelocate, rfl⟩ := run
    -- the init event is for the tasklet that has just been registered
    have hknown := known_of_register reg hop hregister
    refine (addr.preserved own hregister trivial).preserved (own.preserved hregister) hrelocate ?_
    exact fun _ _ => hknown
  | handlerCreateDuplicate | handlerCreateFull | sendFail | requestEveryFail | timerCancelFail
  | cancelNull | clientAllocFail => exact addr.run own run (by simp)
  | send hreceiver hsource =>
    exact addr.run own run (hsingle (fun _ _ => hreceiver) (by simp))
  | sendUserAllocated =>
    exact addr.run own run (hsingle (fun _ _ => known_of_mem reg hvalid hop) (by simp))
  | sendTimerAllocated =>
    refine addr.run own run fun act hact => ?_
    simp only [List.mem_cons, List.not_mem_nil, or_false] at hact
    rcases hact with rfl | rfl
    · exact ⟨fun _ hB => hB.elim, by simp⟩
    · exact ⟨fun _ _ => known_of_mem reg hvalid hop, by simp⟩
  | requestAt h | requestIn h | request h => exact addr.run own run h.addressedIn
  | requestEvery _ h => exact addr.run own run h.addressedIn
  | timerCancel | cancel => exact addr.run own run (hcancel _)
  | tickUpdate | synchAfterSleep =>
    refine addr.run own run (List.forall_mem_cons.mpr ⟨⟨trivial, by simp⟩, hexpire _⟩)
  | setActiveTasklet | dispatchIdle | clientAlloc | clientFree =>
    exact addr.run own run (hsingle trivial (by simp))
  | dispatch hqueue htasklet =>
    refine addr.run own run (List.forall_mem_cons.mpr ⟨⟨fun hA => absurd trivial hA, by simp⟩, ?_⟩)
    exact hsingle trivial (by simp)
  | handlerReturn hrun =>
    exact addr.run own run (List.forall_mem_cons.mpr ⟨hfinish _, hsingle trivial (by simp)⟩)
  | handlerWrite data hrun =>
    -- a handler may rewrite its own event, and must keep it addressed
    simp only [Run.cons_iff, Run.nil_iff] at run
    obtain ⟨s₁, hwrite, rfl⟩ := run
    exact addr.preserved own hwrite (hop _ (by simp [hrun]))

/-- What holds in the runs whose operations keep every event addressed. -/
structure Deliverable (s : State) : Prop where
  registered : Registered s
  valid : ∀ t ∈ s.armCoreTaskletList, t.id ≠ -1
  addressed : Addressed s

theorem Deliverable.step {s s' : State} {op : Op} {r : Ret} {acts : List Act}
    (h : Deliverable s) (own : Owned s) (hop : AddressedOp s op) (heffect : Effect s op r acts)
    (run : Run Move s acts s') : Deliverable s' := by
  obtain ⟨reg, hvalid⟩ := Registered.step ⟨h.registered, h.valid⟩ hop.fits heffect run
  exact ⟨reg, hvalid, h.addressed.step own h.registered h.valid hop heffect run⟩

/-- Something that is pending has a receiver, and only one. -/
theorem Deliverable.receiver {s : State} (h : Deliverable s) {p : Ptr} (hp : Pending s p) :
    ∃ t, eventTaskletHandlerGet (s.event p).data.receiver s = some t ∧
      t ∈ s.armCoreTaskletList ∧ t.id = (s.event p).data.receiver ∧
      ∀ u ∈ s.armCoreTaskletList, u.id = (s.event p).data.receiver → u = t := by
  obtain ⟨t, ht⟩ := Option.isSome_iff_exists.mp (h.addressed p hp)
  obtain ⟨hmem, hid, -⟩ := eventTaskletHandlerGet_eq_some ht
  refine ⟨t, ht, hmem, hid, fun u hu huid => ?_⟩
  exact List.inj_on_of_nodup_map (h.registered.nodup_id h.valid) hu hmem (huid.trans hid.symm)

section

variable [NsList]

theorem Initial.deliverable {s : State} (init : Initial s) : Deliverable s := by
  refine ⟨init.registered, by simp [init.tasklets], ?_⟩
  obtain ⟨s₀, boot, rfl⟩ := init
  rw [boot.init_eq]
  rintro p (hp | hp | hp)
  · simp at hp
  · simp [boot.systemTimerList] at hp
  · simp [boot.running] at hp

/-- In a state where every event is addressed, a valid operation runs into no undefined
behaviour. -/
theorem Deliverable.exec_ok {s : State} (h : Deliverable s) (own : Owned s) {op : Op}
    (valid : Valid s op) : ∃ s' r, exec op s = .ok (s', r) := by
  rcases exec_performs own valid with ⟨s', r, acts, hexec, -, -⟩ | ⟨-, -, p, rest, hqueue, hnone⟩
  · exact ⟨s', r, hexec⟩
  · have hknown := h.addressed p (Or.inl (by simp [hqueue]))
    simp [Known, hnone] at hknown

end

end EventLoop
