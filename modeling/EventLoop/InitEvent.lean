import EventLoop.BoundedWaiting

/-!
# The init event comes first

A new tasklet gets an init event of low priority. Its id is one that no tasklet has, so nothing that
is queued, waits for its time or runs is addressed to it, and whatever is sent to it with low
priority comes behind its init event. Only events of a higher priority reach a handler before.
-/

namespace EventLoop

open Lib
open Lib.StableQueue (Action Entry Implements Queue)

/-- A successful registration finds a free id, to which nothing was addressed, and writes the init
event. -/
lemma Effect.registration {s : State} {handlerFuncPtr : FuncPtr} {initEventType : BitVec 8}
    {newTasklet newEvent : Option Ptr} {c : ℤ} {acts : List Act} (deliverable : Deliverable s)
    (heffect : Effect s (.handlerCreate handlerFuncPtr initEventType newTasklet newEvent) (.code c)
      acts) (hc : 0 ≤ c) :
    AddressedOp s (.handlerCreate handlerFuncPtr initEventType newTasklet newEvent) ∧
      (∃ p, observe s (.handlerCreate handlerFuncPtr initEventType newTasklet newEvent) (.code c)
        = [.write p (initEvent (BitVec.ofInt 8 c) initEventType)]) ∧
      ∀ p, Pending s p → (s.event p).data.receiver ≠ BitVec.ofInt 8 c := by
  have hactions := heffect.queueActions deliverable.registered
  cases heffect with
  | @handlerCreate _ _ block newEvent p A allocator hfun hsource =>
    have hroom : s.armCoreTaskletList.length ≤ int8Max := by
      by_contra hfull
      rw [deliverable.registered.freeId_full (Nat.lt_of_not_le hfull)] at hc
      exact absurd hc (by decide)
    obtain ⟨-, hfree⟩ := deliverable.registered.freeId hroom
    have hid : BitVec.ofInt 8 (taskletGetFreeId s).toInt = taskletGetFreeId s := BitVec.ofInt_toInt
    rw [hid]
    refine ⟨Nat.lt_succ_of_le hroom, ⟨p, ?_⟩, fun q hq hreceiver => ?_⟩
    · rw [← hactions (Nat.lt_succ_of_le hroom)]
      rfl
    · obtain ⟨t, -, ht, hreceiver', -⟩ := deliverable.receiver hq
      exact hfree t ht (hreceiver'.trans hreceiver)
  | handlerCreateDuplicate | handlerCreateFull => simp at hc

/-- What is pending in the abstract queue is queued. -/
lemma Represents.receiver_ne {s : State} {q : Queue Ptr ArmEvent} (rep : Represents s q)
    {id : BitVec 8} (hnone : ∀ p, Pending s p → (s.event p).data.receiver ≠ id) :
    ∀ e ∈ q.pending, e.data.receiver ≠ id := by
  obtain ⟨es, impl, hkeys, hes⟩ := rep
  intro e he
  have hmem := (impl.mem_iff e).mpr he
  have hqueued : e.key ∈ s.eventQueueActive := hkeys ▸ List.mem_map_of_mem hmem
  rw [hes e hmem]
  exact hnone e.key (Or.inl hqueued)

section

variable [NsList]

/-- **A tasklet gets its init event first**, in every run: nothing that is queued, waits or runs is
addressed to the id of a new tasklet, and whatever is handed to its handler before its init event
was sent later with a higher priority, unless the init event is cancelled. -/
theorem init_event_first {s₀ s s' u : State} {l₀ l : List (List (Action Ptr ArmEvent))}
    {handlerFuncPtr : FuncPtr} {initEventType : BitVec 8} {newTasklet newEvent : Option Ptr} {c : ℤ}
    (init : Initial s₀) (before : Run QueueStep s₀ l₀ s)
    (create : Step s (.handlerCreate handlerFuncPtr initEventType newTasklet newEvent, .code c) s')
    (hc : 0 ≤ c) (run : Run QueueStep s' l u) :
    (∀ p, Pending s p → (s.event p).data.receiver ≠ BitVec.ofInt 8 c) ∧
    ∃ p, observe s (.handlerCreate handlerFuncPtr initEventType newTasklet newEvent) (.code c)
        = [.write p (initEvent (BitVec.ofInt 8 c) initEventType)] ∧
      ∀ l₁ q data l₂, l.flatten = l₁ ++ .deliver q data :: l₂ →
        data.receiver = BitVec.ofInt 8 c →
        (.cancel p ∈ l₁ ∨ .deliver p (initEvent (BitVec.ofInt 8 c) initEventType) ∈ l₁) ∨
          (q = p ∧ data = initEvent (BitVec.ofInt 8 c) initEventType) ∨
          (data.priority ≠ .low ∧ .write q data ∈ l₁) := by
  obtain ⟨q₁, hqueue, own, deliverable, rep⟩ :=
    QueueStep.simulate_run init.owned init.deliverable init.represents before
  have keyed : q₁.Keyed := Queue.Keyed.empty.run hqueue
  obtain ⟨acts, heffect, -⟩ := Step.effect own create
  obtain ⟨hroom, ⟨p, hwrite⟩, hnone⟩ := heffect.registration deliverable hc
  have hstep : QueueStep s [.write p (initEvent (BitVec.ofInt 8 c) initEventType)] s' :=
    ⟨_, _, create, hroom, hwrite.symm⟩
  obtain ⟨q₂, hwritten, own', deliverable', rep'⟩ := hstep.simulate own deliverable rep
  obtain ⟨_, hwrite', hnil⟩ := Run.cons_iff.mp hwritten
  obtain rfl := Run.nil_iff.mp hnil
  obtain ⟨q₃, hrun, -⟩ := QueueStep.simulate_run own' deliverable' rep' run
  -- the init event is the only one for its receiver
  have leads : q₂.Leads ArmEvent.rank (·.receiver = BitVec.ofInt 8 c)
      (q₁.next p (initEvent (BitVec.ofInt 8 c) initEventType)) [] := by
    refine ⟨(keyed.ahead_next hwrite').1, fun e he hreceiver hne => ?_⟩
    cases hwrite' with
    | write _ _ hfresh =>
      rcases he with rfl | he
      · exact absurd rfl hne
      · exact absurd hreceiver (rep.receiver_ne hnone e he)
  refine ⟨hnone, p, hwrite, fun l₁ q data l₂ hl hreceiver => ?_⟩
  rw [hl] at hrun
  refine ((keyed.step hwrite').overtaken leads hrun hreceiver).imp_right (Or.imp_right ?_)
  rintro ⟨hlt, hmem⟩
  refine ⟨fun hlow => ?_, hmem⟩
  rw [ArmEvent.rank, ArmEvent.rank, hlow] at hlt
  exact lt_irrefl _ hlt

end

/-- An event of low priority is sent to the new tasklet, then one of high priority. -/
def initOps : List Op :=
  [.send lowEvent none, .send { lowEvent with priority := .high } none, .dispatch, .handlerReturn,
    .dispatch, .handlerReturn, .dispatch]

/-- The event of high priority is handed over before the init event, and the one of low priority
after it. -/
theorem init_event_first_overtaken : ∃ s' u l p,
    Step (eventOSSchedulerInit (.boot 0)) (.handlerCreate 7 1 (some (.heap 0)) none, .code 0) s' ∧
    Run QueueStep s' l u ∧ l.flatten.filterMap Action.delivered
      = [(.startupEventPool 7, { lowEvent with priority := .high }),
          (.startupEventPool 9, initEvent 0 1), (.startupEventPool 8, lowEvent)] ∧
    ∀ l₁ q data l₂, l.flatten = l₁ ++ .deliver q data :: l₂ → data.receiver = 0 →
      (.cancel p ∈ l₁ ∨ .deliver p (initEvent 0 1) ∈ l₁) ∨ (q = p ∧ data = initEvent 0 1) ∨
        (data.priority ≠ .low ∧ .write q data ∈ l₁) := by
  obtain ⟨s', hexec, l, u, htrace, hdelivered⟩ : ∃ s',
      exec (.handlerCreate 7 1 (some (.heap 0)) none) (eventOSSchedulerInit (.boot 0))
        = .ok (s', .code 0) ∧ ∃ l u,
      Run.trace (State.attemptWith AddressedOp observe) initOps s' = some (l, u) ∧
      (l.map Prod.snd).flatten.filterMap Action.delivered
        = [(.startupEventPool 7, { lowEvent with priority := .high }),
            (.startupEventPool 9, initEvent 0 1), (.startupEventPool 8, lowEvent)] := by
    refine ⟨_, rfl, _, _, rfl, ?_⟩
    decide +kernel
  have create : Step (eventOSSchedulerInit (.boot 0))
      (.handlerCreate 7 1 (some (.heap 0)) none, .code 0) s' := ⟨by decide, hexec⟩
  obtain ⟨hrun, -⟩ : Run (fun s label s' => QueueStep s label.2 s') s' l u ∧
      l.map Prod.fst = initOps :=
    Run.of_trace (fun _ _ _ _ h => ⟨_, State.attemptWith_step h⟩) htrace
  have run : Run QueueStep s' (l.map Prod.snd) u := hrun.map fun _ _ _ step => step
  obtain ⟨-, p, -, hfirst⟩ := init_event_first (boot_initial 0) .nil create le_rfl run
  exact ⟨s', u, _, p, create, run, hdelivered, hfirst⟩

end EventLoop
