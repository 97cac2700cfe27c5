import EventLoop.EventCoreTheorems

/-!
# Tasklets and their ids

A tasklet is registered under the first id of 0..127 that is free. When all of them are taken
`tasklet_get_free_id` answers -1, which `eventOS_event_handler_create` does not look at: the new
tasklet is registered under -1.
-/

namespace EventLoop

open Lib

/-! ## Looking up an id -/

/-- The comparison of a signed id with an unsigned one finds the id itself, if it is not
negative. -/
lemma toInt_eq_toNat_iff (id receiver : BitVec 8) :
    id.toInt = receiver.toNat ↔ id = receiver ∧ receiver.toNat ≤ int8Max := by
  have hid := id.isLt
  have hreceiver := receiver.isLt
  have htoInt := BitVec.toInt_eq_toNat_cond id
  constructor
  · intro h
    split at htoInt
    · have heq : id.toNat = receiver.toNat := by omega
      exact ⟨BitVec.eq_of_toNat_eq heq, by simp only [int8Max]; omega⟩
    · omega
  · rintro ⟨rfl, hle⟩
    simp only [int8Max] at hle
    rw [htoInt, if_pos (by omega)]

lemma eventTaskletHandlerGet_eq_some {receiver : BitVec 8} {s : State} {t : ArmCoreTasklet}
    (h : eventTaskletHandlerGet receiver s = some t) :
    t ∈ s.armCoreTaskletList ∧ t.id = receiver ∧ receiver.toNat ≤ int8Max := by
  have hid := List.find?_some h
  exact ⟨List.mem_of_find?_eq_some h, (toInt_eq_toNat_iff _ _).mp (by simpa using hid)⟩

lemma eventTaskletHandlerGet_eq_none {receiver : BitVec 8} (hle : receiver.toNat ≤ int8Max)
    {s : State} :
    eventTaskletHandlerGet receiver s = none ↔ ∀ t ∈ s.armCoreTaskletList, t.id ≠ receiver := by
  simp only [eventTaskletHandlerGet, List.find?_eq_none, decide_eq_true_eq, toInt_eq_toNat_iff]
  exact ⟨fun h t ht heq => h t ht ⟨heq, hle⟩, fun h t ht heq => h t ht heq.1⟩

lemma toNat_ofNat_id {i : ℕ} (hi : i ≤ int8Max) : (BitVec.ofNat 8 i).toNat = i := by
  simp only [int8Max] at hi
  rw [BitVec.toNat_ofNat]
  omega

/-- An id of 0..127 is read the same signed and unsigned. -/
lemma toInt_of_le {id : BitVec 8} (hle : id.toNat ≤ int8Max) : id.toInt = id.toNat :=
  (toInt_eq_toNat_iff id id).mpr ⟨rfl, hle⟩

/-! ## The free id -/

/-- All of the ids 0..127 are taken. -/
def AllTaken (s : State) : Prop :=
  ∀ id : BitVec 8, id.toNat ≤ int8Max → ∃ t ∈ s.armCoreTaskletList, t.id = id

/-- `tasklet_get_free_id` finds an id that is not taken, unless there is none. -/
lemma taskletGetFreeId_spec (s : State) :
    ((taskletGetFreeId s).toNat ≤ int8Max ∧
      ∀ t ∈ s.armCoreTaskletList, t.id ≠ taskletGetFreeId s) ∨
    (taskletGetFreeId s = -1 ∧ AllTaken s) := by
  unfold taskletGetFreeId
  split
  · next i hfind =>
    have hi : i ≤ int8Max := by
      have := List.mem_range.mp (List.mem_of_find?_eq_some hfind)
      omega
    have hnone := List.find?_some hfind
    rw [Option.isNone_iff_eq_none,
      eventTaskletHandlerGet_eq_none (by rwa [toNat_ofNat_id hi])] at hnone
    exact Or.inl ⟨by rwa [toNat_ofNat_id hi], hnone⟩
  · next hfind =>
    refine Or.inr ⟨rfl, fun id hid => ?_⟩
    have htaken := List.find?_eq_none.mp hfind id.toNat (List.mem_range.mpr (by omega))
    rw [BitVec.ofNat_toNat, BitVec.setWidth_eq, Option.isNone_iff_eq_none,
      eventTaskletHandlerGet_eq_none hid] at htaken
    push Not at htaken
    exact htaken

/-! ## The registered tasklets -/

/-- What holds of the tasklet list in every reachable state: the only id that can be there twice
is -1, and it is there only if no other is free. -/
structure Registered (s : State) : Prop where
  funcPtr : (s.armCoreTaskletList.map (·.funcPtr)).Nodup
  id : ((s.armCoreTaskletList.map (·.id)).filter (· ≠ -1)).Nodup
  range : ∀ t ∈ s.armCoreTaskletList, t.id ≠ -1 → t.id.toNat ≤ int8Max
  full : ∀ t ∈ s.armCoreTaskletList, t.id = -1 → AllTaken s

/-- Only a registration changes the tasklets. -/
lemma Move.tasklets {s s' : State} {act : Act} (move : Move s act s') :
    s'.armCoreTaskletList = s.armCoreTaskletList ∨
      ∃ t block, act = .register t block ∧ s'.armCoreTaskletList = s.armCoreTaskletList ++ [t] ∧
        t.id = taskletGetFreeId s ∧ ∀ u ∈ s.armCoreTaskletList, u.funcPtr ≠ t.funcPtr := by
  cases move with
  | register tasklet fresh hid hfun => exact Or.inr ⟨tasklet, _, rfl, rfl, hid, hfun⟩
  | relocate row => exact Or.inl (State.move_tasklets _ _ _ _ _ _)
  | _ => exact Or.inl rfl

/-- Moves that register nothing leave the tasklets alone. -/
lemma tasklets_of_run {s s' : State} {acts : List Act} (run : Run Move s acts s')
    (hacts : ∀ t block, .register t block ∉ acts) :
    s'.armCoreTaskletList = s.armCoreTaskletList := by
  have hne : ∀ act ∈ acts, ∀ t block, act ≠ .register t block := by
    rintro act hact t block rfl
    exact hacts t block hact
  refine run.invariant_on (I := fun t => t.armCoreTaskletList = s.armCoreTaskletList) rfl hne
    fun t act u hsame hact move => ?_
  rcases move.tasklets with h | ⟨new, block, rfl, -⟩
  · rw [h, hsame]
  · exact absurd rfl (hact new block)

/-- The only operation that registers a tasklet is `eventOS_event_handler_create`. -/
lemma Effect.register {s : State} {op : Op} {r : Ret} {acts : List Act}
    (heffect : Effect s op r acts) : (∀ t block, .register t block ∉ acts) ∨
      ∃ f ty block newEvent p A allocator v,
        op = .handlerCreate f ty (some block) newEvent ∧
        (∀ t ∈ s.armCoreTaskletList, t.funcPtr ≠ f) ∧
        eventSource s newEvent = some (p, A, allocator) ∧
        acts = [.register { id := taskletGetFreeId s, funcPtr := f } block,
          .relocate p A .queue v] := by
  have hcancel : ∀ t block p, .register t block ∉ cancelActs s p := by
    intro t block p hmem
    have hne : ∀ act ∈ cancelActs s p, act ≠ .register t block :=
      cancelActs_forall (by simp) (by simp)
    exact hne _ hmem rfl
  have hexpire : ∀ t block (s : State), .register t block ∉ expireActs s := by
    intro t block s hmem
    have hne : ∀ act ∈ expireActs s, act ≠ .register t block := expireActs_forall (by simp)
    exact hne _ hmem rfl
  have hfinish : ∀ t block p, .register t block ≠ finishAct s p := by
    intro t block p
    obtain ⟨B, v, hfinish⟩ := finishAct_relocates s p
    simp [hfinish]
  have hrequest : ∀ {event at_ period answer r acts},
      Requested s event at_ period answer r acts → ∀ t block, .register t block ∉ acts := by
    intro event at_ period answer r acts h t block hmem
    have hne : ∀ act ∈ acts, act ≠ .register t block := h.forall_acts (by simp) (by simp)
    exact hne _ hmem rfl
  cases heffect with
  | handlerCreate hfun hsource =>
    exact Or.inr ⟨_, _, _, _, _, _, _, _, rfl, hfun, hsource, rfl⟩
  | requestAt h => exact Or.inl (hrequest h)
  | requestIn h => exact Or.inl (hrequest h)
  | requestEvery _ h => exact Or.inl (hrequest h)
  | request h => exact Or.inl (hrequest h)
  | _ => exact Or.inl fun t block => by simp [hcancel, hexpire, hfinish]

/-- The tasklets after an operation. -/
lemma Effect.tasklets {s s' : State} {op : Op} {r : Ret} {acts : List Act}
    (heffect : Effect s op r acts) (run : Run Move s acts s') :
    s'.armCoreTaskletList = s.armCoreTaskletList ∨ ∃ f ty newTasklet newEvent,
      op = .handlerCreate f ty newTasklet newEvent ∧
      s'.armCoreTaskletList
        = s.armCoreTaskletList ++ [{ id := taskletGetFreeId s, funcPtr := f }] := by
  rcases heffect.register with hacts | ⟨f, ty, block, newEvent, p, A, allocator, v, rfl, -, -, rfl⟩
  · exact Or.inl (tasklets_of_run run hacts)
  · refine Or.inr ⟨f, ty, some block, newEvent, rfl, ?_⟩
    simp only [Run.cons_iff, Run.nil_iff] at run
    obtain ⟨t, hregister, u, hrelocate, rfl⟩ := run
    cases hregister
    cases hrelocate
    exact State.move_tasklets ..

lemma Registered.of_eq {s s' : State} (reg : Registered s)
    (h : s'.armCoreTaskletList = s.armCoreTaskletList) : Registered s' := by
  obtain ⟨hfun, hid, hrange, hfull⟩ := reg
  refine ⟨by rwa [h], by rwa [h], by rwa [h], ?_⟩
  rw [h]
  intro t ht hneg id hle
  rw [h]
  exact hfull t ht hneg id hle

/-- A move keeps what holds of the tasklets. -/
theorem Registered.preserved {s s' : State} {act : Act} (reg : Registered s)
    (move : Move s act s') : Registered s' := by
  rcases move.tasklets with h | ⟨new, block, -, h, hnew, hfun⟩
  · exact reg.of_eq h
  have hgrow : AllTaken s → AllTaken s' := by
    intro hall id hle
    obtain ⟨t, ht, hid⟩ := hall id hle
    exact ⟨t, by simp [h, ht], hid⟩
  refine ⟨?_, ?_, ?_, ?_⟩
  · rw [h, List.map_append, List.nodup_append]
    refine ⟨reg.funcPtr, by simp, ?_⟩
    intro f hf g hg heq
    obtain ⟨t, ht, rfl⟩ := List.mem_map.mp hf
    obtain rfl : g = new.funcPtr := by simpa using hg
    exact hfun t ht heq
  · rw [h, List.map_append, List.filter_append, List.nodup_append]
    refine ⟨reg.id, List.Nodup.filter _ (by simp), ?_⟩
    intro i hi j hj heq
    obtain ⟨rfl, hne⟩ : j = new.id ∧ new.id ≠ -1 := by
      have := List.mem_filter.mp hj
      simp_all
    rcases taskletGetFreeId_spec s with ⟨-, hfree⟩ | ⟨hneg, -⟩
    · obtain ⟨t, ht, hid⟩ := List.mem_map.mp (List.mem_filter.mp hi).1
      exact hfree t ht (by rw [hid, heq, hnew])
    · exact hne (hnew.trans hneg)
  · intro t ht hne
    rw [h, List.mem_append, List.mem_singleton] at ht
    rcases ht with ht | rfl
    · exact reg.range t ht hne
    · rcases taskletGetFreeId_spec s with ⟨hle, -⟩ | ⟨hneg, -⟩
      · rwa [hnew]
      · exact absurd (hnew.trans hneg) hne
  · intro t ht hneg
    rw [h, List.mem_append, List.mem_singleton] at ht
    rcases ht with ht | rfl
    · exact hgrow (reg.full t ht hneg)
    · rcases taskletGetFreeId_spec s with ⟨hle, -⟩ | ⟨-, hall⟩
      · rw [← hnew, hneg] at hle
        exact absurd hle (by decide)
      · exact hgrow hall

/-- The ids a tasklet may have. -/
def taskletIds : List (BitVec 8) := (List.range (int8Max + 1)).map (BitVec.ofNat 8)

lemma mem_taskletIds {id : BitVec 8} : id ∈ taskletIds ↔ id.toNat ≤ int8Max := by
  constructor
  · intro h
    obtain ⟨i, hi, rfl⟩ := List.mem_map.mp h
    have := List.mem_range.mp hi
    rw [toNat_ofNat_id (by omega)]
    omega
  · intro h
    refine List.mem_map.mpr ⟨id.toNat, List.mem_range.mpr (by omega), ?_⟩
    rw [BitVec.ofNat_toNat, BitVec.setWidth_eq]

lemma taskletIds_nodup : taskletIds.Nodup := by
  refine List.Nodup.map_on ?_ List.nodup_range
  intro i hi j hj heq
  have hi' := List.mem_range.mp hi
  have hj' := List.mem_range.mp hj
  rw [← toNat_ofNat_id (i := i) (by omega), heq, toNat_ofNat_id (by omega)]

/-- The ids are different when none of them is -1. -/
lemma Registered.nodup_id {s : State} (reg : Registered s)
    (hne : ∀ t ∈ s.armCoreTaskletList, t.id ≠ -1) : (s.armCoreTaskletList.map (·.id)).Nodup := by
  have hfilter : (s.armCoreTaskletList.map (·.id)).filter (· ≠ -1)
      = s.armCoreTaskletList.map (·.id) := by
    refine List.filter_eq_self.mpr fun id hid => ?_
    obtain ⟨t, ht, rfl⟩ := List.mem_map.mp hid
    simpa using hne t ht
  have hnodup := reg.id
  rwa [hfilter] at hnodup

/-- All ids are taken when 128 tasklets are registered. -/
theorem Registered.allTaken_iff {s : State} (reg : Registered s) :
    AllTaken s ↔ int8Max < s.armCoreTaskletList.length := by
  constructor
  · intro hall
    have hsub : taskletIds ⊆ s.armCoreTaskletList.map (·.id) := by
      intro id hid
      obtain ⟨t, ht, rfl⟩ := hall id (mem_taskletIds.mp hid)
      exact List.mem_map_of_mem ht
    have hle := (List.subperm_of_subset taskletIds_nodup hsub).length_le
    simp only [taskletIds, List.length_map, List.length_range] at hle
    omega
  · intro hlen
    by_cases hneg : ∃ t ∈ s.armCoreTaskletList, t.id = -1
    · obtain ⟨t, ht, hneg⟩ := hneg
      exact reg.full t ht hneg
    -- 128 different ids of 0..127 are all of them
    push Not at hneg
    have hsub : s.armCoreTaskletList.map (·.id) ⊆ taskletIds := by
      intro id hid
      obtain ⟨t, ht, rfl⟩ := List.mem_map.mp hid
      exact mem_taskletIds.mpr (reg.range t ht (hneg t ht))
    have hperm := (List.subperm_of_subset (reg.nodup_id hneg) hsub).perm_of_length_le (by
      simp only [taskletIds, List.length_map, List.length_range]
      omega)
    intro id hid
    obtain ⟨t, ht, rfl⟩ := List.mem_map.mp (hperm.mem_iff.mpr (mem_taskletIds.mpr hid))
    exact ⟨t, ht, rfl⟩

/-- `tasklet_get_free_id` finds an id from 0 to 127 that no tasklet has, as long as fewer than 128
are registered. -/
theorem Registered.freeId {s : State} (reg : Registered s)
    (hlen : s.armCoreTaskletList.length ≤ int8Max) :
    (taskletGetFreeId s).toNat ≤ int8Max ∧
      ∀ t ∈ s.armCoreTaskletList, t.id ≠ taskletGetFreeId s := by
  rcases taskletGetFreeId_spec s with h | ⟨-, hall⟩
  · exact h
  · exact absurd (reg.allTaken_iff.mp hall) (by omega)

/-- With 128 tasklets registered it returns -1. -/
theorem Registered.freeId_full {s : State} (reg : Registered s)
    (hlen : int8Max < s.armCoreTaskletList.length) : taskletGetFreeId s = -1 := by
  rcases taskletGetFreeId_spec s with ⟨hle, hfree⟩ | ⟨hneg, -⟩
  · obtain ⟨t, ht, hid⟩ := reg.allTaken_iff.mpr hlen _ hle
    exact absurd hid (hfree t ht)
  · exact hneg

section

variable [NsList]

lemma Initial.tasklets {s : State} (init : Initial s) : s.armCoreTaskletList = [] := by
  obtain ⟨s₀, boot, rfl⟩ := init
  rw [boot.init_eq]

lemma Initial.registered {s : State} (init : Initial s) : Registered s := by
  constructor <;> simp [init.tasklets]

theorem Reachable.registered {s : State} (reachable : Reachable s) : Registered s :=
  reachable.invariant (fun _ init => init.registered) fun _ _ _ _ reg move => reg.preserved move

/-! ## `eventOS_event_handler_create` -/

/-- What a registration should do: nothing at all if it fails; else a fresh id, one tasklet more,
and its init event at the end of the queue. -/
def HandlerCreateSpec (handlerFuncPtr : FuncPtr) (initEventType : BitVec 8) (s s' : State)
    (ret : ℤ) : Prop :=
  (ret < 0 → s'.armCoreTaskletList = s.armCoreTaskletList ∧
    s'.eventQueueActive = s.eventQueueActive ∧ s'.freeEventEntry = s.freeEventEntry ∧
    (∀ A, s'.at_ A = s.at_ A) ∧ s'.heap = s.heap) ∧
  (0 ≤ ret → ret ≤ 127 ∧ (∀ t ∈ s.armCoreTaskletList, t.id.toInt ≠ ret) ∧
    ∃ id : BitVec 8, id.toInt = ret ∧
      s'.armCoreTaskletList = s.armCoreTaskletList ++ [{ id := id, funcPtr := handlerFuncPtr }] ∧
      ∃ p, p ∉ s.eventQueueActive ∧ s'.eventQueueActive = s.eventQueueActive ++ [p] ∧
        (s'.event p).data = initEvent id initEventType ∧ ∀ q, q ≠ p → s'.mem q = s.mem q)

/-- When a registration goes as it should: an id is free, or the registration fails before an id
is needed. -/
def RegistrationFits (s : State) : Op → Prop
  | .handlerCreate handlerFuncPtr _ newTasklet newEvent =>
    s.armCoreTaskletList.length < 128 ∨ (∃ t ∈ s.armCoreTaskletList, t.funcPtr = handlerFuncPtr) ∨
      newTasklet = none ∨ eventSource s newEvent = none
  | _ => True

omit [NsList] in
/-- Dynamic memory is the source of a send only if it was allocated for it. -/
lemma eventSource_heap {s : State} (own : Owned s) {answer : Option Ptr} {a : ℕ} {A : Place}
    {allocator : Allocator} (h : eventSource s answer = some (.heap a, A, allocator)) :
    answer = some (.heap a) := by
  unfold eventSource at h
  split at h
  · next p rest hfree =>
    obtain ⟨rfl, -, -⟩ : p = .heap a ∧ _ ∧ _ := by simpa using h
    have hclass := own.admits .free (.heap a) (by simp [State.at_, hfree])
    simp only [Place.Admits, State.classOf] at hclass
    split at hclass <;> simp_all
  · obtain ⟨hanswer, -, -⟩ : answer = some (.heap a) ∧ _ ∧ _ := by simpa using h
    exact hanswer

omit [NsList] in
/-- An event of the lowest priority is written to the end of the queue. -/
lemma move_queue_low {s : State} {p : Ptr} {A : Place} {v : SysTimerStruct}
    {h : Option HeapObject} (hA : A ≠ .queue) (hlow : v.event.data.priority = .low) :
    (s.move p A .queue v h).eventQueueActive = s.eventQueueActive ++ [p] := by
  rw [State.move_queue, if_pos rfl, if_neg hA]
  refine orderedInsert_eq_append fun b _ => ?_
  have hself : (s.store p v).priority p = 2 := by
    simp [State.priority, hlow, EventPriority.toNat]
  have hother : (s.store p v).priority b ≤ 2 := by
    unfold State.priority
    cases ((s.store p v).event b).data.priority <;> simp [EventPriority.toNat]
  omega

omit [NsList] in
/-- A registration that gets as far as an id does what it should if and only if an id is free. -/
lemma handlerCreate_registers {s s' : State} (own : Owned s) (reg : Registered s)
    {handlerFuncPtr : FuncPtr} {initEventType : BitVec 8} {newEvent : Option Ptr} {p : Ptr}
    {A : Place} {allocator : Allocator} {block : Ptr}
    (hsource : eventSource s newEvent = some (p, A, allocator))
    (run : Run Move s [.register { id := taskletGetFreeId s, funcPtr := handlerFuncPtr } block,
      .relocate p A .queue (written s p (initEvent (taskletGetFreeId s) initEventType) allocator)]
      s') :
    HandlerCreateSpec handlerFuncPtr initEventType s s' (taskletGetFreeId s).toInt ↔
      s.armCoreTaskletList.length < 128 := by
  simp only [Run.cons_iff, Run.nil_iff] at run
  obtain ⟨s₁, hregister, s₂, hrelocate, rfl⟩ := run
  have own₁ := own.preserved hregister
  cases hregister with
  | register tasklet fresh hid hfun =>
  cases hrelocate with
  | relocate row =>
  have hA := eventSource_place hsource (B := .queue) trivial
  constructor
  · intro hspec
    by_contra hfull
    have hneg : taskletGetFreeId s = -1 :=
      reg.freeId_full (by simp only [int8Max]; omega)
    have hlist := (hspec.1 (by rw [hneg]; decide)).1
    simp at hlist
  · intro hlen
    obtain ⟨hle, hfree⟩ := reg.freeId (by simp only [int8Max]; omega)
    have hint := toInt_of_le hle
    simp only [int8Max] at hle
    refine ⟨fun hneg => by omega, fun _ => ⟨by omega, ?_, taskletGetFreeId s, rfl, by simp, p,
      own₁.notMem_queue row hA, move_queue_low hA rfl, ?_, ?_⟩⟩
    · intro t ht heq
      exact hfree t ht (BitVec.eq_of_toInt_eq heq)
    · rw [State.move_event_self]
      rfl
    · intro q hq
      simp [hq]

omit [NsList] in
/-- A step whose registration fits keeps the ids apart. -/
lemma Registered.step {s s' : State} {op : Op} {r : Ret} {acts : List Act}
    (h : Registered s ∧ ∀ t ∈ s.armCoreTaskletList, t.id ≠ -1) (hfits : RegistrationFits s op)
    (heffect : Effect s op r acts) (run : Run Move s acts s') :
    Registered s' ∧ ∀ t ∈ s'.armCoreTaskletList, t.id ≠ -1 := by
  refine ⟨run.invariant h.1 fun _ _ _ reg move => reg.preserved move, ?_⟩
  rcases heffect.register with hacts | ⟨f, ty, block, newEvent, p, A, allocator, v, rfl, hfun,
    hsource, rfl⟩
  · rw [tasklets_of_run run hacts]
    exact h.2
  · have hlen : s.armCoreTaskletList.length ≤ int8Max := by
      rcases hfits with hlen | ⟨t, ht, heq⟩ | hnone | hnone
      · simp only [int8Max]
        omega
      · exact absurd heq (hfun t ht)
      · simp at hnone
      · simp [hnone] at hsource
    obtain ⟨hle, -⟩ := h.1.freeId hlen
    simp only [Run.cons_iff, Run.nil_iff] at run
    obtain ⟨s₁, hregister, s₂, hrelocate, rfl⟩ := run
    cases hregister with
    | register tasklet fresh hid hfun' =>
    cases hrelocate with
    | relocate row =>
    intro t ht hneg
    rw [State.move_tasklets, List.mem_append, List.mem_singleton] at ht
    rcases ht with ht | rfl
    · exact h.2 t ht hneg
    · simp only at hneg
      rw [hneg] at hle
      exact absurd hle (by decide)

/-- **A registration is atomic on failure and fresh on success if and only if an id is free, or it
fails before an id is needed. When every registration is like that, the ids are different ones of
0..127, and so are the functions.** -/
theorem handlerCreate_spec_iff :
    (∀ s, Reachable s → ∀ handlerFuncPtr initEventType newTasklet newEvent,
      Valid s (.handlerCreate handlerFuncPtr initEventType newTasklet newEvent) →
      ∃ s' ret,
        exec (.handlerCreate handlerFuncPtr initEventType newTasklet newEvent) s
          = .ok (s', .code ret) ∧
        (HandlerCreateSpec handlerFuncPtr initEventType s s' ret ↔
          RegistrationFits s (.handlerCreate handlerFuncPtr initEventType newTasklet newEvent))) ∧
    (∀ s₀ l s, Initial s₀ → RunOf RegistrationFits s₀ l s →
      (s.armCoreTaskletList.map (·.id)).Nodup ∧
      (∀ t ∈ s.armCoreTaskletList, 0 ≤ t.id.toInt ∧ t.id.toInt ≤ 127) ∧
      (s.armCoreTaskletList.map (·.funcPtr)).Nodup) := by
  refine ⟨fun s reachable f ty newTasklet newEvent valid => ?_, fun s₀ l s init run => ?_⟩
  · have own := reachable.owned
    have reg := reachable.registered
    obtain ⟨s', r, acts, hexec, heffect, hrun⟩ := handlerCreate_performs own valid
    have hsame : HandlerCreateSpec f ty s s (-1) ∧ HandlerCreateSpec f ty s s (-2) := by
      simp [HandlerCreateSpec]
    cases heffect with
    | handlerCreateDuplicate ht hfun =>
      obtain rfl := Run.nil_iff.mp hrun
      exact ⟨s', -1, hexec, iff_of_true hsame.1 (Or.inr (Or.inl ⟨_, ht, hfun⟩))⟩
    | handlerCreateFull hfull =>
      obtain rfl := Run.nil_iff.mp hrun
      exact ⟨s', -2, hexec, iff_of_true hsame.2 (Or.inr (Or.inr hfull))⟩
    | handlerCreate hfun hsource =>
      refine ⟨s', _, hexec, (handlerCreate_registers own reg hsource hrun).trans ?_⟩
      simp only [RegistrationFits, hsource, reduceCtorEq, or_false]
      refine ⟨Or.inl, fun h => h.resolve_right ?_⟩
      rintro ⟨t, ht, heq⟩
      exact hfun t ht heq
  · obtain ⟨-, reg, hne⟩ := run.invariant
      (I := fun s => Registered s ∧ ∀ t ∈ s.armCoreTaskletList, t.id ≠ -1)
      (fun s op r s' acts own h valid hfits heffect run => Registered.step h hfits heffect run)
      init.owned ⟨init.registered, by simp [init.tasklets]⟩
    refine ⟨reg.nodup_id hne, fun t ht => ?_, reg.funcPtr⟩
    have hle := reg.range t ht (hne t ht)
    rw [toInt_of_le hle]
    simp only [int8Max] at hle
    omega

/-! ## Running out of ids -/

/-- The blocks from `heap n` on are free. -/
def FreshFrom (n : ℕ) (s : State) : Prop :=
  s.running = [] ∧ ∀ a, n ≤ a → s.heap (.heap a) = none ∧ .heap a ∉ s.eventQueueActive

omit [NsList] in
lemma FreshFrom.fresh {s : State} {n a : ℕ} (h : FreshFrom n s) (ha : n ≤ a) :
    Fresh s (.heap a) :=
  ⟨⟨a, rfl⟩, (h.2 a ha).1, (h.2 a ha).2, by simp [h.1]⟩

/-- The `n`-th of the registrations that fill the tasklet list. -/
def registration (n : ℕ) : Op :=
  .handlerCreate n 0 (some (.heap (2 * n))) (some (.heap (2 * n + 1)))

/-- One registration after the other, as long as the allocator has memory. -/
lemma registration_step {s : State} (reachable : Reachable s) {n : ℕ}
    (hlist : s.armCoreTaskletList.map (·.funcPtr) = List.range n) (hfresh : FreshFrom (2 * n) s) :
    ∃ s', Step s (registration n, .code (taskletGetFreeId s).toInt) s' ∧
      s'.armCoreTaskletList.map (·.funcPtr) = List.range (n + 1) ∧
      FreshFrom (2 * (n + 1)) s' ∧ s'.eventQueueActive.length = s.eventQueueActive.length + 1 := by
  have valid : Valid s (registration n) := by
    refine ⟨?_, ?_, by simp⟩
    · rintro p hp
      obtain rfl := Option.some.inj hp
      exact hfresh.fresh (by omega)
    · rintro p hp
      obtain rfl := Option.some.inj hp
      exact hfresh.fresh (by omega)
  obtain ⟨s', r, acts, hexec, heffect, hrun⟩ := handlerCreate_performs reachable.owned valid
  cases heffect with
  | handlerCreateDuplicate ht hfun =>
    have hmem := List.mem_map_of_mem (f := fun t : ArmCoreTasklet => t.funcPtr) ht
    simp [hlist, hfun] at hmem
  | handlerCreateFull hfull =>
    unfold eventSource at hfull
    split at hfull <;> simp at hfull
  | handlerCreate hfun hsource =>
    rename_i p A allocator
    refine ⟨s', ⟨valid, hexec⟩, ?_⟩
    simp only [Run.cons_iff, Run.nil_iff] at hrun
    obtain ⟨s₁, hregister, s₂, hrelocate, rfl⟩ := hrun
    -- the two answers of the allocator are used up, the later blocks stay fresh
    have hp : ∀ a, 2 * (n + 1) ≤ a → .heap a ≠ p := by
      rintro a ha rfl
      have hanswer := eventSource_heap reachable.owned hsource
      simp only [Option.some.injEq, Ptr.heap.injEq] at hanswer
      omega
    cases hregister with
    | register tasklet fresh hid hfun' =>
    cases hrelocate with
    | relocate row =>
    refine ⟨?_, ⟨?_, fun a ha => ⟨?_, ?_⟩⟩, ?_⟩
    · rw [State.move_tasklets, List.map_append, hlist, List.range_succ]
      rfl
    · rw [State.move_running, if_neg (by decide), List.nil_append]
      split <;> simp [hfresh.1]
    · have hne : Ptr.heap a ≠ .heap (2 * n) := by
        simp only [ne_eq, Ptr.heap.injEq]
        omega
      rw [State.move_heap, Function.update_of_ne (hp a ha)]
      exact (Function.update_of_ne hne _ _).trans (hfresh.2 a (by omega)).1
    · rw [State.move_queue, if_pos rfl, if_neg (eventSource_place hsource (B := .queue) trivial),
        List.mem_orderedInsert]
      exact fun h => h.elim (hp a ha) (hfresh.2 a (by omega)).2
    · rw [State.move_queue, if_pos rfl, if_neg (eventSource_place hsource (B := .queue) trivial),
        List.orderedInsert_length]

/-- Registrations fill the tasklet list. -/
lemma exists_registered (n : ℕ) : ∃ s, Reachable s ∧
    s.armCoreTaskletList.map (·.funcPtr) = List.range n ∧ FreshFrom (2 * n) s := by
  induction n with
  | zero =>
    obtain ⟨s₀, boot, hs⟩ := boot_initial 0
    refine ⟨_, ⟨_, [], boot_initial 0, .nil⟩, ?_, ?_, fun a _ => ?_⟩
    all_goals rw [hs, boot.init_eq]
    · rfl
    · exact boot.running
    · exact ⟨boot.heap _, by simp⟩
  | succ n ih =>
    obtain ⟨s, reachable, hlist, hfresh⟩ := ih
    obtain ⟨s', hstep, hlist', hfresh', -⟩ := registration_step reachable hlist hfresh
    exact ⟨s', reachable.next hstep, hlist', hfresh'⟩

end

/-- The 129th registration answers -1, and yet it registers a tasklet and queues an event. -/
theorem handlerCreate_not_atomic : ∃ s s', Reachable s ∧
    Step s (registration 128, .code (-1)) s' ∧ ¬ HandlerCreateSpec 128 0 s s' (-1) ∧
    s.armCoreTaskletList.length = 128 ∧ s'.armCoreTaskletList.length = 129 ∧
    s'.eventQueueActive.length = s.eventQueueActive.length + 1 := by
  obtain ⟨s, reachable, hlist, hfresh⟩ := exists_registered 128
  have hlen : s.armCoreTaskletList.length = 128 := by
    simpa using congrArg List.length hlist
  obtain ⟨s', hstep, hlist', -, hqueue⟩ := registration_step reachable hlist hfresh
  have hlen' : s'.armCoreTaskletList.length = 129 := by
    simpa using congrArg List.length hlist'
  have hid : taskletGetFreeId s = -1 := reachable.registered.freeId_full (by rw [hlen]; decide)
  rw [hid] at hstep
  refine ⟨s, s', reachable, hstep, fun hspec => ?_, hlen, hlen', hqueue⟩
  have hsame := congrArg List.length (hspec.1 (by decide)).1
  omega

/-- The first registration after initialisation goes as it should. -/
theorem handlerCreate_spec_iff_first : ∃ s', HandlerCreateSpec 7 1
    (eventOSSchedulerInit (.boot 0)) s' 0 := by
  have valid :
      Valid (eventOSSchedulerInit (.boot 0)) (.handlerCreate 7 1 (some (.heap 0)) none) := by
    decide
  obtain ⟨s', ret, hexec, hspec⟩ := handlerCreate_spec_iff.1 _ ⟨_, [], boot_initial 0, .nil⟩
    7 1 (some (.heap 0)) none valid
  have hret : ret = 0 := by
    have hcode : (exec (.handlerCreate 7 1 (some (.heap 0)) none)
        (eventOSSchedulerInit (.boot 0))).toOption.map (·.2) = some (.code 0) := by decide +kernel
    rw [hexec] at hcode
    simpa [Except.toOption] using hcode
  exact ⟨s', hret ▸ hspec.mpr (Or.inl (by decide))⟩

end EventLoop
