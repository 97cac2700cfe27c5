import EventLoop.CallbackTimerRefinement

/-!
# Calls of callback timers

In every run, a timer that is started is called once, after exactly its slots, unless it is stopped,
started again or unregistered before; and nothing else is called. The statements here are about the
labels of a run: the operations, with what they returned.
-/

namespace EventLoop

open Lib

/-- An operation, with what it returned. -/
abbrev CallbackLabel := CallbackOp × CallbackRet

/-- The slots that pass in a part of a run. -/
def slotsPassed (l : List CallbackLabel) : ℕ := l.count (.slot, .void)

namespace CallbackLabel

/-- The timer is started again, stopped or unregistered. -/
def Ends (timerId : BitVec 8) (label : CallbackLabel) : Prop :=
  (∃ slots, label = (.start timerId slots, .code 0)) ∨ (∃ c, label = (.stop timerId, .code c)) ∨
    ∃ c, label = (.unregister timerId, .code c)

/-- The handler of the timer is called. -/
def Calls (timerId : BitVec 8) (label : CallbackLabel) : Prop :=
  ∃ call, label.2 = .call (some call) ∧ call.nsTimerId = timerId

/-! ## Labels and actions -/

variable {label : CallbackLabel} {timerId : BitVec 8} {slots : BitVec 16} {delay : ℕ}

/-- Which labels an action is read from. -/
lemma action_eq_some {b : DeadlineMap.Action (BitVec 8) (BitVec 16)} :
    CallbackOp.action label = some b ↔
      match b with
      | .start timerId delay slots =>
        label = (.start timerId slots, .code 0) ∧ max 1 slots.toNat = delay
      | .fire timerId slots =>
        ∃ call, label.2 = .call (some call) ∧ call.nsTimerId = timerId ∧ call.slots = slots
      | .stop timerId =>
        (∃ c, label = (.stop timerId, .code c)) ∨ ∃ c, label = (.unregister timerId, .code c)
      | .tick => label = (.slot, .void) := by
  obtain ⟨op, ret⟩ := label
  cases ret with
  | void => cases op <;> cases b <;> simp [CallbackOp.action]
  | call call => cases call <;> cases b <;> simp [CallbackOp.action]
  | code c =>
    cases op with
    | start timerId' slots' =>
      simp only [CallbackOp.action]
      -- a start counts only when it succeeds
      split
      · cases b <;> grind
      · cases b <;> simp_all
    | _ => cases b <;> simp [CallbackOp.action]

lemma action_eq_start : CallbackOp.action label = some (.start timerId delay slots) ↔
    label = (.start timerId slots, .code 0) ∧ max 1 slots.toNat = delay := action_eq_some

lemma action_eq_fire : CallbackOp.action label = some (.fire timerId slots) ↔
    ∃ call, label.2 = .call (some call) ∧ call.nsTimerId = timerId ∧ call.slots = slots :=
  action_eq_some

lemma action_eq_stop : CallbackOp.action label = some (.stop timerId) ↔
    (∃ c, label = (.stop timerId, .code c)) ∨ ∃ c, label = (.unregister timerId, .code c) :=
  action_eq_some

lemma action_eq_tick : CallbackOp.action label = some .tick ↔ label = (.slot, .void) :=
  action_eq_some

/-- The labels that touch the deadline of a timer. -/
lemma action_on_iff : (∃ b, CallbackOp.action label = some b ∧ b.On timerId) ↔
    label.Ends timerId ∨ label.Calls timerId := by
  constructor
  · rintro ⟨b, hb, hon⟩
    cases b with
    | start k delay slots =>
      obtain rfl : k = timerId := hon
      exact Or.inl (Or.inl ⟨slots, (action_eq_start.mp hb).1⟩)
    | stop k =>
      obtain rfl : k = timerId := hon
      exact Or.inl (Or.inr (action_eq_stop.mp hb))
    | tick => exact hon.elim
    | fire k slots =>
      obtain rfl : k = timerId := hon
      obtain ⟨call, hcall, hid, -⟩ := action_eq_fire.mp hb
      exact Or.inr ⟨call, hcall, hid⟩
  · rintro ((⟨slots, hlabel⟩ | hstop) | ⟨call, hcall, hid⟩)
    · exact ⟨_, action_eq_start.mpr ⟨hlabel, rfl⟩, rfl⟩
    · exact ⟨_, action_eq_stop.mpr hstop, rfl⟩
    · exact ⟨_, action_eq_fire.mpr ⟨call, hcall, hid, rfl⟩, rfl⟩

end CallbackLabel

open CallbackLabel

variable {l l₁ l₂ : List CallbackLabel} {timerId : BitVec 8} {slots : BitVec 16}

lemma elapsed_eq_slotsPassed (l : List CallbackLabel) :
    DeadlineMap.elapsed CallbackOp.action l = slotsPassed l := by
  induction l with
  | nil => rfl
  | cons label l ih =>
    rw [← List.singleton_append, DeadlineMap.elapsed_append, ih, slotsPassed, slotsPassed,
      List.count_append, DeadlineMap.elapsed_singleton _ rfl, List.count_singleton]
    congr 1
    by_cases htick : label = (.slot, .void)
    · simp [htick, CallbackOp.action, DeadlineMap.Action.isTick]
    · have hne := mt action_eq_tick.mp htick
      cases haction : CallbackOp.action label with
      | none => simp [htick]
      | some b =>
        cases b with
        | tick => exact absurd haction hne
        | _ => simp [DeadlineMap.Action.isTick, htick]

lemma untouched_iff : DeadlineMap.Untouched CallbackOp.action timerId l ↔
    ∀ label ∈ l, ¬ Ends timerId label ∧ ¬ Calls timerId label := by
  refine forall₂_congr fun label _ => ?_
  rw [← not_or, ← action_on_iff]
  push Not
  rfl

lemma kept_of_forall (h : ∀ label ∈ l, ¬ Ends timerId label) :
    DeadlineMap.Kept CallbackOp.action timerId l := by
  intro label hlabel
  refine ⟨fun hstop => h label hlabel (Or.inr (action_eq_stop.mp hstop)),
    fun delay slots hstart => ?_⟩
  exact h label hlabel (Or.inl ⟨slots, (action_eq_start.mp hstart).1⟩)

/-! ## When a timer is called -/

/-- What became of a timer that is due `delay` slots after it was started: either that time is not
over and it was not called, or it was called once, when it was over. -/
def CalledAfter (s : CallbackTimers) (timerId : BitVec 8) (slots : BitVec 16) (delay : ℕ)
    (l : List CallbackLabel) : Prop :=
  ((∀ label ∈ l, ¬ Calls timerId label) ∧ slotsPassed l ≤ delay ∧
      (s.control = .main → slotsPassed l < delay)) ∨
    ∃ l₁ label call l₂, l = l₁ ++ label :: l₂ ∧ label.2 = .call (some call) ∧
      call.nsTimerId = timerId ∧ call.slots = slots ∧ slotsPassed l₁ = delay ∧
      (∀ label ∈ l₁, ¬ Calls timerId label) ∧ ∀ label ∈ l₂, ¬ Calls timerId label

/-- What is called was started `delay` slots before, and neither started again, stopped,
unregistered nor called since. -/
def StartedBefore (call : TimerCall) (delay : ℕ) (l : List CallbackLabel) : Prop :=
  ∃ l₁ l₂, l = l₁ ++ (.start call.nsTimerId call.slots, .code 0) :: l₂ ∧
    slotsPassed l₂ = delay ∧
    ∀ label ∈ l₂, ¬ Ends call.nsTimerId label ∧ ¬ Calls call.nsTimerId label

variable {s : CallbackTimers}

/-- **A timer that is started is called once, when it is due.** -/
theorem calledAfter_of_run
    (run : Run TimedStep CallbackTimers.boot (l₁ ++ (.start timerId slots, .code 0) :: l₂) s)
    (h : ∀ label ∈ l₂, ¬ Ends timerId label) :
    CalledAfter s timerId slots (max 1 slots.toNat) l₂ := by
  obtain ⟨armed, now, hrun⟩ := callbackTimers_refine run
  have hstart : CallbackOp.action (.start timerId slots, .code 0)
      = some (.start timerId (max 1 slots.toNat) slots) := action_eq_start.mpr ⟨rfl, rfl⟩
  have hsilent : ∀ {l}, DeadlineMap.Untouched CallbackOp.action timerId l →
      ∀ label ∈ l, ¬ Calls timerId label :=
    fun h label hlabel => (untouched_iff.mp h label hlabel).2
  rcases DeadlineMap.fires_once hrun hstart (kept_of_forall h) with
    ⟨huntouched, hdeadline, hle⟩ | ⟨m₁, label, m₂, rfl, hfire, helapsed, h₁, h₂⟩
  · refine Or.inl ⟨hsilent huntouched, elapsed_eq_slotsPassed l₂ ▸ hle, fun hmain => ?_⟩
    have hlt := ((armed.slot hmain).2.2 now).1 timerId _ _ hdeadline
    have hnow := DeadlineMap.now_of_run hrun
    rw [← List.singleton_append, DeadlineMap.elapsed_append, DeadlineMap.elapsed_append,
      DeadlineMap.elapsed_singleton _ hstart] at hnow
    rw [← elapsed_eq_slotsPassed]
    simp only [DeadlineMap.empty, Option.any_some, DeadlineMap.Action.isTick, Bool.false_eq_true,
      ↓reduceIte] at hnow
    omega
  · obtain ⟨call, hcall, hid, hslots⟩ := action_eq_fire.mp hfire
    exact Or.inr ⟨m₁, label, call, m₂, rfl, hcall, hid, hslots,
      (elapsed_eq_slotsPassed m₁).symm.trans helapsed, hsilent h₁, hsilent h₂⟩

/-- **Only a timer that is due is called.** -/
theorem startedBefore_of_run {label : CallbackLabel} {call : TimerCall}
    (run : Run TimedStep CallbackTimers.boot (l₁ ++ label :: l₂) s)
    (hcall : label.2 = .call (some call)) : StartedBefore call (max 1 call.slots.toNat) l₁ := by
  obtain ⟨t, hbefore, hafter⟩ := run.split
  obtain ⟨u, hstep, -⟩ := Run.cons_iff.mp hafter
  obtain ⟨armed, now, hrun⟩ := callbackTimers_refine hbefore
  obtain ⟨-, now', hfire⟩ := hstep.follows armed now
  obtain ⟨m₁, label', m₂, delay, rfl, hstart, huntouched, helapsed⟩ :=
    DeadlineMap.fired_exactly hrun hfire (action_eq_fire.mpr ⟨call, hcall, rfl, rfl⟩)
  obtain ⟨rfl, rfl⟩ := action_eq_start.mp hstart
  exact ⟨m₁, m₂, rfl, (elapsed_eq_slotsPassed m₂).symm.trans helapsed, untouched_iff.mp huntouched⟩

/-! ## Which handler is called -/

/-- The id was registered for the handler, and neither unregistered nor registered since. -/
def RegisteredAs (l : List CallbackLabel) (timerId : BitVec 8) (handler : FuncPtr) : Prop :=
  ∃ l₁ newTimer l₂, l = l₁ ++ (.register (some handler) newTimer, .code timerId.toNat) :: l₂ ∧
    ∀ label ∈ l₂, label.1 ≠ .unregister timerId ∧
      ∀ h n, label ≠ (.register h n, .code timerId.toNat)

open CallbackTimers

/-- What a step does to the list: a timer that was in it keeps its id and handler, and its id is
neither unregistered nor registered again. -/
def KeepsIdentities (s : CallbackTimers) (label : CallbackLabel) (s' : CallbackTimers) : Prop :=
  (s'.nsTimerList.map (·.nsTimerId)).Nodup ∧ ∀ t ∈ s'.nsTimerList,
    (t.identity ∈ s.identities ∧ label.1 ≠ .unregister t.nsTimerId ∧
      ∀ h n, label ≠ (.register h n, .code t.nsTimerId.toNat)) ∨
    ∃ newTimer, label = (.register (some t.interruptHandler) newTimer, .code t.nsTimerId.toNat)

lemma mem_of_identity {t : NsTimerStruct} (h : t.identity ∈ s.identities) :
    ∃ u ∈ s.nsTimerList, u.nsTimerId = t.nsTimerId ∧ u.interruptHandler = t.interruptHandler := by
  obtain ⟨u, hu, heq⟩ := List.mem_map.mp h
  exact ⟨u, hu, congrArg Prod.fst heq, congrArg Prod.snd heq⟩

section Identities

variable {s' : CallbackTimers} (hids : (s.nsTimerList.map (·.nsTimerId)).Nodup)

include hids

lemma keepsIdentities_of_eq {label : CallbackLabel} (heq : s'.identities = s.identities)
    (hunregister : ∀ k, label.1 ≠ .unregister k) (hregister : ∀ h n, label.1 ≠ .register h n) :
    KeepsIdentities s label s' := by
  have hfst : ∀ u : CallbackTimers,
      u.nsTimerList.map (·.nsTimerId) = u.identities.map Prod.fst := by
    intro u
    rw [CallbackTimers.identities, List.map_map]
    rfl
  refine ⟨by rwa [hfst, heq, ← hfst], fun t ht => Or.inl ⟨?_, hunregister t.nsTimerId, ?_⟩⟩
  · rw [← heq]
    exact List.mem_map_of_mem ht
  · exact fun h n hlabel => hregister h n (congrArg Prod.fst hlabel)

lemma keepsIdentities_register (timerInterruptHandler : Option FuncPtr)
    (newTimer : Option (BitVec 16)) :
    KeepsIdentities s (.register timerInterruptHandler newTimer,
        .code (eventOSCallbackTimerRegister timerInterruptHandler newTimer s).2)
      (eventOSCallbackTimerRegister timerInterruptHandler newTimer s).1 := by
  rcases eventOSCallbackTimerRegister_eq timerInterruptHandler newTimer s with
    ⟨b, heq⟩ | ⟨u, -, hhandler, -, hnone, heq⟩
  · rw [heq]
    refine ⟨hids, fun t ht => Or.inl ⟨List.mem_map_of_mem ht, by simp, fun h n hlabel => ?_⟩⟩
    have hcode : (-1 : ℤ) = t.nsTimerId.toNat := by
      simpa using congrArg Prod.snd hlabel
    omega
  · have hfree : ∀ t ∈ s.nsTimerList, t.nsTimerId ≠ u.nsTimerId := fun t ht =>
      ne_of_pointer_none hnone ht
    rw [heq]
    refine ⟨?_, fun t ht => ?_⟩
    · rw [List.map_append, List.nodup_append]
      refine ⟨hids, by simp, fun k hk b hb => ?_⟩
      obtain ⟨t, ht, rfl⟩ := List.mem_map.mp hk
      rw [List.mem_singleton.mp hb]
      exact hfree t ht
    · rcases List.mem_append.mp ht with ht | ht
      · refine Or.inl ⟨List.mem_map_of_mem ht, by simp, fun h n hlabel => ?_⟩
        have hcode : (u.nsTimerId.toNat : ℤ) = t.nsTimerId.toNat := by
          simpa using congrArg Prod.snd hlabel
        exact hfree t ht (BitVec.eq_of_toNat_eq (by exact_mod_cast hcode.symm))
      · obtain rfl := List.mem_singleton.mp ht
        exact Or.inr ⟨newTimer, by rw [hhandler]⟩

lemma keepsIdentities_unregister (timerId : BitVec 8) :
    KeepsIdentities s (.unregister timerId, .code (eventOSCallbackTimerUnregister timerId s).2)
      (eventOSCallbackTimerUnregister timerId s).1 := by
  unfold eventOSCallbackTimerUnregister
  cases hfind : nsTimerGetPointerToTimerStruct timerId s with
  | none =>
    refine ⟨hids, fun t ht => Or.inl ⟨List.mem_map_of_mem ht, fun hlabel => ?_, by simp⟩⟩
    exact ne_of_pointer_none hfind ht (CallbackOp.unregister.inj hlabel).symm
  | some u =>
    have hlist := eraseP_eq_filter_of_nodup hids timerId
    simp only [hlist]
    refine ⟨hids.sublist (List.filter_sublist.map _), fun t ht => ?_⟩
    obtain ⟨hmem, hne⟩ := List.mem_filter.mp ht
    refine Or.inl ⟨List.mem_map_of_mem hmem, fun hlabel => ?_, by simp⟩
    simp [CallbackOp.unregister.inj hlabel] at hne

lemma CallbackStep.keepsIdentities {label : CallbackLabel} (step : CallbackStep s label s') :
    KeepsIdentities s label s' := by
  obtain ⟨op, ret⟩ := label
  obtain ⟨-, idle, hexec⟩ := step
  cases op with
  | register timerInterruptHandler newTimer =>
    obtain ⟨rfl, rfl⟩ := Prod.mk.inj hexec
    exact keepsIdentities_register hids timerInterruptHandler newTimer
  | unregister timerId =>
    obtain ⟨rfl, rfl⟩ := Prod.mk.inj hexec
    exact keepsIdentities_unregister hids timerId
  | _ =>
    obtain rfl := congrArg Prod.fst hexec
    exact keepsIdentities_of_eq hids (identities_exec idle s (by simp) (by simp)) (by simp)
      (by simp)

omit hids in
/-- A timer stays in the list until it is unregistered. -/
lemma CallbackStep.mem_identities {label : CallbackLabel} (step : CallbackStep s label s')
    {p : BitVec 8 × FuncPtr} (hp : p ∈ s.identities) (hlabel : label.1 ≠ .unregister p.1) :
    p ∈ s'.identities := by
  obtain ⟨op, ret⟩ := label
  obtain ⟨-, idle, hexec⟩ := step
  obtain ⟨t, ht, rfl⟩ := List.mem_map.mp hp
  cases op with
  | register timerInterruptHandler newTimer =>
    obtain rfl := congrArg Prod.fst hexec
    show _ ∈ (eventOSCallbackTimerRegister timerInterruptHandler newTimer s).1.identities
    rcases eventOSCallbackTimerRegister_eq timerInterruptHandler newTimer s with
      ⟨b, heq⟩ | ⟨u, -, -, -, -, heq⟩
    · rwa [heq]
    · rw [heq]
      exact List.mem_map_of_mem (List.mem_append_left _ ht)
  | unregister timerId =>
    obtain rfl := congrArg Prod.fst hexec
    show _ ∈ (eventOSCallbackTimerUnregister timerId s).1.identities
    unfold eventOSCallbackTimerUnregister
    split
    · exact hp
    · refine List.mem_map_of_mem ((List.mem_eraseP_of_neg ?_).mpr ht)
      simpa using fun h : t.nsTimerId = timerId => hlabel (congrArg CallbackOp.unregister h.symm)
  | _ =>
    obtain rfl := congrArg Prod.fst hexec
    rwa [identities_exec idle s (by simp) (by simp)]

end Identities

/-- Every timer in the list is there since its id was registered for its handler. -/
theorem registeredAs_of_run (run : Run CallbackStep boot l s) :
    (s.nsTimerList.map (·.nsTimerId)).Nodup ∧
      ∀ t ∈ s.nsTimerList, RegisteredAs l t.nsTimerId t.interruptHandler := by
  induction run with
  | nil => exact ⟨by simp [boot], by simp [boot]⟩
  | @snoc l s u label _ last ih =>
    obtain ⟨hids, hregistered⟩ := ih
    obtain ⟨hids', hkeeps⟩ := last.keepsIdentities hids
    refine ⟨hids', fun t ht => ?_⟩
    rcases hkeeps t ht with ⟨hmem, hunregister, hregister⟩ | ⟨newTimer, rfl⟩
    · obtain ⟨v, hv, hid, hhandler⟩ := mem_of_identity hmem
      obtain ⟨l₁, newTimer, l₂, rfl, hl₂⟩ := hregistered v hv
      rw [hid, hhandler] at *
      refine ⟨l₁, newTimer, l₂ ++ [label], by simp, fun a ha => ?_⟩
      rcases List.mem_append.mp ha with ha | ha
      · exact hl₂ a ha
      · rw [List.mem_singleton.mp ha]
        exact ⟨hunregister, hregister⟩
    · exact ⟨l, newTimer, [], rfl, by simp⟩

/-- An id that is registered is in the list. -/
lemma identity_of_registeredAs {handler : FuncPtr} (run : Run CallbackStep boot l s)
    (h : RegisteredAs l timerId handler) : (timerId, handler) ∈ s.identities := by
  obtain ⟨l₁, newTimer, l₂, rfl, hl₂⟩ := h
  obtain ⟨t, -, hafter⟩ := run.split
  obtain ⟨u, ⟨-, idle, hexec⟩, hrest⟩ := Run.cons_iff.mp hafter
  obtain ⟨rfl, hcode⟩ := Prod.mk.inj hexec
  refine hrest.invariant_on (I := fun s => (timerId, handler) ∈ s.identities) ?_ hl₂
    fun _ _ _ hp hlabel step => step.mem_identities hp hlabel.1
  show _ ∈ (eventOSCallbackTimerRegister (some handler) newTimer t).1.identities
  have hid : (eventOSCallbackTimerRegister (some handler) newTimer t).2 = timerId.toNat :=
    CallbackRet.code.inj hcode
  rcases eventOSCallbackTimerRegister_eq (some handler) newTimer t with
    ⟨b, heq⟩ | ⟨v, -, hhandler, -, -, heq⟩
  · rw [heq] at hid
    have hneg : (-1 : ℤ) = timerId.toNat := hid
    omega
  · rw [heq] at hid ⊢
    have heq' : v.nsTimerId = timerId := BitVec.eq_of_toNat_eq (Int.ofNat.inj hid)
    refine List.mem_map.mpr ⟨v, List.mem_append_right _ List.mem_cons_self, ?_⟩
    rw [NsTimerStruct.identity, heq', Option.some.inj hhandler]

namespace CallbackTimers

/-- A timer in the list is found by its id. -/
lemma pointer_of_identity {p : BitVec 8 × FuncPtr} (hp : p ∈ s.identities) :
    (nsTimerGetPointerToTimerStruct p.1 s).isSome := by
  obtain ⟨t, ht, rfl⟩ := List.mem_map.mp hp
  rw [Option.isSome_iff_ne_none]
  exact fun hnone => ne_of_pointer_none hnone ht rfl

/-- A start returns 0 if it finds its timer. -/
lemma start_code_eq_zero_iff (idle : BitVec 16) (timerId : BitVec 8) (slots : BitVec 16)
    (s : CallbackTimers) : (eventOSCallbackTimerStart idle timerId slots s).2 = 0 ↔
      (nsTimerGetPointerToTimerStruct timerId s).isSome := by
  unfold eventOSCallbackTimerStart
  cases nsTimerGetPointerToTimerStruct timerId s with
  | none => simp
  | some t => simp only [Option.isSome_some, iff_true]; split_ifs <;> rfl

end CallbackTimers

/-- **A start returns 0 exactly if its id is registered.** -/
theorem start_accepted_iff {slots : BitVec 16} {ret : CallbackRet}
    (run : Run CallbackStep boot (l₁ ++ (.start timerId slots, ret) :: l₂) s) :
    ret = .code 0 ↔ ∃ handler, RegisteredAs l₁ timerId handler := by
  obtain ⟨t, hbefore, hafter⟩ := run.split
  obtain ⟨u, ⟨-, idle, hexec⟩, -⟩ := Run.cons_iff.mp hafter
  have hret : .code (eventOSCallbackTimerStart idle timerId slots t).2 = ret :=
    congrArg Prod.snd hexec
  rw [← hret, CallbackRet.code.injEq, start_code_eq_zero_iff]
  constructor
  · intro hfound
    obtain ⟨v, hv⟩ := Option.isSome_iff_exists.mp hfound
    obtain rfl : v.nsTimerId = timerId := by simpa using List.find?_some hv
    exact ⟨_, (registeredAs_of_run hbefore).2 v (List.mem_of_find?_eq_some hv)⟩
  · rintro ⟨handler, hregistered⟩
    exact pointer_of_identity (identity_of_registeredAs hbefore hregistered)

/-- A timer that the loop of the interrupt handler calls is in the list. -/
lemma mem_of_nsTimerCallInterrupts {next i : ℕ} {call : TimerCall}
    (h : (nsTimerCallInterrupts next i s).2 = some call) :
    (call.nsTimerId, call.interruptHandler) ∈ s.identities := by
  unfold nsTimerCallInterrupts at h
  have hspec := nextInterrupt_spec i next (s.nsTimerList.drop next)
  generalize nextInterrupt i next (s.nsTimerList.drop next) = found at h hspec
  cases found with
  | none => cases h
  | some found =>
    obtain ⟨l₁, l₂, hdrop, -⟩ := hspec
    have hmem : found.2 ∈ s.nsTimerList := by
      apply List.mem_of_mem_drop (i := next)
      rw [hdrop]
      simp
    obtain rfl := Option.some.inj h
    exact List.mem_map.mpr ⟨found.2, hmem, rfl⟩

lemma CallbackStep.mem_of_call {s' : CallbackTimers} {label : CallbackLabel} {call : TimerCall}
    (step : CallbackStep s label s') (hcall : label.2 = .call (some call)) :
    (call.nsTimerId, call.interruptHandler) ∈ s.identities := by
  obtain ⟨op, ret⟩ := label
  obtain ⟨allows, idle, hexec⟩ := step
  obtain rfl : ret = .call (some call) := hcall
  have hret := congrArg Prod.snd hexec
  cases op with
  | interrupt =>
    have hsome := mem_of_nsTimerCallInterrupts (CallbackRet.call.inj hret)
    rw [← identities_nsTimerInterruptHandler s]
    rwa [nsTimerInterruptHandler, identities_nsTimerCallInterrupts]
  | handlerReturn =>
    obtain ⟨next, i, hcontrol⟩ := allows
    have hsome : s.handlerReturn.2 = some call := CallbackRet.call.inj hret
    simp only [CallbackTimers.handlerReturn, hcontrol] at hsome
    exact mem_of_nsTimerCallInterrupts hsome
  | _ => cases hret

/-- When a handler is called, the expiry of the HAL timer has been handled. -/
lemma CallbackStep.control_of_call {s' : CallbackTimers} {label : CallbackLabel} {call : TimerCall}
    (step : CallbackStep s label s') (hcall : label.2 = .call (some call)) :
    s'.control ≠ .expired := by
  obtain ⟨op, ret⟩ := label
  obtain ⟨allows, idle, hexec⟩ := step
  obtain rfl : ret = .call (some call) := hcall
  have hloop : ∀ next i u, (nsTimerCallInterrupts next i u).1.control ≠ .expired := by
    intro next i u
    unfold nsTimerCallInterrupts
    split <;> simp
  obtain rfl := congrArg Prod.fst hexec
  cases op with
  | interrupt => exact hloop _ _ _
  | handlerReturn =>
    obtain ⟨next, i, hcontrol⟩ := allows
    show s.handlerReturn.1.control ≠ .expired
    simp only [CallbackTimers.handlerReturn, hcontrol]
    exact hloop _ _ _
  | _ => cases congrArg Prod.snd hexec

/-- **A call is that of the handler for which the id was registered.** -/
theorem registeredAs_of_call {label : CallbackLabel} {call : TimerCall}
    (run : Run CallbackStep boot (l₁ ++ label :: l₂) s) (hcall : label.2 = .call (some call)) :
    RegisteredAs l₁ call.nsTimerId call.interruptHandler := by
  obtain ⟨t, hbefore, hafter⟩ := run.split
  obtain ⟨u, hstep, -⟩ := Run.cons_iff.mp hafter
  obtain ⟨v, hv, heq⟩ := List.mem_map.mp (hstep.mem_of_call hcall)
  obtain ⟨hid, hhandler⟩ : v.nsTimerId = call.nsTimerId ∧
      v.interruptHandler = call.interruptHandler := Prod.mk.inj heq
  rw [← hid, ← hhandler]
  exact (registeredAs_of_run hbefore).2 v hv

/-! ## The interrupt handler returns -/

/-- The interrupt handler is entered, or the handler of a timer returns. -/
def CallbackLabel.Returns (label : CallbackLabel) : Prop :=
  label.1 = .interrupt ∨ label.1 = .handlerReturn

/-- Each call of the loop moves its position forward in the list. -/
lemma control_nsTimerCallInterrupts (next i : ℕ) (s : CallbackTimers) :
    (nsTimerCallInterrupts next i s).1.control = .main ∨
      ∃ next', next < next' ∧ next' ≤ s.nsTimerList.length ∧
        (nsTimerCallInterrupts next i s).1.control = .handler next' i := by
  unfold nsTimerCallInterrupts
  have hspec := nextInterrupt_spec i next (s.nsTimerList.drop next)
  generalize nextInterrupt i next (s.nsTimerList.drop next) = found at hspec
  cases found with
  | none => exact Or.inl rfl
  | some found =>
    obtain ⟨l₁, l₂, hdrop, hp, -⟩ := hspec
    have hlength := congrArg List.length hdrop
    rw [List.length_drop, List.length_append, List.length_cons] at hlength
    exact Or.inr ⟨found.1 + 1, by omega, by omega, rfl⟩

lemma returns_of_handler {next i : ℕ} (h : s.control = .handler next i) :
    ∃ l t, Run CallbackStep s l t ∧ t.control = .main ∧ ∀ label ∈ l, Returns label := by
  generalize hn : s.nsTimerList.length - next = n
  induction n using Nat.strong_induction_on generalizing s next i with
  | h n ih =>
    have hstep : CallbackStep s (.handlerReturn, .call s.handlerReturn.2) s.handlerReturn.1 :=
      ⟨⟨next, i, h⟩, 0, rfl⟩
    have heq : s.handlerReturn = nsTimerCallInterrupts next (i - 1) s := by
      simp only [CallbackTimers.handlerReturn, h]
    rcases control_nsTimerCallInterrupts next (i - 1) s with hmain | ⟨next', hlt, hle, hnext⟩
    · exact ⟨_, _, .single hstep, heq ▸ hmain, by simp [CallbackLabel.Returns]⟩
    · have hlength : s.handlerReturn.1.nsTimerList.length = s.nsTimerList.length := by
        have hsame := congrArg List.length (identities_handlerReturn s)
        simpa [CallbackTimers.identities] using hsame
      obtain ⟨l, t, hrun, hmain, hreturns⟩ :=
        ih (s.nsTimerList.length - next') (by omega) (heq ▸ hnext) (by rw [hlength])
      exact ⟨_, t, .cons hstep hrun, hmain, List.forall_mem_cons.mpr ⟨Or.inr rfl, hreturns⟩⟩

/-- **The handlers that are due are called without delay**: they return to the main program before
any time passes. -/
theorem returns_to_main (s : CallbackTimers) :
    ∃ l t, Run CallbackStep s l t ∧ t.control = .main ∧ ∀ label ∈ l, Returns label := by
  cases hcontrol : s.control with
  | main => exact ⟨[], s, .nil, hcontrol, by simp⟩
  | expired =>
    have hstep : CallbackStep s (.interrupt, .call (nsTimerInterruptHandler s).2)
        (nsTimerInterruptHandler s).1 := ⟨hcontrol, 0, rfl⟩
    rcases control_nsTimerCallInterrupts 0 (s.nsTimerList.countP fun t => t.timerState = .active)
      s.beginInterrupt with hmain | ⟨next, -, -, hnext⟩
    · exact ⟨_, _, .single hstep, hmain, by simp [CallbackLabel.Returns]⟩
    · obtain ⟨l, t, hrun, hmain, hreturns⟩ := returns_of_handler hnext
      exact ⟨_, t, .cons hstep hrun, hmain, List.forall_mem_cons.mpr ⟨Or.inl rfl, hreturns⟩⟩
  | handler next i => exact returns_of_handler hcontrol

/-! ## A list of operations -/

instance (s : CallbackTimers) (op : CallbackOp) : Decidable (s.Allows op) :=
  match op with
  | .register _ _ | .start _ _ | .stop _ | .sleep => inferInstanceAs (Decidable (_ ≠ _))
  | .unregister _ | .slot | .interrupt => inferInstanceAs (Decidable (_ = _))
  | .handlerReturn =>
    match hcontrol : s.control with
    | .main | .expired => isFalse (by simp [Allows, hcontrol])
    | .handler next i => isTrue ⟨next, i, hcontrol⟩

/-- An operation that can come and meets a condition, with what it returns; the HAL answers 0 when
no period is running. -/
def CallbackTimers.attempt (P : CallbackTimers → CallbackOp → Prop) [∀ s op, Decidable (P s op)]
    (s : CallbackTimers) (op : CallbackOp) : Option (CallbackTimers × CallbackRet) :=
  if s.Allows op ∧ P s op then some (exec 0 op s) else none

lemma attempt_step {P : CallbackTimers → CallbackOp → Prop} [∀ s op, Decidable (P s op)]
    {s s' : CallbackTimers} {op : CallbackOp} {ret : CallbackRet}
    (h : s.attempt P op = some (s', ret)) : CallbackStep s (op, ret) s' ∧ P s op := by
  unfold CallbackTimers.attempt at h
  split at h
  · next hallows => exact ⟨⟨hallows.1, 0, Option.some.inj h⟩, hallows.2⟩
  · cases h

lemma run_of_trace {P : CallbackTimers → CallbackOp → Prop} [∀ s op, Decidable (P s op)]
    {ops : List CallbackOp} {t : CallbackTimers}
    (h : Run.trace (CallbackTimers.attempt P) ops s = some (l, t)) :
    Run (fun s label s' => CallbackStep s label s' ∧ P s label.1) s l t ∧ l.map Prod.fst = ops :=
  Run.of_trace (fun _ _ _ _ => attempt_step) h

/-! ## Runs without a sleep -/

/-- What is called in a run, when a timer that is started with `slots` is due `delay slots`
later. -/
structure ExactCalls (delay : BitVec 16 → ℕ) (l : List CallbackLabel) (s : CallbackTimers) :
    Prop where
  /-- the run is one of the map of deadlines -/
  refines : ∃ now, Run (fun m label => m.Step (CallbackOp.action label)) DeadlineMap.empty l
    ⟨now, s.deadline now⟩
  /-- a start is accepted exactly if the id is registered -/
  accepted : ∀ l₁ timerId slots ret l₂, l = l₁ ++ (.start timerId slots, ret) :: l₂ →
    (ret = .code 0 ↔ ∃ handler, RegisteredAs l₁ timerId handler)
  /-- a timer that is started is called once, unless it is started again, stopped or unregistered -/
  called : ∀ l₁ timerId slots l₂, l = l₁ ++ (.start timerId slots, .code 0) :: l₂ →
    (∀ label ∈ l₂, ¬ Ends timerId label) → CalledAfter s timerId slots (delay slots) l₂
  /-- nothing else is called -/
  due : ∀ l₁ label call l₂, l = l₁ ++ label :: l₂ → label.2 = .call (some call) →
    StartedBefore call (delay call.slots) l₁ ∧
      RegisteredAs l₁ call.nsTimerId call.interruptHandler
  /-- no time passes until the handlers that are due have returned -/
  returns : ∃ l' t, Run CallbackStep s l' t ∧ t.control = .main ∧ ∀ label ∈ l', Returns label

/-- The calls of a run under which deadlines are kept. -/
theorem exactCalls_of_run (run : Run TimedStep boot l s) :
    ExactCalls (fun slots => max 1 slots.toNat) l s where
  refines := (callbackTimers_refine run).2
  accepted := by
    rintro l₁ timerId slots ret l₂ rfl
    exact start_accepted_iff (run.mono fun _ _ _ h => h.toCallbackStep)
  called := by
    rintro l₁ timerId slots l₂ rfl hends
    exact calledAfter_of_run run hends
  due := by
    rintro l₁ label call l₂ rfl hcall
    exact ⟨startedBefore_of_run run hcall,
      registeredAs_of_call (run.mono fun _ _ _ h => h.toCallbackStep) hcall⟩
  returns := returns_to_main s

/-- Neither is the HAL timer put to sleep, nor a timer started with 0 slots. -/
def CallbackOp.Ordinary : CallbackOp → Prop
  | .sleep => False
  | .start _ slots => slots ≠ 0
  | _ => True

instance (op : CallbackOp) : Decidable op.Ordinary :=
  match op with
  | .sleep => isFalse id
  | .start _ _ => inferInstanceAs (Decidable (_ ≠ _))
  | .register _ _ | .unregister _ | .stop _ | .slot | .interrupt | .handlerReturn => isTrue trivial

lemma calm_of_ordinary {op : CallbackOp} (h : op.Ordinary) : s.Calm op := by
  cases op with
  | sleep => exact h.elim
  | start timerId slots => exact fun hzero => absurd hzero h
  | _ => exact trivial

lemma slots_pos_of_ordinary (h : (CallbackOp.start timerId slots).Ordinary) :
    max 1 slots.toNat = slots.toNat := by
  refine max_eq_right (Nat.one_le_iff_ne_zero.mpr fun hzero => h ?_)
  exact BitVec.eq_of_toNat_eq (by simpa using hzero)

/-- **The callback timers are a map of absolute deadlines.** A timer that is started is called once,
exactly its slots later, unless it is started again, stopped or unregistered before; every call is
one of these, and of the handler that was registered; and a start is accepted exactly if its id is
registered. -/
theorem callbackTimers_exact (run : Run CallbackStep boot l s)
    (h : ∀ label ∈ l, label.1.Ordinary) : ExactCalls BitVec.toNat l s := by
  have hexact := exactCalls_of_run <|
    (run.restrict h).mono fun _ _ _ ⟨step, hordinary⟩ => ⟨step, calm_of_ordinary hordinary⟩
  refine { refines := hexact.refines, accepted := hexact.accepted, returns := hexact.returns
           called := ?_, due := ?_ }
  · intro l₁ timerId slots l₂ hl hends
    have hslots := slots_pos_of_ordinary (h (.start timerId slots, .code 0) (by simp [hl]))
    exact hslots ▸ hexact.called l₁ timerId slots l₂ hl hends
  · intro l₁ label call l₂ hl hcall
    obtain ⟨hstarted, hregistered⟩ := hexact.due l₁ label call l₂ hl hcall
    obtain ⟨m₁, m₂, hl₁, -⟩ := id hstarted
    have hslots := slots_pos_of_ordinary
      (h (.start call.nsTimerId call.slots, .code 0) (by simp [hl, hl₁]))
    exact ⟨hslots ▸ hstarted, hregistered⟩

/-- Two timers that run out together, one of which stops the other from its handler, and one that
runs out later. -/
def sampleCallbackOps : List CallbackOp :=
  [.register (some 0) (some 0), .register (some 1) (some 0), .register (some 2) (some 0),
    .start 0 3, .slot, .start 1 2, .start 2 4, .slot, .slot, .interrupt, .stop 1, .start 0 1,
    .handlerReturn, .slot, .interrupt, .handlerReturn, .slot, .interrupt, .handlerReturn]

theorem callbackTimers_exact_sample : ∃ l s, l.map Prod.fst = sampleCallbackOps ∧
    (l.map Prod.snd).filter (fun ret => ret matches .call (some _))
      = [.call (some ⟨0, 0, 3⟩), .call (some ⟨0, 0, 1⟩), .call (some ⟨2, 2, 4⟩)] ∧
    ExactCalls BitVec.toNat l s := by
  have hsome : (Run.trace (CallbackTimers.attempt fun _ op => op.Ordinary) sampleCallbackOps
      boot).map
      (fun p => (p.1.map Prod.snd).filter fun ret => ret matches .call (some _))
      = some [.call (some ⟨0, 0, 3⟩), .call (some ⟨0, 0, 1⟩), .call (some ⟨2, 2, 4⟩)] := by
    decide +kernel
  obtain ⟨⟨l, s⟩, htrace, hcalls⟩ := Option.map_eq_some_iff.mp hsome
  obtain ⟨run, hops⟩ := run_of_trace htrace
  exact ⟨l, s, hops, hcalls, callbackTimers_exact
    (run.mono fun _ _ _ h => h.1) (run.forall_labels fun _ _ _ h => h.2)⟩

end EventLoop
