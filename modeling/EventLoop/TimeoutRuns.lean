import Mathlib.Algebra.Order.Floor.Div
import Mathlib.GroupTheory.GroupAction.Ring
import EventLoop.TimeoutSteps

/-!
# Timeouts are freed exactly once

Runs of the event loop with timeouts. A history records beside the state which `timeout_t` blocks
were created one-shot and which were cancelled; with these two facts the block that an operation
frees is determined.
-/

namespace EventLoop

open Lib

/-! ## Histories -/

namespace System

/-- The callback of a timeout is in progress. -/
def Runs (σ : System) (t : Ptr) : Prop := ∃ p ∈ σ.core.running, (σ.entries t).event = some p

/-- The callback of a timeout is the next to return. -/
def Innermost (σ : System) (t : Ptr) : Prop :=
  ∃ p ∈ σ.core.running.head?, (σ.entries t).event = some p

lemma runs_iff {σ : System} {t p : Ptr} (hentry : (σ.entries t).event = some p) :
    σ.Runs t ↔ p ∈ σ.core.running := by
  constructor
  · rintro ⟨q, hq, hq'⟩
    obtain rfl : q = p := Option.some.inj (hq'.symm.trans hentry)
    exact hq
  · exact fun hp => ⟨p, hp, hentry⟩

lemma innermost_iff {σ : System} {t p : Ptr} (hentry : (σ.entries t).event = some p) :
    σ.Innermost t ↔ p ∈ σ.core.running.head? := by
  constructor
  · rintro ⟨q, hq, hq'⟩
    obtain rfl : q = p := Option.some.inj (hq'.symm.trans hentry)
    exact hq
  · exact fun hp => ⟨p, hp, hentry⟩

end System

/-- The system with what is known of its timeouts: `oneShot` when a `timeout_t` was created by
`eventOS_timeout_ms`, `cancelled` when it was handed to `eventOS_timeout_cancel` since. -/
structure TimeoutHistory where
  system : System
  oneShot : Ptr → Bool
  cancelled : Ptr → Bool

namespace TimeoutHistory

def start (s : State) : TimeoutHistory where
  system := .start s
  oneShot _ := false
  cancelled _ := false

/-- The history after an operation that handed back `r` and left `σ`. -/
def next (h : TimeoutHistory) (op : SysOp) (r : Ret) (σ : System) : TimeoutHistory :=
  match op with
  | .timeoutMs _ _ _ _ =>
    { system := σ, oneShot := System.recorded r.handle? true h.oneShot
      cancelled := System.recorded r.handle? false h.cancelled }
  | .timeoutEveryMs _ _ _ _ =>
    { system := σ, oneShot := System.recorded r.handle? false h.oneShot
      cancelled := System.recorded r.handle? false h.cancelled }
  | .timeoutCancel (some t) =>
    { h with system := σ, cancelled := Function.update h.cancelled t true }
  | _ => { h with system := σ }

@[simp] lemma next_system (h : TimeoutHistory) (op : SysOp) (r : Ret) (σ : System) :
    (h.next op r σ).system = σ := by
  cases op with
  | timeoutCancel t => cases t <;> rfl
  | _ => rfl

/-- When an operation frees a live `timeout_t`: when its callback returns, if it is one-shot or was
cancelled, and when it is cancelled while its callback is not running. -/
def Frees (h : TimeoutHistory) (op : SysOp) (t : Ptr) : Prop :=
  match op with
  | .core .handlerReturn =>
    h.system.Innermost t ∧ (h.oneShot t = true ∨ h.cancelled t = true)
  | .timeoutCancel (some u) => u = t ∧ ¬ h.system.Runs t
  | _ => False

end TimeoutHistory

/-- The operations that create a timeout. -/
def SysOp.Creates : SysOp → Prop
  | .timeoutMs _ _ _ _ | .timeoutEveryMs _ _ _ _ => True
  | _ => False

/-! ## Milliseconds -/

/-- The conversion rounds up, modulo 2³². -/
lemma toNat_msToTicks (ms : BitVec 32) :
    (eventOSEventTimerMsToTicks ms).toNat = (ms.toNat + 9) % 2 ^ 32 / 10 := by
  have hten : (10 : BitVec 32).toNat = 10 := rfl
  have hone : (1 : BitVec 32).toNat = 1 := rfl
  have hsum : (ms + 10 - 1).toNat = (ms.toNat + 9) % 2 ^ 32 := by
    rw [BitVec.toNat_sub, BitVec.toNat_add, hten, hone]
    omega
  rw [eventOSEventTimerMsToTicks, BitVec.toNat_udiv, hsum, hten]

/-- Up to 2³² - 10 milliseconds, the period of a timeout is at least one tick. -/
lemma msToTicks_ne_zero {every : BitVec 32} (hpos : 1 ≤ every.toNat)
    (hle : every.toNat ≤ 2 ^ 32 - 10) : eventOSEventTimerMsToTicks every ≠ 0 := by
  intro hzero
  have hnat : (every.toNat + 9) % 2 ^ 32 / 10 = 0 := by
    rw [← toNat_msToTicks, hzero]
    rfl
  omega

lemma toNat_msToTicks_of_lt {ms : BitVec 32} (h : ms.toNat + 9 < 2 ^ 32) :
    (eventOSEventTimerMsToTicks ms).toNat = ms.toNat ⌈/⌉ 10 := by
  rw [toNat_msToTicks, Nat.mod_eq_of_lt h, Nat.ceilDiv_eq_add_pred_div]
  rfl

/-- The periods that convert to 0 ticks. -/
lemma msToTicks_eq_zero {every : BitVec 32}
    (h : ¬ (1 ≤ every.toNat ∧ every.toNat ≤ 2 ^ 32 - 10)) :
    eventOSEventTimerMsToTicks every = 0 := by
  have hlt := every.isLt
  apply BitVec.eq_of_toNat_eq
  rw [toNat_msToTicks]
  show _ = 0
  omega

lemma msToTicks_lt (ms : BitVec 32) : (eventOSEventTimerMsToTicks ms).toNat < 2 ^ 31 := by
  rw [toNat_msToTicks]
  omega

section

variable [NsList]

/-- One valid operation that runs into no undefined behaviour. -/
structure TimeoutStep (h : TimeoutHistory) (label : SysOp × Ret) (h' : TimeoutHistory) : Prop where
  valid : h.system.Valid label.1
  exec : System.exec label.1 h.system = .ok (h'.system, label.2)
  next : h' = h.next label.1 label.2 h'.system

/-- The invariant of a history. -/
structure TimeoutHistory.Sound (h : TimeoutHistory) : Prop where
  consistent : h.system.Consistent none
  stacked : h.system.Stacked
  kinds : h.system.Kinds h.oneShot h.cancelled

/-- What an operation does to the `timeout_t` blocks. -/
structure TimeoutHistory.Outcome (h : TimeoutHistory) (op : SysOp) (r : Ret)
    (h' : TimeoutHistory) : Prop where
  sound : h'.Sound
  freed : ∀ t, h.system.Live t → (¬ h'.system.Live t ↔ h.Frees op t)
  created : ∀ t, ¬ h.system.Live t → (h'.system.Live t ↔ op.Creates ∧ r = .handle (some t))
  failed : op.Creates → r = .handle none → ∀ p,
    Pending h'.system.core p ∧ h'.system.Timed p ↔ Pending h.system.core p ∧ h.system.Timed p
  leads : Leads h.system.core h'.system.core

namespace TimeoutHistory

variable {h : TimeoutHistory}

/-- An operation that leaves the timeouts alone frees none and creates none. -/
lemma Sound.outcome_same (sound : h.Sound) {op : SysOp} {r : Ret} {σ : System}
    (hcon : σ.Consistent none) (hstacked : σ.Stacked) (hsame : h.system.Same σ)
    (hnext : h.next op r σ = { h with system := σ }) (hfrees : ∀ t, ¬ h.Frees op t)
    (hcreates : ¬ op.Creates) (hleads : Leads h.system.core σ.core) :
    h.Outcome op r (h.next op r σ) := by
  rw [hnext]
  refine ⟨⟨hcon, hstacked, sound.kinds.same hsame⟩, fun t ht => ?_, fun t ht => ?_,
    fun hop => absurd hop hcreates, hleads⟩
  · exact iff_of_false (not_not_intro ((hsame.live t).mpr ht)) (hfrees t)
  · exact iff_of_false (fun ht' => ht ((hsame.live t).mp ht')) (fun h => hcreates h.1)

/-- A step of other code. -/
lemma Sound.outcome_core (sound : h.Sound) {op : Op} (valid : h.system.Valid (.core op))
    (hdispatch : op ≠ .dispatch) (hreturn : op ≠ .handlerReturn) :
    ∃ σ r, System.exec (.core op) h.system = .ok (σ, r) ∧
      h.Outcome (.core op) r (h.next (.core op) r σ) := by
  obtain ⟨s', r, hexec, hstep, -, hcon, hstacked, hsame⟩ :=
    sound.consistent.core_exec sound.stacked valid hdispatch hreturn
  refine ⟨_, r, hexec, sound.outcome_same hcon hstacked hsame rfl (fun t => ?_) id
    (.of_step hstep valid.2.1)⟩
  cases op <;> first | exact id | contradiction

/-- A creation. -/
lemma Sound.outcome_create (sound : h.Sound) {op : SysOp} (hcreates : op.Creates)
    {answers : Answers} (fresh : ∀ p ∈ answers.toList, Fresh h.system.core p)
    (hdistinct : answers.toList.Nodup)
    (hlen : h.system.timeoutTaskletId = -1 → h.system.core.armCoreTaskletList.length < 128)
    {callback : Option FuncPtr} {arg : ℕ} {at_ period : BitVec 32}
    (hexec : System.exec op h.system = (do
      let (σ, t) ← eventOSTimeoutAt_ callback arg at_ period answers h.system
      .ok (σ, .handle t)))
    (hnext : ∀ r σ, h.next op (.handle r) σ =
      { system := σ, oneShot := System.recorded r (decide (period = 0)) h.oneShot
        cancelled := System.recorded r false h.cancelled })
    (hfrees : ∀ t, ¬ h.Frees op t) :
    ∃ σ r, System.exec op h.system = .ok (σ, r) ∧ h.Outcome op r (h.next op r σ) := by
  obtain ⟨σ, r, hat, hcreated⟩ :=
    sound.consistent.timeoutAt sound.stacked fresh hdistinct hlen callback arg at_ period
  refine ⟨σ, .handle r, by rw [hexec, hat]; rfl, ?_⟩
  rw [hnext]
  refine ⟨⟨hcreated.consistent, hcreated.stacked, hcreated.kinds _ _ sound.kinds⟩,
    fun t ht => ?_, fun t ht => ?_, ?_, hcreated.leads.leads⟩
  · exact iff_of_false (not_not_intro ((hcreated.live t).mpr (Or.inl ht))) (hfrees t)
  · rw [show Iff _ _ from hcreated.live t, or_iff_right ht, Ret.handle.injEq]
    exact (and_iff_right hcreates).symm
  · intro _ hr
    exact hcreated.failed (Ret.handle.inj hr)

/-- A cancel. -/
lemma Sound.outcome_cancel (sound : h.Sound) {t : Option Ptr}
    (valid : h.system.Valid (.timeoutCancel t)) :
    ∃ σ r, System.exec (.timeoutCancel t) h.system = .ok (σ, r) ∧
      h.Outcome (.timeoutCancel t) r (h.next (.timeoutCancel t) r σ) := by
  cases t with
  | none =>
    exact ⟨h.system, .void, rfl, sound.outcome_same sound.consistent sound.stacked
      (.refl h.system) rfl (fun _ => id) id (.refl _)⟩
  | some t =>
    obtain ⟨σ, p, hentry, hcancel, hcon, hstacked, hlive, hkinds, hleads, -⟩ :=
      sound.consistent.cancel sound.stacked (valid t rfl)
    refine ⟨σ, .void, ?_, ⟨hcon, hstacked, hkinds _ _ sound.kinds⟩, fun u hu => ?_,
      fun u hu => ?_, fun hop => hop.elim, hleads.leads⟩
    · simp only [System.exec, hcancel, ok_bind]
    · show ¬ σ.Live u ↔ t = u ∧ ¬ h.system.Runs u
      rw [hlive u]
      constructor
      · intro hfreed
        obtain ⟨hut, hrun⟩ : u = t ∧ p ∉ h.system.core.running := by tauto
        subst hut
        exact ⟨rfl, fun hruns => hrun ((System.runs_iff hentry).mp hruns)⟩
      · rintro ⟨rfl, hrun⟩ ⟨-, hmem⟩
        exact hrun ((System.runs_iff hentry).mpr (hmem rfl))
    · exact iff_of_false (fun ht => hu ((hlive u).mp ht).1) (fun h => h.1)

/-- The return of a handler. -/
lemma Sound.outcome_return (sound : h.Sound) (hrunning : h.system.core.running ≠ []) :
    ∃ σ r, System.exec (.core .handlerReturn) h.system = .ok (σ, r) ∧
      h.Outcome (.core .handlerReturn) r (h.next (.core .handlerReturn) r σ) := by
  obtain ⟨σ, hreturn, hcon, hstacked, hlive, hkinds, -, s₁, hleads, hstep⟩ :=
    sound.consistent.handlerReturn sound.stacked hrunning
  refine ⟨σ, .void, hreturn, ⟨hcon, hstacked, hkinds _ _ sound.kinds⟩, fun u hu => ?_,
    fun u hu => ?_, fun hop => hop.elim, hleads.leads.trans (.of_step hstep trivial)⟩
  · show ¬ σ.Live u ↔ h.system.Innermost u ∧ (h.oneShot u = true ∨ h.cancelled u = true)
    rw [hlive u, and_iff_right hu]
    obtain ⟨p, hentry, hp, htimed, hdata⟩ := sound.consistent.timer hu (by simp)
    have hperiod := sound.kinds p u hp htimed hdata
    rw [System.innermost_iff hentry, ← hperiod]
    constructor
    · intro hnot
      push Not at hnot
      obtain ⟨q, hq, hq', hzero⟩ := hnot
      obtain rfl : q = p := Option.some.inj (hq'.symm.trans hentry)
      exact ⟨hq, hzero⟩
    · rintro ⟨hhead, hzero⟩ hnot
      exact hnot p hhead hentry hzero
  · exact iff_of_false (fun ht => hu ((hlive u).mp ht).1) (fun h => h.1)

/-- **A valid operation runs into no undefined behaviour**, unless it calls a callback that is
`NULL`, and does to the `timeout_t` blocks what the history says. -/
theorem Sound.exec_outcome (sound : h.Sound) {op : SysOp} (valid : h.system.Valid op) :
    (∃ σ r, System.exec op h.system = .ok (σ, r) ∧ h.Outcome op r (h.next op r σ)) ∨
      op = .core .dispatch ∧ System.exec op h.system = .error .assertion ∧
        ∃ p t, h.system.core.eventQueueActive.head? = some p ∧ h.system.Timed p ∧
          (h.system.core.event p).data.dataPtr = some t ∧
          (h.system.entries t).callback = none := by
  cases op with
  | timeoutMs callback ms arg answers =>
    obtain ⟨fresh, hdistinct, hlen⟩ := valid
    exact Or.inl (sound.outcome_create trivial fresh hdistinct hlen rfl (fun _ _ => rfl)
      fun _ => id)
  | timeoutEveryMs callback every arg answers =>
    obtain ⟨fresh, hdistinct, hlen, hpos, hle⟩ := valid
    refine Or.inl (sound.outcome_create trivial fresh hdistinct hlen rfl (fun r σ => ?_)
      fun _ => id)
    rw [decide_eq_false (msToTicks_ne_zero hpos hle)]
    rfl
  | timeoutCancel t => exact Or.inl (sound.outcome_cancel valid)
  | core op =>
    by_cases hreturn : op = .handlerReturn
    · subst hreturn
      exact Or.inl (sound.outcome_return valid.1)
    by_cases hdispatch : op = .dispatch
    · subst hdispatch
      rcases sound.consistent.dispatch sound.stacked with
        ⟨σ, r, hexec, hcon, hstacked, hsame, hstep⟩ | ⟨herror, hnull⟩
      · exact Or.inl ⟨σ, r, hexec, sound.outcome_same hcon hstacked hsame rfl (fun _ => id) id
          (.of_step hstep trivial)⟩
      · exact Or.inr ⟨rfl, herror, hnull⟩
    · exact Or.inl (sound.outcome_core valid hdispatch hreturn)

/-- What a step does. -/
lemma Sound.step {h' : TimeoutHistory} (sound : h.Sound) {op : SysOp} {r : Ret}
    (step : TimeoutStep h (op, r) h') : h.Outcome op r h' := by
  have hexec := step.exec
  rcases sound.exec_outcome step.valid with ⟨σ, r', hok, houtcome⟩ | ⟨-, herror, -⟩
  · obtain ⟨rfl, rfl⟩ : σ = h'.system ∧ r' = r := by simpa [hok] using hexec
    rw [step.next]
    exact houtcome
  · simp [herror] at hexec

lemma start_sound {s : State} (init : Initial s) : (start s).Sound := by
  have hheap : ∀ t, s.heap t = none := by
    obtain ⟨s₀, boot, rfl⟩ := init
    rw [boot.init_eq]
    exact boot.heap
  have hrunning : s.running = [] := by
    obtain ⟨s₀, boot, rfl⟩ := init
    rw [boot.init_eq]
    exact boot.running
  have htimed : ∀ p, ¬ (System.start s).Timed p := fun p ht => ht.1 rfl
  refine ⟨⟨⟨fun p _ ht => absurd ht (htimed p), fun p _ ht => absurd ht (htimed p),
    fun t ht => ?_⟩, ⟨init.owned, init.deliverable, fun h => absurd rfl h, ?_⟩⟩, ?_,
    fun p t _ ht => absurd ht (htimed p)⟩
  · exact absurd (ht.symm.trans (hheap t)) (by simp)
  · rw [show (start s).system.core.armCoreTaskletList = [] from init.tasklets]
    simp
  · show [] = s.running.map _
    rw [hrunning]
    rfl

/-- The invariant of every run. -/
theorem sound_of_run {s : State} {l : List (SysOp × Ret)} (init : Initial s)
    (run : Run TimeoutStep (start s) l h) : h.Sound :=
  run.invariant (start_sound init) fun _ _ _ sound step => (sound.step step).sound

/-- **The event loop with timeouts refines the event loop**: what the timeout functions do to it
is a sequence of its own valid operations. -/
theorem leads_of_run {s : State} {l : List (SysOp × Ret)} (init : Initial s)
    (run : Run TimeoutStep (start s) l h) : Leads s h.system.core := by
  have hboth : h.Sound ∧ Leads s h.system.core :=
    run.invariant (I := fun h => h.Sound ∧ Leads s h.system.core) ⟨start_sound init, .refl s⟩
      fun _ _ _ ⟨sound, leads⟩ step =>
        ⟨(sound.step step).sound, leads.trans (sound.step step).leads⟩
  exact hboth.2

end TimeoutHistory

/-- **Timeouts are freed exactly once and never used afterwards.** After any run of valid
operations: every event of a timeout's timer that is queued, waits or runs refers to a `timeout_t`
that is allocated and refers back to it, and every allocated one has such an event. The next valid
operation runs into no undefined behaviour, so nothing is freed twice or used after it was freed,
unless it calls a callback that is `NULL`. And the operation frees exactly the `timeout_t` blocks
that `Frees` names, allocates exactly the one it returns, and leaves no timer behind when it
returns `NULL`. -/
theorem timeout_freed_once {s : State} {l : List (SysOp × Ret)} {h : TimeoutHistory}
    (init : Initial s) (run : Run TimeoutStep (.start s) l h) :
    (∀ p, Pending h.system.core p → h.system.Timed p → ∃ t,
      (h.system.core.event p).data.dataPtr = some t ∧ h.system.Live t ∧
        (h.system.entries t).event = some p) ∧
    (∀ t, h.system.Live t → ∃ p, (h.system.entries t).event = some p ∧
      Pending h.system.core p ∧ h.system.Timed p ∧
        (h.system.core.event p).data.dataPtr = some t) ∧
    (∀ op, h.system.Valid op → (∃ h' r, TimeoutStep h (op, r) h') ∨
      op = .core .dispatch ∧ System.exec op h.system = .error .assertion ∧
        ∃ p t, h.system.core.eventQueueActive.head? = some p ∧ h.system.Timed p ∧
          (h.system.core.event p).data.dataPtr = some t ∧
          (h.system.entries t).callback = none) ∧
    ∀ op r h', TimeoutStep h (op, r) h' →
      (∀ t, h.system.Live t → (¬ h'.system.Live t ↔ h.Frees op t)) ∧
      (∀ t, ¬ h.system.Live t → (h'.system.Live t ↔ op.Creates ∧ r = .handle (some t))) ∧
      (op.Creates → r = .handle none → ∀ p,
        Pending h'.system.core p ∧ h'.system.Timed p ↔
          Pending h.system.core p ∧ h.system.Timed p) := by
  have sound := TimeoutHistory.sound_of_run init run
  refine ⟨fun p hp ht => ?_, fun t ht => sound.consistent.timer ht (by simp), fun op valid => ?_,
    fun op r h' step => ?_⟩
  · obtain ⟨t, hdata, hlive, -, hentry⟩ := sound.consistent.points p hp ht
    exact ⟨t, hdata, hlive, hentry⟩
  · rcases sound.exec_outcome valid with ⟨σ, r, hexec, -⟩ | hnull
    · exact Or.inl ⟨h.next op r σ, r, valid, by rw [h.next_system]; exact hexec,
        by rw [h.next_system]⟩
    · exact Or.inr hnull
  · have houtcome := sound.step step
    exact ⟨houtcome.freed, houtcome.created, houtcome.failed⟩

/-! ## Running the model -/

/-- Carry out an operation, if it is valid and does not fault. -/
def TimeoutHistory.attempt (h : TimeoutHistory) (op : SysOp) : Option TimeoutHistory :=
  if h.system.Valid op then
    match System.exec op h.system with
    | .ok (σ, r) => some (h.next op r σ)
    | .error _ => none
  else none

lemma TimeoutHistory.attempt_step {h h' : TimeoutHistory} {op : SysOp}
    (hattempt : h.attempt op = some h') : ∃ r, TimeoutStep h (op, r) h' := by
  unfold attempt at hattempt
  split at hattempt
  · next valid =>
    split at hattempt
    · next σ r hexec =>
      obtain rfl := Option.some.inj hattempt
      refine ⟨r, valid, ?_, ?_⟩
      · rw [next_system]
        exact hexec
      · rw [next_system]
    · cases hattempt
  · cases hattempt

end

/-- A one-shot and a periodic timeout; the periodic one cancels itself twice in its callback. -/
def timeoutOps : List SysOp :=
  let answers (a b : ℕ) : Answers :=
    { timeout := some (.heap a), tasklet := some (.heap b), event := none, timer := none }
  [.timeoutMs (some 5) 40 0 (answers 0 1), .core .dispatch, .core .handlerReturn,
    .timeoutEveryMs (some 6) 20 0 (answers 2 3), .core (.tickUpdate 2), .core .dispatch,
    .timeoutCancel (some (.heap 2)), .timeoutCancel (some (.heap 2))]

/-- The periodic timeout that cancelled itself is freed when its callback returns. -/
theorem timeout_freed_once_cancelled : ∃ l h,
    Run TimeoutStep (.start (eventOSSchedulerInit (.boot 0))) l h ∧ h.system.Live (.heap 2) ∧
    ∀ r h', TimeoutStep h (.core .handlerReturn, r) h' → ¬ h'.system.Live (.heap 2) := by
  have hsome : (timeoutOps.foldlM TimeoutHistory.attempt
      (.start (eventOSSchedulerInit (.boot 0)))).map (fun h =>
        (h.system.core.heap (.heap 2), h.system.core.running, (h.system.entries (.heap 2)).event,
          h.cancelled (.heap 2)))
      = some (some .timeout, [.startupSysTimerPool 4], some (.startupSysTimerPool 4), true) := by
    decide +kernel
  obtain ⟨h, hh, hvalues⟩ := Option.map_eq_some_iff.mp hsome
  obtain ⟨hlive, hrunning, hentry, hcancelled⟩ : h.system.Live (.heap 2) ∧
      h.system.core.running = [.startupSysTimerPool 4] ∧
      (h.system.entries (.heap 2)).event = some (.startupSysTimerPool 4) ∧
      h.cancelled (.heap 2) = true := by
    simp only [Prod.mk.injEq] at hvalues
    exact hvalues
  obtain ⟨l, run, -⟩ := Run.of_foldlM (f := TimeoutHistory.attempt)
    (fun _ _ _ hattempt => TimeoutHistory.attempt_step hattempt) hh
  refine ⟨l, h, run, hlive, fun r h' step => ?_⟩
  have hfreed := ((timeout_freed_once (boot_initial 0) run).2.2.2 _ r h' step).1 _ hlive
  refine hfreed.mpr ⟨⟨_, ?_, hentry⟩, Or.inr hcancelled⟩
  simp [hrunning]

end EventLoop
