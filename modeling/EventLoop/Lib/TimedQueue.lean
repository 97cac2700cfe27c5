import EventLoop.Lib.DeadlineMap
import EventLoop.Lib.Waiting

/-!
# A priority queue with timers

A map of deadlines that feeds a stable priority queue: what fires is written to the queue under its
key. From the start of a timer to the delivery of its value there are two waits: first for the
deadline, which is exact, and then in the queue, behind what was there before and what overtakes it
(`served`).
-/

namespace Lib.TimedQueue

open DeadlineMap (elapsed Kept Untouched)
open StableQueue (Queue)

variable {K V : Type}

/-- What happens: an action on the queue, or one on the timers. -/
inductive Action (K V : Type) where
  | queue (a : StableQueue.Action K V)
  | timer (a : DeadlineMap.Action K V)

namespace Action

/-- What is done to the queue: a timer that fires is written to it. -/
def onQueue : Action K V → Option (StableQueue.Action K V)
  | queue a => some a
  | timer (.fire k v) => some (.write k v)
  | timer (.start _ _ _) | timer (.stop _) | timer .tick => none

/-- What is done to the timers. -/
def onTimers : Action K V → Option (DeadlineMap.Action K V)
  | queue _ => none
  | timer a => some a

lemma onQueue_eq_deliver {a : Action K V} {k : K} {v : V} :
    a.onQueue = some (.deliver k v) ↔ a = .queue (.deliver k v) := by
  rcases a with a | (_ | _ | _ | _) <;> simp [onQueue]

lemma onQueue_eq_cancel {a : Action K V} {k : K} :
    a.onQueue = some (.cancel k) ↔ a = .queue (.cancel k) := by
  rcases a with a | (_ | _ | _ | _) <;> simp [onQueue]

end Action

open Lib.TimedQueue.Action

/-- The deliveries in a part of a run. -/
def deliveriesIn (l : List (Action K V)) : ℕ :=
  (l.filterMap onQueue).countP StableQueue.Action.isDeliver

/-- The writes of a higher priority in a part of a run. -/
def overtakingIn (priority : V → ℕ) (v : V) (l : List (Action K V)) : ℕ :=
  (l.filterMap onQueue).countP (StableQueue.Action.overtakes priority (priority v))

/-- A queue and the timers that feed it. -/
structure Loop (K V : Type) where
  queue : Queue K V
  timers : DeadlineMap K V

/-- Nothing is queued, and no timer is started. -/
def Loop.empty : Loop K V := ⟨.empty, .empty⟩

variable [DecidableEq K] {priority : V → ℕ}

/-- One step: on the timers, or on the queue, or on both. -/
structure Step (priority : V → ℕ) (s : Loop K V) (a : Action K V) (s' : Loop K V) : Prop where
  queue : Run (StableQueue.Step priority) s.queue a.onQueue.toList s'.queue
  timers : s.timers.Step a.onTimers s'.timers

section

variable {s s' : Loop K V} {l l' : List (Action K V)} {k : K} {v : V} {n : ℕ}

omit [DecidableEq K] in
lemma filterMap_onQueue_singleton (a : Action K V) : [a].filterMap onQueue = a.onQueue.toList := by
  cases h : a.onQueue <;> simp [h]

/-- What a run does to the queue. -/
theorem run_queue (run : Run (Step priority) s l s') :
    Run (StableQueue.Step priority) s.queue (l.filterMap onQueue) s'.queue := by
  induction run with
  | nil => exact .nil
  | @snoc l t u a run last ih =>
    rw [List.filterMap_append, filterMap_onQueue_singleton]
    exact ih.append last.queue

/-- What a run does to the timers. -/
theorem run_timers (run : Run (Step priority) s l s') :
    Run (fun t a => t.Step (onTimers a)) s.timers l s'.timers := by
  induction run with
  | nil => exact .nil
  | snoc run last ih => exact .snoc ih last.timers

/-- A run on the queue and one on the timers that agree on the actions are a run on both. -/
theorem run_both {q q' : Queue K V} {t t' : DeadlineMap K V}
    (hqueue : Run (StableQueue.Step priority) q (l.filterMap onQueue) q')
    (htimers : t.ActionRun (l.filterMap onTimers) t') :
    Run (Step priority) ⟨q, t⟩ l ⟨q', t'⟩ := by
  induction l using List.reverseRecOn generalizing q' t' with
  | nil =>
    obtain rfl := Run.nil_iff.mp hqueue
    obtain rfl := Run.nil_iff.mp htimers
    exact .nil
  | append_singleton l a ih =>
    rw [List.filterMap_append] at hqueue htimers
    obtain ⟨q₁, hqueue, hlastQueue⟩ := hqueue.split
    obtain ⟨t₁, htimers, hlastTimers⟩ := htimers.split
    rw [filterMap_onQueue_singleton] at hlastQueue
    refine .snoc (ih hqueue htimers) ⟨hlastQueue, ?_⟩
    cases ha : a.onTimers with
    | none =>
      obtain rfl : t' = t₁ := by simpa [ha] using hlastTimers
      exact .idle
    | some b => simpa [ha] using hlastTimers

/-- What has fired is in the queue with its value, or was delivered or cancelled there. -/
theorem pending_of_fired (run : Run (Step priority) .empty (l ++ .timer (.fire k v) :: l') s) :
    (∃ e ∈ s.queue.pending, e.key = k ∧ e.data = v) ∨
      .queue (.deliver k v) ∈ l' ∨ .queue (.cancel k) ∈ l' := by
  obtain ⟨t, hbefore, hafter⟩ := run.split
  obtain ⟨u, hfire, hrest⟩ := Run.cons_iff.mp hafter
  have keyed : t.queue.Keyed := Queue.Keyed.empty.run (run_queue hbefore)
  obtain ⟨_, hwrite, hnil⟩ := Run.cons_iff.mp hfire.queue
  obtain rfl := Run.nil_iff.mp hnil
  obtain ⟨he, -⟩ := keyed.ahead_next hwrite
  rcases (keyed.step hwrite).served (run_queue hrest) he with
    ⟨hpending, -, -⟩ | ⟨b₁, b, b₂, hl', hb, -, -⟩
  · exact Or.inl ⟨_, hpending, rfl, rfl⟩
  · obtain ⟨a, ha, hab⟩ : ∃ a ∈ l', a.onQueue = some b :=
      List.mem_filterMap.mp (hl' ▸ List.mem_append_right _ List.mem_cons_self)
    rcases hb with rfl | rfl
    · exact Or.inr (Or.inr (onQueue_eq_cancel.mp hab ▸ ha))
    · exact Or.inr (Or.inl (onQueue_eq_deliver.mp hab ▸ ha))

/-- **From the start of a timer to its delivery.** A timer that is neither stopped nor started again
is written to the queue exactly when its delay has passed, and if it is not cancelled there, its
value is delivered: after at most as many deliveries as there are entries of its priority and above
in the queue when it fires, and such of a higher priority that are written later. -/
theorem served (run : Run (Step priority) .empty (l ++ .timer (.start k n v) :: l') s)
    (hkept : Kept onTimers k l') (hcancel : .queue (.cancel k) ∉ l') :
    (Untouched onTimers k l' ∧ elapsed onTimers l' ≤ n) ∨
    ∃ l₁ l₂ t, l' = l₁ ++ .timer (.fire k v) :: l₂ ∧ elapsed onTimers l₁ = n ∧
      Run (Step priority) .empty (l ++ .timer (.start k n v) :: l₁) t ∧
      (((∃ e ∈ s.queue.pending, e.key = k ∧ e.data = v) ∧
          deliveriesIn l₂ ≤ t.queue.pendingBefore priority v + overtakingIn priority v l₂) ∨
        ∃ m₁ m₂, l₂ = m₁ ++ .queue (.deliver k v) :: m₂ ∧
          deliveriesIn m₁ ≤ t.queue.pendingBefore priority v + overtakingIn priority v m₁) := by
  rcases DeadlineMap.fires_once (run_timers run) rfl hkept with
    ⟨huntouched, -, hle⟩ | ⟨l₁, b, l₂, rfl, hb, helapsed, -, -⟩
  · exact Or.inl ⟨huntouched, hle⟩
  · obtain rfl : b = .timer (.fire k v) := by
      cases b with
      | queue => cases hb
      | timer a => rw [Option.some.inj hb]
    have hsplit : l ++ .timer (.start k n v) :: (l₁ ++ .timer (.fire k v) :: l₂)
        = (l ++ .timer (.start k n v) :: l₁) ++ .timer (.fire k v) :: l₂ := by simp
    rw [hsplit] at run
    obtain ⟨t, hbefore, hafter⟩ := run.split
    obtain ⟨u, hfire, hrest⟩ := Run.cons_iff.mp hafter
    have keyed : t.queue.Keyed := Queue.Keyed.empty.run (run_queue hbefore)
    obtain ⟨_, hwrite, hnil⟩ := Run.cons_iff.mp hfire.queue
    obtain rfl := Run.nil_iff.mp hnil
    obtain ⟨he, hahead⟩ := keyed.ahead_next hwrite
    refine Or.inr ⟨l₁, l₂, t, rfl, helapsed, hbefore, ?_⟩
    rw [← hahead]
    rcases (keyed.step hwrite).served (run_queue hrest) he with
      ⟨hpending, -, hbound⟩ | ⟨b₁, b, b₂, hl₂, hb, -, hbound⟩
    · exact Or.inl ⟨⟨_, hpending, rfl, rfl⟩, (Nat.le_add_right _ _).trans hbound⟩
    · obtain ⟨m₁, m₂, rfl, rfl, hm₂⟩ := List.filterMap_eq_append_iff.mp hl₂
      obtain ⟨m₃, a, m₄, rfl, hnone, ha, -⟩ := List.filterMap_eq_cons_iff.mp hm₂
      rcases hb with rfl | rfl
      · obtain rfl := onQueue_eq_cancel.mp ha
        exact absurd (by simp [Queue.next]) hcancel
      · obtain rfl := onQueue_eq_deliver.mp ha
        have hsame : (m₁ ++ m₃).filterMap onQueue = m₁.filterMap onQueue := by
          rw [List.filterMap_append, List.filterMap_eq_nil_iff.mpr hnone, List.append_nil]
        refine Or.inr ⟨m₁ ++ m₃, m₄, by simp [Queue.next], ?_⟩
        rw [deliveriesIn, overtakingIn, hsame]
        exact hbound

end

end Lib.TimedQueue
