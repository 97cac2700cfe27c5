import EventLoop.Lib.ListLemmas
import EventLoop.Lib.Transition
import Mathlib.Data.Set.Insert

/-!
# Stable priority queues

The abstract queue: a set of pending entries, each with the ticket it got when it was written.
A delivery takes the entry of the numerically smallest priority, and among equals the one with
the smallest ticket. The logs say what became of every entry; `Queue.Accounted` is exactly-once
delivery. A list of entries in the order of delivery implements it, where a new entry is put in
front of the first one of lower priority.
-/

namespace Lib.StableQueue

variable {κ δ : Type}

/-- An entry: the ticket from when it was written, where it is kept, and its data. -/
structure Entry (κ δ : Type) where
  ticket : ℕ
  key : κ
  data : δ

/-- What happens to a queue. -/
inductive Action (κ δ : Type) where
  | write (key : κ) (data : δ)
  | cancel (key : κ)
  | deliver (key : κ) (data : δ)
  deriving DecidableEq

/-- What is written. -/
def Action.written : Action κ δ → Option (κ × δ)
  | write key data => some (key, data)
  | _ => none

/-- What is delivered. -/
def Action.delivered : Action κ δ → Option (κ × δ)
  | deliver key data => some (key, data)
  | _ => none

/-- A stable priority queue with its logs. -/
structure Queue (κ δ : Type) where
  pending : Set (Entry κ δ)
  written : List (Entry κ δ)
  delivered : List (Entry κ δ)
  cancelled : List (Entry κ δ)

/-- Nothing was ever written. -/
def Queue.empty : Queue κ δ where
  pending := ∅
  written := []
  delivered := []
  cancelled := []

/-- The entry that is written next. -/
def Queue.next (q : Queue κ δ) (key : κ) (data : δ) : Entry κ δ where
  ticket := q.written.length
  key := key
  data := data

/-- The order of delivery. -/
def Entry.Before (priority : δ → ℕ) (a b : Entry κ δ) : Prop :=
  priority a.data < priority b.data ∨
    (priority a.data = priority b.data ∧ a.ticket < b.ticket)

/-- The steps of a stable priority queue. -/
inductive Step (priority : δ → ℕ) (q : Queue κ δ) : Action κ δ → Queue κ δ → Prop
  | write (key : κ) (data : δ) (hfresh : ∀ e ∈ q.pending, e.key ≠ key) :
      Step priority q (.write key data)
        { q with
          pending := insert (q.next key data) q.pending
          written := q.written ++ [q.next key data] }
  | cancel (e : Entry κ δ) (he : e ∈ q.pending) :
      Step priority q (.cancel e.key)
        { q with pending := q.pending \ {e}, cancelled := q.cancelled ++ [e] }
  | deliver (e : Entry κ δ) (he : e ∈ q.pending)
      (hfirst : ∀ e' ∈ q.pending, e' ≠ e → e.Before priority e') :
      Step priority q (.deliver e.key e.data)
        { q with pending := q.pending \ {e}, delivered := q.delivered ++ [e] }

/-! ## Exactly once -/

/-- Every entry that was written is pending, was delivered, or was cancelled, and only one of
these, once. -/
structure Queue.Accounted (q : Queue κ δ) : Prop where
  tickets : q.written.map (·.ticket) = List.range q.written.length
  once : (q.delivered ++ q.cancelled).Nodup
  written_iff : ∀ e, e ∈ q.written ↔ e ∈ q.pending ∨ e ∈ q.delivered ++ q.cancelled
  pending_open : ∀ e ∈ q.pending, e ∉ q.delivered ++ q.cancelled

lemma Queue.Accounted.ticket_lt {q : Queue κ δ} (h : q.Accounted) {e : Entry κ δ}
    (he : e ∈ q.written) : e.ticket < q.written.length := by
  have hmem : e.ticket ∈ q.written.map (·.ticket) := List.mem_map_of_mem he
  rw [h.tickets] at hmem
  exact List.mem_range.mp hmem

lemma Queue.Accounted.next_notMem {q : Queue κ δ} (h : q.Accounted) (key : κ) (data : δ) :
    q.next key data ∉ q.written := fun hmem => lt_irrefl _ (h.ticket_lt hmem)

theorem Queue.Accounted.empty : (Queue.empty : Queue κ δ).Accounted := by
  constructor <;> simp [Queue.empty]

/-- A pending entry that is taken out is accounted for. -/
lemma Queue.Accounted.take {q : Queue κ δ} (h : q.Accounted) {e : Entry κ δ}
    (he : e ∈ q.pending) {delivered cancelled : List (Entry κ δ)}
    (hlogs : (delivered ++ cancelled).Perm (e :: (q.delivered ++ q.cancelled))) :
    ({ q with pending := q.pending \ {e}, delivered := delivered, cancelled := cancelled } :
      Queue κ δ).Accounted := by
  refine ⟨h.tickets, ?_, fun e' => ?_, ?_⟩
  · rw [hlogs.nodup_iff, List.nodup_cons]
    exact ⟨h.pending_open e he, h.once⟩
  · rw [h.written_iff e', hlogs.mem_iff, List.mem_cons]
    by_cases heq : e' = e
    · simp [heq, he]
    · simp [heq]
  · rintro e' ⟨he', hne⟩ hmem
    rcases List.mem_cons.mp (hlogs.mem_iff.mp hmem) with rfl | hmem
    · exact hne rfl
    · exact h.pending_open e' he' hmem

theorem Queue.Accounted.step {priority : δ → ℕ} {q q' : Queue κ δ} {a : Action κ δ}
    (h : q.Accounted) (step : Step priority q a q') : q'.Accounted := by
  cases step with
  | write key data hfresh =>
    have hnew := h.next_notMem key data
    rw [h.written_iff, not_or] at hnew
    refine ⟨?_, h.once, fun e => ?_, ?_⟩
    · simp [h.tickets, List.range_succ, Queue.next]
    · simp only [List.mem_append, List.mem_singleton, Set.mem_insert_iff, h.written_iff]
      tauto
    · rintro e (rfl | he)
      · exact hnew.2
      · exact h.pending_open e he
  | cancel e he =>
    refine h.take he ?_
    rw [← List.append_assoc]
    exact List.perm_append_singleton _ _
  | deliver e he hfirst =>
    exact h.take he (by simp)

/-- **Exactly-once delivery**, over every run. -/
theorem Queue.Accounted.run {priority : δ → ℕ} {q : Queue κ δ} {l : List (Action κ δ)}
    (run : Run (Step priority) .empty l q) : q.Accounted :=
  run.invariant .empty fun _ _ _ h step => h.step step

/-- The logs are the record of the actions. -/
theorem logs_of_run {priority : δ → ℕ} {q : Queue κ δ} {l : List (Action κ δ)}
    (run : Run (Step priority) .empty l q) :
    q.written.map (fun e => (e.key, e.data)) = l.filterMap Action.written ∧
      q.delivered.map (fun e => (e.key, e.data)) = l.filterMap Action.delivered := by
  induction run with
  | nil => simp [Queue.empty]
  | snoc run last ih =>
    cases last <;> simp [ih, Action.written, Action.delivered, Queue.next]

/-- A list that holds the pending entries in the order of delivery. -/
structure Implements (priority : δ → ℕ) (es : List (Entry κ δ)) (q : Queue κ δ) : Prop where
  ordered : es.Pairwise (Entry.Before priority)
  mem_iff : ∀ e, e ∈ es ↔ e ∈ q.pending
  ticket_lt : ∀ e ∈ es, e.ticket < q.written.length
  keys : (es.map (·.key)).Nodup

variable {priority : δ → ℕ} {es : List (Entry κ δ)} {q : Queue κ δ}

theorem Implements.empty : Implements priority ([] : List (Entry κ δ)) .empty := by
  constructor <;> simp [Queue.empty]

lemma Implements.eq_of_key (impl : Implements priority es q) {e e' : Entry κ δ} (he : e ∈ es)
    (he' : e' ∈ es) (hkey : e.key = e'.key) : e = e' :=
  List.inj_on_of_nodup_map impl.keys he he' hkey

/-- Writing. -/
theorem Implements.write [DecidableEq κ] (impl : Implements priority es q) {key : κ} (data : δ)
    (hkey : key ∉ es.map (·.key)) :
    ∃ q', Step priority q (.write key data) q' ∧ Implements priority
      (es.orderedInsert (fun a b => priority a.data < priority b.data) (q.next key data)) q' := by
  have hfresh : ∀ e ∈ q.pending, e.key ≠ key := by
    rintro e he rfl
    exact hkey (List.mem_map_of_mem ((impl.mem_iff e).mpr he))
  have hordered : es.Pairwise (StableBefore (fun e => priority e.data) Entry.ticket) :=
    impl.ordered
  refine ⟨_, .write key data hfresh, ?_, fun e => ?_, fun e he => ?_, ?_⟩
  · exact orderedInsert_stable (a := q.next key data) hordered impl.ticket_lt
  · rw [List.mem_orderedInsert, impl.mem_iff]
    rfl
  · rw [List.length_append, List.length_singleton]
    rcases (List.mem_orderedInsert _).mp he with rfl | he
    · simp [Queue.next]
    · have := impl.ticket_lt e he
      omega
  · have hperm := (List.perm_orderedInsert (fun a b : Entry κ δ =>
      priority a.data < priority b.data) (q.next key data) es).map (·.key)
    rw [hperm.nodup_iff, List.map_cons, List.nodup_cons]
    exact ⟨hkey, impl.keys⟩

/-- Taking an entry out, for the two ways an entry leaves the queue. -/
lemma Implements.remove [DecidableEq κ] (impl : Implements priority es q) {e : Entry κ δ}
    (he : e ∈ es) {delivered cancelled : List (Entry κ δ)} :
    Implements priority (es.filter (·.key ≠ e.key))
      { q with pending := q.pending \ {e}, delivered := delivered, cancelled := cancelled } := by
  refine ⟨impl.ordered.filter _, fun e' => ?_, fun e' he' => ?_, ?_⟩
  · simp only [List.mem_filter, decide_eq_true_eq, Set.mem_sdiff, Set.mem_singleton_iff]
    rw [← impl.mem_iff]
    refine and_congr_right fun he' => not_congr ⟨impl.eq_of_key he' he, fun h => h ▸ rfl⟩
  · exact impl.ticket_lt e' (List.mem_of_mem_filter he')
  · exact (List.filter_sublist.map _).nodup impl.keys

/-- Cancelling. -/
theorem Implements.cancel [DecidableEq κ] (impl : Implements priority es q) {e : Entry κ δ}
    (he : e ∈ es) : ∃ q', Step priority q (.cancel e.key) q' ∧
      Implements priority (es.filter (·.key ≠ e.key)) q' :=
  ⟨_, .cancel e ((impl.mem_iff e).mp he), impl.remove he⟩

/-- Delivering. -/
theorem Implements.deliver [DecidableEq κ] {e : Entry κ δ}
    (impl : Implements priority (e :: es) q) :
    ∃ q', Step priority q (.deliver e.key e.data) q' ∧
      Implements priority ((e :: es).filter (·.key ≠ e.key)) q' := by
  refine ⟨_, .deliver e ((impl.mem_iff e).mp List.mem_cons_self) fun e' he' hne => ?_,
    impl.remove List.mem_cons_self⟩
  have hmem := (impl.mem_iff e').mpr he'
  exact (List.pairwise_cons.mp impl.ordered).1 e' ((List.mem_cons.mp hmem).resolve_left hne)

end Lib.StableQueue
