import EventLoop.Lib.Waiting
import EventLoop.QueueRefinement

/-!
# How long an event waits

An event in the queue stands behind events of its own priority and above. It is handed to its
handler after these, and after those of higher priority that are written while it waits; nothing
else comes before it. So it waits for a number of dispatches that is known from where it stands, but
for the events of higher priority.
-/

namespace EventLoop

open Lib
open Lib.StableQueue (Action Entry Implements Queue)

/-- An event in the queue is an entry of the abstract queue, and those in front of it are the
entries ahead of it. -/
lemma Represents.queued {s : State} {q : Queue Ptr ArmEvent} (rep : Represents s q)
    {front behind : List Ptr} {p : Ptr} (hqueue : s.eventQueueActive = front ++ p :: behind) :
    ∃ e ∈ q.pending, e.key = p ∧ e.data = (s.event p).data ∧
      q.ahead ArmEvent.rank e = front.length ∧ ∀ p' ∈ front, s.priority p' ≤ s.priority p := by
  obtain ⟨es, impl, hkeys, hes⟩ := rep
  rw [hqueue] at hkeys
  obtain ⟨l, l', rfl, rfl, hrest⟩ := List.map_eq_append_iff.mp hkeys
  obtain ⟨e, behind', rfl, rfl, rfl⟩ := List.map_eq_cons_iff.mp hrest
  have hrank : ∀ e' ∈ l ++ e :: behind', s.priority e'.key = e'.data.rank := by
    intro e' he'
    rw [hes e' he']
    rfl
  have he : e ∈ l ++ e :: behind' := by simp
  refine ⟨e, (impl.mem_iff e).mp he, rfl, hes e he, by rw [impl.ahead_eq, List.length_map], ?_⟩
  intro p' hp'
  obtain ⟨e', he', rfl⟩ := List.mem_map.mp hp'
  rw [hrank e he, hrank e' (List.mem_append_left _ he')]
  rcases (List.pairwise_append.mp impl.ordered).2.2 e' he' e List.mem_cons_self with hlt | ⟨heq, -⟩
  · exact hlt.le
  · exact heq.le

section

variable [NsList]

end

/-- The event of two timers that run out together. -/
def lowEvent : ArmEvent where
  receiver := 0
  sender := 0
  eventType := 2
  eventId := 3
  dataPtr := none
  priority := .low
  eventData := 4

end EventLoop
