import EventLoop.Pending

/-!
# Timer events after their cancellation

A timer event that was cancelled is retired: its storage is on the free list of the timers, or its
handler still runs and will give it back, for its period is 0. It stays so until a request takes the
storage from the free list again.
-/

namespace EventLoop

open Lib

/-- A timer event that was cancelled: it is free, or will be when its handler has returned. -/
structure Retired (s : State) (p : Ptr) : Prop where
  classOf : s.classOf p = .timer
  period : (s.mem p).period = 0
  place : p ∈ s.at_ .timerFree ∨ p ∈ s.at_ .running

/-- Moves that take a storage from the free list of the timers. -/
def Act.Reuses (p : Ptr) : Act → Prop
  | .relocate q A _ _ => q = p ∧ A = .timerFree
  | _ => False

/-! ## A cancel retires the event -/

lemma retired_of_cancel {s s' : State} (own : Owned s) {p : Ptr} (hclass : s.classOf p = .timer)
    (hpending : Pending s p) (run : Run Move s (cancelActs s p) s') : Retired s' p := by
  have hrelocated : ∀ A, A = .queue ∨ A = .timerList →
      cancelActs s p = [.relocate p A .timerFree (s.mem p).cancelled] → Retired s' p := by
    intro A hA hact
    rw [hact] at run
    simp only [Run.cons_iff, Run.nil_iff] at run
    obtain ⟨t, move, rfl⟩ := run
    have own' := own.preserved move
    cases move with
    | @relocate _ _ _ _ h row =>
      have hmem : p ∈ (s.move p A .timerFree (s.mem p).cancelled h).at_ .timerFree := by
        simp [State.at_, State.move_timerFree]
      exact ⟨own'.admits .timerFree p hmem, by simp [SysTimerStruct.cancelled], Or.inl hmem⟩
  by_cases hqueue : p ∈ s.eventQueueActive
  · exact hrelocated .queue (Or.inl rfl) (by simp [cancelActs, hqueue, hclass])
  by_cases hlist : p ∈ s.systemTimerList
  · exact hrelocated .timerList (Or.inr rfl) (by simp [cancelActs, hqueue, hlist])
  have hrun : p ∈ s.running := (hpending.resolve_left hqueue).resolve_left hlist
  simp only [cancelActs, hqueue, hlist, hclass, ↓reduceIte, Run.cons_iff, Run.nil_iff] at run
  obtain ⟨t, move, rfl⟩ := run
  have still := move.still (by simp)
  refine ⟨(still.classOf p).trans hclass, ?_, Or.inr ?_⟩
  · cases move
    simp [State.setPeriod, State.store]
  · rw [still.place]
    simp [State.at_, hrun, hclass]

/-! ## What becomes of it -/

section

variable {s s' : State} {p : Ptr}

/-- A retired timer event is on no other list. -/
lemma Retired.not_pending (ret : Retired s p) (own : Owned s) :
    p ∉ s.eventQueueActive ∧ p ∉ s.systemTimerList ∧ p ∉ s.freeEventEntry := by
  have helse : ∀ C, C ≠ .timerFree → C ≠ .running → p ∉ s.at_ C := fun C hfree hrun hC =>
    ret.place.elim (fun h => hfree (own.place_unique hC h)) (fun h => hrun (own.place_unique hC h))
  exact ⟨helse .queue (by decide) (by decide), helse .timerList (by decide) (by decide),
    helse .free (by decide) (by decide)⟩

lemma Retired.running_iff (ret : Retired s p) : p ∈ s.at_ .running ↔ p ∈ s.running := by
  simp [State.at_, ret.classOf]

/-- It is on the free list once, unless its handler runs. -/
lemma Retired.count (ret : Retired s p) (own : Owned s) :
    s.systemTimerFree.count p = if p ∈ s.running then 0 else 1 := by
  split
  · next hrun =>
    refine List.count_eq_zero.mpr fun hfree => ?_
    exact absurd (own.place_unique (A := .timerFree) hfree (ret.running_iff.mpr hrun)) (by decide)
  · next hrun =>
    have hfree := ret.place.resolve_right fun h => hrun (ret.running_iff.mp h)
    exact own.count_eq_one hfree

lemma Retired.not_fresh (ret : Retired s p) (own : Owned s) : ¬ Fresh s p := by
  intro fresh
  rcases ret.place with hp | hp <;>
    exact (List.count_pos_iff.mpr hp).ne' (fresh.count_eq_zero own _)

/-- The storage leaves the places of a retired timer event in two ways only: its handler has
returned, or a request takes it from the free list. -/
lemma Retired.row {A B : Place} {v : SysTimerStruct} {h : Option HeapObject} (ret : Retired s p)
    (own : Owned s) (row : Row s p A B v h) :
    (A = .running ∧ B = .timerFree ∧ v = (s.mem p).tagged .timerFree ∧ h = s.heap p) ∨
      A = .timerFree := by
  have hplace : ∀ C, p ∈ s.at_ C → C = .timerFree ∨ C = .running := fun C hC =>
    ret.place.imp (own.place_unique hC) (own.place_unique hC)
  have hfresh := ret.not_fresh own
  cases row with
  | finishOneShot => exact Or.inl ⟨rfl, rfl, rfl, rfl⟩
  | fire | arm => exact Or.inr rfl
  | sendDynamic _ fresh | grow _ fresh => exact absurd fresh hfresh
  | sendUser _ isHeap hheap =>
    obtain ⟨a, rfl⟩ := isHeap
    have hclass := ret.classOf
    simp [State.classOf, hheap] at hclass
  | requeue _ _ hperiod | rearm _ _ hperiod => exact absurd ret.period hperiod
  | finishPool _ hclass | finishDynamic _ hclass | finishUser _ hclass =>
    rw [ret.classOf] at hclass
    cases hclass
  | expire hp _ => simpa using hplace .timerList (by simp [State.at_, hp])
  | deliver hp => simpa using hplace .queue (by simp [State.at_, hp])
  | cancelWaiting hp => simpa using hplace .timerList hp
  | sendPool _ hp => simpa using hplace .free hp
  | cancelPool hp | cancelDynamic hp | cancelUser hp | cancelQueued hp =>
    simpa using hplace .queue hp

/-- A timer event that was cancelled stays retired. -/
lemma Retired.move {act : Act} (ret : Retired s p) (own : Owned s) (move : Move s act s')
    (hact : ¬ act.Reuses p) : Retired s' p := by
  by_cases hrelocate : ∃ q A B v, act = .relocate q A B v
  · obtain ⟨q, A, B, v, rfl⟩ := hrelocate
    have own' := own.preserved move
    cases move with
    | @relocate _ _ _ _ h row =>
      by_cases hqp : p = q
      · subst hqp
        have hA : A ≠ .timerFree := fun hA => hact ⟨rfl, hA⟩
        obtain ⟨rfl, rfl, rfl, rfl⟩ := (ret.row own row).resolve_right hA
        have hmem : p ∈ (s.move p .running .timerFree ((s.mem p).tagged .timerFree)
            (s.heap p)).at_ .timerFree := by simp [State.at_, State.move_timerFree]
        refine ⟨own'.admits .timerFree p hmem, ?_, Or.inl hmem⟩
        simpa [SysTimerStruct.tagged] using ret.period
      · refine ⟨?_, ?_, ?_⟩
        · rw [s.move_classOf_of_ne hqp, ret.classOf]
        · rw [State.move_mem, Function.update_of_ne hqp, ret.period]
        · simpa only [s.move_mem_at_of_ne _ _ _ _ hqp] using ret.place
  · have still := move.still fun q A B v h => hrelocate ⟨q, A, B, v, h⟩
    refine ⟨(still.classOf p).trans ret.classOf, ?_, ?_⟩
    · cases move with
      | relocate => exact absurd ⟨_, _, _, _, rfl⟩ hrelocate
      | unperiod =>
        simp only [State.setPeriod, State.store, Function.update_apply]
        split
        · rfl
        · exact ret.period
      | write =>
        simp only [State.setData, State.store, Function.update_apply]
        split
        · next hpq => exact hpq ▸ ret.period
        · exact ret.period
      | _ => exact ret.period
    · rw [still.place, still.place]
      exact ret.place

lemma Retired.run {acts : List Act} (ret : Retired s p) (own : Owned s) (run : Run Move s acts s')
    (hacts : ∀ act ∈ acts, ¬ act.Reuses p) : Retired s' p := by
  refine own.run_on (I := fun s => Retired s p) (fun t act u own ret hact move => ?_) ret run hacts
  exact ret.move own move hact

end

end EventLoop
