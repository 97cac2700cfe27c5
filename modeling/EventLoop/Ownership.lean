import EventLoop.Lifecycle

/-!
# The ownership invariant

`Owned` is the invariant of the whole event loop: every storage that belongs to it is in exactly
one place, its `state` and `allocator` fields agree with that place. Every `Move` keeps it; the
only argument is `Owned.of_relocated`, which moves one storage from one place to another.
-/

namespace EventLoop

/-! ## Reading the state after a move -/

namespace State

@[simp] lemma store_event (s : State) (p q : Ptr) (v : SysTimerStruct) :
    (s.store p v).event q = if q = p then v.event else s.event q := by
  unfold event store Function.update
  split <;> simp_all

@[simp] lemma move_mem (s : State) (p : Ptr) (A B : Place) (v : SysTimerStruct)
    (h : Option HeapObject) : (s.move p A B v h).mem = Function.update s.mem p v := by
  cases A <;> cases B <;> rfl

@[simp] lemma move_heap (s : State) (p : Ptr) (A B : Place) (v : SysTimerStruct)
    (h : Option HeapObject) : (s.move p A B v h).heap = Function.update s.heap p h := by
  cases A <;> cases B <;> rfl

@[simp] lemma move_tasklets (s : State) (p : Ptr) (A B : Place) (v : SysTimerStruct)
    (h : Option HeapObject) :
    (s.move p A B v h).armCoreTaskletList = s.armCoreTaskletList := by
  cases A <;> cases B <;> rfl

@[simp] lemma move_ticks (s : State) (p : Ptr) (A B : Place) (v : SysTimerStruct)
    (h : Option HeapObject) : (s.move p A B v h).timerSysTicks = s.timerSysTicks := by
  cases A <;> cases B <;> rfl

/-- The list a place is, with `p` taken out of it if it leaves that place. -/
lemma move_free (s : State) (p : Ptr) (A B : Place) (v : SysTimerStruct)
    (h : Option HeapObject) :
    (s.move p A B v h).freeEventEntry
      = (if B = .free then [p] else []) ++
        (if A = .free then s.freeEventEntry.erase p else s.freeEventEntry) := by
  cases A <;> cases B <;> rfl

lemma move_timerFree (s : State) (p : Ptr) (A B : Place) (v : SysTimerStruct)
    (h : Option HeapObject) :
    (s.move p A B v h).systemTimerFree
      = (if B = .timerFree then [p] else []) ++
        (if A = .timerFree then s.systemTimerFree.erase p else s.systemTimerFree) := by
  cases A <;> cases B <;> rfl

lemma move_running (s : State) (p : Ptr) (A B : Place) (v : SysTimerStruct)
    (h : Option HeapObject) :
    (s.move p A B v h).running
      = (if B = .running then [p] else []) ++
        (if A = .running then s.running.erase p else s.running) := by
  cases A <;> cases B <;> rfl

lemma move_queue (s : State) (p : Ptr) (A B : Place) (v : SysTimerStruct)
    (h : Option HeapObject) :
    (s.move p A B v h).eventQueueActive
      = if B = .queue then
          (if A = .queue then s.eventQueueActive.erase p else s.eventQueueActive).orderedInsert
            (fun a b => (s.store p v).priority a < (s.store p v).priority b) p
        else if A = .queue then s.eventQueueActive.erase p else s.eventQueueActive := by
  cases A <;> cases B <;> rfl

lemma move_timerList (s : State) (p : Ptr) (A B : Place) (v : SysTimerStruct)
    (h : Option HeapObject) :
    (s.move p A B v h).systemTimerList
      = if B = .timerList then
          (if A = .timerList then s.systemTimerList.erase p else s.systemTimerList).orderedInsert
            (fun a b => ticksBefore ((s.store p v).mem a).launchTime
              ((s.store p v).mem b).launchTime) p
        else if A = .timerList then s.systemTimerList.erase p else s.systemTimerList := by
  cases A <;> cases B <;> rfl

lemma move_event_self (s : State) (p : Ptr) (A B : Place) (v : SysTimerStruct)
    (h : Option HeapObject) : (s.move p A B v h).event p = v.event := by
  simp [event]

lemma move_event_of_ne (s : State) {p q : Ptr} (hq : q ≠ p) (A B : Place) (v : SysTimerStruct)
    (h : Option HeapObject) : (s.move p A B v h).event q = s.event q := by
  simp [event, hq]

/-- The class of a storage depends on its address and its block only. -/
lemma classOf_congr {s s' : State} {q : Ptr} (h : s'.heap q = s.heap q) :
    s'.classOf q = s.classOf q := by
  cases q <;> simp [classOf, h]

lemma move_classOf_of_ne (s : State) {p q : Ptr} (hq : q ≠ p) (A B : Place) (v : SysTimerStruct)
    (h : Option HeapObject) : (s.move p A B v h).classOf q = s.classOf q :=
  classOf_congr (by simp [hq])

lemma move_classOf_same (s : State) (p q : Ptr) (A B : Place) (v : SysTimerStruct) :
    (s.move p A B v (s.heap p)).classOf q = s.classOf q :=
  classOf_congr (by simp)

/-- The running storages of the event loop when neither the stack nor a class changes. -/
lemma at_running_congr {s s' : State} (hrun : s'.running = s.running)
    (hclass : ∀ q ∈ s.running, s'.classOf q = s.classOf q) :
    s'.at_ .running = s.at_ .running := by
  unfold at_
  rw [hrun]
  refine List.filter_congr fun q hq => ?_
  rw [hclass q hq]

end State

/-! ## The invariant -/

/-- Every storage is where its fields say it is, and in one place only. -/
structure Owned (s : State) : Prop where
  /-- no storage is in two places, nor twice in one -/
  once : ∀ p, s.total p ≤ 1
  /-- a storage of the event loop is somewhere -/
  home : ∀ p, s.classOf p ≠ .foreign → s.total p = 1
  tag : ∀ A, ∀ p ∈ s.at_ A, (s.event p).state = A.tag
  admits : ∀ A, ∀ p ∈ s.at_ A, A.Admits (s.classOf p)
  allocator : ∀ A, A ≠ .timerFree → ∀ p ∈ s.at_ A,
    (s.event p).allocator = (s.classOf p).allocator
  /-- a handler runs on a storage that is not the event loop's only if it is user-allocated -/
  borrowed : ∀ p ∈ s.running, s.classOf p = .foreign → (s.event p).allocator = .user

namespace State

lemma count_le_total (s : State) (A : Place) (p : Ptr) : (s.at_ A).count p ≤ s.total p := by
  unfold total
  cases A <;> simp [at_] <;> omega

/-- A storage in two different places would be counted twice. -/
lemma count_add_count_le (s : State) {A B : Place} (hAB : A ≠ B) (p : Ptr) :
    (s.at_ A).count p + (s.at_ B).count p ≤ s.total p := by
  unfold total
  cases A <;> cases B <;> simp [at_] at hAB ⊢ <;> omega

end State

namespace Owned

variable {s s' : State} {p q : Ptr} {A B : Place}

lemma count_eq_one (own : Owned s) (hp : p ∈ s.at_ A) : (s.at_ A).count p = 1 :=
  le_antisymm ((s.count_le_total A p).trans (own.once p)) (List.count_pos_iff.mpr hp)

lemma place_unique (own : Owned s) (hA : p ∈ s.at_ A) (hB : p ∈ s.at_ B) : A = B := by
  by_contra hAB
  have hle := (s.count_add_count_le hAB p).trans (own.once p)
  have hApos := List.count_pos_iff.mpr hA
  have hBpos := List.count_pos_iff.mpr hB
  omega

lemma nodup (own : Owned s) (A : Place) : (s.at_ A).Nodup :=
  List.nodup_iff_count_le_one.mpr fun p => (s.count_le_total A p).trans (own.once p)

/-- A storage outside the event loop is in no place but the queue. -/
lemma foreign_place (own : Owned s) (hp : p ∈ s.at_ A) (hclass : s.classOf p = .foreign) :
    A = .queue := by
  have hadm := own.admits A p hp
  cases A <;> simp_all [Place.Admits, State.at_]

/-- A storage of the event loop that runs is on the stack once. -/
lemma running_count (own : Owned s) (hp : p ∈ s.running) (hclass : s.classOf p ≠ .foreign) :
    s.running.count p = 1 := by
  have hmem : p ∈ s.at_ .running := by simp [State.at_, hp, hclass]
  have hcount := own.count_eq_one hmem
  rwa [State.at_, List.count_filter (by simpa using hclass)] at hcount

/-- The storage a handler runs on, at the top of the stack, is not further down. -/
lemma notMem_rest (own : Owned s) {rest : List Ptr} (hrun : s.running = p :: rest)
    (hclass : s.classOf p ≠ .foreign) : p ∉ rest := by
  have hcount := own.running_count (by simp [hrun]) hclass
  rw [hrun, List.count_cons_self] at hcount
  exact List.count_eq_zero.mp (by omega)

/-- A storage of the event loop in another place does not run. -/
lemma notMem_running (own : Owned s) (hp : p ∈ s.at_ A) (hA : A ≠ .running)
    (hclass : s.classOf p ≠ .foreign) : p ∉ s.running := by
  intro hrun
  have hmem : p ∈ s.at_ .running := by simp [State.at_, hrun, hclass]
  exact hA (own.place_unique hp hmem)

/-- The one argument behind all moves: one storage `p` ends up in `B` (or outside), marked for
that place, and nothing else changes. -/
theorem of_relocated (own : Owned s) (p : Ptr) (B : Place)
    (hother : ∀ C q, q ≠ p → (s'.at_ C).count q = (s.at_ C).count q)
    (hself : ∀ C, (s'.at_ C).count p = if C = B ∧ B ≠ .outside then 1 else 0)
    (hevent : ∀ q, q ≠ p → s'.event q = s.event q)
    (hclass : ∀ q, q ≠ p → s'.classOf q = s.classOf q)
    (hstate : B ≠ .outside → (s'.event p).state = B.tag)
    (hadmits : B ≠ .outside → B.Admits (s'.classOf p))
    (halloc : B ≠ .outside → B ≠ .timerFree →
      (s'.event p).allocator = (s'.classOf p).allocator)
    (hhome : B = .outside → s'.classOf p = .foreign)
    (hborrowed : ∀ q ∈ s'.running, s'.classOf q = .foreign → (s'.event q).allocator = .user) :
    Owned s' := by
  have htotal : ∀ q, q ≠ p → s'.total q = s.total q := by
    intro q hq
    simp only [State.total, hother _ q hq]
  have htotal_self : s'.total p = if B = .outside then 0 else 1 := by
    simp only [State.total, hself]
    cases B <;> simp
  -- the storages in a place are the old ones, except for `p` in `B`
  have hmem : ∀ C, ∀ q ∈ s'.at_ C, (q ≠ p ∧ q ∈ s.at_ C) ∨ (q = p ∧ C = B ∧ B ≠ .outside) := by
    intro C q hq
    have hpos := List.count_pos_iff.mpr hq
    by_cases hqp : q = p
    · subst hqp
      rw [hself] at hpos
      by_cases hC : C = B ∧ B ≠ .outside
      · exact Or.inr ⟨rfl, hC⟩
      · simp [hC] at hpos
    · rw [hother C q hqp] at hpos
      exact Or.inl ⟨hqp, List.count_pos_iff.mp hpos⟩
  refine ⟨?_, ?_, ?_, ?_, ?_, hborrowed⟩
  · intro q
    by_cases hqp : q = p
    · subst hqp
      rw [htotal_self]
      split <;> omega
    · rw [htotal q hqp]
      exact own.once q
  · intro q hq
    by_cases hqp : q = p
    · subst hqp
      have hB : B ≠ .outside := fun hB => hq (hhome hB)
      simp [htotal_self, hB]
    · rw [htotal q hqp]
      exact own.home q (hclass q hqp ▸ hq)
  · intro C q hq
    rcases hmem C q hq with ⟨hqp, hold⟩ | ⟨rfl, rfl, hB⟩
    · rw [hevent q hqp]
      exact own.tag C q hold
    · exact hstate hB
  · intro C q hq
    rcases hmem C q hq with ⟨hqp, hold⟩ | ⟨rfl, rfl, hB⟩
    · rw [hclass q hqp]
      exact own.admits C q hold
    · exact hadmits hB
  · intro C hC q hq
    rcases hmem C q hq with ⟨hqp, hold⟩ | ⟨rfl, rfl, hB⟩
    · rw [hevent q hqp, hclass q hqp]
      exact own.allocator C hC q hold
    · exact halloc hB hC

/-- The invariant speaks of the places, the marks and the classes only. -/
theorem congr (own : Owned s) (hat : ∀ C, s'.at_ C = s.at_ C)
    (hstate : ∀ q, (s'.event q).state = (s.event q).state)
    (halloc : ∀ q, (s'.event q).allocator = (s.event q).allocator)
    (hclass : ∀ q, s'.classOf q = s.classOf q) (hrun : ∀ q ∈ s'.running, q ∈ s.running) :
    Owned s' := by
  have htotal : ∀ q, s'.total q = s.total q := by
    intro q
    simp only [State.total, hat]
  refine ⟨?_, ?_, ?_, ?_, ?_, ?_⟩
  · intro q
    rw [htotal]
    exact own.once q
  · intro q hq
    rw [htotal]
    exact own.home q (hclass q ▸ hq)
  · intro C q hq
    rw [hstate]
    exact own.tag C q (hat C ▸ hq)
  · intro C q hq
    rw [hclass]
    exact own.admits C q (hat C ▸ hq)
  · intro C hC q hq
    rw [halloc, hclass]
    exact own.allocator C hC q (hat C ▸ hq)
  · intro q hq hfor
    rw [halloc]
    exact own.borrowed q (hrun q hq) (hclass q ▸ hfor)

end Owned

/-! ## Places after a move -/

namespace State

variable (s : State) {p q : Ptr} (A B : Place) (v : SysTimerStruct) (h : Option HeapObject)

lemma count_filter_ite {l : List Ptr} {P : Ptr → Bool} :
    (l.filter P).count q = if P q then l.count q else 0 := by
  split
  · next hP => rw [List.count_filter hP]
  · next hP => exact List.count_eq_zero.mpr fun hmem => hP (List.of_mem_filter hmem)

lemma count_if_erase (l : List Ptr) (c : Prop) [Decidable c] :
    (if c then l.erase p else l).count q = l.count q - if q = p ∧ c then 1 else 0 := by
  split_ifs with hc hq hq
  · rw [hq.1, List.count_erase_self]
  · rw [List.count_erase_of_ne (fun h => hq ⟨h, hc⟩), Nat.sub_zero]
  · exact absurd hq.2 hc
  · rfl

lemma count_if_single (c : Prop) [Decidable c] :
    (if c then [p] else []).count q = if q = p ∧ c then 1 else 0 := by
  split_ifs with hc hq hq
  · simp [hq.1]
  · exact List.count_eq_zero.mpr (by simpa using fun h : q = p => hq ⟨h, hc⟩)
  · exact absurd hq.2 hc
  · rfl

lemma count_if_insert (r : Ptr → Ptr → Prop) [DecidableRel r] (l : List Ptr) (c : Prop)
    [Decidable c] :
    (if c then l.orderedInsert r p else l).count q
      = l.count q + if q = p ∧ c then 1 else 0 := by
  split_ifs with hc hq hq
  · simp [List.orderedInsert_count, hq.1]
  · simpa [List.orderedInsert_count] using fun h : p = q => hq ⟨h.symm, hc⟩
  · exact absurd hq.2 hc
  · rfl

/-- The stack after a move. -/
lemma move_running_count :
    (s.move p A B v h).running.count q
      = (s.running.count q - if q = p ∧ A = .running then 1 else 0)
        + if q = p ∧ B = .running then 1 else 0 := by
  rw [move_running, List.count_append, count_if_single, count_if_erase, Nat.add_comm]

/-- A place other than the stack after a move. -/
lemma move_at_count (C : Place) (hC : C ≠ .running) :
    ((s.move p A B v h).at_ C).count q
      = ((s.at_ C).count q - if q = p ∧ A = C ∧ C ≠ .outside then 1 else 0)
        + if q = p ∧ B = C ∧ C ≠ .outside then 1 else 0 := by
  cases C with
  | running => exact absurd rfl hC
  | outside => simp [at_]
  | free =>
    simp only [at_, move_free, List.count_append, count_if_single, count_if_erase]
    simp [Nat.add_comm]
  | timerFree =>
    simp only [at_, move_timerFree, List.count_append, count_if_single, count_if_erase]
    simp [Nat.add_comm]
  | queue =>
    simp only [at_, move_queue, count_if_insert, count_if_erase]
    simp
  | timerList =>
    simp only [at_, move_timerList, count_if_insert, count_if_erase]
    simp

/-- A move of `p` leaves every other storage where it is. -/
lemma move_at_count_of_ne (hq : q ≠ p) (C : Place) :
    ((s.move p A B v h).at_ C).count q = (s.at_ C).count q := by
  by_cases hC : C = .running
  · subst hC
    simp only [at_, count_filter_ite, s.move_classOf_of_ne hq, move_running_count]
    simp [hq]
  · simp [s.move_at_count A B v h C hC, hq]

lemma move_mem_at_of_ne (hq : q ≠ p) (C : Place) :
    q ∈ (s.move p A B v h).at_ C ↔ q ∈ s.at_ C := by
  rw [← List.count_pos_iff, ← List.count_pos_iff, s.move_at_count_of_ne A B v h hq]

/-- `p` is in `B` after it moved there, if it was only in `A` before. -/
lemma move_at_count_self (hAB : A ≠ B)
    (hat : ∀ C, (s.at_ C).count p = if C = A ∧ A ≠ .outside then 1 else 0)
    (hrun : (s.move p A B v h).classOf p ≠ .foreign →
      s.running.count p = if A = .running then 1 else 0)
    (hB : (s.move p A B v h).classOf p = .foreign → B ≠ .running) (C : Place) :
    ((s.move p A B v h).at_ C).count p = if C = B ∧ B ≠ .outside then 1 else 0 := by
  by_cases hC : C = .running
  · subst hC
    simp only [at_, count_filter_ite]
    by_cases hfor : (s.move p A B v h).classOf p = .foreign
    · simp [hfor, Ne.symm (hB hfor)]
    · simp only [move_running_count, hrun hfor]
      cases A <;> cases B <;> simp_all
  · rw [s.move_at_count A B v h C hC, hat C]
    cases A <;> cases B <;> cases C <;> simp_all

end State

/-! ## Every move keeps the invariant -/

namespace Owned

variable {s s' : State} {p : Ptr} {A B : Place} {v : SysTimerStruct} {h : Option HeapObject}

/-- Where a storage that is somewhere is not. -/
lemma count_of_mem (own : Owned s) (hp : p ∈ s.at_ A) (C : Place) :
    (s.at_ C).count p = if C = A ∧ A ≠ .outside then 1 else 0 := by
  have hA : A ≠ .outside := by
    rintro rfl
    simp [State.at_] at hp
  by_cases hC : C = A
  · subst hC
    simp [own.count_eq_one hp, hA]
  · rw [List.count_eq_zero.mpr fun hmem => hC (own.place_unique hmem hp)]
    simp [hC]

/-- A move of a storage of the event loop from a place to another place. -/
theorem move_between (own : Owned s) (hp : p ∈ s.at_ A) (hAB : A ≠ B) (hB : B ≠ .outside)
    (hclass : s.classOf p ≠ .foreign) (hstate : v.event.state = B.tag)
    (hadmits : B.Admits (s.classOf p))
    (halloc : B ≠ .timerFree → v.event.allocator = (s.classOf p).allocator) :
    Owned (s.move p A B v (s.heap p)) := by
  have hsame := s.move_classOf_same p p A B v
  refine own.of_relocated p B (fun C q hq => s.move_at_count_of_ne A B v _ hq C) ?_
    (fun q hq => s.move_event_of_ne hq A B v _) (fun q hq => s.move_classOf_of_ne hq A B v _)
    ?_ ?_ ?_ ?_ ?_
  · refine s.move_at_count_self A B v _ hAB (own.count_of_mem hp) ?_ ?_
    · intro _
      by_cases hA : A = .running
      · subst hA
        simpa using own.running_count (List.mem_of_mem_filter hp) hclass
      · rw [List.count_eq_zero.mpr (own.notMem_running hp hA hclass)]
        simp [hA]
    · intro hfor
      exact absurd (hsame ▸ hfor) hclass
  · intro _
    rw [State.move_event_self, hstate]
  · intro _
    rwa [hsame]
  · intro _ htf
    rw [State.move_event_self, hsame, halloc htf]
  · intro hout
    exact absurd hout hB
  · intro q hq hfor
    have hqp : q ≠ p := by
      rintro rfl
      exact hclass (hsame ▸ hfor)
    rw [s.move_classOf_of_ne hqp] at hfor
    rw [s.move_event_of_ne hqp]
    refine own.borrowed q ?_ hfor
    have hcount := List.count_pos_iff.mpr hq
    rw [State.move_running_count] at hcount
    exact List.count_pos_iff.mp (by simpa [hqp] using hcount)

/-- A storage from outside the event loop, or one that leaves it. -/
theorem move_outside (own : Owned s) (hAB : A ≠ B)
    (hat : ∀ C, (s.at_ C).count p = if C = A ∧ A ≠ .outside then 1 else 0)
    (hrun : (s.move p A B v h).classOf p ≠ .foreign → s.running.count p = 0)
    (hBrun : B ≠ .running) (hA : A = .running → (s.move p A B v h).classOf p = .foreign)
    (hstate : B ≠ .outside → v.event.state = B.tag)
    (hadmits : B ≠ .outside → B.Admits ((s.move p A B v h).classOf p))
    (halloc : B ≠ .outside → B ≠ .timerFree →
      v.event.allocator = ((s.move p A B v h).classOf p).allocator)
    (hhome : B = .outside → (s.move p A B v h).classOf p = .foreign)
    (hborrowed : p ∈ (s.move p A B v h).running → (s.move p A B v h).classOf p = .foreign →
      v.event.allocator = .user) :
    Owned (s.move p A B v h) := by
  refine own.of_relocated p B (fun C q hq => s.move_at_count_of_ne A B v _ hq C) ?_
    (fun q hq => s.move_event_of_ne hq A B v _) (fun q hq => s.move_classOf_of_ne hq A B v _)
    ?_ ?_ ?_ hhome ?_
  · refine s.move_at_count_self A B v _ hAB hat ?_ (fun _ => hBrun)
    intro hfor
    have hArun : A ≠ .running := fun hArun => hfor (hA hArun)
    simp [hArun, hrun hfor]
  · intro hB
    rw [State.move_event_self, hstate hB]
  · intro hB
    exact hadmits hB
  · intro hB htf
    rw [State.move_event_self, halloc hB htf]
  · intro q hq hfor
    by_cases hqp : q = p
    · subst hqp
      rw [State.move_event_self, hborrowed hq hfor]
    · rw [s.move_classOf_of_ne hqp] at hfor
      rw [s.move_event_of_ne hqp]
      refine own.borrowed q ?_ hfor
      have hcount := List.count_pos_iff.mpr hq
      rw [State.move_running_count] at hcount
      exact List.count_pos_iff.mp (by simpa [hqp] using hcount)

/-- A user-allocated event that is handed to its handler leaves the event loop. -/
lemma deliver_user (own : Owned s) {rest : List Ptr} (hp : s.eventQueueActive = p :: rest)
    (hclass : s.classOf p = .foreign) :
    Owned (s.move p .queue .running ((s.mem p).tagged .running) (s.heap p)) := by
  have hq : p ∈ s.at_ .queue := by simp [State.at_, hp]
  have hsame := s.move_classOf_same p p .queue .running ((s.mem p).tagged .running)
  have halloc := own.allocator .queue (by decide) p hq
  refine own.of_relocated p .outside (fun C q hq => s.move_at_count_of_ne _ _ _ _ hq C) ?_
    (fun q hq => s.move_event_of_ne hq _ _ _ _) (fun q hq => s.move_classOf_of_ne hq _ _ _ _)
    (by simp) (by simp) (by simp) (fun _ => hsame.trans hclass) ?_
  · intro C
    by_cases hC : C = .running
    · subst hC
      simp [State.at_, State.count_filter_ite, hsame, hclass]
    · rw [s.move_at_count _ _ _ _ C hC, own.count_of_mem hq C]
      cases C <;> simp_all
  · intro q hq hfor
    by_cases hqp : q = p
    · subst hqp
      rw [State.move_event_self]
      simpa [SysTimerStruct.tagged, hclass, StorageClass.allocator] using halloc
    · rw [s.move_classOf_of_ne hqp] at hfor
      rw [s.move_event_of_ne hqp]
      rw [State.move_running] at hq
      exact own.borrowed q (by simpa [hqp] using hq) hfor

/-- Nothing moves when the handler of a user-allocated event returns. -/
lemma finish_user (own : Owned s) {rest : List Ptr} (hp : s.running = p :: rest)
    (hclass : s.classOf p = .foreign) :
    Owned (s.move p .running .outside (s.mem p) (s.heap p)) := by
  have hsame := fun q => s.move_classOf_same p q .running .outside (s.mem p)
  have hrunning : (s.move p .running .outside (s.mem p) (s.heap p)).running = rest := by
    simp [State.move_running, hp]
  refine own.congr ?_ ?_ ?_ hsame ?_
  · intro C
    cases C with
    | running =>
      simp only [State.at_, hrunning, hsame, hp]
      simp [hclass]
    | _ => rfl
  · intro q
    simp [State.event]
  · intro q
    simp [State.event]
  · intro q hq
    rw [hrunning] at hq
    simp [hp, hq]

end Owned

/-- Blocks that hold no event storage do not matter to the event loop. -/
lemma State.classOf_block {s : State} (block : Ptr) {h : Option HeapObject}
    (hold : ∀ object, s.heap block = some object → object ≠ .event ∧ object ≠ .sysTimer)
    (hnew : ∀ object, h = some object → object ≠ .event ∧ object ≠ .sysTimer) (q : Ptr) :
    State.classOf { s with heap := Function.update s.heap block h } q = s.classOf q := by
  by_cases hq : q = block
  · subst hq
    cases q with
    | heap a =>
      simp only [State.classOf, Function.update_self]
      split <;> split <;> simp_all
    | _ => rfl
  · exact State.classOf_congr (by simp [hq])

lemma Fresh.tasklet_classOf {s : State} {block : Ptr} (fresh : Fresh s block) (q : Ptr) :
    State.classOf { s with heap := Function.update s.heap block (some .tasklet) } q
      = s.classOf q :=
  State.classOf_block block (by simp [fresh.free]) (by simp) q

/-- A step that relocates no storage leaves every storage in its place and class, with its tag,
its allocator and its launch time. -/
structure Still (s s' : State) : Prop where
  place : ∀ C, s'.at_ C = s.at_ C
  classOf : ∀ q, s'.classOf q = s.classOf q
  state : ∀ q, (s'.event q).state = (s.event q).state
  allocator : ∀ q, (s'.event q).allocator = (s.event q).allocator
  launchTime : ∀ q, (s'.mem q).launchTime = (s.mem q).launchTime
  running : s'.running = s.running

lemma Move.still {s s' : State} {act : Act} (move : Move s act s')
    (hact : ∀ p A B v, act ≠ .relocate p A B v) : Still s s' := by
  cases move with
  | relocate => exact absurd rfl (hact _ _ _ _)
  | clock | active =>
    exact ⟨fun C => by cases C <;> rfl, fun q => by cases q <;> rfl, fun _ => rfl, fun _ => rfl,
      fun _ => rfl, rfl⟩
  | register tasklet fresh =>
    refine ⟨fun C => ?_, fresh.tasklet_classOf, fun _ => rfl, fun _ => rfl, fun _ => rfl, rfl⟩
    cases C with
    | running => exact State.at_running_congr rfl fun q _ => fresh.tasklet_classOf q
    | _ => rfl
  | @clientAlloc block fresh =>
    have hclass := State.classOf_block (s := s) block (h := some .timeout) (by simp [fresh.free])
      (by simp)
    refine ⟨fun C => ?_, hclass, fun _ => rfl, fun _ => rfl, fun _ => rfl, rfl⟩
    cases C with
    | running => exact State.at_running_congr rfl fun q _ => hclass q
    | _ => rfl
  | @clientFree block hblock =>
    have hclass := State.classOf_block (s := s) block (h := none) (by simp [hblock]) (by simp)
    refine ⟨fun C => ?_, hclass, fun _ => rfl, fun _ => rfl, fun _ => rfl, rfl⟩
    cases C with
    | running => exact State.at_running_congr rfl fun q _ => hclass q
    | _ => rfl
  | unperiod | write =>
    refine ⟨fun C => by cases C <;> rfl, fun q => by cases q <;> rfl, fun q => ?_, fun q => ?_,
      fun q => ?_, rfl⟩ <;>
    · simp only [State.setPeriod, State.setData, State.store, State.event, Function.update_apply]
      split <;> simp_all

/-- A free block is nowhere in the event loop. -/
lemma Fresh.count_eq_zero {s : State} {p : Ptr} (fresh : Fresh s p) (own : Owned s) (C : Place) :
    (s.at_ C).count p = 0 := by
  obtain ⟨a, rfl⟩ := fresh.isHeap
  refine List.count_eq_zero.mpr fun hmem => ?_
  have hclass : s.classOf (.heap a) = .foreign := by simp [State.classOf, fresh.free]
  have hC := own.foreign_place hmem hclass
  subst hC
  exact fresh.notQueued hmem

namespace Owned

variable {s : State} {p : Ptr} {A B : Place} {v : SysTimerStruct} {h : Option HeapObject}

/-- A storage of the event loop that moves keeps its `allocator` field, which was right unless the
storage was a free timer. -/
theorem move_keeping (own : Owned s) (hp : p ∈ s.at_ A) (hA : A ≠ .timerFree) (hAB : A ≠ B)
    (hB : B ≠ .outside) (hclass : s.classOf p ≠ .foreign) (hstate : v.event.state = B.tag)
    (hadmits : B.Admits (s.classOf p)) (hkeep : v.event.allocator = (s.event p).allocator) :
    Owned (s.move p A B v (s.heap p)) :=
  own.move_between hp hAB hB hclass hstate hadmits fun _ => hkeep.trans (own.allocator A hA p hp)

/-- The storage whose handler returns goes to another place. -/
lemma finish_to (own : Owned s) {rest : List Ptr} (hp : s.running = p :: rest)
    (hclass : s.classOf p ≠ .foreign) (hrunning : .running ≠ B) (hB : B ≠ .outside)
    (hstate : v.event.state = B.tag) (hadmits : B.Admits (s.classOf p))
    (hkeep : v.event.allocator = (s.event p).allocator) :
    Owned (s.move p .running B v (s.heap p)) := by
  have hmem : p ∈ s.at_ .running := by simp [State.at_, hp, hclass]
  exact own.move_keeping hmem (by decide) hrunning hB hclass hstate hadmits hkeep

/-- **Every move of a storage keeps the ownership invariant.** -/
theorem row (own : Owned s) (row : Row s p A B v h) : Owned (s.move p A B v h) := by
  cases row with
  | sendPool data hp =>
    -- a storage of a list of the event loop moves to another of its places
    have hmem : p ∈ s.at_ .free := hp
    have hclass : s.classOf p = .pool := own.admits _ _ hmem
    exact own.move_keeping hmem (by decide) (by decide) (by decide) (by simp [hclass]) rfl trivial
      rfl
  | sendDynamic data fresh =>
    obtain ⟨a, rfl⟩ := fresh.isHeap
    -- the allocator answers with a block that is nowhere, so it is counted once afterwards
    refine own.move_outside (by decide) (by simpa using fresh.count_eq_zero own) ?_ (by decide)
      (by simp) (fun _ => rfl) (fun _ => trivial) ?_ (by simp) ?_
    · exact fun _ => List.count_eq_zero.mpr fresh.notRunning
    · intro _ _
      simp [State.classOf, StorageClass.allocator]
    · intro _ hfor
      simp [State.classOf] at hfor
  | sendUser v isHeap hheap hq halloc hstate =>
    obtain ⟨a, rfl⟩ := isHeap
    -- a block of the client keeps its class: only its place in the queue is new
    have hclass : s.classOf (.heap a) = .foreign := by simp [State.classOf, hheap]
    have hnew : (s.move (.heap a) .outside .queue v none).classOf (.heap a) = .foreign := by
      simp [State.classOf]
    refine own.move_outside (by decide) ?_ (fun hne => absurd hnew hne) (by decide)
      (by simp) (fun _ => hstate) (fun _ => trivial) ?_ (by simp) (fun _ _ => halloc)
    · intro C
      rw [List.count_eq_zero.mpr]
      · simp
      · intro hmem
        have hC := own.foreign_place hmem hclass
        subst hC
        exact hq hmem
    · intro _ _
      rw [hnew, halloc]
      rfl
  | grow v fresh hstate =>
    obtain ⟨a, rfl⟩ := fresh.isHeap
    refine own.move_outside (by decide) (by simpa using fresh.count_eq_zero own) ?_ (by decide)
      (by simp) (fun _ => hstate) (fun _ => ?_) (by simp) (by simp) ?_
    · exact fun _ => List.count_eq_zero.mpr fresh.notRunning
    · simp [State.classOf, Place.Admits]
    · intro _ hfor
      simp [State.classOf] at hfor
  | fire v hp halloc hstate =>
    have hmem : p ∈ s.at_ .timerFree := hp
    have hclass : s.classOf p = .timer := own.admits _ _ hmem
    exact own.move_between hmem (by decide) (by decide) (by simp [hclass]) hstate trivial
      (fun _ => by simp [halloc, hclass, StorageClass.allocator])
  | arm v hp halloc hstate hdue =>
    have hmem : p ∈ s.at_ .timerFree := hp
    have hclass : s.classOf p = .timer := own.admits _ _ hmem
    exact own.move_between hmem (by decide) (by decide) (by simp [hclass]) hstate hclass
      (fun _ => by simp [halloc, hclass, StorageClass.allocator])
  | expire hp hdue =>
    have hmem : p ∈ s.at_ .timerList := by simp [State.at_, hp]
    have hclass : s.classOf p = .timer := own.admits _ _ hmem
    exact own.move_keeping hmem (by decide) (by decide) (by decide) (by simp [hclass]) rfl trivial
      rfl
  | deliver hp =>
    -- a user event is not counted while its handler runs: the client may send it again
    by_cases hclass : s.classOf p = .foreign
    · exact own.deliver_user hp hclass
    · have hmem : p ∈ s.at_ .queue := by simp [State.at_, hp]
      exact own.move_keeping hmem (by decide) (by decide) (by decide) hclass rfl hclass rfl
  | finishPool hp hclass =>
    exact own.finish_to hp (by simp [hclass]) (by decide) (by decide) rfl hclass rfl
  | finishDynamic hp hclass =>
    have hmem : p ∈ s.at_ .running := by simp [State.at_, hp, hclass]
    -- the block is freed, and no outer dispatch still runs it
    have hrest := own.notMem_rest hp (by simp [hclass])
    cases p with
    | heap a =>
      refine own.move_outside (by decide) (own.count_of_mem hmem) ?_ (by decide) ?_ (by simp)
        (by simp) (by simp) ?_ ?_
      · intro hfor
        simp [State.classOf] at hfor
      · intro _
        simp [State.classOf]
      · intro _
        simp [State.classOf]
      · intro hrun
        rw [State.move_running, hp] at hrun
        simp [hrest] at hrun
    | startupEventPool i => simp [State.classOf] at hclass
    | startupSysTimerPool i => simp [State.classOf] at hclass
  | finishUser hp hclass => exact own.finish_user hp hclass
  | finishOneShot hp hclass hperiod =>
    exact own.finish_to hp (by simp [hclass]) (by decide) (by decide) rfl hclass rfl
  | requeue hp hclass hperiod hdue =>
    exact own.finish_to hp (by simp [hclass]) (by decide) (by decide) rfl trivial rfl
  | rearm hp hclass hperiod hdue =>
    exact own.finish_to hp (by simp [hclass]) (by decide) (by decide) rfl hclass rfl
  | cancelPool hp hclass =>
    have hmem : p ∈ s.at_ .queue := hp
    exact own.move_keeping hmem (by decide) (by decide) (by decide) (by simp [hclass]) rfl hclass
      rfl
  | cancelDynamic hp hclass =>
    have hmem : p ∈ s.at_ .queue := hp
    -- a queued block is not running, so nothing of it is left when it is freed
    have hrun := own.notMem_running hmem (by decide) (by simp [hclass])
    cases p with
    | heap a =>
      refine own.move_outside (by decide) (own.count_of_mem hmem) ?_ (by decide) (by simp)
        (by simp) (by simp) (by simp) ?_ ?_
      · exact fun _ => List.count_eq_zero.mpr hrun
      · intro _
        simp [State.classOf]
      · intro hmem'
        rw [State.move_running] at hmem'
        simp [hrun] at hmem'
    | startupEventPool i => simp [State.classOf] at hclass
    | startupSysTimerPool i => simp [State.classOf] at hclass
  | cancelUser hp hclass =>
    have hmem : p ∈ s.at_ .queue := hp
    have hsame := s.move_classOf_same p p .queue .outside (s.mem p)
    refine own.move_outside (by decide) (own.count_of_mem hmem)
      (fun hne => absurd (hsame.trans hclass) hne) (by decide) (by simp) (by simp) (by simp)
      (by simp) (fun _ => hsame.trans hclass) ?_
    intro _ _
    simpa [hclass, StorageClass.allocator] using own.allocator .queue (by decide) p hmem
  | cancelQueued hp hclass =>
    have hmem : p ∈ s.at_ .queue := hp
    exact own.move_between hmem (by decide) (by decide) (by simp [hclass]) rfl hclass
      (fun hne => absurd rfl hne)
  | cancelWaiting hp =>
    have hmem : p ∈ s.at_ .timerList := hp
    have hclass : s.classOf p = .timer := own.admits _ _ hmem
    exact own.move_between hmem (by decide) (by decide) (by simp [hclass]) rfl hclass
      (fun hne => absurd rfl hne)

/-- A storage that enters the queue from elsewhere is not there yet. -/
theorem notMem_queue (own : Owned s) (row : Row s p A .queue v h) (hA : A ≠ .queue) :
    p ∉ s.eventQueueActive := by
  have hcount := (own.row row).nodup .queue
  have hself := s.move_at_count A .queue v h .queue (by decide) (p := p) (q := p)
  have hle := List.nodup_iff_count_le_one.mp hcount p
  rw [hself] at hle
  simp only [hA, State.at_] at hle
  exact List.count_eq_zero.mp (by simpa using hle)

/-- A block that is allocated for a tasklet is not an event. -/
theorem tasklet_block (own : Owned s) {block : Ptr} (fresh : Fresh s block) :
    Owned { s with heap := Function.update s.heap block (some .tasklet) } := by
  refine own.congr ?_ (fun _ => rfl) (fun _ => rfl) fresh.tasklet_classOf (fun _ hq => hq)
  intro C
  cases C with
  | running => exact State.at_running_congr rfl fun q _ => fresh.tasklet_classOf q
  | _ => rfl

/-- **Every step of the life cycle keeps the ownership invariant.** -/
theorem preserved {s s' : State} {act : Act} (own : Owned s) (step : Move s act s') :
    Owned s' := by
  by_cases hrelocate : ∃ p A B v, act = .relocate p A B v
  · obtain ⟨p, A, B, v, rfl⟩ := hrelocate
    cases step with
    | relocate row => exact own.row row
  · have still := step.still fun p A B v hact => hrelocate ⟨p, A, B, v, hact⟩
    exact own.congr still.place still.state still.allocator still.classOf
      fun q hq => still.running ▸ hq

end Owned

end EventLoop
