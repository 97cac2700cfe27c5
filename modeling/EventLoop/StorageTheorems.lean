import EventLoop.EventCoreTheorems

/-!
# Where every storage is

The ownership invariant read off in the terms of the sources: the lists of `event.c` and
`system_timer.c`, the `allocator` kinds and the `state` tags.
-/

namespace EventLoop

open Lib

/-- An event of the startup pool. -/
def Ptr.isEventPool : Ptr → Bool
  | .startupEventPool _ => true
  | _ => false

lemma classOf_pool_iff {s : State} {p : Ptr} : s.classOf p = .pool ↔ p.isEventPool := by
  cases p with
  | heap a =>
    simp only [State.classOf, Ptr.isEventPool]
    split <;> simp
  | _ => simp [State.classOf, Ptr.isEventPool]

namespace Owned

variable {s : State} {p : Ptr}

/-- A storage of the event loop is running as often as it is on the stack. -/
lemma running_eq (hclass : s.classOf p ≠ .foreign) :
    (s.at_ .running).count p = s.running.count p :=
  List.count_filter (by simpa using hclass)

/-- A storage of the event loop is in a place that its tag goes with. -/
lemma exists_place (own : Owned s) (hclass : s.classOf p ≠ .foreign) :
    ∃ A, p ∈ s.at_ A ∧ (s.event p).state = A.tag := by
  have htotal := own.home p hclass
  have hsome : ∃ A, p ∈ s.at_ A := by
    by_contra hnone
    push Not at hnone
    have hzero : s.total p = 0 := by
      simp only [State.total, List.count_eq_zero.mpr (hnone _)]
    omega
  obtain ⟨A, hA⟩ := hsome
  exact ⟨A, hA, own.tag A p hA⟩

/-- Where a storage may not be, it is not. -/
lemma count_eq_zero_of_class (own : Owned s) {A : Place} (hadm : ¬ A.Admits (s.classOf p)) :
    (s.at_ A).count p = 0 :=
  List.count_eq_zero.mpr fun hmem => hadm (own.admits A p hmem)

/-- What is no timer is on no list of the timers. -/
lemma timer_lists_eq_zero (own : Owned s) (hclass : s.classOf p ≠ .timer) :
    (s.at_ .timerFree).count p = 0 ∧ (s.at_ .timerList).count p = 0 :=
  ⟨own.count_eq_zero_of_class hclass, own.count_eq_zero_of_class hclass⟩

/-- An event of the startup pool is free, queued or running. -/
theorem pool_count (own : Owned s) (hclass : s.classOf p = .pool) :
    s.freeEventEntry.count p + s.eventQueueActive.count p + s.running.count p = 1 ∧
      p ∉ s.systemTimerFree ∧ p ∉ s.systemTimerList := by
  have hne : s.classOf p ≠ .foreign := by simp [hclass]
  have htotal := own.home p hne
  obtain ⟨htimerFree, htimerList⟩ := own.timer_lists_eq_zero (p := p) (by simp [hclass])
  rw [State.total, running_eq hne, htimerFree, htimerList] at htotal
  exact ⟨by simpa [State.at_] using htotal, List.count_eq_zero.mp htimerFree,
    List.count_eq_zero.mp htimerList⟩

/-- An allocated event is queued or running. -/
theorem dynamic_count (own : Owned s) (hclass : s.classOf p = .dynamic) :
    s.eventQueueActive.count p + s.running.count p = 1 ∧
      p ∉ s.freeEventEntry ∧ p ∉ s.systemTimerFree ∧ p ∉ s.systemTimerList := by
  have hne : s.classOf p ≠ .foreign := by simp [hclass]
  have htotal := own.home p hne
  have hfree := own.count_eq_zero_of_class (p := p) (A := .free) (by simp [Place.Admits, hclass])
  obtain ⟨htimerFree, htimerList⟩ := own.timer_lists_eq_zero (p := p) (by simp [hclass])
  rw [State.total, running_eq hne, hfree, htimerFree, htimerList] at htotal
  exact ⟨by simpa [State.at_] using htotal, List.count_eq_zero.mp hfree,
    List.count_eq_zero.mp htimerFree, List.count_eq_zero.mp htimerList⟩

/-- A timer is free, waiting, queued or running. -/
theorem timer_count (own : Owned s) (hclass : s.classOf p = .timer) :
    s.systemTimerFree.count p + s.systemTimerList.count p + s.eventQueueActive.count p
        + s.running.count p = 1 ∧ p ∉ s.freeEventEntry := by
  have hne : s.classOf p ≠ .foreign := by simp [hclass]
  have htotal := own.home p hne
  have hfree := own.count_eq_zero_of_class (p := p) (A := .free) (by simp [Place.Admits, hclass])
  rw [State.total, running_eq hne, hfree] at htotal
  refine ⟨?_, List.count_eq_zero.mp hfree⟩
  simp only [State.at_] at htotal
  omega

/-- A storage of the event loop is queued when it says so. -/
theorem queued_iff (own : Owned s) (hclass : s.classOf p ≠ .foreign) :
    (s.event p).state = .queued ↔ p ∈ s.eventQueueActive := by
  obtain ⟨A, hA, htag⟩ := own.exists_place hclass
  constructor
  · intro hstate
    rw [htag] at hstate
    cases A <;> simp at hstate
    exact hA
  · exact own.tag .queue p

/-- A storage of the event loop is running when it says so. -/
theorem running_iff (own : Owned s) (hclass : s.classOf p ≠ .foreign) :
    (s.event p).state = .running ↔ p ∈ s.running := by
  obtain ⟨A, hA, htag⟩ := own.exists_place hclass
  constructor
  · intro hstate
    rw [htag] at hstate
    cases A <;> simp at hstate
    exact List.mem_of_mem_filter hA
  · intro hrun
    exact own.tag .running p (by simp [State.at_, hrun, hclass])

/-- With nothing queued and nothing running, the whole startup pool is free. -/
theorem idle_free (own : Owned s) (hqueue : s.eventQueueActive = []) (hrun : s.running = []) :
    s.freeEventEntry.Perm ((List.finRange startupEventPoolSize).map .startupEventPool) := by
  refine (List.perm_ext_iff_of_nodup (own.nodup .free) ?_).mpr fun p => ?_
  · exact (List.nodup_finRange _).map fun i j h => by simpa using h
  · constructor
    · intro hmem
      have hclass : s.classOf p = .pool := own.admits .free p hmem
      cases p with
      | startupEventPool i => exact List.mem_map_of_mem (List.mem_finRange i)
      | startupSysTimerPool i => simp [State.classOf] at hclass
      | heap a =>
        simp only [State.classOf] at hclass
        split at hclass <;> simp_all
    · intro hmem
      obtain ⟨i, -, rfl⟩ := List.mem_map.mp hmem
      have hcount := (own.pool_count (p := .startupEventPool i) rfl).1
      simp only [hqueue, hrun, List.count_nil] at hcount
      have hpos : 0 < s.freeEventEntry.count (.startupEventPool i) := by omega
      exact List.count_pos_iff.mp hpos

/-- With nothing queued and nothing running, no event is allocated. -/
theorem idle_dynamic (own : Owned s) (hqueue : s.eventQueueActive = []) (hrun : s.running = []) :
    s.classOf p ≠ .dynamic := by
  intro hclass
  have hcount := (own.dynamic_count hclass).1
  simp [hqueue, hrun] at hcount

end Owned

section

variable [NsList]

/-- An operation in a reachable state neither takes an entry off a list that it is not on nor
frees a block that is not allocated. -/
theorem Owned.exec_fault {s : State} (own : Owned s) {op : Op} (valid : Valid s op) {fault : Fault}
    (hexec : exec op s = .error fault) : fault = .noTasklet := by
  rcases exec_performs own valid with ⟨s', r, acts, hok, -, -⟩ | ⟨-, herror, -⟩
  · simp [hok] at hexec
  · rw [herror] at hexec
    exact (Except.error.inj hexec).symm

/-- **Storage ownership across `event.c` and `system_timer.c`.** -/
theorem storage_ownership {s : State} (reachable : Reachable s) :
    (∀ i, s.freeEventEntry.count (.startupEventPool i)
        + s.eventQueueActive.count (.startupEventPool i)
        + s.running.count (.startupEventPool i) = 1 ∧
      .startupEventPool i ∉ s.systemTimerFree ∧ .startupEventPool i ∉ s.systemTimerList) ∧
    (∀ p, s.classOf p = .dynamic → s.eventQueueActive.count p + s.running.count p = 1 ∧
      p ∉ s.freeEventEntry ∧ p ∉ s.systemTimerFree ∧ p ∉ s.systemTimerList) ∧
    (∀ p, s.classOf p = .timer → s.systemTimerFree.count p + s.systemTimerList.count p
        + s.eventQueueActive.count p + s.running.count p = 1 ∧ p ∉ s.freeEventEntry) ∧
    (∀ p, s.classOf p ≠ .foreign →
      ((s.event p).state = .queued ↔ p ∈ s.eventQueueActive) ∧
        ((s.event p).state = .running ↔ p ∈ s.running)) ∧
    (∀ p ∈ s.systemTimerList, (s.event p).state = .unqueued) ∧
    (∀ op fault, Valid s op → exec op s = .error fault → fault = .noTasklet) ∧
    (s.eventQueueActive = [] → s.running = [] →
      s.freeEventEntry.Perm ((List.finRange startupEventPoolSize).map .startupEventPool) ∧
        ∀ p, s.classOf p ≠ .dynamic) := by
  have own := reachable.owned
  refine ⟨fun i => own.pool_count rfl, fun p => own.dynamic_count, fun p => own.timer_count,
    fun p hclass => ⟨own.queued_iff hclass, own.running_iff hclass⟩, own.tag .timerList,
    fun op fault valid => own.exec_fault valid, fun hqueue hrun => ?_⟩
  exact ⟨own.idle_free hqueue hrun, fun p => own.idle_dynamic hqueue hrun⟩

end

/-- In the middle of the sample program the timer runs and the other storages are free. -/
theorem storage_ownership_sample : ∃ s,
    drive (fun _ _ => True) sampleOps (eventOSSchedulerInit (.boot 0)) = some s ∧
    s.running = [.startupSysTimerPool 5] ∧
    s.systemTimerFree.count (.startupSysTimerPool 5)
      + s.systemTimerList.count (.startupSysTimerPool 5)
      + s.eventQueueActive.count (.startupSysTimerPool 5)
      + s.running.count (.startupSysTimerPool 5) = 1 := by
  have hsome : (drive (fun _ _ => True) sampleOps (eventOSSchedulerInit (.boot 0))).map (·.running)
      = some [.startupSysTimerPool 5] := by decide +kernel
  obtain ⟨s, hs, hrunning⟩ := Option.map_eq_some_iff.mp hsome
  exact ⟨s, hs, hrunning, ((storage_ownership (reachable_of_drive hs)).2.2.1 _ rfl).1⟩

end EventLoop
