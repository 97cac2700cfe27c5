import EventLoop.TimeoutRuns

/-!
# Dispatch never meets an event without a tasklet

`eventOS_scheduler_dispatch_event` trusts the senders: it dereferences the result of the tasklet
lookup unchecked. In every run in which events are addressed (`AddressedOp`) the lookup finds the
one tasklet that is registered under the receiver's id, with the function it was registered with;
and so it does in every run of the timeout functions.
-/

namespace EventLoop

open Lib

section

variable [NsList]

/-! ## Where the tasklets come from -/

/-- Every tasklet was registered in the run, with its function, under its id. -/
def Originates (l : List (Op × Ret)) (s : State) : Prop :=
  ∀ t ∈ s.armCoreTaskletList, ∃ ty newTasklet newEvent,
    (.handlerCreate t.funcPtr ty newTasklet newEvent, .code t.id.toInt) ∈ l

omit [NsList] in
lemma Originates.step {l : List (Op × Ret)} {s s' : State} {op : Op} {r : Ret} {acts : List Act}
    (h : Originates l s) (heffect : Effect s op r acts) (run : Run Move s acts s') :
    Originates (l ++ [(op, r)]) s' := by
  have hold : ∀ t ∈ s.armCoreTaskletList, ∃ ty newTasklet newEvent,
      (.handlerCreate t.funcPtr ty newTasklet newEvent, .code t.id.toInt) ∈ l ++ [(op, r)] := by
    intro t ht
    obtain ⟨ty, newTasklet, newEvent, hmem⟩ := h t ht
    exact ⟨ty, newTasklet, newEvent, List.mem_append_left _ hmem⟩
  rcases heffect.tasklets run with htasklets | ⟨f, ty, newTasklet, newEvent, rfl, htasklets⟩
  · exact fun t ht => hold t (htasklets ▸ ht)
  · have hcode : r = .code (taskletGetFreeId s).toInt := by
      cases heffect with
      | handlerCreate => rfl
      | handlerCreateDuplicate | handlerCreateFull =>
        -- a registration that fails changes nothing
        obtain rfl := Run.nil_iff.mp run
        simp at htasklets
    intro t ht
    rw [htasklets] at ht
    rcases List.mem_append.mp ht with ht | ht
    · exact hold t ht
    · obtain rfl := List.mem_singleton.mp ht
      exact ⟨ty, newTasklet, newEvent, by simp [hcode]⟩

/-! ## Dispatch -/

/-- Every event has one receiver, and a dispatch calls the function registered for it. -/
structure Delivers (l : List (Op × Ret)) (s : State) : Prop where
  receiver : ∀ p, Pending s p → ∃ t,
    s.armCoreTaskletList.filter (fun u => u.id = (s.event p).data.receiver) = [t]
  dispatch : ∀ p rest, s.eventQueueActive = p :: rest → ∃ t s',
    s.armCoreTaskletList.filter (fun u => u.id = (s.event p).data.receiver) = [t] ∧
    (∃ ty newTasklet newEvent,
      (.handlerCreate t.funcPtr ty newTasklet newEvent, .code t.id.toInt) ∈ l) ∧
    ∀ call, eventOSSchedulerDispatchEvent call s = (do
      let s ← call t p s'
      let s ← dispatchReturn p s
      .ok (s, true))

omit [NsList] in
/-- The receiver of an event is one tasklet, registered once. -/
lemma Deliverable.receiver_filter {s : State} (h : Deliverable s) {p : Ptr} (hp : Pending s p) :
    ∃ t, eventTaskletHandlerGet (s.event p).data.receiver s = some t ∧
      s.armCoreTaskletList.filter (fun u => u.id = (s.event p).data.receiver) = [t] := by
  obtain ⟨t, hget, hmem, hid, -⟩ := h.receiver hp
  refine ⟨t, hget, ?_⟩
  rw [← hid]
  exact filter_eq_singleton_of_nodup (h.registered.nodup_id h.valid) hmem

lemma Deliverable.delivers {l : List (Op × Ret)} {s : State} (own : Owned s) (h : Deliverable s)
    (originates : Originates l s) : Delivers l s where
  receiver p hp := by
    obtain ⟨t, -, hfilter⟩ := h.receiver_filter hp
    exact ⟨t, hfilter⟩
  dispatch p rest hqueue := by
    have hpending : Pending s p := Or.inl (by simp [hqueue])
    obtain ⟨t, hget, hfilter⟩ := h.receiver_filter hpending
    obtain ⟨hmem, -, -⟩ := eventTaskletHandlerGet_eq_some hget
    have hvalid : Valid s .dispatch := trivial
    obtain ⟨s', r, hexec⟩ := h.exec_ok own hvalid
    obtain ⟨acts, heffect, -⟩ := Step.effect own ⟨hvalid, hexec⟩
    obtain ⟨next, rfl, hread⟩ := dispatchRead_of_exec hexec
    refine ⟨t, s', hfilter, originates t hmem, fun call => ?_⟩
    cases heffect with
    | dispatchIdle hempty => simp [hempty] at hqueue
    | @dispatch q _ tasklet hqueue' htasklet =>
      obtain ⟨rfl, -⟩ : p = q ∧ rest = _ := List.cons.inj (hqueue.symm.trans hqueue')
      obtain rfl : t = tasklet := Option.some.inj (hget.symm.trans htasklet)
      exact dispatchEvent_of_read hread

/-- **Dispatch never meets an event without a tasklet.** In every run from initialisation in which
no tasklet is registered when 128 are, user-allocated events are sent to registered ids, and
handlers keep the receiver of their event: every event that is queued, waits on the timer list or
runs is addressed to exactly one registered tasklet, and a dispatch calls the function that was
registered under that id. The same holds of every run of the timeout functions, which is a run of
that kind. -/
theorem dispatch_finds_tasklet {s₀ : State} (init : Initial s₀) :
    (∀ l s, RunOf AddressedOp s₀ l s → Delivers l s) ∧
    ∀ l h, Run TimeoutStep (.start s₀) l h → ∃ l',
      RunOf AddressedOp s₀ l' h.system.core ∧ Delivers l' h.system.core := by
  have hrun : ∀ l s, RunOf AddressedOp s₀ l s → Delivers l s := by
    intro l s run
    have hall : Owned s ∧ Deliverable s ∧ Originates l s := by
      unfold RunOf at run
      induction run with
      | nil => exact ⟨init.owned, init.deliverable, by simp [Originates, init.tasklets]⟩
      | @snoc l t u label run last ih =>
        obtain ⟨own, deliverable, originates⟩ := ih
        obtain ⟨acts, heffect, moves⟩ := Step.effect own last.1
        exact ⟨own.run moves, deliverable.step own last.2 heffect moves,
          originates.step heffect moves⟩
    exact hall.2.1.delivers hall.1 hall.2.2
  refine ⟨hrun, fun l h run => ?_⟩
  obtain ⟨l', run'⟩ := TimeoutHistory.leads_of_run init run
  exact ⟨l', run', hrun l' _ run'⟩

end

/-- In the sample program an event and an expired timer are queued; both have their receiver. -/
theorem dispatch_finds_tasklet_sample : ∃ l s,
    RunOf AddressedOp (eventOSSchedulerInit (.boot 0)) l s ∧ s.eventQueueActive.length = 2 ∧
      Delivers l s := by
  have hsome : (drive AddressedOp (sampleOps.take 6) (eventOSSchedulerInit (.boot 0))).map
      (·.eventQueueActive.length) = some 2 := by decide +kernel
  obtain ⟨s, hs, hlength⟩ := Option.map_eq_some_iff.mp hsome
  obtain ⟨l, run, -⟩ := drive_runOf hs
  exact ⟨l, s, run, hlength, (dispatch_finds_tasklet (boot_initial 0)).1 l s run⟩

end EventLoop
