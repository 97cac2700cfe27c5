import EventLoop.Lib.StableQueue
import Mathlib.Data.Set.Card

/-!
# Waiting in a stable priority queue

How long an entry of a stable priority queue can wait. It is overtaken only by entries of higher
priority that are written after it, so the deliveries that it sees are at most the entries that are
ahead of it and those (`Queue.Keyed.served`). Nothing here depends on how the queue is kept.
-/

namespace Lib.StableQueue

variable {κ δ : Type} {priority : δ → ℕ} {q q' : Queue κ δ} {a : Action κ δ} {e : Entry κ δ}
  {l : List (Action κ δ)}

/-- The key that an action is on. -/
def Action.key : Action κ δ → κ
  | write key _ => key
  | cancel key => key
  | deliver key _ => key

/-- A delivery. -/
def Action.isDeliver : Action κ δ → Bool
  | deliver _ _ => true
  | _ => false

/-- A write of an entry that comes before all those of priority `n`. -/
def Action.overtakes (priority : δ → ℕ) (n : ℕ) : Action κ δ → Bool
  | write _ data => priority data < n
  | _ => false

/-- How many entries are to be delivered before an entry. -/
noncomputable def Queue.ahead (priority : δ → ℕ) (q : Queue κ δ) (e : Entry κ δ) : ℕ :=
  {e' ∈ q.pending | e'.Before priority e}.ncard

/-- A queue that was written to from the start, with the pending entries under different keys. -/
structure Queue.Keyed (q : Queue κ δ) : Prop where
  accounted : q.Accounted
  keys : ∀ e ∈ q.pending, ∀ e' ∈ q.pending, e.key = e'.key → e = e'

namespace Queue.Keyed

theorem empty : (Queue.empty : Queue κ δ).Keyed := ⟨.empty, by simp [Queue.empty]⟩

theorem step (h : q.Keyed) (step : Step priority q a q') : q'.Keyed := by
  refine ⟨h.accounted.step step, ?_⟩
  cases step with
  | write key data hfresh =>
    rintro e (rfl | he) e' (rfl | he') hkey
    · rfl
    · exact absurd hkey.symm (hfresh e' he')
    · exact absurd hkey (hfresh e he)
    · exact h.keys e he e' he' hkey
  | cancel | deliver => exact fun e he e' he' => h.keys e he.1 e' he'.1

theorem run (h : q.Keyed) (run : Run (Step priority) q l q') : q'.Keyed :=
  run.invariant h fun _ _ _ h step => h.step step

lemma finite (h : q.Keyed) : q.pending.Finite :=
  (List.finite_toSet q.written).subset fun e he => (h.accounted.written_iff e).mpr (Or.inl he)

/-- A pending entry has an older ticket than the next one. -/
lemma ticket_lt (h : q.Keyed) (he : e ∈ q.pending) : e.ticket < q.written.length :=
  h.accounted.ticket_lt ((h.accounted.written_iff e).mpr (Or.inl he))

end Queue.Keyed

lemma Entry.not_before_self (e : Entry κ δ) : ¬ e.Before priority e := by
  simp [Entry.Before]

/-- In a list in the order of delivery, the entries ahead of one are those in front of it. -/
lemma Implements.ahead_eq {front behind : List (Entry κ δ)}
    (impl : Implements priority (front ++ e :: behind) q) : q.ahead priority e = front.length := by
  obtain ⟨-, hlater, hfront⟩ := List.pairwise_append.mp impl.ordered
  have hset : {e' ∈ q.pending | e'.Before priority e} = {e' | e' ∈ front} := by
    ext x
    simp only [Set.mem_ofPred_eq, ← impl.mem_iff, List.mem_append, List.mem_cons]
    constructor
    · rintro ⟨hx | rfl | hx, hbefore⟩
      · exact hx
      · exact absurd hbefore x.not_before_self
      · have hafter := (List.pairwise_cons.mp hlater).1 x hx
        rcases hbefore with hlt | ⟨heq, hlt⟩ <;> rcases hafter with hgt | ⟨heq', hgt⟩ <;> omega
    · exact fun hx => ⟨Or.inl hx, hfront x hx e List.mem_cons_self⟩
  have hnodup := (List.nodup_append.mp (impl.keys.of_map _)).1
  rw [Queue.ahead, hset, (ncard_eq_length (S := {e' | e' ∈ front}) hnodup fun _ => Iff.rfl).2]

/-- While an entry waits, a delivery takes one of those ahead of it, and only a write that
overtakes it adds one. -/
lemma Queue.Keyed.ahead_step (h : q.Keyed) (step : Step priority q a q') (he : e ∈ q.pending)
    (he' : e ∈ q'.pending) :
    (if a.isDeliver then 1 else 0) + q'.ahead priority e
      ≤ q.ahead priority e + if a.overtakes priority (priority e.data) then 1 else 0 := by
  have hfinite : {e' ∈ q.pending | e'.Before priority e}.Finite := h.finite.subset fun _ hx => hx.1
  cases step with
  | write key data hfresh =>
    have hticket := h.ticket_lt he
    by_cases hover : priority data < priority e.data
    · have hsub : {e' ∈ insert (q.next key data) q.pending | e'.Before priority e}
          ⊆ insert (q.next key data) {e' ∈ q.pending | e'.Before priority e} := by
        rintro x ⟨rfl | hx, hbefore⟩
        · exact Or.inl rfl
        · exact Or.inr ⟨hx, hbefore⟩
      have hle := (Set.ncard_le_ncard hsub (hfinite.insert _)).trans (Set.ncard_insert_le _ _)
      simpa [Action.isDeliver, Action.overtakes, hover, Queue.ahead] using hle
    · -- an entry of the same priority is written behind it
      have hsub : {e' ∈ insert (q.next key data) q.pending | e'.Before priority e}
          ⊆ {e' ∈ q.pending | e'.Before priority e} := by
        rintro x ⟨rfl | hx, hbefore⟩
        · rcases hbefore with hlt | ⟨-, hlt⟩
          · exact absurd hlt hover
          · exact absurd hlt hticket.not_gt
        · exact ⟨hx, hbefore⟩
      have hle := Set.ncard_le_ncard hsub hfinite
      simpa [Action.isDeliver, Action.overtakes, hover, Queue.ahead] using hle
  | cancel c hc =>
    have hsub : {e' ∈ q.pending \ {c} | e'.Before priority e}
        ⊆ {e' ∈ q.pending | e'.Before priority e} := fun x hx => ⟨hx.1.1, hx.2⟩
    have hle := Set.ncard_le_ncard hsub hfinite
    simpa [Action.isDeliver, Action.overtakes, Queue.ahead] using hle
  | deliver c hc hfirst =>
    have hne : e ≠ c := fun heq => he'.2 heq
    have hmem : c ∈ {e' ∈ q.pending | e'.Before priority e} := ⟨hc, hfirst e he hne⟩
    have hset : {e' ∈ q.pending \ {c} | e'.Before priority e}
        = {e' ∈ q.pending | e'.Before priority e} \ {c} := by
      ext x
      simp only [Set.mem_sdiff, Set.mem_singleton_iff, Set.mem_ofPred_eq]
      tauto
    have hcard := Set.ncard_sdiff_singleton_add_one hmem hfinite
    have hahead : q.ahead priority e
        = ({e' ∈ q.pending | e'.Before priority e} \ {c}).ncard + 1 := hcard.symm
    simp only [Action.isDeliver, Action.overtakes, Queue.ahead, hset, ↓reduceIte,
      Bool.false_eq_true, Nat.add_zero] at hahead ⊢
    omega

/-- How many pending entries come before one that is written now. -/
noncomputable def Queue.pendingBefore (priority : δ → ℕ) (q : Queue κ δ) (data : δ) : ℕ :=
  {e ∈ q.pending | priority e.data ≤ priority data}.ncard

/-- A new entry has ahead of it the pending ones of its priority and above. -/
lemma Queue.Keyed.ahead_next (h : q.Keyed) {key : κ} {data : δ}
    (step : Step priority q (.write key data) q') : q.next key data ∈ q'.pending ∧
      q'.ahead priority (q.next key data) = q.pendingBefore priority data := by
  cases step with
  | write _ _ hfresh =>
    refine ⟨Or.inl rfl, congrArg Set.ncard ?_⟩
    ext e
    constructor
    · rintro ⟨rfl | he, hbefore⟩
      · exact absurd hbefore (Entry.not_before_self _)
      · refine ⟨he, ?_⟩
        rcases hbefore with hlt | ⟨heq, -⟩
        · exact hlt.le
        · exact heq.le
    · rintro ⟨he, hle⟩
      refine ⟨Or.inr he, ?_⟩
      rcases hle.lt_or_eq with hlt | heq
      · exact Or.inl hlt
      · exact Or.inr ⟨heq, h.ticket_lt he⟩

/-- Where an entry that waits can go. -/
lemma Step.pending_or (step : Step priority q a q') (he : e ∈ q.pending) :
    e ∈ q'.pending ∨ a = .cancel e.key ∨ a = .deliver e.key e.data ∧ q.ahead priority e = 0 := by
  cases step with
  | write key data hfresh => exact Or.inl (Or.inr he)
  | cancel c hc =>
    by_cases heq : e = c
    · exact Or.inr (Or.inl (by rw [heq]))
    · exact Or.inl ⟨he, heq⟩
  | deliver c hc hfirst =>
    by_cases heq : e = c
    · subst heq
      refine Or.inr (Or.inr ⟨rfl, ?_⟩)
      have hempty : {e' ∈ q.pending | e'.Before priority e} = ∅ := by
        refine Set.eq_empty_of_forall_notMem fun x ⟨hx, hbefore⟩ => ?_
        have hne : x ≠ e := by
          rintro rfl
          exact x.not_before_self hbefore
        have hafter := hfirst x hx hne
        rcases hbefore with hlt | ⟨heq, hlt⟩ <;> rcases hafter with hgt | ⟨heq', hgt⟩ <;> omega
      rw [Queue.ahead, hempty, Set.ncard_empty]
    · exact Or.inl ⟨he, heq⟩

/-- While an entry waits, nothing else is done under its key. -/
lemma Queue.Keyed.key_ne (h : q.Keyed) (step : Step priority q a q') (he : e ∈ q.pending)
    (he' : e ∈ q'.pending) : a.key ≠ e.key := by
  cases step with
  | write key data hfresh => exact fun heq => hfresh e he heq.symm
  | cancel c hc => exact fun heq => he'.2 (h.keys e he c hc heq.symm)
  | deliver c hc hfirst => exact fun heq => he'.2 (h.keys e he c hc heq.symm)

/-- **Bounded waiting.** An entry that is pending waits for at most as many deliveries as there are
entries ahead of it, and entries of higher priority written meanwhile: within them it is delivered
or cancelled, or still waits. -/
theorem Queue.Keyed.served (h : q.Keyed) (run : Run (Step priority) q l q') (he : e ∈ q.pending) :
    (e ∈ q'.pending ∧ (∀ b ∈ l, b.key ≠ e.key) ∧
      l.countP Action.isDeliver + q'.ahead priority e
        ≤ q.ahead priority e + l.countP (Action.overtakes priority (priority e.data))) ∨
    ∃ l₁ b l₂, l = l₁ ++ b :: l₂ ∧ (b = .cancel e.key ∨ b = .deliver e.key e.data) ∧
      (∀ b ∈ l₁, b.key ≠ e.key) ∧
      l₁.countP Action.isDeliver
        ≤ q.ahead priority e + l₁.countP (Action.overtakes priority (priority e.data)) := by
  induction run with
  | nil => exact Or.inl ⟨he, by simp, by simp⟩
  | @snoc l t u b run last ih =>
    rcases ih with ⟨het, hkeys, hbound⟩ | ⟨l₁, c, l₂, rfl, hc, hkeys, hbound⟩
    · have hkeyed := h.run run
      rcases last.pending_or het with heu | hcancel | ⟨hdeliver, -⟩
      · refine Or.inl ⟨heu, fun c hc => ?_, ?_⟩
        · rcases List.mem_append.mp hc with hc | hc
          · exact hkeys c hc
          · rw [List.mem_singleton.mp hc]
            exact hkeyed.key_ne last het heu
        · have hstep := hkeyed.ahead_step last het heu
          rw [List.countP_append, List.countP_append, List.countP_singleton,
            List.countP_singleton]
          omega
      · exact Or.inr ⟨l, b, [], rfl, Or.inl hcancel, hkeys, by omega⟩
      · exact Or.inr ⟨l, b, [], rfl, Or.inr hdeliver, hkeys, by omega⟩
    · exact Or.inr ⟨l₁, c, l₂ ++ [b], by simp, hc, hkeys, hbound⟩

/-! ## Entries of one kind -/

/-- An entry waits, and comes before all others of its kind but those of a higher priority that were
written in a part of a run. -/
structure Queue.Leads (priority : δ → ℕ) (P : δ → Prop) (q : Queue κ δ) (e : Entry κ δ)
    (l : List (Action κ δ)) : Prop where
  mem : e ∈ q.pending
  before : ∀ e' ∈ q.pending, P e'.data → e' ≠ e → e.Before priority e' ∨
    (priority e'.data < priority e.data ∧ .write e'.key e'.data ∈ l)

/-- An entry that leads the others of its kind leads them until it is delivered or cancelled. -/
lemma Queue.Keyed.leads_step (h : q.Keyed) {P : δ → Prop} (leads : q.Leads priority P e l)
    (step : Step priority q a q') :
    q'.Leads priority P e (l ++ [a]) ∨ a = .cancel e.key ∨ a = .deliver e.key e.data := by
  have hmem : ∀ b ∈ l, b ∈ l ++ [a] := fun b hb => List.mem_append_left _ hb
  rcases step.pending_or leads.mem with he' | hcancel | ⟨hdeliver, -⟩
  · refine Or.inl ⟨he', fun x hx hP hne => ?_⟩
    have hold : x ∈ q.pending → e.Before priority x ∨
        (priority x.data < priority e.data ∧ .write x.key x.data ∈ l ++ [a]) := fun hx =>
      (leads.before x hx hP hne).imp_right fun ⟨hlt, hwrite⟩ => ⟨hlt, hmem _ hwrite⟩
    cases step with
    | write key data hfresh =>
      rcases hx with rfl | hx
      · -- a new entry comes behind those of its priority
        rcases Nat.lt_or_ge (priority data) (priority e.data) with hlt | hge
        · exact Or.inr ⟨hlt, by simp [Queue.next]⟩
        · left
          rcases hge.lt_or_eq with hgt | heq
          · exact Or.inl hgt
          · exact Or.inr ⟨heq, h.ticket_lt leads.mem⟩
      · exact hold hx
    | cancel | deliver => exact hold hx.1
  · exact Or.inr (Or.inl hcancel)
  · exact Or.inr (Or.inr hdeliver)

/-- **What overtakes an entry.** Of the entries of a kind that the first of them leads, those that
are delivered before it were written later, with a higher priority. -/
theorem Queue.Keyed.overtaken (h : q.Keyed) {P : δ → Prop} (leads : q.Leads priority P e [])
    {key : κ} {data : δ} {l' : List (Action κ δ)}
    (run : Run (Step priority) q (l ++ .deliver key data :: l') q') (hP : P data) :
    (.cancel e.key ∈ l ∨ .deliver e.key e.data ∈ l) ∨ (key = e.key ∧ data = e.data) ∨
      (priority data < priority e.data ∧ .write key data ∈ l) := by
  obtain ⟨t, hbefore, hafter⟩ := run.split
  obtain ⟨u, hdeliver, -⟩ := Run.cons_iff.mp hafter
  have hleads : t.Leads priority P e l ∨ .cancel e.key ∈ l ∨ .deliver e.key e.data ∈ l := by
    clear hafter hdeliver run
    induction hbefore with
    | nil => exact Or.inl leads
    | @snoc l t u b run last ih =>
      rcases ih with hleads | hcancel | hdeliver
      · refine ((h.run run).leads_step hleads last).imp_right fun hb => ?_
        rcases hb with rfl | rfl
        · exact Or.inl (by simp)
        · exact Or.inr (by simp)
      · exact Or.inr (Or.inl (List.mem_append_left _ hcancel))
      · exact Or.inr (Or.inr (List.mem_append_left _ hdeliver))
  rcases hleads with hleads | htaken
  · right
    cases hdeliver with
    | deliver c hc hfirst =>
      by_cases hce : c = e
      · exact Or.inl ⟨by rw [hce], by rw [hce]⟩
      · rcases hleads.before c hc hP hce with hbefore | hover
        · have hafter := hfirst e hleads.mem (Ne.symm hce)
          rcases hbefore with hlt | ⟨heq, hlt⟩ <;> rcases hafter with hgt | ⟨heq', hgt⟩ <;> omega
        · exact Or.inr hover
  · exact Or.inl htaken

end Lib.StableQueue
