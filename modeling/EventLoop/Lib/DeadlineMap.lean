import EventLoop.Lib.ListLemmas
import EventLoop.Lib.Transition

/-!
# Deadline maps

A map from keys to absolute deadlines, with a clock. Keys are started with a delay and a value,
and stopped; time passes only as long as no deadline has come; a key fires at its deadline. What a
label of a run does to the map is given by a function `obs`, so that the facts below apply to the
runs of any system that a deadline map simulates.
-/

namespace Lib

/-- A clock, and the deadline of each key with the value it was started with. -/
structure DeadlineMap (K V : Type) where
  now : ℕ
  deadline : K → Option (ℕ × V)

namespace DeadlineMap

/-- What happens to a deadline map. -/
inductive Action (K V : Type) where
  | start (k : K) (delay : ℕ) (v : V)
  | stop (k : K)
  | tick
  | fire (k : K) (v : V)

variable {K V α : Type}

/-- No key is started. -/
def empty : DeadlineMap K V := ⟨0, fun _ => none⟩

/-- The action is on the key. -/
def Action.On (k : K) : Action K V → Prop
  | .start k' _ _ => k' = k
  | .stop k' => k' = k
  | .tick => False
  | .fire k' _ => k' = k

/-- One unit of time passes. -/
def Action.isTick : Action K V → Bool
  | .tick => true
  | _ => false

/-- One step; a label that does nothing leaves the map as it is. -/
inductive Step [DecidableEq K] (m : DeadlineMap K V) :
    Option (Action K V) → DeadlineMap K V → Prop
  | idle : Step m none m
  | start (k : K) (delay : ℕ) (v : V) : Step m (some (.start k delay v))
      { m with deadline := Function.update m.deadline k (some (m.now + delay, v)) }
  | stop (k : K) : Step m (some (.stop k))
      { m with deadline := Function.update m.deadline k none }
  | tick (h : ∀ k d v, m.deadline k = some (d, v) → m.now < d) :
      Step m (some .tick) { m with now := m.now + 1 }
  | fire (k : K) (v : V) (h : m.deadline k = some (m.now, v)) : Step m (some (.fire k v))
      { m with deadline := Function.update m.deadline k none }

/-! ## Runs -/

section

variable (obs : α → Option (Action K V)) (k : K)

/-- The time that passes in a part of a run. -/
def elapsed (l : List α) : ℕ := (l.filterMap obs).countP Action.isTick

/-- Nothing in a part of a run is on the key. -/
def Untouched (l : List α) : Prop := ∀ a ∈ l, ∀ b, obs a = some b → ¬ b.On k

/-- The key is neither stopped nor started again in a part of a run. -/
def Kept (l : List α) : Prop :=
  ∀ a ∈ l, obs a ≠ some (.stop k) ∧ ∀ delay v, obs a ≠ some (.start k delay v)

@[simp] theorem elapsed_nil : elapsed obs [] = 0 := rfl

@[simp] theorem elapsed_append (l l' : List α) :
    elapsed obs (l ++ l') = elapsed obs l + elapsed obs l' := by
  simp [elapsed, List.filterMap_append]

theorem elapsed_singleton {a : α} {b : Option (Action K V)} (h : obs a = b) :
    elapsed obs [a] = if b.any Action.isTick then 1 else 0 := by
  subst h
  cases hb : obs a with
  | none => simp [elapsed, hb]
  | some b => simp [elapsed, hb, List.countP_cons]

end

variable [DecidableEq K] {obs : α → Option (Action K V)} {m m' : DeadlineMap K V} {k : K} {a : α}
  {l l' : List α}

omit [DecidableEq K] in
lemma Untouched.concat (huntouched : Untouched obs k l) (ha : ∀ b, obs a = some b → ¬ b.On k) :
    Untouched obs k (l ++ [a]) := by
  intro c hc
  rcases List.mem_append.mp hc with hc | hc
  · exact huntouched c hc
  · rw [List.mem_singleton.mp hc]
    exact ha

/-- A step that is not a tick leaves the time. -/
theorem Step.now_eq {b : Option (Action K V)} (step : m.Step b m') :
    m'.now = m.now + if b.any Action.isTick then 1 else 0 := by
  cases step <;> rfl

/-- A step that is not on a key leaves its deadline. -/
theorem Step.deadline_eq {b : Option (Action K V)} (step : m.Step b m')
    (hb : ∀ c, b = some c → ¬ c.On k) : m'.deadline k = m.deadline k := by
  cases step with
  | idle | tick => rfl
  | start k' | stop k' | fire k' =>
    exact Function.update_of_ne (fun h => hb _ rfl h.symm) _ _

/-- A run that does not touch a key leaves its deadline. -/
theorem deadline_of_untouched (run : Run (fun m a => m.Step (obs a)) m l m')
    (huntouched : Untouched obs k l) : m'.deadline k = m.deadline k := by
  induction run with
  | nil => rfl
  | @snoc l t u a run last ih =>
    rw [last.deadline_eq (huntouched a (by simp)),
      ih fun b hb => huntouched b (List.mem_append_left _ hb)]

/-- The clock counts the ticks. -/
theorem now_of_run (run : Run (fun m a => m.Step (obs a)) m l m') :
    m'.now = m.now + elapsed obs l := by
  induction run with
  | nil => rfl
  | @snoc l t u a run last ih =>
    rw [last.now_eq, ih, elapsed_append, elapsed_singleton obs rfl, Nat.add_assoc]

/-- A deadline does not pass. -/
theorem now_le (run : Run (fun m a => m.Step (obs a)) empty l m) {d : ℕ} {v : V}
    (h : m.deadline k = some (d, v)) : m.now ≤ d := by
  induction run generalizing d v with
  | nil => simp [empty] at h
  | @snoc l t u a run last ih =>
    generalize obs a = b at last
    cases last with
    | idle => exact ih h
    | start k' delay w =>
      by_cases hk : k = k'
      · subst hk
        obtain ⟨rfl, rfl⟩ : t.now + delay = d ∧ w = v := by simpa using h
        exact Nat.le_add_right _ _
      · exact ih (by simpa [hk] using h)
    | stop k' | fire k' =>
      by_cases hk : k = k'
      · simp [hk] at h
      · exact ih (by simpa [hk] using h)
    | tick hdue => exact hdue k d v h

/-- A key has a deadline since it was started. -/
theorem started_of_deadline (run : Run (fun m a => m.Step (obs a)) empty l m) {d : ℕ} {v : V}
    (h : m.deadline k = some (d, v)) : ∃ l₁ a l₂ n, l = l₁ ++ a :: l₂ ∧
      obs a = some (.start k n v) ∧ Untouched obs k l₂ ∧ d = elapsed obs l₁ + n := by
  induction run generalizing d v with
  | nil => simp [empty] at h
  | @snoc l t u a run last ih =>
    by_cases hon : ∃ b, obs a = some b ∧ b.On k
    · obtain ⟨b, hb, hbk⟩ := hon
      simp only [hb] at last
      cases last with
      | start k' delay w =>
        obtain rfl : k' = k := hbk
        obtain ⟨rfl, rfl⟩ : t.now + delay = d ∧ w = v := by simpa using h
        refine ⟨l, a, [], delay, rfl, hb, by simp [Untouched], ?_⟩
        rw [now_of_run run]
        exact congrArg (· + delay) (Nat.zero_add _)
      | stop k' | fire k' =>
        obtain rfl : k' = k := hbk
        simp at h
      | tick => exact hbk.elim
    · push Not at hon
      rw [last.deadline_eq hon] at h
      obtain ⟨l₁, a₁, l₂, n, rfl, hobs, huntouched, hd⟩ := ih h
      exact ⟨l₁, a₁, l₂ ++ [a], n, by simp, hobs, huntouched.concat hon, hd⟩

/-- **What fires was started, and its delay has passed since.** -/
theorem fired_exactly (run : Run (fun m a => m.Step (obs a)) empty l m)
    (step : m.Step (obs a) m') {v : V} (ha : obs a = some (.fire k v)) :
    ∃ l₁ b l₂ n, l = l₁ ++ b :: l₂ ∧ obs b = some (.start k n v) ∧ Untouched obs k l₂ ∧
      elapsed obs l₂ = n := by
  rw [ha] at step
  cases step with
  | fire _ _ hdue =>
    obtain ⟨l₁, b, l₂, n, rfl, hb, huntouched, hd⟩ := started_of_deadline run hdue
    refine ⟨l₁, b, l₂, n, rfl, hb, huntouched, ?_⟩
    have hnow := now_of_run run
    rw [← List.singleton_append, elapsed_append, elapsed_append, elapsed_singleton obs hb] at hnow
    simp only [Option.any_some, Action.isTick, Bool.false_eq_true, ↓reduceIte, empty] at hnow
    omega

/-- A deadline stays until the key fires, if it is kept. -/
theorem fires_of_deadline (run : Run (fun m a => m.Step (obs a)) m l m') (hkept : Kept obs k l)
    {d : ℕ} {v : V} (h : m.deadline k = some (d, v)) :
    (Untouched obs k l ∧ m'.deadline k = some (d, v)) ∨
      m'.deadline k = none ∧ ∃ l₁ b l₂, l = l₁ ++ b :: l₂ ∧ obs b = some (.fire k v) ∧
        m.now + elapsed obs l₁ = d ∧ Untouched obs k l₁ ∧ Untouched obs k l₂ := by
  induction run with
  | nil => exact Or.inl ⟨by simp [Untouched], h⟩
  | @snoc l t u a run last ih =>
    have hprevious := ih fun c hc => hkept c (List.mem_append_left _ hc)
    by_cases hon : ∃ b, obs a = some b ∧ b.On k
    · obtain ⟨b, hb, hbk⟩ := hon
      obtain ⟨hstop, hstart⟩ := hkept a (List.mem_append_right _ List.mem_cons_self)
      simp only [hb] at last
      cases last with
      | start k' delay w =>
        obtain rfl : k' = k := hbk
        exact absurd hb (hstart delay w)
      | stop k' =>
        obtain rfl : k' = k := hbk
        exact absurd hb hstop
      | tick => exact hbk.elim
      | fire k' w hdue =>
        obtain rfl : k' = k := hbk
        rcases hprevious with ⟨huntouched, hdeadline⟩ | ⟨hnone, -⟩
        · obtain ⟨rfl, rfl⟩ : t.now = d ∧ w = v := by
            simpa using hdue.symm.trans hdeadline
          exact Or.inr ⟨by simp, l, a, [], rfl, hb, (now_of_run run).symm, huntouched,
            by simp [Untouched]⟩
        · simp [hnone] at hdue
    · push Not at hon
      have hsame := last.deadline_eq hon
      rcases hprevious with ⟨huntouched, hdeadline⟩ | ⟨hnone, l₁, b, l₂, rfl, hb, hd, h₁, h₂⟩
      · exact Or.inl ⟨huntouched.concat hon, hsame.trans hdeadline⟩
      · exact Or.inr ⟨hsame.trans hnone, l₁, b, l₂ ++ [a], by simp, hb, hd, h₁, h₂.concat hon⟩

/-- **What was started fires once, when its delay has passed**, unless it is stopped or started
again before. -/
theorem fires_once (run : Run (fun m a => m.Step (obs a)) empty (l ++ a :: l') m) {n : ℕ} {v : V}
    (ha : obs a = some (.start k n v)) (hkept : Kept obs k l') :
    (Untouched obs k l' ∧ m.deadline k = some (elapsed obs l + n, v) ∧ elapsed obs l' ≤ n) ∨
      ∃ l₁ b l₂, l' = l₁ ++ b :: l₂ ∧ obs b = some (.fire k v) ∧ elapsed obs l₁ = n ∧
        Untouched obs k l₁ ∧ Untouched obs k l₂ := by
  obtain ⟨m₁, hbefore, hafter⟩ := run.split
  obtain ⟨m₂, hstep, hrest⟩ := Run.cons_iff.mp hafter
  have hnow₁ : m₁.now = elapsed obs l := (now_of_run hbefore).trans (Nat.zero_add _)
  simp only [ha] at hstep
  cases hstep with
  | start =>
    have hdeadline : (Function.update m₁.deadline k (some (m₁.now + n, v))) k
        = some (m₁.now + n, v) := Function.update_self ..
    rcases fires_of_deadline hrest hkept hdeadline with
      ⟨huntouched, hsame⟩ | ⟨-, l₁, b, l₂, rfl, hb, hd, h₁, h₂⟩
    · have hle := now_le run hsame
      have hnow := now_of_run hrest
      simp only at hnow
      exact Or.inl ⟨huntouched, hnow₁ ▸ hsame, by omega⟩
    · simp only at hd
      exact Or.inr ⟨l₁, b, l₂, rfl, hb, by omega, h₁, h₂⟩

/-! ## Letting time pass

A system that keeps its deadlines as a list of keys with the time that is left of each can let any
amount of time pass at once. -/

/-- Time passes in `n` units, and after each of them the keys fire whose time has come. -/
def expiry (l : List K) (left : K → ℕ) (v : K → V) (n : ℕ) : List (Action K V) :=
  (List.range n).flatMap fun i =>
    .tick :: (l.filter fun k => left k = i + 1).map fun k => .fire k (v k)

/-- A run whose labels are the actions. -/
abbrev ActionRun (m : DeadlineMap K V) (l : List (Action K V)) (m' : DeadlineMap K V) : Prop :=
  Run (fun m a => m.Step (some a)) m l m'

/-- What fires. -/
def Action.fired : Action K V → Option (K × V)
  | .fire k v => some (k, v)
  | _ => none

omit [DecidableEq K] in
lemma expiry_succ (l : List K) (left : K → ℕ) (v : K → V) (n : ℕ) :
    expiry l left v (n + 1) = expiry l left v n ++
      .tick :: (l.filter fun k => left k = n + 1).map fun k => .fire k (v k) := by
  simp [expiry, List.range_succ, List.flatMap_append]

/-- Keys that are due fire one after the other. -/
lemma run_fire {l : List K} {v : K → V} (hl : l.Nodup)
    (hdue : ∀ k ∈ l, m.deadline k = some (m.now, v k)) :
    m.ActionRun (l.map fun k => .fire k (v k))
      ⟨m.now, fun k => if k ∈ l then none else m.deadline k⟩ := by
  induction l generalizing m with
  | nil => simp
  | cons k l ih =>
    obtain ⟨hk, hl⟩ := List.nodup_cons.mp hl
    have hfire := Step.fire k (v k) (hdue k List.mem_cons_self)
    refine Run.cons hfire ?_
    have hrest := ih (m := { m with deadline := Function.update m.deadline k none }) hl ?_
    · have hall : (fun k' => if k' ∈ l then none else Function.update m.deadline k none k')
          = fun k' => if k' ∈ k :: l then none else m.deadline k' := by
        funext k'
        by_cases hkk' : k' = k <;> simp [hkk']
      rwa [hall] at hrest
    · intro k' hk'
      have hne : k' ≠ k := by
        rintro rfl
        exact hk hk'
      simpa [hne] using hdue k' (List.mem_cons_of_mem _ hk')

/-- **Time passes at once as it passes unit by unit**: the keys fire whose time has come, and those
that are left have that much less of it. -/
theorem run_expiry {l : List K} {left : K → ℕ} {v : K → V} (hl : l.Nodup)
    (hdeadline : m.deadline = fun k => if k ∈ l then some (m.now + left k, v k) else none)
    (hpos : ∀ k ∈ l, 0 < left k) (n : ℕ) :
    m.ActionRun (expiry l left v n)
      ⟨m.now + n, fun k => if k ∈ l ∧ n < left k then some (m.now + left k, v k) else none⟩ := by
  induction n with
  | zero =>
    have hsame : (fun k => if k ∈ l ∧ 0 < left k then some (m.now + left k, v k) else none)
        = m.deadline := by
      rw [hdeadline]
      funext k
      by_cases hk : k ∈ l
      · simp [hk, hpos k hk]
      · simp [hk]
    rw [hsame]
    exact .nil
  | succ n ih =>
    rw [expiry_succ]
    refine ih.append (Run.cons (.tick ?_) ?_)
    · intro k d w hk
      simp only at hk
      split at hk
      · next hleft =>
        obtain ⟨rfl, -⟩ := Prod.mk.inj (Option.some.inj hk)
        exact Nat.add_lt_add_left hleft.2 _
      · cases hk
    · have hfire := run_fire (l := l.filter fun k => left k = n + 1) (v := v)
        (m := ⟨m.now + n + 1,
          fun k => if k ∈ l ∧ n < left k then some (m.now + left k, v k) else none⟩)
        (hl.filter _) ?_
      · have hleft : (fun k => if k ∈ l.filter (fun k => left k = n + 1) then none
              else if k ∈ l ∧ n < left k then some (m.now + left k, v k) else none)
            = fun k => if k ∈ l ∧ n + 1 < left k then some (m.now + left k, v k) else none := by
          funext k
          by_cases hk : k ∈ l
          · rcases Nat.lt_trichotomy (left k) (n + 1) with hlt | heq | hgt
            · simp [hk, hlt.ne, show ¬ n < left k by omega, show ¬ n + 1 < left k by omega]
            · simp [hk, heq]
            · simp [hk, show n < left k by omega, hgt, hgt.ne']
          · simp [hk]
        rwa [hleft] at hfire
      · intro k hk
        obtain ⟨hk, hleft⟩ := List.mem_filter.mp hk
        have heq : left k = n + 1 := by simpa using hleft
        simp [hk, heq, Nat.add_assoc]

omit [DecidableEq K] in
/-- What fires are the keys whose time has come, in the order of the time that was left. -/
lemma fired_expiry {l : List K} {left : K → ℕ} (v : K → V)
    (hl : l.Pairwise fun a b => left a ≤ left b) (hpos : ∀ k ∈ l, 0 < left k) (n : ℕ) :
    (expiry l left v n).filterMap Action.fired
      = (l.filter fun k => left k ≤ n).map fun k => (k, v k) := by
  induction n with
  | zero =>
    have hnone : l.filter (fun k => left k ≤ 0) = [] :=
      List.filter_eq_nil_iff.mpr fun k hk => by simpa using (hpos k hk).ne'
    rw [hnone]
    rfl
  | succ n ih =>
    have hlater : (l.filter fun k => n < left k).filter (fun k => left k ≤ n + 1)
        = l.filter fun k => left k = n + 1 := by
      rw [List.filter_filter]
      refine List.filter_congr fun k _ => ?_
      rw [← Bool.decide_and, decide_eq_decide]
      omega
    rw [expiry_succ, List.filterMap_append, ih, filter_le_append hl (Nat.le_succ n),
      List.map_append, hlater, List.filterMap_cons]
    simp [Action.fired, List.filterMap_map, Function.comp_def]

end DeadlineMap

end Lib
