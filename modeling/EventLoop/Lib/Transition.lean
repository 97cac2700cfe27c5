import Mathlib.Data.List.Induction

/-!
# Labelled transition systems

Runs of a step relation, the invariant rule, and forward simulations, over arbitrary types of
states and labels. A run records the labels of its steps in the order they were taken, so a
property of a run is proved by induction on its last step.
-/

namespace Lib

variable {σ α τ β : Type}

/-- `Run step s l t`: steps with the labels `l` lead from `s` to `t`. -/
inductive Run (step : σ → α → σ → Prop) (s : σ) : List α → σ → Prop
  | nil : Run step s [] s
  | snoc {l : List α} {t u : σ} {a : α} (run : Run step s l t) (last : step t a u) :
      Run step s (l ++ [a]) u

namespace Run

variable {step : σ → α → σ → Prop} {s t u : σ} {l l' : List α} {a : α}

theorem single (h : step s a t) : Run step s [a] t := .snoc .nil h

theorem append (h : Run step s l t) (h' : Run step t l' u) : Run step s (l ++ l') u := by
  induction h' with
  | nil => simpa using h
  | snoc _ last ih => rw [← List.append_assoc]; exact .snoc ih last

theorem cons (h : step s a t) (h' : Run step t l u) : Run step s (a :: l) u :=
  (single h).append h'

/-- A run over `l ++ l'` passes through a state between the two parts. -/
theorem split (h : Run step s (l ++ l') u) : ∃ t, Run step s l t ∧ Run step t l' u := by
  induction l' using List.reverseRecOn generalizing u with
  | nil => exact ⟨u, by simpa using h, .nil⟩
  | append_singleton l' a ih =>
    rw [← List.append_assoc] at h
    generalize hl : l ++ l' ++ [a] = w at h
    cases h with
    | nil => simp at hl
    | snoc run last =>
      obtain ⟨hpre, hlast⟩ := List.append_inj' hl rfl
      obtain rfl := List.singleton_inj.mp hlast
      subst hpre
      obtain ⟨t, h₁, h₂⟩ := ih run
      exact ⟨t, h₁, .snoc h₂ last⟩

@[simp] theorem nil_iff : Run step s [] t ↔ t = s := by
  constructor
  · intro h
    generalize hl : ([] : List α) = w at h
    cases h with
    | nil => rfl
    | snoc => simp at hl
  · rintro rfl
    exact .nil

@[simp] theorem cons_iff : Run step s (a :: l) u ↔ ∃ t, step s a t ∧ Run step t l u := by
  constructor
  · intro h
    generalize hw : a :: l = w at h
    induction h generalizing l with
    | nil => simp at hw
    | @snoc l₀ t u b run last ih =>
      cases l₀ with
      | nil =>
        obtain ⟨rfl, rfl⟩ : a = b ∧ l = [] := by simpa using hw
        obtain rfl := nil_iff.mp run
        exact ⟨u, last, .nil⟩
      | cons c l₀ =>
        obtain ⟨rfl, rfl⟩ : a = c ∧ l = l₀ ++ [b] := by simpa using hw
        obtain ⟨t', h₁, h₂⟩ := ih rfl
        exact ⟨t', h₁, .snoc h₂ last⟩
  · rintro ⟨t, h₁, h₂⟩
    exact cons h₁ h₂

/-- A property that holds at the start and is kept by every step holds at the end of a run. -/
theorem invariant {I : σ → Prop} (run : Run step s l t) (hinit : I s)
    (hstep : ∀ t a u, I t → step t a u → I u) : I t := by
  induction run with
  | nil => exact hinit
  | snoc _ last ih => exact hstep _ _ _ ih last

/-- Weakening of the step relation. -/
theorem mono {step' : σ → α → σ → Prop} (run : Run step s l t)
    (h : ∀ t a u, step t a u → step' t a u) : Run step' s l t := by
  induction run with
  | nil => exact .nil
  | snoc _ last ih => exact .snoc ih (h _ _ _ last)

/-- A run with other labels. -/
theorem map {step' : σ → β → σ → Prop} {f : α → β} (run : Run step s l t)
    (h : ∀ t a u, step t a u → step' t (f a) u) : Run step' s (l.map f) t := by
  induction run with
  | nil => exact .nil
  | snoc _ last ih =>
    rw [List.map_append]
    exact .snoc ih (h _ _ _ last)

/-- A run whose labels all satisfy a property is one of the steps with such labels. -/
theorem restrict {P : α → Prop} (run : Run step s l t) (h : ∀ a ∈ l, P a) :
    Run (fun t a u => step t a u ∧ P a) s l t := by
  induction run with
  | nil => exact .nil
  | snoc _ last ih =>
    exact .snoc (ih fun a ha => h a (List.mem_append_left _ ha))
      ⟨last, h _ (List.mem_append_right _ List.mem_cons_self)⟩

/-- The invariant rule for runs whose labels all satisfy a property. -/
theorem invariant_on {I : σ → Prop} {P : α → Prop} (run : Run step s l t) (hinit : I s)
    (h : ∀ a ∈ l, P a) (hstep : ∀ t a u, I t → P a → step t a u → I u) : I t := by
  refine (run.restrict h).invariant hinit fun t a u hI hlast => ?_
  exact hstep t a u hI hlast.2 hlast.1

/-- What every step says about its label holds of all labels of a run. -/
theorem forall_labels {P : α → Prop} (run : Run step s l t) (h : ∀ t a u, step t a u → P a) :
    ∀ a ∈ l, P a := by
  induction run with
  | nil => simp
  | snoc _ last ih =>
    intro a ha
    rcases List.mem_append.mp ha with ha | ha
    · exact ih a ha
    · exact List.mem_singleton.mp ha ▸ h _ _ _ last

/-- A run over some of the labels is a run over all of them, if the others do nothing. -/
theorem of_filterMap {step : σ → β → σ → Prop} {step' : σ → α → σ → Prop} {f : α → Option β}
    (hidle : ∀ s a, f a = none → step' s a s)
    (hstep : ∀ s a b t, f a = some b → step s b t → step' s a t)
    (run : Run step s (l.filterMap f) t) : Run step' s l t := by
  induction l using List.reverseRecOn generalizing t with
  | nil =>
    obtain rfl : t = s := by simpa using run
    exact .nil
  | append_singleton l a ih =>
    rw [List.filterMap_append] at run
    obtain ⟨u, hbefore, hlast⟩ := run.split
    refine .snoc (ih hbefore) ?_
    cases ha : f a with
    | none =>
      obtain rfl : t = u := by simpa [ha] using hlast
      exact hidle t a ha
    | some b => exact hstep u a b t ha (by simpa [ha] using hlast)

/-- A list of inputs that a function carries out, each by a step, is a run. -/
theorem of_foldlM {step : σ → β × τ → σ → Prop} {f : σ → β → Option σ}
    (hf : ∀ s b s', f s b = some s' → ∃ r, step s (b, r) s')
    {inputs : List β} (h : inputs.foldlM f s = some t) :
    ∃ l, Run step s l t ∧ l.map Prod.fst = inputs := by
  induction inputs generalizing s with
  | nil =>
    obtain rfl : s = t := by simpa using h
    exact ⟨[], .nil, rfl⟩
  | cons b inputs ih =>
    obtain ⟨u, hb, hrest⟩ : ∃ u, f s b = some u ∧ inputs.foldlM f u = some t := by
      simpa [List.foldlM_cons, Option.bind_eq_some_iff] using h
    obtain ⟨r, hstep⟩ := hf s b u hb
    obtain ⟨l, hrun, hinputs⟩ := ih hrest
    exact ⟨(b, r) :: l, .cons hstep hrun, by rw [List.map_cons, hinputs]⟩

/-- Gives inputs to a partial function one after the other, and lists them with its answers. -/
def trace (f : σ → β → Option (σ × τ)) : List β → σ → Option (List (β × τ) × σ)
  | [], s => some ([], s)
  | b :: inputs, s =>
    match f s b with
    | none => none
    | some (s', r) => (trace f inputs s').map fun (l, t) => ((b, r) :: l, t)

/-- What a function that carries out steps traces is a run. -/
theorem of_trace {step : σ → β × τ → σ → Prop} {f : σ → β → Option (σ × τ)}
    (hf : ∀ s b s' r, f s b = some (s', r) → step s (b, r) s') {inputs : List β}
    {l : List (β × τ)} (h : trace f inputs s = some (l, t)) :
    Run step s l t ∧ l.map Prod.fst = inputs := by
  induction inputs generalizing s l with
  | nil =>
    obtain ⟨rfl, rfl⟩ : [] = l ∧ s = t := by simpa [trace] using h
    exact ⟨.nil, rfl⟩
  | cons b inputs ih =>
    unfold trace at h
    cases hb : f s b with
    | none => simp [hb] at h
    | some p =>
      simp only [hb] at h
      obtain ⟨⟨l', t'⟩, htrace, heq⟩ := Option.map_eq_some_iff.mp h
      obtain ⟨rfl, rfl⟩ := Prod.mk.inj heq
      obtain ⟨run, hinputs⟩ := ih htrace
      exact ⟨.cons (hf s b p.1 p.2 hb) run, by rw [List.map_cons, hinputs]⟩

end Run

/-- Forward simulation: when every step with label `a` from related states is matched by a run
over the labels `f a`, every run is matched by a run over the labels of its steps. -/
theorem Run.simulate {step : σ → α → σ → Prop} {step' : τ → β → τ → Prop}
    {R : σ → τ → Prop} {f : α → List β}
    (hsim : ∀ s a t s', R s s' → step s a t → ∃ t', Run step' s' (f a) t' ∧ R t t')
    {s t : σ} {l : List α} {s' : τ} (hR : R s s') (run : Run step s l t) :
    ∃ t', Run step' s' (l.flatMap f) t' ∧ R t t' := by
  induction run with
  | nil => exact ⟨s', .nil, hR⟩
  | snoc _ last ih =>
    obtain ⟨t', hrun, hR'⟩ := ih
    obtain ⟨u', hrun', hR''⟩ := hsim _ _ _ _ hR' last
    exact ⟨u', by simpa using hrun.append hrun', hR''⟩

end Lib
