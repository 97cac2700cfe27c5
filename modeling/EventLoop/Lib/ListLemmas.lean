import Mathlib.Data.List.Sort
import Mathlib.Data.List.TakeWhile
import Mathlib.Data.Set.Card

/-!
# Lists

Facts about `takeWhile`, `filter` and `orderedInsert` that the list library does not have, the
order in which a list stands that is filled by stable insertion, and the size of a set that a list
enumerates.
-/

namespace Lib

variable {α : Type}

theorem takeWhile_congr {p q : α → Bool} {l : List α} (h : ∀ a ∈ l, p a = q a) :
    l.takeWhile p = l.takeWhile q := by
  induction l with
  | nil => rfl
  | cons a l ih =>
    rw [List.takeWhile_cons, List.takeWhile_cons, h a List.mem_cons_self,
      ih fun b hb => h b (List.mem_cons_of_mem _ hb)]

theorem dropWhile_congr {p q : α → Bool} {l : List α} (h : ∀ a ∈ l, p a = q a) :
    l.dropWhile p = l.dropWhile q := by
  induction l with
  | nil => rfl
  | cons a l ih =>
    rw [List.dropWhile_cons, List.dropWhile_cons, h a List.mem_cons_self,
      ih fun b hb => h b (List.mem_cons_of_mem _ hb)]

/-- An entry that comes before no other goes to the end. -/
theorem orderedInsert_eq_append {r : α → α → Prop} [DecidableRel r] {a : α} {l : List α}
    (h : ∀ b ∈ l, ¬ r a b) : l.orderedInsert r a = l ++ [a] := by
  induction l with
  | nil => rfl
  | cons b l ih =>
    rw [List.orderedInsert_of_not_le _ _ (h b List.mem_cons_self),
      ih fun c hc => h c (List.mem_cons_of_mem _ hc), List.cons_append]

theorem orderedInsert_congr {r r' : α → α → Prop} [DecidableRel r] [DecidableRel r'] {a : α}
    {l : List α} (h : ∀ b ∈ l, r a b ↔ r' a b) : l.orderedInsert r a = l.orderedInsert r' a := by
  induction l with
  | nil => rfl
  | cons b l ih =>
    have hb := h b List.mem_cons_self
    rw [List.orderedInsert_cons, List.orderedInsert_cons, ih fun c hc =>
      h c (List.mem_cons_of_mem _ hc)]
    simp only [hb]

/-- When the entries that satisfy `p` come first, taking them from the front takes them all. -/
theorem takeWhile_eq_filter {p : α → Bool} {l : List α}
    (h : l.Pairwise fun a b => p b = true → p a = true) : l.takeWhile p = l.filter p := by
  induction l with
  | nil => rfl
  | cons a l ih =>
    obtain ⟨ha, hl⟩ := List.pairwise_cons.mp h
    cases hp : p a with
    | true => simp [hp, ih hl]
    | false =>
      have hnone : ∀ b ∈ l, ¬ p b = true := by
        intro b hb hpb
        simp [ha b hb hpb] at hp
      simp [hp, List.filter_eq_nil_iff.mpr hnone]

theorem dropWhile_eq_filter {p : α → Bool} {l : List α}
    (h : l.Pairwise fun a b => p b = true → p a = true) :
    l.dropWhile p = l.filter fun a => !p a := by
  induction l with
  | nil => rfl
  | cons a l ih =>
    obtain ⟨ha, hl⟩ := List.pairwise_cons.mp h
    cases hp : p a with
    | true => simp [hp, ih hl]
    | false =>
      have hall : ∀ b ∈ l, (!p b) = true := by
        intro b hb
        cases hpb : p b with
        | true => simp [ha b hb hpb] at hp
        | false => rfl
      simp [hp, List.filter_eq_self.mpr hall]

/-- A key that occurs once selects one element. -/
theorem filter_eq_singleton_of_nodup {β : Type} [DecidableEq β] {f : α → β} {l : List α} {a : α}
    (hl : (l.map f).Nodup) (ha : a ∈ l) : l.filter (fun b => f b = f a) = [a] := by
  induction l with
  | nil => cases ha
  | cons b l ih =>
    obtain ⟨hb, hl⟩ := List.nodup_cons.mp hl
    rcases List.mem_cons.mp ha with rfl | ha
    · have hnone : l.filter (fun b => f b = f a) = [] := by
        refine List.filter_eq_nil_iff.mpr fun c hc => ?_
        simpa using fun h : f c = f a => hb (List.mem_map.mpr ⟨c, hc, h⟩)
      simp [hnone]
    · have hne : f b ≠ f a := fun h => hb (List.mem_map.mpr ⟨a, ha, h.symm⟩)
      simpa [hne] using ih hl ha

/-- Where keys do not repeat, to erase the first entry with a key is to erase them all. -/
theorem eraseP_eq_filter_of_nodup {β : Type} [DecidableEq β] {f : α → β} {l : List α}
    (hl : (l.map f).Nodup) (b : β) :
    l.eraseP (fun a => f a = b) = l.filter fun a => f a ≠ b := by
  induction l with
  | nil => rfl
  | cons a l ih =>
    obtain ⟨ha, hl⟩ := List.nodup_cons.mp hl
    by_cases hb : f a = b
    · have hrest : l.filter (fun a => f a ≠ b) = l := by
        refine List.filter_eq_self.mpr fun c hc => ?_
        simpa using fun h : f c = b => ha (List.mem_map.mpr ⟨c, hc, h.trans hb.symm⟩)
      rw [List.eraseP_cons_of_pos (by simpa using hb), List.filter_cons_of_neg (by simpa using hb),
        hrest]
    · rw [List.eraseP_cons_of_neg (by simpa using hb), List.filter_cons_of_pos (by simpa using hb),
        ih hl]

/-- In a list ordered by `key`, the entries up to `m` are those up to `n` and then those between. -/
theorem filter_le_append {key : α → ℕ} {l : List α} (h : l.Pairwise fun a b => key a ≤ key b)
    {n m : ℕ} (hnm : n ≤ m) : l.filter (fun a => key a ≤ m)
      = l.filter (fun a => key a ≤ n) ++ (l.filter fun a => n < key a).filter
          fun a => key a ≤ m := by
  have hprefix : l.Pairwise fun a b => decide (key b ≤ n) = true → decide (key a ≤ n) = true := by
    refine h.imp fun {a b} hab => ?_
    simp only [decide_eq_true_eq]
    omega
  have hdrop : l.filter (fun a => n < key a) = l.dropWhile fun a => key a ≤ n := by
    rw [dropWhile_eq_filter hprefix]
    refine List.filter_congr fun a _ => ?_
    rw [← decide_not, decide_eq_decide, not_le]
  have htake : (l.filter fun a => key a ≤ n).filter (fun a => key a ≤ m)
      = l.filter fun a => key a ≤ n := by
    refine List.filter_eq_self.mpr fun a ha => ?_
    have hle : key a ≤ n := by simpa using (List.mem_filter.mp ha).2
    simpa using hle.trans hnm
  calc l.filter (fun a => key a ≤ m)
      = (l.takeWhile (fun a => key a ≤ n) ++ l.dropWhile fun a => key a ≤ n).filter
          fun a => key a ≤ m := by rw [List.takeWhile_append_dropWhile]
    _ = _ := by rw [List.filter_append, takeWhile_eq_filter hprefix, htake, hdrop]

/-- Ordered by `key`, and by `ticket` among equal keys. -/
def StableBefore (key ticket : α → ℕ) (a b : α) : Prop :=
  key a < key b ∨ (key a = key b ∧ ticket a < ticket b)

/-- A new entry in front of the first one with a greater key comes after its equals. -/
theorem orderedInsert_stable {key ticket : α → ℕ} {a : α} {l : List α}
    (hordered : l.Pairwise (StableBefore key ticket)) (hticket : ∀ b ∈ l, ticket b < ticket a) :
    (l.orderedInsert (fun a b => key a < key b) a).Pairwise (StableBefore key ticket) := by
  induction l with
  | nil => simp
  | cons b l ih =>
    obtain ⟨hb, hl⟩ := List.pairwise_cons.mp hordered
    by_cases hlt : key a < key b
    · rw [List.orderedInsert_cons, if_pos hlt]
      refine List.pairwise_cons.mpr ⟨fun c hc => ?_, hordered⟩
      rcases List.mem_cons.mp hc with rfl | hc
      · exact Or.inl hlt
      · rcases hb c hc with hbc | ⟨hbc, -⟩
        · exact Or.inl (hlt.trans hbc)
        · exact Or.inl (hbc ▸ hlt)
    · rw [List.orderedInsert_cons, if_neg hlt]
      refine List.pairwise_cons.mpr ⟨fun c hc => ?_, ih hl fun c hc =>
        hticket c (List.mem_cons_of_mem _ hc)⟩
      rcases (List.mem_orderedInsert _).mp hc with rfl | hc
      · have hticket := hticket b List.mem_cons_self
        rcases (not_lt.mp hlt).lt_or_eq with hbc | hbc
        · exact Or.inl hbc
        · exact Or.inr ⟨hbc, hticket⟩
      · exact hb c hc

/-- Two entries stand in a list in the order that all of its pairs have. -/
theorem pair_sublist_of_pairwise {r : α → α → Prop} {l : List α} (hl : l.Pairwise r) {a b : α}
    (ha : a ∈ l) (hb : b ∈ l) (hne : a ≠ b) (hba : ¬ r b a) : [a, b].Sublist l := by
  induction l with
  | nil => cases ha
  | cons c l ih =>
    obtain ⟨hc, hl⟩ := List.pairwise_cons.mp hl
    rcases List.mem_cons.mp ha with rfl | ha'
    · have hbl := (List.mem_cons.mp hb).resolve_left hne.symm
      exact (List.singleton_sublist.mpr hbl).cons_cons a
    · rcases List.mem_cons.mp hb with rfl | hb'
      · exact absurd (hc a ha') hba
      · exact (ih hl ha' hb').cons c

/-- A new entry comes after those whose key is not greater. -/
theorem pair_sublist_orderedInsert {key : α → ℕ} {l : List α}
    (hl : l.Pairwise fun a b => key a ≤ key b) {a b : α} (ha : a ∈ l) (hab : key a ≤ key b) :
    [a, b].Sublist (l.orderedInsert (fun a b => key a < key b) b) := by
  induction l with
  | nil => cases ha
  | cons c l ih =>
    obtain ⟨hc, hl⟩ := List.pairwise_cons.mp hl
    have hca : key c ≤ key a := by
      rcases List.mem_cons.mp ha with rfl | ha
      · exact le_rfl
      · exact hc a ha
    rw [List.orderedInsert_cons, if_neg (by omega)]
    rcases List.mem_cons.mp ha with rfl | ha
    · exact (List.singleton_sublist.mpr ((List.mem_orderedInsert _).mpr (Or.inl rfl))).cons_cons a
    · exact (ih hl ha).cons c

/-- Of two entries that stand in a list in this order, the second is not its first entry. -/
theorem head_ne_of_pair_sublist {l : List α} {a b c : α} (hl : (c :: l).Nodup)
    (h : [a, b].Sublist (c :: l)) : b ≠ c := by
  rintro rfl
  refine (List.nodup_cons.mp hl).1 ?_
  cases h with
  | cons _ h => exact h.subset (by simp)
  | cons_cons _ h => exact h.subset (by simp)

/-- A traversal without effects on the entries of the list is a `List.map`. -/
theorem mapM_eq_pure {β : Type} {m : Type → Type} [Monad m] [LawfulMonad m] {f : α → m β}
    {g : α → β} {l : List α} (h : ∀ a ∈ l, f a = pure (g a)) : l.mapM f = pure (l.map g) := by
  induction l with
  | nil => simp
  | cons a l ih =>
    rw [List.mapM_cons, h a List.mem_cons_self, ih fun b hb => h b (List.mem_cons_of_mem _ hb)]
    simp

/-! ## Lists that are related entry by entry -/

/-- A set is as large as a list of its elements without duplicates. -/
theorem ncard_eq_length {S : Set α} {l : List α} (hl : l.Nodup) (hmem : ∀ a, a ∈ l ↔ a ∈ S) :
    S.Finite ∧ S.ncard = l.length := by
  classical
  have hS : S = (l.toFinset : Set α) := by
    ext a
    rw [List.coe_toFinset]
    exact (hmem a).symm
  rw [hS, Set.ncard_coe_finset, List.toFinset_card_of_nodup hl]
  exact ⟨Finset.finite_toSet _, rfl⟩

/-- A set is as large as a list that has each of its elements once. -/
theorem ncard_eq_length_of_count [DecidableEq α] {S : Set α} {l : List α}
    (hcount : ∀ a ∈ S, l.count a = 1) (hmem : ∀ a ∈ l, a ∈ S) :
    S.Finite ∧ S.ncard = l.length := by
  refine ncard_eq_length (List.nodup_iff_count_le_one.mpr fun a => ?_)
    fun a => ⟨hmem a, fun ha => ?_⟩
  · by_cases ha : a ∈ l
    · exact (hcount a (hmem a ha)).le
    · rw [List.count_eq_zero.mpr ha]
      exact Nat.zero_le 1
  · refine List.count_pos_iff.mp ?_
    rw [hcount a ha]
    exact Nat.one_pos

end Lib
