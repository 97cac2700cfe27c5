import Mathlib.Data.List.Sort
import Mathlib.Data.List.TakeWhile

/-!
# The list interface of `ns_list.h`

The sources keep every queue in the intrusive lists of `ns_list.h`, a library outside this
repository. What they rely on is collected in the class `NsList`: a list is known by the
sequence of its entries (the order `ns_list_foreach` visits them in), and each operation has
its effect only under its documented precondition: an entry is removed from a list it is on,
and a new entry goes in front of an entry of the list.

`NsList.sequence` is the list library on plain sequences, for evaluating the model.
-/

namespace EventLoop

/-- The operations of `ns_list.h` that the event loop calls, with their effect on the
sequence of entries. -/
class NsList where
  /-- `ns_list_add_to_start(list, entry)` -/
  addToStart {α : Type} : List α → α → List α
  /-- `ns_list_add_to_end(list, entry)` -/
  addToEnd {α : Type} : List α → α → List α
  /-- `ns_list_add_before(list, before, entry)` -/
  addBefore {α : Type} [DecidableEq α] : List α → α → α → List α
  /-- `ns_list_remove(list, entry)` -/
  remove {α : Type} [DecidableEq α] : List α → α → List α
  addToStart_eq {α : Type} (l : List α) (a : α) : addToStart l a = a :: l
  addToEnd_eq {α : Type} (l : List α) (a : α) : addToEnd l a = l ++ [a]
  addBefore_eq {α : Type} [DecidableEq α] (l₁ l₂ : List α) (before a : α) (h : before ∉ l₁) :
    addBefore (l₁ ++ before :: l₂) before a = l₁ ++ a :: before :: l₂
  remove_eq {α : Type} [DecidableEq α] (l : List α) (a : α) (h : a ∈ l) : remove l a = l.erase a

namespace NsList

attribute [simp] addToStart_eq addToEnd_eq

/-- The list library on plain sequences. -/
instance sequence : NsList where
  addToStart l a := a :: l
  addToEnd l a := l ++ [a]
  addBefore l before a := l.takeWhile (· ≠ before) ++ a :: l.dropWhile (· ≠ before)
  remove l a := l.erase a
  addToStart_eq _ _ := rfl
  addToEnd_eq _ _ := rfl
  addBefore_eq l₁ l₂ before a h := by
    have hne : ∀ b ∈ l₁, decide (b ≠ before) = true := by
      intro b hb
      simpa using fun heq : b = before => h (heq ▸ hb)
    rw [List.takeWhile_append_of_pos hne, List.dropWhile_append_of_pos hne]
    simp
  remove_eq _ _ _ := rfl

variable [NsList]

/-- The insertion loop of the sources: `ns_list_foreach` up to the first entry that has to come
after `a`, `ns_list_add_before` in front of it, or `ns_list_add_to_end` when there is none. -/
theorem addBefore_find {α : Type} [DecidableEq α] (r : α → α → Prop) [DecidableRel r] (a : α)
    (l : List α) :
    (match l.find? (fun b => r a b) with
      | some b => addBefore l b a
      | none => addToEnd l a) = l.orderedInsert r a := by
  cases hfind : l.find? (fun b => r a b) with
  | none =>
    have hnone : ∀ b ∈ l, decide (¬ r a b) = true := by
      intro b hb
      simpa using List.find?_eq_none.mp hfind b hb
    rw [List.orderedInsert_eq_take_drop, List.takeWhile_eq_self_iff.mpr hnone,
      List.dropWhile_eq_nil_iff.mpr hnone]
    simp
  | some b =>
    obtain ⟨hb, l₁, l₂, rfl, hbefore⟩ := List.find?_eq_some_iff_append.mp hfind
    have hrb : r a b := by simpa using hb
    have hpre : ∀ c ∈ l₁, decide (¬ r a c) = true := by
      intro c hc
      simpa using hbefore c hc
    have hnot : b ∉ l₁ := by
      intro hmem
      exact absurd hrb (by simpa using hpre b hmem)
    rw [List.orderedInsert_eq_take_drop, List.takeWhile_append_of_pos hpre,
      List.dropWhile_append_of_pos hpre]
    simp [addBefore_eq _ _ _ _ hnot, hrb]

end NsList
end EventLoop
