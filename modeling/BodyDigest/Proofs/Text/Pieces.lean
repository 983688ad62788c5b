import Mathlib.Data.List.Basic
import BodyDigest.Text.Basic

/-! The pieces of a list between the elements that separate them, and lists put together from pieces. -/
namespace BodyDigest

variable {α : Type} {p : α → Bool}

theorem pieces_ne_nil (xs : List α) : pieces p xs ≠ [] := by
  cases xs with
  | nil => simp [pieces]
  | cons a rest =>
    rw [pieces]
    split
    · simp
    · split <;> simp

theorem pieces_cons_of_not {a : α} (inside : p a = false) (xs : List α) :
    ∃ first others, pieces p xs = first :: others ∧ pieces p (a :: xs) = (a :: first) :: others := by
  rw [pieces, if_neg (by simp [inside])]
  cases whole : pieces p xs with
  | nil => exact absurd whole (pieces_ne_nil xs)
  | cons first others => exact ⟨first, others, rfl, rfl⟩

theorem mem_pieces_iff {a : α} {xs : List α} (inside : p a = false) :
    (∃ piece ∈ pieces p xs, a ∈ piece) ↔ a ∈ xs := by
  induction xs with
  | nil => simp [pieces]
  | cons b rest ih =>
    by_cases ends : p b
    · have other : a ≠ b := fun same => by simp [← same, inside] at ends
      rw [pieces, if_pos ends, List.mem_cons, or_iff_right other, ← ih]
      simp
    · obtain ⟨first, others, later, whole⟩ := pieces_cons_of_not (Bool.not_eq_true _ ▸ ends) rest
      rw [later] at ih
      rw [whole, List.mem_cons, ← ih]
      simp [or_assoc]

theorem pieces_clear {xs : List α} (clear : ∀ a ∈ xs, p a = false) : pieces p xs = [xs] := by
  induction xs with
  | nil => rfl
  | cons a rest ih =>
    obtain ⟨inside, clear⟩ := List.forall_mem_cons.mp clear
    obtain ⟨first, others, later, whole⟩ := pieces_cons_of_not inside rest
    rw [ih clear] at later
    cases later
    exact whole

theorem pieces_clear_append {xs : List α} {a : α} (clear : ∀ a ∈ xs, p a = false) (ends : p a)
    (ys : List α) : pieces p (xs ++ a :: ys) = xs :: pieces p ys := by
  induction xs with
  | nil => rw [List.nil_append, pieces, if_pos ends]
  | cons b rest ih =>
    obtain ⟨inside, clear⟩ := List.forall_mem_cons.mp clear
    obtain ⟨first, others, later, whole⟩ := pieces_cons_of_not inside (rest ++ a :: ys)
    rw [ih clear] at later
    cases later
    exact whole

theorem pieces_append {a : α} (ends : p a) (xs ys : List α) :
    pieces p (xs ++ a :: ys) = pieces p xs ++ pieces p ys := by
  induction xs with
  | nil => simp [pieces, ends]
  | cons b rest ih =>
    by_cases other : p b
    · rw [List.cons_append, pieces, if_pos other, ih, pieces, if_pos other, List.cons_append]
    · obtain ⟨first, others, later, whole⟩ := pieces_cons_of_not (Bool.not_eq_true _ ▸ other) rest
      rw [List.cons_append, pieces, if_neg other, ih, later, whole]
      rfl

/-- Texts that hold no separator are the pieces of what they make together. -/
theorem pieces_join {separator : CodePoint} {parts : List Text} (some_parts : parts ≠ [])
    (clear : ∀ part ∈ parts, separator ∉ part) :
    pieces (· = separator) (Text.join [separator] parts) = parts := by
  have plain : ∀ part : Text, separator ∉ part → ∀ c ∈ part, decide (c = separator) = false := by
    intro part absent c member
    exact decide_eq_false fun same => absent (same ▸ member)
  induction parts with
  | nil => exact absurd rfl some_parts
  | cons part rest ih =>
    obtain ⟨here, clear⟩ := List.forall_mem_cons.mp clear
    cases rest with
    | nil =>
      rw [Text.join, List.intercalate_singleton]
      exact pieces_clear (plain part here)
    | cons next more =>
      rw [Text.join, List.intercalate_cons_cons, List.append_assoc, List.singleton_append,
        pieces_clear_append (plain part here) (decide_eq_true rfl)]
      exact congrArg _ (ih (by simp) clear)

end BodyDigest
