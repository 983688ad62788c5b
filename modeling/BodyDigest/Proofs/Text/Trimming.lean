import BodyDigest.Text.Basic

/-! Texts that trimming keeps, and what joining makes of them. -/
namespace BodyDigest

/-! ### Blanks -/

/-- All blanks, by number. -/
def blanks : List Nat := [
  9, 10, 11, 12, 13, 28, 29, 30, 31, 32, 0x85, 0xa0, 0x1680, 0x2000, 0x2001, 0x2002, 0x2003,
  0x2004, 0x2005, 0x2006, 0x2007, 0x2008, 0x2009, 0x200a, 0x2028, 0x2029, 0x202f, 0x205f, 0x3000]

theorem blank_listed {c : CodePoint} (h : c.isBlank) : c.val ∈ blanks := by
  unfold CodePoint.isBlank at h
  split at h
  · simp only [Bool.or_eq_true, Bool.and_eq_true, decide_eq_true_eq] at h
    simp only [blanks, List.mem_cons]
    omega
  · simp only [withinRuns, CodePoint.blankBoundaries, withinRunsFrom] at h
    simp only [blanks, List.mem_cons, List.not_mem_nil, or_false]
    simp at h
    omega

/-! ### Texts between blanks -/

/-- A text that trimming does not change. -/
structure Solid (t : Text) : Prop where
  first : ∃ c rest, t = c :: rest ∧ c.isBlank = false
  last : ∃ rest c, t = rest ++ [c] ∧ c.isBlank = false

theorem Solid.ne_nil {t : Text} (h : Solid t) : t ≠ [] := by
  obtain ⟨c, rest, rfl, _⟩ := h.first
  simp

theorem Solid.of_clear {t : Text} (some_text : t ≠ []) (clear : ∀ c ∈ t, c.isBlank = false) :
    Solid t := by
  constructor
  · obtain ⟨c, rest, rfl⟩ := List.exists_cons_of_ne_nil some_text
    exact ⟨c, rest, rfl, clear c (by simp)⟩
  · rcases List.eq_nil_or_concat t with rfl | ⟨rest, c, rfl⟩
    · exact absurd rfl some_text
    · exact ⟨rest, c, by simp, clear c (by simp)⟩

theorem Solid.append {t u : Text} (ht : Solid t) (hu : Solid u) (middle : Text) :
    Solid (t ++ middle ++ u) := by
  constructor
  · obtain ⟨c, rest, rfl, solid⟩ := ht.first
    exact ⟨c, rest ++ middle ++ u, by simp, solid⟩
  · obtain ⟨rest, c, rfl, solid⟩ := hu.last
    exact ⟨t ++ middle ++ rest, c, by simp, solid⟩

namespace Text

theorem trim_solid {t : Text} (h : Solid t) : trim t = t := by
  obtain ⟨c, rest, whole, solid_first⟩ := h.first
  obtain ⟨front, d, ends, solid_last⟩ := h.last
  have left : t.dropWhile CodePoint.isBlank = t := by
    rw [whole, List.dropWhile_cons_of_neg (by simp [solid_first])]
  have right : t.reverse.dropWhile CodePoint.isBlank = t.reverse := by
    rw [ends, List.reverse_append, List.reverse_singleton, List.singleton_append,
      List.dropWhile_cons_of_neg (by simp [solid_last])]
  rw [trim, trimBoth, left, right, List.reverse_reverse]

theorem join_singleton (separator t : Text) : join separator [t] = t :=
  List.intercalate_singleton

theorem join_cons_cons (separator t u : Text) (rest : List Text) :
    join separator (t :: u :: rest) = t ++ separator ++ join separator (u :: rest) :=
  List.intercalate_cons_cons

theorem join_solid {separator : Text} {parts : List Text} (some_parts : parts ≠ [])
    (solid : ∀ t ∈ parts, Solid t) : Solid (join separator parts) := by
  induction parts with
  | nil => exact absurd rfl some_parts
  | cons t rest ih =>
    cases rest with
    | nil =>
      rw [join_singleton]
      exact solid t (by simp)
    | cons u rest =>
      rw [join_cons_cons]
      have tail := ih (by simp) fun x member => solid x (by simp [member])
      exact (solid t (by simp)).append tail separator

end Text

end BodyDigest
