import Mathlib.Tactic.Tauto
import BodyDigest.Text.Identifier

/-!
Identifiers by their characters: the first one may start an identifier, and each may stand in one.
-/
namespace BodyDigest

/-! ### Tables inside one another -/

/-- Walks through the boundaries of two sets together, and tells whether the first set is nowhere
left while the second one is. -/
def includesFrom : Nat → Bool → Bool → List Nat → List Nat → Bool
  | 0, _, _, _, _ => false
  | _ + 1, inner, outer, [], [] => !inner || outer
  | n + 1, inner, outer, _ :: xs, [] => (!inner || outer) && includesFrom n (!inner) outer xs []
  | n + 1, inner, outer, [], _ :: ys => (!inner || outer) && includesFrom n inner (!outer) [] ys
  | n + 1, inner, outer, x :: xs, y :: ys =>
    (!inner || outer) &&
      if x < y then includesFrom n (!inner) outer xs (y :: ys)
      else if y < x then includesFrom n inner (!outer) (x :: xs) ys
      else includesFrom n (!inner) (!outer) xs ys

theorem withinRunsFrom_of_includes {steps : Nat} {inner outer : Bool} {xs ys : List Nat}
    (included : includesFrom steps inner outer xs ys) (n : Nat)
    (within : withinRunsFrom inner xs n) : withinRunsFrom outer ys n := by
  induction steps generalizing inner outer xs ys with
  | zero => simp [includesFrom] at included
  | succ m ih =>
    -- At each boundary one of the walks turns, or both do; the earlier one decides below it.
    cases xs <;> cases ys <;> grind [includesFrom, withinRunsFrom]

namespace CodePoint

theorem identifier_tables :
    includesFrom 2000 false false identifierStartBoundaries identifierPartBoundaries := by
  decide +kernel

theorem part_of_start {c : CodePoint} (h : c.isIdentifierStart) : c.isIdentifierPart := by
  unfold isIdentifierStart at h
  unfold isIdentifierPart
  split at h
  · rename_i ascii
    rw [if_pos ascii]
    simp only [Bool.or_eq_true] at h ⊢
    tauto
  · rename_i other
    rw [if_neg other]
    exact withinRunsFrom_of_includes identifier_tables _ h

end CodePoint

namespace Text

theorem isIdentifier_iff {t : Text} :
    t.isIdentifier ↔ t.head?.any CodePoint.isIdentifierStart ∧ ∀ c ∈ t, c.isIdentifierPart := by
  cases t with
  | nil => simp [isIdentifier]
  | cons c rest =>
    simp only [isIdentifier, Bool.and_eq_true, List.all_eq_true, List.head?_cons, Option.any_some,
      List.forall_mem_cons]
    constructor
    · rintro ⟨start, parts⟩
      exact ⟨start, CodePoint.part_of_start start, parts⟩
    · rintro ⟨start, -, parts⟩
      exact ⟨start, parts⟩

end Text

end BodyDigest
