import BodyDigest.Proofs.Text.Trimming
import BodyDigest.Proofs.Braced.Separation

/-! Tokens start and end with something other than a blank, so that trimming keeps them. -/
namespace BodyDigest

namespace Braced.Lexeme

/-! ### Blanks -/

theorem plain_of_blank {c : CodePoint} (h : c.isBlank) : isPlain c := by
  obtain ⟨digit, word, _⟩ := blank_stops h
  simp [isPlain, digit, startsWord, word, blank_ne h (c := .char '"') rfl,
    blank_ne h (c := .char '\'') rfl, blank_ne h (c := .char '$') rfl,
    blank_ne h (c := .char '@') rfl]

theorem decimal_not_blank {c : CodePoint} (h : c.isDecimal) : c.isBlank = false := by
  rw [Bool.eq_false_iff]
  intro blank
  rw [(blank_stops blank).1] at h
  cases h

theorem word_not_blank {c : CodePoint} (h : c.isWord) : c.isBlank = false := by
  rw [Bool.eq_false_iff]
  intro blank
  rw [(blank_stops blank).2.1] at h
  cases h

/-! ### Tokens without blanks -/

/-- None of the first `n` code points is a blank. -/
def ClearUpTo (n : Nat) (t : Text) : Prop := ∀ c ∈ t.take n, c.isBlank = false

theorem clear_add {t : Text} {m n : Nat} (front : ClearUpTo m t) (back : ClearUpTo n (t.drop m)) :
    ClearUpTo (m + n) t := by
  intro c member
  rw [List.take_add, List.mem_append] at member
  rcases member with member | member
  · exact front c member
  · exact back c member

theorem clear_run {p : CodePoint → Bool} (clear : ∀ c, p c → c.isBlank = false) (t : Text) :
    ClearUpTo (t.takeWhile p).length t := by
  intro c member
  exact clear c (mem_run member)

theorem clear_digits (t : Text) : ClearUpTo (digits t) t := clear_run (fun _ => decimal_not_blank) t

theorem clear_cons {c : CodePoint} {t : Text} {n : Nat} (solid : c.isBlank = false)
    (clear : ClearUpTo n t) : ClearUpTo (n + 1) (c :: t) := by
  intro d member
  rw [List.take_succ_cons, List.mem_cons] at member
  rcases member with rfl | member
  · exact solid
  · exact clear d member

theorem clear_zero (t : Text) : ClearUpTo 0 t := by
  intro c member
  simp at member

theorem clear_fraction (t : Text) : ClearUpTo (fractionLength t) t := by
  unfold fractionLength
  split
  · rename_i rest
    split
    · exact clear_zero _
    · rw [Nat.add_comm]
      exact clear_cons rfl (clear_digits rest)
  · exact clear_zero t

theorem clear_exponent (t : Text) : ClearUpTo (exponentLength t) t := by
  cases t with
  | nil => exact clear_zero []
  | cons e t =>
    rw [exponentLength_cons]
    split
    · rename_i marked
      split
      · exact clear_zero _
      · have solid : e.isBlank = false := by
          simp only [Bool.or_eq_true, decide_eq_true_eq] at marked
          rcases marked with rfl | rfl <;> rfl
        have sign : ClearUpTo (min 1 (t.takeWhile isSign).length) t := by
          intro c member
          have run : c ∈ t.take (t.takeWhile isSign).length :=
            (List.take_sublist_take_left (by omega)).subset member
          have signed := mem_run run
          simp only [isSign, Bool.or_eq_true, decide_eq_true_eq] at signed
          rcases signed with rfl | rfl <;> rfl
        rw [Nat.add_assoc, Nat.add_comm 1]
        exact clear_cons solid (clear_add sign (clear_digits _))
    · exact clear_zero _

theorem clear_number {t : Text} {n : Nat} (h : number? t = some n) : ClearUpTo n t := by
  obtain ⟨_, f, e, rfl, rfl, rfl⟩ := number?_iff.1 h
  refine clear_add (clear_add (clear_add (clear_digits t) (clear_fraction _)) ?_) ?_
  · exact clear_exponent _
  · exact clear_run (fun _ => word_not_blank) _

theorem continuesWord_not_blank (c : CodePoint) (h : continuesWord c) : c.isBlank = false := by
  simp only [continuesWord, Bool.or_eq_true, decide_eq_true_eq] at h
  rcases h with word | rfl
  · exact word_not_blank word
  · rfl

theorem clear_word {t : Text} {n : Nat} (h : word? t = some n) : ClearUpTo n t := by
  have starts_clear {c : CodePoint} (starts : startsWord c) : c.isBlank = false := by
    simp only [startsWord, Bool.and_eq_true] at starts
    exact word_not_blank starts.1
  obtain ⟨c, rest, rfl, starts, rfl⟩ | ⟨c, rest, rfl, starts, rfl⟩ | ⟨rest, rfl, rfl⟩ :=
    word?_cases h
  · exact clear_cons rfl (clear_cons (starts_clear starts) (clear_run continuesWord_not_blank rest))
  · exact clear_cons (starts_clear starts) (clear_run continuesWord_not_blank rest)
  · exact clear_cons rfl (clear_zero rest)

theorem clear_operator {t : Text} {n : Nat} (h : operator? t = some n) : ClearUpTo n t := by
  obtain ⟨o, member, front, rfl, _⟩ := operator?_cases h
  intro c inside
  rw [← List.prefix_iff_eq_take.1 front] at inside
  exact (operators_form o member).2.2.1 c inside

theorem solid_of_clear {t : Text} {n : Nat} (clear : ClearUpTo n t) (some_points : 0 < n)
    (within : n ≤ t.length) : Solid (t.take n) := by
  have long : t.take n ≠ [] := by
    intro empty
    have count := congrArg List.length empty
    simp only [List.length_take, List.length_nil] at count
    omega
  exact .of_clear long clear

theorem measure_blank {c : CodePoint} (h : c.isBlank) (t : Text) :
    measure (c :: t) = (.blank, (t.takeWhile CodePoint.isBlank).length + 1) := by
  have slash : c ≠ .char '/' := by
    rintro rfl
    cases h
  obtain ⟨literal, number, word⟩ := plain_starts_nothing (plain_of_blank h) t
  have operator : operator? (c :: t) = none := by
    cases found : operator? (c :: t) with
    | none => rfl
    | some n =>
      obtain ⟨o, member, front, _, _⟩ := operator?_cases found
      obtain ⟨_, long, clear, _⟩ := operators_form o member
      have inside : c ∈ o := by
        cases o with
        | nil => simp at long
        | cons d o => simp [(List.cons_prefix_cons.1 front).1]
      rw [clear c inside] at h
      cases h
  have run : blank? (c :: t) = some ((t.takeWhile CodePoint.isBlank).length + 1) := by
    simp [blank?, h]
  simp [measure, comment?_head slash, literal, number, word, operator, run]

/-- A token takes at least one code point of its text, and trimming keeps it. -/
theorem measure_solid {c : CodePoint} {t : Text} {k : Kind} {n : Nat}
    (measured : measure (c :: t) = (k, n)) (comment : k ≠ .comment) (blank : k ≠ .blank)
    (quoted : Quoted ((c :: t).drop n)) :
    0 < n ∧ n ≤ (c :: t).length ∧ Solid ((c :: t).take n) := by
  have first : c.isBlank = false := by
    rw [Bool.eq_false_iff]
    intro blank_c
    cases measured.symm.trans (measure_blank blank_c t)
    exact blank rfl
  obtain ⟨m, _, kind⟩ | ⟨m, _, read, kind⟩ | ⟨m, _, read, kind⟩ | ⟨m, _, _, read, kind⟩ |
    ⟨m, read, kind⟩ | ⟨m, _, kind⟩ | ⟨_, number, word, blank_c, kind⟩ := measure_cases (c :: t) <;>
    cases measured.symm.trans kind
  · exact absurd rfl comment
  · obtain ⟨body, ⟨after, whole⟩, rfl, ⟨inner, quote, form, which⟩, _⟩ |
      ⟨body, after, whole, _, rfl, clear⟩ := literal?_cases read
    · have solid : quote.isBlank = false := by
        rcases which with rfl | rfl <;> rfl
      rw [whole, List.take_left]
      subst form
      refine ⟨by simp, by simp, ?_, ⟨inner, quote, rfl, solid⟩⟩
      cases inner with
      | nil => exact ⟨quote, [], rfl, solid⟩
      | cons d inner =>
        cases (List.cons.inj whole).1
        exact ⟨c, inner ++ [quote], rfl, first⟩
    · rw [whole, List.drop_left] at quoted
      exact absurd quoted (not_quoted_of_short (shortEnd?_clear clear) 0)
  · have bounds := number?_le read
    exact ⟨bounds.1, bounds.2, solid_of_clear (clear_number read) bounds.1 bounds.2⟩
  · have bounds := word?_le read
    exact ⟨bounds.1, bounds.2, solid_of_clear (clear_word read) bounds.1 bounds.2⟩
  · have bounds := operator?_le read
    exact ⟨bounds.1, bounds.2, solid_of_clear (clear_operator read) bounds.1 bounds.2⟩
  · exact absurd rfl blank
  · exact ⟨by omega, by simp, solid_of_clear (clear_cons first (clear_zero t)) (by omega) (by simp)⟩

end Braced.Lexeme

end BodyDigest
