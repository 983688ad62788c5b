import BodyDigest.Braced.Lexeme
import BodyDigest.Proofs.Text.Trimming

/-!
Where literals end. A literal that is closed by a quote of its own is the same literal whatever
follows it, unless that is one more quote.
-/
namespace BodyDigest.Braced.Lexeme

/-! ### Blanks -/

/-- The code points that stand between the tokens of a canonical text. -/
def Separates (s : CodePoint) : Prop := s = .char ' ' ∨ s = .char '\n'

theorem separates_blank {s : CodePoint} (h : Separates s) : s.isBlank := by
  rcases h with rfl | rfl <;> decide

theorem blank_ne {s c : CodePoint} (h : s.isBlank) (solid : c.isBlank = false) : s ≠ c := by
  rintro rfl
  rw [h] at solid
  cases solid

theorem blank_stops {s : CodePoint} (h : s.isBlank) :
    s.isDecimal = false ∧ s.isWord = false ∧ continuesWord s = false := by
  have numbered : ∀ v ∈ blanks, (CodePoint.char (Char.ofNat v)).val = v := by
    decide
  have listed : s ∈ blanks.map fun v => CodePoint.char (Char.ofNat v) := by
    have same := CodePoint.val_injective (numbered s.val (blank_listed h))
    exact List.mem_map.2 ⟨s.val, blank_listed h, same⟩
  have stops : ∀ d ∈ blanks.map fun v => CodePoint.char (Char.ofNat v),
      d.isDecimal = false ∧ d.isWord = false ∧ continuesWord d = false := by
    decide +kernel
  exact stops s listed

section Runs

variable {p : CodePoint → Bool} {s : CodePoint}

theorem run_cut (stop : p s = false) (t rest : Text) (n : Nat) :
    ((t.take n ++ s :: rest).takeWhile p).length = min n (t.takeWhile p).length := by
  induction t generalizing n with
  | nil => simp [stop]
  | cons c t ih =>
    cases n with
    | zero => simp [stop]
    | succ n =>
      by_cases keep : p c
      · simp only [List.take_succ_cons, List.cons_append, List.takeWhile_cons_of_pos keep,
          List.length_cons, ih n]
        omega
      · simp [List.takeWhile_cons_of_neg keep]

theorem run_length_le (t : Text) : (t.takeWhile p).length ≤ t.length :=
  (List.takeWhile_sublist p).length_le

theorem mem_run {t : Text} {c : CodePoint} (member : c ∈ t.take (t.takeWhile p).length) : p c := by
  rw [← List.prefix_iff_eq_take.1 (List.takeWhile_prefix p)] at member
  exact List.all_eq_true.1 List.all_takeWhile c member

theorem drop_cut {t : Text} {m n : Nat} (rest : Text) (before : m ≤ n) (within : m ≤ t.length) :
    (t.take n ++ s :: rest).drop m = (t.drop m).take (n - m) ++ s :: rest := by
  rw [List.drop_append_of_le_length (by simp; omega), List.drop_take]

/-- What starts a text that was cut, and does not hold the code point behind the cut, is in front of
the cut. -/
theorem prefix_of_cut {front t rest : Text} {n : Nat} (h : front <+: t.take n ++ s :: rest)
    (clear : s ∉ front) : front <+: t.take n := by
  have short : front.length ≤ (t.take n).length := by
    refine Nat.le_of_not_lt fun long => clear ?_
    have reaches : t.take n ++ [s] <+: front :=
      List.prefix_of_prefix_length_le ⟨rest, by simp⟩ h (by simp at long ⊢; omega)
    exact reaches.subset (by simp)
  exact List.prefix_of_prefix_length_le h (List.prefix_append _ _) short

theorem cutAt?_eq {pattern t before after : Text} (h : cutAt? pattern t = some (before, after)) :
    t = before ++ pattern ++ after ∧ ∀ other, cutAt? pattern (before ++ pattern ++ other) =
      some (before, other) := by
  induction t generalizing before with
  | nil =>
    unfold cutAt? at h
    split at h
    · rename_i empty
      cases h
      have empty : pattern = [] := List.isEmpty_iff.1 empty
      subst empty
      refine ⟨rfl, ?_⟩
      intro other
      cases other <;> simp [cutAt?]
    · cases h
  | cons c t ih =>
    unfold cutAt? at h
    split at h
    · rename_i here
      cases h
      obtain ⟨tail, same⟩ := List.isPrefixOf_iff_prefix.1 here
      constructor
      · rw [← same]
        simp
      · intro other
        cases pattern with
        | nil => cases other <;> simp [cutAt?]
        | cons d pattern => simp [cutAt?]
    · rename_i later
      cases found : cutAt? pattern t with
      | none => simp [found] at h
      | some pair =>
        obtain ⟨b, a⟩ := pair
        simp only [found, Option.map_some, Option.some.injEq, Prod.mk.injEq] at h
        obtain ⟨rfl, rfl⟩ := h
        obtain ⟨whole, again⟩ := ih found
        refine ⟨by simp [whole], ?_⟩
        intro other
        -- The pattern is no prefix here either: it would end before the one that was found.
        have never : pattern.isPrefixOf (c :: (b ++ pattern ++ other)) = false := by
          rw [Bool.eq_false_iff]
          intro here
          apply later
          rw [List.isPrefixOf_iff_prefix] at here ⊢
          have short : pattern <+: c :: (b ++ pattern) :=
            List.prefix_of_prefix_length_le here
              ⟨other, by simp⟩ (by simp; omega)
          rw [whole]
          exact short.trans ⟨a, by simp⟩
        simp only [List.cons_append, cutAt?, never, again other, Bool.false_eq_true, if_false,
          Option.map_some]

end Runs

theorem upTo?_eq {pattern t : Text} {n : Nat} (h : upTo? pattern t = some n) :
    ∃ before after, t = before ++ pattern ++ after ∧ n = before.length + pattern.length ∧
      ∀ other, upTo? pattern (before ++ pattern ++ other) = some n := by
  unfold upTo? at h ⊢
  cases found : cutAt? pattern t with
  | none => simp [found] at h
  | some pair =>
    obtain ⟨before, after⟩ := pair
    simp only [found, Option.map_some, Option.some.injEq] at h
    obtain ⟨whole, again⟩ := cutAt?_eq found
    refine ⟨before, after, whole, h.symm, ?_⟩
    intro other
    simp only [again other, Option.map_some, h]

theorem upTo?_isSome_iff {pattern t : Text} : (upTo? pattern t).isSome ↔ pattern <:+: t := by
  rw [upTo?, Option.isSome_map]
  induction t with
  | nil => cases pattern <;> simp [cutAt?]
  | cons c t ih =>
    rw [cutAt?, List.infix_cons_iff, ← ih, ← List.isPrefixOf_iff_prefix]
    by_cases here : pattern.isPrefixOf (c :: t)
    · simp [here]
    · simp [here]

theorem upTo?_eq_none_iff {pattern t : Text} : upTo? pattern t = none ↔ ¬ pattern <:+: t := by
  rw [← upTo?_isSome_iff, Option.not_isSome_iff_eq_none]

/-- What does not hold `s` lies on one side of it. -/
theorem infix_around {s : CodePoint} {pattern u v : Text} (clear : s ∉ pattern)
    (inside : pattern <:+: u ++ s :: v) : pattern <:+: u ∨ pattern <:+: v := by
  obtain ⟨a, b, whole⟩ := inside
  rw [List.append_assoc] at whole
  rcases List.append_eq_append_iff.mp whole with ⟨x, rfl, later⟩ | ⟨x, rfl, later⟩
  · rcases List.append_eq_append_iff.mp later with ⟨y, rfl, _⟩ | ⟨y, rfl, behind⟩
    · exact .inl ⟨a, y, by simp⟩
    · cases y with
      | nil => exact .inl ⟨a, [], by simp⟩
      | cons d y =>
        cases (List.cons.inj behind).1
        simp at clear
  · cases x with
    | nil =>
      cases pattern with
      | nil => exact .inl (List.nil_infix)
      | cons d pattern =>
        cases (List.cons.inj later).1
        simp at clear
    | cons d x =>
      exact .inr ⟨x, b, by simpa using (List.cons.inj later).2.symm⟩

theorem longLiteral?_inv {t : Text} {n : Nat} (h : longLiteral? t = some n) :
    ∃ inner after : Text, t = inner ++ .char '"' :: after ∧ n = inner.length + 1 ∧
      ∀ rest : Text, longLiteral? (inner ++ .char '"' :: rest) = some n := by
  unfold longLiteral? at h
  split at h
  · rename_i rest
    cases found : upTo? "\"\"\"" rest with
    | none => simp [found] at h
    | some m =>
      simp only [found, Option.map_some, Option.some.injEq] at h
      obtain ⟨before, after, whole, length, again⟩ := upTo?_eq found
      have three : Text.ofString "\"\"\"" =
          [CodePoint.char '"', CodePoint.char '"', CodePoint.char '"'] := rfl
      rw [three] at whole length again
      let opened : Text := .char '"' :: .char '"' :: .char '"' ::
        (before ++ [CodePoint.char '"', CodePoint.char '"'])
      refine ⟨opened, after, by simp [opened, whole], by simp [opened] at length ⊢; omega, ?_⟩
      intro rest
      have known := again rest
      simp only [List.append_assoc, List.cons_append, List.nil_append] at known
      simp only [opened, List.cons_append, List.append_assoc, List.nil_append, longLiteral?]
      rw [three, known, Option.map_some, h]
  · cases h

theorem verbatimEnd?_cons {c : CodePoint} (other : c ≠ .char '"') (n : Nat) (last : Option Nat)
    (rest : Text) : verbatimEnd? n last (c :: rest) = verbatimEnd? (n + 1) last rest := by
  simp [verbatimEnd?, other]

/-- Either a quote closes the literal, or the first half of the last doubled quote does and no
quote is left behind the second half. -/
theorem verbatimEnd?_cases {n m : Nat} {last : Option Nat} {t : Text}
    (h : verbatimEnd? n last t = some m) :
    (∃ inner after : Text, t = inner ++ .char '"' :: after ∧ m = n + inner.length + 1 ∧
      after.head? ≠ some (.char '"') ∧ ∀ rest : Text, rest.head? ≠ some (.char '"') →
        verbatimEnd? n last (inner ++ .char '"' :: rest) = some m) ∨
    (∃ inner after : Text, t = inner ++ .char '"' :: .char '"' :: after ∧ m = n + inner.length + 1 ∧
      .char '"' ∉ after) ∨
    (last = some m ∧ .char '"' ∉ t) := by
  fun_induction verbatimEnd? n last t with
  | case1 n last => exact .inr (.inr ⟨h, by simp⟩)
  | case2 n last rest ih =>
    obtain ⟨inner, after, rfl, rfl, single, again⟩ | ⟨inner, after, rfl, rfl, clear⟩ |
      ⟨end_, clear⟩ := ih h
    · refine .inl ⟨.char '"' :: .char '"' :: inner, after, rfl, by simp; omega, single, ?_⟩
      intro rest other
      exact again rest other
    · exact .inr (.inl ⟨.char '"' :: .char '"' :: inner, after, rfl, by simp; omega, clear⟩)
    · cases end_
      exact .inr (.inl ⟨[], rest, rfl, by simp, clear⟩)
  | case3 n last tail single =>
    cases h
    have closes : ∀ rest : Text, rest.head? ≠ some (.char '"') →
        verbatimEnd? n last (.char '"' :: rest) = some (n + 1) := by
      intro rest other
      cases rest with
      | nil => rfl
      | cons c rest =>
        have other : c ≠ .char '"' := by simpa using other
        simp [verbatimEnd?, other]
    refine .inl ⟨[], tail, rfl, by simp, ?_, closes⟩
    intro doubled
    obtain ⟨rest, rfl⟩ := List.head?_eq_some_iff.mp doubled
    exact single rest rfl
  | case4 n last c rest doubled quote ih =>
    have other : c ≠ .char '"' := quote
    obtain ⟨inner, after, rfl, rfl, single, again⟩ | ⟨inner, after, rfl, rfl, clear⟩ |
      ⟨end_, clear⟩ := ih h
    · refine .inl ⟨c :: inner, after, rfl, by simp; omega, single, ?_⟩
      intro rest unquoted
      rw [List.cons_append, verbatimEnd?_cons other]
      exact again rest unquoted
    · exact .inr (.inl ⟨c :: inner, after, rfl, by simp; omega, clear⟩)
    · exact .inr (.inr ⟨end_, by simp [clear, other.symm]⟩)

theorem verbatimEnd?_clear {t : Text} (clear : .char '"' ∉ t) (n : Nat) :
    verbatimEnd? n none t = none := by
  induction t generalizing n with
  | nil => rfl
  | cons c t ih =>
    rw [List.mem_cons, not_or] at clear
    rw [verbatimEnd?_cons (Ne.symm clear.1), ih clear.2]

/-- A literal that does not end meets no quote. -/
theorem verbatimEnd?_none {n : Nat} {last : Option Nat} {t : Text}
    (h : verbatimEnd? n last t = none) : last = none ∧ .char '"' ∉ t := by
  fun_induction verbatimEnd? n last t with
  | case1 n last => exact ⟨h, by simp⟩
  | case2 n last rest ih => cases (ih h).1
  | case3 n last tail single => cases h
  | case4 n last c rest doubled quote ih =>
    obtain ⟨end_, clear⟩ := ih h
    have other : c ≠ .char '"' := quote
    exact ⟨end_, by simp [clear, other.symm]⟩

def isDollar (c : CodePoint) : Bool := c = .char '$'

theorem dollars_eq (t : Text) :
    ∃ k, t.takeWhile isDollar = List.replicate k (CodePoint.char '$') ∧
      t = List.replicate k (CodePoint.char '$') ++ t.drop k := by
  have same : t.takeWhile isDollar =
      List.replicate (t.takeWhile isDollar).length (.char '$') := by
    rw [List.eq_replicate_iff]
    refine ⟨rfl, ?_⟩
    intro c member
    simpa [isDollar] using List.all_eq_true.1 List.all_takeWhile c member
  have front := List.prefix_iff_eq_take.1 (List.takeWhile_prefix (l := t) isDollar)
  refine ⟨(t.takeWhile isDollar).length, same, ?_⟩
  rw [← same]
  calc t = t.take (t.takeWhile isDollar).length ++ t.drop (t.takeWhile isDollar).length :=
        (List.take_append_drop _ _).symm
    _ = t.takeWhile isDollar ++ t.drop (t.takeWhile isDollar).length := by rw [← front]

theorem dollars_run {c : CodePoint} (other : c ≠ .char '$') (k : Nat) (rest : Text) :
    (List.replicate k (CodePoint.char '$') ++ c :: rest).takeWhile isDollar =
      List.replicate k (CodePoint.char '$') := by
  rw [List.takeWhile_append_of_pos (by simp [isDollar])]
  simp [isDollar, other]

theorem verbatimLiteral?_form (k m : Nat) (body : Text) :
    verbatimLiteral? (List.replicate k (CodePoint.char '$') ++ .char '@' ::
      (List.replicate m (CodePoint.char '$') ++ .char '"' :: body)) =
        verbatimEnd? (k + m + 2) none body := by
  have before := dollars_run (c := .char '@') (by decide) k
    (List.replicate m (CodePoint.char '$') ++ .char '"' :: body)
  have after := dollars_run (c := .char '"') (by decide) m body
  unfold isDollar at before after
  unfold verbatimLiteral?
  simp only [before, List.length_replicate]
  rw [List.drop_left' (by simp)]
  simp only [after, List.length_replicate]
  rw [List.drop_left' (by simp)]
  rfl

theorem verbatimLiteral?_inv {t : Text} {n : Nat} (h : verbatimLiteral? t = some n) :
    ∃ (k m : Nat) (body : Text), t = List.replicate k (CodePoint.char '$') ++ .char '@' ::
      (List.replicate m (CodePoint.char '$') ++ .char '"' :: body) ∧
        verbatimEnd? (k + m + 2) none body = some n := by
  obtain ⟨k, dollars, whole⟩ := dollars_eq t
  unfold isDollar at dollars
  simp only [verbatimLiteral?, dollars, List.length_replicate] at h
  split at h
  · rename_i rest at_sign
    obtain ⟨m, more, tail⟩ := dollars_eq rest
    unfold isDollar at more
    simp only [more, List.length_replicate] at h
    split at h
    · rename_i body quote
      refine ⟨k, m, body, ?_, h⟩
      rw [← quote, ← tail, ← at_sign, ← whole]
    · cases h
  · cases h

theorem shortEnd?_cons {quote c : CodePoint} (other : c ≠ quote) (plain : c ≠ .char '\\')
    (inside : isLineEnd c = false) (n : Nat) (rest : Text) :
    shortEnd? quote n (c :: rest) = shortEnd? quote (n + 1) rest := by
  rw [shortEnd?]
  · simp [other, plain, inside]
  · simp [plain]

/-- Only a quote ends a short literal. -/
theorem shortEnd?_eq {quote : CodePoint} (other : quote ≠ .char '\\') {n m : Nat} {t : Text}
    (h : shortEnd? quote n t = some m) :
    ∃ inner after : Text, t = inner ++ quote :: after ∧ m = n + inner.length + 1 ∧
      ∀ rest, shortEnd? quote n (inner ++ quote :: rest) = some m := by
  fun_induction shortEnd? quote n t with
  | case1 n => cases h
  | case2 n escaped rest ih =>
    obtain ⟨inner, after, rfl, rfl, again⟩ := ih h
    refine ⟨.char '\\' :: escaped :: inner, after, rfl, by simp; omega, ?_⟩
    intro rest
    exact again rest
  | case3 n rest here =>
    cases h
    refine ⟨[], rest, rfl, by simp, ?_⟩
    intro other_rest
    rw [List.nil_append, shortEnd?]
    · simp
    · simp [other]
  | case4 n c rest single different stop => cases h
  | case5 n c rest single different inside ih =>
    simp only [Bool.or_eq_true, decide_eq_true_eq, not_or, Bool.not_eq_true] at inside
    obtain ⟨inner, after, rfl, rfl, again⟩ := ih h
    refine ⟨c :: inner, after, rfl, by simp; omega, ?_⟩
    intro rest
    rw [List.cons_append, shortEnd?_cons different inside.2 inside.1]
    exact again rest

theorem shortLiteral?_form (k : Nat) (rest : Text) :
    shortLiteral? (List.replicate k (CodePoint.char '$') ++ .char '"' :: rest) =
      shortEnd? (.char '"') (k + 1) rest := by
  have before := dollars_run (c := .char '"') (by decide) k rest
  unfold isDollar at before
  unfold shortLiteral?
  split
  · rename_i tail single
    cases k <;> simp [List.replicate_succ] at single
  · simp only [before, List.length_replicate]
    rw [List.drop_left' (by simp)]
    rfl

theorem shortLiteral?_inv {t : Text} {n : Nat} (h : shortLiteral? t = some n) :
    (∃ rest : Text, t = .char '\'' :: rest ∧ shortEnd? (.char '\'') 1 rest = some n) ∨
    ∃ (k : Nat) (rest : Text), t = List.replicate k (CodePoint.char '$') ++ .char '"' :: rest ∧
      shortEnd? (.char '"') (k + 1) rest = some n := by
  unfold shortLiteral? at h
  split at h
  · rename_i rest
    exact .inl ⟨rest, rfl, h⟩
  · obtain ⟨k, dollars, whole⟩ := dollars_eq t
    unfold isDollar at dollars
    simp only [dollars, List.length_replicate] at h
    split at h
    · rename_i rest quote
      exact .inr ⟨k, rest, by rw [← quote, ← whole], h⟩
    · cases h

theorem shortLiteral?_at (k : Nat) (rest : Text) :
    shortLiteral? (List.replicate k (CodePoint.char '$') ++ .char '@' :: rest) = none := by
  have before := dollars_run (c := .char '@') (by decide) k rest
  unfold isDollar at before
  unfold shortLiteral?
  split
  · rename_i tail single
    cases k <;> simp [List.replicate_succ] at single
  · simp only [before, List.length_replicate]
    rw [List.drop_left' (by simp)]
    rfl

theorem longLiteral?_dollar (k : Nat) {c : CodePoint} (other : c ≠ .char '"') (rest : Text) :
    longLiteral? (List.replicate k (CodePoint.char '$') ++ c :: rest) = none := by
  cases k with
  | zero => simp [longLiteral?, other]
  | succ k => rfl

theorem verbatimLiteral?_quote (k : Nat) (rest : Text) :
    verbatimLiteral? (List.replicate k (CodePoint.char '$') ++ .char '"' :: rest) = none := by
  have before := dollars_run (c := .char '"') (by decide) k rest
  unfold isDollar at before
  unfold verbatimLiteral?
  simp only [before, List.length_replicate]
  rw [List.drop_left' (by simp)]
  rfl

/-- `body` and the quote at its end are the whole literal of `n` code points, whatever follows it,
unless one more quote does or a literal between three quotes starts. -/
structure Closed (n : Nat) (t body : Text) : Prop where
  whole : ∃ after, t = body ++ after
  length : body.length = n
  quoted : ∃ inner quote, body = inner ++ [quote] ∧ (quote = .char '"' ∨ quote = .char '\'')
  same : ∀ rest, (rest.head? = some (.char '"') → (t.drop n).head? = some (.char '"')) →
    (longLiteral? t = none → longLiteral? (body ++ rest) = none) → literal? (body ++ rest) = some n

theorem closed_long {t : Text} {n : Nat} (long : longLiteral? t = some n) :
    ∃ body, Closed n t body := by
  obtain ⟨inner, after, rfl, rfl, again⟩ := longLiteral?_inv long
  refine ⟨inner ++ [CodePoint.char '"'], ⟨after, by simp⟩, by simp, ⟨inner, _, rfl, .inl rfl⟩, ?_⟩
  intro rest _ _
  have known := again rest
  simp only [List.append_assoc, List.cons_append, List.nil_append] at known ⊢
  rw [literal?, known, Option.some_or]

theorem closed_verbatim {t : Text} {n : Nat} (verbatim : verbatimLiteral? t = some n) :
    (∃ body, Closed n t body) ∨
      ∃ body after : Text, t = body ++ .char '"' :: after ∧ body ≠ [] ∧ body.length = n ∧
        .char '"' ∉ after := by
  obtain ⟨k, l, body, rfl, ended⟩ := verbatimLiteral?_inv verbatim
  obtain ⟨inner, after, rfl, rfl, single, again⟩ | ⟨inner, after, rfl, rfl, clear⟩ |
    ⟨none_, _⟩ := verbatimEnd?_cases ended
  · let opened : Text := List.replicate k (CodePoint.char '$') ++ .char '@' ::
      (List.replicate l (CodePoint.char '$') ++ .char '"' :: inner)
    have whole : List.replicate k (CodePoint.char '$') ++ .char '@' ::
        (List.replicate l (CodePoint.char '$') ++ .char '"' :: (inner ++ .char '"' :: after)) =
          opened ++ [CodePoint.char '"'] ++ after := by simp [opened]
    have size : (opened ++ [CodePoint.char '"']).length = k + l + 2 + inner.length + 1 := by
      simp only [opened, List.length_append, List.length_replicate, List.length_cons,
        List.length_nil]
      omega
    refine .inl ⟨opened ++ [CodePoint.char '"'], ⟨after, whole⟩, size,
      ⟨opened, _, rfl, .inl rfl⟩, ?_⟩
    intro rest follows _
    have unquoted : rest.head? ≠ some (.char '"') := by
      intro doubled
      have next := follows doubled
      rw [whole, List.drop_left' size] at next
      exact single next
    have known := verbatimLiteral?_form k l (inner ++ .char '"' :: rest)
    rw [again rest unquoted] at known
    have opens := longLiteral?_dollar k (c := .char '@') (by decide)
      (List.replicate l (CodePoint.char '$') ++ .char '"' :: (inner ++ .char '"' :: rest))
    simp only [opened, List.append_assoc, List.cons_append, List.nil_append] at known opens ⊢
    rw [literal?, opens, known, Option.none_or, Option.some_or]
  · exact .inr ⟨List.replicate k (CodePoint.char '$') ++ .char '@' ::
      (List.replicate l (CodePoint.char '$') ++ .char '"' :: (inner ++ [.char '"'])), after,
      by simp, by simp, by simp; omega, clear⟩
  · cases none_

/-- A short literal keeps its end unless a literal between three quotes starts in its place. -/
theorem closed_short {t : Text} {n : Nat} (long : longLiteral? t = none)
    (short : shortLiteral? t = some n) : ∃ body, Closed n t body := by
  obtain ⟨body, rfl, ended⟩ | ⟨k, body, rfl, ended⟩ := shortLiteral?_inv short
  · obtain ⟨inner, after, rfl, rfl, again⟩ := shortEnd?_eq (by decide) ended
    let opened : Text := .char '\'' :: inner
    refine ⟨opened ++ [CodePoint.char '\''], ⟨after, by simp [opened]⟩, by simp [opened]; omega,
      ⟨opened, _, rfl, .inr rfl⟩, ?_⟩
    intro rest _ _
    have known := again rest
    simp only [opened, List.append_assoc, List.cons_append, List.nil_append] at known ⊢
    exact known
  · obtain ⟨inner, after, rfl, rfl, again⟩ := shortEnd?_eq (by decide) ended
    let opened : Text := List.replicate k (CodePoint.char '$') ++ .char '"' :: inner
    refine ⟨opened ++ [CodePoint.char '"'], ⟨after, by simp [opened]⟩, by simp [opened]; omega,
      ⟨opened, _, rfl, .inl rfl⟩, ?_⟩
    intro rest _ unopened
    have opens := unopened long
    have plain := verbatimLiteral?_quote k (inner ++ .char '"' :: rest)
    have form := shortLiteral?_form k (inner ++ .char '"' :: rest)
    rw [again rest] at form
    simp only [opened, List.append_assoc, List.cons_append, List.nil_append] at opens plain form ⊢
    rw [literal?, opens, plain, form, Option.none_or, Option.none_or]

/-- Where a literal is not closed by a quote of its own, one quote and no other follows it. -/
theorem literal?_cases {t : Text} {n : Nat} (h : literal? t = some n) :
    (∃ body, Closed n t body) ∨
      ∃ body after : Text, t = body ++ .char '"' :: after ∧ body ≠ [] ∧ body.length = n ∧
        .char '"' ∉ after := by
  unfold literal? at h
  cases long : longLiteral? t with
  | some m =>
    rw [long, Option.some_or] at h
    cases h
    exact .inl (closed_long long)
  | none =>
    rw [long, Option.none_or] at h
    cases verbatim : verbatimLiteral? t with
    | some m =>
      rw [verbatim, Option.some_or] at h
      cases h
      exact closed_verbatim verbatim
    | none =>
      rw [verbatim, Option.none_or] at h
      exact .inl (closed_short long h)

/-! ### Literals that do not end -/

theorem shortEnd?_none {quote : CodePoint} {n : Nat} {t : Text} (h : shortEnd? quote n t = none)
    (m : Nat) : shortEnd? quote m t = none := by
  fun_induction shortEnd? quote n t generalizing m with
  | case1 n => rfl
  | case2 n escaped rest ih => exact ih h (m + 2)
  | case3 n rest here => cases h
  | case4 n c rest single different stop =>
    rw [shortEnd?]
    · simp only [different, stop, if_true, if_false]
    · exact single
  | case5 n c rest single different inside ih =>
    rw [shortEnd?]
    · simp only [different, inside, if_false]
      exact ih h (m + 1)
    · exact single

theorem shortEnd?_clear {t : Text} (clear : .char '"' ∉ t) (n : Nat) :
    shortEnd? (.char '"') n t = none := by
  cases ended : shortEnd? (.char '"') n t with
  | none => rfl
  | some m =>
    obtain ⟨inner, after, rfl, _⟩ := shortEnd?_eq (by decide) ended
    simp at clear

/-- The beginning of a literal, up to the quote that opens it. -/
inductive Opening : Text → Prop
  | single : Opening [.char '\'']
  | double (k : Nat) : Opening (List.replicate k (.char '$') ++ [.char '"'])
  | verbatim (k m : Nat) : Opening
      (List.replicate k (.char '$') ++ .char '@' :: (List.replicate m (.char '$') ++ [.char '"']))

theorem Opening.solid {front : Text} (h : Opening front) : ∀ c ∈ front, c.isBlank = false := by
  cases h with
  | single => decide
  | double k =>
    simp only [List.mem_append, List.mem_replicate, List.mem_singleton]
    rintro c (⟨_, rfl⟩ | rfl) <;> rfl
  | verbatim k m =>
    simp only [List.mem_append, List.mem_replicate, List.mem_cons, List.not_mem_nil, or_false]
    rintro c (⟨_, rfl⟩ | rfl | ⟨_, rfl⟩ | rfl) <;> rfl

theorem opening_of_literal {t : Text} {n : Nat} (h : literal? t = some n) :
    ∃ front, Opening front ∧ front <+: t := by
  unfold literal? at h
  cases long : longLiteral? t with
  | some m =>
    unfold longLiteral? at long
    split at long
    · exact ⟨_, .double 0, _, rfl⟩
    · cases long
  | none =>
    simp only [long, Option.none_or] at h
    cases verbatim : verbatimLiteral? t with
    | some m =>
      obtain ⟨k, l, body, rfl, _⟩ := verbatimLiteral?_inv verbatim
      exact ⟨_, .verbatim k l, body, by simp⟩
    | none =>
      simp only [verbatim, Option.none_or] at h
      obtain ⟨body, rfl, _⟩ | ⟨k, body, rfl, _⟩ := shortLiteral?_inv h
      · exact ⟨_, .single, body, rfl⟩
      · exact ⟨_, .double k, body, by simp⟩

end BodyDigest.Braced.Lexeme
