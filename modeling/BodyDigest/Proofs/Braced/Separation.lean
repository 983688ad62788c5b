import BodyDigest.Proofs.Braced.Literals

/-!
What follows a token does not matter as long as a blank comes first: the token is measured as
before. The one exception is a quote that opens nothing.
-/
namespace BodyDigest.Braced.Lexeme

/-! ### Numbers and words -/

section

variable {s : CodePoint} (h : s.isBlank)

include h

theorem digits_cut (t rest : Text) (n : Nat) :
    digits (t.take n ++ s :: rest) = min n (digits t) :=
  run_cut (blank_stops h).1 t rest n

end

theorem fractionLength_le (t : Text) : fractionLength t ≤ t.length := by
  unfold fractionLength
  split
  · rename_i rest
    have bound : digits rest ≤ rest.length := run_length_le rest
    split
    · omega
    · simp only [List.length_cons]
      omega
  · omega

theorem fractionLength_cut {s : CodePoint} (h : s.isBlank) (t rest : Text) {n : Nat}
    (within : fractionLength t ≤ n) : fractionLength (t.take n ++ s :: rest) = fractionLength t := by
  have stop : fractionLength (s :: rest) = 0 := by
    simp [fractionLength, blank_ne h (c := .char '.') rfl]
  cases t with
  | nil => simpa [fractionLength] using stop
  | cons c t =>
    by_cases point : c = .char '.'
    · subst point
      cases n with
      | zero =>
        have none_ : fractionLength (.char '.' :: t) = 0 := by omega
        rw [List.take_zero, List.nil_append, stop, none_]
      | succ n =>
        simp only [List.take_succ_cons, List.cons_append, fractionLength, digits_cut h] at within ⊢
        split at within <;> split <;> omega
    · have plain (r : Text) : fractionLength (c :: r) = 0 := by
        simp [fractionLength, point]
      cases n with
      | zero => rw [List.take_zero, List.nil_append, stop, plain]
      | succ n => rw [List.take_succ_cons, List.cons_append, plain, plain]

def isSign (c : CodePoint) : Bool := c = .char '+' || c = .char '-'

theorem first_run {p : CodePoint → Bool} (t : Text) :
    ((t.take 1).takeWhile p).length = min 1 (t.takeWhile p).length := by
  cases t with
  | nil => rfl
  | cons c t => by_cases keep : p c <;> simp [keep]

theorem exponentLength_cons (e : CodePoint) (t : Text) :
    exponentLength (e :: t) =
      if e = .char 'e' || e = .char 'E' then
        if digits (t.drop (min 1 (t.takeWhile isSign).length)) = 0 then 0
        else 1 + min 1 (t.takeWhile isSign).length +
          digits (t.drop (min 1 (t.takeWhile isSign).length))
      else 0 := by
  rw [← first_run]
  rfl

theorem exponentLength_le (t : Text) : exponentLength t ≤ t.length := by
  cases t with
  | nil => simp [exponentLength]
  | cons e t =>
    have sign : (t.takeWhile isSign).length ≤ t.length := run_length_le t
    have bound : digits (t.drop (min 1 (t.takeWhile isSign).length)) ≤
      (t.drop (min 1 (t.takeWhile isSign).length)).length := run_length_le _
    rw [List.length_drop] at bound
    rw [exponentLength_cons, List.length_cons]
    split
    · split <;> omega
    · omega

theorem exponentLength_cut {s : CodePoint} (h : s.isBlank) (t rest : Text) {n : Nat}
    (within : exponentLength t ≤ n) : exponentLength (t.take n ++ s :: rest) = exponentLength t := by
  have stop : exponentLength (s :: rest) = 0 := by
    simp [exponentLength, blank_ne h (c := .char 'e') rfl, blank_ne h (c := .char 'E') rfl]
  have unsigned : isSign s = false := by
    simp [isSign, blank_ne h (c := .char '+') rfl, blank_ne h (c := .char '-') rfl]
  cases t with
  | nil => simpa [exponentLength] using stop
  | cons e t =>
    cases n with
    | zero =>
      have nothing : exponentLength (e :: t) = 0 := by omega
      rw [List.take_zero, List.nil_append, stop, nothing]
    | succ n =>
      rw [List.take_succ_cons, List.cons_append]
      rw [exponentLength_cons] at within ⊢
      rw [exponentLength_cons, run_cut unsigned]
      split
      · rename_i marked
        rw [if_pos marked] at within
        have sign : (t.takeWhile isSign).length ≤ t.length := run_length_le t
        generalize (t.takeWhile isSign).length = σ at within sign ⊢
        cases n with
        | zero =>
          have none_here : digits (t.drop (min 1 σ)) = 0 := by
            split at within <;> omega
          have none_after : digits (s :: rest) = 0 := by
            simp [digits, (blank_stops h).1]
          simp [none_here, none_after]
        | succ n =>
          have same : min 1 (min (n + 1) σ) = min 1 σ := by omega
          rw [same, drop_cut rest (by omega) (by omega), digits_cut h]
          split at within <;> split <;> omega
      · rfl

theorem number?_iff {t : Text} {n : Nat} :
    number? t = some n ↔ digits t ≠ 0 ∧ ∃ f e, f = fractionLength (t.drop (digits t)) ∧
      e = exponentLength (t.drop (digits t + f)) ∧
        n = digits t + f + e + ((t.drop (digits t + f + e)).takeWhile CodePoint.isWord).length := by
  have form : number? t = if digits t = 0 then none else
      some (digits t + fractionLength (t.drop (digits t)) +
        exponentLength (t.drop (digits t + fractionLength (t.drop (digits t)))) +
          ((t.drop (digits t + fractionLength (t.drop (digits t)) +
            exponentLength (t.drop (digits t + fractionLength (t.drop (digits t)))))).takeWhile
              CodePoint.isWord).length) := rfl
  rw [form]
  split
  · rename_i empty
    simp [empty]
  · rename_i some_digits
    simp [some_digits, eq_comm]

theorem number?_le {t : Text} {n : Nat} (h : number? t = some n) : 0 < n ∧ n ≤ t.length := by
  obtain ⟨some_digits, f, e, fraction, exponent, rfl⟩ := number?_iff.1 h
  have whole : digits t ≤ t.length := run_length_le t
  have point := fractionLength_le (t.drop (digits t))
  have power := exponentLength_le (t.drop (digits t + f))
  have tail : ((t.drop (digits t + f + e)).takeWhile CodePoint.isWord).length ≤ _ :=
    run_length_le _
  rw [List.length_drop] at point power tail
  omega

theorem number?_cut {s : CodePoint} (h : s.isBlank) {t : Text} {n m : Nat}
    (number : number? t = some n) (behind : n ≤ m) (rest : Text) :
    number? (t.take m ++ s :: rest) = some n := by
  have within := (number?_le number).2
  obtain ⟨some_digits, f, e, fraction, exponent, total⟩ := number?_iff.1 number
  have whole : digits (t.take m ++ s :: rest) = digits t := by
    rw [digits_cut h]
    omega
  rw [number?_iff, whole]
  refine ⟨some_digits, f, e, ?_, ?_, ?_⟩
  · rw [drop_cut rest (by omega) (by omega), fractionLength_cut h _ _ (by omega)]
    exact fraction
  · rw [drop_cut rest (by omega) (by omega), exponentLength_cut h _ _ (by omega)]
    exact exponent
  · rw [drop_cut rest (by omega) (by omega), run_cut (blank_stops h).2.1]
    omega

theorem number?_eq_none {t : Text} : number? t = none ↔ digits t = 0 := by
  constructor
  · intro none_
    refine Decidable.byContradiction fun some_digits => ?_
    have found := number?_iff.2 ⟨some_digits, _, _, rfl, rfl, rfl⟩
    rw [none_] at found
    cases found
  · intro no_digits
    rw [number?, no_digits]
    rfl

theorem number?_none_cut {s : CodePoint} (h : s.isBlank) {t : Text} (none_ : number? t = none)
    (m : Nat) (rest : Text) : number? (t.take m ++ s :: rest) = none := by
  rw [number?_eq_none] at none_ ⊢
  rw [digits_cut h, none_, Nat.min_zero]

theorem word?_at {c : CodePoint} (starts : startsWord c) (rest : Text) :
    word? (.char '@' :: c :: rest) = some ((rest.takeWhile continuesWord).length + 2) := by
  simp [word?, starts, Nat.add_comm]

theorem word?_plain {c : CodePoint} (starts : startsWord c) (rest : Text) :
    word? (c :: rest) = some ((rest.takeWhile continuesWord).length + 1) := by
  have plain : c ≠ .char '@' := by
    rintro rfl
    revert starts
    decide
  simp [word?, starts, plain, Nat.add_comm]

theorem word?_dollar (rest : Text) : word? (.char '$' :: rest) = some 1 := rfl

theorem word?_cases {t : Text} {n : Nat} (h : word? t = some n) :
    (∃ c rest, t = .char '@' :: c :: rest ∧ startsWord c ∧
      n = (rest.takeWhile continuesWord).length + 2) ∨
    (∃ c rest, t = c :: rest ∧ startsWord c ∧ n = (rest.takeWhile continuesWord).length + 1) ∨
    ∃ rest, t = .char '$' :: rest ∧ n = 1 := by
  unfold word? at h
  split at h
  · rename_i c rest
    split at h
    · rename_i starts
      cases h
      exact .inl ⟨c, rest, rfl, starts, by omega⟩
    · cases h
  · rename_i c rest _
    split at h
    · rename_i starts
      cases h
      exact .inr (.inl ⟨c, rest, rfl, starts, by omega⟩)
    · split at h
      · rename_i dollar
        cases h
        exact .inr (.inr ⟨rest, by rw [dollar], rfl⟩)
      · cases h
  · cases h

theorem word?_le {t : Text} {n : Nat} (h : word? t = some n) : 0 < n ∧ n ≤ t.length := by
  obtain ⟨c, rest, rfl, _, rfl⟩ | ⟨c, rest, rfl, _, rfl⟩ | ⟨rest, rfl, rfl⟩ := word?_cases h
  · have bound : (rest.takeWhile continuesWord).length ≤ rest.length := run_length_le rest
    simp [bound]
  · have bound : (rest.takeWhile continuesWord).length ≤ rest.length := run_length_le rest
    simp [bound]
  · simp

theorem word?_cut {s : CodePoint} (h : s.isBlank) {t : Text} {n m : Nat}
    (word : word? t = some n) (behind : n ≤ m) (rest : Text) :
    word? (t.take m ++ s :: rest) = some n := by
  have stop := (blank_stops h).2.2
  obtain ⟨c, tail, rfl, starts, rfl⟩ | ⟨c, tail, rfl, starts, rfl⟩ | ⟨tail, rfl, rfl⟩ :=
    word?_cases word
  · obtain ⟨i, rfl⟩ := Nat.exists_eq_add_of_le' (Nat.le_trans (Nat.le_add_left 2 _) behind)
    rw [List.take_succ_cons, List.take_succ_cons, List.cons_append, List.cons_append,
      word?_at starts, run_cut stop, Nat.min_eq_right (by omega)]
  · obtain ⟨i, rfl⟩ := Nat.exists_eq_add_of_le' (Nat.le_trans (Nat.le_add_left 1 _) behind)
    rw [List.take_succ_cons, List.cons_append, word?_plain starts, run_cut stop,
      Nat.min_eq_right (by omega)]
  · obtain ⟨i, rfl⟩ := Nat.exists_eq_add_of_le' behind
    exact word?_dollar _

/-- What every word starts with. -/
theorem word?_opening {t : Text} {n : Nat} (h : word? t = some n) :
    ∃ front, front <+: t ∧ (∀ c ∈ front, c.isBlank = false) ∧ ∀ u, front <+: u →
      ∃ m, word? u = some m := by
  have solid {c : CodePoint} (starts : startsWord c) : c.isBlank = false := by
    rw [Bool.eq_false_iff]
    intro blank
    simp [startsWord, (blank_stops blank).2.1] at starts
  obtain ⟨c, tail, rfl, starts, rfl⟩ | ⟨c, tail, rfl, starts, rfl⟩ | ⟨tail, rfl, rfl⟩ :=
    word?_cases h
  · refine ⟨[.char '@', c], ⟨tail, rfl⟩, by simp [solid starts]; rfl, ?_⟩
    rintro u ⟨other, rfl⟩
    exact ⟨_, word?_at starts other⟩
  · refine ⟨[c], ⟨tail, rfl⟩, by simp [solid starts], ?_⟩
    rintro u ⟨other, rfl⟩
    exact ⟨_, word?_plain starts other⟩
  · refine ⟨[.char '$'], ⟨tail, rfl⟩, by decide, ?_⟩
    rintro u ⟨other, rfl⟩
    exact ⟨_, word?_dollar other⟩

theorem word?_none_cut {s : CodePoint} (h : s.isBlank) {t : Text} (none_ : word? t = none)
    (m : Nat) (rest : Text) : word? (t.take m ++ s :: rest) = none := by
  cases found : word? (t.take m ++ s :: rest) with
  | none => rfl
  | some n =>
    obtain ⟨front, starts, solid, again⟩ := word?_opening found
    have clear : s ∉ front := fun inside => by simp [solid s inside] at h
    obtain ⟨k, word⟩ := again t ((prefix_of_cut starts clear).trans (List.take_prefix m t))
    rw [none_] at word
    cases word

/-! ### What starts no lexeme of another kind -/

theorem comment?_head {c : CodePoint} (slash : c ≠ .char '/') (rest : Text) :
    comment? (c :: rest) = none := by
  unfold comment?
  split <;> simp_all

theorem literal?_head {c : CodePoint} (double : c ≠ .char '"') (single : c ≠ .char '\'')
    (dollar : c ≠ .char '$') (rest : Text) (verbatim : verbatimLiteral? (c :: rest) = none) :
    literal? (c :: rest) = none := by
  have long : longLiteral? (c :: rest) = none := longLiteral?_dollar 0 double rest
  have short : shortLiteral? (c :: rest) = none := by
    unfold shortLiteral?
    simp [double, single, dollar]
  rw [literal?, long, verbatim, short, Option.none_or, Option.none_or]

theorem verbatimLiteral?_head {c : CodePoint} (dollar : c ≠ .char '$') (at_sign : c ≠ .char '@')
    (rest : Text) : verbatimLiteral? (c :: rest) = none := by
  simp [verbatimLiteral?, dollar, at_sign]

theorem number?_head {c : CodePoint} (digit : c.isDecimal = false) (rest : Text) :
    number? (c :: rest) = none := by
  simp [number?, digits, digit]

theorem word?_head {c : CodePoint} (starts : startsWord c = false) (dollar : c ≠ .char '$')
    (at_sign : c ≠ .char '@') (rest : Text) : word? (c :: rest) = none := by
  simp [word?, starts, dollar, at_sign]

/-- What can only be a part of an operator, a blank or a sign. -/
def isPlain (c : CodePoint) : Bool :=
  c ≠ .char '"' && c ≠ .char '\'' && c ≠ .char '$' && c ≠ .char '@' && !c.isDecimal &&
    !startsWord c

theorem plain_starts_nothing {c : CodePoint} (h : isPlain c) (rest : Text) :
    literal? (c :: rest) = none ∧ number? (c :: rest) = none ∧ word? (c :: rest) = none := by
  simp only [isPlain, Bool.and_eq_true, Bool.not_eq_true', ne_eq, decide_not] at h
  obtain ⟨⟨⟨⟨⟨double, single⟩, dollar⟩, at_sign⟩, digit⟩, starts⟩ := h
  simp only [decide_eq_false_iff_not] at double single dollar at_sign
  exact ⟨literal?_head double single dollar rest (verbatimLiteral?_head dollar at_sign rest),
    number?_head digit rest, word?_head starts dollar at_sign rest⟩

/-! ### Operators -/

theorem operators_form : ∀ o ∈ operators, o.head?.all isPlain ∧ 2 ≤ o.length ∧
    (∀ c ∈ o, c.isBlank = false) ∧ ∀ c ∈ o.tail, c ≠ .char '/' ∧ c ≠ .char '*' := by
  decide

theorem find?_of_fewer {α : Type} {p q : α → Bool} {l : List α} {a : α} (found : l.find? p = some a)
    (fewer : ∀ b ∈ l, q b → p b) (still : q a) : l.find? q = some a := by
  induction l with
  | nil => cases found
  | cons b l ih =>
    rw [List.find?_cons] at found ⊢
    by_cases here : p b
    · simp only [here] at found
      cases found
      simp [still]
    · have not_here : q b = false := Bool.eq_false_iff.2 fun h => here (fewer b (by simp) h)
      simp only [Bool.eq_false_iff.2 here] at found
      simp only [not_here]
      exact ih found fun c member => fewer c (by simp [member])

theorem operator?_cases {t : Text} {n : Nat} (h : operator? t = some n) :
    ∃ o ∈ operators, o <+: t ∧ o.length = n ∧ operators.find? (·.isPrefixOf t) = some o := by
  unfold operator? at h
  cases found : operators.find? (·.isPrefixOf t) with
  | none => simp [found] at h
  | some o =>
    rw [found] at h
    cases h
    have front := List.find?_some found
    exact ⟨o, List.mem_of_find?_eq_some found, List.isPrefixOf_iff_prefix.1 front, rfl, rfl⟩

theorem operator_of_cut {s : CodePoint} (h : s.isBlank) {o t rest : Text} {m : Nat}
    (member : o ∈ operators) (front : o <+: t.take m ++ s :: rest) : o <+: t := by
  refine (prefix_of_cut front fun inside => ?_).trans (List.take_prefix m t)
  have clear := (operators_form o member).2.2.1 s inside
  rw [h] at clear
  cases clear

theorem operator?_cut {s : CodePoint} (h : s.isBlank) {t : Text} {n m : Nat}
    (operator : operator? t = some n) (behind : n ≤ m) (rest : Text) :
    operator? (t.take m ++ s :: rest) = some n := by
  obtain ⟨o, member, front, rfl, found⟩ := operator?_cases operator
  have again : operators.find? (·.isPrefixOf (t.take m ++ s :: rest)) = some o := by
    refine find?_of_fewer found ?_ ?_
    · intro b member_b front_b
      rw [List.isPrefixOf_iff_prefix] at front_b ⊢
      exact operator_of_cut h member_b front_b
    · rw [List.isPrefixOf_iff_prefix]
      have kept : o <+: t.take m := List.prefix_take_iff.mpr ⟨front, behind⟩
      exact kept.trans (List.prefix_append _ _)
  rw [operator?, again, Option.map_some]

theorem operator?_none_cut {s : CodePoint} (h : s.isBlank) {t : Text} (none_ : operator? t = none)
    (m : Nat) (rest : Text) : operator? (t.take m ++ s :: rest) = none := by
  cases found : operator? (t.take m ++ s :: rest) with
  | none => rfl
  | some n =>
    obtain ⟨o, member, front, _, _⟩ := operator?_cases found
    simp only [operator?, Option.map_eq_none_iff, List.find?_eq_none] at none_
    have starts := List.isPrefixOf_iff_prefix.mpr (operator_of_cut h member front)
    exact absurd starts (none_ o member)

theorem operator?_head {c : CodePoint} (h : isPlain c = false) (rest : Text) :
    operator? (c :: rest) = none := by
  cases found : operator? (c :: rest) with
  | none => rfl
  | some n =>
    obtain ⟨o, member, front, _, _⟩ := operator?_cases found
    obtain ⟨plain, long, _⟩ := operators_form o member
    cases o with
    | nil => simp at long
    | cons d o =>
      rw [(List.cons_prefix_cons.1 front).1, List.head?_cons, Option.all_some, h] at plain
      cases plain

theorem operator?_le {t : Text} {n : Nat} (h : operator? t = some n) : 0 < n ∧ n ≤ t.length := by
  obtain ⟨o, member, front, rfl, _⟩ := operator?_cases h
  have long := (operators_form o member).2.1
  exact ⟨by omega, front.length_le⟩

/-! ### Any lexeme -/

/-- Which reader has the say about the start of a text. -/
theorem measure_cases (t : Text) :
    (∃ n, comment? t = some n ∧ measure t = (.comment, n)) ∨
    (∃ n, comment? t = none ∧ literal? t = some n ∧ measure t = (.literal, n)) ∨
    (∃ n, literal? t = none ∧ number? t = some n ∧ measure t = (.number, n)) ∨
    (∃ n, literal? t = none ∧ number? t = none ∧ word? t = some n ∧ measure t = (.word, n)) ∨
    (∃ n, operator? t = some n ∧ measure t = (.operator, n)) ∨
    (∃ n, blank? t = some n ∧ measure t = (.blank, n)) ∨
    (literal? t = none ∧ number? t = none ∧ word? t = none ∧ blank? t = none ∧
      measure t = (.sign, 1)) := by
  unfold measure
  cases comment? t with
  | some n => simp
  | none => cases literal? t with
    | some n => simp
    | none => cases number? t with
      | some n => simp
      | none => cases word? t with
        | some n => simp
        | none => cases operator? t with
          | some n => simp
          | none => cases blank? t with
            | some n => simp
            | none => simp

theorem blank?_le {t : Text} {n : Nat} (h : blank? t = some n) : 0 < n ∧ n ≤ t.length := by
  simp only [blank?] at h
  split at h
  · cases h
  · rename_i some_blanks
    cases h
    exact ⟨Nat.pos_of_ne_zero some_blanks, run_length_le t⟩

theorem comment?_le {t : Text} {n : Nat} (h : comment? t = some n) : 0 < n ∧ n ≤ t.length := by
  unfold comment? at h
  split at h
  · rename_i rest
    cases h
    have bound : (rest.takeWhile (!isLineEnd ·)).length ≤ rest.length := run_length_le rest
    simp only [List.length_cons]
    omega
  · rename_i rest
    obtain ⟨m, found, rfl⟩ := Option.map_eq_some_iff.mp h
    obtain ⟨before, after, rfl, rfl, _⟩ := upTo?_eq found
    simp only [List.length_cons, List.length_append]
    omega
  · cases h

theorem literal?_le {t : Text} {n : Nat} (h : literal? t = some n) : 0 < n ∧ n ≤ t.length := by
  obtain ⟨body, ⟨after, rfl⟩, rfl, ⟨inner, quote, rfl, _⟩, _⟩ |
    ⟨body, after, rfl, some_body, rfl, _⟩ := literal?_cases h
  · simp
  · exact ⟨List.length_pos_iff.mpr some_body, by simp⟩

/-- A lexeme takes one code point at least, and none that is not there. -/
theorem measure_le {c : CodePoint} {t : Text} {k : Kind} {n : Nat}
    (measured : measure (c :: t) = (k, n)) : 0 < n ∧ n ≤ (c :: t).length := by
  obtain ⟨m, read, kind⟩ | ⟨m, _, read, kind⟩ | ⟨m, _, read, kind⟩ | ⟨m, _, _, read, kind⟩ |
    ⟨m, read, kind⟩ | ⟨m, read, kind⟩ | ⟨_, _, _, _, kind⟩ := measure_cases (c :: t) <;>
    cases measured.symm.trans kind
  · exact comment?_le read
  · exact literal?_le read
  · exact number?_le read
  · exact word?_le read
  · exact operator?_le read
  · exact blank?_le read
  · simp

theorem ofText_measured {c : CodePoint} {t : Text} {k : Kind} {n : Nat}
    (measured : measure (c :: t) = (k, n)) :
    ofText (c :: t) = ⟨k, (c :: t).take n⟩ :: ofText ((c :: t).drop n) := by
  obtain ⟨m, rfl⟩ : ∃ m, n = m + 1 := ⟨n - 1, by have := (measure_le measured).1; omega⟩
  rw [ofText, measured]
  rfl

/-! ### Quotes -/

/-- No lexeme is a quote that opens nothing. -/
def Quoted (t : Text) : Prop :=
  ∀ l ∈ ofText t, l.text ≠ [.char '"'] ∧ l.text ≠ [.char '\'']

theorem quoted_measured {c : CodePoint} {t : Text} {k : Kind} {n : Nat}
    (measured : measure (c :: t) = (k, n)) :
    Quoted (c :: t) ↔ ((c :: t).take n ≠ [.char '"'] ∧ (c :: t).take n ≠ [.char '\'']) ∧
      Quoted ((c :: t).drop n) := by
  rw [Quoted, ofText_measured measured, List.forall_mem_cons, Quoted]

theorem measure_quote {quote : CodePoint} (which : quote = .char '"' ∨ quote = .char '\'')
    {t : Text} (literal : literal? (quote :: t) = none) : measure (quote :: t) = (.sign, 1) := by
  have slash : quote ≠ .char '/' := by rcases which with rfl | rfl <;> decide
  have digit : quote.isDecimal = false := by rcases which with rfl | rfl <;> decide
  have word : word? (quote :: t) = none := by
    rcases which with rfl | rfl <;>
      exact word?_head (by decide) (by decide) (by decide) t
  have operator : operator? (quote :: t) = none :=
    operator?_head (by rcases which with rfl | rfl <;> decide) t
  have blank : blank? (quote :: t) = none := by rcases which with rfl | rfl <;> rfl
  simp [measure, comment?_head slash, literal, number?_head digit, word, operator, blank]

theorem not_quoted_of_lone {quote : CodePoint} (which : quote = .char '"' ∨ quote = .char '\'')
    {t : Text} (literal : literal? (quote :: t) = none) : ¬ Quoted (quote :: t) := by
  intro quoted
  obtain ⟨⟨double, single⟩, _⟩ := (quoted_measured (measure_quote which literal)).mp quoted
  rcases which with rfl | rfl
  · exact double rfl
  · exact single rfl

theorem measure_dollar {t : Text} (literal : literal? (.char '$' :: t) = none) :
    measure (.char '$' :: t) = (.word, 1) := by
  simp [measure, comment?_head, literal, number?_head (c := .char '$') (by decide), word?_dollar]

theorem measure_at {c : CodePoint} (other : startsWord c = false) {t : Text}
    (literal : literal? (.char '@' :: c :: t) = none) :
    measure (.char '@' :: c :: t) = (.sign, 1) := by
  have word : word? (.char '@' :: c :: t) = none := by simp [word?, other]
  have blank : blank? (.char '@' :: c :: t) = none := rfl
  simp [measure, comment?_head, literal, number?_head (c := .char '@') (by decide), word, blank,
    operator?_head (c := .char '@') (by decide)]

/-- Behind dollar signs that open no literal, a quote stands alone. -/
theorem not_quoted_of_short {body : Text} (open_end : ∀ n, shortEnd? (.char '"') n body = none)
    (k : Nat) : ¬ Quoted (List.replicate k (CodePoint.char '$') ++ .char '"' :: body) := by
  have literal (k : Nat) :
      literal? (List.replicate k (CodePoint.char '$') ++ .char '"' :: body) = none := by
    have verbatim := verbatimLiteral?_quote k body
    have short := shortLiteral?_form k body
    rw [open_end] at short
    have long :
        longLiteral? (List.replicate k (CodePoint.char '$') ++ .char '"' :: body) = none := by
      cases k with
      | succ k => rfl
      | zero =>
        cases body with
        | nil => rfl
        | cons c body =>
          have other : c ≠ .char '"' := by
            rintro rfl
            have ended := open_end 0
            simp [shortEnd?] at ended
          simp [longLiteral?, other]
    rw [literal?, long, verbatim, short, Option.none_or, Option.none_or]
  induction k with
  | zero => exact not_quoted_of_lone (.inl rfl) (literal 0)
  | succ k ih =>
    intro quoted
    exact ih ((quoted_measured (measure_dollar (literal (k + 1)))).mp quoted).2

theorem not_quoted_of_verbatim {body : Text} (clear : .char '"' ∉ body) (k m : Nat) :
    ¬ Quoted (List.replicate k (CodePoint.char '$') ++ .char '@' ::
      (List.replicate m (CodePoint.char '$') ++ .char '"' :: body)) := by
  have literal (k : Nat) : literal? (List.replicate k (CodePoint.char '$') ++ .char '@' ::
      (List.replicate m (CodePoint.char '$') ++ .char '"' :: body)) = none := by
    have long := longLiteral?_dollar k (c := .char '@') (by decide)
      (List.replicate m (CodePoint.char '$') ++ .char '"' :: body)
    have verbatim := verbatimLiteral?_form k m body
    rw [verbatimEnd?_clear clear] at verbatim
    have short := shortLiteral?_at k (List.replicate m (CodePoint.char '$') ++ .char '"' :: body)
    rw [literal?, long, verbatim, short, Option.none_or, Option.none_or]
  induction k with
  | zero =>
    intro quoted
    obtain ⟨c, tail, next, other⟩ : ∃ c tail,
        List.replicate m (CodePoint.char '$') ++ .char '"' :: body = c :: tail ∧
          startsWord c = false := by
      cases m with
      | zero => exact ⟨.char '"', body, rfl, by decide⟩
      | succ m => exact ⟨.char '$', _, rfl, by decide⟩
    have alone := literal 0
    rw [List.replicate_zero, List.nil_append, next] at alone quoted
    have later := ((quoted_measured (measure_at other alone)).mp quoted).2
    rw [List.drop_one, List.tail_cons, ← next] at later
    exact not_quoted_of_short (shortEnd?_clear clear) m later
  | succ k ih =>
    intro quoted
    exact ih ((quoted_measured (measure_dollar (literal (k + 1)))).mp quoted).2

/-- Where every quote belongs to a literal, the beginning of a literal is one. -/
theorem literal_of_opening {front t : Text} (opening : Opening front) (starts : front <+: t)
    (quoted : Quoted t) : literal? t ≠ none := by
  obtain ⟨body, rfl⟩ := starts
  intro literal
  cases opening with
  | single => exact not_quoted_of_lone (.inr rfl) literal quoted
  | double k =>
    rw [List.append_assoc, List.singleton_append] at literal quoted
    simp only [literal?, Option.or_eq_none_iff] at literal
    have open_end := literal.2.2
    rw [shortLiteral?_form] at open_end
    exact not_quoted_of_short (shortEnd?_none open_end) k quoted
  | verbatim k m =>
    simp only [List.append_assoc, List.cons_append, List.nil_append] at literal quoted
    simp only [literal?, Option.or_eq_none_iff] at literal
    have open_end := literal.2.1
    rw [verbatimLiteral?_form] at open_end
    exact not_quoted_of_verbatim (verbatimEnd?_none open_end).2 k m quoted

/-! ### Tokens in front of a blank -/

theorem literal?_none_cut {s : CodePoint} (h : s.isBlank) {t : Text} (none_ : literal? t = none)
    (quoted : Quoted t) (m : Nat) (rest : Text) : literal? (t.take m ++ s :: rest) = none := by
  cases found : literal? (t.take m ++ s :: rest) with
  | none => rfl
  | some n =>
    obtain ⟨front, opening, starts⟩ := opening_of_literal found
    have clear : s ∉ front := fun inside => by simp [opening.solid s inside] at h
    have inside := (prefix_of_cut starts clear).trans (List.take_prefix m t)
    exact absurd none_ (literal_of_opening opening inside quoted)

theorem literal?_cut {s : CodePoint} (h : s.isBlank) {t : Text} {n m : Nat}
    (literal : literal? t = some n) (quoted : Quoted (t.drop n)) (behind : n ≤ m) (rest : Text)
    (long : longLiteral? t = none → longLiteral? (t.take m ++ s :: rest) = none) :
    literal? (t.take m ++ s :: rest) = some n := by
  obtain ⟨body, ⟨after, whole⟩, length, _, same⟩ | ⟨body, after, whole, _, length, clear⟩ :=
    literal?_cases literal
  · have cut : t.take m ++ s :: rest = body ++ ((t.drop n).take (m - n) ++ s :: rest) := by
      rw [← List.append_assoc, whole, ← length, List.drop_left, List.take_append,
        List.take_of_length_le (by omega)]
    rw [cut] at long ⊢
    refine same _ (fun doubled => ?_) long
    cases follows : (t.drop n).take (m - n) with
    | nil =>
      rw [follows, List.nil_append, List.head?_cons, Option.some.injEq] at doubled
      exact absurd doubled (blank_ne h rfl)
    | cons c tail =>
      rw [follows, List.cons_append, List.head?_cons] at doubled
      obtain ⟨more, next⟩ := List.take_prefix (m - n) (t.drop n)
      rw [← next, follows, List.cons_append, List.head?_cons, doubled]
  · rw [whole, ← length, List.drop_left] at quoted
    exact absurd quoted (not_quoted_of_short (shortEnd?_clear clear) 0)

theorem blank?_none_cut {s : CodePoint} {t : Text} (none_ : blank? t = none) {m : Nat}
    (some_points : t.take m ≠ []) (rest : Text) : blank? (t.take m ++ s :: rest) = none := by
  cases t with
  | nil => simp at some_points
  | cons c t =>
    cases m with
    | zero => simp at some_points
    | succ m =>
      have solid : c.isBlank = false := by
        rw [Bool.eq_false_iff]
        intro blank
        simp [blank?, blank] at none_
      simp [blank?, solid]

/-- A token is measured as before when a blank follows it, or comes later in what follows it. What is
behind the blank counts only for comments and for literals between three quotes. -/
theorem measure_cut {s c : CodePoint} (h : s.isBlank) {t : Text} {k : Kind} {n m : Nat}
    (measured : measure (c :: t) = (k, n)) (comment : k ≠ .comment) (blank : k ≠ .blank)
    (quoted : Quoted (c :: t)) (behind : n ≤ m) (rest : Text)
    (no_comment : comment? ((c :: t).take m ++ s :: rest) = none)
    (no_long : longLiteral? (c :: t) = none →
      longLiteral? ((c :: t).take m ++ s :: rest) = none) :
    measure ((c :: t).take m ++ s :: rest) = (k, n) := by
  have some_points : (c :: t).take m ≠ [] := by
    have positive := (measure_le measured).1
    simp only [ne_eq, List.take_eq_nil_iff, reduceCtorEq, or_false]
    omega
  have tail := ((quoted_measured measured).mp quoted).2
  unfold measure at measured ⊢
  rw [no_comment]
  cases comment_here : comment? (c :: t) with
  | some i =>
    rw [comment_here] at measured
    cases measured
    exact absurd rfl comment
  | none =>
  rw [comment_here] at measured
  cases literal : literal? (c :: t) with
  | some i =>
    rw [literal] at measured
    cases measured
    rw [literal?_cut h literal tail behind rest no_long]
  | none =>
  rw [literal] at measured
  rw [literal?_none_cut h literal quoted]
  cases number : number? (c :: t) with
  | some i =>
    rw [number] at measured
    cases measured
    rw [number?_cut h number behind]
  | none =>
  rw [number] at measured
  rw [number?_none_cut h number]
  cases word : word? (c :: t) with
  | some i =>
    rw [word] at measured
    cases measured
    rw [word?_cut h word behind]
  | none =>
  rw [word] at measured
  rw [word?_none_cut h word]
  cases operator : operator? (c :: t) with
  | some i =>
    rw [operator] at measured
    cases measured
    rw [operator?_cut h operator behind]
  | none =>
  rw [operator] at measured
  rw [operator?_none_cut h operator]
  cases run : blank? (c :: t) with
  | some i =>
    rw [run] at measured
    cases measured
    exact absurd rfl blank
  | none =>
    rw [run] at measured
    cases measured
    rw [blank?_none_cut run some_points]

/-- The beginning of a comment. -/
theorem comment?_opening {t : Text} {n : Nat} (h : comment? t = some n) :
    [.char '/', .char '/'] <+: t ∨ [.char '/', .char '*'] <+: t := by
  unfold comment? at h
  split at h
  · exact .inl ⟨_, rfl⟩
  · exact .inr ⟨_, rfl⟩
  · cases h

theorem longLiteral?_opening {t : Text} {n : Nat} (h : longLiteral? t = some n) :
    List.replicate 3 (.char '"') <+: t := by
  unfold longLiteral? at h
  split at h
  · exact ⟨_, rfl⟩
  · cases h

theorem measure_slash {t : Text} (open_end : comment? (.char '/' :: .char '*' :: t) = none) :
    measure (.char '/' :: .char '*' :: t) = (.sign, 1) := by
  obtain ⟨literal, number, word⟩ := plain_starts_nothing (c := .char '/') (by decide) (.char '*' :: t)
  have operator : operator? (.char '/' :: .char '*' :: t) = none := by
    cases found : operator? (.char '/' :: .char '*' :: t) with
    | none => rfl
    | some n =>
      obtain ⟨o, member, front, _, _⟩ := operator?_cases found
      obtain ⟨_, long, _, second⟩ := operators_form o member
      have reaches : [.char '/', .char '*'] <+: o :=
        List.prefix_of_prefix_length_le ⟨t, rfl⟩ front long
      obtain ⟨tail, rfl⟩ := reaches
      exact absurd rfl (second (.char '*') (by simp)).2
  have blank : blank? (.char '/' :: .char '*' :: t) = none := rfl
  simp [measure, open_end, literal, number, word, operator, blank]

theorem measure_quotes {t : Text}
    (open_end : longLiteral? (.char '"' :: .char '"' :: .char '"' :: t) = none) :
    measure (.char '"' :: .char '"' :: .char '"' :: t) = (.literal, 2) := by
  have literal : literal? (.char '"' :: .char '"' :: .char '"' :: t) = some 2 := by
    rw [literal?, open_end]
    rfl
  simp [measure, comment?_head (c := .char '"') (by decide), literal]

/-- A token is measured as before when a blank follows it instead of the rest of its text. -/
theorem measure_before {s c : CodePoint} (h : s.isBlank) {t : Text} {k : Kind} {n : Nat}
    (measured : measure (c :: t) = (k, n)) (comment : k ≠ .comment) (blank : k ≠ .blank)
    (quoted : Quoted (c :: t)) (rest : Text) :
    measure ((c :: t).take n ++ s :: rest) = (k, n) := by
  have no_comment_here : comment? (c :: t) = none := by
    cases found : comment? (c :: t) with
    | none => rfl
    | some m =>
      simp only [measure, found] at measured
      cases measured
      exact absurd rfl comment
  refine measure_cut h measured comment blank quoted (Nat.le_refl n) rest ?_ ?_
  · cases found : comment? ((c :: t).take n ++ s :: rest) with
    | none => rfl
    | some m =>
      exfalso
      have slash := blank_ne h (c := .char '/') rfl
      rcases comment?_opening found with starts | starts
      · obtain ⟨after, whole⟩ := (prefix_of_cut starts (by simp [slash])).trans
          (List.take_prefix n (c :: t))
        rw [← whole] at no_comment_here
        cases no_comment_here
      · have inside := prefix_of_cut starts (by simp [slash, blank_ne h (c := .char '*') rfl])
        obtain ⟨after, whole⟩ := inside.trans (List.take_prefix n (c :: t))
        simp only [← whole, List.cons_append, List.nil_append] at no_comment_here measured
        cases (measure_slash no_comment_here).symm.trans measured
        have two := inside.length_le
        simp at two
  · intro no_long_here
    cases found : longLiteral? ((c :: t).take n ++ s :: rest) with
    | none => rfl
    | some m =>
      exfalso
      have inside := prefix_of_cut (longLiteral?_opening found)
        (by simp [blank_ne h (c := .char '"') rfl])
      obtain ⟨after, whole⟩ := inside.trans (List.take_prefix n (c :: t))
      have three : List.replicate 3 (CodePoint.char '"') ++ after =
        .char '"' :: .char '"' :: .char '"' :: after := rfl
      rw [← whole, three] at no_long_here measured
      cases (measure_quotes no_long_here).symm.trans measured
      have length := inside.length_le
      simp only [List.length_replicate, List.length_take, List.length_cons] at length
      omega

end BodyDigest.Braced.Lexeme
