import BodyDigest.Proofs.Text.Patterns
import BodyDigest.Proofs.Braced.Boundaries

/-!
The kinds of lexemes as patterns. The readers of lexemes take what the patterns take, where matching
goes back as far as it has to: behind the quote of a literal that nothing ends, in front of the sign of
an exponent without digits, to the first half of a doubled quote.
-/
namespace BodyDigest.Braced.Lexeme

open Text (Pattern)
open Text.Pattern

namespace Shape

/-- A comment up to the end of its line, or up to the first end of a block. -/
def comment : Pattern :=
  either (seq (exactly "//") (many (sign fun c => !isLineEnd c)))
    (seq (exactly "/*") (seq (fewest any) (exactly "*/")))

def dollars : Pattern := many (one (.char '$'))

def longLiteral : Pattern := seq (exactly "\"\"\"") (seq (fewest any) (exactly "\"\"\""))

def verbatimItem : Pattern := either (sign fun c => c ≠ .char '"') (exactly "\"\"")

def verbatimBody : Pattern := seq (many verbatimItem) (one (.char '"'))

def verbatimLiteral : Pattern :=
  seq dollars (seq (one (.char '@')) (seq dollars (seq (one (.char '"')) verbatimBody)))

def shortItem (quote : CodePoint) : Pattern :=
  either (sign fun c => c ≠ quote && c ≠ .char '\\' && !isLineEnd c) (seq (one (.char '\\')) any)

def shortBody (quote : CodePoint) : Pattern := seq (many (shortItem quote)) (one quote)

def doubleQuoted : Pattern := seq dollars (seq (one (.char '"')) (shortBody (.char '"')))

def singleQuoted : Pattern := seq (one (.char '\'')) (shortBody (.char '\''))

def literal : Pattern := anyOf [longLiteral, verbatimLiteral, doubleQuoted, singleQuoted]

def digits : Pattern := several (sign CodePoint.isDecimal)

def fraction : Pattern := seq (one (.char '.')) digits

def exponent : Pattern :=
  seq (sign fun c => c = .char 'e' || c = .char 'E') (seq (maybe (sign isSign)) digits)

def suffix : Pattern := many (sign CodePoint.isWord)

def number : Pattern := seq digits (seq (maybe fraction) (seq (maybe exponent) suffix))

def name : Pattern := seq (sign startsWord) (many (sign continuesWord))

def word : Pattern := either (seq (maybe (one (.char '@'))) name) (one (.char '$'))

/-- The kinds in the order in which they are tried. -/
def shapes : List (Kind × Pattern) :=
  [(.comment, comment), (.literal, literal), (.number, number), (.word, word),
    (.operator, anyOf (operators.map exactly)), (.blank, several (sign CodePoint.isBlank)),
    (.sign, any)]

/-- Kind and length of what the first pattern that fits takes. -/
def taken? (t : Text) : Option (Kind × Nat) :=
  shapes.findSome? fun shape => (shape.2.first t).map (shape.1, ·)

theorem not_isPrefixOf {w t : Text} (other : ∀ rest, t ≠ w ++ rest) : ¬ w.isPrefixOf t := by
  intro front
  obtain ⟨rest, same⟩ := List.isPrefixOf_iff_prefix.mp front
  exact other rest same.symm

/-! ### Comments -/

theorem upTo?_cons (pattern : Text) (c : CodePoint) (t : Text) : upTo? pattern (c :: t) =
    if pattern.isPrefixOf (c :: t) then some pattern.length else (upTo? pattern t).map (1 + ·) := by
  rw [upTo?, cutAt?, upTo?]
  split
  · simp
  · cases cutAt? pattern t with
    | none => rfl
    | some cut =>
      simp only [Option.map_some, List.length_cons, Option.some.injEq]
      omega

theorem first_upTo (pattern t : Text) :
    (seq (fewest any) (exactly pattern)).first t = upTo? pattern t := by
  induction t with
  | nil =>
    rw [first_fewest_seq, first_exactly, any, leads_sign]
    cases pattern <;> simp [upTo?, cutAt?]
  | cons c t ih =>
    rw [first_fewest_seq, first_exactly, any, leads_sign, upTo?_cons, ← ih]
    by_cases here : pattern.isPrefixOf (c :: t)
    · rw [if_pos here, if_pos here]
      rfl
    · rw [if_neg here, if_neg here]
      rfl

theorem first_comment (t : Text) : comment.first t = comment? t := by
  rw [comment, first_either, first_exactly_seq, first_exactly_seq, first_many_sign, first_upTo]
  fun_cases comment? t with
  | case1 rest => rfl
  | case2 rest => rfl
  | case3 t line block =>
    rw [if_neg (not_isPrefixOf line), if_neg (not_isPrefixOf block)]
    rfl

theorem first_longLiteral (t : Text) : longLiteral.first t = longLiteral? t := by
  rw [longLiteral, first_exactly_seq, first_upTo]
  fun_cases longLiteral? t with
  | case1 rest => rfl
  | case2 t other =>
    rw [if_neg (not_isPrefixOf other)]

/-! ### Literals -/

theorem first_verbatimBody (t : Text) : verbatimBody.first t =
    (verbatimItem.leads t fun n =>
      if n = 0 then (one (.char '"')).first t else (verbatimBody.first (t.drop n)).map (n + ·)).or
        ((one (.char '"')).first t) := first_many_seq ..

theorem first_verbatimBody_doubled (t : Text) :
    verbatimBody.first (.char '"' :: .char '"' :: t) =
      ((verbatimBody.first t).map (2 + ·)).or (some 1) := by
  rw [first_verbatimBody, verbatimItem, leads_either, leads_sign, leads_exactly, first_one_cons]
  rfl

theorem first_verbatimBody_quote {t : Text} (single : ∀ rest, t ≠ .char '"' :: rest) :
    verbatimBody.first (.char '"' :: t) = some 1 := by
  have alone : ¬ (Text.ofString "\"\"").isPrefixOf (.char '"' :: t) :=
    not_isPrefixOf fun rest same => single rest (List.cons.inj same).2
  rw [first_verbatimBody, verbatimItem, leads_either, leads_sign, leads_exactly, if_neg alone,
    first_one_cons]
  rfl

theorem first_verbatimBody_cons {c : CodePoint} (other : c ≠ .char '"') (t : Text) :
    verbatimBody.first (c :: t) = (verbatimBody.first t).map (1 + ·) := by
  have no_quote : ¬ (Text.ofString "\"\"").isPrefixOf (c :: t) :=
    not_isPrefixOf fun rest same => other (List.cons.inj same).1
  rw [first_verbatimBody, verbatimItem, leads_either, leads_sign, leads_exactly,
    if_pos (by simpa using other), if_neg no_quote, first_one_cons, if_neg other, Option.or_none,
    Option.or_none]
  rfl

theorem verbatimEnd?_eq_first (n : Nat) (last : Option Nat) (t : Text) :
    verbatimEnd? n last t = ((verbatimBody.first t).map (n + ·)).or last := by
  fun_induction verbatimEnd? n last t with
  | case1 n last => rfl
  | case2 n last rest ih =>
    rw [ih, first_verbatimBody_doubled]
    cases verbatimBody.first rest <;> simp [Nat.add_assoc]
  | case3 n last tail single => rw [first_verbatimBody_quote single]; rfl
  | case4 n last c rest doubled quote ih =>
    rw [ih, first_verbatimBody_cons quote, Option.map_map]
    simp [Function.comp_def, Nat.add_assoc]

theorem first_shortBody (quote : CodePoint) (t : Text) : (shortBody quote).first t =
    ((shortItem quote).leads t fun n =>
      if n = 0 then (one quote).first t else ((shortBody quote).first (t.drop n)).map (n + ·)).or
        ((one quote).first t) :=
  first_many_seq ..

theorem first_shortBody_cons (quote c : CodePoint) (t : Text) : (shortBody quote).first (c :: t) =
    ((if c ≠ quote ∧ c ≠ .char '\\' ∧ isLineEnd c = false then
        ((shortBody quote).first t).map (1 + ·) else none).or
      (if c = .char '\\' ∧ t ≠ [] then ((shortBody quote).first (t.drop 1)).map (2 + ·) else none)).or
      (if c = quote then some 1 else none) := by
  rw [first_shortBody, shortItem, leads_either, leads_sign, leads_seq, leads_one_cons, any,
    leads_sign, first_one_cons]
  cases t <;> simp [and_assoc]

theorem shortEnd?_eq_first {quote : CodePoint} (other : quote ≠ .char '\\') (n : Nat) (t : Text) :
    shortEnd? quote n t = ((shortBody quote).first t).map (n + ·) := by
  fun_induction shortEnd? quote n t with
  | case1 n => rfl
  | case2 n escaped rest ih =>
    rw [ih, first_shortBody_cons]
    simp [Ne.symm other, Function.comp_def, Nat.add_assoc]
  | case3 n rest here =>
    rw [first_shortBody_cons]
    simp [other]
  | case4 n c rest single different stop =>
    have last : c = .char '\\' → rest = [] := by
      rintro rfl
      cases rest with
      | nil => rfl
      | cons d rest => exact (single d rest rfl rfl).elim
    have no_plain : ¬ (c ≠ quote ∧ c ≠ .char '\\' ∧ isLineEnd c = false) := by
      rintro ⟨-, plain, inside⟩
      simp [plain, inside] at stop
    have no_escape : ¬ (c = .char '\\' ∧ rest ≠ []) := fun escape => escape.2 (last escape.1)
    rw [first_shortBody_cons, if_neg no_plain, if_neg no_escape, if_neg different]
    rfl
  | case5 n c rest single different inside ih =>
    obtain ⟨inline, plain⟩ : isLineEnd c = false ∧ c ≠ .char '\\' := by simpa using inside
    rw [ih, first_shortBody_cons]
    simp [different, inline, plain, Function.comp_def, Nat.add_assoc]

/-- Dollar signs in front of another sign. -/
theorem first_dollars_seq {c : CodePoint} (other : c ≠ .char '$') (q : Pattern) (t : Text) :
    (seq dollars (seq (one c) q)).first t =
      ((seq (one c) q).first (t.drop (t.takeWhile (· = .char '$')).length)).map
        ((t.takeWhile (· = .char '$')).length + ·) := by
  refine first_run_seq (fun d u dollar => ?_) t
  rw [decide_eq_true_eq] at dollar
  rw [first_one_seq, if_neg (by rw [dollar]; exact Ne.symm other)]

theorem first_verbatimLiteral (t : Text) : verbatimLiteral.first t = verbatimLiteral? t := by
  rw [verbatimLiteral, first_dollars_seq (by decide)]
  unfold verbatimLiteral?
  dsimp only
  split
  · rename_i rest at_sign
    rw [at_sign, first_one_seq, if_pos rfl, first_dollars_seq (by decide)]
    split
    · rename_i body quote
      rw [quote, first_one_seq, if_pos rfl, verbatimEnd?_eq_first, Option.or_none, Option.map_map,
        Option.map_map, Option.map_map]
      congr 1
      funext n
      simp only [Function.comp_apply]
      omega
    · rename_i other
      rw [first_one_seq_none other]
      rfl
  · rename_i other
    rw [first_one_seq_none other]
    rfl

theorem first_doubleQuoted (t : Text) :
    doubleQuoted.first t =
      match t.drop (t.takeWhile (· = .char '$')).length with
      | .char '"' :: rest =>
        shortEnd? (.char '"') ((t.takeWhile (· = .char '$')).length + 1) rest
      | _ => none := by
  rw [doubleQuoted, first_dollars_seq (by decide)]
  split
  · rename_i rest quote
    rw [quote, first_one_seq, if_pos rfl, Option.map_map, shortEnd?_eq_first (by decide)]
    simp only [Function.comp_def, Nat.add_assoc]
  · rename_i other
    rw [first_one_seq_none other]
    rfl

theorem first_shortLiteral (t : Text) :
    (doubleQuoted.first t).or (singleQuoted.first t) = shortLiteral? t := by
  unfold singleQuoted shortLiteral?
  split
  · rename_i rest
    rw [first_doubleQuoted, first_one_seq, if_pos rfl, shortEnd?_eq_first (by decide)]
    rfl
  · rename_i other
    rw [first_one_seq_none other, Option.or_none]
    exact first_doubleQuoted t

theorem first_literal (t : Text) : literal.first t = literal? t := by
  have fails : (anyOf []).first t = none := by cases t <;> rfl
  rw [literal, anyOf, anyOf, anyOf, anyOf, first_either, first_either, first_either, first_either,
    first_longLiteral, first_verbatimLiteral, fails, Option.or_none, first_shortLiteral, literal?]

/-! ### Numbers and words -/

theorem first_digits (t : Text) :
    digits.first t = if Lexeme.digits t = 0 then none else some (Lexeme.digits t) := first_several ..

theorem first_fraction (t : Text) : (maybe fraction).first t = some (fractionLength t) := by
  rw [first_maybe, fraction]
  unfold fractionLength
  split
  · rename_i rest
    rw [first_one_seq, if_pos rfl, first_digits]
    split <;> rfl
  · rename_i other
    rw [first_one_seq_none other]
    rfl

theorem first_signedDigits (t : Text) : (seq (maybe (sign isSign)) digits).first t =
    if Lexeme.digits (t.drop (min 1 (t.takeWhile isSign).length)) = 0 then none
    else some (min 1 (t.takeWhile isSign).length +
      Lexeme.digits (t.drop (min 1 (t.takeWhile isSign).length))) := by
  rw [first_maybe_seq, leads_sign]
  cases t with
  | nil => rfl
  | cons c t =>
    by_cases signed : isSign c
    · have no_digit : Lexeme.digits (c :: t) = 0 := by
        simp only [isSign, Bool.or_eq_true, decide_eq_true_eq] at signed
        rcases signed with rfl | rfl <;> rfl
      have one_sign : min 1 ((c :: t).takeWhile isSign).length = 1 := by
        rw [List.takeWhile_cons_of_pos signed, List.length_cons]
        omega
      rw [List.head?_cons, Option.any_some, if_pos signed, first_digits, first_digits, if_pos no_digit,
        Option.or_none, one_sign]
      split <;> rfl
    · rw [List.head?_cons, Option.any_some, if_neg signed, List.takeWhile_cons_of_neg signed,
        first_digits]
      simp

theorem first_exponent (t : Text) : (maybe exponent).first t = some (exponentLength t) := by
  rw [first_maybe, exponent, first_sign_seq]
  cases t with
  | nil => rfl
  | cons e t =>
    rw [exponentLength_cons, List.head?_cons, Option.any_some, List.drop_one, List.tail_cons,
      first_signedDigits]
    split
    · split
      · rfl
      · rw [Option.map_some, Option.getD_some, Nat.add_assoc]
    · rfl

theorem first_number (t : Text) : number.first t = number? t := by
  rw [number]
  by_cases empty : Lexeme.digits t = 0
  · rw [first_seq_none (by rw [first_digits, if_pos empty]), number?_eq_none.mpr empty]
  · have tail (u : Text) : (seq (maybe exponent) suffix).first u =
        some (exponentLength u + ((u.drop (exponentLength u)).takeWhile CodePoint.isWord).length) := by
      rw [suffix, first_seq (first_exponent u) (by rw [first_many_sign]; rfl), first_many_sign]
      rfl
    have behind (u : Text) : (seq (maybe fraction) (seq (maybe exponent) suffix)).first u =
        some (fractionLength u + (exponentLength (u.drop (fractionLength u)) +
          (((u.drop (fractionLength u)).drop (exponentLength (u.drop (fractionLength u)))).takeWhile
            CodePoint.isWord).length)) := by
      rw [first_seq (first_fraction u) (by rw [tail]; rfl), tail]
      rfl
    rw [first_seq (by rw [first_digits, if_neg empty]) (by rw [behind]; rfl), behind]
    symm
    rw [Option.map_some, number?_iff]
    refine ⟨empty, _, _, rfl, rfl, ?_⟩
    simp only [List.drop_drop, Nat.add_assoc]

theorem first_name (c : CodePoint) (t : Text) : name.first (c :: t) =
    if startsWord c then some (1 + (t.takeWhile continuesWord).length) else none := by
  rw [name, first_sign_seq, first_many_sign]
  rfl

theorem first_word (t : Text) : word.first t = word? t := by
  rw [word, first_either, first_maybe_seq]
  unfold word?
  split
  · rename_i c rest
    have no_word : ¬ startsWord (.char '@') := by decide
    have no_dollar : CodePoint.char '@' ≠ .char '$' := by decide
    rw [leads_one_cons, if_pos rfl, List.drop_one, List.tail_cons, first_name, first_name,
      if_neg no_word, first_one_cons, if_neg no_dollar, Option.or_none, Option.or_none]
    split
    · rw [Option.map_some, ← Nat.add_assoc]
    · rfl
  · rename_i c rest other
    have no_at : ((one (.char '@')).leads (c :: rest) fun n =>
        (name.first ((c :: rest).drop n)).map (n + ·)) = none := by
      rw [leads_one_cons]
      split
      · rename_i at_sign
        cases rest with
        | nil => rfl
        | cons d rest => exact (other d rest at_sign rfl).elim
      · rfl
    rw [no_at, Option.none_or, first_name, first_one_cons]
    split
    · rfl
    · rw [Option.none_or]
  · rfl

theorem first_operator (t : Text) : (anyOf (operators.map exactly)).first t = operator? t :=
  first_anyOf_exactly operators t

theorem first_blank (t : Text) : (several (sign CodePoint.isBlank)).first t = blank? t :=
  first_several ..

/-! ### Lexemes -/

theorem taken?_eq (t : Text) : taken? t = (read? t).or ((any.first t).map (.sign, ·)) := by
  have step (l : List (Kind × Pattern)) (k : Kind) (p : Pattern) :
      ((k, p) :: l).findSome? (fun shape => (shape.2.first t).map (shape.1, ·)) =
        ((p.first t).map (k, ·)).or (l.findSome? fun shape => (shape.2.first t).map (shape.1, ·)) := by
    rw [List.findSome?_cons]
    dsimp only
    cases p.first t <;> rfl
  rw [taken?, shapes, step, step, step, step, step, step, step, first_comment, first_literal,
    first_number, first_word, first_operator, first_blank, List.findSome?_nil, Option.or_none, read?]
  simp only [Option.or_assoc]

theorem taken?_nil : taken? [] = none := rfl

/-- The first pattern that fits takes the lexeme at the start of a text. -/
theorem taken?_cons (c : CodePoint) (t : Text) : taken? (c :: t) = some (measure (c :: t)) := by
  have sign : any.first (c :: t) = some 1 := by rw [first_eq_leads, leads_any_cons]
  rw [taken?_eq, sign, measure_eq]
  cases read? (c :: t) <;> rfl

theorem taken?_isSome_iff (t : Text) : (taken? t).isSome ↔ t ≠ [] := by
  cases t with
  | nil => simp [taken?_nil]
  | cons c t => simp [taken?_cons]

theorem taken?_pos {t : Text} {k : Kind} {n : Nat} (h : taken? t = some (k, n)) : 0 < n := by
  cases t with
  | nil => cases h
  | cons c t =>
    rw [taken?_cons] at h
    exact (measure_le (Option.some.inj h)).1

/-- An exponent without digits is none: its letter belongs to the number, its sign does not. -/
example : taken? "1e+x" = some (.number, 2) := by decide +kernel

end Shape

end BodyDigest.Braced.Lexeme
