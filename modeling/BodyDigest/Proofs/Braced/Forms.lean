import BodyDigest.Proofs.Braced.Separation

/-!
The literals of C# and Java, as these languages write them, and which of them are one lexeme. Literals
on one line and literals with doubled quotes all are; a literal between three quotes is cut at the
first three quotes inside it, an escaped quote among them, and a raw literal is one lexeme only between
exactly three quotes and without a dollar sign.
-/
namespace BodyDigest.Braced

/-! ### Forms -/

/-- A code point inside a literal, or one that stands behind a backslash. -/
inductive Mark where
  | plain (c : CodePoint)
  | escaped (c : CodePoint)
  deriving DecidableEq

def Mark.text : Mark → Text
  | plain c => [c]
  | escaped c => [.char '\\', c]

/-- Whether a mark may stand on one line between two quotes: the quote itself and line ends may only
behind a backslash. -/
def Mark.isInline (quote : CodePoint) : Mark → Bool
  | plain c => c ≠ quote && c ≠ .char '\\' && !Lexeme.isLineEnd c
  | escaped _ => true

def markText (marks : List Mark) : Text := marks.flatMap Mark.text

def quotes (n : Nat) : Text := List.replicate n (.char '"')

theorem quotes_add (m n : Nat) : quotes (m + n) = quotes m ++ quotes n :=
  (List.replicate_append_replicate ..).symm

def dollars (n : Nat) : Text := List.replicate n (.char '$')

/-- A text in which every quote is written twice. -/
def doubled (t : Text) : Text := Text.replaceOne (.char '"') (quotes 2) t

/-- The forms of literals: between double or single quotes, behind an at sign, a block of text between
three quotes, and raw between three quotes or more. -/
inductive Form where
  | quoted (signs : Nat) (marks : List Mark)
  | character (marks : List Mark)
  | verbatim (before after : Nat) (content : Text)
  | block (marks : List Mark)
  | raw (signs size : Nat) (content : Text)
  deriving DecidableEq

namespace Form

def text : Form → Text
  | quoted k marks => dollars k ++ .char '"' :: (markText marks ++ [.char '"'])
  | character marks => .char '\'' :: (markText marks ++ [.char '\''])
  | verbatim k m content =>
    dollars k ++ .char '@' :: (dollars m ++ .char '"' :: (doubled content ++ [.char '"']))
  | block marks => quotes 3 ++ markText marks ++ quotes 3
  | raw k n content => dollars k ++ quotes n ++ content ++ quotes n

/-- What the languages ask of a literal. Three quotes end a block unless a backslash is in front of
one of them, and a raw literal ends at as many quotes as it starts with. -/
def IsWellFormed : Form → Prop
  | quoted _ marks => marks.all (·.isInline (.char '"'))
  | character marks => marks.all (·.isInline (.char '\''))
  | verbatim _ _ _ => True
  | block marks => .plain (.char '\\') ∉ marks ∧
      ¬ List.replicate 3 (.plain (.char '"')) <:+: marks ∧ marks.getLast? ≠ some (.plain (.char '"'))
  | raw _ n content => 3 ≤ n ∧ ¬ quotes n <:+: content ∧ content ≠ [] ∧
      content.head? ≠ some (.char '"') ∧ content.getLast? ≠ some (.char '"')

/-- No three quotes come before those that end the literal. -/
def EndsInPlace : Form → Prop
  | block marks => ¬ quotes 3 <:+: markText marks ++ quotes 2
  | raw k n _ => k = 0 ∧ n = 3
  | _ => True

instance : DecidablePred IsWellFormed
  | quoted _ marks => inferInstanceAs (Decidable (marks.all _))
  | character marks => inferInstanceAs (Decidable (marks.all _))
  | verbatim _ _ _ => inferInstanceAs (Decidable True)
  | block _ => inferInstanceAs (Decidable (_ ∧ _))
  | raw _ _ _ => inferInstanceAs (Decidable (_ ∧ _))

instance : DecidablePred EndsInPlace
  | quoted _ _ => inferInstanceAs (Decidable True)
  | character _ => inferInstanceAs (Decidable True)
  | verbatim _ _ _ => inferInstanceAs (Decidable True)
  | block _ => inferInstanceAs (Decidable ¬ _)
  | raw _ _ _ => inferInstanceAs (Decidable (_ ∧ _))

end Form

/-! ### Ends of literals -/

namespace Lexeme

theorem cutAt?_first {front t : Text} {last : CodePoint} (clear : ¬ front ++ [last] <:+: t ++ front)
    (rest : Text) : cutAt? (front ++ [last]) (t ++ (front ++ [last]) ++ rest) = some (t, rest) := by
  induction t with
  | nil =>
    cases front <;> simp [cutAt?]
  | cons c t ih =>
    have later : ¬ (front ++ [last]).isPrefixOf (c :: (t ++ (front ++ [last]) ++ rest)) := by
      intro here
      have starts := List.isPrefixOf_iff_prefix.mp here
      have whole : c :: t ++ front <+: c :: (t ++ (front ++ [last]) ++ rest) :=
        ⟨last :: rest, by simp⟩
      refine clear (List.prefix_of_prefix_length_le starts whole ?_).isInfix
      simp only [List.length_append, List.length_cons, List.length_nil]
      omega
    rw [List.cons_append, List.cons_append, cutAt?, if_neg later,
      ih fun inside => clear (inside.trans (List.suffix_cons c _).isInfix), Option.map_some]

theorem upTo?_first {front t : Text} {last : CodePoint} (clear : ¬ front ++ [last] <:+: t ++ front)
    (rest : Text) : upTo? (front ++ [last]) (t ++ (front ++ [last]) ++ rest) =
      some (t.length + (front ++ [last]).length) := by
  rw [upTo?, cutAt?_first clear, Option.map_some]

/-- Where a pattern occurs before it is written, what is looked for ends there. -/
theorem upTo?_early {front t : Text} {last : CodePoint} (inside : front ++ [last] <:+: t ++ front)
    (rest : Text) : ∃ n, upTo? (front ++ [last]) (t ++ (front ++ [last]) ++ rest) = some n ∧
      n < t.length + (front ++ [last]).length := by
  obtain ⟨n, found⟩ := Option.isSome_iff_exists.mp (upTo?_isSome_iff.mpr inside)
  obtain ⟨before, after, whole, length, again⟩ := upTo?_eq found
  refine ⟨n, ?_, ?_⟩
  · rw [← again (after ++ last :: rest), ← List.append_assoc (before ++ _), ← whole]
    simp
  · have count := congrArg List.length whole
    simp only [List.length_append, List.length_singleton] at count length ⊢
    omega

theorem shortEnd?_marks {quote : CodePoint} (other : quote ≠ .char '\\') {marks : List Mark}
    (inline : marks.all (·.isInline quote)) (n : Nat) (rest : Text) :
    shortEnd? quote n (markText marks ++ quote :: rest) = some (n + (markText marks).length + 1) := by
  induction marks generalizing n with
  | nil =>
    rw [markText, List.flatMap_nil, List.nil_append, shortEnd?]
    · simp
    · simp [other]
  | cons m marks ih =>
    rw [List.all_cons, Bool.and_eq_true] at inline
    have later := ih inline.2
    cases m with
    | plain c =>
      obtain ⟨different, single, inside⟩ : c ≠ quote ∧ c ≠ .char '\\' ∧ isLineEnd c = false := by
        simpa [Mark.isInline, and_assoc] using inline.1
      change shortEnd? quote n (c :: (markText marks ++ quote :: rest)) = _
      rw [shortEnd?_cons different single inside, later, markText, markText, List.flatMap_cons,
        Mark.text, List.length_append, List.length_singleton]
      congr 1
      omega
    | escaped c =>
      change shortEnd? quote n (.char '\\' :: c :: (markText marks ++ quote :: rest)) = _
      rw [shortEnd?, later, markText, markText, List.flatMap_cons, Mark.text, List.length_append]
      congr 1
      simp only [List.length_cons, List.length_nil]
      omega

theorem verbatimEnd?_doubled {rest : Text} (single : rest.head? ≠ some (.char '"')) (content : Text)
    (n : Nat) (last : Option Nat) :
    verbatimEnd? n last (doubled content ++ .char '"' :: rest) =
      some (n + (doubled content).length + 1) := by
  induction content generalizing n last with
  | nil =>
    change verbatimEnd? n last (.char '"' :: rest) = some (n + 0 + 1)
    cases rest with
    | nil => rfl
    | cons c rest =>
      have other : c ≠ .char '"' := by simpa using single
      simp [verbatimEnd?, other]
  | cons c content ih =>
    by_cases quote : c = .char '"'
    · subst quote
      change verbatimEnd? n last (.char '"' :: .char '"' :: (doubled content ++ .char '"' :: rest)) = _
      rw [verbatimEnd?, ih]
      change _ = some (n + ((doubled content).length + 2) + 1)
      congr 1
      omega
    · have one : doubled (c :: content) = c :: doubled content := by
        simp [doubled, Text.replaceOne, quote]
      rw [one, List.cons_append, verbatimEnd?_cons quote, ih, List.length_cons]
      congr 1
      omega

/-- The first mark of a literal on one line is no quote, so that three quotes start one only where a
quote follows the empty literal. -/
theorem longLiteral?_inline {marks : List Mark} (inline : marks.all (·.isInline (.char '"')))
    (k : Nat) {rest : Text} (single : rest.head? ≠ some (.char '"')) :
    longLiteral? (dollars k ++ .char '"' :: (markText marks ++ .char '"' :: rest)) = none := by
  cases k with
  | succ k => rfl
  | zero =>
    cases marks with
    | nil =>
      cases rest with
      | nil => rfl
      | cons c rest =>
        have other : c ≠ .char '"' := by simpa using single
        simp [longLiteral?, dollars, markText, other]
    | cons m marks =>
      cases m with
      | plain c =>
        have other : c ≠ .char '"' := by
          rintro rfl
          cases inline
        simp [longLiteral?, dollars, markText, Mark.text, other]
      | escaped c => rfl

theorem longLiteral?_quotes (t : Text) :
    longLiteral? (quotes 3 ++ t) = (upTo? (quotes 2 ++ [.char '"']) t).map (3 + ·) := rfl

theorem longLiteral?_first {t : Text} (clear : ¬ quotes 3 <:+: t ++ quotes 2) (rest : Text) :
    longLiteral? (quotes 3 ++ t ++ quotes 3 ++ rest) = some (quotes 3 ++ t ++ quotes 3).length := by
  have ends : upTo? (quotes 2 ++ [.char '"']) (t ++ quotes 3 ++ rest) = some (t.length + 3) :=
    upTo?_first clear rest
  rw [List.append_assoc, List.append_assoc, ← List.append_assoc t, longLiteral?_quotes, ends]
  simp only [Option.map_some, List.length_append, quotes, List.length_replicate, Nat.add_assoc]

theorem longLiteral?_early {t : Text} (inside : quotes 3 <:+: t ++ quotes 2) (rest : Text) :
    ∃ n, longLiteral? (quotes 3 ++ t ++ quotes 3 ++ rest) = some n ∧
      n < (quotes 3 ++ t ++ quotes 3).length := by
  obtain ⟨n, ends, early⟩ : ∃ n, upTo? (quotes 2 ++ [.char '"']) (t ++ quotes 3 ++ rest) = some n ∧
      n < t.length + 3 := upTo?_early inside rest
  refine ⟨3 + n, ?_, ?_⟩
  · rw [List.append_assoc, List.append_assoc, ← List.append_assoc t, longLiteral?_quotes, ends]
    rfl
  · simp only [List.length_append, quotes, List.length_replicate]
    omega

end Lexeme

namespace Form

open Lexeme

variable {f : Form} {rest : Text}

/-- Quotes behind a text that ends in something else make no three quotes with it. -/
theorem raw_clear {content : Text} (some_content : content ≠ [])
    (last : content.getLast? ≠ some (.char '"')) (clear : ¬ quotes 3 <:+: content) :
    ¬ quotes 3 <:+: content ++ quotes 2 := by
  obtain ⟨front, c, rfl⟩ := (List.eq_nil_or_concat content).resolve_left some_content
  rw [List.concat_eq_append] at clear last ⊢
  have other : c ≠ .char '"' := by simpa using last
  intro inside
  rw [List.append_assoc, List.singleton_append] at inside
  rcases infix_around (by simp [quotes, other]) inside with before | behind
  · exact clear (before.trans (List.prefix_append front [c]).isInfix)
  · exact absurd behind.length_le (by decide)

/-- A literal that ends in its place is read up to its end, unless a quote follows it. -/
theorem literal?_of_endsInPlace (wellFormed : f.IsWellFormed) (inPlace : f.EndsInPlace)
    (single : rest.head? ≠ some (.char '"')) : literal? (f.text ++ rest) = some f.text.length := by
  cases f with
  | quoted k marks =>
    have long := longLiteral?_inline wellFormed k single
    have verbatim := verbatimLiteral?_quote k (markText marks ++ .char '"' :: rest)
    have short := shortLiteral?_form k (markText marks ++ .char '"' :: rest)
    rw [shortEnd?_marks (by decide) wellFormed] at short
    simp only [text, dollars, List.append_assoc, List.cons_append, List.nil_append] at long ⊢
    rw [literal?, long, verbatim, short]
    simp
    omega
  | character marks =>
    have short := shortEnd?_marks (by decide) wellFormed 1 rest
    have whole : (character marks).text ++ rest =
        .char '\'' :: (markText marks ++ .char '\'' :: rest) := by simp [text]
    rw [whole]
    change shortEnd? (.char '\'') 1 (markText marks ++ .char '\'' :: rest) = _
    rw [short]
    simp [text]
    omega
  | verbatim k m content =>
    have long := longLiteral?_dollar k (c := .char '@') (by decide)
      (dollars m ++ .char '"' :: (doubled content ++ .char '"' :: rest))
    have verbatim := verbatimLiteral?_form k m (doubled content ++ .char '"' :: rest)
    rw [verbatimEnd?_doubled single] at verbatim
    simp only [text, dollars, List.append_assoc, List.cons_append, List.nil_append] at long ⊢
    rw [literal?, long, verbatim]
    simp
    omega
  | block marks =>
    rw [literal?, text, longLiteral?_first inPlace, Option.some_or]
  | raw k n content =>
    obtain ⟨rfl, rfl⟩ := inPlace
    obtain ⟨-, clear, some_content, -, last⟩ := wellFormed
    rw [literal?, text, dollars, List.replicate_zero, List.nil_append,
      longLiteral?_first (raw_clear some_content last clear), Option.some_or]

/-- Of more than three quotes at the end of a raw literal, three come too early. -/
theorem literal?_raw_wide (j : Nat) (content rest : Text) :
    ∃ n, literal? ((raw 0 (3 + (j + 1)) content).text ++ rest) = some n ∧
      n < (raw 0 (3 + (j + 1)) content).text.length := by
  have inside : quotes 3 <:+: quotes (j + 1) ++ content ++ quotes (j + 1) ++ quotes 2 :=
    ⟨quotes (j + 1) ++ content ++ quotes j, [], by simp [quotes, List.replicate_succ']⟩
  have whole : (raw 0 (3 + (j + 1)) content).text =
      quotes 3 ++ (quotes (j + 1) ++ content ++ quotes (j + 1)) ++ quotes 3 :=
    calc (raw 0 (3 + (j + 1)) content).text
        = quotes (3 + (j + 1)) ++ content ++ quotes (j + 1 + 3) := by
          rw [Nat.add_comm (j + 1)]
          rfl
      _ = quotes 3 ++ (quotes (j + 1) ++ content ++ quotes (j + 1)) ++ quotes 3 := by
          rw [quotes_add 3, quotes_add (j + 1)]
          simp
  obtain ⟨m, long, early⟩ := longLiteral?_early inside rest
  refine ⟨m, ?_, whole ▸ early⟩
  rw [whole, literal?, long, Option.some_or]

/-- Behind a dollar sign, the second quote of a raw literal ends the literal that the first one
starts. -/
theorem literal?_raw_dollar (k i : Nat) (content rest : Text) :
    literal? ((raw (k + 1) (3 + i) content).text ++ rest) = some (k + 3) := by
  have three : quotes 3 = [.char '"', .char '"', .char '"'] := rfl
  obtain ⟨more, opened⟩ : ∃ more, (raw (k + 1) (3 + i) content).text ++ rest =
      dollars (k + 1) ++ .char '"' :: .char '"' :: more :=
    ⟨.char '"' :: (quotes i ++ content ++ quotes (3 + i) ++ rest), by simp [text, quotes_add, three]⟩
  have long : longLiteral? (dollars (k + 1) ++ .char '"' :: .char '"' :: more) = none := rfl
  have verbatim := verbatimLiteral?_quote (k + 1) (.char '"' :: more)
  have short := shortLiteral?_form (k + 1) (.char '"' :: more)
  have ended : shortEnd? (.char '"') (k + 1 + 1) (.char '"' :: more) = some (k + 3) := rfl
  rw [ended] at short
  rw [opened]
  simp only [dollars] at long ⊢
  rw [literal?, long, verbatim, short, Option.none_or, Option.none_or]

/-- A literal that does not end in its place is cut short. -/
theorem literal?_of_not_endsInPlace (wellFormed : f.IsWellFormed) (inPlace : ¬ f.EndsInPlace)
    (rest : Text) : ∃ n, literal? (f.text ++ rest) = some n ∧ n < f.text.length := by
  cases f with
  | quoted k marks => exact absurd trivial inPlace
  | character marks => exact absurd trivial inPlace
  | verbatim k m content => exact absurd trivial inPlace
  | block marks =>
    obtain ⟨n, long, early⟩ := longLiteral?_early (Decidable.of_not_not inPlace) rest
    refine ⟨n, ?_, early⟩
    rw [literal?, text, long, Option.some_or]
  | raw k n content =>
    obtain ⟨i, rfl⟩ : ∃ i, n = 3 + i := Nat.exists_eq_add_of_le wellFormed.1
    cases k with
    | zero =>
      obtain ⟨j, rfl⟩ : ∃ j, i = j + 1 :=
        Nat.exists_eq_add_one_of_ne_zero fun least => inPlace ⟨rfl, by rw [least]⟩
      exact literal?_raw_wide j content rest
    | succ k =>
      refine ⟨k + 3, literal?_raw_dollar k i content rest, ?_⟩
      simp only [text, dollars, quotes, List.length_append, List.length_replicate]
      omega

/-! ### Lexemes -/

/-- What a literal can start with. -/
def openers : Text := [.char '"', .char '\'', .char '$', .char '@']

theorem openers_plain : ∀ c ∈ openers, c ≠ .char '/' ∧ c ≠ .char ';' ∧ c.isBlank = false := by decide

theorem dollars_head {c : CodePoint} (opener : c ∈ openers) (k : Nat) (rest : Text) :
    ∃ d more, dollars k ++ c :: rest = d :: more ∧ d ∈ openers := by
  cases k with
  | zero => exact ⟨c, rest, rfl, opener⟩
  | succ k => exact ⟨.char '$', dollars k ++ c :: rest, rfl, by decide⟩

theorem text_head (wellFormed : f.IsWellFormed) : ∃ c more, f.text = c :: more ∧ c ∈ openers := by
  cases f with
  | quoted k marks => exact dollars_head (by decide) k _
  | character marks => exact ⟨.char '\'', _, rfl, by decide⟩
  | verbatim k m content => exact dollars_head (by decide) k _
  | block marks => exact ⟨.char '"', _, rfl, by decide⟩
  | raw k n content =>
    obtain ⟨i, rfl⟩ : ∃ i, n = i + 1 := ⟨n - 1, by have := wellFormed.1; omega⟩
    have whole : (raw k (i + 1) content).text =
        dollars k ++ .char '"' :: (quotes i ++ content ++ quotes (i + 1)) := by
      simp [text, quotes, List.replicate_succ]
    rw [whole]
    exact dollars_head (by decide) k _

theorem text_solid (wellFormed : f.IsWellFormed) : Solid f.text := by
  obtain ⟨c, more, starts, opener⟩ := text_head wellFormed
  refine ⟨⟨c, more, starts, (openers_plain c opener).2.2⟩, ?_⟩
  cases f with
  | quoted k marks => exact ⟨dollars k ++ .char '"' :: markText marks, .char '"', by simp [text], rfl⟩
  | character marks => exact ⟨.char '\'' :: markText marks, .char '\'', by simp [text], rfl⟩
  | verbatim k m content =>
    exact ⟨dollars k ++ .char '@' :: (dollars m ++ .char '"' :: doubled content), .char '"',
      by simp [text], rfl⟩
  | block marks => exact ⟨quotes 3 ++ markText marks ++ quotes 2, .char '"', by simp [text]; rfl, rfl⟩
  | raw k n content =>
    obtain ⟨i, rfl⟩ : ∃ i, n = i + 1 := ⟨n - 1, by have := wellFormed.1; omega⟩
    exact ⟨dollars k ++ quotes (i + 1) ++ content ++ quotes i, .char '"',
      by simp [text, quotes, List.replicate_succ'], rfl⟩

theorem text_ne_semicolon (wellFormed : f.IsWellFormed) : f.text ≠ (";" : Text) := by
  obtain ⟨c, more, starts, opener⟩ := text_head wellFormed
  rw [starts]
  exact fun same => (openers_plain c opener).2.1 (List.cons.inj same).1

theorem measure_of_literal {c : CodePoint} {t : Text} {n : Nat} (opener : c ∈ openers)
    (literal : literal? (c :: t) = some n) : Lexeme.measure (c :: t) = (.literal, n) := by
  simp only [Lexeme.measure, comment?_head (openers_plain c opener).1, literal]

/-- A literal that ends in its place is one lexeme of any text that goes on with no quote. -/
theorem ofText_of_endsInPlace (wellFormed : f.IsWellFormed) (inPlace : f.EndsInPlace)
    (single : rest.head? ≠ some (.char '"')) :
    ofText (f.text ++ rest) = ⟨.literal, f.text⟩ :: ofText rest := by
  have read := literal?_of_endsInPlace wellFormed inPlace single
  obtain ⟨c, more, starts, opener⟩ := text_head wellFormed
  rw [starts] at read ⊢
  rw [List.cons_append] at read ⊢
  rw [ofText_measured (measure_of_literal opener read), ← List.cons_append, List.take_left,
    List.drop_left]

theorem tokens_text_iff (wellFormed : f.IsWellFormed) : tokens f.text = [f.text] ↔ f.EndsInPlace := by
  obtain ⟨c, more, starts, opener⟩ := text_head wellFormed
  constructor
  · intro whole
    refine Decidable.byContradiction fun inPlace => ?_
    obtain ⟨n, read, early⟩ := literal?_of_not_endsInPlace wellFormed inPlace []
    rw [List.append_nil] at read
    rw [starts] at read early whole
    rw [tokens, ofText_measured (measure_of_literal opener read)] at whole
    have first : (c :: more).take n = c :: more := (List.cons.inj whole).1
    have length := congrArg List.length first
    rw [List.length_take] at length
    omega
  · intro inPlace
    have single : List.head? ([] : Text) ≠ some (.char '"') := by simp
    have whole := ofText_of_endsInPlace wellFormed inPlace single
    rw [List.append_nil] at whole
    have nothing : ofText [] = [] := by rw [ofText]
    rw [tokens, whole, nothing]
    rfl

end Form

end BodyDigest.Braced
